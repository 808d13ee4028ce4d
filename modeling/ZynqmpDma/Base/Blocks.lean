import Mathlib.Data.Set.BooleanAlgebra
import Mathlib.Order.Bounds.Defs
import Mathlib.Order.CompletePartialOrder
import Mathlib.Tactic.Ring

namespace ZynqmpDma.Base

section Blocks

variable {w : ℕ}

/-- The `length` addresses from `a` on; addresses wrap. -/
def block (a : BitVec w) (length : ℕ) : Set (BitVec w) := {x | (x - a).toNat < length}

theorem offset_add (base : BitVec w) (o k : ℕ) :
    base + BitVec.ofNat w o + BitVec.ofNat w k = base + BitVec.ofNat w (o + k) := by
  rw [BitVec.add_assoc, BitVec.ofNat_add]

theorem offset_sub (base : BitVec w) {o k : ℕ} (ho : o ≤ k) (hk : k < 2 ^ w) :
    (base + BitVec.ofNat w k - (base + BitVec.ofNat w o)).toNat = k - o := by
  have cancel : base + BitVec.ofNat w k - (base + BitVec.ofNat w o) = BitVec.ofNat w (k - o) := by
    have split : BitVec.ofNat w k = BitVec.ofNat w o + BitVec.ofNat w (k - o) := by
      rw [← BitVec.ofNat_add, Nat.add_sub_cancel' ho]
    rw [split, ← BitVec.add_assoc, BitVec.add_comm, BitVec.add_sub_cancel]
  rw [cancel, BitVec.toNat_ofNat, Nat.mod_eq_of_lt (by omega)]

theorem offset_sub_wraps (base : BitVec w) {o k : ℕ} (ho : k < o) (bound : o < 2 ^ w) :
    (base + BitVec.ofNat w k - (base + BitVec.ofNat w o)).toNat = 2 ^ w - (o - k) := by
  have forward := offset_sub base (Nat.le_of_lt ho) bound
  have back : base + BitVec.ofNat w k - (base + BitVec.ofNat w o) =
      -(base + BitVec.ofNat w o - (base + BitVec.ofNat w k)) := by
    rw [BitVec.neg_sub, BitVec.sub_eq_add_neg]
    exact BitVec.add_comm _ _
  rw [back, BitVec.toNat_neg, forward, Nat.mod_eq_of_lt (by omega)]

theorem exists_offset (base x : BitVec w) : ∃ k < 2 ^ w, x = base + BitVec.ofNat w k := by
  refine ⟨(x - base).toNat, (x - base).isLt, ?_⟩
  rw [BitVec.ofNat_toNat, BitVec.setWidth_eq, BitVec.add_comm, BitVec.sub_add_cancel]

theorem mem_block_offset (base : BitVec w) {o k length : ℕ} (room : o + length ≤ 2 ^ w)
    (hk : k < 2 ^ w) :
    base + BitVec.ofNat w k ∈ block (base + BitVec.ofNat w o) length ↔ o ≤ k ∧ k < o + length := by
  simp only [block, Set.mem_ofPred_eq]
  by_cases below : o ≤ k
  · rw [offset_sub base below hk]
    omega
  · by_cases empty : length = 0
    · omega
    · rw [offset_sub_wraps base (by omega) (by omega)]
      omega

theorem block_offset_zero (base : BitVec w) (length : ℕ) :
    block (base + BitVec.ofNat w 0) length = block base length := by
  rw [BitVec.add_zero]

theorem block_offset_subset (base : BitVec w) {o o' n n' : ℕ} (low : o' ≤ o)
    (high : o + n ≤ o' + n') (room : o' + n' ≤ 2 ^ w) :
    block (base + BitVec.ofNat w o) n ⊆ block (base + BitVec.ofNat w o') n' := by
  intro x member
  obtain ⟨k, hk, rfl⟩ := exists_offset base x
  rw [mem_block_offset base (by omega) hk] at member
  rw [mem_block_offset base room hk]
  omega

theorem block_offset_disjoint (base : BitVec w) {o o' n n' : ℕ} (room : o + n ≤ 2 ^ w)
    (room' : o' + n' ≤ 2 ^ w) (apart : o + n ≤ o' ∨ o' + n' ≤ o) :
    Disjoint (block (base + BitVec.ofNat w o) n) (block (base + BitVec.ofNat w o') n') := by
  rw [Set.disjoint_left]
  intro x member member'
  obtain ⟨k, hk, rfl⟩ := exists_offset base x
  rw [mem_block_offset base room hk] at member
  rw [mem_block_offset base room' hk] at member'
  omega

theorem offset_toNat {base : BitVec w} {o : ℕ} (room : base.toNat + o < 2 ^ w) :
    (base + BitVec.ofNat w o).toNat = base.toNat + o := by
  rw [BitVec.toNat_add, BitVec.toNat_ofNat, Nat.add_mod_mod, Nat.mod_eq_of_lt room]

theorem mem_block {a x : BitVec w} {length : ℕ} (room : a.toNat + length ≤ 2 ^ w)
    (member : x ∈ block a length) : a.toNat ≤ x.toNat ∧ x.toNat < a.toNat + length := by
  obtain ⟨k, hk, rfl⟩ := exists_offset a x
  rw [← block_offset_zero, mem_block_offset a (by omega) hk] at member
  rw [offset_toNat (by omega)]
  omega

theorem block_disjoint {a b : BitVec w} {m n : ℕ} (room : a.toNat + m ≤ 2 ^ w)
    (room' : b.toNat + n ≤ 2 ^ w)
    (apart : a.toNat + m ≤ b.toNat ∨ b.toNat + n ≤ a.toNat) :
    Disjoint (block a m) (block b n) := by
  rw [Set.disjoint_left]
  intro x member member'
  have place := mem_block room member
  have place' := mem_block room' member'
  omega

end Blocks

section Slots

def pairCount (length size : ℕ) : ℕ := length / 2 / size

variable {length size : ℕ}

theorem le_pairCount (positive : 0 < size) {count : ℕ} :
    count ≤ pairCount length size ↔ 2 * (size * count) ≤ length := by
  unfold pairCount
  rw [Nat.le_div_iff_mul_le positive, Nat.le_div_iff_mul_le (by decide)]
  constructor
  · intro le
    calc 2 * (size * count) = count * size * 2 := by ring
      _ ≤ length := le
  · intro le
    calc count * size * 2 = 2 * (size * count) := by ring
      _ ≤ length := le

theorem pairCount_isGreatest (positive : 0 < size) :
    IsGreatest {count | 2 * (size * count) ≤ length} (pairCount length size) :=
  ⟨(le_pairCount positive).mp le_rfl, fun _ fits => (le_pairCount positive).mpr fits⟩

theorem slot_le (size : ℕ) {i count : ℕ} (bound : i < count) : size * i + size ≤ size * count := by
  have next := Nat.mul_le_mul_left size (Nat.succ_le_of_lt bound)
  rwa [Nat.mul_succ] at next

theorem exists_slot {k count : ℕ} (bound : k < size * count) :
    ∃ i < count, size * i ≤ k ∧ k < size * i + size := by
  have positive : 0 < size := Nat.pos_of_mul_pos_right (Nat.zero_lt_of_lt bound)
  refine ⟨k / size, Nat.div_lt_of_lt_mul bound, Nat.mul_div_le k size, ?_⟩
  rw [← Nat.mul_succ]
  exact Nat.lt_mul_div_succ k positive

theorem slots_apart (size : ℕ) {i j : ℕ} (other : i ≠ j) :
    size * i + size ≤ size * j ∨ size * j + size ≤ size * i := by
  rcases Nat.lt_or_gt_of_ne other with lt | gt
  · exact .inl (slot_le size lt)
  · exact .inr (slot_le size gt)

end Slots

end ZynqmpDma.Base
