import Mathlib.Data.Set.Function
import ZynqmpDma.Base.Bytes

namespace ZynqmpDma.Base

/-- `length` places that have one address from `near` on in the one address space and one from
    `far` on in the other. -/
structure Alias (v w : ℕ) where
  near : BitVec v
  far : BitVec w
  length : ℕ
deriving DecidableEq, Repr

namespace Alias

variable {v w : ℕ} {β : Type}

def flip (a : Alias v w) : Alias w v := ⟨a.far, a.near, a.length⟩

def Agrees (a : Alias v w) (mem : BitVec v → β) (bus : BitVec w → β) : Prop :=
  ∀ k < a.length, bus (a.far + BitVec.ofNat w k) = mem (a.near + BitVec.ofNat v k)

def carry (a : Alias v w) (mem : BitVec v → β) (bus : BitVec w → β) : BitVec w → β := fun x =>
  if (x - a.far).toNat < a.length then mem (a.near + BitVec.ofNat v (x - a.far).toNat) else bus x

variable {a : Alias v w} {mem mem' : BitVec v → β} {bus bus' : BitVec w → β}

theorem Agrees.flip (agrees : a.Agrees mem bus) : a.flip.Agrees bus mem :=
  fun k hk => (agrees k hk).symm

theorem carry_of_not_mem {x : BitVec w} (other : x ∉ block a.far a.length) :
    a.carry mem bus x = bus x := if_neg other

variable (mem bus) in
theorem carry_agrees (room : a.length ≤ 2 ^ w) : a.Agrees mem (a.carry mem bus) := by
  intro k hk
  have place : (a.far + BitVec.ofNat w k - a.far).toNat = k := by
    have start := offset_sub a.far (Nat.zero_le k) (by omega)
    rwa [BitVec.add_zero, Nat.sub_zero] at start
  rw [carry, place, if_pos hk]

theorem carry_eq (agrees : a.Agrees mem bus) : a.carry mem bus = bus := by
  funext x
  by_cases inside : (x - a.far).toNat < a.length
  · have place : a.far + BitVec.ofNat w (x - a.far).toNat = x := by
      rw [BitVec.ofNat_toNat, BitVec.setWidth_eq, BitVec.add_comm, BitVec.sub_add_cancel]
    rw [carry, if_pos inside, ← agrees _ inside, place]
  · rw [carry, if_neg inside]

theorem offset_mem (start : BitVec v) {k length : ℕ} (hk : k < length) (room : length ≤ 2 ^ v) :
    start + BitVec.ofNat v k ∈ block start length := by
  rw [← block_offset_zero, mem_block_offset start (by omega) (by omega)]
  omega

theorem exists_place {start x : BitVec v} {length : ℕ} (member : x ∈ block start length) :
    ∃ k < length, x = start + BitVec.ofNat v k := by
  refine ⟨(x - start).toNat, member, ?_⟩
  rw [BitVec.ofNat_toNat, BitVec.setWidth_eq, BitVec.add_comm, BitVec.sub_add_cancel]

theorem offset_inj (start : BitVec v) {j k : ℕ} (hj : j < 2 ^ v) (hk : k < 2 ^ v) :
    start + BitVec.ofNat v j = start + BitVec.ofNat v k ↔ j = k := by
  rw [BitVec.add_right_inj]
  constructor
  · intro same
    have values := congrArg BitVec.toNat same
    rwa [BitVec.toNat_ofNat, BitVec.toNat_ofNat, Nat.mod_eq_of_lt hj, Nat.mod_eq_of_lt hk] at values
  · rintro rfl
    rfl

theorem Agrees.congr (agrees : a.Agrees mem bus) (room : a.length ≤ 2 ^ v)
    (room' : a.length ≤ 2 ^ w) (same : Set.EqOn mem' mem (block a.near a.length))
    (same' : Set.EqOn bus' bus (block a.far a.length)) : a.Agrees mem' bus' := by
  intro k hk
  rw [same (offset_mem a.near hk room), same' (offset_mem a.far hk room')]
  exact agrees k hk

theorem Agrees.carry {b : Alias v w} (agrees : b.Agrees mem bus) (room : b.length ≤ 2 ^ v)
    (room' : b.length ≤ 2 ^ w)
    (apart : Disjoint (block a.far a.length) (block b.far b.length)) :
    b.Agrees mem (a.carry mem bus) :=
  agrees.congr room room' (Set.eqOn_refl _ _) fun _ member =>
    carry_of_not_mem (Set.disjoint_right.mp apart member)

end Alias

end ZynqmpDma.Base
