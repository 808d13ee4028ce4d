import Mathlib.Data.Nat.ModEq
import Mathlib.Logic.Function.Basic
import ZynqmpDma.Base.Blocks

namespace ZynqmpDma.Base

def byteOf (value i : ℕ) : BitVec 8 := BitVec.ofNat 8 (value / 256 ^ i)

def bytesValue (f : ℕ → BitVec 8) : ℕ → ℕ
  | 0 => 0
  | width + 1 => bytesValue f width + 256 ^ width * (f width).toNat

theorem bytesValue_congr {f g : ℕ → BitVec 8} {width : ℕ} (same : ∀ i < width, f i = g i) :
    bytesValue f width = bytesValue g width := by
  induction width with
  | zero => rfl
  | succ width ih =>
    simp only [bytesValue]
    rw [ih (fun i hi => same i (by omega)), same width (by omega)]

theorem bytesValue_byteOf (value width : ℕ) :
    bytesValue (byteOf value) width = value % 256 ^ width := by
  induction width with
  | zero => simp only [bytesValue, Nat.pow_zero, Nat.mod_one]
  | succ width ih =>
    have digit : (byteOf value width).toNat = value / 256 ^ width % 256 := by
      simp only [byteOf, BitVec.toNat_ofNat, Nat.reducePow]
    simp only [bytesValue]
    rw [ih, digit, Nat.pow_succ, Nat.mod_mul]

section Memory

variable {w : ℕ}

/-- A memory after `width` bytes of `value` are stored from address `a` on; addresses wrap. -/
def store (mem : BitVec w → BitVec 8) (a : BitVec w) (width value : ℕ) : BitVec w → BitVec 8 :=
  fun x => if (x - a).toNat < width then byteOf value (x - a).toNat else mem x

theorem store_byte (mem : BitVec w → BitVec 8) (a : BitVec w) (value : BitVec 8) :
    store mem a 1 value.toNat = Function.update mem a value := by
  funext x
  by_cases here : x = a
  · have byte : byteOf value.toNat 0 = value := by
      rw [byteOf, Nat.pow_zero, Nat.div_one, BitVec.ofNat_toNat, BitVec.setWidth_eq]
    subst here
    rw [store, BitVec.sub_self, Function.update_self]
    exact byte
  · have outside : ¬ (x - a).toNat < 1 := by
      intro one
      have zero : x - a = 0#w := by
        apply BitVec.eq_of_toNat_eq
        rw [BitVec.toNat_ofNat, Nat.zero_mod]
        omega
      apply here
      rw [← BitVec.sub_add_cancel x a, zero, BitVec.zero_add]
    rw [store, if_neg outside, Function.update_of_ne here]

def window (mem : BitVec w → BitVec 8) (base : BitVec w) : ℕ → BitVec 8 :=
  fun k => mem (base + BitVec.ofNat w k)

def valueAt (f : ℕ → BitVec 8) (o width : ℕ) : ℕ := bytesValue (fun i => f (o + i)) width

theorem window_add (mem : BitVec w → BitVec 8) (base : BitVec w) (o k : ℕ) :
    window mem (base + BitVec.ofNat w o) k = window mem base (o + k) := by
  unfold window
  rw [offset_add]

theorem window_store (mem : BitVec w → BitVec 8) (base : BitVec w) {o k width : ℕ} (value : ℕ)
    (room : o + width ≤ 2 ^ w) (hk : k < 2 ^ w) :
    window (store mem (base + BitVec.ofNat w o) width value) base k =
      if o ≤ k ∧ k < o + width then byteOf value (k - o) else window mem base k := by
  have place := mem_block_offset base room hk
  by_cases inside : o ≤ k ∧ k < o + width
  · have hit : (base + BitVec.ofNat w k - (base + BitVec.ofNat w o)).toNat < width :=
      place.mpr inside
    rw [if_pos inside, window, store, if_pos hit, offset_sub base inside.1 hk]
  · have miss : ¬ (base + BitVec.ofNat w k - (base + BitVec.ofNat w o)).toNat < width :=
      mt place.mp inside
    rw [if_neg inside, window, store, if_neg miss, window]

theorem valueAt_congr {f g : ℕ → BitVec 8} {o width : ℕ}
    (same : ∀ k, o ≤ k → k < o + width → f k = g k) : valueAt f o width = valueAt g o width :=
  bytesValue_congr fun i hi => same (o + i) (by omega) (by omega)

theorem valueAt_store_same (mem : BitVec w → BitVec 8) (base : BitVec w) {o width : ℕ}
    (value : ℕ) (room : o + width ≤ 2 ^ w) :
    valueAt (window (store mem (base + BitVec.ofNat w o) width value) base) o width =
      value % 256 ^ width := by
  rw [← bytesValue_byteOf]
  apply bytesValue_congr
  intro i hi
  have inside : o ≤ o + i ∧ o + i < o + width := by omega
  rw [window_store mem base value room (by omega), if_pos inside, Nat.add_sub_cancel_left]

theorem valueAt_store_disjoint (mem : BitVec w → BitVec 8) (base : BitVec w) {o o' width width' : ℕ}
    (value : ℕ) (room : o + width ≤ 2 ^ w) (room' : o' + width' ≤ 2 ^ w)
    (apart : o' + width' ≤ o ∨ o + width ≤ o') :
    valueAt (window (store mem (base + BitVec.ofNat w o) width value) base) o' width' =
      valueAt (window mem base) o' width' := by
  apply valueAt_congr
  intro k low high
  have outside : ¬ (o ≤ k ∧ k < o + width) := by omega
  rw [window_store mem base value room (by omega), if_neg outside]

end Memory

theorem toNat_and_lowMask {w : ℕ} (x : BitVec w) {k : ℕ} (le : k ≤ w) :
    (x &&& BitVec.ofNat w (2 ^ k - 1)).toNat = x.toNat % 2 ^ k := by
  have small : 2 ^ k - 1 < 2 ^ w := by
    have := Nat.pow_le_pow_right (show 0 < 2 by decide) le
    have := Nat.two_pow_pos k
    omega
  rw [BitVec.toNat_and, BitVec.toNat_ofNat, Nat.mod_eq_of_lt small, Nat.and_two_pow_sub_one_eq_mod]

end ZynqmpDma.Base
