import Mathlib.Data.BitVec
import Mathlib.Data.List.Pairwise

namespace ZynqmpDma.Base

/-- A field of a register: the bits of `mask`, the lowest of which is bit `shift`. -/
structure BitField (w : ℕ) where
  mask : BitVec w
  shift : ℕ
deriving DecidableEq, Repr

namespace BitField

variable {w : ℕ} (f : BitField w)

def get (v : BitVec w) : BitVec w := (v &&& f.mask) >>> f.shift

def bits (x : BitVec w) : BitVec w := (x <<< f.shift) &&& f.mask

def limit : BitVec w := f.mask >>> f.shift

def Apart (f g : BitField w) : Prop := f.mask &&& g.mask = 0#w

instance (f g : BitField w) : Decidable (Apart f g) := inferInstanceAs (Decidable (_ = _))

variable {f} {g : BitField w} {v x m : BitVec w}

theorem Apart.symm (apart : Apart f g) : Apart g f := by
  rw [Apart, BitVec.and_comm]
  exact apart

theorem get_or (a b : BitVec w) : f.get (a ||| b) = f.get a ||| f.get b := by
  rw [get, BitVec.and_or_distrib_right, BitVec.ushiftRight_or_distrib]
  rfl

theorem get_zero : f.get 0#w = 0#w := by
  rw [get, BitVec.zero_and, BitVec.zero_ushiftRight]

theorem get_keep (apart : m &&& f.mask = 0#w) : f.get (v &&& ~~~m) = f.get v := by
  have uncleared : ~~~m &&& f.mask = f.mask := by
    have kept : ∀ a b : Bool, (a && b) = false → (!a && b) = b := by decide
    ext i inside
    rw [BitVec.getElem_and, BitVec.getElem_not]
    apply kept
    rw [← BitVec.getElem_and, apart, BitVec.getElem_zero]
  rw [get, BitVec.and_assoc, uncleared, get]

theorem get_clear (covers : f.mask &&& m = f.mask) : f.get (v &&& ~~~m) = 0#w := by
  have cleared : ~~~m &&& f.mask = 0#w := by
    have gone : ∀ a b : Bool, (b && a) = b → (!a && b) = false := by decide
    ext i inside
    rw [BitVec.getElem_and, BitVec.getElem_not, BitVec.getElem_zero]
    apply gone
    rw [← BitVec.getElem_and, covers]
  rw [get, BitVec.and_assoc, cleared, BitVec.and_zero, BitVec.zero_ushiftRight]

theorem get_apart (apart : m &&& f.mask = 0#w) (x : BitVec w) : f.get (x &&& m) = 0#w := by
  rw [get, BitVec.and_assoc, apart, BitVec.and_zero, BitVec.zero_ushiftRight]

theorem get_bits_apart (apart : Apart g f) : f.get (g.bits x) = 0#w := get_apart apart _

/-- What is put into a field and too large for it is cut off. -/
theorem get_bits : f.get (f.bits x) = x &&& f.limit := by
  rw [get, bits, BitVec.and_assoc, BitVec.and_self, BitVec.ushiftRight_and_distrib]
  ext i inside
  simp only [BitVec.getElem_and, BitVec.getElem_ushiftRight, limit]
  by_cases room : f.shift + i < w
  · rw [BitVec.getLsbD_shiftLeft, Nat.add_sub_cancel_left, BitVec.getLsbD_eq_getElem inside]
    simp only [room, decide_true, Nat.not_lt.mpr (Nat.le_add_right _ _), decide_false,
      Bool.not_false, Bool.true_and]
  · rw [BitVec.getLsbD_of_ge f.mask _ (by omega), Bool.and_false, Bool.and_false]

end BitField

section Pack

variable {w : ℕ}

abbrev BitFields (w : ℕ) := List (BitField w × BitVec w)

namespace BitFields

def pack : BitFields w → BitVec w
  | [] => 0#w
  | (f, x) :: rest => f.bits x ||| pack rest

def mask : BitFields w → BitVec w
  | [] => 0#w
  | (f, _) :: rest => f.mask ||| mask rest

def set (fields : BitFields w) (v : BitVec w) : BitVec w := v &&& ~~~fields.mask ||| fields.pack

variable {fields : BitFields w} {f : BitField w} {x v : BitVec w}

theorem get_pack_apart (apart : ∀ entry ∈ fields, BitField.Apart entry.1 f) :
    f.get fields.pack = 0#w := by
  induction fields with
  | nil => exact BitField.get_zero
  | cons entry rest ih =>
    have first := BitField.get_bits_apart (x := entry.2) (apart entry List.mem_cons_self)
    have later := ih fun entry' member => apart entry' (List.mem_cons_of_mem entry member)
    rw [pack, BitField.get_or, first, later, BitVec.or_self]

theorem get_pack (apart : fields.Pairwise fun entry entry' => BitField.Apart entry.1 entry'.1)
    (member : (f, x) ∈ fields) : f.get fields.pack = x &&& f.limit := by
  induction fields with
  | nil => cases member
  | cons entry rest ih =>
    obtain ⟨first, later⟩ := List.pairwise_cons.mp apart
    rw [pack, BitField.get_or]
    rcases List.mem_cons.mp member with rfl | listed
    · rw [BitField.get_bits, get_pack_apart fun entry' member' => (first entry' member').symm,
        BitVec.or_zero]
    · rw [BitField.get_bits_apart (first (f, x) listed), ih later listed, BitVec.zero_or]

theorem mask_covers (member : (f, x) ∈ fields) : f.mask &&& fields.mask = f.mask := by
  have absorbed : ∀ a b : Bool, (a && (a || b)) = a := by decide
  have kept : ∀ a b c : Bool, (a && c) = a → (a && (b || c)) = a := by decide
  induction fields with
  | nil => cases member
  | cons entry rest ih =>
    ext i inside
    rw [mask, BitVec.getElem_and, BitVec.getElem_or]
    rcases List.mem_cons.mp member with rfl | listed
    · exact absorbed _ _
    · apply kept
      rw [← BitVec.getElem_and, ih listed]

/-- A register that is set is read back as what was set, as far as it fits the field. -/
theorem get_set (apart : fields.Pairwise fun entry entry' => BitField.Apart entry.1 entry'.1)
    (member : (f, x) ∈ fields) : f.get (fields.set v) = x &&& f.limit := by
  rw [set, BitField.get_or, BitField.get_clear (mask_covers member), get_pack apart member,
    BitVec.zero_or]

end BitFields

end Pack

end ZynqmpDma.Base
