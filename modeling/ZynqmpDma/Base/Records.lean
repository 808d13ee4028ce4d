import Mathlib.Data.List.Pairwise
import Mathlib.Data.Set.Function
import ZynqmpDma.Base.Bytes

namespace ZynqmpDma.Base

structure Field where
  offset : ℕ
  width : ℕ
  value : ℕ
deriving DecidableEq, Repr

def Field.Apart (f g : Field) : Prop :=
  f.offset + f.width ≤ g.offset ∨ g.offset + g.width ≤ f.offset

instance (f g : Field) : Decidable (f.Apart g) := inferInstanceAs (Decidable (_ ∨ _))

section Fields

variable {w : ℕ}

def writeFields (mem : BitVec w → BitVec 8) (a : BitVec w) (fields : List Field) :
    BitVec w → BitVec 8 :=
  fields.foldl (fun mem f => store mem (a + BitVec.ofNat w f.offset) f.width f.value) mem

theorem writeFields_cons (mem : BitVec w → BitVec 8) (base : BitVec w) (o : ℕ) (f : Field)
    (fields : List Field) :
    writeFields mem (base + BitVec.ofNat w o) (f :: fields) =
      writeFields (store mem (base + BitVec.ofNat w (o + f.offset)) f.width f.value)
        (base + BitVec.ofNat w o) fields := by
  rw [← offset_add]
  rfl

variable {base : BitVec w} {o size : ℕ} {fields : List Field}

theorem window_writeFields (mem : BitVec w → BitVec 8) {k : ℕ}
    (inside : ∀ f ∈ fields, f.offset + f.width ≤ size) (room : o + size ≤ 2 ^ w) (hk : k < 2 ^ w)
    (outside : k < o ∨ o + size ≤ k) :
    window (writeFields mem (base + BitVec.ofNat w o) fields) base k = window mem base k := by
  induction fields generalizing mem with
  | nil => rfl
  | cons f fields ih =>
    have bound := inside f List.mem_cons_self
    have miss : ¬ (o + f.offset ≤ k ∧ k < o + f.offset + f.width) := by omega
    rw [writeFields_cons, ih _ fun g member => inside g (List.mem_cons_of_mem f member),
      window_store mem base f.value (by omega) hk, if_neg miss]

theorem valueAt_writeFields_apart (mem : BitVec w → BitVec 8) {g : Field}
    (inside : ∀ f ∈ fields, f.offset + f.width ≤ size) (bound : g.offset + g.width ≤ size)
    (room : o + size ≤ 2 ^ w) (apart : ∀ f ∈ fields, g.Apart f) :
    valueAt (window (writeFields mem (base + BitVec.ofNat w o) fields) base) (o + g.offset)
        g.width =
      valueAt (window mem base) (o + g.offset) g.width := by
  induction fields generalizing mem with
  | nil => rfl
  | cons f fields ih =>
    have bound' := inside f List.mem_cons_self
    have away := apart f List.mem_cons_self
    unfold Field.Apart at away
    rw [writeFields_cons, ih _ (fun f' member => inside f' (List.mem_cons_of_mem f member))
        (fun f' member => apart f' (List.mem_cons_of_mem f member)),
      valueAt_store_disjoint mem base f.value (by omega) (by omega) (by omega)]

/-- Fields that do not overlap all hold what was written to them. -/
theorem valueAt_writeFields (mem : BitVec w → BitVec 8) {g : Field}
    (inside : ∀ f ∈ fields, f.offset + f.width ≤ size) (separate : fields.Pairwise Field.Apart)
    (room : o + size ≤ 2 ^ w) (member : g ∈ fields) :
    valueAt (window (writeFields mem (base + BitVec.ofNat w o) fields) base) (o + g.offset)
        g.width =
      g.value % 256 ^ g.width := by
  induction fields generalizing mem with
  | nil => cases member
  | cons f fields ih =>
    have bound := inside f List.mem_cons_self
    have rest := fun f' member => inside f' (List.mem_cons_of_mem f member)
    rcases List.pairwise_cons.mp separate with ⟨apart, separate⟩
    rw [writeFields_cons]
    rcases List.mem_cons.mp member with rfl | later
    · rw [valueAt_writeFields_apart _ rest bound room apart,
        valueAt_store_same mem base g.value (by omega)]
    · exact ih _ rest separate later

end Fields

structure Layout (δ : Type) where
  size : ℕ
  fields : δ → List Field
  read : (ℕ → BitVec 8) → ℕ → δ
  inside : ∀ d, ∀ f ∈ fields d, f.offset + f.width ≤ size
  separate : ∀ d, (fields d).Pairwise Field.Apart
  read_congr : ∀ {f g : ℕ → BitVec 8} {o : ℕ}, (∀ k, o ≤ k → k < o + size → f k = g k) →
    read f o = read g o
  read_fields : ∀ {f : ℕ → BitVec 8} {o : ℕ} {d : δ}, (∀ field ∈ fields d,
    valueAt f (o + field.offset) field.width = field.value % 256 ^ field.width) → read f o = d
  read_shift : ∀ (f : ℕ → BitVec 8) (o k : ℕ), read (fun i => f (o + i)) k = read f (o + k)

namespace Layout

variable {δ : Type} {w : ℕ} (layout : Layout δ) (base : BitVec w) (dstOffset : ℕ)

theorem read_write (mem : BitVec w → BitVec 8) {o : ℕ} (d : δ) (room : o + layout.size ≤ 2 ^ w) :
    layout.read (window (writeFields mem (base + BitVec.ofNat w o) (layout.fields d)) base) o = d :=
  layout.read_fields fun _ member =>
    valueAt_writeFields mem (layout.inside d) (layout.separate d) room member

theorem read_window_add (mem : BitVec w → BitVec 8) (o k : ℕ) :
    layout.read (window mem (base + BitVec.ofNat w o)) k =
      layout.read (window mem base) (o + k) := by
  rw [← layout.read_shift (window mem base) o k]
  congr 1
  funext i
  exact window_add mem base o i

theorem read_eqOn {a : BitVec w} {mem mem' : BitVec w → BitVec 8} (room : layout.size ≤ 2 ^ w)
    (same : Set.EqOn mem' mem (block a layout.size)) :
    layout.read (window mem' a) 0 = layout.read (window mem a) 0 := by
  apply layout.read_congr
  intro k _ high
  have inside : a + BitVec.ofNat w k ∈ block a layout.size := by
    rw [← block_offset_zero, mem_block_offset a (by omega) (by omega)]
    omega
  exact same inside

def writePair (src dst : ℕ → δ) (j : ℕ) (mem : BitVec w → BitVec 8) : BitVec w → BitVec 8 :=
  writeFields
    (writeFields mem (base + BitVec.ofNat w (layout.size * j)) (layout.fields (src j)))
    (base + BitVec.ofNat w (dstOffset + layout.size * j)) (layout.fields (dst j))

def writePairs (src dst : ℕ → δ) : ℕ → (BitVec w → BitVec 8) → BitVec w → BitVec 8
  | 0, mem => mem
  | n + 1, mem => layout.writePair base dstOffset src dst n (writePairs src dst n mem)

/-- The first `n` slots of the two tables hold these records, and nothing else changed. -/
structure Holds (src dst : ℕ → δ) (mem mem' : BitVec w → BitVec 8) (n : ℕ) : Prop where
  srcSlot : ∀ j < n, layout.read (window mem' base) (layout.size * j) = src j
  dstSlot : ∀ j < n, layout.read (window mem' base) (dstOffset + layout.size * j) = dst j
  frame : ∀ k < 2 ^ w, layout.size * n ≤ k →
    (k < dstOffset ∨ dstOffset + layout.size * n ≤ k) → window mem' base k = window mem base k

variable {layout base dstOffset} {src dst : ℕ → δ} {mem mem' : BitVec w → BitVec 8} {n : ℕ}

theorem writePair_outside (mem : BitVec w → BitVec 8) {k : ℕ}
    (room : dstOffset + layout.size * n + layout.size ≤ 2 ^ w) (hk : k < 2 ^ w)
    (outSrc : k < layout.size * n ∨ layout.size * n + layout.size ≤ k)
    (outDst : k < dstOffset + layout.size * n ∨ dstOffset + layout.size * n + layout.size ≤ k) :
    window (layout.writePair base dstOffset src dst n mem) base k = window mem base k := by
  rw [writePair, window_writeFields _ (layout.inside _) room hk outDst,
    window_writeFields _ (layout.inside _) (by omega) hk outSrc]

theorem Holds.next (holds : layout.Holds base dstOffset src dst mem mem' n)
    (apart : layout.size * n + layout.size ≤ dstOffset)
    (room : dstOffset + layout.size * n + layout.size ≤ 2 ^ w) :
    layout.Holds base dstOffset src dst mem (layout.writePair base dstOffset src dst n mem')
      (n + 1) := by
  have earlier {j : ℕ} (old : j < n) : layout.size * j + layout.size ≤ layout.size * n :=
    slot_le _ old
  constructor
  · intro j hj
    by_cases now : j = n
    · subst now
      rw [← layout.read_write base mem' (src j) (o := layout.size * j) (by omega)]
      apply layout.read_congr
      intro k low high
      rw [writePair, window_writeFields _ (layout.inside _) room (by omega) (by omega)]
    · have slot := earlier (show j < n by omega)
      rw [← holds.srcSlot j (by omega)]
      apply layout.read_congr
      intro k low high
      exact writePair_outside mem' room (by omega) (by omega) (by omega)
  · intro j hj
    by_cases now : j = n
    · subst now
      exact layout.read_write base _ (dst j) room
    · have slot := earlier (show j < n by omega)
      rw [← holds.dstSlot j (by omega)]
      apply layout.read_congr
      intro k low high
      exact writePair_outside mem' room (by omega) (by omega) (by omega)
  · intro k hk low out
    rw [Nat.mul_succ] at low out
    rw [writePair_outside mem' room hk (by omega) (by omega),
      holds.frame k hk (by omega) (by omega)]

theorem holds_writePairs (mem : BitVec w → BitVec 8) (apart : layout.size * n ≤ dstOffset)
    (room : dstOffset + layout.size * n ≤ 2 ^ w) :
    layout.Holds base dstOffset src dst mem (layout.writePairs base dstOffset src dst n mem) n := by
  induction n with
  | zero =>
    constructor
    · intro j none
      omega
    · intro j none
      omega
    · intro k _ _ _
      rfl
  | succ n ih =>
    rw [Nat.mul_succ] at apart room
    exact (ih (by omega) (by omega)).next (by omega) (by omega)

end Layout

end ZynqmpDma.Base
