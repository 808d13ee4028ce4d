import ZynqmpDma.XZDma.Tables

namespace ZynqmpDma

open Base

namespace XZDma

structure LiDscr where
  address : BitVec 64
  size : BitVec 32
  cntl : BitVec 32
deriving DecidableEq, Repr

def liDscrAt (f : ℕ → BitVec 8) (o : ℕ) : LiDscr where
  address := BitVec.ofNat 64 (valueAt f o 8)
  size := BitVec.ofNat 32 (valueAt f (o + 8) 4)
  cntl := BitVec.ofNat 32 (valueAt f (o + 12) 4)

theorem liDscrAt_congr {f g : ℕ → BitVec 8} {o : ℕ}
    (same : ∀ k, o ≤ k → k < o + 16 → f k = g k) : liDscrAt f o = liDscrAt g o := by
  have address : valueAt f o 8 = valueAt g o 8 :=
    valueAt_congr fun k low high => same k low (by omega)
  have size : valueAt f (o + 8) 4 = valueAt g (o + 8) 4 :=
    valueAt_congr fun k low high => same k (by omega) (by omega)
  have cntl : valueAt f (o + 12) 4 = valueAt g (o + 12) 4 :=
    valueAt_congr fun k low high => same k (by omega) (by omega)
  simp only [liDscrAt, address, size, cntl]

theorem liDscrAt_window_add (mem : BitVec 64 → BitVec 8) (base : BitVec 64) (o k : ℕ) :
    liDscrAt (window mem (base + BitVec.ofNat 64 o)) k = liDscrAt (window mem base) (o + k) := by
  simp only [liDscrAt, valueAt, window_add, Nat.add_assoc]

def liLayout : Layout LiDscr where
  size := 16
  fields d := [⟨0, 8, d.address.toNat⟩, ⟨8, 4, d.size.toNat⟩, ⟨12, 4, d.cntl.toNat⟩]
  read := liDscrAt
  inside := by simp
  separate := by simp [Field.Apart]
  read_congr := liDscrAt_congr
  read_fields := by
    intro f o d fields
    have address := d.address.isLt
    have size := d.size.isLt
    have cntl := d.cntl.isLt
    simp only [List.forall_mem_cons, List.not_mem_nil, false_implies, implies_true, and_true,
      Nat.add_zero] at fields
    rcases fields with ⟨address', size', cntl'⟩
    rw [Nat.mod_eq_of_lt (by omega)] at address' size' cntl'
    simp only [liDscrAt, address', size', cntl', BitVec.ofNat_toNat, BitVec.setWidth_eq]
  read_shift f o k := by simp only [liDscrAt, valueAt, Nat.add_assoc]

end XZDma

open XZDma

def System.srcDscr (s : System) (j : ℕ) : LiDscr :=
  liDscrAt (window s.machine.mem s.dma.descriptor.srcDscrPtr) (16 * j)

def System.dstDscr (s : System) (j : ℕ) : LiDscr :=
  liDscrAt (window s.machine.mem s.dma.descriptor.dstDscrPtr) (16 * j)

def System.putLi (s : System) (ptr : BitVec 64) (d : LiDscr) : System :=
  ((s.store ptr 8 d.address.toNat).store (ptr + 8) 4 d.size.toNat).store (ptr + 12) 4 d.cntl.toNat

theorem System.putLi_eq (s : System) (ptr : BitVec 64) (d : LiDscr) :
    s.putLi ptr d = s.putFields ptr (liLayout.fields d) := by
  have start : ptr + BitVec.ofNat 64 0 = ptr := BitVec.add_zero ptr
  simp only [putLi, putFields, liLayout, List.foldl_cons, List.foldl_nil, start]
  rfl

namespace XZDma

theorem configLinear_run (env : Env) (dscrPtr addr : BitVec 64) (size ctrlValue : BitVec 32)
    (s : System) (pointer : Passes env (dscrPtr ≠ 0)) (address : Passes env (addr ≠ 0)) :
    configLinear env dscrPtr addr size ctrlValue s =
      .ok () (s.putLi dscrPtr ⟨addr, size &&& word2SizeMask, ctrlValue⟩) := by
  unfold configLinear
  rw [xilAssert_passes _ _ pointer, xilAssert_passes _ _ address]
  rfl

def srcLiDscr (data : Transfer) (isLast : Bool) : LiDscr where
  address := data.srcAddr
  size := data.size &&& word2SizeMask
  cntl := srcCtrlValue data isLast

def dstLiDscr (data : Transfer) : LiDscr where
  address := data.dstAddr
  size := data.size &&& word2SizeMask
  cntl := dstCtrlValue data

theorem linearMode_run (env : Env) (data : Transfer) (src dst : BitVec 64) (isLast : Bool)
    (s : System) (srcPointer : Passes env (src ≠ 0)) (dstPointer : Passes env (dst ≠ 0))
    (srcAddress : Passes env (data.srcAddr ≠ 0)) (dstAddress : Passes env (data.dstAddr ≠ 0)) :
    linearMode env data src dst isLast s =
      .ok () ((s.putLi src (srcLiDscr data isLast)).putLi dst (dstLiDscr data)) := by
  unfold linearMode
  rw [xilAssert_passes _ _ srcPointer, xilAssert_passes _ _ dstPointer,
    bind_ok _ (configLinear_run env src _ _ _ s srcPointer srcAddress),
    configLinear_run env dst _ _ _ _ dstPointer dstAddress]
  rfl

theorem configLinear_returned {env : Env} {dscrPtr addr : BitVec 64} {size ctrlValue : BitVec 32}
    {s s' : System} (wait : env.asserts = .waiting)
    (run : configLinear env dscrPtr addr size ctrlValue s = .ok () s') : addr ≠ 0 :=
  (xilAssert_returned wait (xilAssert_returned wait run).2).1

theorem linearMode_returned {env : Env} {data : Transfer} {src dst : BitVec 64} {isLast : Bool}
    {s s' : System} (wait : env.asserts = .waiting)
    (run : linearMode env data src dst isLast s = .ok () s') :
    data.srcAddr ≠ 0 ∧ data.dstAddr ≠ 0 := by
  have body := (xilAssert_returned wait (xilAssert_returned wait run).2).2
  obtain ⟨_, t, first, second⟩ := bind_ok_inv body
  exact ⟨configLinear_returned wait first, configLinear_returned wait second⟩

section Tables

variable (base : BitVec 64) (dstOffset : ℕ) (src dst : ℕ → LiDscr)

def InSlots (n : ℕ) (e : Event) : Prop :=
  ∃ o width, e = .store (base + BitVec.ofNat 64 o) width ∧
    (o + width ≤ 16 * n ∨ (dstOffset ≤ o ∧ o + width ≤ dstOffset + 16 * n))

structure TablesFilled (s s' : System) (n : ℕ) : Prop where
  dma : s'.dma = s.dma
  process : s'.process = s.process
  io : s'.machine.io = s.machine.io
  srcSlot : ∀ j < n, liDscrAt (window s'.machine.mem base) (16 * j) = src j
  dstSlot : ∀ j < n, liDscrAt (window s'.machine.mem base) (dstOffset + 16 * j) = dst j
  frame : ∀ k < 2 ^ 64, 16 * n ≤ k → (k < dstOffset ∨ dstOffset + 16 * n ≤ k) →
    window s'.machine.mem base k = window s.machine.mem base k
  log : ∃ new, s'.machine.log = new ++ s.machine.log ∧ ∀ e ∈ new, InSlots base dstOffset n e
  written : ∀ j < n, .store (base + BitVec.ofNat 64 (dstOffset + 16 * j + 12)) 4 ∈ s'.machine.log

variable {base dstOffset src dst}

theorem TablesFilled.of_filled {s s' : System} {n : ℕ}
    (filled : Filled liLayout base dstOffset src dst s s' n) :
    TablesFilled base dstOffset src dst s s' n := by
  refine ⟨filled.dma, filled.process, filled.io, filled.holds.srcSlot, filled.holds.dstSlot,
    filled.holds.frame, ⟨_, filled.log, ?_⟩, ?_⟩
  · intro e member
    obtain ⟨j, hj, slot⟩ := mem_slotStores.mp (List.mem_reverse.mp member)
    rcases slot with ⟨f, field, rfl⟩ | ⟨f, field, rfl⟩
    · have bound := liLayout.inside _ f field
      simp only [liLayout] at bound
      exact ⟨_, _, rfl, by simp only [liLayout]; omega⟩
    · have bound := liLayout.inside _ f field
      simp only [liLayout] at bound
      exact ⟨_, _, rfl, by simp only [liLayout]; omega⟩
  · intro j hj
    have control : .store (base + BitVec.ofNat 64 (dstOffset + 16 * j + 12)) 4 ∈
        slotStores liLayout base dstOffset src dst n :=
      mem_slotStores.mpr ⟨j, hj, .inr ⟨⟨12, 4, (dst j).cntl.toNat⟩, by simp [liLayout], rfl⟩⟩
    rw [filled.log]
    exact List.mem_append_left _ (List.mem_reverse.mpr control)

end Tables

/-- No assertion diverts the writing of the first `n` slots of two tables. -/
structure SlotsPass (env : Env) (base : BitVec 64) (dstOffset stride n : ℕ)
    (data : ℕ → Transfer) : Prop where
  srcPointer : ∀ j < n, Passes env (base + BitVec.ofNat 64 (stride * j) ≠ 0)
  dstPointer : ∀ j < n, Passes env (base + BitVec.ofNat 64 (dstOffset + stride * j) ≠ 0)
  addresses : ∀ j < n, Passes env ((data j).srcAddr ≠ 0) ∧ Passes env ((data j).dstAddr ≠ 0)

theorem writeDescriptors_linear_fills (env : Env) (dscr : Descriptor) (data : ℕ → Transfer)
    (num : BitVec 32) (base : BitVec 64) (dstOffset : ℕ) (s : System)
    (linear : dscr.dscrType = .linear) (srcTable : dscr.srcDscrPtr = base)
    (dstTable : dscr.dstDscrPtr = base + BitVec.ofNat 64 dstOffset) (nonempty : num ≠ 0)
    (apart : 16 * num.toNat ≤ dstOffset) (room : dstOffset + 16 * num.toNat ≤ 2 ^ 64)
    (pass : SlotsPass env base dstOffset 16 num.toNat data) :
    ∃ s', writeDescriptors env dscr data num s = .ok () s' ∧
      Filled liLayout base dstOffset
        (fun j => srcLiDscr (data j) (decide (j + 1 = num.toNat)))
        (fun j => dstLiDscr (data j)) s s' num.toNat := by
  have stride : (16 : BitVec 64) = BitVec.ofNat 64 liLayout.size := rfl
  unfold writeDescriptors
  rw [if_pos linear, srcTable, dstTable]
  apply dscrLoop_fills s stride nonempty apart room
  intro j hj s
  have run := linearMode_run env (data j) _ _ (decide (j + 1 = num.toNat)) s
    (pass.srcPointer j hj) (pass.dstPointer j hj) (pass.addresses j hj).1 (pass.addresses j hj).2
  rw [System.putLi_eq, System.putLi_eq] at run
  exact run

theorem writeDescriptors_linear (env : Env) (dscr : Descriptor) (data : ℕ → Transfer)
    (num : BitVec 32) (base : BitVec 64) (dstOffset : ℕ) (s : System)
    (linear : dscr.dscrType = .linear) (srcTable : dscr.srcDscrPtr = base)
    (dstTable : dscr.dstDscrPtr = base + BitVec.ofNat 64 dstOffset) (nonempty : num ≠ 0)
    (apart : 16 * num.toNat ≤ dstOffset) (room : dstOffset + 16 * num.toNat ≤ 2 ^ 64)
    (srcPointer : ∀ j < num.toNat, Passes env (base + BitVec.ofNat 64 (16 * j) ≠ 0))
    (dstPointer : ∀ j < num.toNat, Passes env (base + BitVec.ofNat 64 (dstOffset + 16 * j) ≠ 0))
    (addresses : ∀ j < num.toNat,
      Passes env ((data j).srcAddr ≠ 0) ∧ Passes env ((data j).dstAddr ≠ 0)) :
    ∃ s', writeDescriptors env dscr data num s = .ok () s' ∧
      TablesFilled base dstOffset (fun j => srcLiDscr (data j) (decide (j + 1 = num.toNat)))
        (fun j => dstLiDscr (data j)) s s' num.toNat := by
  obtain ⟨s', run, filled⟩ := writeDescriptors_linear_fills env dscr data num base dstOffset s
    linear srcTable dstTable nonempty apart room ⟨srcPointer, dstPointer, addresses⟩
  exact ⟨s', run, .of_filled filled⟩

end XZDma

end ZynqmpDma
