import ZynqmpDma.XZDma.LinkedTable
import ZynqmpDma.XZDma.StartRuns

namespace ZynqmpDma

open Base XZDma

def System.scatterGather (channelState : State) (descriptor : Descriptor) : System where
  dma := { XZDma.zeroed with isSgDma := TRUE, descriptor, channelState }
  machine := System.blank.machine
  process := System.blank.process

namespace Machine

variable (m : Machine) (a : BitVec 64)

def liDscr : LiDscr := liDscrAt (window m.mem a) 0

def llDscr : LlDscr := llDscrAt (window m.mem a) 0

end Machine

namespace XZDma

def dscrStores (typeOfDscr : DscrType) (ptr : BitVec 64) : List Event :=
  [.store ptr 8, .store (ptr + 8) 4, .store (ptr + 12) 4] ++
    if typeOfDscr = .linear then [] else [.store (ptr + 16) 8, .store (ptr + 24) 8]

theorem fieldEvents_li (ptr : BitVec 64) (d : LiDscr) :
    System.fieldEvents ptr (liLayout.fields d) = dscrStores .linear ptr := by
  have start : ptr + BitVec.ofNat 64 0 = ptr := BitVec.add_zero ptr
  simp only [System.fieldEvents, liLayout, List.map_cons, List.map_nil, start]
  rfl

theorem fieldEvents_ll (ptr : BitVec 64) (d : LlDscr) :
    System.fieldEvents ptr (llLayout.fields d) = dscrStores .linkedList ptr := by
  have start : ptr + BitVec.ofNat 64 0 = ptr := BitVec.add_zero ptr
  simp only [System.fieldEvents, llLayout, liLayout, List.map_cons, List.map_nil,
    List.cons_append, List.nil_append, start]
  rfl

def listStores (dscr : Descriptor) (n : ℕ) : List Event :=
  (List.range n).flatMap fun i =>
    dscrStores dscr.dscrType (dscr.srcSlot i) ++ dscrStores dscr.dscrType (dscr.dstSlot i)

/-- Both tables hold the first `n` elements of `data`, one in each slot, and nothing else was
    changed. -/
structure ListWritten (dscr : Descriptor) (data : ℕ → Transfer) (n : ℕ) (s s' : System) :
    Prop where
  dma : s'.dma = s.dma
  process : s'.process = s.process
  io : s'.machine.io = s.machine.io
  clock : s'.machine.fpdDmaRefCtrl = s.machine.fpdDmaRefCtrl
  src : ∀ i < n, s'.machine.liDscr (dscr.srcSlot i) = srcLiDscr (data i) (decide (i + 1 = n))
  dst : ∀ i < n, s'.machine.liDscr (dscr.dstSlot i) = dstLiDscr (data i)
  srcLink : dscr.dscrType = .linkedList → ∀ i < n, s'.machine.llDscr (dscr.srcSlot i) =
    srcLlDscr (data i) (decide (i + 1 = n))
      (nextDscrAddr (dscr.srcSlot i) (decide (i + 1 = n)))
  dstLink : dscr.dscrType = .linkedList → ∀ i < n, s'.machine.llDscr (dscr.dstSlot i) =
    dstLlDscr (data i) (nextDscrAddr (dscr.dstSlot i) (decide (i + 1 = n)))
  frame : ∀ a, (∀ i < n, a ∉ dscr.srcBytes i ∧ a ∉ dscr.dstBytes i) →
    s'.machine.mem a = s.machine.mem a
  log : s'.machine.log = (listStores dscr n).reverse ++ s.machine.log

section Filled

variable {dscr : Descriptor} {typeOfDscr : DscrType} {virt phys : BitVec 64}
  {noOfBytes : BitVec 32} (set : TablesSet dscr typeOfDscr virt phys noOfBytes)
  {δ : Type} {layout : Layout δ} (stride : layout.size = dscr.size) {src dst : ℕ → δ}
  {s s' : System} {n : ℕ}
  (filled : Filled layout virt (dscr.size * dscr.count) src dst s s' n)

include set stride filled

theorem TablesSet.filled_src {i : ℕ} (hi : i < n) :
    layout.read (window s'.machine.mem (dscr.srcSlot i)) 0 = src i := by
  rw [set.srcSlot_eq, layout.read_window_add, ← stride]
  exact filled.holds.srcSlot i hi

theorem TablesSet.filled_dst {i : ℕ} (hi : i < n) :
    layout.read (window s'.machine.mem (dscr.dstSlot i)) 0 = dst i := by
  have slot := filled.holds.dstSlot i hi
  rw [stride] at slot
  rw [set.dstSlot_eq, layout.read_window_add]
  exact slot

theorem TablesSet.filled_frame (fits : n ≤ dscr.count) (a : BitVec 64)
    (outside : ∀ i < n, a ∉ dscr.srcBytes i ∧ a ∉ dscr.dstBytes i) :
    s'.machine.mem a = s.machine.mem a := by
  have product := set.product_lt
  obtain ⟨k, hk, rfl⟩ := exists_offset virt a
  have table : dscr.size * n ≤ dscr.size * dscr.count := Nat.mul_le_mul_left _ fits
  apply filled.holds.frame k hk
  · by_contra low
    obtain ⟨i, hi, slot⟩ := exists_slot (show k < dscr.size * n by rw [← stride]; omega)
    have bound := slot_le dscr.size hi
    apply (outside i hi).1
    rw [Descriptor.srcBytes, set.srcSlot_eq, mem_block_offset virt (by omega) hk]
    exact slot
  · by_contra inside
    rw [stride] at inside
    obtain ⟨i, hi, slot⟩ :=
      exists_slot (show k - dscr.size * dscr.count < dscr.size * n by omega)
    have bound := slot_le dscr.size hi
    apply (outside i hi).2
    rw [Descriptor.dstBytes, set.dstSlot_eq, mem_block_offset virt (by omega) hk]
    omega

theorem TablesSet.filled_log {stores : BitVec 64 → List Event}
    (events : ∀ ptr d, System.fieldEvents ptr (layout.fields d) = stores ptr) :
    s'.machine.log = ((List.range n).flatMap fun i =>
      stores (dscr.srcSlot i) ++ stores (dscr.dstSlot i)).reverse ++ s.machine.log := by
  rw [filled.log, slotStores]
  simp only [events, stride, ← set.srcSlot_eq, ← set.dstSlot_eq]

end Filled

namespace TablesSet

variable {dscr : Descriptor} {typeOfDscr : DscrType} {virt phys : BitVec 64}
  {noOfBytes : BitVec 32} (set : TablesSet dscr typeOfDscr virt phys noOfBytes)

include set

theorem slot_ne_zero (room : virt.toNat + noOfBytes.toNat ≤ 2 ^ 64) {o : ℕ}
    (inside : o < noOfBytes.toNat) : virt + BitVec.ofNat 64 o ≠ 0 := by
  have pointer := set.pointer
  have place : (virt + BitVec.ofNat 64 o).toNat = virt.toNat + o := offset_toNat (by omega)
  bv_omega

theorem slots_pass (env : Env) {data : ℕ → Transfer} {n stride : ℕ} (size : dscr.size = stride)
    (room : virt.toNat + noOfBytes.toNat ≤ 2 ^ 64) (fits : n ≤ dscr.count)
    (addresses : ∀ i < n, (data i).srcAddr ≠ 0 ∧ (data i).dstAddr ≠ 0) :
    SlotsPass env virt (dscr.size * dscr.count) stride n data := by
  have fit := set.fits
  have positive := set.size_pos
  subst size
  constructor
  · intro j hj
    have slot := slot_le dscr.size (show j < dscr.count by omega)
    exact .inl (set.slot_ne_zero room (by omega))
  · intro j hj
    have slot := slot_le dscr.size (show j < dscr.count by omega)
    exact .inl (set.slot_ne_zero room (by omega))
  · intro j hj
    exact ⟨.inl (addresses j hj).1, .inl (addresses j hj).2⟩

variable (env : Env) {data : ℕ → Transfer} {num : BitVec 32} (s : System)
  (room : virt.toNat + noOfBytes.toNat ≤ 2 ^ 64) (nonempty : num ≠ 0) (fits : num ≤ dscr.dscrCount)
  (addresses : ∀ i < num.toNat, (data i).srcAddr ≠ 0 ∧ (data i).dstAddr ≠ 0)

include room nonempty fits addresses

theorem writeDescriptors_linear_run (linear : dscr.dscrType = .linear) :
    ∃ t, writeDescriptors env dscr data num s = .ok () t ∧
      ListWritten dscr data num.toNat s t := by
  have fits : num.toNat ≤ dscr.count := fits
  have product := set.product_lt
  have stride : dscr.size = 16 := by rw [Descriptor.size, linear]; rfl
  have table : 16 * num.toNat ≤ dscr.size * dscr.count := by
    rw [stride]
    exact Nat.mul_le_mul_left _ fits
  obtain ⟨t, run, filled⟩ := writeDescriptors_linear_fills env dscr data num virt
    (dscr.size * dscr.count) s linear set.src_eq set.dst_eq nonempty table (by omega)
    (set.slots_pass env stride room fits addresses)
  have stride' : liLayout.size = dscr.size := stride.symm
  refine ⟨t, run, filled.dma, filled.process, filled.io, filled.clock, ?_, ?_, ?_, ?_, ?_, ?_⟩
  · exact fun i hi => set.filled_src stride' filled hi
  · exact fun i hi => set.filled_dst stride' filled hi
  · intro linked
    rw [linear] at linked
    cases linked
  · intro linked
    rw [linear] at linked
    cases linked
  · exact set.filled_frame stride' filled fits
  · rw [listStores, linear]
    exact set.filled_log stride' filled fieldEvents_li

theorem writeDescriptors_linkedList_run (linked : dscr.dscrType = .linkedList) :
    ∃ t, writeDescriptors env dscr data num s = .ok () t ∧
      ListWritten dscr data num.toNat s t := by
  have fits : num.toNat ≤ dscr.count := fits
  have product := set.product_lt
  have stride : dscr.size = 32 := by rw [Descriptor.size, linked]; rfl
  have table : 32 * num.toNat ≤ dscr.size * dscr.count := by
    rw [stride]
    exact Nat.mul_le_mul_left _ fits
  obtain ⟨t, run, filled⟩ := writeDescriptors_linkedList_fills env dscr data num virt
    (dscr.size * dscr.count) s linked set.src_eq set.dst_eq nonempty table (by omega)
    (set.slots_pass env stride room fits addresses)
  have stride' : llLayout.size = dscr.size := stride.symm
  have src {i : ℕ} (hi : i < num.toNat) := set.filled_src stride' filled hi
  have dst {i : ℕ} (hi : i < num.toNat) := set.filled_dst stride' filled hi
  simp only [← stride, ← set.srcSlot_eq, ← set.dstSlot_eq] at src dst
  refine ⟨t, run, filled.dma, filled.process, filled.io, filled.clock, ?_, ?_, ?_, ?_, ?_, ?_⟩
  · exact fun i hi => congrArg LlDscr.toLiDscr (src hi)
  · exact fun i hi => congrArg LlDscr.toLiDscr (dst hi)
  · exact fun _ i hi => src hi
  · exact fun _ i hi => dst hi
  · exact set.filled_frame stride' filled fits
  · rw [listStores, linked]
    exact set.filled_log stride' filled fieldEvents_ll

/-- Writing a list that fits into the tables puts each element into its own slots. -/
theorem writeDescriptors_run :
    ∃ t, writeDescriptors env dscr data num s = .ok () t ∧
      ListWritten dscr data num.toNat s t := by
  cases type : dscr.dscrType with
  | linear => exact set.writeDescriptors_linear_run env s room nonempty fits addresses type
  | linkedList => exact set.writeDescriptors_linkedList_run env s room nonempty fits addresses type

end TablesSet

/-- A list that is not turned down and fits into the tables is written and started. -/
theorem TablesSet.start_written (env : Env) {data : ℕ → Transfer} {num : BitVec 32} {s : System}
    {typeOfDscr : DscrType} {virt phys : BitVec 64} {noOfBytes : BitVec 32}
    (set : TablesSet s.dma.descriptor typeOfDscr virt phys noOfBytes)
    (room : virt.toNat + noOfBytes.toNat ≤ 2 ^ 64) (sg : s.dma.isSgDma = TRUE)
    (admitted : ¬ Refused s num) (nonempty : num ≠ 0) (fits : num ≤ s.dma.descriptor.dscrCount)
    (addresses : ∀ i < num.toNat, (data i).srcAddr ≠ 0 ∧ (data i).dstAddr ≠ 0) :
    ∃ t, start env data num s = .ok xstSuccess (t.setStart s.dma.descriptor) ∧
      ListWritten s.dma.descriptor data num.toNat s t := by
  obtain ⟨t, run, written⟩ := set.writeDescriptors_run env s room nonempty fits addresses
  have started := start_sg_run env (.inl nonempty) sg admitted written.dma run
  rw [written.dma] at started
  exact ⟨t, started, written⟩

end XZDma

end ZynqmpDma
