import ZynqmpDma.XZDma.ListWriting

namespace ZynqmpDma

open Base XZDma

namespace XZDma

def command (data : Transfer) (isLast : Prop) [Decidable isLast] : BitVec 32 :=
  if data.pause = 1 then word3CmdPauseMask
  else if isLast then word3CmdStopMask
  else word3CmdNxtvalidMask

def coherence (flag : BitVec 8) : BitVec 32 := if flag = 1 then word3CohrntMask else 0

theorem srcCtrlValue_eq (data : Transfer) (isLast : Prop) [Decidable isLast] :
    srcCtrlValue data (decide isLast) = command data isLast + coherence data.srcCoherent := by
  have paused : word3CmdPauseMask ||| word3CohrntMask = word3CmdPauseMask + word3CohrntMask := by
    decide
  have stopped : word3CmdStopMask ||| word3CohrntMask = word3CmdStopMask + word3CohrntMask := by
    decide
  have going : word3CmdNxtvalidMask ||| word3CohrntMask =
      word3CmdNxtvalidMask + word3CohrntMask := by decide
  unfold srcCtrlValue command coherence TRUE
  by_cases coherent : data.srcCoherent = 1
  · by_cases pause : data.pause = 1
    · simp only [coherent, pause, ite_true, paused]
    · by_cases last : isLast
      · simp only [coherent, pause, last, ite_true, ite_false, decide_true, stopped]
      · simp only [coherent, pause, last, ite_true, ite_false, decide_false, Bool.false_eq_true,
          going]
  · simp only [coherent, ite_false, decide_eq_true_eq]
    exact (BitVec.add_zero _).symm

theorem dstCtrlValue_eq (data : Transfer) : dstCtrlValue data = coherence data.dstCoherent := by
  have alone : 0 ||| word3CohrntMask = word3CohrntMask := by decide
  simp only [dstCtrlValue, coherence, TRUE, alone]

def startRegisters : List Register := [.srcStartLsb, .srcStartMsb, .dstStartLsb, .dstStartMsb]

structure StartEffect (dscr : Descriptor) (phys : BitVec 64) (data : ℕ → Transfer) (n : ℕ)
    (s s' : System) : Prop where
  srcAddress : ∀ i < n, (s'.machine.liDscr (dscr.srcSlot i)).address = (data i).srcAddr
  srcSize : ∀ i < n, (s'.machine.liDscr (dscr.srcSlot i)).size.toNat =
    (data i).size.toNat % 2 ^ 30
  srcControl : ∀ i < n, (s'.machine.liDscr (dscr.srcSlot i)).cntl =
    command (data i) (i + 1 = n) + coherence (data i).srcCoherent
  dstAddress : ∀ i < n, (s'.machine.liDscr (dscr.dstSlot i)).address = (data i).dstAddr
  dstSize : ∀ i < n, (s'.machine.liDscr (dscr.dstSlot i)).size.toNat =
    (data i).size.toNat % 2 ^ 30
  dstControl : ∀ i < n, (s'.machine.liDscr (dscr.dstSlot i)).cntl = coherence (data i).dstCoherent
  reserved : dscr.dscrType = .linkedList → ∀ i < n,
    (s'.machine.llDscr (dscr.srcSlot i)).reserved = 0 ∧
      (s'.machine.llDscr (dscr.dstSlot i)).reserved = 0
  nextDscr : dscr.dscrType = .linkedList → ∀ i < n,
    ((s'.machine.llDscr (dscr.srcSlot i)).nextDscr ≠ 0 ↔ i + 1 < n) ∧
      ((s'.machine.llDscr (dscr.dstSlot i)).nextDscr ≠ 0 ↔ i + 1 < n)
  srcStart : (s'.reg .srcStartLsb).toNat = phys.toNat % 2 ^ 32 ∧
    (s'.reg .srcStartMsb).toNat = phys.toNat / 2 ^ 32 % 2 ^ 17
  dstStart : (s'.reg .dstStartLsb).toNat = (phys.toNat + dscr.count * dscr.size) % 2 ^ 32 ∧
    (s'.reg .dstStartMsb).toNat = (phys.toNat + dscr.count * dscr.size) / 2 ^ 32 % 2 ^ 17
  memory : ∀ a, (∀ i < n, a ∉ dscr.srcBytes i ∧ a ∉ dscr.dstBytes i) →
    s'.machine.mem a = s.machine.mem a
  registers : ∀ a, (∀ r ∈ startRegisters, a ≠ s.addr r) → s'.machine.io a = s.machine.io a
  clock : s'.machine.fpdDmaRefCtrl = s.machine.fpdDmaRefCtrl
  dma : s'.dma = s.dma
  process : s'.process = s.process

theorem setStart_io (s : System) (dscr : Descriptor) {a : BitVec 64}
    (other : ∀ r ∈ startRegisters, a ≠ s.addr r) :
    (s.setStart dscr).machine.io a = s.machine.io a := by
  simp only [startRegisters, List.forall_mem_cons, List.not_mem_nil, false_implies,
    implies_true, and_true] at other
  rcases other with ⟨srcLsb, srcMsb, dstLsb, dstMsb⟩
  simp only [System.setStart, System.write, System.addr, Machine.write] at *
  rw [Function.update_of_ne dstMsb, Function.update_of_ne dstLsb, Function.update_of_ne srcMsb,
    Function.update_of_ne srcLsb]

section Start

variable {typeOfDscr : DscrType} {virt phys : BitVec 64} {noOfBytes : BitVec 32} {s t : System}
  (set : TablesSet s.dma.descriptor typeOfDscr virt phys noOfBytes)

include set

theorem TablesSet.next_ne_zero (room : virt.toNat + noOfBytes.toNat ≤ 2 ^ 64) {i n : ℕ}
    (hi : i < n) (fits : n ≤ s.dma.descriptor.count) (linked : typeOfDscr = .linkedList) :
    (nextDscrAddr (s.dma.descriptor.srcSlot i) (decide (i + 1 = n)) ≠ 0 ↔ i + 1 < n) ∧
      (nextDscrAddr (s.dma.descriptor.dstSlot i) (decide (i + 1 = n)) ≠ 0 ↔ i + 1 < n) := by
  have stride : s.dma.descriptor.size = 32 := by rw [set.size_eq, linked]; rfl
  have fit := set.fits
  by_cases last : i + 1 = n
  · simp [nextDscrAddr, last]
  · have slot := slot_le s.dma.descriptor.size
      (show i + 1 < s.dma.descriptor.count by omega)
    have next (p : BitVec 64) (o : ℕ) : p + BitVec.ofNat 64 o + 32 = p + BitVec.ofNat 64 (o + 32) :=
      offset_add p o 32
    rw [Nat.mul_succ] at slot
    simp only [nextDscrAddr, last, decide_false, Bool.false_eq_true, ite_false, set.srcSlot_eq,
      set.dstSlot_eq, next]
    have srcNext := set.slot_ne_zero room (o := s.dma.descriptor.size * i + 32) (by omega)
    have dstNext := set.slot_ne_zero room
      (o := s.dma.descriptor.size * s.dma.descriptor.count + s.dma.descriptor.size * i + 32)
      (by omega)
    exact ⟨⟨fun _ => by omega, fun _ => srcNext⟩, ⟨fun _ => by omega, fun _ => dstNext⟩⟩

theorem ListWritten.effect {data : ℕ → Transfer} {n : ℕ}
    (written : ListWritten s.dma.descriptor data n s t)
    (room : virt.toNat + noOfBytes.toNat ≤ 2 ^ 64)
    (physRoom : phys.toNat + noOfBytes.toNat ≤ 2 ^ 64) (fits : n ≤ s.dma.descriptor.count) :
    StartEffect s.dma.descriptor phys data n s (t.setStart s.dma.descriptor) := by
  have fit := set.fits
  have bytes : 0 < noOfBytes.toNat := by
    have nonzero := set.bytes
    bv_omega
  have addr (r : Register) : t.addr r = s.addr r := by rw [System.addr, System.addr, written.dma]
  constructor
  case srcAddress =>
    intro i hi
    exact congrArg LiDscr.address (written.src i hi)
  case srcSize =>
    intro i hi
    have size : (t.machine.liDscr (s.dma.descriptor.srcSlot i)).size =
        (data i).size &&& word2SizeMask := congrArg LiDscr.size (written.src i hi)
    rw [← word2Size_toNat, ← size]
    rfl
  case srcControl =>
    intro i hi
    rw [← srcCtrlValue_eq]
    exact congrArg LiDscr.cntl (written.src i hi)
  case dstAddress =>
    intro i hi
    exact congrArg LiDscr.address (written.dst i hi)
  case dstSize =>
    intro i hi
    have size : (t.machine.liDscr (s.dma.descriptor.dstSlot i)).size =
        (data i).size &&& word2SizeMask := congrArg LiDscr.size (written.dst i hi)
    rw [← word2Size_toNat, ← size]
    rfl
  case dstControl =>
    intro i hi
    rw [← dstCtrlValue_eq]
    exact congrArg LiDscr.cntl (written.dst i hi)
  case reserved =>
    intro linked i hi
    exact ⟨congrArg LlDscr.reserved (written.srcLink linked i hi),
      congrArg LlDscr.reserved (written.dstLink linked i hi)⟩
  case nextDscr =>
    intro linked i hi
    have next := set.next_ne_zero room hi fits (set.dscrType_eq.symm.trans linked)
    have src : (t.machine.llDscr (s.dma.descriptor.srcSlot i)).nextDscr =
        nextDscrAddr (s.dma.descriptor.srcSlot i) (decide (i + 1 = n)) :=
      congrArg LlDscr.nextDscr (written.srcLink linked i hi)
    have dst : (t.machine.llDscr (s.dma.descriptor.dstSlot i)).nextDscr =
        nextDscrAddr (s.dma.descriptor.dstSlot i) (decide (i + 1 = n)) :=
      congrArg LlDscr.nextDscr (written.dstLink linked i hi)
    rw [← src, ← dst] at next
    exact next
  case srcStart =>
    have starts := congrArg StartValues.srcLsb (t.setStart_starts s.dma.descriptor)
    have starts' := congrArg StartValues.srcMsb (t.setStart_starts s.dma.descriptor)
    simp only [System.starts, Descriptor.starts, set.physSrc_eq] at starts starts'
    rw [starts, starts', startLsb_toNat, startMsb_toNat]
    exact ⟨rfl, rfl⟩
  case dstStart =>
    have starts := congrArg StartValues.dstLsb (t.setStart_starts s.dma.descriptor)
    have starts' := congrArg StartValues.dstMsb (t.setStart_starts s.dma.descriptor)
    simp only [System.starts, Descriptor.starts, set.physDst_eq] at starts starts'
    rw [starts, starts', startLsb_toNat, startMsb_toNat, offset_toNat (by omega),
      Nat.mul_comm s.dma.descriptor.size]
    exact ⟨rfl, rfl⟩
  case memory => exact written.frame
  case registers =>
    intro a other
    rw [setStart_io t _ fun r member => by rw [addr r]; exact other r member, written.io]
  case clock => exact written.clock
  case dma => exact written.dma
  case process => exact written.process

end Start

/-- Starting a list that fits into the tables of an idle scatter-gather channel writes exactly
    its descriptors and the start registers. -/
theorem start_effect (env : Env) (s : System) (typeOfDscr : DscrType) (virt phys : BitVec 64)
    (noOfBytes : BitVec 32) (data : ℕ → Transfer) (num : BitVec 32)
    (set : TablesSet s.dma.descriptor typeOfDscr virt phys noOfBytes)
    (room : virt.toNat + noOfBytes.toNat ≤ 2 ^ 64)
    (physRoom : phys.toNat + noOfBytes.toNat < 2 ^ 49)
    (sg : s.dma.isSgDma = TRUE) (idle : s.dma.channelState = .idle) (nonempty : 1 ≤ num)
    (fits : num ≤ s.dma.descriptor.dscrCount)
    (addresses : ∀ i < num.toNat, (data i).srcAddr ≠ 0 ∧ (data i).dstAddr ≠ 0) :
    ∃ s', start env data num s = .ok xstSuccess s' ∧
      StartEffect s.dma.descriptor phys data num.toNat s s' := by
  have nonempty : num ≠ 0 := by bv_omega
  obtain ⟨t, started, written⟩ := set.start_written env room sg (admitted_of_idle num idle)
    nonempty fits addresses
  exact ⟨_, started, written.effect set room (by omega) fits⟩

theorem start_effect_page :
    ∃ s', start (.ideal .waiting) (fun _ => ⟨0x70300000, 0x70400000, 64, 1, 0, 0⟩) 2
        (.scatterGather .idle (bdTables .linkedList 0x7F0000200000 0x70100000 4096)) =
          .ok xstSuccess s' ∧
      StartEffect (bdTables .linkedList 0x7F0000200000 0x70100000 4096) 0x70100000
        (fun _ => ⟨0x70300000, 0x70400000, 64, 1, 0, 0⟩) 2
        (.scatterGather .idle (bdTables .linkedList 0x7F0000200000 0x70100000 4096)) s' :=
  start_effect (.ideal .waiting) _ .linkedList 0x7F0000200000 0x70100000 4096 _ 2
    (tablesSet_bdTables .linkedList 0x7F0000200000 0x70100000 4096 (by decide) (by decide))
    (by decide) (by decide) rfl rfl (by decide) (by decide) (by decide)

end XZDma

end ZynqmpDma
