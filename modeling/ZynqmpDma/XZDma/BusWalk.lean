import ZynqmpDma.Base.Engine
import ZynqmpDma.XZDma.ListWriting

namespace ZynqmpDma

open Base XZDma

namespace XZDma

/-- The bytes that the driver has at `virt` and the channel has, on its 49-bit bus, at `phys`. -/
structure BusBuffer where
  virt : BitVec 64
  phys : BitVec 64
  length : ℕ

abbrev BusKey := BitVec 49 × BitVec 49

def BusBuffer.offset (b : BusBuffer) (a : BitVec 49) : ℕ := (a - b.phys.setWidth 49).toNat

structure Format (δ : Type) where
  layout : Layout δ
  linear : δ → LiDscr
  next : BitVec 49 → δ → BitVec 49

def linearFormat : Format LiDscr where
  layout := liLayout
  linear d := d
  next a _ := a + 16

def linkedFormat : Format LlDscr where
  layout := llLayout
  linear := LlDscr.toLiDscr
  next _ d := d.nextDscr.setWidth 49

namespace Format

variable {δ : Type} (format : Format δ) (b : BusBuffer) (mem : BitVec 64 → BitVec 8)

def fetch (a : BitVec 49) : Option δ :=
  if b.offset a + format.layout.size ≤ b.length then
    some (format.layout.read (window mem b.virt) (b.offset a))
  else none

def fetchPair (key : BusKey) : Option (δ × δ) :=
  (format.fetch b mem key.1).bind fun src => (format.fetch b mem key.2).map fun dst => (src, dst)

def nextPair (key : BusKey) (pair : δ × δ) : BusKey :=
  (format.next key.1 pair.1, format.next key.2 pair.2)

def command (pair : δ × δ) : Command :=
  if (format.linear pair.1).cntl &&& word3CmdMask = word3CmdStopMask then .stop
  else if (format.linear pair.1).cntl &&& word3CmdMask = word3CmdPauseMask then .pause
  else .next

theorem command_eq_stop (pair : δ × δ) : format.command pair = .stop ↔
    (format.linear pair.1).cntl &&& word3CmdMask = word3CmdStopMask := by
  unfold command
  by_cases stop : (format.linear pair.1).cntl &&& word3CmdMask = word3CmdStopMask
  · simp only [stop, ite_true]
  · by_cases pause : (format.linear pair.1).cntl &&& word3CmdMask = word3CmdPauseMask
    · simp only [stop, if_neg, if_pos pause, not_false_eq_true, reduceCtorEq]
    · simp only [stop, pause, ite_false, reduceCtorEq]

def triple (pair : δ × δ) : BitVec 64 × BitVec 64 × BitVec 32 :=
  ((format.linear pair.1).address, (format.linear pair.2).address, (format.linear pair.1).size)

end Format

def Descriptor.slotKey (dscr : Descriptor) (i : ℕ) : BusKey :=
  ((dscr.physSrcSlot i).setWidth 49, (dscr.physDstSlot i).setWidth 49)

end XZDma

namespace System

variable (s : System) {δ : Type} (format : Format δ) (b : BusBuffer)

def busStart (lsb msb : Register) : BitVec 49 := (s.reg msb).setWidth 17 ++ s.reg lsb

def listStart : BusKey :=
  (s.busStart .srcStartLsb .srcStartMsb, s.busStart .dstStartLsb .dstStartMsb)

/-- What the channel fetches when it runs its list without regard to pauses. -/
def listWalk (fuel : ℕ) : Option (List (BusKey × (δ × δ))) :=
  follow (format.fetchPair b s.machine.mem) (fun pair => format.command pair = .stop)
    format.nextPair fuel s.listStart

def listEngine (actions : List Action) : Engine BusKey (δ × δ) :=
  (Engine.start s.listStart).run (format.fetchPair b s.machine.mem) format.command format.nextPair
    actions

end System

namespace XZDma

theorem start_append (ptr : BitVec 64) :
    (startMsb ptr).setWidth 17 ++ startLsb ptr = ptr.setWidth 49 := by
  have low := (startLsb ptr).isLt
  apply BitVec.eq_of_toNat_eq
  rw [BitVec.toNat_append, BitVec.toNat_setWidth, BitVec.toNat_setWidth, startMsb_toNat,
    ← Nat.shiftLeft_add_eq_or_of_lt low, startLsb_toNat, Nat.shiftLeft_eq]
  omega

theorem busAddress_add (ptr : BitVec 64) (o : ℕ) :
    (ptr + BitVec.ofNat 64 o).setWidth 49 = ptr.setWidth 49 + BitVec.ofNat 49 o := by
  rw [BitVec.setWidth_add _ _ (by decide), BitVec.setWidth_ofNat_of_le (by decide)]

theorem BusBuffer.offset_busAddress (b : BusBuffer) {o : ℕ} (small : o < 2 ^ 49) :
    b.offset ((b.phys + BitVec.ofNat 64 o).setWidth 49) = o := by
  have start := offset_sub (b.phys.setWidth 49) (Nat.zero_le o) small
  rw [BitVec.add_zero, Nat.sub_zero] at start
  rw [BusBuffer.offset, busAddress_add, start]

theorem Descriptor.slotKey_zero (dscr : Descriptor) :
    dscr.slotKey 0 = (dscr.physSrcDscrPtr.setWidth 49, dscr.physDstDscrPtr.setWidth 49) := by
  simp only [slotKey, physSrcSlot, physDstSlot, Nat.mul_zero, BitVec.add_zero]

theorem setStart_listStart (s : System) (dscr : Descriptor) :
    (s.setStart dscr).listStart = dscr.slotKey 0 := by
  have starts := s.setStart_starts dscr
  simp only [System.starts, Descriptor.starts, StartValues.mk.injEq] at starts
  rcases starts with ⟨srcLsb, srcMsb, dstLsb, dstMsb⟩
  simp only [System.listStart, System.busStart, srcLsb, srcMsb, dstLsb, dstMsb, start_append,
    dscr.slotKey_zero]

section Slots

variable {dscr : Descriptor} {typeOfDscr : DscrType} {virt phys : BitVec 64}
  {noOfBytes : BitVec 32} (set : TablesSet dscr typeOfDscr virt phys noOfBytes) {δ : Type}
  (format : Format δ) (stride : format.layout.size = dscr.size)

include set stride

/-- On the bus the channel finds each slot where the driver wrote it. -/
theorem TablesSet.fetchPair_slot (mem : BitVec 64 → BitVec 8) {i : ℕ} (hi : i < dscr.count) :
    format.fetchPair ⟨virt, phys, noOfBytes.toNat⟩ mem (dscr.slotKey i) =
      some (format.layout.read (window mem (dscr.srcSlot i)) 0,
        format.layout.read (window mem (dscr.dstSlot i)) 0) := by
  have fits := set.fits
  have bytes := noOfBytes.isLt
  have slot := slot_le dscr.size hi
  have src := BusBuffer.offset_busAddress ⟨virt, phys, noOfBytes.toNat⟩
    (show dscr.size * i < 2 ^ 49 by omega)
  have dst := BusBuffer.offset_busAddress ⟨virt, phys, noOfBytes.toNat⟩
    (show dscr.size * dscr.count + dscr.size * i < 2 ^ 49 by omega)
  simp only [Format.fetchPair, Format.fetch, Descriptor.slotKey, set.physSrcSlot_eq,
    set.physDstSlot_eq, src, dst, stride]
  rw [if_pos (by omega), if_pos (by omega), set.srcSlot_eq, set.dstSlot_eq,
    format.layout.read_window_add, format.layout.read_window_add]
  rfl

variable {t : System} (starts : t.listStart = dscr.slotKey 0) {records : ℕ → δ × δ} {n : ℕ}
  (positive : 0 < n) (fits : n ≤ dscr.count)
  (read : ∀ i < n, (format.layout.read (window t.machine.mem (dscr.srcSlot i)) 0,
    format.layout.read (window t.machine.mem (dscr.dstSlot i)) 0) = records i)
  (linked : ∀ i, i + 1 < n → format.nextPair (dscr.slotKey i) (records i) = dscr.slotKey (i + 1))

include starts positive fits read linked

theorem TablesSet.listWalk_slots
    (marked : ∀ i < n, decide (format.command (records i) = .stop) = decide (i + 1 = n)) :
    t.listWalk format ⟨virt, phys, noOfBytes.toNat⟩ n =
      some ((List.range n).map fun i => (dscr.slotKey i, records i)) := by
  have fetched (i : ℕ) (hi : i < n) :
      format.fetchPair ⟨virt, phys, noOfBytes.toNat⟩ t.machine.mem (dscr.slotKey i) =
        some (records i) := by
    rw [set.fetchPair_slot format stride t.machine.mem (show i < dscr.count by omega), read i hi]
  rw [System.listWalk, starts, List.range_eq_range']
  exact follow_table dscr.slotKey records positive fetched linked marked (by omega)

end Slots

def elementCommand (data : Transfer) (isLast : Bool) : Command :=
  if data.pause = TRUE then .pause else if isLast then .stop else .next

theorem Format.command_src {δ : Type} (format : Format δ) {pair : δ × δ} {data : Transfer}
    {isLast : Bool} (src : format.linear pair.1 = srcLiDscr data isLast) :
    format.command pair = elementCommand data isLast := by
  simp only [command, src, srcLiDscr, srcCtrlValue, elementCommand]
  by_cases pause : data.pause = TRUE
  · by_cases coherent : data.srcCoherent = TRUE
    · simp only [pause, coherent, ite_true]
      decide
    · simp only [pause, coherent, ite_true, ite_false]
      decide
  · by_cases coherent : data.srcCoherent = TRUE
    · simp only [pause, coherent, ite_true, ite_false]
      cases isLast <;> decide
    · simp only [pause, coherent, ite_false]
      cases isLast <;> decide

theorem elementCommand_stop {data : Transfer} {isLast : Bool} :
    elementCommand data isLast = .stop ↔ data.pause ≠ TRUE ∧ isLast = true := by
  unfold elementCommand
  by_cases pause : data.pause = TRUE
  · simp [pause]
  · cases isLast <;> simp [pause]

section Linear

variable {dscr : Descriptor} {virt phys : BitVec 64} {noOfBytes : BitVec 32}
  (set : TablesSet dscr .linear virt phys noOfBytes)

include set

theorem TablesSet.slotKey_succ_linear (i : ℕ) (pair : LiDscr × LiDscr) :
    linearFormat.nextPair (dscr.slotKey i) pair = dscr.slotKey (i + 1) := by
  have stride : dscr.size = 16 := set.size_eq
  have step (p : BitVec 64) :
      (p + BitVec.ofNat 64 (16 * i)).setWidth 49 + 16 =
        (p + BitVec.ofNat 64 (16 * (i + 1))).setWidth 49 := by
    rw [busAddress_add, busAddress_add]
    exact offset_add _ (16 * i) 16
  simp only [Format.nextPair, linearFormat, Descriptor.slotKey, Descriptor.physSrcSlot,
    Descriptor.physDstSlot, stride, step]

variable {data : ℕ → Transfer} {n : ℕ} {s t : System} (written : ListWritten dscr data n s t)
  (positive : 0 < n) (fits : n ≤ dscr.count)

include written positive fits

theorem TablesSet.listWalk_linear (stops : (data (n - 1)).pause ≠ TRUE) :
    (t.setStart dscr).listWalk linearFormat ⟨virt, phys, noOfBytes.toNat⟩ n =
      some ((List.range n).map fun i => (dscr.slotKey i,
        (srcLiDscr (data i) (decide (i + 1 = n)), dstLiDscr (data i)))) := by
  apply set.listWalk_slots linearFormat set.size_eq.symm (setStart_listStart t dscr) positive fits
  · exact fun i hi => Prod.ext (written.src i hi) (written.dst i hi)
  · exact fun i _ => set.slotKey_succ_linear i _
  · intro i hi
    rw [decide_eq_decide, linearFormat.command_src rfl, elementCommand_stop, decide_eq_true_eq]
    constructor
    · exact fun stop => stop.2
    · rintro rfl
      exact ⟨stops, rfl⟩

end Linear

end XZDma

end ZynqmpDma
