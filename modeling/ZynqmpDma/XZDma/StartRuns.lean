import ZynqmpDma.XZDma.ControlRuns
import ZynqmpDma.XZDma.LinearTable

namespace ZynqmpDma

open Base XZDma

structure StartValues where
  srcLsb : BitVec 32
  srcMsb : BitVec 32
  dstLsb : BitVec 32
  dstMsb : BitVec 32
deriving DecidableEq, Repr

def System.starts (s : System) : StartValues where
  srcLsb := s.reg .srcStartLsb
  srcMsb := s.reg .srcStartMsb
  dstLsb := s.reg .dstStartLsb
  dstMsb := s.reg .dstStartMsb

def XZDma.Descriptor.starts (dscr : Descriptor) : StartValues where
  srcLsb := startLsb dscr.physSrcDscrPtr
  srcMsb := startMsb dscr.physSrcDscrPtr
  dstLsb := startLsb dscr.physDstDscrPtr
  dstMsb := startMsb dscr.physDstDscrPtr

def System.setStart (s : System) (dscr : Descriptor) : System :=
  (((s.write .srcStartLsb (startLsb dscr.physSrcDscrPtr)).write .srcStartMsb
    (startMsb dscr.physSrcDscrPtr)).write .dstStartLsb (startLsb dscr.physDstDscrPtr)).write
    .dstStartMsb (startMsb dscr.physDstDscrPtr)

namespace System

variable (s : System) (dscr : Descriptor)

@[simp] theorem setStart_mem : (s.setStart dscr).machine.mem = s.machine.mem := rfl

@[simp] theorem setStart_starts : (s.setStart dscr).starts = dscr.starts := by
  simp [starts, setStart, Descriptor.starts]

@[simp] theorem setStart_control : (s.setStart dscr).control = s.control := by
  simp [control, setStart]

theorem setStart_accesses : Accesses RegisterAccess s (s.setStart dscr) := by
  have write (s : System) (r : Register) (v : BitVec 32) :
      Accesses RegisterAccess s (s.write r v) :=
    (steps_writeReg (E := fun _ => False) (fun _ _ access => access) r v).along s
  exact (((write _ _ _).trans (write _ _ _)).trans (write _ _ _)).trans (write _ _ _)

end System

namespace XZDma

theorem startLsb_toNat (ptr : BitVec 64) : (startLsb ptr).toNat = ptr.toNat % 2 ^ 32 := by
  have low : (ptr &&& word0LsbMask).toNat = ptr.toNat % 2 ^ 32 :=
    toNat_and_lowMask ptr (k := 32) (by decide)
  unfold startLsb
  rw [BitVec.toNat_setWidth, low]
  omega

theorem startMsb_toNat (ptr : BitVec 64) :
    (startMsb ptr).toNat = ptr.toNat / 2 ^ 32 % 2 ^ 17 := by
  have high : ((ptr >>> word1MsbShift) &&& word1MsbMask).toNat = ptr.toNat / 2 ^ 32 % 2 ^ 17 := by
    rw [show word1MsbMask = BitVec.ofNat 64 (2 ^ 17 - 1) from rfl, toNat_and_lowMask _ (by decide),
      BitVec.toNat_ushiftRight, word1MsbShift, Nat.shiftRight_eq_div_pow]
  rw [startMsb, BitVec.toNat_setWidth, high]
  omega

theorem startMsb_masked (ptr : BitVec 64) :
    (startMsb ptr &&& startMsbAddrMask).toNat = ptr.toNat / 2 ^ 32 % 2 ^ 17 := by
  have masked : (startMsb ptr &&& startMsbAddrMask).toNat = (startMsb ptr).toNat % 2 ^ 17 :=
    toNat_and_lowMask (startMsb ptr) (k := 17) (by decide)
  rw [masked, startMsb_toNat]
  omega

theorem word2Size_toNat (size : BitVec 32) : (size &&& word2SizeMask).toNat = size.toNat % 2 ^ 30 :=
  toNat_and_lowMask size (k := 30) (by decide)

theorem scatterGather_run (env : Env) {data : ℕ → Transfer} {num : BitVec 32} {s t : System}
    (nonempty : Passes env (num ≠ 0)) (same : t.dma = s.dma)
    (filled : writeDescriptors env s.dma.descriptor data num s = .ok () t) :
    scatterGather env data num s = .ok () (t.setStart t.dma.descriptor) := by
  unfold scatterGather
  rw [xilAssert_passes _ _ nonempty, bind_ok _ (getInstance_run s),
    bind_ok _ filled, same]
  rfl

/-- The condition under which `XZDma_Start` turns a list down. -/
def Refused (s : System) (num : BitVec 32) : Prop :=
  s.dma.channelState = .busy ∧ num ≥ s.dma.descriptor.dscrCount

instance (s : System) (num : BitVec 32) : Decidable (Refused s num) :=
  inferInstanceAs (Decidable (_ ∧ _))

theorem admitted_of_idle {s : System} (num : BitVec 32) (idle : s.dma.channelState = .idle) :
    ¬ Refused s num := by
  unfold Refused
  rw [idle]
  exact fun refused => State.noConfusion refused.1

theorem start_refused (env : Env) (data : ℕ → Transfer) {num : BitVec 32} {s : System}
    (nonempty : num ≠ 0) (refused : Refused s num) :
    start env data num s = .ok xstFailure s := by
  unfold Refused at refused
  rw [start, xilAssert_holds _ _ _ nonempty, bind_ok _ (getInstance_run s), if_pos refused]
  rfl

theorem start_admitted (env : Env) (data : ℕ → Transfer) {num : BitVec 32} {s : System}
    (nonempty : Passes env (num ≠ 0)) (sg : s.dma.isSgDma = TRUE) (admitted : ¬ Refused s num) :
    start env data num s = (do
      scatterGather env data num
      pure xstSuccess) s := by
  unfold Refused at admitted
  rw [start, xilAssert_passes _ _ nonempty, bind_ok _ (getInstance_run s), if_neg admitted,
    if_neg (by simp only [sg, ne_eq, not_true_eq_false, not_false_eq_true])]

theorem start_simple (env : Env) (data : ℕ → Transfer) {num : BitVec 32} {s : System}
    (nonempty : Passes env (num ≠ 0)) (simple : s.dma.isSgDma ≠ TRUE) (admitted : ¬ Refused s num) :
    start env data num s = (do
      simpleMode (data 0)
      pure xstSuccess) s := by
  unfold Refused at admitted
  rw [start, xilAssert_passes _ _ nonempty, bind_ok _ (getInstance_run s), if_neg admitted,
    if_pos simple]

theorem start_sg_run (env : Env) {data : ℕ → Transfer} {num : BitVec 32} {s t : System}
    (nonempty : Passes env (num ≠ 0)) (sg : s.dma.isSgDma = TRUE) (admitted : ¬ Refused s num)
    (same : t.dma = s.dma)
    (filled : writeDescriptors env s.dma.descriptor data num s = .ok () t) :
    start env data num s = .ok xstSuccess (t.setStart t.dma.descriptor) := by
  rw [start_admitted env data nonempty sg admitted,
    bind_ok _ (scatterGather_run env nonempty same filled)]
  rfl

theorem start_sg_returned {env : Env} {data : ℕ → Transfer} {num : BitVec 32} {s s' : System}
    {status : ℤ} (wait : env.asserts = .waiting) (sg : s.dma.isSgDma = TRUE)
    (free : s.dma.channelState ≠ .busy) (linear : s.dma.descriptor.dscrType = .linear)
    (run : start env data num s = .ok status s') :
    num ≠ 0 ∧ ∀ j < num.toNat, (data j).srcAddr ≠ 0 ∧ (data j).dstAddr ≠ 0 := by
  by_cases zero : num ≠ 0
  · refine ⟨zero, ?_⟩
    intro j hj
    have positive : 0 < num.toNat := by bv_omega
    rw [start_admitted env data (.inl zero) sg (fun refused => free refused.1)] at run
    obtain ⟨_, t, scattered, _⟩ := bind_ok_inv run
    rw [scatterGather, xilAssert_holds _ _ _ zero, bind_ok _ (getInstance_run s)] at scattered
    obtain ⟨_, u, written, _⟩ := bind_ok_inv scattered
    rw [writeDescriptors, if_pos linear] at written
    obtain ⟨p, q, l, v, v', body⟩ := dscrLoop_returned positive written j (Nat.zero_le j) hj
    exact linearMode_returned wait body
  · rw [start, xilAssert_waiting _ _ wait zero] at run
    cases run

end XZDma

end ZynqmpDma
