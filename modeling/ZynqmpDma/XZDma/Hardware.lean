import ZynqmpDma.XZDma.Control

namespace ZynqmpDma

open Base XZDma

def Machine.Busy (m : Machine) (base : BitVec 64) : Prop :=
  m.channelReg base .sts &&& stsAllMask = stsBusyMask

instance (m : Machine) (base : BitVec 64) : Decidable (m.Busy base) :=
  inferInstanceAs (Decidable (_ = _))

namespace System

variable (s : System) (base : BitVec 64)

def report (status : BitVec 32) : System :=
  { s with machine := { s.machine with
      io := Function.update s.machine.io (base + Register.offset .sts) status } }

/-- The channel at `base` is BUSY once its enable bit is written. -/
def takeUp : System :=
  if .write (base + Register.offset .ctrl2) chCtrl2EnMask ∈ s.machine.log then
    s.report base stsBusyMask
  else s

@[simp] theorem report_channelReg (status : BitVec 32) (r : Register) :
    (s.report base status).machine.channelReg base r =
      if r = .sts then status else s.machine.channelReg base r := by
  simp only [report, Machine.channelReg, Function.update_apply, Register.address_inj]

@[simp] theorem takeUp_dma : (s.takeUp base).dma = s.dma := by
  rw [takeUp]; split <;> rfl
@[simp] theorem takeUp_process : (s.takeUp base).process = s.process := by
  rw [takeUp]; split <;> rfl
@[simp] theorem takeUp_mem : (s.takeUp base).machine.mem = s.machine.mem := by
  rw [takeUp]; split <;> rfl
@[simp] theorem takeUp_log : (s.takeUp base).machine.log = s.machine.log := by
  rw [takeUp]; split <;> rfl

theorem takeUp_channelReg {r : Register} (other : r ≠ .sts) :
    (s.takeUp base).machine.channelReg base r = s.machine.channelReg base r := by
  unfold takeUp
  split
  · rw [report_channelReg, if_neg other]
  · rfl

@[simp] theorem clearLog_dma : s.clearLog.dma = s.dma := rfl
@[simp] theorem clearLog_process : s.clearLog.process = s.process := rfl
@[simp] theorem clearLog_mem : s.clearLog.machine.mem = s.machine.mem := rfl
@[simp] theorem clearLog_log : s.clearLog.machine.log = [] := rfl
@[simp] theorem clearLog_channelReg (r : Register) :
    s.clearLog.machine.channelReg base r = s.machine.channelReg base r := rfl

def enabled : System :=
  ((s.write .ien (s.dma.intrMask &&& ixrAllIntrMask)).withDma fun i =>
    { i with channelState := .busy }).write .ctrl2 chCtrl2EnMask

end System

def Event.continues (base : BitVec 64) : Event → Bool
  | .write a v => a = base + Register.offset .ctrl0 ∧ v &&& ctrl0ContMask ≠ 0
  | _ => false

/-- A paused channel at `base` is BUSY again once its continue bit is written. -/
def System.goOn (s : System) (base : BitVec 64) : System :=
  if s.machine.channelReg base .sts &&& stsAllMask = stsPauseMask ∧
      s.machine.log.any (Event.continues base) then
    s.report base stsBusyMask
  else s

namespace XZDma

theorem enable_run (s : System) : enable s = .ok () s.enabled := by
  simp only [enable, enableCh, bind_run, getInstance_run, writeReg_run, setInstance_run]
  rfl

theorem status_cases (value : BitVec 32) :
    value &&& stsAllMask = stsDoneMask ∨ value &&& stsAllMask = stsPauseMask ∨
      value &&& stsAllMask = stsBusyMask ∨ value &&& stsAllMask = stsDoneErrMask := by
  have low : (value &&& stsAllMask).toNat = value.toNat % 2 ^ 2 :=
    toNat_and_lowMask value (k := 2) (by decide)
  simp only [stsDoneMask, stsPauseMask, stsBusyMask, stsDoneErrMask]
  bv_omega

theorem stateOf_busy {value : BitVec 32} :
    stateOf value = .busy ↔ value &&& stsAllMask = stsBusyMask := by
  rcases status_cases value with status | status | status | status
  · simp only [stateOf, status]
    decide
  · simp only [stateOf, status]
    decide
  · simp only [stateOf, status]
    decide
  · simp only [stateOf, status]
    decide

theorem stateOf_pause {value : BitVec 32} :
    stateOf value = .pause ↔ value &&& stsAllMask = stsPauseMask := by
  rcases status_cases value with status | status | status | status
  · simp only [stateOf, status]
    decide
  · simp only [stateOf, status]
    decide
  · simp only [stateOf, status]
    decide
  · simp only [stateOf, status]
    decide

theorem stateOf_masked (value : BitVec 32) : stateOf (value &&& stsAllMask) = stateOf value := by
  have masked : value &&& stsAllMask &&& stsAllMask = value &&& stsAllMask := by
    rw [BitVec.and_assoc, BitVec.and_self]
  simp only [stateOf, masked]

end XZDma

end ZynqmpDma
