import ZynqmpDma.XZDma.ControlRuns
import ZynqmpDma.XZDma.Hardware

namespace ZynqmpDma

open Base XZDma

namespace XZDma

def State.code : State → ℤ
  | idle => 0
  | pause => 1
  | busy => 2

/-- What can happen to an initialized channel: a call of the driver, in the surroundings of that
    call, or a new status. -/
inductive Operation
  | setMode (env : Env) (isSgDma : BitVec 8) (mode : Mode)
  | setChDataConfig (env : Env) (configure : DataConfig)
  | setChDscrConfig (configure : DscrConfig)
  | createBDList (env : Env) (typeOfDscr : DscrType) (dscrMemPtr descrPhysMemPtr : BitVec 64)
      (noOfBytes : BitVec 32)
  | start (env : Env) (data : ℕ → Transfer) (num : BitVec 32)
  | enable
  | resume (env : Env)
  | reset (env : Env)
  | channelState (env : Env)
  | selfTest (env : Env)
  | hardware (status : BitVec 32)

namespace Operation

def body : Operation → Prog ℤ
  | setMode env isSgDma mode => XZDma.setMode env isSgDma mode
  | setChDataConfig env configure => XZDma.setChDataConfig env configure
  | setChDscrConfig configure => XZDma.setChDscrConfig configure
  | createBDList env typeOfDscr dscrMemPtr descrPhysMemPtr noOfBytes => do
    let count ← XZDma.createBDList env typeOfDscr dscrMemPtr descrPhysMemPtr noOfBytes
    pure (count.toNat : ℤ)
  | start env data num => XZDma.start env data num
  | enable => do
    XZDma.enable
    modify fun s => s.takeUp s.dma.config.baseAddress
    pure 0
  | resume env => do
    XZDma.resume env
    modify fun s => s.goOn s.dma.config.baseAddress
    pure 0
  | reset env => do
    XZDma.reset env
    pure 0
  | channelState env => do
    let state ← xzdmaChannelState env
    pure state.code
  | selfTest env => XZDma.selfTest env
  | hardware status => fun s =>
    if s.machine.Busy s.dma.config.baseAddress then
      .ok 0 (s.report s.dma.config.baseAddress (status &&& stsAllMask))
    else .ok 0 s

def step (op : Operation) : Prog ℤ := fun s => op.body s.clearLog

/-- The checks of an operation, on the instance that it finds, let it through. -/
def Effective (i : XZDma) : Operation → Prop
  | setMode env isSgDma _ =>
    Passes env (isSgDma = TRUE ∨ isSgDma = FALSE) ∧ i.channelState = .idle
  | setChDataConfig .. | setChDscrConfig _ => i.channelState = .idle
  | start env _ num =>
    Passes env (num ≠ 0) ∧ ¬ (i.channelState = .busy ∧ num ≥ i.descriptor.dscrCount)
  | resume env => Passes env (i.isSgDma = TRUE) ∧ Passes env (i.channelState = .pause)
  | reset env => Passes env (i.channelState = .idle)
  | createBDList .. | enable | channelState _ | selfTest _ | hardware _ => True

instance (i : XZDma) (op : Operation) : Decidable (op.Effective i) :=
  match op with
  | setMode .. | start .. | resume _ => inferInstanceAs (Decidable (_ ∧ _))
  | setChDataConfig .. | setChDscrConfig _ => inferInstanceAs (Decidable (_ = _))
  | reset _ => inferInstanceAs (Decidable (Passes _ _))
  | createBDList .. | enable | channelState _ | selfTest _ | hardware _ =>
    inferInstanceAs (Decidable True)

end Operation

/-- What the driver believes of its channel, and what the channel is. -/
structure Channel where
  base : BitVec 64
  cached : State
  hardware : State
  isSgDma : BitVec 8
  mode : Mode
  ctrl0 : BitVec 32
deriving DecidableEq, Repr

namespace Channel

variable (c : Channel) (env : Env)

def read : BitVec 32 := env.readBack (c.base + Register.offset .ctrl0) c.ctrl0

def setMode (isSgDma : BitVec 8) (mode : Mode) : Channel :=
  if isSgDma ≠ TRUE then
    { c with
      isSgDma := FALSE
      mode := mode
      ctrl0 := simpleModeBits (c.read env &&& ~~~ctrl0PointTypeMask) mode }
  else if mode ≠ .normalMode then c
  else { c with isSgDma := TRUE, mode := mode, ctrl0 := sgModeBits (c.read env) }

section SetMode

variable (isSgDma : BitVec 8) (mode : Mode)

@[simp] theorem setMode_base : (c.setMode env isSgDma mode).base = c.base := by
  unfold setMode
  split
  · rfl
  · split <;> rfl

@[simp] theorem setMode_cached : (c.setMode env isSgDma mode).cached = c.cached := by
  unfold setMode
  split
  · rfl
  · split <;> rfl

@[simp] theorem setMode_hardware : (c.setMode env isSgDma mode).hardware = c.hardware := by
  unfold setMode
  split
  · rfl
  · split <;> rfl

end SetMode

def resume : Channel :=
  { c with
    cached := .busy
    hardware := if c.hardware = .pause then .busy else c.hardware
    ctrl0 := resumeBits (c.read env) }

def next : Operation → Channel
  | .setMode env isSgDma mode =>
    if Passes env (isSgDma = TRUE ∨ isSgDma = FALSE) ∧ c.cached = .idle then
      c.setMode env isSgDma mode
    else c
  | .setChDataConfig env configure =>
    if c.cached = .idle then { c with ctrl0 := overFetchBits (c.read env) configure } else c
  | .enable => { c with cached := .busy, hardware := .busy }
  | .resume env =>
    if Passes env (c.isSgDma = TRUE) ∧ Passes env (c.cached = .pause) then c.resume env else c
  | .reset env =>
    if Passes env (c.cached = .idle) then
      { c with cached := .idle, ctrl0 := ctrl0ResetValue }
    else c
  | .selfTest env => { c with ctrl0 := c.read env }
  | .hardware status =>
    if c.hardware = .busy then { c with hardware := stateOf status } else c
  | .setChDscrConfig _ | .createBDList .. | .start .. | .channelState _ => c

theorem next_base (op : Operation) : (c.next op).base = c.base := by
  cases op with
  | setMode env isSgDma mode =>
    rw [next]
    split
    · exact c.setMode_base env isSgDma mode
    · rfl
  | setChDataConfig | resume | reset | hardware =>
    rw [next]
    split <;> rfl
  | setChDscrConfig | createBDList | start | enable | channelState | selfTest => rfl

end Channel

end XZDma

namespace System

variable (s : System)

def channel : Channel where
  base := s.dma.config.baseAddress
  cached := s.dma.channelState
  hardware := stateOf (s.reg .sts)
  isSgDma := s.dma.isSgDma
  mode := s.dma.mode
  ctrl0 := s.reg .ctrl0

@[simp] theorem clearLog_channel : s.clearLog.channel = s.channel := rfl

@[simp] theorem read_channel (r : Register) : (s.read r).channel = s.channel := rfl

@[simp] theorem store_channel (a : BitVec 64) (width value : ℕ) :
    (s.store a width value).channel = s.channel := rfl

theorem write_channel {r : Register} (v : BitVec 32) (ctrl0 : r ≠ .ctrl0) (sts : r ≠ .sts) :
    (s.write r v).channel = s.channel := by
  simp only [channel, write_dma, write_reg, if_neg ctrl0.symm, if_neg sts.symm]

@[simp] theorem write_ctrl0_channel (v : BitVec 32) :
    (s.write .ctrl0 v).channel = { s.channel with ctrl0 := v } := by
  simp only [channel, write_dma, write_reg, ite_true, reduceCtorEq, ite_false]

theorem withDma_channel {f : XZDma → XZDma} (same : ∀ i, (f i).config = i.config) :
    (s.withDma f).channel =
      { s.channel with
        cached := (f s.dma).channelState
        isSgDma := (f s.dma).isSgDma
        mode := (f s.dma).mode } := by
  simp only [channel, withDma_dma, s.withDma_reg same, same]

theorem report_channel (status : BitVec 32) :
    (s.report s.dma.config.baseAddress status).channel =
      { s.channel with hardware := stateOf status } := by
  have reg (r : Register) : (s.report s.dma.config.baseAddress status).reg r =
      if r = .sts then status else s.reg r :=
    s.report_channelReg s.dma.config.baseAddress status r
  simp only [channel, reg, ite_true, reduceCtorEq, ite_false]
  rfl

end System

end ZynqmpDma
