import ZynqmpDma.XZDma.Accesses

namespace ZynqmpDma

open Base

structure ControlValues where
  ctrl0 : BitVec 32
  ctrl1 : BitVec 32
  ctrl2 : BitVec 32
  dataAttr : BitVec 32
  dscrAttr : BitVec 32
deriving DecidableEq, Repr

def System.control (s : System) : ControlValues where
  ctrl0 := s.reg .ctrl0
  ctrl1 := s.reg .ctrl1
  ctrl2 := s.reg .ctrl2
  dataAttr := s.reg .dataAttr
  dscrAttr := s.reg .dscrAttr

@[simp] theorem System.withDma_control (s : System) {f : XZDma → XZDma}
    (same : ∀ i, (f i).config = i.config) : (s.withDma f).control = s.control := by
  simp only [control, s.withDma_reg same]

namespace XZDma

variable (env : Env)

def resetDscrAttr (isCacheCoherent : BitVec 8) : BitVec 32 :=
  if isCacheCoherent = 0 then dscrAttrResetValue
  else isCacheCoherent.setWidth 32 <<< dscrAttrAxcohrntShift

def resetControl (isCacheCoherent : BitVec 8) : ControlValues where
  ctrl0 := ctrl0ResetValue
  ctrl1 := ctrl1ResetValue
  ctrl2 := chCtrl2DisMask
  dataAttr := dataAttrResetValue
  dscrAttr := resetDscrAttr isCacheCoherent

theorem resetCoherence_run (isCacheCoherent : BitVec 8) (s : System) :
    ∃ s', resetCoherence isCacheCoherent s = .ok () s' ∧ s'.dma = s.dma ∧
      s'.machine.mem = s.machine.mem ∧ s'.process = s.process ∧
      (∀ e ∈ s.machine.log, e ∈ s'.machine.log) ∧
      (s.reg .dscrAttr = dscrAttrResetValue → s'.reg .dscrAttr = resetDscrAttr isCacheCoherent) ∧
      ∀ r, r ≠ .dscrAttr → r ≠ .srcDscrWord3 → r ≠ .dstDscrWord3 → s'.reg r = s.reg r := by
  by_cases noncoherent : isCacheCoherent = 0
  · rw [resetCoherence, if_neg (not_not.mpr noncoherent), resetDscrAttr, if_pos noncoherent]
    exact ⟨s, rfl, rfl, rfl, rfl, fun _ member => member, fun reset => reset, fun _ _ _ _ => rfl⟩
  · rw [resetCoherence, if_pos noncoherent, resetDscrAttr, if_neg noncoherent]
    refine ⟨_, rfl, rfl, rfl, rfl, ?_, ?_, ?_⟩
    · intro e member
      exact List.mem_cons_of_mem _ (List.mem_cons_of_mem _ (List.mem_cons_of_mem _ member))
    · intro _
      rw [System.write_reg, if_neg (by decide), System.write_reg, if_neg (by decide),
        System.write_reg, if_pos rfl]
    · intro r dscrAttr src dst
      rw [System.write_reg, if_neg dst, System.write_reg, if_neg src, System.write_reg,
        if_neg dscrAttr]

theorem reset_run (s : System) (idle : Passes env (s.dma.channelState = .idle)) :
    ∃ s', reset env s = .ok () s' ∧
      s'.dma = { s.dma with intrMask := 0, channelState := .idle } ∧
      s'.machine.mem = s.machine.mem ∧ s'.process = s.process ∧
      s'.reg .ctrl0 = ctrl0ResetValue ∧ s'.reg .sts = s.reg .sts ∧
      s'.control = resetControl s.dma.config.isCacheCoherent ∧
      .write (s.dma.config.baseAddress + Register.offset .ctrl2) chCtrl2DisMask ∈
        s'.machine.log := by
  unfold reset
  rw [bind_ok _ (getInstance_run s), xilAssert_passes _ _ idle]
  simp only [bind_run, disableCh, disableIntr, intrClear, totalByteClear, getSrcIntrCnt,
    getDstIntrCnt, readReg_run, writeReg_run, setInstance_run]
  generalize before : System.read _ .irqDstAcct = t
  obtain ⟨s', run, dma, mem, process, log, attr, kept⟩ :=
    resetCoherence_run s.dma.config.isCacheCoherent t
  simp only [run]
  have control : t.control = resetControl 0 := by
    subst before
    simp only [System.control, resetControl, resetDscrAttr, System.read_reg, System.write_reg,
      reduceCtorEq, ite_true, ite_false, System.withDma_reg, implies_true]
  have sts : t.reg .sts = s.reg .sts := by
    subst before
    simp only [System.read_reg, System.write_reg, reduceCtorEq, ite_false, System.withDma_reg,
      implies_true]
  refine ⟨_, rfl, ?_, ?_, ?_, ?_, ?_, ?_, ?_⟩
  · rw [System.withDma_dma, dma, ← before]
    simp only [System.read_dma, System.write_dma, System.withDma_dma]
  · rw [System.withDma_machine, mem, ← before]
    simp only [System.read_mem, System.write_mem, System.withDma_machine]
  · rw [System.withDma_process, process, ← before]
    simp only [System.read_process, System.write_process, System.withDma_process]
  · rw [System.withDma_reg _ (by intro i; rfl), kept .ctrl0 (by decide) (by decide) (by decide)]
    exact congrArg ControlValues.ctrl0 control
  · rw [System.withDma_reg _ (by intro i; rfl), kept .sts (by decide) (by decide) (by decide), sts]
  · rw [System.withDma_control _ (by intro i; rfl)]
    have coherent := attr (congrArg ControlValues.dscrAttr control)
    have others (r : Register) (member : r ∈ [Register.ctrl0, .ctrl1, .ctrl2, .dataAttr]) :
        s'.reg r = t.reg r := by
      have other : ∀ r ∈ [Register.ctrl0, .ctrl1, .ctrl2, .dataAttr],
          r ≠ .dscrAttr ∧ r ≠ .srcDscrWord3 ∧ r ≠ .dstDscrWord3 := by decide
      obtain ⟨dscrAttr, src, dst⟩ := other r member
      exact kept r dscrAttr src dst
    rw [System.control, coherent, others .ctrl0 (by decide), others .ctrl1 (by decide),
      others .ctrl2 (by decide), others .dataAttr (by decide)]
    exact congrArg
      (fun control => { control with dscrAttr := resetDscrAttr s.dma.config.isCacheCoherent })
      control
  · rw [System.withDma_machine]
    apply log
    rw [← before]
    simp only [System.read_log, System.write_log, System.withDma_machine, List.mem_cons, true_or,
      or_true]

def initialized (cfg : Config) (effectiveAddr : BitVec 64) (old : Descriptor) : XZDma where
  config := { cfg with baseAddress := effectiveAddr }
  isReady := xilComponentIsReady
  intrMask := 0
  mode := .normalMode
  isSgDma := FALSE
  descriptor := old
  dataConfig := resetDataConfig
  dscrConfig := { axCoherent := 0, axCache := 0, axQos := 0 }
  channelState := .idle

/-- The instance is pointed at the channel, which is still as it was. -/
def pointed (cfg : Config) (effectiveAddr : BitVec 64) (s : System) : System :=
  s.withDma fun i =>
    { i with
      config := { cfg with baseAddress := effectiveAddr }
      isReady := xilComponentIsReady
      isSgDma := FALSE
      mode := .normalMode
      intrMask := 0
      channelState := .idle }

def withResetConfig (s : System) : System :=
  s.withDma fun i =>
    { i with
      dataConfig := resetDataConfig
      dscrConfig := { axCoherent := 0, axCache := 0, axQos := 0 } }

/-- `XZDma_CfgInitialize` from where the instance is pointed at the channel. -/
def initializeChannel : Prog ℤ := do
  reset env
  getConfigurations
  pure xstSuccess

variable {env} in
theorem cfgInitialize_pointed (cfg : Config) {effectiveAddr : BitVec 64} (s : System)
    (mapped : Passes env (effectiveAddr ≠ 0)) :
    cfgInitialize env cfg effectiveAddr s = initializeChannel env (pointed cfg effectiveAddr s) := by
  rw [cfgInitialize, xilAssert_passes _ _ mapped, bind_ok _ (setInstance_run _ s)]
  rfl

variable {env} in
theorem cfgInitialize_of_reset {cfg : Config} {effectiveAddr : BitVec 64} {s t : System}
    (mapped : Passes env (effectiveAddr ≠ 0))
    (run : reset env (pointed cfg effectiveAddr s) = .ok () t) :
    cfgInitialize env cfg effectiveAddr s = .ok xstSuccess (withResetConfig t) := by
  rw [cfgInitialize_pointed cfg s mapped, initializeChannel, bind_ok _ run]
  rfl

/-- Initializing accesses the new channel only, and disables it on the way. -/
theorem cfgInitialize_run (cfg : Config) (effectiveAddr : BitVec 64) (s : System)
    (mapped : effectiveAddr ≠ 0) :
    ∃ s', cfgInitialize env cfg effectiveAddr s = .ok xstSuccess s' ∧
      s'.dma = initialized cfg effectiveAddr s.dma.descriptor ∧
      s'.machine.mem = s.machine.mem ∧ s'.control = resetControl cfg.isCacheCoherent ∧
      Accesses RegisterAccess { s with dma := s'.dma } s' ∧
      .write (effectiveAddr + Register.offset .ctrl2) chCtrl2DisMask ∈ s'.machine.log := by
  obtain ⟨t, run, dma, mem, process, _, _, control, disabled⟩ :=
    reset_run env (pointed cfg effectiveAddr s) (.inl rfl)
  have log := ((steps_reset env fun _ _ access => access).of_ok run).log
  refine ⟨_, cfgInitialize_of_reset (.inl mapped) run, ?_, mem, ?_, ⟨rfl, process, ?_⟩, disabled⟩
  · rw [withResetConfig, System.withDma_dma, dma]
    rfl
  · rw [withResetConfig, System.withDma_control _ (by intro i; rfl), control]
    rfl
  · rw [withResetConfig, System.withDma_dma, System.withDma_machine, dma]
    exact log

def selfTestStatus (readBack : BitVec 32 → BitVec 32) (ctrl0 : BitVec 32) : ℤ :=
  if readBack (readBack ctrl0 ||| ctrl0OvrFetchMask) &&& ctrl0OvrFetchMask ≠ ctrl0OvrFetchMask
  then xstFailure else xstSuccess

theorem selfTest_run (s : System) :
    ∃ s', selfTest env s = .ok (selfTestStatus
          (env.readBack (s.addr .ctrl0)) s.control.ctrl0) s' ∧
      s'.dma = s.dma ∧ s'.machine.mem = s.machine.mem ∧ s'.process = s.process ∧
      s'.control = { s.control with
        ctrl0 := env.readBack (s.addr .ctrl0) s.control.ctrl0 } := by
  simp only [selfTest, bind_run, readReg_run, writeReg_run, pure_run, System.read_reg,
    System.write_reg, System.write_addr, System.read_addr, ite_true]
  refine ⟨_, rfl, ?_, ?_, ?_, ?_⟩
  · simp
  · simp
  · simp
  · simp [System.control]

def moded (s : System) (isSgDma : BitVec 8) (mode : Mode) (ctrl0 : BitVec 32) : System :=
  ((s.read .ctrl0).write .ctrl0 ctrl0).withDma fun i => { i with isSgDma := isSgDma, mode := mode }

theorem setMode_run {isSgDma : BitVec 8} (mode : Mode) (s : System)
    (flag : Passes env (isSgDma = TRUE ∨ isSgDma = FALSE)) (idle : s.dma.channelState = .idle) :
    setMode env isSgDma mode s =
      if isSgDma ≠ TRUE then
        .ok xstSuccess (moded s FALSE mode (simpleModeBits
          (env.readBack (s.addr .ctrl0) (s.reg .ctrl0) &&& ~~~ctrl0PointTypeMask) mode))
      else if mode ≠ .normalMode then .ok xstFailure (s.read .ctrl0)
      else .ok xstSuccess
        (moded s TRUE mode (sgModeBits (env.readBack (s.addr .ctrl0) (s.reg .ctrl0)))) := by
  have free : ¬ s.dma.channelState ≠ .idle := not_not.mpr idle
  rw [setMode, xilAssert_passes _ _ flag, bind_ok _ (getInstance_run s), if_neg free,
    bind_ok _ (readReg_run env .ctrl0 s)]
  by_cases simple : isSgDma ≠ TRUE
  · rw [if_pos simple, if_pos simple]
    rfl
  · rw [if_neg simple, if_neg simple]
    by_cases normal : mode = .normalMode
    · rw [if_neg (not_not.mpr normal), if_neg (not_not.mpr normal)]
      rfl
    · rw [if_pos normal, if_pos normal]
      rfl

theorem setMode_refused {isSgDma : BitVec 8} (mode : Mode) {s : System}
    (flag : Passes env (isSgDma = TRUE ∨ isSgDma = FALSE)) (other : s.dma.channelState ≠ .idle) :
    setMode env isSgDma mode s = .ok xstFailure s := by
  rw [setMode, xilAssert_passes _ _ flag, bind_ok _ (getInstance_run s), if_pos other]
  rfl

theorem setMode_sg_run (s : System) (idle : s.dma.channelState = .idle) :
    ∃ s', setMode env TRUE .normalMode s = .ok xstSuccess s' ∧
      s'.dma = { s.dma with isSgDma := TRUE, mode := .normalMode } ∧
      s'.machine.mem = s.machine.mem ∧ s'.process = s.process ∧
      s'.control = { s.control with
        ctrl0 := sgModeBits (env.readBack (s.addr .ctrl0) s.control.ctrl0) } := by
  have sg : ¬ TRUE ≠ TRUE := not_not.mpr rfl
  have normal : ¬ Mode.normalMode ≠ .normalMode := not_not.mpr rfl
  rw [setMode_run env .normalMode s (.inl (.inl rfl)) idle, if_neg sg, if_neg normal]
  refine ⟨_, rfl, rfl, rfl, rfl, ?_⟩
  rw [moded, System.withDma_control _ (by intro i; rfl)]
  simp [System.control]

theorem and_update (v : BitVec 32) {a b m : BitVec 32} (uncleared : ~~~a &&& m = m)
    (unset : b &&& m = 0) : (v &&& ~~~a ||| b) &&& m = v &&& m := by
  rw [BitVec.and_or_distrib_right, BitVec.and_assoc, uncleared, unset]
  exact BitVec.or_zero

theorem overFetchBits_and (v : BitVec 32) {m : BitVec 32} (configure : DataConfig)
    (uncleared : ~~~ctrl0OvrFetchMask &&& m = m) (apart : ctrl0OvrFetchMask &&& m = 0) :
    overFetchBits v configure &&& m = v &&& m := by
  refine and_update v uncleared ?_
  rw [BitVec.and_assoc, apart]
  exact BitVec.and_zero

theorem setChDataConfig_run (configure : DataConfig) (s : System)
    (idle : s.dma.channelState = .idle) :
    ∃ s', setChDataConfig env configure s = .ok xstSuccess s' ∧
      s'.dma = { s.dma with dataConfig := configure } ∧
      s'.machine.mem = s.machine.mem ∧ s'.process = s.process ∧ s'.reg .sts = s.reg .sts ∧
      s'.control = { s.control with
        ctrl0 := overFetchBits (env.readBack (s.addr .ctrl0) s.control.ctrl0) configure
        ctrl1 := srcIssueBits (env.readBack (s.addr .ctrl1) s.control.ctrl1) configure
        dataAttr := env.readBack (s.addr .dataAttr) s.control.dataAttr &&& ~~~dataAttrMask |||
          dataAttrBits configure } := by
  simp only [setChDataConfig, bind_run, getInstance_run, idle, ne_eq, not_true_eq_false, ite_false,
    readReg_run, writeReg_run, setInstance_run, pure_run]
  refine ⟨_, rfl, ?_, ?_, ?_, ?_, ?_⟩
  · simp [idle]
  · simp
  · simp
  · simp
  · simp [System.control]

theorem setChDataConfig_refused (configure : DataConfig) {s : System}
    (other : s.dma.channelState ≠ .idle) :
    setChDataConfig env configure s = .ok xstFailure s := by
  rw [setChDataConfig, bind_ok _ (getInstance_run s), if_pos other]
  rfl

theorem setChDscrConfig_refused (configure : DscrConfig) {s : System}
    (other : s.dma.channelState ≠ .idle) :
    setChDscrConfig configure s = .ok xstFailure s := by
  rw [setChDscrConfig, bind_ok _ (getInstance_run s), if_pos other]
  rfl

end XZDma

end ZynqmpDma
