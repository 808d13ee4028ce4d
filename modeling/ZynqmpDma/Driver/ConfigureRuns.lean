import ZynqmpDma.Driver.DmaDriver
import ZynqmpDma.Process.Ledger
import ZynqmpDma.XZDma.ControlRuns
import ZynqmpDma.XZDma.DeviceWalk
import ZynqmpDma.XZDma.Footprint

namespace ZynqmpDma

open Base XZDma

def Env.ClockActivates (env : Env) : Prop := env.devMemOpens = true ∧ env.devMemMmaps = true

instance (env : Env) : Decidable env.ClockActivates := inferInstanceAs (Decidable (_ ∧ _))

/-- The over-fetch bit of CTRL0 reads back as set once it is set in the reset value. -/
def Env.SelfTestPasses (env : Env) (base : BitVec 64) : Prop :=
  let readBack := env.readBack (base + Register.offset .ctrl0)
  readBack (readBack ctrl0ResetValue ||| ctrl0OvrFetchMask) &&& ctrl0OvrFetchMask =
    ctrl0OvrFetchMask

instance (env : Env) (base : BitVec 64) : Decidable (env.SelfTestPasses base) :=
  inferInstanceAs (Decidable (_ = _))

/-- The scatter-gather mode reads back from CTRL0 once it is written there. -/
def Env.KeepsMode (env : Env) (base : BitVec 64) : Prop :=
  let readBack := env.readBack (base + Register.offset .ctrl0)
  readBack (sgModeBits (readBack (readBack ctrl0ResetValue))) &&&
    (ctrl0PointTypeMask ||| ctrl0ModeMask) = ctrl0PointTypeMask

instance (env : Env) (base : BitVec 64) : Decidable (env.KeepsMode base) :=
  inferInstanceAs (Decidable (_ = _))

def clkStatus (env : Env) : ℤ := if env.devMemOpens then if env.devMemMmaps then 0 else -2 else -1

theorem clkStatus_eq_zero (env : Env) : clkStatus env = 0 ↔ env.ClockActivates := by
  cases opens : env.devMemOpens <;> cases maps : env.devMemMmaps <;>
    simp [clkStatus, Env.ClockActivates, opens, maps]

/-- `s'` differs from `s` in the clock register and the history of system calls at most. -/
structure OnlyClock (s s' : System) : Prop where
  dma : s'.dma = s.dma
  mem : s'.machine.mem = s.machine.mem
  io : s'.machine.io = s.machine.io
  log : s'.machine.log = s.machine.log
  fds : s'.process.fds = s.process.fds
  pages : s'.process.pages = s.process.pages

theorem OnlyClock.refl (s : System) : OnlyClock s s := ⟨rfl, rfl, rfl, rfl, rfl, rfl⟩

theorem activateFpdDmaClk_run (env : Env) (s : System) :
    ∃ s', activateFpdDmaClk env s = .ok (clkStatus env) s' ∧ OnlyClock s s' := by
  have page := (env.kernel.pagesFor_eq_one env.kernel.pageSize_pos.ne').mpr le_rfl
  cases opens : env.devMemOpens with
  | false =>
    simp only [activateFpdDmaClk, clkStatus, opens, Bool.false_eq_true, ite_false]
    exact ⟨_, rfl, rfl, rfl, rfl, rfl, rfl, rfl⟩
  | true =>
    cases maps : env.devMemMmaps with
    | false =>
      simp only [activateFpdDmaClk, clkStatus, opens, maps, Bool.false_eq_true, ite_false, ite_true]
      exact ⟨_, rfl, rfl, rfl, rfl, rfl, Process.close_fresh env.kernel s.process rfl, rfl⟩
    | true =>
      simp only [activateFpdDmaClk, clkStatus, opens, maps, ite_true]
      exact ⟨_, rfl, rfl, rfl, rfl, rfl, Process.close_fresh env.kernel s.process rfl,
        Process.munmap_fresh env.kernel (s.process.openFd env.kernel "/dev/mem") page rfl⟩

namespace DmaDriverImpl

variable (d : DmaDriverImpl)

def cfgShared (length : ℕ) : SharedBuffer where
  virt := d.cfgAddr
  phys := d.cfgBuf.physAddr.toNat
  length := length

/-- The registers are mapped, and 4096 bytes from the address of the cfg buffer on do not wrap
    around. -/
structure Mapped : Prop where
  uio : d.zdmaConfig.baseAddress ≠ 0
  cfg : 0 < d.cfgBuf.buf
  room : d.cfgBuf.buf + 4096 ≤ 2 ^ 64

section Mapped

variable {d}

theorem Mapped.offset_toNat (mapped : d.Mapped) {o : ℕ} (bound : o < 4096) :
    (d.cfgAddr + BitVec.ofNat 64 o).toNat = d.cfgBuf.buf + o := by
  have room := mapped.room
  unfold cfgAddr
  rw [← BitVec.ofNat_add, BitVec.toNat_ofNat, Nat.mod_eq_of_lt (by omega)]

theorem Mapped.offset_ne_zero (mapped : d.Mapped) {o : ℕ} (bound : o < 4096) :
    d.cfgAddr + BitVec.ofNat 64 o ≠ 0 := by
  have positive := mapped.cfg
  have value := mapped.offset_toNat bound
  have none : (0 : BitVec 64).toNat = 0 := rfl
  intro zero
  rw [zero, none] at value
  omega

theorem Mapped.cfgAddr_ne_zero (mapped : d.Mapped) : d.cfgAddr ≠ 0 := by
  have start := mapped.offset_ne_zero (show 0 < 4096 by decide)
  rw [show BitVec.ofNat 64 0 = 0#64 from rfl, BitVec.add_zero] at start
  exact start

end Mapped

def tables : Descriptor where
  srcDscrPtr := d.cfgAddr
  physSrcDscrPtr := d.cfgBuf.physAddr.setWidth 64
  dstDscrPtr := d.cfgAddr + BitVec.ofNat 64 2048
  physDstDscrPtr := d.cfgBuf.physAddr.setWidth 64 + BitVec.ofNat 64 2048
  dscrCount := 128
  dscrType := .linear

def configuredInstance : XZDma where
  config := d.zdmaConfig
  isReady := xilComponentIsReady
  intrMask := 0
  mode := .normalMode
  isSgDma := TRUE
  descriptor := d.tables
  dataConfig := zdmaDataConfig
  dscrConfig := { axCoherent := 0, axCache := 0, axQos := 0 }
  channelState := .idle

def configuredControl (env : Env) (base : BitVec 64) : ControlValues where
  ctrl0 :=
    let readBack := env.readBack (base + Register.offset .ctrl0)
    overFetchBits (readBack (sgModeBits (readBack (readBack ctrl0ResetValue)))) zdmaDataConfig
  ctrl1 := srcIssueBits (env.readBack (base + Register.offset .ctrl1) ctrl1ResetValue)
    zdmaDataConfig
  ctrl2 := chCtrl2DisMask
  dataAttr := env.readBack (base + Register.offset .dataAttr) dataAttrResetValue &&&
    ~~~dataAttrMask ||| dataAttrBits zdmaDataConfig
  dscrAttr := dscrAttrResetValue

theorem createBDList_run (env : Env) (s : System) (mapped : d.cfgAddr ≠ 0) :
    createBDList env .linear d.cfgAddr (d.cfgBuf.physAddr.setWidth 64) 4096 s =
      .ok 128 (s.withDma fun i => { i with descriptor := d.tables }) := by
  unfold createBDList
  rw [xilAssert_holds _ _ _ mapped, xilAssert_holds _ _ _ (by decide)]
  rfl

variable (env : Env) (requests : List TransferRequest)

theorem configureChannel_selfTestFails {s : System} (reset : s.control = resetControl 0)
    (fails : ¬ env.SelfTestPasses s.dma.config.baseAddress) :
    ∃ s', d.configureChannel env requests s = .ok xstFailure s' ∧
      Accesses RegisterAccess s s' := by
  obtain ⟨t, run, _⟩ := selfTest_run env s
  have status : selfTestStatus (env.readBack (s.addr .ctrl0)) s.control.ctrl0 = xstFailure := by
    rw [reset]
    exact if_pos fails
  rw [status] at run
  have fails : d.configureChannel env requests s = .ok xstFailure t := by
    unfold configureChannel
    rw [bind_ok _ run]
    rfl
  exact ⟨t, fails, (steps_selfTest env fun _ _ access => access).of_ok run⟩

structure ReadyToStart (s t : System) : Prop where
  dma : t.dma = d.configuredInstance
  control : t.control = configuredControl env d.zdmaConfig.baseAddress
  mem : t.machine.mem = s.machine.mem
  accesses : Accesses RegisterAccess s t

/-- When the self-test passes, the channel is set up and only the start is left. -/
theorem configureChannel_reaches {s : System} {old : Descriptor} (mapped : d.cfgAddr ≠ 0)
    (reset : s.control = resetControl 0)
    (fresh : s.dma = initialized d.zdmaConfig d.zdmaConfig.baseAddress old)
    (works : env.SelfTestPasses d.zdmaConfig.baseAddress) :
    ∃ t, d.configureChannel env requests s =
        (do let _ ← start env (transferData env requests) (BitVec.ofNat 32 requests.length)
            pure 0) t ∧ d.ReadyToStart env s t := by
  have base : s.dma.config.baseAddress = d.zdmaConfig.baseAddress := by
    rw [fresh]
    rfl
  obtain ⟨t₁, tested, dma₁, mem₁, -, control₁⟩ := selfTest_run env s
  have passed : selfTestStatus (env.readBack (s.addr .ctrl0)) s.control.ctrl0 = xstSuccess := by
    rw [reset, System.addr, base]
    exact if_neg (not_not.mpr works)
  rw [passed] at tested
  have idle₁ : t₁.dma.channelState = .idle := by
    rw [dma₁, fresh]
    rfl
  obtain ⟨t₂, moded, dma₂, mem₂, -, control₂⟩ := setMode_sg_run env t₁ idle₁
  have laid := d.createBDList_run env t₂ mapped
  have idle₃ :
      (t₂.withDma fun i => { i with descriptor := d.tables }).dma.channelState = .idle := by
    rw [System.withDma_dma, dma₂]
    exact idle₁
  obtain ⟨t₄, configured, dma₄, mem₄, -, -, control₄⟩ :=
    setChDataConfig_run env zdmaDataConfig _ idle₃
  have steps : Accesses RegisterAccess s t₄ := by
    have first := (steps_selfTest env fun _ _ access => access).of_ok tested
    have second := (steps_setMode env (fun _ _ access => access) _ _).of_ok moded
    have third := (steps_createBDList (P := RegisterAccess) env _ _ _ _).of_ok laid
    have fourth := (steps_setChDataConfig env (fun _ _ access => access) _).of_ok configured
    exact ((first.trans second).trans third).trans fourth
  have reaches : d.configureChannel env requests s =
      (do let _ ← start env (transferData env requests) (BitVec.ofNat 32 requests.length)
          pure 0) t₄ := by
    unfold configureChannel
    rw [bind_ok _ tested, if_neg (by decide), bind_ok _ moded,
      if_neg (by decide), bind_ok _ laid, bind_ok _ configured]
  have dma : t₄.dma = d.configuredInstance := by
    rw [dma₄, System.withDma_dma, dma₂, dma₁, fresh]
    rfl
  have base₁ : t₁.dma.config.baseAddress = d.zdmaConfig.baseAddress := by rw [dma₁, base]
  have base₂ : t₂.dma.config.baseAddress = d.zdmaConfig.baseAddress := by
    rw [dma₂]
    exact base₁
  have control : t₄.control = configuredControl env d.zdmaConfig.baseAddress := by
    rw [control₄, System.withDma_control _ (by intro i; rfl), control₂, control₁, reset]
    simp only [System.addr, System.withDma_dma, base, base₁, base₂, configuredControl]
    rfl
  have mem : t₄.machine.mem = s.machine.mem := by
    rw [mem₄, System.withDma_machine, mem₂, mem₁]
  exact ⟨t₄, reaches, dma, control, mem, steps⟩

section Footprint

def configuredRegisters : List Register := Register.all.filter (· ≠ .sts)

theorem touches_initializeChannel {place : Set (BitVec 64)} :
    Touches resetRegisters place (initializeChannel env) := by
  apply Built.andThen (touches_reset env)
  apply Built.andThen touches_getConfigurations
  exact .pure _

theorem touches_configureChannel :
    Touches configuredRegisters Set.univ (d.configureChannel env requests) := by
  have all {regs : List Register} {α : Type} {x : Prog α} (touches : Touches regs Set.univ x)
      (other : regs ⊆ configuredRegisters) : Touches configuredRegisters Set.univ x :=
    touches.mono other subset_rfl
  apply Built.bind (all (touches_selfTest env) (by decide))
  intro tested
  apply Built.ite (.pure _)
  apply Built.bind (all (touches_setMode env _ _) (by decide))
  intro moded
  apply Built.ite (.pure _)
  apply Built.bind (all (touches_createBDList env _ _ _ _) (List.nil_subset _))
  intro dscrCount
  apply Built.bind (all (touches_setChDataConfig env _) (by decide))
  intro configured
  apply Built.bind (all (touches_start env _ _) (by decide))
  intro started
  exact .pure _

/-- `configureDMA` from where the instance is pointed at the channel. -/
def configurePointed : Prog ℤ := do
  let status ← initializeChannel env
  if status ≠ xstSuccess then pure xstFailure else d.configureChannel env requests

theorem touches_configurePointed :
    Touches configuredRegisters Set.univ (d.configurePointed env requests) := by
  apply Built.bind ((touches_initializeChannel env).mono (by decide) subset_rfl)
  intro status
  exact Built.ite (.pure _) (d.touches_configureChannel env requests)

variable {d}

theorem configureDMA_pointed (mapped : d.zdmaConfig.baseAddress ≠ 0)
    (fits : requests.length ≤ 32) (clock : env.ClockActivates) (s : System) :
    ∃ t, OnlyClock s t ∧ d.configureDMA env requests s =
      d.configurePointed env requests (pointed d.zdmaConfig d.zdmaConfig.baseAddress t) := by
  obtain ⟨t, activated, only⟩ := activateFpdDmaClk_run env s
  refine ⟨t, only, ?_⟩
  rw [configureDMA, if_neg (by omega), bind_ok _ activated,
    if_neg (not_not.mpr ((clkStatus_eq_zero env).mpr clock)), configurePointed, bind_run, bind_run,
    cfgInitialize_pointed d.zdmaConfig t (.inl mapped)]

/-- A `configureDMA` that gets past the clock leaves the status of the channel as it is. -/
theorem configureDMA_sts (mapped : d.zdmaConfig.baseAddress ≠ 0) (fits : requests.length ≤ 32)
    (clock : env.ClockActivates) (s : System) :
    (finalState (d.configureDMA env requests s)).machine.channelReg d.zdmaConfig.baseAddress .sts =
      s.machine.channelReg d.zdmaConfig.baseAddress .sts := by
  obtain ⟨t, only, run⟩ := configureDMA_pointed env requests mapped fits clock s
  let u := pointed d.zdmaConfig d.zdmaConfig.baseAddress t
  have within := (d.touches_configurePointed env requests).within u
  have channel : u.dma.config.baseAddress = d.zdmaConfig.baseAddress := rfl
  have kept := within.reg (show Register.sts ∉ configuredRegisters by decide)
  rw [run, System.channelReg_eq _ _ ((congrArg Config.baseAddress within.config).trans channel),
    kept, ← System.channelReg_eq _ _ channel]
  show t.machine.io _ = s.machine.io _
  rw [only.io]

end Footprint

end DmaDriverImpl

end ZynqmpDma
