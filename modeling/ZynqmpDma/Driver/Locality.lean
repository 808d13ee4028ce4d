import ZynqmpDma.Base.Built
import ZynqmpDma.Driver.HandOut
import ZynqmpDma.Driver.Program

namespace ZynqmpDma

open Base XZDma

namespace DmaDriverImpl

variable (d : DmaDriverImpl)

def Sees (s s' : System) : Prop :=
  SameView d.zdmaConfig.baseAddress d.cfgNear s.clearLog s'.clearLog

/-- `t` is `s`, but for the driver's channel and the bytes of its cfg buffer. -/
structure Spares (s t : System) : Prop where
  io : ∀ a, (∀ r, a ≠ d.zdmaConfig.baseAddress + Register.offset r) →
    t.machine.io a = s.machine.io a
  mem : Set.EqOn t.machine.mem s.machine.mem d.cfgNearᶜ

variable {d} {s s' t u : System} (env : Env) (requests : List TransferRequest)

theorem Spares.refl (s : System) : d.Spares s s := ⟨fun _ _ => rfl, Set.eqOn_refl _ _⟩

theorem Spares.trans (first : d.Spares s t) (second : d.Spares t u) : d.Spares s u where
  io a other := (second.io a other).trans (first.io a other)
  mem := second.mem.trans first.mem

theorem Spares.of_clearLog (spares : d.Spares s.clearLog t) : d.Spares s t :=
  ⟨spares.io, spares.mem⟩

theorem Spares.of_onlyClock (only : OnlyClock s t) : d.Spares s t where
  io a _ := by rw [only.io]
  mem a _ := by rw [only.mem]

theorem Spares.of_within {regs : List Register} {place : Set (BitVec 64)}
    (within : Within regs place s t) (inside : place ⊆ d.cfgNear)
    (channel : s.dma.config.baseAddress = d.zdmaConfig.baseAddress) : d.Spares s t where
  io a other := by
    apply within.io
    intro r _
    rw [System.addr, channel]
    exact other r
  mem := within.mem.mono (Set.compl_subset_compl.mpr inside)

theorem Spares.report (status : BitVec 32) :
    d.Spares s (s.report d.zdmaConfig.baseAddress status) where
  io _ other := Function.update_of_ne (other .sts) _ _
  mem := Set.eqOn_refl _ _

theorem sameView_of_onlyClock {base : BitVec 64} {own : Set (BitVec 64)} {u' : System}
    (same : SameView base own s s') (only : OnlyClock s u) (only' : OnlyClock s' u') :
    SameView base own u u' where
  dma := by rw [only.dma, only'.dma, same.dma]
  regs r := by
    have reg := same.regs r
    rwa [Machine.channelReg, Machine.channelReg, ← only.io, ← only'.io] at reg
  mem := by
    rw [only.mem, only'.mem]
    exact same.mem
  log := by rw [only.log, only'.log, same.log]

/-- The pairs of 32 requests at most lie in the cfg buffer. -/
theorem tables_within (fits : requests.length ≤ 32) :
    d.tables.Within (BitVec.ofNat 32 requests.length) d.cfgNear := by
  have slot (o i : ℕ) (room : o + 16 * i + 16 ≤ 4096) :
      block (d.cfgAddr + BitVec.ofNat 64 o + BitVec.ofNat 64 i * BitVec.ofNat 64 16) 16 ⊆
        d.cfgNear := by
    have place : d.cfgAddr + BitVec.ofNat 64 o + BitVec.ofNat 64 i * BitVec.ofNat 64 16 =
        d.cfgAddr + BitVec.ofNat 64 (o + 16 * i) := by
      rw [BitVec.ofNat_add, ← BitVec.ofNat_mul, Nat.mul_comm, BitVec.add_assoc]
    rw [place]
    exact block_field_subset room (show 4096 ≤ 2 ^ 64 by decide)
  intro i now
  have bound : i < 128 := by
    rcases now with rfl | below
    · decide
    · rw [BitVec.toNat_ofNat, Nat.mod_eq_of_lt (by omega)] at below
      omega
  refine ⟨?_, slot 2048 i (by omega)⟩
  have first := slot 0 i (by omega)
  rwa [show BitVec.ofNat 64 0 = 0#64 from rfl, BitVec.add_zero] at first

theorem configureChannel_within (mapped : d.cfgAddr ≠ 0) (fits : requests.length ≤ 32)
    (idle : s.dma.channelState = .idle) :
    Within Register.all d.cfgNear s (finalState (d.configureChannel env requests s)) := by
  have every (regs : List Register) : regs ⊆ Register.all := fun r _ => r.mem_all
  obtain ⟨t₁, tested, dma₁, _⟩ := selfTest_run env s
  have idle₁ : t₁.dma.channelState = .idle := by rw [dma₁, idle]
  obtain ⟨t₂, moded, dma₂, _⟩ := setMode_sg_run env t₁ idle₁
  have laid := d.createBDList_run env t₂ mapped
  have idle₂ :
      (t₂.withDma fun i => { i with descriptor := d.tables }).dma.channelState = .idle := by
    rw [System.withDma_dma, dma₂]
    exact idle₁
  obtain ⟨t₄, configured, dma₄, _⟩ := setChDataConfig_run env zdmaDataConfig _ idle₂
  have first : Within _ d.cfgNear _ _ := Touches.of_ok (touches_selfTest env) tested
  have second : Within _ d.cfgNear _ _ := Touches.of_ok (touches_setMode env _ _) moded
  have third : Within _ d.cfgNear _ _ := Touches.of_ok (touches_createBDList env _ _ _ _) laid
  have fourth : Within _ d.cfgNear _ _ := Touches.of_ok (touches_setChDataConfig env _) configured
  have tables : t₄.dma.descriptor = d.tables := by
    rw [dma₄]
    rfl
  unfold configureChannel
  rw [bind_ok _ tested]
  refine (first.mono (every _) subset_rfl).trans ?_
  by_cases failed : selfTestStatus (env.readBack (s.addr .ctrl0)) s.control.ctrl0 ≠ xstSuccess
  · rw [if_pos failed]
    exact .refl t₁
  · rw [if_neg failed, bind_ok _ moded, if_neg (by decide), bind_ok _ laid, bind_ok _ configured]
    refine (second.mono (every _) subset_rfl).trans ?_
    refine (third.mono (every _) subset_rfl).trans ?_
    refine (fourth.mono (every _) subset_rfl).trans ?_
    refine Within.bind ?_ fun _ t _ => .refl t
    apply (start_within env (transferData env requests) _).mono (every _) subset_rfl
    rw [tables]
    exact tables_within requests fits

/-- A `configureDMA` writes to its channel and to its cfg buffer only, however it goes. -/
theorem configureDMA_spares (mapped : d.Mapped) (s : System) :
    d.Spares s (finalState (d.configureDMA env requests s)) := by
  by_cases fits : requests.length ≤ 32
  · by_cases clock : env.ClockActivates
    · obtain ⟨t, only, run⟩ := configureDMA_pointed env requests mapped.uio fits clock s
      obtain ⟨u, initializes, dma, _⟩ :=
        cfgInitialize_run env d.zdmaConfig d.zdmaConfig.baseAddress t mapped.uio
      rw [cfgInitialize_pointed _ t (.inl mapped.uio)] at initializes
      have first : Within _ d.cfgNear _ _ :=
        Touches.of_ok (touches_initializeChannel env) initializes
      have idle : u.dma.channelState = .idle := by
        rw [dma]
        rfl
      have second := configureChannel_within env requests mapped.cfgAddr_ne_zero fits idle
      have every : resetRegisters ⊆ Register.all := fun r _ => r.mem_all
      rw [run, configurePointed, bind_ok _ initializes, if_neg (by decide)]
      have spares : d.Spares s (pointed d.zdmaConfig d.zdmaConfig.baseAddress t) :=
        (Spares.of_onlyClock only).trans ⟨fun _ _ => rfl, Set.eqOn_refl _ _⟩
      exact spares.trans
        (.of_within ((first.mono every subset_rfl).trans second) subset_rfl rfl)
    · obtain ⟨t, run, only⟩ := d.configureDMA_noClock env requests s fits clock
      rw [run]
      exact .of_onlyClock only
  · rw [d.configureDMA_tooMany env requests s (by omega)]
    exact .refl s

section Parallel

variable {own : Set (BitVec 64)}

theorem configureDMA_parallel (mapped : d.zdmaConfig.baseAddress ≠ 0) :
    Parallel (SameView d.zdmaConfig.baseAddress own) (d.configureDMA env requests) := by
  intro s s' same
  by_cases fits : requests.length ≤ 32
  · by_cases clock : env.ClockActivates
    · obtain ⟨t, only, run⟩ := configureDMA_pointed env requests mapped fits clock s
      obtain ⟨t', only', run'⟩ := configureDMA_pointed env requests mapped fits clock s'
      obtain ⟨dma, regs, mem, log⟩ := sameView_of_onlyClock same only only'
      have view : SameChannelView d.zdmaConfig.baseAddress own
          (pointed d.zdmaConfig d.zdmaConfig.baseAddress t)
          (pointed d.zdmaConfig d.zdmaConfig.baseAddress t') :=
        ⟨⟨by rw [pointed, pointed, System.withDma_dma, dma]; rfl,
          regs, mem, log⟩, rfl⟩
      rw [run, run']
      exact ((d.touches_configurePointed env requests).parallel _ _ view).mono fun _ _ same =>
        same.toSameView
    · obtain ⟨t, run, only⟩ := d.configureDMA_noClock env requests s fits clock
      obtain ⟨t', run', only'⟩ := d.configureDMA_noClock env requests s' fits clock
      rw [run, run']
      exact .ok _ (sameView_of_onlyClock same only only')
  · rw [d.configureDMA_tooMany env requests s (by omega),
      d.configureDMA_tooMany env requests s' (by omega)]
    exact .ok _ same

theorem report_parallel {base : BitVec 64} (status : BitVec 32) (same : SameView base own s s') :
    SameView base own (s.report base status) (s'.report base status) where
  dma := same.dma
  regs r := by rw [System.report_channelReg, System.report_channelReg, same.regs]
  mem := same.mem
  log := same.log

theorem takeUp_parallel {base : BitVec 64} (same : SameView base own s s') :
    SameView base own (s.takeUp base) (s'.takeUp base) := by
  unfold System.takeUp
  rw [same.log]
  split
  · exact report_parallel _ same
  · exact same

theorem step_parallel (mapped : d.zdmaConfig.baseAddress ≠ 0) (call : Call)
    (uses : call.UsesBase → s.dma.config.baseAddress = d.zdmaConfig.baseAddress)
    (same : SameView d.zdmaConfig.baseAddress own s.clearLog s'.clearLog) :
    Alike (SameView d.zdmaConfig.baseAddress own) (d.step call s) (d.step call s') := by
  cases call with
  | configureDMA env requests => exact configureDMA_parallel env requests mapped _ _ same
  | startDMA =>
    have channel := uses trivial
    have touches : Touches _ Set.univ enable := touches_enable
    have enabled := touches.parallel s.clearLog s'.clearLog ⟨same, channel⟩
    rw [enable_run, enable_run] at enabled
    rw [step_startDMA, step_startDMA]
    exact .ok _ (takeUp_parallel enabled.final.toSameView)
  | checkDMAStatus env =>
    have channel := uses trivial
    have touches : Touches [] Set.univ
        (do let status ← checkDMAStatus env
            pure (status.toNat : ℤ)) := by
      apply Built.bind
      · apply Built.bind (touches_readReg env _)
        exact fun value => .pure _
      · exact fun status => .pure _
    exact (touches.parallel s.clearLog s'.clearLog ⟨same, channel⟩).mono fun _ _ same =>
      same.toSameView
  | hardware status =>
    have busy : s'.machine.Busy d.zdmaConfig.baseAddress ↔
        s.machine.Busy d.zdmaConfig.baseAddress := by
      have sts : s'.machine.channelReg d.zdmaConfig.baseAddress .sts =
          s.machine.channelReg d.zdmaConfig.baseAddress .sts := same.regs .sts
      rw [Machine.Busy, Machine.Busy, sts]
    simp only [step, busy]
    split
    · exact .ok _ (report_parallel _ same)
    · exact .ok _ same

end Parallel

theorem step_spares (mapped : d.Mapped) (call : Call) (s : System)
    (uses : call.UsesBase → s.dma.config.baseAddress = d.zdmaConfig.baseAddress) :
    d.Spares s (finalState (d.step call s)) := by
  cases call with
  | configureDMA env requests =>
    exact .of_clearLog (configureDMA_spares env requests mapped s.clearLog)
  | startDMA =>
    have touches : Touches _ ∅ enable := touches_enable
    have within := touches.within s.clearLog
    rw [enable_run] at within
    have enabled : d.Spares s s.clearLog.enabled :=
      .of_clearLog (.of_within within (Set.empty_subset _) (uses trivial))
    rw [step_startDMA, finalState_ok, System.takeUp]
    split
    · exact enabled.trans (.report _)
    · exact enabled
  | checkDMAStatus env => exact ⟨fun _ _ => rfl, Set.eqOn_refl _ _⟩
  | hardware status =>
    simp only [step]
    split
    · exact .of_clearLog (.report _)
    · exact ⟨fun _ _ => rfl, Set.eqOn_refl _ _⟩

end DmaDriverImpl

end ZynqmpDma
