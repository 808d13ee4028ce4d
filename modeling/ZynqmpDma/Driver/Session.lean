import ZynqmpDma.Driver.Job

namespace ZynqmpDma

open Base XZDma

namespace DmaDriverImpl

variable {d : DmaDriverImpl} {p : Platform} {job : Job}

section Steps

variable {s t : System}

theorem HoldsProgram.report {moves : List (Move 49)} (mapped : d.Mapped)
    (holds : d.HoldsProgram s moves) (status : BitVec 32) :
    d.HoldsProgram (s.report d.zdmaConfig.baseAddress status) moves := by
  have same (r : Register) (other : r ≠ .sts) :
      (s.report d.zdmaConfig.baseAddress status).reg r = s.reg r := by
    have channel : (s.report d.zdmaConfig.baseAddress status).dma.config.baseAddress =
        d.zdmaConfig.baseAddress := holds.channel
    rw [← System.channelReg_eq _ r channel, ← System.channelReg_eq s r holds.channel,
      System.report_channelReg, if_neg other]
  apply holds.congr mapped (s.report d.zdmaConfig.baseAddress status) rfl
  · simp only [System.listStart, System.busStart, same, ne_eq, reduceCtorEq, not_false_eq_true]
  · exact Set.eqOn_refl _ _

theorem Represents.of_report (mapped : d.Mapped) (coherent : d.Coherent p)
    (mem : Set.EqOn p.mover.mem job.mem d.cfgFarᶜ)
    (program : ∀ moves, job.configured = some moves → d.HoldsProgram p.system moves)
    (working : d.Working p.mover job.queue) : d.Represents (d.report p) job where
  coherent := ⟨coherent.cfg, coherent.data⟩
  mem := mem
  status := by
    rw [report, System.report_channelReg, if_pos rfl]
  program moves configured := (program moves configured).report mapped _
  working := working

/-- A call that keeps memory and program changes nothing of what the platform represents. -/
theorem Represents.called {call : Call} {a : ℤ} (buffers : d.Buffers)
    (represents : d.Represents p job) (run : d.step call p.system = .ok a t)
    (kept : d.Kept p.system t) :
    d.called call p = .ok a (d.report ⟨t, p.mover⟩) ∧
      d.Represents (d.report ⟨t, p.mover⟩) job := by
  have coherent : d.Coherent ⟨t, p.mover⟩ := by
    constructor
    · show d.cfgAlias.Agrees t.machine.mem p.mover.mem
      rw [kept.mem]
      exact represents.coherent.cfg
    · show d.dataAlias.Agrees t.machine.mem p.mover.mem
      rw [kept.mem]
      exact represents.coherent.data
  constructor
  · simp only [DmaDriverImpl.called, run, publish_eq coherent]
  · apply Represents.of_report buffers.mapped coherent represents.mem
    · intro moves configured
      exact (represents.program moves configured).kept buffers.mapped kept
    · exact represents.working

/-- What the process changes in the cfg buffer alone, the bus sees there alone. -/
theorem publish_mem (buffers : d.Buffers) (coherent : d.Coherent p)
    (frame : Set.EqOn t.machine.mem p.system.machine.mem d.cfgNearᶜ) :
    Set.EqOn (d.publish ⟨t, p.mover⟩).mover.mem p.mover.mem d.cfgFarᶜ := by
  have data := d.dataAlias_room
  intro x outside
  have cfg : d.cfgAlias.carry t.machine.mem p.mover.mem x = p.mover.mem x :=
    Alias.carry_of_not_mem outside
  by_cases inside : x ∈ block d.dataAlias.far d.dataAlias.length
  · obtain ⟨k, hk, rfl⟩ := Alias.exists_place inside
    have near : d.dataAlias.near + BitVec.ofNat 64 k ∉ d.cfgNear :=
      Set.disjoint_left.mp buffers.near (Alias.offset_mem _ hk (by omega))
    have shown := Alias.carry_agrees t.machine.mem (d.cfgAlias.carry t.machine.mem p.mover.mem)
      (show d.dataAlias.length ≤ 2 ^ 49 by omega)
    exact (shown k hk).trans ((frame near).trans (coherent.data k hk).symm)
  · exact (Alias.carry_of_not_mem inside).trans cfg

theorem Working.idle {m m' : Mover BusKey (LiDscr × LiDscr) BusMemory} (working : d.Working m [])
    (engine : m'.engine = m.engine) : d.Working m' [] where
  follows none := absurd rfl none
  goes := by
    rw [engine]
    exact working.goes
  stops := by
    rw [engine]
    exact working.stops
  avoids := working.avoids

section Calls

variable {env : Env} {requests : List TransferRequest}

theorem Represents.configures (buffers : d.Buffers) (represents : d.Represents p job)
    (idle : job.queue = []) (completes : d.Completes env requests)
    (avoids : ∀ request ∈ requests, d.Avoids request.move) :
    ∃ p', d.happen (.configureDMA env requests) p = .ok 0 p' ∧
      d.Represents p' { job with configured := some (requests.map TransferRequest.move) } := by
  have mapped := buffers.mapped
  have ⟨fits, clock, works, keeps, accepts⟩ := completes
  obtain ⟨t, run, configured⟩ :=
    configureDMA_configures (s := p.system.clearLog) fits clock mapped works accepts
  have frame := configureDMA_frame mapped completes run
  rw [System.clearLog_mem] at frame
  have called : d.happen (.configureDMA env requests) p =
      .ok 0 (d.report (d.publish ⟨t, p.mover⟩)) := by
    have step : d.step (.configureDMA env requests) p.system = .ok 0 t := run
    simp only [happen, DmaDriverImpl.called, step]
  refine ⟨_, called, ?_⟩
  apply Represents.of_report mapped (publish_coherent buffers _)
  · exact (publish_mem buffers represents.coherent frame).trans represents.mem
  · intro moves same
    rw [← Option.some.inj same]
    exact configured.holdsProgram mapped fits accepts.1 avoids
  · have working := represents.working
    rw [idle] at working
    rw [idle]
    exact working.idle rfl

theorem Represents.refuses {a : ℤ} {t : System} (buffers : d.Buffers)
    (represents : d.Represents p job)
    (run : d.configureDMA env requests p.system.clearLog = .ok a t)
    (only : OnlyClock p.system.clearLog t) :
    ∃ p', d.happen (.configureDMA env requests) p = .ok a p' ∧ d.Represents p' job :=
  ⟨_, represents.called buffers run (Spared.of_onlyClock only).toKept⟩

theorem Represents.configureDMA (buffers : d.Buffers) (represents : d.Represents p job)
    (allowed : d.Allows job (.configureDMA env requests)) :
    ∃ p', d.happen (.configureDMA env requests) p =
        .ok (d.answer job (.configureDMA env requests)).1 p' ∧
      d.Represents p' (d.answer job (.configureDMA env requests)).2 := by
  by_cases long : 32 < requests.length
  · rw [answer, if_pos long]
    exact represents.refuses buffers (d.configureDMA_tooMany env requests _ long) (.refl _)
  · by_cases clock : env.ClockActivates
    · obtain ⟨idle, completes, avoids⟩ := allowed ⟨by omega, clock⟩
      rw [answer, if_neg long, if_pos clock]
      exact represents.configures buffers idle completes avoids
    · obtain ⟨t, run, only⟩ :=
        d.configureDMA_noClock env requests p.system.clearLog (by omega) clock
      rw [answer, if_neg long, if_neg clock]
      exact represents.refuses buffers run only

theorem Represents.startDMA (buffers : d.Buffers) (represents : d.Represents p job)
    (allowed : d.Allows job .startDMA) :
    ∃ p', d.happen .startDMA p = .ok (d.answer job .startDMA).1 p' ∧
      d.Represents p' (d.answer job .startDMA).2 := by
  obtain ⟨moves, configured⟩ := Option.ne_none_iff_exists'.mp allowed.2
  have channel := (represents.program moves configured).channel
  obtain ⟨run, called⟩ := represents.called buffers (d.step_startDMA p.system)
    (step_startDMA_kept p.system)
  have written : .write (d.zdmaConfig.baseAddress + Register.offset .ctrl2) chCtrl2EnMask ∈
      (p.system.clearLog.enabled.takeUp d.zdmaConfig.baseAddress).machine.log := by
    rw [System.takeUp_log, System.enabled, System.write_log, ← channel]
    exact List.mem_cons_self
  generalize p.system.clearLog.enabled.takeUp d.zdmaConfig.baseAddress = t at *
  let q : Platform := d.report ⟨t, p.mover⟩
  have begins : d.takeUp q = { q with mover := .start q.system.listStart q.mover.mem } :=
    if_pos written
  have happens : d.happen .startDMA p = .ok 0 (d.report (d.takeUp q)) := by
    rw [happen, bind_ok _ run]
    rfl
  refine ⟨_, happens, ?_⟩
  rw [begins]
  apply Represents.of_report buffers.mapped
  · exact ⟨called.coherent.cfg, called.coherent.data⟩
  · exact called.mem
  · exact called.program
  · have program := called.program moves configured
    have working := program.working buffers.mapped called.coherent.cfg
    rw [answer, configured]
    exact working

theorem Represents.checkDMAStatus (buffers : d.Buffers) (represents : d.Represents p job)
    (allowed : d.Allows job (.checkDMAStatus env)) :
    ∃ p', d.happen (.checkDMAStatus env) p = .ok (d.answer job (.checkDMAStatus env)).1 p' ∧
      d.Represents p' (d.answer job (.checkDMAStatus env)).2 := by
  obtain ⟨moves, configured⟩ := Option.ne_none_iff_exists'.mp allowed.1
  have channel := (represents.program moves configured).channel
  have reads : p.system.reg .sts = phaseStatus p.mover.engine.phase := by
    rw [← p.system.channelReg_eq _ channel, represents.status]
  have value : env.readBack (p.system.addr .sts) (p.system.reg .sts) &&& stsAllMask =
      if job.queue = [] then stsDoneMask else stsBusyMask := by
    rw [System.addr, channel, allowed.2, reads, represents.working.status]
    split <;> decide
  have step : d.step (.checkDMAStatus env) p.system =
      .ok (d.answer job (.checkDMAStatus env)).1 (p.system.clearLog.read .sts) := by
    have run : d.step (.checkDMAStatus env) p.system =
        .ok ((env.readBack (p.system.addr .sts) (p.system.reg .sts) &&& stsAllMask).toNat : ℤ)
          (p.system.clearLog.read .sts) := rfl
    rw [run, value, answer]
    split <;> rfl
  have notStart : Call.checkDMAStatus env ≠ .startDMA := by simp
  obtain ⟨_, _, run, spared⟩ := step_spared (d := d) p.system
    (show ¬ (Call.checkDMAStatus env).Initializes from not_false) notStart
  rw [step] at run
  cases run
  exact ⟨_, represents.called buffers step spared.toKept⟩

end Calls

section Memory

theorem Represents.load {k : ℕ} (buffers : d.Buffers) (represents : d.Represents p job)
    (allowed : d.Allows job (.load k)) :
    ∃ p', d.happen (.load k) p = .ok (d.answer job (.load k)).1 p' ∧
      d.Represents p' (d.answer job (.load k)).2 := by
  have data := d.dataAlias_room
  have far : d.dataAlias.far + BitVec.ofNat 49 k ∈ d.cfgFarᶜ :=
    Set.disjoint_left.mp buffers.far (Alias.offset_mem _ allowed (by omega))
  have value : p.system.machine.mem (d.dataAlias.near + BitVec.ofNat 64 k) =
      job.mem (d.dataAlias.far + BitVec.ofNat 49 k) := by
    rw [← represents.coherent.data k allowed]
    exact represents.mem far
  refine ⟨p, ?_, represents⟩
  simp only [happen, answer, value]

theorem Represents.store {k : ℕ} {value : BitVec 8} (buffers : d.Buffers)
    (represents : d.Represents p job) (allowed : d.Allows job (.store k value)) :
    ∃ p', d.happen (.store k value) p = .ok (d.answer job (.store k value)).1 p' ∧
      d.Represents p' (d.answer job (.store k value)).2 := by
  have data := d.dataAlias_room
  have ⟨idle, hk⟩ := allowed
  let t : System := p.system.store (d.dataAlias.near + BitVec.ofNat 64 k) 1 value.toNat
  have mem : t.machine.mem =
      Function.update p.system.machine.mem (d.dataAlias.near + BitVec.ofNat 64 k) value :=
    store_byte _ _ value
  have cfg : Set.EqOn t.machine.mem p.system.machine.mem d.cfgNear := by
    intro y inside
    rw [mem, Function.update_of_ne]
    rintro rfl
    exact Set.disjoint_left.mp buffers.near (Alias.offset_mem _ hk (by omega)) inside
  refine ⟨d.publish ⟨t, p.mover⟩, rfl, publish_coherent buffers _, ?_, represents.status, ?_, ?_⟩
  · intro x outside
    by_cases inside : x ∈ block d.dataAlias.far d.dataAlias.length
    · obtain ⟨j, hj, rfl⟩ := Alias.exists_place inside
      have shown := Alias.carry_agrees t.machine.mem (d.cfgAlias.carry t.machine.mem p.mover.mem)
        (show d.dataAlias.length ≤ 2 ^ 49 by omega) j hj
      have before := (represents.coherent.data j hj).symm.trans (represents.mem outside)
      have near := Alias.offset_inj d.dataAlias.near (show j < 2 ^ 64 by omega)
        (show k < 2 ^ 64 by omega)
      have far := Alias.offset_inj d.dataAlias.far (show j < 2 ^ 49 by omega)
        (show k < 2 ^ 49 by omega)
      refine shown.trans ?_
      simp only [mem, answer, Function.update_apply, near, far, before]
    · have other : x ≠ d.dataAlias.far + BitVec.ofNat 49 k := by
        rintro rfl
        exact inside (Alias.offset_mem _ hk (by omega))
      have kept : (d.publish ⟨t, p.mover⟩).mover.mem x = p.mover.mem x :=
        (Alias.carry_of_not_mem inside).trans (Alias.carry_of_not_mem outside)
      refine kept.trans ((represents.mem outside).trans ?_)
      show job.mem x = Function.update job.mem (d.dataAlias.far + BitVec.ofNat 49 k) value x
      rw [Function.update_of_ne other]
  · intro moves configured
    exact (represents.program moves configured).congr buffers.mapped t rfl rfl cfg
  · have working := represents.working
    rw [idle] at working
    rw [answer, idle]
    exact working.idle rfl

theorem absorb_near (buffers : d.Buffers)
    (agrees : d.cfgAlias.Agrees p.system.machine.mem p.mover.mem) :
    Set.EqOn (d.absorb p).system.machine.mem p.system.machine.mem d.cfgNear := by
  intro y inside
  have other : y ∉ block d.dataAlias.near d.dataAlias.length :=
    Set.disjoint_right.mp buffers.near inside
  have kept := Alias.carry_eq agrees.flip
  exact (Alias.carry_of_not_mem (a := d.dataAlias.flip) other).trans (congrFun kept y)

theorem Represents.work (buffers : d.Buffers) (represents : d.Represents p job) :
    ∃ p', d.happen .work p = .ok (d.answer job .work).1 p' ∧
      d.Represents p' (d.answer job .work).2 := by
  rcases job with ⟨before, configured, queue⟩
  cases queue with
  | nil =>
    have still : p.workOn = p := by
      rw [Platform.workOn, Mover.step_stopped (represents.working.stops rfl)]
    have happens : d.happen .work p = .ok 0 (d.report p) := by
      show EStateM.Result.ok 0 (d.report (d.absorb p.workOn)) = .ok 0 (d.report p)
      rw [still, absorb_eq represents.coherent]
    exact ⟨_, happens, .of_report buffers.mapped represents.coherent represents.mem
      represents.program represents.working⟩
  | cons v moves =>
    obtain ⟨mem, working'⟩ := represents.working.advance
    have ⟨source, target⟩ := represents.working.avoids v List.mem_cons_self
    refine ⟨_, rfl, ?_⟩
    have moved : p.workOn.mover.mem = v.apply p.mover.mem := mem
    have spared : Set.EqOn p.workOn.mover.mem p.mover.mem d.cfgFar := by
      intro x inside
      rw [moved]
      exact Move.apply_of_not_mem (Set.disjoint_right.mp target inside)
    have agrees : d.cfgAlias.Agrees p.workOn.system.machine.mem p.workOn.mover.mem :=
      represents.coherent.cfg.congr (le_trans d.cfgAlias_room (by decide)) d.cfgAlias_room
        (Set.eqOn_refl _ _) spared
    apply Represents.of_report buffers.mapped (absorb_coherent buffers _)
    · show Set.EqOn p.workOn.mover.mem (v.apply before) d.cfgFarᶜ
      rw [moved]
      exact Move.apply_congr represents.mem (Set.subset_compl_iff_disjoint_right.mpr source)
    · intro moves configured
      exact (represents.program moves configured).congr buffers.mapped _ rfl rfl
        (absorb_near buffers agrees)
    · exact working'

end Memory

/-- A platform at its job answers a happening as the job does, and is then at the job's next. -/
theorem represents_happen (buffers : d.Buffers) (p : Platform) (job : Job) (happening : Happening)
    (represents : d.Represents p job) (allowed : d.Allows job happening) :
    ∃ p', d.happen happening p = .ok (d.answer job happening).1 p' ∧
      d.Represents p' (d.answer job happening).2 := by
  cases happening with
  | configureDMA env requests => exact represents.configureDMA buffers allowed
  | startDMA => exact represents.startDMA buffers allowed
  | checkDMAStatus env => exact represents.checkDMAStatus buffers allowed
  | store k value => exact represents.store buffers allowed
  | load k => exact represents.load buffers allowed
  | work => exact represents.work buffers

end Steps

variable (d) in
/-- A platform before its first use: nothing is under way, and the status register says so. -/
structure Fresh (p : Platform) : Prop where
  coherent : d.Coherent p
  phase : p.mover.engine.phase = .stopped
  status : p.system.machine.channelReg d.zdmaConfig.baseAddress .sts = stsDoneMask

theorem Fresh.represents (fresh : d.Fresh p) : d.Represents p ⟨p.mover.mem, none, []⟩ where
  coherent := fresh.coherent
  mem := Set.eqOn_refl _ _
  status := by
    rw [fresh.status, fresh.phase]
    rfl
  program _ none := by cases none
  working :=
    { follows := fun none => absurd rfl none
      goes := fun key paused => by
        rw [fresh.phase] at paused
        cases paused
      stops := fun _ => fresh.phase
      avoids := fun _ none => by cases none }

/-- Whatever happens to a platform, in any order that its user and the channel may choose, each
    call and each access is answered as of a memory in which the transfers are moves. -/
theorem session_serves (buffers : d.Buffers) (fresh : d.Fresh p) (happenings : List Happening)
    (legal : Legal d.Allows d.answer ⟨p.mover.mem, none, []⟩ happenings) :
    ∃ p', serve d.happen happenings p =
        .ok (answers d.answer ⟨p.mover.mem, none, []⟩ happenings).1 p' ∧
      d.Coherent p' ∧
      Set.EqOn p'.mover.mem (answers d.answer ⟨p.mover.mem, none, []⟩ happenings).2.mem
        d.cfgFarᶜ := by
  obtain ⟨p', run, represents⟩ :=
    serve_refines (represents_happen buffers) fresh.represents legal
  exact ⟨p', run, represents.coherent, represents.mem⟩

theorem sample_buffers : sample.Buffers where
  mapped := sample_mapped
  near := block_disjoint (by decide) (by decide) (by decide)
  far := block_disjoint (by decide) (by decide) (by decide)

def samplePlatform : Platform :=
  ⟨System.blank.report sample.zdmaConfig.baseAddress stsDoneMask, ⟨⟨.stopped, []⟩, fun _ => 0⟩⟩

theorem samplePlatform_fresh : sample.Fresh samplePlatform where
  coherent := ⟨fun _ _ => rfl, fun _ _ => rfl⟩
  phase := rfl
  status := by decide

theorem sample_completes (requests : List TransferRequest) (nonempty : requests ≠ [])
    (fits : requests.length ≤ 32) (nonzero : ∀ request ∈ requests, request.Nonzero) :
    sample.Completes (.ideal .waiting) requests :=
  ⟨fits, by decide, .of_faithful fun _ => rfl, .of_faithful fun _ => rfl,
    .of_nonzero nonempty nonzero⟩

/-- The user copies 64 bytes within the data buffer and reads the first one back. -/
theorem session_serves_sample :
    let requests : List TransferRequest := [⟨0x70000000, 0x70080000, 64⟩]
    let env : Env := .ideal .waiting
    ∃ p', serve sample.happen [.store 0 7, .configureDMA env requests, .startDMA,
      .checkDMAStatus env, .work, .checkDMAStatus env, .load 0x80000] samplePlatform =
        .ok [0, 0, 0, 2, 0, 0, 7] p' := by
  intro requests env
  have avoids : ∀ request ∈ requests, sample.Avoids request.move := by
    intro request listed
    rw [List.mem_singleton.mp listed]
    constructor <;> exact block_disjoint (by decide) (by decide) (by decide)
  have completes : sample.Completes env requests :=
    sample_completes requests (by decide) (by decide) (by decide)
  obtain ⟨p', run, _⟩ := session_serves sample_buffers samplePlatform_fresh
    [.store 0 7, .configureDMA env requests, .startDMA, .checkDMAStatus env, .work,
      .checkDMAStatus env, .load 0x80000]
    ⟨⟨rfl, by decide⟩, fun _ => ⟨rfl, completes, avoids⟩, ⟨by decide, by decide⟩,
      ⟨by decide, fun _ => rfl⟩, trivial, ⟨by decide, fun _ => rfl⟩,
      (by decide : 0x80000 < sample.dataAlias.length), trivial⟩
  refine ⟨p', run.trans ?_⟩
  have values : (answers sample.answer ⟨samplePlatform.mover.mem, none, []⟩
      [.store 0 7, .configureDMA env requests, .startDMA, .checkDMAStatus env, .work,
        .checkDMAStatus env, .load 0x80000]).1 = [0, 0, 0, 2, 0, 0, 7] := by decide
  rw [values]

end DmaDriverImpl

end ZynqmpDma
