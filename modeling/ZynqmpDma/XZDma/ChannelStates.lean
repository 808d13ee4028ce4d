import ZynqmpDma.XZDma.Refinement

namespace ZynqmpDma.XZDma

open Base

def Reports (s : System) (state : State) : Prop :=
  ∀ env : Env, env.readBack (s.addr .sts) (s.reg .sts) = s.reg .sts →
    xzdmaChannelState env s = .ok state (s.read .sts)

/-- The calls that an idle channel has to accept, in any surroundings. -/
inductive Configures : Operation → Prop
  | setMode (env : Env) : Configures (.setMode env TRUE .normalMode)
  | setChDataConfig (env : Env) (configure : DataConfig) :
      Configures (.setChDataConfig env configure)
  | setChDscrConfig (configure : DscrConfig) : Configures (.setChDscrConfig configure)

/-- The guards on `ChannelState` decide by the state that `XZDma_ChannelState` returns. -/
structure GatesAgree (s : System) : Prop where
  idle : Reports s .idle → ∀ op, Configures op → ∃ t, op.body s = .ok xstSuccess t
  busy : Reports s .busy → ∀ op, Configures op → op.body s = .ok xstFailure s
  pause : Reports s .pause → s.dma.isSgDma = TRUE → ∀ env, resume env s = .ok () (resumed env s)

structure Channel.Agrees (c : Channel) : Prop where
  idle : c.hardware = .idle → c.cached = .idle
  busy : c.hardware = .busy → c.cached ≠ .idle
  pause : c.hardware = .pause → c.isSgDma = TRUE → c.cached = .pause

variable {env : Env} {s : System} {op : Operation}

theorem reports_iff {state : State} : Reports s state ↔ s.channel.hardware = state := by
  constructor
  · intro reports
    exact (EStateM.Result.ok.inj (reports (.ideal .waiting) rfl)).1
  · rintro rfl env reads
    simp only [xzdmaChannelState, bind_run, readReg_run, reads, pure_run]
    rfl

theorem configures_accepted (idle : s.dma.channelState = .idle) (configures : Configures op) :
    ∃ t, op.body s = .ok xstSuccess t := by
  cases configures with
  | setMode env =>
    obtain ⟨t, run, _⟩ := setMode_sg_run env s idle
    exact ⟨t, run⟩
  | setChDataConfig env configure =>
    obtain ⟨t, run, _⟩ := setChDataConfig_run env configure s idle
    exact ⟨t, run⟩
  | setChDscrConfig configure =>
    simp only [Operation.body, setChDscrConfig, bind_run, getInstance_run, idle, ne_eq,
      not_true_eq_false, ite_false, setInstance_run, writeReg_run, pure_run]
    exact ⟨_, rfl⟩

theorem configures_rejected (other : s.dma.channelState ≠ .idle) (configures : Configures op) :
    op.body s = .ok xstFailure s := by
  cases configures with
  | setMode env => exact setMode_refused env .normalMode (.inl (.inl rfl)) other
  | setChDataConfig env configure => exact setChDataConfig_refused env configure other
  | setChDscrConfig configure => exact setChDscrConfig_refused configure other

theorem configures_accepted_iff (configures : Configures op) :
    (∃ t, op.body s = .ok xstSuccess t) ↔ s.channel.cached = .idle := by
  constructor
  · rintro ⟨t, run⟩
    by_contra other
    rw [configures_rejected other configures] at run
    cases run
  · intro idle
    exact configures_accepted idle configures

theorem configures_rejected_iff (configures : Configures op) :
    op.body s = .ok xstFailure s ↔ s.channel.cached ≠ .idle := by
  constructor
  · intro run idle
    obtain ⟨t, accepted⟩ := configures_accepted idle configures
    rw [run] at accepted
    cases accepted
  · intro other
    exact configures_rejected other configures

theorem resume_passes_iff (sg : s.dma.isSgDma = TRUE) :
    (∀ env, resume env s = .ok () (resumed env s)) ↔ s.channel.cached = .pause := by
  constructor
  · intro run
    by_contra other
    have unpaused : ¬ s.dma.channelState = .pause := other
    have waits : (Env.ideal .waiting).asserts = .waiting := rfl
    have stuck := run (.ideal .waiting)
    rw [resume, bind_ok _ (getInstance_run s), xilAssert_holds _ _ _ sg,
      xilAssert_waiting _ _ waits unpaused] at stuck
    cases stuck
  · intro paused env
    exact resume_run env s (.inl sg) (.inl paused)

theorem gatesAgree_iff : GatesAgree s ↔ s.channel.Agrees := by
  constructor
  · intro agree
    have configures : Configures (.setChDscrConfig ⟨0, 0, 0⟩) := .setChDscrConfig _
    refine ⟨?_, ?_, ?_⟩
    · intro idle
      exact (configures_accepted_iff configures).mp (agree.idle (reports_iff.mpr idle) _ configures)
    · intro busy
      exact (configures_rejected_iff configures).mp (agree.busy (reports_iff.mpr busy) _ configures)
    · intro pause sg
      exact (resume_passes_iff sg).mp (agree.pause (reports_iff.mpr pause) sg)
  · intro agree
    refine ⟨?_, ?_, ?_⟩
    · intro idle op configures
      exact (configures_accepted_iff configures).mpr (agree.idle (reports_iff.mp idle))
    · intro busy op configures
      exact (configures_rejected_iff configures).mpr (agree.busy (reports_iff.mp busy))
    · intro pause sg
      exact (resume_passes_iff sg).mpr (agree.pause (reports_iff.mp pause) sg)

namespace Channel

variable {c : Channel}

/-- The states that a run stays in while they agree. `ChannelState` is `XZDMA_PAUSE` in none of
    them: nothing sets it so. -/
inductive InStep (c : Channel) : Prop
  | idle (hardware : c.hardware = .idle) (cached : c.cached = .idle)
  | busy (hardware : c.hardware = .busy) (cached : c.cached = .busy)
  | pause (hardware : c.hardware = .pause) (simple : c.isSgDma ≠ TRUE)
      (cached : c.cached ≠ .pause)

def KeepsStep (c : Channel) : Operation → Prop
  | .setMode _ isSgDma mode =>
    ¬ (c.hardware = .pause ∧ c.cached = .idle ∧ isSgDma = TRUE ∧ mode = .normalMode)
  | .resume env => ¬ (env.asserts = .compiledOut ∧ c.hardware = .idle)
  | .reset env => ¬ (env.asserts = .compiledOut ∧ c.hardware = .busy)
  | .hardware status => c.hardware = .busy →
      stateOf status = .busy ∨ (stateOf status = .pause ∧ c.isSgDma ≠ TRUE)
  | _ => True

variable {op : Operation}

theorem InStep.agrees (inStep : c.InStep) : c.Agrees := by
  cases inStep with
  | idle hardware cached =>
    refine ⟨fun _ => cached, fun busy => ?_, fun pause => ?_⟩
    · rw [hardware] at busy
      cases busy
    · rw [hardware] at pause
      cases pause
  | busy hardware cached =>
    refine ⟨fun idle => ?_, fun _ => ?_, fun pause => ?_⟩
    · rw [hardware] at idle
      cases idle
    · rw [cached]
      decide
    · rw [hardware] at pause
      cases pause
  | pause hardware simple cached =>
    refine ⟨fun idle => ?_, fun busy => ?_, fun _ sg => absurd sg simple⟩
    · rw [hardware] at idle
      cases idle
    · rw [hardware] at busy
      cases busy

theorem InStep.cached_ne_pause (inStep : c.InStep) : c.cached ≠ .pause := by
  cases inStep with
  | idle hardware cached =>
    rw [cached]
    decide
  | busy hardware cached =>
    rw [cached]
    decide
  | pause hardware simple cached => exact cached

theorem InStep.of_same {d : Channel} (inStep : c.InStep) (hardware : d.hardware = c.hardware)
    (cached : d.cached = c.cached) (isSgDma : d.isSgDma = c.isSgDma) : d.InStep := by
  cases inStep with
  | idle idle cachedIdle => exact .idle (hardware.trans idle) (cached.trans cachedIdle)
  | busy busy cachedBusy => exact .busy (hardware.trans busy) (cached.trans cachedBusy)
  | pause pause simple unpaused =>
    exact .pause (hardware.trans pause) (fun sg => simple (isSgDma.symm.trans sg))
      fun paused => unpaused (cached.symm.trans paused)

theorem InStep.setMode {env : Env} {isSgDma : BitVec 8} {mode : Mode} (inStep : c.InStep)
    (idle : c.cached = .idle) (keeps : c.KeepsStep (.setMode env isSgDma mode)) :
    (c.setMode env isSgDma mode).InStep := by
  cases inStep with
  | idle hardware cached => exact .idle (by simp [hardware]) (by simp [cached])
  | busy hardware cached =>
    rw [cached] at idle
    cases idle
  | pause hardware simple cached =>
    -- only scatter-gather mode asks for a `ChannelState` of `XZDMA_PAUSE`
    refine .pause (by simp [hardware]) ?_ (by simp [idle])
    rw [Channel.setMode]
    by_cases sg : isSgDma = TRUE
    · have other : mode ≠ .normalMode := fun normal => keeps ⟨hardware, idle, sg, normal⟩
      rw [if_neg (not_not.mpr sg), if_pos other]
      exact simple
    · have unset : FALSE ≠ TRUE := by decide
      rw [if_pos sg]
      exact unset

theorem InStep.resume {env : Env} (inStep : c.InStep)
    (accepted : Passes env (c.isSgDma = TRUE) ∧ Passes env (c.cached = .pause))
    (keeps : c.KeepsStep (.resume env)) : (c.resume env).InStep := by
  have out : env.asserts = .compiledOut := accepted.2.resolve_left inStep.cached_ne_pause
  refine .busy ?_ rfl
  cases inStep with
  | idle hardware cached => exact absurd ⟨out, hardware⟩ keeps
  | busy hardware cached => simp [Channel.resume, hardware]
  | pause hardware simple cached => simp [Channel.resume, hardware]

theorem InStep.reset {env : Env} (inStep : c.InStep) (accepted : Passes env (c.cached = .idle))
    (keeps : c.KeepsStep (.reset env)) :
    ({ c with cached := .idle, ctrl0 := ctrl0ResetValue } : Channel).InStep := by
  cases inStep with
  | idle hardware cached => exact .idle hardware rfl
  | busy hardware cached =>
    rcases accepted with idle | out
    · rw [cached] at idle
      cases idle
    · exact absurd ⟨out, hardware⟩ keeps
  | pause hardware simple cached => exact .pause hardware simple State.noConfusion

theorem InStep.hardware {status : BitVec 32} (inStep : c.InStep) (busy : c.hardware = .busy)
    (keeps : c.KeepsStep (.hardware status)) :
    ({ c with hardware := stateOf status } : Channel).InStep := by
  cases inStep with
  | idle hardware cached =>
    rw [hardware] at busy
    cases busy
  | busy hardware cached =>
    rcases keeps hardware with still | ⟨pause, simple⟩
    · exact .busy still cached
    · refine .pause pause simple ?_
      rw [cached]
      decide
  | pause hardware simple cached =>
    rw [hardware] at busy
    cases busy

theorem InStep.next (inStep : c.InStep) (keeps : c.KeepsStep op) : (c.next op).InStep := by
  cases op with
  | setMode env isSgDma mode =>
    rw [Channel.next]
    split
    case isTrue accepted => exact inStep.setMode accepted.2 keeps
    case isFalse => exact inStep
  | setChDataConfig env configure =>
    rw [Channel.next]
    split
    · exact inStep.of_same rfl rfl rfl
    · exact inStep
  | setChDscrConfig configure => exact inStep
  | createBDList env typeOfDscr dscrMemPtr descrPhysMemPtr noOfBytes => exact inStep
  | start env data num => exact inStep
  | enable => exact .busy rfl rfl
  | resume env =>
    rw [Channel.next]
    split
    case isTrue accepted => exact inStep.resume accepted keeps
    case isFalse => exact inStep
  | reset env =>
    rw [Channel.next]
    split
    case isTrue accepted => exact inStep.reset accepted keeps
    case isFalse => exact inStep
  | channelState env => exact inStep
  | selfTest env => exact inStep.of_same rfl rfl rfl
  | hardware status =>
    rw [Channel.next]
    split
    case isTrue busy => exact inStep.hardware busy keeps
    case isFalse => exact inStep

/-- Any other operation takes the two sides apart. -/
theorem InStep.parts (inStep : c.InStep) (harm : ¬ c.KeepsStep op) : ¬ (c.next op).Agrees := by
  intro agrees
  cases op with
  | setMode env isSgDma mode =>
    obtain ⟨hardware, idle, rfl, rfl⟩ := not_not.mp harm
    rw [Channel.next, if_pos ⟨.inl (.inl rfl), idle⟩] at agrees
    have paused := agrees.pause (by simp [hardware]) rfl
    rw [setMode_cached, idle] at paused
    cases paused
  | resume env =>
    obtain ⟨out, hardware⟩ := not_not.mp harm
    rw [Channel.next, if_pos ⟨.inr out, .inr out⟩] at agrees
    cases agrees.idle (by simp [Channel.resume, hardware])
  | reset env =>
    obtain ⟨out, hardware⟩ := not_not.mp harm
    have passes : Passes env (c.cached = .idle) := .inr out
    rw [Channel.next, if_pos passes] at agrees
    exact agrees.busy hardware rfl
  | hardware status =>
    obtain ⟨busy, other⟩ := Classical.not_imp.mp harm
    have cached : c.cached = .busy := by
      cases inStep with
      | idle hardware _ =>
        rw [hardware] at busy
        cases busy
      | busy _ cached => exact cached
      | pause hardware _ _ =>
        rw [hardware] at busy
        cases busy
    rw [Channel.next, if_pos busy] at agrees
    cases ends : stateOf status with
    | idle =>
      have idle := agrees.idle ends
      rw [cached] at idle
      cases idle
    | pause =>
      have sg : c.isSgDma = TRUE := by
        by_contra simple
        exact other (.inr ⟨ends, simple⟩)
      have paused := agrees.pause ends sg
      rw [cached] at paused
      cases paused
    | busy => exact other (.inl ends)
  | setChDataConfig | setChDscrConfig | createBDList | start | enable | channelState | selfTest =>
    exact harm trivial

end Channel

theorem harm_returns (harm : ¬ s.channel.KeepsStep op) : ∃ a t, op.step s = .ok a t := by
  cases op with
  | setMode env isSgDma mode =>
    obtain ⟨_, idle, rfl, rfl⟩ := not_not.mp harm
    obtain ⟨t, run, _⟩ := setMode_sg_run env s.clearLog idle
    exact ⟨_, t, run⟩
  | resume env =>
    obtain ⟨out, _⟩ := not_not.mp harm
    have run := resume_run env s.clearLog (.inr out) (.inr out)
    exact ⟨0, _, bind_ok _ run⟩
  | reset env =>
    obtain ⟨out, _⟩ := not_not.mp harm
    obtain ⟨t, run, _⟩ := reset_run_channel env s.clearLog (.inr out)
    exact ⟨0, t, bind_ok _ run⟩
  | hardware status =>
    obtain ⟨t, run, _⟩ := hardware_channel (s := s) status
    exact ⟨0, t, run⟩
  | setChDataConfig | setChDscrConfig | createBDList | start | enable | channelState | selfTest =>
    exact absurd trivial harm

theorem initialized_inStep (env : Env) (cfg : Config) {effectiveAddr : BitVec 64} {s : System}
    (mapped : Passes env (effectiveAddr ≠ 0))
    (idle : stateOf (s.machine.channelReg effectiveAddr .sts) = .idle) :
    (finalState (cfgInitialize env cfg effectiveAddr s)).channel.InStep := by
  obtain ⟨t, run, view⟩ := cfgInitialize_channel env cfg s mapped
  rw [run, finalState_ok, view]
  exact .idle idle rfl

theorem step_inStep {a : ℤ} {t : System} (inStep : s.channel.InStep)
    (keeps : s.channel.KeepsStep op) (run : op.step s = .ok a t) : t.channel.InStep := by
  rw [step_channel op run]
  exact inStep.next keeps

theorem step_parts (inStep : s.channel.InStep) (harm : ¬ s.channel.KeepsStep op) :
    ∃ a t, op.step s = .ok a t ∧ ¬ GatesAgree t := by
  obtain ⟨a, t, run⟩ := harm_returns harm
  refine ⟨a, t, run, ?_⟩
  rw [gatesAgree_iff, step_channel op run]
  exact inStep.parts harm

/-- A transfer that ends leaves `ChannelState` at `XZDMA_BUSY`, whatever came before it. -/
theorem transfer_blocks (s : System) {status : BitVec 32} (ends : stateOf status = .idle) :
    ∃ t, Reaches Operation.step s [.enable, .hardware status] t ∧ ¬ GatesAgree t := by
  obtain ⟨u, enabled⟩ : ∃ u, Operation.enable.step s = .ok 0 u := ⟨_, bind_ok _ (enable_run _)⟩
  have view : u.channel = s.channel.next .enable := step_channel .enable enabled
  have busy : u.channel.hardware = .busy := by rw [view]; rfl
  have inStep : u.channel.InStep := .busy busy (by rw [view]; rfl)
  have harm : ¬ u.channel.KeepsStep (.hardware status) := by
    intro keeps
    rcases keeps busy with still | ⟨pause, _⟩
    · rw [ends] at still
      cases still
    · rw [ends] at pause
      cases pause
  obtain ⟨a, t, done, parted⟩ := step_parts inStep harm
  exact ⟨t, .later enabled (.later done (.start t [])), parted⟩

/-- No operation takes a finished or a paused transfer back into `ChannelState`, so the guards
    agree with the channel in those runs only in which no transfer ends. -/
theorem run_gatesAgree_iff (env : Env) (cfg : Config) (effectiveAddr : BitVec 64) (s : System)
    (operations : List Operation) (mapped : Passes env (effectiveAddr ≠ 0))
    (idle : stateOf (s.machine.channelReg effectiveAddr .sts) = .idle) :
    (∀ t, Reaches Operation.step (finalState (cfgInitialize env cfg effectiveAddr s)) operations t →
      GatesAgree t) ↔
      ∀ visit ∈ visits Operation.step (finalState (cfgInitialize env cfg effectiveAddr s))
        operations, visit.before.channel.KeepsStep visit.call := by
  have start := initialized_inStep env cfg mapped idle
  exact reaches_holds_iff (fun _ inStep => gatesAgree_iff.mpr inStep.agrees)
    (fun _ _ _ _ inStep _ => step_inStep inStep) (fun _ _ inStep _ => step_parts inStep) start
    operations fun _ _ => trivial

theorem run_gatesAgree_iff_started :
    (∀ t, Reaches Operation.step
        (finalState (cfgInitialize (.ideal .waiting) ⟨0, 0, 0, 0⟩ 0xFFA80000 .blank))
        [.enable, .hardware stsDoneMask] t → GatesAgree t) ↔
      ∀ visit ∈ visits Operation.step
        (finalState (cfgInitialize (.ideal .waiting) ⟨0, 0, 0, 0⟩ 0xFFA80000 .blank))
        [.enable, .hardware stsDoneMask], visit.before.channel.KeepsStep visit.call :=
  run_gatesAgree_iff (.ideal .waiting) ⟨0, 0, 0, 0⟩ 0xFFA80000 .blank _ (by decide) (by decide)

/-- One transfer that ends. -/
theorem run_blocks_after_transfer :
    ¬ ∀ t, Reaches Operation.step
      (finalState (cfgInitialize (.ideal .waiting) ⟨0, 0, 0, 0⟩ 0xFFA80000 .blank))
      [.enable, .hardware stsDoneMask] t → GatesAgree t := by
  intro agree
  obtain ⟨t, reached, parted⟩ := transfer_blocks
    (finalState (cfgInitialize (.ideal .waiting) ⟨0, 0, 0, 0⟩ 0xFFA80000 .blank))
    (show stateOf stsDoneMask = .idle by decide)
  exact parted (agree t reached)

end ZynqmpDma.XZDma
