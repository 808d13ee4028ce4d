import ZynqmpDma.XZDma.Operations

namespace ZynqmpDma

open Base XZDma

def SameChannel (s t : System) : Prop := t.channel = s.channel

instance : Std.Refl SameChannel := ⟨fun _ => rfl⟩

instance : IsTrans System SameChannel := ⟨fun _ _ _ first second => Eq.trans second first⟩

theorem sameChannel_allowLists : AllowsLists SameChannel where
  store s a width value := s.store_channel a width value
  write s r v member := by
    have other : ∀ r ∈ listRegisters, r ≠ .ctrl0 ∧ r ≠ .sts := by decide
    exact s.write_channel v (other r member).1 (other r member).2

namespace XZDma

variable {env : Env} {s t : System} {a : ℤ}

theorem moded_channel (isSgDma : BitVec 8) (mode : Mode) (ctrl0 : BitVec 32) :
    (moded s isSgDma mode ctrl0).channel =
      { s.channel with isSgDma := isSgDma, mode := mode, ctrl0 := ctrl0 } := by
  rw [moded, System.withDma_channel _ (by intro i; rfl), System.write_ctrl0_channel]
  rfl

theorem setMode_channel {isSgDma : BitVec 8} {mode : Mode}
    (run : setMode env isSgDma mode s = .ok a t) :
    t.channel = s.channel.next (.setMode env isSgDma mode) := by
  by_cases accepted : Passes env (isSgDma = TRUE ∨ isSgDma = FALSE) ∧ s.channel.cached = .idle
  · rw [Channel.next, if_pos accepted, Channel.setMode]
    rw [setMode_run env mode s accepted.1 accepted.2] at run
    by_cases simple : isSgDma ≠ TRUE
    · rw [if_pos simple] at run ⊢
      cases run
      exact moded_channel FALSE mode _
    · rw [if_neg simple] at run ⊢
      by_cases normal : mode = .normalMode
      · rw [if_neg (not_not.mpr normal)] at run ⊢
        cases run
        exact moded_channel TRUE mode _
      · rw [if_pos normal] at run ⊢
        cases run
        exact s.read_channel .ctrl0
  · rw [Channel.next, if_neg accepted]
    by_cases flag : Passes env (isSgDma = TRUE ∨ isSgDma = FALSE)
    · rw [setMode_refused env mode flag fun idle => accepted ⟨flag, idle⟩] at run
      cases run
      rfl
    · exact congrArg System.channel (xilAssert_diverted run flag)

theorem setChDataConfig_channel {configure : DataConfig}
    (run : setChDataConfig env configure s = .ok a t) :
    t.channel = s.channel.next (.setChDataConfig env configure) := by
  by_cases idle : s.channel.cached = .idle
  · obtain ⟨u, done, dma, _, _, sts, control⟩ := setChDataConfig_run env configure s idle
    rw [done] at run
    cases run
    have ctrl0 : t.reg .ctrl0 = overFetchBits (s.channel.read env) configure :=
      congrArg ControlValues.ctrl0 control
    rw [Channel.next, if_pos idle]
    simp only [System.channel, dma, sts, ctrl0]
  · rw [setChDataConfig_refused env configure idle] at run
    cases run
    rw [Channel.next, if_neg idle]

theorem setChDscrConfig_channel {configure : DscrConfig}
    (run : setChDscrConfig configure s = .ok a t) : t.channel = s.channel := by
  by_cases idle : s.dma.channelState = .idle
  · simp only [setChDscrConfig, getInstance_run, idle, ne_eq, not_true_eq_false, ite_false,
      bind_run, writeReg_run, setInstance_run, pure_run] at run
    cases run
    rw [System.write_channel _ _ (by decide) (by decide),
      System.withDma_channel _ (by intro i; rfl)]
    rfl
  · rw [setChDscrConfig_refused configure idle] at run
    cases run
    rfl

theorem createBDList_channel {typeOfDscr : DscrType} {dscrMemPtr descrPhysMemPtr : BitVec 64}
    {noOfBytes count : BitVec 32}
    (run : createBDList env typeOfDscr dscrMemPtr descrPhysMemPtr noOfBytes s = .ok count t) :
    t.channel = s.channel := by
  unfold createBDList at run
  rcases xilAssert_ok run with ⟨_, rest⟩ | ⟨_, rfl⟩
  · rcases xilAssert_ok rest with ⟨_, body⟩ | ⟨_, rfl⟩
    · cases body
      exact System.withDma_channel s fun _ => rfl
    · rfl
  · rfl

theorem start_channel {data : ℕ → Transfer} {num : BitVec 32}
    (run : start env data num s = .ok a t) : t.channel = s.channel :=
  (steps_start env sameChannel_allowLists data num).of_ok run

theorem enable_channel :
    (s.enabled.takeUp s.enabled.dma.config.baseAddress).channel = s.channel.next .enable := by
  have written : .write (s.enabled.dma.config.baseAddress + Register.offset .ctrl2)
      chCtrl2EnMask ∈ s.enabled.machine.log := List.mem_cons_self
  rw [System.takeUp, if_pos written, System.report_channel, System.enabled,
    System.write_channel _ _ (by decide) (by decide), System.withDma_channel _ (by intro i; rfl),
    System.write_channel _ _ (by decide) (by decide)]
  rfl

theorem selfTest_channel (run : selfTest env s = .ok a t) :
    t.channel = s.channel.next (.selfTest env) := by
  simp only [selfTest, bind_run, readReg_run, writeReg_run, pure_run] at run
  cases run
  rw [System.write_ctrl0_channel, System.read_channel, System.write_ctrl0_channel,
    System.read_channel]
  rfl

def resumed (env : Env) (s : System) : System :=
  ((s.read .ctrl0).withDma fun i => { i with channelState := .busy }).write .ctrl0
    (resumeBits (env.readBack (s.addr .ctrl0) (s.reg .ctrl0)))

theorem resume_run (env : Env) (s : System) (sg : Passes env (s.dma.isSgDma = TRUE))
    (paused : Passes env (s.dma.channelState = .pause)) :
    resume env s = .ok () (resumed env s) := by
  unfold resume
  rw [bind_ok _ (getInstance_run s), xilAssert_passes _ _ sg, xilAssert_passes _ _ paused]
  rfl

theorem resumed_channel :
    ((resumed env s).goOn (resumed env s).dma.config.baseAddress).channel =
      s.channel.resume env := by
  have view : (resumed env s).channel =
      { s.channel with cached := .busy, ctrl0 := resumeBits (s.channel.read env) } := by
    rw [resumed, System.write_ctrl0_channel, System.withDma_channel _ (by intro i; rfl),
      System.read_channel]
    rfl
  have continued : (resumed env s).machine.log.any
      (Event.continues (resumed env s).dma.config.baseAddress) = true := by
    have bit (data : BitVec 32) : resumeBits data &&& ctrl0ContMask ≠ 0 := by
      have one : (resumeBits data &&& ctrl0ContMask).getLsbD 1 = true := by
        simp [resumeBits, ctrl0ContMask]
      intro none
      rw [none] at one
      cases one
    simp only [List.any_eq_true]
    exact ⟨_, List.mem_cons_self, decide_eq_true ⟨rfl, bit _⟩⟩
  have status : (resumed env s).machine.channelReg (resumed env s).dma.config.baseAddress .sts =
      (resumed env s).reg .sts := rfl
  have hardware : (resumed env s).channel.hardware = s.channel.hardware := by rw [view]
  rw [System.goOn, continued, Channel.resume]
  by_cases paused : s.channel.hardware = .pause
  · have reported : (resumed env s).machine.channelReg
        (resumed env s).dma.config.baseAddress .sts &&& stsAllMask = stsPauseMask := by
      rw [status]
      exact stateOf_pause.mp (hardware.trans paused)
    rw [if_pos ⟨reported, rfl⟩, if_pos paused, System.report_channel, view]
    rfl
  · have other : ¬ ((resumed env s).machine.channelReg (resumed env s).dma.config.baseAddress
        .sts &&& stsAllMask = stsPauseMask ∧ true = true) := by
      rintro ⟨reported, _⟩
      rw [status] at reported
      exact paused (hardware.symm.trans (stateOf_pause.mpr reported))
    rw [if_neg other, if_neg paused, view]

theorem resume_channel {u : Unit} (fresh : s.machine.log = []) (run : resume env s = .ok u t) :
    (t.goOn t.dma.config.baseAddress).channel = s.channel.next (.resume env) := by
  by_cases accepted : Passes env (s.channel.isSgDma = TRUE) ∧ Passes env (s.channel.cached = .pause)
  · rw [resume_run env s accepted.1 accepted.2] at run
    cases run
    rw [Channel.next, if_pos accepted, resumed_channel]
  · have diverted : t = s := by
      unfold resume at run
      rw [bind_ok _ (getInstance_run s)] at run
      rcases xilAssert_ok run with ⟨sg, rest⟩ | ⟨_, same⟩
      · exact xilAssert_diverted rest fun paused => accepted ⟨sg, paused⟩
      · exact same
    subst diverted
    have silent : ¬ (t.machine.channelReg t.dma.config.baseAddress .sts &&& stsAllMask =
        stsPauseMask ∧ t.machine.log.any (Event.continues t.dma.config.baseAddress) = true) := by
      rw [fresh]
      exact fun continued => Bool.noConfusion continued.2
    rw [System.goOn, if_neg silent, Channel.next, if_neg accepted]

theorem reset_run_channel (env : Env) (s : System)
    (idle : Passes env (s.dma.channelState = .idle)) :
    ∃ t, reset env s = .ok () t ∧
      t.channel = { s.channel with cached := .idle, ctrl0 := ctrl0ResetValue } := by
  obtain ⟨t, run, dma, _, _, ctrl0, sts, _, _⟩ := reset_run env s idle
  refine ⟨t, run, ?_⟩
  simp only [System.channel, dma, ctrl0, sts]

theorem cfgInitialize_channel (env : Env) (cfg : Config) {effectiveAddr : BitVec 64} (s : System)
    (mapped : Passes env (effectiveAddr ≠ 0)) :
    ∃ t, cfgInitialize env cfg effectiveAddr s = .ok xstSuccess t ∧
      t.channel =
        { base := effectiveAddr
          cached := .idle
          hardware := stateOf (s.machine.channelReg effectiveAddr .sts)
          isSgDma := FALSE
          mode := .normalMode
          ctrl0 := ctrl0ResetValue } := by
  obtain ⟨u, run, view⟩ := reset_run_channel env (pointed cfg effectiveAddr s) (.inl rfl)
  refine ⟨_, cfgInitialize_of_reset mapped run, ?_⟩
  rw [withResetConfig, System.withDma_channel _ (by intro i; rfl)]
  exact view

theorem reset_channel {u : Unit} (run : reset env s = .ok u t) :
    t.channel = s.channel.next (.reset env) := by
  by_cases idle : Passes env (s.channel.cached = .idle)
  · obtain ⟨t', run', view⟩ := reset_run_channel env s idle
    rw [run'] at run
    cases run
    rw [Channel.next, if_pos idle, view]
  · rw [Channel.next, if_neg idle]
    unfold reset at run
    rw [bind_ok _ (getInstance_run s)] at run
    exact congrArg System.channel (xilAssert_diverted run idle)

theorem hardware_channel (status : BitVec 32) :
    ∃ t, (Operation.hardware status).step s = .ok 0 t ∧
      t.channel = s.channel.next (.hardware status) := by
  have busy : s.machine.Busy s.dma.config.baseAddress ↔ s.channel.hardware = .busy :=
    stateOf_busy.symm
  by_cases now : s.channel.hardware = .busy
  · refine ⟨_, if_pos (busy.mpr now), ?_⟩
    rw [Channel.next, if_pos now, System.report_channel, stateOf_masked, System.clearLog_channel]
  · refine ⟨_, if_neg (mt busy.mp now), ?_⟩
    rw [Channel.next, if_neg now, System.clearLog_channel]

/-- Every operation that returns does to the channel, and to what the driver believes of it, what
    `Channel.next` says. -/
theorem step_channel (op : Operation) (run : op.step s = .ok a t) :
    t.channel = s.channel.next op := by
  rw [← s.clearLog_channel]
  cases op with
  | setMode env isSgDma mode => exact setMode_channel run
  | setChDataConfig env configure => exact setChDataConfig_channel run
  | setChDscrConfig configure => exact setChDscrConfig_channel run
  | createBDList env typeOfDscr dscrMemPtr descrPhysMemPtr noOfBytes =>
    obtain ⟨count, u, created, done⟩ := bind_ok_inv run
    cases done
    exact createBDList_channel created
  | start env data num => exact start_channel run
  | enable =>
    rw [Operation.step, Operation.body, bind_ok _ (enable_run _)] at run
    cases run
    exact enable_channel
  | resume env =>
    obtain ⟨_, u, resumed, done⟩ := bind_ok_inv run
    cases done
    exact resume_channel rfl resumed
  | reset env =>
    obtain ⟨_, u, done, returned⟩ := bind_ok_inv run
    cases returned
    exact reset_channel done
  | channelState env =>
    cases run
    rfl
  | selfTest env => exact selfTest_channel run
  | hardware status =>
    obtain ⟨u, reported, view⟩ := hardware_channel (s := s) status
    rw [reported] at run
    cases run
    exact view

end XZDma

end ZynqmpDma
