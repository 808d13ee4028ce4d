import ZynqmpDma.Driver.Programming
import ZynqmpDma.Driver.Running

namespace ZynqmpDma

open Base XZDma

def Call.LeavesChannel (call : Call) : Prop := call ≠ .startDMA ∧ ¬ call.Initializes

namespace DmaDriverImpl

variable (d : DmaDriverImpl)

def programRegisters : List Register :=
  [.ctrl0, .ctrl1, .ctrl2, .dataAttr, .srcStartLsb, .srcStartMsb, .dstStartLsb, .dstStartMsb]

/-- The call of `v` writes neither memory nor a register that programs the channel, and a
    `configureDMA` reports that it changed nothing. -/
structure Undisturbed (v : Visit Stuck System ℤ Call) : Prop where
  noStore : ∀ a width, .store a width ∉ (finalState v.outcome).machine.log
  noWrite : ∀ r ∈ programRegisters, ∀ value,
    .write (d.zdmaConfig.baseAddress + Register.offset r) value ∉
      (finalState v.outcome).machine.log
  refused : ∀ env requests, v.call = .configureDMA env requests →
    ∃ status t, v.outcome = .ok status t ∧ status ≠ 0 ∧
      t.machine.mem = v.before.machine.mem ∧
      ∀ r ∈ programRegisters, t.machine.channelReg d.zdmaConfig.baseAddress r =
        v.before.machine.channelReg d.zdmaConfig.baseAddress r

section Undisturbed

variable {d} {v : Visit Stuck System ℤ Call}

theorem undisturbed_of_leavesChannel (leaves : v.call.LeavesChannel)
    (outcome : v.outcome = d.step v.call v.before) : d.Undisturbed v := by
  rcases leaves with ⟨other, refused⟩
  obtain ⟨a, t, run, spared⟩ := step_spared (d := d) v.before refused other
  have after : finalState v.outcome = t := by rw [outcome, run, finalState_ok]
  have reads := spared.reads
  rw [← after] at reads
  constructor
  · intro a width member
    rcases reads _ member with ⟨b, read⟩
    cases read
  · intro r _ value member
    rcases reads _ member with ⟨b, read⟩
    cases read
  · intro env requests call
    rw [call] at refused
    obtain ⟨status, u, reports, nonzero, kept⟩ :=
      step_refused (d := d) env requests v.before refused
    have same : ∀ r ∈ programRegisters, u.machine.channelReg d.zdmaConfig.baseAddress r =
        v.before.machine.channelReg d.zdmaConfig.baseAddress r := by
      intro r member
      apply kept.same
      rintro rfl
      revert member
      decide
    exact ⟨status, u, by rw [outcome, call, reports], nonzero, kept.mem, same⟩

theorem Undisturbed.leavesChannel (undisturbed : d.Undisturbed v)
    (outcome : v.outcome = d.step v.call v.before) (mapped : d.zdmaConfig.baseAddress ≠ 0)
    (channel : v.before.dma.config.baseAddress = d.zdmaConfig.baseAddress) :
    v.call.LeavesChannel := by
  have silent := undisturbed.noWrite .ctrl2 (by decide)
  rw [outcome] at silent
  constructor
  · intro start
    apply silent chCtrl2EnMask
    rw [start, step_startDMA, finalState_ok, System.takeUp_log, System.enabled, System.write_log,
      ← channel]
    exact List.mem_cons_self
  · intro initializes
    exact silent chCtrl2DisMask (step_initializes v.before initializes mapped).2

end Undisturbed

variable {d} in
theorem step_channel {s t : System} {call : Call} {a : ℤ} (mapped : d.zdmaConfig.baseAddress ≠ 0)
    (channel : s.dma.config.baseAddress = d.zdmaConfig.baseAddress)
    (run : d.step call s = .ok a t) : t.dma.config.baseAddress = d.zdmaConfig.baseAddress := by
  by_cases initializes : call.Initializes
  · have drives := (step_initializes s initializes mapped).1
    rw [run] at drives
    exact drives.channel
  · obtain ⟨_, _, run', kept⟩ := step_keeps (d := d) s initializes
    rw [run] at run'
    cases run'
    exact kept.channel.trans channel

/-- A run does not disturb a BUSY channel if no call made then enables or initializes it. Once
    the instance points at the channel, this is also the only way not to disturb it. -/
theorem run_undisturbed (mapped : d.zdmaConfig.baseAddress ≠ 0) (s : System) (calls : List Call) :
    ((∀ v ∈ visits d.step s calls, v.before.machine.Busy d.zdmaConfig.baseAddress →
        v.call.LeavesChannel) →
      ∀ v ∈ visits d.step s calls, v.before.machine.Busy d.zdmaConfig.baseAddress →
        d.Undisturbed v) ∧
    (s.dma.config.baseAddress = d.zdmaConfig.baseAddress →
      (∀ v ∈ visits d.step s calls, v.before.machine.Busy d.zdmaConfig.baseAddress →
        d.Undisturbed v) →
      ∀ v ∈ visits d.step s calls, v.before.machine.Busy d.zdmaConfig.baseAddress →
        v.call.LeavesChannel) := by
  constructor
  · intro careful v member busy
    exact undisturbed_of_leavesChannel (careful v member busy) (visits_outcome member)
  · intro start undisturbed v member busy
    have pointed := visits_invariant
      (fun s => s.dma.config.baseAddress = d.zdmaConfig.baseAddress)
      (fun _ _ _ _ => step_channel mapped) start member
    rcases pointed with ⟨channel, outcome⟩
    exact (undisturbed v member busy).leavesChannel outcome mapped channel

/-- A transfer that is started, a list too long while it runs, and a look at the status. -/
theorem run_undisturbed_check :
    let env : Env := .ideal .waiting
    let calls : List Call := [.configureDMA env [⟨0x10000000, 0x20000000, 64⟩], .startDMA,
      .configureDMA env (List.replicate 33 ⟨0x10000000, 0x20000000, 64⟩), .checkDMAStatus env]
    (∃ v ∈ visits sample.step .blank calls, v.before.machine.Busy sample.zdmaConfig.baseAddress) ∧
      ∀ v ∈ visits sample.step .blank calls,
        v.before.machine.Busy sample.zdmaConfig.baseAddress → sample.Undisturbed v := by
  intro env calls
  let configure : Call := .configureDMA env [⟨0x10000000, 0x20000000, 64⟩]
  let tooMany : Call := .configureDMA env (List.replicate 33 ⟨0x10000000, 0x20000000, 64⟩)
  let rest : List Call := [tooMany, .checkDMAStatus env]
  obtain ⟨t, run, configured⟩ := sample_configures System.blank.clearLog
  have first : sample.step configure .blank = .ok 0 t := run
  have blank : ¬ System.blank.machine.Busy sample.zdmaConfig.baseAddress := by decide
  have waiting : ¬ t.machine.Busy sample.zdmaConfig.baseAddress := by
    have sts := configureDMA_sts (d := sample) env [⟨0x10000000, 0x20000000, 64⟩] (by decide)
      (by decide) (by decide) System.blank.clearLog
    rw [run, finalState_ok] at sts
    rw [Machine.Busy, sts]
    exact blank
  obtain ⟨u, started, running⟩ : ∃ u, sample.step .startDMA t = .ok 0 u ∧
      u.machine.Busy sample.zdmaConfig.baseAddress :=
    ⟨_, sample.step_startDMA t, startDMA_busy configured.channel⟩
  have list : visits sample.step .blank (configure :: .startDMA :: rest) =
      ⟨.blank, configure, .ok 0 t⟩ :: ⟨t, .startDMA, .ok 0 u⟩ :: visits sample.step u rest := by
    rw [visits_tail first, visits_tail started]
  constructor
  · show ∃ v ∈ visits sample.step .blank (configure :: .startDMA :: rest), _
    rw [list]
    refine ⟨⟨u, tooMany, sample.step tooMany u⟩, ?_, running⟩
    exact List.mem_cons_of_mem _ (List.mem_cons_of_mem _ (visits_head u tooMany _))
  · apply (run_undisturbed sample (by decide) .blank calls).1
    have leave : ∀ call ∈ rest, call.LeavesChannel := by
      intro call listed
      rcases List.mem_cons.mp listed with rfl | listed
      · exact ⟨Call.noConfusion, by decide⟩
      · rw [List.mem_singleton.mp listed]
        exact ⟨Call.noConfusion, by decide⟩
    intro v member busy
    have member : v ∈ visits sample.step .blank (configure :: .startDMA :: rest) := member
    rw [list] at member
    rcases List.mem_cons.mp member with rfl | member
    · exact absurd busy blank
    rcases List.mem_cons.mp member with rfl | member
    · exact absurd busy waiting
    · exact leave v.call (visits_call member)

/-- A `configureDMA` while the transfer runs resets the channel under it. -/
theorem configureDMA_disturbs :
    let configure : Call := .configureDMA (.ideal .waiting) [⟨0x10000000, 0x20000000, 64⟩]
    ¬ ∀ v ∈ visits sample.step .blank [configure, .startDMA, configure],
      v.before.machine.Busy sample.zdmaConfig.baseAddress → sample.Undisturbed v := by
  intro configure undisturbed
  obtain ⟨t, run, configured⟩ := sample_configures System.blank.clearLog
  have first : sample.step configure .blank = .ok 0 t := run
  obtain ⟨u, started, channel, busy⟩ : ∃ u, sample.step .startDMA t = .ok 0 u ∧
      u.dma.config.baseAddress = sample.zdmaConfig.baseAddress ∧
      u.machine.Busy sample.zdmaConfig.baseAddress :=
    ⟨_, sample.step_startDMA t, (step_startDMA_kept t).channel.trans configured.channel,
      startDMA_busy configured.channel⟩
  have member : ⟨u, configure, sample.step configure u⟩ ∈
      visits sample.step .blank [configure, .startDMA, configure] := by
    rw [visits_tail first, visits_tail started]
    exact List.mem_cons_of_mem _ (List.mem_cons_of_mem _ (visits_head u configure []))
  have leaves := (undisturbed _ member busy).leavesChannel rfl (by decide) channel
  exact leaves.2 ⟨by decide, by decide⟩

section Starting

variable (env : Env) (requests : List TransferRequest)

/-- The call comes past all checks, CTRL0 keeps the scatter-gather mode, and `XZDma_Start`
    accepts the list. -/
def Completes : Prop :=
  requests.length ≤ 32 ∧ env.ClockActivates ∧ env.SelfTestPasses d.zdmaConfig.baseAddress ∧
    env.KeepsMode d.zdmaConfig.baseAddress ∧ Accepts env requests

/-- Among the calls `before`, a `configureDMA` completed that no later one reset. -/
def Prepared (before : List (Visit Stuck System ℤ Call)) : Prop :=
  ∃ past first between env requests, before = past ++ first :: between ∧
    first.call = .configureDMA env requests ∧ d.Completes env requests ∧
    ∀ w ∈ between, ¬ w.call.Initializes

def FindsProgram (before : List (Visit Stuck System ℤ Call)) (v : Visit Stuck System ℤ Call) :
    Prop :=
  ∃ first ∈ before, ∃ env requests t, first.call = .configureDMA env requests ∧
    first.outcome = .ok 0 t ∧
    v.before.machine.Programmed d.zdmaConfig.baseAddress (d.cfgShared 4096)
      (requests.map TransferRequest.stored)

def RefusesStart (v : Visit Stuck System ℤ Call) : Prop :=
  ∃ status t, v.outcome = .ok status t ∧ status ≠ 0 ∧ ∀ a value, .write a value ∉ t.machine.log

variable {d env requests}

theorem completes_programs {s : System} (mapped : d.Mapped) (completes : d.Completes env requests) :
    ∃ t, d.step (.configureDMA env requests) s = .ok 0 t ∧
      t.dma.config.baseAddress = d.zdmaConfig.baseAddress ∧
      t.machine.Programmed d.zdmaConfig.baseAddress (d.cfgShared 4096)
        (requests.map TransferRequest.stored) := by
  rcases completes with ⟨fits, clock, works, keeps, accepts⟩
  obtain ⟨t, run, configured⟩ :=
    configureDMA_configures (s := s.clearLog) fits clock mapped works accepts
  exact ⟨t, run, configured.channel, configured.programmed accepts.1 fits keeps⟩

theorem Kept.programmed {s t : System} {transfers : List (ℕ × ℕ × ℕ)} (kept : d.Kept s t)
    (channel : s.dma.config.baseAddress = d.zdmaConfig.baseAddress)
    (programmed : s.machine.Programmed d.zdmaConfig.baseAddress (d.cfgShared 4096) transfers) :
    t.machine.Programmed d.zdmaConfig.baseAddress (d.cfgShared 4096) transfers := by
  apply programmed.congr kept.mem
  intro r member
  apply kept.regs channel r
  all_goals
    rintro rfl
    revert member
    decide

theorem step_startDMA_status {s : System} : ¬ RefusesStart ⟨s, .startDMA, d.step .startDMA s⟩ := by
  rintro ⟨status, t, run, nonzero, _⟩
  rw [step_startDMA] at run
  cases run
  exact nonzero rfl

end Starting

/-- In a run where every `startDMA` follows a `configureDMA` that completed, with none between
    them that came past the clock, every `startDMA` starts that complete program. -/
theorem run_startDMA_programmed (mapped : d.Mapped) (s : System) (calls : List Call)
    (prepared : ∀ before v after, visits d.step s calls = before ++ v :: after →
      v.call = .startDMA → d.Prepared before) :
    ∀ before v after, visits d.step s calls = before ++ v :: after → v.call = .startDMA →
      d.FindsProgram before v ∨ RefusesStart v := by
  intro before v after split start
  obtain ⟨past, first, between, env, requests, rfl, call, completes, quiet⟩ :=
    prepared before v after split start
  have outcome {w : Visit Stuck System ℤ Call} (member : w ∈ past ++ first :: between) :
      w.outcome = d.step w.call w.before := by
    apply visits_outcome
    rw [split]
    exact List.mem_append_left _ member
  obtain ⟨t, run, channel, programmed⟩ := completes_programs (s := first.before) mapped completes
  have firstOutcome : first.outcome = .ok 0 t := by rw [outcome (by simp), call, run]
  have shape : visits d.step s calls = past ++ first :: (between ++ v :: after) := by
    rw [split, List.append_assoc]
    rfl
  have holds : v.before.dma.config.baseAddress = d.zdmaConfig.baseAddress ∧
      v.before.machine.Programmed d.zdmaConfig.baseAddress (d.cfgShared 4096)
        (requests.map TransferRequest.stored) := by
    apply visits_after (Q := fun s => s.dma.config.baseAddress = d.zdmaConfig.baseAddress ∧
      s.machine.Programmed d.zdmaConfig.baseAddress (d.cfgShared 4096)
        (requests.map TransferRequest.stored)) shape
    · intro a s' returned
      rw [firstOutcome] at returned
      cases returned
      exact ⟨channel, programmed⟩
    · rintro w member a s' ⟨channel, programmed⟩ returned
      obtain ⟨b, u, kept, keeps⟩ := step_keeps (d := d) w.before (quiet w member)
      rw [outcome (by simp [member]), kept] at returned
      cases returned
      exact ⟨keeps.channel.trans channel, keeps.programmed channel programmed⟩
  exact .inl ⟨first, by simp, env, requests, t, call, firstOutcome, holds.2⟩

theorem run_startDMA_programmed_once :
    let configure : Call := .configureDMA (.ideal .waiting) [⟨0x10000000, 0x20000000, 64⟩]
    ∀ before v after, visits sample.step .blank [configure, .startDMA] = before ++ v :: after →
      v.call = .startDMA → sample.FindsProgram before v ∨ RefusesStart v := by
  intro configure
  apply run_startDMA_programmed sample sample_mapped .blank [configure, .startDMA]
  intro before v after split start
  have completes : sample.Completes (.ideal .waiting) [⟨0x10000000, 0x20000000, 64⟩] :=
    ⟨by decide, by decide, .of_faithful fun _ => rfl, .of_faithful fun _ => rfl,
      .of_nonzero (by decide) (by decide)⟩
  obtain ⟨t, run, _⟩ := completes_programs (s := .blank) sample_mapped completes
  rw [visits_tail run] at split
  cases before with
  | nil =>
    obtain ⟨rfl, _⟩ := List.cons.inj split
    cases start
  | cons first before =>
    obtain ⟨rfl, rest⟩ := List.cons.inj split
    cases before with
    | nil => exact ⟨[], _, [], _, _, rfl, rfl, completes, by simp⟩
    | cons second before =>
      rw [visits_tail (sample.step_startDMA t)] at rest
      have tail := (List.cons.inj rest).2
      cases before <;> cases tail

/-- A channel whose self-test failed is enabled all the same. -/
theorem startDMA_unguarded :
    let dead : Env := { Env.ideal .waiting with readBack := fun _ _ => 0 }
    let configure : Call := .configureDMA dead [⟨0x10000000, 0x20000000, 64⟩]
    ¬ ∀ before v after, visits sample.step .blank [configure, .startDMA] = before ++ v :: after →
      v.call = .startDMA → sample.FindsProgram before v ∨ RefusesStart v := by
  intro dead configure guarded
  obtain ⟨t, run, _⟩ := sample.configureDMA_selfTestFails dead [⟨0x10000000, 0x20000000, 64⟩]
    System.blank.clearLog (by decide) (by decide) (by decide) (by decide)
  have failed : sample.step configure .blank = .ok xstFailure t := run
  have split : visits sample.step .blank [configure, .startDMA] =
      [⟨.blank, configure, .ok xstFailure t⟩] ++
        ⟨t, .startDMA, sample.step .startDMA t⟩ :: [] := by
    rw [visits_tail failed, visits_tail (sample.step_startDMA t), sample.step_startDMA t]
    rfl
  rcases guarded _ _ _ split rfl with ⟨first, member, env, requests, u, _, success, _⟩ | refuses
  · rw [List.mem_singleton.mp member] at success
    cases success
  · exact step_startDMA_status refuses

end DmaDriverImpl

end ZynqmpDma
