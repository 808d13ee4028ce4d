import ZynqmpDma.Driver.Configured
import ZynqmpDma.XZDma.Hardware

namespace ZynqmpDma

open Base XZDma

inductive Call
  | configureDMA (env : Env) (requests : List TransferRequest)
  | startDMA
  | checkDMAStatus (env : Env)
  | hardware (status : BitVec 32)

/-- The call comes past the size check and the clock, and initializes the channel. -/
def Call.Initializes : Call → Prop
  | .configureDMA env requests => requests.length ≤ 32 ∧ env.ClockActivates
  | _ => False

instance (call : Call) : Decidable call.Initializes := by
  cases call <;> unfold Call.Initializes <;> infer_instance

namespace DmaDriverImpl

variable (d : DmaDriverImpl)

def step : Call → Prog ℤ
  | .configureDMA env requests => fun s => d.configureDMA env requests s.clearLog
  | .startDMA => fun s =>
    (do let status ← startDMA
        modify (System.takeUp · d.zdmaConfig.baseAddress)
        pure status) s.clearLog
  | .checkDMAStatus env => fun s =>
    (do let status ← checkDMAStatus env
        pure (status.toNat : ℤ)) s.clearLog
  | .hardware status => fun s =>
    if s.machine.Busy d.zdmaConfig.baseAddress then
      .ok 0 (s.clearLog.report d.zdmaConfig.baseAddress (status &&& stsAllMask))
    else .ok 0 s.clearLog

theorem startDMA_run (s : System) : startDMA s = .ok 0 s.enabled := by
  rw [startDMA, bind_ok _ (enable_run s)]
  rfl

theorem step_startDMA (s : System) :
    d.step .startDMA s = .ok 0 (s.clearLog.enabled.takeUp d.zdmaConfig.baseAddress) := by
  simp only [step, bind_run, startDMA_run, modify_run, pure_run]

theorem step_checkDMAStatus (env : Env) (s : System) :
    ∃ status : ℕ, d.step (.checkDMAStatus env) s = .ok status (s.clearLog.read .sts) := by
  simp only [step, checkDMAStatus, bind_run, readReg_run, pure_run]
  exact ⟨_, rfl⟩

structure Kept (s t : System) : Prop where
  channel : t.dma.config.baseAddress = s.dma.config.baseAddress
  fds : t.process.fds = s.process.fds
  pages : t.process.pages = s.process.pages
  mem : t.machine.mem = s.machine.mem
  log : ∀ e ∈ t.machine.log, RegisterAccess s.dma.config.baseAddress e
  regs : s.dma.config.baseAddress = d.zdmaConfig.baseAddress → ∀ r,
    r ≠ .ien → r ≠ .ctrl2 → r ≠ .sts →
    t.machine.channelReg d.zdmaConfig.baseAddress r =
      s.machine.channelReg d.zdmaConfig.baseAddress r

/-- The clock register and the system calls aside, `t` is `s`, but for reads and the status. -/
structure Spared (s t : System) : Prop extends d.Kept s t where
  reads : ∀ e ∈ t.machine.log, ∃ a, e = .read a
  same : ∀ r, r ≠ .sts → t.machine.channelReg d.zdmaConfig.baseAddress r =
    s.machine.channelReg d.zdmaConfig.baseAddress r

variable {d}

theorem Spared.of_onlyClock {s t : System} (only : OnlyClock s.clearLog t) : d.Spared s t where
  channel := by rw [only.dma]; rfl
  fds := only.fds
  pages := only.pages
  mem := only.mem
  log := by rw [only.log]; exact fun e member => absurd member List.not_mem_nil
  regs := by intro _ r _ _ _; rw [Machine.channelReg, only.io]; rfl
  reads := by rw [only.log]; exact fun e member => absurd member List.not_mem_nil
  same := by intro r _; rw [Machine.channelReg, only.io]; rfl

theorem step_refused (env : Env) (requests : List TransferRequest) (s : System)
    (refused : ¬ (Call.configureDMA env requests).Initializes) :
    ∃ status t, d.step (.configureDMA env requests) s = .ok status t ∧ status ≠ 0 ∧
      d.Spared s t := by
  by_cases fits : requests.length ≤ 32
  · obtain ⟨t, run, only⟩ := d.configureDMA_noClock env requests s.clearLog fits
      fun clock => refused ⟨fits, clock⟩
    exact ⟨-1, t, run, by decide, .of_onlyClock only⟩
  · exact ⟨-10, _, d.configureDMA_tooMany env requests s.clearLog (by omega), by decide,
      .of_onlyClock (.refl _)⟩

theorem step_spared {call : Call} (s : System) (refused : ¬ call.Initializes)
    (other : call ≠ .startDMA) : ∃ a t, d.step call s = .ok a t ∧ d.Spared s t := by
  cases call with
  | configureDMA env requests =>
    obtain ⟨status, t, run, _, spared⟩ := step_refused (d := d) env requests s refused
    exact ⟨status, t, run, spared⟩
  | startDMA => exact absurd rfl other
  | checkDMAStatus env =>
    obtain ⟨status, run⟩ := d.step_checkDMAStatus env s
    refine ⟨_, _, run, ⟨rfl, rfl, rfl, rfl, ?_, fun _ _ _ _ _ => rfl⟩, ?_, fun _ _ => rfl⟩
    · exact List.forall_mem_singleton.mpr ⟨.sts, .inl rfl⟩
    · exact List.forall_mem_singleton.mpr ⟨_, rfl⟩
  | hardware status =>
    have quiet (status : BitVec 32) :
        d.Spared s (s.clearLog.report d.zdmaConfig.baseAddress status) :=
      ⟨⟨rfl, rfl, rfl, rfl, fun _ member => absurd member List.not_mem_nil,
        fun _ r _ _ other => by simp [other]⟩,
        fun _ member => absurd member List.not_mem_nil, fun r other => by simp [other]⟩
    by_cases busy : s.machine.Busy d.zdmaConfig.baseAddress
    · exact ⟨0, _, if_pos busy, quiet _⟩
    · exact ⟨0, _, if_neg busy, .of_onlyClock (.refl _)⟩

theorem step_startDMA_kept (s : System) :
    d.Kept s (s.clearLog.enabled.takeUp d.zdmaConfig.baseAddress) := by
  refine ⟨by simp [System.enabled], by simp [System.enabled], by simp [System.enabled],
    by simp [System.enabled], ?_, ?_⟩
  · rw [System.takeUp_log]
    intro e member
    simp only [System.enabled, System.write_log, System.withDma_machine, System.withDma_dma,
      System.write_dma, System.clearLog_dma, System.clearLog_log, List.mem_cons, List.not_mem_nil,
      or_false] at member
    rcases member with rfl | rfl
    · exact ⟨_, .inr ⟨_, rfl⟩⟩
    · exact ⟨_, .inr ⟨_, rfl⟩⟩
  · intro channel r ien ctrl2 sts
    rw [System.takeUp_channelReg _ _ sts,
      System.channelReg_eq (s := s.clearLog.enabled) r (by simp [System.enabled, channel]),
      System.channelReg_eq (s := s) r channel, System.enabled, System.write_reg, if_neg ctrl2,
      System.withDma_reg _ (by intro i; rfl), System.write_reg, if_neg ien]
    rfl

theorem startDMA_busy {s : System} (channel : s.dma.config.baseAddress = d.zdmaConfig.baseAddress) :
    (s.clearLog.enabled.takeUp d.zdmaConfig.baseAddress).machine.Busy d.zdmaConfig.baseAddress := by
  have written : .write (d.zdmaConfig.baseAddress + Register.offset .ctrl2) chCtrl2EnMask ∈
      s.clearLog.enabled.machine.log := by
    rw [System.enabled, System.write_log, ← channel]
    exact List.mem_cons_self
  rw [System.takeUp, if_pos written, Machine.Busy, System.report_channelReg, if_pos rfl]
  decide

/-- A call that does not initialize the channel returns and keeps its program. -/
theorem step_keeps {call : Call} (s : System) (refused : ¬ call.Initializes) :
    ∃ a t, d.step call s = .ok a t ∧ d.Kept s t := by
  by_cases start : call = .startDMA
  · subst start
    exact ⟨0, _, d.step_startDMA s, step_startDMA_kept s⟩
  · obtain ⟨a, t, run, spared⟩ := step_spared (d := d) s refused start
    exact ⟨a, t, run, spared.toKept⟩

/-- A call that initializes the channel points the instance at it, accesses nothing else but
    memory, and disables it on the way. -/
theorem step_initializes {call : Call} (s : System) (initializes : call.Initializes)
    (mapped : d.zdmaConfig.baseAddress ≠ 0) :
    Drives DriverAccess d.zdmaConfig.baseAddress s.clearLog (finalState (d.step call s)) ∧
      .write (d.zdmaConfig.baseAddress + Register.offset .ctrl2) chCtrl2DisMask ∈
        (finalState (d.step call s)).machine.log := by
  cases call with
  | configureDMA env requests =>
    exact d.configureDMA_drives env requests s.clearLog initializes.1 initializes.2 mapped
  | startDMA => cases initializes
  | checkDMAStatus env => cases initializes
  | hardware status => cases initializes

end DmaDriverImpl

end ZynqmpDma
