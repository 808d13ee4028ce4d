import ZynqmpDma.Driver.Configured

namespace ZynqmpDma

open Base XZDma

theorem Accepts.of_nonzero {env : Env} {requests : List TransferRequest} (nonempty : requests ≠ [])
    (nonzero : ∀ request ∈ requests, request.Nonzero) : Accepts env requests :=
  ⟨nonempty, fun request member => .inl (nonzero request member)⟩

theorem Env.SelfTestPasses.of_faithful {env : Env} {base : BitVec 64}
    (faithful : ∀ v, env.readBack (base + Register.offset .ctrl0) v = v) :
    env.SelfTestPasses base := by
  simp only [SelfTestPasses, faithful]
  decide

theorem Env.KeepsMode.of_faithful {env : Env} {base : BitVec 64}
    (faithful : ∀ v, env.readBack (base + Register.offset .ctrl0) v = v) : env.KeepsMode base := by
  simp only [KeepsMode, faithful]
  decide

def TransferRequest.Fits (request : TransferRequest) : Prop :=
  request.transferLength.toNat < 2 ^ 30

instance (request : TransferRequest) : Decidable request.Fits :=
  inferInstanceAs (Decidable (_ < _))

theorem TransferRequest.stored_eq_asked (request : TransferRequest) :
    request.stored = request.asked ↔ request.Fits := by
  simp only [stored, asked, Prod.mk.injEq, true_and, Fits]
  omega

theorem map_stored_eq_asked (requests : List TransferRequest) :
    requests.map TransferRequest.stored = requests.map TransferRequest.asked ↔
      ∀ request ∈ requests, request.Fits := by
  simp only [List.map_inj_left, TransferRequest.stored_eq_asked]

namespace DmaDriverImpl

def sample : DmaDriverImpl where
  dataBuf := { fd := 3, buf := 0x7F0000000000, size := 0x100000, physAddr := 0x70000000 }
  cfgBuf := { fd := 4, buf := 0x7F0000200000, size := 0x1000, physAddr := 0x70100000 }
  uioDma := { fd := 5, buf := 0x7F0000300000, size := 0x1000, physAddr := 0xFFA80000 }

theorem sample_mapped : sample.Mapped where
  uio := by decide
  cfg := by decide
  room := by decide

theorem sample_configures (s : System) :
    ∃ t, sample.configureDMA (.ideal .waiting) [⟨0x10000000, 0x20000000, 64⟩] s = .ok 0 t ∧
      sample.Configured (.ideal .waiting) [⟨0x10000000, 0x20000000, 64⟩] s t :=
  configureDMA_configures (by decide) (by decide) sample_mapped (.of_faithful fun _ => rfl)
    (.of_nonzero (by decide) (by decide))

variable (d : DmaDriverImpl) (env : Env) (requests : List TransferRequest) (s : System)

/-- From any state, the channel walks exactly the list it was configured with. -/
theorem configureDMA_programs (nonempty : requests ≠ []) (fits : requests.length ≤ 32)
    (nonzero : ∀ request ∈ requests, request.Nonzero) (clock : env.ClockActivates)
    (mapped : d.Mapped)
    (faithful : ∀ v, env.readBack (d.zdmaConfig.baseAddress + Register.offset .ctrl0) v = v) :
    ∃ t, d.configureDMA env requests s = .ok 0 t ∧
      t.machine.channelReg d.zdmaConfig.baseAddress .ctrl0 &&&
        (ctrl0PointTypeMask ||| ctrl0ModeMask) = ctrl0PointTypeMask ∧
      ∀ fuel, requests.length ≤ fuel →
        t.machine.walkTransfers d.zdmaConfig.baseAddress (d.cfgShared 4096) fuel =
          some (requests.map fun request =>
            (request.srcAddr.toNat, request.destAddr.toNat,
              request.transferLength.toNat % 2 ^ 30)) := by
  obtain ⟨t, run, configured⟩ := configureDMA_configures (s := s) fits clock mapped
    (.of_faithful faithful) (.of_nonzero nonempty nonzero)
  have mode := configured.scatterGatherMode (.of_faithful faithful)
  have room : 2048 + 16 * requests.length ≤ 4096 := by omega
  exact ⟨t, run, mode, fun fuel enough => configured.walkTransfers nonempty room enough⟩

theorem configureDMA_programs_two :
    ∃ t, sample.configureDMA (.ideal .waiting)
        [⟨0x10000000, 0x20000000, 64⟩, ⟨0x30000000, 0x20000040, 0xFFFFFFFF⟩] .blank = .ok 0 t ∧
      t.machine.channelReg sample.zdmaConfig.baseAddress .ctrl0 &&&
        (ctrl0PointTypeMask ||| ctrl0ModeMask) = ctrl0PointTypeMask ∧
      ∀ fuel, 2 ≤ fuel →
        t.machine.walkTransfers sample.zdmaConfig.baseAddress (sample.cfgShared 4096) fuel =
          some [(0x10000000, 0x20000000, 64), (0x30000000, 0x20000040, 0x3FFFFFFF)] :=
  configureDMA_programs sample (.ideal .waiting)
    [⟨0x10000000, 0x20000000, 64⟩, ⟨0x30000000, 0x20000040, 0xFFFFFFFF⟩] .blank (by decide)
    (by decide) (by decide) (by decide) sample_mapped fun _ => rfl

/-- What `XZDma_Start`, the two tables and the size field of a descriptor can take. -/
def Takes : Prop := Accepts env requests ∧ ∀ request ∈ requests, request.Fits

instance : Decidable (Takes env requests) := inferInstanceAs (Decidable (_ ∧ _))

/-- Status 0 stands for exactly the transfers asked for, and what cannot be taken is answered
    by another status. -/
def ReportsHonestly : Prop :=
  (∀ t, d.configureDMA env requests s = .ok 0 t →
    t.machine.WalkYields d.zdmaConfig.baseAddress (d.cfgShared 4096)
      (requests.map TransferRequest.asked)) ∧
  (¬ Takes env requests → ∃ status t, d.configureDMA env requests s = .ok status t ∧ status ≠ 0)

section Contract

variable {d env requests s}

theorem ReportsHonestly.takes (honest : d.ReportsHonestly env requests s)
    (fits : requests.length ≤ 32) (clock : env.ClockActivates) (mapped : d.Mapped)
    (works : env.SelfTestPasses d.zdmaConfig.baseAddress) : Takes env requests := by
  by_contra refused
  obtain ⟨status, t, run, nonzero⟩ := honest.2 refused
  exact nonzero (d.configureDMA_status env requests fits clock mapped works run)

theorem reportsHonestly_of_status {status : ℤ} {t : System} (nonzero : status ≠ 0)
    (run : d.configureDMA env requests s = .ok status t) : d.ReportsHonestly env requests s := by
  constructor
  · intro u success
    rw [run] at success
    cases success
    exact absurd rfl nonzero
  · intro _
    exact ⟨status, t, run, nonzero⟩

theorem reportsHonestly_of_takes (fits : requests.length ≤ 32) (clock : env.ClockActivates)
    (mapped : d.Mapped) (works : env.SelfTestPasses d.zdmaConfig.baseAddress)
    (takes : Takes env requests) : d.ReportsHonestly env requests s := by
  obtain ⟨t, run, configured⟩ := configureDMA_configures (s := s) fits clock mapped works takes.1
  constructor
  · intro u success
    rw [run] at success
    cases success
    have room : 2048 + 16 * requests.length ≤ 4096 := by omega
    rw [← (map_stored_eq_asked requests).mpr takes.2]
    exact ⟨_, configured.walkTransfers takes.1.1 room le_rfl⟩
  · intro refused
    exact absurd takes refused

end Contract

/-- When `configureDMA` keeps its contract: it stops at the clock or at the self-test, or the
    list can be taken. -/
theorem configureDMA_reports_iff (fits : requests.length ≤ 32) (mapped : d.Mapped) :
    d.ReportsHonestly env requests s ↔
      ¬ env.ClockActivates ∨ ¬ env.SelfTestPasses d.zdmaConfig.baseAddress ∨
        (requests ≠ [] ∧ ∀ request ∈ requests,
          request.transferLength.toNat < 2 ^ 30 ∧
            (env.asserts ≠ .compiledOut → request.srcAddr ≠ 0 ∧ request.destAddr ≠ 0)) := by
  have taken : Takes env requests ↔ (requests ≠ [] ∧ ∀ request ∈ requests,
      request.transferLength.toNat < 2 ^ 30 ∧
        (env.asserts ≠ .compiledOut → request.srcAddr ≠ 0 ∧ request.destAddr ≠ 0)) := by
    simp only [Takes, Accepts, Passes, TransferRequest.Fits, TransferRequest.Nonzero, and_assoc,
      ← forall₂_and]
    apply and_congr_right
    intro _
    apply forall₂_congr
    intro request _
    tauto
  rw [← taken]
  by_cases clock : env.ClockActivates
  · by_cases works : env.SelfTestPasses d.zdmaConfig.baseAddress
    · simp only [clock, works, not_true_eq_false, false_or]
      exact ⟨fun honest => honest.takes fits clock mapped works,
        reportsHonestly_of_takes fits clock mapped works⟩
    · obtain ⟨t, run, _⟩ :=
        d.configureDMA_selfTestFails env requests s fits clock mapped.uio works
      simp only [works, not_false_eq_true, true_or, or_true, iff_true]
      exact reportsHonestly_of_status (by decide) run
  · obtain ⟨t, run, _⟩ := d.configureDMA_noClock env requests s fits clock
    simp only [clock, not_false_eq_true, true_or, iff_true]
    exact reportsHonestly_of_status (by decide) run

theorem configureDMA_reports_three :
    sample.ReportsHonestly (.ideal .waiting) [⟨0x10000000, 0x20000000, 64⟩,
      ⟨0x20000020, 0x10000000, 0x3FFFFFFF⟩, ⟨0x30000000, 0x10000000, 1⟩] .blank :=
  (configureDMA_reports_iff sample (.ideal .waiting) _ .blank (by decide) sample_mapped).mpr
    (.inr (.inr (by decide)))

/-- A length of 2^30 bytes is reported as configured, but the size field holds 0. -/
theorem configureDMA_truncates :
    ¬ sample.ReportsHonestly (.ideal .waiting) [⟨0x10000000, 0x20000000, 0x40000000⟩] .blank := by
  intro honest
  have takes := honest.takes (by decide) (by decide) sample_mapped (.of_faithful fun _ => rfl)
  revert takes
  decide

theorem steps_configureDMA :
    Steps (fun _ _ => True) (StuckIn env) (d.configureDMA env requests) := by
  have : Std.Refl (fun _ _ : System => True) := ⟨fun _ => trivial⟩
  have : IsTrans System (fun _ _ => True) := ⟨fun _ _ _ _ _ => trivial⟩
  have setInstance (f : XZDma → XZDma) :
      Steps (fun _ _ => True) (StuckIn env) (XZDma.setInstance f) := by
    constructor
    · intro s
      trivial
    · intro s e t run
      cases run
  have clk : Steps (fun _ _ => True) (StuckIn env) (activateFpdDmaClk env) := by
    constructor
    · intro s
      trivial
    · intro s e t run
      rcases activateFpdDmaClk_run env s with ⟨u, activated, _⟩
      rw [activated] at run
      cases run
  have reset := (steps_reset env registers_driver).mono fun _ _ _ => trivial
  have cfgInit (cfg : Config) (addr : BitVec 64) :
      Steps (fun _ _ => True) (StuckIn env) (cfgInitialize env cfg addr) := by
    apply steps_xilAssert
    apply Steps.andThen (setInstance _)
    apply Steps.andThen reset
    apply Steps.andThen (setInstance _)
    exact .pure _
  have channel := (d.steps_configureChannel env requests).mono fun _ _ _ => trivial
  apply Steps.ite (.pure _)
  apply Steps.bind clk
  intro activated
  apply Steps.ite (.pure _)
  apply Steps.bind (cfgInit _ _)
  intro initialized
  exact .ite (.pure _) channel

/-- Only an assertion that waits keeps `configureDMA` from returning, whatever it is given. -/
theorem configureDMA_terminates (live : env.asserts ≠ .waiting) :
    ∃ status t, d.configureDMA env requests s = .ok status t :=
  (d.steps_configureDMA env requests).returns (fun _ stuck => live stuck.2) s

/-- With waiting assertions, `configureDMA` returns unless it comes to an empty list or to a
    zero address at `XZDma_Start`. -/
theorem configureDMA_returns_iff (fits : requests.length ≤ 32) (mapped : d.Mapped)
    (wait : env.asserts = .waiting) :
    (∃ status t, d.configureDMA env requests s = .ok status t) ↔
      ¬ env.ClockActivates ∨ ¬ env.SelfTestPasses d.zdmaConfig.baseAddress ∨
        (requests ≠ [] ∧ ∀ request ∈ requests, request.srcAddr ≠ 0 ∧ request.destAddr ≠ 0) := by
  by_cases clock : env.ClockActivates
  · by_cases works : env.SelfTestPasses d.zdmaConfig.baseAddress
    · simp only [clock, works, not_true_eq_false, false_or]
      constructor
      · rintro ⟨status, t, run⟩
        exact configureDMA_returned wait fits clock mapped works run
      · rintro ⟨nonempty, nonzero⟩
        obtain ⟨t, run, _⟩ := configureDMA_configures (s := s) fits clock mapped works
          (.of_nonzero nonempty nonzero)
        exact ⟨0, t, run⟩
    · obtain ⟨t, run, _⟩ :=
        d.configureDMA_selfTestFails env requests s fits clock mapped.uio works
      simp only [works, not_false_eq_true, true_or, or_true, iff_true]
      exact ⟨_, t, run⟩
  · obtain ⟨t, run, _⟩ := d.configureDMA_noClock env requests s fits clock
    simp only [clock, not_false_eq_true, true_or, iff_true]
    exact ⟨_, t, run⟩

theorem configureDMA_returns_three :
    ∃ status t, sample.configureDMA (.ideal .waiting) [⟨0x10000000, 0x20000000, 64⟩,
      ⟨0x20000020, 0x10000000, 0x3FFFFFFF⟩, ⟨0x30000000, 0x10000000, 1⟩] .blank = .ok status t :=
  (configureDMA_returns_iff sample (.ideal .waiting) _ .blank (by decide) sample_mapped rfl).mpr
    (.inr (.inr (by decide)))

/-- The empty list passes the size check and then waits forever at `XZDma_Start`. -/
theorem configureDMA_hangs :
    ¬ ∃ status t, sample.configureDMA (.ideal .waiting) [] .blank = .ok status t := by
  rintro ⟨status, t, run⟩
  obtain ⟨nonempty, _⟩ := configureDMA_returned rfl (by decide) (by decide) sample_mapped
    (.of_faithful fun _ => rfl) run
  exact nonempty rfl

end DmaDriverImpl

end ZynqmpDma
