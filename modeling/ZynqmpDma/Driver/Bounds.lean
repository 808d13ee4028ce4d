import ZynqmpDma.Driver.Programming

namespace ZynqmpDma.DmaDriverImpl

open Base XZDma

variable (d : DmaDriverImpl) (env : Env) (requests : List TransferRequest) (s : System)

def InCfgBuf (a : BitVec 64) (width : ℕ) : Prop :=
  d.cfgBuf.buf ≤ a.toNat ∧ a.toNat + width ≤ d.cfgBuf.buf + d.cfgBuf.size.toNat

/-- The call stores inside the cfg buffer only; when it reports success, the walk of the channel
    fetches inside the buffer only and comes to its end; a list too long for the buffer is
    answered by another status, and nothing is stored. -/
structure Confined : Prop where
  stores : ∀ a width, .store a width ∈
    (finalState (d.configureDMA env requests s.clearLog)).machine.log → d.InCfgBuf a width
  fetches : ∀ t, d.configureDMA env requests s.clearLog = .ok 0 t → ∃ fuel visited,
    t.machine.deviceWalk d.zdmaConfig.baseAddress (d.cfgShared d.cfgBuf.size.toNat) fuel =
      some visited ∧
    ∀ entry ∈ visited, (d.cfgShared d.cfgBuf.size.toNat).holds entry.1.1 ∧
      (d.cfgShared d.cfgBuf.size.toNat).holds entry.1.2
  refuses : d.cfgBuf.size.toNat < 32 * requests.length →
    ∃ status t, d.configureDMA env requests s.clearLog = .ok status t ∧ status ≠ 0 ∧
      ∀ a width, .store a width ∉ t.machine.log

section Confined

variable {d env requests s} {t : System}

theorem not_store_of_registerAccess {base a : BitVec 64} {width : ℕ} :
    ¬ RegisterAccess base (.store a width) := by
  rintro ⟨r, access | ⟨v, access⟩⟩ <;> cases access

theorem confined_of_status {status : ℤ} (nonzero : status ≠ 0)
    (run : d.configureDMA env requests s.clearLog = .ok status t)
    (log : ∀ e ∈ t.machine.log, RegisterAccess d.zdmaConfig.baseAddress e) :
    d.Confined env requests s where
  stores a width member := by
    rw [run] at member
    exact absurd (log _ member) not_store_of_registerAccess
  fetches u success := by
    rw [run] at success
    cases success
    exact absurd rfl nonzero
  refuses _ := ⟨status, t, run, nonzero,
    fun _ _ member => not_store_of_registerAccess (log _ member)⟩

theorem deviceWalk_holds {m : Machine} {base : BitVec 64} {b : SharedBuffer} {fuel : ℕ}
    {visited : List ((ℕ × ℕ) × (LiDscr × LiDscr))}
    (walk : m.deviceWalk base b fuel = some visited) :
    ∀ entry ∈ visited, b.holds entry.1.1 ∧ b.holds entry.1.2 := by
  intro entry member
  have fetched := follow_fetched walk entry member
  by_contra outside
  rw [fetchPair, if_neg outside] at fetched
  cases fetched

theorem Configured.stores (configured : d.Configured env requests s.clearLog t)
    (mapped : d.Mapped) (fits : requests.length ≤ 32) {a : BitVec 64} {width : ℕ}
    (member : .store a width ∈ t.machine.log) :
    d.cfgBuf.buf ≤ a.toNat ∧
      a.toNat + width ≤ d.cfgBuf.buf + 2048 + 16 * requests.length := by
  rcases configured.drives.log with ⟨new, log, allowed⟩
  rw [log] at member
  rcases List.mem_append.mp member with member | member
  · rcases allowed _ member with register | ⟨o, width', same, place⟩
    · exact absurd register not_store_of_registerAccess
    · obtain ⟨rfl, rfl⟩ := Event.store.inj same
      have bound : o < 4096 := by omega
      have value := mapped.offset_toNat bound
      omega
  · exact absurd member (List.not_mem_nil)

theorem Configured.last_store (configured : d.Configured env requests s t) (mapped : d.Mapped)
    (nonempty : requests ≠ []) (fits : requests.length ≤ 32) :
    ∃ a, .store a 4 ∈ t.machine.log ∧
      a.toNat + 4 = d.cfgBuf.buf + 2048 + 16 * requests.length := by
  have positive : 0 < requests.length := List.length_pos_iff.mpr nonempty
  have last : requests.length - 1 < requests.length := by omega
  have bound : 2048 + 16 * (requests.length - 1) + 12 < 4096 := by omega
  have value := mapped.offset_toNat bound
  exact ⟨_, configured.written (requests.length - 1) last, by omega⟩

theorem confined_of_room (fits : requests.length ≤ 32) (clock : env.ClockActivates)
    (mapped : d.Mapped) (works : env.SelfTestPasses d.zdmaConfig.baseAddress)
    (accepts : Accepts env requests)
    (room : 2048 + 16 * requests.length ≤ d.cfgBuf.size.toNat) : d.Confined env requests s := by
  obtain ⟨t, run, configured⟩ :=
    configureDMA_configures (s := s.clearLog) fits clock mapped works accepts
  constructor
  · intro a width member
    rw [run] at member
    obtain ⟨low, high⟩ := configured.stores mapped fits member
    exact ⟨low, by omega⟩
  · intro u success
    rw [run] at success
    cases success
    obtain ⟨visited, walk, _⟩ := configured.walk accepts.1 room le_rfl
    exact ⟨_, visited, walk, deviceWalk_holds walk⟩
  · intro short
    omega

theorem Confined.room (confined : d.Confined env requests s) (fits : requests.length ≤ 32)
    (clock : env.ClockActivates) (mapped : d.Mapped)
    (works : env.SelfTestPasses d.zdmaConfig.baseAddress) (accepts : Accepts env requests) :
    2048 + 16 * requests.length ≤ d.cfgBuf.size.toNat := by
  obtain ⟨t, run, configured⟩ :=
    configureDMA_configures (s := s.clearLog) fits clock mapped works accepts
  obtain ⟨a, member, last⟩ := configured.last_store mapped accepts.1 fits
  have inside := confined.stores a 4 (by rw [run]; exact member)
  have high := inside.2
  omega

end Confined

/-- The descriptors stay inside the cfg buffer exactly when its size covers the second half of
    the 4096 bytes that `configureDMA` assumes, up to the last descriptor. -/
theorem configureDMA_confined_iff (nonempty : requests ≠ []) (fits : requests.length ≤ 32)
    (nonzero : ∀ request ∈ requests, request.Nonzero) (mapped : d.Mapped) :
    d.Confined env requests s ↔
      ¬ env.ClockActivates ∨ ¬ env.SelfTestPasses d.zdmaConfig.baseAddress ∨
        2048 + 16 * requests.length ≤ d.cfgBuf.size.toNat := by
  by_cases clock : env.ClockActivates
  · by_cases works : env.SelfTestPasses d.zdmaConfig.baseAddress
    · have accepts : Accepts env requests := .of_nonzero nonempty nonzero
      simp only [clock, works, not_true_eq_false, false_or]
      exact ⟨fun confined => confined.room fits clock mapped works accepts,
        confined_of_room fits clock mapped works accepts⟩
    · obtain ⟨t, run, drives⟩ :=
        d.configureDMA_selfTestFails env requests s.clearLog fits clock mapped.uio works
      simp only [works, not_false_eq_true, true_or, or_true, iff_true]
      apply confined_of_status (by decide) run
      rcases drives.log with ⟨new, log, allowed⟩
      intro e member
      rw [log, List.mem_append] at member
      exact allowed e (member.resolve_right List.not_mem_nil)
  · obtain ⟨t, run, only⟩ := d.configureDMA_noClock env requests s.clearLog fits clock
    simp only [clock, not_false_eq_true, true_or, iff_true]
    apply confined_of_status (by decide) run
    rw [only.log]
    intro e member
    cases member

theorem configureDMA_confined_many :
    sample.Confined (.ideal .waiting) (List.replicate 32 ⟨0x10000000, 0x20000000, 64⟩) .blank :=
  (configureDMA_confined_iff sample (.ideal .waiting) _ .blank (by decide) (by decide) (by decide)
    sample_mapped).mpr (.inr (.inr (by decide)))

def sampleHalf : DmaDriverImpl where
  dataBuf := sample.dataBuf
  cfgBuf := { sample.cfgBuf with size := 0x800 }
  uioDma := sample.uioDma

/-- One request fits 2048 bytes, but its destination descriptor is written behind them. -/
theorem configureDMA_overruns :
    ¬ sampleHalf.Confined (.ideal .waiting) [⟨0x10000000, 0x20000000, 64⟩] .blank := by
  intro confined
  have mapped : sampleHalf.Mapped := ⟨by decide, by decide, by decide⟩
  have room := confined.room (by decide) (by decide) mapped (.of_faithful fun _ => rfl)
    (.of_nonzero (by decide) (by decide))
  revert room
  decide

end ZynqmpDma.DmaDriverImpl
