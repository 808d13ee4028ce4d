import ZynqmpDma.Driver.Lifetime
import ZynqmpDma.Driver.Protection

namespace ZynqmpDma

open Base XZDma

def Call.UsesBase : Call → Prop
  | .startDMA => True
  | .checkDMAStatus _ => True
  | _ => False

namespace DmaDriverImpl

variable (d : DmaDriverImpl)

def OnChannel (v : Visit Stuck System ℤ Call) : Prop :=
  ∀ e ∈ (finalState v.outcome).machine.log, DriverAccess d.zdmaConfig.baseAddress e

variable {d}

theorem step_holds (call : Call) (s : System) (mapped : d.zdmaConfig.baseAddress ≠ 0) :
    (finalState (d.step call s)).process.fds = s.process.fds ∧
      (finalState (d.step call s)).process.pages = s.process.pages := by
  by_cases initializes : call.Initializes
  · have drives := (step_initializes s initializes mapped).1
    exact ⟨drives.fds, drives.pages⟩
  · obtain ⟨a, t, run, kept⟩ := step_keeps (d := d) s initializes
    rw [run]
    exact ⟨kept.fds, kept.pages⟩

theorem step_silent {call : Call} (s : System) (refused : ¬ call.Initializes)
    (unused : ¬ call.UsesBase) : (finalState (d.step call s)).machine.log = [] := by
  cases call with
  | configureDMA env requests =>
    by_cases fits : requests.length ≤ 32
    · obtain ⟨t, run, only⟩ := d.configureDMA_noClock env requests s.clearLog fits
        fun clock => refused ⟨fits, clock⟩
      simp only [step, run, finalState_ok, only.log, System.clearLog_log]
    · simp only [step, d.configureDMA_tooMany env requests s.clearLog (by omega), finalState_ok,
        System.clearLog_log]
  | startDMA => exact absurd trivial unused
  | checkDMAStatus env => exact absurd trivial unused
  | hardware status =>
    simp only [step]
    split <;> rfl

theorem step_onChannel (call : Call) (s : System) (mapped : d.zdmaConfig.baseAddress ≠ 0)
    (uses : call.UsesBase → s.dma.config.baseAddress = d.zdmaConfig.baseAddress) :
    d.OnChannel ⟨s, call, d.step call s⟩ := by
  by_cases initializes : call.Initializes
  · obtain ⟨new, log, allowed⟩ := (step_initializes s initializes mapped).1.log
    intro e member
    rw [log, System.clearLog_log, List.append_nil] at member
    exact allowed e member
  · by_cases used : call.UsesBase
    · obtain ⟨a, t, run, kept⟩ := step_keeps (d := d) s initializes
      intro e member
      rw [run] at member
      rw [← uses used]
      exact .inl (kept.log e member)
    · intro e member
      rw [step_silent s initializes used] at member
      exact absurd member List.not_mem_nil

theorem visits_channel {s : System} {calls : List Call}
    {before after : List (Visit Stuck System ℤ Call)} {v : Visit Stuck System ℤ Call}
    (mapped : d.zdmaConfig.baseAddress ≠ 0)
    (split : visits d.step s calls = before ++ v :: after)
    (initialized : ∃ w ∈ before, w.call.Initializes) :
    v.before.dma.config.baseAddress = d.zdmaConfig.baseAddress := by
  rcases initialized with ⟨w, member, initializes⟩
  obtain ⟨past, between, rfl⟩ := List.append_of_mem member
  have outcome {u : Visit Stuck System ℤ Call} (member : u ∈ past ++ w :: between) :
      u.outcome = d.step u.call u.before := by
    apply visits_outcome
    rw [split]
    exact List.mem_append_left _ member
  have shape : visits d.step s calls = past ++ w :: (between ++ v :: after) := by
    rw [split, List.append_assoc]
    rfl
  apply visits_after (Q := fun s => s.dma.config.baseAddress = d.zdmaConfig.baseAddress) shape
  · intro a t run
    rw [outcome (by simp)] at run
    have drives := (step_initializes w.before initializes mapped).1
    rw [run] at drives
    exact drives.channel
  · intro u inside a t channel run
    rw [outcome (by simp [inside])] at run
    exact step_channel mapped channel run

end DmaDriverImpl

namespace Attempt

variable {g : Attempt} {p : Process}

theorem driver_mapped (opens : g.AllOpen) (mmaps : g.AllMmap) :
    (g.driver p).zdmaConfig.baseAddress ≠ 0 ∧
      (g.uioMap p).2.2.LiveMapping g.kernel (g.driver p).getBuffer
        (g.driver p).getBufferSize.toNat := by
  obtain ⟨_, page, data, size⟩ := MappedDevice.map_acquires udmabuf g.kernel g.dataOutcome
    g.udmaDataBufDevice p ⟨opens.1, mmaps.1⟩
  obtain ⟨_, _, cfg⟩ := g.cfg_acquires p ⟨opens.2.1, mmaps.2.1⟩
  obtain ⟨_, _, uio⟩ := g.uio_acquires p ⟨opens.2.2, mmaps.2.2⟩
  rw [← dataMap] at data size
  have size : (g.driver p).getBufferSize = g.dataOutcome.sizeRead udmabuf := size
  have held : Finset.Ico page (page + g.kernel.pagesFor (g.driver p).getBufferSize.toNat) ⊆
      (g.uioMap p).2.2.pages := by
    rw [uio.pages, cfg.pages, data.pages, size]
    apply Finset.subset_union_left.trans
    exact Finset.subset_union_right.trans Finset.subset_union_right
  exact ⟨uio.nonnull, page, data.buf, held⟩

end Attempt

/-- A driver is handed out for mapped devices only exactly when no file opens in vain. Then, in
    every run where no `startDMA` and no `checkDMAStatus` comes before a `configureDMA` that got
    past the clock, every register accessed is one of the mapped channel, and the data buffer
    stays mapped. -/
theorem getDmaDriver_handsOut (g : Attempt) (p : Process) :
    (((g.result p).1.isSome → g.AllMmap) ↔ (g.AllOpen → g.AllMmap)) ∧
    ∀ d q, g.result p = (some d, q) → g.AllMmap → ∀ (s : System) (calls : List Call),
      s.process = q →
      (∀ before v after, visits d.step s calls = before ++ v :: after → v.call.UsesBase →
        ∃ w ∈ before, w.call.Initializes) →
      ∀ v ∈ visits d.step s calls, d.OnChannel v ∧
        v.before.process.LiveMapping g.kernel d.getBuffer d.getBufferSize.toNat ∧
        (finalState v.outcome).process.LiveMapping g.kernel d.getBuffer
          d.getBufferSize.toNat := by
  constructor
  · by_cases opens : g.AllOpen
    · rw [g.result_opens p opens]
      simp only [Option.isSome_some, forall_const, opens]
    · rw [g.result_closed p opens]
      simp [opens]
  · intro d q result mmaps s calls process configured v member
    have opens : g.AllOpen := by
      by_contra closed
      have none := g.result_closed p closed
      rw [result] at none
      cases none
    rw [g.result_opens p opens] at result
    cases result
    obtain ⟨mapped, live⟩ := Attempt.driver_mapped (p := p) opens mmaps
    have alive (t : Process) (pages : t.pages = (g.uioMap p).2.2.pages) :
        t.LiveMapping g.kernel (g.driver p).getBuffer (g.driver p).getBufferSize.toNat := by
      rcases live with ⟨page, start, held⟩
      exact ⟨page, start, by rw [pages]; exact held⟩
    have preserved : ∀ s call a t, s.process.pages = (g.uioMap p).2.2.pages →
        (g.driver p).step call s = .ok a t → t.process.pages = (g.uioMap p).2.2.pages := by
      intro s call a t held run
      have pages := (DmaDriverImpl.step_holds call s mapped).2
      rw [run] at pages
      exact pages.trans held
    have start : s.process.pages = (g.uioMap p).2.2.pages := by rw [process]
    rcases visits_invariant _ preserved start member with ⟨pages, outcome⟩
    have after : (finalState v.outcome).process.pages = (g.uioMap p).2.2.pages := by
      rw [outcome, (DmaDriverImpl.step_holds v.call v.before mapped).2, pages]
    have on : (g.driver p).OnChannel v := by
      rcases List.append_of_mem member with ⟨before, after, split⟩
      have on := DmaDriverImpl.step_onChannel v.call v.before mapped
        fun uses => DmaDriverImpl.visits_channel mapped split (configured before v after split uses)
      rw [← outcome] at on
      exact on
    exact ⟨on, alive _ pages, alive _ after⟩

theorem getDmaDriver_handsOut_sample :
    let d := Attempt.sample.driver .standard
    let q := (Attempt.sample.uioMap .standard).2.2
    ∀ v ∈ visits d.step { System.blank with process := q }
        [.configureDMA (.ideal .waiting) [⟨0x10000000, 0x20000000, 64⟩],
          .checkDMAStatus (.ideal .waiting)],
      d.OnChannel v ∧
        v.before.process.LiveMapping Attempt.sample.kernel d.getBuffer d.getBufferSize.toNat ∧
        (finalState v.outcome).process.LiveMapping Attempt.sample.kernel d.getBuffer
          d.getBufferSize.toNat := by
  intro d q
  have opens : Attempt.sample.AllOpen := by decide
  apply (getDmaDriver_handsOut Attempt.sample .standard).2 d q
    (Attempt.sample.result_opens .standard opens) (by decide) _ _ rfl
  intro before v after split uses
  rw [visits] at split
  cases before with
  | nil =>
    obtain ⟨rfl, _⟩ := List.cons.inj split
    cases uses
  | cons first before =>
    obtain ⟨rfl, _⟩ := List.cons.inj split
    exact ⟨_, List.mem_cons_self, by decide, by decide⟩

/-- A uio device that cannot be mapped does not keep the driver from being handed out. -/
theorem getDmaDriver_ignores_mmap :
    let g : Attempt :=
      { Attempt.sample with uioOutcome := { Attempt.sample.uioOutcome with mmaps := false } }
    ¬ ((g.result .standard).1.isSome → g.AllMmap) := by
  intro g mapped
  have opens : g.AllOpen := by decide
  rw [g.result_opens .standard opens] at mapped
  exact absurd (mapped rfl) (by decide)

end ZynqmpDma
