import ZynqmpDma.Base.Sessions
import ZynqmpDma.Driver.HandOut

namespace ZynqmpDma

open Base XZDma

/-- One use of the driver in a process: it is made, called, and destroyed. -/
structure Life where
  attempt : Attempt
  calls : List Call

namespace Life

variable (l : Life)

def live : Prog Unit := fun s =>
  match l.attempt.result s.process with
  | (none, q) => .ok () { s with process := q }
  | (some d, q) =>
    match serve d.step l.calls { s with dma := .zeroed, process := q } with
    | .ok _ t => .ok () { t with process := d.destroy l.attempt.kernel t.process }
    | .error e t => .error e t

end Life

namespace MappedDevice

variable {k : Kernel} {o : MapOutcome} {self : MappedDevice} {before after q : Process}

/-- The descriptor that `map` leaves behind: one that it opened, and perhaps closed again; or none,
    which is -1 where the device file did not open, and 0 where `map` did not get as far. -/
inductive Leaves (o : MapOutcome) (self : MappedDevice) (before after : Process) : Prop
  | held (fd : ℕ) (file : self.fd = fd) (fresh : fd ∉ before.fds) (read : o.SysfsOpens)
      (fds : after.fds = insert fd before.fds ∨ after.fds = before.fds)
  | failed (file : self.fd = -1) (read : o.SysfsOpens) (fds : after.fds = before.fds)
  | never (file : self.fd = 0) (unread : ¬ o.SysfsOpens) (fds : after.fds = before.fds)

theorem map_leaves (c : DeviceClass) (k : Kernel) (o : MapOutcome) (device : String)
    (p : Process) : Leaves o (({} : MappedDevice).map c k o device p).2.1 p
      (({} : MappedDevice).map c k o device p).2.2 := by
  cases size : o.sizeAttr with
  | none =>
    have unread : ¬ o.SysfsOpens := by simp [MapOutcome.SysfsOpens, size]
    simp only [map, size]
    exact .never rfl unread rfl
  | some sizeAttr =>
    cases addr : o.addrAttr with
    | none =>
      have unread : ¬ o.SysfsOpens := by simp [MapOutcome.SysfsOpens, addr]
      simp only [map, size, addr]
      exact .never rfl unread (readAttr_fds k _ p)
    | some addrAttr =>
      have read : o.SysfsOpens := by simp [MapOutcome.SysfsOpens, size, addr]
      simp only [map, size, addr, mapBuffer]
      have same : (readAttr k (c.sysDir ++ device ++ c.addrFile)
          (readAttr k (c.sysDir ++ device ++ c.sizeFile) p)).fds = p.fds := by
        rw [readAttr_fds, readAttr_fds]
      generalize readAttr k (c.sysDir ++ device ++ c.addrFile)
        (readAttr k (c.sysDir ++ device ++ c.sizeFile) p) = q at same
      have fresh : k.freshFd q ∉ p.fds := same ▸ k.freshFd_unused q
      split
      · split
        · refine .held (k.freshFd q) rfl fresh read (.inl ?_)
          rw [← same]
          rfl
        · refine .held (k.freshFd q) rfl fresh read (.inr ?_)
          rw [← same]
          exact Process.close_fresh k q rfl
      · exact .failed rfl read same

def remaining (lost : Prop) [Decidable lost] (fds : Finset ℕ) : Finset ℕ :=
  fds.filter fun n => ¬ (lost ∧ n = 0)

theorem remaining_erase {lost : Prop} [Decidable lost] (loses : lost) (fds : Finset ℕ) :
    remaining lost fds = fds.erase 0 := by
  ext n
  simp only [remaining, loses, true_and, Finset.mem_filter, Finset.mem_erase, and_comm, ne_eq]

theorem remaining_same {lost : Prop} [Decidable lost] (keeps : ¬ lost) (fds : Finset ℕ) :
    remaining lost fds = fds := by
  simp only [remaining, keeps, false_and, not_false_eq_true, Finset.filter_true]

/-- Destroying a device gives back its descriptor, or closes standard input. -/
theorem Leaves.destroy {lost : Prop} [Decidable lost] (leaves : Leaves o self before after)
    (fds : q.fds = remaining lost after.fds) :
    (self.destroy k q).fds = remaining (lost ∨ ¬ o.SysfsOpens) before.fds := by
  have destroyed : (self.destroy k q).fds = q.fds.filter fun n : ℕ => (n : ℤ) ≠ self.fd := rfl
  rw [destroyed, fds]
  ext n
  simp only [remaining, Finset.mem_filter]
  cases leaves with
  | held fd file fresh read same =>
    rw [file, ne_eq, Nat.cast_inj]
    have other : n ∈ before.fds → n ≠ fd := fun member equal => fresh (equal ▸ member)
    rcases same with same | same
    · simp only [same, Finset.mem_insert, read, not_true_eq_false, or_false]
      constructor
      · rintro ⟨⟨rfl | member, kept⟩, apart⟩
        · exact absurd rfl apart
        · exact ⟨member, kept⟩
      · exact fun both => ⟨⟨.inr both.1, both.2⟩, other both.1⟩
    · simp only [same, read, not_true_eq_false, or_false]
      exact ⟨fun both => both.1, fun both => ⟨both, other both.1⟩⟩
  | failed file read same =>
    have negative : (n : ℤ) ≠ -1 := by omega
    simp only [file, same, read, negative, not_true_eq_false, or_false, not_false_eq_true, ne_eq,
      and_true]
  | never file unread same =>
    simp only [file, same, unread, not_false_eq_true, or_true, true_and, ne_eq, Nat.cast_eq_zero]
    constructor
    · intro both
      exact ⟨both.1.1, both.2⟩
    · intro both
      exact ⟨⟨both.1, fun zero => both.2 zero.2⟩, both.2⟩

theorem destroy_default (k : Kernel) (q : Process) :
    (({} : MappedDevice).destroy k q).fds = q.fds.erase 0 := Process.close_fds _ 0

theorem Acquired.destroy_pages {fd page count : ℕ}
    (acquired : Acquired k self fd page count before after) (q : Process) :
    (self.destroy k q).pages = q.pages.erase page := by
  rw [MappedDevice.destroy, acquired.buf]
  exact q.munmap_page k page

theorem Acquired.first {fd page count : ℕ} (acquired : Acquired k self fd page count before after)
    (some : 1 ≤ count) : page ∈ after.pages ∧ page ∉ before.pages := by
  have inside : page ∈ Finset.Ico page (page + count) := Finset.mem_Ico.mpr ⟨le_rfl, by omega⟩
  refine ⟨?_, Finset.disjoint_left.mp acquired.unused inside⟩
  rw [acquired.pages]
  exact Finset.mem_union_left _ inside

theorem Acquired.subset {fd page count : ℕ}
    (acquired : Acquired k self fd page count before after) : before.pages ⊆ after.pages := by
  rw [acquired.pages]
  exact Finset.subset_union_right

/-- A device that opened is at a mapping or at `MAP_FAILED`, and never at the null address. -/
theorem map_nonnull (c : DeviceClass) (k : Kernel) (o : MapOutcome) (device : String)
    (p : Process) (opens : o.Opens) :
    BitVec.ofNat 64 (({} : MappedDevice).map c k o device p).2.1.buf ≠ 0 := by
  obtain ⟨sizeAttr, size⟩ := Option.isSome_iff_exists.mp opens.1.1
  obtain ⟨addrAttr, addr⟩ := Option.isSome_iff_exists.mp opens.1.2
  simp only [map, size, addr, mapBuffer, opens.2, ite_true]
  split
  · exact k.freshPage_nonnull _ _
  · show BitVec.ofNat 64 mapFailed ≠ 0
    decide

theorem destroy_congr {q' : Process} (k : Kernel) (self : MappedDevice) (fds : q'.fds = q.fds)
    (pages : q'.pages = q.pages) :
    (self.destroy k q').fds = (self.destroy k q).fds ∧
      (self.destroy k q').pages = (self.destroy k q).pages := by
  simp only [destroy, Process.close, Process.munmap, fds, pages, and_self]

end MappedDevice

namespace Attempt

open MappedDevice

variable (g : Attempt) (p : Process)

def ReachesUio : Prop := g.dataOutcome.Opens ∧ g.cfgOutcome.Opens ∧ g.uioOutcome.SysfsOpens

instance : Decidable g.ReachesUio := inferInstanceAs (Decidable (_ ∧ _))

/-- Whatever fails in the life of a driver, it costs the process no descriptor but standard input,
    and that if `map` does not get as far as the last device file. -/
theorem lifetime_fds :
    (g.lifetime p).fds = if g.ReachesUio then p.fds else p.fds.erase 0 := by
  have data := MappedDevice.map_leaves udmabuf g.kernel g.dataOutcome g.udmaDataBufDevice p
  have cfg := MappedDevice.map_leaves udmabuf g.kernel g.cfgOutcome g.udmaCfgBufDevice
    (g.dataMap p).2.2
  have uio := MappedDevice.map_leaves uio g.kernel g.uioOutcome g.uioDmaDriverDevice
    (g.cfgMap p).2.2
  rw [← dataMap] at data
  rw [← cfgMap] at cfg
  rw [← uioMap] at uio
  rw [lifetime_eq]
  by_cases dataOpens : g.dataOutcome.Opens
  · by_cases cfgOpens : g.cfgOutcome.Opens
    · rw [if_neg (not_not.mpr dataOpens), if_neg (not_not.mpr cfgOpens)]
      have begins : (g.uioMap p).2.2.fds = remaining False (g.uioMap p).2.2.fds :=
        (remaining_same not_false _).symm
      have ends := data.destroy (k := g.kernel) (cfg.destroy (k := g.kernel)
        (uio.destroy (k := g.kernel) begins))
      refine Eq.trans ends ?_
      by_cases reaches : g.uioOutcome.SysfsOpens
      · rw [if_pos ⟨dataOpens, cfgOpens, reaches⟩]
        apply remaining_same
        simp only [reaches, cfgOpens.1, dataOpens.1, not_true_eq_false, or_self, not_false_eq_true]
      · rw [if_neg fun all => reaches all.2.2]
        exact remaining_erase (.inl (.inl (.inr reaches))) _
    · rw [if_neg (not_not.mpr dataOpens), if_pos cfgOpens, if_neg fun all => cfgOpens all.2.1]
      have begins : (({} : MappedDevice).destroy g.kernel (g.cfgMap p).2.2).fds =
          remaining True (g.cfgMap p).2.2.fds := by
        rw [remaining_erase trivial, destroy_default]
      have ends := data.destroy (k := g.kernel) (cfg.destroy (k := g.kernel) begins)
      exact ends.trans (remaining_erase (.inl (.inl trivial)) _)
  · rw [if_pos dataOpens, if_neg fun all => dataOpens all.1]
    have begins : (({} : MappedDevice).destroy g.kernel
        (({} : MappedDevice).destroy g.kernel (g.dataMap p).2.2)).fds =
          remaining True (g.dataMap p).2.2.fds := by
      rw [remaining_erase trivial, destroy_default, destroy_default, Finset.erase_idem]
    exact (data.destroy (k := g.kernel) begins).trans (remaining_erase (.inl trivial) _)

/-- The pages that the life of a driver costs the process: all but the first of each mapping. -/
def leak : ℕ :=
  (g.kernel.pagesFor (g.dataOutcome.sizeRead udmabuf).toNat - 1) +
    (g.kernel.pagesFor (g.cfgOutcome.sizeRead udmabuf).toNat - 1) +
    (g.kernel.pagesFor (g.uioOutcome.sizeRead uio).toNat - 1)

def AllMap : Prop :=
  g.dataOutcome.Maps udmabuf ∧ g.cfgOutcome.Maps udmabuf ∧ g.uioOutcome.Maps uio

instance : Decidable g.AllMap := inferInstanceAs (Decidable (_ ∧ _))

theorem lifetime_pages (maps : g.AllMap) :
    p.pages ⊆ (g.lifetime p).pages ∧ (g.lifetime p).pages.card = p.pages.card + g.leak := by
  obtain ⟨_, dataPage, data⟩ := g.data_acquires p maps.1
  obtain ⟨_, cfgPage, cfg⟩ := g.cfg_acquires p maps.2.1
  obtain ⟨_, uioPage, uio⟩ := g.uio_acquires p maps.2.2
  have dataSome := g.kernel.pagesFor_pos maps.1.size_ne_zero
  have cfgSome := g.kernel.pagesFor_pos maps.2.1.size_ne_zero
  have uioSome := g.kernel.pagesFor_pos maps.2.2.size_ne_zero
  have ends : (g.lifetime p).pages =
      (((g.uioMap p).2.2.pages.erase uioPage).erase cfgPage).erase dataPage := by
    rw [g.lifetime_of_buffers p maps.1.1 maps.2.1.1, data.destroy_pages, cfg.destroy_pages,
      uio.destroy_pages]
  obtain ⟨dataIn, dataNew⟩ := data.first dataSome
  obtain ⟨cfgIn, cfgNew⟩ := cfg.first cfgSome
  obtain ⟨uioIn, uioNew⟩ := uio.first uioSome
  have dataUio : dataPage ≠ uioPage := fun same => uioNew (same ▸ cfg.subset dataIn)
  have cfgUio : cfgPage ≠ uioPage := fun same => uioNew (same ▸ cfgIn)
  have dataCfg : dataPage ≠ cfgPage := fun same => cfgNew (same ▸ dataIn)
  constructor
  · intro n member
    rw [ends, Finset.mem_erase, Finset.mem_erase, Finset.mem_erase]
    have later := data.subset member
    refine ⟨?_, ?_, ?_, uio.subset (cfg.subset later)⟩
    · exact fun same => dataNew (same ▸ member)
    · exact fun same => cfgNew (same ▸ later)
    · exact fun same => uioNew (same ▸ cfg.subset later)
  · have uioHeld : uioPage ∈ (g.uioMap p).2.2.pages := uioIn
    have cfgHeld : cfgPage ∈ (g.uioMap p).2.2.pages.erase uioPage :=
      Finset.mem_erase.mpr ⟨cfgUio, uio.subset cfgIn⟩
    have dataHeld : dataPage ∈ ((g.uioMap p).2.2.pages.erase uioPage).erase cfgPage :=
      Finset.mem_erase.mpr ⟨dataCfg, Finset.mem_erase.mpr ⟨dataUio, uio.subset (cfg.subset dataIn)⟩⟩
    rw [ends, Finset.card_erase_of_mem dataHeld, Finset.card_erase_of_mem cfgHeld,
      Finset.card_erase_of_mem uioHeld, uio.card, cfg.card, data.card, leak]
    omega

end Attempt

namespace Life

variable {l : Life} {s t : System}

/-- Whatever is called in between, the process ends as if nothing had been. -/
theorem live_process (run : l.live s = .ok () t) :
    t.process.fds = (l.attempt.lifetime s.process).fds ∧
      t.process.pages = (l.attempt.lifetime s.process).pages := by
  unfold live at run
  unfold Attempt.lifetime
  by_cases opens : l.attempt.AllOpen
  · rw [l.attempt.result_opens _ opens] at run ⊢
    have mapped : (l.attempt.driver s.process).zdmaConfig.baseAddress ≠ 0 :=
      MappedDevice.map_nonnull _ _ _ _ _ opens.2.2
    simp only at run ⊢
    cases calls : serve (l.attempt.driver s.process).step l.calls
        { s with dma := .zeroed, process := (l.attempt.uioMap s.process).2.2 } with
    | error e u => simp only [calls, reduceCtorEq] at run
    | ok given u =>
      simp only [calls] at run
      cases run
      have held : u.process.fds = (l.attempt.uioMap s.process).2.2.fds ∧
          u.process.pages = (l.attempt.uioMap s.process).2.2.pages := by
        apply serve_keeps (fun u => u.process.fds = (l.attempt.uioMap s.process).2.2.fds ∧
          u.process.pages = (l.attempt.uioMap s.process).2.2.pages) _ ⟨rfl, rfl⟩ calls
        intro v call a w kept step
        have holds := DmaDriverImpl.step_holds call v mapped
        rw [step] at holds
        exact ⟨holds.1.trans kept.1, holds.2.trans kept.2⟩
      obtain ⟨uioFds, uioPages⟩ := MappedDevice.destroy_congr l.attempt.kernel
        (l.attempt.driver s.process).uioDma held.1 held.2
      obtain ⟨cfgFds, cfgPages⟩ := MappedDevice.destroy_congr l.attempt.kernel
        (l.attempt.driver s.process).cfgBuf uioFds uioPages
      exact MappedDevice.destroy_congr l.attempt.kernel (l.attempt.driver s.process).dataBuf
        cfgFds cfgPages
  · cases result : l.attempt.result s.process with
    | mk d q =>
      have none := l.attempt.result_closed s.process opens
      rw [result] at none run
      simp only at none
      subst none
      cases run
      exact ⟨rfl, rfl⟩

end Life

/-- Over any number of lives, with any failures and calls in them, a process loses no descriptor
    but standard input, and that if one of them does not get as far as the last device file. -/
theorem lives_fds (s t : System) (lives : List Life) (given : List Unit)
    (run : serve Life.live lives s = .ok given t) :
    t.process.fds = if ∀ l ∈ lives, l.attempt.ReachesUio then s.process.fds
      else s.process.fds.erase 0 := by
  induction lives generalizing s given with
  | nil =>
    cases run
    simp
  | cons l lives ih =>
    rw [serve] at run
    obtain ⟨_, u, first, rest⟩ := bind_ok_inv run
    obtain ⟨later, _, others, last⟩ := bind_ok_inv rest
    cases last
    rw [ih u later others, (Life.live_process first).1, l.attempt.lifetime_fds]
    by_cases now : l.attempt.ReachesUio
    · simp only [List.forall_mem_cons, now, ite_true, true_and]
    · simp only [List.forall_mem_cons, now, ite_false, false_and, Finset.erase_idem, ite_self]

/-- Over any number of lives that map their devices, with any calls in them, a process keeps the
    pages it had, and all but the first of each mapping. -/
theorem lives_pages (s t : System) (lives : List Life) (given : List Unit)
    (maps : ∀ l ∈ lives, l.attempt.AllMap) (run : serve Life.live lives s = .ok given t) :
    s.process.pages ⊆ t.process.pages ∧
      t.process.pages.card = s.process.pages.card + (lives.map fun l => l.attempt.leak).sum := by
  induction lives generalizing s given with
  | nil =>
    cases run
    exact ⟨subset_rfl, rfl⟩
  | cons l lives ih =>
    rw [serve] at run
    obtain ⟨_, u, first, rest⟩ := bind_ok_inv run
    obtain ⟨later, _, others, last⟩ := bind_ok_inv rest
    cases last
    obtain ⟨now, after⟩ := List.forall_mem_cons.mp maps
    obtain ⟨kept, count⟩ := l.attempt.lifetime_pages s.process now
    rw [← (Life.live_process first).2] at kept count
    obtain ⟨keptLater, countLater⟩ := ih u later after others
    refine ⟨kept.trans keptLater, ?_⟩
    rw [countLater, count, List.map_cons, List.sum_cons]
    omega

theorem DmaDriverImpl.calls_return (d : DmaDriverImpl) (mapped : d.Mapped) (calls : List Call)
    (complete : ∀ env requests, .configureDMA env requests ∈ calls →
      (Call.configureDMA env requests).Initializes → d.Completes env requests) (s : System) :
    ∃ given t, serve d.step calls s = .ok given t := by
  induction calls generalizing s with
  | nil => exact ⟨[], s, rfl⟩
  | cons call calls ih =>
    obtain ⟨a, u, first⟩ : ∃ a u, d.step call s = .ok a u := by
      by_cases initializes : call.Initializes
      · cases call with
        | configureDMA env requests =>
          obtain ⟨u, run, _⟩ := completes_programs (s := s) mapped
            (complete env requests List.mem_cons_self initializes)
          exact ⟨0, u, run⟩
        | startDMA | checkDMAStatus | hardware => exact absurd initializes id
      · obtain ⟨a, u, run, _⟩ := step_keeps (d := d) s initializes
        exact ⟨a, u, run⟩
    obtain ⟨given, t, rest⟩ :=
      ih (fun env requests member => complete env requests (List.mem_cons_of_mem _ member)) u
    refine ⟨a :: given, t, ?_⟩
    rw [serve, bind_ok _ first, bind_ok _ rest]
    rfl

theorem Life.returns {l : Life} {s : System}
    (calls : ∀ d q, l.attempt.result s.process = (some d, q) →
      ∃ given t, serve d.step l.calls { s with dma := .zeroed, process := q } = .ok given t) :
    ∃ t, l.live s = .ok () t := by
  unfold live
  cases result : l.attempt.result s.process with
  | mk d q =>
    cases d with
    | none => exact ⟨_, rfl⟩
    | some d =>
      obtain ⟨given, t, run⟩ := calls d q result
      simp only [run]
      exact ⟨_, rfl⟩

namespace Attempt

theorem sample_mapped : (Attempt.sample.driver .standard).Mapped where
  uio := (driver_mapped (by decide) (by decide)).1
  cfg := by decide +kernel
  room := by decide +kernel

def transfer : Life where
  attempt := .sample
  calls := [.configureDMA (.ideal .waiting) [⟨0x70000000, 0x70040000, 64⟩], .startDMA,
    .hardware stsDoneMask, .checkDMAStatus (.ideal .waiting)]

theorem transfer_returns : ∃ t, transfer.live .blank = .ok () t := by
  apply Life.returns
  intro d q result
  have driver := sample.result_opens .standard (by decide)
  rw [show transfer.attempt.result System.blank.process = _ from driver] at result
  cases result
  apply DmaDriverImpl.calls_return _ sample_mapped
  intro env requests member _
  obtain ⟨rfl, rfl⟩ : env = .ideal .waiting ∧ requests = [⟨0x70000000, 0x70040000, 64⟩] := by
    simpa [transfer] using member
  exact ⟨by decide, by decide, .of_faithful fun _ => rfl, .of_faithful fun _ => rfl,
    .of_nonzero (by decide) (by decide)⟩

end Attempt

def Attempt.withoutUio : Attempt :=
  { Attempt.sample with uioOutcome := ⟨none, none, false, false⟩ }

def Attempt.refused (g : Attempt) : Life where
  attempt := g
  calls := [.configureDMA (.ideal .waiting) (List.replicate 33 ⟨0x70000000, 0x70040000, 64⟩)]

theorem transfer_and_refused (g : Attempt) :
    ∃ t, serve Life.live ([Attempt.transfer] ++ [g.refused]) .blank = .ok [(), ()] t := by
  obtain ⟨u, first⟩ := Attempt.transfer_returns
  obtain ⟨t, second⟩ : ∃ t, g.refused.live u = .ok () t := by
    apply Life.returns
    intro d q _
    exact ⟨_, _, bind_ok _ (d.configureDMA_tooMany _ _ _ (by decide))⟩
  have one : serve Life.live [Attempt.transfer] .blank = .ok [()] u := bind_ok _ first
  exact ⟨t, serve_append one (bind_ok _ second)⟩

/-- A life with a transfer, and another one where the uio device cannot be read. -/
theorem lives_fds_sample :
    ∃ t, serve Life.live ([Attempt.transfer] ++ [Attempt.withoutUio.refused]) .blank =
        .ok [(), ()] t ∧
      t.process.fds = {1, 2} := by
  obtain ⟨t, run⟩ := transfer_and_refused .withoutUio
  exact ⟨t, run, (lives_fds .blank t _ _ run).trans (by decide)⟩

/-- A life with a transfer, and another one of the same devices, with 128 pages of data. -/
theorem lives_pages_sample :
    ∃ t, serve Life.live ([Attempt.transfer] ++ [Attempt.sample.refused]) .blank =
        .ok [(), ()] t ∧
      t.process.pages.card = 254 := by
  obtain ⟨t, run⟩ := transfer_and_refused .sample
  exact ⟨t, run, (lives_pages .blank t _ _ (by decide) run).2.trans (by decide)⟩

end ZynqmpDma
