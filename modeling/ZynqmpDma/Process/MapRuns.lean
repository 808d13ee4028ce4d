import ZynqmpDma.Process.Ledger
import ZynqmpDma.Process.Mapping

namespace ZynqmpDma

namespace MapOutcome

variable (c : DeviceClass) (o : MapOutcome)

def SysfsOpens : Prop := o.sizeAttr.isSome ∧ o.addrAttr.isSome

def Opens : Prop := o.SysfsOpens ∧ o.devOpens = true

def sizeRead : BitVec 32 :=
  match o.sizeAttr with
  | some attr => c.scanSize attr.buffer 0
  | none => 0

def Mmaps : Prop := o.mmaps = true ∧ o.sizeRead c ≠ 0

/-- What is opened is mapped or given back: `map` comes to the device file, and the `mmap`
    succeeds if that opens. -/
def Clean : Prop := o.SysfsOpens ∧ (o.devOpens = true → o.Mmaps c)

def Maps : Prop := o.Opens ∧ o.Mmaps c

def MapsOnePage (k : Kernel) : Prop := o.Maps c ∧ (o.sizeRead c).toNat ≤ k.pageSize

instance : Decidable o.SysfsOpens := inferInstanceAs (Decidable (_ ∧ _))

instance : Decidable o.Opens := inferInstanceAs (Decidable (_ ∧ _))

instance : Decidable (o.Mmaps c) := inferInstanceAs (Decidable (_ ∧ _))

instance : Decidable (o.Maps c) := inferInstanceAs (Decidable (_ ∧ _))

instance (k : Kernel) : Decidable (o.MapsOnePage c k) := inferInstanceAs (Decidable (_ ∧ _))

variable {c o} in
theorem Maps.size_ne_zero (maps : o.Maps c) : (o.sizeRead c).toNat ≠ 0 := by
  intro zero
  exact maps.2.2 (BitVec.eq_of_toNat_eq zero)

end MapOutcome

namespace MappedDevice

section Attributes

variable (k : Kernel) (path : String) (p : Process)

@[simp] theorem readAttr_fds : (readAttr k path p).fds = p.fds :=
  Process.close_fresh k p rfl

@[simp] theorem readAttr_pages : (readAttr k path p).pages = p.pages := rfl

theorem readAttr_owned {held : List ℕ} (owns : owned p.calls = some held) :
    owned (readAttr k path p).calls = some held := by
  apply owned_closed
  rw [Process.openFd, owned, owns, Option.map_some]

@[simp] theorem readAttr_surplus : surplus (readAttr k path p).calls = surplus p.calls := by
  have nonnegative : ¬ (k.freshFd p : ℤ) < 0 := by omega
  simp only [readAttr, Process.close, Process.openFd, surplus_cons, Syscall.surplus, nonnegative,
    ite_false]
  omega

end Attributes

variable (c : DeviceClass) (k : Kernel) (o : MapOutcome) (device : String) (self : MappedDevice)
  (p : Process)

/-- `map` reports success exactly when all three files open, whatever became of the `mmap`. -/
theorem map_status : (self.map c k o device p).1 = 0 ↔ o.Opens := by
  simp only [MapOutcome.Opens, MapOutcome.SysfsOpens]
  cases size : o.sizeAttr with
  | none => simp [map, size]
  | some sizeAttr =>
    cases addr : o.addrAttr with
    | none => simp [map, size, addr]
    | some addrAttr =>
      cases dev : o.devOpens with
      | false => simp [map, size, addr, mapBuffer, dev]
      | true =>
        simp only [map, size, addr, mapBuffer, dev, ite_true]
        split <;> simp

theorem map_fields {sizeAttr addrAttr : Attr} (size : o.sizeAttr = some sizeAttr)
    (addr : o.addrAttr = some addrAttr) :
    (self.map c k o device p).2.1.size = c.scanSize sizeAttr.buffer self.size ∧
      (self.map c k o device p).2.1.physAddr = scanX addrAttr.buffer self.physAddr := by
  simp only [map, size, addr, mapBuffer]
  split
  · split <;> exact ⟨rfl, rfl⟩
  · exact ⟨rfl, rfl⟩

def debt : ℤ := if self.fd < 0 then 0 else 1

theorem debt_default : debt {} = 1 := rfl

theorem destroy_surplus : surplus (self.destroy k p).calls = surplus p.calls - self.debt := by
  simp only [destroy, Process.close, Process.munmap, surplus_cons, Syscall.surplus, debt]
  split <;> omega

theorem destroy_subset : (self.destroy k p).pages ⊆ p.pages := Finset.filter_subset _ _

structure Acquired (k : Kernel) (holder : MappedDevice) (fd page count : ℕ)
    (before after : Process) : Prop where
  file : holder.fd = fd
  fresh : fd ∉ before.fds
  fds : after.fds = insert fd before.fds
  owns : ∀ held, owned before.calls = some held → owned after.calls = some (fd :: held)
  buf : holder.buf = k.pageSize * page
  nonnull : BitVec.ofNat 64 holder.buf ≠ 0
  unused : Disjoint (Finset.Ico page (page + count)) before.pages
  pages : after.pages = Finset.Ico page (page + count) ∪ before.pages

theorem map_acquires (maps : o.Maps c) :
    ∃ fd page, Acquired k (({} : MappedDevice).map c k o device p).2.1 fd page
        (k.pagesFor (o.sizeRead c).toNat) p (({} : MappedDevice).map c k o device p).2.2 ∧
      (({} : MappedDevice).map c k o device p).2.1.size = o.sizeRead c := by
  rcases maps with ⟨⟨⟨sizeOpens, addrOpens⟩, dev⟩, mmaps⟩
  obtain ⟨sizeAttr, size⟩ := Option.isSome_iff_exists.mp sizeOpens
  obtain ⟨addrAttr, addr⟩ := Option.isSome_iff_exists.mp addrOpens
  have read : o.sizeRead c = c.scanSize sizeAttr.buffer 0 := by rw [MapOutcome.sizeRead, size]
  rw [MapOutcome.Mmaps, read] at mmaps
  simp only [map, size, addr, mapBuffer, dev, mmaps, read, ne_eq, not_false_eq_true, and_self,
    ite_true, and_true]
  let q := readAttr k (c.sysDir ++ device ++ c.addrFile)
    (readAttr k (c.sysDir ++ device ++ c.sizeFile) p)
  have fds : q.fds = p.fds := by simp only [q, readAttr_fds]
  have fresh : k.freshFd q ∉ p.fds := by
    rw [← fds]
    exact k.freshFd_unused q
  have owns (held : List ℕ) (before : owned p.calls = some held) :
      (owned q.calls).map (k.freshFd q :: ·) = some (k.freshFd q :: held) := by
    have kept : owned q.calls = some held :=
      readAttr_owned k _ _ (readAttr_owned k _ _ before)
    rw [kept, Option.map_some]
  have unused := (q.openFd k ("/dev/" ++ device)).mmap_disjoint k
    (c.scanSize sizeAttr.buffer 0).toNat
  refine ⟨k.freshFd q, k.freshPage (q.openFd k ("/dev/" ++ device)) _,
    rfl, fresh, ?_, owns, rfl, k.freshPage_nonnull _ _, unused, rfl⟩
  rw [← fds]
  rfl

theorem map_noDevice (opens : o.SysfsOpens) (dev : o.devOpens = false) :
    (({} : MappedDevice).map c k o device p).2.1.fd = -1 ∧
      (({} : MappedDevice).map c k o device p).2.1.buf = 0 ∧
      (({} : MappedDevice).map c k o device p).2.2.fds = p.fds ∧
      (({} : MappedDevice).map c k o device p).2.2.pages = p.pages ∧
      ∀ held, owned p.calls = some held →
        owned (({} : MappedDevice).map c k o device p).2.2.calls = some held := by
  obtain ⟨sizeAttr, size⟩ := Option.isSome_iff_exists.mp opens.1
  obtain ⟨addrAttr, addr⟩ := Option.isSome_iff_exists.mp opens.2
  simp only [map, size, addr, mapBuffer, dev, Bool.false_eq_true, ite_false, Process.openFails,
    readAttr_fds, readAttr_pages, true_and]
  intro held owns
  exact readAttr_owned k _ _ (readAttr_owned k _ _ owns)

theorem map_surplus :
    surplus (({} : MappedDevice).map c k o device p).2.2.calls =
        surplus p.calls + (({} : MappedDevice).map c k o device p).2.1.debt ∧ o.Clean c ∨
      surplus (({} : MappedDevice).map c k o device p).2.2.calls =
        surplus p.calls + (({} : MappedDevice).map c k o device p).2.1.debt - 1 := by
  have nonnegative (fd : ℕ) : ¬ (fd : ℤ) < 0 := by omega
  cases size : o.sizeAttr with
  | none =>
    right
    simp [map, size, Process.openFails, surplus_cons, Syscall.surplus, debt]
  | some sizeAttr =>
    cases addr : o.addrAttr with
    | none =>
      right
      simp [map, size, addr, Process.openFails, surplus_cons, Syscall.surplus, debt]
    | some addrAttr =>
      have opens : o.SysfsOpens := by simp [MapOutcome.SysfsOpens, size, addr]
      have read : o.sizeRead c = c.scanSize sizeAttr.buffer 0 := by rw [MapOutcome.sizeRead, size]
      cases dev : o.devOpens with
      | false =>
        left
        refine ⟨?_, opens, by simp [dev]⟩
        simp [map, size, addr, mapBuffer, dev, Process.openFails, surplus_cons, Syscall.surplus,
          debt]
      | true =>
        simp only [map, size, addr, mapBuffer, dev, ite_true]
        by_cases room : o.mmaps = true ∧ c.scanSize sizeAttr.buffer 0 ≠ 0
        · left
          refine ⟨?_, opens, fun _ => by rw [MapOutcome.Mmaps, read]; exact room⟩
          simp only [room, Process.mmap, Process.openFd, surplus_cons, Syscall.surplus,
            readAttr_surplus, debt, nonnegative, ne_eq, not_false_eq_true, and_self, ite_true,
            ite_false]
          omega
        · right
          rw [if_neg room]
          simp only [Process.mmapFails, Process.close, Process.openFd, surplus_cons,
            Syscall.surplus, readAttr_surplus, debt, nonnegative, ite_false]
          omega

theorem Acquired.destroy {k : Kernel} {self : MappedDevice} {fd page : ℕ}
    {before after q : Process} (acquired : Acquired k self fd page 1 before after)
    (fds : q.fds = after.fds) (pages : q.pages = after.pages) :
    (self.destroy k q).fds = before.fds ∧ (self.destroy k q).pages = before.pages ∧
      ∀ held, owned q.calls = some (fd :: held) →
        owned (self.destroy k q).calls = some held := by
  have unused := acquired.unused
  rw [Nat.Ico_succ_singleton, Finset.disjoint_singleton_left] at unused
  rw [MappedDevice.destroy, acquired.file, acquired.buf]
  have closed : (q.fds.erase fd) = before.fds := by
    rw [fds, acquired.fds, Finset.erase_insert acquired.fresh]
  have unmapped : (q.munmap k (k.pageSize * page) k.pageSize).pages = before.pages := by
    rw [Process.munmap_page, pages, acquired.pages, Nat.Ico_succ_singleton, ← Finset.insert_eq,
      Finset.erase_insert unused]
  rw [Process.close_fds]
  exact ⟨closed, unmapped, fun held owns => owned_closed owns⟩

theorem destroy_nothing {k : Kernel} {self : MappedDevice} {q : Process} (file : self.fd = -1)
    (buf : self.buf = 0) :
    (self.destroy k q).fds = q.fds ∧ (self.destroy k q).pages = q.pages.erase 0 ∧
      owned (self.destroy k q).calls = owned q.calls := by
  rw [destroy, file, buf]
  refine ⟨?_, ?_, ?_⟩
  · apply Finset.filter_true_of_mem
    intro n _
    omega
  · exact q.munmap_page k 0
  · simp only [Process.close, Process.munmap, owned]
    cases owned q.calls <;> rfl

theorem Acquired.destroy_card {k : Kernel} {self : MappedDevice} {fd page count : ℕ}
    {before after : Process} (acquired : Acquired k self fd page count before after)
    (q : Process) : q.pages.card ≤ (self.destroy k q).pages.card + 1 := by
  rw [MappedDevice.destroy, acquired.buf]
  change _ ≤ (q.munmap k (k.pageSize * page) k.pageSize).pages.card + 1
  rw [Process.munmap_page]
  have removed := Finset.pred_card_le_card_erase (s := q.pages) (a := page)
  omega

theorem Acquired.card {k : Kernel} {self : MappedDevice} {fd page count : ℕ}
    {before after : Process} (acquired : Acquired k self fd page count before after) :
    after.pages.card = before.pages.card + count := by
  rw [acquired.pages, Finset.card_union_of_disjoint acquired.unused, Nat.card_Ico]
  omega

theorem Acquired.zero_notMem {k : Kernel} {self : MappedDevice} {fd page count : ℕ}
    {before after : Process} (acquired : Acquired k self fd page count before after)
    (unmapped : 0 ∉ before.pages) : 0 ∉ after.pages := by
  have nonnull := acquired.nonnull
  rw [acquired.pages, Finset.mem_union, Finset.mem_Ico]
  rintro (⟨low, _⟩ | mapped)
  · rw [acquired.buf, Nat.le_zero.mp low, Nat.mul_zero] at nonnull
    exact nonnull rfl
  · exact unmapped mapped

end MappedDevice

end ZynqmpDma
