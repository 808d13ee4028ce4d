import Mathlib.Data.Finset.Basic
import Mathlib.Data.Finset.Lattice.Fold
import Mathlib.Order.Interval.Finset.Nat
import Mathlib.Order.Lattice.Nat

namespace ZynqmpDma

inductive Syscall
  | opened (path : String) (fd : ℕ)
  | openFailed (path : String)
  | closed (fd : ℤ)
  | mapped (page count : ℕ)
  | mmapFailed (length : ℕ)
  | unmapped (addr length : ℕ)
deriving DecidableEq, Repr

structure Process where
  fds : Finset ℕ
  pages : Finset ℕ
  calls : List Syscall

def Process.standard : Process := ⟨{0, 1, 2}, ∅, []⟩

/-- What the operating system chooses: descriptor numbers not in use, and runs of pages
    that are not mapped and do not start at the null address. -/
structure Kernel where
  pageSize : ℕ
  pageSize_pos : 0 < pageSize
  freshFd : Process → ℕ
  freshFd_unused : ∀ p, freshFd p ∉ p.fds
  freshPage : Process → ℕ → ℕ
  freshPage_unused : ∀ p count,
    Disjoint (Finset.Ico (freshPage p count) (freshPage p count + count)) p.pages
  freshPage_nonnull : ∀ p count, BitVec.ofNat 64 (pageSize * freshPage p count) ≠ 0

def Kernel.aboveAll : Kernel where
  pageSize := 4096
  pageSize_pos := by decide
  freshFd p := p.fds.sup id + 1
  freshFd_unused p := by
    intro used
    have bound := Finset.le_sup (f := id) used
    simp only [id_eq] at bound
    omega
  freshPage p _ :=
    let page := p.pages.sup id + 1
    if BitVec.ofNat 64 (4096 * page) = 0 then page + 1 else page
  freshPage_unused p count := by
    rw [Finset.disjoint_left]
    intro page fresh used
    have bound := Finset.le_sup (f := id) used
    simp only [id_eq, Finset.mem_Ico] at bound fresh
    split at fresh <;> omega
  freshPage_nonnull p _ := by
    dsimp only
    split
    · bv_omega
    · assumption

def Kernel.pagesFor (k : Kernel) (length : ℕ) : ℕ := (length + k.pageSize - 1) / k.pageSize

def mapFailed : ℕ := 2 ^ 64 - 1

namespace Process

variable (k : Kernel) (p : Process)

def unrecorded : Process := { p with calls := [] }

def openFd (path : String) : Process :=
  { p with
    fds := insert (k.freshFd p) p.fds
    calls := .opened path (k.freshFd p) :: p.calls }

def openFails (path : String) : Process :=
  { p with calls := .openFailed path :: p.calls }

/-- `close`; on a number that is not an open descriptor it only fails. -/
def close (fd : ℤ) : Process :=
  { p with
    fds := p.fds.filter fun n => (n : ℤ) ≠ fd
    calls := .closed fd :: p.calls }

def mmap (length : ℕ) : Process :=
  let count := k.pagesFor length
  let page := k.freshPage p count
  { p with
    pages := Finset.Ico page (page + count) ∪ p.pages
    calls := .mapped page count :: p.calls }

def mmapAddr (length : ℕ) : ℕ := k.pageSize * k.freshPage p (k.pagesFor length)

def mmapFails (length : ℕ) : Process :=
  { p with calls := .mmapFailed length :: p.calls }

/-- `munmap`, which removes every page that `[addr, addr + length)` touches. -/
def munmap (addr length : ℕ) : Process :=
  { p with
    pages := p.pages.filter fun n =>
      ¬ (k.pageSize * n < addr + length ∧ addr < k.pageSize * (n + 1))
    calls := .unmapped addr length :: p.calls }

def LiveMapping (addr length : ℕ) : Prop :=
  ∃ page, addr = k.pageSize * page ∧ Finset.Ico page (page + k.pagesFor length) ⊆ p.pages

end Process

end ZynqmpDma
