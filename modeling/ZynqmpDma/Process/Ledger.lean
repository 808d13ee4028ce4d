import Mathlib.Algebra.BigOperators.Group.List.Basic
import Mathlib.Algebra.Order.Ring.Int
import Mathlib.Data.Finset.Card
import ZynqmpDma.Process.Kernel

namespace ZynqmpDma

/-- The descriptors that these calls, newest first, opened and did not close since. There is
    no answer when one of them closed a descriptor that was not open through them. -/
def owned : List Syscall → Option (List ℕ)
  | [] => some []
  | .opened _ fd :: earlier => (owned earlier).map (fd :: ·)
  | .closed fd :: earlier =>
    match owned earlier with
    | none => none
    | some held =>
      -- a negative number is no descriptor: `close` fails
      if fd < 0 then some held
      else if fd.toNat ∈ held then some (held.erase fd.toNat)
      else none
  | _ :: earlier => owned earlier

def Syscall.surplus : Syscall → ℤ
  | .opened _ _ => 1
  | .closed fd => if fd < 0 then 0 else -1
  | _ => 0

def surplus (calls : List Syscall) : ℤ := (calls.map Syscall.surplus).sum

theorem surplus_cons (call : Syscall) (calls : List Syscall) :
    surplus (call :: calls) = call.surplus + surplus calls := by
  simp only [surplus, List.map_cons, List.sum_cons]

theorem owned_surplus {calls : List Syscall} {held : List ℕ} (owns : owned calls = some held) :
    surplus calls = held.length := by
  induction calls generalizing held with
  | nil =>
    cases owns
    rfl
  | cons call calls ih =>
    rw [surplus_cons]
    cases call with
    | opened path fd =>
      obtain ⟨before, past, rfl⟩ := Option.map_eq_some_iff.mp owns
      rw [ih past, Syscall.surplus, List.length_cons]
      omega
    | closed fd =>
      rw [owned] at owns
      cases past : owned calls with
      | none => simp only [past, reduceCtorEq] at owns
      | some before =>
        simp only [past] at owns
        rw [ih past, Syscall.surplus]
        by_cases negative : fd < 0
        · rw [if_pos negative] at owns ⊢
          cases owns
          omega
        · rw [if_neg negative] at owns ⊢
          by_cases member : fd.toNat ∈ before
          · rw [if_pos member] at owns
            cases owns
            have positive := List.length_pos_of_mem member
            rw [List.length_erase_of_mem member]
            omega
          · rw [if_neg member] at owns
            cases owns
    | openFailed path => exact (zero_add _).trans (ih owns)
    | mapped page count => exact (zero_add _).trans (ih owns)
    | mmapFailed length => exact (zero_add _).trans (ih owns)
    | unmapped addr length => exact (zero_add _).trans (ih owns)

theorem owned_closed {calls : List Syscall} {fd : ℕ} {held : List ℕ}
    (owns : owned calls = some (fd :: held)) : owned (.closed fd :: calls) = some held := by
  have nonnegative : ¬ (fd : ℤ) < 0 := by omega
  have first : (fd : ℤ).toNat = fd := rfl
  rw [owned, owns]
  simp only [nonnegative, ite_false, first, List.mem_cons_self, ite_true, List.erase_cons_head]

namespace Kernel

variable (k : Kernel)

theorem pagesFor_pos {length : ℕ} (nonempty : length ≠ 0) : 1 ≤ k.pagesFor length := by
  have positive := k.pageSize_pos
  rw [pagesFor, Nat.one_le_div_iff positive]
  omega

theorem pagesFor_eq_one {length : ℕ} (nonempty : length ≠ 0) :
    k.pagesFor length = 1 ↔ length ≤ k.pageSize := by
  have positive := k.pageSize_pos
  rw [pagesFor, Nat.div_eq_iff positive]
  omega

end Kernel

namespace Process

variable (k : Kernel) (p : Process)

theorem close_fds (fd : ℕ) : (p.close fd).fds = p.fds.erase fd := by
  ext n
  simp only [close, ne_eq, Nat.cast_inj, Finset.mem_filter, Finset.mem_erase, and_comm]

theorem close_fresh {q : Process} (opened : q.fds = insert (k.freshFd p) p.fds) :
    (q.close (k.freshFd p)).fds = p.fds := by
  rw [close_fds, opened, Finset.erase_insert (k.freshFd_unused p)]

theorem munmap_page (page : ℕ) :
    (p.munmap k (k.pageSize * page) k.pageSize).pages = p.pages.erase page := by
  have positive := k.pageSize_pos
  have touched (n : ℕ) : (k.pageSize * n < k.pageSize * page + k.pageSize ∧
      k.pageSize * page < k.pageSize * (n + 1)) ↔ n = page := by
    rw [← Nat.mul_succ, Nat.mul_lt_mul_left positive, Nat.mul_lt_mul_left positive]
    omega
  ext n
  simp only [munmap, touched, Finset.mem_filter, Finset.mem_erase, and_comm]

theorem mmap_disjoint (length : ℕ) :
    Disjoint (Finset.Ico (k.freshPage p (k.pagesFor length))
      (k.freshPage p (k.pagesFor length) + k.pagesFor length)) p.pages :=
  k.freshPage_unused p _

theorem munmap_fresh {q : Process} {length : ℕ} (one : k.pagesFor length = 1)
    (mapped : q.pages = (p.mmap k length).pages) :
    (q.munmap k (p.mmapAddr k length) k.pageSize).pages = p.pages := by
  have unused := p.mmap_disjoint k length
  rw [one, Nat.Ico_succ_singleton, Finset.disjoint_singleton_left] at unused
  rw [mmapAddr, munmap_page, mapped, mmap, one, Nat.Ico_succ_singleton, ← Finset.insert_eq,
    Finset.erase_insert unused]

end Process

end ZynqmpDma
