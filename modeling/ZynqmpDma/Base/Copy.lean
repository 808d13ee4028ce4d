import Mathlib.Data.BitVec
import Mathlib.Data.List.Induction
import Mathlib.Data.List.Pairwise
import Mathlib.Data.List.Perm.Basic
import Mathlib.Data.Set.Function
import ZynqmpDma.Base.Blocks

namespace ZynqmpDma.Base

structure Move (w : ℕ) where
  src : BitVec w
  dst : BitVec w
  length : ℕ
deriving DecidableEq, Repr

namespace Move

variable {w : ℕ} {β : Type} (v : Move w) (mem : BitVec w → β)

def source : Set (BitVec w) := block v.src v.length

def target : Set (BitVec w) := block v.dst v.length

/-- The memory after the move: every value is read before any is written. -/
def apply : BitVec w → β := fun x =>
  if (x - v.dst).toNat < v.length then mem (v.src + (x - v.dst)) else mem x

variable {v mem} {x : BitVec w}

theorem apply_of_mem (member : x ∈ v.target) : v.apply mem x = mem (v.src + (x - v.dst)) :=
  if_pos member

theorem apply_of_not_mem (other : x ∉ v.target) : v.apply mem x = mem x := if_neg other

theorem source_of_target (member : x ∈ v.target) : v.src + (x - v.dst) ∈ v.source := by
  show (v.src + (x - v.dst) - v.src).toNat < v.length
  rw [BitVec.add_comm, BitVec.add_sub_cancel]
  exact member

theorem apply_congr {mem' : BitVec w → β} {known : Set (BitVec w)} (same : Set.EqOn mem mem' known)
    (inside : v.source ⊆ known) : Set.EqOn (v.apply mem) (v.apply mem') known := by
  intro x member
  by_cases hit : x ∈ v.target
  · rw [apply_of_mem hit, apply_of_mem hit]
    exact same (inside (source_of_target hit))
  · rw [apply_of_not_mem hit, apply_of_not_mem hit]
    exact same member

structure Independent (v v' : Move w) : Prop where
  targets : Disjoint v.target v'.target
  source : Disjoint v.target v'.source
  source' : Disjoint v'.target v.source

theorem Independent.symm {v v' : Move w} (apart : Independent v v') : Independent v' v :=
  ⟨apart.targets.symm, apart.source', apart.source⟩

theorem Independent.comm {v v' : Move w} (apart : Independent v v') (mem : BitVec w → β) :
    v.apply (v'.apply mem) = v'.apply (v.apply mem) := by
  funext x
  by_cases hit : x ∈ v.target
  · have miss : x ∉ v'.target := Set.disjoint_left.mp apart.targets hit
    have kept : v.src + (x - v.dst) ∉ v'.target :=
      Set.disjoint_right.mp apart.source' (source_of_target hit)
    rw [apply_of_mem hit, apply_of_not_mem kept, apply_of_not_mem miss, apply_of_mem hit]
  · by_cases hit' : x ∈ v'.target
    · have kept : v'.src + (x - v'.dst) ∉ v.target :=
        Set.disjoint_right.mp apart.source (source_of_target hit')
      rw [apply_of_not_mem hit, apply_of_mem hit', apply_of_mem hit', apply_of_not_mem kept]
    · rw [apply_of_not_mem hit, apply_of_not_mem hit', apply_of_not_mem hit',
        apply_of_not_mem hit]

end Move

section MoveAll

variable {w : ℕ} {β : Type}

def moveAll (moves : List (Move w)) (mem : BitVec w → β) : BitVec w → β :=
  moves.foldl (fun mem v => v.apply mem) mem

variable {moves moves' : List (Move w)} {mem mem' : BitVec w → β}

theorem moveAll_append :
    moveAll (moves ++ moves') mem = moveAll moves' (moveAll moves mem) := by
  rw [moveAll, List.foldl_append]
  rfl

instance : Std.Symm (Move.Independent (w := w)) := ⟨fun _ _ => Move.Independent.symm⟩

theorem moveAll_perm (perm : moves.Perm moves') (apart : moves.Pairwise Move.Independent) :
    moveAll moves mem = moveAll moves' mem := by
  apply perm.foldl_eq'
  intro v member v' member' mem
  by_cases same : v = v'
  · rw [same]
  · have independent := apart.forall member member' same
    exact (independent.comm mem).symm

end MoveAll

section Cut

variable {w : ℕ} {β : Type}

section Pieces

variable {src dst : BitVec w} {lengths : List ℕ} {n : ℕ}

end Pieces

end Cut

end ZynqmpDma.Base
