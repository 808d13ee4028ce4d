import Mathlib.Data.List.Range

namespace ZynqmpDma.Base

variable {κ δ : Type}

/-- Follow a chain of records from a key: fetch the record, stop after the first one that
    is marked last, otherwise go on at the key it leads to. -/
def follow (fetch : κ → Option δ) (isLast : δ → Bool) (next : κ → δ → κ) :
    ℕ → κ → Option (List (κ × δ))
  | 0, _ => none
  | fuel + 1, key =>
    match fetch key with
    | none => none
    | some record =>
      if isLast record then some [(key, record)]
      else (follow fetch isLast next fuel (next key record)).map ((key, record) :: ·)

section Follow

variable {fetch : κ → Option δ} {isLast : δ → Bool} {next : κ → δ → κ}

theorem follow_last {fuel : ℕ} {key : κ} {record : δ} (fetched : fetch key = some record)
    (last : isLast record = true) :
    follow fetch isLast next (fuel + 1) key = some [(key, record)] := by
  simp only [follow, fetched, last, ite_true]

theorem follow_next {fuel : ℕ} {key : κ} {record : δ} (fetched : fetch key = some record)
    (more : isLast record = false) :
    follow fetch isLast next (fuel + 1) key =
      (follow fetch isLast next fuel (next key record)).map ((key, record) :: ·) := by
  simp only [follow, fetched, more, Bool.false_eq_true, ite_false]

theorem follow_cases {fuel : ℕ} {key : κ} {visited : List (κ × δ)}
    (done : follow fetch isLast next fuel key = some visited) :
    ∃ record rest, fetch key = some record ∧ visited = (key, record) :: rest ∧
      ((isLast record = true ∧ rest = []) ∨ (isLast record = false ∧
        ∃ fuel', follow fetch isLast next fuel' (next key record) = some rest)) := by
  cases fuel with
  | zero => simp only [follow, reduceCtorEq] at done
  | succ fuel =>
    cases fetched : fetch key with
    | none => simp only [follow, fetched, reduceCtorEq] at done
    | some record =>
      cases last : isLast record with
      | true =>
        rw [follow_last fetched last] at done
        cases done
        exact ⟨record, [], rfl, rfl, .inl ⟨last, rfl⟩⟩
      | false =>
        rw [follow_next fetched last] at done
        obtain ⟨rest, walked, rfl⟩ := Option.map_eq_some_iff.mp done
        exact ⟨record, rest, rfl, rfl, .inr ⟨last, fuel, walked⟩⟩

theorem follow_fetched {fuel : ℕ} {key : κ} {visited : List (κ × δ)}
    (done : follow fetch isLast next fuel key = some visited) :
    ∀ entry ∈ visited, fetch entry.1 = some entry.2 := by
  induction fuel generalizing key visited with
  | zero => simp only [follow, reduceCtorEq] at done
  | succ fuel ih =>
    cases fetched : fetch key with
    | none => simp only [follow, fetched, reduceCtorEq] at done
    | some record =>
      cases last : isLast record with
      | true =>
        rw [follow_last fetched last] at done
        cases done
        intro entry member
        rw [List.mem_singleton.mp member]
        exact fetched
      | false =>
        rw [follow_next fetched last] at done
        obtain ⟨rest, walked, rfl⟩ := Option.map_eq_some_iff.mp done
        intro entry member
        rcases List.mem_cons.mp member with rfl | member
        · exact fetched
        · exact ih walked entry member

/-- The walk depends on what is fetched at the keys it comes to, and on nothing else. -/
theorem follow_congr {fetch' : κ → Option δ} {fuel : ℕ} {key : κ} {visited : List (κ × δ)}
    (done : follow fetch isLast next fuel key = some visited)
    (same : ∀ entry ∈ visited, fetch' entry.1 = fetch entry.1) :
    follow fetch' isLast next fuel key = some visited := by
  induction fuel generalizing key visited with
  | zero => simp only [follow, reduceCtorEq] at done
  | succ fuel ih =>
    cases fetched : fetch key with
    | none => simp only [follow, fetched, reduceCtorEq] at done
    | some record =>
      cases last : isLast record with
      | true =>
        rw [follow_last fetched last] at done
        cases done
        have fetched' := (same (key, record) List.mem_cons_self).trans fetched
        exact follow_last fetched' last
      | false =>
        rw [follow_next fetched last] at done
        obtain ⟨rest, walked, rfl⟩ := Option.map_eq_some_iff.mp done
        have fetched' := (same (key, record) List.mem_cons_self).trans fetched
        have further := ih walked fun entry member => same entry (List.mem_cons_of_mem _ member)
        rw [follow_next fetched' last, further, Option.map_some]

theorem follow_table (keys : ℕ → κ) (records : ℕ → δ) {n i fuel : ℕ} (start : i < n)
    (fetched : ∀ j < n, fetch (keys j) = some (records j))
    (linked : ∀ j, j + 1 < n → next (keys j) (records j) = keys (j + 1))
    (marked : ∀ j < n, isLast (records j) = decide (j + 1 = n)) (enough : n ≤ i + fuel) :
    follow fetch isLast next fuel (keys i) =
      some ((List.range' i (n - i)).map fun j => (keys j, records j)) := by
  induction fuel generalizing i with
  | zero => omega
  | succ fuel ih =>
    have mark := marked i start
    by_cases last : i + 1 = n
    · have one : n - i = 1 := by omega
      rw [follow_last (fetched i start) (by simpa only [last, decide_true] using mark), one]
      rfl
    · rw [follow_next (fetched i start) (by simpa only [last, decide_false] using mark),
        linked i (by omega), ih (by omega) (by omega)]
      have more : n - i = n - (i + 1) + 1 := by omega
      rw [more, List.range'_succ]
      rfl

end Follow

end ZynqmpDma.Base
