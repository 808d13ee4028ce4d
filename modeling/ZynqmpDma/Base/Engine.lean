import ZynqmpDma.Base.Chain

namespace ZynqmpDma.Base

variable {κ δ : Type}

inductive Command
  | next | pause | stop
deriving DecidableEq, Repr

inductive Phase (κ : Type)
  | running (key : κ)
  | paused (key : κ)
  | stopped
  | faulted
deriving DecidableEq, Repr

inductive Action
  | fetch | resume
deriving DecidableEq, Repr

structure Engine (κ δ : Type) where
  phase : Phase κ
  visited : List (κ × δ)

namespace Engine

def start (key : κ) : Engine κ δ := ⟨.running key, []⟩

variable (fetch : κ → Option δ) (command : δ → Command) (next : κ → δ → κ)

def phaseAfter (key : κ) (record : δ) : Phase κ :=
  match command record with
  | .next => .running (next key record)
  | .pause => .paused (next key record)
  | .stop => .stopped

def step (e : Engine κ δ) : Action → Engine κ δ
  | .fetch =>
    match e.phase with
    | .running key =>
      match fetch key with
      | some record => ⟨phaseAfter command next key record, e.visited ++ [(key, record)]⟩
      | none => { e with phase := .faulted }
    | _ => e
  | .resume =>
    match e.phase with
    | .paused key => { e with phase := .running key }
    | _ => e

def run (e : Engine κ δ) (actions : List Action) : Engine κ δ :=
  actions.foldl (step fetch command next) e

def rounds (n : ℕ) : List Action := (List.replicate n [.resume, .fetch]).flatten

inductive Ahead : Phase κ → List (κ × δ) → Prop
  | stopped : Ahead .stopped []
  | running {key : κ} {fuel : ℕ} {rest : List (κ × δ)}
    (walk : follow fetch (fun record => command record = .stop) next fuel key = some rest) :
    Ahead (.running key) rest
  | paused {key : κ} {fuel : ℕ} {rest : List (κ × δ)}
    (walk : follow fetch (fun record => command record = .stop) next fuel key = some rest) :
    Ahead (.paused key) rest

variable {fetch command next} {e : Engine κ δ} {rest : List (κ × δ)}

theorem rounds_succ (n : ℕ) :
    e.run fetch command next (rounds (n + 1)) =
      ((e.run fetch command next (rounds n)).step fetch command next .resume).step fetch command
        next .fetch := by
  rw [run, rounds, List.replicate_succ', List.flatten_append, List.foldl_append]
  rfl

theorem Ahead.resume (ahead : Ahead fetch command next e.phase rest) :
    Ahead fetch command next (e.step fetch command next .resume).phase rest ∧
      (e.step fetch command next .resume).visited = e.visited := by
  rcases e with ⟨phase, visited⟩
  cases ahead with
  | stopped => exact ⟨.stopped, rfl⟩
  | running walk => exact ⟨.running walk, rfl⟩
  | paused walk => exact ⟨.running walk, rfl⟩

theorem Ahead.advance {key : κ} {fuel : ℕ} (phase : e.phase = .running key)
    (walk : follow fetch (fun record => command record = .stop) next fuel key = some rest) :
    ∃ record rest', rest = (key, record) :: rest' ∧
      Ahead fetch command next (e.step fetch command next .fetch).phase rest' ∧
      (e.step fetch command next .fetch).visited = e.visited ++ [(key, record)] := by
  obtain ⟨record, rest', fetched, rfl, further⟩ := follow_cases walk
  have stepped : e.step fetch command next .fetch =
      ⟨phaseAfter command next key record, e.visited ++ [(key, record)]⟩ := by
    simp only [step, phase, fetched]
  refine ⟨record, rest', rfl, ?_, by rw [stepped]⟩
  rw [stepped]
  rcases further with ⟨last, rfl⟩ | ⟨more, fuel', walk'⟩
  · simp only [phaseAfter, of_decide_eq_true last]
    exact .stopped
  · have other := of_decide_eq_false more
    cases told : command record with
    | next => simp only [phaseAfter, told]; exact .running walk'
    | pause => simp only [phaseAfter, told]; exact .paused walk'
    | stop => exact absurd told other

theorem Ahead.step (ahead : Ahead fetch command next e.phase rest) (action : Action) :
    ∃ rest', Ahead fetch command next (e.step fetch command next action).phase rest' ∧
      (e.step fetch command next action).visited ++ rest' = e.visited ++ rest := by
  cases action with
  | resume =>
    have resumed := ahead.resume
    exact ⟨rest, resumed.1, by rw [resumed.2]⟩
  | fetch =>
    cases phase : e.phase with
    | running key =>
      rw [phase] at ahead
      cases ahead with
      | running walk =>
        obtain ⟨record, rest', rfl, ahead', visited⟩ := Ahead.advance phase walk
        exact ⟨rest', ahead', by rw [visited, List.append_assoc]; rfl⟩
    | paused key =>
      have still : e.step fetch command next .fetch = e := by simp only [Engine.step, phase]
      rw [still]
      exact ⟨rest, ahead, rfl⟩
    | stopped =>
      have still : e.step fetch command next .fetch = e := by simp only [Engine.step, phase]
      rw [still]
      exact ⟨rest, ahead, rfl⟩
    | faulted =>
      rw [phase] at ahead
      cases ahead

theorem Ahead.run (ahead : Ahead fetch command next e.phase rest) (actions : List Action) :
    ∃ rest', Ahead fetch command next (e.run fetch command next actions).phase rest' ∧
      (e.run fetch command next actions).visited ++ rest' = e.visited ++ rest := by
  induction actions generalizing e rest with
  | nil => exact ⟨rest, ahead, rfl⟩
  | cons action actions ih =>
    obtain ⟨rest', ahead', total⟩ := ahead.step action
    obtain ⟨rest'', ahead'', total'⟩ := ih ahead'
    exact ⟨rest'', ahead'', total'.trans total⟩

/-- Pauses and resumes do not change what the engine fetches, only how far it has come. -/
theorem run_visited {key : κ} {fuel : ℕ}
    (walk : follow fetch (fun record => command record = .stop) next fuel key = some rest)
    (actions : List Action) :
    ((start key).run fetch command next actions).visited <+: rest := by
  obtain ⟨rest', _, total⟩ := Ahead.run (e := start key) (.running walk) actions
  exact ⟨rest', total⟩

theorem Ahead.rounds (ahead : Ahead fetch command next e.phase rest) (n : ℕ) :
    ∃ rest', Ahead fetch command next (e.run fetch command next (rounds n)).phase rest' ∧
      (e.run fetch command next (Engine.rounds n)).visited ++ rest' = e.visited ++ rest ∧
      rest'.length ≤ rest.length - n := by
  induction n with
  | zero => exact ⟨rest, ahead, rfl, Nat.le_refl _⟩
  | succ n ih =>
    obtain ⟨rest', ahead', total, short⟩ := ih
    have resumed := ahead'.resume
    rw [rounds_succ]
    generalize e.run fetch command next (Engine.rounds n) = mid at *
    cases phase : (mid.step fetch command next .resume).phase with
    | running key =>
      have ahead'' := resumed.1
      rw [phase] at ahead''
      cases ahead'' with
      | running walk =>
        obtain ⟨record, rest'', rfl, further, visited⟩ := Ahead.advance phase walk
        refine ⟨rest'', further, ?_, ?_⟩
        · rw [visited, resumed.2, List.append_assoc, ← total]
          rfl
        · rw [List.length_cons] at short
          omega
    | paused key =>
      rcases mid with ⟨midPhase, visited⟩
      cases midPhase <;> cases phase
    | stopped =>
      have ahead'' := resumed.1
      rw [phase] at ahead''
      have still : (mid.step fetch command next .resume).step fetch command next .fetch =
          mid.step fetch command next .resume := by
        rw [Engine.step, phase]
      cases ahead'' with
      | stopped =>
        rw [still, phase, resumed.2]
        exact ⟨[], .stopped, total, Nat.zero_le _⟩
    | faulted =>
      have ahead'' := resumed.1
      rw [phase] at ahead''
      cases ahead''

theorem Ahead.stopped_of_nil {phase : Phase κ} (ahead : Ahead fetch command next phase []) :
    phase = .stopped := by
  cases ahead with
  | stopped => rfl
  | running walk =>
    obtain ⟨_, _, _, wrong, _⟩ := follow_cases walk
    cases wrong
  | paused walk =>
    obtain ⟨_, _, _, wrong, _⟩ := follow_cases walk
    cases wrong

/-- Resumed often enough, the engine fetches the whole chain and stops. -/
theorem run_rounds {key : κ} {fuel n : ℕ}
    (walk : follow fetch (fun record => command record = .stop) next fuel key = some rest)
    (enough : rest.length ≤ n) :
    ((start key).run fetch command next (rounds n)).phase = .stopped ∧
      ((start key).run fetch command next (rounds n)).visited = rest := by
  obtain ⟨rest', ahead, total, short⟩ := Ahead.rounds (e := start key) (.running walk) n
  have none : rest' = [] := List.eq_nil_of_length_eq_zero (by omega)
  subst none
  rw [List.append_nil] at total
  exact ⟨ahead.stopped_of_nil, total⟩

theorem round_fetches {key : κ} {record : δ}
    (phase : e.phase = .running key ∨ e.phase = .paused key)
    (fetched : fetch key = some record) :
    (e.step fetch command next .resume).step fetch command next .fetch =
      ⟨phaseAfter command next key record, e.visited ++ [(key, record)]⟩ := by
  have resumed : e.step fetch command next .resume = ⟨.running key, e.visited⟩ := by
    rcases e with ⟨_, visited⟩
    rcases phase with rfl | rfl
    · rfl
    · rfl
  rw [resumed]
  simp only [step, fetched]

theorem rounds_table (keys : ℕ → κ) (records : ℕ → δ) {n : ℕ}
    (fetched : ∀ j < n, fetch (keys j) = some (records j))
    (linked : ∀ j < n, next (keys j) (records j) = keys (j + 1))
    (going : ∀ j < n, command (records j) ≠ .stop) :
    (((start (keys 0)).run fetch command next (rounds n)).phase = .running (keys n) ∨
        ((start (keys 0)).run fetch command next (rounds n)).phase = .paused (keys n)) ∧
      ((start (keys 0)).run fetch command next (rounds n)).visited =
        (List.range n).map fun j => (keys j, records j) := by
  induction n with
  | zero => exact ⟨.inl rfl, rfl⟩
  | succ n ih =>
    obtain ⟨phase, visited⟩ := ih (fun j hj => fetched j (by omega))
      (fun j hj => linked j (by omega)) (fun j hj => going j (by omega))
    rw [rounds_succ, round_fetches phase (fetched n (by omega)), visited, List.range_succ,
      List.map_append]
    refine ⟨?_, rfl⟩
    have other := going n (by omega)
    cases told : command (records n) with
    | next => left; simp only [phaseAfter, told, linked n (by omega)]
    | pause => right; simp only [phaseAfter, told, linked n (by omega)]
    | stop => exact absurd told other

end Engine

end ZynqmpDma.Base
