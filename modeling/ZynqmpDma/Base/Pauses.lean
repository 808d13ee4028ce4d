import Mathlib.Data.List.Count
import ZynqmpDma.Base.Engine

namespace ZynqmpDma.Base.Engine

variable {κ δ : Type}

/-- The records up to the one that pauses the engine after `resumes` pauses before it. -/
def through (command : δ → Command) : ℕ → List (κ × δ) → List (κ × δ)
  | _, [] => []
  | 0, entry :: rest =>
    if command entry.2 = .pause then [entry] else entry :: through command 0 rest
  | resumes + 1, entry :: rest =>
    if command entry.2 = .pause then entry :: through command resumes rest
    else entry :: through command (resumes + 1) rest

def legs (n : ℕ) : ℕ → List Action
  | 0 => List.replicate n .fetch
  | resumes + 1 => List.replicate n .fetch ++ .resume :: legs n resumes

section Through

variable {command : δ → Command}

theorem through_pause {entry : κ × δ} (pauses : command entry.2 = .pause) (rest : List (κ × δ)) :
    through command 0 (entry :: rest) = [entry] := by
  simp only [through, pauses, ite_true]

theorem through_resumed {entry : κ × δ} (pauses : command entry.2 = .pause)
    (rest : List (κ × δ)) (resumes : ℕ) :
    through command (resumes + 1) (entry :: rest) = entry :: through command resumes rest := by
  simp only [through, pauses, ite_true]

theorem through_next {entry : κ × δ} (other : command entry.2 ≠ .pause) (rest : List (κ × δ))
    (resumes : ℕ) :
    through command resumes (entry :: rest) = entry :: through command resumes rest := by
  cases resumes <;> simp only [through, other, ite_false]

variable (command) in
theorem through_prefix (resumes : ℕ) (rest : List (κ × δ)) :
    through command resumes rest <+: rest := by
  induction rest generalizing resumes with
  | nil => cases resumes <;> exact List.prefix_rfl
  | cons entry rest ih =>
    by_cases pauses : command entry.2 = .pause
    · cases resumes with
      | zero =>
        rw [through_pause pauses]
        exact ⟨rest, rfl⟩
      | succ resumes =>
        rw [through_resumed pauses]
        exact (List.prefix_cons_inj entry).mpr (ih resumes)
    · rw [through_next pauses]
      exact (List.prefix_cons_inj entry).mpr (ih resumes)

theorem through_succ (resumes : ℕ) (rest : List (κ × δ)) :
    through command (resumes + 1) rest = through command 0 rest ++
      through command resumes (rest.drop (through command 0 rest).length) := by
  induction rest with
  | nil => cases resumes <;> rfl
  | cons entry rest ih =>
    by_cases pauses : command entry.2 = .pause
    · rw [through_resumed pauses, through_pause pauses]
      rfl
    · rw [through_next pauses, through_next pauses, ih]
      rfl

def pauseCount (command : δ → Command) (visited : List (κ × δ)) : ℕ :=
  visited.countP fun entry => command entry.2 = .pause

variable (command) in
theorem pauseCount_through (resumes : ℕ) (rest : List (κ × δ)) :
    pauseCount command (through command resumes rest) =
      min (resumes + 1) (pauseCount command rest) := by
  induction rest generalizing resumes with
  | nil => cases resumes <;> rfl
  | cons entry rest ih =>
    by_cases pauses : command entry.2 = .pause
    · have counted (visited : List (κ × δ)) :
          pauseCount command (entry :: visited) = pauseCount command visited + 1 :=
        List.countP_cons_of_pos (by simpa using pauses)
      cases resumes with
      | zero =>
        rw [through_pause pauses, counted, counted]
        simp only [pauseCount, List.countP_nil]
        omega
      | succ resumes =>
        rw [through_resumed pauses, counted, counted, ih]
        omega
    · have counted (visited : List (κ × δ)) :
          pauseCount command (entry :: visited) = pauseCount command visited :=
        List.countP_cons_of_neg (by simpa using pauses)
      rw [through_next pauses, counted, counted, ih]

variable (command) in
theorem through_ends (resumes : ℕ) (rest : List (κ × δ)) :
    through command resumes rest = rest ∨
      ∃ before entry, through command resumes rest = before ++ [entry] ∧
        command entry.2 = .pause := by
  induction rest generalizing resumes with
  | nil => cases resumes <;> exact .inl rfl
  | cons entry rest ih =>
    have further (resumes' : ℕ)
        (step : through command resumes (entry :: rest) = entry :: through command resumes' rest) :
        through command resumes (entry :: rest) = entry :: rest ∨
          ∃ before last, through command resumes (entry :: rest) = before ++ [last] ∧
            command last.2 = .pause := by
      rw [step]
      rcases ih resumes' with all | ⟨before, last, ends, pauses⟩
      · exact .inl (by rw [all])
      · exact .inr ⟨entry :: before, last, by rw [ends]; rfl, pauses⟩
    by_cases pauses : command entry.2 = .pause
    · cases resumes with
      | zero => exact .inr ⟨[], entry, through_pause pauses rest, pauses⟩
      | succ resumes => exact further resumes (through_resumed pauses rest resumes)
    · exact further resumes (through_next pauses rest resumes)

end Through

section Legs

variable {fetch : κ → Option δ} {command : δ → Command} {next : κ → δ → κ} {e : Engine κ δ}
  {rest : List (κ × δ)}

theorem Ahead.nil_of_stopped (ahead : Ahead fetch command next .stopped rest) : rest = [] := by
  cases ahead
  rfl

theorem run_append (actions actions' : List Action) :
    e.run fetch command next (actions ++ actions') =
      (e.run fetch command next actions).run fetch command next actions' :=
  List.foldl_append

theorem fetches_still (waits : ∀ key, e.phase ≠ .running key) (n : ℕ) :
    e.run fetch command next (List.replicate n .fetch) = e := by
  induction n with
  | zero => rfl
  | succ n ih =>
    have still : e.step fetch command next .fetch = e := by
      cases phase : e.phase with
      | running key => exact absurd phase (waits key)
      | paused | stopped | faulted => simp only [step, phase]
    rw [List.replicate_succ, run, List.foldl_cons, still]
    exact ih

theorem stopped_still (stopped : e.phase = .stopped) (actions : List Action) :
    e.run fetch command next actions = e := by
  induction actions with
  | nil => rfl
  | cons action actions ih =>
    have still : e.step fetch command next action = e := by
      cases action <;> simp only [step, stopped]
    rw [run, List.foldl_cons, still]
    exact ih

theorem Ahead.fetches {key : κ} {n : ℕ} (phase : e.phase = .running key)
    (ahead : Ahead fetch command next e.phase rest) (enough : rest.length ≤ n) :
    (e.run fetch command next (List.replicate n .fetch)).visited =
        e.visited ++ through command 0 rest ∧
      Ahead fetch command next (e.run fetch command next (List.replicate n .fetch)).phase
        (rest.drop (through command 0 rest).length) ∧
      ∀ key, (e.run fetch command next (List.replicate n .fetch)).phase ≠ .running key := by
  induction n generalizing e key rest with
  | zero =>
    have none : rest = [] := List.eq_nil_of_length_eq_zero (by omega)
    subst none
    rw [ahead.stopped_of_nil] at phase
    cases phase
  | succ n ih =>
    rw [phase] at ahead
    cases ahead with
    | running walk =>
      obtain ⟨record, rest', rfl, ahead', visited⟩ := advance phase walk
      have fetched := follow_fetched walk _ List.mem_cons_self
      have after : (e.step fetch command next .fetch).phase =
          phaseAfter command next key record := by
        simp only [Engine.step, phase, fetched]
      have first : e.run fetch command next (List.replicate (n + 1) .fetch) =
          (e.step fetch command next .fetch).run fetch command next (List.replicate n .fetch) := by
        rw [List.replicate_succ]
        rfl
      rw [first]
      rw [List.length_cons] at enough
      generalize e.step fetch command next .fetch = e' at *
      cases told : command record with
      | next =>
        simp only [phaseAfter, told] at after
        have other : command (key, record).2 ≠ .pause := by simp only [told, ne_eq, reduceCtorEq,
          not_false_eq_true]
        obtain ⟨visited', ahead'', waits⟩ := ih after ahead' (by omega)
        rw [through_next other]
        refine ⟨?_, ahead'', waits⟩
        rw [visited', visited, List.append_assoc]
        rfl
      | pause =>
        simp only [phaseAfter, told] at after
        have waits : ∀ key, e'.phase ≠ .running key := by
          simp only [after, ne_eq, reduceCtorEq, not_false_eq_true, implies_true]
        rw [fetches_still waits, through_pause told]
        exact ⟨visited, ahead', waits⟩
      | stop =>
        simp only [phaseAfter, told] at after
        have waits : ∀ key, e'.phase ≠ .running key := by
          simp only [after, ne_eq, reduceCtorEq, not_false_eq_true, implies_true]
        have other : command (key, record).2 ≠ .pause := by simp only [told, ne_eq, reduceCtorEq,
          not_false_eq_true]
        rw [after] at ahead'
        cases ahead'
        rw [fetches_still waits, through_next other, after]
        exact ⟨visited, .stopped, by simp only [ne_eq, reduceCtorEq, not_false_eq_true,
          implies_true]⟩

/-- Resumed after each pause, the engine gets through as many pauses as it is resumed, and no
    further. -/
theorem Ahead.legs {key : κ} {n : ℕ} (resumes : ℕ) (phase : e.phase = .running key)
    (ahead : Ahead fetch command next e.phase rest) (enough : rest.length ≤ n) :
    (e.run fetch command next (Engine.legs n resumes)).visited =
        e.visited ++ through command resumes rest ∧
      Ahead fetch command next (e.run fetch command next (Engine.legs n resumes)).phase
        (rest.drop (through command resumes rest).length) ∧
      ∀ key, (e.run fetch command next (Engine.legs n resumes)).phase ≠ .running key := by
  induction resumes generalizing e key rest with
  | zero => exact ahead.fetches phase enough
  | succ resumes ih =>
    obtain ⟨visited, ahead', waits⟩ := ahead.fetches phase enough
    have short : (rest.drop (through command 0 rest).length).length ≤ n := by
      rw [List.length_drop]
      omega
    rw [Engine.legs, run_append, through_succ, List.length_append, ← List.drop_drop]
    generalize e.run fetch command next (List.replicate n .fetch) = e' at *
    generalize rest.drop (through command 0 rest).length = rest' at *
    cases phase' : e'.phase with
    | running key' => exact absurd phase' (waits key')
    | paused key' =>
      have resumed : e'.step fetch command next .resume = ⟨.running key', e'.visited⟩ := by
        simp only [Engine.step, phase']
      have ahead'' := ahead'.resume.1
      rw [resumed] at ahead''
      have further := ih (e := ⟨.running key', e'.visited⟩) rfl ahead'' short
      rw [Engine.run, List.foldl_cons, resumed, ← List.append_assoc, ← visited]
      exact further
    | stopped =>
      rw [phase'] at ahead'
      cases ahead'
      have none : through command resumes ([] : List (κ × δ)) = [] := by cases resumes <;> rfl
      rw [stopped_still phase', none, List.append_nil, phase']
      exact ⟨visited, .stopped, by simp only [ne_eq, reduceCtorEq, not_false_eq_true,
        implies_true]⟩
    | faulted =>
      rw [phase'] at ahead'
      cases ahead'

end Legs

end ZynqmpDma.Base.Engine
