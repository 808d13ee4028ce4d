import ZynqmpDma.Base.Engine

namespace ZynqmpDma.Base

variable {κ δ μ : Type}

structure Mover (κ δ μ : Type) where
  engine : Engine κ δ
  mem : μ

namespace Mover

def start (key : κ) (mem : μ) : Mover κ δ μ := ⟨.start key, mem⟩

section Step

variable (fetch : μ → κ → Option δ) (command : δ → Command) (next : κ → δ → κ)
  (effect : δ → μ → μ)

def effects (visited : List (κ × δ)) (mem : μ) : μ :=
  visited.foldl (fun mem entry => effect entry.2 mem) mem

def step (m : Mover κ δ μ) (action : Action) : Mover κ δ μ where
  engine := m.engine.step (fetch m.mem) command next action
  mem :=
    match action, m.engine.phase with
    | .fetch, .running key =>
      match fetch m.mem key with
      | some record => effect record m.mem
      | none => m.mem
    | _, _ => m.mem

def run (m : Mover κ δ μ) (actions : List Action) : Mover κ δ μ :=
  actions.foldl (step fetch command next effect) m

/-- What the one record asks for does not change what is fetched at the key of the other. -/
def Keeps (entry entry' : κ × δ) : Prop :=
  ∀ mem, fetch (effect entry.2 mem) entry'.1 = fetch mem entry'.1

/-- The mover has done what its engine visited, and the records ahead of it are those that an
    engine would find in the memory it began with. -/
structure Follows (began : μ) (m : Mover κ δ μ) (rest : List (κ × δ)) : Prop where
  mem : m.mem = effects effect m.engine.visited began
  ahead : Engine.Ahead (fetch began) command next m.engine.phase rest
  untouched : ∀ entry ∈ rest, fetch m.mem entry.1 = fetch began entry.1
  keeps : rest.Pairwise (Keeps fetch effect)

end Step

variable {fetch : μ → κ → Option δ} {command : δ → Command} {next : κ → δ → κ}
  {effect : δ → μ → μ} {began : μ} {m : Mover κ δ μ} {rest : List (κ × δ)}

theorem effects_concat (visited : List (κ × δ)) (entry : κ × δ) (mem : μ) :
    effects effect (visited ++ [entry]) mem = effect entry.2 (effects effect visited mem) := by
  rw [effects, List.foldl_append]
  rfl

theorem step_stopped (phase : m.engine.phase = .stopped) :
    m.step fetch command next effect .fetch = m := by
  simp only [step, Engine.step, phase]

theorem Follows.resume (follows : Follows fetch command next effect began m rest) :
    Follows fetch command next effect began (m.step fetch command next effect .resume) rest := by
  obtain ⟨ahead, visited⟩ := follows.ahead.resume
  constructor
  · show m.mem = effects effect (m.engine.step (fetch m.mem) command next .resume).visited began
    rw [follows.mem, ← visited]
    rfl
  · exact ahead
  · exact follows.untouched
  · exact follows.keeps

theorem Follows.advance {key : κ} (phase : m.engine.phase = .running key)
    (follows : Follows fetch command next effect began m rest) :
    ∃ record rest', rest = (key, record) :: rest' ∧
      (m.step fetch command next effect .fetch).engine =
        m.engine.step (fetch began) command next .fetch ∧
      (m.step fetch command next effect .fetch).engine.phase =
        Engine.phaseAfter command next key record ∧
      (m.step fetch command next effect .fetch).mem = effect record m.mem ∧
      Follows fetch command next effect began (m.step fetch command next effect .fetch) rest' := by
  have ahead := follows.ahead
  rw [phase] at ahead
  cases ahead with
  | running walk =>
    obtain ⟨record, rest', rfl, ahead', visited⟩ := Engine.Ahead.advance phase walk
    have there := follow_fetched walk _ List.mem_cons_self
    have here := (follows.untouched _ List.mem_cons_self).trans there
    have engine : (m.step fetch command next effect .fetch).engine =
        m.engine.step (fetch began) command next .fetch := by
      simp only [step, Engine.step, phase, here, there]
    have after : (m.step fetch command next effect .fetch).engine.phase =
        Engine.phaseAfter command next key record := by
      simp only [step, Engine.step, phase, here]
    have mem : (m.step fetch command next effect .fetch).mem = effect record m.mem := by
      simp only [step, phase, here]
    obtain ⟨first, later⟩ := List.pairwise_cons.mp follows.keeps
    refine ⟨record, rest', rfl, engine, after, mem, ?_, ?_, ?_, later⟩
    · rw [mem, engine, visited, effects_concat, follows.mem]
    · rw [engine]
      exact ahead'
    · intro entry member
      rw [mem, first entry member]
      exact follows.untouched entry (List.mem_cons_of_mem _ member)

theorem Follows.step (follows : Follows fetch command next effect began m rest)
    (action : Action) :
    (m.step fetch command next effect action).engine =
        m.engine.step (fetch began) command next action ∧
      ∃ rest', Follows fetch command next effect began (m.step fetch command next effect action)
        rest' := by
  cases action with
  | resume => exact ⟨rfl, rest, follows.resume⟩
  | fetch =>
    cases phase : m.engine.phase with
    | running key =>
      obtain ⟨_, rest', _, engine, _, _, follows'⟩ := follows.advance phase
      exact ⟨engine, rest', follows'⟩
    | paused | stopped | faulted =>
      have still : m.step fetch command next effect .fetch = m := by
        simp only [Mover.step, Engine.step, phase]
      have still' : m.engine.step (fetch began) command next .fetch = m.engine := by
        simp only [Engine.step, phase]
      rw [still, still']
      exact ⟨rfl, rest, follows⟩

theorem Follows.run (follows : Follows fetch command next effect began m rest)
    (actions : List Action) :
    (m.run fetch command next effect actions).engine =
        m.engine.run (fetch began) command next actions ∧
      (m.run fetch command next effect actions).mem =
        effects effect (m.run fetch command next effect actions).engine.visited began := by
  induction actions generalizing m rest with
  | nil => exact ⟨rfl, follows.mem⟩
  | cons action actions ih =>
    obtain ⟨engine, rest', follows'⟩ := follows.step action
    obtain ⟨engine', mem'⟩ := ih follows'
    refine ⟨?_, mem'⟩
    rw [engine] at engine'
    exact engine'

/-- A mover that does not change what it has still to fetch does what its engine visits in the
    memory it began with, in that order. -/
theorem run_start {key : κ} {fuel : ℕ}
    (walk : follow (fetch began) (fun record => command record = .stop) next fuel key = some rest)
    (keeps : rest.Pairwise (Keeps fetch effect)) (actions : List Action) :
    (start key began).run fetch command next effect actions =
      ⟨(Engine.start key).run (fetch began) command next actions,
        effects effect ((Engine.start key).run (fetch began) command next actions).visited
          began⟩ := by
  have follows : Follows fetch command next effect began (start key began) rest :=
    ⟨rfl, .running walk, fun _ _ => rfl, keeps⟩
  obtain ⟨engine, mem⟩ := follows.run actions
  rw [engine] at mem
  exact congrArg₂ Mover.mk engine mem

end Mover

end ZynqmpDma.Base
