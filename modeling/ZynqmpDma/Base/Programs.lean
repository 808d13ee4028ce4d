import Mathlib.Data.List.Basic
import Mathlib.Order.Defs.Unbundled

namespace ZynqmpDma.Base

variable {ε σ α β κ : Type}

def finalState : EStateM.Result ε σ α → σ
  | .ok _ s => s
  | .error _ s => s

@[simp] theorem finalState_ok (a : α) (s : σ) :
    finalState (.ok a s : EStateM.Result ε σ α) = s := rfl

theorem bind_run (x : EStateM ε σ α) (f : α → EStateM ε σ β) (s : σ) :
    (x >>= f) s = match x s with
      | .ok a s' => f a s'
      | .error e s' => .error e s' := rfl

theorem pure_run (a : α) (s : σ) : (pure a : EStateM ε σ α) s = .ok a s := rfl

theorem modify_run (f : σ → σ) (s : σ) : (modify f : EStateM ε σ PUnit) s = .ok ⟨⟩ (f s) := rfl

theorem bind_ok {x : EStateM ε σ α} {s s' : σ} {a : α} (f : α → EStateM ε σ β)
    (run : x s = .ok a s') : (x >>= f) s = f a s' := by
  rw [bind_run, run]

theorem bind_ok_inv {x : EStateM ε σ α} {f : α → EStateM ε σ β} {s t : σ} {b : β}
    (run : (x >>= f) s = .ok b t) : ∃ a s', x s = .ok a s' ∧ f a s' = .ok b t := by
  rw [bind_run] at run
  cases first : x s with
  | ok a s' => exact ⟨a, s', rfl, by simpa only [first] using run⟩
  | error e s' => simp only [first, reduceCtorEq] at run

/-- Whatever a program does, it steps along `R`, and where it gets stuck, `E` allows that. -/
structure Steps (R : σ → σ → Prop) (E : ε → Prop) (x : EStateM ε σ α) : Prop where
  along : ∀ s, R s (finalState (x s))
  stuck : ∀ s e t, x s = .error e t → E e

section Steps

variable {R : σ → σ → Prop} {E : ε → Prop}

theorem Steps.pure [Std.Refl R] (a : α) : Steps R E (pure a : EStateM ε σ α) where
  along s := Std.Refl.refl s
  stuck := by
    intro s e t run
    cases run

theorem Steps.throw [Std.Refl R] {e : ε} (allowed : E e) :
    Steps R E (throw e : EStateM ε σ α) where
  along s := Std.Refl.refl s
  stuck := by
    intro s e' t run
    cases run
    exact allowed

theorem Steps.bind [IsTrans σ R] {x : EStateM ε σ α} {f : α → EStateM ε σ β}
    (first : Steps R E x) (rest : ∀ a, Steps R E (f a)) : Steps R E (x >>= f) where
  along := by
    intro s
    have taken := first.along s
    rw [bind_run]
    cases run : x s with
    | ok a s' =>
      rw [run] at taken
      exact IsTrans.trans _ _ _ taken ((rest a).along s')
    | error e s' =>
      rw [run] at taken
      exact taken
  stuck := by
    intro s e t failed
    rw [bind_run] at failed
    cases run : x s with
    | ok a s' =>
      rw [run] at failed
      exact (rest a).stuck s' e t failed
    | error e' s' =>
      rw [run] at failed
      cases failed
      exact first.stuck s e t run

theorem Steps.andThen [IsTrans σ R] {x : EStateM ε σ PUnit} {y : EStateM ε σ β}
    (first : Steps R E x) (rest : Steps R E y) : Steps R E (x >>= fun _ => y) :=
  first.bind fun _ => rest

theorem Steps.ite {c : Prop} [Decidable c] {x y : EStateM ε σ α}
    (yes : Steps R E x) (no : Steps R E y) : Steps R E (if c then x else y) := by
  by_cases h : c
  · rw [if_pos h]
    exact yes
  · rw [if_neg h]
    exact no

theorem Steps.mono {R' : σ → σ → Prop} {x : EStateM ε σ α} (steps : Steps R E x)
    (weaker : ∀ s t, R s t → R' s t) : Steps R' E x where
  along s := weaker _ _ (steps.along s)
  stuck := steps.stuck

theorem Steps.of_ok {x : EStateM ε σ α} {s s' : σ} {a : α} (steps : Steps R E x)
    (run : x s = .ok a s') : R s s' := by
  have taken := steps.along s
  rw [run] at taken
  exact taken

theorem Steps.returns {x : EStateM ε σ α} (steps : Steps R E x) (none : ∀ e, ¬ E e) (s : σ) :
    ∃ a s', x s = .ok a s' := by
  cases run : x s with
  | ok a s' => exact ⟨a, s', rfl⟩
  | error e s' => exact absurd (steps.stuck s e s' run) (none e)

end Steps

structure Visit (ε σ α κ : Type) where
  before : σ
  call : κ
  outcome : EStateM.Result ε σ α

/-- The calls of a run in order. A run ends at the first call that does not return. -/
def visits (step : κ → EStateM ε σ α) : σ → List κ → List (Visit ε σ α κ)
  | _, [] => []
  | s, call :: calls =>
    ⟨s, call, step call s⟩ ::
      match step call s with
      | .ok _ s' => visits step s' calls
      | .error _ _ => []

section Visits

variable {step : κ → EStateM ε σ α}

theorem visits_head (s : σ) (call : κ) (calls : List κ) :
    ⟨s, call, step call s⟩ ∈ visits step s (call :: calls) := List.mem_cons_self

theorem visits_tail {s s' : σ} {a : α} {call : κ} {calls : List κ}
    (run : step call s = .ok a s') :
    visits step s (call :: calls) = ⟨s, call, .ok a s'⟩ :: visits step s' calls := by
  rw [visits, run]

theorem visits_invariant (Inv : σ → Prop)
    (preserved : ∀ s call a s', Inv s → step call s = .ok a s' → Inv s')
    {s : σ} {calls : List κ} (start : Inv s) {visit : Visit ε σ α κ}
    (member : visit ∈ visits step s calls) :
    Inv visit.before ∧ visit.outcome = step visit.call visit.before := by
  induction calls generalizing s with
  | nil => cases member
  | cons call calls ih =>
    rw [visits] at member
    rcases List.mem_cons.mp member with rfl | later
    · exact ⟨start, rfl⟩
    · cases run : step call s with
      | error e s' =>
        simp only [run] at later
        cases later
      | ok a s' =>
        simp only [run] at later
        exact ih (preserved s call a s' start run) later

theorem visits_outcome {s : σ} {calls : List κ} {visit : Visit ε σ α κ}
    (member : visit ∈ visits step s calls) : visit.outcome = step visit.call visit.before :=
  (visits_invariant (fun _ => True) (fun _ _ _ _ _ _ => trivial) trivial member).2

theorem visits_call {s : σ} {calls : List κ} {visit : Visit ε σ α κ}
    (member : visit ∈ visits step s calls) : visit.call ∈ calls := by
  induction calls generalizing s with
  | nil => cases member
  | cons call calls ih =>
    rw [visits] at member
    rcases List.mem_cons.mp member with rfl | later
    · exact List.mem_cons_self
    · cases run : step call s with
      | error e s' =>
        simp only [run] at later
        cases later
      | ok a s' =>
        simp only [run] at later
        exact List.mem_cons_of_mem _ (ih later)

theorem visits_next {s : σ} {calls : List κ} {before after : List (Visit ε σ α κ)}
    {visit next : Visit ε σ α κ}
    (split : visits step s calls = before ++ visit :: next :: after) :
    ∃ a, visit.outcome = .ok a next.before := by
  induction calls generalizing s before with
  | nil => cases before <;> cases split
  | cons call calls ih =>
    rw [visits] at split
    cases run : step call s with
    | error e s' =>
      simp only [run] at split
      cases before with
      | nil => cases split
      | cons _ before => cases before <;> cases split
    | ok a s' =>
      simp only [run] at split
      cases before with
      | cons _ before => exact ih (List.cons.inj split).2
      | nil =>
        obtain ⟨rfl, rest⟩ := List.cons.inj split
        cases calls with
        | nil => cases rest
        | cons call calls =>
          rw [visits] at rest
          obtain ⟨rfl, _⟩ := List.cons.inj rest
          exact ⟨a, rfl⟩

theorem visits_after {Q : σ → Prop} {s : σ} {calls : List κ}
    {past between after : List (Visit ε σ α κ)} {first visit : Visit ε σ α κ}
    (split : visits step s calls = past ++ first :: (between ++ visit :: after))
    (established : ∀ a s', first.outcome = .ok a s' → Q s')
    (kept : ∀ w ∈ between, ∀ a s', Q w.before → w.outcome = .ok a s' → Q s') :
    Q visit.before := by
  induction between generalizing past first with
  | nil =>
    obtain ⟨a, run⟩ := visits_next split
    exact established a _ run
  | cons w between ih =>
    obtain ⟨a, run⟩ := visits_next split
    have holds := established a _ run
    have later : visits step s calls = (past ++ [first]) ++ w :: (between ++ visit :: after) := by
      rw [split, List.append_assoc]
      rfl
    apply ih later
    · exact fun a s' => kept w List.mem_cons_self a s' holds
    · exact fun w' member => kept w' (List.mem_cons_of_mem _ member)

/-- A state of a specification that follows every call goes through the run with the program. -/
theorem visits_simulates {ω : Type} {follows : ω → σ → Prop} {A : Visit ε σ α κ → Prop}
    (next : ω → Visit ε σ α κ → ω)
    (keeps : ∀ w s call a t, follows w s → A ⟨s, call, .ok a t⟩ → step call s = .ok a t →
      follows (next w ⟨s, call, .ok a t⟩) t)
    {w : ω} {s : σ} {calls : List κ} (start : follows w s)
    (known : ∀ visit ∈ visits step s calls, A visit)
    {past after : List (Visit ε σ α κ)} {visit : Visit ε σ α κ}
    (split : visits step s calls = past ++ visit :: after) :
    follows (past.foldl next w) visit.before := by
  induction calls generalizing w s past with
  | nil => cases past <;> cases split
  | cons call calls ih =>
    cases run : step call s with
    | error e t =>
      simp only [visits, run] at split
      cases past with
      | nil =>
        obtain ⟨rfl, _⟩ := List.cons.inj split
        exact start
      | cons _ past => cases past <;> cases split
    | ok a t =>
      rw [visits_tail run] at split known
      cases past with
      | nil =>
        obtain ⟨rfl, _⟩ := List.cons.inj split
        exact start
      | cons first past =>
        obtain ⟨rfl, rest⟩ := List.cons.inj split
        have now := keeps w s call a t start (known _ List.mem_cons_self) run
        exact ih now (fun visit member => known visit (List.mem_cons_of_mem _ member)) rest

def Reaches (step : κ → EStateM ε σ α) (s : σ) (calls : List κ) (t : σ) : Prop :=
  t = s ∨ ∃ visit ∈ visits step s calls, ∃ a, visit.outcome = .ok a t

theorem Reaches.start (s : σ) (calls : List κ) : Reaches step s calls s := .inl rfl

theorem Reaches.later {s s' t : σ} {a : α} {call : κ} {calls : List κ}
    (run : step call s = .ok a s') (reaches : Reaches step s' calls t) :
    Reaches step s (call :: calls) t := by
  rw [Reaches, visits_tail run]
  rcases reaches with rfl | ⟨visit, member, b, outcome⟩
  · exact .inr ⟨_, List.mem_cons_self, a, rfl⟩
  · exact .inr ⟨visit, List.mem_cons_of_mem _ member, b, outcome⟩

variable {Inv P : σ → Prop} {C : κ → σ → Prop}

theorem reaches_invariant
    (kept : ∀ s call a t, Inv s → C call s → step call s = .ok a t → Inv t) {s t : σ}
    {calls : List κ} (start : Inv s)
    (allowed : ∀ visit ∈ visits step s calls, C visit.call visit.before)
    (reaches : Reaches step s calls t) : Inv t := by
  induction calls generalizing s with
  | nil =>
    rcases reaches with rfl | ⟨_, none, _⟩
    · exact start
    · cases none
  | cons call calls ih =>
    have now := allowed _ (visits_head s call calls)
    rcases reaches with rfl | ⟨visit, member, b, outcome⟩
    · exact start
    · cases run : step call s with
      | error e s' =>
        simp only [visits, run, List.mem_singleton] at member
        subst member
        cases outcome
      | ok a s' =>
        have next := kept s call a s' start now run
        rw [visits_tail run] at member allowed
        rcases List.mem_cons.mp member with rfl | later
        · cases outcome
          exact next
        · exact ih next (fun visit member => allowed visit (List.mem_cons_of_mem _ member))
            (.inr ⟨visit, later, b, outcome⟩)

/-- A property of every state of a run, told from the calls: one that is allowed keeps the
    invariant behind it, any other returns and loses it. `A` is what every call is known to be. -/
theorem reaches_holds_iff {A : κ → Prop} (holds : ∀ s, Inv s → P s)
    (kept : ∀ s call a t, Inv s → A call → C call s → step call s = .ok a t → Inv t)
    (lost : ∀ s call, Inv s → A call → ¬ C call s → ∃ a t, step call s = .ok a t ∧ ¬ P t)
    {s : σ} (start : Inv s) (calls : List κ) (known : ∀ call ∈ calls, A call) :
    (∀ t, Reaches step s calls t → P t) ↔
      ∀ visit ∈ visits step s calls, C visit.call visit.before := by
  constructor
  · intro always
    induction calls generalizing s with
    | nil =>
      intro visit none
      cases none
    | cons call calls ih =>
      have first := known call List.mem_cons_self
      have now : C call s := by
        by_contra other
        obtain ⟨a, t, run, fails⟩ := lost s call start first other
        exact fails (always t (.later run (.start t calls)))
      intro visit member
      cases run : step call s with
      | error e s' =>
        simp only [visits, run, List.mem_singleton] at member
        subst member
        exact now
      | ok a s' =>
        rw [visits_tail run] at member
        rcases List.mem_cons.mp member with rfl | later
        · exact now
        · exact ih (kept s call a s' start first now run)
            (fun call member => known call (List.mem_cons_of_mem _ member))
            (fun t reaches => always t (.later run reaches)) visit later
  · intro allowed t reaches
    refine holds t (reaches_invariant (C := fun call s => A call ∧ C call s) ?_ start ?_ reaches)
    · exact fun s call a t inv both => kept s call a t inv both.1 both.2
    · exact fun visit member => ⟨known _ (visits_call member), allowed visit member⟩

end Visits

end ZynqmpDma.Base
