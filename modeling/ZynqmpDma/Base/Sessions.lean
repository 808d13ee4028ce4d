import ZynqmpDma.Base.Programs

namespace ZynqmpDma.Base

variable {σ τ ι β E : Type}

def answers (spec : σ → ι → β × σ) : σ → List ι → List β × σ
  | state, [] => ([], state)
  | state, input :: inputs =>
    let (answer, state) := spec state input
    let (rest, state) := answers spec state inputs
    (answer :: rest, state)

def Legal (allowed : σ → ι → Prop) (spec : σ → ι → β × σ) : σ → List ι → Prop
  | _, [] => True
  | state, input :: inputs =>
    allowed state input ∧ Legal allowed spec (spec state input).2 inputs

def serve (step : ι → EStateM E τ β) : List ι → EStateM E τ (List β)
  | [] => pure []
  | input :: inputs => do
    let answer ← step input
    let rest ← serve step inputs
    pure (answer :: rest)

variable {allowed : σ → ι → Prop} {spec : σ → ι → β × σ} {step : ι → EStateM E τ β}
  {represents : τ → σ → Prop}

theorem answers_cons_fst (state : σ) (input : ι) (inputs : List ι) :
    (answers spec state (input :: inputs)).1 =
      (spec state input).1 :: (answers spec (spec state input).2 inputs).1 := rfl

theorem answers_cons_snd (state : σ) (input : ι) (inputs : List ι) :
    (answers spec state (input :: inputs)).2 = (answers spec (spec state input).2 inputs).2 := rfl

theorem serve_append {p p' p'' : τ} {inputs inputs' : List ι} {given given' : List β}
    (run : serve step inputs p = .ok given p') (rest : serve step inputs' p' = .ok given' p'') :
    serve step (inputs ++ inputs') p = .ok (given ++ given') p'' := by
  induction inputs generalizing p given with
  | nil =>
    cases run
    exact rest
  | cons input inputs ih =>
    rw [serve] at run
    obtain ⟨answer, q, first, later⟩ := bind_ok_inv run
    obtain ⟨answers, q', others, last⟩ := bind_ok_inv later
    cases last
    rw [List.cons_append, serve, bind_ok _ first, bind_ok _ (ih others)]
    rfl

theorem serve_keeps (kept : τ → Prop)
    (keeps : ∀ p input answer p', kept p → step input p = .ok answer p' → kept p') {p p' : τ}
    {inputs : List ι} {given : List β} (begins : kept p)
    (run : serve step inputs p = .ok given p') : kept p' := by
  induction inputs generalizing p given with
  | nil =>
    cases run
    exact begins
  | cons input inputs ih =>
    rw [serve] at run
    obtain ⟨answer, q, first, later⟩ := bind_ok_inv run
    obtain ⟨answers, q', others, last⟩ := bind_ok_inv later
    cases last
    exact ih (keeps p input answer q begins first) others

/-- A program that answers each allowed input as specified, and then still represents the state
    of the specification, answers all of them so. -/
theorem serve_refines
    (refines : ∀ p state input, represents p state → allowed state input →
      ∃ p', step input p = .ok (spec state input).1 p' ∧ represents p' (spec state input).2)
    {p : τ} {state : σ} (begins : represents p state) {inputs : List ι}
    (legal : Legal allowed spec state inputs) :
    ∃ p', serve step inputs p = .ok (answers spec state inputs).1 p' ∧
      represents p' (answers spec state inputs).2 := by
  induction inputs generalizing p state with
  | nil => exact ⟨p, rfl, begins⟩
  | cons input inputs ih =>
    rcases legal with ⟨first, later⟩
    obtain ⟨p', run, represented⟩ := refines p state input begins first
    obtain ⟨p'', rest, represented'⟩ := ih represented later
    refine ⟨p'', ?_, represented'⟩
    rw [serve, bind_ok _ run, bind_ok _ rest]
    rfl

end ZynqmpDma.Base
