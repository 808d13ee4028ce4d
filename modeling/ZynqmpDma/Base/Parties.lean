import ZynqmpDma.Base.Built
import ZynqmpDma.Base.Sessions

namespace ZynqmpDma.Base

variable {ε σ β ι κ : Type} [DecidableEq ι]

def inputsOf (party : κ → ι) (i : ι) (inputs : List κ) : List κ :=
  inputs.filter fun input => party input = i

theorem inputsOf_own {party : κ → ι} {i : ι} {input : κ} (own : party input = i)
    (inputs : List κ) : inputsOf party i (input :: inputs) = input :: inputsOf party i inputs :=
  List.filter_cons_of_pos (by simp [own])

theorem inputsOf_other {party : κ → ι} {i : ι} {input : κ} (other : party input ≠ i)
    (inputs : List κ) : inputsOf party i (input :: inputs) = inputsOf party i inputs :=
  List.filter_cons_of_neg (by simp [other])

def answersOf (party : κ → ι) (i : ι) : List κ → List β → List β
  | input :: inputs, answer :: answers =>
    if party input = i then answer :: answersOf party i inputs answers
    else answersOf party i inputs answers
  | _, _ => []

/-- Parties that share a state: what an input of one does depends on what that party sees of the
    state only, and no other party sees it. `fine` is what holds of a state and the inputs that
    are still to come. -/
structure Shares (party : κ → ι) (sees : ι → σ → σ → Prop) (step : κ → EStateM ε σ β)
    (fine : σ → List κ → Prop) : Prop where
  own : ∀ input inputs s s', fine s (input :: inputs) → sees (party input) s s' →
    Alike (sees (party input)) (step input s) (step input s')
  others : ∀ input inputs s s' i, fine s (input :: inputs) → i ≠ party input → sees i s s' →
    sees i (finalState (step input s)) s'
  fine : ∀ input inputs s answer t, fine s (input :: inputs) → step input s = .ok answer t →
    fine t inputs

namespace Shares

variable {party : κ → ι} {sees : ι → σ → σ → Prop} {step : κ → EStateM ε σ β}
  {fine : σ → List κ → Prop} {s s' : σ} {i : ι}

/-- Each party's part of a run that returns is its own run. -/
theorem solo (shares : Shares party sees step fine) {inputs : List κ} (begins : fine s inputs)
    (same : sees i s s') {given : List β} {t : σ} (run : serve step inputs s = .ok given t) :
    ∃ t', serve step (inputsOf party i inputs) s' = .ok (answersOf party i inputs given) t' ∧
      sees i t t' := by
  induction inputs generalizing s s' given with
  | nil =>
    cases run
    exact ⟨s', rfl, same⟩
  | cons input inputs ih =>
    rw [serve] at run
    obtain ⟨answer, u, first, later⟩ := bind_ok_inv run
    obtain ⟨answers, u', others, last⟩ := bind_ok_inv later
    cases last
    have begins' := shares.fine input inputs s answer u begins first
    by_cases mine : party input = i
    · subst mine
      have alike := shares.own input inputs s s' begins same
      rw [first] at alike
      generalize taken : step input s' = r' at alike
      cases alike with
      | ok _ same' =>
        obtain ⟨t', rest, final⟩ := ih begins' same' others
        refine ⟨t', ?_, final⟩
        rw [inputsOf_own rfl, serve, bind_ok _ taken, bind_ok _ rest, answersOf, if_pos rfl]
        rfl
    · have same' := shares.others input inputs s s' i begins (fun own => mine own.symm) same
      rw [first] at same'
      obtain ⟨t', rest, final⟩ := ih begins' same' others
      refine ⟨t', ?_, final⟩
      rw [inputsOf_other mine, answersOf, if_neg mine]
      exact rest

/-- When each party's own run returns, so does the run of all of them. -/
theorem together (shares : Shares party sees step fine) {inputs : List κ} (begins : fine s inputs)
    (solos : ∀ i, ∃ s', sees i s s' ∧ ∃ given t',
      serve step (inputsOf party i inputs) s' = .ok given t') :
    ∃ given t, serve step inputs s = .ok given t := by
  induction inputs generalizing s with
  | nil => exact ⟨[], s, rfl⟩
  | cons input inputs ih =>
    obtain ⟨s', same, given, t', run⟩ := solos (party input)
    rw [inputsOf_own rfl, serve] at run
    obtain ⟨answer, u', first, later⟩ := bind_ok_inv run
    obtain ⟨answers, v', others, _⟩ := bind_ok_inv later
    have alike := shares.own input inputs s s' begins same
    rw [first] at alike
    generalize taken : step input s = r at alike
    cases alike with
    | @ok _ u _ same' =>
      have solos' : ∀ i, ∃ s', sees i u s' ∧ ∃ given t',
          serve step (inputsOf party i inputs) s' = .ok given t' := by
        intro i
        by_cases mine : i = party input
        · subst mine
          exact ⟨u', same', answers, v', others⟩
        · obtain ⟨w, same, given, t', run⟩ := solos i
          have same' := shares.others input inputs s w i begins mine same
          rw [taken] at same'
          rw [inputsOf_other (Ne.symm mine)] at run
          exact ⟨w, same', given, t', run⟩
      obtain ⟨given, t, rest⟩ := ih (shares.fine input inputs s answer u begins taken) solos'
      refine ⟨answer :: given, t, ?_⟩
      rw [serve, bind_ok _ taken, bind_ok _ rest]
      rfl

end Shares

end ZynqmpDma.Base
