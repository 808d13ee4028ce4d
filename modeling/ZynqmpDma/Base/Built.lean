import ZynqmpDma.Base.Programs

namespace ZynqmpDma.Base

variable {ε σ α β : Type}

inductive Built (basic : ∀ α : Type, EStateM ε σ α → Prop) :
    ∀ {α : Type}, EStateM ε σ α → Prop
  | basic {α : Type} {x : EStateM ε σ α} (primitive : basic α x) : Built basic x
  | pure {α : Type} (a : α) : Built basic (pure a : EStateM ε σ α)
  | throw {α : Type} (e : ε) : Built basic (throw e : EStateM ε σ α)
  | bind {α β : Type} {x : EStateM ε σ α} {f : α → EStateM ε σ β} (first : Built basic x)
      (rest : ∀ a, Built basic (f a)) : Built basic (x >>= f)

inductive Alike (R : σ → σ → Prop) : EStateM.Result ε σ α → EStateM.Result ε σ α → Prop
  | ok (a : α) {s s' : σ} (related : R s s') : Alike R (.ok a s) (.ok a s')
  | error (e : ε) {s s' : σ} (related : R s s') : Alike R (.error e s) (.error e s')

/-- From related states, the program runs alike. -/
def Parallel (R : σ → σ → Prop) (x : EStateM ε σ α) : Prop :=
  ∀ s s', R s s' → Alike R (x s) (x s')

namespace Alike

variable {R R' : σ → σ → Prop} {r r' : EStateM.Result ε σ α}

theorem final (alike : Alike R r r') : R (finalState r) (finalState r') := by
  cases alike with
  | ok a related => exact related
  | error e related => exact related

theorem mono (alike : Alike R r r') (weaker : ∀ s s', R s s' → R' s s') : Alike R' r r' := by
  cases alike with
  | ok a related => exact .ok a (weaker _ _ related)
  | error e related => exact .error e (weaker _ _ related)

theorem bind {x : EStateM ε σ α} {f : α → EStateM ε σ β} {s s' : σ}
    (first : Alike R (x s) (x s')) (rest : ∀ a, Parallel R (f a)) :
    Alike R ((x >>= f) s) ((x >>= f) s') := by
  rw [bind_run, bind_run]
  generalize x s = r at first
  generalize x s' = r' at first
  cases first with
  | ok a related => exact rest a _ _ related
  | error e related => exact .error e related

end Alike

namespace Built

variable {basic basic' : ∀ α : Type, EStateM ε σ α → Prop} {x y : EStateM ε σ α}

theorem andThen {x : EStateM ε σ PUnit} {y : EStateM ε σ β} (first : Built basic x)
    (rest : Built basic y) : Built basic (x >>= fun _ => y) := .bind first fun _ => rest

theorem ite {c : Prop} [Decidable c] (yes : Built basic x) (no : Built basic y) :
    Built basic (if c then x else y) := by
  by_cases h : c
  · rw [if_pos h]
    exact yes
  · rw [if_neg h]
    exact no

theorem mono (built : Built basic x)
    (weaker : ∀ (α : Type) x, basic α x → basic' α x) : Built basic' x := by
  induction built with
  | basic primitive => exact .basic (weaker _ _ primitive)
  | pure a => exact .pure a
  | throw e => exact .throw e
  | bind first rest ih ih' => exact .bind ih ih'

theorem along {R : σ → σ → Prop} [Std.Refl R] [IsTrans σ R] (built : Built basic x)
    (steps : ∀ (α : Type) x, basic α x → ∀ s, R s (finalState (x s))) (s : σ) :
    R s (finalState (x s)) := by
  induction built generalizing s with
  | basic primitive => exact steps _ _ primitive s
  | pure a => exact Std.Refl.refl s
  | throw e => exact Std.Refl.refl s
  | @bind α β x f first rest ih ih' =>
    have taken := ih s
    rw [bind_run]
    cases run : x s with
    | ok a s' =>
      rw [run] at taken
      exact IsTrans.trans _ _ _ taken (ih' a s')
    | error e s' =>
      rw [run] at taken
      exact taken

theorem parallel {R : σ → σ → Prop} (built : Built basic x)
    (alike : ∀ (α : Type) x, basic α x → Parallel R x) : Parallel R x := by
  induction built with
  | basic primitive => exact alike _ _ primitive
  | pure a => exact fun s s' related => .ok a related
  | throw e => exact fun s s' related => .error e related
  | bind first rest ih ih' => exact fun s s' related => (ih s s' related).bind ih'

end Built

end ZynqmpDma.Base
