/-
# What one party's steps do to another's answers

A system takes labelled steps and answers them. Some labels belong to an
observer, and which ones they are may depend on the state. `seen` are the
observer's answers in a run, `own` is the run with every other step deleted.

The unwinding rule: when a relation of states makes the observer's steps be
answered alike and is kept by them, and no other step leads out of it, the
observer sees in the whole run what the run of its own steps alone would have
shown (`seen_own`), and the states at the end are related (`run_own`).

Key definitions: `seen`, `own`, `Unwinding`.
Key theorems: `Unwinding.run_own`, `Unwinding.seen_own`.
-/
import SocDashboard.Lib.Runs

namespace Interference

variable {σ α β : Type*} (step : σ → α → σ) (out : σ → α → β) (mine : σ → α → Prop)

section Definitions

variable [∀ s, DecidablePred (mine s)]

/-- The answers to the observer's steps, in order. -/
def seen : σ → List α → List β
  | _, [] => []
  | s, a :: as => if mine s a then out s a :: seen (step s a) as else seen (step s a) as

/-- The observer's steps, in order. -/
def own : σ → List α → List α
  | _, [] => []
  | s, a :: as => if mine s a then a :: own (step s a) as else own (step s a) as

end Definitions

/-- `R` relates the states that the observer cannot tell apart. -/
structure Unwinding (R : σ → σ → Prop) : Prop where
  /-- Whether a step is the observer's does not depend on what it cannot tell. -/
  mine_iff : ∀ s t a, R s t → (mine s a ↔ mine t a)
  answer : ∀ s t a, R s t → mine s a → out s a = out t a
  keep : ∀ s t a, R s t → mine s a → R (step s a) (step t a)
  /-- The other steps change nothing that the observer can tell. -/
  skip : ∀ s t a, R s t → ¬ mine s a → R (step s a) t

variable {step out mine} {R : σ → σ → Prop} [∀ s, DecidablePred (mine s)]

/-- **The other steps can be deleted**: the states reached are not told apart. -/
theorem Unwinding.run_own (h : Unwinding step out mine R) : ∀ (as : List α) (s t : σ), R s t →
    R (Runs.run step s as) (Runs.run step t (own step mine s as))
  | [], _, _, hst => hst
  | a :: as, s, t, hst => by
    by_cases hm : mine s a
    · rw [own, if_pos hm, Runs.run_cons, Runs.run_cons]
      exact h.run_own as _ _ (h.keep s t a hst hm)
    · rw [own, if_neg hm, Runs.run_cons]
      exact h.run_own as _ _ (h.skip s t a hst hm)

/-- **The other steps can be deleted**: the observer's answers are the same. -/
theorem Unwinding.seen_own (h : Unwinding step out mine R) : ∀ (as : List α) (s t : σ), R s t →
    seen step out mine s as = seen step out mine t (own step mine s as)
  | [], _, _, _ => rfl
  | a :: as, s, t, hst => by
    by_cases hm : mine s a
    · have hm' : mine t a := (h.mine_iff s t a hst).mp hm
      rw [own, if_pos hm, seen, if_pos hm, seen, if_pos hm', h.answer s t a hst hm,
        h.seen_own as _ _ (h.keep s t a hst hm)]
    · rw [own, if_neg hm, seen, if_neg hm]
      exact h.seen_own as _ _ (h.skip s t a hst hm)

end Interference
