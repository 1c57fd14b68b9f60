/-
# Two computations side by side

`Simulates S Q x y`: started in stores that `S` relates, `x` and `y` end alike,
both normally with results that `Q` relates or both with the same exception, and
leave stores that `S` relates. The rules follow the constructions of `Exec`, so
that two runs of one program text are compared statement by statement.

Key definitions: `SameEnd`, `Simulates`.
Key theorems: `Simulates.bind`, `Simulates.catching`, `Simulates.atomically`,
`Simulates.zoom`.
-/
import SocDashboard.Lib.Exec

namespace Exec

variable {σ τ σ' τ' ε α β γ δ : Type}

/-- Both end normally with related results, or both with the same exception. -/
inductive SameEnd (Q : α → β → Prop) : Except ε α → Except ε β → Prop
  | ok {a : α} {b : β} (h : Q a b) : SameEnd Q (.ok a) (.ok b)
  | error (e : ε) : SameEnd Q (.error e) (.error e)

theorem SameEnd.refl (x : Except ε α) : SameEnd Eq x x := by
  cases x with
  | error e => exact .error e
  | ok a => exact .ok (Eq.refl a)

/-- Pure expressions that may raise, one after another. -/
theorem SameEnd.bind {P : α → β → Prop} {Q : γ → δ → Prop} {x : Except ε α} {y : Except ε β}
    {f : α → Except ε γ} {g : β → Except ε δ} (hx : SameEnd P x y)
    (hf : ∀ a b, P a b → SameEnd Q (f a) (g b)) : SameEnd Q (x >>= f) (y >>= g) := by
  cases hx with
  | ok h => exact hf _ _ h
  | error e => exact .error e

def Simulates (S : σ → τ → Prop) (Q : α → β → Prop) (x : Exec σ ε α) (y : Exec τ ε β) : Prop :=
  ∀ s t, S s t → SameEnd Q (x s).1 (y t).1 ∧ S (x s).2 (y t).2

section Rules

variable {S : σ → τ → Prop} {P : α → β → Prop} {Q : γ → δ → Prop}

theorem Simulates.pure {a : α} {b : β} (h : P a b) :
    Simulates S P (pure a : Exec σ ε α) (pure b : Exec τ ε β) := fun _ _ hst => ⟨.ok h, hst⟩

theorem Simulates.raise (e : ε) : Simulates S P (raise e) (raise e) := fun _ _ hst => ⟨.error e, hst⟩

theorem Simulates.lift {x : Except ε α} {y : Except ε β} (h : SameEnd P x y) :
    Simulates S P (lift x) (lift y) := fun _ _ hst => ⟨h, hst⟩

theorem Simulates.gets {f : σ → α} {g : τ → β} (h : ∀ s t, S s t → P (f s) (g t)) :
    Simulates S P (gets f : Exec σ ε α) (gets g) := fun s t hst => ⟨.ok (h s t hst), hst⟩

theorem Simulates.modify {f : σ → σ} {g : τ → τ} (h : ∀ s t, S s t → S (f s) (g t)) :
    Simulates S Eq (modify f : Exec σ ε Unit) (modify g) := fun s t hst => ⟨.ok rfl, h s t hst⟩

/-- **How two runs end**: both return, or both raise the same error. -/
theorem Simulates.ends {x : Exec σ ε α} {y : Exec τ ε β} (hx : Simulates S P x y) {s : σ} {t : τ}
    (hst : S s t) :
    (∃ a b s' t', x s = (.ok a, s') ∧ y t = (.ok b, t') ∧ P a b ∧ S s' t') ∨
      ∃ e s' t', x s = (.error e, s') ∧ y t = (.error e, t') ∧ S s' t' := by
  obtain ⟨hend, hst'⟩ := hx s t hst
  rcases hxs : x s with ⟨r, s'⟩
  rcases hyt : y t with ⟨r', t'⟩
  rw [hxs, hyt] at hend hst'
  cases hend with
  | ok h => exact Or.inl ⟨_, _, s', t', rfl, rfl, h, hst'⟩
  | error e => exact Or.inr ⟨e, s', t', rfl, rfl, hst'⟩

theorem Simulates.bind {x : Exec σ ε α} {y : Exec τ ε β} {f : α → Exec σ ε γ} {g : β → Exec τ ε δ}
    (hx : Simulates S P x y) (hf : ∀ a b, P a b → Simulates S Q (f a) (g b)) :
    Simulates S Q (x >>= f) (y >>= g) := by
  intro s t hst
  rw [bind_apply, bind_apply]
  rcases hx.ends hst with ⟨a, b, s', t', hxs, hyt, hab, hst'⟩ | ⟨e, s', t', hxs, hyt, hst'⟩
  · rw [hxs, hyt]
    exact hf a b hab s' t' hst'
  · rw [hxs, hyt]
    exact ⟨.error e, hst'⟩

/-- The same pure expression on both sides. -/
theorem Simulates.lift_bind {x : Except ε α} {f : α → Exec σ ε γ} {g : α → Exec τ ε δ}
    (h : ∀ a, x = .ok a → Simulates S Q (f a) (g a)) : Simulates S Q (Exec.lift x >>= f) (Exec.lift x >>= g) := by
  cases x with
  | error e => exact fun _ _ hst => ⟨.error e, hst⟩
  | ok a => exact h a rfl

theorem Simulates.ite {p : Prop} [Decidable p] {x x' : Exec σ ε α} {y y' : Exec τ ε β}
    (h : p → Simulates S P x y) (h' : ¬p → Simulates S P x' y') :
    Simulates S P (if p then x else x') (if p then y else y') := by
  split
  · exact h ‹_›
  · exact h' ‹_›

theorem Simulates.attempt {fails : Bool} {e : ε} {x : Exec σ ε α} {y : Exec τ ε β} (h : Simulates S P x y) :
    Simulates S P (attempt fails e x) (attempt fails e y) := by
  cases fails
  · exact h
  · exact Simulates.raise e

theorem Simulates.catching {x : Exec σ ε α} {y : Exec τ ε β} {f : ε → Exec σ ε α} {g : ε → Exec τ ε β}
    (hx : Simulates S P x y) (hf : ∀ e, Simulates S P (f e) (g e)) :
    Simulates S P (catching x f) (catching y g) := by
  intro s t hst
  unfold Exec.catching
  rcases hx.ends hst with ⟨a, b, s', t', hxs, hyt, hab, hst'⟩ | ⟨e, s', t', hxs, hyt, hst'⟩
  · rw [hxs, hyt]
    exact ⟨.ok hab, hst'⟩
  · rw [hxs, hyt]
    exact hf e s' t' hst'

/-- Transaction blocks, where taking the changes back keeps the stores related. -/
theorem Simulates.atomically {back : σ → σ → σ} {back' : τ → τ → τ} {x : Exec σ ε α} {y : Exec τ ε β}
    (hb : ∀ s t s' t', S s t → S s' t' → S (back s s') (back' t t')) (hx : Simulates S P x y) :
    Simulates S P (atomically back x) (atomically back' y) := by
  intro s t hst
  unfold Exec.atomically
  rcases hx.ends hst with ⟨a, b, s', t', hxs, hyt, hab, hst'⟩ | ⟨e, s', t', hxs, hyt, hst'⟩
  · rw [hxs, hyt]
    exact ⟨.ok hab, hst'⟩
  · rw [hxs, hyt]
    exact ⟨.error e, hb s t s' t' hst hst'⟩

/-- Computations on a part of the stores. -/
theorem Simulates.zoom {S' : σ' → τ' → Prop} {get : σ' → σ} {set : σ → σ' → σ'} {get' : τ' → τ}
    {set' : τ → τ' → τ'} {x : Exec σ ε α} {y : Exec τ ε β} (hget : ∀ s t, S' s t → S (get s) (get' t))
    (hset : ∀ s t u v, S' s t → S u v → S' (set u s) (set' v t)) (hx : Simulates S P x y) :
    Simulates S' P (zoom get set x) (zoom get' set' y) := by
  intro s t hst
  obtain ⟨hend, hpart⟩ := hx (get s) (get' t) (hget s t hst)
  exact ⟨hend, hset s t _ _ hst hpart⟩

end Rules

end Exec
