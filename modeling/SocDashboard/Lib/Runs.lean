/-
# Runs of a step function

A system is a step function `step : σ → α → σ` on labels `α`. A label that is
not enabled leaves the state as it is, so every list of labels is a run, and
"every interleaving" is "every list". `Always P` says that `P` holds in every
state of the run, `EachStep G` that every step is taken from a state and with
a label that satisfy `G`.

Two rules say exactly when a property survives a run. If a step from a good
state is good exactly when it meets the guard, then the whole run is good
exactly when every step meets it (`always_iff_eachStep`). If the first step
that misses the guard puts the system where it stays, the final state tells
whether one did (`good_or_bad`).

Key definitions: `run`, `gain`, `Always`, `EachStep`.
Key theorems: `run_inv`, `run_gain`, `always_iff_eachStep`, `run_related`, `good_or_bad`.
-/
import Mathlib.Data.List.Basic
import Mathlib.Tactic.Ring

namespace Runs

variable {σ α : Type*} (step : σ → α → σ)

/-- The state after the labels `as`. -/
def run (s : σ) (as : List α) : σ := as.foldl step s

/-- `P` holds in every state of the run, the first and the last included. -/
def Always (P : σ → Prop) : σ → List α → Prop
  | s, [] => P s
  | s, a :: as => P s ∧ Always P (step s a) as

/-- Every step of the run is taken where `G` allows it. -/
def EachStep (G : σ → α → Prop) : σ → List α → Prop
  | _, [] => True
  | s, a :: as => G s a ∧ EachStep G (step s a) as

@[simp] theorem run_nil (s : σ) : run step s [] = s := rfl

@[simp] theorem run_cons (s : σ) (a : α) (as : List α) :
    run step s (a :: as) = run step (step s a) as := rfl

theorem run_append (s : σ) (as bs : List α) : run step s (as ++ bs) = run step (run step s as) bs :=
  List.foldl_append

/-- **The invariant rule.** What every step keeps, every run keeps. -/
theorem run_inv {I : σ → Prop} (h : ∀ s a, I s → I (step s a)) :
    ∀ (as : List α) (s : σ), I s → I (run step s as)
  | [], _, hs => hs
  | a :: as, s, hs => run_inv h as (step s a) (h s a hs)

/-- What the steps of a run change a quantity by, added up. -/
def gain (f : σ → α → ℤ) : σ → List α → ℤ
  | _, [] => 0
  | s, a :: as => f s a + gain f (step s a) as

/-- **The accounting rule.** A quantity that every step changes by `f` is, after
a run, what it was and what the steps changed it by. -/
theorem run_gain {I : σ → Prop} {m : σ → ℤ} {f : σ → α → ℤ} (hI : ∀ s a, I s → I (step s a))
    (h : ∀ s a, I s → m (step s a) = m s + f s a) :
    ∀ (as : List α) (s : σ), I s → m (run step s as) = m s + gain step f s as
  | [], s, _ => by simp [gain]
  | a :: as, s, hs => by
    rw [run_cons, run_gain hI h as _ (hI s a hs), h s a hs, gain]
    ring

/-- `Always` is about the states after each initial part of the run. -/
theorem always_iff {P : σ → Prop} : ∀ (as : List α) (s : σ),
    Always step P s as ↔ ∀ bs, bs <+: as → P (run step s bs)
  | [], s => by simp [Always]
  | a :: as, s => by
    simp only [Always, always_iff as (step s a)]
    constructor
    · rintro ⟨h0, h⟩ bs hbs
      cases bs with
      | nil => exact h0
      | cons b bs =>
        obtain ⟨rfl, hbs'⟩ := List.cons_prefix_cons.mp hbs
        exact h bs hbs'
    · intro h
      exact ⟨h [] List.nil_prefix, fun bs hbs => h (a :: bs) (List.cons_prefix_cons.mpr ⟨rfl, hbs⟩)⟩

theorem Always.head {P : σ → Prop} {s : σ} {as : List α} (h : Always step P s as) : P s := by
  cases as with
  | nil => exact h
  | cons a as => exact h.1

/-- **Exactly when a property holds throughout a run.** `J` is kept by every
step; from a state with `J` and `P`, a step keeps `P` exactly when it meets
`G`. Then `P` holds in every state of the run exactly when every step meets
`G`. -/
theorem always_iff_eachStep {J P : σ → Prop} {G : σ → α → Prop}
    (hJ : ∀ s a, J s → J (step s a)) (h : ∀ s a, J s → P s → (P (step s a) ↔ G s a)) :
    ∀ (as : List α) (s : σ), J s → P s → (Always step P s as ↔ EachStep step G s as)
  | [], _, _, hP => by simp [Always, EachStep, hP]
  | a :: as, s, hj, hP => by
    simp only [Always, EachStep, hP, true_and]
    constructor
    · intro hr
      have hg : G s a := (h s a hj hP).mp (Always.head step hr)
      exact ⟨hg, (always_iff_eachStep hJ h as _ (hJ s a hj) ((h s a hj hP).mpr hg)).mp hr⟩
    · rintro ⟨hg, hr⟩
      exact (always_iff_eachStep hJ h as _ (hJ s a hj) ((h s a hj hP).mpr hg)).mpr hr

/-- **The guarded invariant rule.** What every step that meets the guard keeps, holds throughout. -/
theorem always_of_eachStep {I P : σ → Prop} {G : σ → α → Prop} (keep : ∀ s a, I s → G s a → I (step s a))
    (hP : ∀ s, I s → P s) : ∀ (as : List α) (s : σ), I s → EachStep step G s as → Always step P s as
  | [], s, hs, _ => hP s hs
  | a :: as, s, hs, hall => ⟨hP s hs, always_of_eachStep keep hP as _ (keep s a hs hall.1) hall.2⟩

theorem eachStep_and {G G' : σ → α → Prop} : ∀ (as : List α) (s : σ),
    EachStep step (fun s a => G s a ∧ G' s a) s as ↔ EachStep step G s as ∧ EachStep step G' s as
  | [], _ => ⟨fun _ => ⟨trivial, trivial⟩, fun _ => trivial⟩
  | a :: as, s => by
    simp only [EachStep, eachStep_and as (step s a)]
    tauto

/-- A step that misses the guard is the last of some initial part of the run. -/
theorem exists_of_not_eachStep {G : σ → α → Prop} : ∀ (as : List α) (s : σ), ¬EachStep step G s as →
    ∃ bs a, bs ++ [a] <+: as ∧ ¬G (run step s bs) a
  | [], _, h => absurd trivial h
  | a :: as, s, h => by
    by_cases hg : G s a
    · obtain ⟨bs, b, hprefix, hb⟩ := exists_of_not_eachStep as (step s a) fun hall => h ⟨hg, hall⟩
      exact ⟨a :: bs, b, List.cons_prefix_cons.mpr ⟨rfl, hprefix⟩, hb⟩
    · exact ⟨[], a, List.cons_prefix_cons.mpr ⟨rfl, List.nil_prefix⟩, hg⟩

section Related

variable {R : σ → σ → Prop} {L : α → α → Prop} {step}
  (hstep : ∀ s s' a a', R s s' → L a a' → R (step s a) (step s' a'))

include hstep

/-- Related labels keep states related. -/
theorem run_related {as as' : List α} (h : List.Forall₂ L as as') :
    ∀ {s s' : σ}, R s s' → R (run step s as) (run step s' as') := by
  induction h with
  | nil => exact fun hs => hs
  | cons ha _ ih => exact fun hs => ih (hstep _ _ _ _ hs ha)

/-- A guard that related states and labels share is met by related runs. -/
theorem EachStep.related {G : σ → α → Prop} (hG : ∀ s s' a a', R s s' → L a a' → G s a → G s' a') {as as' : List α}
    (h : List.Forall₂ L as as') : ∀ {s s' : σ}, R s s' → EachStep step G s as → EachStep step G s' as' := by
  induction h with
  | nil => exact fun _ _ => trivial
  | cons ha _ ih => exact fun hs hall => ⟨hG _ _ _ _ hs ha hall.1, ih (hstep _ _ _ _ hs ha) hall.2⟩

end Related

/-- **The first step off the guard decides.** While every step meets `G`, `J`
is kept; the first that does not leads to `B`, which no step leaves. -/
theorem good_or_bad {J B : σ → Prop} {G : σ → α → Prop}
    (keep : ∀ s a, J s → G s a → J (step s a)) (fall : ∀ s a, J s → ¬ G s a → B (step s a))
    (stay : ∀ s a, B s → B (step s a)) :
    ∀ (as : List α) (s : σ), J s →
      (EachStep step G s as ∧ J (run step s as)) ∨ (¬ EachStep step G s as ∧ B (run step s as))
  | [], _, hj => Or.inl ⟨trivial, hj⟩
  | a :: as, s, hj => by
    by_cases hg : G s a
    · rcases good_or_bad keep fall stay as _ (keep s a hj hg) with ⟨he, h⟩ | ⟨he, h⟩
      · exact Or.inl ⟨⟨hg, he⟩, h⟩
      · exact Or.inr ⟨fun hall => he hall.2, h⟩
    · exact Or.inr ⟨fun hall => hg hall.1, run_inv step stay as _ (fall s a hj hg)⟩

end Runs
