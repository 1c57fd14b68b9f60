/-
# A partitioned log read by one consumer group

Messages are appended to the logs of partitions `κ`. A consumer polls them in
order, one at a time; polling makes the offset eligible, and the eligible
offset is committed at any later moment. What became of a message that was
handed out is its fate `φ`, noted when the consumer is done with it. A
consumer that stops keeps what is eligible, one that crashes does not, and one
that starts again resumes from the committed offsets.

Committing says nothing about the fate. What does hold of any run is that no
offset is skipped (`Kept.accounted`): below the committed offset every message
has a fate or is the one in hand.

Key definitions: `Group`, `poll`, `commit`, `settle`, `crash`, `restart`,
`Kept`.
Key theorems: `Kept.poll`, `Kept.restart`, `Kept.accounted`.
-/
import Mathlib.Data.List.Basic
import Mathlib.Logic.Function.Basic

namespace OffsetLog

variable {κ μ φ : Type}

structure Group (κ μ φ : Type) where
  log : κ → List μ
  committed : κ → ℕ
  /-- The offset that a commit would write. -/
  eligible : κ → ℕ
  /-- The offset that the next poll returns. -/
  position : κ → ℕ
  handling : Option (κ × ℕ)
  alive : Bool
  /-- What became of the messages that were handed out, in order. -/
  fates : List ((κ × ℕ) × φ)

namespace Group

/-- Nothing produced, nothing read. -/
def start : Group κ μ φ := ⟨fun _ => [], fun _ => 0, fun _ => 0, fun _ => 0, none, true, []⟩

/-- The message in hand is done with, as `f`. -/
def settle (f : φ) (g : Group κ μ φ) : Group κ μ φ :=
  match g.handling with
  | none => g
  | some slot => { g with handling := none, fates := g.fates ++ [(slot, f)] }

/-- The consumer ends in an orderly way. -/
def stop (g : Group κ μ φ) : Group κ μ φ := { g with alive := false }

/-- The process dies, with `f` for the message in hand. -/
def crash (f : φ) (g : Group κ μ φ) : Group κ μ φ :=
  { g.settle f with alive := false, eligible := g.committed }

def restart (g : Group κ μ φ) : Group κ μ φ :=
  if g.alive = true ∨ g.handling.isSome then g
  else { g with alive := true, position := g.committed, eligible := g.committed }

/-- The message in hand. -/
def inHand (g : Group κ μ φ) : Option μ :=
  g.handling.bind fun (p, n) => (g.log p)[n]?

variable [DecidableEq κ]

def produce (p : κ) (m : μ) (g : Group κ μ φ) : Group κ μ φ :=
  { g with log := Function.update g.log p (g.log p ++ [m]) }

/-- The next message of `p`, when the consumer has none in hand. -/
def poll (p : κ) (g : Group κ μ φ) : Group κ μ φ :=
  if g.alive = true ∧ g.handling = none ∧ g.position p < (g.log p).length then
    { g with
      handling := some (p, g.position p)
      position := Function.update g.position p (g.position p + 1)
      eligible := Function.update g.eligible p (g.position p + 1) }
  else g

def commit (p : κ) (g : Group κ μ φ) : Group κ μ φ :=
  { g with committed := Function.update g.committed p (g.eligible p) }

variable {g : Group κ μ φ}

theorem log_le_produce (p q : κ) (m : μ) : (g.log q).length ≤ ((g.produce p m).log q).length := by
  unfold Group.produce
  by_cases h : q = p
  · subst h
    simp
  · simp [Function.update_of_ne h]

/-- What is in the log stays where it is. -/
theorem getElem?_produce {p q : κ} {n : ℕ} {x m : μ} (h : (g.log q)[n]? = some x) :
    ((g.produce p m).log q)[n]? = some x := by
  unfold Group.produce
  by_cases hq : q = p
  · subst hq
    simp only [Function.update_self]
    rw [List.getElem?_append_left (List.getElem?_eq_some_iff.mp h).1]
    exact h
  · simpa only [Function.update_of_ne hq] using h

end Group

/-! ### What every step keeps -/

/-- Offsets are in order, and what was polled is in hand or has a fate. -/
structure Kept (g : Group κ μ φ) : Prop where
  committed : ∀ p, g.committed p ≤ g.eligible p
  eligible : ∀ p, g.eligible p ≤ g.position p
  position : ∀ p, g.position p ≤ (g.log p).length
  seen : ∀ p n, n < g.position p → g.handling = some (p, n) ∨ ∃ f, ((p, n), f) ∈ g.fates
  inHand : ∀ p n, g.handling = some (p, n) → n < (g.log p).length
  fates : ∀ p n f, ((p, n), f) ∈ g.fates → n < (g.log p).length

namespace Kept

variable {g : Group κ μ φ}

theorem start : Kept (Group.start : Group κ μ φ) where
  committed _ := Nat.le_refl 0
  eligible _ := Nat.le_refl 0
  position _ := Nat.le_refl 0
  seen _ _ h := absurd h (Nat.not_lt_zero _)
  inHand _ _ h := by simp [Group.start] at h
  fates _ _ _ h := by simp [Group.start] at h

theorem settle (h : Kept g) (f : φ) : Kept (g.settle f) := by
  unfold Group.settle
  cases hh : g.handling with
  | none => simpa only [hh] using h
  | some slot =>
    refine ⟨h.committed, h.eligible, h.position, fun p n hn => Or.inr ?_, fun p n hp => ?_, fun p n f' hf => ?_⟩
    · rcases h.seen p n hn with hs | ⟨f', hf⟩
      · rw [hh, Option.some.injEq] at hs
        exact ⟨f, List.mem_append_right _ (by simp [hs])⟩
      · exact ⟨f', List.mem_append_left _ hf⟩
    · exact absurd hp (by simp)
    · rcases List.mem_append.mp hf with hf | hf
      · exact h.fates p n f' hf
      · obtain ⟨rfl, -⟩ := Prod.mk.inj (List.mem_singleton.mp hf)
        exact h.inHand p n hh

theorem stop (h : Kept g) : Kept g.stop := ⟨h.committed, h.eligible, h.position, h.seen, h.inHand, h.fates⟩

theorem crash (h : Kept g) (f : φ) : Kept (g.crash f) := by
  have hs := h.settle f
  have hc : (g.settle f).committed = g.committed := by
    unfold Group.settle
    cases g.handling <;> rfl
  refine ⟨fun p => ?_, fun p => ?_, hs.position, hs.seen, hs.inHand, hs.fates⟩
  · have hp : (g.settle f).committed p = g.committed p := by rw [hc]
    exact Nat.le_of_eq hp
  · have h1 := hs.committed p
    have h2 := hs.eligible p
    rw [hc] at h1
    exact Nat.le_trans h1 h2

theorem restart (h : Kept g) : Kept g.restart := by
  unfold Group.restart
  split_ifs
  · exact h
  · have hle : ∀ p, g.committed p ≤ g.position p := fun p =>
      Nat.le_trans (h.committed p) (h.eligible p)
    refine ⟨fun p => Nat.le_refl _, fun p => Nat.le_refl _, fun p => ?_, fun p n hn => ?_, h.inHand, h.fates⟩
    · exact Nat.le_trans (hle p) (h.position p)
    · exact h.seen p n (Nat.lt_of_lt_of_le hn (hle p))

section Partitions

variable [DecidableEq κ]

theorem produce (h : Kept g) (p : κ) (m : μ) : Kept (g.produce p m) where
  committed := h.committed
  eligible := h.eligible
  position q := Nat.le_trans (h.position q) (Group.log_le_produce p q m)
  seen := h.seen
  inHand q n hq := Nat.lt_of_lt_of_le (h.inHand q n hq) (Group.log_le_produce p q m)
  fates q n f hf := Nat.lt_of_lt_of_le (h.fates q n f hf) (Group.log_le_produce p q m)

theorem poll (h : Kept g) (p : κ) : Kept (g.poll p) := by
  unfold Group.poll
  split_ifs with hc
  · obtain ⟨-, hnone, hlt⟩ := hc
    refine ⟨fun q => ?_, fun q => ?_, fun q => ?_, fun q n hn => ?_, fun q n hq => ?_, h.fates⟩
    · by_cases hq : q = p
      · subst hq
        have h1 := h.committed q
        have h2 := h.eligible q
        simp only [Function.update_self]
        omega
      · simpa only [Function.update_of_ne hq] using h.committed q
    · by_cases hq : q = p
      · subst hq
        simp
      · simpa only [Function.update_of_ne hq] using h.eligible q
    · by_cases hq : q = p
      · subst hq
        simp only [Function.update_self]
        omega
      · simpa only [Function.update_of_ne hq] using h.position q
    · have hold : ∀ n, n < g.position q → ∃ f, ((q, n), f) ∈ g.fates := by
        intro k hk
        rcases h.seen q k hk with hh | hf
        · rw [hnone] at hh
          exact absurd hh (Option.some_ne_none _).symm
        · exact hf
      by_cases hq : q = p
      · subst hq
        simp only [Function.update_self] at hn
        -- the offset just polled is in hand, the others have their fates
        rcases Nat.lt_succ_iff_lt_or_eq.mp hn with hn | rfl
        · exact Or.inr (hold n hn)
        · exact Or.inl rfl
      · simp only [Function.update_of_ne hq] at hn
        exact Or.inr (hold n hn)
    · obtain ⟨rfl, rfl⟩ := Prod.mk.inj (Option.some.inj hq)
      exact hlt
  · exact h

theorem commit (h : Kept g) (p : κ) : Kept (g.commit p) where
  committed q := by
    unfold Group.commit
    by_cases hq : q = p
    · subst hq
      simp
    · simpa only [Function.update_of_ne hq] using h.committed q
  eligible := h.eligible
  position := h.position
  seen := h.seen
  inHand := h.inHand
  fates := h.fates

end Partitions

/-- **No offset is skipped.** Below the committed offset a message is in hand or has a fate. -/
theorem accounted (h : Kept g) {p : κ} {n : ℕ} (hn : n < g.committed p) :
    g.handling = some (p, n) ∨ ∃ f, ((p, n), f) ∈ g.fates :=
  h.seen p n (Nat.lt_of_lt_of_le hn (Nat.le_trans (h.committed p) (h.eligible p)))

end Kept

end OffsetLog
