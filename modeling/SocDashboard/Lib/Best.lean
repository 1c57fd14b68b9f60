/-
# The best item of every key

A loop reads items and keeps one for each key in a dictionary: an item takes
the place of a kept one that scores less. Some items have no key and are
skipped. After the loop every key that occurred holds an item of the highest
score of its key (`holds_foldl`); where items of one key and one score are the
same, the order in which they were read shows only in the order of the entries
(`perm_foldl`).

Key definitions: `Best.keep`, `Best.Holds`.
Key theorems: `Best.Holds.keep`, `Best.holds_foldl`, `Best.perm_foldl`.
-/
import Mathlib.Order.Lattice
import SocDashboard.Lib.Dict

namespace Best

open Dict

variable {α κ ν σ : Type*} [DecidableEq κ] [LinearOrder σ]

section Loop

variable (key : α → Option κ) (value : α → ν) (score : ν → σ)

/-- One item: it is kept under its key, unless what is there scores as much. -/
def keep (d : Dict κ ν) (x : α) : Dict κ ν :=
  match key x with
  | none => d
  | some k => if (getItem d k).all fun v => score v < score (value x) then setItem d k (value x) else d

/-- The dictionary holds an item of the highest score under every key that occurs in `xs`. -/
structure Holds (xs : List α) (d : Dict κ ν) : Prop where
  nodup : (keys d).Nodup
  item : ∀ k v, getItem d k = some v → ∃ x ∈ xs, key x = some k ∧ value x = v
  best : ∀ x ∈ xs, ∀ k, key x = some k → ∃ v, getItem d k = some v ∧ score (value x) ≤ score v

end Loop

variable {key : α → Option κ} {value : α → ν} {score : ν → σ} {xs ys : List α} {d d' : Dict κ ν}

theorem holds_nil : Holds key value score [] [] where
  nodup := List.nodup_nil
  item := nofun
  best := nofun

/-- Only which items there are matters. -/
theorem Holds.of_perm (h : Holds key value score xs d) (hp : xs.Perm ys) : Holds key value score ys d where
  nodup := h.nodup
  item := fun k v hv => by
    obtain ⟨x, hx, hkey⟩ := h.item k v hv
    exact ⟨x, hp.mem_iff.mp hx, hkey⟩
  best := fun x hx => h.best x (hp.mem_iff.mpr hx)

/-- An item that scores no more than what is there changes nothing. -/
theorem Holds.skip (h : Holds key value score xs d) {x : α}
    (hx : ∀ k, key x = some k → ∃ v, getItem d k = some v ∧ score (value x) ≤ score v) :
    Holds key value score (x :: xs) d where
  nodup := h.nodup
  item := fun k v hv => by
    obtain ⟨y, hy, hkey⟩ := h.item k v hv
    exact ⟨y, List.mem_cons_of_mem x hy, hkey⟩
  best := fun y hy k hk => by
    rcases List.mem_cons.mp hy with rfl | hy
    · exact hx k hk
    · exact h.best y hy k hk

/-- One that scores more takes the place under its key. -/
theorem Holds.replace (h : Holds key value score xs d) {x : α} {k : κ} (hx : key x = some k)
    (hmore : ∀ v, getItem d k = some v → score v < score (value x)) :
    Holds key value score (x :: xs) (setItem d k (value x)) where
  nodup := nodup_setItem h.nodup k (value x)
  item := fun k' v hv => by
    rw [getItem_setItem] at hv
    by_cases hk : k = k'
    · rw [if_pos hk] at hv
      exact ⟨x, List.mem_cons_self, hk ▸ hx, Option.some.inj hv⟩
    · rw [if_neg hk] at hv
      obtain ⟨y, hy, hkey⟩ := h.item k' v hv
      exact ⟨y, List.mem_cons_of_mem x hy, hkey⟩
  best := fun y hy k' hk' => by
    rw [getItem_setItem]
    by_cases hk : k = k'
    · refine ⟨value x, if_pos hk, ?_⟩
      rcases List.mem_cons.mp hy with rfl | hy
      · exact le_rfl
      · obtain ⟨v, hv, hle⟩ := h.best y hy k' hk'
        exact hle.trans (hmore v (hk ▸ hv)).le
    · rw [if_neg hk]
      rcases List.mem_cons.mp hy with rfl | hy
      · exact absurd (Option.some.inj (hx.symm.trans hk')) hk
      · exact h.best y hy k' hk'

/-- **What one item preserves.** -/
theorem Holds.keep (h : Holds key value score xs d) (x : α) :
    Holds key value score (x :: xs) (keep key value score d x) := by
  rw [Best.keep]
  cases hx : key x with
  | none =>
    apply h.skip
    intro k hk
    rw [hx] at hk
    cases hk
  | some k =>
    by_cases hall : (getItem d k).all (fun v => decide (score v < score (value x))) = true
    · simp only [hall, if_true]
      apply h.replace hx
      intro v hv
      rw [hv] at hall
      exact of_decide_eq_true hall
    · simp only [hall, Bool.false_eq_true, if_false]
      apply h.skip
      intro k' hk'
      obtain rfl : k = k' := Option.some.inj (hx.symm.trans hk')
      cases hv : getItem d k with
      | none => simp [hv] at hall
      | some v =>
        rw [hv] at hall
        exact ⟨v, rfl, not_lt.mp fun hlt => hall (decide_eq_true hlt)⟩

/-- **What the loop leaves.** -/
theorem holds_foldl (xs : List α) : Holds key value score xs (xs.foldl (Best.keep key value score) []) := by
  have general : ∀ (xs ys : List α) (d : Dict κ ν), Holds key value score ys d →
      Holds key value score (xs.reverse ++ ys) (xs.foldl (Best.keep key value score) d) := by
    intro xs
    induction xs with
    | nil => exact fun ys d h => h
    | cons x xs ih =>
      intro ys d h
      rw [List.reverse_cons, List.append_assoc, List.singleton_append]
      exact ih (x :: ys) _ (h.keep x)
  have hloop := general xs [] [] holds_nil
  rw [List.append_nil] at hloop
  exact hloop.of_perm xs.reverse_perm

/-- What is held is determined, when items of one key and one score have one value. -/
theorem Holds.getItem_eq (h : Holds key value score xs d) (h' : Holds key value score xs d')
    (hties : ∀ x ∈ xs, ∀ y ∈ xs, ∀ k, key x = some k → key y = some k →
      score (value x) = score (value y) → value x = value y) (k : κ) : getItem d k = getItem d' k := by
  have hsome : ∀ {d d' : Dict κ ν}, Holds key value score xs d → Holds key value score xs d' →
      ∀ v, getItem d k = some v → getItem d' k = some v := by
    intro d d' h h' v hv
    obtain ⟨x, hx, hkx, rfl⟩ := h.item k v hv
    obtain ⟨v', hv', hle⟩ := h'.best x hx k hkx
    obtain ⟨y, hy, hky, rfl⟩ := h'.item k v' hv'
    obtain ⟨v'', hv'', hle'⟩ := h.best y hy k hky
    obtain rfl := Option.some.inj (hv.symm.trans hv'')
    rw [hv', hties x hx y hy k hkx hky (le_antisymm hle hle')]
  cases hd : getItem d k with
  | some v => exact (hsome h h' v hd).symm
  | none =>
    cases hd' : getItem d' k with
    | none => rfl
    | some v => exact absurd (hsome h' h v hd') (by simp [hd])

/-- **The order of the items shows only in that of the entries.** -/
theorem perm_foldl (hp : xs.Perm ys)
    (hties : ∀ x ∈ xs, ∀ y ∈ xs, ∀ k, key x = some k → key y = some k →
      score (value x) = score (value y) → value x = value y) :
    (xs.foldl (Best.keep key value score) []).Perm (ys.foldl (Best.keep key value score) []) := by
  have hx : Holds key value score xs (xs.foldl (Best.keep key value score) []) := holds_foldl xs
  have hy : Holds key value score xs (ys.foldl (Best.keep key value score) []) :=
    (holds_foldl ys).of_perm hp.symm
  exact perm_of_getItem hx.nodup hy.nodup (hx.getItem_eq hy hties)

end Best
