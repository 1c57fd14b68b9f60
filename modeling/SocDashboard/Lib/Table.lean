/-
# Tables of keyed rows

A table is a list of rows in insertion order with a key on them; its rows'
keys are distinct (`Distinct`) when they come from a sequence that only counts
up. `lookup` reads the row of a key, `update` rewrites the rows of a key in
place.

Key definitions: `lookup`, `update`, `Distinct`.
Key theorems: `mem_update`, `lookup_update_self`, `countP_update`,
`Distinct.update`, `Distinct.append`.
-/
import Mathlib.Data.List.Nodup

namespace Table

variable {ρ : Type*} (key : ρ → ℕ)

def lookup (k : ℕ) (rows : List ρ) : Option ρ := rows.find? fun r => key r = k

def update (k : ℕ) (f : ρ → ρ) (rows : List ρ) : List ρ :=
  rows.map fun r => if key r = k then f r else r

/-- No two rows have one key. -/
def Distinct (rows : List ρ) : Prop := (rows.map key).Nodup

variable {key}

theorem lookup_mem {k : ℕ} {rows : List ρ} {r : ρ} (h : lookup key k rows = some r) : r ∈ rows :=
  List.mem_of_find?_eq_some h

theorem lookup_key {k : ℕ} {rows : List ρ} {r : ρ} (h : lookup key k rows = some r) : key r = k := by
  simpa using List.find?_some h

/-- Rows of one key are one row. -/
theorem Distinct.eq {rows : List ρ} (h : Distinct key rows) {r r' : ρ} (hr : r ∈ rows)
    (hr' : r' ∈ rows) (he : key r = key r') : r = r' :=
  List.inj_on_of_nodup_map h hr hr' he

theorem update_keys {f : ρ → ρ} (hf : ∀ r, key (f r) = key r) (k : ℕ) (rows : List ρ) :
    (update key k f rows).map key = rows.map key := by
  simp only [update, List.map_map]
  refine List.map_congr_left fun r _ => ?_
  simp only [Function.comp_apply]
  split_ifs
  · exact hf r
  · rfl

theorem mem_update {k : ℕ} {f : ρ → ρ} {rows : List ρ} {r : ρ} :
    r ∈ update key k f rows ↔
      (∃ r₀ ∈ rows, key r₀ = k ∧ f r₀ = r) ∨ (r ∈ rows ∧ key r ≠ k) := by
  simp only [update, List.mem_map]
  constructor
  · rintro ⟨r₀, hr₀, rfl⟩
    by_cases hk : key r₀ = k
    · exact Or.inl ⟨r₀, hr₀, hk, by simp [hk]⟩
    · exact Or.inr ⟨by simpa [hk] using hr₀, by simp [hk]⟩
  · rintro (⟨r₀, hr₀, hk, rfl⟩ | ⟨hr, hk⟩)
    · exact ⟨r₀, hr₀, by simp [hk]⟩
    · exact ⟨r, hr, by simp [hk]⟩

/-- The updated row, read back. -/
theorem lookup_update_self {f : ρ → ρ} (hf : ∀ r, key (f r) = key r) (k : ℕ) (rows : List ρ) :
    lookup key k (update key k f rows) = (lookup key k rows).map f := by
  induction rows with
  | nil => rfl
  | cons r rows ih =>
    simp only [lookup, update, List.map_cons, List.find?_cons] at ih ⊢
    by_cases hk : key r = k
    · simp [hk, hf]
    · simp [hk, ih]

/-- An update leaves the rows of other keys alone. -/
theorem lookup_update_of_ne {f : ρ → ρ} (hf : ∀ r, key (f r) = key r) {k k' : ℕ} (hk : k' ≠ k) (rows : List ρ) :
    lookup key k' (update key k f rows) = lookup key k' rows := by
  induction rows with
  | nil => rfl
  | cons r rows ih =>
    simp only [lookup, update, List.map_cons, List.find?_cons] at ih ⊢
    by_cases hr : key r = k
    · have hne : key r ≠ k' := fun h => hk (h.symm.trans hr)
      simp [hr, hf, Ne.symm hk, ih]
    · simp [hr, ih]

/-- Rows rewritten beside the key are looked up and updated as before. -/
theorem lookup_map {d : ρ → ρ} (hd : ∀ r, key (d r) = key r) (k : ℕ) (rows : List ρ) :
    lookup key k (rows.map d) = (lookup key k rows).map d := by
  rw [lookup, List.find?_map]
  simp only [Function.comp_def, hd]
  rfl

theorem update_map {d f : ρ → ρ} (hd : ∀ r, key (d r) = key r) (hf : ∀ r, f (d r) = d (f r)) (k : ℕ)
    (rows : List ρ) : update key k f (rows.map d) = (update key k f rows).map d := by
  rw [update, update, List.map_map, List.map_map]
  refine List.map_congr_left fun r _ => ?_
  rw [Function.comp_apply, Function.comp_apply, hd]
  split_ifs
  · exact hf r
  · rfl

/-- Without a row of the key nothing is updated. -/
theorem update_eq_self {k : ℕ} {f : ρ → ρ} {rows : List ρ} (h : ∀ r ∈ rows, key r ≠ k) :
    update key k f rows = rows := by
  refine (List.map_congr_left fun r hr => ?_).trans (List.map_id rows)
  rw [if_neg (h r hr), id]

/-- An update counts its row anew and no other. -/
theorem countP_update {k : ℕ} {f : ρ → ρ} {p : ρ → Bool} {rows : List ρ} {r : ρ}
    (hd : Distinct key rows) (h : lookup key k rows = some r) :
    (update key k f rows).countP p + (if p r then 1 else 0) = rows.countP p + if p (f r) then 1 else 0 := by
  induction rows with
  | nil => simp [lookup] at h
  | cons x rows ih =>
    obtain ⟨hne, hd'⟩ := List.nodup_cons.mp hd
    by_cases hk : key x = k
    · have hx : x = r := by simpa [lookup, hk] using h
      subst hx
      have hrest : update key k f rows = rows :=
        update_eq_self fun y hy he => hne (hk.trans he.symm ▸ List.mem_map_of_mem hy)
      have hcons : update key k f (x :: rows) = f x :: rows := by
        rw [update, List.map_cons, if_pos hk, ← update, hrest]
      rw [hcons, List.countP_cons, List.countP_cons]
      omega
    · have hl : lookup key k rows = some r := by simpa [lookup, hk] using h
      have hcons : update key k f (x :: rows) = x :: update key k f rows := by
        rw [update, List.map_cons, if_neg hk, ← update]
      have := ih hd' hl
      rw [hcons, List.countP_cons, List.countP_cons]
      omega

theorem Distinct.update {rows : List ρ} (h : Distinct key rows) {f : ρ → ρ}
    (hf : ∀ r, key (f r) = key r) (k : ℕ) : Distinct key (update key k f rows) := by
  unfold Distinct
  rw [update_keys hf]
  exact h

/-- A row with a key above all others joins. -/
theorem Distinct.append {rows : List ρ} (h : Distinct key rows) {r : ρ}
    (hr : ∀ x ∈ rows, key x < key r) : Distinct key (rows ++ [r]) := by
  unfold Distinct
  rw [List.map_append, List.map_singleton, List.nodup_append]
  refine ⟨h, List.nodup_singleton _, ?_⟩
  intro a ha b hb
  obtain ⟨x, hx, rfl⟩ := List.mem_map.mp ha
  rw [List.mem_singleton.mp hb]
  exact Nat.ne_of_lt (hr x hx)

theorem Distinct.filter {rows : List ρ} (h : Distinct key rows) (p : ρ → Bool) :
    Distinct key (rows.filter p) :=
  List.Nodup.sublist (List.filter_sublist.map _) h

/-- A row is found under its key. -/
theorem Distinct.lookup_mem {rows : List ρ} (h : Distinct key rows) {r : ρ} (hr : r ∈ rows) :
    lookup key (key r) rows = some r := by
  cases hfind : lookup key (key r) rows with
  | none =>
    have hne := List.find?_eq_none.mp hfind r hr
    exact absurd (decide_eq_true rfl) hne
  | some r' => rw [h.eq (Table.lookup_mem hfind) hr (Table.lookup_key hfind)]

/-- The rows of a key are the one that is looked up. -/
theorem Distinct.filter_key {rows : List ρ} (h : Distinct key rows) (k : ℕ) :
    (rows.filter fun r => key r = k) = (lookup key k rows).toList := by
  induction rows with
  | nil => rfl
  | cons r rows ih =>
    obtain ⟨hne, hrows⟩ := List.nodup_cons.mp h
    by_cases hk : key r = k
    · have hnone : (rows.filter fun x => key x = k) = [] := by
        refine List.filter_eq_nil_iff.mpr fun x hx he => ?_
        exact hne ((of_decide_eq_true he).trans hk.symm ▸ List.mem_map_of_mem hx)
      simp [lookup, hk, hnone]
    · have hrest := ih hrows
      simp only [lookup] at hrest ⊢
      simp [hk, hrest]

/-- A row is found among some of the rows when it is one of them. -/
theorem Distinct.lookup_filter {rows : List ρ} (h : Distinct key rows) (p : ρ → Bool) (k : ℕ) :
    lookup key k (rows.filter p) = (lookup key k rows).filter p := by
  cases hfind : lookup key k rows with
  | none =>
    refine List.find?_eq_none.mpr fun r hr => ?_
    exact List.find?_eq_none.mp hfind r (List.mem_of_mem_filter hr)
  | some r =>
    have hr := Table.lookup_mem hfind
    obtain rfl := Table.lookup_key hfind
    by_cases hp : p r = true
    · rw [Option.filter_some_pos hp]
      exact (h.filter p).lookup_mem (List.mem_filter.mpr ⟨hr, hp⟩)
    · rw [Option.filter_some, if_neg hp]
      refine List.find?_eq_none.mpr fun r' hr' => ?_
      obtain ⟨hm, hp'⟩ := List.mem_filter.mp hr'
      intro hk
      rw [h.eq hm hr (of_decide_eq_true hk)] at hp'
      exact hp hp'

end Table
