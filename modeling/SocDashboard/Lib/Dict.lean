/-
# Dictionaries that keep the order of insertion

A dictionary is a list of entries with distinct keys, in the order in which
the keys came in; setting a key that is there replaces its value in place.
Two dictionaries with the same items are permutations of each other, which is
when a language with dictionaries calls them equal.

Counting with a dictionary (`count`) is `bump` over a list: every key is there
exactly when it occurs, with the number of its occurrences.

Key definitions: `Dict`, `getItem`, `setItem`, `bump`, `count`.
Key theorems: `getItem_setItem`, `nodup_setItem`, `foldl_setItem`, `mem_count`,
`sum_count`.
-/
import Mathlib.Data.List.Nodup
import Mathlib.Data.List.Perm.Basic
import Mathlib.Algebra.BigOperators.Group.List.Basic
import Mathlib.Algebra.GroupWithZero.Nat

abbrev Dict (κ ν : Type*) := List (κ × ν)

namespace Dict

variable {κ ν : Type*} [DecidableEq κ]

/-- `d.get(k)`. -/
def getItem : Dict κ ν → κ → Option ν
  | [], _ => none
  | e :: d, k => if e.1 = k then some e.2 else getItem d k

/-- `d[k] = v`. -/
def setItem : Dict κ ν → κ → ν → Dict κ ν
  | [], k, v => [(k, v)]
  | e :: d, k, v => if e.1 = k then (k, v) :: d else e :: setItem d k v

def keys (d : Dict κ ν) : List κ := d.map Prod.fst

/-- `d[k] = d.get(k, 0) + 1`. -/
def bump (d : Dict κ ℕ) (k : κ) : Dict κ ℕ := setItem d k ((getItem d k).getD 0 + 1)

/-- How often each key occurs. -/
def count (ks : List κ) : Dict κ ℕ := ks.foldl bump []

theorem getItem_setItem (d : Dict κ ν) (k k' : κ) (v : ν) :
    getItem (setItem d k v) k' = if k = k' then some v else getItem d k' := by
  induction d with
  | nil => rfl
  | cons e d ih =>
    rw [setItem]
    split_ifs with he hk hk
    · rw [getItem, if_pos hk]
    · subst he
      rw [getItem, getItem, if_neg hk, if_neg hk]
    · subst hk
      rw [getItem, if_neg he, ih, if_pos rfl]
    · rw [getItem, getItem, ih, if_neg hk]

theorem lookup_eq_getItem [BEq κ] [LawfulBEq κ] (d : Dict κ ν) (k : κ) : d.lookup k = getItem d k := by
  induction d with
  | nil => rfl
  | cons e d ih =>
    rw [List.lookup_cons, getItem, ih]
    by_cases he : e.1 = k
    · simp [he]
    · rw [beq_false_of_ne (Ne.symm he), if_neg he]

theorem mem_keys_setItem {d : Dict κ ν} {k k' : κ} {v : ν} : k' ∈ keys (setItem d k v) ↔ k' = k ∨ k' ∈ keys d := by
  induction d with
  | nil => simp [setItem, keys]
  | cons e d ih =>
    unfold keys at ih
    rw [setItem]
    split_ifs with he
    · subst he
      simp [keys]
    · simp only [keys, List.map_cons, List.mem_cons, ih]
      tauto

theorem nodup_setItem {d : Dict κ ν} (h : (keys d).Nodup) (k : κ) (v : ν) : (keys (setItem d k v)).Nodup := by
  induction d with
  | nil => simp [setItem, keys]
  | cons e d ih =>
    obtain ⟨hne, hd⟩ := List.nodup_cons.mp h
    rw [setItem]
    split_ifs with he
    · subst he
      exact List.nodup_cons.mpr ⟨hne, hd⟩
    · refine List.nodup_cons.mpr ⟨?_, ih hd⟩
      rw [← keys, mem_keys_setItem, not_or]
      exact ⟨he, hne⟩

/-- A key that is not there is added at the end. -/
theorem setItem_of_not_mem {d : Dict κ ν} {k : κ} (h : k ∉ keys d) (v : ν) : setItem d k v = d ++ [(k, v)] := by
  induction d with
  | nil => rfl
  | cons e d ih =>
    simp only [keys, List.map_cons, List.mem_cons, not_or] at h
    rw [setItem, if_neg (Ne.symm h.1), ih h.2, List.cons_append]

/-- Entries with distinct keys, set one after another, are the dictionary. -/
theorem foldl_setItem {es : Dict κ ν} (h : (keys es).Nodup) :
    es.foldl (fun d e => setItem d e.1 e.2) [] = es := by
  have general : ∀ (es d : Dict κ ν), (keys (d ++ es)).Nodup →
      es.foldl (fun d e => setItem d e.1 e.2) d = d ++ es := by
    intro es
    induction es with
    | nil => exact fun d _ => (List.append_nil d).symm
    | cons e es ih =>
      intro d hd
      have hnot : e.1 ∉ keys d := by
        rw [keys, List.map_append] at hd
        exact fun hmem => (List.nodup_append.mp hd).2.2 e.1 hmem e.1 List.mem_cons_self rfl
      rw [List.foldl_cons, setItem_of_not_mem hnot, ih]
      · rw [List.append_assoc, List.singleton_append]
      · rwa [List.append_assoc, List.singleton_append]
  exact general es [] h

section Build

variable {α : Type*} {f : α → κ} {v : α → ν}

/-- Every entry that was set is there under its key, as the last one of the key left it. -/
theorem mem_keys_foldl {xs : List α} {k : κ} :
    k ∈ keys (xs.foldl (fun d x => setItem d (f x) (v x)) []) ↔ ∃ x ∈ xs, f x = k := by
  have general : ∀ (xs : List α) (d : Dict κ ν),
      k ∈ keys (xs.foldl (fun d x => setItem d (f x) (v x)) d) ↔ k ∈ keys d ∨ ∃ x ∈ xs, f x = k := by
    intro xs
    induction xs with
    | nil => simp
    | cons x xs ih =>
      intro d
      rw [List.foldl_cons, ih, mem_keys_setItem]
      simp only [List.mem_cons, exists_eq_or_imp, eq_comm (a := k)]
      tauto
  simpa [keys] using general xs []

theorem mem_setItem_self (d : Dict κ ν) (k : κ) (y : ν) : (k, y) ∈ setItem d k y := by
  induction d with
  | nil => exact List.mem_singleton.mpr rfl
  | cons x d ih =>
    rw [setItem]
    split_ifs with hx
    · exact List.mem_cons_self
    · exact List.mem_cons_of_mem _ ih

theorem mem_setItem {d : Dict κ ν} {k : κ} {y : ν} {e : κ × ν} (h : e ∈ setItem d k y) :
    e = (k, y) ∨ e ∈ d := by
  induction d with
  | nil => exact .inl (List.mem_singleton.mp h)
  | cons x d ih =>
    rw [setItem] at h
    split_ifs at h with hx
    · rcases List.mem_cons.mp h with h | h
      · exact .inl h
      · exact .inr (List.mem_cons_of_mem _ h)
    · rcases List.mem_cons.mp h with h | h
      · exact .inr (h ▸ List.mem_cons_self)
      · exact (ih h).imp_right (List.mem_cons_of_mem _)

/-- An entry of a dictionary built so was set. -/
theorem exists_of_mem_foldl {xs : List α} {e : κ × ν}
    (h : e ∈ xs.foldl (fun d x => setItem d (f x) (v x)) []) : ∃ x ∈ xs, e = (f x, v x) := by
  have general : ∀ (xs : List α) (d : Dict κ ν),
      e ∈ xs.foldl (fun d x => setItem d (f x) (v x)) d → e ∈ d ∨ ∃ x ∈ xs, e = (f x, v x) := by
    intro xs
    induction xs with
    | nil => exact fun d hd => .inl hd
    | cons x xs ih =>
      intro d hd
      rcases ih _ hd with hset | ⟨y, hy, he⟩
      · rcases mem_setItem hset with rfl | hmem
        · exact .inr ⟨x, List.mem_cons_self, rfl⟩
        · exact .inl hmem
      · exact .inr ⟨y, List.mem_cons_of_mem _ hy, he⟩
  rcases general xs [] h with hnil | hset
  · exact absurd hnil List.not_mem_nil
  · exact hset

end Build

/-- The value of a key, as an entry. -/
theorem mem_iff_getItem {d : Dict κ ν} (h : (keys d).Nodup) {e : κ × ν} : e ∈ d ↔ getItem d e.1 = some e.2 := by
  induction d with
  | nil => simp [getItem]
  | cons x d ih =>
    obtain ⟨hne, hd⟩ := List.nodup_cons.mp h
    rw [List.mem_cons, ih hd, getItem]
    by_cases hx : x.1 = e.1
    · have hnone : ¬getItem d e.1 = some e.2 := by
        intro hg
        exact hne (hx ▸ List.mem_map_of_mem ((ih hd).mpr hg))
      rw [if_pos hx, Option.some.injEq]
      constructor
      · rintro (rfl | hg)
        · rfl
        · exact absurd hg hnone
      · intro hv
        exact Or.inl (Prod.ext hx.symm hv.symm)
    · rw [if_neg hx]
      constructor
      · rintro (rfl | hg)
        · exact absurd rfl hx
        · exact hg
      · exact Or.inr

theorem getItem_map {μ : Type*} (f : ν → μ) (d : Dict κ ν) (k : κ) :
    getItem (d.map fun e => (e.1, f e.2)) k = (getItem d k).map f := by
  induction d with
  | nil => rfl
  | cons e d ih =>
    rw [List.map_cons, getItem, getItem, ih]
    split_ifs <;> rfl

theorem setItem_map {μ : Type*} (f : ν → μ) (d : Dict κ ν) (k : κ) (v : ν) :
    setItem (d.map fun e => (e.1, f e.2)) k (f v) = (setItem d k v).map fun e => (e.1, f e.2) := by
  induction d with
  | nil => rfl
  | cons e d ih =>
    rw [List.map_cons, setItem, setItem, ih]
    split_ifs <;> rfl

/-- Dictionaries with the same items are permutations of each other. -/
theorem perm_of_getItem {d d' : Dict κ ν} (h : (keys d).Nodup) (h' : (keys d').Nodup)
    (heq : ∀ k, getItem d k = getItem d' k) : d.Perm d' := by
  rw [List.perm_ext_iff_of_nodup h.of_map h'.of_map]
  intro e
  rw [mem_iff_getItem h, mem_iff_getItem h', heq]

/-! ### Counting -/

theorem nodup_bumps {d : Dict κ ℕ} (h : (keys d).Nodup) (ks : List κ) : (keys (ks.foldl bump d)).Nodup := by
  induction ks generalizing d with
  | nil => exact h
  | cons k ks ih => exact ih (nodup_setItem h k _)

theorem nodup_count (ks : List κ) : (keys (count ks)).Nodup :=
  nodup_bumps (show (keys ([] : Dict κ ℕ)).Nodup from List.nodup_nil) ks

theorem getItem_bumps (d : Dict κ ℕ) (ks : List κ) (k : κ) :
    getItem (ks.foldl bump d) k = if ks.count k = 0 then getItem d k else some ((getItem d k).getD 0 + ks.count k) := by
  induction ks generalizing d with
  | nil => simp
  | cons x ks ih =>
    rw [List.foldl_cons, ih, bump, getItem_setItem, List.count_cons]
    by_cases hx : x = k
    · subst hx
      have hone : (if x == x then 1 else 0) = 1 := by simp
      rw [if_pos rfl, hone, if_neg (Nat.succ_ne_zero _), Option.getD_some]
      split_ifs with h0
      · rw [h0]
      · congr 1
        omega
    · have hzero : (if x == k then 1 else 0) = 0 := by simp [hx]
      rw [if_neg hx, hzero, Nat.add_zero]

/-- A key is there when it occurs, with the number of its occurrences. -/
theorem getItem_count (ks : List κ) (k : κ) :
    getItem (count ks) k = if ks.count k = 0 then none else some (ks.count k) := by
  rw [count, getItem_bumps]
  simp [getItem]

/-- The entries of the counts. -/
theorem mem_count {ks : List κ} {e : κ × ℕ} : e ∈ count ks ↔ e.1 ∈ ks ∧ e.2 = ks.count e.1 := by
  rw [mem_iff_getItem (nodup_count ks), getItem_count, ← List.count_pos_iff]
  split_ifs with h
  · simp [h]
  · rw [Option.some.injEq]
    constructor
    · rintro he
      exact ⟨Nat.pos_of_ne_zero h, he.symm⟩
    · rintro ⟨-, he⟩
      exact he.symm

/-- The same keys in another order are counted alike. -/
theorem count_perm {ks ks' : List κ} (h : ks.Perm ks') : (count ks).Perm (count ks') :=
  perm_of_getItem (nodup_count ks) (nodup_count ks') fun k => by
    rw [getItem_count, getItem_count, h.count_eq]

theorem sum_setItem (d : Dict κ ℕ) (k : κ) (n : ℕ) :
    ((setItem d k ((getItem d k).getD 0 + n)).map Prod.snd).sum = (d.map Prod.snd).sum + n := by
  induction d with
  | nil => simp [setItem, getItem]
  | cons e d ih =>
    rw [getItem, setItem]
    split_ifs with he
    · simp only [List.map_cons, List.sum_cons, Option.getD_some]
      omega
    · simp only [List.map_cons, List.sum_cons, ih]
      omega

/-- The counts add up to the number of occurrences counted. -/
theorem sum_count (ks : List κ) : ((count ks).map Prod.snd).sum = ks.length := by
  have general : ∀ (ks : List κ) (d : Dict κ ℕ),
      ((ks.foldl bump d).map Prod.snd).sum = (d.map Prod.snd).sum + ks.length := by
    intro ks
    induction ks with
    | nil => exact fun _ => rfl
    | cons k ks ih =>
      intro d
      rw [List.foldl_cons, ih, bump, sum_setItem, List.length_cons]
      omega
  simpa [count] using general ks []

end Dict
