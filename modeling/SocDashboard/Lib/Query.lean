/-
# Grouped, joined and ordered queries

What `GROUP BY` and `LEFT JOIN` make of lists of rows, the order of the result
being free: `groupBy` has one group for every key that occurs, `leftJoin` one
row for every pair that matches and one for every left row without a match.
Joined on the key of a grouping, every left row comes out exactly once, with
its own group (`leftJoin_groups`).

`orderBy` is `ORDER BY key`: rows of one key come in the order of a rank that
the query does not name. Every order a query with that clause may return its
rows in is `orderBy` with some rank (`exists_rank`).

With `LIMIT k` the result is the first rows (`FirstRows`), whatever the ranks.

Key definitions: `groupBy`, `leftJoin`, `orderBy`, `FirstRows`.
Key theorems: `mem_groupBy`, `groups_perm`, `groupBy_filter`, `sum_groupBy`,
`leftJoin_groups`, `orderBy_perm`, `orderBy_pairwise`, `exists_rank`, `orderBy_map`,
`firstRows_orderBy`.
-/
import Mathlib.Algebra.BigOperators.Group.List.Lemmas
import Mathlib.Algebra.GroupWithZero.Nat
import Mathlib.Data.List.Dedup
import Mathlib.Data.List.Nodup
import Mathlib.Data.List.Perm.Basic
import Mathlib.Order.Lattice

namespace Query

variable {α β γ κ : Type*} [DecidableEq κ]

/-- `GROUP BY key`, each group reduced by `agg`. -/
def groupBy (key : α → κ) (agg : List α → γ) (rows : List α) : List (κ × γ) :=
  (rows.map key).dedup.map fun k => (k, agg (rows.filter fun r => key r = k))

/-- `left LEFT JOIN right ON right.key = key left`. -/
def leftJoin (key : α → κ) (left : List α) (right : List (κ × γ)) : List (α × Option γ) :=
  left.flatMap fun a =>
    if right.any fun g => g.1 = key a then
      (right.filter fun g => g.1 = key a).map fun g => (a, some g.2)
    else [(a, none)]

/-- `ORDER BY key`; `rank` is the order in which rows of one key come. -/
def orderBy {ω : Type*} [LinearOrder ω] (key : α → ω) (rank : α → ℕ) (rows : List α) : List α :=
  rows.mergeSort fun x y => key x < key y || (key x = key y && rank x ≤ rank y)

/-- A query without `ORDER BY`. -/
def anyOrder (rank : α → ℕ) (rows : List α) : List α := orderBy (fun _ => ()) rank rows

theorem groupBy_keys (key : α → κ) (agg : List α → γ) (rows : List α) :
    (groupBy key agg rows).map Prod.fst = (rows.map key).dedup := by
  rw [groupBy, List.map_map]
  exact List.map_id _

theorem nodup_groupBy (key : α → κ) (agg : List α → γ) (rows : List α) :
    ((groupBy key agg rows).map Prod.fst).Nodup := by
  rw [groupBy_keys]
  exact List.nodup_dedup _

/-- A group holds the rows of its key. -/
theorem mem_groupBy {key : α → κ} {agg : List α → γ} {rows : List α} {g : κ × γ} :
    g ∈ groupBy key agg rows ↔
      (∃ r ∈ rows, key r = g.1) ∧ g.2 = agg (rows.filter fun r => key r = g.1) := by
  simp only [groupBy, List.mem_map, List.mem_dedup]
  constructor
  · rintro ⟨k, hk, rfl⟩
    exact ⟨hk, rfl⟩
  · rintro ⟨hk, hg⟩
    exact ⟨g.1, hk, Prod.ext rfl hg.symm⟩

/-- Rows that are rewritten beside their key and what the groups are reduced to. -/
theorem groupBy_map {key : β → κ} {agg : List β → γ} (f : α → β) (rows : List α) :
    groupBy key agg (rows.map f) = groupBy (fun r => key (f r)) (fun rs => agg (rs.map f)) rows := by
  rw [groupBy, groupBy, List.map_map]
  refine List.map_congr_left fun k _ => ?_
  rw [List.filter_map]
  rfl

/-- The entry of a key in a list of groups with distinct keys. -/
theorem filter_key {right : List (κ × γ)} (h : (right.map Prod.fst).Nodup) {g : κ × γ} (hg : g ∈ right) :
    (right.filter fun x => x.1 = g.1) = [g] := by
  induction right with
  | nil => simp at hg
  | cons x right ih =>
    obtain ⟨hne, hr⟩ := List.nodup_cons.mp h
    rcases List.mem_cons.mp hg with rfl | hg
    · have hnone : (right.filter fun x => x.1 = g.1) = [] := by
        refine List.filter_eq_nil_iff.mpr fun x hx => ?_
        intro he
        exact hne (of_decide_eq_true he ▸ List.mem_map_of_mem hx)
      simp [hnone]
    · have hx : x.1 ≠ g.1 := fun he => hne (he ▸ List.mem_map_of_mem hg)
      simp [hx, ih hr hg]

/-- With distinct keys on the right, every left row is joined once. -/
theorem leftJoin_of_nodup {right : List (κ × γ)} (h : (right.map Prod.fst).Nodup) (key : α → κ)
    {f : α → Option γ} (hsome : ∀ a c, f a = some c ↔ (key a, c) ∈ right) (left : List α) :
    leftJoin key left right = left.map fun a => (a, f a) := by
  have hone : ∀ a, (if right.any fun g => g.1 = key a then
      (right.filter fun g => g.1 = key a).map fun g => (a, some g.2) else [(a, none)]) = [(a, f a)] := by
    intro a
    cases hf : f a with
    | some c =>
      have hmem : (key a, c) ∈ right := (hsome a c).mp hf
      have hany : (right.any fun g => g.1 = key a) = true :=
        List.any_eq_true.mpr ⟨_, hmem, by simp⟩
      rw [if_pos hany, filter_key h hmem]
      rfl
    | none =>
      have hany : ¬(right.any fun g => g.1 = key a) = true := by
        intro hany
        obtain ⟨g, hg, he⟩ := List.any_eq_true.mp hany
        have hin : (key a, g.2) ∈ right := of_decide_eq_true he ▸ hg
        rw [(hsome a g.2).mpr hin] at hf
        simp at hf
      rw [if_neg hany]
  induction left with
  | nil => rfl
  | cons a left ih =>
    rw [leftJoin, List.flatMap_cons, hone, ← leftJoin, ih]
    rfl

/-- **Joined on the key of a grouping, every left row comes out once**, with
what its group is reduced to. The groups may come in any order. -/
theorem leftJoin_groups {key : α → κ} {agg : List α → γ} {rows : List α} {groups : List (κ × γ)}
    (h : groups.Perm (groupBy key agg rows)) (on : β → κ) (left : List β) :
    leftJoin on left groups = left.map fun b =>
      (b, if ∃ r ∈ rows, key r = on b then some (agg (rows.filter fun r => key r = on b)) else none) := by
  refine leftJoin_of_nodup ((h.map Prod.fst).nodup_iff.mpr (nodup_groupBy key agg rows)) on ?_ left
  intro b c
  rw [h.mem_iff, mem_groupBy]
  by_cases hex : ∃ r ∈ rows, key r = on b
  · rw [if_pos hex, Option.some.injEq]
    simp only [hex, true_and]
    exact eq_comm
  · rw [if_neg hex]
    simp [hex]

/-! ### Orders -/

section Order

variable {ω : Type*} [LinearOrder ω]

theorem orderBy_perm (key : α → ω) (rank : α → ℕ) (rows : List α) : (orderBy key rank rows).Perm rows :=
  List.mergeSort_perm _ _

theorem anyOrder_perm (rank : α → ℕ) (rows : List α) : (anyOrder rank rows).Perm rows := orderBy_perm _ _ _

/-- The order of a result: by key, then by rank. -/
def Before (key : α → ω) (rank : α → ℕ) (x y : α) : Prop :=
  key x < key y ∨ (key x = key y ∧ rank x ≤ rank y)

theorem Before.trans {key : α → ω} {rank : α → ℕ} {x y z : α} (h : Before key rank x y)
    (h' : Before key rank y z) : Before key rank x z := by
  rcases h with h | ⟨h, hr⟩
  · rcases h' with h' | ⟨h', -⟩
    · exact Or.inl (h.trans h')
    · exact Or.inl (h' ▸ h)
  · rcases h' with h' | ⟨h', hr'⟩
    · exact Or.inl (h ▸ h')
    · exact Or.inr ⟨h.trans h', hr.trans hr'⟩

theorem Before.key_le {key : α → ω} {rank : α → ℕ} {x y : α} (h : Before key rank x y) : key x ≤ key y := by
  rcases h with h | ⟨h, -⟩
  · exact h.le
  · exact h.le

theorem orderBy_pairwise (key : α → ω) (rank : α → ℕ) (rows : List α) :
    (orderBy key rank rows).Pairwise (Before key rank) := by
  have hiff : ∀ x y : α, (key x < key y || (key x = key y && rank x ≤ rank y) : Bool) = true ↔
      Before key rank x y := by
    intro x y
    simp [Before]
  refine (List.pairwise_mergeSort ?_ ?_ rows).imp fun {x y} h => (hiff x y).mp h
  · intro x y z hxy hyz
    exact (hiff x z).mpr (((hiff x y).mp hxy).trans ((hiff y z).mp hyz))
  · intro x y
    rw [Bool.or_eq_true, hiff, hiff]
    rcases lt_trichotomy (key x) (key y) with h | h | h
    · exact Or.inl (Or.inl h)
    · rcases le_total (rank x) (rank y) with hr | hr
      · exact Or.inl (Or.inr ⟨h, hr⟩)
      · exact Or.inr (Or.inr ⟨h.symm, hr⟩)
    · exact Or.inr (Or.inl h)

/-- **Every order that the clause allows comes from some rank** of the rows' ids. -/
theorem exists_rank {ι : Type*} [DecidableEq ι] {key : α → ω} {id : α → ι} {rows l : List α}
    (hid : (rows.map id).Nodup) (hp : l.Perm rows) (hs : l.Pairwise fun x y => key x ≤ key y) :
    ∃ rank : ι → ℕ, orderBy key (fun x => rank (id x)) rows = l := by
  have hidl : (l.map id).Nodup := (hp.map id).nodup_iff.mpr hid
  refine ⟨fun i => (l.map id).idxOf i, ?_⟩
  have hsorted : l.Pairwise (Before key fun x => (l.map id).idxOf (id x)) := by
    rw [List.pairwise_iff_getElem] at hs ⊢
    intro i j hi hj hij
    have hidx : ∀ k (hk : k < l.length), (l.map id).idxOf (id l[k]) = k := by
      intro k hk
      have := hidl.idxOf_getElem k (by simpa using hk)
      simpa using this
    rcases (hs i j hi hj hij).lt_or_eq with hlt | heq
    · exact Or.inl hlt
    · refine Or.inr ⟨heq, ?_⟩
      show (l.map id).idxOf (id l[i]) ≤ (l.map id).idxOf (id l[j])
      rw [hidx i hi, hidx j hj]
      exact hij.le
  refine List.Perm.eq_of_pairwise ?_ (orderBy_pairwise key _ rows) hsorted ((orderBy_perm key _ rows).trans hp.symm)
  intro x y hx hy hxy hyx
  have hkey : key x = key y := le_antisymm hxy.key_le hyx.key_le
  have hrank : (l.map id).idxOf (id x) = (l.map id).idxOf (id y) := by
    rcases hxy with h | ⟨-, h⟩
    · exact absurd hkey h.ne
    · rcases hyx with h' | ⟨-, h'⟩
      · exact absurd hkey.symm h'.ne
      · exact le_antisymm h h'
  have hxl : x ∈ l := hp.mem_iff.mpr ((orderBy_perm key _ rows).mem_iff.mp hx)
  have hmem : id x ∈ l.map id := List.mem_map_of_mem hxl
  exact List.inj_on_of_nodup_map hidl hxl hy ((List.idxOf_inj hmem).mp hrank)

/-- Keys without duplicates leave one order. -/
theorem orderBy_eq {key : α → ω} {rank : α → ℕ} {rows l : List α} (hp : l.Perm rows)
    (hs : l.Pairwise fun x y => key x < key y) : orderBy key rank rows = l := by
  have hkeys : (l.map key).Nodup := List.pairwise_map.mpr (hs.imp fun h => h.ne)
  refine List.Perm.eq_of_pairwise ?_ (orderBy_pairwise key rank rows) (hs.imp Or.inl)
    ((orderBy_perm key rank rows).trans hp.symm)
  intro x y hx hy hxy hyx
  have hxl : x ∈ l := hp.mem_iff.mpr ((orderBy_perm key rank rows).mem_iff.mp hx)
  exact List.inj_on_of_nodup_map hkeys hxl hy (le_antisymm hxy.key_le hyx.key_le)

/-- Rows that are rewritten without touching key and rank come in the same order. -/
theorem orderBy_map (key : β → ω) (rank : β → ℕ) (f : α → β) (rows : List α) :
    orderBy key rank (rows.map f) = (orderBy (fun x => key (f x)) (fun x => rank (f x)) rows).map f := by
  unfold orderBy
  rw [List.map_mergeSort (s := fun x y => key x < key y || (key x = key y && rank x ≤ rank y))]
  exact fun _ _ _ _ => rfl

/-- The first `k` of the rows in the order of `key`: `k` rows or all of them, none of which comes behind a row
that is left out. -/
structure FirstRows (k : ℕ) (key : α → ω) (rows first : List α) : Prop where
  length : first.length = min k rows.length
  sorted : first.Pairwise fun x y => key x ≤ key y
  others : ∃ others, (first ++ others).Perm rows ∧ ∀ x ∈ first, ∀ y ∈ others, key x ≤ key y

/-- **`ORDER BY key LIMIT k`.** -/
theorem firstRows_orderBy (k : ℕ) (key : α → ω) (rank : α → ℕ) (rows : List α) :
    FirstRows k key rows ((orderBy key rank rows).take k) := by
  have hperm := orderBy_perm key rank rows
  have hsorted : (orderBy key rank rows).Pairwise fun x y => key x ≤ key y :=
    (orderBy_pairwise key rank rows).imp Before.key_le
  have hsplit := List.take_append_drop k (orderBy key rank rows)
  refine ⟨?_, hsorted.sublist (List.take_sublist k _), (orderBy key rank rows).drop k, ?_, ?_⟩
  · rw [List.length_take, hperm.length_eq]
  · rwa [hsplit]
  · rw [← hsplit] at hsorted
    exact (List.pairwise_append.mp hsorted).2.2

/-- The rows to choose from may come in any order. -/
theorem FirstRows.of_perm {k : ℕ} {key : α → ω} {rows rows' first : List α} (h : FirstRows k key rows first)
    (hp : rows.Perm rows') : FirstRows k key rows' first := by
  obtain ⟨others, hperm, hle⟩ := h.others
  exact ⟨by rw [h.length, hp.length_eq], h.sorted, others, hperm.trans hp, hle⟩

end Order

/-! ### Sums over groups -/

/-- Rows that are picked out by keys without duplicates, when every row has one of the keys. -/
theorem flatMap_filter_perm (key : α → κ) : ∀ (ks : List κ) (rows : List α), ks.Nodup →
    (∀ r ∈ rows, key r ∈ ks) → (ks.flatMap fun k => rows.filter fun r => key r = k).Perm rows
  | [], rows, _, h => by
    have hnil : rows = [] := List.eq_nil_iff_forall_not_mem.mpr fun r hr => absurd (h r hr) List.not_mem_nil
    rw [hnil]
    exact List.Perm.refl _
  | k :: ks, rows, hnd, h => by
    obtain ⟨hk, hks⟩ := List.nodup_cons.mp hnd
    have hothers : (ks.flatMap fun k' => rows.filter fun r => key r = k') =
        ks.flatMap fun k' => (rows.filter fun r => !(key r = k : Bool)).filter fun r => key r = k' := by
      refine List.flatMap_congr fun k' hk' => ?_
      rw [List.filter_filter]
      refine List.filter_congr fun r _ => ?_
      by_cases he : key r = k'
      · have hne : k' ≠ k := fun hkk => hk (hkk ▸ hk')
        simp [he, hne]
      · simp [he]
    have hrest := flatMap_filter_perm key ks (rows.filter fun r => !(key r = k : Bool)) hks fun r hr => by
      obtain ⟨hmem, hne⟩ := List.mem_filter.mp hr
      exact (List.mem_cons.mp (h r hmem)).resolve_left (by simpa using hne)
    rw [List.flatMap_cons, hothers]
    exact (hrest.append_left _).trans (List.filter_append_perm _ rows)

/-- **Put together, the groups are the rows.** -/
theorem groups_perm (key : α → κ) (rows : List α) : ((groupBy key id rows).flatMap Prod.snd).Perm rows := by
  rw [groupBy, List.flatMap_map]
  exact flatMap_filter_perm key _ rows (List.nodup_dedup _) fun r hr =>
    List.mem_dedup.mpr (List.mem_map_of_mem hr)

/-- Groups are reduced one by one. -/
theorem groupBy_agg (key : α → κ) (agg : List α → γ) (rows : List α) :
    groupBy key agg rows = (groupBy key id rows).map fun g => (g.1, agg g.2) := by
  rw [groupBy, groupBy, List.map_map]
  rfl

theorem dedup_filter (p : κ → Bool) : ∀ ks : List κ, (ks.filter p).dedup = ks.dedup.filter p
  | [] => rfl
  | k :: ks => by
    by_cases hp : p k = true
    · rw [List.filter_cons_of_pos hp]
      by_cases hk : k ∈ ks
      · rw [List.dedup_cons_of_mem hk, List.dedup_cons_of_mem (List.mem_filter.mpr ⟨hk, hp⟩), dedup_filter p ks]
      · rw [List.dedup_cons_of_notMem hk, List.filter_cons_of_pos hp,
          List.dedup_cons_of_notMem fun h => hk (List.mem_filter.mp h).1, dedup_filter p ks]
    · rw [List.filter_cons_of_neg hp, dedup_filter p ks]
      by_cases hk : k ∈ ks
      · rw [List.dedup_cons_of_mem hk]
      · rw [List.dedup_cons_of_notMem hk, List.filter_cons_of_neg hp]

/-- The groups whose keys satisfy `p` are those of the rows whose keys do. -/
theorem groupBy_filter (key : α → κ) (agg : List α → γ) (p : κ → Bool) (rows : List α) :
    (groupBy key agg rows).filter (fun g => p g.1) = groupBy key agg (rows.filter fun r => p (key r)) := by
  have hkeys : ((rows.filter fun r => p (key r)).map key).dedup = (rows.map key).dedup.filter p := by
    rw [← dedup_filter, List.filter_map]
    rfl
  rw [groupBy, groupBy, hkeys, List.filter_map]
  refine List.map_congr_left fun k hk => ?_
  have hp : p k = true := (List.mem_filter.mp hk).2
  rw [List.filter_filter]
  refine congrArg (fun rs => (k, agg rs)) (List.filter_congr fun r _ => ?_)
  by_cases he : key r = k
  · simp [he, hp]
  · simp [he]

/-- **Every row is in one group.** -/
theorem sum_groupBy (key : α → κ) (rows : List α) :
    ((groupBy key List.length rows).map Prod.snd).sum = rows.length := by
  rw [groupBy_agg, List.map_map, ← (groups_perm key rows).length_eq, List.length_flatMap]
  rfl

end Query
