/-
# Pages of independently ordered results

A result is cut into pages by `LIMIT` and `OFFSET`, and every page is cut from
a result of its own: the query is run again, and rows that its `ORDER BY` does
not tell apart may come in another order. A row stands, in every such order,
behind the rows with a smaller key and within its tie group. So the pages hold
every row once when no tie group lies across a page border (`pages_perm`), and
a row of a group that does can be put on two pages (`straddle_not_perm`).

Key definitions: `page`, `ahead`, `ties`, `Whole`.
Key theorems: `index_bounds`, `pages_perm`, `pages_pairwise`, `straddle_not_perm`.
-/
import SocDashboard.Lib.Query
import Mathlib.Data.Prod.Lex
import Mathlib.Data.List.Perm.Subperm

namespace Paging

open Query

variable {α ω : Type*} [LinearOrder ω]

/-- The page `k`, from 0 on, of `size` rows. -/
def page (size k : ℕ) (rows : List α) : List α := (rows.drop (k * size)).take size

/-- The rows with a smaller key. -/
def ahead (key : α → ω) (rows : List α) (a : α) : ℕ := rows.countP fun x => key x < key a

/-- The rows of the same key. -/
def ties (key : α → ω) (rows : List α) (a : α) : ℕ := rows.countP fun x => key x = key a

/-- No tie group lies across a page border. -/
def Whole (key : α → ω) (size : ℕ) (rows : List α) : Prop :=
  ∀ a ∈ rows, ahead key rows a / size = (ahead key rows a + ties key rows a - 1) / size

theorem ahead_add_ties (key : α → ω) (rows : List α) (a : α) :
    ahead key rows a + ties key rows a = rows.countP fun x => key x ≤ key a := by
  unfold ahead ties
  induction rows with
  | nil => rfl
  | cons x rows ih =>
    simp only [List.countP_cons, decide_eq_true_eq]
    rcases lt_trichotomy (key x) (key a) with h | h | h
    · rw [if_pos h, if_neg h.ne, if_pos h.le]
      omega
    · rw [if_neg (by rw [h]; exact lt_irrefl _), if_pos h, if_pos h.le]
      omega
    · rw [if_neg h.le.not_gt, if_neg h.ne', if_neg h.not_ge]
      omega

theorem ties_pos {key : α → ω} {rows : List α} {a : α} (ha : a ∈ rows) : 0 < ties key rows a :=
  List.countP_pos_iff.mpr ⟨a, ha, decide_eq_true rfl⟩

/-- Rows with keys of their own are no groups. -/
theorem whole_of_nodup {key : α → ω} {rows : List α} (h : (rows.map key).Nodup) (size : ℕ) : Whole key size rows := by
  intro a ha
  have hone : ties key rows a = 1 := by
    rw [ties, List.countP_eq_length_filter]
    have hfilter : rows.filter (fun x => key x = key a) = [a] := by
      refine List.perm_singleton.mp ((List.perm_ext_iff_of_nodup (h.of_map.filter _) (List.nodup_singleton a)).mpr
        fun x => ?_)
      rw [List.mem_filter, List.mem_singleton, decide_eq_true_iff]
      constructor
      · rintro ⟨hx, hkey⟩
        exact List.inj_on_of_nodup_map h hx ha hkey
      · rintro rfl
        exact ⟨ha, rfl⟩
    rw [hfilter]
    rfl
  rw [hone, Nat.add_sub_cancel]

/-- A page behind the last row. -/
theorem page_eq_nil {size k : ℕ} {l : List α} (h : l.length ≤ k * size) : page size k l = [] := by
  rw [page, List.drop_eq_nil_of_le h, List.take_nil]

theorem mem_page_iff {size k : ℕ} (hsize : 0 < size) {l : List α} {a : α} :
    a ∈ page size k l ↔ ∃ i, l[i]? = some a ∧ i / size = k := by
  rw [page, List.mem_iff_getElem?]
  constructor
  · rintro ⟨i, hi⟩
    rw [List.getElem?_take] at hi
    split_ifs at hi with hlt
    rw [List.getElem?_drop] at hi
    refine ⟨k * size + i, hi, ?_⟩
    rw [Nat.mul_comm, Nat.mul_add_div hsize, Nat.div_eq_of_lt hlt, Nat.add_zero]
  · rintro ⟨i, hi, rfl⟩
    refine ⟨i % size, ?_⟩
    rw [List.getElem?_take, if_pos (Nat.mod_lt i hsize), List.getElem?_drop, Nat.div_add_mod' i size]
    exact hi

/-- A page that holds a row starts within the result. -/
theorem mul_lt_of_mem_page {size k : ℕ} (hsize : 0 < size) {l : List α} {a : α} (ha : a ∈ page size k l) :
    k * size < l.length := by
  obtain ⟨i, hi, rfl⟩ := (mem_page_iff hsize).mp ha
  exact (Nat.div_mul_le_self i size).trans_lt (List.getElem?_eq_some_iff.mp hi).1

/-- Two of the pieces of a list without duplicates share nothing. -/
theorem disjoint_of_nodup_flatMap {β : Type*} {f : ℕ → List β} {n : ℕ}
    (hnd : ((List.range n).flatMap f).Nodup) {i j : ℕ} (hij : i < j) (hj : j < n) :
    (f i).Disjoint (f j) := by
  have hpairs := List.pairwise_iff_getElem.mp (List.nodup_flatMap.mp hnd).2
  have hlength : j < (List.range n).length := by rwa [List.length_range]
  have hlength' : i < (List.range n).length := hij.trans hlength
  have hdisjoint : (f (List.range n)[i]).Disjoint (f (List.range n)[j]) :=
    hpairs i j hlength' hlength hij
  rwa [List.getElem_range, List.getElem_range] at hdisjoint

/-- **Where a row can stand**: behind all that are ahead of it and before all
that it is ahead of. -/
theorem index_bounds {key : α → ω} {rows l : List α} (hp : l.Perm rows)
    (hs : l.Pairwise fun x y => key x ≤ key y) {i : ℕ} {a : α} (h : l[i]? = some a) :
    ahead key rows a ≤ i ∧ i < ahead key rows a + ties key rows a := by
  obtain ⟨hi, rfl⟩ := List.getElem?_eq_some_iff.mp h
  have hle : ∀ (j k : ℕ) (hj : j < l.length) (hk : k < l.length), j ≤ k → key l[j] ≤ key l[k] := by
    intro j k hj hk hjk
    rcases Nat.eq_or_lt_of_le hjk with rfl | hlt
    · exact le_rfl
    · exact List.pairwise_iff_getElem.mp hs j k hj hk hlt
  have hahead : ahead key rows l[i] = l.countP fun x => key x < key l[i] := (hp.countP_eq _).symm
  have hties : ties key rows l[i] = l.countP fun x => key x = key l[i] := (hp.countP_eq _).symm
  constructor
  · -- from `i` on, nothing is ahead
    have hnone : (l.drop i).countP (fun x => key x < key l[i]) = 0 := by
      refine List.countP_eq_zero.mpr fun x hx => ?_
      obtain ⟨j, hj, rfl⟩ := List.mem_iff_getElem.mp hx
      rw [List.length_drop] at hj
      rw [List.getElem_drop, decide_eq_true_iff, not_lt]
      exact hle i (i + j) hi (by omega) (Nat.le_add_right i j)
    have hsplit : l.countP (fun x => key x < key l[i]) =
        (l.take i).countP (fun x => key x < key l[i]) + (l.drop i).countP fun x => key x < key l[i] := by
      rw [← List.countP_append, List.take_append_drop]
    rw [hnone, Nat.add_zero] at hsplit
    calc ahead key rows l[i] = (l.take i).countP fun x => key x < key l[i] := hahead.trans hsplit
      _ ≤ (l.take i).length := List.countP_le_length
      _ ≤ i := List.length_take_le i l
  · -- up to `i`, everything is ahead or tied
    have hall : (l.take (i + 1)).countP (fun x => key x ≤ key l[i]) = (l.take (i + 1)).length := by
      refine List.countP_eq_length.mpr fun x hx => ?_
      obtain ⟨j, hj, rfl⟩ := List.mem_iff_getElem.mp hx
      rw [List.length_take] at hj
      rw [List.getElem_take, decide_eq_true_iff]
      exact hle j i (by omega) hi (by omega)
    have hmono : (l.take (i + 1)).countP (fun x => key x ≤ key l[i]) ≤ l.countP fun x => key x ≤ key l[i] :=
      (List.take_sublist _ _).countP_le
    rw [hall, List.length_take] at hmono
    have hsum : ahead key l l[i] + ties key l l[i] = l.countP fun x => key x ≤ key l[i] :=
      ahead_add_ties key l l[i]
    unfold ahead ties at hsum
    omega

section Pages

variable {key : α → ω} {rows : List α} {size : ℕ}

/-- A page of a result without straddling groups holds the rows whose keys put them there. -/
theorem page_perm (hsize : 0 < size) (hnd : rows.Nodup) (hw : Whole key size rows) {l : List α}
    (hp : l.Perm rows) (hs : l.Pairwise fun x y => key x ≤ key y) (k : ℕ) :
    (page size k l).Perm (rows.filter fun a => ahead key rows a / size = k) := by
  have hl : l.Nodup := hp.nodup_iff.mpr hnd
  have hpage : (page size k l).Nodup := hl.sublist ((List.take_sublist _ _).trans (List.drop_sublist _ _))
  refine (List.perm_ext_iff_of_nodup hpage (hnd.filter _)).mpr fun a => ?_
  have hindex : ∀ i, l[i]? = some a → i / size = ahead key rows a / size := by
    intro i hi
    obtain ⟨hlo, hhi⟩ := index_bounds hp hs hi
    have h1 : ahead key rows a / size ≤ i / size := Nat.div_le_div_right hlo
    have h2 : i / size ≤ (ahead key rows a + ties key rows a - 1) / size := Nat.div_le_div_right (by omega)
    rw [← hw a (hp.mem_iff.mp (List.mem_of_getElem? hi))] at h2
    omega
  rw [mem_page_iff hsize, List.mem_filter, decide_eq_true_iff]
  constructor
  · rintro ⟨i, hi, hk⟩
    exact ⟨hp.mem_iff.mp (List.mem_of_getElem? hi), (hindex i hi).symm.trans hk⟩
  · rintro ⟨hmem, hk⟩
    obtain ⟨i, hi⟩ := List.mem_iff_getElem?.mp (hp.mem_iff.mpr hmem)
    exact ⟨i, hi, (hindex i hi).trans hk⟩

/-- **The pages lose and repeat nothing** when no tie group lies across a page
border, whatever order each page's result comes in. -/
theorem pages_perm (hsize : 0 < size) (hnd : rows.Nodup) (hw : Whole key size rows) {n : ℕ}
    (hn : rows.length ≤ n * size) (l : ℕ → List α)
    (hl : ∀ k, (l k).Perm rows ∧ (l k).Pairwise fun x y => key x ≤ key y) :
    ((List.range n).flatMap fun k => page size k (l k)).Perm rows := by
  have hpages : ((List.range n).flatMap fun k => page size k (l k)).Perm
      ((List.range n).flatMap fun k => rows.filter fun a => ahead key rows a / size = k) :=
    List.Perm.flatMap_left _ fun k _ => page_perm hsize hnd hw (hl k).1 (hl k).2 k
  refine hpages.trans (flatMap_filter_perm _ _ rows List.nodup_range fun a ha => List.mem_range.mpr ?_)
  have hlt : ahead key rows a < rows.length := by
    refine lt_of_le_of_ne List.countP_le_length fun he => ?_
    exact absurd (of_decide_eq_true (List.countP_eq_length.mp he a ha)) (lt_irrefl _)
  exact (Nat.div_lt_iff_lt_mul hsize).mpr (by omega)

/-- **The pages are in order**, tied or not. -/
theorem pages_pairwise (hsize : 0 < size) (n : ℕ) (l : ℕ → List α)
    (hl : ∀ k, (l k).Perm rows ∧ (l k).Pairwise fun x y => key x ≤ key y) :
    ((List.range n).flatMap fun k => page size k (l k)).Pairwise fun x y => key x ≤ key y := by
  refine List.pairwise_flatMap.mpr ⟨fun k _ => ?_, ?_⟩
  · exact (hl k).2.sublist ((List.take_sublist _ _).trans (List.drop_sublist _ _))
  · refine List.pairwise_lt_range.imp fun {i j} hij x hx y hy => ?_
    obtain ⟨p, hp, rfl⟩ := (mem_page_iff hsize).mp hx
    obtain ⟨q, hq, rfl⟩ := (mem_page_iff hsize).mp hy
    have hpq : p < q := by
      by_contra hle
      exact absurd (Nat.div_le_div_right (c := size) (Nat.le_of_not_lt hle)) hij.not_ge
    have hx := (index_bounds (hl _).1 (hl _).2 hp).1
    have hy := (index_bounds (hl _).1 (hl _).2 hq).2
    -- all that come up to `y` would be ahead of `x`
    by_contra hlt
    have hmono : (rows.countP fun z => key z ≤ key y) ≤ ahead key rows x :=
      List.countP_mono_left fun z _ hz => decide_eq_true ((of_decide_eq_true hz).trans_lt (not_le.mp hlt))
    rw [← ahead_add_ties] at hmono
    omega

end Pages

/-! ### Two orders of one result -/

section Straddle

variable {key : α → ω} {rows : List α} {size : ℕ} {rank : α → ℕ} {a : α}

/-- The key that a rank refines. -/
def ranked (key : α → ω) (rank : α → ℕ) (x : α) : ω ×ₗ ℕ := toLex (key x, rank x)

/-- Where a row that no other is tied with stands. -/
theorem mem_page_ranked (hsize : 0 < size) (ha : a ∈ rows) (hone : ties (ranked key rank) rows a ≤ 1) :
    a ∈ page size (ahead (ranked key rank) rows a / size) (orderBy key rank rows) := by
  have hp := orderBy_perm key rank rows
  have hs : (orderBy key rank rows).Pairwise fun x y => ranked key rank x ≤ ranked key rank y :=
    (orderBy_pairwise key rank rows).imp fun h => Prod.Lex.toLex_le_toLex.mpr h
  obtain ⟨i, hi⟩ := List.mem_iff_getElem?.mp (hp.mem_iff.mpr ha)
  obtain ⟨hlo, hhi⟩ := index_bounds hp hs hi
  refine (mem_page_iff hsize).mpr ⟨i, hi, ?_⟩
  have hi' : i = ahead (ranked key rank) rows a := by omega
  rw [hi']

/-- A row with a rank of its own is tied with no other. -/
theorem ties_ranked_le (hnd : rows.Nodup) (hr : ∀ x ∈ rows, x ≠ a → rank x ≠ rank a) :
    ties (ranked key rank) rows a ≤ 1 := by
  rw [ties, List.countP_eq_length_filter]
  have hsub : (rows.filter fun x => ranked key rank x = ranked key rank a) ⊆ [a] := by
    intro x hx
    obtain ⟨hmem, he⟩ := List.mem_filter.mp hx
    have hpair : (key x, rank x) = (key a, rank a) := toLex.injective (of_decide_eq_true he)
    by_contra hne
    exact hr x hmem (fun h => hne (List.mem_singleton.mpr h)) (Prod.ext_iff.mp hpair).2
  exact ((hnd.filter _).subperm hsub).length_le

/-- **Ranked first, a row stands at the head of its tie group.** -/
theorem mem_page_first (hsize : 0 < size) (hnd : rows.Nodup) (ha : a ∈ rows)
    (hr : ∀ x ∈ rows, x ≠ a → rank a < rank x) :
    a ∈ page size (ahead key rows a / size) (orderBy key rank rows) := by
  have hahead : ahead (ranked key rank) rows a = ahead key rows a := by
    refine List.countP_congr fun x hx => ?_
    simp only [ranked, Prod.Lex.toLex_lt_toLex, decide_eq_true_eq]
    by_cases hxa : x = a
    · simp [hxa]
    · have := hr x hx hxa
      simp [this.not_gt]
  rw [← hahead]
  exact mem_page_ranked hsize ha (ties_ranked_le hnd fun x hx hne => (hr x hx hne).ne')

/-- **Ranked last, it stands at the end of it.** -/
theorem mem_page_last (hsize : 0 < size) (hnd : rows.Nodup) (ha : a ∈ rows)
    (hr : ∀ x ∈ rows, x ≠ a → rank x < rank a) :
    a ∈ page size ((ahead key rows a + ties key rows a - 1) / size) (orderBy key rank rows) := by
  have hone : ties (ranked key rank) rows a ≤ 1 :=
    ties_ranked_le hnd fun x hx hne => (hr x hx hne).ne
  have hpos : 0 < ties (ranked key rank) rows a := ties_pos ha
  have hall : (rows.countP fun x => ranked key rank x ≤ ranked key rank a) =
      rows.countP fun x => key x ≤ key a := by
    refine List.countP_congr fun x hx => ?_
    simp only [ranked, Prod.Lex.toLex_le_toLex, decide_eq_true_eq]
    have hrank : rank x ≤ rank a := by
      by_cases hxa : x = a
      · rw [hxa]
      · exact (hr x hx hxa).le
    rw [le_iff_lt_or_eq (a := key x)]
    simp only [hrank, and_true]
  have h1 := ahead_add_ties (ranked key rank) rows a
  have h2 := ahead_add_ties key rows a
  have hahead : ahead key rows a + ties key rows a - 1 = ahead (ranked key rank) rows a := by omega
  rw [hahead]
  exact mem_page_ranked hsize ha hone

/-- The rank of a row by its id: `own` for one of them, `others` for the rest. -/
def rankId (a own others i : ℕ) : ℕ := if i = a then own else others

/-- **A group across a page border**: with the orders that put one of its rows
first and last, two pages hold that row. -/
theorem straddle_not_perm (hsize : 0 < size) {id : α → ℕ} (hids : (rows.map id).Nodup)
    (hw : ¬Whole key size rows) {n : ℕ} (hn : rows.length ≤ n * size) :
    ∃ ranks : ℕ → ℕ → ℕ, ¬(((List.range n).flatMap fun k =>
      page size k (orderBy key (fun x => ranks k (id x)) rows)).map id).Perm (rows.map id) := by
  simp only [Whole, not_forall] at hw
  obtain ⟨a, ha, hne⟩ := hw
  have hother : ∀ x ∈ rows, x ≠ a → id x ≠ id a := fun x hx hxa he =>
    hxa (List.inj_on_of_nodup_map hids hx ha he)
  set first := ahead key rows a / size with hfirst
  set last := (ahead key rows a + ties key rows a - 1) / size with hlast
  let ranks : ℕ → ℕ → ℕ := fun k => if k = first then rankId (id a) 0 1 else rankId (id a) 1 0
  have hmemFirst : a ∈ page size first (orderBy key (fun x => ranks first (id x)) rows) := by
    refine mem_page_first hsize hids.of_map ha fun x hx hxa => ?_
    simp [ranks, rankId, hother x hx hxa]
  have hmemLast : a ∈ page size last (orderBy key (fun x => ranks last (id x)) rows) := by
    refine mem_page_last hsize hids.of_map ha fun x hx hxa => ?_
    simp [ranks, rankId, hother x hx hxa, Ne.symm hne]
  have hlt : first < last := by
    have hpos : 0 < ties key rows a := ties_pos ha
    refine lt_of_le_of_ne (Nat.div_le_div_right ?_) hne
    omega
  have hborder : last < n := by
    have hmul := mul_lt_of_mem_page hsize hmemLast
    rw [(orderBy_perm _ _ _).length_eq] at hmul
    exact Nat.lt_of_mul_lt_mul_right (hmul.trans_le hn)
  refine ⟨ranks, fun hall => ?_⟩
  -- the ids of the pages are those of the rows, so no id is on two pages
  have hdistinct := hall.nodup_iff.mpr hids
  rw [List.map_flatMap] at hdistinct
  exact disjoint_of_nodup_flatMap hdistinct hlt hborder (List.mem_map_of_mem hmemFirst)
    (List.mem_map_of_mem hmemLast)

end Straddle

end Paging
