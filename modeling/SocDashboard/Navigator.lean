/-
# The Navigator layer scores by the worst alert

`api_navigator_layer` reads the groups of category and severity with their
counts, in whatever order the database returns them, and keeps for each
technique the group of the highest score. A technique belongs to one category
and a score to one severity, so what is kept does not depend on the order.

Key definitions: `alertCount`, `IsWorst`, `ScoresWorst`.
Key theorems: `foldl_layerStep`, `exists_pairs_plan`, `techniques_perm`,
`scoresWorst`, `navigatorLayer_scoresWorst`.
-/
import SocDashboard.Lib.Best
import SocDashboard.Reading

namespace SocDashboard

open Dict Query

/-- The number of alerts of a category and severity. -/
def alertCount (db : Db) (category : String) (severity : Severity) : ℕ :=
  db.alerts.countP fun row => row.category = category ∧ row.severity = severity

/-- The severity occurs in the category and none there scores more. -/
structure IsWorst (db : Db) (category : String) (severity : Severity) : Prop where
  occurs : ∃ row ∈ db.alerts, row.category = category ∧ row.severity = severity
  highest : ∀ row ∈ db.alerts, row.category = category → navigatorScore row.severity ≤ navigatorScore severity

/-- One entry for each technique with an alert in its category, scored by the worst of them. -/
structure ScoresWorst (db : Db) (layer : NavigatorLayer) : Prop where
  distinct : (layer.techniques.map Technique.techniqueId).Nodup
  covers : ∀ tid, tid ∈ layer.techniques.map Technique.techniqueId ↔
    ∃ row ∈ db.alerts, getItem categoryMitre row.category = some tid
  worst : ∀ t ∈ layer.techniques, ∃ category severity,
    getItem categoryMitre category = some t.techniqueId ∧ IsWorst db category severity ∧
      t.score = navigatorScore severity ∧
      t.comment = category ++ ": " ++ toString (alertCount db category severity) ++ " alert(s), " ++ severity.name
  description : layer.description =
    "ATT&CK coverage derived from " ++ toString db.alerts.length ++ " SOC alert(s)."

/-! ### The two tables -/

/-- No two categories share a technique. -/
theorem categoryMitre_injective {category category' tid : String}
    (h : getItem categoryMitre category = some tid) (h' : getItem categoryMitre category' = some tid) :
    category = category' := by
  have hkeys : (keys categoryMitre).Nodup := by decide
  have hvalues : ∀ e ∈ categoryMitre, ∀ e' ∈ categoryMitre, e.2 = e'.2 → e.1 = e'.1 := by decide
  exact hvalues (category, tid) ((mem_iff_getItem hkeys).mpr h) (category', tid)
    ((mem_iff_getItem hkeys).mpr h') rfl

/-- No two severities share a score. -/
theorem navigatorScore_injective {s s' : Severity} (h : navigatorScore s = navigatorScore s') : s = s' := by
  cases s <;> cases s' <;> first | rfl | exact absurd h (by decide)

/-! ### The loop -/

/-- A group: category and severity, with the number of alerts. -/
abbrev CategoryGroup := (String × Severity) × ℕ

def groupTechnique (g : CategoryGroup) : Option String := getItem categoryMitre g.1.1

/-- The entry made of a group. -/
def groupEntry (g : CategoryGroup) : Technique where
  techniqueId := (groupTechnique g).getD ""
  score := navigatorScore g.1.2
  comment := g.1.1 ++ ": " ++ toString g.2 ++ " alert(s), " ++ g.1.2.name

/-- A step adds the count and keeps the best entry of each technique. -/
theorem layerStep_eq (acc : ℕ × Dict String Technique) (g : CategoryGroup) :
    layerStep acc g = (acc.1 + g.2, Best.keep groupTechnique groupEntry Technique.score acc.2 g) := by
  rw [layerStep, Best.keep]
  cases hg : getItem categoryMitre g.1.1 with
  | none =>
    have hkey : groupTechnique g = none := hg
    rw [hkey]
  | some tid =>
    have hkey : groupTechnique g = some tid := hg
    have hentry : groupEntry g = ⟨tid, navigatorScore g.1.2,
        g.1.1 ++ ": " ++ toString g.2 ++ " alert(s), " ++ g.1.2.name⟩ := by
      rw [groupEntry, hkey]
      rfl
    have hout : outscores acc.2 tid (navigatorScore g.1.2) =
        (getItem acc.2 tid).all fun t => t.score < (groupEntry g).score := by
      rw [outscores]
      cases getItem acc.2 tid <;> rfl
    simp only [hkey, hout, hentry]
    split_ifs <;> rfl

theorem foldl_layerStep (rows : List CategoryGroup) (acc : ℕ × Dict String Technique) :
    rows.foldl layerStep acc =
      (acc.1 + (rows.map Prod.snd).sum,
        rows.foldl (Best.keep groupTechnique groupEntry Technique.score) acc.2) := by
  induction rows generalizing acc with
  | nil => rfl
  | cons g rows ih =>
    rw [List.foldl_cons, ih, layerStep_eq]
    simp only [List.foldl_cons, List.map_cons, List.sum_cons, Nat.add_assoc]

/-! ### The groups -/

section Groups

variable {db : Db} {plan : Plan}

/-- The groups with their counts, in no order. -/
def categoryGroups (db : Db) : List CategoryGroup :=
  groupBy (fun row : Alert => (row.category, row.severity)) List.length db.alerts

theorem selectCategorySeverity_perm (plan : Plan) (db : Db) :
    (selectCategorySeverity plan db).Perm (categoryGroups db) := anyOrder_perm _ _

theorem mem_categoryGroups {g : CategoryGroup} :
    g ∈ categoryGroups db ↔
      (∃ row ∈ db.alerts, row.category = g.1.1 ∧ row.severity = g.1.2) ∧ g.2 = alertCount db g.1.1 g.1.2 := by
  have hcount : (db.alerts.filter fun row => (row.category, row.severity) = g.1).length =
      alertCount db g.1.1 g.1.2 := by
    rw [alertCount, List.countP_eq_length_filter]
    simp only [Prod.ext_iff]
  rw [categoryGroups, mem_groupBy, hcount]
  simp only [Prod.ext_iff]

/-- Every alert is in its group. -/
theorem group_of_row {row : Alert} (h : row ∈ db.alerts) :
    ((row.category, row.severity), alertCount db row.category row.severity) ∈ categoryGroups db :=
  mem_categoryGroups.mpr ⟨⟨row, h, rfl, rfl⟩, rfl⟩

/-- Groups of one technique and one score are one group. -/
theorem groups_tie : ∀ g ∈ categoryGroups db, ∀ g' ∈ categoryGroups db, ∀ tid,
    groupTechnique g = some tid → groupTechnique g' = some tid →
    (groupEntry g).score = (groupEntry g').score → groupEntry g = groupEntry g' := by
  intro g hg g' hg' tid hkey hkey' hscore
  have hcategory : g.1.1 = g'.1.1 := categoryMitre_injective hkey hkey'
  have hseverity : g.1.2 = g'.1.2 := navigatorScore_injective hscore
  have hcount : g.2 = g'.2 := by
    rw [(mem_categoryGroups.mp hg).2, (mem_categoryGroups.mp hg').2, hcategory, hseverity]
  rw [Prod.ext (Prod.ext hcategory hseverity) hcount]

/-- **Every order of the groups is that of some plan.** -/
theorem exists_pairs_plan {rows : List CategoryGroup} (hp : rows.Perm (categoryGroups db)) :
    ∃ plan : Plan, selectCategorySeverity plan db = rows := by
  have hname : Function.Injective fun k : String × Severity => (k.1, k.2.name) := by
    rintro ⟨c, s⟩ ⟨c', s'⟩ h
    obtain ⟨rfl, hs⟩ := Prod.mk.inj h
    exact Prod.ext rfl (name_injective hs)
  have hkeys : ((categoryGroups db).map fun g => (g.1.1, g.1.2.name)).Nodup := by
    have := (nodup_groupBy (fun row : Alert => (row.category, row.severity)) List.length db.alerts).map hname
    rwa [List.map_map] at this
  have hsorted : rows.Pairwise fun g g' => (fun _ : CategoryGroup => ()) g ≤ (fun _ : CategoryGroup => ()) g' :=
    List.pairwise_of_forall fun _ _ => le_rfl
  obtain ⟨rank, hrank⟩ := exists_rank hkeys hp hsorted
  exact ⟨⟨fun _ => 0, fun _ => 0, rank⟩, hrank⟩

end Groups

/-! ### The layer -/

section Layer

variable {db : Db} {plan : Plan}

/-- What the loop holds after the groups of `plan`. -/
def keptEntries (plan : Plan) (db : Db) : Dict String Technique :=
  (selectCategorySeverity plan db).foldl (Best.keep groupTechnique groupEntry Technique.score) []

theorem layerLoop_eq : (selectCategorySeverity plan db).foldl layerStep (0, []) =
    (db.alerts.length, keptEntries plan db) := by
  have hsum : ((selectCategorySeverity plan db).map Prod.snd).sum = db.alerts.length :=
    ((selectCategorySeverity_perm plan db).map Prod.snd).sum_eq.trans (sum_groupBy _ _)
  rw [foldl_layerStep, hsum, Nat.zero_add, keptEntries]

theorem navigatorLayer_techniques : (navigatorLayer plan db).techniques = (keptEntries plan db).map Prod.snd := by
  show (List.map Prod.snd ((selectCategorySeverity plan db).foldl layerStep (0, [])).2) = _
  rw [layerLoop_eq]

/-- **The counts add up to the number of alerts.** -/
theorem navigatorLayer_description : (navigatorLayer plan db).description =
    "ATT&CK coverage derived from " ++ toString db.alerts.length ++ " SOC alert(s)." := by
  show "ATT&CK coverage derived from " ++
    toString ((selectCategorySeverity plan db).foldl layerStep (0, [])).1 ++ " SOC alert(s)." = _
  rw [layerLoop_eq]

theorem holds_keptEntries (plan : Plan) (db : Db) :
    Best.Holds groupTechnique groupEntry Technique.score (categoryGroups db) (keptEntries plan db) :=
  (Best.holds_foldl (selectCategorySeverity plan db)).of_perm (selectCategorySeverity_perm plan db)

/-- A kept entry is that of the worst group of its category. -/
theorem entry_of_kept {e : String × Technique} (h : e ∈ keptEntries plan db) :
    ∃ g ∈ categoryGroups db, groupTechnique g = some e.1 ∧ groupEntry g = e.2 ∧
      IsWorst db g.1.1 g.1.2 := by
  have hholds := holds_keptEntries plan db
  have hget := (mem_iff_getItem hholds.nodup).mp h
  obtain ⟨g, hg, hkey, hentry⟩ := hholds.item e.1 e.2 hget
  refine ⟨g, hg, hkey, hentry, (mem_categoryGroups.mp hg).1, fun row hrow hcategory => ?_⟩
  -- the group of the row has the same technique, so the entry scores at least as much
  have hsame : groupTechnique ((row.category, row.severity), alertCount db row.category row.severity) =
      some e.1 := by rw [← hkey, groupTechnique, groupTechnique, hcategory]
  obtain ⟨t, ht, hle⟩ := hholds.best _ (group_of_row hrow) e.1 hsame
  obtain rfl := Option.some.inj (hget.symm.trans ht)
  rw [← hentry] at hle
  exact hle

theorem techniqueIds_eq : ((navigatorLayer plan db).techniques.map Technique.techniqueId) =
    keys (keptEntries plan db) := by
  rw [navigatorLayer_techniques, List.map_map]
  refine List.map_congr_left fun e he => ?_
  obtain ⟨g, -, hkey, hentry, -⟩ := entry_of_kept he
  show e.2.techniqueId = e.1
  rw [← hentry, groupEntry, hkey]
  rfl

/-- **The layer scores each technique by its worst alert.** -/
theorem scoresWorst (plan : Plan) (db : Db) : ScoresWorst db (navigatorLayer plan db) := by
  have hholds := holds_keptEntries plan db
  constructor
  case distinct =>
    rw [techniqueIds_eq]
    exact hholds.nodup
  case covers =>
    intro tid
    rw [techniqueIds_eq]
    constructor
    · intro htid
      obtain ⟨e, he, rfl⟩ := List.mem_map.mp htid
      obtain ⟨g, hg, hkey, -⟩ := entry_of_kept he
      obtain ⟨⟨row, hrow, hcategory, -⟩, -⟩ := mem_categoryGroups.mp hg
      exact ⟨row, hrow, hcategory ▸ hkey⟩
    · rintro ⟨row, hrow, htid⟩
      obtain ⟨t, ht, -⟩ := hholds.best _ (group_of_row hrow) tid htid
      exact List.mem_map_of_mem ((mem_iff_getItem hholds.nodup (e := (tid, t))).mpr ht)
  case worst =>
    intro t ht
    rw [navigatorLayer_techniques] at ht
    obtain ⟨e, he, rfl⟩ := List.mem_map.mp ht
    obtain ⟨g, hg, hkey, hentry, hworst⟩ := entry_of_kept he
    refine ⟨g.1.1, g.1.2, ?_, hworst, ?_, ?_⟩
    · rw [← hentry, groupEntry, hkey]
      exact hkey
    · rw [← hentry]
      rfl
    · rw [← hentry, groupEntry, (mem_categoryGroups.mp hg).2]
  case description => exact navigatorLayer_description

/-- **The order of the groups shows only in that of the entries.** -/
theorem techniques_perm (plan plan' : Plan) (db : Db) :
    (navigatorLayer plan' db).techniques.Perm (navigatorLayer plan db).techniques := by
  have hgroups : (selectCategorySeverity plan' db).Perm (selectCategorySeverity plan db) :=
    (selectCategorySeverity_perm plan' db).trans (selectCategorySeverity_perm plan db).symm
  rw [navigatorLayer_techniques, navigatorLayer_techniques]
  refine (Best.perm_foldl hgroups fun g hg g' hg' tid hkey hkey' hscore => ?_).map Prod.snd
  have hp := selectCategorySeverity_perm plan' db
  exact groups_tie g (hp.mem_iff.mp hg) g' (hp.mem_iff.mp hg') tid hkey hkey' hscore

end Layer

/-- **The Navigator layer**, for every table and every order of the groups: each technique with an
alert in its category once, scored by its worst alert, and the same entries in any order. -/
theorem navigatorLayer_scoresWorst (db : Db) (plan : Plan) :
    ScoresWorst db (navigatorLayer plan db) ∧
      ∀ plan', (navigatorLayer plan' db).techniques.Perm (navigatorLayer plan db).techniques :=
  ⟨scoresWorst plan db, fun plan' => techniques_perm plan plan' db⟩

end SocDashboard
