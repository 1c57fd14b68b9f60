/-
# Do the breakdowns count every alert?

`/api/stats` breaks the alerts down by category, severity and source. Each
breakdown is a `GROUP BY` whose rows become a dictionary; that of the sources
displays a NULL as `unknown`, and the dictionary keeps one entry for a text.
So the breakdown of the sources loses a group exactly when alerts without a
source meet alerts whose source is the text `unknown`.

Key definitions: `displayedAs`, `ConservesBy`, `Conserves`.
Key theorems: `mem_countsDict`, `conservesBy_iff`, `conserves_iff`.
-/
import SocDashboard.Stats

namespace SocDashboard

open Dict Query

/-- The column that the sources are grouped by. -/
def sourceOf (row : Alert) : Option String := row.source

/-- How many alerts have `k` displayed in a column. -/
def displayedAs (column : Alert → Option String) (db : Db) (k : String) : ℕ :=
  db.alerts.countP fun row => (column row).getD "unknown" = k

/-- A breakdown adds up to the total, and each entry counts the alerts displayed under it. -/
structure ConservesBy (column : Alert → Option String) (db : Db) (total : ℕ) (d : Dict String ℕ) : Prop where
  sum : (d.map Prod.snd).sum = total
  entries : ∀ e ∈ d, e.2 = displayedAs column db e.1

/-- The three breakdowns of an answer do. -/
structure Conserves (db : Db) (s : Stats) : Prop where
  category : ConservesBy categoryOf db s.total s.byCategory
  severity : ConservesBy severityOf db s.total s.bySeverity
  source : ConservesBy sourceOf db s.total s.bySource

/-- How many alerts have a value in a column. -/
def valueCount (column : Alert → Option String) (db : Db) (v : Option String) : ℕ :=
  db.alerts.countP fun row => column row = v

section Column

variable {column : Alert → Option String} {db : Db} {plan : Plan}

/-- A group with the number of its alerts. -/
theorem mem_countBy {g : Option String × ℕ} :
    g ∈ countBy plan column db ↔ 0 < valueCount column db g.1 ∧ g.2 = valueCount column db g.1 := by
  have hlen : (db.alerts.filter fun row => column row = g.1).length = valueCount column db g.1 :=
    List.countP_eq_length_filter.symm
  have hpos : 0 < valueCount column db g.1 ↔ ∃ row ∈ db.alerts, column row = g.1 := by
    simp [valueCount, List.countP_pos_iff]
  rw [(countBy_perm plan column db).mem_iff, mem_groupBy, hlen, hpos]

/-- Every entry is a group under its text, and every text of a group has an entry. -/
theorem exists_of_mem_countsDict {e : String × ℕ} (h : e ∈ countsDict (countBy plan column db)) :
    ∃ v, e.1 = v.getD "unknown" ∧ 0 < valueCount column db v ∧ e.2 = valueCount column db v := by
  obtain ⟨g, hg, rfl⟩ := exists_of_mem_foldl h
  obtain ⟨hpos, hn⟩ := mem_countBy.mp hg
  exact ⟨g.1, rfl, hpos, hn⟩

theorem exists_entry {v : Option String} (h : 0 < valueCount column db v) :
    ∃ e ∈ countsDict (countBy plan column db), e.1 = v.getD "unknown" := by
  have hkey : v.getD "unknown" ∈ keys (countsDict (countBy plan column db)) :=
    mem_keys_foldl.mpr ⟨(v, valueCount column db v), mem_countBy.mpr ⟨h, rfl⟩, rfl⟩
  obtain ⟨e, he, hk⟩ := List.mem_map.mp hkey
  exact ⟨e, he, hk⟩

theorem displayedAs_eq (k : String) :
    displayedAs column db k =
      valueCount column db (some k) + if k = "unknown" then valueCount column db none else 0 := by
  unfold displayedAs valueCount
  induction db.alerts with
  | nil => simp
  | cons row rows ih =>
    rw [List.countP_cons, List.countP_cons, List.countP_cons, ih]
    by_cases hk : k = "unknown"
    · rw [if_pos hk, if_pos hk]
      cases hv : column row with
      | none => simp [hk]; omega
      | some v => simp; omega
    · rw [if_neg hk, if_neg hk]
      cases hv : column row with
      | none => simp [Ne.symm hk]
      | some v => simp

theorem apart_iff :
    Apart column db ↔ ¬(0 < valueCount column db none ∧ 0 < valueCount column db (some "unknown")) := by
  simp [Apart, valueCount, List.countP_pos_iff]

/-- **When a breakdown conserves the alerts**: exactly when none of them lacks a value or none
has the text that a missing value is displayed as. -/
theorem conservesBy_iff :
    ConservesBy column db (countAlerts db) (countsDict (countBy plan column db)) ↔ Apart column db := by
  constructor
  · intro h
    rw [apart_iff]
    rintro ⟨hnone, hunknown⟩
    obtain ⟨e, he, hk⟩ : ∃ e ∈ countsDict (countBy plan column db), e.1 = "unknown" := exists_entry hnone
    have hentry := h.entries e he
    rw [hk, displayedAs_eq, if_pos rfl] at hentry
    -- the entry is one of the two groups, the other is lost
    obtain ⟨v, hv, hpos, hn⟩ := exists_of_mem_countsDict he
    rw [hk] at hv
    have hcase : v = none ∨ v = some "unknown" := by
      cases v with
      | none => exact .inl rfl
      | some v => exact .inr (congrArg some hv.symm)
    rcases hcase with rfl | rfl <;> omega
  · intro h
    refine ⟨sum_countsDict h plan, fun e he => ?_⟩
    obtain ⟨v, hv, hpos, hn⟩ := exists_of_mem_countsDict he
    rw [apart_iff] at h
    rw [hn, hv, displayedAs_eq]
    cases v with
    | none =>
      rw [Option.getD_none, if_pos rfl]
      omega
    | some v =>
      rw [Option.getD_some]
      by_cases hunknown : v = "unknown"
      · subst hunknown
        rw [if_pos rfl]
        omega
      · rw [if_neg hunknown]
        omega

end Column

/-- **When the stats breakdowns conserve the alerts**: exactly unless alerts without a source meet
alerts whose source is `unknown`. -/
theorem conserves_iff (pg : Pg) (plan : StatsStatement → Plan) (now nowTs : Time) (db : Db) :
    Conserves db (apiStatsAnswer pg plan now nowTs fun _ => db) ↔
      ¬((∃ row ∈ db.alerts, row.source = none) ∧ ∃ row ∈ db.alerts, row.source = some "unknown") := by
  constructor
  · exact fun h => conservesBy_iff.mp h.source
  · intro h
    exact ⟨conservesBy_iff.mpr (apart_of_isSome fun _ _ => rfl),
      conservesBy_iff.mpr (apart_of_isSome fun _ _ => rfl), conservesBy_iff.mpr h⟩

/-! ### A group that is lost -/

/-- An alert without a source and one whose detector calls itself `unknown`. -/
def unnamedSources : Db :=
  ((applySchema none).withAlert 0 ⟨"Port scan", "port_scan", .high, none, none, none, none, none⟩).withAlert 0
    ⟨"Malware", "malware", .high, some "unknown", none, none, none, none⟩

/-- Of two alerts the sources count one. -/
theorem unnamedSources_lost :
    (apiStatsAnswer utc (fun _ => asStored) 0 0 fun _ => unnamedSources).total = 2 ∧
      (apiStatsAnswer utc (fun _ => asStored) 0 0 fun _ => unnamedSources).bySource = [("unknown", 1)] ∧
      ¬Conserves unnamedSources (apiStatsAnswer utc (fun _ => asStored) 0 0 fun _ => unnamedSources) := by
  have hsource :
      (apiStatsAnswer utc (fun _ => asStored) 0 0 fun _ => unnamedSources).bySource = [("unknown", 1)] := by
    have hgroups : groupBy (fun row : Alert => row.source) List.length unnamedSources.alerts =
        [(none, 1), (some "unknown", 1)] := by decide
    simp only [apiStatsAnswer, statsOf, statsRows, countBy, hgroups]
    simp [anyOrder, orderBy, List.mergeSort, List.MergeSort.Internal.splitInTwo, List.merge]
    rfl
  refine ⟨rfl, hsource, fun h => ?_⟩
  have hsum := h.source.sum
  rw [hsource] at hsum
  exact absurd hsum (by decide)

end SocDashboard
