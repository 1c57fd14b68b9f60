/-
# The statistics of /api/stats

`api_stats` runs nine `SELECT`s one after another and puts its answer together
from their rows. Each statement is a function of the database it sees, which
under READ COMMITTED need not be the one the statement before saw; so the
answer is a function of a snapshot for every statement.

Key definitions: `Plan`, `Pg`, `StatsStatement`, `statsRows`, `statsOf`,
`apiStatsAnswer`, `OneState`.
Key theorems: `sum_countsDict`, `considered_selectSla`.
-/
import SocDashboard.Sla
import SocDashboard.Triage
import Mathlib.Data.String.Basic
import Mathlib.Data.Prod.Lex

namespace SocDashboard

open Dict Query

/-- The order in which a statement's rows come where its text leaves it open:
a rank of row ids, one of grouping texts and one of pairs of them. -/
structure Plan where
  ids : ℕ → ℕ
  texts : Option String → ℕ
  pairs : String × String → ℕ

/-- What the settings and the extensions of a database session decide. -/
structure Pg where
  /-- `::date`, as a day number. -/
  date : Time → ℤ
  /-- The sort key of a text under the database's collation. -/
  sortKey : String → String
  /-- A text as a `TIMESTAMPTZ`, if it is one. -/
  timestamptz : String → Option Time
  lower : String → String
  /-- `<=>` of two vectors. -/
  distance : String → String → ℚ
  /-- `round((1 - distance)::numeric, 3)`, as the float that is sent. -/
  similarity : ℚ → ℚ

/-- The settings and orders of the examples. -/
def utc : Pg := ⟨fun t => t / day, id, fun _ => none, id, fun _ _ => 0, id⟩

def asStored : Plan := ⟨id, fun _ => 0, fun _ => 0⟩

/-- The statements of `api_stats`, in order. -/
inductive StatsStatement
  | total
  | open_
  | byCategory
  | bySeverity
  | bySource
  | escalation
  | assignees
  | mttrByAnalyst
  | sla
  deriving DecidableEq, Repr

/-! ### The statements -/

/-- `SELECT count(*) AS c FROM alerts`. -/
def countAlerts (db : Db) : ℕ := db.alerts.length

/-- `SELECT count(*) AS c FROM alerts WHERE status = 'open'`. -/
def countOpen (db : Db) : ℕ := db.alerts.countP fun row => row.status = .open_

/-- `count(*) FILTER (WHERE status <> 'open')`. -/
def countTriaged (db : Db) : ℕ := db.alerts.countP fun row => row.status ≠ .open_

/-- `count(*) FILTER (WHERE status = 'escalated')`. -/
def countEscalated (db : Db) : ℕ := db.alerts.countP fun row => row.status = .escalated

/-- `SELECT column, count(*) AS c FROM alerts GROUP BY column`. -/
def countBy (plan : Plan) (column : Alert → Option String) (db : Db) : List (Option String × ℕ) :=
  anyOrder (fun g => plan.texts g.1) (groupBy column List.length db.alerts)

def categoryOf (row : Alert) : Option String := some row.category

def severityOf (row : Alert) : Option String := some row.severity.name

/-- The distinct assignees, in order. -/
def selectAssignees (pg : Pg) (db : Db) : List String :=
  orderBy pg.sortKey (fun _ => 0) (db.alerts.filterMap Alert.assignedTo).dedup

/-- `round(avg(response_time_seconds))::int` and `count(*)` of a group. -/
def averageAndCount (rows : List AnalystAction) : ℤ × ℕ :=
  (roundDiv (rows.filterMap AnalystAction.responseTimeSeconds).sum rows.length, rows.length)

/-- The response times of the last seven days, by analyst and day. -/
def selectMttr (pg : Pg) (now : Time) (db : Db) : List MttrRow :=
  let recent := db.analystActions.filter fun x =>
    x.responseTimeSeconds.isSome && now - 7 * day ≤ x.actedAt
  let groups := groupBy (fun x => (x.analystName, pg.date x.actedAt)) averageAndCount recent
  (orderBy (fun g => toLex (g.1.2, pg.sortKey g.1.1)) (fun _ => 0) groups).map fun g =>
    ⟨g.1.1, g.1.2, g.2.1, g.2.2⟩

/-- The rows for `compute_sla`. -/
def selectSla (plan : Plan) (db : Db) : List SlaRow :=
  slaJoin (anyOrder (fun row => plan.ids row.id) db.alerts) (slaGroups db)

/-! ### The answer -/

/-- What the statements returned. -/
structure StatsRows where
  total : ℕ
  open_ : ℕ
  byCategory : List (Option String × ℕ)
  bySeverity : List (Option String × ℕ)
  bySource : List (Option String × ℕ)
  escalated : ℕ
  triaged : ℕ
  assignees : List String
  mttr : List MttrRow
  sla : List SlaRow

/-- The nine statements, each on its own snapshot and with its own row order. -/
def statsRows (pg : Pg) (plan : StatsStatement → Plan) (now : Time) (snapshot : StatsStatement → Db) :
    StatsRows where
  total := countAlerts (snapshot .total)
  open_ := countOpen (snapshot .open_)
  byCategory := countBy (plan .byCategory) categoryOf (snapshot .byCategory)
  bySeverity := countBy (plan .bySeverity) severityOf (snapshot .bySeverity)
  bySource := countBy (plan .bySource) (fun row => row.source) (snapshot .bySource)
  escalated := countEscalated (snapshot .escalation)
  triaged := countTriaged (snapshot .escalation)
  assignees := selectAssignees pg (snapshot .assignees)
  mttr := selectMttr pg now (snapshot .mttrByAnalyst)
  sla := selectSla (plan .sla) (snapshot .sla)

/-- `{r[...]: r["c"] for r in cur.fetchall()}`, a NULL read as `coalesce` reads it. -/
def countsDict (rows : List (Option String × ℕ)) : Dict String ℕ :=
  rows.foldl (fun d r => setItem d (r.1.getD "unknown") r.2) []

/-- What `api_stats` makes of the rows; `nowTs` is the clock of `compute_sla`. -/
def statsOf (nowTs : Time) (rows : StatsRows) : Stats where
  total := rows.total
  open_ := rows.open_
  closed := (rows.total : ℤ) - rows.open_
  byCategory := countsDict rows.byCategory
  bySeverity := countsDict rows.bySeverity
  bySource := countsDict rows.bySource
  escalation := ⟨rows.escalated, rows.triaged, percent rows.escalated rows.triaged⟩
  assignees := rows.assignees
  mttrByAnalyst := rows.mttr
  sla := computeSla nowTs rows.sla

/-- `api_stats`. -/
def apiStatsAnswer (pg : Pg) (plan : StatsStatement → Plan) (now nowTs : Time)
    (snapshot : StatsStatement → Db) : Stats :=
  statsOf nowTs (statsRows pg plan now snapshot)

/-- The numbers of an answer fit one state of the tables. -/
structure OneState (s : Stats) : Prop where
  closed_nonneg : 0 ≤ s.closed
  closed_triaged : s.closed = s.escalation.triaged
  open_le : s.open_ ≤ s.total
  severities : (s.bySeverity.map Prod.snd).sum = s.total
  considered : s.sla.considered = s.total

/-! ### What a breakdown holds -/

theorem countBy_perm (plan : Plan) (column : Alert → Option String) (db : Db) :
    (countBy plan column db).Perm (groupBy column List.length db.alerts) :=
  anyOrder_perm _ _

/-- No two values of the column are displayed as one text. -/
def Apart (column : Alert → Option String) (db : Db) : Prop :=
  ¬((∃ row ∈ db.alerts, column row = none) ∧ ∃ row ∈ db.alerts, column row = some "unknown")

theorem apart_of_isSome {column : Alert → Option String} {db : Db}
    (hsome : ∀ row ∈ db.alerts, (column row).isSome) : Apart column db := by
  rintro ⟨⟨row, hrow, hnone⟩, -⟩
  have := hsome row hrow
  simp [hnone] at this

/-- A group is of a value that an alert has. -/
theorem exists_of_mem_countBy {column : Alert → Option String} {db : Db} {plan : Plan}
    {g : Option String × ℕ} (hg : g ∈ countBy plan column db) : ∃ row ∈ db.alerts, column row = g.1 :=
  (mem_groupBy.mp ((countBy_perm plan column db).mem_iff.mp hg)).1

theorem nodup_countBy (plan : Plan) (column : Alert → Option String) (db : Db) :
    ((countBy plan column db).map Prod.fst).Nodup :=
  ((countBy_perm plan column db).map Prod.fst).nodup_iff.mpr (nodup_groupBy column List.length db.alerts)

/-- Then no two groups are displayed as one. -/
theorem nodup_displayed {column : Alert → Option String} {db : Db} (h : Apart column db) (plan : Plan) :
    ((countBy plan column db).map fun g => g.1.getD "unknown").Nodup := by
  have hkeys := nodup_countBy plan column db
  refine (List.Nodup.of_map Prod.fst hkeys).map_on fun g hg g' hg' he => ?_
  refine List.inj_on_of_nodup_map hkeys hg hg' ?_
  obtain ⟨row, hrow, hk⟩ := exists_of_mem_countBy hg
  obtain ⟨row', hrow', hk'⟩ := exists_of_mem_countBy hg'
  cases hv : g.1 with
  | none =>
    cases hv' : g'.1 with
    | none => rfl
    | some v' =>
      rw [hv, hv', Option.getD_none, Option.getD_some] at he
      exact absurd ⟨⟨row, hrow, hk.trans hv⟩, row', hrow', by rw [hk', hv', he]⟩ h
  | some v =>
    cases hv' : g'.1 with
    | none =>
      rw [hv, hv', Option.getD_none, Option.getD_some] at he
      exact absurd ⟨⟨row', hrow', hk'.trans hv'⟩, row, hrow, by rw [hk, hv, he]⟩ h
    | some v' =>
      rw [hv, hv', Option.getD_some, Option.getD_some] at he
      rw [he]

/-- The breakdown then has the groups, each under its text. -/
theorem countsDict_of_apart {column : Alert → Option String} {db : Db} (h : Apart column db) (plan : Plan) :
    countsDict (countBy plan column db) =
      (countBy plan column db).map fun g => (g.1.getD "unknown", g.2) := by
  have hkeys : (keys ((countBy plan column db).map fun g => (g.1.getD "unknown", g.2))).Nodup := by
    rw [keys, List.map_map]
    exact nodup_displayed h plan
  rw [countsDict, ← foldl_setItem hkeys, List.foldl_map]

/-- **A breakdown that keeps its groups apart counts every alert once.** -/
theorem sum_countsDict {column : Alert → Option String} {db : Db} (h : Apart column db) (plan : Plan) :
    ((countsDict (countBy plan column db)).map Prod.snd).sum = countAlerts db := by
  rw [countsDict_of_apart h, List.map_map, countAlerts, ← sum_groupBy column db.alerts]
  exact ((countBy_perm plan column db).map Prod.snd).sum_eq

/-- The SLA metrics consider every alert. -/
theorem considered_selectSla (nowTs : Time) (plan : Plan) (db : Db) :
    (computeSla nowTs (selectSla plan db)).considered = countAlerts db := by
  have hrows : (selectSla plan db).Perm (slaJoin db.alerts (slaGroups db)) := by
    unfold selectSla
    rw [slaJoin_eq (List.Perm.refl _), slaJoin_eq (List.Perm.refl _)]
    exact (anyOrder_perm _ _).map _
  simp only [computeSla, foldl_slaStep, Nat.zero_add]
  exact filter_counts_length (List.Perm.refl _) hrows

end SocDashboard
