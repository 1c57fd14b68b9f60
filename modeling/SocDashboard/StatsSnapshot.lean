/-
# The statistics while others commit

Under READ COMMITTED each of the nine statements of `api_stats` sees what is
committed when it starts. `Commit` is a transaction that commits in between:
an ingest, a classification, a purge; `Schedule` says which ones commit
between each statement and the one before. The answer fits one state exactly
when the transactions between the statements it compares cancel out.

Key definitions: `Commit`, `commitStep`, `Schedule`, `added`, `opened`,
`closed`.
Key theorems: `storeStep_commits`, `countAlerts_run`, `oneState_iff`.
-/
import SocDashboard.Stats
import SocDashboard.Store

namespace SocDashboard

open Runs Query

/-- A transaction that commits: what it writes. -/
inductive Commit
  | ingest (now : Time) (v : AlertValues)
  | classify (now : Time) (user : User) (alertId : ℕ) (analystName : String) (action : Action)
      (seconds : ℕ)
  | purge (cutoff : Time)

/-- The alert is there and open. -/
def closes (db : Db) (alertId : ℕ) : Bool :=
  (db.alert? alertId).any fun alert => alert.status = .open_

/-- What a committed transaction makes of the database; a classification of an
alert that is not open has been refused. -/
def commitStep (db : Db) : Commit → Db
  | .ingest now v => db.withAlert now v
  | .classify now user alertId analystName action seconds =>
    if closes db alertId then db.triaged now user alertId analystName action seconds else db
  | .purge cutoff => db.purged cutoff

/-- The transactions that commit between a statement and the one before it. -/
structure Schedule where
  open_ : List Commit
  byCategory : List Commit
  bySeverity : List Commit
  bySource : List Commit
  escalation : List Commit
  assignees : List Commit
  mttrByAnalyst : List Commit
  sla : List Commit

namespace Schedule

/-- The transactions between the first statement and this one. -/
def before (g : Schedule) : StatsStatement → List Commit
  | .total => []
  | .open_ => g.open_
  | .byCategory => g.open_ ++ g.byCategory
  | .bySeverity => g.open_ ++ g.byCategory ++ g.bySeverity
  | .bySource => g.open_ ++ g.byCategory ++ g.bySeverity ++ g.bySource
  | .escalation => g.open_ ++ g.byCategory ++ g.bySeverity ++ g.bySource ++ g.escalation
  | .assignees => g.open_ ++ g.byCategory ++ g.bySeverity ++ g.bySource ++ g.escalation ++ g.assignees
  | .mttrByAnalyst =>
    g.open_ ++ g.byCategory ++ g.bySeverity ++ g.bySource ++ g.escalation ++ g.assignees ++ g.mttrByAnalyst
  | .sla =>
    g.open_ ++ g.byCategory ++ g.bySeverity ++ g.bySource ++ g.escalation ++ g.assignees ++
      g.mttrByAnalyst ++ g.sla

/-- What each statement sees, from the database that the first one saw. -/
def snapshot (g : Schedule) (db : Db) (s : StatsStatement) : Db := run commitStep db (g.before s)

/-- Nothing commits in between. -/
def quiet : Schedule := ⟨[], [], [], [], [], [], [], []⟩

end Schedule

/-! ### What a transaction adds, opens and closes -/

/-- The alerts a transaction adds, less those it deletes. -/
def added (db : Db) : Commit → ℤ
  | .ingest _ _ => 1
  | .classify .. => 0
  | .purge cutoff => -(db.alerts.countP fun row => row.createdAt < cutoff : ℕ)

/-- The open alerts a transaction adds, less those it deletes or closes. -/
def opened (db : Db) : Commit → ℤ
  | .ingest _ _ => 1
  | .classify _ _ alertId _ _ _ => if closes db alertId then -1 else 0
  | .purge cutoff => -(db.alerts.countP fun row => row.createdAt < cutoff && row.status = .open_ : ℕ)

/-- The alerts a transaction closes, less the closed ones it deletes. -/
def closed (db : Db) : Commit → ℤ
  | .ingest _ _ => 0
  | .classify _ _ alertId _ _ _ => if closes db alertId then 1 else 0
  | .purge cutoff => -(db.alerts.countP fun row => row.createdAt < cutoff && row.status ≠ .open_ : ℕ)

/-- The ids of the alerts are distinct and behind the sequence. -/
structure KeysOk (db : Db) : Prop where
  distinct : Table.Distinct Alert.id db.alerts
  fresh : ∀ alert ∈ db.alerts, alert.id < db.alertsSeq

theorem closes_iff {db : Db} {alertId : ℕ} :
    closes db alertId = true ↔ ∃ alert, db.alert? alertId = some alert ∧ alert.status = .open_ := by
  unfold closes
  cases db.alert? alertId <;> simp

/-- A committed transaction is a step of the store. -/
theorem commitStep_storeStep (db : Db) (c : Commit) :
    StoreStep (fun _ => True) (fun _ => True) (fun _ => True) db (commitStep db c) := by
  cases c with
  | ingest now v => exact .ingested now v trivial (refl _)
  | classify now user alertId analystName action seconds =>
    rw [commitStep]
    split_ifs with hc
    · obtain ⟨alert, hal, hopen⟩ := closes_iff.mp hc
      exact .triaged now user alertId analystName action seconds alert hal hopen
        (Int.natCast_nonneg _) (refl _)
    · exact .unchanged (refl db)
  | purge cutoff => exact .purged cutoff trivial (refl _)

theorem KeysOk.commit {db : Db} (h : KeysOk db) (c : Commit) : KeysOk (commitStep db c) :=
  ⟨(commitStep_storeStep db c).distinct h.distinct h.fresh, (commitStep_storeStep db c).fresh h.fresh⟩

/-- **The steps of the store are committed transactions**, as far as the
statistics can see: each leaves the alerts and actions of one or of none. -/
theorem storeStep_commits {V : AlertValues → Prop} {N : String → Prop} {C : Time → Prop} {db db' : Db}
    (h : StoreStep V N C db db') :
    ∃ cs, cs.length ≤ 1 ∧ (run commitStep db cs).alerts = db'.alerts ∧
      (run commitStep db cs).analystActions = db'.analystActions := by
  cases h with
  | unchanged h => exact ⟨[], Nat.zero_le _, h.alertRows.symm, h.actionRows.symm⟩
  | ingested now v _ h => exact ⟨[.ingest now v], le_rfl, h.alertRows.symm, h.actionRows.symm⟩
  | triaged now user alertId analystName action seconds alert hal hopen hs h =>
    refine ⟨[.classify now user alertId analystName action seconds.toNat], le_rfl, ?_⟩
    have hstep : run commitStep db [.classify now user alertId analystName action seconds.toNat] =
        db.triaged now user alertId analystName action seconds := by
      rw [run_cons, run_nil, commitStep, if_pos (closes_iff.mpr ⟨alert, hal, hopen⟩), Int.toNat_of_nonneg hs]
    rw [hstep]
    exact ⟨h.alertRows.symm, h.actionRows.symm⟩
  | noted now user alertId note alert _ _ h => exact ⟨[], Nat.zero_le _, h.alertRows.symm, h.actionRows.symm⟩
  | purged cutoff _ h => exact ⟨[.purge cutoff], le_rfl, h.alertRows.symm, h.actionRows.symm⟩
  | account username passwordHash role h =>
    exact ⟨[], Nat.zero_le _, h.alertRows.symm, h.actionRows.symm⟩

/-! ### The counts after a run -/

/-- A purge takes what it deletes off every count. -/
theorem countP_purged (db : Db) (cutoff : Time) (p : Alert → Bool) :
    ((db.purged cutoff).alerts.countP p : ℤ) =
      db.alerts.countP p + -((db.alerts.countP fun row => row.createdAt < cutoff && p row : ℕ) : ℤ) := by
  have hsplit : ∀ rows : List Alert, (rows.filter fun row => !(row.createdAt < cutoff : Bool)).countP p +
      rows.countP (fun row => row.createdAt < cutoff && p row) = rows.countP p := by
    intro rows
    induction rows with
    | nil => rfl
    | cons row rows ih =>
      by_cases hc : row.createdAt < cutoff
      · simp only [List.filter_cons, hc, decide_true, Bool.not_true, Bool.false_eq_true, if_false,
          List.countP_cons, Bool.true_and]
        omega
      · simp only [List.filter_cons, hc, decide_false, Bool.not_false, if_true, List.countP_cons,
          Bool.false_and, Bool.false_eq_true, if_false]
        omega
  have := hsplit db.alerts
  simp only [Db.purged]
  omega

theorem countAlerts_commit (db : Db) (c : Commit) :
    (countAlerts (commitStep db c) : ℤ) = countAlerts db + added db c := by
  cases c with
  | ingest now v => simp [commitStep, countAlerts, Db.withAlert, added]
  | classify now user alertId analystName action seconds =>
    simp only [commitStep, added, add_zero]
    split_ifs
    · simp [countAlerts, Db.triaged, Db.withAudit, Db.withAction, Db.assigned, Table.update]
    · rfl
  | purge cutoff =>
    have h := countP_purged db cutoff fun _ => true
    simp only [List.countP_true, Bool.and_true] at h
    exact h

/-- What closing an alert does to a count by status. -/
theorem countP_triaged (now : Time) (user : User) (analystName : String) (action : Action) (seconds : ℤ)
    {db : Db} (h : KeysOk db) {alertId : ℕ} {alert : Alert} (hal : db.alert? alertId = some alert)
    (hopen : alert.status = .open_) (p : Status → Bool) :
    (db.triaged now user alertId analystName action seconds).alerts.countP (fun row => p row.status) +
        (if p .open_ then 1 else 0) =
      db.alerts.countP (fun row => p row.status) + if p (actionToStatus action) then 1 else 0 := by
  have hc := Table.countP_update (f := Db.assign (actionToStatus action) analystName)
    (p := fun row => p row.status) h.distinct hal
  rw [hopen] at hc
  exact hc

theorem countOpen_commit {db : Db} (h : KeysOk db) (c : Commit) :
    (countOpen (commitStep db c) : ℤ) = countOpen db + opened db c := by
  cases c with
  | ingest now v => simp [commitStep, countOpen, Db.withAlert, Db.newAlert, opened]
  | classify now user alertId analystName action seconds =>
    rw [commitStep, opened]
    split_ifs with hcl
    · obtain ⟨alert, hal, hopen⟩ := closes_iff.mp hcl
      have hc := countP_triaged now user analystName action seconds h hal hopen fun s => s = .open_
      simp only [decide_true, if_true, actionToStatus_ne_open action, decide_false, Bool.false_eq_true,
        if_false] at hc
      unfold countOpen
      omega
    · rw [add_zero]
  | purge cutoff => exact countP_purged db cutoff fun row => row.status = .open_

theorem countTriaged_commit {db : Db} (h : KeysOk db) (c : Commit) :
    (countTriaged (commitStep db c) : ℤ) = countTriaged db + closed db c := by
  cases c with
  | ingest now v => simp [commitStep, countTriaged, Db.withAlert, Db.newAlert, closed]
  | classify now user alertId analystName action seconds =>
    rw [commitStep, closed]
    split_ifs with hcl
    · obtain ⟨alert, hal, hopen⟩ := closes_iff.mp hcl
      have hc := countP_triaged now user analystName action seconds h hal hopen fun s => s ≠ .open_
      simp only [ne_eq, not_true_eq_false, decide_false, Bool.false_eq_true, if_false,
        actionToStatus_ne_open action, not_false_eq_true, decide_true, if_true] at hc
      unfold countTriaged
      simp only [ne_eq]
      omega
    · rw [add_zero]
  | purge cutoff => exact countP_purged db cutoff fun row => row.status ≠ .open_

/-! ### One answer, one state -/

section Answer

variable {db : Db}

/-- The counts after transactions are the counts before and what these did. -/
theorem countAlerts_run (h : KeysOk db) (cs : List Commit) :
    (countAlerts (run commitStep db cs) : ℤ) = countAlerts db + gain commitStep added db cs :=
  run_gain commitStep (I := KeysOk) (m := fun db => (countAlerts db : ℤ)) (fun _ c hk => KeysOk.commit hk c)
    (fun d c _ => countAlerts_commit d c) cs db h

theorem countOpen_run (h : KeysOk db) (cs : List Commit) :
    (countOpen (run commitStep db cs) : ℤ) = countOpen db + gain commitStep opened db cs :=
  run_gain commitStep (I := KeysOk) (m := fun db => (countOpen db : ℤ)) (fun _ c hk => KeysOk.commit hk c)
    (fun _ c hk => countOpen_commit hk c) cs db h

theorem countTriaged_run (h : KeysOk db) (cs : List Commit) :
    (countTriaged (run commitStep db cs) : ℤ) = countTriaged db + gain commitStep closed db cs :=
  run_gain commitStep (I := KeysOk) (m := fun db => (countTriaged db : ℤ)) (fun _ c hk => KeysOk.commit hk c)
    (fun _ c hk => countTriaged_commit hk c) cs db h

/-- An alert is open or triaged. -/
theorem countAlerts_eq (db : Db) : countAlerts db = countOpen db + countTriaged db := by
  unfold countAlerts countOpen countTriaged
  rw [List.length_eq_countP_add_countP fun row : Alert => decide (row.status = .open_)]
  congr 2
  funext row
  simp

/-- **When one stats answer describes one state.** For every database whose
ids are distinct and every schedule: exactly when the transactions between the
first count and the severity breakdown add as many alerts as they delete, so
do those up to the SLA query, and the alerts opened up to the open count make
up for those closed up to the escalation query. -/
theorem oneState_iff (h : KeysOk db) (pg : Pg) (plan : StatsStatement → Plan) (now nowTs : Time)
    (g : Schedule) :
    OneState (apiStatsAnswer pg plan now nowTs (g.snapshot db)) ↔
      gain commitStep added db (g.before .bySeverity) = 0 ∧
        gain commitStep added db (g.before .sla) = 0 ∧
        gain commitStep opened db (g.before .open_) + gain commitStep closed db (g.before .escalation) = 0 := by
  have hopen := countOpen_run h (g.before .open_)
  have htriaged := countTriaged_run h (g.before .escalation)
  have hseverity := countAlerts_run h (g.before .bySeverity)
  have hsla := countAlerts_run h (g.before .sla)
  have htotal := countAlerts_eq db
  have hsum : ((apiStatsAnswer pg plan now nowTs (g.snapshot db)).bySeverity.map Prod.snd).sum =
      countAlerts (g.snapshot db .bySeverity) := sum_countsDict (apart_of_isSome fun _ _ => rfl) (plan .bySeverity)
  have hconsidered : (apiStatsAnswer pg plan now nowTs (g.snapshot db)).sla.considered =
      countAlerts (g.snapshot db .sla) := considered_selectSla nowTs (plan .sla) _
  constructor
  · rintro ⟨-, hct, -, hs, hc⟩
    rw [hsum] at hs
    rw [hconsidered] at hc
    simp only [apiStatsAnswer, statsOf, statsRows, Schedule.snapshot, Schedule.before, run_nil] at hct hs hc
    simp only [Schedule.before] at hopen htriaged hseverity hsla ⊢
    omega
  · rintro ⟨hs, hc, hct⟩
    have hall : (countAlerts db : ℤ) - countOpen (g.snapshot db .open_) =
        countTriaged (g.snapshot db .escalation) := by
      unfold Schedule.snapshot
      omega
    have hnonneg : (0 : ℤ) ≤ countTriaged (g.snapshot db .escalation) := Int.natCast_nonneg _
    refine ⟨?_, hall, ?_, ?_, ?_⟩
    · show (0 : ℤ) ≤ (countAlerts db : ℤ) - countOpen (g.snapshot db .open_)
      omega
    · show countOpen (g.snapshot db .open_) ≤ countAlerts db
      omega
    · rw [hsum]
      show countAlerts (run commitStep db (g.before .bySeverity)) = countAlerts db
      omega
    · rw [hconsidered]
      show countAlerts (run commitStep db (g.before .sla)) = countAlerts db
      omega

end Answer

section Example

def scanValues : AlertValues := ⟨"Port scan", "port_scan", .high, none, none, none, none, none⟩

/-- Two open alerts. -/
def twoOpen : Db := run commitStep (applySchema none) [.ingest 0 scanValues, .ingest 10 scanValues]

/-- The newer alert is triaged before the open count; then one alert comes in and the older
one is purged. -/
def balanced : Schedule :=
  { Schedule.quiet with
    open_ := [.classify 20 ⟨1, "ana", .analyst⟩ 2 "ana" .escalate 10]
    byCategory := [.ingest 30 scanValues, .purge 5] }

theorem keysOk_twoOpen : KeysOk twoOpen :=
  run_inv commitStep (I := KeysOk) (fun _ c h => KeysOk.commit h c) _ _
    ⟨List.nodup_nil, by simp [applySchema, emptyTables]⟩

/-- What the transactions in between add and close cancels out. -/
theorem oneState_balanced :
    OneState (apiStatsAnswer utc (fun _ => asStored) 40 40 (balanced.snapshot twoOpen)) :=
  (oneState_iff keysOk_twoOpen utc (fun _ => asStored) 40 40 balanced).mpr ⟨by decide, by decide, by decide⟩

/-- An alert comes in between the count of all and the count of the open alerts. -/
def ingestBetween : Schedule :=
  { Schedule.quiet with
    open_ := [.ingest 0 scanValues] }

/-- **An answer that no state has**: one open alert of none, `closed` is -1. -/
theorem closed_is_negative :
    (apiStatsAnswer utc (fun _ => asStored) 0 0 (ingestBetween.snapshot (applySchema none))).closed = -1 ∧
      ¬OneState (apiStatsAnswer utc (fun _ => asStored) 0 0 (ingestBetween.snapshot (applySchema none))) := by
  have hclosed :
      (apiStatsAnswer utc (fun _ => asStored) 0 0 (ingestBetween.snapshot (applySchema none))).closed = -1 :=
    rfl
  refine ⟨hclosed, fun h => ?_⟩
  have := h.closed_nonneg
  omega

end Example

end SocDashboard
