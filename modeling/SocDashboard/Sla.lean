/-
# The SLA metrics

`compute_sla` runs over the rows of a query that joins each alert with the
earliest response among its actions; an alert without one counts with its
current age. `slaReference` says the same of each alert by itself, and
`computeSla_eq_reference` that the two agree on every database, in whatever
order the rows come.

Times are exact in microseconds; `total_seconds` and the rate are doubles, as
in the source.

Key definitions: `computeSla`, `slaGroups`, `slaJoin`, `breachesAt`,
`slaReference`.
Key theorems: `slaJoin_eq`, `lt_totalSeconds_iff`, `percent_le`,
`computeSla_eq_reference`.
-/
import SocDashboard.Lib.Double
import SocDashboard.Lib.Dict
import SocDashboard.Lib.Query
import SocDashboard.World

namespace SocDashboard

open Double Dict

/-- `SLA_SECONDS`. -/
def slaSeconds : Dict String ℤ :=
  [("CRITICAL", 15 * 60), ("HIGH", 60 * 60), ("MEDIUM", 4 * 60 * 60), ("LOW", 24 * 60 * 60)]

/-- A row of the SLA query. -/
structure SlaRow where
  severity : String
  createdAt : Time
  resp : Option ℤ
  deriving DecidableEq, Repr

/-- `timedelta.total_seconds` of a difference in microseconds. -/
def totalSeconds (t : ℤ) : ℚ := double (t / 1000000)

/-- `round(x, 1)`. -/
def pyRound1 (x : ℚ) : ℚ := double (roundEven (10 * x) / 10)

/-- `round(100 * part / whole, 1) if whole else 0.0`. -/
def percent (part whole : ℕ) : ℚ := if whole = 0 then 0 else pyRound1 (double (100 * part / whole))

/-- The counters of the loop of `compute_sla`. -/
structure SlaCounts where
  considered : ℕ
  breaches : ℕ
  bySeverity : Dict String ℕ
  deriving DecidableEq, Repr

/-- `elapsed`: the response time, or the age of an alert without one. -/
def elapsed (now : Time) (r : SlaRow) : ℚ :=
  match r.resp with
  | some seconds => seconds
  | none => totalSeconds (now - r.createdAt)

/-- The body of the loop of `compute_sla`. -/
def slaStep (now : Time) (acc : SlaCounts) (r : SlaRow) : SlaCounts :=
  match getItem slaSeconds r.severity with
  | none => acc
  | some target =>
    if elapsed now r > target then
      { considered := acc.considered + 1, breaches := acc.breaches + 1
        bySeverity := bump acc.bySeverity r.severity }
    else { acc with considered := acc.considered + 1 }

/-- `compute_sla`. -/
def computeSla (now : Time) (rows : List SlaRow) : Sla :=
  let acc := rows.foldl (slaStep now) ⟨0, 0, []⟩
  { breaches := acc.breaches, considered := acc.considered
    breachRate := percent acc.breaches acc.considered, bySeverity := acc.bySeverity }

/-! ### The query -/

/-- `min` of a column: NULLs do not count. -/
def minNonNull (column : List (Option ℤ)) : Option ℤ := (column.filterMap id).min?

/-- `SELECT alert_id, min(response_time_seconds) AS resp FROM analyst_actions GROUP BY alert_id`. -/
def slaGroups (db : Db) : List (ℕ × Option ℤ) :=
  Query.groupBy AnalystAction.alertId (fun rows => minNonNull (rows.map AnalystAction.responseTimeSeconds))
    db.analystActions

/-- The alerts, joined with the groups. -/
def slaJoin (alerts : List Alert) (groups : List (ℕ × Option ℤ)) : List SlaRow :=
  (Query.leftJoin Alert.id alerts groups).map fun row =>
    ⟨row.1.severity.name, row.1.createdAt, row.2.join⟩

/-! ### What the metrics are of each alert -/

/-- The target of a severity, in seconds. -/
def slaTarget : Severity → ℤ
  | .critical => 900
  | .high => 3600
  | .medium => 14400
  | .low => 86400

/-- The earliest response among the alert's own actions. -/
def firstResponse (db : Db) (id : ℕ) : Option ℤ :=
  minNonNull ((db.analystActions.filter fun x => x.alertId = id).map AnalystAction.responseTimeSeconds)

/-- What counts against the target: the earliest response, or the alert's age. -/
def elapsedOf (now : Time) (db : Db) (alert : Alert) : ℚ :=
  match firstResponse db alert.id with
  | some seconds => seconds
  | none => totalSeconds (now - alert.createdAt)

/-- The alert breaches its SLA. -/
def breachesAt (now : Time) (db : Db) (alert : Alert) : Bool :=
  slaTarget alert.severity < elapsedOf now db alert

/-- The alerts of one severity that breach. -/
def breachCount (now : Time) (db : Db) (severity : Severity) : ℕ :=
  (db.alerts.filter fun alert => breachesAt now db alert && alert.severity = severity).length

/-- The metrics, alert by alert. -/
def slaReference (now : Time) (db : Db) : Sla where
  breaches := (db.alerts.filter (breachesAt now db)).length
  considered := db.alerts.length
  breachRate := percent (db.alerts.filter (breachesAt now db)).length db.alerts.length
  bySeverity := (Severity.all.filter fun s => breachCount now db s ≠ 0).map fun s =>
    (s.name, breachCount now db s)

/-! ### Doubles against a target -/

/-- **No breach is lost or made up by `total_seconds`**: the double is above a
whole number of seconds exactly when the time is. -/
theorem lt_totalSeconds_iff {n : ℤ} (h0 : 0 ≤ n) (hn : n < 2 ^ 32) (t : ℤ) :
    (n : ℚ) < totalSeconds t ↔ n * 1000000 < t := by
  have h0' : (0 : ℚ) ≤ n := by exact_mod_cast h0
  have hn' : (n : ℚ) < 2 ^ 32 := by exact_mod_cast hn
  unfold totalSeconds
  constructor
  · intro hlt
    by_contra hle
    have hx : (t : ℚ) / 1000000 ≤ n := by
      rw [div_le_iff₀ (by norm_num)]
      exact_mod_cast not_lt.mp hle
    rcases le_or_gt ((t : ℚ) / 1000000) 0 with hneg | hpos
    · linarith [double_nonpos hneg]
    · have hbound : |(t : ℚ) / 1000000| < 2 ^ 53 := by
        rw [abs_of_pos hpos]
        linarith
      linarith [double_le hbound hx]
  · intro hlt
    have hx : (n : ℚ) + 1 / 1000000 ≤ t / 1000000 := by
      have hs : (n : ℚ) * 1000000 + 1 ≤ t := by exact_mod_cast hlt
      rw [le_div_iff₀ (by norm_num)]
      linarith
    have hpos : (0 : ℚ) < t / 1000000 := by linarith
    rcases lt_or_ge (Int.log 2 ((t : ℚ) / 1000000)) 33 with hlog | hlog
    · -- the unit is below a microsecond
      have hunit : unit ((t : ℚ) / 1000000) ≤ 1 / 2 ^ 20 := by
        unfold unit
        rw [abs_of_pos hpos]
        calc (2 : ℚ) ^ (Int.log 2 ((t : ℚ) / 1000000) - 52) ≤ 2 ^ (-20 : ℤ) :=
              zpow_le_zpow_right₀ (by norm_num) (by omega)
          _ = 1 / 2 ^ 20 := by norm_num
      refine lt_double ?_
      linarith
    · have h32 : (32 : ℤ) ≤ Int.log 2 ((t : ℚ) / 1000000) := by omega
      calc (n : ℚ) < (2 : ℚ) ^ (32 : ℤ) := by exact_mod_cast hn'
        _ ≤ 2 ^ Int.log 2 ((t : ℚ) / 1000000) := zpow_le_zpow_right₀ (by norm_num) h32
        _ ≤ double (t / 1000000) := zpow_log_le_double hpos

theorem pyRound1_bounds {x : ℚ} (h0 : 0 ≤ x) (h1 : x ≤ 100) : 0 ≤ pyRound1 x ∧ pyRound1 x ≤ 100 := by
  have hlow : 0 ≤ roundEven (10 * x) := le_roundEven (by push_cast; linarith)
  have hhigh : roundEven (10 * x) ≤ 1000 := roundEven_le (by push_cast; linarith)
  have hlow' : (0 : ℚ) ≤ roundEven (10 * x) / 10 := by
    have : (0 : ℚ) ≤ roundEven (10 * x) := by exact_mod_cast hlow
    positivity
  have hhigh' : (roundEven (10 * x) : ℚ) / 10 ≤ (100 : ℤ) := by
    have : (roundEven (10 * x) : ℚ) ≤ 1000 := by exact_mod_cast hhigh
    push_cast
    linarith
  refine ⟨double_nonneg hlow', ?_⟩
  have hb := double_le (by rw [abs_of_nonneg hlow']; push_cast at hhigh'; linarith) hhigh'
  rwa [Int.cast_ofNat] at hb

/-- **A percentage is between 0 and 100.** -/
theorem percent_bounds {part whole : ℕ} (h : part ≤ whole) : 0 ≤ percent part whole ∧ percent part whole ≤ 100 := by
  unfold percent
  split_ifs with hw
  · norm_num
  · have hpos : (0 : ℚ) < whole := by exact_mod_cast Nat.pos_of_ne_zero hw
    have hle : (part : ℚ) ≤ whole := by exact_mod_cast h
    have h0 : (0 : ℚ) ≤ 100 * part / whole := by positivity
    have h1 : (100 : ℚ) * part / whole ≤ (100 : ℤ) := by
      rw [div_le_iff₀ hpos]
      push_cast
      linarith
    have hb := double_le (by rw [abs_of_nonneg h0]; push_cast at h1; linarith) h1
    rw [Int.cast_ofNat] at hb
    exact pyRound1_bounds (double_nonneg h0) hb

/-! ### The loop and the query, alert by alert -/

theorem slaSeconds_name (s : Severity) : getItem slaSeconds s.name = some (slaTarget s) := by
  cases s <;> decide

theorem name_injective : Function.Injective Severity.name := by
  intro s t h
  cases s <;> cases t <;> first | rfl | exact absurd h (by decide)

/-- A row breaches. -/
def rowBreaches (now : Time) (r : SlaRow) : Bool :=
  match getItem slaSeconds r.severity with
  | none => false
  | some target => target < elapsed now r

/-- A row whose severity has a target. -/
def rowCounts (r : SlaRow) : Bool := (getItem slaSeconds r.severity).isSome

/-- The counters after the loop. -/
theorem foldl_slaStep (now : Time) (rows : List SlaRow) (acc : SlaCounts) :
    rows.foldl (slaStep now) acc =
      { considered := acc.considered + (rows.filter rowCounts).length
        breaches := acc.breaches + (rows.filter (rowBreaches now)).length
        bySeverity := ((rows.filter (rowBreaches now)).map SlaRow.severity).foldl bump acc.bySeverity } := by
  induction rows generalizing acc with
  | nil => rfl
  | cons r rows ih =>
    rw [List.foldl_cons, ih, slaStep]
    cases ht : getItem slaSeconds r.severity with
    | none =>
      have hc : rowCounts r = false := by simp [rowCounts, ht]
      have hb : rowBreaches now r = false := by simp [rowBreaches, ht]
      simp [hc, hb]
    | some target =>
      have hc : rowCounts r = true := by simp [rowCounts, ht]
      by_cases hlt : elapsed now r > target
      · have hb : rowBreaches now r = true := by simpa [rowBreaches, ht] using hlt
        simp [hc, hb, hlt]
        omega
      · have hb : rowBreaches now r = false := by simpa [rowBreaches, ht] using hlt
        simp [hc, hb, hlt]
        omega

/-- **The join has one row for each alert**, with the earliest response among
its own actions, in whatever order the groups come. -/
theorem slaJoin_eq {db : Db} {groups : List (ℕ × Option ℤ)} (h : groups.Perm (slaGroups db))
    (alerts : List Alert) :
    slaJoin alerts groups =
      alerts.map fun alert => ⟨alert.severity.name, alert.createdAt, firstResponse db alert.id⟩ := by
  rw [slaJoin, Query.leftJoin_groups h, List.map_map]
  refine List.map_congr_left fun alert _ => ?_
  simp only [Function.comp_apply, firstResponse, SlaRow.mk.injEq, true_and]
  split_ifs with hex
  · rfl
  · have hnone : (db.analystActions.filter fun x => x.alertId = alert.id) = [] := by
      refine List.filter_eq_nil_iff.mpr fun x hx he => hex ⟨x, hx, of_decide_eq_true he⟩
    rw [hnone]
    rfl

/-- The row of an alert breaches when the alert does. -/
theorem rowBreaches_of_alert (now : Time) (db : Db) (alert : Alert) :
    rowBreaches now ⟨alert.severity.name, alert.createdAt, firstResponse db alert.id⟩ =
      breachesAt now db alert := by
  unfold rowBreaches
  rw [slaSeconds_name]
  rfl

theorem rowCounts_of_alert (alert : Alert) (resp : Option ℤ) :
    rowCounts ⟨alert.severity.name, alert.createdAt, resp⟩ = true := by
  rw [rowCounts, slaSeconds_name]
  rfl

/-- The severities of the alerts that breach. -/
theorem count_breaches (now : Time) (db : Db) (s : Severity) :
    ((db.alerts.filter (breachesAt now db)).map fun alert => alert.severity.name).count s.name =
      breachCount now db s := by
  rw [List.count_eq_countP, List.countP_map, List.countP_filter, List.countP_eq_length_filter, breachCount]
  congr 1
  refine List.filter_congr fun alert _ => ?_
  have hname : (alert.severity.name == s.name) = decide (alert.severity = s) := by
    rw [Bool.beq_eq_decide_eq, decide_eq_decide]
    exact name_injective.eq_iff
  simp [hname, Bool.and_comm]

theorem nodup_reference (now : Time) (db : Db) : (keys (slaReference now db).bySeverity).Nodup := by
  have hnames : (Severity.all.map Severity.name).Nodup := by decide
  unfold keys slaReference
  rw [List.map_map]
  exact hnames.sublist (List.filter_sublist.map _)

/-- The entries of the reference, as counts of the breaching alerts' severities. -/
theorem mem_reference {now : Time} {db : Db} {e : String × ℕ} :
    (e.1 ∈ ((db.alerts.filter (breachesAt now db)).map fun alert => alert.severity.name) ∧
        e.2 = ((db.alerts.filter (breachesAt now db)).map fun alert => alert.severity.name).count e.1) ↔
      e ∈ (slaReference now db).bySeverity := by
  obtain ⟨k, n⟩ := e
  simp only [slaReference, List.mem_map, List.mem_filter, decide_eq_true_eq, Prod.mk.injEq]
  constructor
  · rintro ⟨⟨alert, ⟨halert, hb⟩, rfl⟩, hn⟩
    have hmem : alert.severity.name ∈
        ((db.alerts.filter (breachesAt now db)).map fun alert => alert.severity.name) :=
      List.mem_map.mpr ⟨alert, List.mem_filter.mpr ⟨halert, hb⟩, rfl⟩
    rw [count_breaches] at hn
    refine ⟨alert.severity, ⟨by cases alert.severity <;> decide, ?_⟩, rfl, hn.symm⟩
    rw [← count_breaches]
    exact (List.count_pos_iff.mpr hmem).ne'
  · rintro ⟨s, ⟨-, hpos⟩, rfl, rfl⟩
    rw [← count_breaches] at hpos ⊢
    obtain ⟨alert, halert, hs⟩ := List.mem_map.mp (List.count_pos_iff.mp (Nat.pos_of_ne_zero hpos))
    exact ⟨⟨alert, List.mem_filter.mp halert, hs⟩, rfl⟩

section Reference

variable {db : Db} {now : Time} {groups : List (ℕ × Option ℤ)} {rows : List SlaRow}

/-- The rows in any order have the breaches of the alerts. -/
theorem filter_breaches_perm (hg : groups.Perm (slaGroups db)) (hr : rows.Perm (slaJoin db.alerts groups)) :
    ((rows.filter (rowBreaches now)).map SlaRow.severity).Perm
      ((db.alerts.filter (breachesAt now db)).map fun alert => alert.severity.name) := by
  rw [slaJoin_eq hg] at hr
  have hp := (hr.filter (rowBreaches now)).map SlaRow.severity
  rw [List.filter_map, List.map_map] at hp
  have hf : (rowBreaches now ∘ fun alert : Alert =>
      (⟨alert.severity.name, alert.createdAt, firstResponse db alert.id⟩ : SlaRow)) = breachesAt now db :=
    funext fun alert => rowBreaches_of_alert now db alert
  rwa [hf] at hp

theorem filter_counts_length (hg : groups.Perm (slaGroups db)) (hr : rows.Perm (slaJoin db.alerts groups)) :
    (rows.filter rowCounts).length = db.alerts.length := by
  rw [slaJoin_eq hg] at hr
  have hall : ∀ r ∈ rows, rowCounts r = true := by
    intro r hmem
    obtain ⟨alert, -, rfl⟩ := List.mem_map.mp (hr.mem_iff.mp hmem)
    exact rowCounts_of_alert alert _
  rw [List.filter_eq_self.mpr hall, hr.length_eq, List.length_map]

/-- **The SLA numbers are those of the alerts one by one**, in whatever order
the database returns groups and rows. -/
theorem computeSla_eq_reference (hg : groups.Perm (slaGroups db))
    (hr : rows.Perm (slaJoin db.alerts groups)) :
    (computeSla now rows).considered = (slaReference now db).considered ∧
      (computeSla now rows).breaches = (slaReference now db).breaches ∧
      (computeSla now rows).breachRate = (slaReference now db).breachRate ∧
      (computeSla now rows).bySeverity.Perm (slaReference now db).bySeverity ∧
      ((computeSla now rows).bySeverity.map Prod.snd).sum = (computeSla now rows).breaches ∧
      0 ≤ (computeSla now rows).breachRate ∧ (computeSla now rows).breachRate ≤ 100 := by
  have hp : ((rows.filter (rowBreaches now)).map SlaRow.severity).Perm
      ((db.alerts.filter (breachesAt now db)).map fun alert => alert.severity.name) :=
    filter_breaches_perm hg hr
  have hlen : (rows.filter (rowBreaches now)).length = (db.alerts.filter (breachesAt now db)).length := by
    simpa using hp.length_eq
  have hcount := filter_counts_length hg hr
  have hsla : computeSla now rows =
      { breaches := (db.alerts.filter (breachesAt now db)).length, considered := db.alerts.length
        breachRate := percent (db.alerts.filter (breachesAt now db)).length db.alerts.length
        bySeverity := count ((rows.filter (rowBreaches now)).map SlaRow.severity) } := by
    simp only [computeSla, foldl_slaStep, Nat.zero_add, hlen, hcount, count]
  have hrate := percent_bounds (List.length_filter_le (breachesAt now db) db.alerts)
  rw [hsla]
  refine ⟨rfl, rfl, rfl, ?_, ?_, hrate.1, hrate.2⟩
  · refine (List.perm_ext_iff_of_nodup (List.Nodup.of_map _ (nodup_count _))
      (List.Nodup.of_map _ (nodup_reference now db))).mpr fun e => ?_
    rw [mem_count, hp.mem_iff, hp.count_eq, mem_reference]
  · rw [sum_count, List.length_map, hlen]

end Reference

/-- An alert answered late and again in time unknown, and an open one of two hours. -/
def lateAndOpen : Db :=
  { applySchema none with
    alerts :=
      [{ id := 1, title := "a", category := "c", severity := .high, source := none, sourceIp := none
         description := none, workflowRunId := none, runMetadata := none, createdAt := 0
         status := .escalated, assignedTo := some "asmith" },
       { id := 2, title := "b", category := "c", severity := .low, source := none, sourceIp := none
         description := none, workflowRunId := none, runMetadata := none, createdAt := 0
         status := .open_, assignedTo := none }]
    analystActions := [⟨1, 1, "asmith", .escalate, 0, none⟩, ⟨2, 1, "asmith", .escalate, 0, some 3601⟩] }

theorem computeSla_lateAndOpen :
    (computeSla 7200000000 (slaJoin lateAndOpen.alerts (slaGroups lateAndOpen)).reverse).breaches = 1 ∧
      (computeSla 7200000000 (slaJoin lateAndOpen.alerts (slaGroups lateAndOpen)).reverse).considered = 2 := by
  obtain ⟨hc, hb, -⟩ := @computeSla_eq_reference lateAndOpen 7200000000 _ _ (List.Perm.refl _)
    (List.reverse_perm (slaJoin lateAndOpen.alerts (slaGroups lateAndOpen)))
  exact ⟨hb.trans (by decide +kernel), hc.trans rfl⟩

end SocDashboard
