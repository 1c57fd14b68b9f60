/-
# The statistics of a seeded database

seed.py is there to fill the dashboard. Whatever it draws, and whatever the
database held before, `/api/stats` then answers the numbers the script is
built for, at any time: its categories, severities and sources, thirty closed
alerts and no breach among them. For two and a half hours no open alert is in
breach either but the CRITICAL ones and those HIGH ones that are older than an
hour. So the breach rate is two points for each of these, and nothing keeps it
near the 8 to 12 percent that the script speaks of.

The thirty actions all lie in the seven days of the MTTR query for as long as
the shortest response and the minute that the oldest age leaves.

Key definitions: `openAge`, `SeedDraw.Dated`, `SeedDraw.late`, `DemoStats`,
`DemoSla`.
Key theorems: `countsDict_perm_count`, `seeded_rows`, `late_eq_unattended`,
`unattended_eq_overdue`, `demoStats_seeded`.
-/
import SocDashboard.Seed
import SocDashboard.SlaTriage
import SocDashboard.Stats

namespace SocDashboard

open Dict Query

/-! ### The ages -/

def minute : ℤ := 60000000

/-- `_open_age`, in minutes. -/
def openAge : Severity → ℤ × ℤ
  | .critical => (18, 30)
  | .high => (30, 85)
  | .medium => (20, 90)
  | .low => (30, 180)

/-- The draw of `created_at`: `built` is the clock of `build_alerts`, `now` that of `main`,
which sets the open alerts' once more. -/
def SeedDraw.Dated (built now : Time) (d : SeedDraw) : Prop :=
  if d.closing.isSome then
    ∃ days hours minutes : ℤ, (0 ≤ days ∧ days ≤ 6) ∧ (0 ≤ hours ∧ hours ≤ 23) ∧
      (0 ≤ minutes ∧ minutes ≤ 59) ∧
      d.createdAt = built - (days * day + hours * (60 * minute) + minutes * minute)
  else
    ∃ minutes : ℤ, ((openAge d.severity).1 ≤ minutes ∧ minutes ≤ (openAge d.severity).2) ∧
      d.createdAt = now - minutes * minute

/-- The alert breaches its SLA at that time. -/
def SeedDraw.late (nowTs : Time) (d : SeedDraw) : Bool :=
  match d.closing with
  | some c => slaTarget d.severity < c.responseTime
  | none => slaTarget d.severity * 1000000 < nowTs - d.createdAt

/-- Closed by an escalation. -/
def SeedDraw.escalated (d : SeedDraw) : Bool := d.closing.any fun c => c.action = .escalate

/-- Open and past its SLA. -/
def SeedDraw.unattended (nowTs : Time) (d : SeedDraw) : Bool :=
  d.closing.isNone && slaTarget d.severity * 1000000 < nowTs - d.createdAt

/-- Open and past an SLA of at most an hour. -/
def SeedDraw.overdue (nowTs : Time) (d : SeedDraw) : Bool :=
  d.closing.isNone && (d.severity = .critical || (d.severity = .high && 60 * minute < nowTs - d.createdAt))

/-- What the answer says of the demo data at any time; `nowTs` is what `compute_sla` takes. -/
structure DemoStats (plan : SeedPlan) (nowTs : Time) (s : Stats) : Prop where
  total : s.total = 50
  open_ : s.open_ = 20
  closed : s.closed = 30
  byCategory : s.byCategory.Perm
    [("brute_force", 12), ("malware", 10), ("phishing", 10), ("port_scan", 10), ("anomaly", 8)]
  bySeverity : s.bySeverity.Perm [("CRITICAL", 8), ("HIGH", 15), ("MEDIUM", 17), ("LOW", 10)]
  bySource : s.bySource.Perm
    [("Auth Logs", 12), ("EDR", 10), ("Email Gateway", 10), ("Firewall/IDS", 10), ("SIEM/UEBA", 8)]
  triaged : s.escalation.triaged = 30
  escalated : s.escalation.escalated = plan.draws.countP SeedDraw.escalated
  assignees : ∀ name ∈ s.assignees, name ∈ seedAnalysts
  considered : s.sla.considered = 50
  breaches : s.sla.breaches = plan.draws.countP (SeedDraw.unattended nowTs)
  breachRate : s.sla.breachRate = 2 * plan.draws.countP (SeedDraw.unattended nowTs)
  analysts : ∀ row ∈ s.mttrByAnalyst, row.analyst ∈ seedAnalysts

/-- The breaches that the script is built to show. -/
structure DemoSla (plan : SeedPlan) (nowTs : Time) (s : Stats) : Prop where
  breaches : s.sla.breaches = plan.draws.countP (SeedDraw.overdue nowTs)
  breachRate : s.sla.breachRate = 2 * plan.draws.countP (SeedDraw.overdue nowTs)

/-! ### Breakdowns as counts -/

/-- A breakdown of a column without NULLs counts its texts. -/
theorem countsDict_perm_count {column : Alert → Option String} {f : Alert → String} {db : Db}
    (h : ∀ row ∈ db.alerts, column row = some (f row)) (plan : Plan) :
    (countsDict (countBy plan column db)).Perm (count (db.alerts.map f)) := by
  have hapart : Apart column db := apart_of_isSome fun row hrow => by rw [h row hrow]; rfl
  have hkeys : (keys (countsDict (countBy plan column db))).Nodup := by
    rw [countsDict_of_apart hapart, keys, List.map_map]
    exact nodup_displayed hapart plan
  refine (List.perm_ext_iff_of_nodup hkeys.of_map (nodup_count _).of_map).mpr fun e => ?_
  have hcount : ∀ k, (db.alerts.filter fun row => column row = some k).length = (db.alerts.map f).count k := by
    intro k
    rw [← List.countP_eq_length_filter, List.count_eq_countP, List.countP_map]
    refine List.countP_congr fun row hrow => ?_
    simp [h row hrow]
  rw [countsDict_of_apart hapart, mem_count, List.mem_map]
  constructor
  · rintro ⟨⟨k, n⟩, hg, rfl⟩
    obtain ⟨⟨row, hrow, hk⟩, hn⟩ := mem_groupBy.mp ((countBy_perm plan column db).mem_iff.mp hg)
    rw [h row hrow] at hk
    simp only at hk hn
    subst hk
    exact ⟨List.mem_map_of_mem hrow, hn.trans (hcount _)⟩
  · rintro ⟨hmem, hn⟩
    obtain ⟨row, hrow, hf⟩ := List.mem_map.mp hmem
    refine ⟨(some e.1, e.2), ?_, rfl⟩
    refine (countBy_perm plan column db).mem_iff.mpr (mem_groupBy.mpr ⟨⟨row, hrow, ?_⟩, ?_⟩)
    · rw [h row hrow, hf]
    · exact hn.trans (hcount _).symm

/-! ### The rows that the script leaves -/

/-- The ids in the tables are values that the sequence has given. -/
structure GivenIds (db : Db) : Prop where
  alerts : ∀ row ∈ db.alerts, row.id < db.alertsSeq
  actions : ∀ x ∈ db.analystActions, x.alertId < db.alertsSeq

section Rows

variable {db : Db}

theorem GivenIds.withSeeded (h : GivenIds db) (d : SeedDraw) : GivenIds (db.withSeeded d) := by
  constructor
  · intro row hrow
    rcases List.mem_append.mp hrow with hold | hnew
    · exact (h.alerts row hold).trans (Nat.lt_succ_self _)
    · rw [List.mem_singleton.mp hnew]
      exact Nat.lt_succ_self _
  · intro x hx
    rcases List.mem_append.mp hx with hold | hnew
    · exact (h.actions x hold).trans (Nat.lt_succ_self _)
    · obtain ⟨c, -, rfl⟩ := Option.map_eq_some_iff.mp (Option.mem_toList.mp hnew)
      exact Nat.lt_succ_self _

/-- An older alert keeps its earliest response. -/
theorem firstResponse_older {id : ℕ} (hid : id < db.alertsSeq) (d : SeedDraw) :
    firstResponse (db.withSeeded d) id = firstResponse db id := by
  have hnone : ((d.closing.map (db.seededAction d)).toList.filter fun x => x.alertId = id) = [] := by
    refine List.filter_eq_nil_iff.mpr fun x hx => ?_
    obtain ⟨c, -, rfl⟩ := Option.map_eq_some_iff.mp (Option.mem_toList.mp hx)
    exact fun he => hid.ne' (of_decide_eq_true he)
  rw [firstResponse, firstResponse, Db.withSeeded, List.filter_append, hnone, List.append_nil]

/-- The new alert has the response that was drawn, if it is closed. -/
theorem firstResponse_newest (h : GivenIds db) (d : SeedDraw) :
    firstResponse (db.withSeeded d) db.alertsSeq = d.closing.map SeedClosing.responseTime := by
  have hnone : (db.analystActions.filter fun x => x.alertId = db.alertsSeq) = [] :=
    List.filter_eq_nil_iff.mpr fun x hx => by simpa using (h.actions x hx).ne
  rw [firstResponse, Db.withSeeded, List.filter_append, hnone, List.nil_append]
  cases d.closing with
  | none => rfl
  | some c => simp [Db.seededAction, minNonNull]

/-- **What a statement computes of each alert and its earliest response** is a function of
the draws, one after another. -/
theorem foldl_withSeeded_rows {α : Type*} (f : Alert → Option ℤ → α) (g : SeedDraw → α)
    (hfg : ∀ db d, f (Db.seededAlert db d) (d.closing.map SeedClosing.responseTime) = g d) :
    ∀ (draws : List SeedDraw) (db : Db), GivenIds db →
      ((draws.foldl Db.withSeeded db).alerts.map fun row =>
          f row (firstResponse (draws.foldl Db.withSeeded db) row.id)) =
        (db.alerts.map fun row => f row (firstResponse db row.id)) ++ draws.map g
  | [], db, _ => by simp
  | d :: draws, db, h => by
    have holder : (db.alerts.map fun row => f row (firstResponse (db.withSeeded d) row.id)) =
        db.alerts.map fun row => f row (firstResponse db row.id) :=
      List.map_congr_left fun row hrow => by rw [firstResponse_older (h.alerts row hrow)]
    have hnewest : f (db.seededAlert d) (firstResponse (db.withSeeded d) db.alertsSeq) = g d := by
      rw [firstResponse_newest h, hfg]
    rw [List.foldl_cons, foldl_withSeeded_rows f g hfg draws _ (h.withSeeded d)]
    show ((db.alerts ++ [db.seededAlert d]).map fun row => f row (firstResponse (db.withSeeded d) row.id)) ++
      draws.map g = _
    rw [List.map_append, holder, List.map_cons, List.append_assoc]
    exact congrArg (fun x => _ ++ (x :: _)) hnewest

theorem foldl_withSeeded_actions {α : Type*} (f : AnalystAction → α) (g : SeedDraw → SeedClosing → α)
    (hfg : ∀ db d c, f (Db.seededAction db d c) = g d c) : ∀ (draws : List SeedDraw) (db : Db),
      (draws.foldl Db.withSeeded db).analystActions.map f =
        db.analystActions.map f ++ draws.flatMap fun d => (d.closing.map (g d)).toList
  | [], db => by simp
  | d :: draws, db => by
    rw [List.foldl_cons, foldl_withSeeded_actions f g hfg draws, Db.withSeeded, List.flatMap_cons,
      List.map_append, List.append_assoc]
    cases d.closing with
    | none => rfl
    | some c => simp [hfg]

/-- **The seeded alerts**, seen through what a statement computes of each. -/
theorem seeded_rows {α : Type*} (f : Alert → Option ℤ → α) (g : SeedDraw → α)
    (hfg : ∀ db d, f (Db.seededAlert db d) (d.closing.map SeedClosing.responseTime) = g d) (db : Db)
    (plan : SeedPlan) :
    ((db.seeded plan).alerts.map fun row => f row (firstResponse (db.seeded plan) row.id)) =
      plan.draws.map g := by
  have hgiven : GivenIds db.truncated :=
    ⟨fun row hrow => absurd hrow List.not_mem_nil, fun x hx => absurd hx List.not_mem_nil⟩
  exact foldl_withSeeded_rows f g hfg plan.draws db.truncated hgiven

/-- The same of a column. -/
theorem seeded_column {α : Type*} {f : Alert → α} {g : SeedDraw → α}
    (hfg : ∀ db d, f (Db.seededAlert db d) = g d) (db : Db) (plan : SeedPlan) :
    (db.seeded plan).alerts.map f = plan.draws.map g :=
  seeded_rows (fun row _ => f row) g (fun db d => hfg db d) db plan

theorem seeded_actions {α : Type*} {f : AnalystAction → α} {g : SeedDraw → SeedClosing → α}
    (hfg : ∀ db d c, f (Db.seededAction db d c) = g d c) (db : Db) (plan : SeedPlan) :
    (db.seeded plan).analystActions.map f = plan.draws.flatMap fun d => (d.closing.map (g d)).toList :=
  foldl_withSeeded_actions f g hfg plan.draws db.truncated

end Rows

/-! ### Who is late -/

/-- What can be drawn of a closed alert. -/
theorem SeedDraw.closing_drawable {d : SeedDraw} (h : d.drawable = true) {c : SeedClosing}
    (hc : d.closing = some c) :
    c.analyst ∈ seedAnalysts ∧ (responseRange d.severity).1 ≤ c.responseTime ∧
      c.responseTime ≤ (responseRange d.severity).2 := by
  simp only [SeedDraw.drawable, Bool.and_eq_true, hc, Option.all_some, decide_eq_true_eq] at h
  exact ⟨h.2.1.1, h.2.1.2, h.2.2⟩

/-- Every response is drawn within the target. -/
theorem SeedDraw.responseTime_le {d : SeedDraw} (h : d.drawable = true) {c : SeedClosing}
    (hc : d.closing = some c) : c.responseTime ≤ slaTarget d.severity := by
  refine (SeedDraw.closing_drawable h hc).2.2.trans ?_
  cases d.severity <;> decide

/-- **Who is late**: no closed alert, at any time. -/
theorem late_eq_unattended {d : SeedDraw} (hd : d.drawable = true) (nowTs : Time) :
    d.late nowTs = d.unattended nowTs := by
  unfold SeedDraw.late SeedDraw.unattended
  cases hc : d.closing with
  | some c =>
    have hmet : ¬ slaTarget d.severity < c.responseTime := not_lt.mpr (SeedDraw.responseTime_le hd hc)
    simpa using hmet
  | none => rfl

/-- For two and a half hours nobody but the overdue. -/
theorem unattended_eq_overdue {built now nowTs : Time} {d : SeedDraw} (hdate : d.Dated built now)
    (hnow : now ≤ nowTs) (hsoon : nowTs ≤ now + 150 * minute) : d.unattended nowTs = d.overdue nowTs := by
  unfold SeedDraw.unattended SeedDraw.overdue
  unfold SeedDraw.Dated at hdate
  cases hc : d.closing with
  | some c => rfl
  | none =>
    rw [hc, if_neg (by simp)] at hdate
    obtain ⟨minutes, ⟨hlow, hhigh⟩, hat⟩ := hdate
    obtain ⟨since, hsince⟩ : ∃ since : ℤ, since = nowTs - now := ⟨_, rfl⟩
    have hpast : 0 ≤ since := hsince ▸ sub_nonneg.mpr hnow
    have hrecent : since ≤ 150 * minute := hsince ▸ sub_left_le_of_le_add hsoon
    have hage : nowTs - d.createdAt = since + minutes * minute := by rw [hat, hsince]; ring
    rw [hage]
    unfold minute at hrecent ⊢
    -- an age is compared with the target in microseconds
    cases hs : d.severity with
    | critical =>
      have hover : slaTarget .critical * 1000000 < since + minutes * 60000000 := by
        simp only [hs, openAge, slaTarget] at hlow ⊢
        omega
      simpa using hover
    | high => rfl
    | medium =>
      have hwithin : ¬ slaTarget .medium * 1000000 < since + minutes * 60000000 := by
        simp only [hs, openAge, slaTarget] at hhigh ⊢
        omega
      simpa using hwithin
    | low =>
      have hwithin : ¬ slaTarget .low * 1000000 < since + minutes * 60000000 := by
        simp only [hs, openAge, slaTarget] at hhigh ⊢
        omega
      simpa using hwithin

/-- An alert of the demo data breaches when its draw is late. -/
theorem breaches_seeded (nowTs : Time) (db : Db) (plan : SeedPlan) :
    (db.seeded plan).alerts.map (breachesAt nowTs (db.seeded plan)) = plan.draws.map (SeedDraw.late nowTs) := by
  have hrow : ∀ db d, rowBreaches nowTs ⟨(Db.seededAlert db d).severity.name, (db.seededAlert d).createdAt,
      d.closing.map SeedClosing.responseTime⟩ = d.late nowTs := by
    intro db d
    rw [rowBreaches, slaSeconds_name, SeedDraw.late]
    cases d.closing with
    | some c => exact decide_eq_decide.mpr Int.cast_lt
    | none => exact decide_eq_decide.mpr (lt_totalSeconds_iff (slaTarget_nonneg _) (slaTarget_lt _) _)
  rw [← seeded_rows (fun row resp => rowBreaches nowTs ⟨row.severity.name, row.createdAt, resp⟩) _ hrow db plan]
  exact List.map_congr_left fun row _ => (rowBreaches_of_alert nowTs _ row).symm

/-! ### The answer -/

theorem countP_of_map {α β : Type*} {l : List α} {l' : List β} {p : α → Bool} {q : β → Bool}
    (h : l.map p = l'.map q) : l.countP p = l'.countP q := by
  have hp : l.countP p = (l.map p).countP id := by rw [List.countP_map]; rfl
  have hq : l'.countP q = (l'.map q).countP id := by rw [List.countP_map]; rfl
  rw [hp, hq, h]

section Answer

variable {plan : SeedPlan} {db : Db}

theorem statusOf_eq_open (closing : Option SeedClosing) :
    Db.statusOf closing = .open_ ↔ closing.isNone = true := by
  cases closing with
  | none => exact iff_of_true rfl rfl
  | some c => exact iff_of_false (actionToStatus_ne_open c.action) Bool.false_ne_true

theorem SeedPlan.countP_closed (plan : SeedPlan) : (plan.draws.countP fun d => d.closing.isSome) = 30 := by
  rw [List.countP_eq_length_filter]
  exact plan.closed

theorem SeedPlan.countP_open (plan : SeedPlan) : (plan.draws.countP fun d => d.closing.isNone) = 20 := by
  have hsplit := List.length_eq_countP_add_countP (fun d : SeedDraw => d.closing.isSome) (l := plan.draws)
  have hnone : (fun d : SeedDraw => decide ¬ d.closing.isSome = true) = fun d => d.closing.isNone := by
    funext d
    cases d.closing <;> rfl
  rw [plan.length, plan.countP_closed, hnone] at hsplit
  omega

theorem countAlerts_seeded (db : Db) (plan : SeedPlan) : countAlerts (db.seeded plan) = 50 := by
  have hlen := congrArg List.length (seeded_values db plan)
  rwa [List.length_map, List.length_map, plan.length] at hlen

theorem countOpen_seeded (db : Db) (plan : SeedPlan) : countOpen (db.seeded plan) = 20 := by
  rw [← plan.countP_open]
  exact countP_of_map <| seeded_column
    (fun db d => by rw [Bool.eq_iff_iff, decide_eq_true_iff]; exact statusOf_eq_open d.closing) db plan

theorem countTriaged_seeded (db : Db) (plan : SeedPlan) : countTriaged (db.seeded plan) = 30 := by
  rw [← plan.countP_closed]
  refine countP_of_map <| seeded_column (fun db d => ?_) db plan
  have hopen := statusOf_eq_open d.closing
  cases hc : d.closing with
  | none =>
    rw [hc] at hopen
    simpa [Db.seededAlert, hc] using hopen
  | some c =>
    rw [hc] at hopen
    simpa [Db.seededAlert, hc] using hopen

theorem countEscalated_seeded (db : Db) (plan : SeedPlan) :
    countEscalated (db.seeded plan) = plan.draws.countP SeedDraw.escalated := by
  refine countP_of_map <| seeded_column (fun db d => ?_) db plan
  cases hc : d.closing with
  | none => simp [Db.seededAlert, SeedDraw.escalated, Db.statusOf, hc]
  | some c =>
    obtain ⟨action, analyst, responseTime⟩ := c
    cases action <;> simp [Db.seededAlert, SeedDraw.escalated, Db.statusOf, actionToStatus, hc]

/-- A breakdown of the demo data, in whatever order its rows come: `key` is what was drawn. -/
theorem breakdown_seeded {β : Type*} {column : Alert → Option String} {key : SeedDraw → β} (name : β → String)
    {keys : List β} (hcolumn : ∀ db d, column (Db.seededAlert db d) = some (name (key d)))
    (hkeys : (plan.draws.map key).Perm keys) (db : Db) (order : Plan) :
    (countsDict (countBy order column (db.seeded plan))).Perm (count (keys.map name)) := by
  have hrows : (db.seeded plan).alerts.map column = plan.draws.map fun d => some (name (key d)) :=
    seeded_column hcolumn db plan
  have hsome : ∀ row ∈ (db.seeded plan).alerts, column row = some ((column row).getD "") := by
    intro row hrow
    have hmem : column row ∈ plan.draws.map fun d => some (name (key d)) := hrows ▸ List.mem_map_of_mem hrow
    obtain ⟨d, -, hd⟩ := List.mem_map.mp hmem
    rw [← hd]
    rfl
  have htexts : ((db.seeded plan).alerts.map fun row => (column row).getD "") =
      (plan.draws.map key).map name := by
    rw [List.map_map]
    exact seeded_column (fun db d => by rw [hcolumn]; rfl) db plan
  refine (countsDict_perm_count hsome order).trans ?_
  rw [htexts]
  exact count_perm (hkeys.map name)

/-- An action of the demo data lies in the seven days before the shortest response. -/
theorem action_seeded {built now : Time} (hdate : ∀ d ∈ plan.draws, d.Dated built now) {x : AnalystAction}
    (hx : x ∈ (db.seeded plan).analystActions) :
    x.responseTimeSeconds.isSome = true ∧ built + 3 * minute - 7 * day ≤ x.actedAt := by
  have hrows := seeded_actions (f := fun x => (x.responseTimeSeconds, x.actedAt))
    (g := fun d c => (some c.responseTime, d.createdAt + c.responseTime * 1000000)) (fun db d c => rfl) db plan
  have hmem := List.mem_map_of_mem (f := fun x => (x.responseTimeSeconds, x.actedAt)) hx
  rw [hrows] at hmem
  obtain ⟨d, hd, hmem⟩ := List.mem_flatMap.mp hmem
  obtain ⟨c, hc, hxc⟩ := Option.map_eq_some_iff.mp (Option.mem_toList.mp hmem)
  rw [Prod.mk.injEq] at hxc
  obtain ⟨hresp, hacted⟩ := hxc
  have hlow : 120 ≤ c.responseTime := by
    refine le_trans ?_ (SeedDraw.closing_drawable (plan.drawable d hd) hc).2.1
    cases d.severity <;> decide
  have hat := hdate d hd
  rw [SeedDraw.Dated, hc, if_pos Option.isSome_some] at hat
  obtain ⟨days, hours, minutes, ⟨-, hdays⟩, ⟨-, hhours⟩, ⟨-, hminutes⟩, hcreated⟩ := hat
  refine ⟨by rw [← hresp]; rfl, ?_⟩
  rw [← hacted, hcreated]
  unfold minute day
  linarith

theorem length_closings (g : SeedDraw → SeedClosing → Unit) : ∀ draws : List SeedDraw,
    (draws.flatMap fun d => (d.closing.map (g d)).toList).length = draws.countP fun d => d.closing.isSome
  | [] => rfl
  | d :: draws => by
    rw [List.flatMap_cons, List.length_append, length_closings g draws, List.countP_cons, Nat.add_comm]
    cases d.closing <;> rfl

/-- **All thirty actions count** in the MTTR rows, for three minutes. -/
theorem mttr_seeded {built now clock : Time} (hdate : ∀ d ∈ plan.draws, d.Dated built now)
    (hclock : clock ≤ built + 3 * minute) (pg : Pg) (db : Db) :
    ((selectMttr pg clock (db.seeded plan)).map MttrRow.count).sum = 30 := by
  have hall : ((db.seeded plan).analystActions.filter fun x =>
      x.responseTimeSeconds.isSome && clock - 7 * day ≤ x.actedAt) = (db.seeded plan).analystActions := by
    refine List.filter_eq_self.mpr fun x hx => ?_
    obtain ⟨hsome, hat⟩ := action_seeded hdate hx
    rw [hsome, Bool.true_and, decide_eq_true_iff]
    linarith
  have hlen : (db.seeded plan).analystActions.length = 30 := by
    have hrows := congrArg List.length
      (seeded_actions (f := fun _ => ()) (g := fun _ _ => ()) (fun _ _ _ => rfl) db plan)
    rw [List.length_map] at hrows
    rw [hrows, length_closings, plan.countP_closed]
  have hcounts : ((selectMttr pg clock (db.seeded plan)).map MttrRow.count).Perm
      ((groupBy (fun x => (x.analystName, pg.date x.actedAt)) List.length (db.seeded plan).analystActions).map
        Prod.snd) := by
    rw [selectMttr, hall, List.map_map]
    refine ((orderBy_perm _ _ _).map _).trans (List.Perm.of_eq ?_)
    rw [groupBy, groupBy, List.map_map, List.map_map]
    rfl
  rw [hcounts.sum_eq, sum_groupBy, hlen]

theorem assignees_seeded (pg : Pg) (db : Db) (plan : SeedPlan) {name : String}
    (h : name ∈ selectAssignees pg (db.seeded plan)) : name ∈ seedAnalysts := by
  rw [selectAssignees, (orderBy_perm _ _ _).mem_iff, List.mem_dedup, List.mem_filterMap] at h
  obtain ⟨row, hrow, hname⟩ := h
  have hmem : row.assignedTo ∈ (db.seeded plan).alerts.map Alert.assignedTo := List.mem_map_of_mem hrow
  rw [seeded_column (g := fun d => d.closing.map SeedClosing.analyst) (fun db d => rfl) db plan] at hmem
  obtain ⟨d, hd, hassigned⟩ := List.mem_map.mp hmem
  obtain ⟨c, hc, rfl⟩ := Option.map_eq_some_iff.mp (hassigned.trans hname)
  exact (SeedDraw.closing_drawable (plan.drawable d hd) hc).1

theorem analysts_seeded (pg : Pg) (clock : Time) (db : Db) (plan : SeedPlan) {row : MttrRow}
    (h : row ∈ selectMttr pg clock (db.seeded plan)) : row.analyst ∈ seedAnalysts := by
  rw [selectMttr] at h
  obtain ⟨g, hg, rfl⟩ := List.mem_map.mp h
  obtain ⟨⟨x, hx, hkey⟩, -⟩ := mem_groupBy.mp ((orderBy_perm _ _ _).mem_iff.mp hg)
  have hname : g.1.1 = x.analystName := congrArg Prod.fst hkey.symm
  have hmem := List.mem_map_of_mem (f := AnalystAction.analystName) (List.mem_of_mem_filter hx)
  rw [seeded_actions (g := fun _ c => c.analyst) (fun _ _ _ => rfl) db plan] at hmem
  obtain ⟨d, hd, hmem⟩ := List.mem_flatMap.mp hmem
  obtain ⟨c, hc, hanalyst⟩ := Option.map_eq_some_iff.mp (Option.mem_toList.mp hmem)
  rw [hname, ← hanalyst]
  exact (SeedDraw.closing_drawable (plan.drawable d hd) hc).1

theorem breaches_countP (nowTs : Time) (db : Db) (plan : SeedPlan) :
    ((db.seeded plan).alerts.filter (breachesAt nowTs (db.seeded plan))).length =
      plan.draws.countP (SeedDraw.unattended nowTs) := by
  rw [← List.countP_eq_length_filter, countP_of_map (breaches_seeded nowTs db plan)]
  exact List.countP_congr fun d hd => by rw [late_eq_unattended (plan.drawable d hd)]

/-- Of fifty, each is two percent. -/
theorem percent_fifty {n : ℕ} (h : n ≤ 50) : percent n 50 = 2 * n := by
  have hn : (n : ℚ) ≤ 50 := by exact_mod_cast h
  have hsmall : |((2 * n : ℤ) : ℚ)| < 2 ^ 53 := by
    push_cast
    rw [abs_of_nonneg (by positivity)]
    linarith
  have hquotient : (100 * n / (50 : ℕ) : ℚ) = (2 * n : ℤ) := by
    push_cast
    ring
  -- ten times a whole number is rounded to itself
  have hround : Double.roundEven (10 * ((2 * n : ℤ) : ℚ)) = 10 * (2 * n) := by
    rw [← Double.roundEven_intCast (10 * (2 * n))]
    push_cast
    rfl
  have hback : ((10 * (2 * n) : ℤ) : ℚ) / 10 = (2 * n : ℤ) := by
    push_cast
    ring
  rw [percent, if_neg (by decide), hquotient, Double.double_intCast hsmall, pyRound1, hround, hback,
    Double.double_intCast hsmall]
  push_cast
  rfl

theorem selectSla_perm (order : Plan) (db : Db) :
    (selectSla order db).Perm (slaJoin db.alerts (slaGroups db)) := by
  rw [selectSla, slaJoin_eq (List.Perm.refl _), slaJoin_eq (List.Perm.refl _)]
  exact (anyOrder_perm _ _).map _

/-- What the answer says of the rows of a seeded database. -/
theorem demoStats_rows (pg : Pg) (order : StatsStatement → Plan) (clock nowTs : Time) (db : Db) (plan : SeedPlan) :
    DemoStats plan nowTs (apiStatsAnswer pg order clock nowTs fun _ => db.seeded plan) := by
  obtain ⟨hconsidered, hbreaches, hrate, -⟩ :=
    @computeSla_eq_reference (db.seeded plan) nowTs _ _ (List.Perm.refl _) (selectSla_perm (order .sla) _)
  have hcount := breaches_countP nowTs db plan
  have hlen : (db.seeded plan).alerts.length = 50 := countAlerts_seeded db plan
  constructor
  · exact countAlerts_seeded db plan
  · exact countOpen_seeded db plan
  · show (countAlerts (db.seeded plan) : ℤ) - countOpen (db.seeded plan) = 30
    rw [countAlerts_seeded, countOpen_seeded]
    rfl
  · exact breakdown_seeded SeedCategory.name (fun db d => rfl) plan.categories db _
  · exact breakdown_seeded Severity.name (fun db d => rfl) plan.severities db _
  · exact breakdown_seeded SeedCategory.source (fun db d => rfl) plan.categories db _
  · exact countTriaged_seeded db plan
  · exact countEscalated_seeded db plan
  · exact fun name h => assignees_seeded pg db plan h
  · exact hconsidered.trans hlen
  · exact hbreaches.trans hcount
  · refine hrate.trans ?_
    show percent ((db.seeded plan).alerts.filter (breachesAt nowTs (db.seeded plan))).length
      (db.seeded plan).alerts.length = _
    rw [hcount, hlen]
    exact percent_fifty (List.countP_le_length.trans_eq plan.length)
  · exact fun row h => analysts_seeded pg clock db plan h

/-- The breaches are the overdue, as long as these are all that is unattended. -/
theorem DemoStats.demoSla {built now nowTs : Time} {s : Stats} (h : DemoStats plan nowTs s)
    (hdate : ∀ d ∈ plan.draws, d.Dated built now) (hnow : now ≤ nowTs) (hsoon : nowTs ≤ now + 150 * minute) :
    DemoSla plan nowTs s := by
  have hcount : plan.draws.countP (SeedDraw.unattended nowTs) = plan.draws.countP (SeedDraw.overdue nowTs) :=
    List.countP_congr fun d hd => by rw [unattended_eq_overdue (hdate d hd) hnow hsoon]
  exact ⟨by rw [h.breaches, hcount], by rw [h.breachRate, hcount]⟩

/-- **The statistics of a seeded database**, whatever was drawn and whatever was there before, when the
script commits: the counts, whenever the answer is made; the breaches, if it is made within two and a
half hours of the script; the thirty actions, if their query runs within three minutes of the draws. -/
theorem demoStats_seeded {a : Ambient} (hs : seeds a plan = true) (pg : Pg) (order : StatsStatement → Plan)
    (clock nowTs : Time) (w : World) :
    let s := apiStatsAnswer pg order clock nowTs fun _ => (seedMain a plan w).2.db
    DemoStats plan nowTs s ∧
      ∀ built now : Time, (∀ d ∈ plan.draws, d.Dated built now) →
        (now ≤ nowTs → nowTs ≤ now + 150 * minute → DemoSla plan nowTs s) ∧
          (clock ≤ built + 3 * minute → (s.mttrByAnalyst.map MttrRow.count).sum = 30) := by
  intro s
  have hdb : (seedMain a plan w).2.db = w.db.seeded plan := by rw [seedMain_snd, if_pos hs]; rfl
  have hstats : DemoStats plan nowTs s := by
    show DemoStats plan nowTs (apiStatsAnswer pg order clock nowTs fun _ => (seedMain a plan w).2.db)
    rw [hdb]
    exact demoStats_rows pg order clock nowTs w.db plan
  refine ⟨hstats, fun built now hdate => ⟨hstats.demoSla hdate, fun hclock => ?_⟩⟩
  show ((selectMttr pg clock (seedMain a plan w).2.db).map MttrRow.count).sum = 30
  rw [hdb]
  exact mttr_seeded hdate hclock pg w.db

end Answer

/-! ### A run -/

/-- In minutes: a CRITICAL one past its quarter of an hour, and a HIGH one past its hour or not. -/
def demoAge (severity : Severity) (i : ℕ) : ℤ :=
  if severity = .critical then 20 else if i % 2 = 0 then 80 else 40

/-- The first twenty stay open, and every tenth of the others is escalated. -/
def demoDraw (category : SeedCategory) (severity : Severity) (i : ℕ) : SeedDraw :=
  { firstDraw category severity i with
    createdAt := if i < 20 then -(demoAge severity i * minute) else 0
    closing :=
      if i < 20 then none
      else some ⟨if i % 10 = 0 then .escalate else .classifyTp, if i % 2 = 0 then "alice" else "bob",
        (responseRange severity).1⟩ }

def demoPlan : SeedPlan where
  draws := ((seedCategories.zip seedSeverities).zip (List.range 50)).map fun ((c, s), i) => demoDraw c s i
  categories := List.Perm.of_eq (by decide)
  severities := List.Perm.of_eq (by decide)
  closed := by decide
  drawable := by decide

theorem demoPlan_dated : ∀ d ∈ demoPlan.draws, d.Dated 0 0 := by
  have hdrawn : ∀ d ∈ demoPlan.draws,
      if d.closing.isSome then d.createdAt = 0
      else ∃ minutes ∈ [(20 : ℤ), 40, 80], ((openAge d.severity).1 ≤ minutes ∧ minutes ≤ (openAge d.severity).2) ∧
        d.createdAt = 0 - minutes * minute := by decide +kernel
  intro d hd
  have hat := hdrawn d hd
  unfold SeedDraw.Dated
  split_ifs at hat ⊢ with hclosed
  · exact ⟨0, 0, 0, by decide, by decide, by decide, by simpa using hat⟩
  · obtain ⟨minutes, -, hage⟩ := hat
    exact ⟨minutes, hage⟩

/-- Two minutes on: eight CRITICAL alerts and six HIGH ones are in breach. -/
theorem demoStats_demoPlan :
    let s := apiStatsAnswer utc (fun _ => asStored) (2 * minute) (2 * minute) fun _ =>
      (seedMain calm demoPlan emptyWorld).2.db
    DemoStats demoPlan (2 * minute) s ∧ s.escalation.escalated = 3 ∧ DemoSla demoPlan (2 * minute) s ∧
      s.sla.breaches = 14 ∧ s.sla.breachRate = 28 ∧ (s.mttrByAnalyst.map MttrRow.count).sum = 30 := by
  intro s
  have hseeds : seeds calm demoPlan = true := by decide
  obtain ⟨hstats, hlater⟩ := demoStats_seeded hseeds utc (fun _ => asStored) (2 * minute) (2 * minute) emptyWorld
  obtain ⟨hsla, hmttr⟩ := hlater 0 0 demoPlan_dated
  have hoverdue : demoPlan.draws.countP (SeedDraw.overdue (2 * minute)) = 14 := by decide
  have hescalated : demoPlan.draws.countP SeedDraw.escalated = 3 := by decide
  have hs : DemoSla demoPlan (2 * minute) s := hsla (by decide) (by decide)
  exact ⟨hstats, hstats.escalated.trans hescalated, hs, hs.breaches.trans hoverdue,
    hs.breachRate.trans (by rw [hoverdue]; norm_num), hmttr (by decide)⟩

end SocDashboard
