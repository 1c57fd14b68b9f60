/-
# An SLA breach across triage

While an alert is open, `compute_sla` compares its age, a fraction of a
second included, with the target of its severity. The classify transaction
stores the age rounded to whole seconds, and from then on that number is
compared. A breach survives exactly when the rounded number is above the
target too, which takes half a second more than the breach itself.

Key definitions: `breachTotal`, `CountedAt`, `BreachKept`.
Key theorems: `roundDiv_gt_iff`, `breachTotal_mono`, `breachKept_iff`.
-/
import SocDashboard.Sla
import SocDashboard.Triage

namespace SocDashboard

/-- The breaches `compute_sla` counts at `now` on the rows of the SLA query. -/
def breachTotal (now : Time) (db : Db) : ℕ := (computeSla now (slaJoin db.alerts (slaGroups db))).breaches

/-- `compute_sla` at `now` counts the alert as a breach: on its row alone, it counts one. -/
def CountedAt (now : Time) (db : Db) (id : ℕ) : Prop :=
  ∃ alert, db.alert? id = some alert ∧ (computeSla now (slaJoin [alert] (slaGroups db))).breaches = 1

/-- Between `t₁` on `db` and `t₃` on `db'`, the alert does not cease to be a
breach, the number of breaches does not go down, and passing time alone does
not lower it. -/
structure BreachKept (t₁ t₃ : Time) (db db' : Db) (id : ℕ) : Prop where
  alert : CountedAt t₁ db id → CountedAt t₃ db' id
  total : breachTotal t₁ db ≤ breachTotal t₃ db'
  passing : ∀ t t' : Time, t ≤ t' → breachTotal t db ≤ breachTotal t' db

/-! ### What counts as a breach -/

theorem computeSla_breaches (now : Time) (db : Db) (alerts : List Alert) :
    (computeSla now (slaJoin alerts (slaGroups db))).breaches = alerts.countP (breachesAt now db) := by
  rw [slaJoin_eq (List.Perm.refl _)]
  simp only [computeSla, foldl_slaStep, Nat.zero_add]
  rw [← List.countP_eq_length_filter, List.countP_map]
  congr 1
  funext alert
  exact rowBreaches_of_alert now db alert

theorem countedAt_iff {now : Time} {db : Db} {id : ℕ} {alert : Alert} (h : db.alert? id = some alert) :
    CountedAt now db id ↔ breachesAt now db alert = true := by
  unfold CountedAt
  rw [h]
  simp only [Option.some.injEq, exists_eq_left', computeSla_breaches, List.countP_singleton]
  split_ifs with hb <;> simp [hb]

theorem slaTarget_nonneg (s : Severity) : 0 ≤ slaTarget s := by cases s <;> decide

theorem slaTarget_lt (s : Severity) : slaTarget s < 2 ^ 32 := by cases s <;> decide

/-- An alert without a response breaches once its age is above the target. -/
theorem breachesAt_of_unanswered {now : Time} {db : Db} {alert : Alert}
    (h : firstResponse db alert.id = none) :
    breachesAt now db alert = true ↔ slaTarget alert.severity * 1000000 < now - alert.createdAt := by
  unfold breachesAt elapsedOf
  rw [h, decide_eq_true_iff]
  exact lt_totalSeconds_iff (slaTarget_nonneg _) (slaTarget_lt _) _

/-- An alert with a response breaches when that is above the target, at any time. -/
theorem breachesAt_of_answered {now : Time} {db : Db} {alert : Alert} {seconds : ℤ}
    (h : firstResponse db alert.id = some seconds) :
    breachesAt now db alert = true ↔ slaTarget alert.severity < seconds := by
  unfold breachesAt elapsedOf
  rw [h, decide_eq_true_iff]
  exact Int.cast_lt

theorem breachesAt_mono {t t' : Time} (ht : t ≤ t') (db : Db) (alert : Alert)
    (h : breachesAt t db alert = true) : breachesAt t' db alert = true := by
  have hle : (0 : ℤ) ≤ t' - t := sub_nonneg.mpr ht
  cases hf : firstResponse db alert.id with
  | none =>
    rw [breachesAt_of_unanswered hf] at h ⊢
    omega
  | some seconds =>
    rw [breachesAt_of_answered hf] at h ⊢
    exact h

/-- Passing time never lowers the number of breaches. -/
theorem breachTotal_mono {t t' : Time} (ht : t ≤ t') (db : Db) : breachTotal t db ≤ breachTotal t' db := by
  unfold breachTotal
  rw [computeSla_breaches, computeSla_breaches]
  exact List.countP_mono_left fun alert _ => breachesAt_mono ht db alert

/-! ### What classifying does to the metrics -/

/-- A time rounds above `n` seconds from half a second above on. -/
theorem roundDiv_gt_iff {n : ℤ} (h : 0 ≤ n) (t : ℤ) :
    n < roundDiv t 1000000 ↔ n * 1000000 + 500000 ≤ t := by
  unfold roundDiv
  split_ifs with ht
  · push_cast
    omega
  · push_cast
    omega

theorem lt_responseSeconds_iff {n : ℤ} (h : 0 ≤ n) {now createdAt : Time} {seconds : ℤ}
    (hs : responseSeconds now createdAt = .ok seconds) :
    n < seconds ↔ n * 1000000 + 500000 ≤ now - createdAt := by
  rw [← roundDiv_gt_iff h]
  simp only [responseSeconds] at hs
  split_ifs at hs
  cases hs
  omega

section Triaged

variable {db : Db} {now : Time} {user : User} {alertId : ℕ} {analystName : String} {action : Action}
  {seconds : ℤ}

theorem analystActions_triaged :
    (db.triaged now user alertId analystName action seconds).analystActions =
      db.analystActions ++ [⟨db.actionsSeq, alertId, analystName, action, now, some seconds⟩] := rfl

theorem filter_actions_none (hnone : ∀ x ∈ db.analystActions, x.alertId ≠ alertId) :
    (db.analystActions.filter fun x => x.alertId = alertId) = [] :=
  List.filter_eq_nil_iff.mpr fun x hx he => hnone x hx (of_decide_eq_true he)

/-- The first action on an alert is its earliest response. -/
theorem firstResponse_triaged (hnone : ∀ x ∈ db.analystActions, x.alertId ≠ alertId) :
    firstResponse (db.triaged now user alertId analystName action seconds) alertId = some seconds := by
  unfold firstResponse
  rw [analystActions_triaged, List.filter_append, filter_actions_none hnone]
  simp [minNonNull]

/-- The other alerts keep theirs. -/
theorem firstResponse_triaged_ne {id : ℕ} (hne : id ≠ alertId) :
    firstResponse (db.triaged now user alertId analystName action seconds) id = firstResponse db id := by
  unfold firstResponse
  rw [analystActions_triaged, List.filter_append]
  simp [hne.symm]

theorem firstResponse_none (hnone : ∀ x ∈ db.analystActions, x.alertId ≠ alertId) :
    firstResponse db alertId = none := by
  unfold firstResponse
  rw [filter_actions_none hnone]
  rfl

/-- The number of breaches does not go down when that of the classified alert does not. -/
theorem breachTotal_triaged_le {t₁ t₃ : Time} (h13 : t₁ ≤ t₃)
    (h : ∀ row ∈ db.alerts, row.id = alertId → breachesAt t₁ db row = true →
      breachesAt t₃ (db.triaged now user alertId analystName action seconds)
        (Db.assign (actionToStatus action) analystName row) = true) :
    breachTotal t₁ db ≤ breachTotal t₃ (db.triaged now user alertId analystName action seconds) := by
  have halerts : (db.triaged now user alertId analystName action seconds).alerts =
      Table.update Alert.id alertId (Db.assign (actionToStatus action) analystName) db.alerts := rfl
  unfold breachTotal
  rw [computeSla_breaches, computeSla_breaches, halerts, Table.update, List.countP_map]
  refine List.countP_mono_left fun row hrow hb => ?_
  rw [Function.comp_apply]
  split_ifs with hid
  · exact h row hrow hid hb
  · have hb' := breachesAt_mono h13 db row hb
    unfold breachesAt elapsedOf at hb' ⊢
    rwa [firstResponse_triaged_ne hid]

end Triaged

/-- **When a breach survives triage.** For an alert without an action that is
classified at `a.now`, between `t₁` and `t₃`: nothing is lost exactly when the
alert was no breach at `t₁`, or its age at the classification is at least half
a second above the target. -/
theorem breachKept_iff {env : Env} {a : Ambient} {user : User} {body : Json} {alertId : ℕ} {analystName : String}
    {action : Action} {db db' : Db} {row alert : Alert} {t₁ t₃ : Time}
    (hids : Table.Distinct Alert.id db.alerts) (hal : db.alert? alertId = some alert)
    (hnone : ∀ x ∈ db.analystActions, x.alertId ≠ alertId)
    (hok : classifyBlock env a user body alertId analystName action db = (.ok row, db'))
    (h12 : t₁ ≤ a.now) (h23 : a.now ≤ t₃) :
    BreachKept t₁ t₃ db db' alertId ↔
      slaTarget alert.severity * 1000000 ≥ t₁ - alert.createdAt ∨
        slaTarget alert.severity * 1000000 + 500000 ≤ a.now - alert.createdAt := by
  obtain ⟨alert', seconds, hal', -, -, hs, -, -, -, rfl⟩ := classifyBlock_ok.mp hok
  obtain rfl : alert' = alert := Option.some.inj (hal'.symm.trans hal)
  have hid : alert'.id = alertId := Table.lookup_key hal
  have hpost : (db.triaged a.now user alertId analystName action seconds).alert? alertId =
      some (Db.assign (actionToStatus action) analystName alert') := by
    change (db.assigned alertId (actionToStatus action) analystName).alert? alertId = _
    rw [alert?_assigned, hal, Option.map_some]
  have hbefore : breachesAt t₁ db alert' = true ↔
      slaTarget alert'.severity * 1000000 < t₁ - alert'.createdAt :=
    breachesAt_of_unanswered (hid.symm ▸ firstResponse_none hnone)
  have hafter : breachesAt t₃ (db.triaged a.now user alertId analystName action seconds)
      (Db.assign (actionToStatus action) analystName alert') = true ↔
        slaTarget alert'.severity * 1000000 + 500000 ≤ a.now - alert'.createdAt := by
    rw [← lt_responseSeconds_iff (slaTarget_nonneg _) hs]
    exact breachesAt_of_answered (by rw [assign_id, hid]; exact firstResponse_triaged hnone)
  have hcond : (breachesAt t₁ db alert' = true → breachesAt t₃
      (db.triaged a.now user alertId analystName action seconds)
        (Db.assign (actionToStatus action) analystName alert') = true) ↔
      slaTarget alert'.severity * 1000000 ≥ t₁ - alert'.createdAt ∨
        slaTarget alert'.severity * 1000000 + 500000 ≤ a.now - alert'.createdAt := by
    have hle : (0 : ℤ) ≤ a.now - t₁ := sub_nonneg.mpr h12
    rw [hbefore, hafter]
    omega
  rw [← hcond]
  constructor
  · intro h
    rw [← countedAt_iff hal, ← countedAt_iff hpost]
    exact h.alert
  · intro h
    refine ⟨?_, breachTotal_triaged_le (h12.trans h23) ?_, fun t t' ht => breachTotal_mono ht db⟩
    · rw [countedAt_iff hal, countedAt_iff hpost]
      exact h
    · intro r hr hrid
      obtain rfl : r = alert' := hids.eq hr (Table.lookup_mem hal) (hrid.trans hid.symm)
      exact h

section Example

def mediumAlert : Alert where
  id := 1
  title := "Port scan"
  category := "port_scan"
  severity := .medium
  source := none
  sourceIp := none
  description := none
  workflowRunId := none
  runMetadata := none
  createdAt := 0
  status := .open_
  assignedTo := none

/-- One open alert of medium severity, created at 0. -/
def oneMedium : Db :=
  { applySchema none with alerts := [mediumAlert], users := [⟨7, "asmith", "hash", .analyst⟩] }

/-- Classified by asmith at `now`. -/
def mediumAt (now : Time) : Db := (classifyBlock exampleEnv { calm with now := now }
  ⟨7, "asmith", .analyst⟩ (.obj [("analyst", .str "asmith")]) 1 "asmith" .classifyTp oneMedium).2

/-- A breach of a whole second survives. -/
theorem breachKept_oneSecond :
    BreachKept 14401000000 14402000000 oneMedium (mediumAt 14401000000) 1 := by
  have hids : Table.Distinct Alert.id oneMedium.alerts := List.nodup_singleton 1
  have hok : classifyBlock exampleEnv { calm with now := 14401000000 } ⟨7, "asmith", .analyst⟩
      (.obj [("analyst", .str "asmith")]) 1 "asmith" .classifyTp oneMedium =
        (.ok (decryptAlert exampleEnv (Db.assign .truePositive "asmith" mediumAlert)), mediumAt 14401000000) :=
    rfl
  exact (breachKept_iff hids rfl (by decide) hok (by decide) (by decide)).mpr (Or.inr (by decide))

/-- **Triage undoes a breach of less than half a second.** 14400.2 s after it
was created the alert is a breach; classified 0.1 s later it is none. -/
theorem triage_undoes_breach :
    ¬BreachKept 14400200000 14400300000 oneMedium (mediumAt 14400300000) 1 := by
  intro h
  have hbefore : CountedAt 14400200000 oneMedium 1 :=
    (countedAt_iff rfl).mpr ((breachesAt_of_unanswered rfl).mpr (by decide))
  have hafter : breachesAt 14400300000 (mediumAt 14400300000)
      (Db.assign .truePositive "asmith" mediumAlert) = true := (countedAt_iff rfl).mp (h.alert hbefore)
  have hfirst : firstResponse (mediumAt 14400300000) 1 = some 14400 := rfl
  rw [breachesAt_of_answered hfirst] at hafter
  exact absurd hafter (by decide)

end Example

end SocDashboard
