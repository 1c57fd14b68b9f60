/-
# Concurrent classification

Any number of `POST /api/alerts/<id>/classify` requests on one alert, their
statements interleaved in any order under READ COMMITTED. `raceStep` lets one
request do its next statement: `SELECT`, `UPDATE`, the two `INSERT`s, `COMMIT`.
An `UPDATE` whose row is locked waits, so the step does nothing.

The check that the alert is open is made by the `SELECT`, and no later
statement makes it again. The alert is triaged at most once exactly when no
`SELECT` falls between another request's `SELECT` that found the alert open
and its `COMMIT`.

Key definitions: `Phase`, `Race`, `raceStep`, `AtMostOnce`, `Alone`, `Turn`.
Key theorems: `Turn.keep`, `Turn.fall`, `atMostOnce_iff`, `race_alone`.
-/
import SocDashboard.Lib.ReadCommitted
import SocDashboard.Store

namespace SocDashboard

open ReadCommitted.State

/-- A request with a valid body, from a session that may triage. -/
structure ClassifyRequest where
  user : User
  analystName : String
  action : Action
  now : Time
  mayTriage : user.role ∈ [Role.analyst, Role.admin]
  named : analystName ≠ ""
  noNul : '\x00' ∉ analystName.toList

/-- Which statement of `api_classify` comes next. -/
inductive Phase
  | start
  | checked (alert : Alert)
  | updated (alert : Alert)
  | acted (alert : Alert)
  | logged
  | done (code : ℕ)
  deriving DecidableEq, Repr

/-- Has found the alert open and not yet ended. -/
def Phase.inside : Phase → Bool
  | .start => false
  | .done _ => false
  | _ => true

/-- Has found the alert open. -/
def Phase.foundOpen : Phase → Bool
  | .start => false
  | .done code => code ≠ 404 && code ≠ 409
  | _ => true

/-- Has answered. -/
def Phase.isDone : Phase → Bool
  | .done _ => true
  | _ => false

/-- `n + 1` requests on one database. -/
structure Race (n : ℕ) where
  tx : ReadCommitted.State Db (Fin (n + 1)) ℕ
  phase : Fin (n + 1) → Phase

namespace Db

/-- A row whose id the sequence has already given out. -/
def putAction (row : AnalystAction) (db : Db) : Db :=
  { db with analystActions := db.analystActions ++ [row] }

def putAudit (row : AuditEntry) (db : Db) : Db := { db with auditLog := db.auditLog ++ [row] }

def nextAction (db : Db) : Db := { db with actionsSeq := db.actionsSeq + 1 }

def nextAudit (db : Db) : Db := { db with auditSeq := db.auditSeq + 1 }

end Db

/-! ### One request's rows -/

section Rows

variable (alertId : ℕ) (req : ClassifyRequest)

/-- The `UPDATE`. -/
def ClassifyRequest.update (db : Db) : Db :=
  db.assigned alertId (actionToStatus req.action) req.analystName

def ClassifyRequest.actionRow (id : ℕ) (seconds : ℤ) : AnalystAction :=
  ⟨id, alertId, req.analystName, req.action, req.now, some seconds⟩

def ClassifyRequest.auditRow (id : ℕ) (fromStatus : Status) : AuditEntry :=
  ⟨id, alertId, req.user.id, req.user.username, .triage req.action, fromStatus, actionToStatus req.action,
    none, req.now⟩

end Rows

namespace Race

variable {n : ℕ}

def init (db : Db) : Race n := ⟨.init db, fun _ => .start⟩

/-- The database as committed. -/
def db (s : Race n) : Db := s.tx.committed

def goto (s : Race n) (r : Fin (n + 1)) (tx : ReadCommitted.State Db (Fin (n + 1)) ℕ) (p : Phase) :
    Race n :=
  ⟨tx, Function.update s.phase r p⟩

/-- The connection block ends with an exception. -/
def fail (s : Race n) (r : Fin (n + 1)) (code : ℕ) : Race n := s.goto r (s.tx.rollback r) (.done code)

end Race

section Step

variable {n : ℕ} (alertId : ℕ) (reqs : Fin (n + 1) → ClassifyRequest)

/-- Request `r` does its next statement. -/
def raceStep (s : Race n) (r : Fin (n + 1)) : Race n :=
  let req := reqs r
  match s.phase r with
  | .start =>
    match (s.tx.view r).alert? alertId with
    | none => s.fail r 404
    | some alert => if alert.status ≠ .open_ then s.fail r 409 else s.goto r s.tx (.checked alert)
  | .checked alert =>
    if s.tx.canLock r alertId then
      if ((req.update alertId (s.tx.view r)).alert? alertId).isSome then
        s.goto r ((s.tx.lock r alertId).write r (req.update alertId)) (.updated alert)
      else s.fail r 500
    else s
  | .updated alert =>
    if ((s.tx.view r).alert? alertId).isSome then
      match responseSeconds req.now alert.createdAt with
      | .error _ => s.fail r 500
      | .ok seconds =>
        let row := req.actionRow alertId (s.tx.view r).actionsSeq seconds
        s.goto r ((s.tx.outside Db.nextAction).write r (Db.putAction row)) (.acted alert)
    else s.fail r 500
  | .acted alert =>
    if (s.tx.view r).auditKeysHold alertId req.user.id then
      let row := req.auditRow alertId (s.tx.view r).auditSeq alert.status
      s.goto r ((s.tx.outside Db.nextAudit).write r (Db.putAudit row)) .logged
    else s.fail r 500
  | .logged => s.goto r (s.tx.commit r) (.done 200)
  | .done _ => s

/-- The alert was triaged once: one request answered 200 and is what the tables
show, every other answered 409 and left nothing. -/
def AtMostOnce (db : Db) (s : Race n) : Prop :=
  ∃ winner x e, s.phase winner = .done 200 ∧ (∀ q, q ≠ winner → s.phase q = .done 409) ∧
    s.db.alerts = ((reqs winner).update alertId db).alerts ∧
    s.db.analystActions = db.analystActions ++ [x] ∧ s.db.auditLog = db.auditLog ++ [e] ∧
    s.db.actionsOf alertId = [x] ∧ x.analystName = (reqs winner).analystName ∧
    x.action = (reqs winner).action ∧ s.db.triagesOf alertId = [e] ∧ e.fromStatus = .open_ ∧
    e.toStatus = actionToStatus (reqs winner).action

/-- What keeps a step off the race: a `SELECT` while no other request is inside,
an `INSERT` whose response time fits its column. -/
def Alone (s : Race n) (r : Fin (n + 1)) : Prop :=
  match s.phase r with
  | .start => ∀ q, (s.phase q).inside = false
  | .updated alert => ∃ seconds, responseSeconds (reqs r).now alert.createdAt = .ok seconds
  | _ => True

/-! ### What a step leaves alone -/

section Frame

variable {alertId reqs} {s : Race n} {r : Fin (n + 1)}

@[simp] theorem goto_phase_self (tx : ReadCommitted.State Db (Fin (n + 1)) ℕ) (p : Phase) :
    (s.goto r tx p).phase r = p := Function.update_self ..

@[simp] theorem fail_phase_self (code : ℕ) : (s.fail r code).phase r = .done code :=
  Function.update_self ..

theorem goto_phase_ne {q : Fin (n + 1)} (h : q ≠ r) (tx : ReadCommitted.State Db (Fin (n + 1)) ℕ)
    (p : Phase) : (s.goto r tx p).phase q = s.phase q := Function.update_of_ne h ..

/-- A step does nothing or moves one request, which goes on as one that found
the alert open if it was one. -/
theorem raceStep_cases (alertId : ℕ) (reqs : Fin (n + 1) → ClassifyRequest) (s : Race n)
    (r : Fin (n + 1)) :
    raceStep alertId reqs s r = s ∨ ∃ tx p, raceStep alertId reqs s r = s.goto r tx p ∧
      (s.phase r ≠ .start → p.foundOpen = true) := by
  fun_cases raceStep alertId reqs s r with
  | case1 => exact Or.inr ⟨_, _, rfl, fun h => absurd ‹s.phase r = .start› h⟩
  | case2 => exact Or.inr ⟨_, _, rfl, fun h => absurd ‹s.phase r = .start› h⟩
  | case3 => exact Or.inr ⟨_, _, rfl, fun h => absurd ‹s.phase r = .start› h⟩
  | case6 => exact Or.inl rfl
  | case13 => exact Or.inl rfl
  | _ => exact Or.inr ⟨_, _, rfl, fun _ => rfl⟩

/-- A step moves one request only. -/
theorem raceStep_phase_ne {q : Fin (n + 1)} (h : q ≠ r) :
    (raceStep alertId reqs s r).phase q = s.phase q := by
  rcases raceStep_cases alertId reqs s r with he | ⟨tx, p, he, -⟩
  · rw [he]
  · rw [he, goto_phase_ne h]

theorem raceStep_done {code : ℕ} (h : s.phase r = .done code) : raceStep alertId reqs s r = s := by
  unfold raceStep
  simp only [h]

/-- A request that found the alert open never answers 404 or 409. -/
theorem raceStep_foundOpen {q : Fin (n + 1)} (h : (s.phase q).foundOpen = true) :
    ((raceStep alertId reqs s r).phase q).foundOpen = true := by
  rcases raceStep_cases alertId reqs s r with he | ⟨tx, p, he, hp⟩
  · rwa [he]
  · by_cases hq : q = r
    · subst hq
      rw [he, goto_phase_self]
      exact hp fun hs => by simp [hs, Phase.foundOpen] at h
    · rwa [he, goto_phase_ne hq]

end Frame

/-! ### One at a time -/

/-- How far the request inside is, what it has written and who holds the row. -/
inductive Progress (alert : Alert) (r : Fin (n + 1)) : Phase → (Db → Db) → Option (Fin (n + 1)) → Prop
  | checked : Progress alert r (.checked alert) id none
  | updated : Progress alert r (.updated alert) ((reqs r).update alertId) (some r)
  | acted (id : ℕ) (seconds : ℤ) :
      Progress alert r (.acted alert)
        (Db.putAction ((reqs r).actionRow alertId id seconds) ∘ (reqs r).update alertId) (some r)
  | logged (id : ℕ) (seconds : ℤ) (id' : ℕ) :
      Progress alert r .logged
        (Db.putAudit ((reqs r).auditRow alertId id' alert.status) ∘
          Db.putAction ((reqs r).actionRow alertId id seconds) ∘ (reqs r).update alertId) (some r)

/-- The rows of `db` with the triage of request `r`. -/
def TriagedBy (db : Db) (alert : Alert) (r : Fin (n + 1)) (db' : Db) : Prop :=
  ∃ id seconds id', SameRows
    (Db.putAudit ((reqs r).auditRow alertId id' alert.status)
      (Db.putAction ((reqs r).actionRow alertId id seconds) ((reqs r).update alertId db))) db'

/-- No two requests are past their `SELECT` at once: nobody has begun, one is
inside, or one has won. -/
inductive Turn (db : Db) (alert : Alert) (s : Race n) : Prop
  | before (hp : ∀ q, s.phase q = .start) (hw : ∀ q, s.tx.writes q = id)
      (hl : s.tx.holder alertId = none) (hd : SameRows db s.db)
  | during (r : Fin (n + 1)) (hp : ∀ q, q ≠ r → s.phase q = .start)
      (hw : ∀ q, q ≠ r → s.tx.writes q = id)
      (hr : Progress alertId reqs alert r (s.phase r) (s.tx.writes r) (s.tx.holder alertId))
      (hd : SameRows db s.db)
  | after (r : Fin (n + 1)) (hr : s.phase r = .done 200)
      (hp : ∀ q, q ≠ r → s.phase q = .start ∨ s.phase q = .done 409) (hw : ∀ q, s.tx.writes q = id)
      (hl : s.tx.holder alertId = none) (hd : TriagedBy alertId reqs db alert r s.db)

/-- Two requests found the alert open, or one answered 500. -/
def Raced (s : Race n) : Prop :=
  (∃ q r, q ≠ r ∧ (s.phase q).foundOpen = true ∧ (s.phase r).foundOpen = true) ∨
    ∃ r, s.phase r = .done 500

section Keep

variable {alertId reqs} {db : Db} {alert : Alert} {s : Race n} {r : Fin (n + 1)}

theorem Progress.inside {p : Phase} {w : Db → Db} {h : Option (Fin (n + 1))}
    (hr : Progress alertId reqs alert r p w h) : p.inside = true := by
  cases hr <;> rfl

theorem foundOpen_of_inside {p : Phase} (h : p.inside = true) : p.foundOpen = true := by
  cases p with
  | start => simp [Phase.inside] at h
  | done code => simp [Phase.inside] at h
  | _ => rfl

section Statements

/-- The `UPDATE`, when the row is free. -/
theorem step_checked (hp : s.phase r = .checked alert) (hl : s.tx.canLock r alertId = true)
    (hv : (((reqs r).update alertId (s.tx.view r)).alert? alertId).isSome = true) :
    raceStep alertId reqs s r =
      s.goto r ((s.tx.lock r alertId).write r ((reqs r).update alertId)) (.updated alert) := by
  simp only [raceStep, hp, hl, hv, if_true]

/-- The `INSERT INTO analyst_actions`. -/
theorem step_updated {seconds : ℤ} (hp : s.phase r = .updated alert)
    (hv : ((s.tx.view r).alert? alertId).isSome = true)
    (hs : responseSeconds (reqs r).now alert.createdAt = .ok seconds) :
    raceStep alertId reqs s r = s.goto r ((s.tx.outside Db.nextAction).write r (Db.putAction
      ((reqs r).actionRow alertId (s.tx.view r).actionsSeq seconds))) (.acted alert) := by
  simp only [raceStep, hp, hv, hs, if_true]

/-- The `INSERT INTO audit_log`. -/
theorem step_acted (hp : s.phase r = .acted alert)
    (hk : (s.tx.view r).auditKeysHold alertId (reqs r).user.id = true) :
    raceStep alertId reqs s r = s.goto r ((s.tx.outside Db.nextAudit).write r (Db.putAudit
      ((reqs r).auditRow alertId (s.tx.view r).auditSeq alert.status))) .logged := by
  simp only [raceStep, hp, hk, if_true]

/-- The `COMMIT`. -/
theorem step_logged (hp : s.phase r = .logged) :
    raceStep alertId reqs s r = s.goto r (s.tx.commit r) (.done 200) := by
  simp only [raceStep, hp]

end Statements

theorem alert?_of_sameRows {db db' : Db} (h : SameRows db db') (id : ℕ) : db'.alert? id = db.alert? id := by
  rw [Db.alert?, Db.alert?, h.alertRows]

/-- The `SELECT` of a request that has written nothing. -/
theorem select_open (hal : db.alert? alertId = some alert) (hopen : alert.status = .open_)
    (hp : s.phase r = .start) (hw : s.tx.writes r = id) (hd : SameRows db s.db) :
    raceStep alertId reqs s r = s.goto r s.tx (.checked alert) := by
  have hv : (s.tx.view r).alert? alertId = some alert := by
    rw [view_of_idle hw]
    exact (alert?_of_sameRows hd alertId).trans hal
  simp only [raceStep, hp, hv, hopen, ne_eq, not_true_eq_false, if_false]

/-- The `SELECT` of a request that comes after the winner's `COMMIT`. -/
theorem select_closed {w : Fin (n + 1)} (hal : db.alert? alertId = some alert) (hp : s.phase r = .start)
    (hw : s.tx.writes r = id) (hd : TriagedBy alertId reqs db alert w s.db) :
    raceStep alertId reqs s r = s.fail r 409 := by
  obtain ⟨i, seconds, i', hd⟩ := hd
  have hv : (s.tx.view r).alert? alertId =
      some (Db.assign (actionToStatus (reqs w).action) (reqs w).analystName alert) := by
    rw [view_of_idle hw]
    refine (alert?_of_sameRows hd alertId).trans ?_
    change ((reqs w).update alertId db).alert? alertId = _
    rw [ClassifyRequest.update, alert?_assigned, hal, Option.map_some]
  have hne : (Db.assign (actionToStatus (reqs w).action) (reqs w).analystName alert).status ≠ .open_ :=
    actionToStatus_ne_open _
  simp only [raceStep, hp, hv, hne, ne_eq, not_false_eq_true, if_true]

/-- The keys of the audit entry hold in what the request inside sees. -/
theorem auditKeysHold_inside {db' : Db} (hd : SameRows db db') (id : ℕ) (seconds : ℤ) :
    (Db.putAction ((reqs r).actionRow alertId id seconds) ((reqs r).update alertId db')).auditKeysHold
      alertId (reqs r).user.id = db.auditKeysHold alertId (reqs r).user.id := by
  have h : (Db.putAction ((reqs r).actionRow alertId id seconds) ((reqs r).update alertId db')).auditKeysHold
      alertId (reqs r).user.id = db'.auditKeysHold alertId (reqs r).user.id :=
    auditKeysHold_assigned_withAction (reqs r).user.id (actionToStatus (reqs r).action)
      (reqs r).analystName 0 (reqs r).action 0
  rw [h, Db.auditKeysHold, Db.auditKeysHold, alert?_of_sameRows hd, hd.userRows, hd.alertFk, hd.userFk]

theorem sameRows_update {db db' : Db} (req : ClassifyRequest) (h : SameRows db db') :
    SameRows (req.update alertId db) (req.update alertId db') :=
  ⟨⟨h.alerts, h.actions, h.audit, h.users⟩,
    by simp only [ClassifyRequest.update, Db.assigned, h.alertRows], h.actionRows, h.auditRows,
    h.userRows, h.alertFk, h.userFk⟩

theorem sameRows_putAction {db db' : Db} (row : AnalystAction) (h : SameRows db db') :
    SameRows (Db.putAction row db) (Db.putAction row db') :=
  ⟨⟨h.alerts, h.actions, h.audit, h.users⟩, h.alertRows,
    by simp only [Db.putAction, h.actionRows], h.auditRows, h.userRows, h.alertFk, h.userFk⟩

theorem sameRows_putAudit {db db' : Db} (row : AuditEntry) (h : SameRows db db') :
    SameRows (Db.putAudit row db) (Db.putAudit row db') :=
  ⟨⟨h.alerts, h.actions, h.audit, h.users⟩, h.alertRows, h.actionRows,
    by simp only [Db.putAudit, h.auditRows], h.userRows, h.alertFk, h.userFk⟩

/-- The request inside goes on. -/
theorem Turn.during_goto {tx : ReadCommitted.State Db (Fin (n + 1)) ℕ} {p : Phase}
    (hp : ∀ q, q ≠ r → s.phase q = .start) (hw : ∀ q, q ≠ r → tx.writes q = id)
    (hr : Progress alertId reqs alert r p (tx.writes r) (tx.holder alertId))
    (hd : SameRows db tx.committed) : Turn alertId reqs db alert (s.goto r tx p) := by
  refine .during r (fun q hq => (goto_phase_ne hq tx p).trans (hp q hq)) hw ?_ hd
  rw [goto_phase_self]
  exact hr

/-- The next statement of the request inside, when no other is past its `SELECT`. -/
theorem Turn.next (hal : db.alert? alertId = some alert)
    (hu : ∀ q, db.auditKeysHold alertId (reqs q).user.id = true) (hp : ∀ q, q ≠ r → s.phase q = .start)
    (hw : ∀ q, q ≠ r → s.tx.writes q = id)
    (hr : Progress alertId reqs alert r (s.phase r) (s.tx.writes r) (s.tx.holder alertId))
    (hd : SameRows db s.db) (hg : Alone reqs s r) :
    Turn alertId reqs db alert (raceStep alertId reqs s r) := by
  have hal' : s.db.alert? alertId = some alert := (alert?_of_sameRows hd alertId).trans hal
  have hupd : (((reqs r).update alertId s.db).alert? alertId).isSome = true := by
    rw [ClassifyRequest.update, alert?_assigned, hal']
    rfl
  have hview : s.tx.view r = s.tx.writes r s.db := rfl
  generalize hph : s.phase r = p at hr
  generalize hwr : s.tx.writes r = f at hr
  generalize hh : s.tx.holder alertId = o at hr
  rw [hwr] at hview
  cases hr with
  | checked =>
    rw [step_checked hph (by simp [canLock, hh]) (by rw [hview]; exact hupd)]
    refine Turn.during_goto hp (fun q hq => (write_writes_ne hq _).trans (hw q hq)) ?_ hd
    have hwrites : ((s.tx.lock r alertId).write r ((reqs r).update alertId)).writes r =
        (reqs r).update alertId := write_after hwr _
    have hholder : ((s.tx.lock r alertId).write r ((reqs r).update alertId)).holder alertId = some r :=
      Function.update_self ..
    rw [hwrites, hholder]
    exact .updated
  | updated =>
    simp only [Alone, hph] at hg
    obtain ⟨seconds, hs⟩ := hg
    rw [step_updated hph (by rw [hview]; exact hupd) hs]
    generalize (s.tx.view r).actionsSeq = i
    have hwrites : ((s.tx.outside Db.nextAction).write r
        (Db.putAction ((reqs r).actionRow alertId i seconds))).writes r =
        Db.putAction ((reqs r).actionRow alertId i seconds) ∘ (reqs r).update alertId :=
      write_after hwr _
    refine Turn.during_goto hp (fun q hq => (write_writes_ne hq _).trans (hw q hq)) ?_
      (IsTrans.trans _ _ _ hd ⟨⟨le_rfl, Nat.le_succ _, le_rfl, le_rfl⟩, rfl, rfl, rfl, rfl, rfl, rfl⟩)
    rw [hwrites, show ((s.tx.outside Db.nextAction).write r _).holder alertId = some r from hh]
    exact .acted i seconds
  | acted i seconds =>
    have hk : (s.tx.view r).auditKeysHold alertId (reqs r).user.id = true := by
      rw [hview, Function.comp_apply, auditKeysHold_inside hd, hu r]
    rw [step_acted hph hk]
    generalize (s.tx.view r).auditSeq = i'
    have hwrites : ((s.tx.outside Db.nextAudit).write r
        (Db.putAudit ((reqs r).auditRow alertId i' alert.status))).writes r =
        Db.putAudit ((reqs r).auditRow alertId i' alert.status) ∘
          Db.putAction ((reqs r).actionRow alertId i seconds) ∘ (reqs r).update alertId :=
      write_after hwr _
    refine Turn.during_goto hp (fun q hq => (write_writes_ne hq _).trans (hw q hq)) ?_
      (IsTrans.trans _ _ _ hd ⟨⟨le_rfl, le_rfl, Nat.le_succ _, le_rfl⟩, rfl, rfl, rfl, rfl, rfl, rfl⟩)
    rw [hwrites, show ((s.tx.outside Db.nextAudit).write r _).holder alertId = some r from hh]
    exact .logged i seconds i'
  | logged i seconds i' =>
    have hdb : (s.goto r (s.tx.commit r) (.done 200)).db = s.tx.view r := rfl
    rw [step_logged hph]
    refine .after r (goto_phase_self _ _) (fun q hq => Or.inl ((goto_phase_ne hq _ _).trans (hp q hq)))
      (fun q => idle_after (hw q)) (released_self hh) ⟨i, seconds, i', ?_⟩
    rw [hdb, hview]
    exact sameRows_putAudit _ (sameRows_putAction _ (sameRows_update _ hd))

/-- **The step lemma.** A step that is alone leaves the requests one at a time. -/
theorem Turn.keep (hal : db.alert? alertId = some alert) (hopen : alert.status = .open_)
    (hu : ∀ q, db.auditKeysHold alertId (reqs q).user.id = true) (ht : Turn alertId reqs db alert s)
    (hg : Alone reqs s r) : Turn alertId reqs db alert (raceStep alertId reqs s r) := by
  cases ht with
  | before hp hw hl hd =>
    rw [select_open hal hopen (hp r) (hw r) hd]
    refine .during r (fun q hq => (goto_phase_ne hq _ _).trans (hp q)) (fun q _ => hw q) ?_ hd
    rw [goto_phase_self, show (s.goto r s.tx (.checked alert)).tx = s.tx from rfl, hw r, hl]
    exact .checked
  | during w hp hw hr hd =>
    by_cases hrw : r = w
    · subst hrw
      exact Turn.next hal hu hp hw hr hd hg
    · -- the guard keeps every other request out while one is inside
      have hin := hr.inside
      simp only [Alone, hp r hrw] at hg
      rw [hg w] at hin
      exact absurd hin (by decide)
  | after w hr hp hw hl hd =>
    by_cases hrw : r = w
    · rw [hrw, raceStep_done hr]
      exact .after w hr hp hw hl hd
    · rcases hp r hrw with hs | h409
      · rw [select_closed hal hs (hw r) hd]
        refine .after w ((goto_phase_ne (Ne.symm hrw) _ _).trans hr) ?_ ?_ ?_ hd
        · intro q hq
          by_cases hqr : q = r
          · exact Or.inr (by rw [hqr]; exact fail_phase_self 409)
          · rw [show (s.fail r 409).phase q = s.phase q from goto_phase_ne hqr _ _]
            exact hp q hq
        · exact fun q => idle_after fun _ => hw q
        · exact released_none hl
      · rw [raceStep_done h409]
        exact .after w hr hp hw hl hd

/-- A step that is not alone: two requests have found the alert open, or the
response time does not fit and the request answers 500. -/
theorem Turn.fall (hal : db.alert? alertId = some alert) (hopen : alert.status = .open_)
    (ht : Turn alertId reqs db alert s) (hg : ¬Alone reqs s r) : Raced (raceStep alertId reqs s r) := by
  cases ht with
  | before hp hw hl hd =>
    refine absurd ?_ hg
    simp [Alone, hp, Phase.inside]
  | during w hp hw hr hd =>
    by_cases hrw : r = w
    · subst hrw
      have hin := hr.inside
      unfold Alone at hg
      cases hph : s.phase r with
      | updated alert' =>
        simp only [hph, not_exists] at hg
        refine Or.inr ⟨r, ?_⟩
        cases hs : responseSeconds (reqs r).now alert'.createdAt with
        | ok seconds => exact absurd hs (hg seconds)
        | error e => simp only [raceStep, hph, hs, ite_self, fail_phase_self]
      | start => simp [hph, Phase.inside] at hin
      | done code => simp [hph, Phase.inside] at hin
      | _ => simp [hph] at hg
    · refine Or.inl ⟨w, r, Ne.symm hrw, raceStep_foundOpen (foundOpen_of_inside hr.inside), ?_⟩
      rw [select_open hal hopen (hp r hrw) (hw r hrw) hd, goto_phase_self]
      rfl
  | after w hr hp hw hl hd =>
    refine absurd ?_ hg
    unfold Alone
    by_cases hrw : r = w
    · simp [hrw, hr]
    · rcases hp r hrw with hs | h409
      · rw [hs]
        intro q
        by_cases hqw : q = w
        · simp [hqw, hr, Phase.inside]
        · rcases hp q hqw with h | h <;> simp [h, Phase.inside]
      · simp [h409]

theorem Raced.step (h : Raced s) (r : Fin (n + 1)) : Raced (raceStep alertId reqs s r) := by
  rcases h with ⟨q, q', hne, hq, hq'⟩ | ⟨q, hq⟩
  · exact Or.inl ⟨q, q', hne, raceStep_foundOpen hq, raceStep_foundOpen hq'⟩
  · refine Or.inr ⟨q, ?_⟩
    by_cases hqr : q = r
    · rw [← hqr, raceStep_done hq]
      exact hq
    · rw [raceStep_phase_ne hqr]
      exact hq

/-- One winner: no two requests found the alert open, none answered 500. -/
theorem AtMostOnce.not_raced (h : AtMostOnce alertId reqs db s) : ¬Raced s := by
  obtain ⟨winner, -, -, hwin, hlose, -⟩ := h
  rintro (⟨q, q', hne, hq, hq'⟩ | ⟨q, hq⟩)
  · have hwinner : ∀ p, (s.phase p).foundOpen = true → p = winner := by
      intro p hp
      by_contra hpw
      simp [hlose p hpw, Phase.foundOpen] at hp
    exact hne ((hwinner q hq).trans (hwinner q' hq').symm)
  · by_cases hqw : q = winner
    · simp [hqw, hwin] at hq
    · simp [hlose q hqw] at hq

/-- When all have answered, requests one at a time have triaged the alert once. -/
theorem Turn.atMostOnce (hA : db.actionsOf alertId = []) (hT : db.triagesOf alertId = [])
    (hopen : alert.status = .open_) (ht : Turn alertId reqs db alert s)
    (hdone : ∀ q, (s.phase q).isDone = true) : AtMostOnce alertId reqs db s := by
  cases ht with
  | before hp hw hl hd =>
    have h := hdone 0
    simp [hp, Phase.isDone] at h
  | during w hp hw hr hd =>
    have h := hdone w
    have hin := hr.inside
    cases hph : s.phase w <;> simp [hph, Phase.inside, Phase.isDone] at h hin
  | after w hr hp hw hl hd =>
    obtain ⟨i, seconds, i', hd⟩ := hd
    refine ⟨w, (reqs w).actionRow alertId i seconds, (reqs w).auditRow alertId i' alert.status, hr, ?_,
      hd.alertRows, hd.actionRows, hd.auditRows, ?_, rfl, rfl, ?_, hopen, rfl⟩
    · intro q hq
      rcases hp q hq with hs | h409
      · have h := hdone q
        simp [hs, Phase.isDone] at h
      · exact h409
    · have hrows : s.db.analystActions = db.analystActions ++ [(reqs w).actionRow alertId i seconds] :=
        hd.actionRows
      rw [Db.actionsOf, hrows, List.filter_append, ← Db.actionsOf, hA]
      simp [ClassifyRequest.actionRow]
    · have hrows : s.db.auditLog = db.auditLog ++ [(reqs w).auditRow alertId i' alert.status] :=
        hd.auditRows
      rw [Db.triagesOf, hrows, List.filter_append, ← Db.triagesOf, hT]
      simp [ClassifyRequest.auditRow]

end Keep

/-- **Exactly when concurrent classification is at most once.** In a complete run
of any number of requests on an open alert without rows, one request answers 200 and the
others 409 without effect exactly when no `SELECT` falls while another request
has found the alert open and not yet ended (and the response time stored fits
its column). -/
theorem atMostOnce_iff {db : Db} {alert : Alert} (hal : db.alert? alertId = some alert)
    (hopen : alert.status = .open_) (hA : db.actionsOf alertId = []) (hT : db.triagesOf alertId = [])
    (hu : ∀ q, db.auditKeysHold alertId (reqs q).user.id = true) (sched : List (Fin (n + 1)))
    (hdone : ∀ q, ((Runs.run (raceStep alertId reqs) (Race.init db) sched).phase q).isDone = true) :
    AtMostOnce alertId reqs db (Runs.run (raceStep alertId reqs) (Race.init db) sched) ↔
      Runs.EachStep (raceStep alertId reqs) (Alone reqs) (Race.init db) sched := by
  have hinit : Turn alertId reqs db alert (Race.init db) :=
    .before (fun _ => rfl) (fun _ => rfl) rfl (refl db)
  rcases Runs.good_or_bad (raceStep alertId reqs) (J := Turn alertId reqs db alert) (B := Raced)
    (G := Alone reqs) (fun s r ht hg => ht.keep hal hopen hu hg) (fun s r ht hg => ht.fall hal hopen hg)
    (fun s r h => h.step r) sched (Race.init db) hinit with ⟨he, ht⟩ | ⟨he, hr⟩
  · exact iff_of_true (ht.atMostOnce hA hT hopen hdone) he
  · exact iff_of_false (fun h => h.not_raced hr) he

/-- A request on its own is the transaction of `api_classify`: it answers 200 on
the database that `classifyBlock` leaves. -/
theorem race_alone {env : Env} {a : Ambient} {body : Json} {db db' : Db} {row : Alert} {r : Fin (n + 1)}
    (hnow : a.now = (reqs r).now)
    (h : classifyBlock env a (reqs r).user body alertId (reqs r).analystName (reqs r).action db =
      (.ok row, db')) :
    (Runs.run (raceStep alertId reqs) (Race.init db) [r, r, r, r, r]).phase r = .done 200 ∧
      (Runs.run (raceStep alertId reqs) (Race.init db) [r, r, r, r, r]).db = db' := by
  obtain ⟨alert, seconds, hal, hopen, -, hs, hk, -, -, rfl⟩ := classifyBlock_ok.mp h
  rw [hnow] at hs
  have hupd : (((reqs r).update alertId db).alert? alertId).isSome = true := by
    rw [ClassifyRequest.update, alert?_assigned, hal]
    rfl
  let s₀ : Race n := Race.init db
  let s₁ := s₀.goto r s₀.tx (.checked alert)
  let s₂ := s₁.goto r ((s₁.tx.lock r alertId).write r ((reqs r).update alertId)) (.updated alert)
  have h₁ : raceStep alertId reqs s₀ r = s₁ := select_open hal hopen rfl rfl (refl db)
  have h₂ : raceStep alertId reqs s₁ r = s₂ := step_checked (goto_phase_self _ _) rfl hupd
  have w₂ : s₂.tx.writes r = (reqs r).update alertId := write_writes_self _
  have v₂ : s₂.tx.view r = (reqs r).update alertId db := view_of_writes w₂
  let row₃ := (reqs r).actionRow alertId (s₂.tx.view r).actionsSeq seconds
  let s₃ := s₂.goto r ((s₂.tx.outside Db.nextAction).write r (Db.putAction row₃)) (.acted alert)
  have h₃ : raceStep alertId reqs s₂ r = s₃ :=
    step_updated (goto_phase_self _ _) (by rw [v₂]; exact hupd) hs
  have w₃ : s₃.tx.writes r = Db.putAction row₃ ∘ (reqs r).update alertId :=
    write_after w₂ _
  have v₃ : s₃.tx.view r = Db.putAction row₃ ((reqs r).update alertId db.nextAction) := view_of_writes w₃
  let row₄ := (reqs r).auditRow alertId (s₃.tx.view r).auditSeq alert.status
  let s₄ := s₃.goto r ((s₃.tx.outside Db.nextAudit).write r (Db.putAudit row₄)) .logged
  have h₄ : raceStep alertId reqs s₃ r = s₄ := by
    have hd : SameRows db db.nextAction :=
      ⟨⟨le_rfl, Nat.le_succ _, le_rfl, le_rfl⟩, rfl, rfl, rfl, rfl, rfl, rfl⟩
    apply step_acted (goto_phase_self _ _)
    rw [v₃, auditKeysHold_inside hd]
    exact hk
  have w₄ : s₄.tx.writes r = Db.putAudit row₄ ∘ Db.putAction row₃ ∘ (reqs r).update alertId :=
    write_after w₃ _
  have v₄ : s₄.tx.view r =
      Db.putAudit row₄ (Db.putAction row₃ ((reqs r).update alertId db.nextAction.nextAudit)) :=
    view_of_writes w₄
  have h₅ : raceStep alertId reqs s₄ r = s₄.goto r (s₄.tx.commit r) (.done 200) :=
    step_logged (goto_phase_self _ _)
  have hrun : Runs.run (raceStep alertId reqs) (Race.init db) [r, r, r, r, r] =
      s₄.goto r (s₄.tx.commit r) (.done 200) := by
    simp only [Runs.run_cons, Runs.run_nil, show Race.init db = s₀ from rfl, h₁, h₂, h₃, h₄, h₅]
  rw [hrun]
  refine ⟨goto_phase_self _ _, ?_⟩
  change s₄.tx.view r = _
  rw [v₄]
  simp only [row₄, row₃, v₃, v₂, hopen, ClassifyRequest.auditRow, ClassifyRequest.actionRow, Db.triaged, hnow]
  rfl

end Step

section Example

def openAlert : Alert :=
  { title := "Brute-force login", category := "Authentication", severity := .high, source := none
    sourceIp := none, description := none, workflowRunId := none, runMetadata := none, id := 1
    createdAt := 0, status := .open_, assignedTo := none }

/-- Two analysts and one open alert. -/
def oneOpenAlert : Db :=
  { alerts := [openAlert], analystActions := [], auditLog := []
    users := [⟨1, "asmith", "", .analyst⟩, ⟨2, "bjones", "", .analyst⟩]
    alertEmbeddings := []
    alertsSeq := 2, actionsSeq := 1, auditSeq := 1, usersSeq := 3
    auditAlertFk := true, auditUserFk := true }

theorem storeInv_oneOpenAlert : StoreInv oneOpenAlert where
  distinct := List.nodup_singleton _
  fresh := by decide
  fk := rfl
  records := by
    intro alert ha
    obtain rfl := List.mem_singleton.mp ha
    exact .untriaged rfl rfl
  actions := by decide
  audit := by decide

/-- One marks the alert a true positive, the other a false positive. -/
def twoRequests : Fin 2 → ClassifyRequest
  | 0 => ⟨⟨1, "asmith", .analyst⟩, "asmith", .classifyTp, 60000000, by decide, by decide, by decide⟩
  | 1 => ⟨⟨2, "bjones", .analyst⟩, "bjones", .classifyFp, 60000000, by decide, by decide, by decide⟩

/-- One request after the other. -/
theorem atMostOnce_sequential :
    AtMostOnce 1 twoRequests oneOpenAlert
      (Runs.run (raceStep 1 twoRequests) (Race.init oneOpenAlert) [0, 0, 0, 0, 0, 1]) := by
  have hal : oneOpenAlert.alert? 1 = some openAlert := rfl
  have hiff := atMostOnce_iff 1 twoRequests hal rfl rfl rfl (by decide) [0, 0, 0, 0, 0, 1] (by decide)
  refine hiff.mpr ⟨?_, trivial, ⟨60, rfl⟩, trivial, trivial, ?_, trivial⟩
  · show ∀ q : Fin 2, _
    decide
  · show ∀ q : Fin 2, _
    decide

/-- **Both requests triage the alert** when both have read it before either
commits; the second waits for the row and then overwrites the first. -/
theorem both_answer_200 :
    StoreInv oneOpenAlert ∧ oneOpenAlert.alert? 1 = some openAlert ∧ openAlert.status = .open_ ∧
      (∀ q, oneOpenAlert.auditKeysHold 1 (twoRequests q).user.id = true) ∧
      let s := Runs.run (raceStep 1 twoRequests) (Race.init oneOpenAlert) [0, 1, 0, 1, 0, 0, 0, 1, 1, 1, 1]
      s.phase 0 = .done 200 ∧ s.phase 1 = .done 200 ∧ (s.db.actionsOf 1).length = 2 ∧
        (s.db.triagesOf 1).length = 2 ∧ ¬AtMostOnce 1 twoRequests oneOpenAlert s := by
  refine ⟨storeInv_oneOpenAlert, rfl, rfl, by decide, by decide, by decide, by decide, by decide, ?_⟩
  rintro ⟨winner, x, e, -, -, -, -, -, hx, -⟩
  have h := congrArg List.length hx
  simp only [List.length_singleton] at h
  exact absurd h (by decide)

end Example

end SocDashboard
