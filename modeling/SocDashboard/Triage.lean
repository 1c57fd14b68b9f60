/-
# Triage: classify, case notes, retention, accounts

The other writers. `api_classify` reads the alert, rejects one that is not
open, and then updates it and records the action and the audit entry, all in
one transaction. Accounts are created by manage.py only.

Key definitions: `classifyBlock`, `apiClassify`, `noteBlock`, `apiAddNote`,
`purgeOldAlerts`, `createInLocal`, `Db.triaged`, `Db.noted`.
Key theorems: `classifyBlock_ok`, `noteBlock_ok`, `purgeOldAlerts_snd`.
-/
import SocDashboard.Ingest

namespace SocDashboard

open Exec

/-- `action in ACTION_TO_STATUS`: a list or a dict is not hashable. -/
def parseAction (v : Json) : Except Exc Action :=
  match v with
  | .arr _ => .error .typeError
  | .obj _ => .error .typeError
  | .str s =>
    match Action.all.find? fun act => act.name = s with
    | some act => .ok act
    | none => .error (.abort 400 "action must be classify_tp, classify_fp or escalate")
  | _ => .error (.abort 400 "action must be classify_tp, classify_fp or escalate")

/-- The analyst and the action of a classify body. -/
def parseClassify (body : Json) : Except Exc (String × Action) := do
  let analystName ← getText body "analyst"
  let action ← body.get "action"
  if analystName = "" then .error (.abort 400 "analyst is required")
  else do
    let act ← parseAction action
    pure (analystName, act)

/-- ... of the request. -/
def readClassify (env : Env) (json : Option Json) : Except Exc (String × Action) := do
  let body ← getJson env json
  parseClassify body

/-- The transaction of `api_classify`. -/
def classifyBlock (env : Env) (a : Ambient) (user : User) (body : Json) (alertId : ℕ) (analystName : String)
    (action : Action) : Exec Db Exc Alert := do
  match ← attempt (a.fails .selectAlert) .databaseError (selectAlert alertId) with
  | none => raise (.abort 404 "alert not found")
  | some alert =>
    if alert.status ≠ .open_ then raise (.abort 409 "alert is already closed")
    else do
      let analystName ← lift (adaptKey body "analyst" analystName)
      match ← attempt (a.fails .updateAlert) .databaseError
          (updateAlert alertId (actionToStatus action) analystName) with
      | none => raise .typeError
      | some updated => do
        attempt (a.fails .insertAction) .databaseError
          (insertAction a.now alertId analystName action alert.createdAt)
        let _ ← attempt (a.fails .insertAudit) .databaseError
          (insertAudit a.now alertId user.id user.username (.triage action) alert.status
            (actionToStatus action) none)
        pure (decryptAlert env updated)

/-- `POST /api/alerts/<id>/classify`, behind its decorators. -/
def classifyView (env : Env) (a : Ambient) (user : User) (alertId : ℕ) (json : Option Json) :
    Exec World Exc Response := do
  let (analystName, action) ← lift (readClassify env json)
  let updated ← withConn a .main (classifyBlock env a user (orEmptyDict json) alertId analystName action)
  ssePublish env a ⟨.statusChange, alertId, updated.severity, actionToStatus action⟩
  pure ⟨200, .alert updated, none⟩

/-- `api_classify`. -/
def apiClassify (env : Env) (a : Ambient) (session : Option ℕ) (alertId : ℕ) (json : Option Json) :
    Exec World Exc Response :=
  loginRequired a session fun user =>
    requireRole [.analyst, .admin] user (classifyView env a user alertId json)

/-- The note of the request. -/
def readNote (env : Env) (json : Option Json) : Except Exc String := do
  let body ← getJson env json
  getText body "note"

/-- The transaction of `api_add_note`. -/
def noteBlock (env : Env) (a : Ambient) (user : User) (body : Json) (alertId : ℕ) (note : String) :
    Exec Db Exc AuditEntry := do
  match ← attempt (a.fails .selectAlert) .databaseError (selectAlert alertId) with
  | none => raise (.abort 404 "alert not found")
  | some alert => do
    let note ← lift (adaptKey body "note" (encryptStr env.scheme env.fernet (a.nonce .note) note))
    attempt (a.fails .insertAudit) .databaseError
      (insertAudit a.now alertId user.id user.username .noteAdded alert.status alert.status (some note))

/-- `POST /api/alerts/<id>/notes`, behind its decorators. -/
def noteView (env : Env) (a : Ambient) (user : User) (alertId : ℕ) (json : Option Json) :
    Exec World Exc Response := do
  let note ← lift (readNote env json)
  if note = "" then raise (.abort 400 "note is required")
  else do
    let row ← withConn a .main (noteBlock env a user (orEmptyDict json) alertId note)
    pure ⟨201, .noteCreated row.id row.createdAt, none⟩

/-- `api_add_note`. -/
def apiAddNote (env : Env) (a : Ambient) (session : Option ℕ) (alertId : ℕ) (json : Option Json) :
    Exec World Exc Response :=
  loginRequired a session fun user =>
    requireRole [.analyst, .admin] user (noteView env a user alertId json)

/-- A day, in microseconds. -/
def day : ℤ := 86400000000

/-- `purge_old_alerts`. -/
def purgeOldAlerts (a : Ambient) (days : ℤ) : Exec World Exc ℕ :=
  if days ≤ 0 then pure 0
  else
    withConn a .main <|
      attempt (a.fails .deleteAlerts) .databaseError (deleteAlertsBefore (a.now - days * day))

/-- `_create_in_local`, with the hash of the password; `false` is an account
that exists. -/
def createInLocal (a : Ambient) (username pwHash : String) (role : Role) : Exec World Exc Bool :=
  withConn a .main do
    let username ← lift (adaptStr username)
    let found ← attempt (a.fails .selectUser) .databaseError
      (gets fun db => db.users.any fun u => u.username = username)
    if found then pure false
    else do
      attempt (a.fails .insertUser) .databaseError (insertUser username pwHash role)
      pure true

/-! ### What the transactions do -/

/-- The database after a triage of the open alert `alertId`. -/
def Db.triaged (db : Db) (now : Time) (user : User) (alertId : ℕ) (analystName : String)
    (action : Action) (seconds : ℤ) : Db :=
  ((db.assigned alertId (actionToStatus action) analystName).withAction now alertId analystName action
    seconds).withAudit
      ⟨db.auditSeq, alertId, user.id, user.username, .triage action, .open_, actionToStatus action, none, now⟩

/-- The database after a note on an alert whose status is `status`. -/
def Db.noted (db : Db) (now : Time) (user : User) (alertId : ℕ) (status : Status) (note : String) : Db :=
  db.withAudit
    ⟨db.auditSeq, alertId, user.id, user.username, .noteAdded, status, status, some note, now⟩

theorem readClassify_eq_ok {env : Env} {json : Option Json} {fields : String × Action} :
    readClassify env json = .ok fields ↔ parses env json = true ∧ parseClassify (orEmptyDict json) = .ok fields :=
  getJson_bind_eq_ok

theorem readNote_eq_ok {env : Env} {json : Option Json} {note : String} :
    readNote env json = .ok note ↔ parses env json = true ∧ getText (orEmptyDict json) "note" = .ok note :=
  getJson_bind_eq_ok

section Spec

variable {env : Env} {a : Ambient} {user : User} {body : Json} {alertId : ℕ} {db db' : Db}

/-- The update and the action before it leave the rows that the audit entry refers to. -/
theorem auditKeysHold_assigned_withAction (userId : ℕ) (status : Status) (analystName : String)
    (now : Time) (action : Action) (seconds : ℤ) :
    ((db.assigned alertId status analystName).withAction now alertId analystName action
      seconds).auditKeysHold alertId userId = db.auditKeysHold alertId userId := by
  have h : (((db.assigned alertId status analystName).withAction now alertId analystName action
      seconds).alert? alertId).isSome = (db.alert? alertId).isSome := by
    change ((db.assigned alertId status analystName).alert? alertId).isSome = _
    rw [alert?_assigned, Option.isSome_map]
  simp only [Db.auditKeysHold, h]
  rfl

/-- One of the statements of `api_classify` fails. -/
def classifyCallFails (a : Ambient) : Bool :=
  a.fails .selectAlert || a.fails .updateAlert || a.fails .insertAction || a.fails .insertAudit

/-- **When the classify transaction goes through, and what it does.** -/
theorem classifyBlock_ok {analystName : String} {action : Action} {row : Alert} :
    classifyBlock env a user body alertId analystName action db = (.ok row, db') ↔
      ∃ alert seconds, db.alert? alertId = some alert ∧ alert.status = .open_ ∧
        (encodable body "analyst" = true ∧ '\x00' ∉ analystName.toList) ∧
        responseSeconds a.now alert.createdAt = .ok seconds ∧
        db.auditKeysHold alertId user.id = true ∧ classifyCallFails a = false ∧
        row = decryptAlert env (Db.assign (actionToStatus action) analystName alert) ∧
        db' = db.triaged a.now user alertId analystName action seconds := by
  unfold classifyBlock
  rw [bind_eq_ok]
  constructor
  · rintro ⟨found, db₁, h₁, h⟩
    obtain ⟨f₁, h₁⟩ := attempt_eq_ok.mp h₁
    obtain ⟨rfl, rfl⟩ := selectAlert_eq_ok.mp h₁
    cases hal : db.alert? alertId with
    | none => simp [hal] at h
    | some alert =>
      simp only [hal] at h
      by_cases hst : alert.status = .open_
      · simp only [hst, ne_eq, not_true_eq_false, if_false] at h
        obtain ⟨name, db₂, hn, h⟩ := bind_eq_ok.mp h
        obtain ⟨hn', rfl⟩ := lift_eq_ok.mp hn
        obtain ⟨hnul, rfl⟩ := adaptKey_eq_ok.mp hn'
        obtain ⟨got, db₃, hu, h⟩ := bind_eq_ok.mp h
        obtain ⟨f₂, hu⟩ := attempt_eq_ok.mp hu
        simp only [updateAlert, Prod.mk.injEq, Except.ok.injEq, alert?_assigned, hal, Option.map_some] at hu
        obtain ⟨rfl, rfl⟩ := hu
        obtain ⟨u, db₄, hi, h⟩ := bind_eq_ok.mp h
        obtain ⟨f₃, hi⟩ := attempt_eq_ok.mp hi
        obtain ⟨-, seconds, hs, rfl⟩ := insertAction_eq_ok.mp hi
        obtain ⟨entry, db₅, ha, h⟩ := bind_eq_ok.mp h
        obtain ⟨f₄, ha⟩ := attempt_eq_ok.mp ha
        obtain ⟨hk, rfl, rfl⟩ := insertAudit_eq_ok.mp ha
        simp only [pure_apply, Prod.mk.injEq, Except.ok.injEq] at h
        obtain ⟨rfl, rfl⟩ := h
        refine ⟨alert, seconds, rfl, hst, hnul, hs, ?_, ?_, rfl, rfl⟩
        · rwa [← auditKeysHold_assigned_withAction]
        · simp [classifyCallFails, f₁, f₂, f₃, f₄]
      · simp [hst] at h
  · rintro ⟨alert, seconds, hal, hst, hnul, hs, hk, hf, rfl, rfl⟩
    simp only [classifyCallFails, Bool.or_eq_false_iff] at hf
    obtain ⟨⟨⟨f₁, f₂⟩, f₃⟩, f₄⟩ := hf
    refine ⟨some alert, db, attempt_eq_ok.mpr ⟨f₁, selectAlert_eq_ok.mpr ⟨hal, rfl⟩⟩, ?_⟩
    simp only [hst, ne_eq, not_true_eq_false, if_false]
    refine bind_eq_ok.mpr ⟨analystName, db, lift_eq_ok.mpr ⟨adaptKey_eq_ok.mpr ⟨hnul, rfl⟩, rfl⟩, ?_⟩
    refine bind_eq_ok.mpr ⟨some (Db.assign (actionToStatus action) analystName alert),
      db.assigned alertId (actionToStatus action) analystName, attempt_eq_ok.mpr ⟨f₂, ?_⟩, ?_⟩
    · simp only [updateAlert, alert?_assigned, hal, Option.map_some]
    refine bind_eq_ok.mpr ⟨(), _, attempt_eq_ok.mpr ⟨f₃, insertAction_eq_ok.mpr ⟨?_, seconds, hs, rfl⟩⟩, ?_⟩
    · simp [alert?_assigned, hal]
    refine bind_eq_ok.mpr ⟨_, _, attempt_eq_ok.mpr ⟨f₄, insertAudit_eq_ok.mpr ⟨?_, rfl, rfl⟩⟩, rfl⟩
    rwa [auditKeysHold_assigned_withAction]

theorem keeps_classifyBlock (analystName : String) (action : Action) :
    Keeps SeqLe (classifyBlock env a user body alertId analystName action) := by
  refine Keeps.bind (Keeps.attempt (Keeps.gets _)) fun found => ?_
  cases found with
  | none => exact Keeps.raise _
  | some alert =>
    simp only
    split
    · exact Keeps.raise _
    · refine Keeps.bind (Keeps.lift _) fun name => ?_
      refine Keeps.bind (Keeps.attempt (keeps_updateAlert _ _ _)) fun got => ?_
      cases got with
      | none => exact Keeps.raise _
      | some updated =>
        refine Keeps.bind (Keeps.attempt (keeps_insertAction _ _ _ _ _)) fun _ => ?_
        exact Keeps.bind (Keeps.attempt (keeps_insertAudit _ _ _ _ _ _ _ _)) fun _ => Keeps.pure _

/-- One of the statements of `api_add_note` fails. -/
def noteCallFails (a : Ambient) : Bool := a.fails .selectAlert || a.fails .insertAudit

/-- When the note transaction goes through, and what it does. -/
theorem noteBlock_ok {note : String} {row : AuditEntry} :
    noteBlock env a user body alertId note db = (.ok row, db') ↔
      ∃ alert, db.alert? alertId = some alert ∧
        (encodable body "note" = true ∧
          '\x00' ∉ (encryptStr env.scheme env.fernet (a.nonce .note) note).toList) ∧
        db.auditKeysHold alertId user.id = true ∧ noteCallFails a = false ∧
        row = ⟨db.auditSeq, alertId, user.id, user.username, .noteAdded, alert.status, alert.status,
          some (encryptStr env.scheme env.fernet (a.nonce .note) note), a.now⟩ ∧
        db' = db.noted a.now user alertId alert.status
          (encryptStr env.scheme env.fernet (a.nonce .note) note) := by
  unfold noteBlock
  rw [bind_eq_ok]
  constructor
  · rintro ⟨found, db₁, h₁, h⟩
    obtain ⟨f₁, h₁⟩ := attempt_eq_ok.mp h₁
    obtain ⟨rfl, rfl⟩ := selectAlert_eq_ok.mp h₁
    cases hal : db.alert? alertId with
    | none => simp [hal] at h
    | some alert =>
      simp only [hal] at h
      obtain ⟨text, db₂, hn, h⟩ := bind_eq_ok.mp h
      obtain ⟨hn', rfl⟩ := lift_eq_ok.mp hn
      obtain ⟨hnul, rfl⟩ := adaptKey_eq_ok.mp hn'
      obtain ⟨f₂, ha⟩ := attempt_eq_ok.mp h
      obtain ⟨hk, rfl, rfl⟩ := insertAudit_eq_ok.mp ha
      exact ⟨alert, rfl, hnul, hk, by simp [noteCallFails, f₁, f₂], rfl, rfl⟩
  · rintro ⟨alert, hal, hnul, hk, hf, rfl, rfl⟩
    simp only [noteCallFails, Bool.or_eq_false_iff] at hf
    refine ⟨some alert, db, attempt_eq_ok.mpr ⟨hf.1, selectAlert_eq_ok.mpr ⟨hal, rfl⟩⟩, ?_⟩
    refine bind_eq_ok.mpr ⟨_, db, lift_eq_ok.mpr ⟨adaptKey_eq_ok.mpr ⟨hnul, rfl⟩, rfl⟩, ?_⟩
    exact attempt_eq_ok.mpr ⟨hf.2, insertAudit_eq_ok.mpr ⟨hk, rfl, rfl⟩⟩

theorem keeps_noteBlock (note : String) : Keeps SeqLe (noteBlock env a user body alertId note) := by
  refine Keeps.bind (Keeps.attempt (Keeps.gets _)) fun found => ?_
  cases found with
  | none => exact Keeps.raise _
  | some alert =>
    exact Keeps.bind (Keeps.lift _) fun _ => Keeps.attempt (keeps_insertAudit _ _ _ _ _ _ _ _)

/-- The retention purge commits. -/
def purges (a : Ambient) (days : ℤ) : Bool :=
  0 < days && !a.fails (.connect .main) && !a.fails .deleteAlerts && !a.fails (.commit .main)

/-- The retention purge does all of it or nothing. -/
theorem purgeOldAlerts_snd (a : Ambient) (days : ℤ) (w : World) :
    (purgeOldAlerts a days w).2 =
      if purges a days then w.setDb (w.db.purged (a.now - days * day)) else w := by
  unfold purgeOldAlerts purges withConn
  by_cases hd : days ≤ 0
  · have hpos : ¬ 0 < days := by omega
    simp [hd, hpos]
  · have hpos : 0 < days := by omega
    simp only [hd, if_false, hpos, decide_true, Bool.true_and]
    cases a.fails (.connect .main) <;> cases a.fails .deleteAlerts <;> cases a.fails (.commit .main) <;> rfl

theorem requireRole_eq (roles : List Role) (view : Exec World Exc Response) (w : World) :
    requireRole roles user view w =
      if user.role ∈ roles then view w else (.error (.abort 403 "insufficient role"), w) := by
  unfold requireRole
  split_ifs <;> rfl

end Spec

end SocDashboard
