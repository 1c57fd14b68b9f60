/-
# The SQL statements

Each statement of app.py and service.go as a computation on the database: a
statement that violates a constraint raises, an insert takes its id from the
table's sequence, a delete of alerts cascades through the foreign keys that
are in force. The transaction's `now()` is the parameter `now`. What a
statement makes of the database is a function of its own (`Db.withAlert`,
`Db.assigned`, `Db.withAction`, `Db.withAudit`, `Db.purged`), so that a
transaction's effect is their composition.

Two relations compare databases: `SeqLe` when no sequence has gone back, and
`SameRows` when moreover alerts, actions, audit entries, accounts and foreign
keys are the same (embeddings, which no other table reads, may differ).

Key definitions: `insertAlertRow`, `selectAlert`, `updateAlert`,
`insertAction`, `insertAudit`, `deleteAlertsBefore`, `responseSeconds`,
`SeqLe`, `SameRows`.
Key theorems: `insertAction_eq_ok`, `insertAudit_eq_ok`,
`responseSeconds_nonneg`.
-/
import SocDashboard.Lib.Exec
import SocDashboard.Lib.Table
import SocDashboard.Schema

namespace SocDashboard

open Exec

/-- Rounding to the nearest integer, halves away from zero. -/
def roundDiv (n : ℤ) (d : ℕ) : ℤ :=
  if 0 ≤ n then (n + d / 2) / d else -((-n + d / 2) / d)

/-- A value of type `INT`. -/
def inInt4 (n : ℤ) : Bool := -2147483648 ≤ n ∧ n ≤ 2147483647

/-- `GREATEST(0, EXTRACT(EPOCH FROM (now() - created_at))::int)`. -/
def responseSeconds (now createdAt : Time) : Except Exc ℤ :=
  let seconds := roundDiv (now - createdAt) 1000000
  if inInt4 seconds then .ok (max 0 seconds) else .error .databaseError

/-! ### What the statements make of the database -/

namespace Db

def newAlert (db : Db) (now : Time) (v : AlertValues) : Alert :=
  { v with id := db.alertsSeq, createdAt := now, status := .open_, assignedTo := none }

def withAlert (db : Db) (now : Time) (v : AlertValues) : Db :=
  { db with alerts := db.alerts ++ [db.newAlert now v], alertsSeq := db.alertsSeq + 1 }

def alert? (db : Db) (id : ℕ) : Option Alert := Table.lookup Alert.id id db.alerts

/-- What the `UPDATE` of `api_classify` makes of a row. -/
def assign (status : Status) (analystName : String) (row : Alert) : Alert :=
  { row with status := status, assignedTo := some analystName }

def assigned (db : Db) (id : ℕ) (status : Status) (analystName : String) : Db :=
  { db with alerts := Table.update Alert.id id (assign status analystName) db.alerts }

def withAction (db : Db) (now : Time) (alertId : ℕ) (analystName : String) (action : Action)
    (seconds : ℤ) : Db :=
  { db with
    analystActions := db.analystActions ++
      [⟨db.actionsSeq, alertId, analystName, action, now, some seconds⟩]
    actionsSeq := db.actionsSeq + 1 }

def withAudit (db : Db) (row : AuditEntry) : Db :=
  { db with auditLog := db.auditLog ++ [row], auditSeq := db.auditSeq + 1 }

def withUser (db : Db) (username passwordHash : String) (role : Role) : Db :=
  { db with
    users := db.users ++ [⟨db.usersSeq, username, passwordHash, role⟩]
    usersSeq := db.usersSeq + 1 }

/-- The foreign keys of `audit_log`, as far as they are in force. -/
def auditKeysHold (db : Db) (alertId userId : ℕ) : Bool :=
  (!db.auditAlertFk || (db.alert? alertId).isSome) &&
    (!db.auditUserFk || (Table.lookup UserRow.id userId db.users).isSome)

/-- The alert `id` is there and older than `cutoff`. -/
def expired (db : Db) (cutoff : Time) (id : ℕ) : Bool :=
  db.alerts.any fun a => a.id = id && a.createdAt < cutoff

/-- The database without the alerts older than `cutoff` and what
`ON DELETE CASCADE` takes along. -/
def purged (db : Db) (cutoff : Time) : Db :=
  { db with
    alerts := db.alerts.filter fun a => !(a.createdAt < cutoff)
    analystActions := db.analystActions.filter fun x => !db.expired cutoff x.alertId
    auditLog :=
      if db.auditAlertFk then db.auditLog.filter fun e => !db.expired cutoff e.alertId
      else db.auditLog
    alertEmbeddings := db.alertEmbeddings.filter fun m => !db.expired cutoff m.alertId }

end Db

/-! ### The statements -/

def insertAlertRow {ε : Type} (now : Time) (v : AlertValues) : Exec Db ε Alert := fun db =>
  (.ok (db.newAlert now v), db.withAlert now v)

def selectAlert (id : ℕ) : Exec Db Exc (Option Alert) := gets fun db => db.alert? id

/-- `UPDATE alerts SET status, assigned_to WHERE id RETURNING *`, and the row
`fetchone` gets of it. -/
def updateAlert (id : ℕ) (status : Status) (analystName : String) : Exec Db Exc (Option Alert) := fun db =>
  (.ok ((db.assigned id status analystName).alert? id), db.assigned id status analystName)

def insertAction (now : Time) (alertId : ℕ) (analystName : String) (action : Action)
    (createdAt : Time) : Exec Db Exc Unit := fun db =>
  if (db.alert? alertId).isSome then
    match responseSeconds now createdAt with
    | .error e => (.error e, db)
    | .ok seconds => (.ok (), db.withAction now alertId analystName action seconds)
  else (.error .databaseError, db)

def insertAudit (now : Time) (alertId userId : ℕ) (username : String) (action : AuditAction)
    (fromStatus toStatus : Status) (note : Option String) : Exec Db Exc AuditEntry := fun db =>
  if db.auditKeysHold alertId userId then
    let row : AuditEntry :=
      { id := db.auditSeq, alertId := alertId, userId := userId, username := username, action := action
        fromStatus := fromStatus, toStatus := toStatus, note := note, createdAt := now }
    (.ok row, db.withAudit row)
  else (.error .databaseError, db)

/-- `DELETE FROM alerts WHERE created_at < cutoff`; returns the row count. -/
def deleteAlertsBefore (cutoff : Time) : Exec Db Exc ℕ := fun db =>
  (.ok (db.alerts.filter fun a => a.createdAt < cutoff).length, db.purged cutoff)

/-- `INSERT INTO alert_embeddings ... ON CONFLICT (alert_id) DO UPDATE`. -/
def upsertEmbedding (alertId : ℕ) (vec : String) : Exec Db Exc Unit := fun db =>
  if (db.alert? alertId).isSome then
    let others := db.alertEmbeddings.filter fun m => m.alertId ≠ alertId
    (.ok (), { db with alertEmbeddings := others ++ [⟨alertId, vec⟩] })
  else (.error .databaseError, db)

/-- What a `VARCHAR(n)` takes: spaces beyond `n` are dropped, a longer text is refused. -/
def varchar (n : ℕ) (s : String) : Option String :=
  if (s.toList.drop n).all (· = ' ') then some (String.ofList (s.toList.take n)) else none

/-- `INSERT INTO users`; `username` is a unique `VARCHAR(64)`. -/
def insertUser (username passwordHash : String) (role : Role) : Exec Db Exc Unit := fun db =>
  match varchar 64 username with
  | none => (.error .databaseError, db)
  | some name =>
    if db.users.any fun u => u.username = name then (.error .databaseError, db)
    else (.ok (), db.withUser name passwordHash role)

/-! ### What a statement that succeeds has done -/

@[simp] theorem assign_id (status : Status) (analystName : String) (row : Alert) :
    (Db.assign status analystName row).id = row.id := rfl

/-- The row that was updated, read back. -/
theorem alert?_assigned (db : Db) (id : ℕ) (status : Status) (analystName : String) :
    (db.assigned id status analystName).alert? id = (db.alert? id).map (Db.assign status analystName) :=
  Table.lookup_update_self (assign_id status analystName) id db.alerts

theorem responseSeconds_nonneg {now createdAt : Time} {s : ℤ} (h : responseSeconds now createdAt = .ok s) :
    0 ≤ s := by
  simp only [responseSeconds] at h
  split_ifs at h
  cases h
  omega

theorem insertAction_eq_ok {now createdAt : Time} {alertId : ℕ} {analystName : String} {action : Action}
    {db db' : Db} {u : Unit} :
    insertAction now alertId analystName action createdAt db = (.ok u, db') ↔
      (db.alert? alertId).isSome ∧ ∃ s, responseSeconds now createdAt = .ok s ∧
        db' = db.withAction now alertId analystName action s := by
  unfold insertAction
  by_cases hl : (db.alert? alertId).isSome = true
  · cases hs : responseSeconds now createdAt with
    | error e => simp [hl]
    | ok s =>
      simp only [hl, if_true, Prod.mk.injEq, true_and, Except.ok.injEq, exists_eq_left']
      exact eq_comm
  · simp [hl]

theorem selectAlert_eq_ok {id : ℕ} {db db' : Db} {found : Option Alert} :
    selectAlert id db = (.ok found, db') ↔ db.alert? id = found ∧ db = db' := by
  rw [selectAlert, gets_apply, Prod.mk.injEq, Except.ok.injEq]

theorem insertAudit_eq_ok {now : Time} {alertId userId : ℕ} {username : String} {action : AuditAction}
    {fromStatus toStatus : Status} {note : Option String} {db db' : Db} {row : AuditEntry} :
    insertAudit now alertId userId username action fromStatus toStatus note db = (.ok row, db') ↔
      db.auditKeysHold alertId userId = true ∧
        row = ⟨db.auditSeq, alertId, userId, username, action, fromStatus, toStatus, note, now⟩ ∧
        db' = db.withAudit row := by
  unfold insertAudit
  by_cases hk : db.auditKeysHold alertId userId = true
  · simp only [hk, if_true, Prod.mk.injEq, Except.ok.injEq, true_and]
    constructor
    · rintro ⟨rfl, rfl⟩
      exact ⟨rfl, rfl⟩
    · rintro ⟨rfl, rfl⟩
      exact ⟨rfl, rfl⟩
  · simp [hk]

theorem insertUser_eq_ok {username passwordHash : String} {role : Role} {db db' : Db} {u : Unit} :
    insertUser username passwordHash role db = (.ok u, db') ↔
      ∃ name, varchar 64 username = some name ∧ (∀ row ∈ db.users, row.username ≠ name) ∧
        db' = db.withUser name passwordHash role := by
  unfold insertUser
  cases varchar 64 username with
  | none => simp
  | some name =>
    have hfree : (db.users.any fun row => row.username = name) = false ↔
        ∀ row ∈ db.users, row.username ≠ name := by simp
    simp only [Option.some.injEq, exists_eq_left', ← hfree]
    cases db.users.any fun row => row.username = name with
    | true => simp
    | false =>
      simp only [Bool.false_eq_true, if_false, Prod.mk.injEq, true_and]
      exact eq_comm

/-! ### Comparing databases -/

/-- No sequence of `db'` is behind that of `db`. -/
structure SeqLe (db db' : Db) : Prop where
  alerts : db.alertsSeq ≤ db'.alertsSeq
  actions : db.actionsSeq ≤ db'.actionsSeq
  audit : db.auditSeq ≤ db'.auditSeq
  users : db.usersSeq ≤ db'.usersSeq

instance : Std.Refl SeqLe := ⟨fun _ => ⟨le_rfl, le_rfl, le_rfl, le_rfl⟩⟩

instance : IsTrans Db SeqLe :=
  ⟨fun _ _ _ h h' => ⟨h.1.trans h'.1, h.2.trans h'.2, h.3.trans h'.3, h.4.trans h'.4⟩⟩

/-- The rows and foreign keys of `db` and `db'` are the same, embeddings apart. -/
structure SameRows (db db' : Db) : Prop extends SeqLe db db' where
  alertRows : db'.alerts = db.alerts
  actionRows : db'.analystActions = db.analystActions
  auditRows : db'.auditLog = db.auditLog
  userRows : db'.users = db.users
  alertFk : db'.auditAlertFk = db.auditAlertFk
  userFk : db'.auditUserFk = db.auditUserFk

instance : Std.Refl SameRows :=
  ⟨fun db => ⟨refl db, rfl, rfl, rfl, rfl, rfl, rfl⟩⟩

instance : IsTrans Db SameRows :=
  ⟨fun _ _ _ h h' => ⟨IsTrans.trans _ _ _ h.toSeqLe h'.toSeqLe, h'.alertRows.trans h.alertRows,
    h'.actionRows.trans h.actionRows, h'.auditRows.trans h.auditRows, h'.userRows.trans h.userRows,
    h'.alertFk.trans h.alertFk, h'.userFk.trans h.userFk⟩⟩

/-- A rollback takes back the rows, not the sequences. -/
theorem sameRows_rollback {db db' : Db} (h : SeqLe db db') : SameRows db (db.rollback db') :=
  ⟨⟨h.alerts, h.actions, h.audit, h.users⟩, rfl, rfl, rfl, rfl, rfl, rfl⟩

section Keeps

theorem keeps_insertAlertRow {ε : Type} (now : Time) (v : AlertValues) :
    Keeps SeqLe (@insertAlertRow ε now v) :=
  fun _ => ⟨Nat.le_succ _, le_rfl, le_rfl, le_rfl⟩

theorem keeps_updateAlert (id : ℕ) (status : Status) (analystName : String) :
    Keeps SeqLe (updateAlert id status analystName) :=
  fun _ => ⟨le_rfl, le_rfl, le_rfl, le_rfl⟩

theorem keeps_insertAction (now : Time) (alertId : ℕ) (analystName : String) (action : Action)
    (createdAt : Time) : Keeps SeqLe (insertAction now alertId analystName action createdAt) := by
  intro db
  unfold insertAction
  split
  · split
    · exact refl db
    · exact ⟨le_rfl, Nat.le_succ _, le_rfl, le_rfl⟩
  · exact refl db

theorem keeps_insertAudit (now : Time) (alertId userId : ℕ) (username : String) (action : AuditAction)
    (fromStatus toStatus : Status) (note : Option String) :
    Keeps SeqLe (insertAudit now alertId userId username action fromStatus toStatus note) := by
  intro db
  unfold insertAudit
  split
  · exact ⟨le_rfl, le_rfl, Nat.le_succ _, le_rfl⟩
  · exact refl db

theorem keeps_insertUser (username passwordHash : String) (role : Role) :
    Keeps SeqLe (insertUser username passwordHash role) := by
  intro db
  unfold insertUser
  cases varchar 64 username with
  | none => exact refl db
  | some name =>
    simp only
    split
    · exact refl db
    · exact ⟨le_rfl, le_rfl, le_rfl, Nat.le_succ _⟩

theorem keeps_deleteAlertsBefore (cutoff : Time) : Keeps SeqLe (deleteAlertsBefore cutoff) :=
  fun _ => ⟨le_rfl, le_rfl, le_rfl, le_rfl⟩

theorem keeps_upsertEmbedding (alertId : ℕ) (vec : String) :
    Keeps SameRows (upsertEmbedding alertId vec) := by
  intro db
  unfold upsertEmbedding
  split
  · exact ⟨⟨le_rfl, le_rfl, le_rfl, le_rfl⟩, rfl, rfl, rfl, rfl, rfl, rfl⟩
  · exact refl db

end Keeps

end SocDashboard
