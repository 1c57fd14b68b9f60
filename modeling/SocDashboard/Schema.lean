/-
# The tables of schema.sql

Rows as the columns hold them (an encrypted column holds its token), the
values the checks allow as enumerations, and the database with what decides
how it goes on: the sequences behind the serial keys and the two foreign keys
of `audit_log`, which the schema script does not create again once the table
exists.

`applySchema` is the script: it drops and creates four tables and leaves an
existing `audit_log` as it is, without the foreign keys that the drops took
along.

Key definitions: `Alert`, `AnalystAction`, `AuditEntry`, `Tables`, `Db`,
`applySchema`.
-/
import SocDashboard.Value

namespace SocDashboard

/-- A `TIMESTAMPTZ`, in microseconds. -/
abbrev Time := ℤ

inductive Severity
  | critical
  | high
  | medium
  | low
  deriving DecidableEq, Repr

def Severity.name : Severity → String
  | .critical => "CRITICAL"
  | .high => "HIGH"
  | .medium => "MEDIUM"
  | .low => "LOW"

def Severity.all : List Severity := [.critical, .high, .medium, .low]

/-- The severity a text names: `severity in SEVERITY_RANK`, `validSeverities`. -/
def Severity.ofName (s : String) : Option Severity := Severity.all.find? fun v => v.name = s

inductive Status
  | open_
  | truePositive
  | falsePositive
  | escalated
  deriving DecidableEq, Repr

def Status.name : Status → String
  | .open_ => "open"
  | .truePositive => "true_positive"
  | .falsePositive => "false_positive"
  | .escalated => "escalated"

inductive Action
  | classifyTp
  | classifyFp
  | escalate
  deriving DecidableEq, Repr

def Action.name : Action → String
  | .classifyTp => "classify_tp"
  | .classifyFp => "classify_fp"
  | .escalate => "escalate"

def Action.all : List Action := [.classifyTp, .classifyFp, .escalate]

/-- `ACTION_TO_STATUS`. -/
def actionToStatus : Action → Status
  | .classifyTp => .truePositive
  | .classifyFp => .falsePositive
  | .escalate => .escalated

theorem actionToStatus_ne_open (act : Action) : actionToStatus act ≠ .open_ := by
  cases act <;> decide

inductive Role
  | viewer
  | analyst
  | admin
  deriving DecidableEq, Repr

/-- What an ingest path writes of an alert; the encrypted columns hold what is
stored. -/
structure AlertValues where
  title : String
  category : String
  severity : Severity
  source : Option String
  sourceIp : Option String
  description : Option String
  workflowRunId : Option String
  runMetadata : Option String
  deriving DecidableEq, Repr

structure Alert extends AlertValues where
  id : ℕ
  createdAt : Time
  status : Status
  assignedTo : Option String
  deriving DecidableEq, Repr

structure AnalystAction where
  id : ℕ
  alertId : ℕ
  analystName : String
  action : Action
  actedAt : Time
  responseTimeSeconds : Option ℤ
  deriving DecidableEq, Repr

/-- The actions of `audit_log`: a triage action or a case note. -/
inductive AuditAction
  | triage (action : Action)
  | noteAdded
  deriving DecidableEq, Repr

structure AuditEntry where
  id : ℕ
  alertId : ℕ
  userId : ℕ
  username : String
  action : AuditAction
  fromStatus : Status
  toStatus : Status
  note : Option String
  createdAt : Time
  deriving DecidableEq, Repr

structure UserRow where
  id : ℕ
  username : String
  passwordHash : String
  role : Role
  deriving DecidableEq, Repr

structure Embedding where
  alertId : ℕ
  embedding : String
  deriving DecidableEq, Repr

structure Tables where
  alerts : List Alert
  analystActions : List AnalystAction
  auditLog : List AuditEntry
  users : List UserRow
  alertEmbeddings : List Embedding
  deriving DecidableEq, Repr

structure Db extends Tables where
  alertsSeq : ℕ
  actionsSeq : ℕ
  auditSeq : ℕ
  usersSeq : ℕ
  /-- `audit_log.alert_id REFERENCES alerts(id) ON DELETE CASCADE` is in force. -/
  auditAlertFk : Bool
  /-- `audit_log.user_id REFERENCES users(id)` is in force. -/
  auditUserFk : Bool
  deriving DecidableEq, Repr

/-- Four tables dropped and created empty, their sequences at 1. -/
def emptyTables (auditLog : List AuditEntry) : Tables where
  alerts := []
  analystActions := []
  auditLog := auditLog
  users := []
  alertEmbeddings := []

/-- `psql -f schema.sql`. On a database without the tables it creates all of
them. On one that has them, `DROP TABLE ... CASCADE` takes the foreign keys of
`audit_log` along and `CREATE TABLE IF NOT EXISTS audit_log` leaves the table
as it is. -/
def applySchema : Option Db → Db
  | none =>
    { emptyTables [] with
      alertsSeq := 1, actionsSeq := 1, auditSeq := 1, usersSeq := 1
      auditAlertFk := true, auditUserFk := true }
  | some db =>
    { emptyTables db.auditLog with
      alertsSeq := 1, actionsSeq := 1, auditSeq := db.auditSeq, usersSeq := 1
      auditAlertFk := false, auditUserFk := false }

/-- After a rollback the rows and the foreign keys are the old ones; values
taken from a sequence are not given back. -/
def Db.rollback (old new : Db) : Db :=
  { old with alertsSeq := new.alertsSeq, actionsSeq := new.actionsSeq, auditSeq := new.auditSeq,
             usersSeq := new.usersSeq }

end SocDashboard
