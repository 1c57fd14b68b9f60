/-
# Relations that the statements keep

A relation of databases that every statement on alerts, actions and audit
entries keeps, and that outlives a rollback, is kept by the handlers whatever
they are asked and wherever they fail. A handler that runs a statement beyond
these (an embedding, a purge, a new account) needs that one too.

Key definitions: `ByStatement`.
Key theorems: `ByStatement.apiClassify`, `ByStatement.apiAddNote`,
`ByStatement.goIngest`, `ByStatement.insertAlert`.
-/
import SocDashboard.GoIngest
import SocDashboard.Triage

namespace SocDashboard

open Exec

structure ByStatement (R : Db → Db → Prop) : Prop where
  rollback : ∀ db db', R db db' → R db (db.rollback db')
  withAlert : ∀ (db : Db) now v, R db (db.withAlert now v)
  assigned : ∀ (db : Db) id status analystName, R db (db.assigned id status analystName)
  withAction : ∀ (db : Db) now alertId analystName action seconds,
    R db (db.withAction now alertId analystName action seconds)
  withAudit : ∀ (db : Db) row, R db (db.withAudit row)

namespace ByStatement

variable {R : Db → Db → Prop} [Std.Refl R]

theorem insertAction (h : ByStatement R) (now : Time) (alertId : ℕ) (analystName : String) (action : Action)
    (createdAt : Time) : Keeps R (insertAction now alertId analystName action createdAt) := by
  intro db
  unfold SocDashboard.insertAction
  by_cases hal : (db.alert? alertId).isSome = true
  · rw [if_pos hal]
    cases responseSeconds now createdAt with
    | error e => exact refl db
    | ok seconds => exact h.withAction db now alertId analystName action seconds
  · rw [if_neg hal]
    exact refl db

theorem insertAudit (h : ByStatement R) (now : Time) (alertId userId : ℕ) (username : String)
    (action : AuditAction) (fromStatus toStatus : Status) (note : Option String) :
    Keeps R (insertAudit now alertId userId username action fromStatus toStatus note) := by
  intro db
  unfold SocDashboard.insertAudit
  by_cases hkeys : db.auditKeysHold alertId userId = true
  · rw [if_pos hkeys]
    exact h.withAudit db _
  · rw [if_neg hkeys]
    exact refl db

variable [IsTrans Db R] {env : Env} {a : Ambient}

theorem classifyBlock (h : ByStatement R) (user : User) (body : Json) (alertId : ℕ) (analystName : String)
    (action : Action) : Keeps R (classifyBlock env a user body alertId analystName action) := by
  refine Keeps.bind (Keeps.attempt (Keeps.gets _)) fun found => ?_
  cases found with
  | none => exact Keeps.raise _
  | some alert =>
    refine Keeps.ite (fun _ => Keeps.raise _) fun _ => (Keeps.lift _).bind fun name => ?_
    refine Keeps.bind (Keeps.attempt fun db => h.assigned db _ _ _) fun row => ?_
    cases row with
    | none => exact Keeps.raise _
    | some row =>
      exact (Keeps.attempt (h.insertAction _ _ _ _ _)).bind fun _ =>
        (Keeps.attempt (h.insertAudit _ _ _ _ _ _ _ _)).bind fun _ => Keeps.pure _

theorem apiClassify (h : ByStatement R) (session : Option ℕ) (alertId : ℕ) (json : Option Json) :
    Keeps (OnDb R) (apiClassify env a session alertId json) := by
  refine keeps_loginRequired a session fun user => keeps_requireRole _ user ?_
  refine (Keeps.lift _).bind fun (analystName, action) => ?_
  refine Keeps.bind (keeps_withConn a .main h.rollback (h.classifyBlock user _ alertId analystName action)) ?_
  exact fun updated => (keeps_ssePublish env a _).bind fun _ => Keeps.pure _

theorem apiAddNote (h : ByStatement R) (session : Option ℕ) (alertId : ℕ) (json : Option Json) :
    Keeps (OnDb R) (apiAddNote env a session alertId json) := by
  refine keeps_loginRequired a session fun user => keeps_requireRole _ user ?_
  refine (Keeps.lift _).bind fun note => Keeps.ite (fun _ => Keeps.raise _) fun _ => ?_
  refine Keeps.bind (keeps_withConn a .main h.rollback ?_) fun _ => Keeps.pure _
  refine Keeps.bind (Keeps.attempt (Keeps.gets _)) fun found => ?_
  cases found with
  | none => exact Keeps.raise _
  | some alert => exact (Keeps.lift _).bind fun text => Keeps.attempt (h.insertAudit _ _ _ _ _ _ _ _)

theorem goIngest (h : ByStatement R) (svc : Service) (a : GoAmbient) (req : AlertRequest) :
    Keeps (OnDb R) (goIngest svc a req) := by
  unfold SocDashboard.goIngest
  cases validate svc.quote req with
  | some err => exact Keeps.raise _
  | none =>
    refine (Keeps.lift _).bind fun (title, sourceIp, description) => ?_
    refine Keeps.bind ?_ fun created => Keeps.bind ?_ fun _ => Keeps.pure _
    · unfold goInsert
      cases a.insertErr with
      | some e => exact Keeps.raise _
      | none =>
        cases Severity.ofName (goToUpper (goTrimSpace req.severity)) with
        | none => exact Keeps.raise _
        | some s => exact Keeps.ite (fun _ w => ⟨h.withAlert w.db _ _, rfl⟩) fun _ => Keeps.raise _
    · exact Keeps.ite (fun _ => keeps_modify_beside fun w => ⟨rfl, rfl⟩) fun _ => Keeps.pure _

/-- The transaction of `_insert_alert`, without the embedding behind it. -/
theorem insertAlertConn (h : ByStatement R) (body : Json) (title category : String) (severity : Severity) :
    Keeps (OnDb R) (withConn a .main (insertAlertBlock env a body title category severity)) :=
  keeps_withConn a .main h.rollback <|
    (Keeps.lift _).bind fun v => Keeps.attempt fun db => h.withAlert db a.now v

theorem insertAlert (h : ByStatement R) (hembed : ∀ alertId vec, Keeps R (upsertEmbedding alertId vec))
    (body : Json) (title category : String) (severity : Severity) :
    Keeps (OnDb R) (insertAlert env a body title category severity) := by
  refine (h.insertAlertConn body title category severity).bind fun created => ?_
  refine (Keeps.lift _).bind fun text => Keeps.bind ?_ fun _ => (keeps_ssePublish env a _).bind fun _ => Keeps.pure _
  refine (keeps_embedText env a text).bind fun vec => ?_
  cases vec with
  | none => exact Keeps.pure _
  | some vec =>
    refine Keeps.catching ?_ fun _ => Keeps.pure _
    exact keeps_withConn a .embedding h.rollback (Keeps.attempt (hembed created.id vec))

theorem apiIngestAlert (h : ByStatement R) (hembed : ∀ alertId vec, Keeps R (upsertEmbedding alertId vec))
    (apiKey : Option String) (json : Option Json) : Keeps (OnDb R) (apiIngestAlert env a apiKey json) := by
  refine (Keeps.lift _).bind fun valid => Keeps.ite (fun _ => ?_) fun _ => Keeps.pure _
  exact (Keeps.lift _).bind fun (title, category, severity) =>
    (h.insertAlert hembed _ title category severity).bind fun _ => Keeps.pure _

theorem kafkaIngest (h : ByStatement R) (hembed : ∀ alertId vec, Keeps R (upsertEmbedding alertId vec))
    (body : Json) : Keeps (OnDb R) (kafkaIngest env a body) := by
  refine (Keeps.lift _).bind fun (title, category, severity) => ?_
  refine Keeps.ite (fun _ => Keeps.raise _) fun _ => ?_
  cases Severity.ofName severity with
  | none => exact Keeps.raise _
  | some s => exact (h.insertAlert hembed body title category s).bind fun _ => Keeps.pure _

theorem purgeOldAlerts (h : ByStatement R) (hpurge : ∀ (db : Db) cutoff, R db (db.purged cutoff)) (days : ℤ) :
    Keeps (OnDb R) (purgeOldAlerts a days) :=
  Keeps.ite (fun _ => Keeps.pure _) fun _ =>
    keeps_withConn a .main h.rollback (Keeps.attempt fun db => hpurge db _)

theorem createInLocal (h : ByStatement R) (huser : ∀ (db : Db) name hash role, R db (db.withUser name hash role))
    (username pwHash : String) (role : Role) : Keeps (OnDb R) (createInLocal a username pwHash role) := by
  have hinsert : ∀ name, Keeps R (insertUser name pwHash role) := by
    intro name db
    unfold insertUser
    cases varchar 64 name with
    | none => exact refl db
    | some stored =>
      simp only
      split
      · exact refl db
      · exact huser db stored pwHash role
  refine keeps_withConn a .main h.rollback ?_
  refine (Keeps.lift _).bind fun name => Keeps.bind (Keeps.attempt (Keeps.gets _)) fun found => ?_
  exact Keeps.ite (fun _ => Keeps.pure _) fun _ => (Keeps.attempt (hinsert name)).bind fun _ => Keeps.pure _

end ByStatement

end SocDashboard
