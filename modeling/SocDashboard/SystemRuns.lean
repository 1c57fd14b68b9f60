/-
# The system and its transactions

Everything that happens to the system, one step after another: a request to
Flask or another operation of the app, or an ingest of the Go service. A step
that writes rows is one transaction of the triage store, every other step
leaves the tables as they are (`systemStep_transaction`), so what the
transactions keep holds after any run of the system.

Key definitions: `SystemOp`, `systemStep`, `SystemOp.transaction`.
Key theorems: `systemStep_transaction`, `systemStep_does`,
`storeInv_systemRun`, `users_systemRun`.
-/
import SocDashboard.ErrorAnswers
import SocDashboard.Store
import SocDashboard.Transparency
import SocDashboard.Viewer

namespace SocDashboard

open Exec

/-- What happens to the system: to the Flask app, or an ingest of the Go service. -/
inductive SystemOp
  | flask (m : Moment)
  | goIngest (a : GoAmbient) (req : AlertRequest)

def systemStep (site : Site) (env : Env) (svc : Service) (w : World) : SystemOp → World
  | .flask m => (opStep site env w m).2
  | .goIngest a req => (goIngest svc a req w).2

/-- What Flask answers, if the step is a request to it. -/
def systemAnswer (site : Site) (env : Env) (w : World) : SystemOp → Option Response
  | .flask m => (opStep site env w m).1
  | .goIngest _ _ => none

/-- The transaction of a `POST`, if it gets as far as a handler that writes rows. -/
def Request.transaction (req : Request) (a : Ambient) : Option StoreOp :=
  match req.endpoint, req.csrfError with
  | .alerts, _ => some (.apiIngestAlert a req.apiKey req.json)
  | .classify alertId, none => some (.apiClassify a req.session alertId req.json)
  | .notes alertId, none => some (.apiAddNote a req.session alertId req.json)
  | _, _ => none

/-- The transaction of a step. -/
def SystemOp.transaction : SystemOp → Option StoreOp
  | .flask ⟨.http req, a, _⟩ => if req.method = .post then req.transaction a else none
  | .flask ⟨.kafkaIngest body, a, _⟩ => some (.kafkaIngest a body)
  | .flask ⟨.purge days, a, _⟩ => some (.purgeOldAlerts a days)
  | .flask ⟨.createUser username pwHash role, a, _⟩ => some (.createUser a username pwHash role)
  | .flask ⟨.restart, _, _⟩ => none
  | .goIngest a req => some (.goIngest a req)

/-- Accounts are made with `manage.py` only. -/
theorem transaction_createUser {op : SystemOp} {a : Ambient} {username pwHash : String} {role : Role}
    (h : op.transaction = some (.createUser a username pwHash role)) :
    ∃ ra, op = .flask ⟨.createUser username pwHash role, a, ra⟩ := by
  match op, h with
  | .flask ⟨.createUser _ _ _, _, ra⟩, rfl => exact ⟨ra, rfl⟩
  | .flask ⟨.http req, b, _⟩, h =>
    have hnone : req.transaction b ≠ some (.createUser a username pwHash role) := by
      unfold Request.transaction
      split <;> simp
    rw [SystemOp.transaction] at h
    split_ifs at h
    exact absurd h hnone

section Transactions

variable {V V' : AlertValues → Prop} {N N' : String → Prop} {C C' : Time → Prop} {db db' : Db}

/-- A transaction that may do less may do more. -/
theorem StoreStep.mono (h : StoreStep V N C db db') (hV : ∀ v, V v → V' v) (hN : ∀ text, N text → N' text)
    (hC : ∀ cutoff, C cutoff → C' cutoff) : StoreStep V' N' C' db db' := by
  cases h with
  | unchanged h => exact .unchanged h
  | ingested now v hv h => exact .ingested now v (hV v hv) h
  | triaged now user alertId analystName action seconds alert hal hopen hs h =>
    exact .triaged now user alertId analystName action seconds alert hal hopen hs h
  | noted now user alertId note alert hal hn h => exact .noted now user alertId note alert hal (hN note hn) h
  | purged cutoff hc h => exact .purged cutoff (hC cutoff hc) h
  | account username passwordHash role h => exact .account username passwordHash role h

/-- No transaction changes or removes an account. -/
theorem StoreStep.users (h : StoreStep V N C db db') : db.users <+: db'.users := by
  cases h with
  | account username passwordHash role h =>
    rw [h.userRows]
    exact List.prefix_append _ _
  | unchanged h => exact h.userRows ▸ List.prefix_refl _
  | ingested now v _ h => exact h.userRows ▸ List.prefix_refl _
  | triaged now user alertId analystName action seconds alert _ _ _ h => exact h.userRows ▸ List.prefix_refl _
  | noted now user alertId note alert _ _ h => exact h.userRows ▸ List.prefix_refl _
  | purged cutoff _ h => exact h.userRows ▸ List.prefix_refl _

/-! ### One alert of the table -/

theorem alert?_of_alerts (h : db'.alerts = db.alerts) (id : ℕ) : db'.alert? id = db.alert? id := by
  rw [Db.alert?, Db.alert?, h]

theorem alert?_withAlert (db : Db) (now : Time) (v : AlertValues) (id : ℕ) :
    (db.withAlert now v).alert? id =
      (db.alert? id).or (if db.alertsSeq = id then some (db.newAlert now v) else none) := by
  simp only [Db.alert?, Table.lookup, Db.withAlert, List.find?_append, List.find?_cons, List.find?_nil]
  by_cases hseq : db.alertsSeq = id
  · simp [Db.newAlert, hseq]
  · simp [Db.newAlert, hseq]

theorem alert?_withAlert_of_ne {id : ℕ} (h : id ≠ db.alertsSeq) (now : Time) (v : AlertValues) :
    (db.withAlert now v).alert? id = db.alert? id := by
  rw [alert?_withAlert, if_neg h.symm, Option.or_none]

/-- The id of a new alert was nobody's. -/
theorem StoreInv.alert?_next (hi : StoreInv db) : db.alert? db.alertsSeq = none := by
  refine List.find?_eq_none.mpr fun alert hal => ?_
  have hlt := hi.fresh alert hal
  simp only [decide_eq_true_eq]
  omega

theorem StoreInv.alert?_withAlert_new (hi : StoreInv db) (now : Time) (v : AlertValues) :
    (db.withAlert now v).alert? db.alertsSeq = some (db.newAlert now v) := by
  rw [alert?_withAlert, hi.alert?_next, if_pos rfl, Option.none_or]

/-- An alert that is there afterwards was there, unless its id is a new one. -/
theorem StoreStep.alertIds_mem (h : StoreStep V N C db db') {id : ℕ} (hlt : id < db.alertsSeq)
    (hid : id ∈ db'.alertIds) : id ∈ db.alertIds := by
  rcases h.ids with hids | ⟨cutoff, -, hrows⟩ | ⟨hids, -⟩
  · rwa [hids] at hid
  · rw [Db.alertIds, hrows] at hid
    obtain ⟨alert, hal, rfl⟩ := List.mem_map.mp hid
    exact List.mem_map_of_mem (List.mem_of_mem_filter hal)
  · rw [hids] at hid
    rcases List.mem_append.mp hid with hold | hnew
    · exact hold
    · rw [List.mem_singleton.mp hnew] at hlt
      omega

/-- Of the alerts that are there, a purge keeps those that are not too old. -/
theorem StoreInv.mem_purged_alertIds_iff {db : Db} (hi : StoreInv db) {cutoff : Time} {id : ℕ}
    (hid : id ∈ db.alertIds) : id ∈ (db.purged cutoff).alertIds ↔ db.expired cutoff id = false := by
  refine ⟨fun h => ?_, mem_purged_alertIds hid⟩
  obtain ⟨alert, hal, rfl⟩ := List.mem_map.mp h
  obtain ⟨hal, hkept⟩ := List.mem_filter.mp hal
  refine List.any_eq_false.mpr fun b hb => ?_
  simp only [Bool.and_eq_true, decide_eq_true_eq, not_and]
  intro hbid
  rw [hi.distinct.eq hb hal hbid]
  simpa using hkept

section Triaged

variable {now : Time} {user : User} {alertId : ℕ} {analystName : String} {action : Action} {seconds : ℤ}

theorem alert?_triaged {alert : Alert} (hal : db.alert? alertId = some alert) :
    (db.triaged now user alertId analystName action seconds).alert? alertId =
      some (Db.assign (actionToStatus action) analystName alert) := by
  have hassigned := alert?_assigned db alertId (actionToStatus action) analystName
  rw [hal] at hassigned
  exact hassigned

theorem alert?_triaged_of_ne {id : ℕ} (hid : id ≠ alertId) :
    (db.triaged now user alertId analystName action seconds).alert? id = db.alert? id :=
  Table.lookup_update_of_ne (assign_id _ _) hid db.alerts

end Triaged

end Transactions

section Steps

variable {site : Site} {env : Env} {svc : Service}

theorem opStep_http (w : World) (req : Request) (a : Ambient) (ra : ReadAmbient) :
    opStep site env w ⟨.http req, a, ra⟩ =
      (some (respond (serve env (reads site env a ra) a req) w).1,
        (serve env (reads site env a ra) a req w).2) := by
  rw [← respond_snd]
  rfl

/-- The other requests leave the tables as they are. -/
theorem serve_db {reads : Reads} {a : Ambient} {req : Request} (h : req.method = .post → req.endpoint.writes = false)
    (w : World) : (serve env reads a req w).2.db = w.db := by
  rcases serve_cases env reads a req w with hs | ⟨hm, hs⟩
  · rw [hs]
  by_cases hpost : req.method = .post
  · have hw := h hpost
    cases he : req.endpoint with
    | login =>
      have hlogin : Untouched w (login env a req w).2 := keeps_login w
      rw [hs, view, he]
      exact hlogin.rows.symm
    | approve workflowRunId => rw [serve_approve he hpost]
    | alerts => simp [he, Endpoint.writes] at hw
    | classify alertId => simp [he, Endpoint.writes] at hw
    | notes alertId => simp [he, Endpoint.writes] at hw
    | _ => simp [hpost, he, Endpoint.methods] at hm
  · have hread : Untouched w (view env reads a req w).2 := keeps_view_reading hpost hm w
    rw [hs]
    exact hread.rows.symm

/-- A writing request without a CSRF token that it needs stops before its handler. -/
theorem serve_csrf {reads : Reads} {a : Ambient} {req : Request} {reason : String} (hpost : req.method = .post)
    (hmem : .post ∈ req.endpoint.methods) (hne : req.endpoint ≠ .alerts) (hcsrf : req.csrfError = some reason)
    (w : World) : (serve env reads a req w).2 = w := by
  rw [serve_of_protected hpost hmem hne, hcsrf]

theorem serve_transaction {reads : Reads} {a : Ambient} {req : Request} (hpost : req.method = .post) (w : World) :
    match req.transaction a with
    | some t => (serve env reads a req w).2 = storeStep env svc w t
    | none => (serve env reads a req w).2.db = w.db := by
  unfold Request.transaction
  cases he : req.endpoint with
  | alerts =>
    rw [serve_ingest hpost he]
    rfl
  | classify alertId =>
    have hmem : Method.post ∈ req.endpoint.methods := by simp [he, Endpoint.methods]
    have hne : req.endpoint ≠ .alerts := by simp [he]
    cases hcsrf : req.csrfError with
    | some reason => exact congrArg World.db (serve_csrf hpost hmem hne hcsrf w)
    | none =>
      rw [serve_of_protected hpost hmem hne, hcsrf]
      simp only [view, he, storeStep]
  | notes alertId =>
    have hmem : Method.post ∈ req.endpoint.methods := by simp [he, Endpoint.methods]
    have hne : req.endpoint ≠ .alerts := by simp [he]
    cases hcsrf : req.csrfError with
    | some reason => exact congrArg World.db (serve_csrf hpost hmem hne hcsrf w)
    | none =>
      rw [serve_of_protected hpost hmem hne, hcsrf]
      simp only [view, he, storeStep]
  | _ => exact serve_db (fun _ => by simp [he, Endpoint.writes]) w

variable (site env svc) in
/-- **A step is a transaction or leaves the tables as they are.** -/
theorem systemStep_transaction (w : World) (op : SystemOp) :
    match op.transaction with
    | some t => systemStep site env svc w op = storeStep env svc w t
    | none => (systemStep site env svc w op).db = w.db := by
  match op with
  | .goIngest a req => rfl
  | .flask ⟨.kafkaIngest body, a, ra⟩ => rfl
  | .flask ⟨.purge days, a, ra⟩ => rfl
  | .flask ⟨.createUser username pwHash role, a, ra⟩ => rfl
  | .flask ⟨.restart, a, ra⟩ => rfl
  | .flask ⟨.http req, a, ra⟩ =>
    rw [systemStep, opStep_http, SystemOp.transaction]
    by_cases hpost : req.method = .post
    · rw [if_pos hpost]
      exact serve_transaction hpost w
    · rw [if_neg hpost]
      exact serve_db (fun h => absurd h hpost) w

/-- What the transaction of a step may write, and where it may cut off old alerts. -/
def SystemOp.Writes (env : Env) (svc : Service) (op : SystemOp) (v : AlertValues) : Prop :=
  ∃ t ∈ op.transaction, t.Writes env svc v

def SystemOp.Notes (env : Env) (op : SystemOp) (text : String) : Prop := ∃ t ∈ op.transaction, t.Notes env text

def SystemOp.Purges (op : SystemOp) (cutoff : Time) : Prop := ∃ t ∈ op.transaction, t.Purges cutoff

variable (site env svc) in
/-- **Every step of the system does one of the things of `StoreStep`.** -/
theorem systemStep_does (w : World) (op : SystemOp) :
    StoreStep (op.Writes env svc) (op.Notes env) op.Purges w.db (systemStep site env svc w op).db := by
  have hstep := systemStep_transaction site env svc w op
  cases ht : op.transaction with
  | none =>
    rw [ht] at hstep
    rw [hstep]
    exact refl w.db
  | some t =>
    rw [ht] at hstep
    rw [hstep]
    exact (storeStep_does env svc w t).rows.mono (fun v hv => ⟨t, ht, hv⟩) (fun text hn => ⟨t, ht, hn⟩)
      fun cutoff hc => ⟨t, ht, hc⟩

end Steps

section Runs

variable (site : Site) (env : Env) (svc : Service)

/-- The store's invariant holds after any run of the system. -/
theorem storeInv_systemRun (w : World) (ops : List SystemOp) :
    StoreInv (Runs.run (systemStep site env svc) (w.setDb (applySchema none)) ops).db :=
  Runs.run_inv (systemStep site env svc) (I := fun w => StoreInv w.db)
    (fun w op hi => hi.step (systemStep_does site env svc w op)) ops (w.setDb (applySchema none)) StoreInv.created

/-- Accounts are only added. -/
theorem users_systemRun (ops : List SystemOp) (w : World) :
    w.db.users <+: (Runs.run (systemStep site env svc) w ops).db.users :=
  Runs.run_inv (systemStep site env svc) (I := fun w' => w.db.users <+: w'.db.users)
    (fun _ op h => h.trans (systemStep_does site env svc _ op).users) ops w (List.prefix_refl _)

end Runs

end SocDashboard
