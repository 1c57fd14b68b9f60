/-
# The ledger of the gate

A run with a critical alert waits for a human: `api_approve_workflow` completes
its WAIT task at Conductor. What Conductor is told in a run of the whole system
is what the approve requests tell it (`SystemOp.release`), one call each, in
their order; no ingest, no triage, no purge and nobody without an account
releases anything. Nothing is withdrawn, and the answers tell less than the
calls: a call whose answer was lost is reported as an error (502), although the
run may go on.

Key definitions: `SystemOp.release`, `SystemOp.acknowledged`, `releases`,
`acknowledgements`.
Key theorems: `systemStep_taskUpdates`, `approve_acknowledged`,
`gate_systemRun`.
-/
import SocDashboard.Lib.Ledger
import SocDashboard.Statements
import SocDashboard.SystemRuns

namespace SocDashboard

open Exec Ledgers

/-- What a step tells Conductor. -/
def SystemOp.release (env : Env) (w : World) : SystemOp → Option TaskUpdate
  | .flask ⟨.http req, a, _⟩ => releasedTask env a w.db req
  | _ => none

/-- The run and the account in the answer to an approve request that succeeded. -/
def acknowledged (req : Request) (r : Response) : Option (String × String) :=
  match req.endpoint, r.payload with
  | .approve _, .released workflowRunId approvedBy => some (workflowRunId, approvedBy)
  | _, _ => none

/-- What the answer of a step acknowledges. -/
def SystemOp.acknowledged (site : Site) (env : Env) (w : World) : SystemOp → Option (String × String)
  | .flask ⟨.http req, a, ra⟩ =>
    (systemAnswer site env w (.flask ⟨.http req, a, ra⟩)).bind (SocDashboard.acknowledged req)
  | _ => none

/-- The call to Conductor does not raise once it is made. -/
def SystemOp.reachesConductor : SystemOp → Bool
  | .flask ⟨.http _, a, _⟩ => !a.fails .conductorUpdate
  | _ => true

/-- Run and account of a call. -/
def TaskUpdate.released (u : TaskUpdate) : String × String := (u.workflowId, u.approvedBy)

/-! ### One step -/

section Step

variable {site : Site} {env : Env} {svc : Service} {reads : Reads} {a : Ambient} {req : Request} {w : World}

/-- Nothing is asked of the rows. -/
def AnyRows (_ _ : Db) : Prop := True

instance : Std.Refl AnyRows := ⟨fun _ => trivial⟩

instance : IsTrans Db AnyRows := ⟨fun _ _ _ _ _ => trivial⟩

theorem anyRows_byStatement : ByStatement AnyRows where
  rollback _ _ _ := trivial
  withAlert _ _ _ := trivial
  assigned _ _ _ _ := trivial
  withAction _ _ _ _ _ _ := trivial
  withAudit _ _ := trivial

/-- Every other request leaves Conductor alone. -/
theorem serve_tasks (happ : ∀ id, req.endpoint = .approve id → req.method ≠ .post) :
    (serve env reads a req w).2.taskUpdates = w.taskUpdates := by
  rcases serve_cases env reads a req w with hs | ⟨hmem, hs⟩
  · rw [hs]
  rw [hs]
  by_cases hpost : req.method = .post
  · unfold view
    cases he : req.endpoint with
    | login =>
      have hlogin : Untouched w (login env a req w).2 := keeps_login w
      exact hlogin.tasks
    | alerts =>
      rw [if_pos hpost]
      exact (anyRows_byStatement.apiIngestAlert (fun _ _ _ => trivial) req.apiKey req.json w).tasks
    | classify alertId => exact (anyRows_byStatement.apiClassify req.session alertId req.json w).tasks
    | notes alertId => exact (anyRows_byStatement.apiAddNote req.session alertId req.json w).tasks
    | approve id => exact absurd hpost (happ id he)
    | _ => simp [he, hpost, Endpoint.methods] at hmem
  · have hread : Untouched w (view env reads a req w).2 := keeps_view_reading hpost hmem w
    exact hread.tasks

theorem serve_taskUpdates :
    (serve env reads a req w).2.taskUpdates = w.taskUpdates ++ (releasedTask env a w.db req).toList := by
  by_cases happ : ∃ id, req.endpoint = .approve id ∧ req.method = .post
  · obtain ⟨id, he, hpost⟩ := happ
    rw [serve_approve he hpost]
  · have hnone : releasedTask env a w.db req = none := by
      by_cases hpost : req.method = .post
      · exact releasedTask_eq_none (.inr (.inr fun id he => happ ⟨id, he, hpost⟩))
      · exact releasedTask_eq_none (.inl hpost)
    rw [serve_tasks fun id he hpost => happ ⟨id, he, hpost⟩, hnone]
    simp

/-- **A step tells Conductor what its request releases**, and nothing else does. -/
theorem systemStep_taskUpdates (w : World) (op : SystemOp) :
    (systemStep site env svc w op).taskUpdates = w.taskUpdates ++ (op.release env w).toList := by
  have htransaction : ∀ t, (storeStep env svc w t).taskUpdates = w.taskUpdates ++ [] := fun t => by
    rw [List.append_nil]
    exact (storeStep_does env svc w t).tasks
  match op with
  | .goIngest a req => exact htransaction (.goIngest a req)
  | .flask ⟨.kafkaIngest body, a, ra⟩ => exact htransaction (.kafkaIngest a body)
  | .flask ⟨.purge days, a, ra⟩ => exact htransaction (.purgeOldAlerts a days)
  | .flask ⟨.createUser username pwHash role, a, ra⟩ => exact htransaction (.createUser a username pwHash role)
  | .flask ⟨.restart, a, ra⟩ => exact (List.append_nil _).symm
  | .flask ⟨.http req, a, ra⟩ =>
    rw [systemStep, opStep_http]
    exact serve_taskUpdates

theorem acknowledged_of_ne (he : ∀ id, req.endpoint ≠ .approve id) (r : Response) : acknowledged req r = none := by
  unfold acknowledged
  split
  · rename_i id workflowRunId approvedBy happrove hpayload
    exact absurd happrove (he id)
  · rfl

theorem approveView_acknowledged {id : String} (he : req.endpoint = .approve id) (user : User) :
    acknowledged req (respond (approveView env a req user id) w).1 =
      match readNote env req.json with
      | .ok _ =>
        if env.conductorSdk = true ∧ env.conductorServerUrl.getD "" ≠ "" ∧ a.fails .conductorClient = false ∧
            a.fails .conductorUpdate = false then some (id, user.username)
        else none
      | .error _ => none := by
  unfold approveView
  cases hs : env.conductorSdk with
  | false => cases readNote env req.json <;> simp [respond, acknowledged, he]
  | true =>
    by_cases hu : env.conductorServerUrl.getD "" = ""
    · cases readNote env req.json <;> simp [hu, respond, acknowledged, he]
    · cases hn : readNote env req.json with
      | error e => cases e <;> simp [hu, bind_apply, respond, acknowledged, he, Exc.response]
      | ok note =>
        cases hc : a.fails .conductorClient <;> cases hup : a.fails .conductorUpdate <;>
          simp [hu, bind_apply, catching, respond, acknowledged, he]

/-- An error is no acknowledgement. -/
theorem acknowledged_error (e : Exc) : acknowledged req e.response = none := by
  unfold acknowledged
  cases e <;> cases req.endpoint <;> rfl

/-- **When a release is acknowledged**: the call was made and did not raise. -/
theorem serve_acknowledged :
    acknowledged req (respond (serve env reads a req) w).1 =
      if a.fails .conductorUpdate then none else (releasedTask env a w.db req).map TaskUpdate.released := by
  by_cases happ : ∃ id, req.endpoint = .approve id
  swap
  · have hne : ∀ id, req.endpoint ≠ .approve id := fun id he => happ ⟨id, he⟩
    rw [acknowledged_of_ne hne, releasedTask_eq_none (.inr (.inr hne))]
    simp
  obtain ⟨id, he⟩ := happ
  by_cases hpost : req.method = .post
  swap
  · rw [releasedTask_eq_none (.inl hpost)]
    have hrefused : acknowledged req (respond (serve env reads a req) w).1 = none := by
      unfold serve respond
      cases hm : req.method <;> simp_all [Endpoint.methods, acknowledged, Exc.response]
    rw [hrefused]
    simp
  have hmem : Method.post ∈ req.endpoint.methods := by rw [he]; exact List.mem_singleton_self _
  have hne : req.endpoint ≠ .alerts := by rw [he]; exact Endpoint.noConfusion
  cases hc : req.csrfError with
  | some reason =>
    have hserve : serve env reads a req w = _ := serve_of_protected hpost hmem hne w
    rw [hc] at hserve
    rw [respond, hserve, acknowledged_error, releasedTask_eq_none (.inr (.inl (by simp [hc])))]
    simp
  | none =>
    have hserve : serve env reads a req w = _ := serve_of_protected hpost hmem hne w
    rw [hc] at hserve
    have hview : serve env reads a req w =
        loginRequired a req.session (fun user => approveView env a req user id) w := by
      refine hserve.trans ?_
      simp only [view, he, apiApproveWorkflow]
    rw [loginRequired_eq] at hview
    cases hl : loadFails a req.session with
    | true =>
      rw [hl, if_pos rfl] at hview
      have hnone : releasedTask env a w.db req = none := by
        unfold releasedTask
        split
        · exact if_neg fun hall => by simp [hl] at hall
        · rfl
      rw [respond, hview, acknowledged_error, hnone]
      simp
    | false =>
      rw [hl, if_neg Bool.false_ne_true] at hview
      cases hu : sessionUser w.db req.session with
      | none =>
        rw [hu] at hview
        rw [respond, hview]
        simp [acknowledged, he, releasedTask, hu]
      | some user =>
        rw [hu] at hview
        have hanswer : respond (serve env reads a req) w = respond (approveView env a req user id) w :=
          respond_congr hview
        rw [hanswer, approveView_acknowledged he]
        cases hn : readNote env req.json with
        | error e => simp [releasedTask, hn]
        | ok note =>
          simp only [releasedTask, he, hu, hn, hpost, hc, hl, true_and]
          cases hup : a.fails .conductorUpdate with
          | true => simp
          | false =>
            by_cases hready : env.conductorSdk = true ∧ env.conductorServerUrl.getD "" ≠ "" ∧
                a.fails .conductorClient = false
            · simp [hready, TaskUpdate.released]
            · simp [hready]

end Step

/-! ### A run -/

section Run

variable (site : Site) (env : Env) (svc : Service)

/-- What Conductor is told in a run, one call after another. -/
def releases : World → List SystemOp → List TaskUpdate := written (systemStep site env svc) (SystemOp.release env)

/-- What the approve requests of a run are told that they released. -/
def acknowledgements : World → List SystemOp → List (String × String) :=
  written (systemStep site env svc) (SystemOp.acknowledged site env)

/-- The call was made for a request to approve the run, with a valid token, by an account. -/
structure Approved (w : World) (ops : List SystemOp) (u : TaskUpdate) : Prop where
  task : u.taskRefName = conductorApprovalTaskRef ∧ u.status = "COMPLETED"
  request : ∃ before req a ra after user, ops = before ++ .flask ⟨.http req, a, ra⟩ :: after ∧
    req.method = .post ∧ req.endpoint = .approve u.workflowId ∧ req.csrfError = none ∧
    sessionUser (Runs.run (systemStep site env svc) w before).db req.session = some user ∧ user.username = u.approvedBy
  /-- The account is still there. -/
  account : ∃ row ∈ (Runs.run (systemStep site env svc) w ops).db.users, row.username = u.approvedBy

theorem releasedTask_cases {env : Env} {a : Ambient} {db : Db} {req : Request} {u : TaskUpdate}
    (h : releasedTask env a db req = some u) :
    ∃ user, req.method = .post ∧ req.endpoint = .approve u.workflowId ∧ req.csrfError = none ∧
      sessionUser db req.session = some user ∧ user.username = u.approvedBy ∧
      u.taskRefName = conductorApprovalTaskRef ∧ u.status = "COMPLETED" := by
  unfold releasedTask at h
  split at h
  · rename_i workflowRunId user note he hu hn
    split_ifs at h with hall
    obtain rfl := Option.some.inj h
    exact ⟨user, hall.1, he, hall.2.1, hu, rfl, rfl, rfl⟩
  · cases h

theorem release_cases {env : Env} {w : World} {op : SystemOp} {u : TaskUpdate} (h : op.release env w = some u) :
    ∃ req a ra, op = .flask ⟨.http req, a, ra⟩ ∧ releasedTask env a w.db req = some u := by
  match op, h with
  | .flask ⟨.http req, a, ra⟩, h => exact ⟨req, a, ra, rfl, h⟩

theorem sessionUser_mem {db : Db} {session : Option ℕ} {user : User} (h : sessionUser db session = some user) :
    ∃ row ∈ db.users, row.username = user.username := by
  cases session with
  | none => cases h
  | some userId =>
    obtain ⟨row, hrow, rfl⟩ := Option.map_eq_some_iff.mp h
    exact ⟨row, Table.lookup_mem hrow, rfl⟩

theorem releases_approved (w : World) (ops : List SystemOp) :
    ∀ u ∈ releases site env svc w ops, Approved site env svc w ops u := by
  intro u hu
  obtain ⟨before, op, after, hops, hrelease⟩ := mem_written hu
  obtain ⟨req, a, ra, rfl, htask⟩ := release_cases hrelease
  obtain ⟨user, hpost, he, hcsrf, hsession, hname, hcall⟩ := releasedTask_cases htask
  refine ⟨hcall, ⟨before, req, a, ra, after, user, hops, hpost, he, hcsrf, hsession, hname⟩, ?_⟩
  obtain ⟨row, hrow, hrowname⟩ := sessionUser_mem hsession
  have husers := users_systemRun site env svc (.flask ⟨.http req, a, ra⟩ :: after)
    (Runs.run (systemStep site env svc) w before)
  rw [← Runs.run_append, ← hops] at husers
  exact ⟨row, husers.subset hrow, hrowname.trans hname⟩

/-- **Conductor is told what was approved.** In any run each call is that of one approve request of
an account, in their order, and no call is lost; what is acknowledged was called, and what was called
is acknowledged unless a call raised. -/
theorem gate_systemRun (w : World) (ops : List SystemOp) :
    (Runs.run (systemStep site env svc) w ops).taskUpdates = w.taskUpdates ++ releases site env svc w ops ∧
      (∀ u ∈ releases site env svc w ops, Approved site env svc w ops u) ∧
      (acknowledgements site env svc w ops).Sublist ((releases site env svc w ops).map TaskUpdate.released) ∧
      ((∀ op ∈ ops, op.reachesConductor = true) →
        acknowledgements site env svc w ops = (releases site env svc w ops).map TaskUpdate.released) := by
  have hreport : ∀ (w : World) (op : SystemOp), op.acknowledged site env w =
      if op.reachesConductor then (op.release env w).map TaskUpdate.released else none := by
    intro w op
    match op with
    | .flask ⟨.http req, a, ra⟩ =>
      have hserve : SocDashboard.acknowledged req (respond (serve env (reads site env a ra) a req) w).1 = _ :=
        serve_acknowledged
      rw [SystemOp.acknowledged, systemAnswer, opStep_http]
      refine hserve.trans ?_
      cases hup : a.fails .conductorUpdate <;> simp [SystemOp.reachesConductor, SystemOp.release, hup]
    | .goIngest a req => rfl
    | .flask ⟨.kafkaIngest body, a, ra⟩ => rfl
    | .flask ⟨.purge days, a, ra⟩ => rfl
    | .flask ⟨.createUser username pwHash role, a, ra⟩ => rfl
    | .flask ⟨.restart, a, ra⟩ => rfl
  refine ⟨table_append systemStep_taskUpdates ops w, releases_approved site env svc w ops, ?_, ?_⟩
  · refine written_sublist (fun w op => ?_) ops w
    rw [hreport]
    cases op.reachesConductor with
    | true => exact .inr rfl
    | false => exact .inl rfl
  · intro hreach
    refine written_map fun w op hop => ?_
    rw [hreport, hreach op hop, if_pos rfl]

end Run

end SocDashboard
