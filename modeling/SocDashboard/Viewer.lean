/-
# What a viewer can change

Requests that carry no valid API key and no session, or a viewer's. None of
them changes the database: the writing views are behind `require_role` or the
key, and the others only read. The approval gate of Conductor is the one that
opens: `api_approve_workflow` is behind `login_required` alone, so a viewer's
request releases the run. The run lemma says which task updates a sequence of
such requests makes, and nothing else changes.

Key definitions: `ReadOnly`, `releasedTask`, `Untouched`, `serveStep`.
Key theorems: `keeps_view_reading`, `serveStep_readOnly`, `serveStep_run`, `untouched_iff`.
-/
import SocDashboard.Lib.Runs
import SocDashboard.Routes

namespace SocDashboard

open Exec

/-- A request without the API key whose session, if it is one, is a viewer's. -/
structure ReadOnly (env : Env) (db : Db) (req : Request) : Prop where
  noKey : validApiKey env req.apiKey ≠ .ok true
  viewer : ∀ user, sessionUser db req.session = some user → user.role = .viewer

/-- The tables are as they were and Conductor was not called. -/
abbrev Untouched : World → World → Prop := OnDb Eq

/-- The task update of a request: a logged-in account posts to the approve view
with a valid CSRF token and a note that can be read, Conductor is configured
and its client can be made. -/
def releasedTask (env : Env) (a : Ambient) (db : Db) (req : Request) : Option TaskUpdate :=
  match req.endpoint, sessionUser db req.session, readNote env req.json with
  | .approve workflowRunId, some user, .ok note =>
    if req.method = .post ∧ req.csrfError = none ∧ loadFails a req.session = false ∧
        env.conductorSdk = true ∧ env.conductorServerUrl.getD "" ≠ "" ∧
        a.fails .conductorClient = false then
      some ⟨workflowRunId, conductorApprovalTaskRef, "COMPLETED", user.username, note⟩
    else none
  | _, _, _ => none

/-- The world after a request, with what it meets. -/
def serveStep (env : Env) (reads : Reads) (w : World) (x : Ambient × Request) : World :=
  (serve env reads x.1 x.2 w).2

/-! ### The views that only read -/

section Reading

variable {env : Env} {reads : Reads} {a : Ambient} {req : Request}

theorem keeps_selects : Keeps Untouched (selects reads a req) := by
  refine (Keeps.lift _).bind fun query => Keeps.bind ?_ fun answer => Keeps.lift answer
  refine keeps_withConn a .main ?_ (Keeps.attempt (Keeps.gets _))
  intro db db' h
  rw [← h]
  rfl

theorem keeps_login : Keeps Untouched (login env a req) := by
  refine Keeps.ite (fun _ => ?_) fun _ => Keeps.pure _
  refine Keeps.lift_bind fun bound _ => ?_
  have hrow : Keeps Untouched (withConn a .main <| attempt (a.fails .select) Exc.databaseError <|
      gets fun db => db.users.find? fun u => u.username = bound) := by
    refine keeps_withConn a .main ?_ (Keeps.attempt (Keeps.gets _))
    intro db db' h
    rw [← h]
    rfl
  refine hrow.bind fun row => ?_
  cases row with
  | none => exact Keeps.pure _
  | some u =>
    refine Keeps.lift_bind fun matches' _ => ?_
    exact Keeps.ite (fun _ => Keeps.pure _) fun _ => Keeps.pure _

theorem keeps_apiSimilarAlerts : Keeps Untouched (apiSimilarAlerts reads a req) := by
  refine keeps_loginRequired a req.session fun user => (Keeps.gets _).bind fun m => ?_
  refine Keeps.ite (fun _ => Keeps.pure _) fun _ => ?_
  exact Keeps.catching keeps_selects fun _ => Keeps.pure _

theorem keeps_apiStream : Keeps Untouched (apiStream env a req) := by
  refine keeps_loginRequired a req.session fun user => Keeps.bind ?_ fun _ => Keeps.pure _
  exact Keeps.ite (fun _ => Keeps.pure _) fun _ => keeps_modify_beside fun w => ⟨rfl, rfl⟩

/-- A `GET` or `HEAD` request changes nothing, whoever sends it. -/
theorem keeps_view_reading (hm : req.method ≠ .post) (hmem : req.method ∈ req.endpoint.methods) :
    Keeps Untouched (view env reads a req) := by
  have hread : Keeps Untouched (loginRequired a req.session fun _ => selects reads a req) :=
    keeps_loginRequired a req.session fun _ => keeps_selects
  unfold view
  cases he : req.endpoint with
  | login => exact keeps_login
  | logout => exact keeps_loginRequired a req.session fun _ => Keeps.pure _
  | dashboard => exact keeps_loginRequired a req.session fun _ => Keeps.pure _
  | analyst => exact keeps_loginRequired a req.session fun _ => Keeps.pure _
  | alerts =>
    simp only [hm, if_false]
    exact hread
  | allAlerts => exact hread
  | similar alertId => exact keeps_apiSimilarAlerts
  | classify alertId => simp [he, Endpoint.methods, hm] at hmem
  | stats => exact hread
  | audit alertId => exact hread
  | auditPage =>
    exact keeps_loginRequired a req.session fun user => keeps_requireRole _ user keeps_selects
  | notes alertId => simp [he, Endpoint.methods, hm] at hmem
  | approve workflowRunId => simp [he, Endpoint.methods, hm] at hmem
  | navigatorLayer => exact hread
  | stream => exact keeps_apiStream
  | static filename => exact (Keeps.lift _).bind fun query => (Keeps.gets _).bind fun db => Keeps.lift _
  | unknown => exact Keeps.raise _

end Reading

/-! ### The writing views, when a viewer calls them -/

section Writing

variable {env : Env} {reads : Reads} {a : Ambient} {req : Request} {w : World}

/-- Behind `require_role("analyst", "admin")` a viewer does not get. -/
theorem requireRole_viewer {user : User} (h : user.role = .viewer) (inner : Exec World Exc Response) :
    requireRole [.analyst, .admin] user inner = raise (.abort 403 "insufficient role") := by
  unfold requireRole
  rw [h]
  rfl

theorem loginRequired_viewer (hv : ∀ user, sessionUser w.db req.session = some user → user.role = .viewer)
    (inner : User → Exec World Exc Response) :
    (loginRequired a req.session (fun user => requireRole [.analyst, .admin] user (inner user)) w).2 = w := by
  rw [loginRequired_eq]
  cases loadFails a req.session with
  | true => rfl
  | false =>
    cases hu : sessionUser w.db req.session with
    | none => rfl
    | some user =>
      have hrole := hv user hu
      simp only [Bool.false_eq_true, if_false]
      rw [requireRole_viewer hrole]
      rfl

/-- Without the key nothing is ingested. -/
theorem apiIngestAlert_noKey (h : validApiKey env req.apiKey ≠ .ok true) (json : Option Json) :
    (apiIngestAlert env a req.apiKey json w).2 = w := by
  unfold apiIngestAlert
  cases hv : validApiKey env req.apiKey with
  | error e => rfl
  | ok valid =>
    cases valid with
    | false => rfl
    | true => exact absurd hv h

/-- **Any account releases the gate.** -/
theorem approveView_snd (user : User) (workflowRunId : String) :
    (approveView env a req user workflowRunId w).2 =
      match readNote env req.json with
      | .ok note =>
        if env.conductorSdk = true ∧ env.conductorServerUrl.getD "" ≠ "" ∧
            a.fails .conductorClient = false then
          { w with taskUpdates := w.taskUpdates ++
              [⟨workflowRunId, conductorApprovalTaskRef, "COMPLETED", user.username, note⟩] }
        else w
      | .error _ => w := by
  unfold approveView
  cases hs : env.conductorSdk with
  | false => cases readNote env req.json <;> rfl
  | true =>
    by_cases hu : env.conductorServerUrl.getD "" = ""
    · cases readNote env req.json <;> simp [hu]
    · cases hn : readNote env req.json with
      | error e => simp [hu, bind_apply]
      | ok note =>
        cases hc : a.fails .conductorClient <;> cases hup : a.fails .conductorUpdate <;>
          simp [hu, bind_apply, catching]

end Writing

/-! ### One request -/

section Step

variable {env : Env} {reads : Reads} {a : Ambient} {req : Request} {w : World}

/-- Only a `POST` to the approve view makes a task update. -/
theorem releasedTask_eq_none {db : Db}
    (h : req.method ≠ .post ∨ req.csrfError ≠ none ∨ ∀ id, req.endpoint ≠ .approve id) :
    releasedTask env a db req = none := by
  unfold releasedTask
  split
  · rename_i workflowRunId user note he hu hn
    refine if_neg fun hall => ?_
    rcases h with h | h | h
    · exact h hall.1
    · exact h hall.2.1
    · exact h workflowRunId he
  · rfl

/-- What the approve view releases, in terms of the request. -/
theorem serve_approve {workflowRunId : String} (he : req.endpoint = .approve workflowRunId)
    (hpost : req.method = .post) :
    (serve env reads a req w).2 =
      { w with taskUpdates := w.taskUpdates ++ (releasedTask env a w.db req).toList } := by
  have hmem : Method.post ∈ req.endpoint.methods := by rw [he]; simp [Endpoint.methods]
  have hne : req.endpoint ≠ .alerts := by rw [he]; exact Endpoint.noConfusion
  rw [serve_of_protected hpost hmem hne]
  cases hc : req.csrfError with
  | some reason => rw [releasedTask_eq_none (.inr (.inl (by simp [hc])))]; simp
  | none =>
    simp only [view, he, apiApproveWorkflow, loginRequired_eq]
    cases hl : loadFails a req.session with
    | true =>
      have hnone : releasedTask env a w.db req = none := by
        unfold releasedTask
        split
        · exact if_neg fun hall => by simp [hl] at hall
        · rfl
      rw [hnone]
      simp
    | false =>
      cases hu : sessionUser w.db req.session with
      | none => simp [releasedTask, hu]
      | some user =>
        simp only [Bool.false_eq_true, if_false]
        rw [approveView_snd]
        cases hn : readNote env req.json with
        | error e => simp [releasedTask, hn]
        | ok note =>
          by_cases hready : env.conductorSdk = true ∧ env.conductorServerUrl.getD "" ≠ "" ∧
              a.fails .conductorClient = false
          · simp [releasedTask, he, hu, hn, hpost, hc, hl, hready]
          · simp only [releasedTask, he, hu, hn, hpost, hc, hl, true_and]
            rw [if_neg hready, if_neg hready]
            simp

/-- Any other request leaves the world as it was, when it is read-only. -/
theorem serve_untouched (h : ReadOnly env w.db req)
    (happ : ∀ id, req.endpoint = .approve id → req.method ≠ .post) :
    Untouched w (serve env reads a req w).2 := by
  have hrefl : Untouched w w := refl w
  rcases serve_cases env reads a req w with hw | ⟨hmem, hview⟩
  · rw [hw]
    exact hrefl
  rw [hview]
  by_cases hpost : req.method = .post
  · -- the writing views that are left, and the login form
    unfold view
    cases he : req.endpoint with
    | login => exact keeps_login w
    | alerts =>
      simp only [hpost, if_true]
      rw [apiIngestAlert_noKey h.noKey]
      exact hrefl
    | classify alertId =>
      simp only [apiClassify]
      rw [loginRequired_viewer h.viewer]
      exact hrefl
    | notes alertId =>
      simp only [apiAddNote]
      rw [loginRequired_viewer h.viewer]
      exact hrefl
    | approve id => exact absurd hpost (happ id he)
    | _ => simp [he, hpost, Endpoint.methods] at hmem
  · exact keeps_view_reading hpost hmem w

variable (reads) in
/-- **The step lemma.** A read-only request leaves the database as it is and makes the
task update that `releasedTask` says. -/
theorem serveStep_readOnly (x : Ambient × Request) (h : ReadOnly env w.db x.2) :
    (serveStep env reads w x).db = w.db ∧
      (serveStep env reads w x).taskUpdates = w.taskUpdates ++ (releasedTask env x.1 w.db x.2).toList := by
  by_cases happ : ∃ id, x.2.endpoint = .approve id ∧ x.2.method = .post
  · obtain ⟨id, he, hpost⟩ := happ
    rw [serveStep, serve_approve he hpost]
    exact ⟨rfl, rfl⟩
  · have hnone : releasedTask env x.1 w.db x.2 = none := by
      by_cases hpost : x.2.method = .post
      · exact releasedTask_eq_none (.inr (.inr fun id he => happ ⟨id, he, hpost⟩))
      · exact releasedTask_eq_none (.inl hpost)
    have hu : Untouched w (serveStep env reads w x) :=
      serve_untouched h fun id he hpost => happ ⟨id, he, hpost⟩
    rw [hnone]
    exact ⟨hu.rows.symm, by simp [hu.tasks]⟩

end Step

/-! ### Sequences of requests -/

/-- **The run lemma.** Of a sequence of read-only requests nothing stays but the task
updates, in order. -/
theorem serveStep_run (env : Env) (reads : Reads) : ∀ (reqs : List (Ambient × Request)) (w : World),
    (∀ x ∈ reqs, ReadOnly env w.db x.2) →
      (Runs.run (serveStep env reads) w reqs).db = w.db ∧
        (Runs.run (serveStep env reads) w reqs).taskUpdates =
          w.taskUpdates ++ reqs.flatMap fun x => (releasedTask env x.1 w.db x.2).toList
  | [], w, _ => ⟨rfl, by simp⟩
  | x :: reqs, w, h => by
    obtain ⟨hdb, htasks⟩ := serveStep_readOnly reads x (h x List.mem_cons_self)
    have hrest : ∀ y ∈ reqs, ReadOnly env (serveStep env reads w x).db y.2 := by
      rw [hdb]
      exact fun y hy => h y (List.mem_cons_of_mem x hy)
    obtain ⟨hdb', htasks'⟩ := serveStep_run env reads reqs (serveStep env reads w x) hrest
    rw [Runs.run_cons]
    refine ⟨hdb'.trans hdb, ?_⟩
    rw [htasks', htasks, hdb, List.flatMap_cons, List.append_assoc]

/-- **When viewers change nothing.** A sequence of read-only requests leaves the tables and
Conductor alone exactly when none of them reaches `update_task_sync`. -/
theorem untouched_iff (env : Env) (reads : Reads) (w : World) (reqs : List (Ambient × Request))
    (h : ∀ x ∈ reqs, ReadOnly env w.db x.2) :
    Untouched w (Runs.run (serveStep env reads) w reqs) ↔
      ∀ x ∈ reqs, releasedTask env x.1 w.db x.2 = none := by
  obtain ⟨hdb, htasks⟩ := serveStep_run env reads reqs w h
  constructor
  · intro hu x hx
    have hnil := hu.tasks
    rw [htasks, List.append_right_eq_self, List.flatMap_eq_nil_iff] at hnil
    exact Option.toList_eq_nil_iff.mp (hnil x hx)
  · intro hnone
    refine ⟨hdb.symm, ?_⟩
    rw [htasks, List.append_right_eq_self, List.flatMap_eq_nil_iff]
    exact fun x hx => Option.toList_eq_nil_iff.mpr (hnone x hx)

/-! ### A viewer at the gate -/

/-- The tables with one account, a viewer's. -/
def viewerWorld : World := (createInLocal calm "vera" "hash" .viewer emptyWorld).2

/-- The viewer's request to release the run `run-7`. -/
def approval : Request where
  method := .post
  endpoint := .approve "run-7"
  session := some 1
  apiKey := none
  csrfError := none
  json := none
  args := []
  form := []

/-- The viewer's request for the open queue. -/
def openQueue : Request := { approval with method := .get, endpoint := .alerts }

/-- The viewer's attempt to close an alert. -/
def viewerClassify : Request :=
  { approval with
    endpoint := .classify 1
    json := some (.obj [("analyst", .str "vera"), ("action", .str "classify_tp")]) }

/-- An alert comes in beside the viewer's account. -/
def viewedWorld : World :=
  viewerWorld.setDb (viewerWorld.db.withAlert 0
    ⟨"Port scan", "port_scan", .high, none, none, none, none, none⟩)

theorem untouched_openQueue :
    Untouched viewedWorld (Runs.run (serveStep exampleEnv pages) viewedWorld
        [(calm, openQueue), (calm, viewerClassify)]) ∧
      (respond (serve exampleEnv pages calm viewerClassify) viewedWorld).1.status = 403 := by
  have hro : ∀ x ∈ [(calm, openQueue), (calm, viewerClassify)], ReadOnly exampleEnv viewedWorld.db x.2 := by
    have hv : sessionUser viewedWorld.db (some 1) = some ⟨1, "vera", .viewer⟩ := by decide
    have hviewer : ∀ user, sessionUser viewedWorld.db (some 1) = some user → user.role = .viewer := by
      intro user hu
      rw [hv] at hu
      rw [← Option.some.inj hu]
    simp only [List.forall_mem_cons]
    exact ⟨⟨by decide, hviewer⟩, ⟨by decide, hviewer⟩, List.forall_mem_nil _⟩
  refine ⟨?_, by decide⟩
  exact (untouched_iff exampleEnv pages viewedWorld [(calm, openQueue), (calm, viewerClassify)] hro).mpr (by decide)

/-- The viewer's approval is read-only by role and reaches Conductor. -/
theorem viewer_releases_gate :
    ReadOnly exampleEnv viewerWorld.db approval ∧
      ¬ Untouched viewerWorld (Runs.run (serveStep exampleEnv pages) viewerWorld [(calm, approval)]) := by
  refine ⟨⟨by decide, fun user hu => ?_⟩, fun h => ?_⟩
  · have hv : sessionUser viewerWorld.db approval.session = some ⟨1, "vera", .viewer⟩ := by decide
    rw [hv] at hu
    rw [← Option.some.inj hu]
  · exact absurd h.tasks (by decide)

end SocDashboard
