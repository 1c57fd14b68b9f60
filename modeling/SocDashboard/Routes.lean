/-
# The routes

What the Flask app does with a request: URL and method, the CSRF check that
runs before every view but the exempt one, then the view behind the decorators
it was written with. The views that only read are their decorators over
`selects`, a connection block with `SELECT`s only; what they make of the rows
is a parameter (`Reads`), and so is what the static folder has.

Key definitions: `Request`, `serve`, `selects`, `login`, `apiApproveWorkflow`.
Key theorems: `serve_of_protected`, `serve_ingest`.
-/
import SocDashboard.Triage

namespace SocDashboard

open Exec

inductive Method
  | get
  | head
  | options
  | post
  | other
  deriving DecidableEq, Repr

/-- The URL rules, and `unknown` for a URL that none of them matches. -/
inductive Endpoint
  | login
  | logout
  | dashboard
  | analyst
  | alerts
  | allAlerts
  | similar (alertId : ℕ)
  | classify (alertId : ℕ)
  | stats
  | audit (alertId : ℕ)
  | auditPage
  | notes (alertId : ℕ)
  | approve (workflowRunId : String)
  | navigatorLayer
  | stream
  | static (filename : String)
  | unknown
  deriving DecidableEq, Repr

structure Request where
  method : Method
  endpoint : Endpoint
  /-- The user id of the session cookie. -/
  session : Option ℕ
  /-- The header `X-API-Key`. -/
  apiKey : Option String
  /-- Why `validate_csrf` refuses the request, if it does. -/
  csrfError : Option String
  /-- The value of the body, if it is JSON. -/
  json : Option Json
  args : List (String × String)
  form : List (String × String)

/-- The answer of a view that only reads: it checks the request and then makes
its answer of the rows. -/
abbrev Reads := Request → Except Exc (Db → Except Exc Response)

/-- Every page is there, for the examples. -/
def pages : Reads := fun _ => .ok fun _ => .ok ⟨200, .page, none⟩

/-- The methods of the rules of a URL; Flask adds `HEAD` to `GET`. -/
def Endpoint.methods : Endpoint → List Method
  | .login => [.get, .head, .post]
  | .alerts => [.get, .head, .post]
  | .classify _ => [.post]
  | .notes _ => [.post]
  | .approve _ => [.post]
  | .unknown => []
  | _ => [.get, .head]

/-- `csrf.protect` runs for methods that change something, on every view but
`api_ingest_alert`, which is exempt. -/
def Request.csrfProtected (req : Request) : Bool :=
  req.method = .post && req.endpoint ≠ .alerts

section Views

variable (env : Env) (reads : Reads) (a : Ambient) (req : Request)

/-- The checks of the request, then a connection block that runs `SELECT`s. -/
def selects : Exec World Exc Response := do
  let query ← lift (reads req)
  let answer ← withConn a .main <| attempt (a.fails .select) .databaseError <| gets query
  lift answer

/-- `login`. -/
def login : Exec World Exc Response :=
  if req.method = .post then do
    let username := pyStrip ((req.form.lookup "username").getD "")
    let password := (req.form.lookup "password").getD ""
    let bound ← lift (adaptStr username)
    let row ← withConn a .main <| attempt (a.fails .select) .databaseError <|
      gets fun db => db.users.find? fun u => u.username = bound
    match row with
    | none => pure ⟨401, .page, none⟩
    | some u => do
      if ← lift (env.checkpw password u.passwordHash) then
        let next := (req.args.lookup "next").getD ""
        pure ⟨302, .location (if next = "" then "/" else next), some u.id⟩
      else pure ⟨401, .page, none⟩
  else pure ⟨200, .page, none⟩

/-- `logout`. -/
def logout : Exec World Exc Response :=
  loginRequired a req.session fun _ => pure ⟨302, .location "/login", none⟩

/-- `dashboard`. -/
def dashboard : Exec World Exc Response := loginRequired a req.session fun _ => pure ⟨200, .page, none⟩

/-- `analyst`. -/
def analyst : Exec World Exc Response := loginRequired a req.session fun _ => pure ⟨200, .page, none⟩

/-- `api_open_alerts`. -/
def apiOpenAlerts : Exec World Exc Response := loginRequired a req.session fun _ => selects reads a req

/-- `api_all_alerts`. -/
def apiAllAlerts : Exec World Exc Response := loginRequired a req.session fun _ => selects reads a req

/-- `api_similar_alerts`. -/
def apiSimilarAlerts : Exec World Exc Response :=
  loginRequired a req.session fun _ => do
    if (← gets World.embeddingModel) = .failed then
      pure ⟨503, .error "embeddings_unavailable", none⟩
    else catching (selects reads a req) fun _ => pure ⟨503, .error "similarity_query_failed", none⟩

/-- `api_stats`. -/
def apiStats : Exec World Exc Response := loginRequired a req.session fun _ => selects reads a req

/-- `api_alert_audit`. -/
def apiAlertAudit : Exec World Exc Response := loginRequired a req.session fun _ => selects reads a req

/-- `audit_log_page`. -/
def auditLogPage : Exec World Exc Response :=
  loginRequired a req.session fun user => requireRole [.admin] user (selects reads a req)

/-- `api_navigator_layer`. -/
def apiNavigatorLayer : Exec World Exc Response := loginRequired a req.session fun _ => selects reads a req

/-- `api_stream`: without Redis the stream registers a queue. -/
def apiStream : Exec World Exc Response :=
  loginRequired a req.session fun _ => do
    (if env.redis then pure () else sseSubscribe)
    pure ⟨200, .page, none⟩

/-- `_CONDUCTOR_APPROVAL_TASK_REF`. -/
def conductorApprovalTaskRef : String := "approval_wait_ref"

/-- `api_approve_workflow`, behind its decorator. -/
def approveView (user : User) (workflowRunId : String) : Exec World Exc Response :=
  if !env.conductorSdk then pure ⟨503, .error "conductor SDK not installed", none⟩
  else if env.conductorServerUrl.getD "" = "" then
    pure ⟨503, .error "CONDUCTOR_SERVER_URL not configured", none⟩
  else do
    let note ← lift (readNote env req.json)
    catching
      (do
        attempt (a.fails .conductorClient) .conductorError (pure ())
        -- the call is made, whatever comes back
        modify fun w => { w with
          taskUpdates := w.taskUpdates ++
            [⟨workflowRunId, conductorApprovalTaskRef, "COMPLETED", user.username, note⟩] }
        attempt (a.fails .conductorUpdate) .conductorError (pure ())
        pure ⟨200, .released workflowRunId user.username, none⟩)
      fun _ => pure ⟨502, .error ("conductor error: " ++ a.conductorExc), none⟩

/-- `api_approve_workflow`. -/
def apiApproveWorkflow (workflowRunId : String) : Exec World Exc Response :=
  loginRequired a req.session fun user => approveView env a req user workflowRunId

/-- The view of a URL and a method it allows. -/
def view : Exec World Exc Response :=
  match req.endpoint with
  | .login => login env a req
  | .logout => logout a req
  | .dashboard => dashboard a req
  | .analyst => analyst a req
  | .alerts =>
    if req.method = .post then apiIngestAlert env a req.apiKey req.json else apiOpenAlerts reads a req
  | .allAlerts => apiAllAlerts reads a req
  | .similar _ => apiSimilarAlerts reads a req
  | .classify alertId => apiClassify env a req.session alertId req.json
  | .stats => apiStats reads a req
  | .audit _ => apiAlertAudit reads a req
  | .auditPage => auditLogPage reads a req
  | .notes alertId => apiAddNote env a req.session alertId req.json
  | .approve workflowRunId => apiApproveWorkflow env a req workflowRunId
  | .navigatorLayer => apiNavigatorLayer reads a req
  | .stream => apiStream env a req
  | .static _ => do
    let query ← lift (reads req)
    lift (query (← gets World.db))
  | .unknown => raise (.abort 404 "not found")

/-- A request: routing, the CSRF check, the view. -/
def serve : Exec World Exc Response :=
  if req.endpoint = .unknown then raise (.abort 404 "not found")
  else if req.method = .options then pure ⟨200, .page, none⟩
  else if req.method ∉ req.endpoint.methods then raise (.abort 405 "method not allowed")
  else
    match req.csrfProtected, req.csrfError with
    | true, some reason => raise (.abort 400 reason)
    | _, _ => view env reads a req

/-! ### Which requests reach a view -/

/-- A request is refused before its view or is its view's. -/
theorem serve_cases (w : World) :
    (serve env reads a req w).2 = w ∨
      (req.method ∈ req.endpoint.methods ∧ serve env reads a req w = view env reads a req w) := by
  unfold serve
  by_cases hu : req.endpoint = .unknown
  · exact .inl (by simp [hu])
  by_cases ho : req.method = .options
  · exact .inl (by simp [hu, ho])
  by_cases hm : req.method ∈ req.endpoint.methods
  · rw [if_neg hu, if_neg ho, if_neg (not_not.mpr hm)]
    cases req.csrfProtected <;> cases req.csrfError
    · exact .inr ⟨hm, rfl⟩
    · exact .inr ⟨hm, rfl⟩
    · exact .inr ⟨hm, rfl⟩
    · exact .inl rfl
  · exact .inl (by simp [hu, ho, hm])

variable {env reads a req}

/-- A request that changes something reaches its view with a valid CSRF token only. -/
theorem serve_of_protected (hpost : req.method = .post) (hm : .post ∈ req.endpoint.methods)
    (he : req.endpoint ≠ .alerts) (w : World) :
    serve env reads a req w =
      match req.csrfError with
      | some reason => (.error (.abort 400 reason), w)
      | none => view env reads a req w := by
  have hu : req.endpoint ≠ .unknown := by
    intro h
    rw [h] at hm
    simp [Endpoint.methods] at hm
  have hp : req.csrfProtected = true := by simp [Request.csrfProtected, hpost, he]
  unfold serve
  rw [if_neg hu, if_neg (by rw [hpost]; decide), if_neg (by rw [hpost]; exact not_not.mpr hm), hp]
  cases req.csrfError <;> rfl

/-- The ingest view has no CSRF check before it. -/
theorem serve_ingest (hpost : req.method = .post) (he : req.endpoint = .alerts) :
    serve env reads a req = apiIngestAlert env a req.apiKey req.json := by
  have hp : req.csrfProtected = false := by simp [Request.csrfProtected, he]
  unfold serve view
  rw [he, hpost, hp]
  rfl

end Views

end SocDashboard
