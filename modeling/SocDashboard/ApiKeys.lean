/-
# The three API key checks

`POST /api/alerts` of Flask, `POST /api/alerts` of the Go service and its
gRPC interceptor each compare what a client presents with the configured
`ALERTS_API_KEY`. Flask and the Go handler compare the value as it stands; the
interceptor compares it without the whitespace around it. Flask's
`hmac.compare_digest` takes ASCII text only.

Key definitions: `Service.validateAPIKey`, `makeIngestHandler`,
`apiKeyInterceptor`, `keyFits`.
Key theorems: `constantTimeCompare_eq_one`, `apiKey_verdicts`.
-/
import SocDashboard.GoIngest
import SocDashboard.Routes

namespace SocDashboard

open Exec

/-- `subtle.ConstantTimeCompare`. -/
def constantTimeCompare (x y : ByteArray) : ℕ := if x.data = y.data then 1 else 0

/-- `Service.ValidateAPIKey`. -/
def Service.validateAPIKey (svc : Service) (key : String) : Bool :=
  if svc.apiKey = "" then false
  else constantTimeCompare key.toByteArray svc.apiKey.toByteArray = 1

/-! ### The REST handler -/

/-- A request to `/api/alerts` of the Go service; `body` is what `Decode` makes
of it. -/
structure RestRequest where
  isPost : Bool
  xApiKey : Option String
  body : Option AlertRequest

inductive RestPayload
  | error (message : String)
  | created (resp : AlertResponse)
  deriving DecidableEq, Repr

structure RestAnswer where
  status : ℕ
  payload : RestPayload
  deriving DecidableEq, Repr

/-- `isValidationError`. -/
def isValidationError (msg : String) : Bool :=
  msg = "title and category are required" ||
    (8 < msg.utf8ByteSize && "severity".toList.isPrefixOf msg.toList)

/-- The handler of `makeIngestHandler` behind the key check. -/
def restIngest (svc : Service) (a : GoAmbient) (body : Option AlertRequest) (w : World) :
    RestAnswer × World :=
  match body with
  | none => (⟨400, .error "invalid JSON"⟩, w)
  | some req =>
    match goIngest svc a req w with
    | (.error err, w') => (⟨if isValidationError err then 400 else 500, .error err⟩, w')
    | (.ok resp, w') => (⟨201, .created resp⟩, w')

/-- `makeIngestHandler`; `Header.Get` is empty for a header that is not there. -/
def makeIngestHandler (svc : Service) (a : GoAmbient) (r : RestRequest) (w : World) : RestAnswer × World :=
  if !r.isPost then (⟨405, .error "method not allowed"⟩, w)
  else if !svc.validateAPIKey (r.xApiKey.getD "") then
    (⟨401, .error "missing or invalid X-API-Key"⟩, w)
  else restIngest svc a r.body w

/-! ### The gRPC interceptor -/

/-- The status codes the gRPC server answers with. -/
inductive Code
  | unauthenticated
  | invalidArgument
  | internal
  deriving DecidableEq, Repr

structure GrpcStatus where
  code : Code
  message : String
  deriving DecidableEq, Repr

/-- `metadata.MD`. -/
abbrev Metadata := List (String × List String)

/-- `md.Get`. -/
def Metadata.get (md : Metadata) (key : String) : List String := (md.lookup key).getD []

/-- `apiKeyInterceptor`; `none` is a context without metadata. -/
def apiKeyInterceptor {ρ α : Type} (apiKey : String) (md : Option Metadata) (req : ρ)
    (handler : ρ → Exec World GrpcStatus α) : Exec World GrpcStatus α :=
  if apiKey = "" then raise ⟨.unauthenticated, "server has no API key configured"⟩
  else
    match md with
    | none => raise ⟨.unauthenticated, "missing metadata"⟩
    | some md =>
      match md.get "x-api-key" with
      | [] => raise ⟨.unauthenticated, "missing or invalid x-api-key"⟩
      | val :: _ =>
        if constantTimeCompare (goTrimSpace val).toByteArray apiKey.toByteArray ≠ 1 then
          raise ⟨.unauthenticated, "missing or invalid x-api-key"⟩
        else handler req

/-- `GRPCServer.IngestAlert`. -/
def grpcIngestAlert (svc : Service) (a : GoAmbient) (req : AlertRequest) :
    Exec World GrpcStatus AlertResponse := fun w =>
  match goIngest svc a req w with
  | (.error err, w') =>
    if isValidationError err then (.error ⟨.invalidArgument, err⟩, w')
    else (.error ⟨.internal, "ingest failed: " ++ err⟩, w')
  | (.ok resp, w') => (.ok resp, w')

/-! ### The verdicts -/

/-- There is a key, and this is it. -/
def keyFits (configured presented : String) : Bool := configured ≠ "" && presented = configured

/-- Only ASCII characters. -/
def isAscii (s : String) : Bool := s.toList.all (·.val < 128)

/-- Comparing the bytes compares the texts. -/
theorem constantTimeCompare_eq_one {s t : String} :
    constantTimeCompare s.toByteArray t.toByteArray = 1 ↔ s = t := by
  unfold constantTimeCompare
  split_ifs with h
  · simp [String.toByteArray_inj.mp (ByteArray.ext h)]
  · have hne : s ≠ t := fun he => h (he ▸ rfl)
    simp [hne]

theorem validateAPIKey_eq (svc : Service) (key : String) :
    svc.validateAPIKey key = keyFits svc.apiKey key := by
  unfold Service.validateAPIKey keyFits
  by_cases h : svc.apiKey = ""
  · simp [h]
  · simp [h, constantTimeCompare_eq_one]

/-- Flask's check, where `compare_digest` takes both texts or is not reached. -/
theorem validApiKey_eq {env : Env} {configured presented : String}
    (henv : env.alertsApiKey = some configured)
    (h : configured = "" ∨ (isAscii presented = true ∧ isAscii configured = true)) :
    validApiKey env (some presented) = .ok (keyFits configured presented) := by
  unfold validApiKey keyFits
  rw [henv]
  by_cases hc : configured = ""
  · simp [hc]
  · obtain ⟨hp, hq⟩ := h.resolve_left hc
    unfold isAscii at hp hq
    simp [hc, hp, hq]

/-- `POST /api/alerts` of Flask behind the key check. -/
def flaskIngest (env : Env) (a : Ambient) (json : Option Json) : Exec World Exc Response := do
  let (title, category, severity) ← lift (readIngest env json)
  let row ← insertAlert env a (orEmptyDict json) title category severity
  pure ⟨201, .alert row, none⟩

theorem apiIngestAlert_eq {env : Env} {apiKey : Option String} {b : Bool}
    (h : validApiKey env apiKey = .ok b) (a : Ambient) (json : Option Json) (w : World) :
    apiIngestAlert env a apiKey json w =
      if b then flaskIngest env a json w
      else (.ok ⟨401, .error "missing or invalid X-API-Key", none⟩, w) := by
  unfold apiIngestAlert
  rw [h, bind_apply]
  cases b
  · rfl
  · rfl

/-- The interceptor's check of a presented value. -/
theorem apiKeyInterceptor_eq {ρ α : Type} {md : Metadata} {presented : String} {more : List String}
    (hmd : md.get "x-api-key" = presented :: more) (apiKey : String) (req : ρ)
    (handler : ρ → Exec World GrpcStatus α) (w : World) :
    ∃ message, apiKeyInterceptor apiKey (some md) req handler w =
      if keyFits apiKey (goTrimSpace presented) then handler req w
      else (.error ⟨.unauthenticated, message⟩, w) := by
  unfold apiKeyInterceptor keyFits
  by_cases hk : apiKey = ""
  · exact ⟨"server has no API key configured", by simp [hk]⟩
  · refine ⟨"missing or invalid x-api-key", ?_⟩
    by_cases hv : goTrimSpace presented = apiKey
    · simp [hk, hmd, hv, constantTimeCompare]
    · simp [hk, hmd, hv, constantTimeCompare_eq_one]

/-- **The verdicts on an API key.** Flask (on ASCII texts) and the Go handler
let a request through exactly when a key is configured and the presented value
is it, the interceptor exactly when the presented value is it without the
whitespace around; any other value is answered 401 or `Unauthenticated`, and
nothing has changed. -/
theorem apiKey_verdicts (env : Env) (svc : Service) (configured presented : String)
    (henv : env.alertsApiKey = some configured) (hsvc : svc.apiKey = configured) :
    (configured = "" ∨ (isAscii presented = true ∧ isAscii configured = true) →
      ∀ (reads : Reads) (a : Ambient) (req : Request) (w : World), req.method = .post →
        req.endpoint = .alerts → req.apiKey = some presented →
        respond (serve env reads a req) w =
          if keyFits configured presented then respond (flaskIngest env a req.json) w
          else (⟨401, .error "missing or invalid X-API-Key", none⟩, w)) ∧
    (∀ (a : GoAmbient) (body : Option AlertRequest) (w : World),
      makeIngestHandler svc a ⟨true, some presented, body⟩ w =
        if keyFits configured presented then restIngest svc a body w
        else (⟨401, .error "missing or invalid X-API-Key"⟩, w)) ∧
    (∀ (md : Metadata) (more : List String) (a : GoAmbient) (req : AlertRequest) (w : World),
      md.get "x-api-key" = presented :: more →
      ∃ message, apiKeyInterceptor configured (some md) req (grpcIngestAlert svc a) w =
        if keyFits configured (goTrimSpace presented) then grpcIngestAlert svc a req w
        else (.error ⟨.unauthenticated, message⟩, w)) := by
  refine ⟨?_, ?_, ?_⟩
  · intro hascii reads a req w hpost he hkey
    have hv : validApiKey env req.apiKey = .ok (keyFits configured presented) := by
      rw [hkey]
      exact validApiKey_eq henv hascii
    unfold respond
    rw [serve_ingest hpost he, apiIngestAlert_eq hv]
    cases keyFits configured presented
    · rfl
    · rfl
  · intro a body w
    unfold makeIngestHandler
    rw [validateAPIKey_eq, hsvc, Option.getD_some]
    cases keyFits configured presented
    · rfl
    · rfl
  · intro md more a req w hmd
    exact apiKeyInterceptor_eq hmd configured req (grpcIngestAlert svc a) w

section Example

/-- A `POST /api/alerts` that presents `apiKey` and no body. -/
def bareIngest (apiKey : String) : Request :=
  ⟨.post, .alerts, none, some apiKey, none, none, [], []⟩

/-- The configured key, presented as it is, and another one. -/
theorem apiKey_verdicts_testKey :
    (respond (serve exampleEnv pages calm (bareIngest "test-key")) emptyWorld).1 =
        ⟨400, .error "title and category are required", none⟩ ∧
      (respond (serve exampleEnv pages calm (bareIngest "wrong")) emptyWorld).1 =
        ⟨401, .error "missing or invalid X-API-Key", none⟩ ∧
      makeIngestHandler exampleService goCalm ⟨true, some "wrong", none⟩ emptyWorld =
        (⟨401, .error "missing or invalid X-API-Key"⟩, emptyWorld) := by
  obtain ⟨hflask, -, -⟩ := apiKey_verdicts exampleEnv exampleService "test-key" "test-key" rfl rfl
  obtain ⟨hflask', hrest, -⟩ := apiKey_verdicts exampleEnv exampleService "test-key" "wrong" rfl rfl
  refine ⟨?_, ?_, ?_⟩
  · rw [hflask (Or.inr (by decide)) pages calm (bareIngest "test-key") emptyWorld rfl rfl rfl]
    rfl
  · rw [hflask' (Or.inr (by decide)) pages calm (bareIngest "wrong") emptyWorld rfl rfl rfl]
    rfl
  · rw [hrest goCalm none emptyWorld]
    rfl

/-- **A padded key has two verdicts.** With `test-key` configured, the Go
handler and Flask answer 401 to ` test-key `, and the interceptor lets it through. -/
theorem padded_key_two_verdicts :
    keyFits "test-key" " test-key " = false ∧
      (respond (serve exampleEnv pages calm (bareIngest " test-key ")) emptyWorld).1.status = 401 ∧
      (makeIngestHandler exampleService goCalm ⟨true, some " test-key ", none⟩ emptyWorld).1.status = 401 ∧
      apiKeyInterceptor "test-key" (some [("x-api-key", [" test-key "])]) ()
        (fun _ => pure "ok") emptyWorld = (.ok "ok", emptyWorld) := by
  have htrim : goTrimSpace " test-key " = "test-key" := by decide
  refine ⟨by decide, by decide, by decide, ?_⟩
  have hmd : Metadata.get [("x-api-key", [" test-key "])] "x-api-key" = [" test-key "] := rfl
  obtain ⟨message, h⟩ := apiKeyInterceptor_eq hmd "test-key" () (fun _ => pure "ok") emptyWorld
  rw [h, htrim]
  rfl

end Example

end SocDashboard
