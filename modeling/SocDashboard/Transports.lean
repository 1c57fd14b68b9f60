/-
# The two transports of the Go service

The REST handler decodes a JSON object and the gRPC method receives a message;
each copies eight fields into an `AlertRequest` and calls `Service.Ingest`.
What comes back as an error is sorted by its text. Every error of `validate`
reads like one, and the others are wrapped under `encrypt` or `insert`, so
whatever an encryption or a database says, both transports sort alike.

Key definitions: `IngestAlertRequest`, `restHandler`, `grpcServer`,
`goIngestLogged`, `Alike`.
Key theorems: `isValidationError_validate`, `goIngestLogged_eq`,
`goIngest_rejected`, `goIngest_failed`, `goIngest_succeeded`,
`transports_alike`.
-/
import SocDashboard.ApiKeys

namespace SocDashboard

open Exec

/-! ### The message -/

/-- `ingestpb.IngestAlertRequest`. -/
structure IngestAlertRequest where
  title : String
  category : String
  severity : String
  source : String
  sourceIp : String
  description : String
  workflowRunId : String
  runMetadata : String
  deriving DecidableEq, Repr

/-- The `AlertRequest` that `IngestAlert` makes of the message. -/
def IngestAlertRequest.alertRequest (req : IngestAlertRequest) : AlertRequest where
  title := req.title
  category := req.category
  severity := req.severity
  source := req.source
  sourceIp := req.sourceIp
  description := req.description
  workflowRunId := req.workflowRunId
  runMetadata := req.runMetadata

/-! ### The transports -/

/-- `POST /api/alerts`; `json` is the value the body starts with, if it is JSON. -/
def restHandler (svc : Service) (a : GoAmbient) (xApiKey : Option String) (json : Option Json) (w : World) :
    RestAnswer × World :=
  makeIngestHandler svc a ⟨true, xApiKey, (json.bind decodeRestBody).map RestBody.alertRequest⟩ w

/-- The server of `NewGRPCServer`: the interceptor before `IngestAlert`. -/
def grpcServer (svc : Service) (a : GoAmbient) (md : Option Metadata) (req : IngestAlertRequest) :
    Exec World GrpcStatus AlertResponse :=
  apiKeyInterceptor svc.apiKey md req fun req => grpcIngestAlert svc a req.alertRequest

/-- A detector's request as a JSON body. -/
def AlertRequest.toJson (req : AlertRequest) : Json :=
  .obj [("title", .str req.title), ("category", .str req.category), ("severity", .str req.severity),
    ("source", .str req.source), ("source_ip", .str req.sourceIp), ("description", .str req.description),
    ("workflow_run_id", .str req.workflowRunId), ("run_metadata", .str req.runMetadata)]

/-- ... and as a message. -/
def AlertRequest.toMessage (req : AlertRequest) : IngestAlertRequest :=
  ⟨req.title, req.category, req.severity, req.source, req.sourceIp, req.description, req.workflowRunId,
    req.runMetadata⟩

theorem decodeRestBody_toJson (req : AlertRequest) :
    (decodeRestBody req.toJson).map RestBody.alertRequest = some req := rfl

theorem alertRequest_toMessage (req : AlertRequest) : req.toMessage.alertRequest = req := rfl

/-! ### The statements that are issued -/

/-- The parameters of an `INSERT`. -/
structure InsertParams where
  title : String
  category : String
  severity : String
  source : Option String
  sourceIp : Option String
  description : Option String
  workflowRunId : Option String
  runMetadata : Option String
  deriving DecidableEq, Repr

/-- `Service.Ingest` with a log of the `INSERT`s it issues. -/
def goIngestLogged (svc : Service) (a : GoAmbient) (req : AlertRequest) :
    Exec (World × List InsertParams) String AlertResponse := do
  match validate svc.quote req with
  | some err => raise err
  | none => do
    let (title, sourceIp, description) ← lift (goAlertValues svc a req)
    let severity := goToUpper (goTrimSpace req.severity)
    modify fun s => (s.1, s.2 ++ [⟨title, req.category, severity, nullableStr req.source,
      nullableStr sourceIp, nullableStr description, nullableStr req.workflowRunId,
      nullableStr req.runMetadata⟩])
    let created ← zoom Prod.fst (fun w s => (w, s.2)) <|
      goInsert a severity fun s => goRow req s title sourceIp description
    zoom Prod.fst (fun w s => (w, s.2)) (publishSse svc a (alertResponse created))
    pure (alertResponse created)

/-- **Without its log it is `Service.Ingest`.** -/
theorem goIngestLogged_eq (svc : Service) (a : GoAmbient) (req : AlertRequest) (w : World)
    (log : List InsertParams) :
    ((goIngestLogged svc a req (w, log)).1, (goIngestLogged svc a req (w, log)).2.1) = goIngest svc a req w := by
  unfold goIngestLogged goIngest
  cases hv : validate svc.quote req with
  | some err => rfl
  | none =>
    cases hg : goAlertValues svc a req with
    | error e => rfl
    | ok vals =>
      obtain ⟨title, sourceIp, description⟩ := vals
      simp only [bind_apply, lift_apply, modify_apply, zoom_apply]
      rcases goInsert a (goToUpper (goTrimSpace req.severity))
        (fun s => goRow req s title sourceIp description) w with ⟨e | created, w'⟩
      · rfl
      · simp only
        rcases publishSse svc a (alertResponse created) w' with ⟨e | u, w''⟩
        · rfl
        · rfl

/-- The `INSERT`s of a call. -/
def issued (svc : Service) (a : GoAmbient) (req : AlertRequest) (w : World) : List InsertParams :=
  (goIngestLogged svc a req (w, [])).2.2

/-! ### The texts of the errors -/

theorem isValidationError_of_head {msg : String} {c : Char} {cs : List Char} (h : msg.toList = c :: cs)
    (ht : c ≠ 't') (hs : c ≠ 's') : isValidationError msg = false := by
  have hmessage : msg ≠ "title and category are required" := by
    intro he
    rw [he] at h
    exact ht (List.cons.inj h).1.symm
  have hprefix : ¬"severity".toList <+: msg.toList := by
    have hseverity : "severity".toList = 's' :: "everity".toList := by decide
    rw [h, hseverity, List.cons_prefix_cons]
    exact fun hp => hs hp.1.symm
  rw [← List.isPrefixOf_iff_prefix, Bool.not_eq_true] at hprefix
  rw [isValidationError, hprefix, decide_eq_false hmessage, Bool.and_false, Bool.or_false]

/-- **What `validate` says reads like a validation error.** -/
theorem isValidationError_validate {quote : String → String} {req : AlertRequest} {err : String}
    (h : validate quote req = some err) : isValidationError err = true := by
  unfold validate at h
  simp only at h
  split_ifs at h with hempty hseverity
  · obtain rfl := Option.some.inj h
    decide
  · obtain rfl := Option.some.inj h
    have hprefix : "severity".toList <+: "severity must be CRITICAL, HIGH, MEDIUM or LOW; got ".toList := by decide
    have hlong : 8 < "severity must be CRITICAL, HIGH, MEDIUM or LOW; got ".utf8ByteSize := by decide
    unfold isValidationError
    rw [Bool.or_eq_true, Bool.and_eq_true, List.isPrefixOf_iff_prefix, String.toList_append]
    refine .inr ⟨decide_eq_true ?_, hprefix.trans (List.prefix_append _ _)⟩
    rw [String.utf8ByteSize_append]
    omega

/-- An error of an encryption is wrapped. -/
theorem goAlertValues_error {svc : Service} {a : GoAmbient} {req : AlertRequest} {err : String}
    (h : goAlertValues svc a req = .error err) : ∃ cs, err.toList = 'e' :: cs := by
  have hwrap : ∀ {what : String} {x : Except String String}, (∃ cs, what.toList = 'e' :: cs) →
      wrapErr what x = .error err → ∃ cs, err.toList = 'e' :: cs := by
    rintro what x ⟨cs, hcs⟩ hx
    cases x with
    | ok y => cases hx
    | error e =>
      obtain rfl : what ++ ": " ++ e = err := Except.error.inj hx
      rw [String.toList_append, String.toList_append, hcs]
      exact ⟨_, rfl⟩
  unfold goAlertValues at h
  rcases except_bind_eq_error.mp h with h | ⟨title, -, h⟩
  · exact hwrap ⟨_, rfl⟩ h
  · rcases except_bind_eq_error.mp h with h | ⟨sourceIp, -, h⟩
    · exact hwrap ⟨_, rfl⟩ h
    · rcases except_bind_eq_error.mp h with h | ⟨description, -, h⟩
      · exact hwrap ⟨_, rfl⟩ h
      · cases h

/-- ... and so is one of the insert, which changes nothing. -/
theorem goInsert_error {a : GoAmbient} {severity : String} {row : Severity → AlertValues} {err : String}
    {w w' : World} (h : goInsert a severity row w = (.error err, w')) :
    (∃ cs, err.toList = 'i' :: cs) ∧ w' = w := by
  have hraise : ∀ text : String, (∃ cs, text.toList = 'i' :: cs) →
      (raise text : Exec World String Alert) w = (.error err, w') →
      (∃ cs, err.toList = 'i' :: cs) ∧ w' = w := by
    intro text htext hr
    obtain ⟨he, hw⟩ := Prod.mk.inj hr
    obtain rfl := Except.error.inj he
    exact ⟨htext, hw.symm⟩
  unfold goInsert at h
  cases he : a.insertErr with
  | some e =>
    rw [he] at h
    refine hraise ("insert alert: " ++ e) ⟨"nsert alert: ".toList ++ e.toList, ?_⟩ h
    rw [String.toList_append]
    rfl
  | none =>
    rw [he] at h
    cases hs : Severity.ofName severity with
    | none =>
      rw [hs] at h
      exact hraise _ ⟨_, rfl⟩ h
    | some s =>
      simp only [hs] at h
      split_ifs at h with hst
      · cases h
      · exact hraise _ ⟨_, rfl⟩ h

/-! ### How a call ends -/

section Ends

variable {svc : Service} {a : GoAmbient} {req : AlertRequest} {w : World}

/-- An encryption or the insert fails. -/
def IngestFails (svc : Service) (a : GoAmbient) (req : AlertRequest) (w : World) : Prop :=
  (∃ err, goAlertValues svc a req = .error err) ∨
    ∃ title sourceIp description err w', goAlertValues svc a req = .ok (title, sourceIp, description) ∧
      goInsert a (goToUpper (goTrimSpace req.severity)) (fun s => goRow req s title sourceIp description) w =
        (.error err, w')

theorem goIngest_rejected (h : (validate svc.quote req).isSome = true) :
    (∃ err, goIngest svc a req w = (.error err, w) ∧ isValidationError err = true) ∧
      issued svc a req w = [] := by
  obtain ⟨err, herr⟩ := Option.isSome_iff_exists.mp h
  constructor
  · exact ⟨err, by rw [goIngest, herr]; rfl, isValidationError_validate herr⟩
  · rw [issued, goIngestLogged, herr]
    rfl

theorem goIngest_failed (h : (validate svc.quote req).isSome = false) (hf : IngestFails svc a req w) :
    ∃ err, goIngest svc a req w = (.error err, w) ∧ isValidationError err = false := by
  rw [Option.isSome_eq_false_iff, Option.isNone_iff_eq_none] at h
  rcases hf with ⟨err, herr⟩ | ⟨title, sourceIp, description, err, w', hvals, hinsert⟩
  · obtain ⟨cs, hcs⟩ := goAlertValues_error herr
    refine ⟨err, ?_, isValidationError_of_head hcs (by decide) (by decide)⟩
    simp only [goIngest, h, bind_apply, lift_apply, herr]
  · obtain ⟨⟨cs, hcs⟩, rfl⟩ := goInsert_error hinsert
    refine ⟨err, ?_, isValidationError_of_head hcs (by decide) (by decide)⟩
    simp only [goIngest, h, bind_apply, lift_apply, hvals, hinsert]

theorem goIngest_succeeded (h : (validate svc.quote req).isSome = false) (hf : ¬IngestFails svc a req w) :
    ∃ resp w', goIngest svc a req w = (.ok resp, w') := by
  rw [Option.isSome_eq_false_iff, Option.isNone_iff_eq_none] at h
  cases hvals : goAlertValues svc a req with
  | error err => exact absurd (.inl ⟨err, hvals⟩) hf
  | ok vals =>
    obtain ⟨title, sourceIp, description⟩ := vals
    rcases hinsert : goInsert a (goToUpper (goTrimSpace req.severity))
      (fun s => goRow req s title sourceIp description) w with ⟨err | created, w'⟩
    · exact absurd (.inr ⟨title, sourceIp, description, err, w', hvals, hinsert⟩) hf
    · obtain ⟨w'', hp, -⟩ := publishSse_ok svc a (alertResponse created) w'
      exact ⟨alertResponse created, w'', by
        simp only [goIngest, h, bind_apply, lift_apply, hvals, hinsert, hp, pure_apply]⟩

end Ends

/-! ### Side by side -/

/-- The code of a gRPC error. -/
def codeOf (x : Except GrpcStatus AlertResponse) : Option Code :=
  match x with
  | .ok _ => none
  | .error st => some st.code

/-- The two transports classify a request alike and store alike. -/
structure Alike (svc : Service) (a : GoAmbient) (req : AlertRequest) (w : World)
    (rest : RestAnswer × World) (grpc : Except GrpcStatus AlertResponse × World) : Prop where
  /-- Both hand `Service.Ingest` the eight values. -/
  handed : (decodeRestBody req.toJson).map RestBody.alertRequest = some req ∧ req.toMessage.alertRequest = req
  restRejects : rest.1.status = 400 ↔ (validate svc.quote req).isSome = true
  grpcRejects : codeOf grpc.1 = some .invalidArgument ↔ (validate svc.quote req).isSome = true
  silent : (validate svc.quote req).isSome = true → issued svc a req w = []
  restFails : rest.1.status = 500 ↔ (validate svc.quote req).isSome = false ∧ IngestFails svc a req w
  grpcFails : codeOf grpc.1 = some .internal ↔
    (validate svc.quote req).isSome = false ∧ IngestFails svc a req w
  succeeds : (validate svc.quote req).isSome = false → ¬IngestFails svc a req w →
    ∃ resp, rest.1 = ⟨201, .created resp⟩ ∧ grpc.1 = .ok resp
  stored : rest.2 = grpc.2

theorem alike_ingest (svc : Service) (a : GoAmbient) (req : AlertRequest) (w : World) :
    Alike svc a req w (restIngest svc a (some req) w) (grpcIngestAlert svc a req w) := by
  cases hv : (validate svc.quote req).isSome with
  | true =>
    obtain ⟨⟨err, herr, htext⟩, hissued⟩ := goIngest_rejected (a := a) (w := w) hv
    have hrest : restIngest svc a (some req) w = (⟨400, .error err⟩, w) := by simp [restIngest, herr, htext]
    have hgrpc : grpcIngestAlert svc a req w = (.error ⟨.invalidArgument, err⟩, w) := by
      simp [grpcIngestAlert, herr, htext]
    rw [hrest, hgrpc]
    constructor <;> simp [decodeRestBody_toJson, alertRequest_toMessage, hv, codeOf, hissued]
  | false =>
    by_cases hf : IngestFails svc a req w
    · obtain ⟨err, herr, htext⟩ := goIngest_failed hv hf
      have hrest : restIngest svc a (some req) w = (⟨500, .error err⟩, w) := by simp [restIngest, herr, htext]
      have hgrpc : grpcIngestAlert svc a req w = (.error ⟨.internal, "ingest failed: " ++ err⟩, w) := by
        simp [grpcIngestAlert, herr, htext]
      rw [hrest, hgrpc]
      constructor <;> simp [decodeRestBody_toJson, alertRequest_toMessage, hv, codeOf, hf]
    · obtain ⟨resp, w', hok⟩ := goIngest_succeeded hv hf
      have hrest : restIngest svc a (some req) w = (⟨201, .created resp⟩, w') := by simp [restIngest, hok]
      have hgrpc : grpcIngestAlert svc a req w = (.ok resp, w') := by simp [grpcIngestAlert, hok]
      rw [hrest, hgrpc]
      constructor <;> simp [decodeRestBody_toJson, alertRequest_toMessage, hv, codeOf, hf]

/-- **The transports classify and store alike**, for every request with a key that both take and
every text that an encryption or the database may fail with. -/
theorem transports_alike (svc : Service) (a : GoAmbient) (req : AlertRequest) (w : World)
    {key presented : String} {md : Metadata} {more : List String} (hkey : keyFits svc.apiKey key = true)
    (hmd : md.get "x-api-key" = presented :: more)
    (hpresented : keyFits svc.apiKey (goTrimSpace presented) = true) :
    Alike svc a req w (restHandler svc a (some key) (some req.toJson) w)
      (grpcServer svc a (some md) req.toMessage w) := by
  have hrest : restHandler svc a (some key) (some req.toJson) w = restIngest svc a (some req) w := by
    rw [restHandler, Option.bind_some, decodeRestBody_toJson, makeIngestHandler, validateAPIKey_eq,
      Option.getD_some, hkey]
    rfl
  obtain ⟨message, hgrpc⟩ := apiKeyInterceptor_eq hmd svc.apiKey req.toMessage
    (fun req => grpcIngestAlert svc a req.alertRequest) w
  rw [hpresented, if_pos rfl, alertRequest_toMessage] at hgrpc
  rw [hrest, grpcServer, hgrpc]
  exact alike_ingest svc a req w

/-- A database that fails with a text that reads like a validation error. -/
def severityDown : GoAmbient := { goCalm with insertErr := some "severity must be CRITICAL" }

theorem transports_alike_severityDown :
    Alike exampleService severityDown ⟨"Port scan", "port_scan", "high", "", "", "", "", ""⟩ emptyWorld
      (restHandler exampleService severityDown (some "test-key")
        (some (AlertRequest.toJson ⟨"Port scan", "port_scan", "high", "", "", "", "", ""⟩)) emptyWorld)
      (grpcServer exampleService severityDown (some [("x-api-key", ["test-key "])])
        (AlertRequest.toMessage ⟨"Port scan", "port_scan", "high", "", "", "", "", ""⟩) emptyWorld) :=
  transports_alike exampleService severityDown ⟨"Port scan", "port_scan", "high", "", "", "", "", ""⟩ emptyWorld
    (by decide) rfl (by decide)

end SocDashboard
