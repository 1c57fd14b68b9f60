/-
# The Go ingest service

`Service.Ingest` of service.go: validate, encrypt, one `INSERT`, and a
best-effort broadcast to the Redis channel that the Flask streams read. An
error is its text, wrapped as the source wraps it. `validate` receives the
request by value, so what it trims stays inside it.

Key definitions: `AlertRequest`, `validate`, `goAlertValues`, `goIngest`,
`goInserts`.
Key theorems: `goIngest_of_inserts`, `goIngest_of_not_inserts`,
`goInserts_some`.
-/
import SocDashboard.World

namespace SocDashboard

open Exec

structure AlertRequest where
  title : String
  category : String
  severity : String
  source : String
  sourceIp : String
  description : String
  workflowRunId : String
  runMetadata : String
  deriving DecidableEq, Repr

structure AlertResponse where
  id : ℕ
  severity : Severity
  status : Status
  createdAt : Time
  deriving DecidableEq, Repr

/-- `Service`: the decoded key, the API key and whether Redis is connected. -/
structure Service where
  scheme : FernetScheme
  fk : FernetKeys
  apiKey : String
  rdb : Bool
  /-- `%q`. -/
  quote : String → String

/-- What one `Ingest` call meets: the clock, the nonces, and the errors of
encryption, of the insert and of the publish, if any. -/
structure GoAmbient where
  now : Time
  nonce : Column → Nonce
  encryptErr : Column → Option String
  insertErr : Option String
  publishErr : Option String

/-- Nothing fails. -/
def goCalm : GoAmbient := ⟨0, fun _ => ⟨0, []⟩, fun _ => none, none, none⟩

/-- The Go service beside `exampleEnv`. -/
def exampleService : Service := ⟨spelledScheme, none, "test-key", false, id⟩

/-- `validate`; `none` is nil. -/
def validate (quote : String → String) (req : AlertRequest) : Option String :=
  let title := goTrimSpace req.title
  let category := goTrimSpace req.category
  let severity := goToUpper (goTrimSpace req.severity)
  if title = "" ∨ category = "" then some "title and category are required"
  else if (Severity.ofName severity).isNone then
    some ("severity must be CRITICAL, HIGH, MEDIUM or LOW; got " ++ quote severity)
  else none

/-- `nullableStr`. -/
def nullableStr (s : String) : Option String := if s = "" then none else some s

/-- PostgreSQL stores no NUL in a `TEXT` column. -/
def storable (s : String) : Bool := '\x00' ∉ s.toList

def storableOpt (s : Option String) : Bool := s.all storable

def AlertValues.storable (v : AlertValues) : Bool :=
  SocDashboard.storable v.title && SocDashboard.storable v.category && storableOpt v.source &&
    storableOpt v.sourceIp && storableOpt v.description && storableOpt v.workflowRunId &&
    storableOpt v.runMetadata

/-- `fmt.Errorf(what + ": %w", err)`. -/
def wrapErr {α : Type} (what : String) (x : Except String α) : Except String α :=
  x.mapError fun err => what ++ ": " ++ err

/-- The parameters of the `INSERT` of `Service.Ingest`, for a request that
`validate` let through; the severity text is checked by the column. -/
def goAlertValues (svc : Service) (a : GoAmbient) (req : AlertRequest) :
    Except String (String × String × String) := do
  let title ← wrapErr "encrypt title"
    (svc.fk.encryptField svc.scheme (a.encryptErr .title) (a.nonce .title) req.title)
  let sourceIp ← wrapErr "encrypt source_ip"
    (svc.fk.encryptField svc.scheme (a.encryptErr .sourceIp) (a.nonce .sourceIp) req.sourceIp)
  let description ← wrapErr "encrypt description"
    (svc.fk.encryptField svc.scheme (a.encryptErr .description) (a.nonce .description) req.description)
  pure (title, sourceIp, description)

/-- The row that `Service.Ingest` inserts. -/
def goRow (req : AlertRequest) (severity : Severity) (title sourceIp description : String) :
    AlertValues where
  title := title
  category := req.category
  severity := severity
  source := nullableStr req.source
  sourceIp := nullableStr sourceIp
  description := nullableStr description
  workflowRunId := nullableStr req.workflowRunId
  runMetadata := nullableStr req.runMetadata

/-- The `INSERT` of `Service.Ingest`, a transaction of its own; `severity` is
the text bound to the checked column. -/
def goInsert (a : GoAmbient) (severity : String) (row : Severity → AlertValues) :
    Exec World String Alert :=
  match a.insertErr with
  | some e => raise ("insert alert: " ++ e)
  | none =>
    match Severity.ofName severity with
    | none => raise "insert alert: violates check constraint"
    | some s =>
      if (row s).storable then zoom World.db World.setDb (insertAlertRow a.now (row s))
      else raise "insert alert: invalid byte sequence for encoding \"UTF8\": 0x00"

/-- `publishSSE`. -/
def publishSse (svc : Service) (a : GoAmbient) (resp : AlertResponse) : Exec World String Unit :=
  if svc.rdb && a.publishErr.isNone then
    modify fun w =>
      { w with published := w.published ++ [⟨.newAlert, resp.id, resp.severity, resp.status⟩] }
  else pure ()

/-- What `RETURNING` fills in of the answer. -/
def alertResponse (created : Alert) : AlertResponse :=
  ⟨created.id, created.severity, created.status, created.createdAt⟩

/-- `Service.Ingest`. -/
def goIngest (svc : Service) (a : GoAmbient) (req : AlertRequest) : Exec World String AlertResponse := do
  match validate svc.quote req with
  | some err => raise err
  | none => do
    let (title, sourceIp, description) ← lift (goAlertValues svc a req)
    let created ← goInsert a (goToUpper (goTrimSpace req.severity)) fun s =>
      goRow req s title sourceIp description
    publishSse svc a (alertResponse created)
    pure (alertResponse created)

/-! ### The JSON body -/

/-- The struct that `makeIngestHandler` decodes the body into. -/
structure RestBody where
  title : String
  category : String
  severity : String
  source : String
  sourceIp : String
  description : String
  workflowRunId : String
  runMetadata : String
  deriving DecidableEq, Repr

def RestBody.zero : RestBody := ⟨"", "", "", "", "", "", "", ""⟩

/-- The tags of the struct. -/
def restTags : List String :=
  ["title", "category", "severity", "source", "source_ip", "description", "workflow_run_id", "run_metadata"]

/-- The field with a tag, assigned. -/
def RestBody.set (b : RestBody) (tag s : String) : RestBody :=
  match tag with
  | "title" => { b with title := s }
  | "category" => { b with category := s }
  | "severity" => { b with severity := s }
  | "source" => { b with source := s }
  | "source_ip" => { b with sourceIp := s }
  | "description" => { b with description := s }
  | "workflow_run_id" => { b with workflowRunId := s }
  | "run_metadata" => { b with runMetadata := s }
  | _ => b

/-- The folding under which `encoding/json` compares a key with an ASCII tag:
the long s and the Kelvin sign fold to letters. -/
def foldRune (c : Char) : Char :=
  if c = '\u017f' then 's' else if c = '\u212a' then 'k' else c.toLower

/-- The field for a key: by its tag, else by its folded tag. -/
def fieldFor (key : String) : Option String :=
  (restTags.find? fun tag => tag = key).or
    (restTags.find? fun tag => tag.toList.map foldRune = key.toList.map foldRune)

/-- A member of the object; only a string or null goes into a string field. -/
def decodeMember (b : RestBody) (m : String × Json) : Option RestBody :=
  match fieldFor m.1 with
  | none => some b
  | some tag =>
    match m.2 with
    | .null => some b
    | .str s => some (b.set tag s)
    | .lone before after => some (b.set tag (loneText before after))
    | _ => none

/-- `json.NewDecoder(r.Body).Decode(&body)`. -/
def decodeRestBody : Json → Option RestBody
  | .null => some .zero
  | .obj members => members.foldlM decodeMember .zero
  | _ => none

/-- The `AlertRequest` that the handler makes of the body. -/
def RestBody.alertRequest (body : RestBody) : AlertRequest where
  title := body.title
  category := body.category
  severity := body.severity
  source := body.source
  sourceIp := body.sourceIp
  description := body.description
  workflowRunId := body.workflowRunId
  runMetadata := body.runMetadata

/-! ### What an `Ingest` call does -/

/-- The row the `INSERT` commits, if it commits one. -/
def goStored (a : GoAmbient) (severity : String) (row : Severity → AlertValues) : Option AlertValues :=
  if a.insertErr.isSome then none
  else (Severity.ofName severity).bind fun s => if (row s).storable then some (row s) else none

/-- The row an `Ingest` call commits, if it commits one. -/
def goInserts (svc : Service) (a : GoAmbient) (req : AlertRequest) : Option AlertValues :=
  if (validate svc.quote req).isSome then none
  else (goAlertValues svc a req).toOption.bind fun (title, sourceIp, description) =>
    goStored a (goToUpper (goTrimSpace req.severity)) fun s => goRow req s title sourceIp description

theorem goStored_eq_some {a : GoAmbient} {severity : String} {row : Severity → AlertValues} {v : AlertValues}
    (h : goStored a severity row = some v) :
    a.insertErr = none ∧
      ∃ s, Severity.ofName severity = some s ∧ (row s).storable = true ∧ v = row s := by
  unfold goStored at h
  split_ifs at h with he
  obtain ⟨s, hs, h⟩ := Option.bind_eq_some_iff.mp h
  split_ifs at h with hst
  rw [Bool.not_eq_true, Option.isSome_eq_false_iff, Option.isNone_iff_eq_none] at he
  exact ⟨he, s, hs, hst, (Option.some.inj h).symm⟩

theorem goInsert_of_stored {a : GoAmbient} {severity : String} {row : Severity → AlertValues}
    {v : AlertValues} (h : goStored a severity row = some v) (w : World) :
    goInsert a severity row w = (.ok (w.db.newAlert a.now v), w.setDb (w.db.withAlert a.now v)) := by
  obtain ⟨he, s, hs, hst, rfl⟩ := goStored_eq_some h
  simp only [goInsert, he, hs, hst, if_true]
  rfl

theorem goInsert_of_not_stored {a : GoAmbient} {severity : String} {row : Severity → AlertValues}
    (h : goStored a severity row = none) (w : World) :
    ∃ err, goInsert a severity row w = (.error err, w) := by
  unfold goStored at h
  unfold goInsert
  cases he : a.insertErr with
  | some e => exact ⟨_, rfl⟩
  | none =>
    cases hs : Severity.ofName severity with
    | none => exact ⟨_, rfl⟩
    | some s =>
      by_cases hst : (row s).storable = true
      · simp [he, hs, hst] at h
      · exact ⟨_, by simp only [hst]; rfl⟩

theorem publishSse_ok (svc : Service) (a : GoAmbient) (resp : AlertResponse) (w : World) :
    ∃ w', publishSse svc a resp w = (.ok (), w') ∧ w'.db = w.db := by
  unfold publishSse
  split
  · exact ⟨_, rfl, rfl⟩
  · exact ⟨w, rfl, rfl⟩

/-- **An `Ingest` call that commits a row answers with it.** -/
theorem goIngest_of_inserts {svc : Service} {a : GoAmbient} {req : AlertRequest} {v : AlertValues}
    (h : goInserts svc a req = some v) (w : World) :
    ∃ w', goIngest svc a req w = (.ok (alertResponse (w.db.newAlert a.now v)), w') ∧
      w'.db = w.db.withAlert a.now v := by
  unfold goInserts at h
  split_ifs at h with hv
  rw [Bool.not_eq_true, Option.isSome_eq_false_iff, Option.isNone_iff_eq_none] at hv
  obtain ⟨val, hval, h⟩ := Option.bind_eq_some_iff.mp h
  cases hg : goAlertValues svc a req with
  | error e => simp [hg, Except.toOption] at hval
  | ok val' =>
    obtain rfl : val' = val := by simpa [hg, Except.toOption] using hval
    obtain ⟨w', hp, hdb⟩ := publishSse_ok svc a (alertResponse (w.db.newAlert a.now v))
      (w.setDb (w.db.withAlert a.now v))
    refine ⟨w', ?_, hdb⟩
    simp only [goIngest, hv, bind_apply, lift_apply, hg, goInsert_of_stored h w, hp, pure_apply]

/-- One that does not answers with an error and has changed nothing. -/
theorem goIngest_of_not_inserts {svc : Service} {a : GoAmbient} {req : AlertRequest}
    (h : goInserts svc a req = none) (w : World) : ∃ err, goIngest svc a req w = (.error err, w) := by
  unfold goInserts at h
  unfold goIngest
  cases hv : validate svc.quote req with
  | some err => exact ⟨err, rfl⟩
  | none =>
    cases hg : goAlertValues svc a req with
    | error e => exact ⟨e, by simp [bind_apply]⟩
    | ok val =>
      have hst := h
      simp only [hv, hg, Option.isSome_none, Bool.false_eq_true, if_false, Except.toOption,
        Option.bind_some] at hst
      obtain ⟨err, he⟩ := goInsert_of_not_stored hst w
      exact ⟨err, by simp only [bind_apply, lift_apply, he]⟩

/-- Encrypting and `NULL` for the empty string go together. -/
theorem nullableStr_encrypt (F : FernetScheme) (fk : FernetKeys) (n : Nonce) (s : String) :
    nullableStr (if s = "" then "" else encryptStr F fk n s) = (nullableStr s).map (encryptStr F fk n) := by
  by_cases hs : s = ""
  · simp [hs, nullableStr]
  · simp [hs, nullableStr, encryptStr_ne_empty hs]

/-- What `validate` lets through has a title. -/
theorem validate_title {quote : String → String} {req : AlertRequest} (h : validate quote req = none) :
    req.title ≠ "" := by
  intro he
  have ht : goTrimSpace "" = "" := by decide
  simp [validate, he, ht] at h

theorem wrapErr_eq_ok {α : Type} {what : String} {x : Except String α} {y : α} :
    wrapErr what x = .ok y ↔ x = .ok y := by
  cases x <;> simp [wrapErr, Except.mapError]

/-- The three encrypted fields of an `Ingest` call. -/
theorem goAlertValues_ok {svc : Service} {a : GoAmbient} {req : AlertRequest} {t ip d : String}
    (h : goAlertValues svc a req = .ok (t, ip, d)) :
    svc.fk.encryptField svc.scheme (a.encryptErr .title) (a.nonce .title) req.title = .ok t ∧
      svc.fk.encryptField svc.scheme (a.encryptErr .sourceIp) (a.nonce .sourceIp) req.sourceIp = .ok ip ∧
      svc.fk.encryptField svc.scheme (a.encryptErr .description) (a.nonce .description)
        req.description = .ok d := by
  unfold goAlertValues at h
  cases ht : wrapErr "encrypt title"
    (svc.fk.encryptField svc.scheme (a.encryptErr .title) (a.nonce .title) req.title) with
  | error e => simp [ht, bind, Except.bind] at h
  | ok t' =>
    cases hip : wrapErr "encrypt source_ip"
      (svc.fk.encryptField svc.scheme (a.encryptErr .sourceIp) (a.nonce .sourceIp) req.sourceIp) with
    | error e => simp [ht, hip, bind, Except.bind] at h
    | ok ip' =>
      cases hd : wrapErr "encrypt description" (svc.fk.encryptField svc.scheme (a.encryptErr .description)
        (a.nonce .description) req.description) with
      | error e => simp [ht, hip, hd, bind, Except.bind] at h
      | ok d' =>
        simp only [ht, hip, hd, bind, Except.bind, pure, Except.pure, Except.ok.injEq, Prod.mk.injEq] at h
        obtain ⟨rfl, rfl, rfl⟩ := h
        exact ⟨wrapErr_eq_ok.mp ht, wrapErr_eq_ok.mp hip, wrapErr_eq_ok.mp hd⟩

/-- What a row that an `Ingest` call commits was made of. -/
theorem goInserts_some {svc : Service} {a : GoAmbient} {req : AlertRequest} {v : AlertValues}
    (h : goInserts svc a req = some v) :
    validate svc.quote req = none ∧ a.insertErr = none ∧ ∃ s t ip d,
      Severity.ofName (goToUpper (goTrimSpace req.severity)) = some s ∧
        goAlertValues svc a req = .ok (t, ip, d) ∧ (goRow req s t ip d).storable = true ∧
        v = goRow req s t ip d := by
  unfold goInserts at h
  split_ifs at h with hv
  obtain ⟨⟨t, ip, d⟩, hval, h⟩ := Option.bind_eq_some_iff.mp h
  obtain ⟨he, s, hs, hst, hrow⟩ := goStored_eq_some h
  cases hg : goAlertValues svc a req with
  | error e => simp [hg, Except.toOption] at hval
  | ok val =>
    obtain rfl : val = (t, ip, d) := by simpa [hg, Except.toOption] using hval
    exact ⟨by simpa using hv, he, s, t, ip, d, hs, rfl, hst, hrow⟩

end SocDashboard
