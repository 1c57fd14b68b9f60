/-
# The Flask and Kafka ingest paths

`_insert_alert` is shared by `POST /api/alerts` and the Kafka consumer: it
commits the row in its own transaction and then stores the embedding and
broadcasts the event. The definitions follow app.py; `afterInsert` is the part
of `_insert_alert` that runs when the row is already committed.

Key definitions: `parseIngestPayload`, `ingestValues`, `insertAlert`,
`afterInsert`, `kafkaIngest`, `apiIngestAlert`.
-/
import SocDashboard.World

namespace SocDashboard

open Exec

/-- `_valid_api_key`: `hmac.compare_digest` refuses text beyond ASCII. -/
def validApiKey (env : Env) (apiKey : Option String) : Except Exc Bool :=
  match env.alertsApiKey with
  | none => .ok false
  | some configured =>
    if configured = "" then .ok false
    else
      let provided := apiKey.getD ""
      if provided.toList.all (·.val < 128) && configured.toList.all (·.val < 128) then
        .ok (provided = configured)
      else .error .typeError

/-- Title, category and severity as the two Python paths read them: stripped,
the severity in upper case. -/
def ingestFields (body : Json) : Except Exc (String × String × String) := do
  let title ← getText body "title"
  let category ← getText body "category"
  let severity ← getText body "severity"
  pure (title, category, pyUpper severity)

/-- `_parse_ingest_payload`. -/
def parseIngestPayload (body : Json) : Except Exc (String × String × Severity) := do
  let (title, category, severity) ← ingestFields body
  if title = "" ∨ category = "" then
    .error (.abort 400 "title and category are required")
  else
    match Severity.ofName severity with
    | none => .error (.abort 400 "severity must be CRITICAL, HIGH, MEDIUM or LOW")
    | some s => pure (title, category, s)

/-- The parameters of the `INSERT`, before psycopg2 adapts them. -/
structure IngestArgs where
  title : String
  category : String
  severity : Severity
  source : Json
  sourceIp : Json
  description : Json
  workflowRunId : Json
  runMetadata : Json

/-- `_ingest_values`. -/
def ingestValues (env : Env) (a : Ambient) (body : Json) (title category : String)
    (severity : Severity) : Except Exc IngestArgs := do
  let source ← body.get "source"
  let sourceIp ← body.get "source_ip"
  let description ← body.get "description"
  let workflowRunId ← body.get "workflow_run_id"
  let runMetadata ← body.get "run_metadata"
  pure
    { title := encryptStr env.scheme env.fernet (a.nonce .title) title
      category := category
      severity := severity
      source := source.orNone
      sourceIp := encryptField env.scheme env.pyStr env.fernet (a.nonce .sourceIp) sourceIp.orNone
      description :=
        encryptField env.scheme env.pyStr env.fernet (a.nonce .description) description.orNone
      workflowRunId := workflowRunId.orNone
      runMetadata := runMetadata.orNone }

/-- psycopg2 refuses a string with a NUL. -/
def adaptStr (s : String) : Except Exc String :=
  if '\x00' ∈ s.toList then .error .valueError else .ok s

/-- ... and it encodes the text that was read under a key. -/
def adaptKey (body : Json) (key text : String) : Except Exc String := do
  encodes body key
  adaptStr text

/-- What a bound value is in a `TEXT` column; a dict cannot be bound. -/
def adaptText (env : Env) (v : Json) : Except Exc (Option String) :=
  match v with
  | .null => .ok none
  | .str s => (adaptStr s).map some
  | .lone _ _ => .error .unicodeEncodeError
  | .obj _ => .error .databaseError
  | v =>
    match env.adaptOther v with
    | some t => .ok (some t)
    | none => .error .databaseError

def bindAlert (env : Env) (args : IngestArgs) : Except Exc AlertValues := do
  let title ← adaptStr args.title
  let category ← adaptStr args.category
  let source ← adaptText env args.source
  let sourceIp ← adaptText env args.sourceIp
  let description ← adaptText env args.description
  let workflowRunId ← adaptText env args.workflowRunId
  let runMetadata ← adaptText env args.runMetadata
  pure
    { title := title, category := category, severity := args.severity, source := source
      sourceIp := sourceIp, description := description, workflowRunId := workflowRunId
      runMetadata := runMetadata }

/-- The row an ingest of `body` stores. -/
def alertValues (env : Env) (a : Ambient) (body : Json) (title category : String)
    (severity : Severity) : Except Exc AlertValues := do
  encodes body "title"
  encodes body "category"
  let args ← ingestValues env a body title category severity
  bindAlert env args

/-- `decrypt_alert`. -/
def decryptAlert (env : Env) (row : Alert) : Alert :=
  { row with
    title := decryptStr env.scheme env.fernet row.title
    sourceIp := decryptField env.scheme env.fernet row.sourceIp
    description := decryptField env.scheme env.fernet row.description }

/-- What `" ".join` takes. -/
def joinText : Json → Except Exc String
  | .str s => .ok s
  | .lone before after => .ok (loneText before after)
  | _ => .error .typeError

/-- `" ".join(filter(None, [title, body.get("description"), category]))`. -/
def embedInput (body : Json) (title category : String) : Except Exc String := do
  let description ← body.get "description"
  let parts : List Json := ([.str title, description, .str category] : List Json).filter Json.truthy
  let texts ← parts.mapM joinText
  pure (" ".intercalate texts)

/-- The best-effort embedding of `_insert_alert`. -/
def storeEmbedding (env : Env) (a : Ambient) (alertId : ℕ) (text : String) : Exec World Exc Unit := do
  match ← embedText env a text with
  | none => pure ()
  | some vec =>
    catching
      (withConn a .embedding <|
        attempt (a.fails .insertEmbedding) .databaseError (upsertEmbedding alertId vec))
      fun _ => pure ()

/-- The event of a new alert. -/
def newAlertEvent (row : Alert) : Event := ⟨.newAlert, row.id, row.severity, row.status⟩

/-- `_insert_alert` once its transaction has committed. -/
def afterInsert (env : Env) (a : Ambient) (body : Json) (title category : String) (created : Alert) :
    Exec World Exc Alert := do
  let text ← lift (embedInput body title category)
  storeEmbedding env a created.id text
  let row := decryptAlert env created
  ssePublish env a (newAlertEvent row)
  pure row

/-- The transaction of `_insert_alert`. -/
def insertAlertBlock (env : Env) (a : Ambient) (body : Json) (title category : String)
    (severity : Severity) : Exec Db Exc Alert := do
  let values ← lift (alertValues env a body title category severity)
  attempt (a.fails .insertAlert) .databaseError (insertAlertRow a.now values)

/-- `_insert_alert`. -/
def insertAlert (env : Env) (a : Ambient) (body : Json) (title category : String)
    (severity : Severity) : Exec World Exc Alert := do
  let created ← withConn a .main (insertAlertBlock env a body title category severity)
  afterInsert env a body title category created

/-- `_kafka_ingest`. -/
def kafkaIngest (env : Env) (a : Ambient) (body : Json) : Exec World Exc Unit := do
  let (title, category, severity) ← lift (ingestFields body)
  if title = "" ∨ category = "" then raise .valueError
  else
    match Severity.ofName severity with
    | none => raise .valueError
    | some s => do
      let _ ← insertAlert env a body title category s
      pure ()

/-- The fields of the body of `POST /api/alerts`. -/
def readIngest (env : Env) (json : Option Json) : Except Exc (String × String × Severity) := do
  let body ← getJson env json
  parseIngestPayload body

/-- `POST /api/alerts`. -/
def apiIngestAlert (env : Env) (a : Ambient) (apiKey : Option String) (json : Option Json) :
    Exec World Exc Response := do
  if ← lift (validApiKey env apiKey) then
    let (title, category, severity) ← lift (readIngest env json)
    let row ← insertAlert env a (orEmptyDict json) title category severity
    pure ⟨201, .alert row, none⟩
  else pure ⟨401, .error "missing or invalid X-API-Key", none⟩

/-! ### What the paths do -/

section Spec

variable {env : Env} {a : Ambient} {body : Json} {title category : String} {severity : Severity}

/-- The values an ingest commits: its parameters bind and neither connecting,
inserting nor committing fails. -/
def inserts (env : Env) (a : Ambient) (body : Json) (title category : String) (severity : Severity) :
    Option AlertValues :=
  if a.fails (.connect .main) || a.fails .insertAlert || a.fails (.commit .main) then none
  else (alertValues env a body title category severity).toOption

theorem ingestFields_title {fields : String × String × String} (h : ingestFields body = .ok fields) :
    getText body "title" = .ok fields.1 := by
  obtain ⟨t, ht, h⟩ := except_bind_eq_ok.mp h
  obtain ⟨c, -, h⟩ := except_bind_eq_ok.mp h
  obtain ⟨s, -, h⟩ := except_bind_eq_ok.mp h
  rw [ht, ← Except.ok.inj h]

/-- A body that passed is a dict with a title and a category. -/
theorem parseIngestPayload_eq_ok (h : parseIngestPayload body = .ok (title, category, severity)) :
    title ≠ "" ∧ category ≠ "" ∧ body.isDict = true ∧ getText body "title" = .ok title := by
  obtain ⟨⟨t, c, s⟩, hf, h⟩ := except_bind_eq_ok.mp h
  have ht : getText body "title" = .ok t := ingestFields_title hf
  have hdict : body.isDict = true := by
    cases body with
    | obj fields => rfl
    | _ => simp [getText, Json.get] at ht
  simp only at h
  split_ifs at h with hblank
  rw [not_or] at hblank
  cases hs : Severity.ofName s with
  | none => simp [hs] at h
  | some v =>
    simp only [hs, pure, Except.pure, Except.ok.injEq, Prod.mk.injEq] at h
    obtain ⟨rfl, rfl, -⟩ := h
    exact ⟨hblank.1, hblank.2, hdict, ht⟩

theorem adaptStr_eq_ok {s t : String} : adaptStr s = .ok t ↔ '\x00' ∉ s.toList ∧ s = t := by
  unfold adaptStr
  split_ifs with h
  · simp [h]
  · simp [h]

theorem adaptKey_eq_ok {key s t : String} :
    adaptKey body key s = .ok t ↔ (encodable body key = true ∧ '\x00' ∉ s.toList) ∧ s = t := by
  unfold adaptKey
  rw [except_bind_eq_ok]
  simp only [encodes_eq_ok, adaptStr_eq_ok]
  constructor
  · rintro ⟨-, henc, hnul, rfl⟩
    exact ⟨⟨henc, hnul⟩, rfl⟩
  · rintro ⟨⟨henc, hnul⟩, rfl⟩
    exact ⟨(), henc, hnul, rfl⟩

/-- What a stored alert went through. -/
theorem alertValues_eq_ok {v : AlertValues} :
    alertValues env a body title category severity = .ok v ↔
      (encodable body "title" = true ∧ encodable body "category" = true) ∧
        ∃ args, ingestValues env a body title category severity = .ok args ∧ bindAlert env args = .ok v := by
  unfold alertValues
  simp only [except_bind_eq_ok, encodes_eq_ok]
  constructor
  · rintro ⟨-, ht, -, hc, hargs⟩
    exact ⟨⟨ht, hc⟩, hargs⟩
  · rintro ⟨⟨ht, hc⟩, hargs⟩
    exact ⟨(), ht, (), hc, hargs⟩

theorem readIngest_eq_ok {json : Option Json} {fields : String × String × Severity} :
    readIngest env json = .ok fields ↔
      parses env json = true ∧ parseIngestPayload (orEmptyDict json) = .ok fields :=
  getJson_bind_eq_ok

theorem insertAlertBlock_ok {db db' : Db} {row : Alert} :
    insertAlertBlock env a body title category severity db = (.ok row, db') ↔
      ∃ v, alertValues env a body title category severity = .ok v ∧ a.fails .insertAlert = false ∧
        row = db.newAlert a.now v ∧ db' = db.withAlert a.now v := by
  simp only [insertAlertBlock, bind_eq_ok, lift_eq_ok, attempt_eq_ok, insertAlertRow, Prod.mk.injEq,
    Except.ok.injEq]
  constructor
  · rintro ⟨v, s, ⟨hv, rfl⟩, hf, rfl, rfl⟩
    exact ⟨v, hv, hf, rfl, rfl⟩
  · rintro ⟨v, hv, hf, rfl, rfl⟩
    exact ⟨v, db, ⟨hv, rfl⟩, hf, rfl, rfl⟩

theorem keeps_insertAlertBlock : Keeps SeqLe (insertAlertBlock env a body title category severity) :=
  (Keeps.lift _).bind fun v => Keeps.attempt (keeps_insertAlertRow a.now v)

/-- Once the insert has committed, the rest of `_insert_alert` runs. -/
theorem insertAlert_of_inserts {v : AlertValues} (h : inserts env a body title category severity = some v)
    (w : World) :
    insertAlert env a body title category severity w =
      afterInsert env a body title category (w.db.newAlert a.now v)
        (w.setDb (w.db.withAlert a.now v)) := by
  unfold inserts at h
  split_ifs at h with hf
  simp only [Bool.or_eq_true, not_or, Bool.not_eq_true] at hf
  obtain ⟨⟨h1, h2⟩, h3⟩ := hf
  cases hv : alertValues env a body title category severity with
  | error e => simp [hv, Except.toOption] at h
  | ok v' =>
    have hvv : v' = v := by simpa [hv, Except.toOption] using h
    subst hvv
    have hc := (withConn_ok (a := a) (c := .main) (w := w)).mpr
      ⟨h1, h3, _, insertAlertBlock_ok.mpr ⟨v', hv, h2, rfl, rfl⟩, rfl⟩
    rw [insertAlert, bind_apply, hc]

/-- Otherwise it raises and no row has changed. -/
theorem insertAlert_of_not_inserts (h : inserts env a body title category severity = none) (w : World) :
    ∃ e w', insertAlert env a body title category severity w = (.error e, w') ∧ SameDb w w' := by
  have hno : ∀ row w', withConn a .main (insertAlertBlock env a body title category severity) w ≠
      (.ok row, w') := by
    intro row w' hc
    obtain ⟨h1, h3, db', hb, -⟩ := withConn_ok.mp hc
    obtain ⟨v, hv, h2, -, -⟩ := insertAlertBlock_ok.mp hb
    simp [inserts, h1, h2, h3, hv, Except.toOption] at h
  obtain ⟨e, w', hc, hs⟩ := withConn_of_not_ok keeps_insertAlertBlock hno
  exact ⟨e, w', by rw [insertAlert, bind_apply, hc], hs⟩

/-- The model is there when the request asks for it. -/
def modelAvailable (a : Ambient) (w : World) : Bool :=
  match w.embeddingModel with
  | .loaded => true
  | .failed => false
  | .notLoaded => !a.fails .loadModel

/-- The embed call is made and raises. -/
def embedFails (a : Ambient) (w : World) : Bool := modelAvailable a w && a.fails .embed

/-- `_sse_publish` raises. -/
def publishFails (env : Env) (a : Ambient) : Bool := env.redis && a.fails .publish

/-- `" ".join` finds only strings. -/
def embedTextOk (body : Json) : Bool :=
  match body.get "description" with
  | .ok (.str _) => true
  | .ok (.lone _ _) => true
  | .ok v => !v.truthy
  | .error _ => false

theorem ssePublish_fst (env : Env) (a : Ambient) (event : Event) (w : World) :
    (ssePublish env a event w).1 = if publishFails env a then .error .redisError else .ok () := by
  unfold publishFails
  cases hr : env.redis with
  | false =>
    obtain ⟨rest, h⟩ := ssePublish_inProcess hr a event w
    simp [h]
  | true => cases hf : a.fails .publish <;> simp [ssePublish, hr, hf]

section Beside

variable {R : Db → Db → Prop} [Std.Refl R] [IsTrans Db R]

theorem keeps_ssePublish (env : Env) (a : Ambient) (event : Event) :
    Keeps (OnDb R) (ssePublish env a event) := by
  refine Keeps.ite (fun _ => Keeps.attempt (keeps_modify_beside fun w => ⟨rfl, rfl⟩)) fun _ => ?_
  exact (Keeps.gets _).bind fun _ => (Keeps.lift _).bind fun _ => keeps_modify_beside fun w => ⟨rfl, rfl⟩

theorem keeps_getEmbeddingModel (a : Ambient) : Keeps (OnDb R) (getEmbeddingModel a) := by
  refine (Keeps.gets _).bind fun m => ?_
  rcases m with _ | _ | _
  · refine Keeps.ite (fun _ => ?_) fun _ => ?_
    · exact Keeps.bind (keeps_modify_beside fun w => ⟨rfl, rfl⟩) fun _ => Keeps.pure _
    · exact Keeps.bind (keeps_modify_beside fun w => ⟨rfl, rfl⟩) fun _ => Keeps.pure _
  · exact Keeps.pure _
  · exact Keeps.pure _

theorem keeps_embedText (env : Env) (a : Ambient) (text : String) :
    Keeps (OnDb R) (embedText env a text) := by
  refine (keeps_getEmbeddingModel a).bind fun b => ?_
  exact Keeps.ite (fun _ => Keeps.attempt (Keeps.pure _)) fun _ => Keeps.pure _

end Beside

theorem keeps_storeEmbedding (env : Env) (a : Ambient) (alertId : ℕ) (text : String) :
    Keeps SameDb (storeEmbedding env a alertId text) := by
  refine (keeps_embedText env a text).bind fun o => ?_
  cases o with
  | none => exact Keeps.pure _
  | some vec =>
    exact Keeps.catching
      (keeps_withConn a .embedding (fun _ _ h => sameRows_rollback h.toSeqLe)
        (Keeps.attempt (keeps_upsertEmbedding alertId vec)))
      fun _ => Keeps.pure _

/-- **After the commit `_insert_alert` changes no row** but the embedding. -/
theorem keeps_afterInsert (env : Env) (a : Ambient) (body : Json) (title category : String)
    (created : Alert) : Keeps SameDb (afterInsert env a body title category created) :=
  (Keeps.lift _).bind fun _ => (keeps_storeEmbedding env a _ _).bind fun _ =>
    (keeps_ssePublish env a _).bind fun _ => Keeps.pure _

theorem getEmbeddingModel_fst (a : Ambient) (w : World) :
    (getEmbeddingModel a w).1 = .ok (modelAvailable a w) := by
  simp only [getEmbeddingModel, bind_apply, gets_apply, modelAvailable]
  cases w.embeddingModel with
  | loaded => rfl
  | failed => rfl
  | notLoaded => cases h : a.fails .loadModel <;> simp [bind_apply]

theorem storeEmbedding_fst (env : Env) (a : Ambient) (alertId : ℕ) (text : String) (w : World) :
    (storeEmbedding env a alertId text w).1 = if embedFails a w then .error .embedError else .ok () := by
  have hm := getEmbeddingModel_fst a w
  rcases hg : getEmbeddingModel a w with ⟨r, w₁⟩
  rw [hg] at hm
  simp only at hm
  subst hm
  unfold storeEmbedding embedText embedFails
  rw [bind_apply, bind_apply, hg]
  cases modelAvailable a w with
  | false => simp
  | true =>
    cases a.fails .embed with
    | true => simp
    | false =>
      simp only [if_true, attempt_false, pure_apply, Bool.and_false, Bool.false_eq_true, if_false]
      unfold catching
      rcases withConn a .embedding _ w₁ with ⟨_ | _, _⟩ <;> rfl

theorem filter_parts {title category : String} (ht : title ≠ "") (hc : category ≠ "") (v : Json) :
    ([.str title, v, .str category] : List Json).filter Json.truthy =
      if v.truthy then [.str title, v, .str category] else [.str title, .str category] := by
  have h1 : (Json.str title).truthy = true := by simp [Json.truthy, ht]
  have h2 : (Json.str category).truthy = true := by simp [Json.truthy, hc]
  cases hv : v.truthy <;> simp [h1, h2, hv]

/-- The text to embed is there exactly when the description is a string or nothing. -/
theorem embedInput_isOk {body : Json} {title category : String} (ht : title ≠ "") (hc : category ≠ "")
    (hb : body.isDict = true) :
    (∃ text, embedInput body title category = .ok text) ↔ embedTextOk body = true := by
  obtain ⟨v, hv⟩ : ∃ v, body.get "description" = .ok v := by
    cases body <;> simp_all [Json.isDict, Json.get]
  have hin : embedInput body title category =
      (if v.truthy then [Json.str title, v, .str category] else [.str title, .str category]).mapM
        joinText >>= fun texts => pure (" ".intercalate texts) := by
    rw [← filter_parts ht hc]
    simp only [embedInput, hv, bind, Except.bind]
  rw [hin]
  unfold embedTextOk
  rw [hv]
  cases v with
  | str s =>
    by_cases hs : s = "" <;>
      simp [Json.truthy, joinText, hs, bind, Except.bind, pure, Except.pure]
  | lone before after => simp [Json.truthy, joinText, bind, Except.bind, pure, Except.pure]
  | null => simp [Json.truthy, joinText, bind, Except.bind, pure, Except.pure]
  | bool b => cases b <;> simp [Json.truthy, joinText, bind, Except.bind, pure, Except.pure]
  | int n =>
    by_cases hn : n = 0 <;> simp [Json.truthy, joinText, hn, bind, Except.bind, pure, Except.pure]
  | float z text => cases z <;> simp [Json.truthy, joinText, bind, Except.bind, pure, Except.pure]
  | arr items => cases items <;> simp [Json.truthy, joinText, bind, Except.bind, pure, Except.pure]
  | obj fields => cases fields <;> simp [Json.truthy, joinText, bind, Except.bind, pure, Except.pure]

/-- One of the steps after the commit raises: the text to embed, the embed call
or the broadcast. -/
def afterFails (env : Env) (a : Ambient) (body : Json) (w : World) : Bool :=
  !embedTextOk body || embedFails a w || publishFails env a

/-- Of a dict, the text to embed raises a `TypeError` only. -/
theorem embedInput_error {e : Exc} (hb : body.isDict = true) (h : embedInput body title category = .error e) :
    e = .typeError := by
  obtain ⟨v, hv⟩ : ∃ v, body.get "description" = .ok v := by
    cases body <;> simp_all [Json.isDict, Json.get]
  simp only [embedInput, hv, bind, Except.bind] at h
  split at h
  · rename_i e' hm
    obtain ⟨x, -, hx⟩ := except_mapM_eq_error hm
    have he : e' = e := Except.error.inj h
    rw [← he]
    cases x <;> simp_all [joinText]
  · simp [pure, Except.pure] at h

/-- The steps after the commit, when all go through. -/
theorem afterInsert_ok (ht : title ≠ "") (hc : category ≠ "") (hb : body.isDict = true) {w : World}
    (h : afterFails env a body w = false) (created : Alert) :
    (afterInsert env a body title category created w).1 = .ok (decryptAlert env created) := by
  simp only [afterFails, Bool.or_eq_false_iff, Bool.not_eq_false'] at h
  obtain ⟨⟨htext, hemb⟩, hpub⟩ := h
  obtain ⟨text, hin⟩ := (embedInput_isOk ht hc hb).mpr htext
  have hs := storeEmbedding_fst env a created.id text w
  rcases hst : storeEmbedding env a created.id text w with ⟨r, w₁⟩
  rw [hst, hemb] at hs
  simp only [Bool.false_eq_true, if_false] at hs
  subst hs
  have hp := ssePublish_fst env a (newAlertEvent (decryptAlert env created)) w₁
  rcases hsp : ssePublish env a (newAlertEvent (decryptAlert env created)) w₁ with ⟨r, w₂⟩
  rw [hsp, hpub] at hp
  simp only [Bool.false_eq_true, if_false] at hp
  subst hp
  simp only [afterInsert, bind_apply, lift_apply, hin, hst, hsp, pure_apply]

/-- ... and when one of them raises: the answer is a 500. -/
theorem afterInsert_error (ht : title ≠ "") (hc : category ≠ "") (hb : body.isDict = true) {w : World}
    (h : afterFails env a body w = true) (created : Alert) :
    ∃ e, (afterInsert env a body title category created w).1 = .error e ∧ e.response.status = 500 := by
  unfold afterInsert
  cases hin : embedInput body title category with
  | error e => exact ⟨e, rfl, by rw [embedInput_error hb hin]; rfl⟩
  | ok text =>
    have htext := (embedInput_isOk ht hc hb).mp ⟨text, hin⟩
    have hs := storeEmbedding_fst env a created.id text w
    rcases hst : storeEmbedding env a created.id text w with ⟨r, w₁⟩
    rw [hst] at hs
    simp only [bind_apply, lift_apply, hst]
    cases hemb : embedFails a w with
    | true =>
      rw [hemb, if_pos rfl] at hs
      simp only at hs
      subst hs
      exact ⟨.embedError, rfl, rfl⟩
    | false =>
      rw [hemb] at hs
      simp only [Bool.false_eq_true, if_false] at hs
      subst hs
      have hpub : publishFails env a = true := by simpa [afterFails, htext, hemb] using h
      have hp := ssePublish_fst env a (newAlertEvent (decryptAlert env created)) w₁
      rw [hpub, if_pos rfl] at hp
      rcases hsp : ssePublish env a (newAlertEvent (decryptAlert env created)) w₁ with ⟨r, w₂⟩
      rw [hsp] at hp
      simp only at hp
      subst hp
      simp only [hsp]
      exact ⟨.redisError, rfl, rfl⟩

end Spec

end SocDashboard
