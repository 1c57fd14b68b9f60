/-
# Three ways in

An alert body whose eight fields are each a string, null or absent, taken by
the Flask REST path, by the Kafka path and by the Go service over both of its
transports, with the same database, the same key and nothing failing. The two
Python paths store the stripped title and category; `Service.Ingest` stores
them as they came, since `validate` strips its own copy. The trimmers differ
in four separators. Python reads the last member under a key, and
`encoding/json` every member whose key folds to it.

Key definitions: `AlertBody`, `AlertBody.dict`, `AlertBody.folded`,
`PathsAgree`, `AlertBody.Uniform`, `AlertBody.Refused`.
Key theorems: `decodeRestBody_members`, `insertAlert_takes`, `go_spec`,
`pathsAgree_iff_taken`, `pathsAgree_iff`, `untrimmed_title_differs`.
-/
import SocDashboard.KeyAgreement
import SocDashboard.Transports

namespace SocDashboard

open Exec

/-! ### A body -/

/-- Null or a string. -/
def Json.isField : Json → Bool
  | .null => true
  | .str _ => true
  | .lone _ _ => true
  | _ => false

/-- The text of a field; null is no text. -/
def Json.fieldText : Json → Option String
  | .str s => some s
  | .lone before after => some (loneText before after)
  | _ => none

/-- The members of a JSON object in their order, those under the eight keys strings or null. -/
structure AlertBody where
  members : List (String × Json)
  fields : ∀ m ∈ members, m.1 ∈ restTags → m.2.isField = true

namespace AlertBody

variable (b : AlertBody)

/-- The dict that `json.loads` makes of it: of the members under one key the last counts. -/
def dict : Json := .obj b.members.reverse

/-- What Python reads under a key. -/
def field (key : String) : Json := (b.members.reverse.lookup key).getD .null

/-- The text of it, empty when it is null or absent. -/
def text (key : String) : String := (b.field key).fieldText.getD ""

/-- The eight texts. -/
def texts : AlertRequest where
  title := b.text "title"
  category := b.text "category"
  severity := b.text "severity"
  source := b.text "source"
  sourceIp := b.text "source_ip"
  description := b.text "description"
  workflowRunId := b.text "workflow_run_id"
  runMetadata := b.text "run_metadata"

/-- One of the texts has a lone surrogate. -/
def lone : Bool := restTags.any fun key => (b.field key).isLone

/-- What a member puts into the field for a tag: null leaves it alone. -/
def effect (tag : String) (m : String × Json) : Option String :=
  if fieldFor m.1 = some tag then m.2.fieldText else none

/-- What `encoding/json` reads into the field for a tag: the last text under a key that folds to it. -/
def folded (tag : String) : String := (b.members.reverse.findSome? (effect tag)).getD ""

/-- The eight texts that it reads. -/
def foldedTexts : AlertRequest where
  title := b.folded "title"
  category := b.folded "category"
  severity := b.folded "severity"
  source := b.folded "source"
  sourceIp := b.folded "source_ip"
  description := b.folded "description"
  workflowRunId := b.folded "workflow_run_id"
  runMetadata := b.folded "run_metadata"

/-- Under every key that folds to a tag there is a string or null. -/
def decodes : Bool := b.members.all fun m => (fieldFor m.1).isNone || m.2.isField

end AlertBody

/-! ### What the Go handler decodes -/

/-- The field with a tag. -/
def RestBody.get (body : RestBody) (tag : String) : String :=
  match tag with
  | "title" => body.title
  | "category" => body.category
  | "severity" => body.severity
  | "source" => body.source
  | "source_ip" => body.sourceIp
  | "description" => body.description
  | "workflow_run_id" => body.workflowRunId
  | "run_metadata" => body.runMetadata
  | _ => ""

theorem RestBody.get_set (body : RestBody) (s : String) :
    ∀ tag ∈ restTags, ∀ tag' ∈ restTags, (body.set tag s).get tag' = if tag = tag' then s else body.get tag' := by
  simp only [restTags, List.forall_mem_cons, RestBody.set, RestBody.get]
  simp

theorem fieldFor_mem {key tag : String} (h : fieldFor key = some tag) : tag ∈ restTags := by
  rcases Option.or_eq_some_iff.mp h with h | ⟨-, h⟩
  · exact List.mem_of_find?_eq_some h
  · exact List.mem_of_find?_eq_some h

/-- A member goes into the field its key folds to. -/
theorem decodeMember_get {body body' : RestBody} {m : String × Json} (h : decodeMember body m = some body')
    {tag : String} (htag : tag ∈ restTags) : body'.get tag = (AlertBody.effect tag m).getD (body.get tag) := by
  unfold decodeMember at h
  unfold AlertBody.effect
  cases hf : fieldFor m.1 with
  | none =>
    rw [hf] at h
    obtain rfl := Option.some.inj h
    simp
  | some tag' =>
    simp only [hf] at h
    have hset := fun s => body.get_set s tag' (fieldFor_mem hf) tag htag
    cases hv : m.2 with
    | null =>
      rw [hv] at h
      obtain rfl := Option.some.inj h
      simp [Json.fieldText]
    | str s =>
      rw [hv] at h
      obtain rfl := Option.some.inj h
      rw [hset]
      by_cases he : tag' = tag <;> simp [he, Json.fieldText]
    | lone before after =>
      rw [hv] at h
      obtain rfl := Option.some.inj h
      rw [hset]
      by_cases he : tag' = tag <;> simp [he, Json.fieldText]
    | _ => simp [hv] at h

theorem decodeMember_isSome (body : RestBody) (m : String × Json) :
    (decodeMember body m).isSome = ((fieldFor m.1).isNone || m.2.isField) := by
  unfold decodeMember
  cases fieldFor m.1 with
  | none => rfl
  | some tag => cases m.2 <;> rfl

theorem foldlM_decodeMember_get {members : List (String × Json)} {body body' : RestBody}
    (h : members.foldlM decodeMember body = some body') {tag : String} (htag : tag ∈ restTags) :
    body'.get tag = (members.reverse.findSome? (AlertBody.effect tag)).getD (body.get tag) := by
  induction members generalizing body with
  | nil =>
    obtain rfl := Option.some.inj h
    rfl
  | cons m members ih =>
    obtain ⟨body₁, hm, h⟩ := Option.bind_eq_some_iff.mp h
    rw [ih h, decodeMember_get hm htag, List.reverse_cons, List.findSome?_append]
    cases members.reverse.findSome? (AlertBody.effect tag) with
    | none => simp
    | some s => rfl

theorem foldlM_decodeMember_isSome (members : List (String × Json)) (body : RestBody) :
    (members.foldlM decodeMember body).isSome =
      members.all fun m => (fieldFor m.1).isNone || m.2.isField := by
  induction members generalizing body with
  | nil => rfl
  | cons m members ih =>
    rw [List.foldlM_cons, List.all_cons, ← decodeMember_isSome body m]
    cases decodeMember body m with
    | none => rfl
    | some body₁ => exact ih body₁

/-- **The decoded body**: the last text under the keys that fold to each tag. -/
theorem decodeRestBody_members (b : AlertBody) :
    (decodeRestBody (.obj b.members)).map RestBody.alertRequest =
      if b.decodes then some b.foldedTexts else none := by
  have hsome : (decodeRestBody (.obj b.members)).isSome = b.decodes :=
    foldlM_decodeMember_isSome b.members .zero
  cases hd : decodeRestBody (.obj b.members) with
  | none =>
    rw [hd] at hsome
    rw [← hsome]
    rfl
  | some body =>
    rw [hd] at hsome
    have hget : ∀ tag ∈ restTags, body.get tag = b.folded tag := by
      intro tag htag
      have hzero : ∀ tag ∈ restTags, RestBody.zero.get tag = "" := by decide
      rw [AlertBody.folded, foldlM_decodeMember_get hd htag, hzero tag htag]
    rw [← hsome, Option.isSome_some, if_pos rfl, Option.map_some]
    simp only [restTags, List.forall_mem_cons, RestBody.get] at hget
    simp [RestBody.alertRequest, AlertBody.foldedTexts, hget]

/-! ### What the Python paths read -/

section Reads

variable {b : AlertBody} {key : String}

theorem AlertBody.field_isField (b : AlertBody) (h : key ∈ restTags) : (b.field key).isField = true := by
  unfold AlertBody.field
  cases hl : b.members.reverse.lookup key with
  | none => rfl
  | some v =>
    obtain ⟨before, after, he, -⟩ := List.lookup_eq_some_iff.mp hl
    have hm : (key, v) ∈ b.members.reverse := by simp [he]
    exact b.fields (key, v) (List.mem_reverse.mp hm) h

theorem AlertBody.get_dict (b : AlertBody) (key : String) : b.dict.get key = .ok (b.field key) := rfl

theorem AlertBody.encodable_dict (b : AlertBody) (key : String) :
    encodable b.dict key = !(b.field key).isLone := rfl

theorem AlertBody.getText_dict (b : AlertBody) (h : key ∈ restTags) :
    getText b.dict key = .ok (pyStrip (b.text key)) := by
  have hfield := b.field_isField h
  have hget : b.dict.get key = .ok (b.field key) := b.get_dict key
  unfold AlertBody.text
  cases hv : b.field key with
  | null => exact getText_absent (hget.trans (congrArg Except.ok hv))
  | str s => exact getText_str (hget.trans (congrArg Except.ok hv))
  | lone before after =>
    rw [getText, hget, hv]
    rfl
  | _ => simp [hv, Json.isField] at hfield

theorem AlertBody.ingestFields_dict (b : AlertBody) :
    ingestFields b.dict =
      .ok (pyStrip b.texts.title, pyStrip b.texts.category, pyUpper (pyStrip b.texts.severity)) := by
  have ht : "title" ∈ restTags := by decide
  have hc : "category" ∈ restTags := by decide
  have hs : "severity" ∈ restTags := by decide
  simp only [ingestFields, b.getText_dict ht, b.getText_dict hc, b.getText_dict hs]
  rfl

theorem AlertBody.lone_eq_false (b : AlertBody) :
    b.lone = false ↔ ∀ key ∈ restTags, (b.field key).isLone = false := by
  simp [AlertBody.lone, List.any_eq_false]

theorem AlertBody.embedTextOk_dict (b : AlertBody) : embedTextOk b.dict = true := by
  have hfield := b.field_isField (by decide : "description" ∈ restTags)
  rw [embedTextOk, b.get_dict]
  cases hv : b.field "description" with
  | null => rfl
  | str s => rfl
  | lone before after => rfl
  | _ => simp [hv, Json.isField] at hfield

end Reads

/-! ### The rows -/

section Rows

variable (env : Env) (a : Ambient) (r : AlertRequest)

/-- The severity of texts that the Python paths let through. -/
def AlertRequest.pySeverity : Option Severity :=
  if pyStrip r.title = "" ∨ pyStrip r.category = "" then none
  else Severity.ofName (pyUpper (pyStrip r.severity))

/-- The row the Python paths insert for them. -/
def AlertRequest.pyRow (s : Severity) : AlertValues where
  title := encryptStr env.scheme env.fernet (a.nonce .title) (pyStrip r.title)
  category := pyStrip r.category
  severity := s
  source := nullableStr r.source
  sourceIp := (nullableStr r.sourceIp).map (encryptStr env.scheme env.fernet (a.nonce .sourceIp))
  description := (nullableStr r.description).map (encryptStr env.scheme env.fernet (a.nonce .description))
  workflowRunId := nullableStr r.workflowRunId
  runMetadata := nullableStr r.runMetadata

/-- The texts that are bound as they are hold no NUL. -/
def AlertRequest.bindable (fernet : Option FernetKey) : Bool :=
  (fernet.isSome || (storable r.title && storable r.sourceIp && storable r.description)) &&
    storable r.category && storable r.source && storable r.workflowRunId && storable r.runMetadata

variable {env a r}

theorem storable_pyStrip (s : String) : storable (pyStrip s) = storable s := by
  have h : '\x00' ∈ (pyStrip s).toList ↔ '\x00' ∈ s.toList := Trim.mem_trim_iff (by decide)
  simp only [storable, h]

theorem adaptStr_storable {s : String} (h : storable s = true) : adaptStr s = .ok s :=
  adaptStr_eq_ok.mpr ⟨by simpa [storable] using h, rfl⟩

theorem adaptStr_eq_ok_storable {s t : String} : adaptStr s = .ok t ↔ storable s = true ∧ t = s := by
  rw [adaptStr_eq_ok, eq_comm (a := s)]
  simp [storable]

theorem adaptStr_isOk {s : String} : (∃ t, adaptStr s = .ok t) ↔ storable s = true := by
  simp [adaptStr_eq_ok_storable]

theorem storableOpt_nullableStr (s : String) : storableOpt (nullableStr s) = storable s := by
  by_cases hs : s = ""
  · simp [hs, nullableStr, storableOpt, storable]
  · simp [hs, nullableStr, storableOpt]

/-- A token holds no NUL. -/
theorem storable_encryptStr (F : FernetScheme) (fernet : Option FernetKey) (n : Nonce) (s : String) :
    storable (encryptStr F fernet n s) = (fernet.isSome || storable s) := by
  cases fernet with
  | none => rfl
  | some k =>
    have h : '\x00' ∉ (F.encrypt k n s.toUTF8).toList := fun hc =>
      absurd (F.token_urlSafe k n s.toUTF8 _ hc) (by decide)
    simpa [storable, encryptStr] using h

theorem storableOpt_map_encryptStr (F : FernetScheme) (fernet : Option FernetKey) (n : Nonce) (s : String) :
    storableOpt ((nullableStr s).map (encryptStr F fernet n)) = (fernet.isSome || storable s) := by
  by_cases hs : s = ""
  · simp [hs, nullableStr, storableOpt, storable]
  · simp [hs, nullableStr, storableOpt, storable_encryptStr]

/-- A field as psycopg2 binds it. -/
theorem adaptText_field {v : Json} (hv : v.isField = true) {o : Option String} :
    adaptText env v.orNone = .ok o ↔
      v.isLone = false ∧ storable (v.fieldText.getD "") = true ∧ o = nullableStr (v.fieldText.getD "") := by
  cases v with
  | null => simp [Json.orNone, Json.truthy, adaptText, Json.isLone, Json.fieldText, nullableStr, storable, eq_comm]
  | str s =>
    by_cases hs : s = ""
    · simp [hs, Json.orNone, Json.truthy, adaptText, Json.isLone, Json.fieldText, nullableStr, storable, eq_comm]
    · by_cases hnul : storable s = true
      · simp [hs, hnul, Json.orNone, Json.truthy, adaptText, adaptStr_storable hnul, Except.map, Json.isLone,
          Json.fieldText, nullableStr, eq_comm]
      · have hno : ∀ t, adaptStr s ≠ .ok t := fun t ht => hnul (adaptStr_eq_ok_storable.mp ht).1
        cases ha : adaptStr s with
        | ok t => exact absurd ha (hno t)
        | error e => simp [hs, hnul, Json.orNone, Json.truthy, adaptText, ha, Except.map, Json.fieldText]
  | lone before after => simp [Json.orNone, Json.truthy, adaptText, Json.isLone]
  | _ => simp [Json.isField] at hv

/-- ... and one that is encrypted before. -/
theorem adaptText_sealedField {v : Json} (hv : v.isField = true) {n : Nonce} {o : Option String} :
    adaptText env (encryptField env.scheme env.pyStr env.fernet n v.orNone) = .ok o ↔
      v.isLone = false ∧ (env.fernet.isSome || storable (v.fieldText.getD "")) = true ∧
        o = (nullableStr (v.fieldText.getD "")).map (encryptStr env.scheme env.fernet n) := by
  cases v with
  | null =>
    simp [Json.orNone, Json.truthy, encryptField, adaptText, Json.isLone, Json.fieldText, nullableStr, storable,
      eq_comm]
  | str s =>
    by_cases hs : s = ""
    · simp [hs, Json.orNone, Json.truthy, encryptField, adaptText, Json.isLone, Json.fieldText, nullableStr,
        storable, eq_comm]
    · have hstored := storable_encryptStr env.scheme env.fernet n s
      by_cases hnul : storable (encryptStr env.scheme env.fernet n s) = true
      · rw [hnul] at hstored
        simp [hs, ← hstored, Json.orNone, Json.truthy, encryptField, adaptText, adaptStr_storable hnul, Except.map,
          Json.isLone, Json.fieldText, nullableStr, eq_comm]
      · have hno : ∀ t, adaptStr (encryptStr env.scheme env.fernet n s) ≠ .ok t := fun t ht =>
          hnul (adaptStr_eq_ok_storable.mp ht).1
        rw [Bool.not_eq_true] at hnul
        rw [hnul] at hstored
        cases ha : adaptStr (encryptStr env.scheme env.fernet n s) with
        | ok t => exact absurd ha (hno t)
        | error e =>
          simp [hs, ← hstored, Json.orNone, Json.truthy, encryptField, adaptText, ha, Except.map, Json.fieldText]
  | lone before after => simp [Json.orNone, Json.truthy, encryptField, adaptText, Json.isLone]
  | _ => simp [Json.isField] at hv

theorem AlertRequest.bindable_iff {fernet : Option FernetKey} :
    r.bindable fernet = true ↔
      (fernet.isSome || storable r.title) = true ∧ storable r.category = true ∧ storable r.source = true ∧
        (fernet.isSome || storable r.sourceIp) = true ∧ (fernet.isSome || storable r.description) = true ∧
          storable r.workflowRunId = true ∧ storable r.runMetadata = true := by
  unfold AlertRequest.bindable
  cases fernet.isSome <;> simp only [Bool.and_eq_true, Bool.true_or, Bool.false_or, true_and] <;> tauto

/-- The names the severities have. -/
theorem name_letters (s : Severity) : ∀ d ∈ s.name.toList, d ∈ nameLetters := by
  have hall : s.name.toList.all (· ∈ nameLetters) = true := by cases s <;> decide
  exact fun d hd => of_decide_eq_true (List.all_eq_true.mp hall d hd)

theorem ofName_eq_some {s : String} {v : Severity} : Severity.ofName s = some v ↔ s = v.name := by
  constructor
  · intro h
    have hname := List.find?_some h
    simpa [eq_comm] using hname
  · rintro rfl
    cases v <;> rfl

theorem AlertRequest.pySeverity_some {s : Severity} (h : r.pySeverity = some s) :
    pyStrip r.title ≠ "" ∧ pyStrip r.category ≠ "" ∧ pyUpper (pyStrip r.severity) = s.name := by
  unfold AlertRequest.pySeverity at h
  split_ifs at h with hne
  rw [not_or] at hne
  exact ⟨hne.1, hne.2, ofName_eq_some.mp h⟩

/-- A severity with a lone surrogate is none of the four. -/
theorem AlertBody.severity_not_lone {b : AlertBody} {s : Severity} (h : b.texts.pySeverity = some s) :
    (b.field "severity").isLone = false := by
  obtain ⟨-, -, hname⟩ := AlertRequest.pySeverity_some h
  cases hv : b.field "severity" with
  | lone before after =>
    -- the replacement character stays through the strip and the upper case
    have htext : b.texts.severity = loneText before after := by
      change b.text "severity" = _
      rw [AlertBody.text, hv]
      rfl
    have hmem : '\ufffd' ∈ b.texts.severity.toList := by
      rw [htext, loneText, String.toList_append, String.toList_append]
      simp
    have hstrip : '\ufffd' ∈ (pyStrip b.texts.severity).toList := (Trim.mem_trim_iff (by decide)).mpr hmem
    have hupper : '\ufffd' ∈ (pyUpper (pyStrip b.texts.severity)).toList := by
      rw [pyUpper, String.toList_ofList]
      exact List.mem_flatMap.mpr ⟨_, hstrip, by decide⟩
    rw [hname] at hupper
    exact absurd (name_letters s _ hupper) (by decide)
  | _ => rfl

/-- **What the Python paths bind is the row**, when it can be encoded and stored. -/
theorem AlertBody.alertValues_dict {b : AlertBody} {s : Severity} (hs : b.texts.pySeverity = some s)
    {v : AlertValues} :
    alertValues env a b.dict (pyStrip b.texts.title) (pyStrip b.texts.category) s = .ok v ↔
      b.lone = false ∧ b.texts.bindable env.fernet = true ∧ v = b.texts.pyRow env a s := by
  have hsource := b.field_isField (by decide : "source" ∈ restTags)
  have hip := b.field_isField (by decide : "source_ip" ∈ restTags)
  have hdescription := b.field_isField (by decide : "description" ∈ restTags)
  have hworkflow := b.field_isField (by decide : "workflow_run_id" ∈ restTags)
  have hmetadata := b.field_isField (by decide : "run_metadata" ∈ restTags)
  have hlone : b.lone = false ↔ (b.field "title").isLone = false ∧ (b.field "category").isLone = false ∧
      (b.field "source").isLone = false ∧ (b.field "source_ip").isLone = false ∧
        (b.field "description").isLone = false ∧ (b.field "workflow_run_id").isLone = false ∧
          (b.field "run_metadata").isLone = false := by
    rw [b.lone_eq_false]
    simp [restTags, AlertBody.severity_not_lone hs]
  rw [alertValues_eq_ok, hlone]
  simp only [ingestValues, b.get_dict, except_bind_eq_ok, pure, Except.pure, Except.ok.injEq, bindAlert,
    AlertBody.encodable_dict, Bool.not_eq_true', existsAndEq, true_and, adaptStr_eq_ok_storable,
    storable_encryptStr, storable_pyStrip, adaptText_field hsource, adaptText_field hworkflow,
    adaptText_field hmetadata, adaptText_sealedField hip, adaptText_sealedField hdescription]
  simp only [and_true]
  rw [AlertRequest.bindable_iff]
  constructor
  · rintro ⟨⟨l₁, l₂⟩, t, c, ⟨l₃, src⟩, ⟨l₄, ip⟩, ⟨l₅, d⟩, ⟨l₆, wf⟩, ⟨l₇, md⟩, rfl⟩
    exact ⟨⟨l₁, l₂, l₃, l₄, l₅, l₆, l₇⟩, ⟨t, c, src, ip, d, wf, md⟩, rfl⟩
  · rintro ⟨⟨l₁, l₂, l₃, l₄, l₅, l₆, l₇⟩, ⟨t, c, src, ip, d, wf, md⟩, rfl⟩
    exact ⟨⟨l₁, l₂⟩, t, c, ⟨l₃, src⟩, ⟨l₄, ip⟩, ⟨l₅, d⟩, ⟨l₆, wf⟩, ⟨l₇, md⟩, rfl⟩

end Rows

/-! ### What a path does with a body -/

/-- The path answered normally and stored the row. -/
def Stores {ε α : Type} (now : Time) (w : World) (v : AlertValues) (r : Except ε α × World) : Prop :=
  (∃ x, r.1 = .ok x) ∧ SameRows (w.db.withAlert now v) r.2.db

/-- The path answered with an error and stored nothing. -/
def Rejects {ε α : Type} (w : World) (r : Except ε α × World) : Prop :=
  (∃ e, r.1 = .error e) ∧ SameRows w.db r.2.db

/-- The path stored this row, or rejected the body when there is none. -/
def Takes {ε α : Type} (now : Time) (w : World) : Option AlertValues → Except ε α × World → Prop
  | some v, r => Stores now w v r
  | none, r => Rejects w r

/-- The Flask REST path: `_parse_ingest_payload`, then `_insert_alert`. -/
def flaskPath (env : Env) (a : Ambient) (body : Json) : Exec World Exc Alert := do
  let (title, category, severity) ← lift (parseIngestPayload body)
  insertAlert env a body title category severity

/-- What an answer of the Go handler says. -/
def RestAnswer.result (answer : RestAnswer) : Except String AlertResponse :=
  match answer.payload with
  | .error message => .error message
  | .created resp => .ok resp

/-- The Go REST path: `makeIngestHandler` behind its key check. -/
def goRestPath (svc : Service) (a : GoAmbient) (members : List (String × Json)) (w : World) :
    Except String AlertResponse × World :=
  let answer := restIngest svc a ((decodeRestBody (.obj members)).map RestBody.alertRequest) w
  (answer.1.result, answer.2)

/-- The gRPC path: `IngestAlert` of a message with the eight texts. -/
def goGrpcPath (svc : Service) (a : GoAmbient) (texts : AlertRequest) :
    Exec World GrpcStatus AlertResponse :=
  grpcIngestAlert svc a texts.toMessage.alertRequest

/-- The Flask handler is its path between the JSON body and the answer. -/
theorem flaskIngest_of_parses {env : Env} {json : Option Json} (h : parses env json = true) (a : Ambient) (w : World) :
    flaskIngest env a json w =
      (flaskPath env a (orEmptyDict json) >>= fun row => pure ⟨201, .alert row, none⟩) w := by
  have hread : readIngest env json = parseIngestPayload (orEmptyDict json) := getJson_bind_of_parses h _
  simp only [flaskIngest, flaskPath, hread, bind_apply, lift_apply]
  cases parseIngestPayload (orEmptyDict json) with
  | error e => rfl
  | ok fields => rfl

section Paths

variable {env : Env} {a : Ambient} {b : AlertBody} {r : AlertRequest}

theorem Takes.map {ε α β : Type} {now : Time} {w : World} {v : Option AlertValues} {x : Exec World ε α}
    (f : α → β) (h : Takes now w v (x w)) : Takes now w v ((x >>= fun y => pure (f y)) w) := by
  rw [bind_apply]
  rcases hx : x w with ⟨e | y, w'⟩
  · rw [hx] at h
    cases v with
    | none => exact ⟨⟨e, rfl⟩, h.2⟩
    | some v => obtain ⟨⟨y, hy⟩, -⟩ := h; simp at hy
  · rw [hx] at h
    cases v with
    | none => obtain ⟨⟨e, he⟩, -⟩ := h; simp at he
    | some v => exact ⟨⟨f y, rfl⟩, h.2⟩

section Taken

variable {ε α β : Type} {now : Time} {w : World} {v v' : Option AlertValues} {r : Except ε α × World}

/-- A path stores one row at most. -/
theorem Takes.unique (h : Takes now w v r) (h' : Takes now w v' r) : v = v' := by
  cases v with
  | none =>
    cases v' with
    | none => rfl
    | some v' =>
      obtain ⟨⟨e, he⟩, -⟩ := h
      obtain ⟨⟨x, hx⟩, -⟩ := h'
      simp [he] at hx
  | some v =>
    cases v' with
    | none =>
      obtain ⟨⟨x, hx⟩, -⟩ := h
      obtain ⟨⟨e, he⟩, -⟩ := h'
      simp [hx] at he
    | some v' =>
      have hrows := h.2.alertRows.symm.trans h'.2.alertRows
      have hnew : w.db.newAlert now v = w.db.newAlert now v' := by
        simpa [Db.withAlert] using hrows
      have hv : v = v' := congrArg Alert.toAlertValues hnew
      rw [hv]

theorem Takes.eq_none (h : Takes now w v r) (hr : Rejects w r) : v = none :=
  h.unique (show Takes now w none r from hr)

theorem Takes.eq_some (h : Takes now w v r) {row : AlertValues} (hs : Stores now w row r) : v = some row :=
  h.unique (show Takes now w (some row) r from hs)

theorem Takes.rejects (h : Takes now w v r) {shown : AlertValues → β} (hv : v.map shown = none) : Rejects w r := by
  rw [Option.map_eq_none_iff] at hv
  subst hv
  exact h

theorem Takes.stores (h : Takes now w v r) {shown : AlertValues → β} {t : β} (hv : v.map shown = some t) :
    ∃ row, Stores now w row r ∧ shown row = t := by
  obtain ⟨row, rfl, ht⟩ := Option.map_eq_some_iff.mp hv
  exact ⟨row, h, ht⟩

end Taken

/-! ### The Python paths -/

/-- The row the Python paths store for a body, if they take it. -/
def AlertBody.pyStores (env : Env) (a : Ambient) (b : AlertBody) : Option AlertValues :=
  if !b.lone && b.texts.bindable env.fernet then b.texts.pySeverity.map (b.texts.pyRow env a) else none

theorem AlertBody.pyStores_of_refused (h : (!b.lone && b.texts.bindable env.fernet) = false) :
    b.pyStores env a = none := by
  simp [AlertBody.pyStores, h]

theorem AlertBody.pyStores_of_unparsed (h : b.texts.pySeverity = none) : b.pyStores env a = none := by
  simp [AlertBody.pyStores, h]

/-- `_insert_alert`, when nothing fails. -/
theorem insertAlert_takes (ha : ∀ c, a.fails c = false) {s : Severity} (hs : b.texts.pySeverity = some s)
    (w : World) : Takes a.now w (b.pyStores env a)
      (insertAlert env a b.dict (pyStrip b.texts.title) (pyStrip b.texts.category) s w) := by
  obtain ⟨ht, hc, -⟩ := AlertRequest.pySeverity_some hs
  cases hi : inserts env a b.dict (pyStrip b.texts.title) (pyStrip b.texts.category) s with
  | none =>
    have hb : (!b.lone && b.texts.bindable env.fernet) = false := by
      by_contra hb
      simp only [Bool.not_eq_false, Bool.and_eq_true, Bool.not_eq_true'] at hb
      have hv : alertValues env a b.dict (pyStrip b.texts.title) (pyStrip b.texts.category) s =
          .ok (b.texts.pyRow env a s) := (AlertBody.alertValues_dict hs).mpr ⟨hb.1, hb.2, rfl⟩
      simp [inserts, ha, hv, Except.toOption] at hi
    obtain ⟨e, w', hr, hsame⟩ := insertAlert_of_not_inserts hi w
    rw [hr, AlertBody.pyStores_of_refused hb]
    exact ⟨⟨e, rfl⟩, hsame.rows⟩
  | some v =>
    have hv : alertValues env a b.dict (pyStrip b.texts.title) (pyStrip b.texts.category) s = .ok v := by
      cases hx : alertValues env a b.dict (pyStrip b.texts.title) (pyStrip b.texts.category) s with
      | error e => simp [inserts, ha, hx, Except.toOption] at hi
      | ok v' => simpa [inserts, ha, hx, Except.toOption] using hi
    obtain ⟨hlone, hb, rfl⟩ := (AlertBody.alertValues_dict hs).mp hv
    have hstores : b.pyStores env a = some (b.texts.pyRow env a s) := by
      simp [AlertBody.pyStores, hlone, hb, hs]
    rw [insertAlert_of_inserts hi, hstores]
    have hf : afterFails env a b.dict (w.setDb (w.db.withAlert a.now (b.texts.pyRow env a s))) = false := by
      simp [afterFails, b.embedTextOk_dict, embedFails, publishFails, ha]
    have hsame : SameDb (w.setDb (w.db.withAlert a.now (b.texts.pyRow env a s))) _ :=
      keeps_afterInsert env a b.dict (pyStrip b.texts.title) (pyStrip b.texts.category)
        (w.db.newAlert a.now (b.texts.pyRow env a s)) _
    exact ⟨⟨_, afterInsert_ok ht hc rfl hf _⟩, hsame.rows⟩

theorem parseIngestPayload_of_some {s : Severity} (h : b.texts.pySeverity = some s) :
    parseIngestPayload b.dict = .ok (pyStrip b.texts.title, pyStrip b.texts.category, s) := by
  obtain ⟨ht, hc, hs⟩ := AlertRequest.pySeverity_some h
  simp [parseIngestPayload, b.ingestFields_dict, bind, Except.bind, pure, Except.pure, ht, hc,
    ofName_eq_some.mpr hs]

theorem parseIngestPayload_of_none (h : b.texts.pySeverity = none) :
    ∃ e, parseIngestPayload b.dict = .error e := by
  unfold AlertRequest.pySeverity at h
  simp only [parseIngestPayload, b.ingestFields_dict, bind, Except.bind]
  split_ifs at h with hne
  · exact ⟨_, if_pos hne⟩
  · rw [if_neg hne, h]
    exact ⟨_, rfl⟩

theorem parseIngestPayload_error_iff :
    (∃ e, parseIngestPayload b.dict = .error e) ↔ b.texts.pySeverity = none := by
  cases hs : b.texts.pySeverity with
  | none => simp [parseIngestPayload_of_none hs]
  | some s => simp [parseIngestPayload_of_some hs]

/-- The Flask path. -/
theorem flask_spec (env : Env) (ha : ∀ c, a.fails c = false) (b : AlertBody) (w : World) :
    Takes a.now w (b.pyStores env a) (flaskPath env a b.dict w) := by
  rw [flaskPath, bind_apply, lift_apply]
  cases hs : b.texts.pySeverity with
  | none =>
    obtain ⟨e, he⟩ := parseIngestPayload_of_none hs
    rw [he, AlertBody.pyStores_of_unparsed hs]
    exact ⟨⟨e, rfl⟩, refl _⟩
  | some s =>
    rw [parseIngestPayload_of_some hs]
    exact insertAlert_takes ha hs w

/-- The Kafka path. -/
theorem kafka_spec (env : Env) (ha : ∀ c, a.fails c = false) (b : AlertBody) (w : World) :
    Takes a.now w (b.pyStores env a) (kafkaIngest env a b.dict w) := by
  rw [kafkaIngest, bind_apply, lift_apply, b.ingestFields_dict]
  simp only
  cases hs : b.texts.pySeverity with
  | none =>
    rw [AlertBody.pyStores_of_unparsed hs]
    unfold AlertRequest.pySeverity at hs
    split_ifs at hs with hne
    · rw [if_pos hne]
      exact ⟨⟨_, rfl⟩, refl _⟩
    · rw [if_neg hne, hs]
      exact ⟨⟨_, rfl⟩, refl _⟩
  | some s =>
    obtain ⟨ht, hc, hn⟩ := AlertRequest.pySeverity_some hs
    rw [if_neg (not_or.mpr ⟨ht, hc⟩), ofName_eq_some.mpr hn]
    exact (insertAlert_takes ha hs w).map fun _ => ()

/-! ### The Go paths -/

/-- The severity of a request that `validate` lets through. -/
def AlertRequest.goSeverity (r : AlertRequest) : Option Severity :=
  if goTrimSpace r.title = "" ∨ goTrimSpace r.category = "" then none
  else Severity.ofName (goToUpper (goTrimSpace r.severity))

/-- The row `Service.Ingest` inserts for it. -/
def AlertRequest.goRow (svc : Service) (ga : GoAmbient) (r : AlertRequest) (s : Severity) : AlertValues where
  title := encryptStr svc.scheme svc.fk (ga.nonce .title) r.title
  category := r.category
  severity := s
  source := nullableStr r.source
  sourceIp := (nullableStr r.sourceIp).map (encryptStr svc.scheme svc.fk (ga.nonce .sourceIp))
  description := (nullableStr r.description).map (encryptStr svc.scheme svc.fk (ga.nonce .description))
  workflowRunId := nullableStr r.workflowRunId
  runMetadata := nullableStr r.runMetadata

def AlertRequest.goStores (svc : Service) (ga : GoAmbient) (r : AlertRequest) : Option AlertValues :=
  if r.bindable svc.fk then r.goSeverity.map (r.goRow svc ga) else none

/-- The row the REST path stores, if it takes the body. -/
def AlertBody.restStores (svc : Service) (ga : GoAmbient) (b : AlertBody) : Option AlertValues :=
  if b.decodes then b.foldedTexts.goStores svc ga else none

variable {svc : Service} {ga : GoAmbient}

theorem goRow_storable (s : Severity) : (r.goRow svc ga s).storable = r.bindable svc.fk := by
  simp only [AlertValues.storable, AlertRequest.goRow, AlertRequest.bindable, storableOpt_nullableStr,
    storable_encryptStr, storableOpt_map_encryptStr]
  cases svc.fk.isSome <;> simp [Bool.and_assoc, Bool.and_left_comm, Bool.and_comm]

theorem goSeverity_none_iff (quote : String → String) :
    r.goSeverity = none ↔ (validate quote r).isSome = true := by
  unfold AlertRequest.goSeverity validate
  by_cases hne : goTrimSpace r.title = "" ∨ goTrimSpace r.category = ""
  · simp [hne]
  · rw [if_neg hne, if_neg hne]
    cases Severity.ofName (goToUpper (goTrimSpace r.severity)) <;> simp

theorem AlertRequest.goSeverity_some {s : Severity} (h : r.goSeverity = some s) :
    r.title ≠ "" ∧ goToUpper (goTrimSpace r.severity) = s.name := by
  unfold AlertRequest.goSeverity at h
  split_ifs at h with hne
  refine ⟨fun he => hne (.inl ?_), ofName_eq_some.mp h⟩
  rw [he]
  decide

theorem goAlertValues_row (svc : Service) (r : AlertRequest) (hge : ∀ c, ga.encryptErr c = none) :
    ∃ t ip d, goAlertValues svc ga r = .ok (t, ip, d) ∧
      ∀ s, r.goSeverity = some s → SocDashboard.goRow r s t ip d = r.goRow svc ga s := by
  have henc : ∀ c s, svc.fk.encryptField svc.scheme (ga.encryptErr c) (ga.nonce c) s =
      .ok (if s = "" then "" else encryptStr svc.scheme svc.fk (ga.nonce c) s) := by
    intro c s
    rw [hge c]
    cases hfk : svc.fk <;> by_cases hs : s = "" <;>
      simp [FernetKeys.encryptField, FernetKeys.encrypt, encryptStr, hs]
  refine ⟨_, _, _, by simp only [goAlertValues, henc]; rfl, fun s hs => ?_⟩
  have ht : r.title ≠ "" := (AlertRequest.goSeverity_some hs).1
  rw [if_neg ht, SocDashboard.goRow, nullableStr_encrypt, nullableStr_encrypt]
  rfl

theorem goInserts_eq (hge : ∀ c, ga.encryptErr c = none) (hgi : ga.insertErr = none) :
    goInserts svc ga r = r.goStores svc ga := by
  obtain ⟨t, ip, d, hval, hrow⟩ := goAlertValues_row svc r hge
  unfold goInserts AlertRequest.goStores
  cases hs : r.goSeverity with
  | none => simp [(goSeverity_none_iff svc.quote).mp hs]
  | some s =>
    have hv : (validate svc.quote r).isSome = false := by
      rw [← Bool.not_eq_true, ← goSeverity_none_iff svc.quote, hs]
      simp
    have hn := ofName_eq_some.mpr (AlertRequest.goSeverity_some hs).2
    simp only [hv, hval, Except.toOption, Option.bind_some, goStored, hgi, Option.isSome_none,
      Bool.false_eq_true, if_false, hn, hrow s hs, goRow_storable, Option.map_some]

/-- `Service.Ingest`, when nothing fails. -/
theorem go_spec (svc : Service) (hge : ∀ c, ga.encryptErr c = none) (hgi : ga.insertErr = none)
    (r : AlertRequest) (w : World) : Takes ga.now w (r.goStores svc ga) (goIngest svc ga r w) := by
  rw [← goInserts_eq hge hgi]
  cases hi : goInserts svc ga r with
  | none =>
    obtain ⟨err, he⟩ := goIngest_of_not_inserts hi w
    rw [he]
    exact ⟨⟨err, rfl⟩, refl _⟩
  | some v =>
    obtain ⟨w', hok, hdb⟩ := goIngest_of_inserts hi w
    rw [hok]
    exact ⟨⟨_, rfl⟩, hdb ▸ refl _⟩

/-- The REST path. -/
theorem rest_spec (svc : Service) (hge : ∀ c, ga.encryptErr c = none) (hgi : ga.insertErr = none)
    (b : AlertBody) (w : World) : Takes ga.now w (b.restStores svc ga) (goRestPath svc ga b.members w) := by
  unfold goRestPath AlertBody.restStores
  rw [decodeRestBody_members]
  cases b.decodes with
  | false => exact ⟨⟨_, rfl⟩, refl _⟩
  | true =>
    have hgo := go_spec svc hge hgi b.foldedTexts w
    simp only [if_true, restIngest]
    rcases hrun : goIngest svc ga b.foldedTexts w with ⟨e | resp, w'⟩
    · rw [hrun] at hgo
      exact hgo
    · rw [hrun] at hgo
      exact hgo

/-- The gRPC path. -/
theorem grpc_spec (svc : Service) (hge : ∀ c, ga.encryptErr c = none) (hgi : ga.insertErr = none)
    (r : AlertRequest) (w : World) : Takes ga.now w (r.goStores svc ga) (goGrpcPath svc ga r w) := by
  have hgo := go_spec svc hge hgi r w
  unfold goGrpcPath grpcIngestAlert
  rw [alertRequest_toMessage]
  rcases hrun : goIngest svc ga r w with ⟨e | resp, w'⟩
  · rw [hrun] at hgo
    simp only
    cases hs : r.goStores svc ga with
    | some v =>
      rw [hs] at hgo
      obtain ⟨⟨x, hx⟩, -⟩ := hgo
      simp at hx
    | none =>
      rw [hs] at hgo
      split_ifs
      · exact ⟨⟨_, rfl⟩, hgo.2⟩
      · exact ⟨⟨_, rfl⟩, hgo.2⟩
  · rw [hrun] at hgo
    cases hs : r.goStores svc ga with
    | some v =>
      rw [hs] at hgo
      exact ⟨⟨resp, rfl⟩, hgo.2⟩
    | none =>
      rw [hs] at hgo
      obtain ⟨⟨x, hx⟩, -⟩ := hgo
      simp at hx

end Paths

/-! ### When they agree -/

/-- The row with its encrypted columns decrypted. -/
def AlertValues.plain (F : FernetScheme) (fernet : Option FernetKey) (v : AlertValues) : AlertValues :=
  { v with
    title := decryptStr F fernet v.title
    sourceIp := decryptField F fernet v.sourceIp
    description := decryptField F fernet v.description }

section Agreement

variable (env : Env) (svc : Service) (b : AlertBody) (r : AlertRequest)

/-- All paths reject the body and store nothing, or all store rows that are equal once
decrypted. -/
def PathsAgree (a₁ a₂ : Ambient) (g₁ g₂ : GoAmbient) (w : World) : Prop :=
  let flask := flaskPath env a₁ b.dict w
  let kafka := kafkaIngest env a₂ b.dict w
  let rest := goRestPath svc g₁ b.members w
  let grpc := goGrpcPath svc g₂ b.texts w
  (Rejects w flask ∧ Rejects w kafka ∧ Rejects w rest ∧ Rejects w grpc) ∨
    ∃ v₁ v₂ v₃ v₄, (Stores a₁.now w v₁ flask ∧ Stores a₂.now w v₂ kafka ∧ Stores g₁.now w v₃ rest ∧
      Stores g₂.now w v₄ grpc) ∧
        v₁.plain env.scheme env.fernet = v₂.plain env.scheme env.fernet ∧
          v₂.plain env.scheme env.fernet = v₃.plain svc.scheme svc.fk ∧
            v₃.plain svc.scheme svc.fk = v₄.plain svc.scheme svc.fk

/-- Title and category come stripped, and the two trimmers do the same to the severity. -/
structure AlertRequest.Stripped : Prop where
  title : pyStrip r.title = r.title
  category : pyStrip r.category = r.category
  severity : pyStrip r.severity = goTrimSpace r.severity

/-- The texts with the severity as `validate` compares it. -/
def AlertRequest.named : AlertRequest := { r with severity := goToUpper (goTrimSpace r.severity) }

/-- Nothing in the body tells the paths apart: no text has a lone surrogate, title, category and
severity come stripped, and the keys that fold to a tag bring the texts that stand under the tag. -/
structure AlertBody.Uniform : Prop where
  encodable : b.lone = false
  stripped : b.texts.Stripped
  decodes : b.decodes = true
  folded : b.foldedTexts.named = b.texts.named

/-- The texts cannot be taken by Go: `validate` rejects them, or one with a NUL is to be bound
as it is. -/
def AlertRequest.Refused : Prop := (validate svc.quote r).isSome = true ∨ r.bindable svc.fk = false

/-- No path can take the body. -/
structure AlertBody.Refused : Prop where
  python : (∃ e, parseIngestPayload b.dict = .error e) ∨ b.lone = true ∨ b.texts.bindable env.fernet = false
  rest : b.decodes = false ∨ b.foldedTexts.Refused svc
  grpc : b.texts.Refused svc

variable {env svc b r}

/-! #### What each path stores, decrypted -/

/-- The decrypted row of the Python paths. -/
def AlertRequest.pyPlain (r : AlertRequest) (s : Severity) : AlertValues :=
  ⟨pyStrip r.title, pyStrip r.category, s, nullableStr r.source, nullableStr r.sourceIp,
    nullableStr r.description, nullableStr r.workflowRunId, nullableStr r.runMetadata⟩

/-- The decrypted row of the Go paths. -/
def AlertRequest.goPlain (r : AlertRequest) (s : Severity) : AlertValues :=
  ⟨r.title, r.category, s, nullableStr r.source, nullableStr r.sourceIp, nullableStr r.description,
    nullableStr r.workflowRunId, nullableStr r.runMetadata⟩

def AlertBody.pyTaken (env : Env) (b : AlertBody) : Option AlertValues :=
  if !b.lone && b.texts.bindable env.fernet then b.texts.pySeverity.map b.texts.pyPlain else none

def AlertRequest.goTaken (svc : Service) (r : AlertRequest) : Option AlertValues :=
  if r.bindable svc.fk then r.goSeverity.map r.goPlain else none

def AlertBody.restTaken (svc : Service) (b : AlertBody) : Option AlertValues :=
  if b.decodes then b.foldedTexts.goTaken svc else none

theorem pyStores_plain (a : Ambient) :
    (b.pyStores env a).map (AlertValues.plain env.scheme env.fernet) = b.pyTaken env := by
  unfold AlertBody.pyStores AlertBody.pyTaken
  split_ifs
  · cases b.texts.pySeverity with
    | none => rfl
    | some s =>
      simp only [Option.map_some, AlertValues.plain, AlertRequest.pyRow, AlertRequest.pyPlain,
        decryptStr_encryptStr, decryptField_encryptStr]
  · rfl

theorem goStores_plain (ga : GoAmbient) :
    (r.goStores svc ga).map (AlertValues.plain svc.scheme svc.fk) = r.goTaken svc := by
  unfold AlertRequest.goStores AlertRequest.goTaken
  split_ifs
  · cases r.goSeverity with
    | none => rfl
    | some s =>
      simp only [Option.map_some, AlertValues.plain, AlertRequest.goRow, AlertRequest.goPlain,
        decryptStr_encryptStr, decryptField_encryptStr]
  · rfl

theorem restStores_plain (ga : GoAmbient) :
    (b.restStores svc ga).map (AlertValues.plain svc.scheme svc.fk) = b.restTaken svc := by
  unfold AlertBody.restStores AlertBody.restTaken
  split_ifs
  · exact goStores_plain ga
  · rfl

/-- **The paths agree when what they store does**, once decrypted. -/
theorem pathsAgree_iff_taken {a₁ a₂ : Ambient} (h₁ : ∀ c, a₁.fails c = false) (h₂ : ∀ c, a₂.fails c = false)
    {g₁ g₂ : GoAmbient} (e₁ : ∀ c, g₁.encryptErr c = none) (e₂ : ∀ c, g₂.encryptErr c = none)
    (i₁ : g₁.insertErr = none) (i₂ : g₂.insertErr = none) (w : World) :
    PathsAgree env svc b a₁ a₂ g₁ g₂ w ↔
      b.pyTaken env = b.restTaken svc ∧ b.restTaken svc = b.texts.goTaken svc := by
  have hflask := flask_spec env h₁ b w
  have hkafka := kafka_spec env h₂ b w
  have hrest := rest_spec svc e₁ i₁ b w
  have hgrpc := grpc_spec svc e₂ i₂ b.texts w
  have p₁ : _ = b.pyTaken env := pyStores_plain a₁
  have p₂ : _ = b.pyTaken env := pyStores_plain a₂
  have p₃ : _ = b.restTaken svc := restStores_plain g₁
  have p₄ : _ = b.texts.goTaken svc := goStores_plain g₂
  constructor
  · rintro (⟨r₁, r₂, r₃, r₄⟩ | ⟨v₁, v₂, v₃, v₄, ⟨s₁, s₂, s₃, s₄⟩, d₁, d₂, d₃⟩)
    · rw [← p₁, ← p₃, ← p₄, hflask.eq_none r₁, hrest.eq_none r₃, hgrpc.eq_none r₄]
      exact ⟨rfl, rfl⟩
    · rw [← p₂, ← p₃, ← p₄, hkafka.eq_some s₂, hrest.eq_some s₃, hgrpc.eq_some s₄]
      exact ⟨congrArg some d₂, congrArg some d₃⟩
  · rintro ⟨q₁, q₂⟩
    have t₃ : _ = b.texts.goTaken svc := p₃.trans q₂
    have t₁ : _ = b.texts.goTaken svc := p₁.trans (q₁.trans q₂)
    have t₂ : _ = b.texts.goTaken svc := p₂.trans (q₁.trans q₂)
    cases ht : b.texts.goTaken svc with
    | none =>
      rw [ht] at t₁ t₂ t₃ p₄
      exact .inl ⟨hflask.rejects t₁, hkafka.rejects t₂, hrest.rejects t₃, hgrpc.rejects p₄⟩
    | some v =>
      rw [ht] at t₁ t₂ t₃ p₄
      obtain ⟨v₁, s₁, d₁⟩ := hflask.stores t₁
      obtain ⟨v₂, s₂, d₂⟩ := hkafka.stores t₂
      obtain ⟨v₃, s₃, d₃⟩ := hrest.stores t₃
      obtain ⟨v₄, s₄, d₄⟩ := hgrpc.stores p₄
      exact .inr ⟨v₁, v₂, v₃, v₄, ⟨s₁, s₂, s₃, s₄⟩, d₁.trans d₂.symm, d₂.trans d₃.symm, d₃.trans d₄.symm⟩

/-! #### The texts -/

/-- What Go's severity check accepts, Python's reads as the same severity. -/
theorem severity_agrees {v : Severity} (h : goToUpper (goTrimSpace r.severity) = v.name) :
    pyStrip r.severity = goTrimSpace r.severity ∧ pyUpper (pyStrip r.severity) = v.name := by
  have hstrip : pyStrip r.severity = goTrimSpace r.severity := by
    rw [← pyStrip_goTrimSpace]
    exact pyStrip_of_goToUpper (name_letters v) h
  refine ⟨hstrip, ?_⟩
  rw [hstrip]
  exact (pyUpper_eq_goToUpper_iff (name_letters v)).mpr h

/-- On stripped texts the two validators find the same severity. -/
theorem severity_of_stripped (h : r.Stripped) : r.pySeverity = r.goSeverity := by
  have hname : Severity.ofName (pyUpper (goTrimSpace r.severity)) =
      Severity.ofName (goToUpper (goTrimSpace r.severity)) := by
    ext v
    rw [ofName_eq_some, ofName_eq_some, pyUpper_eq_goToUpper_iff (name_letters v)]
  simp only [AlertRequest.pySeverity, AlertRequest.goSeverity, h.title, h.category, h.severity,
    goTrimSpace_of_pyStrip h.title, goTrimSpace_of_pyStrip h.category, hname]

theorem nullableStr_inj {s t : String} (h : nullableStr s = nullableStr t) : s = t := by
  unfold nullableStr at h
  split_ifs at h with hs ht ht
  · rw [hs, ht]
  · exact Option.some.inj h

/-- A Go row shows its texts, the severity as it is compared. -/
theorem named_eq_of_plain {r' : AlertRequest} {s : Severity} (h : r.goSeverity = some s) (h' : r'.goSeverity = some s)
    (hrow : r.goPlain s = r'.goPlain s) : r.named = r'.named := by
  have hs : goToUpper (goTrimSpace r.severity) = goToUpper (goTrimSpace r'.severity) :=
    (AlertRequest.goSeverity_some h).2.trans (AlertRequest.goSeverity_some h').2.symm
  simp only [AlertRequest.goPlain, AlertValues.mk.injEq] at hrow
  obtain ⟨ht, hc, -, hsrc, hip, hd, hwf, hmd⟩ := hrow
  simp only [AlertRequest.named, ht, hc, hs, nullableStr_inj hsrc, nullableStr_inj hip, nullableStr_inj hd,
    nullableStr_inj hwf, nullableStr_inj hmd]

/-- ... and nothing else goes into it. -/
theorem goTaken_of_named {r' : AlertRequest} (h : r.named = r'.named) : r.goTaken svc = r'.goTaken svc := by
  simp only [AlertRequest.named, AlertRequest.mk.injEq] at h
  obtain ⟨ht, hc, hs, hsrc, hip, hd, hwf, hmd⟩ := h
  have hplain : r.goPlain = r'.goPlain := by
    funext s
    simp only [AlertRequest.goPlain, ht, hc, hsrc, hip, hd, hwf, hmd]
  have hseverity : r.goSeverity = r'.goSeverity := by
    simp only [AlertRequest.goSeverity, ht, hc, hs]
  have hbind : r.bindable svc.fk = r'.bindable svc.fk := by
    simp only [AlertRequest.bindable, ht, hc, hsrc, hip, hd, hwf, hmd]
  rw [AlertRequest.goTaken, AlertRequest.goTaken, hbind, hseverity, hplain]

theorem goTaken_eq_none : r.goTaken svc = none ↔ r.Refused svc := by
  unfold AlertRequest.goTaken AlertRequest.Refused
  rw [← goSeverity_none_iff]
  cases r.bindable svc.fk <;> simp

theorem pyTaken_eq_none : b.pyTaken env = none ↔
    (∃ e, parseIngestPayload b.dict = .error e) ∨ b.lone = true ∨ b.texts.bindable env.fernet = false := by
  unfold AlertBody.pyTaken
  rw [parseIngestPayload_error_iff]
  cases b.lone <;> cases b.texts.bindable env.fernet <;> simp

theorem restTaken_eq_none : b.restTaken svc = none ↔ b.decodes = false ∨ b.foldedTexts.Refused svc := by
  unfold AlertBody.restTaken
  cases b.decodes <;> simp [goTaken_eq_none]

/-- Equal rows come from a uniform body. -/
theorem uniform_of_taken {v : AlertValues} (hpy : b.pyTaken env = some v) (hrest : b.restTaken svc = some v)
    (hgrpc : b.texts.goTaken svc = some v) : b.Uniform := by
  unfold AlertBody.pyTaken at hpy
  split_ifs at hpy with hb
  simp only [Bool.and_eq_true, Bool.not_eq_true'] at hb
  obtain ⟨s₁, -, rfl⟩ := Option.map_eq_some_iff.mp hpy
  unfold AlertBody.restTaken at hrest
  split_ifs at hrest with hdecodes
  unfold AlertRequest.goTaken at hrest hgrpc
  split_ifs at hrest hgrpc
  obtain ⟨s₂, hs₂, hrow₂⟩ := Option.map_eq_some_iff.mp hrest
  obtain ⟨s₃, hs₃, hrow₃⟩ := Option.map_eq_some_iff.mp hgrpc
  obtain rfl : s₂ = s₃ := congrArg AlertValues.severity (hrow₂.trans hrow₃.symm)
  refine ⟨hb.1, ⟨?_, ?_, ?_⟩, hdecodes, named_eq_of_plain hs₂ hs₃ (hrow₂.trans hrow₃.symm)⟩
  · exact (congrArg AlertValues.title hrow₃).symm
  · exact (congrArg AlertValues.category hrow₃).symm
  · exact (severity_agrees (AlertRequest.goSeverity_some hs₃).2).1

/-- **Exactly when the ingest paths agree**: with one database, one key and nothing failing, on
every body whose eight fields are strings, null or absent. -/
theorem pathsAgree_iff (hk : svc.fk = env.fernet) {a₁ a₂ : Ambient} (h₁ : ∀ c, a₁.fails c = false)
    (h₂ : ∀ c, a₂.fails c = false) {g₁ g₂ : GoAmbient} (e₁ : ∀ c, g₁.encryptErr c = none)
    (e₂ : ∀ c, g₂.encryptErr c = none) (i₁ : g₁.insertErr = none) (i₂ : g₂.insertErr = none) (w : World) :
    PathsAgree env svc b a₁ a₂ g₁ g₂ w ↔ b.Uniform ∨ b.Refused env svc := by
  rw [pathsAgree_iff_taken h₁ h₂ e₁ e₂ i₁ i₂ w]
  constructor
  · rintro ⟨hpy, hrest⟩
    cases ht : b.texts.goTaken svc with
    | none =>
      rw [ht] at hrest
      rw [hrest] at hpy
      exact .inr ⟨pyTaken_eq_none.mp hpy, restTaken_eq_none.mp hrest, goTaken_eq_none.mp ht⟩
    | some v =>
      rw [ht] at hrest
      rw [hrest] at hpy
      exact .inl (uniform_of_taken hpy hrest ht)
  · rintro (h | h)
    · have hrest : b.restTaken svc = b.texts.goTaken svc := by
        rw [AlertBody.restTaken, h.decodes, if_pos rfl, goTaken_of_named h.folded]
      have hplain : b.texts.pyPlain = b.texts.goPlain := by
        funext s
        simp only [AlertRequest.pyPlain, AlertRequest.goPlain, h.stripped.title, h.stripped.category]
      refine ⟨?_, hrest⟩
      rw [hrest, AlertBody.pyTaken, AlertRequest.goTaken, h.encodable, hk, severity_of_stripped h.stripped, hplain]
      rfl
    · rw [pyTaken_eq_none.mpr h.python, restTaken_eq_none.mpr h.rest, goTaken_eq_none.mpr h.grpc]
      exact ⟨rfl, rfl⟩

end Agreement

section Example

/-- A body with a repeated key, a key of another name and a null. -/
def cleanBody : AlertBody where
  members := [("title", .str "Port scan"), ("severity", .str "low"), ("category", .str "Network"),
    ("severity", .str " high "), ("sensor", .int 7), ("description", .null)]
  fields := by decide

theorem pathsAgree_clean :
    PathsAgree exampleEnv exampleService cleanBody calm calm goCalm goCalm emptyWorld := by
  have hk : exampleService.fk = exampleEnv.fernet := rfl
  refine (pathsAgree_iff hk (fun _ => rfl) (fun _ => rfl) (fun _ => rfl) (fun _ => rfl) rfl rfl emptyWorld).mpr ?_
  exact .inl ⟨by decide, ⟨by decide, by decide, by decide⟩, by decide, by decide⟩

def untrimmedBody : AlertBody where
  members := [("title", .str " Port scan"), ("category", .str "Network"), ("severity", .str "HIGH"),
    ("description", .null)]
  fields := by decide

/-- **A title with a blank in front is stored two ways**: stripped by the Python
paths, as it came by the Go service. -/
theorem untrimmed_title_differs :
    ¬PathsAgree exampleEnv exampleService untrimmedBody calm calm goCalm goCalm emptyWorld := by
  rw [pathsAgree_iff_taken (fun _ => rfl) (fun _ => rfl) (fun _ => rfl) (fun _ => rfl) rfl rfl emptyWorld]
  rintro ⟨h, -⟩
  exact absurd h (by decide)

/-- Under another case of its key the title is no title to Python, and one to Go. -/
def titledBody : AlertBody where
  members := [("Title", .str "Port scan"), ("category", .str "Network"), ("severity", .str "HIGH")]
  fields := by decide

example : titledBody.pyTaken exampleEnv = none ∧ (titledBody.restTaken exampleService).isSome = true := by decide

end Example

end SocDashboard
