/-
# Encryption at rest

The write paths and the seeding run as one system with its history. A stored
text is sealed when it is a Fernet token of the text that was submitted for
its column, stripped where the path strips it, and not that text itself. Each
ingest path and the note path seals every column it fills, each in its own
way; seed.py inserts its texts as they are.

Key definitions: `SealedAs`, `AtRestOp`, `AtRestState`, `atRestStep`,
`AtRest`.
Key theorems: `SealedAs.of_token`, `writes_sealed`, `notes_sealed`,
`AtRest.store`, `not_atRest_seeded`, `atRest_iff`.
-/
import SocDashboard.Seed
import SocDashboard.Store

namespace SocDashboard

open Exec

/-! ### Sealed texts -/

/-- `stored` is a token of `submitted` or of its strip, and hides it. -/
structure SealedAs (F : FernetScheme) (submitted stored : String) : Prop where
  token : ∃ k n s, (s = submitted ∨ s = pyStrip submitted) ∧ stored = F.encrypt k n s.toUTF8
  hidden : stored ≠ submitted

theorem pyIsSpace_not_urlSafe (c : Char) (h : pyIsSpace c = true) : isUrlSafe c = false := by
  have hall : pySpaces.all (fun c => !isUrlSafe c) = true := by decide
  have hnot := List.all_eq_true.mp hall c (by simpa [pyIsSpace] using h)
  simpa using hnot

/-- A text that `strip` shortens has a character that no token has. -/
theorem exists_space_of_pyStrip_ne {s : String} (h : pyStrip s ≠ s) :
    ∃ c ∈ s.toList, isUrlSafe c = false := by
  by_contra hno
  refine h (Trim.trim_eq_self fun c hc hs => hno ⟨c, hc, pyIsSpace_not_urlSafe c hs⟩)

theorem SealedAs.of_token {F : FernetScheme} {submitted s : String} (k : FernetKey) (n : Nonce)
    (hs : s = submitted ∨ s = pyStrip submitted) : SealedAs F submitted (F.encrypt k n s.toUTF8) := by
  refine ⟨⟨k, n, s, hs, rfl⟩, fun he => ?_⟩
  by_cases hstrip : pyStrip submitted = submitted
  · have hsub : s = submitted := by
      rcases hs with h | h
      · exact h
      · rw [h, hstrip]
    rw [hsub] at he
    exact encrypt_ne k n submitted he
  · obtain ⟨c, hc, hbad⟩ := exists_space_of_pyStrip_ne hstrip
    rw [← he] at hc
    rw [F.token_urlSafe k n s.toUTF8 c hc] at hbad
    exact absurd hbad (by decide)

/-- A text with a space in it is sealed for nobody. -/
theorem not_sealedAs_of_space {F : FernetScheme} {submitted stored : String} (h : ' ' ∈ stored.toList) :
    ¬ SealedAs F submitted stored := by
  intro hs
  obtain ⟨k, n, s, -, htoken⟩ := hs.token
  rw [htoken] at h
  exact absurd (F.token_urlSafe k n s.toUTF8 ' ' h) (by decide)

/-! ### What was submitted -/

/-- The key of an encrypted column in a request body. -/
def Column.key : Column → String
  | .title => "title"
  | .sourceIp => "source_ip"
  | .description => "description"
  | .note => "note"

/-- The text a body submits under a key. -/
def rawText (env : Env) (body : Json) (key : String) : String :=
  match body.get key with
  | .ok (.str s) => s
  | .ok v => env.pyStr v
  | .error _ => ""

def AlertRequest.column (req : AlertRequest) : Column → String
  | .title => req.title
  | .sourceIp => req.sourceIp
  | .description => req.description
  | .note => ""

/-- The text a write path is given for a column. -/
def StoreOp.submitted (env : Env) (op : StoreOp) (c : Column) : String :=
  match op with
  | .apiIngestAlert _ _ json => rawText env (orEmptyDict json) c.key
  | .kafkaIngest _ body => rawText env body c.key
  | .goIngest _ req => req.column c
  | .apiAddNote _ _ _ json => rawText env (orEmptyDict json) c.key
  | _ => ""

inductive AtRestOp
  | store (op : StoreOp)
  | seed (a : Ambient) (plan : SeedPlan)

/-- The texts a step is given for a column. -/
def AtRestOp.Submits (env : Env) (op : AtRestOp) (c : Column) (text : String) : Prop :=
  match op with
  | .store op => text = op.submitted env c
  | .seed _ plan => ∃ d ∈ plan.draws,
      match c with
      | .title => text = d.values.title
      | .sourceIp => d.values.sourceIp = some text
      | .description => d.values.description = some text
      | .note => False

/-- The process, and the steps taken so far. -/
structure AtRestState where
  world : World
  history : List AtRestOp

def atRestStep (env : Env) (svc : Service) (s : AtRestState) (op : AtRestOp) : AtRestState where
  world :=
    match op with
    | .store op => storeStep env svc s.world op
    | .seed a plan => (seedMain a plan s.world).2
  history := s.history ++ [op]

/-- A stored text is sealed for a step that submitted it. -/
def SealedBy (env : Env) (op : AtRestOp) (c : Column) (stored : String) : Prop :=
  ∃ submitted, op.Submits env c submitted ∧ SealedAs env.scheme submitted stored

/-- The encrypted columns of an alert are sealed, for one step. -/
structure SealedAlert (env : Env) (op : AtRestOp) (v : AlertValues) : Prop where
  title : SealedBy env op .title v.title
  sourceIp : ∀ ip, v.sourceIp = some ip → SealedBy env op .sourceIp ip
  description : ∀ d, v.description = some d → SealedBy env op .description d

/-- Every text in an encrypted column is sealed for the step that wrote it. -/
structure AtRest (env : Env) (s : AtRestState) : Prop where
  alerts : ∀ row ∈ s.world.db.alerts, ∃ op ∈ s.history, SealedAlert env op row.toAlertValues
  notes : ∀ entry ∈ s.world.db.auditLog, ∀ note, entry.note = some note →
    ∃ op ∈ s.history, SealedBy env op .note note

/-! ### Each path seals what it writes -/

section Paths

variable {env : Env} {svc : Service} {k : FernetKey}

/-- `encrypt_field(FERNET, body.get(key) or None)`, bound and stored. -/
theorem encryptField_sealed (hk : env.fernet = some k) {body v : Json} {key stored : String} {n : Nonce}
    (hv : body.get key = .ok v)
    (h : adaptText env (encryptField env.scheme env.pyStr env.fernet n v.orNone) = .ok (some stored)) :
    stored = env.scheme.encrypt k n (rawText env body key).toUTF8 := by
  have hstr : ∀ s, adaptText env (.str (encryptStr env.scheme env.fernet n s)) = .ok (some stored) →
      stored = env.scheme.encrypt k n s.toUTF8 := by
    intro s hs
    simp only [adaptText] at hs
    cases ha : adaptStr (encryptStr env.scheme env.fernet n s) with
    | error e => simp [ha, Except.map] at hs
    | ok t =>
      have ht := (adaptStr_eq_ok.mp ha).2
      have hstored : t = stored := by simpa [ha, Except.map] using hs
      rw [← hstored, ← ht, hk]
      rfl
  unfold Json.orNone at h
  unfold rawText
  rw [hv]
  cases ht : v.truthy with
  | false => simp [ht, encryptField, adaptText] at h
  | true =>
    simp only [ht, if_true] at h
    cases v with
    | null => simp [encryptField, adaptText] at h
    | str s => exact hstr s h
    | lone before after => simp [encryptField, adaptText] at h
    | _ => exact hstr _ (by simpa only [encryptField, hk, Option.isSome_some, if_true] using h)

theorem alertValues_sealed (hk : env.fernet = some k) {a : Ambient} {body : Json} {title category : String}
    {severity : Severity} {v : AlertValues} (h : alertValues env a body title category severity = .ok v) :
    v.title = env.scheme.encrypt k (a.nonce .title) title.toUTF8 ∧
      (∀ ip, v.sourceIp = some ip →
        ip = env.scheme.encrypt k (a.nonce .sourceIp) (rawText env body "source_ip").toUTF8) ∧
      (∀ d, v.description = some d →
        d = env.scheme.encrypt k (a.nonce .description) (rawText env body "description").toUTF8) := by
  obtain ⟨-, args, hargs, hbind⟩ := alertValues_eq_ok.mp h
  obtain ⟨source, -, hargs⟩ := except_bind_eq_ok.mp hargs
  obtain ⟨sourceIp, hip, hargs⟩ := except_bind_eq_ok.mp hargs
  obtain ⟨description, hd, hargs⟩ := except_bind_eq_ok.mp hargs
  obtain ⟨workflowRunId, -, hargs⟩ := except_bind_eq_ok.mp hargs
  obtain ⟨runMetadata, -, hargs⟩ := except_bind_eq_ok.mp hargs
  obtain rfl := Except.ok.inj hargs
  obtain ⟨title', htitle, hbind⟩ := except_bind_eq_ok.mp hbind
  obtain ⟨category', -, hbind⟩ := except_bind_eq_ok.mp hbind
  obtain ⟨source', -, hbind⟩ := except_bind_eq_ok.mp hbind
  obtain ⟨sourceIp', hip', hbind⟩ := except_bind_eq_ok.mp hbind
  obtain ⟨description', hd', hbind⟩ := except_bind_eq_ok.mp hbind
  obtain ⟨workflowRunId', -, hbind⟩ := except_bind_eq_ok.mp hbind
  obtain ⟨runMetadata', -, hbind⟩ := except_bind_eq_ok.mp hbind
  obtain rfl := Except.ok.inj hbind
  refine ⟨?_, fun ip he => ?_, fun d he => ?_⟩
  · rw [← (adaptStr_eq_ok.mp htitle).2]
    simp only [hk, encryptStr]
  · exact encryptField_sealed hk hip (hip'.trans (congrArg _ he))
  · exact encryptField_sealed hk hd (hd'.trans (congrArg _ he))

/-- What the two Python paths write is sealed for the body. -/
theorem alertValues_sealedAlert (hk : env.fernet = some k) {a : Ambient} {body : Json}
    {title category : String} {severity : Severity} {v : AlertValues} {op : StoreOp}
    (hop : ∀ c, op.submitted env c = rawText env body c.key)
    (ht : getText body "title" = .ok title) (hne : title ≠ "")
    (h : alertValues env a body title category severity = .ok v) : SealedAlert env (.store op) v := by
  obtain ⟨htitle, hip, hd⟩ := alertValues_sealed hk h
  obtain ⟨raw, hraw, rfl⟩ := getText_eq_ok ht hne (alertValues_eq_ok.mp h).1.1
  have hsub : op.submitted env .title = raw := by
    rw [hop]
    simp [rawText, Column.key, hraw]
  refine ⟨⟨raw, hsub.symm, ?_⟩, fun ip he => ⟨_, (hop .sourceIp).symm, ?_⟩,
    fun d he => ⟨_, (hop .description).symm, ?_⟩⟩
  · rw [htitle]
    exact SealedAs.of_token k _ (Or.inr rfl)
  · rw [hip ip he]
    exact SealedAs.of_token k _ (Or.inl rfl)
  · rw [hd d he]
    exact SealedAs.of_token k _ (Or.inl rfl)

/-- The Go service's `encryptField`, of a text that is there. -/
theorem goField_sealed (hk : svc.fk = some k) (hF : svc.scheme = env.scheme) {err : Option String}
    {n : Nonce} {s t : String} (hs : s ≠ "") (h : svc.fk.encryptField svc.scheme err n s = .ok t) :
    SealedAs env.scheme s t := by
  have ht := encryptField_ok h
  rw [if_neg hs, hk, hF] at ht
  rw [ht]
  exact SealedAs.of_token k n (Or.inl rfl)

theorem goNullable_sealed (hk : svc.fk = some k) (hF : svc.scheme = env.scheme) {err : Option String}
    {n : Nonce} {s t stored : String} (h : svc.fk.encryptField svc.scheme err n s = .ok t)
    (hstored : nullableStr t = some stored) : SealedAs env.scheme s stored := by
  unfold nullableStr at hstored
  split_ifs at hstored with ht
  obtain rfl := Option.some.inj hstored
  refine goField_sealed hk hF (fun hs => ?_) h
  -- the empty text is stored as no text
  have he := encryptField_ok h
  rw [if_pos hs] at he
  exact ht he

/-- **Every ingest path seals the columns it fills.** -/
theorem writes_sealed {k' : FernetKey} (hk : env.fernet = some k) (hk' : svc.fk = some k')
    (hF : svc.scheme = env.scheme) {op : StoreOp} {v : AlertValues} (h : op.Writes env svc v) :
    SealedAlert env (.store op) v := by
  cases op with
  | apiIngestAlert a apiKey json =>
    obtain ⟨title, category, severity, ht, hne, hv⟩ := h
    exact alertValues_sealedAlert hk (fun c => rfl) ht hne hv
  | kafkaIngest a body =>
    obtain ⟨title, category, severity, ht, hne, hv⟩ := h
    exact alertValues_sealedAlert hk (fun c => rfl) ht hne hv
  | goIngest a req =>
    obtain ⟨title, sourceIp, description, severity, hne, hval, rfl⟩ := h
    obtain ⟨ht, hip, hd⟩ := goAlertValues_ok hval
    exact ⟨⟨req.title, rfl, goField_sealed hk' hF hne ht⟩,
      fun ip he => ⟨req.sourceIp, rfl, goNullable_sealed hk' hF hip he⟩,
      fun d he => ⟨req.description, rfl, goNullable_sealed hk' hF hd he⟩⟩
  | _ => exact absurd h id

/-- The note path does too. -/
theorem notes_sealed (hk : env.fernet = some k) {op : StoreOp} {text : String} (h : op.Notes env text) :
    SealedBy env (.store op) .note text := by
  cases op with
  | apiAddNote a session alertId json =>
    obtain ⟨note, hn, henc, hne, rfl⟩ := h
    obtain ⟨raw, hraw, rfl⟩ := getText_eq_ok hn hne henc
    refine ⟨raw, ?_, ?_⟩
    · simp [AtRestOp.Submits, StoreOp.submitted, rawText, Column.key, hraw]
    · rw [hk]
      exact SealedAs.of_token k _ (Or.inr rfl)
  | _ => exact absurd h id

end Paths

/-! ### What a step does to what is at rest -/

section Steps

variable {env : Env} {svc : Service} {k k' : FernetKey} {s : AtRestState}

/-- What is sealed stays sealed as the history grows. -/
theorem AtRest.frame (h : AtRest env s) {w : World} {op : AtRestOp}
    (halerts : ∀ row ∈ w.db.alerts, (∃ row₀ ∈ s.world.db.alerts, row₀.toAlertValues = row.toAlertValues) ∨
      SealedAlert env op row.toAlertValues)
    (hnotes : ∀ entry ∈ w.db.auditLog, ∀ note, entry.note = some note →
      entry ∈ s.world.db.auditLog ∨ SealedBy env op .note note) :
    AtRest env ⟨w, s.history ++ [op]⟩ where
  alerts := by
    intro row hrow
    rcases halerts row hrow with ⟨row₀, hmem, heq⟩ | hnew
    · obtain ⟨op₀, hop₀, hsealed⟩ := h.alerts row₀ hmem
      rw [heq] at hsealed
      exact ⟨op₀, List.mem_append_left _ hop₀, hsealed⟩
    · exact ⟨op, List.mem_append_right _ (List.mem_singleton.mpr rfl), hnew⟩
  notes := by
    intro entry hentry note hnote
    rcases hnotes entry hentry note hnote with hold | hnew
    · obtain ⟨op₀, hop₀, hsealed⟩ := h.notes entry hold note hnote
      exact ⟨op₀, List.mem_append_left _ hop₀, hsealed⟩
    · exact ⟨op, List.mem_append_right _ (List.mem_singleton.mpr rfl), hnew⟩

/-- **A write path keeps everything sealed.** -/
theorem AtRest.store (hk : env.fernet = some k) (hk' : svc.fk = some k') (hF : svc.scheme = env.scheme)
    (h : AtRest env s) (op : StoreOp) : AtRest env (atRestStep env svc s (.store op)) := by
  have hstep := (storeStep_does env svc s.world op).rows
  refine h.frame (fun row hrow => ?_) fun entry hentry note hnote => ?_
  · exact (hstep.values row hrow).imp_right fun hv => writes_sealed hk hk' hF hv
  · exact (hstep.entries entry hentry).imp_right fun hnew => notes_sealed hk (hnew.note note hnote)

variable (svc) in
/-- **A seeding run that commits leaves plaintext.** -/
theorem not_atRest_seeded {a : Ambient} {plan : SeedPlan} (h : seeds a plan = true) :
    ¬ AtRest env (atRestStep env svc s (.seed a plan)) := by
  intro hrest
  have hdb : (atRestStep env svc s (.seed a plan)).world.db = s.world.db.seeded plan := by
    show (seedMain a plan s.world).2.db = _
    rw [seedMain_snd, h]
    rfl
  have hlen := plan.length
  obtain ⟨d, draws, hdraws⟩ := List.exists_cons_of_length_pos (l := plan.draws) (by omega)
  have hd : d ∈ plan.draws := by rw [hdraws]; exact List.mem_cons_self
  have hmem : d.values ∈ (s.world.db.seeded plan).alerts.map Alert.toAlertValues := by
    rw [seeded_values]
    exact List.mem_map_of_mem hd
  obtain ⟨row, hrow, hvalues⟩ := List.mem_map.mp hmem
  rw [← hdb] at hrow
  obtain ⟨op, -, hsealed⟩ := hrest.alerts row hrow
  obtain ⟨submitted, -, has⟩ := hsealed.title
  rw [hvalues] at has
  exact not_sealedAs_of_space (seeded_title_space hd) has

/-- The step is not a seeding run that commits. -/
def NoSeed (_ : AtRestState) : AtRestOp → Prop
  | .store _ => True
  | .seed a plan => seeds a plan = false

theorem atRest_step_iff (hk : env.fernet = some k) (hk' : svc.fk = some k') (hF : svc.scheme = env.scheme)
    (op : AtRestOp) (h : AtRest env s) : AtRest env (atRestStep env svc s op) ↔ NoSeed s op := by
  cases op with
  | store op => exact iff_of_true (h.store hk hk' hF op) trivial
  | seed a plan =>
    cases hs : seeds a plan with
    | true => exact iff_of_false (not_atRest_seeded svc hs) (by simp [NoSeed, hs])
    | false =>
      have hw : (seedMain a plan s.world).2 = s.world := by
        rw [seedMain_snd, hs]
        rfl
      refine iff_of_true ?_ hs
      have hframe : AtRest env ⟨s.world, s.history ++ [.seed a plan]⟩ :=
        h.frame (fun row hrow => Or.inl ⟨row, hrow, rfl⟩) fun entry he _ _ => Or.inl he
      rwa [atRestStep, hw]

end Steps

/-! ### Runs -/

/-- Freshly created tables. -/
def AtRestState.start (w : World) : AtRestState := ⟨w.setDb (applySchema none), []⟩

theorem atRest_start (env : Env) (w : World) : AtRest env (AtRestState.start w) where
  alerts := by simp [AtRestState.start, applySchema, emptyTables]
  notes := by simp [AtRestState.start, applySchema, emptyTables]

/-- **When everything at rest is encrypted.** With a key set for both processes, every state of
a run from empty tables has its encrypted columns sealed exactly when no seeding run commits. -/
theorem atRest_iff (env : Env) (svc : Service) (k k' : FernetKey) (hk : env.fernet = some k)
    (hk' : svc.fk = some k') (hF : svc.scheme = env.scheme) (w : World) (ops : List AtRestOp) :
    Runs.Always (atRestStep env svc) (AtRest env) (AtRestState.start w) ops ↔
      Runs.EachStep (atRestStep env svc) NoSeed (AtRestState.start w) ops :=
  Runs.always_iff_eachStep (atRestStep env svc) (J := fun _ => True) (fun _ _ _ => trivial)
    (fun _ op _ h => atRest_step_iff hk hk' hF op h) ops (AtRestState.start w) trivial (atRest_start env w)

/-! ### A run with the seeding run -/

def keyedEnv : Env := { exampleEnv with fernet := some zeroKey }

def keyedService : Service := ⟨spelledScheme, some zeroKey, "test-key", false, id⟩

/-- A detector's alert. -/
def keyedIngest : AtRestOp :=
  .store (.kafkaIngest calm
    (.obj [("title", .str "Port scan"), ("category", .str "port_scan"), ("severity", .str "HIGH")]))

theorem atRest_keyedIngest :
    Runs.Always (atRestStep keyedEnv keyedService) (AtRest keyedEnv) (AtRestState.start emptyWorld)
      [keyedIngest] :=
  (atRest_iff keyedEnv keyedService zeroKey zeroKey rfl rfl rfl emptyWorld [keyedIngest]).mpr
    ⟨trivial, trivial⟩

/-- The seeding run before the app starts. -/
theorem seed_leaves_plaintext :
    keyedEnv.fernet = some zeroKey ∧ keyedService.fk = some zeroKey ∧
      ¬ AtRest keyedEnv (Runs.run (atRestStep keyedEnv keyedService) (AtRestState.start emptyWorld)
        [.seed calm firstPlan]) :=
  ⟨rfl, rfl, not_atRest_seeded keyedService (by decide)⟩

end SocDashboard
