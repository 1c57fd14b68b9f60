/-
# Encryption is transparent

A deployment without an encryption key and one that is given a key somewhere on
the way answer every request alike. The handlers are compared statement by
statement: what the second stores is shown as what the first stores, and every
answer is made of what is shown.

Key definitions: `PlainIngest`, `PlainNote`, `Op`, `opStep`, `responses`.
Key theorems: `simulates_insertAlert`, `simulates_classifyView`,
`simulates_serve`, `responses_eq`.
-/
import SocDashboard.Lib.Runs
import SocDashboard.ReadsShown

namespace SocDashboard

open Exec

/-- A value of a field that is encrypted: nothing, or a plain text. -/
def PlainField (env : Env) (K : FernetKey) (v : Json) : Prop :=
  v.truthy = true → ∃ s, v = .str s ∧ PlainText env K s

/-- An alert to ingest: title, address and description are texts or nothing, and plain. -/
structure PlainIngest (env : Env) (K : FernetKey) (body : Json) : Prop where
  title : ∀ s, getText body "title" = .ok s → s ≠ "" → PlainText env K s
  sourceIp : ∀ v, body.get "source_ip" = .ok v → PlainField env K v
  description : ∀ v, body.get "description" = .ok v → PlainField env K v

/-- A note that is a plain text. -/
def PlainNote (env : Env) (K : FernetKey) (body : Json) : Prop :=
  ∀ s, getText body "note" = .ok s → s ≠ "" → PlainText env K s

section Handlers

variable {env : Env} {K : FernetKey} {p : KeyPhase}

/-! ### Ingest -/

/-- A bound field that is nothing or a plain text. -/
theorem adaptText_encryptField {v : Json} (h : PlainField env K v) (n : Nonce) :
    SameEnd (Shown env K p fun e => decryptField e.scheme e.fernet)
      (adaptText (env.withKey none) (encryptField env.scheme env.pyStr none n v.orNone))
      (adaptText (env.withKey (p.key K)) (encryptField env.scheme env.pyStr (p.key K) n v.orNone)) := by
  by_cases hv : v.truthy = true
  · obtain ⟨s, rfl, hs⟩ := h hv
    rw [Json.orNone, if_pos hv]
    simp only [adaptText, encryptField]
    have hend := adaptStr_encryptStr (p := p) hs n
    rw [encryptStr]
    generalize adaptStr (encryptStr env.scheme (p.key K) n s) = y at hend ⊢
    generalize adaptStr s = x at hend ⊢
    cases hend with
    | ok hshown => exact .ok fun f hf => congrArg some (hshown f hf)
    | error e => exact .error e
  · rw [Json.orNone, if_neg hv]
    exact .ok fun f _ => rfl

theorem adaptText_same (v : Json) : SameEnd Eq (adaptText (env.withKey none) v) (adaptText (env.withKey (p.key K)) v) := by
  cases v <;> exact SameEnd.refl _

/-- **The row an ingest stores** is shown as the row stored without a key. -/
theorem alertValues_sameEnd {a : Ambient} {body : Json} {title category : String} {severity : Severity}
    (ht : PlainText env K title) (h : PlainIngest env K body) :
    SameEnd (Shown env K p decryptValues) (alertValues (env.withKey none) a body title category severity)
      (alertValues (env.withKey (p.key K)) a body title category severity) := by
  cases body with
  | obj fields =>
    have hip := h.sourceIp _ rfl
    have hdesc := h.description _ rfl
    refine SameEnd.bind (SameEnd.refl (encodes (.obj fields) "title")) fun _ _ _ => ?_
    refine SameEnd.bind (SameEnd.refl (encodes (.obj fields) "category")) fun _ _ _ => ?_
    show SameEnd _ (bindAlert (env.withKey none) _) (bindAlert (env.withKey (p.key K)) _)
    refine SameEnd.bind (adaptStr_encryptStr ht (a.nonce .title)) fun t t' hshown => ?_
    refine SameEnd.bind (SameEnd.refl (adaptStr category)) fun c c' hc => ?_
    refine SameEnd.bind (adaptText_same _) fun src src' hsrc => ?_
    refine SameEnd.bind (adaptText_encryptField hip (a.nonce .sourceIp)) fun ip ip' hshownIp => ?_
    refine SameEnd.bind (adaptText_encryptField hdesc (a.nonce .description)) fun d d' hshownDesc => ?_
    refine SameEnd.bind (adaptText_same _) fun wf wf' hwf => ?_
    refine SameEnd.bind (adaptText_same _) fun md md' hmd => ?_
    subst hc hsrc hwf hmd
    refine .ok fun f hf => ?_
    rw [← hshown f hf, ← hshownIp f hf, ← hshownDesc f hf]
    rfl
  | _ => exact .error _

/-- An alert that was stored, then answered. -/
theorem shown_answer {row row' : Alert} (h : Shown env K p decryptAlert row row') :
    decryptAlert (env.withKey none) row = decryptAlert (env.withKey (p.key K)) row' := by
  rw [decryptAlert_none, h.now]

theorem simulates_storeEmbedding (a : Ambient) (alertId : ℕ) (text : String) :
    Simulates (ShownWorld env K p) Eq (storeEmbedding (env.withKey none) a alertId text)
      (storeEmbedding (env.withKey (p.key K)) a alertId text) := by
  have hembed : Simulates (ShownWorld env K p) Eq (embedText (env.withKey none) a text)
      (embedText (env.withKey (p.key K)) a text) := by
    refine Simulates.bind (simulates_getEmbeddingModel a) fun b b' hb => ?_
    subst hb
    exact Simulates.ite (fun _ => Simulates.attempt (Simulates.pure rfl)) fun _ => Simulates.pure rfl
  refine Simulates.bind hembed fun vec vec' hvec => ?_
  subst hvec
  cases vec with
  | none => exact Simulates.pure rfl
  | some vec =>
    exact Simulates.catching
      (simulates_withConn a .embedding (Simulates.attempt (simulates_upsertEmbedding alertId vec)))
      fun _ => Simulates.pure rfl

/-- **`_insert_alert` answers alike.** -/
theorem simulates_insertAlert {a : Ambient} {body : Json} {title category : String} {severity : Severity}
    (ht : PlainText env K title) (h : PlainIngest env K body) :
    Simulates (ShownWorld env K p) Eq (insertAlert (env.withKey none) a body title category severity)
      (insertAlert (env.withKey (p.key K)) a body title category severity) := by
  have hblock : Simulates (ShownDb env K p) (Shown env K p decryptAlert)
      (insertAlertBlock (env.withKey none) a body title category severity)
      (insertAlertBlock (env.withKey (p.key K)) a body title category severity) :=
    Simulates.bind (Simulates.lift (alertValues_sameEnd ht h)) fun v v' hv =>
      Simulates.attempt (simulates_insertAlertRow a.now hv)
  refine Simulates.bind (simulates_withConn a .main hblock) fun row row' hrow => ?_
  refine Simulates.lift_bind fun text _ => ?_
  have hid : row.id = row'.id := by rw [← hrow.now]; rfl
  rw [hid, shown_answer hrow]
  refine Simulates.bind (simulates_storeEmbedding a row'.id text) fun _ _ _ => ?_
  exact Simulates.bind (simulates_ssePublish none (p.key K) a _) fun _ _ _ => Simulates.pure rfl

theorem simulates_apiIngestAlert (a : Ambient) (apiKey : Option String) (json : Option Json)
    (h : PlainIngest env K (orEmptyDict json)) :
    Simulates (ShownWorld env K p) Eq (apiIngestAlert (env.withKey none) a apiKey json)
      (apiIngestAlert (env.withKey (p.key K)) a apiKey json) := by
  refine Simulates.bind (Simulates.lift (SameEnd.refl (validApiKey env apiKey))) fun valid valid' hv => ?_
  subst hv
  cases valid with
  | false => exact Simulates.pure rfl
  | true =>
    refine Simulates.lift_bind fun (title, category, severity) hparse => ?_
    obtain ⟨hne, -, -, htitle⟩ := parseIngestPayload_eq_ok (readIngest_eq_ok.mp hparse).2
    refine Simulates.bind (simulates_insertAlert (h.title title htitle hne) h) fun row row' hrow => ?_
    exact Simulates.pure (by rw [hrow])

theorem simulates_kafkaIngest (a : Ambient) (body : Json) (h : PlainIngest env K body) :
    Simulates (ShownWorld env K p) Eq (kafkaIngest (env.withKey none) a body)
      (kafkaIngest (env.withKey (p.key K)) a body) := by
  refine Simulates.lift_bind fun (title, category, severity) hfields => ?_
  refine Simulates.ite (fun _ => Simulates.raise _) fun hblank => ?_
  rw [not_or] at hblank
  cases Severity.ofName severity with
  | none => exact Simulates.raise _
  | some s =>
    have ht := h.title title (ingestFields_title hfields) hblank.1
    exact Simulates.bind (simulates_insertAlert ht h) fun _ _ _ => Simulates.pure rfl

/-! ### Triage -/

theorem simulates_classifyView (a : Ambient) (user : User) (alertId : ℕ) (json : Option Json) :
    Simulates (ShownWorld env K p) Eq (classifyView (env.withKey none) a user alertId json)
      (classifyView (env.withKey (p.key K)) a user alertId json) := by
  refine Simulates.lift_bind fun (analystName, action) _ => ?_
  have hblock : Simulates (ShownDb env K p) Eq
      (classifyBlock (env.withKey none) a user (orEmptyDict json) alertId analystName action)
      (classifyBlock (env.withKey (p.key K)) a user (orEmptyDict json) alertId analystName action) := by
    refine Simulates.bind (Simulates.attempt (simulates_selectAlert alertId)) fun found found' hf => ?_
    rcases hf.option with ⟨rfl, rfl⟩ | ⟨alert, alert', rfl, rfl, hal⟩
    · exact Simulates.raise _
    · obtain rfl := hal.now
      refine Simulates.ite (fun _ => Simulates.raise _) fun _ => ?_
      refine Simulates.lift_bind fun name _ => ?_
      refine Simulates.bind (Simulates.attempt (simulates_updateAlert alertId _ name)) fun got got' hg => ?_
      rcases hg.option with ⟨rfl, rfl⟩ | ⟨row, row', rfl, rfl, hrow⟩
      · exact Simulates.raise _
      · refine Simulates.bind (Simulates.attempt (simulates_insertAction a.now alertId name action _)) fun _ _ _ => ?_
        refine Simulates.bind (Simulates.attempt (simulates_insertAudit a.now alertId user.id user.username
          (.triage action) _ _ fun _ _ => rfl)) fun _ _ _ => ?_
        exact Simulates.pure (shown_answer hrow)
  refine Simulates.bind (simulates_withConn a .main hblock) fun row row' hrow => ?_
  subst hrow
  exact Simulates.bind (simulates_ssePublish none (p.key K) a _) fun _ _ _ => Simulates.pure rfl

theorem simulates_noteView (a : Ambient) (user : User) (alertId : ℕ) (json : Option Json)
    (h : PlainNote env K (orEmptyDict json)) :
    Simulates (ShownWorld env K p) Eq (noteView (env.withKey none) a user alertId json)
      (noteView (env.withKey (p.key K)) a user alertId json) := by
  refine Simulates.lift_bind fun note hnote => ?_
  refine Simulates.ite (fun _ => Simulates.raise _) fun hne => ?_
  have hblock : Simulates (ShownDb env K p) (Shown env K p decryptEntry)
      (noteBlock (env.withKey none) a user (orEmptyDict json) alertId note)
      (noteBlock (env.withKey (p.key K)) a user (orEmptyDict json) alertId note) := by
    refine Simulates.bind (Simulates.attempt (simulates_selectAlert alertId)) fun found found' hf => ?_
    rcases hf.option with ⟨rfl, rfl⟩ | ⟨alert, alert', rfl, rfl, hal⟩
    · exact Simulates.raise _
    · obtain rfl := hal.now
      have hplain : PlainText env K note := h note (readNote_eq_ok.mp hnote).2 hne
      have hbound : SameEnd (Shown env K p fun e => decryptStr e.scheme e.fernet)
          (adaptKey (orEmptyDict json) "note" note)
          (adaptKey (orEmptyDict json) "note" (encryptStr env.scheme (p.key K) (a.nonce .note) note)) :=
        SameEnd.bind (SameEnd.refl _) fun _ _ _ => adaptStr_encryptStr hplain (a.nonce .note)
      refine Simulates.bind (Simulates.lift hbound) fun text text' htext => ?_
      exact Simulates.attempt (simulates_insertAudit a.now alertId user.id user.username .noteAdded _ _
        fun f hf => congrArg some (htext f hf))
  refine Simulates.bind (simulates_withConn a .main hblock) fun row row' hrow => ?_
  obtain rfl := hrow.now
  exact Simulates.pure rfl

theorem simulates_purgeOldAlerts (a : Ambient) (days : ℤ) :
    Simulates (ShownWorld env K p) Eq (purgeOldAlerts a days) (purgeOldAlerts a days) :=
  Simulates.ite (fun _ => Simulates.pure rfl) fun _ =>
    simulates_withConn a .main (Simulates.attempt (simulates_deleteAlertsBefore _))

theorem simulates_createInLocal (a : Ambient) (username pwHash : String) (role : Role) :
    Simulates (ShownWorld env K p) Eq (createInLocal a username pwHash role)
      (createInLocal a username pwHash role) := by
  refine simulates_withConn a .main (Simulates.lift_bind fun name _ => ?_)
  refine Simulates.bind (Simulates.attempt (simulates_users fun users => users.any fun u => u.username = name))
    fun found found' hf => ?_
  subst hf
  refine Simulates.ite (fun _ => Simulates.pure rfl) fun _ => ?_
  exact Simulates.bind (Simulates.attempt (simulates_insertUser name pwHash role)) fun _ _ _ => Simulates.pure rfl

/-! ### Requests -/

theorem simulates_selects (site : Site) (a : Ambient) (ra : ReadAmbient) (req : Request) :
    Simulates (ShownWorld env K p) Eq (selects (reads site (env.withKey none) a ra) a req)
      (selects (reads site (env.withKey (p.key K)) a ra) a req) := by
  have hreads := reads_shown site (env.withKey (p.key K)) a ra req
  refine Simulates.bind (Simulates.lift hreads) fun q q' hq => ?_
  refine Simulates.bind (simulates_withConn a .main (Simulates.attempt (Simulates.gets fun db db' hdb => ?_)))
    fun answer answer' (he : answer = answer') => ?_
  · rw [← hdb.now]
    exact hq db'
  · rw [he]
    exact Simulates.lift (SameEnd.refl answer')

theorem simulates_login (a : Ambient) (req : Request) :
    Simulates (ShownWorld env K p) Eq (login (env.withKey none) a req) (login (env.withKey (p.key K)) a req) := by
  refine Simulates.ite (fun _ => ?_) fun _ => Simulates.pure rfl
  refine Simulates.lift_bind fun name _ => ?_
  refine Simulates.bind (simulates_withConn a .main (Simulates.attempt
    (simulates_users fun users => users.find? fun u => u.username = name))) fun row row' hrow => ?_
  subst hrow
  cases row with
  | none => exact Simulates.pure rfl
  | some u =>
    refine Simulates.lift_bind (x := env.checkpw _ u.passwordHash) fun fits _ => ?_
    exact Simulates.ite (fun _ => Simulates.pure rfl) fun _ => Simulates.pure rfl

theorem simulates_approveView (a : Ambient) (req : Request) (user : User) (workflowRunId : String) :
    Simulates (ShownWorld env K p) Eq (approveView (env.withKey none) a req user workflowRunId)
      (approveView (env.withKey (p.key K)) a req user workflowRunId) := by
  refine Simulates.ite (fun _ => Simulates.pure rfl) fun _ => ?_
  refine Simulates.ite (fun _ => Simulates.pure rfl) fun _ => ?_
  refine Simulates.lift_bind fun note _ => ?_
  refine Simulates.catching ?_ fun _ => Simulates.pure rfl
  refine Simulates.bind (Simulates.attempt (Simulates.pure rfl)) fun _ _ _ => ?_
  refine Simulates.bind (simulates_beside fun _ _ => rfl) fun _ _ _ => ?_
  exact Simulates.bind (Simulates.attempt (Simulates.pure rfl)) fun _ _ _ => Simulates.pure rfl

/-- What a request carries for an encrypted column is plain. -/
structure PlainRequest (env : Env) (K : FernetKey) (req : Request) : Prop where
  ingest : req.method = .post → req.endpoint = .alerts → PlainIngest env K (orEmptyDict req.json)
  note : ∀ alertId, req.endpoint = .notes alertId → PlainNote env K (orEmptyDict req.json)

/-- **Every request is answered alike.** -/
theorem simulates_serve (site : Site) (a : Ambient) (ra : ReadAmbient) (req : Request)
    (h : PlainRequest env K req) :
    Simulates (ShownWorld env K p) Eq
      (serve (env.withKey none) (reads site (env.withKey none) a ra) a req)
      (serve (env.withKey (p.key K)) (reads site (env.withKey (p.key K)) a ra) a req) := by
  have hselects : Simulates (ShownWorld env K p) Eq
      (loginRequired a req.session fun _ => selects (reads site (env.withKey none) a ra) a req)
      (loginRequired a req.session fun _ => selects (reads site (env.withKey (p.key K)) a ra) a req) :=
    simulates_loginRequired a req.session fun _ => simulates_selects site a ra req
  have hview : Simulates (ShownWorld env K p) Eq
      (view (env.withKey none) (reads site (env.withKey none) a ra) a req)
      (view (env.withKey (p.key K)) (reads site (env.withKey (p.key K)) a ra) a req) := by
    unfold view
    cases he : req.endpoint with
    | login => exact simulates_login a req
    | logout => exact simulates_loginRequired a req.session fun _ => Simulates.pure rfl
    | dashboard => exact simulates_loginRequired a req.session fun _ => Simulates.pure rfl
    | analyst => exact simulates_loginRequired a req.session fun _ => Simulates.pure rfl
    | alerts =>
      refine Simulates.ite (fun hpost => ?_) fun _ => hselects
      exact simulates_apiIngestAlert a req.apiKey req.json (h.ingest hpost he)
    | allAlerts => exact hselects
    | similar alertId =>
      refine simulates_loginRequired a req.session fun _ => ?_
      refine Simulates.bind (simulates_getsBeside fun _ _ => rfl) fun m m' hm => ?_
      subst hm
      refine Simulates.ite (fun _ => Simulates.pure rfl) fun _ => ?_
      exact Simulates.catching (simulates_selects site a ra req) fun _ => Simulates.pure rfl
    | classify alertId =>
      exact simulates_loginRequired a req.session fun user =>
        simulates_requireRole _ user (simulates_classifyView a user alertId req.json)
    | stats => exact hselects
    | audit alertId => exact hselects
    | auditPage =>
      exact simulates_loginRequired a req.session fun user =>
        simulates_requireRole _ user (simulates_selects site a ra req)
    | notes alertId =>
      exact simulates_loginRequired a req.session fun user =>
        simulates_requireRole _ user (simulates_noteView a user alertId req.json (h.note alertId he))
    | approve workflowRunId =>
      exact simulates_loginRequired a req.session fun user => simulates_approveView a req user workflowRunId
    | navigatorLayer => exact hselects
    | stream =>
      refine simulates_loginRequired a req.session fun _ => ?_
      refine Simulates.bind (Simulates.ite (fun _ => Simulates.pure rfl) fun _ => ?_) fun _ _ _ => Simulates.pure rfl
      exact simulates_beside fun _ _ => rfl
    | static filename =>
      refine Simulates.bind (Simulates.lift (reads_shown site (env.withKey (p.key K)) a ra req)) fun q q' hq => ?_
      have hdb : Simulates (ShownWorld env K p) (ShownDb env K p) (gets World.db : Exec World Exc Db)
          (gets World.db) := Simulates.gets fun w w' hw f hf => congrArg World.db (hw f hf)
      refine Simulates.bind hdb fun db db' hdb => Simulates.lift ?_
      rw [← hdb.now, hq db']
      exact SameEnd.refl _
    | unknown => exact Simulates.raise _
  refine Simulates.ite (fun _ => Simulates.raise _) fun _ => ?_
  refine Simulates.ite (fun _ => Simulates.pure rfl) fun _ => ?_
  refine Simulates.ite (fun _ => Simulates.raise _) fun _ => ?_
  cases req.csrfProtected <;> cases req.csrfError
  · exact hview
  · exact hview
  · exact hview
  · exact Simulates.raise _

end Handlers

/-! ### Sequences -/

/-- What happens to a deployment. -/
inductive Op
  | http (req : Request)
  | kafkaIngest (body : Json)
  | purge (days : ℤ)
  | createUser (username pwHash : String) (role : Role)
  | restart

/-- An operation with what it meets: clock, nonces, failing calls, row orders. -/
structure Moment where
  op : Op
  a : Ambient
  ra : ReadAmbient

/-- An operation: the answer, if it was a request, and what is left. -/
def opStep (site : Site) (env : Env) (w : World) (m : Moment) : Option Response × World :=
  match m.op with
  | .http req =>
    let (response, w') := respond (serve env (reads site env m.a m.ra) m.a req) w
    (some response, w')
  | .kafkaIngest body => (none, (kafkaIngest env m.a body w).2)
  | .purge days => (none, (purgeOldAlerts m.a days w).2)
  | .createUser username pwHash role => (none, (createInLocal m.a username pwHash role w).2)
  | .restart => (none, { w with embeddingModel := .notLoaded, sseSubscribers := [] })

/-- The answers of a sequence, in order. -/
def responses (site : Site) (env : Env) : World → List Moment → List Response
  | _, [] => []
  | w, m :: ms => (opStep site env w m).1.toList ++ responses site env (opStep site env w m).2 ms

/-- What a sequence leaves. -/
def worldAfter (site : Site) (env : Env) : World → List Moment → World :=
  Runs.run fun w m => (opStep site env w m).2

/-- What an operation carries for an encrypted column is plain. -/
def Op.Plain (env : Env) (K : FernetKey) : Op → Prop
  | .http req => PlainRequest env K req
  | .kafkaIngest body => PlainIngest env K body
  | _ => True

section Sequences

variable (site : Site) {env : Env} {K : FernetKey} {p : KeyPhase}

/-- **Every operation is answered alike** and leaves what is shown alike. -/
theorem opStep_shown {m : Moment} (hm : m.op.Plain env K) {w w' : World} (h : ShownWorld env K p w w') :
    (opStep site (env.withKey none) w m).1 = (opStep site (env.withKey (p.key K)) w' m).1 ∧
      ShownWorld env K p (opStep site (env.withKey none) w m).2 (opStep site (env.withKey (p.key K)) w' m).2 := by
  obtain ⟨op, a, ra⟩ := m
  cases op with
  | http req =>
    simp only [opStep, respond]
    rcases (simulates_serve site a ra req hm).ends h with
      ⟨response, response', v, v', hx, hy, rfl, hworld⟩ | ⟨e, v, v', hx, hy, hworld⟩
    · rw [hx, hy]
      exact ⟨rfl, hworld⟩
    · rw [hx, hy]
      exact ⟨rfl, hworld⟩
  | kafkaIngest body => exact ⟨rfl, (simulates_kafkaIngest a body hm w w' h).2⟩
  | purge days => exact ⟨rfl, (simulates_purgeOldAlerts a days w w' h).2⟩
  | createUser username pwHash role => exact ⟨rfl, (simulates_createInLocal a username pwHash role w w' h).2⟩
  | restart =>
    refine ⟨rfl, fun f hf => ?_⟩
    rw [← h f hf]
    rfl

/-- A sequence is answered alike in one phase. -/
theorem responses_shown : ∀ (ms : List Moment) {w w' : World}, (∀ m ∈ ms, m.op.Plain env K) →
    ShownWorld env K p w w' →
      responses site (env.withKey none) w ms = responses site (env.withKey (p.key K)) w' ms ∧
        ShownWorld env K p (worldAfter site (env.withKey none) w ms)
          (worldAfter site (env.withKey (p.key K)) w' ms)
  | [], _, _, _, h => ⟨rfl, h⟩
  | m :: ms, w, w', hms, h => by
    obtain ⟨hresponse, hworld⟩ := opStep_shown site (hms m List.mem_cons_self) h
    obtain ⟨hrest, hend⟩ := responses_shown ms (fun x hx => hms x (List.mem_cons_of_mem m hx)) hworld
    exact ⟨by rw [responses, responses, hresponse, hrest], hend⟩

theorem responses_append (e : Env) : ∀ (before after : List Moment) (w : World),
    responses site e w (before ++ after) =
      responses site e w before ++ responses site e (worldAfter site e w before) after
  | [], _, _ => rfl
  | m :: before, after, w => by
    rw [List.cons_append, responses, responses, responses_append e before after, List.append_assoc]
    rfl

/-- **Encryption is transparent to every response.** From a state without tokens
under `K`, a sequence is answered without a key as it is answered when the key
is unset for its first part and `K` from then on. -/
theorem responses_eq {w : World} (hw : w.decrypted (env.withKey (some K)) = w) (before after : List Moment)
    (hplain : ∀ m ∈ before ++ after, m.op.Plain env K) :
    responses site (env.withKey none) w (before ++ after) =
      responses site (env.withKey none) w before ++
        responses site (env.withKey (some K)) (worldAfter site (env.withKey none) w before) after := by
  have hnone : w.decrypted (env.withKey none) = w := by
    have halert : decryptAlert (env.withKey none) = id := funext (decryptAlert_none env)
    have hentry : decryptEntry (env.withKey none) = id := funext (decryptEntry_none env)
    rw [World.decrypted, Db.decrypted, halert, hentry, List.map_id, List.map_id]
    rfl
  have hstart : ShownWorld env K .unset w w := by
    intro f hf
    rcases List.mem_cons.mp hf with rfl | hf
    · exact hnone
    · rw [List.mem_singleton.mp hf]
      exact hw
  have hbefore := responses_shown (p := .unset) site before
    (fun m hm => hplain m (List.mem_append_left after hm)) hstart
  have hafter := responses_shown (p := .set) site after
    (fun m hm => hplain m (List.mem_append_right before hm)) hbefore.2.set
  rw [responses_append, hafter.1]
  rfl

end Sequences

section Example

/-- A deployment with an analyst. -/
def staffedWorld : World :=
  emptyWorld.setDb { applySchema none with users := [⟨1, "asmith", "hash", .analyst⟩], usersSeq := 2 }

/-- A detector's alert. -/
def portScanMoment : Moment where
  op := .http ⟨.post, .alerts, none, some "test-key", none,
    some (.obj [("title", .str "Port scan"), ("category", .str "port_scan"), ("severity", .str "HIGH")]), [], []⟩
  a := calm
  ra := ⟨fun _ => asStored, asStored, 0⟩

/-- The analyst opens the queue. -/
def openQueueMoment : Moment where
  op := .http ⟨.get, .alerts, some 1, none, none, none, [], []⟩
  a := calm
  ra := ⟨fun _ => asStored, asStored, 0⟩

def plainSite : Site := ⟨utc, fun _ => false, fun _ => .error (.abort 404 "not found")⟩

theorem plain_portScan : portScanMoment.op.Plain exampleEnv zeroKey := by
  refine ⟨fun _ _ => ⟨?_, ?_, ?_⟩, fun _ he => by cases he⟩
  · intro s hs _
    obtain rfl : "Port scan" = s := Except.ok.inj hs
    exact ⟨rfl, by decide⟩
  · intro v hv
    obtain rfl : Json.null = v := Except.ok.inj hv
    exact fun ht => absurd ht (by decide)
  · intro v hv
    obtain rfl : Json.null = v := Except.ok.inj hv
    exact fun ht => absurd ht (by decide)

/-- The queue, with one alert from before the key is set and one from after. -/
theorem responses_openQueue :
    responses plainSite (exampleEnv.withKey none) staffedWorld
        ([portScanMoment] ++ [portScanMoment, openQueueMoment]) =
      responses plainSite (exampleEnv.withKey none) staffedWorld [portScanMoment] ++
        responses plainSite (exampleEnv.withKey (some zeroKey))
          (worldAfter plainSite (exampleEnv.withKey none) staffedWorld [portScanMoment])
          [portScanMoment, openQueueMoment] := by
  refine responses_eq plainSite rfl [portScanMoment] [portScanMoment, openQueueMoment] ?_
  intro m hm
  rcases List.mem_cons.mp hm with rfl | hm
  · exact plain_portScan
  · rcases List.mem_cons.mp hm with rfl | hm
    · exact plain_portScan
    · rw [List.mem_singleton.mp hm]
      exact ⟨fun hpost => (by cases hpost), fun _ he => (by cases he)⟩

end Example

end SocDashboard
