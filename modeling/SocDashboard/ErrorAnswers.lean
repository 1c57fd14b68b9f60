/-
# What an error answer means

The three writing requests, `POST` to alerts, classify and notes, against the
promise a client relies on when it retries: an error status means that no row
has changed, and a request whose rows are committed answers its success
status (`Honest`).

Each handler commits one transaction and then, for two of them, goes on: the
ingest embeds and broadcasts, classify broadcasts. `commits` says when the
transaction goes through and `failsAfter` when something raises behind it;
the promise holds unless both happen.

Key definitions: `Honest`, `commits`, `failsAfter`.
Key theorems: `apiIngestAlert_of_commits`, `classifyView_of_classifies`,
`noteView_of_notes`, `honest_iff`.
-/
import SocDashboard.Routes

namespace SocDashboard

open Exec

/-- The requests that write rows. -/
def Endpoint.writes : Endpoint → Bool
  | .alerts => true
  | .classify _ => true
  | .notes _ => true
  | _ => false

/-- The status of a request that went through. -/
def Endpoint.success : Endpoint → ℕ
  | .classify _ => 200
  | _ => 201

/-- The tables the promise is about are as they were. -/
structure SameTables (db db' : Db) : Prop where
  alerts : db'.alerts = db.alerts
  actions : db'.analystActions = db.analystActions
  audit : db'.auditLog = db.auditLog

/-- The rows the request is meant to write are there. -/
def Written (e : Endpoint) (db db' : Db) : Prop :=
  match e with
  | .alerts => ∃ row, db'.alerts = db.alerts ++ [row]
  | .classify alertId =>
    ∃ status analystName x entry, db'.alerts = (db.assigned alertId status analystName).alerts ∧
      db'.analystActions = db.analystActions ++ [x] ∧ db'.auditLog = db.auditLog ++ [entry]
  | .notes _ => ∃ entry, db'.auditLog = db.auditLog ++ [entry]
  | _ => False

/-- The promise: an error answer means that nothing happened, and what was written is
answered with success. -/
structure Honest (e : Endpoint) (w : World) (r : Response × World) : Prop where
  errors : r.1.isError → SameTables w.db r.2.db
  written : Written e w.db r.2.db → r.1.status = e.success

/-! ### When a transaction goes through -/

/-- The transaction of `api_classify` commits. -/
def classifies (a : Ambient) (db : Db) (user : User) (body : Json) (alertId : ℕ) (analystName : String) : Bool :=
  !a.fails (.connect .main) && !a.fails (.commit .main) && !classifyCallFails a &&
    (encodable body "analyst" && '\x00' ∉ analystName.toList) && db.auditKeysHold alertId user.id &&
    match db.alert? alertId with
    | none => false
    | some alert => alert.status = .open_ && (responseSeconds a.now alert.createdAt).isOk

/-- The transaction of `api_add_note` commits. -/
def notes (env : Env) (a : Ambient) (db : Db) (user : User) (body : Json) (alertId : ℕ) (note : String) : Bool :=
  !a.fails (.connect .main) && !a.fails (.commit .main) && !noteCallFails a &&
    (encodable body "note" && '\x00' ∉ (encryptStr env.scheme env.fernet (a.nonce .note) note).toList) &&
    db.auditKeysHold alertId user.id && (db.alert? alertId).isSome

/-- The account a request acts for, when it may triage. -/
def triageUser (a : Ambient) (db : Db) (req : Request) : Option User :=
  if req.csrfError = none ∧ loadFails a req.session = false then
    (sessionUser db req.session).filter fun user => user.role ∈ [Role.analyst, .admin]
  else none

/-- The request is let through, is valid, and its transaction commits. -/
def commits (env : Env) (a : Ambient) (db : Db) (req : Request) : Bool :=
  match req.endpoint with
  | .alerts =>
    match validApiKey env req.apiKey, readIngest env req.json with
    | .ok true, .ok (title, category, severity) =>
      (inserts env a (orEmptyDict req.json) title category severity).isSome
    | _, _ => false
  | .classify alertId =>
    match triageUser a db req, readClassify env req.json with
    | some user, .ok (analystName, _) => classifies a db user (orEmptyDict req.json) alertId analystName
    | _, _ => false
  | .notes alertId =>
    match triageUser a db req, readNote env req.json with
    | some user, .ok note => note ≠ "" && notes env a db user (orEmptyDict req.json) alertId note
    | _, _ => false
  | _ => false

/-- A step behind the commit raises: for an ingest the text to embed, the embed call or the
broadcast, for a classify the broadcast. -/
def failsAfter (env : Env) (a : Ambient) (w : World) (req : Request) : Bool :=
  match req.endpoint with
  | .alerts => afterFails env a (orEmptyDict req.json) w
  | .classify _ => publishFails env a
  | _ => false

/-! ### The promise, answer by answer -/

section Promise

variable {e : Endpoint} {w : World} {r : Response × World}

theorem SameRows.tables {db db' : Db} (h : SameRows db db') : SameTables db db' :=
  ⟨h.alertRows, h.actionRows, h.auditRows⟩

theorem not_written_of_same (h : SameTables w.db r.2.db) : ¬ Written e w.db r.2.db := by
  have hne : ∀ {α : Type} {xs ys : List α} {x : α}, ys = xs → ¬ ys = xs ++ [x] := by
    intro α xs ys x hys hx
    have hlen := congrArg List.length (hys.symm.trans hx)
    simp at hlen
  intro hw
  cases e with
  | alerts =>
    obtain ⟨row, hrow⟩ := hw
    exact hne h.alerts hrow
  | classify alertId =>
    obtain ⟨status, analystName, x, entry, -, hx, -⟩ := hw
    exact hne h.actions hx
  | notes alertId =>
    obtain ⟨entry, hentry⟩ := hw
    exact hne h.audit hentry
  | _ => exact hw

/-- Nothing changed: any answer will do. -/
theorem honest_of_same (h : SameTables w.db r.2.db) : Honest e w r :=
  ⟨fun _ => h, fun hw => absurd hw (not_written_of_same h)⟩

theorem success_lt (e : Endpoint) : e.success < 400 := by
  cases e <;> simp [Endpoint.success]

theorem honest_of_success (h : r.1.status = e.success) : Honest e w r := by
  refine ⟨fun herr => ?_, fun _ => h⟩
  have hlt := success_lt e
  unfold Response.isError at herr
  omega

/-- An internal error behind the commit breaks the promise. -/
theorem not_honest_of_500 (hw : Written e w.db r.2.db) (h : r.1.status = 500) : ¬ Honest e w r := by
  intro hh
  have hs := hh.written hw
  have hlt := success_lt e
  omega

/-- With its rows committed, an answer keeps the promise unless a step behind the commit raises. -/
theorem honest_of_written {failed : Bool} (hw : Written e w.db r.2.db)
    (h : r.1.status = if failed then 500 else e.success) : Honest e w r ↔ ¬failed = true := by
  cases failed with
  | true => exact iff_of_false (not_honest_of_500 hw h) (by simp)
  | false => exact iff_of_true (honest_of_success h) (by simp)

theorem respond_congr {handler handler' : Exec World Exc Response} {w' : World}
    (h : handler w = handler' w') : respond handler w = respond handler' w' := by
  unfold respond
  rw [h]

/-- A handler that ends with a step answers what the step makes of it, or its error. -/
theorem respond_last {α : Type} (x : Exec World Exc α) (answer : α → Response) (w : World) :
    (respond (x >>= fun y => pure (answer y)) w).1 =
      match (x w).1 with
      | .ok y => answer y
      | .error e => e.response := by
  unfold respond
  rw [bind_apply]
  rcases x w with ⟨_ | _, w'⟩ <;> rfl

theorem respond_snd (handler : Exec World Exc Response) : (respond handler w).2 = (handler w).2 := by
  unfold respond
  rcases handler w with ⟨_ | _, w'⟩ <;> rfl

end Promise

/-! ### The ingest -/

section Ingest

variable {env : Env} {a : Ambient} {w : World} {title category : String} {severity : Severity}

/-- Once the insert is committed the answer is decided by what comes after. -/
theorem apiIngestAlert_of_commits {apiKey : Option String} {json : Option Json}
    (hkey : validApiKey env apiKey = .ok true)
    (hparse : readIngest env json = .ok (title, category, severity)) {v : AlertValues}
    (hv : inserts env a (orEmptyDict json) title category severity = some v) :
    (respond (apiIngestAlert env a apiKey json) w).1.status =
        (if afterFails env a (orEmptyDict json) w then 500 else 201) ∧
      (respond (apiIngestAlert env a apiKey json) w).2.db.alerts =
        w.db.alerts ++ [w.db.newAlert a.now v] := by
  obtain ⟨ht, hc, hb, -⟩ := parseIngestPayload_eq_ok (readIngest_eq_ok.mp hparse).2
  have hrun : apiIngestAlert env a apiKey json w =
      (do
        let row ← afterInsert env a (orEmptyDict json) title category (w.db.newAlert a.now v)
        pure ⟨201, .alert row, none⟩ : Exec World Exc Response) (w.setDb (w.db.withAlert a.now v)) := by
    simp only [apiIngestAlert, bind_apply, lift_apply, hkey, if_true, hparse, insertAlert_of_inserts hv]
  have hsame : SameDb (w.setDb (w.db.withAlert a.now v))
      (apiIngestAlert env a apiKey json w).2 := by
    rw [hrun]
    exact (keeps_afterInsert env a _ title category _).bind (fun row => Keeps.pure _) _
  have hbeside : afterFails env a (orEmptyDict json) (w.setDb (w.db.withAlert a.now v)) =
      afterFails env a (orEmptyDict json) w := rfl
  refine ⟨?_, ?_⟩
  · rw [respond_congr hrun, respond_last]
    cases haf : afterFails env a (orEmptyDict json) w with
    | false =>
      rw [afterInsert_ok ht hc hb (hbeside.trans haf)]
      rfl
    | true =>
      obtain ⟨e, he, h500⟩ := afterInsert_error ht hc hb (hbeside.trans haf) (w.db.newAlert a.now v)
      rw [he]
      exact h500
  · rw [respond_snd]
    exact hsame.rows.alertRows

/-- An ingest that does not commit changes no row. -/
theorem apiIngestAlert_of_not_commits {apiKey : Option String} {json : Option Json}
    (h : ∀ title category severity, validApiKey env apiKey = .ok true →
      readIngest env json = .ok (title, category, severity) →
        inserts env a (orEmptyDict json) title category severity = none) :
    SameDb w (apiIngestAlert env a apiKey json w).2 := by
  have hrefl : SameDb w w := refl w
  unfold apiIngestAlert
  rw [bind_apply, lift_apply]
  cases hkey : validApiKey env apiKey with
  | error e => exact hrefl
  | ok valid =>
    cases valid with
    | false => exact hrefl
    | true =>
      simp only [if_true]
      rw [bind_apply, lift_apply]
      cases hparse : readIngest env json with
      | error e => exact hrefl
      | ok fields =>
        obtain ⟨title, category, severity⟩ := fields
        obtain ⟨e, w', hi, hs⟩ := insertAlert_of_not_inserts (h title category severity hkey hparse) w
        simp only
        rw [bind_apply, hi]
        exact hs

end Ingest

/-! ### Classify and notes -/

section Triage

variable {env : Env} {a : Ambient} {w : World} {user : User} {body : Json} {alertId : ℕ}

/-- Behind the decorators, for the account that may triage. -/
theorem triage_view {session : Option ℕ} (hl : loadFails a session = false)
    (hu : sessionUser w.db session = some user) (hr : user.role ∈ [Role.analyst, .admin])
    (inner : User → Exec World Exc Response) :
    loginRequired a session (fun u => requireRole [.analyst, .admin] u (inner u)) w = inner user w := by
  rw [loginRequired_eq, hl, hu]
  simp only [Bool.false_eq_true, if_false]
  rw [requireRole_eq, if_pos hr]

variable (env) in
theorem withConn_of_classifies {analystName : String} (action : Action)
    (h : classifies a w.db user body alertId analystName = true) :
    ∃ row seconds, withConn a .main (classifyBlock env a user body alertId analystName action) w =
      (.ok row, w.setDb (w.db.triaged a.now user alertId analystName action seconds)) := by
  simp only [classifies, Bool.and_eq_true, Bool.not_eq_true', decide_eq_true_eq] at h
  obtain ⟨⟨⟨⟨⟨hc, hm⟩, hf⟩, hnul⟩, hk⟩, hal⟩ := h
  cases hfind : w.db.alert? alertId with
  | none => simp [hfind] at hal
  | some alert =>
    simp only [hfind, Bool.and_eq_true, decide_eq_true_eq] at hal
    obtain ⟨hopen, hok⟩ := hal
    cases hs : responseSeconds a.now alert.createdAt with
    | error e => simp [hs, Except.isOk, Except.toBool] at hok
    | ok seconds =>
      refine ⟨decryptAlert env (Db.assign (actionToStatus action) analystName alert), seconds,
        withConn_ok.mpr ⟨hc, hm, _, ?_, rfl⟩⟩
      exact classifyBlock_ok.mpr ⟨alert, seconds, hfind, hopen, hnul, hs, hk, hf, rfl, rfl⟩

theorem withConn_of_not_classifies {analystName : String} (action : Action)
    (h : classifies a w.db user body alertId analystName = false) :
    ∃ e w', withConn a .main (classifyBlock env a user body alertId analystName action) w = (.error e, w') ∧
      SameDb w w' := by
  refine withConn_of_not_ok (keeps_classifyBlock analystName action) fun row w' hx => ?_
  obtain ⟨hc, hm, db', hb, -⟩ := withConn_ok.mp hx
  obtain ⟨alert, seconds, hfind, hopen, hnul, hs, hk, hf, -, -⟩ := classifyBlock_ok.mp hb
  simp [classifies, hc, hm, hf, hnul, hk, hfind, hopen, hs, Except.isOk, Except.toBool] at h

theorem withConn_of_notes {note : String} (h : notes env a w.db user body alertId note = true) :
    ∃ row w', withConn a .main (noteBlock env a user body alertId note) w = (.ok row, w') := by
  simp only [notes, Bool.and_eq_true, Bool.not_eq_true', decide_eq_true_eq] at h
  obtain ⟨⟨⟨⟨⟨hc, hm⟩, hf⟩, hnul⟩, hk⟩, hal⟩ := h
  obtain ⟨alert, hfind⟩ := Option.isSome_iff_exists.mp hal
  have hblock := noteBlock_ok.mpr ⟨alert, hfind, hnul, hk, hf, rfl, rfl⟩
  exact ⟨_, _, withConn_ok.mpr ⟨hc, hm, _, hblock, rfl⟩⟩

theorem withConn_of_not_notes {note : String} (h : notes env a w.db user body alertId note = false) :
    ∃ e w', withConn a .main (noteBlock env a user body alertId note) w = (.error e, w') ∧ SameDb w w' := by
  refine withConn_of_not_ok (keeps_noteBlock note) fun row w' hx => ?_
  obtain ⟨hc, hm, db', hb, -⟩ := withConn_ok.mp hx
  obtain ⟨alert, hfind, hnul, hk, hf, -, -⟩ := noteBlock_ok.mp hb
  simp [notes, hc, hm, hf, hnul, hk, hfind] at h

variable (env) in
/-- Once a triage is committed the broadcast decides the answer. -/
theorem classifyView_of_classifies {json : Option Json} {analystName : String} {action : Action}
    (hp : readClassify env json = .ok (analystName, action))
    (h : classifies a w.db user (orEmptyDict json) alertId analystName = true) :
    (respond (classifyView env a user alertId json) w).1.status = (if publishFails env a then 500 else 200) ∧
      ∃ seconds, SameRows (w.db.triaged a.now user alertId analystName action seconds)
        (respond (classifyView env a user alertId json) w).2.db := by
  obtain ⟨row, seconds, hx⟩ := withConn_of_classifies env action h
  generalize hw₁ : w.setDb (w.db.triaged a.now user alertId analystName action seconds) = w₁ at hx
  generalize hev : Event.mk .statusChange alertId row.severity (actionToStatus action) = event
  have hfst := ssePublish_fst env a event w₁
  have hkeep : SameDb w₁ (ssePublish env a event w₁).2 := keeps_ssePublish env a event w₁
  have hrows : SameRows (w.db.triaged a.now user alertId analystName action seconds)
      (ssePublish env a event w₁).2.db := by
    rw [← hw₁] at hkeep ⊢
    exact hkeep.rows
  have hrun : classifyView env a user alertId json w =
      (do ssePublish env a event; pure ⟨200, .alert row, none⟩ : Exec World Exc Response) w₁ := by
    unfold classifyView
    simp only [bind_apply, lift_apply, hp, hx, hev]
  refine ⟨?_, seconds, ?_⟩
  · rw [respond_congr hrun, respond_last, hfst]
    cases publishFails env a <;> rfl
  · have hsnd : (classifyView env a user alertId json w).2 = (ssePublish env a event w₁).2 := by
      rw [hrun, bind_apply]
      rcases ssePublish env a event w₁ with ⟨_ | _, w₂⟩ <;> rfl
    rw [respond_snd, hsnd]
    exact hrows

theorem classifyView_of_not_classifies {json : Option Json}
    (h : ∀ analystName action, readClassify env json = .ok (analystName, action) →
      classifies a w.db user (orEmptyDict json) alertId analystName = false) :
    SameDb w (classifyView env a user alertId json w).2 := by
  have hrefl : SameDb w w := refl w
  unfold classifyView
  rw [bind_apply, lift_apply]
  cases hp : readClassify env json with
  | error e => exact hrefl
  | ok fields =>
    obtain ⟨analystName, action⟩ := fields
    obtain ⟨e, w', hx, hs⟩ := withConn_of_not_classifies action (h analystName action hp)
    simp only
    rw [bind_apply, hx]
    exact hs

/-- A note that is committed is answered with 201: nothing runs behind it. -/
theorem noteView_of_notes {json : Option Json} {note : String}
    (hp : readNote env json = .ok note) (hne : note ≠ "")
    (h : notes env a w.db user (orEmptyDict json) alertId note = true) :
    (respond (noteView env a user alertId json) w).1.status = 201 := by
  obtain ⟨row, w', hx⟩ := withConn_of_notes h
  have hrun : noteView env a user alertId json w =
      (.ok ⟨201, .noteCreated row.id row.createdAt, none⟩, w') := by
    unfold noteView
    simp only [bind_apply, lift_apply, hp, hne, if_false, hx]
    rfl
  unfold respond
  rw [hrun]

theorem noteView_of_not_notes {json : Option Json}
    (h : ∀ note, readNote env json = .ok note → note ≠ "" →
      notes env a w.db user (orEmptyDict json) alertId note = false) :
    SameDb w (noteView env a user alertId json w).2 := by
  have hrefl : SameDb w w := refl w
  unfold noteView
  rw [bind_apply, lift_apply]
  cases hp : readNote env json with
  | error e => exact hrefl
  | ok note =>
    by_cases hne : note = ""
    · simp only [hne, if_true]
      exact hrefl
    · obtain ⟨e, w', hx, hs⟩ := withConn_of_not_notes (h note hp hne)
      simp only [hne, if_false]
      rw [bind_apply, hx]
      exact hs

end Triage

/-! ### The requests -/

section Requests

variable {env : Env} {reads : Reads} {a : Ambient} {req : Request} {w : World}

theorem triageUser_eq_some {db : Db} {user : User} :
    triageUser a db req = some user ↔
      (req.csrfError = none ∧ loadFails a req.session = false) ∧
        sessionUser db req.session = some user ∧ user.role ∈ [Role.analyst, .admin] := by
  unfold triageUser
  split_ifs with h
  · rw [Option.filter_eq_some_iff]
    simp [h]
  · simp [h]

section Triaging

variable {inner : User → Exec World Exc Response}
  (hview : view env reads a req =
    loginRequired a req.session fun u => requireRole [.analyst, .admin] u (inner u))
  (hpost : req.method = .post) (hmem : .post ∈ req.endpoint.methods) (hne : req.endpoint ≠ .alerts)

include hview hpost hmem hne

/-- A request for an account that may triage is its view's. -/
theorem serve_triage {user : User} (hu : triageUser a w.db req = some user) :
    serve env reads a req w = inner user w := by
  obtain ⟨⟨hcsrf, hl⟩, hs, hr⟩ := triageUser_eq_some.mp hu
  rw [serve_of_protected hpost hmem hne, hcsrf, hview]
  exact triage_view hl hs hr inner

theorem respond_triage {user : User} (hu : triageUser a w.db req = some user) :
    respond (serve env reads a req) w = respond (inner user) w := by
  apply respond_congr
  exact serve_triage hview hpost hmem hne hu

/-- Any other request is turned away and changes nothing. -/
theorem serve_triage_none (hu : triageUser a w.db req = none) : (serve env reads a req w).2 = w := by
  rw [serve_of_protected hpost hmem hne]
  cases hcsrf : req.csrfError with
  | some reason => rfl
  | none =>
    simp only
    rw [hview, loginRequired_eq]
    cases hl : loadFails a req.session with
    | true => rfl
    | false =>
      cases hs : sessionUser w.db req.session with
      | none => rfl
      | some user =>
        have hr : user.role ∉ [Role.analyst, .admin] := by
          intro hr
          rw [triageUser_eq_some.mpr ⟨⟨hcsrf, hl⟩, hs, hr⟩] at hu
          exact absurd hu (Option.some_ne_none user)
        simp only [Bool.false_eq_true, if_false]
        rw [requireRole_eq, if_neg hr]

end Triaging

theorem view_classify {alertId : ℕ} (he : req.endpoint = .classify alertId) :
    view env reads a req = loginRequired a req.session fun u =>
      requireRole [.analyst, .admin] u (classifyView env a u alertId req.json) := by
  simp only [view, he, apiClassify]

theorem view_notes {alertId : ℕ} (he : req.endpoint = .notes alertId) :
    view env reads a req = loginRequired a req.session fun u =>
      requireRole [.analyst, .admin] u (noteView env a u alertId req.json) := by
  simp only [view, he, apiAddNote]

theorem honest_of_unchanged {e : Endpoint} {x : Exec World Exc Response} (h : (x w).2 = w) :
    Honest e w (respond x w) := by
  apply honest_of_same
  rw [respond_snd, h]
  exact ⟨rfl, rfl, rfl⟩

theorem honest_of_sameDb {e : Endpoint} {x : Exec World Exc Response} (h : SameDb w (x w).2) :
    Honest e w (respond x w) := by
  apply honest_of_same
  rw [respond_snd]
  exact h.rows.tables

theorem honest_ingest (hpost : req.method = .post) (he : req.endpoint = .alerts) :
    Honest .alerts w (respond (serve env reads a req) w) ↔
      ¬ (commits env a w.db req = true ∧ failsAfter env a w req = true) := by
  have hfails : failsAfter env a w req = afterFails env a (orEmptyDict req.json) w := by
    simp [failsAfter, he]
  rw [serve_ingest hpost he, hfails]
  cases hc : commits env a w.db req with
  | false =>
    refine iff_of_true (honest_of_sameDb (apiIngestAlert_of_not_commits ?_)) (by simp)
    intro title category severity hkey hparse
    simpa [commits, he, hkey, hparse] using hc
  | true =>
    simp only [commits, he] at hc
    split at hc
    · rename_i title category severity hkey hparse
      obtain ⟨v, hv⟩ := Option.isSome_iff_exists.mp hc
      obtain ⟨hstatus, hrows⟩ := apiIngestAlert_of_commits (w := w) hkey hparse hv
      rw [eq_self_iff_true, true_and]
      exact honest_of_written ⟨_, hrows⟩ hstatus
    · exact absurd hc Bool.false_ne_true

theorem honest_classify {alertId : ℕ} (hpost : req.method = .post) (he : req.endpoint = .classify alertId) :
    Honest (.classify alertId) w (respond (serve env reads a req) w) ↔
      ¬ (commits env a w.db req = true ∧ failsAfter env a w req = true) := by
  have hview : view env reads a req = _ := view_classify he
  have hmem : Method.post ∈ req.endpoint.methods := by simp [he, Endpoint.methods]
  have hne : req.endpoint ≠ .alerts := by simp [he]
  have hfails : failsAfter env a w req = publishFails env a := by simp [failsAfter, he]
  rw [hfails]
  cases hu : triageUser a w.db req with
  | none =>
    refine iff_of_true (honest_of_unchanged (serve_triage_none hview hpost hmem hne hu)) ?_
    simp [commits, he, hu]
  | some user =>
    rw [respond_triage hview hpost hmem hne hu]
    cases hc : commits env a w.db req with
    | false =>
      refine iff_of_true (honest_of_sameDb (classifyView_of_not_classifies ?_)) (by simp)
      intro analystName action hp
      simpa [commits, he, hu, hp] using hc
    | true =>
      simp only [commits, he, hu] at hc
      cases hp : readClassify env req.json with
      | error x => simp [hp] at hc
      | ok fields =>
        obtain ⟨analystName, action⟩ := fields
        simp only [hp] at hc
        obtain ⟨hstatus, seconds, hrows⟩ := classifyView_of_classifies env hp hc
        have hwritten : Written (.classify alertId) w.db
            (respond (classifyView env a user alertId req.json) w).2.db :=
          ⟨_, _, _, _, hrows.alertRows, hrows.actionRows, hrows.auditRows⟩
        rw [eq_self_iff_true, true_and]
        exact honest_of_written hwritten hstatus

/-- A note keeps the promise whatever fails. -/
theorem honest_notes {alertId : ℕ} (hpost : req.method = .post) (he : req.endpoint = .notes alertId) :
    Honest (.notes alertId) w (respond (serve env reads a req) w) := by
  have hview : view env reads a req = _ := view_notes he
  have hmem : Method.post ∈ req.endpoint.methods := by simp [he, Endpoint.methods]
  have hne : req.endpoint ≠ .alerts := by simp [he]
  cases hu : triageUser a w.db req with
  | none => exact honest_of_unchanged (serve_triage_none hview hpost hmem hne hu)
  | some user =>
    rw [respond_triage hview hpost hmem hne hu]
    by_cases hn : ∃ note, readNote env req.json = .ok note ∧ note ≠ "" ∧
        notes env a w.db user (orEmptyDict req.json) alertId note = true
    · obtain ⟨note, hp, hblank, hc⟩ := hn
      exact honest_of_success (noteView_of_notes hp hblank hc)
    · refine honest_of_sameDb (noteView_of_not_notes fun note hp hblank => ?_)
      rw [← Bool.not_eq_true]
      exact fun hc => hn ⟨note, hp, hblank, hc⟩

/-- **When error answers mean that nothing happened.** A writing request keeps the promise
exactly unless its transaction commits and a step behind the commit raises. -/
theorem honest_iff (env : Env) (reads : Reads) (a : Ambient) (req : Request) (w : World)
    (hpost : req.method = .post) (hw : req.endpoint.writes = true) :
    Honest req.endpoint w (respond (serve env reads a req) w) ↔
      ¬ (commits env a w.db req = true ∧ failsAfter env a w req = true) := by
  cases he : req.endpoint with
  | alerts => exact honest_ingest hpost he
  | classify alertId => exact honest_classify hpost he
  | notes alertId =>
    have hfails : failsAfter env a w req = false := by simp [failsAfter, he]
    exact iff_of_true (honest_notes hpost he) (by simp [hfails])
  | _ => simp [he, Endpoint.writes] at hw

end Requests

/-! ### A broadcast that fails -/

/-- Redis is configured. -/
def redisEnv : Env := { exampleEnv with redis := true }

/-- The Redis publish raises. -/
def redisDown : Ambient := { calm with fails := fun c => c = .publish }

/-- A detector's alert. -/
def portScan : Request where
  method := .post
  endpoint := .alerts
  session := none
  apiKey := some "test-key"
  csrfError := none
  json := some (.obj [("title", .str "Port scan"), ("category", .str "port_scan"), ("severity", .str "high")])
  args := []
  form := []

theorem honest_portScan :
    Honest .alerts emptyWorld (respond (serve redisEnv pages calm portScan) emptyWorld) :=
  (honest_iff redisEnv pages calm portScan emptyWorld rfl rfl).mpr (by decide)

/-- The alert is stored and the detector is told that it is not. -/
theorem portScan_answered_500 :
    (respond (serve redisEnv pages redisDown portScan) emptyWorld).1.status = 500 ∧
      ¬ Honest .alerts emptyWorld (respond (serve redisEnv pages redisDown portScan) emptyWorld) := by
  have hstatus : (respond (serve redisEnv pages redisDown portScan) emptyWorld).1.status = 500 := by decide
  refine ⟨hstatus, fun h => ?_⟩
  have hsame := h.errors (by rw [Response.isError, hstatus]; decide)
  exact absurd hsame.alerts (by decide)

end SocDashboard
