/-
# Do the events tell the table?

With Redis, an ingest and a classification end by publishing an event on the
channel, after their commit and in no transaction with it; notes, purges and
accounts publish nothing. So what the channel says of an alert lags behind the
table while a handler is between its commit and its publish, and for good when
the broadcast behind a commit failed. The steps here are whole handlers, one
after another, which leaves the second.

`Announces` says what one step does to the channel and to the alerts: it
publishes at most one event, true of the table it leaves, and changes no other
alert when it does. `told` is what somebody knows of an alert who has read the
channel from its start. If nothing raises behind a commit of the run, that is
the severity and the status of every alert there is (`told_systemRun`).

Key definitions: `Announces`, `SystemOp.announced`, `told`.
Key theorems: `systemStep_tells`, `told_run`, `told_systemRun`.
-/
import SocDashboard.IngestPaths
import SocDashboard.SystemRuns

namespace SocDashboard

open Exec

/-- The channel is as it was. -/
def SameChannel (w w' : World) : Prop := w'.published = w.published

instance : Std.Refl SameChannel := ⟨fun _ => rfl⟩

instance : IsTrans World SameChannel := ⟨fun _ _ _ h h' => h'.trans h⟩

/-- A step publishes `es`: at most one event, which is true of the table it leaves. -/
structure Announces (w w' : World) (es : List Event) : Prop where
  channel : w'.published = w.published ++ es
  short : es.length ≤ 1
  holds : ∀ e ∈ es, ∃ row, w'.db.alert? e.alertId = some row ∧ row.severity = e.severity ∧ row.status = e.status
  others : ∀ e ∈ es, ∀ id, id ≠ e.alertId → w'.db.alert? id = w.db.alert? id

/-- No alert is new or changed. -/
def NoNews (w w' : World) : Prop := ∀ id row, w'.db.alert? id = some row → w.db.alert? id = some row

/-- Nothing raises behind the commit of the transaction, should it commit. -/
def StoreOp.announced (env : Env) (svc : Service) (w : World) : StoreOp → Bool
  | .apiIngestAlert a _ json => !afterFails env a (orEmptyDict json) w
  | .kafkaIngest a body => !afterFails env a body w
  | .goIngest a _ => svc.rdb && a.publishErr.isNone
  | .apiClassify a _ _ _ => !publishFails env a
  | _ => true

def SystemOp.announced (env : Env) (svc : Service) (w : World) (op : SystemOp) : Bool :=
  match op.transaction with
  | some t => t.announced env svc w
  | none => true

/-! ### What leaves the channel alone -/

section Channel

variable {env : Env} {reads : Reads} {a : Ambient} {req : Request}

theorem keepsChannel_withConn {α : Type} (c : Conn) (block : Exec Db Exc α) :
    Keeps SameChannel (withConn a c block) := by
  refine Keeps.attempt (Keeps.zoom (S := fun _ _ => True) (fun w db _ => rfl) ?_)
  exact fun _ => trivial

theorem keepsChannel_selects : Keeps SameChannel (selects reads a req) :=
  (Keeps.lift _).bind fun _ => (keepsChannel_withConn _ _).bind fun answer => Keeps.lift answer

theorem keepsChannel_login : Keeps SameChannel (login env a req) := by
  refine Keeps.ite (fun _ => (Keeps.lift _).bind fun bound => ?_) fun _ => Keeps.pure _
  refine (keepsChannel_withConn _ _).bind fun row => ?_
  cases row with
  | none => exact Keeps.pure _
  | some u => exact (Keeps.lift _).bind fun _ => Keeps.ite (fun _ => Keeps.pure _) fun _ => Keeps.pure _

theorem keepsChannel_approveView (user : User) (workflowRunId : String) :
    Keeps SameChannel (approveView env a req user workflowRunId) := by
  refine Keeps.ite (fun _ => Keeps.pure _) fun _ => Keeps.ite (fun _ => Keeps.pure _) fun _ => ?_
  refine (Keeps.lift _).bind fun note => Keeps.catching ?_ fun _ => Keeps.pure _
  refine (Keeps.attempt (Keeps.pure _)).bind fun _ => Keeps.bind (Keeps.modify fun w => ?_) fun _ => ?_
  · rfl
  · exact (Keeps.attempt (Keeps.pure _)).bind fun _ => Keeps.pure _

theorem keepsChannel_apiSimilarAlerts : Keeps SameChannel (apiSimilarAlerts reads a req) := by
  refine keeps_loginRequired a req.session fun user => (Keeps.gets _).bind fun m => ?_
  exact Keeps.ite (fun _ => Keeps.pure _) fun _ => Keeps.catching keepsChannel_selects fun _ => Keeps.pure _

theorem keepsChannel_apiStream : Keeps SameChannel (apiStream env a req) := by
  refine keeps_loginRequired a req.session fun user => Keeps.bind ?_ fun _ => Keeps.pure _
  exact Keeps.ite (fun _ => Keeps.pure _) fun _ => Keeps.modify fun w => rfl

/-- Every request but an ingest, a classification and a note. -/
theorem keepsChannel_serve (h : req.method = .post → req.endpoint.writes = false) :
    Keeps SameChannel (serve env reads a req) := by
  have hread : Keeps SameChannel (loginRequired a req.session fun _ => selects reads a req) :=
    keeps_loginRequired a req.session fun _ => keepsChannel_selects
  intro w
  rcases serve_cases env reads a req w with hs | ⟨hm, hs⟩
  · rw [hs]
    rfl
  rw [hs]
  suffices hview : Keeps SameChannel (view env reads a req) from hview w
  unfold view
  cases he : req.endpoint with
  | login => exact keepsChannel_login
  | logout => exact keeps_loginRequired a req.session fun _ => Keeps.pure _
  | dashboard => exact keeps_loginRequired a req.session fun _ => Keeps.pure _
  | analyst => exact keeps_loginRequired a req.session fun _ => Keeps.pure _
  | alerts =>
    have hpost : req.method ≠ .post := fun hpost => by simp [he, hpost, Endpoint.writes] at h
    simp only [hpost, if_false]
    exact hread
  | similar alertId => exact keepsChannel_apiSimilarAlerts
  | auditPage => exact keeps_loginRequired a req.session fun user => keeps_requireRole _ user keepsChannel_selects
  | approve workflowRunId => exact keeps_loginRequired a req.session fun user => keepsChannel_approveView user _
  | stream => exact keepsChannel_apiStream
  | static filename => exact (Keeps.lift _).bind fun query => (Keeps.gets _).bind fun db => Keeps.lift _
  | unknown => exact Keeps.raise _
  | classify alertId =>
    have hpost : req.method = .post := by simpa [he, Endpoint.methods] using hm
    simp [he, hpost, Endpoint.writes] at h
  | notes alertId =>
    have hpost : req.method = .post := by simpa [he, Endpoint.methods] using hm
    simp [he, hpost, Endpoint.writes] at h
  | _ => exact hread

theorem keepsChannel_storeEmbedding (alertId : ℕ) (text : String) :
    Keeps SameChannel (storeEmbedding env a alertId text) := by
  have hmodel : Keeps SameChannel (getEmbeddingModel a) := by
    refine (Keeps.gets _).bind fun m => ?_
    cases m with
    | notLoaded =>
      exact Keeps.ite (fun _ => Keeps.bind (Keeps.modify fun w => rfl) fun _ => Keeps.pure _) fun _ =>
        Keeps.bind (Keeps.modify fun w => rfl) fun _ => Keeps.pure _
    | loaded => exact Keeps.pure _
    | failed => exact Keeps.pure _
  have hembed : Keeps SameChannel (embedText env a text) :=
    hmodel.bind fun _ => Keeps.ite (fun _ => Keeps.attempt (Keeps.pure _)) fun _ => Keeps.pure _
  refine hembed.bind fun vec => ?_
  cases vec with
  | none => exact Keeps.pure _
  | some vec => exact Keeps.catching (keepsChannel_withConn _ _) fun _ => Keeps.pure _

end Channel

/-! ### What one transaction announces -/

section Steps

variable {env : Env} {svc : Service} {a : Ambient} {w w' : World}

theorem announces_quiet (h : SameChannel w w') : Announces w w' [] where
  channel := by rw [List.append_nil]; exact h
  short := Nat.zero_le 1
  holds := by simp
  others := by simp

theorem noNews_of_alerts (h : w'.db.alerts = w.db.alerts) : NoNews w w' := by
  intro id row hrow
  rwa [Db.alert?, h] at hrow

theorem ssePublish_redis (hr : env.redis = true) (event : Event) (w : World) :
    ssePublish env a event w =
      if publishFails env a then (.error .redisError, w)
      else (.ok (), { w with published := w.published ++ [event] }) := by
  unfold ssePublish publishFails
  rw [hr]
  cases a.fails .publish <;> rfl

/-- What `_insert_alert` publishes behind its commit, if it gets there. -/
theorem afterInsert_published (hr : env.redis = true) (body : Json) (title category : String) (created : Alert) :
    (∃ e, (afterInsert env a body title category created w).1 = .error e ∧
        SameChannel w (afterInsert env a body title category created w).2) ∨
      (afterInsert env a body title category created w).2.published =
        w.published ++ [newAlertEvent created] := by
  unfold afterInsert
  cases hin : embedInput body title category with
  | error e => exact .inl ⟨e, rfl, rfl⟩
  | ok text =>
    have hchannel : SameChannel w (storeEmbedding env a created.id text w).2 :=
      keepsChannel_storeEmbedding created.id text w
    simp only [bind_apply, lift_apply]
    rcases hst : storeEmbedding env a created.id text w with ⟨e | u, w₁⟩
    · rw [hst] at hchannel
      exact .inl ⟨e, rfl, hchannel⟩
    · rw [hst] at hchannel
      simp only [ssePublish_redis hr]
      by_cases hf : publishFails env a = true
      · rw [if_pos hf]
        exact .inl ⟨_, rfl, hchannel⟩
      · rw [if_neg hf]
        refine .inr ?_
        show w₁.published ++ [newAlertEvent created] = _
        rw [hchannel]

/-- What a step does to the channel and to the alerts: if nothing raises behind its commit (`clear`), it
publishes every change that it makes. -/
def Tells (clear : Prop) (w w' : World) : Prop :=
  ∃ es, Announces w w' es ∧ (clear → es = [] → NoNews w w')

theorem Tells.quiet {clear : Prop} (h : SameChannel w w') (hn : NoNews w w') : Tells clear w w' :=
  ⟨[], announces_quiet h, fun _ _ => hn⟩

/-- A committed alert, with its event or without. -/
theorem tells_withAlert {clear : Prop} (hi : StoreInv w.db) {now : Time} {v : AlertValues} {w' : World}
    (hal : w'.db.alerts = (w.db.withAlert now v).alerts)
    (h : w'.published = w.published ++ [newAlertEvent (w.db.newAlert now v)] ∨ ¬clear ∧ SameChannel w w') :
    Tells clear w w' := by
  rcases h with h | ⟨hclear, h⟩
  · refine ⟨[newAlertEvent (w.db.newAlert now v)], ⟨h, le_rfl, ?_, ?_⟩, fun _ he => absurd he (List.cons_ne_nil _ _)⟩
    · intro e he
      rw [List.mem_singleton.mp he, alert?_of_alerts hal]
      exact ⟨_, hi.alert?_withAlert_new now v, rfl, rfl⟩
    · intro e he id hid
      rw [List.mem_singleton.mp he] at hid
      rw [alert?_of_alerts hal]
      exact alert?_withAlert_of_ne hid now v
  · exact ⟨[], announces_quiet h, fun hc => absurd hc hclear⟩

theorem tells_insertAlert (hr : env.redis = true) (hi : StoreInv w.db) {body : Json} {title category : String}
    (ht : title ≠ "") (hc : category ≠ "") (hb : body.isDict = true) (severity : Severity) :
    Tells (afterFails env a body w = false) w (insertAlert env a body title category severity w).2 := by
  unfold insertAlert
  rw [bind_apply]
  rcases hconn : withConn a .main (insertAlertBlock env a body title category severity) w with ⟨e | created, w₁⟩
  · obtain ⟨db', hs, rfl⟩ := withConn_error keeps_insertAlertBlock hconn
    exact .quiet rfl (noNews_of_alerts hs.alertRows)
  · obtain ⟨-, -, db', hblock, rfl⟩ := withConn_ok.mp hconn
    obtain ⟨v, -, -, rfl, rfl⟩ := insertAlertBlock_ok.mp hblock
    have hrows : SameDb (w.setDb (w.db.withAlert a.now v)) _ :=
      keeps_afterInsert env a body title category (w.db.newAlert a.now v) (w.setDb (w.db.withAlert a.now v))
    refine tells_withAlert hi hrows.rows.alertRows ?_
    rcases afterInsert_published (a := a) (w := w.setDb (w.db.withAlert a.now v)) hr body title category
      (w.db.newAlert a.now v) with ⟨e, he, hsame⟩ | hpub
    · refine .inr ⟨fun hclear => ?_, hsame⟩
      have hok := afterInsert_ok (w := w.setDb (w.db.withAlert a.now v)) ht hc hb hclear (w.db.newAlert a.now v)
      rw [he] at hok
      cases hok
    · exact .inl hpub

theorem tells_apiIngestAlert (hr : env.redis = true) (hi : StoreInv w.db) (apiKey : Option String)
    (json : Option Json) :
    Tells (afterFails env a (orEmptyDict json) w = false) w (apiIngestAlert env a apiKey json w).2 := by
  have hquiet : Tells (afterFails env a (orEmptyDict json) w = false) w w := .quiet rfl (noNews_of_alerts rfl)
  unfold apiIngestAlert
  rw [bind_apply, lift_apply]
  cases validApiKey env apiKey with
  | error e => exact hquiet
  | ok valid =>
    cases valid with
    | false => exact hquiet
    | true =>
      simp only [if_true, bind_apply, lift_apply]
      cases hparse : readIngest env json with
      | error e => exact hquiet
      | ok fields =>
        obtain ⟨title, category, severity⟩ := fields
        obtain ⟨ht, hc, hb, -⟩ := parseIngestPayload_eq_ok (readIngest_eq_ok.mp hparse).2
        have htells := tells_insertAlert (a := a) hr hi ht hc hb severity
        simp only
        rcases hins : insertAlert env a (orEmptyDict json) title category severity w with ⟨e | row, w'⟩
        · rwa [hins] at htells
        · rwa [hins] at htells

theorem tells_kafkaIngest (hr : env.redis = true) (hi : StoreInv w.db) (body : Json) :
    Tells (afterFails env a body w = false) w (kafkaIngest env a body w).2 := by
  have hquiet : Tells (afterFails env a body w = false) w w := .quiet rfl (noNews_of_alerts rfl)
  unfold kafkaIngest
  rw [bind_apply, lift_apply]
  cases hfields : ingestFields body with
  | error e => exact hquiet
  | ok fields =>
    obtain ⟨title, category, severity⟩ := fields
    have htitle := ingestFields_title hfields
    have hb : body.isDict = true := by
      cases body with
      | obj fields => rfl
      | _ => simp [getText, Json.get] at htitle
    by_cases hblank : title = "" ∨ category = ""
    · simp only [hblank, if_true]
      exact hquiet
    · simp only [hblank, if_false]
      rw [not_or] at hblank
      cases Severity.ofName severity with
      | none => exact hquiet
      | some s =>
        have htells := tells_insertAlert (a := a) hr hi hblank.1 hblank.2 hb s
        simp only [bind_apply]
        rcases hins : insertAlert env a body title category s w with ⟨e | row, w'⟩
        · rwa [hins] at htells
        · rwa [hins] at htells

theorem tells_goIngest (hi : StoreInv w.db) (b : GoAmbient) (req : AlertRequest) :
    Tells ((svc.rdb && b.publishErr.isNone) = true) w (goIngest svc b req w).2 := by
  have hquiet : Tells ((svc.rdb && b.publishErr.isNone) = true) w w := .quiet rfl (noNews_of_alerts rfl)
  unfold goIngest
  cases validate svc.quote req with
  | some err => exact hquiet
  | none =>
    simp only [bind_apply, lift_apply]
    cases goAlertValues svc b req with
    | error e => exact hquiet
    | ok fields =>
      obtain ⟨title, sourceIp, description⟩ := fields
      simp only
      cases hst : goStored b (goToUpper (goTrimSpace req.severity)) fun s => goRow req s title sourceIp description with
      | none =>
        obtain ⟨err, herr⟩ := goInsert_of_not_stored hst w
        rw [herr]
        exact hquiet
      | some v =>
        rw [goInsert_of_stored hst]
        simp only [publishSse]
        by_cases hpub : (svc.rdb && b.publishErr.isNone) = true
        · rw [if_pos hpub]
          exact tells_withAlert hi rfl (.inl rfl)
        · rw [if_neg hpub]
          exact tells_withAlert hi rfl (.inr ⟨hpub, rfl⟩)

theorem tells_classifyView (hr : env.redis = true) (user : User) (alertId : ℕ) (json : Option Json) :
    Tells (publishFails env a = false) w (classifyView env a user alertId json w).2 := by
  unfold classifyView
  rw [bind_apply, lift_apply]
  cases readClassify env json with
  | error e => exact .quiet rfl (noNews_of_alerts rfl)
  | ok fields =>
    obtain ⟨analystName, action⟩ := fields
    simp only [bind_apply]
    rcases hconn : withConn a .main (classifyBlock env a user (orEmptyDict json) alertId analystName action) w
      with ⟨e | row, w₁⟩
    · obtain ⟨db', hs, rfl⟩ := withConn_error (keeps_classifyBlock analystName action) hconn
      exact .quiet rfl (noNews_of_alerts hs.alertRows)
    · obtain ⟨-, -, db', hblock, rfl⟩ := withConn_ok.mp hconn
      obtain ⟨alert, seconds, hal, -, -, -, -, -, rfl, rfl⟩ := classifyBlock_ok.mp hblock
      simp only [ssePublish_redis hr]
      by_cases hf : publishFails env a = true
      · rw [if_pos hf]
        refine ⟨[], announces_quiet rfl, fun hclear => ?_⟩
        rw [hf] at hclear
        cases hclear
      · rw [if_neg hf]
        refine ⟨_, ⟨rfl, le_rfl, ?_, ?_⟩, fun _ he => absurd he (List.cons_ne_nil _ _)⟩
        · intro e he
          rw [List.mem_singleton.mp he]
          exact ⟨_, alert?_triaged hal, rfl, rfl⟩
        · intro e he id hid
          rw [List.mem_singleton.mp he] at hid
          exact alert?_triaged_of_ne hid

theorem tells_apiClassify (hr : env.redis = true) (session : Option ℕ) (alertId : ℕ) (json : Option Json) :
    Tells (publishFails env a = false) w (apiClassify env a session alertId json w).2 := by
  have hquiet : Tells (publishFails env a = false) w w := .quiet rfl (noNews_of_alerts rfl)
  rw [apiClassify, loginRequired_eq]
  split
  · exact hquiet
  · cases sessionUser w.db session with
    | none => exact hquiet
    | some user =>
      simp only [requireRole_eq]
      split
      · exact tells_classifyView hr user alertId json
      · exact hquiet

/-- Notes, purges and accounts: no event, and no alert new or changed. -/
theorem tells_other {clear : Prop} {t : StoreOp} (hi : StoreInv w.db) (hwrite : ∀ v, ¬ t.Writes env svc v)
    (hassign : ∀ name, ¬ t.Assigns name) (hchannel : SameChannel w (storeStep env svc w t)) :
    Tells clear w (storeStep env svc w t) := by
  have hadmits : Admits env svc t fun db db' =>
      StoreInv db → ∀ id row, db'.alert? id = some row → db.alert? id = some row := by
    refine ⟨⟨?_, ?_⟩, ?_, ?_, ?_, ?_, ?_⟩
    · intro db db' h _ id row hrow
      rwa [alert?_of_alerts h.alertRows] at hrow
    · intro db db' db'' h h' hi id row hrow
      rw [alert?_of_alerts h'.alertRows] at hrow
      exact h hi id row hrow
    · exact fun db now v hv => absurd hv (hwrite v)
    · exact fun db now user alertId analystName action seconds alert h => absurd h (hassign analystName)
    · exact fun db now user alertId note alert _ _ _ id row hrow => hrow
    · intro db cutoff _ hi id row hrow
      have hfind : (db.purged cutoff).alert? id = (db.alert? id).filter fun x => !(x.createdAt < cutoff) :=
        hi.distinct.lookup_filter _ id
      rw [hfind, Option.filter_eq_some_iff] at hrow
      exact hrow.1
    · exact fun db username passwordHash role _ id row hrow => hrow
  exact .quiet hchannel ((storeStep_admits hadmits w).rows hi)

/-- **What a transaction tells.** -/
theorem storeStep_tells (hr : env.redis = true) (hi : StoreInv w.db) (t : StoreOp) :
    Tells (t.announced env svc w = true) w (storeStep env svc w t) := by
  cases t with
  | apiIngestAlert b apiKey json =>
    simpa [StoreOp.announced, storeStep] using tells_apiIngestAlert (a := b) hr hi apiKey json
  | kafkaIngest b body => simpa [StoreOp.announced, storeStep] using tells_kafkaIngest (a := b) hr hi body
  | goIngest b req => exact tells_goIngest hi b req
  | apiClassify b session alertId json =>
    simpa [StoreOp.announced, storeStep] using tells_apiClassify (a := b) (w := w) hr session alertId json
  | apiAddNote b session alertId json =>
    refine tells_other hi (fun _ h => h) (fun _ h => h) ?_
    have hkeeps : Keeps SameChannel (apiAddNote env b session alertId json) := by
      refine keeps_loginRequired b session fun user => keeps_requireRole _ user ?_
      refine (Keeps.lift _).bind fun note => Keeps.ite (fun _ => Keeps.raise _) fun _ => ?_
      exact (keepsChannel_withConn _ _).bind fun row => Keeps.pure _
    exact hkeeps w
  | purgeOldAlerts b days =>
    refine tells_other hi (fun _ h => h) (fun _ h => h) ?_
    have hkeeps : Keeps SameChannel (purgeOldAlerts b days) :=
      Keeps.ite (fun _ => Keeps.pure _) fun _ => keepsChannel_withConn _ _
    exact hkeeps w
  | createUser b username pwHash role =>
    exact tells_other hi (fun _ h => h) (fun _ h => h) (keepsChannel_withConn _ _ w)

end Steps

section System

theorem sameChannel_serve {env : Env} {reads : Reads} {a : Ambient} {ra : ReadAmbient} {req : Request}
    (ht : (SystemOp.flask ⟨.http req, a, ra⟩).transaction = none) (w : World) :
    SameChannel w (serve env reads a req w).2 := by
  by_cases hwrites : req.method = .post ∧ req.endpoint.writes = true
  · obtain ⟨hpost, hwrites⟩ := hwrites
    rw [SystemOp.transaction, if_pos hpost] at ht
    -- a handler that writes was not reached, so the token was missing
    have hcsrf : ∃ reason, req.csrfError = some reason := by
      cases hcsrf : req.csrfError with
      | some reason => exact ⟨reason, rfl⟩
      | none =>
        exfalso
        cases he : req.endpoint <;> simp [Request.transaction, he, hcsrf, Endpoint.writes] at ht hwrites
    obtain ⟨reason, hcsrf⟩ := hcsrf
    have hne : req.endpoint ≠ .alerts := by
      intro he
      simp [Request.transaction, he] at ht
    have hmem : Method.post ∈ req.endpoint.methods := by
      cases he : req.endpoint <;> simp [he, Endpoint.writes, Endpoint.methods] at hwrites ⊢
    rw [serve_csrf hpost hmem hne hcsrf]
    rfl
  · refine keepsChannel_serve (fun hpost => ?_) w
    rw [← Bool.not_eq_true]
    exact fun h => hwrites ⟨hpost, h⟩

variable (site : Site) {env : Env} (svc : Service)

/-- **What a step of the system tells.** -/
theorem systemStep_tells (hr : env.redis = true) {w : World} (hi : StoreInv w.db) (op : SystemOp) :
    Tells (op.announced env svc w = true) w (systemStep site env svc w op) := by
  have hstep := systemStep_transaction site env svc w op
  unfold SystemOp.announced
  cases ht : op.transaction with
  | some t =>
    rw [ht] at hstep
    rw [hstep]
    exact storeStep_tells hr hi t
  | none =>
    rw [ht] at hstep
    refine .quiet ?_ (noNews_of_alerts (by rw [hstep]))
    match op, ht with
    | .flask ⟨.restart, a, ra⟩, _ => rfl
    | .flask ⟨.http req, a, ra⟩, ht =>
      have hchannel : SameChannel w (serve env (reads site env a ra) a req w).2 := sameChannel_serve ht w
      show SameChannel w (opStep site env w ⟨.http req, a, ra⟩).2
      rw [opStep_http]
      exact hchannel

end System

/-! ### What the channel tells -/

/-- The severity and the status of an alert, for somebody who has read `es`. -/
def told (es : List Event) (id : ℕ) : Option (Severity × Status) :=
  (es.filter fun e => e.alertId = id).getLast?.map fun e => (e.severity, e.status)

theorem told_append (es : List Event) (e : Event) (id : ℕ) :
    told (es ++ [e]) id = if e.alertId = id then some (e.severity, e.status) else told es id := by
  unfold told
  rw [List.filter_append]
  by_cases h : e.alertId = id
  · simp [h]
  · simp [h]

/-- The channel tells of every alert there is its severity and its status. -/
def ToldAll (w : World) : Prop :=
  ∀ id row, w.db.alert? id = some row → told w.published id = some (row.severity, row.status)

theorem toldAll_step {clear : Prop} {w w' : World} (h : Tells clear w w') (hclear : clear) (ht : ToldAll w) :
    ToldAll w' := by
  obtain ⟨es, hann, hnews⟩ := h
  intro id row hrow
  rcases es with _ | ⟨e, _ | ⟨e', es⟩⟩
  · rw [hann.channel, List.append_nil]
    exact ht id row (hnews hclear rfl id row hrow)
  · rw [hann.channel, told_append]
    by_cases hid : e.alertId = id
    · obtain ⟨row', hrow', hseverity, hstatus⟩ := hann.holds e List.mem_cons_self
      rw [hid, hrow] at hrow'
      cases hrow'
      rw [if_pos hid, hseverity, hstatus]
    · rw [if_neg hid]
      exact ht id row ((hann.others e List.mem_cons_self id (Ne.symm hid)).symm.trans hrow)
  · have hshort := hann.short
    simp at hshort

section Runs

variable (site : Site) {env : Env} (svc : Service)

/-- **The run lemma.** While nothing raises behind a commit, the channel tells the table. -/
theorem told_run (hr : env.redis = true) : ∀ (ops : List SystemOp) (w : World), StoreInv w.db → ToldAll w →
    Runs.EachStep (systemStep site env svc) (fun w op => op.announced env svc w = true) w ops →
    ToldAll (Runs.run (systemStep site env svc) w ops)
  | [], _, _, ht, _ => ht
  | op :: ops, w, hi, ht, h =>
    told_run hr ops _ (hi.step (systemStep_does site env svc w op))
      (toldAll_step (systemStep_tells site svc hr hi op) h.1 ht) h.2

/-- **The events tell the table.** From freshly created tables, whatever was on the
channel before: if in no step of the run something raises behind a commit, then
at the end the last event about any alert there is has its severity and its
status. -/
theorem told_systemRun (hr : env.redis = true) (w : World) (ops : List SystemOp)
    (h : Runs.EachStep (systemStep site env svc) (fun w op => op.announced env svc w = true)
      (w.setDb (applySchema none)) ops) :
    let w' := Runs.run (systemStep site env svc) (w.setDb (applySchema none)) ops
    ∀ row ∈ w'.db.alerts, told w'.published row.id = some (row.severity, row.status) := by
  intro w' row hrow
  have hall : ToldAll w' := told_run site svc hr ops _ StoreInv.created (fun id row h => by cases h) h
  exact hall row.id row ((storeInv_systemRun site env svc w ops).distinct.lookup_mem hrow)

end Runs

/-- An account is made, an alert comes in, and the analyst escalates it. -/
def escalationMoments : List Moment :=
  [⟨.createUser "asmith" "hash" .analyst, calm, portScanMoment.ra⟩,
    portScanMoment,
    ⟨.http ⟨.post, .classify 1, some 1, none, none,
      some (.obj [("analyst", .str "asmith"), ("action", .str "escalate")]), [], []⟩, calm, portScanMoment.ra⟩]

theorem told_escalation :
    let w := Runs.run (systemStep plainSite redisEnv exampleService) (emptyWorld.setDb (applySchema none))
      (escalationMoments.map .flask)
    (∀ row ∈ w.db.alerts, told w.published row.id = some (row.severity, row.status)) ∧
      w.published.map Event.status = [.open_, .escalated] := by
  have htold := told_systemRun plainSite exampleService (rfl : redisEnv.redis = true) emptyWorld
    (escalationMoments.map .flask) ⟨rfl, rfl, rfl, trivial⟩
  exact ⟨htold, rfl⟩

end SocDashboard
