/-
# The triage store

The writers of the alert tables as steps of one system, and what a step can do
to the store whatever it is asked and wherever it fails: nothing, one alert
more, one triage, one note, one purge, one account (`StoreStep`). The store's
own invariant says of every alert that the three tables tell one story about
it (`RecordOk`); it is kept by what a step can do, so it holds after any run.

Key definitions: `StoreStep`, `StoreOp`, `storeStep`, `Admits`, `RecordOk`,
`StoreInv`, `TriageStore`.
Key theorems: `storeStep_admits`, `storeStep_does`, `StoreStep.entries`,
`StoreInv.step`, `triageStore_run`.
-/
import SocDashboard.Lib.Runs
import SocDashboard.Triage
import SocDashboard.GoIngest

namespace SocDashboard

open Exec

/-! ### What one step can do -/

/-- What one transaction does to the store: `V` is what it may write as an
alert, `N` as a note, `C` where it may cut off old alerts. Embeddings and
sequence values are left open. -/
inductive StoreStep (V : AlertValues → Prop) (N : String → Prop) (C : Time → Prop) (db db' : Db) : Prop
  | unchanged (h : SameRows db db')
  | ingested (now : Time) (v : AlertValues) (hv : V v) (h : SameRows (db.withAlert now v) db')
  | triaged (now : Time) (user : User) (alertId : ℕ) (analystName : String) (action : Action)
      (seconds : ℤ) (alert : Alert) (hal : db.alert? alertId = some alert) (hopen : alert.status = .open_)
      (hs : 0 ≤ seconds) (h : SameRows (db.triaged now user alertId analystName action seconds) db')
  | noted (now : Time) (user : User) (alertId : ℕ) (note : String) (alert : Alert)
      (hal : db.alert? alertId = some alert) (hn : N note)
      (h : SameRows (db.noted now user alertId alert.status note) db')
  | purged (cutoff : Time) (hc : C cutoff) (h : SameRows (db.purged cutoff) db')
  | account (username passwordHash : String) (role : Role)
      (h : SameRows (db.withUser username passwordHash role) db')

section Steps

variable {V : AlertValues → Prop} {N : String → Prop} {C : Time → Prop}

theorem StoreStep.after {db db' db'' : Db} (h : StoreStep V N C db db') (h' : SameRows db' db'') :
    StoreStep V N C db db'' := by
  have ht : ∀ {d : Db}, SameRows d db' → SameRows d db'' := fun hd => IsTrans.trans _ _ _ hd h'
  cases h with
  | unchanged h => exact .unchanged (ht h)
  | ingested now v hv h => exact .ingested now v hv (ht h)
  | triaged now user alertId analystName action seconds alert hal hopen hs h =>
    exact .triaged now user alertId analystName action seconds alert hal hopen hs (ht h)
  | noted now user alertId note alert hal hn h => exact .noted now user alertId note alert hal hn (ht h)
  | purged cutoff hc h => exact .purged cutoff hc (ht h)
  | account username passwordHash role h => exact .account username passwordHash role (ht h)

/-- The worlds before and after a step. -/
abbrev Does (V : AlertValues → Prop) (N : String → Prop) (C : Time → Prop) : World → World → Prop :=
  OnDb (StoreStep V N C)

instance : Std.Refl (StoreStep V N C) := ⟨fun db => .unchanged (refl db)⟩

end Steps

/-! ### The system -/

/-- The transactions, one after another, each with what it is asked and what
it meets. -/
inductive StoreOp
  | apiIngestAlert (a : Ambient) (apiKey : Option String) (json : Option Json)
  | kafkaIngest (a : Ambient) (body : Json)
  | goIngest (a : GoAmbient) (req : AlertRequest)
  | apiClassify (a : Ambient) (session : Option ℕ) (alertId : ℕ) (json : Option Json)
  | apiAddNote (a : Ambient) (session : Option ℕ) (alertId : ℕ) (json : Option Json)
  | purgeOldAlerts (a : Ambient) (days : ℤ)
  | createUser (a : Ambient) (username pwHash : String) (role : Role)

def storeStep (env : Env) (svc : Service) (w : World) : StoreOp → World
  | .apiIngestAlert a apiKey json => (apiIngestAlert env a apiKey json w).2
  | .kafkaIngest a body => (kafkaIngest env a body w).2
  | .goIngest a req => (goIngest svc a req w).2
  | .apiClassify a session alertId json => (apiClassify env a session alertId json w).2
  | .apiAddNote a session alertId json => (apiAddNote env a session alertId json w).2
  | .purgeOldAlerts a days => (purgeOldAlerts a days w).2
  | .createUser a username pwHash role => (createInLocal a username pwHash role w).2

/-- What a step may write as an alert: the values an ingest path makes of what it is given. -/
def StoreOp.Writes (env : Env) (svc : Service) (op : StoreOp) (v : AlertValues) : Prop :=
  match op with
  | .apiIngestAlert a _ json =>
    ∃ title category severity, getText (orEmptyDict json) "title" = .ok title ∧ title ≠ "" ∧
      alertValues env a (orEmptyDict json) title category severity = .ok v
  | .kafkaIngest a body =>
    ∃ title category severity, getText body "title" = .ok title ∧ title ≠ "" ∧
      alertValues env a body title category severity = .ok v
  | .goIngest a req =>
    ∃ title sourceIp description severity, req.title ≠ "" ∧
      goAlertValues svc a req = .ok (title, sourceIp, description) ∧
        v = goRow req severity title sourceIp description
  | _ => False

/-- What the database checks of them; psycopg2 has done so before. -/
def StoreOp.Checks (op : StoreOp) (v : AlertValues) : Prop :=
  match op with
  | .goIngest _ _ => v.storable = true
  | _ => True

/-- What a step may write as a note. -/
def StoreOp.Notes (env : Env) (op : StoreOp) (text : String) : Prop :=
  match op with
  | .apiAddNote a _ _ json =>
    ∃ note, getText (orEmptyDict json) "note" = .ok note ∧ encodable (orEmptyDict json) "note" = true ∧
      note ≠ "" ∧ text = encryptStr env.scheme env.fernet (a.nonce .note) note
  | _ => False

/-- Where a step may cut off old alerts. -/
def StoreOp.Purges (op : StoreOp) (cutoff : Time) : Prop :=
  match op with
  | .purgeOldAlerts a days => cutoff = a.now - days * day
  | _ => False

/-- Whom a step may assign an alert to. -/
def StoreOp.Assigns (op : StoreOp) (analystName : String) : Prop :=
  match op with
  | .apiClassify _ _ _ json =>
    encodable (orEmptyDict json) "analyst" = true ∧ storable analystName = true ∧
      ∃ action, parseClassify (orEmptyDict json) = .ok (analystName, action)
  | _ => False

/-! ### What the handlers do to the rows -/

/-- A relation of databases that the sequences and embeddings do not matter to. -/
structure OnRows (R : Db → Db → Prop) : Prop where
  same : ∀ db db', SameRows db db' → R db db'
  after : ∀ db db' db'', R db db' → SameRows db' db'' → R db db''

section Handlers

variable {R : Db → Db → Prop}

theorem OnRows.isRefl (hR : OnRows R) : Std.Refl R := ⟨fun db => hR.same db db (refl db)⟩

theorem OnRows.onDb (hR : OnRows R) (w w' w'' : World) (h : OnDb R w w') (h' : SameDb w' w'') : OnDb R w w'' :=
  ⟨hR.after _ _ _ h.rows h'.rows, h'.tasks.trans h.tasks⟩

/-- `_insert_alert` stores one alert, with the values of its body, or nothing. -/
theorem keeps_insertAlert (hR : OnRows R) (env : Env) (a : Ambient) (body : Json)
    (title category : String) (severity : Severity)
    (hw : ∀ db v, alertValues env a body title category severity = .ok v → R db (db.withAlert a.now v)) :
    Keeps (OnDb R) (insertAlert env a body title category severity) := by
  refine Keeps.andThen hR.onDb (withConn_does a .main keeps_insertAlertBlock ?_ hR.same)
    fun created => keeps_afterInsert env a body title category created
  intro db row db' h
  obtain ⟨v, hv, -, -, rfl⟩ := insertAlertBlock_ok.mp h
  exact hw db v hv

theorem keeps_apiIngestAlert (hR : OnRows R) (env : Env) (a : Ambient) (apiKey : Option String)
    (json : Option Json)
    (hw : ∀ db title category severity v, getText (orEmptyDict json) "title" = .ok title → title ≠ "" →
      alertValues env a (orEmptyDict json) title category severity = .ok v → R db (db.withAlert a.now v)) :
    Keeps (OnDb R) (apiIngestAlert env a apiKey json) := by
  have : Std.Refl R := hR.isRefl
  refine Keeps.lift_bind fun valid _ => ?_
  cases valid with
  | false => exact Keeps.pure _
  | true =>
    refine Keeps.lift_bind fun (title, category, severity) hparse => ?_
    obtain ⟨hne, -, -, htitle⟩ := parseIngestPayload_eq_ok (readIngest_eq_ok.mp hparse).2
    have hval := fun db v => hw db title category severity v htitle hne
    exact Keeps.andThen hR.onDb (keeps_insertAlert hR env a _ _ _ _ hval) fun row => Keeps.pure _

theorem keeps_kafkaIngest (hR : OnRows R) (env : Env) (a : Ambient) (body : Json)
    (hw : ∀ db title category severity v, getText body "title" = .ok title → title ≠ "" →
      alertValues env a body title category severity = .ok v → R db (db.withAlert a.now v)) :
    Keeps (OnDb R) (kafkaIngest env a body) := by
  have : Std.Refl R := hR.isRefl
  refine Keeps.lift_bind fun (title, category, severity) hfields => ?_
  refine Keeps.ite (fun _ => Keeps.raise _) fun hblank => ?_
  · rw [not_or] at hblank
    cases Severity.ofName severity with
    | none => exact Keeps.raise _
    | some s =>
      have hval := fun db v => hw db title category s v (ingestFields_title hfields) hblank.1
      exact Keeps.andThen hR.onDb (keeps_insertAlert hR env a _ _ _ _ hval) fun row => Keeps.pure _

theorem keeps_publishSse (svc : Service) (a : GoAmbient) (resp : AlertResponse) :
    Keeps SameDb (publishSse svc a resp) := by
  exact Keeps.ite (fun _ => Keeps.modify fun w => ⟨refl w.db, rfl⟩) fun _ => Keeps.pure _

theorem keeps_goInsert (hR : OnRows R) (a : GoAmbient) (severity : String) {row : Severity → AlertValues}
    (hw : ∀ db s, (row s).storable = true → R db (db.withAlert a.now (row s))) :
    Keeps (OnDb R) (goInsert a severity row) := by
  have : Std.Refl R := hR.isRefl
  unfold goInsert
  cases a.insertErr with
  | some e => exact Keeps.raise _
  | none =>
    cases Severity.ofName severity with
    | none => exact Keeps.raise _
    | some s => exact Keeps.ite (fun hs w => ⟨hw w.db s hs, rfl⟩) fun _ => Keeps.raise _

theorem keeps_goIngest (hR : OnRows R) (svc : Service) (a : GoAmbient) (req : AlertRequest)
    (hw : ∀ db title sourceIp description severity, req.title ≠ "" →
      goAlertValues svc a req = .ok (title, sourceIp, description) →
        (goRow req severity title sourceIp description).storable = true →
          R db (db.withAlert a.now (goRow req severity title sourceIp description))) :
    Keeps (OnDb R) (goIngest svc a req) := by
  have : Std.Refl R := hR.isRefl
  unfold goIngest
  cases hvalid : validate svc.quote req with
  | some err => exact Keeps.raise _
  | none =>
    have hne := validate_title hvalid
    refine Keeps.lift_bind fun (title, sourceIp, description) hval => ?_
    exact Keeps.andThen (S := SameDb) hR.onDb
      (keeps_goInsert hR a _ fun db s => hw db title sourceIp description s hne hval) fun created =>
        (keeps_publishSse svc a _).bind fun _ => Keeps.pure _

theorem keeps_apiClassify (hR : OnRows R) (env : Env) (a : Ambient) (session : Option ℕ) (alertId : ℕ)
    (json : Option Json)
    (ht : ∀ db user analystName action seconds alert,
      parseClassify (orEmptyDict json) = .ok (analystName, action) →
        encodable (orEmptyDict json) "analyst" = true → storable analystName = true →
        db.alert? alertId = some alert → alert.status = .open_ → 0 ≤ seconds →
          R db (db.triaged a.now user alertId analystName action seconds)) :
    Keeps (OnDb R) (apiClassify env a session alertId json) := by
  have : Std.Refl R := hR.isRefl
  refine keeps_loginRequired a session fun user => keeps_requireRole _ user ?_
  refine Keeps.lift_bind fun (analystName, action) hparse => ?_
  refine Keeps.andThen (S := SameDb) hR.onDb
    (withConn_does a .main (keeps_classifyBlock analystName action) ?_ hR.same) fun updated =>
      (keeps_ssePublish env a _).bind fun _ => Keeps.pure _
  intro db row db' h
  obtain ⟨alert, seconds, hal, hopen, hnul, hs, -, -, -, rfl⟩ := classifyBlock_ok.mp h
  exact ht db user analystName action seconds alert (readClassify_eq_ok.mp hparse).2 hnul.1
    (decide_eq_true hnul.2) hal hopen (responseSeconds_nonneg hs)

theorem keeps_apiAddNote (hR : OnRows R) (env : Env) (a : Ambient) (session : Option ℕ) (alertId : ℕ)
    (json : Option Json)
    (hn : ∀ db user note alert, getText (orEmptyDict json) "note" = .ok note →
      encodable (orEmptyDict json) "note" = true → note ≠ "" →
      db.alert? alertId = some alert →
        R db (db.noted a.now user alertId alert.status
          (encryptStr env.scheme env.fernet (a.nonce .note) note))) :
    Keeps (OnDb R) (apiAddNote env a session alertId json) := by
  have : Std.Refl R := hR.isRefl
  refine keeps_loginRequired a session fun user => keeps_requireRole _ user ?_
  refine Keeps.lift_bind fun note hnote => ?_
  refine Keeps.ite (fun _ => Keeps.raise _) fun hne => ?_
  · refine Keeps.andThen (S := SameDb) hR.onDb
      (withConn_does a .main (keeps_noteBlock note) ?_ hR.same) fun row => Keeps.pure _
    intro db row db' h
    obtain ⟨alert, hal, hnul, -, -, -, rfl⟩ := noteBlock_ok.mp h
    exact hn db user note alert (readNote_eq_ok.mp hnote).2 hnul.1 hne hal

theorem keeps_purgeOldAlerts (hR : OnRows R) (a : Ambient) (days : ℤ)
    (hp : ∀ db, R db (db.purged (a.now - days * day))) : Keeps (OnDb R) (purgeOldAlerts a days) := by
  have : Std.Refl R := hR.isRefl
  unfold purgeOldAlerts
  split
  · exact Keeps.pure _
  · refine withConn_does a .main (Keeps.attempt (keeps_deleteAlertsBefore _)) ?_ hR.same
    intro db n db' h
    obtain ⟨-, h⟩ := attempt_eq_ok.mp h
    simp only [deleteAlertsBefore, Prod.mk.injEq] at h
    obtain ⟨-, rfl⟩ := h
    exact hp db

/-- What the block of `_create_in_local` does: it finds the name, or it stores the account. -/
theorem createInLocal_block {a : Ambient} {username pwHash : String} {role : Role} {db db' : Db} {made : Bool}
    (h : (do
      let username ← lift (adaptStr username)
      let found ← attempt (a.fails .selectUser) .databaseError
        (gets fun db => db.users.any fun u => u.username = username)
      if found then pure false
      else do
        attempt (a.fails .insertUser) .databaseError (insertUser username pwHash role)
        pure true : Exec Db Exc Bool) db = (.ok made, db')) :
    (made = false ∧ db' = db) ∨
      '\x00' ∉ username.toList ∧ ∃ stored, varchar 64 username = some stored ∧
        (∀ row ∈ db.users, row.username ≠ stored) ∧ db' = db.withUser stored pwHash role := by
  obtain ⟨name, db₁, hadapt, h⟩ := bind_eq_ok.mp h
  obtain ⟨hname, rfl⟩ := lift_eq_ok.mp hadapt
  obtain ⟨hnul, rfl⟩ := adaptStr_eq_ok.mp hname
  obtain ⟨found, db₂, hselect, h⟩ := bind_eq_ok.mp h
  obtain ⟨-, hselect⟩ := attempt_eq_ok.mp hselect
  simp only [gets_apply, Prod.mk.injEq, Except.ok.injEq] at hselect
  obtain ⟨rfl, rfl⟩ := hselect
  cases hfound : db.users.any fun u => u.username = username with
  | true =>
    simp only [hfound, if_true, pure_apply, Prod.mk.injEq, Except.ok.injEq] at h
    exact .inl ⟨h.1.symm, h.2.symm⟩
  | false =>
    simp only [hfound, Bool.false_eq_true, if_false] at h
    obtain ⟨_, db₃, hinsert, h⟩ := bind_eq_ok.mp h
    obtain ⟨-, hinsert⟩ := attempt_eq_ok.mp hinsert
    obtain ⟨stored, hstored, hfree, rfl⟩ := insertUser_eq_ok.mp hinsert
    simp only [pure_apply, Prod.mk.injEq] at h
    obtain ⟨-, rfl⟩ := h
    exact .inr ⟨hnul, stored, hstored, hfree, rfl⟩

theorem keeps_createInLocal (hR : OnRows R) (a : Ambient) (username pwHash : String) (role : Role)
    (hu : ∀ db stored, R db (db.withUser stored pwHash role)) :
    Keeps (OnDb R) (createInLocal a username pwHash role) := by
  refine withConn_does a .main ?_ ?_ hR.same
  · refine Keeps.lift_bind fun name _ => ?_
    refine Keeps.bind (Keeps.attempt (Keeps.gets _)) fun found => ?_
    exact Keeps.ite (fun _ => Keeps.pure _) fun _ =>
      Keeps.bind (Keeps.attempt (keeps_insertUser _ _ _)) fun _ => Keeps.pure _
  · intro db made db' h
    rcases createInLocal_block h with ⟨-, rfl⟩ | ⟨-, stored, -, -, rfl⟩
    · exact hR.same db' db' (refl db')
    · exact hu db stored

end Handlers

/-- `R` holds of what each transaction of the step does. -/
structure Admits (env : Env) (svc : Service) (op : StoreOp) (R : Db → Db → Prop) : Prop extends OnRows R where
  writes : ∀ db now v, op.Writes env svc v → op.Checks v → R db (db.withAlert now v)
  triages : ∀ db now user alertId analystName action seconds alert, op.Assigns analystName →
    db.alert? alertId = some alert → alert.status = .open_ → 0 ≤ seconds →
      R db (db.triaged now user alertId analystName action seconds)
  notes : ∀ db now user alertId note alert, op.Notes env note → db.alert? alertId = some alert →
    R db (db.noted now user alertId alert.status note)
  purges : ∀ db cutoff, op.Purges cutoff → R db (db.purged cutoff)
  accounts : ∀ db username passwordHash role, R db (db.withUser username passwordHash role)

/-- **What holds of the transactions of a step holds of the step**, whatever it meets. -/
theorem storeStep_admits {env : Env} {svc : Service} {op : StoreOp} {R : Db → Db → Prop}
    (h : Admits env svc op R) (w : World) : OnDb R w (storeStep env svc w op) := by
  have hR := h.toOnRows
  cases op with
  | apiIngestAlert a apiKey json =>
    exact keeps_apiIngestAlert hR env a apiKey json
      (fun db title category severity v ht hne hv => h.writes db a.now v ⟨_, _, _, ht, hne, hv⟩ trivial) w
  | kafkaIngest a body =>
    exact keeps_kafkaIngest hR env a body
      (fun db title category severity v ht hne hv => h.writes db a.now v ⟨_, _, _, ht, hne, hv⟩ trivial) w
  | goIngest a req =>
    exact keeps_goIngest hR svc a req
      (fun db title sourceIp description severity hne hv hs =>
        h.writes db a.now _ ⟨_, _, _, _, hne, hv, rfl⟩ hs) w
  | apiClassify a session alertId json =>
    exact keeps_apiClassify hR env a session alertId json
      (fun db user analystName action seconds alert hp henc hn =>
        h.triages db a.now user alertId analystName action seconds alert ⟨henc, hn, action, hp⟩) w
  | apiAddNote a session alertId json =>
    exact keeps_apiAddNote hR env a session alertId json
      (fun db user note alert hn henc hne =>
        h.notes db a.now user alertId _ alert ⟨note, hn, henc, hne, rfl⟩) w
  | purgeOldAlerts a days =>
    have hpurges : (StoreOp.purgeOldAlerts a days).Purges (a.now - days * day) := rfl
    exact keeps_purgeOldAlerts hR a days (fun db => h.purges db _ hpurges) w
  | createUser a username pwHash role =>
    exact keeps_createInLocal hR a username pwHash role (fun db stored => h.accounts db stored pwHash role) w

/-- **Every step does one of the things of `StoreStep`.** -/
theorem storeStep_does (env : Env) (svc : Service) (w : World) (op : StoreOp) :
    Does (op.Writes env svc) (op.Notes env) op.Purges w (storeStep env svc w op) := by
  refine storeStep_admits ⟨⟨?_, ?_⟩, ?_, ?_, ?_, ?_, ?_⟩ w
  · exact fun db db' h => .unchanged h
  · exact fun db db' db'' h h' => h.after h'
  · exact fun db now v hv _ => .ingested now v hv (refl _)
  · exact fun db now user alertId analystName action seconds alert _ hal hopen hs =>
      .triaged now user alertId analystName action seconds alert hal hopen hs (refl _)
  · exact fun db now user alertId note alert hn hal => .noted now user alertId note alert hal hn (refl _)
  · exact fun db cutoff hc => .purged cutoff hc (refl _)
  · exact fun db username passwordHash role => .account username passwordHash role (refl _)

/-! ### The invariant -/

/-- The `analyst_actions` rows of an alert. -/
def Db.actionsOf (db : Db) (alertId : ℕ) : List AnalystAction :=
  db.analystActions.filter fun x => x.alertId = alertId

/-- The `audit_log` rows of an alert that are not notes. -/
def Db.triagesOf (db : Db) (alertId : ℕ) : List AuditEntry :=
  db.auditLog.filter fun e => e.alertId = alertId ∧ e.action ≠ .noteAdded

/-- The rows of one alert tell one story: no triage yet, or one triage. -/
inductive RecordOk (alert : Alert) : List AnalystAction → List AuditEntry → Prop
  | untriaged (hs : alert.status = .open_) (ha : alert.assignedTo = none) : RecordOk alert [] []
  | triaged (x : AnalystAction) (e : AuditEntry) (action : Action) (seconds : ℤ)
      (hs : alert.status = actionToStatus action) (ha : alert.assignedTo = some x.analystName)
      (hx : x.action = action) (hr : x.responseTimeSeconds = some seconds) (h0 : 0 ≤ seconds)
      (he : e.action = .triage action) (hf : e.fromStatus = .open_) (ht : e.toStatus = alert.status) :
      RecordOk alert [x] [e]

/-- The ids of the alerts that are there. -/
def Db.alertIds (db : Db) : List ℕ := db.alerts.map Alert.id

/-- What every step keeps. -/
structure StoreInv (db : Db) : Prop where
  distinct : Table.Distinct Alert.id db.alerts
  fresh : ∀ alert ∈ db.alerts, alert.id < db.alertsSeq
  fk : db.auditAlertFk = true
  records : ∀ alert ∈ db.alerts, RecordOk alert (db.actionsOf alert.id) (db.triagesOf alert.id)
  actions : ∀ x ∈ db.analystActions, x.alertId ∈ db.alertIds
  audit : ∀ e ∈ db.auditLog, e.alertId ∈ db.alertIds

theorem StoreInv.created : StoreInv (applySchema none) where
  distinct := List.nodup_nil
  fresh := by simp [applySchema, emptyTables]
  fk := rfl
  records := by simp [applySchema, emptyTables]
  actions := by simp [applySchema, emptyTables]
  audit := by simp [applySchema, emptyTables]

theorem mem_alertIds_of_alert? {db : Db} {alertId : ℕ} {alert : Alert}
    (hal : db.alert? alertId = some alert) : alertId ∈ db.alertIds :=
  List.mem_map.mpr ⟨alert, Table.lookup_mem hal, Table.lookup_key hal⟩

/-- A purge keeps the rows that were about the alerts it keeps. -/
theorem mem_purged_alertIds {db : Db} {cutoff : Time} {id : ℕ} (hid : id ∈ db.alertIds)
    (hex : db.expired cutoff id = false) : id ∈ (db.purged cutoff).alertIds := by
  obtain ⟨alert, ha, rfl⟩ := List.mem_map.mp hid
  refine List.mem_map_of_mem (List.mem_filter.mpr ⟨ha, ?_⟩)
  have hx := (List.any_eq_false.mp hex) alert ha
  simpa using hx

/-! ### What one step does to the rows -/

section Rows

variable {V : AlertValues → Prop} {N : String → Prop} {C : Time → Prop} {db db' : Db}

theorem StoreStep.seqLe (h : StoreStep V N C db db') : SeqLe db db' := by
  have hle : ∀ d : Db, SeqLe db d → SameRows d db' → SeqLe db db' := fun _ hd hs =>
    IsTrans.trans _ _ _ hd hs.toSeqLe
  cases h with
  | unchanged h => exact h.toSeqLe
  | ingested now v _ h =>
    exact hle (db.withAlert now v) ⟨Nat.le_succ _, le_rfl, le_rfl, le_rfl⟩ h
  | triaged now user alertId analystName action seconds alert _ _ _ h =>
    exact hle (db.triaged now user alertId analystName action seconds)
      ⟨le_rfl, Nat.le_succ _, Nat.le_succ _, le_rfl⟩ h
  | noted now user alertId note alert _ _ h =>
    exact hle (db.noted now user alertId alert.status note) ⟨le_rfl, le_rfl, Nat.le_succ _, le_rfl⟩ h
  | purged cutoff _ h => exact hle (db.purged cutoff) ⟨le_rfl, le_rfl, le_rfl, le_rfl⟩ h
  | account username passwordHash role h =>
    exact hle (db.withUser username passwordHash role) ⟨le_rfl, le_rfl, le_rfl, Nat.le_succ _⟩ h

/-- The ids after a transaction: those before, less what a purge took, and perhaps the next one. -/
theorem StoreStep.ids (h : StoreStep V N C db db') :
    db'.alertIds = db.alertIds ∨ (∃ cutoff, C cutoff ∧ db'.alerts = (db.purged cutoff).alerts) ∨
      (db'.alertIds = db.alertIds ++ [db.alertsSeq] ∧ db.alertsSeq < db'.alertsSeq) := by
  cases h with
  | unchanged h => exact Or.inl (by rw [Db.alertIds, h.alertRows]; rfl)
  | ingested now v _ h =>
    refine Or.inr (Or.inr ⟨?_, lt_of_lt_of_le (Nat.lt_succ_self _) h.alerts⟩)
    rw [Db.alertIds, h.alertRows, Db.withAlert, List.map_append]
    rfl
  | triaged now user alertId analystName action seconds alert _ _ _ h =>
    refine Or.inl ?_
    rw [Db.alertIds, h.alertRows]
    exact Table.update_keys (assign_id _ _) alertId db.alerts
  | noted now user alertId note alert _ _ h => exact Or.inl (by rw [Db.alertIds, h.alertRows]; rfl)
  | purged cutoff hc h => exact Or.inr (Or.inl ⟨cutoff, hc, h.alertRows⟩)
  | account username passwordHash role h => exact Or.inl (by rw [Db.alertIds, h.alertRows]; rfl)

theorem StoreStep.distinct (h : StoreStep V N C db db') (hd : Table.Distinct Alert.id db.alerts)
    (hlt : ∀ alert ∈ db.alerts, alert.id < db.alertsSeq) : Table.Distinct Alert.id db'.alerts := by
  have hold : db.alertIds.Nodup := hd
  rcases h.ids with hids | ⟨cutoff, -, hrows⟩ | ⟨hids, -⟩
  · show db'.alertIds.Nodup
    rw [hids]
    exact hold
  · rw [hrows]
    exact hd.filter _
  · show db'.alertIds.Nodup
    rw [hids]
    refine List.nodup_append.mpr ⟨hold, by simp, fun id hid id' hid' => ?_⟩
    obtain ⟨alert, ha, rfl⟩ := List.mem_map.mp hid
    rw [List.mem_singleton.mp hid']
    exact (hlt alert ha).ne

theorem StoreStep.fresh (h : StoreStep V N C db db') (hlt : ∀ alert ∈ db.alerts, alert.id < db.alertsSeq) :
    ∀ alert ∈ db'.alerts, alert.id < db'.alertsSeq := by
  intro alert ha
  have hseq := h.seqLe.alerts
  have hid : alert.id ∈ db'.alertIds := List.mem_map_of_mem ha
  have hold : alert.id ∈ db.alertIds → alert.id < db'.alertsSeq := by
    intro hmem
    obtain ⟨alert₀, h₀, heq⟩ := List.mem_map.mp hmem
    have := hlt alert₀ h₀
    omega
  rcases h.ids with hids | ⟨cutoff, -, hrows⟩ | ⟨hids, hnext⟩
  · exact hold (hids ▸ hid)
  · rw [hrows] at ha
    exact hold (List.mem_map_of_mem (List.mem_of_mem_filter ha))
  · rw [hids] at hid
    rcases List.mem_append.mp hid with hmem | hnew
    · exact hold hmem
    · rw [List.mem_singleton.mp hnew]
      exact hnext

/-- The values of an alert after a step were there or may be written. -/
theorem StoreStep.values (h : StoreStep V N C db db') : ∀ row ∈ db'.alerts,
    (∃ row₀ ∈ db.alerts, row₀.toAlertValues = row.toAlertValues) ∨ V row.toAlertValues := by
  intro row hrow
  cases h with
  | unchanged h =>
    rw [h.alertRows] at hrow
    exact Or.inl ⟨row, hrow, rfl⟩
  | ingested now v hv h =>
    rw [h.alertRows] at hrow
    rcases List.mem_append.mp hrow with hold | hnew
    · exact Or.inl ⟨row, hold, rfl⟩
    · rw [List.mem_singleton.mp hnew]
      exact Or.inr hv
  | triaged now user alertId analystName action seconds alert _ _ _ h =>
    rw [h.alertRows] at hrow
    rcases Table.mem_update.mp hrow with ⟨row₀, h₀, -, rfl⟩ | ⟨h₀, -⟩
    · exact Or.inl ⟨row₀, h₀, rfl⟩
    · exact Or.inl ⟨row, h₀, rfl⟩
  | noted now user alertId note alert _ _ h =>
    rw [h.alertRows] at hrow
    exact Or.inl ⟨row, hrow, rfl⟩
  | purged cutoff _ h =>
    rw [h.alertRows] at hrow
    exact Or.inl ⟨row, List.mem_of_mem_filter hrow, rfl⟩
  | account username passwordHash role h =>
    rw [h.alertRows] at hrow
    exact Or.inl ⟨row, hrow, rfl⟩

/-- The entry a step appended: the next one, about an alert that was there. -/
structure NewEntry (N : String → Prop) (db db' : Db) (e : AuditEntry) : Prop where
  appended : db'.auditLog = db.auditLog ++ [e]
  next : e.id = db.auditSeq
  seq : db.auditSeq < db'.auditSeq
  alert : e.alertId ∈ db.alertIds
  note : ∀ note, e.note = some note → N note

/-- An entry after a step was there or is the one it appended. -/
theorem StoreStep.entries (h : StoreStep V N C db db') :
    ∀ e ∈ db'.auditLog, e ∈ db.auditLog ∨ NewEntry N db db' e := by
  intro e he
  have happended : ∀ {x : AuditEntry}, NewEntry N db db' x → e ∈ db.auditLog ∨ NewEntry N db db' e := by
    intro x hx
    rw [hx.appended] at he
    rcases List.mem_append.mp he with hold | hnew
    · exact Or.inl hold
    · rw [List.mem_singleton.mp hnew]
      exact Or.inr hx
  cases h with
  | unchanged h => exact Or.inl (h.auditRows ▸ he)
  | ingested now v _ h => exact Or.inl (by rwa [h.auditRows] at he)
  | triaged now user alertId analystName action seconds alert hal _ _ h =>
    -- a triage entry has no note
    exact happended ⟨h.auditRows, rfl, Nat.lt_of_succ_le h.audit, mem_alertIds_of_alert? hal,
      fun note hnote => absurd hnote (Option.some_ne_none note).symm⟩
  | noted now user alertId note alert hal hn h =>
    exact happended ⟨h.auditRows, rfl, Nat.lt_of_succ_le h.audit, mem_alertIds_of_alert? hal,
      fun note' hnote => Option.some.inj hnote ▸ hn⟩
  | purged cutoff _ h =>
    rw [h.auditRows] at he
    simp only [Db.purged] at he
    split_ifs at he
    · exact Or.inl (List.mem_of_mem_filter he)
    · exact Or.inl he
  | account username passwordHash role h => exact Or.inl (by rwa [h.auditRows] at he)

end Rows

namespace StoreInv

variable {db db' : Db}

theorem of_same (h : SameRows db db') (hi : StoreInv db) : StoreInv db' where
  distinct := by rw [h.alertRows]; exact hi.distinct
  fresh := by
    rw [h.alertRows]
    exact fun alert ha => (hi.fresh alert ha).trans_le h.alerts
  fk := h.alertFk.trans hi.fk
  records := by
    simp only [Db.actionsOf, Db.triagesOf, h.alertRows, h.actionRows, h.auditRows]
    exact hi.records
  actions := by simpa only [Db.alertIds, h.alertRows, h.actionRows] using hi.actions
  audit := by simpa only [Db.alertIds, h.alertRows, h.auditRows] using hi.audit

theorem id_lt (hi : StoreInv db) {id : ℕ} (hid : id ∈ db.alertIds) : id < db.alertsSeq := by
  obtain ⟨alert, ha, rfl⟩ := List.mem_map.mp hid
  exact hi.fresh alert ha

/-- No row refers to an id that the sequence has not given out. -/
theorem no_rows_ahead (hi : StoreInv db) {id : ℕ} (hid : db.alertsSeq ≤ id) :
    db.actionsOf id = [] ∧ db.triagesOf id = [] := by
  constructor
  · refine List.filter_eq_nil_iff.mpr fun x hx => ?_
    have := hi.id_lt (hi.actions x hx)
    simp only [decide_eq_true_eq]
    omega
  · refine List.filter_eq_nil_iff.mpr fun e he => ?_
    have := hi.id_lt (hi.audit e he)
    simp only [decide_eq_true_eq]
    omega

theorem withAlert (hi : StoreInv db) (now : Time) (v : AlertValues) : StoreInv (db.withAlert now v) where
  distinct := hi.distinct.append hi.fresh
  fresh := by
    intro alert ha
    rcases List.mem_append.mp ha with ha | ha
    · exact (hi.fresh alert ha).trans (Nat.lt_succ_self _)
    · rw [List.mem_singleton.mp ha]
      exact Nat.lt_succ_self _
  fk := hi.fk
  records := by
    intro alert ha
    rcases List.mem_append.mp ha with ha | ha
    · exact hi.records alert ha
    · obtain rfl := List.mem_singleton.mp ha
      obtain ⟨h₁, h₂⟩ := hi.no_rows_ahead (le_refl db.alertsSeq)
      have hrec : RecordOk (db.newAlert now v) [] [] := .untriaged rfl rfl
      rw [← h₁, ← h₂] at hrec
      exact hrec
  actions := by
    intro x hx
    simp only [Db.alertIds, Db.withAlert, List.map_append]
    exact List.mem_append_left _ (hi.actions x hx)
  audit := by
    intro e he
    simp only [Db.alertIds, Db.withAlert, List.map_append]
    exact List.mem_append_left _ (hi.audit e he)

/-- An open alert has no triage on record. -/
theorem untriaged (hi : StoreInv db) {alertId : ℕ} {alert : Alert} (hal : db.alert? alertId = some alert)
    (hopen : alert.status = .open_) : db.actionsOf alertId = [] ∧ db.triagesOf alertId = [] := by
  obtain rfl := Table.lookup_key hal
  generalize hA : db.actionsOf alert.id = A
  generalize hT : db.triagesOf alert.id = T
  have hrec := hi.records alert (Table.lookup_mem hal)
  rw [hA, hT] at hrec
  cases hrec with
  | untriaged _ _ => exact ⟨rfl, rfl⟩
  | triaged x e action seconds hs => exact absurd (hs.symm.trans hopen) (actionToStatus_ne_open action)

/-- With an entry about an alert that is there, all entries are. -/
theorem mem_alertIds_of_append (hi : StoreInv db) {alertId : ℕ} {alert : Alert}
    (hal : db.alert? alertId = some alert) {entry e : AuditEntry} (hentry : entry.alertId = alertId)
    (he : e ∈ db.auditLog ++ [entry]) : e.alertId ∈ db.alertIds := by
  rcases List.mem_append.mp he with he | he
  · exact hi.audit e he
  · rw [List.mem_singleton.mp he, hentry]
    exact mem_alertIds_of_alert? hal

theorem triaged (hi : StoreInv db) {now : Time} {user : User} {alertId : ℕ} {analystName : String}
    {action : Action} {seconds : ℤ} {alert : Alert} (hal : db.alert? alertId = some alert)
    (hopen : alert.status = .open_) (hs : 0 ≤ seconds) :
    StoreInv (db.triaged now user alertId analystName action seconds) where
  distinct := hi.distinct.update (assign_id _ _) alertId
  fresh := by
    intro row hrow
    rcases Table.mem_update.mp hrow with ⟨row₀, h₀, -, rfl⟩ | ⟨h₀, -⟩
    · exact hi.fresh row₀ h₀
    · exact hi.fresh row h₀
  fk := hi.fk
  records := by
    obtain ⟨hA, hT⟩ := hi.untriaged hal hopen
    intro row hrow
    simp only [Db.actionsOf, Db.triagesOf] at hA hT
    simp only [Db.actionsOf, Db.triagesOf, Db.triaged, Db.withAudit, Db.withAction, Db.assigned,
      List.filter_append]
    rcases Table.mem_update.mp hrow with ⟨row₀, -, hk, rfl⟩ | ⟨h₀, hk⟩
    · -- the alert itself: it had no record, now it has this one
      have hrec : RecordOk (Db.assign (actionToStatus action) analystName row₀)
          [⟨db.actionsSeq, alertId, analystName, action, now, some seconds⟩]
          [⟨db.auditSeq, alertId, user.id, user.username, .triage action, .open_, actionToStatus action,
            none, now⟩] := .triaged _ _ action seconds rfl rfl rfl rfl hs rfl rfl rfl
      simp only [assign_id, hk, hA, hT, List.nil_append]
      simpa using hrec
    · simpa [Db.actionsOf, Db.triagesOf, Ne.symm hk] using hi.records row h₀
  actions := by
    intro x hx
    have hids : (db.triaged now user alertId analystName action seconds).alertIds = db.alertIds :=
      Table.update_keys (assign_id _ _) alertId db.alerts
    rw [hids]
    rcases List.mem_append.mp hx with hx | hx
    · exact hi.actions x hx
    · rw [List.mem_singleton.mp hx]
      exact mem_alertIds_of_alert? hal
  audit := by
    intro e he
    have hids : (db.triaged now user alertId analystName action seconds).alertIds = db.alertIds :=
      Table.update_keys (assign_id _ _) alertId db.alerts
    rw [hids]
    exact hi.mem_alertIds_of_append hal rfl he

theorem noted (hi : StoreInv db) {now : Time} {user : User} {alertId : ℕ} {status : Status}
    {note : String} {alert : Alert} (hal : db.alert? alertId = some alert) :
    StoreInv (db.noted now user alertId status note) where
  distinct := hi.distinct
  fresh := hi.fresh
  fk := hi.fk
  records := by
    intro row hrow
    -- a note is no triage
    simpa [Db.actionsOf, Db.triagesOf, Db.noted, Db.withAudit, List.filter_append] using hi.records row hrow
  actions := hi.actions
  audit := by
    intro e he
    exact hi.mem_alertIds_of_append hal rfl he

theorem purged (hi : StoreInv db) (cutoff : Time) : StoreInv (db.purged cutoff) where
  distinct := hi.distinct.filter _
  fresh := fun alert ha => hi.fresh alert (List.mem_of_mem_filter ha)
  fk := hi.fk
  records := by
    intro alert ha
    obtain ⟨hm, hold⟩ := List.mem_filter.mp ha
    -- ids are distinct, so the rows of an alert that stays all stay
    have hex : db.expired cutoff alert.id = false := by
      refine List.any_eq_false.mpr fun b hb => ?_
      simp only [Bool.and_eq_true, decide_eq_true_eq, not_and]
      intro hid
      rw [hi.distinct.eq hb hm hid]
      simpa using hold
    have hA : (db.purged cutoff).actionsOf alert.id = db.actionsOf alert.id := by
      simp only [Db.actionsOf, Db.purged, List.filter_filter]
      refine List.filter_congr fun x _ => ?_
      by_cases hx : x.alertId = alert.id <;> simp [hx, hex]
    have hT : (db.purged cutoff).triagesOf alert.id = db.triagesOf alert.id := by
      simp only [Db.triagesOf, Db.purged, hi.fk, if_true, List.filter_filter]
      refine List.filter_congr fun e _ => ?_
      by_cases hx : e.alertId = alert.id <;> simp [hx, hex]
    rw [hA, hT]
    exact hi.records alert hm
  actions := by
    intro x hx
    obtain ⟨hm, hex⟩ := List.mem_filter.mp hx
    exact mem_purged_alertIds (hi.actions x hm) (by simpa using hex)
  audit := by
    intro e he
    simp only [Db.purged, hi.fk, if_true] at he
    obtain ⟨hm, hex⟩ := List.mem_filter.mp he
    exact mem_purged_alertIds (hi.audit e hm) (by simpa using hex)

theorem withUser (hi : StoreInv db) (username passwordHash : String) (role : Role) :
    StoreInv (db.withUser username passwordHash role) :=
  ⟨hi.distinct, hi.fresh, hi.fk, hi.records, hi.actions, hi.audit⟩

/-- **The step lemma.** Whatever a step can do keeps the invariant. -/
theorem step {V : AlertValues → Prop} {N : String → Prop} {C : Time → Prop} (hi : StoreInv db)
    (h : StoreStep V N C db db') : StoreInv db' := by
  cases h with
  | unchanged h => exact hi.of_same h
  | ingested now v _ h => exact (hi.withAlert now v).of_same h
  | triaged now user alertId analystName action seconds alert hal hopen hs h =>
    exact (hi.triaged hal hopen hs).of_same h
  | noted now user alertId note alert hal _ h => exact (hi.noted hal).of_same h
  | purged cutoff _ h => exact (hi.purged cutoff).of_same h
  | account username passwordHash role h => exact (hi.withUser username passwordHash role).of_same h

end StoreInv

/-! ### What the dashboard relies on -/

/-- The rows about one alert, as the dashboard reads them. -/
structure TriageTold (db : Db) (alert : Alert) : Prop where
  unassigned : alert.status = .open_ ↔ alert.assignedTo = none
  noAction : alert.status = .open_ ↔ db.actionsOf alert.id = []
  noTriage : alert.status = .open_ ↔ db.triagesOf alert.id = []
  triage : alert.status ≠ .open_ → ∃ x e action seconds,
    db.actionsOf alert.id = [x] ∧ db.triagesOf alert.id = [e] ∧
      x.action = action ∧ e.action = .triage action ∧
      actionToStatus action = e.toStatus ∧ e.toStatus = alert.status ∧ e.fromStatus = .open_ ∧
      alert.assignedTo = some x.analystName ∧ x.responseTimeSeconds = some seconds ∧ 0 ≤ seconds

/-- Every alert's rows tell its triage, and every row is about an alert. -/
structure TriageStore (db : Db) : Prop where
  told : ∀ alert ∈ db.alerts, TriageTold db alert
  actions : ∀ x ∈ db.analystActions, ∃ alert ∈ db.alerts, alert.id = x.alertId
  audit : ∀ e ∈ db.auditLog, ∃ alert ∈ db.alerts, alert.id = e.alertId

theorem StoreInv.triageStore {db : Db} (hi : StoreInv db) : TriageStore db where
  told := by
    intro alert ha
    generalize hA : db.actionsOf alert.id = A
    generalize hT : db.triagesOf alert.id = T
    have hrec := hi.records alert ha
    rw [hA, hT] at hrec
    cases hrec with
    | untriaged hs hn =>
      exact ⟨by simp [hs, hn], by simp [hs, hA], by simp [hs, hT], fun hne => absurd hs hne⟩
    | triaged x e action seconds hs hn hx hr h0 he hf ht =>
      have hne : alert.status ≠ .open_ := hs ▸ actionToStatus_ne_open action
      refine ⟨by simp [hne, hn], by simp [hne, hA], by simp [hne, hT], fun _ => ?_⟩
      exact ⟨x, e, action, seconds, hA, hT, hx, he, (ht.trans hs).symm, ht, hf, hn, hr, h0⟩
  actions := fun x hx => List.mem_map.mp (hi.actions x hx)
  audit := fun e he => List.mem_map.mp (hi.audit e he)

/-- The invariant holds after any run from the empty tables. -/
theorem storeInv_run (env : Env) (svc : Service) (w : World) (ops : List StoreOp) :
    StoreInv (Runs.run (storeStep env svc) (w.setDb (applySchema none)) ops).db :=
  Runs.run_inv (storeStep env svc) (I := fun w => StoreInv w.db)
    (fun w op hi => hi.step (storeStep_does env svc w op).rows) ops (w.setDb (applySchema none))
    StoreInv.created

/-- **The triage store keeps its books.** After any transactions on freshly
created tables, whatever they are asked and wherever they fail, an alert is
open exactly when it is unassigned, has no action and no triage entry;
otherwise one action and one audit entry tell the same triage. -/
theorem triageStore_run (env : Env) (svc : Service) (w : World) (ops : List StoreOp) :
    TriageStore (Runs.run (storeStep env svc) (w.setDb (applySchema none)) ops).db :=
  (storeInv_run env svc w ops).triageStore

end SocDashboard
