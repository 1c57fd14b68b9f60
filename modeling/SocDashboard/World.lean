/-
# The Flask process and what it calls

`Env` is what the process reads at start, `World` what its requests change,
`Ambient` what one request meets: the clock, the nonces its encryptions draw
and the calls to collaborators that fail. A handler is an `Exec` over the
world; `withConn` is the psycopg2 connection block, which commits when it ends
normally and rolls back on an exception, and `respond` turns what escapes a
handler into the answer of the error handlers.

Key definitions: `Env`, `World`, `Ambient`, `withConn`, `ssePublish`,
`loginRequired`, `requireRole`, `respond`.
Key theorems: `withConn_ok`, `withConn_error`, `loginRequired_eq`,
`ssePublish_inProcess`.
-/
import SocDashboard.Answers
import SocDashboard.Crypto
import SocDashboard.Sql
import Mathlib.Data.List.Perm.Subperm

namespace SocDashboard

open Exec

/-- The connections a request opens. -/
inductive Conn
  | user
  | main
  | embedding
  deriving DecidableEq, Repr

/-- The calls of a request that can fail. -/
inductive Call
  | connect (c : Conn)
  | commit (c : Conn)
  | selectUser
  | selectAlert
  | select
  | insertAlert
  | updateAlert
  | insertAction
  | insertAudit
  | insertUser
  | deleteAlerts
  | truncate
  | loadModel
  | embed
  | insertEmbedding
  | publish
  | conductorClient
  | conductorUpdate
  deriving DecidableEq, Repr

/-- The encrypted columns. -/
inductive Column
  | title
  | sourceIp
  | description
  | note
  deriving DecidableEq, Repr

structure Ambient where
  now : Time
  nonce : Column → Nonce
  fails : Call → Bool
  /-- `type(exc).__name__` of what the Conductor client raises. -/
  conductorExc : String

structure Env where
  scheme : FernetScheme
  /-- `FERNET`. -/
  fernet : Option FernetKey
  /-- `ALERTS_API_KEY`. -/
  alertsApiKey : Option String
  /-- `_REDIS_CLIENT is not None`. -/
  redis : Bool
  /-- The Conductor SDK can be imported. -/
  conductorSdk : Bool
  /-- `CONDUCTOR_SERVER_URL`. -/
  conductorServerUrl : Option String
  /-- How many levels of nesting `json.loads` takes below the first. -/
  nesting : ℕ
  /-- `str` of a value that is not a string. -/
  pyStr : Json → String
  /-- What psycopg2 and the cast to `TEXT` make of a bound number, boolean or list. -/
  adaptOther : Json → Option String
  /-- The vector of `model.embed`, its entries joined by commas. -/
  embedVector : String → String
  /-- `bcrypt.checkpw`. -/
  checkpw : String → String → Except Exc Bool

/-- `_EMBEDDING_MODEL`. -/
inductive ModelState
  | notLoaded
  | loaded
  | failed
  deriving DecidableEq, Repr

inductive EventType
  | newAlert
  | statusChange
  deriving DecidableEq, Repr

structure Event where
  type : EventType
  alertId : ℕ
  severity : Severity
  status : Status
  deriving DecidableEq, Repr

/-- A `queue.Queue(maxsize=100)` of a stream. -/
structure SseQueue where
  id : ℕ
  items : List Event
  deriving DecidableEq, Repr

/-- A call of `update_task_sync`. -/
structure TaskUpdate where
  workflowId : String
  taskRefName : String
  status : String
  approvedBy : String
  note : String
  deriving DecidableEq, Repr

structure World where
  db : Db
  embeddingModel : ModelState
  /-- `_sse_subscribers`. -/
  sseSubscribers : List SseQueue
  /-- What the Redis channel was given. -/
  published : List Event
  taskUpdates : List TaskUpdate
  deriving DecidableEq, Repr

def World.setDb (db : Db) (w : World) : World := { w with db := db }

/-- What an answer carries. -/
inductive Payload
  | error (message : String)
  | alert (row : Alert)
  | noteCreated (id : ℕ) (createdAt : Time)
  | released (workflowRunId approvedBy : String)
  | location (url : String)
  | page
  | alertPage (page : AlertPage)
  | similar (alerts : List SimilarAlert)
  | stats (stats : Stats)
  | auditHistory (rows : List AuditEntry)
  | auditPage (page : AuditPage)
  | layer (layer : NavigatorLayer)
  deriving DecidableEq, Repr

structure Response where
  status : ℕ
  payload : Payload
  /-- The account the answer's cookie logs in. -/
  loginAs : Option ℕ := none
  deriving DecidableEq, Repr

def Response.isError (r : Response) : Prop := 400 ≤ r.status

instance (r : Response) : Decidable r.isError := inferInstanceAs (Decidable (400 ≤ r.status))

/-- `_json_error` for `abort`, `_handle_500` for anything else. -/
def Exc.response : Exc → Response
  | .abort code description => ⟨code, .error description, none⟩
  | _ => ⟨500, .error "internal server error", none⟩

def respond (handler : Exec World Exc Response) (w : World) : Response × World :=
  match handler w with
  | (.ok r, w') => (r, w')
  | (.error e, w') => (e.response, w')

/-- `with get_conn() as conn, conn.cursor() as cur`. -/
def withConn {α : Type} (a : Ambient) (c : Conn) (block : Exec Db Exc α) : Exec World Exc α :=
  attempt (a.fails (.connect c)) .databaseError <|
    zoom World.db World.setDb <| atomically Db.rollback do
      let x ← block
      attempt (a.fails (.commit c)) .databaseError (pure x)

/-! ### Request bodies -/

/-- The body is not nested too deep for `json.loads`. -/
def parses (env : Env) (json : Option Json) : Bool := (json.getD .null).depth ≤ env.nesting + 1

/-- `request.get_json(silent=True) or {}`: of what `json.loads` raises, only a `ValueError` is
silenced. -/
def getJson (env : Env) (json : Option Json) : Except Exc Json :=
  if parses env json then .ok (orEmptyDict json) else .error .recursionError

section GetJson

variable {env : Env} {json : Option Json} {α : Type}

theorem getJson_bind_of_parses (h : parses env json = true) (read : Json → Except Exc α) :
    (getJson env json >>= read) = read (orEmptyDict json) := by
  rw [getJson, if_pos h]
  rfl

theorem getJson_bind_of_not_parses (h : parses env json = false) (read : Json → Except Exc α) :
    (getJson env json >>= read) = .error .recursionError := by
  rw [getJson, if_neg (by simp [h])]
  rfl

theorem getJson_bind_eq_ok {read : Json → Except Exc α} {x : α} :
    (getJson env json >>= read) = .ok x ↔ parses env json = true ∧ read (orEmptyDict json) = .ok x := by
  cases h : parses env json with
  | true => simp [getJson_bind_of_parses h]
  | false => simp [getJson_bind_of_not_parses h]

end GetJson

/-! ### Sessions and roles -/

structure User where
  id : ℕ
  username : String
  role : Role
  deriving DecidableEq, Repr

/-- `load_user`, for the user id of the session cookie. -/
def loadUser (a : Ambient) (session : Option ℕ) : Exec World Exc (Option User) :=
  match session with
  | none => pure none
  | some userId => do
    let row ← withConn a .user <| attempt (a.fails .selectUser) .databaseError <|
      gets fun db => Table.lookup UserRow.id userId db.users
    pure (row.map fun u => ⟨u.id, u.username, u.role⟩)

/-- `@login_required`: whoever is not logged in is sent to the login page. -/
def loginRequired (a : Ambient) (session : Option ℕ) (view : User → Exec World Exc Response) :
    Exec World Exc Response := do
  match ← loadUser a session with
  | none => pure ⟨302, .location "/login", none⟩
  | some user => view user

/-- `@require_role`, of a user who is logged in. -/
def requireRole (roles : List Role) (user : User) (view : Exec World Exc Response) :
    Exec World Exc Response :=
  if user.role ∈ roles then view else raise (.abort 403 "insufficient role")

/-! ### Server-sent events -/

/-- `q.put_nowait(event)`; `none` is `queue.Full`. -/
def SseQueue.putNowait (q : SseQueue) (event : Event) : Option SseQueue :=
  if q.items.length < 100 then some { q with items := q.items ++ [event] } else none

/-- The queues after every one was offered the event. -/
def offerAll (event : Event) (subscribers : List SseQueue) : List SseQueue :=
  subscribers.map fun q => (q.putNowait event).getD q

/-- The queues that were full. -/
def dead (event : Event) (subscribers : List SseQueue) : List ℕ :=
  (subscribers.filter fun q => (q.putNowait event).isNone).map SseQueue.id

/-- `_sse_subscribers.remove(q)`, which raises when `q` is not in the list. -/
def removeQueue (id : ℕ) (subscribers : List SseQueue) : Except Exc (List SseQueue) :=
  if subscribers.any fun q => q.id = id then .ok (subscribers.eraseP fun q => q.id = id)
  else .error .valueError

def removeAll : List ℕ → List SseQueue → Except Exc (List SseQueue)
  | [], subscribers => .ok subscribers
  | id :: ids, subscribers =>
    match removeQueue id subscribers with
    | .error e => .error e
    | .ok rest => removeAll ids rest

/-- `_sse_publish`. -/
def ssePublish (env : Env) (a : Ambient) (event : Event) : Exec World Exc Unit :=
  if env.redis then
    attempt (a.fails .publish) .redisError <|
      modify fun w => { w with published := w.published ++ [event] }
  else do
    let subscribers ← gets World.sseSubscribers
    let rest ← lift (removeAll (dead event subscribers) (offerAll event subscribers))
    modify fun w => { w with sseSubscribers := rest }

/-- `_sse_subscribe`, when a stream starts. -/
def sseSubscribe : Exec World Exc Unit :=
  modify fun w =>
    let fresh := (w.sseSubscribers.map SseQueue.id).foldr max 0 + 1
    { w with sseSubscribers := w.sseSubscribers ++ [⟨fresh, []⟩] }

/-- `_get_embedding_model() is not None`. -/
def getEmbeddingModel (a : Ambient) : Exec World Exc Bool := do
  match ← gets World.embeddingModel with
  | .loaded => pure true
  | .failed => pure false
  | .notLoaded =>
    if a.fails .loadModel then
      modify fun w => { w with embeddingModel := .failed }
      pure false
    else
      modify fun w => { w with embeddingModel := .loaded }
      pure true

/-- `_embed_text`. -/
def embedText (env : Env) (a : Ambient) (text : String) : Exec World Exc (Option String) := do
  if ← getEmbeddingModel a then
    attempt (a.fails .embed) .embedError (pure (some ("[" ++ env.embedVector text ++ "]")))
  else pure none

/-! ### What the connection block does -/

@[simp] theorem setDb_db (db : Db) (w : World) : (w.setDb db).db = db := rfl

/-- A block that ends normally has committed what it did. -/
theorem withConn_ok {α : Type} {a : Ambient} {c : Conn} {block : Exec Db Exc α} {w w' : World} {x : α} :
    withConn a c block w = (.ok x, w') ↔
      a.fails (.connect c) = false ∧ a.fails (.commit c) = false ∧
        ∃ db', block w.db = (.ok x, db') ∧ w' = w.setDb db' := by
  unfold withConn
  rw [attempt_eq_ok, zoom_apply]
  rcases hb : atomically Db.rollback (do
    let y ← block
    attempt (a.fails (.commit c)) Exc.databaseError (pure y)) w.db with ⟨e | y, db'⟩
  · constructor
    · rintro ⟨-, h⟩
      simp at h
    · rintro ⟨-, hc, db'', hx, -⟩
      obtain ⟨s₁, h₁, -⟩ := atomically_error.mp hb
      rcases bind_eq_error.mp h₁ with h₁ | ⟨y, s₂, h₂, h₃⟩
      · rw [hx] at h₁; simp at h₁
      · simp [hc] at h₃
  · obtain ⟨y', s₁, h₁, h₂⟩ := bind_eq_ok.mp (atomically_ok.mp hb)
    obtain ⟨hc, h₃⟩ := attempt_eq_ok.mp h₂
    simp only [pure_apply, Prod.mk.injEq, Except.ok.injEq] at h₃
    obtain ⟨rfl, rfl⟩ := h₃
    simp only [hc, h₁, Prod.mk.injEq, Except.ok.injEq, true_and]
    constructor
    · rintro ⟨h, rfl, rfl⟩
      exact ⟨h, s₁, ⟨rfl, rfl⟩, rfl⟩
    · rintro ⟨h, db'', ⟨rfl, rfl⟩, rfl⟩
      exact ⟨h, rfl, rfl⟩

/-- A block that raises has changed no row. -/
theorem withConn_error {α : Type} {a : Ambient} {c : Conn} {block : Exec Db Exc α} {w w' : World}
    {e : Exc} (hb : Keeps SeqLe block) (h : withConn a c block w = (.error e, w')) :
    ∃ db', SameRows w.db db' ∧ w' = w.setDb db' := by
  unfold withConn at h
  cases hc : a.fails (.connect c)
  · rw [hc, attempt_false, zoom_apply] at h
    have hk : Keeps SeqLe (do
        let y ← block
        attempt (a.fails (.commit c)) Exc.databaseError (pure y)) :=
      hb.bind fun y => Keeps.attempt (Keeps.pure y)
    rcases hx : atomically Db.rollback (do
      let y ← block
      attempt (a.fails (.commit c)) Exc.databaseError (pure y)) w.db with ⟨r, db'⟩
    rw [hx, Prod.mk.injEq] at h
    obtain ⟨rfl, rfl⟩ := h
    obtain ⟨s₁, hs, rfl⟩ := atomically_error.mp hx
    have hle := hk w.db
    rw [hs] at hle
    exact ⟨_, sameRows_rollback hle, rfl⟩
  · rw [hc, attempt_true, raise_apply, Prod.mk.injEq] at h
    exact ⟨w.db, refl w.db, h.2.symm⟩

/-- `R` holds of the databases, and no task of Conductor was updated. -/
structure OnDb (R : Db → Db → Prop) (w w' : World) : Prop where
  rows : R w.db w'.db
  tasks : w'.taskUpdates = w.taskUpdates

/-- The database of `w'` has the rows of that of `w`. -/
abbrev SameDb : World → World → Prop := OnDb SameRows

/-- A transaction that does not go through raises and has changed no row. -/
theorem withConn_of_not_ok {α : Type} {a : Ambient} {c : Conn} {block : Exec Db Exc α} {w : World}
    (hb : Keeps SeqLe block) (h : ∀ x w', withConn a c block w ≠ (.ok x, w')) :
    ∃ e w', withConn a c block w = (.error e, w') ∧ SameDb w w' := by
  rcases hc : withConn a c block w with ⟨e | x, w'⟩
  · obtain ⟨db', hs, rfl⟩ := withConn_error hb hc
    exact ⟨e, _, rfl, ⟨hs, rfl⟩⟩
  · exact absurd hc (h x w')

section OnDb

variable {R : Db → Db → Prop}

instance [Std.Refl R] : Std.Refl (OnDb R) := ⟨fun w => ⟨refl w.db, rfl⟩⟩

instance [IsTrans Db R] : IsTrans World (OnDb R) :=
  ⟨fun _ _ _ h h' => ⟨IsTrans.trans _ _ _ h.rows h'.rows, h'.tasks.trans h.tasks⟩⟩

/-- A change beside the database and Conductor. -/
theorem keeps_modify_beside [Std.Refl R] {f : World → World}
    (h : ∀ w, (f w).db = w.db ∧ (f w).taskUpdates = w.taskUpdates) :
    Keeps (OnDb R) (modify f : Exec World Exc Unit) := by
  intro w
  obtain ⟨hdb, htasks⟩ := h w
  refine ⟨?_, htasks⟩
  show R w.db (f w).db
  rw [hdb]
  exact refl w.db

/-- A transaction does what its block does when that ends normally, and nothing
to the rows otherwise. -/
theorem withConn_does {α : Type} (a : Ambient) (c : Conn) {block : Exec Db Exc α}
    (hb : Keeps SeqLe block) (hok : ∀ db x db', block db = (.ok x, db') → R db db')
    (hsame : ∀ db db', SameRows db db' → R db db') : Keeps (OnDb R) (withConn a c block) := by
  intro w
  rcases hc : withConn a c block w with ⟨e | x, w'⟩
  · obtain ⟨db', hs, rfl⟩ := withConn_error hb hc
    exact ⟨hsame _ _ hs, rfl⟩
  · obtain ⟨-, -, db', hx, rfl⟩ := withConn_ok.mp hc
    exact ⟨hok _ _ _ hx, rfl⟩

/-- A transaction whose block keeps `R`, when taking the block back does too. -/
theorem keeps_withConn [Std.Refl R] [IsTrans Db R] {α : Type} (a : Ambient) (c : Conn)
    {block : Exec Db Exc α} (hback : ∀ db db', R db db' → R db (db.rollback db')) (hb : Keeps R block) :
    Keeps (OnDb R) (withConn a c block) := by
  refine Keeps.attempt (Keeps.zoom (fun w db h => ⟨h, rfl⟩) (Keeps.atomically hback ?_))
  exact hb.bind fun x => Keeps.attempt (Keeps.pure x)

end OnDb

/-! ### Who is logged in -/

/-- The account of a session. -/
def sessionUser (db : Db) (session : Option ℕ) : Option User :=
  session.bind fun userId =>
    (Table.lookup UserRow.id userId db.users).map fun u => ⟨u.id, u.username, u.role⟩

/-- Loading the account of the session raises. -/
def loadFails (a : Ambient) (session : Option ℕ) : Bool :=
  session.isSome && (a.fails (.connect .user) || a.fails .selectUser || a.fails (.commit .user))

theorem loadUser_eq (a : Ambient) (session : Option ℕ) (w : World) :
    loadUser a session w =
      if loadFails a session then (.error .databaseError, w) else (.ok (sessionUser w.db session), w) := by
  cases session with
  | none => rfl
  | some userId =>
    simp only [loadUser, withConn, loadFails, Option.isSome_some, Bool.true_and]
    cases h1 : a.fails (.connect .user) <;> cases h2 : a.fails .selectUser <;>
      cases h3 : a.fails (.commit .user) <;> rfl

/-- `login_required` answers for itself or hands over the session's account; either
way it changes nothing. -/
theorem loginRequired_eq (a : Ambient) (session : Option ℕ) (view : User → Exec World Exc Response)
    (w : World) : loginRequired a session view w =
      if loadFails a session then (.error .databaseError, w)
      else match sessionUser w.db session with
        | none => (.ok ⟨302, .location "/login", none⟩, w)
        | some user => view user w := by
  unfold loginRequired
  rw [bind_apply, loadUser_eq]
  cases loadFails a session with
  | true => rfl
  | false =>
    cases h : sessionUser w.db session with
    | none => simp
    | some user => simp

theorem keeps_loginRequired {R : World → World → Prop} [Std.Refl R] (a : Ambient) (session : Option ℕ)
    {view : User → Exec World Exc Response} (h : ∀ user, Keeps R (view user)) :
    Keeps R (loginRequired a session view) := by
  intro w
  rw [loginRequired_eq]
  split
  · exact refl w
  · cases sessionUser w.db session with
    | none => exact refl w
    | some user => exact h user w

theorem keeps_requireRole {R : World → World → Prop} [Std.Refl R] (roles : List Role) (user : User)
    {view : Exec World Exc Response} (h : Keeps R view) : Keeps R (requireRole roles user view) := by
  unfold requireRole
  split
  · exact h
  · exact Keeps.raise _

/-! ### What the in-process broadcast does -/

theorem putNowait_id {q q' : SseQueue} {event : Event} (h : q.putNowait event = some q') :
    q'.id = q.id := by
  unfold SseQueue.putNowait at h
  split_ifs at h
  cases h
  rfl

theorem offerAll_ids (event : Event) (subscribers : List SseQueue) :
    (offerAll event subscribers).map SseQueue.id = subscribers.map SseQueue.id := by
  rw [offerAll, List.map_map]
  refine List.map_congr_left fun q _ => ?_
  cases h : q.putNowait event with
  | none => simp [h]
  | some q' => simp [h, putNowait_id h]

/-- Removing queues that are in the list does not raise. -/
theorem removeAll_ok : ∀ (ids : List ℕ) (subscribers : List SseQueue),
    ids.Subperm (subscribers.map SseQueue.id) → ∃ rest, removeAll ids subscribers = .ok rest
  | [], subscribers, _ => ⟨subscribers, rfl⟩
  | id :: ids, subscribers, h => by
    have hmem : id ∈ subscribers.map SseQueue.id := h.subset List.mem_cons_self
    have hany : (subscribers.any fun q => q.id = id) = true := by
      obtain ⟨q, hq, rfl⟩ := List.mem_map.mp hmem
      exact List.any_eq_true.mpr ⟨q, hq, by simp⟩
    have hrest : ids.Subperm ((subscribers.eraseP fun q => q.id = id).map SseQueue.id) := by
      have he := h.erase id
      have hp : ((fun x => id == x) ∘ SseQueue.id) = fun q => decide (q.id = id) := by
        funext q
        simp [Bool.beq_eq_decide_eq, eq_comm]
      rw [List.erase_cons_head, List.erase_eq_eraseP, List.eraseP_map, hp] at he
      exact he
    obtain ⟨rest, hr⟩ := removeAll_ok ids _ hrest
    exact ⟨rest, by simp only [removeAll, removeQueue, hany, if_true, hr]⟩

/-- **The in-process broadcast never raises** and touches the subscribers only. -/
theorem ssePublish_inProcess {env : Env} (h : env.redis = false) (a : Ambient) (event : Event) (w : World) :
    ∃ rest, ssePublish env a event w = (.ok (), { w with sseSubscribers := rest }) := by
  have hsub : (dead event w.sseSubscribers).Subperm
      ((offerAll event w.sseSubscribers).map SseQueue.id) := by
    rw [offerAll_ids]
    exact (List.filter_sublist.map _).subperm
  obtain ⟨rest, hr⟩ := removeAll_ok _ _ hsub
  exact ⟨rest, by simp [ssePublish, h, bind_apply, hr]⟩

/-! ### A process for the examples -/

/-- Encryption off, one API key, in-process streams. -/
def exampleEnv : Env where
  scheme := spelledScheme
  fernet := none
  alertsApiKey := some "test-key"
  redis := false
  conductorSdk := true
  conductorServerUrl := some "http://conductor:8080/api"
  nesting := 900
  pyStr := fun _ => ""
  adaptOther := fun _ => none
  embedVector := fun _ => "0.5"
  checkpw := fun password hash => .ok (password = hash)

/-- Nothing fails. -/
def calm : Ambient := ⟨0, fun _ => ⟨0, []⟩, fun _ => false, ""⟩

/-- Just provisioned. -/
def emptyWorld : World := ⟨applySchema none, .notLoaded, [], [], []⟩

end SocDashboard
