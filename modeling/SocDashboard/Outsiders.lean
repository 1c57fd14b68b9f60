/-
# What an outsider sees and does

A request from outside carries no session of an account and no valid API key.
What it is answered depends on the accounts alone, since the login form asks
for nothing else: over a whole run, whatever the analysts, the ingest paths and
the retention do in between, the outsiders are answered as in the run of their
own requests and of the accounts made (`outsiders_learn_nothing`).

The other way round, an outsider's request and a forged one, which rides on
somebody's session but has no CSRF token, leave no trace: all the others are
answered as if these had never been sent, and the state reached is the same
(`powerless_run`).

Key definitions: `Outsider`, `Forged`, `SameAccounts`, `outsideStep`,
`Powerless`.
Key theorems: `outsiders_learn_nothing`, `powerless_run`.
-/
import SocDashboard.IngestPaths
import SocDashboard.Lib.Interference
import SocDashboard.Statements
import SocDashboard.SystemRuns

namespace SocDashboard

open Exec

/-- A request without a session of an account and without the API key. -/
structure Outsider (env : Env) (db : Db) (req : Request) : Prop where
  noAccount : sessionUser db req.session = none
  noKey : validApiKey env req.apiKey ≠ .ok true

instance (env : Env) (db : Db) (req : Request) : Decidable (Outsider env db req) :=
  decidable_of_iff (sessionUser db req.session = none ∧ validApiKey env req.apiKey ≠ .ok true)
    ⟨fun h => ⟨h.1, h.2⟩, fun h => ⟨h.1, h.2⟩⟩

/-- The accounts are the same, and so is the id of the next one. -/
structure SameAccounts (db db' : Db) : Prop where
  users : db'.users = db.users
  usersSeq : db'.usersSeq = db.usersSeq

instance : Std.Refl SameAccounts := ⟨fun _ => ⟨rfl, rfl⟩⟩

instance : IsTrans Db SameAccounts :=
  ⟨fun _ _ _ h h' => ⟨h'.users.trans h.users, h'.usersSeq.trans h.usersSeq⟩⟩

theorem SameAccounts.symm {db db' : Db} (h : SameAccounts db db') : SameAccounts db' db :=
  ⟨h.users.symm, h.usersSeq.symm⟩

theorem SameAccounts.sessionUser {db db' : Db} (h : SameAccounts db db') (session : Option ℕ) :
    sessionUser db' session = sessionUser db session := by
  rw [SocDashboard.sessionUser, SocDashboard.sessionUser, h.users]

theorem SameAccounts.outsider {env : Env} {db db' : Db} {req : Request} (h : SameAccounts db db')
    (hreq : Outsider env db req) : Outsider env db' req :=
  ⟨(h.sessionUser req.session).trans hreq.noAccount, hreq.noKey⟩

/-! ### How an outsider is answered -/

/-- Two computations at two states: they are compared there, and leave them. -/
def At {σ τ : Type} (s₀ : σ) (t₀ : τ) (s : σ) (t : τ) : Prop := s = s₀ ∧ t = t₀

section Answers

variable {env : Env} {a : Ambient} {req : Request} {w w' : World}

/-- One `SELECT` in a connection of its own. -/
theorem at_select {α β : Type} (c : Conn) {f : Db → α} {g : Db → β} {Q : α → β → Prop}
    (h : Q (f w.db) (g w'.db)) :
    Simulates (At w w') Q (withConn a c (attempt (a.fails .select) .databaseError (gets f)))
      (withConn a c (attempt (a.fails .select) .databaseError (gets g))) := by
  refine Simulates.attempt (Simulates.zoom (S := At w.db w'.db) ?_ ?_ (Simulates.atomically ?_ ?_))
  · rintro s t ⟨rfl, rfl⟩
    exact ⟨rfl, rfl⟩
  · rintro s t u v ⟨rfl, rfl⟩ ⟨rfl, rfl⟩
    exact ⟨rfl, rfl⟩
  · rintro s t s' t' ⟨rfl, rfl⟩ ⟨rfl, rfl⟩
    exact ⟨rfl, rfl⟩
  · refine Simulates.bind (Simulates.attempt (Simulates.gets ?_)) fun x y hxy => Simulates.attempt (Simulates.pure hxy)
    rintro s t ⟨rfl, rfl⟩
    exact h

/-- Nobody gets past `login_required` without an account. -/
theorem at_loginRequired (hs : sessionUser w.db req.session = none) (hs' : sessionUser w'.db req.session = none)
    (inner inner' : User → Exec World Exc Response) :
    Simulates (At w w') Eq (loginRequired a req.session inner) (loginRequired a req.session inner') := by
  rintro s t ⟨rfl, rfl⟩
  rw [loginRequired_eq, loginRequired_eq, hs, hs']
  split
  · exact ⟨.error _, rfl, rfl⟩
  · exact ⟨.ok rfl, rfl, rfl⟩

/-- The login form is answered from the accounts. -/
theorem at_login (h : SameAccounts w.db w'.db) : Simulates (At w w') Eq (login env a req) (login env a req) := by
  refine Simulates.ite (fun _ => ?_) fun _ => Simulates.pure rfl
  refine Simulates.lift_bind fun bound _ => ?_
  refine Simulates.bind (at_select .main (Q := Eq) (by rw [h.users])) fun row row' hrow => ?_
  subst hrow
  cases row with
  | none => exact Simulates.pure rfl
  | some u =>
    refine Simulates.lift_bind (x := env.checkpw _ u.passwordHash) fun fits _ => ?_
    exact Simulates.ite (fun _ => Simulates.pure rfl) fun _ => Simulates.pure rfl

/-- Without the key nothing is ingested. -/
theorem at_apiIngestAlert (hkey : validApiKey env req.apiKey ≠ .ok true) (json : Option Json) :
    Simulates (At w w') Eq (apiIngestAlert env a req.apiKey json) (apiIngestAlert env a req.apiKey json) := by
  refine Simulates.lift_bind fun valid hvalid => ?_
  cases valid with
  | false => exact Simulates.pure rfl
  | true => exact absurd hvalid hkey

/-- **An outsider's request** is answered from the accounts and leaves no trace. -/
theorem at_serve (site : Site) (ra : ReadAmbient) (h : SameAccounts w.db w'.db) (hreq : Outsider env w.db req) :
    Simulates (At w w') Eq (serve env (reads site env a ra) a req) (serve env (reads site env a ra) a req) := by
  have houtside : ∀ inner : User → Exec World Exc Response,
      Simulates (At w w') Eq (loginRequired a req.session inner) (loginRequired a req.session inner) :=
    fun inner => at_loginRequired hreq.noAccount (h.outsider hreq).noAccount inner inner
  have hview : Simulates (At w w') Eq (view env (reads site env a ra) a req)
      (view env (reads site env a ra) a req) := by
    unfold view
    cases he : req.endpoint with
    | login => exact at_login h
    | alerts => exact Simulates.ite (fun _ => at_apiIngestAlert hreq.noKey req.json) fun _ => houtside _
    | static filename =>
      -- a file of the static folder, whatever the tables hold
      rintro s t ⟨rfl, rfl⟩
      simp only [reads, he, bind_apply, lift_apply, gets_apply]
      exact ⟨SameEnd.refl _, rfl, rfl⟩
    | unknown => exact Simulates.raise _
    | _ => exact houtside _
  refine Simulates.ite (fun _ => Simulates.raise _) fun _ => ?_
  refine Simulates.ite (fun _ => Simulates.pure rfl) fun _ => ?_
  refine Simulates.ite (fun _ => Simulates.raise _) fun _ => ?_
  cases req.csrfProtected <;> cases req.csrfError
  · exact hview
  · exact hview
  · exact hview
  · exact Simulates.raise _

/-- What two computations compared at two states answer, and where they end. -/
theorem respond_at {x y : Exec World Exc Response} (h : Simulates (At w w') Eq x y) :
    (respond x w).1 = (respond y w').1 ∧ (respond x w).2 = w ∧ (respond y w').2 = w' := by
  rcases h.ends ⟨rfl, rfl⟩ with ⟨r, r', v, v', hx, hy, rfl, rfl, rfl⟩ | ⟨e, v, v', hx, hy, rfl, rfl⟩
  · rw [respond, respond, hx, hy]
    exact ⟨rfl, rfl, rfl⟩
  · rw [respond, respond, hx, hy]
    exact ⟨rfl, rfl, rfl⟩

end Answers

/-! ### What the others do to the accounts -/

section Accounts

variable {env : Env} {a : Ambient}

/-- No statement on alerts, actions and audit entries touches the accounts. -/
theorem sameAccounts_byStatement : ByStatement SameAccounts where
  rollback _ _ h := ⟨rfl, h.usersSeq⟩
  withAlert _ _ _ := ⟨rfl, rfl⟩
  assigned _ _ _ _ := ⟨rfl, rfl⟩
  withAction _ _ _ _ _ _ := ⟨rfl, rfl⟩
  withAudit _ _ := ⟨rfl, rfl⟩

theorem sameAccounts_upsertEmbedding (alertId : ℕ) (vec : String) :
    Keeps SameAccounts (upsertEmbedding alertId vec) := by
  intro db
  unfold upsertEmbedding
  split
  · exact ⟨rfl, rfl⟩
  · exact refl db

/-- Only `manage.py` makes accounts. -/
theorem storeStep_accounts {svc : Service} (w : World) : ∀ op : StoreOp,
    (∃ a username pwHash role, op = .createUser a username pwHash role) ∨
      SameAccounts w.db (storeStep env svc w op).db
  | .apiIngestAlert _ apiKey json =>
    .inr (sameAccounts_byStatement.apiIngestAlert sameAccounts_upsertEmbedding apiKey json w).rows
  | .kafkaIngest _ body => .inr (sameAccounts_byStatement.kafkaIngest sameAccounts_upsertEmbedding body w).rows
  | .goIngest a req => .inr (sameAccounts_byStatement.goIngest svc a req w).rows
  | .apiClassify _ session alertId json =>
    .inr (sameAccounts_byStatement.apiClassify session alertId json w).rows
  | .apiAddNote _ session alertId json => .inr (sameAccounts_byStatement.apiAddNote session alertId json w).rows
  | .purgeOldAlerts _ days => .inr (sameAccounts_byStatement.purgeOldAlerts (fun _ _ => ⟨rfl, rfl⟩) days w).rows
  | .createUser a username pwHash role => .inl ⟨a, username, pwHash, role, rfl⟩

end Accounts

/-! ### The whole system -/

section Runs

variable (site : Site) (env : Env) (svc : Service)

/-- An outsider's request, or an account made with `manage.py`. -/
def outsideStep (w : World) : SystemOp → Prop
  | .flask ⟨.http req, _, _⟩ => Outsider env w.db req
  | .flask ⟨.createUser _ _ _, _, _⟩ => True
  | _ => False

/-- A request that rides on a session: it changes something, has no CSRF token
and, being sent by a browser from elsewhere, no API key. -/
structure Forged (req : Request) : Prop where
  post : req.method = .post
  noToken : req.csrfError ≠ none
  noKey : validApiKey env req.apiKey ≠ .ok true

/-- An outsider's request or a forged one. -/
def Powerless (w : World) : SystemOp → Prop
  | .flask ⟨.http req, _, _⟩ => Outsider env w.db req ∨ Forged env req
  | _ => False

instance (w : World) : DecidablePred (outsideStep env w) := fun op => by
  unfold outsideStep
  split <;> infer_instance

instance (req : Request) : Decidable (Forged env req) :=
  decidable_of_iff (req.method = .post ∧ req.csrfError ≠ none ∧ validApiKey env req.apiKey ≠ .ok true)
    ⟨fun h => ⟨h.1, h.2.1, h.2.2⟩, fun h => ⟨h.1, h.2, h.3⟩⟩

instance (w : World) : DecidablePred (Powerless env w) := fun op => by
  unfold Powerless
  split <;> infer_instance

variable {site env svc}

/-- Making an account does the same where the accounts are the same. -/
theorem createInLocal_sameAccounts {a : Ambient} {username pwHash : String} {role : Role} {w w' : World}
    (h : SameAccounts w.db w'.db) :
    SameAccounts (createInLocal a username pwHash role w).2.db (createInLocal a username pwHash role w').2.db := by
  have hsim : Simulates (fun v v' : World => SameAccounts v.db v'.db) Eq
      (createInLocal a username pwHash role) (createInLocal a username pwHash role) := by
    refine Simulates.attempt (Simulates.zoom (S := SameAccounts) (fun _ _ h => h) (fun _ _ _ _ _ h => h)
      (Simulates.atomically (fun _ _ _ _ h h' => ⟨h.users, h'.usersSeq⟩) ?_))
    refine Simulates.bind (P := Eq) (Simulates.lift_bind fun name _ => ?_) fun made made' hmade =>
      Simulates.attempt (Simulates.pure hmade)
    refine Simulates.bind (Simulates.attempt (Simulates.gets (P := Eq) fun db db' h => by rw [h.users]))
      fun found found' hfound => ?_
    subst hfound
    refine Simulates.ite (fun _ => Simulates.pure rfl) fun _ => ?_
    refine Simulates.bind (P := Eq) (Simulates.attempt ?_) fun _ _ _ => Simulates.pure rfl
    intro db db' h
    unfold insertUser
    cases varchar 64 name with
    | none => exact ⟨.error _, h⟩
    | some stored =>
      simp only [h.users]
      split
      · exact ⟨.error _, h⟩
      · refine ⟨.ok rfl, ?_, ?_⟩
        · rw [Db.withUser, Db.withUser, h.users, h.usersSeq]
        · rw [Db.withUser, Db.withUser, h.usersSeq]
  exact (hsim w w' h).2

/-- **No request makes or changes an account.** -/
theorem systemStep_accounts {w : World} {op : SystemOp} (h : ¬ outsideStep env w op) :
    SameAccounts w.db (systemStep site env svc w op).db := by
  have hstep := systemStep_transaction site env svc w op
  cases ht : op.transaction with
  | none =>
    rw [ht] at hstep
    rw [hstep]
    exact refl w.db
  | some t =>
    rw [ht] at hstep
    rw [hstep]
    rcases storeStep_accounts w t with ⟨a, username, pwHash, role, rfl⟩ | hsame
    · obtain ⟨ra, rfl⟩ := transaction_createUser ht
      exact absurd trivial h
    · exact hsame

/-- What an outsider can tell of the system: its accounts. -/
theorem unwinding_outside (site : Site) (env : Env) (svc : Service) :
    Interference.Unwinding (systemStep site env svc) (systemAnswer site env) (outsideStep env)
      (fun w w' => SameAccounts w.db w'.db) := by
  have hhttp : ∀ (w w' : World) (req : Request) (a : Ambient) (ra : ReadAmbient), SameAccounts w.db w'.db →
      Outsider env w.db req → (opStep site env w ⟨.http req, a, ra⟩).1 = (opStep site env w' ⟨.http req, a, ra⟩).1 ∧
        (opStep site env w ⟨.http req, a, ra⟩).2 = w ∧ (opStep site env w' ⟨.http req, a, ra⟩).2 = w' := by
    intro w w' req a ra h hreq
    obtain ⟨hanswer, hw, hw'⟩ := respond_at (at_serve site ra h hreq (a := a))
    rw [respond_snd] at hw hw'
    rw [opStep_http, opStep_http, hanswer, hw, hw']
    exact ⟨rfl, rfl, rfl⟩
  constructor
  case mine_iff =>
    intro w w' op h
    match op with
    | .flask ⟨.http req, _, _⟩ => exact ⟨h.outsider, h.symm.outsider⟩
    | .flask ⟨.createUser _ _ _, _, _⟩ => exact Iff.rfl
    | .flask ⟨.kafkaIngest _, _, _⟩ | .flask ⟨.purge _, _, _⟩ | .flask ⟨.restart, _, _⟩ | .goIngest _ _ => exact Iff.rfl
  case answer =>
    intro w w' op h hmine
    match op, hmine with
    | .flask ⟨.http req, a, ra⟩, hreq => exact (hhttp w w' req a ra h hreq).1
    | .flask ⟨.createUser _ _ _, _, _⟩, _ => rfl
  case keep =>
    intro w w' op h hmine
    match op, hmine with
    | .flask ⟨.http req, a, ra⟩, hreq =>
      obtain ⟨-, hw, hw'⟩ := hhttp w w' req a ra h hreq
      show SameAccounts (opStep site env w ⟨.http req, a, ra⟩).2.db (opStep site env w' ⟨.http req, a, ra⟩).2.db
      rw [hw, hw']
      exact h
    | .flask ⟨.createUser username pwHash role, a, _⟩, _ => exact createInLocal_sameAccounts h
  case skip =>
    intro w w' op h hmine
    exact IsTrans.trans _ _ _ (systemStep_accounts hmine).symm h

/-- **Outsiders learn nothing.** Started where the accounts are the same, with any
other contents, the system answers the outsiders' requests as it does in a run
of nothing but these and of the accounts made. -/
theorem outsiders_learn_nothing (site : Site) (env : Env) (svc : Service) {w w' : World}
    (h : SameAccounts w.db w'.db) (ops : List SystemOp) :
    Interference.seen (systemStep site env svc) (systemAnswer site env) (outsideStep env) w ops =
      Interference.seen (systemStep site env svc) (systemAnswer site env) (outsideStep env) w'
        (Interference.own (systemStep site env svc) (outsideStep env) w ops) :=
  (unwinding_outside site env svc).seen_own ops w w' h

/-- Somebody opens the dashboard, and then posts a guess to the login form. -/
def strangerMoments : List Moment :=
  [⟨.http ⟨.get, .dashboard, none, none, none, none, [], []⟩, calm, portScanMoment.ra⟩,
    ⟨.http ⟨.post, .login, none, none, none, none, [], [("username", "asmith"), ("password", "guess")]⟩, calm,
      portScanMoment.ra⟩]

/-- With an alert ingested before, and one in between. -/
theorem outsiders_learn_nothing_portScan :
    SameAccounts staffedWorld.db (opStep plainSite exampleEnv staffedWorld portScanMoment).2.db ∧
      let ops := SystemOp.flask portScanMoment :: strangerMoments.map SystemOp.flask
      Interference.seen (systemStep plainSite exampleEnv exampleService) (systemAnswer plainSite exampleEnv)
          (outsideStep exampleEnv) staffedWorld ops =
        Interference.seen (systemStep plainSite exampleEnv exampleService) (systemAnswer plainSite exampleEnv)
          (outsideStep exampleEnv) (opStep plainSite exampleEnv staffedWorld portScanMoment).2
          (Interference.own (systemStep plainSite exampleEnv exampleService) (outsideStep exampleEnv)
            staffedWorld ops) := by
  have hkey : ¬ outsideStep exampleEnv staffedWorld (.flask portScanMoment) := fun h => h.noKey (by decide)
  have hsame : SameAccounts staffedWorld.db
      (systemStep plainSite exampleEnv exampleService staffedWorld (.flask portScanMoment)).db :=
    systemStep_accounts hkey
  exact ⟨hsame, outsiders_learn_nothing plainSite exampleEnv exampleService hsame _⟩

/-- A forged request leaves no trace: the CSRF check refuses it, or the key. -/
theorem serve_forged {reads : Reads} {a : Ambient} {req : Request} (h : Forged env req) (w : World) :
    (serve env reads a req w).2 = w := by
  unfold serve
  by_cases hu : req.endpoint = .unknown
  · rw [if_pos hu]
    rfl
  by_cases hm : req.method ∈ req.endpoint.methods
  · rw [if_neg hu, if_neg (by rw [h.post]; decide), if_neg (not_not.mpr hm)]
    by_cases he : req.endpoint = .alerts
    · have hp : req.csrfProtected = false := by simp [Request.csrfProtected, he]
      rw [hp]
      show (view env reads a req w).2 = w
      unfold view
      rw [he]
      simp only [h.post, if_true]
      exact apiIngestAlert_noKey h.noKey req.json
    · have hp : req.csrfProtected = true := by simp [Request.csrfProtected, h.post, he]
      obtain ⟨reason, hreason⟩ := Option.ne_none_iff_exists'.mp h.noToken
      rw [hp, hreason]
      rfl
  · rw [if_neg hu, if_neg (by rw [h.post]; decide), if_pos hm]
    rfl

theorem systemStep_powerless {w : World} {op : SystemOp} (h : Powerless env w op) :
    systemStep site env svc w op = w := by
  match op, h with
  | .flask ⟨.http req, a, ra⟩, .inl hreq =>
    obtain ⟨-, hw, -⟩ := respond_at (at_serve site ra (refl w.db) hreq (a := a))
    rw [systemStep, opStep_http, ← respond_snd]
    exact hw
  | .flask ⟨.http req, a, ra⟩, .inr hforged =>
    rw [systemStep, opStep_http]
    exact serve_forged hforged w

/-- **The powerless leave no trace.** With the outsiders' and the forged requests
deleted from a run, everything else is answered as before and the state reached
is the same. -/
theorem powerless_run (site : Site) (env : Env) (svc : Service) (w : World) (ops : List SystemOp) :
    Interference.seen (systemStep site env svc) (systemAnswer site env) (fun w op => ¬ Powerless env w op) w ops =
        Interference.seen (systemStep site env svc) (systemAnswer site env) (fun w op => ¬ Powerless env w op) w
          (Interference.own (systemStep site env svc) (fun w op => ¬ Powerless env w op) w ops) ∧
      Runs.run (systemStep site env svc) w ops =
        Runs.run (systemStep site env svc) w
          (Interference.own (systemStep site env svc) (fun w op => ¬ Powerless env w op) w ops) := by
  have h : Interference.Unwinding (systemStep site env svc) (systemAnswer site env)
      (fun w op => ¬ Powerless env w op) Eq := by
    constructor
    case mine_iff => rintro w w' op rfl; exact Iff.rfl
    case answer => rintro w w' op rfl _; rfl
    case keep => rintro w w' op rfl _; rfl
    case skip =>
      rintro w w' op rfl hpowerless
      exact systemStep_powerless (not_not.mp hpowerless)
  exact ⟨h.seen_own ops w w rfl, h.run_own ops w w rfl⟩

end Runs

end SocDashboard
