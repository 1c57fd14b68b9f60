/-
# Can created accounts log in, and only with their own password?

`manage.py` hashes the password and stores the user name as it is given, but
for blanks beyond the 64 characters of its column; `login` looks for the name
without the white space around it and compares the password with the hash.
So an account can log in when its name is stored as `login` looks for it. A
wrong password is answered 401, unless it is longer than what bcrypt takes:
then `checkpw` raises, which `login` does not catch.

Key definitions: `createUser`, `Bcrypt`, `loginRequest`, `LogsInAs`,
`OnlyOwnPassword`, `SerialIds`.
Key theorems: `createUser_created`, `serve_login`, `serialIds_run`,
`onlyOwnPassword_iff`.
-/
import SocDashboard.ErrorAnswers
import SocDashboard.Routes
import SocDashboard.Store

namespace SocDashboard

open Exec

/-! ### The two sides -/

/-- How `_create_in_local` ends: with `True`, `None` or `False`. -/
inductive LocalResult
  | created
  | duplicate
  | failed
  deriving DecidableEq, Repr

/-- `create_user`: what it reports of the app's database, and then its exit code. `docker` is
what `_create_in_docker` returns or raises. -/
def createUser (hashpw : String → Except Exc String) (a : Ambient) (docker : Except Exc Bool)
    (username password : String) (role : Role) : Exec World Exc (LocalResult × Except Exc ℕ) := do
  let pwHash ← lift (hashpw password)
  let result ← catching
    (do
      if ← createInLocal a username pwHash role then pure .created
      else pure .duplicate)
    fun e => if e = .databaseError then pure .failed else raise e
  pure (result, docker.map fun ok =>
    if result = .created || ok then 0 else if result = .duplicate then 1 else 2)

/-- What bcrypt 5 does: it compares passwords of at most 72 bytes, and refuses longer ones. -/
structure Bcrypt (hashpw : String → Except Exc String) (checkpw : String → String → Except Exc Bool) :
    Prop where
  compares : ∀ p other pwHash : String, hashpw p = .ok pwHash → other.utf8ByteSize ≤ 72 →
    checkpw other pwHash = .ok (decide (other = p))
  hash_long : ∀ p : String, 72 < p.utf8ByteSize → hashpw p = .error .valueError
  check_long : ∀ p pwHash : String, 72 < p.utf8ByteSize → checkpw p pwHash = .error .valueError

/-- `POST /login` with a user name and a password. -/
def loginRequest (base : Request) (username password : String) : Request :=
  { base with
    method := .post
    endpoint := .login
    form := [("username", username), ("password", password)] }

/-- The answer logs in as the account, which has that role. -/
def LogsInAs (db : Db) (id : ℕ) (role : Role) (r : Response) : Prop :=
  r.status = 302 ∧ r.loginAs = some id ∧ ∃ name, sessionUser db r.loginAs = some ⟨id, name, role⟩

/-- The account logs in with its password, and `other` is answered 401 if it is another. -/
structure OnlyOwnPassword (db : Db) (id : ℕ) (role : Role) (password other : String)
    (answer : String → Response) : Prop where
  own : LogsInAs db id role (answer password)
  others : other ≠ password → (answer other).status = 401

/-- The ids of the accounts are values that the sequence has given. -/
def SerialIds (db : Db) : Prop := ∀ row ∈ db.users, row.id < db.usersSeq

/-! ### What was created -/

section Created

variable {hashpw : String → Except Exc String} {a : Ambient} {docker : Except Exc Bool}
  {username password pwHash : String} {role : Role} {code : Except Exc ℕ} {w w' : World}

theorem createInLocal_true (h : createInLocal a username pwHash role w = (.ok true, w')) :
    '\x00' ∉ username.toList ∧ ∃ stored, varchar 64 username = some stored ∧
      (∀ row ∈ w.db.users, row.username ≠ stored) ∧ w'.db = w.db.withUser stored pwHash role := by
  obtain ⟨-, -, db', hblock, rfl⟩ := withConn_ok.mp h
  rcases createInLocal_block hblock with ⟨hfound, -⟩ | hstored
  · cases hfound
  · exact hstored

/-- Only the body reports a creation. -/
theorem created_of_catching {body : Exec World Exc LocalResult}
    (h : catching body (fun e => if e = .databaseError then pure .failed else raise e) w = (.ok .created, w')) :
    body w = (.ok .created, w') := by
  rcases hbody : body w with ⟨e | result, w₁⟩
  · rw [catching, hbody] at h
    simp only at h
    split_ifs at h
    · simp at h
    · simp at h
  · rwa [catching, hbody] at h

/-- **What was created**: an account of the stored name, with a hash of the password. -/
theorem createUser_created
    (h : createUser hashpw a docker username password role w = (.ok (.created, code), w')) :
    ∃ pwHash stored, hashpw password = .ok pwHash ∧ '\x00' ∉ username.toList ∧
      varchar 64 username = some stored ∧ (∀ row ∈ w.db.users, row.username ≠ stored) ∧
        w'.db = w.db.withUser stored pwHash role := by
  obtain ⟨pwHash, w₁, hlift, h⟩ := bind_eq_ok.mp h
  obtain ⟨hhash, rfl⟩ := lift_eq_ok.mp hlift
  obtain ⟨result, w₂, hcatch, h⟩ := bind_eq_ok.mp h
  simp only [pure_apply, Prod.mk.injEq, Except.ok.injEq] at h
  obtain ⟨⟨rfl, -⟩, rfl⟩ := h
  obtain ⟨made, w₃, hmade, hresult⟩ := bind_eq_ok.mp (created_of_catching hcatch)
  cases made with
  | false => simp at hresult
  | true =>
    simp only [if_true, pure_apply, Prod.mk.injEq] at hresult
    obtain ⟨-, rfl⟩ := hresult
    obtain ⟨hnul, stored, hstored, hfree, hdb⟩ := createInLocal_true hmade
    exact ⟨pwHash, stored, hhash, hnul, hstored, hfree, hdb⟩

end Created

/-! ### The answer of a login -/

/-- What `login` answers to a name that is looked for and a password. -/
def loginAnswer (env : Env) (next : String) (db : Db) (name password : String) : Response :=
  match db.users.find? fun u => u.username = name with
  | none => ⟨401, .page, none⟩
  | some u =>
    match env.checkpw password u.passwordHash with
    | .error e => e.response
    | .ok true => ⟨302, .location next, some u.id⟩
    | .ok false => ⟨401, .page, none⟩

section Login

variable {env : Env} {reads : Reads} {a : Ambient} {req base : Request} {username password : String} {w : World}

theorem login_post (ha : ∀ c, a.fails c = false) (hpost : req.method = .post)
    (hname : (req.form.lookup "username").getD "" = username)
    (hword : (req.form.lookup "password").getD "" = password)
    (hnul : '\x00' ∉ (pyStrip username).toList) :
    ∃ next, (respond (login env a req) w).1 = loginAnswer env next w.db (pyStrip username) password := by
  have hselect : withConn a .main (attempt (a.fails .select) .databaseError
      (gets fun db => db.users.find? fun u => u.username = pyStrip username)) w =
        (.ok (w.db.users.find? fun u => u.username = pyStrip username), w) :=
    withConn_ok.mpr ⟨ha _, ha _, w.db, by rw [ha]; rfl, rfl⟩
  have hbound : adaptStr (pyStrip username) = .ok (pyStrip username) := if_neg hnul
  refine ⟨if (req.args.lookup "next").getD "" = "" then "/" else (req.args.lookup "next").getD "", ?_⟩
  rw [respond, login, if_pos hpost]
  simp only [hname, hword]
  rw [hbound, bind_apply, lift_apply]
  simp only
  rw [bind_apply, hselect, loginAnswer]
  cases w.db.users.find? fun u => u.username = pyStrip username with
  | none => rfl
  | some u =>
    simp only
    rw [bind_apply, lift_apply]
    cases env.checkpw password u.passwordHash with
    | error e => rfl
    | ok same => cases same <;> rfl

/-- **A login with a valid CSRF token**, with nothing failing. -/
theorem serve_login (ha : ∀ c, a.fails c = false) (hcsrf : base.csrfError = none)
    (hnul : '\x00' ∉ (pyStrip username).toList) :
    ∃ next, (respond (serve env reads a (loginRequest base username password)) w).1 =
      loginAnswer env next w.db (pyStrip username) password := by
  have hview : serve env reads a (loginRequest base username password) w =
      login env a (loginRequest base username password) w := by
    have hmethods : Method.post ∈ Endpoint.login.methods := by decide
    have hlogin : Endpoint.login ≠ .alerts := by decide
    have hnone : (loginRequest base username password).csrfError = none := hcsrf
    rw [serve_of_protected rfl hmethods hlogin, hnone]
    rfl
  rw [respond_congr hview]
  exact login_post ha rfl rfl rfl hnul

end Login

/-! ### The ids of the accounts -/

theorem SerialIds.created {db : Db} (h : SerialIds db) (username pwHash : String) (role : Role) :
    SerialIds (db.withUser username pwHash role) := by
  intro row hrow
  rw [Db.withUser, List.mem_append, List.mem_singleton] at hrow
  rcases hrow with hold | rfl
  · exact Nat.lt_succ_of_lt (h row hold)
  · exact Nat.lt_succ_self db.usersSeq

theorem SerialIds.step {env : Env} {svc : Service} {op : StoreOp} {w : World} (h : SerialIds w.db) :
    SerialIds (storeStep env svc w op).db := by
  have hadmits : Admits env svc op fun db db' => SerialIds db → SerialIds db' := by
    refine ⟨⟨?_, ?_⟩, ?_, ?_, ?_, ?_, ?_⟩
    · intro db db' hsame hdb row hrow
      rw [hsame.userRows] at hrow
      exact (hdb row hrow).trans_le hsame.users
    · intro db db' db'' hstep hsame hdb row hrow
      rw [hsame.userRows] at hrow
      exact (hstep hdb row hrow).trans_le hsame.users
    · exact fun _ _ _ _ _ hdb => hdb
    · exact fun _ _ _ _ _ _ _ _ _ _ _ _ hdb => hdb
    · exact fun _ _ _ _ _ _ _ _ hdb => hdb
    · exact fun _ _ _ hdb => hdb
    · exact fun _ username passwordHash role hdb => hdb.created username passwordHash role
  exact (storeStep_admits hadmits w).rows h

/-- **Every run on the created tables** keeps the ids within the sequence. -/
theorem serialIds_run (env : Env) (svc : Service) (w : World) (ops : List StoreOp) :
    SerialIds (Runs.run (storeStep env svc) (w.setDb (applySchema none)) ops).db := by
  apply Runs.run_inv (I := fun w => SerialIds w.db) (storeStep env svc) (fun w op h => h.step)
  intro row hrow
  cases hrow

/-! ### Who a login finds -/

section Found

variable {db : Db} {name stored pwHash : String} {role : Role}

/-- The name that was stored finds the new account. -/
theorem find_created (hfree : ∀ row ∈ db.users, row.username ≠ stored) :
    ((db.withUser stored pwHash role).users.find? fun u => u.username = stored) =
      some ⟨db.usersSeq, stored, pwHash, role⟩ := by
  have hold : (db.users.find? fun u => u.username = stored) = none := by simpa using hfree
  rw [Db.withUser, List.find?_append, hold]
  simp

/-- Another name finds an account that was there before, or none. -/
theorem find_other (hne : stored ≠ name) :
    ((db.withUser stored pwHash role).users.find? fun u => u.username = name) =
      db.users.find? fun u => u.username = name := by
  rw [Db.withUser, List.find?_append]
  simp [hne]

/-- The session of the new account is its own. -/
theorem sessionUser_created (hids : SerialIds db) :
    sessionUser (db.withUser stored pwHash role) (some db.usersSeq) = some ⟨db.usersSeq, stored, role⟩ := by
  have hold : Table.lookup UserRow.id db.usersSeq db.users = none := by
    rw [Table.lookup, List.find?_eq_none]
    intro row hrow
    simpa using (hids row hrow).ne
  have hnew : Table.lookup UserRow.id db.usersSeq (db.withUser stored pwHash role).users =
      some ⟨db.usersSeq, stored, pwHash, role⟩ := by
    rw [Table.lookup] at hold
    rw [Table.lookup, Db.withUser, List.find?_append, hold]
    simp
  simp [sessionUser, hnew]

/-- Under another name, no password logs in as the new account. -/
theorem loginAnswer_other {env : Env} {next password : String} (hids : SerialIds db) (hne : stored ≠ name) :
    (loginAnswer env next (db.withUser stored pwHash role) name password).loginAs ≠ some db.usersSeq := by
  rw [loginAnswer, find_other hne]
  cases hfind : db.users.find? fun u => u.username = name with
  | none => simp
  | some u =>
    have hlt : u.id < db.usersSeq := hids u (List.mem_of_find?_eq_some hfind)
    simp only
    cases env.checkpw password u.passwordHash with
    | error e => cases e <;> simp [Exc.response]
    | ok same =>
      cases same with
      | false => simp
      | true => simpa using hlt.ne

end Found

/-! ### Only its own password -/

section Password

variable {hashpw : String → Except Exc String} {env : Env} {next stored password other pwHash : String}
  {role : Role} {db : Db}

theorem Bcrypt.short (hb : Bcrypt hashpw env.checkpw) (hhash : hashpw password = .ok pwHash) :
    password.utf8ByteSize ≤ 72 := by
  by_contra hlong
  rw [hb.hash_long password (not_le.mp hlong)] at hhash
  cases hhash

/-- Under the name that was stored, bcrypt decides. -/
theorem loginAnswer_created (x : String) (hfree : ∀ row ∈ db.users, row.username ≠ stored) :
    loginAnswer env next (db.withUser stored pwHash role) stored x =
      match env.checkpw x pwHash with
      | .error e => e.response
      | .ok true => ⟨302, .location next, some db.usersSeq⟩
      | .ok false => ⟨401, .page, none⟩ := by
  rw [loginAnswer, find_created hfree]

theorem logsInAs_created (hb : Bcrypt hashpw env.checkpw) (hids : SerialIds db)
    (hfree : ∀ row ∈ db.users, row.username ≠ stored) (hhash : hashpw password = .ok pwHash) :
    LogsInAs (db.withUser stored pwHash role) db.usersSeq role
      (loginAnswer env next (db.withUser stored pwHash role) stored password) := by
  have hchecked : env.checkpw password pwHash = .ok true := by
    rw [hb.compares password password pwHash hhash (hb.short hhash)]
    simp
  rw [loginAnswer_created password hfree, hchecked]
  exact ⟨rfl, rfl, stored, sessionUser_created hids⟩

/-- Another password is answered 401 exactly when bcrypt takes it. -/
theorem status_other_iff (hb : Bcrypt hashpw env.checkpw) (hfree : ∀ row ∈ db.users, row.username ≠ stored)
    (hhash : hashpw password = .ok pwHash) (hne : other ≠ password) :
    (loginAnswer env next (db.withUser stored pwHash role) stored other).status = 401 ↔
      other.utf8ByteSize ≤ 72 := by
  rw [loginAnswer_created other hfree]
  by_cases hshort : other.utf8ByteSize ≤ 72
  · have hchecked : env.checkpw other pwHash = .ok false := by
      rw [hb.compares password other pwHash hhash hshort]
      simp [hne]
    rw [hchecked]
    exact iff_of_true rfl hshort
  · rw [hb.check_long other pwHash (not_le.mp hshort)]
    refine iff_of_false ?_ hshort
    show ¬((500 : ℕ) = 401)
    omega

end Password

section Created

variable {hashpw : String → Except Exc String} {env : Env} {reads : Reads} {a a' : Ambient}
  {docker : Except Exc Bool} {base : Request} {username password other : String} {role : Role}
  {code : Except Exc ℕ} {w w' : World}

/-- **When an account can log in, and only with its own password**: exactly when its name is
stored as `login` looks for it, and another password is not longer than bcrypt takes. -/
theorem onlyOwnPassword_iff (hb : Bcrypt hashpw env.checkpw) (ha : ∀ c, a'.fails c = false)
    (hcsrf : base.csrfError = none) (hids : SerialIds w.db)
    (h : createUser hashpw a docker username password role w = (.ok (.created, code), w')) :
    OnlyOwnPassword w'.db w.db.usersSeq role password other
        (fun x => (respond (serve env reads a' (loginRequest base username x)) w').1) ↔
      varchar 64 username = some (pyStrip username) ∧ (other ≠ password → other.utf8ByteSize ≤ 72) := by
  obtain ⟨pwHash, stored, hhash, hnul, hstored, hfree, hdb⟩ := createUser_created h
  have hanswer : ∀ x, ∃ next, (respond (serve env reads a' (loginRequest base username x)) w').1 =
      loginAnswer env next (w.db.withUser stored pwHash role) (pyStrip username) x := by
    intro x
    rw [← hdb]
    exact serve_login ha hcsrf fun hmem => hnul (Trim.mem_toList_trim hmem)
  obtain ⟨next, hown⟩ := hanswer password
  obtain ⟨next', hother⟩ := hanswer other
  rw [hstored, Option.some.injEq]
  constructor
  · intro honly
    -- nobody but the new account has the new id
    have hsame : stored = pyStrip username := by
      by_contra hne
      have hlogin := honly.own.2.1
      rw [hown] at hlogin
      exact loginAnswer_other hids hne hlogin
    refine ⟨hsame, fun hne => ?_⟩
    have hstatus := honly.others hne
    rw [hother, ← hsame] at hstatus
    exact (status_other_iff hb hfree hhash hne).mp hstatus
  · rintro ⟨rfl, hlength⟩
    constructor
    · rw [hown, hdb]
      exact logsInAs_created hb hids hfree hhash
    · intro hne
      rw [hother]
      exact (status_other_iff hb hfree hhash hne).mpr (hlength hne)

end Created

section Example

/-- A hash that takes passwords as bcrypt does. -/
def shortHash (p : String) : Except Exc String := if p.utf8ByteSize ≤ 72 then .ok p else .error .valueError

def shortCheck (p pwHash : String) : Except Exc Bool :=
  if p.utf8ByteSize ≤ 72 then .ok (decide (p = pwHash)) else .error .valueError

def shortEnv : Env := { exampleEnv with checkpw := shortCheck }

theorem bcrypt_short : Bcrypt shortHash shortEnv.checkpw := by
  constructor
  · intro p other pwHash hhash hother
    rw [shortHash] at hhash
    split_ifs at hhash
    cases hhash
    exact if_pos hother
  · exact fun p hlong => if_neg (not_le.mpr hlong)
  · exact fun p pwHash hlong => if_neg (not_le.mpr hlong)

/-- The database after `create-user` in the fresh one. -/
def accountWorld (username password : String) : World :=
  (createUser shortHash calm (.ok false) username password .analyst emptyWorld).2

/-- The form, sent from a browser that has no session yet. -/
def firstVisit : Request := ⟨.get, .dashboard, none, none, none, none, [], []⟩

/-- The answer to that account. -/
def accountAnswer (username password : String) (x : String) : Response :=
  (respond (serve shortEnv pages calm (loginRequest firstVisit username x)) (accountWorld username password)).1

theorem ana_created : createUser shortHash calm (.ok false) "ana" "sesame" .analyst emptyWorld =
    (.ok (.created, .ok 0), accountWorld "ana" "sesame") := by
  rfl

theorem serialIds_empty : SerialIds emptyWorld.db := by
  intro row hrow
  cases hrow

/-- Ana logs in, and not with another password. -/
theorem onlyOwnPassword_ana :
    OnlyOwnPassword (accountWorld "ana" "sesame").db 1 .analyst "sesame" "Sesame" (accountAnswer "ana" "sesame") :=
  (onlyOwnPassword_iff bcrypt_short (fun _ => rfl) rfl serialIds_empty ana_created).mpr ⟨by decide, by decide⟩

/-- A passphrase of 73 bytes. -/
def longPassphrase : String := String.ofList (List.replicate 73 'a')

/-- An account whose name begins with a blank is reported as created, and its login is
refused; a wrong passphrase that is too long for bcrypt is answered 500. -/
theorem accounts_refused :
    (createUser shortHash calm (.ok false) " bob" "sesame" .analyst emptyWorld).1 = .ok (.created, .ok 0) ∧
      (accountAnswer " bob" "sesame" "sesame").status = 401 ∧
      ¬ OnlyOwnPassword (accountWorld " bob" "sesame").db 1 .analyst "sesame" "Sesame"
        (accountAnswer " bob" "sesame") ∧
      (createUser shortHash calm (.ok false) "ana" "sesame" .analyst emptyWorld).1 = .ok (.created, .ok 0) ∧
      (accountAnswer "ana" "sesame" longPassphrase).status = 500 ∧
      ¬ OnlyOwnPassword (accountWorld "ana" "sesame").db 1 .analyst "sesame" longPassphrase
        (accountAnswer "ana" "sesame") := by
  have hbob : (accountAnswer " bob" "sesame" "sesame").status = 401 := by decide
  have hana : (accountAnswer "ana" "sesame" longPassphrase).status = 500 := by decide
  refine ⟨rfl, hbob, fun h => ?_, rfl, hana, fun h => ?_⟩
  · have hown := h.own.1
    rw [hbob] at hown
    exact absurd hown (by decide)
  · have hother := h.others (by decide)
    rw [hana] at hother
    exact absurd hother (by decide)

end Example

end SocDashboard
