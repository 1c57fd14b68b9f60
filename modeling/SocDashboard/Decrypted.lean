/-
# The database as it is read

A database with encrypted columns read under a key is a database: every title,
address, description and note decrypted. The statements act on the two alike,
since none of them looks into an encrypted column. `Shown` compares what a
deployment without a key has with what one that is given the key `K` has: the
second, read under each key that still counts, is the first. Before `K` is set
that is no key and `K`, from then on `K` alone.

Key definitions: `Db.decrypted`, `KeyPhase`, `Shown`, `ShownDb`, `PlainText`.
Key theorems: `simulates_statement`, `shown_encryptStr`, `simulates_withConn`.
-/
import SocDashboard.Lib.Simulation
import SocDashboard.Reading

namespace SocDashboard

open Exec

/-- The process with the key `f`. -/
def Env.withKey (env : Env) (f : Option FernetKey) : Env := { env with fernet := f }

def decryptValues (env : Env) (v : AlertValues) : AlertValues :=
  { v with
    title := decryptStr env.scheme env.fernet v.title
    sourceIp := decryptField env.scheme env.fernet v.sourceIp
    description := decryptField env.scheme env.fernet v.description }

theorem decryptAlert_id (env : Env) (row : Alert) : (decryptAlert env row).id = row.id := rfl

namespace Db

/-- What is read of the database. -/
def decrypted (env : Env) (db : Db) : Db :=
  { db with alerts := db.alerts.map (decryptAlert env), auditLog := db.auditLog.map (decryptEntry env) }

variable (env : Env) (db : Db)

theorem alert?_decrypted (id : ℕ) : (db.decrypted env).alert? id = (db.alert? id).map (decryptAlert env) :=
  Table.lookup_map (decryptAlert_id env) id db.alerts

theorem withAlert_decrypted (now : Time) (v : AlertValues) :
    (db.decrypted env).withAlert now (decryptValues env v) = (db.withAlert now v).decrypted env := by
  simp only [decrypted, withAlert, List.map_append, List.map_cons, List.map_nil]
  rfl

theorem assigned_decrypted (id : ℕ) (status : Status) (analystName : String) :
    (db.decrypted env).assigned id status analystName = (db.assigned id status analystName).decrypted env := by
  have hassign : ∀ row, assign status analystName (decryptAlert env row) =
      decryptAlert env (assign status analystName row) := fun _ => rfl
  have h := Table.update_map (decryptAlert_id env) hassign id db.alerts
  simp only [decrypted, assigned, h]

theorem withAudit_decrypted (e : AuditEntry) :
    (db.decrypted env).withAudit (decryptEntry env e) = (db.withAudit e).decrypted env := by
  simp only [decrypted, withAudit, List.map_append, List.map_cons, List.map_nil]

theorem auditKeysHold_decrypted (alertId userId : ℕ) :
    (db.decrypted env).auditKeysHold alertId userId = db.auditKeysHold alertId userId := by
  simp only [auditKeysHold, alert?_decrypted, Option.isSome_map]
  rfl

theorem expired_decrypted (cutoff : Time) (id : ℕ) : (db.decrypted env).expired cutoff id = db.expired cutoff id := by
  simp only [expired, decrypted, List.any_map]
  rfl

theorem purged_decrypted (cutoff : Time) :
    (db.decrypted env).purged cutoff = (db.purged cutoff).decrypted env := by
  have halerts : ((db.alerts.map (decryptAlert env)).filter fun a => !(a.createdAt < cutoff)) =
      (db.alerts.filter fun a => !(a.createdAt < cutoff)).map (decryptAlert env) := by
    rw [List.filter_map]
    rfl
  have haudit : ((db.auditLog.map (decryptEntry env)).filter fun e => !db.expired cutoff e.alertId) =
      (db.auditLog.filter fun e => !db.expired cutoff e.alertId).map (decryptEntry env) := by
    rw [List.filter_map]
    rfl
  have hfk : (db.decrypted env).auditAlertFk = db.auditAlertFk := rfl
  simp only [purged, expired_decrypted, hfk]
  simp only [decrypted, halerts, haudit]
  cases db.auditAlertFk <;> rfl

theorem rollback_decrypted (db' : Db) :
    (db.decrypted env).rollback (db'.decrypted env) = (db.rollback db').decrypted env := rfl

end Db

def World.decrypted (env : Env) (w : World) : World := w.setDb (w.db.decrypted env)

/-! ### Before and after the key is set -/

inductive KeyPhase
  | unset
  | set
  deriving DecidableEq, Repr

/-- The key of the process. -/
def KeyPhase.key (K : FernetKey) : KeyPhase → Option FernetKey
  | .unset => none
  | .set => some K

/-- The keys under which what is stored will still be read. -/
def KeyPhase.keys (K : FernetKey) : KeyPhase → List (Option FernetKey)
  | .unset => [none, some K]
  | .set => [some K]

/-- Not a token under `K`, and no NUL, which `TEXT` does not store. -/
structure PlainText (env : Env) (K : FernetKey) (s : String) : Prop where
  notToken : env.scheme.decrypt K s = none
  storable : '\x00' ∉ s.toList

section Shown

variable (env : Env) (K : FernetKey) (p : KeyPhase)

theorem key_mem_keys : p.key K ∈ p.keys K := by
  cases p with
  | unset => exact List.mem_cons_self
  | set => exact List.mem_singleton_self _

/-- `b`, read under each key of the phase, is `a`. -/
def Shown {α β : Type} (read : Env → β → α) (a : α) (b : β) : Prop :=
  ∀ f ∈ p.keys K, read (env.withKey f) b = a

abbrev ShownDb : Db → Db → Prop := Shown env K p Db.decrypted

abbrev ShownWorld : World → World → Prop := Shown env K p World.decrypted

variable {env K p}

/-- What is read under the key of the process. -/
theorem Shown.now {α β : Type} {read : Env → β → α} {a : α} {b : β} (h : Shown env K p read a b) :
    read (env.withKey (p.key K)) b = a := h _ (key_mem_keys K p)

/-- What was shown before the key is set is shown after. -/
theorem Shown.set {α β : Type} {read : Env → β → α} {a : α} {b : β} (h : Shown env K .unset read a b) :
    Shown env K .set read a b := fun f hf => h f (List.mem_cons_of_mem _ hf)

/-- A row that may be missing. -/
theorem Shown.option {α β : Type} {read : Env → β → α} {a : Option α} {b : Option β}
    (h : Shown env K p (fun e => Option.map (read e)) a b) :
    (a = none ∧ b = none) ∨ ∃ x y, a = some x ∧ b = some y ∧ Shown env K p read x y := by
  cases b with
  | none => exact Or.inl ⟨h.now.symm, rfl⟩
  | some y =>
    refine Or.inr ⟨_, y, h.now.symm, rfl, fun f hf => ?_⟩
    exact Option.some.inj ((h f hf).trans h.now.symm)

/-- **What the process stores of a text is shown as the text.** -/
theorem shown_encryptStr {s : String} (h : env.scheme.decrypt K s = none) (n : Nonce) :
    Shown env K p (fun e => decryptStr e.scheme e.fernet) s (encryptStr env.scheme (p.key K) n s) := by
  intro f hf
  cases p with
  | set =>
    rw [List.mem_singleton.mp hf]
    exact decryptStr_encryptStr (some K) n s
  | unset =>
    rcases List.mem_cons.mp hf with rfl | hf
    · rfl
    · rw [List.mem_singleton.mp hf]
      show decryptStr env.scheme (some K) s = s
      simp [decryptStr, h]

/-- What is stored of a storable text is storable. -/
theorem adaptStr_encryptStr {s : String} (h : PlainText env K s) (n : Nonce) :
    SameEnd (Shown env K p fun e => decryptStr e.scheme e.fernet) (adaptStr s)
      (adaptStr (encryptStr env.scheme (p.key K) n s)) := by
  have hs : adaptStr s = .ok s := adaptStr_eq_ok.mpr ⟨h.storable, rfl⟩
  have ht : adaptStr (encryptStr env.scheme (p.key K) n s) = .ok (encryptStr env.scheme (p.key K) n s) := by
    refine adaptStr_eq_ok.mpr ⟨?_, rfl⟩
    cases p with
    | unset => exact h.storable
    | set =>
      intro hnul
      have := env.scheme.token_urlSafe K n s.toUTF8 _ hnul
      revert this
      decide
  rw [hs, ht]
  exact .ok (shown_encryptStr h.notToken n)

/-! ### Statements -/

/-- **A statement that commutes with reading** is one step on both sides. -/
theorem simulates_statement {α β : Type} {read : Env → β → α} {x : Exec Db Exc α} {y : Exec Db Exc β}
    (h : ∀ f ∈ p.keys K, ∀ db, x (db.decrypted (env.withKey f)) =
      ((y db).1.map (read (env.withKey f)), (y db).2.decrypted (env.withKey f))) :
    Simulates (ShownDb env K p) (Shown env K p read) x y := by
  intro db db' hdb
  have hx : ∀ f ∈ p.keys K, x db =
      ((y db').1.map (read (env.withKey f)), (y db').2.decrypted (env.withKey f)) := by
    intro f hf
    rw [← h f hf, hdb f hf]
  refine ⟨?_, fun f hf => by rw [hx f hf]⟩
  rw [hx _ (key_mem_keys K p)]
  cases hy : (y db').1 with
  | error e => exact .error e
  | ok b =>
    refine .ok fun f hf => ?_
    have he := congrArg Prod.fst ((hx f hf).symm.trans (hx _ (key_mem_keys K p)))
    rw [hy] at he
    exact Except.ok.inj he

/-- A statement that returns nothing encrypted. -/
theorem simulates_same {α : Type} {x : Exec Db Exc α}
    (h : ∀ f ∈ p.keys K, ∀ db, x (db.decrypted (env.withKey f)) = ((x db).1, (x db).2.decrypted (env.withKey f))) :
    Simulates (ShownDb env K p) Eq x x := by
  intro db db' hdb
  have hx : ∀ f ∈ p.keys K, x db = ((x db').1, (x db').2.decrypted (env.withKey f)) := by
    intro f hf
    rw [← h f hf, hdb f hf]
  refine ⟨?_, fun f hf => by rw [hx f hf]⟩
  rw [hx _ (key_mem_keys K p)]
  exact SameEnd.refl _

theorem simulates_selectAlert (id : ℕ) :
    Simulates (ShownDb env K p) (Shown env K p fun e => Option.map (decryptAlert e)) (selectAlert id)
      (selectAlert id) := by
  refine simulates_statement fun f _ db => ?_
  simp only [selectAlert, gets_apply, Db.alert?_decrypted]
  rfl

theorem simulates_insertAlertRow (now : Time) {v v' : AlertValues} (hv : Shown env K p decryptValues v v') :
    Simulates (ShownDb env K p) (Shown env K p decryptAlert) (insertAlertRow now v : Exec Db Exc Alert)
      (insertAlertRow now v') := by
  refine simulates_statement fun f hf db => ?_
  rw [← hv f hf, insertAlertRow, insertAlertRow, Db.withAlert_decrypted]
  rfl

theorem simulates_updateAlert (id : ℕ) (status : Status) (analystName : String) :
    Simulates (ShownDb env K p) (Shown env K p fun e => Option.map (decryptAlert e))
      (updateAlert id status analystName) (updateAlert id status analystName) := by
  refine simulates_statement fun f _ db => ?_
  simp only [updateAlert, Db.assigned_decrypted, Db.alert?_decrypted]
  rfl

theorem simulates_insertAction (now : Time) (alertId : ℕ) (analystName : String) (action : Action)
    (createdAt : Time) :
    Simulates (ShownDb env K p) Eq (insertAction now alertId analystName action createdAt)
      (insertAction now alertId analystName action createdAt) := by
  refine simulates_same fun f _ db => ?_
  simp only [insertAction, Db.alert?_decrypted, Option.isSome_map]
  split_ifs
  · cases responseSeconds now createdAt <;> rfl
  · rfl

theorem simulates_insertAudit (now : Time) (alertId userId : ℕ) (username : String) (action : AuditAction)
    (fromStatus toStatus : Status) {note note' : Option String}
    (hn : Shown env K p (fun e => decryptField e.scheme e.fernet) note note') :
    Simulates (ShownDb env K p) (Shown env K p decryptEntry)
      (insertAudit now alertId userId username action fromStatus toStatus note)
      (insertAudit now alertId userId username action fromStatus toStatus note') := by
  refine simulates_statement fun f hf db => ?_
  rw [← hn f hf, insertAudit, insertAudit, Db.auditKeysHold_decrypted]
  split_ifs
  · rw [← Db.withAudit_decrypted]
    rfl
  · rfl

theorem simulates_deleteAlertsBefore (cutoff : Time) :
    Simulates (ShownDb env K p) Eq (deleteAlertsBefore cutoff) (deleteAlertsBefore cutoff) := by
  refine simulates_same fun f _ db => ?_
  have hcount : ((db.decrypted (env.withKey f)).alerts.filter fun a => a.createdAt < cutoff).length =
      (db.alerts.filter fun a => a.createdAt < cutoff).length := by
    rw [Db.decrypted, List.filter_map, List.length_map]
    rfl
  simp only [deleteAlertsBefore, hcount, Db.purged_decrypted]

theorem simulates_upsertEmbedding (alertId : ℕ) (vec : String) :
    Simulates (ShownDb env K p) Eq (upsertEmbedding alertId vec) (upsertEmbedding alertId vec) := by
  refine simulates_same fun f _ db => ?_
  simp only [upsertEmbedding, Db.alert?_decrypted, Option.isSome_map]
  split_ifs <;> rfl

theorem simulates_insertUser (username passwordHash : String) (role : Role) :
    Simulates (ShownDb env K p) Eq (insertUser username passwordHash role)
      (insertUser username passwordHash role) := by
  refine simulates_same fun f _ db => ?_
  unfold insertUser
  cases varchar 64 username with
  | none => rfl
  | some name =>
    show (if (db.users.any fun u => u.username = name) then _ else _) = _
    split_ifs with h
    · simp [h]
    · simp [h, Db.withUser, Db.decrypted]

/-- What is selected of the accounts. -/
theorem simulates_users {α : Type} (query : List UserRow → α) :
    Simulates (ShownDb env K p) Eq (gets fun db => query db.users : Exec Db Exc α)
      (gets fun db => query db.users) :=
  Simulates.gets fun _ _ h => h.now ▸ rfl

/-! ### Transactions, and what lies beside the database -/

theorem simulates_withConn {α β : Type} {P : α → β → Prop} (a : Ambient) (c : Conn) {x : Exec Db Exc α}
    {y : Exec Db Exc β} (h : Simulates (ShownDb env K p) P x y) :
    Simulates (ShownWorld env K p) P (withConn a c x) (withConn a c y) := by
  refine Simulates.attempt (Simulates.zoom ?_ ?_ (Simulates.atomically ?_
    (h.bind fun a b hab => Simulates.attempt (Simulates.pure hab))))
  · exact fun w w' hw f hf => congrArg World.db (hw f hf)
  · intro w w' db db' hw hdb f hf
    rw [← hw f hf, ← hdb f hf]
    rfl
  · intro db db' db₁ db₁' hdb hdb₁ f hf
    rw [← hdb f hf, ← hdb₁ f hf, Db.rollback_decrypted]

theorem simulates_beside {g : World → World} (h : ∀ e w, (World.decrypted e (g w)) = g (w.decrypted e)) :
    Simulates (ShownWorld env K p) Eq (modify g : Exec World Exc Unit) (modify g) :=
  Simulates.modify fun w w' hw f hf => by rw [h, hw f hf]

theorem simulates_getsBeside {α : Type} {q : World → α} (h : ∀ e w, q (World.decrypted e w) = q w) :
    Simulates (ShownWorld env K p) Eq (gets q : Exec World Exc α) (gets q) :=
  Simulates.gets fun w w' hw => by rw [← hw.now, h]

theorem simulates_ssePublish (f f' : Option FernetKey) (a : Ambient) (event : Event) :
    Simulates (ShownWorld env K p) Eq (ssePublish (env.withKey f) a event) (ssePublish (env.withKey f') a event) := by
  refine Simulates.ite (fun _ => Simulates.attempt (simulates_beside fun _ _ => rfl)) fun _ => ?_
  refine Simulates.bind (simulates_getsBeside fun _ _ => rfl) fun subs subs' hs => ?_
  subst hs
  exact Simulates.lift_bind fun rest _ => simulates_beside fun _ _ => rfl

theorem simulates_getEmbeddingModel (a : Ambient) :
    Simulates (ShownWorld env K p) Eq (getEmbeddingModel a) (getEmbeddingModel a) := by
  refine Simulates.bind (simulates_getsBeside fun _ _ => rfl) fun m m' hm => ?_
  subst hm
  cases m with
  | loaded => exact Simulates.pure rfl
  | failed => exact Simulates.pure rfl
  | notLoaded =>
    refine Simulates.ite (fun _ => ?_) fun _ => ?_
    · exact Simulates.bind (simulates_beside fun _ _ => rfl) fun _ _ _ => Simulates.pure rfl
    · exact Simulates.bind (simulates_beside fun _ _ => rfl) fun _ _ _ => Simulates.pure rfl

theorem simulates_loadUser (a : Ambient) (session : Option ℕ) :
    Simulates (ShownWorld env K p) Eq (loadUser a session) (loadUser a session) := by
  cases session with
  | none => exact Simulates.pure rfl
  | some userId =>
    refine Simulates.bind (simulates_withConn a .user (Simulates.attempt
      (simulates_users fun users => Table.lookup UserRow.id userId users))) fun row row' hr => ?_
    exact Simulates.pure (by rw [hr])

theorem simulates_loginRequired (a : Ambient) (session : Option ℕ) {x y : User → Exec World Exc Response}
    (h : ∀ user, Simulates (ShownWorld env K p) Eq (x user) (y user)) :
    Simulates (ShownWorld env K p) Eq (loginRequired a session x) (loginRequired a session y) := by
  refine Simulates.bind (simulates_loadUser a session) fun user user' hu => ?_
  subst hu
  cases user with
  | none => exact Simulates.pure rfl
  | some user => exact h user

theorem simulates_requireRole (roles : List Role) (user : User) {x y : Exec World Exc Response}
    (h : Simulates (ShownWorld env K p) Eq x y) :
    Simulates (ShownWorld env K p) Eq (requireRole roles user x) (requireRole roles user y) :=
  Simulates.ite (fun _ => h) fun _ => Simulates.raise _

end Shown

end SocDashboard
