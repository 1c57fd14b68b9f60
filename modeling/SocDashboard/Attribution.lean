/-
# Who wrote what

The audit log as a ledger. A step of the system writes at most one audit entry,
and which one is known from the request before it is carried out
(`SystemOp.entry`): a classify or a note whose transaction commits, sent with a
CSRF token in the session of an account that may triage. The entries of a run,
one after another, are its `trail`.

After any run the table holds the trail, less what was about alerts that a
purge took (`auditLog_systemRun`): no entry is lost, altered, made twice or
made by anybody else. Every entry of the trail is signed (`Signed`): it carries
the id and the name of an account that is still there and is no viewer.

Key definitions: `SystemOp.entry`, `trail`, `Signed`.
Key theorems: `systemStep_auditLog`, `auditLog_ledger`, `auditLog_systemRun`.
-/
import SocDashboard.Lib.Ledger
import SocDashboard.SystemRuns

namespace SocDashboard

open Exec Ledgers

/-- The audit entry that a `POST` commits. -/
def Request.entry (env : Env) (a : Ambient) (db : Db) (req : Request) : Option AuditEntry :=
  match req.endpoint, triageUser a db req with
  | .classify alertId, some user =>
    match readClassify env req.json with
    | .ok (analystName, action) =>
      if classifies a db user (orEmptyDict req.json) alertId analystName then
        some ⟨db.auditSeq, alertId, user.id, user.username, .triage action, .open_, actionToStatus action, none, a.now⟩
      else none
    | .error _ => none
  | .notes alertId, some user =>
    match readNote env req.json, db.alert? alertId with
    | .ok note, some alert =>
      if note ≠ "" ∧ notes env a db user (orEmptyDict req.json) alertId note then
        some ⟨db.auditSeq, alertId, user.id, user.username, .noteAdded, alert.status, alert.status,
          some (encryptStr env.scheme env.fernet (a.nonce .note) note), a.now⟩
      else none
    | _, _ => none
  | _, _ => none

/-- The audit entry that a step writes. -/
def SystemOp.entry (env : Env) (w : World) : SystemOp → Option AuditEntry
  | .flask ⟨.http req, a, _⟩ => if req.method = .post then req.entry env a w.db else none
  | _ => none

/-- What an audit entry is allowed to say. -/
inductive Told : AuditAction → Status → Status → Option String → Prop
  | triage (action : Action) : Told (.triage action) .open_ (actionToStatus action) none
  | note (status : Status) (text : String) : Told .noteAdded status status (some text)

/-- An entry is signed by an account that may triage. -/
structure Signed (users : List UserRow) (e : AuditEntry) : Prop where
  account : ∃ u ∈ users, u.id = e.userId ∧ u.username = e.username ∧ u.role ∈ [Role.analyst, .admin]
  told : Told e.action e.fromStatus e.toStatus e.note

/-- The audit log with one entry more, or as it is; a new entry takes a value of the sequence. -/
structure Adds (e : Option AuditEntry) (db db' : Db) : Prop where
  rows : db'.auditLog = db.auditLog ++ e.toList
  seq : e ≠ none → db.auditSeq < db'.auditSeq

theorem Adds.none {db db' : Db} (h : db'.auditLog = db.auditLog) : Adds none db db' :=
  ⟨by simp [h], fun hne => absurd rfl hne⟩

/-! ### One step -/

section Steps

variable {env : Env} {reads : Reads} {a : Ambient} {req : Request} {w : World}

/-- The rows after a note that is committed. -/
theorem noteView_rows {user : User} {alertId : ℕ} {json : Option Json} {note : String}
    (hp : readNote env json = .ok note) (hne : note ≠ "")
    (h : notes env a w.db user (orEmptyDict json) alertId note = true) :
    ∃ alert, w.db.alert? alertId = some alert ∧
      (noteView env a user alertId json w).2.db =
        w.db.noted a.now user alertId alert.status (encryptStr env.scheme env.fernet (a.nonce .note) note) := by
  obtain ⟨row, w', hx⟩ := withConn_of_notes h
  obtain ⟨-, -, db', hblock, rfl⟩ := withConn_ok.mp hx
  obtain ⟨alert, hal, -, -, -, -, rfl⟩ := noteBlock_ok.mp hblock
  refine ⟨alert, hal, ?_⟩
  unfold noteView
  simp only [bind_apply, lift_apply, hp, hne, if_false, hx]
  rfl

theorem adds_serve_classify {alertId : ℕ} (hpost : req.method = .post) (he : req.endpoint = .classify alertId) :
    Adds (req.entry env a w.db) w.db (serve env reads a req w).2.db := by
  have hview : view env reads a req = _ := view_classify he
  have hmem : Method.post ∈ req.endpoint.methods := by simp [he, Endpoint.methods]
  have hne : req.endpoint ≠ .alerts := by simp [he]
  unfold Request.entry
  rw [he]
  cases hu : triageUser a w.db req with
  | none =>
    rw [serve_triage_none hview hpost hmem hne hu]
    exact .none rfl
  | some user =>
    rw [serve_triage hview hpost hmem hne hu]
    by_cases hc : ∃ analystName action, readClassify env req.json = .ok (analystName, action) ∧
        classifies a w.db user (orEmptyDict req.json) alertId analystName = true
    · obtain ⟨analystName, action, hp, hc⟩ := hc
      obtain ⟨-, seconds, hrows⟩ := classifyView_of_classifies env hp hc
      rw [respond_snd] at hrows
      simp only [hp, hc, if_true]
      exact ⟨hrows.auditRows, fun _ => Nat.lt_of_succ_le hrows.audit⟩
    · have hno : ∀ analystName action, readClassify env req.json = .ok (analystName, action) →
          classifies a w.db user (orEmptyDict req.json) alertId analystName = false := by
        intro analystName action hp
        rw [← Bool.not_eq_true]
        exact fun h => hc ⟨analystName, action, hp, h⟩
      have hsame : (classifyView env a user alertId req.json w).2.db.auditLog = w.db.auditLog :=
        (classifyView_of_not_classifies hno).rows.auditRows
      cases hp : readClassify env req.json with
      | error x => exact .none hsame
      | ok fields =>
        simp only [hno fields.1 fields.2 hp, Bool.false_eq_true, if_false]
        exact .none hsame

theorem adds_serve_notes {alertId : ℕ} (hpost : req.method = .post) (he : req.endpoint = .notes alertId) :
    Adds (req.entry env a w.db) w.db (serve env reads a req w).2.db := by
  have hview : view env reads a req = _ := view_notes he
  have hmem : Method.post ∈ req.endpoint.methods := by simp [he, Endpoint.methods]
  have hne : req.endpoint ≠ .alerts := by simp [he]
  unfold Request.entry
  rw [he]
  cases hu : triageUser a w.db req with
  | none =>
    rw [serve_triage_none hview hpost hmem hne hu]
    exact .none rfl
  | some user =>
    rw [serve_triage hview hpost hmem hne hu]
    by_cases hn : ∃ note, readNote env req.json = .ok note ∧ note ≠ "" ∧
        notes env a w.db user (orEmptyDict req.json) alertId note = true
    · obtain ⟨note, hp, hblank, hn⟩ := hn
      obtain ⟨alert, hal, hdb⟩ := noteView_rows hp hblank hn
      rw [hdb]
      simp only [hp, hal, hn, hblank, ne_eq, not_false_eq_true, and_self, if_true]
      exact ⟨rfl, fun _ => Nat.lt_succ_self _⟩
    · have hno : ∀ note, readNote env req.json = .ok note → note ≠ "" →
          notes env a w.db user (orEmptyDict req.json) alertId note = false := by
        intro note hp hblank
        rw [← Bool.not_eq_true]
        exact fun h => hn ⟨note, hp, hblank, h⟩
      have hsame := (noteView_of_not_notes hno).rows.auditRows
      cases hp : readNote env req.json with
      | error x => exact .none hsame
      | ok note =>
        cases hal : w.db.alert? alertId with
        | none =>
          simp only [hal]
          exact .none hsame
        | some alert =>
          have hfalse : ¬ (note ≠ "" ∧ notes env a w.db user (orEmptyDict req.json) alertId note = true) :=
            fun h => by simp [hno note hp h.1] at h
          simp only [hal, if_neg hfalse]
          exact .none hsame

/-- A transaction that is neither a triage nor a note leaves the audit log, or purges it. -/
theorem storeStep_auditLog {svc : Service} (w : World) (t : StoreOp) (hassign : ∀ name, ¬ t.Assigns name)
    (hnote : ∀ text, ¬ t.Notes env text) :
    (storeStep env svc w t).db.auditLog = w.db.auditLog ∨
      ∃ cutoff, SameRows (w.db.purged cutoff) (storeStep env svc w t).db := by
  have hadmits : Admits env svc t fun db db' =>
      db'.auditLog = db.auditLog ∨ ∃ cutoff, SameRows (db.purged cutoff) db' := by
    refine ⟨⟨?_, ?_⟩, ?_, ?_, ?_, ?_, ?_⟩
    · exact fun db db' h => .inl h.auditRows
    · rintro db db' db'' (h | ⟨cutoff, h⟩) h'
      · exact .inl (h'.auditRows.trans h)
      · exact .inr ⟨cutoff, IsTrans.trans _ _ _ h h'⟩
    · exact fun db now v _ _ => .inl rfl
    · exact fun db now user alertId analystName action seconds alert h => absurd h (hassign analystName)
    · exact fun db now user alertId note alert h => absurd h (hnote note)
    · exact fun db cutoff _ => .inr ⟨cutoff, refl _⟩
    · exact fun db username passwordHash role => .inl rfl
  exact (storeStep_admits hadmits w).rows

variable (env) in
/-- A step adds its entry to the audit log, or it is a purge. -/
theorem systemStep_adds (site : Site) (svc : Service) (w : World) (op : SystemOp) :
    Adds (op.entry env w) w.db (systemStep site env svc w op).db ∨
      op.entry env w = none ∧ ∃ cutoff, SameRows (w.db.purged cutoff) (systemStep site env svc w op).db := by
  have hstep := systemStep_transaction site env svc w op
  have hplain : op.entry env w = none →
      (∀ t, op.transaction = some t → (∀ name, ¬ t.Assigns name) ∧ ∀ text, ¬ t.Notes env text) →
      Adds (op.entry env w) w.db (systemStep site env svc w op).db ∨
        op.entry env w = none ∧ ∃ cutoff, SameRows (w.db.purged cutoff) (systemStep site env svc w op).db := by
    intro hentry hnot
    rw [hentry]
    cases ht : op.transaction with
    | none =>
      rw [ht] at hstep
      exact .inl (.none (by rw [hstep]))
    | some t =>
      rw [ht] at hstep
      rw [hstep]
      exact (storeStep_auditLog w t (hnot t ht).1 (hnot t ht).2).imp Adds.none fun h => ⟨rfl, h⟩
  have hother : op.transaction = none → op.entry env w = none →
      Adds (op.entry env w) w.db (systemStep site env svc w op).db ∨
        op.entry env w = none ∧ ∃ cutoff, SameRows (w.db.purged cutoff) (systemStep site env svc w op).db :=
    fun ht hentry => hplain hentry fun t h => by simp [ht] at h
  match op with
  | .goIngest b x => exact hplain rfl fun t ht => by cases ht; exact ⟨fun _ h => h, fun _ h => h⟩
  | .flask ⟨.kafkaIngest body, b, _⟩ => exact hplain rfl fun t ht => by cases ht; exact ⟨fun _ h => h, fun _ h => h⟩
  | .flask ⟨.purge days, b, _⟩ => exact hplain rfl fun t ht => by cases ht; exact ⟨fun _ h => h, fun _ h => h⟩
  | .flask ⟨.createUser username pwHash role, b, _⟩ =>
    exact hplain rfl fun t ht => by cases ht; exact ⟨fun _ h => h, fun _ h => h⟩
  | .flask ⟨.restart, b, _⟩ => exact hother rfl rfl
  | .flask ⟨.http req, b, ra⟩ =>
    by_cases hpost : req.method = .post
    · have hentry : (SystemOp.flask ⟨.http req, b, ra⟩).entry env w = req.entry env b w.db := if_pos hpost
      have ht : (SystemOp.flask ⟨.http req, b, ra⟩).transaction = req.transaction b := if_pos hpost
      cases he : req.endpoint with
      | classify alertId =>
        rw [hentry, systemStep, opStep_http]
        exact .inl (adds_serve_classify hpost he)
      | notes alertId =>
        rw [hentry, systemStep, opStep_http]
        exact .inl (adds_serve_notes hpost he)
      | alerts =>
        refine hplain (by simp [hentry, Request.entry, he]) fun t h => ?_
        simp only [ht, Request.transaction, he, Option.some.injEq] at h
        subst h
        exact ⟨fun _ h => h, fun _ h => h⟩
      | _ => exact hother (by simp [ht, Request.transaction, he]) (by simp [hentry, Request.entry, he])
    · exact hother (if_neg hpost) (if_neg hpost)

/-- What the entry of a request is: the next one, about an alert that is there, and signed. -/
theorem Request.entry_eq_some {db : Db} {e : AuditEntry} (h : req.entry env a db = some e) :
    e.id = db.auditSeq ∧ e.alertId ∈ db.alertIds ∧ Signed db.users e := by
  have hsigned : ∀ user, triageUser a db req = some user →
      ∃ u ∈ db.users, u.id = user.id ∧ u.username = user.username ∧ u.role ∈ [Role.analyst, .admin] := by
    intro user hu
    obtain ⟨-, hs, hr⟩ := triageUser_eq_some.mp hu
    obtain ⟨userId, -, hs⟩ := Option.bind_eq_some_iff.mp hs
    obtain ⟨u, hlook, rfl⟩ := Option.map_eq_some_iff.mp hs
    exact ⟨u, Table.lookup_mem hlook, rfl, rfl, hr⟩
  unfold Request.entry at h
  split at h
  · rename_i alertId user he hu
    split at h
    · rename_i analystName action hp
      split_ifs at h with hc
      cases h
      have hal : ∃ alert, db.alert? alertId = some alert := by
        simp only [classifies, Bool.and_eq_true] at hc
        cases hfind : db.alert? alertId with
        | none => simp [hfind] at hc
        | some alert => exact ⟨alert, rfl⟩
      obtain ⟨alert, hal⟩ := hal
      exact ⟨rfl, mem_alertIds_of_alert? hal, hsigned user hu, .triage action⟩
    · cases h
  · rename_i alertId user he hu
    split at h
    · rename_i note alert hp hal
      split_ifs at h with hn
      cases h
      exact ⟨rfl, mem_alertIds_of_alert? hal, hsigned user hu, .note _ _⟩
    · cases h
  · cases h

theorem SystemOp.entry_eq_some {op : SystemOp} {e : AuditEntry} (h : op.entry env w = some e) :
    e.id = w.db.auditSeq ∧ e.alertId ∈ w.db.alertIds ∧ Signed w.db.users e := by
  match op, h with
  | .flask ⟨.http req, b, _⟩, h =>
    rw [SystemOp.entry] at h
    split_ifs at h with hpost
    exact Request.entry_eq_some h

variable (env) in
/-- **One step of the ledger**: the log gets the step's entry and keeps what is about alerts still there. -/
theorem systemStep_auditLog (site : Site) (svc : Service) (hi : StoreInv w.db) (op : SystemOp) :
    let db' := (systemStep site env svc w op).db
    db'.auditLog = (w.db.auditLog ++ (op.entry env w).toList).filter fun e => e.alertId ∈ db'.alertIds := by
  intro db'
  have hi' : StoreInv db' := hi.step (systemStep_does site env svc w op)
  rcases systemStep_adds env site svc w op with h | ⟨hnone, cutoff, h⟩
  · rw [← h.rows]
    refine (List.filter_eq_self.mpr fun e he => ?_).symm
    exact decide_eq_true (hi'.audit e he)
  · have hids : db'.alertIds = (w.db.purged cutoff).alertIds := by rw [Db.alertIds, h.alertRows]; rfl
    have hlog : db'.auditLog = w.db.auditLog.filter fun e => !w.db.expired cutoff e.alertId := by
      rw [h.auditRows, Db.purged, hi.fk, if_pos rfl]
    rw [hlog, hnone, Option.toList_none, List.append_nil, hids]
    refine List.filter_congr fun e he => ?_
    rw [Bool.eq_iff_iff, Bool.not_eq_true', decide_eq_true_eq]
    exact (hi.mem_purged_alertIds_iff (hi.audit e he)).symm

end Steps

/-! ### Runs -/

section Runs

variable (site : Site) (env : Env) (svc : Service)

/-- The audit entries of a run, in order. -/
def trail : World → List SystemOp → List AuditEntry := written (systemStep site env svc) (SystemOp.entry env)

/-- **The audit log is a ledger**: an entry goes with its alert, whose id is not given out twice. -/
theorem auditLog_ledger : Ledger (systemStep site env svc) (SystemOp.entry env) (fun w => w.db.auditLog)
    (fun w e => e.alertId ∈ w.db.alertIds) (fun w e => e.alertId < w.db.alertsSeq) (fun w => StoreInv w.db) where
  keeps w op hi := hi.step (systemStep_does site env svc w op)
  rows_alive _ hi := hi.audit
  rows_step _ op hi := systemStep_auditLog env site svc hi op
  known_table _ hi e he := hi.id_lt (hi.audit e he)
  known_entry w op hi _ he :=
    (hi.id_lt (SystemOp.entry_eq_some he).2.1).trans_le (systemStep_does site env svc w op).seqLe.alerts
  known_step w op _ _ hknown := hknown.trans_le (systemStep_does site env svc w op).seqLe.alerts
  stays_gone w op _ _ := (systemStep_does site env svc w op).alertIds_mem

theorem Signed.mono {users users' : List UserRow} {e : AuditEntry} (h : Signed users e) (hle : users <+: users') :
    Signed users' e := by
  obtain ⟨u, hu, hid, hname, hrole⟩ := h.account
  exact ⟨⟨u, hle.subset hu, hid, hname, hrole⟩, h.told⟩

/-- The entries of a run are signed, with ids from the sequence on, in order. -/
theorem trail_signed : ∀ (ops : List SystemOp) (w : World),
    (∀ e ∈ trail site env svc w ops, w.db.auditSeq ≤ e.id ∧
      Signed (Runs.run (systemStep site env svc) w ops).db.users e) ∧
    (trail site env svc w ops).Pairwise fun e e' => e.id < e'.id
  | [], _ => ⟨by simp [trail, written], List.Pairwise.nil⟩
  | op :: ops, w => by
    obtain ⟨hsigned, hpair⟩ := trail_signed ops (systemStep site env svc w op)
    have hseq := (systemStep_does site env svc w op).seqLe.audit
    have hnow : ∀ e, op.entry env w = some e → w.db.auditSeq = e.id ∧
        w.db.auditSeq < (systemStep site env svc w op).db.auditSeq ∧ Signed w.db.users e := by
      intro e he
      obtain ⟨hid, -, hs⟩ := SystemOp.entry_eq_some he
      rcases systemStep_adds env site svc w op with hadds | ⟨hnone, -⟩
      · exact ⟨hid.symm, hadds.seq (by simp [he]), hs⟩
      · rw [hnone] at he
        cases he
    rw [trail, written]
    constructor
    · intro e he
      rcases List.mem_append.mp he with he | he
      · obtain ⟨hid, -, hs⟩ := hnow e (Option.mem_toList.mp he)
        exact ⟨hid.le, hs.mono (users_systemRun site env svc (op :: ops) w)⟩
      · obtain ⟨hid, hs⟩ := hsigned e he
        exact ⟨hseq.trans hid, hs⟩
    · refine List.pairwise_append.mpr ⟨?_, hpair, fun e he e' he' => ?_⟩
      · cases op.entry env w <;> simp
      · obtain ⟨hid, hlt, -⟩ := hnow e (Option.mem_toList.mp he)
        have hnext := (hsigned e' he').1
        omega

/-- **The audit log is the trail.** After any run from freshly created tables the log
holds the entries of the triage requests and notes that were committed, in
order, less those about alerts that were purged; their ids ascend, and each
carries the id and the name of an account that is there and is no viewer. -/
theorem auditLog_systemRun (w : World) (ops : List SystemOp) :
    let w₀ := w.setDb (applySchema none)
    let db := (Runs.run (systemStep site env svc) w₀ ops).db
    db.auditLog = (trail site env svc w₀ ops).filter (fun e => e.alertId ∈ db.alertIds) ∧
      (trail site env svc w₀ ops).Pairwise (fun e e' => e.id < e'.id) ∧
      ∀ e ∈ trail site env svc w₀ ops, Signed db.users e := by
  intro w₀ db
  obtain ⟨hsigned, hpair⟩ := trail_signed site env svc ops w₀
  exact ⟨(auditLog_ledger site env svc).table_run ops w₀ StoreInv.created, hpair, fun e he => (hsigned e he).2⟩

end Runs

end SocDashboard
