/-
# The semantic index

`alert_embeddings` is an index beside the alerts: written behind the commit of
an ingest, best effort, in a transaction of its own, never rewritten, and
emptied by the cascade of a purge. `SystemOp.embedding` is the entry that a
step writes, if all of that goes through.

After any run the index holds the entries of the run, less those of purged
alerts, and every entry is the vector of the text that its alert shows when
decrypted, though the row holds cipher text and may have been triaged since
(`indexed_systemRun`). So the similarity query, a join of the index with itself
and with the alerts, finds the nearest of the other indexed alerts by their
plain texts (`similar_systemRun`).

Key definitions: `embeddedText`, `Indexed`, `SystemOp.embedding`, `neighbours`.
Key theorems: `systemStep_index`, `indexed_systemRun`, `similarRows_eq`,
`similar_systemRun`.
-/
import SocDashboard.IngestPaths
import SocDashboard.Lib.Ledger
import SocDashboard.Lifecycle
import SocDashboard.Reading
import SocDashboard.Statements

namespace SocDashboard

open Exec Ledgers Query

/-- What an alert is compared by: title, description and category as they are shown. -/
def embeddedText (env : Env) (row : Alert) : String :=
  let row := decryptAlert env row
  " ".intercalate ([row.title, row.description.getD "", row.category].filter fun text => text ≠ "")

/-- The entry of an alert. -/
def indexEntry (env : Env) (row : Alert) : Embedding := ⟨row.id, "[" ++ env.embedVector (embeddedText env row) ++ "]"⟩

/-- The index is right: one entry at most for an alert, and it is the vector of the alert's text. -/
structure Indexed (env : Env) (db : Db) : Prop where
  distinct : (db.alertEmbeddings.map Embedding.alertId).Nodup
  entries : ∀ m ∈ db.alertEmbeddings, ∃ row, db.alert? m.alertId = some row ∧ m = indexEntry env row

/-- The other alerts that the index knows. -/
def neighbours (env : Env) (db : Db) (alertId : ℕ) : List Alert :=
  db.alerts.filter fun row => row.id ≠ alertId ∧ indexEntry env row ∈ db.alertEmbeddings

/-- How far the texts of two alerts are from each other. -/
def textDistance (env : Env) (pg : Pg) (ref row : Alert) : ℚ :=
  pg.distance (indexEntry env ref).embedding (indexEntry env row).embedding

/-- What `_insert_alert` is called with. -/
structure FlaskIngest where
  a : Ambient
  body : Json
  title : String
  category : String
  severity : Severity

/-- The ingest that a body leads to, if its fields are right. -/
def acceptedIngest (a : Ambient) (body : Json) : Option FlaskIngest :=
  match parseIngestPayload body with
  | .ok (title, category, severity) => some ⟨a, body, title, category, severity⟩
  | .error _ => none

def StoreOp.flaskIngest (env : Env) : StoreOp → Option FlaskIngest
  | .apiIngestAlert a apiKey json =>
    if validApiKey env apiKey = .ok true ∧ parses env json = true then acceptedIngest a (orEmptyDict json)
    else none
  | .kafkaIngest a body => acceptedIngest a body
  | _ => none

/-- The vector is made and its transaction commits. -/
def embeddingCommits (a : Ambient) (w : World) : Bool :=
  modelAvailable a w && !a.fails .embed && !a.fails (.connect .embedding) && !a.fails .insertEmbedding &&
    !a.fails (.commit .embedding)

/-- The entry that an ingest writes, if it gets there. -/
def FlaskIngest.embedding (env : Env) (w : World) (x : FlaskIngest) : Option Embedding :=
  match inserts env x.a x.body x.title x.category x.severity, embedInput x.body x.title x.category with
  | some _, .ok text =>
    if embeddingCommits x.a w then some ⟨w.db.alertsSeq, "[" ++ env.embedVector text ++ "]"⟩ else none
  | _, _ => none

/-- The entry that a step writes. -/
def SystemOp.embedding (env : Env) (w : World) (op : SystemOp) : Option Embedding :=
  (op.transaction.bind fun t => t.flaskIngest env).bind fun x => x.embedding env w

/-! ### What one ingest does to the index -/

/-- The index is as it was. -/
def SameIndex (db db' : Db) : Prop := db'.alertEmbeddings = db.alertEmbeddings

instance : Std.Refl SameIndex := ⟨fun _ => rfl⟩

instance : IsTrans Db SameIndex := ⟨fun _ _ _ h h' => h'.trans h⟩

theorem sameIndex_byStatement : ByStatement SameIndex where
  rollback _ _ _ := rfl
  withAlert _ _ _ := rfl
  assigned _ _ _ _ := rfl
  withAction _ _ _ _ _ _ := rfl
  withAudit _ _ := rfl

section Ingest

variable {env : Env} {a : Ambient} {w : World}

variable (env a) in
/-- The vector of the text, if the model is there and the call does not raise. -/
theorem embedText_fst (text : String) (w : World) :
    (embedText env a text w).1 =
      if modelAvailable a w then
        if a.fails .embed then .error .embedError else .ok (some ("[" ++ env.embedVector text ++ "]"))
      else .ok none := by
  have hmodel := getEmbeddingModel_fst a w
  unfold embedText
  rw [bind_apply]
  rcases hg : getEmbeddingModel a w with ⟨r, w₁⟩
  rw [hg] at hmodel
  simp only at hmodel
  subst hmodel
  by_cases hm : modelAvailable a w = true
  · simp only [hm, if_true]
    by_cases hf : a.fails .embed = true
    · rw [hf, attempt_true, if_pos rfl]
      rfl
    · rw [Bool.not_eq_true] at hf
      rw [hf, attempt_false, if_neg Bool.false_ne_true]
      rfl
  · rw [Bool.not_eq_true] at hm
    simp only [hm, Bool.false_eq_true, if_false]
    rfl

variable (env a) in
theorem embedText_db (text : String) (w : World) : (embedText env a text w).2.db = w.db := by
  have hkeeps : Keeps (OnDb Eq) (embedText env a text) := keeps_embedText env a text
  exact (hkeeps w).rows.symm

variable (env a) in
/-- A transaction of its own writes the entry of a new alert, or there is none. -/
theorem storeEmbedding_db {alertId : ℕ} (hal : (w.db.alert? alertId).isSome = true)
    (hnew : ∀ m ∈ w.db.alertEmbeddings, m.alertId ≠ alertId) (text : String) :
    (storeEmbedding env a alertId text w).2.db =
      if embeddingCommits a w then
        { w.db with alertEmbeddings := w.db.alertEmbeddings ++ [⟨alertId, "[" ++ env.embedVector text ++ "]"⟩] }
      else w.db := by
  have hfst := embedText_fst env a text w
  have hdb := embedText_db env a text w
  unfold storeEmbedding embeddingCommits
  rw [bind_apply]
  rcases hembed : embedText env a text w with ⟨r, w₁⟩
  rw [hembed] at hfst hdb
  simp only at hfst hdb
  subst hfst
  by_cases hm : modelAvailable a w = true
  · by_cases hf : a.fails .embed = true
    · simp only [hm, hf, if_true, Bool.not_true, Bool.and_false, Bool.false_and, Bool.false_eq_true, if_false]
      exact hdb
    · rw [Bool.not_eq_true] at hf
      have hothers : (w.db.alertEmbeddings.filter fun m => m.alertId ≠ alertId) = w.db.alertEmbeddings :=
        List.filter_eq_self.mpr fun m hm => decide_eq_true (hnew m hm)
      simp only [hm, hf, if_true, Bool.false_eq_true, if_false, Bool.not_false, Bool.and_true, Bool.true_and]
      rw [← hdb] at hal hothers ⊢
      unfold catching withConn
      cases a.fails (.connect .embedding) with
      | true => rfl
      | false =>
        cases a.fails .insertEmbedding with
        | true => rfl
        | false =>
          simp only [attempt_false, zoom_apply, atomically, bind_apply, upsertEmbedding, hal, if_true, hothers]
          cases a.fails (.commit .embedding) <;> rfl
  · rw [Bool.not_eq_true] at hm
    simp only [hm, Bool.false_eq_true, if_false, Bool.false_and]
    exact hdb

/-- Behind its commit an ingest changes the tables by its embedding only. -/
theorem afterInsert_db (body : Json) (title category : String) (created : Alert) (w : World) :
    (afterInsert env a body title category created w).2.db =
      match embedInput body title category with
      | .error _ => w.db
      | .ok text => (storeEmbedding env a created.id text w).2.db := by
  unfold afterInsert
  rw [bind_apply, lift_apply]
  cases embedInput body title category with
  | error e => rfl
  | ok text =>
    simp only
    rw [bind_apply]
    rcases storeEmbedding env a created.id text w with ⟨e | u, w₁⟩
    · rfl
    · have hpublish : Keeps (OnDb Eq) (do
          ssePublish env a (newAlertEvent (decryptAlert env created))
          pure (decryptAlert env created) : Exec World Exc Alert) :=
        (keeps_ssePublish env a _).bind fun _ => Keeps.pure _
      exact (hpublish w₁).rows.symm

/-- The texts of a committed row. -/
theorem alertValues_texts {body : Json} {title category : String} {severity : Severity} {v : AlertValues}
    (h : alertValues env a body title category severity = .ok v) :
    v.title = encryptStr env.scheme env.fernet (a.nonce .title) title ∧ v.category = category ∧
      ∃ description, body.get "description" = .ok description ∧
        adaptText env (encryptField env.scheme env.pyStr env.fernet (a.nonce .description) description.orNone) =
          .ok v.description := by
  obtain ⟨-, args, hargs, hbind⟩ := alertValues_eq_ok.mp h
  obtain ⟨source, -, hargs⟩ := except_bind_eq_ok.mp hargs
  obtain ⟨sourceIp, -, hargs⟩ := except_bind_eq_ok.mp hargs
  obtain ⟨description, hd, hargs⟩ := except_bind_eq_ok.mp hargs
  obtain ⟨workflowRunId, -, hargs⟩ := except_bind_eq_ok.mp hargs
  obtain ⟨runMetadata, -, hargs⟩ := except_bind_eq_ok.mp hargs
  obtain rfl := Except.ok.inj hargs
  obtain ⟨title', htitle, hbind⟩ := except_bind_eq_ok.mp hbind
  obtain ⟨category', hcategory, hbind⟩ := except_bind_eq_ok.mp hbind
  obtain ⟨source', -, hbind⟩ := except_bind_eq_ok.mp hbind
  obtain ⟨sourceIp', -, hbind⟩ := except_bind_eq_ok.mp hbind
  obtain ⟨description', hd', hbind⟩ := except_bind_eq_ok.mp hbind
  obtain ⟨workflowRunId', -, hbind⟩ := except_bind_eq_ok.mp hbind
  obtain ⟨runMetadata', -, hbind⟩ := except_bind_eq_ok.mp hbind
  obtain rfl := Except.ok.inj hbind
  exact ⟨(adaptStr_eq_ok.mp htitle).2.symm, (adaptStr_eq_ok.mp hcategory).2.symm, description, hd, hd'⟩

/-- **What is embedded is what the row shows**, the row being encrypted and its empty parts dropped. -/
theorem embedInput_eq_embeddedText {body : Json} {title category text : String} {severity : Severity}
    {v : AlertValues} (ht : title ≠ "") (hc : category ≠ "")
    (hv : alertValues env a body title category severity = .ok v)
    (htext : embedInput body title category = .ok text) (db : Db) (now : Time) :
    text = embeddedText env (db.newAlert now v) := by
  obtain ⟨htitle, hcategory, description, hget, hstored⟩ := alertValues_texts hv
  have hshown : embeddedText env (db.newAlert now v) =
      " ".intercalate ([title, (v.description.map (decryptStr env.scheme env.fernet)).getD "", category].filter
        fun text => text ≠ "") := by
    show " ".intercalate (List.filter _ [decryptStr env.scheme env.fernet v.title, _, v.category]) = _
    rw [htitle, hcategory, decryptStr_encryptStr]
    rfl
  rw [hshown]
  unfold embedInput at htext
  simp only [hget, bind, Except.bind, filter_parts ht hc] at htext
  by_cases htruthy : description.truthy = true
  · rw [Json.orNone, if_pos htruthy] at hstored
    rw [if_pos htruthy] at htext
    cases description with
    | str s =>
      have hs : s ≠ "" := by simpa [Json.truthy] using htruthy
      have hd : v.description = some (encryptStr env.scheme env.fernet (a.nonce .description) s) := by
        simp only [encryptField, adaptText] at hstored
        cases hadapt : adaptStr (encryptStr env.scheme env.fernet (a.nonce .description) s) with
        | error e =>
          rw [hadapt] at hstored
          cases hstored
        | ok t =>
          rw [hadapt] at hstored
          rw [(adaptStr_eq_ok.mp hadapt).2]
          exact (Except.ok.inj hstored).symm
      rw [hd, Option.map_some, decryptStr_encryptStr]
      have hall : ([title, s, category].filter fun text => text ≠ "") = [title, s, category] := by
        simp [ht, hs, hc]
      rw [Option.getD_some, hall]
      exact (Except.ok.inj htext).symm
    | lone before after => cases hstored
    | _ => cases htext
  · rw [Json.orNone, if_neg htruthy] at hstored
    rw [if_neg htruthy] at htext
    have hd : v.description = none := (Except.ok.inj hstored).symm
    have hall : ([title, "", category].filter fun text => text ≠ "") = [title, category] := by
      simp [ht, hc]
    rw [hd, Option.map_none, Option.getD_none, hall]
    exact (Except.ok.inj htext).symm

/-! ### What a step does to the index -/

theorem Indexed.alertId_lt (hx : Indexed env w.db) (hi : StoreInv w.db) {m : Embedding}
    (hm : m ∈ w.db.alertEmbeddings) : m.alertId < w.db.alertsSeq := by
  obtain ⟨row, hrow, -⟩ := hx.entries m hm
  rw [← Table.lookup_key hrow]
  exact hi.fresh row (Table.lookup_mem hrow)

/-- An ingest adds its entry to the index. -/
theorem insertAlert_index (hi : StoreInv w.db) (hx : Indexed env w.db) (x : FlaskIngest) :
    (insertAlert env x.a x.body x.title x.category x.severity w).2.db.alertEmbeddings =
      w.db.alertEmbeddings ++ (x.embedding env w).toList := by
  unfold FlaskIngest.embedding
  cases hv : inserts env x.a x.body x.title x.category x.severity with
  | none =>
    rw [Option.toList_none, List.append_nil]
    have hconn : Keeps (OnDb SameIndex)
        (withConn x.a .main (insertAlertBlock env x.a x.body x.title x.category x.severity)) :=
      sameIndex_byStatement.insertAlertConn _ _ _ _
    replace hconn := hconn w
    unfold insertAlert
    rw [bind_apply]
    rcases hc : withConn x.a .main (insertAlertBlock env x.a x.body x.title x.category x.severity) w with ⟨e | row, w₁⟩
    · rw [hc] at hconn
      exact hconn.rows
    · obtain ⟨h₁, h₃, db', hblock, -⟩ := withConn_ok.mp hc
      obtain ⟨v, hval, h₂, -, -⟩ := insertAlertBlock_ok.mp hblock
      simp [inserts, h₁, h₂, h₃, hval, Except.toOption] at hv
  | some v =>
    rw [insertAlert_of_inserts hv]
    cases htext : embedInput x.body x.title x.category with
    | error e =>
      rw [afterInsert_db, htext]
      exact (List.append_nil _).symm
    | ok text =>
      have hal : ((w.setDb (w.db.withAlert x.a.now v)).db.alert? w.db.alertsSeq).isSome = true := by
        rw [setDb_db, hi.alert?_withAlert_new]
        rfl
      rw [afterInsert_db, htext]
      have hdb := storeEmbedding_db env x.a hal (fun m hm => (hx.alertId_lt hi hm).ne) text
      refine (congrArg (fun db : Db => db.alertEmbeddings) hdb).trans ?_
      have hcommits : embeddingCommits x.a (w.setDb (w.db.withAlert x.a.now v)) = embeddingCommits x.a w := rfl
      rw [hcommits]
      cases embeddingCommits x.a w with
      | true => rfl
      | false => exact (List.append_nil _).symm

variable (env) in
/-- Only `_insert_alert` and a purge touch the index. -/
theorem storeStep_flaskIngest (svc : Service) (w : World) (t : StoreOp) :
    match t.flaskIngest env with
    | some x => (∀ cutoff, ¬t.Purges cutoff) ∧
        (storeStep env svc w t).db = (insertAlert env x.a x.body x.title x.category x.severity w).2.db
    | none => (∃ b days, t = .purgeOldAlerts b days) ∨
        (∀ cutoff, ¬t.Purges cutoff) ∧ SameIndex w.db (storeStep env svc w t).db := by
  cases t with
  | apiIngestAlert b apiKey json =>
    have hquiet : ¬(validApiKey env apiKey = .ok true ∧ parses env json = true) →
        (apiIngestAlert env b apiKey json w).2 = w := by
      intro hno
      rw [apiIngestAlert, bind_apply, lift_apply]
      cases hvalid : validApiKey env apiKey with
      | error e => rfl
      | ok valid =>
        cases valid with
        | false => rfl
        | true =>
          have hj : parses env json = false := by
            rw [← Bool.not_eq_true]
            exact fun hj => hno ⟨hvalid, hj⟩
          have hread : readIngest env json = .error .recursionError := getJson_bind_of_not_parses hj _
          simp only [if_true, bind_apply, lift_apply, hread]
    by_cases hin : validApiKey env apiKey = .ok true ∧ parses env json = true
    · have hread : readIngest env json = parseIngestPayload (orEmptyDict json) := getJson_bind_of_parses hin.2 _
      simp only [StoreOp.flaskIngest, acceptedIngest, if_pos hin, storeStep, apiIngestAlert, bind_apply, lift_apply]
      simp only [hin.1, if_true, bind_apply, lift_apply, hread]
      cases parseIngestPayload (orEmptyDict json) with
      | error e => exact .inr ⟨fun _ h => h, rfl⟩
      | ok fields =>
        simp only
        rcases insertAlert env b (orEmptyDict json) fields.1 fields.2.1 fields.2.2 w with ⟨e | row, w₁⟩
        · exact ⟨fun _ h => h, rfl⟩
        · exact ⟨fun _ h => h, rfl⟩
    · simp only [StoreOp.flaskIngest, if_neg hin, storeStep, hquiet hin]
      exact .inr ⟨fun _ h => h, rfl⟩
  | kafkaIngest b body =>
    simp only [StoreOp.flaskIngest, acceptedIngest, storeStep, kafkaIngest, parseIngestPayload, bind_apply, lift_apply]
    cases hfields : ingestFields body with
    | error e => exact .inr ⟨fun _ h => h, rfl⟩
    | ok fields =>
      simp only [bind, Except.bind]
      by_cases hblank : fields.1 = "" ∨ fields.2.1 = ""
      · simp only [if_pos hblank]
        exact .inr ⟨fun _ h => h, rfl⟩
      · simp only [if_neg hblank]
        cases Severity.ofName fields.2.2 with
        | none => exact .inr ⟨fun _ h => h, rfl⟩
        | some severity =>
          simp only [pure, Except.pure]
          rcases insertAlert env b body fields.1 fields.2.1 severity w with ⟨e | row, w₁⟩
          · exact ⟨fun _ h => h, rfl⟩
          · exact ⟨fun _ h => h, rfl⟩
  | goIngest b req => exact .inr ⟨fun _ h => h, (sameIndex_byStatement.goIngest svc b req w).rows⟩
  | apiClassify b session alertId json =>
    exact .inr ⟨fun _ h => h, (sameIndex_byStatement.apiClassify session alertId json w).rows⟩
  | apiAddNote b session alertId json =>
    exact .inr ⟨fun _ h => h, (sameIndex_byStatement.apiAddNote session alertId json w).rows⟩
  | purgeOldAlerts b days => exact .inl ⟨b, days, rfl⟩
  | createUser b username pwHash role =>
    exact .inr ⟨fun _ h => h, (sameIndex_byStatement.createInLocal (fun _ _ _ _ => rfl) username pwHash role w).rows⟩

theorem alertValues_of_inserts {body : Json} {title category : String} {severity : Severity} {v : AlertValues}
    (h : inserts env a body title category severity = some v) :
    alertValues env a body title category severity = .ok v := by
  unfold inserts at h
  split_ifs at h
  cases hv : alertValues env a body title category severity with
  | error e => simp [hv, Except.toOption] at h
  | ok v' => simpa [hv, Except.toOption] using h

theorem flaskIngest_fields {t : StoreOp} {x : FlaskIngest} (h : t.flaskIngest env = some x) :
    x.title ≠ "" ∧ x.category ≠ "" := by
  have haccepted : ∀ {b : Ambient} {body : Json}, acceptedIngest b body = some x → x.title ≠ "" ∧ x.category ≠ "" := by
    intro b body hb
    unfold acceptedIngest at hb
    cases hparse : parseIngestPayload body with
    | error e => simp [hparse] at hb
    | ok fields =>
      simp only [hparse, Option.some.injEq] at hb
      subst hb
      obtain ⟨ht, hc, -⟩ := parseIngestPayload_eq_ok hparse
      exact ⟨ht, hc⟩
  cases t with
  | apiIngestAlert b apiKey json =>
    rw [StoreOp.flaskIngest] at h
    split_ifs at h
    exact haccepted h
  | kafkaIngest b body => exact haccepted h
  | _ => cases h

variable (env) in
/-- **The entry of a step** is the one of the alert that the step commits. -/
theorem SystemOp.embedding_eq_some (site : Site) (svc : Service) {op : SystemOp} {m : Embedding}
    (h : op.embedding env w = some m) :
    ∃ now v, m = indexEntry env (w.db.newAlert now v) ∧
      (systemStep site env svc w op).db.alerts = (w.db.withAlert now v).alerts := by
  obtain ⟨x, hop, hm⟩ := Option.bind_eq_some_iff.mp h
  obtain ⟨t, ht, hf⟩ := Option.bind_eq_some_iff.mp hop
  obtain ⟨htitle, hcategory⟩ := flaskIngest_fields hf
  have hstep := systemStep_transaction site env svc w op
  have hingest := storeStep_flaskIngest env svc w t
  rw [ht] at hstep
  simp only [hf] at hingest
  unfold FlaskIngest.embedding at hm
  cases hv : inserts env x.a x.body x.title x.category x.severity with
  | none => simp [hv] at hm
  | some v =>
    refine ⟨x.a.now, v, ?_, ?_⟩
    · cases htext : embedInput x.body x.title x.category with
      | error e => simp [hv, htext] at hm
      | ok text =>
        simp only [hv, htext] at hm
        split_ifs at hm
        rw [← Option.some.inj hm, indexEntry,
          ← embedInput_eq_embeddedText htitle hcategory (alertValues_of_inserts hv) htext w.db x.a.now]
        rfl
    · have hrows : SameDb (w.setDb (w.db.withAlert x.a.now v)) _ :=
        keeps_afterInsert env x.a x.body x.title x.category (w.db.newAlert x.a.now v)
          (w.setDb (w.db.withAlert x.a.now v))
      rw [congrArg World.db hstep, hingest.2, insertAlert_of_inserts hv, hrows.rows.alertRows, setDb_db]

variable (env) in
/-- **One step of the index**: it gets the step's entry and keeps what belongs to alerts still there. -/
theorem systemStep_index (site : Site) (svc : Service) (hi : StoreInv w.db) (hx : Indexed env w.db)
    (op : SystemOp) :
    let db' := (systemStep site env svc w op).db
    db'.alertEmbeddings =
      (w.db.alertEmbeddings ++ (op.embedding env w).toList).filter fun m => m.alertId ∈ db'.alertIds := by
  intro db'
  have hdoes := systemStep_does site env svc w op
  have hstep := systemStep_transaction site env svc w op
  have halive : ∀ m ∈ w.db.alertEmbeddings, m.alertId ∈ w.db.alertIds := by
    intro m hm
    obtain ⟨row, hrow, -⟩ := hx.entries m hm
    exact mem_alertIds_of_alert? hrow
  -- a step that is no purge keeps the alerts
  have hkept : (∀ cutoff, ¬op.Purges cutoff) → ∀ m ∈ w.db.alertEmbeddings, m.alertId ∈ db'.alertIds := by
    intro hno m hm
    rcases hdoes.ids with hids | ⟨cutoff, hc, -⟩ | ⟨hids, -⟩
    · rw [show db'.alertIds = w.db.alertIds from hids]
      exact halive m hm
    · exact absurd hc (hno cutoff)
    · rw [show db'.alertIds = _ from hids]
      exact List.mem_append_left _ (halive m hm)
  have hsame : db'.alertEmbeddings = w.db.alertEmbeddings →
      (∀ m ∈ w.db.alertEmbeddings, m.alertId ∈ db'.alertIds) →
        db'.alertEmbeddings = (w.db.alertEmbeddings ++ (none : Option Embedding).toList).filter
          fun m => m.alertId ∈ db'.alertIds := by
    intro hindex hids
    rw [Option.toList_none, List.append_nil, hindex]
    exact (List.filter_eq_self.mpr fun m hm => decide_eq_true (hids m hm)).symm
  unfold SystemOp.embedding
  cases ht : op.transaction with
  | none =>
    rw [ht] at hstep
    have hdb : db' = w.db := hstep
    exact hsame (by rw [hdb]) (by rwa [hdb])
  | some t =>
    rw [ht] at hstep
    have hdb : db' = (storeStep env svc w t).db := congrArg World.db hstep
    have hpurges : (∀ cutoff, ¬t.Purges cutoff) → ∀ cutoff, ¬op.Purges cutoff := by
      rintro hno cutoff ⟨t', ht', hc⟩
      rw [ht, Option.mem_some_iff] at ht'
      exact hno cutoff (ht' ▸ hc)
    have hingest := storeStep_flaskIngest env svc w t
    rw [Option.bind_some]
    cases hf : t.flaskIngest env with
    | some x =>
      simp only [hf] at hingest
      obtain ⟨hno, hinsert⟩ := hingest
      rw [Option.bind_some, hdb.trans hinsert, insertAlert_index hi hx x, ← hdb.trans hinsert]
      refine (List.filter_eq_self.mpr fun m hm => decide_eq_true ?_).symm
      rcases List.mem_append.mp hm with hm | hm
      · exact hkept (hpurges hno) m hm
      · have hop : op.embedding env w = some m := by
          rw [SystemOp.embedding, ht, Option.bind_some, hf]
          exact Option.mem_toList.mp hm
        obtain ⟨now, v, rfl, hrows⟩ := SystemOp.embedding_eq_some env site svc hop
        rw [Db.alertIds, show db'.alerts = _ from hrows]
        exact List.mem_map_of_mem (List.mem_append_right _ (List.mem_singleton_self _))
    | none =>
      simp only [hf] at hingest
      rcases hingest with ⟨b, days, rfl⟩ | ⟨hno, hindex⟩
      · have hpurge : db' = if purges b days then w.db.purged (b.now - days * day) else w.db := by
          rw [hdb]
          show (purgeOldAlerts b days w).2.db = _
          rw [purgeOldAlerts_snd]
          split <;> rfl
        by_cases hp : purges b days = true
        · rw [if_pos hp] at hpurge
          rw [hpurge, Option.bind_none, Option.toList_none, List.append_nil]
          refine List.filter_congr fun m hm => ?_
          rw [Bool.eq_iff_iff, Bool.not_eq_true', decide_eq_true_eq]
          exact (hi.mem_purged_alertIds_iff (halive m hm)).symm
        · rw [if_neg hp] at hpurge
          exact hsame (by rw [hpurge]) (by rwa [hpurge])
      · exact hsame (by rw [hdb]; exact hindex) (hkept (hpurges hno))

variable (env) in
/-- An alert shows the same text as long as it is there. -/
theorem indexEntry_kept {V : AlertValues → Prop} {N : String → Prop} {C : Time → Prop} {db db' : Db}
    (hi : StoreInv db) (h : StoreStep V N C db db') {id : ℕ} {row : Alert} (hrow : db.alert? id = some row)
    (hid : id ∈ db'.alertIds) : ∃ row', db'.alert? id = some row' ∧ indexEntry env row' = indexEntry env row := by
  have hle := (life_step hi h id).le
  obtain ⟨row', hmem, hkey⟩ := List.mem_map.mp hid
  have hrow' : db'.alert? id = some row' := by
    rw [← hkey]
    exact (hi.step h).distinct.lookup_mem hmem
  rw [life_of_some hrow, life_of_some hrow'] at hle
  have hgrows : Dossier.Grows ⟨row, _, _⟩ ⟨row', _, _⟩ := hle
  refine ⟨row', hrow', ?_⟩
  rcases hgrows.alert with hsame | ⟨-, action, analystName, hassigned⟩
  · exact congrArg (indexEntry env) hsame
  · simp only at hassigned
    rw [hassigned]
    rfl

/-- **A step keeps the index right.** -/
theorem Indexed.step (site : Site) (svc : Service) (hi : StoreInv w.db) (hx : Indexed env w.db) (op : SystemOp) :
    Indexed env (systemStep site env svc w op).db := by
  have hdoes := systemStep_does site env svc w op
  have hindex := systemStep_index env site svc hi hx op
  have hnext : ∀ m, op.embedding env w = some m → m.alertId = w.db.alertsSeq := by
    intro m hm
    obtain ⟨now, v, rfl, -⟩ := SystemOp.embedding_eq_some env site svc hm
    rfl
  refine ⟨?_, ?_⟩
  · rw [hindex]
    refine List.Nodup.sublist (List.filter_sublist.map _) ?_
    rw [List.map_append]
    refine List.nodup_append.mpr ⟨hx.distinct, ?_, ?_⟩
    · cases op.embedding env w <;> simp
    · intro id hid id' hid' he
      obtain ⟨m, hm, rfl⟩ := List.mem_map.mp hid
      obtain ⟨m', hm', rfl⟩ := List.mem_map.mp hid'
      have hlt := hx.alertId_lt hi hm
      have hnew := hnext m' (Option.mem_toList.mp hm')
      omega
  · intro m hm
    rw [hindex] at hm
    obtain ⟨hm, halive⟩ := List.mem_filter.mp hm
    rw [decide_eq_true_eq] at halive
    rcases List.mem_append.mp hm with hm | hm
    · obtain ⟨row, hrow, he⟩ := hx.entries m hm
      obtain ⟨row', hrow', he'⟩ := indexEntry_kept env hi hdoes hrow halive
      exact ⟨row', hrow', he.trans he'.symm⟩
    · obtain ⟨now, v, rfl, hrows⟩ := SystemOp.embedding_eq_some env site svc (Option.mem_toList.mp hm)
      refine ⟨w.db.newAlert now v, ?_, rfl⟩
      rw [alert?_of_alerts hrows]
      exact hi.alert?_withAlert_new now v

end Ingest

section Runs

variable (site : Site) (env : Env) (svc : Service)

/-- **The index is a ledger**: an entry goes with its alert. -/
theorem index_ledger : Ledger (systemStep site env svc) (SystemOp.embedding env) (fun w => w.db.alertEmbeddings)
    (fun w m => m.alertId ∈ w.db.alertIds) (fun w m => m.alertId < w.db.alertsSeq)
    (fun w => StoreInv w.db ∧ Indexed env w.db) where
  keeps w op h := ⟨h.1.step (systemStep_does site env svc w op), h.2.step site svc h.1 op⟩
  rows_alive w h m hm := by
    obtain ⟨row, hrow, -⟩ := h.2.entries m hm
    exact mem_alertIds_of_alert? hrow
  rows_step _ op h := systemStep_index env site svc h.1 h.2 op
  known_table _ h _ hm := h.2.alertId_lt h.1 hm
  known_entry w op h m hm := by
    obtain ⟨now, v, rfl, hrows⟩ := SystemOp.embedding_eq_some env site svc hm
    have hnext := h.1.step (systemStep_does site env svc w op)
    refine hnext.id_lt (List.mem_map.mpr ⟨w.db.newAlert now v, ?_, rfl⟩)
    rw [hrows]
    exact List.mem_append_right _ (List.mem_singleton_self _)
  known_step w op _ _ hknown := hknown.trans_le (systemStep_does site env svc w op).seqLe.alerts
  stays_gone w op _ _ := (systemStep_does site env svc w op).alertIds_mem

theorem Indexed.created : Indexed env (applySchema none) where
  distinct := List.nodup_nil
  entries := by simp [applySchema, emptyTables]

theorem indexed_run (w : World) (ops : List SystemOp) :
    let db := (Runs.run (systemStep site env svc) (w.setDb (applySchema none)) ops).db
    StoreInv db ∧ Indexed env db :=
  Runs.run_inv (systemStep site env svc) (I := fun w => StoreInv w.db ∧ Indexed env w.db)
    (index_ledger site env svc).keeps ops (w.setDb (applySchema none)) ⟨StoreInv.created, .created env⟩

/-- **The index after a run** from freshly created tables: the entries that the ingests of the run wrote, in
order, less those of alerts that a purge took; each is the vector of the text that its alert shows now,
and no alert has two. -/
theorem indexed_systemRun (w : World) (ops : List SystemOp) :
    let w₀ := w.setDb (applySchema none)
    let db := (Runs.run (systemStep site env svc) w₀ ops).db
    db.alertEmbeddings = (written (systemStep site env svc) (SystemOp.embedding env) w₀ ops).filter
        (fun m => m.alertId ∈ db.alertIds) ∧
      (∀ m ∈ db.alertEmbeddings, ∃ row, db.alert? m.alertId = some row ∧
        m.embedding = "[" ++ env.embedVector (embeddedText env row) ++ "]") ∧
      (db.alertEmbeddings.map Embedding.alertId).Nodup := by
  intro w₀ db
  have hx : Indexed env db := (indexed_run site env svc w ops).2
  refine ⟨(index_ledger site env svc).table_run ops w₀ ⟨StoreInv.created, .created env⟩, ?_, hx.distinct⟩
  intro m hm
  obtain ⟨row, hrow, he⟩ := hx.entries m hm
  exact ⟨row, hrow, congrArg Embedding.embedding he⟩

end Runs

/-! ### The search -/

section Search

variable {env : Env} {db : Db}

theorem mem_neighbours {alertId : ℕ} {row : Alert} : row ∈ neighbours env db alertId ↔
    row ∈ db.alerts ∧ row.id ≠ alertId ∧ indexEntry env row ∈ db.alertEmbeddings := by
  unfold neighbours
  rw [List.mem_filter, decide_eq_true_eq]

theorem StoreInv.neighbours_nodup (hi : StoreInv db) (alertId : ℕ) : (neighbours env db alertId).Nodup :=
  (List.Nodup.of_map _ hi.distinct).filter _

/-- Entries of the index, joined with the alerts. -/
theorem flatMap_entries (hi : StoreInv db) (hx : Indexed env db) (pg : Pg) (ref : Alert) :
    ∀ l : List Embedding, l ⊆ db.alertEmbeddings →
      (l.flatMap fun cmp => (db.alerts.filter fun row => row.id = cmp.alertId).map fun row =>
        (row, pg.distance (indexEntry env ref).embedding cmp.embedding)) =
      (l.filterMap fun m => db.alert? m.alertId).map fun row => (row, textDistance env pg ref row)
  | [], _ => rfl
  | m :: l, hsub => by
    obtain ⟨hm, hl⟩ := List.cons_subset.mp hsub
    obtain ⟨row, hrow, he⟩ := hx.entries m hm
    have hone : (db.alerts.filter fun x => x.id = m.alertId) = [row] := by
      rw [hi.distinct.filter_key]
      exact congrArg Option.toList hrow
    have hfound : ((m :: l).filterMap fun m => db.alert? m.alertId) =
        row :: l.filterMap fun m => db.alert? m.alertId := by
      rw [List.filterMap_cons, hrow]
    rw [List.flatMap_cons, flatMap_entries hi hx pg ref l hl, hone, hfound, List.map_singleton, List.map_cons, he]
    rfl

/-- The alerts of the entries are the neighbours. -/
theorem neighbours_perm (hi : StoreInv db) (hx : Indexed env db) (alertId : ℕ) :
    ((db.alertEmbeddings.filter fun m => m.alertId ≠ alertId).filterMap fun m => db.alert? m.alertId).Perm
      (neighbours env db alertId) := by
  have hids : ((db.alertEmbeddings.filter fun m => m.alertId ≠ alertId).filterMap fun m =>
      db.alert? m.alertId).map Alert.id =
        (db.alertEmbeddings.filter fun m => m.alertId ≠ alertId).map Embedding.alertId := by
    rw [List.map_filterMap, ← List.filterMap_eq_map']
    refine List.filterMap_congr fun m hm => ?_
    obtain ⟨row, hrow, -⟩ := hx.entries m (List.mem_of_mem_filter hm)
    rw [hrow, Option.map_some, Table.lookup_key hrow]
  have hfound : ((db.alertEmbeddings.filter fun m => m.alertId ≠ alertId).filterMap fun m =>
      db.alert? m.alertId).Nodup := by
    refine List.Nodup.of_map Alert.id ?_
    rw [hids]
    exact List.Nodup.sublist (List.filter_sublist.map _) hx.distinct
  refine (List.perm_ext_iff_of_nodup hfound (hi.neighbours_nodup alertId)).mpr fun row => ?_
  rw [List.mem_filterMap, mem_neighbours]
  constructor
  · rintro ⟨m, hm, hrow⟩
    obtain ⟨hm, hne⟩ := List.mem_filter.mp hm
    obtain ⟨row', hrow', he⟩ := hx.entries m hm
    rw [hrow] at hrow'
    obtain rfl := Option.some.inj hrow'
    refine ⟨Table.lookup_mem hrow, ?_, he ▸ hm⟩
    rw [Table.lookup_key hrow]
    exact of_decide_eq_true hne
  · rintro ⟨hrow, hne, hm⟩
    exact ⟨indexEntry env row, List.mem_filter.mpr ⟨hm, decide_eq_true hne⟩, hi.distinct.lookup_mem hrow⟩

/-- **The similarity query of an indexed alert** finds the five nearest of its neighbours, or all of them. -/
theorem similarRows_eq (hi : StoreInv db) (hx : Indexed env db) (pg : Pg) (plan : Plan) {alertId : ℕ} {ref : Alert}
    (href : db.alert? alertId = some ref) (hmem : indexEntry env ref ∈ db.alertEmbeddings) :
    ∃ rows, FirstRows 5 (textDistance env pg ref) (neighbours env db alertId) rows ∧
      similarRows pg plan alertId db = rows.map fun row => (row, textDistance env pg ref row) := by
  have hid : ref.id = alertId := Table.lookup_key href
  have href' : (db.alertEmbeddings.filter fun m => m.alertId = alertId) = [indexEntry env ref] := by
    have hdistinct : Table.Distinct Embedding.alertId db.alertEmbeddings := hx.distinct
    rw [hdistinct.filter_key, ← hid]
    exact congrArg Option.toList (hdistinct.lookup_mem hmem)
  refine ⟨_, (firstRows_orderBy 5 (textDistance env pg ref) (fun row => plan.ids row.id) _).of_perm
    (neighbours_perm hi hx alertId), ?_⟩
  rw [similarRows, href', List.flatMap_singleton]
  have hsub : (db.alertEmbeddings.filter fun m => m.alertId ≠ alertId) ⊆ db.alertEmbeddings :=
    List.filter_subset_self _
  have hjoin := flatMap_entries hi hx pg ref _ hsub
  rw [show (indexEntry env ref).alertId = alertId from hid, hjoin, orderBy_map, List.map_take]

/-- An alert that the index does not know has no similar ones. -/
theorem similarRows_unknown (pg : Pg) (plan : Plan) {alertId : ℕ}
    (h : ∀ m ∈ db.alertEmbeddings, m.alertId ≠ alertId) : similarRows pg plan alertId db = [] := by
  have hnone : (db.alertEmbeddings.filter fun ref => ref.alertId = alertId) = [] :=
    List.filter_eq_nil_iff.mpr fun m hm he => h m hm (of_decide_eq_true he)
  rw [similarRows, hnone, List.flatMap_nil, orderBy, List.mergeSort_nil, List.take_nil]

/-- What `api_similar_alerts` lists is the result of the query. -/
theorem serve_similar {site : Site} {a : Ambient} {ra : ReadAmbient} {req : Request} {alertId : ℕ} {w : World}
    {r : Response} {answers : List SimilarAlert} (he : req.endpoint = .similar alertId)
    (hr : (serve env (reads site env a ra) a req w).1 = .ok r) (hpayload : r.payload = .similar answers) :
    answers = (similarRows site.pg ra.plan alertId w.db).map (similarAlert env site.pg) := by
  have hselects : ∀ {w' : World}, selects (reads site env a ra) a req w = (.ok r, w') →
      answers = (similarRows site.pg ra.plan alertId w.db).map (similarAlert env site.pg) := by
    intro w' h
    obtain ⟨query, w₁, hfirst, h⟩ := bind_eq_ok.mp h
    obtain ⟨hquery, rfl⟩ := lift_eq_ok.mp hfirst
    obtain ⟨answer, w₂, hconn, h⟩ := bind_eq_ok.mp h
    obtain ⟨-, -, db', hselect, -⟩ := withConn_ok.mp hconn
    obtain ⟨-, hgets⟩ := attempt_eq_ok.mp hselect
    obtain ⟨hlift, -⟩ := lift_eq_ok.mp h
    rw [gets_apply, Prod.mk.injEq, Except.ok.injEq] at hgets
    rw [← hgets.1] at hlift
    simp only [reads, he, Except.ok.injEq] at hquery
    rw [← hquery, Except.ok.injEq] at hlift
    rw [← hlift] at hpayload
    exact (Payload.similar.inj hpayload).symm
  have hview : (apiSimilarAlerts (reads site env a ra) a req w).1 = .ok r →
      answers = (similarRows site.pg ra.plan alertId w.db).map (similarAlert env site.pg) := by
    intro h
    rw [apiSimilarAlerts, loginRequired_eq] at h
    by_cases hload : loadFails a req.session = true
    · rw [if_pos hload] at h
      cases h
    rw [if_neg hload] at h
    cases hs : sessionUser w.db req.session with
    | none =>
      rw [hs] at h
      cases h
      cases hpayload
    | some user =>
      rw [hs] at h
      simp only [bind_apply, gets_apply] at h
      by_cases hmodel : w.embeddingModel = .failed
      · rw [if_pos hmodel] at h
        cases h
        cases hpayload
      · rw [if_neg hmodel, catching] at h
        rcases hsel : selects (reads site env a ra) a req w with ⟨e | r', w'⟩
        · rw [hsel] at h
          cases h
          cases hpayload
        · rw [hsel] at h
          cases h
          exact hselects hsel
  unfold serve at hr
  have hunknown : Endpoint.similar alertId ≠ .unknown := Endpoint.noConfusion
  rw [he, if_neg hunknown] at hr
  by_cases hoptions : req.method = .options
  · rw [if_pos hoptions] at hr
    cases hr
    cases hpayload
  rw [if_neg hoptions] at hr
  by_cases hmethods : req.method ∉ (Endpoint.similar alertId).methods
  · rw [if_pos hmethods] at hr
    cases hr
  rw [if_neg hmethods] at hr
  have hrest : (view env (reads site env a ra) a req w).1 = .ok r := by
    revert hr
    cases req.csrfProtected <;> cases req.csrfError
    · exact id
    · exact id
    · exact id
    · exact fun h => by cases h
  rw [view, he] at hrest
  exact hview hrest

end Search

section Reached

variable (site : Site) (env : Env) (svc : Service) (w : World) (ops : List SystemOp)

/-- What a request in a reached state lists is the result of the query. -/
theorem systemAnswer_similar {w : World} {a : Ambient} {ra : ReadAmbient} {req : Request} {alertId : ℕ}
    (he : req.endpoint = .similar alertId) {r : Response} {answers : List SimilarAlert}
    (hr : systemAnswer site env w (.flask ⟨.http req, a, ra⟩) = some r) (hpayload : r.payload = .similar answers) :
    answers = (similarRows site.pg ra.plan alertId w.db).map (similarAlert env site.pg) := by
  rw [systemAnswer, opStep_http, Option.some.injEq, respond] at hr
  rcases hserve : serve env (reads site env a ra) a req w with ⟨e | r', w'⟩
  · rw [hserve] at hr
    rw [← hr] at hpayload
    cases e <;> cases hpayload
  · rw [hserve] at hr
    rw [← hr] at hpayload
    exact serve_similar he (congrArg Prod.fst hserve) hpayload

/-- The query in a reached state: nothing for an id that is not indexed, else the nearest of its neighbours. -/
theorem similarRows_reached (plan : Plan) (alertId : ℕ) :
    let db := (Runs.run (systemStep site env svc) (w.setDb (applySchema none)) ops).db
    ((∀ m ∈ db.alertEmbeddings, m.alertId ≠ alertId) ∧ similarRows site.pg plan alertId db = []) ∨
      ∃ ref rows, db.alert? alertId = some ref ∧ indexEntry env ref ∈ db.alertEmbeddings ∧
        FirstRows 5 (textDistance env site.pg ref) (neighbours env db alertId) rows ∧
          similarRows site.pg plan alertId db = rows.map fun row => (row, textDistance env site.pg ref row) := by
  intro db
  obtain ⟨hi, hx⟩ := indexed_run site env svc w ops
  by_cases hindexed : ∃ m ∈ db.alertEmbeddings, m.alertId = alertId
  · obtain ⟨m, hm, hid⟩ := hindexed
    obtain ⟨ref, href, rfl⟩ := hx.entries m hm
    rw [hid] at href
    obtain ⟨rows, hfirst, hrows⟩ := similarRows_eq hi hx site.pg plan href hm
    exact .inr ⟨ref, rows, href, hm, hfirst, hrows⟩
  · have hnone : ∀ m ∈ db.alertEmbeddings, m.alertId ≠ alertId := fun m hm hid => hindexed ⟨m, hm, hid⟩
    exact .inl ⟨hnone, similarRows_unknown site.pg plan hnone⟩

end Reached

/-- **Similar alerts in any reached state.** Whatever has been ingested, triaged and purged before, what
`GET /api/alerts/<id>/similar` lists of an indexed alert are the five other indexed alerts (or all of them)
whose shown texts are nearest to its own, nearest first; of any other id it lists nothing. -/
theorem similar_systemRun (site : Site) (env : Env) (svc : Service) (w : World) (ops : List SystemOp)
    {a : Ambient} {ra : ReadAmbient} {req : Request} {alertId : ℕ} (he : req.endpoint = .similar alertId)
    {r : Response} {answers : List SimilarAlert}
    (hr : systemAnswer site env (Runs.run (systemStep site env svc) (w.setDb (applySchema none)) ops)
      (.flask ⟨.http req, a, ra⟩) = some r) (hpayload : r.payload = .similar answers) :
    let db := (Runs.run (systemStep site env svc) (w.setDb (applySchema none)) ops).db
    ((∀ m ∈ db.alertEmbeddings, m.alertId ≠ alertId) ∧ answers = []) ∨
      ∃ ref rows, db.alert? alertId = some ref ∧ indexEntry env ref ∈ db.alertEmbeddings ∧
        FirstRows 5 (textDistance env site.pg ref) (neighbours env db alertId) rows ∧
          answers = rows.map fun row => similarAlert env site.pg (row, textDistance env site.pg ref row) := by
  intro db
  rw [systemAnswer_similar site env he hr hpayload]
  rcases similarRows_reached site env svc w ops ra.plan alertId with ⟨hnone, hrows⟩ | ⟨ref, rows, href, hm, hfirst, hrows⟩
  · exact .inl ⟨hnone, congrArg (List.map (similarAlert env site.pg)) hrows⟩
  · refine .inr ⟨ref, rows, href, hm, hfirst, ?_⟩
    exact (congrArg (List.map (similarAlert env site.pg)) hrows).trans List.map_map

/-- A model of two dimensions, which turns probes one way and anything else another. -/
def probeVector (text : String) : String :=
  match text with
  | "Port scan port_scan" => "1,0"
  | "SYN <scan> Network" => "0.96,0.28"
  | "Ping sweep Network" => "0.8,0.6"
  | "DNS probe Network" => "0.6,0.8"
  | "Beacon Malware" => "0.28,0.96"
  | "Phishing mail Email" => "-0.6,0.8"
  | _ => "0,1"

/-- `::vector`, of what `probeVector` writes. -/
def unitVector (embedding : String) : ℚ × ℚ :=
  match embedding with
  | "[1,0]" => (1, 0)
  | "[0.96,0.28]" => (24 / 25, 7 / 25)
  | "[0.8,0.6]" => (4 / 5, 3 / 5)
  | "[0.6,0.8]" => (3 / 5, 4 / 5)
  | "[0.28,0.96]" => (7 / 25, 24 / 25)
  | "[-0.6,0.8]" => (-3 / 5, 4 / 5)
  | _ => (0, 1)

/-- The cosine distance of vectors of length one. -/
def cosineDistance (x y : String) : ℚ :=
  1 - ((unitVector x).1 * (unitVector y).1 + (unitVector x).2 * (unitVector y).2)

def probeEnv : Env := { exampleEnv with embedVector := probeVector }

def probeSite : Site := { plainSite with pg := { utc with distance := cosineDistance, similarity := fun d => 1 - d } }

/-- An alert that the consumer stores. -/
def kafkaMoment (title category : String) : Moment :=
  ⟨.kafkaIngest (.obj [("title", .str title), ("category", .str category), ("severity", .str "low")]), calm,
    portScanMoment.ra⟩

/-- Seven alerts come in over the two Python paths, and the fifth is closed. -/
def lookalikeMoments : List Moment :=
  [⟨.createUser "asmith" "hash" .analyst, calm, portScanMoment.ra⟩,
    portScanMoment,
    kafkaMoment "Failed login" "Identity",
    kafkaMoment "SYN <scan>" "Network",
    kafkaMoment "Phishing mail" "Email",
    kafkaMoment "Ping sweep" "Network",
    kafkaMoment "Beacon" "Malware",
    kafkaMoment "DNS probe" "Network",
    ⟨.http ⟨.post, .classify 5, some 1, none, none,
      some (.obj [("analyst", .str "asmith"), ("action", .str "classify_fp")]), [], []⟩, calm, portScanMoment.ra⟩]

def similarToFirst : Request := ⟨.get, .similar 1, some 1, none, none, none, [], []⟩

/-- What the query joins with the first alert, nearest first. -/
def probeRows (db : Db) : List (Alert × ℚ) :=
  [(3, 1 / 25), (5, 1 / 5), (7, 2 / 5), (6, 18 / 25), (2, 1), (4, 8 / 5)].filterMap fun near =>
    (db.alert? near.1).map fun row => (row, near.2)

theorem similarRows_lookalike :
    let w := Runs.run (systemStep probeSite probeEnv exampleService) (emptyWorld.setDb (applySchema none))
      (lookalikeMoments.map .flask)
    similarRows probeSite.pg portScanMoment.ra.plan 1 w.db = (probeRows w.db).take 5 :=
  congrArg (List.take 5) (orderBy_eq (by decide +kernel) (by decide +kernel))

/-- The five nearest of the six others, the closed one among them; the mail is the farthest. -/
theorem similar_lookalike :
    let w := Runs.run (systemStep probeSite probeEnv exampleService) (emptyWorld.setDb (applySchema none))
      (lookalikeMoments.map .flask)
    ∃ answers, systemAnswer probeSite probeEnv w (.flask ⟨.http similarToFirst, calm, portScanMoment.ra⟩) =
          some ⟨200, .similar answers, none⟩ ∧
      answers.map (fun answer => (answer.id, answer.similarity)) =
        [(3, 24 / 25), (5, 4 / 5), (7, 3 / 5), (6, 7 / 25), (2, 0)] ∧
      ∃ ref rows, w.db.alert? 1 = some ref ∧ (neighbours probeEnv w.db 1).length = 6 ∧
        FirstRows 5 (textDistance probeEnv probeSite.pg ref) (neighbours probeEnv w.db 1) rows ∧
          answers = rows.map fun row =>
            similarAlert probeEnv probeSite.pg (row, textDistance probeEnv probeSite.pg ref row) := by
  intro w
  have hr : systemAnswer probeSite probeEnv w (.flask ⟨.http similarToFirst, calm, portScanMoment.ra⟩) =
      some ⟨200, .similar ((similarRows probeSite.pg portScanMoment.ra.plan 1 w.db).map
        (similarAlert probeEnv probeSite.pg)), none⟩ := rfl
  refine ⟨_, hr, by rw [similarRows_lookalike]; decide +kernel, ?_⟩
  rcases similar_systemRun probeSite probeEnv exampleService emptyWorld (lookalikeMoments.map .flask)
    (rfl : similarToFirst.endpoint = .similar 1) hr rfl with ⟨hnone, -⟩ | ⟨ref, rows, href, -, hfirst, he⟩
  · exact absurd hnone (by decide +kernel)
  · exact ⟨ref, rows, href, by decide +kernel, hfirst, he⟩

end SocDashboard
