/-
# Whose history an audit entry is

The provisioning of the database, the seeding run and the transactions of the
store as one system. The script may be applied again at any time: it leaves
`audit_log` as it is and takes its foreign keys along, so from then on neither
the seeding run nor a purge carries its rows off, while ids start again at 1.

To tell alerts of one id apart, each alert is stamped with the step that
inserted it (`born`) and each audit entry with the stamp of the alert its
request was about (`about`). `AuditBelongs` says that every entry refers to an
alert that is there and that what the audit route returns was written about
that alert.

Key definitions: `Db.auditOf`, `ProvisionOp`, `Deployment`, `provisionStep`,
`AuditBelongs`, `Stamped`, `Harmless`.
Key theorems: `Stamped.step`, `belongs_store_iff`, `belongs_seed_iff`,
`belongs_schema_iff`, `auditBelongs_iff`.
-/
import SocDashboard.Seed
import SocDashboard.Store

namespace SocDashboard

open Exec

/-! ### The system -/

/-- The rows `api_alert_audit` returns: of one alert, oldest first. -/
def Db.auditOf (db : Db) (alertId : ℕ) : List AuditEntry :=
  (db.auditLog.filter fun e => e.alertId = alertId).mergeSort fun e e' => e.createdAt ≤ e'.createdAt

inductive ProvisionOp
  | schema
  | seed (a : Ambient) (plan : SeedPlan)
  | store (op : StoreOp)

/-- The process over the database, which is not there before the script first runs. -/
structure Deployment where
  world : Option World
  clock : ℕ
  /-- The step that inserted the alert with an id. -/
  born : ℕ → ℕ
  /-- The stamp of the alert that the request behind an audit entry was about. -/
  about : ℕ → ℕ

/-- The stamps once a transaction took `before` on: an id that was not there is new. -/
def bornAfter (before : Db) (clock : ℕ) (born : ℕ → ℕ) (id : ℕ) : ℕ :=
  if id ∈ before.alertIds then born id else clock

/-- The entry `id` of `after`, when it is new, is about the alert that then held its id. -/
def aboutAfter (before after : Db) (born about : ℕ → ℕ) (id : ℕ) : ℕ :=
  if id ∈ before.auditLog.map AuditEntry.id then about id
  else ((Table.lookup AuditEntry.id id after.auditLog).map fun e => born e.alertId).getD 0

/-- One step; before the tables are there, only the script does something. -/
def provisionStep (env : Env) (svc : Service) (fresh : World) (s : Deployment) (op : ProvisionOp) :
    Deployment :=
  match op, s.world with
  | .schema, world =>
    { s with
      world := some ((world.getD fresh).setDb (applySchema (world.map World.db)))
      clock := s.clock + 1 }
  | _, none => { s with clock := s.clock + 1 }
  | .seed a plan, some w =>
    { s with
      world := some (seedMain a plan w).2
      clock := s.clock + 1
      born := if seeds a plan then fun _ => s.clock else s.born }
  | .store op, some w =>
    let w' := storeStep env svc w op
    { world := some w'
      clock := s.clock + 1
      born := bornAfter w.db s.clock s.born
      about := aboutAfter w.db w'.db s.born s.about }

/-- An empty database server. -/
def Deployment.start : Deployment := ⟨none, 0, fun _ => 0, fun _ => 0⟩

/-- Every entry refers to an alert, and the audit route returns of an id what was written about
the alert that holds it. -/
structure Belongs (db : Db) (born about : ℕ → ℕ) : Prop where
  refers : ∀ e ∈ db.auditLog, ∃ alert ∈ db.alerts, alert.id = e.alertId
  history : ∀ alertId, ∀ e ∈ db.auditOf alertId, about e.id = born alertId

def AuditBelongs (s : Deployment) : Prop := ∀ w, s.world = some w → Belongs w.db s.born s.about

/-- The step leaves the entries with their alerts: the script finds no entry; a seeding run that
commits finds the foreign key in force or no entry; a purge that commits finds the foreign key in
force or takes no alert that has an entry. -/
def Harmless (s : Deployment) (op : ProvisionOp) : Prop :=
  ∀ w, s.world = some w →
    match op with
    | .schema => w.db.auditLog = []
    | .seed a plan => seeds a plan = true → w.db.auditAlertFk = true ∨ w.db.auditLog = []
    | .store (.purgeOldAlerts a days) => purges a days = true →
        w.db.auditAlertFk = true ∨ ∀ e ∈ w.db.auditLog, w.db.expired (a.now - days * day) e.alertId = false
    | .store _ => True

/-! ### What every step keeps -/

/-- Ids and stamps that are in use are behind their counters. -/
structure Stamped (db : Db) (clock : ℕ) (born about : ℕ → ℕ) : Prop where
  distinct : Table.Distinct Alert.id db.alerts
  alerts : ∀ alert ∈ db.alerts, alert.id < db.alertsSeq
  audit : ∀ e ∈ db.auditLog, e.id < db.auditSeq
  born : ∀ alert ∈ db.alerts, born alert.id < clock
  about : ∀ e ∈ db.auditLog, about e.id < clock

theorem mem_auditOf {db : Db} {alertId : ℕ} {e : AuditEntry} :
    e ∈ db.auditOf alertId ↔ e ∈ db.auditLog ∧ e.alertId = alertId := by
  simp [Db.auditOf]

/-- The property, entry by entry. -/
theorem belongs_iff {db : Db} {born about : ℕ → ℕ} :
    Belongs db born about ↔ ∀ e ∈ db.auditLog, e.alertId ∈ db.alertIds ∧ about e.id = born e.alertId := by
  constructor
  · intro h e he
    exact ⟨List.mem_map.mpr (h.refers e he), h.history e.alertId e (mem_auditOf.mpr ⟨he, rfl⟩)⟩
  · intro h
    refine ⟨fun e he => List.mem_map.mp (h e he).1, fun alertId e he => ?_⟩
    obtain ⟨hmem, rfl⟩ := mem_auditOf.mp he
    exact (h e hmem).2

section Store

variable {db db' : Db} {clock : ℕ} {born about : ℕ → ℕ}

theorem bornAfter_of_mem {id : ℕ} (h : id ∈ db.alertIds) : bornAfter db clock born id = born id := if_pos h

theorem aboutAfter_of_mem {e : AuditEntry} (h : e ∈ db.auditLog) :
    aboutAfter db db' born about e.id = about e.id := if_pos (List.mem_map_of_mem h)

/-- The stamp of an entry that was just appended. -/
theorem aboutAfter_new {e : AuditEntry} (hfresh : ∀ e' ∈ db.auditLog, e'.id < e.id)
    (hdb : db'.auditLog = db.auditLog ++ [e]) : aboutAfter db db' born about e.id = born e.alertId := by
  have hnot : e.id ∉ db.auditLog.map AuditEntry.id := by
    intro hmem
    obtain ⟨e', he', hid⟩ := List.mem_map.mp hmem
    have := hfresh e' he'
    omega
  have hlook : Table.lookup AuditEntry.id e.id db'.auditLog = some e := by
    rw [hdb, Table.lookup, List.find?_append]
    have hnone : db.auditLog.find? (fun e' => e'.id = e.id) = none := by
      refine List.find?_eq_none.mpr fun e' he' => ?_
      have := hfresh e' he'
      simp only [decide_eq_true_eq]
      omega
    simp [hnone]
  simp [aboutAfter, hnot, hlook]

theorem Stamped.born_of_mem (h : Stamped db clock born about) {id : ℕ} (hid : id ∈ db.alertIds) :
    born id < clock := by
  obtain ⟨alert, ha, rfl⟩ := List.mem_map.mp hid
  exact h.born alert ha

theorem Stamped.tick (h : Stamped db clock born about) : Stamped db (clock + 1) born about :=
  ⟨h.distinct, h.alerts, h.audit, fun alert ha => Nat.lt_succ_of_lt (h.born alert ha),
    fun e he => Nat.lt_succ_of_lt (h.about e he)⟩

end Store

/-! ### What a transaction leaves -/

section Transaction

variable {V : AlertValues → Prop} {N : String → Prop} {C : Time → Prop} {db db' : Db}

variable {clock : ℕ} {born about : ℕ → ℕ}

/-- **Transactions keep the stamps in order.** -/
theorem Stamped.store (h : Stamped db clock born about) (hs : StoreStep V N C db db') :
    Stamped db' (clock + 1) (bornAfter db clock born) (aboutAfter db db' born about) where
  distinct := hs.distinct h.distinct h.alerts
  alerts := hs.fresh h.alerts
  audit := by
    intro e he
    have hseq := hs.seqLe.audit
    rcases hs.entries e he with hold | hnew
    · have := h.audit e hold
      omega
    · have := hnew.next
      have := hnew.seq
      omega
  born := by
    intro alert _
    unfold bornAfter
    split_ifs with hmem
    · have := h.born_of_mem hmem
      omega
    · omega
  about := by
    intro e he
    rcases hs.entries e he with hold | hnew
    · have := h.about e hold
      rw [aboutAfter_of_mem hold]
      omega
    · have := h.born_of_mem hnew.alert
      rw [aboutAfter_new (fun e' he' => hnew.next ▸ h.audit e' he') hnew.appended]
      omega

/-- A transaction that purges nothing leaves the entries with their alerts. -/
theorem Belongs.store (h : Belongs db born about) (hst : Stamped db clock born about)
    (hs : StoreStep V N C db db') (hC : ∀ cutoff, ¬ C cutoff) :
    Belongs db' (bornAfter db clock born) (aboutAfter db db' born about) := by
  have hsub : ∀ id ∈ db.alertIds, id ∈ db'.alertIds := by
    intro id hid
    rcases hs.ids with hids | ⟨cutoff, hc, -⟩ | ⟨hids, -⟩
    · rwa [hids]
    · exact absurd hc (hC cutoff)
    · rw [hids]
      exact List.mem_append_left _ hid
  refine belongs_iff.mpr fun e he => ?_
  rcases hs.entries e he with hold | hnew
  · obtain ⟨hmem, hstamp⟩ := belongs_iff.mp h e hold
    refine ⟨hsub _ hmem, ?_⟩
    rw [aboutAfter_of_mem hold, bornAfter_of_mem hmem]
    exact hstamp
  · refine ⟨hsub _ hnew.alert, ?_⟩
    rw [aboutAfter_new (fun e' he' => hnew.next ▸ hst.audit e' he') hnew.appended,
      bornAfter_of_mem hnew.alert]

/-- **When a purge leaves the entries with their alerts.** -/
theorem belongs_purged_iff (h : Belongs db born about) (hst : Stamped db clock born about) (cutoff : Time) :
    Belongs (db.purged cutoff) (bornAfter db clock born) (aboutAfter db (db.purged cutoff) born about) ↔
      db.auditAlertFk = true ∨ ∀ e ∈ db.auditLog, db.expired cutoff e.alertId = false := by
  have hkept : ∀ e ∈ db.auditLog, db.expired cutoff e.alertId = false →
      e.alertId ∈ (db.purged cutoff).alertIds ∧
        aboutAfter db (db.purged cutoff) born about e.id = bornAfter db clock born e.alertId := by
    intro e he hex
    obtain ⟨hmem, hstamp⟩ := belongs_iff.mp h e he
    refine ⟨mem_purged_alertIds hmem hex, ?_⟩
    rw [aboutAfter_of_mem he, bornAfter_of_mem hmem]
    exact hstamp
  cases hfk : db.auditAlertFk with
  | true =>
    refine iff_of_true (belongs_iff.mpr fun e he => ?_) (Or.inl rfl)
    simp only [Db.purged, hfk, if_true] at he
    obtain ⟨hmem, hex⟩ := List.mem_filter.mp he
    exact hkept e hmem (by simpa using hex)
  | false =>
    have hlog : (db.purged cutoff).auditLog = db.auditLog := by simp [Db.purged, hfk]
    simp only [Bool.false_eq_true, false_or]
    constructor
    · intro hb e he
      rw [← Bool.not_eq_true]
      intro hex
      -- ids are distinct, so no other alert of that id is left
      obtain ⟨alert, ha, hold⟩ := List.any_eq_true.mp hex
      simp only [Bool.and_eq_true, decide_eq_true_eq] at hold
      obtain ⟨hmem, -⟩ := belongs_iff.mp hb e (hlog ▸ he)
      obtain ⟨alert', ha', hid'⟩ := List.mem_map.mp hmem
      obtain ⟨hmem', hyoung⟩ := List.mem_filter.mp ha'
      have heq : alert' = alert := hst.distinct.eq hmem' ha (hid'.trans hold.1.symm)
      rw [heq] at hyoung
      simp [hold.2] at hyoung
    · intro hex
      refine belongs_iff.mpr fun e he => ?_
      rw [hlog] at he
      exact hkept e he (hex e he)

end Transaction

/-! ### The script and the seeding run -/

section Provisioning

variable {db : Db} {clock : ℕ} {born about : ℕ → ℕ}

theorem Stamped.schema (h : Stamped db clock born about) :
    Stamped (applySchema (some db)) clock born about where
  distinct := List.nodup_nil
  alerts := by simp [applySchema, emptyTables]
  audit := h.audit
  born := by simp [applySchema, emptyTables]
  about := h.about

theorem Stamped.created (clock : ℕ) (born about : ℕ → ℕ) : Stamped (applySchema none) clock born about where
  distinct := List.nodup_nil
  alerts := by simp [applySchema, emptyTables]
  audit := by simp [applySchema, emptyTables]
  born := by simp [applySchema, emptyTables]
  about := by simp [applySchema, emptyTables]

/-- No entry, nothing to be wrong about. -/
theorem belongs_of_nil (h : db.auditLog = []) (born about : ℕ → ℕ) : Belongs db born about := by
  refine belongs_iff.mpr fun e he => ?_
  rw [h] at he
  exact absurd he List.not_mem_nil

theorem belongs_schema_iff : Belongs (applySchema (some db)) born about ↔ db.auditLog = [] := by
  constructor
  · intro h
    refine List.eq_nil_iff_forall_not_mem.mpr fun e he => ?_
    obtain ⟨alert, ha, -⟩ := h.refers e he
    exact absurd ha List.not_mem_nil
  · intro h
    have hlog : (applySchema (some db)).auditLog = [] := h
    exact belongs_of_nil hlog born about

theorem seeded_audit (db : Db) (plan : SeedPlan) :
    (db.seeded plan).auditLog = (if db.auditAlertFk then [] else db.auditLog) ∧
      (db.seeded plan).auditSeq = (if db.auditAlertFk then 1 else db.auditSeq) ∧
      (db.seeded plan).alertsSeq = 1 + plan.draws.length := by
  obtain ⟨h₁, h₂, -, h₄⟩ := foldl_withSeeded_frame plan.draws db.truncated
  exact ⟨h₁, h₂, h₄⟩

theorem Stamped.seeded (h : Stamped db clock born about) (plan : SeedPlan) :
    Stamped (db.seeded plan) (clock + 1) (fun _ => clock) about := by
  obtain ⟨hlog, hseq, halerts⟩ := seeded_audit db plan
  refine ⟨?_, fun alert ha => ?_, fun e he => ?_, fun _ _ => Nat.lt_succ_self _, fun e he => ?_⟩
  · show ((db.seeded plan).alerts.map Alert.id).Nodup
    rw [seeded_ids]
    exact List.nodup_range'
  · have hid : alert.id ∈ (db.seeded plan).alerts.map Alert.id := List.mem_map_of_mem ha
    rw [seeded_ids, List.mem_range'_1] at hid
    omega
  · rw [hlog] at he
    rw [hseq]
    split_ifs at he ⊢
    · exact absurd he List.not_mem_nil
    · exact h.audit e he
  · rw [hlog] at he
    split_ifs at he
    · exact absurd he List.not_mem_nil
    · exact Nat.lt_succ_of_lt (h.about e he)

/-- **When a seeding run leaves the entries with their alerts.** -/
theorem belongs_seeded_iff (h : Stamped db clock born about) (plan : SeedPlan) :
    Belongs (db.seeded plan) (fun _ => clock) about ↔ db.auditAlertFk = true ∨ db.auditLog = [] := by
  obtain ⟨hlog, -, -⟩ := seeded_audit db plan
  constructor
  · intro hb
    rw [or_iff_not_imp_left]
    intro hfk
    rw [if_neg hfk] at hlog
    refine List.eq_nil_iff_forall_not_mem.mpr fun e he => ?_
    -- the entry is older than any seeded alert
    obtain ⟨-, hstamp⟩ := belongs_iff.mp hb e (hlog ▸ he)
    have := h.about e he
    omega
  · intro hor
    refine belongs_of_nil ?_ _ about
    rcases hor with hfk | hnil
    · rw [hlog, if_pos hfk]
    · rw [hlog, hnil, ite_self]

end Provisioning

/-! ### Runs -/

section Runs

variable {env : Env} {svc : Service} {fresh : World} {s : Deployment}

/-- The stamps of a deployment are in order. -/
def StampsOk (s : Deployment) : Prop := ∀ w, s.world = some w → Stamped w.db s.clock s.born s.about

/-- **The step lemma for the stamps.** -/
theorem StampsOk.step (h : StampsOk s) (op : ProvisionOp) : StampsOk (provisionStep env svc fresh s op) := by
  cases hw : s.world with
  | none =>
    intro w' hw'
    cases op with
    | schema =>
      simp only [provisionStep, hw, Option.some.injEq] at hw' ⊢
      rw [← hw']
      exact Stamped.created _ _ _
    | seed a plan => simp [provisionStep, hw] at hw'
    | store op => simp [provisionStep, hw] at hw'
  | some w =>
    have hst := h w hw
    intro w' hw'
    cases op with
    | schema =>
      simp only [provisionStep, hw, Option.some.injEq] at hw' ⊢
      rw [← hw']
      exact hst.schema.tick
    | seed a plan =>
      simp only [provisionStep, hw, Option.some.injEq] at hw' ⊢
      rw [← hw', seedMain_snd]
      cases hs : seeds a plan with
      | true => exact hst.seeded plan
      | false => exact hst.tick
    | store op =>
      simp only [provisionStep, hw, Option.some.injEq] at hw' ⊢
      rw [← hw']
      exact hst.store (storeStep_does env svc w op).rows

section Present

variable {w : World} (hw : s.world = some w) (hst : Stamped w.db s.clock s.born s.about)
  (hb : Belongs w.db s.born s.about)

include hw in
theorem belongs_afterSchema_iff :
    AuditBelongs (provisionStep env svc fresh s .schema) ↔ Harmless s .schema := by
  have hstep : AuditBelongs (provisionStep env svc fresh s .schema) ↔
      Belongs (applySchema (some w.db)) s.born s.about := by
    simp [AuditBelongs, provisionStep, hw]
  rw [hstep, belongs_schema_iff]
  simp [Harmless, hw]

include hw hst hb in
theorem belongs_afterSeed_iff (a : Ambient) (plan : SeedPlan) :
    AuditBelongs (provisionStep env svc fresh s (.seed a plan)) ↔ Harmless s (.seed a plan) := by
  have hstep : AuditBelongs (provisionStep env svc fresh s (.seed a plan)) ↔
      Belongs (seedMain a plan w).2.db (if seeds a plan then fun _ => s.clock else s.born) s.about := by
    simp [AuditBelongs, provisionStep, hw]
  rw [hstep, seedMain_snd]
  cases hs : seeds a plan with
  | true =>
    have hiff := belongs_seeded_iff hst plan
    simpa [Harmless, hw, hs] using hiff
  | false => simp [Harmless, hw, hs, hb]

include hw hst hb in
theorem belongs_afterStore_iff (op : StoreOp) :
    AuditBelongs (provisionStep env svc fresh s (.store op)) ↔ Harmless s (.store op) := by
  have hstep : AuditBelongs (provisionStep env svc fresh s (.store op)) ↔
      Belongs (storeStep env svc w op).db (bornAfter w.db s.clock s.born)
        (aboutAfter w.db (storeStep env svc w op).db s.born s.about) := by
    simp [AuditBelongs, provisionStep, hw]
  rw [hstep]
  cases op with
  | purgeOldAlerts a days =>
    have hpurge : storeStep env svc w (.purgeOldAlerts a days) =
        if purges a days then w.setDb (w.db.purged (a.now - days * day)) else w :=
      purgeOldAlerts_snd a days w
    rw [hpurge]
    cases hp : purges a days with
    | true =>
      have hiff := belongs_purged_iff hb hst (a.now - days * day)
      simpa [Harmless, hw, hp] using hiff
    | false =>
      have hsame := hb.store hst (V := fun _ => False) (N := fun _ => False) (C := fun _ => False)
        (.unchanged (refl w.db)) (fun _ => id)
      simpa [Harmless, hw, hp] using hsame
  | _ =>
    refine iff_of_true ?_ (by simp [Harmless])
    exact hb.store hst (storeStep_does env svc w _).rows (fun _ => id)

end Present

/-- **When one step leaves the entries with their alerts.** -/
theorem belongs_step_iff (hst : StampsOk s) (hb : AuditBelongs s) (op : ProvisionOp) :
    AuditBelongs (provisionStep env svc fresh s op) ↔ Harmless s op := by
  cases hw : s.world with
  | none =>
    have hnone : Harmless s op := fun w h => absurd (h.symm.trans hw) (Option.some_ne_none w)
    refine iff_of_true (fun w' hw' => ?_) hnone
    cases op with
    | schema =>
      simp only [provisionStep, hw, Option.some.injEq] at hw'
      rw [← hw']
      exact belongs_of_nil rfl _ _
    | seed a plan => simp [provisionStep, hw] at hw'
    | store op => simp [provisionStep, hw] at hw'
  | some w =>
    cases op with
    | schema => exact belongs_afterSchema_iff hw
    | seed a plan => exact belongs_afterSeed_iff hw (hst w hw) (hb w hw) a plan
    | store op => exact belongs_afterStore_iff hw (hst w hw) (hb w hw) op

/-- **When audit history belongs to its alert.** In a run of the script, seeding runs and
transactions from an empty database server, every entry refers to an alert that is there and the
audit route returns what was written about the alert that holds the id, in every state, exactly when
every step is harmless. -/
theorem auditBelongs_iff (env : Env) (svc : Service) (fresh : World) (ops : List ProvisionOp) :
    Runs.Always (provisionStep env svc fresh) AuditBelongs Deployment.start ops ↔
      Runs.EachStep (provisionStep env svc fresh) Harmless Deployment.start ops := by
  refine Runs.always_iff_eachStep (provisionStep env svc fresh) (J := StampsOk) (fun s op h => h.step op)
    (fun s op hj hp => belongs_step_iff hj hp op) ops Deployment.start ?_ ?_
  · intro w hw
    exact absurd hw.symm (Option.some_ne_none w)
  · intro w hw
    exact absurd hw.symm (Option.some_ne_none w)

end Runs

/-! ### The script, applied again -/

def firstAlert : Json :=
  .obj [("title", .str "Port scan"), ("category", .str "port_scan"), ("severity", .str "HIGH")]

def secondAlert : Json :=
  .obj [("title", .str "Phishing"), ("category", .str "phishing"), ("severity", .str "LOW")]

/-- A note on the first alert, the script again, and another alert under the same id. -/
def reprovisioned : List ProvisionOp :=
  [.schema, .store (.createUser calm "asmith" "hash" .analyst), .store (.kafkaIngest calm firstAlert),
   .store (.apiAddNote calm (some 1) 1 (some (.obj [("note", .str "scanner of ours")]))), .schema,
   .store (.kafkaIngest calm secondAlert)]

/-- The second alert has the first one's history. -/
theorem note_of_another_alert :
    ¬ Runs.Always (provisionStep exampleEnv ⟨spelledScheme, none, "", false, id⟩ emptyWorld) AuditBelongs
      Deployment.start reprovisioned := by
  rw [Runs.always_iff]
  intro h
  have hb := h reprovisioned (List.prefix_refl _) _ rfl
  have hstamps := fun e he => (belongs_iff.mp hb e he).2
  exact absurd hstamps (by decide)

end SocDashboard
