/-
# From the broker to the alerts table

The consumer as a party of the protocol it runs: the topic's partitions with
the group's offsets (`OffsetLog.Group`), `_handle` with `_kafka_ingest` for
the message in hand, commits of eligible offsets whenever the broker gets
them, crashes and restarts. A crash inside `_handle` before the insert commits
is `crash`; one after it is `handle` and then `crash`.

With `enable.auto.commit` an offset is committed whatever became of its
message, so a committed offset does not mean a stored alert. It does mean
that the message was handed over and that, if no row came of it, its insert
did not go through or the process died under it (`Accounted`).

Key definitions: `Fate`, `Delivery`, `deliveryStep`, `NoneLost`, `Accounted`,
`DeliveryInv`.
Key theorems: `kafkaIngest_alerts`, `handle_alerts`, `DeliveryInv.step`,
`accounted_run`.
-/
import SocDashboard.Ingest
import SocDashboard.KafkaConsumer
import SocDashboard.Lib.OffsetLog
import SocDashboard.Lib.Runs

namespace SocDashboard

open Exec OffsetLog

/-! ### What a message is worth -/

/-- What `_kafka_ingest` makes of a body that passes its validation. -/
def kafkaAccepts (body : Json) : Option (String × String × Severity) :=
  match ingestFields body with
  | .error _ => none
  | .ok (title, category, severity) =>
    if title = "" ∨ category = "" then none
    else (Severity.ofName severity).map fun s => (title, category, s)

/-- The values `_kafka_ingest` commits. -/
def kafkaStores (env : Env) (a : Ambient) (body : Json) : Option AlertValues :=
  (kafkaAccepts body).bind fun (title, category, severity) => inserts env a body title category severity

/-- What became of a message that was handed over: the row that its handling added, none, or
the process died. -/
inductive Fate
  | stored (row : Alert)
  | notStored (a : Ambient)
  | crashed

/-- The topic as the group sees it, and the consumer's process. -/
structure Delivery where
  group : Group ℕ Message Fate
  consumer : ConsumerState World

inductive DeliveryOp
  | produce (partition : ℕ) (msg : Message)
  | poll (partition : ℕ)
  | commit (partition : ℕ)
  | handle (a : Ambient)
  | crash
  | restart

def Delivery.db (s : Delivery) : Db := s.consumer.store.db

section Steps

variable (env : Env) (json : JsonLoads)

/-- The fate of a message whose handling took `before` to `after`. -/
def fateOf (a : Ambient) (before after : Db) : Fate :=
  match (after.alerts.drop before.alerts.length).head? with
  | some row => .stored row
  | none => .notStored a

/-- `_handle` of the message in hand; what it raises ends the thread. -/
def handleInHand (a : Ambient) (s : Delivery) : Delivery :=
  match s.group.inHand with
  | none => s
  | some msg =>
    let out := handle json (kafkaIngest env a) msg s.consumer
    let group := s.group.settle (fateOf a s.db out.2.store.db)
    ⟨match out.1 with | .ok _ => group | .error _ => group.stop, out.2⟩

/-- A process that starts has no model and no streams yet. -/
def World.booted (w : World) : World := { w with embeddingModel := .notLoaded, sseSubscribers := [] }

def deliveryStep (s : Delivery) : DeliveryOp → Delivery
  | .produce p msg => { s with group := s.group.produce p msg }
  | .poll p => { s with group := s.group.poll p }
  | .commit p => { s with group := s.group.commit p }
  | .handle a => handleInHand env json a s
  | .crash => { s with group := s.group.crash .crashed }
  | .restart =>
    if s.group.alive then s
    else ⟨s.group.restart, s.consumer.setStore s.consumer.store.booted⟩

/-- Nothing produced yet. -/
def Delivery.start (w : World) : Delivery := ⟨Group.start, ⟨w, []⟩⟩

/-- A row with what an ingest of the message writes. -/
def StoredFrom (msg : Message) (row : Alert) : Prop :=
  ∃ a body, (Polled.message msg).body? json = some body ∧ kafkaStores env a body = some row.toAlertValues

/-- The message at an offset has its row. -/
def HasRow (s : Delivery) (p n : ℕ) (msg : Message) : Prop :=
  ∃ row ∈ s.db.alerts, ((p, n), Fate.stored row) ∈ s.group.fates ∧ StoredFrom env json msg row

/-- The message at an offset was handed over and no row came of it: its insert did not go
through, or the process died under it. -/
def CutShort (s : Delivery) (p n : ℕ) (body : Json) : Prop :=
  (∃ a, ((p, n), Fate.notStored a) ∈ s.group.fates ∧ kafkaStores env a body = none) ∨
    ((p, n), Fate.crashed) ∈ s.group.fates

/-- Each message below a committed offset whose body passes the validation has its row. -/
def NoneLost (s : Delivery) : Prop :=
  ∀ p n msg body, n < s.group.committed p → (s.group.log p)[n]? = some msg →
    (Polled.message msg).body? json = some body → (kafkaAccepts body).isSome → HasRow env json s p n msg

/-- Each of them has its row, is in hand, or was cut short. -/
def Accounted (s : Delivery) : Prop :=
  ∀ p n msg body, n < s.group.committed p → (s.group.log p)[n]? = some msg →
    (Polled.message msg).body? json = some body → (kafkaAccepts body).isSome →
      HasRow env json s p n msg ∨ s.group.handling = some (p, n) ∨ CutShort env s p n body

end Steps

/-! ### What handling a message adds -/

section Handling

variable {env : Env} {json : JsonLoads} {a : Ambient}

/-- `_kafka_ingest` adds the row of `kafkaStores` and no other. -/
theorem kafkaIngest_alerts (body : Json) (w : World) :
    (kafkaIngest env a body w).2.db.alerts =
      w.db.alerts ++ ((kafkaStores env a body).map (w.db.newAlert a.now)).toList := by
  unfold kafkaIngest kafkaStores kafkaAccepts
  rw [bind_apply, lift_apply]
  cases hf : ingestFields body with
  | error e => simp
  | ok fields =>
    obtain ⟨title, category, severity⟩ := fields
    by_cases hblank : title = "" ∨ category = ""
    · simp [hblank]
    · cases hs : Severity.ofName severity with
      | none => simp [hblank, hs]
      | some s =>
        simp only [hblank, if_false, hs, Option.map_some, Option.bind_some]
        rw [bind_apply]
        cases hi : inserts env a body title category s with
        | none =>
          obtain ⟨e, w', hw, hsame⟩ := insertAlert_of_not_inserts hi w
          rw [hw]
          simpa using hsame.rows.alertRows
        | some v =>
          have hkeep := keeps_afterInsert env a body title category (w.db.newAlert a.now v)
            (w.setDb (w.db.withAlert a.now v))
          rw [insertAlert_of_inserts hi]
          rcases hx : afterInsert env a body title category (w.db.newAlert a.now v)
            (w.setDb (w.db.withAlert a.now v)) with ⟨e | row, w'⟩
          · rw [hx] at hkeep
            exact hkeep.rows.alertRows
          · rw [hx] at hkeep
            exact hkeep.rows.alertRows

/-- The values that handling a message commits. -/
def messageStores (env : Env) (json : JsonLoads) (a : Ambient) (msg : Message) : Option AlertValues :=
  ((Polled.message msg).body? json).bind (kafkaStores env a)

variable (env json a) in
/-- `_handle` adds the row of its message and no other, whether it returns or raises. -/
theorem handle_alerts (msg : Message) (s : ConsumerState World) :
    (handle json (kafkaIngest env a) msg s).2.store.db.alerts =
      s.store.db.alerts ++ ((messageStores env json a msg).map (s.store.db.newAlert a.now)).toList := by
  unfold handle messageStores Polled.body?
  simp only
  cases hd : decodeBody json msg.value with
  | error e => cases e <;> simp [writeLog]
  | ok body =>
    cases hb : body.isDict with
    | false => simp [writeLog, hb]
    | true =>
      have hrows : (kafkaIngest env a body s.store).2.db.alerts = _ := kafkaIngest_alerts body s.store
      simp only [hb, if_true, catching, zoom_apply, Option.bind_some]
      rcases hx : kafkaIngest env a body s.store with ⟨e | u, w'⟩
      · rw [hx] at hrows
        exact hrows
      · rw [hx] at hrows
        exact hrows

end Handling

/-! ### What every step keeps -/

section Invariant

variable {env : Env} {json : JsonLoads}

/-- A fate tells what happened. -/
def FateOk (env : Env) (json : JsonLoads) (db : Db) (msg : Message) : Fate → Prop
  | .stored row => row ∈ db.alerts ∧ StoredFrom env json msg row
  | .notStored a => messageStores env json a msg = none
  | .crashed => True

structure DeliveryInv (env : Env) (json : JsonLoads) (s : Delivery) : Prop where
  kept : Kept s.group
  fates : ∀ p n f msg, ((p, n), f) ∈ s.group.fates → (s.group.log p)[n]? = some msg →
    FateOk env json s.db msg f

/-- Rows stay, so what a fate tells stays true. -/
theorem FateOk.mono {db db' : Db} {msg : Message} {f : Fate} {rows : List Alert}
    (hdb : db'.alerts = db.alerts ++ rows) (h : FateOk env json db msg f) : FateOk env json db' msg f := by
  cases f with
  | stored row =>
    refine ⟨?_, h.2⟩
    rw [hdb]
    exact List.mem_append_left _ h.1
  | notStored a => exact h
  | crashed => trivial

/-- The fate that `_handle` leads to. -/
theorem fateOk_handle (a : Ambient) (msg : Message) (s : ConsumerState World) :
    FateOk env json (handle json (kafkaIngest env a) msg s).2.store.db msg
      (fateOf a s.store.db (handle json (kafkaIngest env a) msg s).2.store.db) := by
  have hrows := handle_alerts env json a msg s
  unfold fateOf
  rw [hrows, List.drop_left]
  cases hv : messageStores env json a msg with
  | none => exact hv
  | some v =>
    refine ⟨by rw [hrows, hv]; simp, ?_⟩
    obtain ⟨body, hbody, hstores⟩ := Option.bind_eq_some_iff.mp hv
    exact ⟨a, body, hbody, hstores⟩

namespace DeliveryInv

variable {s : Delivery}

theorem start (env : Env) (json : JsonLoads) (w : World) : DeliveryInv env json (Delivery.start w) where
  kept := Kept.start
  fates _ _ _ _ h := by simp [Delivery.start, Group.start] at h

theorem produce (h : DeliveryInv env json s) (p : ℕ) (m : Message) :
    DeliveryInv env json { s with group := s.group.produce p m } where
  kept := h.kept.produce p m
  fates := by
    intro q n f msg hf hmsg
    -- a message with a fate was in the log before
    have hlt : n < (s.group.log q).length := h.kept.fates q n f hf
    have hold : (s.group.log q)[n]? = some (s.group.log q)[n] := List.getElem?_eq_getElem hlt
    have heq : (s.group.log q)[n] = msg := by
      have hnew := Group.getElem?_produce (p := p) (m := m) hold
      rw [hnew] at hmsg
      exact Option.some.inj hmsg
    exact h.fates q n f msg hf (by rw [hold, heq])

theorem poll (h : DeliveryInv env json s) (p : ℕ) :
    DeliveryInv env json { s with group := s.group.poll p } where
  kept := h.kept.poll p
  fates := by
    have hlog : (s.group.poll p).log = s.group.log := by unfold Group.poll; split_ifs <;> rfl
    have hfates : (s.group.poll p).fates = s.group.fates := by unfold Group.poll; split_ifs <;> rfl
    simp only [hlog, hfates]
    exact h.fates

theorem commit (h : DeliveryInv env json s) (p : ℕ) :
    DeliveryInv env json { s with group := s.group.commit p } :=
  ⟨h.kept.commit p, h.fates⟩

/-- The message in hand is done with, and the fate noted tells what happened. -/
theorem settle (h : DeliveryInv env json s) {msg : Message} (hmsg : s.group.inHand = some msg) {f : Fate}
    {c : ConsumerState World} {rows : List Alert} (hrows : c.store.db.alerts = s.db.alerts ++ rows)
    (hf : FateOk env json c.store.db msg f) : DeliveryInv env json ⟨s.group.settle f, c⟩ where
  kept := h.kept.settle f
  fates := by
    obtain ⟨⟨p, n⟩, hhand, hn⟩ := Option.bind_eq_some_iff.mp hmsg
    intro q k f' msg' hf' hmsg'
    simp only [Group.settle, hhand] at hf' hmsg'
    rcases List.mem_append.mp hf' with hold | hnew
    · exact (h.fates q k f' msg' hold hmsg').mono hrows
    · obtain ⟨hslot, rfl⟩ := Prod.mk.inj (List.mem_singleton.mp hnew)
      obtain ⟨rfl, rfl⟩ := Prod.mk.inj hslot
      have heq : msg = msg' := Option.some.inj (hn.symm.trans hmsg')
      rw [← heq]
      exact hf

theorem handle (h : DeliveryInv env json s) (a : Ambient) :
    DeliveryInv env json (handleInHand env json a s) := by
  unfold handleInHand
  cases hmsg : s.group.inHand with
  | none => exact h
  | some msg =>
    have hdone := h.settle hmsg (handle_alerts env json a msg s.consumer) (fateOk_handle a msg s.consumer)
    simp only
    split
    · exact hdone
    · exact ⟨hdone.kept.stop, hdone.fates⟩

theorem crash (h : DeliveryInv env json s) :
    DeliveryInv env json { s with group := s.group.crash .crashed } where
  kept := h.kept.crash .crashed
  fates := by
    intro q k f msg hf hmsg
    cases hhand : s.group.handling with
    | none =>
      simp only [Group.crash, Group.settle, hhand] at hf hmsg
      exact h.fates q k f msg hf hmsg
    | some slot =>
      simp only [Group.crash, Group.settle, hhand] at hf hmsg
      rcases List.mem_append.mp hf with hold | hnew
      · exact h.fates q k f msg hold hmsg
      · obtain ⟨-, rfl⟩ := Prod.mk.inj (List.mem_singleton.mp hnew)
        trivial

theorem restart (h : DeliveryInv env json s) :
    DeliveryInv env json ⟨s.group.restart, s.consumer.setStore s.consumer.store.booted⟩ where
  kept := h.kept.restart
  fates := by
    have hlog : s.group.restart.log = s.group.log := by unfold Group.restart; split_ifs <;> rfl
    have hfates : s.group.restart.fates = s.group.fates := by unfold Group.restart; split_ifs <;> rfl
    simp only [hlog, hfates]
    exact h.fates

/-- **The step lemma.** -/
theorem step (h : DeliveryInv env json s) (op : DeliveryOp) :
    DeliveryInv env json (deliveryStep env json s op) := by
  cases op with
  | produce p msg => exact h.produce p msg
  | poll p => exact h.poll p
  | commit p => exact h.commit p
  | handle a => exact h.handle a
  | crash => exact h.crash
  | restart =>
    unfold deliveryStep
    split_ifs
    · exact h
    · exact h.restart

/-- What the invariant says of a message below the committed offset. -/
theorem accounted (h : DeliveryInv env json s) : Accounted env json s := by
  intro p n msg body hn hmsg hbody _
  rcases h.kept.accounted hn with hhand | ⟨f, hf⟩
  · exact Or.inr (Or.inl hhand)
  · have hok := h.fates p n f msg hf hmsg
    cases f with
    | stored row => exact Or.inl ⟨row, hok.1, hf, hok.2⟩
    | notStored a =>
      have hnone : kafkaStores env a body = none := by simpa [FateOk, messageStores, hbody] using hok
      exact Or.inr (Or.inr (Or.inl ⟨a, hf, hnone⟩))
    | crashed => exact Or.inr (Or.inr (Or.inr hf))

end DeliveryInv

end Invariant

/-- **No valid message is skipped.** In every run of the consumer, whatever is produced, polled,
committed, handled, and wherever it crashes and restarts, a message below the committed offset
whose body passes the validation has its row, is in hand, or was cut short. -/
theorem accounted_run (env : Env) (json : JsonLoads) (w : World) (ops : List DeliveryOp) :
    Accounted env json (Runs.run (deliveryStep env json) (Delivery.start w) ops) :=
  (Runs.run_inv (deliveryStep env json) (fun _ op h => h.step op) ops (Delivery.start w)
    (DeliveryInv.start env json w)).accounted

/-! ### A crash under a committed message -/

/-- A detector's message. -/
def portScanText : String :=
  "\x7b\"title\": \"Port scan\", \"category\": \"port_scan\", \"severity\": \"HIGH\"\x7d"

def portScanBody : Json :=
  .obj [("title", .str "Port scan"), ("category", .str "port_scan"), ("severity", .str "HIGH")]

/-- Reads the detector's message only. -/
def portScanLoads : JsonLoads where
  loads text := if text = portScanText then .ok portScanBody else .error .jsonDecodeError
  raises text e h := by
    split_ifs at h
    exact Or.inl (Except.error.inj h).symm

def portScanMessage : Message := ⟨"incidents", 0, 0, some portScanText.toUTF8⟩

/-- The offset is committed while the message is in hand, and the process dies. -/
def committedThenCrash : List DeliveryOp := [.produce 0 portScanMessage, .poll 0, .commit 0, .crash, .restart]

theorem portScan_lost :
    ¬ NoneLost exampleEnv portScanLoads
      (Runs.run (deliveryStep exampleEnv portScanLoads) (Delivery.start emptyWorld) committedThenCrash) := by
  intro h
  have hbody : (Polled.message portScanMessage).body? portScanLoads = some portScanBody := by
    simp [Polled.body?, decodeBody, portScanMessage, portScanLoads, portScanBody, Json.isDict]
  have hrow := h 0 0 portScanMessage portScanBody (by decide) rfl hbody (by decide)
  obtain ⟨row, hmem, -⟩ := hrow
  exact absurd hmem (List.not_mem_nil)

end SocDashboard
