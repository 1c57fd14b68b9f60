/-
# The Kafka consumer loop

`_handle` decodes a message and hands its body to the injected ingest
function; `_run` does so for whatever `poll` returns. What is raised outside
the two `try` blocks leaves the loop and ends the daemon thread. `json.loads`
is a parameter with the exceptions it is documented to raise, the ingest
function any computation over any store.

The loop lives through a message exactly when decoding it raises nothing but
the two listed exceptions (`Decodable`): a null payload, an integer literal
beyond the digit limit and input nested beyond the recursion limit are not
among them.

Key definitions: `JsonLoads`, `handle`, `pollCycle`, `consume`, `recorded`,
`Decodable`, `Survives`.
Key theorems: `handle_eq_ok`, `handle_calls`, `survives_iff`.
-/
import SocDashboard.Lib.Exec
import SocDashboard.Value

namespace SocDashboard

open Exec

/-- `json.loads`, and what it may raise of a text. -/
structure JsonLoads where
  loads : String → Except Exc Json
  raises : ∀ text e, loads text = .error e →
    e = .jsonDecodeError ∨ e = .valueError ∨ e = .recursionError

/-- A Kafka message; `none` is a null payload. -/
structure Message where
  topic : String
  partition : ℕ
  offset : ℕ
  value : Option ByteArray

/-- What `poll` returns; an error is the end of a partition or another one. -/
inductive Polled
  | nothing
  | error (partitionEof : Bool)
  | message (msg : Message)

/-- What the consumer logs; the first three name topic, partition and offset. -/
inductive LogLine
  | malformed (topic : String) (partition offset : ℕ) (exc : Exc)
  | ingestFailed (topic : String) (partition offset : ℕ) (exc : Exc)
  | nonDict
  | consumerError
  deriving DecidableEq

/-- The store the ingest function works on, and the log. -/
structure ConsumerState (σ : Type) where
  store : σ
  log : List LogLine

def ConsumerState.setStore {σ : Type} (store : σ) (s : ConsumerState σ) : ConsumerState σ :=
  { s with store := store }

section Consumer

variable {σ : Type}

def writeLog (line : LogLine) : Exec (ConsumerState σ) Exc Unit :=
  modify fun s => { s with log := s.log ++ [line] }

/-- `json.loads(msg.value().decode("utf-8"))`. -/
def decodeBody (json : JsonLoads) (value : Option ByteArray) : Except Exc Json :=
  match value with
  | none => .error .attributeError
  | some bytes =>
    match String.fromUTF8? bytes with
    | none => .error .unicodeDecodeError
    | some text => json.loads text

variable (json : JsonLoads) (ingestFn : Json → Exec σ Exc Unit)

/-- `_handle`. -/
def handle (msg : Message) : Exec (ConsumerState σ) Exc Unit :=
  match decodeBody json msg.value with
  | .error .jsonDecodeError => writeLog (.malformed msg.topic msg.partition msg.offset .jsonDecodeError)
  | .error .unicodeDecodeError =>
    writeLog (.malformed msg.topic msg.partition msg.offset .unicodeDecodeError)
  | .error e => raise e
  | .ok body =>
    if body.isDict then
      catching (zoom ConsumerState.store ConsumerState.setStore (ingestFn body)) fun e =>
        writeLog (.ingestFailed msg.topic msg.partition msg.offset e)
    else writeLog .nonDict

/-- One cycle of the loop of `_run`. -/
def pollCycle (item : Polled) : Exec (ConsumerState σ) Exc Unit :=
  match item with
  | .nothing => pure ()
  | .error partitionEof => if partitionEof then pure () else writeLog .consumerError
  | .message msg => handle json ingestFn msg

/-- The loop of `_run`, with stop unset, over what `poll` returns. -/
def consume (items : List Polled) : Exec (ConsumerState σ) Exc Unit := forEach (pollCycle json ingestFn) items

/-- `ingestFn`, noting each call before it is made. -/
def recorded (body : Json) : Exec (σ × List Json) Exc Unit := do
  modify fun s => (s.1, s.2 ++ [body])
  zoom Prod.fst (fun store s => (store, s.2)) (ingestFn body)

/-- The body a polled item hands over: a message that decodes to an object. -/
def Polled.body? (item : Polled) : Option Json :=
  match item with
  | .message msg =>
    match decodeBody json msg.value with
    | .ok body => if body.isDict then some body else none
    | .error _ => none
  | _ => none

/-- A payload that is there and, if it is UTF-8, is JSON or raises `JSONDecodeError`. -/
def Decodable (value : Option ByteArray) : Prop :=
  ∃ bytes, value = some bytes ∧ ∀ text, String.fromUTF8? bytes = some text →
    ∀ e, json.loads text = .error e → e = .jsonDecodeError

/-- The loop reaches the poll behind the last item, and the ingest function was called
once, in order, for each message that decodes to an object. -/
structure Survives (items : List Polled) (s : ConsumerState (σ × List Json)) : Prop where
  alive : (consume json (recorded ingestFn) items s).1 = .ok ()
  calls : (consume json (recorded ingestFn) items s).2.store.2 =
    s.store.2 ++ items.flatMap fun item => (item.body? json).toList

/-! ### One message -/

variable {json}

/-- What decoding raises is caught exactly when the payload is decodable. -/
theorem decodable_iff (value : Option ByteArray) :
    Decodable json value ↔
      ∀ e, decodeBody json value = .error e → e = .jsonDecodeError ∨ e = .unicodeDecodeError := by
  unfold Decodable decodeBody
  cases value with
  | none => simp
  | some bytes =>
    cases hu : String.fromUTF8? bytes with
    | none => simp [hu]
    | some text =>
      have htext : (∃ b, some bytes = some b ∧ ∀ t, String.fromUTF8? b = some t →
          ∀ e, json.loads t = .error e → e = .jsonDecodeError) ↔
          ∀ e, json.loads text = .error e → e = .jsonDecodeError := by simp [hu]
      rw [htext]
      constructor
      · intro h e he
        exact Or.inl (h e (by simpa [hu] using he))
      · intro h e he
        rcases h e (by simpa [hu] using he) with rfl | rfl
        · rfl
        · -- `loads` does not decode bytes
          rcases json.raises text _ he with h | h | h <;> exact absurd h (by decide)

variable {ingestFn}

/-- `_handle` returns normally exactly when the payload is decodable. -/
theorem handle_eq_ok (msg : Message) (s : ConsumerState σ) :
    Decodable json msg.value ↔ ∃ s', handle json ingestFn msg s = (.ok (), s') := by
  rw [decodable_iff]
  unfold handle
  cases hd : decodeBody json msg.value with
  | error e =>
    cases e with
    | jsonDecodeError => simp [writeLog]
    | unicodeDecodeError => simp [writeLog]
    | _ => simp
  | ok body =>
    simp only [reduceCtorEq, false_implies, implies_true, true_iff]
    cases body.isDict with
    | false => exact ⟨_, rfl⟩
    | true =>
      simp only [if_true, catching]
      rcases zoom ConsumerState.store ConsumerState.setStore (ingestFn body) s with ⟨e | u, s'⟩
      · exact ⟨_, rfl⟩
      · exact ⟨s', rfl⟩

variable (ingestFn) in
theorem recorded_calls (body : Json) (s : σ × List Json) :
    (recorded ingestFn body s).2.2 = s.2 ++ [body] := by
  rfl

/-- `_handle` calls the ingest function once for a body that is an object, and not else. -/
theorem handle_calls (msg : Message) (s s' : ConsumerState (σ × List Json))
    (h : handle json (recorded ingestFn) msg s = (.ok (), s')) :
    s'.store.2 = s.store.2 ++ ((Polled.message msg).body? json).toList := by
  unfold handle at h
  cases hd : decodeBody json msg.value with
  | error e =>
    have hbody : (Polled.message msg).body? json = none := by simp [Polled.body?, hd]
    have hs : s'.store = s.store := by
      rw [hd] at h
      cases e <;> simp only [writeLog, modify_apply, raise_apply, Prod.mk.injEq] at h <;>
        simp_all [← h.2]
    rw [hs, hbody]
    simp
  | ok body =>
    rw [hd] at h
    cases hb : body.isDict with
    | false =>
      have hbody : (Polled.message msg).body? json = none := by simp [Polled.body?, hd, hb]
      simp only [hb, Bool.false_eq_true, if_false, writeLog, modify_apply, Prod.mk.injEq] at h
      rw [← h.2, hbody]
      simp
    | true =>
      have hbody : (Polled.message msg).body? json = some body := by simp [Polled.body?, hd, hb]
      have hcalls := recorded_calls ingestFn body s.store
      simp only [hb, if_true, catching, zoom_apply] at h
      rw [hbody, Option.toList_some]
      -- whether it returns or raises, the call is noted
      rcases hr : recorded ingestFn body s.store with ⟨e | u, t⟩
      · rw [hr] at h hcalls
        simp only [writeLog, modify_apply, Prod.mk.injEq] at h
        rw [← h.2]
        exact hcalls
      · rw [hr] at h hcalls
        simp only [Prod.mk.injEq] at h
        rw [← h.2]
        exact hcalls

/-! ### The loop -/

/-- A polled item that the loop lives through. -/
def Polled.Safe (json : JsonLoads) : Polled → Prop
  | .message msg => Decodable json msg.value
  | _ => True

theorem pollCycle_eq_ok (item : Polled) (s : ConsumerState σ) :
    item.Safe json ↔ ∃ s', pollCycle json ingestFn item s = (.ok (), s') := by
  cases item with
  | nothing => simp [Polled.Safe, pollCycle]
  | error partitionEof => cases partitionEof <;> simp [Polled.Safe, pollCycle, writeLog]
  | message msg => exact handle_eq_ok msg s

theorem pollCycle_calls (item : Polled) (s s' : ConsumerState (σ × List Json))
    (h : pollCycle json (recorded ingestFn) item s = (.ok (), s')) :
    s'.store.2 = s.store.2 ++ (item.body? json).toList := by
  cases item with
  | nothing =>
    simp only [pollCycle, pure_apply, Prod.mk.injEq] at h
    simp [← h.2, Polled.body?]
  | error partitionEof =>
    cases partitionEof <;> simp only [pollCycle, writeLog, modify_apply, pure_apply, if_true,
      Bool.false_eq_true, if_false, Prod.mk.injEq] at h <;> simp [← h.2, Polled.body?]
  | message msg => exact handle_calls msg s s' h

/-- **Which messages the consumer survives.** Over any sequence of polled items the loop lives
and calls the ingest function as it should exactly when every message has a payload that, if it
is UTF-8, is JSON or raises `JSONDecodeError`. -/
theorem survives_iff (json : JsonLoads) (ingestFn : Json → Exec σ Exc Unit) (items : List Polled)
    (s : ConsumerState (σ × List Json)) :
    Survives json ingestFn items s ↔ ∀ msg, .message msg ∈ items → Decodable json msg.value := by
  have hsafe : (∀ msg, Polled.message msg ∈ items → Decodable json msg.value) ↔
      ∀ item ∈ items, item.Safe json := by
    constructor
    · intro h item hitem
      cases item with
      | message msg => exact h msg hitem
      | _ => trivial
    · intro h msg hmsg
      exact h _ hmsg
  have hok := forEach_ok_iff (f := pollCycle json (recorded ingestFn)) pollCycle_eq_ok items s
  rw [hsafe, ← hok]
  constructor
  · intro h
    exact ⟨_, Prod.ext h.alive rfl⟩
  · rintro ⟨s', hs'⟩
    have hcalls := forEach_out (fun t => t.store.2) pollCycle_calls items s s' hs'
    have hrun : consume json (recorded ingestFn) items s = (.ok (), s') := hs'
    exact ⟨by rw [hrun], by rw [hrun]; exact hcalls⟩

end Consumer

/-! ### A null payload -/

/-- Reads `{}` only. -/
def exampleLoads : JsonLoads where
  loads text := if text = "{}" then .ok (.obj []) else .error .jsonDecodeError
  raises text e h := by
    split_ifs at h
    exact Or.inl (Except.error.inj h).symm

/-- A tombstone and then an empty object. -/
def tombstoneFirst : List Polled :=
  [.message ⟨"incidents", 0, 0, none⟩, .message ⟨"incidents", 0, 1, some "{}".toUTF8⟩]

/-- The loop dies at the tombstone, and the object behind it is never handed over. -/
theorem tombstone_kills_loop :
    ¬ Survives exampleLoads (fun _ => (pure () : Exec Unit Exc Unit)) tombstoneFirst ⟨((), []), []⟩ := by
  intro h
  have halive := h.alive
  exact absurd halive (by simp [consume, tombstoneFirst, forEach, pollCycle, handle, decodeBody, bind_apply])

end SocDashboard
