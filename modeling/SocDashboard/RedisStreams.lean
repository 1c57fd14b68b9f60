/-
# Event streams over Redis

With Redis, every worker's `_sse_publish` and the Go service's `publishSSE`
publish their texts on one channel, and every `/api/stream` generator has a
subscription to it. Redis pushes a message to the connections subscribed at the
time, in the order of publication; the first thing pushed to a connection is
the confirmation of its subscription, which `get_message` answers with `None`
as it does a timeout. A connection that breaks gets nothing more, and what was
already pushed to it may be cut short; `get_message` raises once the rest is
read, and the generator ends.

What a stream sent and what waits in its connection is an initial part of the
channel since its subscription, and all of it while the connection holds
(`PubSubInv`). So a browser reads the events of Flask and Go alike, without a
gap, a repeat or a change of order (`redis_received`).

Key definitions: `PubSubStream`, `RedisHub`, `RedisOp`, `redisStep`, `PubSubInv`.
Key theorems: `redisInv_step`, `redis_received`.
-/
import SocDashboard.EventWire

namespace SocDashboard

open EventStream

/-- What Redis pushes to a subscription. -/
inductive Pushed
  | subscribed
  | message (data : List Char)
  deriving DecidableEq, Repr

def Pushed.data : Pushed → Option (List Char)
  | .subscribed => none
  | .message data => some data

/-- Where the generator of `/api/stream` stands. -/
inductive PubSubState
  /-- Made, not started. -/
  | created
  /-- In `ps.get_message(timeout=30)`. -/
  | polling
  /-- Suspended at one of its two `yield`s. -/
  | suspended
  | terminated
  deriving DecidableEq, Repr

structure PubSubStream where
  state : PubSubState
  /-- The connection of the subscription holds. -/
  connected : Bool
  /-- Pushed and not read. -/
  inbox : List Pushed
  sent : List Chunk
  /-- How many messages had been published when it subscribed. -/
  since : ℕ

/-- The channel `soc:alerts` and the streams of all workers. -/
structure RedisHub where
  channel : List (EventWriter × Event)
  stream : ℕ → PubSubStream

def RedisHub.start : RedisHub := ⟨[], fun _ => ⟨.created, false, [], [], 0⟩⟩

inductive RedisOp
  /-- `ps.subscribe`, at the start of a generator. -/
  | subscribe (s : ℕ)
  /-- Redis does not answer: `ps.subscribe` raises. -/
  | refuse (s : ℕ)
  | publish (writer : EventWriter) (event : Event)
  /-- `ps.get_message` returns or raises, and the generator goes on to its `yield`. -/
  | poll (s : ℕ)
  /-- The server asks for the next chunk. -/
  | resume (s : ℕ)
  /-- The client is gone. -/
  | close (s : ℕ)
  /-- The connection breaks; the first `kept` of what was pushed have arrived. -/
  | broken (s kept : ℕ)
  deriving DecidableEq, Repr

namespace PubSubStream

def subscribe (published : ℕ) (st : PubSubStream) : PubSubStream :=
  if st.state = .created then ⟨.polling, true, [.subscribed], [], published⟩ else st

def refuse (st : PubSubStream) : PubSubStream :=
  if st.state = .created then { st with state := .terminated } else st

/-- Redis pushes a message. -/
def push (data : List Char) (st : PubSubStream) : PubSubStream :=
  if st.connected then { st with inbox := st.inbox ++ [.message data] } else st

/-- `yield f"data: {...}"`, `yield ": keepalive"`, or the end. -/
def poll (st : PubSubStream) : PubSubStream :=
  if st.state = .polling then
    match st.inbox with
    | .message data :: rest => { st with state := .suspended, inbox := rest, sent := st.sent ++ [.data data] }
    | .subscribed :: rest => { st with state := .suspended, inbox := rest, sent := st.sent ++ [keepaliveChunk] }
    | [] =>
      if st.connected then { st with state := .suspended, sent := st.sent ++ [keepaliveChunk] }
      else { st with state := .terminated }
  else st

def resume (st : PubSubStream) : PubSubStream :=
  if st.state = .suspended then { st with state := .polling } else st

/-- `ps.unsubscribe`, `ps.close`. -/
def close (st : PubSubStream) : PubSubStream :=
  if st.state = .suspended then { st with state := .terminated, connected := false, inbox := [] } else st

def broken (kept : ℕ) (st : PubSubStream) : PubSubStream :=
  { st with connected := false, inbox := st.inbox.take kept }

end PubSubStream

namespace RedisHub

def change (h : RedisHub) (s : ℕ) (f : PubSubStream → PubSubStream) : RedisHub :=
  { h with stream := Function.update h.stream s (f (h.stream s)) }

/-- `PUBLISH soc:alerts`. -/
def publish (h : RedisHub) (writer : EventWriter) (event : Event) : RedisHub where
  channel := h.channel ++ [(writer, event)]
  stream := fun s => (h.stream s).push (payload writer event)

end RedisHub

def redisStep (h : RedisHub) : RedisOp → RedisHub
  | .subscribe s => h.change s (PubSubStream.subscribe h.channel.length)
  | .refuse s => h.change s PubSubStream.refuse
  | .publish writer event => h.publish writer event
  | .poll s => h.change s PubSubStream.poll
  | .resume s => h.change s PubSubStream.resume
  | .close s => h.change s PubSubStream.close
  | .broken s kept => h.change s (PubSubStream.broken kept)

/-! ### The invariant -/

/-- A stream has sent `done`, and `rest` waits in its connection. -/
structure InTransit (st : PubSubStream) (done rest : List (EventWriter × Event)) : Prop where
  sent : Carries st.sent (done.map Prod.snd)
  inbox : st.inbox.filterMap Pushed.data = rest.map fun x => payload x.1 x.2

/-- What it has sent and has waiting is an initial part of the channel since it
subscribed, and all of it while its connection holds. -/
structure PubSubInv (channel : List (EventWriter × Event)) (st : PubSubStream) : Prop where
  since_le : st.since ≤ channel.length
  pending : ∃ done rest, InTransit st done rest ∧ done ++ rest <+: channel.drop st.since ∧
    (st.connected = true → done ++ rest = channel.drop st.since)
  /-- A generator that was not started has no connection. -/
  created : st.state = .created → st.connected = false

section Steps

variable {channel : List (EventWriter × Event)} {st : PubSubStream}

theorem PubSubInv.subscribe (hi : PubSubInv channel st) : PubSubInv channel (st.subscribe channel.length) := by
  unfold PubSubStream.subscribe
  split
  · refine ⟨le_rfl, ⟨[], [], ⟨.nil, rfl⟩, List.nil_prefix, fun _ => ?_⟩, fun hc => by cases hc⟩
    rw [List.drop_length]
    rfl
  · exact hi

theorem PubSubInv.refuse (hi : PubSubInv channel st) : PubSubInv channel st.refuse := by
  unfold PubSubStream.refuse
  split
  · obtain ⟨done, rest, hp, hprefix, hall⟩ := hi.pending
    exact ⟨hi.since_le, ⟨done, rest, ⟨hp.sent, hp.inbox⟩, hprefix, hall⟩, fun hc => by cases hc⟩
  · exact hi

theorem PubSubInv.publish (hi : PubSubInv channel st) (writer : EventWriter) (event : Event) :
    PubSubInv (channel ++ [(writer, event)]) (st.push (payload writer event)) := by
  have hle : st.since ≤ (channel ++ [(writer, event)]).length := by
    rw [List.length_append]
    exact le_trans hi.since_le (Nat.le_add_right _ _)
  have hdrop : (channel ++ [(writer, event)]).drop st.since = channel.drop st.since ++ [(writer, event)] :=
    List.drop_append_of_le_length hi.since_le
  obtain ⟨done, rest, hp, hprefix, hall⟩ := hi.pending
  unfold PubSubStream.push
  split
  · rename_i hconnected
    have hwhole : done ++ (rest ++ [(writer, event)]) = (channel ++ [(writer, event)]).drop st.since := by
      rw [hdrop, ← hall hconnected, List.append_assoc]
    refine ⟨hle, ⟨done, rest ++ [(writer, event)], ⟨hp.sent, ?_⟩, ?_, fun _ => hwhole⟩, hi.created⟩
    · rw [List.filterMap_append, hp.inbox, List.map_append]
      rfl
    · rw [hwhole]
  · rename_i hconnected
    refine ⟨hle, ⟨done, rest, hp, ?_, fun hc => absurd hc hconnected⟩, hi.created⟩
    rw [hdrop]
    exact hprefix.trans (List.prefix_append _ _)

/-- One more keepalive. -/
theorem Carries.keepalive_last {cs : List Chunk} {es : List Event} (h : Carries cs es) :
    Carries (cs ++ [keepaliveChunk]) es := by
  have happend := h.append (.keepalive .nil)
  rwa [List.append_nil] at happend

theorem PubSubInv.poll (hi : PubSubInv channel st) : PubSubInv channel st.poll := by
  obtain ⟨done, rest, hp, hprefix, hall⟩ := hi.pending
  unfold PubSubStream.poll
  split
  · split
    · rename_i data inbox hinbox
      have hdata := hp.inbox
      rw [hinbox] at hdata
      cases rest with
      | nil => cases hdata
      | cons x rest =>
        obtain ⟨hx, hrest⟩ := List.cons_eq_cons.mp hdata
        have hmove : done ++ x :: rest = done ++ [x] ++ rest := by simp
        refine ⟨hi.since_le, ⟨done ++ [x], rest, ⟨?_, hrest⟩, ?_, ?_⟩, fun hc => by cases hc⟩
        · rw [List.map_append, hx]
          exact hp.sent.append (.data x.1 x.2 .nil)
        · rwa [← hmove]
        · rwa [← hmove]
    · rename_i inbox hinbox
      have hdata := hp.inbox
      rw [hinbox] at hdata
      exact ⟨hi.since_le, ⟨done, rest, ⟨hp.sent.keepalive_last, hdata⟩, hprefix, hall⟩, fun hc => by cases hc⟩
    · split
      · exact ⟨hi.since_le, ⟨done, rest, ⟨hp.sent.keepalive_last, hp.inbox⟩, hprefix, hall⟩, fun hc => by cases hc⟩
      · exact ⟨hi.since_le, ⟨done, rest, ⟨hp.sent, hp.inbox⟩, hprefix, hall⟩, fun hc => by cases hc⟩
  · exact hi

theorem PubSubInv.resume (hi : PubSubInv channel st) : PubSubInv channel st.resume := by
  obtain ⟨done, rest, hp, hprefix, hall⟩ := hi.pending
  unfold PubSubStream.resume
  split
  · exact ⟨hi.since_le, ⟨done, rest, ⟨hp.sent, hp.inbox⟩, hprefix, hall⟩, fun hc => by cases hc⟩
  · exact hi

/-- What is cut short is an initial part. -/
theorem PubSubInv.cut (hi : PubSubInv channel st) {st' : PubSubStream} (hsent : st'.sent = st.sent)
    (hsince : st'.since = st.since) (hinbox : st'.inbox <+: st.inbox) (hconnected : st'.connected = false) :
    PubSubInv channel st' := by
  obtain ⟨done, rest, hp, hprefix, -⟩ := hi.pending
  have hdata := hinbox.filterMap Pushed.data
  rw [hp.inbox] at hdata
  obtain ⟨k, hk⟩ : ∃ k, st'.inbox.filterMap Pushed.data = (rest.take k).map fun x => payload x.1 x.2 :=
    ⟨_, by rw [List.map_take]; exact List.prefix_iff_eq_take.mp hdata⟩
  refine ⟨hsince ▸ hi.since_le, ⟨done, rest.take k, ⟨hsent ▸ hp.sent, hk⟩, ?_, ?_⟩, fun _ => hconnected⟩
  · rw [hsince]
    exact ((List.prefix_append_right_inj done).mpr (List.take_prefix k rest)).trans hprefix
  · intro hc
    rw [hconnected] at hc
    cases hc

theorem PubSubInv.close (hi : PubSubInv channel st) : PubSubInv channel st.close := by
  unfold PubSubStream.close
  split
  · exact hi.cut rfl rfl List.nil_prefix rfl
  · exact hi

theorem PubSubInv.broken (hi : PubSubInv channel st) (kept : ℕ) : PubSubInv channel (st.broken kept) :=
  hi.cut rfl rfl (List.take_prefix kept st.inbox) rfl

end Steps

/-- Every stream of every worker. -/
def RedisInv (h : RedisHub) : Prop := ∀ s, PubSubInv h.channel (h.stream s)

theorem RedisInv.change {h : RedisHub} {s : ℕ} {f : PubSubStream → PubSubStream} (hi : RedisInv h)
    (hf : PubSubInv h.channel (f (h.stream s))) : RedisInv (h.change s f) := by
  intro t
  show PubSubInv h.channel (Function.update h.stream s (f (h.stream s)) t)
  by_cases hts : t = s
  · rw [hts, Function.update_self]
    exact hf
  · rw [Function.update_of_ne hts]
    exact hi t

/-- **Every step keeps the invariant.** -/
theorem redisInv_step (h : RedisHub) (op : RedisOp) (hi : RedisInv h) : RedisInv (redisStep h op) := by
  cases op with
  | subscribe s => exact hi.change (hi s).subscribe
  | refuse s => exact hi.change (hi s).refuse
  | publish writer event => exact fun s => (hi s).publish writer event
  | poll s => exact hi.change (hi s).poll
  | resume s => exact hi.change (hi s).resume
  | close s => exact hi.change (hi s).close
  | broken s kept => exact hi.change ((hi s).broken kept)

theorem redisInv_start : RedisInv RedisHub.start := fun _ =>
  ⟨le_rfl, ⟨[], [], ⟨.nil, rfl⟩, List.nil_prefix, fun _ => rfl⟩, fun _ => rfl⟩

theorem redisInv_run (ops : List RedisOp) : RedisInv (Runs.run redisStep RedisHub.start ops) :=
  Runs.run_inv redisStep redisInv_step ops RedisHub.start redisInv_start

/-- **Events of all workers and of the Go service reach the browser.** In every
reachable state, a browser that has received the first `n` characters of a
stream has read the events published on the channel since the stream
subscribed, up to some point, each once and in order, and refreshed for each of
them; with everything received, nothing waiting and the connection held, it has
read all of them. -/
theorem redis_received (ops : List RedisOp) (s n : ℕ) :
    let h := Runs.run redisStep RedisHub.start ops
    let text := (h.stream s).sent.flatMap Chunk.text
    receivedEvents (text.take n) <+: (h.channel.drop (h.stream s).since).map Prod.snd ∧
      (∀ m ∈ receive (text.take n), onMessage m.data = true) ∧
      ((h.stream s).connected = true ∧ (h.stream s).inbox = [] →
        receivedEvents text = (h.channel.drop (h.stream s).since).map Prod.snd) := by
  have hi := redisInv_run ops s
  obtain ⟨done, rest, hp, hprefix, hall⟩ := hi.pending
  obtain ⟨hpart, hdone, hrefresh⟩ := received_wire hp.sent n
  refine ⟨hpart.trans (((List.prefix_append done rest).trans hprefix).map Prod.snd), hrefresh, ?_⟩
  rintro ⟨hconnected, hinbox⟩
  have hrest := hp.inbox
  rw [hinbox] at hrest
  have hnil : rest = [] := List.map_eq_nil_iff.mp hrest.symm
  rw [hdone, ← hall hconnected, hnil, List.append_nil]

end SocDashboard
