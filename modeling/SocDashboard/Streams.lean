/-
# The in-process event streams

Without Redis, `/api/stream` runs a generator that owns a bounded queue. The
queues are listed in `_sse_subscribers`, which `_sse_lock` guards: a publisher
holds the lock while it offers its event to one queue after the other and then
removes those that were full. Generators take from their queues without the
lock, in the middle of a broadcast too. A step is one operation on the shared
data, and every list of steps is a run.

What a stream yielded, holds and has queued is an initial part of what was
published since it registered, and all of that for as long as its queue was
not found full (`Inv`). So a stream yields the events without a gap, a repeat
or a change of order (`delivery_orderly`).

Key definitions: `SseStream`, `Publisher`, `Hub`, `StreamOp`, `streamStep`,
`Inv`, `Orderly`.
Key theorems: `inv_step`, `delivery_orderly`.
-/
import SocDashboard.World
import SocDashboard.Lib.Runs

namespace SocDashboard

/-- Where the generator of `/api/stream` stands. -/
inductive GeneratorState
  /-- Made, not started. -/
  | created
  /-- In `q.get(timeout=30)`. -/
  | getting
  /-- `q.get` returned the event. -/
  | got (event : Event)
  /-- Suspended at one of its two `yield`s. -/
  | suspended
  /-- `GeneratorExit` was raised at the `yield`. -/
  | closing
  | terminated
  deriving DecidableEq, Repr

/-- Started and not terminated. -/
def GeneratorState.live : GeneratorState → Bool
  | .created | .terminated => false
  | _ => true

/-- The event it has taken and not yet yielded. -/
def GeneratorState.held : GeneratorState → List Event
  | .got event => [event]
  | _ => []

/-- A generator with its queue. -/
structure SseStream where
  state : GeneratorState
  queue : SseQueue
  /-- The events of its `data:` lines. -/
  yielded : List Event
  /-- How many events had been published when its queue was registered. -/
  since : ℕ
  deriving DecidableEq, Repr

/-- Where `_sse_publish` stands while it holds the lock. -/
inductive Publisher
  /-- `for q in _sse_subscribers`, at an index. -/
  | offering (event : Event) (next : ℕ) (dead : List ℕ)
  /-- `for q in dead`, with the rest of it. -/
  | removing (dead : List ℕ)
  deriving DecidableEq, Repr

/-- The streams of a process; a queue goes by the number of its stream. -/
structure Hub where
  /-- `_sse_subscribers`. -/
  subscribers : List ℕ
  stream : ℕ → SseStream
  /-- The publisher that holds `_sse_lock`. -/
  publisher : Option Publisher
  /-- The events, in the order in which their publishers took the lock. -/
  published : List Event
  /-- A `list.remove` raised. -/
  raised : Bool

/-- A process that has just started. -/
def Hub.start : Hub := ⟨[], fun s => ⟨.created, ⟨s, []⟩, [], 0⟩, none, [], false⟩

inductive StreamOp
  | subscribe (s : ℕ)
  | get (s : ℕ)
  | yieldData (s : ℕ)
  /-- `q.get` timed out; yields the keepalive. -/
  | keepalive (s : ℕ)
  /-- The server asks for the next chunk. -/
  | resume (s : ℕ)
  /-- The client is gone. -/
  | close (s : ℕ)
  | unsubscribe (s : ℕ)
  /-- A publisher takes the lock. -/
  | publish (event : Event)
  /-- The publisher that holds the lock goes on. -/
  | broadcast
  deriving DecidableEq, Repr

namespace SseStream

/-- `event = q.get(timeout=30)`. -/
def get (st : SseStream) : SseStream :=
  match st.state, st.queue.items with
  | .getting, event :: rest => { st with state := .got event, queue := { st.queue with items := rest } }
  | _, _ => st

/-- `yield f"data: {json.dumps(event)}"`. -/
def yieldData (st : SseStream) : SseStream :=
  match st.state with
  | .got event => { st with state := .suspended, yielded := st.yielded ++ [event] }
  | _ => st

/-- `except queue.Empty: yield ": keepalive"`. -/
def keepalive (st : SseStream) : SseStream :=
  if st.state = .getting ∧ st.queue.items = [] then { st with state := .suspended } else st

/-- The suspended generator goes on, to its next `q.get` or to its end. -/
def leave (next : GeneratorState) (st : SseStream) : SseStream :=
  if st.state = .suspended then { st with state := next } else st

end SseStream

namespace Hub

def setStream (h : Hub) (s : ℕ) (st : SseStream) : Hub :=
  { h with stream := Function.update h.stream s st }

/-- `_sse_subscribe`, at the start of a generator. -/
def sseSubscribe (h : Hub) (s : ℕ) : Hub :=
  if h.publisher = none ∧ (h.stream s).state = .created then
    { h with subscribers := h.subscribers ++ [s] }.setStream s
      ⟨.getting, ⟨s, []⟩, [], h.published.length⟩
  else h

/-- `_sse_unsubscribe`, at the end of a generator. -/
def sseUnsubscribe (h : Hub) (s : ℕ) : Hub :=
  if h.publisher = none ∧ (h.stream s).state = .closing then
    { h with
        subscribers := if s ∈ h.subscribers then h.subscribers.erase s else h.subscribers }.setStream s
      { h.stream s with state := .terminated }
  else h

def publish (h : Hub) (event : Event) : Hub :=
  if h.publisher = none then
    { h with publisher := some (.offering event 0 []), published := h.published ++ [event] }
  else h

/-- `q.put_nowait(event)`. -/
def offer (h : Hub) (event : Event) (next : ℕ) (dead : List ℕ) (s : ℕ) : Hub :=
  match (h.stream s).queue.putNowait event with
  | some queue =>
    { h with publisher := some (.offering event (next + 1) dead) }.setStream s
      { h.stream s with queue := queue }
  | none => { h with publisher := some (.offering event (next + 1) (dead ++ [s])) }

/-- `_sse_subscribers.remove(q)`, which raises when `q` is not in the list. -/
def remove (h : Hub) (s : ℕ) (dead : List ℕ) : Hub :=
  if s ∈ h.subscribers then
    { h with subscribers := h.subscribers.erase s, publisher := some (.removing dead) }
  else { h with publisher := none, raised := true }

/-- The next operation of the publisher that holds the lock. -/
def broadcast (h : Hub) : Hub :=
  match h.publisher with
  | none => h
  | some (.offering event next dead) =>
    match h.subscribers[next]? with
    | some s => h.offer event next dead s
    | none => { h with publisher := some (.removing dead) }
  | some (.removing []) => { h with publisher := none }
  | some (.removing (s :: dead)) => h.remove s dead

end Hub

def streamStep (h : Hub) : StreamOp → Hub
  | .subscribe s => h.sseSubscribe s
  | .get s => h.setStream s (h.stream s).get
  | .yieldData s => h.setStream s (h.stream s).yieldData
  | .keepalive s => h.setStream s (h.stream s).keepalive
  | .resume s => h.setStream s ((h.stream s).leave .getting)
  | .close s => h.setStream s ((h.stream s).leave .closing)
  | .unsubscribe s => h.sseUnsubscribe s
  | .publish event => h.publish event
  | .broadcast => h.broadcast

/-! ### The invariant -/

/-- Everything that was put into its queue. -/
def SseStream.received (st : SseStream) : List Event := st.yielded ++ st.state.held ++ st.queue.items

namespace Hub

/-- The queues that the publisher holding the lock found full. -/
def dead (h : Hub) : List ℕ :=
  match h.publisher with
  | some (.offering _ _ dead) => dead
  | some (.removing dead) => dead
  | none => []

/-- What the publisher holding the lock has yet to offer to the stream. -/
def pending (h : Hub) (s : ℕ) : List Event :=
  match h.publisher with
  | some (.offering event next _) => if s ∈ h.subscribers.drop next then [event] else []
  | _ => []

/-- The subscribers that it is through with. -/
def offered (h : Hub) : List ℕ :=
  match h.publisher with
  | some (.offering _ next _) => h.subscribers.take next
  | _ => h.subscribers

end Hub

/-- A stream that may have missed events, but none in between. -/
structure StreamInv (published : List Event) (s : ℕ) (st : SseStream) : Prop where
  id : st.queue.id = s
  room : st.queue.items.length ≤ 100
  since_le : st.since ≤ published.length
  received : st.received <+: published.drop st.since

/-- **What holds in every reachable state.** -/
structure Inv (h : Hub) : Prop where
  nodup : h.subscribers.Nodup
  stream : ∀ s, StreamInv h.published s (h.stream s)
  live : ∀ s ∈ h.subscribers, (h.stream s).state.live = true
  /-- A subscribed queue that was never full got everything. -/
  complete : ∀ s ∈ h.subscribers, s ∉ h.dead →
    (h.stream s).received ++ h.pending s = h.published.drop (h.stream s).since
  dead_nodup : h.dead.Nodup
  dead_offered : ∀ s ∈ h.dead, s ∈ h.offered
  not_raised : h.raised = false

theorem inv_start : Inv Hub.start where
  nodup := List.nodup_nil
  stream := fun _ => ⟨rfl, Nat.zero_le 100, le_rfl, List.prefix_refl []⟩
  live := fun _ hs => absurd hs List.not_mem_nil
  complete := fun _ hs => absurd hs List.not_mem_nil
  dead_nodup := List.nodup_nil
  dead_offered := fun _ hs => absurd hs List.not_mem_nil
  not_raised := rfl

section Steps

variable {h : Hub} {s : ℕ} {st : SseStream} {event : Event}

theorem setStream_self : (h.setStream s st).stream s = st := Function.update_self ..

theorem setStream_of_ne {t : ℕ} (ht : t ≠ s) : (h.setStream s st).stream t = h.stream t :=
  Function.update_of_ne ht ..

/-- What holds of the new stream and of the others. -/
theorem forall_setStream {P : ℕ → SseStream → Prop} (hs : P s st)
    (hother : ∀ t, t ≠ s → P t (h.stream t)) (t : ℕ) : P t ((h.setStream s st).stream t) := by
  by_cases ht : t = s
  · rw [ht, setStream_self]
    exact hs
  · rw [setStream_of_ne ht]
    exact hother t ht

/-- `if q in subscribers: subscribers.remove(q)`. -/
theorem ite_erase {l : List ℕ} : (if s ∈ l then l.erase s else l) = l.erase s := by
  split_ifs with hs
  · rfl
  · rw [List.erase_of_not_mem hs]

theorem dead_of_free (hfree : h.publisher = none) : h.dead = [] := by
  rw [Hub.dead, hfree]

theorem not_mem_dead (hfree : h.publisher = none) : s ∉ h.dead :=
  dead_of_free hfree ▸ List.not_mem_nil

theorem pending_of_free (hfree : h.publisher = none) : h.pending s = [] := by
  rw [Hub.pending, hfree]

/-- Between broadcasts every subscriber has everything. -/
theorem Inv.received_of_free (hi : Inv h) (hfree : h.publisher = none) (hs : s ∈ h.subscribers) :
    (h.stream s).received = h.published.drop (h.stream s).since := by
  have hcomplete := hi.complete s hs (not_mem_dead hfree)
  rwa [pending_of_free hfree, List.append_nil] at hcomplete

/-! ### Steps of a stream -/

/-- A stream that goes on by itself keeps its events in their order. -/
structure OwnMove (st st' : SseStream) : Prop where
  id : st'.queue.id = st.queue.id
  live : st'.state.live = st.state.live
  since : st'.since = st.since
  room : st'.queue.items.length ≤ st.queue.items.length
  received : st'.received = st.received

theorem OwnMove.refl (st : SseStream) : OwnMove st st := ⟨rfl, rfl, rfl, le_rfl, rfl⟩

theorem ownMove_get (st : SseStream) : OwnMove st st.get := by
  unfold SseStream.get
  split
  · rename_i event rest hstate hitems
    refine ⟨rfl, by rw [hstate]; rfl, rfl, ?_, ?_⟩
    · rw [hitems, List.length_cons]
      exact Nat.le_succ _
    · simp [SseStream.received, GeneratorState.held, hstate, hitems]
  · exact .refl st

theorem ownMove_yieldData (st : SseStream) : OwnMove st st.yieldData := by
  unfold SseStream.yieldData
  split
  · rename_i event hstate
    refine ⟨rfl, by rw [hstate]; rfl, rfl, le_rfl, ?_⟩
    simp [SseStream.received, GeneratorState.held, hstate]
  · exact .refl st

theorem ownMove_keepalive (st : SseStream) : OwnMove st st.keepalive := by
  unfold SseStream.keepalive
  split_ifs with hk
  · refine ⟨rfl, by rw [hk.1]; rfl, rfl, le_rfl, ?_⟩
    simp [SseStream.received, GeneratorState.held, hk.1]
  · exact .refl st

theorem ownMove_leave {next : GeneratorState} (hlive : next.live = true) (hheld : next.held = [])
    (st : SseStream) : OwnMove st (st.leave next) := by
  unfold SseStream.leave
  split_ifs with hk
  · refine ⟨rfl, by rw [hk, hlive]; rfl, rfl, le_rfl, ?_⟩
    rw [SseStream.received, SseStream.received, hheld, hk]
    rfl
  · exact .refl st

theorem OwnMove.streamInv {published : List Event} {st' : SseStream} (hm : OwnMove st st')
    (hs : StreamInv published s st) : StreamInv published s st' where
  id := hm.id.trans hs.id
  room := hm.room.trans hs.room
  since_le := hm.since ▸ hs.since_le
  received := by
    rw [hm.received, hm.since]
    exact hs.received

theorem Inv.ownMove (hi : Inv h) (hm : OwnMove (h.stream s) st) : Inv (h.setStream s st) where
  nodup := hi.nodup
  stream := forall_setStream (hm.streamInv (hi.stream s)) fun t _ => hi.stream t
  live := forall_setStream (P := fun t st => t ∈ h.subscribers → st.state.live = true)
    (fun hs => hm.live.trans (hi.live s hs)) fun t _ => hi.live t
  complete := by
    refine forall_setStream (P := fun t st => t ∈ h.subscribers → t ∉ h.dead →
      st.received ++ h.pending t = h.published.drop st.since) ?_ fun t _ => hi.complete t
    intro hs hdead
    rw [hm.received, hm.since]
    exact hi.complete s hs hdead
  dead_nodup := hi.dead_nodup
  dead_offered := hi.dead_offered
  not_raised := hi.not_raised

/-- A new queue is owed nothing. -/
theorem Inv.sseSubscribe (hi : Inv h) : Inv (h.sseSubscribe s) := by
  unfold Hub.sseSubscribe
  split_ifs with hk
  · obtain ⟨hfree, hcreated⟩ := hk
    have hnew : s ∉ h.subscribers := by
      intro hs
      have hlive := hi.live s hs
      rw [hcreated] at hlive
      exact absurd hlive (by decide)
    have hold : ∀ t, t ≠ s → t ∈ h.subscribers ++ [s] → t ∈ h.subscribers := by
      intro t hts ht
      rcases List.mem_append.mp ht with ht | ht
      · exact ht
      · exact absurd (List.mem_singleton.mp ht) hts
    constructor
    · exact List.nodup_append.mpr ⟨hi.nodup, List.nodup_singleton s, fun t ht u hu he =>
        hnew (by rwa [← List.mem_singleton.mp hu, ← he])⟩
    · exact forall_setStream ⟨rfl, Nat.zero_le 100, le_rfl, List.nil_prefix⟩ fun t _ => hi.stream t
    · exact forall_setStream (P := fun t st => t ∈ h.subscribers ++ [s] → st.state.live = true)
        (fun _ => rfl) fun t hts ht => hi.live t (hold t hts ht)
    · refine forall_setStream (P := fun t st => t ∈ h.subscribers ++ [s] → t ∉ h.dead → st.received ++
        Hub.pending { h with subscribers := h.subscribers ++ [s] } t = h.published.drop st.since) ?_ ?_
      · intro _ _
        rw [pending_of_free (h := { h with subscribers := h.subscribers ++ [s] }) hfree]
        exact List.drop_length.symm
      · intro t hts ht _
        rw [pending_of_free (h := { h with subscribers := h.subscribers ++ [s] }) hfree, List.append_nil]
        exact hi.received_of_free hfree (hold t hts ht)
    · exact hi.dead_nodup
    · intro t ht
      exact absurd ht (not_mem_dead hfree)
    · exact hi.not_raised
  · exact hi

/-- A stream that ends is no longer listed. -/
theorem Inv.sseUnsubscribe (hi : Inv h) : Inv (h.sseUnsubscribe s) := by
  rw [Hub.sseUnsubscribe, ite_erase]
  split_ifs with hk
  · obtain ⟨hfree, hclosing⟩ := hk
    have hreceived : { h.stream s with state := .terminated }.received = (h.stream s).received := by
      rw [SseStream.received, SseStream.received, hclosing]
      rfl
    have hgone : s ∉ h.subscribers.erase s := hi.nodup.not_mem_erase
    constructor
    · exact hi.nodup.erase s
    · have hs := hi.stream s
      exact forall_setStream ⟨hs.id, hs.room, hs.since_le, hreceived ▸ hs.received⟩
        fun t _ => hi.stream t
    · exact forall_setStream (P := fun t st => t ∈ h.subscribers.erase s → st.state.live = true)
        (fun hs => absurd hs hgone) fun t _ ht => hi.live t (List.mem_of_mem_erase ht)
    · refine forall_setStream (P := fun t st => t ∈ h.subscribers.erase s → t ∉ h.dead → st.received ++
        Hub.pending { h with subscribers := h.subscribers.erase s } t = h.published.drop st.since) ?_ ?_
      · intro hs
        exact absurd hs hgone
      · intro t _ ht _
        rw [pending_of_free (h := { h with subscribers := h.subscribers.erase s }) hfree, List.append_nil]
        exact hi.received_of_free hfree (List.mem_of_mem_erase ht)
    · exact hi.dead_nodup
    · intro t ht
      exact absurd ht (not_mem_dead hfree)
    · exact hi.not_raised
  · exact hi

/-! ### Steps of a publisher -/

/-- A published event is owed to every subscriber. -/
theorem Inv.publish (hi : Inv h) : Inv (h.publish event) := by
  unfold Hub.publish
  split_ifs with hfree
  · have hdrop : ∀ t, (h.published ++ [event]).drop (h.stream t).since =
        h.published.drop (h.stream t).since ++ [event] := fun t =>
      List.drop_append_of_le_length (hi.stream t).since_le
    constructor
    · exact hi.nodup
    · intro t
      refine ⟨(hi.stream t).id, (hi.stream t).room, ?_, ?_⟩
      · rw [List.length_append]
        exact (hi.stream t).since_le.trans (Nat.le_add_right _ _)
      · rw [hdrop]
        exact (hi.stream t).received.trans (List.prefix_append _ _)
    · exact hi.live
    · intro t ht _
      show (h.stream t).received ++ (if t ∈ h.subscribers then [event] else []) = _
      rw [hdrop, if_pos ht, hi.received_of_free hfree ht]
    · exact List.nodup_nil
    · intro t ht
      exact absurd ht List.not_mem_nil
    · exact hi.not_raised
  · exact hi

theorem putNowait_eq_some {q q' : SseQueue} :
    q.putNowait event = some q' ↔
      q.items.length < 100 ∧ { q with items := q.items ++ [event] } = q' := by
  rw [SseQueue.putNowait, Option.ite_none_right_eq_some, Option.some.injEq]

/-- The place of the loop in the list. -/
theorem offering_split {next : ℕ} (hnodup : h.subscribers.Nodup)
    (hnext : h.subscribers[next]? = some s) :
    s ∉ h.subscribers.take next ∧ s ∉ h.subscribers.drop (next + 1) ∧
      h.subscribers.drop next = s :: h.subscribers.drop (next + 1) ∧
      h.subscribers.take (next + 1) = h.subscribers.take next ++ [s] := by
  obtain ⟨hlt, hs⟩ := List.getElem?_eq_some_iff.mp hnext
  have hdrop : h.subscribers.drop next = s :: h.subscribers.drop (next + 1) := by
    rw [List.drop_eq_getElem_cons hlt, hs]
  have hsplit := hnodup
  rw [← List.take_append_drop next h.subscribers, hdrop] at hsplit
  obtain ⟨-, htail, hdisjoint⟩ := List.nodup_append.mp hsplit
  refine ⟨fun hm => hdisjoint s hm s List.mem_cons_self rfl, (List.nodup_cons.mp htail).1, hdrop, ?_⟩
  rw [List.take_add_one, hnext]
  rfl

section Offering

variable {next : ℕ} {dead : List ℕ}

/-- A subscriber that is not dead is owed the event until its turn. -/
theorem Inv.owed (hi : Inv h) (hpub : h.publisher = some (.offering event next dead)) {t : ℕ}
    (ht : t ∈ h.subscribers) (htdead : t ∉ dead) :
    (h.stream t).received ++ (if t ∈ h.subscribers.drop next then [event] else []) =
      h.published.drop (h.stream t).since := by
  have hcomplete := hi.complete t ht (by rwa [Hub.dead, hpub])
  rwa [Hub.pending, hpub] at hcomplete

/-- The turn of `s` leaves what the others are owed. -/
theorem Inv.owed_of_ne (hi : Inv h) (hpub : h.publisher = some (.offering event next dead))
    (hnext : h.subscribers[next]? = some s) {t : ℕ} (hts : t ≠ s) (ht : t ∈ h.subscribers)
    (htdead : t ∉ dead) :
    (h.stream t).received ++ (if t ∈ h.subscribers.drop (next + 1) then [event] else []) =
      h.published.drop (h.stream t).since := by
  obtain ⟨-, -, hdrop, -⟩ := offering_split hi.nodup hnext
  have howed := hi.owed hpub ht htdead
  rw [hdrop] at howed
  simpa only [List.mem_cons, hts, false_or] using howed

theorem Inv.dead_before (hi : Inv h) (hpub : h.publisher = some (.offering event next dead)) {t : ℕ}
    (ht : t ∈ dead) : t ∈ h.subscribers.take next := by
  have hoffered := hi.dead_offered t (by rwa [Hub.dead, hpub])
  rwa [Hub.offered, hpub] at hoffered

theorem Inv.next_not_dead (hi : Inv h) (hpub : h.publisher = some (.offering event next dead))
    (hnext : h.subscribers[next]? = some s) : s ∉ dead := by
  intro hs
  exact (offering_split hi.nodup hnext).1 (hi.dead_before hpub hs)

theorem Inv.nodup_of_offering (hi : Inv h) (hpub : h.publisher = some (.offering event next dead)) :
    dead.Nodup := by
  have hdead := hi.dead_nodup
  rwa [Hub.dead, hpub] at hdead

/-- A queue with room takes the event. -/
theorem Inv.offerTaken (hi : Inv h) (hpub : h.publisher = some (.offering event next dead))
    (hnext : h.subscribers[next]? = some s) (hroom : (h.stream s).queue.items.length < 100) :
    Inv (Hub.setStream { h with publisher := some (.offering event (next + 1) dead) } s
      { h.stream s with
        queue := { (h.stream s).queue with items := (h.stream s).queue.items ++ [event] } }) := by
  obtain ⟨-, hafter, hdrop, htake⟩ := offering_split hi.nodup hnext
  have hreceived : ({ h.stream s with
      queue := { (h.stream s).queue with items := (h.stream s).queue.items ++ [event] } } :
        SseStream).received = h.published.drop (h.stream s).since := by
    have howed := hi.owed hpub (List.mem_of_getElem? hnext) (hi.next_not_dead hpub hnext)
    rw [if_pos (hdrop ▸ List.mem_cons_self)] at howed
    rw [← howed]
    exact (List.append_assoc _ _ _).symm
  constructor
  · exact hi.nodup
  · refine forall_setStream ⟨(hi.stream s).id, ?_, (hi.stream s).since_le, ?_⟩ fun t _ => hi.stream t
    · rw [List.length_append]
      exact hroom
    · rw [hreceived]
      exact List.prefix_refl _
  · exact forall_setStream (P := fun t st => t ∈ h.subscribers → st.state.live = true)
      (hi.live s) fun t _ => hi.live t
  · refine forall_setStream (P := fun t st => t ∈ h.subscribers → t ∉ dead → st.received ++
      (if t ∈ h.subscribers.drop (next + 1) then [event] else []) = h.published.drop st.since) ?_ ?_
    · intro _ _
      rw [hreceived, if_neg hafter, List.append_nil]
    · intro t hts ht htdead
      exact hi.owed_of_ne hpub hnext hts ht htdead
  · exact hi.nodup_of_offering hpub
  · intro t ht
    show t ∈ h.subscribers.take (next + 1)
    rw [htake]
    exact List.mem_append_left [s] (hi.dead_before hpub ht)
  · exact hi.not_raised

/-- A full queue will be removed. -/
theorem Inv.offerFull (hi : Inv h) (hpub : h.publisher = some (.offering event next dead))
    (hnext : h.subscribers[next]? = some s) :
    Inv { h with publisher := some (.offering event (next + 1) (dead ++ [s])) } := by
  obtain ⟨-, -, -, htake⟩ := offering_split hi.nodup hnext
  constructor
  · exact hi.nodup
  · exact hi.stream
  · exact hi.live
  · intro t ht htdead
    have hts : t ≠ s := fun he => htdead (he ▸ List.mem_append_right dead List.mem_cons_self)
    have hold : t ∉ dead := fun hm => htdead (List.mem_append_left [s] hm)
    exact hi.owed_of_ne hpub hnext hts ht hold
  · refine List.nodup_append.mpr ⟨hi.nodup_of_offering hpub, List.nodup_singleton s, ?_⟩
    intro t ht u hu he
    rw [he, List.mem_singleton.mp hu] at ht
    exact hi.next_not_dead hpub hnext ht
  · intro t ht
    show t ∈ h.subscribers.take (next + 1)
    rw [htake]
    rcases List.mem_append.mp ht with ht | ht
    · exact List.mem_append_left [s] (hi.dead_before hpub ht)
    · exact List.mem_append_right _ ht
  · exact hi.not_raised

/-- A queue is offered the event: it takes it, or it is full and will be removed. -/
theorem Inv.offer (hi : Inv h) (hpub : h.publisher = some (.offering event next dead))
    (hnext : h.subscribers[next]? = some s) : Inv (h.offer event next dead s) := by
  unfold Hub.offer
  split
  · rename_i queue hput
    obtain ⟨hroom, rfl⟩ := putNowait_eq_some.mp hput
    exact hi.offerTaken hpub hnext hroom
  · exact hi.offerFull hpub hnext

/-- The loop over the subscribers is through. -/
theorem Inv.offeredAll (hi : Inv h) (hpub : h.publisher = some (.offering event next dead))
    (hend : h.subscribers[next]? = none) : Inv { h with publisher := some (.removing dead) } := by
  have hdrop : h.subscribers.drop next = [] := List.drop_eq_nil_of_le (List.getElem?_eq_none_iff.mp hend)
  constructor
  · exact hi.nodup
  · exact hi.stream
  · exact hi.live
  · intro t ht htdead
    have howed := hi.owed hpub ht htdead
    rwa [hdrop, if_neg List.not_mem_nil] at howed
  · exact hi.nodup_of_offering hpub
  · intro t ht
    exact List.mem_of_mem_take (hi.dead_before hpub ht)
  · exact hi.not_raised

end Offering

/-- A queue that was full is removed; it is in the list. -/
theorem Inv.remove (hi : Inv h) {dead : List ℕ} (hpub : h.publisher = some (.removing (s :: dead))) :
    Inv (h.remove s dead) := by
  have hdead : h.dead = s :: dead := by rw [Hub.dead, hpub]
  have hoffered : h.offered = h.subscribers := by rw [Hub.offered, hpub]
  have hmem : ∀ t ∈ s :: dead, t ∈ h.subscribers := by
    intro t ht
    rw [← hdead] at ht
    exact hoffered ▸ hi.dead_offered t ht
  obtain ⟨hsdead, hnodup⟩ := List.nodup_cons.mp (hdead ▸ hi.dead_nodup)
  have herase : ∀ t, t ∈ h.subscribers.erase s ↔ t ≠ s ∧ t ∈ h.subscribers := fun t =>
    hi.nodup.mem_erase_iff
  rw [Hub.remove, if_pos (hmem s List.mem_cons_self)]
  constructor
  · exact hi.nodup.erase s
  · exact hi.stream
  · exact fun t ht => hi.live t (List.mem_of_mem_erase ht)
  · intro t ht htdead
    obtain ⟨hts, ht⟩ := (herase t).mp ht
    have hcomplete := hi.complete t ht (hdead ▸ List.not_mem_cons_of_ne_of_not_mem hts htdead)
    rwa [Hub.pending, hpub] at hcomplete
  · exact hnodup
  · intro t ht
    refine (herase t).mpr ⟨fun he => hsdead (he ▸ ht), hmem t (List.mem_cons_of_mem s ht)⟩
  · exact hi.not_raised

/-- The lock is released. -/
theorem Inv.release (hi : Inv h) (hpub : h.publisher = some (.removing [])) :
    Inv { h with publisher := none } := by
  have hdead : h.dead = [] := by rw [Hub.dead, hpub]
  constructor
  · exact hi.nodup
  · exact hi.stream
  · exact hi.live
  · intro t ht _
    have hcomplete := hi.complete t ht (by rw [hdead]; exact List.not_mem_nil)
    rwa [Hub.pending, hpub] at hcomplete
  · exact List.nodup_nil
  · intro t ht
    exact absurd ht List.not_mem_nil
  · exact hi.not_raised

theorem Inv.broadcast (hi : Inv h) : Inv h.broadcast := by
  unfold Hub.broadcast
  split
  · exact hi
  · rename_i event next dead hpub
    split
    · rename_i s hnext
      exact hi.offer hpub hnext
    · rename_i hend
      exact hi.offeredAll hpub hend
  · rename_i hpub
    exact hi.release hpub
  · rename_i s dead hpub
    exact hi.remove hpub

/-- **Every step keeps the invariant.** -/
theorem inv_step (h : Hub) (op : StreamOp) (hi : Inv h) : Inv (streamStep h op) := by
  cases op with
  | subscribe s => exact hi.sseSubscribe
  | get s => exact hi.ownMove (ownMove_get _)
  | yieldData s => exact hi.ownMove (ownMove_yieldData _)
  | keepalive s => exact hi.ownMove (ownMove_keepalive _)
  | resume s => exact hi.ownMove (ownMove_leave rfl rfl _)
  | close s => exact hi.ownMove (ownMove_leave rfl rfl _)
  | unsubscribe s => exact hi.sseUnsubscribe
  | publish event => exact hi.publish
  | broadcast => exact hi.broadcast

end Steps

/-! ### Runs -/

theorem inv_run (ops : List StreamOp) : Inv (Runs.run streamStep Hub.start ops) :=
  Runs.run_inv streamStep inv_step ops Hub.start inv_start

/-- No gap, repeat or reordering, and the list of subscribers is in order. -/
structure Orderly (h : Hub) : Prop where
  delivered : ∀ s, (h.stream s).yielded <+: h.published.drop (h.stream s).since
  nodup : h.subscribers.Nodup
  terminated : ∀ s, (h.stream s).state = .terminated → s ∉ h.subscribers
  bounded : ∀ s, (h.stream s).queue.items.length ≤ 100
  not_raised : h.raised = false

/-- **Delivery is orderly in every reachable state.** -/
theorem delivery_orderly (ops : List StreamOp) : Orderly (Runs.run streamStep Hub.start ops) := by
  have hi := inv_run ops
  constructor
  · intro s
    refine List.IsPrefix.trans ?_ (hi.stream s).received
    exact (List.prefix_append _ _).trans (List.prefix_append _ _)
  · exact hi.nodup
  · intro s hterminated hs
    have hlive := hi.live s hs
    rw [hterminated] at hlive
    exact absurd hlive (by decide)
  · exact fun s => (hi.stream s).room
  · exact hi.not_raised

end SocDashboard
