/-
# Events on the wire

An event leaves `_sse_publish` as the text `json.dumps` makes of a dict, and
the Go service's `publishSSE` as what `json.Marshal` makes of a map, with its
keys sorted; `/api/stream` sends it as one `data` line, with keepalive comments
in between. `initSSE` parses the data of every message and refreshes the
dashboard when the type is one of the two that there are.

Both texts are read as the event (`readEvent_payload`), and no text ends its
line. So the events a browser has received, at any point of the transfer, are
an initial part of those the stream yielded, and every message it received
refreshes (`received_wire`). With the streams of one process this gives delivery
end to end (`streams_received`).

Key definitions: `payload`, `onMessage`, `receivedEvents`, `Carries`, `chunks`.
Key theorems: `readEvent_payload`, `received_wire`, `streams_received`.
-/
import SocDashboard.Lib.EventStream
import SocDashboard.Lib.JsonText
import SocDashboard.Streams

namespace SocDashboard

open JsonText EventStream

/-! ### What the writers write -/

def EventType.name : EventType → String
  | .newAlert => "new_alert"
  | .statusChange => "status_change"

/-- `json.dumps`: what is not printable ASCII is escaped. -/
def dumps : Style where
  plain c := 32 ≤ c.toNat && c.toNat ≤ 126 && c ≠ '"' && c ≠ '\\'
  short _ := true
  gap := 1
  lawful := by
    intro c h
    simp only [Bool.and_eq_true, decide_eq_true_eq] at h
    exact ⟨h.1.2, h.2, h.1.1.1⟩

/-- `json.Marshal`: `<`, `>`, `&` and two separators are escaped. -/
def marshal : Style where
  plain c := 32 ≤ c.toNat && c ≠ '"' && c ≠ '\\' && c ≠ '<' && c ≠ '>' && c ≠ '&' &&
    c.toNat ≠ 0x2028 && c.toNat ≠ 0x2029
  short c := c = '"' || c = '\\' || c = '\n' || c = '\r' || c = '\t'
  gap := 0
  lawful := by
    intro c h
    simp only [Bool.and_eq_true, decide_eq_true_eq] at h
    exact ⟨h.1.1.1.1.1.1.2, h.1.1.1.1.1.2, h.1.1.1.1.1.1.1⟩

/-- Who publishes events. -/
inductive EventWriter
  | flask
  | go
  deriving DecidableEq, Repr

/-- The value a writer makes of an event. -/
def eventValue (e : Event) : EventWriter → Value
  | .flask => .obj [("type", .str e.type.name), ("alert_id", .int e.alertId), ("severity", .str e.severity.name),
      ("status", .str e.status.name)]
  | .go => .obj [("alert_id", .int e.alertId), ("severity", .str e.severity.name), ("status", .str e.status.name),
      ("type", .str e.type.name)]

/-- The text of an event: `json.dumps(event)`, or `json.Marshal(map[string]any{...})`. -/
def payload (writer : EventWriter) (e : Event) : List Char :=
  match writer with
  | .flask => write dumps (eventValue e .flask)
  | .go => write marshal (eventValue e .go)

/-! ### What the browser reads -/

def EventType.ofName (s : String) : Option EventType :=
  [EventType.newAlert, .statusChange].find? fun t => t.name = s

def Status.ofName (s : String) : Option Status :=
  [Status.open_, .truePositive, .falsePositive, .escalated].find? fun t => t.name = s

/-- The event an object has in its four fields. -/
def readEvent (v : Value) : Option Event :=
  match v.get "type", v.get "alert_id", v.get "severity", v.get "status" with
  | some (.str type), some (.int (.ofNat id)), some (.str severity), some (.str status) => do
    some ⟨← EventType.ofName type, id, ← Severity.ofName severity, ← Status.ofName status⟩
  | _, _, _, _ => none

/-- `es.onmessage` refreshes: the data parses, and `event.type` is one of the two. -/
def onMessage (data : List Char) : Bool :=
  match parse data with
  | none => false
  | some v =>
    match v.get "type" with
    | some (.str type) => type = "new_alert" || type = "status_change"
    | _ => false

/-- The event of a message that `onmessage` is called with. -/
def messageEvent (m : StreamMessage) : Option Event :=
  if m.type = "message".toList then (parse m.data).bind readEvent else none

/-- The events in what a browser has received of a stream. -/
def receivedEvents (text : List Char) : List Event := (receive text).filterMap messageEvent

theorem ofName_eventType (t : EventType) : EventType.ofName t.name = some t := by
  cases t <;> decide

theorem ofName_severity (s : Severity) : Severity.ofName s.name = some s := by
  cases s <;> decide

theorem ofName_status (s : Status) : Status.ofName s.name = some s := by
  cases s <;> decide

/-- The fields of an event, in either order. -/
theorem get_eventValue (writer : EventWriter) (e : Event) :
    (eventValue e writer).get "type" = some (.str e.type.name) ∧
      (eventValue e writer).get "alert_id" = some (.int e.alertId) ∧
      (eventValue e writer).get "severity" = some (.str e.severity.name) ∧
      (eventValue e writer).get "status" = some (.str e.status.name) := by
  cases writer <;> exact ⟨rfl, rfl, rfl, rfl⟩

theorem parse_payload (writer : EventWriter) (e : Event) :
    parse (payload writer e) = some (eventValue e writer) := by
  cases writer <;> exact parse_write _

/-- **Both writers' texts are read as the event.** -/
theorem readEvent_payload (writer : EventWriter) (e : Event) : (parse (payload writer e)).bind readEvent = some e := by
  obtain ⟨htype, hid, hseverity, hstatus⟩ := get_eventValue writer e
  rw [parse_payload, Option.bind_some, readEvent, htype, hid, hseverity, hstatus]
  show (do some ⟨← EventType.ofName e.type.name, e.alertId, ← Severity.ofName e.severity.name,
    ← Status.ofName e.status.name⟩) = some e
  rw [ofName_eventType, ofName_severity, ofName_status]
  rfl

theorem onMessage_payload (writer : EventWriter) (e : Event) : onMessage (payload writer e) = true := by
  rw [onMessage, parse_payload]
  simp only [(get_eventValue writer e).1]
  cases e.type <;> decide

/-- A payload is one line. -/
theorem oneLine_payload (writer : EventWriter) (e : Event) : OneLine (payload writer e) := by
  have hprintable : Printable (payload writer e) := by
    cases writer <;> exact write_printable _
  intro c hc
  have hlow := hprintable c hc
  constructor
  · rintro rfl
    exact absurd hlow (by decide)
  · rintro rfl
    exact absurd hlow (by decide)

/-! ### What `/api/stream` sends -/

/-- The chunk of an event, `yield f"data: {...}"`. -/
def dataChunk (writer : EventWriter) (e : Event) : Chunk := .data (payload writer e)

/-- `yield ": keepalive"`. -/
def keepaliveChunk : Chunk := .comment " keepalive".toList

/-- The chunks carry the events, in order, with keepalives in between. -/
inductive Carries : List Chunk → List Event → Prop
  | nil : Carries [] []
  | data (writer : EventWriter) (e : Event) {cs : List Chunk} {es : List Event} (h : Carries cs es) :
      Carries (dataChunk writer e :: cs) (e :: es)
  | keepalive {cs : List Chunk} {es : List Event} (h : Carries cs es) : Carries (keepaliveChunk :: cs) es

theorem Carries.append {cs cs' : List Chunk} {es es' : List Event} (h : Carries cs es) (h' : Carries cs' es') :
    Carries (cs ++ cs') (es ++ es') := by
  induction h with
  | nil => exact h'
  | data writer e _ ih => exact .data writer e ih
  | keepalive _ ih => exact .keepalive ih

theorem Carries.oneLine {cs : List Chunk} {es : List Event} (h : Carries cs es) : ∀ x ∈ cs, OneLine x.line := by
  have hkeepalive : OneLine keepaliveChunk.line := OneLine.comment fun c hc => by
    have hmem : c ∈ [' ', 'k', 'e', 'e', 'p', 'a', 'l', 'i', 'v', 'e'] := hc
    simp only [List.mem_cons, List.not_mem_nil, or_false] at hmem
    rcases hmem with rfl | rfl | rfl | rfl | rfl | rfl | rfl | rfl | rfl | rfl <;> decide
  induction h with
  | nil => exact fun x hx => absurd hx List.not_mem_nil
  | data writer e _ ih =>
    intro x hx
    rcases List.mem_cons.mp hx with rfl | hx
    · exact (oneLine_payload writer e).data
    · exact ih x hx
  | keepalive _ ih =>
    intro x hx
    rcases List.mem_cons.mp hx with rfl | hx
    · exact hkeepalive
    · exact ih x hx

/-- The messages of the chunks are the events. -/
theorem Carries.messages {cs : List Chunk} {es : List Event} (h : Carries cs es) :
    (cs.filterMap Chunk.message).map messageEvent = es.map some := by
  induction h with
  | nil => rfl
  | data writer e _ ih =>
    have hevent : messageEvent ⟨"message".toList, payload writer e⟩ = some e :=
      (if_pos rfl).trans (readEvent_payload writer e)
    rw [List.filterMap_cons, dataChunk, message_data, List.map_cons, hevent, ih, List.map_cons]
  | keepalive _ ih => exact ih

/-- An event that is read refreshes. -/
theorem onMessage_of_messageEvent {m : StreamMessage} {e : Event} (h : messageEvent m = some e) :
    onMessage m.data = true := by
  unfold messageEvent at h
  split_ifs at h
  obtain ⟨v, hv, h⟩ := Option.bind_eq_some_iff.mp h
  unfold readEvent at h
  split at h
  · rename_i type id severity status htype _ _ _
    obtain ⟨t, ht, -⟩ := Option.bind_eq_some_iff.mp h
    obtain rfl : t.name = type := of_decide_eq_true (List.find?_some (p := fun t : EventType => t.name = type) ht)
    simp only [onMessage, hv, htype]
    cases t <;> decide
  · cases h

/-- What is mapped to `some` is what is kept. -/
theorem filterMap_of_map_some {α β : Type} {f : α → Option β} {l : List α} {ys : List β}
    (h : l.map f = ys.map some) : l.filterMap f = ys := by
  have hid := congrArg (List.filterMap id) h
  rwa [List.filterMap_map, List.filterMap_map, Function.id_comp, Function.id_comp, List.filterMap_some] at hid

/-- **What a browser has received** of a text that carries events: an initial part
of them, all of them in the end, and every message refreshes. -/
theorem received_wire {cs : List Chunk} {es : List Event} (h : Carries cs es) (n : ℕ) :
    receivedEvents ((cs.flatMap Chunk.text).take n) <+: es ∧ receivedEvents (cs.flatMap Chunk.text) = es ∧
      ∀ m ∈ receive ((cs.flatMap Chunk.text).take n), onMessage m.data = true := by
  have hall := receive_chunks h.oneLine
  have hpart := receive_prefix (List.take_prefix n (cs.flatMap Chunk.text))
  have hevents : receivedEvents (cs.flatMap Chunk.text) = es := by
    rw [receivedEvents, hall]
    exact filterMap_of_map_some h.messages
  refine ⟨?_, hevents, ?_⟩
  · rw [← hevents]
    exact hpart.filterMap _
  · intro m hm
    have hmem : messageEvent m ∈ (cs.filterMap Chunk.message).map messageEvent :=
      List.mem_map_of_mem (hall ▸ hpart.subset hm)
    rw [h.messages] at hmem
    obtain ⟨e, -, he⟩ := List.mem_map.mp hmem
    exact onMessage_of_messageEvent he.symm

/-! ### The streams of one process -/

/-- What a step makes a stream send. -/
def sent (h : Hub) (s : ℕ) (op : StreamOp) : List Chunk :=
  match op with
  | .yieldData t => if t = s then (h.stream s).state.held.map (dataChunk .flask) else []
  | .keepalive t =>
    if t = s ∧ (h.stream s).state = .getting ∧ (h.stream s).queue.items = [] then [keepaliveChunk] else []
  | _ => []

/-- What a stream sends in a run. -/
def chunks (s : ℕ) : Hub → List StreamOp → List Chunk
  | _, [] => []
  | h, op :: ops => sent h s op ++ chunks s (streamStep h op) ops

section Streams

variable {h : Hub} {s : ℕ}

/-- A stream that was not started has yielded nothing. -/
def Unstarted (h : Hub) : Prop := ∀ s, (h.stream s).state = .created → (h.stream s).yielded = []

/-- What a step makes of a stream: it sends what it yields. -/
structure Sends (st st' : SseStream) (cs : List Chunk) : Prop where
  carries : ∃ es, Carries cs es ∧ st'.yielded = st.yielded ++ es
  unstarted : st'.state = .created → st.state = .created ∧ cs = []

theorem Sends.refl (st : SseStream) : Sends st st [] :=
  ⟨⟨[], .nil, (List.append_nil _).symm⟩, fun h => ⟨h, rfl⟩⟩

/-- A stream that yields nothing and is started. -/
theorem Sends.silent {st st' : SseStream} (hy : st'.yielded = st.yielded) (hs : st'.state = .created → st.state = .created) :
    Sends st st' [] :=
  ⟨⟨[], .nil, by rw [hy, List.append_nil]⟩, fun h => ⟨hs h, rfl⟩⟩

theorem sends_setStream {t : ℕ} {st : SseStream} {cs : List Chunk} (hself : t = s → Sends (h.stream s) st cs)
    (hother : t ≠ s → cs = []) : Sends (h.stream s) ((h.setStream t st).stream s) cs := by
  by_cases hts : t = s
  · subst hts
    rw [setStream_self]
    exact hself rfl
  · rw [setStream_of_ne (Ne.symm hts), hother hts]
    exact .refl _

theorem sends_offer (event : Event) (next : ℕ) (dead : List ℕ) (t : ℕ) :
    Sends (h.stream s) ((h.offer event next dead t).stream s) [] := by
  unfold Hub.offer
  split
  · exact sends_setStream (h := { h with publisher := _ }) (fun hts => by subst hts; exact .silent rfl id) fun _ => rfl
  · exact .refl _

theorem sends_broadcast : Sends (h.stream s) (h.broadcast.stream s) [] := by
  unfold Hub.broadcast
  split
  · exact .refl _
  · split
    · exact sends_offer _ _ _ _
    · exact .refl _
  · exact .refl _
  · unfold Hub.remove
    split <;> exact .refl _

/-- A stream that moves on by itself and yields nothing. -/
theorem sends_own {t : ℕ} {f : SseStream → SseStream} (hy : ∀ st, (f st).yielded = st.yielded)
    (hs : ∀ st, (f st).state = .created → st.state = .created) :
    Sends (h.stream s) ((h.setStream t (f (h.stream t))).stream s) [] :=
  sends_setStream (fun hts => by subst hts; exact .silent (hy _) (hs _)) fun _ => rfl

theorem sends_yieldData (t : ℕ) :
    Sends (h.stream s) ((h.setStream t (h.stream t).yieldData).stream s) (sent h s (.yieldData t)) := by
  refine sends_setStream (fun hts => ?_) fun hts => if_neg hts
  subst hts
  rw [sent, if_pos rfl]
  unfold SseStream.yieldData
  cases hstate : (h.stream t).state with
  | got event => exact ⟨⟨[event], .data .flask event .nil, rfl⟩, fun hc => by cases hc⟩
  | _ => exact .refl _

theorem sends_keepalive (t : ℕ) :
    Sends (h.stream s) ((h.setStream t (h.stream t).keepalive).stream s) (sent h s (.keepalive t)) := by
  refine sends_setStream (fun hts => ?_) fun hts => if_neg fun hall => hts hall.1
  subst hts
  rw [sent]
  unfold SseStream.keepalive
  by_cases hk : (h.stream t).state = .getting ∧ (h.stream t).queue.items = []
  · rw [if_pos hk, if_pos ⟨rfl, hk⟩]
    exact ⟨⟨[], .keepalive .nil, (List.append_nil _).symm⟩, fun hc => by cases hc⟩
  · rw [if_neg hk, if_neg fun hall => hk hall.2]
    exact .refl _

/-- **Every step sends what the stream yields in it.** -/
theorem sends_step (hu : Unstarted h) (op : StreamOp) : Sends (h.stream s) ((streamStep h op).stream s) (sent h s op) := by
  have hleave : ∀ (next : GeneratorState), next ≠ .created → ∀ st : SseStream,
      (st.leave next).yielded = st.yielded ∧ ((st.leave next).state = .created → st.state = .created) := by
    intro next hnext st
    unfold SseStream.leave
    split
    · exact ⟨rfl, fun hc => absurd hc hnext⟩
    · exact ⟨rfl, id⟩
  cases op with
  | subscribe t =>
    show Sends (h.stream s) ((h.sseSubscribe t).stream s) []
    unfold Hub.sseSubscribe
    split
    · rename_i hk
      refine sends_setStream (h := { h with subscribers := _ }) (fun hts => ?_) fun _ => rfl
      subst hts
      exact .silent (hu t hk.2).symm fun hc => by cases hc
    · exact .refl _
  | get t =>
    refine sends_own (fun st => ?_) fun st => ?_
    · unfold SseStream.get
      split <;> rfl
    · unfold SseStream.get
      split
      · exact fun hc => by cases hc
      · exact id
  | yieldData t => exact sends_yieldData t
  | keepalive t => exact sends_keepalive t
  | resume t => exact sends_own (fun st => (hleave .getting (by decide) st).1) fun st => (hleave .getting (by decide) st).2
  | close t => exact sends_own (fun st => (hleave .closing (by decide) st).1) fun st => (hleave .closing (by decide) st).2
  | unsubscribe t =>
    show Sends (h.stream s) ((h.sseUnsubscribe t).stream s) []
    unfold Hub.sseUnsubscribe
    split
    · refine sends_setStream (h := { h with subscribers := _ }) (fun hts => ?_) fun _ => rfl
      subst hts
      exact .silent rfl fun hc => by cases hc
    · exact .refl _
  | publish event =>
    show Sends (h.stream s) ((h.publish event).stream s) []
    unfold Hub.publish
    split <;> exact .refl _
  | broadcast => exact sends_broadcast

theorem unstarted_step (hu : Unstarted h) (op : StreamOp) : Unstarted (streamStep h op) := by
  intro s hs
  have hsends := sends_step (s := s) hu op
  obtain ⟨hcreated, hcs⟩ := hsends.unstarted hs
  obtain ⟨es, hes, hy⟩ := hsends.carries
  rw [hcs] at hes
  cases hes
  rw [hy, hu s hcreated, List.append_nil]

/-- **In a run a stream sends the events it yields**, in order. -/
theorem chunks_carry (s : ℕ) : ∀ (ops : List StreamOp) (h : Hub), Unstarted h →
    ∃ es, Carries (chunks s h ops) es ∧
      ((Runs.run streamStep h ops).stream s).yielded = (h.stream s).yielded ++ es
  | [], h, _ => ⟨[], .nil, (List.append_nil _).symm⟩
  | op :: ops, h, hu => by
    obtain ⟨es, hes, hy⟩ := (sends_step (s := s) hu op).carries
    obtain ⟨es', hes', hy'⟩ := chunks_carry s ops _ (unstarted_step hu op)
    refine ⟨es ++ es', hes.append hes', ?_⟩
    rw [Runs.run_cons, hy', hy, List.append_assoc]

end Streams

/-- The stream is registered and nothing is under way to it: no broadcast, and its queue is empty. -/
structure Settled (h : Hub) (s : ℕ) : Prop where
  free : h.publisher = none
  subscribed : s ∈ h.subscribers
  held : (h.stream s).state.held = []
  queue : (h.stream s).queue.items = []

/-- **Events reach the browser.** Of what a stream sends in a run, a browser that
has received the first `n` characters has read the events published since the
stream was registered, up to some point, each once and in order, and refreshed
for each of them; when it has received everything, and the stream is registered
still and nothing is under way to it, it has read all of them. -/
theorem streams_received (ops : List StreamOp) (s n : ℕ) :
    let h := Runs.run streamStep Hub.start ops
    let text := (chunks s Hub.start ops).flatMap Chunk.text
    receivedEvents (text.take n) <+: h.published.drop (h.stream s).since ∧
      (∀ m ∈ receive (text.take n), onMessage m.data = true) ∧
      (Settled h s → receivedEvents text = h.published.drop (h.stream s).since) := by
  have hi := inv_run ops
  obtain ⟨es, hes, hy⟩ := chunks_carry s ops Hub.start fun _ _ => rfl
  have hyielded : ((Runs.run streamStep Hub.start ops).stream s).yielded = es := hy
  obtain ⟨hpart, hall, hrefresh⟩ := received_wire hes n
  have horder : es <+: ((Runs.run streamStep Hub.start ops).stream s).received := by
    rw [SseStream.received, hyielded, List.append_assoc]
    exact List.prefix_append _ _
  refine ⟨hpart.trans (horder.trans (hi.stream s).received), hrefresh, fun hsettled => ?_⟩
  have hcomplete := hi.received_of_free hsettled.free hsettled.subscribed
  rw [SseStream.received, hsettled.held, hsettled.queue, List.append_nil, List.append_nil, hyielded] at hcomplete
  rw [hall, hcomplete]

end SocDashboard
