/-
# A live stream stays subscribed, if it reads

A publisher that finds a queue full takes it off the list. Its stream is not
told: the generator empties the queue and then sends keepalives for as long as
the client stays. So every live stream is subscribed in every state of a run
exactly when no publisher finds a queue full (`attached_iff`), and a client that
does not read for 101 events is lost (`slowClient_detached`).

Key definitions: `Attached`, `Hub.meetsFull`, `FindsRoom`.
Key theorems: `step_room`, `dead_stays`, `attached_iff`.
-/
import SocDashboard.Streams

namespace SocDashboard

/-- Every live stream is subscribed. -/
def Attached (h : Hub) : Prop := ∀ s, (h.stream s).state.live = true → s ∈ h.subscribers

/-- The next `put_nowait` of the publisher that holds the lock meets a full queue. -/
def Hub.meetsFull (h : Hub) : Bool :=
  match h.publisher with
  | some (.offering event next _) =>
    match h.subscribers[next]? with
    | some s => ((h.stream s).queue.putNowait event).isNone
    | none => false
  | _ => false

/-- A step that does not find a queue full. -/
def FindsRoom (h : Hub) (op : StreamOp) : Prop := op = .broadcast → h.meetsFull = false

section Attached

variable {h : Hub} {op : StreamOp}

/-- Outside a broadcast the full queues stay those they were. -/
theorem dead_quiet (hop : op ≠ .broadcast) : (streamStep h op).dead = h.dead := by
  cases op with
  | broadcast => exact absurd rfl hop
  | subscribe s =>
    rw [streamStep, Hub.sseSubscribe]
    split_ifs <;> rfl
  | unsubscribe s =>
    rw [streamStep, Hub.sseUnsubscribe]
    split_ifs <;> rfl
  | publish event =>
    rw [streamStep, Hub.publish]
    split_ifs with hfree
    · exact (dead_of_free hfree).symm
    · rfl
  | _ => rfl

theorem Attached.setStream {s : ℕ} {st : SseStream} (ha : Attached h)
    (hlive : st.state.live = (h.stream s).state.live) : Attached (h.setStream s st) :=
  forall_setStream (P := fun t st => st.state.live = true → t ∈ h.subscribers)
    (fun hs => ha s (hlive ▸ hs)) fun t _ => ha t

/-- Outside a broadcast no live stream is removed. -/
theorem attached_quiet (hop : op ≠ .broadcast) (ha : Attached h) : Attached (streamStep h op) := by
  cases op with
  | broadcast => exact absurd rfl hop
  | get s => exact ha.setStream (ownMove_get _).live
  | yieldData s => exact ha.setStream (ownMove_yieldData _).live
  | keepalive s => exact ha.setStream (ownMove_keepalive _).live
  | resume s => exact ha.setStream (ownMove_leave rfl rfl _).live
  | close s => exact ha.setStream (ownMove_leave rfl rfl _).live
  | subscribe s =>
    rw [streamStep, Hub.sseSubscribe]
    split_ifs
    · exact forall_setStream (P := fun t st => st.state.live = true → t ∈ h.subscribers ++ [s])
        (fun _ => List.mem_append_right _ List.mem_cons_self)
        fun t _ hlive => List.mem_append_left [s] (ha t hlive)
    · exact ha
  | unsubscribe s =>
    rw [streamStep, Hub.sseUnsubscribe, ite_erase]
    split_ifs
    · refine forall_setStream (P := fun t st => st.state.live = true → t ∈ h.subscribers.erase s) ?_ ?_
      · intro hlive
        exact absurd hlive Bool.false_ne_true
      · intro t hts hlive
        exact (List.mem_erase_of_ne hts).mpr (ha t hlive)
    · exact ha
  | publish event =>
    rw [streamStep, Hub.publish]
    split_ifs
    · exact ha
    · exact ha

/-- A broadcast that finds room leaves every live stream subscribed. -/
theorem broadcast_room (hroom : h.meetsFull = false) (hdead : h.dead = []) :
    h.broadcast.dead = [] ∧ (Attached h → Attached h.broadcast) := by
  unfold Hub.broadcast
  split
  · exact ⟨hdead, id⟩
  · rename_i event next dead hpub
    rw [Hub.dead, hpub] at hdead
    split
    · rename_i s hnext
      unfold Hub.offer
      split
      · exact ⟨hdead, fun ha => ha.setStream rfl⟩
      · rename_i hfull
        rw [Hub.meetsFull, hpub] at hroom
        simp only [hnext, hfull] at hroom
        exact absurd hroom (by decide)
    · exact ⟨hdead, id⟩
  · exact ⟨rfl, id⟩
  · rename_i s dead hpub
    rw [Hub.dead, hpub] at hdead
    exact absurd hdead (List.cons_ne_nil s dead)

theorem broadcast_full (hfull : h.meetsFull = true) : h.broadcast.dead ≠ [] := by
  unfold Hub.meetsFull at hfull
  split at hfull
  · rename_i event next dead hpub
    split at hfull
    · rename_i s hnext
      rw [Option.isNone_iff_eq_none] at hfull
      unfold Hub.broadcast Hub.offer
      simp only [hpub, hnext, hfull]
      simp [Hub.dead]
    · exact absurd hfull (by decide)
  · exact absurd hfull (by decide)

theorem step_room (hroom : FindsRoom h op) (hdead : h.dead = []) :
    (streamStep h op).dead = [] ∧ (Attached h → Attached (streamStep h op)) := by
  by_cases hop : op = .broadcast
  · rw [hop]
    exact broadcast_room (hroom hop) hdead
  · exact ⟨(dead_quiet hop).trans hdead, attached_quiet hop⟩

/-- A queue that was found full stays marked, or a live stream loses its place. -/
theorem dead_stays (hi : Inv h) (hdead : h.dead ≠ []) (ha : Attached (streamStep h op)) :
    (streamStep h op).dead ≠ [] := by
  by_cases hop : op = .broadcast
  · rw [hop, streamStep] at ha ⊢
    unfold Hub.broadcast at ha ⊢
    split
    · exact hdead
    · rename_i event next dead hpub
      rw [Hub.dead, hpub] at hdead
      split
      · unfold Hub.offer
        split
        · exact hdead
        · simp [Hub.dead]
      · exact hdead
    · rename_i hpub
      rw [Hub.dead, hpub] at hdead
      exact absurd rfl hdead
    · rename_i s dead hpub
      have hlisted : s ∈ h.subscribers := by
        have hoffered := hi.dead_offered s (by rw [Hub.dead, hpub]; exact List.mem_cons_self)
        rwa [Hub.offered, hpub] at hoffered
      simp only [hpub, Hub.remove, if_pos hlisted] at ha
      exact absurd (ha s (hi.live s hlisted)) hi.nodup.not_mem_erase
  · rw [dead_quiet hop]
    exact hdead

/-- While every live stream keeps its place, the publisher that found a queue full
holds the lock. -/
theorem holds_of_dead : ∀ (ops : List StreamOp) {h : Hub}, Inv h → h.dead ≠ [] →
    Runs.Always streamStep Attached h ops → (Runs.run streamStep h ops).publisher ≠ none
  | [], _, _, hdead, _ => fun hfree => hdead (dead_of_free hfree)
  | op :: ops, h, hi, hdead, ha =>
    holds_of_dead ops (inv_step h op hi) (dead_stays hi hdead ha.2.head) ha.2

theorem attached_of_room : ∀ (ops : List StreamOp) {h : Hub}, h.dead = [] → Attached h →
    Runs.EachStep streamStep FindsRoom h ops → Runs.Always streamStep Attached h ops
  | [], _, _, ha, _ => ha
  | op :: ops, h, hdead, ha, hroom => by
    obtain ⟨hdead', ha'⟩ := step_room hroom.1 hdead
    exact ⟨ha, attached_of_room ops hdead' (ha' ha) hroom.2⟩

theorem room_of_attached : ∀ (ops : List StreamOp) {h : Hub}, Inv h → h.dead = [] →
    Runs.Always streamStep Attached h ops → (Runs.run streamStep h ops).publisher = none →
    Runs.EachStep streamStep FindsRoom h ops
  | [], _, _, _, _, _ => trivial
  | op :: ops, h, hi, hdead, ha, hfree => by
    by_cases hroom : FindsRoom h op
    · exact ⟨hroom, room_of_attached ops (inv_step h op hi) (step_room hroom hdead).1 ha.2 hfree⟩
    · rw [FindsRoom, Classical.not_imp, Bool.not_eq_false] at hroom
      have hmarked : (streamStep h op).dead ≠ [] := by
        rw [hroom.1]
        exact broadcast_full hroom.2
      exact absurd hfree (holds_of_dead ops (inv_step h op hi) hmarked ha.2)

end Attached

/-- **A live stream stays subscribed exactly as long as no queue is found full.**
The converse is about runs whose last broadcast is through. -/
theorem attached_iff (ops : List StreamOp) :
    (Runs.EachStep streamStep FindsRoom Hub.start ops → Runs.Always streamStep Attached Hub.start ops) ∧
      ((Runs.run streamStep Hub.start ops).publisher = none →
        Runs.Always streamStep Attached Hub.start ops →
          Runs.EachStep streamStep FindsRoom Hub.start ops) := by
  have hstart : Attached Hub.start := fun s hs => absurd hs Bool.false_ne_true
  constructor
  · exact attached_of_room ops rfl hstart
  · intro hfree ha
    exact room_of_attached ops inv_start rfl ha hfree

section Example

def exampleEvent : Event := ⟨.newAlert, 1, .high, .open_⟩

/-- One broadcast, to a single subscriber. -/
def oneBroadcast : List StreamOp := .publish exampleEvent :: List.replicate 4 .broadcast

/-- A client that reads a keepalive and then nothing for 101 events. -/
def slowClient : List StreamOp :=
  [.subscribe 0, .keepalive 0] ++ (List.replicate 101 oneBroadcast).flatten

/-- The hub when `n` events wait for the slow client. -/
def slowHub (n : ℕ) : Hub :=
  Hub.setStream ⟨[0], Hub.start.stream, none, List.replicate n exampleEvent, false⟩ 0
    ⟨.suspended, ⟨0, List.replicate n exampleEvent⟩, [], 0⟩

theorem slowHub_stream (n : ℕ) :
    (slowHub n).stream 0 = ⟨.suspended, ⟨0, List.replicate n exampleEvent⟩, [], 0⟩ := setStream_self

theorem run_oneBroadcast {n : ℕ} (hn : n < 100) :
    Runs.run streamStep (slowHub n) oneBroadcast = slowHub (n + 1) := by
  have hput : SseQueue.putNowait ⟨0, List.replicate n exampleEvent⟩ exampleEvent =
      some ⟨0, List.replicate (n + 1) exampleEvent⟩ := by
    rw [SseQueue.putNowait, if_pos (by rwa [List.length_replicate]), List.replicate_succ']
  simp [oneBroadcast, Runs.run, streamStep, Hub.publish, Hub.broadcast, Hub.offer, slowHub,
    Hub.setStream, hput, ← List.replicate_succ']

theorem run_broadcasts : ∀ {k n : ℕ}, n + k ≤ 100 →
    Runs.run streamStep (slowHub n) (List.replicate k oneBroadcast).flatten = slowHub (n + k)
  | 0, _, _ => rfl
  | k + 1, n, h => by
    rw [List.replicate_succ, List.flatten_cons, Runs.run_append, run_oneBroadcast (by omega),
      run_broadcasts (by omega)]
    congr 1
    omega

/-- The broadcast that finds the queue full. -/
theorem run_fullBroadcast {n : ℕ} (hn : 100 ≤ n) :
    Runs.run streamStep (slowHub n) oneBroadcast =
      { slowHub n with subscribers := [], published := List.replicate (n + 1) exampleEvent } := by
  have hput : SseQueue.putNowait ⟨0, List.replicate n exampleEvent⟩ exampleEvent = none := by
    rw [SseQueue.putNowait, if_neg (by rw [List.length_replicate]; omega)]
  simp [oneBroadcast, Runs.run, streamStep, Hub.publish, Hub.broadcast, Hub.offer, Hub.remove, slowHub,
    Hub.setStream, hput, ← List.replicate_succ']

/-- The stream of the slow client is alive and no longer subscribed. -/
theorem slowClient_detached : ¬Runs.Always streamStep Attached Hub.start slowClient := by
  intro h
  have hend := (Runs.always_iff streamStep slowClient Hub.start).mp h slowClient (List.prefix_refl _)
  have hrun : Runs.run streamStep Hub.start slowClient =
      Runs.run streamStep (slowHub 100) oneBroadcast := by
    have hopen : Runs.run streamStep Hub.start [.subscribe 0, .keepalive 0] = slowHub 0 := by
      simp [Runs.run, streamStep, Hub.sseSubscribe, SseStream.keepalive, Hub.start, Hub.setStream,
        slowHub]
    rw [slowClient, List.replicate_succ', List.flatten_append, Runs.run_append, Runs.run_append, hopen,
      run_broadcasts (by omega), List.flatten_singleton]
  rw [hrun, run_fullBroadcast le_rfl] at hend
  have hlive : ((slowHub 100).stream 0).state.live = true := by
    rw [slowHub_stream]
    rfl
  exact absurd (hend 0 hlive) List.not_mem_nil

end Example

end SocDashboard
