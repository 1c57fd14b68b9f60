/-
# One broadcast is one publish

The handlers publish an event in one go (`ssePublish`), the streams see a
broadcast step by step (`streamStep`). When no other step comes in between, the
two do the same to the subscribers: every queue with room gets the event, and
the full ones are removed (`broadcast_ssePublish`).

Key definitions: `Hub.queues`, `SseStream.offered`, `uninterrupted`.
Key theorems: `run_offering`, `run_removing`, `broadcast_ssePublish`.
-/
import SocDashboard.Streams

namespace SocDashboard

/-- The queues of the subscribers, as `ssePublish` has them. -/
def Hub.queues (h : Hub) : List SseQueue := h.subscribers.map fun s => (h.stream s).queue

/-- The stream after its queue was offered the event. -/
def SseStream.offered (event : Event) (st : SseStream) : SseStream :=
  { st with queue := (st.queue.putNowait event).getD st.queue }

/-- The queue of the stream is full. -/
def SseStream.full (event : Event) (st : SseStream) : Bool := (st.queue.putNowait event).isNone

theorem offered_id (event : Event) (st : SseStream) : (st.offered event).queue.id = st.queue.id := by
  cases hput : st.queue.putNowait event with
  | none => simp [SseStream.offered, hput]
  | some queue => simp [SseStream.offered, hput, putNowait_id hput]

section Offering

variable {h : Hub} {event : Event}

theorem offer_fields (h : Hub) (event : Event) (next : ℕ) (dead : List ℕ) (s : ℕ) :
    (h.offer event next dead s).subscribers = h.subscribers ∧
      (h.offer event next dead s).publisher =
        some (.offering event (next + 1) (dead ++ if (h.stream s).full event then [s] else [])) ∧
      (h.offer event next dead s).stream = Function.update h.stream s ((h.stream s).offered event) := by
  unfold Hub.offer
  split
  · rename_i queue hput
    refine ⟨rfl, ?_, ?_⟩
    · simp [Hub.setStream, SseStream.full, hput]
    · simp [Hub.setStream, SseStream.offered, hput]
  · rename_i hput
    refine ⟨rfl, ?_, ?_⟩
    · simp [SseStream.full, hput]
    · simp [SseStream.offered, hput]

/-- The loop over the rest of the subscribers: each is offered the event once. -/
theorem run_offering : ∀ (rest : List ℕ) {h : Hub} {next : ℕ} {dead : List ℕ},
    h.publisher = some (.offering event next dead) → h.subscribers.drop next = rest → rest.Nodup →
    ∃ h', Runs.run streamStep h (List.replicate (rest.length + 1) .broadcast) = h' ∧
      h'.subscribers = h.subscribers ∧
      h'.publisher = some (.removing (dead ++ rest.filter fun s => (h.stream s).full event)) ∧
      ∀ s, h'.stream s = if s ∈ rest then (h.stream s).offered event else h.stream s
  | [], h, next, dead, hpub, hdrop, _ => by
    have hend : h.subscribers[next]? = none :=
      List.getElem?_eq_none_iff.mpr (List.drop_eq_nil_iff.mp hdrop)
    refine ⟨_, rfl, ?_⟩
    show (streamStep h .broadcast).subscribers = _ ∧ (streamStep h .broadcast).publisher = _ ∧
      ∀ s, (streamStep h .broadcast).stream s = _
    rw [streamStep, Hub.broadcast, hpub]
    simp [hend]
  | s :: rest, h, next, dead, hpub, hdrop, hnodup => by
    obtain ⟨hs, hrest⟩ := List.nodup_cons.mp hnodup
    have hnext : h.subscribers[next]? = some s := by
      rw [← List.head?_drop, hdrop]
      rfl
    have hstep : streamStep h .broadcast = h.offer event next dead s := by
      rw [streamStep, Hub.broadcast, hpub]
      simp only [hnext]
    obtain ⟨hsub, hpub', hstream⟩ := offer_fields h event next dead s
    have hdrop' : (h.offer event next dead s).subscribers.drop (next + 1) = rest := by
      rw [hsub, ← List.tail_drop, hdrop]
      rfl
    obtain ⟨h', hrun, hsub', hpublisher, hstream'⟩ := run_offering rest hpub' hdrop' hrest
    have hother : ∀ t, t ≠ s → (h.offer event next dead s).stream t = h.stream t := by
      intro t ht
      rw [hstream, Function.update_of_ne ht]
    refine ⟨h', ?_, hsub'.trans hsub, ?_, fun t => ?_⟩
    · rw [List.length_cons, List.replicate_succ, Runs.run_cons, hstep]
      exact hrun
    · have hfilter : rest.filter (fun t => ((h.offer event next dead s).stream t).full event) =
          rest.filter fun t => (h.stream t).full event :=
        List.filter_congr fun t ht => by rw [hother t fun he => hs (he ▸ ht)]
      rw [hpublisher, hfilter, List.filter_cons, List.append_assoc]
      split_ifs <;> rfl
    · rw [hstream' t]
      by_cases ht : t = s
      · rw [ht, if_neg hs, if_pos List.mem_cons_self, hstream, Function.update_self]
      · rw [hother t ht]
        simp [ht]

end Offering

section Removing

variable {h : Hub}

theorem removeQueue_queues (hid : ∀ s, (h.stream s).queue.id = s) {s : ℕ} (hs : s ∈ h.subscribers) :
    removeQueue s h.queues = .ok ((h.subscribers.erase s).map fun t => (h.stream t).queue) := by
  have hany : (h.queues.any fun q => q.id = s) = true := by
    rw [List.any_eq_true]
    exact ⟨(h.stream s).queue, List.mem_map_of_mem hs, by simpa using hid s⟩
  have hp : ((fun q : SseQueue => decide (q.id = s)) ∘ fun t => (h.stream t).queue) =
      fun t => s == t := by
    funext t
    simp [hid t, Bool.beq_eq_decide_eq, eq_comm]
  rw [removeQueue, if_pos hany, Hub.queues, List.eraseP_map, hp, ← List.erase_eq_eraseP]

/-- The loop over the full queues. -/
theorem run_removing : ∀ (dead : List ℕ) {h : Hub}, h.publisher = some (.removing dead) →
    (∀ s, (h.stream s).queue.id = s) → dead.Nodup → (∀ s ∈ dead, s ∈ h.subscribers) →
    ∃ h', Runs.run streamStep h (List.replicate (dead.length + 1) .broadcast) = h' ∧
      h'.publisher = none ∧ removeAll dead h.queues = .ok h'.queues
  | [], h, hpub, _, _, _ => by
    refine ⟨_, rfl, ?_⟩
    show (streamStep h .broadcast).publisher = _ ∧ _ = Except.ok (streamStep h .broadcast).queues
    rw [streamStep, Hub.broadcast, hpub]
    exact ⟨rfl, rfl⟩
  | s :: dead, h, hpub, hid, hnodup, hsub => by
    obtain ⟨hs, hdead⟩ := List.nodup_cons.mp hnodup
    have hlisted := hsub s List.mem_cons_self
    have hstep : streamStep h .broadcast =
        { h with subscribers := h.subscribers.erase s, publisher := some (.removing dead) } := by
      rw [streamStep, Hub.broadcast, hpub]
      simp only [Hub.remove, if_pos hlisted]
    have hsub' : ∀ t ∈ dead, t ∈ h.subscribers.erase s := by
      intro t ht
      have hts : t ≠ s := fun he => hs (he ▸ ht)
      exact (List.mem_erase_of_ne hts).mpr (hsub t (List.mem_cons_of_mem s ht))
    obtain ⟨h', hrun, hfree, hremove⟩ := run_removing dead
      (h := { h with subscribers := h.subscribers.erase s, publisher := some (.removing dead) })
      rfl hid hdead hsub'
    refine ⟨h', ?_, hfree, ?_⟩
    · rw [List.length_cons, List.replicate_succ, Runs.run_cons, hstep]
      exact hrun
    · rw [removeAll, removeQueue_queues hid hlisted]
      exact hremove

end Removing

/-- The steps of a publisher that nobody interrupts. -/
def uninterrupted (event : Event) (n : ℕ) : List StreamOp :=
  .publish event :: List.replicate n .broadcast

/-- **A broadcast without interruption is one `ssePublish`.** -/
theorem broadcast_ssePublish {env : Env} (henv : env.redis = false) (a : Ambient) (event : Event)
    {h : Hub} (hi : Inv h) (hfree : h.publisher = none) {w : World} (hw : w.sseSubscribers = h.queues) :
    ∃ n h', Runs.run streamStep h (uninterrupted event n) = h' ∧ h'.publisher = none ∧
      ssePublish env a event w = (.ok (), { w with sseSubscribers := h'.queues }) := by
  have hid : ∀ s, (h.stream s).queue.id = s := fun s => (hi.stream s).id
  have hpublish : streamStep h (.publish event) =
      { h with publisher := some (.offering event 0 []), published := h.published ++ [event] } := by
    rw [streamStep, Hub.publish, if_pos hfree]
  obtain ⟨h₁, hrun₁, hsub₁, hpub₁, hstream₁⟩ := run_offering h.subscribers
    (h := { h with publisher := some (.offering event 0 []), published := h.published ++ [event] })
    rfl rfl hi.nodup
  have hqueue : ∀ s ∈ h.subscribers, (h₁.stream s).queue = ((h.stream s).offered event).queue := by
    intro s hs
    rw [hstream₁ s, if_pos hs]
  have hid₁ : ∀ s, (h₁.stream s).queue.id = s := by
    intro s
    rw [hstream₁ s]
    split_ifs
    · exact (offered_id event _).trans (hid s)
    · exact hid s
  have hdead : dead event h.queues = h.subscribers.filter fun s => (h.stream s).full event := by
    rw [dead, Hub.queues, List.filter_map, List.map_map]
    refine (List.map_congr_left fun s _ => hid s).trans (List.map_id _)
  have hqueues : offerAll event h.queues = h₁.queues := by
    rw [offerAll, Hub.queues, Hub.queues, hsub₁, List.map_map]
    exact List.map_congr_left fun s hs => (hqueue s hs).symm
  have hpub : h₁.publisher = some (.removing (dead event h.queues)) := by
    rw [hdead]
    exact hpub₁
  have hnodup : (dead event h.queues).Nodup := hdead ▸ hi.nodup.filter _
  have hlisted : ∀ s ∈ dead event h.queues, s ∈ h₁.subscribers := by
    intro s hs
    rw [hdead] at hs
    rw [hsub₁]
    exact List.mem_of_mem_filter hs
  obtain ⟨h₂, hrun₂, hfree₂, hremove⟩ := run_removing _ hpub hid₁ hnodup hlisted
  refine ⟨(h.subscribers.length + 1) + ((dead event h.queues).length + 1), h₂, ?_, hfree₂, ?_⟩
  · rw [uninterrupted, Runs.run_cons, hpublish, List.replicate_add, Runs.run_append, hrun₁, hrun₂]
  · simp [ssePublish, henv, Exec.bind_apply, hw, hqueues, hremove]

end SocDashboard
