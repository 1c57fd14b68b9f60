/-
# Is the live queue up to date?

The whole loop: the handlers commit and publish, Redis pushes to the page's
stream, the browser parses what arrives and asks for the queue again, the
server reads the tables when it gets to that request, and the table is redrawn
when the reply comes; everything in any order, beside purges, other streams,
lost replies and the analyst's clicks. Only a handler is one step: none of the
others comes between its commit and its publish.

Once the connection holds, everything published has arrived and no request is
in flight, the queue shows what the server made of the tables at a moment since
which nothing was published. So every alert there is was the same then, unless
a broadcast failed behind its commit (`liveQueue_upToDate`); an alert that a
purge took since, of which nothing is published, may still be shown.

Key definitions: `LiveQueue`, `LiveOp`, `liveStep`, `Wired`, `LiveQueue.live`.
Key theorems: `wired_step`, `liveStep_live`, `liveQueue_upToDate`.
-/
import SocDashboard.Announcements
import SocDashboard.Lib.LiveView
import SocDashboard.QueueRefresh
import SocDashboard.RedisStreams

namespace SocDashboard

open EventStream LiveView

/-- `event.type` of a message's data, if that can be read. -/
def eventType (data : List Char) : Option String :=
  (JsonText.parse data).bind fun v =>
    match v.get "type" with
    | some (.str type) => some type
    | _ => none

/-- `es.onmessage`. -/
def Dashboard.onmessage (d : Dashboard) (midnight : String) (m : StreamMessage) : Dashboard :=
  if m.type = "message".toList then dashboardStep d (.trigger (.sse (eventType m.data)) midnight) else d

/-- Who publishes the event of a step. -/
def SystemOp.writer : SystemOp → EventWriter
  | .flask _ => .flask
  | .goIngest _ _ => .go

/-- The deployment, and one dashboard page with its stream. -/
structure LiveQueue where
  world : World
  hub : RedisHub
  /-- How many characters of the stream have arrived. -/
  arrived : ℕ
  page : Dashboard
  /-- What the server has answered, each with the place of its request. -/
  answered : List (ℕ × Reply)

inductive LiveOp
  | system (op : SystemOp)
  /-- At the streams; what is published comes from the steps of the system. -/
  | redis (op : RedisOp)
  /-- Up to `n` more characters of the stream arrive. -/
  | arrive (n : ℕ) (midnight : String)
  | page (op : DashboardOp)
  /-- The server reads the alerts for the request at `i`. -/
  | answer (i : ℕ) (plan : Plan)

section Steps

variable (site : Site) (env : Env) (svc : Service) (k : ℕ)

/-- What the page's stream, the one numbered `k`, has sent. -/
def LiveQueue.text (s : LiveQueue) : List Char := (s.hub.stream k).sent.flatMap Chunk.text

/-- The messages that have arrived. -/
def LiveQueue.messages (s : LiveQueue) : List StreamMessage := receive ((s.text k).take s.arrived)

/-- What a request is answered from the tables of the moment. -/
def readQueue (plan : Plan) (w : World) (r : AlertsRequest) : Reply :=
  .json (fetchPage r.queue env site.fromisoformat site.pg w.db plan r.args)

/-- The new events of the world are published. -/
def RedisHub.publishAll (h : RedisHub) (writer : EventWriter) (es : List Event) : RedisHub :=
  es.foldl (fun h e => h.publish writer e) h

def liveStep (s : LiveQueue) : LiveOp → LiveQueue
  | .system op =>
    let world := systemStep site env svc s.world op
    { s with
      world := world
      hub := s.hub.publishAll op.writer (world.published.drop s.world.published.length) }
  | .redis (.publish _ _) => s
  | .redis op => { s with hub := redisStep s.hub op }
  | .arrive n midnight =>
    let arrived := min (s.arrived + n) (s.text k).length
    let news := (receive ((s.text k).take arrived)).drop (s.messages k).length
    { s with arrived := arrived, page := news.foldl (fun d m => d.onmessage midnight m) s.page }
  | .page op => { s with page := dashboardStep s.page op }
  | .answer i plan =>
    match s.page.table.asked[i]? with
    | some r => { s with answered := s.answered ++ [(i, readQueue site env plan s.world r)] }
    | none => s

/-- The parts fit together: the channel has what the world published, and the page's stream has
subscribed. -/
structure Wired (s : LiveQueue) : Prop where
  store : StoreInv s.world.db
  streams : RedisInv s.hub
  channel : s.hub.channel.map Prod.snd = s.world.published
  subscribed : (s.hub.stream k).state ≠ .created
  arrived : s.arrived ≤ (s.text k).length

/-- The page as a client that follows the channel. -/
def LiveQueue.live (s : LiveQueue) : Live World AlertsRequest Reply (List Alert) :=
  ⟨s.world, (s.hub.stream k).since + (s.messages k).length, s.page.table, s.answered⟩

end Steps

section Replies

variable {site : Site} {env : Env} {svc : Service} {k : ℕ} {s : LiveQueue}

theorem liveStep_page (op : DashboardOp) :
    liveStep site env svc k s (.page op) = { s with page := dashboardStep s.page op } := rfl

theorem liveStep_answer {i : ℕ} {plan : Plan} {r : AlertsRequest} (h : s.page.table.asked[i]? = some r) :
    liveStep site env svc k s (.answer i plan) =
      { s with answered := s.answered ++ [(i, readQueue site env plan s.world r)] } := by
  rw [liveStep, h]

end Replies

/-! ### The stream under every step -/

section Stream

variable {k : ℕ}

/-- What a stream that has subscribed does: it stays with its place in the channel, and sends more. -/
structure Continues (st st' : PubSubStream) : Prop where
  subscribed : st'.state ≠ .created
  since : st'.since = st.since
  sent : st.sent <+: st'.sent

theorem Continues.of_sent {st st' : PubSubStream} (h : st'.state ≠ .created) (hsince : st'.since = st.since)
    (hsent : st'.sent = st.sent) : Continues st st' :=
  ⟨h, hsince, hsent ▸ List.prefix_refl _⟩

theorem continues_poll {st : PubSubStream} (h : st.state ≠ .created) : Continues st st.poll := by
  unfold PubSubStream.poll
  split
  · split
    · exact ⟨by simp, rfl, List.prefix_append _ _⟩
    · exact ⟨by simp, rfl, List.prefix_append _ _⟩
    · split
      · exact ⟨by simp, rfl, List.prefix_append _ _⟩
      · exact .of_sent (by simp) rfl rfl
  · exact .of_sent h rfl rfl

/-- An operation at one of the streams, seen from the page's. -/
theorem continues_change {h : RedisHub} {f : PubSubStream → PubSubStream} (s : ℕ)
    (hk : (h.stream k).state ≠ .created) (hf : Continues (h.stream k) (f (h.stream k))) :
    Continues (h.stream k) ((h.change s f).stream k) := by
  show Continues _ (Function.update h.stream s (f (h.stream s)) k)
  by_cases hks : k = s
  · subst hks
    rw [Function.update_self]
    exact hf
  · rw [Function.update_of_ne hks]
    exact .of_sent hk rfl rfl

theorem continues_redisStep {h : RedisHub} (op : RedisOp) (hk : (h.stream k).state ≠ .created) :
    Continues (h.stream k) ((redisStep h op).stream k) := by
  cases op with
  | subscribe s =>
    apply continues_change s hk
    rw [PubSubStream.subscribe, if_neg hk]
    exact .of_sent hk rfl rfl
  | refuse s =>
    apply continues_change s hk
    rw [PubSubStream.refuse, if_neg hk]
    exact .of_sent hk rfl rfl
  | publish writer event =>
    show Continues _ ((h.stream k).push _)
    unfold PubSubStream.push
    split
    · exact .of_sent hk rfl rfl
    · exact .of_sent hk rfl rfl
  | poll s => exact continues_change s hk (continues_poll hk)
  | resume s =>
    apply continues_change s hk
    unfold PubSubStream.resume
    split
    · exact .of_sent (by simp) rfl rfl
    · exact .of_sent hk rfl rfl
  | close s =>
    apply continues_change s hk
    unfold PubSubStream.close
    split
    · exact .of_sent (by simp) rfl rfl
    · exact .of_sent hk rfl rfl
  | broken s kept => exact continues_change s hk (.of_sent hk rfl rfl)

/-- Publishing waits in the connections; it sends nothing. -/
theorem publishAll_facts (writer : EventWriter) : ∀ (es : List Event) (h : RedisHub), RedisInv h →
    RedisInv (h.publishAll writer es) ∧
      (h.publishAll writer es).channel.map Prod.snd = h.channel.map Prod.snd ++ es ∧
      ((h.publishAll writer es).stream k).state = (h.stream k).state ∧
      ((h.publishAll writer es).stream k).since = (h.stream k).since ∧
      ((h.publishAll writer es).stream k).sent = (h.stream k).sent
  | [], h, hi => ⟨hi, (List.append_nil _).symm, rfl, rfl, rfl⟩
  | e :: es, h, hi => by
    have hpush : ∀ data, ((h.stream k).push data).state = (h.stream k).state ∧
        ((h.stream k).push data).since = (h.stream k).since ∧ ((h.stream k).push data).sent = (h.stream k).sent := by
      intro data
      unfold PubSubStream.push
      split
      · exact ⟨rfl, rfl, rfl⟩
      · exact ⟨rfl, rfl, rfl⟩
    obtain ⟨hstate, hsince, hsent⟩ := hpush (payload writer e)
    obtain ⟨hi', hchannel, hstate', hsince', hsent'⟩ :=
      publishAll_facts writer es (h.publish writer e) (redisInv_step h (.publish writer e) hi)
    refine ⟨hi', ?_, hstate'.trans hstate, hsince'.trans hsince, hsent'.trans hsent⟩
    refine hchannel.trans ?_
    simp [RedisHub.publish]

end Stream

/-! ### The parts stay together -/

section Wires

variable {site : Site} {env : Env} {svc : Service} {k : ℕ} {s : LiveQueue}

variable (site env svc) in
theorem published_grows (hr : env.redis = true) {w : World} (hi : StoreInv w.db) (op : SystemOp) :
    w.published <+: (systemStep site env svc w op).published := by
  obtain ⟨es, hann, -⟩ := systemStep_tells site svc hr hi op
  rw [hann.channel]
  exact List.prefix_append _ _

variable (site svc) in
theorem Wired.system (hr : env.redis = true) (hw : Wired k s) (op : SystemOp) :
    Wired k (liveStep site env svc k s (.system op)) ∧
      (liveStep site env svc k s (.system op)).messages k = s.messages k ∧
      ((liveStep site env svc k s (.system op)).hub.stream k).since = (s.hub.stream k).since := by
  obtain ⟨es, hes⟩ := published_grows site env svc hr hw.store op
  have hdrop : (systemStep site env svc s.world op).published.drop s.world.published.length = es := by
    rw [← hes, List.drop_left]
  have hhub : (liveStep site env svc k s (.system op)).hub = s.hub.publishAll op.writer es := by
    rw [← hdrop]
    rfl
  obtain ⟨hi, hchannel, hstate, hsince, hsent⟩ := publishAll_facts (k := k) op.writer es s.hub hw.streams
  have htext : (liveStep site env svc k s (.system op)).text k = s.text k := by
    rw [LiveQueue.text, LiveQueue.text, hhub, hsent]
  refine ⟨⟨hw.store.step (systemStep_does site env svc s.world op), ?_, ?_, ?_, ?_⟩, ?_, ?_⟩
  · rw [hhub]
    exact hi
  · rw [hhub, hchannel, hw.channel]
    exact hes
  · rw [hhub, hstate]
    exact hw.subscribed
  · rw [htext]
    exact hw.arrived
  · rw [LiveQueue.messages, LiveQueue.messages, htext]
    rfl
  · rw [hhub, hsince]

variable (site env svc) in
theorem Wired.redis (hw : Wired k s) {op : RedisOp} (hop : ∀ writer event, op ≠ .publish writer event) :
    liveStep site env svc k s (.redis op) = { s with hub := redisStep s.hub op } ∧
      Wired k { s with hub := redisStep s.hub op } ∧
      ({ s with hub := redisStep s.hub op } : LiveQueue).messages k = s.messages k ∧
      ((redisStep s.hub op).stream k).since = (s.hub.stream k).since := by
  have hc := continues_redisStep op hw.subscribed
  have htext : s.text k <+: ({ s with hub := redisStep s.hub op } : LiveQueue).text k := by
    obtain ⟨more, hmore⟩ := hc.sent
    refine ⟨more.flatMap Chunk.text, ?_⟩
    rw [LiveQueue.text, LiveQueue.text, ← List.flatMap_append, hmore]
  refine ⟨?_, ⟨hw.store, redisInv_step s.hub op hw.streams, ?_, hc.subscribed, hw.arrived.trans htext.length_le⟩, ?_,
    hc.since⟩
  · cases op with
    | publish writer event => exact absurd rfl (hop writer event)
    | _ => rfl
  · rw [← hw.channel]
    cases op with
    | publish writer event => exact absurd rfl (hop writer event)
    | _ => rfl
  · -- what has arrived was there before
    obtain ⟨more, hmore⟩ := htext
    rw [LiveQueue.messages, LiveQueue.messages, ← hmore, List.take_append_of_le_length hw.arrived]

/-- The messages of a text that carries events are as many, and each is one of them. -/
theorem messages_carried {cs : List Chunk} {es : List Event} (h : Carries cs es) (n : ℕ) :
    (receive ((cs.flatMap Chunk.text).take n)).length ≤ es.length ∧
      (∀ m ∈ receive ((cs.flatMap Chunk.text).take n), ∃ e, messageEvent m = some e) ∧
      (receive (cs.flatMap Chunk.text)).length = es.length := by
  have hall := receive_chunks h.oneLine
  have hpart := receive_prefix (List.take_prefix n (cs.flatMap Chunk.text))
  have hlength : (receive (cs.flatMap Chunk.text)).length = es.length := by
    have hmap := congrArg List.length h.messages
    rwa [List.length_map, List.length_map, ← hall] at hmap
  refine ⟨hlength ▸ hpart.length_le, fun m hm => ?_, hlength⟩
  have hmem : messageEvent m ∈ (cs.filterMap Chunk.message).map messageEvent :=
    List.mem_map_of_mem (hall ▸ hpart.subset hm)
  rw [h.messages] at hmem
  obtain ⟨e, -, he⟩ := List.mem_map.mp hmem
  exact ⟨e, he.symm⟩

/-- `onmessage` refreshes on the two types of `initSSE`. -/
theorem eventType_of_onMessage {data : List Char} (h : onMessage data = true) :
    eventType data = some "new_alert" ∨ eventType data = some "status_change" := by
  unfold onMessage at h
  unfold eventType
  cases hv : JsonText.parse data with
  | none => simp only [hv, Bool.false_eq_true] at h
  | some v =>
    simp only [hv] at h
    rw [Option.bind_some]
    cases hget : v.get "type" with
    | none => simp only [hget, Bool.false_eq_true] at h
    | some w =>
      cases w with
      | str type =>
        simp only [hget, Bool.or_eq_true, decide_eq_true_eq] at h
        exact h.imp (congrArg some) (congrArg some)
      | _ => simp only [hget, Bool.false_eq_true] at h

/-- A message with an event makes the page ask. -/
theorem onmessage_asks {m : StreamMessage} {e : Event} (h : messageEvent m = some e) (d : Dashboard)
    (midnight : String) : d.onmessage midnight m = ⟨d.controls, d.table.ask ⟨d.controls, midnight⟩⟩ := by
  have hrefresh := eventType_of_onMessage (onMessage_of_messageEvent h)
  have htype : m.type = "message".toList := by
    unfold messageEvent at h
    split_ifs at h with htype
    exact htype
  have hcontrols : Trigger.controls d.controls (.sse (eventType m.data)) = some d.controls :=
    if_pos hrefresh
  rw [Dashboard.onmessage, if_pos htype, dashboardStep, hcontrols]

/-- What has arrived at the page, against the channel. -/
theorem Wired.messages_le (hw : Wired k s) (n : ℕ) :
    (s.hub.stream k).since + (receive ((s.text k).take n)).length ≤ s.world.published.length ∧
      (∀ m ∈ receive ((s.text k).take n), ∃ e, messageEvent m = some e) ∧
      ((s.hub.stream k).connected = true → (s.hub.stream k).inbox = [] →
        (s.hub.stream k).since + (receive (s.text k)).length = s.world.published.length) := by
  have hi := hw.streams k
  obtain ⟨done, rest, hp, hprefix, hall⟩ := hi.pending
  obtain ⟨hle, hevents, hlength⟩ := messages_carried hp.sent n
  have hchannel : s.hub.channel.length = s.world.published.length := by
    rw [← hw.channel, List.length_map]
  have hsince := hi.since_le
  have hbound := hprefix.length_le
  rw [List.length_append, List.length_drop] at hbound
  rw [List.length_map] at hle hlength
  refine ⟨?_, hevents, fun hconnected hinbox => ?_⟩
  · show _ + (receive (((s.hub.stream k).sent.flatMap Chunk.text).take n)).length ≤ _
    omega
  · have hrest := hp.inbox
    rw [hinbox] at hrest
    have hnil : rest = [] := List.map_eq_nil_iff.mp hrest.symm
    have hwhole := congrArg List.length (hall hconnected)
    rw [hnil, List.append_nil, List.length_drop] at hwhole
    show _ + (receive ((s.hub.stream k).sent.flatMap Chunk.text)).length = _
    omega

/-! ### The page follows the channel -/

/-- What the library calls the steps of the client and its store. -/
def clientNext (site : Site) (env : Env) (svc : Service) :
    Live World AlertsRequest Reply (List Alert) → Act SystemOp Plan AlertsRequest Reply →
      Live World AlertsRequest Reply (List Alert) :=
  Live.next (systemStep site env svc) World.published (readQueue site env) loadAlerts

variable (site env svc) in
/-- The messages that arrive are notices. -/
theorem notices (midnight : String) : ∀ (ms : List StreamMessage) (d : Dashboard) (w : World) (read : ℕ)
    (answered : List (ℕ × Reply)), (∀ m ∈ ms, ∃ e, messageEvent m = some e) →
      read + ms.length ≤ w.published.length →
      ∃ acts, (⟨w, read + ms.length, (ms.foldl (fun d m => d.onmessage midnight m) d).table, answered⟩ :
          Live World AlertsRequest Reply (List Alert)) =
        Runs.run (clientNext site env svc) ⟨w, read, d.table, answered⟩ acts
  | [], d, w, read, answered, _, _ => ⟨[], rfl⟩
  | m :: ms, d, w, read, answered, hevents, hle => by
    obtain ⟨e, he⟩ := hevents m List.mem_cons_self
    rw [List.length_cons] at hle
    obtain ⟨acts, hacts⟩ := notices midnight ms (d.onmessage midnight m) w (read + 1) answered
      (fun m' hm' => hevents m' (List.mem_cons_of_mem m hm')) (by omega)
    refine ⟨.notice ⟨d.controls, midnight⟩ :: acts, ?_⟩
    have hmore : read < w.published.length := by omega
    have hlength : read + 1 + ms.length = read + (m :: ms).length := by rw [List.length_cons]; omega
    rw [Runs.run_cons, clientNext, Live.next, if_pos hmore, List.foldl_cons, ← hlength]
    rw [onmessage_asks he] at hacts ⊢
    exact hacts

variable (site svc) in
/-- **The page is a client that follows the channel**: each step is some steps of the client and its
store. -/
theorem liveStep_live (hr : env.redis = true) (hw : Wired k s) (op : LiveOp) :
    Wired k (liveStep site env svc k s op) ∧
      ∃ acts, (liveStep site env svc k s op).live k = Runs.run (clientNext site env svc) (s.live k) acts := by
  cases op with
  | system op =>
    obtain ⟨hw', hmessages, hsince⟩ := hw.system site svc hr op
    refine ⟨hw', [.change op], ?_⟩
    rw [LiveQueue.live, hmessages, hsince]
    rfl
  | redis op =>
    by_cases hop : ∀ writer event, op ≠ .publish writer event
    · obtain ⟨hstep, hw', hmessages, hsince⟩ := hw.redis site env svc hop
      rw [hstep]
      refine ⟨hw', [], ?_⟩
      rw [LiveQueue.live, hmessages, hsince]
      rfl
    · cases op with
      | publish writer event => exact ⟨hw, [], rfl⟩
      | _ => exact absurd (fun _ _ => RedisOp.noConfusion) hop
  | arrive n midnight =>
    generalize hn : min (s.arrived + n) (s.text k).length = arrived
    have hold : s.messages k <+: receive ((s.text k).take arrived) := by
      have hle := hw.arrived
      exact receive_prefix (List.take_prefix_take_left (by omega))
    obtain ⟨hle, hevents, -⟩ := hw.messages_le arrived
    obtain ⟨news, hnews⟩ := hold
    have hdrop : (receive ((s.text k).take arrived)).drop (s.messages k).length = news := by
      rw [← hnews, List.drop_left]
    have hstep : liveStep site env svc k s (.arrive n midnight) =
        { s with arrived := arrived, page := news.foldl (fun d m => d.onmessage midnight m) s.page } := by
      rw [← hdrop, ← hn]
      rfl
    rw [hstep]
    refine ⟨⟨hw.store, hw.streams, hw.channel, hw.subscribed, ?_⟩, ?_⟩
    · show arrived ≤ (s.text k).length
      omega
    · rw [← hnews, List.length_append] at hle
      have hnow := notices site env svc midnight news s.page s.world
        ((s.hub.stream k).since + (s.messages k).length) s.answered
        (fun m hm => hevents m (hnews ▸ List.mem_append_right _ hm)) (by omega)
      obtain ⟨acts, hacts⟩ := hnow
      refine ⟨acts, Eq.trans ?_ hacts⟩
      have hmessages : ({ s with
          arrived := arrived
          page := news.foldl (fun d m => d.onmessage midnight m) s.page } : LiveQueue).messages k =
            s.messages k ++ news := hnews.symm
      rw [LiveQueue.live, hmessages, List.length_append, ← Nat.add_assoc]
  | page op =>
    refine ⟨⟨hw.store, hw.streams, hw.channel, hw.subscribed, hw.arrived⟩, ?_⟩
    cases op with
    | trigger t midnight =>
      cases hc : t.controls s.page.controls with
      | none =>
        refine ⟨[], ?_⟩
        show (⟨s.world, _, (dashboardStep s.page (.trigger t midnight)).table, s.answered⟩ : Live _ _ _ _) = _
        rw [dashboardStep, hc]
        rfl
      | some c =>
        refine ⟨[.ask ⟨c, midnight⟩], ?_⟩
        show (⟨s.world, _, (dashboardStep s.page (.trigger t midnight)).table, s.answered⟩ : Live _ _ _ _) = _
        rw [dashboardStep, hc]
        rfl
    | setAnalyst text => exact ⟨[], rfl⟩
    | syncFilterOptions sources assignees => exact ⟨[], rfl⟩
    | reply i r => exact ⟨[.receive i r], rfl⟩
  | answer i plan =>
    cases hi : s.page.table.asked[i]? with
    | none =>
      have hstep : liveStep site env svc k s (.answer i plan) = s := by rw [liveStep, hi]
      rw [hstep]
      exact ⟨hw, [], rfl⟩
    | some r =>
      rw [liveStep_answer hi]
      refine ⟨⟨hw.store, hw.streams, hw.channel, hw.subscribed, hw.arrived⟩, [.answer i plan], ?_⟩
      have hasked : (s.live k).client.asked[i]? = some r := hi
      rw [Runs.run_cons, Runs.run_nil, clientNext, Live.next, hasked]
      rfl

end Wires

/-! ### Runs -/

section Runs

variable (site : Site) {env : Env} (svc : Service) {k : ℕ}

theorem publishes (hr : env.redis = true) :
    Publishes (fun w : World => StoreInv w.db) (systemStep site env svc) World.published where
  keep := fun w op hi => hi.step (systemStep_does site env svc w op)
  grow := fun _ op hi => published_grows site env svc hr hi op

theorem live_run (hr : env.redis = true) : ∀ (ops : List LiveOp) (s : LiveQueue), Wired k s →
    Wired k (Runs.run (liveStep site env svc k) s ops) ∧
      ∃ acts, (Runs.run (liveStep site env svc k) s ops).live k =
        Runs.run (clientNext site env svc) (s.live k) acts
  | [], s, hw => ⟨hw, [], rfl⟩
  | op :: ops, s, hw => by
    obtain ⟨hw', acts, hacts⟩ := liveStep_live site svc hr hw op
    obtain ⟨hend, acts', hacts'⟩ := live_run hr ops (liveStep site env svc k s op) hw'
    refine ⟨hend, acts ++ acts', ?_⟩
    rw [Runs.run_cons, hacts', hacts, Runs.run_append]

/-- Steps that publish nothing, and behind whose commits nothing raises, leave no alert new or changed. -/
theorem noNews_run (hr : env.redis = true) : ∀ (xs : List SystemOp) (w : World), StoreInv w.db →
    Runs.EachStep (systemStep site env svc) (fun w op => (systemStep site env svc w op).published = w.published) w xs →
    Runs.EachStep (systemStep site env svc) (fun w op => op.announced env svc w = true) w xs →
    NoNews w (Runs.run (systemStep site env svc) w xs)
  | [], _, _, _, _ => fun _ _ h => h
  | op :: xs, w, hi, hsilent, hclear => by
    obtain ⟨es, hann, hnews⟩ := systemStep_tells site svc hr hi op
    have hnil : es = [] := by
      have hchannel := hann.channel
      rwa [hsilent.1, List.self_eq_append_right] at hchannel
    intro id row hrow
    apply hnews hclear.1 hnil
    exact noNews_run hr xs _ (hi.step (systemStep_does site env svc w op)) hsilent.2 hclear.2 id row hrow

variable (k) in
/-- The connection holds, all that was published has arrived, and no request is in flight. -/
structure QueueSettled (s : LiveQueue) : Prop where
  connected : (s.hub.stream k).connected = true
  inbox : (s.hub.stream k).inbox = []
  arrived : s.arrived = (s.text k).length
  quiet : s.page.table.Quiet

/-- **A settled queue is up to date.** In any order of requests, ingests, purges, pushes, arrivals,
clicks, answers and replies from a moment when the page's stream has
subscribed: when everything has settled and the queue shows the server's answer
to the latest request, that answer was made from tables since which nothing was
published. Unless a broadcast failed since, every alert there is was there then, as it is
now. -/
theorem liveQueue_upToDate (hr : env.redis = true) {s₀ : LiveQueue} (hw : Wired k s₀) (hans : s₀.answered = [])
    (ops : List LiveOp) :
    let s := Runs.run (liveStep site env svc k) s₀ ops
    QueueSettled k s → s.page.table.ShowsLatest loadAlerts → ∀ r x rows, s.page.table.Latest r x →
      (s.page.table.asked.length - 1, x) ∈ s.answered → loadAlerts r x = some rows →
      s.page.table.view = some rows ∧
        ∃ plan w xs, x = readQueue site env plan w r ∧ s.world = Runs.run (systemStep site env svc) w xs ∧
          Runs.EachStep (systemStep site env svc)
            (fun w op => (systemStep site env svc w op).published = w.published) w xs ∧
          (Runs.EachStep (systemStep site env svc) (fun w op => op.announced env svc w = true) w xs →
            NoNews w s.world) := by
  intro s hsettled hlatest r x rows hr' hx hrows
  refine ⟨hlatest hsettled.quiet r x rows hr' hrows, ?_⟩
  obtain ⟨hend, acts, hacts⟩ := live_run site svc hr ops s₀ hw
  have hstart : UpToDate (fun w : World => StoreInv w.db) (systemStep site env svc) World.published
      (readQueue site env) (s₀.live k) := by
    refine ⟨hw.store, (hw.messages_le s₀.arrived).1, fun i a r h => ?_, fun i a h => ?_⟩
    · simp [LiveQueue.live, hans] at h
    · simp [LiveQueue.live, hans] at h
  have hup : UpToDate (fun w : World => StoreInv w.db) (systemStep site env svc) World.published
      (readQueue site env) (Runs.run (clientNext site env svc) (s₀.live k) acts) :=
    upToDate_run (publishes site svc hr) acts hstart
  rw [← hacts] at hup
  have hread : (s.live k).read = s.world.published.length := by
    have hall := (hend.messages_le s.arrived).2.2 hsettled.connected hsettled.inbox
    rw [← hall]
    show _ + (receive ((s.text k).take s.arrived)).length = _
    rw [hsettled.arrived, List.take_length]
  obtain ⟨plan, w, xs, hmade, hi, hrun, hsilent⟩ := hup.settled (publishes site svc hr) hread hr'.1 hx
  refine ⟨plan, w, xs, hmade, hrun, hsilent, fun hclear => ?_⟩
  have hnews := noNews_run site svc hr xs w hi hsilent hclear
  rwa [← hrun] at hnews

end Runs

/-! ### A queue with one alert -/

/-- A fresh deployment with one page, whose stream has just subscribed. -/
def LiveQueue.start (w : World) (c : Controls) (k : ℕ) : LiveQueue :=
  ⟨{ w.setDb (applySchema none) with published := [] }, redisStep RedisHub.start (.subscribe k), 0, Dashboard.start c, []⟩

theorem wired_start (w : World) (c : Controls) (k : ℕ) : Wired k (LiveQueue.start w c k) where
  store := StoreInv.created
  streams := redisInv_step _ _ redisInv_start
  channel := rfl
  subscribed := by
    show (Function.update RedisHub.start.stream k _ k).state ≠ .created
    rw [Function.update_self]
    exact PubSubState.noConfusion
  arrived := Nat.zero_le _

/-- The page's request. -/
def firstRequest : AlertsRequest := ⟨⟨none, ⟨"", "", ""⟩, "asmith"⟩, ""⟩

/-- A detector's alert comes in, and its event arrives at the page. -/
def portScanArrival : List LiveOp :=
  [.redis (.poll 0), .system (.flask portScanMoment), .redis (.resume 0), .redis (.poll 0), .arrive 200 ""]

def portScanArrives : LiveQueue :=
  Runs.run (liveStep plainSite redisEnv exampleService 0) (LiveQueue.start emptyWorld firstRequest.controls 0)
    portScanArrival

/-- What the server then answers. -/
def portScanReply : Reply := readQueue plainSite redisEnv asStored portScanArrives.world firstRequest

def portScanShown : LiveQueue :=
  Runs.run (liveStep plainSite redisEnv exampleService 0) portScanArrives
    [.answer 0 asStored, .page (.reply 0 portScanReply)]

theorem liveQueue_upToDate_portScan :
    QueueSettled 0 portScanShown ∧ portScanShown.page.table.view = loadAlerts firstRequest portScanReply := by
  have hasked : portScanArrives.page.table.asked = [firstRequest] := by decide +kernel
  have hnone : portScanArrives.page.table.replies = [] := List.eq_nil_of_length_eq_zero (by decide +kernel)
  have hout : portScanArrives.page.table.Out 0 := by decide +kernel
  have hshown : portScanShown = { portScanArrives with
      answered := portScanArrives.answered ++ [(0, portScanReply)]
      page := dashboardStep portScanArrives.page (.reply 0 portScanReply) } := by
    have hfirst : portScanArrives.page.table.asked[0]? = some firstRequest := by rw [hasked, List.getElem?_cons_zero]
    rw [portScanShown, Runs.run_cons, liveStep_answer hfirst, Runs.run_cons, liveStep_page, Runs.run_nil, portScanReply]
  have htable : portScanShown.page.table = portScanArrives.page.table.receive loadAlerts 0 portScanReply := by
    rw [hshown, dashboardStep]
  have hlength : portScanShown.page.table.asked.length - 1 = 0 := by
    rw [htable, Replies.Client.receive_asked, hasked, List.length_singleton]
  have hsettled : QueueSettled 0 portScanShown := by
    rw [hshown]
    refine ⟨by decide +kernel, by decide +kernel, by decide +kernel, ?_⟩
    rw [hshown] at htable
    rw [htable, Replies.Client.receive_quiet hout]
    refine ⟨hout, fun j hj hne => ?_⟩
    rw [hasked, List.length_singleton] at hj
    omega
  have hlatest : portScanShown.page.table.ShowsLatest loadAlerts := by
    rw [htable]
    refine Replies.Client.receive_showsLatest ?_ fun _ => by rw [hasked, List.length_singleton]
    intro _ r a v h
    rw [Replies.Client.Latest, hnone] at h
    cases h.2
  have hupdated := liveQueue_upToDate plainSite exampleService (rfl : redisEnv.redis = true)
    (wired_start emptyWorld firstRequest.controls 0) rfl
    (portScanArrival ++ [.answer 0 asStored, .page (.reply 0 portScanReply)])
  have hrun : Runs.run (liveStep plainSite redisEnv exampleService 0)
      (LiveQueue.start emptyWorld firstRequest.controls 0)
      (portScanArrival ++ [.answer 0 asStored, .page (.reply 0 portScanReply)]) = portScanShown := by
    rw [Runs.run_append, portScanShown, portScanArrives]
  simp only [hrun] at hupdated
  obtain ⟨rows, hrows⟩ : ∃ rows, loadAlerts firstRequest portScanReply = some rows := by
    rw [portScanReply, readQueue, loadAlerts, if_neg (by decide)]
    exact ⟨_, rfl⟩
  refine ⟨hsettled, ?_⟩
  rw [hrows]
  refine (hupdated hsettled hlatest firstRequest portScanReply rows ⟨?_, ?_⟩ ?_ hrows).1
  · rw [htable, Replies.Client.receive_asked, hasked, List.getLast?_singleton]
  · rw [hlength, htable, Replies.Client.receive_replies hout]
    exact List.mem_append_right _ List.mem_cons_self
  · rw [hlength, hshown]
    exact List.mem_append_right _ List.mem_cons_self

end SocDashboard
