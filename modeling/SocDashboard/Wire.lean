/-
# The queue's requests on the wire

What `loadAlerts` fetches is a text, a path and a query string, and what the
server acts on is what it reads of that text. It reads what was meant, whatever
the filters and the analyst's name hold (`answer_target`), so what is shown of
the queue can be traced from the controls of the page to the tables.

In any reached state the alerts shown under `Escalated` are those that were
escalated once, by the analyst who is chosen, and under every other preset they
are alerts that nobody has triaged (`shown_systemRun`). An alert is given to an
analyst only when it is classified, and the other presets list open alerts
only: `My Queue` of an analyst who is named shows nothing (`myQueue_systemRun`).

Key definitions: `AlertsRequest.target`, `readTarget`, `answerTarget`,
`Controls.assignee`, `Triaged`, `Untriaged`.
Key theorems: `answer_target`, `assignee_args`, `shown_systemRun`,
`myQueue_systemRun`.
-/
import SocDashboard.Lib.FormUrl
import SocDashboard.LiveQueue

namespace SocDashboard

open Dict

/-! ### A request as it is written and read -/

/-- The route of a listing. -/
def Queue.path : Queue → List Char
  | .open_ => "/api/alerts".toList
  | .all => "/api/alerts/all".toList

/-- What `fetch` is called with. -/
def AlertsRequest.target (r : AlertsRequest) : List Char := r.queue.path ++ '?' :: FormUrl.serialize r.args

/-- What the server makes of a target: the path, and `request.args`. -/
def readTarget (target : List Char) : Option (List Char × Args) := do
  let args ← FormUrl.parse ((target.dropWhile (· ≠ '?')).drop 1)
  some (target.takeWhile (· ≠ '?'), args)

/-- The listing at a path. -/
def queueAt (path : List Char) : Option Queue := [Queue.open_, .all].find? fun queue => queue.path = path

/-- What a text is answered, if it is the target of a listing. -/
def answerTarget (site : Site) (env : Env) (plan : Plan) (w : World) (target : List Char) : Reply :=
  match readTarget target with
  | none => .unreadable
  | some (path, args) =>
    match queueAt path with
    | none => .unreadable
    | some queue => .json (fetchPage queue env site.fromisoformat site.pg w.db plan args)

theorem queueAt_path (queue : Queue) : queueAt queue.path = some queue := by cases queue <;> decide

theorem readTarget_target (r : AlertsRequest) : readTarget r.target = some (r.queue.path, r.args) := by
  have hpath : ∀ c ∈ r.queue.path, decide (c ≠ '?') = true :=
    FormUrl.forall_mem (by cases r.queue <;> decide)
  have htake : r.target.takeWhile (· ≠ '?') = r.queue.path := by
    rw [AlertsRequest.target, List.takeWhile_append_of_pos hpath]
    simp
  have hdrop : (r.target.dropWhile (· ≠ '?')).drop 1 = FormUrl.serialize r.args := by
    rw [AlertsRequest.target, List.dropWhile_append_of_pos hpath]
    simp
  rw [readTarget, hdrop, htake, FormUrl.parse_serialize]
  rfl

/-- A target has no blank, which would end it in the request line, and no fragment, which would not
be sent. -/
theorem target_safe (r : AlertsRequest) : ∀ c ∈ r.target, c ≠ '#' ∧ c ≠ ' ' := by
  intro c hc
  have hpath : ∀ c ∈ r.queue.path, c ≠ '#' ∧ c ≠ ' ' := FormUrl.forall_mem (by cases r.queue <;> decide)
  rcases List.mem_append.1 hc with hin | hrest
  · exact hpath c hin
  rcases List.mem_cons.1 hrest with rfl | hquery
  · decide
  · exact FormUrl.serialize_safe r.args c hquery

/-- **What is fetched is what was meant**, whatever characters the controls hold. -/
theorem answer_target (site : Site) (env : Env) (plan : Plan) (w : World) (r : AlertsRequest) :
    answerTarget site env plan w r.target = readQueue site env plan w r := by
  simp only [answerTarget, readTarget_target, queueAt_path]
  rfl

/-! ### Whose alerts are asked for -/

/-- The analyst whose alerts the queue is to show; nobody's in particular when empty. -/
def Controls.assignee (c : Controls) : String :=
  if c.preset = some .myQueue ∧ c.analyst ≠ "" then pyStrip c.analyst else pyStrip (jsTrim c.filters.assignedTo)

/-- **The server filters by the analyst whom the page asks for.** -/
theorem assignee_args (r : AlertsRequest) : textArg r.args "assigned_to" = r.controls.assignee := by
  obtain ⟨⟨preset, f, analyst⟩, midnight⟩ := r
  have hcolumn : FilterColumn.assignedTo ∈ filterColumns := by decide
  have hquery : textArg (filterQuery f) "assigned_to" = pyStrip (jsTrim f.assignedTo) := by
    simpa only [FilterColumn.name, Filters.value, Filters.trimmed] using textArg_filterQuery f hcolumn
  have hcontrols : textArg (controlParams f) "assigned_to" = pyStrip (jsTrim f.assignedTo) := by
    simpa only [controlParams, FilterColumn.name, Filters.value, Filters.trimmed] using textArg_controls f hcolumn
  cases preset with
  | none => simpa [AlertsRequest.args, presetQuery, Controls.assignee] using hquery
  | some preset =>
    cases preset with
    | myQueue =>
      rw [args_myQueue, textArg_setItem, if_neg (by decide), Controls.assignee]
      by_cases hname : analyst = ""
      · simpa [hname] using hcontrols
      · simp [hname, textArg_setItem]
    | criticalToday =>
      rw [args_criticalToday, Controls.assignee]
      simpa [textArg_setItem] using hcontrols
    | escalated => simpa [AlertsRequest.args, Controls.assignee] using hquery
    | allOpen => simpa [AlertsRequest.args, Controls.assignee] using hquery

/-! ### What the rows of the queue are -/

/-- The alert was triaged once: escalated, by the analyst it is assigned to. -/
def EscalatedOnce (db : Db) (alert : Alert) : Prop :=
  ∃ x e, db.actionsOf alert.id = [x] ∧ db.triagesOf alert.id = [e] ∧ x.action = .escalate ∧
    e.action = .triage .escalate ∧ e.toStatus = .escalated ∧ alert.assignedTo = some x.analystName

/-- Nobody has triaged the alert. -/
def Untriaged (db : Db) (alert : Alert) : Prop :=
  alert.assignedTo = none ∧ db.actionsOf alert.id = [] ∧ db.triagesOf alert.id = []

theorem StoreInv.escalatedOnce {db : Db} (hi : StoreInv db) {alert : Alert} (hal : alert ∈ db.alerts)
    (hs : alert.status = .escalated) : EscalatedOnce db alert := by
  have hrec := hi.records alert hal
  unfold EscalatedOnce
  generalize db.actionsOf alert.id = xs, db.triagesOf alert.id = es at hrec
  cases hrec with
  | untriaged hopen _ => exact absurd (hopen.symm.trans hs) (by decide)
  | triaged x e action seconds hst ha hx hr h0 he hf ht =>
    have haction : action = .escalate := by
      rw [hs] at hst
      revert hst
      cases action <;> decide
    subst haction
    exact ⟨x, e, rfl, rfl, hx, he, ht.trans hs, ha⟩

theorem StoreInv.untriaged_of_open {db : Db} (hi : StoreInv db) {alert : Alert} (hal : alert ∈ db.alerts)
    (hs : alert.status = .open_) : Untriaged db alert := by
  have hrec := hi.records alert hal
  unfold Untriaged
  generalize db.actionsOf alert.id = xs, db.triagesOf alert.id = es at hrec
  cases hrec with
  | untriaged _ hnone => exact ⟨hnone, rfl, rfl⟩
  | triaged x e action seconds hst _ _ _ _ _ _ _ =>
    rw [hs] at hst
    exact absurd hst (by cases action <;> decide)

/-- What satisfies the filters is assigned to the analyst who is chosen. -/
theorem assigned_of_satisfies {queue : Queue} {pg : Pg} {args : Args} {row : Alert}
    (h : satisfies queue pg args row = true) (hname : textArg args "assigned_to" ≠ "") :
    row.assignedTo = some (textArg args "assigned_to") := by
  simp only [satisfies, Bool.and_eq_true, List.all_eq_true] at h
  have hcolumn : textArg args "assigned_to" = "" ∨ row.assignedTo = some (textArg args "assigned_to") := by
    have hall := h.1.2 .assignedTo (by decide)
    rwa [Bool.or_eq_true, decide_eq_true_eq, decide_eq_true_eq] at hall
  exact hcolumn.resolve_left hname

theorem open_of_satisfies {pg : Pg} {args : Args} {row : Alert} (h : satisfies .open_ pg args row = true) :
    row.status = .open_ := by
  simp only [satisfies, Bool.and_eq_true, decide_eq_true_eq] at h
  have hname : some row.status.name = some "open" := h.1.1 trivial
  revert hname
  cases row.status <;> decide

section Reached

variable (site : Site) (env : Env) (svc : Service) (w : World) (ops : List SystemOp)

/-- A row of the queue, traced to the alert it is made of. -/
theorem row_shown {db : Db} (hi : StoreInv db) (r : AlertsRequest) (plan : Plan) {rows : List Alert} {row : Alert}
    (hrows : loadAlerts r (.json (fetchPage r.queue env site.fromisoformat site.pg db plan r.args)) = some rows)
    (hrow : row ∈ rows) :
    ∃ alert ∈ db.alerts, row = decryptAlert env alert ∧
      (r.controls.assignee ≠ "" → alert.assignedTo = some r.controls.assignee) ∧
      if r.controls.preset = some .escalated then EscalatedOnce db alert else Untriaged db alert := by
  obtain ⟨alert, hal, rfl, hsat, hescalated⟩ := shown_selected hrows hrow
  refine ⟨alert, hal, rfl, ?_, ?_⟩
  · have hassigned := assigned_of_satisfies hsat
    rwa [assignee_args] at hassigned
  · by_cases hpreset : r.controls.preset = some .escalated
    · rw [if_pos hpreset]
      exact hi.escalatedOnce hal (hescalated hpreset)
    · rw [if_neg hpreset]
      rw [AlertsRequest.queue, if_neg hpreset] at hsat
      exact hi.untriaged_of_open hal (open_of_satisfies hsat)

/-- **What the queue shows, in any reached state**: what is fetched is read as it was meant, and
the rows are, under `Escalated`, alerts that were escalated once, by the analyst who is chosen;
under every other preset alerts that nobody has triaged, and no alert at all when an analyst is
chosen. -/
theorem shown_systemRun (plan : Plan) (r : AlertsRequest) :
    let w' := Runs.run (systemStep site env svc) (w.setDb (applySchema none)) ops
    readTarget r.target = some (r.queue.path, r.args) ∧
      ∃ rows, loadAlerts r (answerTarget site env plan w' r.target) = some rows ∧
        (∀ row ∈ rows, ∃ alert ∈ w'.db.alerts, row = decryptAlert env alert ∧
          (r.controls.assignee ≠ "" → alert.assignedTo = some r.controls.assignee) ∧
          if r.controls.preset = some .escalated then EscalatedOnce w'.db alert else Untriaged w'.db alert) ∧
        (r.controls.preset ≠ some .escalated → r.controls.assignee ≠ "" → rows = []) := by
  intro w'
  have hi : StoreInv w'.db := storeInv_systemRun site env svc w ops
  have hshown : ∃ rows, loadAlerts r (readQueue site env plan w' r) = some rows := by
    by_cases hpreset : r.controls.preset = some .escalated
    · exact ⟨_, if_pos hpreset⟩
    · exact ⟨_, if_neg hpreset⟩
  obtain ⟨rows, hrows⟩ := hshown
  have hrow : ∀ row ∈ rows, _ := fun row hrow => row_shown site env hi r plan hrows hrow
  refine ⟨readTarget_target r, rows, (congrArg (loadAlerts r) (answer_target site env plan w' r)).trans hrows,
    hrow, ?_⟩
  intro hpreset hname
  rw [List.eq_nil_iff_forall_not_mem]
  intro row hmem
  obtain ⟨alert, -, -, hassigned, hrecord⟩ := hrow row hmem
  rw [if_neg hpreset] at hrecord
  exact absurd (hrecord.1.symm.trans (hassigned hname)) (by simp)

/-- **`My Queue` shows nothing** of an analyst who is named, whatever has happened. -/
theorem myQueue_systemRun (plan : Plan) (f : Filters) {analyst : String} (hname : pyStrip analyst ≠ "")
    (midnight : String) :
    let r : AlertsRequest := ⟨⟨some .myQueue, f, analyst⟩, midnight⟩
    loadAlerts r (answerTarget site env plan
      (Runs.run (systemStep site env svc) (w.setDb (applySchema none)) ops) r.target) = some [] := by
  intro r
  have hassignee : r.controls.assignee = pyStrip analyst := by
    refine if_pos ⟨rfl, fun he => hname ?_⟩
    subst he
    decide
  obtain ⟨-, rows, hrows, -, hnil⟩ := shown_systemRun site env svc w ops plan r
  have hpreset : r.controls.preset ≠ some .escalated := fun he => by cases he
  rw [hrows, hnil hpreset (hassignee ▸ hname)]

end Reached

end SocDashboard
