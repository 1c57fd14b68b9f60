/-
# Does the queue end up showing the latest request?

Each trigger of the dashboard sends a request of its own, made of the preset
and the filters of the moment, and each response redraws the table when it
comes. No response is dropped because a later request has been sent. So with
no request in flight the table shows the latest request when its response is the
last to come; when that of an older one comes last, it depends on what the
responses carry whether it shows the latest.

Key definitions: `Controls`, `presetQuery`, `loadAlerts`, `Trigger`,
`dashboardStep`, `QueueLatest`, `OrderlyReply`, `TrimmedTrigger`.
Key theorems: `shown_selects`, `TrimmedLatest.step`, `queueLatest_iff`.
-/
import SocDashboard.DashboardViews
import SocDashboard.Lib.Replies
import SocDashboard.Lib.Runs

namespace SocDashboard

open Dict Exec Query

/-! ### The request -/

/-- The quick filters. -/
inductive Preset
  | myQueue
  | criticalToday
  | escalated
  | allOpen
  deriving DecidableEq, Repr

/-- What `loadAlerts` reads of the page: `_activePreset`, the `<select>` controls, and
`soc_analyst` in the local storage. -/
structure Controls where
  preset : Option Preset
  filters : Filters
  analyst : String
  deriving DecidableEq, Repr

/-- `presetQuery`, as the server parses it; `midnight` is `today.toISOString()`. -/
def presetQuery (c : Controls) (midnight : String) : Args :=
  match c.preset with
  | none => filterQuery c.filters
  | some preset =>
    let f := currentFilters c.filters
    let qs := setParam "severity" f.severity ++ setParam "source" f.source ++
      setParam "assigned_to" f.assignedTo
    let qs := match preset with
      | .myQueue => if c.analyst = "" then qs else setItem qs "assigned_to" c.analyst
      | .criticalToday => setItem (setItem qs "severity" "CRITICAL") "created_after" midnight
      | .escalated => qs
      | .allOpen => qs
    setItem qs "per_page" "500"

/-- A request of `loadAlerts`: the page when it was sent. -/
structure AlertsRequest where
  controls : Controls
  midnight : String
  deriving DecidableEq, Repr

/-- The path that is fetched. -/
def AlertsRequest.queue (r : AlertsRequest) : Queue :=
  if r.controls.preset = some .escalated then .all else .open_

/-- Its query string. -/
def AlertsRequest.args (r : AlertsRequest) : Args :=
  if r.controls.preset = some .escalated then filterQuery r.controls.filters
  else if r.controls.preset = some .allOpen then filterQuery r.controls.filters
  else presetQuery r.controls r.midnight

/-- What comes of a `fetch`: a JSON body, or none that can be read, when the network fails or the
body is a page. -/
inductive Reply
  | json (answer : Except Exc Response)
  | unreadable

/-- `loadAlerts` from its `await` on: the rows it draws, unless it throws. -/
def loadAlerts (r : AlertsRequest) : Reply → Option (List Alert)
  | .unreadable => none
  | .json answer =>
    if r.controls.preset = some .escalated then some ((alertsOf answer).filter isEscalated)
    else some (alertsOf answer)

/-! ### The page -/

/-- What calls `refreshAll`. -/
inductive Trigger
  | load
  | applyPreset (preset : Preset)
  | changeFilters (f : Filters)
  | clearFilters
  | interval
  /-- A message of the stream, with the `type` of its event, if that can be read. -/
  | sse (type : Option String)
  /-- `classifyAlert` has its answer; `ok` is `res.ok`. -/
  | classified (ok : Bool)
  deriving DecidableEq, Repr

/-- The controls that the trigger leaves and refreshes with, if it refreshes. -/
def Trigger.controls (c : Controls) : Trigger → Option Controls
  | .load => some c
  | .applyPreset preset => some { c with preset := some preset }
  | .changeFilters f => some { c with filters := f }
  | .clearFilters => some { c with filters := ⟨"", "", ""⟩ }
  | .interval => some c
  | .sse type => if type = some "new_alert" ∨ type = some "status_change" then some c else none
  | .classified ok => if ok then some c else none

/-- The controls, and the requests of `loadAlerts` with the rows of the table. -/
structure Dashboard where
  controls : Controls
  table : Replies.Client AlertsRequest Reply (List Alert)

inductive DashboardOp
  | trigger (t : Trigger) (midnight : String)
  /-- The analyst types a name. -/
  | setAnalyst (text : String)
  /-- `loadStats` has its answer. -/
  | syncFilterOptions (sources assignees : List String)
  /-- The reply to the request that was sent as number `i`, from 0. -/
  | reply (i : ℕ) (r : Reply)

/-- What `fillSelect` leaves selected. -/
def fillSelect (current : String) (values : List String) : String := if current ∈ values then current else ""

def dashboardStep (d : Dashboard) : DashboardOp → Dashboard
  | .trigger t midnight =>
    match t.controls d.controls with
    | none => d
    | some c => ⟨c, d.table.ask ⟨c, midnight⟩⟩
  | .setAnalyst text => { d with controls := { d.controls with analyst := jsTrim text } }
  | .syncFilterOptions sources assignees =>
    let f := d.controls.filters
    { d with
      controls := { d.controls with
        filters := ⟨f.severity, fillSelect f.source sources, fillSelect f.assignedTo assignees⟩ } }
  | .reply i r => { d with table := d.table.receive loadAlerts i r }

/-- A page that has sent nothing yet. -/
def Dashboard.start (c : Controls) : Dashboard := ⟨c, Replies.Client.start⟩

/-! ### What the queue is to show -/

/-- The values that the request was sent for. -/
def AlertsRequest.chosen (r : AlertsRequest) : Filters :=
  match r.controls.preset with
  | some .myQueue =>
    if r.controls.analyst = "" then r.controls.filters
    else { r.controls.filters with assignedTo := r.controls.analyst }
  | some .criticalToday => { r.controls.filters with severity := "CRITICAL" }
  | _ => r.controls.filters

/-- Neither the page nor the server trims anything off them. -/
def AlertsRequest.Trimmed (r : AlertsRequest) : Prop := r.chosen.trimmed = r.chosen

instance (r : AlertsRequest) : Decidable r.Trimmed := inferInstanceAs (Decidable (_ = _))

/-- The alert belongs to the preset and the filters of the request. -/
structure AlertsRequest.Selects (pg : Pg) (r : AlertsRequest) (alert : Alert) : Prop where
  status : alert.status = if r.controls.preset = some .escalated then .escalated else .open_
  filters : r.chosen.pick alert = true
  today : r.controls.preset = some .criticalToday → pyStrip r.midnight ≠ "" →
    ∃ t, pg.timestamptz (pyStrip r.midnight) = some t ∧ t ≤ alert.createdAt

/-- With no request in flight, the rows are those of the response to the latest request; when that is
the server's answer, they are made of alerts of its preset and filters. -/
structure QueueLatest (env : Env) (fromisoformat : String → Bool) (pg : Pg) (d : Dashboard) : Prop where
  shows : d.table.ShowsLatest loadAlerts
  selects : d.table.Quiet → ∀ r db plan rows,
    d.table.Latest r (.json (fetchPage r.queue env fromisoformat pg db plan r.args)) → d.table.view = some rows →
      ∀ row ∈ rows, ∃ alert ∈ db.alerts, row = decryptAlert env alert ∧ r.Selects pg alert

/-- The reply that leaves no request in flight is that to the latest request. -/
def OrderlyReply (d : Dashboard) : DashboardOp → Prop
  | .reply i _ => d.table.LastOut i → i + 1 = d.table.asked.length
  | _ => True

/-- The values that a trigger asks with are trimmed. -/
def TrimmedTrigger (d : Dashboard) : DashboardOp → Prop
  | .trigger t midnight => ∀ c, t.controls d.controls = some c → AlertsRequest.Trimmed ⟨c, midnight⟩
  | _ => True

/-- The same step, but for what a reply carries. -/
inductive SameOrder : DashboardOp → DashboardOp → Prop
  | same (op : DashboardOp) : SameOrder op op
  | reply (i : ℕ) (r r' : Reply) : SameOrder (.reply i r) (.reply i r')

/-! ### What the server reads of a request -/

theorem textArg_eq (args : Args) (name : String) : textArg args name = pyStrip ((getItem args name).getD "") := by
  rw [textArg, lookup_eq_getItem]

theorem textArg_setItem (args : Args) (k name v : String) :
    textArg (setItem args k v) name = if k = name then pyStrip v else textArg args name := by
  rw [textArg_eq, getItem_setItem, textArg_eq]
  split_ifs
  · rfl
  · rfl

/-- What the page trims and the server strips. -/
theorem strip_currentFilters (f : Filters) (column : FilterColumn) :
    pyStrip ((currentFilters f).value column) = f.trimmed.value column := by
  cases column with
  | status => exact pyStrip_empty
  | severity => rfl
  | source => rfl
  | assignedTo => rfl

theorem textArg_controls (f : Filters) {column : FilterColumn} (hcolumn : column ∈ filterColumns) :
    textArg (setParam "severity" (currentFilters f).severity ++ setParam "source" (currentFilters f).source ++
      setParam "assigned_to" (currentFilters f).assignedTo) column.name = f.trimmed.value column := by
  have hnil : ([] : Args).lookup column.name = none := rfl
  have hparams := textArg_params (currentFilters f) hcolumn hnil
  rw [List.append_nil] at hparams
  rw [hparams, strip_currentFilters]

theorem textArg_filterQuery (f : Filters) {column : FilterColumn} (hcolumn : column ∈ filterColumns) :
    textArg (filterQuery f) column.name = f.trimmed.value column := by
  have hrest : ([("per_page", "500")] : Args).lookup column.name = none := by
    revert column
    decide
  exact (textArg_params (currentFilters f) hcolumn hrest).trans (strip_currentFilters f column)

/-- The parameters of the controls. -/
def controlParams (f : Filters) : Args :=
  setParam "severity" (currentFilters f).severity ++ setParam "source" (currentFilters f).source ++
    setParam "assigned_to" (currentFilters f).assignedTo

theorem args_myQueue (f : Filters) (analyst midnight : String) :
    AlertsRequest.args ⟨⟨some .myQueue, f, analyst⟩, midnight⟩ =
      setItem (if analyst = "" then controlParams f else setItem (controlParams f) "assigned_to" analyst)
        "per_page" "500" := by
  simp [AlertsRequest.args, presetQuery, controlParams]

theorem args_criticalToday (f : Filters) (analyst midnight : String) :
    AlertsRequest.args ⟨⟨some .criticalToday, f, analyst⟩, midnight⟩ =
      setItem (setItem (setItem (controlParams f) "severity" "CRITICAL") "created_after" midnight)
        "per_page" "500" := by
  simp [AlertsRequest.args, presetQuery, controlParams]

/-- What a strip leaves is not stripped further. -/
theorem pyStrip_of_trimmed {s : String} (h : pyStrip (jsTrim s) = s) : pyStrip s = s := by
  rw [← h]
  exact Trim.trim_trim_of_le (fun _ h => h) (jsTrim s)

theorem Filters.trimmed_iff (f : Filters) : f.trimmed = f ↔
    pyStrip (jsTrim f.severity) = f.severity ∧ pyStrip (jsTrim f.source) = f.source ∧
      pyStrip (jsTrim f.assignedTo) = f.assignedTo := by
  cases f
  simp [Filters.trimmed]

section Chosen

variable {f : Filters} {analyst midnight : String} {column : FilterColumn} (hcolumn : column ∈ filterColumns)

include hcolumn

theorem name_ne (name : String) (hname : name ∈ ["per_page", "created_after"]) : name ≠ column.name := by
  revert column name
  decide

theorem chosen_myQueue (htrim : AlertsRequest.Trimmed ⟨⟨some .myQueue, f, analyst⟩, midnight⟩) :
    textArg (AlertsRequest.args ⟨⟨some .myQueue, f, analyst⟩, midnight⟩) column.name =
      (AlertsRequest.chosen ⟨⟨some .myQueue, f, analyst⟩, midnight⟩).value column := by
  rw [args_myQueue, textArg_setItem, if_neg (name_ne hcolumn "per_page" (by decide))]
  simp only [AlertsRequest.Trimmed, AlertsRequest.chosen] at htrim ⊢
  by_cases hname : analyst = ""
  · simp only [if_pos hname] at htrim ⊢
    rw [controlParams, textArg_controls f hcolumn, htrim]
  · simp only [if_neg hname, Filters.trimmed_iff] at htrim ⊢
    obtain ⟨hseverity, hsource, hanalyst⟩ := htrim
    rw [textArg_setItem, controlParams, textArg_controls f hcolumn]
    simp only [filterColumns, List.mem_cons, List.not_mem_nil, or_false] at hcolumn
    rcases hcolumn with rfl | rfl | rfl
    · simpa [FilterColumn.name, Filters.value, Filters.trimmed] using hseverity
    · simpa [FilterColumn.name, Filters.value, Filters.trimmed] using hsource
    · simpa [FilterColumn.name, Filters.value] using pyStrip_of_trimmed hanalyst

theorem chosen_criticalToday (htrim : AlertsRequest.Trimmed ⟨⟨some .criticalToday, f, analyst⟩, midnight⟩) :
    textArg (AlertsRequest.args ⟨⟨some .criticalToday, f, analyst⟩, midnight⟩) column.name =
      (AlertsRequest.chosen ⟨⟨some .criticalToday, f, analyst⟩, midnight⟩).value column := by
  have hcritical : pyStrip "CRITICAL" = "CRITICAL" := by decide
  rw [args_criticalToday, textArg_setItem, if_neg (name_ne hcolumn "per_page" (by decide)), textArg_setItem,
    if_neg (name_ne hcolumn "created_after" (by decide)), textArg_setItem, controlParams, textArg_controls f hcolumn]
  simp only [AlertsRequest.Trimmed, AlertsRequest.chosen, Filters.trimmed_iff] at htrim ⊢
  obtain ⟨-, hsource, hassigned⟩ := htrim
  simp only [filterColumns, List.mem_cons, List.not_mem_nil, or_false] at hcolumn
  rcases hcolumn with rfl | rfl | rfl
  · simpa [FilterColumn.name, Filters.value] using hcritical
  · simpa [FilterColumn.name, Filters.value, Filters.trimmed] using hsource
  · simpa [FilterColumn.name, Filters.value, Filters.trimmed] using hassigned

end Chosen

/-- **The server reads the values that the request was sent for.** -/
theorem textArg_chosen {r : AlertsRequest} (htrim : r.Trimmed) {column : FilterColumn}
    (hcolumn : column ∈ filterColumns) : textArg r.args column.name = r.chosen.value column := by
  obtain ⟨⟨preset, f, analyst⟩, midnight⟩ := r
  have hplain : f.trimmed = f → textArg (filterQuery f) column.name = f.value column := by
    intro hf
    rw [textArg_filterQuery f hcolumn, hf]
  cases preset with
  | none => exact hplain htrim
  | some preset =>
    cases preset with
    | myQueue => exact chosen_myQueue hcolumn htrim
    | criticalToday => exact chosen_criticalToday hcolumn htrim
    | escalated => exact hplain htrim
    | allOpen => exact hplain htrim

/-! ### What the rows of a request are -/

section Selected

variable {env : Env} {fromisoformat : String → Bool} {pg : Pg} {db : Db} {plan : Plan}

/-- A listing sends alerts that satisfy its filters. -/
theorem fetchPage_satisfies {queue : Queue} {args : Args} {row : Alert}
    (hrow : row ∈ alertsOf (fetchPage queue env fromisoformat pg db plan args)) :
    ∃ alert ∈ db.alerts, row = decryptAlert env alert ∧ satisfies queue pg args alert = true := by
  cases hfetch : fetchPage queue env fromisoformat pg db plan args with
  | error e =>
    rw [hfetch] at hrow
    cases hrow
  | ok response =>
    rw [hfetch] at hrow
    obtain ⟨query, hread, hquery⟩ := except_bind_eq_ok.mp hfetch
    obtain ⟨⟨pageNo, perPage⟩, -, hread⟩ := except_bind_eq_ok.mp hread
    obtain ⟨clauses, hclauses, hread⟩ := except_bind_eq_ok.mp hread
    obtain rfl := Except.ok.inj hread
    obtain ⟨p, hp, hquery⟩ := except_bind_eq_ok.mp hquery
    obtain rfl := Except.ok.inj hquery
    obtain ⟨keep, hkeep, hp⟩ := except_bind_eq_ok.mp hp
    have hkept : keep = satisfies queue pg args :=
      Except.ok.inj (hkeep.symm.trans (bindFilters_satisfies hclauses (binds_of_bindFilters hkeep)))
    obtain ⟨found, hfound, hp⟩ := except_bind_eq_ok.mp hp
    obtain rfl := Except.ok.inj hp
    obtain ⟨alert, halert, rfl⟩ := List.mem_map.mp hrow
    have hlisted := (orderBy_perm _ _ _).mem_iff.mp (mem_of_limitOffset hfound halert)
    rw [hkept, List.mem_filter] at hlisted
    exact ⟨alert, hlisted.1, rfl, hlisted.2⟩

/-- **The rows correspond to the preset and the filters** with which their request was sent. -/
theorem shown_selected {r : AlertsRequest} {rows : List Alert} {row : Alert}
    (hrows : loadAlerts r (.json (fetchPage r.queue env fromisoformat pg db plan r.args)) = some rows)
    (hrow : row ∈ rows) :
    ∃ alert ∈ db.alerts, row = decryptAlert env alert ∧ satisfies r.queue pg r.args alert = true ∧
      (r.controls.preset = some .escalated → alert.status = .escalated) := by
  rw [loadAlerts] at hrows
  by_cases hpreset : r.controls.preset = some .escalated
  · rw [if_pos hpreset, Option.some.injEq] at hrows
    rw [← hrows, List.mem_filter] at hrow
    obtain ⟨alert, halert, rfl, hsat⟩ := fetchPage_satisfies hrow.1
    exact ⟨alert, halert, rfl, hsat, fun _ => of_decide_eq_true hrow.2⟩
  · rw [if_neg hpreset, Option.some.injEq] at hrows
    rw [← hrows] at hrow
    obtain ⟨alert, halert, rfl, hsat⟩ := fetchPage_satisfies hrow
    exact ⟨alert, halert, rfl, hsat, fun h => absurd h hpreset⟩

/-- **The rows belong to the preset and the filters** that their request was sent for. -/
theorem shown_selects {r : AlertsRequest} (htrim : r.Trimmed) {rows : List Alert} {row : Alert}
    (hrows : loadAlerts r (.json (fetchPage r.queue env fromisoformat pg db plan r.args)) = some rows)
    (hrow : row ∈ rows) : ∃ alert ∈ db.alerts, row = decryptAlert env alert ∧ r.Selects pg alert := by
  obtain ⟨alert, halert, rfl, hsat, hescalated⟩ := shown_selected hrows hrow
  refine ⟨alert, halert, rfl, ?_⟩
  simp only [satisfies, Bool.and_eq_true, decide_eq_true_eq, List.all_eq_true, Bool.or_eq_true] at hsat
  obtain ⟨⟨hopen, hcolumns⟩, hafter⟩ := hsat
  constructor
  case status =>
    by_cases hpreset : r.controls.preset = some .escalated
    · rw [if_pos hpreset]
      exact hescalated hpreset
    · rw [if_neg hpreset]
      have hname : some alert.status.name = some "open" := hopen (by rw [AlertsRequest.queue, if_neg hpreset])
      revert hname
      cases alert.status <;> decide
  case filters =>
    have hpicks : ∀ column ∈ filterColumns, picks (r.chosen.value column) (column.read alert) = true := by
      intro column hcolumn
      have hall := hcolumns column hcolumn
      rw [textArg_chosen htrim hcolumn] at hall
      rwa [picks, Bool.or_eq_true, decide_eq_true_eq, decide_eq_true_eq]
    rw [Filters.pick, Bool.and_eq_true, Bool.and_eq_true]
    exact ⟨⟨hpicks .severity (by decide), hpicks .source (by decide)⟩, hpicks .assignedTo (by decide)⟩
  case today =>
    intro hpreset hmidnight
    have hargs : textArg r.args "created_after" = pyStrip r.midnight := by
      obtain ⟨⟨preset, f, analyst⟩, midnight⟩ := r
      obtain rfl : preset = some .criticalToday := hpreset
      rw [args_criticalToday, textArg_setItem, if_neg (by decide), textArg_setItem, if_pos rfl]
    rw [hargs, Option.any_eq_true] at hafter
    obtain ⟨t, ht, hle⟩ := hafter.resolve_left hmidnight
    exact ⟨t, ht, of_decide_eq_true hle⟩

end Selected

/-! ### Throughout a run -/

section Latest

variable {env : Env} {fromisoformat : String → Bool} {pg : Pg}

/-- The requests were sent for trimmed values, and the view is the latest's. -/
structure TrimmedLatest (d : Dashboard) : Prop where
  trimmed : ∀ r ∈ d.table.asked, r.Trimmed
  shows : d.table.ShowsLatest loadAlerts

theorem TrimmedLatest.queueLatest {d : Dashboard} (h : TrimmedLatest d) : QueueLatest env fromisoformat pg d where
  shows := h.shows
  selects := by
    intro hquiet r db plan rows hlatest hview
    obtain ⟨shown, hshown⟩ : ∃ shown,
        loadAlerts r (.json (fetchPage r.queue env fromisoformat pg db plan r.args)) = some shown := by
      rw [loadAlerts]
      split_ifs
      · exact ⟨_, rfl⟩
      · exact ⟨_, rfl⟩
    have hsame := h.shows hquiet r _ shown hlatest hshown
    obtain rfl : rows = shown := Option.some.inj (hview.symm.trans hsame)
    exact fun row => shown_selects (h.trimmed r (List.mem_of_getLast? hlatest.1)) hshown

/-- **Every step keeps the latest in view**, if what it asks for is trimmed and a reply that comes last
is the latest. -/
theorem TrimmedLatest.step {d : Dashboard} (h : TrimmedLatest d) {op : DashboardOp} (horder : OrderlyReply d op)
    (htrim : TrimmedTrigger d op) : TrimmedLatest (dashboardStep d op) := by
  cases op with
  | trigger t midnight =>
    rw [dashboardStep]
    cases hc : t.controls d.controls with
    | none => exact h
    | some c =>
      refine ⟨fun r hr => ?_, Replies.Client.ask_showsLatest _⟩
      rcases List.mem_append.mp hr with hold | hnew
      · exact h.trimmed r hold
      · exact List.mem_singleton.mp hnew ▸ htrim c hc
  | setAnalyst text => exact ⟨h.trimmed, h.shows⟩
  | syncFilterOptions sources assignees => exact ⟨h.trimmed, h.shows⟩
  | reply i r =>
    refine ⟨fun r' hr' => h.trimmed r' ?_, Replies.Client.receive_showsLatest h.shows horder⟩
    have hasked : (d.table.receive loadAlerts i r).asked = d.table.asked := Replies.Client.receive_asked
    exact hasked ▸ hr'

theorem trimmedLatest_start (c : Controls) : TrimmedLatest (Dashboard.start c) where
  trimmed := List.forall_mem_nil _
  shows := by
    intro _ r a v hlatest
    cases hlatest.1

end Latest

/-! ### Whatever the replies carry -/

/-- Two pages that differ in what they were answered. -/
structure SameShape (d d' : Dashboard) : Prop where
  controls : d'.controls = d.controls
  asked : d'.table.asked = d.table.asked
  answered : d'.table.answered = d.table.answered

theorem sameShape_refl (d : Dashboard) : SameShape d d := ⟨rfl, rfl, rfl⟩

theorem SameShape.out_iff {d d' : Dashboard} (h : SameShape d d') (i : ℕ) : d'.table.Out i ↔ d.table.Out i := by
  rw [Replies.Client.Out, h.asked, h.answered]
  exact Iff.rfl

theorem SameShape.lastOut_iff {d d' : Dashboard} (h : SameShape d d') (i : ℕ) :
    d'.table.LastOut i ↔ d.table.LastOut i := by
  rw [Replies.Client.LastOut, h.out_iff, h.asked, h.answered]
  exact Iff.rfl

theorem SameShape.receive {d d' : Dashboard} (h : SameShape d d') (i : ℕ) (r r' : Reply) :
    SameShape (dashboardStep d (.reply i r)) (dashboardStep d' (.reply i r')) where
  controls := h.controls
  asked := by
    show (d'.table.receive loadAlerts i r').asked = (d.table.receive loadAlerts i r).asked
    rw [Replies.Client.receive_asked, Replies.Client.receive_asked, h.asked]
  answered := by
    show (d'.table.receive loadAlerts i r').answered = (d.table.receive loadAlerts i r).answered
    by_cases hout : d.table.Out i
    · rw [Replies.Client.receive_answered hout, Replies.Client.receive_answered ((h.out_iff i).mpr hout), h.answered]
    · have hout' : ¬ d'.table.Out i := fun ho => hout ((h.out_iff i).mp ho)
      rw [Replies.Client.receive_of_not_out hout, Replies.Client.receive_of_not_out hout', h.answered]

theorem SameShape.ask {d d' : Dashboard} (h : SameShape d d') (c : Controls) (r : AlertsRequest) :
    SameShape ⟨c, d.table.ask r⟩ ⟨c, d'.table.ask r⟩ :=
  ⟨rfl, congrArg (· ++ [r]) h.asked, h.answered⟩

theorem sameShape_step (d d' : Dashboard) (op op' : DashboardOp) (h : SameShape d d') (ho : SameOrder op op') :
    SameShape (dashboardStep d op) (dashboardStep d' op') := by
  cases ho with
  | reply i r r' => exact h.receive i r r'
  | same op =>
    cases op with
    | trigger t midnight =>
      rw [dashboardStep, dashboardStep, h.controls]
      cases t.controls d.controls with
      | none => exact h
      | some c => exact h.ask c ⟨c, midnight⟩
    | setAnalyst text =>
      rw [dashboardStep, dashboardStep, h.controls]
      exact ⟨rfl, h.asked, h.answered⟩
    | syncFilterOptions sources assignees =>
      rw [dashboardStep, dashboardStep, h.controls]
      exact ⟨rfl, h.asked, h.answered⟩
    | reply i r => exact h.receive i r r

theorem orderlyReply_shape (d d' : Dashboard) (op op' : DashboardOp) (h : SameShape d d') (ho : SameOrder op op')
    (horder : OrderlyReply d op) : OrderlyReply d' op' := by
  have hreply : ∀ i r r', OrderlyReply d (.reply i r) → OrderlyReply d' (.reply i r') := by
    intro i r r' hi hlast
    rw [h.asked]
    exact hi ((h.lastOut_iff i).mp hlast)
  cases ho with
  | reply i r r' => exact hreply i r r' horder
  | same op =>
    cases op with
    | reply i r => exact hreply i r r horder
    | _ => trivial

theorem trimmedTrigger_shape (d d' : Dashboard) (op op' : DashboardOp) (h : SameShape d d') (ho : SameOrder op op')
    (htrim : TrimmedTrigger d op) : TrimmedTrigger d' op' := by
  cases ho with
  | reply i r r' => trivial
  | same op =>
    cases op with
    | trigger t midnight =>
      intro c hc
      rw [h.controls] at hc
      exact htrim c hc
    | _ => trivial

/-! ### The order decides -/

/-- Replies that carry what `answers` says. -/
def DashboardOp.carrying (answers : ℕ → Reply) : DashboardOp → DashboardOp
  | .reply i _ => .reply i (answers i)
  | op => op

theorem sameOrder_carrying (answers : ℕ → Reply) (ops : List DashboardOp) :
    List.Forall₂ SameOrder ops (ops.map (DashboardOp.carrying answers)) := by
  refine List.forall₂_map_right_iff.mpr (List.forall₂_same.mpr fun op _ => ?_)
  cases op with
  | reply i r => exact .reply i r (answers i)
  | _ => exact .same _

/-- What the page has been answered then. -/
theorem replies_carrying (answers : ℕ → Reply) (c : Controls) (ops : List DashboardOp) :
    ∀ e ∈ (Runs.run dashboardStep (Dashboard.start c) (ops.map (DashboardOp.carrying answers))).table.replies,
      e.2 = answers e.1 := by
  rw [Runs.run, List.foldl_map]
  refine Runs.run_inv (fun d op => dashboardStep d (op.carrying answers))
    (I := fun d => ∀ e ∈ d.table.replies, e.2 = answers e.1) (fun d op h => ?_) ops (Dashboard.start c)
    (List.forall_mem_nil _)
  cases op with
  | trigger t midnight =>
    show ∀ e ∈ (dashboardStep d (.trigger t midnight)).table.replies, _
    rw [dashboardStep]
    cases t.controls d.controls with
    | none => exact h
    | some c => exact h
  | setAnalyst text => exact h
  | syncFilterOptions sources assignees => exact h
  | reply i r =>
    show ∀ e ∈ (d.table.receive loadAlerts i (answers i)).replies, _
    by_cases hout : d.table.Out i
    · rw [Replies.Client.receive_replies hout]
      intro e he
      rcases List.mem_append.mp he with hold | hnew
      · exact h e hold
      · rw [List.mem_singleton.mp hnew]
    · rw [Replies.Client.receive_of_not_out hout]
      exact h

/-- An answer that draws nothing to the request at `n - 1`, and one with an escalated alert to all others. -/
def tellingReply (n i : ℕ) : Reply :=
  if i + 1 = n then .json (.error .databaseError)
  else .json (.ok ⟨200, .alertPage ⟨[lowEscalated], 1, 1, 1, 500⟩, none⟩)

theorem loadAlerts_telling (r : AlertsRequest) (n i : ℕ) :
    loadAlerts r (tellingReply n i) = some (if i + 1 = n then [] else [lowEscalated]) := by
  rw [tellingReply]
  split_ifs with hlatest
  · rw [loadAlerts]
    split_ifs <;> rfl
  · rw [loadAlerts]
    split_ifs <;> rfl

/-- **A reply out of order can hide the latest.** -/
theorem orderly_of_always {env : Env} {fromisoformat : String → Bool} {pg : Pg} {c : Controls} {ops : List DashboardOp}
    (hall : ∀ ops', List.Forall₂ SameOrder ops ops' →
      Runs.Always dashboardStep (QueueLatest env fromisoformat pg) (Dashboard.start c) ops') :
    Runs.EachStep dashboardStep OrderlyReply (Dashboard.start c) ops := by
  by_contra hbad
  obtain ⟨bs, op, hinitial, hop⟩ := Runs.exists_of_not_eachStep dashboardStep ops _ hbad
  cases op with
  | reply i r =>
    simp only [OrderlyReply, Classical.not_imp] at hop
    obtain ⟨hlast, holder⟩ := hop
    -- the page before that reply, with the telling answers
    set d := Runs.run dashboardStep (Dashboard.start c) bs with hd
    set answers := tellingReply d.table.asked.length with hanswers
    set d' := Runs.run dashboardStep (Dashboard.start c) (bs.map (DashboardOp.carrying answers)) with hd'
    have hshape : SameShape d d' :=
      Runs.run_related sameShape_step (sameOrder_carrying answers bs) (sameShape_refl _)
    have hlast' : d'.table.LastOut i := (hshape.lastOut_iff i).mpr hlast
    have hlt : i < d.table.asked.length := hlast.1.1
    obtain ⟨ri, hri⟩ : ∃ ri, d'.table.asked[i]? = some ri := ⟨_, List.getElem?_eq_getElem hlast'.1.1⟩
    obtain ⟨latest, hlatest⟩ : ∃ latest, d'.table.asked.getLast? = some latest := by
      have hne : d'.table.asked ≠ [] := List.ne_nil_of_mem (List.mem_of_getElem? hri)
      exact ⟨_, List.getLast?_eq_some_getLast hne⟩
    have hanswered : d.table.asked.length - 1 ∈ d'.table.answered := by
      refine hlast'.2 _ ?_ (by omega)
      rw [hshape.asked]
      omega
    obtain ⟨⟨p, x⟩, hx, hp⟩ := List.mem_map.mp hanswered
    obtain rfl : p = d.table.asked.length - 1 := hp
    have hcarried : x = answers (d.table.asked.length - 1) := replies_carrying answers c bs _ hx
    have hlatest' : d'.table.Latest latest (answers (d.table.asked.length - 1)) := by
      refine ⟨hlatest, ?_⟩
      rw [hshape.asked, ← hcarried]
      exact hx
    have hend := (Runs.always_iff dashboardStep _ _).mp (hall _ (sameOrder_carrying answers ops)) _ (hinitial.map _)
    rw [List.map_append, Runs.run_append, ← hd'] at hend
    refine Replies.Client.receive_hides hlast' (by rwa [hshape.asked]) hri (loadAlerts_telling ri _ i) hlatest'
      (loadAlerts_telling latest _ _) ?_ hend.shows
    rw [if_neg holder, if_pos (by omega)]
    exact List.cons_ne_nil _ _
  | _ => exact hop trivial

/-- **When the queue shows the latest request throughout a run**, of requests for trimmed values: the
replies that leave no request in flight are those to the latest request, exactly when the queue
shows the latest request throughout, whatever the replies carry. -/
theorem queueLatest_iff (env : Env) (fromisoformat : String → Bool) (pg : Pg) (c : Controls) (ops : List DashboardOp)
    (htrim : Runs.EachStep dashboardStep TrimmedTrigger (Dashboard.start c) ops) :
    Runs.EachStep dashboardStep OrderlyReply (Dashboard.start c) ops ↔
      ∀ ops', List.Forall₂ SameOrder ops ops' →
        Runs.Always dashboardStep (QueueLatest env fromisoformat pg) (Dashboard.start c) ops' := by
  constructor
  · intro horder ops' hsame
    have horder' : Runs.EachStep dashboardStep OrderlyReply (Dashboard.start c) ops' :=
      Runs.EachStep.related sameShape_step orderlyReply_shape hsame (sameShape_refl _) horder
    have htrim' : Runs.EachStep dashboardStep TrimmedTrigger (Dashboard.start c) ops' :=
      Runs.EachStep.related sameShape_step trimmedTrigger_shape hsame (sameShape_refl _) htrim
    exact Runs.always_of_eachStep dashboardStep (fun _ _ h hg => TrimmedLatest.step h hg.1 hg.2)
      (fun _ h => h.queueLatest) ops' _ (trimmedLatest_start c)
      ((Runs.eachStep_and dashboardStep ops' _).mpr ⟨horder', htrim'⟩)
  · exact orderly_of_always

section Example

/-- One alert, which is open. -/
def lonePortScan : Db := { applySchema none with alerts := [listedAlert 1 0] }

/-- A request with this preset. -/
def presetRequest (preset : Option Preset) : AlertsRequest := ⟨⟨preset, ⟨"", "", ""⟩, "ana"⟩, ""⟩

/-- What the server answers it. -/
def loneReply (preset : Option Preset) : Reply :=
  .json (fetchPage (presetRequest preset).queue exampleEnv (fun _ => true) utc lonePortScan asStored
    (presetRequest preset).args)

/-- The rows that are drawn of it. -/
def loneRows (preset : Option Preset) : Option (List Alert) :=
  loadAlerts (presetRequest preset) (loneReply preset)

theorem lone_allOpen : loneRows (some .allOpen) = some [listedAlert 1 0] := by
  have hclauses : alertFilters (fun _ => true) Queue.open_.extra (filterQuery ⟨"", "", ""⟩) =
      .ok [(.equals .status, "open")] := by decide
  have horder : orderBy severityOrder (fun row => asStored.ids row.id) (lonePortScan.alerts.filter isOpen) =
      [listedAlert 1 0] := List.perm_singleton.mp (orderBy_perm _ _ _)
  have hfetch : fetchPage .open_ exampleEnv (fun _ => true) utc lonePortScan asStored
      (filterQuery ⟨"", "", ""⟩) =
        .ok ⟨200, .alertPage (listedPage exampleEnv lonePortScan isOpen asStored 500 0), none⟩ :=
    fetchPage_eq (filterQuery_page _) hclauses (bindFilters_open utc) (by decide) asStored
  have hpage : (listedPage exampleEnv lonePortScan isOpen asStored 500 0).alerts = [listedAlert 1 0] := by
    rw [listedPage, pageOf, horder]
    rfl
  show some (alertsOf (fetchPage .open_ exampleEnv (fun _ => true) utc lonePortScan asStored
    (filterQuery ⟨"", "", ""⟩))) = _
  rw [hfetch]
  exact congrArg some hpage

theorem lone_escalated : loneRows (some .escalated) = some [] := by
  have hrows : ∀ rows, loneRows (some .escalated) = some rows → rows = [] := by
    intro rows hrows
    rw [List.eq_nil_iff_forall_not_mem]
    intro row hrow
    obtain ⟨alert, halert, -, -, hescalated⟩ := shown_selected hrows hrow
    obtain rfl := List.mem_singleton.mp halert
    exact absurd (hescalated rfl) (by decide)
  exact congrArg some (hrows _ rfl)

/-- The page on which nothing is chosen yet. -/
def loadedPage : Dashboard := Dashboard.start (presetRequest none).controls

/-- Two requests are in flight, and their replies come in order. -/
def orderedReplies : List DashboardOp :=
  [.trigger (.applyPreset .allOpen) "", .trigger (.applyPreset .escalated) "", .reply 0 (loneReply (some .allOpen)),
   .reply 1 (loneReply (some .escalated))]

theorem queueLatest_ordered :
    Runs.Always dashboardStep (QueueLatest exampleEnv (fun _ => true) utc) loadedPage orderedReplies := by
  have htrim : Runs.EachStep dashboardStep TrimmedTrigger loadedPage orderedReplies := by
    refine ⟨fun c hc => ?_, fun c hc => ?_, trivial, trivial, trivial⟩
    · obtain rfl := Option.some.inj hc
      decide
    · obtain rfl := Option.some.inj hc
      decide
  have horder : Runs.EachStep dashboardStep OrderlyReply loadedPage orderedReplies := by
    refine ⟨trivial, trivial, fun hlast => ?_, fun _ => rfl, trivial⟩
    exact absurd (hlast.2 1 (by decide) (by decide)) (by decide)
  exact (queueLatest_iff exampleEnv (fun _ => true) utc _ orderedReplies htrim).mp horder orderedReplies
    (List.forall₂_same.mpr fun op _ => .same op)

/-- The page is loaded; then the analyst clicks `All Open` and `Escalated`, and the response to the
second click comes first. -/
def swappedReplies : List DashboardOp :=
  [.trigger .load "", .reply 0 (loneReply none), .trigger (.applyPreset .allOpen) "",
   .trigger (.applyPreset .escalated) "", .reply 2 (loneReply (some .escalated)),
   .reply 1 (loneReply (some .allOpen))]

/-- The page in the end. -/
def swappedPage : Dashboard := Runs.run dashboardStep loadedPage swappedReplies

/-- **With `Escalated` active and no request in flight, the table shows an open alert.** -/
theorem escalated_overwritten :
    swappedPage.controls.preset = some .escalated ∧ swappedPage.table.Quiet ∧
      swappedPage.table.view = some [listedAlert 1 0] ∧ (listedAlert 1 0).status = .open_ ∧
      ¬ Runs.Always dashboardStep (QueueLatest exampleEnv (fun _ => true) utc) loadedPage swappedReplies := by
  have hquiet : swappedPage.table.Quiet := by decide
  have hlast : swappedPage.table.view =
      (loneRows (some .allOpen)).or ((loneRows (some .escalated)).or ((loneRows none).or none)) := rfl
  have hview : swappedPage.table.view = some [listedAlert 1 0] := by rw [hlast, lone_allOpen, Option.some_or]
  refine ⟨rfl, hquiet, hview, rfl, fun h => ?_⟩
  have hend : QueueLatest exampleEnv (fun _ => true) utc swappedPage :=
    (Runs.always_iff dashboardStep _ _).mp h _ List.prefix_rfl
  have hlatest : swappedPage.table.Latest (presetRequest (some .escalated)) (loneReply (some .escalated)) :=
    ⟨rfl, List.mem_cons_of_mem _ (List.mem_cons_self ..)⟩
  have hshown := hend.shows hquiet _ _ _ hlatest lone_escalated
  rw [hview] at hshown
  cases hshown

end Example

end SocDashboard
