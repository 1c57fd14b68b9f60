/-
# Do the views of the dashboard cover what the filters select?

The dashboard asks for one page of at most 500 alerts. The rows of its
`Escalated` preset are those of that page with the status `escalated`, and its
charts count the alerts of that page. So both leave out what the filters
select beyond the first 500; a category or a source with the name of a member
of `Object.prototype` is not counted; and a chosen value is trimmed on its way,
so that what has white space at its ends selects other alerts.

Key definitions: `Filters`, `filterQuery`, `loadEscalated`, `loadDistribution`,
`matching`, `ViewsCover`, `Coverable`.
Key theorems: `satisfies_filterQuery`, `fetched_eq`, `viewsCover_iff`.
-/
import SocDashboard.Breakdowns
import SocDashboard.Filters
import SocDashboard.Lib.JsCounts
import SocDashboard.Pages

namespace SocDashboard

open Dict JsCounts Paging Query

/-! ### The request -/

/-- The white space of `trim` in JavaScript. -/
def jsSpaces : List Char :=
  ['\t', '\n', '\x0b', '\x0c', '\r', ' ', '\u00a0', '\u1680', '\u2000', '\u2001', '\u2002', '\u2003',
   '\u2004', '\u2005', '\u2006', '\u2007', '\u2008', '\u2009', '\u200a', '\u2028', '\u2029', '\u202f',
   '\u205f', '\u3000', '\ufeff']

def jsTrim (s : String) : String := Trim.trim (fun c => c ∈ jsSpaces) s

/-- What the three `<select>` controls hold; nothing, where one is not on the page. -/
structure Filters where
  severity : String
  source : String
  assignedTo : String
  deriving DecidableEq, Repr

/-- `currentFilters`. -/
def currentFilters (f : Filters) : Filters := ⟨jsTrim f.severity, jsTrim f.source, jsTrim f.assignedTo⟩

/-- `if (value) qs.set(name, value)`. -/
def setParam (name value : String) : Args := if value = "" then [] else [(name, value)]

/-- `filterQuery`, as the server parses it. -/
def filterQuery (f : Filters) : Args :=
  let current := currentFilters f
  setParam "severity" current.severity ++ setParam "source" current.source ++
    setParam "assigned_to" current.assignedTo ++ [("per_page", "500")]

/-- `data.alerts || []`; the body of an error has no alerts. -/
def alertsOf : Except Exc Response → List Alert
  | .ok ⟨_, .alertPage p, _⟩ => p.alerts
  | _ => []

/-- `fetch("/api/alerts/all" + filterQuery())`. -/
def fetched (env : Env) (fromisoformat : String → Bool) (pg : Pg) (db : Db) (f : Filters) (plan : Plan) :
    List Alert :=
  alertsOf (fetchPage .all env fromisoformat pg db plan (filterQuery f))

/-! ### The views -/

def isEscalated (row : Alert) : Bool := row.status = .escalated

/-- `loadAlerts` under the preset `escalated`. -/
def loadEscalated (env : Env) (fromisoformat : String → Bool) (pg : Pg) (db : Db) (f : Filters)
    (plan : Plan) : List Alert :=
  (fetched env fromisoformat pg db f plan).filter isEscalated

/-- The keys that `tally` counts: `r[key] || "unknown"`. -/
def tallyKeys (column : Alert → Option String) (rows : List Alert) : List String :=
  rows.map fun row => orText (column row) "unknown"

/-- `tally`; `shown` is the text of a member of `Object.prototype`. -/
def tally (shown : String → String) (rows : List Alert) (column : Alert → Option String) : Object :=
  counted shown (tallyKeys column rows)

structure Charts where
  category : List (String × JsCounts.Value)
  severity : List (String × JsCounts.Value)
  source : List (String × JsCounts.Value)

/-- The severities in the order of their chart. -/
def severityLabels : List String := ["CRITICAL", "HIGH", "MEDIUM", "LOW"]

/-- `order.filter(s => s in bySeverity)`. -/
def labelsIn (bySeverity : Object) : List String := severityLabels.filter fun s => s ∈ keys bySeverity

/-- `loadDistribution`: the labels and the data of its three charts. -/
def loadDistribution (env : Env) (fromisoformat : String → Bool) (pg : Pg) (shown : String → String)
    (db : Db) (f : Filters) (plan : Plan) : Charts :=
  let alerts := fetched env fromisoformat pg db f plan
  let byCategory := tally shown alerts categoryOf
  let bySeverity := tally shown alerts severityOf
  let bySource := tally shown alerts sourceOf
  { category := chart replaceUnderscore (objectKeys byCategory) byCategory
    severity := chart id (labelsIn bySeverity) bySeverity
    source := chart id (sorted (objectKeys bySource)) bySource }

/-! ### What they are to show -/

/-- What a control holds picks a row by its column. -/
def picks (value : String) (column : Option String) : Bool := value = "" || column = some value

/-- The row has what the three controls hold. -/
def Filters.pick (f : Filters) (row : Alert) : Bool :=
  picks f.severity (some row.severity.name) && picks f.source row.source && picks f.assignedTo row.assignedTo

/-- The alerts that match the filters. -/
def matching (db : Db) (f : Filters) : List Alert := db.alerts.filter f.pick

/-- The counts of a column over some alerts, a missing value counted as `unknown`. -/
def columnCounts (label : String → String) (column : Alert → Option String) (rows : List Alert) :
    List (String × JsCounts.Value) :=
  (count (tallyKeys column rows)).map fun e => (label e.1, .number e.2)

/-- In whatever order the page comes, the rows are the escalated alerts that match, and the charts
hold the counts of all alerts that match. -/
structure ViewsCover (env : Env) (fromisoformat : String → Bool) (pg : Pg) (shown : String → String)
    (db : Db) (f : Filters) : Prop where
  escalated : ∀ plan, (loadEscalated env fromisoformat pg db f plan).Perm
    (((matching db f).filter isEscalated).map (decryptAlert env))
  category : ∀ plan, (loadDistribution env fromisoformat pg shown db f plan).category.Perm
    (columnCounts replaceUnderscore categoryOf (matching db f))
  severity : ∀ plan, (loadDistribution env fromisoformat pg shown db f plan).severity.Perm
    (columnCounts id severityOf (matching db f))
  source : ∀ plan, (loadDistribution env fromisoformat pg shown db f plan).source.Perm
    (columnCounts id sourceOf (matching db f))

/-- An alert whose category or source has the name of a member of `Object.prototype`. -/
def Uncounted (row : Alert) : Prop :=
  row.category ∈ objectPrototype ∨ ∃ s, row.source = some s ∧ s ∈ objectPrototype

/-- What is left of the chosen values: the page trims them and the server strips them. -/
def Filters.trimmed (f : Filters) : Filters :=
  ⟨pyStrip (jsTrim f.severity), pyStrip (jsTrim f.source), pyStrip (jsTrim f.assignedTo)⟩

/-- Some alerts look like others: as many of every category, severity and source, and the same
escalated ones. -/
structure LookAlike (env : Env) (rows rows' : List Alert) : Prop where
  category : (columnCounts replaceUnderscore categoryOf rows).Perm (columnCounts replaceUnderscore categoryOf rows')
  severity : (columnCounts id severityOf rows).Perm (columnCounts id severityOf rows')
  source : (columnCounts id sourceOf rows).Perm (columnCounts id sourceOf rows')
  escalated : ((rows.filter isEscalated).map (decryptAlert env)).Perm
    ((rows'.filter isEscalated).map (decryptAlert env))

/-- The first 500 rows of a listing. -/
def firstRows (plan : Plan) (rows : List Alert) : List Alert :=
  (orderBy severityOrder (fun row => plan.ids row.id) rows).take 500

/-- The trimmed values select what was chosen, which fits on a page and is counted; or they select
other alerts, and in every order the first 500 of these happen to look like the chosen ones. -/
def Coverable (env : Env) (db : Db) (f : Filters) : Prop :=
  (matching db f.trimmed = matching db f ∧ (matching db f).length ≤ 500 ∧
      ∀ row ∈ matching db f, ¬Uncounted row) ∨
    (matching db f.trimmed ≠ matching db f ∧ ∀ plan : Plan,
      LookAlike env (firstRows plan (matching db f.trimmed)) (matching db f) ∧
        ∀ row ∈ firstRows plan (matching db f.trimmed), ¬Uncounted row)

/-- No text that a filter is compared with has a NUL, which the database does not store. -/
structure AlertTexts (db : Db) : Prop where
  source : ∀ row ∈ db.alerts, ∀ s, row.source = some s → storable s = true
  assignee : ∀ row ∈ db.alerts, ∀ n, row.assignedTo = some n → storable n = true

/-! ### The page that is fetched -/

section Fetched

variable {env : Env} {fromisoformat : String → Bool} {pg : Pg} {db : Db} {f : Filters}

theorem filterQuery_page (f : Filters) :
    parsePagination (filterQuery f) = .ok (((0 : ℕ) : ℤ) + 1, ((500 : ℕ) : ℤ)) := by
  have hper : pyInt "500" = .ok 500 := by decide
  have hlookup : (filterQuery f).lookup "page" = none ∧ (filterQuery f).lookup "per_page" = some "500" := by
    simp only [filterQuery, setParam]
    split_ifs <;> exact ⟨rfl, rfl⟩
  simp only [parsePagination, intArg, hlookup.1, hlookup.2, hper]
  rfl

/-- What a control holds. -/
def Filters.value (f : Filters) : FilterColumn → String
  | .status => ""
  | .severity => f.severity
  | .source => f.source
  | .assignedTo => f.assignedTo

/-- The parameters of the filters are read as what the controls hold, stripped. -/
theorem textArg_params (f : Filters) {rest : Args} {column : FilterColumn} (hcolumn : column ∈ filterColumns)
    (hrest : rest.lookup column.name = none) :
    textArg (setParam "severity" f.severity ++ setParam "source" f.source ++
      setParam "assigned_to" f.assignedTo ++ rest) column.name = pyStrip (f.value column) := by
  rw [textArg, List.lookup_append, hrest, Option.or_none]
  simp only [filterColumns, List.mem_cons, List.not_mem_nil, or_false] at hcolumn
  rcases hcolumn with rfl | rfl | rfl
  all_goals
    simp only [setParam, Filters.value, FilterColumn.name]
    split_ifs <;> simp_all [List.lookup_cons]

theorem filterQuery_createdAfter (f : Filters) : textArg (filterQuery f) "created_after" = "" := by
  have hlookup : (filterQuery f).lookup "created_after" = none := by
    simp only [filterQuery, setParam]
    split_ifs <;> rfl
  rw [textArg, hlookup]
  rfl

/-- **The server reads the chosen values, trimmed.** -/
theorem satisfies_filterQuery (pg : Pg) (f : Filters) : satisfies .all pg (filterQuery f) = f.trimmed.pick := by
  have hread : ∀ column ∈ filterColumns, textArg (filterQuery f) column.name =
      pyStrip ((currentFilters f).value column) := fun column hcolumn =>
    textArg_params (currentFilters f) hcolumn (by revert column; decide)
  funext row
  have hall : filterColumns = [.severity, .source, .assignedTo] := rfl
  simp only [hall, List.forall_mem_cons] at hread
  obtain ⟨hseverity, hsource, hassigned, -⟩ := hread
  have hpicks : ∀ value column, (decide (value = "") || decide (column = some value)) = picks value column :=
    fun _ _ => rfl
  simp only [satisfies, filterQuery_createdAfter, hall, List.all_cons, List.all_nil, hseverity, hsource, hassigned,
    hpicks]
  simp [Filters.pick, Filters.trimmed, Filters.value, currentFilters, FilterColumn.read, Bool.and_assoc]

theorem filterQuery_clauses (fromisoformat : String → Bool) (f : Filters) :
    alertFilters fromisoformat Queue.all.extra (filterQuery f) = .ok (columnFilters (filterQuery f)) := by
  rw [alertFilters, filterQuery_createdAfter, if_pos rfl, Queue.extra, List.nil_append]

/-- No stored text is one that the driver refuses to send. -/
theorem read_storable (h : AlertTexts db) {row : Alert} (hrow : row ∈ db.alerts) {column : FilterColumn}
    {v : String} (hv : column.read row = some v) : storable v = true := by
  cases column with
  | status =>
    obtain rfl := Option.some.inj hv
    cases row.status <;> decide
  | severity =>
    obtain rfl := Option.some.inj hv
    cases row.severity <;> decide
  | source => exact h.source row hrow v hv
  | assignedTo => exact h.assignee row hrow v hv

/-- With filters that cannot be sent, nothing matches. -/
theorem matching_eq_nil (h : AlertTexts db) (hbinds : ¬∀ c ∈ columnFilters (filterQuery f), c.1.Binds pg c.2) :
    matching db f.trimmed = [] := by
  rw [matching, List.filter_eq_nil_iff]
  intro row hrow hmatch
  rw [← satisfies_filterQuery pg f, ← all_keeps (filterQuery_clauses (fun _ => true) f), List.all_eq_true] at hmatch
  apply hbinds
  intro c hc
  have hkeeps := hmatch c hc
  simp only [columnFilters, List.mem_filterMap] at hc
  obtain ⟨column, -, hcolumn⟩ := hc
  split_ifs at hcolumn
  obtain rfl := Option.some.inj hcolumn
  exact ⟨read_storable h hrow (of_decide_eq_true hkeeps), by simp⟩

/-- **What the dashboard is given**: the first 500 of the alerts that the trimmed values match, in an
order of the listing. -/
theorem fetched_eq (h : AlertTexts db) (plan : Plan) :
    fetched env fromisoformat pg db f plan = (firstRows plan (matching db f.trimmed)).map (decryptAlert env) := by
  have hclauses : alertFilters fromisoformat Queue.all.extra (filterQuery f) =
      .ok (columnFilters (filterQuery f)) := filterQuery_clauses fromisoformat f
  by_cases hbinds : ∀ c ∈ columnFilters (filterQuery f), c.1.Binds pg c.2
  · have hkeep : bindFilters pg (columnFilters (filterQuery f)) = .ok (satisfies .all pg (filterQuery f)) :=
      bindFilters_satisfies hclauses hbinds
    have hoffset : (((0 : ℕ) : ℤ) * ((500 : ℕ) : ℤ)) ≤ maxBigint := by simp [maxBigint]
    rw [fetched, fetchPage_eq (filterQuery_page f) hclauses hkeep hoffset plan, alertsOf, listedPage, pageOf,
      page, Nat.zero_mul, List.drop_zero, satisfies_filterQuery]
    rfl
  · cases hkeep : bindFilters pg (columnFilters (filterQuery f)) with
    | ok keep => exact absurd (binds_of_bindFilters hkeep) hbinds
    | error e =>
      rw [fetched, fetchPage_refused (filterQuery_page f) hclauses hkeep plan, matching_eq_nil h hbinds]
      simp [alertsOf, firstRows, orderBy]

end Fetched

/-! ### When the views cover it -/

section Cover

variable {env : Env} {fromisoformat : String → Bool} {pg : Pg} {shown : String → String} {db : Db}
  {f : Filters} {rows : List Alert} {column : Alert → Option String}

theorem orText_mem_iff {v : Option String} :
    orText v "unknown" ∈ objectPrototype ↔ ∃ s, v = some s ∧ s ∈ objectPrototype := by
  have hunknown : "unknown" ∉ objectPrototype := by decide
  have hempty : "" ∉ objectPrototype := by decide
  rw [orText]
  cases v with
  | none => simp [hunknown]
  | some s =>
    by_cases hs : s = ""
    · simp [hs, hunknown, hempty]
    · simp [hs]

theorem plain_category {row : Alert} (h : ¬Uncounted row) :
    orText (categoryOf row) "unknown" ∉ objectPrototype := by
  rw [orText_mem_iff]
  rintro ⟨s, hs, hmember⟩
  obtain rfl := Option.some.inj hs
  exact h (.inl hmember)

theorem plain_source {row : Alert} (h : ¬Uncounted row) :
    orText (sourceOf row) "unknown" ∉ objectPrototype := by
  rw [orText_mem_iff]
  exact fun hs => h (.inr hs)

theorem severityName_mem (row : Alert) : orText (severityOf row) "unknown" ∈ severityLabels := by
  show orText (some row.severity.name) "unknown" ∈ severityLabels
  cases row.severity <;> decide

theorem severityOf_plain (row : Alert) : orText (severityOf row) "unknown" ∉ objectPrototype := by
  have hnames : ∀ k ∈ severityLabels, k ∉ objectPrototype := by decide
  exact hnames _ (severityName_mem row)

/-- A column of the rows that are sent is that of the rows that are stored. -/
theorem tallyKeys_decrypted (hcolumn : ∀ row, column (decryptAlert env row) = column row) (rows : List Alert) :
    tallyKeys column (rows.map (decryptAlert env)) = tallyKeys column rows := by
  rw [tallyKeys, List.map_map]
  exact List.map_congr_left fun row _ => congrArg (orText · "unknown") (hcolumn row)

/-- The severities that occur, in the order of their chart. -/
theorem labelsIn_perm (rows : List Alert) :
    (labelsIn (tally shown rows severityOf)).Perm (keys (tally shown rows severityOf)) := by
  have hsub : ∀ k ∈ keys (tally shown rows severityOf), k ∈ severityLabels := by
    intro k hk
    obtain ⟨row, -, rfl⟩ := List.mem_map.mp (mem_of_mem_counted hk)
    exact severityName_mem row
  have hnodup : severityLabels.Nodup := by decide
  refine (List.perm_ext_iff_of_nodup (hnodup.filter _) nodup_counted).mpr fun k => ?_
  rw [List.mem_filter, decide_eq_true_iff]
  exact ⟨And.right, fun hk => ⟨hsub k hk, hk⟩⟩

/-- **A count of every row needs all of them**, under names that are counted. -/
theorem plain_of_counts {first rows : List Alert} (hlength : first.length ≤ rows.length)
    (h : (tallyKeys column rows).length = (tallyKeys column first).countP fun k => k ∉ objectPrototype) :
    first.length = rows.length ∧ ∀ row ∈ first, orText (column row) "unknown" ∉ objectPrototype := by
  have hcounted : (tallyKeys column first).countP (fun k => k ∉ objectPrototype) ≤ (tallyKeys column first).length :=
    List.countP_le_length
  simp only [tallyKeys, List.length_map] at h hcounted
  have hsame : first.length = rows.length := by omega
  refine ⟨hsame, fun row hrow => ?_⟩
  rw [← hsame, ← List.length_map (fun row => orText (column row) "unknown")] at h
  exact of_decide_eq_true (List.countP_eq_length.mp h.symm _ (List.mem_map_of_mem hrow))

/-- Rows that are no more than a page are all on it. -/
theorem firstRows_perm {plan : Plan} (hle : rows.length ≤ 500) : (firstRows plan rows).Perm rows := by
  have hsorted : (orderBy severityOrder (fun row => plan.ids row.id) rows).Perm rows := orderBy_perm _ _ _
  have hlength := hsorted.length_eq
  rw [firstRows, List.take_of_length_le (by omega)]
  exact hsorted

theorem lookAlike_of_perm {rows' : List Alert} (h : rows.Perm rows') : LookAlike env rows rows' where
  category := (count_perm (h.map _)).map _
  severity := (count_perm (h.map _)).map _
  source := (count_perm (h.map _)).map _
  escalated := (h.filter _).map _

variable (h : AlertTexts db)

include h

/-- The keys that a chart is made of. -/
theorem tallyKeys_fetched (hcolumn : ∀ row, column (decryptAlert env row) = column row) (plan : Plan) :
    tallyKeys column (fetched env fromisoformat pg db f plan) =
      tallyKeys column (firstRows plan (matching db f.trimmed)) := by
  rw [fetched_eq h, tallyKeys_decrypted hcolumn]

/-- A chart of a page whose names are counted holds the counts of the page. -/
theorem chart_columnCounts (hcolumn : ∀ row, column (decryptAlert env row) = column row) {plan : Plan}
    (hplain : ∀ row ∈ firstRows plan (matching db f.trimmed), orText (column row) "unknown" ∉ objectPrototype)
    {label : String → String} {labels : List String}
    (hl : labels.Perm (keys (tally shown (fetched env fromisoformat pg db f plan) column))) :
    (chart label labels (tally shown (fetched env fromisoformat pg db f plan) column)).Perm
      (columnCounts label column (firstRows plan (matching db f.trimmed))) := by
  rw [tally, tallyKeys_fetched h hcolumn] at hl ⊢
  refine chart_perm (fun k hk => ?_) (List.Perm.refl _) hl
  obtain ⟨row, hrow, rfl⟩ := List.mem_map.mp hk
  exact hplain row hrow

/-- The rows under `Escalated` are the escalated ones of the page. -/
theorem escalated_iff (plan : Plan) (rows : List Alert) :
    (loadEscalated env fromisoformat pg db f plan).Perm ((rows.filter isEscalated).map (decryptAlert env)) ↔
      (((firstRows plan (matching db f.trimmed)).filter isEscalated).map (decryptAlert env)).Perm
        ((rows.filter isEscalated).map (decryptAlert env)) := by
  have hstatus : isEscalated ∘ decryptAlert env = isEscalated := rfl
  rw [loadEscalated, fetched_eq h, List.filter_map, hstatus]

/-- A chart with the counts of other rows shows that the page is as long, and its names are counted. -/
theorem plain_of_chart (hcolumn : ∀ row, column (decryptAlert env row) = column row) {plan : Plan}
    {label : String → String} {labels : List String}
    (hlength : (firstRows plan (matching db f.trimmed)).length ≤ rows.length)
    (hl : labels.Perm (keys (tally shown (fetched env fromisoformat pg db f plan) column)))
    (hchart : (chart label labels (tally shown (fetched env fromisoformat pg db f plan) column)).Perm
      (columnCounts label column rows)) :
    ∀ row ∈ firstRows plan (matching db f.trimmed), orText (column row) "unknown" ∉ objectPrototype := by
  refine (plain_of_counts hlength ?_).2
  rw [length_of_chart hl hchart, tallyKeys_fetched h hcolumn]

/-- What the views show is what the first rows look like, and there is nothing in them that a chart
leaves out. -/
theorem ViewsCover.lookAlike {shown : String → String} {f : Filters}
    (hcover : ViewsCover env fromisoformat pg shown db f) (plan : Plan) :
    LookAlike env (firstRows plan (matching db f.trimmed)) (matching db f) ∧
      ∀ row ∈ firstRows plan (matching db f.trimmed), ¬Uncounted row := by
  have hcategory := hcover.category plan
  have hseverity := hcover.severity plan
  have hsource := hcover.source plan
  simp only [loadDistribution] at hcategory hseverity hsource
  have hcategories := objectKeys_perm (tally shown (fetched env fromisoformat pg db f plan) categoryOf)
  have hsources := (sorted_perm _).trans
    (objectKeys_perm (tally shown (fetched env fromisoformat pg db f plan) sourceOf))
  -- every severity is counted, so the page has as many rows as match
  have hlength : (firstRows plan (matching db f.trimmed)).length = (matching db f).length := by
    have hcount := length_of_chart (labelsIn_perm _) hseverity
    rw [tallyKeys_fetched h (fun _ => rfl), List.countP_eq_length.mpr] at hcount
    · simpa [tallyKeys] using hcount.symm
    · intro k hk
      obtain ⟨row, hrow, rfl⟩ := List.mem_map.mp hk
      exact decide_eq_true (severityOf_plain row)
  have hplainCategory := plain_of_chart h (fun _ => rfl) hlength.le hcategories hcategory
  have hplainSource := plain_of_chart h (fun _ => rfl) hlength.le hsources hsource
  constructor
  · constructor
    case category => exact (chart_columnCounts h (fun _ => rfl) hplainCategory hcategories).symm.trans hcategory
    case severity =>
      have hplain := fun row (_ : row ∈ firstRows plan (matching db f.trimmed)) => severityOf_plain row
      exact (chart_columnCounts h (fun _ => rfl) hplain (labelsIn_perm _)).symm.trans hseverity
    case source => exact (chart_columnCounts h (fun _ => rfl) hplainSource hsources).symm.trans hsource
    case escalated => exact (escalated_iff h plan _).mp (hcover.escalated plan)
  · intro row hrow huncounted
    rcases huncounted with hmember | hmember
    · exact hplainCategory row hrow (orText_mem_iff.mpr ⟨_, rfl, hmember⟩)
    · exact hplainSource row hrow (orText_mem_iff.mpr hmember)

/-- **What the views show is what the first rows look like.** -/
theorem viewsCover_iff_lookAlike (env : Env) (fromisoformat : String → Bool) (pg : Pg) (shown : String → String)
    (f : Filters) :
    ViewsCover env fromisoformat pg shown db f ↔ ∀ plan : Plan,
      LookAlike env (firstRows plan (matching db f.trimmed)) (matching db f) ∧
        ∀ row ∈ firstRows plan (matching db f.trimmed), ¬Uncounted row := by
  constructor
  · exact fun hcover plan => hcover.lookAlike h plan
  · intro hall
    constructor
    case escalated => exact fun plan => (escalated_iff h plan _).mpr (hall plan).1.escalated
    case category =>
      intro plan
      simp only [loadDistribution]
      exact (chart_columnCounts h (fun _ => rfl) (fun row hrow => plain_category ((hall plan).2 row hrow))
        (objectKeys_perm _)).trans (hall plan).1.category
    case severity =>
      intro plan
      simp only [loadDistribution]
      have hplain := fun row (_ : row ∈ firstRows plan (matching db f.trimmed)) => severityOf_plain row
      exact (chart_columnCounts h (fun _ => rfl) hplain (labelsIn_perm _)).trans (hall plan).1.severity
    case source =>
      intro plan
      simp only [loadDistribution]
      exact (chart_columnCounts h (fun _ => rfl) (fun row hrow => plain_source ((hall plan).2 row hrow))
        ((sorted_perm _).trans (objectKeys_perm _))).trans (hall plan).1.source

/-- **When the views cover what the filters select**: when what is left of the chosen values selects
the same alerts, exactly when at most 500 match and none of them has a category or a source that an
object does not count; otherwise only when other alerts happen to look like them. -/
theorem viewsCover_iff (env : Env) (fromisoformat : String → Bool) (pg : Pg) (shown : String → String)
    (f : Filters) : ViewsCover env fromisoformat pg shown db f ↔ Coverable env db f := by
  rw [viewsCover_iff_lookAlike h]
  by_cases hsame : matching db f.trimmed = matching db f
  · have hall : Coverable env db f ↔ (matching db f).length ≤ 500 ∧ ∀ row ∈ matching db f, ¬Uncounted row := by
      simp [Coverable, hsame]
    rw [hall, hsame]
    constructor
    · intro hfirst
      obtain ⟨halike, hcounted⟩ := hfirst asStored
      have hlength : (matching db f).length ≤ 500 := by
        have hcount := length_of_counts halike.severity
        simp only [tallyKeys, List.length_map] at hcount
        rw [← hcount, firstRows]
        exact List.length_take_le _ _
      exact ⟨hlength, fun row hrow => hcounted row ((firstRows_perm hlength).mem_iff.mpr hrow)⟩
    · rintro ⟨hle, hcounted⟩ plan
      have hperm : (firstRows plan (matching db f)).Perm (matching db f) := firstRows_perm hle
      exact ⟨lookAlike_of_perm hperm, fun row hrow => hcounted row (hperm.mem_iff.mp hrow)⟩
  · simp [Coverable, hsame]

end Cover

/-! ### Filters that are covered -/

/-- An alert of a sensor, of some status. -/
def sensorAlert (id : ℕ) (source : String) (status : Status) (assignedTo : Option String) : Alert :=
  { listedAlert id id with source := some source, status := status, assignedTo := assignedTo }

/-- Two alerts of `zeek`, one of them escalated, and one of another sensor. -/
def sensorAlerts : Db :=
  { applySchema none with
    alerts := [sensorAlert 1 "zeek" .open_ none, sensorAlert 2 "zeek" .escalated (some "ana"),
      sensorAlert 3 "suricata" .escalated (some "ana")] }

def highZeek : Filters := ⟨"HIGH", "zeek", ""⟩

/-- **The views of a sensor's alerts.** -/
theorem viewsCover_highZeek :
    ViewsCover exampleEnv (fun _ => false) utc id sensorAlerts highZeek ∧
      ((matching sensorAlerts highZeek).filter isEscalated).length = 1 := by
  have htexts : AlertTexts sensorAlerts := ⟨by decide, by decide⟩
  have hmatching : matching sensorAlerts highZeek =
      [sensorAlert 1 "zeek" .open_ none, sensorAlert 2 "zeek" .escalated (some "ana")] := by decide
  have htrimmed : highZeek.trimmed = highZeek := by decide
  refine ⟨(viewsCover_iff htexts exampleEnv (fun _ => false) utc id highZeek).mpr (.inl ⟨by rw [htrimmed], ?_, ?_⟩), ?_⟩
  · rw [hmatching]
    decide
  · rw [hmatching]
    simp [sensorAlert, listedAlert, Uncounted, objectPrototype]
  · rw [hmatching]
    decide

/-! ### An escalated alert behind 500 others -/

def unfiltered : Filters := ⟨"", "", ""⟩

theorem matching_unfiltered (db : Db) : matching db unfiltered = db.alerts := List.filter_eq_self.mpr fun _ _ => rfl

/-- A critical alert that is open, and a low one that was escalated. -/
def openCritical (i : ℕ) : Alert := { listedAlert (i + 1) 0 with severity := .critical }

def lowEscalated : Alert :=
  { listedAlert 501 0 with severity := .low, status := .escalated, assignedTo := some "ana" }

def crowded : Db :=
  { applySchema none with alerts := (List.range 500).map openCritical ++ [lowEscalated] }

theorem crowded_cases {row : Alert} (h : row ∈ crowded.alerts) :
    (∃ i, row = openCritical i) ∨ row = lowEscalated := by
  rcases List.mem_append.mp h with hopen | hlow
  · obtain ⟨i, -, rfl⟩ := List.mem_map.mp hopen
    exact .inl ⟨i, rfl⟩
  · exact .inr (List.mem_singleton.mp hlow)

theorem crowded_texts : AlertTexts crowded := by
  constructor
  case source =>
    intro row hrow
    rcases crowded_cases hrow with ⟨i, rfl⟩ | rfl <;> exact nofun
  case assignee =>
    intro row hrow n hn
    rcases crowded_cases hrow with ⟨i, rfl⟩ | rfl
    · exact nomatch hn
    · obtain rfl := Option.some.inj hn
      decide

/-- All others come before it. -/
theorem ahead_lowEscalated : ahead severityOrder crowded.alerts lowEscalated = 500 := by
  have hall : ((List.range 500).map openCritical).countP (fun x => severityOrder x < severityOrder lowEscalated) =
      ((List.range 500).map openCritical).length := by
    refine List.countP_eq_length.mpr fun x hx => ?_
    obtain ⟨i, -, rfl⟩ := List.mem_map.mp hx
    have hkey : severityOrder (openCritical i) = toLex (1, 0) := rfl
    rw [hkey]
    decide
  rw [ahead, crowded, List.countP_append, hall, List.length_map, List.length_range]
  rfl

/-- **The escalated alert is not shown** among the first 500. -/
theorem crowded_uncovered :
    loadEscalated exampleEnv (fun _ => false) utc crowded unfiltered asStored = [] ∧
      ¬ViewsCover exampleEnv (fun _ => false) utc id crowded unfiltered := by
  have hnone : loadEscalated exampleEnv (fun _ => false) utc crowded unfiltered asStored = [] := by
    have htrimmed : unfiltered.trimmed = unfiltered := by decide
    rw [loadEscalated, fetched_eq crowded_texts, htrimmed, matching_unfiltered, List.filter_eq_nil_iff, firstRows]
    intro shownRow hshown hescalated
    obtain ⟨row, hrow, rfl⟩ := List.mem_map.mp hshown
    have hsorted : (orderBy severityOrder (fun row => asStored.ids row.id) crowded.alerts).Pairwise
        fun x y => severityOrder x ≤ severityOrder y := (orderBy_pairwise _ _ _).imp Before.key_le
    have hrow' : row ∈ crowded.alerts := (orderBy_perm _ _ _).mem_iff.mp (List.mem_of_mem_take hrow)
    obtain ⟨i, hi⟩ := List.mem_iff_getElem?.mp hrow
    rw [List.getElem?_take] at hi
    split_ifs at hi with hlt
    rcases crowded_cases hrow' with ⟨j, rfl⟩ | rfl
    · exact Bool.false_ne_true hescalated
    · have hbound := (index_bounds (orderBy_perm _ _ _) hsorted hi).1
      rw [ahead_lowEscalated] at hbound
      omega
  refine ⟨hnone, fun hcover => ?_⟩
  have hescalated := (hcover.escalated asStored).length_eq
  rw [hnone, matching_unfiltered, List.length_map] at hescalated
  have hmem : lowEscalated ∈ crowded.alerts.filter isEscalated :=
    List.mem_filter.mpr ⟨List.mem_append_right _ (List.mem_singleton.mpr rfl), rfl⟩
  have hpos := List.length_pos_of_mem hmem
  rw [List.length_nil] at hescalated
  omega

end SocDashboard
