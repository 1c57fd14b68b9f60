/-
# The filter options and what they select

The dashboard offers as filters the keys of `by_source` and the assignees, and
sends the one that is chosen back to `/api/alerts/all`. A listing strips the
text it is sent and compares it with the column; the ingest paths store a
source as it came, and the statistics display a missing one as `unknown`. An
analyst's name is stripped before it is stored, so the assignees are found, with
the first hundred of their alerts.

Key definitions: `OptionsSelect`, `Selectable`, `FilterTexts`.
Key theorems: `fetch_option`, `filterTexts_run`, `optionsSelect_of_texts`,
`optionsSelect_iff`.
-/
import SocDashboard.Breakdowns
import SocDashboard.IngestPaths
import SocDashboard.Listing
import SocDashboard.Store

namespace SocDashboard

open Dict Exec Query

/-! ### What a listing makes of one filter -/

/-- The alerts that the filter `column` with the text `v` selects. -/
def chosen (column : FilterColumn) (v : String) (row : Alert) : Bool :=
  pyStrip v = "" || column.read row = some (pyStrip v)

theorem chosen_iff {column : FilterColumn} {v : String} {row : Alert} (hv : pyStrip v ≠ "") :
    chosen column v row = true ↔ column.read row = some (pyStrip v) := by
  simp [chosen, hv]

theorem pyStrip_pyStrip (s : String) : pyStrip (pyStrip s) = pyStrip s :=
  Trim.trim_trim_of_le (fun _ h => h) s

theorem columnFilters_one {column : FilterColumn} (hc : column ∈ filterColumns) (v : String) :
    columnFilters [(column.name, v)] =
      if pyStrip v = "" then [] else [(.equals column, pyStrip v)] := by
  have hself : ∀ name, textArg [(name, v)] name = pyStrip v := fun name => by simp [textArg]
  have hother : ∀ name name', name' ≠ name → textArg [(name, v)] name' = "" := by
    intro name name' h
    simp [textArg, h]
  simp only [filterColumns, List.mem_cons, List.not_mem_nil, or_false] at hc
  rcases hc with rfl | rfl | rfl
  all_goals
    by_cases hv : pyStrip v = "" <;>
      simp [columnFilters, filterColumns, hself, hother, FilterColumn.name, hv]

theorem alertFilters_one {column : FilterColumn} (hc : column ∈ filterColumns) (v : String)
    (fromisoformat : String → Bool) :
    alertFilters fromisoformat [] [(column.name, v)] =
      .ok (if pyStrip v = "" then [] else [(.equals column, pyStrip v)]) := by
  have hne : "created_after" ≠ column.name := by cases column <;> decide
  have hafter : textArg [(column.name, v)] "created_after" = "" := by simp [textArg, hne]
  rw [alertFilters, hafter, columnFilters_one hc]
  rfl

theorem bindFilters_one (pg : Pg) (column : FilterColumn) {v : String} (hv : storable v = true) :
    bindFilters pg (if pyStrip v = "" then [] else [(.equals column, pyStrip v)]) =
      .ok (chosen column v) := by
  by_cases hblank : pyStrip v = ""
  · rw [if_pos hblank]
    refine congrArg Except.ok (funext fun row => ?_)
    simp [chosen, hblank]
  · rw [if_neg hblank]
    have hadapt : adaptStr (pyStrip v) = .ok (pyStrip v) :=
      adaptStr_storable ((storable_pyStrip v).trans hv)
    have hbind : bindFilters pg [(.equals column, pyStrip v)] =
        .ok fun row => decide (column.read row = some (pyStrip v)) && true := by
      simp [bindFilters, hadapt, bind, Except.bind, pure, Except.pure, Predicate.test]
    rw [hbind]
    refine congrArg Except.ok (funext fun row => ?_)
    simp [chosen, hblank]

/-- **What a listing answers when one filter is set**: the first page of what it selects. -/
theorem fetch_option (env : Env) (fromisoformat : String → Bool) (pg : Pg) (db : Db) (plan : Plan)
    (column : FilterColumn) (hc : column ∈ filterColumns) {v : String} (hv : storable v = true) :
    fetchPage .all env fromisoformat pg db plan [(column.name, v)] =
      .ok ⟨200, .alertPage (listedPage env db (chosen column v) plan 100 0), none⟩ := by
  have hpage : "page" ≠ column.name := by cases column <;> decide
  have hper : "per_page" ≠ column.name := by cases column <;> decide
  have hargs : parsePagination [(column.name, v)] = .ok (((0 : ℕ) : ℤ) + 1, ((100 : ℕ) : ℤ)) := by
    simp [parsePagination, intArg, hpage, hper]
  have hoffset : (((0 : ℕ) : ℤ) * ((100 : ℕ) : ℤ)) ≤ maxBigint := by simp [maxBigint]
  have hclauses : alertFilters fromisoformat Queue.all.extra [(column.name, v)] =
      .ok (if pyStrip v = "" then [] else [(.equals column, pyStrip v)]) :=
    alertFilters_one hc v fromisoformat
  exact fetchPage_eq hargs hclauses (bindFilters_one pg column hv) hoffset plan

/-! ### The texts that the options are made of -/

/-- A stored alert whose source and assignee a filter can be sent for. -/
structure FilterTexts (row : Alert) : Prop where
  source : ∀ s, row.source = some s → storable s = true
  assignee : ∀ n, row.assignedTo = some n → storable n = true ∧ pyStrip n = n ∧ n ≠ ""

/-- What psycopg2 binds to a text column has no NUL: no text of the database has one. -/
def AdaptsText (env : Env) : Prop := ∀ v t, env.adaptOther v = some t → storable t = true

section Run

variable {env : Env} {svc : Service}

theorem adaptText_storable (hadapt : AdaptsText env) {v : Json} {t : String}
    (h : adaptText env v = .ok (some t)) : storable t = true := by
  cases v with
  | null => simp [adaptText] at h
  | obj fields => simp [adaptText] at h
  | lone before after => simp [adaptText] at h
  | str s =>
    cases hs : adaptStr s with
    | error e => simp [adaptText, hs, Except.map] at h
    | ok s' =>
      obtain ⟨hnul, rfl⟩ := adaptStr_eq_ok.mp hs
      obtain rfl : s = t := by simpa [adaptText, hs, Except.map] using h
      simpa [storable] using hnul
  | _ =>
    simp only [adaptText] at h
    split at h
    · rename_i t' ht
      obtain rfl : t' = t := by simpa using h
      exact hadapt _ _ ht
    · simp at h

/-- The source of what an ingest path writes. -/
theorem source_of_writes (hadapt : AdaptsText env) {op : StoreOp} {v : AlertValues}
    (hw : op.Writes env svc v) (hc : op.Checks v) {s : String} (hs : v.source = some s) :
    storable s = true := by
  have hpy : ∀ {a : Ambient} {body : Json} {title category : String} {severity : Severity},
      alertValues env a body title category severity = .ok v → storable s = true := by
    intro a body title category severity hv
    obtain ⟨-, args, -, hbind⟩ := alertValues_eq_ok.mp hv
    obtain ⟨t, -, hbind⟩ := except_bind_eq_ok.mp hbind
    obtain ⟨c, -, hbind⟩ := except_bind_eq_ok.mp hbind
    obtain ⟨source, hsource, hbind⟩ := except_bind_eq_ok.mp hbind
    obtain ⟨ip, -, hbind⟩ := except_bind_eq_ok.mp hbind
    obtain ⟨d, -, hbind⟩ := except_bind_eq_ok.mp hbind
    obtain ⟨r, -, hbind⟩ := except_bind_eq_ok.mp hbind
    obtain ⟨m, -, hbind⟩ := except_bind_eq_ok.mp hbind
    obtain rfl := Except.ok.inj hbind
    simp only at hs
    rw [hs] at hsource
    exact adaptText_storable hadapt hsource
  cases op with
  | apiIngestAlert a apiKey json =>
    obtain ⟨title, category, severity, -, -, hv⟩ := hw
    exact hpy hv
  | kafkaIngest a body =>
    obtain ⟨title, category, severity, -, -, hv⟩ := hw
    exact hpy hv
  | goIngest a req =>
    have hall : storableOpt v.source = true := by
      have hrow : v.storable = true := hc
      simp only [AlertValues.storable, Bool.and_eq_true] at hrow
      exact hrow.1.1.1.1.2
    simpa [storableOpt, hs] using hall
  | _ => exact hw.elim

/-- An analyst is stored as the classify body names them, stripped. -/
theorem name_of_assigns {op : StoreOp} {n : String} (h : op.Assigns n) :
    storable n = true ∧ pyStrip n = n ∧ n ≠ "" := by
  cases op with
  | apiClassify a session alertId json =>
    obtain ⟨henc, hstorable, action, hparse⟩ := h
    obtain ⟨name, hname, hparse⟩ := except_bind_eq_ok.mp hparse
    obtain ⟨v, -, hparse⟩ := except_bind_eq_ok.mp hparse
    split_ifs at hparse with hblank
    obtain ⟨act, -, hparse⟩ := except_bind_eq_ok.mp hparse
    obtain ⟨rfl, -⟩ := Prod.mk.inj (Except.ok.inj hparse)
    obtain ⟨s, -, rfl⟩ := getText_eq_ok hname hblank henc
    exact ⟨hstorable, pyStrip_pyStrip s, hblank⟩
  | _ => exact h.elim

/-- **Every step keeps the texts of the filters.** -/
theorem filterTexts_step (hadapt : AdaptsText env) (w : World) (op : StoreOp)
    (h : ∀ row ∈ w.db.alerts, FilterTexts row) :
    ∀ row ∈ (storeStep env svc w op).db.alerts, FilterTexts row := by
  refine (storeStep_admits (R := fun db db' => (∀ row ∈ db.alerts, FilterTexts row) →
    ∀ row ∈ db'.alerts, FilterTexts row) ⟨⟨?_, ?_⟩, ?_, ?_, ?_, ?_, ?_⟩ w).rows h
  · exact fun db db' hs hdb => by rwa [hs.alertRows]
  · exact fun db db' db'' hR hs hdb => by
      rw [hs.alertRows]
      exact hR hdb
  · intro db now v hw hc hdb row hrow
    rcases List.mem_append.mp hrow with hold | hnew
    · exact hdb row hold
    · rw [List.mem_singleton.mp hnew]
      exact ⟨fun s hs => source_of_writes hadapt hw hc hs, fun n hn => by simp [Db.newAlert] at hn⟩
  · intro db now user alertId analystName action seconds alert ha hal hopen hs hdb row hrow
    rcases Table.mem_update.mp hrow with ⟨row₀, h₀, -, rfl⟩ | ⟨h₀, -⟩
    · refine ⟨(hdb row₀ h₀).source, fun n hn => ?_⟩
      obtain rfl : analystName = n := Option.some.inj hn
      exact name_of_assigns ha
    · exact hdb row h₀
  · exact fun db now user alertId note alert hn hal hdb => hdb
  · exact fun db cutoff hc hdb row hrow => hdb row (List.mem_of_mem_filter hrow)
  · exact fun db username passwordHash role hdb => hdb

variable (svc) in
theorem filterTexts_run (hadapt : AdaptsText env) (w : World) (ops : List StoreOp) :
    ∀ row ∈ (Runs.run (storeStep env svc) (w.setDb (applySchema none)) ops).db.alerts, FilterTexts row :=
  Runs.run_inv (storeStep env svc) (I := fun w => ∀ row ∈ w.db.alerts, FilterTexts row)
    (fun w op h => filterTexts_step hadapt w op h) ops (w.setDb (applySchema none))
    (by simp [applySchema, emptyTables])

end Run

/-! ### What an option counts and what it selects -/

/-- How many alerts the source filter `s` selects: all of them when `s` is blank. -/
def selectedBy (db : Db) (s : String) : ℕ :=
  if pyStrip s = "" then countAlerts db else valueCount sourceOf db (some (pyStrip s))

/-- The alerts assigned to `n`. -/
def assignedTo (db : Db) (n : String) : List Alert := db.alerts.filter fun row => row.assignedTo = some n

/-- Every option selects what it counts, in whatever order the database returns rows. -/
structure OptionsSelect (env : Env) (fromisoformat : String → Bool) (pg : Pg) (now nowTs : Time)
    (db : Db) : Prop where
  source : ∀ (stats : StatsStatement → Plan) (plan : Plan),
    ∀ e ∈ (apiStatsAnswer pg stats now nowTs fun _ => db).bySource,
      ∃ p, fetchPage .all env fromisoformat pg db plan [("source", e.1)] = .ok ⟨200, .alertPage p, none⟩ ∧
        p.total = e.2
  assignee : ∀ (stats : StatsStatement → Plan) (plan : Plan),
    ∀ n ∈ (apiStatsAnswer pg stats now nowTs fun _ => db).assignees,
      ∃ p, fetchPage .all env fromisoformat pg db plan [("assigned_to", n)] = .ok ⟨200, .alertPage p, none⟩ ∧
        p.alerts.Perm ((assignedTo db n).map (decryptAlert env)) ∧ p.alerts ≠ []

/-- Every stored source has as many alerts as its strip selects, and if alerts lack a source, as
many have the source `unknown`. Nobody has more alerts than a page without `per_page` holds. -/
structure Selectable (db : Db) : Prop where
  stored : ∀ s, 0 < valueCount sourceOf db (some s) → valueCount sourceOf db (some s) = selectedBy db s
  missing : 0 < valueCount sourceOf db none →
    valueCount sourceOf db none = valueCount sourceOf db (some "unknown")
  assigned : ∀ n, (assignedTo db n).length ≤ 100

section Options

variable {env : Env} {fromisoformat : String → Bool} {pg : Pg} {now nowTs : Time} {db : Db}

theorem fetch_source (plan : Plan) {v : String} (hv : storable v = true) :
    fetchPage .all env fromisoformat pg db plan [("source", v)] =
      .ok ⟨200, .alertPage (listedPage env db (chosen .source v) plan 100 0), none⟩ :=
  fetch_option env fromisoformat pg db plan .source (by decide) hv

theorem total_of_source (plan : Plan) (v : String) :
    (listedPage env db (chosen .source v) plan 100 0).total = selectedBy db v := by
  show (db.alerts.filter (chosen .source v)).length = _
  rw [← List.countP_eq_length_filter]
  unfold selectedBy
  split_ifs with hblank
  · have hall : chosen .source v = fun _ => true := by
      funext row
      simp [chosen, hblank]
    rw [hall, List.countP_true]
    rfl
  · refine List.countP_congr fun row _ => ?_
    rw [chosen_iff hblank, decide_eq_true_iff]
    exact Iff.rfl

/-- The row order that puts the alerts without a source last. -/
def missingLast : Plan := ⟨id, fun v => if v = none then 1 else 0, fun _ => 0⟩

/-- In that order the entry `unknown` is that of the alerts without a source. -/
theorem unknown_missingLast (h : 0 < valueCount sourceOf db none) :
    ("unknown", valueCount sourceOf db none) ∈ countsDict (countBy missingLast sourceOf db) := by
  have hmem : (none, valueCount sourceOf db none) ∈ countBy missingLast sourceOf db :=
    mem_countBy.mpr ⟨h, rfl⟩
  have hkeys := nodup_countBy missingLast sourceOf db
  have hsorted : (countBy missingLast sourceOf db).Pairwise
      (Before (fun _ => ()) fun g => missingLast.texts g.1) := orderBy_pairwise _ _ _
  obtain ⟨l, l', hl⟩ := List.append_of_mem hmem
  rw [hl] at hkeys hsorted ⊢
  cases l' with
  | nil =>
    rw [countsDict, List.foldl_append]
    exact mem_setItem_self _ _ _
  | cons g l' =>
    -- a group behind would lack a source as well
    have hg : missingLast.texts none ≤ missingLast.texts g.1 := by
      rcases (List.pairwise_cons.mp (List.pairwise_append.mp hsorted).2.1).1 g List.mem_cons_self with
        hlt | ⟨-, hle⟩
      · exact absurd hlt (lt_irrefl _)
      · exact hle
    have hnone : g.1 = none := by
      by_contra hne
      simp [missingLast, hne] at hg
    rw [List.map_append, List.map_cons, List.map_cons, hnone] at hkeys
    have := (List.nodup_append.mp hkeys).2.1
    simp at this

theorem selectedBy_unknown : selectedBy db "unknown" = valueCount sourceOf db (some "unknown") := by
  have hstrip : pyStrip "unknown" = "unknown" := by decide
  rw [selectedBy, hstrip, if_neg (by decide)]

theorem storable_of_valueCount (htexts : ∀ row ∈ db.alerts, FilterTexts row) {s : String}
    (h : 0 < valueCount sourceOf db (some s)) : storable s = true := by
  obtain ⟨row, hrow, hs⟩ := List.countP_pos_iff.mp h
  exact (htexts row hrow).source s (of_decide_eq_true hs)

theorem mem_assignees {stats : StatsStatement → Plan} {n : String} :
    n ∈ (apiStatsAnswer pg stats now nowTs fun _ => db).assignees ↔
      ∃ row ∈ db.alerts, row.assignedTo = some n := by
  show n ∈ orderBy pg.sortKey (fun _ => 0) (db.alerts.filterMap Alert.assignedTo).dedup ↔ _
  rw [(orderBy_perm _ _ _).mem_iff, List.mem_dedup, List.mem_filterMap]

/-- What is answered to an assignee: the first hundred of their alerts. -/
theorem fetch_assignee (htexts : ∀ row ∈ db.alerts, FilterTexts row) (plan : Plan) {n : String}
    {row : Alert} (hrow : row ∈ db.alerts) (hn : row.assignedTo = some n) :
    ∃ (p : AlertPage) (rows : List Alert), fetchPage .all env fromisoformat pg db plan [("assigned_to", n)] =
        .ok ⟨200, .alertPage p, none⟩ ∧
      rows.Perm (assignedTo db n) ∧ p.alerts = (rows.take 100).map (decryptAlert env) := by
  obtain ⟨hstorable, hstrip, hne⟩ := (htexts row hrow).assignee n hn
  have hchosen : chosen .assignedTo n = fun row => decide (row.assignedTo = some n) := by
    funext row
    simp only [chosen, hstrip, hne, FilterColumn.read, decide_false, Bool.false_or]
  have hfetch : fetchPage .all env fromisoformat pg db plan [("assigned_to", n)] =
      .ok ⟨200, .alertPage (listedPage env db (chosen .assignedTo n) plan 100 0), none⟩ :=
    fetch_option env fromisoformat pg db plan .assignedTo (by decide) hstorable
  rw [hchosen] at hfetch
  have hperm : (orderBy severityOrder (fun row => plan.ids row.id) (assignedTo db n)).Perm (assignedTo db n) :=
    orderBy_perm severityOrder (fun row => plan.ids row.id) (assignedTo db n)
  refine ⟨_, _, hfetch, hperm, ?_⟩
  simp [listedPage, pageOf, Paging.page, assignedTo]

/-- **An assignee is found with exactly the alerts assigned to them**, if one page holds them. -/
theorem assignee_found_iff (htexts : ∀ row ∈ db.alerts, FilterTexts row) (plan : Plan) {n : String}
    {row : Alert} (hrow : row ∈ db.alerts) (hn : row.assignedTo = some n) :
    (∃ p, fetchPage .all env fromisoformat pg db plan [("assigned_to", n)] = .ok ⟨200, .alertPage p, none⟩ ∧
      p.alerts.Perm ((assignedTo db n).map (decryptAlert env)) ∧ p.alerts ≠ []) ↔
      (assignedTo db n).length ≤ 100 := by
  obtain ⟨p, rows, hfetch, hperm, hp⟩ := fetch_assignee htexts plan hrow hn
  constructor
  · rintro ⟨p', hp', hrows, -⟩
    rw [hfetch, Except.ok.injEq, Response.mk.injEq, Payload.alertPage.injEq] at hp'
    have hlength := hrows.length_eq
    rw [← hp'.2.1, hp, List.length_map, List.length_map, List.length_take, hperm.length_eq] at hlength
    omega
  · intro hle
    rw [← hperm.length_eq] at hle
    rw [List.take_of_length_le hle] at hp
    have hmem : row ∈ rows := hperm.mem_iff.mpr (List.mem_filter.mpr ⟨hrow, decide_eq_true hn⟩)
    refine ⟨p, hfetch, hp ▸ hperm.map _, ?_⟩
    rw [hp]
    exact List.ne_nil_of_mem (List.mem_map_of_mem hmem)

/-- What is answered to the source `v` counts what it selects. -/
theorem total_of_fetch {plan : Plan} {v : String} {p : AlertPage} (hv : storable v = true)
    (hp : fetchPage .all env fromisoformat pg db plan [("source", v)] = .ok ⟨200, .alertPage p, none⟩) :
    p.total = selectedBy db v := by
  rw [fetch_source plan hv] at hp
  have hpage : listedPage env db (chosen .source v) plan 100 0 = p := by simpa using hp
  rw [← hpage, total_of_source]

/-- An entry under a text other than `unknown` is the group of that text. -/
theorem group_of_entry {stats : Plan} {e : String × ℕ} {s : String} (hs : s ≠ "unknown")
    (he : e ∈ countsDict (countBy stats sourceOf db)) (hk : e.1 = s) :
    e.2 = valueCount sourceOf db (some s) := by
  obtain ⟨v, hv, -, hcount⟩ := exists_of_mem_countsDict he
  rw [hcount]
  cases v with
  | none => exact absurd (hk.symm.trans hv) hs
  | some v => rw [← hk, hv, Option.getD_some]

/-- A source that is offered selects what it counts. -/
theorem source_found (htexts : ∀ row ∈ db.alerts, FilterTexts row) (h : Selectable db) {stats : Plan}
    (plan : Plan) {e : String × ℕ} (he : e ∈ countsDict (countBy stats sourceOf db)) :
    ∃ p, fetchPage .all env fromisoformat pg db plan [("source", e.1)] = .ok ⟨200, .alertPage p, none⟩ ∧
      p.total = e.2 := by
  have hunknown : storable "unknown" = true := by decide
  obtain ⟨v, hv, hpos, hcount⟩ := exists_of_mem_countsDict he
  cases v with
  | none =>
    rw [Option.getD_none] at hv
    refine ⟨_, by rw [hv]; exact fetch_source plan hunknown, ?_⟩
    rw [total_of_source, selectedBy_unknown, hcount]
    exact (h.missing hpos).symm
  | some s =>
    rw [Option.getD_some] at hv
    refine ⟨_, by rw [hv]; exact fetch_source plan (storable_of_valueCount htexts hpos), ?_⟩
    rw [total_of_source, hcount]
    exact (h.stored s hpos).symm

/-- **When the options select what they count**, of alerts whose texts can be sent. -/
theorem optionsSelect_of_texts (htexts : ∀ row ∈ db.alerts, FilterTexts row) :
    OptionsSelect env fromisoformat pg now nowTs db ↔ Selectable db := by
  have hunknown : storable "unknown" = true := by decide
  constructor
  · intro h
    constructor
    case stored =>
      intro s hs
      by_cases hsu : s = "unknown"
      · rw [hsu, selectedBy_unknown]
      · obtain ⟨e, he, hk⟩ : ∃ e ∈ countsDict (countBy asStored sourceOf db), e.1 = s := exists_entry hs
        obtain ⟨p, hp, htotal⟩ := h.source (fun _ => asStored) asStored e he
        rw [hk] at hp
        rw [← total_of_fetch (storable_of_valueCount htexts hs) hp, htotal, group_of_entry hsu he hk]
    case missing =>
      intro hnone
      obtain ⟨p, hp, htotal⟩ := h.source (fun _ => missingLast) asStored _ (unknown_missingLast hnone)
      rw [← selectedBy_unknown, ← total_of_fetch hunknown hp, htotal]
    case assigned =>
      intro n
      by_cases hnone : assignedTo db n = []
      · rw [hnone]
        exact Nat.zero_le 100
      · obtain ⟨row, hmem⟩ := List.exists_mem_of_ne_nil _ hnone
        obtain ⟨hrow, hn⟩ := List.mem_filter.mp hmem
        have hassigned : row.assignedTo = some n := of_decide_eq_true hn
        exact (assignee_found_iff htexts asStored hrow hassigned).mp
          (h.assignee (fun _ => asStored) asStored n (mem_assignees.mpr ⟨row, hrow, hassigned⟩))
  · intro h
    constructor
    case source =>
      intro stats plan e he
      exact source_found htexts h plan he
    case assignee =>
      intro stats plan n hn
      obtain ⟨row, hrow, hassigned⟩ := mem_assignees.mp hn
      exact (assignee_found_iff htexts plan hrow hassigned).mpr (h.assigned n)

end Options

/-- **When every offered filter option selects what it counts.** After any run of the store:
exactly when every stored source has as many alerts as its strip selects, the alerts without a
source, if there are any, are as many as those whose source is `unknown`, and nobody has more than a
hundred alerts. -/
theorem optionsSelect_iff (env : Env) (hadapt : AdaptsText env) (svc : Service)
    (fromisoformat : String → Bool) (pg : Pg) (now nowTs : Time) (w : World) (ops : List StoreOp) :
    OptionsSelect env fromisoformat pg now nowTs
        (Runs.run (storeStep env svc) (w.setDb (applySchema none)) ops).db ↔
      Selectable (Runs.run (storeStep env svc) (w.setDb (applySchema none)) ops).db :=
  optionsSelect_of_texts (filterTexts_run svc hadapt w ops)

/-- A detector's alert that names its source. -/
def sensorScan : StoreOp :=
  .apiIngestAlert calm (some "test-key") <| some <|
    .obj [("title", .str "Port scan"), ("category", .str "port_scan"), ("severity", .str "high"),
      ("source", .str "zeek")]

/-- `ana` escalates it. -/
def triagedScan : List StoreOp :=
  [.createUser calm "ana" "hash" .analyst, sensorScan,
   .apiClassify calm (some 1) 1 (some (.obj [("analyst", .str "ana"), ("action", .str "escalate")]))]

theorem adaptsText_example : AdaptsText exampleEnv := by
  intro v t h
  simp [exampleEnv] at h

theorem optionsSelect_triagedScan :
    OptionsSelect exampleEnv (fun _ => true) utc 0 0
      (Runs.run (storeStep exampleEnv exampleService) (emptyWorld.setDb (applySchema none)) triagedScan).db := by
  have hrows : (Runs.run (storeStep exampleEnv exampleService) (emptyWorld.setDb (applySchema none))
      triagedScan).db.alerts =
        [{ (applySchema none).newAlert 0 ⟨"Port scan", "port_scan", .high, some "zeek", none, none, none, none⟩ with
            status := .escalated, assignedTo := some "ana" }] := by
    decide
  refine (optionsSelect_iff exampleEnv adaptsText_example exampleService (fun _ => true) utc 0 0
    emptyWorld triagedScan).mpr ?_
  constructor
  case stored =>
    intro s hs
    rw [valueCount, hrows] at hs
    have hzeek : s = "zeek" := by
      by_contra hne
      simp [sourceOf, Db.newAlert, Ne.symm hne] at hs
    rw [hzeek, selectedBy, valueCount, valueCount, hrows]
    decide
  case missing =>
    intro hnone
    rw [valueCount, hrows] at hnone
    exact absurd hnone (by decide)
  case assigned =>
    intro n
    rw [assignedTo, hrows]
    exact (List.length_filter_le _ _).trans (by decide)

/-- One that does not. -/
def sourcelessScan : StoreOp :=
  .apiIngestAlert calm (some "test-key") <| some <|
    .obj [("title", .str "Port scan"), ("category", .str "port_scan"), ("severity", .str "high")]

/-- The dashboard offers `unknown` for the alert without a source, and choosing it selects none. -/
theorem unknown_selects_none :
    ¬OptionsSelect exampleEnv (fun _ => true) utc 0 0
      (Runs.run (storeStep exampleEnv exampleService) (emptyWorld.setDb (applySchema none))
        [sourcelessScan]).db := by
  have hrows : (Runs.run (storeStep exampleEnv exampleService) (emptyWorld.setDb (applySchema none))
      [sourcelessScan]).db.alerts =
        [(applySchema none).newAlert 0 ⟨"Port scan", "port_scan", .high, none, none, none, none, none⟩] := by
    decide
  intro h
  have htexts := filterTexts_run exampleService adaptsText_example emptyWorld [sourcelessScan]
  have hmissing := ((optionsSelect_of_texts htexts).mp h).missing
  rw [valueCount, valueCount, hrows] at hmissing
  exact absurd (hmissing (by decide)) (by decide)

end SocDashboard
