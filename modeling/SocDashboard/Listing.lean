/-
# The alert listings and their pages

`_list_alerts` runs a count and a page query, each on its own; the page query
sorts by severity and age, and alerts that share both may come in another order
on every page. A client that fetches the pages `1..total_pages` of a table that
does not change is given every matching alert once exactly when no group of
such alerts lies across a page border.

Key definitions: `bindFilters`, `severityOrder`, `listAlerts`, `Queue`,
`fetchPage`, `PagesComplete`.
Key theorems: `fetchPage_eq`, `exists_plan`, `pagesComplete_iff`.
-/
import SocDashboard.Ingest
import SocDashboard.Lib.Paging
import SocDashboard.Params
import SocDashboard.Stats

namespace SocDashboard

open Paging Query

/-- The column of a row, as text. -/
def FilterColumn.read : FilterColumn → Alert → Option String
  | .status, row => some row.status.name
  | .severity, row => some row.severity.name
  | .source, row => row.source
  | .assignedTo, row => row.assignedTo

/-- What a predicate says of a row once its parameter is bound. -/
def Predicate.test (pg : Pg) (value : String) : Predicate → Except Exc (Alert → Bool)
  | .equals column => .ok fun row => column.read row = some value
  | .createdAfter =>
    match pg.timestamptz value with
    | none => .error .databaseError
    | some t => .ok fun row => t ≤ row.createdAt

/-- The `WHERE` clause with its parameters bound. psycopg2 adapts all of them
before the database reads one. -/
def bindFilters (pg : Pg) (clauses : List (Predicate × String)) : Except Exc (Alert → Bool) := do
  let _ ← clauses.mapM fun c => adaptStr c.2
  let tests ← clauses.mapM fun c => c.1.test pg c.2
  pure fun row => tests.all fun test => test row

/-- `SEVERITY_RANK`. -/
def severityRank : Severity → ℕ
  | .critical => 1
  | .high => 2
  | .medium => 3
  | .low => 4

/-- `_SEVERITY_ORDER`: by rank, then newest first. -/
def severityOrder (row : Alert) : ℕ ×ₗ ℤ := toLex (severityRank row.severity, -row.createdAt)

/-- The greatest `bigint`. -/
def maxBigint : ℤ := 9223372036854775807

/-- The bounds of a query. -/
structure Bounds where
  limit : ℤ
  offset : ℤ
  deriving DecidableEq, Repr

/-- PostgreSQL takes a bound that is a `bigint` and not negative. -/
def Bounds.Fit (b : Bounds) : Prop :=
  (0 ≤ b.limit ∧ b.limit ≤ maxBigint) ∧ 0 ≤ b.offset ∧ b.offset ≤ maxBigint

instance (b : Bounds) : Decidable b.Fit := inferInstanceAs (Decidable (_ ∧ _))

/-- `LIMIT %s OFFSET %s` of the rows of a query. -/
def limitOffset {α : Type} (b : Bounds) (rows : List α) : Except Exc (List α) :=
  if b.Fit then .ok ((rows.drop b.offset.toNat).take b.limit.toNat) else .error .databaseError

theorem limitOffset_fit {α : Type} {b : Bounds} (h : b.Fit) (rows : List α) :
    limitOffset b rows = .ok ((rows.drop b.offset.toNat).take b.limit.toNat) := if_pos h

/-- Only rows of the query are returned. -/
theorem mem_of_limitOffset {α : Type} {b : Bounds} {rows found : List α} (h : limitOffset b rows = .ok found)
    {x : α} (hx : x ∈ found) : x ∈ rows := by
  unfold limitOffset at h
  split_ifs at h
  obtain rfl := Except.ok.inj h
  exact List.mem_of_mem_drop (List.mem_of_mem_take hx)

theorem limitOffset_map {α β : Type} (f : α → β) (b : Bounds) (rows : List α) :
    limitOffset b (rows.map f) = (limitOffset b rows).map (List.map f) := by
  unfold limitOffset
  split_ifs
  · rw [← List.map_drop, ← List.map_take]
    rfl
  · rfl

/-- The bounds that `_list_alerts` computes. -/
def listBounds (pageNo perPage : ℤ) : Bounds := ⟨perPage, (pageNo - 1) * perPage⟩

/-- Of a page that `_parse_pagination` lets through, only the offset can be too great. -/
theorem fit_listBounds {pageNo perPage : ℤ} (hpage : 1 ≤ pageNo) (hper : 1 ≤ perPage) (hmax : perPage ≤ 500) :
    (listBounds pageNo perPage).Fit ↔ (pageNo - 1) * perPage ≤ maxBigint := by
  have hlimit : perPage ≤ maxBigint := hmax.trans (by decide)
  have hoffset : 0 ≤ (pageNo - 1) * perPage := mul_nonneg (by omega) (by omega)
  exact ⟨fun h => h.2.2, fun h => ⟨⟨(by omega : (0 : ℤ) ≤ perPage), hlimit⟩, hoffset, h⟩⟩

/-- `_list_alerts`. -/
def listAlerts (env : Env) (pg : Pg) (plan : Plan) (clauses : List (Predicate × String))
    (pageNo perPage : ℤ) (db : Db) : Except Exc AlertPage := do
  let keep ← bindFilters pg clauses
  let matching := db.alerts.filter keep
  let rows ← limitOffset (listBounds pageNo perPage)
    (orderBy severityOrder (fun row => plan.ids row.id) matching)
  pure
    { alerts := rows.map (decryptAlert env)
      page := pageNo
      perPage := perPage
      total := matching.length
      totalPages := if matching.length = 0 then 0 else (matching.length + perPage - 1) / perPage }

/-- The open alerts. -/
def isOpen (row : Alert) : Bool := row.status = .open_

/-- The predicate of the open queue selects the open alerts. -/
theorem bindFilters_open (pg : Pg) : bindFilters pg [(.equals .status, "open")] = .ok isOpen := by
  refine congrArg Except.ok (funext fun row => ?_)
  show (decide (some row.status.name = some "open") && true) = decide (row.status = .open_)
  cases row.status <;> rfl

/-- The two listings. -/
inductive Queue
  | open_
  | all
  deriving DecidableEq, Repr

/-- The predicates a listing adds to those of the request. -/
def Queue.extra : Queue → List (Predicate × String)
  | .open_ => [(.equals .status, "open")]
  | .all => []

/-- `api_open_alerts` and `api_all_alerts`: the checks of the request, then the
answer made of the rows. -/
def Queue.read (queue : Queue) (env : Env) (fromisoformat : String → Bool) (pg : Pg) (plan : Plan)
    (args : Args) : Except Exc (Db → Except Exc Response) := do
  let (pageNo, perPage) ← parsePagination args
  let clauses ← alertFilters fromisoformat queue.extra args
  pure fun db => do
    let p ← listAlerts env pg plan clauses pageNo perPage db
    pure ⟨200, .alertPage p, none⟩

/-! ### A client that fetches every page -/

/-- What a request is answered on the table `db`. -/
def fetchPage (queue : Queue) (env : Env) (fromisoformat : String → Bool) (pg : Pg) (db : Db)
    (plan : Plan) (args : Args) : Except Exc Response := do
  let query ← queue.read env fromisoformat pg plan args
  query db

/-- `pages` is what the requests for the pages `1..total_pages` are answered. -/
structure Fetched (answer : ℕ → Except Exc Response) (pages : List AlertPage) : Prop where
  answered : ∀ k p, pages[k]? = some p → answer k = .ok ⟨200, .alertPage p, none⟩
  all : ∃ first, answer 0 = .ok ⟨200, .alertPage first, none⟩ ∧ (pages.length : ℤ) = first.totalPages

/-- In whatever order each query returns its rows, the pages together hold
every one of `rows` once and nothing else. -/
def PagesComplete (fetch : Plan → ℕ → Except Exc Response) (rows : List Alert) : Prop :=
  ∀ plans : ℕ → Plan, ∃ pages, Fetched (fun k => fetch (plans k) k) pages ∧
    (pages.flatMap AlertPage.alerts).Perm rows

/-- What the schema says of the ids of the alerts: a key of type `INT`. -/
structure AlertIds (db : Db) : Prop where
  distinct : Table.Distinct Alert.id db.alerts
  int4 : ∀ alert ∈ db.alerts, alert.id ≤ 2147483647

/-- The number of pages that `total` rows fill. -/
def pageCount (total perPage : ℕ) : ℕ := if total = 0 then 0 else (total + perPage - 1) / perPage

theorem le_pageCount_mul {total perPage : ℕ} (hsize : 0 < perPage) :
    total ≤ pageCount total perPage * perPage := by
  unfold pageCount
  split_ifs with h
  · omega
  · have := Nat.div_add_mod (total + perPage - 1) perPage
    have hmod := Nat.mod_lt (total + perPage - 1) hsize
    rw [Nat.mul_comm]
    omega

theorem lt_pageCount_iff {total perPage k : ℕ} (hsize : 0 < perPage) :
    k < pageCount total perPage ↔ k * perPage < total := by
  unfold pageCount
  split_ifs with h
  · omega
  · rw [Nat.lt_iff_add_one_le, Nat.le_div_iff_mul_le hsize, Nat.add_mul]
    omega

/-- **A query may return its rows in any order that its clause allows**: each is
the order of some plan. -/
theorem exists_plan {db : Db} (h : AlertIds db) (keep : Alert → Bool) {l : List Alert}
    (hp : l.Perm (db.alerts.filter keep)) (hs : l.Pairwise fun x y => severityOrder x ≤ severityOrder y) :
    ∃ plan : Plan, orderBy severityOrder (fun row => plan.ids row.id) (db.alerts.filter keep) = l := by
  have hid : ((db.alerts.filter keep).map Alert.id).Nodup := h.distinct.sublist (List.filter_sublist.map _)
  obtain ⟨rank, hrank⟩ := exists_rank hid hp hs
  exact ⟨⟨rank, fun _ => 0, fun _ => 0⟩, hrank⟩

section Pages

variable {env : Env} {fromisoformat : String → Bool} {pg : Pg} {db : Db} {queue : Queue} {size : ℕ}
  {clauses : List (Predicate × String)} {keep : Alert → Bool}

/-- The page `k` of a query under `plan`. -/
def pageOf (db : Db) (keep : Alert → Bool) (plan : Plan) (size k : ℕ) : List Alert :=
  page size k (orderBy severityOrder (fun row => plan.ids row.id) (db.alerts.filter keep))

/-- The envelope of that page. -/
def listedPage (env : Env) (db : Db) (keep : Alert → Bool) (plan : Plan) (size k : ℕ) : AlertPage where
  alerts := (pageOf db keep plan size k).map (decryptAlert env)
  page := k + 1
  perPage := size
  total := (db.alerts.filter keep).length
  totalPages := pageCount (db.alerts.filter keep).length size

theorem listAlerts_eq (hsize : 0 < size) (hmax : size ≤ 500) {k : ℕ}
    (hkeep : bindFilters pg clauses = .ok keep) (hoffset : (k * size : ℤ) ≤ maxBigint) (plan : Plan) :
    listAlerts env pg plan clauses (k + 1) size db = .ok (listedPage env db keep plan size k) := by
  have hoff : ((k : ℤ) + 1 - 1) * size = (k * size : ℕ) := by
    rw [add_sub_cancel_right, Nat.cast_mul]
  have hcount : (if (db.alerts.filter keep).length = 0 then (0 : ℤ)
      else ((db.alerts.filter keep).length + size - 1) / size) =
        (pageCount (db.alerts.filter keep).length size : ℕ) := by
    unfold pageCount
    split_ifs with h
    · rfl
    · rw [Int.natCast_div, Nat.cast_sub (by omega), Nat.cast_add, Nat.cast_one]
  have hfit : (listBounds ((k : ℤ) + 1) size).Fit := by
    rw [fit_listBounds (by omega) (by omega) (by omega), hoff, Nat.cast_mul]
    exact hoffset
  rw [listAlerts, hkeep]
  show (do let rows ← limitOffset (listBounds ((k : ℤ) + 1) size) _; pure _) = _
  rw [limitOffset_fit hfit, listBounds, hoff]
  simp only [hcount, Int.toNat_natCast, bind, Except.bind, pure, Except.pure]
  rfl

/-- **What a request for page `k + 1` is answered.** -/
theorem fetchPage_eq {args : Args} {k : ℕ} (hargs : parsePagination args = .ok (k + 1, size))
    (hclauses : alertFilters fromisoformat queue.extra args = .ok clauses)
    (hkeep : bindFilters pg clauses = .ok keep) (hoffset : (k * size : ℤ) ≤ maxBigint) (plan : Plan) :
    fetchPage queue env fromisoformat pg db plan args =
      .ok ⟨200, .alertPage (listedPage env db keep plan size k), none⟩ := by
  have hbounds := parsePagination_bounds hargs
  rw [fetchPage, Queue.read, hargs, hclauses]
  show (do let p ← listAlerts env pg plan clauses (k + 1) size db; pure _) = _
  rw [listAlerts_eq (by omega) (by omega) hkeep hoffset plan]
  rfl

/-- A request whose filters cannot be bound is answered with the error. -/
theorem fetchPage_refused {args : Args} {pageNo perPage : ℤ} {e : Exc}
    (hargs : parsePagination args = .ok (pageNo, perPage))
    (hclauses : alertFilters fromisoformat queue.extra args = .ok clauses)
    (hkeep : bindFilters pg clauses = .error e) (plan : Plan) :
    fetchPage queue env fromisoformat pg db plan args = .error e := by
  rw [fetchPage, Queue.read, hargs, hclauses]
  show (do let p ← listAlerts env pg plan clauses pageNo perPage db; pure _) = _
  rw [listAlerts, hkeep]
  rfl

/-- There are no more alerts than ids. -/
theorem alerts_length_le (h : AlertIds db) : db.alerts.length ≤ 2147483648 := by
  have hsub : db.alerts.map Alert.id ⊆ List.range 2147483648 := by
    intro i hi
    obtain ⟨alert, hal, rfl⟩ := List.mem_map.mp hi
    have := h.int4 alert hal
    exact List.mem_range.mpr (by omega)
  have hlen := (h.distinct.subperm hsub).length_le
  rwa [List.length_map, List.length_range] at hlen

/-- The offset of a page that can be there is a `bigint`. -/
theorem offset_le (h : AlertIds db) {k : ℕ} (hk : k ≤ db.alerts.length) (hsize : size ≤ 500) :
    (k * size : ℤ) ≤ maxBigint := by
  have hlen := alerts_length_le h
  have hmul : k * size ≤ 2147483648 * 500 := Nat.mul_le_mul (by omega) hsize
  unfold maxBigint
  omega

/-- Answers that carry the same page count are fetched up to it. -/
theorem fetched_iff {answer : ℕ → Except Exc Response} {P : ℕ → AlertPage} {n : ℕ} {pages : List AlertPage}
    (hP : ∀ k ≤ n, answer k = .ok ⟨200, .alertPage (P k), none⟩) (hn : (P 0).totalPages = n) :
    Fetched answer pages ↔ pages = (List.range n).map P := by
  constructor
  · intro h
    obtain ⟨first, hfirst, hlen⟩ := h.all
    rw [hP 0 (Nat.zero_le n)] at hfirst
    simp only [Except.ok.injEq, Response.mk.injEq, Payload.alertPage.injEq] at hfirst
    rw [← hfirst.2.1, hn, Nat.cast_inj] at hlen
    refine List.ext_getElem? fun k => ?_
    rcases Nat.lt_or_ge k n with hk | hk
    · have hk' : k < pages.length := by omega
      have hpage := h.answered k pages[k] (List.getElem?_eq_getElem hk')
      rw [hP k hk.le] at hpage
      simp only [Except.ok.injEq, Response.mk.injEq, Payload.alertPage.injEq] at hpage
      rw [List.getElem?_eq_getElem hk', ← hpage.2.1]
      simp [hk]
    · rw [List.getElem?_eq_none (by omega), List.getElem?_eq_none (by simpa using hk)]
  · rintro rfl
    refine ⟨?_, P 0, hP 0 (Nat.zero_le n), ?_⟩
    · intro k p hp
      rw [List.getElem?_map] at hp
      obtain ⟨k', hk', rfl⟩ := Option.map_eq_some_iff.mp hp
      obtain ⟨hlt, he⟩ := List.getElem?_eq_some_iff.mp hk'
      rw [List.getElem_range] at he
      rw [List.length_range] at hlt
      rw [← he]
      exact hP k hlt.le
    · rw [hn, List.length_map, List.length_range]

/-- Whole groups: whatever the plans, the pages hold the matching rows. -/
theorem whole_complete (h : AlertIds db) (keep : Alert → Bool) (hsize : 0 < size)
    (hw : Whole severityOrder size (db.alerts.filter keep)) (plans : ℕ → Plan) :
    ((List.range (pageCount (db.alerts.filter keep).length size)).flatMap fun k =>
      (pageOf db keep (plans k) size k).map (decryptAlert env)).Perm
      ((db.alerts.filter keep).map (decryptAlert env)) := by
  have hnd : (db.alerts.filter keep).Nodup := (h.distinct.of_map Alert.id).filter keep
  have hpages := pages_perm hsize hnd hw (le_pageCount_mul hsize)
    (fun k => orderBy severityOrder (fun row => (plans k).ids row.id) (db.alerts.filter keep))
    fun k => ⟨orderBy_perm _ _ _, (orderBy_pairwise _ _ _).imp Before.key_le⟩
  rw [← List.map_flatMap]
  exact hpages.map _

/-- **A group across a page border**: some plans put a row of it on two pages. -/
theorem straddle_incomplete (h : AlertIds db) (keep : Alert → Bool) (hsize : 0 < size)
    (hw : ¬Whole severityOrder size (db.alerts.filter keep))
    (hall : ∀ plans : ℕ → Plan,
      ((List.range (pageCount (db.alerts.filter keep).length size)).flatMap fun k =>
        (pageOf db keep (plans k) size k).map (decryptAlert env)).Perm
        ((db.alerts.filter keep).map (decryptAlert env))) : False := by
  have hids : ((db.alerts.filter keep).map Alert.id).Nodup := h.distinct.sublist (List.filter_sublist.map _)
  obtain ⟨ranks, hranks⟩ := straddle_not_perm hsize hids hw (le_pageCount_mul hsize)
  have hdecrypted := (hall fun k => ⟨ranks k, fun _ => 0, fun _ => 0⟩).map Alert.id
  rw [← List.map_flatMap, List.map_map, List.map_map] at hdecrypted
  exact hranks hdecrypted

section Fetch

variable {args : ℕ → Args} (h : AlertIds db)
  (hargs : ∀ k ≤ db.alerts.length, parsePagination (args k) = .ok (k + 1, size))
  (hclauses : ∀ k ≤ db.alerts.length, alertFilters fromisoformat queue.extra (args k) = .ok clauses)
  (hkeep : bindFilters pg clauses = .ok keep)

include hargs in
theorem size_bounds : 0 < size ∧ size ≤ 500 := by
  have := parsePagination_bounds (hargs 0 (Nat.zero_le _))
  omega

include h hargs hclauses hkeep

/-- Complete pages are pages of queries that together hold the matching rows. -/
theorem pagesComplete_eq :
    PagesComplete (fun plan k => fetchPage queue env fromisoformat pg db plan (args k))
        ((db.alerts.filter keep).map (decryptAlert env)) ↔
      ∀ plans : ℕ → Plan,
        ((List.range (pageCount (db.alerts.filter keep).length size)).flatMap fun k =>
          (pageOf db keep (plans k) size k).map (decryptAlert env)).Perm
          ((db.alerts.filter keep).map (decryptAlert env)) := by
  obtain ⟨hpos, hmax⟩ := size_bounds hargs
  have hcount : pageCount (db.alerts.filter keep).length size ≤ db.alerts.length := by
    refine le_trans ?_ (List.length_filter_le keep db.alerts)
    by_contra hlt
    have := (lt_pageCount_iff hpos).mp (Nat.lt_of_not_le hlt)
    have hmul := Nat.le_mul_of_pos_right (db.alerts.filter keep).length hpos
    omega
  refine forall_congr' fun plans => ?_
  have hP : ∀ k ≤ pageCount (db.alerts.filter keep).length size,
      fetchPage queue env fromisoformat pg db (plans k) (args k) =
        .ok ⟨200, .alertPage (listedPage env db keep (plans k) size k), none⟩ := fun k hk =>
    fetchPage_eq (hargs k (hk.trans hcount)) (hclauses k (hk.trans hcount)) hkeep
      (offset_le h (hk.trans hcount) hmax) (plans k)
  constructor
  · rintro ⟨pages, hf, hp⟩
    rwa [(fetched_iff hP rfl).mp hf, List.flatMap_map] at hp
  · intro hp
    refine ⟨_, (fetched_iff hP rfl).mpr rfl, ?_⟩
    rwa [List.flatMap_map]

/-- **When the pages lose and repeat nothing.** For every table that the schema
allows, every filters and every page size: exactly when no group of matching
alerts of one severity and one time lies across a page border. -/
theorem pagesComplete_iff :
    PagesComplete (fun plan k => fetchPage queue env fromisoformat pg db plan (args k))
        ((db.alerts.filter keep).map (decryptAlert env)) ↔
      Whole severityOrder size (db.alerts.filter keep) := by
  obtain ⟨hpos, -⟩ := size_bounds hargs
  rw [pagesComplete_eq h hargs hclauses hkeep]
  constructor
  · intro hall
    by_contra hw
    exact straddle_incomplete h keep hpos hw hall
  · intro hw plans
    exact whole_complete h keep hpos hw plans

end Fetch

end Pages

section Example

def listedAlert (id : ℕ) (createdAt : Time) : Alert where
  id := id
  title := "Port scan"
  category := "port_scan"
  severity := .high
  source := none
  sourceIp := none
  description := none
  workflowRunId := none
  runMetadata := none
  createdAt := createdAt
  status := .open_
  assignedTo := none

/-- Two open alerts, stored at these times. -/
def twoAlerts (t₁ t₂ : Time) : Db :=
  { applySchema none with alerts := [listedAlert 1 t₁, listedAlert 2 t₂] }

/-- The query strings of the requests for one alert a page. -/
def oneByOne (k : ℕ) : Args := [("page", ["1", "2", "3"].getD k ""), ("per_page", "1")]

theorem twoAlerts_ids (t₁ t₂ : Time) : AlertIds (twoAlerts t₁ t₂) := by
  refine ⟨?_, ?_⟩
  · simp [Table.Distinct, twoAlerts, listedAlert]
  · simp [twoAlerts, listedAlert]

theorem oneByOne_args : ∀ k ≤ 2, parsePagination (oneByOne k) = .ok ((k : ℤ) + 1, (1 : ℕ)) := by decide

theorem oneByOne_clauses : ∀ k ≤ 2, alertFilters (fun _ => false) Queue.open_.extra (oneByOne k) =
    .ok [(.equals .status, "open")] := by decide

/-- Stored at different times, the two are on a page each. -/
theorem pagesComplete_twoAlerts :
    PagesComplete
      (fun plan k => fetchPage .open_ exampleEnv (fun _ => false) utc (twoAlerts 0 1) plan (oneByOne k))
      (((twoAlerts 0 1).alerts.filter isOpen).map (decryptAlert exampleEnv)) :=
  (pagesComplete_iff (twoAlerts_ids 0 1) oneByOne_args oneByOne_clauses (bindFilters_open utc)).mpr
    (by unfold Whole; decide)

/-- **One alert on two pages, another on none**: stored at the same time, the
two may come in another order on each page. -/
theorem tied_alerts_incomplete :
    ¬PagesComplete
      (fun plan k => fetchPage .open_ exampleEnv (fun _ => false) utc (twoAlerts 0 0) plan (oneByOne k))
      (((twoAlerts 0 0).alerts.filter isOpen).map (decryptAlert exampleEnv)) := by
  intro hc
  have hall := (pagesComplete_eq (twoAlerts_ids 0 0) oneByOne_args oneByOne_clauses (bindFilters_open utc)).mp hc
  exact straddle_incomplete (twoAlerts_ids 0 0) isOpen (by decide) (by unfold Whole; decide) hall

end Example

end SocDashboard
