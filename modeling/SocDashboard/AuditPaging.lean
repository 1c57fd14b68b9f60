/-
# Does the paging of the audit page follow its search?

`audit_log_page` selects the entries of a page with the search in its `WHERE`
clause and counts all entries of the table. The template makes the page count
and the link to the next page of that number. So the paging is that of the
selected entries when the search is blank or selects every entry.

Key definitions: `AuditNav`, `auditNav`, `PagingFollows`, `AuditPaged`,
`CountsSelected`.
Key theorems: `readAnswer_audit`, `pagingFollows_iff`, `auditPaged_iff`.
-/
import SocDashboard.AuditSearch
import SocDashboard.PagingLimits
import Mathlib.Order.Bounds.Basic

namespace SocDashboard

/-! ### The template -/

/-- A link of the navigation: the page and the search of its URL. -/
abbrev PageLink := ℤ × String

/-- The navigation of audit.html: `Page {page} of {pages} ({total} entries)` between its links. -/
structure AuditNav where
  previous : Option PageLink
  page : ℤ
  pages : ℤ
  total : ℕ
  next : Option PageLink
  deriving DecidableEq, Repr

/-- What audit.html renders below its table; without entries there is neither. -/
def auditNav (c : AuditPage) : Option AuditNav :=
  if c.entries.isEmpty then none
  else some
    { previous := if c.page > 1 then some (c.page - 1, c.search) else none
      page := c.page
      pages := if c.total > 0 then (c.total - 1) / c.perPage + 1 else 1
      total := c.total
      next := if c.page * c.perPage < c.total then some (c.page + 1, c.search) else none }

/-! ### What it is to show -/

/-- The total, the page count and the link to the next page are those of the entries selected. -/
structure PagingFollows (selected : List AuditEntry) (c : AuditPage) : Prop where
  total : c.total = selected.length
  pages : ∀ nav, auditNav c = some nav →
    ∃ k : ℕ, nav.pages = k ∧ IsLeast {k : ℕ | selected.length ≤ k * 50} k
  next : (∃ nav, auditNav c = some nav ∧ nav.next.isSome) ↔ selected.drop (c.page.toNat * 50) ≠ []

/-- The request is answered with the page `p`, whose paging is that of the entries its search selects. -/
def AuditPaged (pg : Pg) (args : Args) (p : ℤ) (db : Db) (r : Response) : Prop :=
  ∃ c selected, r = ⟨200, .auditPage c, none⟩ ∧ c.page = p ∧ selectedEntries pg args db = .ok selected ∧
    PagingFollows selected c

/-- The search is blank or selects every entry. -/
def CountsSelected (pg : Pg) (search : String) (db : Db) : Prop :=
  search = "" ∨ ∀ e ∈ db.auditLog, auditMatches pg search e = true

/-! ### The answer -/

section Answer

variable {reads : Reads} {env : Env} {pg : Pg} {plan : Plan} {req : Request} {db : Db} {requested : ℤ}

/-- The context of the template. -/
def auditContext (env : Env) (pg : Pg) (plan : Plan) (requested : ℤ) (search : String) (db : Db) : AuditPage where
  entries := (((auditRows pg plan search db).drop ((max 1 requested - 1) * 50).toNat).take 50).map
    (auditPageEntry env)
  page := max 1 requested
  perPage := 50
  total := db.auditLog.length
  search := search

/-- What the audit page answers, once `page` is read. -/
theorem auditPageRead_eq {args : Args} (hargs : intArg args "page" 1 = .ok requested)
    (hnul : '\x00' ∉ (textArg args "q").toList) (hoffset : (max 1 requested - 1) * 50 ≤ maxBigint) :
    (do let query ← auditPageRead env pg plan args; query db : Except Exc Response) =
      .ok ⟨200, .auditPage (auditContext env pg plan requested (textArg args "q") db), none⟩ := by
  rw [auditPageRead, auditPageNo, hargs]
  simp only [bind, Except.bind, pure, Except.pure, Except.map, adaptStr, hnul, if_false,
    limitOffset_fit (fit_auditBounds.mpr hoffset)]
  rfl

/-- **A page that is answered** has that context. -/
theorem readAnswer_audit (hreads : reads req = auditPageRead env pg plan req.args)
    (hargs : intArg req.args "page" 1 = .ok requested) (hnul : '\x00' ∉ (textArg req.args "q").toList)
    (hoffset : (max 1 requested - 1) * 50 ≤ maxBigint) :
    readAnswer reads req db =
      ⟨200, .auditPage (auditContext env pg plan requested (textArg req.args "q") db), none⟩ := by
  have hquery := @auditPageRead_eq env pg plan db requested req.args hargs hnul hoffset
  rw [readAnswer, hreads]
  cases hread : auditPageRead env pg plan req.args with
  | error e =>
    rw [hread] at hquery
    cases hquery
  | ok query =>
    rw [hread] at hquery
    simp only
    rw [show query db = _ from hquery]

theorem selectedEntries_bound (hnul : '\x00' ∉ (textArg req.args "q").toList) (db : Db) :
    selectedEntries pg req.args db = .ok (searched pg (textArg req.args "q") db) := by
  rw [selectedEntries, adaptStr, if_neg hnul]
  rfl

end Answer

/-! ### Its paging -/

section Paging

variable {env : Env} {pg : Pg} {plan : Plan} {requested : ℤ} {search : String} {db : Db}

theorem length_searched_le (pg : Pg) (search : String) (db : Db) :
    (searched pg search db).length ≤ db.auditLog.length := by
  unfold searched
  split_ifs
  · exact le_rfl
  · exact List.length_filter_le _ _

theorem length_searched_iff : (searched pg search db).length = db.auditLog.length ↔ CountsSelected pg search db := by
  unfold searched CountsSelected
  by_cases hs : search = ""
  · simp [hs]
  · rw [if_neg hs, List.length_filter_eq_length_iff]
    simp [hs]

/-- The page has entries when the selected ones reach it. -/
theorem isEmpty_entries_iff :
    (auditContext env pg plan requested search db).entries.isEmpty = true ↔
      (searched pg search db).length ≤ ((max 1 requested - 1) * 50).toNat := by
  have hlength : (auditRows pg plan search db).length = (searched pg search db).length :=
    (auditRows_perm pg plan search db).length_eq
  rw [auditContext, List.isEmpty_iff_length_eq_zero, List.length_map, List.length_take, List.length_drop, hlength]
  omega

/-- The navigation, where there is one. -/
theorem auditNav_eq (env : Env) (plan : Plan)
    (hsome : ((max 1 requested - 1) * 50).toNat < (searched pg search db).length) :
    auditNav (auditContext env pg plan requested search db) = some
      { previous := if max 1 requested > 1 then some (max 1 requested - 1, search) else none
        page := max 1 requested
        pages := ((db.auditLog.length : ℤ) - 1) / 50 + 1
        total := db.auditLog.length
        next := if max 1 requested * 50 < (db.auditLog.length : ℤ) then some (max 1 requested + 1, search)
          else none } := by
  have hentries : ¬(auditContext env pg plan requested search db).entries.isEmpty = true := by
    rw [isEmpty_entries_iff]
    omega
  have hpos : (auditContext env pg plan requested search db).total > 0 := by
    have hle := length_searched_le pg search db
    show db.auditLog.length > 0
    omega
  rw [auditNav, if_neg hentries, if_pos hpos]
  rfl

theorem reached_of_nav {nav : AuditNav} (h : auditNav (auditContext env pg plan requested search db) = some nav) :
    ((max 1 requested - 1) * 50).toNat < (searched pg search db).length := by
  by_contra hempty
  rw [auditNav, if_pos (isEmpty_entries_iff.mpr (by omega))] at h
  cases h

/-- The pages needed for some entries. -/
theorem isLeast_pages {n : ℕ} (hn : 0 < n) : IsLeast {k : ℕ | n ≤ k * 50} ((n - 1) / 50 + 1) := by
  constructor
  · show n ≤ ((n - 1) / 50 + 1) * 50
    omega
  · intro k hk
    have hk : n ≤ k * 50 := hk
    omega

/-- Where every entry is selected, there is a next page when entries lie beyond the page. -/
theorem exists_next_iff (env : Env) (plan : Plan)
    (hlength : (searched pg search db).length = db.auditLog.length) :
    (∃ nav, auditNav (auditContext env pg plan requested search db) = some nav ∧ nav.next.isSome = true) ↔
      max 1 requested * 50 < (db.auditLog.length : ℤ) := by
  constructor
  · rintro ⟨nav, hnav, hnext⟩
    rw [auditNav_eq env plan (reached_of_nav hnav), Option.some.injEq] at hnav
    rw [← hnav] at hnext
    by_contra hlast
    rw [if_neg hlast] at hnext
    exact Bool.false_ne_true hnext
  · intro hnext
    refine ⟨_, auditNav_eq env plan (by omega), ?_⟩
    rw [if_pos hnext]
    rfl

/-- **The paging follows the search exactly when the search selects as many entries as there are.** -/
theorem pagingFollows_iff (env : Env) (plan : Plan) (requested : ℤ) :
    PagingFollows (searched pg search db) (auditContext env pg plan requested search db) ↔
      CountsSelected pg search db := by
  rw [← length_searched_iff]
  constructor
  · intro h
    exact h.total.symm
  · intro hlength
    constructor
    case total => exact hlength.symm
    case pages =>
      intro nav hnav
      have hreached := reached_of_nav hnav
      rw [auditNav_eq env plan hreached, Option.some.injEq] at hnav
      refine ⟨(db.auditLog.length - 1) / 50 + 1, ?_, ?_⟩
      · rw [← hnav]
        show ((db.auditLog.length : ℤ) - 1) / 50 + 1 = _
        omega
      · rw [hlength]
        exact isLeast_pages (by omega)
    case next =>
      rw [exists_next_iff env plan hlength, Ne, List.drop_eq_nil_iff, not_le, hlength]
      show _ ↔ (max 1 requested).toNat * 50 < _
      omega

end Paging

/-! ### When it follows the search -/

/-- **When the paging follows the search.** A `GET` of the audit page by an administrator, with nothing
failing and with a page number: exactly when the search can be bound, the offset fits a `bigint`, and
the search is blank or selects every entry of the log. -/
theorem auditPaged_iff (site : Site) (env : Env) (a : Ambient) (ra : ReadAmbient) (req : Request) (w : World)
    (hget : req.method = .get) (he : req.endpoint = .auditPage) (ha : ∀ c, a.fails c = false)
    (huser : MayList w.db req) {requested : ℤ} (hargs : intArg req.args "page" 1 = .ok requested) :
    AuditPaged site.pg req.args (max 1 requested) w.db
        (respond (serve env (reads site env a ra) a req) w).1 ↔
      '\x00' ∉ (textArg req.args "q").toList ∧ (max 1 requested - 1) * 50 ≤ maxBigint ∧
        CountsSelected site.pg (textArg req.args "q") w.db := by
  have hreads : reads site env a ra req = auditPageRead env site.pg ra.plan req.args := by rw [reads, he]
  rw [serve_read ha hget (by rw [he]; rfl) huser]
  have hstatus : (readAnswer (reads site env a ra) req w.db).status = _ := audit_status hreads hargs
  by_cases hbad : '\x00' ∈ (textArg req.args "q").toList ∨ ¬(auditBounds (max 1 requested)).Fit
  · rw [if_pos hbad] at hstatus
    refine iff_of_false ?_ fun h => hbad.elim h.1 fun hfit => hfit (fit_auditBounds.mpr h.2.1)
    rintro ⟨c, selected, hc, -⟩
    have hok : (readAnswer (reads site env a ra) req w.db).status = 200 := by rw [hc]
    omega
  · rw [not_or, not_not, fit_auditBounds] at hbad
    obtain ⟨hnul, hoffset⟩ := hbad
    rw [readAnswer_audit hreads hargs hnul hoffset]
    simp only [hnul, hoffset, not_false_eq_true, true_and]
    rw [← pagingFollows_iff env ra.plan requested]
    constructor
    · rintro ⟨c, selected, hc, -, hselected, hfollows⟩
      rw [selectedEntries_bound hnul w.db, Except.ok.injEq] at hselected
      rw [Response.mk.injEq, Payload.auditPage.injEq] at hc
      rwa [hselected, hc.2.1]
    · intro hfollows
      exact ⟨_, _, rfl, rfl, selectedEntries_bound hnul w.db, hfollows⟩

/-! ### A search that selects one of many -/

/-- A note about the alert `1`, stored at a second of its own. -/
def noteEntry (id userId : ℕ) (username : String) : AuditEntry :=
  ⟨id, 1, userId, username, .noteAdded, .open_, .open_, none, id⟩

/-- Fifty notes of `ana` and one of `bo`. -/
def oneOfMany : Db :=
  { applySchema none with
    users := [⟨1, "admin", "", .admin⟩, ⟨2, "ana", "", .analyst⟩, ⟨3, "bo", "", .analyst⟩]
    alerts := [listedAlert 1 0]
    auditLog := (List.range 50).map (fun i => noteEntry (i + 1) 2 "ana") ++ [noteEntry 51 3 "bo"] }

/-- The first page for a search. -/
def searchFor (q : String) : Request :=
  ⟨.get, .auditPage, some 1, none, none, none, [("page", "1"), ("q", q)], []⟩

def searchAnswer (q : String) : Response :=
  (respond (serve exampleEnv (reads adminSite exampleEnv calm readingOnce) calm (searchFor q))
    (emptyWorld.setDb oneOfMany)).1

theorem auditPaged_added :
    AuditPaged utc (searchFor "added").args (max 1 1) oneOfMany (searchAnswer "added") ↔
      '\x00' ∉ (textArg (searchFor "added").args "q").toList ∧ (max 1 1 - 1) * 50 ≤ maxBigint ∧
        CountsSelected utc (textArg (searchFor "added").args "q") oneOfMany :=
  auditPaged_iff adminSite exampleEnv calm readingOnce (searchFor "added") (emptyWorld.setDb oneOfMany) rfl rfl
    (fun _ => rfl) ⟨⟨1, "admin", .admin⟩, rfl, fun _ => rfl⟩
    (show intArg _ "page" 1 = .ok 1 by decide)

/-- **One entry is selected, and two pages and a link to the second are shown.** -/
theorem oneOfMany_unpaged :
    (∃ c nav, searchAnswer "bo" = ⟨200, .auditPage c, none⟩ ∧ auditNav c = some nav ∧
      nav.pages = 2 ∧ nav.next = some (2, "bo") ∧ (searched utc "bo" oneOfMany).length = 1) ∧
      ¬AuditPaged utc (searchFor "bo").args 1 oneOfMany (searchAnswer "bo") := by
  have hreads : reads adminSite exampleEnv calm readingOnce (searchFor "bo") =
      auditPageRead exampleEnv utc asStored (searchFor "bo").args := rfl
  have hanswer : searchAnswer "bo" =
      ⟨200, .auditPage (auditContext exampleEnv utc asStored 1 "bo" oneOfMany), none⟩ := by
    rw [searchAnswer, serve_read (fun _ => rfl) rfl rfl ⟨⟨1, "admin", .admin⟩, rfl, fun _ => rfl⟩]
    exact readAnswer_audit hreads (by decide) (by decide) (by decide)
  have hone : (searched utc "bo" oneOfMany).length = 1 := by decide
  have hreached : ((max 1 (1 : ℤ) - 1) * 50).toNat < (searched utc "bo" oneOfMany).length := by
    rw [hone]
    decide
  refine ⟨⟨_, _, hanswer, auditNav_eq exampleEnv asStored hreached, by decide, by decide, hone⟩, ?_⟩
  rintro ⟨c, selected, hc, -, hselected, hfollows⟩
  rw [selectedEntries_bound (by decide), Except.ok.injEq] at hselected
  rw [hanswer, Response.mk.injEq, Payload.auditPage.injEq] at hc
  have htotal := hfollows.total
  rw [← hc.2.1, ← hselected] at htotal
  exact absurd (htotal.trans hone) (by decide)

end SocDashboard
