/-
# Which page numbers a listing survives

Three views read `page` of the query string. The two alert listings check it
in `_parse_pagination`, the audit page converts it on its own; each makes an
`OFFSET` of it that PostgreSQL takes as a `bigint`. Without anything failing
and with parameters that can be bound, what decides the answer is the product
of the two numbers, and on the audit page whether `page` is a number at all.

Key definitions: `pageBounds`, `AnswersPaging`, `PagingFits`.
Key theorems: `serve_read`, `answersPaging_queue`, `answersPaging_audit`,
`answersPaging_iff`.
-/
import SocDashboard.Documented
import SocDashboard.Filters
import SocDashboard.Reading

namespace SocDashboard

open Exec

/-- The bounds of the query that a listing runs for the request. -/
def pageBounds (req : Request) : Except Exc Bounds :=
  match req.endpoint with
  | .auditPage => (auditPageNo req.args).map auditBounds
  | _ => (parsePagination req.args).map fun p => listBounds p.1 p.2

/-- A 400, or the listing, with bounds that are a `bigint` and not negative. -/
def AnswersPaging (req : Request) (r : Response) : Prop :=
  r.status = 400 ∨ (r.status = 200 ∧ ∃ b, pageBounds req = .ok b ∧ b.Fit)

/-- The listing of an endpoint. -/
def Endpoint.queue : Endpoint → Queue
  | .alerts => .open_
  | _ => .all

/-- The endpoints that read `page`. -/
def Endpoint.paged : Endpoint → Bool
  | .alerts => true
  | .allAlerts => true
  | .auditPage => true
  | _ => false

/-- The session is that of an account that may see the listing. -/
def MayList (db : Db) (req : Request) : Prop :=
  ∃ user, sessionUser db req.session = some user ∧ (req.endpoint = .auditPage → user.role = .admin)

/-- Of a request that is not refused, the filters can be bound and the offset fits; on the audit
page, the search can be bound and `page` is a number whose offset fits. -/
def PagingFits (site : Site) (req : Request) : Prop :=
  match req.endpoint with
  | .auditPage => '\x00' ∉ (textArg req.args "q").toList ∧
      ∃ requested, intArg req.args "page" 1 = .ok requested ∧ (max 1 requested - 1) * 50 ≤ maxBigint
  | e => ∀ pageNo perPage clauses, parsePagination req.args = .ok (pageNo, perPage) →
      alertFilters site.fromisoformat e.queue.extra req.args = .ok clauses →
      (∀ c ∈ clauses, c.1.Binds site.pg c.2) ∧ (pageNo - 1) * perPage ≤ maxBigint

theorem not_answersPaging {req : Request} {r : Response} (h : r.status = 500) : ¬AnswersPaging req r := by
  rintro (hr | ⟨hr, -⟩)
  all_goals
    rw [h] at hr
    omega

/-! ### What the view is answered -/

section Serve

variable {site : Site} {env : Env} {a : Ambient} {ra : ReadAmbient} {req : Request} {w : World}

/-- Of a request that is read, with nothing failing: its checks, then its answer. -/
def readAnswer (reads : Reads) (req : Request) (db : Db) : Response :=
  match reads req with
  | .error e => e.response
  | .ok query =>
    match query db with
    | .error e => e.response
    | .ok r => r

theorem respond_selects (ha : ∀ c, a.fails c = false) (reads : Reads) :
    (respond (selects reads a req) w).1 = readAnswer reads req w.db := by
  unfold respond selects readAnswer
  cases hr : reads req with
  | error e => rfl
  | ok query =>
    have hconn : withConn a .main (attempt (a.fails .select) .databaseError (gets query)) w =
        (.ok (query w.db), w) :=
      withConn_ok.mpr ⟨ha _, ha _, w.db, by rw [ha]; rfl, rfl⟩
    rw [bind_apply, lift_apply]
    simp only
    rw [bind_apply, hconn]
    cases query w.db <;> rfl

/-- **A listing is answered by what it reads.** -/
theorem serve_read (ha : ∀ c, a.fails c = false) (hget : req.method = .get)
    (hpaged : req.endpoint.paged = true) (huser : MayList w.db req) :
    (respond (serve env (reads site env a ra) a req) w).1 = readAnswer (reads site env a ra) req w.db := by
  obtain ⟨user, hu, hrole⟩ := huser
  have hlogin : ∀ inner : User → Exec World Exc Response, loginRequired a req.session inner w = inner user w := by
    intro inner
    have hload : loadFails a req.session = false := by simp [loadFails, ha]
    rw [loginRequired_eq, hload, hu]
    rfl
  have hcsrf : req.csrfProtected = false := by simp [Request.csrfProtected, hget]
  have hserve : serve env (reads site env a ra) a req w = selects (reads site env a ra) a req w := by
    cases he : req.endpoint with
    | alerts =>
      rw [serve, he, hget, hcsrf]
      show view env (reads site env a ra) a req w = _
      rw [view, he, hget]
      exact hlogin _
    | allAlerts =>
      rw [serve, he, hget, hcsrf]
      show view env (reads site env a ra) a req w = _
      rw [view, he]
      exact hlogin _
    | auditPage =>
      rw [serve, he, hget, hcsrf]
      show view env (reads site env a ra) a req w = _
      rw [view, he]
      show auditLogPage (reads site env a ra) a req w = _
      rw [auditLogPage, hlogin, requireRole_eq, hrole he]
      rfl
    | _ => simp [he, Endpoint.paged] at hpaged
  rw [respond, hserve]
  exact respond_selects ha (reads site env a ra)

end Serve


/-! ### The alert listings -/

section Queue

variable {site : Site} {env : Env} {a : Ambient} {ra : ReadAmbient} {req : Request} {db : Db}

theorem parsePagination_error {args : Args} {e : Exc} (h : parsePagination args = .error e) :
    ∃ text, e = .abort 400 text := by
  unfold parsePagination at h
  cases hp : intArg args "page" 1 with
  | error e' =>
    rw [hp] at h
    exact ⟨_, (Except.error.inj h).symm⟩
  | ok page =>
    cases hs : intArg args "per_page" 100 with
    | error e' =>
      rw [hp, hs] at h
      exact ⟨_, (Except.error.inj h).symm⟩
    | ok perPage =>
      simp only [hp, hs] at h
      split_ifs at h
      · exact ⟨_, (Except.error.inj h).symm⟩
      · exact ⟨_, (Except.error.inj h).symm⟩

variable {reads : Reads} {queue : Queue} {fromisoformat : String → Bool} {pg : Pg} {plan : Plan}
  {clauses : List (Predicate × String)}

theorem internal_test (value : String) (p : Predicate) : Internal (p.test pg value) := by
  intro e he
  cases p with
  | equals column => cases he
  | createdAfter =>
    rw [Predicate.test] at he
    split at he
    · rw [← Except.error.inj he]
      rfl
    · cases he

/-- Filters that cannot be bound are no refusal. -/
theorem internal_bindFilters : Internal (bindFilters pg clauses) := by
  have hadapt : Internal (clauses.mapM fun c => adaptStr c.2) := internal_mapM fun c => internal_adaptStr c.2
  have htest : Internal (clauses.mapM fun c => c.1.test pg c.2) := internal_mapM fun c => internal_test c.2 c.1
  exact hadapt.bind fun _ => htest.bind fun tests => Internal.ok _

/-- A request that is refused. -/
theorem queue_refused (hreads : reads req = queue.read env fromisoformat pg plan req.args)
    (h : (∃ e, parsePagination req.args = .error e) ∨
      ∃ found e, parsePagination req.args = .ok found ∧
        alertFilters fromisoformat queue.extra req.args = .error e) :
    (readAnswer reads req db).status = 400 := by
  rw [readAnswer, hreads, Queue.read]
  rcases h with ⟨e, hargs⟩ | ⟨found, e, hargs, hclauses⟩
  · obtain ⟨text, rfl⟩ := parsePagination_error hargs
    rw [hargs]
    rfl
  · obtain ⟨rfl, -⟩ := alertFilters_error hclauses
    rw [hargs, hclauses]
    rfl

/-- One that is not. -/
theorem queue_status (hreads : reads req = queue.read env fromisoformat pg plan req.args)
    {pageNo perPage : ℤ} (hargs : parsePagination req.args = .ok (pageNo, perPage))
    (hclauses : alertFilters fromisoformat queue.extra req.args = .ok clauses) :
    (readAnswer reads req db).status =
      match bindFilters pg clauses with
      | .error _ => 500
      | .ok _ => if (listBounds pageNo perPage).Fit then 200 else 500 := by
  rw [readAnswer, hreads, Queue.read, hargs, hclauses]
  simp only [bind, Except.bind, pure, Except.pure, listAlerts]
  cases hkeep : bindFilters pg clauses with
  | error e => exact internal_bindFilters e hkeep
  | ok keep =>
    simp only [limitOffset]
    split_ifs <;> rfl

/-- **A listing of the alerts** answers 400, or the page, unless its filters cannot be bound or the
offset overflows. -/
theorem answersPaging_queue (hreads : reads req = queue.read env fromisoformat pg plan req.args)
    (hquery : pageBounds req = (parsePagination req.args).map fun p => listBounds p.1 p.2) :
    AnswersPaging req (readAnswer reads req db) ↔
      ∀ pageNo perPage clauses, parsePagination req.args = .ok (pageNo, perPage) →
        alertFilters fromisoformat queue.extra req.args = .ok clauses →
        (∀ c ∈ clauses, c.1.Binds pg c.2) ∧ (pageNo - 1) * perPage ≤ maxBigint := by
  cases hargs : parsePagination req.args with
  | error e => exact iff_of_true (.inl (queue_refused hreads (.inl ⟨e, hargs⟩))) nofun
  | ok found =>
    cases hclauses : alertFilters fromisoformat queue.extra req.args with
    | error e =>
      exact iff_of_true (.inl (queue_refused hreads (.inr ⟨found, e, hargs, hclauses⟩))) nofun
    | ok clauses =>
      obtain ⟨pageNo, perPage⟩ := found
      obtain ⟨hpage, hper, hmax⟩ := parsePagination_bounds hargs
      have hfit := fit_listBounds hpage hper hmax
      have hstatus : (readAnswer reads req db).status = _ := queue_status hreads hargs hclauses
      constructor
      · rintro h pageNo' perPage' clauses' he hc
        obtain ⟨rfl, rfl⟩ := Prod.mk.inj (Except.ok.inj he)
        obtain rfl := Except.ok.inj hc
        cases hkeep : bindFilters pg clauses with
        | error e =>
          rw [hkeep] at hstatus
          exact absurd h (not_answersPaging hstatus)
        | ok keep =>
          refine ⟨binds_of_bindFilters hkeep, ?_⟩
          by_contra hover
          rw [hkeep] at hstatus
          simp only [hfit, if_neg hover] at hstatus
          exact not_answersPaging hstatus h
      · intro h
        obtain ⟨hbinds, hle⟩ := h pageNo perPage clauses rfl rfl
        rw [bindFilters_eq hbinds] at hstatus
        simp only [hfit, if_pos hle] at hstatus
        exact .inr ⟨hstatus, listBounds pageNo perPage, by rw [hquery, hargs]; rfl, hfit.mpr hle⟩

end Queue

/-! ### The audit page -/

section Audit

variable {reads : Reads} {env : Env} {pg : Pg} {plan : Plan} {req : Request} {db : Db}

theorem audit_unread (hreads : reads req = auditPageRead env pg plan req.args) {e : Exc}
    (hargs : intArg req.args "page" 1 = .error e) : (readAnswer reads req db).status = 500 := by
  have he : e = .valueError := by
    unfold intArg pyInt at hargs
    split at hargs
    · cases hargs
    · simp only at hargs
      split at hargs
      · exact (Except.error.inj hargs).symm
      · split_ifs at hargs
        exact (Except.error.inj hargs).symm
  rw [readAnswer, hreads, auditPageRead, auditPageNo, hargs, he]
  rfl

theorem audit_status (hreads : reads req = auditPageRead env pg plan req.args) {requested : ℤ}
    (hargs : intArg req.args "page" 1 = .ok requested) :
    (readAnswer reads req db).status =
      if '\x00' ∈ (textArg req.args "q").toList ∨ ¬(auditBounds (max 1 requested)).Fit then 500
      else 200 := by
  rw [readAnswer, hreads, auditPageRead, auditPageNo, hargs]
  simp only [bind, Except.bind, pure, Except.pure, Except.map, adaptStr]
  by_cases hnul : '\x00' ∈ (textArg req.args "q").toList
  · rw [if_pos hnul, if_pos (.inl hnul)]
    rfl
  · simp only [hnul, if_false, false_or, limitOffset]
    split_ifs <;> rfl

/-- **The audit page** answers the page when its search can be bound and `page` is a number whose
offset does not overflow. -/
theorem answersPaging_audit (hreads : reads req = auditPageRead env pg plan req.args)
    (hquery : pageBounds req = (auditPageNo req.args).map auditBounds) :
    AnswersPaging req (readAnswer reads req db) ↔
      '\x00' ∉ (textArg req.args "q").toList ∧
        ∃ requested, intArg req.args "page" 1 = .ok requested ∧
          (max 1 requested - 1) * 50 ≤ maxBigint := by
  cases hargs : intArg req.args "page" 1 with
  | error e =>
    have hstatus : (readAnswer reads req db).status = 500 := audit_unread hreads hargs
    exact iff_of_false (not_answersPaging hstatus) (by simp)
  | ok requested =>
    have hstatus : (readAnswer reads req db).status = _ := audit_status hreads hargs
    constructor
    · intro h
      have hgood : ¬('\x00' ∈ (textArg req.args "q").toList ∨ ¬(auditBounds (max 1 requested)).Fit) := by
        intro hbad
        rw [if_pos hbad] at hstatus
        exact not_answersPaging hstatus h
      rw [not_or, not_not, fit_auditBounds] at hgood
      exact ⟨hgood.1, requested, rfl, hgood.2⟩
    · rintro ⟨hsearch, requested', he, hle⟩
      obtain rfl := Except.ok.inj he
      have hfit : (auditBounds (max 1 requested)).Fit := fit_auditBounds.mpr hle
      rw [if_neg (not_or.mpr ⟨hsearch, not_not.mpr hfit⟩)] at hstatus
      exact .inr ⟨hstatus, auditBounds (max 1 requested), by rw [hquery, auditPageNo, hargs]; rfl, hfit⟩

end Audit

/-! ### The three listings -/

/-- **Which page numbers a listing survives.** A `GET` of a listing by an account that may see it,
with nothing failing, answers 400 or the page exactly when its parameters can be bound and the
offset is a `bigint`, on the audit page of a number. -/
theorem answersPaging_iff (site : Site) (env : Env) (a : Ambient) (ra : ReadAmbient) (req : Request)
    (w : World) (hget : req.method = .get) (hpaged : req.endpoint.paged = true)
    (ha : ∀ c, a.fails c = false) (huser : MayList w.db req) :
    AnswersPaging req (respond (serve env (reads site env a ra) a req) w).1 ↔ PagingFits site req := by
  rw [serve_read ha hget hpaged huser]
  cases he : req.endpoint with
  | alerts =>
    have hreads : reads site env a ra req =
        Queue.open_.read env site.fromisoformat site.pg ra.plan req.args := by rw [reads, he]
    rw [answersPaging_queue hreads (by rw [pageBounds, he]), PagingFits, he]
    rfl
  | allAlerts =>
    have hreads : reads site env a ra req =
        Queue.all.read env site.fromisoformat site.pg ra.plan req.args := by rw [reads, he]
    rw [answersPaging_queue hreads (by rw [pageBounds, he]), PagingFits, he]
    rfl
  | auditPage =>
    have hreads : reads site env a ra req = auditPageRead env site.pg ra.plan req.args := by rw [reads, he]
    rw [answersPaging_audit hreads (by rw [pageBounds, he]), PagingFits, he]
  | _ => simp [he, Endpoint.paged] at hpaged

/-! ### Pages that no listing has -/

def adminSite : Site := ⟨utc, fun _ => false, fun _ => .error (.abort 404 "not found")⟩

/-- One account, of an administrator. -/
def adminWorld : World := emptyWorld.setDb { applySchema none with users := [⟨1, "admin", "", .admin⟩] }

/-- The administrator opens a page. -/
def openPage (e : Endpoint) (page : String) : Request := ⟨.get, e, some 1, none, none, none, [("page", page)], []⟩

def readingOnce : ReadAmbient := ⟨fun _ => asStored, asStored, 0⟩

theorem answersPaging_second :
    AnswersPaging (openPage .auditPage "2")
      (respond (serve exampleEnv (reads adminSite exampleEnv calm readingOnce) calm
        (openPage .auditPage "2")) adminWorld).1 := by
  have hnumber : intArg (openPage .auditPage "2").args "page" 1 = .ok 2 := by decide
  have hsearch : '\x00' ∉ (textArg (openPage .auditPage "2").args "q").toList := by decide
  exact (answersPaging_iff adminSite exampleEnv calm readingOnce (openPage .auditPage "2") adminWorld rfl rfl
    (fun _ => rfl) ⟨⟨1, "admin", .admin⟩, rfl, fun _ => rfl⟩).mpr ⟨hsearch, 2, hnumber, by decide⟩

/-- `/audit?page=abc` is answered 500, and so is `/api/alerts?page=9223372036854775808`. -/
theorem page_answered_500 :
    ¬AnswersPaging (openPage .auditPage "abc")
        (respond (serve exampleEnv (reads adminSite exampleEnv calm readingOnce) calm
          (openPage .auditPage "abc")) adminWorld).1 ∧
      ¬AnswersPaging (openPage .alerts "9223372036854775808")
        (respond (serve exampleEnv (reads adminSite exampleEnv calm readingOnce) calm
          (openPage .alerts "9223372036854775808")) adminWorld).1 := by
  have haudit : (respond (serve exampleEnv (reads adminSite exampleEnv calm readingOnce) calm
      (openPage .auditPage "abc")) adminWorld).1.status = 500 := by decide
  have halerts : (respond (serve exampleEnv (reads adminSite exampleEnv calm readingOnce) calm
      (openPage .alerts "9223372036854775808")) adminWorld).1.status = 500 := by decide
  exact ⟨not_answersPaging haudit, not_answersPaging halerts⟩

end SocDashboard
