/-
# What the reading endpoints make of what is shown

Every reading endpoint makes the same answer of the database and, without a
key, of what is shown of it: filters, orders, groups and counts read no
encrypted column, and what the answers carry of one is decrypted.

Key theorems: `listAlerts_shown`, `apiStatsAnswer_shown`, `similarRows_shown`,
`auditPageRead_shown`, `navigatorLayer_shown`, `reads_sameEnd`.
-/
import SocDashboard.Decrypted

namespace SocDashboard

open Exec Query

/-! ### Without a key -/

theorem decryptField_none (env : Env) (v : Option String) :
    decryptField (env.withKey none).scheme (env.withKey none).fernet v = v := by
  cases v <;> rfl

@[simp] theorem decryptAlert_none (env : Env) (row : Alert) : decryptAlert (env.withKey none) row = row := by
  simp only [decryptAlert, decryptField_none]
  rfl

@[simp] theorem decryptEntry_none (env : Env) (e : AuditEntry) : decryptEntry (env.withKey none) e = e := by
  simp only [decryptEntry, decryptField_none]

section Rows

variable (env : Env)

theorem filter_decryptAlert {keep : Alert → Bool} (h : ∀ row, keep (decryptAlert env row) = keep row)
    (rows : List Alert) : (rows.map (decryptAlert env)).filter keep = (rows.filter keep).map (decryptAlert env) := by
  rw [List.filter_map]
  congr 2
  exact funext h

theorem filter_decryptEntry {keep : AuditEntry → Bool} (h : ∀ e, keep (decryptEntry env e) = keep e)
    (rows : List AuditEntry) :
    (rows.map (decryptEntry env)).filter keep = (rows.filter keep).map (decryptEntry env) := by
  rw [List.filter_map]
  congr 2
  exact funext h

/-! ### The listings -/

/-- No filter reads an encrypted column. -/
theorem bindFilters_decryptAlert {pg : Pg} {clauses : List (Predicate × String)} {keep : Alert → Bool}
    (h : bindFilters pg clauses = .ok keep) (row : Alert) : keep (decryptAlert env row) = keep row := by
  have general : ∀ (clauses : List (Predicate × String)) (tests : List (Alert → Bool)),
      (clauses.mapM fun c => c.1.test pg c.2) = .ok tests → ∀ t ∈ tests, t (decryptAlert env row) = t row := by
    intro clauses
    induction clauses with
    | nil =>
      intro tests ht t hmem
      rw [← Except.ok.inj ht] at hmem
      simp at hmem
    | cons c clauses ih =>
      intro tests ht
      rw [List.mapM_cons] at ht
      obtain ⟨t, htest, ht⟩ := except_bind_eq_ok.mp ht
      obtain ⟨rest, hrest, ht⟩ := except_bind_eq_ok.mp ht
      rw [← Except.ok.inj ht, List.forall_mem_cons]
      refine ⟨?_, ih rest hrest⟩
      cases hp : c.1 with
      | equals column =>
        rw [hp] at htest
        rw [← Except.ok.inj htest]
        cases column <;> rfl
      | createdAfter =>
        rw [hp] at htest
        simp only [Predicate.test] at htest
        cases hts : pg.timestamptz c.2 with
        | none => simp [hts] at htest
        | some t₀ =>
          rw [hts] at htest
          rw [← Except.ok.inj htest]
          rfl
  obtain ⟨_, -, h⟩ := except_bind_eq_ok.mp h
  obtain ⟨tests, ht, h⟩ := except_bind_eq_ok.mp h
  rw [← Except.ok.inj h]
  apply Bool.eq_iff_iff.mpr
  rw [List.all_eq_true, List.all_eq_true]
  exact forall₂_congr fun t hmem => by rw [general clauses tests ht t hmem]

theorem listAlerts_shown (pg : Pg) (plan : Plan) (clauses : List (Predicate × String)) (pageNo perPage : ℤ)
    (db : Db) :
    listAlerts (env.withKey none) pg plan clauses pageNo perPage (db.decrypted env) =
      listAlerts env pg plan clauses pageNo perPage db := by
  unfold listAlerts
  cases hk : bindFilters pg clauses with
  | error e => rfl
  | ok keep =>
    have hrows : (db.decrypted env).alerts.filter keep = (db.alerts.filter keep).map (decryptAlert env) :=
      filter_decryptAlert env (bindFilters_decryptAlert env hk) db.alerts
    have horder : orderBy severityOrder (fun row => plan.ids row.id)
        ((db.alerts.filter keep).map (decryptAlert env)) =
          (orderBy severityOrder (fun row => plan.ids row.id) (db.alerts.filter keep)).map (decryptAlert env) :=
      orderBy_map _ _ _ _
    have hnone : decryptAlert (env.withKey none) ∘ decryptAlert env = decryptAlert env :=
      funext fun row => decryptAlert_none env _
    show (do let rows ← limitOffset _ _; pure _) = do let rows ← limitOffset _ _; pure _
    rw [hrows, horder, limitOffset_map, List.length_map]
    cases limitOffset (listBounds pageNo perPage)
        (orderBy severityOrder (fun row => plan.ids row.id) (db.alerts.filter keep)) with
    | error e => rfl
    | ok rows =>
      simp only [Except.map, bind, Except.bind, List.map_map, hnone]

/-! ### The statistics -/

/-- Groups by what is not encrypted are as large as before. -/
theorem groupBy_shown {κ : Type} [DecidableEq κ] (key : Alert → κ)
    (h : ∀ row, key (decryptAlert env row) = key row) (db : Db) :
    groupBy key List.length (db.decrypted env).alerts = groupBy key List.length db.alerts := by
  have hlen : (fun rows : List Alert => (rows.map (decryptAlert env)).length) = List.length :=
    funext fun rows => List.length_map _
  rw [Db.decrypted, groupBy_map, hlen, funext h]

theorem selectAssignees_shown (pg : Pg) (db : Db) :
    selectAssignees pg (db.decrypted env) = selectAssignees pg db := by
  rw [selectAssignees, selectAssignees, Db.decrypted, List.filterMap_map]
  rfl

theorem selectSla_shown (plan : Plan) (db : Db) : selectSla plan (db.decrypted env) = selectSla plan db := by
  have horder : anyOrder (fun row => plan.ids row.id) (db.alerts.map (decryptAlert env)) =
      (anyOrder (fun row => plan.ids row.id) db.alerts).map (decryptAlert env) := orderBy_map _ _ _ _
  have hgroups : slaGroups (db.decrypted env) = slaGroups db := rfl
  rw [selectSla, selectSla, hgroups, Db.decrypted, horder, slaJoin_eq (List.Perm.refl _),
    slaJoin_eq (List.Perm.refl _), List.map_map]
  rfl

/-- No statement of `api_stats` reads an encrypted column. -/
theorem apiStatsAnswer_shown (pg : Pg) (plan : StatsStatement → Plan) (now nowTs : Time) (db : Db) :
    apiStatsAnswer pg plan now nowTs (fun _ => db.decrypted env) = apiStatsAnswer pg plan now nowTs fun _ => db := by
  have hrows : statsRows pg plan now (fun _ => db.decrypted env) = statsRows pg plan now fun _ => db := by
    have hcount : ∀ q : Alert → Bool, (∀ row, q (decryptAlert env row) = q row) →
        (db.decrypted env).alerts.countP q = db.alerts.countP q := by
      intro q hq
      rw [Db.decrypted, List.countP_map]
      exact List.countP_congr fun row _ => by rw [Function.comp_apply, hq]
    have hlen : countAlerts (db.decrypted env) = countAlerts db := List.length_map _
    have hopen : countOpen (db.decrypted env) = countOpen db := hcount _ fun _ => rfl
    have hescalated : countEscalated (db.decrypted env) = countEscalated db := hcount _ fun _ => rfl
    have htriaged : countTriaged (db.decrypted env) = countTriaged db := hcount _ fun _ => rfl
    have hmttr : selectMttr pg now (db.decrypted env) = selectMttr pg now db := rfl
    simp only [statsRows, hlen, hopen, hescalated, htriaged, hmttr, selectAssignees_shown, selectSla_shown]
    simp only [countBy, groupBy_shown env categoryOf (fun _ => rfl) db,
      groupBy_shown env severityOf (fun _ => rfl) db, groupBy_shown env (fun row => row.source) (fun _ => rfl) db]
  rw [apiStatsAnswer, hrows, apiStatsAnswer]

/-! ### Similar alerts -/

theorem similarRows_shown (pg : Pg) (plan : Plan) (alertId : ℕ) (db : Db) :
    similarRows pg plan alertId (db.decrypted env) =
      (similarRows pg plan alertId db).map (Prod.map (decryptAlert env) id) := by
  have hrow : ∀ (ref cmp : Embedding),
      (((db.decrypted env).alerts.filter fun row => row.id = cmp.alertId).map fun row =>
        (row, pg.distance ref.embedding cmp.embedding)) =
      ((db.alerts.filter fun row => row.id = cmp.alertId).map fun row =>
        (row, pg.distance ref.embedding cmp.embedding)).map (Prod.map (decryptAlert env) id) := by
    intro ref cmp
    rw [Db.decrypted, filter_decryptAlert env (fun _ => rfl), List.map_map, List.map_map]
    rfl
  have hemb : (db.decrypted env).alertEmbeddings = db.alertEmbeddings := rfl
  simp only [similarRows, hemb, hrow, ← List.map_flatMap]
  rw [orderBy_map, List.map_take]
  rfl

/-! ### The audit trail -/

theorem auditHistory_shown (plan : Plan) (alertId : ℕ) (db : Db) :
    auditHistory plan alertId (db.decrypted env) = (auditHistory plan alertId db).map (decryptEntry env) := by
  rw [auditHistory, Db.decrypted, filter_decryptEntry env (fun _ => rfl), orderBy_map]
  rfl

theorem auditRows_shown (pg : Pg) (plan : Plan) (search : String) (db : Db) :
    auditRows pg plan search (db.decrypted env) = (auditRows pg plan search db).map (decryptEntry env) := by
  have hrows : (if search = "" then (db.decrypted env).auditLog
      else (db.decrypted env).auditLog.filter (auditMatches pg search)) =
        (if search = "" then db.auditLog else db.auditLog.filter (auditMatches pg search)).map
          (decryptEntry env) := by
    split_ifs
    · rfl
    · exact filter_decryptEntry env (fun _ => rfl) db.auditLog
  rw [auditRows, hrows, orderBy_map]
  rfl

/-- The audit page, once the request is read. -/
theorem auditPageRead_shown (pg : Pg) (plan : Plan) (args : Args) :
    SameEnd (fun q q' => ∀ db : Db, q (db.decrypted env) = q' db)
      (auditPageRead (env.withKey none) pg plan args) (auditPageRead env pg plan args) := by
  have hentry : auditPageEntry (env.withKey none) ∘ decryptEntry env = auditPageEntry env := by
    funext e
    simp only [Function.comp_apply, auditPageEntry, decryptField_none]
    rfl
  refine SameEnd.bind (SameEnd.refl (auditPageNo args)) fun pageNo pageNo' hpage => ?_
  subst hpage
  refine .ok fun db => ?_
  cases hs : adaptStr (textArg args "q") with
  | error e => rfl
  | ok search =>
    show (do let rows ← limitOffset _ _; pure _) = do let rows ← limitOffset _ _; pure _
    rw [auditRows_shown, limitOffset_map]
    cases limitOffset (auditBounds pageNo) (auditRows pg plan search db) with
    | error e => rfl
    | ok rows =>
      simp only [Except.map, bind, Except.bind, List.map_map, hentry]
      rw [Db.decrypted, List.length_map]

/-! ### The Navigator layer -/

theorem navigatorLayer_shown (plan : Plan) (db : Db) :
    navigatorLayer plan (db.decrypted env) = navigatorLayer plan db := by
  have hgroups : selectCategorySeverity plan (db.decrypted env) = selectCategorySeverity plan db := by
    have h := groupBy_shown env (fun row => (row.category, row.severity)) (fun _ => rfl) db
    unfold selectCategorySeverity
    rw [h]
  unfold navigatorLayer
  rw [hgroups]

end Rows

/-! ### All of them -/

/-- **Every reading endpoint makes the same answer** of the database and, without
a key, of what is shown of it. -/
theorem reads_shown (site : Site) (env : Env) (a : Ambient) (ra : ReadAmbient) (req : Request) :
    SameEnd (fun q q' => ∀ db : Db, q (db.decrypted env) = q' db)
      (reads site (env.withKey none) a ra req) (reads site env a ra req) := by
  have hqueue : ∀ queue : Queue, SameEnd (fun q q' => ∀ db : Db, q (db.decrypted env) = q' db)
      (queue.read (env.withKey none) site.fromisoformat site.pg ra.plan req.args)
      (queue.read env site.fromisoformat site.pg ra.plan req.args) := by
    intro queue
    refine SameEnd.bind (SameEnd.refl (parsePagination req.args)) fun n n' hn => ?_
    refine SameEnd.bind (SameEnd.refl (alertFilters site.fromisoformat queue.extra req.args)) fun c c' hc => ?_
    subst hn hc
    exact .ok fun db => by simp only [listAlerts_shown]
  unfold reads
  cases req.endpoint with
  | alerts => exact hqueue .open_
  | allAlerts => exact hqueue .all
  | similar alertId =>
    refine .ok fun db => ?_
    have hsim : similarAlert (env.withKey none) site.pg ∘ Prod.map (decryptAlert env) id =
        similarAlert env site.pg := rfl
    rw [similarRows_shown, List.map_map, hsim]
  | stats => exact .ok fun db => by rw [apiStatsAnswer_shown]
  | audit alertId =>
    refine .ok fun db => ?_
    have hentry : decryptEntry (env.withKey none) ∘ decryptEntry env = decryptEntry env :=
      funext fun e => decryptEntry_none env _
    rw [auditHistory_shown, List.map_map, hentry]
  | auditPage => exact auditPageRead_shown env site.pg ra.plan req.args
  | navigatorLayer => exact .ok fun db => by rw [navigatorLayer_shown]
  | _ => exact .ok fun _ => rfl

end SocDashboard
