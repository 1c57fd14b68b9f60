/-
# The reading endpoints

What the views that only read make of a request and of the rows: the listings,
similar alerts, the statistics, the history of an alert, the audit page and the
Navigator layer, put together as the parameter `Reads` of the routes.

Key definitions: `similarRows`, `auditHistory`, `like`, `Queue.read`,
`auditPageRead`, `navigatorLayer`, `reads`.
-/
import SocDashboard.Listing
import SocDashboard.Routes

namespace SocDashboard

open Dict Query

/-- What a deployment fixes: its database session, which texts
`datetime.fromisoformat` takes, and its static folder. -/
structure Site where
  pg : Pg
  fromisoformat : String → Bool
  static : String → Except Exc Response

/-- What a reading request meets: the row order of each statement and the clock
that `compute_sla` reads. -/
structure ReadAmbient where
  stats : StatsStatement → Plan
  plan : Plan
  clock : Time

/-! ### Similar alerts -/

/-- The rows of the similarity query, each with its distance. -/
def similarRows (pg : Pg) (plan : Plan) (alertId : ℕ) (db : Db) : List (Alert × ℚ) :=
  let joined :=
    (db.alertEmbeddings.filter fun ref => ref.alertId = alertId).flatMap fun ref =>
      (db.alertEmbeddings.filter fun cmp => cmp.alertId ≠ ref.alertId).flatMap fun cmp =>
        (db.alerts.filter fun row => row.id = cmp.alertId).map fun row =>
          (row, pg.distance ref.embedding cmp.embedding)
  (orderBy Prod.snd (fun r => plan.ids r.1.id) joined).take 5

/-- An entry of the answer of `api_similar_alerts`. -/
def similarAlert (env : Env) (pg : Pg) (r : Alert × ℚ) : SimilarAlert where
  id := r.1.id
  title := decryptStr env.scheme env.fernet r.1.title
  category := r.1.category
  severity := r.1.severity
  status := r.1.status
  createdAt := r.1.createdAt
  similarity := pg.similarity r.2

/-! ### The audit trail -/

/-- `decrypt_field` on the note of an entry. -/
def decryptEntry (env : Env) (e : AuditEntry) : AuditEntry :=
  { e with note := decryptField env.scheme env.fernet e.note }

/-- The rows of `api_alert_audit`. -/
def auditHistory (plan : Plan) (alertId : ℕ) (db : Db) : List AuditEntry :=
  orderBy (fun e => e.createdAt) (fun e => plan.ids e.id) (db.auditLog.filter fun e => e.alertId = alertId)

/-- The text of the column `action`. -/
def AuditAction.name : AuditAction → String
  | .triage action => action.name
  | .noteAdded => "note_added"

/-- `LIKE`: the pattern, then the text. An escape at the end of a pattern, which
is an error there, does not occur in ours. -/
def like : List Char → List Char → Bool
  | [], s => s.isEmpty
  | '%' :: p, s => s.tails.any (like p)
  | '_' :: p, s =>
    match s with
    | [] => false
    | _ :: s => like p s
  | '\\' :: c :: p, s =>
    match s with
    | [] => false
    | d :: s => c = d && like p s
  | c :: p, s =>
    match s with
    | [] => false
    | d :: s => c = d && like p s

/-- `text ILIKE pattern`. -/
def ilike (pg : Pg) (text pattern : String) : Bool := like (pg.lower pattern).toList (pg.lower text).toList

/-- The clause of the audit page, `search` in its pattern. -/
def auditMatches (pg : Pg) (search : String) (e : AuditEntry) : Bool :=
  ilike pg e.username ("%" ++ search ++ "%") || ilike pg e.action.name ("%" ++ search ++ "%")

def auditPageEntry (env : Env) (e : AuditEntry) : AuditPageEntry where
  id := e.id
  alertId := e.alertId
  username := e.username
  action := e.action
  fromStatus := e.fromStatus
  toStatus := e.toStatus
  createdAt := e.createdAt
  note := decryptField env.scheme env.fernet e.note

/-- The rows that the search of `audit_log_page` selects, in its order. -/
def auditRows (pg : Pg) (plan : Plan) (search : String) (db : Db) : List AuditEntry :=
  orderBy (fun e => -e.createdAt) (fun e => plan.ids e.id)
    (if search = "" then db.auditLog else db.auditLog.filter (auditMatches pg search))

/-- The page that `audit_log_page` shows. -/
def auditPageNo (args : Args) : Except Exc ℤ := (intArg args "page" 1).map (max 1)

/-- The bounds of its query. -/
def auditBounds (pageNo : ℤ) : Bounds := ⟨50, (pageNo - 1) * 50⟩

theorem fit_auditBounds {requested : ℤ} :
    (auditBounds (max 1 requested)).Fit ↔ (max 1 requested - 1) * 50 ≤ maxBigint := by
  have hoffset : 0 ≤ (max 1 requested - 1) * 50 := mul_nonneg (by omega) (by omega)
  exact ⟨fun h => h.2.2, fun h => ⟨by show (0 : ℤ) ≤ 50 ∧ 50 ≤ maxBigint; decide, hoffset, h⟩⟩

/-- `audit_log_page`: what it reads of the request, then the context of its template. -/
def auditPageRead (env : Env) (pg : Pg) (plan : Plan) (args : Args) :
    Except Exc (Db → Except Exc Response) := do
  let pageNo ← auditPageNo args
  let search := textArg args "q"
  pure fun db => do
    let search ← adaptStr search
    let rows ← limitOffset (auditBounds pageNo) (auditRows pg plan search db)
    pure ⟨200, .auditPage
      { entries := rows.map (auditPageEntry env)
        page := pageNo
        perPage := 50
        total := db.auditLog.length
        search := search }, none⟩

/-! ### The Navigator layer -/

/-- `_CATEGORY_MITRE`. -/
def categoryMitre : Dict String String :=
  [("brute_force", "T1110.001"), ("port_scan", "T1046"), ("malware", "T1059"), ("phishing", "T1566"),
   ("anomaly", "T1078")]

/-- `_NAVIGATOR_SCORE`. -/
def navigatorScore : Severity → ℕ
  | .critical => 100
  | .high => 75
  | .medium => 50
  | .low => 25

/-- `SELECT category, severity, count(*) AS c FROM alerts GROUP BY category, severity`. -/
def selectCategorySeverity (plan : Plan) (db : Db) : List ((String × Severity) × ℕ) :=
  anyOrder (fun g => plan.pairs (g.1.1, g.1.2.name))
    (groupBy (fun row : Alert => (row.category, row.severity)) List.length db.alerts)

/-- A group replaces the technique of a lower score. -/
def outscores (techniques : Dict String Technique) (tid : String) (score : ℕ) : Bool :=
  match getItem techniques tid with
  | none => true
  | some t => t.score < score

/-- The loop of `api_navigator_layer`: the total and the techniques so far, then a group. -/
def layerStep (acc : ℕ × Dict String Technique) (g : (String × Severity) × ℕ) : ℕ × Dict String Technique :=
  let total := acc.1 + g.2
  match getItem categoryMitre g.1.1 with
  | none => (total, acc.2)
  | some tid =>
    if outscores acc.2 tid (navigatorScore g.1.2) then
      (total, setItem acc.2 tid
        ⟨tid, navigatorScore g.1.2, g.1.1 ++ ": " ++ toString g.2 ++ " alert(s), " ++ g.1.2.name⟩)
    else (total, acc.2)

/-- `api_navigator_layer`. -/
def navigatorLayer (plan : Plan) (db : Db) : NavigatorLayer :=
  let acc := (selectCategorySeverity plan db).foldl layerStep (0, [])
  { description := "ATT&CK coverage derived from " ++ toString acc.1 ++ " SOC alert(s)."
    techniques := acc.2.map Prod.snd }

/-! ### All of them -/

/-- What the reading views make of a request and of the rows. -/
def reads (site : Site) (env : Env) (a : Ambient) (ra : ReadAmbient) : Reads := fun req =>
  match req.endpoint with
  | .alerts => Queue.open_.read env site.fromisoformat site.pg ra.plan req.args
  | .allAlerts => Queue.all.read env site.fromisoformat site.pg ra.plan req.args
  | .similar alertId => .ok fun db =>
    .ok ⟨200, .similar ((similarRows site.pg ra.plan alertId db).map (similarAlert env site.pg)), none⟩
  | .stats => .ok fun db =>
    .ok ⟨200, .stats (apiStatsAnswer site.pg ra.stats a.now ra.clock fun _ => db), none⟩
  | .audit alertId => .ok fun db =>
    .ok ⟨200, .auditHistory ((auditHistory ra.plan alertId db).map (decryptEntry env)), none⟩
  | .auditPage => auditPageRead env site.pg ra.plan req.args
  | .navigatorLayer => .ok fun db => .ok ⟨200, .layer (navigatorLayer ra.plan db), none⟩
  | .static filename => .ok fun _ => site.static filename
  | _ => .ok fun _ => .ok ⟨200, .page, none⟩

end SocDashboard
