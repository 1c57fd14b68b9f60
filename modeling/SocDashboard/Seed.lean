/-
# The seeding run

seed.py: one transaction that truncates the alert tables and inserts fifty
demo alerts, thirty of them closed with their action. What the script draws at
random is a `SeedPlan`, any plan of the shape that the script builds; ages and
addresses are left open.

`TRUNCATE ... RESTART IDENTITY CASCADE` empties the tables whose foreign keys
lead to the named ones, so `audit_log` goes along only while its foreign key
is in force. All of it, the sequences included, is taken back when the
transaction does not commit.

Key definitions: `formatTemplate`, `SeedPlan`, `Db.truncated`, `Db.seeded`,
`seedMain`, `seeds`.
Key theorems: `mem_format`, `seedMain_snd`, `seeded_values`, `seeded_ids`,
`seeded_title_space`.
-/
import SocDashboard.World

namespace SocDashboard

open Exec

/-! ### The templates -/

/-- `str.format`, on characters; `name` is what stands behind an open brace so far. -/
def formatChars (fields : String → String) : Option (List Char) → List Char → List Char
  | _, [] => []
  | none, c :: cs =>
    if c = '\x7b' then formatChars fields (some []) cs else c :: formatChars fields none cs
  | some name, c :: cs =>
    if c = '\x7d' then (fields (String.ofList name)).toList ++ formatChars fields none cs
    else formatChars fields (some (name ++ [c])) cs

def formatTemplate (fields : String → String) (template : String) : String :=
  String.ofList (formatChars fields none template.toList)

inductive SeedCategory
  | bruteForce
  | malware
  | phishing
  | portScan
  | anomaly
  deriving DecidableEq, Repr

namespace SeedCategory

def name : SeedCategory → String
  | bruteForce => "brute_force"
  | malware => "malware"
  | phishing => "phishing"
  | portScan => "port_scan"
  | anomaly => "anomaly"

/-- `SOURCES`. -/
def source : SeedCategory → String
  | bruteForce => "Auth Logs"
  | malware => "EDR"
  | phishing => "Email Gateway"
  | portScan => "Firewall/IDS"
  | anomaly => "SIEM/UEBA"

/-- `TEMPLATES`: title and description. -/
def templates : SeedCategory → List (String × String)
  | bruteForce =>
    [("SSH brute-force against {host}",
      "{n} failed SSH logins for user {user} from {ip} within 2 minutes."),
     ("RDP password spray detected",
      "Multiple failed RDP authentications from {ip} targeting {n} accounts."),
     ("Failed login burst on VPN gateway",
      "{n} failed VPN auth attempts from {ip} for account {user}."),
     ("Repeated 401s on admin portal",
      "Login endpoint hit {n} times with bad credentials from {ip}."),
     ("SMB authentication failures",
      "Account lockout triggered after {n} failed SMB logons from {ip}.")]
  | malware =>
    [("Trojan.Emotet detected on {host}",
      "EDR quarantined Emotet payload dropped by {ip}; persistence attempted."),
     ("Ransomware behavior on endpoint",
      "Mass file rename + shadow-copy deletion observed on {host}."),
     ("Cobalt Strike beacon to {ip}",
      "Periodic beaconing to known C2 {ip} from {host}."),
     ("Suspicious PowerShell encoded command",
      "Base64 PowerShell spawned by Office process on {host}."),
     ("Known malware hash executed",
      "Process on {host} matched threat-intel hash; outbound to {ip}.")]
  | phishing =>
    [("Credential-harvesting email reported",
      "User reported phishing email with link to fake O365 login from {ip}."),
     ("Spoofed CEO wire-transfer request",
      "BEC email impersonating executive sent to finance; reply-to {ip}."),
     ("Malicious attachment delivered",
      "Macro-enabled doc detected in inbound mail from {ip}."),
     ("Phishing link clicked by {user}",
      "Proxy logged {user} visiting credential-phish domain hosted at {ip}."),
     ("OAuth consent phishing attempt",
      "Suspicious app consent grant requested for {user} via {ip}.")]
  | portScan =>
    [("Horizontal port scan from {ip}",
      "{ip} probed TCP/22,80,443,3389 across {n} internal hosts."),
     ("Nmap SYN scan detected",
      "Stealth SYN scan from {ip} hit {n} ports on {host}."),
     ("External recon on perimeter",
      "Firewall logged {n} dropped probes from {ip} in 60s."),
     ("Vertical scan against {host}",
      "{ip} swept {n} ports on a single host {host}."),
     ("UDP service enumeration",
      "{ip} enumerated UDP services across {n} hosts.")]
  | anomaly =>
    [("Impossible travel for {user}",
      "{user} signed in from two countries within 20 minutes (last IP {ip})."),
     ("Off-hours data exfiltration",
      "{host} uploaded {n} MB to {ip} at 03:00 local time."),
     ("Privilege escalation anomaly",
      "{user} added to Domain Admins outside change window."),
     ("Unusual DNS volume",
      "{host} issued {n} DNS queries to {ip} (possible tunneling)."),
     ("New admin login geo-anomaly",
      "First-ever admin login for {user} from {ip}.")]

end SeedCategory

def seedHosts : List String :=
  ["WIN-DC01", "FIN-WS07", "HR-LT12", "WEB-PROD-03", "DB-CORE-01", "ENG-MAC22", "VPN-GW01", "SRV-APP09",
   "MKT-WS18", "OPS-JUMP02"]

def seedUsers : List String :=
  ["jdoe", "asmith", "mpatel", "rking", "lchen", "twong", "svc_backup", "admin", "kbrown", "ngarcia"]

def seedAnalysts : List String := ["alice", "bob", "charlie"]

/-- `_RESPONSE_RANGE`, in seconds. -/
def responseRange : Severity → ℤ × ℤ
  | .critical => (120, 600)
  | .high => (600, 2400)
  | .medium => (1800, 9000)
  | .low => (3600, 36000)

/-! ### What the script draws -/

/-- How a closed alert was closed. -/
structure SeedClosing where
  action : Action
  analyst : String
  responseTime : ℤ
  deriving DecidableEq, Repr

/-- The draws for one alert. -/
structure SeedDraw where
  category : SeedCategory
  severity : Severity
  template : String × String
  host : String
  user : String
  ip : ℕ × ℕ × ℕ × ℕ
  n : ℕ
  createdAt : Time
  closing : Option SeedClosing
  deriving DecidableEq, Repr

namespace SeedDraw

def ipText (d : SeedDraw) : String :=
  toString d.ip.1 ++ "." ++ toString d.ip.2.1 ++ "." ++ toString d.ip.2.2.1 ++ "." ++ toString d.ip.2.2.2

/-- `fields`, by name. -/
def field (d : SeedDraw) (name : String) : String :=
  if name = "host" then d.host
  else if name = "user" then d.user
  else if name = "ip" then d.ipText
  else if name = "n" then toString d.n
  else ""

/-- The values the script inserts, as they are. -/
def values (d : SeedDraw) : AlertValues where
  title := formatTemplate d.field d.template.1
  category := d.category.name
  severity := d.severity
  source := some d.category.source
  sourceIp := some d.ipText
  description := some (formatTemplate d.field d.template.2)
  workflowRunId := none
  runMetadata := none

/-- The script can draw this. -/
def drawable (d : SeedDraw) : Bool :=
  d.template ∈ d.category.templates && d.host ∈ seedHosts && d.user ∈ seedUsers && 8 ≤ d.n && d.n ≤ 240 &&
    d.closing.all fun c => c.analyst ∈ seedAnalysts && (responseRange d.severity).1 ≤ c.responseTime &&
      c.responseTime ≤ (responseRange d.severity).2

end SeedDraw

def seedCategories : List SeedCategory :=
  List.replicate 12 .bruteForce ++ List.replicate 10 .malware ++ List.replicate 10 .phishing ++
    List.replicate 10 .portScan ++ List.replicate 8 .anomaly

def seedSeverities : List Severity :=
  List.replicate 8 .critical ++ List.replicate 15 .high ++ List.replicate 17 .medium ++ List.replicate 10 .low

/-- The draws of a run: the categories and the severities shuffled, thirty alerts closed. -/
structure SeedPlan where
  draws : List SeedDraw
  categories : (draws.map SeedDraw.category).Perm seedCategories
  severities : (draws.map SeedDraw.severity).Perm seedSeverities
  closed : (draws.filter fun d => d.closing.isSome).length = 30
  drawable : ∀ d ∈ draws, d.drawable = true

/-! ### The transaction -/

namespace Db

/-- `TRUNCATE analyst_actions, alerts RESTART IDENTITY CASCADE`. -/
def truncated (db : Db) : Db :=
  { db with
    alerts := []
    analystActions := []
    alertEmbeddings := []
    auditLog := if db.auditAlertFk then [] else db.auditLog
    alertsSeq := 1
    actionsSeq := 1
    auditSeq := if db.auditAlertFk then 1 else db.auditSeq }

def statusOf (closing : Option SeedClosing) : Status :=
  closing.elim .open_ fun c => actionToStatus c.action

def seededAlert (db : Db) (d : SeedDraw) : Alert :=
  { d.values with
    id := db.alertsSeq
    createdAt := d.createdAt
    status := statusOf d.closing
    assignedTo := d.closing.map SeedClosing.analyst }

/-- The response time in microseconds is added to the alert's age. -/
def seededAction (db : Db) (d : SeedDraw) (c : SeedClosing) : AnalystAction :=
  { id := db.actionsSeq, alertId := db.alertsSeq, analystName := c.analyst, action := c.action
    actedAt := d.createdAt + c.responseTime * 1000000, responseTimeSeconds := some c.responseTime }

def withSeeded (db : Db) (d : SeedDraw) : Db :=
  { db with
    alerts := db.alerts ++ [db.seededAlert d]
    alertsSeq := db.alertsSeq + 1
    analystActions := db.analystActions ++ (d.closing.map (db.seededAction d)).toList
    actionsSeq := db.actionsSeq + d.closing.elim 0 fun _ => 1 }

/-- The database after a seeding run that commits. -/
def seeded (db : Db) (plan : SeedPlan) : Db := plan.draws.foldl withSeeded db.truncated

end Db

/-- The two `INSERT`s for one alert; the second for a closed one only. -/
def insertSeeded (a : Ambient) (d : SeedDraw) : Exec Db Exc Unit := do
  attempt (a.fails .insertAlert) .databaseError (pure ())
  attempt (d.closing.isSome && a.fails .insertAction) .databaseError (pure ())
  modify fun db => db.withSeeded d

def seedBlock (a : Ambient) (plan : SeedPlan) : Exec Db Exc Unit := do
  attempt (a.fails .truncate) .databaseError (modify Db.truncated)
  forEach (insertSeeded a) plan.draws
  attempt (a.fails (.commit .main)) .databaseError (pure ())

/-- `main` of seed.py. -/
def seedMain (a : Ambient) (plan : SeedPlan) : Exec World Exc Unit :=
  attempt (a.fails (.connect .main)) .databaseError <|
    zoom World.db World.setDb <| atomically (fun old _ => old) (seedBlock a plan)

/-- The `INSERT`s for one alert go through. -/
def insertsSeeded (a : Ambient) (d : SeedDraw) : Bool :=
  !a.fails .insertAlert && !(d.closing.isSome && a.fails .insertAction)

/-- The seeding run commits. -/
def seeds (a : Ambient) (plan : SeedPlan) : Bool :=
  !a.fails (.connect .main) && !a.fails .truncate && !a.fails (.commit .main) &&
    plan.draws.all (insertsSeeded a)

section Spec

variable {a : Ambient} {plan : SeedPlan} {db : Db}

theorem insertSeeded_ok (d : SeedDraw) (db : Db) :
    insertsSeeded a d = true ↔ ∃ db', insertSeeded a d db = (.ok (), db') := by
  unfold insertsSeeded insertSeeded
  cases a.fails .insertAlert <;> cases (d.closing.isSome && a.fails .insertAction) <;> simp [bind_apply]

theorem insertSeeded_snd {d : SeedDraw} {db db' : Db} (h : insertSeeded a d db = (.ok (), db')) :
    db' = db.withSeeded d := by
  unfold insertSeeded at h
  obtain ⟨_, _, h₁, h⟩ := bind_eq_ok.mp h
  obtain ⟨_, _, h₂, h⟩ := bind_eq_ok.mp h
  obtain ⟨-, h₁⟩ := attempt_eq_ok.mp h₁
  obtain ⟨-, h₂⟩ := attempt_eq_ok.mp h₂
  simp only [pure_apply, modify_apply, Prod.mk.injEq, true_and] at h₁ h₂ h
  rw [← h, ← h₂, ← h₁]

theorem forEach_insertSeeded : ∀ (draws : List SeedDraw) (db db' : Db),
    forEach (insertSeeded a) draws db = (.ok (), db') → db' = draws.foldl Db.withSeeded db
  | [], db, db', h => by
    simp only [forEach, pure_apply, Prod.mk.injEq] at h
    exact h.2.symm
  | d :: draws, db, db', h => by
    obtain ⟨_, db₁, h₁, h₂⟩ := bind_eq_ok.mp h
    rw [forEach_insertSeeded draws db₁ db' h₂, insertSeeded_snd h₁, List.foldl_cons]

theorem seedBlock_ok {db' : Db} (hc : a.fails (.connect .main) = false) :
    seedBlock a plan db = (.ok (), db') ↔ seeds a plan = true ∧ db' = db.seeded plan := by
  have hall := forEach_ok_iff (insertSeeded_ok (a := a)) plan.draws db.truncated
  unfold seedBlock
  constructor
  · intro h
    obtain ⟨_, db₁, h₁, h⟩ := bind_eq_ok.mp h
    obtain ⟨ht, h₁⟩ := attempt_eq_ok.mp h₁
    simp only [modify_apply, Prod.mk.injEq, true_and] at h₁
    subst h₁
    obtain ⟨_, db₂, h₂, h⟩ := bind_eq_ok.mp h
    obtain ⟨hm, h⟩ := attempt_eq_ok.mp h
    simp only [pure_apply, Prod.mk.injEq, true_and] at h
    subst h
    refine ⟨?_, forEach_insertSeeded _ _ _ h₂⟩
    simp only [seeds, hc, ht, hm, Bool.not_false, Bool.true_and, List.all_eq_true]
    exact hall.mp ⟨db₂, h₂⟩
  · rintro ⟨hs, rfl⟩
    simp only [seeds, Bool.and_eq_true, Bool.not_eq_true', List.all_eq_true] at hs
    obtain ⟨⟨⟨-, ht⟩, hm⟩, hd⟩ := hs
    obtain ⟨db₂, h₂⟩ := hall.mpr hd
    refine bind_eq_ok.mpr ⟨(), db.truncated, attempt_eq_ok.mpr ⟨ht, rfl⟩, ?_⟩
    refine bind_eq_ok.mpr ⟨(), db₂, h₂, attempt_eq_ok.mpr ⟨hm, ?_⟩⟩
    rw [pure_apply, forEach_insertSeeded _ _ _ h₂]
    rfl

/-- **A seeding run does all of it or nothing.** -/
theorem seedMain_snd (a : Ambient) (plan : SeedPlan) (w : World) :
    (seedMain a plan w).2 = if seeds a plan then w.setDb (w.db.seeded plan) else w := by
  unfold seedMain
  cases hc : a.fails (.connect .main) with
  | true => simp [seeds, hc]
  | false =>
    rw [attempt_false, zoom_apply]
    rcases hb : seedBlock a plan w.db with ⟨e | u, db'⟩
    · have hno : seeds a plan = false := by
        rw [← Bool.not_eq_true]
        intro hs
        rw [(seedBlock_ok hc).mpr ⟨hs, rfl⟩] at hb
        simp at hb
      rw [(atomically_error).mpr ⟨db', hb, rfl⟩, hno]
      rfl
    · obtain ⟨hs, rfl⟩ := (seedBlock_ok hc).mp hb
      rw [atomically_ok.mpr hb, hs]
      rfl

/-! ### What it leaves -/

theorem foldl_withSeeded_values : ∀ (draws : List SeedDraw) (db : Db),
    (draws.foldl Db.withSeeded db).alerts.map Alert.toAlertValues =
      db.alerts.map Alert.toAlertValues ++ draws.map SeedDraw.values
  | [], db => by simp
  | d :: draws, db => by
    rw [List.foldl_cons, foldl_withSeeded_values draws]
    simp [Db.withSeeded, Db.seededAlert]

theorem foldl_withSeeded_ids : ∀ (draws : List SeedDraw) (db : Db),
    (draws.foldl Db.withSeeded db).alerts.map Alert.id =
      db.alerts.map Alert.id ++ List.range' db.alertsSeq draws.length
  | [], db => by simp
  | d :: draws, db => by
    rw [List.foldl_cons, foldl_withSeeded_ids draws]
    simp [Db.withSeeded, Db.seededAlert, List.range'_succ]

/-- What the loop leaves alone, and where the sequence of `alerts` ends up. -/
theorem foldl_withSeeded_frame : ∀ (draws : List SeedDraw) (db : Db),
    (draws.foldl Db.withSeeded db).auditLog = db.auditLog ∧
      (draws.foldl Db.withSeeded db).auditSeq = db.auditSeq ∧
      (draws.foldl Db.withSeeded db).auditAlertFk = db.auditAlertFk ∧
      (draws.foldl Db.withSeeded db).alertsSeq = db.alertsSeq + draws.length
  | [], db => ⟨rfl, rfl, rfl, rfl⟩
  | d :: draws, db => by
    obtain ⟨h₁, h₂, h₃, h₄⟩ := foldl_withSeeded_frame draws (db.withSeeded d)
    rw [List.foldl_cons]
    refine ⟨h₁, h₂, h₃, h₄.trans ?_⟩
    simp only [Db.withSeeded, List.length_cons]
    omega

/-- The rows of a seeded database hold what the script inserted. -/
theorem seeded_values (db : Db) (plan : SeedPlan) :
    (db.seeded plan).alerts.map Alert.toAlertValues = plan.draws.map SeedDraw.values := by
  rw [Db.seeded, foldl_withSeeded_values]
  rfl

theorem seeded_ids (db : Db) (plan : SeedPlan) :
    (db.seeded plan).alerts.map Alert.id = List.range' 1 plan.draws.length := by
  rw [Db.seeded, foldl_withSeeded_ids]
  rfl

/-- The fifty draws. -/
theorem SeedPlan.length (plan : SeedPlan) : plan.draws.length = 50 := by
  have h := plan.categories.length_eq
  rw [List.length_map] at h
  rw [h]
  rfl

/-! ### No title is a token -/

/-- The characters of a template that are not in braces. -/
def literalChars : Bool → List Char → List Char
  | _, [] => []
  | false, c :: cs => if c = '\x7b' then literalChars true cs else c :: literalChars false cs
  | true, c :: cs => if c = '\x7d' then literalChars false cs else literalChars true cs

/-- Formatting keeps what is not in braces. -/
theorem mem_format (fields : String → String) {c : Char} : ∀ (cs : List Char) (name : Option (List Char)),
    c ∈ literalChars name.isSome cs → c ∈ formatChars fields name cs
  | [], name, h => by cases name <;> simp [literalChars] at h
  | x :: cs, none, h => by
    simp only [Option.isSome_none, literalChars] at h
    simp only [formatChars]
    split_ifs at h ⊢ with hx
    · exact mem_format fields cs (some []) h
    · rcases List.mem_cons.mp h with rfl | h
      · exact List.mem_cons_self
      · exact List.mem_cons_of_mem _ (mem_format fields cs none h)
  | x :: cs, some name, h => by
    simp only [Option.isSome_some, literalChars] at h
    simp only [formatChars]
    split_ifs at h ⊢ with hx
    · exact List.mem_append_right _ (mem_format fields cs none h)
    · exact mem_format fields cs (some (name ++ [x])) h

/-- Every title has a space outside its braces. -/
theorem template_space (category : SeedCategory) :
    ∀ t ∈ category.templates, ' ' ∈ literalChars false t.1.toList := by
  cases category <;> decide

theorem seeded_title_space {d : SeedDraw} (h : d ∈ plan.draws) : ' ' ∈ d.values.title.toList := by
  have hd := plan.drawable d h
  have ht : d.template ∈ d.category.templates := by
    simp only [SeedDraw.drawable, Bool.and_eq_true, decide_eq_true_eq] at hd
    exact hd.1.1.1.1.1
  have hmem := mem_format d.field d.template.1.toList none (template_space d.category _ ht)
  simpa [SeedDraw.values, formatTemplate] using hmem

end Spec

/-! ### A plan -/

/-- The draw of alert `i` with everything but category, severity and closing the first. -/
def firstDraw (category : SeedCategory) (severity : Severity) (i : ℕ) : SeedDraw where
  category := category
  severity := severity
  template := category.templates.headD ("", "")
  host := "WIN-DC01"
  user := "jdoe"
  ip := (1, 0, 0, 1)
  n := 8
  createdAt := 0
  closing := if i < 30 then some ⟨.classifyTp, "alice", (responseRange severity).1⟩ else none

def firstDraws : List SeedDraw :=
  ((seedCategories.zip seedSeverities).zip (List.range 50)).map fun ((c, s), i) => firstDraw c s i

def firstPlan : SeedPlan where
  draws := firstDraws
  categories := List.Perm.of_eq (by decide)
  severities := List.Perm.of_eq (by decide)
  closed := by decide
  drawable := by decide

end SocDashboard
