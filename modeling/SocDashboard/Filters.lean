/-
# The filters as SQL

`alert_filters` builds the text of a `WHERE` clause and the list of its
parameters side by side, and `_list_alerts` puts the clause into two
statements and appends `LIMIT` and `OFFSET`. Here both are the texts of the
source, read by psycopg2 and the database as parameterised statements are read
(`mogrify`, `readStatement`), and shown to be what the listings compute.

Key definitions: `alertFiltersSql`, `countStatement`, `pageStatement`,
`runCount`, `runPage`, `satisfies`, `Faithful`, `FiltersMean`.
Key theorems: `alertFiltersSql_eq`, `readStatement_count`, `readStatement_page`,
`listAlertsSql_eq`, `filtersMean_iff`.
-/
import SocDashboard.IngestPaths
import SocDashboard.Lib.ParamSql
import SocDashboard.Listing

namespace SocDashboard

open Exec ParamSql Query

/-! ### The texts -/

/-- The items of `FILTER_COLUMNS`. -/
def filterColumnItems : List (String × String) :=
  [("severity", "severity"), ("source", "source"), ("assigned_to", "assigned_to")]

/-- The loop of `alert_filters`: `where_sql` and `params`, then an item. -/
def filterStep (args : Args) (acc : List String × List String) (item : String × String) :
    List String × List String :=
  let value := textArg args item.1
  if value = "" then acc else (acc.1 ++ [item.2 ++ " = %s"], acc.2 ++ [value])

/-- `(" WHERE " + " AND ".join(where_sql)) if where_sql else ""`. -/
def whereText (whereSql : List String) : String :=
  if whereSql = [] then "" else " WHERE " ++ " AND ".intercalate whereSql

/-- `alert_filters`: the text of the clause and its parameters. -/
def alertFiltersSql (fromisoformat : String → Bool) (extra : List (String × String)) (args : Args) :
    Except Exc (String × List String) :=
  let acc := filterColumnItems.foldl (filterStep args) (extra.map Prod.fst, extra.map Prod.snd)
  let createdAfter := textArg args "created_after"
  if createdAfter = "" then .ok (whereText acc.1, acc.2)
  else if fromisoformat (replaceZ createdAfter) then
    .ok (whereText (acc.1 ++ ["created_at >= %s"]), acc.2 ++ [createdAfter])
  else .error (.abort 400 "created_after must be an ISO 8601 datetime")

/-- The predicate the open queue adds. -/
def Queue.extraSql : Queue → List (String × String)
  | .open_ => [("status = %s", "open")]
  | .all => []

/-- `_SEVERITY_ORDER`, line by line. -/
def severityOrderLines : List String :=
  ["    ORDER BY CASE severity",
   "                 WHEN 'CRITICAL' THEN 1",
   "                 WHEN 'HIGH'     THEN 2",
   "                 WHEN 'MEDIUM'   THEN 3",
   "                 WHEN 'LOW'      THEN 4",
   "                 ELSE 5",
   "             END,",
   "             created_at DESC",
   ""]

def severityOrderSql : String := "\n".intercalate ("" :: severityOrderLines)

inductive Param
  | text (s : String)
  | int (n : ℤ)
  deriving DecidableEq, Repr

/-- What `execute` is given. -/
structure Statement where
  text : String
  params : List Param

def countStatement (sql : String) (params : List String) : Statement :=
  ⟨"SELECT count(*) AS c FROM alerts" ++ sql, params.map .text⟩

def pageStatement (sql : String) (params : List String) (perPage offset : ℤ) : Statement :=
  ⟨"SELECT * FROM alerts" ++ sql ++ severityOrderSql ++ " LIMIT %s OFFSET %s",
    params.map .text ++ [.int perPage, .int offset]⟩

@[simp] theorem countStatement_params (sql : String) (params : List String) :
    (countStatement sql params).params = params.map .text := rfl

@[simp] theorem pageStatement_params (sql : String) (params : List String) (perPage offset : ℤ) :
    (pageStatement sql params perPage offset).params = params.map .text ++ [.int perPage, .int offset] := rfl

/-! ### What the driver and the database make of them -/

def adaptParam : Param → Except Exc Unit
  | .text s => (adaptStr s).map fun _ => ()
  | .int _ => .ok ()

def adaptParams : List Param → Except Exc Unit
  | [] => .ok ()
  | p :: ps => do
    adaptParam p
    adaptParams ps

/-- `cursor.mogrify`: as many parameters as placeholders, each adapted. -/
def mogrify (st : Statement) : Except Exc Unit :=
  if placeholders st.text.toList = some st.params.length then adaptParams st.params
  else .error .typeError

/-- The statements that are read: what is selected, and the conditions behind `WHERE`. -/
inductive Select
  | count (conditions : List Comparison)
  | page (conditions : List Comparison)
  deriving DecidableEq, Repr

/-- The conditions, if there is a `WHERE`, and the words behind them. -/
def readWhere : List String → Option (List Comparison × List String)
  | "WHERE" :: rest => conjunction rest
  | rest => some ([], rest)

/-- The words of the order and of the limits. -/
def pageTail : List String := words (severityOrderSql ++ " LIMIT %s OFFSET %s")

def readSelect : List String → Option Select
  | "SELECT" :: "count(*)" :: "AS" :: "c" :: "FROM" :: "alerts" :: rest =>
    (readWhere rest).bind fun found => if found.2 = [] then some (.count found.1) else none
  | "SELECT" :: "*" :: "FROM" :: "alerts" :: rest =>
    (readWhere rest).bind fun found => if found.2 = pageTail then some (.page found.1) else none
  | _ => none

def readStatement (text : String) : Option Select := readSelect (words text)

/-- The text columns by name. -/
def columnOf (name : String) : Option FilterColumn :=
  [FilterColumn.status, .severity, .source, .assignedTo].find? fun column => column.name = name

/-- A comparison of the table `alerts` with its parameter bound. -/
def meaning (pg : Pg) (c : Comparison) (p : Param) : Except Exc (Alert → Bool) :=
  match p with
  | .int _ => .error .databaseError
  | .text value =>
    if c.op = "=" then
      match columnOf c.column with
      | some column => .ok fun row => column.read row = some value
      | none => .error .databaseError
    else if c.column = "created_at" ∧ c.op = ">=" then
      match pg.timestamptz value with
      | some t => .ok fun row => t ≤ row.createdAt
      | none => .error .databaseError
    else .error .databaseError

/-- The count that `fetchone` returns. -/
def runCount (pg : Pg) (st : Statement) (db : Db) : Except Exc ℕ := do
  mogrify st
  match readStatement st.text with
  | some (.count conditions) => do
    let keep ← evaluate (meaning pg) conditions st.params
    pure (db.alerts.filter keep).length
  | _ => .error .databaseError

/-- The rows that `fetchall` returns. -/
def runPage (pg : Pg) (plan : Plan) (st : Statement) (db : Db) : Except Exc (List Alert) := do
  mogrify st
  match readStatement st.text with
  | some (.page conditions) =>
    match st.params.drop conditions.length with
    | [.int limit, .int offset] => do
      let keep ← evaluate (meaning pg) conditions st.params
      limitOffset ⟨limit, offset⟩ (orderBy severityOrder (fun row => plan.ids row.id) (db.alerts.filter keep))
    | _ => .error .databaseError
  | _ => .error .databaseError

/-- `_list_alerts`, as it runs its statements. -/
def listAlertsSql (env : Env) (pg : Pg) (plan : Plan) (sql : String) (params : List String)
    (pageNo perPage : ℤ) (db : Db) : Except Exc AlertPage := do
  let bounds := listBounds pageNo perPage
  let total ← runCount pg (countStatement sql params) db
  let rows ← runPage pg plan (pageStatement sql params bounds.limit bounds.offset) db
  pure
    { alerts := rows.map (decryptAlert env)
      page := pageNo
      perPage := perPage
      total := total
      totalPages := if total = 0 then 0 else (total + perPage - 1) / perPage }

/-! ### The texts as comparisons -/

def Predicate.comparison : Predicate → Comparison
  | .equals column => ⟨column.name, "="⟩
  | .createdAfter => ⟨"created_at", ">="⟩

theorem plain_comparison (p : Predicate) : p.comparison.Plain := by
  rcases p with (_ | _ | _ | _) | _
  all_goals
    constructor
    · exact isWord_of_all (by decide) (by decide)
    · exact isWord_of_all (by decide) (by decide)
    · decide

/-- The clause of a list of predicates. -/
def clauseText (predicates : List Predicate) : String :=
  whereText (predicates.map fun p => p.comparison.text)

theorem filterStep_foldl (args : Args) (columns : List FilterColumn) (acc : List String × List String) :
    (columns.map fun c => (c.name, c.name)).foldl (filterStep args) acc =
      (acc.1 ++ (columns.filterMap fun c =>
          if textArg args c.name = "" then none else some (Predicate.equals c).comparison.text),
        acc.2 ++ columns.filterMap fun c =>
          if textArg args c.name = "" then none else some (textArg args c.name)) := by
  induction columns generalizing acc with
  | nil => simp
  | cons c columns ih =>
    rw [List.map_cons, List.foldl_cons, ih, filterStep]
    have htext : (Predicate.equals c).comparison.text = c.name ++ " = %s" := by cases c <;> decide
    by_cases hv : textArg args c.name = ""
    · simp [hv]
    · simp [hv, htext]

theorem map_columnFilters {β : Type} (g : Predicate × String → β) (args : Args) :
    (columnFilters args).map g = filterColumns.filterMap fun c =>
      if textArg args c.name = "" then none else some (g (.equals c, textArg args c.name)) := by
  rw [columnFilters, List.map_filterMap]
  refine List.filterMap_congr fun c _ => ?_
  show Option.map g (if textArg args c.name = "" then none else some (.equals c, textArg args c.name)) = _
  split_ifs <;> rfl

theorem extraSql_eq (queue : Queue) :
    queue.extraSql = queue.extra.map fun c => (c.1.comparison.text, c.2) := by
  cases queue <;> decide

/-- **The text that `alert_filters` builds is that of its predicates**, and the parameters are
theirs, in order. -/
theorem alertFiltersSql_eq (queue : Queue) (fromisoformat : String → Bool) (args : Args) :
    alertFiltersSql fromisoformat queue.extraSql args =
      (alertFilters fromisoformat queue.extra args).map fun clauses =>
        (clauseText (clauses.map Prod.fst), clauses.map Prod.snd) := by
  have hitems : filterColumnItems = filterColumns.map fun c => (c.name, c.name) := by decide
  have htexts := map_columnFilters (fun c => c.1.comparison.text) args
  have hvalues := map_columnFilters Prod.snd args
  have hafter : Predicate.createdAfter.comparison.text = "created_at >= %s" := by decide
  rw [alertFiltersSql, hitems, filterStep_foldl, ← htexts, ← hvalues, extraSql_eq]
  simp only [List.map_map, alertFilters]
  by_cases hblank : textArg args "created_after" = ""
  · rw [if_pos hblank, if_pos hblank]
    simp only [Except.map, clauseText, List.map_append, List.map_map]
    rfl
  · rw [if_neg hblank, if_neg hblank]
    by_cases hiso : fromisoformat (replaceZ (textArg args "created_after")) = true
    · rw [if_pos hiso, if_pos hiso]
      simp only [Except.map, clauseText, List.map_append, List.map_map, List.map_singleton, hafter]
      rfl
    · rw [if_neg hiso, if_neg hiso]
      rfl

/-! ### How the statements are read -/

section Read

variable {predicates : List Predicate} {params : List String}

theorem clauseText_of_ne_nil (h : predicates ≠ []) :
    clauseText predicates = String.ofList [' '] ++ ("WHERE" ++ String.ofList [' '] ++
      conjText (predicates.map Predicate.comparison)) := by
  have hsep : " WHERE " = String.ofList [' '] ++ ("WHERE" ++ String.ofList [' ']) := by decide
  rw [clauseText, whereText, if_neg (by simpa using h), hsep, conjText, List.map_map]
  simp only [String.append_assoc]
  rfl

theorem plain_predicates : ∀ c ∈ predicates.map Predicate.comparison, c.Plain := by
  intro c hc
  obtain ⟨p, -, rfl⟩ := List.mem_map.mp hc
  exact plain_comparison p

/-- The words of the clause. -/
def clauseWords (predicates : List Predicate) : List String :=
  if predicates = [] then [] else "WHERE" :: conjWords (predicates.map Predicate.comparison)

theorem readWhere_clauseWords {rest : List String} (hand : rest.head? ≠ some "AND")
    (hwhere : rest.head? ≠ some "WHERE") :
    readWhere (clauseWords predicates ++ rest) = some (predicates.map Predicate.comparison, rest) := by
  by_cases h : predicates = []
  · subst h
    cases rest with
    | nil => rfl
    | cons w rest =>
      have hw : w ≠ "WHERE" := fun he => hwhere (by rw [he]; rfl)
      show readWhere (w :: rest) = _
      rw [readWhere]
      · rfl
      · exact fun rest' he => hw (List.cons.inj he).1
  · rw [clauseWords, if_neg h]
    exact conjunction_words hand (by simpa using h)

theorem words_clauseText {a : String} :
    words (a ++ clauseText predicates) = words a ++ clauseWords predicates := by
  have hspace : isSpace ' ' = true := rfl
  by_cases h : predicates = []
  · simp [h, clauseText, whereText, clauseWords]
  · have hword : words "WHERE" = ["WHERE"] := by decide
    rw [clauseText_of_ne_nil h, ← String.append_assoc, words_append hspace, words_append hspace, hword,
      words_conjText plain_predicates, clauseWords, if_neg h]
    rfl

/-- **The count statement is read as a count under the predicates.** -/
theorem readStatement_count :
    readStatement (countStatement (clauseText predicates) params).text =
      some (.count (predicates.map Predicate.comparison)) := by
  have hhead : words "SELECT count(*) AS c FROM alerts" =
      ["SELECT", "count(*)", "AS", "c", "FROM", "alerts"] := by decide +kernel
  have hwhere : readWhere (clauseWords predicates ++ []) = some (predicates.map Predicate.comparison, []) :=
    readWhere_clauseWords (by simp) (by simp)
  rw [List.append_nil] at hwhere
  have hwords : words (countStatement (clauseText predicates) params).text =
      "SELECT" :: "count(*)" :: "AS" :: "c" :: "FROM" :: "alerts" :: clauseWords predicates := by
    show words ("SELECT count(*) AS c FROM alerts" ++ clauseText predicates) = _
    rw [words_clauseText, hhead]
    rfl
  rw [readStatement, hwords, readSelect, hwhere]
  rfl

/-- The order begins on a new line, with `ORDER`. -/
theorem severityOrderSql_eq :
    ∃ rest, severityOrderSql = String.ofList ['\n'] ++ ("    ORDER BY CASE severity" ++
      String.ofList ['\n'] ++ rest) :=
  ⟨_, by rw [severityOrderSql, severityOrderLines, String.intercalate_cons_cons,
    String.intercalate_cons_cons, String.empty_append]⟩

/-- **The page statement is read as the rows under the same predicates.** -/
theorem readStatement_page {perPage offset : ℤ} :
    readStatement (pageStatement (clauseText predicates) params perPage offset).text =
      some (.page (predicates.map Predicate.comparison)) := by
  have hspace : isSpace '\n' = true := rfl
  have hhead : words "SELECT * FROM alerts" = ["SELECT", "*", "FROM", "alerts"] := by decide +kernel
  have horder : words "    ORDER BY CASE severity" = ["ORDER", "BY", "CASE", "severity"] := by decide +kernel
  obtain ⟨rest, hrest⟩ := severityOrderSql_eq
  have htail : ∀ a, words (a ++ severityOrderSql ++ " LIMIT %s OFFSET %s") =
      words a ++ "ORDER" :: "BY" :: "CASE" :: "severity" :: words (rest ++ " LIMIT %s OFFSET %s") := by
    intro a
    rw [hrest, String.append_assoc, String.append_assoc, ← String.append_assoc, words_append hspace,
      String.append_assoc, words_append hspace, horder]
    rfl
  have hpageTail : pageTail = "ORDER" :: "BY" :: "CASE" :: "severity" :: words (rest ++ " LIMIT %s OFFSET %s") := by
    have := htail ""
    rwa [String.empty_append] at this
  have hwhere : readWhere (clauseWords predicates ++ pageTail) =
      some (predicates.map Predicate.comparison, pageTail) := by
    apply readWhere_clauseWords
    · rw [hpageTail]
      simp
    · rw [hpageTail]
      simp
  have hwords : words (pageStatement (clauseText predicates) params perPage offset).text =
      "SELECT" :: "*" :: "FROM" :: "alerts" :: (clauseWords predicates ++ pageTail) := by
    show words ("SELECT * FROM alerts" ++ clauseText predicates ++ severityOrderSql ++
      " LIMIT %s OFFSET %s") = _
    rw [htail, words_clauseText, hhead, hpageTail, List.append_assoc]
    rfl
  rw [readStatement, hwords, readSelect, hwhere, Option.bind_some, if_pos rfl]

/-! ### How the placeholders are counted -/

theorem placeholders_clauseText : placeholders (clauseText predicates).toList = some predicates.length := by
  by_cases h : predicates = []
  · rw [h]
    rfl
  · have hwhere : placeholders " WHERE ".toList = some 0 := by decide
    have htext : (clauseText predicates).toList =
        " WHERE ".toList ++ (conjText (predicates.map Predicate.comparison)).toList := by
      rw [clauseText, whereText, if_neg (by simpa using h), String.toList_append, conjText, List.map_map]
      rfl
    rw [htext, placeholders_append hwhere, placeholders_conjText plain_predicates, List.length_map]
    simp

theorem placeholders_count :
    placeholders (countStatement (clauseText predicates) params).text.toList = some predicates.length := by
  have hhead : placeholders "SELECT count(*) AS c FROM alerts".toList = some 0 := by decide +kernel
  show placeholders ("SELECT count(*) AS c FROM alerts" ++ clauseText predicates).toList = _
  rw [String.toList_append, placeholders_append hhead, placeholders_clauseText]
  simp

theorem placeholders_page {perPage offset : ℤ} :
    placeholders (pageStatement (clauseText predicates) params perPage offset).text.toList =
      some (predicates.length + 2) := by
  have hhead : placeholders "SELECT * FROM alerts".toList = some 0 := by decide +kernel
  have horder : placeholders severityOrderSql.toList = some 0 := by
    apply placeholders_of_not_mem
    apply not_mem_intercalate
    · decide
    · decide +kernel
  have hlimit : placeholders " LIMIT %s OFFSET %s".toList = some 2 := by decide
  show placeholders ("SELECT * FROM alerts" ++ clauseText predicates ++ severityOrderSql ++
    " LIMIT %s OFFSET %s").toList = _
  rw [String.toList_append, String.toList_append, String.toList_append, List.append_assoc, List.append_assoc,
    placeholders_append hhead, placeholders_append placeholders_clauseText, placeholders_append horder, hlimit]
  simp

end Read

/-! ### What the statements return -/

section Execute

variable {pg : Pg} {plan : Plan} {db : Db} {clauses : List (Predicate × String)}

theorem meaning_comparison (p : Predicate) (v : String) : meaning pg p.comparison (.text v) = p.test pg v := by
  rcases p with (_ | _ | _ | _) | _
  case createdAfter =>
    simp only [meaning, Predicate.comparison, Predicate.test]
    cases pg.timestamptz v <;> rfl
  all_goals rfl

/-- The parameters of a statement with the clauses: theirs, then its own. -/
theorem evaluate_clauses (extra : List Param) :
    evaluate (meaning pg) ((clauses.map Prod.fst).map Predicate.comparison)
        ((clauses.map Prod.snd).map .text ++ extra) =
      (do
        let tests ← clauses.mapM fun c => c.1.test pg c.2
        pure fun row => tests.all fun test => test row) := by
  have hzip : ((clauses.map Prod.fst).map Predicate.comparison).zip
      ((clauses.map Prod.snd).map Param.text ++ extra) =
        clauses.map fun c => (c.1.comparison, Param.text c.2) := by
    induction clauses with
    | nil => rfl
    | cons c clauses ih =>
      simp only [List.map_cons, List.cons_append, List.zip_cons_cons, List.cons.injEq, true_and]
      exact ih
  rw [evaluate, hzip, List.mapM_map]
  simp only [Function.comp_def, meaning_comparison]

/-- Adapting the parameters raises where adapting the texts does. -/
theorem adaptParams_eq (clauses : List (Predicate × String)) (ints : List ℤ) :
    adaptParams ((clauses.map Prod.snd).map .text ++ ints.map .int) =
      (clauses.mapM fun c => adaptStr c.2).map fun _ => () := by
  induction clauses with
  | nil =>
    have hints : adaptParams (ints.map .int) = .ok () := by
      induction ints with
      | nil => rfl
      | cons n ints ih => exact ih
    exact hints
  | cons c clauses ih =>
    rw [List.map_cons, List.map_cons, List.cons_append, adaptParams, ih, List.mapM_cons]
    cases hc : adaptStr c.2 with
    | error e => simp [adaptParam, hc, Except.map, bind, Except.bind]
    | ok s =>
      cases clauses.mapM fun c => adaptStr c.2 <;>
        simp [adaptParam, hc, Except.map, bind, Except.bind, pure, Except.pure]

/-- As many parameters as placeholders: then each is adapted. -/
theorem mogrify_eq {text : String} (ints : List ℤ)
    (h : placeholders text.toList = some (clauses.length + ints.length)) :
    mogrify ⟨text, (clauses.map Prod.snd).map .text ++ ints.map .int⟩ =
      (clauses.mapM fun c => adaptStr c.2).map fun _ => () := by
  have hlen : placeholders text.toList =
      some ((clauses.map Prod.snd).map Param.text ++ ints.map Param.int).length := by
    rw [h]
    simp
  rw [mogrify, if_pos hlen, adaptParams_eq]

/-- **The count is that of the rows the bound clause keeps.** -/
theorem runCount_eq :
    runCount pg (countStatement (clauseText (clauses.map Prod.fst)) (clauses.map Prod.snd)) db =
      (bindFilters pg clauses).map fun keep => (db.alerts.filter keep).length := by
  have hplaces : placeholders (countStatement (clauseText (clauses.map Prod.fst))
      (clauses.map Prod.snd)).text.toList = some (clauses.length + ([] : List ℤ).length) := by
    rw [placeholders_count, List.length_map]
    rfl
  have hparams : (countStatement (clauseText (clauses.map Prod.fst)) (clauses.map Prod.snd)).params =
      (clauses.map Prod.snd).map .text ++ [] := (List.append_nil _).symm
  have hmogrify : mogrify (countStatement (clauseText (clauses.map Prod.fst)) (clauses.map Prod.snd)) =
      (clauses.mapM fun c => adaptStr c.2).map fun _ => () := by
    rw [← mogrify_eq [] hplaces, List.map_nil, List.append_nil]
    rfl
  rw [runCount, hmogrify, readStatement_count, bindFilters]
  simp only
  rw [hparams, evaluate_clauses]
  cases clauses.mapM fun c => adaptStr c.2 with
  | error e => rfl
  | ok texts =>
    cases clauses.mapM fun c => c.1.test pg c.2 <;> rfl

/-- **The page is cut from the same rows**, by the limits that stand behind the texts. -/
theorem runPage_eq {perPage offset : ℤ} :
    runPage pg plan (pageStatement (clauseText (clauses.map Prod.fst)) (clauses.map Prod.snd) perPage offset) db =
      (bindFilters pg clauses).bind fun keep =>
        limitOffset ⟨perPage, offset⟩ (orderBy severityOrder (fun row => plan.ids row.id)
          (db.alerts.filter keep)) := by
  have hplaces : placeholders (pageStatement (clauseText (clauses.map Prod.fst)) (clauses.map Prod.snd)
      perPage offset).text.toList = some (clauses.length + [perPage, offset].length) := by
    rw [placeholders_page, List.length_map]
    rfl
  have hmogrify : mogrify (pageStatement (clauseText (clauses.map Prod.fst)) (clauses.map Prod.snd)
      perPage offset) = (clauses.mapM fun c => adaptStr c.2).map fun _ => () :=
    mogrify_eq [perPage, offset] hplaces
  have hparams : (pageStatement (clauseText (clauses.map Prod.fst)) (clauses.map Prod.snd)
      perPage offset).params = (clauses.map Prod.snd).map .text ++ [.int perPage, .int offset] := rfl
  have hdrop : ((clauses.map Prod.snd).map Param.text ++ [Param.int perPage, Param.int offset]).drop
      ((clauses.map Prod.fst).map Predicate.comparison).length = [Param.int perPage, Param.int offset] := by
    rw [List.drop_append_of_le_length (by simp), List.drop_eq_nil_of_le (by simp), List.nil_append]
  rw [runPage, hmogrify, readStatement_page, bindFilters]
  simp only
  rw [hparams, hdrop, evaluate_clauses]
  cases clauses.mapM fun c => adaptStr c.2 with
  | error e => rfl
  | ok texts =>
    cases clauses.mapM fun c => c.1.test pg c.2 <;> rfl

/-- **`_list_alerts` on the texts is the listing of the predicates.** -/
theorem listAlertsSql_eq (env : Env) (pageNo perPage : ℤ) :
    listAlertsSql env pg plan (clauseText (clauses.map Prod.fst)) (clauses.map Prod.snd) pageNo perPage db =
      listAlerts env pg plan clauses pageNo perPage db := by
  rw [listAlertsSql, listAlerts]
  simp only
  rw [runCount_eq, runPage_eq]
  cases bindFilters pg clauses <;> rfl

end Execute

/-! ### What the filters say -/

def filterNames : List String := ["severity", "source", "assigned_to", "created_after"]

/-- The filters of the request that are not empty. -/
def setFilters (args : Args) : List String := filterNames.filter fun name => textArg args name ≠ ""

/-- The value that belongs to a column of the clause. -/
def valueFor (args : Args) (column : String) : String :=
  if column = "status" then "open"
  else if column = "created_at" then textArg args "created_after"
  else textArg args column

/-- The row is in the queue and satisfies every filter that is not empty. -/
def satisfies (queue : Queue) (pg : Pg) (args : Args) (row : Alert) : Bool :=
  decide (queue = .open_ → FilterColumn.status.read row = some "open") &&
    (filterColumns.all fun column =>
      textArg args column.name = "" || column.read row = some (textArg args column.name)) &&
    (textArg args "created_after" = "" ||
      (pg.timestamptz (textArg args "created_after")).any fun t => t ≤ row.createdAt)

/-- A clause and parameters that mean the filters of the request. -/
structure Faithful (queue : Queue) (fromisoformat : String → Bool) (pg : Pg) (args : Args)
    (sql : String) (params : List String) : Prop where
  /-- The text depends on which filters are set, not on their values. -/
  text : ∀ args' sql' params', alertFiltersSql fromisoformat queue.extraSql args' = .ok (sql', params') →
    setFilters args' = setFilters args → sql' = sql
  /-- As many placeholders as parameters, and the i-th parameter is the i-th column's value. -/
  count : ∃ conditions, readStatement (countStatement sql params).text = some (.count conditions) ∧
    placeholders (countStatement sql params).text.toList = some (countStatement sql params).params.length ∧
    (countStatement sql params).params = conditions.map fun c => .text (valueFor args c.column)
  /-- ... also with the limits. -/
  page : ∀ perPage offset, ∃ conditions,
    readStatement (pageStatement sql params perPage offset).text = some (.page conditions) ∧
    placeholders (pageStatement sql params perPage offset).text.toList =
      some (pageStatement sql params perPage offset).params.length ∧
    (pageStatement sql params perPage offset).params =
      (conditions.map fun c => .text (valueFor args c.column)) ++ [.int perPage, .int offset]
  /-- The count is that of the rows that satisfy the filters. -/
  total : ∀ db, runCount pg (countStatement sql params) db =
    .ok (db.alerts.filter (satisfies queue pg args)).length
  /-- The pages are cut from the same rows. -/
  rows : ∀ db plan perPage offset, 0 ≤ perPage → 0 ≤ offset → perPage ≤ maxBigint → offset ≤ maxBigint →
    runPage pg plan (pageStatement sql params perPage offset) db =
      .ok (((orderBy severityOrder (fun row => plan.ids row.id)
        (db.alerts.filter (satisfies queue pg args))).drop offset.toNat).take perPage.toNat)

/-- `alert_filters` refuses the request, or its clause means the filters. -/
def FiltersMean (queue : Queue) (fromisoformat : String → Bool) (pg : Pg) (args : Args) : Prop :=
  match alertFiltersSql fromisoformat queue.extraSql args with
  | .error e => ∃ text, e = .abort 400 text
  | .ok (sql, params) => Faithful queue fromisoformat pg args sql params

/-- The request is refused, or the driver and the database can read its filters. -/
def Readable (fromisoformat : String → Bool) (pg : Pg) (args : Args) : Prop :=
  (textArg args "created_after" ≠ "" ∧ fromisoformat (replaceZ (textArg args "created_after")) = false) ∨
    ((∀ name ∈ filterNames, storable (textArg args name) = true) ∧
      (textArg args "created_after" ≠ "" → (pg.timestamptz (textArg args "created_after")).isSome = true))

/-! ### Binding -/

/-- What a predicate with its parameter keeps. -/
def Predicate.keeps (pg : Pg) (value : String) (row : Alert) : Predicate → Bool
  | .equals column => column.read row = some value
  | .createdAfter => (pg.timestamptz value).any fun t => t ≤ row.createdAt

/-- A parameter that the driver sends and the database reads. -/
def Predicate.Binds (pg : Pg) (value : String) (p : Predicate) : Prop :=
  storable value = true ∧ (p = .createdAfter → (pg.timestamptz value).isSome = true)

section Bind

variable {pg : Pg} {clauses : List (Predicate × String)} {keep : Alert → Bool}

theorem test_eq_ok {p : Predicate} {value : String} :
    (∃ keep, p.test pg value = .ok keep) ↔ (p = .createdAfter → (pg.timestamptz value).isSome = true) := by
  cases p with
  | equals column => simp [Predicate.test]
  | createdAfter => cases h : pg.timestamptz value <;> simp [Predicate.test, h]

theorem test_keeps {p : Predicate} {value : String}
    (h : p = .createdAfter → (pg.timestamptz value).isSome = true) :
    p.test pg value = .ok fun row => p.keeps pg value row := by
  cases p with
  | equals column => rfl
  | createdAfter =>
    obtain ⟨t, ht⟩ := Option.isSome_iff_exists.mp (h rfl)
    simp [Predicate.test, Predicate.keeps, ht]

theorem bindFilters_eq (h : ∀ c ∈ clauses, c.1.Binds pg c.2) :
    bindFilters pg clauses = .ok fun row => clauses.all fun c => c.1.keeps pg c.2 row := by
  have hadapt : clauses.mapM (fun c => adaptStr c.2) = .ok (clauses.map Prod.snd) :=
    except_mapM_eq_map fun c hc => adaptStr_storable (h c hc).1
  have htest : clauses.mapM (fun c => c.1.test pg c.2) =
      .ok (clauses.map fun c row => c.1.keeps pg c.2 row) :=
    except_mapM_eq_map fun c hc => test_keeps (h c hc).2
  rw [bindFilters, hadapt, htest]
  refine congrArg Except.ok (funext fun row => ?_)
  rw [List.all_map]
  rfl

theorem binds_of_bindFilters (h : bindFilters pg clauses = .ok keep) : ∀ c ∈ clauses, c.1.Binds pg c.2 := by
  obtain ⟨texts, htexts, h⟩ := except_bind_eq_ok.mp h
  obtain ⟨tests, htests, -⟩ := except_bind_eq_ok.mp h
  intro c hc
  constructor
  · exact adaptStr_isOk.mp (except_mapM_mem htexts c hc)
  · exact test_eq_ok.mp (except_mapM_mem htests c hc)

end Bind

/-! ### The clauses of a request -/

section Clauses

variable {queue : Queue} {fromisoformat : String → Bool} {pg : Pg} {args : Args}
  {clauses : List (Predicate × String)}

/-- A clause is the queue's own or that of a filter that is set. -/
theorem mem_alertFilters (h : alertFilters fromisoformat queue.extra args = .ok clauses)
    {c : Predicate × String} :
    c ∈ clauses ↔ (queue = .open_ ∧ c = (.equals .status, "open")) ∨
      (∃ column ∈ filterColumns, textArg args column.name ≠ "" ∧
        c = (.equals column, textArg args column.name)) ∨
      (textArg args "created_after" ≠ "" ∧ c = (.createdAfter, textArg args "created_after")) := by
  have hextra : c ∈ queue.extra ↔ queue = .open_ ∧ c = (.equals .status, "open") := by
    cases queue <;> simp [Queue.extra]
  have hcolumns : c ∈ columnFilters args ↔ ∃ column ∈ filterColumns, textArg args column.name ≠ "" ∧
      c = (.equals column, textArg args column.name) := by
    simp only [columnFilters, List.mem_filterMap]
    refine exists_congr fun column => and_congr_right fun _ => ?_
    by_cases hv : textArg args column.name = ""
    · simp [hv]
    · simp [hv, eq_comm]
  rw [alertFilters] at h
  by_cases hblank : textArg args "created_after" = ""
  · rw [if_pos hblank] at h
    obtain rfl := Except.ok.inj h
    simp [hextra, hcolumns, hblank]
  · rw [if_neg hblank] at h
    split_ifs at h with hiso
    obtain rfl := Except.ok.inj h
    simp only [List.mem_append, hextra, hcolumns, List.mem_singleton, or_assoc, hblank, ne_eq,
      not_false_eq_true, true_and]

theorem column_mem_filterNames : ∀ column ∈ filterColumns, column.name ∈ filterNames := by decide

/-- **Two requests with the same filters set have the same predicates.** -/
theorem predicates_of_setFilters {args' : Args} {clauses' : List (Predicate × String)}
    (h : alertFilters fromisoformat queue.extra args = .ok clauses)
    (h' : alertFilters fromisoformat queue.extra args' = .ok clauses')
    (hset : setFilters args' = setFilters args) : clauses'.map Prod.fst = clauses.map Prod.fst := by
  have hname : ∀ name ∈ filterNames, (textArg args' name = "" ↔ textArg args name = "") := by
    intro name hname
    have hmem : name ∈ setFilters args' ↔ name ∈ setFilters args := by rw [hset]
    simpa [setFilters, hname, not_iff_not] using hmem
  have hcolumns : (columnFilters args').map Prod.fst = (columnFilters args).map Prod.fst := by
    rw [map_columnFilters, map_columnFilters]
    refine List.filterMap_congr fun column hcolumn => ?_
    simp only [hname column.name (column_mem_filterNames column hcolumn)]
  have hafter := hname "created_after" (by decide)
  rw [alertFilters] at h h'
  by_cases hblank : textArg args "created_after" = ""
  · rw [if_pos hblank] at h
    rw [if_pos (hafter.mpr hblank)] at h'
    obtain rfl := Except.ok.inj h
    obtain rfl := Except.ok.inj h'
    rw [List.map_append, List.map_append, hcolumns]
  · rw [if_neg hblank] at h
    rw [if_neg (fun hb => hblank (hafter.mp hb))] at h'
    split_ifs at h h'
    obtain rfl := Except.ok.inj h
    obtain rfl := Except.ok.inj h'
    simp only [List.map_append, hcolumns, List.map_cons, List.map_nil]

/-- The parameters are the values of the columns of the clause. -/
theorem values_of_clauses (h : alertFilters fromisoformat queue.extra args = .ok clauses) :
    (clauses.map Prod.snd).map Param.text =
      ((clauses.map Prod.fst).map Predicate.comparison).map fun c => .text (valueFor args c.column) := by
  rw [List.map_map, List.map_map, List.map_map]
  refine List.map_congr_left fun c hc => congrArg Param.text ?_
  rcases (mem_alertFilters h).mp hc with ⟨-, rfl⟩ | ⟨column, hcolumn, -, rfl⟩ | ⟨-, rfl⟩
  · rfl
  · simp only [filterColumns, List.mem_cons, List.not_mem_nil, or_false] at hcolumn
    rcases hcolumn with rfl | rfl | rfl <;> rfl
  · rfl

/-- **What all clauses keep is what satisfies the filters.** -/
theorem all_keeps (h : alertFilters fromisoformat queue.extra args = .ok clauses) (row : Alert) :
    (clauses.all fun c => c.1.keeps pg c.2 row) = satisfies queue pg args row := by
  rw [Bool.eq_iff_iff, List.all_eq_true]
  simp only [mem_alertFilters h, satisfies, Bool.and_eq_true, Bool.or_eq_true, decide_eq_true_eq,
    List.all_eq_true]
  constructor
  · intro hall
    refine ⟨⟨fun hq => ?_, fun column hcolumn => ?_⟩, ?_⟩
    · exact of_decide_eq_true (hall _ (.inl ⟨hq, rfl⟩))
    · by_cases hv : textArg args column.name = ""
      · exact .inl hv
      · exact .inr (of_decide_eq_true (hall _ (.inr (.inl ⟨column, hcolumn, hv, rfl⟩))))
    · by_cases hv : textArg args "created_after" = ""
      · exact .inl hv
      · exact .inr (hall _ (.inr (.inr ⟨hv, rfl⟩)))
  · rintro ⟨⟨hqueue, hcolumns⟩, hafter⟩ c (⟨hq, rfl⟩ | ⟨column, hcolumn, hv, rfl⟩ | ⟨hv, rfl⟩)
    · exact decide_eq_true (hqueue hq)
    · exact decide_eq_true ((hcolumns column hcolumn).resolve_left hv)
    · exact hafter.resolve_left hv

theorem filterNames_cases :
    ∀ name ∈ filterNames, (∃ column ∈ filterColumns, column.name = name) ∨ name = "created_after" := by decide

/-- The clauses are bound when the driver and the database read the filters. -/
theorem binds_iff (h : alertFilters fromisoformat queue.extra args = .ok clauses) :
    (∀ c ∈ clauses, c.1.Binds pg c.2) ↔
      (∀ name ∈ filterNames, storable (textArg args name) = true) ∧
        (textArg args "created_after" ≠ "" →
          (pg.timestamptz (textArg args "created_after")).isSome = true) := by
  have hempty : storable "" = true := by decide
  constructor
  · intro hall
    refine ⟨fun name hname => ?_, fun hv => (hall _ ((mem_alertFilters h).mpr (.inr (.inr ⟨hv, rfl⟩)))).2 rfl⟩
    by_cases hv : textArg args name = ""
    · rw [hv]
      exact hempty
    · rcases filterNames_cases name hname with ⟨column, hcolumn, rfl⟩ | rfl
      · exact (hall _ ((mem_alertFilters h).mpr (.inr (.inl ⟨column, hcolumn, hv, rfl⟩)))).1
      · exact (hall _ ((mem_alertFilters h).mpr (.inr (.inr ⟨hv, rfl⟩)))).1
  · rintro ⟨htexts, hafter⟩ c hc
    rcases (mem_alertFilters h).mp hc with ⟨-, rfl⟩ | ⟨column, hcolumn, -, rfl⟩ | ⟨hv, rfl⟩
    · exact ⟨by decide, nofun⟩
    · exact ⟨htexts column.name (column_mem_filterNames column hcolumn), nofun⟩
    · exact ⟨htexts "created_after" (by decide), fun _ => hafter hv⟩

/-- Filters that can be bound select what satisfies them. -/
theorem bindFilters_satisfies (h : alertFilters fromisoformat queue.extra args = .ok clauses)
    (hbinds : ∀ c ∈ clauses, c.1.Binds pg c.2) : bindFilters pg clauses = .ok (satisfies queue pg args) := by
  rw [bindFilters_eq hbinds]
  exact congrArg Except.ok (funext (all_keeps h))

/-- The clauses of a request whose filters can be read mean them. -/
theorem faithful_of_binds (h : alertFilters fromisoformat queue.extra args = .ok clauses)
    (hbinds : ∀ c ∈ clauses, c.1.Binds pg c.2) :
    Faithful queue fromisoformat pg args (clauseText (clauses.map Prod.fst)) (clauses.map Prod.snd) := by
  have hkeep : bindFilters pg clauses = .ok (satisfies queue pg args) := bindFilters_satisfies h hbinds
  have hvalues := values_of_clauses h
  constructor
  case text =>
    intro args' sql' params' h' hset
    rw [alertFiltersSql_eq] at h'
    cases hc : alertFilters fromisoformat queue.extra args' with
    | error e => rw [hc] at h'; cases h'
    | ok clauses' =>
      rw [hc] at h'
      obtain ⟨rfl, rfl⟩ := Prod.mk.inj (Except.ok.inj h')
      rw [predicates_of_setFilters h hc hset]
  case count =>
    refine ⟨(clauses.map Prod.fst).map Predicate.comparison, readStatement_count, ?_, ?_⟩
    · rw [placeholders_count, countStatement_params]
      simp
    · rw [countStatement_params, hvalues]
  case page =>
    intro perPage offset
    refine ⟨(clauses.map Prod.fst).map Predicate.comparison, readStatement_page, ?_, ?_⟩
    · rw [placeholders_page, pageStatement_params]
      simp
    · rw [pageStatement_params, hvalues]
  case total =>
    intro db
    rw [runCount_eq, hkeep]
    rfl
  case rows =>
    intro db plan perPage offset hper hoffset hper' hoffset'
    have hbounds : Bounds.Fit ⟨perPage, offset⟩ := ⟨⟨hper, hper'⟩, hoffset, hoffset'⟩
    rw [runPage_eq, hkeep]
    exact limitOffset_fit hbounds _

/-- A clause that means the filters can be bound. -/
theorem binds_of_faithful (h : Faithful queue fromisoformat pg args
    (clauseText (clauses.map Prod.fst)) (clauses.map Prod.snd)) : ∀ c ∈ clauses, c.1.Binds pg c.2 := by
  have htotal := h.total (applySchema none)
  rw [runCount_eq] at htotal
  cases hkeep : bindFilters pg clauses with
  | error e => rw [hkeep] at htotal; cases htotal
  | ok keep => exact binds_of_bindFilters hkeep

/-- A request is refused for its `created_after` only. -/
theorem alertFilters_error {e : Exc} (h : alertFilters fromisoformat queue.extra args = .error e) :
    e = .abort 400 "created_after must be an ISO 8601 datetime" ∧ textArg args "created_after" ≠ "" ∧
      fromisoformat (replaceZ (textArg args "created_after")) = false := by
  rw [alertFilters] at h
  by_cases hblank : textArg args "created_after" = ""
  · rw [if_pos hblank] at h
    cases h
  · rw [if_neg hblank] at h
    split_ifs at h with hiso
    exact ⟨(Except.error.inj h).symm, hblank, Bool.eq_false_iff.mpr hiso⟩

theorem alertFilters_ok (h : alertFilters fromisoformat queue.extra args = .ok clauses) :
    ¬(textArg args "created_after" ≠ "" ∧
      fromisoformat (replaceZ (textArg args "created_after")) = false) := by
  rintro ⟨hblank, hiso⟩
  rw [alertFilters, if_neg hblank, if_neg (Bool.eq_false_iff.mp hiso)] at h
  cases h

end Clauses

/-- **The filters mean what they say exactly when they can be read**: no NUL is sent and a
`created_after` that `fromisoformat` takes is one that the database takes. -/
theorem filtersMean_iff (queue : Queue) (fromisoformat : String → Bool) (pg : Pg) (args : Args) :
    FiltersMean queue fromisoformat pg args ↔ Readable fromisoformat pg args := by
  rw [FiltersMean, alertFiltersSql_eq]
  cases h : alertFilters fromisoformat queue.extra args with
  | error e =>
    obtain ⟨rfl, hrefused⟩ := alertFilters_error h
    exact iff_of_true ⟨_, rfl⟩ (.inl hrefused)
  | ok clauses =>
    have hreadable : Readable fromisoformat pg args ↔ ∀ c ∈ clauses, c.1.Binds pg c.2 :=
      (or_iff_right (alertFilters_ok h)).trans (binds_iff h).symm
    rw [hreadable]
    exact ⟨binds_of_faithful, faithful_of_binds h⟩

/-- `?source=a%00b`: neither a 400 nor a clause that can be run. -/
theorem nulSource_unreadable : ¬FiltersMean .all (fun _ => true) utc [("source", "a\x00b")] := by
  intro hmean
  have hclauses : alertFilters (fun _ => true) Queue.all.extra [("source", "a\x00b")] =
      .ok [(.equals .source, "a\x00b")] := by decide
  rw [FiltersMean, alertFiltersSql_eq, hclauses] at hmean
  have hnul : storable "a\x00b" = true := (binds_of_faithful hmean (.equals .source, "a\x00b") (by simp)).1
  exact absurd hnul (by decide)

end SocDashboard
