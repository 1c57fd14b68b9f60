/-
# What the pages write as HTML

The two functions that fill tables through `innerHTML`: `loadAlerts` of
dashboard.js and `loadAnalystPerf` of analyst.html. A row is a template with
cells; the cells are the texts that the template literals interpolate, after
`escapeHtml` where the source calls it. All of them are inert but two:
`a.category.replace("_", " ")` and `r.analyst` are written as they are.

Key definitions: `escapeHtml`, `AlertCells`, `alertRowPieces`, `alertCells`,
`alertTable`, `perfTable`, `PagesHarmless`.
Key theorems: `inert_escapeHtml`, `pagesHarmless_iff`.
-/
import SocDashboard.Routes
import SocDashboard.Lib.Markup

namespace SocDashboard

open Markup

/-- What the browser adds: its clock in milliseconds, the order of
`localeCompare`, and what the tooltip takes of a run's metadata. -/
structure Browser where
  now : ℤ
  localeLe : String → String → Bool
  metadataTip : String → String

/-! ### Texts -/

def escapeChar : Char → List Char
  | '&' => "&amp;".toList
  | '<' => "&lt;".toList
  | '>' => "&gt;".toList
  | '"' => "&quot;".toList
  | '\'' => "&#39;".toList
  | c => [c]

def escapeHtml (s : String) : String := String.ofList (s.toList.flatMap escapeChar)

/-- `s || other`, of a string that may be null. -/
def orText (s : Option String) (other : String) : String := if s.getD "" = "" then other else s.getD ""

/-- `s.replace("_", " ")`: the first one. -/
def replaceUnderscore (s : String) : String :=
  let before := s.toList.takeWhile (· ≠ '_')
  match s.toList.drop before.length with
  | [] => s
  | _ :: rest => String.ofList (before ++ ' ' :: rest)

/-- `s.slice(0, n)`, in UTF-16 units; half a pair is written as U+FFFD. -/
def sliceUnits : ℕ → List Char → List Char
  | 0, _ => []
  | _, [] => []
  | n + 1, c :: cs =>
    if c.toNat < 0x10000 then c :: sliceUnits n cs
    else
      match n with
      | 0 => ['\ufffd']
      | n + 1 => c :: sliceUnits n cs

/-- `ageString`, of an instant in microseconds. -/
def ageString (b : Browser) (createdAt : Time) : String :=
  let mins := max 0 (b.now - createdAt / 1000) / 60000
  if mins < 60 then toString mins ++ "m"
  else
    let hrs := mins / 60
    if hrs < 24 then toString hrs ++ "h " ++ toString (mins % 60) ++ "m"
    else toString (hrs / 24) ++ "d " ++ toString (hrs % 24) ++ "h"

/-- `SEVERITY_BADGE[severity]`. -/
def severityBadge : Severity → String
  | .critical => "text-bg-danger"
  | .high => "text-bg-warning"
  | .medium => "text-bg-info"
  | .low => "text-bg-success"

/-! ### The alert queue -/

/-- What a row of the queue interpolates; `run` is there when the alert has a workflow run. -/
structure AlertCells where
  id : String
  badge : String
  severity : String
  title : String
  category : String
  source : String
  sourceIp : String
  run : Option (String × String)
  age : String

/-- The tag that `runTag` writes. -/
def runPieces : Option (String × String) → List Piece
  | none => []
  | some (tip, runId) =>
    [.fixed "<br><span class=\"badge text-bg-dark font-monospace\"",
     .fixed " style=\"font-size:.7em\" title=\"", .value tip,
     .fixed "\">run ", .value runId, .fixed "</span>"]

/-- The buttons of a row, or the hint that a viewer is shown. -/
def triagePieces (isViewer : Bool) (id : String) : List Piece :=
  if isViewer then
    [.fixed "<span class=\"text-secondary small\"",
     .fixed " title=\"Viewer accounts are read-only",
     .fixed " — contact an admin to triage\">Read-only</span>"]
  else
    [.fixed "<button class=\"btn btn-sm btn-outline-success\" ", .fixed " onclick=\"classifyAlert(",
     .value id, .fixed ", 'classify_tp')\">TP</button>\n            ",
     .fixed " <button class=\"btn btn-sm btn-outline-secondary\"", .fixed " onclick=\"classifyAlert(",
     .value id, .fixed ", 'classify_fp')\">FP</button>\n            ",
     .fixed " <button class=\"btn btn-sm btn-outline-danger\"  ", .fixed " onclick=\"classifyAlert(",
     .value id, .fixed ", 'escalate')\">Escalate</button>"]

/-- A row of the queue. -/
def alertRowPieces (isViewer : Bool) (c : AlertCells) : List Piece :=
  [.fixed "\n    <tr data-id=\"", .value c.id,
   .fixed "\">\n      <td><span class=\"badge sev-badge ", .value c.badge, .fixed "\">",
   .value c.severity, .fixed "</span></td>\n      <td>", .value c.title,
   .fixed "</td>\n      <td><span class=\"text-capitalize\">", .value c.category,
   .fixed "</span></td>\n      <td>", .value c.source,
   .fixed "</td>\n      <td><code>", .value c.sourceIp, .fixed "</code>"] ++ runPieces c.run ++
  [.fixed "</td>\n      <td>", .value c.age,
   .fixed "</td>\n      <td class=\"text-end\">\n        "] ++ triagePieces isViewer c.id ++
  [.fixed "\n        <button class=\"btn btn-sm btn-outline-info ms-1\"",
   .fixed " onclick=\"showSimilar(", .value c.id, .fixed ")\">Similar</button>\n      </td>\n    </tr>"]

/-- The alert has a workflow run. -/
def hasRun (a : Alert) : Bool := a.workflowRunId.getD "" ≠ ""

/-- What `runTag` interpolates. -/
def runCells (b : Browser) (a : Alert) : Option (String × String) :=
  if hasRun a then
    let runId := a.workflowRunId.getD ""
    let more := if a.runMetadata.getD "" = "" then "" else b.metadataTip (a.runMetadata.getD "")
    some (escapeHtml ("workflow run " ++ runId ++ more),
      escapeHtml (String.ofList (sliceUnits 8 runId.toList)))
  else none

/-- What `loadAlerts` interpolates of an alert. -/
def alertCells (b : Browser) (a : Alert) : AlertCells where
  id := toString a.id
  badge := severityBadge a.severity
  severity := a.severity.name
  title := escapeHtml a.title
  category := replaceUnderscore a.category
  source := escapeHtml (orText a.source "—")
  sourceIp := escapeHtml (orText a.sourceIp "")
  run := runCells b a
  age := ageString b a.createdAt

/-- The table for rows of cells, or for none. -/
def queuePieces (isViewer : Bool) (rows : List AlertCells) : List Piece :=
  if rows.isEmpty then
    [.fixed "<tr><td colspan=\"7\" class=\"text-center text-secondary\">",
     .fixed "No matching open alerts 🎉</td></tr>"]
  else rows.flatMap (alertRowPieces isViewer)

/-- What `loadAlerts` assigns to `innerHTML`. -/
def alertTable (b : Browser) (isViewer : Bool) (alerts : List Alert) : List Piece :=
  queuePieces isViewer (alerts.map (alertCells b))

/-- Cells without texts. -/
def AlertCells.blank (run : Bool) : AlertCells :=
  ⟨"", "", "", "", "", "", "", if run then some ("", "") else none, ""⟩

/-- The table of the shape: a row for each alert, with a run tag or without. -/
def alertTemplate (isViewer : Bool) (runs : List Bool) : List Piece :=
  queuePieces isViewer (runs.map AlertCells.blank)

/-! ### Analyst performance -/

/-- In decimal, with zeros in front up to the width. -/
def paddedDigits (width n : ℕ) : List Char :=
  List.replicate (width - (Nat.toDigits 10 n).length) '0' ++ Nat.toDigits 10 n

/-- The day number as `YYYY-MM-DD`. -/
def isoDate (date : ℤ) : String :=
  let z := date + 719468
  let era := z / 146097
  let doe := z % 146097
  let yoe := (doe - doe / 1460 + doe / 36524 - doe / 146096) / 365
  let doy := doe - (365 * yoe + yoe / 4 - yoe / 100)
  let mp := (5 * doy + 2) / 153
  let m := if mp < 10 then mp + 3 else mp - 9
  let y := yoe + era * 400 + if m ≤ 2 then 1 else 0
  let d := doy - (153 * mp + 2) / 5 + 1
  String.ofList (paddedDigits 4 y.toNat ++ '-' :: paddedDigits 2 m.toNat ++
    '-' :: paddedDigits 2 d.toNat)

/-- `rowClass`. -/
def rowClass (seconds : ℤ) : String :=
  if seconds < 300 then "table-success" else if seconds ≤ 900 then "table-warning" else "table-danger"

/-- `fmtTime`. -/
def fmtTime (seconds : ℤ) : String :=
  toString (seconds / 60) ++ "m " ++ toString (seconds.tmod 60) ++ "s"

/-- What a row of the performance table interpolates. -/
structure PerfCells where
  rowClass : String
  analyst : String
  date : String
  count : String
  avg : String

def perfRowPieces (c : PerfCells) : List Piece :=
  [.fixed "\n        <tr class=\"", .value c.rowClass,
   .fixed "\">\n          <td class=\"text-capitalize\">", .value c.analyst,
   .fixed "</td>\n          <td>", .value c.date, .fixed "</td>\n          <td>",
   .value c.count, .fixed "</td>\n          <td>", .value c.avg, .fixed "</td>\n        </tr>"]

def perfCells (r : MttrRow) : PerfCells where
  rowClass := rowClass r.avgSeconds
  analyst := r.analyst
  date := isoDate r.date
  count := toString r.count
  avg := fmtTime r.avgSeconds

def perfPieces (rows : List PerfCells) : List Piece :=
  if rows.isEmpty then
    [.fixed "<tr><td colspan=\"4\" class=\"text-center text-secondary\">",
     .fixed "No actions recorded yet.</td></tr>"]
  else rows.flatMap perfRowPieces

/-- By date, then analyst. -/
def perfLe (b : Browser) (x y : MttrRow) : Bool :=
  b.localeLe (isoDate x.date ++ x.analyst) (isoDate y.date ++ y.analyst)

/-- What `loadAnalystPerf` assigns to `innerHTML`. -/
def perfTable (b : Browser) (rows : List MttrRow) : List Piece :=
  perfPieces ((rows.mergeSort (perfLe b)).map perfCells)

def perfTemplate (n : ℕ) : List Piece := perfPieces (List.replicate n ⟨"", "", "", "", ""⟩)

/-- **Neither table takes markup from the data.** Its values are inert, and its
markup is the template's, which is told the shape only. -/
structure PagesHarmless (b : Browser) (isViewer : Bool) (alerts : List Alert) (rows : List MttrRow) :
    Prop where
  queue : Harmless (alertTable b isViewer alerts) (alertTemplate isViewer (alerts.map hasRun))
  performance : Harmless (perfTable b rows) (perfTemplate rows.length)

/-- Two data sets of one shape have one markup. -/
theorem PagesHarmless.markup_eq {b b' : Browser} {isViewer : Bool} {alerts alerts' : List Alert}
    {rows rows' : List MttrRow} (h : PagesHarmless b isViewer alerts rows)
    (h' : PagesHarmless b' isViewer alerts' rows') (hruns : alerts.map hasRun = alerts'.map hasRun)
    (hrows : rows.length = rows'.length) :
    markup .text (html (alertTable b isViewer alerts)) =
        markup .text (html (alertTable b' isViewer alerts')) ∧
      markup .text (html (perfTable b rows)) = markup .text (html (perfTable b' rows')) := by
  constructor
  · rw [h.queue.markup, h'.queue.markup, hruns]
  · rw [h.performance.markup, h'.performance.markup, hrows]

/-! ### The texts -/

/-- An escaped character is inert in front of inert text. -/
theorem inert_escapeChar (c : Char) {rest : List Char} (h : inert rest = true) :
    inert (escapeChar c ++ rest) = true := by
  fun_cases escapeChar c with
  | case6 c hamp hlt hgt hquot hapos =>
    have hrest : c ∉ ['<', '>', '"', '\''] := by
      simp only [List.mem_cons, List.not_mem_nil, or_false, not_or]
      exact ⟨hlt, hgt, hquot, hapos⟩
    rw [List.singleton_append, inert, if_neg hamp, h]
    simpa using hrest
  | _ => simp [inert, references, h]

/-- **Whatever `escapeHtml` returns is inert.** -/
theorem inert_escapeHtml (s : String) : inert (escapeHtml s).toList = true := by
  rw [escapeHtml, String.toList_ofList]
  induction s.toList with
  | nil => rfl
  | cons c cs ih => exact inert_escapeChar c ih

/-- None of the special characters is among these. -/
def Plain (cs : List Char) : Prop := ∀ c ∈ cs, c ∉ specials

theorem Plain.append {cs ds : List Char} (hc : Plain cs) (hd : Plain ds) : Plain (cs ++ ds) := by
  intro c h
  rcases List.mem_append.mp h with h | h
  · exact hc c h
  · exact hd c h

theorem plain_of_all {cs : List Char} (h : (cs.all fun c => c ∉ specials) = true) : Plain cs := by
  intro c hc
  simpa using List.all_eq_true.mp h c hc

theorem plain_toDigits (n : ℕ) : Plain (Nat.toDigits 10 n) := by
  intro c hc hs
  have hdigit : c.isDigit = true := Nat.isDigit_of_mem_toDigits (by decide) (by decide) hc
  simp only [specials, List.mem_cons, List.not_mem_nil, or_false] at hs
  rcases hs with rfl | rfl | rfl | rfl | rfl <;> exact absurd hdigit (by decide)

theorem plain_nat (n : ℕ) : Plain (toString n).toList := by
  rw [Nat.toString_eq_repr, Nat.toList_repr]
  exact plain_toDigits n

theorem plain_int (n : ℤ) : Plain (toString n).toList := by
  rw [Int.toString_eq_repr, Int.repr_eq_if]
  split_ifs
  · exact plain_nat n.toNat
  · rw [String.toList_append]
    exact (plain_of_all rfl).append (plain_nat (-n).toNat)

theorem plain_paddedDigits (width n : ℕ) : Plain (paddedDigits width n) := by
  refine Plain.append ?_ (plain_toDigits n)
  intro c hc
  rw [List.eq_of_mem_replicate hc]
  decide

theorem plain_isoDate (date : ℤ) : Plain (isoDate date).toList := by
  have hminus : Plain ['-'] := plain_of_all rfl
  have hdash : ∀ {cs : List Char}, Plain cs → Plain ('-' :: cs) := fun h => hminus.append h
  rw [isoDate, String.toList_ofList, List.append_assoc]
  exact (plain_paddedDigits 4 _).append
    ((hdash (plain_paddedDigits 2 _)).append (hdash (plain_paddedDigits 2 _)))

theorem plain_ageString (b : Browser) (createdAt : Time) : Plain (ageString b createdAt).toList := by
  have hm : Plain "m".toList := plain_of_all rfl
  have hh : Plain "h".toList := plain_of_all rfl
  have hd : Plain "d ".toList := plain_of_all rfl
  have hh' : Plain "h ".toList := plain_of_all rfl
  unfold ageString
  simp only [apply_ite String.toList, String.toList_append]
  split_ifs
  · exact (plain_int _).append hm
  · exact (((plain_int _).append hh').append (plain_int _)).append hm
  · exact (((plain_int _).append hd).append (plain_int _)).append hh

theorem plain_fmtTime (seconds : ℤ) : Plain (fmtTime seconds).toList := by
  rw [fmtTime]
  simp only [String.toList_append]
  exact (((plain_int _).append (plain_of_all rfl)).append (plain_int _)).append (plain_of_all rfl)

theorem plain_rowClass (seconds : ℤ) : Plain (rowClass seconds).toList := by
  unfold rowClass
  split_ifs
  · exact plain_of_all rfl
  · exact plain_of_all rfl
  · exact plain_of_all rfl

/-! ### The rows -/

theorem place_runPieces (run : Option (String × String)) :
    place .text (runPieces run) = some .text := by
  cases run with
  | none => rfl
  | some cell =>
    exact place_fixed .tag rfl <| place_fixed .dquoted rfl <| place_value nofun <|
      place_fixed .text rfl <| place_value nofun <| place_fixed .text rfl rfl

theorem place_triagePieces (isViewer : Bool) (id : String) :
    place .text (triagePieces isViewer id) = some .text := by
  cases isViewer with
  | false =>
    exact place_fixed .tag rfl <| place_fixed .dquoted rfl <| place_value nofun <|
      place_fixed .text rfl <| place_fixed .tag rfl <| place_fixed .dquoted rfl <| place_value nofun <|
      place_fixed .text rfl <| place_fixed .tag rfl <| place_fixed .dquoted rfl <| place_value nofun <|
      place_fixed .text rfl rfl
  | true => exact place_fixed .tag rfl <| place_fixed .dquoted rfl <| place_fixed .text rfl rfl

/-- A row of the queue starts and ends in text, with its values in text or in quotes. -/
theorem place_alertRow (isViewer : Bool) (c : AlertCells) :
    place .text (alertRowPieces isViewer c) = some .text := by
  refine place_join (place_join (place_join (place_join ?_ (place_runPieces c.run)) ?_)
    (place_triagePieces isViewer c.id)) ?_
  · exact place_fixed .dquoted rfl <| place_value nofun <| place_fixed .dquoted rfl <|
      place_value nofun <| place_fixed .text rfl <| place_value nofun <| place_fixed .text rfl <|
      place_value nofun <| place_fixed .text rfl <| place_value nofun <| place_fixed .text rfl <|
      place_value nofun <| place_fixed .text rfl <| place_value nofun <| place_fixed .text rfl rfl
  · exact place_fixed .text rfl <| place_value nofun <| place_fixed .text rfl rfl
  · exact place_fixed .tag rfl <| place_fixed .dquoted rfl <| place_value nofun <|
      place_fixed .text rfl rfl

theorem erase_alertRow (isViewer : Bool) (c : AlertCells) :
    erase (alertRowPieces isViewer c) = alertRowPieces isViewer (AlertCells.blank c.run.isSome) := by
  rcases c with ⟨id, badge, severity, title, category, source, sourceIp, _ | run, age⟩ <;>
    cases isViewer <;> rfl

/-- The values of a row are its cells. -/
theorem mem_values_alertRow {isViewer : Bool} {c : AlertCells} {t : String}
    (h : t ∈ values (alertRowPieces isViewer c)) :
    t ∈ [c.id, c.badge, c.severity, c.title, c.category, c.source, c.sourceIp] ++ [c.age] ∨
      t ∈ values (runPieces c.run) := by
  have htriage : t ∈ values (triagePieces isViewer c.id) → t = c.id := by
    intro ht
    cases isViewer with
    | false => simpa [triagePieces, values] using ht
    | true => simp [triagePieces, values] at ht
  simp only [alertRowPieces, values_append, List.mem_append] at h
  rcases h with (((h | h) | h) | h) | h
  · exact .inl (List.mem_append_left [c.age] h)
  · exact .inr h
  · exact .inl (List.mem_append_right _ h)
  · rw [htriage h]
    exact .inl List.mem_cons_self
  · rw [List.mem_singleton.mp h]
    exact .inl List.mem_cons_self

/-- Of a row of the queue, only the category is written as it is. -/
theorem inert_alertRow (b : Browser) (isViewer : Bool) (a : Alert) :
    (∀ t ∈ values (alertRowPieces isViewer (alertCells b a)), inert t.toList = true) ↔
      inert (replaceUnderscore a.category).toList = true := by
  constructor
  · intro h
    refine h _ ?_
    simp only [alertRowPieces, values_append, List.mem_append]
    have hcell : replaceUnderscore a.category ∈
        [toString a.id, severityBadge a.severity, a.severity.name, escapeHtml a.title,
          replaceUnderscore a.category, escapeHtml (orText a.source "—"),
          escapeHtml (orText a.sourceIp "")] := by simp
    exact .inl (.inl (.inl (.inl hcell)))
  · intro hcategory t ht
    rcases mem_values_alertRow ht with ht | ht
    · simp only [alertCells, List.cons_append, List.nil_append, List.mem_cons, List.not_mem_nil,
        or_false] at ht
      rcases ht with rfl | rfl | rfl | rfl | rfl | rfl | rfl | rfl
      · exact inert_of_plain (plain_nat a.id)
      · cases a.severity <;> decide
      · cases a.severity <;> decide
      · exact inert_escapeHtml a.title
      · exact hcategory
      · exact inert_escapeHtml _
      · exact inert_escapeHtml _
      · exact inert_of_plain (plain_ageString b a.createdAt)
    · simp only [alertCells, runCells] at ht
      by_cases hrun : hasRun a = true
      · rw [if_pos hrun] at ht
        rcases List.mem_cons.mp ht with rfl | ht
        · exact inert_escapeHtml _
        · rw [List.mem_singleton.mp ht]
          exact inert_escapeHtml _
      · rw [if_neg hrun] at ht
        exact absurd ht List.not_mem_nil

/-- Of a row of the performance table, only the analyst's name is. -/
theorem inert_perfRow (r : MttrRow) :
    (∀ t ∈ values (perfRowPieces (perfCells r)), inert t.toList = true) ↔
      inert r.analyst.toList = true := by
  constructor
  · intro h
    exact h r.analyst (List.mem_cons_of_mem _ List.mem_cons_self)
  · intro hanalyst t ht
    have ht : t ∈ [rowClass r.avgSeconds, r.analyst, isoDate r.date, toString r.count,
      fmtTime r.avgSeconds] := ht
    simp only [List.mem_cons, List.not_mem_nil, or_false] at ht
    rcases ht with rfl | rfl | rfl | rfl | rfl
    · exact inert_of_plain (plain_rowClass r.avgSeconds)
    · exact hanalyst
    · exact inert_of_plain (plain_isoDate r.date)
    · exact inert_of_plain (plain_nat r.count)
    · exact inert_of_plain (plain_fmtTime r.avgSeconds)

/-! ### The tables -/

theorem place_queue (isViewer : Bool) (rows : List AlertCells) :
    place .text (queuePieces isViewer rows) = some .text := by
  unfold queuePieces
  split_ifs
  · exact place_fixed .text rfl <| place_fixed .text rfl rfl
  · exact place_flatMap (place_alertRow isViewer) rows

theorem place_perf (rows : List PerfCells) : place .text (perfPieces rows) = some .text := by
  have hrow : ∀ c : PerfCells, place .text (perfRowPieces c) = some .text := by
    intro c
    exact place_fixed .dquoted rfl <| place_value nofun <| place_fixed .text rfl <| place_value nofun <|
      place_fixed .text rfl <| place_value nofun <| place_fixed .text rfl <| place_value nofun <|
      place_fixed .text rfl <| place_value nofun <| place_fixed .text rfl rfl
  unfold perfPieces
  split_ifs
  · exact place_fixed .text rfl <| place_fixed .text rfl rfl
  · exact place_flatMap hrow rows

theorem erase_queue (isViewer : Bool) (rows : List AlertCells) :
    erase (queuePieces isViewer rows) =
      queuePieces isViewer (rows.map fun c => AlertCells.blank c.run.isSome) := by
  unfold queuePieces
  rw [List.isEmpty_map]
  split_ifs
  · rfl
  · rw [erase, List.map_flatMap, List.flatMap_map]
    exact List.flatMap_congr fun c _ => erase_alertRow isViewer c

theorem erase_perf (rows : List PerfCells) :
    erase (perfPieces rows) = perfPieces (List.replicate rows.length ⟨"", "", "", "", ""⟩) := by
  rw [← List.map_const']
  unfold perfPieces
  rw [List.isEmpty_map]
  split_ifs
  · rfl
  · rw [erase, List.map_flatMap, List.flatMap_map]
    rfl

theorem isSome_run (b : Browser) (a : Alert) : (alertCells b a).run.isSome = hasRun a := by
  show (runCells b a).isSome = hasRun a
  unfold runCells
  cases hasRun a with
  | false => rfl
  | true => rfl

theorem harmless_queue (b : Browser) (isViewer : Bool) (alerts : List Alert) :
    Harmless (alertTable b isViewer alerts) (alertTemplate isViewer (alerts.map hasRun)) ↔
      ∀ a ∈ alerts, inert (replaceUnderscore a.category).toList = true := by
  have hplace : place .text (alertTable b isViewer alerts) = some .text := place_queue isViewer _
  have htemplate :
      erase (alertTable b isViewer alerts) = alertTemplate isViewer (alerts.map hasRun) := by
    rw [alertTable, erase_queue, alertTemplate, List.map_map, List.map_map]
    congr 1
    exact List.map_congr_left fun a _ => congrArg AlertCells.blank (isSome_run b a)
  rw [harmless_iff hplace htemplate]
  cases alerts with
  | nil => simp [alertTable, queuePieces, values]
  | cons a alerts =>
    show (∀ t ∈ values (((a :: alerts).map (alertCells b)).flatMap (alertRowPieces isViewer)), _) ↔
      _
    rw [List.flatMap_map, forall_values_flatMap]
    simp only [inert_alertRow]

theorem harmless_perf (b : Browser) (rows : List MttrRow) :
    Harmless (perfTable b rows) (perfTemplate rows.length) ↔
      ∀ r ∈ rows, inert r.analyst.toList = true := by
  have hplace : place .text (perfTable b rows) = some .text := place_perf _
  have htemplate : erase (perfTable b rows) = perfTemplate rows.length := by
    rw [perfTable, erase_perf, perfTemplate, List.length_map, List.length_mergeSort]
  rw [harmless_iff hplace htemplate, perfTable]
  have hmem : ∀ r, r ∈ rows.mergeSort (perfLe b) ↔ r ∈ rows := fun r =>
    (List.mergeSort_perm rows (perfLe b)).mem_iff
  simp only [← hmem]
  cases rows.mergeSort (perfLe b) with
  | nil => simp [perfPieces, values]
  | cons r sorted =>
    show (∀ t ∈ values (((r :: sorted).map perfCells).flatMap perfRowPieces), _) ↔ _
    rw [List.flatMap_map, forall_values_flatMap]
    simp only [inert_perfRow]

/-- **The pages are harmless exactly when the two raw columns are inert.** -/
theorem pagesHarmless_iff (b : Browser) (isViewer : Bool) (alerts : List Alert) (rows : List MttrRow) :
    PagesHarmless b isViewer alerts rows ↔
      (∀ a ∈ alerts, inert (replaceUnderscore a.category).toList = true) ∧
        ∀ r ∈ rows, inert r.analyst.toList = true := by
  rw [← harmless_queue b isViewer alerts, ← harmless_perf b rows]
  constructor
  · intro h
    exact ⟨h.queue, h.performance⟩
  · intro h
    exact ⟨h.1, h.2⟩

section Example

def plainBrowser : Browser := ⟨0, fun _ _ => true, id⟩

/-- A detector's alert whose category is an element. -/
def imageIngest : Request :=
  ⟨.post, .alerts, none, some "test-key", none,
    some (.obj [("title", .str "Port scan"), ("category", .str "<img src=x onerror=alert(1)>"),
      ("severity", .str "HIGH")]), [], []⟩

/-- The detector's alert is stored and answered, and the queue with it is not harmless. -/
theorem imageCategory_not_harmless :
    ∃ row : Alert,
      (respond (serve exampleEnv pages calm imageIngest) emptyWorld).1 = ⟨201, .alert row, none⟩ ∧
      (respond (serve exampleEnv pages calm imageIngest) emptyWorld).2.db.alerts = [row] ∧
      ¬PagesHarmless plainBrowser false [row] [] := by
  refine ⟨_, rfl, rfl, ?_⟩
  rw [pagesHarmless_iff]
  intro h
  exact absurd (h.1 _ List.mem_cons_self) (by decide)

end Example

end SocDashboard
