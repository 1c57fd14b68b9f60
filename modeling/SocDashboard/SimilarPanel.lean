/-
# What the panel of similar alerts shows

`showSimilar` fetches the alerts most similar to one and writes a table into
the page. Unlike the queue it escapes every text it writes, the category too:
no alert changes its markup, and every cell shows the text it is for
(`panel_faithful`). What it shows in a reached state are the nearest indexed
alerts, as they are stored and decrypted (`panel_systemRun`). It says that
there are none also when the server answered with an error.

Key definitions: `similarCells`, `PanelBody.pieces`, `showSimilar`, `shown`.
Key theorems: `panel_faithful`, `panel_systemRun`.
-/
import SocDashboard.AuditLinks
import SocDashboard.MttrChart
import SocDashboard.Pages
import SocDashboard.Similar

namespace SocDashboard

open Links (resolve Escapes resolve_escaped)
open Markup Query

/-! ### The panel -/

/-- What a row interpolates. -/
structure SimilarCells where
  badge : String
  severity : String
  title : String
  category : String
  status : String
  similarity : String

/-- `(similarity * 100).toFixed(1)`, of the number that `float` makes of the column. -/
def percentText (similarity : ℚ) : String :=
  let percent := Double.double (Double.double similarity * 100)
  let tenths := mathRound (|percent| * 10)
  (if percent < 0 then "-" else "") ++ toString (tenths / 10) ++ "." ++ toString (tenths % 10)

def similarCells (r : SimilarAlert) : SimilarCells where
  badge := severityBadge r.severity
  severity := escapeHtml r.severity.name
  title := escapeHtml r.title
  category := escapeHtml (replaceUnderscore r.category)
  status := escapeHtml r.status.name
  similarity := percentText r.similarity

def similarRowPieces (c : SimilarCells) : List Piece :=
  [.fixed "\n        <tr>\n          <td><span class=\"badge ", .value c.badge, .fixed "\">", .value c.severity,
   .fixed "</span></td>\n          <td>", .value c.title, .fixed "</td>\n          <td>", .value c.category,
   .fixed "</td>\n          <td>", .value c.status,
   .fixed "</td>\n          <td class=\"text-end\"><code>", .value c.similarity,
   .fixed "%</code></td>\n        </tr>"]

/-- What the body of the panel is. -/
inductive PanelBody
  | noneFound
  | failed
  | table (rows : List SimilarAlert)
  deriving DecidableEq, Repr

/-- What is assigned to `innerHTML` for rows of cells. -/
def tablePieces (rows : List SimilarCells) : List Piece :=
  [.fixed "<table class=\"table table-sm table-dark mb-0\">\n      <thead><tr>\n        <th>Severity</th>",
   .fixed "<th>Title</th><th>Category</th>\n        <th>Status</th>",
   .fixed "<th class=\"text-end\">Similarity</th>\n      </tr></thead>\n      <tbody>"] ++
  rows.flatMap similarRowPieces ++ [.fixed "\n      </tbody>\n    </table>"]

def PanelBody.pieces : PanelBody → List Piece
  | .noneFound =>
    [.fixed "<p class=\"text-secondary mb-0\">No similar alerts found — embeddings are generated on ingest ",
     .fixed "and may not yet be available for this alert.</p>"]
  | .failed => [.fixed "<p class=\"text-danger mb-0\">Failed to load similar alerts.</p>"]
  | .table rows => tablePieces (rows.map similarCells)

/-- The same with as many empty rows. -/
def PanelBody.template : PanelBody → List Piece
  | .table rows => tablePieces (rows.map fun _ => ⟨"", "", "", "", "", ""⟩)
  | body => body.pieces

/-- `showSimilar` from its `await` on. An answer with an error is an object, and has no length;
a page instead of JSON, or no answer, ends in the `catch`. -/
def showSimilar : Option Response → PanelBody
  | some ⟨_, .similar rows, _⟩ => if rows.isEmpty then .noneFound else .table rows
  | some ⟨_, .error _, _⟩ => .noneFound
  | _ => .failed

/-- What is read in the cells, and in the classes of the badges. -/
def shown (body : PanelBody) : List (List Char) := (values body.pieces).map fun v => resolve v.toList

/-- What a row is to show. -/
def rowTexts (r : SimilarAlert) : List String :=
  [severityBadge r.severity, r.severity.name, r.title, replaceUnderscore r.category, r.status.name,
   percentText r.similarity]

/-! ### No alert changes its markup -/

theorem escapes_html : Escapes escapeChar := by
  intro c
  unfold escapeChar
  split
  · exact .inr ⟨('&', ["&amp;".toList]), by decide, rfl, by decide⟩
  · exact .inr ⟨('<', ["&lt;".toList]), by decide, rfl, by decide⟩
  · exact .inr ⟨('>', ["&gt;".toList]), by decide, rfl, by decide⟩
  · exact .inr ⟨('"', ["&quot;".toList, "&#34;".toList]), by decide, rfl, by decide⟩
  · exact .inr ⟨('\'', ["&#39;".toList]), by decide, rfl, by decide⟩
  · rename_i hamp _ _ _ _
    exact .inl ⟨hamp, rfl⟩

/-- An escaped text is shown as it is. -/
theorem resolve_escapeHtml (s : String) : resolve (escapeHtml s).toList = s.toList := by
  have hescaped := resolve_escaped escapes_html s.toList []
  rwa [List.append_nil, Links.resolve_nil, List.append_nil, ← String.toList_ofList (l := s.toList.flatMap escapeChar)]
    at hescaped

/-- So is a text without special characters. -/
theorem resolve_of_plain {cs : List Char} (h : Plain cs) : resolve cs = cs := by
  have hamp : ∀ c ∈ cs, c ≠ '&' := by
    intro c hc he
    exact h c hc (he ▸ by decide)
  have hresolve := Links.resolve_plain hamp []
  rwa [List.append_nil, Links.resolve_nil, List.append_nil] at hresolve

theorem plain_percentText (similarity : ℚ) : Plain (percentText similarity).toList := by
  have hsign : Plain (if Double.double (Double.double similarity * 100) < 0 then "-" else "").toList := by
    split_ifs
    · exact plain_of_all (by decide)
    · exact plain_of_all (by decide)
  have hdot : Plain ".".toList := plain_of_all (by decide)
  unfold percentText
  simp only [String.toList_append]
  exact ((hsign.append (plain_int _)).append hdot).append (plain_int _)

theorem plain_badge (s : Severity) : Plain (severityBadge s).toList := by
  cases s <;> exact plain_of_all (by decide)

theorem inert_similarRow (r : SimilarAlert) :
    ∀ v ∈ values (similarRowPieces (similarCells r)), inert v.toList = true := by
  intro v hv
  have hcells : v ∈ [severityBadge r.severity, escapeHtml r.severity.name, escapeHtml r.title,
      escapeHtml (replaceUnderscore r.category), escapeHtml r.status.name, percentText r.similarity] := hv
  simp only [List.mem_cons, List.not_mem_nil, or_false] at hcells
  rcases hcells with rfl | rfl | rfl | rfl | rfl | rfl
  · exact inert_of_plain (plain_badge r.severity)
  · exact inert_escapeHtml r.severity.name
  · exact inert_escapeHtml r.title
  · exact inert_escapeHtml (replaceUnderscore r.category)
  · exact inert_escapeHtml r.status.name
  · exact inert_of_plain (plain_percentText r.similarity)

theorem place_similarRow (c : SimilarCells) : place .text (similarRowPieces c) = some .text :=
  place_fixed .dquoted rfl <| place_value nofun <| place_fixed .text rfl <| place_value nofun <|
    place_fixed .text rfl <| place_value nofun <| place_fixed .text rfl <| place_value nofun <|
    place_fixed .text rfl <| place_value nofun <| place_fixed .text rfl <| place_value nofun <|
    place_fixed .text rfl rfl

theorem place_table (rows : List SimilarCells) : place .text (tablePieces rows) = some .text := by
  refine place_join (place_join ?_ (place_flatMap place_similarRow rows)) ?_
  · exact place_fixed .text rfl <| place_fixed .text rfl <| place_fixed .text rfl rfl
  · exact place_fixed .text rfl rfl

theorem values_table (rows : List SimilarCells) :
    values (tablePieces rows) = rows.flatMap fun c => values (similarRowPieces c) := by
  rw [tablePieces, values_append, values_append]
  show [] ++ values (rows.flatMap similarRowPieces) ++ [] = _
  rw [List.append_nil, List.nil_append, values, List.filterMap_flatMap]
  rfl

theorem erase_table (rows : List SimilarCells) :
    erase (tablePieces rows) = tablePieces (rows.map fun _ => ⟨"", "", "", "", "", ""⟩) := by
  rw [tablePieces, tablePieces, erase, List.map_append, List.map_append, List.map_flatMap, List.flatMap_map]
  rfl

/-- **The panel shows what it is for**: its markup is the template's, whatever the rows hold, and every cell
is read as the text of its row. -/
theorem panel_faithful (rows : List SimilarAlert) :
    Markup.Harmless (PanelBody.table rows).pieces (PanelBody.table rows).template ∧
      shown (.table rows) = rows.flatMap fun r => (rowTexts r).map String.toList := by
  have hvalues : values (PanelBody.table rows).pieces =
      rows.flatMap fun r => values (similarRowPieces (similarCells r)) := by
    rw [PanelBody.pieces, values_table, List.flatMap_map]
  constructor
  · have htemplate : erase (PanelBody.table rows).pieces = (PanelBody.table rows).template := by
      rw [PanelBody.pieces, erase_table, PanelBody.template, List.map_map]
      rfl
    have hplace : place .text (PanelBody.table rows).pieces = some .text := place_table _
    rw [harmless_iff hplace htemplate, hvalues]
    intro v hv
    obtain ⟨r, -, hr⟩ := List.mem_flatMap.mp hv
    exact inert_similarRow r v hr
  · rw [shown, hvalues, List.map_flatMap]
    refine List.flatMap_congr fun r _ => ?_
    show [resolve (severityBadge r.severity).toList, resolve (escapeHtml r.severity.name).toList,
      resolve (escapeHtml r.title).toList, resolve (escapeHtml (replaceUnderscore r.category)).toList,
      resolve (escapeHtml r.status.name).toList, resolve (percentText r.similarity).toList] = _
    rw [resolve_of_plain (plain_badge r.severity), resolve_escapeHtml, resolve_escapeHtml, resolve_escapeHtml,
      resolve_escapeHtml, resolve_of_plain (plain_percentText r.similarity)]
    rfl

/-- The messages are fixed texts. -/
theorem harmless_panel (body : PanelBody) : Markup.Harmless body.pieces body.template := by
  cases body with
  | noneFound => exact ⟨fun v hv => absurd hv List.not_mem_nil, rfl⟩
  | failed => exact ⟨fun v hv => absurd hv List.not_mem_nil, rfl⟩
  | table rows => exact (panel_faithful rows).1

/-! ### What it shows in a reached state -/

theorem showSimilar_table {r : Response} {rows : List SimilarAlert} (h : showSimilar (some r) = .table rows) :
    r.payload = .similar rows ∧ rows ≠ [] := by
  obtain ⟨status, payload, loginAs⟩ := r
  cases payload with
  | similar answers =>
    rw [showSimilar] at h
    split_ifs at h with hempty
    obtain rfl := PanelBody.table.inj h
    exact ⟨rfl, fun he => hempty (he ▸ rfl)⟩
  | _ => cases h

theorem showSimilar_noneFound {r : Response} (h : showSimilar (some r) = .noneFound) :
    (∃ message, r.payload = .error message) ∨ r.payload = .similar [] := by
  obtain ⟨status, payload, loginAs⟩ := r
  cases payload with
  | error message => exact .inl ⟨message, rfl⟩
  | similar answers =>
    rw [showSimilar] at h
    split_ifs at h with hempty
    exact .inr (congrArg Payload.similar (List.isEmpty_iff.mp hempty))
  | _ => cases h

/-- **What the panel says in a reached state.** A table has a row for each of the nearest neighbours of the
alert, nearest first, with their texts as stored and decrypted; that there are none is said of an error too,
and else when the alert is not indexed or no other alert is. -/
theorem panel_systemRun (site : Site) (env : Env) (svc : Service) (w : World) (ops : List SystemOp)
    {a : Ambient} {ra : ReadAmbient} {req : Request} {alertId : ℕ} (he : req.endpoint = .similar alertId)
    {r : Response}
    (hr : systemAnswer site env (Runs.run (systemStep site env svc) (w.setDb (applySchema none)) ops)
      (.flask ⟨.http req, a, ra⟩) = some r) :
    let db := (Runs.run (systemStep site env svc) (w.setDb (applySchema none)) ops).db
    let body := showSimilar (some r)
    Markup.Harmless body.pieces body.template ∧
      (∀ rows, body = .table rows → ∃ ref near, db.alert? alertId = some ref ∧ near ≠ [] ∧
        FirstRows 5 (textDistance env site.pg ref) (neighbours env db alertId) near ∧
          shown body = near.flatMap fun row => (rowTexts (similarAlert env site.pg
            (row, textDistance env site.pg ref row))).map String.toList) ∧
      (body = .noneFound → (∃ message, r.payload = .error message) ∨
        (∀ m ∈ db.alertEmbeddings, m.alertId ≠ alertId) ∨ neighbours env db alertId = []) := by
  intro db body
  have hrows := similarRows_reached site env svc w ops ra.plan alertId
  refine ⟨harmless_panel body, fun rows hbody => ?_, fun hbody => ?_⟩
  · obtain ⟨hpayload, hne⟩ := showSimilar_table hbody
    have hlist := systemAnswer_similar site env he hr hpayload
    rcases hrows with ⟨-, hnone⟩ | ⟨ref, near, href, -, hfirst, hsome⟩
    · exact absurd (hlist.trans (congrArg (List.map (similarAlert env site.pg)) hnone)) hne
    · have hnear : rows = near.map fun row => similarAlert env site.pg (row, textDistance env site.pg ref row) :=
        (hlist.trans (congrArg (List.map (similarAlert env site.pg)) hsome)).trans List.map_map
      refine ⟨ref, near, href, fun he => hne (by rw [hnear, he, List.map_nil]), hfirst, ?_⟩
      rw [hbody, (panel_faithful rows).2, hnear, List.flatMap_map]
  · rcases showSimilar_noneFound hbody with herror | hpayload
    · exact .inl herror
    have hlist := systemAnswer_similar site env he hr hpayload
    rcases hrows with ⟨hnone, -⟩ | ⟨ref, near, -, -, hfirst, hsome⟩
    · exact .inr (.inl hnone)
    · have hempty : near = [] := by
        have hmapped := hlist.trans (congrArg (List.map (similarAlert env site.pg)) hsome)
        exact List.map_eq_nil_iff.mp (List.map_eq_nil_iff.mp hmapped.symm)
      have hlength : near.length = min 5 (neighbours env db alertId).length := hfirst.length
      rw [hempty, List.length_nil] at hlength
      exact .inr (.inr (List.eq_nil_of_length_eq_zero (by omega)))

/-- The panel of the first of seven alerts: a table of the five nearest, with their texts as they are. -/
theorem panel_lookalike :
    let w := Runs.run (systemStep probeSite probeEnv exampleService) (emptyWorld.setDb (applySchema none))
      (lookalikeMoments.map .flask)
    ∃ r ref near,
      systemAnswer probeSite probeEnv w (.flask ⟨.http similarToFirst, calm, portScanMoment.ra⟩) = some r ∧
      Markup.Harmless (showSimilar (some r)).pieces (showSimilar (some r)).template ∧
      w.db.alert? 1 = some ref ∧ near ≠ [] ∧
      FirstRows 5 (textDistance probeEnv probeSite.pg ref) (neighbours probeEnv w.db 1) near ∧
      (shown (showSimilar (some r)) = near.flatMap fun row => (rowTexts (similarAlert probeEnv probeSite.pg
        (row, textDistance probeEnv probeSite.pg ref row))).map String.toList) ∧
      (shown (showSimilar (some r))).take 6 =
        ["text-bg-success", "LOW", "SYN <scan>", "Network", "open", "96.0"].map String.toList ∧
      (showSimilar (some r) = .noneFound → (∃ message, r.payload = .error message) ∨
        (∀ m ∈ w.db.alertEmbeddings, m.alertId ≠ 1) ∨ neighbours probeEnv w.db 1 = []) := by
  intro w
  let rows := ((probeRows w.db).take 5).map (similarAlert probeEnv probeSite.pg)
  have hr : systemAnswer probeSite probeEnv w (.flask ⟨.http similarToFirst, calm, portScanMoment.ra⟩) =
      some ⟨200, .similar rows, none⟩ := by
    have hrows : (similarRows probeSite.pg portScanMoment.ra.plan 1 w.db).map (similarAlert probeEnv probeSite.pg) =
        rows := congrArg (List.map (similarAlert probeEnv probeSite.pg)) similarRows_lookalike
    rw [← hrows]
    rfl
  obtain ⟨hharmless, htable, hnone⟩ := panel_systemRun probeSite probeEnv exampleService emptyWorld
    (lookalikeMoments.map .flask) (rfl : similarToFirst.endpoint = .similar 1) hr
  obtain ⟨ref, near, href, hne, hfirst, hshown⟩ := htable rows (by decide +kernel)
  exact ⟨_, ref, near, hr, hharmless, href, hne, hfirst, hshown, by decide +kernel, hnone⟩

end SocDashboard
