/-
# Does the MTTR chart show every reported row?

`/api/stats` reports the response times of the last 7 × 24 hours by analyst
and day. The chart of the analyst page has a bar for each of seven days, of
which today is the last. A window of seven days that does not begin at
midnight touches eight of them, so the rows of the first have no bar.

Key definitions: `last7Dates`, `byDate`, `loadMttrChart`, `ChartComplete`,
`WithinDays`.
Key theorems: `last7Dates_eq`, `rowShown_of_label`, `chartComplete_iff`.
-/
import SocDashboard.Lib.Double
import SocDashboard.Lib.JsCounts
import SocDashboard.MttrCard

namespace SocDashboard

open Dict Query

/-! ### The chart -/

/-- `last7Dates`; in UTC, `setDate` goes back by whole days. -/
def last7Dates (b : Browser) : List ℤ :=
  [6, 5, 4, 3, 2, 1, 0].map fun i => (b.now - i * 86400000) / 86400000

/-- `+(seconds / 60).toFixed(1)`, which rounds the size of the number. -/
def chartMinutes (seconds : ℤ) : ℚ :=
  let minutes := Double.double (seconds / 60)
  let tenths := if minutes < 0 then -mathRound (-minutes * 10) else mathRound (minutes * 10)
  Double.double (tenths / 10)

structure Dataset where
  label : String
  data : List (Option ℚ)
  deriving DecidableEq, Repr

structure MttrChart where
  labels : List ℤ
  datasets : List Dataset

/-- `byDate` of an analyst. -/
def byDate (rows : List MttrRow) (name : String) : Dict ℤ ℚ :=
  (rows.filter fun r => r.analyst = name).foldl (fun d r => setItem d r.date (chartMinutes r.avgSeconds)) []

/-- The chart of `loadAnalystPerf`. -/
def loadMttrChart (b : Browser) (rows : List MttrRow) : MttrChart :=
  let labels := last7Dates b
  let analysts := JsCounts.sorted (rows.map MttrRow.analyst).dedup
  { labels := labels
    datasets := analysts.map fun name => ⟨name, labels.map fun d => getItem (byDate rows name) d⟩ }

/-! ### What it is to show -/

/-- The dataset of the row's analyst has the row's value under its date. -/
def RowShown (c : MttrChart) (r : MttrRow) : Prop :=
  ∃ dataset ∈ c.datasets, dataset.label = r.analyst ∧
    ∃ i : ℕ, c.labels[i]? = some r.date ∧ dataset.data[i]? = some (some (chartMinutes r.avgSeconds))

/-- Every row that is reported is shown, and the labels are the seven days up to today. -/
structure ChartComplete (b : Browser) (rows : List MttrRow) : Prop where
  shown : ∀ r ∈ rows, r.date ∈ last7Dates b ∧ RowShown (loadMttrChart b rows) r
  labels : last7Dates b = (List.range 7).map fun i : ℕ => b.today - 6 + i
  distinct : (last7Dates b).Nodup

/-- Of the timed actions in the window, none lies before the first of the days or after the last. -/
def WithinDays (now : Time) (db : Db) : Prop :=
  ∀ x ∈ db.analystActions, x.responseTimeSeconds.isSome → now - 7 * day ≤ x.actedAt →
    (now / day - 6) * day ≤ x.actedAt ∧ x.actedAt < (now / day + 1) * day

/-! ### The days -/

theorem last7Dates_eq (b : Browser) : last7Dates b = (List.range 7).map fun i : ℕ => b.today - 6 + i := by
  have hback : ∀ i : ℤ, (b.now - i * 86400000) / 86400000 = b.today - i := by
    intro i
    unfold Browser.today
    omega
  simp only [last7Dates, List.map_cons, List.map_nil, hback]
  simp [List.range_succ]
  omega

theorem mem_last7Dates {b : Browser} {d : ℤ} : d ∈ last7Dates b ↔ b.today - 6 ≤ d ∧ d ≤ b.today := by
  rw [last7Dates_eq, List.mem_map]
  constructor
  · rintro ⟨i, hi, rfl⟩
    have := List.mem_range.mp hi
    omega
  · rintro ⟨hlo, hhi⟩
    refine ⟨(d - (b.today - 6)).toNat, List.mem_range.mpr (by omega), ?_⟩
    omega

theorem nodup_last7Dates (b : Browser) : (last7Dates b).Nodup := by
  rw [last7Dates_eq]
  refine List.nodup_range.map fun i j h => ?_
  omega

/-! ### The rows -/

section Rows

variable {pg : Pg} {now : Time} {db : Db} {b : Browser} {rows : List MttrRow} {r : MttrRow}

/-- The analysts and days of the rows are those of the timed actions in the window, each once. -/
theorem mttrKeys_perm (pg : Pg) (now : Time) (db : Db) :
    ((selectMttr pg now db).map fun r => (r.analyst, r.date)).Perm
      ((db.analystActions.filter fun x =>
        x.responseTimeSeconds.isSome && now - 7 * day ≤ x.actedAt).map (mttrKey pg)).dedup := by
  rw [selectMttr, List.map_map, ← groupBy_keys (mttrKey pg) averageAndCount]
  exact (orderBy_perm _ _ _).map _

theorem nodup_mttr (pg : Pg) (now : Time) (db : Db) :
    ((selectMttr pg now db).map fun r => (r.analyst, r.date)).Nodup :=
  (mttrKeys_perm pg now db).nodup_iff.mpr (List.nodup_dedup _)

theorem exists_mttr_iff {analyst : String} {date : ℤ} :
    (∃ r ∈ selectMttr pg now db, r.analyst = analyst ∧ r.date = date) ↔
      ∃ x ∈ db.analystActions, (x.responseTimeSeconds.isSome ∧ now - 7 * day ≤ x.actedAt) ∧
        x.analystName = analyst ∧ pg.date x.actedAt = date := by
  have hkey := (mttrKeys_perm pg now db).mem_iff (a := (analyst, date))
  simpa [mttrKey, and_assoc] using hkey

/-- The value under a row's date is the row's. -/
theorem getItem_byDate (hnd : (rows.map fun r => (r.analyst, r.date)).Nodup) (hr : r ∈ rows) :
    getItem (byDate rows r.analyst) r.date = some (chartMinutes r.avgSeconds) := by
  have hdates : (keys ((rows.filter fun r' => r'.analyst = r.analyst).map fun r' =>
      (r'.date, chartMinutes r'.avgSeconds))).Nodup := by
    rw [keys, List.map_map]
    refine List.Nodup.map_on ?_ ((hnd.of_map _).filter _)
    intro x hx y hy he
    obtain ⟨hx, hxa⟩ := List.mem_filter.mp hx
    obtain ⟨hy, hya⟩ := List.mem_filter.mp hy
    have hanalyst : x.analyst = y.analyst := (of_decide_eq_true hxa).trans (of_decide_eq_true hya).symm
    exact List.inj_on_of_nodup_map hnd hx hy (Prod.ext hanalyst he)
  have hentries := foldl_setItem hdates
  rw [List.foldl_map] at hentries
  rw [byDate, hentries, ← mem_iff_getItem hdates (e := (r.date, chartMinutes r.avgSeconds))]
  exact List.mem_map.mpr ⟨r, List.mem_filter.mpr ⟨hr, decide_eq_true rfl⟩, rfl⟩

/-- **A row is shown when its date has a label.** -/
theorem rowShown_of_label (hnd : (rows.map fun r => (r.analyst, r.date)).Nodup) (hr : r ∈ rows)
    (hdate : r.date ∈ last7Dates b) : RowShown (loadMttrChart b rows) r := by
  have hname : r.analyst ∈ JsCounts.sorted (rows.map MttrRow.analyst).dedup :=
    (JsCounts.sorted_perm _).mem_iff.mpr (List.mem_dedup.mpr (List.mem_map_of_mem hr))
  obtain ⟨i, hi⟩ := List.mem_iff_getElem?.mp hdate
  refine ⟨_, List.mem_map_of_mem hname, rfl, i, hi, ?_⟩
  show ((last7Dates b).map fun d => getItem (byDate rows r.analyst) d)[i]? = _
  rw [List.getElem?_map, hi, Option.map_some, getItem_byDate hnd hr]

/-- What is shown of the rows decides whether the chart is complete. -/
theorem chartComplete_iff_dates (hnd : (rows.map fun r => (r.analyst, r.date)).Nodup) :
    ChartComplete b rows ↔ ∀ r ∈ rows, r.date ∈ last7Dates b := by
  constructor
  · intro h r hr
    exact (h.shown r hr).1
  · intro h
    exact ⟨fun r hr => ⟨h r hr, rowShown_of_label hnd hr (h r hr)⟩, last7Dates_eq b, nodup_last7Dates b⟩

/-- The day of the browser's clock, in milliseconds, is that of the server's. -/
theorem today_of_same_instant {now : ℤ} : now / 1000 / 86400000 = now / day := by
  unfold day
  omega

/-- An instant whose day is one of the seven. -/
theorem mem_days_iff {now t : ℤ} :
    (now / day - 6 ≤ t / day ∧ t / day ≤ now / day) ↔
      (now / day - 6) * day ≤ t ∧ t < (now / day + 1) * day := by
  unfold day
  omega

/-- **When the chart omits no row**: exactly when no timed action in the window lies on the day that
the window begins in, before the first of the seven days, or after today. -/
theorem chartComplete_iff (plan : StatsStatement → Plan) (nowTs : Time) (snapshot : StatsStatement → Db)
    (hutc : ∀ t, pg.date t = t / day) (hnow : b.now = now / 1000) :
    ChartComplete b (apiStatsAnswer pg plan now nowTs snapshot).mttrByAnalyst ↔
      WithinDays now (snapshot .mttrByAnalyst) := by
  have htoday : b.today = now / day := by
    rw [Browser.today, hnow]
    exact today_of_same_instant
  show ChartComplete b (selectMttr pg now (snapshot .mttrByAnalyst)) ↔ _
  rw [chartComplete_iff_dates (nodup_mttr pg now _)]
  constructor
  · intro h x hx hsome hat
    obtain ⟨r, hr, -, hdate⟩ := exists_mttr_iff.mpr ⟨x, hx, ⟨hsome, hat⟩, rfl, rfl⟩
    have hlabel := mem_last7Dates.mp (h r hr)
    rw [hdate, hutc, htoday] at hlabel
    exact mem_days_iff.mp hlabel
  · intro h r hr
    obtain ⟨x, hx, ⟨hsome, hat⟩, -, hdate⟩ := exists_mttr_iff.mp ⟨r, hr, rfl, rfl⟩
    rw [mem_last7Dates, ← hdate, hutc, htoday]
    exact mem_days_iff.mpr (h x hx hsome hat)

end Rows

/-! ### An action of almost seven days ago -/

/-- Noon of the eleventh day. -/
def noon : Time := 10 * day + day / 2

/-- A timed action, so long before noon. -/
def actedBefore (ago : ℤ) : Db :=
  { applySchema none with
    analystActions := [⟨1, 1, "ana", .classifyTp, noon - ago, some 120⟩] }

def noonBrowser : Browser := ⟨noon / 1000, fun _ _ => true, id⟩

def answerAtNoon (db : Db) : List MttrRow :=
  (apiStatsAnswer utc (fun _ => asStored) noon 0 fun _ => db).mttrByAnalyst

theorem chartComplete_yesterday :
    ChartComplete noonBrowser (answerAtNoon (actedBefore day)) ↔ WithinDays noon (actedBefore day) :=
  chartComplete_iff (fun _ => asStored) 0 (fun _ => actedBefore day) (fun _ => rfl) rfl

/-- **Acted on 6 days and 23 hours ago**, it is reported under a date that has no label. -/
theorem almostSevenDays_omitted :
    (∃ r ∈ answerAtNoon (actedBefore (7 * day - 3600000000)), r.analyst = "ana" ∧ r.date = 3) ∧
      (3 : ℤ) ∉ last7Dates noonBrowser ∧
      ¬ChartComplete noonBrowser (answerAtNoon (actedBefore (7 * day - 3600000000))) := by
  have hrow : ∃ r ∈ answerAtNoon (actedBefore (7 * day - 3600000000)), r.analyst = "ana" ∧ r.date = 3 :=
    exists_mttr_iff.mpr ⟨_, List.mem_singleton.mpr rfl, ⟨rfl, by decide⟩, rfl, rfl⟩
  have hlabel : (3 : ℤ) ∉ last7Dates noonBrowser := by decide
  refine ⟨hrow, hlabel, fun h => ?_⟩
  obtain ⟨r, hr, -, hdate⟩ := hrow
  exact hlabel (hdate ▸ (h.shown r hr).1)

end SocDashboard
