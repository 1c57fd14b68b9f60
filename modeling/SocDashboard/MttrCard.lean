/-
# Is the MTTR card accurate?

The dashboard's card `Avg MTTR Today (min)` is made of rows of `/api/stats`:
per analyst and day, the mean response time, which SQL rounded to whole
seconds, and the number of actions. The page weights the means of today with
their numbers, divides, and rounds to whole minutes. So two roundings come
between the card and the mean of today's response times: half a second of a
group's mean, and half a minute of the result.

Key definitions: `mathRound`, `Browser.today`, `loadStats`, `timedOn`,
`meanMinutes`.
Key theorems: `abs_roundDiv_sub_le`, `closedToday_eq`, `mttrMin_accurate`.
-/
import SocDashboard.Lib.Means
import SocDashboard.Pages
import SocDashboard.Stats
import Mathlib.Algebra.BigOperators.Ring.Finset
import Mathlib.Algebra.Order.Round

namespace SocDashboard

open Means Query

/-! ### The cards -/

/-- `Math.round`: the nearest integer, of two the greater. -/
def mathRound (x : ℚ) : ℤ := round x

/-- `new Date().toISOString().slice(0, 10)`, as a day number. -/
def Browser.today (b : Browser) : ℤ := b.now / 86400000

/-- The cards that `loadStats` fills. -/
structure StatCards where
  total : ℕ
  open_ : ℕ
  closedToday : ℕ
  mttrMin : ℤ
  slaBreach : ℚ
  escalation : ℚ

/-- `loadStats`. -/
def loadStats (b : Browser) (stats : Stats) : StatCards :=
  let todayRows := stats.mttrByAnalyst.filter fun r => r.date = b.today
  let closedToday := (todayRows.map MttrRow.count).sum
  let totalSecs := (todayRows.map fun r => r.avgSeconds * (r.count : ℤ)).sum
  { total := stats.total
    open_ := stats.open_
    closedToday := closedToday
    mttrMin := if closedToday = 0 then 0 else mathRound (totalSecs / closedToday / 60)
    slaBreach := stats.sla.breachRate
    escalation := stats.escalation.rate }

/-! ### What they are to show -/

/-- The actions of a day that have a response time. -/
def timedOn (pg : Pg) (date : ℤ) (db : Db) : List AnalystAction :=
  db.analystActions.filter fun x => x.responseTimeSeconds.isSome && pg.date x.actedAt = date

/-- The response times of some actions. -/
def secondsOf (rows : List AnalystAction) : List ℚ :=
  (rows.filterMap AnalystAction.responseTimeSeconds).map Int.cast

/-- The mean of some response times, in minutes. -/
def meanMinutes (rows : List AnalystAction) : ℚ := mean (secondsOf rows) / 60

/-! ### The rounding of SQL -/

theorem abs_mul_roundDiv_sub_le (n : ℤ) {d : ℕ} (hd : 0 < d) : |2 * (d * roundDiv n d - n)| ≤ d := by
  have hup : ∀ m : ℤ, |2 * (d * ((m + (d : ℤ) / 2) / d) - m)| ≤ d := by
    intro m
    have hdiv := Int.mul_ediv_add_emod (m + (d : ℤ) / 2) d
    have hlo := Int.emod_nonneg (m + (d : ℤ) / 2) (by omega : (d : ℤ) ≠ 0)
    have hhi := Int.emod_lt_of_pos (m + (d : ℤ) / 2) (by omega : 0 < (d : ℤ))
    rw [abs_le]
    omega
  unfold roundDiv
  by_cases hn : 0 ≤ n
  · rw [if_pos hn]
    exact hup n
  · rw [if_neg hn, ← abs_neg]
    have hneg := hup (-n)
    rwa [show -(2 * ((d : ℤ) * -((-n + (d : ℤ) / 2) / d) - n)) =
      2 * (d * ((-n + (d : ℤ) / 2) / d) - -n) by ring]

/-- **`round` is off by half a unit at most.** -/
theorem abs_roundDiv_sub_le (n : ℤ) {d : ℕ} (hd : 0 < d) : |(roundDiv n d : ℚ) - n / d| ≤ 1 / 2 := by
  have hpos : (0 : ℚ) < d := Nat.cast_pos.mpr hd
  have hint : |2 * ((d : ℚ) * roundDiv n d - n)| ≤ d := by exact_mod_cast abs_mul_roundDiv_sub_le n hd
  have hscale : 2 * ((d : ℚ) * roundDiv n d - n) = ((roundDiv n d : ℚ) - n / d) * (2 * d) := by
    field_simp
  rw [hscale, abs_mul, abs_of_pos (by positivity : (0 : ℚ) < 2 * d)] at hint
  have hle : |(roundDiv n d : ℚ) - n / d| * (2 * d) ≤ 1 / 2 * (2 * d) := by linarith
  exact le_of_mul_le_mul_right hle (by positivity)

/-! ### The rows of a day -/

section Card

variable {pg : Pg} {now : Time} {db : Db}

/-- The key of the grouping. -/
def mttrKey (pg : Pg) (x : AnalystAction) : String × ℤ := (x.analystName, pg.date x.actedAt)

/-- The row of a group. -/
def mttrRow (g : (String × ℤ) × List AnalystAction) : MttrRow :=
  ⟨g.1.1, g.1.2, (averageAndCount g.2).1, g.2.length⟩

/-- The rows of a day that lies in the window are those of its groups. -/
theorem mttrOn_perm (db : Db) {date : ℤ} (hwindow : ∀ t, pg.date t = date → now - 7 * day ≤ t) :
    ((selectMttr pg now db).filter fun r => r.date = date).Perm
      ((groupBy (mttrKey pg) id (timedOn pg date db)).map mttrRow) := by
  have hrows : (db.analystActions.filter fun x =>
      x.responseTimeSeconds.isSome && now - 7 * day ≤ x.actedAt).filter (fun x => (mttrKey pg x).2 = date) =
      timedOn pg date db := by
    rw [timedOn, List.filter_filter]
    refine List.filter_congr fun x _ => ?_
    by_cases hx : pg.date x.actedAt = date
    · simp [mttrKey, hx, hwindow x.actedAt hx]
    · simp [mttrKey, hx]
  have hperm := ((orderBy_perm (fun g : (String × ℤ) × ℤ × ℕ => toLex (g.1.2, pg.sortKey g.1.1)) (fun _ => 0)
    (groupBy (mttrKey pg) averageAndCount (db.analystActions.filter fun x =>
      x.responseTimeSeconds.isSome && now - 7 * day ≤ x.actedAt))).map fun g =>
        (⟨g.1.1, g.1.2, g.2.1, g.2.2⟩ : MttrRow)).filter fun r => r.date = date
  refine hperm.trans (List.Perm.of_eq ?_)
  rw [List.filter_map]
  show ((groupBy (mttrKey pg) averageAndCount _).filter fun g => (g.1.2 = date : Bool)).map _ = _
  rw [groupBy_filter (mttrKey pg) averageAndCount (fun k => k.2 = date), hrows, groupBy_agg, List.map_map]
  rfl

theorem length_secondsOf {rows : List AnalystAction} (h : ∀ x ∈ rows, x.responseTimeSeconds.isSome) :
    (secondsOf rows).length = rows.length := by
  rw [secondsOf, List.length_map, List.length_filterMap_eq_countP]
  exact List.countP_eq_length.mpr h

/-- A group of timed actions is timed. -/
theorem isSome_of_mem_group {date : ℤ} {g : (String × ℤ) × List AnalystAction}
    (hg : g ∈ groupBy (mttrKey pg) id (timedOn pg date db)) : ∀ x ∈ g.2, x.responseTimeSeconds.isSome := by
  intro x hx
  rw [(mem_groupBy.mp hg).2] at hx
  have htimed := (List.mem_filter.mp (List.mem_filter.mp hx).1).2
  exact (Bool.and_eq_true_iff.mp htimed).1

variable {b : Browser} {plan : StatsStatement → Plan} {nowTs : Time} {snapshot : StatsStatement → Db}

/-- **`Closed Today`** counts the timed actions of the day. -/
theorem closedToday_eq (plan : StatsStatement → Plan) (nowTs : Time) (snapshot : StatsStatement → Db)
    (hwindow : ∀ t, pg.date t = b.today → now - 7 * day ≤ t) :
    (loadStats b (apiStatsAnswer pg plan now nowTs snapshot)).closedToday =
      (timedOn pg b.today (snapshot .mttrByAnalyst)).length := by
  have hperm := mttrOn_perm (snapshot .mttrByAnalyst) hwindow
  calc (loadStats b (apiStatsAnswer pg plan now nowTs snapshot)).closedToday
      = ((((groupBy (mttrKey pg) id (timedOn pg b.today (snapshot .mttrByAnalyst))).map mttrRow).map
          MttrRow.count)).sum := (hperm.map MttrRow.count).sum_eq
    _ = ((groupBy (mttrKey pg) id (timedOn pg b.today (snapshot .mttrByAnalyst))).flatMap Prod.snd).length := by
        rw [List.map_map, List.length_flatMap]
        rfl
    _ = (timedOn pg b.today (snapshot .mttrByAnalyst)).length := (groups_perm _ _).length_eq

/-- The groups of a day, with their means as SQL rounded them. -/
def roundedGroups (pg : Pg) (date : ℤ) (db : Db) : List (ℚ × List ℚ) :=
  (groupBy (mttrKey pg) id (timedOn pg date db)).map fun g => (((averageAndCount g.2).1 : ℚ), secondsOf g.2)

theorem numbers_perm (pg : Pg) (date : ℤ) (db : Db) :
    ((roundedGroups pg date db).flatMap Prod.snd).Perm (secondsOf (timedOn pg date db)) := by
  have hflat : (roundedGroups pg date db).flatMap Prod.snd =
      secondsOf ((groupBy (mttrKey pg) id (timedOn pg date db)).flatMap Prod.snd) := by
    rw [roundedGroups, List.flatMap_map, secondsOf, List.filterMap_flatMap, List.map_flatMap]
    rfl
  rw [hflat]
  exact ((groups_perm (mttrKey pg) (timedOn pg date db)).filterMap _).map _

theorem numbers_length (pg : Pg) (date : ℤ) (db : Db) :
    ((roundedGroups pg date db).flatMap Prod.snd).length = (timedOn pg date db).length :=
  (numbers_perm pg date db).length_eq.trans <|
    length_secondsOf fun _ hx => (Bool.and_eq_true_iff.mp (List.mem_filter.mp hx).2).1

/-- No group's mean was rounded by more than half a second. -/
theorem abs_sub_mean_le {date : ℤ} {g : ℚ × List ℚ} (hg : g ∈ roundedGroups pg date db) (hne : g.2 ≠ []) :
    |g.1 - mean g.2| ≤ 1 / 2 := by
  obtain ⟨group, hgroup, rfl⟩ := List.mem_map.mp hg
  have hlength := length_secondsOf (isSome_of_mem_group hgroup)
  have hpos : 0 < group.2.length := by
    rw [← hlength]
    exact List.length_pos_iff.mpr hne
  have hsum : (secondsOf group.2).sum =
      ((group.2.filterMap AnalystAction.responseTimeSeconds).sum : ℤ) := by
    rw [secondsOf, Int.cast_list_sum]
  rw [mean, hsum, hlength]
  exact abs_roundDiv_sub_le _ hpos

/-- The card's seconds are the rebuilt sum of its rows. -/
theorem totalSecs_eq (hwindow : ∀ t, pg.date t = b.today → now - 7 * day ≤ t) :
    (((((selectMttr pg now db).filter fun r => r.date = b.today).map fun r =>
      r.avgSeconds * (r.count : ℤ)).sum : ℤ) : ℚ) = rebuiltSum (roundedGroups pg b.today db) := by
  have hperm := mttrOn_perm db hwindow
  have hrows : ∀ g ∈ groupBy (mttrKey pg) id (timedOn pg b.today db),
      (((mttrRow g).avgSeconds * ((mttrRow g).count : ℤ) : ℤ) : ℚ) =
        ((averageAndCount g.2).1 : ℚ) * ((secondsOf g.2).length : ℚ) := by
    intro g hg
    rw [length_secondsOf (isSome_of_mem_group hg)]
    push_cast
    rfl
  rw [(hperm.map fun r => r.avgSeconds * (r.count : ℤ)).sum_eq, Int.cast_list_sum, rebuiltSum, roundedGroups,
    List.map_map, List.map_map, List.map_map]
  exact congrArg List.sum (List.map_congr_left hrows)

/-- The card's minutes are those of the mean that is rebuilt. -/
theorem mttrMin_eq (hwindow : ∀ t, pg.date t = b.today → now - 7 * day ≤ t)
    (hne : timedOn pg b.today (snapshot .mttrByAnalyst) ≠ []) :
    (loadStats b (apiStatsAnswer pg plan now nowTs snapshot)).mttrMin =
      mathRound (rebuilt (roundedGroups pg b.today (snapshot .mttrByAnalyst)) / 60) := by
  have hcount := closedToday_eq plan nowTs snapshot hwindow
  have hpos : (timedOn pg b.today (snapshot .mttrByAnalyst)).length ≠ 0 :=
    fun h => hne (List.length_eq_zero_iff.mp h)
  rw [loadStats] at hcount ⊢
  simp only at hcount ⊢
  rw [hcount, if_neg hpos, rebuilt, numbers_length, ← totalSecs_eq hwindow]
  rfl

/-- **`Avg MTTR Today (min)`** is within half a minute and half a second of the mean. -/
theorem mttrMin_accurate (hwindow : ∀ t, pg.date t = b.today → now - 7 * day ≤ t)
    (hne : timedOn pg b.today (snapshot .mttrByAnalyst) ≠ []) :
    |((loadStats b (apiStatsAnswer pg plan now nowTs snapshot)).mttrMin : ℚ) -
      meanMinutes (timedOn pg b.today (snapshot .mttrByAnalyst))| ≤ 1 / 2 + 1 / 120 := by
  have hnumbers := numbers_perm pg b.today (snapshot .mttrByAnalyst)
  have hmean : mean ((roundedGroups pg b.today (snapshot .mttrByAnalyst)).flatMap Prod.snd) =
      mean (secondsOf (timedOn pg b.today (snapshot .mttrByAnalyst))) := by
    rw [mean, mean, hnumbers.sum_eq, hnumbers.length_eq]
  have hsome : (roundedGroups pg b.today (snapshot .mttrByAnalyst)).flatMap Prod.snd ≠ [] := by
    intro hnil
    have hlength := numbers_length pg b.today (snapshot .mttrByAnalyst)
    rw [hnil] at hlength
    exact hne (List.length_eq_zero_iff.mp hlength.symm)
  have hseconds := abs_rebuilt_sub_mean_le hsome fun g hg => abs_sub_mean_le hg
  rw [hmean] at hseconds
  have hminutes := abs_sub_round (rebuilt (roundedGroups pg b.today (snapshot .mttrByAnalyst)) / 60)
  rw [mttrMin_eq hwindow hne, mathRound, meanMinutes]
  rw [abs_le] at *
  constructor <;> linarith

/-- The day of an instant lies in the seven days before it. -/
theorem today_in_window {now t : ℤ} (h : now / day = t / day) : now - 7 * day ≤ t := by
  unfold day at *
  omega

/-- **The MTTR card is accurate.** With the session in UTC and on the day of the browser, on a day
with timed actions, the card is within half a minute and half a second of their mean, and counts
them. -/
theorem mttrCard_accurate (plan : StatsStatement → Plan) (nowTs : Time) (hutc : ∀ t, pg.date t = t / day)
    (hday : now / day = b.today) (hne : timedOn pg b.today (snapshot .mttrByAnalyst) ≠ []) :
    |((loadStats b (apiStatsAnswer pg plan now nowTs snapshot)).mttrMin : ℚ) -
        meanMinutes (timedOn pg b.today (snapshot .mttrByAnalyst))| ≤ 1 / 2 + 1 / 120 ∧
      (loadStats b (apiStatsAnswer pg plan now nowTs snapshot)).closedToday =
        (timedOn pg b.today (snapshot .mttrByAnalyst)).length := by
  have hwindow : ∀ t, pg.date t = b.today → now - 7 * day ≤ t := fun t ht =>
    today_in_window (hday.trans (ht.symm.trans (hutc t)))
  exact ⟨mttrMin_accurate hwindow hne, closedToday_eq plan nowTs snapshot hwindow⟩

end Card

/-! ### Two analysts -/

/-- Three actions of the first day: two of an analyst, one of another. -/
def threeActions : Db :=
  { applySchema none with
    analystActions :=
      [⟨1, 1, "ana", .classifyTp, 1000000, some 100⟩, ⟨2, 2, "ana", .classifyFp, 2000000, some 133⟩,
        ⟨3, 3, "bo", .escalate, 3000000, some 600⟩] }

theorem threeActions_accurate :
    |((loadStats plainBrowser (apiStatsAnswer utc (fun _ => asStored) 4000000 0
        fun _ => threeActions)).mttrMin : ℚ) -
        meanMinutes (timedOn utc plainBrowser.today threeActions)| ≤ 1 / 2 + 1 / 120 ∧
      (loadStats plainBrowser (apiStatsAnswer utc (fun _ => asStored) 4000000 0
        fun _ => threeActions)).closedToday = (timedOn utc plainBrowser.today threeActions).length :=
  mttrCard_accurate (fun _ => asStored) 0 (fun _ => rfl) (by decide) (by decide)

end SocDashboard
