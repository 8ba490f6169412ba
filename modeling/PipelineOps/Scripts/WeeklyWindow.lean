import PipelineOps.Python.IsoCalendar
import PipelineOps.Scripts.PullsListing

namespace PipelineOps.Scripts

open PipelineOps.Library
open PipelineOps.Orchestrator (instant)
open PipelineOps.Python

/-! The windows of the weekly reports, and the names of the reports. -/

/-- `value.weekday()`. -/
def weekday (value : DateTime) : Int :=
  (value.wall / microsPerDay + 1 + 6) % 7

/-- `value - timedelta(days=days)`. -/
def minusDays (value : DateTime) (days : Int) : Except Exc DateTime :=
  if range : InRange (value.wall - days * microsPerDay) then
    .ok ⟨value.wall - days * microsPerDay, value.zone, range⟩
  else .error ⟨.overflowError, "date value out of range"⟩

theorem midnight_inRange (value : DateTime) :
    InRange (value.wall / microsPerDay * microsPerDay) := by
  have range := value.range
  rw [InRange, wallLimit_eq] at range ⊢
  rw [microsPerDay_eq]
  omega

/-- `value.replace(hour=0, minute=0, second=0, microsecond=0)`. -/
def midnight (value : DateTime) : DateTime :=
  ⟨value.wall / microsPerDay * microsPerDay, value.zone,
    midnight_inRange value⟩

def weekLabel (windowStart : DateTime) : String :=
  let (isoYear, isoWeek, _) := isoCalendar windowStart.date
  toString isoYear ++ "-W" ++ padded 2 isoWeek

def weeklyWindow (now : DateTime) :
    Except Exc (DateTime × DateTime × String) := do
  let sameTime ← minusDays now (weekday now)
  let windowEnd := midnight sameTime
  let windowStart ← minusDays windowEnd 7
  pure (windowStart, windowEnd, weekLabel windowStart)

def microsPerWeek : Int := 7 * microsPerDay

/-- The weeks since the first of January of the year 1, a Monday. -/
def weekOf (value : DateTime) : Int := instant value / microsPerWeek

theorem microsPerWeek_eq : microsPerWeek = 604800000000 := rfl

section Windows

variable {now windowStart windowEnd : DateTime} {label : String}

theorem weeklyWindow_ok (late : microsPerWeek ≤ now.wall) :
    ∃ windowStart windowEnd,
      weeklyWindow now =
        .ok (windowStart, windowEnd, weekLabel windowStart) ∧
      windowEnd.wall = now.wall / microsPerWeek * microsPerWeek ∧
      windowStart.wall = windowEnd.wall - microsPerWeek ∧
      windowStart.zone = now.zone ∧ windowEnd.zone = now.zone := by
  have range := now.range
  rw [InRange, wallLimit_eq] at range
  rw [microsPerWeek_eq] at late
  have same : InRange (now.wall - weekday now * microsPerDay) := by
    rw [InRange, wallLimit_eq, weekday, microsPerDay_eq]
    omega
  have monday : (now.wall - weekday now * microsPerDay) / microsPerDay *
      microsPerDay = now.wall / microsPerWeek * microsPerWeek := by
    rw [weekday, microsPerWeek_eq, microsPerDay_eq]
    omega
  have week : InRange ((now.wall - weekday now * microsPerDay) /
      microsPerDay * microsPerDay - 7 * microsPerDay) := by
    rw [monday, InRange, wallLimit_eq, microsPerWeek_eq, microsPerDay_eq]
    omega
  refine ⟨⟨_, now.zone, week⟩, midnight ⟨_, now.zone, same⟩, ?_, monday, rfl,
    rfl, rfl⟩
  rw [weeklyWindow, minusDays, dif_pos same]
  change (minusDays _ 7).bind _ = _
  rw [minusDays, midnight, dif_pos week]
  rfl

/-- The Monday that a report starts with, by its week. -/
theorem weekLabel_monday {start : DateTime}
    (monday : start.wall % microsPerWeek = 0) :
    ∃ year week, weekLabel start =
        toString year ++ "-W" ++ padded 2 week ∧
      year ≤ 9999 ∧ week ≤ 53 ∧
      isoWeekOrdinal year week 1 = some (start.wall / microsPerDay + 1) ∧
      year = (isoCalendar start.date).1 := by
  have range := start.range
  rw [InRange, wallLimit_eq] at range
  rw [microsPerWeek_eq] at monday
  obtain ⟨year, week, day, names, years, weeks, days, reads⟩ :=
    isoCalendar_names (date_dayOf start)
  rw [microsPerDay_eq] at days reads
  obtain rfl : day = 1 := by omega
  refine ⟨year, week, by rw [weekLabel, names], years.2, weeks.2, ?_,
    by rw [names]⟩
  rw [reads, microsPerDay_eq]
  congr 1
  omega

theorem weekLabel_eq_iff {start other : DateTime}
    (monday : start.wall % microsPerWeek = 0)
    (otherMonday : other.wall % microsPerWeek = 0) :
    weekLabel start = weekLabel other ↔ start.wall = other.wall := by
  obtain ⟨year, week, label, -, weeks, reads, -⟩ := weekLabel_monday monday
  obtain ⟨otherYear, otherWeek, otherLabel, -, otherWeeks, otherReads, -⟩ :=
    weekLabel_monday otherMonday
  constructor
  · intro same
    rw [label, otherLabel] at same
    obtain ⟨rfl, rfl⟩ := weekName_injective ⟨weeks, otherWeeks⟩ same
    rw [reads] at otherReads
    have days := Option.some.inj otherReads
    rw [microsPerDay_eq] at days
    rw [microsPerWeek_eq] at monday otherMonday
    omega
  · intro same
    have dates : start.date = other.date := by
      rw [DateTime.date, DateTime.date, same]
    rw [weekLabel, weekLabel, dates]

/-- `datetime.fromisoformat` on the name of a report, where the year has four
digits: the start of its window. -/
theorem fromIsoFormat_weekLabel {start : DateTime}
    (monday : start.wall % microsPerWeek = 0)
    (fourDigits : 1000 ≤ (isoCalendar start.date).1) :
    fromIsoFormat (weekLabel start) = some ⟨start.wall, none, start.range⟩ := by
  have range := start.range
  obtain ⟨year, week, label, years, weeks, reads, rfl⟩ :=
    weekLabel_monday monday
  rw [label, fromIsoFormat_week ⟨fourDigits, years⟩ weeks reads]
  have wall : (start.wall / microsPerDay + 1 - 1) * microsPerDay +
      ClockReading.micros ⟨0, 0, 0, 0, false⟩ = start.wall := by
    rw [microsPerWeek_eq] at monday
    rw [microsPerDay_eq]
    change _ + (0 : Int) = _
    omega
  simp only [combine, wall]
  rw [dif_pos ⟨by decide, range⟩]

theorem instant_of_utc {value : DateTime} (utc : value.zone = some .utc) :
    instant value = value.wall := by
  rw [instant, utc]
  exact Int.sub_zero _

end Windows

/-- The bounds and the name of the report that is made at `now`. -/
def ReportsOn (now : DateTime) (window : Window) (label : String) : Prop :=
  weeklyWindow now = .ok (window.windowStart, window.windowEnd, label)

theorem reportsOn_of_bounds {now : DateTime} {window : Window}
    (late : microsPerWeek ≤ now.wall)
    (last : window.windowEnd.wall = now.wall / microsPerWeek * microsPerWeek)
    (first : window.windowStart.wall = window.windowEnd.wall - microsPerWeek)
    (startZone : window.windowStart.zone = now.zone)
    (endZone : window.windowEnd.zone = now.zone) :
    ReportsOn now window (weekLabel window.windowStart) := by
  obtain ⟨windowStart, windowEnd, returned, otherLast, otherFirst, otherZone,
    otherEndZone⟩ := weeklyWindow_ok late
  have same : ∀ left right : DateTime, left.wall = right.wall →
      left.zone = right.zone → left = right := by
    rintro ⟨wall, zone, range⟩ ⟨otherWall, otherZone, otherRange⟩ rfl rfl
    rfl
  have ends := same windowEnd window.windowEnd (otherLast.trans last.symm)
    (otherEndZone.trans endZone.symm)
  subst ends
  have starts := same windowStart window.windowStart
    (otherFirst.trans first.symm) (otherZone.trans startZone.symm)
  subst starts
  exact returned

theorem ReportsOn.bounds {now : DateTime} {window : Window} {label : String}
    (reports : ReportsOn now window label) (late : microsPerWeek ≤ now.wall) :
    window.windowEnd.wall = now.wall / microsPerWeek * microsPerWeek ∧
      window.windowStart.wall = window.windowEnd.wall - microsPerWeek ∧
      window.windowStart.zone = now.zone ∧ window.windowEnd.zone = now.zone ∧
      label = weekLabel window.windowStart := by
  obtain ⟨windowStart, windowEnd, returned, last, first, startZone, endZone⟩ :=
    weeklyWindow_ok late
  have same := Prod.mk.inj (Except.ok.inj (reports.symm.trans returned))
  rw [same.1, (Prod.mk.inj same.2).1, (Prod.mk.inj same.2).2]
  exact ⟨last, first, startZone, endZone, rfl⟩

/-- A report is about the week before, under a name of its own. -/
structure WeeklyLaw (now : DateTime) (window : Window) (label : String) :
    Prop where
  contains : ∀ mergedAt, window.Contains mergedAt ↔
    weekOf now = weekOf mergedAt + 1
  named : ∀ other otherWindow otherLabel, other.zone = some .utc →
    microsPerWeek ≤ instant other → ReportsOn other otherWindow otherLabel →
    (label = otherLabel ↔ weekOf now = weekOf other)
  readable : 1000 ≤ (isoCalendar window.windowStart.date).1 →
    fromIsoFormat label =
      some ⟨window.windowStart.wall, none, window.windowStart.range⟩

/-- A merge belongs to the reports that are made in the week after it, and
these are the ones with one name. -/
theorem ReportsOn.weeklyLaw {now : DateTime} {window : Window} {label : String}
    (reports : ReportsOn now window label) (utc : now.zone = some .utc)
    (late : microsPerWeek ≤ instant now) : WeeklyLaw now window label := by
  rw [instant_of_utc utc] at late
  obtain ⟨last, first, startZone, endZone, rfl⟩ := reports.bounds late
  rw [utc] at startZone endZone
  have monday : window.windowStart.wall % microsPerWeek = 0 := by
    rw [first, last, microsPerWeek_eq]
    omega
  refine ⟨?_, ?_, fromIsoFormat_weekLabel monday⟩
  · intro mergedAt
    rw [Window.Contains, instant_of_utc startZone, instant_of_utc endZone,
      weekOf, weekOf, instant_of_utc utc, first, last, microsPerWeek_eq]
    omega
  · intro other otherWindow otherLabel otherUtc otherLate otherReports
    rw [instant_of_utc otherUtc] at otherLate
    obtain ⟨otherLast, otherFirst, -, -, rfl⟩ :=
      otherReports.bounds otherLate
    have otherMonday : otherWindow.windowStart.wall % microsPerWeek = 0 := by
      rw [otherFirst, otherLast, microsPerWeek_eq]
      omega
    rw [weekLabel_eq_iff monday otherMonday, first, last, otherFirst,
      otherLast, weekOf, weekOf, instant_of_utc utc, instant_of_utc otherUtc,
      microsPerWeek_eq]
    omega

section Partition

/-- The line of a report for a pull request that was merged in one of the
`count` weeks from the week `first` on. -/
def mergedWithin (first : Int) (count : Nat) (pr : Pull) :
    Option PullRequestSummary :=
  match moment? pr "merged_at", moment? pr "created_at" with
  | some mergedAt, some createdAt =>
      if (first ≤ weekOf mergedAt ∧ weekOf mergedAt < first + count) ∧
          isAiGenerated pr = true then
        some (summaryOf pr createdAt mergedAt)
      else none
  | _, _ => none

theorem mergedWithin_zero (first : Int) (pr : Pull) :
    mergedWithin first 0 pr = none := by
  rw [mergedWithin]
  split
  · rw [if_neg]
    omega
  · rfl

/-- The last week of a time, and the weeks before it. -/
theorem mergedWithin_succ (first : Int) (count : Nat) (pr : Pull) :
    mergedWithin first count pr = none ∧
        mergedWithin first (count + 1) pr =
          mergedWithin (first + count) 1 pr ∨
      mergedWithin (first + count) 1 pr = none ∧
        mergedWithin first (count + 1) pr = mergedWithin first count pr := by
  simp only [mergedWithin]
  split
  · rename_i mergedAt createdAt merged created
    by_cases late : first + count ≤ weekOf mergedAt
    · left
      rw [if_neg (by omega)]
      refine ⟨rfl, ?_⟩
      congr 1
      simp only [Nat.cast_add, Nat.cast_one, eq_iff_iff, and_congr_left_iff]
      omega
    · right
      rw [if_neg (by omega)]
      refine ⟨rfl, ?_⟩
      congr 1
      simp only [Nat.cast_add, Nat.cast_one, eq_iff_iff, and_congr_left_iff]
      omega
  · exact .inl ⟨rfl, rfl⟩

theorem wantedSummary?_eq {now : DateTime} {window : Window} {label : String}
    (law : WeeklyLaw now window label) :
    wantedSummary? window = mergedWithin (weekOf now - 1) 1 := by
  funext pr
  cases merged : moment? pr "merged_at" with
  | none => simp only [wantedSummary?, mergedWithin, merged]
  | some mergedAt =>
      cases created : moment? pr "created_at" with
      | none => simp only [wantedSummary?, mergedWithin, merged, created]
      | some createdAt =>
          simp only [wantedSummary?, mergedWithin, merged, created]
          apply if_congr _ rfl rfl
          rw [law.contains mergedAt, Nat.cast_one]
          apply and_congr_left
          omega

variable {nows : Nat → DateTime} {windows : Nat → Window} {pulls : List Pull}
  {results : Nat → List PullRequestSummary}

theorem reports_perm {first : Int} {count : Nat}
    (weekly : ∀ i < count, (results i).Perm
      (pulls.filterMap (mergedWithin (first + i) 1))) :
    ((List.range count).flatMap results).Perm
      (pulls.filterMap (mergedWithin first count)) := by
  induction count with
  | zero =>
      rw [List.filterMap_eq_nil_iff.mpr fun pr _ => mergedWithin_zero first pr]
      exact .refl _
  | succ count induction =>
      rw [List.range_succ, List.flatMap_append, List.flatMap_singleton]
      have earlier := induction fun i before => weekly i (by omega)
      have last := weekly count (by omega)
      exact (earlier.append last).trans
        (filterMap_perm_append (mergedWithin_succ first count) pulls).symm

/-- Complete reports of consecutive weeks show every pull request of the time
together, none of them twice, under names that tell the weeks apart and that are
read as the starts of their windows. -/
theorem reports_partition {labels : Nat → String} {count : Nat}
    (utc : ∀ i, (nows i).zone = some .utc)
    (late : ∀ i, microsPerWeek ≤ instant (nows i))
    (consecutive : ∀ i < count, weekOf (nows i) = weekOf (nows 0) + i)
    (made : ∀ i < count, ReportsOn (nows i) (windows i) (labels i))
    (exact : ∀ i < count, FetchesExactly (windows i) pulls (.ok (results i))) :
    ((List.range count).flatMap results).Perm
        (pulls.filterMap (mergedWithin (weekOf (nows 0) - 1) count)) ∧
      (∀ i < count, ∀ j < count, labels i = labels j → i = j) ∧
      ∀ i < count, 1000 ≤ (isoCalendar (windows i).windowStart.date).1 →
        fromIsoFormat (labels i) = some ⟨(windows i).windowStart.wall, none,
          (windows i).windowStart.range⟩ := by
  have law : ∀ i < count, WeeklyLaw (nows i) (windows i) (labels i) :=
    fun i before => (made i before).weeklyLaw (utc i) (late i)
  refine ⟨reports_perm ?_, ?_, fun i before => (law i before).readable⟩
  · intro i before
    obtain ⟨fetched, same, perm, -⟩ := exact i before
    obtain rfl := Except.ok.inj same
    rw [wantedSummary?_eq (law i before), consecutive i before] at perm
    have shift : weekOf (nows 0) + i - 1 = weekOf (nows 0) - 1 + i := by
      omega
    rwa [shift] at perm
  · intro i before j alsoBefore same
    have weeks := ((law i before).named _ _ _ (utc j) (late j)
      (made j alsoBefore)).mp same
    rw [consecutive i before, consecutive j alsoBefore] at weeks
    omega

/-- The midnight that starts a day of June 2024. -/
def june (day : Nat) (within : day ∈ [3, 10, 12, 17, 19]) : DateTime :=
  ⟨((toOrdinal 2024 6 day : Int) - 1) * microsPerDay, some .utc, by
    simp only [List.mem_cons, List.not_mem_nil, or_false] at within
    rcases within with rfl | rfl | rfl | rfl | rfl <;> decide⟩

def juneReport : Nat → DateTime
  | 0 => june 12 (by decide)
  | _ => june 19 (by decide)

def juneWindow : Nat → Window
  | 0 => ⟨june 3 (by decide), june 10 (by decide), rfl, rfl⟩
  | _ => ⟨june 10 (by decide), june 17 (by decide), rfl, rfl⟩

def juneLabel : Nat → String
  | 0 => "2024-W23"
  | _ => "2024-W24"

theorem reports_partition_june :
    ((List.range 2).flatMap fun i =>
        [mergedPull].filterMap (wantedSummary? (juneWindow i))).Perm
      ([mergedPull].filterMap
        (mergedWithin (weekOf (juneReport 0) - 1) 2)) := by
  have single : ∀ i, ([mergedPull].filterMap
      (wantedSummary? (juneWindow i))).Pairwise MergedNoLater := by
    intro i
    cases picked : wantedSummary? (juneWindow i) mergedPull with
    | none => simp [picked]
    | some summary => simp [picked]
  refine (@reports_partition juneReport juneWindow [mergedPull] _ juneLabel 2
    ?_ ?_ ?_ ?_ fun i _ => ⟨_, rfl, .refl _, single i⟩).1
  · intro i
    cases i <;> rfl
  · intro i
    have late : microsPerWeek ≤ instant (june 19 (by decide)) := by decide
    cases i with
    | zero => decide
    | succ i => exact late
  · intro i before
    interval_cases i <;> decide
  · intro i before
    have labels : weekLabel (june 3 (by decide)) = "2024-W23" ∧
        weekLabel (june 10 (by decide)) = "2024-W24" := by decide
    interval_cases i
    · rw [juneLabel, ← labels.1]
      exact reportsOn_of_bounds (by decide) (by decide) (by decide) rfl rfl
    · rw [juneLabel, ← labels.2]
      · exact reportsOn_of_bounds (by decide) (by decide) (by decide) rfl rfl
      · simp

end Partition

end PipelineOps.Scripts
