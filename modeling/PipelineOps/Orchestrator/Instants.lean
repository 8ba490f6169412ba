import PipelineOps.Library.Fallible
import PipelineOps.Orchestrator.Time
import PipelineOps.Python.Calendar

namespace PipelineOps.Orchestrator

open PipelineOps.Library
open PipelineOps.Python

/-! The instants that timestamps denote, and what the conversions keep of
them. -/

section Instants

/-- The instant of a `datetime` on the wall clock of UTC; without a zone it is
read as UTC. -/
def instant (value : DateTime) : Int :=
  value.wall - (value.zone.getD .utc).shift

def DenotesUtc (moment : Int) (converted : DateTime) : Prop :=
  converted.zone = some .utc ∧ converted.wall = moment

/-- The wall clock at the start of a minute. -/
def minuteStart (year month day hour minute : Nat) : Int :=
  ((toOrdinal year month day : Int) - 1) * microsPerDay +
    hour * microsPerHour + minute * microsPerMinute

/-- A text that shows the minute of a wall clock in Korea. -/
def ShowsKstMinute (wall : Int) (text : String) : Prop :=
  ∃ year month day hour minute,
    ValidDate year month day ∧ hour < 24 ∧ minute < 60 ∧
      text = strftimeDate (year, month, day) ++ " " ++ padded 2 hour ++ ":" ++
        padded 2 minute ++ " KST" ∧
      minuteStart year month day hour minute ≤ wall ∧
      wall < minuteStart year month day hour minute + microsPerMinute

def IsValueError (exc : Exc) : Prop := exc.cls = .valueError

/-- Both conversions keep the instant of the timestamp, or raise
`ValueError`. -/
def ConvertsInstant (room : Nat) (value : Value) (moment : Int) : Prop :=
  Ends (DenotesUtc moment) IsValueError (parsePipelineTs room value) ∧
    Ends (ShowsKstMinute (moment + kst.shift)) IsValueError (toKst room value)

variable (room : Nat) {value : Value} {parsed : DateTime}

/-- `parse_pipeline_ts` keeps the instant of what it reads, if the calendar has
a date for it. -/
theorem parsePipelineTs_of_inRange (read : readTs value = some parsed)
    (range : InRange (instant parsed)) :
    ∃ converted, parsePipelineTs room value = .ok converted ∧
      DenotesUtc (instant parsed) converted := by
  cases zone : parsed.zone with
  | none =>
      refine ⟨parsed.replaceZone .utc, ?_, rfl, ?_⟩
      · simp [parsePipelineTs, read, zone]
      · simp [instant, zone, Zone.utc, DateTime.replaceZone]
  | some source =>
      have shifted : InRange (parsed.wall - source.shift) := by
        simpa [instant, zone] using range
      refine ⟨⟨parsed.wall - source.shift, some .utc, shifted⟩, ?_, rfl, ?_⟩
      · simp [parsePipelineTs, read, zone, DateTime.astimezone, Zone.utc,
          shifted]
      · simp [instant, zone]

theorem parsePipelineTs_of_overflow (read : readTs value = some parsed)
    (overflow : ¬ InRange (instant parsed)) :
    parsePipelineTs room value = .error dateOverflow := by
  cases zone : parsed.zone with
  | none =>
      have range : InRange (instant parsed) := by
        simpa [instant, zone, Zone.utc] using parsed.range
      exact absurd range overflow
  | some source =>
      have shifted : ¬ InRange (parsed.wall - source.shift) := by
        simpa [instant, zone] using overflow
      simp [parsePipelineTs, read, zone, DateTime.astimezone, shifted]

/-- A timestamp that is accepted, and the instant it denotes. -/
def Denotes (value : Value) (moment : Int) : Prop :=
  ∃ parsed, readTs value = some parsed ∧ instant parsed = moment ∧
    InRange moment

theorem Denotes.parses {moment : Int} (denotes : Denotes value moment) :
    ∃ converted, parsePipelineTs room value = .ok converted ∧
      DenotesUtc moment converted := by
  obtain ⟨parsed, read, rfl, range⟩ := denotes
  exact parsePipelineTs_of_inRange room read range

variable {room}

theorem Denotes.of_parsed {converted : DateTime}
    (returned : parsePipelineTs room value = .ok converted) :
    Denotes value converted.wall := by
  cases read : readTs value with
  | none =>
      rw [parsePipelineTs, read] at returned
      cases returned
  | some parsed =>
      by_cases range : InRange (instant parsed)
      · obtain ⟨other, again, denotes⟩ :=
          parsePipelineTs_of_inRange room read range
        rw [returned] at again
        obtain rfl := Except.ok.inj again
        exact ⟨parsed, read, denotes.2.symm, converted.range⟩
      · rw [parsePipelineTs_of_overflow room read range] at returned
        cases returned

variable (room)

/-- What `parse_pipeline_ts` returns depends on the instant only. -/
theorem Denotes.parse_eq {left right : Value} {moment : Int}
    (first : Denotes left moment) (second : Denotes right moment) :
    parsePipelineTs room left = parsePipelineTs room right := by
  obtain ⟨converted, parsed, zone, wall⟩ := first.parses room
  obtain ⟨other, otherParsed, otherZone, otherWall⟩ := second.parses room
  cases converted
  cases other
  simp_all

/-- The text of a wall clock names the minute it stands in. -/
theorem kstText_shows (value : DateTime) :
    ShowsKstMinute value.wall (kstText value) := by
  obtain ⟨valid, ordinal⟩ := date_dayOf value
  have range := value.range
  refine ⟨_, _, _, value.hour, value.minute, valid, ?_, ?_, rfl, ?_⟩
  · simp only [DateTime.hour, microsPerDay_eq, microsPerHour_eq]
    omega
  · simp only [DateTime.minute, microsPerHour_eq, microsPerMinute_eq]
    omega
  · rw [InRange] at range
    rw [minuteStart, ordinal, DateTime.hour, DateTime.minute]
    simp only [microsPerDay_eq, microsPerHour_eq, microsPerMinute_eq]
    omega

theorem toKst_of_inRange (read : readTs value = some parsed)
    (range : InRange (instant parsed))
    (local_ : InRange (instant parsed + kst.shift)) :
    ∃ text, toKst room value = .ok text ∧
      ShowsKstMinute (instant parsed + kst.shift) text := by
  obtain ⟨converted, returned, -, wall⟩ :=
    parsePipelineTs_of_inRange room read range
  refine ⟨kstText ⟨instant parsed + kst.shift, some kst, local_⟩, ?_,
    kstText_shows _⟩
  simp [toKst, toUtc, returned, DateTime.astimezone, wall, Zone.utc, range,
    local_]

theorem toKst_of_overflow (read : readTs value = some parsed)
    (overflow : ¬ (InRange (instant parsed) ∧
      InRange (instant parsed + kst.shift))) :
    toKst room value = .error dateOverflow := by
  by_cases range : InRange (instant parsed)
  · obtain ⟨converted, returned, -, wall⟩ :=
      parsePipelineTs_of_inRange room read range
    have local_ : ¬ InRange (instant parsed + kst.shift) := by
      intro shifted
      exact overflow ⟨range, shifted⟩
    simp [toKst, toUtc, returned, DateTime.astimezone, wall, Zone.utc, local_]
  · simp [toKst, toUtc, parsePipelineTs_of_overflow room read range]

theorem toKst_ok_iff :
    (∃ text, toKst room value = .ok text) ↔
      ∃ moment, Denotes value moment ∧ InRange (moment + kst.shift) := by
  constructor
  · intro returned
    obtain ⟨text, returned⟩ := returned
    cases read : readTs value with
    | none =>
        simp [toKst, toUtc, parsePipelineTs, read] at returned
    | some parsed =>
        by_cases range : InRange (instant parsed) ∧
            InRange (instant parsed + kst.shift)
        · exact ⟨_, ⟨parsed, read, rfl, range.1⟩, range.2⟩
        · rw [toKst_of_overflow room read range] at returned
          cases returned
  · intro shown
    obtain ⟨moment, ⟨parsed, read, rfl, range⟩, local_⟩ := shown
    obtain ⟨text, returned, -⟩ := toKst_of_inRange room read range local_
    exact ⟨text, returned⟩

/-- The conversions keep the instant exactly when the calendar has a date for
it, in UTC and in Korea. -/
theorem convertsInstant_iff (read : readTs value = some parsed) :
    ConvertsInstant room value (instant parsed) ↔
      InRange (instant parsed) ∧ InRange (instant parsed + kst.shift) := by
  rw [ConvertsInstant]
  by_cases range : InRange (instant parsed) ∧
      InRange (instant parsed + kst.shift)
  · obtain ⟨converted, returned, denotes⟩ :=
      parsePipelineTs_of_inRange room read range.1
    obtain ⟨text, shown, shows⟩ := toKst_of_inRange room read range.1 range.2
    rw [returned, shown]
    exact iff_of_true ⟨denotes, shows⟩ range
  · rw [toKst_of_overflow room read range]
    refine iff_of_false ?_ range
    intro converts
    exact absurd converts.2 (by simp [IsValueError, dateOverflow])

end Instants

/-- Three minutes past midnight in Korea. -/
def afterMidnight : DateTime := ⟨63907056180000000, some kst, by decide⟩

theorem afterMidnight_converts :
    ConvertsInstant 0 (.str "2026-02-19T00:03:00+09:00")
        (instant afterMidnight) ↔
      InRange (instant afterMidnight) ∧
        InRange (instant afterMidnight + kst.shift) :=
  convertsInstant_iff 0 (by decide +kernel)

/-- The last second of the calendar has no date in Korea. -/
theorem lastSecond_overflows :
    ∃ parsed, readTs (.str "9999-12-31T23:59:59Z") = some parsed ∧
      ∀ room, ¬ ConvertsInstant room (.str "9999-12-31T23:59:59Z")
        (instant parsed) := by
  have read : readTs (.str "9999-12-31T23:59:59Z") =
      some ⟨315537897599000000, some .utc, by decide⟩ := by
    decide +kernel
  refine ⟨_, read, ?_⟩
  intro room converts
  have raised : toKst room (.str "9999-12-31T23:59:59Z") =
      .error dateOverflow :=
    toKst_of_overflow room read (by decide)
  have allowed := converts.2
  rw [raised] at allowed
  cases allowed

end PipelineOps.Orchestrator
