import PipelineOps.Python.Text

namespace PipelineOps.Python

/-! The `datetime` module: the proleptic Gregorian calendar and the ISO 8601
reader of CPython 3.11. Wall-clock times are microseconds since the midnight
that starts the year 1. -/

def isLeap (year : Nat) : Bool :=
  year % 4 == 0 && (year % 100 != 0 || year % 400 == 0)

def daysInMonth (year month : Nat) : Nat :=
  if month = 2 then
    if isLeap year then 29 else 28
  else if month = 4 ∨ month = 6 ∨ month = 9 ∨ month = 11 then 30
  else 31

def daysBeforeYear (year : Nat) : Nat :=
  (year - 1) * 365 + (year - 1) / 4 - (year - 1) / 100 + (year - 1) / 400

def daysBeforeMonth (year : Nat) : (month : Nat) → Nat
  | 0 => 0
  | 1 => 0
  | month + 1 => daysBeforeMonth year month + daysInMonth year month

/-- `date.toordinal`: the first of January of the year 1 has ordinal 1. -/
def toOrdinal (year month day : Nat) : Nat :=
  daysBeforeYear year + daysBeforeMonth year month + day

def ValidDate (year month day : Nat) : Prop :=
  1 ≤ year ∧ year ≤ 9999 ∧ 1 ≤ month ∧ month ≤ 12 ∧ 1 ≤ day ∧
    day ≤ daysInMonth year month

instance (year month day : Nat) : Decidable (ValidDate year month day) :=
  inferInstanceAs (Decidable (_ ∧ _))

def microsPerSecond : Int := 1000000
def microsPerMinute : Int := 60 * microsPerSecond
def microsPerHour : Int := 60 * microsPerMinute
def microsPerDay : Int := 24 * microsPerHour

def wallLimit : Int := 3652059 * microsPerDay

def InRange (wall : Int) : Prop := 0 ≤ wall ∧ wall < wallLimit

instance (wall : Int) : Decidable (InRange wall) :=
  inferInstanceAs (Decidable (_ ∧ _))

/-- A `timezone` with a fixed offset, strictly within a day. -/
structure Zone where
  shift : Int
  range : -microsPerDay < shift ∧ shift < microsPerDay
  deriving DecidableEq

def Zone.utc : Zone := ⟨0, by decide⟩

def Zone.ofShift? (shift : Int) : Option Zone :=
  if range : -microsPerDay < shift ∧ shift < microsPerDay then
    some ⟨shift, range⟩
  else none

/-- A `datetime`: its wall clock, and its zone unless it is naive. -/
structure DateTime where
  wall : Int
  zone : Option Zone
  range : InRange wall
  deriving DecidableEq

def DateTime.replaceZone (value : DateTime) (zone : Zone) : DateTime :=
  ⟨value.wall, some zone, value.range⟩

/-- `astimezone` of a value on the wall clock of `source`; `none` is the
`OverflowError` of a date outside the years 1 to 9999. -/
def DateTime.astimezone (value : DateTime) (source target : Zone) :
    Option DateTime :=
  if range : InRange (value.wall - source.shift) ∧
      InRange (value.wall - source.shift + target.shift) then
    some ⟨value.wall - source.shift + target.shift, some target, range.2⟩
  else none

section FromIsoFormat

/-! The reader goes over the bytes of the UTF-8 form, here characters below
256. It keeps the C code's habit of looking at the byte behind the part it was
given; behind the end of the text that byte is NUL. -/

def charAt (characters : List Char) (index : Nat) : Char :=
  characters.getD index '\x00'

def parseDigits (count : Nat) (characters : List Char) : Option Nat :=
  let digits := characters.take count
  if digits.length = count ∧ digits.all isAsciiDigit then
    some (digits.foldl (fun total digit => 10 * total + digitValue digit) 0)
  else
    none

/-- `_find_isoformat_datetime_separator`. -/
def isoSeparatorIndex (characters : List Char) : Nat :=
  let length := characters.length
  if length = 7 then 7
  else if charAt characters 4 = '-' then
    if charAt characters 5 = 'W' then
      if length > 8 ∧ charAt characters 8 = '-' then
        if length > 10 ∧ isAsciiDigit (charAt characters 10) then 8 else 10
      else 8
    else 10
  else if charAt characters 4 = 'W' then
    let index := 7 + ((characters.drop 7).takeWhile isAsciiDigit).length
    if index < 9 then index
    else if index % 2 = 0 then 7
    else 8
  else 8

/-- A year has an ISO week 53 when it starts on a Thursday, or is a leap year
that starts on a Wednesday. -/
def hasWeek53 (year : Nat) : Bool :=
  let firstWeekday := (toOrdinal year 1 1 + 6) % 7
  firstWeekday = 3 || (firstWeekday = 2 && isLeap year)

/-- `iso_to_ymd`, up to the ordinal of the day. -/
def isoWeekOrdinal (year week day : Nat) : Option Int :=
  if year < 1 ∨ 9999 < year then none
  else if week < 1 ∨ (52 < week ∧ ¬ (week = 53 ∧ hasWeek53 year)) then none
  else if day < 1 ∨ 7 < day then none
  else
    let firstDay := toOrdinal year 1 1
    let firstWeekday := (firstDay + 6) % 7
    let monday : Int := (firstDay : Int) - firstWeekday +
      (if firstWeekday > 3 then 7 else 0)
    some (monday + ((week - 1) * 7 + (day - 1) : Nat))

/-- `parse_isoformat_date` on the bytes before the separator, with those behind
them still in view: the ordinal of the day. -/
def parseIsoDate (characters : List Char) (length : Nat) : Option Int := do
  let year ← parseDigits 4 characters
  let usesSeparator := charAt characters 4 = '-'
  let position := if usesSeparator then 5 else 4
  if charAt characters position = 'W' then
    let week ← parseDigits 2 (characters.drop (position + 1))
    if position + 3 < length then
      if usesSeparator ∧ charAt characters (position + 3) ≠ '-' then none
      else
        let day ← parseDigits 1 (characters.drop
          (if usesSeparator then position + 4 else position + 3))
        isoWeekOrdinal year week day
    else
      isoWeekOrdinal year week 1
  else
    let month ← parseDigits 2 (characters.drop position)
    if usesSeparator ∧ charAt characters (position + 2) ≠ '-' then none
    else
      let dayPosition := if usesSeparator then position + 3 else position + 2
      let day ← parseDigits 2 (characters.drop dayPosition)
      if dayPosition + 2 = length ∧ ValidDate year month day then
        some (toOrdinal year month day)
      else none

/-- Hours, minutes, seconds and microseconds, with the flag that bytes were left
over. -/
structure ClockReading where
  hour : Nat
  minute : Nat
  second : Nat
  microsecond : Nat
  leftover : Bool

def fractionScale : Nat → Nat
  | 1 => 100000
  | 2 => 10000
  | 3 => 1000
  | 4 => 100
  | 5 => 10
  | _ => 1

def parseFraction (hour minute second : Nat) (characters : List Char)
    (length : Nat) : Option ClockReading := do
  let count := min length 6
  let digits ← parseDigits count characters
  let behind := (characters.drop count).dropWhile isAsciiDigit
  pure ⟨hour, minute, second, digits * fractionScale count,
    charAt behind 0 ≠ '\x00'⟩

/-- `parse_hh_mm_ss_ff`: `length` bytes belong to the part. -/
def parseClock (characters : List Char) (length : Nat) :
    Option ClockReading := do
  let hour ← parseDigits 2 characters
  let afterHour := charAt characters 2
  if length ≤ 3 then pure ⟨hour, 0, 0, 0, afterHour ≠ '\x00'⟩
  else if afterHour = '.' ∨ afterHour = ',' then
    parseFraction hour 0 0 (characters.drop 3) (length - 3)
  else
    let usesSeparator := afterHour = ':'
    let position := if usesSeparator then 3 else 2
    let minute ← parseDigits 2 (characters.drop position)
    let afterMinute := charAt characters (position + 2)
    if length ≤ position + 3 then
      pure ⟨hour, minute, 0, 0, afterMinute ≠ '\x00'⟩
    else if afterMinute = '.' ∨ afterMinute = ',' then
      parseFraction hour minute 0 (characters.drop (position + 3))
        (length - (position + 3))
    else if usesSeparator ∧ afterMinute ≠ ':' then none
    else
      let position := if usesSeparator then 6 else 4
      let second ← parseDigits 2 (characters.drop position)
      let afterSecond := charAt characters (position + 2)
      if length ≤ position + 3 then
        pure ⟨hour, minute, second, 0, afterSecond ≠ '\x00'⟩
      else if afterSecond = '.' ∨ afterSecond = ',' then
        parseFraction hour minute second (characters.drop (position + 3))
          (length - (position + 3))
      else if usesSeparator ∧ afterSecond ≠ ':' then none
      else
        -- behind the seconds the loop ends wherever it stands
        let position := if usesSeparator then position + 3 else position + 2
        parseFraction hour minute second (characters.drop position)
          (length - position)

def ClockReading.micros (reading : ClockReading) : Int :=
  reading.hour * microsPerHour + reading.minute * microsPerMinute +
    reading.second * microsPerSecond + reading.microsecond

/-- The `utcoffset` of a zone suffix: microseconds count only beside a nonzero
number of seconds. -/
def zoneOffset (negative : Bool) (reading : ClockReading) : Int :=
  let seconds := reading.hour * 3600 + reading.minute * 60 + reading.second
  if seconds = 0 then 0
  else if negative then -reading.micros
  else reading.micros

/-- `parse_isoformat_time`: the time of day and the zone, if any. -/
def parseIsoTime (characters : List Char) :
    Option (ClockReading × Option Zone) := do
  let zoneIndex := (characters.takeWhile fun character =>
    character ≠ '+' ∧ character ≠ '-' ∧ character ≠ 'Z').length
  let reading ← parseClock characters zoneIndex
  match characters.drop zoneIndex with
  | [] => if reading.leftover then none else pure (reading, none)
  | 'Z' :: rest =>
      if charAt rest 0 ≠ '\x00' then none else pure (reading, some .utc)
  | sign :: rest =>
      let zone ← parseClock rest rest.length
      if zone.leftover then none
      else
        let offset ← Zone.ofShift? (zoneOffset (sign = '-') zone)
        pure (reading, some offset)

def ClockReading.Valid (reading : ClockReading) : Prop :=
  reading.hour < 24 ∧ reading.minute < 60 ∧ reading.second < 60 ∧
    reading.microsecond < 1000000

instance (reading : ClockReading) : Decidable reading.Valid :=
  inferInstanceAs (Decidable (_ ∧ _))

def combine (ordinal : Int) (reading : ClockReading) (zone : Option Zone) :
    Option DateTime :=
  let wall := (ordinal - 1) * microsPerDay + reading.micros
  if range : reading.Valid ∧ InRange wall then
    some ⟨wall, zone, range.2⟩
  else none

/-- The bytes of the character that separates date and time, by its first. -/
def separatorWidth (first : Char) : Nat :=
  let code := first.toNat
  if code < 0x80 then 1
  else if 0xe0 ≤ code ∧ code < 0xf0 then 3
  else if 0xf0 ≤ code then 4
  else 2

def fromIsoFormat (text : String) : Option DateTime := do
  if text.toList.length < 7 then none
  else
    let characters := byteChars text.toList
    let separator := isoSeparatorIndex characters
    let ordinal ← parseIsoDate characters separator
    match characters.drop
        (separator + separatorWidth (charAt characters separator)) with
    | [] =>
        if characters.length ≤ separator then
          combine ordinal ⟨0, 0, 0, 0, false⟩ none
        else none
    | time =>
        let (reading, zone) ← parseIsoTime time
        combine ordinal reading zone

end FromIsoFormat

section Rendering

/-- `_ord2ymd`: year, month and day of an ordinal. -/
def ofOrdinal (ordinal : Nat) : Nat × Nat × Nat :=
  let days := ordinal - 1
  let n400 := days / 146097
  let days := days % 146097
  let n100 := days / 36524
  let days := days % 36524
  let n4 := days / 1461
  let days := days % 1461
  let n1 := days / 365
  let days := days % 365
  let year := n400 * 400 + n100 * 100 + n4 * 4 + n1 + 1
  if n1 = 4 ∨ n100 = 4 then (year - 1, 12, 31)
  else
    let guess := (days + 50) / 32
    let month := if daysBeforeMonth year guess > days then guess - 1 else guess
    (year, month, days - daysBeforeMonth year month + 1)

def padded (width number : Nat) : String :=
  let digits := toString number
  String.ofList (List.replicate (width - digits.length) '0') ++ digits

/-- `strftime("%Y-%m-%d")`; glibc does not pad the year. -/
def strftimeDate : Nat × Nat × Nat → String
  | (year, month, day) =>
      toString year ++ "-" ++ padded 2 month ++ "-" ++ padded 2 day

namespace DateTime

def date (value : DateTime) : Nat × Nat × Nat :=
  ofOrdinal ((value.wall / microsPerDay).toNat + 1)

def hour (value : DateTime) : Nat :=
  (value.wall % microsPerDay / microsPerHour).toNat

def minute (value : DateTime) : Nat :=
  (value.wall % microsPerHour / microsPerMinute).toNat

def second (value : DateTime) : Nat :=
  (value.wall % microsPerMinute / microsPerSecond).toNat

def microsecond (value : DateTime) : Nat :=
  (value.wall % microsPerSecond).toNat

end DateTime

def zoneText (zone : Zone) : String :=
  let micros := zone.shift.natAbs
  let seconds := micros / 1000000
  (if zone.shift < 0 then "-" else "+") ++ padded 2 (seconds / 3600) ++ ":" ++
    padded 2 (seconds / 60 % 60) ++
    (if seconds % 60 = 0 ∧ micros % 1000000 = 0 then ""
      else ":" ++ padded 2 (seconds % 60)) ++
    (if micros % 1000000 = 0 then "" else "." ++ padded 6 (micros % 1000000))

def DateTime.toText (value : DateTime) : String :=
  let (year, month, day) := value.date
  padded 4 year ++ "-" ++ padded 2 month ++ "-" ++ padded 2 day ++ " " ++
    padded 2 value.hour ++ ":" ++ padded 2 value.minute ++ ":" ++
    padded 2 value.second ++
    (if value.microsecond = 0 then "" else "." ++ padded 6 value.microsecond) ++
    (match value.zone with
    | none => ""
    | some zone => zoneText zone)

/-- `str` separates the date by a blank, `isoformat` by a `T`. -/
def DateTime.isoFormat (value : DateTime) : String :=
  replaceChar ' ' 'T' value.toText

def zoneRepr (zone : Zone) : String :=
  if zone.shift = 0 then "datetime.timezone.utc"
  else
    let days := zone.shift / microsPerDay
    let seconds := zone.shift % microsPerDay / microsPerSecond
    let micros := zone.shift % microsPerSecond
    "datetime.timezone(datetime.timedelta(" ++
      join ", " (
        (if days = 0 then [] else ["days=" ++ toString days]) ++
        (if seconds = 0 then [] else ["seconds=" ++ toString seconds]) ++
        (if micros = 0 then [] else ["microseconds=" ++ toString micros])) ++
      "))"

def DateTime.toRepr (value : DateTime) : String :=
  let (year, month, day) := value.date
  "datetime.datetime(" ++
    join ", " (
      [year, month, day, value.hour, value.minute].map toString ++
      (if value.second = 0 ∧ value.microsecond = 0 then []
        else [toString value.second]) ++
      (if value.microsecond = 0 then [] else [toString value.microsecond]) ++
      (match value.zone with
      | none => []
      | some zone => ["tzinfo=" ++ zoneRepr zone])) ++
    ")"

end Rendering

end PipelineOps.Python
