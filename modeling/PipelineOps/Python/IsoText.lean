import Mathlib.Data.List.GetD
import PipelineOps.Python.Calendar
import PipelineOps.Python.Digits

namespace PipelineOps.Python

/-! `datetime.isoformat` and `datetime.fromisoformat`: what is written is read
back. -/

section Clock

def fractionChars (microsecond : Nat) : List Char :=
  if microsecond = 0 then [] else '.' :: lastDigits 6 microsecond

/-- Hours and minutes, and the text behind them. -/
def clockChars (hour minute : Nat) (behind : List Char) : List Char :=
  lastDigits 2 hour ++ ':' :: (lastDigits 2 minute ++ behind)

def secondChars (second microsecond : Nat) : List Char :=
  ':' :: (lastDigits 2 second ++ fractionChars microsecond)

theorem two_lastDigits (number : Nat) :
    ∃ tens units, lastDigits 2 number = [tens, units] ∧
      isAsciiDigit tens = true ∧ isAsciiDigit units = true := by
  refine ⟨_, _, rfl, ?_, ?_⟩
  · exact isAsciiDigit_digitChar (by omega)
  · exact isAsciiDigit_digitChar (by omega)

theorem parseDigits_two {number : Nat} (small : number < 100)
    {tens units : Char} (digits : lastDigits 2 number = [tens, units])
    (rest : List Char) :
    parseDigits 2 (tens :: units :: rest) = some number := by
  have read := @parseDigits_lastDigits 2 number (by omega) rest
  rwa [digits] at read

theorem parseClock_minutes {hour minute : Nat} (hours : hour < 100)
    (minutes : minute < 100) (behind : List Char) :
    parseClock (clockChars hour minute behind) 5 =
      some ⟨hour, minute, 0, 0, charAt behind 0 ≠ '\x00'⟩ := by
  obtain ⟨a, b, hourDigits, -, -⟩ := two_lastDigits hour
  obtain ⟨c, d, minuteDigits, -, -⟩ := two_lastDigits minute
  have hourRead := parseDigits_two hours hourDigits
  have minuteRead := parseDigits_two minutes minuteDigits
  simp [parseClock, clockChars, hourDigits, minuteDigits, hourRead, minuteRead,
    charAt]

theorem parseClock_seconds {hour minute second : Nat} (hours : hour < 100)
    (minutes : minute < 100) (seconds : second < 100) (behind : List Char) :
    parseClock (clockChars hour minute (':' :: (lastDigits 2 second ++ behind)))
        8 =
      some ⟨hour, minute, second, 0, charAt behind 0 ≠ '\x00'⟩ := by
  obtain ⟨a, b, hourDigits, -, -⟩ := two_lastDigits hour
  obtain ⟨c, d, minuteDigits, -, -⟩ := two_lastDigits minute
  obtain ⟨e, f, secondDigits, -, -⟩ := two_lastDigits second
  have hourRead := parseDigits_two hours hourDigits
  have minuteRead := parseDigits_two minutes minuteDigits
  have secondRead := parseDigits_two seconds secondDigits
  simp [parseClock, clockChars, hourDigits, minuteDigits, secondDigits,
    hourRead, minuteRead, secondRead, charAt]

theorem parseFraction_six {hour minute second microsecond : Nat}
    (micros : microsecond < 1000000) {behind : List Char}
    (ends : EndsDigits behind) :
    parseFraction hour minute second (lastDigits 6 microsecond ++ behind) 6 =
      some ⟨hour, minute, second, microsecond, charAt behind 0 ≠ '\x00'⟩ := by
  have read := @parseDigits_lastDigits 6 microsecond (by omega) behind
  have dropped : (lastDigits 6 microsecond ++ behind).drop 6 = behind := by
    rw [List.drop_append_of_le_length
        (Nat.le_of_eq (length_lastDigits 6 microsecond).symm),
      List.drop_of_length_le (Nat.le_of_eq (length_lastDigits 6 microsecond)),
      List.nil_append]
  have kept : behind.dropWhile isAsciiDigit = behind := by
    cases behind with
    | nil => rfl
    | cons character rest =>
        rw [List.dropWhile_cons_of_neg]
        rw [ends character rfl]
        exact Bool.false_ne_true
  simp [parseFraction, read, dropped, kept, fractionScale]

theorem parseClock_fraction {hour minute second microsecond : Nat}
    (hours : hour < 100) (minutes : minute < 100) (seconds : second < 100)
    (micros : microsecond < 1000000) {behind : List Char}
    (ends : EndsDigits behind) :
    parseClock (clockChars hour minute (':' :: (lastDigits 2 second ++
        '.' :: (lastDigits 6 microsecond ++ behind)))) 15 =
      some ⟨hour, minute, second, microsecond, charAt behind 0 ≠ '\x00'⟩ := by
  obtain ⟨a, b, hourDigits, -, -⟩ := two_lastDigits hour
  obtain ⟨c, d, minuteDigits, -, -⟩ := two_lastDigits minute
  obtain ⟨e, f, secondDigits, -, -⟩ := two_lastDigits second
  have hourRead := parseDigits_two hours hourDigits
  have minuteRead := parseDigits_two minutes minuteDigits
  have secondRead := parseDigits_two seconds secondDigits
  have fraction := @parseFraction_six hour minute second _ micros _ ends
  simp [parseClock, clockChars, hourDigits, minuteDigits, secondDigits,
    hourRead, minuteRead, secondRead, charAt, fraction]

/-- The length of the text up to the seconds or their fraction. -/
theorem parseClock_secondChars {hour minute second microsecond : Nat}
    (hours : hour < 100) (minutes : minute < 100) (seconds : second < 100)
    (micros : microsecond < 1000000) {behind : List Char}
    (ends : EndsDigits behind) :
    parseClock (clockChars hour minute
          (secondChars second microsecond ++ behind))
        (clockChars hour minute (secondChars second microsecond)).length =
      some ⟨hour, minute, second, microsecond, charAt behind 0 ≠ '\x00'⟩ := by
  by_cases whole : microsecond = 0
  · subst whole
    have read := parseClock_seconds hours minutes seconds behind
    simpa [secondChars, fractionChars, clockChars, length_lastDigits] using read
  · have read := parseClock_fraction hours minutes seconds micros ends
    simpa [secondChars, fractionChars, whole, clockChars, length_lastDigits]
      using read

end Clock

section Offset

/-- What the suffix of a zone is read as. -/
def Zone.readBack (zone : Zone) : Zone :=
  if zone.shift.natAbs < 1000000 then .utc else zone

/-- The digits of an offset's amount. -/
def offsetChars (micros : Nat) : List Char :=
  let seconds := micros / 1000000
  clockChars (seconds / 3600) (seconds / 60 % 60)
    (if seconds % 60 = 0 ∧ micros % 1000000 = 0 then []
      else secondChars (seconds % 60) (micros % 1000000))

def zoneSign (zone : Zone) : Char := if zone.shift < 0 then '-' else '+'

theorem zoneSign_cases (zone : Zone) :
    zoneSign zone = '+' ∨ zoneSign zone = '-' := by
  rw [zoneSign]
  split
  · exact .inr rfl
  · exact .inl rfl

theorem toList_two {number : Nat} (small : number < 100) :
    (padded 2 number).toList = lastDigits 2 number :=
  toList_padded (by omega) (by omega)

theorem zone_amount (zone : Zone) : zone.shift.natAbs < 86400000000 := by
  have range := zone.range
  rw [microsPerDay_eq] at range
  omega

theorem toList_zoneText (zone : Zone) :
    (zoneText zone).toList =
      zoneSign zone :: offsetChars zone.shift.natAbs := by
  have bound := zone_amount zone
  rw [zoneText, offsetChars, zoneSign]
  generalize zone.shift.natAbs = micros at bound
  have hours := toList_two (show micros / 1000000 / 3600 < 100 by omega)
  have minutes := toList_two (show micros / 1000000 / 60 % 60 < 100 by omega)
  have seconds := toList_two (show micros / 1000000 % 60 < 100 by omega)
  have fraction : (padded 6 (micros % 1000000)).toList =
      lastDigits 6 (micros % 1000000) := toList_padded (by omega) (by omega)
  by_cases whole : micros % 1000000 = 0
  · by_cases even : micros / 1000000 % 60 = 0
    · by_cases negative : zone.shift < 0 <;>
        simp [whole, even, negative, hours, minutes, clockChars]
    · by_cases negative : zone.shift < 0 <;>
        simp [whole, even, negative, hours, minutes, seconds, clockChars,
          secondChars, fractionChars]
  · by_cases negative : zone.shift < 0 <;>
      simp [whole, negative, hours, minutes, seconds, fraction, clockChars,
        secondChars, fractionChars]

/-- The reading of an offset's amount. -/
def offsetReading (micros : Nat) : ClockReading :=
  let seconds := micros / 1000000
  ⟨seconds / 3600, seconds / 60 % 60, seconds % 60, micros % 1000000, false⟩

theorem parseClock_offsetChars {micros : Nat} (bound : micros < 86400000000) :
    parseClock (offsetChars micros) (offsetChars micros).length =
      some (offsetReading micros) := by
  have hours : micros / 1000000 / 3600 < 100 := by omega
  have minutes : micros / 1000000 / 60 % 60 < 100 := by omega
  have seconds : micros / 1000000 % 60 < 100 := by omega
  rw [offsetChars, offsetReading]
  by_cases plain : micros / 1000000 % 60 = 0 ∧ micros % 1000000 = 0
  · have read := parseClock_minutes hours minutes []
    simpa [plain, clockChars, length_lastDigits, charAt] using read
  · have read := parseClock_secondChars hours minutes seconds
      (show micros % 1000000 < 1000000 by omega) endsDigits_nil
    rw [List.append_nil] at read
    simpa [plain, charAt] using read

theorem micros_offsetReading (micros : Nat) :
    (offsetReading micros).micros = micros := by
  rw [ClockReading.micros, microsPerHour_eq, microsPerMinute_eq]
  change ((micros / 1000000 / 3600 : Nat) : Int) * 3600000000 +
    (micros / 1000000 / 60 % 60 : Nat) * 60000000 +
      (micros / 1000000 % 60 : Nat) * 1000000 + (micros % 1000000 : Nat) =
        micros
  omega

/-- The offset that the suffix of a zone is read as: less than a second is
none. -/
theorem ofShift?_offsetReading (zone : Zone) :
    Zone.ofShift? (zoneOffset (zoneSign zone = '-')
      (offsetReading zone.shift.natAbs)) = some zone.readBack := by
  have bound := zone_amount zone
  have range := zone.range
  have offset : zoneOffset (zoneSign zone = '-')
      (offsetReading zone.shift.natAbs) = zone.readBack.shift := by
    by_cases small : zone.shift.natAbs < 1000000
    · have none_left : zone.shift.natAbs / 1000000 = 0 := by omega
      rw [Zone.readBack, if_pos small]
      simp [zoneOffset, offsetReading, none_left, Zone.utc]
    · have seconds : ¬ (zone.shift.natAbs / 1000000 / 3600 * 3600 +
          zone.shift.natAbs / 1000000 / 60 % 60 * 60 +
            zone.shift.natAbs / 1000000 % 60 = 0) := by omega
      rw [Zone.readBack, if_neg small]
      rw [zoneOffset, micros_offsetReading, offsetReading, if_neg seconds,
        zoneSign]
      by_cases negative : zone.shift < 0
      · simp only [if_pos negative, decide_true, if_true]
        omega
      · have plus : ('+' = '-') = False := by decide
        simp only [if_neg negative, plus, decide_false, Bool.false_eq_true,
          if_false]
        omega
  rw [offset, Zone.ofShift?, dif_pos zone.readBack.range]

end Offset

section Text

namespace DateTime

variable (value : DateTime)

def dateChars : List Char :=
  let (year, month, day) := value.date
  lastDigits 4 year ++ '-' :: (lastDigits 2 month ++ '-' :: lastDigits 2 day)

def timeChars : List Char :=
  clockChars value.hour value.minute
    (secondChars value.second value.microsecond)

def zoneChars : List Char :=
  match value.zone with
  | none => []
  | some zone => zoneSign zone :: offsetChars zone.shift.natAbs

theorem dateChars_begin :
    ∃ digit rest, value.dateChars = digit :: rest ∧
      isAsciiDigit digit = true :=
  ⟨_, _, rfl, isAsciiDigit_digitChar (by omega)⟩

theorem clock_bounds :
    value.hour < 24 ∧ value.minute < 60 ∧ value.second < 60 ∧
      value.microsecond < 1000000 := by
  have range := value.range
  rw [InRange] at range
  simp only [hour, minute, second, microsecond, microsPerDay_eq,
    microsPerHour_eq, microsPerMinute_eq, microsPerSecond]
  omega

theorem clock_wall :
    (value.wall / microsPerDay) * microsPerDay +
        ClockReading.micros ⟨value.hour, value.minute, value.second,
          value.microsecond, false⟩ = value.wall := by
  have range := value.range
  rw [InRange] at range
  simp only [ClockReading.micros, hour, minute, second, microsecond,
    microsPerDay_eq, microsPerHour_eq, microsPerMinute_eq, microsPerSecond]
  omega

theorem toList_toText :
    value.toText.toList =
      value.dateChars ++ ' ' :: (value.timeChars ++ value.zoneChars) := by
  obtain ⟨hours, minutes, seconds, micros⟩ := value.clock_bounds
  obtain ⟨years, months, days⟩ := (date_dayOf value).bounds
  have hour := toList_two (show value.hour < 100 by omega)
  have minute := toList_two (show value.minute < 100 by omega)
  have second := toList_two (show value.second < 100 by omega)
  have fraction : (padded 6 value.microsecond).toList =
      lastDigits 6 value.microsecond := toList_padded (by omega) (by omega)
  have year : (padded 4 value.date.1).toList = lastDigits 4 value.date.1 :=
    toList_padded (by omega) (by omega)
  have month := toList_two (show value.date.2.1 < 100 by omega)
  have day := toList_two (show value.date.2.2 < 100 by omega)
  rw [toText, dateChars, timeChars, zoneChars]
  dsimp only
  simp only [String.toList_append, year, month, day, hour, minute, second,
    clockChars, secondChars, fractionChars]
  by_cases whole : value.microsecond = 0
  · cases value.zone with
    | none => simp [whole]
    | some zone => simp [whole, toList_zoneText]
  · cases value.zone with
    | none => simp [whole, fraction]
    | some zone => simp [whole, fraction, toList_zoneText]

/-- A datetime as its ISO text is read. -/
def readBack : DateTime :=
  ⟨value.wall, value.zone.map Zone.readBack, value.range⟩

end DateTime

/-- A digit, a colon or a point. -/
def IsClockChar (character : Char) : Prop :=
  isAsciiDigit character = true ∨ character = ':' ∨ character = '.'

theorem isClockChar_of_mem_lastDigits {width number : Nat} {digit : Char}
    (member : digit ∈ lastDigits width number) : IsClockChar digit :=
  .inl (isAsciiDigit_of_mem_lastDigits member)

theorem isClockChar_of_mem_clockChars {hour minute : Nat} {behind : List Char}
    (tail : ∀ character ∈ behind, IsClockChar character) {character : Char}
    (member : character ∈ clockChars hour minute behind) :
    IsClockChar character := by
  rw [clockChars, List.mem_append, List.mem_cons, List.mem_append] at member
  rcases member with digit | rfl | digit | further
  · exact isClockChar_of_mem_lastDigits digit
  · exact .inr (.inl rfl)
  · exact isClockChar_of_mem_lastDigits digit
  · exact tail character further

theorem isClockChar_of_mem_secondChars {second microsecond : Nat}
    {character : Char} (member : character ∈ secondChars second microsecond) :
    IsClockChar character := by
  rw [secondChars, List.mem_cons, List.mem_append, fractionChars] at member
  rcases member with rfl | digit | further
  · exact .inr (.inl rfl)
  · exact isClockChar_of_mem_lastDigits digit
  · split at further
    · cases further
    · rcases List.mem_cons.mp further with rfl | digit
      · exact .inr (.inr rfl)
      · exact isClockChar_of_mem_lastDigits digit

theorem IsClockChar.ne {character other : Char}
    (clock : IsClockChar character)
    (foreign : other ∈ [' ', '+', '-', 'Z', '\x00']) : character ≠ other := by
  simp only [List.mem_cons, List.not_mem_nil, or_false] at foreign
  intro same
  subst same
  rcases clock with digit | same | same
  · rcases foreign with rfl | rfl | rfl | rfl | rfl <;> cases digit
  · rcases foreign with rfl | rfl | rfl | rfl | rfl <;> cases same
  · rcases foreign with rfl | rfl | rfl | rfl | rfl <;> cases same

theorem IsClockChar.ascii {character : Char} (clock : IsClockChar character) :
    character.toNat < 128 := by
  rcases clock with digit | rfl | rfl
  · exact lt_of_isAsciiDigit digit
  · decide
  · decide

theorem isClockChar_of_mem_offsetChars {micros : Nat} {character : Char}
    (member : character ∈ offsetChars micros) : IsClockChar character := by
  refine isClockChar_of_mem_clockChars ?_ member
  intro other within
  split at within
  · cases within
  · exact isClockChar_of_mem_secondChars within

theorem isClockChar_of_mem_timeChars (value : DateTime) {character : Char}
    (member : character ∈ value.timeChars) : IsClockChar character :=
  isClockChar_of_mem_clockChars
    (fun _ within => isClockChar_of_mem_secondChars within) member

theorem mem_dateChars (value : DateTime) {character : Char}
    (member : character ∈ value.dateChars) :
    isAsciiDigit character = true ∨ character = '-' := by
  rw [DateTime.dateChars] at member
  simp only [List.mem_append, List.mem_cons] at member
  rcases member with digit | rfl | digit | rfl | digit
  · exact .inl (isAsciiDigit_of_mem_lastDigits digit)
  · exact .inr rfl
  · exact .inl (isAsciiDigit_of_mem_lastDigits digit)
  · exact .inr rfl
  · exact .inl (isAsciiDigit_of_mem_lastDigits digit)

theorem map_replace_eq_self {old new : Char} {characters : List Char}
    (absent : old ∉ characters) :
    characters.map (fun character => if character = old then new
      else character) = characters := by
  have same : ∀ character ∈ characters,
      (if character = old then new else character) = id character := by
    intro character member
    apply if_neg
    rintro rfl
    exact absent member
  rw [List.map_congr_left same, List.map_id]

theorem toList_isoFormat (value : DateTime) :
    value.isoFormat.toList =
      value.dateChars ++ 'T' :: (value.timeChars ++ value.zoneChars) := by
  have date : ' ' ∉ value.dateChars := by
    intro blank
    rcases mem_dateChars value blank with digit | same
    · cases digit
    · cases same
  have time : ' ' ∉ value.timeChars := fun blank =>
    (isClockChar_of_mem_timeChars value blank).ne (by simp) rfl
  have zone : ' ' ∉ value.zoneChars := by
    intro blank
    rw [DateTime.zoneChars] at blank
    cases suffix : value.zone with
    | none => simp [suffix] at blank
    | some zone =>
        simp only [suffix, List.mem_cons] at blank
        rcases blank with sign | further
        · rcases zoneSign_cases zone with plus | minus
          · rw [plus] at sign
            cases sign
          · rw [minus] at sign
            cases sign
        · exact (isClockChar_of_mem_offsetChars further).ne (by simp) rfl
  rw [DateTime.isoFormat, replaceChar, String.toList_ofList,
    value.toList_toText, List.map_append, List.map_cons, List.map_append,
    map_replace_eq_self date, map_replace_eq_self time,
    map_replace_eq_self zone]
  rfl

theorem isAscii_isoFormat (value : DateTime) :
    IsAscii value.isoFormat.toList := by
  have time : IsAscii value.timeChars := fun _ member =>
    (isClockChar_of_mem_timeChars value member).ascii
  have zone : IsAscii value.zoneChars := by
    rw [DateTime.zoneChars]
    cases value.zone with
    | none => exact isAscii_nil
    | some zone =>
        refine isAscii_cons.mpr ⟨?_, fun _ member =>
          (isClockChar_of_mem_offsetChars member).ascii⟩
        rcases zoneSign_cases zone with sign | sign <;> rw [sign] <;> decide
  rw [toList_isoFormat]
  refine isAscii_append.mpr ⟨?_, isAscii_cons.mpr
    ⟨by decide, isAscii_append.mpr ⟨time, zone⟩⟩⟩
  intro character member
  rcases mem_dateChars value member with digit | rfl
  · exact lt_of_isAsciiDigit digit
  · decide

end Text

section Reading

variable (value : DateTime)

theorem endsDigits_zoneChars : EndsDigits value.zoneChars := by
  rw [DateTime.zoneChars, EndsDigits]
  cases value.zone with
  | none => simp
  | some zone =>
      rcases zoneSign_cases zone with sign | sign <;> simp [sign, isAsciiDigit]

theorem takeWhile_timeChars :
    (value.timeChars ++ value.zoneChars).takeWhile (fun character =>
      character ≠ '+' ∧ character ≠ '-' ∧ character ≠ 'Z') =
        value.timeChars := by
  have clock : ∀ character ∈ value.timeChars, decide (character ≠ '+' ∧
      character ≠ '-' ∧ character ≠ 'Z') = true := by
    intro character member
    have clock := isClockChar_of_mem_timeChars value member
    exact decide_eq_true ⟨clock.ne (by simp), clock.ne (by simp),
      clock.ne (by simp)⟩
  rw [List.takeWhile_append_of_pos clock, DateTime.zoneChars]
  cases value.zone with
  | none => simp
  | some zone =>
      rcases zoneSign_cases zone with sign | sign <;> simp [sign]

/-- The time of day and the zone are read back. -/
theorem parseIsoTime_chars :
    parseIsoTime (value.timeChars ++ value.zoneChars) =
      some (⟨value.hour, value.minute, value.second, value.microsecond,
        value.zone.isSome⟩, value.zone.map Zone.readBack) := by
  obtain ⟨hours, minutes, seconds, micros⟩ := value.clock_bounds
  have clock := @parseClock_secondChars value.hour value.minute value.second
    value.microsecond (by omega) (by omega) (by omega) micros _
    (endsDigits_zoneChars value)
  have whole : clockChars value.hour value.minute
      (secondChars value.second value.microsecond ++ value.zoneChars) =
        value.timeChars ++ value.zoneChars := by
    simp [DateTime.timeChars, clockChars]
  rw [whole] at clock
  have behind : (value.timeChars ++ value.zoneChars).drop
      value.timeChars.length = value.zoneChars := List.drop_left
  have length : value.timeChars.length = (clockChars value.hour value.minute
    (secondChars value.second value.microsecond)).length := rfl
  rw [← length] at clock
  simp only [parseIsoTime, takeWhile_timeChars, clock, behind]
  cases suffix : value.zone with
  | none =>
      simp [DateTime.zoneChars, suffix, charAt]
  | some zone =>
      have amount := parseClock_offsetChars (zone_amount zone)
      have offset := ofShift?_offsetReading zone
      have kept : (offsetReading zone.shift.natAbs).leftover = false := rfl
      rcases zoneSign_cases zone with sign | sign
      · rw [sign] at offset
        change Zone.ofShift? (zoneOffset false _) = _ at offset
        simp [DateTime.zoneChars, suffix, sign, amount, kept, offset, charAt]
      · rw [sign] at offset
        change Zone.ofShift? (zoneOffset true _) = _ at offset
        simp [DateTime.zoneChars, suffix, sign, amount, kept, offset, charAt]

/-- The date is read back, in front of any text. -/
theorem parseIsoDate_dateChars (behind : List Char) :
    isoSeparatorIndex (value.dateChars ++ 'T' :: behind) = 10 ∧
      parseIsoDate (value.dateChars ++ 'T' :: behind) 10 =
        some (value.wall / microsPerDay + 1) := by
  have dayOf := date_dayOf value
  obtain ⟨years, months, days⟩ := dayOf.bounds
  have range := value.range
  rw [InRange] at range
  rw [DateTime.dateChars]
  generalize value.date = date at dayOf years months days
  obtain ⟨year, month, day⟩ := date
  obtain ⟨valid, ordinal⟩ := dayOf
  dsimp only at years months days ⊢
  obtain ⟨first, second, third, fourth, yearDigits⟩ :
      ∃ first second third fourth,
        lastDigits 4 year = [first, second, third, fourth] :=
    ⟨_, _, _, _, rfl⟩
  obtain ⟨a, b, monthDigits, digit, -⟩ := two_lastDigits month
  obtain ⟨c, d, dayDigits, -, -⟩ := two_lastDigits day
  have yearRead := @parseDigits_lastDigits 4 year (by omega)
    ('-' :: a :: b :: '-' :: c :: d :: 'T' :: behind)
  have monthRead := parseDigits_two (show month < 100 by omega) monthDigits
  have dayRead := parseDigits_two (show day < 100 by omega) dayDigits
  have plain : a ≠ 'W' := by
    rintro rfl
    cases digit
  rw [yearDigits] at yearRead
  simp only [List.cons_append, List.nil_append] at yearRead
  have days : (toOrdinal year month day : Int) =
      value.wall / microsPerDay + 1 := by
    rw [microsPerDay_eq] at ordinal ⊢
    omega
  rw [yearDigits, monthDigits, dayDigits]
  constructor
  · simp [isoSeparatorIndex, charAt, plain]
  · simp [parseIsoDate, charAt, plain, yearRead, monthRead, dayRead, valid,
      days]

/-- What `isoformat` writes, `fromisoformat` reads back, except for offsets of
less than a second. -/
theorem fromIsoFormat_isoFormat :
    fromIsoFormat value.isoFormat = some value.readBack := by
  obtain ⟨separator, date⟩ :=
    parseIsoDate_dateChars value (value.timeChars ++ value.zoneChars)
  have length : value.dateChars.length = 10 := by
    simp [DateTime.dateChars, length_lastDigits]
  have time : (value.dateChars ++ 'T' :: (value.timeChars ++
      value.zoneChars)).drop 11 = value.timeChars ++ value.zoneChars := by
    rw [← List.singleton_append, ← List.append_assoc]
    apply List.drop_left'
    rw [List.length_append, length]
    rfl
  obtain ⟨hours, minutes, seconds, micros⟩ := value.clock_bounds
  have clock : (⟨value.hour, value.minute, value.second, value.microsecond,
      value.zone.isSome⟩ : ClockReading).Valid :=
    ⟨hours, minutes, seconds, micros⟩
  have wall : (value.wall / microsPerDay + 1 - 1) * microsPerDay +
      ClockReading.micros ⟨value.hour, value.minute, value.second,
        value.microsecond, value.zone.isSome⟩ = value.wall := by
    rw [Int.add_sub_cancel]
    exact value.clock_wall
  have read := parseIsoTime_chars value
  have bytes := byteChars_of_isAscii (isAscii_isoFormat value)
  have width : separatorWidth (charAt (value.dateChars ++ 'T' ::
      (value.timeChars ++ value.zoneChars)) 10) = 1 := by
    rw [charAt, List.getD_append_right _ _ _ _ (Nat.le_of_eq length), length]
    rfl
  obtain ⟨head, tail, cons⟩ : ∃ head tail,
      value.timeChars ++ value.zoneChars = head :: tail := ⟨_, _, rfl⟩
  have long : ¬ (value.dateChars ++ 'T' :: (value.timeChars ++
      value.zoneChars)).length < 7 := by
    rw [List.length_append]
    omega
  rw [toList_isoFormat] at bytes
  rw [cons] at separator date time long read bytes width
  simp only [fromIsoFormat, toList_isoFormat, cons, long, if_false, bytes,
    separator, date, width, time]
  change (parseIsoTime (head :: tail)).bind _ = _
  rw [read]
  simp only [Option.bind_some, combine, wall]
  rw [dif_pos ⟨clock, value.range⟩]
  rfl

end Reading

end PipelineOps.Python
