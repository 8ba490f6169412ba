import PipelineOps.Python.IsoCalendar
import PipelineOps.Tools.LlmClient

namespace PipelineOps.Tools

open PipelineOps.Python

/-! The keys under which the usage of a day is counted. -/

/-- The text is the ISO date that the wall clock shows. -/
def ShowsDate (now : DateTime) (dayKey : String) : Prop :=
  ∃ year month day,
    DayOf ((now.wall / microsPerDay).toNat + 1) (year, month, day) ∧
      dayKey.toList = lastDigits 4 year ++
        '-' :: (lastDigits 2 month ++ '-' :: lastDigits 2 day)

theorem showsDate_todayKstKey (now : DateTime) :
    ShowsDate now (todayKstKey now) := by
  have dayOf := date_dayOf now
  rw [todayKstKey]
  generalize now.date = date at dayOf ⊢
  obtain ⟨year, month, day⟩ := date
  have bounds : year ≤ 9999 ∧ month ≤ 12 ∧ day ≤ 31 := DayOf.bounds dayOf
  have written : (padded 4 year).toList = lastDigits 4 year :=
    toList_padded (by decide) (by omega)
  have monthWritten : (padded 2 month).toList = lastDigits 2 month :=
    toList_padded (by decide) (by omega)
  have dayWritten : (padded 2 day).toList = lastDigits 2 day :=
    toList_padded (by decide) (by omega)
  refine ⟨year, month, day, dayOf, ?_⟩
  simp [isoDate, written, monthWritten, dayWritten]

/-- Two readings have one key exactly when they are on one day. -/
theorem ShowsDate.key_eq_iff {now other : DateTime} {dayKey otherKey : String}
    (shown : ShowsDate now dayKey) (otherShown : ShowsDate other otherKey) :
    dayKey = otherKey ↔
      now.wall / microsPerDay = other.wall / microsPerDay := by
  obtain ⟨year, month, day, dayOf, text⟩ := shown
  obtain ⟨otherYear, otherMonth, otherDay, otherDayOf, otherText⟩ := otherShown
  have started := Int.ediv_nonneg now.range.1 (show 0 ≤ microsPerDay by decide)
  have otherStarted :=
    Int.ediv_nonneg other.range.1 (show 0 ≤ microsPerDay by decide)
  constructor
  · intro same
    subst same
    have parts := text.symm.trans otherText
    obtain ⟨years, parts⟩ := List.append_inj parts
      (by rw [length_lastDigits, length_lastDigits])
    obtain ⟨months, parts⟩ := List.append_inj (List.cons.inj parts).2
      (by rw [length_lastDigits, length_lastDigits])
    have days := (List.cons.inj parts).2
    have bounds : year ≤ 9999 ∧ month ≤ 12 ∧ day ≤ 31 := DayOf.bounds dayOf
    have otherBounds : otherYear ≤ 9999 ∧ otherMonth ≤ 12 ∧ otherDay ≤ 31 :=
      DayOf.bounds otherDayOf
    obtain rfl := (lastDigits_inj (by omega) (by omega)).mp years
    obtain rfl := (lastDigits_inj (by omega) (by omega)).mp months
    obtain rfl := (lastDigits_inj (by omega) (by omega)).mp days
    have ordinals := dayOf.2.symm.trans otherDayOf.2
    omega
  · intro same
    rw [same] at dayOf
    have dates := DayOf.unique dayOf otherDayOf
    simp only [Prod.mk.injEq] at dates
    obtain ⟨rfl, rfl, rfl⟩ := dates
    exact String.toList_inj.mp (text.trans otherText.symm)

end PipelineOps.Tools
