import PipelineOps.Orchestrator.Instants
import PipelineOps.Python.IsoText

namespace PipelineOps.Orchestrator

open PipelineOps.Python

/-! Times of UTC as the program writes them, and that it reads them back. -/

/-- Behind texts without its first character, a text is replaced once. -/
theorem replaceFrom_suffix {first : Char} {old new front : List Char}
    (absent : first ∉ front) :
    replaceFrom (first :: old) new 0 (front ++ first :: old) =
      front ++ new := by
  have skipped : ∀ matched : List Char,
      replaceFrom (first :: old) new matched.length matched = [] := by
    intro matched
    induction matched with
    | nil => rfl
    | cons head rest induction => exact induction
  induction front with
  | nil =>
      have whole : (first :: old).isPrefixOf (first :: old) = true := by
        simp [List.isPrefixOf_iff_prefix]
      rw [List.nil_append, replaceFrom, if_pos whole, List.length_cons,
        Nat.add_sub_cancel, skipped old, List.append_nil, List.nil_append]
  | cons head rest induction =>
      rw [List.mem_cons, not_or] at absent
      have apart : ¬ (first :: old).isPrefixOf
          (head :: (rest ++ first :: old)) = true := by
        rw [List.isPrefixOf_iff_prefix, List.cons_prefix_cons]
        exact fun both => absent.1 both.1
      rw [List.cons_append, replaceFrom, if_neg apart, induction absent.2,
        List.cons_append]

theorem dropSuffix?_append (front suffix : List Char) :
    dropSuffix? (String.ofList suffix) (String.ofList (front ++ suffix)) =
      some (String.ofList front) := by
  rw [dropSuffix?, String.toList_ofList, String.toList_ofList,
    if_pos (List.isSuffixOf_iff_suffix.mpr (List.suffix_append front suffix)),
    List.length_append, Nat.add_sub_cancel, List.take_left]

section Zulu

variable {value : DateTime}

/-- The ISO text of a time of UTC, up to its offset. -/
theorem toList_isoFormat_utc (utc : value.zone = some .utc) :
    ∃ digit front, isAsciiDigit digit = true ∧ '+' ∉ digit :: front ∧
      value.isoFormat.toList = digit :: front ++ "+00:00".toList := by
  have zone : value.zoneChars = "+00:00".toList := by
    rw [DateTime.zoneChars, utc]
    rfl
  obtain ⟨digit, date, begins, isDigit⟩ := value.dateChars_begin
  refine ⟨digit, date ++ 'T' :: value.timeChars, isDigit, ?_, ?_⟩
  · rw [← List.cons_append, ← begins, List.mem_append, List.mem_cons]
    rintro (inDate | same | inTime)
    · rcases mem_dateChars value inDate with digit | same
      · cases digit
      · cases same
    · cases same
    · exact (isClockChar_of_mem_timeChars value inTime).ne (by simp) rfl
  · refine (toList_isoFormat value).trans ?_
    rw [zone, begins]
    simp

theorem normalizedTs_of_zulu {text trimmed : String}
    (zulu : dropSuffix? "Z" (strip text) = some trimmed) :
    normalizedTs text = trimmed ++ "+00:00" := by
  simp only [normalizedTs, zulu]

theorem readTs_zulu (utc : value.zone = some .utc) :
    readTs (.str (replaceText "+00:00" "Z" value.isoFormat)) = some value := by
  obtain ⟨digit, front, isDigit, absent, text⟩ := toList_isoFormat_utc utc
  have replaced : replaceText "+00:00" "Z" value.isoFormat =
      String.ofList (digit :: front ++ ['Z']) := by
    have characters := congrArg (replaceFrom "+00:00".toList "Z".toList 0) text
    exact congrArg String.ofList (characters.trans (replaceFrom_suffix absent))
  have digitStays : isSpace digit = false := by
    obtain ⟨low, high⟩ := isAsciiDigit_iff.mp isDigit
    simp [isSpace]
    omega
  have stripped : strip (String.ofList (digit :: front ++ ['Z'])) =
      String.ofList (digit :: front ++ ['Z']) := by
    have kept := @stripBy_of_ends isSpace digit 'Z' front digitStays (by decide)
    rw [strip, String.toList_ofList, kept]
  have normalized : normalizedTs (String.ofList (digit :: front ++ ['Z'])) =
      value.isoFormat := by
    have zulu : dropSuffix? "Z" (String.ofList (digit :: front ++ ['Z'])) =
        some (String.ofList (digit :: front)) :=
      dropSuffix?_append (digit :: front) ['Z']
    rw [← stripped] at zulu
    have characters : (String.ofList (digit :: front) ++ "+00:00").toList =
        digit :: front ++ "+00:00".toList := by
      rw [String.toList_append, String.toList_ofList]
    rw [normalizedTs_of_zulu zulu]
    exact String.toList_inj.mp (characters.trans text.symm)
  have same : value.readBack = value := by
    obtain ⟨wall, zone, range⟩ := value
    subst utc
    rfl
  rw [replaced]
  delta readTs
  simp only [normalized, fromIsoFormat_isoFormat, same]

/-- `parse_pipeline_ts` on the ISO text of a time of UTC, with a `Z` for its
offset. -/
theorem parsePipelineTs_zulu (room : Nat) (utc : value.zone = some .utc) :
    parsePipelineTs room (.str (replaceText "+00:00" "Z" value.isoFormat)) =
      .ok value := by
  have read := readTs_zulu utc
  have range : InRange (instant value) := by
    rw [instant, utc]
    exact (Int.sub_zero value.wall).symm ▸ value.range
  obtain ⟨converted, parsed, zone, wall⟩ :=
    parsePipelineTs_of_inRange room read range
  rw [parsed]
  obtain ⟨ownWall, ownZone, ownRange⟩ := value
  obtain ⟨otherWall, otherZone, otherRange⟩ := converted
  subst utc zone
  change otherWall = ownWall - 0 at wall
  rw [Int.sub_zero] at wall
  subst wall
  rfl

end Zulu

end PipelineOps.Orchestrator
