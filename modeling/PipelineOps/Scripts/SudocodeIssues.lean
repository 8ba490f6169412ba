import PipelineOps.Python.JsonLines

namespace PipelineOps.Scripts

open PipelineOps.Library
open PipelineOps.Python

/-! The issues of the weekly report, one JSON object a line. -/

abbrev Issue := List (String × Value)

section Loading

/-- What a text file gives for its line ends. -/
def universalNewlines : List Char → List Char
  | '\r' :: '\n' :: rest => '\n' :: universalNewlines rest
  | '\r' :: rest => '\n' :: universalNewlines rest
  | character :: rest => character :: universalNewlines rest
  | [] => []

/-- The lines of a file without their ends; an empty line at the end of the
file is skipped like any other. -/
def fileLines (text : String) : List String :=
  ((universalNewlines text.toList).splitOn '\n').map String.ofList

variable (jsonLoads : String → Except Exc Value)

/-- The body of the loop: the issue of a line, if it has one. -/
def issueOf (raw : String) : Except Exc (Option Issue) :=
  let raw := strip raw
  if raw = "" then .ok none
  else
    match jsonLoads raw with
    | .ok (.dict entries) => .ok (some entries)
    | .ok _ => .ok none
    | .error exc =>
        if exc.cls = .jsonDecodeError then .ok none else .error exc

def readIssues : List String → Except Exc (List Issue)
  | [] => .ok []
  | raw :: rest => do
      let issue ← issueOf jsonLoads raw
      let items ← readIssues rest
      pure (issue.toList ++ items)

/-- The candidates by their relative paths, with the texts of those that
exist. -/
def loadSudocodeIssues :
    List (String × Option String) → Except Exc (List Issue × String)
  | [] => .ok ([], "not-found")
  | (_, none) :: rest => loadSudocodeIssues rest
  | (path, some text) :: _ => do
      let items ← readIssues jsonLoads (fileLines text)
      pure (items, path)

end Loading

section Lines

def NoLineEnd (text : List Char) : Prop :=
  ∀ character ∈ text, character ≠ '\n' ∧ character ≠ '\r'

theorem InOneLine.noLineEnd {text : List Char} (inside : InOneLine text) :
    NoLineEnd text := by
  intro character member
  have bound := inside character member
  constructor
  · rintro rfl
    exact absurd bound (by decide)
  · rintro rfl
    exact absurd bound (by decide)

theorem universalNewlines_of_noReturn {text : List Char}
    (none : '\r' ∉ text) : universalNewlines text = text := by
  induction text with
  | nil => rfl
  | cons character rest induction =>
      rw [List.mem_cons, not_or] at none
      rw [universalNewlines, induction none.2]
      · exact fun _ same _ => none.1 same.symm
      · exact fun same => none.1 same.symm

theorem fileLines_join {lines : List String} (filled : lines ≠ [])
    (each : ∀ line ∈ lines, NoLineEnd line.toList) :
    fileLines (join "\n" lines) = lines := by
  have text := toList_join "\n" lines
  have breaks : "\n".toList = ['\n'] := rfl
  have noReturn : '\r' ∉ (join "\n" lines).toList := by
    intro member
    rcases mem_join member with separating | ⟨line, known, inside⟩
    · exact absurd separating (by decide)
    · exact (each line known _ inside).2 rfl
  rw [fileLines, universalNewlines_of_noReturn noReturn, text, breaks,
    List.splitOn_intercalate]
  · rw [List.map_map]
    simp [Function.comp_def]
  · intro characters member inside
    obtain ⟨line, known, rfl⟩ := List.mem_map.mp member
    exact (each line known _ inside).1 rfl
  · simp [filled]

end Lines

section Reading

variable {lone : String → Except Exc Value} {floatRepr : String → String}
  {depth : Nat}

/-- A line of the file: an object between blanks, or one that is blank, no JSON,
or JSON but no object. -/
inductive IssueLine (floatRepr : String → String) (depth : Nat) :
    String → Option Issue → Prop
  | object {style : JsonStyle} {room : Nat} {entries : Issue} {text : String}
      {front back : List Char} (standard : style.Standard)
      (inline : style.Inline)
      (loadable : Loadable floatRepr depth (.dict entries))
      (written : jsonDumps style room (.dict entries) = .ok text)
      (blanks : ∀ blank ∈ front ++ back, isSpace blank = true)
      (inside : NoLineEnd (front ++ back)) :
      IssueLine floatRepr depth
        (String.ofList (front ++ (text.toList ++ back)))
        (some (style.ordered (style.arrangedEntries entries)))
  | blank {line : String} (inside : NoLineEnd line.toList)
      (blanks : ∀ blank ∈ line.toList, isSpace blank = true) :
      IssueLine floatRepr depth line none
  | malformed {line : String} {exc : Exc} (inside : NoLineEnd line.toList)
      (refused : jsonLoads floatRepr depth (strip line) = .error exc)
      (undecoded : exc.cls = .jsonDecodeError) :
      IssueLine floatRepr depth line none
  | other {line : String} {value : Value} (inside : NoLineEnd line.toList)
      (decoded : jsonLoads floatRepr depth (strip line) = .ok (some value))
      (noObject : ∀ entries, value ≠ .dict entries) :
      IssueLine floatRepr depth line none

theorem strip_object {style : JsonStyle} {room : Nat} {entries : Issue}
    {text : String} {front back : List Char}
    (written : jsonDumps style room (.dict entries) = .ok text)
    (blanks : ∀ blank ∈ front ++ back, isSpace blank = true) :
    strip (String.ofList (front ++ (text.toList ++ back))) = text ∧
      text ≠ "" := by
  obtain ⟨inner, members, -, -, rfl⟩ := jsonDumps_dict_ok_iff.mp written
  have braces : ("\x7b" ++ join style.itemSeparator members ++
      "\x7d").toList =
        '\x7b' :: (join style.itemSeparator members).toList ++ ['\x7d'] := by
    rw [String.toList_append, String.toList_append]
    rfl
  constructor
  · apply String.toList_inj.mp
    have keeps : ∀ character, (!isSpace character) = true →
        isSpace character = false := by
      simp
    rw [strip, String.toList_ofList, String.toList_ofList, braces,
      ← List.append_assoc]
    refine stripBy_of_kept keeps rfl ?_ blanks
    rw [List.getLast?_concat]
    rfl
  · intro empty
    rw [empty] at braces
    cases braces

theorem IssueLine.noLineEnd {line : String} {issue : Option Issue}
    (known : IssueLine floatRepr depth line issue) :
    NoLineEnd line.toList := by
  cases known with
  | blank inside blanks => exact inside
  | malformed inside refused undecoded => exact inside
  | other inside decoded noObject => exact inside
  | object standard inline loadable written blanks inside =>
      have own := InOneLine.noLineEnd (loadable.inOneLine inline written)
      rw [NoLineEnd, List.forall_mem_append] at inside
      rw [String.toList_ofList, NoLineEnd, List.forall_mem_append,
        List.forall_mem_append]
      exact ⟨inside.1, own, inside.2⟩

theorem noLineEnd_lines {lines : List String} {issues : List (Option Issue)}
    (each : List.Forall₂ (IssueLine floatRepr depth) lines issues) :
    ∀ line ∈ lines, NoLineEnd line.toList := by
  induction each with
  | nil => simp
  | cons known rest induction =>
      exact List.forall_mem_cons.mpr ⟨known.noLineEnd, induction⟩

theorem strip_blank {line : String}
    (blanks : ∀ blank ∈ line.toList, isSpace blank = true) :
    strip line = "" := by
  rw [strip, stripBy_of_dropped blanks]

theorem IssueLine.read {line : String} {issue : Option Issue}
    (known : IssueLine floatRepr depth line issue) :
    issueOf (loadsWith lone floatRepr depth) line = .ok issue := by
  cases known with
  | object standard inline loadable written blanks inside =>
      obtain ⟨stripped, filled⟩ := strip_object written blanks
      rw [issueOf, stripped]
      simp only [if_neg filled, loadsWith_written standard loadable written,
        JsonStyle.arranged]
  | blank inside blanks => exact if_pos (strip_blank blanks)
  | malformed inside refused undecoded =>
      rw [issueOf]
      split
      · rfl
      · simp only [loadsWith, refused, if_pos undecoded]
  | other inside decoded noObject =>
      rw [issueOf]
      split
      · rfl
      · simp only [loadsWith, decoded]

theorem readIssues_lines {lines : List String} {issues : List (Option Issue)}
    (each : List.Forall₂ (IssueLine floatRepr depth) lines issues) :
    readIssues (loadsWith lone floatRepr depth) lines =
      .ok (issues.filterMap id) := by
  induction each with
  | nil => rfl
  | cons known rest induction =>
      rw [readIssues, known.read, induction]
      rename_i issue _ _
      cases issue <;> rfl

/-- The objects of the first file that exists, in their order, whatever stands
in the other lines. -/
theorem loadSudocodeIssues_lines {before after : List (String × Option String)}
    {path : String} {lines : List String} {issues : List (Option Issue)}
    (absent : ∀ candidate ∈ before, candidate.2 = none) (filled : lines ≠ [])
    (each : List.Forall₂ (IssueLine floatRepr depth) lines issues) :
    loadSudocodeIssues (loadsWith lone floatRepr depth)
      (before ++ (path, some (join "\n" lines)) :: after) =
        .ok (issues.filterMap id, path) := by
  induction before with
  | nil =>
      rw [List.nil_append, loadSudocodeIssues,
        fileLines_join filled (noLineEnd_lines each), readIssues_lines each]
      rfl
  | cons candidate before induction =>
      rw [List.forall_mem_cons] at absent
      obtain ⟨other, text⟩ := candidate
      obtain rfl : text = none := absent.1
      rw [List.cons_append, loadSudocodeIssues]
      exact induction absent.2

end Reading

/-- The second candidate, with an object between blanks, a blank line, a line
that is no JSON and an array. -/
theorem loadSudocodeIssues_lines_malformed :
    loadSudocodeIssues (loadsWith unreadable id 1)
      ([(".sudocode/issues/issues.jsonl", none)] ++
        (".sudocode/issues.jsonl", some (join "\n"
          [String.ofList ([' '] ++
            ("\x7b\"status\": \"closed\"\x7d".toList ++ ['\t'])), " ",
            "oops", "[]"])) ::
          []) =
        .ok ([some [("status", .str "closed")], none, none, none].filterMap id,
          ".sudocode/issues.jsonl") := by
  apply loadSudocodeIssues_lines (by simp) (by simp)
  have standard : readableStyle.Standard :=
    ⟨⟨[' '], rfl, by simp [isJsonSpace]⟩,
      ⟨[' '], rfl, by simp [isJsonSpace]⟩⟩
  have inline : readableStyle.Inline :=
    ⟨by simp [readableStyle], by simp [readableStyle]⟩
  have loadable : Loadable id 1 (.dict [("status", .str "closed")]) :=
    .dict (by simp) (by simpa using .str "closed")
  have written : jsonDumps readableStyle 1 (.dict [("status", .str "closed")]) =
      .ok "\x7b\"status\": \"closed\"\x7d" := rfl
  refine .cons (.object standard inline loadable written
    (by simp [isSpace]) ?_)
    (.cons (.blank ?_ (by simp [isSpace]))
      (.cons (.malformed ?_ rfl rfl)
        (.cons (.other ?_ rfl (by simp)) .nil)))
  all_goals simp [NoLineEnd]

end PipelineOps.Scripts
