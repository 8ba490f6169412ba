import PipelineOps.Python.Value

namespace PipelineOps.Python

/-! `datetime.strptime`: the pattern that a format stands for, and the date that
its first match names. -/

namespace Strptime

/-- One character of a pattern: `\d`, a range such as `[1-9]`, or a blank. -/
inductive Place where
  | decimal
  | between (first last : Char)
  | blank

/-- The digit that a character counts for in `int(group)`. -/
def Place.read : Place → Char → Option Nat
  | .decimal, character => decimalValue? character
  | .between first last, character =>
      if first ≤ character ∧ character ≤ last then some (digitValue character)
      else none
  | .blank, character => if character = ' ' then some 0 else none

def readPlaces : List Place → (total : Nat) → List Char →
    Option (Nat × List Char)
  | [], total, characters => some (total, characters)
  | _ :: _, _, [] => none
  | place :: places, total, character :: rest => do
      let digit ← place.read character
      readPlaces places (10 * total + digit) rest

inductive Directive where
  | year
  | month
  | day
  | hour
  | minute
  | second
  deriving DecidableEq

/-- The alternatives of a directive's group, in their order. -/
def Directive.alternatives : Directive → List (List Place)
  | .year => [[.decimal, .decimal, .decimal, .decimal]]
  | .month =>
      [[.between '1' '1', .between '0' '2'],
        [.between '0' '0', .between '1' '9'], [.between '1' '9']]
  | .day =>
      [[.between '3' '3', .between '0' '1'], [.between '1' '2', .decimal],
        [.between '0' '0', .between '1' '9'], [.between '1' '9'],
        [.blank, .between '1' '9']]
  | .hour =>
      [[.between '2' '2', .between '0' '3'], [.between '0' '1', .decimal],
        [.decimal]]
  | .minute => [[.between '0' '5', .decimal], [.decimal]]
  | .second =>
      [[.between '6' '6', .between '0' '1'], [.between '0' '5', .decimal],
        [.decimal]]

inductive Token where
  | literal (character : Char)
  | directive (directive : Directive)

abbrev Groups := List (Directive × Nat)

/-- All matches at the start of a text, in the order in which backtracking meets
them, with the text behind them. Letters match in both cases. -/
def readings : List Token → List Char → List (Groups × List Char)
  | [], characters => [([], characters)]
  | .literal _ :: _, [] => []
  | .literal expected :: tokens, character :: rest =>
      if expected.toLower = character.toLower then readings tokens rest else []
  | .directive directive :: tokens, characters =>
      directive.alternatives.flatMap fun places =>
        match readPlaces places 0 characters with
        | none => []
        | some (value, rest) =>
            (readings tokens rest).map fun (groups, behind) =>
              ((directive, value) :: groups, behind)

structure Format where
  text : String
  tokens : List Token

/-- The `datetime` of the groups. The pattern keeps hours and minutes in range,
but lets the seconds 60 and 61 pass. -/
def build (groups : Groups) : Except Exc DateTime :=
  let value directive default := (groups.lookup directive).getD default
  let year := value .year 1900
  let month := value .month 1
  let day := value .day 1
  if year = 0 then .error (.valueError "year 0 is out of range")
  else if ¬ ValidDate year month day then
    .error (.valueError "day is out of range for month")
  else
    match combine (toOrdinal year month day)
        ⟨value .hour 0, value .minute 0, value .second 0, 0, false⟩ none with
    | none => .error (.valueError "second must be in 0..59")
    | some moment => .ok moment

end Strptime

open Strptime in
/-- `datetime.strptime(text, format)`. -/
def strptime (format : Format) (text : String) : Except Exc DateTime :=
  match (readings format.tokens text.toList).head? with
  | none => .error (.valueError
      ("time data " ++ reprText text ++ " does not match format " ++
        reprText format.text))
  | some (groups, rest) =>
      if rest ≠ [] then
        .error (.valueError
          ("unconverted data remains: " ++ String.ofList rest))
      else build groups

end PipelineOps.Python
