import PipelineOps.Library.Fallible
import PipelineOps.Python.Value

namespace PipelineOps.Orchestrator

open PipelineOps.Library
open PipelineOps.Python

/-- `ACTION_PARAMETER_SCHEMA`. Every parameter has the type `str`. -/
def actionParameterSchema : List (String × List String) :=
  [("backfill_silver", ["pipeline", "date_kst", "run_mode"]),
    ("retry_pipeline", ["pipeline", "run_mode"]),
    ("skip_and_report", ["pipeline", "reason"])]

def actionPlanVersionField : String := "schema_version"

def v2PlusRequiredFields : List String :=
  ["action", "parameters", actionPlanVersionField]

def v2PlusOptionalFields : List String :=
  ["expected_outcome", "caveats"]

inductive PlanVersion where
  | v1
  | v2Plus
  deriving DecidableEq

/-- The group of `^v([1-9][0-9]*)$` in a full match. -/
def versionDigits? (rawVersion : String) : Option (List Char) :=
  match rawVersion.toList with
  | 'v' :: first :: rest =>
      if isAsciiDigit first && first != '0' && rest.all isAsciiDigit then
        some (first :: rest)
      else none
  | _ => none

def classifyActionPlanVersion (actionPlan : List (String × Value)) :
    Except Exc PlanVersion :=
  match Value.get actionPlan actionPlanVersionField with
  | .null => .ok .v1
  | .str rawVersion =>
      match versionDigits? rawVersion with
      | none => .error (.valueError
          "action_plan.schema_version must match 'v<major>'")
      | some digits =>
          if Value.intMaxStrDigits < digits.length then
            .error (.valueError
              ("Exceeds the limit (4300 digits) for integer string " ++
                "conversion: value has " ++ toString digits.length ++
                " digits; use sys.set_int_max_str_digits() to increase " ++
                "the limit"))
          else if parseDigits digits.length digits = some 1 then
            .error (.valueError "action_plan v1 must omit schema_version")
          else .ok .v2Plus
  | _ => .error (.valueError
      "action_plan.schema_version must be a string matching 'v<major>'")

section DateKst

/-- `(?P<Y>\d\d\d\d)-(?P<m>1[0-2]|0[1-9]|[1-9])-(?P<d>...)`: the year. -/
def matchYear : List Char → Option (Nat × List Char)
  | a :: b :: c :: d :: '-' :: rest => do
      let thousands ← decimalValue? a
      let hundreds ← decimalValue? b
      let tens ← decimalValue? c
      let units ← decimalValue? d
      pure (1000 * thousands + 100 * hundreds + 10 * tens + units, rest)
  | _ => none

def isNonzeroDigit (character : Char) : Bool :=
  isAsciiDigit character && character != '0'

/-- `1[0-2]|0[1-9]|[1-9]` and the dash behind it. -/
def matchMonth : List Char → Option (Nat × List Char)
  | '1' :: b :: '-' :: rest =>
      if b = '0' ∨ b = '1' ∨ b = '2' then some (10 + digitValue b, rest)
      else none
  | '0' :: b :: '-' :: rest =>
      if isNonzeroDigit b then some (digitValue b, rest) else none
  | a :: '-' :: rest =>
      if isNonzeroDigit a then some (digitValue a, rest) else none
  | _ => none

/-- `3[0-1]|[1-2]\d|0[1-9]|[1-9]| [1-9]` on a text it has to use up: a shorter
match leaves unconverted data. -/
def matchDay : List Char → Option Nat
  | [a] => if isNonzeroDigit a then some (digitValue a) else none
  | [a, b] =>
      if a = '3' then
        if b = '0' ∨ b = '1' then some (30 + digitValue b) else none
      else if a = '1' ∨ a = '2' then
        (decimalValue? b).map fun units => 10 * digitValue a + units
      else if a = '0' ∨ a = ' ' then
        if isNonzeroDigit b then some (digitValue b) else none
      else none
  | _ => none

/-- `datetime.strptime(date_kst, "%Y-%m-%d")`. -/
def strptimeDate (dateKst : String) : Option (Nat × Nat × Nat) := do
  let (year, behindYear) ← matchYear dateKst.toList
  let (month, behindMonth) ← matchMonth behindYear
  let day ← matchDay behindMonth
  if ValidDate year month day then some (year, month, day) else none

def validateDateKst (dateKst : Value) : Except Exc Unit :=
  match dateKst with
  | .str text =>
      match strptimeDate text with
      | none => .error (.valueError "date_kst must be YYYY-MM-DD")
      | some parsed =>
          if strftimeDate parsed ≠ text then
            .error (.valueError "date_kst must be YYYY-MM-DD")
          else .ok ()
  | _ => .error (.valueError "date_kst must be YYYY-MM-DD")

end DateKst

def schemaOf (action : Value) : Option (List String) :=
  match action with
  | .str name => actionParameterSchema.lookup name
  | _ => none

def missingParameters (expectedSchema : List String)
    (parameters : List (String × Value)) : List String :=
  sortedTexts
    (expectedSchema.filter fun key => (parameters.lookup key).isNone)

def unexpectedParameters (expectedSchema : List String)
    (parameters : List (String × Value)) : List String :=
  sortedTexts
    ((parameters.map Prod.fst).filter fun key => !expectedSchema.contains key)

def isStr : Value → Bool
  | .str _ => true
  | _ => false

def invalidTypes (expectedSchema : List String)
    (parameters : List (String × Value)) : List String :=
  (expectedSchema.filter fun key => !isStr (Value.get parameters key)).map
    fun key => key ++ " must be str, got " ++
      (Value.get parameters key).typeName

def validateActionPlan (action : Value) (parameters : List (String × Value)) :
    Except Exc Unit :=
  if !action.hashable then
    .error (.typeError ("unhashable type: '" ++ action.typeName ++ "'"))
  else
    -- an action with a hash holds no other objects
    match schemaOf action with
    | none => .error (Value.mention (action.toStr 0) fun name => .valueError
        ("Invalid action '" ++ name ++ "'. Allowed actions: " ++
          join ", " (sortedTexts (actionParameterSchema.map Prod.fst))))
    | some expectedSchema =>
        let missing := missingParameters expectedSchema parameters
        let unexpected := unexpectedParameters expectedSchema parameters
        let invalid := invalidTypes expectedSchema parameters
        if missing ≠ [] then
          .error (Value.mention (action.toStr 0) fun name => .valueError
            ("Missing required parameters for action '" ++ name ++ "': " ++
              join ", " missing))
        else if unexpected ≠ [] then
          .error (Value.mention (action.toStr 0) fun name => .valueError
            ("Unexpected parameters for action '" ++ name ++ "': " ++
              join ", " unexpected))
        else if invalid ≠ [] then
          .error (Value.mention (action.toStr 0) fun name => .valueError
            ("Invalid parameter types for action '" ++ name ++ "': " ++
              join "; " invalid))
        else if action.isText "backfill_silver" then
          validateDateKst (Value.get parameters "date_kst")
        else .ok ()

def validateV2PlusRequiredFields (actionPlan : List (String × Value)) :
    Except Exc Unit :=
  let missing := missingParameters v2PlusRequiredFields actionPlan
  if missing ≠ [] then
    .error (.valueError
      ("Missing required action_plan fields for v2+: " ++ join ", " missing))
  else .ok ()

def isStrList : Value → Bool
  | .list items => items.all isStr
  | _ => false

def validateActionPlanContract (actionPlan : List (String × Value)) :
    Except Exc Unit :=
  match classifyActionPlanVersion actionPlan with
  | .error exc => .error exc
  | .ok .v1 => .ok ()
  | .ok .v2Plus =>
      match validateV2PlusRequiredFields actionPlan with
      | .error exc => .error exc
      | .ok () =>
          let allowedFields := v2PlusRequiredFields ++ v2PlusOptionalFields
          let unexpected := unexpectedParameters allowedFields actionPlan
          let expectedOutcome := Value.get actionPlan "expected_outcome"
          let caveats := Value.get actionPlan "caveats"
          if unexpected ≠ [] then
            .error (.valueError
              ("Unexpected action_plan fields for v2+: " ++
                join ", " unexpected))
          else if !expectedOutcome.isNull && !isStr expectedOutcome then
            .error (.valueError
              "action_plan.expected_outcome must be a string")
          else if !caveats.isNull && !isStrList caveats then
            .error (.valueError "action_plan.caveats must be a list[str]")
          else .ok ()

/-! What an accepted plan looks like. -/

theorem sortedTexts_eq_nil_iff {texts : List String} :
    sortedTexts texts = [] ↔ texts = [] := by
  rw [← List.length_eq_zero_iff, sortedTexts, List.length_insertionSort,
    List.length_eq_zero_iff]

theorem missingParameters_eq_nil_iff {expectedSchema : List String}
    {parameters : List (String × Value)} :
    missingParameters expectedSchema parameters = [] ↔
      ∀ key ∈ expectedSchema, (parameters.lookup key).isSome := by
  rw [missingParameters, sortedTexts_eq_nil_iff, List.filter_eq_nil_iff]
  simp only [Option.isNone_iff_eq_none, Option.isSome_iff_ne_none]

theorem lookup_isSome_iff {parameters : List (String × Value)}
    {key : String} :
    (parameters.lookup key).isSome ↔ key ∈ parameters.map Prod.fst := by
  induction parameters with
  | nil => simp
  | cons entry rest induction =>
      obtain ⟨name, value⟩ := entry
      by_cases same : key = name
      · subst same
        simp
      · have differs : (key == name) = false := beq_eq_false_iff_ne.mpr same
        rw [List.lookup_cons, differs]
        simp [same, induction]

theorem unexpectedParameters_eq_nil_iff {expectedSchema : List String}
    {parameters : List (String × Value)} :
    unexpectedParameters expectedSchema parameters = [] ↔
      ∀ key, (parameters.lookup key).isSome → key ∈ expectedSchema := by
  rw [unexpectedParameters, sortedTexts_eq_nil_iff, List.filter_eq_nil_iff]
  simp only [lookup_isSome_iff, Bool.not_eq_true, Bool.not_eq_false',
    List.contains_iff_mem]

theorem isStr_iff {value : Value} :
    isStr value = true ↔ ∃ text, value = .str text := by
  cases value <;> simp [isStr]

theorem invalidTypes_eq_nil_iff {expectedSchema : List String}
    {parameters : List (String × Value)} :
    invalidTypes expectedSchema parameters = [] ↔
      ∀ key ∈ expectedSchema, ∃ text, Value.get parameters key = .str text := by
  rw [invalidTypes, List.map_eq_nil_iff, List.filter_eq_nil_iff]
  simp only [Bool.not_eq_true', Bool.not_eq_false, isStr_iff]

/-- The parameters hold exactly the keys of `expectedSchema`, all with texts. -/
structure MatchesSchema (expectedSchema : List String)
    (parameters : List (String × Value)) : Prop where
  present : ∀ key ∈ expectedSchema, (parameters.lookup key).isSome
  expected : ∀ key, (parameters.lookup key).isSome → key ∈ expectedSchema
  texts : ∀ key ∈ expectedSchema,
    ∃ text, Value.get parameters key = .str text

theorem matchesSchema_iff {expectedSchema : List String}
    {parameters : List (String × Value)} :
    MatchesSchema expectedSchema parameters ↔
      missingParameters expectedSchema parameters = [] ∧
        unexpectedParameters expectedSchema parameters = [] ∧
        invalidTypes expectedSchema parameters = [] := by
  rw [missingParameters_eq_nil_iff, unexpectedParameters_eq_nil_iff,
    invalidTypes_eq_nil_iff]
  exact ⟨fun fits => ⟨fits.present, fits.expected, fits.texts⟩,
    fun checks => ⟨checks.1, checks.2.1, checks.2.2⟩⟩

theorem MatchesSchema.lookup {expectedSchema : List String}
    {parameters : List (String × Value)}
    (fits : MatchesSchema expectedSchema parameters) {key : String}
    (member : key ∈ expectedSchema) :
    ∃ text, parameters.lookup key = some (.str text) := by
  obtain ⟨value, found⟩ := Option.isSome_iff_exists.mp (fits.present key member)
  obtain ⟨text, same⟩ := fits.texts key member
  rw [Value.get, found, Option.getD_some] at same
  exact ⟨text, same ▸ found⟩

theorem MatchesSchema.lookup_eq_none {expectedSchema : List String}
    {parameters : List (String × Value)}
    (fits : MatchesSchema expectedSchema parameters) {key : String}
    (outside : key ∉ expectedSchema) : parameters.lookup key = none := by
  rw [← Option.not_isSome_iff_eq_none]
  exact fun present => outside (fits.expected key present)

theorem schemaOf_eq_some_iff {action : Value} {expectedSchema : List String} :
    schemaOf action = some expectedSchema ↔
      ∃ name, action = .str name ∧
        actionParameterSchema.lookup name = some expectedSchema := by
  cases action <;> simp [schemaOf]

theorem validateActionPlan_ok_iff {action : Value}
    {parameters : List (String × Value)} :
    validateActionPlan action parameters = .ok () ↔
      ∃ name expectedSchema, action = .str name ∧
        actionParameterSchema.lookup name = some expectedSchema ∧
        MatchesSchema expectedSchema parameters ∧
        (name = "backfill_silver" →
          validateDateKst (Value.get parameters "date_kst") = .ok ()) := by
  constructor
  · intro accepted
    rw [validateActionPlan, guard_ok_iff] at accepted
    obtain ⟨-, accepted⟩ := accepted
    cases schema : schemaOf action with
    | none => simp [schema] at accepted
    | some expectedSchema =>
        obtain ⟨name, rfl, found⟩ := schemaOf_eq_some_iff.mp schema
        simp only [schema, guard_ok_iff, ne_eq, not_not] at accepted
        obtain ⟨complete, closed, typed, date⟩ := accepted
        have fits := matchesSchema_iff.mpr ⟨complete, closed, typed⟩
        refine ⟨name, expectedSchema, rfl, found, fits, ?_⟩
        intro dated
        simpa [Value.isText, dated] using date
  · intro plan
    obtain ⟨name, expectedSchema, rfl, found, fits, date⟩ := plan
    obtain ⟨complete, closed, typed⟩ := matchesSchema_iff.mp fits
    have schema := schemaOf_eq_some_iff.mpr ⟨name, rfl, found⟩
    simp only [validateActionPlan, schema, complete, closed, typed]
    by_cases backfill : name = "backfill_silver"
    · simpa [Value.hashable, Value.isText, backfill] using date backfill
    · simp [Value.hashable, Value.isText, backfill]

end PipelineOps.Orchestrator
