import PipelineOps.Orchestrator.ActionPlan

namespace PipelineOps.Orchestrator

open PipelineOps.Library
open PipelineOps.Python

/-! The two contracts of an action plan, next to what the validators accept. -/

section TopLevel

variable {actionPlan : List (String × Value)}

/-- The texts of `^v[1-9][0-9]*$`. -/
def IsVersionText (text : String) : Prop :=
  ∃ first rest, text.toList = 'v' :: first :: rest ∧
    isAsciiDigit first = true ∧ first ≠ '0' ∧
    ∀ character ∈ rest, isAsciiDigit character = true

structure V2PlusFields (actionPlan : List (String × Value))
    (version : String) : Prop where
  discriminator :
    actionPlan.lookup actionPlanVersionField = some (.str version)
  wellFormed : IsVersionText version
  notV1 : version ≠ "v1"
  action : (actionPlan.lookup "action").isSome
  parameters : (actionPlan.lookup "parameters").isSome
  known : ∀ key, (actionPlan.lookup key).isSome →
    key ∈ v2PlusRequiredFields ++ v2PlusOptionalFields

def IsText (value : Value) : Prop := ∃ text, value = .str text

def IsTextList (value : Value) : Prop :=
  ∃ texts : List String, value = .list (texts.map .str)

/-- The optional fields of a v2+ plan, each absent or of the type it has. -/
structure OptionalFields (IsOutcome IsCaveats : Value → Prop)
    (actionPlan : List (String × Value)) : Prop where
  expectedOutcome : ∀ value,
    actionPlan.lookup "expected_outcome" = some value → IsOutcome value
  caveats : ∀ value, actionPlan.lookup "caveats" = some value → IsCaveats value

def OrNull (typed : Value → Prop) (value : Value) : Prop :=
  value = .null ∨ typed value

/-- The top-level contract: a plan without a version, or a v2+ plan. -/
def MeetsContract (actionPlan : List (String × Value)) : Prop :=
  actionPlan.lookup actionPlanVersionField = none ∨
    (∃ version, V2PlusFields actionPlan version) ∧
      OptionalFields IsText IsTextList actionPlan

def HasNullOption (actionPlan : List (String × Value)) : Prop :=
  actionPlan.lookup "expected_outcome" = some .null ∨
    actionPlan.lookup "caveats" = some .null

/-- A version with more digits than `int` reads. -/
def IsLongVersion (version : String) : Prop :=
  Value.intMaxStrDigits + 1 < version.toList.length

theorem versionDigits?_eq_some_iff {version : String} {digits : List Char} :
    versionDigits? version = some digits ↔
      IsVersionText version ∧ version.toList = 'v' :: digits := by
  unfold versionDigits?
  constructor
  · intro matched
    split at matched
    · rename_i first rest characters
      split at matched
      · rename_i wellFormed
        obtain rfl := Option.some.inj matched
        simp only [Bool.and_eq_true, bne_iff_ne, List.all_eq_true]
          at wellFormed
        obtain ⟨⟨digit, nonzero⟩, others⟩ := wellFormed
        exact ⟨⟨first, rest, characters, digit, nonzero, others⟩, characters⟩
      · cases matched
    · cases matched
  · intro version
    obtain ⟨⟨first, rest, characters, digit, nonzero, others⟩, same⟩ := version
    obtain rfl := List.cons.inj (characters.symm.trans same) |>.2
    simp only [characters]
    apply if_pos
    simp only [Bool.and_eq_true, bne_iff_ne, List.all_eq_true]
    exact ⟨⟨digit, nonzero⟩, others⟩

theorem le_readDigits (digits : List Char) (total : Nat) :
    total ≤ digits.foldl
      (fun total digit => 10 * total + digitValue digit) total := by
  induction digits generalizing total with
  | nil => exact Nat.le_refl total
  | cons digit rest induction =>
      have behind := induction (10 * total + digitValue digit)
      rw [List.foldl_cons]
      omega

theorem digitValue_pos {digit : Char} (isDigit : isAsciiDigit digit = true)
    (nonzero : digit ≠ '0') : 0 < digitValue digit := by
  simp only [isAsciiDigit, Bool.and_eq_true, decide_eq_true_eq] at isDigit
  have least : '0'.toNat ≤ digit.toNat := isDigit.1
  have differs : digit.toNat ≠ '0'.toNat := fun same =>
    nonzero (Char.toNat_inj.mp same)
  rw [digitValue]
  omega

theorem parseDigits_eq_one_iff {first : Char} {rest : List Char}
    (isDigit : isAsciiDigit first = true) (nonzero : first ≠ '0')
    (others : ∀ character ∈ rest, isAsciiDigit character = true) :
    parseDigits (first :: rest).length (first :: rest) = some 1 ↔
      first :: rest = ['1'] := by
  have digits : (first :: rest).all isAsciiDigit = true := by
    simpa [isDigit] using others
  unfold parseDigits
  rw [List.take_length, if_pos ⟨rfl, digits⟩, Option.some_inj,
    List.foldl_cons, Nat.mul_zero, Nat.zero_add]
  have positive := digitValue_pos isDigit nonzero
  constructor
  · intro one
    cases rest with
    | nil =>
        have same : first.toNat = '1'.toNat := by
          simp only [List.foldl_nil, digitValue] at one
          have : '0'.toNat = 48 := rfl
          have : '1'.toNat = 49 := rfl
          omega
        rw [Char.toNat_inj.mp same]
    | cons second rest =>
        have least := le_readDigits rest
          (10 * digitValue first + digitValue second)
        rw [List.foldl_cons] at one
        omega
  · intro single
    obtain ⟨rfl, rfl⟩ := List.cons.inj single
    rfl

theorem classifyActionPlanVersion_eq_v1_iff :
    classifyActionPlanVersion actionPlan = .ok .v1 ↔
      Value.get actionPlan actionPlanVersionField = .null := by
  unfold classifyActionPlanVersion
  constructor
  · intro classified
    split at classified
    · assumption
    · split at classified
      · cases classified
      · split at classified
        · cases classified
        · split at classified <;> cases classified
    · cases classified
  · intro null
    rw [null]

theorem classifyActionPlanVersion_eq_v2Plus_iff :
    classifyActionPlanVersion actionPlan = .ok .v2Plus ↔
      ∃ version, actionPlan.lookup actionPlanVersionField =
          some (.str version) ∧
        IsVersionText version ∧ version ≠ "v1" ∧ ¬ IsLongVersion version := by
  constructor
  · intro classified
    cases found : Value.get actionPlan actionPlanVersionField with
    | str version =>
        simp only [classifyActionPlanVersion, found] at classified
        cases matched : versionDigits? version with
        | none =>
            rw [matched] at classified
            cases classified
        | some digits =>
            simp only [matched, guard_ok_iff] at classified
            obtain ⟨short, notOne, -⟩ := classified
            obtain ⟨wellFormed, characters⟩ :=
              versionDigits?_eq_some_iff.mp matched
            refine ⟨version, Value.get_eq_str_iff.mp found, wellFormed, ?_, ?_⟩
            · intro v1
              subst v1
              obtain rfl := List.cons.inj characters |>.2
              exact notOne rfl
            · unfold IsLongVersion
              rw [characters, List.length_cons]
              omega
    | _ =>
        simp only [classifyActionPlanVersion, found] at classified
        cases classified
  · intro versioned
    obtain ⟨version, found, wellFormed, notV1, short⟩ := versioned
    obtain ⟨first, rest, characters, isDigit, nonzero, others⟩ := wellFormed
    have matched : versionDigits? version = some (first :: rest) :=
      versionDigits?_eq_some_iff.mpr
        ⟨⟨first, rest, characters, isDigit, nonzero, others⟩, characters⟩
    have notOne : ¬ parseDigits (first :: rest).length (first :: rest) =
        some 1 := by
      rw [parseDigits_eq_one_iff isDigit nonzero others]
      intro one
      apply notV1
      rw [← String.toList_inj, characters, one]
      rfl
    unfold IsLongVersion at short
    rw [characters, List.length_cons] at short
    simp only [classifyActionPlanVersion, Value.get_eq_str_iff.mpr found,
      matched, if_neg notOne]
    rw [if_neg (by omega)]

/-- A version that is refused is refused with a `ValueError`. -/
theorem classifyActionPlanVersion_error {exc : Exc}
    (refused : classifyActionPlanVersion actionPlan = .error exc) :
    exc.cls = .valueError := by
  unfold classifyActionPlanVersion at refused
  split at refused
  · cases refused
  · split at refused
    · cases refused
      rfl
    · split at refused
      · cases refused
        rfl
      · split at refused
        · cases refused
          rfl
        · cases refused
  · cases refused
    rfl

theorem isStrList_iff {value : Value} :
    isStrList value = true ↔ IsTextList value := by
  unfold IsTextList
  cases value with
  | list items =>
      simp only [isStrList, List.all_eq_true, isStr_iff, Value.list.injEq]
      constructor
      · intro texts
        induction items with
        | nil => exact ⟨[], rfl⟩
        | cons item rest induction =>
            obtain ⟨text, rfl⟩ := texts item List.mem_cons_self
            obtain ⟨others, rfl⟩ := induction fun other member =>
              texts other (List.mem_cons_of_mem _ member)
            exact ⟨text :: others, rfl⟩
      · intro texts item member
        obtain ⟨texts, rfl⟩ := texts
        obtain ⟨text, -, rfl⟩ := List.mem_map.mp member
        exact ⟨text, rfl⟩
  | _ => simp [isStrList]

/-- An optional field is read with `get`, so that `null` passes for absent. -/
theorem accepted_or_null_iff (key : String) {check : Value → Bool}
    (typed : Value → Prop)
    (checks : ∀ value, check value = true ↔ typed value) :
    ¬ ((!(Value.get actionPlan key).isNull &&
        !check (Value.get actionPlan key)) = true) ↔
      ∀ value, actionPlan.lookup key = some value → OrNull typed value := by
  unfold Value.get OrNull
  cases actionPlan.lookup key with
  | none => simp [Value.isNull]
  | some value =>
      simp only [Option.getD_some, Option.some.injEq, forall_eq', ← checks,
        ← Value.isNull_iff]
      cases value.isNull <;> cases check value <;> simp

theorem missingFields_eq_nil_iff :
    missingParameters v2PlusRequiredFields actionPlan = [] ↔
      (actionPlan.lookup "action").isSome ∧
        (actionPlan.lookup "parameters").isSome ∧
        (actionPlan.lookup actionPlanVersionField).isSome := by
  rw [missingParameters_eq_nil_iff]
  simp [v2PlusRequiredFields]

/-- What is checked of a plan that counts as v2+. -/
theorem validateActionPlanContract_v2Plus_iff
    (classified : classifyActionPlanVersion actionPlan = .ok .v2Plus) :
    validateActionPlanContract actionPlan = .ok () ↔
      missingParameters v2PlusRequiredFields actionPlan = [] ∧
      (∀ key, (actionPlan.lookup key).isSome →
        key ∈ v2PlusRequiredFields ++ v2PlusOptionalFields) ∧
      OptionalFields (OrNull IsText) (OrNull IsTextList) actionPlan := by
  simp only [validateActionPlanContract, classified,
    validateV2PlusRequiredFields]
  by_cases missing : missingParameters v2PlusRequiredFields actionPlan = []
  · simp only [missing, ne_eq, not_true_eq_false, if_false, guard_ok_iff,
      not_not, unexpectedParameters_eq_nil_iff, true_and,
      accepted_or_null_iff "expected_outcome" IsText fun _ => isStr_iff,
      accepted_or_null_iff "caveats" IsTextList fun _ => isStrList_iff]
    constructor
    · intro accepted
      obtain ⟨known, expectedOutcome, caveats, -⟩ := accepted
      exact ⟨known, expectedOutcome, caveats⟩
    · intro fields
      obtain ⟨known, options⟩ := fields
      exact ⟨known, options.expectedOutcome, options.caveats, trivial⟩
  · rw [if_pos missing]
    simp [missing]

theorem validateActionPlanContract_ok_iff :
    validateActionPlanContract actionPlan = .ok () ↔
      actionPlan.lookup actionPlanVersionField = none ∨
      actionPlan.lookup actionPlanVersionField = some .null ∨
      (∃ version, V2PlusFields actionPlan version ∧ ¬ IsLongVersion version) ∧
        OptionalFields (OrNull IsText) (OrNull IsTextList) actionPlan := by
  rw [← or_assoc, ← Value.get_eq_null_iff,
    ← classifyActionPlanVersion_eq_v1_iff]
  rcases classified : classifyActionPlanVersion actionPlan with exc | version
  · have unversioned : ¬ ∃ version, V2PlusFields actionPlan version ∧
        ¬ IsLongVersion version := by
      intro versioned
      obtain ⟨version, fields, short⟩ := versioned
      have v2Plus := classifyActionPlanVersion_eq_v2Plus_iff.mpr
        ⟨version, fields.discriminator, fields.wellFormed, fields.notV1, short⟩
      rw [classified] at v2Plus
      cases v2Plus
    simp [validateActionPlanContract, classified, unversioned]
  · cases version with
    | v1 => simp [validateActionPlanContract, classified]
    | v2Plus =>
        obtain ⟨version, discriminator, wellFormed, notV1, short⟩ :=
          classifyActionPlanVersion_eq_v2Plus_iff.mp classified
        have present : (actionPlan.lookup actionPlanVersionField).isSome := by
          rw [discriminator]
          rfl
        rw [validateActionPlanContract_v2Plus_iff classified,
          missingFields_eq_nil_iff]
        constructor
        · intro accepted
          obtain ⟨⟨action, parameters, -⟩, known, options⟩ := accepted
          exact .inr ⟨⟨version, ⟨discriminator, wellFormed, notV1, action,
            parameters, known⟩, short⟩, options⟩
        · intro shaped
          rcases shaped with v1 | ⟨⟨_, fields, _⟩, options⟩
          · cases v1
          · exact ⟨⟨fields.action, fields.parameters, present⟩, fields.known,
              options⟩

theorem validateActionPlanContract_error {exc : Exc}
    (refused : validateActionPlanContract actionPlan = .error exc) :
    exc.cls = .valueError := by
  unfold validateActionPlanContract at refused
  split at refused
  · rename_i raised classified
    obtain rfl := Except.error.inj refused
    exact classifyActionPlanVersion_error classified
  · cases refused
  · split at refused
    · rename_i raised required
      obtain rfl := Except.error.inj refused
      unfold validateV2PlusRequiredFields at required
      dsimp only at required
      split at required
      · cases required
        rfl
      · cases required
    · dsimp only at refused
      split at refused
      · cases refused
        rfl
      · split at refused
        · cases refused
          rfl
        · split at refused
          · cases refused
            rfl
          · cases refused

/-- The validator accepts the plans of the contract and refuses all others with
a `ValueError`. -/
def ContractKept (actionPlan : List (String × Value)) : Prop :=
  (validateActionPlanContract actionPlan = .ok () ↔
    MeetsContract actionPlan) ∧
  ∀ exc, validateActionPlanContract actionPlan = .error exc →
    exc.cls = .valueError

/-- A plan of the contract, but for an optional field that is `null`. -/
def HasOnlyNullOption (actionPlan : List (String × Value)) : Prop :=
  (∃ version, V2PlusFields actionPlan version ∧ ¬ IsLongVersion version) ∧
    OptionalFields (OrNull IsText) (OrNull IsTextList) actionPlan ∧
    HasNullOption actionPlan

/-- A plan of the contract whose version is too long to be read. -/
def HasOnlyLongVersion (actionPlan : List (String × Value)) : Prop :=
  (∃ version, V2PlusFields actionPlan version ∧ IsLongVersion version) ∧
    OptionalFields IsText IsTextList actionPlan

theorem optionalFields_of_orNull
    (options : OptionalFields (OrNull IsText) (OrNull IsTextList) actionPlan)
    (present : ¬ HasNullOption actionPlan) :
    OptionalFields IsText IsTextList actionPlan := by
  constructor
  · intro value found
    rcases options.expectedOutcome value found with null | text
    · exact absurd (.inl (null ▸ found)) present
    · exact text
  · intro value found
    rcases options.caveats value found with null | texts
    · exact absurd (.inr (null ▸ found)) present
    · exact texts

theorem OptionalFields.orNull {IsOutcome IsCaveats : Value → Prop}
    (options : OptionalFields IsOutcome IsCaveats actionPlan) :
    OptionalFields (OrNull IsOutcome) (OrNull IsCaveats) actionPlan where
  expectedOutcome := fun value found =>
    .inr (options.expectedOutcome value found)
  caveats := fun value found => .inr (options.caveats value found)

theorem OptionalFields.not_hasNullOption
    (options : OptionalFields IsText IsTextList actionPlan) :
    ¬ HasNullOption actionPlan := by
  intro null
  rcases null with found | found
  · obtain ⟨text, same⟩ := options.expectedOutcome _ found
    cases same
  · obtain ⟨texts, same⟩ := options.caveats _ found
    cases same

/-- The discriminator of a plan is one value. -/
theorem V2PlusFields.version_unique {first second : String}
    (fields : V2PlusFields actionPlan first)
    (others : V2PlusFields actionPlan second) : first = second := by
  have same := fields.discriminator.symm.trans others.discriminator
  exact Value.str.inj (Option.some.inj same)

theorem MeetsContract.v2Plus {version : Value}
    (meets : MeetsContract actionPlan)
    (found : actionPlan.lookup actionPlanVersionField = some version) :
    (∃ version, V2PlusFields actionPlan version) ∧
      OptionalFields IsText IsTextList actionPlan := by
  rcases meets with absent | v2Plus
  · rw [absent] at found
    cases found
  · exact v2Plus

theorem not_meetsContract_of_null
    (null : actionPlan.lookup actionPlanVersionField = some .null) :
    ¬ MeetsContract actionPlan := by
  intro meets
  obtain ⟨⟨version, fields⟩, -⟩ := meets.v2Plus null
  have found := fields.discriminator
  rw [null] at found
  cases found

theorem HasOnlyNullOption.not_meetsContract
    (nullOption : HasOnlyNullOption actionPlan) :
    ¬ MeetsContract actionPlan := by
  intro meets
  obtain ⟨⟨version, fields, -⟩, -, null⟩ := nullOption
  obtain ⟨-, typed⟩ := meets.v2Plus fields.discriminator
  exact typed.not_hasNullOption null

theorem HasOnlyLongVersion.refused
    (longVersion : HasOnlyLongVersion actionPlan) :
    validateActionPlanContract actionPlan ≠ .ok () := by
  intro accepted
  obtain ⟨⟨version, fields, long⟩, -⟩ := longVersion
  have found := fields.discriminator
  rcases validateActionPlanContract_ok_iff.mp accepted with
    absent | null | ⟨⟨other, others, short⟩, -⟩
  · rw [absent] at found
    cases found
  · rw [null] at found
    cases found
  · exact short (fields.version_unique others ▸ long)

theorem contractKept_iff : ContractKept actionPlan ↔
    actionPlan.lookup actionPlanVersionField ≠ some .null ∧
      ¬ HasOnlyNullOption actionPlan ∧ ¬ HasOnlyLongVersion actionPlan := by
  have refusals : ∀ exc, validateActionPlanContract actionPlan = .error exc →
      exc.cls = .valueError := fun _ => validateActionPlanContract_error
  unfold ContractKept
  rw [and_iff_left refusals]
  constructor
  · intro exactly
    refine ⟨?_, ?_, ?_⟩
    · intro null
      have accepted := validateActionPlanContract_ok_iff.mpr (.inr (.inl null))
      exact not_meetsContract_of_null null (exactly.mp accepted)
    · intro nullOption
      have accepted := validateActionPlanContract_ok_iff.mpr
        (.inr (.inr ⟨nullOption.1, nullOption.2.1⟩))
      exact nullOption.not_meetsContract (exactly.mp accepted)
    · intro longVersion
      obtain ⟨version, fields, -⟩ := longVersion.1
      have accepted := exactly.mpr (.inr ⟨⟨version, fields⟩, longVersion.2⟩)
      exact longVersion.refused accepted
  · intro condition
    obtain ⟨present, noNullOption, noLongVersion⟩ := condition
    rw [validateActionPlanContract_ok_iff]
    constructor
    · intro accepted
      rcases accepted with absent | null | ⟨versioned, options⟩
      · exact .inl absent
      · exact absurd null present
      · have typed := optionalFields_of_orNull options fun null =>
          noNullOption ⟨versioned, options, null⟩
        obtain ⟨version, fields, -⟩ := versioned
        exact .inr ⟨⟨version, fields⟩, typed⟩
    · intro meets
      rcases meets with absent | ⟨⟨version, fields⟩, options⟩
      · exact .inl absent
      · refine .inr (.inr ⟨⟨version, fields, ?_⟩, options.orNull⟩)
        intro long
        exact noLongVersion ⟨⟨version, fields, long⟩, options⟩

/-- With `schema_version: null` a plan passes with any fields. -/
theorem nullVersion_accepted :
    ¬ ContractKept [("schema_version", .null), ("operator_note", .int 1)] := by
  intro kept
  rcases kept.1.mp rfl with absent | ⟨⟨version, fields⟩, -⟩
  · cases absent
  · cases fields.discriminator

end TopLevel

section Parameters

variable {action : Value} {parameters : List (String × Value)}

/-- The contract of an action and its parameters. -/
structure MeetsParameterContract (name : String)
    (parameters : List (String × Value)) : Prop where
  schema : ∃ expectedSchema,
    actionParameterSchema.lookup name = some expectedSchema ∧
      MatchesSchema expectedSchema parameters
  date : name = "backfill_silver" →
    validateDateKst (Value.get parameters "date_kst") = .ok ()

def ParameterContractKept (action : Value)
    (parameters : List (String × Value)) : Prop :=
  (validateActionPlan action parameters = .ok () ↔
    ∃ name, action = .str name ∧ MeetsParameterContract name parameters) ∧
  ∀ exc, validateActionPlan action parameters = .error exc →
    exc.cls = .valueError

theorem validateActionPlan_ok_iff_meets :
    validateActionPlan action parameters = .ok () ↔
      ∃ name, action = .str name ∧ MeetsParameterContract name parameters := by
  rw [validateActionPlan_ok_iff]
  constructor
  · intro accepted
    obtain ⟨name, expectedSchema, same, found, fits, date⟩ := accepted
    exact ⟨name, same, ⟨expectedSchema, found, fits⟩, date⟩
  · intro meets
    obtain ⟨name, same, ⟨expectedSchema, found, fits⟩, date⟩ := meets
    exact ⟨name, expectedSchema, same, found, fits, date⟩

theorem validateDateKst_error {dateKst : Value} {exc : Exc}
    (refused : validateDateKst dateKst = .error exc) :
    exc.cls = .valueError := by
  unfold validateDateKst at refused
  split at refused
  · split at refused
    · cases refused
      rfl
    · split at refused
      · cases refused
        rfl
      · cases refused
  · cases refused
    rfl

theorem intText_error {value : Int} {exc : Exc}
    (refused : Value.intText value = .error exc) : exc.cls = .valueError := by
  unfold Value.intText at refused
  split at refused
  · cases refused
    rfl
  · cases refused

/-- Only an integer can be without a text, among the hashable values. -/
theorem toStr_error {exc : Exc} (hashable : action.hashable = true)
    (refused : action.toStr 0 = .error exc) : exc.cls = .valueError := by
  cases action with
  | list items => cases hashable
  | dict entries => cases hashable
  | int value =>
      apply intText_error
      rw [Value.toStr, Value.repr] at refused
      · exact refused
      all_goals simp
  | _ => simp [Value.toStr, Value.repr] at refused

theorem mention_valueError {message : String → String}
    (hashable : action.hashable = true) :
    (Value.mention (action.toStr 0) fun name =>
      .valueError (message name)).cls = .valueError := by
  unfold Value.mention
  split
  · rfl
  · rename_i exc refused
    exact toStr_error hashable refused

theorem validateActionPlan_error {exc : Exc} (hashable : action.hashable = true)
    (refused : validateActionPlan action parameters = .error exc) :
    exc.cls = .valueError := by
  unfold validateActionPlan at refused
  rw [if_neg (by simp [hashable])] at refused
  split at refused
  · obtain rfl := Except.error.inj refused
    exact mention_valueError hashable
  · dsimp only at refused
    split at refused
    · obtain rfl := Except.error.inj refused
      exact mention_valueError hashable
    · split at refused
      · obtain rfl := Except.error.inj refused
        exact mention_valueError hashable
      · split at refused
        · obtain rfl := Except.error.inj refused
          exact mention_valueError hashable
        · split at refused
          · exact validateDateKst_error refused
          · cases refused

/-- The membership test on the schema raises for a list or an object, before
any refusal of the validator. -/
theorem validateActionPlan_unhashable (unhashable : action.hashable = false)
    (parameters : List (String × Value)) :
    validateActionPlan action parameters =
      .error (.typeError ("unhashable type: '" ++ action.typeName ++ "'")) := by
  rw [validateActionPlan, if_pos (by simp [unhashable])]

theorem parameterContractKept_iff :
    ParameterContractKept action parameters ↔ action.hashable = true := by
  unfold ParameterContractKept
  rw [and_iff_right validateActionPlan_ok_iff_meets]
  constructor
  · intro refusals
    by_contra unhashable
    cases refusals _ (validateActionPlan_unhashable
      (Bool.eq_false_iff.mpr unhashable) parameters)
  · intro hashable exc
    exact validateActionPlan_error hashable

theorem listAction_typeError :
    ¬ ParameterContractKept (.list [.str "retry_pipeline"])
      [("pipeline", .str "pipeline_silver"), ("run_mode", .str "full")] := by
  intro kept
  cases kept.2 _ rfl

end Parameters

end PipelineOps.Orchestrator
