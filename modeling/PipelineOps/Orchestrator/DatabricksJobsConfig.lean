import PipelineOps.Python.Digits
import PipelineOps.Python.JsonText
import PipelineOps.Yaml.PlainTree

namespace PipelineOps.Orchestrator

open PipelineOps.Library
open PipelineOps.Python
open PipelineOps.Yaml

variable {κ μ : Type}

section UniqueKeyLoader

variable (params : SafeConstructors κ μ)

/-- The `ConstructorError` of a duplicate key, whose message needs the text of
the key. -/
def duplicateKeyError (startMark : μ) (key : κ) (keyMark : μ) : LoadError μ :=
  match params.str key with
  | .ok text => .constructorError (some "while constructing a mapping")
      (some startMark) ("Duplicate key: " ++ text) (some keyMark)
  | .error exc => .raised exc

def unhashableName : Data κ μ → String
  | .dict _ => "dict"
  | _ => "list"

/-- The loop of `_construct_mapping`. -/
def constructUniqueEntries (startMark : μ) :
    List (Child κ μ × Child κ μ) → List (κ × Data κ μ) →
      Except (LoadError μ) (Data κ μ)
  | [], mapping => .ok (.dict mapping)
  | (keyNode, valueNode) :: rest, mapping => do
      let key ← keyNode.constructed
      match key with
      | .scalar key =>
          if mapping.any fun entry => params.same entry.1 key then
            .error (duplicateKeyError params startMark key
              keyNode.node.startMark)
          else
            let value ← valueNode.constructed
            constructUniqueEntries startMark rest
              (setEntry params.same key value mapping)
      | key => .error (.raised
          (.typeError ("unhashable type: '" ++ unhashableName key ++ "'")))

/-- `_construct_mapping`. A node of another kind has a `value` that does not
unpack into pairs, unless it is empty. -/
def constructMapping : View κ μ → Except (LoadError μ) (Data κ μ)
  | .mapping _ entries startMark =>
      constructUniqueEntries params startMark entries []
  | .scalar _ text _ =>
      if text = "" then .ok (.dict [])
      else .error (.raised
        (.valueError "not enough values to unpack (expected 2, got 1)"))
  | .sequence _ [] _ => .ok (.dict [])
  | .sequence _ (item :: _) _ => .error (.raised (.typeError
      ("cannot unpack non-iterable " ++ item.node.className ++ " object")))

/-- `_UniqueKeyLoader`. -/
def uniqueKeyLoader : Loader κ μ :=
  (safeLoader params).addConstructor mapTag
    (.function (constructMapping params))

end UniqueKeyLoader

variable {params : SafeConstructors κ μ}

/-- Two keys of one mapping construct to equal values. -/
def RepeatsKey (entries : List (Leaf params × PlainTree params)) : Prop :=
  ∃ first second, [first, second].Sublist entries ∧
    params.same first.1.value second.1.value = true

/-- The mappings of a document, also those below sequences. -/
def mappings : PlainTree params → List (List (Leaf params × PlainTree params))
  | .leaf _ => []
  | .sequence items _ => items.flatMap fun item => mappings item
  | .mapping entries _ =>
      entries :: entries.flatMap fun entry => mappings entry.2
  termination_by tree => sizeOf tree
  decreasing_by
    · exact PlainTree.sizeOf_lt_sequence ‹_› (by assumption)
    · exact PlainTree.sizeOf_lt_mapping ‹_› (by assumption)

def HasDuplicateKey (tree : PlainTree params) : Prop :=
  ∃ entries ∈ mappings tree, RepeatsKey entries

/-- Duplicate keys are refused at any depth, and nothing else changes. -/
def RefusesDuplicates (tree : PlainTree params) : Prop :=
  ((∃ error, constructDocument (uniqueKeyLoader params) tree.node =
      .error error ∧ error.IsConstructorError) ↔
    HasDuplicateKey tree) ∧
  (¬ HasDuplicateKey tree →
    constructDocument (uniqueKeyLoader params) tree.node =
      constructDocument (safeLoader params) tree.node)

section Duplicates

/-! The order in which a load meets duplicate keys: those that lie below fewer
sequences first, then in the order of the document. -/

structure Duplicate (κ μ : Type) where
  startMark : μ
  key : κ
  keyMark : μ

def mappingDuplicates (startMark : μ) :
    List (Leaf params × List (Duplicate κ μ)) → (seen : List κ) →
      List (Duplicate κ μ)
  | [], _ => []
  | (leaf, inner) :: rest, seen =>
      (if seen.any fun key => params.same key leaf.value then
        [⟨startMark, leaf.value, leaf.startMark⟩] else []) ++ inner ++
        mappingDuplicates startMark rest (seen ++ [leaf.value])

/-- The duplicate keys below exactly `depth` sequences. -/
def duplicatesAt : Nat → PlainTree params → List (Duplicate κ μ)
  | _, .leaf _ => []
  | 0, .sequence _ _ => []
  | depth + 1, .sequence items _ =>
      items.flatMap fun item => duplicatesAt depth item
  | 0, .mapping entries startMark =>
      mappingDuplicates startMark
        (entries.map fun entry => (entry.1, duplicatesAt 0 entry.2)) []
  | depth + 1, .mapping entries _ =>
      entries.flatMap fun entry => duplicatesAt (depth + 1) entry.2
  termination_by _ tree => sizeOf tree
  decreasing_by
    · exact PlainTree.sizeOf_lt_sequence ‹_› (by assumption)
    · exact PlainTree.sizeOf_lt_mapping ‹_› (by assumption)
    · exact PlainTree.sizeOf_lt_mapping ‹_› (by assumption)

def FirstDuplicate (tree : PlainTree params) (duplicate : Duplicate κ μ) :
    Prop :=
  ∃ depth, (duplicatesAt depth tree).head? = some duplicate ∧
    ∀ earlier < depth, duplicatesAt earlier tree = []

theorem mappingDuplicates_eq_nil_iff {startMark : μ}
    {entries : List (Leaf params × List (Duplicate κ μ))} {seen : List κ} :
    mappingDuplicates startMark entries seen = [] ↔
      (∀ entry ∈ entries, entry.2 = []) ∧
      (∀ key ∈ seen, ∀ entry ∈ entries,
        params.same key entry.1.value = false) ∧
      entries.Pairwise fun earlier later =>
        params.same earlier.1.value later.1.value = false := by
  induction entries generalizing seen with
  | nil => simp [mappingDuplicates]
  | cons entry rest induction =>
      obtain ⟨leaf, inner⟩ := entry
      have unseen : (if seen.any fun key => params.same key leaf.value then
          [(⟨startMark, leaf.value, leaf.startMark⟩ : Duplicate κ μ)]
          else []) = [] ↔
          ∀ key ∈ seen, params.same key leaf.value = false := by
        rw [ite_eq_right_iff]
        simp
      rw [mappingDuplicates, List.append_eq_nil_iff, List.append_eq_nil_iff,
        unseen, induction]
      simp only [List.forall_mem_cons, List.forall_mem_append,
        List.pairwise_cons, List.not_mem_nil, false_imp_iff, implies_true,
        and_true]
      constructor
      · rintro ⟨⟨new, empty⟩, others, ⟨apart, fromLeaf⟩, pairwise⟩
        exact ⟨⟨empty, others⟩,
          fun key member => ⟨new key member, apart key member⟩, fromLeaf,
          pairwise⟩
      · rintro ⟨⟨empty, others⟩, apart, fromLeaf, pairwise⟩
        exact ⟨⟨fun key member => (apart key member).1, empty⟩, others,
          ⟨fun key member => (apart key member).2, fromLeaf⟩, pairwise⟩

theorem not_repeatsKey_iff {entries : List (Leaf params × PlainTree params)} :
    ¬ RepeatsKey entries ↔ entries.Pairwise fun earlier later =>
      params.same earlier.1.value later.1.value = false := by
  rw [List.pairwise_iff_forall_sublist, RepeatsKey]
  constructor
  · intro apart first second inside
    exact Bool.eq_false_iff.mpr fun same =>
      apart ⟨first, second, inside, same⟩
  · rintro apart ⟨first, second, inside, same⟩
    rw [apart inside] at same
    cases same

theorem duplicatesAt_zero_mapping_eq_nil_iff {startMark : μ}
    {entries : List (Leaf params × PlainTree params)} :
    duplicatesAt 0 (.mapping entries startMark) = [] ↔
      ¬ RepeatsKey entries ∧
      ∀ entry ∈ entries, duplicatesAt 0 entry.2 = [] := by
  rw [duplicatesAt, mappingDuplicates_eq_nil_iff, not_repeatsKey_iff,
    List.forall_mem_map, List.pairwise_map, and_comm]
  simp

theorem not_hasDuplicateKey_sequence {items : List (PlainTree params)}
    {startMark : μ} :
    ¬ HasDuplicateKey (.sequence items startMark) ↔
      ∀ item ∈ items, ¬ HasDuplicateKey item := by
  simp only [HasDuplicateKey, mappings, List.mem_flatMap, not_exists, not_and,
    forall_exists_index, and_imp]
  constructor
  · intro none item member entries inside
    exact none entries item member inside
  · intro none entries item member inside
    exact none item member entries inside

theorem not_hasDuplicateKey_mapping
    {entries : List (Leaf params × PlainTree params)} {startMark : μ} :
    ¬ HasDuplicateKey (.mapping entries startMark) ↔
      ¬ RepeatsKey entries ∧
      ∀ entry ∈ entries, ¬ HasDuplicateKey entry.2 := by
  simp only [HasDuplicateKey, mappings, List.mem_cons, List.mem_flatMap,
    not_exists, not_and, forall_eq_or_imp, forall_exists_index, and_imp]
  refine and_congr_right fun _ => ?_
  constructor
  · intro none entry member others inside
    exact none others entry member inside
  · intro none others entry member inside
    exact none entry member others inside

/-- Every duplicate key lies below some number of sequences. -/
theorem not_hasDuplicateKey_iff (tree : PlainTree params) :
    ¬ HasDuplicateKey tree ↔ ∀ depth, duplicatesAt depth tree = [] := by
  induction tree using PlainTree.induction with
  | leaf scalar => simp [HasDuplicateKey, mappings, duplicatesAt]
  | sequence items startMark each =>
      rw [not_hasDuplicateKey_sequence]
      constructor
      · intro none depth
        cases depth with
        | zero => rw [duplicatesAt]
        | succ depth =>
            rw [duplicatesAt, List.flatMap_eq_nil_iff]
            exact fun item member =>
              (each item member).mp (none item member) depth
      · intro empty item member
        rw [each item member]
        intro depth
        have all := empty (depth + 1)
        rw [duplicatesAt, List.flatMap_eq_nil_iff] at all
        exact all item member
  | mapping entries startMark each =>
      rw [not_hasDuplicateKey_mapping]
      constructor
      · rintro ⟨apart, none⟩ depth
        have inside := fun entry member =>
          (each entry member).mp (none entry member) depth
        cases depth with
        | zero => exact duplicatesAt_zero_mapping_eq_nil_iff.mpr ⟨apart, inside⟩
        | succ depth =>
            rw [duplicatesAt, List.flatMap_eq_nil_iff]
            exact inside
      · intro empty
        have here := duplicatesAt_zero_mapping_eq_nil_iff.mp (empty 0)
        refine ⟨here.1, fun entry member => (each entry member).mpr ?_⟩
        intro depth
        cases depth with
        | zero => exact here.2 entry member
        | succ depth =>
            have all := empty (depth + 1)
            rw [duplicatesAt, List.flatMap_eq_nil_iff] at all
            exact all entry member

theorem exists_firstDuplicate {tree : PlainTree params}
    (duplicates : HasDuplicateKey tree) :
    ∃ duplicate, FirstDuplicate tree duplicate := by
  have found : ∃ depth, duplicatesAt depth tree ≠ [] := by
    by_contra none
    exact (not_hasDuplicateKey_iff tree).mpr
      (fun depth => not_not.mp (not_exists.mp none depth)) duplicates
  have first := Nat.find_spec found
  obtain ⟨duplicate, rest, known⟩ := List.exists_cons_of_ne_nil first
  refine ⟨duplicate, Nat.find found, ?_, ?_⟩
  · rw [known]
    rfl
  · exact fun earlier before => not_not.mp (Nat.find_min found before)

theorem FirstDuplicate.hasDuplicateKey {tree : PlainTree params}
    {duplicate : Duplicate κ μ} (first : FirstDuplicate tree duplicate) :
    HasDuplicateKey tree := by
  obtain ⟨depth, head, -⟩ := first
  by_contra none
  rw [(not_hasDuplicateKey_iff tree).mp none depth] at head
  cases head

end Duplicates

section Loading

def Duplicate.error (params : SafeConstructors κ μ)
    (duplicate : Duplicate κ μ) : LoadError μ :=
  duplicateKeyError params duplicate.startMark duplicate.key duplicate.keyMark

def errorsAt (depth : Nat) (tree : PlainTree params) : List (LoadError μ) :=
  (duplicatesAt depth tree).map (Duplicate.error params)

/-- The data after so many rounds of a load that meets no duplicate key: the
sequences that lie below more sequences still wait. -/
def unfolded : Nat → PlainTree params → Data κ μ
  | _, .leaf scalar => .scalar scalar.value
  | 0, .sequence items _ => .deferred ((items.mapM fun item =>
      constructObject (uniqueKeyLoader params) item.node).map .list)
  | depth + 1, .sequence items _ =>
      .list (items.map fun item => unfolded depth item)
  | depth, .mapping entries _ =>
      .dict (entries.map fun entry => (entry.1.value, unfolded depth entry.2))
  termination_by _ tree => sizeOf tree
  decreasing_by
    · exact PlainTree.sizeOf_lt_sequence ‹_› (by assumption)
    · exact PlainTree.sizeOf_lt_mapping ‹_› (by assumption)

theorem mapTag_ne_seqTag : mapTag ≠ seqTag := by decide

theorem uniqueKeyLoader_of_ne {tag : String} (other : tag ≠ mapTag) :
    uniqueKeyLoader params tag = safeLoader params tag := by
  rw [uniqueKeyLoader, Loader.addConstructor, if_neg other]

theorem uniqueKeyLoader_map :
    uniqueKeyLoader params mapTag = .function (constructMapping params) := by
  rw [uniqueKeyLoader, Loader.addConstructor, if_pos rfl]

theorem safeOnScalars_uniqueKeyLoader :
    SafeOnScalars params (uniqueKeyLoader params) :=
  fun leaf => uniqueKeyLoader_of_ne leaf.isScalar.2

theorem uniqueKeyLoader_seq :
    uniqueKeyLoader params seqTag = .generator constructYamlSeq := by
  rw [uniqueKeyLoader_of_ne mapTag_ne_seqTag.symm, safeLoader, if_pos rfl]

theorem constructUniqueEntries_tree {startMark : μ}
    {entries : List (Leaf params × PlainTree params)}
    (each : ∀ entry ∈ entries,
      constructObject (uniqueKeyLoader params) entry.2.node =
        firstFailure (errorsAt 0 entry.2) (unfolded 0 entry.2))
    (mapping : List (κ × Data κ μ)) :
    constructUniqueEntries params startMark
        (childEntries (uniqueKeyLoader params) entries) mapping =
      firstFailure
        ((mappingDuplicates startMark
          (entries.map fun entry => (entry.1, duplicatesAt 0 entry.2))
          (mapping.map Prod.fst)).map (Duplicate.error params))
        (.dict (mapping ++
          entries.map fun entry => (entry.1.value, unfolded 0 entry.2))) := by
  induction entries generalizing mapping with
  | nil =>
      rw [List.map_nil, List.map_nil, List.append_nil]
      rfl
  | cons entry rest induction =>
      have further := induction fun other member =>
        each other (List.mem_cons_of_mem entry member)
      have sameKeys : (mapping.map Prod.fst).any (fun key =>
            params.same key entry.1.value) =
          mapping.any fun other => params.same other.1 entry.1.value := by
        rw [List.any_map]
        rfl
      rw [childEntries, List.map_cons, constructUniqueEntries, List.map_cons,
        mappingDuplicates, sameKeys]
      change (if mapping.any (fun other => params.same other.1 entry.1.value)
        then _ else _) = _
      by_cases seen :
        mapping.any (fun other => params.same other.1 entry.1.value) = true
      · rw [if_pos seen, if_pos seen]
        rfl
      · rw [if_neg seen, if_neg seen, List.nil_append,
          each entry List.mem_cons_self, List.map_append]
        have absent : ∀ other ∈ mapping,
            params.same other.1 entry.1.value = false := by
          rw [Bool.not_eq_true, List.any_eq_false] at seen
          exact fun other member => Bool.eq_false_iff.mpr (seen other member)
        refine firstFailure_bind ?_
        rw [setEntry_of_absent absent]
        have rest := further
          (mapping ++ [(entry.1.value, unfolded 0 entry.2)])
        rw [List.map_append, List.append_assoc] at rest
        exact rest

theorem constructObject_uniqueKeyLoader (tree : PlainTree params) :
    constructObject (uniqueKeyLoader params) tree.node =
      firstFailure (errorsAt 0 tree) (unfolded 0 tree) := by
  induction tree using PlainTree.induction with
  | leaf scalar =>
      rw [PlainTree.node, unfolded, errorsAt, duplicatesAt]
      exact constructObject_leaf safeOnScalars_uniqueKeyLoader scalar
  | sequence items startMark each =>
      rw [constructObject_sequence uniqueKeyLoader_seq, unfolded, errorsAt,
        duplicatesAt]
      rfl
  | mapping entries startMark each =>
      rw [PlainTree.node, constructObject, uniqueKeyLoader_map,
        Constructor.call,
        constructEntries_tree safeOnScalars_uniqueKeyLoader, constructMapping,
        constructUniqueEntries_tree each, errorsAt, duplicatesAt, unfolded]
      rfl

theorem round_unfolded (depth : Nat) (tree : PlainTree params) :
    (unfolded depth tree).round =
      firstFailure (errorsAt (depth + 1) tree) (unfolded (depth + 1) tree) := by
  induction tree using PlainTree.induction generalizing depth with
  | leaf scalar =>
      rw [unfolded, errorsAt, duplicatesAt, unfolded]
      rfl
  | sequence items startMark each =>
      cases depth with
      | zero =>
          rw [unfolded, Draft.round, mapM_firstFailure fun item _ =>
            constructObject_uniqueKeyLoader item, map_firstFailure, unfolded,
            errorsAt, duplicatesAt, List.map_flatMap]
          rfl
      | succ depth =>
          have inside : items.mapM
                (Draft.round ∘ fun item => unfolded depth item) =
              firstFailure (items.flatMap (errorsAt (depth + 1)))
                (items.map (unfolded (depth + 1))) :=
            mapM_firstFailure fun item member => each item member depth
          rw [unfolded, Draft.round, Draft.roundItems_eq_mapM, List.mapM_map,
            inside, map_firstFailure, unfolded, errorsAt, duplicatesAt,
            List.map_flatMap]
          rfl
  | mapping entries startMark each =>
      have inside : entries.mapM (fun entry =>
            (unfolded depth entry.2).round.map fun value =>
              (entry.1.value, value)) =
          firstFailure
            (entries.flatMap fun entry => errorsAt (depth + 1) entry.2)
            (entries.map fun entry =>
              (entry.1.value, unfolded (depth + 1) entry.2)) := by
        apply mapM_firstFailure
        intro entry member
        rw [each entry member depth, map_firstFailure]
      rw [unfolded, Draft.round, Draft.roundEntries_eq_mapM, List.mapM_map]
      change Except.map Draft.dict (entries.mapM fun entry =>
        (unfolded depth entry.2).round.map fun value =>
          (entry.1.value, value)) = _
      rw [inside, map_firstFailure, unfolded, errorsAt, duplicatesAt,
        List.map_flatMap]
      rfl

theorem errorsAt_eq_nil {depth : Nat} {tree : PlainTree params}
    (none : duplicatesAt depth tree = []) : errorsAt depth tree = [] := by
  rw [errorsAt, none]
  rfl

/-- A load with duplicate keys raises the exception of the first of them. -/
theorem constructDocument_of_firstDuplicate {tree : PlainTree params}
    {duplicate : Duplicate κ μ} (first : FirstDuplicate tree duplicate) :
    constructDocument (uniqueKeyLoader params) tree.node =
      .error (duplicate.error params) := by
  obtain ⟨depth, head, earlier⟩ := first
  have failing : (errorsAt depth tree).head? =
      some (duplicate.error params) := by
    rw [errorsAt, List.head?_map, head]
    rfl
  rw [constructDocument, constructObject_uniqueKeyLoader]
  cases depth with
  | zero =>
      rw [firstFailure_of_head? failing]
      rfl
  | succ depth =>
      rw [errorsAt_eq_nil (earlier 0 (Nat.zero_lt_succ depth))]
      refine @Draft.complete_of_failure _ _ (fun number =>
        unfolded number tree) depth _ ?_ ?_
      · intro number before
        rw [round_unfolded, errorsAt_eq_nil (earlier (number + 1) (by omega))]
        rfl
      · rw [round_unfolded, firstFailure_of_head? failing]

theorem constructObject_of_no_duplicate {tree : PlainTree params}
    (none : ¬ HasDuplicateKey tree) :
    constructObject (uniqueKeyLoader params) tree.node =
      .ok (unfolded 0 tree) := by
  rw [constructObject_uniqueKeyLoader,
    errorsAt_eq_nil ((not_hasDuplicateKey_iff tree).mp none 0)]
  rfl

theorem force_unfolded {tree : PlainTree params}
    (none : ¬ HasDuplicateKey tree) :
    (unfolded 0 tree).force = .ok tree.data := by
  induction tree using PlainTree.induction with
  | leaf scalar =>
      rw [unfolded, PlainTree.data]
      rfl
  | sequence items startMark each =>
      rw [not_hasDuplicateKey_sequence] at none
      have built : items.mapM (fun item =>
          constructObject (uniqueKeyLoader params) item.node) =
          .ok (items.map (unfolded 0)) :=
        mapM_eq_ok fun item member =>
          constructObject_of_no_duplicate (none item member)
      have forced : items.mapM (Draft.force ∘ unfolded 0) =
          .ok (items.map fun item => item.data) :=
        mapM_eq_ok fun item member => each item member (none item member)
      rw [unfolded, built, PlainTree.data]
      change (Draft.list (items.map (unfolded 0))).force = _
      rw [Draft.force, Draft.forceItems_eq_mapM, List.mapM_map, forced]
      rfl
  | mapping entries startMark each =>
      rw [not_hasDuplicateKey_mapping, not_repeatsKey_iff] at none
      obtain ⟨apart, none⟩ := none
      have distinct : (([] : List (κ × Data κ μ)) ++ entries.map fun entry =>
            (entry.1.value, entry.2.data)).Pairwise fun earlier later =>
          params.same earlier.1 later.1 = false := by
        rw [List.nil_append, List.pairwise_map]
        exact apart
      rw [unfolded, PlainTree.data, Draft.force, Draft.forceEntries_eq_mapM,
        List.mapM_map, setEntries_of_pairwise distinct]
      refine congrArg (Except.map Draft.dict) (mapM_eq_ok ?_)
      intro entry member
      rw [Function.comp_apply, each entry member (none entry member)]
      rfl

theorem constructDocument_of_no_duplicate {tree : PlainTree params}
    (none : ¬ HasDuplicateKey tree) :
    constructDocument (uniqueKeyLoader params) tree.node = .ok tree.data := by
  rw [constructDocument, constructObject_of_no_duplicate none]
  exact Draft.complete_of_force (force_unfolded none)

end Loading

theorem not_refusesDuplicates_of_unwritten {tree : PlainTree params}
    {duplicate : Duplicate κ μ} (first : FirstDuplicate tree duplicate)
    {exc : Exc} (unwritten : params.str duplicate.key = .error exc) :
    ¬ RefusesDuplicates tree := by
  rintro ⟨raises, -⟩
  obtain ⟨error, failed, isConstructorError⟩ :=
    raises.mpr first.hasDuplicateKey
  rw [constructDocument_of_firstDuplicate first] at failed
  cases failed
  rw [Duplicate.error, duplicateKeyError, unwritten] at isConstructorError
  cases isConstructorError

/-- Duplicate keys are refused unless the first of them has no text: then the
message of the exception cannot be built. -/
theorem refusesDuplicates_iff (params : SafeConstructors κ μ)
    (tree : PlainTree params) :
    RefusesDuplicates tree ↔
      ∀ duplicate, FirstDuplicate tree duplicate →
        ∃ text, params.str duplicate.key = .ok text := by
  constructor
  · intro refuses duplicate first
    cases written : params.str duplicate.key with
    | ok text => exact ⟨text, rfl⟩
    | error exc =>
        exact absurd refuses (not_refusesDuplicates_of_unwritten first written)
  · intro hasText
    refine ⟨⟨?_, ?_⟩, ?_⟩
    · rintro ⟨error, failed, -⟩
      by_contra none
      rw [constructDocument_of_no_duplicate none] at failed
      cases failed
    · intro duplicates
      obtain ⟨duplicate, first⟩ := exists_firstDuplicate duplicates
      obtain ⟨text, written⟩ := hasText duplicate first
      refine ⟨_, constructDocument_of_firstDuplicate first, ?_⟩
      rw [Duplicate.error, duplicateKeyError, written]
      trivial
    · intro none
      rw [constructDocument_of_no_duplicate none, constructDocument_safeLoader]

section OversizedKey

/-! Python writes no integer of more than 4300 digits, but reads a hexadecimal
one of any length. -/

def intTag : String := "tag:yaml.org,2002:int"

def hexNumber? (total : Nat) : List Char → Option Nat
  | [] => some total
  | character :: rest => do
      let digit ← hexDigit? character
      hexNumber? (16 * total + digit) rest

/-- `construct_yaml_int` on hexadecimal literals. -/
def constructHex (view : View Int Nat) : Except (LoadError Nat) Int :=
  match view with
  | .scalar tag text startMark =>
      if tag ≠ intTag then
        .error (.constructorError none none
          ("could not determine a constructor for the tag " ++ reprText tag)
          (some startMark))
      else
        match text.toList with
        | '0' :: 'x' :: digits =>
            match hexNumber? 0 digits with
            | some number => .ok number
            | none => .error (.raised (.valueError
                ("invalid literal for int() with base 16: " ++ reprText text)))
        | _ => .error (.raised (.valueError
            ("invalid literal for int() with base 10: " ++ reprText text)))
  | view => .error (.constructorError none none
      ("expected a scalar node, but found " ++ view.id) (some view.startMark))

def hexParams : SafeConstructors Int Nat where
  construct := constructHex
  flattened := fun view => .error (.constructorError
    (some "while constructing a mapping") (some view.startMark)
    "expected a mapping or list of mappings for merging" (some view.startMark))
  undefined := by
    intro tag undefined text startMark
    have other : tag ≠ intTag := by
      rcases undefined with rfl | rfl <;> decide
    exact ⟨_, if_pos other⟩
  same := fun first second => decide (first = second)
  str := Value.intText

theorem hexNumber?_zeros (total zeros : Nat) :
    hexNumber? total (List.replicate zeros '0') =
      some (16 ^ zeros * total) := by
  induction zeros generalizing total with
  | zero => simp [hexNumber?]
  | succ zeros induction =>
      rw [List.replicate_succ, hexNumber?]
      change hexNumber? (16 * total + 0) _ = _
      rw [Nat.add_zero, induction, pow_succ, Nat.mul_assoc]

def powerText (zeros : Nat) : String :=
  String.ofList ('0' :: 'x' :: '1' :: List.replicate zeros '0')

/-- The key `0x10...0` at the start of a line. -/
def powerLeaf (zeros line : Nat) : Leaf hexParams where
  tag := intTag
  text := powerText zeros
  startMark := line
  value := ((16 ^ zeros : Nat) : Int)
  isScalar := by decide
  constructs := by
    have digits : hexNumber? 0 ('1' :: List.replicate zeros '0') =
        some (16 ^ zeros) := by
      change hexNumber? (16 * 0 + 1) _ = _
      rw [hexNumber?_zeros, Nat.mul_zero, Nat.zero_add, Nat.mul_one]
    change constructHex (.scalar intTag (powerText zeros) line) = _
    simp only [constructHex, powerText, String.toList_ofList, digits]
    rfl

theorem tenPow_le_sixteenPow (blocks : Nat) :
    10 ^ (6 * blocks) ≤ 16 ^ (5 * blocks) := by
  rw [pow_mul, pow_mul]
  exact Nat.pow_le_pow_left (by decide) blocks

theorem not_printable_sixteenPow {blocks : Nat}
    (long : Value.intMaxStrDigits ≤ 6 * blocks) :
    ¬ Printable ((16 ^ (5 * blocks) : Nat) : Int) := by
  rw [Printable, Int.natAbs_natCast, Nat.not_lt]
  exact (Nat.pow_le_pow_right (by omega) long).trans
    (tenPow_le_sixteenPow blocks)

/-- `? 0x10...0` with the value `0x1`, twice. -/
def oversizedTree (blocks : Nat) : PlainTree hexParams :=
  .mapping [(powerLeaf (5 * blocks) 0, .leaf (powerLeaf 0 1)),
    (powerLeaf (5 * blocks) 2, .leaf (powerLeaf 0 3))] 0

theorem firstDuplicate_oversizedTree (blocks : Nat) :
    FirstDuplicate (oversizedTree blocks)
      ⟨0, ((16 ^ (5 * blocks) : Nat) : Int), 2⟩ := by
  refine ⟨0, ?_, fun earlier before => absurd before (Nat.not_lt_zero _)⟩
  rw [oversizedTree, duplicatesAt]
  simp only [List.map_cons, List.map_nil, duplicatesAt]
  have same : hexParams.same (powerLeaf (5 * blocks) 0).value
      (powerLeaf (5 * blocks) 2).value = true := decide_eq_true rfl
  simp only [mappingDuplicates, List.nil_append, List.any_nil, List.any_cons,
    same]
  rfl

theorem not_refusesDuplicates_oversizedTree {blocks : Nat}
    (long : Value.intMaxStrDigits ≤ 6 * blocks) :
    ¬ RefusesDuplicates (oversizedTree blocks) := by
  obtain ⟨exc, unwritten⟩ := intText_of_not_printable
  exact not_refusesDuplicates_of_unwritten (firstDuplicate_oversizedTree blocks)
    (unwritten _ (not_printable_sixteenPow long))

theorem not_refusesDuplicates_oversized :
    ¬ RefusesDuplicates (oversizedTree 720) :=
  not_refusesDuplicates_oversizedTree (by decide)

end OversizedKey

end PipelineOps.Orchestrator
