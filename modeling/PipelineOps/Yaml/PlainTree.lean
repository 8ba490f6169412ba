import PipelineOps.Yaml.Constructor

namespace PipelineOps.Yaml

open PipelineOps.Library

variable {κ μ : Type}

/-! Documents of scalars, sequences and plain mappings, and the data that they
stand for. -/

/-- A scalar that constructs to a hashable object. -/
structure Leaf (params : SafeConstructors κ μ) where
  tag : String
  text : String
  startMark : μ
  value : κ
  isScalar : tag ≠ seqTag ∧ tag ≠ mapTag
  constructs : params.construct (.scalar tag text startMark) = .ok value

/-- A document without aliases, merge keys and keys other than scalars. -/
inductive PlainTree (params : SafeConstructors κ μ) where
  | leaf (scalar : Leaf params)
  | sequence (items : List (PlainTree params)) (startMark : μ)
  | mapping (entries : List (Leaf params × PlainTree params)) (startMark : μ)

variable {params : SafeConstructors κ μ}

def Leaf.node (leaf : Leaf params) : Node μ :=
  .scalar leaf.tag leaf.text leaf.startMark

/-- `mapping.update(entries)`. -/
def setEntries {α : Type} (same : κ → κ → Bool) :
    List (κ × α) → (mapping : List (κ × α)) → List (κ × α)
  | [], mapping => mapping
  | (key, value) :: rest, mapping =>
      setEntries same rest (setEntry same key value mapping)

namespace PlainTree

theorem sizeOf_lt_sequence {items : List (PlainTree params)}
    {item : PlainTree params} (member : item ∈ items) (startMark : μ) :
    sizeOf item < sizeOf (sequence items startMark) := by
  have smaller := List.sizeOf_lt_of_mem member
  simp only [sequence.sizeOf_spec]
  omega

theorem sizeOf_lt_mapping {entries : List (Leaf params × PlainTree params)}
    {entry : Leaf params × PlainTree params} (member : entry ∈ entries)
    (startMark : μ) : sizeOf entry.2 < sizeOf (mapping entries startMark) := by
  have smaller := List.sizeOf_lt_of_mem member
  obtain ⟨key, value⟩ := entry
  simp only [mapping.sizeOf_spec, Prod.mk.sizeOf_spec] at smaller ⊢
  omega

theorem induction {motive : PlainTree params → Prop}
    (leaf : ∀ scalar, motive (.leaf scalar))
    (sequence : ∀ items startMark, (∀ item ∈ items, motive item) →
      motive (.sequence items startMark))
    (mapping : ∀ entries startMark, (∀ entry ∈ entries, motive entry.2) →
      motive (.mapping entries startMark)) : ∀ tree, motive tree
  | .leaf scalar => leaf scalar
  | .sequence items startMark => sequence items startMark fun item _ =>
      PlainTree.induction leaf sequence mapping item
  | .mapping entries startMark => mapping entries startMark fun entry _ =>
      PlainTree.induction leaf sequence mapping entry.2
  termination_by tree => sizeOf tree
  decreasing_by
    · exact sizeOf_lt_sequence ‹_› startMark
    · exact sizeOf_lt_mapping ‹_› startMark

def node : PlainTree params → Node μ
  | .leaf scalar => scalar.node
  | .sequence items startMark =>
      .sequence seqTag (items.map fun item => item.node) startMark
  | .mapping entries startMark =>
      .mapping mapTag
        (entries.map fun entry => (entry.1.node, entry.2.node)) startMark
  termination_by tree => sizeOf tree
  decreasing_by
    · exact sizeOf_lt_sequence ‹_› startMark
    · exact sizeOf_lt_mapping ‹_› startMark

/-- The data of a document: of equal keys the first one stays, with the last
value. -/
def data : PlainTree params → Data κ μ
  | .leaf scalar => .scalar scalar.value
  | .sequence items _ => .list (items.map fun item => item.data)
  | .mapping entries _ =>
      .dict (setEntries params.same
        (entries.map fun entry => (entry.1.value, entry.2.data)) [])
  termination_by tree => sizeOf tree
  decreasing_by
    · exact sizeOf_lt_sequence ‹_› (by assumption)
    · exact sizeOf_lt_mapping ‹_› (by assumption)

/-- What `SafeLoader` builds at once: every container waits. -/
def opened : PlainTree params → Data κ μ
  | .leaf scalar => .scalar scalar.value
  | .sequence items _ =>
      .deferred (.ok (.list (items.map fun item => item.opened)))
  | .mapping entries _ =>
      .deferred (.ok (.dict (setEntries params.same
        (entries.map fun entry => (entry.1.value, entry.2.opened)) [])))
  termination_by tree => sizeOf tree
  decreasing_by
    · exact sizeOf_lt_sequence ‹_› (by assumption)
    · exact sizeOf_lt_mapping ‹_› (by assumption)

end PlainTree

section SetEntry

variable {α β : Type} {same : κ → κ → Bool}

theorem setEntry_map (convert : α → β) (key : κ) (value : α)
    (mapping : List (κ × α)) :
    setEntry same key (convert value)
        (mapping.map fun entry => (entry.1, convert entry.2)) =
      (setEntry same key value mapping).map fun entry =>
        (entry.1, convert entry.2) := by
  induction mapping with
  | nil => rfl
  | cons entry rest induction =>
      rw [List.map_cons, setEntry, setEntry]
      split
      · rfl
      · rw [List.map_cons, induction]

theorem setEntries_map (convert : α → β) (entries mapping : List (κ × α)) :
    setEntries same (entries.map fun entry => (entry.1, convert entry.2))
        (mapping.map fun entry => (entry.1, convert entry.2)) =
      (setEntries same entries mapping).map fun entry =>
        (entry.1, convert entry.2) := by
  induction entries generalizing mapping with
  | nil => rfl
  | cons entry rest induction =>
      rw [List.map_cons, setEntries, setEntry_map, induction]
      rfl

theorem mem_setEntry {key : κ} {value : α} {mapping : List (κ × α)}
    {entry : κ × α} (member : entry ∈ setEntry same key value mapping) :
    entry.2 = value ∨ ∃ other ∈ mapping, entry.2 = other.2 := by
  induction mapping with
  | nil =>
      obtain rfl := List.mem_singleton.mp member
      exact .inl rfl
  | cons first rest induction =>
      rw [setEntry] at member
      split at member
      · rcases List.mem_cons.mp member with rfl | later
        · exact .inl rfl
        · exact .inr ⟨entry, List.mem_cons_of_mem _ later, rfl⟩
      · rcases List.mem_cons.mp member with rfl | later
        · exact .inr ⟨_, List.mem_cons_self, rfl⟩
        · rcases induction later with new | ⟨other, inside, old⟩
          · exact .inl new
          · exact .inr ⟨other, List.mem_cons_of_mem _ inside, old⟩

theorem mem_setEntries {entries mapping : List (κ × α)} {entry : κ × α}
    (member : entry ∈ setEntries same entries mapping) :
    (∃ other ∈ entries, entry.2 = other.2) ∨
      ∃ other ∈ mapping, entry.2 = other.2 := by
  induction entries generalizing mapping with
  | nil => exact .inr ⟨entry, member, rfl⟩
  | cons first rest induction =>
      rcases induction member with ⟨other, inside, same⟩ | ⟨other, old, same⟩
      · exact .inl ⟨other, List.mem_cons_of_mem _ inside, same⟩
      · rcases mem_setEntry old with new | ⟨before, inside, kept⟩
        · exact .inl ⟨first, List.mem_cons_self, same.trans new⟩
        · exact .inr ⟨before, inside, same.trans kept⟩

theorem setEntry_of_absent {key : κ} {value : α} {mapping : List (κ × α)}
    (absent : ∀ entry ∈ mapping, same entry.1 key = false) :
    setEntry same key value mapping = mapping ++ [(key, value)] := by
  induction mapping with
  | nil => rfl
  | cons first rest induction =>
      rw [List.forall_mem_cons] at absent
      rw [setEntry, absent.1, induction absent.2]
      rfl

/-- Entries with different keys are kept as they are. -/
theorem setEntries_of_pairwise {entries mapping : List (κ × α)}
    (apart : (mapping ++ entries).Pairwise fun earlier later =>
      same earlier.1 later.1 = false) :
    setEntries same entries mapping = mapping ++ entries := by
  induction entries generalizing mapping with
  | nil => exact (List.append_nil mapping).symm
  | cons entry rest induction =>
      have absent : ∀ other ∈ mapping, same other.1 entry.1 = false :=
        fun other member => (List.pairwise_append.mp apart).2.2 other member
          entry List.mem_cons_self
      rw [setEntries, setEntry_of_absent absent, induction]
      · rw [List.append_assoc]
        rfl
      · rw [List.append_assoc]
        exact apart

end SetEntry

section Loading

theorem safeLoader_leaf (leaf : Leaf params) :
    safeLoader params leaf.tag =
      .function fun view => (params.construct view).map .scalar := by
  rw [safeLoader, if_neg leaf.isScalar.1, if_neg leaf.isScalar.2]

variable {loader : Loader κ μ}

/-- A loader that treats scalars as `SafeLoader` does. -/
def SafeOnScalars (params : SafeConstructors κ μ) (loader : Loader κ μ) :
    Prop :=
  ∀ leaf : Leaf params, loader leaf.tag = safeLoader params leaf.tag

theorem constructObject_leaf (safe : SafeOnScalars params loader)
    (leaf : Leaf params) :
    constructObject loader leaf.node = .ok (.scalar leaf.value) := by
  rw [Leaf.node, constructObject, safe leaf, safeLoader_leaf, Constructor.call,
    leaf.constructs]
  rfl

theorem isFlattened_leaf (leaf : Leaf params)
    {constructed : Except (LoadError μ) (Data κ μ)} {value : Child κ μ} :
    isFlattened (⟨leaf.node, constructed⟩, value) = false := by
  by_contra flattened
  have tag : leaf.tag = mergeTag ∨ leaf.tag = valueTag := by
    rw [Bool.not_eq_false, isFlattened, Bool.or_eq_true, beq_iff_eq,
      beq_iff_eq] at flattened
    exact flattened
  obtain ⟨error, failed⟩ :=
    params.undefined leaf.tag tag leaf.text leaf.startMark
  rw [leaf.constructs] at failed
  cases failed

theorem constructObject_sequence
    (onSequences : loader seqTag = .generator constructYamlSeq)
    (items : List (PlainTree params)) (startMark : μ) :
    constructObject loader (PlainTree.sequence items startMark).node =
      .ok (.deferred ((items.mapM fun item =>
        constructObject loader item.node).map .list)) := by
  rw [PlainTree.node, constructObject, onSequences, Constructor.call,
    constructItems_eq_map, constructYamlSeq, List.map_map, List.mapM_map]
  rfl

/-- The entries of a plain mapping, as a constructor sees them. -/
def childEntries (loader : Loader κ μ)
    (entries : List (Leaf params × PlainTree params)) :
    List (Child κ μ × Child κ μ) :=
  entries.map fun entry =>
    (⟨entry.1.node, .ok (.scalar entry.1.value)⟩,
      ⟨entry.2.node, constructObject loader entry.2.node⟩)

theorem constructEntries_tree (safe : SafeOnScalars params loader)
    (entries : List (Leaf params × PlainTree params)) :
    constructEntries loader
        (entries.map fun entry => (entry.1.node, entry.2.node)) =
      childEntries loader entries := by
  rw [constructEntries_eq_map, List.map_map, childEntries]
  apply List.map_congr_left
  intro entry _
  rw [Function.comp_apply, constructObject_leaf safe]

theorem constructSafeEntries_tree {startMark : μ}
    {entries : List (Leaf params × PlainTree params)}
    (each : ∀ entry ∈ entries, constructObject (safeLoader params)
      entry.2.node = .ok entry.2.opened)
    (mapping : List (κ × Data κ μ)) :
    constructSafeEntries params startMark
        (childEntries (safeLoader params) entries) mapping =
      .ok (.dict (setEntries params.same
        (entries.map fun entry => (entry.1.value, entry.2.opened))
        mapping)) := by
  induction entries generalizing mapping with
  | nil => rfl
  | cons entry rest induction =>
      have further := induction fun other member =>
        each other (List.mem_cons_of_mem entry member)
      rw [childEntries, List.map_cons, constructSafeEntries,
        each entry List.mem_cons_self]
      exact further (setEntry params.same entry.1.value entry.2.opened mapping)

theorem constructObject_safeLoader (tree : PlainTree params) :
    constructObject (safeLoader params) tree.node = .ok tree.opened := by
  induction tree using PlainTree.induction with
  | leaf scalar =>
      rw [PlainTree.node, PlainTree.opened]
      exact constructObject_leaf (fun _ => rfl) scalar
  | sequence items startMark each =>
      rw [constructObject_sequence rfl, mapM_eq_ok each, PlainTree.opened]
      rfl
  | mapping entries startMark each =>
      have noneFlattened : (childEntries (safeLoader params) entries).any
          isFlattened = false := by
        rw [childEntries, List.any_map, List.any_eq_false]
        intro entry _
        rw [Function.comp_apply, isFlattened_leaf]
        exact Bool.false_ne_true
      rw [PlainTree.node, constructObject,
        constructEntries_tree (fun _ => rfl), PlainTree.opened]
      change Except.ok (Draft.deferred (constructYamlMap params _)) = _
      rw [constructYamlMap, noneFlattened, if_neg Bool.false_ne_true,
        constructSafeEntries_tree each]

theorem setEntries_tree (build : PlainTree params → Data κ μ)
    (entries : List (Leaf params × PlainTree params)) :
    setEntries params.same
        (entries.map fun entry => (entry.1.value, build entry.2)) [] =
      (setEntries params.same
        (entries.map fun entry => (entry.1.value, entry.2)) []).map
          fun entry => (entry.1, build entry.2) := by
  rw [← setEntries_map, List.map_map]
  rfl

theorem force_opened (tree : PlainTree params) :
    tree.opened.force = .ok tree.data := by
  induction tree using PlainTree.induction with
  | leaf scalar =>
      rw [PlainTree.opened, PlainTree.data]
      rfl
  | sequence items startMark each =>
      have forced : items.mapM (Draft.force ∘ fun item => item.opened) =
          .ok (items.map fun item => item.data) := mapM_eq_ok each
      rw [PlainTree.opened, PlainTree.data, Draft.force, Draft.force,
        Draft.forceItems_eq_mapM, List.mapM_map, forced]
      rfl
  | mapping entries startMark each =>
      rw [PlainTree.opened, PlainTree.data, Draft.force, Draft.force,
        Draft.forceEntries_eq_mapM, setEntries_tree fun tree => tree.opened,
        setEntries_tree fun tree => tree.data, List.mapM_map]
      refine congrArg (Except.map Draft.dict) (mapM_eq_ok ?_)
      intro entry member
      rcases mem_setEntries member with ⟨other, inside, same⟩ | ⟨_, none, _⟩
      · obtain ⟨original, known, rfl⟩ := List.mem_map.mp inside
        rw [Function.comp_apply, same, each original known]
        rfl
      · cases none

/-- `SafeLoader` loads the data of a document. -/
theorem constructDocument_safeLoader (tree : PlainTree params) :
    constructDocument (safeLoader params) tree.node = .ok tree.data := by
  rw [constructDocument, constructObject_safeLoader]
  exact Draft.complete_of_force (force_opened tree)

end Loading

end PipelineOps.Yaml
