import PipelineOps.Library.Draft
import PipelineOps.Python.Value

namespace PipelineOps.Yaml

open PipelineOps.Library
open PipelineOps.Python

/-! PyYAML's construction of objects from a composed document: the dispatch by
tag, and the completion of what a generator left open. A document without
aliases is a tree, in which `construct_object` meets every node once. -/

variable {κ μ : Type}

inductive Node (μ : Type) where
  | scalar (tag text : String) (startMark : μ)
  | sequence (tag : String) (items : List (Node μ)) (startMark : μ)
  | mapping (tag : String) (entries : List (Node μ × Node μ)) (startMark : μ)

def Node.tag : Node μ → String
  | .scalar tag _ _ => tag
  | .sequence tag _ _ => tag
  | .mapping tag _ _ => tag

def Node.startMark : Node μ → μ
  | .scalar _ _ startMark => startMark
  | .sequence _ _ startMark => startMark
  | .mapping _ _ startMark => startMark

def Node.className : Node μ → String
  | .scalar _ _ _ => "ScalarNode"
  | .sequence _ _ _ => "SequenceNode"
  | .mapping _ _ _ => "MappingNode"

/-- `ConstructorError` with its context and its problem, or any other
exception. -/
inductive LoadError (μ : Type) where
  | constructorError (context : Option String) (contextMark : Option μ)
      (problem : String) (problemMark : Option μ)
  | raised (exc : Exc)

def LoadError.IsConstructorError : LoadError μ → Prop
  | .constructorError _ _ _ _ => True
  | .raised _ => False

/-- An object over the hashable objects `κ`. A part that waits is a container
whose generator is not exhausted. -/
abbrev Data (κ μ : Type) : Type := Draft (LoadError μ) κ

/-- A node below the one that is constructed, with the outcome of a call of
`construct_object` on it. -/
structure Child (κ μ : Type) where
  node : Node μ
  constructed : Except (LoadError μ) (Data κ μ)

/-- The node that a constructor is called with. -/
inductive View (κ μ : Type) where
  | scalar (tag text : String) (startMark : μ)
  | sequence (tag : String) (items : List (Child κ μ)) (startMark : μ)
  | mapping (tag : String) (entries : List (Child κ μ × Child κ μ))
      (startMark : μ)

def View.id : View κ μ → String
  | .scalar _ _ _ => "scalar"
  | .sequence _ _ _ => "sequence"
  | .mapping _ _ _ => "mapping"

def View.startMark : View κ μ → μ
  | .scalar _ _ startMark => startMark
  | .sequence _ _ startMark => startMark
  | .mapping _ _ startMark => startMark

/-- A constructor is a function, or a generator that first yields an empty
container. -/
inductive Constructor (κ μ : Type) where
  | function (run : View κ μ → Except (LoadError μ) (Data κ μ))
  | generator (run : View κ μ → Except (LoadError μ) (Data κ μ))

def Constructor.call :
    Constructor κ μ → View κ μ → Except (LoadError μ) (Data κ μ)
  | .function run, view => run view
  | .generator run, view => .ok (.deferred (run view))

/-- The registry `yaml_constructors`, with the entry for `None` as default. -/
abbrev Loader (κ μ : Type) : Type := String → Constructor κ μ

def Loader.addConstructor (loader : Loader κ μ) (tag : String)
    (constructor : Constructor κ μ) : Loader κ μ :=
  fun other => if other = tag then constructor else loader other

mutual
/-- `construct_object`, which is never asked for a deep construction here. -/
def constructObject (loader : Loader κ μ) :
    Node μ → Except (LoadError μ) (Data κ μ)
  | .scalar tag text startMark =>
      (loader tag).call (.scalar tag text startMark)
  | .sequence tag items startMark =>
      (loader tag).call (.sequence tag (constructItems loader items) startMark)
  | .mapping tag entries startMark =>
      (loader tag).call
        (.mapping tag (constructEntries loader entries) startMark)

def constructItems (loader : Loader κ μ) : List (Node μ) → List (Child κ μ)
  | [] => []
  | item :: rest =>
      ⟨item, constructObject loader item⟩ :: constructItems loader rest

def constructEntries (loader : Loader κ μ) :
    List (Node μ × Node μ) → List (Child κ μ × Child κ μ)
  | [] => []
  | (key, value) :: rest =>
      (⟨key, constructObject loader key⟩, ⟨value, constructObject loader value⟩)
        :: constructEntries loader rest
end

/-- `construct_document`: the rounds over `state_generators`. -/
def constructDocument (loader : Loader κ μ) (node : Node μ) :
    Except (LoadError μ) (Data κ μ) := do
  let data ← constructObject loader node
  data.complete

theorem constructItems_eq_map (loader : Loader κ μ) (items : List (Node μ)) :
    constructItems loader items =
      items.map fun item => ⟨item, constructObject loader item⟩ := by
  induction items with
  | nil => rfl
  | cons item rest induction => rw [constructItems, induction, List.map_cons]

theorem constructEntries_eq_map (loader : Loader κ μ)
    (entries : List (Node μ × Node μ)) :
    constructEntries loader entries =
      entries.map fun entry =>
        (⟨entry.1, constructObject loader entry.1⟩,
          ⟨entry.2, constructObject loader entry.2⟩) := by
  induction entries with
  | nil => rfl
  | cons entry rest induction => rw [constructEntries, induction, List.map_cons]

section SafeLoader

def seqTag : String := "tag:yaml.org,2002:seq"
def mapTag : String := "tag:yaml.org,2002:map"
def mergeTag : String := "tag:yaml.org,2002:merge"
def valueTag : String := "tag:yaml.org,2002:value"

/-- The part of `SafeLoader` that is no subject here: its constructors of
scalars and of other tags, and `construct_mapping` on a node with a key that
`flatten_mapping` changes. No constructor is registered for the tags of such
keys. `same` is the equality of keys in a `dict`. -/
structure SafeConstructors (κ μ : Type) where
  construct : View κ μ → Except (LoadError μ) κ
  flattened : View κ μ → Except (LoadError μ) (Data κ μ)
  undefined : ∀ tag, tag = mergeTag ∨ tag = valueTag → ∀ text startMark,
    ∃ error, construct (.scalar tag text startMark) = .error error
  same : κ → κ → Bool
  str : κ → Except Exc String

/-- `mapping[key] = value`. -/
def setEntry {α : Type} (same : κ → κ → Bool) (key : κ) (value : α) :
    List (κ × α) → List (κ × α)
  | [] => [(key, value)]
  | (other, old) :: rest =>
      if same other key then (other, value) :: rest
      else (other, old) :: setEntry same key value rest

variable (params : SafeConstructors κ μ)

def constructYamlSeq : View κ μ → Except (LoadError μ) (Data κ μ)
  | .sequence _ items _ => (items.mapM Child.constructed).map .list
  | view => .error (.constructorError none none
      ("expected a sequence node, but found " ++ view.id) (some view.startMark))

/-- The loop of `BaseConstructor.construct_mapping`. -/
def constructSafeEntries (startMark : μ) :
    List (Child κ μ × Child κ μ) → List (κ × Data κ μ) →
      Except (LoadError μ) (Data κ μ)
  | [], mapping => .ok (.dict mapping)
  | (keyNode, valueNode) :: rest, mapping => do
      let key ← keyNode.constructed
      match key with
      | .scalar key =>
          let value ← valueNode.constructed
          constructSafeEntries startMark rest
            (setEntry params.same key value mapping)
      | _ => .error (.constructorError (some "while constructing a mapping")
          (some startMark) "found unhashable key"
          (some keyNode.node.startMark))

def isFlattened (entry : Child κ μ × Child κ μ) : Bool :=
  entry.1.node.tag == mergeTag || entry.1.node.tag == valueTag

def constructYamlMap : View κ μ → Except (LoadError μ) (Data κ μ)
  | .mapping tag entries startMark =>
      if entries.any isFlattened then
        params.flattened (.mapping tag entries startMark)
      else constructSafeEntries params startMark entries []
  | view => .error (.constructorError none none
      ("expected a mapping node, but found " ++ view.id) (some view.startMark))

def safeLoader : Loader κ μ := fun tag =>
  if tag = seqTag then .generator constructYamlSeq
  else if tag = mapTag then .generator (constructYamlMap params)
  else .function fun view => (params.construct view).map .scalar

end SafeLoader

end PipelineOps.Yaml
