import PipelineOps.Python.Datetime
import PipelineOps.Python.Printable

namespace PipelineOps.Python

def hexText : (width : Nat) → Nat → List Char
  | 0, _ => []
  | width + 1, code =>
      hexText width (code / 16) ++ [Nat.digitChar (code % 16)]

/-- The escapes of `repr` on a text quoted by `quote`. -/
def reprChar (quote character : Char) : List Char :=
  let code := character.toNat
  if character = quote ∨ character = '\\' then ['\\', character]
  else if character = '\n' then ['\\', 'n']
  else if character = '\r' then ['\\', 'r']
  else if character = '\t' then ['\\', 't']
  else if isPrintable character then [character]
  else if code < 0x100 then '\\' :: 'x' :: hexText 2 code
  else if code < 0x10000 then '\\' :: 'u' :: hexText 4 code
  else '\\' :: 'U' :: hexText 8 code

def reprText (text : String) : String :=
  let quote :=
    if text.toList.contains '\'' && !text.toList.contains '"' then '"'
    else '\''
  String.ofList
    (quote :: text.toList.flatMap (reprChar quote) ++ [quote])

inductive ExcClass where
  | valueError
  | typeError
  | keyError
  | attributeError
  | overflowError
  | runtimeError
  | recursionError
  | notImplementedError
  | timeoutError
  | connectionError
  | jsonDecodeError
  | databricksHttpError (statusCode : Option Int)
  | transientSecretError
  | permanentSecretError
  | collectTransientError
  | collectPermanentError
  | other (name : String)
  deriving DecidableEq

structure Exc where
  cls : ExcClass
  message : String
  deriving DecidableEq

namespace Exc

def valueError (message : String) : Exc := ⟨.valueError, message⟩
def typeError (message : String) : Exc := ⟨.typeError, message⟩
def attributeError (message : String) : Exc := ⟨.attributeError, message⟩
def runtimeError (message : String) : Exc := ⟨.runtimeError, message⟩

/-- `KeyError(key)`, whose text is the `repr` of the key. -/
def keyError (key : String) : Exc := ⟨.keyError, reprText key⟩

def className (exc : Exc) : String :=
  match exc.cls with
  | .valueError => "ValueError"
  | .typeError => "TypeError"
  | .keyError => "KeyError"
  | .attributeError => "AttributeError"
  | .overflowError => "OverflowError"
  | .runtimeError => "RuntimeError"
  | .recursionError => "RecursionError"
  | .notImplementedError => "NotImplementedError"
  | .timeoutError => "TimeoutError"
  | .connectionError => "ConnectionError"
  | .jsonDecodeError => "JSONDecodeError"
  | .databricksHttpError _ => "_DatabricksHttpError"
  | .transientSecretError => "TransientSecretError"
  | .permanentSecretError => "PermanentSecretError"
  | .collectTransientError => "CollectTransientError"
  | .collectPermanentError => "CollectPermanentError"
  | .other name => name

end Exc

/-! The Python objects that reach the program: JSON values, timestamps read
from a table column, and any other object, of which only `str(object)` is ever
observed. -/

/-- A float is kept as its `repr`; a `dict` as its entries in insertion
order. -/
inductive Value where
  | null
  | bool (value : Bool)
  | int (value : Int)
  | float (repr : String)
  | str (text : String)
  | list (items : List Value)
  | dict (entries : List (String × Value))
  | datetime (value : DateTime)
  | object (text : String)

instance : Inhabited Value := ⟨.null⟩

namespace Value

/-- `bool(value)`. -/
def truthy : Value → Bool
  | .null => false
  | .bool value => value
  | .int value => value != 0
  | .float repr => repr != "0.0" && repr != "-0.0"
  | .str text => text != ""
  | .list items => !items.isEmpty
  | .dict entries => !entries.isEmpty
  | .datetime _ => true
  | .object _ => true

/-- `value == text` for a literal `text`. -/
def isText (text : String) : Value → Bool
  | .str other => other == text
  | _ => false

def isNull : Value → Bool
  | .null => true
  | _ => false

/-- Objects with a `__hash__`: what a `set` or `dict` can be asked about. -/
def hashable : Value → Bool
  | .list _ => false
  | .dict _ => false
  | _ => true

def typeName : Value → String
  | .null => "NoneType"
  | .bool _ => "bool"
  | .int _ => "int"
  | .float _ => "float"
  | .str _ => "str"
  | .list _ => "list"
  | .dict _ => "dict"
  | .datetime _ => "datetime"
  | .object _ => "object"

def get (entries : List (String × Value)) (key : String) : Value :=
  (entries.lookup key).getD .null

theorem get_eq_null_iff {entries : List (String × Value)} {key : String} :
    get entries key = .null ↔
      entries.lookup key = none ∨ entries.lookup key = some .null := by
  unfold get
  cases entries.lookup key <;> simp

theorem get_eq_str_iff {entries : List (String × Value)}
    {key text : String} :
    get entries key = .str text ↔ entries.lookup key = some (.str text) := by
  unfold get
  cases entries.lookup key <;> simp

@[simp] theorem isText_iff {text : String} {value : Value} :
    value.isText text = true ↔ value = .str text := by
  cases value <;> simp [isText]

@[simp] theorem isNull_iff {value : Value} :
    value.isNull = true ↔ value = .null := by
  cases value <;> simp [isNull]

/-- `value or default`. -/
def orElse (value default : Value) : Value :=
  if value.truthy then value else default

theorem orElse_of_truthy {value default : Value}
    (truthy : value.truthy = true) : value.orElse default = value := by
  rw [orElse, if_pos truthy]

theorem orElse_of_falsy {value default : Value}
    (falsy : value.truthy = false) : value.orElse default = default := by
  rw [orElse, if_neg (Bool.eq_false_iff.mp falsy)]

@[simp] theorem list_orElse_nil (items : List Value) :
    (Value.list items).orElse (.list []) = .list items := by
  cases items <;> rfl

@[simp] theorem dict_orElse_nil (entries : List (String × Value)) :
    (Value.dict entries).orElse (.dict []) = .dict entries := by
  cases entries <;> rfl

/-- The values of `for item in value`: the items of a `list`, the keys of a
`dict`, the characters of a `str`. -/
def iterate : Value → Except Exc (List Value)
  | .list items => .ok items
  | .dict entries => .ok (entries.map fun entry => .str entry.1)
  | .str text => .ok (text.toList.map fun character =>
      .str (String.singleton character))
  | value => .error (.typeError
      ("'" ++ value.typeName ++ "' object is not iterable"))

/-- `sys.int_info.default_max_str_digits`: a longer integer has no text. -/
def intMaxStrDigits : Nat := 4300

def intText (value : Int) : Except Exc String :=
  if intMaxStrDigits < (toString value.natAbs).length then
    .error (.valueError
      ("Exceeds the limit (4300 digits) for integer string conversion; " ++
        "use sys.set_int_max_str_digits() to increase the limit"))
  else .ok (toString value)

/-- `int(text)`; `none` is its `ValueError`. -/
def parseInt (text : String) : Option Int :=
  let (negative, unsigned) :=
    match stripBy isIntSpace text.toList with
    | '-' :: rest => (true, rest)
    | '+' :: rest => (false, rest)
    | characters => (false, characters)
  match parseIntDigits unsigned with
  | none => none
  | some digits =>
      if intMaxStrDigits < digits.length then none
      else
        let value : Nat :=
          digits.foldl (fun value digit => 10 * value + digit) 0
        some (if negative then -value else value)

theorem parseInt_of_blank {text : String} (blank : strip text = "") :
    parseInt text = none := by
  have spaces : ∀ character ∈ stripBy isIntSpace text.toList,
      isSpace character = true := fun character member =>
    isSpace_of_blank blank character (mem_of_mem_stripBy member)
  unfold parseInt
  split
  rename_i negative unsigned signed
  have inside : ∀ character ∈ unsigned, isSpace character = true := by
    intro character member
    split at signed
    · next rest known =>
        rw [known, List.forall_mem_cons] at spaces
        obtain ⟨-, rfl⟩ := Prod.mk.inj signed
        exact spaces.2 character member
    · next rest known =>
        rw [known, List.forall_mem_cons] at spaces
        obtain ⟨-, rfl⟩ := Prod.mk.inj signed
        exact spaces.2 character member
    · obtain ⟨-, rfl⟩ := Prod.mk.inj signed
      exact spaces character member
  rw [parseIntDigits_of_isSpace inside]

/-- `Py_EnterRecursiveCall(where)` and the call behind it, where so many calls
fit under the recursion limit. -/
def descend {α : Type} (room : Nat) (where_ : String)
    (call : (room : Nat) → Except Exc α) : Except Exc α :=
  match room with
  | 0 => .error ⟨.recursionError,
      "maximum recursion depth exceeded" ++ where_⟩
  | room + 1 => call room

theorem descend_ok_iff {α : Type} {room : Nat} {where_ : String}
    {call : Nat → Except Exc α} {value : α} :
    descend room where_ call = .ok value ↔
      ∃ inner, room = inner + 1 ∧ call inner = .ok value := by
  cases room <;> simp [descend]

mutual
/-- `repr(value)`, which takes a nested call for each object inside `value`. -/
def repr (room : Nat) : Value → Except Exc String
  | .null => .ok "None"
  | .bool value => .ok (if value then "True" else "False")
  | .int value => intText value
  | .float repr => .ok repr
  | .str text => .ok (reprText text)
  | .list items => do
      let texts ← reprItems room items
      pure ("[" ++ join ", " texts ++ "]")
  | .dict entries => do
      let texts ← reprEntries room entries
      pure ("\x7b" ++ join ", " texts ++ "\x7d")
  | .datetime value => .ok value.toRepr
  | .object text => .ok text

def reprItems (room : Nat) : List Value → Except Exc (List String)
  | [] => .ok []
  | item :: rest => do
      let text ← descend room " while getting the repr of an object" fun room =>
        repr room item
      let texts ← reprItems room rest
      pure (text :: texts)

def reprEntries (room : Nat) :
    List (String × Value) → Except Exc (List String)
  | [] => .ok []
  | (key, value) :: rest => do
      let text ← descend room " while getting the repr of an object" fun room =>
        repr room value
      let texts ← reprEntries room rest
      pure ((reprText key ++ ": " ++ text) :: texts)
end

/-- `str(value)`. -/
def toStr (room : Nat) : Value → Except Exc String
  | .str text => .ok text
  | .datetime value => .ok value.toText
  | value => repr room value

/-- The exception of `raise raising(f"... {text} ...")`: a text that cannot be
built raises in its place. -/
def mention (text : Except Exc String) (raising : String → Exc) : Exc :=
  match text with
  | .ok text => raising text
  | .error exc => exc

end Value

/-- What the program leaves to the interpreter: `json.loads`, and how many
nested calls fit under the recursion limit where it writes a value. -/
structure Interpreter where
  jsonLoads : String → Except Exc Value
  room : Nat

end PipelineOps.Python
