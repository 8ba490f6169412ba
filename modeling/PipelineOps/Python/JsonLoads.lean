import PipelineOps.Library.Scanner
import PipelineOps.Python.Digits
import PipelineOps.Python.Value

namespace PipelineOps.Python

open PipelineOps.Library

/-! `json.loads` of CPython. A document with a lone surrogate in some text is
read as `none`: no Lean text stands for it. -/

/-- How a scanner gives up: by a `JSONDecodeError` with so many characters left,
or by another exception. No text uses up its fuel. -/
inductive ScanStop where
  | decodeError (problem : String) (left : Nat)
  | raised (exc : Exc)
  | outOfFuel

abbrev JsonScanner (α : Type) := Scanner Char ScanStop (Option α)

def isJsonSpace (character : Char) : Bool :=
  character = ' ' || character = '\t' || character = '\n' || character = '\r'

def skipSpace (characters : List Char) : List Char :=
  characters.dropWhile isJsonSpace

section Strings

/-- The four digits behind `\u`, which may not end the document. -/
def scanUnit : List Char → Option (Nat × List Char)
  | first :: second :: third :: fourth :: next :: rest => do
      let first ← hexDigit? first
      let second ← hexDigit? second
      let third ← hexDigit? third
      let fourth ← hexDigit? fourth
      pure (((first * 16 + second) * 16 + third) * 16 + fourth, next :: rest)
  | _ => none

def IsHighSurrogate (unit : Nat) : Prop := 0xD800 ≤ unit ∧ unit < 0xDC00

def IsLowSurrogate (unit : Nat) : Prop := 0xDC00 ≤ unit ∧ unit < 0xE000

instance (unit : Nat) : Decidable (IsHighSurrogate unit) :=
  inferInstanceAs (Decidable (_ ∧ _))

instance (unit : Nat) : Decidable (IsLowSurrogate unit) :=
  inferInstanceAs (Decidable (_ ∧ _))

def invalidUnicode (rest : List Char) : ScanStop :=
  .decodeError "Invalid \\uXXXX escape" (rest.length + 1)

/-- The characters behind `\u`: one unit, or two that are a pair. -/
def scanUnicode : JsonScanner Char := fun characters =>
  match scanUnit characters with
  | none => .error (invalidUnicode characters)
  | some (unit, rest) =>
      if IsHighSurrogate unit then
        match rest with
        | '\\' :: 'u' :: behind =>
            if behind.length ≤ 4 then .ok (none, rest)
            else
              match scanUnit behind with
              | none => .error (invalidUnicode behind)
              | some (second, after) =>
                  if IsLowSurrogate second then
                    .ok (some (Char.ofNat (0x10000 +
                      (unit - 0xD800) * 1024 + (second - 0xDC00))), after)
                  else .ok (none, rest)
        | rest => .ok (none, rest)
      else if IsLowSurrogate unit then .ok (none, rest)
      else .ok (some (Char.ofNat unit), rest)

/-- `BACKSLASH`. -/
def unescaped? (letter : Char) : Option Char :=
  if letter = '"' ∨ letter = '\\' ∨ letter = '/' then some letter
  else if letter = 'b' then some (Char.ofNat 0x08)
  else if letter = 'f' then some (Char.ofNat 0x0C)
  else if letter = 'n' then some '\n'
  else if letter = 'r' then some '\r'
  else if letter = 't' then some '\t'
  else none

/-- One character of a string whose quote has `start` characters from it on. -/
def scanChar (start : Nat) : JsonScanner Char
  | [] => .error (.decodeError "Unterminated string starting at" start)
  | ['\\'] => .error (.decodeError "Unterminated string starting at" start)
  | '\\' :: letter :: rest =>
      if letter = 'u' then scanUnicode rest
      else
        match unescaped? letter with
        | some character => .ok (some character, rest)
        | none => .error (.decodeError "Invalid \\escape" (rest.length + 2))
  | character :: rest =>
      if character.toNat ≤ 0x1F then
        .error (.decodeError "Invalid control character at" (rest.length + 1))
      else .ok (some character, rest)

/-- `scanstring`, behind the quote. -/
def scanString : JsonScanner String := fun characters => do
  let (scanned, rest) ← Scanner.upTo .outOfFuel '"'
    (scanChar (characters.length + 1)) (characters.length + 1) characters
  pure ((scanned.mapM id).map String.ofList, rest)

end Strings

section Numbers

/-- The longest beginning of digits, and what is behind it. -/
def spanDigits (characters : List Char) : List Char × List Char :=
  (characters.takeWhile isAsciiDigit, characters.dropWhile isAsciiDigit)

/-- `0|[1-9]\d*`. -/
def matchNatural : List Char → Option (List Char × List Char)
  | [] => none
  | '0' :: rest => some (['0'], rest)
  | character :: rest =>
      if isAsciiDigit character then
        some (character :: (spanDigits rest).1, (spanDigits rest).2)
      else none

/-- `-?(?:0|[1-9]\d*)`. -/
def matchInteger : List Char → Option (List Char × List Char)
  | '-' :: rest =>
      (matchNatural rest).map fun (digits, rest) => ('-' :: digits, rest)
  | characters => matchNatural characters

/-- `(\.\d+)?`. -/
def matchFraction : List Char → List Char × List Char
  | '.' :: rest =>
      let (digits, behind) := spanDigits rest
      if digits = [] then ([], '.' :: rest) else ('.' :: digits, behind)
  | characters => ([], characters)

/-- `[-+]?`. -/
def matchSign : List Char → List Char × List Char
  | '-' :: rest => (['-'], rest)
  | '+' :: rest => (['+'], rest)
  | characters => ([], characters)

/-- `([eE][-+]?\d+)?`. -/
def matchExponent : List Char → List Char × List Char
  | [] => ([], [])
  | letter :: rest =>
      if letter = 'e' ∨ letter = 'E' then
        let (sign, unsigned) := matchSign rest
        let (digits, behind) := spanDigits unsigned
        if digits = [] then ([], letter :: rest)
        else (letter :: sign ++ digits, behind)
      else ([], letter :: rest)

/-- Whether a number is negative, and its digits. -/
def splitSign : List Char → Bool × List Char
  | '-' :: digits => (true, digits)
  | digits => (false, digits)

/-- `int(text)` of a sign and digits. -/
def readInteger (integer : List Char) : Except Exc Int :=
  let (negative, digits) := splitSign integer
  if Value.intMaxStrDigits < digits.length then
    .error (.valueError
      ("Exceeds the limit (4300 digits) for integer string conversion: " ++
        "value has " ++ toString digits.length ++ " digits; use " ++
        "sys.set_int_max_str_digits() to increase the limit"))
  else
    .ok (if negative then -(decimalNumber digits : Int)
      else decimalNumber digits)

/-- `match_number`. `floatRepr` is `repr(float(text))`. -/
def scanNumber (floatRepr : String → String) : JsonScanner Value :=
  fun characters =>
  match matchInteger characters with
  | none => .error (.decodeError "Expecting value" characters.length)
  | some (integer, behind) =>
      let (fraction, behind) := matchFraction behind
      let (exponent, rest) := matchExponent behind
      if fraction = [] ∧ exponent = [] then
        match readInteger integer with
        | .ok value => .ok (some (.int value), rest)
        | .error exc => .error (.raised exc)
      else
        .ok (some (.float (floatRepr
          (String.ofList (integer ++ fraction ++ exponent)))), rest)

end Numbers

section Values

def jsonConstants : List (List Char × Value) :=
  [(['n', 'u', 'l', 'l'], .null), (['t', 'r', 'u', 'e'], .bool true),
    (['f', 'a', 'l', 's', 'e'], .bool false), (['N', 'a', 'N'], .float "nan"),
    (['I', 'n', 'f', 'i', 'n', 'i', 't', 'y'], .float "inf"),
    (['-', 'I', 'n', 'f', 'i', 'n', 'i', 't', 'y'], .float "-inf")]

def matchConstant (characters : List Char) : Option (Value × List Char) :=
  jsonConstants.findSome? fun (word, value) =>
    (word.isPrefixOf? characters).map fun rest => (value, rest)

/-- `entries[key] = value`. -/
def setItem (key : String) (value : Value) :
    List (String × Value) → List (String × Value)
  | [] => [(key, value)]
  | (other, stored) :: rest =>
      if other = key then (key, value) :: rest
      else (other, stored) :: setItem key value rest

/-- The `dict` of such items, set in their order. -/
def dictOf (items : List (String × Value)) : List (String × Value) :=
  items.foldl (fun entries item => setItem item.1 item.2 entries) []

def expectingComma (rest : List Char) : ScanStop :=
  .decodeError "Expecting ',' delimiter" rest.length

/-- The parts of an array or an object, behind its opening. -/
def scanParts {α : Type} (closing : Char) (scanPart : JsonScanner α) :
    JsonScanner (List α) := fun characters =>
  let characters := skipSpace characters
  if characters.head? = some closing then .ok (some [], characters.tail)
  else do
    let (parts, rest) ← Scanner.list ⟨',', closing, skipSpace⟩ .outOfFuel
      expectingComma scanPart (characters.length + 1) characters
    pure (parts.mapM id, rest)

/-- A key and its value. -/
def scanMember (scanOnce : JsonScanner Value) : JsonScanner (String × Value)
  | '"' :: rest => do
      let (key, rest) ← scanString rest
      let rest := skipSpace rest
      if rest.head? = some ':' then do
        let (value, rest) ← scanOnce (skipSpace rest.tail)
        pure (do
          let key ← key
          let value ← value
          pure (key, value), rest)
      else .error (.decodeError "Expecting ':' delimiter" rest.length)
  | characters =>
      .error (.decodeError
        "Expecting property name enclosed in double quotes" characters.length)

/-- `JSONArray`. -/
def scanArray (scanOnce : JsonScanner Value) : JsonScanner Value :=
  fun characters => do
  let (items, rest) ← scanParts ']' scanOnce characters
  pure (items.map .list, rest)

/-- `JSONObject`. -/
def scanObject (scanOnce : JsonScanner Value) : JsonScanner Value :=
  fun characters => do
  let (members, rest) ← scanParts '\x7d' (scanMember scanOnce) characters
  pure (members.map fun members => .dict (dictOf members), rest)

def nestedTooDeep (kind : String) : JsonScanner Value := fun _ =>
  .error (.raised ⟨.recursionError, "maximum recursion depth exceeded while " ++
    "decoding a JSON " ++ kind ++ " from a unicode string"⟩)

def scanValue (floatRepr : String → String) (scanArray : JsonScanner Value)
    (scanObject : JsonScanner Value) : JsonScanner Value
  | '"' :: rest => do
      let (text, rest) ← scanString rest
      pure (text.map .str, rest)
  | '\x7b' :: rest => scanObject rest
  | '[' :: rest => scanArray rest
  | characters =>
      match matchConstant characters with
      | some (value, rest) => .ok (some value, rest)
      | none => scanNumber floatRepr characters

/-- `scan_once`, where so many more arrays and objects may be opened. -/
def scanOnce (floatRepr : String → String) : (depth : Nat) → JsonScanner Value
  | 0 => scanValue floatRepr (nestedTooDeep "array") (nestedTooDeep "object")
  | depth + 1 =>
      scanValue floatRepr (scanArray (scanOnce floatRepr depth))
        (scanObject (scanOnce floatRepr depth))

/-- `JSONDecoder.decode`. Nothing but white space may be behind the value. -/
def decodeJson (floatRepr : String → String) (depth : Nat)
    (document : List Char) : Except ScanStop (Option Value) := do
  let (value, rest) ← scanOnce floatRepr depth (skipSpace document)
  let rest := skipSpace rest
  if rest = [] then pure value
  else .error (.decodeError "Extra data" rest.length)

end Values

/-- The exception `JSONDecodeError(problem, document, position)`. -/
def jsonDecodeError (document : List Char) (problem : String) (left : Nat) :
    Exc :=
  let position := document.length - left
  let before := document.take position
  let line := before.count '\n' + 1
  let column := (before.reverse.takeWhile (· ≠ '\n')).length + 1
  ⟨.jsonDecodeError, problem ++ ": line " ++ toString line ++ " column " ++
    toString column ++ " (char " ++ toString position ++ ")"⟩

/-- `json.loads(text)`, with so much of the recursion limit left. -/
def jsonLoads (floatRepr : String → String) (depth : Nat) (text : String) :
    Except Exc (Option Value) :=
  let document := text.toList
  if document.head? = some '\ufeff' then
    .error (jsonDecodeError document
      "Unexpected UTF-8 BOM (decode using utf-8-sig)" document.length)
  else
    match decodeJson floatRepr depth document with
    | .ok value => .ok value
    | .error (.decodeError problem left) =>
        .error (jsonDecodeError document problem left)
    | .error (.raised exc) => .error exc
    | .error .outOfFuel => .error ⟨.runtimeError, "out of fuel"⟩

/-- `json.loads`, where `lone` reads the documents that have a text with a lone
surrogate. -/
def loadsWith (lone : String → Except Exc Value) (floatRepr : String → String)
    (depth : Nat) (text : String) : Except Exc Value :=
  match jsonLoads floatRepr depth text with
  | .ok (some value) => .ok value
  | .ok none => lone text
  | .error exc => .error exc

/-- A decoder that takes no such document. -/
def unreadable (_ : String) : Except Exc Value :=
  .error ⟨.jsonDecodeError, "Expecting value"⟩

end PipelineOps.Python
