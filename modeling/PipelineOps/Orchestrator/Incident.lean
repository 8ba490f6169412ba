import PipelineOps.Python.Json
import PipelineOps.Python.Sha256

namespace PipelineOps.Orchestrator

open PipelineOps.Python

/-- `text.encode("ascii")`; the text of its error leaves out the positions. -/
def encodeAscii (text : String) : Except Exc (List UInt8) :=
  if text.toList.all fun character => character.toNat < 128 then
    .ok (text.toList.map fun character => UInt8.ofNat character.toNat)
  else .error ⟨.other "UnicodeEncodeError",
    "'ascii' codec can't encode characters: ordinal not in range(128)"⟩

def hexByte (byte : UInt8) : List Char :=
  [Nat.digitChar (byte.toNat / 16), Nat.digitChar (byte.toNat % 16)]

/-- `hashlib.sha256(message).hexdigest()`. -/
def sha256Hexdigest (message : List UInt8) : String :=
  String.ofList ((sha256 message).flatMap hexByte)

-- the digest of `abc`
example : sha256Hexdigest [0x61, 0x62, 0x63] =
    "ba7816bf8f01cfea414140de5dae2223b00361a396177a9cb410ff61f20015ad" := by
  decide +kernel

def stableJson (room : Nat) (value : Value) : Except Exc String :=
  jsonDumps canonicalStyle room value

def textOrNull : Option String → Value
  | some text => .str text
  | none => .null

def canonicalizeDetectedIssues (room : Nat) (detectedIssues : List Value) :
    Except Exc (List String) := do
  let texts ← detectedIssues.mapM (stableJson room)
  pure (sortedTexts texts)

def fingerprintPayload (pipeline : String) (runId : Option String)
    (canonicalIssues : List String) : Value :=
  .dict
    [("detected_issues", .list (canonicalIssues.map .str)),
      ("pipeline", .str pipeline), ("run_id", textOrNull runId)]

/-- What is hashed for a fingerprint. -/
def fingerprintMessage (room : Nat) (pipeline : String)
    (runId : Option String) (detectedIssues : Option (List Value)) :
    Except Exc (List UInt8) := do
  let canonicalIssues ←
    canonicalizeDetectedIssues room (detectedIssues.getD [])
  let text ←
    stableJson room (fingerprintPayload pipeline runId canonicalIssues)
  encodeAscii text

/-- `make_fingerprint`, where so many arrays and objects may be entered. -/
def makeFingerprint (room : Nat) (pipeline : String) (runId : Option String)
    (detectedIssues : Option (List Value)) : Except Exc String := do
  let message ← fingerprintMessage room pipeline runId detectedIssues
  pure (sha256Hexdigest message)

end PipelineOps.Orchestrator
