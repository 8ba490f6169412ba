import PipelineOps.Python.Value

namespace PipelineOps.Orchestrator

open PipelineOps.Python

def kst : Zone := ⟨9 * microsPerHour, by decide⟩

/-- `datetime.fromisoformat` behind the trimming and the `Z` rewriting. -/
def normalizedTs (value : String) : String :=
  let normalized := strip value
  match dropSuffix? "Z" normalized with
  | some trimmed => trimmed ++ "+00:00"
  | none => normalized

/-- What the timestamp stands for, if it is accepted. -/
def readTs : Value → Option DateTime
  | .datetime parsed => some parsed
  | .str text => fromIsoFormat (normalizedTs text)
  | _ => none

def invalidTimestamp (room : Nat) (value : Value) : Exc :=
  Value.mention (value.repr room) fun text =>
    .valueError ("Invalid pipeline timestamp format: " ++ text)

def dateOverflow : Exc := ⟨.overflowError, "date value out of range"⟩

def parsePipelineTs (room : Nat) (value : Value) : Except Exc DateTime :=
  match readTs value with
  | none => .error (invalidTimestamp room value)
  | some parsed =>
      match parsed.zone with
      | none => .ok (parsed.replaceZone .utc)
      | some zone =>
          match parsed.astimezone zone .utc with
          | some converted => .ok converted
          | none => .error dateOverflow

def toUtc (room : Nat) (value : Value) : Except Exc DateTime :=
  parsePipelineTs room value

/-- `strftime("%Y-%m-%d %H:%M KST")`; glibc does not pad the year. -/
def kstText (value : DateTime) : String :=
  strftimeDate value.date ++ " " ++ padded 2 value.hour ++ ":" ++
    padded 2 value.minute ++ " KST"

def toKst (room : Nat) (value : Value) : Except Exc String :=
  match toUtc room value with
  | .error exc => .error exc
  | .ok converted =>
      match converted.astimezone .utc kst with
      | some local_ => .ok (kstText local_)
      | none => .error dateOverflow

end PipelineOps.Orchestrator
