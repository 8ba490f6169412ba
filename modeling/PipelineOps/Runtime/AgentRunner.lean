import PipelineOps.Graph.State
import PipelineOps.Library.Fallible
import PipelineOps.Library.Interleaving
import PipelineOps.Library.Table

namespace PipelineOps.Runtime

open PipelineOps.Library
open PipelineOps.Python
open PipelineOps.Graph

def allowedRegistryStatuses : List String :=
  ["running", "resumed", "resolved", "failed", "escalated", "reported"]

/-- The statuses that the `CASE` of the upsert protects, and those it protects
them from. -/
def terminalStatuses : List String :=
  ["resolved", "failed", "escalated", "reported"]

def openStatuses : List String := ["running", "resumed"]

structure RegistryRow where
  pipeline : Option String
  detectedAt : Option String
  fingerprint : Option String
  status : String
  updatedAt : String

abbrev IncidentRegistry := Table String RegistryRow

def mergeStatus (stored excluded : String) : String :=
  if terminalStatuses.contains stored && openStatuses.contains excluded then
    stored
  else excluded

/-- `ON CONFLICT(incident_id) DO UPDATE`. -/
def mergeRow (stored excluded : RegistryRow) : RegistryRow where
  pipeline := coalesce stored.pipeline excluded.pipeline
  detectedAt := coalesce stored.detectedAt excluded.detectedAt
  fingerprint := coalesce stored.fingerprint excluded.fingerprint
  status := mergeStatus stored.status excluded.status
  updatedAt := excluded.updatedAt

/-- What a runner turns to others for: its graph, the clock and the database. -/
inductive RunnerRequest where
  | graphInvoke (payload : State) (threadId : Value)
  | now
  | upsert (incidentId : String) (row : RegistryRow)

/-- A graph may return something that is no `Mapping`. -/
abbrev RunnerAnswer : RunnerRequest → Type
  | .graphInvoke _ _ => Except Exc (Option State)
  | .now => String
  | .upsert _ _ => Except Exc Unit

abbrev RunnerCall (α : Type) := Dialogue RunnerAnswer (Except Exc α)

def requireIncidentId (state : State) : Except Exc String :=
  match State.get state "incident_id" with
  | .str incidentId =>
      if incidentId = "" then .error (.valueError "incident_id is required")
      else .ok incidentId
  | _ => .error (.valueError "incident_id is required")

def optionalText (room : Nat) : Value → Except Exc (Option String)
  | .null => .ok none
  | value => (value.toStr room).map some

def statusValue (value : Value) (default : String) : String :=
  match value with
  | .str text => if allowedRegistryStatuses.contains text then text else default
  | _ => default

def registryRow (room : Nat) (state : State) (defaultStatus now : String) :
    Except Exc RegistryRow := do
  let pipeline ← optionalText room (State.get state "pipeline")
  let detectedAt ← optionalText room (State.get state "detected_at")
  let fingerprint ← optionalText room (State.get state "fingerprint")
  pure
    { pipeline, detectedAt, fingerprint
      status := statusValue (State.get state "final_status") defaultStatus
      updatedAt := now }

def upsertIncidentRegistry (room : Nat) (state : State)
    (defaultStatus : String) : RunnerCall Unit :=
  match requireIncidentId state with
  | .error exc => .done (.error exc)
  | .ok incidentId =>
      .ask .now fun now =>
        match registryRow room state defaultStatus now with
        | .error exc => .done (.error exc)
        | .ok row => .ask (.upsert incidentId row) .done

/-- What `invoke` and `resume` do once they have a payload. -/
def invokeGraph (room : Nat) (payload : State) (incidentId : Value)
    (defaultStatus : String) : RunnerCall State :=
  .ask (.graphInvoke payload incidentId) fun
    | .error exc => .done (.error exc)
    | .ok result =>
        let merged := (payload.update (result.getD .empty)).set "incident_id"
          incidentId
        (upsertIncidentRegistry room merged defaultStatus).bind fun
          | .error exc => .done (.error exc)
          | .ok () => .done (.ok merged)

def invoke (room : Nat) (initialState : State) : RunnerCall State :=
  match requireIncidentId initialState with
  | .error exc => .done (.error exc)
  | .ok incidentId => invokeGraph room initialState (.str incidentId) "running"

def resume (room : Nat) (incidentId : Value) (payload : Option State) :
    RunnerCall State :=
  invokeGraph room (payload.getD .empty) incidentId "resumed"

end PipelineOps.Runtime
