import PipelineOps.Graph.Endings
import PipelineOps.Runtime.RunnerLifecycle

namespace PipelineOps.Runtime

open PipelineOps.Library
open PipelineOps.Python
open PipelineOps.Graph

/-! The registry of runners whose graph is the shim. -/

/-- As `Serves`, but each graph is a shim with the nodes as implemented, beside
any nodes for the ones that are left open. -/
inductive ShimServes : IncidentRegistry → (request : RunnerRequest) →
    RunnerAnswer request → IncidentRegistry → Prop
  | graph (registry : IncidentRegistry) (payload : State) (threadId : Value)
      (deployment : Deployment) {others : Nodes} (writes : WritesOnly others) :
      ShimServes registry (.graphInvoke payload threadId)
        ((Graph.invoke (deployed deployment others) payload).map some) registry
  | clock (registry : IncidentRegistry) (text : String) :
      ShimServes registry .now text registry
  | accepted (registry : IncidentRegistry) (incidentId : String)
      (row : RegistryRow) :
      ShimServes registry (.upsert incidentId row) (.ok ())
        (registry.upsert mergeRow incidentId row)
  | refused (registry : IncidentRegistry) (incidentId : String)
      (row : RegistryRow) (exc : Exc) :
      ShimServes registry (.upsert incidentId row) (.error exc) registry

theorem ShimServes.serves {registry after : IncidentRegistry}
    {request : RunnerRequest} {answer : RunnerAnswer request}
    (serves : ShimServes registry request answer after) :
    Serves registry request answer after := by
  cases serves with
  | graph payload threadId deployment writes => exact .graph ..
  | clock text => exact .clock ..
  | accepted incidentId row => exact .accepted ..
  | refused incidentId row exc => exact .refused ..

/-- A run of the shim from which a call returns `merged`. -/
structure ShimRun (call : Call) (merged : State) where
  deployment : Deployment
  others : Nodes
  writes : WritesOnly others
  final : State
  finished : (shimRun (deployed deployment others) call.payload).outcome =
    .finished final
  returned : merged = mergedState call.payload call.incident (some final)

namespace ShimRun

variable {call : Call} {merged : State}

def run (shim : ShimRun call merged) : GraphRun :=
  shimRun (deployed shim.deployment shim.others) call.payload

def traffic (shim : ShimRun call merged) : List Tools.HttpExchange :=
  Graph.traffic shim.deployment shim.others call.payload

theorem status (shim : ShimRun call merged)
    (fresh : call.payload.find "final_status" = none) :
    State.get merged "final_status" = State.get shim.final "final_status" := by
  have merge : State.get
      (mergedState call.payload call.incident (some shim.final))
        "final_status" = State.get shim.final "final_status" := by
    rw [mergedState, get_set_of_ne _ (by decide)]
    apply State.get_eq_of_find
    rw [Dict.find_update, fresh, Option.or_none]
    rfl
  exact (congrArg (State.get · "final_status") shim.returned).trans merge

theorem status_of_reported (shim : ShimRun call merged)
    (fresh : call.payload.find "final_status" = none)
    (reported : Reported shim.run) :
    State.get merged "final_status" = .str "reported" ∧
      shim.traffic = [] := by
  obtain ⟨status, unexecuted⟩ := reported_status shim.finished reported
  exact ⟨(shim.status fresh).trans status, traffic_of_unexecuted unexecuted⟩

theorem cases_of_status (shim : ShimRun call merged)
    (fresh : call.payload.find "final_status" = none) {status : String}
    (final : State.get merged "final_status" = .str status) :
    Executed shim.run ∨ status = "reported" ∧ Reported shim.run := by
  by_cases executed : Executed shim.run
  · exact .inl executed
  · by_cases reported : Reported shim.run
    · rw [(shim.status_of_reported fresh reported).1] at final
      exact .inr ⟨(Value.str.inj final).symm, reported⟩
    · rw [shim.status fresh, unreported_status shim.writes fresh shim.finished
        executed reported] at final
      cases final

end ShimRun

/-- A call that returns went through the graph, and returns what comes of it. -/
theorem Call.returned {room : Nat} {call : Call}
    {trace : List (Dialogue.Exchange RunnerAnswer)} {merged : State}
    (path : (call.dialogue room).Path trace (.ok merged)) :
    ∃ result, ⟨.graphInvoke call.payload call.incident, .ok result⟩ ∈ trace ∧
      merged = mergedState call.payload call.incident result := by
  rcases call.dialogue_cases room with ⟨exc, same⟩ | same
  · rw [same] at path
    cases (Dialogue.path_done_iff.mp path).2
  · rw [same, invokeGraph] at path
    cases path with
    | ask rest =>
        rename_i trace answer
        cases answer with
        | error exc => cases (Dialogue.path_done_iff.mp rest).2
        | ok result =>
            refine ⟨result, List.mem_cons_self, ?_⟩
            rcases upsert_path rest with
              ⟨_, _, _, failed⟩ | ⟨_, _, _, ⟨_, _, _, failed⟩ |
                ⟨_, answer, _, _, returned⟩⟩
            · cases failed
            · cases failed
            · obtain ⟨-, -, same⟩ := map_ok_iff.mp returned.symm
              exact same.symm

section Runs

variable {ι : Type} [DecidableEq ι] {room : Nat} {calls : ι → Call}
  {events : List (ι × Dialogue.Exchange RunnerAnswer)}
  {after : Shared ι RunnerAnswer (Except Exc State) IncidentRegistry}

theorem serves_of_shim
    (turns : Shared.Turns ShimServes (initial room calls) events after) :
    Shared.Turns Serves (initial room calls) events after :=
  turns.mono fun _ _ _ _ serves => serves.serves

theorem exists_shimRun
    (turns : Shared.Turns ShimServes (initial room calls) events after)
    {completed : Completion ι}
    (member : completed ∈ completions events after) :
    Nonempty (ShimRun (calls completed.index) completed.merged) := by
  have process := (mem_completions_iff (serves_of_shim turns)).mp member
  have reaches := turns.reaches completed.index
  rw [process] at reaches
  obtain ⟨result, asked, returned⟩ := Call.returned reaches.path
  obtain ⟨registry, next, serves⟩ := turns.served.step_of_mem
    (List.mem_map_of_mem (Shared.mem_share_iff.mp asked))
  generalize answered : (.ok result : Except Exc (Option State)) = answer
    at serves
  cases serves with
  | graph payload threadId deployment writes =>
      obtain ⟨final, finished, rfl⟩ := map_ok_iff.mp answered.symm
      exact ⟨⟨deployment, _, writes, final, invoke_ok_iff.mp finished,
        returned⟩⟩

end Runs

section Law

variable {ι : Type} {room : Nat} {calls : ι → Call}
  {completed : List (Completion ι)}

theorem terminalStatus_eq_some_iff {source : Completion ι} {status : String} :
    source.terminalStatus = some status ↔
      State.get source.merged "final_status" = .str status ∧
        status ∈ terminalStatuses := by
  rw [Completion.terminalStatus]
  cases State.get source.merged "final_status" with
  | str text =>
      simp only [List.contains_eq_mem, decide_eq_true_eq,
        Option.ite_none_right_eq_some, Option.some.injEq, Value.str.injEq]
      constructor
      · intro found
        obtain ⟨terminal, rfl⟩ := found
        exact ⟨rfl, terminal⟩
      · intro found
        obtain ⟨rfl, terminal⟩ := found
        exact ⟨terminal, rfl⟩
  | _ => simp

theorem Completion.Leaves.open {source : Completion ι} {status : String}
    (leaves : source.Leaves calls status) : status ∈ openStatuses := by
  rcases leaves with ⟨opens, -⟩ | ⟨-, rfl⟩
  · exact opens
  · exact (calls source.index).defaultStatus_open

theorem not_terminal_of_open {status : String}
    (opened : status ∈ openStatuses) : status ∉ terminalStatuses := by
  simp only [openStatuses, List.mem_cons, List.not_mem_nil, or_false] at opened
  rcases opened with rfl | rfl <;> decide

/-- A terminal status comes from one of the calls, and an open one is left by
calls without any. -/
theorem RowLaw.source {row : RegistryRow}
    (law : RowLaw room calls completed row) :
    (row.status ∈ terminalStatuses →
      ∃ source ∈ completed, source.terminalStatus = some row.status) ∧
    (row.status ∈ openStatuses →
      ∀ source ∈ completed, source.terminalStatus = none) := by
  cases last : (completed.filterMap Completion.terminalStatus).getLast? with
  | some terminal =>
      obtain rfl := law.closed terminal last
      obtain ⟨source, member, found⟩ :=
        List.mem_filterMap.mp (List.mem_of_getLast? last)
      refine ⟨fun _ => ⟨source, member, found⟩, fun opened => ?_⟩
      exact absurd (terminalStatus_eq_some_iff.mp found).2
        (not_terminal_of_open opened)
  | none =>
      have unclosed := List.getLast?_eq_none_iff.mp last
      refine ⟨fun closes => ?_, fun _ => List.filterMap_eq_nil_iff.mp unclosed⟩
      have ends := List.getLast?_eq_some_getLast law.returned
      exact absurd closes
        (not_terminal_of_open (law.opened unclosed _ ends).open)

end Law

/-- The call is a run of the shim, and `holds` is true of whichever it is. -/
def EveryRun (call : Call) (merged : State)
    (holds : ShimRun call merged → Prop) : Prop :=
  Nonempty (ShimRun call merged) ∧ ∀ shim, holds shim

/-- What the status of an incident says about the calls on it that have
returned. -/
structure StatusMeaning {ι : Type} (calls : ι → Call)
    (completed : List (Completion ι)) (status : String) : Prop where
  closed : status ∈ ["resolved", "failed", "escalated"] →
    ∃ source ∈ completed,
      EveryRun (calls source.index) source.merged (Executed ·.run) ∧
      State.get (calls source.index).payload "human_decision" = .str "approve"
  reported : status = "reported" →
    ∃ source ∈ completed,
      EveryRun (calls source.index) source.merged fun shim =>
        Executed shim.run ∨ Reported shim.run ∧ shim.traffic = []
  opened : status ∈ openStatuses →
    ∀ source ∈ completed,
      EveryRun (calls source.index) source.merged (¬ Reported ·.run)

/-- However the calls of all runners interleave, what the registry says of an
incident is what the runs of the graph have done. -/
theorem registry_status_meaning {ι : Type} [DecidableEq ι] {room : Nat}
    {calls : ι → Call} {events : List (ι × Dialogue.Exchange RunnerAnswer)}
    {after : Shared ι RunnerAnswer (Except Exc State) IncidentRegistry}
    (turns : Shared.Turns ShimServes (initial room calls) events after)
    (fresh : ∀ index, (calls index).payload.find "final_status" = none)
    {incidentId : String} {row : RegistryRow}
    (stored : after.partner.find incidentId = some row) :
    StatusMeaning calls
      (concerning calls incidentId (completions events after)) row.status := by
  have law : RowLaw room calls
      (concerning calls incidentId (completions events after)) row :=
    (incidentLaw_of_turns (serves_of_shim turns) incidentId).present row stored
  obtain ⟨closing, opening⟩ := law.source
  have ran : ∀ source ∈
      concerning calls incidentId (completions events after),
      Nonempty (ShimRun (calls source.index) source.merged) :=
    fun source member => exists_shimRun turns (List.mem_of_mem_filter member)
  constructor
  · intro closed
    have terminal : row.status ∈ terminalStatuses := by
      simp only [List.mem_cons, List.not_mem_nil, or_false] at closed
      rcases closed with same | same | same <;> rw [same] <;> decide
    obtain ⟨source, member, found⟩ := closing terminal
    have executed : ∀ shim : ShimRun (calls source.index) source.merged,
        Executed shim.run := by
      intro shim
      rcases shim.cases_of_status (fresh source.index)
        (terminalStatus_eq_some_iff.mp found).1 with executed | ⟨same, -⟩
      · exact executed
      · rw [same] at closed
        exact absurd closed (by decide)
    obtain ⟨shim⟩ := ran source member
    exact ⟨source, member, ⟨⟨shim⟩, executed⟩,
      (executed shim).approved (deployed_writesOnly shim.writes)⟩
  · intro reported
    have terminal : row.status ∈ terminalStatuses := by
      rw [reported]
      decide
    obtain ⟨source, member, found⟩ := closing terminal
    refine ⟨source, member, ran source member, fun shim => ?_⟩
    rcases shim.cases_of_status (fresh source.index)
      (terminalStatus_eq_some_iff.mp found).1 with executed | ⟨-, reports⟩
    · exact .inl executed
    · exact .inr
        ⟨reports, (shim.status_of_reported (fresh source.index) reports).2⟩
  · intro opened source member
    refine ⟨ran source member, fun shim reports => ?_⟩
    have status := (shim.status_of_reported (fresh source.index) reports).1
    have found : source.terminalStatus = some "reported" :=
      terminalStatus_eq_some_iff.mpr ⟨status, by decide⟩
    rw [opening opened source member] at found
    cases found

def rejectedIncident : State :=
  .ofList
    [("incident_id", .str "inc-1"), ("pipeline", .str "pipeline_silver"),
      ("pipeline_states", .dict
        [("pipeline_silver", .dict [("status", .str "failure")])]),
      ("human_decision", .str "reject")]

/-- A rejected incident is resumed while its first call still runs. -/
def rejectedCalls : Bool → Call
  | false => .invoke rejectedIncident
  | true => .resume (.str "inc-1") none

def dryRunNodes : Nodes :=
  deployed dryRunDeployment (scripted retryScript)

def rejectedEvents : List (Bool × Dialogue.Exchange RunnerAnswer) :=
  [(false, ⟨.graphInvoke rejectedIncident (.str "inc-1"),
      (Graph.invoke dryRunNodes rejectedIncident).map some⟩),
    (true, ⟨.graphInvoke .empty (.str "inc-1"),
      (Graph.invoke dryRunNodes .empty).map some⟩),
    (false, ⟨.now, "2026-02-01T03:00:00+00:00"⟩),
    (true, ⟨.now, "2026-02-01T03:00:01+00:00"⟩),
    (false, ⟨.upsert "inc-1"
      ⟨some "pipeline_silver", none, none, "reported",
        "2026-02-01T03:00:00+00:00"⟩, .ok ()⟩),
    (true, ⟨.upsert "inc-1"
      ⟨none, none, none, "resumed", "2026-02-01T03:00:01+00:00"⟩, .ok ()⟩)]

theorem rejected_turns :
    ∃ after row,
      Shared.Turns ShimServes (initial 900 rejectedCalls) rejectedEvents after ∧
      after.partner.find "inc-1" = some row ∧ row.status = "reported" :=
  ⟨_, _,
    .cons (.ask rfl (.graph _ _ _ dryRunDeployment retryScript_writesOnly)) <|
      .cons (.ask rfl
        (.graph _ _ _ dryRunDeployment retryScript_writesOnly)) <|
      .cons (.ask rfl (.clock ..)) <| .cons (.ask rfl (.clock ..)) <|
      .cons (.ask rfl (.accepted ..)) <| .cons (.ask rfl (.accepted ..)) <|
      .nil _, rfl, rfl⟩

theorem registry_status_meaning_rejected :
    ∃ after,
      Shared.Turns ShimServes (initial 900 rejectedCalls) rejectedEvents after ∧
      StatusMeaning rejectedCalls
        (concerning rejectedCalls "inc-1" (completions rejectedEvents after))
        "reported" := by
  obtain ⟨after, row, turns, stored, status⟩ := rejected_turns
  have fresh : ∀ index,
      (rejectedCalls index).payload.find "final_status" = none := by
    intro index
    cases index <;> rfl
  have meaning := registry_status_meaning turns fresh stored
  rw [status] at meaning
  exact ⟨after, turns, meaning⟩

end PipelineOps.Runtime
