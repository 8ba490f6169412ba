import PipelineOps.Graph.Steps

namespace PipelineOps.Graph

open PipelineOps.Library
open PipelineOps.Python

def NeverRaises (nodes : Nodes) : Prop :=
  ∀ node clock state, ∃ updates, nodes node clock state = .ok updates

theorem NeverRaises.result {nodes : Nodes} {visit : GraphVisit}
    (returns : NeverRaises nodes) (called : (shim nodes).Called visit) :
    ∃ updates, visit.result = .ok updates := by
  obtain ⟨clock, performed⟩ := called
  obtain ⟨updates, returned⟩ := returns visit.node clock visit.state
  exact ⟨updates, performed.symm.trans returned⟩

def DecisionTyped (state : State) : Prop :=
  State.get state "human_decision" = .null ∨
    ∃ text, State.get state "human_decision" = .str text

def Iterable (value : Value) : Prop :=
  value.truthy = true → ∃ items, value.iterate = .ok items

def DictLike (value : Value) : Prop :=
  value.truthy = true → ∃ entries, value = .dict entries

/-- The node leaves a state that its router can take onwards, and not back
into the loop of the modifications. -/
def Routable (node : NodeName) (state : State) : Prop :=
  match node with
  | .detect => Iterable (State.get state "detected_issues")
  | .collect => DictLike (State.get state "pipeline_states")
  | .interrupt => State.get state "human_decision" ≠ .str "modify"
  | _ => True

/-- The nodes still ahead on the longest way to `END` without the loop. -/
def rank : NodeName → Nat
  | .start => 9
  | .detect => 8
  | .collect => 7
  | .analyze => 6
  | .triage => 5
  | .propose => 4
  | .interrupt => 3
  | .execute => 2
  | .verify => 1
  | _ => 0

section Routers

variable {state : State} {next : Option NodeName}

theorem routeDetect_ok_iff :
    (∃ key, routeDetect state = .ok key) ↔
      Iterable (State.get state "detected_issues") := by
  cases filled : (State.get state "detected_issues").truthy with
  | false =>
      rw [routeDetect_of_falsy filled]
      simp [Iterable, filled]
  | true =>
      rw [routeDetect_of_truthy filled]
      simp only [Iterable, filled, forall_const]
      cases (State.get state "detected_issues").iterate with
      | error exc => simp [Except.map]
      | ok issues => simp [Except.map]

theorem dictLike_iff {value : Value} :
    DictLike value ↔ ∃ entries, value.orElse (.dict []) = .dict entries := by
  cases filled : value.truthy with
  | false => simp [DictLike, filled, Value.orElse_of_falsy filled]
  | true => simp [DictLike, filled, Value.orElse_of_truthy filled]

theorem routeCollect_ok_iff :
    (∃ key, routeCollect state = .ok key) ↔
      DictLike (State.get state "pipeline_states") := by
  rw [dictLike_iff]
  cases shape : (State.get state "pipeline_states").orElse (.dict []) with
  | dict entries =>
      simp only [routeCollect, shape, Value.dict.injEq, exists_eq', iff_true]
      split
      · exact ⟨"triage", rfl⟩
      · exact ⟨"analyze", rfl⟩
  | _ => simp [routeCollect, shape]

theorem routeInterrupt_ok (typed : DecisionTyped state) :
    ∃ key, routeInterrupt state = .ok key := by
  rcases typed with null | ⟨text, same⟩
  · exact ⟨"timeout", by simp [routeInterrupt, null, Value.hashable]⟩
  · simp only [routeInterrupt, same]
    split
    · exact ⟨_, rfl⟩
    · exact ⟨_, rfl⟩

theorem nextNode_of_routeKey {node : NodeName} {key : String}
    (routed : routeKey node state = .ok key) :
    ∃ next, nextNode node state = .ok next := by
  obtain ⟨routes, follower, conditional, found⟩ := routeKey_found routed
  exact ⟨target follower, (nextNode_conditional conditional).mpr
    ⟨key, follower, routed, found, rfl⟩⟩

theorem routeKey_of_nextNode {node : NodeName}
    {routes : List (String × NodeName)}
    (conditional : conditionalEdges.lookup node = some routes)
    (reached : nextNode node state = .ok next) :
    ∃ key, routeKey node state = .ok key := by
  obtain ⟨key, -, routed, -⟩ := (nextNode_conditional conditional).mp reached
  exact ⟨key, routed⟩

theorem routeTriage_ok (state : State) :
    ∃ key, routeTriage state = .ok key := by
  simp only [routeTriage]
  split
  · split
    · exact ⟨_, rfl⟩
    · exact ⟨_, rfl⟩
  · exact ⟨_, rfl⟩

theorem routeVerify_ok (state : State) :
    ∃ key, routeVerify state = .ok key := by
  simp only [routeVerify]
  split
  · exact ⟨_, rfl⟩
  · split
    · exact ⟨_, rfl⟩
    · split
      · exact ⟨_, rfl⟩
      · exact ⟨_, rfl⟩

theorem nextNode_of_routable {node : NodeName} (inner : node ≠ .finish)
    (typed : DecisionTyped state) (routable : Routable node state) :
    ∃ next, nextNode node state = .ok next := by
  cases node with
  | detect =>
      obtain ⟨key, routed⟩ := routeDetect_ok_iff.mpr routable
      exact nextNode_of_routeKey routed
  | collect =>
      obtain ⟨key, routed⟩ := routeCollect_ok_iff.mpr routable
      exact nextNode_of_routeKey routed
  | triage =>
      obtain ⟨key, routed⟩ := routeTriage_ok state
      exact nextNode_of_routeKey routed
  | interrupt =>
      obtain ⟨key, routed⟩ := routeInterrupt_ok typed
      exact nextNode_of_routeKey routed
  | verify =>
      obtain ⟨key, routed⟩ := routeVerify_ok state
      exact nextNode_of_routeKey routed
  | finish => exact absurd rfl inner
  | start => exact ⟨_, nextNode_linear rfl rfl⟩
  | analyze => exact ⟨_, nextNode_linear rfl rfl⟩
  | propose => exact ⟨_, nextNode_linear rfl rfl⟩
  | execute => exact ⟨_, nextNode_linear rfl rfl⟩
  | rollback => exact ⟨_, nextNode_linear rfl rfl⟩
  | reportOnly => exact ⟨_, nextNode_linear rfl rfl⟩
  | postmortem => exact ⟨_, nextNode_linear rfl rfl⟩

end Routers

section Runs

variable {nodes : Nodes} {state : State}

/-- A visit of the run is routable as soon as its call has returned. -/
def RoutableRun (nodes : Nodes) (state : State) : Prop :=
  ∀ visit ∈ (shimRun nodes state).visits, ∀ updates,
    visit.result = .ok updates →
      Routable visit.node (visit.state.update updates)

theorem rank_of_edge {node later : NodeName}
    (edge : some later ∈ successors node) :
    node = .interrupt ∧ later = .propose ∨ rank later < rank node :=
  of_edge (fun node later =>
      node = .interrupt ∧ later = .propose ∨ rank later < rank node)
    (fun node => by cases node <;> decide) edge

theorem visits_ne_finish : ∀ visit ∈ (shimRun nodes state).visits,
    visit.node ≠ .finish := by
  apply Workflow.run_invariant
    (fun (node : NodeName) (_ : State) => node ≠ .finish) (by decide)
  intro visit later follows _
  exact (inner_of_edge (follows_mem_successors follows)).2

/-- The interrupt is reached with the decision to modify the plan, which keeps
the run between the proposal and the interrupt. -/
def Modified (nodes : Nodes) (state : State) : Prop :=
  State.get state "human_decision" = .str "modify" ∧
    ∃ visit ∈ (shimRun nodes state).visits, visit.node = .interrupt

theorem rank_decreases (writes : WritesOnly nodes)
    (unmodified : ¬ Modified nodes state) {visit later : GraphVisit}
    (member : visit ∈ (shimRun nodes state).visits)
    (follows : (shim nodes).Follows visit later) :
    rank later.node < rank visit.node := by
  rcases rank_of_edge (follows_mem_successors follows) with
    ⟨interrupt, propose⟩ | closer
  · obtain ⟨updates, result, merged, routed⟩ := leads_iff.mp follows.2
    rw [interrupt, propose, nextNode_interrupt_propose_iff,
      follows_get writes follows (humanDecision_unwritten visit.node),
      visits_get writes humanDecision_unwritten visit member] at routed
    exact absurd ⟨routed, visit, member, interrupt⟩ unmodified
  · exact closer

theorem unmodified_length (writes : WritesOnly nodes)
    (unmodified : ¬ Modified nodes state) :
    (shimRun nodes state).visits.length ≤ 9 :=
  Workflow.run_length_le_rank (fun node (_ : State) => rank node)
    fun _ member _ follows => rank_decreases writes unmodified member follows

theorem unmodified_within (writes : WritesOnly nodes)
    (unmodified : ¬ Modified nodes state) :
    (shimRun nodes state).outcome ≠ .exhausted :=
  Workflow.run_ne_exhausted_of_rank (fun node (_ : State) => rank node)
    (fun _ member _ follows =>
      rank_decreases writes unmodified member follows)
    (by decide)

/-- The node is on the loop of the modifications, and the decision keeps it
there. -/
def Modifying (node : NodeName) (state : State) : Prop :=
  (node = .interrupt ∨ node = .propose) ∧
    State.get state "human_decision" = .str "modify"

theorem Modifying.goes_on {node : NodeName} {current : State}
    (modifying : Modifying node current) :
    ∃ next, nextNode node current = .ok (some next) ∧
      (next = .interrupt ∨ next = .propose) := by
  obtain ⟨rfl | rfl, modify⟩ := modifying
  · exact ⟨.propose, nextNode_interrupt_propose_iff.mpr modify, .inr rfl⟩
  · have reached : nextNode .propose current = .ok (target .interrupt) :=
      nextNode_linear rfl rfl
    exact ⟨.interrupt, reached, .inl rfl⟩

theorem Modifying.step (writes : WritesOnly nodes) {visit later : GraphVisit}
    (follows : (shim nodes).Follows visit later)
    (modifying : Modifying visit.node visit.state) :
    Modifying later.node later.state := by
  have kept := (follows_get writes follows
    (humanDecision_unwritten visit.node)).trans modifying.2
  obtain ⟨next, reached, loop⟩ :=
    Modifying.goes_on ⟨modifying.1, kept⟩
  obtain ⟨updates, -, -, routed⟩ := leads_iff.mp follows.2
  rw [reached] at routed
  rw [← Option.some.inj (Except.ok.inj routed)]
  exact ⟨loop, kept⟩

theorem Modifying.leads (writes : WritesOnly nodes)
    (returns : NeverRaises nodes) {visit : GraphVisit}
    (called : (shim nodes).Called visit)
    (modifying : Modifying visit.node visit.state) :
    ∃ next later, (shim nodes).Leads visit (some next) later := by
  obtain ⟨updates, result⟩ := returns.result called
  have kept := (called_get writes called result
    (humanDecision_unwritten visit.node)).trans modifying.2
  obtain ⟨next, reached, -⟩ := Modifying.goes_on ⟨modifying.1, kept⟩
  exact ⟨next, _, updates, result, rfl, reached⟩

theorem modified_exhausts (writes : WritesOnly nodes)
    (returns : NeverRaises nodes) (modified : Modified nodes state) :
    (shimRun nodes state).outcome = .exhausted := by
  obtain ⟨modify, visit, member, interrupt⟩ := modified
  have modifying : Modifying visit.node visit.state :=
    ⟨.inl interrupt,
      (visits_get writes humanDecision_unwritten visit member).trans modify⟩
  obtain ⟨before, rest, visits⟩ := List.append_of_mem member
  -- behind this interrupt the run never leaves the loop, so no visit ends it
  have looping : ∀ later ∈ rest, Modifying later.node later.state :=
    Workflow.run_invariant_after Modifying visits
      (fun later follows => modifying.step writes follows)
      (fun earlier later follows inner => inner.step writes follows)
  by_contra within
  obtain ⟨last, behind, ends⟩ := Workflow.run_ends_after within visits
  have lastMember : last ∈ (shimRun nodes state).visits := by
    rw [visits]
    exact List.mem_append_right _ behind
  have lastModifying : Modifying last.node last.state := by
    rcases List.mem_cons.mp behind with rfl | inner
    · exact modifying
    · exact looping last inner
  obtain ⟨next, later, leads⟩ := lastModifying.leads writes returns
    (Workflow.run_called last lastMember)
  exact leads.not_ends ends

theorem routableRun_finishes (writes : WritesOnly nodes)
    (returns : NeverRaises nodes) (typed : DecisionTyped state)
    (routable : RoutableRun nodes state) :
    ∃ final, (shimRun nodes state).outcome = .finished final := by
  have unmodified : ¬ Modified nodes state := by
    intro modified
    obtain ⟨modify, visit, member, interrupt⟩ := modified
    have called := Workflow.run_called visit member
    obtain ⟨updates, result⟩ := returns.result called
    have decided := routable visit member updates result
    rw [interrupt_unchanged writes called interrupt result, interrupt,
      Routable, visits_get writes humanDecision_unwritten visit member]
      at decided
    exact decided modify
  obtain ⟨before, last, visits, ends⟩ :=
    Workflow.run_ends (unmodified_within writes unmodified)
  have member : last ∈ (shimRun nodes state).visits := by
    rw [shimRun, visits]
    exact List.mem_append_right _ List.mem_cons_self
  have called := Workflow.run_called last member
  obtain ⟨updates, result⟩ := returns.result called
  have decision := (called_get writes called result
    (humanDecision_unwritten last.node)).trans
      (visits_get writes humanDecision_unwritten last member)
  have decisionTyped : DecisionTyped (last.state.update updates) := by
    rw [DecisionTyped, decision]
    exact typed
  obtain ⟨next, reached⟩ := nextNode_of_routable
    (visits_ne_finish last member) decisionTyped
    (routable last member updates result)
  cases next with
  | none =>
      have leads : (shim nodes).Leads last none (last.state.update updates) :=
        ⟨updates, result, rfl, reached⟩
      exact ⟨_, leads.ends_iff.mp ends⟩
  | some next =>
      have leads : (shim nodes).Leads last (some next)
          (last.state.update updates) := ⟨updates, result, rfl, reached⟩
      exact absurd ends leads.not_ends

theorem routableRun_of_finished (writes : WritesOnly nodes)
    (returns : NeverRaises nodes) {final : State}
    (finished : (shimRun nodes state).outcome = .finished final) :
    RoutableRun nodes state := by
  intro visit member updates result
  obtain ⟨next, later, leads⟩ := Workflow.run_finished_leads finished member
  obtain ⟨other, same, rfl, routed⟩ := leads_iff.mp leads
  rw [result] at same
  cases same
  cases node : visit.node with
  | detect =>
      rw [node] at routed
      exact routeDetect_ok_iff.mp (routeKey_of_nextNode rfl routed)
  | collect =>
      rw [node] at routed
      exact routeCollect_ok_iff.mp (routeKey_of_nextNode rfl routed)
  | interrupt =>
      intro modify
      rw [interrupt_unchanged writes (Workflow.run_called visit member) node
        result, visits_get writes humanDecision_unwritten visit member]
        at modify
      have exhausted :=
        modified_exhausts writes returns ⟨modify, visit, member, node⟩
      exact absurd (exhausted.symm.trans finished) (by simp)
  | _ => trivial

/-- Every router returns a key that its node has; a run of nodes that do not
raise reaches `END` exactly if it is routable; and only the decision to modify
the plan takes it beyond nine calls, up to the step limit. -/
theorem invoke_finishes_iff (writes : WritesOnly nodes)
    (returns : NeverRaises nodes) (typed : DecisionTyped state) :
    (∀ node current key, routeKey node current = .ok key →
      ∃ routes follower, conditionalEdges.lookup node = some routes ∧
        routes.lookup key = some follower) ∧
    ((∃ final, invoke nodes state = .ok final) ↔ RoutableRun nodes state) ∧
    ((shimRun nodes state).outcome = .exhausted ↔ Modified nodes state) ∧
    (¬ Modified nodes state → (shimRun nodes state).visits.length ≤ 9) := by
  simp only [invoke_ok_iff]
  refine ⟨fun _ _ _ => routeKey_found, ⟨?_, ?_⟩, ⟨?_, ?_⟩,
    unmodified_length writes⟩
  · intro returned
    obtain ⟨final, finished⟩ := returned
    exact routableRun_of_finished writes returns finished
  · exact routableRun_finishes writes returns typed
  · intro exhausted
    by_contra unmodified
    exact unmodified_within writes unmodified exhausted
  · exact modified_exhausts writes returns

end Runs

def modifyScript : NodeName → List (String × Value)
  | .detect => [("detected_issues", .list [.str "failure"])]
  | _ => []

theorem modifyScript_writesOnly : WritesOnly (scripted modifyScript) :=
  scripted_writesOnly fun node => by cases node <;> decide

theorem scripted_neverRaises (script : NodeName → List (String × Value)) :
    NeverRaises (scripted script) :=
  fun _ _ _ => ⟨_, rfl⟩

theorem invoke_finishes_rejected :
    RoutableRun (scripted modifyScript)
      (.ofList [("human_decision", .str "reject")]) := by
  have typed : DecisionTyped (.ofList [("human_decision", .str "reject")]) :=
    .inr ⟨"reject", rfl⟩
  obtain ⟨-, finishes, -⟩ := invoke_finishes_iff modifyScript_writesOnly
    (scripted_neverRaises modifyScript) typed
  exact finishes.mp ⟨_, rfl⟩

def modifiedState : State := .ofList [("human_decision", .str "modify")]

theorem modification_exceeds_steps :
    WritesOnly (scripted modifyScript) ∧ NeverRaises (scripted modifyScript) ∧
      (∀ clock state, scripted modifyScript .interrupt clock state =
        interruptNode state) ∧
      DecisionTyped modifiedState ∧
      invoke (scripted modifyScript) modifiedState =
        .error (.runtimeError "graph execution exceeded maximum steps") :=
  ⟨modifyScript_writesOnly, scripted_neverRaises modifyScript, fun _ _ => rfl,
    .inr ⟨_, rfl⟩, rfl⟩

end PipelineOps.Graph
