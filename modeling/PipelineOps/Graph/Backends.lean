import PipelineOps.Graph.Termination

namespace PipelineOps.Graph

open PipelineOps.Library
open PipelineOps.Python

/-- The compiled `StateGraph(AgentState)`: updates lose the keys that
`AgentState` does not declare. -/
def langgraph (nodes : Nodes) : Workflow NodeName State Updates Exc where
  perform clock node state := nodes node clock state
  merge state updates := state.update (updates.restrict Declared)
  route := nextNode

/-- The first `budget` steps of the langgraph backend, whose input also loses
its undeclared keys. -/
def langgraphSteps (nodes : Nodes) (budget : Nat) (state : State) : GraphRun :=
  (langgraph nodes).run budget 0 .detect (state.restrict Declared)

/-- A run of the langgraph backend, which has no limit of its own, to its
end. -/
def LanggraphRun (nodes : Nodes) (state : State) (run : GraphRun) : Prop :=
  ∃ budget, langgraphSteps nodes budget state = run ∧ run.outcome ≠ .exhausted

def SameFields (state other : State) : Prop :=
  ∀ key, Declared key → state.find key = other.find key

/-- What the shim's `invoke` returns or raises is how the other run ends. -/
def EndsAlike : Except Exc State → Outcome State Exc → Prop
  | .ok final, .finished other => SameFields final other
  | .error exc, .raised other => exc = other
  | _, _ => False

/-- The two backends visit the same nodes and end alike. -/
def BackendsAgree (nodes : Nodes) (state : State) : Prop :=
  ∃ run, LanggraphRun nodes state run ∧
    (shimRun nodes state).nodes = run.nodes ∧
    EndsAlike (invoke nodes state) run.outcome

/-- The nodes return keys of their `WRITE_FIELDS`, or else of `extra`. -/
def WritesBeyond (extra : String → Prop) (nodes : Nodes) : Prop :=
  ∀ node clock state updates, nodes node clock state = .ok updates →
    updates.Within fun key => key ∈ writeFields node ∨ extra key

theorem writeFields_declared {node : NodeName} {key : String}
    (written : key ∈ writeFields node) : Declared key := by
  have table : ∀ field ∈ writeFields node, Declared field := by
    cases node <;> decide
  exact table key written

/-- On declared keys the two backends run in lockstep. -/
theorem backends_lockstep {extra : String → Prop} {nodes : Nodes}
    (writes : WritesBeyond extra nodes)
    (declares : ∀ key, extra key → Declared key) :
    (shim nodes).Lockstep (langgraph nodes) fun state other =>
      other = state ∧ state.Within Declared where
  perform clock node state other := by
    intro related
    obtain ⟨rfl, within⟩ := related
    cases returned : nodes node clock other with
    | error exc => exact .inl ⟨exc, returned, returned⟩
    | ok updates =>
        have kept : updates.Within Declared :=
          (writes node clock other updates returned).mono fun key written =>
            written.elim writeFields_declared (declares key)
        have restricted := (Dict.restrict_eq_self_iff Declared updates).mpr kept
        refine .inr ⟨updates, updates, returned, returned, ?_,
          within.update kept⟩
        change other.update (updates.restrict Declared) = other.update updates
        rw [restricted]
  route node state other := by
    intro related
    obtain ⟨rfl, -⟩ := related
    rfl

section Undecided

variable {extra : String → Prop} {nodes : Nodes} {state : State}

theorem follows_decision (writes : WritesBeyond extra nodes)
    (unwritten : ¬ extra "human_decision") {visit later : GraphVisit}
    (follows : (shim nodes).Follows visit later) :
    State.get later.state "human_decision" =
      State.get visit.state "human_decision" := by
  obtain ⟨⟨clock, called⟩, leads⟩ := follows
  obtain ⟨updates, result, merged, -⟩ := leads_iff.mp leads
  have within := writes visit.node clock visit.state updates
    (called.trans result)
  have absent : updates.find "human_decision" = none :=
    within.find_eq_none fun written =>
      written.elim (humanDecision_unwritten visit.node) unwritten
  rw [merged]
  exact State.get_eq_of_find (Dict.find_update_of_none absent)

/-- Without the decision to modify the plan, the shim stays within its
limit. -/
theorem undecided_within (writes : WritesBeyond extra nodes)
    (unwritten : ¬ extra "human_decision")
    (undecided : State.get state "human_decision" ≠ .str "modify") :
    (shimRun nodes state).outcome ≠ .exhausted := by
  have kept : ∀ visit ∈ (shimRun nodes state).visits,
      State.get visit.state "human_decision" ≠ .str "modify" := by
    apply Workflow.run_invariant (fun (_ : NodeName) (current : State) =>
      State.get current "human_decision" ≠ .str "modify") undecided
    intro visit later follows here
    rwa [follows_decision writes unwritten follows]
  apply Workflow.run_ne_exhausted_of_rank (fun node (_ : State) => rank node)
  · intro visit member later follows
    rcases rank_of_edge (follows_mem_successors follows) with
      ⟨interrupt, propose⟩ | closer
    · obtain ⟨updates, -, -, routed⟩ := leads_iff.mp follows.2
      rw [interrupt, propose, nextNode_interrupt_propose_iff,
        follows_decision writes unwritten follows] at routed
      exact absurd routed (kept visit member)
    · exact closer
  · decide

theorem endsAlike_of_related {run other : GraphRun}
    (shims : run = shimRun nodes state) (within : run.outcome ≠ .exhausted)
    (related : run.outcome.Related SameFields other.outcome) :
    EndsAlike (invoke nodes state) other.outcome := by
  subst shims
  rw [invoke]
  cases ended : (shimRun nodes state).outcome with
  | exhausted => exact absurd ended within
  | finished final =>
      rw [ended] at related
      cases otherEnded : other.outcome with
      | finished last => rwa [otherEnded] at related
      | raised exc => rw [otherEnded] at related; exact related.elim
      | exhausted => rw [otherEnded] at related; exact related.elim
  | raised exc =>
      rw [ended] at related
      cases otherEnded : other.outcome with
      | finished last => rw [otherEnded] at related; exact related.elim
      | raised last => rwa [otherEnded] at related
      | exhausted => rw [otherEnded] at related; exact related.elim

theorem backendsAgree_of_declared (writes : WritesBeyond extra nodes)
    (declares : ∀ key, extra key → Declared key)
    (within : state.Within Declared)
    (unwritten : ¬ extra "human_decision")
    (undecided : State.get state "human_decision" ≠ .str "modify") :
    BackendsAgree nodes state := by
  have restricted := (Dict.restrict_eq_self_iff Declared state).mpr within
  obtain ⟨nodesEq, outcome⟩ := (backends_lockstep writes declares).run maxSteps
    0 .detect ⟨restricted, within⟩
  have same : ((shim nodes).run maxSteps 0 .detect state).outcome.Related
      SameFields (langgraphSteps nodes maxSteps state).outcome := by
    refine outcome.mono ?_
    intro final other related key declared
    obtain ⟨rfl, -⟩ := related
    rfl
  have ended := undecided_within writes unwritten undecided
  refine ⟨_, ⟨maxSteps, rfl, ?_⟩, nodesEq, endsAlike_of_related rfl ended same⟩
  intro exhausted
  rw [exhausted] at same
  cases shimEnded : ((shim nodes).run maxSteps 0 .detect state).outcome with
  | exhausted => exact ended shimEnded
  | finished final => rw [shimEnded] at same; exact same.elim
  | raised exc => rw [shimEnded] at same; exact same.elim

end Undecided

/-- A langgraph run that ends begins as it does under any budget. -/
theorem LanggraphRun.nodes_take {nodes : Nodes} {state : State} {run : GraphRun}
    (ended : LanggraphRun nodes state run) (budget : Nat) :
    run.nodes.take budget = (langgraphSteps nodes budget state).nodes := by
  obtain ⟨enough, rfl, within⟩ := ended
  have longer : langgraphSteps nodes (max enough budget) state =
      langgraphSteps nodes enough state :=
    Workflow.run_of_ended (Nat.le_max_left _ _) within
  rw [← longer]
  exact Workflow.run_nodes_take (Nat.le_max_right _ _)

theorem find_merge_langgraph (nodes : Nodes) (state : State) (updates : Updates)
    {field : String} (declared : Declared field) :
    ((langgraph nodes).merge state updates).find field =
      (updates.find field).or (state.find field) := by
  change ((updates.restrict Declared).find field).or _ = _
  rw [Dict.find_restrict, if_pos declared]

section Probe

/-! Nodes that tell the two backends apart by one undeclared key. -/

/-- What `detect` returns: an issue, and the key if `written`. -/
def probeUpdates (key : String) (written : Bool) : List (String × Value) :=
  [("pipeline_states", .dict []),
    ("detected_issues", .list [.str "failure"])] ++
    if written then [(key, .null)] else []

/-- `collect` finds a DQ tag exactly if it finds the key. -/
def probe (key : String) (written : Bool) : Nodes
  | .detect, _, _ => .ok (.ofList (probeUpdates key written))
  | .collect, _, state => .ok (.ofList
      [("exceptions", .list []),
        ("dq_tags", .list (if (state.find key).isSome then
          [.str "SOURCE_STALE"] else []))])
  | _, _, _ => .ok Dict.empty

theorem probe_writesBeyond {extra : String → Prop} {key : String}
    {written : Bool} (allowed : written = true → extra key) :
    WritesBeyond extra (probe key written) := by
  intro node clock state updates returned
  cases node with
  | detect =>
      cases returned
      apply Dict.within_ofList
      intro entry member
      rcases List.mem_append.mp member with fixed | probed
      · have table : ∀ entry ∈ ([("pipeline_states", .dict []),
            ("detected_issues", .list [.str "failure"])] :
              List (String × Value)),
            entry.1 ∈ writeFields .detect := by decide
        exact .inl (table entry fixed)
      · cases written with
        | false => simp at probed
        | true =>
            rw [List.mem_singleton.mp probed]
            exact .inr (allowed rfl)
  | collect =>
      cases returned
      apply Dict.within_ofList
      intro entry member
      left
      simp only [List.mem_cons, List.not_mem_nil, or_false] at member
      rcases member with rfl | rfl <;> simp [writeFields, Collect.writeFields]
  | _ =>
      cases returned
      exact Dict.within_empty _

theorem nextNode_probed_detect {state : State}
    (issues : State.get state "detected_issues" = .list [.str "failure"]) :
    nextNode .detect state = .ok (some .collect) := by
  refine (nextNode_conditional rfl).mpr ⟨"collect", .collect, ?_, rfl, rfl⟩
  have truthy : (State.get state "detected_issues").truthy = true := by
    rw [issues]
    rfl
  change routeDetect state = _
  rw [routeDetect_of_truthy truthy, issues]
  rfl

theorem nextNode_probed_collect {state : State} {seen : Bool}
    (pipelineStates : State.get state "pipeline_states" = .dict [])
    (exceptions : State.get state "exceptions" = .list [])
    (dqTags : State.get state "dq_tags" =
      .list (if seen then [.str "SOURCE_STALE"] else [])) :
    nextNode .collect state =
      .ok (some (if seen then .triage else .analyze)) := by
  apply (nextNode_conditional rfl).mpr
  change ∃ key chosen, routeCollect state = .ok key ∧ _
  simp only [routeCollect, pipelineStates, exceptions, dqTags]
  cases seen with
  | true => exact ⟨"triage", .triage, rfl, rfl, rfl⟩
  | false => exact ⟨"analyze", .analyze, rfl, rfl, rfl⟩

/-- An executor that keeps declared keys shows, by its third node, whether the
key has reached `collect`. -/
theorem probe_nodes {flow : Workflow NodeName State Updates Exc} {key : String}
    {written : Bool}
    (performs : ∀ clock node state,
      flow.perform clock node state = probe key written node clock state)
    (routes : ∀ node state, flow.route node state = nextNode node state)
    (keeps : ∀ state updates field, Declared field →
      (flow.merge state updates).find field =
        (updates.find field).or (state.find field))
    (start : State) :
    (flow.run 3 0 .detect start).nodes =
      [.detect, .collect,
        if ((flow.merge start (.ofList (probeUpdates key written))).find
          key).isSome then .triage else .analyze] := by
  let detected := flow.merge start (.ofList (probeUpdates key written))
  let seen := (detected.find key).isSome
  let collected := flow.merge detected (.ofList
    [("exceptions", .list []),
      ("dq_tags", .list (if seen then [.str "SOURCE_STALE"] else []))])
  -- two steps are alike in all executors; the third node tells them apart
  have detects : flow.route .detect detected = .ok (some .collect) := by
    rw [routes]
    apply nextNode_probed_detect
    rw [State.get, keeps _ _ _ (by decide)]
    rfl
  have collects : flow.route .collect collected =
      .ok (some (if seen then .triage else .analyze)) := by
    rw [routes]
    apply nextNode_probed_collect
    · rw [State.get, keeps _ _ _ (by decide), keeps _ _ _ (by decide)]
      rfl
    · rw [State.get, keeps _ _ _ (by decide)]
      rfl
    · rw [State.get, keeps _ _ _ (by decide)]
      rfl
  rw [Workflow.run_step ((performs _ _ _).trans rfl) detects,
    Workflow.run_step ((performs _ _ _).trans rfl) collects]
  obtain ⟨visit, node, -, -, ⟨outcome, -, equation⟩ |
    ⟨next, later, -, equation⟩⟩ := flow.run_succ 0 2
      (if seen then .triage else .analyze) collected
  · rw [equation, ← node]
    rfl
  · rw [equation, ← node]
    rfl

theorem probed_shim {key : String} {written : Bool} {state : State}
    (reaches : written = true ∨ state.find key ≠ none) :
    (shimRun (probe key written) state).nodes.take 3 =
      [.detect, .collect, .triage] := by
  rw [shimRun, Workflow.run_nodes_take (by decide),
    probe_nodes (fun _ _ _ => rfl) (fun _ _ => rfl) (fun _ _ _ _ => rfl)]
  have seen : ((state.update (.ofList (probeUpdates key written))).find
      key).isSome = true := by
    rw [Dict.find_update, Option.isSome_or, Bool.or_eq_true]
    rcases reaches with rfl | present
    · refine .inl (List.lookup_isSome_iff.mpr ⟨(key, .null), ?_, by simp⟩)
      simp [probeUpdates]
    · exact .inr (Option.isSome_iff_ne_none.mpr present)
  change [_, _, if ((state.update _).find key).isSome then _ else _] = _
  rw [seen]
  rfl

theorem probed_langgraph {key : String} {written : Bool} {state : State}
    (undeclared : ¬ Declared key) :
    (langgraphSteps (probe key written) 3 state).nodes =
      [.detect, .collect, .analyze] := by
  have unseen : ((langgraph (probe key written)).merge
      (state.restrict Declared)
      (.ofList (probeUpdates key written))).find key = none := by
    change ((Dict.restrict Declared _).find key).or
      ((state.restrict Declared).find key) = none
    rw [Dict.find_restrict, Dict.find_restrict, if_neg undeclared,
      if_neg undeclared, Option.none_or]
  rw [langgraphSteps, probe_nodes (fun _ _ _ => rfl) (fun _ _ => rfl)
    (fun state updates _ =>
      find_merge_langgraph (probe key written) state updates), unseen]
  rfl

end Probe

section Loop

/-! Nodes that keep a run between the proposal and the interrupt. -/

def loopScript (written : Bool) : NodeName → List (String × Value)
  | .detect =>
      [("pipeline_states", .dict []),
        ("detected_issues", .list [.str "failure"])] ++
        if written then [("human_decision", .str "modify")] else []
  | .triage => [("action_plan", .dict [])]
  | _ => []

theorem loop_writesBeyond {extra : String → Prop} {written : Bool}
    (allowed : written = true → extra "human_decision") :
    WritesBeyond extra (scripted (loopScript written)) := by
  intro node clock state updates returned
  cases returned
  apply Dict.within_ofList
  intro entry member
  cases node with
  | detect =>
      rcases List.mem_append.mp member with fixed | decided
      · have table : ∀ entry ∈ ([("pipeline_states", .dict []),
            ("detected_issues", .list [.str "failure"])] :
              List (String × Value)),
            entry.1 ∈ writeFields .detect := by decide
        exact .inl (table entry fixed)
      · cases written with
        | false => cases decided
        | true =>
            rw [List.mem_singleton.mp decided]
            exact .inr (allowed rfl)
  | triage =>
      rw [List.mem_singleton.mp member]
      exact .inl (by decide)
  | _ => cases member

def Decided (state : State) : Prop :=
  State.get state "human_decision" = .str "modify"

/-- Where such a run is, and what it finds there. -/
def Looping (written : Bool) : NodeName → State → Prop
  | .detect, state => written = true ∨ Decided state
  | .collect, state =>
      State.get state "pipeline_states" = .dict [] ∧ Decided state
  | .analyze, state | .triage, state | .propose, state | .interrupt, state =>
      Decided state
  | _, _ => False

theorem nextNode_collect_of_dictLike {state : State}
    (dictLike : DictLike (State.get state "pipeline_states")) :
    nextNode .collect state = .ok (target .triage) ∨
      nextNode .collect state = .ok (target .analyze) := by
  obtain ⟨key, routed⟩ := routeCollect_ok_iff.mpr dictLike
  rcases routeCollect_mem routed with rfl | rfl
  · exact .inl
      ((nextNode_conditional rfl).mpr ⟨_, .triage, routed, rfl, rfl⟩)
  · exact .inr
      ((nextNode_conditional rfl).mpr ⟨_, .analyze, routed, rfl, rfl⟩)

/-- An executor that keeps declared keys never leaves the loop. -/
theorem loop_exhausts (flow : Workflow NodeName State Updates Exc)
    {written : Bool}
    (performs : ∀ clock node state, flow.perform clock node state =
      scripted (loopScript written) node clock state)
    (routes : ∀ node state, flow.route node state = nextNode node state)
    (keeps : ∀ state updates field, Declared field →
      (flow.merge state updates).find field =
        (updates.find field).or (state.find field))
    {start : State} (decided : written = true ∨ Decided start) (budget : Nat) :
    (flow.run budget 0 .detect start).outcome = .exhausted := by
  have entry : Looping written .detect start := decided
  refine Workflow.run_exhausted_of_invariant (Looping written) ?_ entry
  intro clock node state looping
  let merged := flow.merge state (.ofList (loopScript written node))
  have read : ∀ field, Declared field → State.get merged field =
      (((loopScript written node).lookup field).or
        (state.find field)).getD .null := by
    intro field declared
    rw [State.get, keeps state _ field declared]
    rfl
  -- behind every node the decision stands, written by `detect` or kept
  have decision : Decided merged := by
    rw [Decided, read _ (by decide)]
    cases node with
    | detect =>
        cases written with
        | true => rfl
        | false => exact looping.resolve_left (by decide)
    | collect => exact looping.2
    | analyze => exact looping
    | triage => exact looping
    | propose => exact looping
    | interrupt => exact looping
    | _ => exact looping.elim
  refine ⟨.ofList (loopScript written node), ?_⟩
  simp only [performs, routes]
  cases node with
  | detect =>
      refine ⟨.collect, rfl, nextNode_probed_detect ?_, ?_, decision⟩
      · exact read "detected_issues" (by decide)
      · exact read "pipeline_states" (by decide)
  | collect =>
      have states : State.get merged "pipeline_states" = .dict [] :=
        (read _ (by decide)).trans looping.1
      have dictLike : DictLike (State.get merged "pipeline_states") := by
        rw [states]
        exact fun _ => ⟨[], rfl⟩
      rcases nextNode_collect_of_dictLike dictLike with triage | analyze
      · exact ⟨.triage, rfl, triage, decision⟩
      · exact ⟨.analyze, rfl, analyze, decision⟩
  | analyze =>
      have reached : nextNode .analyze merged = .ok (target .triage) :=
        nextNode_linear rfl rfl
      exact ⟨.triage, rfl, reached, decision⟩
  | triage =>
      have routed : routeTriage merged = .ok "propose" := by
        rw [routeTriage, read "action_plan" (by decide)]
        rfl
      exact ⟨.propose, rfl, (nextNode_conditional rfl).mpr
        ⟨_, .propose, routed, rfl, rfl⟩, decision⟩
  | propose =>
      have reached : nextNode .propose merged = .ok (target .interrupt) :=
        nextNode_linear rfl rfl
      exact ⟨.interrupt, rfl, reached, decision⟩
  | interrupt =>
      exact ⟨.propose, rfl, nextNode_interrupt_propose_iff.mpr decision,
        decision⟩
  | _ => exact looping.elim

end Loop

/-- The backends agree from a state, whatever the nodes do within the keys they
may write, exactly if neither the state nor a node brings in an undeclared key,
nor the decision on which the shim runs into its limit. -/
theorem backendsAgree_iff {extra : String → Prop} {state : State} :
    (∀ nodes, WritesBeyond extra nodes → BackendsAgree nodes state) ↔
      state.Within Declared ∧ (∀ key, extra key → Declared key) ∧
        State.get state "human_decision" ≠ .str "modify" ∧
        ¬ extra "human_decision" := by
  constructor
  · intro agree
    have separates : ∀ key (written : Bool), (written = true → extra key) →
        (written = true ∨ state.find key ≠ none) → Declared key := by
      intro key written allowed reaches
      by_contra undeclared
      obtain ⟨run, ended, nodesEq, -⟩ :=
        agree (probe key written) (probe_writesBeyond allowed)
      have begun := ended.nodes_take 3
      rw [← nodesEq, probed_shim reaches, probed_langgraph undeclared] at begun
      exact absurd begun (by decide)
    have ends : ∀ written : Bool, (written = true → extra "human_decision") →
        ¬ (written = true ∨ Decided state) := by
      intro written allowed decided
      obtain ⟨run, ⟨budget, rfl, ended⟩, -⟩ :=
        agree (scripted (loopScript written)) (loop_writesBeyond allowed)
      have restricted : written = true ∨ Decided (state.restrict Declared) := by
        refine decided.imp_right fun decision => ?_
        rwa [Decided, State.get, Dict.find_restrict, if_pos (by decide)]
      exact ended (loop_exhausts (langgraph (scripted (loopScript written)))
        (fun _ _ _ => rfl) (fun _ _ => rfl)
        (fun state updates _ => find_merge_langgraph _ state updates)
        restricted budget)
    exact ⟨fun key present => separates key false (by simp) (.inr present),
      fun key allowed => separates key true (fun _ => allowed) (.inl rfl),
      fun decided => ends false (by simp) (.inr decided),
      fun allowed => ends true (fun _ => allowed) (.inl rfl)⟩
  · intro conditions nodes writes
    obtain ⟨within, declares, undecided, unwritten⟩ := conditions
    exact backendsAgree_of_declared writes declares within unwritten undecided

def ledgerState : State :=
  .ofList
    [("pipeline", .str "pipeline_silver"),
      ("exception_ledger", .list
        [.dict [("domain", .str "dq"), ("severity", .str "CRITICAL")]])]

def silentScript : NodeName → List (String × Value) := fun _ => []

theorem backends_disagree :
    WritesOnly (deployed dryRunDeployment (scripted silentScript)) ∧
      ¬ BackendsAgree (deployed dryRunDeployment (scripted silentScript))
        ledgerState := by
  refine ⟨deployed_writesOnly (scripted_writesOnly (by simp [silentScript])),
    fun agree => ?_⟩
  obtain ⟨run, ended, nodesEq, -⟩ := agree
  have begun := ended.nodes_take 2
  have shimNodes : (shimRun (deployed dryRunDeployment
      (scripted silentScript)) ledgerState).nodes.take 2 =
        [.detect, .collect] := by
    rw [shimRun, Workflow.run_nodes_take (by decide)]
    rfl
  have langgraphNodes : (langgraphSteps (deployed dryRunDeployment
      (scripted silentScript)) 2 ledgerState).nodes = [.detect] := rfl
  rw [← nodesEq, shimNodes, langgraphNodes] at begun
  exact absurd begun (by decide)

end PipelineOps.Graph
