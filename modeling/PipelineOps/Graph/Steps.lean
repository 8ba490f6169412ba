import PipelineOps.Graph.Definition

namespace PipelineOps.Graph

open PipelineOps.Library
open PipelineOps.Python

/-! What one step of the graph can do: which node follows which, and which keys
a step leaves alone. -/

section Routes

variable {state : State} {next : Option NodeName}

theorem nextNode_conditional {node : NodeName}
    {routes : List (String × NodeName)}
    (conditional : conditionalEdges.lookup node = some routes) :
    nextNode node state = .ok next ↔
      ∃ key chosen, routeKey node state = .ok key ∧
        routes.lookup key = some chosen ∧ target chosen = next := by
  simp only [nextNode, conditional]
  cases routed : routeKey node state with
  | error exc =>
      constructor
      · intro failed
        cases failed
      · intro route
        obtain ⟨key, chosen, failed, -⟩ := route
        cases failed
  | ok key =>
      simp only [bind, Except.bind, pure, Except.pure]
      cases found : routes.lookup key with
      | none =>
          constructor
          · intro failed
            cases failed
          · intro route
            obtain ⟨other, chosen, same, missing, -⟩ := route
            cases same
            rw [found] at missing
            cases missing
      | some chosen =>
          constructor
          · intro reached
            exact ⟨key, chosen, rfl, found, Except.ok.inj reached⟩
          · intro route
            obtain ⟨other, another, same, otherFound, reached⟩ := route
            cases same
            rw [found] at otherFound
            cases otherFound
            exact congrArg Except.ok reached

theorem nextNode_linear {node follower : NodeName}
    (linear : conditionalEdges.lookup node = none)
    (edge : edges.lookup node = some follower) :
    nextNode node state = .ok (target follower) := by
  simp only [nextNode, linear, edge]

theorem routeDetect_of_falsy
    (falsy : (State.get state "detected_issues").truthy = false) :
    routeDetect state = .ok "end" := by
  rw [routeDetect, Value.orElse_of_falsy falsy]
  rfl

theorem routeDetect_of_truthy
    (truthy : (State.get state "detected_issues").truthy = true) :
    routeDetect state =
      (State.get state "detected_issues").iterate.map fun issues =>
        if issues.all fun issue => issueKind issue == "cutoff_delay" then
          "report_only"
        else "collect" := by
  rw [routeDetect, Value.orElse_of_truthy truthy]
  simp only [truthy, Bool.not_true, Bool.false_eq_true, if_false]
  cases (State.get state "detected_issues").iterate with
  | error exc => rfl
  | ok issues =>
      simp only [bind, Except.bind, Except.map]
      split <;> rfl

theorem routeDetect_mem {key : String} (routed : routeDetect state = .ok key) :
    key = "end" ∨ key = "report_only" ∨ key = "collect" := by
  cases filled : (State.get state "detected_issues").truthy with
  | false =>
      rw [routeDetect_of_falsy filled] at routed
      exact .inl (Except.ok.inj routed).symm
  | true =>
      rw [routeDetect_of_truthy filled] at routed
      cases iterated : (State.get state "detected_issues").iterate with
      | error exc => simp [iterated, Except.map] at routed
      | ok issues =>
          simp only [iterated, Except.map, Except.ok.injEq] at routed
          split at routed
          · exact .inr (.inl routed.symm)
          · exact .inr (.inr routed.symm)

theorem routeDetect_end_iff :
    routeDetect state = .ok "end" ↔
      (State.get state "detected_issues").truthy = false := by
  constructor
  · intro routed
    by_contra filled
    rw [routeDetect_of_truthy (Bool.of_not_eq_false filled)] at routed
    cases iterated : (State.get state "detected_issues").iterate with
    | error exc => simp [iterated, Except.map] at routed
    | ok issues =>
        simp only [iterated, Except.map, Except.ok.injEq] at routed
        split at routed <;> exact absurd routed (by decide)
  · exact routeDetect_of_falsy

theorem routeCollect_mem {key : String}
    (routed : routeCollect state = .ok key) :
    key = "triage" ∨ key = "analyze" := by
  simp only [routeCollect] at routed
  split at routed
  · split at routed
    · exact .inl (Except.ok.inj routed).symm
    · exact .inr (Except.ok.inj routed).symm
  · cases routed

theorem routeTriage_mem {key : String} (routed : routeTriage state = .ok key) :
    key = "report_only" ∨ key = "propose" := by
  simp only [routeTriage] at routed
  split at routed
  · split at routed
    · exact .inl (Except.ok.inj routed).symm
    · exact .inr (Except.ok.inj routed).symm
  · exact .inr (Except.ok.inj routed).symm

theorem routeInterrupt_mem {key : String}
    (routed : routeInterrupt state = .ok key) :
    key ∈ ["approve", "reject", "modify", "timeout"] := by
  simp only [routeInterrupt] at routed
  split at routed
  · split at routed
    · rename_i known
      rw [← Except.ok.inj routed]
      exact List.contains_iff_mem.mp known
    · simp [← Except.ok.inj routed]
  · split at routed
    · simp [← Except.ok.inj routed]
    · cases routed

theorem routeVerify_mem {key : String} (routed : routeVerify state = .ok key) :
    key = "postmortem" ∨ key = "rollback" ∨ key = "end" := by
  simp only [routeVerify] at routed
  split at routed
  · exact .inl (Except.ok.inj routed).symm
  · split at routed
    · exact .inr (.inr (Except.ok.inj routed).symm)
    · split at routed
      · exact .inr (.inl (Except.ok.inj routed).symm)
      · exact .inr (.inr (Except.ok.inj routed).symm)

theorem routeInterrupt_congr {other : State}
    (same : State.get state "human_decision" =
      State.get other "human_decision") :
    routeInterrupt state = routeInterrupt other := by
  simp only [routeInterrupt, same]

theorem routeInterrupt_iff {decision : String}
    (known : decision ∈ ["approve", "reject", "modify"]) :
    routeInterrupt state = .ok decision ↔
      State.get state "human_decision" = .str decision := by
  have listed : ["approve", "reject", "modify", "timeout"].contains decision =
      true := List.contains_iff_mem.mpr (List.mem_append_left ["timeout"] known)
  have inTime : "timeout" ≠ decision := by
    intro same
    subst same
    exact absurd known (by decide)
  constructor
  · intro routed
    simp only [routeInterrupt] at routed
    split at routed
    · rename_i text same
      split at routed
      · rw [same, Except.ok.inj routed]
      · exact absurd (Except.ok.inj routed) inTime
    · split at routed
      · exact absurd (Except.ok.inj routed) inTime
      · cases routed
  · intro same
    simp only [routeInterrupt, same, listed, if_true]

theorem nextNode_interrupt_iff :
    nextNode .interrupt state = .ok next ↔
      ∃ key, routeInterrupt state = .ok key ∧
        (key, next) ∈ [("approve", some .execute), ("reject", some .reportOnly),
          ("modify", some .propose), ("timeout", none)] := by
  rw [nextNode_conditional rfl]
  constructor
  · intro route
    obtain ⟨key, chosen, routed, found, rfl⟩ := route
    have member := routeInterrupt_mem routed
    simp only [List.mem_cons, List.not_mem_nil, or_false] at member
    refine ⟨key, routed, ?_⟩
    rcases member with rfl | rfl | rfl | rfl
    all_goals
      cases found
      decide
  · intro route
    obtain ⟨key, routed, member⟩ := route
    simp only [List.mem_cons, List.not_mem_nil, or_false, Prod.mk.injEq]
      at member
    rcases member with ⟨rfl, rfl⟩ | ⟨rfl, rfl⟩ | ⟨rfl, rfl⟩ | ⟨rfl, rfl⟩
    · exact ⟨_, .execute, routed, rfl, rfl⟩
    · exact ⟨_, .reportOnly, routed, rfl, rfl⟩
    · exact ⟨_, .propose, routed, rfl, rfl⟩
    · exact ⟨_, .finish, routed, rfl, rfl⟩

theorem nextNode_interrupt_none_iff :
    nextNode .interrupt state = .ok none ↔
      routeInterrupt state = .ok "timeout" := by
  simp [nextNode_interrupt_iff]

theorem nextNode_interrupt_propose_iff :
    nextNode .interrupt state = .ok (some .propose) ↔
      State.get state "human_decision" = .str "modify" := by
  simp [nextNode_interrupt_iff, routeInterrupt_iff]

theorem nextNode_interrupt_execute_iff :
    nextNode .interrupt state = .ok (some .execute) ↔
      State.get state "human_decision" = .str "approve" := by
  simp [nextNode_interrupt_iff, routeInterrupt_iff]

theorem nextNode_detect_none_iff :
    nextNode .detect state = .ok none ↔
      (State.get state "detected_issues").truthy = false := by
  rw [← routeDetect_end_iff, nextNode_conditional rfl]
  constructor
  · intro stops
    obtain ⟨key, chosen, routed, found, stopped⟩ := stops
    rcases routeDetect_mem routed with rfl | rfl | rfl
    · exact routed
    · cases found
      cases stopped
    · cases found
      cases stopped
  · intro routed
    exact ⟨"end", .finish, routed, rfl, rfl⟩

/-- Every route key is a key of the conditional edges of its node. -/
theorem routeKey_found {node : NodeName} {key : String}
    (routed : routeKey node state = .ok key) :
    ∃ routes follower, conditionalEdges.lookup node = some routes ∧
      routes.lookup key = some follower := by
  cases node with
  | detect =>
      rcases routeDetect_mem routed with rfl | rfl | rfl
      · exact ⟨_, .finish, rfl, rfl⟩
      · exact ⟨_, .reportOnly, rfl, rfl⟩
      · exact ⟨_, .collect, rfl, rfl⟩
  | collect =>
      rcases routeCollect_mem routed with rfl | rfl
      · exact ⟨_, .triage, rfl, rfl⟩
      · exact ⟨_, .analyze, rfl, rfl⟩
  | triage =>
      rcases routeTriage_mem routed with rfl | rfl
      · exact ⟨_, .reportOnly, rfl, rfl⟩
      · exact ⟨_, .propose, rfl, rfl⟩
  | interrupt =>
      have member := routeInterrupt_mem routed
      simp only [List.mem_cons, List.not_mem_nil, or_false] at member
      rcases member with rfl | rfl | rfl | rfl
      · exact ⟨_, .execute, rfl, rfl⟩
      · exact ⟨_, .reportOnly, rfl, rfl⟩
      · exact ⟨_, .propose, rfl, rfl⟩
      · exact ⟨_, .finish, rfl, rfl⟩
  | verify =>
      rcases routeVerify_mem routed with rfl | rfl | rfl
      · exact ⟨_, .postmortem, rfl, rfl⟩
      · exact ⟨_, .rollback, rfl, rfl⟩
      · exact ⟨_, .finish, rfl, rfl⟩
  | _ => cases routed

/-- The nodes that can follow a node; `none` is the end of the run. -/
def successors (node : NodeName) : List (Option NodeName) :=
  match conditionalEdges.lookup node with
  | some routes => routes.map fun route => target route.2
  | none => (edges.lookup node).toList.map target

theorem successors_eq (node : NodeName) :
    successors node = match node with
      | .start => [some .detect]
      | .detect => [none, some .reportOnly, some .collect]
      | .collect => [some .triage, some .analyze]
      | .analyze => [some .triage]
      | .triage => [some .reportOnly, some .propose]
      | .propose => [some .interrupt]
      | .interrupt => [some .execute, some .reportOnly, some .propose, none]
      | .execute => [some .verify]
      | .verify => [some .postmortem, some .rollback, none]
      | .rollback => [none]
      | .reportOnly => [none]
      | .postmortem => [none]
      | .finish => [] := by
  cases node <;> rfl

theorem of_edge (rule : NodeName → NodeName → Prop)
    (table : ∀ node, ∀ next ∈ successors node, ∀ later ∈ next, rule node later)
    {node later : NodeName} (edge : some later ∈ successors node) :
    rule node later :=
  table node (some later) edge later rfl

theorem inner_of_edge {node later : NodeName}
    (edge : some later ∈ successors node) :
    later ≠ .start ∧ later ≠ .finish :=
  of_edge (fun _ later => later ≠ .start ∧ later ≠ .finish)
    (fun node => by cases node <;> decide) edge

/-- The source of the only edge into a node. -/
def onlySource : NodeName → Option NodeName
  | .detect => some .start
  | .execute => some .interrupt
  | .verify => some .execute
  | .rollback => some .verify
  | .postmortem => some .verify
  | _ => none

theorem source_of_edge {node later : NodeName}
    (edge : some later ∈ successors node) :
    ∀ source ∈ onlySource later, node = source :=
  of_edge (fun node later => ∀ source ∈ onlySource later, node = source)
    (fun node => by cases node <;> decide) edge

theorem nextNode_mem_successors {node : NodeName}
    (reached : nextNode node state = .ok next) : next ∈ successors node := by
  cases conditional : conditionalEdges.lookup node with
  | some routes =>
      obtain ⟨key, chosen, -, found, rfl⟩ :=
        (nextNode_conditional conditional).mp reached
      rw [successors, conditional]
      obtain ⟨before, after, rfl, -⟩ := List.lookup_eq_some_iff.mp found
      simp
  | none =>
      simp only [nextNode, conditional] at reached
      rw [successors, conditional]
      cases edge : edges.lookup node with
      | none => simp [edge] at reached
      | some follower =>
          simp only [edge] at reached
          simp [← Except.ok.inj reached]

end Routes

section Frames

variable {nodes : Nodes} {visit later : GraphVisit}

theorem leads_iff {next : Option NodeName} {final : State} :
    (shim nodes).Leads visit next final ↔
      ∃ updates, visit.result = .ok updates ∧
        final = visit.state.update updates ∧
        nextNode visit.node final = .ok next := Iff.rfl

theorem invoke_ok_iff {state final : State} :
    invoke nodes state = .ok final ↔
      (shimRun nodes state).outcome = .finished final := by
  simp only [invoke]
  cases (shimRun nodes state).outcome <;> simp

theorem scripted_writesOnly {script : NodeName → List (String × Value)}
    (kept : ∀ node, ∀ entry ∈ script node, entry.1 ∈ writeFields node) :
    WritesOnly (scripted script) := by
  intro node clock state updates returned
  cases returned
  exact Dict.within_ofList (kept node)

theorem deployed_writesOnly {deployment : Deployment} {others : Nodes}
    (writes : WritesOnly others) : WritesOnly (deployed deployment others) := by
  intro node clock state updates returned
  cases node with
  | detect => exact Detect.run_within returned
  | collect => exact Collect.run_within returned
  | interrupt =>
      obtain rfl := (Except.ok.inj returned).symm
      exact Dict.within_empty _
  | execute =>
      obtain ⟨trace, -, path⟩ := Dialogue.converse_path
        (deployment.respond clock) (Execute.run deployment.python
          (deployment.env clock) deployment.base deployment.jobs state) []
      change (Dialogue.converse _ _ _).2 = _ at returned
      rw [returned] at path
      exact Execute.run_within path
  | reportOnly => exact ReportOnly.run_within returned
  | start => exact writes _ clock state updates returned
  | analyze => exact writes _ clock state updates returned
  | triage => exact writes _ clock state updates returned
  | propose => exact writes _ clock state updates returned
  | verify => exact writes _ clock state updates returned
  | rollback => exact writes _ clock state updates returned
  | postmortem => exact writes _ clock state updates returned
  | finish => exact writes _ clock state updates returned

/-- A call leaves the keys alone that its node does not write. -/
theorem called_find (writes : WritesOnly nodes)
    (called : (shim nodes).Called visit) {updates : Updates}
    (result : visit.result = .ok updates) {key : String}
    (outside : key ∉ writeFields visit.node) :
    (visit.state.update updates).find key = visit.state.find key := by
  obtain ⟨clock, performed⟩ := called
  apply Dict.find_update_of_none
  exact (writes visit.node clock visit.state updates
    (performed.trans result)).find_eq_none outside

theorem called_get (writes : WritesOnly nodes)
    (called : (shim nodes).Called visit) {updates : Updates}
    (result : visit.result = .ok updates) {key : String}
    (outside : key ∉ writeFields visit.node) :
    State.get (visit.state.update updates) key = State.get visit.state key :=
  State.get_eq_of_find (called_find writes called result outside)

theorem interrupt_unchanged (writes : WritesOnly nodes)
    (called : (shim nodes).Called visit) (interrupt : visit.node = .interrupt)
    {updates : Updates} (result : visit.result = .ok updates) :
    visit.state.update updates = visit.state := by
  ext1
  funext key
  apply called_find writes called result
  rw [interrupt]
  exact List.not_mem_nil

theorem follows_find (writes : WritesOnly nodes)
    (follows : (shim nodes).Follows visit later) {key : String}
    (outside : key ∉ writeFields visit.node) :
    later.state.find key = visit.state.find key := by
  obtain ⟨called, updates, result, merged, -⟩ := follows
  rw [merged]
  exact called_find writes called result outside

theorem follows_get (writes : WritesOnly nodes)
    (follows : (shim nodes).Follows visit later) {key : String}
    (outside : key ∉ writeFields visit.node) :
    State.get later.state key = State.get visit.state key :=
  State.get_eq_of_find (follows_find writes follows outside)

theorem follows_mem_successors (follows : (shim nodes).Follows visit later) :
    some later.node ∈ successors visit.node := by
  obtain ⟨-, updates, -, -, routed⟩ := follows
  exact nextNode_mem_successors routed

theorem shimRun_predecessor {state : State} {before rest : List GraphVisit}
    (visits : (shimRun nodes state).visits = before ++ visit :: rest)
    (inner : visit.node ≠ .detect) :
    ∃ front earlier, before = front ++ [earlier] ∧
      (shim nodes).Follows earlier visit := by
  rcases Workflow.run_predecessor visits with ⟨-, entry, -⟩ | linked
  · exact absurd entry inner
  · exact linked

theorem shimRun_detect {state : State} {before rest : List GraphVisit}
    (visits : (shimRun nodes state).visits = before ++ visit :: rest)
    (detect : visit.node = .detect) : before = [] := by
  rcases Workflow.run_predecessor visits with
    ⟨entry, -⟩ | ⟨front, earlier, rfl, follows⟩
  · exact entry
  · have start : earlier.node = .start := by
      apply source_of_edge (follows_mem_successors follows)
      rw [detect]
      rfl
    rw [List.append_assoc] at visits
    obtain ⟨-, first, -, entry⟩ := shimRun_predecessor visits (by
      rw [start]
      decide)
    exact absurd start (inner_of_edge (follows_mem_successors entry)).1

theorem verify_after_execute {state : State} {before rest : List GraphVisit}
    (visits : (shimRun nodes state).visits = before ++ visit :: rest)
    (verify : visit.node = .verify) :
    ∃ earlier ∈ before, earlier.node = .execute := by
  obtain ⟨front, earlier, rfl, follows⟩ :=
    shimRun_predecessor visits (by rw [verify]; decide)
  refine ⟨earlier, by simp, ?_⟩
  apply source_of_edge (follows_mem_successors follows)
  rw [verify]
  rfl

theorem leads_mem_successors {next : Option NodeName} {final : State}
    (leads : (shim nodes).Leads visit next final) :
    next ∈ successors visit.node := by
  obtain ⟨updates, -, -, routed⟩ := leads
  exact nextNode_mem_successors routed

/-- A key that no node writes has its initial value at every visit. -/
theorem visits_find (writes : WritesOnly nodes) {key : String}
    (unwritten : ∀ node, key ∉ writeFields node) {state : State} :
    ∀ visit ∈ (shimRun nodes state).visits,
      visit.state.find key = state.find key :=
  Workflow.run_invariant
    (fun _ (current : State) => current.find key = state.find key) rfl
    fun visit _ follows same =>
      (follows_find writes follows (unwritten visit.node)).trans same

theorem visits_get (writes : WritesOnly nodes) {key : String}
    (unwritten : ∀ node, key ∉ writeFields node) {state : State} :
    ∀ visit ∈ (shimRun nodes state).visits,
      State.get visit.state key = State.get state key :=
  fun visit member =>
    State.get_eq_of_find (visits_find writes unwritten visit member)

theorem humanDecision_unwritten (node : NodeName) :
    "human_decision" ∉ writeFields node := by
  cases node <;> decide

theorem rollbackRequired_unwritten (node : NodeName) :
    "rollback_required" ∉ writeFields node := by
  cases node <;> decide

end Frames

end PipelineOps.Graph
