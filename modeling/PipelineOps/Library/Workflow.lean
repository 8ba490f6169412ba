import Mathlib.Data.List.Chain

namespace PipelineOps.Library

universe u v w x

/-- A node-by-node executor. At every clock tick one node is performed, its
update is merged into the state, and a router picks the next node; `none` ends
the run. The clock lets a node behave differently at every visit. -/
structure Workflow (ν : Type u) (σ : Type v) (υ : Type w) (ε : Type x) where
  perform : Nat → ν → σ → Except ε υ
  merge : σ → υ → σ
  route : ν → σ → Except ε (Option ν)

structure Visit (ν : Type u) (σ : Type v) (υ : Type w) (ε : Type x) where
  node : ν
  state : σ
  result : Except ε υ

inductive Outcome (σ : Type v) (ε : Type x) where
  | finished (state : σ)
  | raised (error : ε)
  /-- The step budget ran out. -/
  | exhausted

structure Run (ν : Type u) (σ : Type v) (υ : Type w) (ε : Type x) where
  visits : List (Visit ν σ υ ε)
  outcome : Outcome σ ε

variable {ν : Type u} {σ : Type v} {υ : Type w} {ε : Type x}

def Run.nodes (run : Run ν σ υ ε) : List ν :=
  run.visits.map Visit.node

def Run.after (visit : Visit ν σ υ ε) (run : Run ν σ υ ε) : Run ν σ υ ε :=
  ⟨visit :: run.visits, run.outcome⟩

namespace Workflow

def run (flow : Workflow ν σ υ ε) :
    (budget clock : Nat) → (node : ν) → (state : σ) → Run ν σ υ ε
  | 0, _, _, _ => ⟨[], .exhausted⟩
  | budget + 1, clock, node, state =>
      match flow.perform clock node state with
      | .error error => ⟨[⟨node, state, .error error⟩], .raised error⟩
      | .ok update =>
          match flow.route node (flow.merge state update) with
          | .error error => ⟨[⟨node, state, .ok update⟩], .raised error⟩
          | .ok none =>
              ⟨[⟨node, state, .ok update⟩],
                .finished (flow.merge state update)⟩
          | .ok (some next) =>
              (flow.run budget (clock + 1) next (flow.merge state update)).after
                ⟨node, state, .ok update⟩

variable (flow : Workflow ν σ υ ε)

def Called (visit : Visit ν σ υ ε) : Prop :=
  ∃ clock, flow.perform clock visit.node visit.state = visit.result

/-- The visit returned and the router goes on to `next` in the state
`state`. -/
def Leads (visit : Visit ν σ υ ε) (next : Option ν) (state : σ) : Prop :=
  ∃ update, visit.result = .ok update ∧
    state = flow.merge visit.state update ∧
    flow.route visit.node state = .ok next

def Follows (visit later : Visit ν σ υ ε) : Prop :=
  flow.Called visit ∧ flow.Leads visit (some later.node) later.state

variable {flow}

theorem Leads.routed {visit : Visit ν σ υ ε} {next : Option ν} {later : σ}
    (leads : flow.Leads visit next later) {update : υ}
    (result : visit.result = .ok update) :
    later = flow.merge visit.state update ∧
      flow.route visit.node (flow.merge visit.state update) = .ok next := by
  obtain ⟨other, otherResult, rfl, routed⟩ := leads
  rw [result] at otherResult
  cases otherResult
  exact ⟨rfl, routed⟩

theorem Leads.unique {visit : Visit ν σ υ ε} {left right : Option ν}
    {leftState rightState : σ} (hleft : flow.Leads visit left leftState)
    (hright : flow.Leads visit right rightState) :
    left = right ∧ leftState = rightState := by
  obtain ⟨update, result, rfl, routed⟩ := hleft
  obtain ⟨rfl, otherRouted⟩ := hright.routed result
  rw [routed] at otherRouted
  exact ⟨Except.ok.inj otherRouted, rfl⟩

/-- The visit is the last one of a run that ends with `outcome`. -/
def Ends (flow : Workflow ν σ υ ε) (visit : Visit ν σ υ ε) :
    Outcome σ ε → Prop
  | .finished state => flow.Leads visit none state
  | .raised error => visit.result = .error error ∨
      ∃ update, visit.result = .ok update ∧
        flow.route visit.node (flow.merge visit.state update) = .error error
  | .exhausted => False

theorem Leads.not_raised {visit : Visit ν σ υ ε} {next : Option ν} {later : σ}
    (leads : flow.Leads visit next later) {error : ε} :
    ¬ flow.Ends visit (.raised error) := by
  intro ends
  rcases ends with failed | ⟨update, result, failed⟩
  · obtain ⟨update, result, -⟩ := leads
    rw [result] at failed
    cases failed
  · rw [(leads.routed result).2] at failed
    cases failed

theorem Leads.not_ends {visit : Visit ν σ υ ε} {next : ν} {later : σ}
    {outcome : Outcome σ ε} (leads : flow.Leads visit (some next) later) :
    ¬ flow.Ends visit outcome := by
  intro ends
  cases outcome with
  | finished final => cases (leads.unique ends).1
  | raised error => exact leads.not_raised ends
  | exhausted => exact ends

theorem Leads.ends_iff {visit : Visit ν σ υ ε} {final : σ}
    {outcome : Outcome σ ε} (leads : flow.Leads visit none final) :
    flow.Ends visit outcome ↔ outcome = .finished final := by
  constructor
  · intro ends
    cases outcome with
    | finished other => rw [(leads.unique ends).2]
    | raised error => exact absurd ends leads.not_raised
    | exhausted => exact ends.elim
  · intro same
    subst same
    exact leads

/-- What holds right behind a visit and is preserved by every link holds at
all later visits. -/
theorem chain_invariant (invariant : ν → σ → Prop)
    {visit : Visit ν σ υ ε} {rest : List (Visit ν σ υ ε)}
    (chain : (visit :: rest).IsChain flow.Follows)
    (entry : ∀ later, flow.Follows visit later →
      invariant later.node later.state)
    (step : ∀ earlier later, flow.Follows earlier later →
      invariant earlier.node earlier.state →
        invariant later.node later.state) :
    ∀ later ∈ rest, invariant later.node later.state := by
  induction rest generalizing visit with
  | nil => simp
  | cons head tail induction =>
      obtain ⟨link, chain⟩ := List.isChain_cons_cons.mp chain
      have here := entry head link
      intro later member
      rcases List.mem_cons.mp member with rfl | member
      · exact here
      · exact induction chain
          (fun next follows => step head next follows here) later member

section Runs

variable {budget clock : Nat} {node : ν} {state : σ}

@[simp] theorem run_zero :
    flow.run 0 clock node state = ⟨[], .exhausted⟩ := rfl

theorem run_succ (flow : Workflow ν σ υ ε) (budget clock : Nat) (node : ν)
    (state : σ) :
    ∃ visit : Visit ν σ υ ε,
      visit.node = node ∧ visit.state = state ∧ flow.Called visit ∧
      ((∃ outcome, flow.Ends visit outcome ∧
          flow.run (budget + 1) clock node state = ⟨[visit], outcome⟩) ∨
        ∃ next later, flow.Leads visit (some next) later ∧
          flow.run (budget + 1) clock node state =
            (flow.run budget (clock + 1) next later).after visit) := by
  cases performed : flow.perform clock node state with
  | error error =>
      refine ⟨⟨node, state, .error error⟩, rfl, rfl, ⟨clock, performed⟩,
        .inl ⟨.raised error, .inl rfl, ?_⟩⟩
      simp only [run, performed]
  | ok update =>
      refine ⟨⟨node, state, .ok update⟩, rfl, rfl, ⟨clock, performed⟩, ?_⟩
      cases routed : flow.route node (flow.merge state update) with
      | error error =>
          refine .inl ⟨.raised error, .inr ⟨update, rfl, routed⟩, ?_⟩
          simp only [run, performed, routed]
      | ok target =>
          cases target with
          | none =>
              refine .inl ⟨.finished (flow.merge state update),
                ⟨update, rfl, rfl, routed⟩, ?_⟩
              simp only [run, performed, routed]
          | some next =>
              refine .inr ⟨next, flow.merge state update,
                ⟨update, rfl, rfl, routed⟩, ?_⟩
              simp only [run, performed, routed]

theorem run_step {update : υ} {next : ν}
    (performed : flow.perform clock node state = .ok update)
    (routed : flow.route node (flow.merge state update) = .ok (some next)) :
    flow.run (budget + 1) clock node state =
      (flow.run budget (clock + 1) next (flow.merge state update)).after
        ⟨node, state, .ok update⟩ := by
  simp only [run, performed, routed]

theorem run_called : ∀ visit ∈ (flow.run budget clock node state).visits,
    flow.Called visit := by
  induction budget generalizing clock node state with
  | zero => simp
  | succ budget induction =>
      intro visit member
      obtain ⟨first, -, -, called, ⟨outcome, -, equation⟩ |
        ⟨next, later, -, equation⟩⟩ := flow.run_succ budget clock node state
      · rw [equation, List.mem_singleton] at member
        exact member ▸ called
      · rw [equation] at member
        rcases List.mem_cons.mp member with rfl | member
        · exact called
        · exact induction visit member

theorem run_head {first : Visit ν σ υ ε} {rest : List (Visit ν σ υ ε)}
    (visits : (flow.run budget clock node state).visits = first :: rest) :
    first.node = node ∧ first.state = state := by
  cases budget with
  | zero => simp at visits
  | succ budget =>
      obtain ⟨visit, nodeEq, stateEq, -, ⟨outcome, -, equation⟩ |
        ⟨next, later, -, equation⟩⟩ := flow.run_succ budget clock node state
      all_goals
        rw [equation] at visits
        obtain ⟨rfl, -⟩ := List.cons.inj visits
        exact ⟨nodeEq, stateEq⟩

theorem run_isChain :
    (flow.run budget clock node state).visits.IsChain flow.Follows := by
  induction budget generalizing clock node state with
  | zero => simp
  | succ budget induction =>
      obtain ⟨visit, -, -, called, ⟨outcome, -, equation⟩ |
        ⟨next, later, leads, equation⟩⟩ := flow.run_succ budget clock node state
      · rw [equation]
        exact List.isChain_singleton _
      · rw [equation]
        refine List.isChain_cons.mpr ⟨?_, induction⟩
        intro second member
        obtain ⟨rest, visits⟩ := List.head?_eq_some_iff.mp member
        obtain ⟨rfl, rfl⟩ := run_head visits
        exact ⟨called, leads⟩

/-- The last visit of a run that stayed within its budget explains the
outcome. -/
theorem run_ends (within : (flow.run budget clock node state).outcome ≠
      .exhausted) :
    ∃ before last,
      (flow.run budget clock node state).visits = before ++ [last] ∧
      flow.Ends last (flow.run budget clock node state).outcome := by
  induction budget generalizing clock node state with
  | zero => simp at within
  | succ budget induction =>
      obtain ⟨visit, -, -, -, ⟨outcome, ends, equation⟩ |
        ⟨next, later, -, equation⟩⟩ := flow.run_succ budget clock node state
      · rw [equation]
        exact ⟨[], visit, rfl, ends⟩
      · rw [equation] at within ⊢
        obtain ⟨before, last, visits, ends⟩ := induction within
        exact ⟨visit :: before, last, congrArg (visit :: ·) visits, ends⟩

theorem run_finished {final : σ}
    (finished : (flow.run budget clock node state).outcome = .finished final) :
    ∃ before last,
      (flow.run budget clock node state).visits = before ++ [last] ∧
      flow.Leads last none final := by
  have within : (flow.run budget clock node state).outcome ≠ .exhausted := by
    rw [finished]
    exact fun exhausted => nomatch exhausted
  obtain ⟨before, last, visits, ends⟩ := run_ends within
  rw [finished] at ends
  exact ⟨before, last, visits, ends⟩

theorem run_exhausted_length
    (exhausted : (flow.run budget clock node state).outcome = .exhausted) :
    (flow.run budget clock node state).visits.length = budget := by
  induction budget generalizing clock node state with
  | zero => simp
  | succ budget induction =>
      obtain ⟨visit, -, -, -, ⟨outcome, ends, equation⟩ |
        ⟨next, later, -, equation⟩⟩ := flow.run_succ budget clock node state
      · rw [equation] at exhausted
        change outcome = .exhausted at exhausted
        subst exhausted
        exact ends.elim
      · rw [equation] at exhausted ⊢
        exact congrArg (· + 1) (induction exhausted)

theorem run_exhausted_last {before : List (Visit ν σ υ ε)}
    {visit : Visit ν σ υ ε}
    (exhausted : (flow.run budget clock node state).outcome = .exhausted)
    (visits : (flow.run budget clock node state).visits = before ++ [visit]) :
    ∃ next later, flow.Leads visit (some next) later := by
  induction budget generalizing clock node state before with
  | zero => simp at visits
  | succ budget induction =>
      obtain ⟨first, -, -, -, ⟨outcome, ends, equation⟩ |
        ⟨next, later, leads, equation⟩⟩ := flow.run_succ budget clock node state
      · rw [equation] at exhausted
        change outcome = .exhausted at exhausted
        subst exhausted
        exact ends.elim
      · rw [equation] at exhausted visits
        cases before with
        | nil =>
            obtain ⟨rfl, -⟩ := List.cons.inj visits
            exact ⟨next, later, leads⟩
        | cons head before =>
            exact induction exhausted (List.cons.inj visits).2

/-- A property of the entry that every link preserves holds at every visit. -/
theorem run_invariant (invariant : ν → σ → Prop)
    (entry : invariant node state)
    (step : ∀ visit later, flow.Follows visit later →
      invariant visit.node visit.state → invariant later.node later.state) :
    ∀ visit ∈ (flow.run budget clock node state).visits,
      invariant visit.node visit.state := by
  induction budget generalizing clock node state with
  | zero => simp
  | succ budget induction =>
      intro visit member
      obtain ⟨first, rfl, rfl, called, ⟨outcome, -, equation⟩ |
        ⟨next, later, leads, equation⟩⟩ := flow.run_succ budget clock node state
      · rw [equation, List.mem_singleton] at member
        exact member ▸ entry
      · rw [equation] at member
        rcases List.mem_cons.mp member with rfl | member
        · exact entry
        · have onward : invariant next later :=
            step first ⟨next, later, first.result⟩ ⟨called, leads⟩ entry
          exact induction onward visit member

theorem run_invariant_after (invariant : ν → σ → Prop)
    {before rest : List (Visit ν σ υ ε)} {visit : Visit ν σ υ ε}
    (visits : (flow.run budget clock node state).visits =
      before ++ visit :: rest)
    (entry : ∀ later, flow.Follows visit later →
      invariant later.node later.state)
    (step : ∀ earlier later, flow.Follows earlier later →
      invariant earlier.node earlier.state →
        invariant later.node later.state) :
    ∀ later ∈ rest, invariant later.node later.state := by
  have chain : (flow.run budget clock node state).visits.IsChain
      flow.Follows := run_isChain
  rw [visits, List.isChain_append] at chain
  exact chain_invariant invariant chain.2.1 entry step

/-- A rank that every link of the run decreases bounds its length. -/
theorem run_length_le_rank (rank : ν → σ → Nat)
    (step : ∀ visit ∈ (flow.run budget clock node state).visits,
      ∀ later, flow.Follows visit later →
        rank later.node later.state < rank visit.node visit.state) :
    (flow.run budget clock node state).visits.length ≤ rank node state + 1 := by
  induction budget generalizing clock node state with
  | zero => simp
  | succ budget induction =>
      obtain ⟨first, rfl, rfl, called, ⟨outcome, -, equation⟩ |
        ⟨next, later, leads, equation⟩⟩ := flow.run_succ budget clock node state
      · rw [equation]
        exact Nat.le_add_left 1 _
      · rw [equation] at step ⊢
        have smaller : rank next later < rank first.node first.state :=
          step first List.mem_cons_self ⟨next, later, first.result⟩
            ⟨called, leads⟩
        have bound : (flow.run budget (clock + 1) next later).visits.length ≤
            rank next later + 1 :=
          induction fun visit member =>
            step visit (List.mem_cons_of_mem first member)
        change _ + 1 ≤ _
        exact Nat.succ_le_succ (bound.trans smaller)

theorem run_ne_exhausted_of_rank (rank : ν → σ → Nat)
    (step : ∀ visit ∈ (flow.run budget clock node state).visits,
      ∀ later, flow.Follows visit later →
        rank later.node later.state < rank visit.node visit.state)
    (enough : rank node state + 1 < budget) :
    (flow.run budget clock node state).outcome ≠ .exhausted := by
  intro exhausted
  have length := run_exhausted_length exhausted
  have bound : (flow.run budget clock node state).visits.length ≤
      rank node state + 1 := run_length_le_rank rank step
  omega

/-- A visit is the entry of the run or follows another one. -/
theorem run_predecessor {before rest : List (Visit ν σ υ ε)}
    {visit : Visit ν σ υ ε}
    (visits : (flow.run budget clock node state).visits =
      before ++ visit :: rest) :
    (before = [] ∧ visit.node = node ∧ visit.state = state) ∨
      ∃ front earlier, before = front ++ [earlier] ∧
        flow.Follows earlier visit := by
  rcases List.eq_nil_or_concat' before with rfl | ⟨front, earlier, rfl⟩
  · exact .inl ⟨rfl, run_head visits⟩
  · refine .inr ⟨front, earlier, rfl, ?_⟩
    have chain : (flow.run budget clock node state).visits.IsChain
        flow.Follows := run_isChain
    rw [visits, List.append_assoc, List.isChain_append] at chain
    exact (List.isChain_cons_cons.mp chain.2.1).1

theorem run_follows {before rest : List (Visit ν σ υ ε)}
    {visit follower : Visit ν σ υ ε}
    (visits : (flow.run budget clock node state).visits =
      before ++ visit :: follower :: rest) : flow.Follows visit follower := by
  have chain : (flow.run budget clock node state).visits.IsChain
      flow.Follows := run_isChain
  rw [visits, List.isChain_append] at chain
  exact (List.isChain_cons_cons.mp chain.2.1).1

theorem run_last {before : List (Visit ν σ υ ε)} {visit : Visit ν σ υ ε}
    (within : (flow.run budget clock node state).outcome ≠ .exhausted)
    (visits : (flow.run budget clock node state).visits = before ++ [visit]) :
    flow.Ends visit (flow.run budget clock node state).outcome := by
  obtain ⟨initial, last, endVisits, ends⟩ := run_ends within
  rw [endVisits] at visits
  obtain ⟨-, same⟩ := List.append_inj' visits rfl
  exact (List.cons.inj same).1 ▸ ends

/-- Within the budget, a visit that the router leads on from is followed. -/
theorem run_continues {before rest : List (Visit ν σ υ ε)}
    {visit : Visit ν σ υ ε} {next : ν} {later : σ}
    (within : (flow.run budget clock node state).outcome ≠ .exhausted)
    (visits : (flow.run budget clock node state).visits =
      before ++ visit :: rest)
    (leads : flow.Leads visit (some next) later) :
    ∃ follower tail, rest = follower :: tail ∧
      follower.node = next ∧ follower.state = later := by
  cases rest with
  | cons follower tail =>
      obtain ⟨same, sameState⟩ := (run_follows visits).2.unique leads
      exact ⟨follower, tail, rfl, Option.some.inj same, sameState⟩
  | nil => exact absurd (run_last within visits) leads.not_ends

/-- Behind every visit of a run within its budget comes the one that ends
it. -/
theorem run_ends_after {before rest : List (Visit ν σ υ ε)}
    {visit : Visit ν σ υ ε}
    (within : (flow.run budget clock node state).outcome ≠ .exhausted)
    (visits : (flow.run budget clock node state).visits =
      before ++ visit :: rest) :
    ∃ last ∈ visit :: rest,
      flow.Ends last (flow.run budget clock node state).outcome := by
  rcases List.eq_nil_or_concat' rest with rfl | ⟨middle, last, rfl⟩
  · exact ⟨visit, List.mem_cons_self, run_last within visits⟩
  · have regrouped : (flow.run budget clock node state).visits =
        (before ++ visit :: middle) ++ [last] := by
      rw [visits, List.append_assoc, List.cons_append]
    exact ⟨last, by simp, run_last within regrouped⟩

theorem run_finished_leads {visit : Visit ν σ υ ε} {final : σ}
    (finished : (flow.run budget clock node state).outcome = .finished final)
    (member : visit ∈ (flow.run budget clock node state).visits) :
    ∃ next later, flow.Leads visit next later := by
  obtain ⟨before, rest, visits⟩ := List.append_of_mem member
  cases rest with
  | nil =>
      have within : (flow.run budget clock node state).outcome ≠
          .exhausted := by
        rw [finished]
        exact fun exhausted => nomatch exhausted
      have ends := run_last within visits
      rw [finished] at ends
      exact ⟨none, final, ends⟩
  | cons follower tail =>
      exact ⟨some follower.node, follower.state, (run_follows visits).2⟩

theorem run_stops {before rest : List (Visit ν σ υ ε)}
    {visit : Visit ν σ υ ε} {final : σ}
    (visits : (flow.run budget clock node state).visits =
      before ++ visit :: rest)
    (leads : flow.Leads visit none final) :
    rest = [] ∧
      (flow.run budget clock node state).outcome = .finished final := by
  cases rest with
  | cons follower tail =>
      have onward := (run_follows visits).2.unique leads
      exact absurd onward.1 (Option.some_ne_none _)
  | nil =>
      by_cases exhausted :
        (flow.run budget clock node state).outcome = .exhausted
      · obtain ⟨next, later, onward⟩ := run_exhausted_last exhausted visits
        exact absurd (onward.unique leads).1 (Option.some_ne_none _)
      · exact ⟨rfl, leads.ends_iff.mp (run_last exhausted visits)⟩

/-- More budget does not change a run that has ended. -/
theorem run_of_ended {larger : Nat} (enough : budget ≤ larger)
    (ended : (flow.run budget clock node state).outcome ≠ .exhausted) :
    flow.run larger clock node state = flow.run budget clock node state := by
  induction budget generalizing larger clock node state with
  | zero => simp at ended
  | succ budget induction =>
      obtain ⟨larger, rfl⟩ : ∃ more, larger = more + 1 :=
        ⟨larger - 1, by omega⟩
      cases performed : flow.perform clock node state with
      | error error => simp only [run, performed]
      | ok update =>
          cases routed : flow.route node (flow.merge state update) with
          | error error => simp only [run, performed, routed]
          | ok target =>
              cases target with
              | none => simp only [run, performed, routed]
              | some next =>
                  rw [run_step performed routed] at ended ⊢
                  rw [run_step performed routed,
                    induction (Nat.le_of_succ_le_succ enough) ended]

/-- A run begins as it does under a smaller budget. -/
theorem run_nodes_take {smaller : Nat} (within : smaller ≤ budget) :
    (flow.run budget clock node state).nodes.take smaller =
      (flow.run smaller clock node state).nodes := by
  induction smaller generalizing budget clock node state with
  | zero => simp [Run.nodes]
  | succ smaller induction =>
      obtain ⟨budget, rfl⟩ : ∃ fewer, budget = fewer + 1 :=
        ⟨budget - 1, by omega⟩
      cases performed : flow.perform clock node state with
      | error error => simp [run, performed, Run.nodes]
      | ok update =>
          cases routed : flow.route node (flow.merge state update) with
          | error error => simp [run, performed, routed, Run.nodes]
          | ok target =>
              cases target with
              | none => simp [run, performed, routed, Run.nodes]
              | some next =>
                  rw [run_step performed routed, run_step performed routed]
                  exact congrArg (node :: ·)
                    (induction (Nat.le_of_succ_le_succ within))

/-- An invariant under which every node returns and is followed by another one
keeps the run from ending. -/
theorem run_exhausted_of_invariant (invariant : ν → σ → Prop)
    (step : ∀ clock node state, invariant node state →
      ∃ update next, flow.perform clock node state = .ok update ∧
        flow.route node (flow.merge state update) = .ok (some next) ∧
        invariant next (flow.merge state update))
    (entry : invariant node state) :
    (flow.run budget clock node state).outcome = .exhausted := by
  induction budget generalizing clock node state with
  | zero => rfl
  | succ budget induction =>
      obtain ⟨update, next, performed, routed, onward⟩ :=
        step clock node state entry
      rw [run_step performed routed]
      exact induction onward

end Runs

end Workflow

section Simulation

variable {τ : Type v} {ω : Type w}

/-- Related outcomes: the same kind of ending, in related states. -/
def Outcome.Related (related : σ → τ → Prop) :
    Outcome σ ε → Outcome τ ε → Prop
  | .finished left, .finished right => related left right
  | .raised left, .raised right => left = right
  | .exhausted, .exhausted => True
  | _, _ => False

def Run.Agrees (related : σ → τ → Prop) (left : Run ν σ υ ε)
    (right : Run ν τ ω ε) : Prop :=
  left.nodes = right.nodes ∧ left.outcome.Related related right.outcome

theorem Outcome.Related.mono {related weaker : σ → τ → Prop}
    {left : Outcome σ ε} {right : Outcome τ ε}
    (same : left.Related related right)
    (implies : ∀ state other, related state other → weaker state other) :
    left.Related weaker right := by
  cases left <;> cases right <;> try exact same
  exact implies _ _ same

/-- A lockstep simulation between two executors of the same nodes. -/
structure Workflow.Lockstep (left : Workflow ν σ υ ε)
    (right : Workflow ν τ ω ε) (related : σ → τ → Prop) : Prop where
  perform : ∀ clock node {state other}, related state other →
    (∃ error, left.perform clock node state = .error error ∧
      right.perform clock node other = .error error) ∨
    ∃ update otherUpdate, left.perform clock node state = .ok update ∧
      right.perform clock node other = .ok otherUpdate ∧
      related (left.merge state update) (right.merge other otherUpdate)
  route : ∀ node {state other}, related state other →
    left.route node state = right.route node other

theorem Workflow.Lockstep.run {left : Workflow ν σ υ ε}
    {right : Workflow ν τ ω ε} {related : σ → τ → Prop}
    (simulation : left.Lockstep right related) (budget clock : Nat) (node : ν)
    {state : σ} {other : τ} (start : related state other) :
    (left.run budget clock node state).Agrees related
      (right.run budget clock node other) := by
  induction budget generalizing clock node state other with
  | zero => exact ⟨rfl, trivial⟩
  | succ budget induction =>
      rcases simulation.perform clock node start with
        ⟨error, failed, otherFailed⟩ |
        ⟨update, otherUpdate, performed, otherPerformed, onward⟩
      · simp only [Workflow.run, failed, otherFailed]
        exact ⟨rfl, rfl⟩
      · have routed := simulation.route node onward
        simp only [Workflow.run, performed, otherPerformed, ← routed]
        cases left.route node (left.merge state update) with
        | error error => exact ⟨rfl, rfl⟩
        | ok target =>
            cases target with
            | none => exact ⟨rfl, onward⟩
            | some next =>
                obtain ⟨nodes, outcome⟩ := induction (clock + 1) next onward
                exact ⟨congrArg (node :: ·) nodes, outcome⟩

end Simulation

end PipelineOps.Library
