import PipelineOps.Library.Workflow

namespace PipelineOps.Library.Workflow

universe u v w x y

variable {ν : Type u} {σ : Type v} {υ : Type w} {ε : Type x} {ω : Type y}

/-! What the visits of a run do to the world outside of the workflow. A visit
may act differently at every tick of the clock. -/

def effects (emit : Nat → Visit ν σ υ ε → List ω) :
    (clock : Nat) → List (Visit ν σ υ ε) → List ω
  | _, [] => []
  | clock, visit :: visits =>
      emit clock visit ++ effects emit (clock + 1) visits

section Effects

variable {emit : Nat → Visit ν σ υ ε → List ω} {clock : Nat}

theorem effects_append (before rest : List (Visit ν σ υ ε)) :
    effects emit clock (before ++ rest) =
      effects emit clock before ++
        effects emit (clock + before.length) rest := by
  induction before generalizing clock with
  | nil => rfl
  | cons visit before induction =>
      rw [List.cons_append, effects, effects, induction, List.append_assoc,
        List.length_cons, Nat.add_right_comm, Nat.add_assoc]

theorem effects_eq_nil {visits : List (Visit ν σ υ ε)}
    (silent : ∀ visit ∈ visits, ∀ clock, emit clock visit = []) :
    effects emit clock visits = [] := by
  induction visits generalizing clock with
  | nil => rfl
  | cons visit visits induction =>
      rw [effects, silent visit List.mem_cons_self, List.nil_append]
      exact induction fun other member =>
        silent other (List.mem_cons_of_mem visit member)

theorem effects_eq_of_silent {before rest : List (Visit ν σ υ ε)}
    {visit : Visit ν σ υ ε}
    (silent : ∀ other ∈ before ++ rest, ∀ clock, emit clock other = []) :
    effects emit clock (before ++ visit :: rest) =
      emit (clock + before.length) visit := by
  rw [effects_append, effects, effects_eq_nil fun other member =>
      silent other (List.mem_append_left rest member),
    effects_eq_nil fun other member =>
      silent other (List.mem_append_right before member),
    List.nil_append, List.append_nil]

theorem exists_of_effects {visits : List (Visit ν σ υ ε)}
    (acts : effects emit clock visits ≠ []) :
    ∃ visit ∈ visits, ∃ clock, emit clock visit ≠ [] := by
  by_contra silent
  apply acts
  apply effects_eq_nil
  intro visit member tick
  by_contra emits
  exact silent ⟨visit, member, tick, emits⟩

end Effects

section Runs

variable {flow : Workflow ν σ υ ε} {budget clock : Nat} {node : ν} {state : σ}

/-- The place of a visit in the run is the tick at which it is performed. -/
theorem run_performed {before rest : List (Visit ν σ υ ε)}
    {visit : Visit ν σ υ ε}
    (visits : (flow.run budget clock node state).visits =
      before ++ visit :: rest) :
    flow.perform (clock + before.length) visit.node visit.state =
      visit.result := by
  induction budget generalizing clock node state before with
  | zero => simp at visits
  | succ budget induction =>
      cases before with
      | nil =>
          rw [run] at visits
          cases performed : flow.perform clock node state with
          | error error =>
              simp only [performed] at visits
              obtain ⟨rfl, -⟩ := List.cons.inj visits
              exact performed
          | ok update =>
              simp only [performed] at visits
              split at visits
              all_goals
                obtain ⟨rfl, -⟩ := List.cons.inj visits
                exact performed
      | cons first before =>
          obtain ⟨head, -, -, -, ⟨outcome, -, equation⟩ |
            ⟨next, later, -, equation⟩⟩ := flow.run_succ budget clock node state
          · rw [equation] at visits
            simp at visits
          · rw [equation] at visits
            have performed := induction (List.cons.inj visits).2
            rw [List.length_cons, Nat.add_comm before.length 1,
              ← Nat.add_assoc]
            exact performed

/-- A node that lies behind itself on no way is visited once. -/
theorem run_once (here past : ν → Prop)
    (leaves : ∀ visit later, flow.Follows visit later →
      here visit.node ∨ past visit.node → past later.node)
    (apart : ∀ node, past node → ¬ here node)
    {before rest : List (Visit ν σ υ ε)} {visit : Visit ν σ υ ε}
    (visits : (flow.run budget clock node state).visits =
      before ++ visit :: rest)
    (arrives : here visit.node) :
    (∀ later ∈ rest, past later.node) ∧
      ∀ other ∈ before ++ rest, ¬ here other.node := by
  have behind : ∀ {front back : List (Visit ν σ υ ε)} {first : Visit ν σ υ ε},
      (flow.run budget clock node state).visits = front ++ first :: back →
      here first.node → ∀ later ∈ back, past later.node :=
    fun {front back first} split arrived =>
      run_invariant_after (fun node (_ : σ) => past node) split
        (fun later follows => leaves first later follows (.inl arrived))
        (fun earlier later follows left =>
          leaves earlier later follows (.inr left))
  refine ⟨behind visits arrives, ?_⟩
  intro other member again
  rcases List.mem_append.mp member with early | late
  · obtain ⟨front, middle, rfl⟩ := List.append_of_mem early
    have split : (flow.run budget clock node state).visits =
        front ++ other :: (middle ++ visit :: rest) := by
      rw [visits, List.append_assoc, List.cons_append]
    exact apart visit.node (behind split again visit (by simp)) arrives
  · exact apart other.node (behind visits arrives other late) again

/-- The nodes before a visit are a way to its node. -/
theorem run_way (ways : ν → List ν → Prop) (entry : ways node [])
    (step : ∀ visit ∈ (flow.run budget clock node state).visits, ∀ later,
      flow.Follows visit later → ∀ way, ways visit.node way →
        ways later.node (way ++ [visit.node]))
    {before rest : List (Visit ν σ υ ε)} {visit : Visit ν σ υ ε}
    (visits : (flow.run budget clock node state).visits =
      before ++ visit :: rest) :
    ways visit.node (before.map Visit.node) := by
  induction before using List.reverseRecOn generalizing visit rest with
  | nil =>
      rw [(run_head visits).1]
      exact entry
  | append_singleton front earlier induction =>
      rw [List.append_assoc] at visits
      rw [List.map_append]
      exact step earlier (by rw [visits]; simp) visit (run_follows visits) _
        (induction visits)

end Runs

end PipelineOps.Library.Workflow
