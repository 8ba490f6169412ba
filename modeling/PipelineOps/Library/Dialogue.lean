import Mathlib.Data.List.Basic

namespace PipelineOps.Library

universe u v w x

/-- A program that asks its partner requests, goes on with the answers that each
of them can get, and ends with a value. -/
inductive Dialogue {ρ : Type u} (ω : ρ → Type v) (α : Type w) where
  | done (value : α)
  | ask (request : ρ) (next : ω request → Dialogue ω α)

namespace Dialogue

variable {ρ : Type u} {ω : ρ → Type v} {α β : Type w} {σ : Type x}

abbrev Exchange (ω : ρ → Type v) := (request : ρ) × ω request

def bind : Dialogue ω α → (α → Dialogue ω β) → Dialogue ω β
  | .done value, continuation => continuation value
  | .ask request next, continuation =>
      .ask request fun answer => (next answer).bind continuation

/-- The exchanges of one complete conversation, and the value it ends with. -/
inductive Path : Dialogue ω α → List (Exchange ω) → α → Prop
  | done (value : α) : Path (.done value) [] value
  | ask {request : ρ} {next : ω request → Dialogue ω α} {answer : ω request}
      {trace : List (Exchange ω)} {value : α}
      (rest : Path (next answer) trace value) :
      Path (.ask request next) (⟨request, answer⟩ :: trace) value

@[simp] theorem path_done_iff {value result : α} {trace : List (Exchange ω)} :
    (done value : Dialogue ω α).Path trace result ↔
      trace = [] ∧ value = result := by
  constructor
  · intro path
    cases path
    exact ⟨rfl, rfl⟩
  · intro ended
    obtain ⟨rfl, rfl⟩ := ended
    exact .done value

theorem path_bind_iff {dialogue : Dialogue ω α}
    {continuation : α → Dialogue ω β} {trace : List (Exchange ω)} {result : β} :
    (dialogue.bind continuation).Path trace result ↔
      ∃ value first second, trace = first ++ second ∧
        dialogue.Path first value ∧
        (continuation value).Path second result := by
  constructor
  · intro path
    induction dialogue generalizing trace with
    | done value => exact ⟨value, [], trace, rfl, .done value, path⟩
    | ask request next induction =>
        cases path with
        | ask rest =>
            obtain ⟨value, first, second, rfl, path, behind⟩ := induction _ rest
            exact ⟨value, _ :: first, second, rfl, .ask path, behind⟩
  · intro split
    obtain ⟨value, first, second, rfl, path, behind⟩ := split
    induction path with
    | done value => exact behind
    | ask rest induction => exact .ask (induction behind)

def Asks (allowed : ρ → Prop) : Dialogue ω α → Prop
  | .done _ => True
  | .ask request next => allowed request ∧ ∀ answer, (next answer).Asks allowed

theorem Asks.mono {allowed wider : ρ → Prop} {dialogue : Dialogue ω α}
    (asks : dialogue.Asks allowed)
    (le : ∀ request, allowed request → wider request) :
    dialogue.Asks wider := by
  induction dialogue with
  | done value => trivial
  | ask request next induction =>
      exact ⟨le request asks.1, fun answer => induction answer (asks.2 answer)⟩

theorem Asks.bind {allowed : ρ → Prop} {dialogue : Dialogue ω α}
    {continuation : α → Dialogue ω β} (first : dialogue.Asks allowed)
    (second : ∀ value, (continuation value).Asks allowed) :
    (dialogue.bind continuation).Asks allowed := by
  induction dialogue with
  | done value => exact second value
  | ask request next induction =>
      exact ⟨first.1, fun answer => induction answer (first.2 answer)⟩

theorem Asks.path {allowed : ρ → Prop} {dialogue : Dialogue ω α}
    {trace : List (Exchange ω)} {value : α} (asks : dialogue.Asks allowed)
    (path : dialogue.Path trace value) :
    ∀ exchange ∈ trace, allowed exchange.1 := by
  induction path with
  | done value => simp
  | ask rest induction =>
      intro exchange member
      rcases List.mem_cons.mp member with rfl | member
      · exact asks.1
      · exact induction (asks.2 _) exchange member

/-- The conversation with a partner that answers from what was said before. -/
def converse (respond : List (Exchange ω) → (request : ρ) → ω request) :
    Dialogue ω α → List (Exchange ω) → List (Exchange ω) × α
  | .done value, history => (history, value)
  | .ask request next, history =>
      (next (respond history request)).converse respond
        (history ++ [⟨request, respond history request⟩])

theorem converse_bind (respond : List (Exchange ω) → (request : ρ) → ω request)
    (dialogue : Dialogue ω α) (continuation : α → Dialogue ω β)
    (history : List (Exchange ω)) :
    (dialogue.bind continuation).converse respond history =
      (continuation (dialogue.converse respond history).2).converse respond
        (dialogue.converse respond history).1 := by
  induction dialogue generalizing history with
  | done value => rfl
  | ask request next induction => exact induction _ _

theorem converse_path (respond : List (Exchange ω) → (request : ρ) → ω request)
    (dialogue : Dialogue ω α) (history : List (Exchange ω)) :
    ∃ trace, (dialogue.converse respond history).1 = history ++ trace ∧
      dialogue.Path trace (dialogue.converse respond history).2 := by
  induction dialogue generalizing history with
  | done value => exact ⟨[], (List.append_nil history).symm, .done value⟩
  | ask request next induction =>
      obtain ⟨trace, extended, path⟩ := induction (respond history request)
        (history ++ [⟨request, respond history request⟩])
      refine ⟨⟨request, respond history request⟩ :: trace, ?_, .ask path⟩
      rw [converse, extended, List.append_assoc]
      rfl

/-- Each answer of such a conversation is the one that the partner gives behind
the exchanges before it. -/
theorem converse_answers
    (respond : List (Exchange ω) → (request : ρ) → ω request)
    (dialogue : Dialogue ω α) (history : List (Exchange ω)) :
    ∃ trace, (dialogue.converse respond history).1 = history ++ trace ∧
      ∀ before exchange after, trace = before ++ exchange :: after →
        exchange.2 = respond (history ++ before) exchange.1 := by
  induction dialogue generalizing history with
  | done value =>
      refine ⟨[], (List.append_nil history).symm, ?_⟩
      intro before exchange after split
      simp at split
  | ask request next induction =>
      obtain ⟨trace, extended, answers⟩ := induction (respond history request)
        (history ++ [⟨request, respond history request⟩])
      refine ⟨⟨request, respond history request⟩ :: trace, ?_, ?_⟩
      · rw [converse, extended, List.append_assoc]
        rfl
      · intro before exchange after split
        cases before with
        | nil =>
            obtain ⟨rfl, -⟩ := List.cons.inj split
            rw [List.append_nil]
        | cons first others =>
            obtain ⟨rfl, rest⟩ := List.cons.inj split
            have answered := answers others exchange after rest
            rw [List.append_assoc] at answered
            exact answered

/-! A partner with a state of its own. `serves before request answer after`
says that in the state `before` it may answer so and go to `after`. -/

section Serving

variable {serves : σ → (request : ρ) → ω request → σ → Prop}

inductive Served (serves : σ → (request : ρ) → ω request → σ → Prop) :
    σ → List (Exchange ω) → σ → Prop
  | nil (state : σ) : Served serves state [] state
  | cons {before middle after : σ} {request : ρ} {answer : ω request}
      {trace : List (Exchange ω)} (step : serves before request answer middle)
      (rest : Served serves middle trace after) :
      Served serves before (⟨request, answer⟩ :: trace) after

theorem served_append_iff {before after : σ}
    {first second : List (Exchange ω)} :
    Served serves before (first ++ second) after ↔
      ∃ middle, Served serves before first middle ∧
        Served serves middle second after := by
  constructor
  · intro served
    induction first generalizing before with
    | nil => exact ⟨before, .nil before, served⟩
    | cons exchange first induction =>
        cases served with
        | cons step rest =>
            obtain ⟨middle, head, tail⟩ := induction rest
            exact ⟨middle, .cons step head, tail⟩
  · intro parts
    obtain ⟨middle, head, tail⟩ := parts
    induction head with
    | nil state => exact tail
    | cons step rest induction => exact .cons step (induction tail)

theorem served_singleton_iff {before after : σ} {exchange : Exchange ω} :
    Served serves before [exchange] after ↔
      serves before exchange.1 exchange.2 after := by
  constructor
  · intro served
    cases served with
    | cons step rest =>
        cases rest
        exact step
  · exact fun step => .cons step (.nil after)

theorem Served.step_of_mem {before after : σ} {trace : List (Exchange ω)}
    (served : Served serves before trace after) {exchange : Exchange ω}
    (member : exchange ∈ trace) :
    ∃ state next, serves state exchange.1 exchange.2 next := by
  induction served with
  | nil state => simp at member
  | cons step rest induction =>
      rcases List.mem_cons.mp member with rfl | member
      · exact ⟨_, _, step⟩
      · exact induction member

/-- The weakest precondition of a dialogue with such a partner. -/
def Wp (serves : σ → (request : ρ) → ω request → σ → Prop) :
    Dialogue ω α → (α → σ → Prop) → σ → Prop
  | .done value, post, state => post value state
  | .ask request next, post, state =>
      ∀ answer after, serves state request answer after →
        Wp serves (next answer) post after

theorem Wp.mono {dialogue : Dialogue ω α} {post weaker : α → σ → Prop}
    {state : σ} (wp : Wp serves dialogue post state)
    (implies : ∀ value final, post value final → weaker value final) :
    Wp serves dialogue weaker state := by
  induction dialogue generalizing state with
  | done value => exact implies value state wp
  | ask request next induction =>
      exact fun answer after step =>
        induction answer (wp answer after step)

theorem wp_bind {dialogue : Dialogue ω α}
    {continuation : α → Dialogue ω β} {post : β → σ → Prop} {state : σ} :
    Wp serves (dialogue.bind continuation) post state ↔
      Wp serves dialogue
        (fun value => Wp serves (continuation value) post) state := by
  induction dialogue generalizing state with
  | done value => exact Iff.rfl
  | ask request next induction =>
      exact forall_congr' fun answer => forall_congr' fun after =>
        imp_congr_right fun _ => induction answer

/-- The weakest precondition speaks about exactly the conversations that the
partner can hold. -/
theorem wp_iff {dialogue : Dialogue ω α} {post : α → σ → Prop} {state : σ} :
    Wp serves dialogue post state ↔
      ∀ trace value final, dialogue.Path trace value →
        Served serves state trace final → post value final := by
  constructor
  · intro wp trace value final path served
    induction path generalizing state with
    | done value =>
        cases served
        exact wp
    | ask rest induction =>
        cases served with
        | cons step served => exact induction (wp _ _ step) served
  · intro holds
    induction dialogue generalizing state with
    | done value => exact holds [] value state (.done value) (.nil state)
    | ask request next induction =>
        intro answer after step
        apply induction answer
        intro trace value final path served
        exact holds _ value final (.ask path) (.cons step served)

end Serving

end Dialogue

end PipelineOps.Library
