import Mathlib.Data.List.Nodup
import Mathlib.Logic.Function.Basic
import PipelineOps.Library.Dialogue

namespace PipelineOps.Library

universe u v w x y

/-! Dialogues that share one partner and take turns with it. -/

namespace Dialogue

variable {ρ : Type u} {ω : ρ → Type v} {α : Type w}

/-- The exchanges that lead into a dialogue, and what is left of it then. -/
inductive Reaches : Dialogue ω α → List (Exchange ω) → Dialogue ω α → Prop
  | refl (dialogue : Dialogue ω α) : Reaches dialogue [] dialogue
  | ask {request : ρ} {next : ω request → Dialogue ω α} {answer : ω request}
      {trace : List (Exchange ω)} {rest : Dialogue ω α}
      (reaches : Reaches (next answer) trace rest) :
      Reaches (.ask request next) (⟨request, answer⟩ :: trace) rest

theorem reaches_done_iff {value : α} {trace : List (Exchange ω)}
    {rest : Dialogue ω α} :
    (done value : Dialogue ω α).Reaches trace rest ↔
      trace = [] ∧ rest = done value := by
  constructor
  · intro reaches
    cases reaches
    exact ⟨rfl, rfl⟩
  · intro ended
    obtain ⟨rfl, rfl⟩ := ended
    exact .refl _

theorem reaches_ask_iff {request : ρ} {next : ω request → Dialogue ω α}
    {trace : List (Exchange ω)} {rest : Dialogue ω α} :
    (ask request next).Reaches trace rest ↔
      trace = [] ∧ rest = ask request next ∨
      ∃ answer others, trace = ⟨request, answer⟩ :: others ∧
        (next answer).Reaches others rest := by
  constructor
  · intro reaches
    cases reaches with
    | refl => exact .inl ⟨rfl, rfl⟩
    | ask reaches => exact .inr ⟨_, _, rfl, reaches⟩
  · intro reached
    rcases reached with ⟨rfl, rfl⟩ | ⟨answer, others, rfl, reaches⟩
    · exact .refl _
    · exact .ask reaches

/-- A dialogue that goes on with another one is still in its own part, or has
ended it. -/
theorem reaches_bind {β : Type w} {dialogue : Dialogue ω α}
    {continuation : α → Dialogue ω β} {trace : List (Exchange ω)}
    {rest : Dialogue ω β}
    (reaches : (dialogue.bind continuation).Reaches trace rest) :
    (∃ request next, dialogue.Reaches trace (.ask request next) ∧
      rest = .ask request fun answer => (next answer).bind continuation) ∨
      ∃ value first second, trace = first ++ second ∧
        dialogue.Reaches first (.done value) ∧
        (continuation value).Reaches second rest := by
  induction dialogue generalizing trace with
  | done value => exact .inr ⟨value, [], trace, rfl, .refl _, reaches⟩
  | ask request next induction =>
      rcases reaches_ask_iff.mp reaches with
        ⟨rfl, rfl⟩ | ⟨answer, others, rfl, further⟩
      · exact .inl ⟨request, next, .refl _, rfl⟩
      · rcases induction answer further with
          ⟨later, left, reached, rfl⟩ |
          ⟨value, first, second, rfl, ended, behind⟩
        · exact .inl ⟨later, left, .ask reached, rfl⟩
        · exact .inr
            ⟨value, _ :: first, second, rfl, .ask ended, behind⟩

theorem Reaches.path {value : α} {dialogue : Dialogue ω α}
    {trace : List (Exchange ω)}
    (reaches : dialogue.Reaches trace (.done value)) :
    dialogue.Path trace value := by
  generalize ended : Dialogue.done value = rest at reaches
  induction reaches with
  | refl dialogue =>
      subst ended
      exact .done value
  | ask reaches induction => exact .ask (induction ended)

theorem Path.reaches {value : α} {dialogue : Dialogue ω α}
    {trace : List (Exchange ω)} (path : dialogue.Path trace value) :
    dialogue.Reaches trace (.done value) := by
  induction path with
  | done value => exact .refl _
  | ask rest induction => exact .ask induction

theorem Asks.reaches {allowed : ρ → Prop} {dialogue rest : Dialogue ω α}
    {trace : List (Exchange ω)} (asks : dialogue.Asks allowed)
    (reaches : dialogue.Reaches trace rest) :
    ∀ exchange ∈ trace, allowed exchange.1 := by
  induction reaches with
  | refl dialogue => simp
  | ask reaches induction =>
      intro exchange member
      rcases List.mem_cons.mp member with rfl | member
      · exact asks.1
      · exact induction (asks.2 _) exchange member

end Dialogue

/-- What each process has left to say, and the state of the partner. -/
structure Shared (ι : Type x) {ρ : Type u} (ω : ρ → Type v) (α : Type w)
    (σ : Type y) where
  process : ι → Dialogue ω α
  partner : σ

namespace Shared

variable {ι : Type x} [DecidableEq ι] {ρ : Type u} {ω : ρ → Type v}
  {α : Type w} {σ : Type y}
  {serves : σ → (request : ρ) → ω request → σ → Prop}

inductive Turn (serves : σ → (request : ρ) → ω request → σ → Prop) :
    Shared ι ω α σ → ι × Dialogue.Exchange ω → Shared ι ω α σ → Prop
  | ask {shared : Shared ι ω α σ} {index : ι} {request : ρ}
      {next : ω request → Dialogue ω α} {answer : ω request} {after : σ}
      (asks : shared.process index = .ask request next)
      (step : serves shared.partner request answer after) :
      Turn serves shared (index, ⟨request, answer⟩)
        ⟨Function.update shared.process index (next answer), after⟩

inductive Turns (serves : σ → (request : ρ) → ω request → σ → Prop) :
    Shared ι ω α σ → List (ι × Dialogue.Exchange ω) → Shared ι ω α σ → Prop
  | nil (shared : Shared ι ω α σ) : Turns serves shared [] shared
  | cons {before middle after : Shared ι ω α σ}
      {event : ι × Dialogue.Exchange ω}
      {events : List (ι × Dialogue.Exchange ω)}
      (turn : Turn serves before event middle)
      (rest : Turns serves middle events after) :
      Turns serves before (event :: events) after

def share (index : ι) (events : List (ι × Dialogue.Exchange ω)) :
    List (Dialogue.Exchange ω) :=
  events.filterMap fun event => if event.1 = index then some event.2 else none

@[simp] theorem share_cons_self (index : ι) (exchange : Dialogue.Exchange ω)
    (events : List (ι × Dialogue.Exchange ω)) :
    share index ((index, exchange) :: events) =
      exchange :: share index events := by
  simp [share]

theorem share_cons_of_ne {index speaker : ι} (differs : index ≠ speaker)
    (exchange : Dialogue.Exchange ω)
    (events : List (ι × Dialogue.Exchange ω)) :
    share index ((speaker, exchange) :: events) = share index events := by
  simp [share, Ne.symm differs]

theorem mem_share_iff {index : ι} {events : List (ι × Dialogue.Exchange ω)}
    {exchange : Dialogue.Exchange ω} :
    exchange ∈ share index events ↔ (index, exchange) ∈ events := by
  simp only [share, List.mem_filterMap, Option.ite_none_right_eq_some,
    Option.some.injEq]
  constructor
  · intro shared
    obtain ⟨⟨other, _⟩, member, rfl, rfl⟩ := shared
    exact member
  · exact fun member => ⟨_, member, rfl, rfl⟩

section Marks

variable {τ : Type y} {mark : Dialogue.Exchange ω → Option τ}

/-- The exchanges that bear a mark, with who held them. -/
def marks (mark : Dialogue.Exchange ω → Option τ)
    (events : List (ι × Dialogue.Exchange ω)) : List (ι × τ) :=
  events.filterMap fun event => (mark event.2).map (Prod.mk event.1)

omit [DecidableEq ι] in
theorem marks_cons_of_none {event : ι × Dialogue.Exchange ω}
    (unmarked : mark event.2 = none)
    (events : List (ι × Dialogue.Exchange ω)) :
    marks mark (event :: events) = marks mark events := by
  rw [marks, List.filterMap_cons_none (by rw [unmarked]; rfl), ← marks]

omit [DecidableEq ι] in
theorem marks_cons_of_some {event : ι × Dialogue.Exchange ω} {value : τ}
    (marked : mark event.2 = some value)
    (events : List (ι × Dialogue.Exchange ω)) :
    marks mark (event :: events) = (event.1, value) :: marks mark events := by
  rw [marks, List.filterMap_cons_some (by rw [marked]; rfl), ← marks]

omit [DecidableEq ι] in
theorem map_snd_marks (events : List (ι × Dialogue.Exchange ω)) :
    (marks mark events).map Prod.snd =
      (events.map Prod.snd).filterMap mark := by
  induction events with
  | nil => rfl
  | cons event events induction =>
      rw [List.map_cons]
      cases marked : mark event.2 with
      | none =>
          rw [marks_cons_of_none marked, List.filterMap_cons_none marked,
            induction]
      | some value =>
          rw [marks_cons_of_some marked, List.filterMap_cons_some marked,
            List.map_cons, induction]

theorem mem_marks_iff {index : ι} {value : τ}
    {events : List (ι × Dialogue.Exchange ω)} :
    (index, value) ∈ marks mark events ↔
      value ∈ (share index events).filterMap mark := by
  simp only [marks, List.mem_filterMap, Option.map_eq_some_iff,
    Prod.mk.injEq, mem_share_iff]
  constructor
  · intro marked
    obtain ⟨⟨_, exchange⟩, member, _, marked, rfl, rfl⟩ := marked
    exact ⟨exchange, member, marked⟩
  · intro marked
    obtain ⟨exchange, member, marked⟩ := marked
    exact ⟨_, member, value, marked, rfl, rfl⟩

theorem count_marks (index : ι) (events : List (ι × Dialogue.Exchange ω)) :
    ((marks mark events).map Prod.fst).count index =
      ((share index events).filterMap mark).length := by
  induction events with
  | nil => rfl
  | cons event rest induction =>
      obtain ⟨speaker, exchange⟩ := event
      cases marked : mark exchange with
      | none =>
          rw [marks_cons_of_none marked, induction]
          by_cases same : index = speaker
          · subst same
            rw [share_cons_self, List.filterMap_cons_none marked]
          · rw [share_cons_of_ne same]
      | some value =>
          rw [marks_cons_of_some marked, List.map_cons]
          by_cases same : index = speaker
          · subst same
            rw [List.count_cons_self, induction, share_cons_self,
              List.filterMap_cons_some marked, List.length_cons]
          · rw [List.count_cons_of_ne (Ne.symm same), induction,
              share_cons_of_ne same]

theorem nodup_marks {events : List (ι × Dialogue.Exchange ω)}
    (once : ∀ index, ((share index events).filterMap mark).length ≤ 1) :
    ((marks mark events).map Prod.fst).Nodup := by
  apply List.nodup_iff_count_le_one.mpr
  intro index
  rw [count_marks]
  exact once index

end Marks

theorem Turn.speaker {before after : Shared ι ω α σ} {index : ι}
    {exchange : Dialogue.Exchange ω}
    (turn : Turn serves before (index, exchange) after) :
    ∃ next, before.process index = .ask exchange.1 next ∧
      after.process index = next exchange.2 := by
  cases turn with
  | ask asks step => exact ⟨_, asks, Function.update_self ..⟩

theorem Turn.others {before after : Shared ι ω α σ} {index other : ι}
    {exchange : Dialogue.Exchange ω}
    (turn : Turn serves before (index, exchange) after)
    (differs : other ≠ index) :
    after.process other = before.process other := by
  cases turn with
  | ask asks step => exact Function.update_of_ne differs _ _

theorem Turn.partner {before after : Shared ι ω α σ} {index : ι}
    {exchange : Dialogue.Exchange ω}
    (turn : Turn serves before (index, exchange) after) :
    serves before.partner exchange.1 exchange.2 after.partner := by
  cases turn with
  | ask asks step => exact step

/-- The partner sees one conversation. -/
theorem Turns.served {before after : Shared ι ω α σ}
    {events : List (ι × Dialogue.Exchange ω)}
    (turns : Turns serves before events after) :
    Dialogue.Served serves before.partner (events.map Prod.snd)
      after.partner := by
  induction turns with
  | nil shared => exact .nil _
  | cons turn rest induction => exact .cons turn.partner induction

/-- Each process sees a conversation of its own. -/
theorem Turns.reaches {before after : Shared ι ω α σ}
    {events : List (ι × Dialogue.Exchange ω)}
    (turns : Turns serves before events after) (index : ι) :
    (before.process index).Reaches (share index events)
      (after.process index) := by
  induction turns with
  | nil shared => exact .refl _
  | cons turn rest induction =>
      rename_i event events
      obtain ⟨speaker, exchange⟩ := event
      by_cases same : index = speaker
      · subst same
        obtain ⟨next, asks, left⟩ := turn.speaker
        rw [left] at induction
        rw [asks, share_cons_self]
        exact .ask induction
      · rw [turn.others same] at induction
        rw [share_cons_of_ne same]
        exact induction

theorem Turns.concat {before middle after : Shared ι ω α σ}
    {event : ι × Dialogue.Exchange ω}
    {events : List (ι × Dialogue.Exchange ω)}
    (turns : Turns serves before events middle)
    (turn : Turn serves middle event after) :
    Turns serves before (events ++ [event]) after := by
  induction turns with
  | nil shared => exact .cons turn (.nil _)
  | cons first rest induction => exact .cons first (induction turn)

theorem Turns.mono {weaker : σ → (request : ρ) → ω request → σ → Prop}
    {before after : Shared ι ω α σ} {events : List (ι × Dialogue.Exchange ω)}
    (turns : Turns serves before events after)
    (le : ∀ state request answer next, serves state request answer next →
      weaker state request answer next) :
    Turns weaker before events after := by
  induction turns with
  | nil shared => exact .nil _
  | cons turn rest induction =>
      cases turn with
      | ask asks step => exact .cons (.ask asks (le _ _ _ _ step)) induction

end Shared

end PipelineOps.Library
