import Mathlib.Order.Lattice
import Mathlib.Order.Defs.LinearOrder
import PipelineOps.Library.Fallible

namespace PipelineOps.Library

/-! Data that is built in rounds: some of its parts wait for a later round, in
which they may fail. -/

inductive Draft (ε κ : Type) where
  | scalar (value : κ)
  | list (items : List (Draft ε κ))
  | dict (entries : List (κ × Draft ε κ))
  | deferred (rest : Except ε (Draft ε κ))

namespace Draft

variable {ε κ : Type}

mutual
/-- One round: every part that waits goes on, in the order of the data. -/
def round : Draft ε κ → Except ε (Draft ε κ)
  | .scalar value => .ok (.scalar value)
  | .list items => (roundItems items).map .list
  | .dict entries => (roundEntries entries).map .dict
  | .deferred rest => rest

def roundItems : List (Draft ε κ) → Except ε (List (Draft ε κ))
  | [] => .ok []
  | item :: rest => do
      let first ← round item
      let others ← roundItems rest
      pure (first :: others)

def roundEntries : List (κ × Draft ε κ) → Except ε (List (κ × Draft ε κ))
  | [] => .ok []
  | (key, value) :: rest => do
      let first ← round value
      let others ← roundEntries rest
      pure ((key, first) :: others)
end

mutual
/-- The number of rounds that a draft still takes. -/
def rounds : Draft ε κ → Nat
  | .scalar _ => 0
  | .list items => roundsItems items
  | .dict entries => roundsEntries entries
  | .deferred (.ok rest) => rounds rest + 1
  | .deferred (.error _) => 1

def roundsItems : List (Draft ε κ) → Nat
  | [] => 0
  | item :: rest => max (rounds item) (roundsItems rest)

def roundsEntries : List (κ × Draft ε κ) → Nat
  | [] => 0
  | (_, value) :: rest => max (rounds value) (roundsEntries rest)
end

mutual
theorem rounds_round : (draft : Draft ε κ) → ∀ {next}, round draft = .ok next →
    rounds next = rounds draft - 1
  | .scalar value, next, advanced => by
      cases advanced
      rfl
  | .list items, next, advanced => by
      obtain ⟨others, inside, rfl⟩ := map_ok_iff.mp advanced
      exact rounds_roundItems items inside
  | .dict entries, next, advanced => by
      obtain ⟨others, inside, rfl⟩ := map_ok_iff.mp advanced
      exact rounds_roundEntries entries inside
  | .deferred rest, next, advanced => by
      obtain rfl : rest = .ok next := advanced
      rfl

theorem rounds_roundItems : (items : List (Draft ε κ)) →
    ∀ {next}, roundItems items = .ok next →
      roundsItems next = roundsItems items - 1
  | [], next, advanced => by
      cases advanced
      rfl
  | item :: rest, next, advanced => by
      obtain ⟨first, head, advanced⟩ := bind_ok_iff.mp advanced
      obtain ⟨others, tail, advanced⟩ := bind_ok_iff.mp advanced
      cases advanced
      rw [roundsItems, roundsItems, rounds_round item head,
        rounds_roundItems rest tail]
      omega

theorem rounds_roundEntries : (entries : List (κ × Draft ε κ)) →
    ∀ {next}, roundEntries entries = .ok next →
      roundsEntries next = roundsEntries entries - 1
  | [], next, advanced => by
      cases advanced
      rfl
  | (key, value) :: rest, next, advanced => by
      obtain ⟨first, head, advanced⟩ := bind_ok_iff.mp advanced
      obtain ⟨others, tail, advanced⟩ := bind_ok_iff.mp advanced
      cases advanced
      rw [roundsEntries, roundsEntries, rounds_round value head,
        rounds_roundEntries rest tail]
      omega
end

mutual
theorem round_of_rounds_eq_zero : (draft : Draft ε κ) → rounds draft = 0 →
    round draft = .ok draft
  | .scalar value, _ => rfl
  | .list items, settled => by
      rw [round, roundItems_of_rounds_eq_zero items settled]
      rfl
  | .dict entries, settled => by
      rw [round, roundEntries_of_rounds_eq_zero entries settled]
      rfl
  | .deferred (.ok rest), settled => by
      rw [rounds] at settled
      omega
  | .deferred (.error failure), settled => by
      rw [rounds] at settled
      omega

theorem roundItems_of_rounds_eq_zero : (items : List (Draft ε κ)) →
    roundsItems items = 0 → roundItems items = .ok items
  | [], _ => rfl
  | item :: rest, settled => by
      rw [roundsItems] at settled
      rw [roundItems, round_of_rounds_eq_zero item (by omega),
        roundItems_of_rounds_eq_zero rest (by omega)]
      rfl

theorem roundEntries_of_rounds_eq_zero : (entries : List (κ × Draft ε κ)) →
    roundsEntries entries = 0 → roundEntries entries = .ok entries
  | [], _ => rfl
  | (key, value) :: rest, settled => by
      rw [roundsEntries] at settled
      rw [roundEntries, round_of_rounds_eq_zero value (by omega),
        roundEntries_of_rounds_eq_zero rest (by omega)]
      rfl
end

theorem roundItems_eq_mapM (items : List (Draft ε κ)) :
    roundItems items = items.mapM round := by
  induction items with
  | nil => rfl
  | cons item rest induction =>
      rw [roundItems, induction, List.mapM_cons]

theorem roundEntries_eq_mapM (entries : List (κ × Draft ε κ)) :
    roundEntries entries = entries.mapM fun entry =>
      (round entry.2).map fun value => (entry.1, value) := by
  induction entries with
  | nil => rfl
  | cons entry rest induction =>
      obtain ⟨key, value⟩ := entry
      rw [roundEntries, induction, List.mapM_cons]
      cases round value <;> rfl

/-- `round` until nothing waits. -/
def complete (draft : Draft ε κ) : Except ε (Draft ε κ) :=
  if rounds draft = 0 then .ok draft
  else
    match _advanced : round draft with
    | .error failure => .error failure
    | .ok next => complete next
  termination_by rounds draft
  decreasing_by
    rw [rounds_round draft _advanced]
    omega

theorem complete_of_rounds_eq_zero {draft : Draft ε κ}
    (settled : rounds draft = 0) : complete draft = .ok draft := by
  rw [complete, if_pos settled]

theorem complete_eq_bind (draft : Draft ε κ) :
    complete draft = (round draft >>= complete) := by
  by_cases settled : rounds draft = 0
  · rw [round_of_rounds_eq_zero draft settled]
    rfl
  · rw [complete, if_neg settled]
    split
    · next failure advanced =>
        rw [advanced]
        rfl
    · next next advanced =>
        rw [advanced]
        rfl

section Stages

variable {stage : Nat → Draft ε κ}

theorem complete_stage {count : Nat} (advances : ∀ number < count,
      round (stage number) = .ok (stage (number + 1))) :
    complete (stage 0) = complete (stage count) := by
  induction count with
  | zero => rfl
  | succ count induction =>
      rw [induction fun number earlier => advances number (by omega),
        complete_eq_bind, advances count (by omega)]
      rfl

theorem complete_of_failure {count : Nat} {failure : ε}
    (advances : ∀ number < count,
      round (stage number) = .ok (stage (number + 1)))
    (fails : round (stage count) = .error failure) :
    complete (stage 0) = .error failure := by
  rw [complete_stage advances, complete_eq_bind, fails]
  rfl

end Stages

section Force

mutual
/-- The same data, with each waiting part completed where it stands. -/
def force : Draft ε κ → Except ε (Draft ε κ)
  | .scalar value => .ok (.scalar value)
  | .list items => (forceItems items).map .list
  | .dict entries => (forceEntries entries).map .dict
  | .deferred (.ok rest) => force rest
  | .deferred (.error failure) => .error failure

def forceItems : List (Draft ε κ) → Except ε (List (Draft ε κ))
  | [] => .ok []
  | item :: rest => do
      let first ← force item
      let others ← forceItems rest
      pure (first :: others)

def forceEntries : List (κ × Draft ε κ) → Except ε (List (κ × Draft ε κ))
  | [] => .ok []
  | (key, value) :: rest => do
      let first ← force value
      let others ← forceEntries rest
      pure ((key, first) :: others)
end

mutual
theorem round_of_force : (draft : Draft ε κ) → ∀ {result},
    force draft = .ok result →
      ∃ next, round draft = .ok next ∧ force next = .ok result
  | .scalar value, result, forced => ⟨_, rfl, forced⟩
  | .list items, result, forced => by
      obtain ⟨others, inside, rfl⟩ := map_ok_iff.mp forced
      obtain ⟨next, advanced, again⟩ := roundItems_of_forceItems items inside
      refine ⟨.list next, ?_, ?_⟩
      · rw [round, advanced]
        rfl
      · rw [force, again]
        rfl
  | .dict entries, result, forced => by
      obtain ⟨others, inside, rfl⟩ := map_ok_iff.mp forced
      obtain ⟨next, advanced, again⟩ :=
        roundEntries_of_forceEntries entries inside
      refine ⟨.dict next, ?_, ?_⟩
      · rw [round, advanced]
        rfl
      · rw [force, again]
        rfl
  | .deferred (.ok rest), result, forced => ⟨rest, rfl, forced⟩
  | .deferred (.error failure), result, forced => by
      rw [force] at forced
      cases forced

theorem roundItems_of_forceItems : (items : List (Draft ε κ)) →
    ∀ {result}, forceItems items = .ok result →
      ∃ next, roundItems items = .ok next ∧ forceItems next = .ok result
  | [], result, forced => ⟨[], rfl, forced⟩
  | item :: rest, result, forced => by
      obtain ⟨first, head, forced⟩ := bind_ok_iff.mp forced
      obtain ⟨others, tail, forced⟩ := bind_ok_iff.mp forced
      cases forced
      obtain ⟨next, advanced, again⟩ := round_of_force item head
      obtain ⟨further, advancedRest, againRest⟩ :=
        roundItems_of_forceItems rest tail
      refine ⟨next :: further, ?_, ?_⟩
      · rw [roundItems, advanced, advancedRest]
        rfl
      · rw [forceItems, again, againRest]
        rfl

theorem roundEntries_of_forceEntries : (entries : List (κ × Draft ε κ)) →
    ∀ {result}, forceEntries entries = .ok result →
      ∃ next, roundEntries entries = .ok next ∧
        forceEntries next = .ok result
  | [], result, forced => ⟨[], rfl, forced⟩
  | (key, value) :: rest, result, forced => by
      obtain ⟨first, head, forced⟩ := bind_ok_iff.mp forced
      obtain ⟨others, tail, forced⟩ := bind_ok_iff.mp forced
      cases forced
      obtain ⟨next, advanced, again⟩ := round_of_force value head
      obtain ⟨further, advancedRest, againRest⟩ :=
        roundEntries_of_forceEntries rest tail
      refine ⟨(key, next) :: further, ?_, ?_⟩
      · rw [roundEntries, advanced, advancedRest]
        rfl
      · rw [forceEntries, again, againRest]
        rfl
end

mutual
theorem force_of_rounds_eq_zero : (draft : Draft ε κ) → rounds draft = 0 →
    force draft = .ok draft
  | .scalar value, _ => rfl
  | .list items, settled => by
      rw [force, forceItems_of_rounds_eq_zero items settled]
      rfl
  | .dict entries, settled => by
      rw [force, forceEntries_of_rounds_eq_zero entries settled]
      rfl
  | .deferred (.ok rest), settled => by
      rw [rounds] at settled
      omega
  | .deferred (.error failure), settled => by
      rw [rounds] at settled
      omega

theorem forceItems_of_rounds_eq_zero : (items : List (Draft ε κ)) →
    roundsItems items = 0 → forceItems items = .ok items
  | [], _ => rfl
  | item :: rest, settled => by
      rw [roundsItems] at settled
      rw [forceItems, force_of_rounds_eq_zero item (by omega),
        forceItems_of_rounds_eq_zero rest (by omega)]
      rfl

theorem forceEntries_of_rounds_eq_zero : (entries : List (κ × Draft ε κ)) →
    roundsEntries entries = 0 → forceEntries entries = .ok entries
  | [], _ => rfl
  | (key, value) :: rest, settled => by
      rw [roundsEntries] at settled
      rw [forceEntries, force_of_rounds_eq_zero value (by omega),
        forceEntries_of_rounds_eq_zero rest (by omega)]
      rfl
end

/-- Where nothing fails, the order of the rounds does not matter. -/
theorem complete_of_force {draft result : Draft ε κ}
    (forced : force draft = .ok result) : complete draft = .ok result := by
  induction count : rounds draft using Nat.strong_induction_on
    generalizing draft with
  | h count induction =>
      by_cases settled : rounds draft = 0
      · rw [force_of_rounds_eq_zero draft settled] at forced
        cases forced
        exact complete_of_rounds_eq_zero settled
      · obtain ⟨next, advanced, again⟩ := round_of_force draft forced
        have fewer := rounds_round draft advanced
        rw [complete_eq_bind, advanced]
        exact induction (rounds next) (by omega) again rfl

theorem forceItems_eq_mapM (items : List (Draft ε κ)) :
    forceItems items = items.mapM force := by
  induction items with
  | nil => rfl
  | cons item rest induction =>
      rw [forceItems, induction, List.mapM_cons]

theorem forceEntries_eq_mapM (entries : List (κ × Draft ε κ)) :
    forceEntries entries = entries.mapM fun entry =>
      (force entry.2).map fun value => (entry.1, value) := by
  induction entries with
  | nil => rfl
  | cons entry rest induction =>
      obtain ⟨key, value⟩ := entry
      rw [forceEntries, induction, List.mapM_cons]
      cases force value <;> rfl

end Force

end Draft

end PipelineOps.Library
