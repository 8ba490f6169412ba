import PipelineOps.Library.Dialogue

namespace PipelineOps.Library

/-! Resources that are opened and released, and stacks of the exits that
release them. -/

section Handlings

variable {κ : Type}

inductive Handling (κ : Type) where
  | opened (resource : κ)
  | released (resource : κ)

variable [DecidableEq κ]

/-- What is open behind some handlings, the last first. Only what was opened
last can be released, and only once. -/
def openAfter : List κ → List (Handling κ) → Option (List κ)
  | held, [] => some held
  | held, .opened resource :: rest => openAfter (resource :: held) rest
  | [], .released _ :: _ => none
  | top :: held, .released resource :: rest =>
      if top = resource then openAfter held rest else none

theorem openAfter_append (held : List κ)
    (handlings further : List (Handling κ)) :
    openAfter held (handlings ++ further) =
      (openAfter held handlings).bind (openAfter · further) := by
  induction handlings generalizing held with
  | nil => rfl
  | cons handling rest induction =>
      cases handling with
      | opened resource => exact induction _
      | released resource =>
          cases held with
          | nil => rfl
          | cons top held =>
              simp only [List.cons_append, openAfter]
              split
              · exact induction held
              · rfl

theorem openAfter_released (resources held : List κ) :
    openAfter (resources ++ held) (resources.map .released) = some held := by
  induction resources with
  | nil => rfl
  | cons resource rest induction =>
      rw [List.cons_append, List.map_cons, openAfter, if_pos rfl]
      exact induction

end Handlings

universe u v

/-- What is done when a resource is left: it is told the pending error, and
returns whether it swallows it. -/
structure Exit {ρ : Type u} (ω : ρ → Type v) (ε κ : Type) where
  resource : κ
  leave : Option ε → Dialogue ω (Except ε Bool)

namespace ExitStack

variable {ρ : Type u} {ω : ρ → Type v} {ε κ : Type}

/-- The exits are left from the top, whatever they raise; the error that is
pending at the end is raised. -/
def unwind : List (Exit ω ε κ) → Option ε → Dialogue ω (Except ε Unit)
  | [], none => .done (.ok ())
  | [], some error => .done (.error error)
  | exit :: rest, pending =>
      (exit.leave pending).bind fun
        | .ok true => unwind rest none
        | .ok false => unwind rest pending
        | .error error => unwind rest (some error)

def handlings (handle : Dialogue.Exchange ω → Option (Handling κ))
    (trace : List (Dialogue.Exchange ω)) : List (Handling κ) :=
  trace.filterMap handle

/-- Whatever the answers, its resource is released, and nothing else
happens. -/
def Releases (handle : Dialogue.Exchange ω → Option (Handling κ))
    (exit : Exit ω ε κ) : Prop :=
  ∀ pending trace result, (exit.leave pending).Path trace result →
    handlings handle trace = [.released exit.resource]

variable {handle : Dialogue.Exchange ω → Option (Handling κ)}
  {exits : List (Exit ω ε κ)} {pending : Option ε}
  {trace : List (Dialogue.Exchange ω)} {result : Except ε Unit}

theorem handlings_append (first second : List (Dialogue.Exchange ω)) :
    handlings handle (first ++ second) =
      handlings handle first ++ handlings handle second :=
  List.filterMap_append

theorem unwind_releases (releases : ∀ exit ∈ exits, Releases handle exit)
    (path : (unwind exits pending).Path trace result) :
    handlings handle trace = exits.map (.released ·.resource) := by
  induction exits generalizing pending trace with
  | nil =>
      cases pending with
      | none =>
          obtain ⟨rfl, -⟩ := Dialogue.path_done_iff.mp path
          rfl
      | some error =>
          obtain ⟨rfl, -⟩ := Dialogue.path_done_iff.mp path
          rfl
  | cons exit rest induction =>
      rw [List.forall_mem_cons] at releases
      obtain ⟨answer, first, second, rfl, left, behind⟩ :=
        Dialogue.path_bind_iff.mp path
      rw [handlings_append, releases.1 _ _ _ left, List.map_cons,
        List.singleton_append]
      congr 1
      rcases answer with error | swallowed
      · exact induction releases.2 behind
      · cases swallowed with
        | true => exact induction releases.2 behind
        | false => exact induction releases.2 behind

/-- A stack of exits holds what it closes. -/
theorem openAfter_unwind [DecidableEq κ]
    (releases : ∀ exit ∈ exits, Releases handle exit)
    (path : (unwind exits pending).Path trace result) :
    openAfter (exits.map Exit.resource) (handlings handle trace) =
      some [] := by
  have released := openAfter_released (exits.map Exit.resource) []
  rw [List.append_nil, List.map_map] at released
  rw [unwind_releases releases path]
  exact released

end ExitStack

end PipelineOps.Library
