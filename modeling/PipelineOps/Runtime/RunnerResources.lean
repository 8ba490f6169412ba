import PipelineOps.Library.ExitStack
import PipelineOps.Runtime.RunnerLifecycle

namespace PipelineOps.Runtime

open PipelineOps.Library
open PipelineOps.Python

/-! The construction and the closing of a runner, and the resources it holds in
between. -/

/-- An exception, and whether `except Exception` catches it. -/
structure Raised where
  exc : Exc
  isException : Bool

/-- What a checkpointer factory returns. -/
structure Candidate (γ : Type) where
  value : γ
  isContextManager : Bool

/-- What a runner turns to while it is constructed or closed. -/
inductive SetupRequest (γ : Type) where
  | ensureParentDir (path : String)
  | checkpointerFactory (path : String)
  | enterCheckpointer (candidate : γ)
  | exitCheckpointer (candidate : γ) (pending : Option Raised)
  | graphFactory (checkpointer : γ)
  | connect (path : String)
  | createTable
  | commit
  | closeConnection

abbrev SetupAnswer {γ : Type} : SetupRequest γ → Type
  | .checkpointerFactory _ => Except Raised (Candidate γ)
  | .enterCheckpointer _ => Except Raised γ
  | .exitCheckpointer _ _ => Except Raised Bool
  | _ => Except Raised Unit

inductive Resource where
  | checkpointer
  | connection
  deriving DecidableEq

section Model

variable {γ : Type}

abbrev SetupDialogue (γ : Type) :=
  Dialogue (SetupAnswer (γ := γ))

abbrev RunnerExit (γ : Type) :=
  Exit (SetupAnswer (γ := γ)) Raised Resource

def checkpointerExit (candidate : γ) : RunnerExit γ where
  resource := .checkpointer
  leave pending := .ask (.exitCheckpointer candidate pending) .done

/-- `ExitStack.callback`: it swallows nothing. -/
def connectionExit : RunnerExit γ where
  resource := .connection
  leave _ := .ask .closeConnection fun
    | .ok () => .done (.ok false)
    | .error raised => .done (.error raised)

/-- The checkpointer, and what is now on the stack. -/
def enterCheckpointerIfContextManager (candidate : Candidate γ) :
    SetupDialogue γ (Except Raised (γ × List (RunnerExit γ))) :=
  if candidate.isContextManager then
    .ask (.enterCheckpointer candidate.value) fun
      | .error raised => .done (.error raised)
      | .ok checkpointer =>
          .done (.ok (checkpointer, [checkpointerExit candidate.value]))
  else .done (.ok (candidate.value, []))

def initRegistryTable : SetupDialogue γ (Except Raised Unit) :=
  .ask .createTable fun
    | .error raised => .done (.error raised)
    | .ok () => .ask .commit .done

/-- The body of the `try` in `AgentRunner.__init__` from the graph on: the stack
when it is left, and how. -/
def setUpGraph (checkpointDbPath : String) (checkpointer : γ)
    (exits : List (RunnerExit γ)) :
    SetupDialogue γ (List (RunnerExit γ) × Except Raised Unit) :=
  .ask (.graphFactory checkpointer) fun
    | .error raised => .done (exits, .error raised)
    | .ok () =>
        .ask (.connect checkpointDbPath) fun
          | .error raised => .done (exits, .error raised)
          | .ok () =>
              initRegistryTable.bind fun ended =>
                .done (connectionExit :: exits, ended)

/-- The checkpointer of a factory, entered only if it is the default one. -/
def provideCheckpointer (checkpointDbPath : String) (defaultFactory : Bool) :
    SetupDialogue γ (Except Raised (γ × List (RunnerExit γ))) :=
  .ask (.checkpointerFactory checkpointDbPath) fun
    | .error raised => .done (.error raised)
    | .ok candidate =>
        if defaultFactory then enterCheckpointerIfContextManager candidate
        else .done (.ok (candidate.value, []))

/-- The whole body of that `try`. -/
def setUp (checkpointDbPath : String) (defaultFactory : Bool) :
    SetupDialogue γ (List (RunnerExit γ) × Except Raised Unit) :=
  (provideCheckpointer checkpointDbPath defaultFactory).bind fun
    | .error raised => .done ([], .error raised)
    | .ok (checkpointer, exits) =>
        setUpGraph checkpointDbPath checkpointer exits

/-- What a runner keeps of its resources. -/
structure Held (γ : Type) where
  resources : List (RunnerExit γ)
  closed : Bool

/-- `AgentRunner.__init__`. -/
def construct (checkpointDbPath : String) (defaultFactory : Bool) :
    SetupDialogue γ (Except Raised (Held γ)) :=
  .ask (.ensureParentDir checkpointDbPath) fun
    | .error raised => .done (.error raised)
    | .ok () =>
        (setUp checkpointDbPath defaultFactory).bind fun
          | (exits, .ok ()) => .done (.ok ⟨exits, false⟩)
          | (exits, .error raised) =>
              if raised.isException then
                (ExitStack.unwind exits none).bind fun
                  | .ok () => .done (.error raised)
                  | .error other => .done (.error other)
              else .done (.error raised)

/-- `AgentRunner.close`. -/
def Held.close (held : Held γ) :
    SetupDialogue γ (Held γ × Except Raised Unit) :=
  if held.closed then .done (held, .ok ())
  else
    (ExitStack.unwind held.resources none).bind fun ended =>
      .done (⟨[], true⟩, ended)

/-- What an exchange does to a resource: one is opened if its opening did not
fail, and released by the attempt. -/
def handled : Dialogue.Exchange (SetupAnswer (γ := γ)) →
    Option (Handling Resource)
  | ⟨.enterCheckpointer _, .ok _⟩ => some (.opened .checkpointer)
  | ⟨.exitCheckpointer _ _, _⟩ => some (.released .checkpointer)
  | ⟨.connect _, .ok _⟩ => some (.opened .connection)
  | ⟨.closeConnection, _⟩ => some (.released .connection)
  | _ => none

end Model

section Accounts

variable {γ : Type} {checkpointDbPath : String} {defaultFactory : Bool}
  {trace : List (Dialogue.Exchange (SetupAnswer (γ := γ)))}
  {exits : List (RunnerExit γ)} {ended : Except Raised Unit}

open ExitStack (handlings handlings_append Releases openAfter_unwind)

theorem releases_checkpointerExit (candidate : γ) :
    Releases handled (checkpointerExit candidate) := by
  intro pending trace result path
  cases path with
  | ask rest =>
      obtain ⟨rfl, -⟩ := Dialogue.path_done_iff.mp rest
      rfl

theorem releases_connectionExit :
    Releases (handled (γ := γ)) connectionExit := by
  intro pending trace result path
  cases path with
  | ask rest =>
      rename_i trace answer
      cases answer with
      | error raised =>
          obtain ⟨rfl, -⟩ := Dialogue.path_done_iff.mp rest
          rfl
      | ok closed =>
          obtain ⟨rfl, -⟩ := Dialogue.path_done_iff.mp rest
          rfl

/-- The stack holds just what is open. -/
structure Accounted (history : List (Handling Resource))
    (exits : List (RunnerExit γ)) : Prop where
  open_ : openAfter [] history = some (exits.map Exit.resource)
  releases : ∀ exit ∈ exits, Releases handled exit

theorem Accounted.nil : Accounted ([] : List (Handling Resource))
    ([] : List (RunnerExit γ)) :=
  ⟨rfl, by simp⟩

theorem Accounted.silent {history : List (Handling Resource)}
    (accounted : Accounted history exits)
    (quiet : handlings handled trace = []) :
    Accounted (history ++ handlings handled trace) exits := by
  rwa [quiet, List.append_nil]

theorem Accounted.connected {history : List (Handling Resource)}
    (accounted : Accounted history exits) :
    Accounted (history ++ [.opened .connection]) (connectionExit :: exits) := by
  refine ⟨?_, List.forall_mem_cons.mpr
    ⟨releases_connectionExit, accounted.releases⟩⟩
  rw [openAfter_append, accounted.open_]
  rfl

/-- The stack of what was provided, empty if nothing was. -/
def providedExits :
    Except Raised (γ × List (RunnerExit γ)) → List (RunnerExit γ)
  | .error _ => []
  | .ok (_, exits) => exits

theorem enter_accounted {candidate : Candidate γ}
    {provided : Except Raised (γ × List (RunnerExit γ))}
    (path : (enterCheckpointerIfContextManager candidate).Path trace
      provided) :
    Accounted (handlings handled trace) (providedExits provided) := by
  rw [enterCheckpointerIfContextManager] at path
  split at path
  · cases path with
    | ask rest =>
        rename_i trace answer
        cases answer with
        | error raised =>
            obtain ⟨rfl, rfl⟩ := Dialogue.path_done_iff.mp rest
            exact .nil
        | ok entered =>
            obtain ⟨rfl, rfl⟩ := Dialogue.path_done_iff.mp rest
            exact ⟨rfl, List.forall_mem_singleton.mpr
              (releases_checkpointerExit _)⟩
  · obtain ⟨rfl, rfl⟩ := Dialogue.path_done_iff.mp path
    exact .nil

theorem provide_accounted
    {provided : Except Raised (γ × List (RunnerExit γ))}
    (path : (provideCheckpointer checkpointDbPath defaultFactory).Path trace
      provided) :
    Accounted (handlings handled trace) (providedExits provided) := by
  cases path with
  | ask rest =>
      rename_i trace answer
      cases answer with
      | error raised =>
          obtain ⟨rfl, rfl⟩ := Dialogue.path_done_iff.mp rest
          exact .nil
      | ok candidate =>
          dsimp only at rest
          split at rest
          · have accounted := enter_accounted rest
            exact accounted
          · obtain ⟨rfl, rfl⟩ := Dialogue.path_done_iff.mp rest
            exact .nil

theorem initRegistryTable_silent
    (path : initRegistryTable.Path trace ended) :
    handlings handled trace = [] := by
  cases path with
  | ask rest =>
      rename_i trace answer
      cases answer with
      | error raised =>
          obtain ⟨rfl, -⟩ := Dialogue.path_done_iff.mp rest
          rfl
      | ok created =>
          cases rest with
          | ask last =>
              obtain ⟨rfl, -⟩ := Dialogue.path_done_iff.mp last
              rfl

theorem setUpGraph_accounted {checkpointer : γ} {left : List (RunnerExit γ)}
    {history : List (Handling Resource)} (accounted : Accounted history exits)
    (path : (setUpGraph checkpointDbPath checkpointer exits).Path trace
      (left, ended)) :
    Accounted (history ++ handlings handled trace) left ∧
      (ended = .ok () → .connection ∈ left.map Exit.resource) := by
  cases path with
  | ask rest =>
      rename_i trace built
      cases built with
      | error raised =>
          obtain ⟨rfl, same⟩ := Dialogue.path_done_iff.mp rest
          obtain ⟨rfl, rfl⟩ := Prod.mk.inj same
          exact ⟨accounted.silent rfl, fun returned => nomatch returned⟩
      | ok graph =>
          cases rest with
          | ask rest =>
              rename_i trace connected
              cases connected with
              | error raised =>
                  obtain ⟨rfl, same⟩ := Dialogue.path_done_iff.mp rest
                  obtain ⟨rfl, rfl⟩ := Prod.mk.inj same
                  exact ⟨accounted.silent rfl, fun returned => nomatch returned⟩
              | ok connection =>
                  obtain ⟨outcome, first, second, rfl, table, behind⟩ :=
                    Dialogue.path_bind_iff.mp rest
                  obtain ⟨rfl, same⟩ := Dialogue.path_done_iff.mp behind
                  obtain ⟨rfl, rfl⟩ := Prod.mk.inj same
                  have quiet := initRegistryTable_silent table
                  refine ⟨?_, fun _ => List.mem_cons_self⟩
                  have open_ := accounted.connected.silent quiet
                  rw [List.append_assoc] at open_
                  rw [List.append_nil]
                  exact open_

theorem setUp_accounted {left : List (RunnerExit γ)}
    (path : (setUp checkpointDbPath defaultFactory).Path trace
      (left, ended)) :
    Accounted (handlings handled trace) left ∧
      (ended = .ok () → .connection ∈ left.map Exit.resource) := by
  obtain ⟨provided, first, second, rfl, providing, behind⟩ :=
    Dialogue.path_bind_iff.mp path
  have accounted := provide_accounted providing
  rw [handlings_append]
  cases provided with
  | error raised =>
      obtain ⟨rfl, same⟩ := Dialogue.path_done_iff.mp behind
      obtain ⟨rfl, rfl⟩ := Prod.mk.inj same
      exact ⟨accounted.silent rfl, fun returned => nomatch returned⟩
  | ok entered => exact setUpGraph_accounted accounted behind

theorem Accounted.unwound {history : List (Handling Resource)}
    (accounted : Accounted history exits) {pending : Option Raised}
    (path : (ExitStack.unwind exits pending).Path trace ended) :
    openAfter [] (history ++ handlings handled trace) = some [] := by
  rw [openAfter_append, accounted.open_]
  exact openAfter_unwind accounted.releases path

/-- A runner that could not be constructed keeps nothing open, unless its error
is none that `except Exception` catches. -/
theorem construct_refused {raised : Raised}
    (path : (construct checkpointDbPath defaultFactory).Path trace
      (.error raised : Except Raised (Held γ))) :
    ∃ open_, openAfter [] (handlings handled trace) = some open_ ∧
      (raised.isException = true → open_ = []) := by
  cases path with
  | ask rest =>
      rename_i trace directory
      cases directory with
      | error other =>
          obtain ⟨rfl, -⟩ := Dialogue.path_done_iff.mp rest
          exact ⟨[], rfl, fun _ => rfl⟩
      | ok made =>
          obtain ⟨⟨exits, ended⟩, first, second, rfl, body, behind⟩ :=
            Dialogue.path_bind_iff.mp rest
          obtain ⟨accounted, -⟩ := setUp_accounted body
          change ∃ open_, openAfter []
            (handlings handled (first ++ second)) = some open_ ∧ _
          rw [handlings_append]
          cases ended with
          | ok finished =>
              obtain ⟨-, same⟩ := Dialogue.path_done_iff.mp behind
              cases same
          | error cause =>
              dsimp only at behind
              split at behind
              · obtain ⟨outcome, unwinding, last, rfl, unwound, raising⟩ :=
                  Dialogue.path_bind_iff.mp behind
                have silent : last = [] := by
                  cases outcome with
                  | ok finished => exact (Dialogue.path_done_iff.mp raising).1
                  | error other => exact (Dialogue.path_done_iff.mp raising).1
                rw [silent, List.append_nil]
                exact ⟨[], accounted.unwound unwound, fun _ => rfl⟩
              · rename_i uncaught
                obtain ⟨rfl, same⟩ := Dialogue.path_done_iff.mp behind
                obtain rfl := Except.error.inj same
                exact ⟨_, (accounted.silent rfl).open_,
                  fun caught => absurd caught uncaught⟩

/-- What a runner keeps while it lives. -/
structure Held.Keeps (held : Held γ) (history : List (Handling Resource)) :
    Prop where
  accounted : Accounted history held.resources
  closed : held.closed = true → held.resources = []
  opened : held.closed = false →
    .connection ∈ held.resources.map Exit.resource

theorem construct_keeps {held : Held γ}
    (path : (construct checkpointDbPath defaultFactory).Path trace
      (.ok held)) :
    held.closed = false ∧ held.Keeps (handlings handled trace) := by
  cases path with
  | ask rest =>
      rename_i trace directory
      cases directory with
      | error other =>
          obtain ⟨-, same⟩ := Dialogue.path_done_iff.mp rest
          cases same
      | ok made =>
          obtain ⟨⟨exits, ended⟩, first, second, rfl, body, behind⟩ :=
            Dialogue.path_bind_iff.mp rest
          obtain ⟨accounted, connected⟩ := setUp_accounted body
          cases ended with
          | ok finished =>
              obtain ⟨rfl, same⟩ := Dialogue.path_done_iff.mp behind
              obtain rfl := Except.ok.inj same
              rw [List.append_nil]
              exact ⟨rfl, accounted, (fun closed => nomatch closed),
                fun _ => connected rfl⟩
          | error cause =>
              dsimp only at behind
              split at behind
              · obtain ⟨outcome, unwinding, last, rfl, -, raising⟩ :=
                  Dialogue.path_bind_iff.mp behind
                cases outcome with
                | ok finished => cases (Dialogue.path_done_iff.mp raising).2
                | error other => cases (Dialogue.path_done_iff.mp raising).2
              · cases (Dialogue.path_done_iff.mp behind).2

theorem close_keeps {held after : Held γ} {history : List (Handling Resource)}
    (keeps : held.Keeps history)
    (path : held.close.Path trace (after, ended)) :
    after.Keeps (history ++ handlings handled trace) ∧
      after.closed = true ∧
      (held.closed = true → trace = [] ∧ after = held) := by
  rw [Held.close] at path
  split at path
  · rename_i closed
    obtain ⟨rfl, same⟩ := Dialogue.path_done_iff.mp path
    obtain ⟨rfl, rfl⟩ := Prod.mk.inj same
    rw [show handlings handled [] = [] from rfl, List.append_nil]
    exact ⟨keeps, closed, fun _ => ⟨rfl, rfl⟩⟩
  · rename_i opened
    obtain ⟨outcome, first, second, rfl, unwound, behind⟩ :=
      Dialogue.path_bind_iff.mp path
    obtain ⟨rfl, same⟩ := Dialogue.path_done_iff.mp behind
    obtain ⟨rfl, rfl⟩ := Prod.mk.inj same
    rw [List.append_nil]
    have emptied : Accounted (history ++ handlings handled first)
        ([] : List (RunnerExit γ)) :=
      ⟨keeps.accounted.unwound unwound, by simp⟩
    exact ⟨⟨emptied, fun _ => rfl, (fun open_ => nomatch open_)⟩, rfl,
      fun closed => absurd closed opened⟩

end Accounts

section Lives

variable {γ : Type}

/-- A constructed runner: what it holds, what has become of the resources so
far, and the table behind its connection. -/
structure LiveRunner (γ : Type) where
  held : Held γ
  history : List (Handling Resource)
  registry : IncidentRegistry

/-- What its calls meet: a connection that is open, or not. -/
def LiveRunner.runner (live : LiveRunner γ) : Runner where
  closed := openAfter [] live.history |>.all (.connection ∉ ·)
  registry := live.registry

/-- Calls and closings, in any order. -/
inductive Life : LiveRunner γ → List CallRun → LiveRunner γ → Prop
  | nil (live : LiveRunner γ) : Life live [] live
  | call {live final : LiveRunner γ} {run : CallRun} {runs : List CallRun}
      (meets : run.before = live.runner)
      (rest : Life { live with registry := run.after.registry } runs final) :
      Life live (run :: runs) final
  | close {live final : LiveRunner γ} {runs : List CallRun} {after : Held γ}
      {ended : Except Raised Unit}
      {trace : List (Dialogue.Exchange (SetupAnswer (γ := γ)))}
      (path : live.held.close.Path trace (after, ended))
      (rest : Life ⟨after, live.history ++ ExitStack.handlings handled trace,
        live.registry⟩ runs final) :
      Life live runs final

theorem Held.Keeps.runner {live : LiveRunner γ}
    (keeps : live.held.Keeps live.history) :
    live.runner = ⟨live.held.closed, live.registry⟩ := by
  rw [LiveRunner.runner, keeps.accounted.open_]
  cases closed : live.held.closed with
  | true => simp [keeps.closed closed]
  | false =>
      have connected := keeps.opened closed
      simp only [Option.all_some]
      simp [connected]

theorem served_closed {before after : Runner}
    {trace : List (Dialogue.Exchange RunnerAnswer)}
    (served : Dialogue.Served RunnerServes before trace after) :
    after.closed = before.closed := by
  induction served with
  | nil runner => rfl
  | cons step rest induction =>
      rw [induction]
      cases step <;> rfl

/-- Until it is closed a runner holds what it opened, and its calls are those of
a runner that is closed when its connection is. -/
theorem Life.keeps {start final : LiveRunner γ} {runs : List CallRun}
    (life : Life start runs final) (keeps : start.held.Keeps start.history) :
    final.held.Keeps final.history ∧
      (final.held.closed = true ∨ final.held = start.held) ∧
      Lifecycle start.runner runs final.runner := by
  induction life with
  | nil live => exact ⟨keeps, .inr rfl, .nil _⟩
  | @call live final run runs meets rest induction =>
      obtain ⟨kept, held, lifecycle⟩ := induction keeps
      refine ⟨kept, held, ?_⟩
      have after : run.after =
          LiveRunner.runner { live with registry := run.after.registry } := by
        have same := served_closed run.served
        rw [meets] at same
        obtain ⟨room, call, before, trace, returned, ⟨closed, registry⟩, path,
          served⟩ := run
        exact congrArg (Runner.mk · registry) same
      rw [← after] at lifecycle
      rw [← meets]
      exact .call lifecycle
  | close path rest induction =>
      obtain ⟨kept, closed, again⟩ := close_keeps keeps path
      obtain ⟨finally_, held, lifecycle⟩ := induction kept
      refine ⟨finally_, .inl ?_, .close ?_⟩
      · rcases held with ended | same
        · exact ended
        · rw [same]
          exact closed
      · rw [kept.runner] at lifecycle
        rw [Runner.close, keeps.runner]
        rw [closed] at lifecycle
        exact lifecycle

/-- Whatever raises, nothing stays open behind a construction that failed with
an `Exception`; and in every life of a constructed runner its resources are all
open before the first closing and all released behind it, each once and the last
first, while its calls go as those of a `Lifecycle`. -/
theorem runner_resources {checkpointDbPath : String} {defaultFactory : Bool}
    {trace : List (Dialogue.Exchange (SetupAnswer (γ := γ)))}
    {result : Except Raised (Held γ)}
    (constructed : (construct checkpointDbPath defaultFactory).Path trace
      result) :
    (∀ raised, result = .error raised →
      ∃ open_, openAfter [] (ExitStack.handlings handled trace) = some open_ ∧
        (raised.isException = true → open_ = [])) ∧
      ∀ held, result = .ok held → ∀ registry runs final,
        Life ⟨held, ExitStack.handlings handled trace, registry⟩ runs final →
        openAfter [] final.history = some (if final.held.closed = true then []
          else held.resources.map Exit.resource) ∧
        .connection ∈ held.resources.map Exit.resource ∧
        Lifecycle ⟨false, registry⟩ runs
          ⟨final.held.closed, final.registry⟩ := by
  constructor
  · rintro raised rfl
    exact construct_refused constructed
  · rintro held rfl registry runs final life
    obtain ⟨opened, keeps⟩ := construct_keeps constructed
    obtain ⟨kept, same, lifecycle⟩ := life.keeps keeps
    rw [kept.runner, keeps.runner, opened] at lifecycle
    refine ⟨?_, keeps.opened opened, lifecycle⟩
    rw [kept.accounted.open_]
    split
    · rename_i closed
      rw [kept.closed closed]
      rfl
    · rename_i living
      rw [same.resolve_left living]

/-- Every step of the construction succeeds. -/
def succeeding : (request : SetupRequest Unit) → SetupAnswer request
  | .checkpointerFactory _ => .ok ⟨(), true⟩
  | .exitCheckpointer _ _ => .ok false
  | .enterCheckpointer _ | .ensureParentDir _ | .graphFactory _ | .connect _
  | .createTable | .commit | .closeConnection => .ok ()

theorem runner_resources_default :
    ∃ trace held, (construct "/tmp/agent.db" true).Path trace (.ok held) ∧
      held.resources = [connectionExit, checkpointerExit ()] ∧
      ∀ registry runs final,
        Life ⟨held, ExitStack.handlings handled trace, registry⟩ runs final →
        openAfter [] final.history = some (if final.held.closed = true then []
          else [.connection, .checkpointer]) := by
  obtain ⟨trace, ran, path⟩ := Dialogue.converse_path
    (fun _ request => succeeding request)
    (construct "/tmp/agent.db" true) []
  refine ⟨trace, _, path, rfl, ?_⟩
  intro registry runs final life
  exact ((runner_resources path).2 _ rfl registry runs final life).1

end Lives

end PipelineOps.Runtime
