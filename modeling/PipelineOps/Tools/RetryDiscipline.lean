import PipelineOps.Tools.DatabricksJobs

namespace PipelineOps.Tools

open PipelineOps.Library
open PipelineOps.Python
open PipelineOps.Orchestrator

/-! The retries of a live call, for every sequence of HTTP outcomes. -/

/-- The failures of a run-now request that may be retried. -/
inductive FailureKind where
  | timeout
  | api5xx
  deriving DecidableEq

namespace FailureKind

def ofExc (exc : Exc) : Option FailureKind :=
  if exc.cls = .timeoutError then some .timeout
  else if isHttp5xxError exc then some .api5xx
  else none

def exhausted : FailureKind → String
  | .timeout => "Databricks run-now timed out after retries"
  | .api5xx => "Databricks run-now failed with 5xx after retries"

theorem exhausted_injective {kind other : FailureKind}
    (same : kind.exhausted = other.exhausted) : kind = other := by
  cases kind <;> cases other <;> first | rfl | exact absurd same (by decide)

end FailureKind

section Loop

variable (python : Interpreter) (call : JobCall)

def runNowResult (outcome : UrlOpenOutcome) : Except Exc Value :=
  (readResponse python outcome).bind (submittedRun python call)

def probeResult (outcome : UrlOpenOutcome) : Option String :=
  ((readResponse python outcome).bind (activeRunId python)).toOption.join

def runNowExchange (outcome : UrlOpenOutcome) : HttpExchange :=
  ⟨call.runNowRequest, outcome⟩

def runsListExchange (outcome : UrlOpenOutcome) : HttpExchange :=
  ⟨call.runsListRequest, outcome⟩

/-- The failure of a run-now request, when it is one to retry. -/
def runNowFailure (outcome : UrlOpenOutcome) : Option FailureKind :=
  match runNowResult python call outcome with
  | .ok _ => none
  | .error exc => FailureKind.ofExc exc

/-- The runs of the loop with so many retries left for each kind of failure. -/
inductive Submission :
    (FailureKind → Nat) → List HttpExchange → Except Exc Value → Prop
  | stopped {left : FailureKind → Nat} {outcome : UrlOpenOutcome}
      (final : runNowFailure python call outcome = none) :
      Submission left [runNowExchange call outcome]
        (runNowResult python call outcome)
  | found {left : FailureKind → Nat} {outcome probe : UrlOpenOutcome}
      {kind : FailureKind} {runId : String}
      (failed : runNowFailure python call outcome = some kind)
      (active : probeResult python probe = some runId) :
      Submission left
        [runNowExchange call outcome, runsListExchange call probe]
        (.ok (call.submitted runId))
  | exhausted {left : FailureKind → Nat} {outcome probe : UrlOpenOutcome}
      {kind : FailureKind}
      (failed : runNowFailure python call outcome = some kind)
      (inactive : probeResult python probe = none)
      (spent : left kind = 0) :
      Submission left
        [runNowExchange call outcome, runsListExchange call probe]
        (.error (.runtimeError kind.exhausted))
  | again {left : FailureKind → Nat} {outcome probe : UrlOpenOutcome}
      {kind : FailureKind} {remaining : Nat} {trace : List HttpExchange}
      {returned : Except Exc Value}
      (failed : runNowFailure python call outcome = some kind)
      (inactive : probeResult python probe = none)
      (retries : left kind = remaining + 1)
      (rest : Submission (Function.update left kind remaining) trace returned) :
      Submission left
        (runNowExchange call outcome :: runsListExchange call probe :: trace)
        returned

end Loop

section Runs

variable {python : Interpreter} {call : JobCall}

def retriesLeft (timeoutRetriesLeft api5xxRetriesLeft : Nat) :
    FailureKind → Nat
  | .timeout => timeoutRetriesLeft
  | .api5xx => api5xxRetriesLeft

theorem update_timeout_retriesLeft (timeoutRetriesLeft api5xxRetriesLeft left :
    Nat) :
    Function.update (retriesLeft timeoutRetriesLeft api5xxRetriesLeft) .timeout
      left = retriesLeft left api5xxRetriesLeft := by
  funext kind
  cases kind <;> rfl

theorem update_api5xx_retriesLeft (timeoutRetriesLeft api5xxRetriesLeft left :
    Nat) :
    Function.update (retriesLeft timeoutRetriesLeft api5xxRetriesLeft) .api5xx
      left = retriesLeft timeoutRetriesLeft left := by
  funext kind
  cases kind <;> rfl

/-- A handler behind a run-now request that failed as `kind`. -/
theorem recover_submission {left : FailureKind → Nat} {kind : FailureKind}
    {retry : Option (HttpCall Value)} {outcome : UrlOpenOutcome}
    {trace : List HttpExchange} {returned : Except Exc Value}
    (failed : runNowFailure python call outcome = some kind)
    (spent : retry = none → left kind = 0)
    (retries : ∀ next, retry = some next → ∃ remaining,
      left kind = remaining + 1 ∧ ∀ trace returned, next.Path trace returned →
        Submission python call (Function.update left kind remaining) trace
          returned)
    (path : (recover python call kind.exhausted retry).Path trace returned) :
    Submission python call left (runNowExchange call outcome :: trace)
      returned := by
  rw [recover.eq_def, probeActiveRun_eq] at path
  cases path with
  | ask rest =>
      rename_i trace probe
      have probed : probeResult python probe = ((readResponse python
        probe).bind (activeRunId python)).toOption.join := rfl
      dsimp only [Dialogue.bind] at rest
      rw [← probed] at rest
      cases active : probeResult python probe with
      | some runId =>
          rw [active] at rest
          obtain ⟨rfl, rfl⟩ := Dialogue.path_done_iff.mp rest
          exact .found failed active
      | none =>
          rw [active] at rest
          cases retry with
          | none =>
              obtain ⟨rfl, rfl⟩ := Dialogue.path_done_iff.mp rest
              exact .exhausted failed active (spent rfl)
          | some next =>
              obtain ⟨remaining, more, runs⟩ := retries next rfl
              exact .again failed active more (runs _ _ rest)

/-- What the handler of a failure goes on with. -/
def retryOf (python : Interpreter) (call : JobCall)
    (timeoutRetriesLeft api5xxRetriesLeft : Nat) :
    FailureKind → Option (HttpCall Value)
  | .timeout =>
      match timeoutRetriesLeft with
      | 0 => none
      | left + 1 => some (submitLoop python call left api5xxRetriesLeft)
  | .api5xx =>
      match api5xxRetriesLeft with
      | 0 => none
      | left + 1 => some (submitLoop python call timeoutRetriesLeft left)

/-- A round of the loop: a run-now request, and the handler of its failure if
the failure has one. -/
theorem submitLoop_path {timeoutRetriesLeft api5xxRetriesLeft : Nat}
    {trace : List HttpExchange} {returned : Except Exc Value}
    (path : (submitLoop python call timeoutRetriesLeft
      api5xxRetriesLeft).Path trace returned) :
    ∃ outcome rest, trace = runNowExchange call outcome :: rest ∧
      (runNowFailure python call outcome = none ∧ rest = [] ∧
          returned = runNowResult python call outcome ∨
        ∃ kind, runNowFailure python call outcome = some kind ∧
          (recover python call kind.exhausted
            (retryOf python call timeoutRetriesLeft api5xxRetriesLeft
              kind)).Path rest returned) := by
  rw [submitLoop.eq_def, runNow_eq] at path
  cases path with
  | ask further =>
      rename_i rest outcome
      have response : (readResponse python outcome).bind
        (submittedRun python call) = runNowResult python call outcome := rfl
      dsimp only [Dialogue.bind] at further
      rw [response] at further
      refine ⟨outcome, rest, rfl, ?_⟩
      rw [runNowFailure]
      cases result : runNowResult python call outcome with
      | ok value =>
          rw [result] at further
          obtain ⟨rfl, rfl⟩ := Dialogue.path_done_iff.mp further
          exact .inl ⟨rfl, rfl, rfl⟩
      | error exc =>
          simp only [result] at further
          dsimp only
          rw [FailureKind.ofExc]
          by_cases late : exc.cls = .timeoutError
          · rw [if_pos late] at further ⊢
            exact .inr ⟨.timeout, rfl, further⟩
          · rw [if_neg late] at further ⊢
            by_cases serverError : isHttp5xxError exc = true
            · rw [if_pos serverError] at further ⊢
              exact .inr ⟨.api5xx, rfl, further⟩
            · rw [if_neg serverError] at further ⊢
              obtain ⟨rfl, rfl⟩ := Dialogue.path_done_iff.mp further
              exact .inl ⟨rfl, rfl, rfl⟩

theorem retryOf_eq_none_iff {timeoutRetriesLeft api5xxRetriesLeft : Nat}
    {kind : FailureKind} :
    retryOf python call timeoutRetriesLeft api5xxRetriesLeft kind = none ↔
      retriesLeft timeoutRetriesLeft api5xxRetriesLeft kind = 0 := by
  cases kind with
  | timeout => cases timeoutRetriesLeft <;> simp [retryOf, retriesLeft]
  | api5xx => cases api5xxRetriesLeft <;> simp [retryOf, retriesLeft]

theorem submitLoop_submission (timeoutRetriesLeft api5xxRetriesLeft : Nat)
    (trace : List HttpExchange) (returned : Except Exc Value)
    (path : (submitLoop python call timeoutRetriesLeft
      api5xxRetriesLeft).Path trace returned) :
    Submission python call
      (retriesLeft timeoutRetriesLeft api5xxRetriesLeft) trace returned := by
  induction timeoutRetriesLeft, api5xxRetriesLeft using submitLoop.induct
    generalizing trace returned with
  | case1 timeoutRetriesLeft api5xxRetriesLeft timedOut failed =>
      obtain ⟨outcome, rest, rfl, ended⟩ := submitLoop_path path
      rcases ended with ⟨final, rfl, rfl⟩ | ⟨kind, failure, recovers⟩
      · exact .stopped final
      · apply recover_submission failure retryOf_eq_none_iff.mp _ recovers
        intro next retry
        cases kind with
        | timeout =>
            obtain ⟨left, rfl, rfl⟩ := mem_retry_iff.mp retry
            refine ⟨left, rfl, ?_⟩
            rw [update_timeout_retriesLeft]
            exact timedOut
        | api5xx =>
            obtain ⟨left, rfl, rfl⟩ := mem_retry_iff.mp retry
            refine ⟨left, rfl, ?_⟩
            rw [update_api5xx_retriesLeft]
            exact failed

end Runs

def isRunNow (exchange : HttpExchange) : Bool := exchange.1.method == "POST"

def isRunsList (exchange : HttpExchange) : Bool := exchange.1.method == "GET"

section Discipline

variable (python : Interpreter) (call : JobCall)

def failsAs (kind : FailureKind) (exchange : HttpExchange) : Bool :=
  isRunNow exchange && runNowFailure python call exchange.2 == some kind

/-- The failures of this kind that another run-now request follows. -/
def retriesAfter (kind : FailureKind) : List HttpExchange → Nat
  | [] => 0
  | exchange :: rest =>
      (if failsAs python call kind exchange && rest.any isRunNow then 1
        else 0) + retriesAfter kind rest

/-- A run-now success, a failure that is not retried, or an active run. -/
def SettlesCall (exchange : HttpExchange) : Prop :=
  (isRunNow exchange = true ∧
    runNowFailure python call exchange.2 = none) ∨
  isRunsList exchange = true ∧ (probeResult python exchange.2).isSome

/-- The trace ends with a failure of this kind, for which no retry is left, and
a probe without an active run. -/
def EndsExhausted (kind : FailureKind) (retries : Nat)
    (trace : List HttpExchange) : Prop :=
  ∃ earlier failure probe, trace = earlier ++ [failure, probe] ∧
    failsAs python call kind failure = true ∧
    isRunsList probe = true ∧ probeResult python probe.2 = none ∧
    earlier.countP (failsAs python call kind) = retries

def EndsWithProbe (trace : List HttpExchange) : Prop :=
  ∃ earlier probe, trace = earlier ++ [probe] ∧ isRunsList probe = true

structure SubmissionDiscipline (trace : List HttpExchange)
    (returned : Except Exc Value) : Prop where
  requests : ∀ exchange ∈ trace, call.Requests exchange.1
  runNows : trace.countP isRunNow ≤ 5
  probes : trace.countP isRunsList ≤ 5
  timeoutRetries : retriesAfter python call .timeout trace ≤ 2
  api5xxRetries : retriesAfter python call .api5xx trace ≤ 2
  probedBefore : ∀ before exchange after, trace = before ++ exchange :: after →
    isRunNow exchange = true → before = [] ∨ EndsWithProbe before
  settled : ∀ before exchange after, trace = before ++ exchange :: after →
    SettlesCall python call exchange →
    ∀ later ∈ after, isRunNow later = false
  submits : ∃ outcome rest, trace = runNowExchange call outcome :: rest
  /-- Without a probe behind it, a run-now request has the last word. -/
  stopped : ∀ earlier exchange, trace = earlier ++ [exchange] →
    isRunNow exchange = true →
      runNowFailure python call exchange.2 = none ∧
      returned = runNowResult python call exchange.2
  adopted : ∀ earlier exchange runId, trace = earlier ++ [exchange] →
    isRunsList exchange = true → probeResult python exchange.2 = some runId →
      returned = .ok (call.submitted runId)
  spent : ∀ earlier exchange, trace = earlier ++ [exchange] →
    isRunsList exchange = true → probeResult python exchange.2 = none →
      ∃ kind, EndsExhausted python call kind 2 trace
  exhausts : ∀ kind,
    returned = .error (.runtimeError kind.exhausted) ∧ EndsWithProbe trace ↔
      EndsExhausted python call kind 2 trace

end Discipline

section Laws

variable {python : Interpreter} {call : JobCall}
  {left : FailureKind → Nat} {trace : List HttpExchange}
  {returned : Except Exc Value}

@[simp] theorem isRunNow_runNowExchange (outcome : UrlOpenOutcome) :
    isRunNow (runNowExchange call outcome) = true := rfl

@[simp] theorem isRunsList_runNowExchange (outcome : UrlOpenOutcome) :
    isRunsList (runNowExchange call outcome) = false := rfl

@[simp] theorem isRunNow_runsListExchange (outcome : UrlOpenOutcome) :
    isRunNow (runsListExchange call outcome) = false := rfl

@[simp] theorem isRunsList_runsListExchange (outcome : UrlOpenOutcome) :
    isRunsList (runsListExchange call outcome) = true := rfl

@[simp] theorem failsAs_runNowExchange {kind failed : FailureKind}
    {outcome : UrlOpenOutcome}
    (fails : runNowFailure python call outcome = some failed) :
    failsAs python call kind (runNowExchange call outcome) =
      decide (failed = kind) := by
  have failure :
      runNowFailure python call (runNowExchange call outcome).2 =
        some failed := fails
  rw [failsAs, isRunNow_runNowExchange, Bool.true_and, failure]
  by_cases same : failed = kind <;> simp [same]

@[simp] theorem failsAs_runsListExchange (kind : FailureKind)
    (outcome : UrlOpenOutcome) :
    failsAs python call kind (runsListExchange call outcome) = false := rfl

theorem Submission.ne_nil
    (runs : Submission python call left trace returned) : trace ≠ [] := by
  cases runs <;> exact List.cons_ne_nil _ _

theorem Submission.requests
    (runs : Submission python call left trace returned) :
    ∀ exchange ∈ trace, call.Requests exchange.1 := by
  induction runs with
  | stopped final => simp [runNowExchange, JobCall.Requests]
  | found failed active =>
      simp [runNowExchange, runsListExchange, JobCall.Requests]
  | exhausted failed inactive spent =>
      simp [runNowExchange, runsListExchange, JobCall.Requests]
  | again failed inactive retries rest induction =>
      intro exchange member
      rcases List.mem_cons.mp member with rfl | member
      · exact .inl rfl
      · rcases List.mem_cons.mp member with rfl | member
        · exact .inr rfl
        · exact induction exchange member

/-- A retry takes one of the retries that are left. -/
theorem retries_sum {kind : FailureKind} {remaining : Nat}
    (retries : left kind = remaining + 1) :
    left .timeout + left .api5xx =
      Function.update left kind remaining .timeout +
        Function.update left kind remaining .api5xx + 1 := by
  cases kind with
  | timeout =>
      rw [Function.update_self, Function.update_of_ne (by decide), retries]
      omega
  | api5xx =>
      rw [Function.update_self, Function.update_of_ne (by decide), retries]
      omega

theorem Submission.runNows
    (runs : Submission python call left trace returned) :
    trace.countP isRunNow ≤ left .timeout + left .api5xx + 1 := by
  induction runs with
  | stopped final => simp
  | found failed active => simp [List.countP_cons]
  | exhausted failed inactive spent => simp [List.countP_cons]
  | again failed inactive retries rest induction =>
      simp only [List.countP_cons, isRunNow_runNowExchange,
        isRunNow_runsListExchange]
      rw [retries_sum retries]
      simpa using induction

theorem Submission.probes
    (runs : Submission python call left trace returned) :
    trace.countP isRunsList ≤ left .timeout + left .api5xx + 1 := by
  induction runs with
  | stopped final => simp
  | found failed active => simp [List.countP_cons]
  | exhausted failed inactive spent => simp [List.countP_cons]
  | again failed inactive retries rest induction =>
      simp only [List.countP_cons, isRunsList_runNowExchange,
        isRunsList_runsListExchange]
      rw [retries_sum retries]
      simpa using induction

theorem Submission.retries (kind : FailureKind)
    (runs : Submission python call left trace returned) :
    retriesAfter python call kind trace ≤ left kind := by
  induction runs with
  | stopped final => simp [retriesAfter]
  | found failed active => simp [retriesAfter]
  | exhausted failed inactive spent => simp [retriesAfter]
  | again failed inactive retries rest induction =>
      rename_i left outcome probe failure remaining trace returned
      rw [retriesAfter, retriesAfter, failsAs_runNowExchange failed,
        failsAs_runsListExchange]
      by_cases same : failure = kind
      · subst same
        rw [Function.update_self] at induction
        rw [retries]
        split <;> simp <;> omega
      · rw [Function.update_of_ne (Ne.symm same)] at induction
        simpa [same] using induction

/-- An exchange of a trace that starts with a request and its probe. -/
theorem round_split {request probe exchange : HttpExchange}
    {before after : List HttpExchange}
    (parts : request :: probe :: trace = before ++ exchange :: after) :
    before = [] ∧ exchange = request ∧ after = probe :: trace ∨
      before = [request] ∧ exchange = probe ∧ after = trace ∨
      ∃ others, before = request :: probe :: others ∧
        trace = others ++ exchange :: after := by
  cases before with
  | nil =>
      obtain ⟨rfl, rfl⟩ := List.cons.inj parts
      exact .inl ⟨rfl, rfl, rfl⟩
  | cons first before =>
      obtain ⟨rfl, behind⟩ := List.cons.inj parts
      cases before with
      | nil =>
          obtain ⟨rfl, rfl⟩ := List.cons.inj behind
          exact .inr (.inl ⟨rfl, rfl, rfl⟩)
      | cons second others =>
          obtain ⟨rfl, rest⟩ := List.cons.inj behind
          exact .inr (.inr ⟨others, rfl, rest⟩)

theorem single_split {request exchange : HttpExchange}
    {before after : List HttpExchange}
    (split : [request] = before ++ exchange :: after) :
    before = [] ∧ exchange = request ∧ after = [] := by
  cases before with
  | nil =>
      obtain ⟨rfl, rfl⟩ := List.cons.inj split
      exact ⟨rfl, rfl, rfl⟩
  | cons first before => simp at split

theorem EndsWithProbe.cons {exchange : HttpExchange}
    (ends : EndsWithProbe trace) : EndsWithProbe (exchange :: trace) := by
  obtain ⟨earlier, probe, rfl, probes⟩ := ends
  exact ⟨exchange :: earlier, probe, rfl, probes⟩

theorem endsWithProbe_round (outcome probe : UrlOpenOutcome) :
    EndsWithProbe [runNowExchange call outcome, runsListExchange call probe] :=
  ⟨[_], _, rfl, rfl⟩

theorem not_endsWithProbe_runNow (outcome : UrlOpenOutcome) :
    ¬ EndsWithProbe [runNowExchange call outcome] := by
  intro ends
  obtain ⟨earlier, probe, split, probes⟩ := ends
  obtain ⟨-, rfl, -⟩ := single_split split
  cases probes

/-- Behind the first run-now request each one follows a probe. -/
theorem Submission.probedBefore
    (runs : Submission python call left trace returned) :
    ∀ before exchange after, trace = before ++ exchange :: after →
      isRunNow exchange = true → before = [] ∨ EndsWithProbe before := by
  have round : ∀ (outcome probe : UrlOpenOutcome) trace,
      (∀ before exchange after, trace = before ++ exchange :: after →
        isRunNow exchange = true → before = [] ∨ EndsWithProbe before) →
      ∀ before exchange after,
        runNowExchange call outcome :: runsListExchange call probe :: trace =
          before ++ exchange :: after →
        isRunNow exchange = true → before = [] ∨ EndsWithProbe before := by
    intro outcome probe trace rest before exchange after split posts
    rcases round_split split with
      ⟨rfl, -, -⟩ | ⟨-, rfl, -⟩ | ⟨others, rfl, behind⟩
    · exact .inl rfl
    · cases posts
    · rcases rest others exchange after behind posts with rfl | ends
      · exact .inr (endsWithProbe_round outcome probe)
      · exact .inr ends.cons.cons
  have nothing : ∀ before (exchange : HttpExchange) after,
      [] = before ++ exchange :: after →
      isRunNow exchange = true → before = [] ∨ EndsWithProbe before := by
    intro before exchange after split
    simp at split
  induction runs with
  | stopped final =>
      intro before exchange after split posts
      exact .inl (single_split split).1
  | found failed active => exact round _ _ _ nothing
  | exhausted failed inactive spent => exact round _ _ _ nothing
  | again failed inactive retries rest induction =>
      exact round _ _ _ induction

theorem settlesCall_runNowExchange_iff {outcome : UrlOpenOutcome} :
    SettlesCall python call (runNowExchange call outcome) ↔
      runNowFailure python call outcome = none := by
  simp only [SettlesCall, isRunNow_runNowExchange, isRunsList_runNowExchange]
  simp [runNowExchange]

theorem settlesCall_runsListExchange_iff {probe : UrlOpenOutcome} :
    SettlesCall python call (runsListExchange call probe) ↔
      (probeResult python probe).isSome := by
  simp only [SettlesCall, isRunNow_runsListExchange,
    isRunsList_runsListExchange]
  simp [runsListExchange]

/-- What settles the call is the end of the trace. -/
theorem Submission.settled
    (runs : Submission python call left trace returned) :
    ∀ before exchange after, trace = before ++ exchange :: after →
      SettlesCall python call exchange → after = [] := by
  have round : ∀ (outcome probe : UrlOpenOutcome) kind trace,
      runNowFailure python call outcome = some kind →
      ((probeResult python probe).isSome → trace = []) →
      (∀ before exchange after, trace = before ++ exchange :: after →
        SettlesCall python call exchange → after = []) →
      ∀ before exchange after,
        runNowExchange call outcome :: runsListExchange call probe :: trace =
          before ++ exchange :: after →
        SettlesCall python call exchange → after = [] := by
    intro outcome probe kind trace failed ends rest before exchange after split
      settles
    rcases round_split split with
      ⟨-, rfl, -⟩ | ⟨-, rfl, rfl⟩ | ⟨others, -, behind⟩
    · rw [settlesCall_runNowExchange_iff, failed] at settles
      cases settles
    · exact ends (settlesCall_runsListExchange_iff.mp settles)
    · exact rest others exchange after behind settles
  have nothing : ∀ before (exchange : HttpExchange) after,
      [] = before ++ exchange :: after →
      SettlesCall python call exchange → after = [] := by
    intro before exchange after split
    simp at split
  induction runs with
  | stopped final =>
      intro before exchange after split settles
      exact (single_split split).2.2
  | found failed active =>
      exact round _ _ _ _ failed (fun _ => rfl) nothing
  | exhausted failed inactive spent =>
      exact round _ _ _ _ failed (fun _ => rfl) nothing
  | again failed inactive retries rest induction =>
      apply round _ _ _ _ failed _ induction
      rw [inactive]
      exact nofun

/-- One failure more, one retry less. -/
theorem countP_failsAs_round {kind failed : FailureKind} {remaining : Nat}
    {outcome probe : UrlOpenOutcome} {others : List HttpExchange}
    (fails : runNowFailure python call outcome = some failed)
    (retries : left failed = remaining + 1) :
    (runNowExchange call outcome :: runsListExchange call probe ::
        others).countP (failsAs python call kind) = left kind ↔
      others.countP (failsAs python call kind) =
        Function.update left failed remaining kind := by
  simp only [List.countP_cons, failsAs_runNowExchange fails,
    failsAs_runsListExchange]
  by_cases same : failed = kind
  · subst same
    rw [Function.update_self, retries]
    simp
  · rw [Function.update_of_ne (Ne.symm same)]
    simp [same]

theorem Submission.exhausts_of_endsExhausted {kind : FailureKind}
    (runs : Submission python call left trace returned)
    (exhausts : EndsExhausted python call kind (left kind) trace) :
    returned = .error (.runtimeError kind.exhausted) := by
  induction runs with
  | stopped final =>
      obtain ⟨earlier, failure, probe, parts, -⟩ := exhausts
      obtain ⟨-, -, ended⟩ := single_split parts
      cases ended
  | found failed active =>
      obtain ⟨earlier, failure, probe, parts, -, -, inactive, -⟩ := exhausts
      rcases round_split parts with
        ⟨-, -, ended⟩ | ⟨-, -, ended⟩ | ⟨others, -, behind⟩
      · obtain rfl := List.singleton_inj.mp ended
        cases inactive.symm.trans active
      · cases ended
      · simp at behind
  | exhausted failed inactive spent =>
      obtain ⟨earlier, failure, probe, parts, fails, -⟩ := exhausts
      rcases round_split parts with
        ⟨-, rfl, -⟩ | ⟨-, -, ended⟩ | ⟨others, -, behind⟩
      · rw [failsAs_runNowExchange failed, decide_eq_true_eq] at fails
        rw [fails]
      · cases ended
      · simp at behind
  | again failed inactive retries rest induction =>
      rename_i left outcome probe failed remaining trace returned
      apply induction
      obtain ⟨earlier, failure, last, parts, fails, probes, unlisted,
        counted⟩ := exhausts
      rcases round_split parts with
        ⟨-, -, ended⟩ | ⟨-, rfl, -⟩ | ⟨others, rfl, behind⟩
      · exact absurd (List.cons.inj ended).2.symm rest.ne_nil
      · cases fails
      · exact ⟨others, failure, last, behind, fails, probes, unlisted,
          (countP_failsAs_round failed retries).mp counted⟩

theorem EndsWithProbe.of_cons {exchange : HttpExchange}
    (ends : EndsWithProbe (exchange :: trace)) (more : trace ≠ []) :
    EndsWithProbe trace := by
  obtain ⟨earlier, probe, parts, probes⟩ := ends
  cases earlier with
  | nil => exact absurd (List.cons.inj parts).2 more
  | cons first others =>
      exact ⟨others, probe, (List.cons.inj parts).2, probes⟩

theorem Submission.endsExhausted_of_exhausts {kind : FailureKind}
    (runs : Submission python call left trace returned)
    (raised : returned = .error (.runtimeError kind.exhausted))
    (ends : EndsWithProbe trace) :
    EndsExhausted python call kind (left kind) trace := by
  induction runs with
  | stopped final => exact absurd ends (not_endsWithProbe_runNow _)
  | found failed active => cases raised
  | exhausted failed inactive spent =>
      have text := congrArg Exc.message (Except.error.inj raised)
      obtain rfl := FailureKind.exhausted_injective text
      refine ⟨[], _, _, rfl, ?_, rfl, inactive, spent.symm⟩
      rw [failsAs_runNowExchange failed]
      exact decide_eq_true rfl
  | again failed inactive retries rest induction =>
      have more := ends.of_cons (List.cons_ne_nil _ _) |>.of_cons rest.ne_nil
      obtain ⟨earlier, failure, probe, rfl, fails, probes, unlisted, counted⟩ :=
        induction raised more
      exact ⟨_ :: _ :: earlier, failure, probe, rfl, fails, probes, unlisted,
        (countP_failsAs_round failed retries).mpr counted⟩

theorem Submission.submits
    (runs : Submission python call left trace returned) :
    ∃ outcome rest, trace = runNowExchange call outcome :: rest := by
  cases runs <;> exact ⟨_, _, rfl⟩

/-- A run ends with a run-now request that settles the call, with an active run
behind a failed one, or with a probe that found none. -/
theorem Submission.ends
    (runs : Submission python call left trace returned) :
    (∃ earlier outcome, trace = earlier ++ [runNowExchange call outcome] ∧
      runNowFailure python call outcome = none ∧
      returned = runNowResult python call outcome) ∨
    (∃ earlier outcome probe kind runId,
      trace = earlier ++
        [runNowExchange call outcome, runsListExchange call probe] ∧
      runNowFailure python call outcome = some kind ∧
      probeResult python probe = some runId ∧
      returned = .ok (call.submitted runId)) ∨
    ∃ earlier outcome probe kind,
      trace = earlier ++
        [runNowExchange call outcome, runsListExchange call probe] ∧
      probeResult python probe = none ∧
      returned = .error (.runtimeError (FailureKind.exhausted kind)) := by
  induction runs with
  | stopped final => exact .inl ⟨[], _, rfl, final, rfl⟩
  | found failed active =>
      exact .inr (.inl ⟨[], _, _, _, _, rfl, failed, active, rfl⟩)
  | exhausted failed inactive spent =>
      exact .inr (.inr ⟨[], _, _, _, rfl, inactive, rfl⟩)
  | again failed inactive retries rest induction =>
      rcases induction with
        ⟨earlier, outcome, rfl, final⟩ |
        ⟨earlier, outcome, probe, kind, runId, rfl, found⟩ |
        ⟨earlier, outcome, probe, kind, rfl, exhausts⟩
      · exact .inl ⟨_ :: _ :: earlier, outcome, rfl, final⟩
      · exact .inr (.inl
          ⟨_ :: _ :: earlier, outcome, probe, kind, runId, rfl, found⟩)
      · exact .inr (.inr
          ⟨_ :: _ :: earlier, outcome, probe, kind, rfl, exhausts⟩)

/-- A run that the call reports comes from a run-now response, or from the probe
behind a failed run-now request. -/
theorem Submission.returns {value : Value}
    (runs : Submission python call left trace returned)
    (reported : returned = .ok value) :
    (∃ earlier outcome, trace = earlier ++ [runNowExchange call outcome] ∧
      runNowResult python call outcome = .ok value) ∨
    ∃ earlier outcome probe kind runId,
      trace = earlier ++
        [runNowExchange call outcome, runsListExchange call probe] ∧
      runNowFailure python call outcome = some kind ∧
      probeResult python probe = some runId ∧
      value = call.submitted runId := by
  rcases runs.ends with
    ⟨earlier, outcome, same, -, result⟩ |
    ⟨earlier, outcome, probe, kind, runId, same, fails, active, found⟩ |
    ⟨-, -, -, kind, -, -, raised⟩
  · exact .inl ⟨earlier, outcome, same, result.symm.trans reported⟩
  · exact .inr ⟨earlier, outcome, probe, kind, runId, same, fails, active,
      Except.ok.inj (reported.symm.trans found)⟩
  · cases raised.symm.trans reported

theorem last_eq {earlier others : List HttpExchange}
    {exchange last : HttpExchange}
    (same : earlier ++ [exchange] = others ++ [last]) : exchange = last := by
  have ends := congrArg List.getLast? same
  rw [List.getLast?_concat, List.getLast?_concat] at ends
  exact Option.some.inj ends

/-- What the last exchange of a run decides. -/
theorem Submission.last {earlier : List HttpExchange} {exchange : HttpExchange}
    (runs : Submission python call left (earlier ++ [exchange]) returned) :
    (isRunsList exchange = false ∧
      runNowFailure python call exchange.2 = none ∧
      returned = runNowResult python call exchange.2) ∨
    isRunNow exchange = false ∧
      ((∃ runId, probeResult python exchange.2 = some runId ∧
          returned = .ok (call.submitted runId)) ∨
        probeResult python exchange.2 = none ∧ ∃ kind : FailureKind,
          returned = .error (.runtimeError kind.exhausted)) := by
  rcases runs.ends with
    ⟨others, outcome, same, final, result⟩ |
    ⟨others, outcome, probe, kind, runId, same, -, active, found⟩ |
    ⟨others, outcome, probe, kind, same, inactive, raised⟩
  · obtain rfl := last_eq same
    exact .inl ⟨rfl, final, result⟩
  · rw [List.append_cons others] at same
    obtain rfl := last_eq same
    exact .inr ⟨rfl, .inl ⟨runId, active, found⟩⟩
  · rw [List.append_cons others] at same
    obtain rfl := last_eq same
    exact .inr ⟨rfl, .inr ⟨inactive, kind, raised⟩⟩

/-- The result of a successful run-now request names the run. -/
theorem runNowResult_ok {outcome : UrlOpenOutcome} {value : Value}
    (result : runNowResult python call outcome = .ok value) :
    ∃ runId, value = call.submitted runId := by
  rw [runNowResult] at result
  cases response : readResponse python outcome with
  | error exc =>
      rw [response] at result
      cases result
  | ok payload =>
      rw [response] at result
      dsimp only [Except.bind] at result
      unfold submittedRun at result
      split at result
      · cases result
      · obtain ⟨runId, -, rfl⟩ := map_ok_iff.mp result
        exact ⟨runId, rfl⟩

theorem Submission.discipline
    (runs : Submission python call
      (retriesLeft maxTimeoutRetries max5xxRetries) trace returned) :
    SubmissionDiscipline python call trace returned where
  requests := runs.requests
  runNows := runs.runNows
  probes := runs.probes
  timeoutRetries := runs.retries .timeout
  api5xxRetries := runs.retries .api5xx
  probedBefore := runs.probedBefore
  settled := by
    intro before exchange after split settles later member
    rw [runs.settled before exchange after split settles] at member
    cases member
  submits := runs.submits
  stopped := by
    rintro earlier exchange rfl posts
    rcases runs.last with ⟨-, final, result⟩ | ⟨probes, -⟩
    · exact ⟨final, result⟩
    · cases probes.symm.trans posts
  adopted := by
    rintro earlier exchange runId rfl lists active
    rcases runs.last with ⟨posts, -⟩ | ⟨-, found | ⟨inactive, -⟩⟩
    · cases posts.symm.trans lists
    · obtain ⟨other, same, returns⟩ := found
      rw [returns, Option.some.inj (active.symm.trans same)]
    · cases inactive.symm.trans active
  spent := by
    rintro earlier exchange rfl lists inactive
    rcases runs.last with ⟨posts, -⟩ | ⟨-, found | ⟨-, kind, raised⟩⟩
    · cases posts.symm.trans lists
    · obtain ⟨runId, active, -⟩ := found
      cases inactive.symm.trans active
    · have exhausted := runs.endsExhausted_of_exhausts raised
        ⟨earlier, exchange, rfl, lists⟩
      refine ⟨kind, ?_⟩
      cases kind <;> exact exhausted
  exhausts := by
    intro kind
    have retries :
        retriesLeft maxTimeoutRetries max5xxRetries kind = 2 := by
      cases kind <;> rfl
    constructor
    · intro raised
      exact retries ▸ runs.endsExhausted_of_exhausts raised.1 raised.2
    · intro exhausts
      refine ⟨runs.exhausts_of_endsExhausted (retries ▸ exhausts), ?_⟩
      obtain ⟨earlier, failure, probe, rfl, -, probes, -⟩ := exhausts
      exact ⟨earlier ++ [failure], probe, by simp, probes⟩

end Laws

section Main

variable {python : Interpreter} {env : SecretEnv} {base : BaseModel}
  {jobs : JobsConfig} {action : Value} {parameters : JsonObject}
  {call : JobCall}

/-- Each exchange has the outcome at its place in the sequence. -/
def Follows (outcomes : Nat → UrlOpenOutcome) (trace : List HttpExchange) :
    Prop :=
  ∀ before exchange after, trace = before ++ exchange :: after →
    exchange.2 = outcomes before.length

end Main

end PipelineOps.Tools
