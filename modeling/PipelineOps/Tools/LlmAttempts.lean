import PipelineOps.Library.Retry
import PipelineOps.Tools.LlmClient

namespace PipelineOps.Tools

open PipelineOps.Library
open PipelineOps.Python

/-! The requests that a charged call makes, and when it makes another one. -/

namespace LlmExc

/-- The exceptions behind which the client tries again. -/
def Transient (exc : LlmExc) : Prop :=
  exc.llmClass = some .transientError ∨
    exc.llmClass = none ∧
      (∃ code ∈ retryableHttpStatusCodes, exc.httpCode = some code) ∨
    exc.llmClass = none ∧ exc.httpCode = none ∧ exc.connection

/-- The exceptions that are transient by what has happened, whoever raises
them. -/
def FailedRequest (exc : LlmExc) : Prop :=
  (∃ code ∈ retryableHttpStatusCodes, exc.httpCode = some code) ∨
    exc.httpCode = none ∧ exc.connection

theorem isException_of_transient {exc : LlmExc} (transient : exc.Transient) :
    exc.isException = true := by
  apply exc.derived
  rcases transient with known | ⟨-, code, -, known⟩ | ⟨-, -, known⟩
  · exact .inl (by rw [known]; rfl)
  · exact .inr (.inl (by rw [known]; rfl))
  · exact .inr (.inr (.inl known))

end LlmExc

/-- A request that was made, and what the parser said of the response if it was
asked. -/
structure Attempt where
  answer : Except LlmExc Response
  parsed : Option (Except LlmExc Value)

namespace Attempt

/-- `raises` tells which exceptions are transient. -/
inductive Transient (raises : LlmExc → Prop) : Attempt → Prop
  | requester {exc : LlmExc} {parsed : Option (Except LlmExc Value)}
      (raised : raises exc) : Transient raises ⟨.error exc, parsed⟩
  | unreadable {response : Response} {exc : LlmExc}
      {parsed : Option (Except LlmExc Value)}
      (status : response.status = some (.error exc)) (raised : raises exc) :
      Transient raises ⟨.ok response, parsed⟩
  | status {response : Response} {code : Int}
      {parsed : Option (Except LlmExc Value)}
      (status : response.status = some (.ok code))
      (retryable : code ∈ retryableHttpStatusCodes) :
      Transient raises ⟨.ok response, parsed⟩
  | parser {response : Response} {exc : LlmExc}
      (accepted : checkStatus response = .ok ())
      (unclassified : exc.invalid = false) (raised : raises exc) :
      Transient raises ⟨.ok response, some (.error exc)⟩

def outcome (attempt : Attempt) : Except LlmExc Value :=
  match attempt.answer with
  | .error exc => .error exc
  | .ok response =>
      match checkStatus response with
      | .error exc => .error exc
      | .ok () => (attempt.parsed.map parsedResponse).getD (.ok response.object)

/-- What the call ends with if this is its last attempt. -/
def result (attempt : Attempt) : Except LlmExc Value :=
  match attempt.outcome with
  | .ok value => .ok value
  | .error exc => .error (if exc.isException then classifyError exc else exc)

end Attempt

def parsedBy : List LlmExchange → Option (Except LlmExc Value)
  | ⟨.responseParser _, result⟩ :: _ => some result
  | _ => none

def attemptsOf : List LlmExchange → List Attempt
  | [] => []
  | ⟨.requester _, answer⟩ :: rest => ⟨answer, parsedBy rest⟩ :: attemptsOf rest
  | _ :: rest => attemptsOf rest

/-- At most four attempts; another one exactly behind transient ones, and the
result of the last. -/
def AttemptLaw (raises : LlmExc → Prop) (attempts : List Attempt)
    (result : Except LlmExc Value) : Prop :=
  ∃ failed last, attempts = failed ++ [last] ∧ failed.length ≤ 3 ∧
    (∀ attempt ∈ failed, attempt.Transient raises) ∧
    (failed.length < 3 → ¬ last.Transient raises) ∧ result = last.result

theorem httpStatusError_class_iff {code : Int} :
    (httpStatusError code).llmClass = some .transientError ↔
      code ∈ retryableHttpStatusCodes := by
  unfold httpStatusError
  split <;> simp_all [LlmExc.transientError, LlmExc.permanentError]

theorem httpStatusError_transient_iff {code : Int} :
    (httpStatusError code).Transient ↔ code ∈ retryableHttpStatusCodes := by
  unfold httpStatusError LlmExc.Transient
  split <;> simp_all [LlmExc.transientError, LlmExc.permanentError]

theorem classifyError_transient_iff {exc : LlmExc} :
    (classifyError exc).llmClass = some .transientError ↔ exc.Transient := by
  unfold classifyError LlmExc.Transient
  cases known : exc.llmClass with
  | some llmClass => simp [known]
  | none =>
      cases coded : exc.httpCode with
      | some code => simp [httpStatusError_class_iff]
      | none =>
          cases exc.connection <;>
            simp [LlmExc.transientError, LlmExc.permanentError]

theorem not_accepted_of_retryable {response : Response} {code : Int}
    (status : response.status = some (.ok code))
    (retryable : code ∈ retryableHttpStatusCodes) :
    checkStatus response = .error (httpStatusError code) := by
  have outside : ¬ (200 ≤ code ∧ code < 300) := by
    simp only [retryableHttpStatusCodes, List.mem_cons, List.not_mem_nil,
      or_false] at retryable
    omega
  rw [checkStatus, status]
  exact if_neg outside

theorem checkStatus_error {response : Response} {exc : LlmExc}
    (refused : checkStatus response = .error exc) :
    response.status = some (.error exc) ∨
      ∃ code, response.status = some (.ok code) ∧
        exc = httpStatusError code := by
  unfold checkStatus at refused
  cases status : response.status with
  | none => simp [status] at refused
  | some read =>
      rw [status] at refused
      cases read with
      | error raised => exact .inl (by rw [Except.error.inj refused])
      | ok code =>
          dsimp only at refused
          split at refused
          · cases refused
          · exact .inr ⟨code, rfl, (Except.error.inj refused).symm⟩

theorem parsedResponse_transient_iff {parsed : Except LlmExc Value}
    {exc : LlmExc} (transient : exc.Transient) :
    parsedResponse parsed = .error exc ↔
      parsed = .error exc ∧ exc.invalid = false := by
  cases parsed with
  | ok value => simp [parsedResponse]
  | error raised =>
      rw [parsedResponse]
      cases invalid : raised.invalid with
      | false =>
          constructor
          · intro same
            obtain rfl := Except.error.inj same
            exact ⟨rfl, invalid⟩
          · exact fun same => same.1
      | true =>
          constructor
          · intro same
            obtain rfl := Except.error.inj same
            simp [LlmExc.Transient, LlmExc.permanentError] at transient
          · intro same
            obtain ⟨raises, valid⟩ := same
            rw [Except.error.inj raises, valid] at invalid
            cases invalid

/-- An attempt is transient by what has happened in it exactly if the client
sees a transient exception. -/
theorem Attempt.transient_iff {attempt : Attempt} :
    attempt.Transient LlmExc.Transient ↔
      ∃ exc, attempt.outcome = .error exc ∧ exc.Transient := by
  obtain ⟨answer, parsed⟩ := attempt
  constructor
  · intro transient
    cases transient with
    | @requester exc _ raised => exact ⟨exc, rfl, raised⟩
    | @unreadable response exc _ status raised =>
        refine ⟨exc, ?_, raised⟩
        simp only [outcome, checkStatus, status]
    | @status response code _ status retryable =>
        refine ⟨httpStatusError code, ?_, ?_⟩
        · simp only [outcome, not_accepted_of_retryable status retryable]
        · exact httpStatusError_transient_iff.mpr retryable
    | @parser response exc accepted unclassified raised =>
        refine ⟨exc, ?_, raised⟩
        simp only [outcome, accepted, Option.map_some, Option.getD_some]
        exact (parsedResponse_transient_iff raised).mpr ⟨rfl, unclassified⟩
  · intro failed
    obtain ⟨exc, ended, raised⟩ := failed
    cases answer with
    | error refused =>
        obtain rfl := Except.error.inj ended
        exact .requester raised
    | ok response =>
        cases checked : checkStatus response with
        | error refused =>
            simp only [outcome, checked, Except.error.injEq] at ended
            subst ended
            rcases checkStatus_error checked with status | ⟨code, status, rfl⟩
            · exact .unreadable status raised
            · apply Transient.status status
              exact httpStatusError_transient_iff.mp raised
        | ok accepted =>
            simp only [outcome, checked] at ended
            cases parsed with
            | none => simp at ended
            | some parsed =>
                obtain ⟨rfl, unclassified⟩ :=
                  (parsedResponse_transient_iff raised).mp ended
                exact .parser checked unclassified raised

theorem attemptsOf_cons_requester {timeoutSeconds : Nat}
    (answer : Except LlmExc Response) (rest : List LlmExchange) :
    attemptsOf (⟨.requester timeoutSeconds, answer⟩ :: rest) =
      ⟨answer, parsedBy rest⟩ :: attemptsOf rest := rfl

/-- Behind an attempt no parser is asked. -/
theorem runAttempt_attempt {hasParser : Bool} {trace rest : List LlmExchange}
    {outcome : Except LlmExc Value}
    (path : (runAttempt hasParser).Path trace outcome)
    (behind : parsedBy rest = none) :
    ∃ attempt : Attempt, outcome = attempt.outcome ∧
      attemptsOf (trace ++ rest) = attempt :: attemptsOf rest := by
  unfold runAttempt at path
  cases path with
  | @ask _ _ answer trace _ path =>
      cases answer with
      | error exc =>
          obtain ⟨rfl, rfl⟩ := Dialogue.path_done_iff.mp path
          exact ⟨⟨.error exc, none⟩, rfl,
            by rw [List.cons_append, List.nil_append,
              attemptsOf_cons_requester, behind]⟩
      | ok response =>
          dsimp only at path
          cases checked : checkStatus response with
          | error exc =>
              rw [checked] at path
              obtain ⟨rfl, rfl⟩ := Dialogue.path_done_iff.mp path
              refine ⟨⟨.ok response, none⟩, ?_, ?_⟩
              · simp only [Attempt.outcome, checked]
              · rw [List.cons_append, List.nil_append,
                  attemptsOf_cons_requester, behind]
          | ok accepted =>
              rw [checked] at path
              cases hasParser with
              | false =>
                  obtain ⟨rfl, rfl⟩ := Dialogue.path_done_iff.mp path
                  refine ⟨⟨.ok response, none⟩, ?_, ?_⟩
                  · simp only [Attempt.outcome, checked]
                    rfl
                  · rw [List.cons_append, List.nil_append,
                      attemptsOf_cons_requester, behind]
              | true =>
                  cases path with
                  | @ask _ _ result trace _ path =>
                      obtain ⟨rfl, rfl⟩ := Dialogue.path_done_iff.mp path
                      refine ⟨⟨.ok response, some result⟩, ?_, rfl⟩
                      simp only [Attempt.outcome, checked]
                      rfl

/-- What the loop makes of an attempt that it does not follow by another. -/
theorem settleAttempt_last {attempt : Attempt}
    {retry : Option (LlmDialogue Value)}
    (last : retry = none ∨ ¬ attempt.Transient LlmExc.Transient) :
    settleAttempt retry attempt.outcome = .done attempt.result := by
  unfold Attempt.result
  cases ended : attempt.outcome with
  | ok value => rfl
  | error exc =>
      unfold settleAttempt
      dsimp only
      cases raised : exc.isException with
      | false => rfl
      | true =>
          simp only [Bool.not_true, Bool.false_eq_true, if_false, if_true]
          split
          · rename_i next transient
            rcases last with none_left | final
            · cases none_left
            · have seen := classifyError_transient_iff.mp transient
              exact absurd (Attempt.transient_iff.mpr ⟨exc, ended, seen⟩) final
          · rfl

theorem settleAttempt_again {attempt : Attempt} {next : LlmDialogue Value}
    (transient : attempt.Transient LlmExc.Transient) :
    settleAttempt (some next) attempt.outcome = next := by
  obtain ⟨exc, ended, raised⟩ := Attempt.transient_iff.mp transient
  rw [ended, settleAttempt, LlmExc.isException_of_transient raised,
    if_neg (by simp)]
  exact classifyError_transient_iff.mpr raised

theorem parsedBy_of_settled {delay : Nat} {next : Unit → LlmDialogue Value}
    {outcome result : Except LlmExc Value} {trace : List LlmExchange}
    (path : (settleAttempt (some (.ask (.sleep delay) next)) outcome).Path
      trace result) : parsedBy trace = none := by
  unfold settleAttempt at path
  split at path
  · obtain ⟨rfl, -⟩ := Dialogue.path_done_iff.mp path
    rfl
  · split at path
    · obtain ⟨rfl, -⟩ := Dialogue.path_done_iff.mp path
      rfl
    · split at path
      · rename_i next_ _ same
        obtain rfl := Option.some.inj same
        cases path
        rfl
      · obtain ⟨rfl, -⟩ := Dialogue.path_done_iff.mp path
        rfl

theorem attemptLoop_retried {hasParser : Bool} {delays : List Nat}
    {trace : List LlmExchange} {result : Except LlmExc Value}
    (path : (attemptLoop hasParser delays).Path trace result) :
    ∃ last, Retried (Attempt.Transient LlmExc.Transient) delays.length
      (attemptsOf trace) last ∧ result = last.result := by
  induction delays generalizing trace with
  | nil =>
      obtain ⟨outcome, first, second, rfl, tried, settled⟩ :=
        Dialogue.path_bind_iff.mp path
      obtain ⟨attempt, rfl, attempted⟩ :=
        @runAttempt_attempt hasParser first [] outcome tried rfl
      rw [settleAttempt_last (.inl rfl)] at settled
      obtain ⟨rfl, rfl⟩ := Dialogue.path_done_iff.mp settled
      rw [attempted]
      exact ⟨attempt, .exhausted attempt, rfl⟩
  | cons delay delays induction =>
      obtain ⟨outcome, first, second, rfl, tried, settled⟩ :=
        Dialogue.path_bind_iff.mp path
      obtain ⟨attempt, rfl, attempted⟩ :=
        runAttempt_attempt tried (parsedBy_of_settled settled)
      rw [attempted]
      by_cases transient : attempt.Transient LlmExc.Transient
      · rw [settleAttempt_again transient] at settled
        cases settled with
        | ask rest =>
            obtain ⟨last, retried, ended⟩ := induction rest
            exact ⟨last, .again transient retried, ended⟩
      · rw [settleAttempt_last (.inr transient)] at settled
        obtain ⟨rfl, rfl⟩ := Dialogue.path_done_iff.mp settled
        exact ⟨attempt, .settled transient, rfl⟩

theorem attemptLoop_law {hasParser : Bool} {trace : List LlmExchange}
    {result : Except LlmExc Value}
    (path : (attemptLoop hasParser retryDelaysSeconds).Path trace result) :
    AttemptLaw LlmExc.Transient (attemptsOf trace) result := by
  obtain ⟨last, retried, ended⟩ := attemptLoop_retried path
  obtain ⟨failed, attempts, bounded, transients, final⟩ := retried.split
  exact ⟨failed, last, attempts, bounded, transients, final, ended⟩

end PipelineOps.Tools
