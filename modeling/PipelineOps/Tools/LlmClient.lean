import PipelineOps.Library.Dialogue
import PipelineOps.Library.Dict
import PipelineOps.Orchestrator.Time

namespace PipelineOps.Tools

open PipelineOps.Library
open PipelineOps.Python
open PipelineOps.Orchestrator

inductive LlmErrorClass where
  | error
  | transientError
  | permanentError
  | dailyCapExceeded
  deriving DecidableEq

/-- What the client looks at in an exception: whether it is an `Exception` at
all, its nearest class among the `LLMError`s, the code if it is an `HTTPError`,
whether it is a `TimeoutError`, `ConnectionError` or `URLError`, whether it is a
`TypeError` or `ValueError`, and its texts. -/
structure LlmExc where
  isException : Bool
  llmClass : Option LlmErrorClass
  httpCode : Option Int
  connection : Bool
  invalid : Bool
  className : String
  text : String
  derived : llmClass.isSome ∨ httpCode.isSome ∨ connection ∨ invalid →
    isException
  deriving DecidableEq

namespace LlmExc

def transientError (text : String) : LlmExc where
  isException := true
  llmClass := some .transientError
  httpCode := none
  connection := false
  invalid := false
  className := "LLMTransientError"
  text := text
  derived := fun _ => rfl

def permanentError (text : String) : LlmExc where
  isException := true
  llmClass := some .permanentError
  httpCode := none
  connection := false
  invalid := false
  className := "LLMPermanentError"
  text := text
  derived := fun _ => rfl

def dailyCapExceeded (text : String) : LlmExc where
  isException := true
  llmClass := some .dailyCapExceeded
  httpCode := none
  connection := false
  invalid := false
  className := "LLMDailyCapExceeded"
  text := text
  derived := fun _ => rfl

/-- `str(exc).strip() or exc.__class__.__name__`. -/
def reason (exc : LlmExc) : String :=
  if strip exc.text = "" then exc.className else strip exc.text

end LlmExc

def requestTimeoutSeconds : Nat := 60

def retryDelaysSeconds : List Nat := [2, 4, 8]

def retryableHttpStatusCodes : List Int := [408, 425, 429, 500, 502, 503, 504]

def defaultLlmDailyCap : Int := 30

def defaultCheckpointDbPath : String := "checkpoints/agent.db"

def httpStatusError (code : Int) : LlmExc :=
  let text := "http status " ++ toString code
  if code ∈ retryableHttpStatusCodes then .transientError text
  else .permanentError text

def classifyError (exc : LlmExc) : LlmExc :=
  if exc.llmClass.isSome then exc
  else
    match exc.httpCode with
    | some code => httpStatusError code
    | none =>
        if exc.connection then .transientError exc.reason
        else .permanentError exc.reason

/-- What a requester returns: `int` of its `status`, unless there is none, and
the object itself. -/
structure Response where
  status : Option (Except LlmExc Int)
  object : Value

/-- What `invoke_llm` asks of the file system, the clock, the database and its
own arguments. A statement on the database is here with its connection and, for
the upsert, with the commit of its transaction. -/
inductive LlmRequest where
  | makeParentDir (dbPath : String)
  | now (zone : Zone)
  | createUsageTable (dbPath : String)
  | upsertUsage (dbPath dayKey : String) (dailyCap : Int)
  | requester (timeoutSeconds : Nat)
  | responseParser (response : Response)
  | sleep (seconds : Nat)

abbrev LlmAnswer : LlmRequest → Type
  | .makeParentDir _ => Except LlmExc Unit
  | .now _ => DateTime
  | .createUsageTable _ => Except LlmExc Unit
  | .upsertUsage .. => Except LlmExc Int
  | .requester _ => Except LlmExc Response
  | .responseParser _ => Except LlmExc Value
  | .sleep _ => Unit

abbrev LlmDialogue (α : Type) := Dialogue LlmAnswer (Except LlmExc α)

abbrev LlmExchange := Dialogue.Exchange LlmAnswer

def parseDailyCap (raw : Option String) : Except LlmExc Int :=
  match raw with
  | none => .ok defaultLlmDailyCap
  | some text =>
      if strip text = "" then .ok defaultLlmDailyCap
      else
        match Value.parseInt text with
        | none => .error (.permanentError "LLM_DAILY_CAP must be an integer")
        | some cap =>
            if cap ≤ 0 then .error
              (.permanentError "LLM_DAILY_CAP must be a positive integer")
            else .ok cap

def isoDate : Nat × Nat × Nat → String
  | (year, month, day) =>
      padded 4 year ++ "-" ++ padded 2 month ++ "-" ++ padded 2 day

/-- `_today_kst_key` at the moment `now` of the clock. -/
def todayKstKey (now : DateTime) : String := isoDate now.date

def ensureParentDir (dbPath : String) : LlmDialogue Unit :=
  if dbPath = ":memory:" then .done (.ok ())
  else .ask (.makeParentDir dbPath) .done

def consumeDailyBudget (dbPath : String) (dailyCap : Int) :
    LlmDialogue Bool :=
  (ensureParentDir dbPath).bind fun
    | .error exc => .done (.error exc)
    | .ok () =>
        .ask (.now kst) fun now =>
          .ask (.createUsageTable dbPath) fun
            | .error exc => .done (.error exc)
            | .ok () =>
                .ask (.upsertUsage dbPath (todayKstKey now) dailyCap) fun
                  | .error exc => .done (.error exc)
                  | .ok rowcount => .done (.ok (rowcount == 1))

def checkStatus (response : Response) : Except LlmExc Unit :=
  match response.status with
  | none => .ok ()
  | some (.error exc) => .error exc
  | some (.ok statusCode) =>
      if 200 ≤ statusCode ∧ statusCode < 300 then .ok ()
      else .error (httpStatusError statusCode)

/-- The answer of the response parser as the attempt passes it on. -/
def parsedResponse : Except LlmExc Value → Except LlmExc Value
  | .ok value => .ok value
  | .error exc =>
      if exc.invalid then
        .error (.permanentError "response parse/validation failure")
      else .error exc

/-- The body of the loop's `try`. -/
def runAttempt (hasParser : Bool) : LlmDialogue Value :=
  .ask (.requester requestTimeoutSeconds) fun
    | .error exc => .done (.error exc)
    | .ok response =>
        match checkStatus response with
        | .error exc => .done (.error exc)
        | .ok () =>
            if hasParser then
              .ask (.responseParser response) fun result =>
                .done (parsedResponse result)
            else .done (.ok response.object)

/-- How the loop goes on behind an attempt: `retry` is there unless it was the
last one. -/
def settleAttempt (retry : Option (LlmDialogue Value)) :
    Except LlmExc Value → LlmDialogue Value
  | .ok value => .done (.ok value)
  | .error exc =>
      if !exc.isException then .done (.error exc)
      else
        match (classifyError exc).llmClass, retry with
        | some .transientError, some next => next
        | _, _ => .done (.error (classifyError exc))

def attemptLoop (hasParser : Bool) : List Nat → LlmDialogue Value
  | [] => (runAttempt hasParser).bind (settleAttempt none)
  | delay :: delays =>
      (runAttempt hasParser).bind
        (settleAttempt
          (some (.ask (.sleep delay) fun () => attemptLoop hasParser delays)))

/-- The arguments of `invoke_llm` besides the functions it is given. -/
structure LlmCall where
  environ : Dict String String
  checkpointDbPath : Option String
  hasParser : Bool

namespace LlmCall

def dailyCap (call : LlmCall) : Except LlmExc Int :=
  parseDailyCap (call.environ.find "LLM_DAILY_CAP")

def dbPath (call : LlmCall) : String :=
  match call.checkpointDbPath with
  | some path =>
      if path = "" then
        (call.environ.find "CHECKPOINT_DB_PATH").getD defaultCheckpointDbPath
      else path
  | none =>
      (call.environ.find "CHECKPOINT_DB_PATH").getD defaultCheckpointDbPath

end LlmCall

def dailyCapReached (dailyCap : Int) (now : DateTime) : LlmExc :=
  .dailyCapExceeded ("LLM daily cap reached: " ++ toString dailyCap ++
    " requests for " ++ todayKstKey now)

def invokeLlm (call : LlmCall) : LlmDialogue Value :=
  match call.dailyCap with
  | .error exc => .done (.error exc)
  | .ok dailyCap =>
      (consumeDailyBudget call.dbPath dailyCap).bind fun
        | .error exc => .done (.error exc)
        | .ok false =>
            .ask (.now kst) fun now =>
              .done (.error (dailyCapReached dailyCap now))
        | .ok true => attemptLoop call.hasParser retryDelaysSeconds

end PipelineOps.Tools
