import PipelineOps.Library.Dialogue
import PipelineOps.Library.Dict
import PipelineOps.Library.Fallible
import PipelineOps.Python.JsonStyle

namespace PipelineOps.Tools

open PipelineOps.Library
open PipelineOps.Python

section Errors

inductive AlertErrorClass where
  | alertError
  | transientAlertError
  | permanentAlertError
  deriving DecidableEq

/-- What `emit_alert` looks at in an exception: whether it is an `Exception` at
all, its nearest class among the `AlertError`s, the code if it is an
`HTTPError`, whether it is a `TimeoutError`, `ConnectionError` or `URLError`,
and its texts. -/
structure AlertExc where
  isException : Bool
  alertClass : Option AlertErrorClass
  httpCode : Option Int
  connection : Bool
  className : String
  text : String
  derived : alertClass.isSome ∨ httpCode.isSome ∨ connection → isException
  deriving DecidableEq

namespace AlertExc

def ofExc (exc : Exc) : AlertExc where
  isException := true
  alertClass := none
  httpCode := none
  connection := exc.cls = .timeoutError || exc.cls = .connectionError
  className := exc.className
  text := exc.message
  derived := fun _ => rfl

def alertText (classification eventType target reason : String) : String :=
  "[ALERT][" ++ classification ++ "] event_type=" ++ eventType ++ " target=" ++
    target ++ " reason=" ++ reason

def transientAlertError (eventType target reason : String) : AlertExc where
  isException := true
  alertClass := some .transientAlertError
  httpCode := none
  connection := false
  className := "TransientAlertError"
  text := alertText "TRANSIENT" eventType target reason
  derived := fun _ => rfl

def permanentAlertError (eventType target reason : String) : AlertExc where
  isException := true
  alertClass := some .permanentAlertError
  httpCode := none
  connection := false
  className := "PermanentAlertError"
  text := alertText "PERMANENT" eventType target reason
  derived := fun _ => rfl

/-- `str(exc).strip() or exc.__class__.__name__`. -/
def reason (exc : AlertExc) : String :=
  if strip exc.text = "" then exc.className else strip exc.text

end AlertExc

def transientHttpStatuses : List Int := [408, 429, 500, 502, 503, 504]

def transientAlertMarkers : List String :=
  ["timeout", "temporar", "throttl", "too many requests", "429", "500", "502",
    "503", "504", "connection", "unavailable", "try again"]

def classifyAlertError (exc : AlertExc) (eventType target : String) :
    AlertExc :=
  match exc.httpCode with
  | some code =>
      if code ∈ transientHttpStatuses then
        .transientAlertError eventType target exc.reason
      else .permanentAlertError eventType target exc.reason
  | none =>
      if exc.connection then .transientAlertError eventType target exc.reason
      else if transientAlertMarkers.any
          (containsText · (lower exc.reason)) then
        .transientAlertError eventType target exc.reason
      else .permanentAlertError eventType target exc.reason

end Errors

section Configuration

/-- `float(text)`, and the test `<= 0` of its results. -/
structure Floats (ν : Type) where
  parse : String → Option ν
  nonPositive : ν → Bool

variable {ν : Type}

def parseRetryCount (raw : String) : Except AlertExc Nat :=
  match Value.parseInt raw with
  | none => .error (.permanentAlertError "CONFIG" "ALERTING_MAX_RETRIES"
      "ALERTING_MAX_RETRIES must be an integer")
  | some retries =>
      if retries < 0 then
        .error (.permanentAlertError "CONFIG" "ALERTING_MAX_RETRIES"
          "ALERTING_MAX_RETRIES must be >= 0")
      else .ok retries.toNat

def parseTimeout (floats : Floats ν) (raw : String) : Except AlertExc ν :=
  match floats.parse raw with
  | none => .error (.permanentAlertError "CONFIG"
      "ALERTING_HTTP_TIMEOUT_SECONDS"
      "ALERTING_HTTP_TIMEOUT_SECONDS must be a number")
  | some timeout =>
      if floats.nonPositive timeout then
        .error (.permanentAlertError "CONFIG" "ALERTING_HTTP_TIMEOUT_SECONDS"
          "ALERTING_HTTP_TIMEOUT_SECONDS must be > 0")
      else .ok timeout

/-- The arguments of `emit_alert` that describe the event. -/
structure AlertEvent where
  severity : String
  eventType : String
  summary : String
  detail : List (String × Value)

/-- What `emit_alert` makes of its environment. -/
structure AlertConfig (ν : Type) where
  url : String
  timeoutSeconds : ν
  maxRetries : Nat

def alertConfig (floats : Floats ν) (environ : Dict String String)
    (eventType : String) : Except AlertExc (AlertConfig ν) := do
  let get name default := (environ.find name).getD default
  let endpoint := strip (get "LOG_ANALYTICS_DCR_ENDPOINT" "")
  let dcrImmutableId := strip (get "LOG_ANALYTICS_DCR_IMMUTABLE_ID" "")
  let streamName := strip (get "LOG_ANALYTICS_STREAM_NAME" "")
  let apiVersion := strip (get "LOG_ANALYTICS_DCR_API_VERSION" "2023-01-01")
  let timeoutSeconds ←
    parseTimeout floats (get "ALERTING_HTTP_TIMEOUT_SECONDS" "5")
  let maxRetries ← parseRetryCount (get "ALERTING_MAX_RETRIES" "2")
  if endpoint = "" ∨ dcrImmutableId = "" ∨ streamName = "" then
    .error (.permanentAlertError eventType "dcr-config"
      ("missing LOG_ANALYTICS_DCR_ENDPOINT/LOG_ANALYTICS_DCR_IMMUTABLE_ID/" ++
        "LOG_ANALYTICS_STREAM_NAME"))
  else
    let url := rstripChar '/' endpoint ++ "/dataCollectionRules/" ++
      dcrImmutableId ++ "/streams/" ++ streamName ++ "?api-version=" ++
      apiVersion
    pure ⟨url, timeoutSeconds, maxRetries⟩

/-- The text of the payload; the bytes are its UTF-8. -/
def serializeEventPayload (room : Nat) (event : AlertEvent) (now : DateTime) :
    Except Exc String :=
  jsonDumps compactStyle room (.list [.dict
    [("occurredAt", .str (replaceText "+00:00" "Z" now.isoFormat)),
      ("severity", .str event.severity), ("eventType", .str event.eventType),
      ("summary", .str event.summary), ("detail", .dict event.detail)]])

theorem serializeEventPayload_ok_iff {room : Nat} {event : AlertEvent}
    {now : DateTime} :
    (∃ body, serializeEventPayload (room + 2) event now = .ok body) ↔
      ∃ text, jsonDumps compactStyle room (.dict event.detail) = .ok text := by
  rw [serializeEventPayload]
  generalize Value.dict event.detail = detail
  have unsorted : compactStyle.sortKeys = false := rfl
  cases written : jsonDumps compactStyle room detail with
  | error exc =>
      simp [jsonDumps, jsonItems, jsonEntries, jsonMembers, Value.descend,
        JsonStyle.ordered, unsorted, written, bind, Except.bind]
  | ok text =>
      simp [jsonDumps, jsonItems, jsonEntries, jsonMembers, Value.descend,
        JsonStyle.ordered, unsorted, written, bind, Except.bind, pure,
        Except.pure]

end Configuration

section Request

/-! `urllib.request.Request`. -/

structure UrlRequest where
  url : String
  data : String
  headers : List (String × String)
  method : String

/-- `urllib.parse.unwrap`. -/
def unwrapUrl (url : String) : String :=
  let stripped := strip url
  let unbracketed :=
    match stripped.toList with
    | '<' :: rest =>
        if rest.getLast? = some '>' then strip (String.ofList rest.dropLast)
        else stripped
    | _ => stripped
  match unbracketed.toList with
  | 'U' :: 'R' :: 'L' :: ':' :: rest => strip (String.ofList rest)
  | _ => unbracketed

/-- The text up to its last number sign. -/
def withoutFragment (url : String) : String :=
  if '#' ∈ url.toList then
    String.ofList ((url.toList.reverse.dropWhile (· ≠ '#')).drop 1).reverse
  else url

/-- `_splittype`: a scheme in front of a colon. -/
def hasUrlType (url : String) : Bool :=
  let scheme := url.toList.takeWhile fun character =>
    character ≠ '/' && character ≠ ':'
  !scheme.isEmpty && url.toList[scheme.length]? = some ':'

def urlRequest (url data : String) (headers : List (String × String))
    (method : String) : Except Exc UrlRequest :=
  let fullUrl := unwrapUrl url
  if hasUrlType (withoutFragment fullUrl) then
    .ok ⟨fullUrl, data, headers, method⟩
  else .error (.valueError ("unknown url type: " ++ reprText fullUrl))

theorem urlRequest_of_hasUrlType {url data method : String}
    {headers : List (String × String)}
    (typed : hasUrlType (withoutFragment (unwrapUrl url)) = true) :
    urlRequest url data headers method =
      .ok ⟨unwrapUrl url, data, headers, method⟩ := by
  rw [urlRequest, if_pos typed]

end Request

section Emission

variable {ν : Type}

/-- `getattr(response, "status", None)` and what `getcode` gives, if there is
one. A status is here as what `int` makes of it. -/
structure AlertResponse where
  status : Option (Except AlertExc Int)
  getcode : Option (Except AlertExc (Option (Except AlertExc Int)))

def AlertResponse.readStatus (response : AlertResponse) :
    Except AlertExc (Option (Except AlertExc Int)) :=
  match response.status, response.getcode with
  | none, some getcode => getcode
  | status, _ => .ok status

inductive AlertRequest (ν : Type) where
  | now (zone : Zone)
  | send (request : UrlRequest) (timeoutSeconds : ν)

abbrev SenderOutcome := Except AlertExc AlertResponse

abbrev AlertAnswer : AlertRequest ν → Type
  | .now _ => DateTime
  | .send .. => SenderOutcome

abbrev AlertDialogue (ν : Type) :=
  Dialogue (AlertAnswer (ν := ν)) (Except AlertExc Unit)

/-- What the loop of `emit_alert` works with. -/
structure AlertCall (ν : Type) where
  eventType : String
  config : AlertConfig ν
  request : UrlRequest

namespace AlertCall

variable (call : AlertCall ν)

def httpStatusError (status : Int) : AlertExc :=
  match Value.intText status with
  | .error exc => .ofExc exc
  | .ok text =>
      if status ∈ transientHttpStatuses then
        .transientAlertError call.eventType call.config.url
          ("http status " ++ text)
      else
        .permanentAlertError call.eventType call.config.url
          ("http status " ++ text)

def checkStatus (response : AlertResponse) : Except AlertExc Unit := do
  match ← response.readStatus with
  | none => pure ()
  | some read =>
      let status ← read
      if 200 ≤ status ∧ status < 300 then pure ()
      else .error (call.httpStatusError status)

/-- The body of the loop's `try`. -/
def runAttempt (outcome : SenderOutcome) : Except AlertExc Unit := do
  let response ← outcome
  call.checkStatus response

/-- The handlers; `none` is the loop's `continue`. -/
def settleAttempt (retryLeft : Bool) :
    Except AlertExc Unit → Option (Except AlertExc Unit)
  | .ok () => some (.ok ())
  | .error exc =>
      if exc.alertClass.isSome then
        if exc.alertClass = some .transientAlertError ∧ retryLeft then none
        else some (.error exc)
      else if !exc.isException then some (.error exc)
      else
        let classified := classifyAlertError exc call.eventType call.config.url
        if classified.alertClass = some .transientAlertError ∧ retryLeft then
          none
        else some (.error classified)

/-- Behind the last attempt of the list `emit_alert` returns. -/
def attemptLoop : List Nat → AlertDialogue ν
  | [] => .done (.ok ())
  | attempt :: attempts =>
      .ask (.send call.request call.config.timeoutSeconds) fun outcome =>
        match call.settleAttempt (attempt < call.config.maxRetries)
          (call.runAttempt outcome) with
        | none => attemptLoop attempts
        | some settled => .done settled

end AlertCall

def alertRequest (room : Nat) (config : AlertConfig ν) (event : AlertEvent)
    (now : DateTime) : Except Exc UrlRequest := do
  let body ← serializeEventPayload room event now
  urlRequest config.url body [("Content-type", "application/json")] "POST"

/-- `emit_alert`, where the payload may enter so many arrays and objects. -/
def emitAlert (room : Nat) (floats : Floats ν) (environ : Dict String String)
    (event : AlertEvent) : AlertDialogue ν :=
  match alertConfig floats environ event.eventType with
  | .error exc => .done (.error exc)
  | .ok config =>
      .ask (.now .utc) fun now =>
        match alertRequest room config event now with
        | .error exc => .done (.error (.ofExc exc))
        | .ok request =>
            (AlertCall.mk event.eventType config request).attemptLoop
              (List.range (config.maxRetries + 1))

end Emission

end PipelineOps.Tools
