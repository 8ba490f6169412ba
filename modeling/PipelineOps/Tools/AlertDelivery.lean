import PipelineOps.Library.Retry
import PipelineOps.Tools.Alerting

namespace PipelineOps.Tools

open PipelineOps.Library
open PipelineOps.Python

/-! How often an alert is sent, and what `emit_alert` ends with. -/

namespace AlertExc

/-- The exceptions behind which the alert may be sent again. -/
def Transient (exc : AlertExc) : Prop :=
  exc.alertClass = some .transientAlertError ∨
    exc.alertClass = none ∧
      ((∃ code ∈ transientHttpStatuses, exc.httpCode = some code) ∨
        exc.httpCode = none ∧ exc.connection ∨
        exc.httpCode = none ∧ exc.isException ∧
          ∃ marker ∈ transientAlertMarkers,
            containsText marker (lower exc.reason))

/-- The exceptions that `emit_alert` lets through as they are. -/
def Foreign (exc : AlertExc) : Prop :=
  exc.alertClass = some .alertError ∨ exc.isException = false

def IsHttpError (exc : AlertExc) (code : Int) : Prop :=
  exc.alertClass = none ∧ exc.httpCode = some code

end AlertExc

def IsSuccess (status : Int) : Prop := 200 ≤ status ∧ status < 300

instance (status : Int) : Decidable (IsSuccess status) :=
  inferInstanceAs (Decidable (_ ∧ _))

namespace SenderOutcome

/-- The status of an outcome, if it has one, or the exception of the sender or
of reading its response. -/
def reading (outcome : SenderOutcome) : Except AlertExc (Option Int) := do
  let response ← outcome
  match ← response.readStatus with
  | none => pure none
  | some read =>
      let status ← read
      pure (some status)

/-- A 2xx response, or one without a status. -/
def Delivers (outcome : SenderOutcome) : Prop :=
  outcome.reading = .ok none ∨
    ∃ status, outcome.reading = .ok (some status) ∧ IsSuccess status

def Transient (outcome : SenderOutcome) : Prop :=
  (∃ status ∈ transientHttpStatuses, outcome.reading = .ok (some status)) ∨
    ∃ exc, outcome.reading = .error exc ∧ exc.Transient

/-- The same, but for a status that is raised where the other returns it. -/
def Corresponds (outcome other : SenderOutcome) : Prop :=
  outcome = other ∨ ∃ status exc, outcome.reading = .ok (some status) ∧
    ¬ IsSuccess status ∧ other = .error exc ∧ exc.IsHttpError status

end SenderOutcome

section Outcomes

variable {ν : Type} {call : AlertCall ν} {outcome other : SenderOutcome}
  {exc : AlertExc} {status : Int}

def RaisesClass (cls : AlertErrorClass) (result : Except AlertExc Unit) :
    Prop :=
  ∃ exc, result = .error exc ∧ exc.alertClass = some cls

/-- The exception that leaves the loop when one comes out of its `try`. -/
def AlertCall.handled (call : AlertCall ν) (exc : AlertExc) : AlertExc :=
  if exc.alertClass.isSome ∨ exc.isException = false then exc
  else classifyAlertError exc call.eventType call.config.url

/-- What `emit_alert` ends with if this is its last attempt. -/
def AlertCall.resultOf (call : AlertCall ν) (outcome : SenderOutcome) :
    Except AlertExc Unit :=
  match call.runAttempt outcome with
  | .ok () => .ok ()
  | .error exc => .error (call.handled exc)

theorem classifyAlertError_class (eventType target : String) :
    (classifyAlertError exc eventType target).alertClass =
        some .transientAlertError ∨
      (classifyAlertError exc eventType target).alertClass =
        some .permanentAlertError := by
  unfold classifyAlertError
  split
  · split
    · exact .inl rfl
    · exact .inr rfl
  · split
    · exact .inl rfl
    · split
      · exact .inl rfl
      · exact .inr rfl

theorem classifyAlertError_transient_iff {eventType target : String}
    (unclassified : exc.alertClass = none) (caught : exc.isException = true) :
    (classifyAlertError exc eventType target).alertClass =
      some .transientAlertError ↔ exc.Transient := by
  unfold classifyAlertError AlertExc.Transient
  cases coded : exc.httpCode with
  | some code =>
      by_cases listed : code ∈ transientHttpStatuses
      · simp [listed, unclassified, AlertExc.transientAlertError]
      · simp [listed, unclassified, AlertExc.permanentAlertError]
  | none =>
      cases connected : exc.connection with
      | true => simp [unclassified, AlertExc.transientAlertError]
      | false =>
          simp only [Bool.false_eq_true, if_false, unclassified, caught,
            reduceCtorEq, and_false, exists_false, false_or, true_and,
            ← List.any_eq_true]
          split
          · next marked => exact iff_of_true rfl marked
          · next unmarked => exact iff_of_false nofun unmarked

theorem handled_of_foreign (foreign : exc.Foreign) :
    call.handled exc = exc := by
  apply if_pos
  rcases foreign with bare | uncaught
  · exact .inl (by rw [bare]; rfl)
  · exact .inr uncaught

theorem handled_of_unclassified (unclassified : exc.alertClass = none)
    (caught : exc.isException = true) :
    call.handled exc =
      classifyAlertError exc call.eventType call.config.url := by
  apply if_neg
  simp [unclassified, caught]

theorem handled_transient_iff :
    (call.handled exc).alertClass = some .transientAlertError ↔
      exc.Transient := by
  cases known : exc.alertClass with
  | some cls =>
      have kept : call.handled exc = exc := if_pos (.inl (by rw [known]; rfl))
      rw [kept, AlertExc.Transient]
      simp [known]
  | none =>
      cases caught : exc.isException with
      | true =>
          rw [handled_of_unclassified known caught,
            classifyAlertError_transient_iff known caught]
      | false =>
          have kept : call.handled exc = exc := if_pos (.inr caught)
          have underived := mt exc.derived
          rw [kept, AlertExc.Transient]
          simp_all

theorem handled_permanent (final : ¬ exc.Transient)
    (own : ¬ exc.Foreign) :
    (call.handled exc).alertClass = some .permanentAlertError := by
  cases known : exc.alertClass with
  | some cls =>
      have kept : call.handled exc = exc := if_pos (.inl (by rw [known]; rfl))
      rw [kept, known]
      cases cls with
      | alertError => exact absurd (.inl known) own
      | transientAlertError => exact absurd (.inl known) final
      | permanentAlertError => rfl
  | none =>
      have caught : exc.isException = true := by
        by_contra uncaught
        exact own (.inr (Bool.eq_false_iff.mpr uncaught))
      have classified :=
        @classifyAlertError_class exc call.eventType call.config.url
      rw [handled_of_unclassified known caught]
      rw [classifyAlertError_transient_iff known caught] at classified
      exact classified.resolve_left final

/-- `str` of a status with too many digits. -/
def unprintableStatus : Exc :=
  .valueError
    ("Exceeds the limit (4300 digits) for integer string conversion; " ++
      "use sys.set_int_max_str_digits() to increase the limit")

theorem unprintableStatus_quiet :
    ∃ characters, unprintableStatus.message = String.ofList characters ∧
      stripBy isSpace characters = characters ∧ characters ≠ [] ∧
      ∀ marker ∈ transientAlertMarkers,
        ((characters.flatMap lowerChar).tails.any
          fun suffix => marker.toList.isPrefixOf suffix) = false :=
  ⟨_, String.ofList_append.symm, by decide +kernel, by decide,
    by decide +kernel⟩

theorem not_transient_unprintableStatus :
    ¬ (AlertExc.ofExc unprintableStatus).Transient := by
  obtain ⟨characters, spelled, stripped, filled, silent⟩ :=
    unprintableStatus_quiet
  have kept : strip unprintableStatus.message = String.ofList characters := by
    rw [strip, spelled, String.toList_ofList, stripped]
  have reason : (AlertExc.ofExc unprintableStatus).reason =
      String.ofList characters := by
    rw [AlertExc.reason, AlertExc.ofExc, kept, if_neg]
    simpa using filled
  have quiet : ∀ marker ∈ transientAlertMarkers, containsText marker
      (lower (AlertExc.ofExc unprintableStatus).reason) = false := by
    intro marker known
    rw [reason, containsText, lower, String.toList_ofList,
      String.toList_ofList]
    exact silent marker known
  rintro (classified | ⟨-, coded | connected | ⟨-, -, marker, known, found⟩⟩)
  · cases classified
  · obtain ⟨code, -, coded⟩ := coded
    cases coded
  · exact absurd connected.2 (by decide)
  · rw [quiet marker known] at found
    cases found

theorem handled_httpStatusError (status : Int) :
    (call.handled (call.httpStatusError status)).alertClass =
      if status ∈ transientHttpStatuses then some .transientAlertError
      else some .permanentAlertError := by
  by_cases listed : status ∈ transientHttpStatuses
  · rw [if_pos listed]
    simp only [transientHttpStatuses, List.mem_cons, List.not_mem_nil,
      or_false] at listed
    rcases listed with rfl | rfl | rfl | rfl | rfl | rfl <;> rfl
  · rw [if_neg listed]
    unfold AlertCall.httpStatusError Value.intText
    split
    · next raised =>
        split at raised
        · obtain rfl := Except.error.inj raised
          apply handled_permanent not_transient_unprintableStatus
          rintro (bare | uncaught)
          · cases bare
          · cases uncaught
        · cases raised
    · rw [if_neg listed]
      rfl

theorem runAttempt_eq (call : AlertCall ν) (outcome : SenderOutcome) :
    call.runAttempt outcome =
      match outcome.reading with
      | .error exc => .error exc
      | .ok none => .ok ()
      | .ok (some status) =>
          if IsSuccess status then .ok ()
          else .error (call.httpStatusError status) := by
  cases outcome with
  | error exc => rfl
  | ok response =>
      simp only [AlertCall.runAttempt, AlertCall.checkStatus,
        SenderOutcome.reading, bind, Except.bind]
      cases read : response.readStatus with
      | error exc => rfl
      | ok status =>
          cases status with
          | none => rfl
          | some value =>
              cases value with
              | error exc => rfl
              | ok status => rfl

theorem resultOf_of_raised (raised : outcome.reading = .error exc) :
    call.resultOf outcome = .error (call.handled exc) := by
  simp only [AlertCall.resultOf, runAttempt_eq, raised]

theorem resultOf_of_delivers (delivers : outcome.Delivers) :
    call.resultOf outcome = .ok () := by
  rcases delivers with silent | ⟨status, returned, success⟩
  · simp only [AlertCall.resultOf, runAttempt_eq, silent]
  · simp only [AlertCall.resultOf, runAttempt_eq, returned, if_pos success]

theorem resultOf_of_refused (call : AlertCall ν)
    (returned : outcome.reading = .ok (some status))
    (refused : ¬ IsSuccess status) :
    RaisesClass
      (if status ∈ transientHttpStatuses then .transientAlertError
        else .permanentAlertError) (call.resultOf outcome) := by
  have ended : call.resultOf outcome =
      .error (call.handled (call.httpStatusError status)) := by
    simp only [AlertCall.resultOf, runAttempt_eq, returned, if_neg refused]
  refine ⟨_, ended, ?_⟩
  rw [handled_httpStatusError]
  split <;> rfl

theorem not_isSuccess_of_transient (listed : status ∈ transientHttpStatuses) :
    ¬ IsSuccess status := by
  simp only [transientHttpStatuses, List.mem_cons, List.not_mem_nil,
    or_false] at listed
  unfold IsSuccess
  omega

theorem transient_of_returned
    (returned : outcome.reading = .ok (some status)) :
    outcome.Transient ↔ status ∈ transientHttpStatuses := by
  simp [SenderOutcome.Transient, returned]

theorem transient_of_raised (raised : outcome.reading = .error exc) :
    outcome.Transient ↔ exc.Transient := by
  simp [SenderOutcome.Transient, raised]

theorem raisesClass_of_transient (call : AlertCall ν)
    (transient : outcome.Transient) :
    RaisesClass .transientAlertError (call.resultOf outcome) := by
  rcases transient with ⟨status, listed, returned⟩ | ⟨exc, raised, transient⟩
  · have refused := resultOf_of_refused call returned
      (not_isSuccess_of_transient listed)
    rwa [if_pos listed] at refused
  · exact ⟨_, resultOf_of_raised raised, handled_transient_iff.mpr transient⟩

/-- A final failure is permanent, unless the attempt raises what `emit_alert`
passes on. -/
theorem failed_of_final (call : AlertCall ν)
    (final : ¬ outcome.Transient) (undelivered : ¬ outcome.Delivers) :
    (∃ exc, outcome.reading = .error exc ∧ exc.Foreign ∧
        call.resultOf outcome = .error exc) ∨
      (∀ exc, outcome.reading = .error exc → ¬ exc.Foreign) ∧
        RaisesClass .permanentAlertError (call.resultOf outcome) := by
  cases known : outcome.reading with
  | error exc =>
      rw [transient_of_raised known] at final
      by_cases foreign : exc.Foreign
      · refine .inl ⟨exc, rfl, foreign, ?_⟩
        rw [resultOf_of_raised known, handled_of_foreign foreign]
      · refine .inr ⟨?_, _, resultOf_of_raised known,
          handled_permanent final foreign⟩
        intro raised same
        rwa [← Except.error.inj same]
  | ok status =>
      refine .inr ⟨nofun, ?_⟩
      cases status with
      | none => exact absurd (.inl known) undelivered
      | some status =>
          have refused : ¬ IsSuccess status := fun success =>
            undelivered (.inr ⟨status, known, success⟩)
          have ended := resultOf_of_refused call known refused
          rw [transient_of_returned known] at final
          rwa [if_neg final] at ended

theorem resultOf_ok_iff :
    call.resultOf outcome = .ok () ↔ outcome.Delivers := by
  constructor
  · intro ended
    by_contra undelivered
    by_cases transient : outcome.Transient
    · obtain ⟨exc, raised, -⟩ := raisesClass_of_transient call transient
      rw [ended] at raised
      cases raised
    · rcases failed_of_final call transient undelivered with
        ⟨exc, -, -, raised⟩ | ⟨-, exc, raised, -⟩
      · rw [ended] at raised
        cases raised
      · rw [ended] at raised
        cases raised
  · exact resultOf_of_delivers

/-- Two results agree in their classes. -/
def SameClass (result other : Except AlertExc Unit) : Prop :=
  (result = .ok () ↔ other = .ok ()) ∧
    ∀ cls, RaisesClass cls result ↔ RaisesClass cls other

theorem sameClass_of_raises {cls : AlertErrorClass}
    {result other : Except AlertExc Unit} (raises : RaisesClass cls result)
    (again : RaisesClass cls other) : SameClass result other := by
  obtain ⟨exc, rfl, known⟩ := raises
  obtain ⟨exc', rfl, known'⟩ := again
  refine ⟨by simp, fun named => ?_⟩
  simp [RaisesClass, known, known']

theorem transient_of_isHttpError (coded : exc.IsHttpError status) :
    exc.Transient ↔ status ∈ transientHttpStatuses := by
  simp [AlertExc.Transient, coded.1, coded.2]

theorem SenderOutcome.Corresponds.transient_iff
    (corresponds : outcome.Corresponds other) :
    outcome.Transient ↔ other.Transient := by
  rcases corresponds with rfl | ⟨status, exc, returned, -, rfl, coded⟩
  · exact Iff.rfl
  · rw [transient_of_returned returned, transient_of_raised rfl,
      transient_of_isHttpError coded]

theorem SenderOutcome.Corresponds.sameClass (call : AlertCall ν)
    (corresponds : outcome.Corresponds other) :
    SameClass (call.resultOf outcome) (call.resultOf other) := by
  have transients := corresponds.transient_iff
  rcases corresponds with rfl | ⟨status, exc, returned, refused, rfl, coded⟩
  · exact ⟨Iff.rfl, fun cls => Iff.rfl⟩
  by_cases transient : outcome.Transient
  · exact sameClass_of_raises (raisesClass_of_transient call transient)
      (raisesClass_of_transient call (transients.mp transient))
  · have ended := resultOf_of_refused call returned refused
    rw [transient_of_returned returned] at transient
    rw [if_neg transient] at ended
    refine sameClass_of_raises ended ⟨_, resultOf_of_raised rfl, ?_⟩
    apply handled_permanent (mt (transient_of_isHttpError coded).mp transient)
    rintro (bare | uncaught)
    · rw [coded.1] at bare
      cases bare
    · have caught := exc.derived (.inr (.inl (by rw [coded.2]; rfl)))
      rw [uncaught] at caught
      cases caught

theorem raisesClass_transient_iff (call : AlertCall ν)
    (outcome : SenderOutcome) :
    RaisesClass .transientAlertError (call.resultOf outcome) ↔
      outcome.Transient := by
  refine ⟨?_, raisesClass_of_transient call⟩
  rintro ⟨exc, ended, classified⟩
  cases known : outcome.reading with
  | error raised =>
      rw [resultOf_of_raised known] at ended
      obtain rfl := Except.error.inj ended
      exact (transient_of_raised known).mpr
        (handled_transient_iff.mp classified)
  | ok status =>
      by_contra final
      by_cases delivers : outcome.Delivers
      · rw [resultOf_of_delivers delivers] at ended
        cases ended
      · rcases failed_of_final call final delivers with
          ⟨raised, read, -⟩ | ⟨-, raised, permanent, named⟩
        · rw [known] at read
          cases read
        · rw [ended] at permanent
          obtain rfl := Except.error.inj permanent
          rw [classified] at named
          cases named

theorem settleAttempt_error (call : AlertCall ν) (retryLeft : Bool)
    (exc : AlertExc) :
    call.settleAttempt retryLeft (.error exc) =
      if (call.handled exc).alertClass = some .transientAlertError ∧ retryLeft
        then none else some (.error (call.handled exc)) := by
  cases known : exc.alertClass with
  | some cls => simp [AlertCall.settleAttempt, AlertCall.handled, known]
  | none =>
      cases caught : exc.isException <;>
        simp [AlertCall.settleAttempt, AlertCall.handled, known, caught]

/-- The handlers go on exactly behind a transient attempt with a retry left. -/
theorem settleAttempt_eq (call : AlertCall ν) (retryLeft : Bool)
    (outcome : SenderOutcome) [Decidable outcome.Transient] :
    call.settleAttempt retryLeft (call.runAttempt outcome) =
      if outcome.Transient ∧ retryLeft then none
      else some (call.resultOf outcome) := by
  have transient := raisesClass_transient_iff call outcome
  rw [AlertCall.resultOf] at transient ⊢
  cases ended : call.runAttempt outcome with
  | ok returned =>
      have final : ¬ outcome.Transient := by
        rw [← transient, ended]
        rintro ⟨exc, raised, -⟩
        cases raised
      rw [if_neg fun both => final both.1]
      rfl
  | error exc =>
      have class_iff : (call.handled exc).alertClass =
          some .transientAlertError ↔ outcome.Transient := by
        rw [← transient, ended]
        simp [RaisesClass]
      rw [settleAttempt_error]
      exact if_congr (and_congr_left' class_iff) rfl rfl

end Outcomes

section Emissions

variable {ν : Type} {call : AlertCall ν} {outcomes others : Nat → SenderOutcome}

abbrev AlertExchange (ν : Type) := Dialogue.Exchange (AlertAnswer (ν := ν))

/-- What the sender was called with. -/
def sendsOf : List (AlertExchange ν) → List (UrlRequest × ν)
  | [] => []
  | ⟨.now _, _⟩ :: rest => sendsOf rest
  | ⟨.send request timeoutSeconds, _⟩ :: rest =>
      (request, timeoutSeconds) :: sendsOf rest

/-- The clock, and a sender whose calls go as the sequence says. -/
def answering (now : DateTime) (outcomes : Nat → SenderOutcome)
    (history : List (AlertExchange ν)) :
    (request : AlertRequest ν) → AlertAnswer request
  | .now _ => now
  | .send .. => outcomes (sendsOf history).length

theorem sendsOf_append (history trace : List (AlertExchange ν)) :
    sendsOf (history ++ trace) = sendsOf history ++ sendsOf trace := by
  induction history with
  | nil => rfl
  | cons exchange rest induction =>
      obtain ⟨request, answer⟩ := exchange
      cases request with
      | now zone => exact induction
      | send request timeoutSeconds => exact congrArg (_ :: ·) induction

def AlertCall.exchange (call : AlertCall ν) (outcome : SenderOutcome) :
    AlertExchange ν :=
  ⟨.send call.request call.config.timeoutSeconds, outcome⟩

theorem sendsOf_exchange (call : AlertCall ν)
    (history : List (AlertExchange ν)) (outcome : SenderOutcome) :
    sendsOf (history ++ [call.exchange outcome]) =
      sendsOf history ++ [(call.request, call.config.timeoutSeconds)] :=
  sendsOf_append _ _

theorem converse_attemptLoop_cons (call : AlertCall ν) (now : DateTime)
    {attempt : Nat} {attempts : List Nat} {history : List (AlertExchange ν)}
    (sent : (sendsOf history).length = attempt) :
    (call.attemptLoop (attempt :: attempts)).converse (answering now outcomes)
        history =
      (match call.settleAttempt (attempt < call.config.maxRetries)
        (call.runAttempt (outcomes attempt)) with
      | none => call.attemptLoop attempts
      | some settled => .done settled).converse (answering now outcomes)
        (history ++ [call.exchange (outcomes attempt)]) := by
  rw [← sent]
  rfl

theorem AlertCall.attemptLoop_retried (call : AlertCall ν) (now : DateTime)
    (outcomes : Nat → SenderOutcome) {left start : Nat}
    {history : List (AlertExchange ν)}
    (sent : (sendsOf history).length = start)
    (ends : start + left = call.config.maxRetries) :
    ∃ retried history',
      (call.attemptLoop (List.range' start (left + 1))).converse
        (answering now outcomes) history =
          (history', call.resultOf (outcomes (start + retried))) ∧
      sendsOf history' = sendsOf history ++
        List.replicate (retried + 1)
          (call.request, call.config.timeoutSeconds) ∧
      Retried SenderOutcome.Transient left
        ((List.range' start (retried + 1)).map outcomes)
        (outcomes (start + retried)) := by
  classical
  induction left generalizing start history with
  | zero =>
      have sends := sendsOf_exchange call history (outcomes start)
      refine ⟨0, history ++ [call.exchange (outcomes start)], ?_, sends,
        .exhausted (outcomes start)⟩
      rw [List.range'_one, converse_attemptLoop_cons call now sent,
        settleAttempt_eq, if_neg (by simp; omega)]
      rfl
  | succ left induction =>
      have sends := sendsOf_exchange call history (outcomes start)
      rw [List.range'_succ, converse_attemptLoop_cons call now sent,
        settleAttempt_eq]
      by_cases transient : (outcomes start).Transient
      · have sentMore : (sendsOf (history ++
            [call.exchange (outcomes start)])).length = start + 1 := by
          rw [sends, List.length_append, sent, List.length_singleton]
        obtain ⟨retried, history', ended, sendsMore, again⟩ :=
          induction sentMore (by omega)
        have index : start + 1 + retried = start + (retried + 1) := by omega
        rw [index] at ended again
        rw [if_pos ⟨transient, by simp; omega⟩]
        refine ⟨retried + 1, history', ended, ?_, ?_⟩
        · rw [sendsMore, sends, List.append_assoc]
          rfl
        · rw [List.range'_succ, List.map_cons]
          exact .again transient again
      · rw [if_neg fun both => transient both.1]
        exact ⟨0, history ++ [call.exchange (outcomes start)], rfl, sends,
          .settled transient⟩

/-- The history and the result of `emit_alert`. -/
def emission (room : Nat) (floats : Floats ν) (environ : Dict String String)
    (event : AlertEvent) (now : DateTime) (outcomes : Nat → SenderOutcome) :
    List (AlertExchange ν) × Except AlertExc Unit :=
  (emitAlert room floats environ event).converse (answering now outcomes) []

variable {room : Nat} {floats : Floats ν} {environ : Dict String String}
  {event : AlertEvent} {now : DateTime} {config : AlertConfig ν}
  {request : UrlRequest}

theorem emission_stopsAfter
    (configured : alertConfig floats environ event.eventType = .ok config)
    (prepared : alertRequest room config event now = .ok request)
    (outcomes : Nat → SenderOutcome) :
    ∃ retried,
      StopsAfter SenderOutcome.Transient outcomes config.maxRetries retried ∧
      sendsOf (emission room floats environ event now outcomes).1 =
        List.replicate (retried + 1) (request, config.timeoutSeconds) ∧
      (emission room floats environ event now outcomes).2 =
        (AlertCall.mk event.eventType config request).resultOf
          (outcomes retried) := by
  have looped : emission room floats environ event now outcomes =
      ((AlertCall.mk event.eventType config request).attemptLoop
        (List.range (config.maxRetries + 1))).converse (answering now outcomes)
          [⟨.now .utc, now⟩] := by
    simp only [emission, emitAlert, configured, Dialogue.converse, answering,
      prepared]
    rfl
  obtain ⟨retried, history, ended, sends, attempts⟩ :=
    AlertCall.attemptLoop_retried ⟨event.eventType, config, request⟩ now
      outcomes (show (sendsOf [⟨.now .utc, now⟩]).length = 0 from rfl)
      (Nat.zero_add config.maxRetries)
  rw [← List.range_eq_range', Nat.zero_add] at ended attempts
  rw [looped, ended]
  exact ⟨retried, attempts.stopsAfter, sends, rfl⟩

/-- How often one post is made, and what comes of it. -/
structure AlertLaw (post : UrlRequest × ν) (maxRetries : Nat)
    (outcomes : Nat → SenderOutcome) (posts : List (UrlRequest × ν))
    (result : Except AlertExc Unit) : Prop where
  posts_of_final : ∀ first,
    FirstFinal SenderOutcome.Transient outcomes first →
    posts = List.replicate (min (maxRetries + 1) (first + 1)) post
  posts_of_transient : (∀ attempt, (outcomes attempt).Transient) →
    posts = List.replicate (maxRetries + 1) post
  returns_iff : result = .ok () ↔ ∃ first ≤ maxRetries,
    FirstFinal SenderOutcome.Transient outcomes first ∧
      (outcomes first).Delivers
  fails : ∀ first ≤ maxRetries,
    FirstFinal SenderOutcome.Transient outcomes first →
    ¬ (outcomes first).Delivers →
    (∃ exc, (outcomes first).reading = .error exc ∧ exc.Foreign ∧
      result = .error exc) ∨
    (∀ exc, (outcomes first).reading = .error exc → ¬ exc.Foreign) ∧
      RaisesClass .permanentAlertError result
  exhausted : (∀ attempt ≤ maxRetries, (outcomes attempt).Transient) →
    RaisesClass .transientAlertError result

theorem alertLaw_of_stopsAfter (call : AlertCall ν) {maxRetries retried : Nat}
    {post : UrlRequest × ν}
    (stops : StopsAfter SenderOutcome.Transient outcomes maxRetries retried) :
    AlertLaw post maxRetries outcomes (List.replicate (retried + 1) post)
      (call.resultOf (outcomes retried)) where
  posts_of_final first firstFinal := by
    rw [stops.unique firstFinal.stopsAfter]
    congr 1
    omega
  posts_of_transient transients := by
    rw [stops.unique (stopsAfter_of_transient fun attempt _ =>
      transients attempt)]
  returns_iff := by
    rw [resultOf_ok_iff]
    constructor
    · intro delivers
      rcases stops.firstFinal_or with firstFinal | ⟨rfl, transients⟩
      · exact ⟨retried, stops.bounded, firstFinal, delivers⟩
      · have raised := raisesClass_of_transient call
          (transients retried (Nat.le_refl _))
        obtain ⟨exc, ended, -⟩ := raised
        rw [resultOf_of_delivers delivers] at ended
        cases ended
    · rintro ⟨first, within, firstFinal, delivers⟩
      rwa [stops.unique firstFinal.stopsAfter, Nat.min_eq_right within]
  fails first within firstFinal undelivered := by
    rw [stops.unique firstFinal.stopsAfter, Nat.min_eq_right within]
    exact failed_of_final call firstFinal.final undelivered
  exhausted transients := by
    rw [stops.unique (stopsAfter_of_transient transients)]
    exact raisesClass_of_transient call (transients _ (Nat.le_refl _))

/-- An alert is posted until an outcome is final, and no failure is silent; a
status counts the same returned or raised. -/
theorem emitAlert_law
    (configured : alertConfig floats environ event.eventType = .ok config)
    (prepared : alertRequest room config event now = .ok request)
    (outcomes : Nat → SenderOutcome) :
    AlertLaw (request, config.timeoutSeconds) config.maxRetries outcomes
      (sendsOf (emission room floats environ event now outcomes).1)
      (emission room floats environ event now outcomes).2 ∧
    ∀ others, (∀ attempt, (outcomes attempt).Corresponds (others attempt)) →
      (sendsOf (emission room floats environ event now outcomes).1).length =
        (sendsOf (emission room floats environ event now others).1).length ∧
      SameClass (emission room floats environ event now outcomes).2
        (emission room floats environ event now others).2 := by
  obtain ⟨retried, stops, sends, ended⟩ :=
    emission_stopsAfter configured prepared outcomes
  rw [sends, ended]
  refine ⟨alertLaw_of_stopsAfter _ stops, ?_⟩
  intro others correspond
  obtain ⟨again, stopsToo, sendsToo, endedToo⟩ :=
    emission_stopsAfter configured prepared others
  have same := (stops.congr fun attempt =>
    (correspond attempt).transient_iff).unique stopsToo
  rw [sendsToo, endedToo, ← same]
  exact ⟨rfl, (correspond retried).sameClass _⟩

/-- Without a valid configuration nothing is posted, and the caller is told. -/
theorem emission_of_misconfigured {exc : AlertExc}
    (refused : alertConfig floats environ event.eventType = .error exc)
    (outcomes : Nat → SenderOutcome) :
    emission room floats environ event now outcomes = ([], .error exc) := by
  simp only [emission, emitAlert, refused, Dialogue.converse]

/-- Neither is an event that has no request. -/
theorem emission_of_unprepared {exc : Exc}
    (configured : alertConfig floats environ event.eventType = .ok config)
    (refused : alertRequest room config event now = .error exc)
    (outcomes : Nat → SenderOutcome) :
    sendsOf (emission room floats environ event now outcomes).1 = [] ∧
      (emission room floats environ event now outcomes).2 =
        .error (.ofExc exc) := by
  simp only [emission, emitAlert, configured, Dialogue.converse, answering,
    refused]
  exact ⟨rfl, trivial⟩

end Emissions

section Ingest

def wholeSeconds : Floats Nat where
  parse text := (Value.parseInt text).map Int.toNat
  nonPositive seconds := seconds == 0

def ingestEnviron : Dict String String :=
  .ofList
    [("LOG_ANALYTICS_DCR_ENDPOINT", "https://ingest/"),
      ("LOG_ANALYTICS_DCR_IMMUTABLE_ID", "dcr-1"),
      ("LOG_ANALYTICS_STREAM_NAME", "Events")]

def ingestEvent : AlertEvent where
  severity := "ERROR"
  eventType := "EXECUTION_FAILED"
  summary := "execution failed for pipeline"
  detail := [("pipeline", .str "nsc_gold"), ("run_id", .str "run-1")]

def ingestConfig : AlertConfig Nat where
  url := "https://ingest/dataCollectionRules/dcr-1/streams/Events" ++
    "?api-version=2023-01-01"
  timeoutSeconds := 5
  maxRetries := 2

def firstMidnight : DateTime := ⟨0, some .utc, by decide⟩

theorem ingest_configured :
    alertConfig wholeSeconds ingestEnviron ingestEvent.eventType =
      .ok ingestConfig := by
  rfl

theorem ingest_prepared :
    ∃ request, alertRequest 3 ingestConfig ingestEvent firstMidnight =
      .ok request := by
  have typed : hasUrlType (withoutFragment (unwrapUrl ingestConfig.url)) =
      true := by
    decide +kernel
  obtain ⟨body, written⟩ :=
    (@serializeEventPayload_ok_iff 1 ingestEvent firstMidnight).mpr ⟨_, rfl⟩
  exact ⟨_, bind_ok_iff.mpr ⟨body, written, urlRequest_of_hasUrlType typed⟩⟩

theorem emitAlert_law_ingest :
    ∃ request, AlertLaw (request, 5) 2 (fun _ => .ok ⟨some (.ok 503), none⟩)
      (sendsOf (emission 3 wholeSeconds ingestEnviron ingestEvent firstMidnight
        fun _ => .ok ⟨some (.ok 503), none⟩).1)
      (emission 3 wholeSeconds ingestEnviron ingestEvent firstMidnight
        fun _ => .ok ⟨some (.ok 503), none⟩).2 := by
  obtain ⟨request, prepared⟩ := ingest_prepared
  exact ⟨request, (emitAlert_law ingest_configured prepared _).1⟩

def keyboardInterrupt : AlertExc where
  isException := false
  alertClass := none
  httpCode := none
  connection := false
  className := "KeyboardInterrupt"
  text := ""
  derived := by decide

def bareAlertError : AlertExc where
  isException := true
  alertClass := some .alertError
  httpCode := none
  connection := false
  className := "AlertError"
  text := AlertExc.alertText "SENDER" "EXECUTION_FAILED" "sender" "closed"
  derived := fun _ => rfl

/-- Every attempt fails with `exc`, the first one decides, and `exc` itself
is raised. -/
def Escapes (exc : AlertExc) : Prop :=
  FirstFinal SenderOutcome.Transient (fun _ => .error exc) 0 ∧
  ¬ SenderOutcome.Delivers (.error exc) ∧
  (emission 3 wholeSeconds ingestEnviron ingestEvent firstMidnight
    fun _ => .error exc).2 = .error exc

theorem escapes_of_foreign {exc : AlertExc} (foreign : exc.Foreign)
    (final : ¬ exc.Transient) : Escapes exc := by
  have raised : SenderOutcome.reading (.error exc) = .error exc := rfl
  obtain ⟨request, prepared⟩ := ingest_prepared
  obtain ⟨retried, -, -, ended⟩ := emission_stopsAfter ingest_configured
    prepared fun _ => .error exc
  rw [resultOf_of_raised raised, handled_of_foreign foreign] at ended
  refine ⟨⟨nofun, ?_⟩, ?_, ended⟩
  · rwa [transient_of_raised raised]
  · simp [SenderOutcome.Delivers, raised]

/-- A failure on the first attempt that raises no `PermanentAlertError`. -/
theorem foreignErrors_escape :
    (Escapes keyboardInterrupt ∧
      keyboardInterrupt.alertClass ≠ some .permanentAlertError) ∧
    (Escapes bareAlertError ∧
      bareAlertError.alertClass ≠ some .permanentAlertError) := by
  constructor
  · have final : ¬ keyboardInterrupt.Transient := by
      simp [AlertExc.Transient, keyboardInterrupt]
    exact ⟨escapes_of_foreign (.inr rfl) final, by decide⟩
  · have final : ¬ bareAlertError.Transient := by
      simp [AlertExc.Transient, bareAlertError]
    exact ⟨escapes_of_foreign (.inl rfl) final, by decide⟩

end Ingest

end PipelineOps.Tools
