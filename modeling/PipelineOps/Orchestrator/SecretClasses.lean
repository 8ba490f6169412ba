import PipelineOps.Orchestrator.Secrets

namespace PipelineOps.Orchestrator

open PipelineOps.Library
open PipelineOps.Python

/-! How the failures of secret backends are classified. -/

section Misses

/-- The backend has no value for the key, and says so by `KeyError(key)`. -/
def Misses (backend : SecretBackend) (key : String) : Prop :=
  backend.get (strip key) = .error (.keyError (strip key))

def RaisesPermanent (outcome : Except Exc String) : Prop :=
  ∃ exc, outcome = .error exc ∧ exc.cls = .permanentSecretError

/-- The text that the classification searches. -/
def reasonOf (exc : Exc) : String :=
  let text := strip exc.message
  if text = "" then exc.className else text

def ContainsMarker (text : String) : Prop :=
  ∃ marker ∈ transientMarkers, containsText marker (lower text) = true

instance (text : String) : Decidable (ContainsMarker text) :=
  inferInstanceAs (Decidable (∃ marker ∈ _, _))

/-- The classes of failures that are transient whatever they say. -/
def IsOutage (cls : ExcClass) : Prop :=
  cls = .timeoutError ∨ cls = .connectionError

instance (cls : ExcClass) : Decidable (IsOutage cls) :=
  inferInstanceAs (Decidable (_ ∨ _))

variable {backend another : SecretBackend} {key provider : String} {exc : Exc}

theorem classifySecretError_eq :
    classifySecretError exc key provider =
      secretError
        (if IsOutage exc.cls ∨ ContainsMarker (reasonOf exc) then .transient
          else .permanent) key provider (reasonOf exc) := by
  have searched : (transientMarkers.any fun marker =>
      containsText marker (lower (reasonOf exc))) = true ↔
        ContainsMarker (reasonOf exc) := by
    rw [ContainsMarker, List.any_eq_true]
  have unfolded : classifySecretError exc key provider =
      if IsOutage exc.cls ∨ ContainsMarker (reasonOf exc) then
        secretError .transient key provider (reasonOf exc)
      else secretError .permanent key provider (reasonOf exc) := by
    simp only [reasonOf] at searched
    simp only [classifySecretError, IsOutage, reasonOf, searched, or_assoc]
  rw [unfolded]
  by_cases transient : IsOutage exc.cls ∨ ContainsMarker (reasonOf exc)
  · rw [if_pos transient, if_pos transient]
  · rw [if_neg transient, if_neg transient]

/-- A `repr` begins and ends with its quotes. -/
theorem reasonOf_keyError (key : String) :
    reasonOf (.keyError key) = reprText key := by
  have kept : strip (reprText key) = reprText key := by
    rw [strip, reprText]
    rw [String.toList_ofList, stripBy_of_ends]
    · split <;> rfl
    · split <;> rfl
  have filled : reprText key ≠ "" := by
    intro empty
    have characters := congrArg String.toList empty
    rw [reprText, String.toList_ofList] at characters
    simp at characters
  rw [reasonOf, Exc.keyError, kept]
  exact if_neg filled

def classOf (outcome : Except Exc String) : Option SecretClass :=
  match outcome with
  | .error exc =>
      if exc.cls = .transientSecretError then some .transient
      else if exc.cls = .permanentSecretError then some .permanent
      else none
  | .ok _ => none

theorem classOf_secretError (classification : SecretClass)
    (key provider reason : String) :
    classOf (.error (secretError classification key provider reason)) =
      some classification := by
  cases classification <;> rfl

theorem raisesPermanent_iff {outcome : Except Exc String} :
    RaisesPermanent outcome ↔ classOf outcome = some .permanent := by
  cases outcome with
  | ok value => simp [RaisesPermanent, classOf]
  | error exc =>
      by_cases transient : exc.cls = .transientSecretError
      · simp [RaisesPermanent, classOf, transient]
      · simp [RaisesPermanent, classOf, transient]

theorem classOf_getSecretFrom (asked : strip key ≠ "")
    (fails : backend.get (strip key) = .error exc)
    (foreign : isSecretError exc = false) :
    classOf (getSecretFrom backend key) = some
      (if IsOutage exc.cls ∨ ContainsMarker (reasonOf exc) then .transient
        else .permanent) := by
  simp only [getSecretFrom, if_neg asked, getFromBackend, fails, foreign,
    classifySecretError_eq]
  exact classOf_secretError ..

/-- A miss is permanent unless the `repr` of the key sounds transient. -/
theorem raisesPermanent_of_misses (misses : Misses backend key) :
    RaisesPermanent (getSecretFrom backend key) ↔
      ¬ ContainsMarker (reprText (strip key)) := by
  rw [raisesPermanent_iff]
  by_cases asked : strip key = ""
  · have blank : getSecretFrom backend key = .error (secretError .permanent key
        "secrets" "empty key is not allowed") := if_pos asked
    rw [blank, classOf_secretError, asked]
    exact iff_of_true rfl (by decide)
  · have calm : ¬ IsOutage (Exc.keyError (strip key)).cls := by
      simp [IsOutage, Exc.keyError]
    rw [classOf_getSecretFrom asked misses rfl, reasonOf_keyError]
    simp only [calm, false_or, Option.some.injEq]
    by_cases marked : ContainsMarker (reprText (strip key))
    · simp [marked]
    · simp [marked]

/-- One failure of a backend, with the text it has for each key. -/
structure BackendFailure where
  cls : ExcClass
  message : String → String

def BackendFailure.raise (failure : BackendFailure) (key : String) : Exc :=
  ⟨failure.cls, failure.message key⟩

def FailsWith (backend : SecretBackend) (failure : BackendFailure)
    (key : String) : Prop :=
  strip key ≠ "" ∧ backend.get (strip key) = .error (failure.raise (strip key))

/-- The classes of failures that decide by themselves. -/
def IsSettled (cls : ExcClass) : Prop :=
  IsOutage cls ∨ cls = .transientSecretError ∨ cls = .permanentSecretError

def SoundsTransient (failure : BackendFailure) (key : String) : Prop :=
  ContainsMarker (reasonOf (failure.raise (strip key)))

theorem classOf_of_secretError (asked : strip key ≠ "")
    (fails : backend.get (strip key) = .error exc)
    (own : isSecretError exc = true) :
    classOf (getSecretFrom backend key) = classOf (.error exc) := by
  simp only [getSecretFrom, if_neg asked, getFromBackend, fails, own, if_true]

theorem isSecretError_iff :
    isSecretError exc = true ↔
      exc.cls = .transientSecretError ∨ exc.cls = .permanentSecretError := by
  simp [isSecretError]

/-- Two keys share the class of a failure when its class settles it, or both
texts sound transient, or neither does. -/
theorem sameClass_iff {failure : BackendFailure} {first second : String}
    (fails : FailsWith backend failure first)
    (failsToo : FailsWith another failure second) :
    classOf (getSecretFrom backend first) =
        classOf (getSecretFrom another second) ↔
      IsSettled failure.cls ∨
        (SoundsTransient failure first ↔ SoundsTransient failure second) := by
  obtain ⟨asked, failed⟩ := fails
  obtain ⟨askedToo, failedToo⟩ := failsToo
  by_cases own : isSecretError (failure.raise (strip first)) = true
  · have settled : IsSettled failure.cls := .inr (isSecretError_iff.mp own)
    have ownToo : isSecretError (failure.raise (strip second)) = true :=
      isSecretError_iff.mpr (isSecretError_iff.mp own)
    rw [classOf_of_secretError asked failed own,
      classOf_of_secretError askedToo failedToo ownToo]
    exact iff_of_true rfl (.inl settled)
  · have foreign := Bool.eq_false_iff.mpr own
    have settled : IsSettled failure.cls ↔ IsOutage failure.cls := by
      rw [isSecretError_iff] at own
      exact or_iff_left own
    rw [classOf_getSecretFrom asked failed foreign,
      classOf_getSecretFrom askedToo failedToo foreign, settled]
    simp only [BackendFailure.raise, SoundsTransient, Option.some.injEq]
    by_cases outage : IsOutage failure.cls
    · simp [outage]
    · simp only [outage, false_or]
      split <;> split <;> simp_all

end Misses

section Databricks

variable {env : SecretEnv} {key scope : String}

/-- The backend of Databricks misses a key whose value is absent or blank. -/
theorem databricksSecretBackend_misses
    {secretsGet : String → String → Except Exc Value} {value : Value}
    (resolved : env.dbutils = .ok secretsGet)
    (found : secretsGet scope (strip key) = .ok value)
    (blank : ∀ text, value = .str text → strip text = "") :
    Misses (databricksSecretBackend env scope) key := by
  cases value with
  | str text =>
      simp [Misses, databricksSecretBackend, resolved, found, blank text rfl]
  | _ => simp [Misses, databricksSecretBackend, resolved, found]

/-- Without an explicit backend and without an environment variable, the scope
is asked. -/
theorem getSecret_eq_getSecretFrom
    (absent : ∃ exc, (envSecretsBackend env).get (strip key) = .error exc)
    (configured : secretScope env ≠ "") :
    getSecret env key = getSecretFrom
      (databricksSecretBackend env (secretScope env)) key := by
  obtain ⟨exc, absent⟩ := absent
  simp only [getSecret, getSecretFrom, absent, if_neg configured]

end Databricks

def emptyBackend : SecretBackend := ⟨"vault", fun key => .error (.keyError key)⟩

end PipelineOps.Orchestrator
