namespace PipelineOps.Library

universe u v

variable {ε : Type u} {α β : Type v}

/-! How a fallible computation can end. -/

theorem bind_ok_iff {first : Except ε α} {next : α → Except ε β} {result : β} :
    (first >>= next) = .ok result ↔
      ∃ value, first = .ok value ∧ next value = .ok result := by
  cases first <;> simp [bind, Except.bind]

theorem bind_returns_iff {first : Except ε α} {next : α → Except ε β} :
    (∃ result, (first >>= next) = .ok result) ↔
      ∃ value, first = .ok value ∧ ∃ result, next value = .ok result := by
  cases first <;> simp [bind, Except.bind]

theorem map_ok_iff {first : Except ε α} {convert : α → β} {result : β} :
    first.map convert = .ok result ↔
      ∃ value, first = .ok value ∧ convert value = result := by
  cases first <;> simp [Except.map]

theorem pure_bind_injective {convert : α → β}
    (injective : ∀ {value other}, convert value = convert other →
      value = other) {first second : Except ε α}
    (same : (first >>= fun value => pure (convert value)) =
      second >>= fun value => pure (convert value)) : first = second := by
  cases first with
  | error error =>
      cases second with
      | error other => exact congrArg _ (Except.error.inj same)
      | ok other => cases same
  | ok value =>
      cases second with
      | error other => cases same
      | ok other => exact congrArg _ (injective (Except.ok.inj same))

theorem guard_ok_iff {failing : Prop} [Decidable failing] {error : ε}
    {rest : Except ε α} {result : α} :
    (if failing then .error error else rest) = .ok result ↔
      ¬ failing ∧ rest = .ok result := by
  by_cases failed : failing <;> simp [failed]

theorem returns_iff {first : Except ε α} :
    (∃ value, first = .ok value) ↔ ¬ ∃ error, first = .error error := by
  cases first <;> simp

theorem mapM_eq_ok {γ : Type v} {items : List γ} {step : γ → Except ε α}
    {value : γ → α} (each : ∀ item ∈ items, step item = .ok (value item)) :
    items.mapM step = .ok (items.map value) := by
  induction items with
  | nil => rfl
  | cons item rest induction =>
      rw [List.mapM_cons, each item List.mem_cons_self,
        induction fun other member =>
          each other (List.mem_cons_of_mem item member)]
      rfl

/-- A result, unless one of these failures comes first. -/
def firstFailure : List ε → α → Except ε α
  | [], result => .ok result
  | failure :: _, _ => .error failure

section FirstFailure

variable {failures more : List ε} {result : α}

@[simp] theorem firstFailure_nil (result : α) :
    firstFailure ([] : List ε) result = .ok result := rfl

theorem firstFailure_of_head? {failure : ε}
    (first : failures.head? = some failure) :
    firstFailure failures result = .error failure := by
  cases failures with
  | nil => cases first
  | cons other rest =>
      cases first
      rfl

theorem firstFailure_bind {next : α → Except ε β} {final : β}
    (continues : next result = firstFailure more final) :
    (firstFailure failures result >>= next) =
      firstFailure (failures ++ more) final := by
  cases failures with
  | nil => exact continues
  | cons failure rest => rfl

theorem map_firstFailure {convert : α → β} :
    (firstFailure failures result).map convert =
      firstFailure failures (convert result) := by
  cases failures <;> rfl

theorem mapM_firstFailure {γ : Type v} {items : List γ} {step : γ → Except ε α}
    {failing : γ → List ε} {value : γ → α}
    (each : ∀ item ∈ items,
      step item = firstFailure (failing item) (value item)) :
    items.mapM step =
      firstFailure (items.flatMap failing) (items.map value) := by
  induction items with
  | nil => rfl
  | cons item rest induction =>
      have further := induction fun other member =>
        each other (List.mem_cons_of_mem item member)
      rw [List.mapM_cons, each item List.mem_cons_self, further,
        List.flatMap_cons, List.map_cons]
      refine firstFailure_bind ?_
      exact map_firstFailure

end FirstFailure

/-- A computation that returns a good value, or fails in an allowed way. -/
def Ends (good : α → Prop) (allowed : ε → Prop) : Except ε α → Prop
  | .ok value => good value
  | .error error => allowed error

@[simp] theorem ends_ok {good : α → Prop} {allowed : ε → Prop} {value : α} :
    Ends good allowed (.ok value) ↔ good value := Iff.rfl

@[simp] theorem ends_error {good : α → Prop} {allowed : ε → Prop} {error : ε} :
    Ends good allowed (.error error : Except ε α) ↔ allowed error := Iff.rfl

end PipelineOps.Library
