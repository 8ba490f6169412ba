import PipelineOps.Orchestrator.Settings
import PipelineOps.Tools.LlmBudget

namespace PipelineOps.Tools

open PipelineOps.Library
open PipelineOps.Python
open PipelineOps.Orchestrator

/-! The daily cap under the environments that the settings accept. -/

section Environment

variable {validationText : String → String → String}
  {environ : Dict String String} {settings : RuntimeSettings}

/-- The paths whose database belongs to one connection. -/
def IsPrivate (dbPath : String) : Prop := dbPath = ":memory:" ∨ dbPath = ""

/-- What SQLite makes of a path. -/
def SqlitePaths {φ : Type} (file : String → Option φ) : Prop :=
  ∀ dbPath, file dbPath = none ↔ IsPrivate dbPath

/-- A call that takes its path from the environment, or from the settings. -/
def LlmCall.Under (call : LlmCall) (environ : Dict String String)
    (settings : RuntimeSettings) : Prop :=
  call.environ = environ ∧ (call.checkpointDbPath = none ∨
    call.checkpointDbPath = some settings.checkpointDbPath)

/-- The settings and the client refuse the text, or both read one cap. -/
def SameCap (raw : Option String) : Prop :=
  ((∃ exc, parseLlmDailyCap raw = .error exc) ∧
      ∃ exc, parseDailyCap raw = .error exc) ∨
    ∃ cap : { value : Int // 0 < value }, parseLlmDailyCap raw = .ok cap ∧
      parseDailyCap raw = .ok cap

def IsBlank (raw : Option String) : Prop :=
  ∃ text, raw = some text ∧ strip text = ""

/-- Behind the client's look at blanks both rest on `int`. -/
theorem sameCap_of_not_blank {raw : Option String} (filled : ¬ IsBlank raw) :
    SameCap raw := by
  cases raw with
  | none => exact .inr ⟨⟨30, by decide⟩, rfl, rfl⟩
  | some text =>
      have kept : ¬ strip text = "" := fun blank => filled ⟨text, rfl, blank⟩
      rw [SameCap, parseLlmDailyCap, parseDailyCap]
      simp only [if_neg kept]
      cases Value.parseInt text with
      | none => exact .inl ⟨⟨_, rfl⟩, _, rfl⟩
      | some value =>
          by_cases positive : 0 < value
          · refine .inr ⟨⟨value, positive⟩, dif_pos positive, ?_⟩
            exact if_neg (by omega)
          · refine .inl ⟨⟨_, dif_neg positive⟩, ?_⟩
            exact ⟨_, if_pos (by omega)⟩

theorem parseLlmDailyCap_of_blank {raw : Option String} (blank : IsBlank raw) :
    parseLlmDailyCap raw = .error invalidLlmDailyCap := by
  obtain ⟨text, rfl, empty⟩ := blank
  rw [parseLlmDailyCap]
  simp only [Value.parseInt_of_blank empty]

theorem parseDailyCap_of_blank {raw : Option String} (blank : IsBlank raw) :
    parseDailyCap raw = .ok defaultLlmDailyCap := by
  obtain ⟨text, rfl, empty⟩ := blank
  exact if_pos empty

/-- One variable has one meaning unless it is set to blanks. -/
theorem sameCap_iff (raw : Option String) : SameCap raw ↔ ¬ IsBlank raw := by
  constructor
  · intro same blank
    rcases same with ⟨-, exc, refused⟩ | ⟨cap, accepted, -⟩
    · rw [parseDailyCap_of_blank blank] at refused
      cases refused
    · rw [parseLlmDailyCap_of_blank blank] at accepted
      cases accepted
  · exact sameCap_of_not_blank

theorem emptyCap_split : ¬ SameCap (some "") := by
  intro same
  rcases same with ⟨-, exc, refused⟩ | ⟨cap, accepted, -⟩
  · cases refused
  · cases accepted

/-- The client reads every cap that the settings accept as they do. -/
theorem parseDailyCap_of_parseLlmDailyCap {raw : Option String} {cap : Int}
    (parsed : (parseLlmDailyCap raw).map Subtype.val = .ok cap) :
    parseDailyCap raw = .ok cap := by
  obtain ⟨accepted, read, rfl⟩ := map_ok_iff.mp parsed
  have filled : ¬ IsBlank raw := by
    intro blank
    rw [parseLlmDailyCap_of_blank blank] at read
    cases read
  rcases sameCap_of_not_blank filled with ⟨⟨exc, refused⟩, -⟩ | ⟨cap, own, same⟩
  · rw [refused] at read
    cases read
  · rw [own] at read
    obtain rfl := Except.ok.inj read
    exact same

variable {call : LlmCall}

theorem LlmCall.Under.dailyCap (under : call.Under environ settings)
    (accepted : loadRuntimeSettings validationText environ = .ok settings) :
    call.dailyCap = .ok settings.llmDailyCap := by
  rw [LlmCall.dailyCap, under.1]
  exact parseDailyCap_of_parseLlmDailyCap (loadRuntimeSettings_ok accepted).2

theorem LlmCall.Under.dbPath (under : call.Under environ settings)
    (accepted : loadRuntimeSettings validationText environ = .ok settings) :
    call.dbPath = settings.checkpointDbPath := by
  obtain ⟨rfl, given⟩ := under
  have path := (loadRuntimeSettings_ok accepted).1
  have default : (call.environ.find "CHECKPOINT_DB_PATH").getD
      defaultCheckpointDbPath = settings.checkpointDbPath := path.symm
  rw [LlmCall.dbPath]
  rcases given with unset | passed
  · rw [unset]
    exact default
  · rw [passed]
    dsimp only
    split
    · exact default
    · rfl

end Environment

section Days

variable {dbPath dayKey : String} {dailyCap : Int}
  {trace : List LlmExchange} {call : LlmCall}

/-- The clock shows this day whenever it is read. -/
def OnDay (dayKey : String) (trace : List LlmExchange) : Prop :=
  ∀ zone (now : DateTime),
    (⟨.now zone, now⟩ : LlmExchange) ∈ trace → todayKstKey now = dayKey

theorem consumeDailyBudget_onDay {result : Except LlmExc Bool}
    (path : (consumeDailyBudget dbPath dailyCap).Path trace result)
    (onDay : OnDay dayKey trace) :
    ∀ charge ∈ trace.filterMap budgetCharge, charge.dayKey = dayKey := by
  have quiet : (ensureParentDir dbPath).Asks fun request =>
      request.isUpsert = false :=
    ensureParentDir_asks dbPath fun _ => rfl
  obtain ⟨made, first, second, rfl, early, behind⟩ :=
    Dialogue.path_bind_iff.mp path
  rw [List.filterMap_append, budgetCharges_of_silent (quiet.path early),
    List.nil_append]
  cases made with
  | error exc =>
      obtain ⟨rfl, rfl⟩ := Dialogue.path_done_iff.mp behind
      simp
  | ok made =>
      cases behind with
      | @ask _ _ now _ _ creating =>
      cases creating with
      | @ask _ _ created _ _ counting =>
      cases created with
      | error exc =>
          obtain ⟨rfl, rfl⟩ := Dialogue.path_done_iff.mp counting
          simp [budgetCharge]
      | ok created =>
          cases counting with
          | @ask _ _ counted _ _ ending =>
          have today : todayKstKey now = dayKey := onDay kst now (by simp)
          cases counted with
          | error exc =>
              obtain ⟨rfl, rfl⟩ := Dialogue.path_done_iff.mp ending
              simp [budgetCharge]
          | ok rowcount =>
              obtain ⟨rfl, rfl⟩ := Dialogue.path_done_iff.mp ending
              simp [budgetCharge, today]

theorem invokeLlm_onDay {result : Except LlmExc Value}
    (capped : call.dailyCap = .ok dailyCap)
    (path : (invokeLlm call).Path trace result)
    (onDay : OnDay dayKey trace) :
    ∀ charge ∈ trace.filterMap budgetCharge, charge.dayKey = dayKey := by
  rw [invokeLlm, capped] at path
  obtain ⟨consumed, first, second, rfl, budget, behind⟩ :=
    Dialogue.path_bind_iff.mp path
  have silent : second.filterMap budgetCharge = [] := by
    cases consumed with
    | error exc =>
        obtain ⟨rfl, -⟩ := Dialogue.path_done_iff.mp behind
        rfl
    | ok admitted =>
        cases admitted with
        | false =>
            cases behind with
            | ask ending =>
                obtain ⟨rfl, -⟩ := Dialogue.path_done_iff.mp ending
                rfl
        | true =>
            have free : (attemptLoop call.hasParser retryDelaysSeconds).Asks
                fun request => request.isUpsert = false :=
              attemptLoop_asks (fun _ => rfl) (fun _ => rfl) (fun _ => rfl) _ _
            exact budgetCharges_of_silent (free.path behind)
  rw [List.filterMap_append, silent, List.append_nil]
  apply consumeDailyBudget_onDay budget
  intro zone now member
  exact onDay zone now (List.mem_append_left _ member)

/-- The calls that invoke their requester. -/
def requesting (traces : List (List LlmExchange)) : Nat :=
  traces.countP fun trace => !(attemptsOf trace).isEmpty

def admissionsOn (dayKey : String) (trace : List LlmExchange) : List Charge :=
  (entriesOf Charge.dayKey dayKey (trace.filterMap budgetCharge)).filter
    Charge.admitted

theorem admissionsOn_append (first second : List LlmExchange) :
    admissionsOn dayKey (first ++ second) =
      admissionsOn dayKey first ++ admissionsOn dayKey second := by
  simp [admissionsOn, entriesOf]

/-- A call that invokes its requester was admitted. -/
theorem admissionsOn_of_requesting {result : Except LlmExc Value}
    (capped : call.dailyCap = .ok dailyCap)
    (path : (invokeLlm call).Path trace result)
    (onDay : OnDay dayKey trace) :
    requesting [trace] ≤ (admissionsOn dayKey trace).length := by
  have days := invokeLlm_onDay capped path onDay
  cases LlmCall.budgeted capped path.reaches with
  | uncharged charges attempts failed => simp [requesting, attempts]
  | refused day now charges dated attempts failed =>
      simp [requesting, attempts]
  | admitted day now charges dated tried =>
      rw [charges, List.forall_mem_singleton] at days
      have counted : (admissionsOn dayKey trace).length = 1 := by
        simp [admissionsOn, entriesOf, charges, ← days]
      rw [counted]
      exact List.countP_le_length

end Days

section Sequences

variable {φ : Type} [DecidableEq φ] {file : String → Option φ}
  {database : φ} {start before after : Usage φ} {dayKey : String}
  {dailyCap : Int} {calls : List LlmCall} {traces : List (List LlmExchange)}
  {validationText : String → String → String}
  {environ : Dict String String} {settings : RuntimeSettings}

/-- Calls that are made one after another. -/
inductive InTurn (file : String → Option φ) :
    Usage φ → List LlmCall → List (List LlmExchange) → Usage φ → Prop
  | nil (usage : Usage φ) : InTurn file usage [] [] usage
  | cons {before middle after : Usage φ} {call : LlmCall}
      {calls : List LlmCall} {trace : List LlmExchange}
      {traces : List (List LlmExchange)} {result : Except LlmExc Value}
      (path : (invokeLlm call).Path trace result)
      (served : Dialogue.Served (UsageServes file) before trace middle)
      (rest : InTurn file middle calls traces after) :
      InTurn file before (call :: calls) (trace :: traces) after

theorem InTurn.served (inTurn : InTurn file before calls traces after) :
    Dialogue.Served (UsageServes file) before traces.flatten after := by
  induction inTurn with
  | nil usage => exact .nil usage
  | cons path served rest induction =>
      rw [List.flatten_cons]
      exact Dialogue.served_append_iff.mpr ⟨_, served, induction⟩

theorem InTurn.requesting_le (inTurn : InTurn file before calls traces after)
    (capped : ∀ call ∈ calls, call.dailyCap = .ok dailyCap)
    (onDay : ∀ trace ∈ traces, OnDay dayKey trace) :
    requesting traces ≤ (admissionsOn dayKey traces.flatten).length := by
  induction inTurn with
  | nil usage => exact Nat.zero_le _
  | @cons _ _ _ call calls trace traces _ path served rest induction =>
      rw [List.forall_mem_cons] at capped onDay
      have own := admissionsOn_of_requesting capped.1 path onDay.1
      have others := induction capped.2 onDay.2
      have split : requesting (trace :: traces) =
          requesting [trace] + requesting traces := by
        rw [requesting, ← List.singleton_append, List.countP_append]
        rfl
      rw [List.flatten_cons, admissionsOn_append, List.length_append, split]
      exact Nat.add_le_add own others

theorem InTurn.budgets (inTurn : InTurn file before calls traces after)
    (capped : ∀ call ∈ calls, call.dailyCap = .ok dailyCap)
    (shared : ∀ call ∈ calls, file call.dbPath = some database) :
    ∀ exchange ∈ traces.flatten, 0 < dailyCap ∧ ∃ dbPath,
      file dbPath = some database ∧ exchange.1.Budgets dbPath dailyCap := by
  induction inTurn with
  | nil usage => simp
  | cons path served rest induction =>
      rw [List.forall_mem_cons] at capped shared
      rw [List.flatten_cons, List.forall_mem_append]
      refine ⟨fun exchange member => ?_, induction capped.2 shared.2⟩
      exact ⟨parseDailyCap_pos capped.1, _, shared.1,
        (invokeLlm_asks capped.1).path path exchange member⟩

/-- Calls one after another on one database stay within its cap. -/
theorem InTurn.requesting_le_cap
    (inTurn : InTurn file before calls traces after)
    (capped : ∀ call ∈ calls, call.dailyCap = .ok dailyCap)
    (shared : ∀ call ∈ calls, file call.dbPath = some database)
    (onDay : ∀ trace ∈ traces, OnDay dayKey trace) :
    requesting traces ≤ dailyCap.toNat := by
  have metered := metered_of_served inTurn.served
    (inTurn.budgets capped shared)
  have admitted := inTurn.requesting_le capped onDay
  rw [admissionsOn, metered.admitted_eq_take, List.length_take] at admitted
  omega

/-- In every run of calls on one day at most as many invoke their requester as
the settings say. -/
def CapHolds (file : String → Option φ) (environ : Dict String String)
    (settings : RuntimeSettings) : Prop :=
  ∀ start calls traces after dayKey,
    (∀ call ∈ calls, LlmCall.Under call environ settings) →
    InTurn file start calls traces after →
    (∀ trace ∈ traces, OnDay dayKey trace) →
    requesting traces ≤ settings.llmDailyCap

theorem capHolds_of_named
    (accepted : loadRuntimeSettings validationText environ = .ok settings)
    (named : file settings.checkpointDbPath = some database) :
    CapHolds file environ settings := by
  intro start calls traces after dayKey under inTurn onDay
  have capped : ∀ call ∈ calls, call.dailyCap = .ok settings.llmDailyCap :=
    fun call member => (under call member).dailyCap accepted
  have shared : ∀ call ∈ calls, file call.dbPath = some database := by
    intro call member
    rw [(under call member).dbPath accepted]
    exact named
  have within := inTurn.requesting_le_cap capped shared onDay
  have positive := settings.positive
  omega

theorem UsageServes.not_charged (unbound : sqliteIntegerLimit ≤ dailyCap)
    {request : LlmRequest} {answer : LlmAnswer request} {dbPath : String}
    (serves : UsageServes file before request answer after)
    (budgets : request.Budgets dbPath dailyCap) :
    budgetCharge ⟨request, answer⟩ = none := by
  cases serves with
  | counted path dayKey cap other table named stored bound =>
      obtain ⟨-, rfl⟩ := budgets
      omega
  | countedApart path dayKey cap unnamed bound =>
      obtain ⟨-, rfl⟩ := budgets
      omega
  | _ => rfl

/-- A cap that cannot be bound lets no call through. -/
theorem InTurn.requesting_eq_zero
    (inTurn : InTurn file before calls traces after)
    (capped : ∀ call ∈ calls, call.dailyCap = .ok dailyCap)
    (unbound : sqliteIntegerLimit ≤ dailyCap) : requesting traces = 0 := by
  rw [requesting, List.countP_eq_zero]
  induction inTurn with
  | nil usage => simp
  | cons path served rest induction =>
      rw [List.forall_mem_cons] at capped ⊢
      refine ⟨?_, induction capped.2⟩
      have charges : _ = [] := List.filterMap_eq_nil_iff.mpr
        fun exchange member => by
          obtain ⟨state, next, step⟩ := served.step_of_mem member
          exact step.not_charged unbound
            ((invokeLlm_asks capped.1).path path exchange member)
      have silent := ((LlmCall.budgeted capped.1 path.reaches).of_uncharged
        charges).1
      simp [silent]

end Sequences

section Private

variable {φ : Type} [DecidableEq φ] {file : String → Option φ}
  {validationText : String → String → String}
  {environ : Dict String String} {settings : RuntimeSettings}

def lateCall (environ : Dict String String) : LlmCall where
  environ := environ
  checkpointDbPath := none
  hasParser := false

def directoryTrace (dbPath : String) : List LlmExchange :=
  if dbPath = ":memory:" then [] else [⟨.makeParentDir dbPath, .ok ()⟩]

/-- A database of its own counts every call as the first. -/
def countingTrace (dbPath : String) (dailyCap : Int) : List LlmExchange :=
  [⟨.now kst, lateEvening⟩, ⟨.createUsageTable dbPath, .ok ()⟩,
    ⟨.upsertUsage dbPath (todayKstKey lateEvening) dailyCap, .ok 1⟩]

def requesterTrace : List LlmExchange :=
  [⟨.requester requestTimeoutSeconds, .ok ⟨none, .str "done"⟩⟩]

def lateTrace (dbPath : String) (dailyCap : Int) : List LlmExchange :=
  (directoryTrace dbPath ++ countingTrace dbPath dailyCap) ++ requesterTrace

theorem consumeDailyBudget_late (dbPath : String) (dailyCap : Int) :
    (consumeDailyBudget dbPath dailyCap).Path
      (directoryTrace dbPath ++ countingTrace dbPath dailyCap)
      (.ok true) := by
  have directory :
      (ensureParentDir dbPath).Path (directoryTrace dbPath) (.ok ()) := by
    unfold ensureParentDir directoryTrace
    split
    · exact .done _
    · exact .ask (.done _)
  refine Dialogue.path_bind_iff.mpr ⟨_, _, _, rfl, directory, ?_⟩
  exact .ask (.ask (.ask (.done _)))

theorem lateTrace_path
    (accepted : loadRuntimeSettings validationText environ = .ok settings) :
    (invokeLlm (lateCall environ)).Path
      (lateTrace settings.checkpointDbPath settings.llmDailyCap)
      (.ok (.str "done")) := by
  have under : (lateCall environ).Under environ settings := ⟨rfl, .inl rfl⟩
  have attempt : (attemptLoop false retryDelaysSeconds).Path requesterTrace
      (.ok (.str "done")) :=
    Dialogue.path_bind_iff.mpr
      ⟨.ok (.str "done"), requesterTrace, [], rfl, .ask (.done _), .done _⟩
  rw [invokeLlm, under.dailyCap accepted, under.dbPath accepted]
  exact Dialogue.path_bind_iff.mpr
    ⟨_, _, _, rfl, consumeDailyBudget_late _ _, attempt⟩

theorem lateTrace_onDay (dbPath : String) (dailyCap : Int) :
    OnDay (todayKstKey lateEvening) (lateTrace dbPath dailyCap) := by
  intro zone now member
  have read : (⟨.now zone, now⟩ : LlmExchange) = ⟨.now kst, lateEvening⟩ := by
    unfold lateTrace directoryTrace countingTrace requesterTrace at member
    split at member
    · simpa using member
    · simpa using member
  cases read
  rfl

theorem lateTrace_served {dbPath : String} {dailyCap : Int} (usage : Usage φ)
    (unnamed : file dbPath = none) (bound : dailyCap < sqliteIntegerLimit) :
    Dialogue.Served (UsageServes file) usage (lateTrace dbPath dailyCap)
      usage := by
  have directory : Dialogue.Served (UsageServes file) usage
      (directoryTrace dbPath) usage := by
    unfold directoryTrace
    split
    · exact .nil usage
    · exact .cons (.directory usage dbPath _) (.nil usage)
  have counting : Dialogue.Served (UsageServes file) usage
      (countingTrace dbPath dailyCap) usage :=
    .cons (.clock usage kst lateEvening)
      (.cons (.createdApart usage dbPath unnamed)
        (.cons (.countedApart usage dbPath _ dailyCap unnamed bound)
          (.nil usage)))
  have requested : Dialogue.Served (UsageServes file) usage requesterTrace
      usage :=
    .cons (.requester usage _ _) (.nil usage)
  exact Dialogue.served_append_iff.mpr ⟨usage,
    Dialogue.served_append_iff.mpr ⟨usage, directory, counting⟩, requested⟩

theorem attemptsOf_lateTrace (dbPath : String) (dailyCap : Int) :
    attemptsOf (lateTrace dbPath dailyCap) =
      [⟨.ok ⟨none, .str "done"⟩, none⟩] := by
  unfold lateTrace directoryTrace
  split <;> rfl

theorem not_capHolds_of_unnamed
    (accepted : loadRuntimeSettings validationText environ = .ok settings)
    (unnamed : file settings.checkpointDbPath = none)
    (bound : settings.llmDailyCap < sqliteIntegerLimit) :
    ¬ CapHolds file environ settings := by
  intro holds
  have inTurn : ∀ count, InTurn file .empty
      (List.replicate count (lateCall environ))
      (List.replicate count
        (lateTrace settings.checkpointDbPath settings.llmDailyCap))
      .empty := by
    intro count
    induction count with
    | zero => exact .nil _
    | succ count induction =>
        exact .cons (lateTrace_path accepted)
          (lateTrace_served .empty unnamed bound) induction
  have within := holds _ _ _ _ (todayKstKey lateEvening)
    (fun call member => by
      rw [List.eq_of_mem_replicate member]
      exact ⟨rfl, .inl rfl⟩)
    (inTurn (settings.llmDailyCap.toNat + 1))
    (fun trace member => by
      rw [List.eq_of_mem_replicate member]
      exact lateTrace_onDay _ _)
  rw [requesting, List.countP_replicate, attemptsOf_lateTrace,
    if_pos (by rfl)] at within
  have positive := settings.positive
  omega

/-- The cap holds unless every call has a database of its own. -/
theorem capHolds_iff (paths : SqlitePaths file)
    (accepted : loadRuntimeSettings validationText environ = .ok settings) :
    CapHolds file environ settings ↔
      ¬ IsPrivate settings.checkpointDbPath ∨
        sqliteIntegerLimit ≤ settings.llmDailyCap := by
  constructor
  · intro holds
    by_contra neither
    rw [not_or, not_not, Int.not_le] at neither
    exact not_capHolds_of_unnamed accepted
      ((paths settings.checkpointDbPath).mpr neither.1) neither.2 holds
  · rintro (named | unbound)
    · cases found : file settings.checkpointDbPath with
      | none => exact absurd ((paths _).mp found) named
      | some database => exact capHolds_of_named accepted found
    · intro start calls traces after dayKey under inTurn onDay
      rw [inTurn.requesting_eq_zero (fun call member =>
        (under call member).dailyCap accepted) unbound]
      exact settings.positive.le

/-- A path is the name of its file. -/
def sqliteFile (dbPath : String) : Option String :=
  if dbPath = ":memory:" ∨ dbPath = "" then none else some dbPath

theorem sqlitePaths_sqliteFile : SqlitePaths sqliteFile := by
  intro dbPath
  rw [sqliteFile, IsPrivate]
  split <;> simp_all

def silverEnviron (dbPath : String) : Dict String String :=
  .ofList
    [("TARGET_PIPELINES", "pipeline_silver"),
      ("LANGFUSE_HOST", "http://localhost:3000"),
      ("CHECKPOINT_DB_PATH", dbPath), ("LLM_DAILY_CAP", "1")]

def silverSettings (dbPath : String) : RuntimeSettings where
  targetPipelines := ["pipeline_silver"]
  checkpointDbPath := dbPath
  llmDailyCap := 1
  langfuseHost := "http://localhost:3000"
  positive := by decide

theorem silverEnviron_accepted (dbPath : String) :
    loadRuntimeSettings (fun _ message => message) (silverEnviron dbPath) =
      .ok (silverSettings dbPath) := by
  have pipelines : (silverEnviron dbPath).find "TARGET_PIPELINES" =
      some "pipeline_silver" := rfl
  have host : (silverEnviron dbPath).find "LANGFUSE_HOST" =
      some "http://localhost:3000" := rfl
  have complete : requiredSettings.filter (fun key =>
      strip (((silverEnviron dbPath).find key).getD "") = "") = [] := by
    rw [List.filter_eq_nil_iff, requiredSettings, List.forall_mem_cons,
      List.forall_mem_singleton, pipelines, host]
    decide +kernel
  have targets : parseTargetPipelines
      (((silverEnviron dbPath).find "TARGET_PIPELINES").getD "") =
        .ok ["pipeline_silver"] := by
    rw [pipelines]
    decide +kernel
  refine guard_ok_iff.mpr ⟨not_not.mpr complete, ?_⟩
  refine bind_ok_iff.mpr ⟨⟨1, by decide⟩, rfl, ?_⟩
  rw [targets]
  rfl

theorem capHolds_iff_agentDb :
    CapHolds sqliteFile (silverEnviron "/tmp/agent.db")
        (silverSettings "/tmp/agent.db") ↔
      ¬ IsPrivate "/tmp/agent.db" ∨ sqliteIntegerLimit ≤ 1 :=
  capHolds_iff sqlitePaths_sqliteFile (silverEnviron_accepted "/tmp/agent.db")

/-- In memory each connection has a database of its own. -/
theorem memory_exceeds_cap :
    ¬ CapHolds sqliteFile (silverEnviron ":memory:")
      (silverSettings ":memory:") :=
  not_capHolds_of_unnamed (silverEnviron_accepted ":memory:")
    ((sqlitePaths_sqliteFile _).mpr (.inl rfl)) (by decide)

end Private

end PipelineOps.Tools
