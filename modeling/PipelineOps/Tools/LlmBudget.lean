import PipelineOps.Library.Fallible
import PipelineOps.Library.Interleaving
import PipelineOps.Library.Quota
import PipelineOps.Library.Table
import PipelineOps.Tools.DayKeys
import PipelineOps.Tools.LlmAttempts

namespace PipelineOps.Tools

open PipelineOps.Library
open PipelineOps.Python
open PipelineOps.Orchestrator

/-! Calls of the language model that share a usage database: what the database
counts, and what each call does with the unit it was charged. -/

section Calls

/-- What an upsert that ran says: the day it counts for, and whether it counted
the call. -/
structure Charge where
  dayKey : String
  admitted : Bool
  deriving DecidableEq

def budgetCharge : LlmExchange → Option Charge
  | ⟨.upsertUsage _ dayKey _, .ok rowcount⟩ => some ⟨dayKey, rowcount == 1⟩
  | _ => none

/-- The call counted this charge for the date that the clock of Korea showed
when the call read it, just before its statements. -/
structure ChargedOn (trace : List LlmExchange) (charge : Charge)
    (now : DateTime) : Prop where
  read : ∃ opening behind dbPath dailyCap rowcount,
    trace = opening ++ ⟨.now kst, now⟩ :: ⟨.createUsageTable dbPath, .ok ()⟩ ::
        ⟨.upsertUsage dbPath charge.dayKey dailyCap, .ok rowcount⟩ :: behind ∧
      charge.admitted = (rowcount == 1)
  date : ShowsDate now charge.dayKey

theorem ChargedOn.append {first : List LlmExchange} {charge : Charge}
    {now : DateTime} (charged : ChargedOn first charge now)
    (second : List LlmExchange) : ChargedOn (first ++ second) charge now := by
  obtain ⟨⟨opening, behind, dbPath, dailyCap, rowcount, rfl, flag⟩, date⟩ :=
    charged
  refine ⟨⟨opening, behind ++ second, dbPath, dailyCap, rowcount, ?_, flag⟩,
    date⟩
  simp

def LlmRequest.isRequester : LlmRequest → Bool
  | .requester _ => true
  | _ => false

/-- The request is no upsert, or one with this path and cap. -/
def LlmRequest.Budgets (dbPath : String) (dailyCap : Int) :
    LlmRequest → Prop
  | .upsertUsage path _ cap => path = dbPath ∧ cap = dailyCap
  | _ => True

def LlmRequest.isUpsert : LlmRequest → Bool
  | .upsertUsage .. => true
  | _ => false

theorem attemptsOf_append_of_silent {first : List LlmExchange}
    (silent : ∀ exchange ∈ first, exchange.1.isRequester = false)
    (second : List LlmExchange) :
    attemptsOf (first ++ second) = attemptsOf second := by
  induction first with
  | nil => rfl
  | cons exchange first induction =>
      obtain ⟨request, answer⟩ := exchange
      have behind := induction fun other member =>
        silent other (List.mem_cons_of_mem _ member)
      cases request with
      | requester timeoutSeconds =>
          have loud := silent _ List.mem_cons_self
          cases loud
      | _ => exact behind

theorem attemptsOf_of_silent {trace : List LlmExchange}
    (silent : ∀ exchange ∈ trace, exchange.1.isRequester = false) :
    attemptsOf trace = [] := by
  have alone := attemptsOf_append_of_silent silent []
  rw [List.append_nil] at alone
  exact alone

theorem budgetCharges_of_silent {trace : List LlmExchange}
    (silent : ∀ exchange ∈ trace, exchange.1.isUpsert = false) :
    trace.filterMap budgetCharge = [] := by
  apply List.filterMap_eq_nil_iff.mpr
  intro exchange member
  obtain ⟨request, answer⟩ := exchange
  have unasked := silent _ member
  cases request with
  | upsertUsage dbPath dayKey dailyCap => cases unasked
  | _ => rfl

theorem ensureParentDir_asks (dbPath : String) {allowed : LlmRequest → Prop}
    (free : ∀ path, allowed (.makeParentDir path)) :
    (ensureParentDir dbPath).Asks allowed := by
  unfold ensureParentDir
  split
  · trivial
  · exact ⟨free dbPath, fun _ => trivial⟩

theorem consumeDailyBudget_asks {dbPath : String} {dailyCap : Int}
    {allowed : LlmRequest → Prop}
    (parent : ∀ path, allowed (.makeParentDir path))
    (clock : ∀ zone, allowed (.now zone))
    (table : ∀ path, allowed (.createUsageTable path))
    (upsert : ∀ dayKey, allowed (.upsertUsage dbPath dayKey dailyCap)) :
    (consumeDailyBudget dbPath dailyCap).Asks allowed := by
  apply (ensureParentDir_asks dbPath parent).bind
  intro made
  cases made with
  | error exc => trivial
  | ok made =>
      refine ⟨clock kst, fun now => ⟨table dbPath, fun created => ?_⟩⟩
      cases created with
      | error exc => trivial
      | ok created =>
          refine ⟨upsert (todayKstKey now), fun counted => ?_⟩
          cases counted <;> trivial

theorem attemptLoop_asks {allowed : LlmRequest → Prop}
    (requester : ∀ seconds, allowed (.requester seconds))
    (parser : ∀ response, allowed (.responseParser response))
    (sleep : ∀ seconds, allowed (.sleep seconds)) (hasParser : Bool)
    (delays : List Nat) : (attemptLoop hasParser delays).Asks allowed := by
  have tried : (runAttempt hasParser).Asks allowed := by
    refine ⟨requester _, fun answer => ?_⟩
    cases answer with
    | error exc => trivial
    | ok response =>
        dsimp only
        split
        · trivial
        · split
          · exact ⟨parser response, fun _ => trivial⟩
          · trivial
  have settled : ∀ retry : Option (LlmDialogue Value),
      (∀ next, retry = some next → next.Asks allowed) →
      ∀ outcome, (settleAttempt retry outcome).Asks allowed := by
    intro retry further outcome
    unfold settleAttempt
    split
    · trivial
    · split
      · trivial
      · split
        · exact further _ rfl
        · trivial
  induction delays with
  | nil => exact tried.bind (settled none nofun)
  | cons delay delays induction =>
      apply tried.bind
      apply settled
      intro next same
      obtain rfl := Option.some.inj same
      exact ⟨sleep delay, fun _ => induction⟩

variable {call : LlmCall} {dailyCap : Int} {trace : List LlmExchange}
  {rest : LlmDialogue Value}

theorem invokeLlm_asks (capped : call.dailyCap = .ok dailyCap) :
    (invokeLlm call).Asks (LlmRequest.Budgets call.dbPath dailyCap) := by
  rw [invokeLlm, capped]
  apply Dialogue.Asks.bind
  · exact consumeDailyBudget_asks (fun _ => trivial) (fun _ => trivial)
      (fun _ => trivial) fun _ => ⟨rfl, rfl⟩
  · intro consumed
    cases consumed with
    | error exc => trivial
    | ok admitted =>
        cases admitted with
        | false => exact ⟨trivial, fun _ => trivial⟩
        | true =>
            exact attemptLoop_asks (fun _ => trivial) (fun _ => trivial)
              (fun _ => trivial) _ _

/-- As long as the budget is not settled nothing is charged. -/
theorem consumeDailyBudget_charges {dbPath : String}
    {left : LlmDialogue Bool}
    (reaches : (consumeDailyBudget dbPath dailyCap).Reaches trace left) :
    (trace.filterMap budgetCharge = [] ∧
      ∀ admitted, left ≠ .done (.ok admitted)) ∨
    ∃ charge now, trace.filterMap budgetCharge = [charge] ∧
      ChargedOn trace charge now ∧ left = .done (.ok charge.admitted) := by
  have quiet : (ensureParentDir dbPath).Asks fun request =>
      request.isUpsert = false :=
    ensureParentDir_asks dbPath fun _ => rfl
  rcases Dialogue.reaches_bind reaches with
    ⟨request, next, early, rfl⟩ | ⟨made, first, second, rfl, early, behind⟩
  · exact .inl ⟨budgetCharges_of_silent (quiet.reaches early), nofun⟩
  · rw [List.filterMap_append,
      budgetCharges_of_silent (quiet.reaches early), List.nil_append]
    cases made with
    | error exc =>
        obtain ⟨rfl, rfl⟩ := Dialogue.reaches_done_iff.mp behind
        exact .inl ⟨rfl, nofun⟩
    | ok made =>
        rcases Dialogue.reaches_ask_iff.mp behind with
          ⟨rfl, rfl⟩ | ⟨now, others, rfl, creating⟩
        · exact .inl ⟨rfl, nofun⟩
        rcases Dialogue.reaches_ask_iff.mp creating with
          ⟨rfl, rfl⟩ | ⟨created, others, rfl, counting⟩
        · exact .inl ⟨rfl, nofun⟩
        cases created with
        | error exc =>
            obtain ⟨rfl, rfl⟩ := Dialogue.reaches_done_iff.mp counting
            exact .inl ⟨rfl, nofun⟩
        | ok created =>
            rcases Dialogue.reaches_ask_iff.mp counting with
              ⟨rfl, rfl⟩ | ⟨counted, others, rfl, ending⟩
            · exact .inl ⟨rfl, nofun⟩
            cases counted with
            | error exc =>
                obtain ⟨rfl, rfl⟩ := Dialogue.reaches_done_iff.mp ending
                exact .inl ⟨rfl, nofun⟩
            | ok rowcount =>
                obtain ⟨rfl, rfl⟩ := Dialogue.reaches_done_iff.mp ending
                refine .inr ⟨⟨todayKstKey now, rowcount == 1⟩, now, rfl, ?_,
                  rfl⟩
                exact ⟨⟨first, [], dbPath, dailyCap, rowcount, rfl, rfl⟩,
                  showsDate_todayKstKey now⟩

/-- How a call stands with the budget. -/
inductive Budgeted (call : LlmCall) (dailyCap : Int)
    (trace : List LlmExchange) (rest : LlmDialogue Value) : Prop
  | uncharged (charges : trace.filterMap budgetCharge = [])
      (attempts : attemptsOf trace = [])
      (failed : ∀ result, rest = .done result →
        ∃ exc, result = .error exc)
  | refused (dayKey : String) (now : DateTime)
      (charges : trace.filterMap budgetCharge = [⟨dayKey, false⟩])
      (dated : ChargedOn trace ⟨dayKey, false⟩ now)
      (attempts : attemptsOf trace = [])
      (failed : ∀ result, rest = .done result →
        ∃ now, result = .error (dailyCapReached dailyCap now))
  | admitted (dayKey : String) (now : DateTime)
      (charges : trace.filterMap budgetCharge = [⟨dayKey, true⟩])
      (dated : ChargedOn trace ⟨dayKey, true⟩ now)
      (tried : ∀ result, rest = .done result →
        AttemptLaw LlmExc.Transient (attemptsOf trace) result)

theorem Budgeted.refusal {dayKey : String} {read : DateTime}
    {first second : List LlmExchange}
    (charged : first.filterMap budgetCharge = [⟨dayKey, false⟩])
    (dated : ChargedOn first ⟨dayKey, false⟩ read)
    (attempts : attemptsOf (first ++ second) = attemptsOf second)
    (reaches : Dialogue.Reaches
      (.ask (.now kst) fun now =>
        .done (.error (dailyCapReached dailyCap now))) second rest) :
    Budgeted call dailyCap (first ++ second) rest := by
  rcases Dialogue.reaches_ask_iff.mp reaches with
    ⟨rfl, rfl⟩ | ⟨now, others, rfl, ending⟩
  · apply Budgeted.refused dayKey read
    · rw [List.filterMap_append, charged]
      rfl
    · exact dated.append _
    · exact attempts
    · nofun
  · obtain ⟨rfl, rfl⟩ := Dialogue.reaches_done_iff.mp ending
    apply Budgeted.refused dayKey read
    · rw [List.filterMap_append, charged]
      rfl
    · exact dated.append _
    · exact attempts
    · intro result ended
      cases ended
      exact ⟨now, rfl⟩

theorem Budgeted.attempting {dayKey : String} {read : DateTime}
    {first second : List LlmExchange}
    (charged : first.filterMap budgetCharge = [⟨dayKey, true⟩])
    (dated : ChargedOn first ⟨dayKey, true⟩ read)
    (attempts : attemptsOf (first ++ second) = attemptsOf second)
    (reaches : (attemptLoop call.hasParser retryDelaysSeconds).Reaches second
      rest) :
    Budgeted call dailyCap (first ++ second) rest := by
  have free : (attemptLoop call.hasParser retryDelaysSeconds).Asks
      fun request => request.isUpsert = false :=
    attemptLoop_asks (fun _ => rfl) (fun _ => rfl) (fun _ => rfl) _ _
  apply Budgeted.admitted dayKey read
  · rw [List.filterMap_append, charged,
      budgetCharges_of_silent (free.reaches reaches), List.append_nil]
  · exact dated.append _
  · intro result ended
    subst ended
    rw [attempts]
    exact attemptLoop_law reaches.path

theorem LlmCall.budgeted (capped : call.dailyCap = .ok dailyCap)
    (reaches : (invokeLlm call).Reaches trace rest) :
    Budgeted call dailyCap trace rest := by
  rw [invokeLlm, capped] at reaches
  have quiet : (consumeDailyBudget call.dbPath dailyCap).Asks fun request =>
      request.isRequester = false :=
    consumeDailyBudget_asks (fun _ => rfl) (fun _ => rfl) (fun _ => rfl)
      fun _ => rfl
  rcases Dialogue.reaches_bind reaches with
    ⟨request, next, early, rfl⟩ | ⟨consumed, first, second, rfl, early, behind⟩
  · have silent := attemptsOf_of_silent (quiet.reaches early)
    rcases consumeDailyBudget_charges early with
      ⟨charges, -⟩ | ⟨charge, now, -, -, ended⟩
    · exact .uncharged charges silent nofun
    · cases ended
  · have attempts := attemptsOf_append_of_silent (quiet.reaches early) second
    rcases consumeDailyBudget_charges early with
      ⟨uncharged, unsettled⟩ | ⟨charge, now, charged, dated, settled⟩
    · cases consumed with
      | ok admitted => exact absurd rfl (unsettled admitted)
      | error exc =>
          obtain ⟨rfl, rfl⟩ := Dialogue.reaches_done_iff.mp behind
          apply Budgeted.uncharged
          · rw [List.filterMap_append, uncharged]
            rfl
          · exact attempts
          · intro result ended
            cases ended
            exact ⟨exc, rfl⟩
    · obtain rfl := Dialogue.done.inj settled
      obtain ⟨dayKey, admitted⟩ := charge
      cases admitted with
      | false => exact .refusal charged dated attempts behind
      | true => exact .attempting charged dated attempts behind

end Calls

section Store

variable {φ : Type} [DecidableEq φ]

/-- The rows of `llm_daily_usage` in each database file that has the table. -/
abbrev Usage (φ : Type) := Dict φ (Table String Nat)

namespace Usage

def count (usage : Usage φ) (database : φ) (dayKey : String) : Nat :=
  ((usage.find database).bind (·.find dayKey)).getD 0

/-- `CREATE TABLE IF NOT EXISTS`. -/
def create (usage : Usage φ) (database : φ) : Usage φ :=
  if (usage.find database).isSome then usage else usage.set database .empty

end Usage

/-- `SET request_count = request_count + 1 WHERE request_count < ?`. -/
def mergeUsage (dailyCap : Int) (stored _ : Nat) : Nat :=
  if (stored : Int) < dailyCap then stored + 1 else stored

/-- How many rows the upsert writes. -/
def upsertRowcount (dailyCap : Int) : Option Nat → Int
  | none => 1
  | some stored => if (stored : Int) < dailyCap then 1 else 0

/-- The first integer that cannot be bound to a statement. -/
def sqliteIntegerLimit : Int := 9223372036854775808

/-- The databases, the clock, and the functions that the calls are given.
`file` tells which database file a path denotes; without one a connection has a
database of its own. Requesters and parsers may return or raise anything, and
any statement may be refused. -/
inductive UsageServes (file : String → Option φ) : Usage φ →
    (request : LlmRequest) → LlmAnswer request → Usage φ → Prop
  | directory (usage : Usage φ) (dbPath : String)
      (result : Except LlmExc Unit) :
      UsageServes file usage (.makeParentDir dbPath) result usage
  | clock (usage : Usage φ) (zone : Zone) (now : DateTime) :
      UsageServes file usage (.now zone) now usage
  | created (usage : Usage φ) (dbPath : String) (database : φ)
      (named : file dbPath = some database) :
      UsageServes file usage (.createUsageTable dbPath) (.ok ())
        (usage.create database)
  | counted (usage : Usage φ) (dbPath dayKey : String) (dailyCap : Int)
      (database : φ) (table : Table String Nat)
      (named : file dbPath = some database)
      (stored : usage.find database = some table)
      (bound : dailyCap < sqliteIntegerLimit) :
      UsageServes file usage (.upsertUsage dbPath dayKey dailyCap)
        (.ok (upsertRowcount dailyCap (table.find dayKey)))
        (usage.set database (table.upsert (mergeUsage dailyCap) dayKey 1))
  | createdApart (usage : Usage φ) (dbPath : String)
      (unnamed : file dbPath = none) :
      UsageServes file usage (.createUsageTable dbPath) (.ok ()) usage
  | countedApart (usage : Usage φ) (dbPath dayKey : String) (dailyCap : Int)
      (unnamed : file dbPath = none) (bound : dailyCap < sqliteIntegerLimit) :
      UsageServes file usage (.upsertUsage dbPath dayKey dailyCap)
        (.ok (upsertRowcount dailyCap none)) usage
  | createRefused (usage : Usage φ) (dbPath : String) (exc : LlmExc) :
      UsageServes file usage (.createUsageTable dbPath) (.error exc) usage
  | upsertRefused (usage : Usage φ) (dbPath dayKey : String) (dailyCap : Int)
      (exc : LlmExc) :
      UsageServes file usage (.upsertUsage dbPath dayKey dailyCap)
        (.error exc) usage
  | requester (usage : Usage φ) (timeoutSeconds : Nat)
      (answer : Except LlmExc Response) :
      UsageServes file usage (.requester timeoutSeconds) answer usage
  | responseParser (usage : Usage φ) (response : Response)
      (result : Except LlmExc Value) :
      UsageServes file usage (.responseParser response) result usage
  | sleep (usage : Usage φ) (seconds : Nat) :
      UsageServes file usage (.sleep seconds) () usage

variable {file : String → Option φ} {usage after : Usage φ} {database : φ}
  {dailyCap : Int}

namespace Usage

theorem count_set_self (usage : Usage φ) (table : Table String Nat)
    (dayKey : String) :
    count (Dict.set usage database table) database dayKey =
      (table.find dayKey).getD 0 := by
  simp [count, Dict.set]

theorem count_set_of_ne (usage : Usage φ) {other : φ}
    (differs : database ≠ other) (table : Table String Nat) :
    count (Dict.set usage other table) database = count usage database := by
  funext dayKey
  simp [count, Dict.set, differs]

theorem count_create (usage : Usage φ) (created : φ) :
    count (usage.create created) database = count usage database := by
  unfold create
  split
  · rfl
  · rename_i absent
    by_cases same : database = created
    · subst same
      funext dayKey
      rw [count_set_self]
      simp only [Option.not_isSome_iff_eq_none] at absent
      simp [count, absent]
    · exact count_set_of_ne usage same .empty

end Usage

theorem UsageServes.count_of_uncharged {request : LlmRequest}
    {answer : LlmAnswer request}
    (serves : UsageServes file usage request answer after)
    (uncharged : budgetCharge ⟨request, answer⟩ = none) :
    after.count database = usage.count database := by
  cases serves with
  | created dbPath other named => exact Usage.count_create usage other
  | counted => cases uncharged
  | _ => rfl

theorem mergeUsage_eq_bump (dailyCap : Int) (stored row : Nat) :
    mergeUsage dailyCap stored row = bump dailyCap.toNat stored := by
  unfold mergeUsage bump
  split <;> split <;> omega

theorem upsertRowcount_eq (positive : 0 < dailyCap) (stored : Option Nat) :
    (upsertRowcount dailyCap stored == 1) =
      decide (stored.getD 0 < dailyCap.toNat) := by
  cases stored with
  | none => simp [upsertRowcount, positive]
  | some stored =>
      by_cases below : (stored : Int) < dailyCap
      · have counted : stored < dailyCap.toNat := by omega
        simp [upsertRowcount, below, counted]
      · have full : ¬ stored < dailyCap.toNat := by omega
        simp [upsertRowcount, below, full]

/-- An upsert that ran moves the counter of its day, and tells whether it
moved. -/
theorem UsageServes.count_of_charged (positive : 0 < dailyCap)
    {request : LlmRequest} {answer : LlmAnswer request} {dbPath : String}
    {charge : Charge} (serves : UsageServes file usage request answer after)
    (named : file dbPath = some database)
    (budgets : request.Budgets dbPath dailyCap)
    (charged : budgetCharge ⟨request, answer⟩ = some charge) :
    charge.admitted =
        decide (usage.count database charge.dayKey < dailyCap.toNat) ∧
      after.count database = Function.update (usage.count database)
        charge.dayKey
        (bump dailyCap.toNat (usage.count database charge.dayKey)) := by
  cases serves with
  | counted path dayKey cap other table other_named stored bound =>
      obtain ⟨rfl, rfl⟩ := budgets
      obtain rfl := Option.some.inj (named.symm.trans other_named)
      obtain rfl := Option.some.inj charged
      have before : usage.count database dayKey =
          (table.find dayKey).getD 0 := by
        simp [Usage.count, stored]
      constructor
      · rw [before]
        exact upsertRowcount_eq positive _
      · funext day
        rw [Usage.count_set_self, Table.find_upsert]
        by_cases same : day = dayKey
        · subst same
          rw [if_pos rfl, Function.update_self, before]
          cases table.find day with
          | none => simp [absorb, bump, positive]
          | some stored =>
              exact mergeUsage_eq_bump cap stored 1
        · rw [if_neg same, Function.update_of_ne same]
          simp [Usage.count, stored]
  | countedApart path dayKey cap unnamed bound =>
      obtain ⟨rfl, rfl⟩ := budgets
      rw [named] at unnamed
      cases unnamed
  | _ => cases charged

/-- One conversation with the database meters the days. -/
theorem metered_of_served {trace : List LlmExchange}
    (served : Dialogue.Served (UsageServes file) usage trace after)
    (budgets : ∀ exchange ∈ trace, 0 < dailyCap ∧ ∃ dbPath,
      file dbPath = some database ∧ exchange.1.Budgets dbPath dailyCap) :
    Metered dailyCap.toNat Charge.dayKey Charge.admitted
      (usage.count database) (trace.filterMap budgetCharge)
      (after.count database) := by
  induction served with
  | nil usage => exact .nil _
  | @cons before middle after request answer trace step rest induction =>
      rw [List.forall_mem_cons] at budgets
      have metered := induction budgets.2
      cases charged : budgetCharge ⟨request, answer⟩ with
      | none =>
          rw [step.count_of_uncharged charged] at metered
          rwa [List.filterMap_cons_none charged]
      | some charge =>
          obtain ⟨positive, dbPath, named, own⟩ := budgets.1
          obtain ⟨flag, counted⟩ :=
            step.count_of_charged positive named own charged
          rw [counted] at metered
          rw [List.filterMap_cons_some charged]
          exact .cons flag metered

end Store

section Runs

variable {φ : Type} [DecidableEq φ] {ι : Type} [DecidableEq ι]
  {file : String → Option φ} {database : φ} {dailyCap : Int}
  {calls : ι → LlmCall} {start : Usage φ}
  {events : List (ι × LlmExchange)}

abbrev LlmRun (ι φ : Type) :=
  Shared ι LlmAnswer (Except LlmExc Value) (Usage φ)

variable {before after : LlmRun ι φ}

def initialRun (calls : ι → LlmCall) (usage : Usage φ) : LlmRun ι φ where
  process index := invokeLlm (calls index)
  partner := usage

/-- The upserts that ran, by call. -/
def charges (events : List (ι × LlmExchange)) : List (ι × Charge) :=
  Shared.marks budgetCharge events

/-- Those that ran for one day. -/
def chargesOn (dayKey : String) (events : List (ι × LlmExchange)) :
    List (ι × Charge) :=
  entriesOf (fun entry => entry.2.dayKey) dayKey (charges events)

theorem metered_of_turns
    (turns : Shared.Turns (UsageServes file) before events after)
    (budgets : ∀ event ∈ events, 0 < dailyCap ∧ ∃ dbPath,
      file dbPath = some database ∧ event.2.1.Budgets dbPath dailyCap) :
    Metered dailyCap.toNat (fun entry => entry.2.dayKey)
      (fun entry => entry.2.admitted) (before.partner.count database)
      (charges events) (after.partner.count database) := by
  apply Metered.of_map
  rw [charges, Shared.map_snd_marks]
  apply metered_of_served turns.served
  rwa [List.forall_mem_map]

/-- What the database and the calls say of the days' budgets. -/
structure BudgetLaw (dailyCap : Int) (database : φ)
    (events : List (ι × LlmExchange)) (after : LlmRun ι φ) : Prop where
  once : ((charges events).map Prod.fst).Nodup
  dated : ∀ entry ∈ charges events, ∃ now,
    ChargedOn (Shared.share entry.1 events) entry.2 now
  oneKey : ∀ entry ∈ charges events, ∀ other ∈ charges events,
    ∀ now otherNow, ChargedOn (Shared.share entry.1 events) entry.2 now →
      ChargedOn (Shared.share other.1 events) other.2 otherNow →
        (entry.2.dayKey = other.2.dayKey ↔
          now.wall / microsPerDay = otherNow.wall / microsPerDay)
  stored : ∀ dayKey, after.partner.count database dayKey =
    min dailyCap.toNat (chargesOn dayKey events).length
  first : ∀ dayKey,
    (chargesOn dayKey events).filter (fun entry => entry.2.admitted) =
      (chargesOn dayKey events).take dailyCap.toNat
  admitted : ∀ index dayKey result,
    (index, ⟨dayKey, true⟩) ∈ charges events →
    after.process index = .done result →
      AttemptLaw LlmExc.Transient (attemptsOf (Shared.share index events))
        result
  refused : ∀ index dayKey, (index, ⟨dayKey, false⟩) ∈ charges events →
    attemptsOf (Shared.share index events) = [] ∧
      ∀ result, after.process index = .done result →
        ∃ now, result = .error (dailyCapReached dailyCap now)
  uncharged : ∀ index, (∀ charge, (index, charge) ∉ charges events) →
    attemptsOf (Shared.share index events) = [] ∧
      ∀ result, after.process index = .done result →
        ∃ exc, result = .error exc
  invoking : ∀ dayKey,
    (∀ entry ∈ chargesOn dayKey events, ∃ result,
      after.process entry.1 = .done result) →
    ((chargesOn dayKey events).filter fun entry =>
        !(attemptsOf (Shared.share entry.1 events)).isEmpty).length =
      after.partner.count database dayKey

theorem parseDailyCap_pos {raw : Option String}
    (parsed : parseDailyCap raw = .ok dailyCap) : 0 < dailyCap := by
  unfold parseDailyCap at parsed
  split at parsed
  · obtain rfl := Except.ok.inj parsed
    decide
  · split at parsed
    · obtain rfl := Except.ok.inj parsed
      decide
    · split at parsed
      · cases parsed
      · obtain ⟨counted, same⟩ := guard_ok_iff.mp parsed
        obtain rfl := Except.ok.inj same
        omega

theorem budgets_of_turns
    (capped : ∀ index, (calls index).dailyCap = .ok dailyCap)
    (shared : ∀ index, file (calls index).dbPath = some database)
    (turns : Shared.Turns (UsageServes file) (initialRun calls start) events
      after) :
    ∀ event ∈ events, 0 < dailyCap ∧ ∃ dbPath,
      file dbPath = some database ∧ event.2.1.Budgets dbPath dailyCap := by
  intro event member
  have asks := invokeLlm_asks (capped event.1)
  exact ⟨parseDailyCap_pos (capped event.1), (calls event.1).dbPath,
    shared event.1, asks.reaches (turns.reaches event.1) event.2
      (Shared.mem_share_iff.mpr member)⟩

theorem budgeted_of_turns
    (capped : ∀ index, (calls index).dailyCap = .ok dailyCap)
    (turns : Shared.Turns (UsageServes file) (initialRun calls start) events
      after) (index : ι) :
    Budgeted (calls index) dailyCap (Shared.share index events)
      (after.process index) :=
  LlmCall.budgeted (capped index) (turns.reaches index)

theorem Budgeted.charges_length_le {call : LlmCall}
    {trace : List LlmExchange} {rest : LlmDialogue Value}
    (budgeted : Budgeted call dailyCap trace rest) :
    (trace.filterMap budgetCharge).length ≤ 1 := by
  cases budgeted with
  | uncharged charges attempts failed => simp [charges]
  | refused dayKey now charges dated attempts failed => simp [charges]
  | admitted dayKey now charges dated tried => simp [charges]

theorem Budgeted.dated {call : LlmCall} {trace : List LlmExchange}
    {rest : LlmDialogue Value} {charge : Charge}
    (budgeted : Budgeted call dailyCap trace rest)
    (charged : charge ∈ trace.filterMap budgetCharge) :
    ∃ now, ChargedOn trace charge now := by
  cases budgeted with
  | uncharged charges attempts failed => simp [charges] at charged
  | refused dayKey now charges dated attempts failed =>
      rw [charges, List.mem_singleton] at charged
      exact ⟨now, charged ▸ dated⟩
  | admitted dayKey now charges dated tried =>
      rw [charges, List.mem_singleton] at charged
      exact ⟨now, charged ▸ dated⟩

theorem Budgeted.of_admitted {call : LlmCall} {trace : List LlmExchange}
    {rest : LlmDialogue Value} {dayKey : String}
    (budgeted : Budgeted call dailyCap trace rest)
    (charged : ⟨dayKey, true⟩ ∈ trace.filterMap budgetCharge)
    {result : Except LlmExc Value} (ended : rest = .done result) :
    AttemptLaw LlmExc.Transient (attemptsOf trace) result := by
  cases budgeted with
  | uncharged charges attempts failed => simp [charges] at charged
  | refused dayKey now charges dated attempts failed =>
      simp [charges] at charged
  | admitted dayKey now charges dated tried => exact tried result ended

theorem Budgeted.of_refused {call : LlmCall} {trace : List LlmExchange}
    {rest : LlmDialogue Value} {dayKey : String}
    (budgeted : Budgeted call dailyCap trace rest)
    (charged : ⟨dayKey, false⟩ ∈ trace.filterMap budgetCharge) :
    attemptsOf trace = [] ∧ ∀ result, rest = .done result →
      ∃ now, result = .error (dailyCapReached dailyCap now) := by
  cases budgeted with
  | uncharged charges attempts failed => simp [charges] at charged
  | refused dayKey now charges dated attempts failed => exact ⟨attempts, failed⟩
  | admitted dayKey now charges dated tried => simp [charges] at charged

theorem Budgeted.of_uncharged {call : LlmCall} {trace : List LlmExchange}
    {rest : LlmDialogue Value}
    (budgeted : Budgeted call dailyCap trace rest)
    (uncharged : trace.filterMap budgetCharge = []) :
    attemptsOf trace = [] ∧ ∀ result, rest = .done result →
      ∃ exc, result = .error exc := by
  cases budgeted with
  | uncharged charges attempts failed => exact ⟨attempts, failed⟩
  | refused dayKey now charges dated attempts failed =>
      simp [charges] at uncharged
  | admitted dayKey now charges dated tried => simp [charges] at uncharged

theorem AttemptLaw.ne_nil {raises : LlmExc → Prop} {attempts : List Attempt}
    {result : Except LlmExc Value} (law : AttemptLaw raises attempts result) :
    attempts ≠ [] := by
  obtain ⟨failed, last, rfl, -⟩ := law
  simp

/-- Of calls that have ended, exactly the admitted ones have made a request. -/
theorem admitted_eq_invoking
    (capped : ∀ index, (calls index).dailyCap = .ok dailyCap)
    (turns : Shared.Turns (UsageServes file) (initialRun calls start) events
      after) {entry : ι × Charge} (charged : entry ∈ charges events)
    (ended : ∃ result, after.process entry.1 = .done result) :
    entry.2.admitted =
      !(attemptsOf (Shared.share entry.1 events)).isEmpty := by
  obtain ⟨index, dayKey, admitted⟩ := entry
  obtain ⟨result, ended⟩ := ended
  have budgeted := budgeted_of_turns capped turns index
  have own := Shared.mem_marks_iff.mp charged
  cases admitted with
  | true =>
      have tried := (budgeted.of_admitted own ended).ne_nil
      simp [tried]
  | false =>
      have silent := (budgeted.of_refused own).1
      simp [silent]

/-- However calls with one cap interleave on one database, each day admits as
many of them as the cap allows. -/
theorem dailyBudget_accounting
    (capped : ∀ index, (calls index).dailyCap = .ok dailyCap)
    (shared : ∀ index, file (calls index).dbPath = some database)
    (fresh : ∀ dayKey, start.count database dayKey = 0)
    (turns : Shared.Turns (UsageServes file) (initialRun calls start) events
      after) :
    BudgetLaw dailyCap database events after := by
  have metered := metered_of_turns turns (budgets_of_turns capped shared turns)
  have unused : ∀ dayKey, (initialRun calls start).partner.count database
      dayKey = 0 := fresh
  have stored : ∀ dayKey, after.partner.count database dayKey =
      min dailyCap.toNat (chargesOn dayKey events).length := by
    intro dayKey
    rw [metered.count ((unused dayKey).le.trans (Nat.zero_le _)), unused,
      Nat.zero_add]
    rfl
  have first : ∀ dayKey,
      (chargesOn dayKey events).filter (fun entry => entry.2.admitted) =
        (chargesOn dayKey events).take dailyCap.toNat := by
    intro dayKey
    have taken := metered.admitted_eq_take dayKey
    rw [unused, Nat.sub_zero] at taken
    exact taken
  refine ⟨?_, ?_, ?_, stored, first, ?_, ?_, ?_, ?_⟩
  · apply Shared.nodup_marks
    intro index
    exact (budgeted_of_turns capped turns index).charges_length_le
  · intro entry charged
    exact (budgeted_of_turns capped turns entry.1).dated
      (Shared.mem_marks_iff.mp charged)
  · intro entry _ other _ now otherNow shown otherShown
    exact shown.date.key_eq_iff otherShown.date
  · intro index dayKey result charged ended
    exact (budgeted_of_turns capped turns index).of_admitted
      (Shared.mem_marks_iff.mp charged) ended
  · intro index dayKey charged
    exact (budgeted_of_turns capped turns index).of_refused
      (Shared.mem_marks_iff.mp charged)
  · intro index uncharged
    apply (budgeted_of_turns capped turns index).of_uncharged
    apply List.eq_nil_iff_forall_not_mem.mpr
    intro charge member
    exact uncharged charge (Shared.mem_marks_iff.mpr member)
  · intro dayKey ended
    have same : (chargesOn dayKey events).filter (fun entry =>
          !(attemptsOf (Shared.share entry.1 events)).isEmpty) =
        (chargesOn dayKey events).filter fun entry => entry.2.admitted := by
      apply List.filter_congr
      intro entry member
      exact (admitted_eq_invoking capped turns (List.mem_of_mem_filter member)
        (ended entry member)).symm
    rw [same, first, List.length_take, stored]

end Runs

theorem UsageServes.counted_of_rowcount {φ : Type} [DecidableEq φ]
    {file : String → Option φ} (usage : Usage φ) {dbPath dayKey : String}
    {dailyCap : Int} {database : φ} (table : Table String Nat) {rowcount : Int}
    (named : file dbPath = some database)
    (stored : usage.find database = some table)
    (bound : dailyCap < sqliteIntegerLimit)
    (written : upsertRowcount dailyCap (table.find dayKey) = rowcount) :
    UsageServes file usage (.upsertUsage dbPath dayKey dailyCap) (.ok rowcount)
      (usage.set database (table.upsert (mergeUsage dailyCap) dayKey 1)) := by
  subst written
  exact .counted usage dbPath dayKey dailyCap database table named stored bound

def usageFile (dbPath : String) : Option String :=
  if dbPath = ":memory:" then none else some dbPath

/-- A second before midnight. -/
def lateEvening : DateTime := ⟨63900057599000000, some kst, by decide⟩

/-- A second after it. -/
def earlyMorning : DateTime := ⟨63900057601000000, some kst, by decide⟩

def singleUnitCall : LlmCall where
  environ := .ofList [("LLM_DAILY_CAP", "1")]
  checkpointDbPath := none
  hasParser := false

def tooManyRequests : LlmExc where
  isException := true
  llmClass := none
  httpCode := some 429
  connection := true
  invalid := false
  className := "HTTPError"
  text := "HTTP Error 429: Too Many Requests"
  derived := fun _ => rfl

/-- Two calls meet at the last unit of a day; the one that gets it has to try
twice. -/
def lastUnitEvents : List (Bool × LlmExchange) :=
  [(false, ⟨.makeParentDir defaultCheckpointDbPath, .ok ()⟩),
    (true, ⟨.makeParentDir defaultCheckpointDbPath, .ok ()⟩),
    (false, ⟨.now kst, lateEvening⟩), (true, ⟨.now kst, lateEvening⟩),
    (true, ⟨.createUsageTable defaultCheckpointDbPath, .ok ()⟩),
    (false, ⟨.createUsageTable defaultCheckpointDbPath, .ok ()⟩),
    (false, ⟨.upsertUsage defaultCheckpointDbPath (todayKstKey lateEvening) 1,
      .ok 1⟩),
    (true, ⟨.upsertUsage defaultCheckpointDbPath (todayKstKey lateEvening) 1,
      .ok 0⟩),
    (false, ⟨.requester 60, .error tooManyRequests⟩), (false, ⟨.sleep 2, ()⟩),
    (true, ⟨.now kst, lateEvening⟩),
    (false, ⟨.requester 60, .ok ⟨some (.ok 200), .str "done"⟩⟩)]

theorem usageFile_default :
    usageFile defaultCheckpointDbPath = some defaultCheckpointDbPath := by
  decide

def lastUnitTable : Table String Nat :=
  Table.empty.upsert (mergeUsage 1) (todayKstKey lateEvening) 1

theorem lastUnitTable_rowcount :
    upsertRowcount 1 (lastUnitTable.find (todayKstKey lateEvening)) = 0 := by
  rw [lastUnitTable, Table.find_upsert, if_pos rfl]
  rfl

def openedUsage : Usage String :=
  (Usage.create .empty defaultCheckpointDbPath).create defaultCheckpointDbPath

def lastUnitUsage : Usage String :=
  openedUsage.set defaultCheckpointDbPath lastUnitTable

theorem singleUnitCall_dailyCap : singleUnitCall.dailyCap = .ok 1 := by
  decide

theorem lastUnit_turns : ∃ after : LlmRun Bool String,
    Shared.Turns (UsageServes usageFile)
      (initialRun (fun _ => singleUnitCall) .empty) lastUnitEvents after :=
  ⟨_, .cons (.ask rfl (.directory ..)) <| .cons (.ask rfl (.directory ..)) <|
      .cons (.ask rfl (.clock ..)) <| .cons (.ask rfl (.clock ..)) <|
      .cons (.ask rfl (.created _ _ _ usageFile_default)) <|
      .cons (.ask rfl (.created _ _ _ usageFile_default)) <|
      .cons (.ask rfl (.counted_of_rowcount openedUsage .empty
        usageFile_default rfl (by decide) rfl)) <|
      .cons (.ask rfl (.counted_of_rowcount lastUnitUsage lastUnitTable
        usageFile_default rfl (by decide) lastUnitTable_rowcount)) <|
      .cons (.ask rfl (.requester ..)) <| .cons (.ask rfl (.sleep ..)) <|
      .cons (.ask rfl (.clock ..)) <| .cons (.ask rfl (.requester ..)) <|
      .nil _⟩

theorem dailyBudget_accounting_lastUnit : ∃ after : LlmRun Bool String,
    Shared.Turns (UsageServes usageFile)
      (initialRun (fun _ => singleUnitCall) .empty) lastUnitEvents after ∧
      BudgetLaw 1 defaultCheckpointDbPath lastUnitEvents after := by
  obtain ⟨after, turns⟩ := lastUnit_turns
  exact ⟨after, turns, dailyBudget_accounting
    (fun _ => singleUnitCall_dailyCap) (fun _ => usageFile_default)
    (fun _ => rfl) turns⟩

def defaultCall : LlmCall where
  environ := .empty
  checkpointDbPath := none
  hasParser := false

/-- The requester itself says that its failure is transient. -/
def raisedTransientEvents : List (Unit × LlmExchange) :=
  [((), ⟨.makeParentDir defaultCheckpointDbPath, .ok ()⟩),
    ((), ⟨.now kst, lateEvening⟩),
    ((), ⟨.createUsageTable defaultCheckpointDbPath, .ok ()⟩),
    ((), ⟨.upsertUsage defaultCheckpointDbPath (todayKstKey lateEvening) 30,
      .ok 1⟩),
    ((), ⟨.requester 60, .error (.transientError "overloaded")⟩),
    ((), ⟨.sleep 2, ()⟩),
    ((), ⟨.requester 60, .ok ⟨none, .str "done"⟩⟩)]

theorem raisedTransient_unlisted {parsed : Option (Except LlmExc Value)}
    {text : String} :
    ¬ (Attempt.mk (.error (.transientError text)) parsed).Transient
      LlmExc.FailedRequest := by
  intro transient
  cases transient with
  | requester raised =>
      simp [LlmExc.FailedRequest, LlmExc.transientError] at raised

theorem raisedTransient_retried : ∃ after : LlmRun Unit String,
    Shared.Turns (UsageServes usageFile)
      (initialRun (fun _ => defaultCall) .empty) raisedTransientEvents
        after ∧
      ((), ⟨todayKstKey lateEvening, true⟩) ∈ charges raisedTransientEvents ∧
      after.process () = .done (.ok (.str "done")) ∧
      ¬ AttemptLaw LlmExc.FailedRequest
        (attemptsOf (Shared.share () raisedTransientEvents))
        (.ok (.str "done")) := by
  refine ⟨_, .cons (.ask rfl (.directory ..)) <|
    .cons (.ask rfl (.clock ..)) <|
    .cons (.ask rfl (.created _ _ _ usageFile_default)) <|
    .cons (.ask rfl (.counted_of_rowcount
      (Usage.create .empty defaultCheckpointDbPath) .empty usageFile_default
      rfl (by decide) rfl)) <|
    .cons (.ask rfl (.requester ..)) <| .cons (.ask rfl (.sleep ..)) <|
    .cons (.ask rfl (.requester ..)) <| .nil _, ?_, rfl, ?_⟩
  · exact List.mem_singleton_self _
  · intro law
    obtain ⟨failed, last, attempts, -, transients, -⟩ := law
    have split : [Attempt.mk (.error (.transientError "overloaded")) none] =
        failed := by
      have same := congrArg List.dropLast attempts
      rw [List.dropLast_concat] at same
      exact same
    subst split
    exact raisedTransient_unlisted
      (transients _ (List.mem_singleton_self _))

/-- What the clock has shown last when an upsert runs, for each of them. -/
def upsertTimes {ι : Type} :
    Option DateTime → List (ι × LlmExchange) → List (Option DateTime)
  | _, [] => []
  | _, (_, ⟨.now _, now⟩) :: rest => upsertTimes (some now) rest
  | shown, (_, ⟨.upsertUsage .., .ok _⟩) :: rest =>
      shown :: upsertTimes shown rest
  | shown, _ :: rest => upsertTimes shown rest

/-- A call reads the clock before midnight; its upsert runs after midnight, when
another call has read the clock. -/
def midnightEvents : List (Bool × LlmExchange) :=
  [(false, ⟨.makeParentDir defaultCheckpointDbPath, .ok ()⟩),
    (true, ⟨.makeParentDir defaultCheckpointDbPath, .ok ()⟩),
    (false, ⟨.now kst, lateEvening⟩), (true, ⟨.now kst, earlyMorning⟩),
    (false, ⟨.createUsageTable defaultCheckpointDbPath, .ok ()⟩),
    (false, ⟨.upsertUsage defaultCheckpointDbPath (todayKstKey lateEvening) 1,
      .ok 1⟩)]

theorem earlyMorning_key :
    todayKstKey earlyMorning ≠ todayKstKey lateEvening := by
  have keys := (showsDate_todayKstKey earlyMorning).key_eq_iff
    (showsDate_todayKstKey lateEvening)
  rw [Ne, keys]
  decide

theorem midnight_counted_before : ∃ after : LlmRun Bool String,
    Shared.Turns (UsageServes usageFile)
      (initialRun (fun _ => singleUnitCall) .empty) midnightEvents after ∧
      upsertTimes none midnightEvents = [some earlyMorning] ∧
      after.partner.count defaultCheckpointDbPath
        (todayKstKey earlyMorning) = 0 ∧
      after.partner.count defaultCheckpointDbPath
        (todayKstKey lateEvening) = 1 := by
  refine ⟨_, .cons (.ask rfl (.directory ..)) <|
    .cons (.ask rfl (.directory ..)) <| .cons (.ask rfl (.clock ..)) <|
    .cons (.ask rfl (.clock ..)) <|
    .cons (.ask rfl (.created _ _ _ usageFile_default)) <|
    .cons (.ask rfl (.counted_of_rowcount
      (Usage.create .empty defaultCheckpointDbPath) .empty usageFile_default
      rfl (by decide) rfl)) <| .nil _, rfl, ?_, ?_⟩
  · refine (Usage.count_set_self _ _ _).trans ?_
    rw [Table.find_upsert, if_neg earlyMorning_key]
    rfl
  · refine (Usage.count_set_self _ _ _).trans ?_
    rw [Table.find_upsert, if_pos rfl]
    rfl

/-- A failure that the requester calls transient itself is retried, and an
upsert behind midnight counts for the day before. -/
theorem raisedTransient_retried_midnight_counted :
    (∃ after : LlmRun Unit String,
      Shared.Turns (UsageServes usageFile)
        (initialRun (fun _ => defaultCall) .empty) raisedTransientEvents
          after ∧
        ((), ⟨todayKstKey lateEvening, true⟩) ∈
          charges raisedTransientEvents ∧
        after.process () = .done (.ok (.str "done")) ∧
        ¬ AttemptLaw LlmExc.FailedRequest
          (attemptsOf (Shared.share () raisedTransientEvents))
          (.ok (.str "done"))) ∧
    ∃ after : LlmRun Bool String,
      Shared.Turns (UsageServes usageFile)
        (initialRun (fun _ => singleUnitCall) .empty) midnightEvents after ∧
        upsertTimes none midnightEvents = [some earlyMorning] ∧
        after.partner.count defaultCheckpointDbPath
          (todayKstKey earlyMorning) = 0 ∧
        after.partner.count defaultCheckpointDbPath
          (todayKstKey lateEvening) = 1 :=
  ⟨raisedTransient_retried, midnight_counted_before⟩

end PipelineOps.Tools
