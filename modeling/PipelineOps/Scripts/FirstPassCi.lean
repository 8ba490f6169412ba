import PipelineOps.Scripts.PullsListing

namespace PipelineOps.Scripts

open PipelineOps.Library
open PipelineOps.Python
open PipelineOps.Tools (getOr)

/-! The verdicts of the weekly report on the checks of its pull requests. -/

def checkFailureConclusions : List String :=
  ["failure", "timed_out", "cancelled", "action_required", "startup_failure",
    "stale"]

def checkSuccessConclusions : List String := ["success"]

def checksRequest (repo sha : String) : GetJson where
  path := "repos/" ++ repo ++ "/commits/" ++ sha ++ "/check-runs"
  params := [("per_page", .int 100)]

/-- The list `completed`. -/
def completedRuns : List Value → Except Exc (List Value)
  | [] => .ok []
  | run :: rest => do
      let status ← getAttr run "status" .null
      let completed ← completedRuns rest
      pure (if status.isText "completed" then run :: completed else completed)

/-- An element of the set `conclusions`. -/
def conclusionOf (run : Value) : Except Exc Value := do
  let conclusion ← getAttr run "conclusion" .null
  if conclusion.hashable then pure conclusion
  else .error (.typeError
    ("unhashable type: '" ++ conclusion.typeName ++ "'"))

def isAmong (conclusions : List String) (conclusion : Value) : Bool :=
  conclusions.any fun text => conclusion.isText text

/-- What one answer about check runs makes of `first_pass_ci`. -/
def firstPassOf (checks : Value) : Except Exc (Option Bool) := do
  let runs := match checks with
    | .dict entries => getOr entries "check_runs" (.list [])
    | _ => .list []
  let items ← runs.iterate
  let completed ← completedRuns items
  if completed.isEmpty then pure none
  else do
    let conclusions ← completed.mapM conclusionOf
    let hasFailure := conclusions.any (isAmong checkFailureConclusions)
    let hasSuccess := conclusions.any (isAmong checkSuccessConclusions)
    pure (some (hasSuccess && !hasFailure))

def evaluatePulls (room : Nat) (repo : String) :
    List PullRequestSummary → List PullRequestSummary →
      Dialogue JsonAnswer (Except Exc (List PullRequestSummary))
  | [], evaluated => .done (.ok evaluated)
  | pr :: rest, evaluated =>
      if !pr.headSha.truthy then
        evaluatePulls room repo rest
          (evaluated ++ [{ pr with firstPassCi := none }])
      else
        match pr.headSha.toStr room with
        | .error exc => .done (.error exc)
        | .ok sha =>
            .ask (checksRequest repo sha) fun answer =>
              match answer.bind firstPassOf with
              | .error exc => .done (.error exc)
              | .ok firstPassCi =>
                  evaluatePulls room repo rest
                    (evaluated ++ [{ pr with firstPassCi }])

/-- `evaluate_first_pass_ci`; the pull requests as it leaves them. -/
def evaluateFirstPassCi (room : Nat) (repo : String)
    (prs : List PullRequestSummary) :
    Dialogue JsonAnswer (Except Exc (List PullRequestSummary)) :=
  evaluatePulls room repo prs []

/-- What `main` asks GitHub for. -/
def reportedPulls (room : Nat) (repo : String)
    (windowStart windowEnd : DateTime) :
    Dialogue JsonAnswer (Except Exc (List PullRequestSummary)) :=
  (fetchMergedAiPrs repo windowStart windowEnd).bind fun fetched =>
    match fetched with
    | .error exc => .done (.error exc)
    | .ok prs => evaluateFirstPassCi room repo prs

section Verdicts

abbrev CheckRun := List (String × Value)

def CheckRun.Completed (run : CheckRun) : Prop :=
  (Value.get run "status").isText "completed" = true

def CheckRun.ConcludesIn (conclusions : List String) (run : CheckRun) : Prop :=
  isAmong conclusions (Value.get run "conclusion") = true

instance : DecidablePred CheckRun.Completed := fun _ =>
  inferInstanceAs (Decidable (_ = true))

instance (conclusions : List String) :
    DecidablePred (CheckRun.ConcludesIn conclusions) := fun _ =>
  inferInstanceAs (Decidable (_ = true))

/-- Some completed run succeeded, and none failed. -/
def Green (runs : List CheckRun) : Prop :=
  (∃ run ∈ runs, run.Completed ∧ run.ConcludesIn checkSuccessConclusions) ∧
    ∀ run ∈ runs, run.Completed → ¬ run.ConcludesIn checkFailureConclusions

instance (runs : List CheckRun) : Decidable (Green runs) :=
  inferInstanceAs (Decidable (_ ∧ _))

/-- The verdict that check runs deserve: none before any one is completed. -/
def verdict (runs : List CheckRun) : Option Bool :=
  if ∃ run ∈ runs, run.Completed then some (decide (Green runs)) else none

variable {runs : List CheckRun}

theorem completedRuns_dict (runs : List CheckRun) :
    completedRuns (runs.map .dict) =
      .ok ((runs.filter fun run => decide run.Completed).map .dict) := by
  induction runs with
  | nil => rfl
  | cons run rest induction =>
      have status : getAttr (.dict run) "status" .null =
          .ok (Value.get run "status") := rfl
      rw [List.map_cons, completedRuns, status, induction, List.filter_cons]
      by_cases completed : run.Completed
      · have text : (Value.get run "status").isText "completed" = true :=
          completed
        simp [bind, Except.bind, pure, Except.pure, text, completed]
      · have text : (Value.get run "status").isText "completed" = false :=
          Bool.eq_false_iff.mpr completed
        simp [bind, Except.bind, pure, Except.pure, text, completed]

theorem conclusions_dict
    (plain : ∀ run ∈ runs, (Value.get run "conclusion").hashable = true) :
    (runs.map Value.dict).mapM conclusionOf =
      .ok (runs.map (Value.get · "conclusion")) := by
  have each : ∀ item ∈ runs.map Value.dict, conclusionOf item =
      .ok (Value.get (entriesOf item) "conclusion") := by
    intro item member
    obtain ⟨run, among, rfl⟩ := List.mem_map.mp member
    have conclusion : getAttr (.dict run) "conclusion" .null =
        .ok (Value.get run "conclusion") := rfl
    rw [conclusionOf, conclusion]
    exact if_pos (plain run among)
  rw [mapM_eq_ok each, List.map_map]
  rfl

theorem any_conclusions (conclusions : List String) :
    ((runs.filter fun run => decide run.Completed).map
        (Value.get · "conclusion")).any (isAmong conclusions) =
      decide (∃ run ∈ runs, run.Completed ∧ run.ConcludesIn conclusions) := by
  rw [List.any_map, Bool.eq_iff_iff, List.any_eq_true, decide_eq_true_eq]
  constructor
  · rintro ⟨run, member, concluded⟩
    obtain ⟨among, completed⟩ := List.mem_filter.mp member
    exact ⟨run, among, of_decide_eq_true completed, concluded⟩
  · rintro ⟨run, among, completed, concluded⟩
    exact ⟨run, List.mem_filter.mpr ⟨among, decide_eq_true completed⟩,
      concluded⟩

theorem firstPassOf_runs {entries : List (String × Value)}
    (listed : entries.lookup "check_runs" = some (.list (runs.map .dict)))
    (plain : ∀ run ∈ runs, (Value.get run "conclusion").hashable = true) :
    firstPassOf (.dict entries) = .ok (verdict runs) := by
  have found : getOr entries "check_runs" (.list []) =
      .list (runs.map .dict) := by
    rw [getOr, listed]
    rfl
  have plainToo : ∀ run ∈ runs.filter fun run => decide run.Completed,
      (Value.get run "conclusion").hashable = true :=
    fun run member => plain run (List.mem_filter.mp member).1
  have iterated : (Value.list (runs.map .dict)).iterate =
      .ok (runs.map .dict) := rfl
  have green : (decide (∃ run ∈ runs,
      run.Completed ∧ run.ConcludesIn checkSuccessConclusions) &&
      !decide (∃ run ∈ runs,
        run.Completed ∧ run.ConcludesIn checkFailureConclusions)) =
      decide (Green runs) := by
    rw [Bool.eq_iff_iff, decide_eq_true_eq]
    simp [Green]
  simp only [firstPassOf, found, iterated, completedRuns_dict, bind,
    Except.bind]
  by_cases some_ : ∃ run ∈ runs, run.Completed
  · obtain ⟨run, among, completed⟩ := some_
    have kept : run ∈ runs.filter fun run => decide run.Completed :=
      List.mem_filter.mpr ⟨among, decide_eq_true completed⟩
    have filled : ((runs.filter fun run => decide run.Completed).map
        Value.dict).isEmpty = false := by
      rw [List.isEmpty_eq_false_iff_exists_mem]
      exact ⟨_, List.mem_map_of_mem kept⟩
    simp only [filled, Bool.false_eq_true, if_false, conclusions_dict plainToo,
      any_conclusions, pure, Except.pure, green, verdict]
    rw [if_pos ⟨run, among, completed⟩]
  · have none_ : (runs.filter fun run => decide run.Completed) = [] := by
      rw [List.filter_eq_nil_iff]
      intro run among completed
      exact some_ ⟨run, among, of_decide_eq_true completed⟩
    rw [none_, verdict, if_neg some_]
    rfl

end Verdicts

section Report

/-- GitHub answers about a commit from its check runs, up to 100 of them. -/
def ListsChecks (gitHub : GitHub) (repo : String)
    (checksOf : String → List CheckRun) : Prop :=
  ∀ history sha, ∃ entries,
    gitHub history (checksRequest repo sha) = .ok (.dict entries) ∧
      entries.lookup "check_runs" =
        some (.list (((checksOf sha).take 100).map .dict))

/-- What the documentation of the check runs says about their conclusions. -/
def PlainConclusions (checksOf : String → List CheckRun) : Prop :=
  ∀ sha, ∀ run ∈ checksOf sha, (Value.get run "conclusion").hashable = true

/-- The commit that `head_sha` names. -/
def commitOf (pr : PullRequestSummary) : Option String :=
  match pr.headSha with
  | .str sha => if sha = "" then none else some sha
  | _ => none

def judged (checksOf : String → List CheckRun) (pr : PullRequestSummary) :
    PullRequestSummary :=
  { pr with
    firstPassCi :=
      (commitOf pr).bind fun sha => verdict ((checksOf sha).take 100) }

variable {gitHub : GitHub} {room : Nat} {repo : String}
  {checksOf : String → List CheckRun} {prs : List PullRequestSummary}
  {window : Window} {pulls : List Pull}

theorem commitOf_cases {pr : PullRequestSummary} {sha : String}
    (named : pr.headSha = .str sha) :
    (commitOf pr = none ∧ pr.headSha.truthy = false) ∨
      commitOf pr = some sha ∧ pr.headSha.truthy = true := by
  by_cases blank : sha = ""
  · exact .inl ⟨by simp [commitOf, named, blank],
      by simp [named, blank, Value.truthy]⟩
  · exact .inr ⟨by simp [commitOf, named, blank],
      by simp [named, blank, Value.truthy]⟩

/-- Without a commit, GitHub is not asked. -/
theorem evaluatePulls_of_none {pr : PullRequestSummary}
    (uncommitted : commitOf pr = none) (falsy : pr.headSha.truthy = false)
    (evaluated : List PullRequestSummary) :
    evaluatePulls room repo (pr :: prs) evaluated =
      evaluatePulls room repo prs (evaluated ++ [judged checksOf pr]) := by
  rw [evaluatePulls, falsy, judged, uncommitted]
  rfl

def checksExchange (gitHub : GitHub) (repo sha : String)
    (history : List (Dialogue.Exchange JsonAnswer)) :
    Dialogue.Exchange JsonAnswer :=
  ⟨checksRequest repo sha, gitHub history (checksRequest repo sha)⟩

theorem evaluatePulls_of_some (checks : ListsChecks gitHub repo checksOf)
    (plain : PlainConclusions checksOf) {pr : PullRequestSummary} {sha : String}
    (named : pr.headSha = .str sha) (committed : commitOf pr = some sha)
    (truthy : pr.headSha.truthy = true) (evaluated : List PullRequestSummary)
    (history : List (Dialogue.Exchange JsonAnswer)) :
    (evaluatePulls room repo (pr :: prs) evaluated).converse gitHub history =
      (evaluatePulls room repo prs (evaluated ++ [judged checksOf pr])).converse
        gitHub (history ++ [checksExchange gitHub repo sha history]) := by
  obtain ⟨entries, answered, listed⟩ := checks history sha
  have firstPage : ∀ run ∈ (checksOf sha).take 100,
      (Value.get run "conclusion").hashable = true :=
    fun run member => plain sha run (List.mem_of_mem_take member)
  have verdicts : (gitHub history (checksRequest repo sha)).bind firstPassOf =
      .ok (verdict ((checksOf sha).take 100)) := by
    rw [answered]
    exact firstPassOf_runs listed firstPage
  have text : pr.headSha.toStr room = .ok sha := by
    rw [named]
    rfl
  rw [evaluatePulls, truthy, text, judged, committed]
  simp only [Bool.not_true, Bool.false_eq_true, if_false, Dialogue.converse,
    verdicts]
  rfl

theorem evaluatePulls_converse (checks : ListsChecks gitHub repo checksOf)
    (plain : PlainConclusions checksOf)
    (texts : ∀ pr ∈ prs, ∃ sha, pr.headSha = .str sha)
    (evaluated : List PullRequestSummary)
    (history : List (Dialogue.Exchange JsonAnswer)) :
    ∃ asked, (evaluatePulls room repo prs evaluated).converse gitHub history =
        (history ++ asked, .ok (evaluated ++ prs.map (judged checksOf))) ∧
      asked.map Sigma.fst =
        (prs.filterMap commitOf).map (checksRequest repo) := by
  induction prs generalizing evaluated history with
  | nil => exact ⟨[], by simp [evaluatePulls, Dialogue.converse], rfl⟩
  | cons pr rest induction =>
      obtain ⟨⟨sha, named⟩, later⟩ := List.forall_mem_cons.mp texts
      have extended : evaluated ++ (pr :: rest).map (judged checksOf) =
          evaluated ++ [judged checksOf pr] ++ rest.map (judged checksOf) := by
        simp
      rcases commitOf_cases named with
        ⟨uncommitted, falsy⟩ | ⟨committed, truthy⟩
      · obtain ⟨asked, ran, requests⟩ :=
          induction later (evaluated ++ [judged checksOf pr]) history
        refine ⟨asked, ?_, ?_⟩
        · rw [evaluatePulls_of_none uncommitted falsy, ran, extended]
        · rw [requests, List.filterMap_cons_none uncommitted]
      · obtain ⟨asked, ran, requests⟩ :=
          induction later (evaluated ++ [judged checksOf pr])
            (history ++ [checksExchange gitHub repo sha history])
        refine ⟨checksExchange gitHub repo sha history :: asked, ?_, ?_⟩
        · rw [evaluatePulls_of_some checks plain named committed truthy, ran,
            extended, List.append_assoc, List.singleton_append]
        · rw [List.map_cons, requests, List.filterMap_cons_some committed]
          rfl

/-- The head of a listed pull request has a text as its commit, or none. -/
def NamesCommit (pr : Pull) : Prop :=
  Value.get (entriesOf (Value.get pr "head")) "sha" = .null ∨
    ∃ sha, Value.get (entriesOf (Value.get pr "head")) "sha" = .str sha

theorem NamesCommit.headSha {pr : Pull} (names : NamesCommit pr)
    {summary : PullRequestSummary}
    (wanted : wantedSummary? window pr = some summary) :
    ∃ sha, summary.headSha = .str sha := by
  obtain ⟨createdAt, mergedAt, rfl⟩ : ∃ createdAt mergedAt,
      summary = summaryOf pr createdAt mergedAt := by
    rw [wantedSummary?] at wanted
    split at wanted
    · split at wanted
      · exact ⟨_, _, (Option.some.inj wanted).symm⟩
      · cases wanted
    · cases wanted
  rcases names with absent | ⟨sha, present⟩
  · exact ⟨"", by rw [summaryOf, absent]; rfl⟩
  · by_cases blank : sha = ""
    · exact ⟨"", by rw [summaryOf, present, blank]; rfl⟩
    · have truthy : (Value.str sha).truthy = true := by
        simp [Value.truthy, blank]
      refine ⟨sha, ?_⟩
      rw [summaryOf, present]
      exact Value.orElse_of_truthy truthy

/-- Behind a complete listing, GitHub is asked once about the commit of each
pull request, and each gets the verdict of the check runs on the one page that
is read, which are all of them where a commit has no more than 100. -/
theorem reportedPulls_verdicts
    (exact : FetchesExactly window pulls (fetched gitHub repo window))
    (named : ∀ pr ∈ pulls, NamesCommit pr)
    (checks : ListsChecks gitHub repo checksOf)
    (plain : PlainConclusions checksOf) :
    ∃ results asked,
      (reportedPulls room repo window.windowStart window.windowEnd).converse
          gitHub [] =
        (((fetchMergedAiPrs repo window.windowStart window.windowEnd).converse
          gitHub []).1 ++ asked, .ok results) ∧
      results.Perm ((pulls.filterMap (wantedSummary? window)).map
        (judged checksOf)) ∧
      results.Pairwise MergedNoLater ∧
      asked.map Sigma.fst =
        (results.filterMap commitOf).map (checksRequest repo) ∧
      ∀ pr ∈ results, ∀ sha ∈ commitOf pr, (checksOf sha).length ≤ 100 →
        pr.firstPassCi = verdict (checksOf sha) := by
  obtain ⟨prs, listed, perm, sorted⟩ := exact
  have texts : ∀ pr ∈ prs, ∃ sha, pr.headSha = .str sha := by
    intro pr member
    obtain ⟨source, among, wanted⟩ :=
      List.mem_filterMap.mp (perm.mem_iff.mp member)
    exact (named source among).headSha wanted
  obtain ⟨asked, ran, requests⟩ := evaluatePulls_converse checks plain texts []
    ((fetchMergedAiPrs repo window.windowStart window.windowEnd).converse gitHub
      []).1
  refine ⟨prs.map (judged checksOf), asked, ?_, perm.map _,
    List.pairwise_map.mpr sorted, ?_, ?_⟩
  · rw [fetched] at listed
    rw [reportedPulls, Dialogue.converse_bind, listed]
    exact ran
  · rw [requests, List.filterMap_map]
    rfl
  · intro pr member sha commit few
    obtain ⟨source, -, rfl⟩ := List.mem_map.mp member
    have commitToo : commitOf source = some sha := commit
    rw [judged, commitToo]
    exact congrArg verdict (List.take_of_length_le few)

end Report

section Checked

/-- Its newer check failed. -/
def checkedPull : Pull :=
  [("number", .int 9),
    ("labels", .list [.dict [("name", .str "ai-generated")]]),
    ("created_at", .str "2024-05-01T09:00:00Z"),
    ("updated_at", .str "2024-06-05T09:00:00Z"),
    ("merged_at", .str "2024-06-05T09:00:00Z"),
    ("head", .dict [("sha", .str "4b825dc")])]

theorem pullShape_checkedPull : PullShape checkedPull where
  number := rfl
  updatedAt := by decide
  mergedAt := .inr (by decide)
  createdAt := .inr (by decide)
  labels := by
    refine ⟨_, rfl, ?_⟩
    intro label member
    obtain rfl := List.mem_singleton.mp member
    exact ⟨_, rfl, rfl⟩
  head := .inr ⟨_, rfl⟩
  user := .inl rfl

def checkedRuns : List CheckRun :=
  [[("status", .str "completed"), ("conclusion", .str "success")],
    [("status", .str "completed"), ("conclusion", .str "failure")],
    [("status", .str "in_progress"), ("conclusion", .null)]]

def checkedGitHub : GitHub := fun history request =>
  if request.params.length = 1 then
    .ok (.dict [("check_runs", .list (checkedRuns.map .dict))])
  else gitHubOf [checkedPull] history request

theorem fetchesExactly_checked :
    FetchesExactly juneWeek [checkedPull]
      (fetched checkedGitHub "owner/repo" juneWeek) := by
  have shaped : ∀ pr ∈ [checkedPull], PullShape pr := by
    intro pr member
    obtain rfl := List.mem_singleton.mp member
    exact pullShape_checkedPull
  have lists : ListsPulls checkedGitHub "owner/repo" [checkedPull] :=
    fun _ _ => rfl
  rw [fetchesExactly_iff_perm shaped lists]
  have wholly : scanned 100 (mergedBefore juneWeek) maxPullsPages
      [checkedPull] = [checkedPull] := rfl
  rw [wholly]

theorem reportedPulls_verdicts_checked :
    ∃ results, ((reportedPulls 900 "owner/repo" juneWeek.windowStart
        juneWeek.windowEnd).converse checkedGitHub []).2 = .ok results ∧
      results.map PullRequestSummary.firstPassCi = [some false] := by
  have checks : ListsChecks checkedGitHub "owner/repo" fun _ => checkedRuns :=
    fun _ _ => ⟨_, rfl, rfl⟩
  have plain : PlainConclusions fun _ => checkedRuns := by
    intro _ run member
    simp only [checkedRuns, List.mem_cons, List.not_mem_nil, or_false] at member
    rcases member with rfl | rfl | rfl <;> rfl
  have named : ∀ pr ∈ [checkedPull], NamesCommit pr := by
    intro pr member
    obtain rfl := List.mem_singleton.mp member
    exact .inr ⟨_, rfl⟩
  obtain ⟨results, asked, ran, perm, -, -, -⟩ :=
    reportedPulls_verdicts fetchesExactly_checked named checks plain
  have verdicts : (([checkedPull].filterMap (wantedSummary? juneWeek)).map
      (judged fun _ => checkedRuns)).map PullRequestSummary.firstPassCi =
        [some false] := by decide
  refine ⟨results, congrArg Prod.snd ran, ?_⟩
  rw [← List.perm_singleton, ← verdicts]
  exact perm.map _

end Checked

end PipelineOps.Scripts
