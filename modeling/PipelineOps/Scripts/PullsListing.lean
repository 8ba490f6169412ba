import PipelineOps.Library.Fallible
import PipelineOps.Library.Paging
import PipelineOps.Scripts.WeeklyReport

namespace PipelineOps.Scripts

open PipelineOps.Library
open PipelineOps.Orchestrator (instant)
open PipelineOps.Python
open PipelineOps.Tools (getOr)

/-! The pull requests that the weekly report should show, and those that its
reading of the listing reaches. -/

abbrev Pull := List (String × Value)

/-- The bounds of a report: two values of type `datetime` with a zone. -/
structure Window where
  windowStart : DateTime
  windowEnd : DateTime
  startAware : windowStart.zone.isSome = true
  endAware : windowEnd.zone.isSome = true

def moment? (pr : Pull) (key : String) : Option DateTime :=
  (parseUtc (Value.get pr key)).toOption

def NoLater (first second : Option DateTime) : Prop :=
  ∀ moment ∈ first, ∀ other ∈ second, instant moment ≤ instant other

instance (first second : Option DateTime) : Decidable (NoLater first second) :=
  inferInstanceAs (Decidable (∀ moment ∈ first, ∀ other ∈ second, _ ≤ _))

/-- A timestamp of the listing, or its absence. -/
def OptionalMoment (pr : Pull) (key : String) : Prop :=
  (Value.get pr key).truthy = false ∨ (moment? pr key).isSome = true

def OptionalObject (value : Value) : Prop :=
  value = .null ∨ ∃ entries, value = .dict entries

/-- A label is an object whose name, if it has one, is a plain value. -/
def LabelShape (label : Value) : Prop :=
  ∃ entries, label = .dict entries ∧
    (getOr entries "name" (.str "")).hashable = true

/-- What the documentation of the listing says about a pull request. -/
structure PullShape (pr : Pull) : Prop where
  number : (pr.lookup "number").isSome = true
  updatedAt : (moment? pr "updated_at").isSome = true
  mergedAt : OptionalMoment pr "merged_at"
  createdAt : OptionalMoment pr "created_at"
  labels : ∃ items, getOr pr "labels" (.list []) = .list items ∧
    ∀ label ∈ items, LabelShape label
  head : OptionalObject (Value.get pr "head")
  user : OptionalObject (Value.get pr "user")

/-- The closed pull requests of a repository, last updated first. -/
structure Collection where
  pulls : List Pull
  shaped : ∀ pr ∈ pulls, PullShape pr
  updatedOrder : pulls.Pairwise fun pr later =>
    NoLater (moment? later "updated_at") (moment? pr "updated_at")
  mergedUpdated : ∀ pr ∈ pulls,
    NoLater (moment? pr "merged_at") (moment? pr "updated_at")
  few : pulls.length ≤ 2000

def isAiGenerated (pr : Pull) : Bool :=
  match Value.get pr "labels" with
  | .list labels => labels.any fun label =>
      match label with
      | .dict entries => (Value.get entries "name").isText "ai-generated"
      | _ => false
  | _ => false

def entriesOf : Value → List (String × Value)
  | .dict entries => entries
  | _ => []

def summaryOf (pr : Pull) (createdAt mergedAt : DateTime) :
    PullRequestSummary where
  number := Value.get pr "number"
  title := getOr pr "title" (.str "")
  author := getOr (entriesOf (Value.get pr "user")) "login" (.str "unknown")
  createdAt := createdAt
  mergedAt := mergedAt
  headSha :=
    (Value.get (entriesOf (Value.get pr "head")) "sha").orElse (.str "")
  url := getOr pr "html_url" (.str "")

def Window.Contains (window : Window) (mergedAt : DateTime) : Prop :=
  instant window.windowStart ≤ instant mergedAt ∧
    instant mergedAt < instant window.windowEnd

instance (window : Window) (mergedAt : DateTime) :
    Decidable (window.Contains mergedAt) :=
  inferInstanceAs (Decidable (_ ∧ _))

/-- The line of the report for a pull request that belongs there. -/
def wantedSummary? (window : Window) (pr : Pull) :
    Option PullRequestSummary :=
  match moment? pr "merged_at", moment? pr "created_at" with
  | some mergedAt, some createdAt =>
      if window.Contains mergedAt ∧ isAiGenerated pr = true then
        some (summaryOf pr createdAt mergedAt)
      else none
  | _, _ => none

def isWanted (window : Window) (pr : Pull) : Bool :=
  (wantedSummary? window pr).isSome

def mergedBefore (window : Window) (pr : Pull) : Bool :=
  (moment? pr "merged_at").any fun mergedAt =>
    decide (instant mergedAt < instant window.windowStart)

/-- The report has every pull request that belongs there, each once, in the
order of the merges. -/
def FetchesExactly (window : Window) (pulls : List Pull)
    (fetched : Except Exc (List PullRequestSummary)) : Prop :=
  ∃ results, fetched = .ok results ∧
    results.Perm (pulls.filterMap (wantedSummary? window)) ∧
    results.Pairwise MergedNoLater

abbrev GitHub :=
  List (Dialogue.Exchange JsonAnswer) → (request : GetJson) → JsonAnswer request

/-- GitHub answers from one collection, 100 pull requests a page. -/
def ListsPulls (gitHub : GitHub) (repo : String) (pulls : List Pull) : Prop :=
  ∀ history number, gitHub history (pullsRequest repo (number + 1)) =
    .ok (.list ((page 100 number pulls).map .dict))

def fetched (gitHub : GitHub) (repo : String) (window : Window) :
    Except Exc (List PullRequestSummary) :=
  ((fetchMergedAiPrs repo window.windowStart window.windowEnd).converse gitHub
    []).2

section Inspecting

variable {window : Window} {pr : Pull} {key : String}

theorem moment?_eq_some_iff {moment : DateTime} :
    moment? pr key = some moment ↔
      parseUtc (Value.get pr key) = .ok moment := by
  rw [moment?]
  cases parseUtc (Value.get pr key) <;> simp [Except.toOption]

theorem zone_of_parseUtc {ts : Value} {moment : DateTime}
    (parsed : parseUtc ts = .ok moment) : moment.zone = some .utc := by
  cases ts with
  | str text =>
      obtain ⟨naive, -, rfl⟩ := map_ok_iff.mp parsed
      rfl
  | _ => cases parsed

theorem parseUtc_of_falsy {ts : Value} (falsy : ts.truthy = false) :
    ∃ exc, parseUtc ts = .error exc := by
  cases ts with
  | str text =>
      obtain rfl : text = "" := by simpa [Value.truthy] using falsy
      exact ⟨_, rfl⟩
  | _ => exact ⟨_, rfl⟩

theorem moment?_of_falsy (falsy : (Value.get pr key).truthy = false) :
    moment? pr key = none := by
  obtain ⟨exc, failed⟩ := parseUtc_of_falsy falsy
  rw [moment?, failed]
  rfl

theorem truthy_of_moment? {moment : DateTime}
    (known : moment? pr key = some moment) :
    (Value.get pr key).truthy = true := by
  by_contra falsy
  rw [moment?_of_falsy (Bool.eq_false_iff.mpr falsy)] at known
  cases known

theorem OptionalMoment.cases (optional : OptionalMoment pr key) :
    ((Value.get pr key).truthy = false ∧ moment? pr key = none) ∨
      ∃ moment, (Value.get pr key).truthy = true ∧
        moment? pr key = some moment ∧
        parseUtc (Value.get pr key) = .ok moment := by
  rcases optional with falsy | parsed
  · exact .inl ⟨falsy, moment?_of_falsy falsy⟩
  · obtain ⟨moment, known⟩ := Option.isSome_iff_exists.mp parsed
    exact .inr ⟨moment, truthy_of_moment? known, known,
      moment?_eq_some_iff.mp known⟩

theorem datetimeLt_of_aware {first second : DateTime}
    (firstZone : first.zone = some .utc)
    (secondZone : second.zone.isSome = true) :
    datetimeLt first second =
      .ok (decide (instant first < instant second)) := by
  rw [datetimeLt, firstZone, secondZone]
  rfl

theorem getAttr_orElse_of_optionalObject {value default : Value}
    (optional : OptionalObject value) (key : String) :
    getAttr (value.orElse (.dict [])) key default =
      .ok (getOr (entriesOf value) key default) := by
  rcases optional with rfl | ⟨entries, rfl⟩
  · rfl
  · rw [Value.dict_orElse_nil]
    rfl

theorem labelName_of_shape {label : Value} (shape : LabelShape label) :
    labelName label = .ok (getOr (entriesOf label) "name" (.str "")) := by
  obtain ⟨entries, rfl, hashable⟩ := shape
  change (if (getOr entries "name" (.str "")).hashable = true then _ else _) = _
  rw [if_pos hashable]
  rfl

theorem isText_name (entries : List (String × Value)) :
    (getOr entries "name" (.str "")).isText "ai-generated" =
      (Value.get entries "name").isText "ai-generated" := by
  rw [getOr, Value.get]
  cases entries.lookup "name" <;> rfl

theorem labelNames_of_shape (shape : PullShape pr) :
    ∃ names, labelNames pr = .ok names ∧
      names.any (Value.isText "ai-generated") = isAiGenerated pr := by
  obtain ⟨items, listed, shapes⟩ := shape.labels
  refine ⟨items.map fun label => getOr (entriesOf label) "name" (.str ""),
    ?_, ?_⟩
  · rw [labelNames, listed]
    exact mapM_eq_ok fun label member =>
      labelName_of_shape (shapes label member)
  · rw [isAiGenerated]
    have known : Value.get pr "labels" = .list items ∨
        Value.get pr "labels" = .null ∧ items = [] := by
      rw [getOr] at listed
      rw [Value.get]
      cases found : pr.lookup "labels" with
      | none =>
          rw [found] at listed
          cases listed
          exact .inr ⟨rfl, rfl⟩
      | some value =>
          rw [found] at listed
          exact .inl listed
    rcases known with known | ⟨known, rfl⟩
    · rw [known, List.any_map]
      rw [Bool.eq_iff_iff, List.any_eq_true, List.any_eq_true]
      refine exists_congr fun label => and_congr_right fun member => ?_
      obtain ⟨entries, rfl, -⟩ := shapes label member
      exact iff_of_eq (congrArg (· = true) (isText_name entries))
    · rw [known]
      rfl

def sightingOf (window : Window) (pr : Pull) : Sighting :=
  if mergedBefore window pr then .older
  else
    match wantedSummary? window pr with
    | some summary => .found summary
    | none => .passed

theorem wantedSummary?_of_not_wanted {mergedAt : DateTime}
    (merged : moment? pr "merged_at" = some mergedAt)
    (unwanted : ¬ (window.Contains mergedAt ∧ isAiGenerated pr = true)) :
    wantedSummary? window pr = none := by
  rw [wantedSummary?, merged]
  cases moment? pr "created_at" with
  | none => rfl
  | some createdAt => exact if_neg unwanted

theorem wantedSummary?_of_mergedBefore (early : mergedBefore window pr = true) :
    wantedSummary? window pr = none := by
  rw [mergedBefore, Option.any_eq_true] at early
  obtain ⟨mergedAt, merged, before⟩ := early
  apply wantedSummary?_of_not_wanted merged
  intro wanted
  exact absurd wanted.1.1 (Int.not_le.mpr (of_decide_eq_true before))

theorem summarize_of_shape (shape : PullShape pr)
    {mergedAt createdAt : DateTime}
    (created : parseUtc (Value.get pr "created_at") = .ok createdAt) :
    summarize pr mergedAt (Value.get pr "created_at")
        ((Value.get (entriesOf (Value.get pr "head")) "sha").orElse (.str "")) =
      .ok (summaryOf pr createdAt mergedAt) := by
  obtain ⟨number, numbered⟩ := Option.isSome_iff_exists.mp shape.number
  have same : Value.get pr "number" = number := by
    rw [Value.get, numbered]
    rfl
  rw [summarize, numbered, getAttr_orElse_of_optionalObject shape.user, created,
    summaryOf, same]
  rfl

theorem inspectPull_of_contained (shape : PullShape pr) {mergedAt : DateTime}
    (merged : moment? pr "merged_at" = some mergedAt)
    (contained : window.Contains mergedAt) :
    inspectPull window.windowStart window.windowEnd (.dict pr) =
      .ok (sightingOf window pr) := by
  have parsed := moment?_eq_some_iff.mp merged
  have zone := zone_of_parseUtc parsed
  have notEarly := Int.not_lt.mpr contained.1
  obtain ⟨names, named, labelled⟩ := labelNames_of_shape shape
  have sha : getAttr ((Value.get pr "head").orElse (.dict [])) "sha" .null =
      .ok (Value.get (entriesOf (Value.get pr "head")) "sha") :=
    getAttr_orElse_of_optionalObject shape.head "sha"
  rw [inspectPull, sightingOf, mergedBefore, merged, Option.any_some]
  simp only [truthy_of_moment? merged, parsed, Bool.not_true,
    Bool.false_eq_true, if_false, bind, Except.bind, pure, Except.pure,
    datetimeLt_of_aware zone window.startAware, notEarly, decide_false,
    datetimeLt_of_aware zone window.endAware, contained.2, decide_true, named,
    labelled, sha]
  by_cases generated : isAiGenerated pr = true
  · simp only [generated, Bool.not_true, Bool.false_eq_true, if_false]
    rcases shape.createdAt.cases with
      ⟨falsy, unknown⟩ | ⟨createdAt, truthy, known, created⟩
    · simp only [falsy, Bool.not_false, if_true, wantedSummary?, merged,
        unknown]
    · simp only [truthy, Bool.not_true, Bool.false_eq_true, if_false,
        summarize_of_shape shape created, wantedSummary?, merged, known,
        contained, generated, and_self, if_true]
  · have outside := fun wanted : window.Contains mergedAt ∧
        isAiGenerated pr = true => generated wanted.2
    simp only [generated, Bool.not_false, if_true,
      wantedSummary?_of_not_wanted merged outside]

theorem inspectPull_of_shape (window : Window) (shape : PullShape pr) :
    inspectPull window.windowStart window.windowEnd (.dict pr) =
      .ok (sightingOf window pr) := by
  rcases shape.mergedAt.cases with
    ⟨falsy, unmerged⟩ | ⟨mergedAt, truthy, merged, parsed⟩
  · rw [inspectPull, sightingOf, falsy, mergedBefore, wantedSummary?, unmerged]
    rfl
  · by_cases contained : window.Contains mergedAt
    · exact inspectPull_of_contained shape merged contained
    · have zone := zone_of_parseUtc parsed
      have beforeStart := datetimeLt_of_aware zone window.startAware
      have beforeEnd := datetimeLt_of_aware zone window.endAware
      rw [inspectPull, sightingOf, mergedBefore, merged, Option.any_some]
      simp only [truthy, parsed, Bool.not_true, Bool.false_eq_true, if_false,
        bind, Except.bind, beforeStart, pure, Except.pure]
      by_cases early : instant mergedAt < instant window.windowStart
      · simp only [early, decide_true, if_true]
      · have late : ¬ instant mergedAt < instant window.windowEnd :=
          fun before => contained ⟨Int.not_lt.mp early, before⟩
        have outside := fun wanted : window.Contains mergedAt ∧
            isAiGenerated pr = true => contained wanted.1
        simp only [early, decide_false, Bool.false_eq_true, if_false, beforeEnd,
          late, Bool.not_false, if_true,
          wantedSummary?_of_not_wanted merged outside]

end Inspecting

section Fetching

variable {window : Window} {pulls : List Pull} {gitHub : GitHub}
  {repo : String}

theorem readPulls_of_shape (shaped : ∀ pr ∈ pulls, PullShape pr)
    (results : List PullRequestSummary) (reachedOlderWindow : Bool) :
    readPulls window.windowStart window.windowEnd (pulls.map .dict) results
        reachedOlderWindow =
      .ok (results ++ pulls.filterMap (wantedSummary? window),
        reachedOlderWindow || pulls.any (mergedBefore window)) := by
  induction pulls generalizing results reachedOlderWindow with
  | nil => simp [readPulls]
  | cons pr rest induction =>
      have shape := shaped pr List.mem_cons_self
      have further := induction fun other member =>
        shaped other (List.mem_cons_of_mem pr member)
      rw [List.map_cons, readPulls, inspectPull_of_shape window shape,
        sightingOf]
      simp only [bind, Except.bind, List.any_cons]
      cases early : mergedBefore window pr with
      | true =>
          rw [List.filterMap_cons_none (wantedSummary?_of_mergedBefore early)]
          simp [further]
      | false =>
          cases wanted : wantedSummary? window pr with
          | none =>
              rw [List.filterMap_cons_none wanted]
              simp [further]
          | some summary =>
              rw [List.filterMap_cons_some wanted]
              simp [further]

theorem fetchPages_converse (shaped : ∀ pr ∈ pulls, PullShape pr)
    (lists : ListsPulls gitHub repo pulls) (number limit : Nat)
    (results : List PullRequestSummary)
    (history : List (Dialogue.Exchange JsonAnswer)) :
    ((fetchPages repo window.windowStart window.windowEnd
        (List.range' (number + 1) limit) results).converse gitHub history).2 =
      .ok (results ++
        (scanned 100 (mergedBefore window) limit
          (pulls.drop (100 * number))).filterMap (wantedSummary? window)) := by
  induction limit generalizing number results history with
  | zero => simp [fetchPages, Dialogue.converse, scanned]
  | succ limit induction =>
      have inPage : ∀ pr ∈ page 100 number pulls, PullShape pr :=
        fun pr member => shaped pr (mem_of_mem_page member)
      rw [List.range'_succ, fetchPages, Dialogue.converse, lists]
      cases listed : page 100 number pulls with
      | nil =>
          rw [scanned_drop_of_page_nil (by omega) listed, List.filterMap_nil,
            List.append_nil]
          rfl
      | cons first rest =>
          rw [← listed]
          have truthy :
              (Value.list ((page 100 number pulls).map .dict)).truthy =
                true := by
            rw [listed]
            rfl
          have pageRead : readPage window.windowStart window.windowEnd
              (.list ((page 100 number pulls).map .dict)) results =
              .ok (results ++ (page 100 number pulls).filterMap
                (wantedSummary? window),
                (page 100 number pulls).any (mergedBefore window)) :=
            readPulls_of_shape inPage results false
          simp only [truthy, Bool.not_true, Bool.false_eq_true, if_false,
            pageRead]
          rw [scanned_drop]
          cases stopped : (page 100 number pulls).any (mergedBefore window) with
          | true =>
              simp only [if_true, List.append_nil]
              rfl
          | false =>
              simp only [Bool.false_eq_true, if_false]
              rw [induction, List.filterMap_append, List.append_assoc]

theorem fetched_of_shape (shaped : ∀ pr ∈ pulls, PullShape pr)
    (lists : ListsPulls gitHub repo pulls) :
    fetched gitHub repo window =
      .ok (sortedByMergedAt
        ((scanned 100 (mergedBefore window) maxPullsPages pulls).filterMap
          (wantedSummary? window))) := by
  have pages : ((fetchPages repo window.windowStart window.windowEnd
        (List.range' 1 maxPullsPages) []).converse gitHub []).2 =
      .ok ((scanned 100 (mergedBefore window) maxPullsPages pulls).filterMap
        (wantedSummary? window)) :=
    fetchPages_converse shaped lists 0 maxPullsPages [] []
  rw [fetched, fetchMergedAiPrs, Dialogue.converse_bind, pages]
  rfl

theorem fetchesExactly_iff_perm (shaped : ∀ pr ∈ pulls, PullShape pr)
    (lists : ListsPulls gitHub repo pulls) :
    FetchesExactly window pulls (fetched gitHub repo window) ↔
      ((scanned 100 (mergedBefore window) maxPullsPages pulls).filterMap
        (wantedSummary? window)).Perm
          (pulls.filterMap (wantedSummary? window)) := by
  have sorted := List.perm_insertionSort MergedNoLater
    ((scanned 100 (mergedBefore window) maxPullsPages pulls).filterMap
      (wantedSummary? window))
  rw [fetched_of_shape shaped lists]
  constructor
  · rintro ⟨results, same, perm, -⟩
    cases same
    exact sorted.symm.trans perm
  · intro perm
    exact ⟨_, rfl, sorted.trans perm,
      List.pairwise_insertionSort MergedNoLater _⟩

end Fetching

/-- The report is complete exactly when none of its pull requests is listed on a
page behind one with a pull request that was merged before the window, however
recently that one was updated. -/
theorem fetchesExactly_iff (collection : Collection) (window : Window)
    (gitHub : GitHub) (repo : String)
    (lists : ListsPulls gitHub repo collection.pulls) :
    FetchesExactly window collection.pulls (fetched gitHub repo window) ↔
      NoneBehind 100 (mergedBefore window) (isWanted window)
        collection.pulls := by
  rw [fetchesExactly_iff_perm collection.shaped lists]
  exact filterMap_scanned_perm_iff (by decide) collection.few

section Touched

/-! An old pull request that gets a comment after a hundred later ones were
updated. -/

def juneWeek : Window where
  windowStart := ⟨((toOrdinal 2024 6 3 : Int) - 1) * microsPerDay, some .utc,
    by decide⟩
  windowEnd := ⟨((toOrdinal 2024 6 10 : Int) - 1) * microsPerDay, some .utc,
    by decide⟩
  startAware := rfl
  endAware := rfl

def listedPull (number : Nat) (mergedAt updatedAt : Value) : Pull :=
  [("number", .int number), ("title", .str "chore: update"),
    ("labels", .list [.dict [("name", .str "ai-generated")]]),
    ("created_at", .str "2024-05-01T09:00:00Z"), ("updated_at", updatedAt),
    ("merged_at", mergedAt)]

def touchedPull : Pull :=
  listedPull 7 (.str "2024-05-02T09:00:00Z") (.str "2024-06-07T09:00:00Z")

def closedPull (number : Nat) : Pull :=
  listedPull number .null (.str "2024-06-06T09:00:00Z")

def mergedPull : Pull :=
  listedPull 8 (.str "2024-06-05T09:00:00Z") (.str "2024-06-05T09:00:00Z")

def touchedPulls : List Pull :=
  touchedPull ::
    ((List.range 99).map fun number => closedPull (100 + number)) ++
    [mergedPull]

theorem pullShape_listedPull (number : Nat) {mergedAt updatedAt : Value}
    (merged : mergedAt.truthy = false ∨
      (parseUtc mergedAt).toOption.isSome = true)
    (updated : (parseUtc updatedAt).toOption.isSome = true) :
    PullShape (listedPull number mergedAt updatedAt) where
  number := rfl
  updatedAt := updated
  mergedAt := merged
  createdAt := by
    have created : (parseUtc (.str "2024-05-01T09:00:00Z")).toOption.isSome =
        true := by decide
    exact .inr created
  labels := by
    refine ⟨_, rfl, ?_⟩
    intro label member
    obtain rfl := List.mem_singleton.mp member
    exact ⟨_, rfl, rfl⟩
  head := .inl rfl
  user := .inl rfl

theorem mem_touchedPulls {pr : Pull} (member : pr ∈ touchedPulls) :
    pr = touchedPull ∨ pr = mergedPull ∨ ∃ number, pr = closedPull number := by
  simp only [touchedPulls, List.cons_append, List.mem_cons, List.mem_append,
    List.mem_map, List.not_mem_nil, or_false] at member
  rcases member with rfl | ⟨number, -, rfl⟩ | rfl
  · exact .inl rfl
  · exact .inr (.inr ⟨_, rfl⟩)
  · exact .inr (.inl rfl)

theorem pullShape_of_mem {pr : Pull} (member : pr ∈ touchedPulls) :
    PullShape pr := by
  rcases mem_touchedPulls member with rfl | rfl | ⟨number, rfl⟩
  · exact pullShape_listedPull 7 (.inr (by decide)) (by decide)
  · exact pullShape_listedPull 8 (.inr (by decide)) (by decide)
  · exact pullShape_listedPull number (.inl rfl) (by decide)

theorem updated_closedPull (number : Nat) :
    moment? (closedPull number) "updated_at" =
      moment? (closedPull 0) "updated_at" := rfl

theorem touchedPulls_updatedOrder :
    touchedPulls.Pairwise fun pr later =>
      NoLater (moment? later "updated_at") (moment? pr "updated_at") := by
  rw [touchedPulls, List.cons_append, List.pairwise_cons, List.pairwise_append]
  refine ⟨?_, ?_, List.pairwise_singleton _ _, ?_⟩
  · intro pr member
    rw [List.mem_append, List.mem_map, List.mem_singleton] at member
    rcases member with ⟨number, -, rfl⟩ | rfl
    · rw [updated_closedPull]
      decide
    · decide
  · rw [List.pairwise_map]
    refine List.pairwise_of_forall ?_
    intro number other
    rw [updated_closedPull (100 + number), updated_closedPull (100 + other)]
    decide
  · intro pr member later last
    obtain ⟨number, -, rfl⟩ := List.mem_map.mp member
    obtain rfl := List.mem_singleton.mp last
    rw [updated_closedPull]
    decide

theorem touchedPulls_mergedUpdated {pr : Pull} (member : pr ∈ touchedPulls) :
    NoLater (moment? pr "merged_at") (moment? pr "updated_at") := by
  rcases mem_touchedPulls member with rfl | rfl | ⟨number, rfl⟩
  · decide
  · decide
  · intro moment merged
    cases merged

def touchedCollection : Collection where
  pulls := touchedPulls
  shaped := fun _ => pullShape_of_mem
  updatedOrder := touchedPulls_updatedOrder
  mergedUpdated := fun _ => touchedPulls_mergedUpdated
  few := by decide

/-- A server with one collection. -/
def gitHubOf (pulls : List Pull) : GitHub := fun _ request =>
  match Value.get request.params "page",
      Value.get request.params "per_page" with
  | .int number, .int size =>
      .ok (.list ((page size.toNat (number.toNat - 1) pulls).map .dict))
  | _, _ => .ok (.list [])

theorem listsPulls_gitHubOf (repo : String) (pulls : List Pull) :
    ListsPulls (gitHubOf pulls) repo pulls := fun _ _ => rfl

theorem not_fetchesExactly_touched :
    ¬ FetchesExactly juneWeek touchedCollection.pulls
      (fetched (gitHubOf touchedCollection.pulls) "owner/repo" juneWeek) := by
  rw [fetchesExactly_iff_perm touchedCollection.shaped
    (listsPulls_gitHubOf "owner/repo" touchedCollection.pulls)]
  intro perm
  have none_behind := (filterMap_scanned_perm_iff (by decide)
    touchedCollection.few).mp perm
  have impossible := none_behind 0 100 touchedPull mergedPull rfl rfl
    (by decide) (by decide)
  exact absurd impossible (by decide)

def oldPull : Pull :=
  listedPull 6 (.str "2024-05-02T09:00:00Z") (.str "2024-05-03T09:00:00Z")

/-- A full page of unmerged pull requests, and behind it one that belongs to the
report and an older one. -/
def mergedPulls : List Pull :=
  ((List.range 100).map fun number => closedPull (100 + number)) ++
    [mergedPull, oldPull]

theorem mem_mergedPulls {pr : Pull} (member : pr ∈ mergedPulls) :
    pr = mergedPull ∨ pr = oldPull ∨ ∃ number, pr = closedPull number := by
  simp only [mergedPulls, List.mem_append, List.mem_cons, List.mem_map,
    List.not_mem_nil, or_false] at member
  rcases member with ⟨number, -, rfl⟩ | rfl | rfl
  · exact .inr (.inr ⟨_, rfl⟩)
  · exact .inl rfl
  · exact .inr (.inl rfl)

theorem mergedPulls_updatedOrder :
    mergedPulls.Pairwise fun pr later =>
      NoLater (moment? later "updated_at") (moment? pr "updated_at") := by
  rw [mergedPulls, List.pairwise_append]
  refine ⟨?_, ?_, ?_⟩
  · rw [List.pairwise_map]
    refine List.pairwise_of_forall ?_
    intro number other
    rw [updated_closedPull (100 + number), updated_closedPull (100 + other)]
    decide
  · rw [List.pairwise_pair]
    decide
  · intro pr member later last
    obtain ⟨number, -, rfl⟩ := List.mem_map.mp member
    simp only [List.mem_cons, List.not_mem_nil, or_false] at last
    rw [updated_closedPull]
    rcases last with rfl | rfl
    · decide
    · decide

def mergedCollection : Collection where
  pulls := mergedPulls
  shaped := by
    intro pr member
    rcases mem_mergedPulls member with rfl | rfl | ⟨number, rfl⟩
    · exact pullShape_listedPull 8 (.inr (by decide)) (by decide)
    · exact pullShape_listedPull 6 (.inr (by decide)) (by decide)
    · exact pullShape_listedPull number (.inl rfl) (by decide)
  updatedOrder := mergedPulls_updatedOrder
  mergedUpdated := by
    intro pr member
    rcases mem_mergedPulls member with rfl | rfl | ⟨number, rfl⟩
    · decide
    · decide
    · intro moment merged
      cases merged
  few := by decide

theorem fetchesExactly_merged :
    FetchesExactly juneWeek mergedCollection.pulls
      (fetched (gitHubOf mergedCollection.pulls) "owner/repo" juneWeek) := by
  rw [fetchesExactly_iff mergedCollection juneWeek _ "owner/repo"
    (listsPulls_gitHubOf "owner/repo" mergedCollection.pulls)]
  intro i j pr later known there early _
  have last := (List.getElem?_eq_some_iff.mp there).1
  have length : mergedCollection.pulls.length = 102 := rfl
  rw [length] at last
  have behind : 100 ≤ i := by
    by_contra first
    have inside : pr ∈ (List.range 100).map fun number =>
        closedPull (100 + number) := by
      change mergedPulls[i]? = some pr at known
      rw [mergedPulls, List.getElem?_append_left (by simp; omega)] at known
      exact List.mem_of_getElem? known
    obtain ⟨number, -, rfl⟩ := List.mem_map.mp inside
    cases early
  omega

end Touched

end PipelineOps.Scripts
