import PipelineOps.Library.Dialogue
import PipelineOps.Orchestrator.Instants
import PipelineOps.Python.Strptime
import PipelineOps.Tools.BadRecords

namespace PipelineOps.Scripts

open PipelineOps.Library
open PipelineOps.Orchestrator (instant)
open PipelineOps.Python
open PipelineOps.Tools (getOr)

def maxPullsPages : Nat := 20

structure PullRequestSummary where
  number : Value
  title : Value
  author : Value
  createdAt : DateTime
  mergedAt : DateTime
  headSha : Value
  url : Value
  firstPassCi : Option Bool := none

/-- The arguments of `GitHubClient.get_json`. -/
structure GetJson where
  path : String
  params : List (String × Value)

/-- What `get_json` returns or raises. -/
abbrev JsonAnswer (_ : GetJson) : Type := Except Exc Value

section ParseUtc

open Strptime

/-- `%Y-%m-%dT%H:%M:%SZ`. -/
def utcFormat : Format where
  text := "%Y-%m-%dT%H:%M:%SZ"
  tokens :=
    [.directive .year, .literal '-', .directive .month, .literal '-',
      .directive .day, .literal 'T', .directive .hour, .literal ':',
      .directive .minute, .literal ':', .directive .second, .literal 'Z']

def parseUtc : Value → Except Exc DateTime
  | .str ts => (strptime utcFormat ts).map fun parsed => parsed.replaceZone .utc
  | ts => .error (.typeError ("strptime() argument 1 must be str, not " ++
      if ts.isNull then "None" else ts.typeName))

end ParseUtc

/-- `first < second` for two values of type `datetime`. -/
def datetimeLt (first second : DateTime) : Except Exc Bool :=
  if first.zone.isSome = second.zone.isSome then
    .ok (decide (instant first < instant second))
  else .error (.typeError
    "can't compare offset-naive and offset-aware datetimes")

/-- `value.get(key, default)`. -/
def getAttr (value : Value) (key : String) (default : Value) :
    Except Exc Value :=
  match value with
  | .dict entries => .ok (getOr entries key default)
  | value => .error (.attributeError
      ("'" ++ value.typeName ++ "' object has no attribute 'get'"))

def labelName (label : Value) : Except Exc Value := do
  let name ← getAttr label "name" (.str "")
  if name.hashable then pure name
  else .error (.typeError ("unhashable type: '" ++ name.typeName ++ "'"))

/-- The set `labels` of a pull request, in the order of the listing. -/
def labelNames (pr : List (String × Value)) : Except Exc (List Value) := do
  let labels ← (getOr pr "labels" (.list [])).iterate
  labels.mapM labelName

def summarize (pr : List (String × Value)) (mergedAt : DateTime)
    (createdAtRaw headSha : Value) : Except Exc PullRequestSummary := do
  let number ←
    match pr.lookup "number" with
    | none => .error (.keyError "number")
    | some number => .ok number
  let author ←
    getAttr ((Value.get pr "user").orElse (.dict [])) "login" (.str "unknown")
  let createdAt ← parseUtc createdAtRaw
  pure {
    number
    title := getOr pr "title" (.str "")
    author
    createdAt
    mergedAt
    headSha
    url := getOr pr "html_url" (.str "")
  }

/-- What one pass of the loop over a page does: nothing, set
`reached_older_window`, or append a summary. -/
inductive Sighting where
  | passed
  | older
  | found (summary : PullRequestSummary)

def inspectPull (windowStart windowEnd : DateTime) :
    Value → Except Exc Sighting
  | .dict pr =>
      let mergedAtRaw := Value.get pr "merged_at"
      if !mergedAtRaw.truthy then .ok .passed
      else do
        let mergedAt ← parseUtc mergedAtRaw
        let beforeWindow ← datetimeLt mergedAt windowStart
        if beforeWindow then pure .older
        else
          let beforeEnd ← datetimeLt mergedAt windowEnd
          if !beforeEnd then pure .passed
          else
            let labels ← labelNames pr
            if !labels.any (Value.isText "ai-generated") then pure .passed
            else
              let createdAtRaw := Value.get pr "created_at"
              let sha ← getAttr ((Value.get pr "head").orElse (.dict [])) "sha"
                .null
              if !createdAtRaw.truthy then pure .passed
              else
                let summary ←
                  summarize pr mergedAt createdAtRaw (sha.orElse (.str ""))
                pure (.found summary)
  | pr => .error (.attributeError
      ("'" ++ pr.typeName ++ "' object has no attribute 'get'"))

/-- The loop over one page: the results so far, and `reached_older_window`. -/
def readPulls (windowStart windowEnd : DateTime) :
    List Value → List PullRequestSummary → Bool →
      Except Exc (List PullRequestSummary × Bool)
  | [], results, reachedOlderWindow => .ok (results, reachedOlderWindow)
  | pr :: rest, results, reachedOlderWindow => do
      let sighting ← inspectPull windowStart windowEnd pr
      match sighting with
      | .passed =>
          readPulls windowStart windowEnd rest results reachedOlderWindow
      | .older => readPulls windowStart windowEnd rest results true
      | .found summary =>
          readPulls windowStart windowEnd rest (results ++ [summary])
            reachedOlderWindow

def pullsRequest (repo : String) (page : Nat) : GetJson where
  path := "repos/" ++ repo ++ "/pulls"
  params :=
    [("state", .str "closed"), ("sort", .str "updated"),
      ("direction", .str "desc"), ("per_page", .int 100), ("page", .int page)]

def readPage (windowStart windowEnd : DateTime) (pulls : Value)
    (results : List PullRequestSummary) :
    Except Exc (List PullRequestSummary × Bool) := do
  let items ← pulls.iterate
  readPulls windowStart windowEnd items results false

def fetchPages (repo : String) (windowStart windowEnd : DateTime) :
    List Nat → List PullRequestSummary →
      Dialogue JsonAnswer (Except Exc (List PullRequestSummary))
  | [], results => .done (.ok results)
  | page :: rest, results =>
      .ask (pullsRequest repo page) fun answer =>
        match answer with
        | .error exc => .done (.error exc)
        | .ok pulls =>
            if !pulls.truthy then .done (.ok results)
            else
              match readPage windowStart windowEnd pulls results with
              | .error exc => .done (.error exc)
              | .ok (results, reachedOlderWindow) =>
                  if reachedOlderWindow then .done (.ok results)
                  else fetchPages repo windowStart windowEnd rest results

def MergedNoLater (first second : PullRequestSummary) : Prop :=
  instant first.mergedAt ≤ instant second.mergedAt

instance : DecidableRel MergedNoLater := fun first second =>
  inferInstanceAs (Decidable (instant first.mergedAt ≤ instant second.mergedAt))

instance : Std.Total MergedNoLater := ⟨fun _ _ => Int.le_total _ _⟩

instance : IsTrans PullRequestSummary MergedNoLater :=
  ⟨fun _ _ _ => Int.le_trans⟩

/-- `sorted` by `merged_at`; all its keys are in UTC. -/
def sortedByMergedAt (results : List PullRequestSummary) :
    List PullRequestSummary :=
  results.insertionSort MergedNoLater

def fetchMergedAiPrs (repo : String) (windowStart windowEnd : DateTime) :
    Dialogue JsonAnswer (Except Exc (List PullRequestSummary)) :=
  (fetchPages repo windowStart windowEnd (List.range' 1 maxPullsPages) []).bind
    fun fetched => .done (fetched.map sortedByMergedAt)

end PipelineOps.Scripts
