import PipelineOps.Orchestrator.Timestamps
import PipelineOps.Python.JsonRoundTrip
import PipelineOps.Tools.AlertDelivery

namespace PipelineOps.Tools

open PipelineOps.Library
open PipelineOps.Orchestrator (parsePipelineTs parsePipelineTs_zulu)
open PipelineOps.Python

/-! What the receiver of the alerts reads in them. -/

/-- A posted body stands for one event and the time at which it occurred. -/
def ReadsAlert (floatRepr : String → String) (depth : Nat)
    (request : UrlRequest) (event : AlertEvent) (now : DateTime) : Prop :=
  ∃ occurredAt,
    jsonLoads floatRepr depth request.data = .ok (some (.list [.dict
      [("occurredAt", .str occurredAt), ("severity", .str event.severity),
        ("eventType", .str event.eventType), ("summary", .str event.summary),
        ("detail", .dict event.detail)]])) ∧
      parsePipelineTs 0 (.str occurredAt) = .ok now

section Reading

variable {ν : Type} {floatRepr : String → String} {depth room : Nat}
  {config : AlertConfig ν} {event : AlertEvent} {now : DateTime}
  {request : UrlRequest}

/-- A body is read as one event, and as one time. -/
theorem ReadsAlert.unique {other : AlertEvent} {moment : DateTime}
    (left : ReadsAlert floatRepr depth request event now)
    (right : ReadsAlert floatRepr depth request other moment) :
    other = event ∧ moment = now := by
  obtain ⟨occurredAt, decodes, parses⟩ := left
  obtain ⟨otherText, otherDecodes, otherParses⟩ := right
  have same :=
    Option.some.inj (Except.ok.inj (decodes.symm.trans otherDecodes))
  obtain ⟨severity, eventType, summary, detail⟩ := event
  obtain ⟨otherSeverity, otherType, otherSummary, otherDetail⟩ := other
  simp only [Value.list.injEq, List.cons.injEq, Value.dict.injEq,
    Prod.mk.injEq, Value.str.injEq, true_and, and_true] at same
  obtain ⟨rfl, rfl, rfl, rfl, rfl⟩ := same
  exact ⟨rfl, (Except.ok.inj (parses.symm.trans otherParses)).symm⟩

theorem standard_compactStyle : compactStyle.Standard :=
  ⟨⟨[], rfl, by simp⟩, ⟨[], rfl, by simp⟩⟩

theorem alertRequest_reads (utc : now.zone = some .utc)
    (loadable : Loadable floatRepr depth (.dict event.detail))
    (prepared : alertRequest room config event now = .ok request) :
    ReadsAlert floatRepr (depth + 2) request event now := by
  obtain ⟨body, written, built⟩ := bind_ok_iff.mp prepared
  have data : request.data = body := by
    rw [urlRequest] at built
    split at built
    · rw [← Except.ok.inj built]
    · cases built
  have record : Loadable floatRepr (depth + 2) (.list [.dict
      [("occurredAt", .str (replaceText "+00:00" "Z" now.isoFormat)),
        ("severity", .str event.severity), ("eventType", .str event.eventType),
        ("summary", .str event.summary), ("detail", .dict event.detail)]]) := by
    refine .list ?_
    simp only [List.mem_singleton, forall_eq]
    refine .dict (by simp) ?_
    simp only [List.mem_cons, List.not_mem_nil, or_false, forall_eq_or_imp,
      forall_eq]
    exact ⟨.str _, .str _, .str _, .str _, loadable⟩
  refine ⟨_, ?_, parsePipelineTs_zulu 0 utc⟩
  rw [data, jsonLoads_written standard_compactStyle record written,
    arranged_of_unsorted rfl]

/-- Everything that is posted stands for the event and the reading of the
clock, and a call that returns has posted it. -/
theorem alerts_read {floats : Floats ν} {environ : Dict String String}
    (utc : now.zone = some .utc)
    (loadable : Loadable floatRepr depth (.dict event.detail))
    (outcomes : Nat → SenderOutcome) :
    (∀ post ∈ sendsOf (emission room floats environ event now outcomes).1,
      ∀ other moment,
        ReadsAlert floatRepr (depth + 2) post.1 other moment ↔
          other = event ∧ moment = now) ∧
      ((emission room floats environ event now outcomes).2 = .ok () →
        ∃ post ∈ sendsOf (emission room floats environ event now outcomes).1,
          ReadsAlert floatRepr (depth + 2) post.1 event now) := by
  cases configured : alertConfig floats environ event.eventType with
  | error exc =>
      rw [emission_of_misconfigured configured]
      exact ⟨by simp [sendsOf], fun returned => nomatch returned⟩
  | ok config =>
      cases prepared : alertRequest room config event now with
      | error exc =>
          obtain ⟨silent, raised⟩ :=
            emission_of_unprepared configured prepared outcomes
          rw [silent, raised]
          exact ⟨by simp, fun returned => nomatch returned⟩
      | ok request =>
          have reads := alertRequest_reads utc loadable prepared
          obtain ⟨retried, -, sends, -⟩ :=
            emission_stopsAfter configured prepared outcomes
          rw [sends]
          constructor
          · intro post member other moment
            rw [List.eq_of_mem_replicate member]
            constructor
            · exact reads.unique
            · rintro ⟨rfl, rfl⟩
              exact reads
          · intro returned
            exact ⟨_, List.mem_replicate.mpr ⟨Nat.succ_ne_zero retried, rfl⟩,
              reads⟩

theorem alerts_read_ingest :
    Loadable id 1 (.dict ingestEvent.detail) ∧
      ∀ post ∈ sendsOf (emission 3 wholeSeconds ingestEnviron ingestEvent
          firstMidnight fun _ => .ok ⟨some (.ok 503), none⟩).1,
        ∀ other moment, ReadsAlert id 3 post.1 other moment ↔
          other = ingestEvent ∧ moment = firstMidnight := by
  have loadable : Loadable id 1 (.dict ingestEvent.detail) := by
    refine .dict (by simp [ingestEvent]) ?_
    simp only [ingestEvent, List.mem_cons, List.not_mem_nil, or_false,
      forall_eq_or_imp, forall_eq]
    exact ⟨.str _, .str _⟩
  exact ⟨loadable, (alerts_read rfl loadable _).1⟩

end Reading

end PipelineOps.Tools
