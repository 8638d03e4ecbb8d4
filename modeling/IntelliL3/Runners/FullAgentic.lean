import IntelliL3.Runners.NoSlower
import IntelliL3.Runners.PrefetchMetrics

/-! # The full agentic system

On the same requests the full system hits wherever the one that only prefetches does, and answers
none later; nor does it answer any later than the system that keeps the steps used last.
-/

namespace IntelliL3

open Lib

namespace BenchmarkRunner

section

variable [PyBuiltins] [PyRuntime]

/-! ## No metrics of jobs -/

theorem agentPrefetch_own (request : BenchmarkRequest) (before : AgentPrefetchSystem)
    (result : ProcessResult) (after : AgentPrefetchSystem)
    (answered : AgentPrefetchSystem.system.process request before = .ok result after) :
    ∀ name ∈ agenticMetricNames, result.extraMetrics.get? name = none := by
  obtain ⟨stepId, parentStepId, answer⟩ := AgentPrefetchSystem.process_answered answered
  obtain ⟨wasted, reported⟩ := answer.reported
  have apart : ∀ name ∈ agenticMetricNames, name ∉ ["prefetch_precision", "prefetch_recall",
    "wasted_prefetch_bytes", "latency_saved_ms"] := by decide
  intro name among
  rw [reported]
  exact Dict.get?_ofRows_absent (apart name among)

theorem agentLRU_own (request : BenchmarkRequest) (before : AgentLRUBaseline)
    (result : ProcessResult) (after : AgentLRUBaseline)
    (answered : AgentLRUBaseline.process request before = .ok result after) :
    ∀ name ∈ agenticMetricNames, result.extraMetrics.get? name = none := by
  obtain ⟨key, answer⟩ := AgentLRUBaseline.process_answered answered
  have apart : ∀ name ∈ agenticMetricNames,
      name ∉ RetailWorkflowMetricsTracker.retailMetricNames ∧ name ∉ ["kv_reload_count",
        "kv_recompute_count", "l2_eviction_count", "l3_read_count"] := by decide
  exact fun name among => answer.others name (apart name among).1 (apart name among).2

theorem fullAgentic_own (request : BenchmarkRequest) (before : FullAgenticL3System)
    (result : ProcessResult) (after : FullAgenticL3System)
    (answered : FullAgenticL3System.process request before = .ok result after) :
    ∀ name ∈ agenticMetricNames, result.extraMetrics.get? name = none := by
  obtain ⟨_, _, toolHit, planHit, prefetchHit, answer⟩ :=
    FullAgenticL3System.process_answered answered
  obtain ⟨wasted, reported⟩ := answer.reported
  have apart : ∀ name ∈ agenticMetricNames,
      name ∉ RetailWorkflowMetricsTracker.retailMetricNames ∧ name ∉ ["workflow_cache_hit_rate",
        "tool_cache_hit_rate", "plan_cache_hit_rate", "recompute_avoided", "kv_reload_count",
        "l3_read_count", "l3_write_count", "prefetch_precision", "prefetch_recall",
        "latency_saved_ms", "wasted_prefetch_bytes"] := by decide
  intro name among
  rw [reported name (apart name among).1]
  exact Dict.get?_ofRows_absent (apart name among).2

/-! ## Answers -/

theorem fullAgentic_positive (request : BenchmarkRequest) (before : FullAgenticL3System)
    (result : ProcessResult) (after : FullAgenticL3System)
    (answered : FullAgenticL3System.process request before = .ok result after) :
    1 ≤ result.latencyMs := by
  obtain ⟨_, _, _, _, _, answer⟩ := FullAgenticL3System.process_answered answered
  exact one_le_agentLatency answer.latency

theorem full_prefetch_answers {tracker : RetailWorkflowMetricsTracker}
    {requests : List BenchmarkRequest} {results results' : List ProcessResult}
    {after : FullAgenticL3System} {after' : AgentPrefetchSystem}
    (run : Run FullAgenticL3System.process { retailMetrics := tracker } requests results after)
    (run' : Run AgentPrefetchSystem.process {} requests results' after') :
    List.Forall₂ (fun result result' => result.latencyMs ≤ result'.latencyMs ∧
      (result'.isCacheHit = true → result.isCacheHit = true) ∧
      result.prefetched = result'.prefetched ∧ result.usefulPrefetch = result'.usefulPrefetch)
      results results' := by
  refine (Run.related (R := fun full prefetch => full.processedSteps = prefetch.processedSteps)
    ?_ run run' rfl).1
  intro full prefetch request result full' result' prefetch' same returned returned'
  obtain ⟨stepId, parent, toolHit, planHit, prefetchHit, answer⟩ :=
    FullAgenticL3System.process_answered returned
  obtain ⟨stepId', parent', answer'⟩ := AgentPrefetchSystem.process_answered returned'
  obtain rfl := Except.ok.inj (answer.step.symm.trans answer'.step)
  obtain rfl := Except.ok.inj (answer.parent.symm.trans answer'.parent)
  have useful : result'.isCacheHit = prefetchHit := by
    rw [answer'.hit, answer.known, same]
  have hit : result'.isCacheHit = true → result.isCacheHit = true := by
    rw [useful, answer.hit]
    rintro rfl
    exact Bool.or_true _
  refine ⟨⟨agentLatency_le answer.latency answer'.latency ?_, hit, ?_, ?_⟩, ?_⟩
  · have saved : (0 : Rat) ≤ if toolHit then 18 else if planHit then 10 else 0 := by
      split
      · norm_num
      · split <;> norm_num
    cases found : result'.isCacheHit with
    | true =>
        rw [hit found]
        simp only [if_true]
        linarith
    | false =>
        have discount : (0 : Rat) ≤ if result.isCacheHit then 35 else 0 := by
          split <;> norm_num
        simp only [Bool.false_eq_true, if_false]
        linarith
  · rw [answer.prefetched, answer'.prefetched]
  · rw [answer.useful, answer'.useful, useful]
  · rw [answer.processed, answer'.processed, same]

theorem full_lru_answers {start full : FullAgenticL3System} {start' lru : AgentLRUBaseline}
    {requests : List BenchmarkRequest} {results results' : List ProcessResult}
    (run : Run FullAgenticL3System.process start requests results full)
    (run' : Run AgentLRUBaseline.process start' requests results' lru) :
    List.Forall₂ (fun result result' => result.latencyMs ≤ result'.latencyMs) results results' := by
  refine (Run.related (R := fun _ _ => True) ?_ run run' trivial).1
  intro full lru request result full' result' lru' _ returned returned'
  obtain ⟨_, _, toolHit, planHit, _, answer⟩ := FullAgenticL3System.process_answered returned
  obtain ⟨key, answer'⟩ := AgentLRUBaseline.process_answered returned'
  refine ⟨agentLatency_le answer.latency answer'.latency ?_, trivial⟩
  have saved : (0 : Rat) ≤ if toolHit then 18 else if planHit then 10 else 0 := by
    split
    · norm_num
    · split <;> norm_num
  have discount : (0 : Rat) ≤ if result.isCacheHit then 35 else 0 := by
    split <;> norm_num
  have discount' : (if result'.isCacheHit then 35 else 0 : Rat) ≤ 35 := by
    split <;> norm_num
  linarith

/-- The full system is never slower than the ones that only prefetch or only keep what was used
    last: no latency that the runner reports is larger, of requests, jobs or steps. It hits
    wherever prefetches do, of which it makes and uses as many. -/
theorem full_agentic_no_slower [PyNumpy] [LawfulNumpy] {tracker : RetailWorkflowMetricsTracker}
    {start : AgentLRUBaseline} {timed : List (BenchmarkRequest × Rat)}
    {full prefetch lru : Metrics}
    (returned : runSystem (FullAgenticL3System.system tracker) timed = .ok full)
    (returnedPrefetch : runSystem AgentPrefetchSystem.system timed = .ok prefetch)
    (returnedLRU : runSystem start.system timed = .ok lru)
    (agentic : ∃ request ∈ timed, ∃ key, workflowKey request.1 = .ok (some key)) :
    NoSlower full prefetch ∧ NoSlower full lru ∧ prefetch.cacheHitRate ≤ full.cacheHitRate ∧
      full.prefetched = prefetch.prefetched ∧ full.usefulPrefetch = prefetch.usefulPrefetch := by
  have nonempty : timed ≠ [] := by
    obtain ⟨request, among, -⟩ := agentic
    exact List.ne_nil_of_mem among
  obtain ⟨results, _, run, final⟩ := runSystem_final nonempty returned
  obtain ⟨results', _, run', final'⟩ := runSystem_final nonempty returnedPrefetch
  have answers := full_prefetch_answers run run'
  refine ⟨?_, ?_, ?_, ?_, ?_⟩
  · exact noSlower_of_answers fullAgentic_own agentPrefetch_own fullAgentic_positive
      (fun _ _ _ _ run run' => (full_prefetch_answers run run').imp fun _ _ each => each.1)
      returned returnedPrefetch agentic
  · exact noSlower_of_answers fullAgentic_own agentLRU_own fullAgentic_positive
      (fun _ _ _ _ run run' => full_lru_answers run run') returned returnedLRU agentic
  · rw [full.cacheHitRate_eq, prefetch.cacheHitRate_eq, final.requests, final'.requests,
      final.cacheHits, final'.cacheHits]
    refine div_le_div_of_nonneg_right (Nat.cast_le.mpr ?_) (Nat.cast_nonneg _)
    exact LeastRecent.countP_le_of_forall₂
      (List.Forall₂.flip (answers.imp fun _ _ each => each.2.1))
  · rw [final.prefetched, final'.prefetched, map_eq_of_forall₂ answers fun each => each.2.2.1]
  · rw [final.usefulPrefetch, final'.usefulPrefetch,
      map_eq_of_forall₂ answers fun each => each.2.2.2]

end

open Reference Reference.Shown in
theorem full_agentic_no_slower_of_steps : ∃ full prefetch lru,
    runSystem (FullAgenticL3System.system untracked) (agentSteps.map (·, 0)) = .ok full ∧
      runSystem (keeping 4 (by decide)).system (agentSteps.map (·, 0)) = .ok lru ∧
      NoSlower full prefetch ∧ NoSlower full lru := by
  have returned : runSystem (FullAgenticL3System.system untracked) (agentSteps.map (·, 0)) =
    .ok _ := rfl
  have prefetch : runSystem AgentPrefetchSystem.system (agentSteps.map (·, 0)) = .ok _ := rfl
  have lru : runSystem (keeping 4 (by decide)).system (agentSteps.map (·, 0)) = .ok _ := rfl
  obtain ⟨first, second, -⟩ := full_agentic_no_slower returned prefetch lru
    ⟨_, List.mem_cons_self, _, rfl⟩
  exact ⟨_, _, _, returned, lru, first, second⟩

end BenchmarkRunner

end IntelliL3
