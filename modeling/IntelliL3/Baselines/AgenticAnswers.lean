import IntelliL3.Baselines.AgentLRU

/-! # What the agentic systems answer

For each system one lemma says what a request that is answered does: whether it hits, what it
takes, what is remembered after it and what is reported.
-/

namespace IntelliL3

open Lib

/-! ## Latencies -/

section

variable [PyBuiltins] [PyRuntime] {request : BenchmarkRequest} {baseMs discountMs latencyMs : Rat}
  {cacheHit : Bool}

theorem agentLatency_ok
    (computed : agentLatency request baseMs cacheHit discountMs = .ok latencyMs) :
    ∃ own, requestLatency request = .ok own ∧
      latencyMs = max 1 (baseMs + own - (if cacheHit then 35 else 0) - discountMs) := by
  obtain ⟨own, measured, same⟩ := bind_eq_ok.mp computed
  cases same
  exact ⟨own, measured, rfl⟩

theorem one_le_agentLatency
    (computed : agentLatency request baseMs cacheHit discountMs = .ok latencyMs) :
    1 ≤ latencyMs := by
  obtain ⟨own, -, rfl⟩ := agentLatency_ok computed
  exact le_max_left _ _

/-- Of two answers to a request the one with the smaller base, less what it saves, is no slower. -/
theorem agentLatency_le {baseMs' discountMs' latencyMs' : Rat} {cacheHit' : Bool}
    (computed : agentLatency request baseMs cacheHit discountMs = .ok latencyMs)
    (computed' : agentLatency request baseMs' cacheHit' discountMs' = .ok latencyMs')
    (less : baseMs - (if cacheHit then 35 else 0) - discountMs ≤
      baseMs' - (if cacheHit' then 35 else 0) - discountMs') : latencyMs ≤ latencyMs' := by
  obtain ⟨own, measured, rfl⟩ := agentLatency_ok computed
  obtain ⟨own', measured', rfl⟩ := agentLatency_ok computed'
  rw [measured, Except.ok.injEq] at measured'
  subst measured'
  exact max_le_max le_rfl (by linarith)

end

/-! ## Prefetches -/

namespace AgentPrefetchSystem

variable [PyBuiltins] [PyRuntime]

/-- What a request that is answered does. -/
structure Answered (request : BenchmarkRequest) (before : AgentPrefetchSystem)
    (result : ProcessResult) (after : AgentPrefetchSystem) (stepId parentStepId : String) :
    Prop where
  step : request.text "step_id" = .ok stepId
  parent : request.text "parent_step_id" = .ok parentStepId
  hit : result.isCacheHit = decide (parentStepId ≠ "" ∧ parentStepId ∈ before.processedSteps)
  latency : agentLatency request 112 result.isCacheHit = .ok result.latencyMs
  prefetched : result.prefetched = (decide (parentStepId ≠ "")).toNat
  useful : result.usefulPrefetch = result.isCacheHit.toNat
  processed : after.processedSteps = insert stepId before.processedSteps
  reported : ∃ wasted, result.extraMetrics = .ofRows [
    ("prefetch_precision", indicator result.isCacheHit),
    ("prefetch_recall", indicator result.isCacheHit),
    ("wasted_prefetch_bytes", wasted),
    ("latency_saved_ms", if result.isCacheHit then 35 else 0)]

theorem process_answered {request : BenchmarkRequest} {before after : AgentPrefetchSystem}
    {result : ProcessResult} (returned : process request before = .ok result after) :
    ∃ stepId parentStepId, Answered request before result after stepId parentStepId := by
  replace returned := bind_run_ok.mp returned
  obtain ⟨stepId, _, step, returned⟩ := returned
  obtain ⟨step, same⟩ := raising_eq_ok.mp step
  rw [same] at returned
  replace returned := bind_run_ok.mp returned
  obtain ⟨parentStepId, _, parent, returned⟩ := returned
  obtain ⟨parent, same⟩ := raising_eq_ok.mp parent
  rw [same] at returned
  replace returned := bind_run_ok.mp returned
  obtain ⟨_, _, ⟨⟩, returned⟩ := returned
  replace returned := bind_run_ok.mp returned
  obtain ⟨_, _, ⟨⟩, returned⟩ := returned
  replace returned := bind_run_ok.mp returned
  obtain ⟨latency, _, computed, returned⟩ := returned
  obtain ⟨computed, same⟩ := raising_eq_ok.mp computed
  rw [same] at returned
  replace returned := bind_run_ok.mp returned
  obtain ⟨wasted, _, spent, returned⟩ := returned
  obtain ⟨-, same⟩ := raising_eq_ok.mp spent
  rw [same] at returned
  cases returned
  refine ⟨stepId, parentStepId, step, parent, ?_, computed, rfl, rfl, rfl, wasted, rfl⟩
  exact (Bool.decide_and _ _).symm

end AgentPrefetchSystem

/-! ## Tool pauses -/

namespace AgentTTLSystem

variable [PyBuiltins] [PyRuntime]

/-- What a request that is answered does: at most a quarter of 120 ms of its wait is hidden. -/
structure Answered (request : BenchmarkRequest) (result : ProcessResult) (discountMs : Rat) :
    Prop where
  latency : agentLatency request 132 result.isCacheHit discountMs = .ok result.latencyMs
  hidden : discountMs ≤ 30
  others : ∀ name ∉ ["kv_reload_count", "recompute_avoided", "tool_wait_hidden_ms",
    "l3_write_count"], result.extraMetrics.get? name = none

theorem process_answered {request : BenchmarkRequest} {before after : AgentTTLSystem}
    {result : ProcessResult} (returned : process request before = .ok result after) :
    ∃ discountMs, Answered request result discountMs := by
  replace returned := bind_run_ok.mp returned
  obtain ⟨toolLatency, _, number, returned⟩ := returned
  replace returned := bind_run_ok.mp returned
  obtain ⟨latency, _, priced, returned⟩ := returned
  obtain ⟨computed, same⟩ := raising_eq_ok.mp priced
  rw [same] at returned
  cases returned
  refine ⟨_, computed, ?_, fun name other => Dict.get?_ofRows_absent other⟩
  split
  · have least := min_le_right toolLatency 120
    linarith
  · norm_num

end AgentTTLSystem

/-! ## All of them -/

namespace FullAgenticL3System

variable [PyBuiltins] [PyRuntime]

/-- What a request that is answered does. -/
structure Answered (request : BenchmarkRequest) (before : FullAgenticL3System)
    (result : ProcessResult) (after : FullAgenticL3System) (stepId parentStepId : String)
    (toolHit planHit prefetchHit : Bool) : Prop where
  step : request.text "step_id" = .ok stepId
  parent : request.text "parent_step_id" = .ok parentStepId
  known : prefetchHit = decide (parentStepId ≠ "" ∧ parentStepId ∈ before.processedSteps)
  hit : result.isCacheHit = (toolHit || planHit || prefetchHit)
  latency : agentLatency request 92 result.isCacheHit
    (if toolHit then 18 else if planHit then 10 else 0) = .ok result.latencyMs
  prefetched : result.prefetched = (decide (parentStepId ≠ "")).toNat
  useful : result.usefulPrefetch = prefetchHit.toNat
  processed : after.processedSteps = insert stepId before.processedSteps
  reported : ∃ wasted, ∀ name ∉ RetailWorkflowMetricsTracker.retailMetricNames,
    result.extraMetrics.get? name = (ownMetrics toolHit planHit prefetchHit wasted).get? name

theorem process_answered {request : BenchmarkRequest} {before after : FullAgenticL3System}
    {result : ProcessResult} (returned : process request before = .ok result after) :
    ∃ stepId parentStepId toolHit planHit prefetchHit, Answered request before result after stepId
      parentStepId toolHit planHit prefetchHit := by
  replace returned := bind_run_ok.mp returned
  obtain ⟨stepId, _, step, returned⟩ := returned
  obtain ⟨step, same⟩ := raising_eq_ok.mp step
  rw [same] at returned
  replace returned := bind_run_ok.mp returned
  obtain ⟨parentStepId, _, parent, returned⟩ := returned
  obtain ⟨parent, same⟩ := raising_eq_ok.mp parent
  rw [same] at returned
  replace returned := bind_run_ok.mp returned
  obtain ⟨tool, _, keyed, returned⟩ := returned
  obtain ⟨-, same⟩ := raising_eq_ok.mp keyed
  rw [same] at returned
  replace returned := bind_run_ok.mp returned
  obtain ⟨plan, _, planned, returned⟩ := returned
  obtain ⟨-, same⟩ := raising_eq_ok.mp planned
  rw [same] at returned
  replace returned := bind_run_ok.mp returned
  obtain ⟨_, _, ⟨⟩, returned⟩ := returned
  replace returned := bind_run_ok.mp returned
  obtain ⟨_, _, ⟨⟩, returned⟩ := returned
  replace returned := bind_run_ok.mp returned
  obtain ⟨wasted, _, spent, returned⟩ := returned
  obtain ⟨-, same⟩ := raising_eq_ok.mp spent
  rw [same] at returned
  replace returned := bind_run_ok.mp returned
  obtain ⟨retail, _, tracked, returned⟩ := returned
  obtain ⟨_, told, same⟩ := zoom_eq_ok.mp tracked
  rw [same] at returned
  replace returned := bind_run_ok.mp returned
  obtain ⟨latency, _, computed, returned⟩ := returned
  obtain ⟨computed, same⟩ := raising_eq_ok.mp computed
  rw [same] at returned
  cases returned
  refine ⟨stepId, parentStepId, _, _, _, step, parent, (Bool.decide_and _ _).symm, rfl, computed,
    rfl, rfl, rfl, wasted, fun name other => ?_⟩
  exact Dict.get?_update_absent
    (RetailWorkflowMetricsTracker.metricsForRequest_names told other)

end FullAgenticL3System

end IntelliL3
