import Mathlib.Algebra.BigOperators.Ring.Finset
import Mathlib.Algebra.Group.Action.Defs
import IntelliL3.Baselines.AgenticAnswers
import IntelliL3.Runners.JobTimes

/-! # Metrics of the systems that prefetch

What these systems report request by request agrees, once the runner has summed and averaged it,
with what the runner counts itself.
-/

namespace IntelliL3

open Lib

/-! ## Sums over results -/

theorem metricTotal_eq {name : String} {results : List ProcessResult} {f : ProcessResult → Rat}
    (each : ∀ result ∈ results, result.extraMetrics.get? name = some (f result)) :
    metricTotal name results = (results.map f).sum := by
  rw [metricTotal, List.map_congr_left fun result among => by rw [each result among]]
  rfl

theorem indicator_eq (event : Bool) : indicator event = (event.toNat : Rat) := by
  cases event with
  | true => exact Nat.cast_one.symm
  | false => exact Nat.cast_zero.symm

theorem sum_toNat (p : ProcessResult → Bool) (results : List ProcessResult) :
    (results.map fun result => (p result).toNat).sum = results.countP p := by
  induction results with
  | nil => rfl
  | cons result rest ih =>
      rw [List.map_cons, List.sum_cons, ih, List.countP_cons]
      cases p result with
      | true => exact Nat.add_comm _ _
      | false => exact Nat.zero_add _

theorem sum_indicator (p : ProcessResult → Bool) (results : List ProcessResult) :
    (results.map fun result => indicator (p result)).sum = (results.countP p : Nat) := by
  simp only [indicator_eq, ← sum_toNat, Nat.cast_list_sum, List.map_map]
  rfl

theorem sum_natCast (f : ProcessResult → Nat) (results : List ProcessResult) :
    (results.map fun result => (f result : Rat)).sum = ((results.map f).sum : Nat) := by
  rw [Nat.cast_list_sum, List.map_map]
  rfl

namespace BenchmarkRunner

variable [PyBuiltins]

/-- What the runner makes of the answers to some requests, at least one. -/
structure Final (timed : List (BenchmarkRequest × Rat)) (results : List ProcessResult)
    (metrics : Metrics) : Prop where
  requests : metrics.totalRequests = timed.length
  answers : results.length = timed.length
  cacheHits : metrics.cacheHits = results.countP ProcessResult.isCacheHit
  prefetched : metrics.prefetched = (results.map ProcessResult.prefetched).sum
  usefulPrefetch : metrics.usefulPrefetch = (results.map ProcessResult.usefulPrefetch).sum
  metric : ∀ {name} {f : ProcessResult → Rat}, name ∉ computedMetricNames →
    name ≠ "prefetch_precision" → name ≠ "prefetch_recall" →
    (∀ result ∈ results, result.extraMetrics.get? name = some (f result)) →
    metrics.extraMetrics.get? name = some (if isRate name then
      (results.map f).sum / (metrics.totalRequests : Rat) else (results.map f).sum)
  precision : ∀ {f : ProcessResult → Rat},
    (∀ result ∈ results, result.extraMetrics.get? "prefetch_precision" = some (f result)) →
    metrics.extraMetrics.get? "prefetch_precision" =
      some (if 0 < metrics.prefetched then (results.map f).sum / (metrics.prefetched : Rat) else 0)
  recalled : ∀ {f : ProcessResult → Rat},
    (∀ result ∈ results, result.extraMetrics.get? "prefetch_recall" = some (f result)) →
    metrics.extraMetrics.get? "prefetch_recall" =
      some ((results.map f).sum / (metrics.totalRequests : Rat))
  network : ∀ {f g : ProcessResult → Rat},
    (∀ result ∈ results, result.extraMetrics.get? "network_io_overhead" = none) →
    (∀ result ∈ results, result.extraMetrics.get? "l3_read_count" = some (f result)) →
    (∀ result ∈ results, result.extraMetrics.get? "l3_write_count" = some (g result)) →
    metrics.extraMetrics.get? "network_io_overhead" =
      if (results.map f).sum ≠ 0 ∨ (results.map g).sum ≠ 0 then
        some ((results.map f).sum + (results.map g).sum)
      else none

theorem runSystem_final {system : BenchmarkSystem} {timed : List (BenchmarkRequest × Rat)}
    {metrics : Metrics} (nonempty : timed ≠ []) (returned : runSystem system timed = .ok metrics) :
    ∃ results after, Run system.process system.start (timed.map Prod.fst) results after ∧
      Final timed results metrics := by
  obtain ⟨keys, results, after, tally, run, named, totals, rfl⟩ := runSystem_ok returned
  have answers : results.length = timed.length := by
    rw [run.length_eq, List.length_map]
  obtain ⟨first, rest, rfl⟩ := List.exists_cons_of_ne_nil nonempty
  have total : ∀ {name} {f : ProcessResult → Rat},
      (∀ result ∈ results, result.extraMetrics.get? name = some (f result)) →
      tally.extraMetrics.get? name = some (results.map f).sum := by
    intro name f each
    have sum := totals.metrics name
    rw [metricTotal_eq each, Dict.get?_empty, Option.getD_none, zero_add] at sum
    have present : (tally.extraMetrics.get? name).isSome := by
      obtain ⟨result, later, rfl⟩ := List.exists_cons_of_length_eq_add_one answers
      rw [totals.reported]
      exact .inr ⟨result, List.mem_cons_self, by rw [each result List.mem_cons_self]; rfl⟩
    obtain ⟨value, held⟩ := Option.isSome_iff_exists.mp present
    rw [held, Option.getD_some] at sum
    rw [held, sum]
  have positive : 0 < (first :: rest).length := Nat.succ_pos _
  refine ⟨results, after, run, ⟨rfl, answers, ?_, ?_, ?_, ?_, ?_, ?_, ?_⟩⟩
  · exact totals.cacheHits.trans (Nat.zero_add _)
  · exact totals.prefetched.trans (Nat.zero_add _)
  · exact totals.usefulPrefetch.trans (Nat.zero_add _)
  · intro name f other precision recalled each
    rw [Tally.metrics_extra, finalize_get? other precision recalled, total each,
      decide_eq_true positive, Bool.and_true]
    split <;> rfl
  · intro f each
    rw [Tally.metrics_extra, finalize_precision, total each]
    rfl
  · intro f each
    rw [Tally.metrics_extra, finalize_recalled, total each, Option.map_some, if_pos positive]
    rfl
  · intro f g own reads writes
    have unreported : tally.extraMetrics.get? "network_io_overhead" = none := by
      rw [← Option.not_isSome_iff_eq_none, totals.reported]
      rintro (⟨⟨⟩⟩ | ⟨result, listed, reported⟩)
      rw [own result listed] at reported
      cases reported
    rw [Tally.metrics_extra, finalize_network unreported, total reads, total writes]
    rfl

end BenchmarkRunner

/-! ## Prefetches -/

section

open BenchmarkRunner

variable {timed : List (BenchmarkRequest × Rat)} {results : List ProcessResult} {metrics : Metrics}

theorem Metrics.cacheHitRate_eq (self : Metrics) :
    self.cacheHitRate = (self.cacheHits : Rat) / self.totalRequests := by
  unfold Metrics.cacheHitRate
  split
  · next none => rw [none, Nat.cast_zero, div_zero]
  · rfl

namespace BenchmarkRunner.Final

theorem sum_useful (final : Final timed results metrics) :
    (results.map fun result => (result.usefulPrefetch : Rat)).sum = metrics.usefulPrefetch := by
  rw [sum_natCast, final.usefulPrefetch]

theorem sum_misses (final : Final timed results metrics) :
    (results.map fun result => indicator !result.isCacheHit).sum =
      (metrics.totalRequests : Rat) - metrics.cacheHits := by
  have all := List.length_eq_countP_add_countP ProcessResult.isCacheHit (l := results)
  have same : results.countP (fun result => !result.isCacheHit) =
      results.countP (fun result => decide ¬ result.isCacheHit = true) :=
    List.countP_congr fun result _ => by simp
  rw [sum_indicator, same, final.requests, final.cacheHits, ← final.answers, all, Nat.cast_add,
    add_sub_cancel_left]

theorem misses_ne_zero_iff (final : Final timed results metrics) :
    (metrics.totalRequests : Rat) - metrics.cacheHits ≠ 0 ↔
      metrics.cacheHits < metrics.totalRequests := by
  have atMost : metrics.cacheHits ≤ metrics.totalRequests := by
    rw [final.cacheHits, final.requests, ← final.answers]
    exact List.countP_le_length
  rw [sub_ne_zero, ne_eq, Nat.cast_inj]
  omega

/-- What is reported as the precision is the rate that the metrics themselves compute. -/
theorem precision_eq (final : Final timed results metrics)
    (each : ∀ result ∈ results, result.extraMetrics.get? "prefetch_precision" =
      some (result.usefulPrefetch : Rat)) :
    metrics.extraMetrics.get? "prefetch_precision" = some metrics.prefetchUseRate := by
  rw [final.precision each, final.sum_useful, Metrics.prefetchUseRate]
  split
  · next positive => rw [if_neg positive.ne']
  · next none => rw [if_pos (Nat.eq_zero_of_not_pos none)]

/-- At most one prefetch a request, and none is useful that is not made. -/
theorem prefetched_le (final : Final timed results metrics)
    (each : ∀ result ∈ results, result.usefulPrefetch ≤ result.prefetched ∧
      result.prefetched ≤ 1) :
    metrics.usefulPrefetch ≤ metrics.prefetched ∧ metrics.prefetched ≤ metrics.totalRequests := by
  rw [final.usefulPrefetch, final.prefetched, final.requests, ← final.answers]
  refine ⟨List.sum_le_sum fun result listed => (each result listed).1, ?_⟩
  refine (List.sum_le_card_nsmul _ 1 ?_).trans_eq ?_
  · intro count listed
    obtain ⟨result, among, rfl⟩ := List.mem_map.mp listed
    exact (each result among).2
  · rw [List.length_map, smul_eq_mul, Nat.mul_one]

end BenchmarkRunner.Final

variable [PyBuiltins] [PyRuntime]

/-- Of the system that prefetches: what is precise is what is used, and what is used is hit. -/
theorem agent_prefetch_metrics (nonempty : timed ≠ [])
    (returned : runSystem AgentPrefetchSystem.system timed = .ok metrics) :
    metrics.extraMetrics.get? "prefetch_precision" = some metrics.prefetchUseRate ∧
      metrics.extraMetrics.get? "prefetch_recall" = some metrics.cacheHitRate ∧
      metrics.extraMetrics.get? "latency_saved_ms" = some (35 * (metrics.usefulPrefetch : Rat)) ∧
      metrics.usefulPrefetch = metrics.cacheHits ∧
      metrics.usefulPrefetch ≤ metrics.prefetched ∧
      metrics.prefetched ≤ metrics.totalRequests := by
  obtain ⟨results, after, run, final⟩ := runSystem_final nonempty returned
  have answered : ∀ result ∈ results, ∃ request before after stepId parentStepId,
      AgentPrefetchSystem.Answered request before result after stepId parentStepId := by
    intro result listed
    obtain ⟨request, -, before, after, answered⟩ := run.mem_replies listed
    obtain ⟨stepId, parentStepId, answered⟩ := AgentPrefetchSystem.process_answered answered
    exact ⟨request, before, after, stepId, parentStepId, answered⟩
  have useful : ∀ result ∈ results, result.usefulPrefetch = result.isCacheHit.toNat := by
    intro result listed
    obtain ⟨_, _, _, _, _, answer⟩ := answered result listed
    exact answer.useful
  have bounds : ∀ result ∈ results, result.usefulPrefetch ≤ result.prefetched ∧
      result.prefetched ≤ 1 := by
    intro result listed
    obtain ⟨_, _, _, _, _, answer⟩ := answered result listed
    rw [answer.useful, answer.hit, answer.prefetched]
    exact ⟨Bool.toNat_le_toNat fun both => decide_eq_true (of_decide_eq_true both).1,
      Bool.toNat_le _⟩
  have hits : metrics.usefulPrefetch = metrics.cacheHits := by
    rw [final.usefulPrefetch, final.cacheHits, ← sum_toNat, List.map_congr_left useful]
  have reported : ∀ (name : String) (f : Nat → Rat), (∀ hit wasted, (Dict.ofRows [
        ("prefetch_precision", indicator hit),
        ("prefetch_recall", indicator hit),
        ("wasted_prefetch_bytes", wasted),
        ("latency_saved_ms", if hit then 35 else 0)]).get? name = some (f hit.toNat)) →
      ∀ result ∈ results, result.extraMetrics.get? name = some (f result.usefulPrefetch) := by
    intro name f rows result listed
    obtain ⟨_, _, _, _, _, answer⟩ := answered result listed
    obtain ⟨wasted, reported⟩ := answer.reported
    rw [reported, answer.useful]
    exact rows _ wasted
  refine ⟨?_, ?_, ?_, hits, final.prefetched_le bounds⟩
  · exact final.precision_eq (reported _ Nat.cast fun hit _ => congrArg some (indicator_eq hit))
  · rw [final.recalled (reported _ Nat.cast fun hit _ => congrArg some (indicator_eq hit)),
      final.sum_useful, metrics.cacheHitRate_eq, hits]
  · rw [final.metric (by decide) (by decide) (by decide)
      (reported _ (fun useful => 35 * (useful : Rat)) fun hit _ => ?_)]
    · rw [List.sum_map_mul_left, final.sum_useful]
      rfl
    · cases hit with
      | true => exact congrArg some (mul_one (35 : Rat)).symm
      | false => exact congrArg some (mul_zero (35 : Rat)).symm

namespace FullAgenticL3System

/-- What the full system reports of a request, in terms of its answer. -/
structure Reported (result : ProcessResult) (tool plan : Rat) : Prop where
  precision : result.extraMetrics.get? "prefetch_precision" = some (result.usefulPrefetch : Rat)
  recalled : result.extraMetrics.get? "prefetch_recall" = some (result.usefulPrefetch : Rat)
  workflow : result.extraMetrics.get? "workflow_cache_hit_rate" =
    some (result.usefulPrefetch : Rat)
  tools : result.extraMetrics.get? "tool_cache_hit_rate" = some tool
  plans : result.extraMetrics.get? "plan_cache_hit_rate" = some plan
  avoided : result.extraMetrics.get? "recompute_avoided" = some (indicator result.isCacheHit)
  reloads : result.extraMetrics.get? "kv_reload_count" = some (indicator !result.isCacheHit)
  reads : result.extraMetrics.get? "l3_read_count" = some (indicator !result.isCacheHit)
  writes : result.extraMetrics.get? "l3_write_count" = some (indicator !result.isCacheHit)
  overhead : result.extraMetrics.get? "network_io_overhead" = none
  useful : result.usefulPrefetch ≤ result.prefetched ∧ result.prefetched ≤ 1
  hit : result.usefulPrefetch ≤ result.isCacheHit.toNat
  nonneg : 0 ≤ tool ∧ 0 ≤ plan
  within : tool ≤ indicator result.isCacheHit ∧ plan ≤ indicator result.isCacheHit
  covered : indicator result.isCacheHit ≤ tool + plan + result.usefulPrefetch

theorem Answered.reports {request : BenchmarkRequest} {before after : FullAgenticL3System}
    {result : ProcessResult} {stepId parentStepId : String} {toolHit planHit prefetchHit : Bool}
    (answer : Answered request before result after stepId parentStepId toolHit planHit
      prefetchHit) : Reported result (indicator toolHit) (indicator planHit) := by
  obtain ⟨wasted, reported⟩ := answer.reported
  have useful : (result.usefulPrefetch : Rat) = indicator prefetchHit := by
    rw [answer.useful, indicator_eq]
  have held : ∀ {name : String} {value : Rat},
      name ∉ RetailWorkflowMetricsTracker.retailMetricNames →
      (ownMetrics toolHit planHit prefetchHit wasted).get? name = some value →
      result.extraMetrics.get? name = some value := fun other row => (reported _ other).trans row
  constructor
  case precision | recalled | workflow =>
    rw [useful]
    exact held (by decide) (by simp [ownMetrics, Dict.ofRows, Dict.get?_set])
  case tools | plans =>
    exact held (by decide) (by simp [ownMetrics, Dict.ofRows, Dict.get?_set])
  case avoided | reloads | reads | writes =>
    rw [answer.hit]
    exact held (by decide) (by simp [ownMetrics, Dict.ofRows, Dict.get?_set])
  case overhead => exact reported _ (by decide)
  case useful =>
    rw [answer.useful, answer.known, answer.prefetched]
    exact ⟨Bool.toNat_le_toNat fun both => decide_eq_true (of_decide_eq_true both).1,
      Bool.toNat_le _⟩
  case hit =>
    rw [answer.useful, answer.hit]
    exact Bool.toNat_le_toNat (Bool.right_le_or _ _)
  case nonneg => cases toolHit <;> cases planHit <;> exact ⟨by norm_num, by norm_num⟩
  case within =>
    rw [answer.hit]
    cases toolHit <;> cases planHit <;> cases prefetchHit <;> norm_num
  case covered =>
    rw [answer.hit, useful]
    cases toolHit <;> cases planHit <;> cases prefetchHit <;> norm_num

end FullAgenticL3System

end

open BenchmarkRunner Reference Reference.Shown in
theorem agent_prefetch_metrics_of_steps : ∃ metrics,
    runSystem AgentPrefetchSystem.system (agentSteps.map (·, 0)) = .ok metrics ∧
      metrics.usefulPrefetch ≤ metrics.prefetched := by
  have returned : runSystem AgentPrefetchSystem.system (agentSteps.map (·, 0)) = .ok _ := rfl
  exact ⟨_, returned, (agent_prefetch_metrics (by decide) returned).2.2.2.2.1⟩

section

open BenchmarkRunner

variable [PyBuiltins] [PyRuntime] {timed : List (BenchmarkRequest × Rat)} {metrics : Metrics}

/-- Of the full system: the metrics count its hits and misses over again, and the hits of its
    three caches cover what it hits. -/
theorem full_agentic_metrics {tracker : RetailWorkflowMetricsTracker} (nonempty : timed ≠ [])
    (returned : runSystem (FullAgenticL3System.system tracker) timed = .ok metrics) :
    metrics.extraMetrics.get? "prefetch_precision" = some metrics.prefetchUseRate ∧
      metrics.extraMetrics.get? "recompute_avoided" = some (metrics.cacheHits : Rat) ∧
      metrics.extraMetrics.get? "kv_reload_count" =
        some ((metrics.totalRequests : Rat) - metrics.cacheHits) ∧
      metrics.extraMetrics.get? "network_io_overhead" =
        (if metrics.cacheHits < metrics.totalRequests then
          some (2 * ((metrics.totalRequests : Rat) - metrics.cacheHits)) else none) ∧
      metrics.usefulPrefetch ≤ metrics.cacheHits ∧
      metrics.usefulPrefetch ≤ metrics.prefetched ∧
      metrics.prefetched ≤ metrics.totalRequests ∧
      ∃ workflow tool plan,
        metrics.extraMetrics.get? "workflow_cache_hit_rate" = some workflow ∧
        metrics.extraMetrics.get? "prefetch_recall" = some workflow ∧
        metrics.extraMetrics.get? "tool_cache_hit_rate" = some tool ∧
        metrics.extraMetrics.get? "plan_cache_hit_rate" = some plan ∧
        0 ≤ workflow ∧ workflow ≤ metrics.cacheHitRate ∧
        0 ≤ tool ∧ tool ≤ metrics.cacheHitRate ∧
        0 ≤ plan ∧ plan ≤ metrics.cacheHitRate ∧
        metrics.cacheHitRate ≤ tool + plan + workflow := by
  obtain ⟨results, after, run, final⟩ := runSystem_final nonempty returned
  let tool := fun result : ProcessResult =>
    (result.extraMetrics.get? "tool_cache_hit_rate").getD 0
  let plan := fun result : ProcessResult =>
    (result.extraMetrics.get? "plan_cache_hit_rate").getD 0
  have each : ∀ result ∈ results,
      FullAgenticL3System.Reported result (tool result) (plan result) := by
    intro result listed
    obtain ⟨request, -, before, after, answered⟩ := run.mem_replies listed
    obtain ⟨_, _, toolHit, planHit, _, answer⟩ := FullAgenticL3System.process_answered answered
    have reports := answer.reports
    have toolHeld : tool result = indicator toolHit := by
      simp only [tool, reports.tools, Option.getD_some]
    have planHeld : plan result = indicator planHit := by
      simp only [plan, reports.plans, Option.getD_some]
    rw [toolHeld, planHeld]
    exact reports
  have hits : (results.map fun result => indicator result.isCacheHit).sum =
      (metrics.cacheHits : Rat) := by
    rw [sum_indicator, final.cacheHits]
  have misses := final.sum_misses
  have usefulHits : metrics.usefulPrefetch ≤ metrics.cacheHits := by
    rw [final.usefulPrefetch, final.cacheHits, ← sum_toNat]
    exact List.sum_le_sum fun result listed => (each result listed).hit
  have rate := metrics.cacheHitRate_eq
  have average : ∀ {x y : Rat}, x ≤ y →
      x / (metrics.totalRequests : Rat) ≤ y / (metrics.totalRequests : Rat) :=
    fun le => div_le_div_of_nonneg_right le (Nat.cast_nonneg _)
  have summed : ∀ {f g : ProcessResult → Rat}, (∀ result ∈ results, f result ≤ g result) →
      (results.map f).sum ≤ (results.map g).sum := fun each => List.sum_le_sum each
  have nonneg : ∀ {f : ProcessResult → Rat}, (∀ result ∈ results, 0 ≤ f result) →
      0 ≤ (results.map f).sum / (metrics.totalRequests : Rat) := by
    intro f each
    refine div_nonneg (List.sum_nonneg fun x among => ?_) (Nat.cast_nonneg _)
    obtain ⟨result, listed, rfl⟩ := List.mem_map.mp among
    exact each result listed
  obtain ⟨usefulMade, madeRequests⟩ :=
    final.prefetched_le fun result listed => (each result listed).useful
  refine ⟨final.precision_eq fun result listed => (each result listed).precision, ?_, ?_, ?_,
    usefulHits, usefulMade, madeRequests,
    (metrics.usefulPrefetch : Rat) / (metrics.totalRequests : Rat),
    (results.map tool).sum / (metrics.totalRequests : Rat),
    (results.map plan).sum / (metrics.totalRequests : Rat), ?_, ?_,
    final.metric (by decide) (by decide) (by decide)
      fun result listed => (each result listed).tools,
    final.metric (by decide) (by decide) (by decide)
      fun result listed => (each result listed).plans,
    div_nonneg (Nat.cast_nonneg _) (Nat.cast_nonneg _), ?_,
    nonneg fun result listed => (each result listed).nonneg.1, ?_,
    nonneg fun result listed => (each result listed).nonneg.2, ?_, ?_⟩
  · rw [final.metric (by decide) (by decide) (by decide)
      fun result listed => (each result listed).avoided, hits]
    rfl
  · rw [final.metric (by decide) (by decide) (by decide)
      fun result listed => (each result listed).reloads, misses]
    rfl
  · rw [final.network (fun result listed => (each result listed).overhead)
      (fun result listed => (each result listed).reads)
      (fun result listed => (each result listed).writes), misses, ← two_mul]
    simp only [or_self, final.misses_ne_zero_iff]
  · rw [final.metric (by decide) (by decide) (by decide)
      fun result listed => (each result listed).workflow, final.sum_useful]
    rfl
  · rw [final.recalled fun result listed => (each result listed).recalled, final.sum_useful]
  · rw [rate]
    exact average (Nat.cast_le.mpr usefulHits)
  · rw [rate, ← hits]
    exact average (summed fun result listed => (each result listed).within.1)
  · rw [rate, ← hits]
    exact average (summed fun result listed => (each result listed).within.2)
  · rw [rate, ← hits, ← final.sum_useful, ← add_div, ← add_div, ← List.sum_map_add,
      ← List.sum_map_add]
    exact average (summed fun result listed => (each result listed).covered)

end

open BenchmarkRunner Reference Reference.Shown in
theorem full_agentic_metrics_of_steps : ∃ metrics,
    runSystem (FullAgenticL3System.system untracked) (agentSteps.map (·, 0)) = .ok metrics ∧
      metrics.usefulPrefetch ≤ metrics.cacheHits := by
  have returned : runSystem (FullAgenticL3System.system untracked) (agentSteps.map (·, 0)) =
    .ok _ := rfl
  exact ⟨_, returned, (full_agentic_metrics (by decide) returned).2.2.2.2.1⟩

end IntelliL3
