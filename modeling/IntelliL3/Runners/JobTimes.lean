import Mathlib.Algebra.Order.BigOperators.Group.List
import Mathlib.Data.List.ReduceOption
import IntelliL3.Lib.Pointwise
import IntelliL3.Runners.RunTotals
import IntelliL3.Workloads.Reference

/-! # Job completion times

The latencies of the steps of a workflow add up to the time of its job. What the runner reports of
the jobs and of the steps are percentiles of these.
-/

namespace IntelliL3

open Lib

/-- A percentile is read between the two members next to its rank, as documented. -/
class LawfulNumpy [PyNumpy] : Prop where
  percentile_linear : ∀ (values : List Rat) (percent : Rat), values ≠ [] → 0 ≤ percent →
    percent ≤ 100 → PyNumpy.percentile values percent = linearPercentile values percent

namespace Reference

scoped instance : PyNumpy where
  percentile := linearPercentile

scoped instance : LawfulNumpy where
  percentile_linear _ _ _ _ _ := rfl

end Reference

namespace BenchmarkRunner

theorem percentile_linear (values : List Rat) {percent : Rat} (nonneg : 0 ≤ percent)
    (atMost : percent ≤ 100) : percentile values percent = linearPercentile values percent :=
  ToolLatencyEstimator.percentile_eq values nonneg atMost

theorem latencyPercentile_linear [PyNumpy] [LawfulNumpy] (metrics : Metrics) {percent : Rat}
    (nonneg : 0 ≤ percent) (atMost : percent ≤ 100) :
    metrics.latencyPercentile percent = linearPercentile metrics.latenciesMs percent := by
  unfold Metrics.latencyPercentile
  split
  · next none => simp [none, linearPercentile, interpolate, orderStatistic]
  · next some => exact LawfulNumpy.percentile_linear _ _ some nonneg atMost

theorem jobTimes_get? (keys : List (Option String)) (latencies : List Rat) (key : String) :
    ((jobTimes keys latencies).get? key).getD 0 =
      (((jobSteps keys latencies).filter fun step => step.1 = key).map Prod.snd).sum := by
  rw [jobTimes, Dict.getD_foldl_addTo, Dict.get?_empty, Option.getD_none, zero_add]

theorem sum_jobTimes (keys : List (Option String)) (latencies : List Rat) :
    (jobTimes keys latencies).values.sum = ((jobSteps keys latencies).map Prod.snd).sum := by
  rw [← Dict.total_id, jobTimes, Dict.total_foldl_addTo, Dict.total_id]
  exact zero_add _

theorem jobSteps_nonneg (keys : List (Option String)) {latencies : List Rat}
    (nonneg : ∀ x ∈ latencies, 0 ≤ x) : ∀ step ∈ jobSteps keys latencies, 0 ≤ step.2 := by
  intro step among
  obtain ⟨⟨_, latency⟩, zipped, same⟩ := List.mem_filterMap.mp among
  obtain ⟨_, -, rfl⟩ := Option.map_eq_some_iff.mp same
  exact nonneg _ (List.of_mem_zip zipped).2

theorem jobTimes_nonneg (keys : List (Option String)) {latencies : List Rat}
    (nonneg : ∀ x ∈ latencies, 0 ≤ x) : ∀ time ∈ (jobTimes keys latencies).values, 0 ≤ time := by
  intro time among
  obtain ⟨⟨key, _⟩, row, rfl⟩ := List.mem_map.mp among
  have summed := jobTimes_get? keys latencies key
  rw [(Dict.mem_entries_iff _ _ _).mp row, Option.getD_some] at summed
  rw [summed]
  refine List.sum_nonneg fun x listed => ?_
  obtain ⟨step, chosen, rfl⟩ := List.mem_map.mp listed
  exact jobSteps_nonneg keys nonneg step (List.mem_of_mem_filter chosen)

theorem map_fst_jobSteps {keys : List (Option String)} {latencies : List Rat}
    (same : keys.length = latencies.length) :
    (jobSteps keys latencies).map Prod.fst = keys.reduceOption := by
  induction keys generalizing latencies with
  | nil => rfl
  | cons key keys ih =>
      cases latencies with
      | nil => cases same
      | cons latency latencies =>
          rw [List.length_cons, List.length_cons, Nat.succ_inj] at same
          cases key with
          | none => exact ih same
          | some key => exact congrArg (key :: ·) (ih same)

theorem sum_jobSteps_le (keys : List (Option String)) {latencies : List Rat}
    (nonneg : ∀ x ∈ latencies, 0 ≤ x) :
    ((jobSteps keys latencies).map Prod.snd).sum ≤ latencies.sum := by
  induction keys generalizing latencies with
  | nil => exact List.sum_nonneg nonneg
  | cons key keys ih =>
      cases latencies with
      | nil => exact le_rfl
      | cons latency latencies =>
          rw [List.forall_mem_cons] at nonneg
          have rest := ih nonneg.2
          cases key with
          | none => exact rest.trans (le_add_of_nonneg_left nonneg.1)
          | some key => exact add_le_add_right rest latency

section

variable [PyBuiltins]

/-- A run with agentic requests, by a system that reports no metric of jobs and steps itself. -/
theorem agentic_run {system : BenchmarkSystem} {timed : List (BenchmarkRequest × Rat)}
    {metrics : Metrics}
    (own : ∀ request state result after, system.process request state = .ok result after →
      ∀ name ∈ agenticMetricNames, result.extraMetrics.get? name = none)
    (returned : runSystem system timed = .ok metrics)
    (agentic : ∃ request ∈ timed, ∃ key, workflowKey request.1 = .ok (some key)) :
    ∃ keys results after,
      Run system.process system.start (timed.map Prod.fst) results after ∧
      (timed.map Prod.fst).mapM workflowKey = .ok keys ∧
      metrics.latenciesMs = latenciesOf timed results ∧
      keys.length = metrics.latenciesMs.length ∧
      ∀ name ∈ agenticMetricNames, metrics.extraMetrics.get? name =
        (setAgenticMetrics metrics.latenciesMs (jobTimes keys metrics.latenciesMs).values
          .empty).get? name := by
  obtain ⟨keys, results, after, tally, run, named, totals, rfl⟩ := runSystem_ok returned
  have times : tally.latenciesMs = latenciesOf timed results := totals.times
  have many : keys.length = tally.latenciesMs.length := by
    have keyed := (mapM_returned named).1
    have answered := run.length_eq
    rw [List.length_map] at keyed answered
    rw [times, latenciesOf, List.length_zipWith, answered, keyed, Nat.min_self]
  have jobs : tally.workflowLatencies = jobTimes keys tally.latenciesMs := by
    rw [times]
    exact totals.jobs
  have isAgentic : tally.isAgenticWorkload = true := by
    obtain ⟨request, among, key, known⟩ := agentic
    refine totals.agentic.trans (List.any_eq_true.mpr ⟨some key, ?_, rfl⟩)
    exact (mem_mapM_iff named).mpr ⟨request.1, List.mem_map_of_mem among, known⟩
  have unreported : ∀ name ∈ agenticMetricNames, tally.extraMetrics.get? name = none := by
    intro name among
    rw [← Option.not_isSome_iff_eq_none, totals.reported]
    rintro (⟨⟨⟩⟩ | ⟨result, listed, reported⟩)
    obtain ⟨request, -, _, _, answered⟩ := run.mem_replies listed
    rw [own _ _ _ _ answered name among] at reported
    cases reported
  refine ⟨keys, results, after, run, named, times, many, fun name among => ?_⟩
  rw [Tally.metrics_extra, isAgentic, finalize_agentic unreported name among, jobs]
  rfl

omit [PyBuiltins] in
theorem setAgenticMetrics_values (latenciesMs workflowLatenciesMs : List Rat) :
    let metrics := setAgenticMetrics latenciesMs workflowLatenciesMs .empty
    metrics.get? "job_completion_time_p50" = some (percentile workflowLatenciesMs 50) ∧
      metrics.get? "job_completion_time_p95" = some (percentile workflowLatenciesMs 95) ∧
      metrics.get? "job_completion_time_p99" = some (percentile workflowLatenciesMs 99) ∧
      metrics.get? "step_latency_p50" = some (percentile latenciesMs 50) ∧
      metrics.get? "step_latency_p95" = some (percentile latenciesMs 95) ∧
      metrics.get? "ttft_per_step" = some (mean (latenciesMs.map (· * (35 / 100)))) :=
  ⟨rfl, rfl, rfl, rfl, rfl, rfl⟩

variable [PyNumpy] [LawfulNumpy]

/-- What the runner reports of the jobs: percentiles of the summed latencies of their steps. -/
theorem job_completion_times {system : BenchmarkSystem} {timed : List (BenchmarkRequest × Rat)}
    {metrics : Metrics}
    (own : ∀ request state result after, system.process request state = .ok result after →
      ∀ name ∈ agenticMetricNames, result.extraMetrics.get? name = none)
    (returned : runSystem system timed = .ok metrics)
    (agentic : ∃ request ∈ timed, ∃ key, workflowKey request.1 = .ok (some key)) :
    ∃ keys, (timed.map Prod.fst).mapM workflowKey = .ok keys ∧
      (jobTimes keys metrics.latenciesMs).size = keys.reduceOption.dedup.length ∧
      (jobTimes keys metrics.latenciesMs).values.sum =
        ((jobSteps keys metrics.latenciesMs).map Prod.snd).sum ∧
      (∀ key, ((jobTimes keys metrics.latenciesMs).get? key).getD 0 =
        (((jobSteps keys metrics.latenciesMs).filter fun step => step.1 = key).map
          Prod.snd).sum) ∧
      (∃ p50 p95 p99,
        metrics.extraMetrics.get? "job_completion_time_p50" = some p50 ∧
        metrics.extraMetrics.get? "job_completion_time_p95" = some p95 ∧
        metrics.extraMetrics.get? "job_completion_time_p99" = some p99 ∧ p50 ≤ p95 ∧ p95 ≤ p99 ∧
        (∀ lo hi, (∀ time ∈ (jobTimes keys metrics.latenciesMs).values, lo ≤ time ∧ time ≤ hi) →
          lo ≤ p50 ∧ p99 ≤ hi) ∧
        ((∀ x ∈ metrics.latenciesMs, 0 ≤ x) → p99 ≤ metrics.latenciesMs.sum)) ∧
      metrics.extraMetrics.get? "step_latency_p50" = some metrics.latencyP50 ∧
      metrics.extraMetrics.get? "step_latency_p95" = some metrics.latencyP95 := by
  obtain ⟨keys, results, after, run, named, times, many, computed⟩ :=
    agentic_run own returned agentic
  obtain ⟨p50, p95, p99, step50, step95, -⟩ := setAgenticMetrics_values metrics.latenciesMs
    (jobTimes keys metrics.latenciesMs).values
  rw [percentile_linear _ (by norm_num) (by norm_num)] at p50 p95 p99 step50 step95
  have nonempty : (jobTimes keys metrics.latenciesMs).values ≠ [] := by
    obtain ⟨request, among, key, known⟩ := agentic
    have listed : key ∈ keys.reduceOption := List.reduceOption_mem_iff.mpr
      ((mem_mapM_iff named).mpr ⟨request.1, List.mem_map_of_mem among, known⟩)
    have present : ((jobTimes keys metrics.latenciesMs).get? key).isSome := by
      rw [jobTimes, Dict.isSome_foldl_addTo, map_fst_jobSteps many]
      exact .inr listed
    intro none
    rw [← Dict.mem_keys_iff, Dict.keys, List.map_eq_nil_iff.mp none] at present
    cases present
  refine ⟨keys, named, ?_, sum_jobTimes _ _, jobTimes_get? _ _, ⟨_, _, _,
    (computed _ (by decide)).trans p50, (computed _ (by decide)).trans p95,
    (computed _ (by decide)).trans p99, linearPercentile_mono _ (by norm_num) (by norm_num),
    linearPercentile_mono _ (by norm_num) (by norm_num), ?_, ?_⟩, ?_, ?_⟩
  · rw [jobTimes, Dict.size_foldl_addTo, map_fst_jobSteps many]
  · intro lo hi within
    exact ⟨(linearPercentile_mem nonempty within (by norm_num)).1,
      (linearPercentile_mem nonempty within (by norm_num)).2⟩
  · intro nonneg
    have times := jobTimes_nonneg keys nonneg
    have within : ∀ time ∈ (jobTimes keys metrics.latenciesMs).values,
        0 ≤ time ∧ time ≤ metrics.latenciesMs.sum := by
      intro time among
      have total := sum_jobSteps_le keys nonneg
      rw [← sum_jobTimes] at total
      exact ⟨times time among, (List.single_le_sum times time among).trans total⟩
    exact (linearPercentile_mem nonempty within (by norm_num)).2
  · rw [computed _ (by decide), step50, Metrics.latencyP50,
      latencyPercentile_linear _ (by norm_num) (by norm_num)]
  · rw [computed _ (by decide), step95, Metrics.latencyP95,
      latencyPercentile_linear _ (by norm_num) (by norm_num)]

end

open Reference Reference.Shown in
theorem job_completion_of_steps : ∃ metrics,
    runSystem noOpSystem (agentSteps.map (·, 0)) = .ok metrics ∧
      metrics.extraMetrics.get? "step_latency_p50" = some metrics.latencyP50 := by
  have returned : runSystem noOpSystem (agentSteps.map (·, 0)) = .ok _ := rfl
  obtain ⟨-, -, -, -, -, -, step, -⟩ := job_completion_times (fun _ _ _ _ answered _ _ => by
    cases answered
    rfl) returned ⟨_, List.mem_cons_self, _, rfl⟩
  exact ⟨_, returned, step⟩

end BenchmarkRunner

end IntelliL3
