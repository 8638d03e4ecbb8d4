import Mathlib.Algebra.Order.Field.Rat
import Mathlib.Data.String.Basic
import IntelliL3.Core.Types
import IntelliL3.Lib.Dict
import IntelliL3.Lib.Run
import IntelliL3.Lib.StableSort

/-! # Comparison of two systems

`measurement/metric_catalog.py` and `measurement/comparison.py`: the means of a baseline and a
candidate, metric by metric, and a report that counts the metrics that improved or regressed
by a percentage of the baseline. Means are exact numbers. The table of the report, which needs
the formats of floats, is left out.
-/

namespace IntelliL3

open Lib

/-! ## The catalog of metrics -/

inductive Direction where
  | higherIsBetter | lowerIsBetter | neutral
  deriving DecidableEq

inductive MetricGroup where
  | core | agentic | rag
  deriving DecidableEq

inductive TargetMode where
  | absolutePercent | improvementPercent
  deriving DecidableEq

def higherIsBetter : List String := [
  "cache_hit_rate", "prefetch_use_rate", "throughput_req_s", "cache_hits", "prefetched",
  "useful_prefetch", "recompute_avoided", "tool_wait_hidden_ms", "workflow_cache_hit_rate",
  "tool_cache_hit_rate", "plan_cache_hit_rate", "prefetch_precision", "prefetch_recall",
  "latency_saved_ms", "task_success_proxy", "pass_at_k",
  "evidence_recall", "evidence_precision", "answer_correctness", "groundedness",
  "abstention_correctness", "rag_task_success"]

def agenticMetrics : List String := [
  "job_completion_time_p50", "job_completion_time_p95", "job_completion_time_p99",
  "step_latency_p50", "step_latency_p95", "ttft_per_step", "kv_reload_count",
  "kv_recompute_count", "recompute_avoided", "tool_wait_hidden_ms", "workflow_cache_hit_rate",
  "tool_cache_hit_rate", "plan_cache_hit_rate", "prefetch_precision", "prefetch_recall",
  "wasted_prefetch_bytes", "latency_saved_ms", "l2_eviction_count", "l3_read_count",
  "l3_write_count", "task_success_proxy", "plan_validation_fail_rate", "pass_at_k"]

def ragMetrics : List String := [
  "evidence_recall", "evidence_precision", "answer_correctness", "groundedness",
  "abstention_correctness", "rag_task_success"]

def neutralMetrics : List String := ["total_requests"]

def absolutePercentTargets : List String := [
  "cache_hit_rate", "prefetch_use_rate", "workflow_cache_hit_rate", "tool_cache_hit_rate",
  "plan_cache_hit_rate", "prefetch_precision", "prefetch_recall", "task_success_proxy",
  "pass_at_k", "evidence_recall", "evidence_precision", "answer_correctness", "groundedness",
  "abstention_correctness", "rag_task_success"]

def defaultTargets : List (String × Rat) := [
  ("latency_p50_ms", 30), ("latency_p95_ms", 30), ("latency_p99_ms", 30),
  ("throughput_req_s", 50), ("cache_hit_rate", 30), ("prefetch_use_rate", 60),
  ("workflow_cache_hit_rate", 60), ("tool_cache_hit_rate", 60), ("plan_cache_hit_rate", 60),
  ("prefetch_precision", 60), ("prefetch_recall", 60)]

def coreKeyMetrics : List String := [
  "latency_p50_ms", "latency_p95_ms", "latency_p99_ms", "throughput_req_s", "cache_hit_rate",
  "prefetch_use_rate"]

def agenticKeyMetrics : List String := [
  "workflow_cache_hit_rate", "tool_cache_hit_rate", "plan_cache_hit_rate",
  "prefetch_precision", "prefetch_recall", "kv_reload_count", "kv_recompute_count",
  "recompute_avoided", "tool_wait_hidden_ms", "latency_saved_ms", "wasted_prefetch_bytes",
  "l2_eviction_count", "l3_read_count", "l3_write_count"]

def ragKeyMetrics : List String := [
  "evidence_recall", "evidence_precision", "answer_correctness", "groundedness",
  "abstention_correctness", "rag_task_success"]

def keyMetrics : List String := coreKeyMetrics ++ agenticKeyMetrics ++ ragKeyMetrics

def directionFor (metricName : String) : Direction :=
  if metricName ∈ neutralMetrics then .neutral
  else if metricName ∈ higherIsBetter then .higherIsBetter
  else .lowerIsBetter

def metricGroupFor (metricName : String) : MetricGroup :=
  if metricName ∈ ragMetrics then .rag
  else if metricName ∈ agenticMetrics then .agentic
  else .core

def targetModeFor (metricName : String) (targetPercent : Option Rat) : Option TargetMode :=
  targetPercent.map fun _ =>
    if metricName ∈ absolutePercentTargets then .absolutePercent else .improvementPercent

/-! ## The comparison -/

structure MetricValues where
  mean : Rat
  std : Rat
  samples : Option (List Rat) := none

structure MeasurementSummary where
  experimentName : String
  systems : Dict String (Dict String MetricValues)

structure StatisticalMetric where
  baselineCiLow : Rat
  baselineCiHigh : Rat
  candidateCiLow : Rat
  candidateCiHigh : Rat
  effectSize : Rat
  pValue : Option Rat
  isSignificant : Bool

/-- `_statistical_by_metric`, by the square roots and the tests of `analysis/statistical.py`. It is
    left open: no result depends on what it answers. -/
class Statistics where
  byMetric : MeasurementSummary → String → String →
    Except PyError (Dict String StatisticalMetric)

structure MetricComparison where
  metric : String
  baselineMean : Rat
  baselineStd : Rat
  candidateMean : Rat
  candidateStd : Rat
  delta : Rat
  improvementPercent : Option Rat
  direction : Direction
  targetPercent : Option Rat
  targetMode : Option TargetMode
  meetsTarget : Option Bool
  metricGroup : MetricGroup
  statistical : Option StatisticalMetric

structure SystemComparison where
  experimentName : String
  baselineSystem : String
  candidateSystem : String
  metrics : List MetricComparison
  targets : Dict String Rat

/-- How much better the candidate is, in percent of the baseline. -/
def improvementPercent (direction : Direction) (baselineMean candidateMean : Rat) : Option Rat :=
  if direction = .neutral then none
  else if baselineMean = 0 then
    if candidateMean ≠ baselineMean then none else some 0
  else if direction = .higherIsBetter then
    some ((candidateMean - baselineMean) / |baselineMean| * 100)
  else some ((baselineMean - candidateMean) / |baselineMean| * 100)

def meetsTarget (candidateMean : Rat) (improvementPercent targetPercent : Option Rat)
    (targetMode : Option TargetMode) : Option Bool :=
  match targetPercent, targetMode with
  | some target, some .absolutePercent => some (target ≤ candidateMean * 100)
  | some target, some .improvementPercent =>
      improvementPercent.map fun improvement => target ≤ improvement
  | _, _ => none

def zeroMetric : MetricValues where
  mean := 0
  std := 0

def compareMetric (metricName : String) (baselineValues candidateValues : MetricValues)
    (target : Option Rat) (statistical : Option StatisticalMetric) : MetricComparison :=
  let direction := directionFor metricName
  let improvement := improvementPercent direction baselineValues.mean candidateValues.mean
  let mode := targetModeFor metricName target
  { metric := metricName
    baselineMean := baselineValues.mean
    baselineStd := baselineValues.std
    candidateMean := candidateValues.mean
    candidateStd := candidateValues.std
    delta := candidateValues.mean - baselineValues.mean
    improvementPercent := improvement
    direction
    targetPercent := target
    targetMode := mode
    meetsTarget := meetsTarget candidateValues.mean improvement target mode
    metricGroup := metricGroupFor metricName
    statistical }

/-- `sorted(set(baseline) | set(candidate))` -/
def metricNames (baseline candidate : Dict String MetricValues) : List String :=
  sortBy id (baseline.keys ++ candidate.keys.filter (· ∉ baseline.keys))

def resolveTargets (targets : Dict String Rat) : Dict String Rat :=
  (defaultTargets ++ targets.entries).foldl (fun resolved row => resolved.set row.1 row.2) .empty

/-- `summary.systems[system]` -/
def systemMetrics (summary : MeasurementSummary) (role system : String) :
    Except PyError (Dict String MetricValues) :=
  match summary.systems.get? system with
  | some metrics => .ok metrics
  | none => .error (.valueError s!"Unknown {role} system: {system}")

def compareSystems [Statistics] (summary : MeasurementSummary)
    (baselineSystem candidateSystem : String) (targets : Dict String Rat := .empty) :
    Except PyError SystemComparison := do
  let baseline ← systemMetrics summary "baseline" baselineSystem
  let candidate ← systemMetrics summary "candidate" candidateSystem
  let resolved := resolveTargets targets
  let statistical ← Statistics.byMetric summary baselineSystem candidateSystem
  return {
    experimentName := summary.experimentName
    baselineSystem, candidateSystem
    metrics := (metricNames baseline candidate).map fun name =>
      compareMetric name ((baseline.get? name).getD zeroMetric)
        ((candidate.get? name).getD zeroMetric) (resolved.get? name) (statistical.get? name)
    targets := resolved }

/-! ## The summary of the report -/

/-- The metrics that are counted as improved. -/
def improvedMetrics (comparison : SystemComparison) : List String :=
  (comparison.metrics.filter fun metric => metric.improvementPercent.any (0 < ·)).map
    MetricComparison.metric

/-- The metrics that are counted as regressed. -/
def regressedMetrics (comparison : SystemComparison) : List String :=
  (comparison.metrics.filter fun metric => metric.improvementPercent.any (· < 0)).map
    MetricComparison.metric

def formatMetricList (metrics : List String) (limit : Nat := 5) : String :=
  if metrics = [] then "none"
  else
    let shown := ", ".intercalate (metrics.take limit)
    if limit < metrics.length then s!"{shown}, +{metrics.length - limit} more" else shown

def renderSummaryLines (comparison : SystemComparison) : List String :=
  let improved := improvedMetrics comparison
  let regressed := regressedMetrics comparison
  let targetChecks := comparison.metrics.filterMap MetricComparison.meetsTarget
  let passedTargets := targetChecks.filter id
  let significant := (comparison.metrics.filter fun metric =>
    metric.statistical.any StatisticalMetric.isSignificant).map MetricComparison.metric
  [s!"- Improved metrics: {improved.length} ({formatMetricList improved})",
    s!"- Regressed metrics: {regressed.length} ({formatMetricList regressed})",
    s!"- Target checks passed: {passedTargets.length}/{targetChecks.length}",
    "- Statistically significant metrics: " ++
      s!"{significant.length} ({formatMetricList significant})"]

end IntelliL3
