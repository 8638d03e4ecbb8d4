import IntelliL3.Lib.Accumulate
import IntelliL3.Policies.ToolLatencyEstimator
import IntelliL3.Workloads.Requests

/-! # Benchmark runner

`runners/benchmark_runner.py` and `metrics.py`: a system answers the requests of a workload one
after the other, and what it answers is added up. How long an answer took by the clock comes with
its request; it counts where a system does not report a latency itself.
-/

namespace IntelliL3

open Lib

/-- A synthetic system for the plumbing of the runner. -/
def noOpSystem : BenchmarkSystem where
  State := PUnit
  name := "noop"
  start := ⟨⟩
  process _ := pure { latencyMs := 1 / 100 }

/-- `np.percentile` -/
class PyNumpy where
  percentile : List Rat → Rat → Rat

/-! ## Metrics -/

structure Metrics where
  latenciesMs : List Rat := []
  cacheHits : Nat := 0
  totalRequests : Nat := 0
  prefetched : Nat := 0
  usefulPrefetch : Nat := 0
  extraMetrics : Dict String Rat := .empty

namespace Metrics

def cacheHitRate (self : Metrics) : Rat :=
  if self.totalRequests = 0 then 0 else (self.cacheHits : Rat) / self.totalRequests

def prefetchUseRate (self : Metrics) : Rat :=
  if self.prefetched = 0 then 0 else (self.usefulPrefetch : Rat) / self.prefetched

def throughputReqS (self : Metrics) : Rat :=
  let totalSeconds := self.latenciesMs.sum / 1000
  if totalSeconds = 0 then 0 else (self.totalRequests : Rat) / totalSeconds

variable [PyNumpy]

/-- `_percentile(self.latencies_ms, percentile)` -/
def latencyPercentile (percentile : Rat) (self : Metrics) : Rat :=
  if self.latenciesMs = [] then 0 else PyNumpy.percentile self.latenciesMs percentile

def latencyP50 : Metrics → Rat := latencyPercentile 50

def latencyP95 : Metrics → Rat := latencyPercentile 95

def latencyP99 : Metrics → Rat := latencyPercentile 99

def asDict (self : Metrics) : Dict String Rat :=
  .update (.ofRows [
    ("latency_p50_ms", self.latencyP50),
    ("latency_p95_ms", self.latencyP95),
    ("latency_p99_ms", self.latencyP99),
    ("cache_hit_rate", self.cacheHitRate),
    ("prefetch_use_rate", self.prefetchUseRate),
    ("throughput_req_s", self.throughputReqS),
    ("cache_hits", self.cacheHits),
    ("total_requests", self.totalRequests),
    ("prefetched", self.prefetched),
    ("useful_prefetch", self.usefulPrefetch)]) self.extraMetrics

end Metrics

/-! ## Final metrics -/

namespace BenchmarkRunner

def ragAveragedMetrics : List String := [
  "evidence_recall", "evidence_precision", "answer_correctness", "groundedness",
  "abstention_correctness", "rag_task_success"]

/-- `metric_name.endswith("_rate")` -/
def isRate (metricName : String) : Bool := "_rate".toList.isSuffixOf metricName.toList

/-- `_percentile(values, percentile)`, which the estimator of tool latencies computes alike. -/
def percentile (values : List Rat) (percentile : Rat) : Rat :=
  ToolLatencyEstimator.percentile values percentile

/-- `_mean(values)` -/
def mean (values : List Rat) : Rat :=
  if values = [] then 0 else values.sum / values.length

/-- The loop over the rates at the start of `_finalize_extra_metrics`. -/
def averageRates (totalRequests : Nat) (extraMetrics : Dict String Rat) : Dict String Rat :=
  extraMetrics.entries.foldl
    (fun finalized row =>
      if isRate row.1 && decide (0 < totalRequests) then
        finalized.set row.1 (row.2 / totalRequests)
      else finalized)
    extraMetrics

def averagePrefetches (totalRequests prefetched : Nat) (metrics : Dict String Rat) :
    Dict String Rat :=
  metrics
    |>.modify "prefetch_precision"
      (fun value => if 0 < prefetched then value / prefetched else 0)
    |>.modify "prefetch_recall"
      (fun value => if 0 < totalRequests then value / totalRequests else 0)

/-- `_average_rag_metrics(metrics, total_requests)` -/
def averageRagMetrics (totalRequests : Nat) (metrics : Dict String Rat) : Dict String Rat :=
  if totalRequests = 0 then metrics
  else ragAveragedMetrics.foldl
    (fun metrics name => metrics.modify name (· / totalRequests)) metrics

/-- The metrics of jobs and steps, unless a system reports them itself. -/
def setAgenticMetrics (latenciesMs workflowLatenciesMs : List Rat) (metrics : Dict String Rat) :
    Dict String Rat :=
  metrics
    |>.setDefault "job_completion_time_p50" (percentile workflowLatenciesMs 50)
    |>.setDefault "job_completion_time_p95" (percentile workflowLatenciesMs 95)
    |>.setDefault "job_completion_time_p99" (percentile workflowLatenciesMs 99)
    |>.setDefault "step_latency_p50" (percentile latenciesMs 50)
    |>.setDefault "step_latency_p95" (percentile latenciesMs 95)
    |>.setDefault "ttft_per_step" (mean (latenciesMs.map (· * (35 / 100))))

def setNetworkOverhead (metrics : Dict String Rat) : Dict String Rat :=
  let l3Reads := (metrics.get? "l3_read_count").getD 0
  let l3Writes := (metrics.get? "l3_write_count").getD 0
  if (metrics.get? "network_io_overhead").isNone ∧ (l3Reads ≠ 0 ∨ l3Writes ≠ 0) then
    metrics.set "network_io_overhead" (l3Reads + l3Writes)
  else metrics

/-- `_finalize_extra_metrics` -/
def finalizeExtraMetrics (extraMetrics : Dict String Rat) (latenciesMs : List Rat)
    (workflowLatenciesMs : List Rat) (totalRequests prefetched : Nat)
    (isAgenticWorkload : Bool) : Dict String Rat :=
  let finalized := averagePrefetches totalRequests prefetched
    (averageRates totalRequests extraMetrics)
  let finalized :=
    if isAgenticWorkload then setAgenticMetrics latenciesMs workflowLatenciesMs finalized
    else finalized
  averageRagMetrics totalRequests (setNetworkOverhead finalized)

/-! ## Runs of a system -/

/-- What `_run_system` has added up. -/
structure Tally where
  latenciesMs : List Rat := []
  cacheHits : Nat := 0
  prefetched : Nat := 0
  usefulPrefetch : Nat := 0
  extraMetrics : Dict String Rat := .empty
  workflowLatencies : Dict String Rat := .empty
  isAgenticWorkload : Bool := false

/-- The latency a system reports, or the one of the clock. -/
def measured (result : ProcessResult) (elapsedMs : Rat) : Rat :=
  if 0 ≤ result.latencyMs then result.latencyMs else elapsedMs

def Tally.record (workflowKey : Option String) (latencyMs : Rat) (result : ProcessResult)
    (self : Tally) : Tally where
  latenciesMs := self.latenciesMs ++ [latencyMs]
  cacheHits := self.cacheHits + result.isCacheHit.toNat
  prefetched := self.prefetched + result.prefetched
  usefulPrefetch := self.usefulPrefetch + result.usefulPrefetch
  extraMetrics := result.extraMetrics.entries.foldl
    (fun extraMetrics row => extraMetrics.addTo row.1 row.2) self.extraMetrics
  workflowLatencies :=
    match workflowKey with
    | some key => self.workflowLatencies.addTo key latencyMs
    | none => self.workflowLatencies
  isAgenticWorkload := self.isAgenticWorkload || workflowKey.isSome

def Tally.metrics (totalRequests : Nat) (self : Tally) : Metrics where
  latenciesMs := self.latenciesMs
  cacheHits := self.cacheHits
  totalRequests := totalRequests
  prefetched := self.prefetched
  usefulPrefetch := self.usefulPrefetch
  extraMetrics := finalizeExtraMetrics self.extraMetrics self.latenciesMs
    self.workflowLatencies.values totalRequests self.prefetched self.isAgenticWorkload

variable [PyBuiltins]

/-- The job that a request is a step of, if it is agentic. -/
def workflowKey (request : BenchmarkRequest) : Except PyError (Option String) := do
  let workflowId ← request.text "workflow_id"
  let isAgenticRequest :=
    (request.get "workload").equals (.str "agentic_workflow") || decide (workflowId ≠ "")
  return if isAgenticRequest then
    some (if workflowId ≠ "" then workflowId else request.sessionId)
  else none

/-- One turn of the loop over requests. -/
def serve (process : BenchmarkRequest → EStateM PyError σ ProcessResult)
    (timed : BenchmarkRequest × Rat) : EStateM PyError (σ × Tally) PUnit := do
  let result ← zoom Prod.fst (fun s state => (state, s.2)) (process timed.1)
  let key ← raising (workflowKey timed.1)
  modify fun s => (s.1, s.2.record key (measured result timed.2) result)

/-- `_run_system(system, requests)`, each request with the time the clock shows for it -/
def runSystem (system : BenchmarkSystem) (timed : List (BenchmarkRequest × Rat)) :
    Except PyError Metrics := do
  let (_, tally) ← match (timed.forM (serve system.process)) (system.start, {}) with
    | .ok _ final => pure final
    | .error e _ => throw e
  return tally.metrics timed.length

end BenchmarkRunner

end IntelliL3
