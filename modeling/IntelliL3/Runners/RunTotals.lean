import IntelliL3.Policies.LatencyStatistics
import IntelliL3.Runners.BenchmarkRunner

/-! # What a run of a system adds up to

The tally of a run, by the requests and what the system answered to them, and what becomes of a
metric when the run is over.
-/

namespace IntelliL3

open Lib

namespace BenchmarkRunner

/-! ## The tally -/

/-- The latencies that count for the job of a workflow, step by step. -/
def jobSteps (keys : List (Option String)) (latencies : List Rat) : List (String × Rat) :=
  (keys.zip latencies).filterMap fun step => step.1.map (·, step.2)

/-- The latency of each job. -/
def jobTimes (keys : List (Option String)) (latencies : List Rat) : Dict String Rat :=
  (jobSteps keys latencies).foldl (fun jobs step => jobs.addTo step.1 step.2) .empty

/-- What the requests of some jobs and the answers to them add to a tally. -/
structure Totals (keys : List (Option String)) (latencies : List Rat)
    (results : List ProcessResult) (before after : Tally) : Prop where
  times : after.latenciesMs = before.latenciesMs ++ latencies
  cacheHits : after.cacheHits = before.cacheHits + results.countP ProcessResult.isCacheHit
  prefetched : after.prefetched = before.prefetched + (results.map ProcessResult.prefetched).sum
  usefulPrefetch : after.usefulPrefetch =
    before.usefulPrefetch + (results.map ProcessResult.usefulPrefetch).sum
  metrics : ∀ name, (after.extraMetrics.get? name).getD 0 =
    (before.extraMetrics.get? name).getD 0 + metricTotal name results
  reported : ∀ name, (after.extraMetrics.get? name).isSome ↔
    (before.extraMetrics.get? name).isSome ∨
      ∃ result ∈ results, (result.extraMetrics.get? name).isSome
  jobs : after.workflowLatencies = (jobSteps keys latencies).foldl
    (fun jobs step => jobs.addTo step.1 step.2) before.workflowLatencies
  agentic : after.isAgenticWorkload = (before.isAgenticWorkload || keys.any Option.isSome)

namespace Totals

theorem nil (tally : Tally) : Totals [] [] [] tally tally where
  times := (List.append_nil _).symm
  cacheHits := rfl
  prefetched := rfl
  usefulPrefetch := rfl
  metrics _ := (add_zero _).symm
  reported _ := by simp only [List.not_mem_nil, false_and, exists_false, or_false]
  jobs := rfl
  agentic := (Bool.or_false _).symm

theorem cons {key : Option String} {latencyMs : Rat} {result : ProcessResult} {before after : Tally}
    {keys : List (Option String)} {latencies : List Rat} {results : List ProcessResult}
    (rest : Totals keys latencies results (before.record key latencyMs result) after) :
    Totals (key :: keys) (latencyMs :: latencies) (result :: results) before after where
  times := rest.times.trans (by rw [List.append_cons]; rfl)
  cacheHits := by
    have recorded : (before.record key latencyMs result).cacheHits =
        before.cacheHits + result.isCacheHit.toNat := rfl
    rw [rest.cacheHits, recorded, List.countP_cons]
    cases result.isCacheHit <;> simp +arith
  prefetched := rest.prefetched.trans (Nat.add_assoc _ _ _)
  usefulPrefetch := rest.usefulPrefetch.trans (Nat.add_assoc _ _ _)
  metrics name := by
    have recorded := Dict.getD_foldl_addTo result.extraMetrics.entries before.extraMetrics name
    rw [Dict.sum_entries] at recorded
    rw [rest.metrics, metricTotal_cons, ← add_assoc]
    exact congrArg (· + _) recorded
  reported name := by
    have recorded := Dict.isSome_foldl_addTo result.extraMetrics.entries before.extraMetrics name
    rw [rest.reported, List.exists_mem_cons_iff, ← or_assoc]
    refine or_congr (recorded.trans ?_) Iff.rfl
    exact or_congr Iff.rfl (Dict.mem_keys_iff result.extraMetrics name)
  jobs := rest.jobs.trans (by cases key <;> rfl)
  agentic := rest.agentic.trans (Bool.or_assoc _ _ _)

end Totals

section

variable [PyBuiltins] {σ : Type} {process : BenchmarkRequest → EStateM PyError σ ProcessResult}

/-- The latencies of some answers, where the clock showed these times. -/
def latenciesOf (timed : List (BenchmarkRequest × Rat)) (results : List ProcessResult) :
    List Rat :=
  List.zipWith (fun request result => measured result request.2) timed results

omit [PyBuiltins] in
theorem latenciesOf_eq {timed : List (BenchmarkRequest × Rat)} {results : List ProcessResult}
    (answers : results.length = timed.length) (nonneg : ∀ result ∈ results, 0 ≤ result.latencyMs) :
    latenciesOf timed results = results.map ProcessResult.latencyMs := by
  induction results generalizing timed with
  | nil => rw [latenciesOf, List.zipWith_nil_right, List.map_nil]
  | cons result rest ih =>
      cases timed with
      | nil => cases answers
      | cons first later =>
          rw [List.forall_mem_cons] at nonneg
          rw [List.length_cons, List.length_cons, Nat.succ_inj] at answers
          rw [List.map_cons, ← ih answers nonneg.2]
          change measured result first.2 :: latenciesOf later rest = _
          rw [measured, if_pos nonneg.1]

theorem serve_run {timed : List (BenchmarkRequest × Rat)} {replies : List PUnit}
    {before after : σ × Tally} (run : Run (serve process) before timed replies after) :
    ∃ keys results, Run process before.1 (timed.map Prod.fst) results after.1 ∧
      (timed.map Prod.fst).mapM workflowKey = .ok keys ∧
      Totals keys (latenciesOf timed results) results before.2 after.2 := by
  induction run with
  | nil s => exact ⟨[], [], .nil _, rfl, .nil _⟩
  | cons step _ ih =>
      obtain ⟨result, _, processed, step⟩ := bind_run_ok.mp step
      obtain ⟨state, answered, rfl⟩ := zoom_eq_ok.mp processed
      obtain ⟨key, _, known, step⟩ := bind_run_ok.mp step
      obtain ⟨named, rfl⟩ := raising_eq_ok.mp known
      cases step
      obtain ⟨keys, results, run, all, totals⟩ := ih
      refine ⟨key :: keys, result :: results, .cons answered run, ?_, .cons totals⟩
      rw [List.map_cons, List.mapM_cons, named, ok_bind, all]
      rfl

/-- What the runner returns for a system is what its answers add up to. -/
theorem runSystem_ok {system : BenchmarkSystem} {timed : List (BenchmarkRequest × Rat)}
    {metrics : Metrics} (returned : runSystem system timed = .ok metrics) :
    ∃ keys results after tally, Run system.process system.start (timed.map Prod.fst) results after ∧
      (timed.map Prod.fst).mapM workflowKey = .ok keys ∧
      Totals keys (latenciesOf timed results) results {} tally ∧
      metrics = tally.metrics timed.length := by
  unfold runSystem at returned
  cases ran : (timed.forM (serve system.process)) (system.start, {}) with
  | error e final =>
      rw [ran] at returned
      cases returned
  | ok u final =>
      rw [ran] at returned
      cases returned
      obtain ⟨replies, run⟩ := Run.of_forM ran
      obtain ⟨keys, results, run, named, totals⟩ := serve_run run
      exact ⟨keys, results, final.1, final.2, run, named, totals, rfl⟩

/-- A run returns where the system answers every request and every request can be told to be a
    step of a job or of none. -/
theorem runSystem_returns {system : BenchmarkSystem} {timed : List (BenchmarkRequest × Rat)}
    {I : system.State → Prop} (start : I system.start)
    (answers : ∀ request ∈ timed.map Prod.fst, ∀ state, I state →
      ∃ result after, system.process request state = .ok result after ∧ I after)
    (known : ∀ request ∈ timed.map Prod.fst, ∃ key, workflowKey request = .ok key) :
    ∃ metrics, runSystem system timed = .ok metrics := by
  have served : ∃ final, (timed.forM (serve system.process)) (system.start, {}) = .ok ⟨⟩ final ∧
      I final.1 := by
    refine forM_returns (I := fun s : system.State × Tally => I s.1)
      (fun request among s held => ?_) start
    have member := List.mem_map_of_mem (f := Prod.fst) among
    obtain ⟨result, after, answered, next⟩ := answers _ member s.1 held
    obtain ⟨key, named⟩ := known _ member
    refine ⟨(after, s.2.record key (measured result request.2) result), ?_, next⟩
    rw [serve, bind_run, zoom_run, answered]
    change (raising (workflowKey request.1) >>= _) _ = _
    rw [named]
    rfl
  obtain ⟨final, ran, -⟩ := served
  exact ⟨_, by rw [runSystem, ran]; rfl⟩

end

/-! ## Final metrics -/

theorem Tally.metrics_extra (totalRequests : Nat) (self : Tally) :
    (self.metrics totalRequests).extraMetrics = finalizeExtraMetrics self.extraMetrics
      self.latenciesMs self.workflowLatencies.values totalRequests self.prefetched
      self.isAgenticWorkload := rfl

section

variable {extraMetrics : Dict String Rat} {latenciesMs workflowLatenciesMs : List Rat}
  {totalRequests prefetched : Nat} {isAgenticWorkload : Bool} {name : String}

def agenticMetricNames : List String := [
  "job_completion_time_p50", "job_completion_time_p95", "job_completion_time_p99",
  "step_latency_p50", "step_latency_p95", "ttft_per_step"]

theorem setAgenticMetrics_get? (other : name ∉ agenticMetricNames) :
    (setAgenticMetrics latenciesMs workflowLatenciesMs extraMetrics).get? name =
      extraMetrics.get? name := by
  simp only [agenticMetricNames, List.mem_cons, List.not_mem_nil, or_false, not_or,
    eq_comm (a := name)] at other
  simp only [setAgenticMetrics, Dict.get?_setDefault, other, if_false]

theorem averageRates_get? (totalRequests : Nat) (extraMetrics : Dict String Rat) (name : String) :
    (averageRates totalRequests extraMetrics).get? name =
      if isRate name && decide (0 < totalRequests) then
        (extraMetrics.get? name).map (· / (totalRequests : Rat))
      else extraMetrics.get? name :=
  Dict.get?_rewritten (fun name => isRate name && decide (0 < totalRequests))
    (· / (totalRequests : Rat)) extraMetrics name

theorem averageRagMetrics_get? (other : name ∉ ragAveragedMetrics) :
    (averageRagMetrics totalRequests extraMetrics).get? name = extraMetrics.get? name := by
  unfold averageRagMetrics
  split
  · rfl
  · generalize ragAveragedMetrics = names at other
    induction names generalizing extraMetrics with
    | nil => rfl
    | cons first rest ih =>
        rw [List.mem_cons, not_or] at other
        rw [List.foldl_cons, ih other.2, Dict.get?_modify, if_neg (Ne.symm other.1)]

theorem setNetworkOverhead_get? (other : name ≠ "network_io_overhead") :
    (setNetworkOverhead extraMetrics).get? name = extraMetrics.get? name := by
  unfold setNetworkOverhead
  simp only
  split
  · rw [Dict.get?_set_ne _ (Ne.symm other)]
  · rfl

/-- The metrics that the runner computes when the averages are taken. -/
def computedMetricNames : List String :=
  "network_io_overhead" :: (agenticMetricNames ++ ragAveragedMetrics)

theorem finalize_averages (other : name ∉ computedMetricNames) :
    (finalizeExtraMetrics extraMetrics latenciesMs workflowLatenciesMs totalRequests prefetched
      isAgenticWorkload).get? name =
      (averagePrefetches totalRequests prefetched
        (averageRates totalRequests extraMetrics)).get? name := by
  simp only [computedMetricNames, List.mem_cons, List.mem_append, not_or] at other
  obtain ⟨network, agentic, rag⟩ := other
  unfold finalizeExtraMetrics
  rw [averageRagMetrics_get? rag, setNetworkOverhead_get? network]
  cases isAgenticWorkload with
  | true => exact setAgenticMetrics_get? agentic
  | false => rfl

/-- A rate is an average, any other metric that the runner does not compute stays a sum. -/
theorem finalize_get? (other : name ∉ computedMetricNames) (precision : name ≠ "prefetch_precision")
    (recalled : name ≠ "prefetch_recall") :
    (finalizeExtraMetrics extraMetrics latenciesMs workflowLatenciesMs totalRequests prefetched
      isAgenticWorkload).get? name =
      if isRate name && decide (0 < totalRequests) then
        (extraMetrics.get? name).map (· / (totalRequests : Rat))
      else extraMetrics.get? name := by
  rw [finalize_averages other, averagePrefetches, Dict.get?_modify, if_neg (Ne.symm recalled),
    Dict.get?_modify, if_neg (Ne.symm precision), averageRates_get?]

theorem finalize_precision :
    (finalizeExtraMetrics extraMetrics latenciesMs workflowLatenciesMs totalRequests prefetched
      isAgenticWorkload).get? "prefetch_precision" =
      (extraMetrics.get? "prefetch_precision").map fun value =>
        if 0 < prefetched then value / (prefetched : Rat) else 0 := by
  have rate : isRate "prefetch_precision" = false := by decide
  rw [finalize_averages (by decide), averagePrefetches, Dict.get?_modify, if_neg (by decide),
    Dict.get?_modify, if_pos rfl, averageRates_get?, rate]
  rfl

theorem finalize_recalled :
    (finalizeExtraMetrics extraMetrics latenciesMs workflowLatenciesMs totalRequests prefetched
      isAgenticWorkload).get? "prefetch_recall" =
      (extraMetrics.get? "prefetch_recall").map fun value =>
        if 0 < totalRequests then value / (totalRequests : Rat) else 0 := by
  have rate : isRate "prefetch_recall" = false := by decide
  rw [finalize_averages (by decide), averagePrefetches, Dict.get?_modify, if_pos rfl,
    Dict.get?_modify, if_neg (by decide), averageRates_get?, rate]
  rfl

/-- What a system does not report itself is computed from the reads and writes it reports. -/
theorem finalize_network (own : extraMetrics.get? "network_io_overhead" = none) :
    (finalizeExtraMetrics extraMetrics latenciesMs workflowLatenciesMs totalRequests prefetched
      isAgenticWorkload).get? "network_io_overhead" =
      let reads := (extraMetrics.get? "l3_read_count").getD 0
      let writes := (extraMetrics.get? "l3_write_count").getD 0
      if reads ≠ 0 ∨ writes ≠ 0 then some (reads + writes) else none := by
  have averaged : ∀ name ∈ ["network_io_overhead", "l3_read_count", "l3_write_count"],
      (if isAgenticWorkload then setAgenticMetrics latenciesMs workflowLatenciesMs
          (averagePrefetches totalRequests prefetched (averageRates totalRequests extraMetrics))
        else averagePrefetches totalRequests prefetched
          (averageRates totalRequests extraMetrics)).get? name = extraMetrics.get? name := by
    intro name among
    have apart : ["network_io_overhead", "l3_read_count", "l3_write_count"].all fun name =>
        name ∉ agenticMetricNames ∧ name ≠ "prefetch_recall" ∧ name ≠ "prefetch_precision" ∧
          isRate name = false := by decide
    obtain ⟨agentic, recalled, precision, rate⟩ :=
      of_decide_eq_true (List.all_eq_true.mp apart name among)
    have same : (averagePrefetches totalRequests prefetched
        (averageRates totalRequests extraMetrics)).get? name = extraMetrics.get? name := by
      rw [averagePrefetches, Dict.get?_modify, if_neg (Ne.symm recalled), Dict.get?_modify,
        if_neg (Ne.symm precision), averageRates_get?, rate]
      rfl
    cases isAgenticWorkload with
    | true => exact (setAgenticMetrics_get? agentic).trans same
    | false => exact same
  unfold finalizeExtraMetrics
  rw [averageRagMetrics_get? (by decide)]
  unfold setNetworkOverhead
  simp only
  rw [averaged _ (by decide), averaged _ (by decide), averaged _ (by decide), own]
  simp only [Option.isNone_none, true_and]
  split
  · rw [Dict.get?_set, if_pos rfl]
  · rw [averaged _ (by decide), own]

/-- The metrics of jobs and steps, where a system reports none of them. -/
theorem finalize_agentic (own : ∀ name ∈ agenticMetricNames, extraMetrics.get? name = none) :
    ∀ name ∈ agenticMetricNames, (finalizeExtraMetrics extraMetrics latenciesMs
        workflowLatenciesMs totalRequests prefetched true).get? name =
      (setAgenticMetrics latenciesMs workflowLatenciesMs .empty).get? name := by
  intro name among
  have apart : agenticMetricNames.all fun name => name ∉ ragAveragedMetrics ∧
      name ≠ "network_io_overhead" ∧ name ≠ "prefetch_recall" ∧ name ≠ "prefetch_precision" := by
    decide
  have absent : ∀ name ∈ agenticMetricNames, (averagePrefetches totalRequests prefetched
      (averageRates totalRequests extraMetrics)).get? name = none := by
    intro name among
    obtain ⟨-, -, recalled, precision⟩ := of_decide_eq_true (List.all_eq_true.mp apart name among)
    rw [averagePrefetches, Dict.get?_modify, if_neg (Ne.symm recalled), Dict.get?_modify,
      if_neg (Ne.symm precision), averageRates_get?, own name among, Option.map_none, ite_self]
  obtain ⟨rag, network, -, -⟩ := of_decide_eq_true (List.all_eq_true.mp apart name among)
  unfold finalizeExtraMetrics
  rw [averageRagMetrics_get? rag, setNetworkOverhead_get? network]
  have same := (absent name among).trans (Dict.get?_empty name).symm
  have next : ∀ {d e : Dict String Rat} (k : String) (v : Rat), d.get? name = e.get? name →
      (d.setDefault k v).get? name = (e.setDefault k v).get? name := by
    intro d e k v same
    rw [Dict.get?_setDefault, Dict.get?_setDefault, same]
  exact next _ _ (next _ _ (next _ _ (next _ _ (next _ _ (next _ _ same)))))

end

end BenchmarkRunner

end IntelliL3
