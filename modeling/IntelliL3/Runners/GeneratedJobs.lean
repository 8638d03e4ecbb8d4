import Mathlib.Tactic.Positivity
import IntelliL3.Runners.FullAgentic
import IntelliL3.Runners.GeneratedHits

/-! # Jobs on generated workloads

Of a generated workload the full system answers no request later than the one that remembers agents
does. A first turn it may answer later than the system of tool pauses, but no job of four turns.
-/

namespace IntelliL3

open Lib

namespace BenchmarkRunner

/-! ## Jobs in blocks -/

section

variable {key : Nat → String} {blocks size : Nat}

/-- The steps of jobs that run one after another, each for as many steps. -/
def blockSteps (key : Nat → String) (blocks size : Nat) (x : Nat → Rat) : List (String × Rat) :=
  (List.range (blocks * size)).map fun k => (key (k / size), x k)

theorem sum_blockSteps (x : Nat → Rat) (job : String) :
    (((blockSteps key blocks size x).filter fun step => step.1 = job).map Prod.snd).sum =
      ((List.range blocks).map fun i => if key i = job then
        ((List.range size).map fun j => x (i * size + j)).sum else 0).sum := by
  induction blocks with
  | zero => simp [blockSteps]
  | succ blocks ih =>
      have last : (List.range size).map (fun j => (key ((blocks * size + j) / size),
          x (blocks * size + j))) =
          (List.range size).map fun j => (key blocks, x (blocks * size + j)) := by
        refine List.map_congr_left fun j within => ?_
        have small := List.mem_range.mp within
        rw [Nat.add_comm, Nat.add_mul_div_right _ _ (Nat.zero_lt_of_lt small),
          Nat.div_eq_of_lt small, Nat.zero_add]
      unfold blockSteps at ih ⊢
      rw [Nat.succ_mul, List.range_add, List.map_append, List.filter_append, List.map_append,
        List.sum_append, ih, List.range_succ, List.map_append, List.sum_append, List.map_map,
        Function.comp_def, last, List.map_singleton, List.sum_singleton]
      split <;> simp_all [List.filter_map, Function.comp_def]

theorem jobSteps_blocks {keys : List (Option String)} {xs : List Rat}
    (named : keys = (List.range (blocks * size)).map fun k => some (key (k / size)))
    (many : xs.length = blocks * size) :
    jobSteps keys xs = blockSteps key blocks size (fun k => xs.getD k 0) ∧
      (jobSteps keys xs).map Prod.snd = xs := by
  have listed : (List.range (blocks * size)).map (fun k => xs.getD k 0) = xs := by
    refine List.ext_getElem (by simp [many]) fun k _ inside => ?_
    simp [inside]
  have steps : jobSteps keys xs = blockSteps key blocks size fun k => xs.getD k 0 := by
    conv_lhs => rw [← listed]
    rw [jobSteps, named, List.zip_map', List.filterMap_map, blockSteps]
    exact congrFun (List.filterMap_eq_map (f := fun k => (key (k / size), xs.getD k 0))) _
  refine ⟨steps, ?_⟩
  rw [steps, blockSteps, List.map_map]
  exact listed

/-- Where no job takes longer, none of the times of jobs is larger, nor of all steps together. -/
theorem jobTimes_blocks_le {keys : List (Option String)} {xs ys : List Rat}
    (named : keys = (List.range (blocks * size)).map fun k => some (key (k / size)))
    (many : xs.length = blocks * size) (many' : ys.length = blocks * size)
    (each : ∀ i < blocks, ((List.range size).map fun j => xs.getD (i * size + j) 0).sum ≤
      ((List.range size).map fun j => ys.getD (i * size + j) 0).sum) :
    List.Forall₂ (· ≤ ·) (jobTimes keys xs).values (jobTimes keys ys).values ∧
      xs.sum ≤ ys.sum := by
  obtain ⟨steps, all⟩ := jobSteps_blocks named many
  obtain ⟨steps', all'⟩ := jobSteps_blocks named many'
  have jobs : List.Forall₂ (· ≤ ·) (jobTimes keys xs).values (jobTimes keys ys).values := by
    refine Dict.values_le (Dict.keys_foldl_addTo ?_ rfl) fun job => ?_
    · rw [steps, steps', blockSteps, blockSteps, List.map_map, List.map_map]
      rfl
    · rw [jobTimes_get?, jobTimes_get?, steps, steps', sum_blockSteps, sum_blockSteps]
      refine List.sum_le_sum fun i within => ?_
      split
      · exact each i (List.mem_range.mp within)
      · exact le_refl 0
  have sum := jobs.sum_le_sum
  rw [sum_jobTimes, sum_jobTimes, all, all'] at sum
  exact ⟨jobs, sum⟩

end

/-- What the first turn of a job loses, three others make up for. -/
theorem sum_turns_le {f g : Nat → Rat} {turns : Nat} (many : 4 ≤ turns)
    (each : ∀ j < turns, f j ≤ g j + if j = 0 then 25 else -10) :
    ((List.range turns).map f).sum ≤ ((List.range turns).map g).sum := by
  have offsets : ∀ n : Nat,
      ((List.range (n + 1)).map fun j => if j = 0 then (25 : Rat) else -10).sum = 25 - 10 * n := by
    intro n
    induction n with
    | zero => simp
    | succ n ih =>
        rw [List.range_succ, List.map_append, List.sum_append, ih, List.map_singleton,
          List.sum_singleton, if_neg (Nat.succ_ne_zero n)]
        push_cast
        ring
  obtain ⟨n, rfl⟩ : ∃ n, turns = n + 1 := ⟨turns - 1, by omega⟩
  have three : (3 : Rat) ≤ n := by exact_mod_cast Nat.le_of_succ_le_succ many
  calc ((List.range (n + 1)).map f).sum
      ≤ ((List.range (n + 1)).map fun j => g j + if j = 0 then 25 else -10).sum :=
        List.sum_le_sum fun j within => each j (List.mem_range.mp within)
    _ = ((List.range (n + 1)).map g).sum + (25 - 10 * n) := by
        rw [List.sum_map_add, offsets]
    _ ≤ ((List.range (n + 1)).map g).sum := by linarith

theorem mean_scaled_le {xs ys : List Rat} (many : xs.length = ys.length) (sum : xs.sum ≤ ys.sum)
    {scale : Rat} (nonneg : 0 ≤ scale) : mean (xs.map (· * scale)) ≤ mean (ys.map (· * scale)) := by
  unfold mean
  by_cases none : xs = []
  · subst none
    obtain rfl := List.length_eq_zero_iff.mp many.symm
    exact le_rfl
  · have none' : ys ≠ [] := by
      rintro rfl
      exact none (List.length_eq_zero_iff.mp many)
    rw [if_neg (by simpa using none), if_neg (by simpa using none'), List.sum_map_mul_right,
      List.sum_map_mul_right, List.length_map, List.length_map, many, List.map_id', List.map_id']
    exact div_le_div_of_nonneg_right (mul_le_mul_of_nonneg_right sum nonneg) (Nat.cast_nonneg _)

def jobMetricNames : List String :=
  ["job_completion_time_p50", "job_completion_time_p95", "job_completion_time_p99", "ttft_per_step"]

theorem job_metrics_le {less more : Metrics} {jobs jobs' : List Rat}
    (computed : ∀ name ∈ agenticMetricNames, less.extraMetrics.get? name =
      (setAgenticMetrics less.latenciesMs jobs .empty).get? name)
    (computed' : ∀ name ∈ agenticMetricNames, more.extraMetrics.get? name =
      (setAgenticMetrics more.latenciesMs jobs' .empty).get? name)
    (each : List.Forall₂ (· ≤ ·) jobs jobs')
    (many : less.latenciesMs.length = more.latenciesMs.length)
    (sum : less.latenciesMs.sum ≤ more.latenciesMs.sum) :
    ∀ name ∈ jobMetricNames, ∃ x y, less.extraMetrics.get? name = some x ∧
      more.extraMetrics.get? name = some y ∧ x ≤ y := by
  obtain ⟨p50, p95, p99, -, -, ttft⟩ := setAgenticMetrics_values less.latenciesMs jobs
  obtain ⟨p50', p95', p99', -, -, ttft'⟩ := setAgenticMetrics_values more.latenciesMs jobs'
  have ordered : ∀ percent : Rat, 0 ≤ percent → percent ≤ 100 →
      percentile jobs percent ≤ percentile jobs' percent := by
    intro percent nonneg atMost
    rw [percentile_linear _ nonneg atMost, percentile_linear _ nonneg atMost]
    exact linearPercentile_le each nonneg
  have listed : ∀ name ∈ jobMetricNames, name ∈ agenticMetricNames := by
    simp [jobMetricNames, agenticMetricNames]
  intro name among
  have at' := computed name (listed name among)
  have at'' := computed' name (listed name among)
  simp only [jobMetricNames, List.mem_cons, List.not_mem_nil, or_false] at among
  rcases among with rfl | rfl | rfl | rfl
  · exact ⟨_, _, at'.trans p50, at''.trans p50', ordered _ (by norm_num) (by norm_num)⟩
  · exact ⟨_, _, at'.trans p95, at''.trans p95', ordered _ (by norm_num) (by norm_num)⟩
  · exact ⟨_, _, at'.trans p99, at''.trans p99', ordered _ (by norm_num) (by norm_num)⟩
  · exact ⟨_, _, at'.trans ttft, at''.trans ttft', mean_scaled_le many sum (by norm_num)⟩

/-- The latencies of answers that take their time are the ones they report. -/
theorem latenciesOf_run {σ : Type} {process : BenchmarkRequest → EStateM PyError σ ProcessResult}
    {before after : σ} {timed : List (BenchmarkRequest × Rat)} {results : List ProcessResult}
    (positive : ∀ request state result after, process request state = .ok result after →
      1 ≤ result.latencyMs)
    (run : Run process before (timed.map Prod.fst) results after) :
    latenciesOf timed results = results.map ProcessResult.latencyMs := by
  refine latenciesOf_eq (by rw [run.length_eq, List.length_map]) fun result listed => ?_
  obtain ⟨request, -, _, _, answered⟩ := run.mem_replies listed
  exact zero_le_one.trans (positive _ _ _ _ answered)

end BenchmarkRunner

open BenchmarkRunner

namespace AgenticWorkflowWorkload

/-! ## Answers -/

section

variable [PyBuiltins] [PyRuntime] {self : AgenticWorkflowWorkload} {draws : Draws}

theorem requestAt_workflowKey (workflowIndex turn : Nat) :
    workflowKey (self.requestAt draws workflowIndex turn) =
      .ok (some (workflowIdOf workflowIndex)) := by
  have named : workflowIdOf workflowIndex ≠ "" := by simp [workflowIdOf]
  rw [workflowKey, BenchmarkRequest.text, requestAt_workflowId, Json.toStr, ok_bind,
    decide_eq_true named, Bool.or_true]
  exact congrArg (fun key => Except.ok (some key)) (if_pos named)

/-- What the request takes by itself is no credit. -/
theorem requestLatency_nonneg (drawn : ∀ workflowIndex turn, Drawn (draws.turn workflowIndex turn))
    {workflowIndex turn : Nat} {own : Rat}
    (measured : requestLatency (self.requestAt draws workflowIndex turn) = .ok own) : 0 ≤ own := by
  have tool : (self.requestAt draws workflowIndex turn).number "actual_tool_latency_ms" =
      .ok (draws.turn workflowIndex turn).actualLatency := by
    have latency : (self.requestAt draws workflowIndex turn).get "actual_tool_latency_ms"
        (.float (.finite 0)) = .float (.finite (draws.turn workflowIndex turn).actualLatency) :=
      requestAt_get (by simp [metadataRows]) _
    rw [BenchmarkRequest.number, latency, Json.toFloat, ok_bind, PyFloat.exact]
  obtain ⟨toolLatency, number, measured⟩ := bind_eq_ok.mp measured
  obtain ⟨ragCall, -, measured⟩ := bind_eq_ok.mp measured
  obtain ⟨branch, -, measured⟩ := bind_eq_ok.mp measured
  obtain ⟨jitter, spread, measured⟩ := bind_eq_ok.mp measured
  rw [tool, Except.ok.injEq] at number
  subst number
  cases measured
  have prompt : (0 : Rat) ≤ min
      (((self.requestAt draws workflowIndex turn).prompt.length : Rat) / 2048) 6 := by positivity
  have latency := (drawn workflowIndex turn).latency
  have jitter := (BenchmarkRequest.stableJitter_mem (by norm_num) spread).1
  split <;> split <;> linarith

/-- How late some answers to the requests of a workload are, by their place: at least or at most
    so much after what the request takes by itself. -/
abbrev Answers (self : AgenticWorkflowWorkload) (draws : Draws) (results : List ProcessResult)
    (late : Nat → Rat → Rat → Prop) : Prop :=
  List.Forall₂ (fun k result => ∃ own, requestLatency (self.requestNumber draws k) = .ok own ∧
    0 ≤ own ∧ late k own result.latencyMs)
    (List.range (self.numWorkflows * self.turnsPerWorkflow)) results

theorem full_answers (drawn : ∀ workflowIndex turn, Drawn (draws.turn workflowIndex turn))
    {tracker : RetailWorkflowMetricsTracker} {results : List ProcessResult}
    {after : FullAgenticL3System}
    (run : Run FullAgenticL3System.process { retailMetrics := tracker } (self.allRequests draws)
      results after) :
    self.Answers draws results fun k own latencyMs =>
      latencyMs ≤ (if k % self.turnsPerWorkflow = 0 then 92 else 57) + own := by
  rw [allRequests_eq] at run
  refine (Run.indexed (I := fun k before => self.Processed before.processedSteps k) ?_ run
    (fun i none => absurd none (Nat.not_lt_zero i))).1
  intro k before result after known returned
  obtain ⟨stepId, parentStepId, toolHit, planHit, prefetchHit, answer⟩ :=
    FullAgenticL3System.process_answered returned
  have step := answer.step
  have parent := answer.parent
  rw [requestAt_stepText, Except.ok.injEq] at step
  rw [requestAt_parentText, Except.ok.injEq] at parent
  subst step parent
  obtain ⟨own, measured, latency⟩ := agentLatency_ok answer.latency
  have nonneg := requestLatency_nonneg drawn measured
  refine ⟨⟨own, measured, nonneg, ?_⟩, ?_⟩
  · have saved : (0 : Rat) ≤ if toolHit then 18 else if planHit then 10 else 0 := by
      split
      · norm_num
      · split <;> norm_num
    have discount : (0 : Rat) ≤ if result.isCacheHit then 35 else 0 := by
      split <;> norm_num
    rw [latency]
    dsimp only
    by_cases first : k % self.turnsPerWorkflow = 0
    · rw [if_pos first]
      exact max_le (by linarith) (by linarith)
    · have hit : result.isCacheHit = true := by
        rw [answer.hit, answer.known,
          decide_eq_true (known.parent.mpr (Nat.one_le_iff_ne_zero.mpr first)), Bool.or_true]
      rw [if_neg first, hit, if_pos rfl]
      exact max_le (by linarith) (by linarith)
  · rw [answer.processed]
    exact known.insert

theorem ttl_answers (drawn : ∀ workflowIndex turn, Drawn (draws.turn workflowIndex turn))
    {results : List ProcessResult} {after : AgentTTLSystem}
    (run : Run AgentTTLSystem.process {} (self.allRequests draws) results after) :
    self.Answers draws results fun _ own latencyMs => 67 + own ≤ latencyMs := by
  rw [allRequests_eq] at run
  refine (Run.indexed (I := fun _ _ => True) ?_ run trivial).1
  intro k before result after _ returned
  obtain ⟨discountMs, answer⟩ := AgentTTLSystem.process_answered returned
  obtain ⟨own, measured, latency⟩ := agentLatency_ok answer.latency
  refine ⟨⟨own, measured, requestLatency_nonneg drawn measured, ?_⟩, trivial⟩
  have hidden := answer.hidden
  have discount : (if result.isCacheHit then 35 else 0 : Rat) ≤ 35 := by
    split <;> norm_num
  rw [latency]
  exact le_max_of_le_right (by linarith)

theorem aware_answers (drawn : ∀ workflowIndex turn, Drawn (draws.turn workflowIndex turn))
    {results : List ProcessResult} {after : WorkflowAwareEvictionSystem}
    (run : Run WorkflowAwareEvictionSystem.process {} (self.allRequests draws) results after) :
    self.Answers draws results fun k own latencyMs =>
      (if k % self.turnsPerWorkflow = 0 then 118 else 83) + own ≤ latencyMs := by
  rw [allRequests_eq] at run
  refine (Run.indexed (I := fun k before => ∀ key ∈ before.seenWorkflowAgents, ∃ i < k,
    key = agentKey (i / self.turnsPerWorkflow) (i % self.turnsPerWorkflow % self.numAgents))
    ?_ run (fun key none => absurd none (Finset.notMem_empty key))).1
  intro k before result after seen returned
  obtain ⟨key, answer⟩ := WorkflowAwareEvictionSystem.process_answered returned
  have named := answer.named
  rw [requestAt_workflowAgent, Except.ok.injEq] at named
  subst named
  obtain ⟨own, measured, latency⟩ := agentLatency_ok answer.latency
  refine ⟨⟨own, measured, requestLatency_nonneg drawn measured, ?_⟩, ?_⟩
  · have discount : (if result.isCacheHit then 35 else 0 : Rat) ≤ 35 := by
      split <;> norm_num
    rw [latency]
    refine le_max_of_le_right ?_
    by_cases first : k % self.turnsPerWorkflow = 0
    · have new : agentKey (k / self.turnsPerWorkflow)
          (k % self.turnsPerWorkflow % self.numAgents) ∉ before.seenWorkflowAgents := by
        intro listed
        obtain ⟨i, earlier, same⟩ := seen _ listed
        have start := Nat.div_add_mod k self.turnsPerWorkflow
        rw [first, Nat.add_zero, (agentKey_inj same).1] at start
        exact absurd (start ▸ Nat.mul_div_le i self.turnsPerWorkflow) (Nat.not_le.mpr earlier)
      have missed : result.isCacheHit = false := by
        rw [answer.hit, decide_eq_false new]
      rw [if_pos first, missed, if_neg Bool.false_ne_true]
      linarith
    · rw [if_neg first]
      linarith
  · intro key listed
    rw [answer.seen, Finset.mem_insert] at listed
    rcases listed with rfl | before
    · exact ⟨k, Nat.lt_succ_self k, rfl⟩
    · obtain ⟨i, earlier, same⟩ := seen key before
      exact ⟨i, Nat.lt_succ_of_lt earlier, same⟩

theorem Answers.length_eq {results : List ProcessResult} {late : Nat → Rat → Rat → Prop}
    (answers : self.Answers draws results late) :
    results.length = self.numWorkflows * self.turnsPerWorkflow := by
  rw [← List.Forall₂.length_eq answers, List.length_range]

theorem Answers.getD {results : List ProcessResult} {late : Nat → Rat → Rat → Prop}
    (answers : self.Answers draws results late) {k : Nat}
    (within : k < self.numWorkflows * self.turnsPerWorkflow) :
    ∃ own, requestLatency (self.requestNumber draws k) = .ok own ∧ 0 ≤ own ∧
      late k own ((results.map ProcessResult.latencyMs).getD k 0) := by
  have inside : k < results.length := answers.length_eq ▸ within
  have answer := List.Forall₂.get answers (i := k) (by simpa using within) inside
  simpa [inside] using answer

theorem mapM_workflowKey : (self.allRequests draws).mapM workflowKey =
    .ok ((List.range (self.numWorkflows * self.turnsPerWorkflow)).map fun k =>
      some (workflowIdOf (k / self.turnsPerWorkflow))) := by
  have each : workflowKey ∘ self.requestNumber draws = fun k => .ok
      (some (workflowIdOf (k / self.turnsPerWorkflow))) :=
    funext fun k => requestAt_workflowKey _ _
  rw [allRequests_eq, List.mapM_map]
  exact (congrArg (List.mapM · _) each).trans List.mapM_pure

/-! ## Runs -/

theorem agentTTL_own (request : BenchmarkRequest) (before : AgentTTLSystem)
    (result : ProcessResult) (after : AgentTTLSystem)
    (answered : AgentTTLSystem.process request before = .ok result after) :
    ∀ name ∈ agenticMetricNames, result.extraMetrics.get? name = none := by
  obtain ⟨_, answer⟩ := AgentTTLSystem.process_answered answered
  have apart : ∀ name ∈ agenticMetricNames, name ∉ ["kv_reload_count", "recompute_avoided",
    "tool_wait_hidden_ms", "l3_write_count"] := by decide
  exact fun name among => answer.others name (apart name among)

theorem workflowAware_own (request : BenchmarkRequest) (before : WorkflowAwareEvictionSystem)
    (result : ProcessResult) (after : WorkflowAwareEvictionSystem)
    (answered : WorkflowAwareEvictionSystem.process request before = .ok result after) :
    ∀ name ∈ agenticMetricNames, result.extraMetrics.get? name = none := by
  obtain ⟨_, answer⟩ := WorkflowAwareEvictionSystem.process_answered answered
  have apart : ∀ name ∈ agenticMetricNames, name ∉ ["workflow_cache_hit_rate", "kv_reload_count",
    "l3_read_count"] := by decide
  exact fun name among => answer.others name (apart name among)

theorem agentTTL_positive (request : BenchmarkRequest) (before : AgentTTLSystem)
    (result : ProcessResult) (after : AgentTTLSystem)
    (answered : AgentTTLSystem.process request before = .ok result after) :
    1 ≤ result.latencyMs := by
  obtain ⟨_, answer⟩ := AgentTTLSystem.process_answered answered
  exact one_le_agentLatency answer.latency

variable [PyNumpy] [LawfulNumpy] [PyRng] [LawfulRng]

/-- On a generated workload the full system is never slower than the one that remembers agents, and
    with four turns or more no job takes it longer than the system of tool pauses. -/
theorem generated_jobs {objMeta : Nat → ObjectMeta} {timed : List (BenchmarkRequest × Rat)}
    {tracker : RetailWorkflowMetricsTracker} {full aware ttl : Metrics}
    (generated : timed.map Prod.fst = (self.generate objMeta).requests)
    (returned : runSystem (FullAgenticL3System.system tracker) timed = .ok full)
    (returnedAware : runSystem WorkflowAwareEvictionSystem.system timed = .ok aware)
    (returnedTTL : runSystem AgentTTLSystem.system timed = .ok ttl) :
    NoSlower full aware ∧ (4 ≤ self.turnsPerWorkflow →
      ∀ name ∈ jobMetricNames, ∃ x y, full.extraMetrics.get? name = some x ∧
        ttl.extraMetrics.get? name = some y ∧ x ≤ y) := by
  rw [generate_eq] at generated
  have drawn : ∀ workflowIndex turn, Drawn (self.draws.turn workflowIndex turn) := draws_drawn
  have agentic : ∃ request ∈ timed, ∃ key, workflowKey request.1 = .ok (some key) := by
    have first : self.requestAt self.draws 0 0 ∈ timed.map Prod.fst := by
      rw [generated]
      exact List.mem_flatMap.mpr ⟨0, List.mem_range.mpr self.workflowsPositive,
        List.mem_map_of_mem (List.mem_range.mpr self.turnsPositive)⟩
    obtain ⟨request, among, same⟩ := List.mem_map.mp first
    exact ⟨request, among, _, same ▸ requestAt_workflowKey 0 0⟩
  refine ⟨?_, fun turns => ?_⟩
  · refine noSlower_of_answers fullAgentic_own workflowAware_own fullAgentic_positive ?_ returned
      returnedAware agentic
    intro results results' after after' run run'
    rw [generated] at run run'
    refine forall₂_of_common (full_answers drawn run) (aware_answers drawn run') ?_
    rintro k result result' ⟨own, measured, -, most⟩ ⟨own', measured', -, least⟩
    rw [measured, Except.ok.injEq] at measured'
    subst measured'
    refine most.trans (le_trans ?_ least)
    split <;> linarith
  · obtain ⟨keys, results, after, run, named, times, -, computed⟩ :=
      agentic_run fullAgentic_own returned agentic
    obtain ⟨keys', results', after', run', named', times', -, computed'⟩ :=
      agentic_run agentTTL_own returnedTTL agentic
    rw [latenciesOf_run fullAgentic_positive run] at times
    rw [latenciesOf_run agentTTL_positive run'] at times'
    rw [generated] at run run' named named'
    rw [mapM_workflowKey, Except.ok.injEq] at named named'
    rw [← named'] at computed'
    rw [← named] at computed
    have answers := full_answers drawn run
    have answers' := ttl_answers drawn run'
    have many : full.latenciesMs.length = self.numWorkflows * self.turnsPerWorkflow := by
      rw [times, List.length_map, answers.length_eq]
    have many' : ttl.latenciesMs.length = self.numWorkflows * self.turnsPerWorkflow := by
      rw [times', List.length_map, answers'.length_eq]
    obtain ⟨jobs, sum⟩ := jobTimes_blocks_le rfl many many' fun i inside =>
      sum_turns_le turns fun j within => by
        have place : i * self.turnsPerWorkflow + j < self.numWorkflows * self.turnsPerWorkflow := by
          have next := Nat.mul_le_mul_right self.turnsPerWorkflow (Nat.succ_le_of_lt inside)
          rw [Nat.succ_mul] at next
          omega
        obtain ⟨own, measured, -, most⟩ := answers.getD place
        obtain ⟨own', measured', -, least⟩ := answers'.getD place
        rw [measured, Except.ok.injEq] at measured'
        subst measured'
        rw [Nat.mul_comm, Nat.mul_add_mod, Nat.mod_eq_of_lt within, Nat.mul_comm] at most
        rw [times, times']
        refine most.trans ?_
        split <;> linarith
    exact job_metrics_le computed computed' jobs (many.trans many'.symm) sum

end

open Reference Reference.Shown in
theorem generated_jobs_of_turns : ∃ full aware ttl : Metrics,
    runSystem (FullAgenticL3System.system untracked) (eightRequests.map (·, 0)) = .ok full ∧
      NoSlower full aware ∧ ∀ name ∈ jobMetricNames, ∃ x y, full.extraMetrics.get? name = some x ∧
        ttl.extraMetrics.get? name = some y ∧ x ≤ y := by
  have generated : (eightRequests.map fun request => (request, (0 : Rat))).map Prod.fst =
      eightRequests := by
    rw [List.map_map]
    exact List.map_id _
  have full : (runSystem (FullAgenticL3System.system untracked)
    (eightRequests.map (·, 0))).isOk = true := by decide +kernel
  have aware : (runSystem WorkflowAwareEvictionSystem.system
    (eightRequests.map (·, 0))).isOk = true := by decide +kernel
  have ttl : (runSystem AgentTTLSystem.system (eightRequests.map (·, 0))).isOk = true := by
    decide +kernel
  obtain ⟨metrics, full⟩ := exists_of_isOk full
  obtain ⟨metrics', aware⟩ := exists_of_isOk aware
  obtain ⟨metrics'', ttl⟩ := exists_of_isOk ttl
  obtain ⟨noSlower, jobs⟩ := generated_jobs generated full aware ttl
  exact ⟨metrics, metrics', metrics'', full, noSlower, jobs (le_refl 4)⟩

end AgenticWorkflowWorkload

end IntelliL3
