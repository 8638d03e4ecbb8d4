import IntelliL3.Baselines.Agentic
import IntelliL3.Baselines.RetailTracking
import IntelliL3.Core.Reference
import IntelliL3.Workloads.Reference

/-! # The system that keeps the steps used last

A request hits when its workflow and agent were used before, with fewer distinct others since than
the capacity. More capacity never costs a hit, and what is reloaded is evicted or kept.
-/

namespace IntelliL3

open Lib

namespace RetailWorkflowMetricsTracker

def retailMetricNames : List String := [
  "workflow_correctness_rate", "policy_violation_rate", "tool_use_accuracy",
  "tool_arg_error_count", "fallback_success_rate", "milestone_pass_rate"]

variable [PyBuiltins]

theorem step_metrics {profile : RetailProfile} {request : BenchmarkRequest}
    {context context' : WorkflowContext} {metrics : Dict String Rat}
    (told : step profile request context = .ok metrics context') :
    ∃ before score, metrics = metricsOf before score := by
  obtain ⟨_, _, _, told⟩ := bind_run_ok.mp told
  obtain ⟨_, _, _, told⟩ := bind_run_ok.mp told
  obtain ⟨score, _, _, told⟩ := bind_run_ok.mp told
  obtain ⟨_, _, _, told⟩ := bind_run_ok.mp told
  cases told
  exact ⟨_, score, rfl⟩

/-- A request is told no other metrics than those of retail workflows. -/
theorem metricsForRequest_names {request : BenchmarkRequest}
    {self after : RetailWorkflowMetricsTracker} {metrics : Dict String Rat}
    (told : metricsForRequest request self = .ok metrics after) {name : String}
    (other : name ∉ retailMetricNames) : metrics.get? name = none := by
  have unnamed : ∀ (context : WorkflowContext) (score : TaskScore),
      (metricsOf context score).get? name = none := by
    intro context score
    simp only [retailMetricNames, List.mem_cons, List.not_mem_nil, or_false, not_or] at other
    simp only [metricsOf, Dict.ofRows, List.foldl_cons, List.foldl_nil, Dict.get?_set,
      Ne.symm other.1, Ne.symm other.2.1, Ne.symm other.2.2.1, Ne.symm other.2.2.2.1,
      Ne.symm other.2.2.2.2.1, Ne.symm other.2.2.2.2.2, if_false, Dict.get?_empty]
  rw [metricsForRequest_eq] at told
  split at told
  · cases told
  · cases told
    rfl
  · split at told
    · cases told
    · unfold stepIn at told
      split at told
      · next stepped =>
          cases told
          obtain ⟨before, score, rfl⟩ := step_metrics stepped
          exact unnamed before score
      · cases told

end RetailWorkflowMetricsTracker

namespace Reference

/-- A tracker without tasks. -/
def untracked : RetailWorkflowMetricsTracker where
  profile := .baseline
  validator := ⟨.empty⟩
  toolkit := { orders := .empty, orderItems := .list [], policies := .dict [] }
  contexts := .empty

def keeping (capacity : Nat) (positive : 0 < capacity) : AgentLRUBaseline :=
  ⟨capacity, [], untracked, positive, Nat.zero_le _⟩

end Reference

namespace AgentLRUBaseline

section

variable [PyBuiltins] [PyRuntime]

/-- What a request that is answered does. -/
structure Answered (request : BenchmarkRequest) (before : AgentLRUBaseline)
    (result : ProcessResult) (after : AgentLRUBaseline) (key : String) : Prop where
  named : workflowAgent request = .ok key
  hit : result.isCacheHit = decide (key ∈ before.recentSteps)
  latency : agentLatency request 145 result.isCacheHit = .ok result.latencyMs
  capacity : after.capacity = before.capacity
  kept : after.recentSteps = (touched before.capacity before.recentSteps key).1
  reloaded : result.extraMetrics.get? "kv_reload_count" = some (indicator !result.isCacheHit)
  evicted : result.extraMetrics.get? "l2_eviction_count" =
    some (indicator (touched before.capacity before.recentSteps key).2)
  others : ∀ name ∉ RetailWorkflowMetricsTracker.retailMetricNames,
    name ∉ ["kv_reload_count", "kv_recompute_count", "l2_eviction_count", "l3_read_count"] →
      result.extraMetrics.get? name = none

theorem process_answered {request : BenchmarkRequest} {before after : AgentLRUBaseline}
    {result : ProcessResult} (returned : process request before = .ok result after) :
    ∃ key, Answered request before result after key := by
  replace returned := bind_run_ok.mp returned
  obtain ⟨key, _, named, returned⟩ := returned
  obtain ⟨named, same⟩ := raising_eq_ok.mp named
  rw [same] at returned
  replace returned := bind_run_ok.mp returned
  obtain ⟨_, _, ⟨⟩, returned⟩ := returned
  replace returned := bind_run_ok.mp returned
  obtain ⟨_, _, ⟨⟩, returned⟩ := returned
  replace returned := bind_run_ok.mp returned
  obtain ⟨retail, _, tracked, returned⟩ := returned
  replace returned := bind_run_ok.mp returned
  obtain ⟨latency, _, computed, returned⟩ := returned
  replace computed := raising_eq_ok.mp computed
  obtain ⟨computed, rfl⟩ := computed
  obtain ⟨_, told, rfl⟩ := zoom_eq_ok.mp tracked
  cases returned
  have own : ∀ name ∉ RetailWorkflowMetricsTracker.retailMetricNames, retail.get? name = none :=
    fun name other => RetailWorkflowMetricsTracker.metricsForRequest_names told other
  refine ⟨key, named, rfl, computed, rfl, rfl, ?_, ?_, fun name retailOther other => ?_⟩
  · rw [Dict.get?_update_absent (own _ (by decide))]
    rfl
  · rw [Dict.get?_update_absent (own _ (by decide))]
    rfl
  · rw [Dict.get?_update_absent (own _ retailOther)]
    exact Dict.get?_ofRows_absent other

/-! ## Runs -/

variable {fresh before after : AgentLRUBaseline} {requests : List BenchmarkRequest}
  {results : List ProcessResult}

theorem run_recent {used : List String}
    (held : before.recentSteps = LeastRecent.recent before.capacity used)
    (run : Run process before requests results after) :
    ∃ keys, requests.mapM workflowAgent = .ok keys ∧
      results.map ProcessResult.isCacheHit = LeastRecent.hits before.capacity used keys ∧
      after.capacity = before.capacity ∧
      after.recentSteps = LeastRecent.recent before.capacity (used ++ keys) := by
  induction run generalizing used with
  | nil => exact ⟨[], rfl, rfl, rfl, by rw [List.append_nil]; exact held⟩
  | cons step _ ih =>
      obtain ⟨key, answered⟩ := process_answered step
      have next := answered.kept.trans (touched_eq (AgentLRUBaseline.fits _) key)
      rw [held, ← LeastRecent.recent_concat, ← answered.capacity] at next
      obtain ⟨keys, named, hit, capacity, final⟩ := ih next
      rw [answered.capacity] at hit capacity final
      refine ⟨key :: keys, ?_, ?_, capacity, ?_⟩
      · rw [List.mapM_cons, answered.named, ok_bind, named]
        rfl
      · rw [List.map_cons, hit, answered.hit, held]
        rfl
      · rw [final, List.append_assoc, List.singleton_append]

omit [PyBuiltins] [PyRuntime] in
theorem new_settings {tracker : RetailWorkflowMetricsTracker} {capacity : Int}
    (built : new tracker capacity = .ok fresh) :
    fresh.capacity = capacity.toNat ∧ fresh.recentSteps = [] := by
  unfold new at built
  split at built <;> cases built
  exact ⟨rfl, rfl⟩

/-- A request hits exactly when its workflow and agent were used before, with fewer distinct
    others since than there is capacity. -/
theorem agent_lru_hit_iff {tracker : RetailWorkflowMetricsTracker} {capacity : Int}
    (built : new tracker capacity = .ok fresh) {request : BenchmarkRequest}
    {result : ProcessResult}
    (run : Run process fresh (requests ++ [request]) (results ++ [result]) after) :
    ∃ keys key, requests.mapM workflowAgent = .ok keys ∧ workflowAgent request = .ok key ∧
      (result.isCacheHit = true ↔ ∃ earlier since, keys = earlier ++ key :: since ∧
        key ∉ since ∧ (since.dedup.length : Int) < capacity) := by
  obtain ⟨settings, empty⟩ := new_settings built
  obtain ⟨first, last, before, split, ran, final⟩ := Run.append_iff.mp run
  cases final with
  | cons step rest =>
      cases rest
      obtain ⟨rfl, same⟩ := List.append_inj' split rfl
      cases same
      have start : fresh.recentSteps = LeastRecent.recent fresh.capacity [] := by
        rw [empty, LeastRecent.recent_nil]
      obtain ⟨keys, named, -, bound, held⟩ := run_recent start ran
      obtain ⟨key, answered⟩ := process_answered step
      refine ⟨keys, key, named, answered.named, ?_⟩
      rw [answered.hit, held, List.nil_append, decide_eq_true_iff, LeastRecent.mem_recent_iff]
      have room : ∀ since : List String,
          since.dedup.length < fresh.capacity ↔ (since.dedup.length : Int) < capacity := by
        intro since
        rw [settings]
        omega
      simp only [room]

end

open Reference Reference.Shown in
theorem agent_lru_hit_of_steps : ∃ keys key, ∃ result : ProcessResult,
    agentSteps.mapM workflowAgent = .ok keys ∧ workflowAgent (agentStep "planner") = .ok key ∧
      (result.isCacheHit = true ↔ ∃ earlier since, keys = earlier ++ key :: since ∧
        key ∉ since ∧ (since.dedup.length : Int) < 2) := by
  have built : new untracked 2 = .ok (keeping 2 (by decide)) := rfl
  have run : Run process (keeping 2 (by decide)) (agentSteps ++ [agentStep "planner"])
      ([_, _] ++ [_]) _ :=
    .cons rfl (.cons rfl (.cons rfl (.nil _)))
  obtain ⟨keys, key, named⟩ := agent_lru_hit_iff built run
  exact ⟨keys, key, _, named⟩

/-! ## Reloads -/

section

variable [PyBuiltins] [PyRuntime] {fresh before after : AgentLRUBaseline}
  {requests : List BenchmarkRequest} {results : List ProcessResult}

theorem run_reloads (run : Run process before requests results after) :
    metricTotal "kv_reload_count" results + (results.countP ProcessResult.isCacheHit : Nat) =
        requests.length ∧
      metricTotal "kv_reload_count" results + before.recentSteps.length =
        metricTotal "l2_eviction_count" results + after.recentSteps.length := by
  induction run with
  | nil => exact ⟨by simp [metricTotal], rfl⟩
  | @cons before m after request result requests results step _ ih =>
      obtain ⟨hits, kept⟩ := ih
      obtain ⟨key, answered⟩ := process_answered step
      rw [metricTotal_cons, answered.reloaded, metricTotal_cons, answered.evicted,
        Option.getD_some, Option.getD_some, List.countP_cons, List.length_cons]
      constructor
      · cases result.isCacheHit with
        | false =>
            rw [if_neg Bool.false_ne_true, Bool.not_false, indicator_true]
            push_cast
            rw [← hits]
            ring
        | true =>
            rw [if_pos rfl, Bool.not_true, indicator_false]
            push_cast
            rw [← hits]
            ring
      · have length := length_touched before.fits key
        rw [answered.kept] at kept
        rw [answered.hit]
        linarith

/-- What is reloaded was not hit, and all of it was evicted since but the steps that fit. -/
theorem agent_lru_reloads {tracker : RetailWorkflowMetricsTracker} {capacity : Int}
    (built : new tracker capacity = .ok fresh) (run : Run process fresh requests results after) :
    ∃ keys, requests.mapM workflowAgent = .ok keys ∧
      metricTotal "kv_reload_count" results =
        (requests.length : Rat) - results.countP ProcessResult.isCacheHit ∧
      metricTotal "l2_eviction_count" results =
        metricTotal "kv_reload_count" results - min capacity.toNat keys.dedup.length := by
  obtain ⟨settings, empty⟩ := new_settings built
  have start : fresh.recentSteps = LeastRecent.recent fresh.capacity [] := by
    rw [empty, LeastRecent.recent_nil]
  obtain ⟨keys, named, -, -, held⟩ := run_recent start run
  obtain ⟨hits, kept⟩ := run_reloads run
  refine ⟨keys, named, eq_sub_of_add_eq hits, ?_⟩
  rw [empty, List.length_nil, Nat.cast_zero, add_zero, held, LeastRecent.length_recent, settings,
    List.nil_append] at kept
  rw [kept, Nat.cast_min]
  ring

end

open Reference Reference.Shown in
theorem agent_lru_reloads_of_steps : ∃ keys, ∃ results : List ProcessResult,
    agentSteps.mapM workflowAgent = .ok keys ∧
      metricTotal "kv_reload_count" results =
        (agentSteps.length : Rat) - results.countP ProcessResult.isCacheHit ∧
      metricTotal "l2_eviction_count" results =
        metricTotal "kv_reload_count" results - min (1 : Int).toNat keys.dedup.length := by
  have built : new untracked 1 = .ok (keeping 1 (by decide)) := rfl
  have run : Run process (keeping 1 (by decide)) agentSteps [_, _] _ :=
    .cons rfl (.cons rfl (.nil _))
  obtain ⟨keys, named⟩ := agent_lru_reloads built run
  exact ⟨keys, _, named⟩

end AgentLRUBaseline

/-! ## Capacities -/

namespace WorkflowAwareEvictionSystem

variable [PyBuiltins] [PyRuntime] {before after : WorkflowAwareEvictionSystem}
  {requests : List BenchmarkRequest} {results : List ProcessResult}

/-- What a request that is answered does. -/
structure Answered (request : BenchmarkRequest) (before : WorkflowAwareEvictionSystem)
    (result : ProcessResult) (after : WorkflowAwareEvictionSystem) (key : String) : Prop where
  named : workflowAgent request = .ok key
  hit : result.isCacheHit = decide (key ∈ before.seenWorkflowAgents)
  latency : agentLatency request 118 result.isCacheHit = .ok result.latencyMs
  seen : after.seenWorkflowAgents = insert key before.seenWorkflowAgents
  reloaded : result.extraMetrics.get? "kv_reload_count" = some (indicator !result.isCacheHit)
  others : ∀ name ∉ ["workflow_cache_hit_rate", "kv_reload_count", "l3_read_count"],
    result.extraMetrics.get? name = none

theorem process_answered {request : BenchmarkRequest} {result : ProcessResult}
    (returned : process request before = .ok result after) :
    ∃ key, Answered request before result after key := by
  replace returned := bind_run_ok.mp returned
  obtain ⟨key, _, named, returned⟩ := returned
  obtain ⟨named, same⟩ := raising_eq_ok.mp named
  rw [same] at returned
  replace returned := bind_run_ok.mp returned
  obtain ⟨_, _, ⟨⟩, returned⟩ := returned
  replace returned := bind_run_ok.mp returned
  obtain ⟨_, _, ⟨⟩, returned⟩ := returned
  replace returned := bind_run_ok.mp returned
  obtain ⟨latency, _, computed, returned⟩ := returned
  replace computed := raising_eq_ok.mp computed
  obtain ⟨computed, rfl⟩ := computed
  cases returned
  exact ⟨key, named, rfl, computed, rfl, rfl, fun name other => Dict.get?_ofRows_absent other⟩

theorem run_repeats {used : List String} (seen : before.seenWorkflowAgents = used.toFinset)
    (run : Run process before requests results after) :
    ∃ keys, requests.mapM workflowAgent = .ok keys ∧
      results.map ProcessResult.isCacheHit = LeastRecent.repeats used keys ∧
      metricTotal "kv_reload_count" results =
        (requests.length : Rat) - results.countP ProcessResult.isCacheHit := by
  induction run generalizing used with
  | nil => exact ⟨[], rfl, rfl, by simp [metricTotal]⟩
  | @cons before m after request result requests results step _ ih =>
      obtain ⟨key, answered⟩ := process_answered step
      have next : m.seenWorkflowAgents = (used ++ [key]).toFinset := by
        rw [answered.seen, seen]
        ext other
        rw [Finset.mem_insert, List.mem_toFinset, List.mem_toFinset, List.mem_append,
          List.mem_singleton, or_comm]
      obtain ⟨keys, named, again, reloads⟩ := ih next
      refine ⟨key :: keys, ?_, ?_, ?_⟩
      · rw [List.mapM_cons, answered.named, ok_bind, named]
        rfl
      · rw [List.map_cons, again, answered.hit, seen]
        simp only [List.mem_toFinset]
        rfl
      · rw [metricTotal_cons, answered.reloaded, Option.getD_some, reloads, List.countP_cons,
          List.length_cons]
        cases result.isCacheHit with
        | false =>
            rw [if_neg Bool.false_ne_true, Bool.not_false, indicator_true]
            push_cast
            ring
        | true =>
            rw [if_pos rfl, Bool.not_true, indicator_false]
            push_cast
            ring

end WorkflowAwareEvictionSystem

namespace AgentLRUBaseline

section

variable [PyBuiltins] [PyRuntime] {small large : AgentLRUBaseline}
  {requests : List BenchmarkRequest} {results results' unbounded : List ProcessResult}
  {after after' : AgentLRUBaseline} {final : WorkflowAwareEvictionSystem}

/-- On the same requests, a system with more capacity hits wherever one with less does, and the
    one that keeps every workflow and agent wherever either does: so they reload no more. -/
theorem agent_lru_capacity {tracker tracker' : RetailWorkflowMetricsTracker}
    {capacity more : Int} (larger : capacity ≤ more) (built : new tracker capacity = .ok small)
    (built' : new tracker' more = .ok large) (run : Run process small requests results after)
    (run' : Run process large requests results' after')
    (keeping : Run WorkflowAwareEvictionSystem.process {} requests unbounded final) :
    List.Forall₂ (fun less more => less.isCacheHit = true → more.isCacheHit = true)
        results results' ∧
      List.Forall₂ (fun less more => less.isCacheHit = true → more.isCacheHit = true)
        results' unbounded ∧
      metricTotal "kv_reload_count" unbounded ≤ metricTotal "kv_reload_count" results' ∧
      metricTotal "kv_reload_count" results' ≤ metricTotal "kv_reload_count" results ∧
      ∃ keys, requests.mapM workflowAgent = .ok keys ∧ ((keys.dedup.length : Int) ≤ more →
        results'.map ProcessResult.isCacheHit = unbounded.map ProcessResult.isCacheHit) := by
  obtain ⟨settings, empty⟩ := new_settings built
  obtain ⟨settings', empty'⟩ := new_settings built'
  have start : small.recentSteps = LeastRecent.recent small.capacity [] := by
    rw [empty, LeastRecent.recent_nil]
  have start' : large.recentSteps = LeastRecent.recent large.capacity [] := by
    rw [empty', LeastRecent.recent_nil]
  obtain ⟨keys, named, hits, -⟩ := run_recent start run
  obtain ⟨keys', named', hits', -⟩ := run_recent start' run'
  obtain ⟨keys'', named'', again, reloads⟩ :=
    WorkflowAwareEvictionSystem.run_repeats (show _ = ([] : List String).toFinset from rfl) keeping
  rw [named, Except.ok.injEq] at named' named''
  subst named' named''
  have first : List.Forall₂ (fun less more => less.isCacheHit = true → more.isCacheHit = true)
      results results' := by
    have both := LeastRecent.hits_mono (n := small.capacity) (m := large.capacity)
      (by omega) [] keys
    rw [← hits, ← hits', List.forall₂_map_left_iff, List.forall₂_map_right_iff] at both
    exact both
  have second : List.Forall₂ (fun less more => less.isCacheHit = true → more.isCacheHit = true)
      results' unbounded := by
    have both := LeastRecent.hits_repeats large.capacity [] keys
    rw [← hits', ← again, List.forall₂_map_left_iff, List.forall₂_map_right_iff] at both
    exact both
  obtain ⟨-, -, missed, -⟩ := agent_lru_reloads built run
  obtain ⟨-, -, missed', -⟩ := agent_lru_reloads built' run'
  have fewer : (results.countP ProcessResult.isCacheHit : Rat) ≤
      results'.countP ProcessResult.isCacheHit :=
    Nat.cast_le.mpr (LeastRecent.countP_le_of_forall₂ first)
  have fewer' : (results'.countP ProcessResult.isCacheHit : Rat) ≤
      unbounded.countP ProcessResult.isCacheHit :=
    Nat.cast_le.mpr (LeastRecent.countP_le_of_forall₂ second)
  refine ⟨first, second, ?_, ?_, keys, named, fun room => ?_⟩
  · rw [reloads, missed']
    linarith
  · rw [missed', missed]
    linarith
  · rw [hits', again]
    exact LeastRecent.hits_eq_repeats [] keys (by rw [List.nil_append]; omega)

end

open Reference Reference.Shown in
theorem agent_lru_capacity_of_steps : ∃ results results' unbounded : List ProcessResult,
    List.Forall₂ (fun less more => less.isCacheHit = true → more.isCacheHit = true)
        results results' ∧
      metricTotal "kv_reload_count" unbounded ≤ metricTotal "kv_reload_count" results' := by
  have built : new untracked 1 = .ok (keeping 1 (by decide)) := rfl
  have built' : new untracked 2 = .ok (keeping 2 (by decide)) := rfl
  have run : Run process (keeping 1 (by decide)) agentSteps [_, _] _ :=
    .cons rfl (.cons rfl (.nil _))
  have run' : Run process (keeping 2 (by decide)) agentSteps [_, _] _ :=
    .cons rfl (.cons rfl (.nil _))
  have all : Run WorkflowAwareEvictionSystem.process {} agentSteps [_, _] _ :=
    .cons rfl (.cons rfl (.nil _))
  obtain ⟨hits, -, fewer, -⟩ := agent_lru_capacity (by decide) built built' run run' all
  exact ⟨_, _, _, hits, fewer⟩

end AgentLRUBaseline

end IntelliL3
