import IntelliL3.Runners.JobTimes

/-! # Systems that are no slower

Where one system answers no request later than another, none of the latencies that the runner
reports is larger: of requests, of jobs and of steps.
-/

namespace IntelliL3

open Lib

namespace BenchmarkRunner

theorem jobTimes_le (keys : List (Option String)) {xs ys : List Rat}
    (each : List.Forall₂ (· ≤ ·) xs ys) :
    List.Forall₂ (· ≤ ·) (jobTimes keys xs).values (jobTimes keys ys).values := by
  have steps : List.Forall₂ (fun a b => a.1 = b.1 ∧ a.2 ≤ b.2) (jobSteps keys xs)
      (jobSteps keys ys) := by
    induction each generalizing keys with
    | nil => cases keys <;> exact .nil
    | @cons x y xs ys first _ ih =>
        rcases keys with _ | ⟨_ | key, keys⟩
        · exact .nil
        · exact ih keys
        · exact .cons ⟨rfl, first⟩ (ih keys)
  rw [Dict.values, Dict.values, List.forall₂_map_left_iff, List.forall₂_map_right_iff]
  exact (Dict.entries_foldl_addTo_le steps .nil).imp fun _ _ both => both.2

theorem mean_le {xs ys : List Rat} (each : List.Forall₂ (· ≤ ·) xs ys) : mean xs ≤ mean ys := by
  cases each with
  | nil => exact le_rfl
  | cons first rest =>
      have sum := (List.Forall₂.cons first rest).sum_le_sum
      rw [mean, if_neg (List.cons_ne_nil _ _), mean, if_neg (List.cons_ne_nil _ _),
        List.length_cons, List.length_cons, rest.length_eq]
      exact div_le_div_of_nonneg_right sum (Nat.cast_nonneg _)

/-- The latencies of one run, as the runner reports them, are none larger than of another. -/
structure NoSlower [PyNumpy] (less more : Metrics) : Prop where
  requests : less.latencyP50 ≤ more.latencyP50 ∧ less.latencyP95 ≤ more.latencyP95 ∧
    less.latencyP99 ≤ more.latencyP99
  throughput : more.throughputReqS ≤ less.throughputReqS
  jobs : ∀ name ∈ agenticMetricNames, ∃ x y, less.extraMetrics.get? name = some x ∧
    more.extraMetrics.get? name = some y ∧ x ≤ y

variable [PyBuiltins] [PyNumpy] [LawfulNumpy]

theorem noSlower {system other : BenchmarkSystem} {timed : List (BenchmarkRequest × Rat)}
    {less more : Metrics}
    (own : ∀ request state result after, system.process request state = .ok result after →
      ∀ name ∈ agenticMetricNames, result.extraMetrics.get? name = none)
    (own' : ∀ request state result after, other.process request state = .ok result after →
      ∀ name ∈ agenticMetricNames, result.extraMetrics.get? name = none)
    (returned : runSystem system timed = .ok less) (returned' : runSystem other timed = .ok more)
    (agentic : ∃ request ∈ timed, ∃ key, workflowKey request.1 = .ok (some key))
    (each : List.Forall₂ (· ≤ ·) less.latenciesMs more.latenciesMs)
    (positive : ∀ x ∈ less.latenciesMs, 0 < x) : NoSlower less more := by
  obtain ⟨keys, _, _, _, named, _, many, computed⟩ := agentic_run own returned agentic
  obtain ⟨keys', _, _, _, named', _, _, computed'⟩ := agentic_run own' returned' agentic
  rw [named, Except.ok.injEq] at named'
  subst named'
  have jobs := jobTimes_le keys each
  obtain ⟨p50, p95, p99, step50, step95, ttft⟩ := setAgenticMetrics_values less.latenciesMs
    (jobTimes keys less.latenciesMs).values
  obtain ⟨p50', p95', p99', step50', step95', ttft'⟩ := setAgenticMetrics_values more.latenciesMs
    (jobTimes keys more.latenciesMs).values
  have ordered : ∀ {xs ys : List Rat} (percent : Rat), List.Forall₂ (· ≤ ·) xs ys → 0 ≤ percent →
      percent ≤ 100 → percentile xs percent ≤ percentile ys percent := by
    intro xs ys percent each nonneg atMost
    rw [percentile_linear _ nonneg atMost, percentile_linear _ nonneg atMost]
    exact linearPercentile_le each nonneg
  have latency : ∀ {percent : Rat}, 0 ≤ percent → percent ≤ 100 →
      less.latencyPercentile percent ≤ more.latencyPercentile percent := by
    intro percent nonneg atMost
    rw [latencyPercentile_linear _ nonneg atMost, latencyPercentile_linear _ nonneg atMost]
    exact linearPercentile_le each nonneg
  constructor
  case requests =>
    exact ⟨latency (by norm_num) (by norm_num), latency (by norm_num) (by norm_num),
      latency (by norm_num) (by norm_num)⟩
  case throughput =>
    have requests : less.totalRequests = more.totalRequests := by
      obtain ⟨_, _, _, _, _, _, _, rfl⟩ := runSystem_ok returned
      obtain ⟨_, _, _, _, _, _, _, rfl⟩ := runSystem_ok returned'
      rfl
    have sum := each.sum_le_sum
    unfold Metrics.throughputReqS
    by_cases none : less.latenciesMs = []
    · have none' : more.latenciesMs = [] := by
        rw [none] at each
        exact List.forall₂_nil_left_iff.mp each
      rw [none, none', requests]
    · have positive : 0 < less.latenciesMs.sum / 1000 :=
        div_pos (List.sum_pos _ positive none) (by norm_num)
      have le : less.latenciesMs.sum / 1000 ≤ more.latenciesMs.sum / 1000 :=
        div_le_div_of_nonneg_right sum (by norm_num)
      simp only [if_neg positive.ne', if_neg (positive.trans_le le).ne', requests]
      exact div_le_div_of_nonneg_left (Nat.cast_nonneg more.totalRequests) positive le
  case jobs =>
    intro name among
    have at' := computed name among
    have at'' := computed' name among
    simp only [agenticMetricNames, List.mem_cons, List.not_mem_nil, or_false] at among
    rcases among with rfl | rfl | rfl | rfl | rfl | rfl
    · exact ⟨_, _, at'.trans p50, at''.trans p50', ordered _ jobs (by norm_num) (by norm_num)⟩
    · exact ⟨_, _, at'.trans p95, at''.trans p95', ordered _ jobs (by norm_num) (by norm_num)⟩
    · exact ⟨_, _, at'.trans p99, at''.trans p99', ordered _ jobs (by norm_num) (by norm_num)⟩
    · exact ⟨_, _, at'.trans step50, at''.trans step50',
        ordered _ each (by norm_num) (by norm_num)⟩
    · exact ⟨_, _, at'.trans step95, at''.trans step95',
        ordered _ each (by norm_num) (by norm_num)⟩
    · refine ⟨_, _, at'.trans ttft, at''.trans ttft', mean_le ?_⟩
      rw [List.forall₂_map_left_iff, List.forall₂_map_right_iff]
      exact each.imp fun _ _ le => mul_le_mul_of_nonneg_right le (by norm_num)

/-- Where one system answers each request no later than another does, none of the latencies
    reported is larger. -/
theorem noSlower_of_answers {system other : BenchmarkSystem}
    {timed : List (BenchmarkRequest × Rat)} {less more : Metrics}
    (own : ∀ request state result after, system.process request state = .ok result after →
      ∀ name ∈ agenticMetricNames, result.extraMetrics.get? name = none)
    (own' : ∀ request state result after, other.process request state = .ok result after →
      ∀ name ∈ agenticMetricNames, result.extraMetrics.get? name = none)
    (positive : ∀ request state result after, system.process request state = .ok result after →
      1 ≤ result.latencyMs)
    (each : ∀ results results' after after',
      Run system.process system.start (timed.map Prod.fst) results after →
      Run other.process other.start (timed.map Prod.fst) results' after' →
      List.Forall₂ (fun result result' => result.latencyMs ≤ result'.latencyMs) results results')
    (returned : runSystem system timed = .ok less) (returned' : runSystem other timed = .ok more)
    (agentic : ∃ request ∈ timed, ∃ key, workflowKey request.1 = .ok (some key)) :
    NoSlower less more := by
  obtain ⟨_, results, after, run, -, times, -⟩ := agentic_run own returned agentic
  obtain ⟨_, results', after', run', -, times', -⟩ := agentic_run own' returned' agentic
  have le := each results results' after after' run run'
  have answers : results.length = timed.length := by rw [run.length_eq, List.length_map]
  have atLeast : ∀ result ∈ results, 1 ≤ result.latencyMs := by
    intro result listed
    obtain ⟨request, -, _, _, answered⟩ := run.mem_replies listed
    exact positive _ _ _ _ answered
  have atLeast' : ∀ result ∈ results', 0 ≤ result.latencyMs := by
    intro result listed
    obtain ⟨i, inside, rfl⟩ := List.mem_iff_getElem.mp listed
    have inside' : i < results.length := le.length_eq ▸ inside
    exact zero_le_one.trans ((atLeast _ (List.getElem_mem inside')).trans (le.get inside' inside))
  have here := latenciesOf_eq answers fun result listed =>
    zero_le_one.trans (atLeast result listed)
  have there := latenciesOf_eq (le.length_eq.symm.trans answers) atLeast'
  refine noSlower own own' returned returned' agentic ?_ ?_
  · rw [times, times', here, there, List.forall₂_map_left_iff, List.forall₂_map_right_iff]
    exact le
  · rw [times, here]
    intro x among
    obtain ⟨result, listed, rfl⟩ := List.mem_map.mp among
    exact zero_lt_one.trans_le (atLeast result listed)

end BenchmarkRunner

end IntelliL3
