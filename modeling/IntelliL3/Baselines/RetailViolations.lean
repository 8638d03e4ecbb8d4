import IntelliL3.Baselines.RetailSteps

/-! # Policy violations of tracked workflows

A workflow that submits a refund before it calculates one is told so by one request, the one that
submits it. So the violations that are told are as many as the workflows that violate the policy.
-/

namespace IntelliL3

open Lib

open RetailEndStateValidator

namespace RetailWorkflowMetricsTracker

variable [PyBuiltins] {self after : RetailWorkflowMetricsTracker} {request : BenchmarkRequest}
  {metrics : Dict String Rat}

/-- Contexts that are sound, and know of a violation when there is one. -/
structure Counted (context : WorkflowContext) : Prop extends Sound context where
  violation : context.prevPolicyViolation = submitsWithoutCalculate context.tools

def AllCounted (self : RetailWorkflowMetricsTracker) : Prop :=
  ∀ workflowId context, self.contexts.get? workflowId = some context → Counted context

theorem AllCounted.sound (counted : AllCounted self) : AllSound self :=
  fun workflowId context held => (counted workflowId context held).toSound

theorem AllCounted.contextFor (counted : AllCounted self) {workflowId taskId : String}
    {context : WorkflowContext} (found : self.contextFor workflowId taskId = .ok context) :
    Counted context ∧ (self.contexts.get? workflowId = some context ∨
      self.contexts.get? workflowId = none ∧ context.tools = []) := by
  refine ⟨⟨counted.sound.contextFor found, ?_⟩, ?_⟩ <;>
    unfold RetailWorkflowMetricsTracker.contextFor at found <;> split at found
  · next known =>
      cases found
      exact (counted workflowId _ known).violation
  · obtain ⟨task, -, same⟩ := bind_eq_ok.mp found
    cases same
    rfl
  · next known =>
      cases found
      exact Or.inl known
  · next absent =>
      obtain ⟨task, -, same⟩ := bind_eq_ok.mp found
      cases same
      exact Or.inr ⟨absent, rfl⟩

/-- A violation that is told is a new one. -/
theorem Told.event {before context : WorkflowContext} (told : Told request before context metrics)
    (counted : Counted before) (sound : Sound context) : Counted context ∧
      (metrics.get? "policy_violation_rate").getD 0 +
          indicator (submitsWithoutCalculate before.tools) =
        indicator (submitsWithoutCalculate context.tools) := by
  obtain ⟨score, milestones, clean, -, violation, -, rfl, prev⟩ := told.scored
  obtain ⟨toolName, -, tools⟩ := told.tools
  refine ⟨⟨sound, by rw [prev, violation, clean.violation]⟩, ?_⟩
  rw [(metricsOf_get? before score).1, Option.getD_some, violation, clean.violation,
    counted.violation]
  cases violated : submitsWithoutCalculate before.tools with
  | false => rw [Bool.not_false, Bool.and_true]; exact add_zero _
  | true =>
      rw [tools, submitsWithoutCalculate_append violated]
      exact zero_add _

/-- How many workflows violate the policy, as a number. -/
def violations (self : RetailWorkflowMetricsTracker) : Rat :=
  self.contexts.total fun context => indicator (submitsWithoutCalculate context.tools)

theorem Tracked.counts {workflowId : String} (counted : AllCounted self)
    (tracked : Tracked self request metrics after workflowId) : AllCounted after ∧
      (metrics.get? "policy_violation_rate").getD 0 + self.violations = after.violations := by
  obtain ⟨-, taskId, before, context, -, known, told, sound, rfl⟩ := tracked
  obtain ⟨held, place⟩ := counted.contextFor known
  obtain ⟨kept, event⟩ := told.event held sound
  constructor
  · intro other context' found
    rw [setContext, Dict.get?_set] at found
    split at found
    · cases found
      exact kept
    · exact counted other context' found
  · rcases place with present | ⟨absent, none⟩
    · obtain ⟨rest, old, new⟩ := Dict.total_set_present present
        fun context : WorkflowContext => indicator (submitsWithoutCalculate context.tools)
      rw [violations, violations, setContext, new, old, ← event, add_left_comm]
    · rw [none] at event
      rw [violations, violations, setContext, Dict.total_set_absent absent, ← event]
      exact (add_comm _ _).trans (congrArg _ (add_zero _).symm)

theorem run_violations {requests : List BenchmarkRequest} {replies : List (Dict String Rat)}
    (run : Run metricsForRequest self requests replies after) (counted : AllCounted self) :
    (replies.map fun metrics => (metrics.get? "policy_violation_rate").getD 0).sum +
      self.violations = after.violations := by
  induction run with
  | nil => exact zero_add _
  | @cons s s' s'' request metrics requests replies told _ ih =>
      have step := metricsForRequest_run counted.sound request
      rw [told] at step
      rcases step with ⟨-, rfl, rfl⟩ | ⟨workflowId, tracked⟩
      · rw [List.map_cons, List.sum_cons, Dict.get?_empty, Option.getD_none, zero_add]
        exact ih counted
      · obtain ⟨later, event⟩ := tracked.counts counted
        rw [List.map_cons, List.sum_cons, add_right_comm, event, add_comm]
        exact ih later

/-- The tools that the requests of a workflow name. -/
def toolsOf (workflowId : String) (requests : List BenchmarkRequest) : List String :=
  ((callsOf workflowOf workflowId requests).filterMap fun request =>
    (request.text "tool_name").toOption).filter (· ≠ "")

/-- The tools that were executed in a workflow. -/
def toolsIn (self : RetailWorkflowMetricsTracker) (workflowId : String) : List String :=
  ((self.contexts.get? workflowId).map WorkflowContext.tools).getD []

theorem Tracked.toolsIn {workflowId : String} (counted : AllCounted self)
    (tracked : Tracked self request metrics after workflowId) (other : String) :
    after.toolsIn other = self.toolsIn other ++ toolsOf other [request] := by
  obtain ⟨mine, taskId, before, context, -, known, told, -, rfl⟩ := tracked
  obtain ⟨toolName, named, tools⟩ := told.tools
  rw [RetailWorkflowMetricsTracker.toolsIn, setContext, Dict.get?_set, toolsOf, callsOf]
  split
  · next same =>
      subst same
      have executed : self.toolsIn workflowId = before.tools := by
        rw [RetailWorkflowMetricsTracker.toolsIn]
        rcases (counted.contextFor known).2 with present | ⟨absent, none⟩
        · rw [present]
          rfl
        · rw [absent, none]
          rfl
      rw [Option.map_some, Option.getD_some, tools, executed, List.filter_cons_of_pos
        (by simpa using mine), List.filterMap_cons, named]
      by_cases missing : toolName = "" <;> simp [missing, Except.toOption]
  · next apart =>
      have others : ¬ workflowOf request = some other := by
        rw [mine, Option.some.injEq]
        exact apart
      rw [List.filter_cons_of_neg (by simpa using others)]
      exact (List.append_nil _).symm

theorem run_toolsIn {requests : List BenchmarkRequest} {replies : List (Dict String Rat)}
    (run : Run metricsForRequest self requests replies after) (counted : AllCounted self)
    (workflowId : String) :
    after.toolsIn workflowId = self.toolsIn workflowId ++ toolsOf workflowId requests := by
  induction run with
  | nil => exact (List.append_nil _).symm
  | @cons s s' s'' request metrics requests replies told _ ih =>
      have step := metricsForRequest_run counted.sound request
      rw [told] at step
      have split : toolsOf workflowId (request :: requests) =
          toolsOf workflowId [request] ++ toolsOf workflowId requests := by
        rw [toolsOf, callsOf, ← List.singleton_append, List.filter_append, List.filterMap_append,
          List.filter_append]
        rfl
      rcases step with ⟨none, -, rfl⟩ | ⟨_, tracked⟩
      · rw [ih counted, split]
        have untold : toolsOf workflowId [request] = [] := by
          rw [toolsOf, callsOf, List.filter_cons_of_neg (by simp [none])]
          rfl
        rw [untold, List.nil_append]
      · rw [ih (tracked.counts counted).1, tracked.toolsIn counted, split, List.append_assoc]

omit [PyBuiltins] in
theorem total_indicator (holds : WorkflowContext → Bool) (contexts : Dict String WorkflowContext) :
    (contexts.total fun context => indicator (holds context)) =
      (contexts.keysWhere holds).length := by
  rw [Dict.total_eq, Dict.length_keysWhere]
  induction contexts.entries with
  | nil => rfl
  | cons row rest ih =>
      rw [List.map_cons, List.sum_cons, ih, List.countP_cons, Nat.cast_add, add_comm]
      cases holds row.2 <;> rfl

/-- The workflows of some requests that violate the policy: they submit a refund before they
    calculate one. -/
def violatingWorkflows (requests : List BenchmarkRequest) : List String :=
  (requests.filterMap workflowOf).dedup.filter fun workflowId =>
    submitsWithoutCalculate (toolsOf workflowId requests)

theorem mem_violatingWorkflows {requests : List BenchmarkRequest} {workflowId : String} :
    workflowId ∈ violatingWorkflows requests ↔
      submitsWithoutCalculate (toolsOf workflowId requests) = true := by
  rw [violatingWorkflows, List.mem_filter, and_iff_right_iff_imp, List.mem_dedup,
    List.mem_filterMap]
  intro violated
  by_contra none
  have untold : callsOf workflowOf workflowId requests = [] := by
    refine List.filter_eq_nil_iff.mpr fun request member tracked => none ?_
    exact ⟨request, member, of_decide_eq_true tracked⟩
  rw [toolsOf, untold] at violated
  cases violated

/-- However workflows are interleaved, every one that violates the policy is counted once. -/
theorem policy_violations_counted_once {profile : String} {validator : RetailEndStateValidator}
    {toolkit : RetailToolKit} {fresh : RetailWorkflowMetricsTracker}
    (built : new profile validator toolkit = .ok fresh) {requests : List BenchmarkRequest}
    {replies : List (Dict String Rat)}
    (run : Run metricsForRequest fresh requests replies after) :
    (replies.map fun metrics => (metrics.get? "policy_violation_rate").getD 0).sum =
      (violatingWorkflows requests).length := by
  have empty : fresh.contexts = .empty := by
    unfold new at built
    split at built <;> cases built <;> rfl
  have start : AllCounted fresh := by
    intro workflowId context held
    rw [empty] at held
    cases held
  have counted := run_violations run start
  have none : fresh.violations = 0 := by
    rw [violations, empty]
    rfl
  rw [none, add_zero, violations, total_indicator] at counted
  have same : (after.contexts.keysWhere fun context => submitsWithoutCalculate context.tools).Perm
      (violatingWorkflows requests) := by
    refine (List.perm_ext_iff_of_nodup (Dict.keysWhere_nodup _ _)
      ((List.nodup_dedup _).filter _)).mpr fun workflowId => ?_
    change _ ↔ workflowId ∈ violatingWorkflows requests
    have executed := run_toolsIn run start workflowId
    have untold : fresh.toolsIn workflowId = [] := by
      rw [toolsIn, empty]
      rfl
    rw [untold, List.nil_append] at executed
    rw [Dict.mem_keysWhere, mem_violatingWorkflows, ← executed, toolsIn]
    cases after.contexts.get? workflowId with
    | none => simp [show submitsWithoutCalculate [] = false from rfl]
    | some context => simp
  rw [counted, same.length_eq]

end RetailWorkflowMetricsTracker

namespace RetailWorkflowMetricsTracker

open Reference

theorem violation_counted_of_submissions : ∃ replies : List (Dict String Rat),
    (replies.map fun metrics => (metrics.get? "policy_violation_rate").getD 0).sum =
      (violatingWorkflows [submission "a", submission "b", submission "a"]).length :=
  ⟨_, policy_violations_counted_once (show new "candidate" refundTasks noOrders = .ok _ from rfl)
    (.cons rfl (.cons rfl (.cons rfl (.nil _))))⟩

end RetailWorkflowMetricsTracker

end IntelliL3
