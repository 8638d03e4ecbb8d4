import IntelliL3.Baselines.RetailViolations

/-! # What the profiles of arguments can change

What a workflow is told of its tools and its milestones is decided by the names of its tools, and
both profiles use the same ones: they differ in outcomes only.
-/

namespace IntelliL3

open Lib

open RetailEndStateValidator

namespace RetailWorkflowMetricsTracker

variable [PyBuiltins] {self after : RetailWorkflowMetricsTracker} {request : BenchmarkRequest}
  {metrics : Dict String Rat}

/-- What the names of the tools decide. -/
def milestoneMetrics : List String :=
  ["policy_violation_rate", "tool_use_accuracy", "tool_arg_error_count", "milestone_pass_rate"]

def SameMilestones (metrics metrics' : Dict String Rat) : Prop :=
  ∀ name ∈ milestoneMetrics, metrics.get? name = metrics'.get? name

/-- Trackers whose workflows have come equally far, whatever the tools did. -/
structure Alike (first second : RetailWorkflowMetricsTracker) : Prop where
  counted : AllCounted first
  counted' : AllCounted second
  validator : first.validator = second.validator
  workflows : ∀ workflowId,
    (first.contexts.get? workflowId).map (fun context => (context.task, context.tools)) =
      (second.contexts.get? workflowId).map fun context => (context.task, context.tools)

variable {self' after' : RetailWorkflowMetricsTracker} {metrics' : Dict String Rat}

theorem Alike.contextFor (alike : Alike self self') {workflowId taskId : String}
    {context context' : WorkflowContext} (found : self.contextFor workflowId taskId = .ok context)
    (found' : self'.contextFor workflowId taskId = .ok context') :
    context.task = context'.task ∧ context.tools = context'.tools := by
  have same := alike.workflows workflowId
  unfold RetailWorkflowMetricsTracker.contextFor at found found'
  rw [alike.validator] at found
  cases known : self.contexts.get? workflowId with
  | some held =>
      cases known' : self'.contexts.get? workflowId with
      | none =>
          rw [known, known'] at same
          cases same
      | some held' =>
          rw [known, known', Option.map_some, Option.map_some, Option.some.injEq,
            Prod.mk.injEq] at same
          rw [known] at found
          rw [known'] at found'
          cases found
          cases found'
          exact same
  | none =>
      cases known' : self'.contexts.get? workflowId with
      | some held' =>
          rw [known, known'] at same
          cases same
      | none =>
          rw [known] at found
          rw [known'] at found'
          obtain ⟨task, loaded, new⟩ := bind_eq_ok.mp found
          obtain ⟨task', loaded', new'⟩ := bind_eq_ok.mp found'
          rw [loaded, Except.ok.injEq] at loaded'
          subst loaded'
          cases new
          cases new'
          exact ⟨rfl, rfl⟩

/-- Contexts that have come equally far are told the same milestones. -/
theorem Told.same {before before' context context' : WorkflowContext}
    (told : Told request before context metrics) (told' : Told request before' context' metrics')
    (counted : Counted before) (counted' : Counted before') (task : before.task = before'.task)
    (tools : before.tools = before'.tools) : SameMilestones metrics metrics' ∧
      context.task = context'.task ∧ context.tools = context'.tools := by
  obtain ⟨toolName, named, listed⟩ := told.tools
  obtain ⟨toolName', named', listed'⟩ := told'.tools
  rw [named, Except.ok.injEq] at named'
  subst named'
  have sameTask : context.task = context'.task := by rw [told.task, told'.task, task]
  have sameTools : context.tools = context'.tools := by rw [listed, listed', tools]
  refine ⟨?_, sameTask, sameTools⟩
  obtain ⟨score, milestones, clean, errors, violation, rate, rfl, -⟩ := told.scored
  obtain ⟨score', milestones', clean', errors', violation', rate', rfl, -⟩ := told'.scored
  rw [← sameTask, ← sameTools] at clean'
  have sameErrors : score.toolArgErrorCount = score'.toolArgErrorCount := by
    rw [errors, errors', clean.noErrors, clean'.noErrors]
  have sameViolation : score.policyViolation = score'.policyViolation := by
    rw [violation, violation', clean.violation, clean'.violation]
  have sameRate : score.milestonePassRate = score'.milestonePassRate := by
    obtain ⟨required, listed, passed⟩ := clean.passed
    obtain ⟨required', listed', passed'⟩ := clean'.passed
    rw [listed, Except.ok.injEq] at listed'
    subst listed'
    rw [rate, rate', passed, passed']
  have samePrev : before.prevPolicyViolation = before'.prevPolicyViolation := by
    rw [counted.violation, counted'.violation, tools]
  obtain ⟨policy, accuracy, count, pass⟩ := metricsOf_get? before score
  obtain ⟨policy', accuracy', count', pass'⟩ := metricsOf_get? before' score'
  intro name listed
  simp only [milestoneMetrics, List.mem_cons, List.not_mem_nil, or_false] at listed
  rcases listed with rfl | rfl | rfl | rfl
  · rw [policy, policy', sameViolation, samePrev]
  · rw [accuracy, accuracy', sameErrors, counted.noErrors, counted'.noErrors]
  · rw [count, count', sameErrors, counted.noErrors, counted'.noErrors]
  · rw [pass, pass', sameRate]

theorem Alike.step (alike : Alike self self')
    (told : metricsForRequest request self = .ok metrics after)
    (told' : metricsForRequest request self' = .ok metrics' after') :
    SameMilestones metrics metrics' ∧ Alike after after' := by
  have ran := metricsForRequest_run alike.counted.sound request
  have ran' := metricsForRequest_run alike.counted'.sound request
  rw [told] at ran
  rw [told'] at ran'
  rcases ran with ⟨none, rfl, rfl⟩ | ⟨workflowId, tracked⟩
  · rcases ran' with ⟨-, rfl, rfl⟩ | ⟨workflowId, tracked⟩
    · exact ⟨fun name _ => rfl, alike⟩
    · rw [tracked.tracked] at none
      cases none
  · rcases ran' with ⟨none, -⟩ | ⟨workflowId', tracked'⟩
    · rw [tracked.tracked] at none
      cases none
    · have kept := (tracked.counts alike.counted).1
      have kept' := (tracked'.counts alike.counted').1
      obtain ⟨mine, taskId, before, context, address, known, heard, -, rfl⟩ := tracked
      obtain ⟨mine', taskId', before', context', address', known', heard', -, rfl⟩ := tracked'
      rw [address, Except.ok.injEq, Option.some.injEq, Prod.mk.injEq] at address'
      obtain ⟨rfl, rfl⟩ := address'
      obtain ⟨task, tools⟩ := alike.contextFor known known'
      obtain ⟨same, sameTask, sameTools⟩ := heard.same heard'
        (alike.counted.contextFor known).1 (alike.counted'.contextFor known').1 task tools
      refine ⟨same, kept, kept', alike.validator, fun other => ?_⟩
      rw [setContext, setContext, Dict.get?_set, Dict.get?_set]
      split
      · rw [Option.map_some, Option.map_some, sameTask, sameTools]
      · exact alike.workflows other

/-- On any requests of any workflows the two profiles are told the same milestones: what one
    does better than the other is in the outcomes. -/
theorem profiles_agree_on_milestones {profile profile' : String}
    {validator : RetailEndStateValidator} {toolkit : RetailToolKit}
    {fresh fresh' : RetailWorkflowMetricsTracker}
    (built : new profile validator toolkit = .ok fresh)
    (built' : new profile' validator toolkit = .ok fresh') {requests : List BenchmarkRequest}
    {replies replies' : List (Dict String Rat)}
    (run : Run metricsForRequest fresh requests replies after)
    (run' : Run metricsForRequest fresh' requests replies' after') :
    List.Forall₂ SameMilestones replies replies' := by
  have start : ∀ {profile fresh}, new profile validator toolkit = .ok fresh →
      fresh.validator = validator ∧ fresh.contexts = .empty := by
    intro profile fresh built
    unfold new at built
    split at built <;> cases built <;> exact ⟨rfl, rfl⟩
  have counted : ∀ {self : RetailWorkflowMetricsTracker}, self.contexts = .empty →
      AllCounted self := by
    intro self empty workflowId context held
    rw [empty] at held
    cases held
  obtain ⟨validates, empty⟩ := start built
  obtain ⟨validates', empty'⟩ := start built'
  have start : Alike fresh fresh' := by
    refine ⟨counted empty, counted empty', validates.trans validates'.symm, fun workflowId => ?_⟩
    rw [empty, empty']
  exact (Run.related (fun _ _ _ _ _ _ _ alike told told' => alike.step told told') run run'
    start).1

end RetailWorkflowMetricsTracker

namespace RetailWorkflowMetricsTracker

open Reference

theorem profiles_agree_on_submissions : ∃ replies replies' : List (Dict String Rat),
    replies.length = 2 ∧ List.Forall₂ SameMilestones replies replies' := by
  have told : ∀ profile : RetailProfile, ∃ replies after, replies.length = 2 ∧
      Run metricsForRequest ⟨profile, refundTasks, noOrders, .empty⟩
        [submission "a", submission "b"] replies after := by
    rintro (_ | _) <;> exact ⟨_, _, rfl, .cons rfl (.cons rfl (.nil _))⟩
  obtain ⟨replies, _, length, run⟩ := told .baseline
  obtain ⟨replies', _, -, run'⟩ := told .candidate
  exact ⟨replies, replies', length, profiles_agree_on_milestones
    (show new "baseline" _ _ = .ok _ from rfl) (show new "candidate" _ _ = .ok _ from rfl)
    run run'⟩

end RetailWorkflowMetricsTracker

end IntelliL3
