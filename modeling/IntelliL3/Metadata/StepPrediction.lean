import IntelliL3.Metadata.StepOrder

/-! # The next steps

`predict_next_steps` offers the pending children of the current step, or the pending steps
that follow it when it has none. Whatever the graph went through, what it offers follows
the current step in its own workflow.
-/

namespace IntelliL3

open Lib

/-- Where nothing is repeated, a tail is what has the larger indices. -/
theorem drop_eq_filter_idxOf {l : List String} (distinct : l.Nodup) (n : Nat) :
    l.drop n = l.filter fun id => n ≤ l.idxOf id := by
  induction l generalizing n with
  | nil => simp only [List.drop_nil, List.filter_nil]
  | cons head tail ih =>
      obtain ⟨outside, inside⟩ := List.nodup_cons.mp distinct
      cases n with
      | zero =>
          refine (List.filter_eq_self.mpr fun id _ => ?_).symm
          exact decide_eq_true (Nat.zero_le _)
      | succ n =>
          rw [List.drop_succ_cons, ih inside, List.filter_cons_of_neg]
          · refine List.filter_congr fun id member => ?_
            have other : head ≠ id := fun same => outside (same ▸ member)
            rw [List.idxOf_cons_ne _ other]
            exact decide_eq_decide.mpr Nat.succ_le_succ_iff.symm
          · rw [List.idxOf_cons_self, decide_eq_true_eq]
            exact Nat.not_succ_le_zero n

namespace AgentStepGraph

/-! ## The steps to come -/

/-- `later` comes after the step in the order of the workflow. -/
def Follows (graph : AgentStepGraph) (workflowId stepId later : String) : Prop :=
  later ∈ graph.workflowStepIds workflowId ∧
    (graph.workflowStepIds workflowId).idxOf stepId <
      (graph.workflowStepIds workflowId).idxOf later

instance (graph : AgentStepGraph) (workflowId stepId later : String) :
    Decidable (graph.Follows workflowId stepId later) :=
  inferInstanceAs (Decidable (_ ∧ _))

/-- The pending steps that follow a step, in the order of the workflow. -/
def pendingAfter (graph : AgentStepGraph) (workflowId stepId : String) : List String :=
  (graph.workflowStepIds workflowId).filter fun id =>
    decide (graph.Follows workflowId stepId id) && graph.isPending id

/-- The pending children of a step, in the order `added` of the steps. -/
def pendingChildren (graph : AgentStepGraph) (added : List String) (stepId : String) :
    List String :=
  added.filter fun id =>
    (graph.steps.get? id).any (·.parentStepId = some stepId) && graph.isPending id

/-- What is offered after a step: its pending children, or else what follows it. -/
def nextSteps (graph : AgentStepGraph) (added : List String) (workflowId stepId : String) :
    List String :=
  if graph.pendingChildren added stepId = [] then graph.pendingAfter workflowId stepId
  else graph.pendingChildren added stepId

variable {graph : AgentStepGraph}

theorem mem_pendingAfter {w cur id : String} :
    id ∈ graph.pendingAfter w cur ↔ graph.Follows w cur id ∧ graph.isPending id := by
  unfold pendingAfter
  rw [List.mem_filter, Bool.and_eq_true, decide_eq_true_eq]
  exact ⟨fun member => member.2, fun later => ⟨later.1.1, later⟩⟩

theorem mem_pendingChildren {added : List String} {cur id : String} :
    id ∈ graph.pendingChildren added cur ↔
      id ∈ added ∧ graph.IsParent cur id ∧ graph.isPending id := by
  unfold pendingChildren IsParent
  rw [List.mem_filter, Bool.and_eq_true, Option.any_eq_true]
  simp only [decide_eq_true_eq]

namespace Ordered

theorem mem_workflowStepIds (ordered : Ordered graph) {w id : String} :
    id ∈ graph.workflowStepIds w ↔
      ∃ node, graph.steps.get? id = some node ∧ node.workflowId = w := by
  rw [ordered.workflows, Dict.mem_keysWhere]
  simp only [decide_eq_true_eq]

theorem workflowStepIds_nodup (ordered : Ordered graph) (w : String) :
    (graph.workflowStepIds w).Nodup := by
  rw [ordered.workflows]
  exact graph.steps.keysWhere_nodup _

/-- A child follows its parent in the workflow of both. -/
theorem follows_of_isParent (ordered : Ordered graph) {cur id : String} {node : AgentStepNode}
    (known : graph.steps.get? cur = some node) (link : graph.IsParent cur id) :
    graph.Follows node.workflowId cur id := by
  obtain ⟨parent, child, held, there, same, before⟩ := ordered.wellLinked.before cur id link
  rw [known] at held
  cases held
  exact ⟨ordered.mem_workflowStepIds.mpr ⟨child, there, same.symm⟩, same ▸ before⟩

theorem futureUncompletedSteps_eq (ordered : Ordered graph) {w cur : String}
    (listed : cur ∈ graph.workflowStepIds w) :
    graph.futureUncompletedSteps w cur = .ok (graph.pendingAfter w cur) := by
  unfold futureUncompletedSteps pendingAfter
  change (if cur ∈ graph.workflowStepIds w then
    Except.ok (((graph.workflowStepIds w).drop _).filter graph.isPending) else _) = _
  rw [if_pos listed, drop_eq_filter_idxOf (ordered.workflowStepIds_nodup w), List.filter_filter]
  refine congrArg Except.ok (List.filter_congr fun id member => ?_)
  rw [Bool.and_comm]
  exact congrArg (· && _) (decide_eq_decide.mpr (and_iff_right member).symm)

theorem childStepIds_filter (ordered : Ordered graph) {cur : String} {node : AgentStepNode}
    (known : graph.steps.get? cur = some node) :
    node.childStepIds.filter graph.isPending = graph.pendingChildren graph.steps.keys cur := by
  rw [ordered.children cur node known, Dict.keysWhere, List.filter_filter]
  exact List.filter_congr fun id _ => Bool.and_comm _ _

/-- A known step is told the first of its next steps. -/
theorem predictNextSteps_eq (ordered : Ordered graph) {cur : String} {node : AgentStepNode}
    (known : graph.steps.get? cur = some node) (topK : Int) :
    graph.predictNextSteps node.workflowId cur topK =
      .ok ((graph.nextSteps graph.steps.keys node.workflowId cur).take topK.toNat) := by
  unfold predictNextSteps
  split
  · next none =>
      rw [Int.toNat_of_nonpos none, List.take_zero]
      rfl
  · have listed := ordered.mem_workflowStepIds.mpr ⟨node, known, rfl⟩
    simp only [requireStep, known, bind, Except.bind]
    rw [if_neg (not_not_intro rfl), ordered.childStepIds_filter known,
      ordered.futureUncompletedSteps_eq listed, nextSteps]
    simp only [List.isEmpty_iff]
    split <;> rfl

theorem mem_nextSteps (ordered : Ordered graph) {cur id : String} {node : AgentStepNode}
    (known : graph.steps.get? cur = some node)
    (member : id ∈ graph.nextSteps graph.steps.keys node.workflowId cur) :
    graph.Follows node.workflowId cur id ∧ graph.isPending id := by
  unfold nextSteps at member
  split at member
  · exact mem_pendingAfter.mp member
  · obtain ⟨-, link, pending⟩ := mem_pendingChildren.mp member
    exact ⟨ordered.follows_of_isParent known link, pending⟩

theorem nextSteps_nodup (ordered : Ordered graph) (w cur : String) :
    (graph.nextSteps graph.steps.keys w cur).Nodup := by
  unfold nextSteps
  split
  · exact (ordered.workflowStepIds_nodup w).filter _
  · exact graph.steps.keys_nodup.filter _

/-- There is a next step as soon as a pending step follows. -/
theorem nextSteps_eq_nil_iff (ordered : Ordered graph) {cur : String} {node : AgentStepNode}
    (known : graph.steps.get? cur = some node) :
    graph.nextSteps graph.steps.keys node.workflowId cur = [] ↔
      ∀ id, graph.Follows node.workflowId cur id → ¬ graph.isPending id := by
  constructor
  · intro nothing id later pending
    unfold nextSteps at nothing
    split at nothing
    · have member := mem_pendingAfter.mpr ⟨later, pending⟩
      rw [nothing] at member
      cases member
    · next some => exact some nothing
  · intro done
    refine List.eq_nil_iff_forall_not_mem.mpr fun id member => ?_
    obtain ⟨later, pending⟩ := ordered.mem_nextSteps known member
    exact done id later pending

end Ordered

/-! ## The prediction -/

/-- What the first `topK` next steps of a step are, in a graph whose steps were added in
    this order. -/
structure Predicted (graph : AgentStepGraph) (added : List String) (workflowId stepId : String)
    (topK : Int) (result : List String) : Prop where
  atMost : (result.length : Int) ≤ max topK 0
  distinct : result.Nodup
  later : ∀ id ∈ result, graph.isPending id ∧ graph.Follows workflowId stepId id ∧
    ∃ node, graph.getStep id = some node ∧ node.workflowId = workflowId
  children : graph.pendingChildren added stepId ≠ [] →
    result = (graph.pendingChildren added stepId).take topK.toNat
  others : graph.pendingChildren added stepId = [] →
    result = (graph.pendingAfter workflowId stepId).take topK.toNat
  nothing : result = [] ↔
    topK ≤ 0 ∨ ∀ id, graph.Follows workflowId stepId id → ¬ graph.isPending id

theorem Ordered.predicted (ordered : Ordered graph) {cur : String} {node : AgentStepNode}
    (known : graph.steps.get? cur = some node) (topK : Int) :
    Predicted graph graph.steps.keys node.workflowId cur topK
      ((graph.nextSteps graph.steps.keys node.workflowId cur).take topK.toNat) where
  atMost := by
    rw [← Int.ofNat_toNat]
    exact Int.ofNat_le.mpr (List.length_take_le _ _)
  distinct := (ordered.nextSteps_nodup _ _).sublist (List.take_sublist _ _)
  later id member := by
    obtain ⟨later, pending⟩ := ordered.mem_nextSteps known (List.mem_of_mem_take member)
    exact ⟨pending, later, ordered.mem_workflowStepIds.mp later.1⟩
  children some := by rw [nextSteps, if_neg some]
  others none := by rw [nextSteps, if_pos none]
  nothing := by
    rw [List.take_eq_nil_iff, Int.toNat_eq_zero, ordered.nextSteps_eq_nil_iff known]

end AgentStepGraph

open AgentStepGraph in
/-- After every history, a step of a workflow is told its first pending children, or the
    first pending steps that follow it, and asking for one more only adds at the end. -/
theorem predict_next_steps_exact (calls : List StepGraphCall) {cur : String}
    {node : AgentStepNode}
    (known : (drive AgentStepGraph.exec .empty calls).getStep cur = some node) (topK : Int) :
    ∃ result more,
      (drive AgentStepGraph.exec .empty calls).predictNextSteps node.workflowId cur topK =
        .ok result ∧
      Predicted (drive AgentStepGraph.exec .empty calls) (insertionOrder .empty calls)
        node.workflowId cur topK result ∧
      (drive AgentStepGraph.exec .empty calls).predictNextSteps node.workflowId cur (topK + 1) =
        .ok more ∧
      result <+: more := by
  obtain ⟨ordered, keys⟩ := Ordered.empty.drive calls
  refine ⟨_, _, ordered.predictNextSteps_eq known topK, ?_,
    ordered.predictNextSteps_eq known (topK + 1), ?_⟩
  · have added : insertionOrder .empty calls =
        (drive AgentStepGraph.exec .empty calls).steps.keys := keys.symm
    rw [added]
    exact ordered.predicted known topK
  · exact List.take_prefix_take_left (Int.toNat_le_toNat (by omega))

theorem predict_next_steps_exact_branching :
    ∃ result more,
      (drive AgentStepGraph.exec .empty
          [.addStep "w" "a" "x" none 0, .addStep "w" "b" "x" none 0,
            .addStep "w" "c" "y" (some "a") 0]).predictNextSteps "w" "a" 1 = .ok result ∧
      AgentStepGraph.Predicted
        (drive AgentStepGraph.exec .empty
          [.addStep "w" "a" "x" none 0, .addStep "w" "b" "x" none 0,
            .addStep "w" "c" "y" (some "a") 0])
        (AgentStepGraph.insertionOrder .empty
          [.addStep "w" "a" "x" none 0, .addStep "w" "b" "x" none 0,
            .addStep "w" "c" "y" (some "a") 0])
        "w" "a" 1 result ∧
      (drive AgentStepGraph.exec .empty
          [.addStep "w" "a" "x" none 0, .addStep "w" "b" "x" none 0,
            .addStep "w" "c" "y" (some "a") 0]).predictNextSteps "w" "a" (1 + 1) = .ok more ∧
      result <+: more :=
  @predict_next_steps_exact _ "a" ⟨"w", "a", "x", none, false, ["c"], 0⟩ rfl 1

end IntelliL3
