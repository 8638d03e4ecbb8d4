import IntelliL3.Metadata.StepPrediction

/-! # The distance to execution

`steps_to_execution` counts the pending steps up to the next one of an agent. A new step
comes last and leaves the count alone; a completed step takes itself out of it, and can
only bring the agent's turn nearer.
-/

namespace IntelliL3

open Lib

/-- One element less, where nothing is repeated. -/
theorem length_filter_ne_succ {l : List String} (distinct : l.Nodup) {id : String}
    (member : id ∈ l) : (l.filter (· ≠ id)).length + 1 = l.length := by
  have erased : l.erase id = l.filter (· ≠ id) := by
    rw [distinct.erase_eq_filter]
    exact List.filter_congr fun other _ => by rw [Bool.eq_iff_iff]; simp
  rw [← erased, List.length_erase_of_mem member]
  exact Nat.succ_pred_eq_of_pos (List.length_pos_of_mem member)

namespace AgentStepGraph

/-- Whether the step is one of the agent. -/
def isOf (graph : AgentStepGraph) (agentId stepId : String) : Bool :=
  (graph.steps.get? stepId).any (·.agentId = agentId)

/-- The first pending step of the agent after a step. -/
def nextOf (graph : AgentStepGraph) (workflowId stepId agentId : String) : Option String :=
  (graph.pendingAfter workflowId stepId).find? (graph.isOf agentId)

variable {graph : AgentStepGraph}

/-! ## Counting up to a step -/

theorem distanceTo_reached {agentId hit : String} {before : List String}
    (skipped : ∀ id ∈ before, ¬ graph.isOf agentId id) (reached : graph.isOf agentId hit)
    (distance : Nat) (rest : List String) :
    graph.distanceTo agentId distance (before ++ hit :: rest) =
      some (distance + before.length) := by
  induction before generalizing distance with
  | nil =>
      rw [List.nil_append, distanceTo]
      exact if_pos reached
  | cons head tail ih =>
      obtain ⟨other, others⟩ := List.forall_mem_cons.mp skipped
      rw [List.cons_append, distanceTo]
      refine (if_neg other).trans ?_
      rw [ih others, List.length_cons, Nat.add_right_comm, Nat.add_assoc]

theorem distanceTo_unreached {agentId : String} {stepIds : List String}
    (skipped : ∀ id ∈ stepIds, ¬ graph.isOf agentId id) (distance : Nat) :
    graph.distanceTo agentId distance stepIds = none := by
  induction stepIds generalizing distance with
  | nil => rfl
  | cons head tail ih =>
      obtain ⟨other, others⟩ := List.forall_mem_cons.mp skipped
      rw [distanceTo]
      exact (if_neg other).trans (ih others _)

/-- The next step of an agent stands behind pending steps of others. -/
theorem nextOf_eq_some_iff {w cur agentId hit : String} :
    graph.nextOf w cur agentId = some hit ↔
      graph.isOf agentId hit ∧ ∃ before rest,
        graph.pendingAfter w cur = before ++ hit :: rest ∧
          ∀ id ∈ before, ¬ graph.isOf agentId id := by
  rw [nextOf, List.find?_eq_some_iff_append]
  simp only [Bool.not_eq_true, Bool.not_eq_eq_eq_not, Bool.not_true]

theorem nextOf_eq_none_iff {w cur agentId : String} :
    graph.nextOf w cur agentId = none ↔
      ∀ id ∈ graph.pendingAfter w cur, ¬ graph.isOf agentId id := by
  rw [nextOf, List.find?_eq_none]

theorem known_of_pendingAfter {w cur id : String} (member : id ∈ graph.pendingAfter w cur) :
    (graph.steps.get? id).isSome := by
  have pending := (mem_pendingAfter.mp member).2
  unfold isPending at pending
  obtain ⟨node, held, -⟩ := (Option.any_eq_true _ _).mp pending
  rw [held]
  rfl

theorem pendingAfter_sublist (graph : AgentStepGraph) (w cur : String) :
    (graph.pendingAfter w cur).Sublist (graph.workflowStepIds w) :=
  List.filter_sublist

/-! ## What a call does to the pending steps -/

theorem isOf_enter {node : AgentStepNode} (absent : graph.steps.get? node.stepId = none)
    (parents : ∀ p ∈ node.parentStepId, (graph.steps.get? p).isSome) {id : String}
    (known : (graph.steps.get? id).isSome) (agentId : String) :
    (graph.enter node).isOf agentId id = graph.isOf agentId id := by
  obtain ⟨before, held⟩ := Option.isSome_iff_exists.mp known
  unfold isOf
  rw [get?_enter_known absent parents held, held]
  rfl

/-- Completing takes a step out of the pending ones, and nothing else. -/
theorem pendingAfter_complete {stepId : String} {completed : AgentStepNode} (w cur : String) :
    (graph.complete stepId completed).pendingAfter w cur =
      (graph.pendingAfter w cur).filter (· ≠ stepId) := by
  unfold pendingAfter
  rw [List.filter_filter]
  refine List.filter_congr fun id _ => ?_
  have pending : (graph.complete stepId completed).isPending id =
      (decide (id ≠ stepId) && graph.isPending id) := by
    change ((graph.steps.set stepId _).get? id).any _ = _
    rw [Dict.get?_set]
    by_cases same : stepId = id
    · rw [if_pos same]
      simp only [same, ne_eq, not_true, decide_false, Bool.false_and, Option.any_some,
        Bool.not_true]
    · rw [if_neg same, decide_eq_true (Ne.symm same), Bool.true_and, isPending]
  rw [pending]
  exact Bool.and_left_comm _ _ _

theorem isOf_complete {stepId : String} {completed : AgentStepNode}
    (held : graph.steps.get? stepId = some completed) (agentId id : String) :
    (graph.complete stepId completed).isOf agentId id = graph.isOf agentId id := by
  change ((graph.steps.set stepId _).get? id).any _ = _
  rw [Dict.get?_set]
  split
  · next same =>
      rw [isOf, ← same, held]
      rfl
  · rfl

/-- The pending steps and their owners once a call has completed a step, or has not found
    it. -/
structure Completed (graph after : AgentStepGraph) (stepId w cur : String) : Prop where
  ordered : Ordered after
  known : ∃ node, after.steps.get? cur = some node ∧ node.workflowId = w
  pending : after.pendingAfter w cur = (graph.pendingAfter w cur).filter (· ≠ stepId)
  owners : ∀ agentId id, after.isOf agentId id = graph.isOf agentId id

namespace Ordered

/-! ## The steps up to a turn -/

theorem stepsToExecution_eq (ordered : Ordered graph) {cur : String} {node : AgentStepNode}
    (known : graph.steps.get? cur = some node) (agentId : String) :
    graph.stepsToExecution agentId cur =
      .ok (graph.distanceTo agentId 1 (graph.pendingAfter node.workflowId cur)) := by
  unfold stepsToExecution
  simp only [requireStep, known, bind, Except.bind,
    ordered.futureUncompletedSteps_eq (ordered.mem_workflowStepIds.mpr ⟨node, known, rfl⟩)]
  rfl

theorem stepsToExecution_reached (ordered : Ordered graph) {cur : String} {node : AgentStepNode}
    (known : graph.steps.get? cur = some node) {agentId hit : String} {before rest : List String}
    (later : graph.pendingAfter node.workflowId cur = before ++ hit :: rest)
    (skipped : ∀ id ∈ before, ¬ graph.isOf agentId id) (reached : graph.isOf agentId hit) :
    graph.stepsToExecution agentId cur = .ok (some (before.length + 1)) := by
  rw [ordered.stepsToExecution_eq known, later, distanceTo_reached skipped reached, Nat.add_comm]

theorem stepsToExecution_unreached (ordered : Ordered graph) {cur : String}
    {node : AgentStepNode} (known : graph.steps.get? cur = some node) {agentId : String}
    (skipped : ∀ id ∈ graph.pendingAfter node.workflowId cur, ¬ graph.isOf agentId id) :
    graph.stepsToExecution agentId cur = .ok none := by
  rw [ordered.stepsToExecution_eq known, distanceTo_unreached skipped]

/-- A distance is counted up to the next step of the agent. -/
theorem stepsToExecution_eq_some_iff (ordered : Ordered graph) {cur : String}
    {node : AgentStepNode} (known : graph.steps.get? cur = some node) {agentId : String}
    {d : Nat} :
    graph.stepsToExecution agentId cur = .ok (some d) ↔ ∃ hit before rest,
      graph.pendingAfter node.workflowId cur = before ++ hit :: rest ∧
        (∀ id ∈ before, ¬ graph.isOf agentId id) ∧ graph.isOf agentId hit ∧
          d = before.length + 1 := by
  cases next : graph.nextOf node.workflowId cur agentId with
  | none =>
      have skipped := nextOf_eq_none_iff.mp next
      rw [ordered.stepsToExecution_unreached known skipped]
      simp only [Except.ok.injEq, reduceCtorEq, false_iff]
      rintro ⟨hit, before, rest, later, -, reached, -⟩
      refine skipped hit ?_ reached
      rw [later]
      exact List.mem_append_right _ List.mem_cons_self
  | some hit =>
      obtain ⟨reached, before, rest, later, skipped⟩ := nextOf_eq_some_iff.mp next
      constructor
      · intro counted
        rw [ordered.stepsToExecution_reached known later skipped reached, Except.ok.injEq,
          Option.some.injEq] at counted
        exact ⟨hit, before, rest, later, skipped, reached, counted.symm⟩
      · rintro ⟨hit', before', rest', later', skipped', reached', rfl⟩
        exact ordered.stepsToExecution_reached known later' skipped' reached'

/-! ## A new step -/

/-- What followed a step still does, and a new step can only come after it. -/
theorem pendingAfter_enter (ordered : Ordered graph) {node : AgentStepNode}
    (absent : graph.steps.get? node.stepId = none)
    (parents : ∀ p ∈ node.parentStepId, (graph.steps.get? p).isSome) {w cur : String}
    (listed : cur ∈ graph.workflowStepIds w) :
    ∃ more, (graph.enter node).pendingAfter w cur = graph.pendingAfter w cur ++ more := by
  have ids : (graph.enter node).workflowStepIds w =
      graph.workflowStepIds w ++ if node.workflowId = w then [node.stepId] else [] := by
    rw [workflowStepIds, workflowSteps_enter, getD_appendTo, getD_setDefault, workflowStepIds]
  unfold pendingAfter
  rw [ids, List.filter_append]
  refine ⟨_, congrArg (· ++ _) (List.filter_congr fun id member => ?_)⟩
  have follows : (graph.enter node).Follows w cur id ↔ graph.Follows w cur id := by
    unfold Follows
    rw [ids, List.idxOf_append_of_mem listed, List.idxOf_append_of_mem member, List.mem_append,
      or_iff_left_of_imp fun _ => member]
  have pending : (graph.enter node).isPending id = graph.isPending id := by
    obtain ⟨before, held, -⟩ := ordered.mem_workflowStepIds.mp member
    unfold isPending
    rw [get?_enter_known absent parents held, held]
    rfl
  rw [pending, decide_eq_decide.mpr follows]

/-- A new step is behind every step that was counted. -/
theorem stepsToExecution_enter (ordered : Ordered graph) {cur : String} {node : AgentStepNode}
    (known : graph.steps.get? cur = some node) {added : AgentStepNode}
    (absent : graph.steps.get? added.stepId = none) (childless : added.childStepIds = [])
    (linked : ∀ p ∈ added.parentStepId,
      ∃ parent, graph.steps.get? p = some parent ∧ parent.workflowId = added.workflowId)
    {agentId : String} {d : Nat}
    (counted : graph.stepsToExecution agentId cur = .ok (some d)) :
    (graph.enter added).stepsToExecution agentId cur = .ok (some d) := by
  have parents : ∀ p ∈ added.parentStepId, (graph.steps.get? p).isSome := by
    intro p given
    obtain ⟨parent, held, -⟩ := linked p given
    rw [held]
    rfl
  obtain ⟨hit, before, rest, later, skipped, reached, rfl⟩ :=
    (ordered.stepsToExecution_eq_some_iff known).mp counted
  obtain ⟨more, extended⟩ := ordered.pendingAfter_enter absent parents
    (ordered.mem_workflowStepIds.mpr ⟨node, known, rfl⟩)
  have same : ∀ id ∈ before ++ hit :: rest,
      (graph.enter added).isOf agentId id = graph.isOf agentId id := by
    intro id member
    exact isOf_enter absent parents (known_of_pendingAfter (later ▸ member)) agentId
  have there := get?_enter_known absent parents known
  rw [later, List.append_assoc, List.cons_append] at extended
  refine (ordered.enter absent childless linked).stepsToExecution_reached there extended ?_ ?_
  · intro id member
    rw [same id (List.mem_append_left _ member)]
    exact skipped id member
  · rw [same hit (List.mem_append_right _ List.mem_cons_self)]
    exact reached

theorem stepsToExecution_addStep (ordered : Ordered graph) {cur : String} {node : AgentStepNode}
    (known : graph.steps.get? cur = some node) {agentId : String} {d : Nat}
    (counted : graph.stepsToExecution agentId cur = .ok (some d))
    (workflowId stepId other : String) (parentStepId : Option String) (turnId : Int) :
    (EStateResult.state
      (addStep workflowId stepId other parentStepId turnId graph)).stepsToExecution
        agentId cur = .ok (some d) := by
  rcases graph.addStep_cases workflowId stepId other parentStepId turnId with
    ⟨e, raised⟩ | ⟨absent, linked, returned⟩
  · rw [raised]
    exact counted
  · rw [returned]
    exact ordered.stepsToExecution_enter known absent rfl linked counted

/-! ## A completed step -/

theorem markStepCompleted_completed (ordered : Ordered graph) {cur : String}
    {node : AgentStepNode} (known : graph.steps.get? cur = some node) (stepId : String) :
    Completed graph (EStateResult.state (markStepCompleted stepId graph)) stepId
      node.workflowId cur := by
  rcases graph.markStepCompleted_cases stepId with ⟨absent, e, raised⟩ | ⟨held, found, returned⟩
  · rw [raised]
    refine ⟨ordered, ⟨node, known, rfl⟩, (List.filter_eq_self.mpr fun id member => ?_).symm,
      fun _ _ => rfl⟩
    refine decide_eq_true fun same => ?_
    have there : (graph.steps.get? stepId).isSome := same ▸ known_of_pendingAfter member
    rw [absent] at there
    cases there
  · rw [returned]
    refine ⟨ordered.complete found, ?_, pendingAfter_complete _ _, isOf_complete found⟩
    change ∃ node', (graph.steps.set stepId _).get? cur = some node' ∧ _
    rw [Dict.get?_set]
    split
    · next same =>
        cases found.symm.trans (same ▸ known)
        exact ⟨_, rfl, rfl⟩
    · exact ⟨node, known, rfl⟩

/-- A step before the one reached is one of those to wait for. -/
theorem mem_before (ordered : Ordered graph) {w cur stepId hit : String}
    {before rest : List String} (later : graph.pendingAfter w cur = before ++ hit :: rest)
    (pending : graph.isPending stepId) (follows : graph.Follows w cur stepId)
    (precedes : graph.Follows w stepId hit) : stepId ∈ before := by
  have member := mem_pendingAfter.mpr ⟨follows, pending⟩
  have part := graph.pendingAfter_sublist w cur
  rw [later] at member part
  rcases List.mem_append.mp member with ahead | behind
  · exact ahead
  · cases behind with
    | head => exact absurd precedes.2 (Nat.lt_irrefl _)
    | tail _ behind =>
        have pair : [hit, stepId].Sublist (before ++ hit :: rest) :=
          ((List.singleton_sublist.mpr behind).cons_cons hit).trans (List.sublist_append_right _ _)
        have reversed := idxOf_lt_of_sublist (ordered.workflowStepIds_nodup w) (pair.trans part)
        exact absurd precedes.2 (Nat.lt_asymm reversed)

theorem follows_of_mem_before (ordered : Ordered graph) {w cur stepId hit : String}
    {before rest : List String} (later : graph.pendingAfter w cur = before ++ hit :: rest)
    (ahead : stepId ∈ before) :
    graph.isPending stepId ∧ graph.Follows w cur stepId ∧ graph.Follows w stepId hit := by
  have part := graph.pendingAfter_sublist w cur
  obtain ⟨follows, pending⟩ : graph.Follows w cur stepId ∧ graph.isPending stepId := by
    refine mem_pendingAfter.mp ?_
    rw [later]
    exact List.mem_append_left _ ahead
  rw [later] at part
  have pair : [stepId, hit].Sublist (before ++ hit :: rest) :=
    (List.singleton_sublist.mpr ahead).append
      (List.singleton_sublist.mpr List.mem_cons_self)
  refine ⟨pending, follows, part.subset (List.mem_append_right _ List.mem_cons_self), ?_⟩
  exact idxOf_lt_of_sublist (ordered.workflowStepIds_nodup w) (pair.trans part)

end Ordered

/-! ## One call -/

/-- How the distance from a step to an agent's turn changes with a call. -/
structure Nears (graph : AgentStepGraph) (workflowId cur agentId : String) : Prop where
  answers : ∃ distance, graph.stepsToExecution agentId cur = .ok distance ∧
    (distance.isSome ↔ (graph.nextOf workflowId cur agentId).isSome)
  adding : ∀ w stepId other parentStepId turnId d,
    graph.stepsToExecution agentId cur = .ok (some d) →
      (EStateResult.state (addStep w stepId other parentStepId turnId graph)).stepsToExecution
        agentId cur = .ok (some d)
  nearer : ∀ stepId hit, graph.nextOf workflowId cur agentId = some hit →
    graph.isPending stepId → graph.Follows workflowId cur stepId →
      graph.Follows workflowId stepId hit → ∃ d,
        graph.stepsToExecution agentId cur = .ok (some (d + 1)) ∧
          (EStateResult.state (markStepCompleted stepId graph)).stepsToExecution agentId cur =
            .ok (some d)
  unchanged : ∀ stepId, (∀ hit, graph.nextOf workflowId cur agentId = some hit → stepId ≠ hit ∧
      ¬ (graph.isPending stepId ∧ graph.Follows workflowId cur stepId ∧
        graph.Follows workflowId stepId hit)) →
    (EStateResult.state (markStepCompleted stepId graph)).stepsToExecution agentId cur =
      graph.stepsToExecution agentId cur
  positive : ∀ stepId d,
    (EStateResult.state (markStepCompleted stepId graph)).stepsToExecution agentId cur =
      .ok (some d) → 1 ≤ d

namespace Ordered

theorem stepsToExecution_answers (ordered : Ordered graph) {cur : String} {node : AgentStepNode}
    (known : graph.steps.get? cur = some node) (agentId : String) :
    ∃ distance, graph.stepsToExecution agentId cur = .ok distance ∧
      (distance.isSome ↔ (graph.nextOf node.workflowId cur agentId).isSome) := by
  cases next : graph.nextOf node.workflowId cur agentId with
  | none =>
      exact ⟨_, ordered.stepsToExecution_unreached known (nextOf_eq_none_iff.mp next), Iff.rfl⟩
  | some hit =>
      obtain ⟨reached, before, rest, later, skipped⟩ := nextOf_eq_some_iff.mp next
      exact ⟨_, ordered.stepsToExecution_reached known later skipped reached, Iff.rfl⟩

theorem stepsToExecution_nearer (ordered : Ordered graph) {cur : String} {node : AgentStepNode}
    (known : graph.steps.get? cur = some node) {agentId stepId hit : String}
    (next : graph.nextOf node.workflowId cur agentId = some hit)
    (pending : graph.isPending stepId) (follows : graph.Follows node.workflowId cur stepId)
    (precedes : graph.Follows node.workflowId stepId hit) :
    ∃ d, graph.stepsToExecution agentId cur = .ok (some (d + 1)) ∧
      (EStateResult.state (markStepCompleted stepId graph)).stepsToExecution agentId cur =
        .ok (some d) := by
  obtain ⟨reached, before, rest, later, skipped⟩ := nextOf_eq_some_iff.mp next
  have ahead := ordered.mem_before later pending follows precedes
  have after := ordered.markStepCompleted_completed known stepId
  obtain ⟨node', known', workflow⟩ := after.known
  have apart : hit ≠ stepId := by
    rintro rfl
    exact Nat.lt_irrefl _ precedes.2
  have left : (before.filter (· ≠ stepId)).length + 1 = before.length := by
    have distinct := (ordered.workflowStepIds_nodup _).sublist
      (graph.pendingAfter_sublist node.workflowId cur)
    rw [later] at distinct
    exact length_filter_ne_succ (List.nodup_append.mp distinct).1 ahead
  have shorter : (EStateResult.state (markStepCompleted stepId graph)).pendingAfter
      node'.workflowId cur = before.filter (· ≠ stepId) ++ hit :: rest.filter (· ≠ stepId) := by
    rw [workflow, after.pending, later, List.filter_append]
    exact congrArg _ (List.filter_cons_of_pos (decide_eq_true apart))
  refine ⟨before.length, ordered.stepsToExecution_reached known later skipped reached, ?_⟩
  rw [← left]
  refine after.ordered.stepsToExecution_reached known' shorter (fun id member => ?_) ?_
  · rw [after.owners]
    exact skipped id (List.mem_of_mem_filter member)
  · rw [after.owners]
    exact reached

theorem stepsToExecution_unchanged (ordered : Ordered graph) {cur : String}
    {node : AgentStepNode} (known : graph.steps.get? cur = some node) {agentId stepId : String}
    (outside : ∀ hit, graph.nextOf node.workflowId cur agentId = some hit → stepId ≠ hit ∧
      ¬ (graph.isPending stepId ∧ graph.Follows node.workflowId cur stepId ∧
        graph.Follows node.workflowId stepId hit)) :
    (EStateResult.state (markStepCompleted stepId graph)).stepsToExecution agentId cur =
      graph.stepsToExecution agentId cur := by
  have after := ordered.markStepCompleted_completed known stepId
  obtain ⟨node', known', workflow⟩ := after.known
  cases next : graph.nextOf node.workflowId cur agentId with
  | none =>
      have skipped := nextOf_eq_none_iff.mp next
      rw [ordered.stepsToExecution_unreached known skipped]
      refine after.ordered.stepsToExecution_unreached known' fun id member => ?_
      rw [workflow, after.pending] at member
      rw [after.owners]
      exact skipped id (List.mem_of_mem_filter member)
  | some hit =>
      obtain ⟨reached, before, rest, later, skipped⟩ := nextOf_eq_some_iff.mp next
      obtain ⟨apart, notBetween⟩ := outside hit next
      have kept : before.filter (· ≠ stepId) = before := by
        refine List.filter_eq_self.mpr fun id member => decide_eq_true ?_
        rintro rfl
        exact notBetween (ordered.follows_of_mem_before later member)
      have same : (EStateResult.state (markStepCompleted stepId graph)).pendingAfter
          node'.workflowId cur = before ++ hit :: rest.filter (· ≠ stepId) := by
        rw [workflow, after.pending, later, List.filter_append, kept]
        exact congrArg _ (List.filter_cons_of_pos (decide_eq_true (Ne.symm apart)))
      rw [ordered.stepsToExecution_reached known later skipped reached]
      refine after.ordered.stepsToExecution_reached known' same (fun id member => ?_) ?_
      · rw [after.owners]
        exact skipped id member
      · rw [after.owners]
        exact reached

theorem stepsToExecution_positive (ordered : Ordered graph) {cur : String} {node : AgentStepNode}
    (known : graph.steps.get? cur = some node) {agentId stepId : String} {d : Nat}
    (counted : (EStateResult.state (markStepCompleted stepId graph)).stepsToExecution agentId cur =
      .ok (some d)) : 1 ≤ d := by
  have after := ordered.markStepCompleted_completed known stepId
  obtain ⟨node', known', -⟩ := after.known
  obtain ⟨-, before, -, -, -, -, rfl⟩ :=
    (after.ordered.stepsToExecution_eq_some_iff known').mp counted
  exact Nat.succ_pos _

theorem nears (ordered : Ordered graph) {cur : String} {node : AgentStepNode}
    (known : graph.steps.get? cur = some node) (agentId : String) :
    Nears graph node.workflowId cur agentId where
  answers := ordered.stepsToExecution_answers known agentId
  adding w stepId other parentStepId turnId _ counted :=
    ordered.stepsToExecution_addStep known counted w stepId other parentStepId turnId
  nearer _ _ next pending follows precedes :=
    ordered.stepsToExecution_nearer known next pending follows precedes
  unchanged _ outside := ordered.stepsToExecution_unchanged known outside
  positive _ _ counted := ordered.stepsToExecution_positive known counted

end Ordered

end AgentStepGraph

open AgentStepGraph in
/-- After every history, adding a step leaves the distance to an agent's turn alone, and
    completing one shortens it by one when the step is waited for. -/
theorem steps_to_execution_nears (calls : List StepGraphCall) {cur : String}
    {node : AgentStepNode}
    (known : (drive AgentStepGraph.exec .empty calls).getStep cur = some node)
    (agentId : String) :
    Nears (drive AgentStepGraph.exec .empty calls) node.workflowId cur agentId :=
  (Ordered.empty.drive calls).1.nears known agentId

theorem steps_to_execution_nears_reviewer :
    AgentStepGraph.Nears
      (drive AgentStepGraph.exec .empty
        [.addStep "w" "a" "writer" none 0, .addStep "w" "b" "writer" none 0,
          .addStep "w" "c" "reviewer" none 0])
      "w" "a" "reviewer" :=
  @steps_to_execution_nears _ "a" ⟨"w", "a", "writer", none, false, [], 0⟩ rfl "reviewer"

end IntelliL3
