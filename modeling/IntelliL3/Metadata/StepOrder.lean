import IntelliL3.Metadata.AgentStepGraph

/-! # The order of the steps

Whatever is called, and whether it raises or not, the four maps of a step graph
tell of the steps in the order they were added: a workflow lists its own steps,
an agent its own, a step its children, and a parent comes before its children.
-/

namespace IntelliL3

open Lib

/-! ## Lists kept by key -/

theorem getD_setDefault (lists : Dict String (List String)) (key other : String) :
    ((setDefault lists key).get? other).getD [] = (lists.get? other).getD [] := by
  unfold setDefault
  split
  · rfl
  · next unknown =>
      rw [Dict.get?_set]
      split
      · next same =>
          subst same
          rw [(lists.contains_eq_false_iff _).mp (Bool.eq_false_of_not_eq_true unknown)]
          rfl
      · rfl

theorem getD_appendTo (lists : Dict String (List String)) (key item other : String) :
    ((appendTo lists key item).get? other).getD [] =
      (lists.get? other).getD [] ++ if key = other then [item] else [] := by
  unfold appendTo
  rw [Dict.get?_set]
  split
  · next same =>
      subst same
      rfl
  · exact (List.append_nil _).symm

namespace AgentStepGraph

variable {graph : AgentStepGraph}

/-! ## What an operation changes -/

/-- A new step comes last, and its parent gets it as a child. -/
theorem get?_enter {node : AgentStepNode} (absent : graph.steps.get? node.stepId = none)
    (parents : ∀ p ∈ node.parentStepId, (graph.steps.get? p).isSome) (id : String) :
    (graph.enter node).steps.get? id =
      if node.stepId = id then some node
      else (graph.steps.get? id).map fun held =>
        if node.parentStepId = some id then
          { held with childStepIds := held.childStepIds ++ [node.stepId] }
        else held := by
  unfold enter appendChild
  cases linked : node.parentStepId with
  | none =>
      simp only [reduceCtorEq, if_false, Option.map_id']
      exact Dict.get?_set _ _ _ _
  | some p =>
      obtain ⟨parent, held⟩ := Option.isSome_iff_exists.mp (parents p linked)
      have other := Dict.ne_of_absent absent held
      simp only [Dict.get?_set_ne _ other, held, Option.some.injEq]
      rw [Dict.get?_set, Dict.get?_set]
      by_cases here : p = id
      · subst here
        rw [if_pos rfl, if_neg other, held]
        simp only [Option.map_some, if_true]
      · rw [if_neg here]
        simp only [here, if_false, Option.map_id']

theorem keysWhere_enter {node : AgentStepNode} (absent : graph.steps.get? node.stepId = none)
    (parents : ∀ p ∈ node.parentStepId, (graph.steps.get? p).isSome)
    {holds : AgentStepNode → Bool}
    (placed : ∀ held ids, holds { held with childStepIds := ids } = holds held) :
    (graph.enter node).steps.keysWhere holds =
      graph.steps.keysWhere holds ++ if holds node then [node.stepId] else [] := by
  rw [← Dict.keysWhere_set_new absent]
  unfold enter appendChild
  cases linked : node.parentStepId with
  | none => rfl
  | some p =>
      obtain ⟨parent, held⟩ := Option.isSome_iff_exists.mp (parents p linked)
      have other := Dict.ne_of_absent absent held
      have kept : (graph.steps.set node.stepId node).get? p = some parent := by
        rw [Dict.get?_set_ne _ other, held]
      simp only [kept]
      exact Dict.keysWhere_set_known kept (placed parent _)

/-- A step that was known may only get a child. -/
theorem get?_enter_known {node : AgentStepNode} (absent : graph.steps.get? node.stepId = none)
    (parents : ∀ p ∈ node.parentStepId, (graph.steps.get? p).isSome) {id : String}
    {before : AgentStepNode} (held : graph.steps.get? id = some before) :
    (graph.enter node).steps.get? id = some { before with
      childStepIds := before.childStepIds ++
        if node.parentStepId = some id then [node.stepId] else [] } := by
  rw [get?_enter absent parents, if_neg (Dict.ne_of_absent absent held), held, Option.map_some]
  split
  · rfl
  · rw [List.append_nil]

/-- What is known then is the new step or was known before. -/
theorem get?_enter_cases {node : AgentStepNode} (absent : graph.steps.get? node.stepId = none)
    (parents : ∀ p ∈ node.parentStepId, (graph.steps.get? p).isSome) {id : String}
    {after : AgentStepNode} (found : (graph.enter node).steps.get? id = some after) :
    id = node.stepId ∧ after = node ∨
      ∃ before, graph.steps.get? id = some before ∧ after = { before with
        childStepIds := before.childStepIds ++
          if node.parentStepId = some id then [node.stepId] else [] } := by
  cases held : graph.steps.get? id with
  | some before =>
      rw [get?_enter_known absent parents held] at found
      exact Or.inr ⟨before, rfl, (Option.some.inj found).symm⟩
  | none =>
      rw [get?_enter absent parents, held] at found
      split at found
      · next same => exact Or.inl ⟨same.symm, (Option.some.inj found).symm⟩
      · cases found

theorem keys_enter {node : AgentStepNode} (absent : graph.steps.get? node.stepId = none)
    (parents : ∀ p ∈ node.parentStepId, (graph.steps.get? p).isSome) :
    (graph.enter node).steps.keys = graph.steps.keys ++ [node.stepId] := by
  have all : (graph.enter node).steps.keysWhere (fun _ => true) = _ :=
    keysWhere_enter absent parents fun _ _ => rfl
  rwa [Dict.keysWhere_true, Dict.keysWhere_true, if_pos rfl] at all

theorem keys_complete {stepId : String} {node : AgentStepNode}
    (held : graph.steps.get? stepId = some node) :
    (graph.complete stepId node).steps.keys = graph.steps.keys := by
  have all : (graph.complete stepId node).steps.keysWhere (fun _ => true) =
      graph.steps.keysWhere fun _ => true := Dict.keysWhere_set_known held rfl
  rwa [Dict.keysWhere_true, Dict.keysWhere_true] at all

theorem workflowSteps_enter (node : AgentStepNode) :
    (graph.enter node).workflowSteps =
      appendTo (setDefault graph.workflowSteps node.workflowId) node.workflowId node.stepId := by
  unfold enter appendChild
  cases node.parentStepId with
  | none => rfl
  | some p =>
      simp only
      split <;> rfl

theorem agentSteps_enter (node : AgentStepNode) :
    (graph.enter node).agentSteps = appendTo graph.agentSteps node.agentId node.stepId := by
  unfold enter appendChild
  cases node.parentStepId with
  | none => rfl
  | some p =>
      simp only
      split <;> rfl

/-! ## One sequence of steps -/

/-- The lists are the parts of the sequence of steps they are about, and a parent is a step
    of its child's workflow that comes before it. -/
structure Ordered (graph : AgentStepGraph) : Prop where
  named : ∀ id node, graph.steps.get? id = some node → node.stepId = id
  workflows : ∀ w, graph.workflowStepIds w = graph.steps.keysWhere (·.workflowId = w)
  agents : ∀ a, graph.agentStepIds a = graph.steps.keysWhere (·.agentId = a)
  children : ∀ p parent, graph.steps.get? p = some parent →
    parent.childStepIds = graph.steps.keysWhere (·.parentStepId = some p)
  parents : ∀ c node p, graph.steps.get? c = some node → node.parentStepId = some p →
    ∃ parent, graph.steps.get? p = some parent ∧ parent.workflowId = node.workflowId ∧
      [p, c].Sublist graph.steps.keys

namespace Ordered

theorem empty : Ordered .empty where
  named _ _ held := by cases held
  workflows _ := rfl
  agents _ := rfl
  children _ _ held := by cases held
  parents _ _ _ held := by cases held

/-- A workflow without steps is no part of the sequence. -/
theorem addWorkflow (ordered : Ordered graph) (workflowId : String) :
    Ordered { graph with workflowSteps := setDefault graph.workflowSteps workflowId } where
  named := ordered.named
  workflows w := (getD_setDefault _ _ _).trans (ordered.workflows w)
  agents := ordered.agents
  children := ordered.children
  parents := ordered.parents

/-- A completed step keeps its place. -/
theorem complete (ordered : Ordered graph) {stepId : String} {node : AgentStepNode}
    (held : graph.steps.get? stepId = some node) : Ordered (graph.complete stepId node) := by
  have place : ∀ {id after}, (graph.complete stepId node).steps.get? id = some after →
      ∃ before, graph.steps.get? id = some before ∧ after.workflowId = before.workflowId ∧
        after.stepId = before.stepId ∧ after.parentStepId = before.parentStepId ∧
        after.childStepIds = before.childStepIds := by
    intro id after found
    change (graph.steps.set stepId _).get? id = some after at found
    rw [Dict.get?_set] at found
    split at found
    · next same =>
        cases found
        exact ⟨node, same ▸ held, rfl, rfl, rfl, rfl⟩
    · exact ⟨after, found, rfl, rfl, rfl, rfl⟩
  have lists : ∀ {holds : AgentStepNode → Bool},
      holds { node with completed := true } = holds node →
        (graph.complete stepId node).steps.keysWhere holds = graph.steps.keysWhere holds :=
    fun same => Dict.keysWhere_set_known held same
  constructor
  · intro id after found
    obtain ⟨before, stood, -, same, -⟩ := place found
    exact same.trans (ordered.named id before stood)
  · exact fun w => (ordered.workflows w).trans (lists rfl).symm
  · exact fun a => (ordered.agents a).trans (lists rfl).symm
  · intro p parent found
    obtain ⟨before, stood, -, -, -, same⟩ := place found
    rw [same, ordered.children p before stood]
    exact (lists rfl).symm
  · intro c after p found linked
    obtain ⟨before, stood, workflow, -, parent, -⟩ := place found
    obtain ⟨node', stood', same, precedes⟩ := ordered.parents c before p stood (parent ▸ linked)
    change ∃ parent, (graph.steps.set stepId _).get? p = some parent ∧ _
    rw [keys_complete held, workflow, Dict.get?_set]
    split
    · next here =>
        subst here
        cases held.symm.trans stood'
        exact ⟨_, rfl, same, precedes⟩
    · exact ⟨node', stood', same, precedes⟩

/-- A step that is not known yet has no children. -/
theorem noChildren (ordered : Ordered graph) {stepId : String}
    (absent : graph.steps.get? stepId = none) :
    graph.steps.keysWhere (·.parentStepId = some stepId) = [] := by
  refine List.eq_nil_iff_forall_not_mem.mpr fun c member => ?_
  obtain ⟨child, held, given⟩ := Dict.mem_keysWhere.mp member
  obtain ⟨parent, stood, -⟩ := ordered.parents c child stepId held (of_decide_eq_true given)
  rw [absent] at stood
  cases stood

/-- A new step comes last in every list it belongs to. -/
theorem enter (ordered : Ordered graph) {node : AgentStepNode}
    (absent : graph.steps.get? node.stepId = none) (childless : node.childStepIds = [])
    (linked : ∀ p ∈ node.parentStepId,
      ∃ parent, graph.steps.get? p = some parent ∧ parent.workflowId = node.workflowId) :
    Ordered (graph.enter node) := by
  have parents : ∀ p ∈ node.parentStepId, (graph.steps.get? p).isSome := by
    intro p given
    obtain ⟨parent, held, -⟩ := linked p given
    rw [held]
    rfl
  constructor
  · intro id after found
    rcases get?_enter_cases absent parents found with ⟨rfl, rfl⟩ | ⟨before, stood, rfl⟩
    · rfl
    · exact ordered.named id before stood
  · intro w
    rw [workflowStepIds, workflowSteps_enter, getD_appendTo, getD_setDefault,
      keysWhere_enter absent parents fun _ _ => rfl, ← ordered.workflows, workflowStepIds]
    simp only [decide_eq_true_eq]
  · intro a
    rw [agentStepIds, agentSteps_enter, getD_appendTo,
      keysWhere_enter absent parents fun _ _ => rfl, ← ordered.agents, agentStepIds]
    simp only [decide_eq_true_eq]
  · intro p parent found
    rw [keysWhere_enter absent parents fun _ _ => rfl]
    rcases get?_enter_cases absent parents found with ⟨rfl, rfl⟩ | ⟨before, stood, rfl⟩
    · have notOwn : parent.parentStepId ≠ some parent.stepId := by
        intro own
        have stood := parents _ own
        rw [absent] at stood
        cases stood
      simp only [childless, ordered.noChildren absent, notOwn, decide_false, Bool.false_eq_true,
        if_false, List.append_nil]
    · simp only [ordered.children p before stood, decide_eq_true_eq]
  · intro c after p found given
    rw [keys_enter absent parents]
    rcases get?_enter_cases absent parents found with ⟨rfl, rfl⟩ | ⟨before, stood, rfl⟩
    · obtain ⟨parent, stood, same⟩ := linked p given
      refine ⟨_, get?_enter_known absent parents stood, same, ?_⟩
      refine List.Sublist.append (List.singleton_sublist.mpr ?_) (List.Sublist.refl [_])
      rw [Dict.mem_keys_iff, stood]
      rfl
    · obtain ⟨parent, stood', same, precedes⟩ := ordered.parents c before p stood given
      exact ⟨_, get?_enter_known absent parents stood', same,
        precedes.trans (List.sublist_append_left _ _)⟩

end Ordered

/-! ## One call -/

/-- A step is refused without effect, or entered after a parent in its workflow. -/
theorem addStep_cases (graph : AgentStepGraph) (workflowId stepId agentId : String)
    (parentStepId : Option String) (turnId : Int) :
    (∃ e, addStep workflowId stepId agentId parentStepId turnId graph = .error e graph) ∨
      graph.steps.get? stepId = none ∧
        (∀ p ∈ parentStepId,
          ∃ parent, graph.steps.get? p = some parent ∧ parent.workflowId = workflowId) ∧
        addStep workflowId stepId agentId parentStepId turnId graph =
          .ok () (graph.enter { workflowId, stepId, agentId, parentStepId, turnId }) := by
  unfold addStep
  rw [bind_run, get_run]
  simp only
  by_cases known : graph.steps.contains stepId = true
  · rw [if_pos known]
    exact Or.inl ⟨_, rfl⟩
  · rw [if_neg known, bind_run]
    have absent := (graph.steps.contains_eq_false_iff stepId).mp
      (Bool.eq_false_of_not_eq_true known)
    cases parentStepId with
    | none => exact Or.inr ⟨absent, fun _ given => (by cases given), rfl⟩
    | some p =>
        simp only [checkParent]
        cases held : graph.steps.get? p with
        | none => exact Or.inl ⟨_, rfl⟩
        | some parent =>
            simp only
            by_cases same : parent.workflowId = workflowId
            · rw [if_neg (not_not_intro same)]
              refine Or.inr ⟨absent, fun q given => ?_, rfl⟩
              cases given
              exact ⟨parent, held, same⟩
            · rw [if_pos same]
              exact Or.inl ⟨_, rfl⟩

theorem markStepCompleted_cases (graph : AgentStepGraph) (stepId : String) :
    graph.steps.get? stepId = none ∧
        (∃ e, markStepCompleted stepId graph = .error e graph) ∨
      ∃ node, graph.steps.get? stepId = some node ∧
        markStepCompleted stepId graph = .ok () (graph.complete stepId node) := by
  unfold markStepCompleted
  rw [bind_run, get_run]
  simp only [requireStep, bind_run]
  cases graph.steps.get? stepId with
  | none => exact Or.inl ⟨rfl, _, rfl⟩
  | some node => exact Or.inr ⟨node, rfl, rfl⟩

/-- A call raises and changes nothing, or keeps the order and adds these steps at its end. -/
def Advances (graph : AgentStepGraph) (call : GraphM Unit) (stepIds : List String) : Prop :=
  (∃ e, call graph = .error e graph) ∨
    ∃ after, call graph = .ok () after ∧ Ordered after ∧
      after.steps.keys = graph.steps.keys ++ stepIds

namespace Ordered

theorem addWorkflow_advances (ordered : Ordered graph) (workflowId : String) :
    Advances graph (AgentStepGraph.addWorkflow workflowId) [] :=
  Or.inr ⟨_, rfl, ordered.addWorkflow workflowId, (List.append_nil _).symm⟩

theorem addStep_advances (ordered : Ordered graph) (workflowId stepId agentId : String)
    (parentStepId : Option String) (turnId : Int) :
    Advances graph (addStep workflowId stepId agentId parentStepId turnId) [stepId] := by
  rcases graph.addStep_cases workflowId stepId agentId parentStepId turnId with
    raised | ⟨absent, linked, returned⟩
  · exact Or.inl raised
  · refine Or.inr ⟨_, returned, ordered.enter absent rfl linked, keys_enter absent ?_⟩
    intro p given
    obtain ⟨parent, held, -⟩ := linked p given
    rw [held]
    rfl

theorem markStepCompleted_advances (ordered : Ordered graph) (stepId : String) :
    Advances graph (markStepCompleted stepId) [] := by
  rcases graph.markStepCompleted_cases stepId with ⟨-, raised⟩ | ⟨node, held, returned⟩
  · exact Or.inl raised
  · exact Or.inr ⟨_, returned, ordered.complete held,
      (keys_complete held).trans (List.append_nil _).symm⟩

/-- A step that was just added is there to be completed. -/
theorem addStepObject_advances (ordered : Ordered graph) (step : AgentStep) :
    Advances graph (addStepObject step) [step.stepId] := by
  rcases ordered.addStep_advances step.workflowId step.stepId step.agentId step.parentStepId
    step.turnId with ⟨e, raised⟩ | ⟨after, returned, kept, keys⟩
  · exact Or.inl ⟨e, bind_error raised _⟩
  · unfold Advances addStepObject
    rw [bind_run, returned]
    cases step.timestampEnd with
    | none => exact Or.inr ⟨after, rfl, kept, keys⟩
    | some stop =>
        rcases after.markStepCompleted_cases step.stepId with ⟨absent, -⟩ | ⟨node, held, done⟩
        · have there : (after.steps.get? step.stepId).isSome := by
            rw [← Dict.mem_keys_iff, keys]
            exact List.mem_append_right _ (List.mem_singleton_self _)
          rw [absent] at there
          cases there
        · exact Or.inr ⟨_, done, kept.complete held, (keys_complete held).trans keys⟩

/-- What a call does: nothing, raising, or it adds its step at the end. -/
theorem exec_advances (ordered : Ordered graph) (c : StepGraphCall) :
    Advances graph (exec c) c.stepId?.toList := by
  cases c with
  | addWorkflow workflowId => exact ordered.addWorkflow_advances workflowId
  | addWorkflowObject workflow => exact ordered.addWorkflow_advances workflow.workflowId
  | addStep workflowId stepId agentId parentStepId turnId =>
      exact ordered.addStep_advances workflowId stepId agentId parentStepId turnId
  | addStepObject step => exact ordered.addStepObject_advances step
  | markStepCompleted stepId => exact ordered.markStepCompleted_advances stepId

end Ordered

/-! ## What holds of every graph -/

/-- The steps a history adds, in order: those of the calls that return. -/
def insertionOrder (graph : AgentStepGraph) : List StepGraphCall → List String
  | [] => []
  | c :: calls =>
      (match EStateResult.outcome (exec c graph) with
        | .ok _ => c.stepId?.toList
        | .error _ => []) ++ insertionOrder (EStateResult.state (exec c graph)) calls

/-- `p` is the parent of `c`. -/
def IsParent (graph : AgentStepGraph) (p c : String) : Prop :=
  ∃ node, graph.steps.get? c = some node ∧ node.parentStepId = some p

/-- The four maps agree, in the order `added` of the steps. -/
structure WellLinked (graph : AgentStepGraph) (added : List String) : Prop where
  known : ∀ id, id ∈ added ↔ (graph.steps.get? id).isSome
  inWorkflow : ∀ id node, graph.steps.get? id = some node → ∀ w,
    (graph.workflowStepIds w).count id = if w = node.workflowId then 1 else 0
  ofAgent : ∀ id node, graph.steps.get? id = some node → ∀ a,
    (graph.agentStepIds a).count id = if a = node.agentId then 1 else 0
  noOthers : ∀ id, (∃ w, id ∈ graph.workflowStepIds w) ∨ (∃ a, id ∈ graph.agentStepIds a) →
    (graph.steps.get? id).isSome
  children : ∀ p parent, graph.steps.get? p = some parent →
    (∀ c, c ∈ parent.childStepIds ↔ graph.IsParent p c) ∧ parent.childStepIds.Nodup ∧
      parent.childStepIds.Sublist added
  before : ∀ p c, graph.IsParent p c → ∃ parent child, graph.steps.get? p = some parent ∧
    graph.steps.get? c = some child ∧ parent.workflowId = child.workflowId ∧
      (graph.workflowStepIds child.workflowId).idxOf p <
        (graph.workflowStepIds child.workflowId).idxOf c
  acyclic : ∀ c, ¬ Relation.TransGen graph.IsParent c c
  counted : graph.stats.completedSteps + graph.stats.pendingSteps = graph.stats.steps ∧
    graph.stats.steps = added.length ∧
    graph.stats.completedSteps = (graph.steps.keysWhere (·.completed)).length ∧
    graph.stats.pendingSteps = (graph.steps.keysWhere (!·.completed)).length

/-- In a list without repetitions, what stands before has the smaller index. -/
theorem idxOf_lt_of_sublist {l : List String} (distinct : l.Nodup) {a b : String}
    (precedes : [a, b].Sublist l) : l.idxOf a < l.idxOf b := by
  induction l with
  | nil => cases precedes
  | cons head tail ih =>
      obtain ⟨outside, inside⟩ := List.nodup_cons.mp distinct
      cases precedes with
      | cons _ later =>
          have headless : ∀ {x}, x ∈ tail → head ≠ x := by
            rintro x member rfl
            exact outside member
          have first := headless (later.subset List.mem_cons_self)
          have second := headless (later.subset (List.mem_cons_of_mem _ List.mem_cons_self))
          rw [List.idxOf_cons_ne _ first, List.idxOf_cons_ne _ second]
          exact Nat.succ_lt_succ (ih inside later)
      | cons_cons _ later =>
          have other : a ≠ b := by
            rintro rfl
            exact outside (later.subset List.mem_cons_self)
          rw [List.idxOf_cons_self, List.idxOf_cons_ne _ other]
          exact Nat.succ_pos _

namespace Ordered

/-- A parent stands before its child among all steps. -/
theorem isParent_precedes (ordered : Ordered graph) {p c : String} (link : graph.IsParent p c) :
    [p, c].Sublist graph.steps.keys := by
  obtain ⟨node, held, given⟩ := link
  obtain ⟨-, -, -, precedes⟩ := ordered.parents c node p held given
  exact precedes

theorem acyclic (ordered : Ordered graph) (c : String) :
    ¬ Relation.TransGen graph.IsParent c c := by
  have rising : ∀ {a b}, Relation.TransGen graph.IsParent a b →
      graph.steps.keys.idxOf a < graph.steps.keys.idxOf b := by
    intro a b chain
    induction chain with
    | single link =>
        exact idxOf_lt_of_sublist graph.steps.keys_nodup (ordered.isParent_precedes link)
    | tail _ link ih =>
        exact ih.trans
          (idxOf_lt_of_sublist graph.steps.keys_nodup (ordered.isParent_precedes link))
  exact fun cycle => Nat.lt_irrefl _ (rising cycle)

/-- A list of the steps with a property has each such step once and no other. -/
theorem count_keysWhere (graph : AgentStepGraph) {id : String} {node : AgentStepNode}
    (held : graph.steps.get? id = some node) (holds : AgentStepNode → Bool) :
    (graph.steps.keysWhere holds).count id = if holds node then 1 else 0 := by
  rw [List.Nodup.count (graph.steps.keysWhere_nodup holds)]
  refine if_congr ?_ rfl rfl
  rw [Dict.mem_keysWhere, held]
  constructor
  · rintro ⟨node', same, property⟩
    cases same
    exact property
  · exact fun property => ⟨node, rfl, property⟩

theorem wellLinked (ordered : Ordered graph) : WellLinked graph graph.steps.keys where
  known id := graph.steps.mem_keys_iff id
  inWorkflow id node held w := by
    rw [ordered.workflows, count_keysWhere graph held]
    exact if_congr (decide_eq_true_iff.trans eq_comm) rfl rfl
  ofAgent id node held a := by
    rw [ordered.agents, count_keysWhere graph held]
    exact if_congr (decide_eq_true_iff.trans eq_comm) rfl rfl
  noOthers id listed := by
    rcases listed with ⟨w, member⟩ | ⟨a, member⟩
    · rw [ordered.workflows] at member
      exact (graph.steps.mem_keys_iff id).mp (List.mem_of_mem_filter member)
    · rw [ordered.agents] at member
      exact (graph.steps.mem_keys_iff id).mp (List.mem_of_mem_filter member)
  children p parent held := by
    rw [ordered.children p parent held]
    refine ⟨fun c => ?_, graph.steps.keysWhere_nodup _, List.filter_sublist⟩
    rw [Dict.mem_keysWhere]
    simp only [decide_eq_true_eq]
    exact Iff.rfl
  before p c link := by
    obtain ⟨child, held, given⟩ := link
    obtain ⟨parent, stood, same, precedes⟩ := ordered.parents c child p held given
    refine ⟨parent, child, stood, held, same, ?_⟩
    rw [ordered.workflows]
    refine idxOf_lt_of_sublist (graph.steps.keysWhere_nodup _) ?_
    have both := precedes.filter fun id =>
      (graph.steps.get? id).any (·.workflowId = child.workflowId)
    rwa [List.filter_cons_of_pos (by simp [stood, same]),
      List.filter_cons_of_pos (by simp [held])] at both
  acyclic := ordered.acyclic
  counted := by
    have length : graph.steps.entries.length = graph.steps.entries.countP (·.2.completed) +
        graph.steps.entries.countP (!·.2.completed) := by
      rw [List.length_eq_countP_add_countP (·.2.completed)]
      simp only [Bool.not_eq_true, Bool.decide_eq_false]
    rw [Dict.length_keysWhere, Dict.length_keysWhere, Dict.length_keys]
    simp only [stats, Dict.size]
    refine ⟨?_, trivial, trivial, ?_⟩ <;> omega

/-- A history keeps the order, and the steps come as it added them. -/
theorem drive (ordered : Ordered graph) (calls : List StepGraphCall) :
    Ordered (Lib.drive exec graph calls) ∧
      (Lib.drive exec graph calls).steps.keys =
        graph.steps.keys ++ insertionOrder graph calls := by
  induction calls generalizing graph with
  | nil => exact ⟨ordered, (List.append_nil _).symm⟩
  | cons c rest ih =>
      rw [insertionOrder]
      change Ordered (Lib.drive exec (EStateResult.state (exec c graph)) rest) ∧
        (Lib.drive exec (EStateResult.state (exec c graph)) rest).steps.keys = _
      rcases ordered.exec_advances c with ⟨e, raised⟩ | ⟨after, returned, kept, keys⟩
      · rw [raised]
        exact ih ordered
      · rw [returned]
        obtain ⟨kept', keys'⟩ := ih kept
        refine ⟨kept', keys'.trans ?_⟩
        rw [keys, List.append_assoc]
        rfl

end Ordered

end AgentStepGraph

open AgentStepGraph in
/-- After every history the maps of a step graph agree, in the order the steps were added,
    and a call that raises leaves the graph as it is. -/
theorem step_graph_well_linked (calls : List StepGraphCall) :
    WellLinked (drive AgentStepGraph.exec .empty calls) (insertionOrder .empty calls) ∧
      ∀ c e, EStateResult.outcome
          (AgentStepGraph.exec c (drive AgentStepGraph.exec .empty calls)) = .error e →
        EStateResult.state (AgentStepGraph.exec c (drive AgentStepGraph.exec .empty calls)) =
          drive AgentStepGraph.exec .empty calls := by
  obtain ⟨ordered, keys⟩ := Ordered.empty.drive calls
  constructor
  · have linked := ordered.wellLinked
    rwa [keys] at linked
  · intro c e raises
    rcases ordered.exec_advances c with ⟨e', raised⟩ | ⟨after, returned, -⟩
    · rw [raised]
      rfl
    · rw [returned] at raises
      cases raises

end IntelliL3
