import Mathlib.Logic.Relation
import IntelliL3.Core.Types
import IntelliL3.Lib.Run

/-! # Agent step graph

`metadata/agent_step_graph.py`: the steps of agent workflows, in the order they
were added, with the links from a step to the steps it is the parent of. Four
maps tell of one sequence of steps: each of the lists they hold is the part of
that sequence it is about.
-/

namespace IntelliL3

open Lib

structure AgentStepNode where
  workflowId : String
  stepId : String
  agentId : String
  parentStepId : Option String := none
  completed : Bool := false
  childStepIds : List String := []
  turnId : Int := 0

structure AgentStepGraph where
  workflowSteps : Dict String (List String)
  steps : Dict String AgentStepNode
  agentSteps : Dict String (List String)

structure StepGraphStats where
  workflows : Nat
  steps : Nat
  agents : Nat
  completedSteps : Nat
  pendingSteps : Nat
  deriving Repr, DecidableEq

/-- `lists.setdefault(key, [])` -/
def setDefault (lists : Dict String (List String)) (key : String) : Dict String (List String) :=
  if lists.contains key then lists else lists.set key []

/-- `lists.setdefault(key, []).append(item)` -/
def appendTo (lists : Dict String (List String)) (key item : String) :
    Dict String (List String) :=
  lists.set key ((lists.get? key).getD [] ++ [item])

namespace AgentStepGraph

/-- `AgentStepGraph()` -/
def empty : AgentStepGraph := ⟨.empty, .empty, .empty⟩

/-! ## The operations -/

def requireStep (self : AgentStepGraph) (stepId : String) : Except PyError AgentStepNode :=
  match self.steps.get? stepId with
  | none => .error (.valueError s!"unknown step_id: {stepId}")
  | some node => .ok node

/-- `self._steps[parent_step_id].child_step_ids.append(step_id)` -/
def appendChild (self : AgentStepGraph) (stepId : String) : Option String → AgentStepGraph
  | none => self
  | some parentStepId =>
      match self.steps.get? parentStepId with
      | none => self -- the parent was found before
      | some parent =>
          let appended := { parent with childStepIds := parent.childStepIds ++ [stepId] }
          { self with steps := self.steps.set parentStepId appended }

/-- A new node, entered in all four maps. -/
def enter (self : AgentStepGraph) (node : AgentStepNode) : AgentStepGraph :=
  let entered : AgentStepGraph :=
    { workflowSteps :=
        appendTo (setDefault self.workflowSteps node.workflowId) node.workflowId node.stepId
      steps := self.steps.set node.stepId node
      agentSteps := appendTo self.agentSteps node.agentId node.stepId }
  entered.appendChild node.stepId node.parentStepId

/-- `self._steps[step_id].completed = True` -/
def complete (self : AgentStepGraph) (stepId : String) (node : AgentStepNode) :
    AgentStepGraph :=
  { self with steps := self.steps.set stepId { node with completed := true } }

/-- Why a step with this parent is refused. -/
def checkParent (self : AgentStepGraph) (workflowId : String) :
    Option String → Except PyError Unit
  | none => .ok ()
  | some parentStepId =>
      match self.steps.get? parentStepId with
      | none => .error (.valueError s!"unknown parent_step_id: {parentStepId}")
      | some parent =>
          if parent.workflowId ≠ workflowId then
            .error (.valueError "parent step belongs to a different workflow")
          else .ok ()

abbrev GraphM := EStateM PyError AgentStepGraph

def addWorkflow (workflowId : String) : GraphM Unit :=
  modify fun self => { self with workflowSteps := setDefault self.workflowSteps workflowId }

def addWorkflowObject (workflow : AgentWorkflow) : GraphM Unit := addWorkflow workflow.workflowId

def addStep (workflowId stepId agentId : String) (parentStepId : Option String := none)
    (turnId : Int := 0) : GraphM Unit := do
  let self ← get
  if self.steps.contains stepId then throw (.valueError s!"step already exists: {stepId}")
  else
    raising (self.checkParent workflowId parentStepId)
    modify fun self => self.enter { workflowId, stepId, agentId, parentStepId, turnId }

def markStepCompleted (stepId : String) : GraphM Unit := do
  let node ← raising ((← get).requireStep stepId)
  modify fun self => self.complete stepId node

def addStepObject (step : AgentStep) : GraphM Unit := do
  addStep step.workflowId step.stepId step.agentId step.parentStepId step.turnId
  match step.timestampEnd with
  | none => pure ()
  | some _ => markStepCompleted step.stepId

/-- `not self._steps[step_id].completed` -/
def isPending (self : AgentStepGraph) (stepId : String) : Bool :=
  (self.steps.get? stepId).any fun node => !node.completed

def futureUncompletedSteps (self : AgentStepGraph) (workflowId currentStepId : String) :
    Except PyError (List String) :=
  let stepIds := (self.workflowSteps.get? workflowId).getD []
  if currentStepId ∈ stepIds then
    .ok ((stepIds.drop (stepIds.idxOf currentStepId + 1)).filter self.isPending)
  else .error (.valueError s!"unknown step in workflow: {currentStepId}")

def predictNextSteps (self : AgentStepGraph) (workflowId currentStepId : String)
    (topK : Int := 3) : Except PyError (List String) := do
  if topK ≤ 0 then return []
  else
    let current ← self.requireStep currentStepId
    if current.workflowId ≠ workflowId then
      throw (.valueError "current_step_id belongs to a different workflow")
    else
      let children := current.childStepIds.filter self.isPending
      let candidates ←
        if children.isEmpty then self.futureUncompletedSteps workflowId currentStepId
        else pure children
      return candidates.take topK.toNat

/-- The loop over the future steps: how far away the first one of the agent is. -/
def distanceTo (self : AgentStepGraph) (agentId : String) (distance : Nat) :
    List String → Option Nat
  | [] => none
  | stepId :: rest =>
      if (self.steps.get? stepId).any (·.agentId = agentId) then some distance
      else distanceTo self agentId (distance + 1) rest

def stepsToExecution (self : AgentStepGraph) (agentId currentStepId : String) :
    Except PyError (Option Nat) := do
  let current ← self.requireStep currentStepId
  let futureSteps ← self.futureUncompletedSteps current.workflowId currentStepId
  return self.distanceTo agentId 1 futureSteps

def workflowStepIds (self : AgentStepGraph) (workflowId : String) : List String :=
  (self.workflowSteps.get? workflowId).getD []

def agentStepIds (self : AgentStepGraph) (agentId : String) : List String :=
  (self.agentSteps.get? agentId).getD []

def getStep (self : AgentStepGraph) (stepId : String) : Option AgentStepNode :=
  self.steps.get? stepId

def hasWorkflow (self : AgentStepGraph) (workflowId : String) : Bool :=
  self.workflowSteps.contains workflowId

def stats (self : AgentStepGraph) : StepGraphStats :=
  let completed := self.steps.entries.countP fun item => item.2.completed
  { workflows := self.workflowSteps.size
    steps := self.steps.size
    agents := self.agentSteps.size
    completedSteps := completed
    pendingSteps := self.steps.size - completed }

end AgentStepGraph

/-! ## Calls -/

/-- The calls that change a graph. -/
inductive StepGraphCall where
  | addWorkflow (workflowId : String)
  | addWorkflowObject (workflow : AgentWorkflow)
  | addStep (workflowId stepId agentId : String) (parentStepId : Option String) (turnId : Int)
  | addStepObject (step : AgentStep)
  | markStepCompleted (stepId : String)

namespace StepGraphCall

/-- The step a call is there to add. -/
def stepId? : StepGraphCall → Option String
  | .addStep _ stepId _ _ _ => some stepId
  | .addStepObject step => some step.stepId
  | .addWorkflow _ | .addWorkflowObject _ | .markStepCompleted _ => none

end StepGraphCall

def AgentStepGraph.exec : StepGraphCall → AgentStepGraph.GraphM Unit
  | .addWorkflow workflowId => addWorkflow workflowId
  | .addWorkflowObject workflow => addWorkflowObject workflow
  | .addStep workflowId stepId agentId parentStepId turnId =>
      addStep workflowId stepId agentId parentStepId turnId
  | .addStepObject step => addStepObject step
  | .markStepCompleted stepId => markStepCompleted stepId

end IntelliL3
