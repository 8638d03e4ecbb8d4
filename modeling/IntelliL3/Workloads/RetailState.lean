import IntelliL3.Workloads.RetailTools

/-! # State of a retail workflow

`workloads/retail_state.py`: every step is recorded with what the tools had done before and
after it, and a replay goes through the recorded steps again. What a tool answers and appends
depends on its arguments and the dataset only, so a replay ends where the history ended.
-/

namespace IntelliL3

open Lib

/-- What the tools have done. -/
structure Snapshot where
  refundActions : List Json := []
  returnRequests : List Json := []

namespace Snapshot

def toJson (self : Snapshot) : Json :=
  .dict [("refund_actions", .list self.refundActions),
    ("return_requests", .list self.returnRequests)]

/-- What was done, and then more. -/
def append (self more : Snapshot) : Snapshot where
  refundActions := self.refundActions ++ more.refundActions
  returnRequests := self.returnRequests ++ more.returnRequests

/-- Both lists have only grown at their ends. -/
def GrownTo (self later : Snapshot) : Prop :=
  self.refundActions <+: later.refundActions ∧ self.returnRequests <+: later.returnRequests

@[simp] theorem append_nothing (self : Snapshot) : self.append {} = self := by
  simp only [append, List.append_nil]

theorem grownTo_append (self more : Snapshot) : self.GrownTo (self.append more) :=
  ⟨List.prefix_append _ _, List.prefix_append _ _⟩

theorem grownTo_refl (self : Snapshot) : self.GrownTo self :=
  ⟨List.prefix_rfl, List.prefix_rfl⟩

end Snapshot

def RetailToolKit.done (self : RetailToolKit) : Snapshot where
  refundActions := self.refundActions
  returnRequests := self.returnRequests

structure RetailStep where
  toolName : String
  args : ToolArgs

structure StepRecord extends RetailStep where
  result : Json
  preState : Snapshot
  postState : Snapshot

/-- A record as the dictionary it is. -/
def StepRecord.toJson (self : StepRecord) : Json :=
  .dict [
    ("tool_name", .str self.toolName),
    ("args", .dict self.args),
    ("result", self.result),
    ("pre_state", self.preState.toJson),
    ("post_state", self.postState.toJson)]

structure RetailWorkflowState where
  toolkit : RetailToolKit
  history : List StepRecord

namespace RetailWorkflowState

abbrev WorkflowM := EStateM PyError RetailWorkflowState

def reset (self : RetailWorkflowState) : RetailWorkflowState where
  toolkit := self.toolkit.resetRuntimeState
  history := []

/-- `RetailWorkflowState(toolkit)` -/
def new (toolkit : RetailToolKit) : RetailWorkflowState := reset ⟨toolkit, []⟩

def done (self : RetailWorkflowState) : Snapshot := self.toolkit.done

variable [PyBuiltins]

/-! A method is given how many calls deep it is called: the deeper, the less of the stack is left
to the copies. -/

def snapshot (frames : Nat) (self : RetailWorkflowState) : Except PyError Snapshot := do
  let refundActions ← deepcopy frames .list self.toolkit.refundActions
  let returnRequests ← deepcopy frames .list self.toolkit.returnRequests
  return { refundActions, returnRequests }

/-- What the tool has appended stays when a copy after it raises, and is not recorded. -/
def applyStep (frames : Nat) (step : RetailStep) : WorkflowM Json := do
  let pre ← raising ((← get).snapshot (frames + 1))
  let result ← zoom toolkit (fun self toolkit => { self with toolkit := toolkit })
    (RetailToolKit.execute step.toolName step.args)
  let post ← raising ((← get).snapshot (frames + 1))
  let record : StepRecord := {
    toolName := step.toolName
    args := ← raising (deepcopy frames .dict step.args)
    result := ← raising (deepcopy frames id result)
    preState := pre
    postState := post }
  modify fun self => { self with history := self.history ++ [record] }
  return result

/-- `history()` -/
def historyCopy (frames : Nat) (self : RetailWorkflowState) : Except PyError (List StepRecord) :=
  deepcopy frames (fun history => .list (history.map StepRecord.toJson)) self.history

def replay (frames : Nat) (steps : List RetailStep) : WorkflowM Snapshot := do
  modify reset
  steps.forM fun step => discard (applyStep (frames + 1) step)
  raising ((← get).snapshot (frames + 1))

def canonicalJson (state : Snapshot) : String := PyBuiltins.dumps state.toJson

def replayMatches (frames : Nat) : WorkflowM Bool := do
  match (← get).history.getLast? with
  | none => return true
  | some last =>
      let originalSteps := (← get).history.map StepRecord.toRetailStep
      let expected := last.postState
      let current ← replay (frames + 1) originalSteps
      return decide (canonicalJson current = canonicalJson expected)

end RetailWorkflowState

end IntelliL3
