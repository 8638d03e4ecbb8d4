import IntelliL3.Lib.Accumulate
import IntelliL3.Workloads.Requests
import IntelliL3.Workloads.RetailState
import IntelliL3.Workloads.RetailValidator

/-! # Metrics of retail workflows

`baselines/retail_workflow_metrics.py`: the tool of every request is executed with arguments made
up from the task, and the workflow is scored again after it. A metric is what the step changed in
the score of its workflow.
-/

namespace IntelliL3

open Lib

/-- How good the arguments are that a system makes up. -/
inductive RetailProfile where
  | baseline | candidate
  deriving DecidableEq

structure WorkflowContext where
  task : Json
  state : RetailWorkflowState
  prevToolArgErrors : Nat := 0
  prevPolicyViolation : Bool := false
  prevTaskSuccess : Bool := false
  prevFallbackSuccess : Bool := false

/-- The score so far, kept for the next step. -/
def WorkflowContext.scored (self : WorkflowContext) (score : TaskScore) :
    WorkflowContext :=
  { self with
    prevToolArgErrors := score.toolArgErrorCount
    prevPolicyViolation := score.policyViolation
    prevTaskSuccess := score.taskSuccess
    prevFallbackSuccess := score.fallbackSuccess }

/-- The toolkit is what `RetailToolKit()` loads for each workflow. -/
structure RetailWorkflowMetricsTracker where
  profile : RetailProfile
  validator : RetailEndStateValidator
  toolkit : RetailToolKit
  contexts : Dict String WorkflowContext

namespace RetailWorkflowMetricsTracker

abbrev TrackerM := EStateM PyError RetailWorkflowMetricsTracker

/-- `RetailWorkflowMetricsTracker(profile)`, with what the files hold -/
def new (profile : String) (validator : RetailEndStateValidator) (toolkit : RetailToolKit) :
    Except PyError RetailWorkflowMetricsTracker :=
  match profile with
  | "baseline" => .ok ⟨.baseline, validator, toolkit, .empty⟩
  | "candidate" => .ok ⟨.candidate, validator, toolkit, .empty⟩
  | _ => .error (.valueError "profile must be baseline or candidate")

/-- `self or other` -/
def orElse (self : Json) (other : Except PyError Json) : Except PyError Json :=
  if self.truthy then .ok self else other

variable [PyBuiltins]

def degradeArgs (toolName : String) (args : ToolArgs) : Except PyError ToolArgs := do
  match toolName with
  | "calculate_refund" =>
      let quantity ← (RetailToolKit.arg args "quantity" (.int 1)).toInt
      return Assoc.set args "quantity" (.int (quantity + 1))
  | "submit_refund" =>
      return Assoc.set args "reason_code" (.str "baseline_unverified_reason")
  | "update_return_request" => return Assoc.set args "note" (.str "baseline_path")
  | _ => return args

/-- The arguments of a tool that the task implies. -/
def impliedArgs (task : Json) (toolName : String) : Except PyError ToolArgs := do
  let taskInput ← task.get "input" (.dict [])
  let expected ← task.get "expected_outcome" (.dict [])
  let fallback ← orElse (← task.get "fallback_outcome") (.ok (.dict []))
  let orderId ← (← taskInput.get "order_id" (.str "")).toStr
  let itemId ← (← taskInput.get "requested_item_id" (.str "")).toStr
  let quantity ← (← taskInput.get "requested_quantity" (.int 1)).toInt
  match toolName with
  | "get_order" => return [("order_id", .str orderId)]
  | "search_policy" => return [("policy_key", .str "rules")]
  | "calculate_refund" => return [
      ("order_id", .str orderId),
      ("item_id", .str itemId),
      ("quantity", .int quantity)]
  | "submit_refund" =>
      let amount ← (← expected.get "refund_amount" (.float (.finite 0))).toFloat
      let reasonCode ← (← expected.get "reason_code" (.str "")).toStr
      return [
        ("order_id", .str orderId),
        ("item_id", .str itemId),
        ("amount", .float amount),
        ("reason_code", .str reasonCode)]
  | "update_return_request" =>
      let status ← orElse (← fallback.get "decision") do
        orElse (← expected.get "decision") (.ok (.str "pending"))
      let status ← status.toStr
      let note ← orElse (← fallback.get "reason_code") do
        orElse (← expected.get "reason_code") (.ok (.str ""))
      let note ← note.toStr
      return [
        ("order_id", .str orderId),
        ("item_id", .str itemId),
        ("status", .str status),
        ("note", .str note)]
  | _ => return []

def buildToolArgs (profile : RetailProfile) (task : Json) (toolName : String) :
    Except PyError ToolArgs := do
  let args ← impliedArgs task toolName
  if profile = .baseline then degradeArgs toolName args else return args

/-- What a step changed in the score of its workflow. -/
def metricsOf (context : WorkflowContext) (score : TaskScore) :
    Dict String Rat :=
  let deltaToolArgErrors := score.toolArgErrorCount - context.prevToolArgErrors
  Dict.ofRows [
    ("workflow_correctness_rate", indicator (score.taskSuccess && !context.prevTaskSuccess)),
    ("policy_violation_rate", indicator (score.policyViolation && !context.prevPolicyViolation)),
    ("tool_use_accuracy", indicator (deltaToolArgErrors = 0)),
    ("tool_arg_error_count", deltaToolArgErrors),
    ("fallback_success_rate", indicator (score.fallbackSuccess && !context.prevFallbackSuccess)),
    ("milestone_pass_rate", score.milestonePassRate)]

/-- The tool of a request, executed in the state of its workflow. -/
def executeTool (profile : RetailProfile) (request : BenchmarkRequest) :
    EStateM PyError WorkflowContext PUnit := do
  let toolName ← raising (request.text "tool_name")
  if toolName ≠ "" then
    let args ← raising (buildToolArgs profile (← get).task toolName)
    discard (zoom WorkflowContext.state (fun context state => { context with state := state })
      (RetailWorkflowState.applyStep 0 ⟨toolName, args⟩))

/-- The score of a workflow, of copies of its state and its history. -/
def scoreOf (context : WorkflowContext) : Except PyError TaskScore := do
  let snapshot ← context.state.snapshot 0
  let history ← context.state.historyCopy 0
  RetailEndStateValidator.scoreTask context.task snapshot.toJson (history.map StepRecord.toJson)

/-- A request of a workflow, in the context of the workflow. -/
def step (profile : RetailProfile) (request : BenchmarkRequest) :
    EStateM PyError WorkflowContext (Dict String Rat) := do
  executeTool profile request
  let context ← get
  let score ← raising (scoreOf context)
  set (context.scored score)
  return metricsOf context score

def setContext (self : RetailWorkflowMetricsTracker) (workflowId : String)
    (context : WorkflowContext) : RetailWorkflowMetricsTracker :=
  { self with contexts := self.contexts.set workflowId context }

/-- The context of a workflow, made when it is new. -/
def contextOf (workflowId taskId : String) : TrackerM WorkflowContext := do
  let self ← get
  match self.contexts.get? workflowId with
  | some context => return context
  | none =>
      let task ← raising (self.validator.task taskId)
      let context : WorkflowContext := { task, state := .new self.toolkit }
      modify (·.setContext workflowId context)
      return context

def metricsForRequest (request : BenchmarkRequest) : TrackerM (Dict String Rat) := do
  if !(request.get "workload").equals (.str "retail_support_workflow") then
    return .empty
  let workflowId ← raising (request.text "workflow_id")
  let taskId ← raising (request.text "task_id")
  if workflowId = "" ∨ taskId = "" then
    return .empty
  let context ← contextOf workflowId taskId
  zoom (fun self => (self.contexts.get? workflowId).getD context)
    (fun self context => self.setContext workflowId context)
    (step (← get).profile request)

end RetailWorkflowMetricsTracker

end IntelliL3
