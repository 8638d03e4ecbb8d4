import IntelliL3.Baselines.RetailWorkflowMetrics
import IntelliL3.Lib.Keyed

/-! # Workflows apart

A request is tracked in the context of its workflow only. So the metrics of a workflow are those
it would have alone, however its requests come between those of others.
-/

namespace IntelliL3

open Lib

namespace RetailWorkflowMetricsTracker

variable [PyBuiltins]

/-- The workflow and the task of a request that is tracked. -/
def addressOf (request : BenchmarkRequest) : Except PyError (Option (String × String)) := do
  if !(request.get "workload").equals (.str "retail_support_workflow") then
    return none
  let workflowId ← request.text "workflow_id"
  let taskId ← request.text "task_id"
  return if workflowId = "" ∨ taskId = "" then none else some (workflowId, taskId)

/-- The workflow of a request that is tracked. -/
def workflowOf (request : BenchmarkRequest) : Option String :=
  match addressOf request with
  | .ok (some (workflowId, _)) => some workflowId
  | _ => none

/-- What is known of a workflow, or a new context of the task. -/
def contextFor (self : RetailWorkflowMetricsTracker) (workflowId taskId : String) :
    Except PyError WorkflowContext :=
  match self.contexts.get? workflowId with
  | some context => .ok context
  | none => (fun task => { task, state := .new self.toolkit }) <$> self.validator.task taskId

/-- The step that a request takes in a context, and where the tracker is left. -/
def stepIn (self : RetailWorkflowMetricsTracker) (workflowId : String) (context : WorkflowContext)
    (request : BenchmarkRequest) :
    EStateM.Result PyError RetailWorkflowMetricsTracker (Dict String Rat) :=
  match step self.profile request context with
  | .ok metrics context => .ok metrics (self.setContext workflowId context)
  | .error e context => .error e (self.setContext workflowId context)

variable {self : RetailWorkflowMetricsTracker} {request : BenchmarkRequest}

omit [PyBuiltins] in
theorem setContext_setContext (self : RetailWorkflowMetricsTracker) (workflowId : String)
    (first second : WorkflowContext) :
    (self.setContext workflowId first).setContext workflowId second =
      self.setContext workflowId second := by
  simp only [setContext, Dict.set_set]

/-- The rest of a tracked request, once its workflow and its task are known. -/
theorem trackedIn (workflowId taskId : String) (self : RetailWorkflowMetricsTracker) :
    (contextOf workflowId taskId >>= fun context => do
      zoom (fun self => (self.contexts.get? workflowId).getD context)
        (fun self context => self.setContext workflowId context)
        (step (← get).profile request)) self = match self.contextFor workflowId taskId with
      | .error e => .error e self
      | .ok context => self.stepIn workflowId context request := by
  have read : ∀ (s : RetailWorkflowMetricsTracker) context (_ : s.profile = self.profile)
      (_ : (s.contexts.get? workflowId).getD context = context)
      (_ : ∀ c, s.setContext workflowId c = self.setContext workflowId c),
      (do zoom (fun self => (self.contexts.get? workflowId).getD context)
            (fun self context => self.setContext workflowId context)
            (step (← get).profile request) : TrackerM (Dict String Rat)) s =
        self.stepIn workflowId context request := by
    intro s context profile held written
    rw [bind_run, get_run]
    simp only [zoom_run, held, profile, written]
    rw [stepIn]
    cases step self.profile request context <;> rfl
  rw [bind_run, contextOf, bind_run, get_run, contextFor]
  cases known : self.contexts.get? workflowId with
  | some context =>
      simp only [known, pure_run]
      exact read self context rfl (by rw [known, Option.getD_some]) fun _ => rfl
  | none =>
      cases loaded : self.validator.task taskId with
      | error e => simp only [known, loaded, bind_run, raising_error]; rfl
      | ok task =>
          simp only [known, loaded, bind_run, raising_ok, modify_run, pure_run]
          refine read _ _ rfl ?_ fun c => setContext_setContext self workflowId _ c
          rw [setContext, Dict.get?_set, if_pos rfl, Option.getD_some]

/-- A request without an address is answered without a look at the workflows. -/
theorem metricsForRequest_eq (request : BenchmarkRequest) (self : RetailWorkflowMetricsTracker) :
    metricsForRequest request self = match addressOf request with
      | .error e => .error e self
      | .ok none => .ok .empty self
      | .ok (some (workflowId, taskId)) => match self.contextFor workflowId taskId with
        | .error e => .error e self
        | .ok context => self.stepIn workflowId context request := by
  unfold metricsForRequest addressOf
  split
  · rfl
  · cases workflow : request.text "workflow_id" with
    | error e => rfl
    | ok workflowId =>
        cases task : request.text "task_id" with
        | error e => rfl
        | ok taskId =>
            simp only [bind_run, raising_ok, ok_bind]
            split
            · rfl
            · exact trackedIn workflowId taskId self

/-! ## Interleaved workflows -/

/-- What the requests of a workflow depend on. -/
def partOf (workflowId : String) (self : RetailWorkflowMetricsTracker) :
    RetailProfile × RetailEndStateValidator × RetailToolKit × Option WorkflowContext :=
  (self.profile, self.validator, self.toolkit, self.contexts.get? workflowId)

theorem workflowOf_eq_some {workflowId : String}
    (tracked : workflowOf request = some workflowId) :
    ∃ taskId, addressOf request = .ok (some (workflowId, taskId)) := by
  rw [workflowOf] at tracked
  split at tracked
  · next taskId address =>
      cases tracked
      exact ⟨taskId, address⟩
  · cases tracked

omit [PyBuiltins] in
theorem partOf_setContext_ne {workflowId other : String} (apart : workflowId ≠ other)
    (context : WorkflowContext) : partOf other (self.setContext workflowId context) =
      partOf other self := by
  rw [partOf, setContext, Dict.get?_set_ne _ apart, partOf]

omit [PyBuiltins] in
theorem partOf_setContext (workflowId : String) (context : WorkflowContext) :
    partOf workflowId (self.setContext workflowId context) =
      (self.profile, self.validator, self.toolkit, some context) := by
  rw [partOf, setContext, Dict.get?_set, if_pos rfl]

theorem metricsForRequest_keyed : Keyed metricsForRequest workflowOf partOf where
  frame := by
    intro request workflowId self apart
    rw [metricsForRequest_eq]
    cases address : addressOf request with
    | error e => rfl
    | ok found =>
        cases found with
        | none => rfl
        | some pair =>
            obtain ⟨tracked, taskId⟩ := pair
            have other : tracked ≠ workflowId := by
              rintro rfl
              exact apart (by rw [workflowOf, address])
            simp only
            cases self.contextFor tracked taskId with
            | error e => rfl
            | ok context =>
                simp only [stepIn]
                cases step self.profile request context with
                | ok metrics context => exact partOf_setContext_ne other context
                | error e context => exact partOf_setContext_ne other context
  own := by
    intro request workflowId self self' tracked same
    obtain ⟨taskId, address⟩ := workflowOf_eq_some tracked
    have profile : self.profile = self'.profile := congrArg Prod.fst same
    have validator : self.validator = self'.validator := congrArg (·.2.1) same
    have toolkit : self.toolkit = self'.toolkit := congrArg (·.2.2.1) same
    have known : self.contexts.get? workflowId = self'.contexts.get? workflowId :=
      congrArg (·.2.2.2) same
    have context : self.contextFor workflowId taskId = self'.contextFor workflowId taskId := by
      rw [contextFor, contextFor, known, toolkit, validator]
    rw [metricsForRequest_eq, metricsForRequest_eq, address]
    simp only [context]
    cases self'.contextFor workflowId taskId with
    | error e => exact ⟨rfl, same⟩
    | ok context =>
        simp only [stepIn, profile]
        cases step self'.profile request context with
        | ok metrics context =>
            refine ⟨rfl, ?_⟩
            simp only [EStateResult.state_ok, partOf_setContext, profile, validator, toolkit]
        | error e context =>
            refine ⟨rfl, ?_⟩
            simp only [EStateResult.state_error, partOf_setContext, profile, validator, toolkit]

/-- The requests of a workflow get the metrics, and raise the exceptions, that they would if the
    tracker were given no others. -/
theorem workflow_metrics_isolated (self : RetailWorkflowMetricsTracker)
    (requests : List BenchmarkRequest) (workflowId : String) :
    outcomesOf metricsForRequest workflowOf workflowId self requests =
      outcomes metricsForRequest self (callsOf workflowOf workflowId requests) :=
  metricsForRequest_keyed.outcomesOf_eq requests rfl

end RetailWorkflowMetricsTracker

end IntelliL3
