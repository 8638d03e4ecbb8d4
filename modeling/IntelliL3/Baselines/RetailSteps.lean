import IntelliL3.Baselines.RetailTracking

/-! # Steps of tracked workflows

The arguments that a tracker makes up name the order and the item of the task under either
profile. So no step is ever an argument error, and the milestones of a workflow are decided by
the names of its tools.
-/

namespace IntelliL3

open Lib

open RetailEndStateValidator

namespace WorkflowContext

/-- The tools that were executed. -/
def tools (self : WorkflowContext) : List String := self.state.history.map fun r => r.toolName

end WorkflowContext

namespace RetailWorkflowMetricsTracker

variable [PyBuiltins]

/-! ## Arguments name the ids of the task -/

/-- The arguments that a tool takes, wherever they name an order or an item, name these. -/
structure Names (orderId itemId toolName : String) (args : ToolArgs) : Prop where
  order : toolName ∈ ["get_order", "calculate_refund", "submit_refund", "update_return_request"] →
    Assoc.get? args "order_id" = some (.str orderId)
  item : toolName ∈ ["calculate_refund", "submit_refund", "update_return_request"] →
    Assoc.get? args "item_id" = some (.str itemId)

variable {orderId itemId toolName : String} {args args' : ToolArgs}

omit [PyBuiltins] in
theorem Names.set (names : Names orderId itemId toolName args) {key : String}
    (order : key ≠ "order_id") (item : key ≠ "item_id") (value : Json) :
    Names orderId itemId toolName (Assoc.set args key value) where
  order among := by rw [Assoc.get?_set, if_neg order, names.order among]
  item among := by rw [Assoc.get?_set, if_neg item, names.item among]

theorem degradeArgs_names (names : Names orderId itemId toolName args)
    (degraded : degradeArgs toolName args = .ok args') :
    Names orderId itemId toolName args' := by
  unfold degradeArgs at degraded
  split at degraded
  · obtain ⟨quantity, -, set⟩ := bind_eq_ok.mp degraded
    cases set
    exact names.set (by decide) (by decide) _
  · cases degraded
    exact names.set (by decide) (by decide) _
  · cases degraded
    exact names.set (by decide) (by decide) _
  · cases degraded
    exact names

/-- The task implies arguments that name its order and its item. -/
theorem impliedArgs_names {task : Json} (implied : impliedArgs task toolName = .ok args) :
    ∃ orderId itemId, inputText task "order_id" = .ok orderId ∧
      inputText task "requested_item_id" = .ok itemId ∧
      Names orderId itemId toolName args := by
  unfold impliedArgs at implied
  obtain ⟨taskInput, input, implied⟩ := bind_eq_ok.mp implied
  obtain ⟨expected, -, implied⟩ := bind_eq_ok.mp implied
  obtain ⟨fallback, -, implied⟩ := bind_eq_ok.mp implied
  obtain ⟨fallback, -, implied⟩ := bind_eq_ok.mp implied
  obtain ⟨order, orderGot, implied⟩ := bind_eq_ok.mp implied
  obtain ⟨orderId, orderText, implied⟩ := bind_eq_ok.mp implied
  obtain ⟨item, itemGot, implied⟩ := bind_eq_ok.mp implied
  obtain ⟨itemId, itemText, implied⟩ := bind_eq_ok.mp implied
  obtain ⟨quantity, -, implied⟩ := bind_eq_ok.mp implied
  obtain ⟨quantity, -, implied⟩ := bind_eq_ok.mp implied
  refine ⟨orderId, itemId, ?_, ?_, ?_⟩
  · rw [inputText, input, ok_bind, orderGot, ok_bind, orderText]
  · rw [inputText, input, ok_bind, itemGot, ok_bind, itemText]
  · split at implied
    · cases implied
      exact ⟨fun _ => rfl, fun among => absurd among (by decide)⟩
    · cases implied
      exact ⟨fun among => absurd among (by decide), fun among => absurd among (by decide)⟩
    · cases implied
      exact ⟨fun _ => rfl, fun _ => rfl⟩
    · obtain ⟨_, -, implied⟩ := bind_eq_ok.mp implied
      obtain ⟨_, -, implied⟩ := bind_eq_ok.mp implied
      obtain ⟨_, -, implied⟩ := bind_eq_ok.mp implied
      obtain ⟨_, -, implied⟩ := bind_eq_ok.mp implied
      cases implied
      exact ⟨fun _ => rfl, fun _ => rfl⟩
    · obtain ⟨_, -, implied⟩ := bind_eq_ok.mp implied
      obtain ⟨_, -, implied⟩ := bind_eq_ok.mp implied
      obtain ⟨_, -, implied⟩ := bind_eq_ok.mp implied
      obtain ⟨_, -, implied⟩ := bind_eq_ok.mp implied
      obtain ⟨_, -, implied⟩ := bind_eq_ok.mp implied
      obtain ⟨_, -, implied⟩ := bind_eq_ok.mp implied
      cases implied
      exact ⟨fun _ => rfl, fun _ => rfl⟩
    · next order _ refund submit request =>
        cases implied
        have others : toolName ∉
            ["calculate_refund", "submit_refund", "update_return_request"] := by
          simp only [List.mem_cons, List.not_mem_nil, or_false]
          rintro (same | same | same)
          · exact refund same
          · exact submit same
          · exact request same
        refine ⟨fun among => ?_, fun among => ?_⟩
        · rcases List.mem_cons.mp among with rfl | among
          · exact absurd rfl order
          · exact (others among).elim
        · exact (others among).elim

/-- Under either profile the arguments name the order and the item of the task. -/
theorem buildToolArgs_names {profile : RetailProfile} {task : Json}
    (built : buildToolArgs profile task toolName = .ok args) :
    ∃ orderId itemId, inputText task "order_id" = .ok orderId ∧
      inputText task "requested_item_id" = .ok itemId ∧
      Names orderId itemId toolName args := by
  obtain ⟨implied, found, built⟩ := bind_eq_ok.mp built
  obtain ⟨orderId, itemId, order, item, names⟩ := impliedArgs_names found
  refine ⟨orderId, itemId, order, item, ?_⟩
  split at built
  · exact degradeArgs_names names built
  · cases built
    exact names

/-- A recorded step that names the ids of the task. -/
def Clean (task : Json) (record : StepRecord) : Prop :=
  ∃ orderId itemId, inputText task "order_id" = .ok orderId ∧
    inputText task "requested_item_id" = .ok itemId ∧
    Names orderId itemId record.toolName record.args

theorem argError_nil {tools : List String} {key expected error : String}
    (named : toolName ∈ tools → Assoc.get? args key = some (.str expected)) :
    argError tools key expected error toolName (.dict args) = .ok [] := by
  unfold argError
  split
  · next checked =>
      have got : (Json.dict args).get key (.str "") = .ok (.str expected) := by
        rw [Json.get, named checked.1, Option.getD_some]
      rw [got, ok_bind, Json.toStr, ok_bind, if_neg (not_not_intro rfl)]
      rfl
  · rfl

/-- A clean step is no argument error. -/
theorem argErrors_clean {task : Json} {record : StepRecord} (clean : Clean task record)
    (order : inputText task "order_id" = .ok orderId)
    (item : inputText task "requested_item_id" = .ok itemId) :
    argErrors orderId itemId record.toJson = .ok [] := by
  obtain ⟨orderId', itemId', order', item', names⟩ := clean
  rw [order, Except.ok.injEq] at order'
  rw [item, Except.ok.injEq] at item'
  subst order' item'
  have taken : record.toJson.get "args" (.dict []) = .ok (.dict record.args) := rfl
  have named : RetailEndStateValidator.toolName record.toJson = .ok record.toolName := rfl
  rw [argErrors, taken, ok_bind, named, ok_bind, argError_nil names.order, ok_bind,
    argError_nil names.item]
  rfl

theorem mapM_toolName (history : List StepRecord) :
    (history.map StepRecord.toJson).mapM RetailEndStateValidator.toolName =
      .ok (history.map fun record => record.toolName) := by
  induction history with
  | nil => rfl
  | cons record rest ih =>
      have named : RetailEndStateValidator.toolName record.toJson = .ok record.toolName := rfl
      rw [List.map_cons, List.mapM_cons, named, ok_bind, ih]
      rfl

theorem mapM_argErrors {task : Json} {history : List StepRecord}
    (clean : ∀ record ∈ history, Clean task record)
    (order : inputText task "order_id" = .ok orderId)
    (item : inputText task "requested_item_id" = .ok itemId) :
    (history.map StepRecord.toJson).mapM (argErrors orderId itemId) =
      .ok (history.map fun _ => []) := by
  induction history with
  | nil => rfl
  | cons record rest ih =>
      rw [List.forall_mem_cons] at clean
      rw [List.map_cons, List.mapM_cons, argErrors_clean clean.1 order item, ok_bind,
        ih clean.2]
      rfl

/-- The milestones of clean steps are decided by the names of the tools. -/
structure MilestonesOf (task : Json) (tools : List String) (milestones : Milestones) : Prop where
  noErrors : milestones.toolArgErrorCount = 0
  violation : milestones.policyViolation = submitsWithoutCalculate tools
  passed : ∃ required, (task.get "required_tools" (.list []) >>= Json.iterate >>=
      fun tools => tools.mapM Json.toStr) = .ok required ∧
    milestones.milestonePassRate = ((required.length -
      (required.zipIdx.filter fun row => tools[row.2]? ≠ some row.1).length : Nat) : Rat) /
        (max 1 required.length : Nat)

theorem validateMilestones_clean {task : Json} {history : List StepRecord}
    {milestones : Milestones} (clean : ∀ record ∈ history, Clean task record)
    (checked : validateMilestones task (history.map StepRecord.toJson) = .ok milestones) :
    MilestonesOf task (history.map fun record => record.toolName) milestones := by
  unfold validateMilestones at checked
  obtain ⟨listed, got, checked⟩ := bind_eq_ok.mp checked
  obtain ⟨items, iterated, checked⟩ := bind_eq_ok.mp checked
  obtain ⟨required, texts, checked⟩ := bind_eq_ok.mp checked
  rw [mapM_toolName, ok_bind] at checked
  obtain ⟨orderId, order, checked⟩ := bind_eq_ok.mp checked
  obtain ⟨itemId, item, checked⟩ := bind_eq_ok.mp checked
  rw [mapM_argErrors clean order item, ok_bind] at checked
  cases checked
  refine ⟨?_, rfl, required, ?_, rfl⟩
  · simp only [List.length_eq_zero_iff, List.flatten_eq_nil_iff, List.mem_map]
    rintro _ ⟨_, -, rfl⟩
    rfl
  · rw [got, ok_bind, iterated, ok_bind, texts]

theorem scoreTask_milestones {task snapshot : Json} {history : List Json} {score : TaskScore}
    (scored : scoreTask task snapshot history = .ok score) :
    ∃ milestones, validateMilestones task history = .ok milestones ∧
      score.toolArgErrorCount = milestones.toolArgErrorCount ∧
      score.policyViolation = milestones.policyViolation ∧
      score.milestonePassRate = milestones.milestonePassRate := by
  obtain ⟨endState, -, scored⟩ := bind_eq_ok.mp scored
  obtain ⟨milestones, checked, scored⟩ := bind_eq_ok.mp scored
  obtain ⟨allowed, -, scored⟩ := bind_eq_ok.mp scored
  obtain ⟨taskId, -, scored⟩ := bind_eq_ok.mp scored
  cases scored
  exact ⟨milestones, checked, rfl, rfl, rfl⟩

omit [PyBuiltins] in
/-- A policy that is violated stays violated. -/
theorem submitsWithoutCalculate_append {tools : List String}
    (violated : submitsWithoutCalculate tools = true) (more : List String) :
    submitsWithoutCalculate (tools ++ more) = true := by
  rw [submitsWithoutCalculate_iff] at violated ⊢
  obtain ⟨i, submitted, none⟩ := violated
  have inside : i < tools.length := (List.getElem?_eq_some_iff.mp submitted).1
  refine ⟨i, by rw [List.getElem?_append_left inside, submitted], fun j le => ?_⟩
  rw [List.getElem?_append_left (le.trans_lt inside)]
  exact none j le

/-! ## Steps of a workflow -/

/-- All that a context holds is clean, and no argument error was ever counted. -/
structure Sound (context : WorkflowContext) : Prop where
  clean : ∀ record ∈ context.state.history, Clean context.task record
  noErrors : context.prevToolArgErrors = 0

/-- What a tool leaves of a context: the score so far, and one more step unless there is none. -/
structure Executed (request : BenchmarkRequest) (before after : WorkflowContext) : Prop where
  task : after.task = before.task
  errors : after.prevToolArgErrors = before.prevToolArgErrors
  violation : after.prevPolicyViolation = before.prevPolicyViolation
  success : after.prevTaskSuccess = before.prevTaskSuccess
  fallback : after.prevFallbackSuccess = before.prevFallbackSuccess
  tools : ∃ toolName, request.text "tool_name" = .ok toolName ∧
    after.tools = before.tools ++ if toolName = "" then [] else [toolName]

theorem deepcopy_returned {α : Type} {frames : Nat} {toJson : α → Json} {value copy : α}
    (copied : deepcopy frames toJson value = .ok copy) : copy = value := by
  unfold deepcopy at copied
  split at copied
  · cases copied
    rfl
  · cases copied

/-- A step that raises is not recorded. -/
theorem applyStep_history (frames : Nat) (taken : RetailStep) (state : RetailWorkflowState) :
    match RetailWorkflowState.applyStep frames taken state with
    | .ok _ after => ∃ record : StepRecord, record.toRetailStep = taken ∧
        after.history = state.history ++ [record]
    | .error _ after => after.history = state.history := by
  rw [RetailWorkflowState.applyStep, bind_run, get_run]
  simp only [bind_run, zoom_run, get_run]
  cases state.snapshot (frames + 1) with
  | error e => rfl
  | ok pre =>
      simp only [raising_ok]
      cases RetailToolKit.execute taken.toolName taken.args state.toolkit with
      | error e toolkit => rfl
      | ok result toolkit =>
          simp only
          cases RetailWorkflowState.snapshot (frames + 1) ⟨toolkit, state.history⟩ with
          | error e => rfl
          | ok post =>
              simp only [raising_ok]
              cases copied : deepcopy frames Json.dict taken.args with
              | error e => rfl
              | ok args =>
                  cases deepcopy_returned copied
                  simp only [raising_ok]
                  cases deepcopy frames id result with
                  | error e => rfl
                  | ok result => exact ⟨_, rfl, rfl⟩

/-- A tool that is executed keeps all clean, whether it returns or raises. -/
theorem executeTool_run (profile : RetailProfile) (request : BenchmarkRequest)
    {context : WorkflowContext} (sound : Sound context) :
    match executeTool profile request context with
    | .ok _ after => Sound after ∧ Executed request context after
    | .error _ after => Sound after := by
  unfold executeTool
  cases named : request.text "tool_name" with
  | error e => exact sound
  | ok toolName =>
      simp only [bind_run, raising_ok]
      by_cases missing : toolName = ""
      · rw [if_neg (not_not_intro missing)]
        refine ⟨sound, rfl, rfl, rfl, rfl, rfl, toolName, named, ?_⟩
        rw [if_pos missing, List.append_nil]
      · rw [if_pos missing, bind_run, get_run]
        simp only
        cases built : buildToolArgs profile context.task toolName with
        | error e => exact sound
        | ok args =>
            obtain ⟨orderId, itemId, order, item, names⟩ := buildToolArgs_names built
            have recorded := applyStep_history 0 ⟨toolName, args⟩ context.state
            change match (zoom WorkflowContext.state
              (fun context state => { context with state := state })
              (RetailWorkflowState.applyStep 0 ⟨toolName, args⟩) >>= fun _ => pure PUnit.unit)
                context with
              | .ok _ after => Sound after ∧ Executed request context after
              | .error _ after => Sound after
            rw [bind_run, zoom_run]
            cases taken : RetailWorkflowState.applyStep 0 ⟨toolName, args⟩ context.state with
            | error e state =>
                rw [taken] at recorded
                exact ⟨by rw [recorded]; exact sound.clean, sound.noErrors⟩
            | ok result state =>
                rw [taken] at recorded
                obtain ⟨record, same, history⟩ := recorded
                have name : record.toolName = toolName := congrArg RetailStep.toolName same
                have given : record.args = args := congrArg RetailStep.args same
                refine ⟨⟨fun other member => ?_, sound.noErrors⟩, rfl, rfl, rfl, rfl, rfl,
                  toolName, named, ?_⟩
                · rcases List.mem_append.mp (history ▸ member) with before | last
                  · exact sound.clean other before
                  · rw [List.mem_singleton] at last
                    subst last
                    exact ⟨orderId, itemId, order, item, by rw [name, given]; exact names⟩
                · simp only [WorkflowContext.tools, history, List.map_append, List.map_cons,
                    List.map_nil, name, if_neg missing]

/-- A workflow that is scored is scored by its history. -/
theorem scoreOf_returned {context : WorkflowContext} {score : TaskScore}
    (scored : scoreOf context = .ok score) : ∃ snapshot, scoreTask context.task snapshot
      (context.state.history.map StepRecord.toJson) = .ok score := by
  obtain ⟨snapshot, -, scored⟩ := bind_eq_ok.mp scored
  obtain ⟨history, copied, scored⟩ := bind_eq_ok.mp scored
  cases deepcopy_returned copied
  exact ⟨_, scored⟩

/-- What a request that returns is told: its score has the milestones of the tools. -/
structure Told (request : BenchmarkRequest) (before after : WorkflowContext)
    (metrics : Dict String Rat) : Prop where
  task : after.task = before.task
  tools : ∃ toolName, request.text "tool_name" = .ok toolName ∧
    after.tools = before.tools ++ if toolName = "" then [] else [toolName]
  scored : ∃ score milestones, MilestonesOf after.task after.tools milestones ∧
    score.toolArgErrorCount = milestones.toolArgErrorCount ∧
    score.policyViolation = milestones.policyViolation ∧
    score.milestonePassRate = milestones.milestonePassRate ∧
    metrics = metricsOf before score ∧ after.prevPolicyViolation = score.policyViolation

theorem step_run (profile : RetailProfile) (request : BenchmarkRequest)
    {context : WorkflowContext} (sound : Sound context) :
    match step profile request context with
    | .ok metrics after => Sound after ∧ Told request context after metrics
    | .error _ after => Sound after := by
  have executed := executeTool_run profile request sound
  rw [step, bind_run]
  cases ran : executeTool profile request context with
  | error e after =>
      rw [ran] at executed
      exact executed
  | ok _ after =>
      rw [ran] at executed
      obtain ⟨held, done⟩ := executed
      simp only [bind_run, get_run]
      cases scored : scoreOf after with
      | error e => exact held
      | ok score =>
          obtain ⟨snapshot, scored⟩ := scoreOf_returned scored
          obtain ⟨milestones, checked, errors, violation, rate⟩ := scoreTask_milestones scored
          have clean := validateMilestones_clean held.clean checked
          have sameMetrics : metricsOf after score = metricsOf context score := by
            simp only [metricsOf, done.errors, done.violation, done.success, done.fallback]
          simp only [raising_ok, set_run, pure_run]
          refine ⟨⟨held.clean, errors.trans clean.noErrors⟩, done.task, done.tools, score,
            milestones, clean, errors, violation, rate, sameMetrics, rfl⟩

/-! ## Runs of a tracker -/

/-- Every context is sound. -/
def AllSound (self : RetailWorkflowMetricsTracker) : Prop :=
  ∀ workflowId context, self.contexts.get? workflowId = some context → Sound context

variable {self after : RetailWorkflowMetricsTracker} {request : BenchmarkRequest}
  {metrics : Dict String Rat}

theorem allSound_fresh (profile : RetailProfile) (validator : RetailEndStateValidator)
    (toolkit : RetailToolKit) : AllSound ⟨profile, validator, toolkit, .empty⟩ := by
  intro workflowId context held
  cases held

theorem AllSound.setContext (sound : AllSound self) {context : WorkflowContext}
    (held : Sound context) (workflowId : String) :
    AllSound (self.setContext workflowId context) := by
  intro other context' found
  rw [RetailWorkflowMetricsTracker.setContext, Dict.get?_set] at found
  split at found
  · cases found
    exact held
  · exact sound other context' found

theorem AllSound.contextFor (sound : AllSound self) {workflowId taskId : String}
    {context : WorkflowContext} (found : self.contextFor workflowId taskId = .ok context) :
    Sound context := by
  unfold RetailWorkflowMetricsTracker.contextFor at found
  split at found
  · next known =>
      cases found
      exact sound workflowId _ known
  · cases loaded : self.validator.task taskId with
    | error e =>
        rw [loaded] at found
        cases found
    | ok task =>
        rw [loaded] at found
        cases found
        exact ⟨fun record member => (List.not_mem_nil member).elim, rfl⟩

/-- A request that is told its metrics: its workflow is left in the context it was told in. -/
structure Tracked (tracker : RetailWorkflowMetricsTracker) (request : BenchmarkRequest)
    (metrics : Dict String Rat) (after : RetailWorkflowMetricsTracker) (workflowId : String) :
    Prop where
  tracked : workflowOf request = some workflowId
  told : ∃ taskId before context, addressOf request = .ok (some (workflowId, taskId)) ∧
    tracker.contextFor workflowId taskId = .ok before ∧ Told request before context metrics ∧
    Sound context ∧ after = tracker.setContext workflowId context

theorem metricsForRequest_run (sound : AllSound self) (request : BenchmarkRequest) :
    match metricsForRequest request self with
    | .ok metrics after => (workflowOf request = none ∧ metrics = .empty ∧ after = self) ∨
        ∃ workflowId, Tracked self request metrics after workflowId
    | .error _ after => AllSound after := by
  rw [metricsForRequest_eq]
  cases address : addressOf request with
  | error e => exact sound
  | ok found =>
      cases found with
      | none => exact Or.inl ⟨by rw [workflowOf, address], rfl, rfl⟩
      | some pair =>
          obtain ⟨workflowId, taskId⟩ := pair
          simp only
          cases known : self.contextFor workflowId taskId with
          | error e => exact sound
          | ok before =>
              have stepped := step_run self.profile request (sound.contextFor known)
              simp only [stepIn]
              cases ran : step self.profile request before with
              | error e context =>
                  rw [ran] at stepped
                  exact sound.setContext stepped workflowId
              | ok metrics context =>
                  rw [ran] at stepped
                  exact Or.inr ⟨workflowId, by rw [workflowOf, address], taskId, before, context,
                    address, known, stepped.2, stepped.1, rfl⟩

theorem metricsForRequest_sound (sound : AllSound self) (request : BenchmarkRequest) :
    AllSound (EStateResult.state (metricsForRequest request self)) := by
  have run := metricsForRequest_run sound request
  cases ran : metricsForRequest request self with
  | error e after =>
      rw [ran] at run
      exact run
  | ok metrics after =>
      rw [ran] at run
      rcases run with ⟨-, -, rfl⟩ | ⟨workflowId, -, _, _, context, -, -, -, held, rfl⟩
      · exact sound
      · exact sound.setContext held workflowId

omit [PyBuiltins] in
/-- The metric of a name, that every tracked request is told. -/
theorem metricsOf_get? (context : WorkflowContext) (score : TaskScore) :
    (metricsOf context score).get? "policy_violation_rate" =
        some (indicator (score.policyViolation && !context.prevPolicyViolation)) ∧
      (metricsOf context score).get? "tool_use_accuracy" =
        some (indicator (score.toolArgErrorCount - context.prevToolArgErrors = 0)) ∧
      (metricsOf context score).get? "tool_arg_error_count" =
        some (score.toolArgErrorCount - context.prevToolArgErrors : Nat) ∧
      (metricsOf context score).get? "milestone_pass_rate" = some score.milestonePassRate := by
  simp [metricsOf, Dict.ofRows, Dict.get?_set]

/-- No system ever makes an argument error: whatever was requested before, and of whatever
    workflows, the tools of a request are used with the order and the item of its task. -/
theorem tool_use_always_accurate {profile : String} {validator : RetailEndStateValidator}
    {toolkit : RetailToolKit} {fresh : RetailWorkflowMetricsTracker}
    (built : new profile validator toolkit = .ok fresh) (earlier : List BenchmarkRequest)
    {workflowId : String} (tracked : workflowOf request = some workflowId)
    (told : EStateResult.outcome (metricsForRequest request
      (drive metricsForRequest fresh earlier)) = .ok metrics) :
    metrics.get? "tool_arg_error_count" = some 0 ∧
      metrics.get? "tool_use_accuracy" = some 1 := by
  have start : AllSound fresh := by
    unfold new at built
    split at built <;> cases built <;> exact allSound_fresh _ _ _
  have sound : AllSound (drive metricsForRequest fresh earlier) :=
    drive_invariant (I := AllSound) (fun s c _ held => metricsForRequest_sound held c) start
  have run := metricsForRequest_run sound request
  cases ran : metricsForRequest request (drive metricsForRequest fresh earlier) with
  | error e after =>
      rw [ran] at told
      cases told
  | ok metrics' after =>
      rw [ran] at run told
      cases told
      rcases run with ⟨untracked, -⟩ | ⟨_, -, _, before, context, -, known, told, held, -⟩
      · rw [untracked] at tracked
        cases tracked
      · obtain ⟨score, milestones, clean, errors, -, -, rfl, -⟩ := told.scored
        obtain ⟨-, accuracy, count, -⟩ := metricsOf_get? before score
        rw [count, accuracy, errors, clean.noErrors, Nat.zero_sub]
        exact ⟨rfl, rfl⟩

end RetailWorkflowMetricsTracker

namespace RetailWorkflowMetricsTracker

open Reference

def refundTask : Json := .dict [
  ("task_id", .str "TASK-001"),
  ("input", .dict [
    ("order_id", .str "ORD-1001"),
    ("requested_item_id", .str "ITEM-1001-1")]),
  ("required_tools", .list [.str "get_order"]),
  ("expected_outcome", .dict [("decision", .str "approve_refund")])]

def refundTasks : RetailEndStateValidator where
  tasks := .set .empty "TASK-001" refundTask

def noOrders : RetailToolKit where
  orders := .empty
  orderItems := .list []
  policies := .dict []

/-- A request of a workflow that submits a refund. -/
def submission (workflowId : String) : BenchmarkRequest where
  prompt := ""
  sessionId := "session"
  timestamp := 0
  metadata := .ofRows [
    ("workload", .str "retail_support_workflow"),
    ("workflow_id", .str workflowId),
    ("task_id", .str "TASK-001"),
    ("tool_name", .str "submit_refund")]

theorem tool_use_accurate_of_submission : ∃ metrics : Dict String Rat,
    metrics.get? "tool_arg_error_count" = some 0 ∧ metrics.get? "tool_use_accuracy" = some 1 :=
  ⟨_, tool_use_always_accurate (show new "baseline" refundTasks noOrders = .ok _ from rfl)
    [submission "b"] (show workflowOf (submission "a") = some "a" from rfl) rfl⟩

end RetailWorkflowMetricsTracker

end IntelliL3
