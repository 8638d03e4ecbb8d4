import Mathlib.Tactic.NormNum
import Mathlib.Tactic.Ring
import IntelliL3.Lib.Blocks
import IntelliL3.Lib.Drawing
import IntelliL3.Lib.Numbered
import IntelliL3.Workloads.AgenticWorkflow

/-! # What agentic workflows look like

Whatever is drawn, the requests of a workload are laid out workflow by workflow and turn by turn,
every step names the one before it as its parent, and the traces tell of the same steps.
-/

namespace IntelliL3

open Lib

namespace AgenticWorkflowWorkload

/-! ## Layout -/

/-- What is drawn in all. -/
structure Draws where
  workflow : Nat → WorkflowDraws
  turn : Nat → Nat → TurnDraws

/-- The step before a turn. -/
def parentOf (workflowIndex : Nat) : Nat → String
  | 0 => ""
  | turn + 1 => stepIdOf (workflowIdOf workflowIndex) turn

section

variable [PyRuntime]

/-- A trace with the turns of a workflow in it. -/
def traceOf (self : AgenticWorkflowWorkload) (workflowIndex : Nat) (workflow : WorkflowDraws)
    (draws : Nat → TurnDraws) (trace : WorkflowTrace) (turns : Nat) : WorkflowTrace :=
  (List.range turns).foldl
    (fun trace turn =>
      let prompt := self.promptOf workflowIndex workflow turn (draws turn)
      recordStep (stepIdOf (workflowIdOf workflowIndex) turn) turn prompt.length (draws turn) trace)
    trace

def requestAt (self : AgenticWorkflowWorkload) (draws : Draws) (workflowIndex turn : Nat) :
    BenchmarkRequest :=
  self.requestOf workflowIndex (draws.workflow workflowIndex) turn
    (workflowIndex * self.turnsPerWorkflow + turn) (parentOf workflowIndex turn)
    (draws.turn workflowIndex turn)

def workflowRequests (self : AgenticWorkflowWorkload) (draws : Draws) (workflowIndex : Nat) :
    List BenchmarkRequest :=
  (List.range self.turnsPerWorkflow).map (self.requestAt draws workflowIndex)

def allRequests (self : AgenticWorkflowWorkload) (draws : Draws) : List BenchmarkRequest :=
  (List.range self.numWorkflows).flatMap (self.workflowRequests draws)

def traceAt (self : AgenticWorkflowWorkload) (objMeta : Nat → ObjectMeta) (draws : Draws)
    (workflowIndex : Nat) : WorkflowTrace :=
  self.traceOf workflowIndex (draws.workflow workflowIndex) (draws.turn workflowIndex)
    (self.emptyTrace (objMeta workflowIndex) workflowIndex (draws.workflow workflowIndex))
    self.turnsPerWorkflow

end

/-- A workflow, with all that is drawn for it. -/
def takeFlow [PyRuntime] (self : AgenticWorkflowWorkload) (objMeta : Nat → ObjectMeta)
    (loop : WorkflowLoop) (workflowIndex : Nat) (flow : WorkflowDraws × (Nat → TurnDraws)) :
    WorkflowLoop :=
  let turns := (List.range self.turnsPerWorkflow).foldl
    (fun loop turn => self.addTurn workflowIndex flow.1 loop turn (flow.2 turn))
    { requests := loop.requests
      trace := self.emptyTrace (objMeta workflowIndex) workflowIndex flow.1
      timestampIndex := loop.timestampIndex }
  { requests := turns.requests
    traces := loop.traces ++ [turns.trace]
    timestampIndex := turns.timestampIndex }

/-! ## What is drawn -/

section

variable [PyRng]

/-- All that is drawn for a workflow. -/
def drawFlow (self : AgenticWorkflowWorkload) (workflowIndex : Nat) :
    Draw (WorkflowDraws × (Nat → TurnDraws)) := fun rng =>
  let (workflow, rng) := self.drawWorkflow workflowIndex rng
  ((workflow, Drawing.drawn (self.drawTurn workflowIndex) rng),
    Drawing.after (self.drawTurn workflowIndex) rng self.turnsPerWorkflow)

def draws (self : AgenticWorkflowWorkload) : Draws where
  workflow workflowIndex :=
    (Drawing.drawn self.drawFlow (PyRandom.seeded self.seed) workflowIndex).1
  turn workflowIndex :=
    (Drawing.drawn self.drawFlow (PyRandom.seeded self.seed) workflowIndex).2

end

/-- What can be drawn for a turn. -/
structure Drawn (draws : TurnDraws) : Prop where
  tool : draws.toolName = "" ∨ draws.toolName ∈ tools
  latency : 0 ≤ draws.actualLatency

section

variable [PyRng] {self : AgenticWorkflowWorkload}

theorem chooseTool_mem : Yields chooseTool (· ∈ tools) := fun _ => List.get_mem _ _

theorem sampleToolLatency_nonneg [LawfulRng] : Yields self.sampleToolLatency (0 ≤ ·) := by
  intro rng
  have unit := LawfulRng.random_unit rng
  have width := sub_nonneg.mpr self.latencyOrdered
  exact add_nonneg self.latencyNonneg (mul_nonneg width unit.1)

theorem drawTool_tool : Yields self.drawTool (fun name => name = "" ∨ name ∈ tools) := by
  refine Yields.bind Yields.trivial fun called _ => ?_
  cases called with
  | true => exact fun rng => .inr (chooseTool_mem rng)
  | false => exact Yields.pure (.inl rfl)

theorem drawLatency_nonneg [LawfulRng] (name : String) :
    Yields (self.drawLatency name) (0 ≤ ·) := by
  unfold drawLatency
  split
  · exact sampleToolLatency_nonneg
  · exact Yields.pure (le_refl 0)

theorem drawTurn_drawn [LawfulRng] (workflowIndex turn : Nat) :
    Yields (self.drawTurn workflowIndex turn) Drawn := by
  refine Yields.bind Yields.trivial fun branchId _ => ?_
  refine Yields.bind drawTool_tool fun toolName tool => ?_
  refine Yields.bind (drawLatency_nonneg toolName) fun actualLatency latency => ?_
  refine Yields.bind Yields.trivial fun ragCall _ => ?_
  exact Yields.pure { tool, latency }

theorem drawFlow_drawn [LawfulRng] (workflowIndex : Nat) :
    Yields (self.drawFlow workflowIndex) fun flow => ∀ turn, Drawn (flow.2 turn) :=
  fun _ turn => Drawing.drawn_yields (drawTurn_drawn workflowIndex) _ turn

/-- Whatever the generator does, what a workload draws can be drawn. -/
theorem draws_drawn [LawfulRng] (workflowIndex turn : Nat) :
    Drawn (self.draws.turn workflowIndex turn) :=
  Drawing.drawn_yields drawFlow_drawn _ workflowIndex turn

end

/-! ## The loops, laid out -/

section

variable [PyRuntime] {self : AgenticWorkflowWorkload} {workflowIndex : Nat}
  {workflow : WorkflowDraws}

omit [PyRuntime] in
theorem traceOf_succ (draws : Nat → TurnDraws) (trace : WorkflowTrace) (turns : Nat) :
    self.traceOf workflowIndex workflow draws trace (turns + 1) =
      recordStep (stepIdOf (workflowIdOf workflowIndex) turns) turns
        (self.promptOf workflowIndex workflow turns (draws turns)).length (draws turns)
        (self.traceOf workflowIndex workflow draws trace turns) := by
  rw [traceOf, List.range_succ, List.foldl_append]
  rfl

/-- The turns of a workflow, one after another. -/
theorem foldl_addTurn (draws : Nat → TurnDraws) {start : TurnLoop} (first : start.parentStepId = "")
    (turns : Nat) :
    (List.range turns).foldl
      (fun loop turn => self.addTurn workflowIndex workflow loop turn (draws turn)) start =
      { requests := start.requests ++ (List.range turns).map fun turn =>
          self.requestOf workflowIndex workflow turn (start.timestampIndex + turn)
            (parentOf workflowIndex turn) (draws turn)
        trace := self.traceOf workflowIndex workflow draws start.trace turns
        parentStepId := parentOf workflowIndex turns
        timestampIndex := start.timestampIndex + turns } := by
  induction turns with
  | zero =>
      cases start
      cases first
      simp [traceOf, parentOf]
  | succ turns ih =>
      rw [List.range_succ, List.foldl_append, ih, List.map_append, traceOf_succ]
      simp only [List.foldl_cons, List.foldl_nil, addTurn, List.map_cons, List.map_nil,
        List.append_assoc, parentOf, Nat.add_assoc]
      rfl

theorem foldl_takeFlow (objMeta : Nat → ObjectMeta) (draws : Draws) (workflows : Nat) :
    (List.range workflows).foldl
      (fun loop workflowIndex => self.takeFlow objMeta loop workflowIndex
        (draws.workflow workflowIndex, draws.turn workflowIndex)) {} =
      { requests := (List.range workflows).flatMap (self.workflowRequests draws)
        traces := (List.range workflows).map (self.traceAt objMeta draws)
        timestampIndex := workflows * self.turnsPerWorkflow } := by
  induction workflows with
  | zero => simp
  | succ workflows ih =>
      rw [List.range_succ, List.foldl_append, ih, List.flatMap_append, List.map_append,
        Nat.succ_mul, List.foldl_cons, List.foldl_nil, takeFlow, foldl_addTurn _ rfl]
      simp only [List.flatMap_cons, List.flatMap_nil, List.append_nil, List.map_cons, List.map_nil]
      rfl

variable [PyRng]

theorem foldlM_takeTurn (start : TurnLoop) (rng : PyRandom.Rng) (turns : Nat) :
    ((List.range turns).foldlM (self.takeTurn workflowIndex workflow) start) rng =
      ((List.range turns).foldl (fun loop turn => self.addTurn workflowIndex workflow loop turn
          (Drawing.drawn (self.drawTurn workflowIndex) rng turn)) start,
        Drawing.after (self.drawTurn workflowIndex) rng turns) :=
  Drawing.foldlM_range (self.drawTurn workflowIndex) (self.takeTurn workflowIndex workflow)
    (self.addTurn workflowIndex workflow) (fun _ _ _ => rfl) start rng turns

theorem takeTurns_eq (objMeta : Nat → ObjectMeta) (loop : WorkflowLoop) (workflowIndex : Nat)
    (rng : PyRandom.Rng) :
    self.takeTurns objMeta loop workflowIndex rng =
      (self.takeFlow objMeta loop workflowIndex (self.drawFlow workflowIndex rng).1,
        (self.drawFlow workflowIndex rng).2) := by
  have opened : self.takeTurns objMeta loop workflowIndex rng =
      let flow := self.drawWorkflow workflowIndex rng
      let turns := (List.range self.turnsPerWorkflow).foldlM
        (self.takeTurn workflowIndex flow.1) {
          requests := loop.requests
          trace := self.emptyTrace (objMeta workflowIndex) workflowIndex flow.1
          timestampIndex := loop.timestampIndex } flow.2
      ({ requests := turns.1.requests
         traces := loop.traces ++ [turns.1.trace]
         timestampIndex := turns.1.timestampIndex }, turns.2) := rfl
  rw [opened]
  dsimp only
  rw [foldlM_takeTurn]
  rfl

/-- The loops draw their way through the workflows; what they return is laid out over what is
drawn. -/
theorem generate_eq (objMeta : Nat → ObjectMeta) :
    self.generate objMeta =
      { requests := self.allRequests self.draws
        traces := (List.range self.numWorkflows).map (self.traceAt objMeta self.draws)
        timestampIndex := self.numWorkflows * self.turnsPerWorkflow } := by
  rw [generate, Drawing.foldlM_range self.drawFlow _ _ (takeTurns_eq objMeta)]
  exact foldl_takeFlow objMeta self.draws self.numWorkflows

end

/-! ## Steps and their parents -/

section

variable [PyRuntime] {self : AgenticWorkflowWorkload} {workflowIndex : Nat}

theorem allRequests_eq (draws : Draws) :
    self.allRequests draws = (List.range (self.numWorkflows * self.turnsPerWorkflow)).map fun k =>
      self.requestAt draws (k / self.turnsPerWorkflow) (k % self.turnsPerWorkflow) :=
  Blocks.flatMap_range (self.requestAt draws) _ _

omit [PyRuntime] in
theorem stepIdOf_inj {workflowIndex turn workflowIndex' turn' : Nat}
    (same : stepIdOf (workflowIdOf workflowIndex) turn =
      stepIdOf (workflowIdOf workflowIndex') turn') :
    workflowIndex = workflowIndex' ∧ turn = turn' :=
  twiceNumbered_inj (c := '_') rfl (by decide)
    (show "workflow_" ++ toString workflowIndex ++ "_step_" ++ toString turn =
      "workflow_" ++ toString workflowIndex' ++ "_step_" ++ toString turn' from same)

theorem metadataRows_nodup (workflowIndex : Nat) (workflow : WorkflowDraws) (turn : Nat)
    (parentStepId : String) (draws : TurnDraws) :
    ((self.metadataRows workflowIndex workflow turn parentStepId draws).map Prod.fst).Nodup := by
  rw [metadataRows]
  simp

/-- A request has the metadata that is listed for it. -/
theorem requestAt_get {draws : Draws} {workflowIndex turn : Nat} {key : String} {value : Json}
    (among : (key, value) ∈ self.metadataRows workflowIndex (draws.workflow workflowIndex) turn
      (parentOf workflowIndex turn) (draws.turn workflowIndex turn)) (default : Json) :
    (self.requestAt draws workflowIndex turn).get key default = value := by
  rw [BenchmarkRequest.get, requestAt, requestOf,
    Dict.get?_ofRows_of_mem (metadataRows_nodup _ _ _ _ _) among, Option.getD_some]

theorem requestAt_session (draws : Draws) (workflowIndex turn : Nat) :
    (self.requestAt draws workflowIndex turn).sessionId = s!"agent_session_{workflowIndex}" := rfl

theorem requestAt_timestamp (draws : Draws) (workflowIndex turn : Nat) :
    (self.requestAt draws workflowIndex turn).timestamp = self.startTimestamp +
      ((workflowIndex * self.turnsPerWorkflow + turn : Nat) : Rat) * self.interarrivalSeconds :=
  rfl

theorem requestAt_stepId (draws : Draws) (workflowIndex turn : Nat) (default : Json) :
    (self.requestAt draws workflowIndex turn).get "step_id" default =
      .str (stepIdOf (workflowIdOf workflowIndex) turn) :=
  requestAt_get (by simp [metadataRows]) default

theorem requestAt_workflowId (draws : Draws) (workflowIndex turn : Nat) (default : Json) :
    (self.requestAt draws workflowIndex turn).get "workflow_id" default =
      .str (workflowIdOf workflowIndex) :=
  requestAt_get (by simp [metadataRows]) default

theorem requestAt_toolName (draws : Draws) (workflowIndex turn : Nat) (default : Json) :
    (self.requestAt draws workflowIndex turn).get "tool_name" default =
      .str (draws.turn workflowIndex turn).toolName :=
  requestAt_get (by simp [metadataRows]) default

theorem requestAt_ragCall (draws : Draws) (workflowIndex turn : Nat) (default : Json) :
    (self.requestAt draws workflowIndex turn).get "rag_call" default =
      .int (if (draws.turn workflowIndex turn).ragCall then 1 else 0) :=
  requestAt_get (by simp [metadataRows]) default

theorem requestAt_parent (draws : Draws) (workflowIndex turn : Nat) (default : Json) :
    (self.requestAt draws workflowIndex turn).get "parent_step_id" default =
      .str (parentOf workflowIndex turn) :=
  requestAt_get (by simp [metadataRows]) default

omit [PyRuntime] in
theorem traceOf_steps (workflow : WorkflowDraws) (draws : Nat → TurnDraws) (trace : WorkflowTrace)
    (turns : Nat) :
    (self.traceOf workflowIndex workflow draws trace turns).orderedSteps =
      trace.orderedSteps ++
        (List.range turns).map (stepIdOf (workflowIdOf workflowIndex)) := by
  induction turns with
  | zero => simp [traceOf]
  | succ turns ih =>
      rw [traceOf_succ, recordStep, ih, List.range_succ, List.map_append, List.append_assoc]
      rfl

omit [PyRuntime] in
theorem traceOf_workflowId (workflow : WorkflowDraws) (draws : Nat → TurnDraws)
    (trace : WorkflowTrace) (turns : Nat) :
    (self.traceOf workflowIndex workflow draws trace turns).workflowId = trace.workflowId := by
  induction turns with
  | zero => rfl
  | succ turns ih => rw [traceOf_succ, recordStep, ih]

/-- How the requests of a workload hang together, and with its traces. -/
structure LaidOut (self : AgenticWorkflowWorkload) (loop : WorkflowLoop) : Prop where
  count : loop.requests.length = self.numWorkflows * self.turnsPerWorkflow
  distinct : (loop.requests.map fun request => request.get "step_id").Nodup
  traced : loop.requests.map (fun request => request.get "step_id") =
    loop.traces.flatMap fun trace => trace.orderedSteps.map Json.str
  first : ∀ i request, loop.requests[i]? = some request → i % self.turnsPerWorkflow = 0 →
    request.get "parent_step_id" = .str ""
  later : ∀ i before request, loop.requests[i]? = some before →
    loop.requests[i + 1]? = some request → (i + 1) % self.turnsPerWorkflow ≠ 0 →
    request.get "parent_step_id" = before.get "step_id" ∧
      request.get "workflow_id" = before.get "workflow_id" ∧
      request.sessionId = before.sessionId ∧
      request.timestamp = before.timestamp + self.interarrivalSeconds

variable [PyRng]

theorem generate_laidOut (self : AgenticWorkflowWorkload) (objMeta : Nat → ObjectMeta) :
    self.LaidOut (self.generate objMeta) := by
  rw [generate_eq]
  -- a request is the one of its turn in its workflow
  have place {i : Nat} {request : BenchmarkRequest}
      (found : (self.allRequests self.draws)[i]? = some request) :
      request = self.requestAt self.draws (i / self.turnsPerWorkflow)
        (i % self.turnsPerWorkflow) := by
    rw [allRequests_eq, List.getElem?_map] at found
    obtain ⟨k, at_i, rfl⟩ := Option.map_eq_some_iff.mp found
    obtain ⟨within, rfl⟩ := List.getElem?_eq_some_iff.mp at_i
    rw [List.getElem_range]
  have steps : (self.allRequests self.draws).map (fun request => request.get "step_id") =
      (List.range self.numWorkflows).flatMap fun workflowIndex =>
        (List.range self.turnsPerWorkflow).map fun turn =>
          Json.str (stepIdOf (workflowIdOf workflowIndex) turn) := by
    simp only [allRequests, workflowRequests, List.map_flatMap, List.map_map, Function.comp_def,
      requestAt_stepId]
  refine { count := ?_, distinct := ?_, traced := ?_, first := ?_, later := ?_ }
  · rw [allRequests_eq, List.length_map, List.length_range]
  · rw [steps]
    exact Blocks.nodup (fun _ _ _ _ same => stepIdOf_inj (Json.str.inj same)) _ _
  · rw [steps]
    simp only [List.flatMap_map, traceAt, traceOf_steps, emptyTrace, List.nil_append, List.map_map,
      Function.comp_def]
  · intro i request found start
    rw [place found, requestAt_parent, start, parentOf]
  · intro i before request earlier found inside
    obtain ⟨workflow, turn⟩ := Blocks.succ_within self.turnsPositive inside
    rw [place earlier, place found, workflow, turn]
    refine ⟨?_, ?_, ?_, ?_⟩
    · rw [requestAt_parent, requestAt_stepId, parentOf]
    · rw [requestAt_workflowId, requestAt_workflowId]
    · rw [requestAt_session, requestAt_session]
    · rw [requestAt_timestamp, requestAt_timestamp]
      push_cast
      ring

end

/-! ## Traces -/

section

variable {self : AgenticWorkflowWorkload} {workflowIndex : Nat} {workflow : WorkflowDraws}
  {draws : Nat → TurnDraws} {start : WorkflowTrace}

theorem toolCallIdOf_inj {turn turn' : Nat} {name name' : String}
    (same : toolCallIdOf (stepIdOf (workflowIdOf workflowIndex) turn) name =
      toolCallIdOf (stepIdOf (workflowIdOf workflowIndex) turn') name') : turn = turn' :=
  (numberedThen_inj (c := '_') rfl (by decide)
    (show (workflowIdOf workflowIndex ++ "_step_") ++ toString turn ++ "_" ++ name =
      (workflowIdOf workflowIndex ++ "_step_") ++ toString turn' ++ "_" ++ name' from same)).1

/-- The call of a turn and how long it takes. -/
def toolRow (workflowIndex : Nat) (draws : Nat → TurnDraws) (turn : Nat) : Option (String × Rat) :=
  if (draws turn).toolName ≠ "" then
    some (toolCallIdOf (stepIdOf (workflowIdOf workflowIndex) turn) (draws turn).toolName,
      (draws turn).actualLatency)
  else none

theorem toolRow_key {turn : Nat} {row : String × Rat}
    (called : toolRow workflowIndex draws turn = some row) :
    row.1 = toolCallIdOf (stepIdOf (workflowIdOf workflowIndex) turn) (draws turn).toolName := by
  unfold toolRow at called
  split at called
  · exact (Option.some.inj called) ▸ rfl
  · cases called

theorem traceOf_tools (empty : start.toolLatencies = .empty) (turns : Nat) :
    (self.traceOf workflowIndex workflow draws start turns).toolLatencies.entries =
      (List.range turns).filterMap (toolRow workflowIndex draws) := by
  induction turns with
  | zero =>
      rw [traceOf, List.range_zero, List.foldl_nil, empty]
      rfl
  | succ turns ih =>
      rw [traceOf_succ, recordStep, List.range_succ, List.filterMap_append, ← ih]
      by_cases called : (draws turns).toolName = ""
      · simp [toolRow, called]
      · have row : toolRow workflowIndex draws turns =
            some (toolCallIdOf (stepIdOf (workflowIdOf workflowIndex) turns)
              (draws turns).toolName, (draws turns).actualLatency) := if_pos called
        dsimp only
        rw [if_pos called, Dict.entries_set_absent, List.filterMap_cons_some row,
          List.filterMap_nil]
        rw [← Option.not_isSome_iff_eq_none, ← Dict.mem_keys_iff, Dict.keys, ih]
        intro among
        obtain ⟨earlier, listed, same⟩ := List.mem_map.mp among
        obtain ⟨turn, within, called'⟩ := List.mem_filterMap.mp listed
        rw [toolRow_key called'] at same
        exact absurd (List.mem_range.mp within) (toolCallIdOf_inj same ▸ lt_irrefl _)

theorem traceOf_ragCalls (turns : Nat) :
    (self.traceOf workflowIndex workflow draws start turns).cacheEvents.countP isRagCall =
      start.cacheEvents.countP isRagCall +
        (List.range turns).countP fun turn => (draws turn).ragCall := by
  induction turns with
  | zero => simp [traceOf]
  | succ turns ih =>
      rw [traceOf_succ, recordStep, List.range_succ, List.countP_append, ← Nat.add_assoc, ← ih]
      cases called : (draws turns).ragCall with
      | true => simp [called, isRagCall]
      | false => simp [called]

theorem traceOf_prompt {turn turns : Nat} (taken : turn < turns) :
    (self.traceOf workflowIndex workflow draws start turns).promptLengths.get?
      (stepIdOf (workflowIdOf workflowIndex) turn) =
        some ((self.promptOf workflowIndex workflow turn (draws turn)).length : Int) := by
  induction turns with
  | zero => cases taken
  | succ turns ih =>
      rw [traceOf_succ, recordStep, Dict.get?_set]
      by_cases last : turn = turns
      · rw [if_pos (by rw [last]), last]
      · rw [if_neg fun same => last (stepIdOf_inj same).2.symm, ih (by omega)]

theorem traceOf_tool (empty : start.toolLatencies = .empty) {turn turns : Nat}
    (taken : turn < turns) (called : (draws turn).toolName ≠ "") :
    (self.traceOf workflowIndex workflow draws start turns).toolLatencies.get?
      (toolCallIdOf (stepIdOf (workflowIdOf workflowIndex) turn) (draws turn).toolName) =
        some (draws turn).actualLatency := by
  rw [← Dict.mem_entries_iff, traceOf_tools empty]
  exact List.mem_filterMap.mpr ⟨turn, List.mem_range.mpr taken, if_pos called⟩

/-- What a trace keeps of a request. -/
structure Recorded (request : BenchmarkRequest) (trace : WorkflowTrace) (stepId : String) :
    Prop where
  workflow : request.get "workflow_id" = .str trace.workflowId
  step : request.get "step_id" = .str stepId
  ordered : stepId ∈ trace.orderedSteps
  prompt : trace.promptLengths.get? stepId = some (request.prompt.length : Int)
  tool : ∀ toolName, request.get "tool_name" = .str toolName → toolName ≠ "" →
    ∃ latency, trace.toolLatencies.get? (toolCallIdOf stepId toolName) = some latency ∧
      request.get "actual_tool_latency_ms" = .float (.finite latency)

variable [PyRuntime]

theorem requestAt_recorded (objMeta : Nat → ObjectMeta) (draws : Draws) {turn : Nat}
    (taken : turn < self.turnsPerWorkflow) :
    Recorded (self.requestAt draws workflowIndex turn) (self.traceAt objMeta draws workflowIndex)
      (stepIdOf (workflowIdOf workflowIndex) turn) where
  workflow := by
    rw [requestAt_workflowId, traceAt, traceOf_workflowId, emptyTrace]
  step := requestAt_stepId _ _ _ _
  ordered := by
    rw [traceAt, traceOf_steps]
    exact List.mem_append_right _ (List.mem_map_of_mem (List.mem_range.mpr taken))
  prompt := traceOf_prompt taken
  tool toolName named called := by
    rw [requestAt_toolName] at named
    cases named
    exact ⟨_, traceOf_tool rfl taken called, requestAt_get (by simp [metadataRows]) _⟩

variable [PyRng]

/-- Every request of a workload is in the trace of its workflow, and the summary counts what the
requests say. -/
theorem generate_recorded (self : AgenticWorkflowWorkload) (objMeta : Nat → ObjectMeta) :
    let loop := self.generate objMeta
    (∀ request ∈ loop.requests, ∃ trace ∈ loop.traces, ∃ stepId, Recorded request trace stepId) ∧
      (self.summary loop.traces).workflows = self.numWorkflows ∧
      (self.summary loop.traces).steps = loop.requests.length ∧
      (self.summary loop.traces).toolCalls =
        loop.requests.countP (fun request => (request.get "tool_name").truthy) ∧
      (self.summary loop.traces).ragCalls =
        loop.requests.countP (fun request => (request.get "rag_call").truthy) := by
  rw [generate_eq]
  dsimp only
  refine ⟨?_, ?_, ?_, ?_, ?_⟩
  · intro request among
    obtain ⟨workflowIndex, flow, within⟩ := List.mem_flatMap.mp among
    obtain ⟨turn, taken, rfl⟩ := List.mem_map.mp within
    exact ⟨_, List.mem_map_of_mem flow, _, requestAt_recorded objMeta _ (List.mem_range.mp taken)⟩
  · simp [summary]
  · rw [allRequests, List.length_flatMap]
    simp only [summary, List.map_map]
    refine congrArg List.sum (List.map_congr_left fun workflowIndex _ => ?_)
    rw [Function.comp_apply, traceAt, traceOf_steps, workflowRequests]
    simp [emptyTrace]
  · rw [allRequests, List.countP_flatMap]
    simp only [summary, List.map_map]
    refine congrArg List.sum (List.map_congr_left fun workflowIndex _ => ?_)
    rw [Function.comp_apply, Function.comp_apply, traceAt, Dict.size, traceOf_tools rfl,
      List.length_filterMap_eq_countP, workflowRequests, List.countP_map]
    refine List.countP_congr fun turn _ => ?_
    rw [Function.comp_apply, requestAt_toolName, toolRow, Json.truthy]
    split <;> simp_all
  · rw [allRequests, List.countP_flatMap]
    simp only [summary, List.map_map]
    refine congrArg List.sum (List.map_congr_left fun workflowIndex _ => ?_)
    rw [Function.comp_apply, Function.comp_apply, traceAt, traceOf_ragCalls, workflowRequests,
      List.countP_map, emptyTrace, List.countP_nil, Nat.zero_add]
    refine List.countP_congr fun turn _ => ?_
    rw [Function.comp_apply, requestAt_ragCall, Json.truthy]
    split <;> simp_all

end

end AgenticWorkflowWorkload

end IntelliL3
