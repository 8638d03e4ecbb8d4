import Mathlib.Algebra.Order.Field.Rat
import IntelliL3.Core.Reference
import IntelliL3.Core.Types
import IntelliL3.Lib.Rounding
import IntelliL3.Workloads.Reference
import IntelliL3.Workloads.Requests

/-! # Agentic workflows

`workloads/agentic_workflow.py`: workflows of agents that take turns, each turn the child of the
one before it. What a turn calls is drawn from a generator of random numbers; whose turn it is and
how steps are named is not.
-/

namespace IntelliL3

open Lib

/-- The generator that agentic workflows draw from. -/
class PyRng extends PyRandom where
  /-- `rng.random()` -/
  random : Rng → Rat × Rng
  /-- `rng.randrange(n)`, which also draws the place of `rng.choice(items)` -/
  below : (n : Nat) → [NeZero n] → Rng → Fin n × Rng

/-- A random number is drawn from 0 to 1. -/
class LawfulRng [PyRng] : Prop where
  random_unit : ∀ rng : PyRandom.Rng, 0 ≤ (PyRng.random rng).1 ∧ (PyRng.random rng).1 ≤ 1

inductive AgenticScenario where
  | react | multiAgent | toolRag | branching
  deriving DecidableEq

namespace AgenticScenario

def value : AgenticScenario → String
  | .react => "react"
  | .multiAgent => "multi_agent"
  | .toolRag => "tool_rag"
  | .branching => "branching"

def parse : String → Option AgenticScenario
  | "react" => some .react
  | "multi_agent" => some .multiAgent
  | "tool_rag" => some .toolRag
  | "branching" => some .branching
  | _ => none

/-- `_scenario_num_agents(scenario, num_agents)` -/
def numAgents (scenario : AgenticScenario) (numAgents : Int) : Int :=
  if scenario = .multiAgent then max 2 numAgents else numAgents

/-- `_scenario_branching_factor(scenario, branching_factor)` -/
def branchingFactor (scenario : AgenticScenario) (branchingFactor : Rat) : Rat :=
  if scenario = .branching then max 2 branchingFactor else branchingFactor

/-- `_scenario_probability(scenario, probability_type, value)` -/
def probability (scenario : AgenticScenario) (probabilityType : String) (value : Rat) : Rat :=
  if scenario = .toolRag ∧ probabilityType ∈ ["tool", "rag"] then max (8 / 10) value
  else if scenario = .branching ∧ probabilityType = "plan" then max (7 / 10) value
  else value

end AgenticScenario

/-- The arguments of a workload. -/
structure AgenticWorkflowOptions where
  scenario : String := "react"
  numWorkflows : Int := 10
  numAgents : Int := 1
  turnsPerWorkflow : Int := 4
  sharedSystemPromptRatio : Rat := 8 / 10
  toolCallProbability : Rat := 7 / 10
  toolLatencyDistribution : List Rat := [100, 1000]
  ragCallProbability : Rat := 3 / 10
  branchingFactor : Rat := 1
  planReuseProbability : Rat := 4 / 10
  contextGrowthPerTurn : Int := 128
  l2CapacityMb : Int := 512
  l3LatencyMs : Rat := 120
  modelName : String := "test-model"
  seed : Int := 42
  startTimestamp : Rat := 0
  interarrivalSeconds : Rat := 2 / 10

structure AgenticWorkflowWorkload where
  scenario : AgenticScenario
  numWorkflows : Nat
  numAgents : Nat
  turnsPerWorkflow : Nat
  sharedSystemPromptRatio : Rat
  toolCallProbability : Rat
  toolLatencyLow : Rat
  toolLatencyHigh : Rat
  ragCallProbability : Rat
  branchingFactor : Rat
  planReuseProbability : Rat
  contextGrowthPerTurn : Nat
  l2CapacityMb : Int
  l3LatencyMs : Rat
  modelName : String
  seed : Int
  startTimestamp : Rat
  interarrivalSeconds : Rat
  workflowsPositive : 0 < numWorkflows
  agentsPositive : 0 < numAgents
  turnsPositive : 0 < turnsPerWorkflow
  latencyNonneg : 0 ≤ toolLatencyLow
  latencyOrdered : toolLatencyLow ≤ toolLatencyHigh
  branchingAtLeastOne : 1 ≤ branchingFactor

namespace AgenticWorkflowWorkload

/-- `_validate_probability(name, value)` -/
def validateProbability (name : String) (value : Rat) : Except PyError Unit :=
  if 0 ≤ value ∧ value ≤ 1 then .ok () else .error (.valueError s!"{name} must be in [0, 1]")

/-- The checks of numbers that no other number depends on. -/
def validate (options : AgenticWorkflowOptions) : Except PyError Unit := do
  validateProbability "shared_system_prompt_ratio" options.sharedSystemPromptRatio
  validateProbability "tool_call_probability" options.toolCallProbability
  validateProbability "rag_call_probability" options.ragCallProbability
  validateProbability "plan_reuse_probability" options.planReuseProbability

/-- `AgenticWorkflowWorkload(**options)` -/
def new (options : AgenticWorkflowOptions) : Except PyError AgenticWorkflowWorkload :=
  match AgenticScenario.parse options.scenario with
  | none =>
      .error (.valueError "scenario must be one of: react, multi_agent, tool_rag, branching")
  | some scenario =>
    if workflows : options.numWorkflows ≤ 0 then
      .error (.valueError "num_workflows must be positive")
    else if agents : options.numAgents ≤ 0 then .error (.valueError "num_agents must be positive")
    else if turns : options.turnsPerWorkflow ≤ 0 then
      .error (.valueError "turns_per_workflow must be positive")
    else
      match validate options with
      | .error e => .error e
      | .ok _ =>
        if branching : options.branchingFactor < 1 then
          .error (.valueError "branching_factor must be >= 1.0")
        else if options.contextGrowthPerTurn < 0 then
          .error (.valueError "context_growth_per_turn must be non-negative")
        else if options.l2CapacityMb ≤ 0 then .error (.valueError "l2_capacity_mb must be positive")
        else if options.l3LatencyMs < 0 then
          .error (.valueError "l3_latency_ms must be non-negative")
        else
          match options.toolLatencyDistribution with
          | [low, high] =>
              if wrong : low < 0 ∨ high < low then
                .error (.valueError "tool_latency_distribution must be (min_ms, max_ms)")
              else .ok {
                scenario
                numWorkflows := options.numWorkflows.toNat
                numAgents := (scenario.numAgents options.numAgents).toNat
                turnsPerWorkflow := options.turnsPerWorkflow.toNat
                sharedSystemPromptRatio := options.sharedSystemPromptRatio
                toolCallProbability := scenario.probability "tool" options.toolCallProbability
                toolLatencyLow := low
                toolLatencyHigh := high
                ragCallProbability := scenario.probability "rag" options.ragCallProbability
                branchingFactor := scenario.branchingFactor options.branchingFactor
                planReuseProbability := scenario.probability "plan" options.planReuseProbability
                contextGrowthPerTurn := options.contextGrowthPerTurn.toNat
                l2CapacityMb := options.l2CapacityMb
                l3LatencyMs := options.l3LatencyMs
                modelName := options.modelName
                seed := options.seed
                startTimestamp := options.startTimestamp
                interarrivalSeconds := options.interarrivalSeconds
                workflowsPositive := by omega
                agentsPositive := by
                  unfold AgenticScenario.numAgents
                  split <;> omega
                turnsPositive := by omega
                latencyNonneg := not_lt.mp (not_or.mp wrong).1
                latencyOrdered := not_lt.mp (not_or.mp wrong).2
                branchingAtLeastOne := by
                  unfold AgenticScenario.branchingFactor
                  split
                  · exact (not_lt.mp branching).trans (le_max_right _ _)
                  · exact not_lt.mp branching }
          | _ => .error (.valueError "tool_latency_distribution must be (min_ms, max_ms)")

/-! ## Texts -/

def sharedSystemPrompt : String :=
  "You are an agentic assistant. Think, call tools when useful, " ++
    "observe results, and continue the workflow."

def tools : List String := ["search", "calculator", "database", "retriever"]

def workflowIdOf (workflowIndex : Nat) : String := s!"workflow_{workflowIndex}"

def stepIdOf (workflowId : String) (turn : Nat) : String := s!"{workflowId}_step_{turn}"

def toolCallIdOf (stepId toolName : String) : String := s!"{stepId}_{toolName}"

def workflowType (self : AgenticWorkflowWorkload) : String :=
  match self.scenario with
  | .multiAgent => "multi_agent"
  | .toolRag => "rag_agent"
  | _ => "react"

/-- `_build_prompt` -/
def buildPrompt (self : AgenticWorkflowWorkload) (workflowId : String) (turn : Nat)
    (agentId : String) (useSharedPrompt ragCall : Bool) : String :=
  let opening := if useSharedPrompt then sharedSystemPrompt else s!"Workflow {workflowId}."
  let context := String.join
    (List.replicate (1 + turn * max 1 (self.contextGrowthPerTurn / 32)) "Observation context. ")
  let ragHint := if ragCall then "Use retrieved evidence. " else ""
  s!"{opening}\nAgent {agentId} reasoning step {turn}.\n{ragHint}{context}"

/-- `_hash_tool_args(workflow_id, turn, tool_name)` -/
def hashToolArgs [PyRuntime] (workflowId : String) (turn : Nat) (toolName : String) : String :=
  if toolName = "" then "" else shortDigest s!"{workflowId}:{turn}:{toolName}"

/-! ## Draws -/

section

variable [PyRng]

abbrev Draw := StateM PyRandom.Rng

/-- `rng.random() < probability` -/
def happens (probability : Rat) : Draw Bool := do
  return decide ((← modifyGet PyRng.random) < probability)

/-- `rng.uniform(low, high)` -/
def sampleToolLatency (self : AgenticWorkflowWorkload) : Draw Rat := do
  return self.toolLatencyLow +
    (self.toolLatencyHigh - self.toolLatencyLow) * (← modifyGet PyRng.random)

/-- `rng.choice(_TOOLS)` -/
def chooseTool : Draw String := do
  return tools.get (← modifyGet (PyRng.below 4))

/-- `_branch_id(rng, workflow_index, turn)` -/
def branchId (self : AgenticWorkflowWorkload) (workflowIndex turn : Nat) : Draw String := do
  if self.branchingFactor ≤ 1 then return "main"
  -- `max(1, int(round(self.branching_factor)))` branches
  let branch ← modifyGet (PyRng.below (((roundHalfEven self.branchingFactor).toNat - 1) + 1))
  return s!"branch_{workflowIndex}_{turn}_{branch.val}"

/-- What is drawn for a turn. -/
structure TurnDraws where
  branchId : String
  toolName : String
  actualLatency : Rat
  ragCall : Bool

def drawTool (self : AgenticWorkflowWorkload) : Draw String := do
  if ← happens self.toolCallProbability then chooseTool else return ""

def drawLatency (self : AgenticWorkflowWorkload) (toolName : String) : Draw Rat :=
  if toolName ≠ "" then self.sampleToolLatency else return 0

def drawTurn (self : AgenticWorkflowWorkload) (workflowIndex turn : Nat) : Draw TurnDraws := do
  let branchId ← self.branchId workflowIndex turn
  let toolName ← self.drawTool
  let actualLatency ← self.drawLatency toolName
  let ragCall ← happens self.ragCallProbability
  return { branchId, toolName, actualLatency, ragCall }

/-- What is drawn for a workflow. -/
structure WorkflowDraws where
  useSharedPrompt : Bool
  planId : String

def drawWorkflow (self : AgenticWorkflowWorkload) (workflowIndex : Nat) : Draw WorkflowDraws := do
  let useSharedPrompt ← happens self.sharedSystemPromptRatio
  let planId := if ← happens self.planReuseProbability then
    s!"plan_{workflowIndex % max 1 self.numAgents}"
  else s!"plan_{workflowIndex}"
  return { useSharedPrompt, planId }

end

/-! ## Requests and traces -/

section

variable [PyRuntime]

def agentIdOf (self : AgenticWorkflowWorkload) (turn : Nat) : String :=
  s!"agent_{turn % self.numAgents}"

def promptOf (self : AgenticWorkflowWorkload) (workflowIndex : Nat) (workflow : WorkflowDraws)
    (turn : Nat) (draws : TurnDraws) : String :=
  self.buildPrompt (workflowIdOf workflowIndex) turn (self.agentIdOf turn) workflow.useSharedPrompt
    draws.ragCall

def predictedLatency (self : AgenticWorkflowWorkload) (draws : TurnDraws) : Rat :=
  if draws.toolName ≠ "" then (self.toolLatencyLow + self.toolLatencyHigh) / 2 else 0

def metadataRows (self : AgenticWorkflowWorkload) (workflowIndex : Nat) (workflow : WorkflowDraws)
    (turn : Nat) (parentStepId : String) (draws : TurnDraws) : List (String × Json) :=
  let workflowId := workflowIdOf workflowIndex
  [("workload", .str "agentic_workflow"),
    ("scenario", .str self.scenario.value),
    ("workflow_id", .str workflowId),
    ("workflow_type", .str self.workflowType),
    ("agent_id", .str (self.agentIdOf turn)),
    ("step_id", .str (stepIdOf workflowId turn)),
    ("turn_id", .int turn),
    ("parent_step_id", .str parentStepId),
    ("tool_name", .str draws.toolName),
    ("tool_args_hash", .str (hashToolArgs workflowId turn draws.toolName)),
    ("predicted_tool_latency_ms", .float (.finite (self.predictedLatency draws))),
    ("actual_tool_latency_ms", .float (.finite draws.actualLatency)),
    ("rag_call", .int (if draws.ragCall then 1 else 0)),
    ("branch_id", .str draws.branchId),
    ("plan_id", .str workflow.planId),
    ("l2_capacity_mb", .int self.l2CapacityMb),
    ("l3_latency_ms", .float (.finite self.l3LatencyMs))]

/-- The request of a turn, with what is drawn for it. -/
def requestOf (self : AgenticWorkflowWorkload) (workflowIndex : Nat) (workflow : WorkflowDraws)
    (turn timestampIndex : Nat) (parentStepId : String) (draws : TurnDraws) :
    BenchmarkRequest where
  prompt := self.promptOf workflowIndex workflow turn draws
  sessionId := s!"agent_session_{workflowIndex}"
  timestamp := self.startTimestamp + timestampIndex * self.interarrivalSeconds
  modelName := self.modelName
  metadata := .ofRows (self.metadataRows workflowIndex workflow turn parentStepId draws)

end

/-- A trace with one more step in it. -/
def recordStep (stepId : String) (turn promptLength : Nat) (draws : TurnDraws)
    (trace : WorkflowTrace) : WorkflowTrace :=
  { trace with
    orderedSteps := trace.orderedSteps ++ [stepId]
    promptLengths := trace.promptLengths.set stepId promptLength
    toolLatencies :=
      if draws.toolName ≠ "" then
        trace.toolLatencies.set (toolCallIdOf stepId draws.toolName) draws.actualLatency
      else trace.toolLatencies
    cacheEvents :=
      if draws.ragCall then trace.cacheEvents ++
        [[("event", .str "rag_call"), ("step_id", .str stepId), ("turn_id", .int turn)]]
      else trace.cacheEvents }

/-- The trace of a workflow before its first turn; the metadata is what the library makes up. -/
def emptyTrace (self : AgenticWorkflowWorkload) (objMeta : ObjectMeta) (workflowIndex : Nat)
    (workflow : WorkflowDraws) : WorkflowTrace where
  objMeta
  workflowId := workflowIdOf workflowIndex
  sharedPrefixRatio := if workflow.useSharedPrompt then 1 else 0
  branchingFactor := self.branchingFactor
  ratioInRange := by split <;> norm_num
  branchingAtLeastOne := self.branchingAtLeastOne

/-! ## The loops -/

/-- What the loop over the turns of a workflow carries. -/
structure TurnLoop where
  requests : List BenchmarkRequest
  trace : WorkflowTrace
  parentStepId : String := ""
  timestampIndex : Nat

/-- What the loop over workflows carries. -/
structure WorkflowLoop where
  requests : List BenchmarkRequest := []
  traces : List WorkflowTrace := []
  timestampIndex : Nat := 0

section

variable [PyRuntime]

/-- What a turn adds, with what is drawn for it. -/
def addTurn (self : AgenticWorkflowWorkload) (workflowIndex : Nat) (workflow : WorkflowDraws)
    (loop : TurnLoop) (turn : Nat) (draws : TurnDraws) : TurnLoop :=
  let request := self.requestOf workflowIndex workflow turn loop.timestampIndex loop.parentStepId
    draws
  let stepId := stepIdOf (workflowIdOf workflowIndex) turn
  { requests := loop.requests ++ [request]
    trace := recordStep stepId turn request.prompt.length draws loop.trace
    parentStepId := stepId
    timestampIndex := loop.timestampIndex + 1 }

end

variable [PyRng] [PyRuntime]

def takeTurn (self : AgenticWorkflowWorkload) (workflowIndex : Nat) (workflow : WorkflowDraws)
    (loop : TurnLoop) (turn : Nat) : Draw TurnLoop := do
  return self.addTurn workflowIndex workflow loop turn (← self.drawTurn workflowIndex turn)

def takeTurns (self : AgenticWorkflowWorkload) (objMeta : Nat → ObjectMeta) (loop : WorkflowLoop)
    (workflowIndex : Nat) : Draw WorkflowLoop := do
  let workflow ← self.drawWorkflow workflowIndex
  let start : TurnLoop := {
    requests := loop.requests
    trace := self.emptyTrace (objMeta workflowIndex) workflowIndex workflow
    timestampIndex := loop.timestampIndex }
  let turns ← (List.range self.turnsPerWorkflow).foldlM (self.takeTurn workflowIndex workflow) start
  return {
    requests := turns.requests
    traces := loop.traces ++ [turns.trace]
    timestampIndex := turns.timestampIndex }

/-- `generate()`: the requests, and the traces that are kept. -/
def generate (self : AgenticWorkflowWorkload) (objMeta : Nat → ObjectMeta) : WorkflowLoop :=
  ((List.range self.numWorkflows).foldlM (self.takeTurns objMeta) {}
    (PyRandom.seeded self.seed : PyRandom.Rng)).1

structure WorkloadSummary where
  scenario : AgenticScenario
  workflows : Nat
  steps : Nat
  toolCalls : Nat
  ragCalls : Nat
  numAgents : Nat
  branchingFactor : Rat

/-- `event.get("event") == "rag_call"` -/
def isRagCall (event : List (String × PyValue)) : Bool :=
  match event.lookup "event" with
  | some (.str "rag_call") => true
  | _ => false

/-- `summary()`, of the traces that are kept -/
def summary (self : AgenticWorkflowWorkload) (traces : List WorkflowTrace) : WorkloadSummary where
  scenario := self.scenario
  workflows := traces.length
  steps := (traces.map fun trace => trace.orderedSteps.length).sum
  toolCalls := (traces.map fun trace => trace.toolLatencies.size).sum
  ragCalls := (traces.map fun trace => trace.cacheEvents.countP isRagCall).sum
  numAgents := self.numAgents
  branchingFactor := self.branchingFactor

end AgenticWorkflowWorkload

namespace Reference

/-- The thousandths that are drawn first with the seed 42. -/
scoped instance (priority := high) : PyRng where
  Rng := List Nat
  seeded _ := [639, 25, 275, 223, 736, 676, 892, 86, 421, 29]
  permutation n draws := swaps n (n - 1) draws
  random draws := ((draws.headD 0 % 1000 : Nat) / 1000, draws.tail)
  below n _ draws := (Fin.ofNat n (draws.headD 0), draws.tail)

scoped instance : LawfulRng where
  random_unit draws := by
    have small : draws.headD 0 % 1000 ≤ 1000 := (Nat.mod_lt _ (by decide)).le
    constructor
    · exact div_nonneg (Nat.cast_nonneg _) (by norm_num)
    · exact div_le_one_of_le₀ (by exact_mod_cast small) (by norm_num)

private theorem four_positive : 0 < 4 := Nat.succ_pos 3

private theorem hundred_nonneg : (0 : Rat) ≤ 100 := Nat.ofNat_nonneg 100

private theorem hundred_le_thousand : (100 : Rat) ≤ 1000 := by norm_num

private theorem one_branch : (1 : Rat) ≤ 1 := le_refl 1

/-- Two workflows of two agents each, which call tools. -/
def twoWorkflows : AgenticWorkflowWorkload where
  scenario := .multiAgent
  numWorkflows := 2
  numAgents := 2
  turnsPerWorkflow := 4
  sharedSystemPromptRatio := 8 / 10
  toolCallProbability := 7 / 10
  toolLatencyLow := 100
  toolLatencyHigh := 1000
  ragCallProbability := 3 / 10
  branchingFactor := 1
  planReuseProbability := 4 / 10
  contextGrowthPerTurn := 0
  l2CapacityMb := 512
  l3LatencyMs := 120
  modelName := "test-model"
  seed := 42
  startTimestamp := 0
  interarrivalSeconds := 1
  workflowsPositive := Nat.two_pos
  agentsPositive := Nat.two_pos
  turnsPositive := four_positive
  latencyNonneg := hundred_nonneg
  latencyOrdered := hundred_le_thousand
  branchingAtLeastOne := one_branch

def eightRequests : List BenchmarkRequest :=
  (twoWorkflows.generate fun _ => ObjectMeta.new .workflowTrace "trace" 0).requests

end Reference

end IntelliL3
