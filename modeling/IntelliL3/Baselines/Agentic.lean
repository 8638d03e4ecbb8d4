import Mathlib.Data.Finset.Insert
import IntelliL3.Baselines.RetailWorkflowMetrics
import IntelliL3.Lib.StackDistance

/-! # Synthetic agentic systems

`baselines/agentic.py`: five systems that answer a request by what they have seen before it. Each
is a state machine over requests; a latency is made up from the request and from whether it hits.
-/

namespace IntelliL3

open Lib

section

variable [PyBuiltins] [PyRuntime]

/-- What a hit and a discount are taken from: the parts of a latency that come from the request. -/
def requestLatency (request : BenchmarkRequest) : Except PyError Rat := do
  let promptFactor := min ((request.prompt.length : Rat) / 2048) 6
  let toolLatency ← request.number "actual_tool_latency_ms"
  let ragPenalty := if (← (request.get "rag_call" (.int 0)).toInt) ≠ 0 then 18 else 0
  let branchPenalty := if (← request.text "branch_id" "main") ≠ "main" then 8 else 0
  return promptFactor * 10 + toolLatency * (8 / 100) + ragPenalty + branchPenalty +
    (← request.stableJitter "agentic" 7)

/-- `_agent_latency(request, base_ms, cache_hit, discount_ms)` -/
def agentLatency (request : BenchmarkRequest) (baseMs : Rat) (cacheHit : Bool)
    (discountMs : Rat := 0) : Except PyError Rat := do
  let hitDiscount := if cacheHit then 35 else 0
  return max 1 (baseMs + (← requestLatency request) - hitDiscount - discountMs)

omit [PyRuntime] in
/-- `_tool_key(request)` -/
def toolKey (request : BenchmarkRequest) : Except PyError String := do
  let toolName ← request.text "tool_name"
  let argsHash ← request.text "tool_args_hash"
  return if toolName = "" ∨ argsHash = "" then "" else s!"{toolName}:{argsHash}"

omit [PyRuntime] in
/-- `_prefetch_bytes(request)` -/
def prefetchBytes (request : BenchmarkRequest) : Except PyError Rat := do
  let l3Latency ← request.number "l3_latency_ms"
  let bytes := l3Latency * 128
  return (request.prompt.utf8ByteSize : Rat) + (bytes.num.tdiv bytes.den : Int)

omit [PyRuntime] in
/-- The bytes of a prefetch that was of no use. -/
def wastedBytes (request : BenchmarkRequest) (prefetched useful : Bool) : Except PyError Rat :=
  if useful || !prefetched then .ok 0 else prefetchBytes request

omit [PyRuntime] in
/-- `f"{workflow_id}:{agent_id}"` of a request -/
def workflowAgent (request : BenchmarkRequest) : Except PyError String := do
  let workflowId ← request.text "workflow_id"
  let agentId ← request.text "agent_id"
  return s!"{workflowId}:{agentId}"

end

/-! ## Least recently used -/

/-- `_touch(key)` on the steps that are kept: what is kept then, and whether one was dropped. -/
def touched (capacity : Nat) (recentSteps : List String) (key : String) : List String × Bool :=
  let kept := if key ∈ recentSteps then recentSteps.erase key else recentSteps
  let kept := kept ++ [key]
  if capacity < kept.length then (kept.tail, true) else (kept, false)

theorem touched_eq {capacity : Nat} {recentSteps : List String}
    (fits : recentSteps.length ≤ capacity) (key : String) :
    (touched capacity recentSteps key).1 = LeastRecent.use capacity recentSteps key := by
  have removed : (if key ∈ recentSteps then recentSteps.erase key else recentSteps) =
      recentSteps.erase key := by
    split
    · rfl
    · next absent => exact (List.erase_of_not_mem absent).symm
  have length := List.length_erase_le (a := key) (l := recentSteps)
  rw [touched, removed, LeastRecent.use, List.rtake]
  split
  · next exceeds =>
      rw [List.length_append, List.length_singleton] at exceeds ⊢
      rw [show (recentSteps.erase key).length + 1 - capacity = 1 by omega, List.drop_one]
  · next room => rw [Nat.sub_eq_zero_of_le (Nat.le_of_not_lt room), List.drop_zero]

/-- What is new comes on top of what was kept, or in the place of what is dropped. -/
theorem length_touched {capacity : Nat} {recentSteps : List String}
    (fits : recentSteps.length ≤ capacity) (key : String) :
    indicator (!decide (key ∈ recentSteps)) + recentSteps.length =
      indicator (touched capacity recentSteps key).2 +
        (touched capacity recentSteps key).1.length := by
  unfold touched
  by_cases held : key ∈ recentSteps
  · have positive := List.length_pos_of_mem held
    have length : (recentSteps.erase key ++ [key]).length = recentSteps.length := by
      rw [List.length_append, List.length_erase_of_mem held, List.length_singleton]
      omega
    simp only [held, if_true, length, if_neg (Nat.not_lt.mpr fits), decide_true, Bool.not_true]
  · simp only [held, if_false, decide_false, Bool.not_false]
    split
    · rw [List.length_tail, List.length_append, List.length_singleton, Nat.add_sub_cancel]
    · rw [List.length_append, List.length_singleton, Nat.cast_add, indicator_true, indicator_false,
        zero_add, add_comm, Nat.cast_one]

structure AgentLRUBaseline where
  capacity : Nat
  recentSteps : List String
  retailMetrics : RetailWorkflowMetricsTracker
  capacityPositive : 0 < capacity
  fits : recentSteps.length ≤ capacity

namespace AgentLRUBaseline

theorem capacity_pos {l2CapacitySteps : Int} (positive : ¬ l2CapacitySteps ≤ 0) :
    0 < l2CapacitySteps.toNat := by
  omega

/-- `AgentLRUBaseline(l2_capacity_steps)`, with the tracker it makes -/
def new (retailMetrics : RetailWorkflowMetricsTracker) (l2CapacitySteps : Int := 4) :
    Except PyError AgentLRUBaseline :=
  if wrong : l2CapacitySteps ≤ 0 then
    .error (.valueError "l2_capacity_steps must be positive")
  else .ok {
    capacity := l2CapacitySteps.toNat
    recentSteps := []
    retailMetrics
    capacityPositive := capacity_pos wrong
    fits := Nat.zero_le _ }

theorem touched_fits {capacity : Nat} {recentSteps : List String}
    (fits : recentSteps.length ≤ capacity) (key : String) :
    (touched capacity recentSteps key).1.length ≤ capacity := by
  rw [touched_eq fits, LeastRecent.use, List.rtake, List.length_drop]
  omega

def touch (key : String) (self : AgentLRUBaseline) : Bool × AgentLRUBaseline :=
  ((touched self.capacity self.recentSteps key).2,
    { self with
      recentSteps := (touched self.capacity self.recentSteps key).1
      fits := touched_fits self.fits key })

variable [PyBuiltins] [PyRuntime]

def process (request : BenchmarkRequest) : EStateM PyError AgentLRUBaseline ProcessResult := do
  let cacheKey ← raising (workflowAgent request)
  let isHit := decide (cacheKey ∈ (← get).recentSteps)
  let evicted ← modifyGet (touch cacheKey)
  let extraMetrics : Dict String Rat := .ofRows [
    ("kv_reload_count", indicator !isHit),
    ("kv_recompute_count", indicator !isHit),
    ("l2_eviction_count", indicator evicted),
    ("l3_read_count", indicator !isHit)]
  let retail ← zoom retailMetrics (fun self tracker => { self with retailMetrics := tracker })
    (RetailWorkflowMetricsTracker.metricsForRequest request)
  return {
    latencyMs := ← raising (agentLatency request 145 isHit)
    isCacheHit := isHit
    extraMetrics := extraMetrics.update retail }

end AgentLRUBaseline

/-! ## Tool pauses, workflows and prefetches -/

/-- It remembers nothing. -/
structure AgentTTLSystem where

namespace AgentTTLSystem

variable [PyBuiltins] [PyRuntime]

def process (request : BenchmarkRequest) : EStateM PyError AgentTTLSystem ProcessResult := do
  let toolLatency ← raising (request.number "predicted_tool_latency_ms")
  let hasTool := (request.get "tool_name" (.str "")).truthy
  let pinned := hasTool && decide (toolLatency ≤ 550)
  let hiddenWaitMs := if pinned then min toolLatency 120 else 0
  return {
    latencyMs := ← raising (agentLatency request 132 pinned (hiddenWaitMs * (25 / 100)))
    isCacheHit := pinned
    extraMetrics := .ofRows [
      ("kv_reload_count", indicator (!pinned && hasTool)),
      ("recompute_avoided", indicator pinned),
      ("tool_wait_hidden_ms", hiddenWaitMs),
      ("l3_write_count", indicator (hasTool && !pinned))] }

end AgentTTLSystem

structure WorkflowAwareEvictionSystem where
  seenWorkflowAgents : Finset String := ∅

namespace WorkflowAwareEvictionSystem

variable [PyBuiltins] [PyRuntime]

def process (request : BenchmarkRequest) :
    EStateM PyError WorkflowAwareEvictionSystem ProcessResult := do
  let key ← raising (workflowAgent request)
  let isHit := decide (key ∈ (← get).seenWorkflowAgents)
  modify fun self => { self with seenWorkflowAgents := insert key self.seenWorkflowAgents }
  return {
    latencyMs := ← raising (agentLatency request 118 isHit)
    isCacheHit := isHit
    extraMetrics := .ofRows [
      ("workflow_cache_hit_rate", indicator isHit),
      ("kv_reload_count", indicator !isHit),
      ("l3_read_count", indicator !isHit)] }

end WorkflowAwareEvictionSystem

structure AgentPrefetchSystem where
  processedSteps : Finset String := ∅

namespace AgentPrefetchSystem

variable [PyBuiltins] [PyRuntime]

def process (request : BenchmarkRequest) : EStateM PyError AgentPrefetchSystem ProcessResult := do
  let stepId ← raising (request.text "step_id")
  let parentStepId ← raising (request.text "parent_step_id")
  let prefetched := decide (parentStepId ≠ "")
  let isUseful := prefetched && decide (parentStepId ∈ (← get).processedSteps)
  modify fun self => { self with processedSteps := insert stepId self.processedSteps }
  let latencyMs ← raising (agentLatency request 112 isUseful)
  let wasted ← raising (wastedBytes request prefetched isUseful)
  return {
    latencyMs
    isCacheHit := isUseful
    prefetched := prefetched.toNat
    usefulPrefetch := isUseful.toNat
    extraMetrics := .ofRows [
      ("prefetch_precision", indicator isUseful),
      ("prefetch_recall", indicator isUseful),
      ("wasted_prefetch_bytes", wasted),
      ("latency_saved_ms", if isUseful then 35 else 0)] }

end AgentPrefetchSystem

/-! ## All of them -/

structure FullAgenticL3System where
  seenTools : Finset String := ∅
  seenPlans : Finset String := ∅
  processedSteps : Finset String := ∅
  retailMetrics : RetailWorkflowMetricsTracker

namespace FullAgenticL3System

/-- The metrics of a request but those of retail workflows. -/
def ownMetrics (toolHit planHit prefetchHit : Bool) (wasted : Rat) : Dict String Rat :=
  let cacheHit := toolHit || planHit || prefetchHit
  .ofRows [
    ("workflow_cache_hit_rate", indicator prefetchHit),
    ("tool_cache_hit_rate", indicator toolHit),
    ("plan_cache_hit_rate", indicator planHit),
    ("recompute_avoided", indicator cacheHit),
    ("kv_reload_count", indicator !cacheHit),
    ("l3_read_count", indicator !cacheHit),
    ("l3_write_count", indicator !cacheHit),
    ("prefetch_precision", indicator prefetchHit),
    ("prefetch_recall", indicator prefetchHit),
    ("latency_saved_ms", if prefetchHit then 35 else 0),
    ("wasted_prefetch_bytes", wasted)]

variable [PyBuiltins] [PyRuntime]

def process (request : BenchmarkRequest) : EStateM PyError FullAgenticL3System ProcessResult := do
  let stepId ← raising (request.text "step_id")
  let parentStepId ← raising (request.text "parent_step_id")
  let toolKey ← raising (toolKey request)
  let planId ← raising (request.text "plan_id")
  let self ← get
  let toolHit := decide (toolKey ≠ "" ∧ toolKey ∈ self.seenTools)
  let planHit := decide (planId ≠ "" ∧ planId ∈ self.seenPlans)
  let prefetched := decide (parentStepId ≠ "")
  let prefetchHit := prefetched && decide (parentStepId ∈ self.processedSteps)
  let cacheHit := toolHit || planHit || prefetchHit
  modify fun self => { self with
    seenTools := if toolKey ≠ "" then insert toolKey self.seenTools else self.seenTools
    seenPlans := if planId ≠ "" then insert planId self.seenPlans else self.seenPlans
    processedSteps := insert stepId self.processedSteps }
  let wasted ← raising (wastedBytes request prefetched prefetchHit)
  let retail ← zoom retailMetrics (fun self tracker => { self with retailMetrics := tracker })
    (RetailWorkflowMetricsTracker.metricsForRequest request)
  return {
    latencyMs := ← raising (agentLatency request 92 cacheHit
      (if toolHit then 18 else if planHit then 10 else 0))
    isCacheHit := cacheHit
    prefetched := prefetched.toNat
    usefulPrefetch := prefetchHit.toNat
    extraMetrics := (ownMetrics toolHit planHit prefetchHit wasted).update retail }

end FullAgenticL3System

/-! ## All systems by name -/

section

variable [PyBuiltins] [PyRuntime]

/-- The tracker is what `RetailWorkflowMetricsTracker("baseline")` makes. -/
def AgentLRUBaseline.system (start : AgentLRUBaseline) : BenchmarkSystem where
  State := AgentLRUBaseline
  name := "agent_lru"
  start
  process := AgentLRUBaseline.process

def AgentTTLSystem.system : BenchmarkSystem where
  State := AgentTTLSystem
  name := "agent_ttl"
  start := {}
  process := AgentTTLSystem.process

def WorkflowAwareEvictionSystem.system : BenchmarkSystem where
  State := WorkflowAwareEvictionSystem
  name := "workflow_aware_eviction"
  start := {}
  process := WorkflowAwareEvictionSystem.process

def AgentPrefetchSystem.system : BenchmarkSystem where
  State := AgentPrefetchSystem
  name := "agent_prefetch"
  start := {}
  process := AgentPrefetchSystem.process

/-- The tracker is what `RetailWorkflowMetricsTracker("candidate")` makes. -/
def FullAgenticL3System.system (retailMetrics : RetailWorkflowMetricsTracker) :
    BenchmarkSystem where
  State := FullAgenticL3System
  name := "full_agentic_l3"
  start := { retailMetrics }
  process := FullAgenticL3System.process

def agenticSystemNames : List String :=
  ["agent_lru", "agent_ttl", "workflow_aware_eviction", "agent_prefetch", "full_agentic_l3"]

/-- `AGENTIC_SYSTEMS[name]()`, with what the data files hold -/
def buildAgenticSystem (validator : RetailEndStateValidator) (toolkit : RetailToolKit)
    (name : String) : Except PyError BenchmarkSystem :=
  match name with
  | "agent_lru" =>
      let tracker := RetailWorkflowMetricsTracker.new "baseline" validator toolkit
      match tracker >>= fun tracker => AgentLRUBaseline.new tracker with
      | .ok start => .ok start.system
      | .error e => .error e
  | "agent_ttl" => .ok AgentTTLSystem.system
  | "workflow_aware_eviction" => .ok WorkflowAwareEvictionSystem.system
  | "agent_prefetch" => .ok AgentPrefetchSystem.system
  | "full_agentic_l3" =>
      match RetailWorkflowMetricsTracker.new "candidate" validator toolkit with
      | .ok retailMetrics => .ok (FullAgenticL3System.system retailMetrics)
      | .error e => .error e
  | _ =>
      let known := String.intercalate ", " agenticSystemNames
      .error (.valueError s!"Unknown agentic benchmark system '{name}'. Known: {known}")

def buildAgenticSystems (validator : RetailEndStateValidator) (toolkit : RetailToolKit)
    (names : List String := []) : Except PyError (List BenchmarkSystem) :=
  (if names = [] then agenticSystemNames else names).mapM (buildAgenticSystem validator toolkit)

end

end IntelliL3
