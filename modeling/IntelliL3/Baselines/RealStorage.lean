import IntelliL3.Policies.LRUEviction
import IntelliL3.Policies.PrefetchPolicy
import IntelliL3.Workloads.Requests

/-! # Systems over real storage

`baselines/vanilla_s3.py`, `baselines/lru_l3.py` and `baselines/l3_full.py`: systems that read the
object of a request and measure how long that takes. What the clocks of the host show, reading by
reading, is an argument.
-/

namespace IntelliL3

open Lib

/-- The next reading of the clocks, given how many were taken. -/
def readClock (clock : Nat → Rat) : EStateM PyError Nat Rat :=
  modifyGet fun ticks => (clock ticks, ticks + 1)

/-! ## The backend itself -/

structure VanillaS3Baseline (β : Type) where
  backend : β
  keyPrefix : String
  simulatedS3LatencyMs : Rat
  ticks : Nat
  latencyNonneg : 0 ≤ simulatedS3LatencyMs

namespace VanillaS3Baseline

variable {β Bytes : Type}

/-- `VanillaS3Baseline(backend, key_prefix, simulated_s3_latency_ms)` -/
def new (backend : β) (keyPrefix : String := "kv/") (simulatedS3LatencyMs : Rat := 0) :
    VanillaS3Baseline β where
  backend
  keyPrefix
  simulatedS3LatencyMs := max 0 simulatedS3LatencyMs
  ticks := 0
  latencyNonneg := le_max_left _ _

/-- `time.perf_counter()` -/
def perfCounter (clock : Nat → Rat) : EStateM PyError (VanillaS3Baseline β) Rat :=
  zoom ticks (fun self ticks => { self with ticks }) (readClock clock)

variable [PyBuiltins] [StorageBackend (EStateM PyError β) Bytes]

def process (clock : Nat → Rat) (request : BenchmarkRequest) :
    EStateM PyError (VanillaS3Baseline β) ProcessResult := do
  let objectId ← raising (request.text "object_id" "missing")
  let key := s!"{(← get).keyPrefix}{objectId}.data.npz"
  let start ← perfCounter clock
  let data ← zoom backend (fun self backend => { self with backend }) (StorageBackend.get key)
  let latencyMs := ((← perfCounter clock) - start) * 1000 + (← get).simulatedS3LatencyMs
  return {
    latencyMs
    isCacheHit := data.isSome
    extraMetrics := .ofRows [("l3_read_count", 1), ("l3_write_count", 0)] }

def system (clock : Nat → Rat) (start : VanillaS3Baseline β) : BenchmarkSystem where
  State := VanillaS3Baseline β
  name := "baseline_vanilla_s3"
  start
  process := process clock

end VanillaS3Baseline

/-! ## Least recently used -/

structure LRUL3Baseline (β η : Type) where
  store : UnifiedObjectStore β η
  eviction : LRUEviction := .new
  ticks : Nat := 0

namespace LRUL3Baseline

variable {β η Bytes : Type}

/-- `time.perf_counter()` or `time.time()` -/
def readClock (clock : Nat → Rat) : EStateM PyError (LRUL3Baseline β η) Rat :=
  zoom ticks (fun self ticks => { self with ticks }) (IntelliL3.readClock clock)

/-- `self._store.get_kv_block(object_id) if object_id else None` -/
def getKvBlock [PyRuntime] [Serializer Bytes] [StorageBackend (EStateM PyError β) Bytes]
    (clock : Nat → Rat) (objectId : String) :
    EStateM PyError (LRUL3Baseline β η) (Option (KVCacheBlock × NdArray × NdArray)) := do
  if objectId ≠ "" then
    let now ← readClock clock
    zoom store (fun self store => { self with store }) (UnifiedObjectStore.getKvBlock objectId now)
  else return none

/-- What is found counts as used now. -/
def account (clock : Nat → Rat) (result : Option (KVCacheBlock × NdArray × NdArray)) :
    EStateM PyError (LRUL3Baseline β η) Unit := do
  match result with
  | none => return
  | some (block, _, _) =>
      let now ← readClock clock
      modify fun self => { self with eviction := self.eviction.onBlockAccessed block now }

variable [PyBuiltins] [PyRuntime] [Serializer Bytes] [StorageBackend (EStateM PyError β) Bytes]

def process (clock : Nat → Rat) (request : BenchmarkRequest) :
    EStateM PyError (LRUL3Baseline β η) ProcessResult := do
  let objectId ← raising (request.text "object_id")
  let start ← readClock clock
  let result ← getKvBlock clock objectId
  let latencyMs := ((← readClock clock) - start) * 1000
  account clock result
  return {
    latencyMs
    isCacheHit := result.isSome
    extraMetrics := .ofRows [("l3_read_count", 1), ("l3_write_count", 0)] }

def system (clock : Nat → Rat) (start : LRUL3Baseline β η) : BenchmarkSystem where
  State := LRUL3Baseline β η
  name := "baseline_lru_l3"
  start
  process := process clock

def selectVictim (self : LRUL3Baseline β η) (candidates : List KVCacheBlock) :
    Option EvictionDecision :=
  self.eviction.selectVictim candidates

end LRUL3Baseline

/-! ## With prefetches -/

structure FullL3System (σ β η : Type) where
  store : UnifiedObjectStore β η
  prefetchPolicy : Option (PrefetchPolicy σ η) := none
  /-- The state of the policy, if there is one. -/
  policyState : σ
  ticks : Nat := 0

namespace FullL3System

variable {σ β η Bytes : Type}

def readClock (clock : Nat → Rat) : EStateM PyError (FullL3System σ β η) Rat :=
  zoom ticks (fun self ticks => { self with ticks }) (IntelliL3.readClock clock)

variable [PyRuntime] [Serializer Bytes] [StorageBackend (EStateM PyError β) Bytes]

/-- `self._store.get_kv_block(object_id) if object_id else None` -/
def getKvBlock (clock : Nat → Rat) (objectId : String) :
    EStateM PyError (FullL3System σ β η) (Option (KVCacheBlock × NdArray × NdArray)) := do
  if objectId ≠ "" then
    let now ← readClock clock
    zoom store (fun self store => { self with store }) (UnifiedObjectStore.getKvBlock objectId now)
  else return none

/-- How many objects are prefetched for a request. -/
def prefetch (clock : Nat → Rat) (request : BenchmarkRequest) :
    EStateM PyError (FullL3System σ β η) Nat := do
  let self ← get
  match self.prefetchPolicy with
  | none => return 0
  | some policy =>
      let context : RequestContext := {
        prompt := request.prompt
        sessionId := request.sessionId
        modelName := request.modelName }
      let decisions ← zoom policyState (fun self policyState => { self with policyState })
        (policy.predictPrefetch context self.store.metadata)
      let now ← readClock clock
      let found ← zoom store (fun self store => { self with store })
        (UnifiedObjectStore.prefetchBatch decisions fun _ => now)
      return found.size

variable [PyBuiltins]

def process (clock : Nat → Rat) (request : BenchmarkRequest) :
    EStateM PyError (FullL3System σ β η) ProcessResult := do
  let prefetched ← prefetch clock request
  let objectId ← raising (request.text "object_id")
  let start ← readClock clock
  let result ← getKvBlock clock objectId
  let latencyMs := ((← readClock clock) - start) * 1000
  return {
    latencyMs
    isCacheHit := result.isSome
    prefetched
    extraMetrics := .ofRows [("l3_read_count", 1), ("l3_write_count", prefetched)] }

def system (clock : Nat → Rat) (start : FullL3System σ β η) : BenchmarkSystem where
  State := FullL3System σ β η
  name := "l3_full"
  start
  process := process clock

end FullL3System

end IntelliL3
