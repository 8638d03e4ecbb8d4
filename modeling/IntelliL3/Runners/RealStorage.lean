import IntelliL3.Baselines.RealStorage
import IntelliL3.Storage.Backend

/-! # Benchmarks over real storage

The part of `runners/benchmark_runner.py` that runs systems over a storage backend: every request
names an object, and the objects are there before the first request is served.
-/

namespace IntelliL3

open Lib

/-- What a run is configured with under `benchmark.real_storage`, numbers read as such. -/
structure RealStorageConfig where
  objectPoolSize : Int := 64
  kvTokensPerObject : Int := 16
  kvVectorSize : Int := 16
  modelName : String := "benchmark-model"
  simulatedS3LatencyMs : Rat := 0

namespace BenchmarkRunner

/-! ## Objects of requests -/

section

variable [PyBuiltins]

/-- `_request_seed_key(request)` -/
def requestSeedKey (request : BenchmarkRequest) : Except PyError String := do
  let topic ← request.text "topic"
  let workflowId ← request.text "workflow_id"
  let turnId ← request.text "turn_id"
  return String.intercalate "|" [request.sessionId, request.modelName, topic, workflowId, turnId,
    String.ofList (request.prompt.toList.take 96)]

/-- `f"obj_{slot:05d}"` -/
def slotName (slot : Nat) : String :=
  "obj_" ++ String.ofList ((Nat.toDigits 10 slot).leftpad 5 '0')

/-- `int(hashlib.sha256(seed_key.encode("utf-8")).hexdigest()[:8], 16) % pool_size` -/
def slotOf [PyRuntime] (seedKey : String) (poolSize : Nat) : Nat :=
  PyRuntime.sha256 seedKey / 16 ^ 56 % 16 ^ 8 % poolSize

/-- `request.metadata.get("object_id")`, where it counts as given -/
def namesObject (request : BenchmarkRequest) : Bool := (request.get "object_id").truthy

variable [PyRuntime]

/-- One turn of the loop of `_attach_object_ids`. -/
def attachObjectId (poolSize : Nat) (request : BenchmarkRequest) :
    Except PyError BenchmarkRequest := do
  if namesObject request then return request
  let slot := slotOf (← requestSeedKey request) poolSize
  return { request with metadata := request.metadata.set "object_id" (.str (slotName slot)) }

/-- `_attach_object_ids(requests, config)` -/
def attachObjectIds (config : RealStorageConfig) (requests : List BenchmarkRequest) :
    Except PyError (List BenchmarkRequest) := do
  if config.objectPoolSize ≤ 0 then
    throw (.valueError "benchmark.real_storage.object_pool_size must be positive")
  requests.mapM (attachObjectId config.objectPoolSize.toNat)

end

/-! ## Seeding -/

/-- `sorted({str(...) for request in requests if request.metadata.get("object_id")})` -/
def objectIdsOf [PyBuiltins] (requests : List BenchmarkRequest) : Except PyError (List String) := do
  let objectIds ← (requests.filter namesObject).mapM fun request => request.text "object_id"
  return sorted objectIds.dedup

/-- `[index * tokens_per_object + i for i in range(tokens_per_object)]` -/
def seedTokens (tokensPerObject index : Nat) : List Int :=
  (List.range tokensPerObject).map fun i => ((index * tokensPerObject + i : Nat) : Int)

/-- `np.full((rows, columns), fill_value=fill, dtype=np.float32)` -/
def fullArray [PyRuntime] (rows columns : Nat) (fill : Rat) : NdArray where
  itemsize := 4
  shape := [rows, columns]
  data := List.replicate (rows * columns) (PyRuntime.float32 fill)
  filled := by simp

/-- The block of an object; the rest of its metadata is what the library makes up. -/
def seedBlock (config : RealStorageConfig) (objMeta : ObjectMeta) (objectId : String)
    (index : Nat) : KVCacheBlock where
  objMeta := { objMeta with objectId }
  modelName := config.modelName
  tokenIds := seedTokens config.kvTokensPerObject.toNat index
  blockIndex := index

section

variable {β η Bytes : Type} [PyRuntime] [Serializer Bytes] [Hnswlib η]
  [StorageBackend (EStateM PyError β) Bytes]

/-- One turn of the loop of `_seed_kv_objects`. -/
def seedKvObject (config : RealStorageConfig) (objMeta : Nat → ObjectMeta)
    (row : String × Nat) : StoreM β η PUnit := do
  let rows := config.kvTokensPerObject.toNat
  let columns := config.kvVectorSize.toNat
  let keyStates := fullArray rows columns ((row.2 % 13 : Nat) + 1)
  let valueStates := fullArray rows columns ((row.2 % 17 : Nat) + 1)
  let _ ← UnifiedObjectStore.putKvBlock (seedBlock config (objMeta row.2) row.1 row.2) keyStates
    valueStates

variable [PyBuiltins]

/-- `_seed_kv_objects(store, requests, config)` -/
def seedKvObjects (config : RealStorageConfig) (objMeta : Nat → ObjectMeta)
    (requests : List BenchmarkRequest) : StoreM β η PUnit := do
  if config.kvTokensPerObject ≤ 0 ∨ config.kvVectorSize ≤ 0 then
    throw (.valueError "kv_tokens_per_object and kv_vector_size must be positive")
  let objectIds ← raising (objectIdsOf requests)
  objectIds.zipIdx.forM (seedKvObject config objMeta)

/-! ## Systems -/

def vanillaKeys : List String :=
  ["baseline_no_system", "baseline_vanilla_s3", "direct_object_storage", "vanilla_s3", "b0"]

def lruKeys : List String :=
  ["agent_lru", "baseline_lru", "baseline_lru_l3", "lru_l3", "lru", "b2"]

def fullKeys : List String :=
  ["current_intellil3", "l3_full", "l3_measurement_system", "prefix reuse", "prefix_reuse",
    "prefix-reuse", "b1"]

/-- `_build_real_storage_system(system_key, workload_type, requests, config)`, given the backend and
    the metadata that are made for it -/
def buildRealStorageSystem (clock : Nat → Rat) (objMeta : Nat → ObjectMeta) (backend : β)
    (metadata : MetadataStore η) (l3Config : L3Config) (config : RealStorageConfig)
    (systemKey : String) (requests : List BenchmarkRequest) : Except PyError BenchmarkSystem :=
  let key := systemKey.toLower
  let store := UnifiedObjectStore.new backend l3Config metadata
  match (seedKvObjects config objMeta requests) store with
  | .error e _ => .error e
  | .ok _ store =>
      if key ∈ vanillaKeys then
        .ok ((VanillaS3Baseline.new store.backend l3Config.objects.kvCache.keyPrefix
          config.simulatedS3LatencyMs).system clock)
      else if key ∈ lruKeys then .ok (LRUL3Baseline.system clock { store })
      else if key ∈ fullKeys then .ok (FullL3System.system clock { store, policyState := () })
      else .error (.valueError s!"Unknown real-storage benchmark system: {systemKey}")

end

end BenchmarkRunner

end IntelliL3
