import IntelliL3.Core.ObjectStore

/-! # The store, type by type

One `put`, `get`, `delete` and `list` for each of the eight object types, and one
equation for each over the in-memory backend: what it reads, what it writes, and
which component may raise.
-/

namespace IntelliL3

open Lib

/-- `self._config.objects.….key_prefix` of a type -/
def L3Config.keyPrefix (config : L3Config) : ObjectType → String
  | .kvCache => config.objects.kvCache.keyPrefix
  | .rag => config.objects.rag.keyPrefix
  | .semanticCache => config.objects.semanticCache.keyPrefix
  | .agentWorkflow => config.objects.agent.workflowsPrefix
  | .agentStep => config.objects.agent.stepsPrefix
  | .toolCallArtifact => config.objects.agent.toolsPrefix
  | .planCache => config.objects.agent.plansPrefix
  | .workflowTrace => config.objects.agent.tracesPrefix

/-- The extension of the second key of a pair type. -/
def ObjectType.dataExt : ObjectType → Option String
  | .kvCache => some "data.npz"
  | .rag | .semanticCache | .planCache => some "data.npy"
  | .agentWorkflow | .agentStep | .toolCallArtifact | .workflowTrace => none

/-! ## Keys -/

theorem metaKey_inj {p objectId other : String} (same : metaKey p objectId = metaKey p other) :
    objectId = other := by
  simpa only [metaKey, String.append_left_inj, String.append_right_inj] using same

theorem dataKey_inj {p objectId other ext : String}
    (same : dataKey p objectId ext = dataKey p other ext) : objectId = other := by
  simpa only [dataKey, String.append_left_inj, String.append_right_inj] using same

/-- The two suffixes end differently, so no metadata key is a data key. -/
theorem metaKey_ne_dataKey {X : ObjectType} {ext : String} (pair : X.dataExt = some ext)
    (p objectId q other : String) : metaKey p objectId ≠ dataKey q other ext := by
  intro same
  have last := congrArg (fun key => key.toList.getLast?) same
  cases X <;> cases pair <;> simp [metaKey, dataKey] at last

/-- Keys under prefixes of which neither starts with the other are different. -/
theorem keys_apart {p q : String} (apart : ¬ p.toList <+: q.toList ∧ ¬ q.toList <+: p.toList)
    (rest rest' : String) : p ++ rest ≠ q ++ rest' := by
  intro same
  have chars := congrArg String.toList same
  rw [String.toList_append, String.toList_append] at chars
  have left : p.toList <+: q.toList ++ rest'.toList := ⟨rest.toList, chars⟩
  rcases List.prefix_or_prefix_of_prefix left (List.prefix_append q.toList rest'.toList) with h | h
  · exact apart.1 h
  · exact apart.2 h

/-- What is put and got under a type: the object, with its arrays for pair types. -/
def Payload : ObjectType → Type
  | .kvCache => KVCacheBlock × NdArray × NdArray
  | .rag => RAGObject × NdArray
  | .semanticCache => SemanticCacheEntry × NdArray
  | .agentWorkflow => AgentWorkflow
  | .agentStep => AgentStep
  | .toolCallArtifact => ToolCallArtifact
  | .planCache => PlanCacheEntry × NdArray
  | .workflowTrace => WorkflowTrace

namespace Payload

/-- The id the object is stored under. -/
def objectId : {X : ObjectType} → Payload X → String
  | .kvCache, payload => payload.1.objMeta.objectId
  | .rag, payload => payload.1.objMeta.objectId
  | .semanticCache, payload => payload.1.objMeta.objectId
  | .agentWorkflow, workflow => workflow.workflowId
  | .agentStep, step => step.stepId
  | .toolCallArtifact, artifact => artifact.toolCallId
  | .planCache, payload => payload.1.planId
  | .workflowTrace, trace => trace.workflowId

/-- `meta.touch()` on the object. -/
def touch (now : Rat) : {X : ObjectType} → Payload X → Payload X
  | .kvCache, (block, arrays) => ({ block with objMeta := block.objMeta.touch now }, arrays)
  | .rag, (obj, array) => ({ obj with objMeta := obj.objMeta.touch now }, array)
  | .semanticCache, (entry, array) => ({ entry with objMeta := entry.objMeta.touch now }, array)
  | .agentWorkflow, workflow => { workflow with objMeta := workflow.objMeta.touch now }
  | .agentStep, step => { step with objMeta := step.objMeta.touch now }
  | .toolCallArtifact, artifact => { artifact with objMeta := artifact.objMeta.touch now }
  | .planCache, (entry, array) => ({ entry with objMeta := entry.objMeta.touch now }, array)
  | .workflowTrace, trace => { trace with objMeta := trace.objMeta.touch now }

/-- The object as `put` leaves it in the caller's hands. -/
def stamp [PyRuntime] : {X : ObjectType} → Payload X → Except PyError (Payload X)
  | .kvCache, (block, key, value) => return (← block.stamp key value, key, value)
  | .rag, (obj, embedding) => return (← obj.stamp embedding, embedding)
  | .semanticCache, (entry, embedding) => return (← entry.stamp embedding, embedding)
  | .agentWorkflow, workflow => .ok (AgentWorkflow.stamp workflow)
  | .agentStep, step => .ok (AgentStep.stamp step)
  | .toolCallArtifact, artifact => .ok (ToolCallArtifact.stamp artifact)
  | .planCache, (entry, embedding) => return (← entry.stamp embedding, embedding)
  | .workflowTrace, trace => .ok (WorkflowTrace.stamp trace)

section

variable {Bytes : Type} [Serializer Bytes]

def metaBytes : {X : ObjectType} → Payload X → Bytes
  | .kvCache, payload => Serializer.serializeKvBlockMeta payload.1
  | .rag, payload => Serializer.serializeRagMeta payload.1
  | .semanticCache, payload => Serializer.serializeSemanticEntry payload.1
  | .agentWorkflow, workflow => Serializer.serializeAgentWorkflow workflow
  | .agentStep, step => Serializer.serializeAgentStep step
  | .toolCallArtifact, artifact => Serializer.serializeToolArtifact artifact
  | .planCache, payload => Serializer.serializePlanCacheEntry payload.1
  | .workflowTrace, trace => Serializer.serializeWorkflowTrace trace

/-- The arrays of a pair type; a type with one key has none. -/
def dataBytes : {X : ObjectType} → Payload X → Option Bytes
  | .kvCache, payload => some (Serializer.serializeKvTensors payload.2.1 payload.2.2)
  | .rag, payload => some (Serializer.serializeEmbedding payload.2)
  | .semanticCache, payload => some (Serializer.serializeEmbedding payload.2)
  | .planCache, payload => some (Serializer.serializePlanEmbedding payload.2)
  | .agentWorkflow, _ | .agentStep, _ | .toolCallArtifact, _ | .workflowTrace, _ => none

end

/-- What `put` does to the metadata once the object is written. -/
def index [PyRuntime] [Hnswlib η] :
    {X : ObjectType} → Payload X → EStateM PyError (MetadataStore η) Unit
  | .kvCache, payload => fun self =>
      .ok () (self.onObjectAdded .kvCache payload.1.objMeta.objectId (some payload.1.tokenIds))
  | .semanticCache, payload =>
      MetadataStore.onSemanticEntryAdded payload.1.objMeta.objectId payload.2
  | X, payload => fun self => .ok () (self.onObjectAdded X payload.objectId none)

end Payload

/-- Whatever comes of it, indexing leaves the id in the Bloom filter. -/
theorem Payload.index_bloom [PyRuntime] [Hnswlib η] {X : ObjectType} (payload : Payload X)
    (metadata : MetadataStore η) :
    (EStateResult.state (payload.index metadata)).bloom =
      metadata.bloom.add payload.objectId := by
  cases X with
  | kvCache => exact metadata.onObjectAdded_bloom _ _ _
  | semanticCache => exact metadata.onSemanticEntryAdded_bloom _ _
  | rag | agentWorkflow | agentStep | toolCallArtifact | planCache | workflowTrace => rfl

/-! ## Stamping keeps the id -/

theorem KVCacheBlock.stamp_objectId [PyRuntime] {block stamped : KVCacheBlock}
    {key value : NdArray} (done : block.stamp key value = .ok stamped) :
    stamped.objMeta.objectId = block.objMeta.objectId := by
  unfold KVCacheBlock.stamp at done
  split at done <;>
    · obtain ⟨tokenHash, -, same⟩ := bind_eq_ok.mp done
      cases same
      rfl

theorem RAGObject.stamp_objectId {obj stamped : RAGObject} {embedding : NdArray}
    (done : obj.stamp embedding = .ok stamped) :
    stamped.objMeta.objectId = obj.objMeta.objectId := by
  obtain ⟨dim, -, same⟩ := bind_eq_ok.mp done
  cases same
  rfl

theorem SemanticCacheEntry.stamp_objectId {entry stamped : SemanticCacheEntry}
    {embedding : NdArray} (done : entry.stamp embedding = .ok stamped) :
    stamped.objMeta.objectId = entry.objMeta.objectId := by
  obtain ⟨dim, -, same⟩ := bind_eq_ok.mp done
  cases same
  rfl

theorem PlanCacheEntry.stamp_planId {entry stamped : PlanCacheEntry} {embedding : NdArray}
    (done : entry.stamp embedding = .ok stamped) : stamped.planId = entry.planId := by
  obtain ⟨dim, -, same⟩ := bind_eq_ok.mp done
  cases same
  rfl

/-- The id under which an object is put is the one it was built with. -/
theorem Payload.stamp_objectId [PyRuntime] {X : ObjectType} {payload stamped : Payload X}
    (done : payload.stamp = .ok stamped) : stamped.objectId = payload.objectId := by
  cases X with
  | kvCache =>
      obtain ⟨block, inner, same⟩ := bind_eq_ok.mp done
      cases same
      exact KVCacheBlock.stamp_objectId inner
  | rag =>
      obtain ⟨obj, inner, same⟩ := bind_eq_ok.mp done
      cases same
      exact RAGObject.stamp_objectId inner
  | semanticCache =>
      obtain ⟨entry, inner, same⟩ := bind_eq_ok.mp done
      cases same
      exact SemanticCacheEntry.stamp_objectId inner
  | planCache =>
      obtain ⟨entry, inner, same⟩ := bind_eq_ok.mp done
      cases same
      exact PlanCacheEntry.stamp_planId inner
  | agentWorkflow | agentStep | toolCallArtifact | workflowTrace =>
      cases done
      rfl

/-! ## Reading a backend -/

/-- A backend whose reads always succeed, seen as the map it holds. -/
class ReadableBackend (β : Type) (Bytes : outParam Type)
    [StorageBackend (EStateM PyError β) Bytes] where
  view : β → MemoryBackend Bytes
  get_view : ∀ key (b : β),
    (StorageBackend.get key : EStateM PyError β (Option Bytes)) b = .ok ((view b).get key) b
  listKeys_view : ∀ p (b : β),
    (StorageBackend.listKeys p : EStateM PyError β (List String)) b =
      .ok ((view b).listKeys p) b

instance {Bytes : Type} : ReadableBackend (MemoryBackend Bytes) Bytes where
  view := id
  get_view _ _ := rfl
  listKeys_view _ _ := rfl

instance {Bytes : Type} : ReadableBackend (FaultyBackend Bytes) Bytes where
  view := FaultyBackend.inner
  get_view _ _ := rfl
  listKeys_view _ _ := rfl

namespace MemoryBackend

variable {Bytes τ δ : Type}

def readMeta (b : MemoryBackend Bytes) (p objectId : String)
    (deserialize : Bytes → Except PyError τ) : Except PyError (Option τ) :=
  match b.get (metaKey p objectId) with
  | none => .ok none
  | some metaData => (deserialize metaData).map some

def readPair (b : MemoryBackend Bytes) (p objectId dataExt : String)
    (deserialize : Bytes → Except PyError τ) (deserializeData : Bytes → Except PyError δ) :
    Except PyError (Option (τ × δ)) :=
  match b.get (metaKey p objectId), b.get (dataKey p objectId dataExt) with
  | some metaData, some data => do
      let obj ← deserialize metaData
      let arrays ← deserializeData data
      return some (obj, arrays)
  | _, _ => .ok none

/-- Everything an object of the type needs is there. -/
def complete (b : MemoryBackend Bytes) (config : L3Config) (X : ObjectType) (objectId : String) :
    Bool :=
  (b.get (metaKey (config.keyPrefix X) objectId)).isSome &&
    match X.dataExt with
    | some ext => (b.get (dataKey (config.keyPrefix X) objectId ext)).isSome
    | none => true

/-- Whether any key of the object is there. -/
def touchesKeys (b : MemoryBackend Bytes) (config : L3Config) (X : ObjectType)
    (objectId : String) : Bool :=
  b.existsKey (metaKey (config.keyPrefix X) objectId) ||
    match X.dataExt with
    | some ext => b.existsKey (dataKey (config.keyPrefix X) objectId ext)
    | none => false

/-- Erase the keys of an object. -/
def wipe (b : MemoryBackend Bytes) (config : L3Config) (X : ObjectType) (objectId : String) :
    MemoryBackend Bytes :=
  let wiped := b.delete (metaKey (config.keyPrefix X) objectId)
  match X.dataExt with
  | some ext => wiped.delete (dataKey (config.keyPrefix X) objectId ext)
  | none => wiped

/-- The ids a listing of one prefix reports. -/
def listed (b : MemoryBackend Bytes) (p : String) : List String :=
  sorted (((b.listKeys p).map (UnifiedObjectStore.listedName p)).filter (· ≠ "")).dedup

theorem listed_empty (p : String) : (empty : MemoryBackend Bytes).listed p = [] := by
  unfold listed listKeys
  split <;> rfl

theorem readMeta_none_iff (b : MemoryBackend Bytes) (p objectId : String)
    (deserialize : Bytes → Except PyError τ) :
    b.readMeta p objectId deserialize = .ok none ↔ b.get (metaKey p objectId) = none := by
  unfold readMeta
  cases b.get (metaKey p objectId) with
  | none => simp
  | some metaData => cases decoded : deserialize metaData <;> simp [Except.map, decoded]

theorem readPair_none_iff (b : MemoryBackend Bytes) (p objectId dataExt : String)
    (deserialize : Bytes → Except PyError τ) (deserializeData : Bytes → Except PyError δ) :
    b.readPair p objectId dataExt deserialize deserializeData = .ok none ↔
      b.get (metaKey p objectId) = none ∨ b.get (dataKey p objectId dataExt) = none := by
  unfold readPair
  cases b.get (metaKey p objectId) with
  | none => simp
  | some metaData =>
      cases b.get (dataKey p objectId dataExt) with
      | none => simp
      | some data =>
          cases decoded : deserialize metaData with
          | error e => simp [decoded, bind, Except.bind]
          | ok obj =>
              cases arrays : deserializeData data <;>
                simp [decoded, arrays, bind, Except.bind, pure, Except.pure]

variable [Serializer Bytes]

/-- The stored object of a type under an id, decoded and not touched. -/
def read (b : MemoryBackend Bytes) (config : L3Config) (X : ObjectType) (objectId : String) :
    Except PyError (Option (Payload X)) :=
  match X with
  | .kvCache => b.readPair (config.keyPrefix .kvCache) objectId "data.npz"
      Serializer.deserializeKvBlockMeta Serializer.deserializeKvTensors
  | .rag => b.readPair (config.keyPrefix .rag) objectId "data.npy"
      Serializer.deserializeRagMeta Serializer.deserializeEmbedding
  | .semanticCache => b.readPair (config.keyPrefix .semanticCache) objectId "data.npy"
      Serializer.deserializeSemanticEntry Serializer.deserializeEmbedding
  | .agentWorkflow => b.readMeta (config.keyPrefix .agentWorkflow) objectId
      Serializer.deserializeAgentWorkflow
  | .agentStep => b.readMeta (config.keyPrefix .agentStep) objectId
      Serializer.deserializeAgentStep
  | .toolCallArtifact => b.readMeta (config.keyPrefix .toolCallArtifact) objectId
      Serializer.deserializeToolArtifact
  | .planCache => b.readPair (config.keyPrefix .planCache) objectId "data.npy"
      Serializer.deserializePlanCacheEntry Serializer.deserializePlanEmbedding
  | .workflowTrace => b.readMeta (config.keyPrefix .workflowTrace) objectId
      Serializer.deserializeWorkflowTrace

/-- Write an object under its keys. -/
def write (b : MemoryBackend Bytes) (config : L3Config) {X : ObjectType} (payload : Payload X) :
    MemoryBackend Bytes :=
  let written := b.put (metaKey (config.keyPrefix X) payload.objectId) payload.metaBytes
  match X.dataExt, (payload.dataBytes : Option Bytes) with
  | some ext, some data => written.put (dataKey (config.keyPrefix X) payload.objectId ext) data
  | _, _ => written

/-- A read answers nothing exactly when a key of the object is missing. -/
theorem read_none_iff (b : MemoryBackend Bytes) (config : L3Config) (X : ObjectType)
    (objectId : String) :
    b.read config X objectId = .ok none ↔ b.complete config X objectId = false := by
  cases X with
  | kvCache | rag | semanticCache | planCache =>
      refine (readPair_none_iff b _ _ _ _ _).trans ?_
      rw [complete, Bool.and_eq_false_iff]
      simp only [ObjectType.dataExt, Option.isSome_eq_false_iff, Option.isNone_iff_eq_none]
  | agentWorkflow | agentStep | toolCallArtifact | workflowTrace =>
      refine (readMeta_none_iff b _ _ _).trans ?_
      rw [complete, Bool.and_eq_false_iff]
      simp only [ObjectType.dataExt, Option.isSome_eq_false_iff, Option.isNone_iff_eq_none,
        reduceCtorEq, or_false]

end MemoryBackend

namespace UnifiedObjectStore

variable {β η Bytes : Type} [StorageBackend (EStateM PyError β) Bytes]

/-! ## Listing -/

def list (X : ObjectType) : StoreM β η (List String) :=
  match X with
  | .kvCache => listKvBlocks
  | .rag => listRagObjects
  | .semanticCache => listSemanticEntries
  | .agentWorkflow => listAgentWorkflows
  | .agentStep => listAgentSteps
  | .toolCallArtifact => listToolArtifacts
  | .planCache => listPlanCacheEntries
  | .workflowTrace => listWorkflowTraces

section

variable [ReadableBackend β Bytes]

theorem get_eq_view (self : UnifiedObjectStore β η) (key : String) :
    (StorageBackend.get key : StoreM β η (Option Bytes)) self =
      .ok ((ReadableBackend.view self.backend).get key) self := by
  change onBackend _ self = _
  rw [onBackend, zoom_run, ReadableBackend.get_view]

theorem listIds_eq (self : UnifiedObjectStore β η) (p : String) :
    listIds p self = .ok ((ReadableBackend.view self.backend).listed p) self := by
  have keys : (StorageBackend.listKeys p : StoreM β η (List String)) self =
      .ok ((ReadableBackend.view self.backend).listKeys p) self := by
    change onBackend _ self = _
    rw [onBackend, zoom_run, ReadableBackend.listKeys_view]
  rw [listIds, bind_run, keys]
  rfl

theorem list_eq (self : UnifiedObjectStore β η) (X : ObjectType) :
    list X self =
      .ok ((ReadableBackend.view self.backend).listed (self.config.keyPrefix X)) self := by
  cases X <;> exact listIds_eq self _

end

/-! ## Getting -/

section

variable [PyRuntime] [Serializer Bytes]

def get (X : ObjectType) (objectId : String) (now : Rat) : StoreM β η (Option (Payload X)) :=
  match X with
  | .kvCache => getKvBlock objectId now
  | .rag => getRagObject objectId now
  | .semanticCache => getSemanticEntry objectId now
  | .agentWorkflow => getAgentWorkflow objectId now
  | .agentStep => getAgentStep objectId now
  | .toolCallArtifact => getToolArtifact objectId now
  | .planCache => getPlanCacheEntry objectId now
  | .workflowTrace => getWorkflowTrace objectId now

variable [ReadableBackend β Bytes] {τ δ : Type}

omit [Serializer Bytes] in
theorem getMetaObject_eq (self : UnifiedObjectStore β η) (p objectId : String)
    (deserialize : Bytes → Except PyError τ) (touch : τ → τ) :
    getMetaObject p objectId deserialize touch self =
      raising (if self.metadata.mightExist objectId then
        ((ReadableBackend.view self.backend).readMeta p objectId deserialize).map (Option.map touch)
        else .ok none) self := by
  unfold getMetaObject
  simp only [bind_run, get_run]
  cases self.metadata.mightExist objectId with
  | false => rfl
  | true =>
      simp only [if_true, bind_run, get_eq_view, MemoryBackend.readMeta]
      cases (ReadableBackend.view self.backend).get (metaKey p objectId) with
      | none => rfl
      | some metaData =>
          simp only [bind_run]
          cases deserialize metaData <;> rfl

omit [Serializer Bytes] in
theorem getPairObject_eq (self : UnifiedObjectStore β η) (p objectId dataExt : String)
    (deserialize : Bytes → Except PyError τ) (deserializeData : Bytes → Except PyError δ)
    (touch : τ → τ) :
    getPairObject p objectId dataExt deserialize deserializeData touch self =
      raising (if self.metadata.mightExist objectId then
        ((ReadableBackend.view self.backend).readPair p objectId dataExt deserialize
          deserializeData).map (Option.map fun pair => (touch pair.1, pair.2))
        else .ok none) self := by
  unfold getPairObject
  simp only [bind_run, get_run]
  cases self.metadata.mightExist objectId with
  | false => rfl
  | true =>
      simp only [if_true, bind_run, getPair, get_eq_view, MemoryBackend.readPair]
      cases (ReadableBackend.view self.backend).get (metaKey p objectId) with
      | none => rfl
      | some metaData =>
          simp only [bind_run, get_eq_view]
          cases (ReadableBackend.view self.backend).get (dataKey p objectId dataExt) with
          | none => rfl
          | some data =>
              simp only [bind_run, pure_run]
              cases deserialize metaData with
              | error e => rfl
              | ok obj => simp only [raising_ok]; cases deserializeData data <;> rfl

/-- A `get` probes the Bloom filter, then answers the stored object touched. It
    changes nothing, whether it answers or raises. -/
theorem get_eq (self : UnifiedObjectStore β η) (X : ObjectType) (objectId : String) (now : Rat) :
    get X objectId now self =
      raising (if self.metadata.mightExist objectId then
        ((ReadableBackend.view self.backend).read self.config X objectId).map
          (Option.map (Payload.touch now))
        else .ok none) self := by
  cases X with
  | kvCache | rag | semanticCache | planCache => exact getPairObject_eq self _ _ _ _ _ _
  | agentWorkflow | agentStep | toolCallArtifact | workflowTrace =>
      exact getMetaObject_eq self _ _ _ _

/-- An id the filter does not know is not answered. -/
theorem get_unknown {self : UnifiedObjectStore β η} {objectId : String}
    (unknown : self.metadata.mightExist objectId = false) (X : ObjectType) (now : Rat) :
    get X objectId now self = .ok none self := by
  rw [get_eq, unknown, if_neg Bool.false_ne_true, raising_ok]

end

/-! ## Deleting -/

section

variable [Hnswlib η]

def delete (X : ObjectType) (objectId : String) : StoreM β η Bool :=
  match X with
  | .kvCache => deleteKvBlock objectId
  | .rag => deleteRagObject objectId
  | .semanticCache => deleteSemanticEntry objectId
  | .agentWorkflow => deleteAgentWorkflow objectId
  | .agentStep => deleteAgentStep objectId
  | .toolCallArtifact => deleteToolArtifact objectId
  | .planCache => deletePlanCacheEntry objectId
  | .workflowTrace => deleteWorkflowTrace objectId

/-- What a deletion does after its keys are erased. -/
private def afterDelete (self : UnifiedObjectStore (MemoryBackend Bytes) η)
    (backend : MemoryBackend Bytes) (existed : Bool) (X : ObjectType) (objectId : String) :
    EStateM.Result PyError (UnifiedObjectStore (MemoryBackend Bytes) η) Bool :=
  if existed then
    match MetadataStore.onObjectRemoved X objectId self.metadata with
    | .ok _ metadata => .ok true { self with backend, metadata }
    | .error e metadata => .error e { self with backend, metadata }
  else .ok false { self with backend }

private theorem deleteMetaObject_eq (self : UnifiedObjectStore (MemoryBackend Bytes) η)
    (p objectId : String) (X : ObjectType) :
    deleteMetaObject p objectId X self =
      afterDelete self (self.backend.delete (metaKey p objectId))
        (self.backend.existsKey (metaKey p objectId)) X objectId := by
  have erased : (StorageBackend.delete (metaKey p objectId) :
      StoreM (MemoryBackend Bytes) η Bool) self =
      .ok (self.backend.existsKey (metaKey p objectId))
        { self with backend := self.backend.delete (metaKey p objectId) } := rfl
  rw [deleteMetaObject, bind_run, erased, afterDelete]
  cases self.backend.existsKey (metaKey p objectId) with
  | false => rfl
  | true =>
      simp only [if_true, bind_run, onMetadata, zoom_run]
      cases MetadataStore.onObjectRemoved X objectId self.metadata <;> rfl

private theorem deletePairObject_eq (self : UnifiedObjectStore (MemoryBackend Bytes) η)
    (p objectId : String) {X : ObjectType} {ext : String} (pair : X.dataExt = some ext) :
    deletePairObject p objectId ext X self =
      afterDelete self
        ((self.backend.delete (metaKey p objectId)).delete (dataKey p objectId ext))
        (self.backend.existsKey (metaKey p objectId) ||
          self.backend.existsKey (dataKey p objectId ext)) X objectId := by
  have apart := metaKey_ne_dataKey pair p objectId p objectId
  have second : (self.backend.delete (metaKey p objectId)).existsKey (dataKey p objectId ext) =
      self.backend.existsKey (dataKey p objectId ext) := by
    rw [MemoryBackend.existsKey_eq, MemoryBackend.existsKey_eq, MemoryBackend.get_delete,
      if_neg apart]
  have erased : (deletePair p objectId ext : StoreM (MemoryBackend Bytes) η Bool) self =
      .ok (self.backend.existsKey (metaKey p objectId) ||
          self.backend.existsKey (dataKey p objectId ext))
        { self with backend :=
            (self.backend.delete (metaKey p objectId)).delete (dataKey p objectId ext) } := by
    rw [← second]
    cases first : self.backend.existsKey (metaKey p objectId) <;>
      cases later : (self.backend.delete (metaKey p objectId)).existsKey
        (dataKey p objectId ext) <;>
      simp [deletePair, bind_run, StorageBackend.deleteMany, onBackend, zoom_run,
        first, later]
  rw [deletePairObject, bind_run, erased, afterDelete]
  cases self.backend.existsKey (metaKey p objectId) ||
      self.backend.existsKey (dataKey p objectId ext) with
  | false => rfl
  | true =>
      simp only [if_true, bind_run, onMetadata, zoom_run]
      cases MetadataStore.onObjectRemoved X objectId self.metadata <;> rfl

/-- A `delete` erases the keys of its object; the metadata hears of it when there
    was one. -/
theorem delete_eq (self : UnifiedObjectStore (MemoryBackend Bytes) η) (X : ObjectType)
    (objectId : String) :
    delete X objectId self =
      let backend := self.backend.wipe self.config X objectId
      if self.backend.touchesKeys self.config X objectId then
        match MetadataStore.onObjectRemoved X objectId self.metadata with
        | .ok _ metadata => .ok true { self with backend, metadata }
        | .error e metadata => .error e { self with backend, metadata }
      else .ok false { self with backend } := by
  cases X with
  | kvCache | rag | semanticCache | planCache => exact deletePairObject_eq self _ objectId rfl
  | agentWorkflow | agentStep | toolCallArtifact | workflowTrace =>
      refine (deleteMetaObject_eq self _ objectId _).trans ?_
      simp only [afterDelete, MemoryBackend.touchesKeys, MemoryBackend.wipe, ObjectType.dataExt,
        Bool.or_false]
      rfl

end

/-! ## Putting -/

section

variable [PyRuntime] [Serializer Bytes] [Hnswlib η]

def put : {X : ObjectType} → Payload X → StoreM β η String
  | .kvCache, (block, key, value) => putKvBlock block key value
  | .rag, (obj, embedding) => putRagObject obj embedding
  | .semanticCache, (entry, embedding) => putSemanticEntry entry embedding
  | .agentWorkflow, workflow => putAgentWorkflow workflow
  | .agentStep, step => putAgentStep step
  | .toolCallArtifact, artifact => putToolArtifact artifact
  | .planCache, (entry, embedding) => putPlanCacheEntry entry embedding
  | .workflowTrace, trace => putWorkflowTrace trace

omit [PyRuntime] [Serializer Bytes] [Hnswlib η] in
theorem putPair_eq (self : UnifiedObjectStore (MemoryBackend Bytes) η)
    (metaKey : String) (metaBytes : Bytes) (dataKey : String) (dataBytes : Bytes) :
    (putPair metaKey metaBytes dataKey dataBytes : StoreM (MemoryBackend Bytes) η Unit) self =
      .ok () { self with
        backend := (self.backend.put metaKey metaBytes).put dataKey dataBytes } := rfl

/-- A `put` stamps its object, writes it and then tells the metadata, which may
    still refuse it. -/
theorem put_eq (self : UnifiedObjectStore (MemoryBackend Bytes) η) {X : ObjectType}
    (payload : Payload X) :
    put payload self =
      match payload.stamp with
      | .error e => .error e self
      | .ok stamped =>
          let backend := self.backend.write self.config stamped
          match stamped.index self.metadata with
          | .ok _ metadata => .ok stamped.objectId { self with backend, metadata }
          | .error e metadata => .error e { self with backend, metadata } := by
  cases X with
  | kvCache =>
      obtain ⟨block, key, value⟩ := payload
      simp only [put, putKvBlock, Payload.stamp, bind_run, get_run]
      cases stamped : block.stamp key value with
      | error e => rfl
      | ok block' =>
          rw [← KVCacheBlock.stamp_objectId stamped]
          rfl
  | rag =>
      obtain ⟨obj, embedding⟩ := payload
      simp only [put, putRagObject, Payload.stamp, bind_run, get_run]
      cases stamped : obj.stamp embedding with
      | error e => rfl
      | ok obj' =>
          rw [← RAGObject.stamp_objectId stamped]
          rfl
  | semanticCache =>
      obtain ⟨entry, embedding⟩ := payload
      simp only [put, putSemanticEntry, Payload.stamp, bind_run, get_run]
      cases stamped : entry.stamp embedding with
      | error e => rfl
      | ok entry' =>
          rw [← SemanticCacheEntry.stamp_objectId stamped]
          simp only [raising_ok, putPair_eq, onMetadata, zoom_run]
          change _ = match (MetadataStore.onSemanticEntryAdded entry'.objMeta.objectId embedding
              self.metadata : EStateM.Result _ _ _) with
            | .ok _ metadata => _
            | .error e metadata => _
          generalize MetadataStore.onSemanticEntryAdded entry'.objMeta.objectId embedding
            self.metadata = indexed
          cases indexed <;> rfl
  | planCache =>
      obtain ⟨entry, embedding⟩ := payload
      simp only [put, putPlanCacheEntry, Payload.stamp, bind_run, get_run]
      cases entry.stamp embedding <;> rfl
  | agentWorkflow | agentStep | toolCallArtifact | workflowTrace => rfl

/-! ## What a call that returns has done -/

variable {self self' : UnifiedObjectStore (MemoryBackend Bytes) η}

theorem put_ok {X : ObjectType} {payload : Payload X} {objectId : String}
    (done : put payload self = .ok objectId self') :
    ∃ stamped, payload.stamp = .ok stamped ∧ objectId = payload.objectId ∧
      stamped.objectId = payload.objectId ∧ self'.config = self.config ∧
      self'.backend = self.backend.write self.config stamped ∧
      stamped.index self.metadata = .ok () self'.metadata := by
  rw [put_eq] at done
  cases stamping : payload.stamp with
  | error e => rw [stamping] at done; cases done
  | ok stamped =>
      have same := Payload.stamp_objectId stamping
      simp only [stamping] at done
      cases indexing : stamped.index self.metadata with
      | error e metadata => rw [indexing] at done; cases done
      | ok _ metadata =>
          rw [indexing] at done
          cases done
          exact ⟨stamped, rfl, same, same, rfl, rfl, indexing⟩

omit [PyRuntime] [Serializer Bytes] in
theorem delete_ok {X : ObjectType} {objectId : String} {existed : Bool}
    (done : delete X objectId self = .ok existed self') :
    existed = self.backend.touchesKeys self.config X objectId ∧ self'.config = self.config ∧
      self'.backend = self.backend.wipe self.config X objectId ∧
      if existed then MetadataStore.onObjectRemoved X objectId self.metadata =
          .ok () self'.metadata
        else self'.metadata = self.metadata := by
  rw [delete_eq] at done
  cases touched : self.backend.touchesKeys self.config X objectId with
  | false =>
      simp only [touched, Bool.false_eq_true, if_false] at done
      cases done
      exact ⟨rfl, rfl, rfl, rfl⟩
  | true =>
      simp only [touched, if_true] at done
      cases removing : MetadataStore.onObjectRemoved X objectId self.metadata with
      | error e metadata => rw [removing] at done; cases done
      | ok _ metadata =>
          rw [removing] at done
          cases done
          exact ⟨rfl, rfl, rfl, rfl⟩

end

end UnifiedObjectStore

/-- A store over an empty in-memory backend. -/
def UnifiedObjectStore.overEmpty {η : Type} (Bytes : Type) (config : L3Config)
    (metadata : MetadataStore η) : UnifiedObjectStore (MemoryBackend Bytes) η :=
  new .empty config metadata

/-! ## Calls -/

/-- A call of the typed interface. -/
inductive Call where
  | put {X : ObjectType} (payload : Payload X)
  | get (X : ObjectType) (objectId : String) (now : Rat)
  | delete (X : ObjectType) (objectId : String)

inductive Reply where
  | stored (objectId : String)
  | found (X : ObjectType) (value : Option (Payload X))
  | deleted (existed : Bool)

/-- The object a call is about. -/
def Call.concerns (X : ObjectType) (objectId : String) : Call → Prop
  | .put (X := Y) payload => Y = X ∧ payload.objectId = objectId
  | .get Y other _ => Y = X ∧ other = objectId
  | .delete Y other => Y = X ∧ other = objectId

def UnifiedObjectStore.exec {β η Bytes : Type} [StorageBackend (EStateM PyError β) Bytes]
    [PyRuntime] [Serializer Bytes] [Hnswlib η] : Call → StoreM β η Reply
  | .put payload => do return .stored (← put payload)
  | .get X objectId now => do return .found X (← get X objectId now)
  | .delete X objectId => do return .deleted (← delete X objectId)

end IntelliL3
