import IntelliL3.Metadata.MetadataStore
import IntelliL3.Storage.Backend

/-! # Unified object store

`core/object_store.py` with the key prefixes of `utils/config.py`. The pair
operations are written over any monad that can speak to a backend, so the same
text runs inside the store and as a message-by-message client. A `put_*` that
stamps the caller's object in place is split into the stamping and the write.
-/

namespace IntelliL3

open Lib

structure KVCacheConfig where
  keyPrefix : String := "kv/"

structure RAGConfig where
  keyPrefix : String := "rag/"

structure SemanticCacheConfig where
  keyPrefix : String := "sem/"

structure AgentObjectsConfig where
  workflowsPrefix : String := "agent/workflows/"
  stepsPrefix : String := "agent/steps/"
  toolsPrefix : String := "agent/tools/"
  plansPrefix : String := "agent/plans/"
  tracesPrefix : String := "agent/traces/"

structure ObjectsConfig where
  kvCache : KVCacheConfig := {}
  rag : RAGConfig := {}
  semanticCache : SemanticCacheConfig := {}
  agent : AgentObjectsConfig := {}

structure L3Config where
  objects : ObjectsConfig := {}

def L3Config.default : L3Config := {}

structure UnifiedObjectStore (β η : Type) where
  backend : β
  config : L3Config
  metadata : MetadataStore η

abbrev StoreM (β η : Type) := EStateM PyError (UnifiedObjectStore β η)

/-! ## Pairs of keys -/

def metaKey (p objectId : String) : String := p ++ objectId ++ ".meta.json"

def dataKey (p objectId dataExt : String) : String := p ++ objectId ++ "." ++ dataExt

section

variable {m : Type → Type} [Monad m] {Bytes : Type} [StorageBackend m Bytes]

def putPair [MonadExceptOf PyError m] (metaKey : String) (metaBytes : Bytes) (dataKey : String)
    (dataBytes : Bytes) : m Unit := do
  StorageBackend.put metaKey metaBytes
  tryCatch (StorageBackend.put dataKey dataBytes) fun e => do
    let _ ← StorageBackend.delete metaKey
    throw e

def getPair (metaKey dataKey : String) : m (Option (Bytes × Bytes)) := do
  match ← StorageBackend.get metaKey with
  | none => return none
  | some metaData =>
      match ← StorageBackend.get dataKey with
      | none => return none
      | some data => return some (metaData, data)

def deletePair (p objectId dataExt : String) : m Bool := do
  let deleted ← StorageBackend.deleteMany [metaKey p objectId, dataKey p objectId dataExt]
  return deleted > 0

end

/-! ## Stamping

What a `put_*` writes into the object before it is serialized. -/

section

variable [PyRuntime]

def KVCacheBlock.stamp (block : KVCacheBlock) (keyStates valueStates : NdArray) :
    Except PyError KVCacheBlock := do
  let tokenHash ←
    if block.tokenIds ≠ [] ∧ block.tokenHash = "" then PyRuntime.computeTokenHash block.tokenIds
    else pure block.tokenHash
  return { block with
    tokenHash
    objMeta := { block.objMeta with sizeBytes := keyStates.nbytes + valueStates.nbytes } }

end

def RAGObject.stamp (obj : RAGObject) (embedding : NdArray) : Except PyError RAGObject := do
  let dim ← embedding.lastDim
  return { obj with
    embeddingDim := dim
    objMeta := { obj.objMeta with sizeBytes := embedding.nbytes } }

def SemanticCacheEntry.stamp (entry : SemanticCacheEntry) (promptEmbedding : NdArray) :
    Except PyError SemanticCacheEntry := do
  let dim ← promptEmbedding.lastDim
  return { entry with
    embeddingDim := dim
    objMeta := { entry.objMeta with sizeBytes := promptEmbedding.nbytes } }

def AgentWorkflow.stamp (workflow : AgentWorkflow) : AgentWorkflow :=
  { workflow with objMeta := { workflow.objMeta with objectId := workflow.workflowId } }

def AgentStep.stamp (step : AgentStep) : AgentStep :=
  { step with objMeta := { step.objMeta with objectId := step.stepId } }

def ToolCallArtifact.stamp (artifact : ToolCallArtifact) : ToolCallArtifact :=
  { artifact with objMeta := { artifact.objMeta with
      objectId := artifact.toolCallId
      toolName := some artifact.toolName
      toolArgsHash := some artifact.toolArgsHash
      validUntil := some artifact.expiresAt
      scope := some artifact.permissionScope } }

def PlanCacheEntry.stamp (entry : PlanCacheEntry) (taskEmbedding : NdArray) :
    Except PyError PlanCacheEntry := do
  let dim ← taskEmbedding.lastDim
  return { entry with
    taskEmbeddingDim := dim
    objMeta := { entry.objMeta with
      objectId := entry.planId
      planId := some entry.planId
      scope := some entry.validityScope
      sizeBytes := taskEmbedding.nbytes } }

def WorkflowTrace.stamp (trace : WorkflowTrace) : WorkflowTrace :=
  { trace with objMeta := { trace.objMeta with objectId := trace.workflowId } }

namespace UnifiedObjectStore

variable {β η Bytes : Type}

/-- `UnifiedObjectStore(backend, config, metadata)` -/
def new (backend : β) (config : L3Config) (metadata : MetadataStore η) :
    UnifiedObjectStore β η where
  backend := backend
  config := config
  metadata := metadata

def onBackend (action : EStateM PyError β α) : StoreM β η α :=
  zoom backend (fun self backend => { self with backend }) action

def onMetadata (action : EStateM PyError (MetadataStore η) α) : StoreM β η α :=
  zoom metadata (fun self metadata => { self with metadata }) action

variable [StorageBackend (EStateM PyError β) Bytes]

/-- `self._backend`: the store speaks to its backend field. -/
instance : StorageBackend (StoreM β η) Bytes where
  put key data := onBackend (StorageBackend.put key data)
  get key := onBackend (StorageBackend.get key)
  delete key := onBackend (StorageBackend.delete key)
  deleteMany keys := onBackend (StorageBackend.deleteMany keys)
  existsKey key := onBackend (StorageBackend.existsKey key)
  listKeys p := onBackend (StorageBackend.listKeys p)

section

variable [PyRuntime]

def putMetaObject (p objectId : String) (metaBytes : Bytes) (objectType : ObjectType) :
    StoreM β η String := do
  StorageBackend.put (metaKey p objectId) metaBytes
  modify fun self =>
    { self with metadata := self.metadata.onObjectAdded objectType objectId none }
  return objectId

def getMetaObject (p objectId : String) (deserialize : Bytes → Except PyError τ)
    (touch : τ → τ) : StoreM β η (Option τ) := do
  let self ← get
  if self.metadata.mightExist objectId then
    match ← StorageBackend.get (metaKey p objectId) with
    | none => return none
    | some metaData =>
        let obj ← raising (deserialize metaData)
        return some (touch obj)
  else return none

/-- The four pair getters: probe the Bloom filter, read both keys, decode both,
    then touch. -/
def getPairObject (p objectId dataExt : String) (deserialize : Bytes → Except PyError τ)
    (deserializeData : Bytes → Except PyError δ) (touch : τ → τ) :
    StoreM β η (Option (τ × δ)) := do
  let self ← get
  if self.metadata.mightExist objectId then
    match ← getPair (metaKey p objectId) (dataKey p objectId dataExt) with
    | none => return none
    | some pair =>
        let obj ← raising (deserialize pair.1)
        let data ← raising (deserializeData pair.2)
        return some (touch obj, data)
  else return none

end

section

variable [Hnswlib η]

def deleteMetaObject (p objectId : String) (objectType : ObjectType) : StoreM β η Bool := do
  let result ← StorageBackend.delete (metaKey p objectId)
  if result then onMetadata (MetadataStore.onObjectRemoved objectType objectId)
  return result

/-- The four pair deletions. -/
def deletePairObject (p objectId dataExt : String) (objectType : ObjectType) :
    StoreM β η Bool := do
  let result ← deletePair p objectId dataExt
  if result then onMetadata (MetadataStore.onObjectRemoved objectType objectId)
  return result

end

/-- The id a listed key stands for: `key.removeprefix(p).split(".")[0]` -/
def listedName (p key : String) : String :=
  let name := if startsWith key p then key.toList.drop p.length else key.toList
  String.ofList (name.takeWhile (· ≠ '.'))

def listIds (p : String) : StoreM β η (List String) := do
  let keys ← StorageBackend.listKeys p
  return sorted ((keys.map (listedName p)).filter (· ≠ "")).dedup

variable [PyRuntime] [Serializer Bytes] [Hnswlib η]

/-! ## KV-Cache -/

def putKvBlock (block : KVCacheBlock) (keyStates valueStates : NdArray) : StoreM β η String := do
  let p := (← get).config.objects.kvCache.keyPrefix
  let objId := block.objMeta.objectId
  let block ← raising (block.stamp keyStates valueStates)
  putPair (metaKey p objId) (Serializer.serializeKvBlockMeta block)
    (dataKey p objId "data.npz") (Serializer.serializeKvTensors keyStates valueStates)
  modify fun self =>
    { self with metadata := self.metadata.onObjectAdded .kvCache objId (some block.tokenIds) }
  return objId

def getKvBlock (objectId : String) (now : Rat) :
    StoreM β η (Option (KVCacheBlock × NdArray × NdArray)) := do
  let p := (← get).config.objects.kvCache.keyPrefix
  getPairObject p objectId "data.npz" Serializer.deserializeKvBlockMeta
    Serializer.deserializeKvTensors fun block => { block with objMeta := block.objMeta.touch now }

def deleteKvBlock (objectId : String) : StoreM β η Bool := do
  let p := (← get).config.objects.kvCache.keyPrefix
  deletePairObject p objectId "data.npz" .kvCache

def listKvBlocks : StoreM β η (List String) := do
  listIds (← get).config.objects.kvCache.keyPrefix

def findKvPrefixMatches (self : UnifiedObjectStore β η) (order : SetOrder) (tokenIds : List Int) :
    List String :=
  (self.metadata.findPrefixMatches order tokenIds).map PrefixMatch.objectId

def findKvLongestPrefix (self : UnifiedObjectStore β η) (order : SetOrder) (tokenIds : List Int) :
    Option String :=
  (self.metadata.findLongestPrefix order tokenIds).map PrefixMatch.objectId

/-! ## RAG -/

def putRagObject (obj : RAGObject) (embedding : NdArray) : StoreM β η String := do
  let p := (← get).config.objects.rag.keyPrefix
  let objId := obj.objMeta.objectId
  let obj ← raising (obj.stamp embedding)
  putPair (metaKey p objId) (Serializer.serializeRagMeta obj)
    (dataKey p objId "data.npy") (Serializer.serializeEmbedding embedding)
  modify fun self => { self with metadata := self.metadata.onObjectAdded .rag objId none }
  return objId

def getRagObject (objectId : String) (now : Rat) : StoreM β η (Option (RAGObject × NdArray)) := do
  let p := (← get).config.objects.rag.keyPrefix
  getPairObject p objectId "data.npy" Serializer.deserializeRagMeta
    Serializer.deserializeEmbedding fun obj => { obj with objMeta := obj.objMeta.touch now }

def deleteRagObject (objectId : String) : StoreM β η Bool := do
  let p := (← get).config.objects.rag.keyPrefix
  deletePairObject p objectId "data.npy" .rag

def listRagObjects : StoreM β η (List String) := do
  listIds (← get).config.objects.rag.keyPrefix

/-! ## Semantic Cache -/

def putSemanticEntry (entry : SemanticCacheEntry) (promptEmbedding : NdArray) :
    StoreM β η String := do
  let p := (← get).config.objects.semanticCache.keyPrefix
  let objId := entry.objMeta.objectId
  let entry ← raising (entry.stamp promptEmbedding)
  putPair (metaKey p objId) (Serializer.serializeSemanticEntry entry)
    (dataKey p objId "data.npy") (Serializer.serializeEmbedding promptEmbedding)
  onMetadata (MetadataStore.onSemanticEntryAdded objId promptEmbedding)
  return objId

def getSemanticEntry (objectId : String) (now : Rat) :
    StoreM β η (Option (SemanticCacheEntry × NdArray)) := do
  let p := (← get).config.objects.semanticCache.keyPrefix
  getPairObject p objectId "data.npy" Serializer.deserializeSemanticEntry
    Serializer.deserializeEmbedding fun entry => { entry with objMeta := entry.objMeta.touch now }

def deleteSemanticEntry (objectId : String) : StoreM β η Bool := do
  let p := (← get).config.objects.semanticCache.keyPrefix
  deletePairObject p objectId "data.npy" .semanticCache

def listSemanticEntries : StoreM β η (List String) := do
  listIds (← get).config.objects.semanticCache.keyPrefix

/-! ## Agentic workflow metadata -/

def putAgentWorkflow (workflow : AgentWorkflow) : StoreM β η String := do
  let p := (← get).config.objects.agent.workflowsPrefix
  putMetaObject p workflow.workflowId (Serializer.serializeAgentWorkflow workflow.stamp)
    .agentWorkflow

def getAgentWorkflow (workflowId : String) (now : Rat) : StoreM β η (Option AgentWorkflow) := do
  let p := (← get).config.objects.agent.workflowsPrefix
  getMetaObject p workflowId Serializer.deserializeAgentWorkflow fun workflow =>
    { workflow with objMeta := workflow.objMeta.touch now }

def deleteAgentWorkflow (workflowId : String) : StoreM β η Bool := do
  let p := (← get).config.objects.agent.workflowsPrefix
  deleteMetaObject p workflowId .agentWorkflow

def listAgentWorkflows : StoreM β η (List String) := do
  listIds (← get).config.objects.agent.workflowsPrefix

def putAgentStep (step : AgentStep) : StoreM β η String := do
  let p := (← get).config.objects.agent.stepsPrefix
  putMetaObject p step.stepId (Serializer.serializeAgentStep step.stamp) .agentStep

def getAgentStep (stepId : String) (now : Rat) : StoreM β η (Option AgentStep) := do
  let p := (← get).config.objects.agent.stepsPrefix
  getMetaObject p stepId Serializer.deserializeAgentStep fun step =>
    { step with objMeta := step.objMeta.touch now }

def deleteAgentStep (stepId : String) : StoreM β η Bool := do
  let p := (← get).config.objects.agent.stepsPrefix
  deleteMetaObject p stepId .agentStep

def listAgentSteps : StoreM β η (List String) := do
  listIds (← get).config.objects.agent.stepsPrefix

def putToolArtifact (artifact : ToolCallArtifact) : StoreM β η String := do
  let p := (← get).config.objects.agent.toolsPrefix
  putMetaObject p artifact.toolCallId (Serializer.serializeToolArtifact artifact.stamp)
    .toolCallArtifact

def getToolArtifact (toolCallId : String) (now : Rat) : StoreM β η (Option ToolCallArtifact) := do
  let p := (← get).config.objects.agent.toolsPrefix
  getMetaObject p toolCallId Serializer.deserializeToolArtifact fun artifact =>
    { artifact with objMeta := artifact.objMeta.touch now }

def deleteToolArtifact (toolCallId : String) : StoreM β η Bool := do
  let p := (← get).config.objects.agent.toolsPrefix
  deleteMetaObject p toolCallId .toolCallArtifact

def listToolArtifacts : StoreM β η (List String) := do
  listIds (← get).config.objects.agent.toolsPrefix

def putPlanCacheEntry (entry : PlanCacheEntry) (taskEmbedding : NdArray) :
    StoreM β η String := do
  let p := (← get).config.objects.agent.plansPrefix
  let entry ← raising (entry.stamp taskEmbedding)
  putPair (metaKey p entry.planId) (Serializer.serializePlanCacheEntry entry)
    (dataKey p entry.planId "data.npy") (Serializer.serializePlanEmbedding taskEmbedding)
  modify fun self =>
    { self with metadata := self.metadata.onObjectAdded .planCache entry.planId none }
  return entry.planId

def getPlanCacheEntry (planId : String) (now : Rat) :
    StoreM β η (Option (PlanCacheEntry × NdArray)) := do
  let p := (← get).config.objects.agent.plansPrefix
  getPairObject p planId "data.npy" Serializer.deserializePlanCacheEntry
    Serializer.deserializePlanEmbedding fun entry =>
      { entry with objMeta := entry.objMeta.touch now }

def deletePlanCacheEntry (planId : String) : StoreM β η Bool := do
  let p := (← get).config.objects.agent.plansPrefix
  deletePairObject p planId "data.npy" .planCache

def listPlanCacheEntries : StoreM β η (List String) := do
  listIds (← get).config.objects.agent.plansPrefix

def putWorkflowTrace (trace : WorkflowTrace) : StoreM β η String := do
  let p := (← get).config.objects.agent.tracesPrefix
  putMetaObject p trace.workflowId (Serializer.serializeWorkflowTrace trace.stamp) .workflowTrace

def getWorkflowTrace (workflowId : String) (now : Rat) : StoreM β η (Option WorkflowTrace) := do
  let p := (← get).config.objects.agent.tracesPrefix
  getMetaObject p workflowId Serializer.deserializeWorkflowTrace fun trace =>
    { trace with objMeta := trace.objMeta.touch now }

def deleteWorkflowTrace (workflowId : String) : StoreM β η Bool := do
  let p := (← get).config.objects.agent.tracesPrefix
  deleteMetaObject p workflowId .workflowTrace

def listWorkflowTraces : StoreM β η (List String) := do
  listIds (← get).config.objects.agent.tracesPrefix

end UnifiedObjectStore

end IntelliL3
