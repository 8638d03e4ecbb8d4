import IntelliL3.Api.Messages
import IntelliL3.Core.Prefetch

/-! # Objects as messages

`api/converters.py`. The metadata message has no field for what an object says
about workflows, agents, tools, plans, scopes and consistency, and an empty
parent id is how it says that there is none: these come back as None.
-/

namespace IntelliL3

open Lib

/-- `object_type.value` -/
def ObjectType.value : ObjectType → String
  | .kvCache => "kv_cache"
  | .rag => "rag"
  | .semanticCache => "semantic_cache"
  | .agentWorkflow => "agent_workflow"
  | .agentStep => "agent_step"
  | .toolCallArtifact => "tool_call_artifact"
  | .planCache => "plan_cache"
  | .workflowTrace => "workflow_trace"

/-- `ObjectType(value)` -/
def ObjectType.ofValue : String → Except PyError ObjectType
  | "kv_cache" => .ok .kvCache
  | "rag" => .ok .rag
  | "semantic_cache" => .ok .semanticCache
  | "agent_workflow" => .ok .agentWorkflow
  | "agent_step" => .ok .agentStep
  | "tool_call_artifact" => .ok .toolCallArtifact
  | "plan_cache" => .ok .planCache
  | "workflow_trace" => .ok .workflowTrace
  | value => .error (.valueError s!"'{value}' is not a valid ObjectType")

@[simp] theorem ObjectType.ofValue_value (X : ObjectType) : ofValue X.value = .ok X := by
  cases X <;> rfl

namespace Converters

section

variable {Bytes : Type} [Serializer Bytes]

/-- `np.save`, as embeddings are stored too. -/
def ndarrayToBytes (array : NdArray) : Bytes := Serializer.serializeEmbedding array

def bytesToNdarray (data : Bytes) : Except PyError NdArray := Serializer.deserializeEmbedding data

@[simp] theorem bytesToNdarray_ndarrayToBytes [LawfulSerializer Bytes] (array : NdArray) :
    bytesToNdarray (ndarrayToBytes array : Bytes) = .ok array :=
  LawfulSerializer.embedding array

end

def metaToProto (objMeta : ObjectMeta) : Except PyError ObjectMetaProto := do
  return {
    objectId := objMeta.objectId
    objectType := objMeta.objectType.value
    createdAt := objMeta.createdAt
    lastAccessed := objMeta.lastAccessed
    accessCount := ← wireUInt64 objMeta.accessCount
    sizeBytes := ← wireUInt64 objMeta.sizeBytes
    reuseScore := objMeta.reuseScore
    refCount := ← wireUInt64 objMeta.refCount
    tags := objMeta.tags }

def protoToMeta (proto : ObjectMetaProto) : Except PyError ObjectMeta := do
  return {
    objectId := proto.objectId
    objectType := ← ObjectType.ofValue proto.objectType
    createdAt := proto.createdAt
    lastAccessed := proto.lastAccessed
    accessCount := proto.accessCount.toNat
    sizeBytes := proto.sizeBytes.toNat
    reuseScore := proto.reuseScore
    refCount := proto.refCount.toNat
    tags := proto.tags }

def kvBlockToProto (block : KVCacheBlock) : Except PyError KVCacheBlockProto := do
  return {
    objMeta := ← metaToProto block.objMeta
    modelName := block.modelName
    tokenIds := ← block.tokenIds.mapM wireInt32
    blockIndex := ← wireInt32 block.blockIndex
    tokenHash := block.tokenHash
    parentBlockId := block.parentBlockId.getD ""
    sharedBySessions := block.sharedBySessions }

def protoToKvBlock (proto : KVCacheBlockProto) : Except PyError KVCacheBlock := do
  let parentBlockId := if proto.parentBlockId = "" then none else some proto.parentBlockId
  return {
    objMeta := ← protoToMeta proto.objMeta
    modelName := proto.modelName
    tokenIds := proto.tokenIds.map Int32.toInt
    blockIndex := proto.blockIndex.toInt
    tokenHash := proto.tokenHash
    parentBlockId
    sharedBySessions := proto.sharedBySessions }

def ragObjectToProto (obj : RAGObject) : Except PyError RAGObjectProto := do
  return {
    objMeta := ← metaToProto obj.objMeta
    documentId := obj.documentId
    chunkIndex := ← wireInt32 obj.chunkIndex
    chunkText := obj.chunkText
    embeddingDim := ← wireInt32 obj.embeddingDim
    source := obj.source
    pageNumber := ← wireInt32 (obj.pageNumber.getD 0)
    hasPageNumber := obj.pageNumber.isSome }

def protoToRagObject (proto : RAGObjectProto) : Except PyError RAGObject := do
  return {
    objMeta := ← protoToMeta proto.objMeta
    documentId := proto.documentId
    chunkIndex := proto.chunkIndex.toInt
    chunkText := proto.chunkText
    embeddingDim := proto.embeddingDim.toInt
    source := proto.source
    pageNumber := if proto.hasPageNumber then some proto.pageNumber.toInt else none }

def semanticEntryToProto (entry : SemanticCacheEntry) :
    Except PyError SemanticCacheEntryProto := do
  return {
    objMeta := ← metaToProto entry.objMeta
    promptText := entry.promptText
    responseText := entry.responseText
    modelName := entry.modelName
    embeddingDim := ← wireInt32 entry.embeddingDim
    reuseCount := ← wireUInt64 entry.reuseCount
    similarityThreshold := entry.similarityThreshold }

def protoToSemanticEntry (proto : SemanticCacheEntryProto) :
    Except PyError SemanticCacheEntry := do
  return {
    objMeta := ← protoToMeta proto.objMeta
    promptText := proto.promptText
    responseText := proto.responseText
    modelName := proto.modelName
    embeddingDim := proto.embeddingDim.toInt
    reuseCount := proto.reuseCount.toNat
    similarityThreshold := proto.similarityThreshold }

def prefetchDecisionToProto (decision : PrefetchDecision) : PrefetchDecisionProto where
  objectId := decision.objectId
  priority := decision.priority
  prefetchType := decision.prefetchType

def protoToPrefetchDecision (proto : PrefetchDecisionProto) : PrefetchDecision where
  objectId := proto.objectId
  priority := proto.priority
  prefetchType := proto.prefetchType

@[simp] theorem protoToPrefetchDecision_prefetchDecisionToProto (decision : PrefetchDecision) :
    protoToPrefetchDecision (prefetchDecisionToProto decision) = decision := rfl

end Converters

/-! ## What a message carries -/

namespace ObjectMeta

/-- The counters fit `uint64`. -/
structure Fits (objMeta : ObjectMeta) : Prop where
  accessCount : FitsUInt64 objMeta.accessCount
  sizeBytes : FitsUInt64 objMeta.sizeBytes
  refCount : FitsUInt64 objMeta.refCount

/-- What comes back: the fields the message lacks are None. -/
def carried (objMeta : ObjectMeta) : ObjectMeta where
  objectId := objMeta.objectId
  objectType := objMeta.objectType
  createdAt := objMeta.createdAt
  lastAccessed := objMeta.lastAccessed
  accessCount := objMeta.accessCount
  sizeBytes := objMeta.sizeBytes
  reuseScore := objMeta.reuseScore
  refCount := objMeta.refCount
  tags := objMeta.tags

/-- Nothing is said that the message has no field for. -/
def Bare (objMeta : ObjectMeta) : Prop :=
  objMeta.workflowId = none ∧ objMeta.agentId = none ∧ objMeta.stepId = none ∧
    objMeta.turnId = none ∧ objMeta.toolName = none ∧ objMeta.toolArgsHash = none ∧
    objMeta.planId = none ∧ objMeta.expectedNextUseStep = none ∧
    objMeta.predictedToolLatencyMs = none ∧ objMeta.validUntil = none ∧ objMeta.scope = none ∧
    objMeta.consistencyClass = none

/-- What a put and a get write into the metadata: a size, and one more access. -/
theorem fits_touched_iff {objMeta : ObjectMeta} (fits : objMeta.Fits) {size : Int}
    (nonneg : 0 ≤ size) (now : Rat) :
    ({ objMeta with sizeBytes := size }.touch now).Fits ↔
      objMeta.accessCount + 1 < 2 ^ 64 ∧ size < 2 ^ 64 := by
  obtain ⟨⟨counted, _⟩, _, refCount⟩ := fits
  constructor
  · rintro ⟨⟨_, count⟩, ⟨_, small⟩, _⟩
    exact ⟨count, small⟩
  · rintro ⟨count, small⟩
    refine ⟨⟨?_, count⟩, ⟨nonneg, small⟩, refCount⟩
    change 0 ≤ objMeta.accessCount + 1
    omega

theorem carried_eq_self_iff (objMeta : ObjectMeta) : objMeta.carried = objMeta ↔ objMeta.Bare := by
  constructor
  · intro same
    rw [← same]
    exact ⟨rfl, rfl, rfl, rfl, rfl, rfl, rfl, rfl, rfl, rfl, rfl, rfl⟩
  · rintro ⟨workflowId, agentId, stepId, turnId, toolName, toolArgsHash, planId, nextUse, latency,
      validUntil, scope, consistency⟩
    cases objMeta
    cases workflowId; cases agentId; cases stepId; cases turnId; cases toolName
    cases toolArgsHash; cases planId; cases nextUse; cases latency; cases validUntil
    cases scope; cases consistency
    rfl

end ObjectMeta

namespace KVCacheBlock

structure Fits (block : KVCacheBlock) : Prop where
  objMeta : block.objMeta.Fits
  tokenIds : ∀ token ∈ block.tokenIds, FitsInt32 token
  blockIndex : FitsInt32 block.blockIndex

def carried (block : KVCacheBlock) : KVCacheBlock :=
  { block with
    objMeta := block.objMeta.carried
    parentBlockId := if block.parentBlockId = some "" then none else block.parentBlockId }

/-- Nothing is lost on the wire. -/
def Lossless (block : KVCacheBlock) : Prop :=
  block.objMeta.Bare ∧ block.parentBlockId ≠ some ""

theorem carried_eq_self_iff (block : KVCacheBlock) : block.carried = block ↔ block.Lossless := by
  constructor
  · intro same
    refine ⟨block.objMeta.carried_eq_self_iff.mp (congrArg KVCacheBlock.objMeta same), ?_⟩
    intro unnamed
    have parent : (if block.parentBlockId = some "" then none else block.parentBlockId) =
        block.parentBlockId := congrArg KVCacheBlock.parentBlockId same
    rw [if_pos unnamed, unnamed] at parent
    cases parent
  · rintro ⟨bare, named⟩
    rw [carried, block.objMeta.carried_eq_self_iff.mpr bare, if_neg named]

end KVCacheBlock

namespace RAGObject

structure Fits (obj : RAGObject) : Prop where
  objMeta : obj.objMeta.Fits
  chunkIndex : FitsInt32 obj.chunkIndex
  embeddingDim : FitsInt32 obj.embeddingDim
  pageNumber : ∀ page ∈ obj.pageNumber, FitsInt32 page

def carried (obj : RAGObject) : RAGObject := { obj with objMeta := obj.objMeta.carried }

theorem carried_eq_self_iff (obj : RAGObject) : obj.carried = obj ↔ obj.objMeta.Bare := by
  rw [← ObjectMeta.carried_eq_self_iff]
  exact ⟨fun same => congrArg RAGObject.objMeta same, fun same => by rw [carried, same]⟩

end RAGObject

namespace SemanticCacheEntry

structure Fits (entry : SemanticCacheEntry) : Prop where
  objMeta : entry.objMeta.Fits
  embeddingDim : FitsInt32 entry.embeddingDim
  reuseCount : FitsUInt64 entry.reuseCount

def carried (entry : SemanticCacheEntry) : SemanticCacheEntry :=
  { entry with objMeta := entry.objMeta.carried }

theorem carried_eq_self_iff (entry : SemanticCacheEntry) :
    entry.carried = entry ↔ entry.objMeta.Bare := by
  rw [← ObjectMeta.carried_eq_self_iff]
  exact ⟨fun same => congrArg SemanticCacheEntry.objMeta same, fun same => by rw [carried, same]⟩

end SemanticCacheEntry

/-! ## There and back -/

namespace Converters

private theorem tokens_carried {tokens : List Int} (fits : ∀ token ∈ tokens, FitsInt32 token) :
    ∃ fields, tokens.mapM wireInt32 = .ok fields ∧ fields.map Int32.toInt = tokens := by
  induction tokens with
  | nil => exact ⟨[], rfl, rfl⟩
  | cons token rest ih =>
      obtain ⟨fields, sent, read⟩ := ih fun other later => fits other (List.mem_cons_of_mem _ later)
      have here := fits token List.mem_cons_self
      refine ⟨Int32.ofInt token :: fields, ?_, ?_⟩
      · rw [List.mapM_cons, wireInt32_fits here, sent]
        rfl
      · rw [List.map_cons, here.read, read]

private theorem tokens_fit {tokens : List Int} {fields : List Int32}
    (sent : tokens.mapM wireInt32 = .ok fields) : ∀ token ∈ tokens, FitsInt32 token := by
  induction tokens generalizing fields with
  | nil => exact fun _ member => absurd member List.not_mem_nil
  | cons token rest ih =>
      rw [List.mapM_cons] at sent
      obtain ⟨field, first, sent⟩ := bind_eq_ok.mp sent
      obtain ⟨later, sent, -⟩ := bind_eq_ok.mp sent
      intro other member
      rcases List.mem_cons.mp member with rfl | member
      · exact fits_of_wireInt32 first
      · exact ih sent other member

theorem metaToProto_fits {objMeta : ObjectMeta} {proto : ObjectMetaProto}
    (sent : metaToProto objMeta = .ok proto) : objMeta.Fits := by
  obtain ⟨_, accessCount, sent⟩ := bind_eq_ok.mp sent
  obtain ⟨_, sizeBytes, sent⟩ := bind_eq_ok.mp sent
  obtain ⟨_, refCount, -⟩ := bind_eq_ok.mp sent
  exact ⟨fits_of_wireUInt64 accessCount, fits_of_wireUInt64 sizeBytes, fits_of_wireUInt64 refCount⟩

theorem protoToMeta_metaToProto {objMeta : ObjectMeta} (fits : objMeta.Fits) :
    ∃ proto, metaToProto objMeta = .ok proto ∧ protoToMeta proto = .ok objMeta.carried := by
  obtain ⟨accessCount, sizeBytes, refCount⟩ := fits
  rw [metaToProto, wireUInt64_fits accessCount, wireUInt64_fits sizeBytes,
    wireUInt64_fits refCount]
  refine ⟨_, rfl, ?_⟩
  simp only [protoToMeta, ObjectType.ofValue_value, accessCount.read, sizeBytes.read,
    refCount.read]
  rfl

theorem kvBlockToProto_fits {block : KVCacheBlock} {proto : KVCacheBlockProto}
    (sent : kvBlockToProto block = .ok proto) : block.Fits := by
  obtain ⟨_, objMeta, sent⟩ := bind_eq_ok.mp sent
  obtain ⟨_, tokenIds, sent⟩ := bind_eq_ok.mp sent
  obtain ⟨_, blockIndex, -⟩ := bind_eq_ok.mp sent
  exact ⟨metaToProto_fits objMeta, tokens_fit tokenIds, fits_of_wireInt32 blockIndex⟩

theorem protoToKvBlock_kvBlockToProto {block : KVCacheBlock} (fits : block.Fits) :
    ∃ proto, kvBlockToProto block = .ok proto ∧ protoToKvBlock proto = .ok block.carried := by
  obtain ⟨objMeta, tokenIds, blockIndex⟩ := fits
  obtain ⟨metaProto, metaSent, metaRead⟩ := protoToMeta_metaToProto objMeta
  obtain ⟨fields, tokensSent, tokensRead⟩ := tokens_carried tokenIds
  rw [kvBlockToProto, metaSent, tokensSent, wireInt32_fits blockIndex]
  refine ⟨_, rfl, ?_⟩
  simp only [protoToKvBlock, metaRead, tokensRead, blockIndex.read]
  cases parent : block.parentBlockId with
  | none => simp [KVCacheBlock.carried, parent, bind, Except.bind, pure, Except.pure]
  | some id =>
      by_cases unnamed : id = ""
      · simp [KVCacheBlock.carried, parent, unnamed, bind, Except.bind, pure, Except.pure]
      · simp [KVCacheBlock.carried, parent, unnamed, bind, Except.bind, pure, Except.pure]

/-- What was sent is read. -/
theorem protoToKvBlock_sent {block : KVCacheBlock} {proto : KVCacheBlockProto}
    (sent : kvBlockToProto block = .ok proto) : protoToKvBlock proto = .ok block.carried := by
  obtain ⟨_, sent', read⟩ := protoToKvBlock_kvBlockToProto (kvBlockToProto_fits sent)
  cases sent.symm.trans sent'
  exact read

theorem ragObjectToProto_fits {obj : RAGObject} {proto : RAGObjectProto}
    (sent : ragObjectToProto obj = .ok proto) : obj.Fits := by
  obtain ⟨_, objMeta, sent⟩ := bind_eq_ok.mp sent
  obtain ⟨_, chunkIndex, sent⟩ := bind_eq_ok.mp sent
  obtain ⟨_, embeddingDim, sent⟩ := bind_eq_ok.mp sent
  obtain ⟨_, pageNumber, -⟩ := bind_eq_ok.mp sent
  refine ⟨metaToProto_fits objMeta, fits_of_wireInt32 chunkIndex, fits_of_wireInt32 embeddingDim,
    fun page given => ?_⟩
  rw [Option.mem_def.mp given] at pageNumber
  exact fits_of_wireInt32 pageNumber

theorem protoToRagObject_ragObjectToProto {obj : RAGObject} (fits : obj.Fits) :
    ∃ proto, ragObjectToProto obj = .ok proto ∧ protoToRagObject proto = .ok obj.carried := by
  obtain ⟨objMeta, chunkIndex, embeddingDim, pageNumber⟩ := fits
  obtain ⟨metaProto, metaSent, metaRead⟩ := protoToMeta_metaToProto objMeta
  have page : FitsInt32 (obj.pageNumber.getD 0) := by
    cases given : obj.pageNumber with
    | none => decide
    | some page => exact pageNumber page given
  rw [ragObjectToProto, metaSent, wireInt32_fits chunkIndex, wireInt32_fits embeddingDim,
    wireInt32_fits page]
  refine ⟨_, rfl, ?_⟩
  simp only [protoToRagObject, metaRead, chunkIndex.read, embeddingDim.read, page.read]
  cases given : obj.pageNumber <;>
    simp [RAGObject.carried, given, bind, Except.bind, pure, Except.pure]

theorem protoToRagObject_sent {obj : RAGObject} {proto : RAGObjectProto}
    (sent : ragObjectToProto obj = .ok proto) : protoToRagObject proto = .ok obj.carried := by
  obtain ⟨_, sent', read⟩ := protoToRagObject_ragObjectToProto (ragObjectToProto_fits sent)
  cases sent.symm.trans sent'
  exact read

theorem semanticEntryToProto_fits {entry : SemanticCacheEntry} {proto : SemanticCacheEntryProto}
    (sent : semanticEntryToProto entry = .ok proto) : entry.Fits := by
  obtain ⟨_, objMeta, sent⟩ := bind_eq_ok.mp sent
  obtain ⟨_, embeddingDim, sent⟩ := bind_eq_ok.mp sent
  obtain ⟨_, reuseCount, -⟩ := bind_eq_ok.mp sent
  exact ⟨metaToProto_fits objMeta, fits_of_wireInt32 embeddingDim, fits_of_wireUInt64 reuseCount⟩

theorem protoToSemanticEntry_semanticEntryToProto {entry : SemanticCacheEntry}
    (fits : entry.Fits) :
    ∃ proto, semanticEntryToProto entry = .ok proto ∧
      protoToSemanticEntry proto = .ok entry.carried := by
  obtain ⟨objMeta, embeddingDim, reuseCount⟩ := fits
  obtain ⟨metaProto, metaSent, metaRead⟩ := protoToMeta_metaToProto objMeta
  rw [semanticEntryToProto, metaSent, wireInt32_fits embeddingDim, wireUInt64_fits reuseCount]
  refine ⟨_, rfl, ?_⟩
  simp only [protoToSemanticEntry, metaRead, embeddingDim.read, reuseCount.read]
  rfl

theorem protoToSemanticEntry_sent {entry : SemanticCacheEntry} {proto : SemanticCacheEntryProto}
    (sent : semanticEntryToProto entry = .ok proto) :
    protoToSemanticEntry proto = .ok entry.carried := by
  obtain ⟨_, sent', read⟩ :=
    protoToSemanticEntry_semanticEntryToProto (semanticEntryToProto_fits sent)
  cases sent.symm.trans sent'
  exact read

end Converters

end IntelliL3
