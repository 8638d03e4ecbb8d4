import IntelliL3.Api.Converters
import IntelliL3.Core.TypedStore

/-! # The gRPC service and its client

`api/grpc_server.py` and `api/grpc_client.py` without the prefetch call. A stub
hands its message to the transport, and takes the answer from it; an exception of
the servicer reaches the client as `grpc.RpcError`, and so does a message that is
not transmitted.
-/

namespace IntelliL3

open Lib Converters

/-- What a call of the client raises: an exception of its own, or `grpc.RpcError` for one of
    the servicer or for a message that was not transmitted. -/
inductive CallError where
  | raised (e : PyError)
  | rpcError (e : PyError)
  | untransmitted (status : String)
  deriving Repr, DecidableEq

/-- The client together with the store behind the servicer. -/
abbrev RemoteM (β η : Type) := EStateM CallError (UnifiedObjectStore β η)

section

variable {β η α : Type}

/-- What the client is told of the servicer. -/
def served (servicer : StoreM β η α) : RemoteM β η α := fun store =>
  match servicer store with
  | .ok a store => .ok a store
  | .error e store => .error (.rpcError e) store

/-- A call of the stub. -/
def rpc (Bytes : Type) [Inhabited Bytes] [Grpc Bytes] (method : Rpc)
    (servicer : method.Request Bytes → StoreM β η (method.Response Bytes))
    (request : method.Request Bytes) : RemoteM β η (method.Response Bytes) := do
  let request ← raising ((Grpc.transmit method .request request).mapError .untransmitted)
  let response ← served (servicer request)
  raising ((Grpc.transmit method .response response).mapError .untransmitted)

/-- What the client computes itself. -/
def atClient (result : Except PyError α) : RemoteM β η α := raising (result.mapError .raised)

@[simp] theorem atClient_ok (a : α) (store : UnifiedObjectStore β η) :
    atClient (.ok a) store = .ok a store := rfl

theorem atClient_eq_ok {result : Except PyError α} {store store' : UnifiedObjectStore β η} {a : α} :
    atClient result store = .ok a store' ↔ result = .ok a ∧ store' = store := by
  rw [atClient, raising_eq_ok]
  cases result <;> simp [Except.mapError]

theorem served_eq_ok {servicer : StoreM β η α} {store store' : UnifiedObjectStore β η} {a : α} :
    served servicer store = .ok a store' ↔ servicer store = .ok a store' := by
  rw [served]
  cases servicer store <;> simp

variable {Bytes : Type} [Inhabited Bytes] [Grpc Bytes] [LawfulGrpc Bytes]

theorem transmit_eq_ok {method : Rpc} {leg : Leg} {message received : method.Message Bytes leg}
    {store store' : UnifiedObjectStore β η} :
    raising ((Grpc.transmit method leg message).mapError .untransmitted) store =
        (.ok received store' : EStateM.Result CallError _ _) ↔
      Receivable Bytes method leg message ∧ received = message ∧ store' = store := by
  rw [raising_eq_ok]
  by_cases receivable : Receivable Bytes method leg message
  · rw [LawfulGrpc.transmit_receivable method leg message receivable]
    simp [Except.mapError, receivable, eq_comm]
  · obtain ⟨status, refused⟩ := LawfulGrpc.transmit_too_long method leg message receivable
    rw [refused]
    simp [Except.mapError, receivable]

/-- A call returns when both messages are received and the servicer returns. -/
theorem rpc_eq_ok {method : Rpc}
    {servicer : method.Request Bytes → StoreM β η (method.Response Bytes)}
    {request : method.Request Bytes} {response : method.Response Bytes}
    {store store' : UnifiedObjectStore β η} :
    rpc Bytes method servicer request store = .ok response store' ↔
      Receivable Bytes method .request request ∧ servicer request store = .ok response store' ∧
        Receivable Bytes method .response response := by
  constructor
  · intro returned
    obtain ⟨_, _, sent, later⟩ := bind_run_ok.mp returned
    obtain ⟨out, rfl, rfl⟩ := transmit_eq_ok.mp sent
    obtain ⟨_, _, answered, last⟩ := bind_run_ok.mp later
    obtain ⟨back, rfl, rfl⟩ := transmit_eq_ok.mp last
    exact ⟨out, served_eq_ok.mp answered, back⟩
  · rintro ⟨out, answered, back⟩
    refine bind_run_ok.mpr ⟨request, store, transmit_eq_ok.mpr ⟨out, rfl, rfl⟩, ?_⟩
    exact bind_run_ok.mpr ⟨response, store', served_eq_ok.mpr answered,
      transmit_eq_ok.mpr ⟨back, rfl, rfl⟩⟩

end

/-! ## The servicer -/

namespace L3ServiceImpl

variable {β η Bytes : Type} [StorageBackend (EStateM PyError β) Bytes] [PyRuntime]
  [Serializer Bytes] [Hnswlib η]

section

variable [Inhabited Bytes]

def kvResponse (block : KVCacheBlock) (keyStates valueStates : NdArray) (found : Bool) :
    Except PyError (GetKVBlockResponse Bytes) := do
  return {
    block := ← kvBlockToProto block
    keyStates := ndarrayToBytes keyStates
    valueStates := ndarrayToBytes valueStates
    found }

def ragResponse (obj : RAGObject) (embedding : NdArray) (found : Bool) :
    Except PyError (GetRAGObjectResponse Bytes) := do
  return { object := ← ragObjectToProto obj, embedding := ndarrayToBytes embedding, found }

def semanticResponse (entry : SemanticCacheEntry) (promptEmbedding : NdArray) (found : Bool) :
    Except PyError (GetSemanticEntryResponse Bytes) := do
  return {
    entry := ← semanticEntryToProto entry
    promptEmbedding := ndarrayToBytes promptEmbedding
    found }

end

def putKVBlock (request : PutKVBlockRequest Bytes) : StoreM β η PutKVBlockResponse := do
  let block ← raising (protoToKvBlock request.block)
  let keyStates ← raising (bytesToNdarray request.keyStates)
  let valueStates ← raising (bytesToNdarray request.valueStates)
  let objectId ← UnifiedObjectStore.putKvBlock block keyStates valueStates
  return { objectId }

def getKVBlock [Inhabited Bytes] (request : GetKVBlockRequest) (now : Rat) :
    StoreM β η (GetKVBlockResponse Bytes) := do
  match ← UnifiedObjectStore.getKvBlock request.objectId now with
  | none => return { found := false }
  | some (block, keyStates, valueStates) => raising (kvResponse block keyStates valueStates true)

def deleteKVBlock (request : DeleteKVBlockRequest) : StoreM β η DeleteKVBlockResponse := do
  let deleted ← UnifiedObjectStore.deleteKvBlock request.objectId
  return { deleted }

omit [PyRuntime] [Serializer Bytes] [Hnswlib η] in
def listKVBlocks (_request : ListKVBlocksRequest) : StoreM β η ListKVBlocksResponse := do
  return { objectIds := ← UnifiedObjectStore.listKvBlocks }

def putRAGObject (request : PutRAGObjectRequest Bytes) : StoreM β η PutRAGObjectResponse := do
  let obj ← raising (protoToRagObject request.object)
  let embedding ← raising (bytesToNdarray request.embedding)
  let objectId ← UnifiedObjectStore.putRagObject obj embedding
  return { objectId }

def getRAGObject [Inhabited Bytes] (request : GetRAGObjectRequest) (now : Rat) :
    StoreM β η (GetRAGObjectResponse Bytes) := do
  match ← UnifiedObjectStore.getRagObject request.objectId now with
  | none => return { found := false }
  | some (obj, embedding) => raising (ragResponse obj embedding true)

def putSemanticEntry (request : PutSemanticEntryRequest Bytes) :
    StoreM β η PutSemanticEntryResponse := do
  let entry ← raising (protoToSemanticEntry request.entry)
  let promptEmbedding ← raising (bytesToNdarray request.promptEmbedding)
  let objectId ← UnifiedObjectStore.putSemanticEntry entry promptEmbedding
  return { objectId }

def getSemanticEntry [Inhabited Bytes] (request : GetSemanticEntryRequest) (now : Rat) :
    StoreM β η (GetSemanticEntryResponse Bytes) := do
  match ← UnifiedObjectStore.getSemanticEntry request.objectId now with
  | none => return { found := false }
  | some (entry, promptEmbedding) => raising (semanticResponse entry promptEmbedding true)

/-- `request.top_k or 5` -/
def searchSimilarPrompts (request : SearchSimilarPromptsRequest Bytes) :
    StoreM β η SearchSimilarPromptsResponse := do
  let queryEmbedding ← raising (bytesToNdarray request.queryEmbedding)
  let k := if request.topK = 0 then 5 else request.topK.toInt
  let found ← raising
    ((← get).metadata.searchSimilarPrompts queryEmbedding k request.threshold)
  return { results := found.map fun (objectId, similarity) => { objectId, similarity } }

end L3ServiceImpl

/-! ## The client -/

namespace L3Client

variable {β η Bytes : Type} [StorageBackend (EStateM PyError β) Bytes] [PyRuntime]
  [Serializer Bytes] [Hnswlib η] [Inhabited Bytes] [Grpc Bytes]

def putKvBlock (block : KVCacheBlock) (keyStates valueStates : NdArray) :
    RemoteM β η String := do
  let block ← atClient (kvBlockToProto block)
  let response ← rpc Bytes .putKVBlock L3ServiceImpl.putKVBlock {
    block
    keyStates := (ndarrayToBytes keyStates : Bytes)
    valueStates := ndarrayToBytes valueStates }
  return response.objectId

def getKvBlock (objectId : String) (now : Rat) :
    RemoteM β η (Option (KVCacheBlock × NdArray × NdArray)) := do
  let response ← rpc Bytes .getKVBlock (L3ServiceImpl.getKVBlock · now) { objectId }
  if response.found then
    let block ← atClient (protoToKvBlock response.block)
    let keyStates ← atClient (bytesToNdarray response.keyStates)
    let valueStates ← atClient (bytesToNdarray response.valueStates)
    return some (block, keyStates, valueStates)
  else return none

def deleteKvBlock (objectId : String) : RemoteM β η Bool := do
  let response ← rpc Bytes .deleteKVBlock L3ServiceImpl.deleteKVBlock { objectId }
  return response.deleted

omit [PyRuntime] [Serializer Bytes] [Hnswlib η] in
def listKvBlocks : RemoteM β η (List String) := do
  let response ← rpc Bytes .listKVBlocks L3ServiceImpl.listKVBlocks {}
  return response.objectIds

def putRagObject (obj : RAGObject) (embedding : NdArray) : RemoteM β η String := do
  let object ← atClient (ragObjectToProto obj)
  let response ← rpc Bytes .putRAGObject L3ServiceImpl.putRAGObject {
    object
    embedding := (ndarrayToBytes embedding : Bytes) }
  return response.objectId

def getRagObject (objectId : String) (now : Rat) :
    RemoteM β η (Option (RAGObject × NdArray)) := do
  let response ← rpc Bytes .getRAGObject (L3ServiceImpl.getRAGObject · now) { objectId }
  if response.found then
    let obj ← atClient (protoToRagObject response.object)
    let embedding ← atClient (bytesToNdarray response.embedding)
    return some (obj, embedding)
  else return none

def putSemanticEntry (entry : SemanticCacheEntry) (promptEmbedding : NdArray) :
    RemoteM β η String := do
  let entry ← atClient (semanticEntryToProto entry)
  let response ← rpc Bytes .putSemanticEntry L3ServiceImpl.putSemanticEntry {
    entry
    promptEmbedding := (ndarrayToBytes promptEmbedding : Bytes) }
  return response.objectId

def getSemanticEntry (objectId : String) (now : Rat) :
    RemoteM β η (Option (SemanticCacheEntry × NdArray)) := do
  let response ← rpc Bytes .getSemanticEntry (L3ServiceImpl.getSemanticEntry · now) { objectId }
  if response.found then
    let entry ← atClient (protoToSemanticEntry response.entry)
    let promptEmbedding ← atClient (bytesToNdarray response.promptEmbedding)
    return some (entry, promptEmbedding)
  else return none

def searchSimilarPrompts (queryEmbedding : NdArray) (topK : Int := 5)
    (threshold : Rat := 7 / 10) : RemoteM β η (List (String × Rat)) := do
  let topK ← atClient (wireInt32 topK)
  let response ← rpc Bytes .searchSimilarPrompts L3ServiceImpl.searchSimilarPrompts {
    queryEmbedding := (ndarrayToBytes queryEmbedding : Bytes)
    topK
    threshold }
  return response.results.map fun found => (found.objectId, found.similarity)

end L3Client

end IntelliL3
