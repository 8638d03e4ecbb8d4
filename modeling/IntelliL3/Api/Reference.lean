import IntelliL3.Api.Messages
import IntelliL3.Core.Reference

/-! # Reference transport

The sizes of the wire format of `proto3`, and a transport that hands over what is not too long.
A field that reads as its default takes no place.
-/

namespace IntelliL3.Reference

open Lib

instance : Inhabited Encoded := ⟨.embedding (array [])⟩

def total (sizes : List Nat) : Nat := sizes.foldr Nat.add 0

/-- Groups of seven bits. -/
def varintSize (n : Nat) : Nat := n.log2 / 7 + 1

/-- A tag, a length, and as many bytes. -/
def delimitedSize (length : Nat) : Nat := 1 + varintSize length + length

def textSize (text : String) : Nat := if text = "" then 0 else delimitedSize text.utf8ByteSize

def textsSize (texts : List String) : Nat :=
  total (texts.map fun text => delimitedSize text.utf8ByteSize)

def doubleSize (x : Rat) : Nat := if x = 0 then 0 else 9

def flagSize (flag : Bool) : Nat := if flag then 2 else 0

def uint64Size (n : UInt64) : Nat := if n = 0 then 0 else 1 + varintSize n.toNat

/-- The bits of a negative number are extended to sixty-four. -/
def int32Bits (n : Int32) : Nat := (n.toInt % 2 ^ 64).toNat

def int32Size (n : Int32) : Nat := if n = 0 then 0 else 1 + varintSize (int32Bits n)

def packedSize (numbers : List Int32) : Nat :=
  if numbers.isEmpty then 0
  else delimitedSize (total (numbers.map fun n => varintSize (int32Bits n)))

/-- An array file has a header of 128 bytes. -/
def bytesSize : Encoded → Nat
  | .embedding array => delimitedSize (128 + array.nbytes)
  | _ => 0

def metaSize (proto : ObjectMetaProto) : Nat := delimitedSize <|
  textSize proto.objectId + textSize proto.objectType + doubleSize proto.createdAt +
    doubleSize proto.lastAccessed + uint64Size proto.accessCount + uint64Size proto.sizeBytes +
    doubleSize proto.reuseScore + uint64Size proto.refCount +
    total (proto.tags.entries.map fun (key, value) =>
      delimitedSize (delimitedSize key.utf8ByteSize + delimitedSize value.utf8ByteSize))

def kvBlockSize (proto : KVCacheBlockProto) : Nat := delimitedSize <|
  metaSize proto.objMeta + textSize proto.modelName + packedSize proto.tokenIds +
    int32Size proto.blockIndex + textSize proto.tokenHash + textSize proto.parentBlockId +
    textsSize proto.sharedBySessions

def ragObjectSize (proto : RAGObjectProto) : Nat := delimitedSize <|
  metaSize proto.objMeta + textSize proto.documentId + int32Size proto.chunkIndex +
    textSize proto.chunkText + int32Size proto.embeddingDim + textSize proto.source +
    int32Size proto.pageNumber + flagSize proto.hasPageNumber

def semanticEntrySize (proto : SemanticCacheEntryProto) : Nat := delimitedSize <|
  metaSize proto.objMeta + textSize proto.promptText + textSize proto.responseText +
    textSize proto.modelName + int32Size proto.embeddingDim + uint64Size proto.reuseCount +
    doubleSize proto.similarityThreshold

def kvResponseSize (response : GetKVBlockResponse Encoded) : Nat :=
  kvBlockSize response.block + bytesSize response.keyStates + bytesSize response.valueStates +
    flagSize response.found

def ragResponseSize (response : GetRAGObjectResponse Encoded) : Nat :=
  ragObjectSize response.object + bytesSize response.embedding + flagSize response.found

def semanticResponseSize (response : GetSemanticEntryResponse Encoded) : Nat :=
  semanticEntrySize response.entry + bytesSize response.promptEmbedding + flagSize response.found

def prefetchObjectSize (item : PrefetchObjectProto Encoded) : Nat := delimitedSize <|
  textSize item.objectId + textSize item.prefetchType +
    match item.payload with
    | none => 0
    | some (.kvCache response) => delimitedSize (kvResponseSize response)
    | some (.rag response) => delimitedSize (ragResponseSize response)
    | some (.semantic response) => delimitedSize (semanticResponseSize response)

def messageSize : (method : Rpc) → (leg : Leg) → method.Message Encoded leg → Nat
  | .putKVBlock, .request, request =>
      kvBlockSize request.block + bytesSize request.keyStates + bytesSize request.valueStates
  | .putRAGObject, .request, request => ragObjectSize request.object + bytesSize request.embedding
  | .putSemanticEntry, .request, request =>
      semanticEntrySize request.entry + bytesSize request.promptEmbedding
  | .getKVBlock, .request, request => textSize request.objectId
  | .deleteKVBlock, .request, request => textSize request.objectId
  | .getRAGObject, .request, request => textSize request.objectId
  | .getSemanticEntry, .request, request => textSize request.objectId
  | .listKVBlocks, .request, _ => 0
  | .searchSimilarPrompts, .request, request =>
      bytesSize request.queryEmbedding + int32Size request.topK + doubleSize request.threshold
  | .prefetchBatch, .request, request => total <| request.decisions.map fun decision =>
      delimitedSize (textSize decision.objectId + doubleSize decision.priority +
        textSize decision.prefetchType)
  | .putKVBlock, .response, response => textSize response.objectId
  | .putRAGObject, .response, response => textSize response.objectId
  | .putSemanticEntry, .response, response => textSize response.objectId
  | .getKVBlock, .response, response => kvResponseSize response
  | .deleteKVBlock, .response, response => flagSize response.deleted
  | .getRAGObject, .response, response => ragResponseSize response
  | .getSemanticEntry, .response, response => semanticResponseSize response
  | .listKVBlocks, .response, response => textsSize response.objectIds
  | .searchSimilarPrompts, .response, response => total <| response.results.map fun found =>
      delimitedSize (textSize found.objectId + doubleSize found.similarity)
  | .prefetchBatch, .response, response => total (response.objects.map prefetchObjectSize)

scoped instance : Grpc Encoded where
  byteSize := messageSize
  transmit method leg message :=
    if messageSize method leg message ≤ maxReceiveMessageLength then .ok message
    else .error "RESOURCE_EXHAUSTED"

scoped instance : LawfulGrpc Encoded where
  transmit_receivable _ _ _ receivable := if_pos receivable
  transmit_too_long _ _ _ long := ⟨_, if_neg long⟩

end IntelliL3.Reference
