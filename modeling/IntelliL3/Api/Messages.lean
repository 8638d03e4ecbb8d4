import IntelliL3.Core.Types

/-! # Messages of the gRPC service

`api/proto/objects.proto` and `api/proto/l3_service.proto`. A field that is not
set reads as its default; a number that does not fit its field is refused when it
is assigned. A map field has the rows of the dict it is built from: their order is
nothing `==` sees.
-/

namespace IntelliL3

open Lib

/-! ## Integer fields -/

def FitsInt32 (value : Int) : Prop := -2 ^ 31 ≤ value ∧ value < 2 ^ 31

def FitsUInt64 (value : Int) : Prop := 0 ≤ value ∧ value < 2 ^ 64

instance (value : Int) : Decidable (FitsInt32 value) :=
  inferInstanceAs (Decidable (-2 ^ 31 ≤ value ∧ value < 2 ^ 31))

instance (value : Int) : Decidable (FitsUInt64 value) :=
  inferInstanceAs (Decidable (0 ≤ value ∧ value < 2 ^ 64))

/-- Assigning to an `int32` field. -/
def wireInt32 (value : Int) : Except PyError Int32 :=
  if FitsInt32 value then .ok (Int32.ofInt value)
  else .error (.valueError s!"Value out of range: {value}")

/-- Assigning to a `uint64` field. -/
def wireUInt64 (value : Int) : Except PyError UInt64 :=
  if FitsUInt64 value then .ok (UInt64.ofNat value.toNat)
  else .error (.valueError s!"Value out of range: {value}")

theorem wireInt32_fits {value : Int} (fits : FitsInt32 value) :
    wireInt32 value = .ok (Int32.ofInt value) := if_pos fits

theorem wireUInt64_fits {value : Int} (fits : FitsUInt64 value) :
    wireUInt64 value = .ok (UInt64.ofNat value.toNat) := if_pos fits

theorem fits_of_wireInt32 {value : Int} {field : Int32} (done : wireInt32 value = .ok field) :
    FitsInt32 value := by
  by_contra misfit
  rw [wireInt32, if_neg misfit] at done
  cases done

theorem fits_of_wireUInt64 {value : Int} {field : UInt64} (done : wireUInt64 value = .ok field) :
    FitsUInt64 value := by
  by_contra misfit
  rw [wireUInt64, if_neg misfit] at done
  cases done

/-- What fits a field is read from it again. -/
theorem FitsInt32.read {value : Int} (fits : FitsInt32 value) :
    (Int32.ofInt value).toInt = value :=
  Int32.toInt_ofInt_of_le fits.1 fits.2

theorem FitsUInt64.read {value : Int} (fits : FitsUInt64 value) :
    ((UInt64.ofNat value.toNat).toNat : Int) = value := by
  obtain ⟨nonneg, small⟩ := fits
  have size : value.toNat < UInt64.size := by
    change value.toNat < 18446744073709551616
    omega
  rw [UInt64.toNat_ofNat_of_lt' size]
  exact Int.toNat_of_nonneg nonneg

/-! ## objects.proto -/

structure ObjectMetaProto where
  objectId : String := ""
  objectType : String := ""
  createdAt : Rat := 0
  lastAccessed : Rat := 0
  accessCount : UInt64 := 0
  sizeBytes : UInt64 := 0
  reuseScore : Rat := 0
  refCount : UInt64 := 0
  tags : Dict String String := .empty

structure KVCacheBlockProto where
  objMeta : ObjectMetaProto := {}
  modelName : String := ""
  tokenIds : List Int32 := []
  blockIndex : Int32 := 0
  tokenHash : String := ""
  parentBlockId : String := ""
  sharedBySessions : List String := []

structure RAGObjectProto where
  objMeta : ObjectMetaProto := {}
  documentId : String := ""
  chunkIndex : Int32 := 0
  chunkText : String := ""
  embeddingDim : Int32 := 0
  source : String := ""
  pageNumber : Int32 := 0
  hasPageNumber : Bool := false

structure SemanticCacheEntryProto where
  objMeta : ObjectMetaProto := {}
  promptText : String := ""
  responseText : String := ""
  modelName : String := ""
  embeddingDim : Int32 := 0
  reuseCount : UInt64 := 0
  similarityThreshold : Rat := 0

structure PrefetchDecisionProto where
  objectId : String := ""
  priority : Rat := 0
  prefetchType : String := ""

structure SimilarPromptProto where
  objectId : String := ""
  similarity : Rat := 0

/-! ## l3_service.proto -/

section

variable (Bytes : Type)

structure PutKVBlockRequest where
  block : KVCacheBlockProto
  keyStates : Bytes
  valueStates : Bytes

structure PutKVBlockResponse where
  objectId : String

structure GetKVBlockRequest where
  objectId : String

structure GetKVBlockResponse [Inhabited Bytes] where
  block : KVCacheBlockProto := {}
  keyStates : Bytes := default
  valueStates : Bytes := default
  found : Bool

structure DeleteKVBlockRequest where
  objectId : String

structure DeleteKVBlockResponse where
  deleted : Bool

structure ListKVBlocksRequest where

structure ListKVBlocksResponse where
  objectIds : List String

structure PutRAGObjectRequest where
  object : RAGObjectProto
  embedding : Bytes

structure PutRAGObjectResponse where
  objectId : String

structure GetRAGObjectRequest where
  objectId : String

structure GetRAGObjectResponse [Inhabited Bytes] where
  object : RAGObjectProto := {}
  embedding : Bytes := default
  found : Bool

structure PutSemanticEntryRequest where
  entry : SemanticCacheEntryProto
  promptEmbedding : Bytes

structure PutSemanticEntryResponse where
  objectId : String

structure GetSemanticEntryRequest where
  objectId : String

structure GetSemanticEntryResponse [Inhabited Bytes] where
  entry : SemanticCacheEntryProto := {}
  promptEmbedding : Bytes := default
  found : Bool

structure SearchSimilarPromptsRequest where
  queryEmbedding : Bytes
  topK : Int32
  threshold : Rat

structure SearchSimilarPromptsResponse where
  results : List SimilarPromptProto

structure PrefetchBatchRequest where
  decisions : List PrefetchDecisionProto

/-- `oneof payload` -/
inductive PrefetchPayload [Inhabited Bytes] where
  | kvCache (response : GetKVBlockResponse Bytes)
  | rag (response : GetRAGObjectResponse Bytes)
  | semantic (response : GetSemanticEntryResponse Bytes)

structure PrefetchObjectProto [Inhabited Bytes] where
  objectId : String
  prefetchType : String
  payload : Option (PrefetchPayload Bytes)

structure PrefetchBatchResponse [Inhabited Bytes] where
  objects : List (PrefetchObjectProto Bytes)

end

/-! ## service L3Service -/

inductive Rpc where
  | putKVBlock | getKVBlock | deleteKVBlock | listKVBlocks
  | putRAGObject | getRAGObject
  | putSemanticEntry | getSemanticEntry | searchSimilarPrompts
  | prefetchBatch
  deriving DecidableEq

/-- What a method is called with. -/
@[reducible] def Rpc.Request (Bytes : Type) : Rpc → Type
  | .putKVBlock => PutKVBlockRequest Bytes
  | .getKVBlock => GetKVBlockRequest
  | .deleteKVBlock => DeleteKVBlockRequest
  | .listKVBlocks => ListKVBlocksRequest
  | .putRAGObject => PutRAGObjectRequest Bytes
  | .getRAGObject => GetRAGObjectRequest
  | .putSemanticEntry => PutSemanticEntryRequest Bytes
  | .getSemanticEntry => GetSemanticEntryRequest
  | .searchSimilarPrompts => SearchSimilarPromptsRequest Bytes
  | .prefetchBatch => PrefetchBatchRequest

/-- What a method returns. -/
@[reducible] def Rpc.Response (Bytes : Type) [Inhabited Bytes] : Rpc → Type
  | .putKVBlock => PutKVBlockResponse
  | .getKVBlock => GetKVBlockResponse Bytes
  | .deleteKVBlock => DeleteKVBlockResponse
  | .listKVBlocks => ListKVBlocksResponse
  | .putRAGObject => PutRAGObjectResponse
  | .getRAGObject => GetRAGObjectResponse Bytes
  | .putSemanticEntry => PutSemanticEntryResponse
  | .getSemanticEntry => GetSemanticEntryResponse Bytes
  | .searchSimilarPrompts => SearchSimilarPromptsResponse
  | .prefetchBatch => PrefetchBatchResponse Bytes

/-- The two ways a message goes. -/
inductive Leg where
  | request | response
  deriving DecidableEq

@[reducible] def Rpc.Message (Bytes : Type) [Inhabited Bytes] (method : Rpc) : Leg → Type
  | .request => method.Request Bytes
  | .response => method.Response Bytes

/-! ## The transport -/

/-- What `grpc` and `protobuf` do with a message. -/
class Grpc (Bytes : Type) [Inhabited Bytes] where
  /-- `message.ByteSize()` -/
  byteSize : (method : Rpc) → (leg : Leg) → method.Message Bytes leg → Nat
  /-- The message as the other end receives it, or the status that the call fails with. -/
  transmit : (method : Rpc) → (leg : Leg) → method.Message Bytes leg →
    Except String (method.Message Bytes leg)

/-- The longest message that is received by a server or a channel without options. -/
def maxReceiveMessageLength : Nat := 4 * 1024 * 1024

section

variable (Bytes : Type) [Inhabited Bytes] [Grpc Bytes]

def Receivable (method : Rpc) (leg : Leg) (message : method.Message Bytes leg) : Prop :=
  Grpc.byteSize method leg message ≤ maxReceiveMessageLength

instance (method : Rpc) (leg : Leg) (message : method.Message Bytes leg) :
    Decidable (Receivable Bytes method leg message) :=
  inferInstanceAs (Decidable (_ ≤ _))

/-- A message arrives as it was sent, unless it is longer than what is received. -/
class LawfulGrpc : Prop where
  transmit_receivable : ∀ (method : Rpc) (leg : Leg) (message : method.Message Bytes leg),
    Receivable Bytes method leg message → Grpc.transmit method leg message = .ok message
  transmit_too_long : ∀ (method : Rpc) (leg : Leg) (message : method.Message Bytes leg),
    ¬ Receivable Bytes method leg message →
      ∃ status, Grpc.transmit method leg message = .error status

end

end IntelliL3
