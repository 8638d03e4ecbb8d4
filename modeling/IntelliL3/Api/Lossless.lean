import IntelliL3.Api.Reference
import IntelliL3.Api.Service
import IntelliL3.Core.Observations

/-! # What survives the wire

Three types have messages. An object of one of them comes back from its message
without what the message has no field for; so a put and a get through the client
are a put and a get on the store exactly when nothing of that was set.
-/

namespace IntelliL3

open Lib Converters

/-- The types that have messages. -/
inductive WireType where
  | kvCache | rag | semantic
  deriving Repr, DecidableEq

def WireType.objectType : WireType → ObjectType
  | .kvCache => .kvCache
  | .rag => .rag
  | .semantic => .semanticCache

/-- An object as it is sent: its message and its arrays. -/
def WireType.Message (Bytes : Type) : WireType → Type
  | .kvCache => KVCacheBlockProto × Bytes × Bytes
  | .rag => RAGObjectProto × Bytes
  | .semantic => SemanticCacheEntryProto × Bytes

namespace WireType

def putRpc : WireType → Rpc
  | .kvCache => .putKVBlock
  | .rag => .putRAGObject
  | .semantic => .putSemanticEntry

def getRpc : WireType → Rpc
  | .kvCache => .getKVBlock
  | .rag => .getRAGObject
  | .semantic => .getSemanticEntry

variable {Bytes : Type} [Inhabited Bytes]

omit [Inhabited Bytes] in
/-- A put of an object. -/
def putRequest : {w : WireType} → w.Message Bytes → w.putRpc.Request Bytes
  | .kvCache, (block, keyStates, valueStates) => { block, keyStates, valueStates }
  | .rag, (object, embedding) => { object, embedding }
  | .semantic, (entry, promptEmbedding) => { entry, promptEmbedding }

variable (Bytes) in
def putResponse (objectId : String) : (w : WireType) → w.putRpc.Response Bytes
  | .kvCache => { objectId }
  | .rag => { objectId }
  | .semantic => { objectId }

variable (Bytes) in
omit [Inhabited Bytes] in
def getRequest (objectId : String) : (w : WireType) → w.getRpc.Request Bytes
  | .kvCache => { objectId }
  | .rag => { objectId }
  | .semantic => { objectId }

/-- The answer of a get that finds an object. -/
def getResponse : {w : WireType} → w.Message Bytes → w.getRpc.Response Bytes
  | .kvCache, (block, keyStates, valueStates) => { block, keyStates, valueStates, found := true }
  | .rag, (object, embedding) => { object, embedding, found := true }
  | .semantic, (entry, promptEmbedding) => { entry, promptEmbedding, found := true }

end WireType

namespace Payload

section

variable {Bytes : Type} [Serializer Bytes]

def toMessage : {w : WireType} → Payload w.objectType → Except PyError (w.Message Bytes)
  | .kvCache, (block, keyStates, valueStates) =>
      return (← kvBlockToProto block, ndarrayToBytes keyStates, ndarrayToBytes valueStates)
  | .rag, (obj, embedding) => return (← ragObjectToProto obj, ndarrayToBytes embedding)
  | .semantic, (entry, promptEmbedding) =>
      return (← semanticEntryToProto entry, ndarrayToBytes promptEmbedding)

def ofMessage : {w : WireType} → w.Message Bytes → Except PyError (Payload w.objectType)
  | .kvCache, (block, keyStates, valueStates) =>
      return (← protoToKvBlock block, ← bytesToNdarray keyStates, ← bytesToNdarray valueStates)
  | .rag, (obj, embedding) => return (← protoToRagObject obj, ← bytesToNdarray embedding)
  | .semantic, (entry, promptEmbedding) =>
      return (← protoToSemanticEntry entry, ← bytesToNdarray promptEmbedding)

end

/-- The integers fit their fields. -/
def Fits : {w : WireType} → Payload w.objectType → Prop
  | .kvCache, payload => payload.1.Fits
  | .rag, payload => payload.1.Fits
  | .semantic, payload => payload.1.Fits

/-- What comes back. -/
def carried : {w : WireType} → Payload w.objectType → Payload w.objectType
  | .kvCache, (block, arrays) => (block.carried, arrays)
  | .rag, (obj, embedding) => (obj.carried, embedding)
  | .semantic, (entry, promptEmbedding) => (entry.carried, promptEmbedding)

/-- Nothing is set that the message has no field for. -/
def Lossless : {w : WireType} → Payload w.objectType → Prop
  | .kvCache, payload => payload.1.Lossless
  | .rag, payload => payload.1.objMeta.Bare
  | .semantic, payload => payload.1.objMeta.Bare

variable {w : WireType}

theorem carried_eq_self_iff (payload : Payload w.objectType) :
    payload.carried = payload ↔ payload.Lossless := by
  cases w with
  | kvCache =>
      obtain ⟨block, arrays⟩ := payload
      exact Prod.mk_left_inj.trans block.carried_eq_self_iff
  | rag =>
      obtain ⟨obj, embedding⟩ := payload
      exact Prod.mk_left_inj.trans obj.carried_eq_self_iff
  | semantic =>
      obtain ⟨entry, embedding⟩ := payload
      exact Prod.mk_left_inj.trans entry.carried_eq_self_iff

variable {Bytes : Type} [Serializer Bytes]

/-- A message that is built fits. -/
theorem toMessage_fits {payload : Payload w.objectType} {message : w.Message Bytes}
    (sent : payload.toMessage = .ok message) : payload.Fits := by
  cases w with
  | kvCache =>
      obtain ⟨proto, inner, -⟩ := bind_eq_ok.mp sent
      exact kvBlockToProto_fits inner
  | rag =>
      obtain ⟨proto, inner, -⟩ := bind_eq_ok.mp sent
      exact ragObjectToProto_fits inner
  | semantic =>
      obtain ⟨proto, inner, -⟩ := bind_eq_ok.mp sent
      exact semanticEntryToProto_fits inner

variable (Bytes) in
/-- What fits is sent, and comes back without what the message lacks. -/
theorem ofMessage_toMessage [LawfulSerializer Bytes] {payload : Payload w.objectType}
    (fits : payload.Fits) :
    ∃ message : w.Message Bytes, payload.toMessage = .ok message ∧
      ofMessage message = .ok payload.carried := by
  cases w with
  | kvCache =>
      obtain ⟨block, keyStates, valueStates⟩ := payload
      obtain ⟨proto, sent, read⟩ := protoToKvBlock_kvBlockToProto fits
      refine ⟨(proto, ndarrayToBytes keyStates, ndarrayToBytes valueStates), ?_, ?_⟩
      · simp only [toMessage, sent]
        rfl
      · simp only [ofMessage, read, bytesToNdarray_ndarrayToBytes]
        rfl
  | rag =>
      obtain ⟨obj, embedding⟩ := payload
      obtain ⟨proto, sent, read⟩ := protoToRagObject_ragObjectToProto fits
      refine ⟨(proto, ndarrayToBytes embedding), ?_, ?_⟩
      · simp only [toMessage, sent]
        rfl
      · simp only [ofMessage, read, bytesToNdarray_ndarrayToBytes]
        rfl
  | semantic =>
      obtain ⟨entry, embedding⟩ := payload
      obtain ⟨proto, sent, read⟩ := protoToSemanticEntry_semanticEntryToProto fits
      refine ⟨(proto, ndarrayToBytes embedding), ?_, ?_⟩
      · simp only [toMessage, sent]
        rfl
      · simp only [ofMessage, read, bytesToNdarray_ndarrayToBytes]
        rfl

/-- `proto_to_X(X_to_proto(x))`, with the arrays of `x`. -/
def roundTrip (Bytes : Type) [Serializer Bytes] (payload : Payload w.objectType) :
    Except PyError (Payload w.objectType) := do
  ofMessage (← payload.toMessage : w.Message Bytes)

theorem roundTrip_eq_ok_iff [LawfulSerializer Bytes] (payload back : Payload w.objectType) :
    payload.roundTrip Bytes = .ok back ↔ payload.Fits ∧ back = payload.carried := by
  constructor
  · intro done
    obtain ⟨message, sent, read⟩ := bind_eq_ok.mp done
    have fits := toMessage_fits sent
    obtain ⟨message', sent', read'⟩ := ofMessage_toMessage Bytes fits
    rw [sent] at sent'
    cases sent'
    rw [read] at read'
    exact ⟨fits, Except.ok.inj read'⟩
  · rintro ⟨fits, rfl⟩
    obtain ⟨message, sent, read⟩ := ofMessage_toMessage Bytes fits
    exact bind_eq_ok.mpr ⟨message, sent, read⟩

end Payload

/-! ## Through the client -/

namespace L3Client

section

variable {β η Bytes : Type} [StorageBackend (EStateM PyError β) Bytes] [PyRuntime]
  [Serializer Bytes] [Hnswlib η] [Inhabited Bytes] [Grpc Bytes]

def put : {w : WireType} → Payload w.objectType → RemoteM β η String
  | .kvCache, (block, keyStates, valueStates) => putKvBlock block keyStates valueStates
  | .rag, (obj, embedding) => putRagObject obj embedding
  | .semantic, (entry, promptEmbedding) => putSemanticEntry entry promptEmbedding

omit [Hnswlib η] in
def get (w : WireType) (objectId : String) (now : Rat) :
    RemoteM β η (Option (Payload w.objectType)) :=
  match w with
  | .kvCache => getKvBlock objectId now
  | .rag => getRagObject objectId now
  | .semantic => getSemanticEntry objectId now

end

variable {β η Bytes : Type} [StorageBackend (EStateM PyError β) Bytes] [PyRuntime]
  [Serializer Bytes] [LawfulSerializer Bytes] [Hnswlib η] [Inhabited Bytes] [Grpc Bytes]
  [LawfulGrpc Bytes] {w : WireType} {self self' after : UnifiedObjectStore β η}
  {objectId : String}

omit [StorageBackend (EStateM PyError β) Bytes] [PyRuntime] [Serializer Bytes]
  [LawfulSerializer Bytes] [Hnswlib η] in
/-- A call that stores something and reads from the answer what was returned. -/
private theorem stored_eq_ok {α : Type} {method : Rpc}
    {servicer : method.Request Bytes → StoreM β η (method.Response Bytes)}
    {request : method.Request Bytes} {action : StoreM β η α} {reply : α → method.Response Bytes}
    {read : method.Response Bytes → α} (serves : servicer request = reply <$> action)
    (reads : ∀ a, read (reply a) = a) {a : α} :
    (rpc Bytes method servicer request >>= fun response => pure (read response)) self =
        .ok a after ↔
      Receivable Bytes method .request request ∧ action self = .ok a after ∧
        Receivable Bytes method .response (reply a) := by
  rw [bind_run_ok]
  constructor
  · rintro ⟨response, _, called, same⟩
    obtain ⟨out, answered, back⟩ := rpc_eq_ok.mp called
    rw [serves] at answered
    obtain ⟨stored, _, done, replied⟩ := bind_run_ok.mp answered
    cases replied
    cases same
    rw [reads]
    exact ⟨out, done, back⟩
  · rintro ⟨out, done, back⟩
    refine ⟨reply a, after, rpc_eq_ok.mpr ⟨out, ?_, back⟩, by rw [reads]; rfl⟩
    rw [serves]
    exact bind_run_ok.mpr ⟨a, after, done, rfl⟩

/-- A put through the client returns when both messages are received and what the first one
    carries is put. -/
theorem put_eq_ok_iff {payload : Payload w.objectType} {message : w.Message Bytes}
    (sent : payload.toMessage = .ok message) :
    put payload self = .ok objectId after ↔
      Receivable Bytes w.putRpc .request (WireType.putRequest message) ∧
        UnifiedObjectStore.put payload.carried self = .ok objectId after ∧
          Receivable Bytes w.putRpc .response (WireType.putResponse Bytes objectId w) := by
  have fits := Payload.toMessage_fits sent
  cases w with
  | kvCache =>
      obtain ⟨block, keyStates, valueStates⟩ := payload
      obtain ⟨proto, converted, read⟩ := protoToKvBlock_kvBlockToProto fits
      simp only [Payload.toMessage, converted] at sent
      cases sent
      have serves : L3ServiceImpl.putKVBlock ⟨proto, (ndarrayToBytes keyStates : Bytes),
          ndarrayToBytes valueStates⟩ = PutKVBlockResponse.mk <$>
            (UnifiedObjectStore.putKvBlock block.carried keyStates valueStates :
              StoreM β η String) := by
        funext store
        simp only [L3ServiceImpl.putKVBlock, bind_run, read, raising_ok,
          bytesToNdarray_ndarrayToBytes]
        rfl
      change putKvBlock block keyStates valueStates self = _ ↔ _
      rw [putKvBlock, bind_run, converted, atClient_ok]
      exact stored_eq_ok serves fun _ => rfl
  | rag =>
      obtain ⟨obj, embedding⟩ := payload
      obtain ⟨proto, converted, read⟩ := protoToRagObject_ragObjectToProto fits
      simp only [Payload.toMessage, converted] at sent
      cases sent
      have serves : L3ServiceImpl.putRAGObject ⟨proto, (ndarrayToBytes embedding : Bytes)⟩ =
          PutRAGObjectResponse.mk <$>
            (UnifiedObjectStore.putRagObject obj.carried embedding : StoreM β η String) := by
        funext store
        simp only [L3ServiceImpl.putRAGObject, bind_run, read, raising_ok,
          bytesToNdarray_ndarrayToBytes]
        rfl
      change putRagObject obj embedding self = _ ↔ _
      rw [putRagObject, bind_run, converted, atClient_ok]
      exact stored_eq_ok serves fun _ => rfl
  | semantic =>
      obtain ⟨entry, embedding⟩ := payload
      obtain ⟨proto, converted, read⟩ := protoToSemanticEntry_semanticEntryToProto fits
      simp only [Payload.toMessage, converted] at sent
      cases sent
      have serves : L3ServiceImpl.putSemanticEntry ⟨proto, (ndarrayToBytes embedding : Bytes)⟩ =
          PutSemanticEntryResponse.mk <$>
            (UnifiedObjectStore.putSemanticEntry entry.carried embedding : StoreM β η String) := by
        funext store
        simp only [L3ServiceImpl.putSemanticEntry, bind_run, read, raising_ok,
          bytesToNdarray_ndarrayToBytes]
        rfl
      change putSemanticEntry entry embedding self = _ ↔ _
      rw [putSemanticEntry, bind_run, converted, atClient_ok]
      exact stored_eq_ok serves fun _ => rfl

omit [StorageBackend (EStateM PyError β) Bytes] [PyRuntime] [Serializer Bytes]
  [LawfulSerializer Bytes] [Hnswlib η] in
/-- A call that finds an object and decodes the answer. -/
private theorem found_eq_ok {α : Type} {method : Rpc}
    {servicer : method.Request Bytes → StoreM β η (method.Response Bytes)}
    {request : method.Request Bytes} {answer : Except PyError (method.Response Bytes)}
    (serves : servicer request self = raising answer self')
    {decode : method.Response Bytes → RemoteM β η α} {a : α} :
    (rpc Bytes method servicer request >>= decode) self = .ok a after ↔
      Receivable Bytes method .request request ∧ ∃ response, answer = .ok response ∧
        Receivable Bytes method .response response ∧ decode response self' = .ok a after := by
  rw [bind_run_ok]
  constructor
  · rintro ⟨response, _, called, decoded⟩
    obtain ⟨out, answered, back⟩ := rpc_eq_ok.mp called
    rw [serves, raising_eq_ok] at answered
    obtain ⟨built, rfl⟩ := answered
    exact ⟨out, response, built, back, decoded⟩
  · rintro ⟨out, response, built, back, decoded⟩
    refine ⟨response, self', rpc_eq_ok.mpr ⟨out, ?_, back⟩, decoded⟩
    rw [serves, built]
    rfl

/-- The only outcome of a return. -/
private theorem answered_eq_ok {ε σ α : Type} {s s' : σ} {a b : α} :
    (EStateM.Result.ok a s : EStateM.Result ε σ α) = .ok b s' ↔ b = a ∧ s' = s := by
  rw [EStateM.Result.ok.injEq, eq_comm, eq_comm (a := s)]

omit [Hnswlib η] in
/-- A get through the client of what the store answers returns when both messages are received,
    and the answer fits its message; it answers what the message carries. -/
theorem get_eq_ok_iff {now : Rat} {found : Payload w.objectType}
    (answered : UnifiedObjectStore.get w.objectType objectId now self = .ok (some found) self')
    {answer : Option (Payload w.objectType)} :
    get w objectId now self = .ok answer after ↔
      Receivable Bytes w.getRpc .request (WireType.getRequest Bytes objectId w) ∧
        ∃ message : w.Message Bytes, found.toMessage = .ok message ∧
          Receivable Bytes w.getRpc .response (WireType.getResponse message) ∧
            answer = some found.carried ∧ after = self' := by
  cases w with
  | kvCache =>
      obtain ⟨block, keyStates, valueStates⟩ := found
      change UnifiedObjectStore.getKvBlock objectId now self = _ at answered
      have serves : L3ServiceImpl.getKVBlock ⟨objectId⟩ now self = raising
          (L3ServiceImpl.kvResponse block keyStates valueStates true :
            Except PyError (GetKVBlockResponse Bytes)) self' := by
        simp only [L3ServiceImpl.getKVBlock, bind_run, answered]
      refine Iff.trans (found_eq_ok (by exact serves)) ?_
      refine and_congr_right fun _ => exists_made_ok.trans (Iff.trans ?_ exists_made_ok.symm)
      refine exists_congr fun proto => and_congr_right fun converted => and_congr_right fun _ => ?_
      have read := protoToKvBlock_sent converted
      simp only [if_true, bind_run, read, atClient_ok, bytesToNdarray_ndarrayToBytes]
      exact answered_eq_ok
  | rag =>
      obtain ⟨obj, embedding⟩ := found
      change UnifiedObjectStore.getRagObject objectId now self = _ at answered
      have serves : L3ServiceImpl.getRAGObject ⟨objectId⟩ now self = raising
          (L3ServiceImpl.ragResponse obj embedding true :
            Except PyError (GetRAGObjectResponse Bytes)) self' := by
        simp only [L3ServiceImpl.getRAGObject, bind_run, answered]
      refine Iff.trans (found_eq_ok (by exact serves)) ?_
      refine and_congr_right fun _ => exists_made_ok.trans (Iff.trans ?_ exists_made_ok.symm)
      refine exists_congr fun proto => and_congr_right fun converted => and_congr_right fun _ => ?_
      have read := protoToRagObject_sent converted
      simp only [if_true, bind_run, read, atClient_ok, bytesToNdarray_ndarrayToBytes]
      exact answered_eq_ok
  | semantic =>
      obtain ⟨entry, embedding⟩ := found
      change UnifiedObjectStore.getSemanticEntry objectId now self = _ at answered
      have serves : L3ServiceImpl.getSemanticEntry ⟨objectId⟩ now self = raising
          (L3ServiceImpl.semanticResponse entry embedding true :
            Except PyError (GetSemanticEntryResponse Bytes)) self' := by
        simp only [L3ServiceImpl.getSemanticEntry, bind_run, answered]
      refine Iff.trans (found_eq_ok (by exact serves)) ?_
      refine and_congr_right fun _ => exists_made_ok.trans (Iff.trans ?_ exists_made_ok.symm)
      refine exists_congr fun proto => and_congr_right fun converted => and_congr_right fun _ => ?_
      have read := protoToSemanticEntry_sent converted
      simp only [if_true, bind_run, read, atClient_ok, bytesToNdarray_ndarrayToBytes]
      exact answered_eq_ok

end L3Client

/-! ## A put and a get -/

namespace Payload

variable {w : WireType}

/-- What is stored and touched still fits: the read counter can grow, and the sizes that are
    recorded fit their fields. -/
def ReplyFits : {w : WireType} → Payload w.objectType → Prop
  | .kvCache, (block, keyStates, valueStates) =>
      block.objMeta.accessCount + 1 < 2 ^ 64 ∧ keyStates.nbytes + valueStates.nbytes < 2 ^ 64
  | .rag, (obj, embedding) =>
      obj.objMeta.accessCount + 1 < 2 ^ 64 ∧ embedding.nbytes < 2 ^ 64 ∧
        ∀ dim, embedding.lastDim = .ok dim → dim < 2 ^ 31
  | .semantic, (entry, promptEmbedding) =>
      entry.objMeta.accessCount + 1 < 2 ^ 64 ∧ promptEmbedding.nbytes < 2 ^ 64 ∧
        ∀ dim, promptEmbedding.lastDim = .ok dim → dim < 2 ^ 31

theorem carried_carried (payload : Payload w.objectType) :
    payload.carried.carried = payload.carried := by
  cases w with
  | kvCache =>
      obtain ⟨block, arrays⟩ := payload
      refine Prod.mk_left_inj.mpr ?_
      rw [KVCacheBlock.carried_eq_self_iff]
      refine ⟨(ObjectMeta.carried_eq_self_iff _).mp rfl, ?_⟩
      change (if block.parentBlockId = some "" then none else block.parentBlockId) ≠ some ""
      split
      · exact Option.some_ne_none _ |>.symm
      · next named => exact named
  | rag | semantic => rfl

theorem fits_carried (payload : Payload w.objectType) : payload.carried.Fits ↔ payload.Fits := by
  cases w with
  | kvCache =>
      exact ⟨fun ⟨⟨count, size, refs⟩, tokens, index⟩ => ⟨⟨count, size, refs⟩, tokens, index⟩,
        fun ⟨⟨count, size, refs⟩, tokens, index⟩ => ⟨⟨count, size, refs⟩, tokens, index⟩⟩
  | rag =>
      exact ⟨fun ⟨⟨count, size, refs⟩, chunk, dim, page⟩ => ⟨⟨count, size, refs⟩, chunk, dim, page⟩,
        fun ⟨⟨count, size, refs⟩, chunk, dim, page⟩ => ⟨⟨count, size, refs⟩, chunk, dim, page⟩⟩
  | semantic =>
      exact ⟨fun ⟨⟨count, size, refs⟩, dim, reused⟩ => ⟨⟨count, size, refs⟩, dim, reused⟩,
        fun ⟨⟨count, size, refs⟩, dim, reused⟩ => ⟨⟨count, size, refs⟩, dim, reused⟩⟩

theorem touch_carried (payload : Payload w.objectType) (now : Rat) :
    (payload.touch now).carried = (payload.carried).touch now := by
  cases w <;> rfl

theorem touch_lossless (payload : Payload w.objectType) (now : Rat) :
    (payload.touch now).Lossless ↔ payload.Lossless := by
  cases w <;> exact Iff.rfl

variable [PyRuntime]

/-- A stamp records a hash, which depends on the tokens and the hash there was, and the
    bytes of the tensors. -/
private theorem stamped_block {block stamped : KVCacheBlock} {keyStates valueStates : NdArray}
    (done : block.stamp keyStates valueStates = .ok stamped) :
    ∃ tokenHash, ∀ other : KVCacheBlock, other.tokenIds = block.tokenIds →
      other.tokenHash = block.tokenHash → other.stamp keyStates valueStates = .ok { other with
        tokenHash
        objMeta := { other.objMeta with sizeBytes := keyStates.nbytes + valueStates.nbytes } } := by
  unfold KVCacheBlock.stamp at done
  split at done
  · next missing =>
      obtain ⟨tokenHash, hashed, -⟩ := bind_eq_ok.mp done
      refine ⟨tokenHash, fun other sameTokens sameHash => ?_⟩
      rw [← sameTokens, ← sameHash] at missing
      rw [← sameTokens] at hashed
      rw [KVCacheBlock.stamp, if_pos missing]
      exact bind_eq_ok.mpr ⟨tokenHash, hashed, rfl⟩
  · next given =>
      refine ⟨block.tokenHash, fun other sameTokens sameHash => ?_⟩
      rw [← sameTokens, ← sameHash] at given
      rw [KVCacheBlock.stamp, if_neg given, sameHash]
      rfl

/-- Stamping changes no field that the messages lack. -/
theorem stamp_carried {payload stamped : Payload w.objectType}
    (stamping : payload.stamp = .ok stamped) :
    payload.carried.stamp = .ok stamped.carried ∧ (stamped.Lossless ↔ payload.Lossless) := by
  cases w with
  | kvCache =>
      obtain ⟨block, keyStates, valueStates⟩ := payload
      obtain ⟨block', inner, same⟩ := bind_eq_ok.mp stamping
      cases same
      obtain ⟨tokenHash, stamps⟩ := stamped_block inner
      have stamped := inner.symm.trans (stamps block rfl rfl)
      cases stamped
      exact ⟨bind_eq_ok.mpr ⟨_, stamps block.carried rfl rfl, rfl⟩, Iff.rfl⟩
  | rag =>
      obtain ⟨obj, embedding⟩ := payload
      obtain ⟨obj', inner, same⟩ := bind_eq_ok.mp stamping
      cases same
      obtain ⟨dim, last, same⟩ := bind_eq_ok.mp inner
      cases same
      exact ⟨bind_eq_ok.mpr ⟨_, bind_eq_ok.mpr ⟨dim, last, rfl⟩, rfl⟩, Iff.rfl⟩
  | semantic =>
      obtain ⟨entry, embedding⟩ := payload
      obtain ⟨entry', inner, same⟩ := bind_eq_ok.mp stamping
      cases same
      obtain ⟨dim, last, same⟩ := bind_eq_ok.mp inner
      cases same
      exact ⟨bind_eq_ok.mpr ⟨_, bind_eq_ok.mpr ⟨dim, last, rfl⟩, rfl⟩, Iff.rfl⟩

omit [PyRuntime] in
theorem objectId_carried (payload : Payload w.objectType) :
    payload.carried.objectId = payload.objectId := by
  cases w <;> rfl

variable {η : Type} [Hnswlib η]

theorem index_carried (payload : Payload w.objectType) (metadata : MetadataStore η) :
    payload.carried.index metadata = payload.index metadata := by
  cases w <;> rfl

/-- What a get after a put answers fits exactly when the payload leaves room for it. -/
theorem reply_fits_iff {payload stamped : Payload w.objectType} (fits : payload.Fits)
    (stamping : payload.stamp = .ok stamped) (now : Rat) :
    (stamped.touch now).Fits ↔ payload.ReplyFits := by
  cases w with
  | kvCache =>
      obtain ⟨block, keyStates, valueStates⟩ := payload
      obtain ⟨block', inner, same⟩ := bind_eq_ok.mp stamping
      cases same
      obtain ⟨tokenHash, stamps⟩ := stamped_block inner
      have stamped := inner.symm.trans (stamps block rfl rfl)
      cases stamped
      obtain ⟨metaFits, tokenIds, blockIndex⟩ := fits
      have size : (0 : Int) ≤ keyStates.nbytes + valueStates.nbytes := by omega
      have room := ObjectMeta.fits_touched_iff metaFits size now
      constructor
      · rintro ⟨touched, -, -⟩
        obtain ⟨count, small⟩ := room.mp touched
        exact ⟨count, by omega⟩
      · rintro ⟨count, small⟩
        exact ⟨room.mpr ⟨count, by omega⟩, tokenIds, blockIndex⟩
  | rag =>
      obtain ⟨obj, embedding⟩ := payload
      obtain ⟨obj', inner, same⟩ := bind_eq_ok.mp stamping
      cases same
      obtain ⟨dim, last, same⟩ := bind_eq_ok.mp inner
      cases same
      obtain ⟨metaFits, chunkIndex, -, pageNumber⟩ := fits
      have room := ObjectMeta.fits_touched_iff metaFits (Int.natCast_nonneg embedding.nbytes) now
      constructor
      · rintro ⟨touched, -, ⟨_, short⟩, -⟩
        obtain ⟨count, small⟩ := room.mp touched
        refine ⟨count, by omega, fun other same => ?_⟩
        rw [last] at same
        cases same
        change (dim : Int) < 2 ^ 31 at short
        omega
      · rintro ⟨count, small, short⟩
        have short := short dim last
        refine ⟨room.mpr ⟨count, by omega⟩, chunkIndex, ?_, pageNumber⟩
        change -2 ^ 31 ≤ (dim : Int) ∧ (dim : Int) < 2 ^ 31
        omega
  | semantic =>
      obtain ⟨entry, embedding⟩ := payload
      obtain ⟨entry', inner, same⟩ := bind_eq_ok.mp stamping
      cases same
      obtain ⟨dim, last, same⟩ := bind_eq_ok.mp inner
      cases same
      obtain ⟨metaFits, -, reuseCount⟩ := fits
      have room := ObjectMeta.fits_touched_iff metaFits (Int.natCast_nonneg embedding.nbytes) now
      constructor
      · rintro ⟨touched, ⟨_, short⟩, -⟩
        obtain ⟨count, small⟩ := room.mp touched
        refine ⟨count, by omega, fun other same => ?_⟩
        rw [last] at same
        cases same
        change (dim : Int) < 2 ^ 31 at short
        omega
      · rintro ⟨count, small, short⟩
        have short := short dim last
        refine ⟨room.mpr ⟨count, by omega⟩, ?_, reuseCount⟩
        change -2 ^ 31 ≤ (dim : Int) ∧ (dim : Int) < 2 ^ 31
        omega

end Payload

namespace UnifiedObjectStore

variable {η Bytes : Type} [PyRuntime] [Serializer Bytes] [LawfulSerializer Bytes] [Hnswlib η]
  {self self' : UnifiedObjectStore (MemoryBackend Bytes) η} {X : ObjectType}

/-- A put that returns is answered by a get. -/
theorem get_put {payload stamped : Payload X} {objectId : String}
    (stamping : payload.stamp = .ok stamped) (done : put payload self = .ok objectId self')
    (now : Rat) : get X objectId now self' = .ok (some (stamped.touch now)) self' := by
  obtain ⟨stamped', stamping', same, sameId, config, backend, indexing⟩ := put_ok done
  rw [stamping] at stamping'
  cases stamping'
  have known : self'.metadata.mightExist objectId = true := by
    have bloom := stamped.index_bloom self.metadata
    rw [indexing, EStateResult.state_ok, sameId, ← same] at bloom
    rw [MetadataStore.mightExist, bloom]
    exact BloomFilter.mightContain_add_self _ _
  rw [get_eq, if_pos known]
  change raising ((self'.backend.read _ _ _).map _) self' = _
  rw [config, backend, MemoryBackend.read_write, if_pos (sameId.trans same.symm)]
  rfl

omit [LawfulSerializer Bytes] in
/-- Putting what the message carries does no more and no less. -/
theorem put_carried {w : WireType} {payload : Payload w.objectType} {objectId : String}
    (done : put payload self = .ok objectId self') :
    ∃ after, put payload.carried self = .ok objectId after := by
  obtain ⟨stamped, stamping, same, sameId, -, -, indexing⟩ := put_ok done
  rw [put_eq, (Payload.stamp_carried stamping).1]
  simp only [Payload.index_carried, indexing, Payload.objectId_carried, sameId, ← same]
  exact ⟨_, rfl⟩

/-- A put, and a get of what was put. -/
def putGet (payload : Payload X) (now : Rat) :
    StoreM (MemoryBackend Bytes) η (Option (Payload X)) := do
  get X (← put payload) now

end UnifiedObjectStore

/-- A put, and a get of what was put, through the client. -/
def L3Client.putGet {η Bytes : Type} [PyRuntime] [Serializer Bytes] [Hnswlib η]
    [Inhabited Bytes] [Grpc Bytes] {w : WireType} (payload : Payload w.objectType) (now : Rat) :
    RemoteM (MemoryBackend Bytes) η (Option (Payload w.objectType)) := do
  get w (← put payload) now

section

variable {η Bytes : Type} [PyRuntime] [Serializer Bytes] [LawfulSerializer Bytes] [Hnswlib η]
  [Inhabited Bytes] [Grpc Bytes] [LawfulGrpc Bytes]

variable (Bytes) in
omit [LawfulSerializer Bytes] [LawfulGrpc Bytes] in
/-- No message of a put and a get of what was put is longer than what is received. -/
structure Payload.WithinLimit {w : WireType} (payload : Payload w.objectType) (now : Rat) :
    Prop where
  putRequest : ∀ message : w.Message Bytes, payload.toMessage = .ok message →
    Receivable Bytes w.putRpc .request (WireType.putRequest message)
  putResponse : Receivable Bytes w.putRpc .response (WireType.putResponse Bytes payload.objectId w)
  getRequest : Receivable Bytes w.getRpc .request (WireType.getRequest Bytes payload.objectId w)
  getResponse : ∀ (stored : Payload w.objectType) (message : w.Message Bytes),
    payload.stamp = .ok stored → (stored.touch now).toMessage = .ok message →
    Receivable Bytes w.getRpc .response (WireType.getResponse message)

/-- A put and a get through the client answer what they answer on the store exactly when
    the messages lose nothing, the answer still fits and every message is received. -/
theorem L3Client.putGet_agrees_iff {w : WireType} {payload : Payload w.objectType}
    (fits : payload.Fits) (self : UnifiedObjectStore (MemoryBackend Bytes) η) (now : Rat)
    {answer : Option (Payload w.objectType)}
    (direct : EStateResult.outcome (UnifiedObjectStore.putGet payload now self) = .ok answer) :
    EStateResult.outcome (L3Client.putGet payload now self) = .ok answer ↔
      payload.Lossless ∧ payload.ReplyFits ∧ payload.WithinLimit Bytes now := by
  unfold UnifiedObjectStore.putGet at direct
  rw [bind_run] at direct
  cases done : UnifiedObjectStore.put payload self with
  | error e after => rw [done] at direct; cases direct
  | ok objectId self' =>
      simp only [done] at direct
      obtain ⟨stamped, stamping, sameId, -, -, -, -⟩ := UnifiedObjectStore.put_ok done
      rw [UnifiedObjectStore.get_put stamping done now] at direct
      cases direct
      subst sameId
      obtain ⟨message, sent, -⟩ := Payload.ofMessage_toMessage Bytes fits
      obtain ⟨after, stored⟩ := UnifiedObjectStore.put_carried done
      obtain ⟨stampingCarried, sameLossless⟩ := Payload.stamp_carried stamping
      have found := UnifiedObjectStore.get_put stampingCarried stored now
      rw [← Payload.touch_carried] at found
      have lossless_iff : (stamped.touch now).carried = stamped.touch now ↔ payload.Lossless := by
        rw [Payload.carried_eq_self_iff, Payload.touch_lossless, sameLossless]
      constructor
      · intro remote
        obtain ⟨s, returned⟩ := EStateResult.outcome_eq_ok.mp remote
        obtain ⟨objectId, m, put, get⟩ := bind_run_ok.mp returned
        obtain ⟨putRequest, put, putResponse⟩ := (put_eq_ok_iff sent).mp put
        cases stored.symm.trans put
        obtain ⟨getRequest, reply, replied, getResponse, same, rfl⟩ := (get_eq_ok_iff found).mp get
        rw [Payload.carried_carried, Option.some.injEq, eq_comm] at same
        have room := (Payload.fits_carried _).mp (Payload.toMessage_fits replied)
        refine ⟨lossless_iff.mp same, (Payload.reply_fits_iff fits stamping now).mp room, ?_,
          putResponse, getRequest, ?_⟩
        · intro message' sent'
          cases sent.symm.trans sent'
          exact putRequest
        · intro stored' message' stamping' replied'
          cases stamping.symm.trans stamping'
          rw [same] at replied
          cases replied.symm.trans replied'
          exact getResponse
      · rintro ⟨lossless, room, within⟩
        have same := lossless_iff.mpr lossless
        obtain ⟨reply, replied, -⟩ :=
          Payload.ofMessage_toMessage Bytes ((Payload.reply_fits_iff fits stamping now).mpr room)
        refine EStateResult.outcome_eq_ok.mpr ⟨after, bind_run_ok.mpr ⟨payload.objectId, after,
          (put_eq_ok_iff sent).mpr ⟨within.putRequest message sent, stored, within.putResponse⟩,
          (get_eq_ok_iff found).mpr ⟨within.getRequest, reply, ?_,
            within.getResponse stamped reply stamping replied, ?_, rfl⟩⟩⟩
        · rw [same, replied]
        · rw [same, same]

/-- Of what fits its fields, metadata comes back as it was sent exactly when every field
    without a counterpart is None, an object exactly when moreover its parent id is not
    empty; then, and only then, a put and a get through the client answer what they answer
    on the store, as long as the answer fits too and no message is too long to be received. -/
theorem grpc_conversion_lossless_iff :
    (∀ objMeta : ObjectMeta, objMeta.Fits →
      ((metaToProto objMeta >>= protoToMeta) = .ok objMeta ↔ objMeta.Bare)) ∧
    ∀ (w : WireType) (payload : Payload w.objectType), payload.Fits →
      (payload.roundTrip Bytes = .ok payload ↔ payload.Lossless) ∧
      ∀ (self : UnifiedObjectStore (MemoryBackend Bytes) η) (now : Rat)
        (answer : Option (Payload w.objectType)),
        EStateResult.outcome (UnifiedObjectStore.putGet payload now self) = .ok answer →
        (EStateResult.outcome (L3Client.putGet payload now self) = .ok answer ↔
          payload.Lossless ∧ payload.ReplyFits ∧ payload.WithinLimit Bytes now) := by
  constructor
  · intro objMeta fits
    obtain ⟨proto, sent, read⟩ := protoToMeta_metaToProto fits
    rw [sent]
    change protoToMeta proto = _ ↔ _
    rw [read, Except.ok.injEq, ObjectMeta.carried_eq_self_iff]
  · intro w payload fits
    refine ⟨?_, fun self now answer direct => L3Client.putGet_agrees_iff fits self now direct⟩
    rw [Payload.roundTrip_eq_ok_iff, and_iff_right fits, eq_comm, Payload.carried_eq_self_iff]

end

section

open Reference

private def plainBlock : Payload WireType.kvCache.objectType :=
  (kvBlock "a" [1, 2], array [1], array [2])

/-- The block of a workflow. -/
private def workflowBlock : Payload WireType.kvCache.objectType :=
  ({ kvBlock "a" [1, 2] with
    objMeta := { (kvBlock "a" [1, 2]).objMeta with workflowId := some "w" } }, array [1], array [2])

private theorem block_fits (block : KVCacheBlock) (tokens : block.tokenIds = [1, 2])
    (counters : block.objMeta.accessCount = 0 ∧ block.objMeta.sizeBytes = 0 ∧
      block.objMeta.refCount = 0 ∧ block.blockIndex = 0) : block.Fits := by
  obtain ⟨accessCount, sizeBytes, refCount, blockIndex⟩ := counters
  refine ⟨⟨?_, ?_, ?_⟩, ?_, ?_⟩
  · rw [accessCount]
    decide
  · rw [sizeBytes]
    decide
  · rw [refCount]
    decide
  · rw [tokens]
    decide
  · rw [blockIndex]
    decide

/-- A block without workflow fields comes back as it was sent. -/
theorem grpc_conversion_lossless_plain :
    plainBlock.roundTrip Encoded = .ok plainBlock ∧
      ∃ answer, EStateResult.outcome (UnifiedObjectStore.putGet plainBlock 1 store) = .ok answer ∧
        EStateResult.outcome (L3Client.putGet plainBlock 1 store) = .ok answer := by
  have fits : plainBlock.Fits := block_fits _ rfl (by decide)
  have lossless : plainBlock.Lossless :=
    ⟨(ObjectMeta.carried_eq_self_iff _).mp rfl, Option.some_ne_none "" |>.symm⟩
  obtain ⟨-, objects⟩ := @grpc_conversion_lossless_iff FlatIndex Encoded _ _ _ _ _ _ _
  obtain ⟨roundTrip, putGet⟩ := objects .kvCache plainBlock fits
  have direct : EStateResult.outcome (UnifiedObjectStore.putGet plainBlock 1 store) = .ok _ := rfl
  refine ⟨roundTrip.mpr lossless, _, direct, (putGet store 1 _ direct).mpr ⟨lossless,
    ⟨by decide, by decide⟩, fun message sent => ?_, by decide, by decide,
    fun stored message stamping sent => ?_⟩⟩
  · cases sent
    decide +kernel
  · cases stamping
    cases sent
    decide +kernel

/-- A block of a workflow comes back without it. -/
theorem workflow_id_lost : ¬ ∀ payload : Payload WireType.kvCache.objectType, payload.Fits →
    payload.roundTrip Encoded = .ok payload := by
  intro always
  have same := always workflowBlock (block_fits _ rfl (by decide))
  have lost : workflowBlock.carried = workflowBlock :=
    ((Payload.roundTrip_eq_ok_iff workflowBlock workflowBlock).mp same).2.symm
  have workflow := congrArg (fun payload : KVCacheBlock × NdArray × NdArray =>
    payload.1.objMeta.workflowId) lost
  cases workflow

end

end IntelliL3
