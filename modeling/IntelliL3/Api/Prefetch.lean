import IntelliL3.Api.Lossless

/-! # Prefetching through the client

`PrefetchBatch` of `api/grpc_server.py` and `prefetch_batch` of
`api/grpc_client.py`. The servicer loads each id under the type it is first named
with and then answers every decision again: one with another type unpacks the
wrong object, and types without a message are left out.
-/

namespace IntelliL3

open Lib Converters

namespace L3ServiceImpl

variable {β η Bytes : Type} [StorageBackend (EStateM PyError β) Bytes] [PyRuntime]
  [Serializer Bytes] [Inhabited Bytes]

/-- `block, key_states, value_states = result`; a model iterates over its fields. -/
def asKvBlock : Prefetched → Except PyError (KVCacheBlock × NdArray × NdArray)
  | .kvBlock found => .ok found
  | .toolArtifact _ => .error (.valueError "too many values to unpack (expected 3)")
  | .ragObject _ | .semanticEntry _ | .planEntry _ =>
      .error (.valueError "not enough values to unpack (expected 3, got 2)")

/-- A message of another model fails at the first field the model lacks. -/
def lacksField (objMeta : ObjectMeta) (model field : String) : Except PyError α := do
  let _ ← metaToProto objMeta
  throw (.attributeError s!"'{model}' object has no attribute '{field}'")

/-- `obj, embedding = result`, and the message of `obj`. -/
def asRagObject : Prefetched → Except PyError (RAGObject × NdArray)
  | .ragObject found => .ok found
  | .semanticEntry found => lacksField found.1.objMeta "SemanticCacheEntry" "document_id"
  | .planEntry found => lacksField found.1.objMeta "PlanCacheEntry" "document_id"
  | .kvBlock _ | .toolArtifact _ =>
      .error (.valueError "too many values to unpack (expected 2)")

/-- `entry, prompt_embedding = result`, and the message of `entry`. -/
def asSemanticEntry : Prefetched → Except PyError (SemanticCacheEntry × NdArray)
  | .semanticEntry found => .ok found
  | .ragObject found => lacksField found.1.objMeta "RAGObject" "prompt_text"
  | .planEntry found => lacksField found.1.objMeta "PlanCacheEntry" "prompt_text"
  | .kvBlock _ | .toolArtifact _ =>
      .error (.valueError "too many values to unpack (expected 2)")

def prefetchObjectResponse (decision : PrefetchDecision) (result : Prefetched) :
    Except PyError (Option (PrefetchObjectProto Bytes)) :=
  match decision.prefetchType with
  | "kv_cache" => do
      let (block, keyStates, valueStates) ← asKvBlock result
      return some {
        objectId := decision.objectId
        prefetchType := decision.prefetchType
        payload := some (.kvCache (← kvResponse block keyStates valueStates true)) }
  | "rag" => do
      let (obj, embedding) ← asRagObject result
      return some {
        objectId := decision.objectId
        prefetchType := decision.prefetchType
        payload := some (.rag (← ragResponse obj embedding true)) }
  | "semantic" => do
      let (entry, promptEmbedding) ← asSemanticEntry result
      return some {
        objectId := decision.objectId
        prefetchType := decision.prefetchType
        payload := some (.semantic (← semanticResponse entry promptEmbedding true)) }
  | _ => return none

/-- The loop over the decisions, once the store has answered. -/
def prefetchObjects (prefetched : Dict String Prefetched) :
    List PrefetchDecision → Except PyError (List (PrefetchObjectProto Bytes))
  | [] => return []
  | decision :: decisions => do
      match prefetched.get? decision.objectId with
      | none => prefetchObjects prefetched decisions
      | some result =>
          let proto ← prefetchObjectResponse decision result
          return proto.toList ++ (← prefetchObjects prefetched decisions)

def prefetchBatch (request : PrefetchBatchRequest) (clock : String → Rat) :
    StoreM β η (PrefetchBatchResponse Bytes) := do
  let decisions := request.decisions.map protoToPrefetchDecision
  let prefetched ← UnifiedObjectStore.prefetchBatch decisions clock
  return { objects := ← raising (prefetchObjects prefetched decisions) }

end L3ServiceImpl

namespace L3Client

variable {β η Bytes : Type} [StorageBackend (EStateM PyError β) Bytes] [PyRuntime]
  [Serializer Bytes] [Inhabited Bytes]

def decodePrefetchObject (item : PrefetchObjectProto Bytes) :
    Except PyError (Option Prefetched) :=
  match item.payload with
  | some (.kvCache response) =>
      return some (.kvBlock (← protoToKvBlock response.block, ← bytesToNdarray response.keyStates,
        ← bytesToNdarray response.valueStates))
  | some (.rag response) =>
      return some (.ragObject (← protoToRagObject response.object,
        ← bytesToNdarray response.embedding))
  | some (.semantic response) =>
      return some (.semanticEntry (← protoToSemanticEntry response.entry,
        ← bytesToNdarray response.promptEmbedding))
  | none => return none

/-- One row of the dict the objects are collected in. -/
def decodeRow (results : Dict String (Option Prefetched)) (item : PrefetchObjectProto Bytes) :
    Except PyError (Dict String (Option Prefetched)) := do
  return results.set item.objectId (← decodePrefetchObject item)

def prefetchBatch [Grpc Bytes] (decisions : List PrefetchDecision) (clock : String → Rat) :
    RemoteM β η (Dict String (Option Prefetched)) := do
  let response ← rpc Bytes .prefetchBatch (L3ServiceImpl.prefetchBatch · clock)
    { decisions := decisions.map prefetchDecisionToProto }
  atClient (response.objects.foldlM decodeRow .empty)

end L3Client

/-! ## One object -/

namespace Prefetched

/-- There is a message, and the integers fit its fields. -/
def Fits : Prefetched → Prop
  | .kvBlock found => found.1.Fits
  | .ragObject found => found.1.Fits
  | .semanticEntry found => found.1.Fits
  | .toolArtifact _ | .planEntry _ => False

/-- What comes back. -/
def carried : Prefetched → Prefetched
  | .kvBlock (block, arrays) => .kvBlock (block.carried, arrays)
  | .ragObject (obj, embedding) => .ragObject (obj.carried, embedding)
  | .semanticEntry (entry, embedding) => .semanticEntry (entry.carried, embedding)
  | .toolArtifact artifact => .toolArtifact artifact
  | .planEntry found => .planEntry found

/-- Nothing is set that its message has no field for. -/
def Lossless : Prefetched → Prop
  | .kvBlock found => found.1.Lossless
  | .ragObject found => found.1.objMeta.Bare
  | .semanticEntry found => found.1.objMeta.Bare
  | .toolArtifact _ | .planEntry _ => True

theorem carried_eq_self_iff (found : Prefetched) : found.carried = found ↔ found.Lossless := by
  cases found with
  | kvBlock found =>
      rw [Lossless, ← KVCacheBlock.carried_eq_self_iff]
      exact ⟨fun same => congrArg Prod.fst (Prefetched.kvBlock.inj same), fun same =>
        congrArg Prefetched.kvBlock (Prod.ext same rfl)⟩
  | ragObject found =>
      rw [Lossless, ← RAGObject.carried_eq_self_iff]
      exact ⟨fun same => congrArg Prod.fst (Prefetched.ragObject.inj same), fun same =>
        congrArg Prefetched.ragObject (Prod.ext same rfl)⟩
  | semanticEntry found =>
      rw [Lossless, ← SemanticCacheEntry.carried_eq_self_iff]
      exact ⟨fun same => congrArg Prod.fst (Prefetched.semanticEntry.inj same), fun same =>
        congrArg Prefetched.semanticEntry (Prod.ext same rfl)⟩
  | toolArtifact | planEntry => exact ⟨fun _ => trivial, fun _ => rfl⟩

end Prefetched

/-- The prefetch types the servicer has an answer for. -/
def Sendable (prefetchType : String) : Prop :=
  prefetchType = "kv_cache" ∨ prefetchType = "rag" ∨ prefetchType = "semantic"

instance (prefetchType : String) : Decidable (Sendable prefetchType) :=
  inferInstanceAs (Decidable (_ ∨ _ ∨ _))

namespace L3ServiceImpl

variable {Bytes : Type} [Serializer Bytes] [Inhabited Bytes] {decision : PrefetchDecision}
  {result : Prefetched}

/-- A decision of another type has no answer. -/
theorem prefetchObjectResponse_unsendable (other : ¬ Sendable decision.prefetchType) :
    (prefetchObjectResponse decision result : Except PyError (Option (PrefetchObjectProto Bytes))) =
      .ok none := by
  unfold prefetchObjectResponse
  split
  · next kv => exact absurd (Or.inl kv) other
  · next rag => exact absurd (Or.inr (Or.inl rag)) other
  · next semantic => exact absurd (Or.inr (Or.inr semantic)) other
  · rfl

omit [Serializer Bytes] [Inhabited Bytes] in
private theorem lacksField_raises {α : Type} {objMeta : ObjectMeta} {model field : String} {a : α} :
    lacksField objMeta model field ≠ .ok a := by
  intro done
  obtain ⟨_, -, raised⟩ := bind_eq_ok.mp done
  cases raised

theorem asKvBlock_ok {found : KVCacheBlock × NdArray × NdArray}
    (unpacked : asKvBlock result = .ok found) : result = .kvBlock found := by
  cases result <;> cases unpacked
  rfl

theorem asRagObject_ok {found : RAGObject × NdArray} (unpacked : asRagObject result = .ok found) :
    result = .ragObject found := by
  cases result with
  | ragObject =>
      cases unpacked
      rfl
  | semanticEntry | planEntry => exact absurd unpacked lacksField_raises
  | kvBlock | toolArtifact => cases unpacked

theorem asSemanticEntry_ok {found : SemanticCacheEntry × NdArray}
    (unpacked : asSemanticEntry result = .ok found) : result = .semanticEntry found := by
  cases result with
  | semanticEntry =>
      cases unpacked
      rfl
  | ragObject | planEntry => exact absurd unpacked lacksField_raises
  | kvBlock | toolArtifact => cases unpacked

/-- An answer is of the type the object was loaded under, and comes back as its message
    carries it. -/
theorem prefetchObjectResponse_some [LawfulSerializer Bytes] {item : PrefetchObjectProto Bytes}
    (done : prefetchObjectResponse decision result = .ok (some item)) :
    decision.prefetchType = result.prefetchType ∧ result.Fits ∧
      item.objectId = decision.objectId ∧
      L3Client.decodePrefetchObject item = .ok (some result.carried) := by
  unfold prefetchObjectResponse at done
  split at done
  · next kv =>
      obtain ⟨⟨block, keyStates, valueStates⟩, unpacked, done⟩ := bind_eq_ok.mp done
      obtain ⟨response, sending, done⟩ := bind_eq_ok.mp done
      obtain ⟨proto, sent, built⟩ := bind_eq_ok.mp sending
      cases done
      cases built
      have fits := kvBlockToProto_fits sent
      have read := protoToKvBlock_sent sent
      rw [asKvBlock_ok unpacked]
      refine ⟨kv, fits, rfl, ?_⟩
      simp only [L3Client.decodePrefetchObject, read, bytesToNdarray_ndarrayToBytes]
      rfl
  · next rag =>
      obtain ⟨⟨obj, embedding⟩, unpacked, done⟩ := bind_eq_ok.mp done
      obtain ⟨response, sending, done⟩ := bind_eq_ok.mp done
      obtain ⟨proto, sent, built⟩ := bind_eq_ok.mp sending
      cases done
      cases built
      have fits := ragObjectToProto_fits sent
      have read := protoToRagObject_sent sent
      rw [asRagObject_ok unpacked]
      refine ⟨rag, fits, rfl, ?_⟩
      simp only [L3Client.decodePrefetchObject, read, bytesToNdarray_ndarrayToBytes]
      rfl
  · next semantic =>
      obtain ⟨⟨entry, embedding⟩, unpacked, done⟩ := bind_eq_ok.mp done
      obtain ⟨response, sending, done⟩ := bind_eq_ok.mp done
      obtain ⟨proto, sent, built⟩ := bind_eq_ok.mp sending
      cases done
      cases built
      have fits := semanticEntryToProto_fits sent
      have read := protoToSemanticEntry_sent sent
      rw [asSemanticEntry_ok unpacked]
      refine ⟨semantic, fits, rfl, ?_⟩
      simp only [L3Client.decodePrefetchObject, read, bytesToNdarray_ndarrayToBytes]
      rfl
  · cases done

/-- A decision whose type has a message is answered or raises. -/
theorem prefetchObjectResponse_sendable (sendable : Sendable decision.prefetchType) :
    (prefetchObjectResponse decision result : Except PyError (Option (PrefetchObjectProto Bytes))) ≠
      .ok none := by
  intro done
  unfold prefetchObjectResponse at done
  split at done
  · obtain ⟨⟨_, _⟩, _, done⟩ := bind_eq_ok.mp done
    obtain ⟨_, _, done⟩ := bind_eq_ok.mp done
    cases done
  · obtain ⟨⟨_, _⟩, _, done⟩ := bind_eq_ok.mp done
    obtain ⟨_, _, done⟩ := bind_eq_ok.mp done
    cases done
  · obtain ⟨⟨_, _⟩, _, done⟩ := bind_eq_ok.mp done
    obtain ⟨_, _, done⟩ := bind_eq_ok.mp done
    cases done
  · next kv rag semantic =>
      rcases sendable with same | same | same
      · exact kv same
      · exact rag same
      · exact semantic same

/-- An object that fits is sent to a decision of its type. -/
theorem prefetchObjectResponse_fits (same : decision.prefetchType = result.prefetchType)
    (fits : result.Fits) : ∃ item : PrefetchObjectProto Bytes,
      prefetchObjectResponse decision result = .ok (some item) := by
  unfold prefetchObjectResponse
  rw [same]
  cases result with
  | kvBlock found =>
      obtain ⟨proto, sent, -⟩ := protoToKvBlock_kvBlockToProto fits
      exact ⟨_, bind_eq_ok.mpr ⟨found, rfl, bind_eq_ok.mpr
        ⟨_, bind_eq_ok.mpr ⟨proto, sent, rfl⟩, rfl⟩⟩⟩
  | ragObject found =>
      obtain ⟨proto, sent, -⟩ := protoToRagObject_ragObjectToProto fits
      exact ⟨_, bind_eq_ok.mpr ⟨found, rfl, bind_eq_ok.mpr
        ⟨_, bind_eq_ok.mpr ⟨proto, sent, rfl⟩, rfl⟩⟩⟩
  | semanticEntry found =>
      obtain ⟨proto, sent, -⟩ := protoToSemanticEntry_semanticEntryToProto fits
      exact ⟨_, bind_eq_ok.mpr ⟨found, rfl, bind_eq_ok.mpr
        ⟨_, bind_eq_ok.mpr ⟨proto, sent, rfl⟩, rfl⟩⟩⟩
  | toolArtifact | planEntry => exact absurd fits id

/-! ## The loops -/

variable (Bytes) in
/-- What the decisions are answered with, of what was loaded for each id. -/
def answers (loaded : String → Option Prefetched) (decisions : List PrefetchDecision) :
    List (PrefetchObjectProto Bytes) :=
  decisions.filterMap fun decision => (loaded decision.objectId).bind fun result =>
    (prefetchObjectResponse decision result).toOption.join

theorem prefetchObjects_answers {prefetched : Dict String Prefetched}
    {decisions : List PrefetchDecision} {objects : List (PrefetchObjectProto Bytes)}
    (done : prefetchObjects prefetched decisions = .ok objects) :
    objects = answers Bytes prefetched.get? decisions := by
  induction decisions generalizing objects with
  | nil =>
      cases done
      rfl
  | cons first rest ih =>
      rw [prefetchObjects] at done
      cases found : prefetched.get? first.objectId with
      | none =>
          rw [found] at done
          rw [ih done, answers, answers, List.filterMap_cons, found]
          rfl
      | some loaded =>
          rw [found] at done
          obtain ⟨answer, answered, done⟩ := bind_eq_ok.mp done
          obtain ⟨later, more, same⟩ := bind_eq_ok.mp done
          cases same
          rw [ih more, answers, answers, List.filterMap_cons, found, Option.bind_some, answered]
          cases answer <;> rfl

/-- The objects sent are the answers to the decisions whose id was loaded. -/
theorem prefetchObjects_ok {prefetched : Dict String Prefetched}
    {decisions : List PrefetchDecision} {objects : List (PrefetchObjectProto Bytes)}
    (done : prefetchObjects prefetched decisions = .ok objects) :
    (∀ item ∈ objects, ∃ decision ∈ decisions, ∃ result,
      prefetched.get? decision.objectId = some result ∧
      prefetchObjectResponse decision result = .ok (some item)) ∧
    ∀ decision ∈ decisions, ∀ result, prefetched.get? decision.objectId = some result →
      ∃ answer, prefetchObjectResponse decision result = .ok answer ∧
        ∀ item, answer = some item → item ∈ objects := by
  induction decisions generalizing objects with
  | nil =>
      cases done
      exact ⟨fun _ member => absurd member List.not_mem_nil,
        fun _ member => absurd member List.not_mem_nil⟩
  | cons first rest ih =>
      rw [prefetchObjects] at done
      cases found : prefetched.get? first.objectId with
      | none =>
          rw [found] at done
          obtain ⟨sound, complete⟩ := ih done
          constructor
          · intro item member
            obtain ⟨decision, later, rest⟩ := sound item member
            exact ⟨decision, List.mem_cons_of_mem _ later, rest⟩
          · intro decision member result present
            rcases List.mem_cons.mp member with rfl | later
            · rw [found] at present
              cases present
            · exact complete decision later result present
      | some loaded =>
          rw [found] at done
          obtain ⟨answer, answered, done⟩ := bind_eq_ok.mp done
          obtain ⟨objects', later, done⟩ := bind_eq_ok.mp done
          cases done
          obtain ⟨sound, complete⟩ := ih later
          constructor
          · intro item member
            rcases List.mem_append.mp member with here | member
            · refine ⟨first, List.mem_cons_self, loaded, found, ?_⟩
              rw [answered, Option.mem_toList.mp here]
            · obtain ⟨decision, later, rest⟩ := sound item member
              exact ⟨decision, List.mem_cons_of_mem _ later, rest⟩
          · intro decision member result present
            rcases List.mem_cons.mp member with rfl | later
            · rw [found] at present
              cases present
              refine ⟨answer, answered, fun item same => List.mem_append_left _ ?_⟩
              rw [same]
              exact Option.mem_toList.mpr rfl
            · obtain ⟨answer, answered, sent⟩ := complete decision later result present
              exact ⟨answer, answered, fun item same => List.mem_append_right _ (sent item same)⟩

/-- The loop returns if every decision whose id was loaded is answered. -/
theorem prefetchObjects_returns {prefetched : Dict String Prefetched}
    {decisions : List PrefetchDecision}
    (answered : ∀ decision ∈ decisions, ∀ result,
      prefetched.get? decision.objectId = some result →
        ∃ answer : Option (PrefetchObjectProto Bytes),
          prefetchObjectResponse decision result = .ok answer) :
    ∃ objects : List (PrefetchObjectProto Bytes),
      prefetchObjects prefetched decisions = .ok objects := by
  induction decisions with
  | nil => exact ⟨[], rfl⟩
  | cons first rest ih =>
      obtain ⟨objects, done⟩ := ih fun decision later =>
        answered decision (List.mem_cons_of_mem _ later)
      rw [prefetchObjects]
      cases found : prefetched.get? first.objectId with
      | none => exact ⟨objects, done⟩
      | some loaded =>
          obtain ⟨answer, sent⟩ := answered first List.mem_cons_self loaded found
          exact ⟨_, bind_eq_ok.mpr ⟨answer, sent, bind_eq_ok.mpr ⟨objects, done, rfl⟩⟩⟩

end L3ServiceImpl

namespace L3Client

variable {Bytes : Type} [Serializer Bytes] [Inhabited Bytes]

/-- When objects of one id decode to one value, the dict maps the ids to these values. -/
theorem decodeRows_ok (values : String → Option Prefetched)
    {objects : List (PrefetchObjectProto Bytes)}
    (decodes : ∀ item ∈ objects, decodePrefetchObject item = .ok (values item.objectId))
    (start : Dict String (Option Prefetched)) :
    ∃ answer, objects.foldlM decodeRow start = .ok answer ∧
      (∀ item ∈ objects, answer.get? item.objectId = some (values item.objectId)) ∧
      ∀ objectId, (∀ item ∈ objects, item.objectId ≠ objectId) →
        answer.get? objectId = start.get? objectId := by
  induction objects generalizing start with
  | nil =>
      exact ⟨start, rfl, fun _ member => absurd member List.not_mem_nil, fun _ _ => rfl⟩
  | cons first rest ih =>
      obtain ⟨answer, done, inside, outside⟩ :=
        ih (fun item later => decodes item (List.mem_cons_of_mem _ later))
          (start.set first.objectId (values first.objectId))
      refine ⟨answer, ?_, ?_, ?_⟩
      · rw [List.foldlM_cons]
        refine bind_eq_ok.mpr ⟨_, bind_eq_ok.mpr
          ⟨_, decodes first List.mem_cons_self, rfl⟩, done⟩
      · intro item member
        rcases List.mem_cons.mp member with rfl | later
        · by_cases again : ∃ other ∈ rest, other.objectId = item.objectId
          · obtain ⟨other, later, same⟩ := again
            rw [← same]
            exact inside other later
          · rw [outside _ fun other later same => again ⟨other, later, same⟩, Dict.get?_set,
              if_pos rfl]
        · exact inside item later
      · intro objectId others
        rw [outside objectId fun item later => others item (List.mem_cons_of_mem _ later),
          Dict.get?_set, if_neg (others first List.mem_cons_self)]

/-! ## Both batches -/

variable {η : Type} [PyRuntime]

section

variable [Grpc Bytes]

/-- The client maps the ids the store maps, each to the object the store loaded. -/
def PrefetchAgrees (self : UnifiedObjectStore (MemoryBackend Bytes) η)
    (decisions : List PrefetchDecision) (clock : String → Rat) : Prop :=
  ∃ results answer,
    EStateResult.outcome (UnifiedObjectStore.prefetchBatch decisions clock self) = .ok results ∧
    EStateResult.outcome (prefetchBatch decisions clock self) = .ok answer ∧
    ∀ objectId, answer.get? objectId = (results.get? objectId).map some

/-- The request and its answer are no longer than what is received. -/
structure BatchWithinLimit (store : UnifiedObjectStore (MemoryBackend Bytes) η)
    (decisions : List PrefetchDecision) (clock : String → Rat) : Prop where
  request : Receivable Bytes .prefetchBatch .request ⟨decisions.map prefetchDecisionToProto⟩
  response : Receivable Bytes .prefetchBatch .response ⟨L3ServiceImpl.answers Bytes
    (fun objectId => (store.loaded decisions clock objectId).toOption.join) decisions⟩

/-- The client's batch returns when both messages are received, and the servicer answers every
    decision on what the store's batch returns. -/
theorem prefetchBatch_eq_ok_iff [LawfulGrpc Bytes] {decisions : List PrefetchDecision}
    {clock : String → Rat} {self after : UnifiedObjectStore (MemoryBackend Bytes) η}
    {answer : Dict String (Option Prefetched)} :
    prefetchBatch decisions clock self = .ok answer after ↔
      Receivable Bytes .prefetchBatch .request ⟨decisions.map prefetchDecisionToProto⟩ ∧
        ∃ results, UnifiedObjectStore.prefetchBatch decisions clock self = .ok results after ∧
          ∃ objects, L3ServiceImpl.prefetchObjects results decisions = .ok objects ∧
            Receivable Bytes .prefetchBatch .response ⟨objects⟩ ∧
              objects.foldlM decodeRow .empty = .ok answer := by
  have same : (decisions.map prefetchDecisionToProto).map protoToPrefetchDecision = decisions := by
    rw [List.map_map]
    exact List.map_id'' protoToPrefetchDecision_prefetchDecisionToProto decisions
  constructor
  · intro returned
    obtain ⟨response, _, called, decoding⟩ := bind_run_ok.mp returned
    obtain ⟨decoded, rfl⟩ := atClient_eq_ok.mp decoding
    obtain ⟨out, served, back⟩ := rpc_eq_ok.mp called
    obtain ⟨results, m, loaded, answering⟩ := bind_run_ok.mp served
    obtain ⟨objects, _, sending, built⟩ := bind_run_ok.mp answering
    obtain ⟨sent, rfl⟩ := raising_eq_ok.mp sending
    cases built
    rw [same] at loaded sent
    exact ⟨out, results, loaded, objects, sent, back, decoded⟩
  · rintro ⟨out, results, loaded, objects, sent, back, decoded⟩
    refine bind_run_ok.mpr ⟨⟨objects⟩, after, rpc_eq_ok.mpr ⟨out, ?_, back⟩,
      atClient_eq_ok.mpr ⟨decoded, rfl⟩⟩
    refine bind_run_ok.mpr ⟨results, after, ?_, bind_run_ok.mpr ⟨objects, after,
      raising_eq_ok.mpr ⟨?_, rfl⟩, rfl⟩⟩
    · rw [same, loaded]
    · rw [same, sent]

end

/-- Loading each id under the type it is first named with raises nothing, and what is loaded
    survives the wire, with no other type asked for that the servicer has an answer for. -/
def Prefetchable (self : UnifiedObjectStore (MemoryBackend Bytes) η)
    (decisions : List PrefetchDecision) (clock : String → Rat) : Prop :=
  ∀ objectId, ∃ found, self.loaded decisions clock objectId = .ok found ∧
    ∀ result, found = some result → result.Fits ∧ result.Lossless ∧
      ∀ decision ∈ decisions, decision.objectId = objectId → Sendable decision.prefetchType →
        decision.prefetchType = result.prefetchType

omit [Inhabited Bytes] in
/-- What was loaded for an id was asked for by a decision of its type. -/
theorem loaded_decision {self : UnifiedObjectStore (MemoryBackend Bytes) η}
    {decisions : List PrefetchDecision} {clock : String → Rat} {objectId : String}
    {result : Prefetched} (loaded : self.loaded decisions clock objectId = .ok (some result)) :
    ∃ decision ∈ decisions, decision.objectId = objectId ∧
      decision.prefetchType = result.prefetchType := by
  unfold UnifiedObjectStore.loaded at loaded
  split at loaded
  · cases loaded
  · split at loaded
    · cases loaded
    · next prefetchType first =>
        obtain ⟨decision, found, rfl⟩ := Option.map_eq_some_iff.mp first
        refine ⟨decision, List.mem_of_find?_eq_some found, ?_, ?_⟩
        · simpa using List.find?_some found
        · exact (UnifiedObjectStore.answers_type loaded).symm

section

variable {self : UnifiedObjectStore (MemoryBackend Bytes) η} {decisions : List PrefetchDecision}
  {clock : String → Rat} {results : Dict String Prefetched}

/-- The servicer answers every decision on what is prefetchable. -/
theorem Prefetchable.returns (prefetchable : Prefetchable self decisions clock)
    (loads : ∀ objectId, self.loaded decisions clock objectId = .ok (results.get? objectId)) :
    ∃ objects : List (PrefetchObjectProto Bytes),
      L3ServiceImpl.prefetchObjects results decisions = .ok objects := by
  refine L3ServiceImpl.prefetchObjects_returns fun decision member result present => ?_
  obtain ⟨found, loaded, survives⟩ := prefetchable decision.objectId
  rw [loads, present] at loaded
  cases loaded
  obtain ⟨fits, -, types⟩ := survives result rfl
  by_cases sendable : Sendable decision.prefetchType
  · obtain ⟨item, sent⟩ : ∃ item : PrefetchObjectProto Bytes,
        L3ServiceImpl.prefetchObjectResponse decision result = .ok (some item) :=
      L3ServiceImpl.prefetchObjectResponse_fits (types decision member rfl sendable) fits
    exact ⟨some item, sent⟩
  · exact ⟨none, L3ServiceImpl.prefetchObjectResponse_unsendable sendable⟩

/-- Once the servicer has answered, the client's dict is the store's exactly when all that
    was loaded is prefetchable. -/
theorem decoded_agrees_iff [LawfulSerializer Bytes]
    (loads : ∀ objectId, self.loaded decisions clock objectId = .ok (results.get? objectId))
    {objects : List (PrefetchObjectProto Bytes)}
    (sent : L3ServiceImpl.prefetchObjects results decisions = .ok objects) :
    ∃ answer, objects.foldlM decodeRow .empty = .ok answer ∧
      ((∀ objectId, answer.get? objectId = (results.get? objectId).map some) ↔
        Prefetchable self decisions clock) := by
  obtain ⟨sound, complete⟩ := L3ServiceImpl.prefetchObjects_ok sent
  let values objectId := (results.get? objectId).map Prefetched.carried
  have valued {objectId : String} {result : Prefetched}
      (present : results.get? objectId = some result) : values objectId = some result.carried := by
    simp only [values, present, Option.map_some]
  have decodes : ∀ item ∈ objects, decodePrefetchObject item = .ok (values item.objectId) := by
    intro item member
    obtain ⟨decision, -, result, present, answered⟩ := sound item member
    obtain ⟨-, -, sameId, decoded⟩ := L3ServiceImpl.prefetchObjectResponse_some answered
    rw [decoded, sameId, valued present]
  obtain ⟨answer, folded, inside, outside⟩ := decodeRows_ok values decodes .empty
  refine ⟨answer, folded, ?_⟩
  constructor
  · intro agrees objectId
    refine ⟨results.get? objectId, loads objectId, fun result present => ?_⟩
    obtain ⟨item, member, here⟩ : ∃ item ∈ objects, item.objectId = objectId := by
      by_contra absent
      have nothing := outside objectId fun item member here => absent ⟨item, member, here⟩
      rw [agrees, present, Dict.get?_empty] at nothing
      cases nothing
    have row := inside item member
    rw [here, agrees, present, valued present] at row
    obtain ⟨decision, -, result', present', answered⟩ := sound item member
    obtain ⟨-, fits, sameId, -⟩ := L3ServiceImpl.prefetchObjectResponse_some answered
    rw [← sameId, here, present] at present'
    cases present'
    refine ⟨fits, result.carried_eq_self_iff.mp ?_, fun decision member same sendable => ?_⟩
    · exact (Option.some.inj (Option.some.inj row)).symm
    · rw [← same] at present
      obtain ⟨answer', answered', -⟩ := complete decision member result present
      cases answer' with
      | none => exact absurd answered' (L3ServiceImpl.prefetchObjectResponse_sendable sendable)
      | some item => exact (L3ServiceImpl.prefetchObjectResponse_some answered').1
  · intro prefetchable objectId
    cases present : results.get? objectId with
    | none =>
        refine outside objectId fun item member here => ?_
        obtain ⟨decision, -, result, present', answered⟩ := sound item member
        obtain ⟨-, -, sameId, -⟩ := L3ServiceImpl.prefetchObjectResponse_some answered
        rw [← sameId, here, present] at present'
        cases present'
    | some result =>
        obtain ⟨found, loaded, survives⟩ := prefetchable objectId
        rw [loads, present] at loaded
        cases loaded
        obtain ⟨fits, lossless, -⟩ := survives result rfl
        obtain ⟨decision, member, same, type⟩ :=
          loaded_decision ((loads objectId).trans (congrArg Except.ok present))
        subst same
        obtain ⟨item, answered⟩ : ∃ item : PrefetchObjectProto Bytes,
            L3ServiceImpl.prefetchObjectResponse decision result = .ok (some item) :=
          L3ServiceImpl.prefetchObjectResponse_fits type fits
        obtain ⟨answer', answered', member⟩ := complete decision member result present
        rw [answered] at answered'
        have row := inside item (member item (Except.ok.inj answered').symm)
        obtain ⟨-, -, sameId, -⟩ := L3ServiceImpl.prefetchObjectResponse_some answered
        rw [sameId, valued present, result.carried_eq_self_iff.mpr lossless] at row
        exact row

end

end L3Client

open L3Client L3ServiceImpl in
/-- Prefetching through the client maps the ids the store's own batch maps, to equal
    objects, exactly when every id that is loaded is loaded under a type with a message,
    survives the wire, and is named with no other such type, and neither message is too long
    to be received. -/
theorem remote_prefetch_agrees_iff {η Bytes : Type} [PyRuntime] [Serializer Bytes]
    [LawfulSerializer Bytes] [Inhabited Bytes] [Grpc Bytes] [LawfulGrpc Bytes]
    (self : UnifiedObjectStore (MemoryBackend Bytes) η) (decisions : List PrefetchDecision)
    (clock : String → Rat) :
    PrefetchAgrees self decisions clock ↔
      Prefetchable self decisions clock ∧ BatchWithinLimit self decisions clock := by
  rcases self.prefetchBatch_run decisions clock with ⟨results, run, loads⟩ | ⟨e, raised, id, error⟩
  · have loaded : (fun objectId => (self.loaded decisions clock objectId).toOption.join) =
        results.get? := by
      funext objectId
      rw [loads]
      rfl
    constructor
    · rintro ⟨_, answer, local', remote, agree⟩
      rw [run] at local'
      cases local'
      obtain ⟨s, returned⟩ := EStateResult.outcome_eq_ok.mp remote
      obtain ⟨request, _, run', objects, sent, response, decoded⟩ :=
        prefetchBatch_eq_ok_iff.mp returned
      cases run.symm.trans run'
      obtain ⟨_, folded, agrees⟩ := decoded_agrees_iff loads sent
      cases decoded.symm.trans folded
      refine ⟨agrees.mp agree, request, ?_⟩
      rw [loaded, ← prefetchObjects_answers sent]
      exact response
    · rintro ⟨prefetchable, within⟩
      obtain ⟨objects, sent⟩ := prefetchable.returns loads
      obtain ⟨answer, folded, agrees⟩ := decoded_agrees_iff loads sent
      have response := within.response
      rw [loaded, ← prefetchObjects_answers sent] at response
      refine ⟨results, answer, by rw [run]; rfl, EStateResult.outcome_eq_ok.mpr ⟨self, ?_⟩,
        agrees.mpr prefetchable⟩
      exact prefetchBatch_eq_ok_iff.mpr
        ⟨within.request, results, run, objects, sent, response, folded⟩
  · constructor
    · rintro ⟨_, _, same, -⟩
      rw [raised] at same
      cases same
    · rintro ⟨prefetchable, -⟩
      obtain ⟨found, loaded, -⟩ := prefetchable id
      rw [error] at loaded
      cases loaded

section

open Reference L3Client

/-- A store that holds the block `a`. -/
private def blockStore : UnifiedObjectStore (MemoryBackend Encoded) FlatIndex :=
  match UnifiedObjectStore.putKvBlock (kvBlock "a" [1, 2]) (array [1]) (array [2]) store with
  | .ok _ store => store
  | .error _ store => store

/-- Prefetching a block twice under its own type agrees. -/
theorem remote_prefetch_agrees_twice :
    PrefetchAgrees blockStore [⟨"a", 1, "kv_cache"⟩, ⟨"a", 1 / 2, "kv_cache"⟩] fun _ => 1 := by
  refine (remote_prefetch_agrees_iff blockStore _ _).mpr
    ⟨fun objectId => ?_, by decide +kernel, by decide +kernel⟩
  by_cases here : objectId = "a"
  · subst here
    refine ⟨some (.kvBlock _), rfl, fun result same => ?_⟩
    obtain rfl := Option.some.inj same
    refine ⟨⟨⟨?_, ?_, ?_⟩, ?_, ?_⟩, ?_, ?_⟩
    · decide
    · decide
    · decide
    · decide
    · decide
    · exact ⟨(ObjectMeta.carried_eq_self_iff _).mp rfl, Option.some_ne_none "" |>.symm⟩
    · intro decision member _ _
      rcases List.mem_pair.mp member with rfl | rfl <;> rfl
  · refine ⟨none, UnifiedObjectStore.loaded_unnamed ?_ _, fun _ absent => by cases absent⟩
    rintro ⟨decision, member, same⟩
    rcases List.mem_pair.mp member with rfl | rfl <;> exact here same.symm

/-- A block that is named a second time as a document makes the servicer raise. -/
theorem repeated_id_raises : ¬ ∀ (decisions : List PrefetchDecision) (clock : String → Rat),
    PrefetchAgrees blockStore decisions clock := by
  intro always
  obtain ⟨_, _, -, same, -⟩ := always [⟨"a", 1, "kv_cache"⟩, ⟨"a", 1, "rag"⟩] fun _ => 1
  have raises : EStateResult.outcome (prefetchBatch [⟨"a", 1, "kv_cache"⟩, ⟨"a", 1, "rag"⟩]
      (fun _ => 1) blockStore) =
        .error (.rpcError (.valueError "too many values to unpack (expected 2)")) := rfl
  rw [same] at raises
  cases raises

end

end IntelliL3
