import IntelliL3.Core.Listing

/-! # The objects of one type

A store seen through one type: the live objects it holds, each put, get, delete
and listing of the type as an operation on them, and what calls on the other
types leave alone. Only the semantic index can refuse a call, so for the other
types none of these operations raises.
-/

namespace IntelliL3

open Lib

/-- Only the semantic index refuses an object. -/
theorem Payload.index_quiet [PyRuntime] [Hnswlib η] {X : ObjectType} (payload : Payload X)
    (quiet : X ≠ .semanticCache) (metadata : MetadataStore η) :
    ∃ metadata', payload.index metadata = .ok () metadata' := by
  cases X with
  | semanticCache => exact absurd rfl quiet
  | kvCache | rag | agentWorkflow | agentStep | toolCallArtifact | planCache | workflowTrace =>
      exact ⟨_, rfl⟩

theorem MetadataStore.onObjectRemoved_quiet [Hnswlib η] {X : ObjectType}
    (quiet : X ≠ .semanticCache) (metadata : MetadataStore η) (objectId : String) :
    ∃ metadata', onObjectRemoved X objectId metadata = .ok () metadata' := by
  by_cases kv : X = .kvCache
  · subst kv
    exact ⟨_, onObjectRemoved_kv metadata objectId⟩
  · exact ⟨_, onObjectRemoved_other kv quiet metadata objectId⟩

namespace UnifiedObjectStore

variable {η Bytes : Type} [PyRuntime] [Serializer Bytes]

/-- The store holds exactly these live objects of a type, and its filter knows them. -/
structure Has (store : UnifiedObjectStore (MemoryBackend Bytes) η) {X : ObjectType}
    (live : String → Option (Payload X)) : Prop where
  holds : store.backend.HoldsOf store.config live
  keys : store.backend.KeysOf store.config X
  known : ∀ objectId, (live objectId).isSome → store.metadata.mightExist objectId = true

namespace Has

variable {self : UnifiedObjectStore (MemoryBackend Bytes) η} {X Y : ObjectType}
  {live : String → Option (Payload X)}

theorem overEmpty (config : L3Config) (metadata : MetadataStore η) (X : ObjectType) :
    Has (.overEmpty Bytes config metadata) fun _ => (none : Option (Payload X)) :=
  ⟨.empty config X, .empty config X, fun _ live => absurd live Bool.false_ne_true⟩

theorem get [LawfulSerializer Bytes] (has : self.Has live) (objectId : String) (now : Rat) :
    UnifiedObjectStore.get X objectId now self =
      .ok ((live objectId).map (Payload.touch now)) self := by
  rw [get_eq]
  change raising (if _ then (self.backend.read _ _ _).map _ else _) self = _
  rw [has.holds.read]
  cases found : live objectId with
  | none => split <;> rfl
  | some payload =>
      rw [if_pos (has.known objectId (by rw [found]; rfl))]
      rfl

/-- The ids in a listing, when each live id is a name of its own. -/
theorem mem_list (has : self.Has live)
    (plain : ∀ objectId, (live objectId).isSome → objectId ≠ "" ∧ '.' ∉ objectId.toList)
    (objectId : String) :
    objectId ∈ self.backend.listed (self.config.keyPrefix X) ↔ (live objectId).isSome :=
  has.holds.mem_listed_plain has.keys plain objectId

theorem write (has : self.Has live) (payload : Payload X) {metadata : MetadataStore η}
    (bloom : metadata.bloom = self.metadata.bloom.add payload.objectId) :
    Has { self with backend := self.backend.write self.config payload, metadata }
      (Function.update live payload.objectId (some payload)) := by
  refine ⟨has.holds.write payload, has.keys.write payload, fun other found => ?_⟩
  rw [MetadataStore.mightExist, bloom]
  by_cases here : other = payload.objectId
  · rw [here]
    exact BloomFilter.mightContain_add_self _ _
  · rw [Function.update_of_ne here] at found
    exact BloomFilter.mightContain_add _ _ (has.known other found)

theorem wipe (has : self.Has live) (objectId : String) {metadata : MetadataStore η}
    (bloom : metadata.bloom = self.metadata.bloom) :
    Has { self with backend := self.backend.wipe self.config X objectId, metadata }
      (Function.update live objectId none) := by
  refine ⟨has.holds.wipe objectId, has.keys.wipe X objectId, fun other found => ?_⟩
  rw [MetadataStore.mightExist, bloom]
  by_cases here : other = objectId
  · rw [here, Function.update_self] at found
    cases found
  · rw [Function.update_of_ne here] at found
    exact has.known other found

section

variable [Hnswlib η]

theorem put (has : self.Has live) (quiet : X ≠ .semanticCache) {payload stamped : Payload X}
    (stamping : payload.stamp = .ok stamped) :
    ∃ self', UnifiedObjectStore.put payload self = .ok payload.objectId self' ∧
      self'.config = self.config ∧
      self'.Has (Function.update live payload.objectId (some stamped)) := by
  have same := Payload.stamp_objectId stamping
  have bloom := stamped.index_bloom self.metadata
  obtain ⟨metadata, indexing⟩ := stamped.index_quiet quiet self.metadata
  rw [indexing, EStateResult.state_ok] at bloom
  refine ⟨{ self with backend := self.backend.write self.config stamped, metadata }, ?_, rfl, ?_⟩
  · rw [put_eq, stamping]
    simp only [indexing, same]
  · rw [← same]
    exact has.write stamped bloom

theorem delete (has : self.Has live) (quiet : X ≠ .semanticCache) (objectId : String) :
    ∃ self', UnifiedObjectStore.delete X objectId self = .ok (live objectId).isSome self' ∧
      self'.config = self.config ∧ self'.Has (Function.update live objectId none) := by
  have bloom := self.metadata.onObjectRemoved_bloom X objectId
  obtain ⟨metadata, removing⟩ := self.metadata.onObjectRemoved_quiet quiet objectId
  rw [removing, EStateResult.state_ok] at bloom
  have touched := has.holds.touchesKeys objectId
  rw [delete_eq, touched]
  cases found : (live objectId).isSome with
  | true =>
      simp only [removing, if_true]
      exact ⟨_, rfl, rfl, has.wipe objectId bloom⟩
  | false =>
      simp only [Bool.false_eq_true, if_false]
      exact ⟨_, rfl, rfl, has.wipe objectId rfl⟩

end

end Has

end UnifiedObjectStore

end IntelliL3
