import IntelliL3.SemanticCache.CacheManager

/-! # Entries the index refuses

A put writes both keys of an entry and its id into the Bloom filter before the
index looks at the embedding, and nothing takes them back when the index refuses
it. A refused put is without effect only if all of that was there already.
-/

namespace IntelliL3

open Lib

namespace MetadataStore

variable {η : Type} [Hnswlib η] [PyRuntime]

/-- The index raises before hnswlib is handed a vector: the dimension is another,
    no index can be built, it is full, or the embedding is not a row. -/
def Refuses (self : MetadataStore η) (objectId : String) (embedding : NdArray) : Prop :=
  ∃ dim, embedding.lastDim = .ok dim ∧
    ((∃ e, self.hnswFor dim = .error e) ∨
      ∃ idx, self.hnswFor dim = .ok idx ∧ idx.objectToId.contains objectId = false ∧
        (idx.isFull = true ∨ ¬ embedding.IsRow idx.dim))

/-- There is no index yet, and one of this dimension can be built. -/
def CreatesIndex (self : MetadataStore η) (embedding : NdArray) : Prop :=
  self.hnsw = none ∧ ∃ dim : Nat, embedding.lastDim = .ok dim ∧ 0 < dim ∧ 0 < self.expectedItems

/-- A full index, or one of another dimension, raises and stays as it is. -/
private theorem add_refuses {idx : HNSWIndex η} {objectId : String} {embedding : NdArray}
    (unknown : idx.objectToId.contains objectId = false)
    (wrong : idx.isFull = true ∨ ¬ embedding.IsRow idx.dim) :
    ∃ e, HNSWIndex.add objectId embedding idx = .error e idx := by
  cases full : idx.isFull with
  | true => exact ⟨_, HNSWIndex.add_full unknown full embedding⟩
  | false =>
      have notRow : ¬ embedding.IsRow idx.dim :=
        wrong.resolve_left (by rw [full]; exact Bool.false_ne_true)
      cases prepared : idx.prepareEmbedding embedding with
      | ok vector => exact absurd (HNSWIndex.prepareEmbedding_eq_ok.mp prepared).1 notRow
      | error e => exact ⟨e, HNSWIndex.add_badShape unknown full prepared⟩

/-- A refusal leaves the id in the Bloom filter, and an index if it built one. -/
theorem Refuses.raises {self : MetadataStore η} {objectId : String} {embedding : NdArray}
    (refuses : self.Refuses objectId embedding) :
    ∃ e self', onSemanticEntryAdded objectId embedding self = .error e self' ∧
      (self'.hnsw = self.hnsw ↔ ¬ self.CreatesIndex embedding) := by
  obtain ⟨dim, last, ⟨e, absent⟩ | ⟨idx, found, unknown, wrong⟩⟩ := refuses
  · refine ⟨e, self.bloomed objectId, ?_, ?_⟩
    · rw [onSemanticEntryAdded_eq, last]
      simp only [absent]
    · refine ⟨fun _ => ?_, fun _ => rfl⟩
      rintro ⟨none_yet, dim', last', positive, capacity⟩
      rw [last] at last'
      cases last'
      obtain ⟨idx, built⟩ : ∃ idx : HNSWIndex η, HNSWIndex.new dim self.expectedItems = .ok idx :=
        HNSWIndex.new_returns (by omega) capacity
      rw [MetadataStore.hnswFor, none_yet] at absent
      rw [built] at absent
      cases absent
  · obtain ⟨e, raised⟩ := add_refuses unknown wrong
    refine ⟨e, { self.bloomed objectId with hnsw := some idx }, ?_, ?_⟩
    · rw [onSemanticEntryAdded_eq, last]
      simp only [found, raised]
    · rcases hnswFor_eq_ok found with ⟨present, -⟩ | ⟨none_yet, built⟩
      · refine ⟨fun _ creates => ?_, fun _ => present.symm⟩
        rw [creates.1] at present
        cases present
      · obtain ⟨positive, capacity, -, -⟩ := HNSWIndex.new_eq_ok built
        constructor
        · intro same
          rw [none_yet] at same
          cases same
        · intro not
          exact absurd ⟨none_yet, dim, last, by omega, capacity⟩ not

end MetadataStore

namespace MemoryBackend

variable {Bytes : Type} [Serializer Bytes]

/-- A write changes nothing exactly when its bytes are there already. -/
theorem write_eq_self_iff (b : MemoryBackend Bytes) (config : L3Config) {X : ObjectType}
    (payload : Payload X) :
    b.write config payload = b ↔
      b.get (metaKey (config.keyPrefix X) payload.objectId) = some payload.metaBytes ∧
        ∀ ext, X.dataExt = some ext →
          b.get (dataKey (config.keyPrefix X) payload.objectId ext) = payload.dataBytes := by
  constructor
  · intro same
    have noData : ¬ ∃ ext, X.dataExt = some ext ∧
        dataKey (config.keyPrefix X) payload.objectId ext =
          metaKey (config.keyPrefix X) payload.objectId :=
      fun ⟨ext, pair, clash⟩ => metaKey_ne_dataKey pair _ _ _ _ clash.symm
    refine ⟨?_, fun ext pair => ?_⟩
    · rw [← same, get_write, if_neg noData, if_pos rfl]
    · rw [← same, get_write, if_pos ⟨ext, pair, rfl⟩]
  · rintro ⟨metaThere, dataThere⟩
    have putMeta : b.put (metaKey (config.keyPrefix X) payload.objectId) payload.metaBytes = b :=
      congrArg MemoryBackend.mk (b.objects.set_same metaThere)
    unfold write
    cases pair : X.dataExt with
    | none => exact putMeta
    | some ext =>
        cases data : (payload.dataBytes : Option Bytes) with
        | none => exact putMeta
        | some data' =>
            have there := dataThere ext pair
            rw [data] at there
            simp only [putMeta]
            exact congrArg MemoryBackend.mk (b.objects.set_same there)

end MemoryBackend

namespace UnifiedObjectStore

variable {η Bytes : Type} [PyRuntime] [Serializer Bytes] [Hnswlib η]

/-- A put that raised left everything a caller can observe as it was, now and after
    the next start. -/
structure NoEffect (before after : UnifiedObjectStore (MemoryBackend Bytes) η) : Prop where
  backend : after.backend = before.backend
  listing : EStateResult.outcome (listSemanticEntries after) =
    EStateResult.outcome (listSemanticEntries before)
  gets : ∀ objectId now, EStateResult.outcome (getSemanticEntry objectId now after) =
    EStateResult.outcome (getSemanticEntry objectId now before)
  index : after.metadata.hnsw = before.metadata.hnsw
  restart : ∀ (metadata : MetadataStore η) embed now threshold modelName,
    (∃ manager store, SemanticCacheManager.new embed now threshold modelName
      (new before.backend before.config metadata) = .ok manager store) →
    ∃ manager store, SemanticCacheManager.new embed now threshold modelName
      (new after.backend after.config metadata) = .ok manager store

/-- The backend holds the entry byte by byte, there is an index or none can be built,
    and no readable entry becomes known to the Bloom filter through this id. -/
structure WritesNothingNew (store : UnifiedObjectStore (MemoryBackend Bytes) η)
    (entry : SemanticCacheEntry) (embedding : NdArray) : Prop where
  sameEntry : ∀ stamped, entry.stamp embedding = .ok stamped →
    store.backend.get (metaKey (store.config.keyPrefix .semanticCache) entry.objMeta.objectId) =
      some (Serializer.serializeSemanticEntry stamped)
  sameEmbedding : store.backend.get
      (dataKey (store.config.keyPrefix .semanticCache) entry.objMeta.objectId "data.npy") =
    some (Serializer.serializeEmbedding embedding)
  noIndex : ¬ store.metadata.CreatesIndex embedding
  bloom : ∀ id, store.metadata.mightExist id = false →
    (store.metadata.bloomed entry.objMeta.objectId).mightExist id = true →
    store.backend.complete store.config .semanticCache id = false

variable {self : UnifiedObjectStore (MemoryBackend Bytes) η} {entry : SemanticCacheEntry}
  {embedding : NdArray}

/-- What a refused put has done: its entry is written and its id in the Bloom filter. -/
structure LeavesEntry (before after : UnifiedObjectStore (MemoryBackend Bytes) η)
    (entry : SemanticCacheEntry) (embedding : NdArray) (stamped : SemanticCacheEntry) : Prop where
  stamping : entry.stamp embedding = .ok stamped
  config : after.config = before.config
  backend : after.backend =
    before.backend.write before.config (X := .semanticCache) (stamped, embedding)
  bloom : after.metadata.bloom = before.metadata.bloom.add entry.objMeta.objectId
  index : after.metadata.hnsw = before.metadata.hnsw ↔ ¬ before.metadata.CreatesIndex embedding

theorem refused_put (refuses : self.metadata.Refuses entry.objMeta.objectId embedding) :
    ∃ stamped e self', putSemanticEntry entry embedding self = .error e self' ∧
      LeavesEntry self self' entry embedding stamped := by
  obtain ⟨e, metadata, raised, index⟩ := refuses.raises
  obtain ⟨dim, last, -⟩ := refuses
  obtain ⟨stamped, stamping⟩ : ∃ stamped, entry.stamp embedding = .ok stamped :=
    ⟨_, bind_eq_ok.mpr ⟨dim, last, rfl⟩⟩
  have bloom := self.metadata.onSemanticEntryAdded_bloom entry.objMeta.objectId embedding
  rw [raised, EStateResult.state_error] at bloom
  refine ⟨stamped, e, { self with
    backend := self.backend.write self.config (X := .semanticCache) (stamped, embedding)
    metadata }, ?_, stamping, rfl, rfl, bloom, index⟩
  rw [putSemanticEntry_eq, stamping]
  simp only [raised]

namespace LeavesEntry

variable {self' : UnifiedObjectStore (MemoryBackend Bytes) η} {stamped : SemanticCacheEntry}

omit [Hnswlib η] in
theorem mightExist_eq (leaves : LeavesEntry self self' entry embedding stamped) (id : String) :
    self'.metadata.mightExist id =
      (self.metadata.bloomed entry.objMeta.objectId).mightExist id := by
  rw [MetadataStore.mightExist, leaves.bloom]
  rfl

omit [Hnswlib η] in
theorem sameBackend_iff (leaves : LeavesEntry self self' entry embedding stamped) :
    self'.backend = self.backend ↔
      self.backend.get (metaKey (self.config.keyPrefix .semanticCache) entry.objMeta.objectId) =
          some (Serializer.serializeSemanticEntry stamped) ∧
        self.backend.get
            (dataKey (self.config.keyPrefix .semanticCache) entry.objMeta.objectId "data.npy") =
          some (Serializer.serializeEmbedding embedding) := by
  have written := self.backend.write_eq_self_iff self.config (X := .semanticCache)
    (stamped, embedding)
  rw [← leaves.backend] at written
  change _ ↔ self.backend.get (metaKey _ stamped.objMeta.objectId) = _ ∧
    ∀ ext, _ → self.backend.get (dataKey _ stamped.objMeta.objectId ext) = _ at written
  rw [SemanticCacheEntry.stamp_objectId leaves.stamping] at written
  rw [written]
  constructor
  · rintro ⟨metaThere, dataThere⟩
    exact ⟨metaThere, dataThere _ rfl⟩
  · rintro ⟨metaThere, dataThere⟩
    refine ⟨metaThere, ?_⟩
    rintro _ ⟨⟩
    exact dataThere

omit [Hnswlib η] in
/-- Over the same keys, only an id that the filter learns may be answered anew. -/
theorem sameGets_iff (leaves : LeavesEntry self self' entry embedding stamped)
    (same : self'.backend = self.backend) :
    (∀ objectId now, EStateResult.outcome (getSemanticEntry objectId now self') =
      EStateResult.outcome (getSemanticEntry objectId now self)) ↔
    ∀ id, self.metadata.mightExist id = false →
      (self.metadata.bloomed entry.objMeta.objectId).mightExist id = true →
      self.backend.complete self.config .semanticCache id = false := by
  have left : ∀ id now, EStateResult.outcome (getSemanticEntry id now self') =
      if (self.metadata.bloomed entry.objMeta.objectId).mightExist id then
        (self.backend.read self.config .semanticCache id).map (Option.map (Payload.touch now))
      else .ok none := by
    intro id now
    have answer := self'.outcome_get .semanticCache id now
    rw [leaves.mightExist_eq, leaves.config] at answer
    rw [← same]
    exact answer
  have right : ∀ id now, EStateResult.outcome (getSemanticEntry id now self) =
      if self.metadata.mightExist id then
        (self.backend.read self.config .semanticCache id).map (Option.map (Payload.touch now))
      else .ok none := fun id now => self.outcome_get .semanticCache id now
  constructor
  · intro quiet id before after
    have answer := quiet id 0
    rw [left, right, if_pos after, if_neg (by rw [before]; exact Bool.false_ne_true)] at answer
    exact (MemoryBackend.read_none_iff _ _ _ _).mp ((Payload.map_touch_none_iff _ _).mp answer)
  · intro absent id now
    rw [left, right]
    cases before : self.metadata.mightExist id with
    | true => rw [self.metadata.mightExist_bloomed _ before]
    | false =>
        cases after : (self.metadata.bloomed entry.objMeta.objectId).mightExist id with
        | false => rfl
        | true =>
            rw [(MemoryBackend.read_none_iff _ _ _ _).mpr (absent id before after)]
            rfl

end LeavesEntry

end UnifiedObjectStore

open UnifiedObjectStore

section

variable {η Bytes : Type} [PyRuntime] [Serializer Bytes] [Hnswlib η]

/-- A put the index refuses raises, and is without effect exactly when it writes
    nothing new. -/
theorem refused_put_no_effect_iff (self : UnifiedObjectStore (MemoryBackend Bytes) η)
    (entry : SemanticCacheEntry) (embedding : NdArray)
    (refuses : self.metadata.Refuses entry.objMeta.objectId embedding) :
    ∃ e self', putSemanticEntry entry embedding self = .error e self' ∧
      (NoEffect self self' ↔ WritesNothingNew self entry embedding) := by
  obtain ⟨stamped, e, self', raised, leaves⟩ := refused_put refuses
  refine ⟨e, self', raised, ?_⟩
  constructor
  · intro quiet
    obtain ⟨metaThere, dataThere⟩ := leaves.sameBackend_iff.mp quiet.backend
    refine ⟨fun stamped' stamping' => ?_, dataThere, leaves.index.mp quiet.index,
      (leaves.sameGets_iff quiet.backend).mp quiet.gets⟩
    rw [leaves.stamping] at stamping'
    cases stamping'
    exact metaThere
  · intro nothing
    have same := leaves.sameBackend_iff.mpr
      ⟨nothing.sameEntry stamped leaves.stamping, nothing.sameEmbedding⟩
    refine ⟨same, ?_, (leaves.sameGets_iff same).mpr nothing.bloom,
      leaves.index.mpr nothing.noIndex, fun metadata embed now threshold modelName loads => ?_⟩
    · have listing := self'.list_eq .semanticCache
      rw [same, leaves.config] at listing
      exact (congrArg EStateResult.outcome listing).trans
        (congrArg EStateResult.outcome (self.list_eq .semanticCache)).symm
    · rw [same, leaves.config]
      exact loads

end

section

open Reference

/-- The index of the second entry refuses its dimension; put again, it is refused
    without effect. -/
theorem refused_put_no_effect_repeated :
    let held := drive SemanticOp.exec store [.put (semanticEntry "a" "answer") (array [1, 0]),
      .put (semanticEntry "b" "other") (array [1])]
    ∃ e self', putSemanticEntry (semanticEntry "b" "other") (array [1]) held = .error e self' ∧
      NoEffect held self' := by
  intro held
  obtain ⟨e, self', raised, quiet⟩ := refused_put_no_effect_iff held (semanticEntry "b" "other")
    (array [1]) ⟨1, rfl, Or.inl ⟨_, rfl⟩⟩
  refine ⟨e, self', raised, quiet.mpr ⟨?_, rfl, ?_, fun id before after => ?_⟩⟩
  · rintro stamped ⟨⟩
    rfl
  · rintro ⟨absent, -⟩
    cases absent
  · have known : held.metadata.mightExist "b" = true := by decide
    have same := held.metadata.bloom.mightContain_add_held known id
    rw [MetadataStore.mightExist] at before
    exact absurd (after.symm.trans (same.trans before)) (by decide)

/-- The first time, the refused entry stays behind, listed and readable. -/
theorem refused_put_leaves_entry :
    let held := drive SemanticOp.exec store [.put (semanticEntry "a" "answer") (array [1, 0])]
    ∃ e self', putSemanticEntry (semanticEntry "b" "other") (array [1]) held = .error e self' ∧
      held.metadata.Refuses "b" (array [1]) ∧ ¬ NoEffect held self' := by
  refine ⟨_, _, rfl, ⟨1, rfl, Or.inl ⟨_, rfl⟩⟩, fun quiet => ?_⟩
  have gone := congrArg (fun b => (b.get "sem/b.meta.json").isSome) quiet.backend
  exact absurd gone (by decide)

end

end IntelliL3
