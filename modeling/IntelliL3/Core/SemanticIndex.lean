import IntelliL3.Core.Observations
import IntelliL3.Metadata.IndexedEntries

/-! # The semantic index and the stored entries

A put writes an entry and then indexes its embedding; a delete undoes both. The
index keeps the vector an id was first indexed with, so after a put of a stored
id it agrees with the stored entry only if the vector is the same.
-/

namespace IntelliL3

open Lib

/-- A call that changes the semantic entries of a store. -/
inductive SemanticOp where
  | put (entry : SemanticCacheEntry) (promptEmbedding : NdArray)
  | delete (objectId : String)

namespace SemanticOp

variable {β η Bytes : Type} [StorageBackend (EStateM PyError β) Bytes] [PyRuntime]
  [Serializer Bytes] [Hnswlib η]

def exec : SemanticOp → StoreM β η Reply
  | .put entry promptEmbedding => do
      return .stored (← UnifiedObjectStore.putSemanticEntry entry promptEmbedding)
  | .delete objectId => do return .deleted (← UnifiedObjectStore.deleteSemanticEntry objectId)

theorem exec_ok {op : SemanticOp} {r : Reply} {self self' : UnifiedObjectStore β η}
    (done : op.exec self = .ok r self') :
    match op with
    | .put entry promptEmbedding => ∃ objectId,
        UnifiedObjectStore.putSemanticEntry entry promptEmbedding self = .ok objectId self'
    | .delete objectId => ∃ existed,
        UnifiedObjectStore.deleteSemanticEntry objectId self = .ok existed self' := by
  cases op with
  | put entry promptEmbedding =>
      obtain ⟨objectId, m, inner, done⟩ := bind_run_ok.mp done
      cases done
      exact ⟨objectId, inner⟩
  | delete objectId =>
      obtain ⟨existed, m, inner, done⟩ := bind_run_ok.mp done
      cases done
      exact ⟨existed, inner⟩

end SemanticOp

/-- Stamping changes what is recorded about the embedding only. -/
theorem SemanticCacheEntry.stamp_keeps {entry stamped : SemanticCacheEntry} {embedding : NdArray}
    (done : entry.stamp embedding = .ok stamped) :
    stamped.responseText = entry.responseText ∧ stamped.modelName = entry.modelName ∧
      stamped.promptText = entry.promptText := by
  obtain ⟨dim, -, same⟩ := bind_eq_ok.mp done
  cases same
  exact ⟨rfl, rfl, rfl⟩

namespace UnifiedObjectStore

variable {η Bytes : Type}

/-! ## What indexed and stored mean -/

/-- Whether the index knows an id. -/
def isIndexed (self : UnifiedObjectStore (MemoryBackend Bytes) η) (objectId : String) : Bool :=
  match self.metadata.hnsw with
  | none => false
  | some index => index.objectToId.contains objectId

/-- The vector hnswlib holds for an id. -/
def indexedVector [Hnswlib η] [HnswlibStores η]
    (self : UnifiedObjectStore (MemoryBackend Bytes) η) (objectId : String) : Option (List Rat) :=
  self.metadata.hnsw.bind fun index => index.vectorOf objectId

variable [PyRuntime] [Serializer Bytes]

/-- The embedding `get_semantic_entry` returns for an id. -/
def storedEmbedding (self : UnifiedObjectStore (MemoryBackend Bytes) η) (objectId : String) :
    Option NdArray :=
  match EStateResult.outcome (getSemanticEntry objectId 0 self) with
  | .ok (some found) => some found.2
  | _ => none

/-- Exactly the stored entries are indexed, each with its embedding. -/
def SemanticIndexAgrees [Hnswlib η] [HnswlibStores η]
    (self : UnifiedObjectStore (MemoryBackend Bytes) η) : Prop :=
  ∀ objectId, self.isIndexed objectId = (self.storedEmbedding objectId).isSome ∧
    self.indexedVector objectId = (self.storedEmbedding objectId).map NdArray.asFloat32

/-- A put under an id that is stored has the vector it is stored with. -/
def KeepsVector (self : UnifiedObjectStore (MemoryBackend Bytes) η) : SemanticOp → Prop
  | .put entry promptEmbedding => ∀ stored,
      self.storedEmbedding entry.objMeta.objectId = some stored →
      stored.asFloat32 = promptEmbedding.asFloat32
  | .delete _ => True

/-! ## Entries and vectors -/

/-- What the store holds and what its index mirrors: `stored` are the readable
    entries, `vectors` the indexed ones, which are stored and known to the Bloom
    filter. -/
structure Tracks [Hnswlib η] [HnswlibStores η]
    (store : UnifiedObjectStore (MemoryBackend Bytes) η)
    (stored : String → Option (Payload .semanticCache))
    (vectors : String → Option (List Rat)) : Prop where
  reads : ∀ id, store.backend.read store.config .semanticCache id = .ok (stored id)
  known : ∀ id, (vectors id).isSome → store.metadata.mightExist id = true
  held : ∀ id, (vectors id).isSome → (stored id).isSome
  mirrors : store.metadata.IndexMirrors vectors

section

variable [Hnswlib η] {self self' : UnifiedObjectStore (MemoryBackend Bytes) η}

/-- A put writes the stamped entry and then tells the index, which may refuse it. -/
theorem putSemanticEntry_eq (self : UnifiedObjectStore (MemoryBackend Bytes) η)
    (entry : SemanticCacheEntry) (embedding : NdArray) :
    putSemanticEntry entry embedding self =
      match entry.stamp embedding with
      | .error e => .error e self
      | .ok stamped =>
          let backend := self.backend.write self.config (X := .semanticCache) (stamped, embedding)
          match MetadataStore.onSemanticEntryAdded entry.objMeta.objectId embedding
            self.metadata with
          | .ok _ metadata => .ok entry.objMeta.objectId { self with backend, metadata }
          | .error e metadata => .error e { self with backend, metadata } := by
  refine (put_eq self (X := .semanticCache) (entry, embedding)).trans ?_
  cases stamping : entry.stamp embedding with
  | error e =>
      have refused : Payload.stamp (X := .semanticCache) (entry, embedding) = .error e := by
        simp only [Payload.stamp, stamping]
        rfl
      rw [refused]
  | ok stamped =>
      have accepted : Payload.stamp (X := .semanticCache) (entry, embedding) =
          .ok (stamped, embedding) := bind_eq_ok.mpr ⟨stamped, stamping, rfl⟩
      have indexing : Payload.index (X := .semanticCache) (stamped, embedding) self.metadata =
          MetadataStore.onSemanticEntryAdded entry.objMeta.objectId embedding self.metadata := by
        rw [← SemanticCacheEntry.stamp_objectId stamping]
        rfl
      have sameId : Payload.objectId (X := .semanticCache) (stamped, embedding) =
          entry.objMeta.objectId := SemanticCacheEntry.stamp_objectId stamping
      rw [accepted]
      cases added : MetadataStore.onSemanticEntryAdded entry.objMeta.objectId embedding
        self.metadata <;> simp only [indexing, sameId, added]

/-- What a put of an entry that returns has done. -/
theorem putSemanticEntry_ok {entry : SemanticCacheEntry} {embedding : NdArray}
    {objectId : String} (done : putSemanticEntry entry embedding self = .ok objectId self') :
    ∃ stamped : SemanticCacheEntry, entry.stamp embedding = .ok stamped ∧
      stamped.objMeta.objectId = entry.objMeta.objectId ∧ self'.config = self.config ∧
      self'.backend = self.backend.write self.config (X := .semanticCache) (stamped, embedding) ∧
      MetadataStore.onSemanticEntryAdded entry.objMeta.objectId embedding self.metadata =
        .ok () self'.metadata := by
  rw [putSemanticEntry_eq] at done
  cases stamping : entry.stamp embedding with
  | error e => rw [stamping] at done; cases done
  | ok stamped =>
      simp only [stamping] at done
      cases indexing : MetadataStore.onSemanticEntryAdded entry.objMeta.objectId embedding
        self.metadata with
      | error e metadata => rw [indexing] at done; cases done
      | ok _ metadata =>
          rw [indexing] at done
          cases done
          exact ⟨stamped, rfl, SemanticCacheEntry.stamp_objectId stamping, rfl, rfl, rfl⟩

variable [HnswlibStores η] {stored : String → Option (Payload .semanticCache)}
  {vectors : String → Option (List Rat)}

/-- An id the index knows is found by `get`. -/
theorem Tracks.get (tracks : self.Tracks stored vectors) {id : String}
    (indexed : (vectors id).isSome) (now : Rat) :
    getSemanticEntry id now self = .ok ((stored id).map (Payload.touch now)) self := by
  have asGet : getSemanticEntry id now self = UnifiedObjectStore.get .semanticCache id now self :=
    rfl
  rw [asGet, get_eq, if_pos (tracks.known id indexed)]
  change raising ((self.backend.read _ _ _).map _) self = _
  rw [tracks.reads]
  rfl

theorem Tracks.isIndexed (tracks : self.Tracks stored vectors) (id : String) :
    self.isIndexed id = (vectors id).isSome := by
  have mirrors := tracks.mirrors
  unfold MetadataStore.IndexMirrors at mirrors
  unfold UnifiedObjectStore.isIndexed
  cases present : self.metadata.hnsw with
  | none =>
      rw [present] at mirrors
      rw [mirrors id]
      rfl
  | some index =>
      rw [present] at mirrors
      exact mirrors.known id

theorem Tracks.indexedVector (tracks : self.Tracks stored vectors) (id : String) :
    self.indexedVector id = vectors id := by
  have mirrors := tracks.mirrors
  unfold MetadataStore.IndexMirrors at mirrors
  unfold UnifiedObjectStore.indexedVector
  cases present : self.metadata.hnsw with
  | none =>
      rw [present] at mirrors
      exact (mirrors id).symm
  | some index =>
      rw [present] at mirrors
      exact mirrors.stored id

theorem Tracks.storedEmbedding (tracks : self.Tracks stored vectors)
    (all : ∀ id, (stored id).isSome → (vectors id).isSome) (id : String) :
    self.storedEmbedding id = (stored id).map fun payload => payload.2 := by
  unfold UnifiedObjectStore.storedEmbedding
  cases held : stored id with
  | some payload =>
      rw [tracks.get (all id (by rw [held]; rfl)), held]
      rfl
  | none =>
      have nothing : EStateResult.outcome (getSemanticEntry id 0 self) = .ok none := by
        refine (self.outcome_get .semanticCache id 0).trans ?_
        change (if _ then (self.backend.read _ _ _).map _ else _) = _
        rw [tracks.reads, held]
        split <;> rfl
      rw [nothing]
      rfl

/-- The index agrees with the entries exactly when each vector is that of its entry. -/
theorem Tracks.agrees_iff (tracks : self.Tracks stored vectors)
    (all : ∀ id, (stored id).isSome → (vectors id).isSome) :
    self.SemanticIndexAgrees ↔
      ∀ id, vectors id = (stored id).map fun payload => payload.2.asFloat32 := by
  have same : ∀ id, (self.storedEmbedding id).map NdArray.asFloat32 =
      (stored id).map fun payload => payload.2.asFloat32 := by
    intro id
    rw [tracks.storedEmbedding all, Option.map_map]
    rfl
  constructor
  · intro agrees id
    rw [← tracks.indexedVector, (agrees id).2, same]
  · intro agree id
    refine ⟨?_, by rw [tracks.indexedVector, same, agree]⟩
    rw [tracks.isIndexed, agree, ← same, Option.isSome_map]

/-! ## One call -/

/-- What a step may change: one stored entry and its vector, with its id in the Bloom
    filter afterwards. -/
theorem Tracks.moved (tracks : self.Tracks stored vectors) {objectId : String}
    {stored' : String → Option (Payload .semanticCache)}
    {vectors' : String → Option (List Rat)}
    (reads : ∀ id, self'.backend.read self'.config .semanticCache id = .ok (stored' id))
    (grows : ∀ id, self.metadata.mightExist id = true → self'.metadata.mightExist id = true)
    (known : self'.metadata.mightExist objectId = true) (held : (stored' objectId).isSome)
    (others : ∀ id, id ≠ objectId → stored' id = stored id ∧ vectors' id = vectors id)
    (mirrors : self'.metadata.IndexMirrors vectors') : self'.Tracks stored' vectors' := by
  refine ⟨reads, fun id indexed => ?_, fun id indexed => ?_, mirrors⟩
  · by_cases here : id = objectId
    · rw [here]
      exact known
    · rw [(others id here).2] at indexed
      exact grows id (tracks.known id indexed)
  · by_cases here : id = objectId
    · rw [here]
      exact held
    · rw [(others id here).2] at indexed
      rw [(others id here).1]
      exact tracks.held id indexed

/-- Once an entry is written and its id is in the Bloom filter, it counts as stored,
    whether the index has taken it or not. -/
theorem Tracks.written [LawfulSerializer Bytes] (tracks : self.Tracks stored vectors)
    {stamped : SemanticCacheEntry} {embedding : NdArray} {objectId : String}
    (sameId : stamped.objMeta.objectId = objectId) (config : self'.config = self.config)
    (backend : self'.backend =
      self.backend.write self.config (X := .semanticCache) (stamped, embedding))
    (bloom : self'.metadata.bloom = self.metadata.bloom.add objectId)
    {vectors' : String → Option (List Rat)}
    (others : ∀ id, id ≠ objectId → vectors' id = vectors id)
    (mirrors : self'.metadata.IndexMirrors vectors') :
    self'.Tracks (Function.update stored objectId (some (stamped, embedding))) vectors' := by
  refine tracks.moved (fun id => ?_) (fun id held => ?_) ?_ ?_
    (fun id other => ⟨Function.update_of_ne other _ _, others id other⟩) mirrors
  · rw [config, backend]
    refine (MemoryBackend.read_write self.backend self.config (X := .semanticCache)
      (stamped, embedding) id).trans ?_
    change (if stamped.objMeta.objectId = id then _ else _) = _
    rw [sameId]
    by_cases here : objectId = id
    · subst here
      rw [if_pos rfl, Function.update_self]
    · rw [if_neg here, Function.update_of_ne (Ne.symm here), tracks.reads]
  · rw [MetadataStore.mightExist, bloom]
    exact BloomFilter.mightContain_add _ _ held
  · rw [MetadataStore.mightExist, bloom]
    exact BloomFilter.mightContain_add_self _ _
  · rw [Function.update_self]
    rfl

theorem Tracks.put [LawfulSerializer Bytes] (tracks : self.Tracks stored vectors)
    {entry : SemanticCacheEntry} {embedding : NdArray} {objectId : String}
    (done : putSemanticEntry entry embedding self = .ok objectId self') :
    ∃ stamped : SemanticCacheEntry, entry.stamp embedding = .ok stamped ∧
      self'.Tracks
        (Function.update stored entry.objMeta.objectId (some (stamped, embedding)))
        (Function.update vectors entry.objMeta.objectId
          (some ((vectors entry.objMeta.objectId).getD embedding.asFloat32))) := by
  obtain ⟨stamped, stamping, sameId, config, backend, indexing⟩ := putSemanticEntry_ok done
  have bloom := self.metadata.onSemanticEntryAdded_bloom entry.objMeta.objectId embedding
  rw [indexing, EStateResult.state_ok] at bloom
  exact ⟨stamped, stamping, tracks.written sameId config backend bloom
    (fun id other => Function.update_of_ne other _ _) (tracks.mirrors.added indexing)⟩

theorem Tracks.delete (tracks : self.Tracks stored vectors) {objectId : String} {existed : Bool}
    (done : deleteSemanticEntry objectId self = .ok existed self') :
    self'.Tracks (Function.update stored objectId none)
      (Function.update vectors objectId none) := by
  have asDelete : UnifiedObjectStore.delete .semanticCache objectId self = .ok existed self' :=
    done
  obtain ⟨answered, config, backend, metadata⟩ := delete_ok asDelete
  have bloom : self'.metadata.bloom = self.metadata.bloom := by
    have kept := self.metadata.onObjectRemoved_bloom .semanticCache objectId
    split at metadata
    · rw [metadata] at kept
      exact kept
    · rw [metadata]
  have reads : ∀ id, self'.backend.read self'.config .semanticCache id =
      .ok (Function.update stored objectId none id) := by
    intro id
    rw [config, backend, MemoryBackend.read_wipe]
    by_cases here : objectId = id
    · subst here
      rw [if_pos rfl, Function.update_self]
    · rw [if_neg here, Function.update_of_ne (Ne.symm here), tracks.reads]
  have still : ∀ id, (Function.update vectors objectId none id).isSome →
      id ≠ objectId ∧ (vectors id).isSome := by
    intro id indexed
    by_cases here : id = objectId
    · rw [here, Function.update_self] at indexed
      cases indexed
    · rw [Function.update_of_ne here] at indexed
      exact ⟨here, indexed⟩
  refine ⟨reads, fun id indexed => ?_, fun id indexed => ?_, ?_⟩
  · rw [MetadataStore.mightExist, bloom]
    exact tracks.known id (still id indexed).2
  · rw [Function.update_of_ne (still id indexed).1]
    exact tracks.held id (still id indexed).2
  · cases existed with
    | true => exact tracks.mirrors.removed metadata
    | false =>
        -- No key was there, so there was no entry, and the index did not know the id.
        have noKey : self.backend.complete self.config .semanticCache objectId = false := by
          rw [eq_comm, MemoryBackend.touchesKeys, Bool.or_eq_false_iff] at answered
          rw [MemoryBackend.complete, ← MemoryBackend.existsKey_eq, answered.1]
          rfl
        have absent : stored objectId = none := by
          have nothing := (MemoryBackend.read_none_iff _ _ _ _).mpr noKey
          rw [tracks.reads] at nothing
          exact Except.ok.inj nothing
        have unindexed : vectors objectId = none := by
          by_contra indexed
          have held := tracks.held objectId (Option.isSome_iff_ne_none.mpr indexed)
          rw [absent] at held
          cases held
        rw [← unindexed, Function.update_eq_self]
        rw [show self'.metadata = self.metadata from metadata]
        exact tracks.mirrors

/-- A fresh store over a backend whose semantic entries can be read. -/
theorem Tracks.fresh {expectedItems : Int} {fpRate : Rat} {embeddingDim : Option Int}
    {metadata : MetadataStore η}
    (built : MetadataStore.new expectedItems fpRate embeddingDim = .ok metadata)
    {backend : MemoryBackend Bytes} {config : L3Config}
    (reads : ∀ id, backend.read config .semanticCache id = .ok (stored id)) :
    (UnifiedObjectStore.new backend config metadata).Tracks stored fun _ => none :=
  ⟨reads, fun _ indexed => absurd indexed Bool.false_ne_true,
    fun _ indexed => absurd indexed Bool.false_ne_true, MetadataStore.IndexMirrors.fresh built⟩

end

/-! ## Runs on a fresh store -/

section

variable [Hnswlib η] [HnswlibStores η]

/-- Every stored entry is indexed, under the vector it was first put with. -/
def Covered (self : UnifiedObjectStore (MemoryBackend Bytes) η) : Prop :=
  ∃ stored vectors, self.Tracks stored vectors ∧ ∀ id, (stored id).isSome → (vectors id).isSome

/-- Every stored entry is indexed under its own vector. -/
def InSync (self : UnifiedObjectStore (MemoryBackend Bytes) η) : Prop :=
  ∃ stored, self.Tracks stored fun id => (stored id).map fun payload => payload.2.asFloat32

variable {self self' : UnifiedObjectStore (MemoryBackend Bytes) η}

theorem InSync.covered (sync : self.InSync) : self.Covered := by
  obtain ⟨stored, tracks⟩ := sync
  exact ⟨stored, _, tracks, fun id held => by rwa [Option.isSome_map]⟩

theorem InSync.agrees (sync : self.InSync) : self.SemanticIndexAgrees := by
  obtain ⟨stored, tracks⟩ := sync
  exact (tracks.agrees_iff fun id held => by rwa [Option.isSome_map]).mpr fun _ => rfl

theorem Covered.sameIds (covered : self.Covered) (id : String) :
    self.isIndexed id = (self.storedEmbedding id).isSome := by
  obtain ⟨stored, vectors, tracks, all⟩ := covered
  rw [tracks.isIndexed, tracks.storedEmbedding all, Option.isSome_map, Bool.eq_iff_iff]
  exact ⟨tracks.held id, all id⟩

/-- An updated map of entries seen through its vectors. -/
theorem map_update (stored : String → Option (Payload .semanticCache)) (id : String)
    (value : Option (Payload .semanticCache)) :
    (fun other => (Function.update stored id value other).map fun payload =>
      payload.2.asFloat32) =
    Function.update (fun other => (stored other).map fun payload => payload.2.asFloat32) id
      (value.map fun payload => payload.2.asFloat32) :=
  Function.comp_update (Option.map fun payload : Payload .semanticCache =>
    payload.2.asFloat32) stored id value

theorem InSync.delete (sync : self.InSync) {objectId : String} {existed : Bool}
    (done : deleteSemanticEntry objectId self = .ok existed self') : self'.InSync := by
  obtain ⟨stored, tracks⟩ := sync
  refine ⟨Function.update stored objectId none, ?_⟩
  rw [map_update]
  exact tracks.delete done

variable [LawfulSerializer Bytes]

theorem InSync.put (sync : self.InSync) {entry : SemanticCacheEntry} {embedding : NdArray}
    (keeps : self.KeepsVector (.put entry embedding)) {objectId : String}
    (done : putSemanticEntry entry embedding self = .ok objectId self') : self'.InSync := by
  obtain ⟨stored, tracks⟩ := sync
  obtain ⟨stamped, -, tracks'⟩ := tracks.put done
  refine ⟨Function.update stored entry.objMeta.objectId (some (stamped, embedding)), ?_⟩
  have kept : ((stored entry.objMeta.objectId).map fun payload => payload.2.asFloat32).getD
      embedding.asFloat32 = embedding.asFloat32 := by
    cases held : stored entry.objMeta.objectId with
    | none => rfl
    | some payload =>
        refine keeps payload.2 ?_
        rw [tracks.storedEmbedding (fun id held => by rwa [Option.isSome_map]), held]
        rfl
  rw [kept] at tracks'
  rw [map_update]
  exact tracks'

/-- A put of a stored id under another vector is stored and not indexed. -/
theorem InSync.put_stale (sync : self.InSync) {entry : SemanticCacheEntry} {embedding : NdArray}
    (changes : ¬ self.KeepsVector (.put entry embedding)) {objectId : String}
    (done : putSemanticEntry entry embedding self = .ok objectId self') :
    ¬ self'.SemanticIndexAgrees := by
  obtain ⟨stored, tracks⟩ := sync
  obtain ⟨stamped, -, tracks'⟩ := tracks.put done
  simp only [KeepsVector, not_forall] at changes
  obtain ⟨old, before, differ⟩ := changes
  rw [tracks.storedEmbedding fun id held => by rwa [Option.isSome_map]] at before
  obtain ⟨payload, held, same⟩ := Option.map_eq_some_iff.mp before
  have all : ∀ id, (Function.update stored entry.objMeta.objectId (some (stamped, embedding))
      id).isSome → (Function.update (fun id => (stored id).map fun payload =>
        payload.2.asFloat32) entry.objMeta.objectId (some (((stored entry.objMeta.objectId).map
          fun payload => payload.2.asFloat32).getD embedding.asFloat32)) id).isSome := by
    intro id present
    by_cases here : id = entry.objMeta.objectId
    · rw [here, Function.update_self]
      rfl
    · rw [Function.update_of_ne here] at present ⊢
      rwa [Option.isSome_map]
  intro agrees
  have here := (tracks'.agrees_iff all).mp agrees entry.objMeta.objectId
  rw [Function.update_self, Function.update_self, held, Option.map_some, Option.getD_some,
    same] at here
  exact differ (Option.some.inj here)

theorem InSync.exec (sync : self.InSync) {op : SemanticOp} {r : Reply}
    (keeps : self.KeepsVector op) (done : op.exec self = .ok r self') : self'.InSync := by
  cases op with
  | put entry embedding =>
      obtain ⟨objectId, done⟩ := SemanticOp.exec_ok done
      exact sync.put keeps done
  | delete objectId =>
      obtain ⟨existed, done⟩ := SemanticOp.exec_ok done
      exact sync.delete done

theorem InSync.exec_stale (sync : self.InSync) {op : SemanticOp} {r : Reply}
    (changes : ¬ self.KeepsVector op) (done : op.exec self = .ok r self') :
    ¬ self'.SemanticIndexAgrees := by
  cases op with
  | put entry embedding =>
      obtain ⟨objectId, done⟩ := SemanticOp.exec_ok done
      exact sync.put_stale changes done
  | delete objectId => exact absurd trivial changes

theorem Covered.exec (covered : self.Covered) {op : SemanticOp} {r : Reply}
    (done : op.exec self = .ok r self') : self'.Covered := by
  obtain ⟨stored, vectors, tracks, all⟩ := covered
  cases op with
  | put entry embedding =>
      obtain ⟨objectId, done⟩ := SemanticOp.exec_ok done
      obtain ⟨stamped, -, tracks'⟩ := tracks.put done
      refine ⟨_, _, tracks', fun id held => ?_⟩
      by_cases here : id = entry.objMeta.objectId
      · rw [here, Function.update_self]
        rfl
      · rw [Function.update_of_ne here] at held ⊢
        exact all id held
  | delete objectId =>
      obtain ⟨existed, done⟩ := SemanticOp.exec_ok done
      refine ⟨_, _, tracks.delete done, fun id held => ?_⟩
      by_cases here : id = objectId
      · rw [here, Function.update_self] at held
        cases held
      · rw [Function.update_of_ne here] at held ⊢
        exact all id held

end

end UnifiedObjectStore

open UnifiedObjectStore

section

variable {η Bytes : Type} [PyRuntime] [Serializer Bytes] [LawfulSerializer Bytes] [Hnswlib η]
  [HnswlibStores η] {self : UnifiedObjectStore (MemoryBackend Bytes) η}

/-- In every state of a run on a fresh store, exactly the stored ids are indexed; the
    vectors agree too in every state exactly when every put of a stored id has the vector
    it is stored with. -/
theorem semantic_index_agrees_iff {expectedItems : Int} {fpRate : Rat}
    {embeddingDim : Option Int} {metadata : MetadataStore η}
    (fresh : MetadataStore.new expectedItems fpRate embeddingDim = .ok metadata)
    (config : L3Config) {ops : List SemanticOp} {replies : List Reply}
    (run : Run SemanticOp.exec (overEmpty Bytes config metadata) ops replies self) :
    (∀ id, self.isIndexed id = (self.storedEmbedding id).isSome) ∧
    ((∀ pre post rs reached, ops = pre ++ post →
      Run SemanticOp.exec (overEmpty Bytes config metadata) pre rs reached →
      reached.SemanticIndexAgrees) ↔
    ∀ pre op post rs reached, ops = pre ++ op :: post →
      Run SemanticOp.exec (overEmpty Bytes config metadata) pre rs reached →
      reached.KeepsVector op) := by
  have start : (overEmpty Bytes config metadata).InSync :=
    ⟨fun _ => none, Tracks.fresh fresh fun _ => rfl⟩
  constructor
  · exact (run.invariant (fun _ _ _ _ covered done => Covered.exec covered done)
      start.covered).sameIds
  · exact run.all_reached_iff (fun _ sync => sync.agrees)
      (fun _ _ _ _ sync keeps done => sync.exec keeps done)
      (fun _ _ _ _ sync changes done => sync.exec_stale changes done) start

end

section

open Reference

/-- An entry is put, put again with another answer, deleted, and put under another embedding. -/
private def entriesPutAgain : List SemanticOp := [
  .put (semanticEntry "a" "answer") (array [1, 0]),
  .put (semanticEntry "a" "longer answer") (array [1, 0]), .delete "a",
  .put (semanticEntry "a" "answer") (array [0, 1])]

/-- An entry that is put again keeps its vector, and has another one after it was deleted. -/
theorem semantic_index_agrees_reput : ∃ replies self,
    Run SemanticOp.exec store entriesPutAgain replies self ∧ self.SemanticIndexAgrees := by
  have run : Run SemanticOp.exec store entriesPutAgain _ _ :=
    .cons rfl (.cons rfl (.cons rfl (.cons rfl (.nil _))))
  refine ⟨_, _, run, ((semantic_index_agrees_iff new_metadata .default run).2).mpr ?_ _ [] _ _
    (List.append_nil _).symm run⟩
  refine Run.before_each_cons (fun _ stored => by cases stored) rfl
    (Run.before_each_cons (fun _ stored => ?_) rfl
      (Run.before_each_cons trivial rfl
        (Run.before_each_cons (fun _ stored => by cases stored) rfl Run.before_each_nil)))
  rw [← Option.some.inj stored]

/-- An entry put again under another embedding is found under the old one. -/
theorem reput_entry_indexed_under_old_embedding : ∃ replies self,
    Run SemanticOp.exec store [.put (semanticEntry "a" "answer") (array [1, 0]),
      .put (semanticEntry "a" "answer") (array [0, 1])] replies self ∧
      ¬ self.SemanticIndexAgrees := by
  have run : Run SemanticOp.exec store [.put (semanticEntry "a" "answer") (array [1, 0]),
      .put (semanticEntry "a" "answer") (array [0, 1])] _ _ := .cons rfl (.cons rfl (.nil _))
  refine ⟨_, _, run, fun agrees => ?_⟩
  have vectors := (agrees "a").2
  exact absurd vectors (by decide)

end

end IntelliL3
