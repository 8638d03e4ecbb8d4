import IntelliL3.SemanticCache.CacheManager

/-! # What a manager can serve

Every indexed entry is stored and known to the Bloom filter, so a lookup never
meets a missing object: it is a hit or a miss, and raises nothing. Only a miss
that meets a full index is refused.
-/

namespace IntelliL3

open Lib UnifiedObjectStore

namespace UnifiedObjectStore

variable {η Bytes : Type} [PyRuntime] [Serializer Bytes] [Hnswlib η] [LawfulHnswlib η]

/-- A store whose index tracks its entries, with hnswlib in step and room for
    `expected_items` of them. -/
structure Serves (store : UnifiedObjectStore (MemoryBackend Bytes) η)
    (stored : String → Option (Payload .semanticCache)) (vectors : String → Option (List Rat))
    (expectedItems : Int) : Prop where
  tracks : store.Tracks stored vectors
  inStep : store.metadata.InStep
  capacity : store.metadata.expectedItems = expectedItems

/-- A store that serves some entries. -/
def Ready (store : UnifiedObjectStore (MemoryBackend Bytes) η) (expectedItems : Int) : Prop :=
  ∃ stored vectors, store.Serves stored vectors expectedItems

variable {self self' : UnifiedObjectStore (MemoryBackend Bytes) η}
  {stored : String → Option (Payload .semanticCache)} {vectors : String → Option (List Rat)}
  {expectedItems : Int}

namespace Serves

theorem fresh {fpRate : Rat} {embeddingDim : Option Int} {metadata : MetadataStore η}
    (built : MetadataStore.new expectedItems fpRate embeddingDim = .ok metadata)
    {backend : MemoryBackend Bytes} {config : L3Config}
    (reads : ∀ id, backend.read config .semanticCache id = .ok (stored id)) :
    (UnifiedObjectStore.new backend config metadata).Serves stored (fun _ => none)
      expectedItems :=
  ⟨Tracks.fresh built reads, MetadataStore.InStep.fresh built,
    (MetadataStore.new_fresh built).2.2.1⟩

theorem put [LawfulSerializer Bytes] (serves : self.Serves stored vectors expectedItems)
    {entry : SemanticCacheEntry} {embedding : NdArray} {objectId : String}
    (done : putSemanticEntry entry embedding self = .ok objectId self') :
    ∃ stamped : SemanticCacheEntry, entry.stamp embedding = .ok stamped ∧
      self'.Serves
        (Function.update stored entry.objMeta.objectId (some (stamped, embedding)))
        (Function.update vectors entry.objMeta.objectId
          (some ((vectors entry.objMeta.objectId).getD embedding.asFloat32))) expectedItems := by
  obtain ⟨stamped, stamping, tracks⟩ := serves.tracks.put done
  obtain ⟨-, -, -, -, -, indexing⟩ := putSemanticEntry_ok done
  obtain ⟨dim, idx, idx', -, -, -, same⟩ := MetadataStore.onSemanticEntryAdded_ok indexing
  refine ⟨stamped, stamping, tracks, serves.inStep.added serves.tracks.mirrors indexing, ?_⟩
  rw [same]
  exact serves.capacity

theorem delete (serves : self.Serves stored vectors expectedItems) {objectId : String}
    {existed : Bool} (done : deleteSemanticEntry objectId self = .ok existed self') :
    self'.Serves (Function.update stored objectId none) (Function.update vectors objectId none)
      expectedItems := by
  have asDelete : UnifiedObjectStore.delete .semanticCache objectId self = .ok existed self' :=
    done
  obtain ⟨-, -, -, metadata⟩ := delete_ok asDelete
  cases existed with
  | false =>
      have same : self'.metadata = self.metadata := metadata
      exact ⟨serves.tracks.delete done, same ▸ serves.inStep, same ▸ serves.capacity⟩
  | true =>
      rw [if_pos rfl] at metadata
      refine ⟨serves.tracks.delete done, serves.inStep.removed metadata, ?_⟩
      rcases MetadataStore.onObjectRemoved_semantic_ok metadata with
        ⟨-, same⟩ | ⟨idx, removed, idx', -, -, same⟩ <;>
        rw [same] <;> exact serves.capacity

/-- More ids in the Bloom filter change nothing. -/
theorem bloomed (serves : self.Serves stored vectors expectedItems) (objectId : String) :
    Serves { self with metadata := self.metadata.bloomed objectId } stored vectors
      expectedItems :=
  ⟨⟨serves.tracks.reads,
    fun id indexed => self.metadata.mightExist_bloomed objectId (serves.tracks.known id indexed),
    serves.tracks.held, serves.tracks.mirrors⟩, serves.inStep, serves.capacity⟩

/-- Telling the index about an entry that is stored. -/
theorem indexed (serves : self.Serves stored vectors expectedItems) {objectId : String}
    {payload : Payload .semanticCache} (held : stored objectId = some payload)
    {metadata : MetadataStore η}
    (indexing : MetadataStore.onSemanticEntryAdded objectId payload.2 self.metadata =
      .ok () metadata) :
    Serves { self with metadata } stored (Function.update vectors objectId
      (some ((vectors objectId).getD payload.2.asFloat32))) expectedItems := by
  have bloom := self.metadata.onSemanticEntryAdded_bloom objectId payload.2
  rw [indexing, EStateResult.state_ok] at bloom
  have grows : ∀ id, self.metadata.mightExist id = true → metadata.mightExist id = true :=
    fun id before => by
      rw [MetadataStore.mightExist, bloom]
      exact BloomFilter.mightContain_add _ _ before
  have here : metadata.mightExist objectId = true := by
    rw [MetadataStore.mightExist, bloom]
    exact BloomFilter.mightContain_add_self _ _
  refine ⟨?_, serves.inStep.added serves.tracks.mirrors indexing, ?_⟩
  · exact serves.tracks.moved serves.tracks.reads grows here (by rw [held]; rfl)
      (fun id other => ⟨rfl, Function.update_of_ne other _ _⟩)
      (serves.tracks.mirrors.added indexing)
  · obtain ⟨dim, idx, idx', -, -, -, same⟩ := MetadataStore.onSemanticEntryAdded_ok indexing
    rw [same]
    exact serves.capacity

/-- Loading an id indexes it if there is an entry to read. -/
theorem loadEntry (serves : self.Serves stored vectors expectedItems) {objectId : String}
    {now : Rat} (done : SemanticCacheManager.loadEntry objectId now self = .ok () self') :
    self'.Ready expectedItems := by
  rw [SemanticCacheManager.loadEntry_eq, serves.tracks.reads] at done
  cases held : stored objectId with
  | none =>
      rw [held] at done
      cases done
      exact ⟨stored, vectors, serves.bloomed objectId⟩
  | some payload =>
      simp only [held, onMetadata, zoom_run] at done
      cases indexing : MetadataStore.onSemanticEntryAdded objectId payload.2
        (self.metadata.bloomed objectId) with
      | error e metadata => rw [indexing] at done; cases done
      | ok _ metadata =>
          rw [indexing] at done
          cases done
          exact ⟨_, _, (serves.bloomed objectId).indexed held indexing⟩

end Serves

namespace Ready

theorem exec [LawfulSerializer Bytes] (ready : self.Ready expectedItems) {op : SemanticOp}
    {r : Reply} (done : op.exec self = .ok r self') : self'.Ready expectedItems := by
  obtain ⟨stored, vectors, serves⟩ := ready
  cases op with
  | put entry embedding =>
      obtain ⟨objectId, done⟩ := SemanticOp.exec_ok done
      obtain ⟨stamped, -, serves'⟩ := serves.put done
      exact ⟨_, _, serves'⟩
  | delete objectId =>
      obtain ⟨existed, done⟩ := SemanticOp.exec_ok done
      exact ⟨_, _, serves.delete done⟩

/-- A manager is built on a store that it has loaded. -/
theorem manager (ready : self.Ready expectedItems) {embed : String → NdArray} {now : Rat}
    {similarityThreshold : Rat} {modelName : String} {manager : SemanticCacheManager}
    (built : SemanticCacheManager.new embed now similarityThreshold modelName self =
      .ok manager self') :
    self'.Ready expectedItems ∧ manager.embed = embed := by
  obtain ⟨loaded, sameEmbed, -⟩ := SemanticCacheManager.new_ok built
  rw [SemanticCacheManager.loadExistingEntries_eq] at loaded
  refine ⟨forM_invariant (I := fun s => s.Ready expectedItems) ?_ ready loaded, sameEmbed⟩
  rintro objectId s s' ⟨stored, vectors, serves⟩ done
  exact serves.loadEntry done

end Ready

/-! ## Lookups -/

namespace Serves

/-- A lookup finds an indexed entry that is stored and similar enough, or nothing. -/
theorem lookup (serves : self.Serves stored vectors expectedItems) {dim : Nat}
    (hasDim : self.metadata.HasDim dim) {query : NdArray} (row : query.IsRow dim)
    (threshold : Rat) :
    (∃ id vector payload, vectors id = some vector ∧ stored id = some payload ∧
      threshold ≤ HNSWIndex.similarity η query.asFloat32 vector ∧
      self.metadata.searchSimilarPrompts query 1 threshold =
        .ok [(id, HNSWIndex.similarity η query.asFloat32 vector)] ∧
      (ExactNearest η → ∀ other vector', vectors other = some vector' →
        HNSWIndex.similarity η query.asFloat32 vector' ≤
          HNSWIndex.similarity η query.asFloat32 vector)) ∨
    self.metadata.searchSimilarPrompts query 1 threshold = .ok [] ∧
      (ExactNearest η → ∀ id vector, vectors id = some vector →
        ¬ threshold ≤ HNSWIndex.similarity η query.asFloat32 vector) := by
  have mirrors := serves.tracks.mirrors
  unfold MetadataStore.searchSimilarPrompts
  cases present : self.metadata.hnsw with
  | none =>
      simp only [MetadataStore.IndexMirrors, present] at mirrors
      refine Or.inr ⟨rfl, fun _ id vector indexed => ?_⟩
      rw [mirrors id] at indexed
      cases indexed
  | some idx =>
      have fits := hasDim idx present
      have mirrors := mirrors.of_some present
      rcases (serves.inStep idx present).1.search_one mirrors (fits ▸ row) threshold with
        ⟨nothing, found⟩ | ⟨id, vector, indexed, found, nearest⟩
      · refine Or.inr ⟨found, fun _ id vector indexed => ?_⟩
        rw [nothing id] at indexed
        cases indexed
      · by_cases similar : threshold ≤ HNSWIndex.similarity η query.asFloat32 vector
        · obtain ⟨payload, held⟩ := Option.isSome_iff_exists.mp
            (serves.tracks.held id (by rw [indexed]; rfl))
          rw [if_pos similar] at found
          exact Or.inl ⟨id, vector, payload, indexed, held, similar, found, nearest⟩
        · rw [if_neg similar] at found
          refine Or.inr ⟨found, fun exact other vector' indexed' reaches => similar ?_⟩
          exact le_trans reaches (nearest exact other vector' indexed')

/-! ## Storing a miss -/

/-- An entry is stored and indexed, or the index is full and it is only stored. -/
theorem put_or_full [LawfulSerializer Bytes] (serves : self.Serves stored vectors expectedItems)
    {dim : Nat} (positive : 0 < dim) (hasDim : self.metadata.HasDim dim)
    (entry : SemanticCacheEntry) {embedding : NdArray} (row : embedding.IsRow dim) :
    ∃ stamped : SemanticCacheEntry, entry.stamp embedding = .ok stamped ∧
      (((self.metadata.stats.hnswSize : Int) < expectedItems ∨
          (vectors entry.objMeta.objectId).isSome) ∧
        (∃ self', putSemanticEntry entry embedding self = .ok entry.objMeta.objectId self' ∧
          self'.metadata.HasDim dim ∧
          self'.Serves
            (Function.update stored entry.objMeta.objectId (some (stamped, embedding)))
            (Function.update vectors entry.objMeta.objectId
              (some ((vectors entry.objMeta.objectId).getD embedding.asFloat32)))
            expectedItems ∧
          (vectors entry.objMeta.objectId = none →
            self'.metadata.stats.hnswSize = self.metadata.stats.hnswSize + 1)) ∨
      (expectedItems ≤ self.metadata.stats.hnswSize ∧
          vectors entry.objMeta.objectId = none) ∧
        ∃ self',
          putSemanticEntry entry embedding self =
            .error (MetadataStore.noRoom expectedItems) self' ∧
          self'.metadata.HasDim dim ∧
          self'.Serves
            (Function.update stored entry.objMeta.objectId (some (stamped, embedding)))
            vectors expectedItems ∧
          self'.metadata.stats.hnswSize = self.metadata.stats.hnswSize) := by
  obtain ⟨stamped, stamping⟩ : ∃ stamped, entry.stamp embedding = .ok stamped :=
    ⟨_, bind_eq_ok.mpr ⟨dim, row.lastDim, rfl⟩⟩
  refine ⟨stamped, stamping, ?_⟩
  have mirrors := serves.tracks.mirrors
  by_cases room : (self.metadata.stats.hnswSize : Int) < expectedItems ∨
      (vectors entry.objMeta.objectId).isSome
  · left
    obtain ⟨metadata, indexing⟩ := MetadataStore.onSemanticEntryAdded_returns mirrors
      serves.inStep positive hasDim row (by rw [serves.capacity]; exact room)
    have done : putSemanticEntry entry embedding self = .ok entry.objMeta.objectId { self with
        backend := self.backend.write self.config (X := .semanticCache) (stamped, embedding)
        metadata } := by
      rw [putSemanticEntry_eq, stamping]
      simp only [indexing]
    obtain ⟨stamped', stamping', serves'⟩ := serves.put done
    rw [stamping] at stamping'
    cases stamping'
    exact ⟨room, _, done, MetadataStore.HasDim.added row indexing, serves',
      fun unknown => MetadataStore.onSemanticEntryAdded_size mirrors unknown indexing⟩
  · right
    obtain ⟨full, unknown⟩ := not_or.mp room
    have unknown := Option.not_isSome_iff_eq_none.mp unknown
    have refused := MetadataStore.onSemanticEntryAdded_full mirrors serves.inStep positive hasDim
      unknown row (by rw [serves.capacity]; omega)
    rw [serves.capacity] at refused
    let after : UnifiedObjectStore (MemoryBackend Bytes) η := { self with
      backend := self.backend.write self.config (X := .semanticCache) (stamped, embedding)
      metadata := self.metadata.bloomed entry.objMeta.objectId }
    have raised : putSemanticEntry entry embedding self =
        .error (MetadataStore.noRoom expectedItems) after := by
      rw [putSemanticEntry_eq, stamping]
      simp only [refused]
      rfl
    have bloom : after.metadata.bloom = self.metadata.bloom.add entry.objMeta.objectId := rfl
    have tracks : after.Tracks
        (Function.update stored entry.objMeta.objectId (some (stamped, embedding))) vectors := by
      refine serves.tracks.written (SemanticCacheEntry.stamp_objectId stamping) ?_ ?_ bloom
        (fun _ _ => rfl) mirrors <;> rfl
    exact ⟨⟨by omega, unknown⟩, after, raised, hasDim,
      ⟨tracks, serves.inStep, serves.capacity⟩, rfl⟩

end Serves

end UnifiedObjectStore

/-! ## Calls of one manager -/

/-- A call of `get_or_generate`, with the id and the time it would draw. -/
structure Request (γ : Type) where
  prompt : String
  generator : String → EStateM PyError γ String
  uuid : String
  now : Rat

namespace SemanticCacheManager

variable {η γ Bytes : Type} [PyRuntime] [Serializer Bytes] [Hnswlib η]

def exec (manager : SemanticCacheManager) (request : Request γ) :
    SessionM (MemoryBackend Bytes) η γ (String × Bool) :=
  manager.getOrGenerate request.prompt request.generator request.uuid request.now

variable [LawfulHnswlib η] {manager : SemanticCacheManager} {request : Request γ}
  {s : Session (MemoryBackend Bytes) η γ} {stored : String → Option (Payload .semanticCache)}
  {vectors : String → Option (List Rat)} {expectedItems : Int} {dim : Nat}

/-- The similarity of a request to an indexed vector. -/
def similarityTo (η : Type) [Hnswlib η] [LawfulHnswlib η] (manager : SemanticCacheManager)
    (prompt : String) (vector : List Rat) : Rat :=
  HNSWIndex.similarity η (manager.embed prompt).asFloat32 vector

/-- A call answers a stored entry and changes nothing, or finds none and generates. -/
theorem exec_hit_or_miss (serves : s.store.Serves stored vectors expectedItems)
    (hasDim : s.store.metadata.HasDim dim) (row : (manager.embed request.prompt).IsRow dim) :
    (∃ id vector payload, vectors id = some vector ∧ stored id = some payload ∧
      manager.threshold ≤ manager.similarityTo η request.prompt vector ∧
      (ExactNearest η → ∀ other vector', vectors other = some vector' →
        manager.similarityTo η request.prompt vector' ≤
          manager.similarityTo η request.prompt vector) ∧
      manager.search s.store request.prompt 1 =
        .ok [(id, manager.similarityTo η request.prompt vector)] ∧
      manager.exec request s = .ok (payload.1.responseText, true) s) ∨
    (ExactNearest η → ∀ id vector, vectors id = some vector →
        ¬ manager.threshold ≤ manager.similarityTo η request.prompt vector) ∧
      manager.search s.store request.prompt 1 = .ok [] ∧
      manager.exec request s =
        manager.generate request.prompt request.generator request.uuid request.now s := by
  rcases serves.lookup hasDim row manager.threshold with
    ⟨id, vector, payload, indexed, held, similar, found, nearest⟩ | ⟨found, apart⟩
  · refine Or.inl ⟨id, vector, payload, indexed, held, similar, nearest, found, ?_⟩
    rw [exec, getOrGenerate_eq, found]
    simp only
    rw [serves.tracks.get (by rw [indexed]; rfl), held]
    rfl
  · refine Or.inr ⟨apart, found, ?_⟩
    rw [exec, getOrGenerate_eq, found]

/-- What a call may leave behind, whether it returns or raises. -/
theorem exec_ready [LawfulSerializer Bytes] (ready : s.store.Ready expectedItems)
    (positive : 0 < dim) (hasDim : s.store.metadata.HasDim dim)
    (row : (manager.embed request.prompt).IsRow dim) :
    (EStateResult.state (manager.exec request s)).store.Ready expectedItems ∧
      (EStateResult.state (manager.exec request s)).store.metadata.HasDim dim := by
  obtain ⟨stored, vectors, serves⟩ := ready
  rcases exec_hit_or_miss serves hasDim row with
    ⟨-, -, payload, -, -, -, -, -, hit⟩ | ⟨-, -, miss⟩
  · rw [hit]
    exact ⟨⟨stored, vectors, serves⟩, hasDim⟩
  · rw [miss, generate_eq]
    cases request.generator request.prompt s.outside with
    | error e outside => exact ⟨⟨stored, vectors, serves⟩, hasDim⟩
    | ok response outside =>
        obtain ⟨stamped, -, outcome⟩ := serves.put_or_full positive hasDim
          (manager.entryFor request.prompt response request.uuid request.now) row
        rcases outcome with ⟨-, store, done, hasDim', serves', -⟩ |
            ⟨-, store, done, hasDim', serves', -⟩ <;>
          · simp only [done]
            exact ⟨⟨_, _, serves'⟩, hasDim'⟩

end SemanticCacheManager

/-! ## A small manager -/

namespace Reference

/-- An embedding that keeps the prompts "a", "b" and all others apart. -/
def axes : String → NdArray
  | "a" => array [1, 0, 0]
  | "b" => array [0, 1, 0]
  | _ => array [0, 0, 1]

theorem axes_row (prompt : String) : (axes prompt).IsRow 3 := by
  unfold axes
  split <;> exact Or.inl rfl

/-- `SemanticCacheManager(store, embeddings, similarity_threshold=1.0, model_name=...)` -/
def manager (modelName : String) : SemanticCacheManager where
  embed := axes
  threshold := 1
  modelName := modelName
  thresholdInRange := ⟨zero_le_one, le_refl 1⟩

theorem new_manager (modelName : String) :
    SemanticCacheManager.new axes 0 1 modelName store = .ok (manager modelName) store := by
  unfold SemanticCacheManager.new
  rw [dif_pos ⟨zero_le_one, le_refl 1⟩]
  rfl

/-- A prompt stored under itself, and a generator that keeps a log of its calls. -/
def request (prompt : String) : Request (List String) where
  prompt := prompt
  generator prompt := do
    modify fun log => log ++ [prompt]
    return "answer to " ++ prompt
  uuid := prompt
  now := 0

end Reference

end IntelliL3
