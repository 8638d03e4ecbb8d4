import IntelliL3.Lib.NearestCache
import IntelliL3.SemanticCache.Serving

/-! # The manager as a nearest-row cache

On an empty store, with exact neighbours and fresh ids, the entries of the store
are the rows of an abstract cache, and every call answers as that cache does.
-/

namespace IntelliL3

open Lib UnifiedObjectStore

namespace SemanticCacheManager

variable {η γ Bytes : Type} [PyRuntime] [Serializer Bytes] [Hnswlib η] [LawfulHnswlib η]

/-- The cache a manager is meant to be: rows are embeddings with responses. -/
def spec (η : Type) [Hnswlib η] [LawfulHnswlib η] (manager : SemanticCacheManager) :
    NearestSpec (Request γ) (List Rat) String Rat PyError γ where
  key request := (manager.embed request.prompt).asFloat32
  similarity request vector := manager.similarityTo η request.prompt vector
  threshold := manager.threshold
  generate request := request.generator request.prompt

/-- The store holds the rows of a cache, each under an id drawn earlier, and its
    generators have left the same state. -/
structure ServesAs (s : Session (MemoryBackend Bytes) η γ)
    (cache : NearestCache (List Rat) String γ) (drawn : List String)
    (stored : String → Option (Payload .semanticCache)) (vectors : String → Option (List Rat))
    (expectedItems : Int) (dim : Nat) : Prop where
  serves : s.store.Serves stored vectors expectedItems
  hasDim : s.store.metadata.HasDim dim
  sound : ∀ id vector payload, vectors id = some vector → stored id = some payload →
    (vector, payload.1.responseText) ∈ cache.rows
  complete : ∀ row ∈ cache.rows, ∃ id payload, vectors id = some row.1 ∧
    stored id = some payload ∧ payload.1.responseText = row.2
  counted : s.store.metadata.stats.hnswSize = cache.rows.length
  drawn : ∀ id, (vectors id).isSome → id ∈ drawn
  outside : s.outside = cache.outside

variable {manager : SemanticCacheManager} {s : Session (MemoryBackend Bytes) η γ}
  {cache : NearestCache (List Rat) String γ} {drawn : List String}
  {stored : String → Option (Payload .semanticCache)} {vectors : String → Option (List Rat)}
  {expectedItems : Int} {dim : Nat} {request : Request γ}

namespace ServesAs

theorem fresh {fpRate : Rat} {embeddingDim : Option Int} {metadata : MetadataStore η}
    (built : MetadataStore.new expectedItems fpRate embeddingDim = .ok metadata)
    (config : L3Config) (hasDim : metadata.HasDim dim) (outside : γ) :
    ServesAs ⟨overEmpty Bytes config metadata, outside⟩ ⟨[], outside⟩ [] (fun _ => none)
      (fun _ => none) expectedItems dim := by
  refine ⟨Serves.fresh built fun _ => rfl, hasDim, by simp, by simp, ?_, by simp, rfl⟩
  change metadata.stats.hnswSize = 0
  obtain ⟨-, -, -, absent | ⟨dim, index, indexBuilt, present⟩⟩ := MetadataStore.new_fresh built
  · rw [MetadataStore.stats, absent]
  · rw [MetadataStore.stats, present]
    exact HNSWIndex.new_size indexBuilt

theorem drawnMore (serving : ServesAs s cache drawn stored vectors expectedItems dim)
    (uuid : String) : ServesAs s cache (drawn ++ [uuid]) stored vectors expectedItems dim :=
  { serving with drawn := fun id indexed => List.mem_append_left _ (serving.drawn id indexed) }

theorem unknown (serving : ServesAs s cache drawn stored vectors expectedItems dim)
    {uuid : String} (new : uuid ∉ drawn) : vectors uuid = none := by
  rw [← Option.not_isSome_iff_eq_none]
  exact fun indexed => new (serving.drawn uuid indexed)

/-- A stored miss is a new row. -/
private theorem stored_miss (serving : ServesAs s cache drawn stored vectors expectedItems dim)
    {store : UnifiedObjectStore (MemoryBackend Bytes) η} {outside : γ} {uuid : String}
    (new : uuid ∉ drawn) {stamped : SemanticCacheEntry} {embedding : NdArray} {response : String}
    (same : stamped.responseText = response) (hasDim : store.metadata.HasDim dim)
    (serves : store.Serves (Function.update stored uuid (some (stamped, embedding)))
      (Function.update vectors uuid (some ((vectors uuid).getD embedding.asFloat32)))
      expectedItems)
    (grown : vectors uuid = none →
      store.metadata.stats.hnswSize = s.store.metadata.stats.hnswSize + 1) :
    ServesAs ⟨store, outside⟩
      ⟨cache.rows ++ [(embedding.asFloat32, response)], outside⟩ (drawn ++ [uuid])
      (Function.update stored uuid (some (stamped, embedding)))
      (Function.update vectors uuid (some embedding.asFloat32)) expectedItems dim := by
  have unknown := serving.unknown new
  rw [unknown, Option.getD_none] at serves
  refine ⟨serves, hasDim, ?_, ?_, ?_, ?_, rfl⟩
  · intro id vector payload indexed held
    by_cases here : id = uuid
    · rw [here, Function.update_self] at indexed held
      rw [← Option.some.inj indexed, ← Option.some.inj held]
      exact List.mem_append_right _ (List.mem_singleton.mpr (congrArg _ same))
    · rw [Function.update_of_ne here] at indexed held
      exact List.mem_append_left _ (serving.sound id vector payload indexed held)
  · intro row member
    rcases List.mem_append.mp member with old | last
    · obtain ⟨id, payload, indexed, held, text⟩ := serving.complete row old
      have other : id ≠ uuid := by
        rintro rfl
        rw [unknown] at indexed
        cases indexed
      refine ⟨id, payload, ?_, ?_, text⟩
      · rw [Function.update_of_ne other, indexed]
      · rw [Function.update_of_ne other, held]
    · rw [List.mem_singleton.mp last]
      exact ⟨uuid, (stamped, embedding), Function.update_self _ _ _, Function.update_self _ _ _,
        same⟩
  · rw [List.length_append, List.length_singleton]
    exact (grown unknown).trans (congrArg (· + 1) serving.counted)
  · intro id indexed
    by_cases here : id = uuid
    · rw [here]
      exact List.mem_append_right _ (List.mem_singleton_self uuid)
    · rw [Function.update_of_ne here] at indexed
      exact List.mem_append_left _ (serving.drawn id indexed)

/-- What a call may add: one entry under its id, indexed with its embedding. -/
def AddsOne (dim : Nat) (uuid : String) (stored stored' : String → Option (Payload .semanticCache))
    (vectors vectors' : String → Option (List Rat)) : Prop :=
  stored' = stored ∧ vectors' = vectors ∨
    ∃ (entry : SemanticCacheEntry) (embedding : NdArray), embedding.IsRow dim ∧
      stored' = Function.update stored uuid (some (entry, embedding)) ∧
      vectors' = Function.update vectors uuid (some embedding.asFloat32)

/-- A call answers with a best row and changes nothing, or no row is similar enough and
    it generates. -/
theorem hit_or_miss (exact : ExactNearest η)
    (serving : ServesAs s cache drawn stored vectors expectedItems dim)
    (isRow : (manager.embed request.prompt).IsRow dim) :
    (∃ row, (manager.spec η).Best cache.rows request row ∧
      manager.threshold ≤ manager.similarityTo η request.prompt row.1 ∧
      manager.exec request s = .ok (row.2, true) s) ∨
    ¬ (manager.spec η).Hit cache.rows request ∧
      manager.exec request s =
        manager.generate request.prompt request.generator request.uuid request.now s := by
  rcases exec_hit_or_miss serving.serves serving.hasDim isRow with
    ⟨id, vector, payload, indexed, held, reaches, nearest, -, hit⟩ | ⟨apart, -, miss⟩
  · refine Or.inl ⟨(vector, payload.1.responseText), ⟨?_, fun other member => ?_⟩, reaches, hit⟩
    · exact serving.sound id vector payload indexed held
    · obtain ⟨id', payload', indexed', -, -⟩ := serving.complete other member
      exact nearest exact id' other.1 indexed'
  · refine Or.inr ⟨?_, miss⟩
    rintro ⟨other, member, reaches⟩
    obtain ⟨id', payload', indexed', -, -⟩ := serving.complete other member
    exact apart exact id' other.1 indexed' reaches

/-- One call of the manager is one call of the cache. -/
theorem exec [LawfulSerializer Bytes] (exact : ExactNearest η)
    (serving : ServesAs s cache drawn stored vectors expectedItems dim) (positive : 0 < dim)
    (row : (manager.embed request.prompt).IsRow dim) (new : request.uuid ∉ drawn)
    (room : ((manager.spec η).step cache request).rows.length ≤ expectedItems) :
    (manager.spec η).Answers cache request (EStateResult.outcome (manager.exec request s)) ∧
      ∃ stored' vectors', AddsOne dim request.uuid stored stored' vectors vectors' ∧
        ServesAs (EStateResult.state (manager.exec request s))
          ((manager.spec η).step cache request) (drawn ++ [request.uuid]) stored' vectors'
          expectedItems dim := by
  rcases serving.hit_or_miss exact row with ⟨found, best, reaches, hit⟩ | ⟨noHit, miss⟩
  · rw [hit, NearestSpec.step_hit (best.hit_iff.mpr reaches)]
    exact ⟨NearestSpec.answers_best best reaches, stored, vectors, Or.inl ⟨rfl, rfl⟩,
      serving.drawnMore request.uuid⟩
  · rw [NearestSpec.Answers, if_neg noHit, miss, generate_eq, serving.outside]
    cases generated : request.generator request.prompt cache.outside with
    | error e outside =>
        have raised : (manager.spec η).generate request cache.outside = .error e outside :=
          generated
        rw [raised, NearestSpec.step_raised noHit raised]
        exact ⟨rfl, stored, vectors, Or.inl ⟨rfl, rfl⟩,
          { serving.drawnMore request.uuid with outside := rfl }⟩
    | ok response outside =>
        have returned : (manager.spec η).generate request cache.outside =
            .ok response outside := generated
        rw [NearestSpec.step_generated noHit returned, List.length_append,
          List.length_singleton] at room
        obtain ⟨stamped, stamping, stores⟩ := serving.serves.put_or_full positive serving.hasDim
          (manager.entryFor request.prompt response request.uuid request.now) row
        rcases stores with ⟨-, store, done, hasDim, serves, grown⟩ | ⟨⟨full, -⟩, -⟩
        · rw [returned, NearestSpec.step_generated noHit returned]
          simp only [done]
          refine ⟨rfl, _, _, Or.inr ⟨stamped, _, row, rfl, rfl⟩, ?_⟩
          exact serving.stored_miss new (SemanticCacheEntry.stamp_keeps stamping).1 hasDim serves
            grown
        · rw [serving.counted] at full
          omega

/-- Every stored entry was accepted: it is a row, indexed with its embedding. -/
structure AllAccepted (dim : Nat) (stored : String → Option (Payload .semanticCache))
    (vectors : String → Option (List Rat)) : Prop where
  indexed : vectors = fun id => (stored id).map fun payload => payload.2.asFloat32
  row : ∀ id payload, stored id = some payload → payload.2.IsRow dim

theorem AllAccepted.addsOne (all : AllAccepted dim stored vectors) {uuid : String}
    {stored' : String → Option (Payload .semanticCache)} {vectors' : String → Option (List Rat)}
    (adds : AddsOne dim uuid stored stored' vectors vectors') :
    AllAccepted dim stored' vectors' := by
  rcases adds with ⟨rfl, rfl⟩ | ⟨entry, embedding, row, rfl, rfl⟩
  · exact all
  · constructor
    · rw [map_update, ← all.indexed]
      rfl
    · intro id payload held
      by_cases here : id = uuid
      · rw [here, Function.update_self] at held
        rw [← Option.some.inj held]
        exact row
      · rw [Function.update_of_ne here] at held
        exact all.row id payload held

variable (Bytes) in
/-- A run from an empty store within the capacity of its index is a run of the cache. -/
theorem replay [LawfulSerializer Bytes] (exact : ExactNearest η) {fpRate : Rat}
    {embeddingDim : Option Int} {metadata : MetadataStore η}
    (fresh : MetadataStore.new expectedItems fpRate embeddingDim = .ok metadata)
    (config : L3Config) (positive : 0 < dim) (hasDim : metadata.HasDim dim) (outside : γ)
    {requests : List (Request γ)} (rows : ∀ r ∈ requests, (manager.embed r.prompt).IsRow dim)
    (distinct : (requests.map Request.uuid).Nodup)
    (few : ((manager.spec η).replay outside requests).rows.length ≤ expectedItems) :
    ∃ stored vectors, AllAccepted dim stored vectors ∧
      ServesAs (drive manager.exec ⟨overEmpty Bytes config metadata, outside⟩ requests)
        ((manager.spec η).replay outside requests) (requests.map Request.uuid) stored vectors
        expectedItems dim := by
  induction requests using List.reverseRecOn with
  | nil =>
      refine ⟨_, _, ⟨rfl, fun id payload held => ?_⟩, ServesAs.fresh fresh config hasDim outside⟩
      cases held
  | append_singleton pre request ih =>
      rw [List.map_append, List.map_singleton] at distinct ⊢
      rw [NearestSpec.replay_concat] at few ⊢
      have fits := (manager.spec η).length_le_replay outside pre [request]
      rw [NearestSpec.replay_concat] at fits
      obtain ⟨stored, vectors, all, before⟩ :=
        ih (fun r member => rows r (List.mem_append_left _ member))
          (List.nodup_append.mp distinct).1 (by omega)
      have new : request.uuid ∉ pre.map Request.uuid := fun member =>
        (List.nodup_append.mp distinct).2.2 _ member _ (List.mem_singleton_self _) rfl
      have row := rows request (List.mem_append_right _ (List.mem_singleton_self request))
      obtain ⟨-, stored', vectors', adds, after⟩ := before.exec exact positive row new few
      rw [drive_concat]
      exact ⟨stored', vectors', all.addsOne adds, after⟩

end ServesAs

omit [LawfulHnswlib η] in
/-- A manager on an empty store has nothing to load. -/
theorem new_overEmpty {embed : String → NdArray} {now threshold : Rat} {modelName : String}
    {config : L3Config} {metadata : MetadataStore η}
    {store : UnifiedObjectStore (MemoryBackend Bytes) η}
    (built : new embed now threshold modelName (overEmpty Bytes config metadata) =
      .ok manager store) : store = overEmpty Bytes config metadata ∧ manager.embed = embed := by
  obtain ⟨loaded, sameEmbed, -⟩ := new_ok built
  have nothing : (overEmpty Bytes config metadata).backend.listed
      ((overEmpty Bytes config metadata).config.keyPrefix .semanticCache) = [] :=
    MemoryBackend.listed_empty _
  rw [loadExistingEntries_eq, nothing] at loaded
  cases loaded
  exact ⟨rfl, sameEmbed⟩

end SemanticCacheManager

open SemanticCacheManager

section

variable {η γ Bytes : Type} [PyRuntime] [Serializer Bytes] [LawfulSerializer Bytes] [Hnswlib η]
  [LawfulHnswlib η]

/-- With exact neighbours, one manager on an empty store answers every call as the
    cache of its earlier misses does: a hit gives the response of a most similar one,
    generators run on misses only, and the index counts the misses. -/
theorem semantic_cache_exact (exact : ExactNearest η) {expectedItems : Int} {fpRate : Rat}
    {embeddingDim : Option Int} {metadata : MetadataStore η}
    (fresh : MetadataStore.new expectedItems fpRate embeddingDim = .ok metadata)
    {config : L3Config} {embed : String → NdArray} {now threshold : Rat} {modelName : String}
    {manager : SemanticCacheManager} {store : UnifiedObjectStore (MemoryBackend Bytes) η}
    (built : SemanticCacheManager.new embed now threshold modelName
      (overEmpty Bytes config metadata) = .ok manager store)
    {dim : Nat} (positive : 0 < dim) (hasDim : metadata.HasDim dim) (outside : γ)
    {requests : List (Request γ)} (rows : ∀ r ∈ requests, (embed r.prompt).IsRow dim)
    (distinct : (requests.map Request.uuid).Nodup)
    (few : ((manager.spec η).replay outside requests).rows.length ≤ expectedItems)
    {first rest : List (Request γ)} (split : requests = first ++ rest) :
    let reached := drive manager.exec ⟨store, outside⟩ first
    let past := (manager.spec η).replay outside first
    reached.outside = past.outside ∧
      (manager.stats reached.store).indexedEntries = past.rows.length ∧
      ∀ request later, rest = request :: later →
        (manager.spec η).Answers past request
          (EStateResult.outcome (manager.exec request reached)) := by
  obtain ⟨same, sameEmbed⟩ := new_overEmpty built
  rw [same]
  rw [← sameEmbed] at rows
  subst split
  rw [List.map_append] at distinct
  have grows := (manager.spec η).length_le_replay outside first rest
  obtain ⟨stored, vectors, -, here⟩ := ServesAs.replay Bytes exact fresh config positive
    hasDim outside (fun r member => rows r (List.mem_append_left rest member))
    (List.nodup_append.mp distinct).1 (by omega)
  refine ⟨here.outside, here.counted, fun request later next => ?_⟩
  subst next
  have new : request.uuid ∉ first.map Request.uuid := fun member =>
    (List.nodup_append.mp distinct).2.2 _ member _ List.mem_cons_self rfl
  have room := (manager.spec η).length_le_replay outside (first ++ [request]) later
  rw [NearestSpec.replay_concat, List.append_assoc, List.singleton_append] at room
  exact (here.exec exact positive (rows request (by simp)) new (by omega)).1

end

section

open Reference

/-- A prompt asked again is a hit, and its generator does not run. -/
theorem semantic_cache_exact_repeated :
    let again := { request "a" with uuid := "c" }
    let reached := drive (manager "default").exec ⟨store, []⟩ [request "a", request "b", again]
    reached.outside = ["a", "b"] ∧
      ((manager "default").stats reached.store).indexedEntries = 2 := by
  intro again
  have rows : ∀ r ∈ [request "a", request "b", again], (axes r.prompt).IsRow 3 :=
    fun r _ => axes_row r.prompt
  obtain ⟨outside, counted, -⟩ := semantic_cache_exact FlatIndex.exactNearest new_metadata
    (new_manager "default") (by decide) (MetadataStore.HasDim.of_absent rfl 3) [] rows
    (by decide) (by decide +kernel) (List.append_nil _).symm
  exact ⟨outside.trans (by decide +kernel), counted.trans (by decide +kernel)⟩

end

end IntelliL3
