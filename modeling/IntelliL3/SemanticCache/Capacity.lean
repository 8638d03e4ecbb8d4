import IntelliL3.SemanticCache.Serving

/-! # Calls on a full index

The index refuses a new entry once it holds `expected_items`, and the manager
passes the exception on: that is the one way a call can fail on its own.
-/

namespace IntelliL3

open Lib UnifiedObjectStore

section

variable {η γ Bytes : Type} [PyRuntime] [Serializer Bytes] [LawfulSerializer Bytes] [Hnswlib η]
  [LawfulHnswlib η]

/-- After any history of a manager, a call whose generator returns is a hit, or a miss
    that stores what was generated, or a miss that finds the index full and raises. -/
theorem getOrGenerate_outcome {expectedItems : Int} {fpRate : Rat} {embeddingDim : Option Int}
    {metadata : MetadataStore η}
    (fresh : MetadataStore.new expectedItems fpRate embeddingDim = .ok metadata)
    {backend : MemoryBackend Bytes} {config : L3Config}
    (readable : ∀ id, ∃ value, backend.read config .semanticCache id = .ok value)
    {ops : List SemanticOp} {replies : List Reply}
    {used store : UnifiedObjectStore (MemoryBackend Bytes) η}
    (earlier : Run SemanticOp.exec (UnifiedObjectStore.new backend config metadata) ops replies
      used)
    {embed : String → NdArray} {now threshold : Rat} {modelName : String}
    {manager : SemanticCacheManager}
    (built : SemanticCacheManager.new embed now threshold modelName used = .ok manager store)
    {dim : Nat} (positive : 0 < dim) (hasDim : store.metadata.HasDim dim)
    (outside : γ) {requests : List (Request γ)} {request : Request γ}
    (rows : ∀ r ∈ requests ++ [request], (embed r.prompt).IsRow dim)
    {reached : Session (MemoryBackend Bytes) η γ}
    (driven : reached = drive manager.exec ⟨store, outside⟩ requests)
    {response : String} {outside' : γ}
    (generates : request.generator request.prompt reached.outside = .ok response outside') :
    let outcome := EStateResult.outcome (manager.exec request reached)
    let indexed := (manager.stats reached.store).indexedEntries
    (∃ matched reply, manager.search reached.store request.prompt 1 = .ok [matched] ∧
      outcome = .ok (reply, true)) ∨
    (manager.search reached.store request.prompt 1 = .ok [] ∧
      (indexed < expectedItems ∨ reached.store.isIndexed request.uuid = true) ∧
      outcome = .ok (response, false)) ∨
    (manager.search reached.store request.prompt 1 = .ok [] ∧
      expectedItems ≤ indexed ∧ reached.store.isIndexed request.uuid = false ∧
      ∃ message, outcome = .error (.valueError message)) := by
  intro outcome indexed
  choose stored reads using readable
  have ready : used.Ready expectedItems :=
    earlier.invariant (I := fun s => s.Ready expectedItems)
      (fun _ _ _ _ ready done => Ready.exec ready done) ⟨stored, _, Serves.fresh fresh reads⟩
  obtain ⟨ready, sameEmbed⟩ := ready.manager built
  rw [← sameEmbed] at rows
  have kept : reached.store.Ready expectedItems ∧ reached.store.metadata.HasDim dim := by
    rw [driven]
    refine drive_invariant (I := fun s : Session _ η γ => s.store.Ready expectedItems ∧
      s.store.metadata.HasDim dim) ?_ ⟨ready, hasDim⟩
    rintro s r member ⟨ready, hasDim⟩
    exact SemanticCacheManager.exec_ready ready positive hasDim
      (rows r (List.mem_append_left _ member))
  obtain ⟨⟨stored, vectors, serves⟩, hasDim⟩ := kept
  have row := rows request (List.mem_append_right _ (List.mem_singleton_self request))
  rcases SemanticCacheManager.exec_hit_or_miss serves hasDim row with
    ⟨id, vector, payload, -, -, -, -, found, hit⟩ | ⟨-, found, miss⟩
  · refine Or.inl ⟨_, payload.1.responseText, found, ?_⟩
    change EStateResult.outcome (manager.exec request reached) = _
    rw [hit]
    rfl
  · have known : reached.store.isIndexed request.uuid = (vectors request.uuid).isSome :=
      serves.tracks.isIndexed request.uuid
    obtain ⟨stamped, -, stores⟩ := serves.put_or_full positive hasDim
      (manager.entryFor request.prompt response request.uuid request.now) row
    rcases stores with ⟨room, after, done, -⟩ | ⟨⟨full, unknown⟩, after, refused, -⟩
    · refine Or.inr (Or.inl ⟨found, known ▸ room, ?_⟩)
      change EStateResult.outcome (manager.exec request reached) = _
      rw [miss, SemanticCacheManager.generate_eq, generates]
      simp only [done]
      rfl
    · obtain ⟨message, same⟩ := MetadataStore.noRoom_eq expectedItems
      refine Or.inr (Or.inr ⟨found, full, ?_, message, ?_⟩)
      · rw [known, show vectors request.uuid = none from unknown]
        rfl
      · change EStateResult.outcome (manager.exec request reached) = _
        rw [miss, SemanticCacheManager.generate_eq, generates]
        simp only [refused, same]
        rfl

end

section

open Reference

/-- After a miss and a hit, another prompt is generated and stored. -/
theorem getOrGenerate_outcome_later :
    EStateResult.outcome ((manager "default").exec (request "b")
      (drive (manager "default").exec ⟨store, []⟩ [request "a", request "a"])) =
      .ok ("answer to b", false) := by
  have rows : ∀ r ∈ [request "a", request "a"] ++ [request "b"], (axes r.prompt).IsRow 3 :=
    fun r _ => axes_row r.prompt
  rcases getOrGenerate_outcome new_metadata (fun _ => ⟨none, rfl⟩) (.nil store)
    (new_manager "default") (by decide) (MetadataStore.HasDim.of_absent rfl 3) [] rows rfl rfl with
    ⟨matched, -, found, -⟩ | ⟨-, -, generated⟩ | ⟨-, full, -⟩
  · have missed : ((manager "default").search (drive (manager "default").exec ⟨store, []⟩
        [request "a", request "a"]).store "b" 1).toOption.map List.length = some 0 := by
      decide +kernel
    change (manager "default").search _ "b" 1 = _ at found
    rw [found] at missed
    cases missed
  · exact generated
  · exact absurd full (by decide +kernel)

/-- The third prompt on a store for two entries raises. -/
theorem getOrGenerate_raises_when_full :
    EStateResult.outcome ((manager "default").exec (request "c")
      (drive (manager "default").exec ⟨store, []⟩ [request "a", request "b"])) =
      .error (.valueError "HNSWIndex max_elements limit reached") := by
  decide +kernel

end

end IntelliL3
