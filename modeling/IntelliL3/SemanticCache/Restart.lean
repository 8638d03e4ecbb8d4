import IntelliL3.Core.Listing
import IntelliL3.Core.Reopen
import IntelliL3.SemanticCache.ExactCache

/-! # A semantic cache after a restart

As long as no entry was refused, the entries of the store are the rows of the
cache. A new manager loads them all, in the order of their ids, and is the same
cache again: from then on it answers as the old one would.
-/

namespace IntelliL3

open Lib UnifiedObjectStore

namespace SemanticCacheManager

variable {η γ Bytes : Type} [PyRuntime] [Serializer Bytes] [Hnswlib η] [LawfulHnswlib η]
  {manager : SemanticCacheManager} {s t : Session (MemoryBackend Bytes) η γ}
  {cache : NearestCache (List Rat) String γ} {drawn drawn' : List String}
  {stored stored' : String → Option (Payload .semanticCache)}
  {vectors vectors' : String → Option (List Rat)} {expectedItems reopenedItems : Int} {dim : Nat}
  {request request' : Request γ}

/-! ## Loading -/

/-- What is indexed once these ids are loaded. -/
def loadedVectors (stored : String → Option (Payload .semanticCache)) (loaded : List String)
    (id : String) : Option (List Rat) :=
  if id ∈ loaded then (stored id).map fun payload => payload.2.asFloat32 else none

theorem loadedVectors_skip {id : String} (loaded : List String) (absent : stored id = none) :
    loadedVectors stored (loaded ++ [id]) = loadedVectors stored loaded := by
  funext other
  unfold loadedVectors
  by_cases here : other = id
  · simp [here, absent]
  · simp [here]

theorem loadedVectors_load {id : String} {payload : Payload .semanticCache} (loaded : List String)
    (held : stored id = some payload) :
    loadedVectors stored (loaded ++ [id]) =
      Function.update (loadedVectors stored loaded) id (some payload.2.asFloat32) := by
  funext other
  unfold loadedVectors
  by_cases here : other = id
  · simp [here, held]
  · simp [here]

/-- The entries among the ids of a loop fit into the index, so each of them is accepted. -/
theorem load_returns {store : UnifiedObjectStore (MemoryBackend Bytes) η} {now : Rat}
    (positive : 0 < dim) (isRow : ∀ id payload, stored id = some payload → payload.2.IsRow dim)
    {ids loaded : List String} (distinct : (loaded ++ ids).Nodup)
    (few : ((loaded ++ ids).filter fun id => (stored id).isSome).length ≤ expectedItems)
    (serves : store.Serves stored (loadedVectors stored loaded) expectedItems)
    (hasDim : store.metadata.HasDim dim) :
    ∃ store', ids.forM (fun id => loadEntry id now) store = .ok () store' ∧
      store'.Serves stored (loadedVectors stored (loaded ++ ids)) expectedItems ∧
      store'.metadata.HasDim dim := by
  induction ids generalizing loaded store with
  | nil =>
      rw [List.append_nil]
      exact ⟨store, rfl, serves, hasDim⟩
  | cons id rest ih =>
      have split : loaded ++ id :: rest = (loaded ++ [id]) ++ rest := by simp
      have first : ∃ between, loadEntry id now store = .ok () between ∧
          between.Serves stored (loadedVectors stored (loaded ++ [id])) expectedItems ∧
          between.metadata.HasDim dim := by
        rw [loadEntry_eq, serves.tracks.reads]
        cases held : stored id with
        | none =>
            rw [loadedVectors_skip loaded held]
            exact ⟨_, rfl, serves.bloomed id, hasDim⟩
        | some payload =>
            have knew := serves.bloomed id
            have notLoaded : id ∉ loaded := fun member =>
              (List.nodup_append.mp distinct).2.2 _ member _ List.mem_cons_self rfl
            have unknown : loadedVectors stored loaded id = none := if_neg notLoaded
            have size : (store.metadata.bloomed id).stats.hnswSize =
                (loaded.filter fun id => (stored id).isSome).length := by
              refine knew.tracks.mirrors.hnswSize_eq
                ((List.nodup_append.mp distinct).1.filter _) fun other => ?_
              rw [List.mem_filter, loadedVectors]
              by_cases member : other ∈ loaded <;> simp [member]
            have room : ((store.metadata.bloomed id).stats.hnswSize : Int) <
                (store.metadata.bloomed id).expectedItems := by
              rw [knew.capacity, size]
              rw [List.filter_append, List.length_append, List.filter_cons_of_pos (by simp [held]),
                List.length_cons] at few
              omega
            obtain ⟨metadata, indexing⟩ := MetadataStore.onSemanticEntryAdded_returns
              knew.tracks.mirrors knew.inStep positive hasDim (isRow id payload held)
              (Or.inl room)
            have serves' := knew.indexed held indexing
            rw [unknown, Option.getD_none, ← loadedVectors_load loaded held] at serves'
            refine ⟨{ store with metadata }, ?_, serves',
              MetadataStore.HasDim.added (isRow id payload held) indexing⟩
            simp only [onMetadata, zoom_run, indexing]
      obtain ⟨between, done, serves', hasDim'⟩ := first
      rw [split] at distinct few ⊢
      obtain ⟨store', later, final⟩ := ih distinct few serves' hasDim'
      refine ⟨store', ?_, final⟩
      change (loadEntry id now >>= fun _ => rest.forM fun id => loadEntry id now) store = _
      rw [bind_run, done]
      exact later

namespace ServesAs

/-- A reopened store is loaded in full, and serves the rows the old one serves. -/
theorem reopened [LawfulSerializer Bytes]
    (serving : ServesAs s cache drawn stored vectors expectedItems dim)
    (all : AllAccepted dim stored vectors)
    (plain : ∀ id ∈ drawn, id ≠ "" ∧ '.' ∉ id.toList) {fpRate : Rat}
    {embeddingDim : Option Int} {metadata : MetadataStore η}
    (fresh : MetadataStore.new reopenedItems fpRate embeddingDim = .ok metadata)
    (positive : 0 < dim) (hasDim : metadata.HasDim dim)
    (few : cache.rows.length ≤ reopenedItems) (now : Rat) :
    ∃ store, loadExistingEntries now (s.store.reopen metadata) = .ok () store ∧
      ServesAs ⟨store, s.outside⟩ cache drawn stored vectors reopenedItems dim := by
  let ids := s.store.backend.listed (s.store.config.keyPrefix .semanticCache)
  have distinct : ids.Nodup := (s.store.backend.listed_sorted _).imp ne_of_lt
  have same : ∀ id, (vectors id).isSome = (stored id).isSome := fun id => by
    rw [all.indexed, Option.isSome_map]
  have lists : ∀ id, (vectors id).isSome → id ∈ ids := by
    intro id indexed
    obtain ⟨payload, held⟩ := Option.isSome_iff_exists.mp (same id ▸ indexed)
    exact MemoryBackend.mem_listed_of_read (held ▸ serving.serves.tracks.reads id)
      (plain id (serving.drawn id indexed))
  have members : ∀ id, id ∈ ids.filter (fun id => (stored id).isSome) ↔ (vectors id).isSome := by
    intro id
    rw [List.mem_filter, same]
    exact ⟨fun member => member.2, fun held => ⟨lists id (same id ▸ held), held⟩⟩
  have size : (ids.filter fun id => (stored id).isSome).length = cache.rows.length := by
    rw [← serving.counted]
    exact (serving.serves.tracks.mirrors.hnswSize_eq (distinct.filter _) members).symm
  have everything : loadedVectors stored ([] ++ ids) = vectors := by
    funext id
    rw [List.nil_append, loadedVectors]
    by_cases member : id ∈ ids
    · rw [if_pos member, all.indexed]
    · rw [if_neg member]
      exact (Option.not_isSome_iff_eq_none.mp fun indexed => member (lists id indexed)).symm
  have start : (s.store.reopen metadata).Serves stored (loadedVectors stored []) reopenedItems := by
    have nothing : loadedVectors stored [] = fun _ => none := by
      funext id
      exact if_neg List.not_mem_nil
    rw [nothing]
    exact Serves.fresh fresh serving.serves.tracks.reads
  have fits : ((([] ++ ids).filter fun id => (stored id).isSome).length : Int) ≤ reopenedItems := by
    rw [List.nil_append, size]
    exact few
  have loads : ∃ store, ids.forM (fun id => loadEntry id now) (s.store.reopen metadata) =
      .ok () store ∧ store.Serves stored (loadedVectors stored ([] ++ ids)) reopenedItems ∧
      store.metadata.HasDim dim :=
    load_returns positive all.row distinct fits start hasDim
  rw [everything] at loads
  obtain ⟨store, loaded, serves, hasDim'⟩ := loads
  refine ⟨store, ?_, serves, hasDim', serving.sound, serving.complete, ?_, serving.drawn,
    serving.outside⟩
  · rw [loadExistingEntries_eq]
    exact loaded
  · rw [← size]
    exact serves.tracks.mirrors.hnswSize_eq (distinct.filter _) members

/-! ## Two managers over the same rows -/

/-- A miss that finds the index full raises, and no row is added. -/
theorem exec_full [LawfulSerializer Bytes] (exact : ExactNearest η)
    (serving : ServesAs s cache drawn stored vectors expectedItems dim) (positive : 0 < dim)
    (row : (manager.embed request.prompt).IsRow dim) (new : request.uuid ∉ drawn)
    (bounded : cache.rows.length ≤ expectedItems)
    (overflow : expectedItems < ((manager.spec η).step cache request).rows.length) :
    EStateResult.outcome (manager.exec request s) = .error (MetadataStore.noRoom expectedItems) ∧
      ∃ stored', ServesAs (EStateResult.state (manager.exec request s))
        { cache with outside := ((manager.spec η).step cache request).outside }
        (drawn ++ [request.uuid]) stored' vectors expectedItems dim := by
  rcases serving.hit_or_miss exact row with ⟨found, best, reaches, -⟩ | ⟨noHit, miss⟩
  · rw [NearestSpec.step_hit (best.hit_iff.mpr reaches)] at overflow
    omega
  · have unknown := serving.unknown new
    rw [miss, generate_eq, serving.outside]
    cases generated : request.generator request.prompt cache.outside with
    | error e outside =>
        have raised : (manager.spec η).generate request cache.outside = .error e outside :=
          generated
        rw [NearestSpec.step_raised noHit raised] at overflow
        have kept : expectedItems < cache.rows.length := overflow
        omega
    | ok response outside =>
        have returned : (manager.spec η).generate request cache.outside =
            .ok response outside := generated
        rw [NearestSpec.step_generated noHit returned] at overflow ⊢
        rw [List.length_append, List.length_singleton] at overflow
        obtain ⟨stamped, -, stores⟩ := serving.serves.put_or_full positive serving.hasDim
          (manager.entryFor request.prompt response request.uuid request.now) row
        rcases stores with ⟨room | known, -⟩ | ⟨-, store, refused, hasDim, serves, size⟩
        · rw [serving.counted] at room
          omega
        · have absent := Option.not_isSome_iff_eq_none.mpr unknown
          exact absurd known absent
        · have others : ∀ id, (vectors id).isSome → id ≠ request.uuid := by
            rintro id indexed rfl
            rw [unknown] at indexed
            cases indexed
          simp only [refused]
          refine ⟨rfl, _, serves, hasDim, fun id vector payload indexed held => ?_,
            fun other member => ?_, size.trans serving.counted,
            fun id indexed => List.mem_append_left _ (serving.drawn id indexed), rfl⟩
          · have other : id ≠ request.uuid := others id (by rw [indexed]; rfl)
            have before : stored id = some payload :=
              (Function.update_of_ne other _ _).symm.trans held
            exact serving.sound id vector payload indexed before
          · obtain ⟨id, payload, indexed, held, text⟩ := serving.complete other member
            have differ : id ≠ request.uuid := others id (by rw [indexed]; rfl)
            exact ⟨id, payload, indexed, (Function.update_of_ne differ _ _).trans held, text⟩

end ServesAs

/-- Only one indexed entry is most similar to a prompt. -/
def Untied (manager : SemanticCacheManager)
    (store : UnifiedObjectStore (MemoryBackend Bytes) η) (prompt : String) : Prop :=
  ∀ id other vector vector', store.indexedVector id = some vector →
    store.indexedVector other = some vector' →
    (∀ another further, store.indexedVector another = some further →
      manager.similarityTo η prompt further ≤ manager.similarityTo η prompt vector ∧
        manager.similarityTo η prompt further ≤ manager.similarityTo η prompt vector') →
    id = other

theorem ServesAs.untied (serving : ServesAs s cache drawn stored vectors expectedItems dim)
    (untied : manager.Untied s.store request.prompt) :
    (manager.spec η).Untied cache.rows request := by
  intro row other best best'
  obtain ⟨id, payload, indexed, held, text⟩ := serving.complete row best.1
  obtain ⟨id', payload', indexed', held', text'⟩ := serving.complete other best'.1
  have same : id = id' := by
    refine untied id id' row.1 other.1 ?_ ?_ fun another further here => ?_
    · rw [serving.serves.tracks.indexedVector, indexed]
    · rw [serving.serves.tracks.indexedVector, indexed']
    · rw [serving.serves.tracks.indexedVector] at here
      obtain ⟨payload'', held''⟩ := Option.isSome_iff_exists.mp
        (serving.serves.tracks.held another (by rw [here]; rfl))
      have member := serving.sound another further payload'' here held''
      exact ⟨best.2 _ member, best'.2 _ member⟩
  subst same
  rw [indexed] at indexed'
  rw [held] at held'
  cases held'
  exact Prod.ext (Option.some.inj indexed') (text.symm.trans text')

/-- The same question, under other ids and at other times. -/
def SameQuestion (request request' : Request γ) : Prop :=
  request'.prompt = request.prompt ∧ request'.generator = request.generator

theorem SameQuestion.step_eq {manager : SemanticCacheManager}
    (same : SameQuestion request request') (cache : NearestCache (List Rat) String γ) :
    (manager.spec η).step cache request' = (manager.spec η).step cache request := by
  obtain ⟨prompt, generator, uuid, now⟩ := request
  obtain ⟨prompt', generator', uuid', now'⟩ := request'
  obtain ⟨rfl, rfl⟩ := same
  rfl

theorem SameQuestion.answers_iff {manager : SemanticCacheManager}
    (same : SameQuestion request request') (cache : NearestCache (List Rat) String γ)
    (answer : Except PyError (String × Bool)) :
    (manager.spec η).Answers cache request' answer ↔
      (manager.spec η).Answers cache request answer := by
  obtain ⟨prompt, generator, uuid, now⟩ := request
  obtain ⟨prompt', generator', uuid', now'⟩ := request'
  obtain ⟨rfl, rfl⟩ := same
  exact Iff.rfl

/-- Two indexes of one capacity, or room for all these calls in both. -/
def SameRoom (manager : SemanticCacheManager) (expectedItems reopenedItems : Int)
    (cache : NearestCache (List Rat) String γ) (calls : List (Request γ)) : Prop :=
  reopenedItems = expectedItems ∨
    (calls.foldl (manager.spec η).step cache).rows.length ≤ expectedItems ∧
      (calls.foldl (manager.spec η).step cache).rows.length ≤ reopenedItems

namespace ServesAs

variable [LawfulSerializer Bytes] {manager' : SemanticCacheManager}

/-- The same question to two managers over the same rows has one answer, after which
    they are over the same rows again. -/
theorem exec_agrees (exact : ExactNearest η) (twin : manager'.spec η = manager.spec (γ := γ) η)
    (sameEmbed : manager'.embed = manager.embed)
    (serving : ServesAs s cache drawn stored vectors expectedItems dim)
    (serving' : ServesAs t cache drawn' stored' vectors' reopenedItems dim)
    (positive : 0 < dim) (row : (manager.embed request.prompt).IsRow dim)
    (question : SameQuestion request request') (new : request.uuid ∉ drawn)
    (new' : request'.uuid ∉ drawn') (untied : manager.Untied s.store request.prompt)
    (bounded : cache.rows.length ≤ expectedItems ∧ cache.rows.length ≤ reopenedItems)
    {rest : List (Request γ)}
    (room : SameRoom (η := η) manager expectedItems reopenedItems cache (request :: rest)) :
    EStateResult.outcome (manager'.exec request' t) =
        EStateResult.outcome (manager.exec request s) ∧
      ∃ after : NearestCache (List Rat) String γ,
        after.rows.length ≤ expectedItems ∧ after.rows.length ≤ reopenedItems ∧
        SameRoom (η := η) manager expectedItems reopenedItems after rest ∧
        (∃ stored vectors, ServesAs (EStateResult.state (manager.exec request s)) after
          (drawn ++ [request.uuid]) stored vectors expectedItems dim) ∧
        ∃ stored vectors, ServesAs (EStateResult.state (manager'.exec request' t)) after
          (drawn' ++ [request'.uuid]) stored vectors reopenedItems dim := by
  have row' : (manager'.embed request'.prompt).IsRow dim := by
    rw [sameEmbed, question.1]
    exact row
  have step_eq : (manager'.spec η).step cache request' = (manager.spec η).step cache request := by
    rw [twin]
    exact question.step_eq cache
  by_cases fits : ((manager.spec η).step cache request).rows.length ≤ expectedItems ∧
      ((manager.spec η).step cache request).rows.length ≤ reopenedItems
  · obtain ⟨answers, stored₁, vectors₁, -, after⟩ := serving.exec exact positive row new fits.1
    obtain ⟨answers', stored₂, vectors₂, -, after'⟩ := serving'.exec exact positive row' new'
      (by rw [step_eq]; exact fits.2)
    rw [step_eq] at after'
    rw [twin] at answers'
    exact ⟨((question.answers_iff cache _).mp answers').unique (serving.untied untied) answers,
      _, fits.1, fits.2, room, ⟨stored₁, vectors₁, after⟩, stored₂, vectors₂, after'⟩
  · -- A row too many: with the same capacity, both managers meet a full index.
    have grows := (manager.spec η).length_le_foldl ((manager.spec η).step cache request) rest
    rcases room with same | ⟨within, within'⟩
    · subst same
      have overflow : reopenedItems < ((manager.spec η).step cache request).rows.length := by omega
      obtain ⟨raised, stored₁, after⟩ := serving.exec_full exact positive row new bounded.1 overflow
      obtain ⟨raised', stored₂, after'⟩ := serving'.exec_full exact positive row' new' bounded.1
        (by rw [step_eq]; exact overflow)
      rw [step_eq] at after'
      exact ⟨raised'.trans raised.symm,
        { cache with outside := ((manager.spec η).step cache request).outside },
        bounded.1, bounded.2, Or.inl rfl,
        ⟨stored₁, vectors, after⟩, stored₂, vectors', after'⟩
    · rw [List.foldl_cons] at within within'
      omega

/-- Two managers over the same rows answer the same questions alike. -/
theorem outcomes_agree (exact : ExactNearest η) (positive : 0 < dim)
    (twin : manager'.spec η = manager.spec (γ := γ) η) (sameEmbed : manager'.embed = manager.embed)
    (serving : ServesAs s cache drawn stored vectors expectedItems dim)
    (serving' : ServesAs t cache drawn' stored' vectors' reopenedItems dim)
    (bounded : cache.rows.length ≤ expectedItems ∧ cache.rows.length ≤ reopenedItems)
    {calls calls' : List (Request γ)} (questions : List.Forall₂ SameQuestion calls calls')
    (rows : ∀ r ∈ calls, (manager.embed r.prompt).IsRow dim)
    (distinct : (drawn ++ calls.map Request.uuid).Nodup)
    (distinct' : (drawn' ++ calls'.map Request.uuid).Nodup)
    (untied : ∀ pre request post, calls = pre ++ request :: post →
      manager.Untied (drive manager.exec s pre).store request.prompt)
    (room : SameRoom (η := η) manager expectedItems reopenedItems cache calls) :
    outcomes manager'.exec t calls' = outcomes manager.exec s calls := by
  induction questions generalizing s t cache drawn drawn' stored stored' vectors vectors' with
  | nil => rfl
  | @cons request request' rest rest' question _ ih =>
      rw [List.map_cons] at distinct distinct'
      have new : request.uuid ∉ drawn := fun member =>
        (List.nodup_append.mp distinct).2.2 _ member _ List.mem_cons_self rfl
      have new' : request'.uuid ∉ drawn' := fun member =>
        (List.nodup_append.mp distinct').2.2 _ member _ List.mem_cons_self rfl
      obtain ⟨same, after, within, within', room', ⟨_, _, next⟩, _, _, next'⟩ :=
        serving.exec_agrees exact twin sameEmbed serving' positive
          (rows request List.mem_cons_self) question new new'
          (untied [] request rest rfl) bounded room
      rw [← List.singleton_append, ← List.append_assoc] at distinct distinct'
      rw [outcomes, outcomes, same]
      refine congrArg _ (ih next next' ⟨within, within'⟩
        (fun r later => rows r (List.mem_cons_of_mem _ later)) distinct distinct' ?_ room')
      intro pre later post split
      exact untied (request :: pre) later post (by rw [split]; rfl)

end ServesAs

end SemanticCacheManager

open SemanticCacheManager

section

variable {η γ Bytes : Type} [PyRuntime] [Serializer Bytes] [LawfulSerializer Bytes] [Hnswlib η]
  [LawfulHnswlib η]

/-- With exact neighbours, a manager started again over the store of a run answers every
    later sequence of questions as the old one would, as long as there are no ties. -/
theorem semantic_cache_survives_restart (exact : ExactNearest η)
    {expectedItems reopenedItems : Int} {fpRate reopenedRate : Rat}
    {embeddingDim reopenedDim : Option Int} {metadata reopened : MetadataStore η}
    (fresh : MetadataStore.new expectedItems fpRate embeddingDim = .ok metadata)
    (freshAgain : MetadataStore.new reopenedItems reopenedRate reopenedDim = .ok reopened)
    {config : L3Config} {embed : String → NdArray} {now now' threshold : Rat}
    {modelName modelName' : String} {manager : SemanticCacheManager}
    {store : UnifiedObjectStore (MemoryBackend Bytes) η}
    (built : SemanticCacheManager.new embed now threshold modelName
      (overEmpty Bytes config metadata) = .ok manager store)
    {dim : Nat} (positive : 0 < dim) (hasDim : metadata.HasDim dim)
    (hasDimAgain : reopened.HasDim dim) (outside : γ) {requests : List (Request γ)}
    (rows : ∀ r ∈ requests, (embed r.prompt).IsRow dim)
    (distinct : (requests.map Request.uuid).Nodup)
    (plain : ∀ r ∈ requests, r.uuid ≠ "" ∧ '.' ∉ r.uuid.toList)
    (few : ((manager.spec η).replay outside requests).rows.length ≤ expectedItems)
    (fewAgain : ((manager.spec η).replay outside requests).rows.length ≤ reopenedItems) :
    let reached := drive manager.exec ⟨store, outside⟩ requests
    ∃ manager' store', SemanticCacheManager.new embed now' threshold modelName'
        (reached.store.reopen reopened) = .ok manager' store' ∧
      ∀ further further' : List (Request γ), List.Forall₂ SameQuestion further further' →
        (∀ r ∈ further, (embed r.prompt).IsRow dim) →
        ((requests ++ further).map Request.uuid).Nodup →
        ((requests ++ further').map Request.uuid).Nodup →
        (∀ pre request post, further = pre ++ request :: post →
          manager.Untied (drive manager.exec reached pre).store request.prompt) →
        SameRoom (η := η) manager expectedItems reopenedItems
          ((manager.spec η).replay outside requests) further →
        outcomes manager'.exec ⟨store', reached.outside⟩ further' =
          outcomes manager.exec reached further := by
  obtain ⟨same, -⟩ := new_overEmpty built
  obtain ⟨-, sameEmbed, sameThreshold⟩ := new_ok built
  subst same sameEmbed sameThreshold
  obtain ⟨stored, vectors, all, serving⟩ := ServesAs.replay Bytes exact fresh config
    positive hasDim outside rows distinct few
  have named : ∀ id ∈ requests.map Request.uuid, id ≠ "" ∧ '.' ∉ id.toList := by
    intro id member
    obtain ⟨r, drawn, rfl⟩ := List.mem_map.mp member
    exact plain r drawn
  obtain ⟨store', loaded, serving'⟩ := serving.reopened all named freshAgain positive hasDimAgain
    fewAgain now'
  refine ⟨_, store', new_returns loaded manager.embed manager.thresholdInRange modelName', ?_⟩
  intro further further' questions later distinct distinct' untied room
  rw [List.map_append] at distinct distinct'
  have twin : spec (γ := γ) η ⟨manager.embed, manager.threshold, modelName',
    manager.thresholdInRange⟩ = manager.spec η := rfl
  exact ServesAs.outcomes_agree exact positive twin rfl serving serving' ⟨few, fewAgain⟩ questions
    later distinct distinct' untied room

end

section

open Reference

/-- A prompt answered before the restart is a hit after it. -/
theorem semantic_cache_survives_restart_hit :
    let reached := drive (manager "default").exec ⟨store, []⟩ [request "a"]
    ∃ manager' store', SemanticCacheManager.new axes 0 1 "other"
        (reached.store.reopen metadata) = .ok manager' store' ∧
      outcomes manager'.exec ⟨store', reached.outside⟩ [{ request "a" with uuid := "c" }] =
        [.ok ("answer to a", true)] := by
  have noIndex : metadata.HasDim 3 := MetadataStore.HasDim.of_absent rfl 3
  have rows : ∀ r ∈ [request "a"], ((manager "default").embed r.prompt).IsRow 3 :=
    fun r _ => axes_row r.prompt
  obtain ⟨manager', store', built, agree⟩ := semantic_cache_survives_restart
    FlatIndex.exactNearest new_metadata new_metadata (new_manager "default") (by decide) noIndex
    noIndex [] rows (by decide) (by decide) (by decide +kernel) (by decide +kernel)
  obtain ⟨stored, vectors, -, serving⟩ := ServesAs.replay Encoded FlatIndex.exactNearest
    new_metadata .default (by decide) noIndex [] rows (by decide) (by decide +kernel)
  have only : ∀ id vector, UnifiedObjectStore.indexedVector
      (drive (manager "default").exec ⟨store, []⟩ [request "a"]).store id = some vector →
      id = "a" := by
    intro id vector indexed
    refine List.mem_singleton.mp (serving.drawn id ?_)
    rw [← serving.serves.tracks.indexedVector]
    exact Option.isSome_iff_exists.mpr ⟨vector, indexed⟩
  refine ⟨manager', store', built, ?_⟩
  have again := agree [{ request "a" with uuid := "b" }] [{ request "a" with uuid := "c" }]
    (.cons ⟨rfl, rfl⟩ .nil) (fun r _ => axes_row r.prompt) (by decide) (by decide) ?_ (Or.inl rfl)
  · exact again.trans (by decide +kernel)
  · intro pre r post split id other vector vector' indexed indexed' _
    cases pre with
    | nil => rw [only id vector indexed, only other vector' indexed']
    | cons first rest => simp at split

end

end IntelliL3
