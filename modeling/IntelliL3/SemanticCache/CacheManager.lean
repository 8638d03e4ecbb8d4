import IntelliL3.Core.SemanticIndex

/-! # Semantic cache manager

`semantic_cache/cache_manager.py`: a prompt is answered by the stored response of
a similar prompt, or by a generator whose response is then stored. The generator
works on a state of its own, which only it changes.
-/

namespace IntelliL3

open Lib

structure SemanticCacheManager where
  embed : String → NdArray
  threshold : Rat
  modelName : String
  /-- `similarity_threshold must be in [0.0, 1.0]` -/
  thresholdInRange : 0 ≤ threshold ∧ threshold ≤ 1

structure SemanticCacheStats where
  indexedEntries : Nat
  similarityThreshold : Rat

/-- A store, and the state the generators work on. -/
structure Session (β η γ : Type) where
  store : UnifiedObjectStore β η
  outside : γ

abbrev SessionM (β η γ : Type) := EStateM PyError (Session β η γ)

namespace Session

variable {β η γ α : Type}

def onStore (action : StoreM β η α) : SessionM β η γ α :=
  zoom store (fun self store => { self with store }) action

def onOutside (action : EStateM PyError γ α) : SessionM β η γ α :=
  zoom outside (fun self outside => { self with outside }) action

end Session

namespace SemanticCacheManager

open Session UnifiedObjectStore

variable {β η γ Bytes : Type}

def stats (self : SemanticCacheManager) (store : UnifiedObjectStore β η) :
    SemanticCacheStats where
  indexedEntries := store.metadata.stats.hnswSize
  similarityThreshold := self.threshold

section

variable [Hnswlib η] [PyRuntime]

def search (self : SemanticCacheManager) (store : UnifiedObjectStore β η) (prompt : String)
    (k : Int := 5) : Except PyError (List (String × Rat)) :=
  store.metadata.searchSimilarPrompts (self.embed prompt) k self.threshold

end

/-- The entry a miss stores. -/
def entryFor (self : SemanticCacheManager) (prompt response uuid : String) (now : Rat) :
    SemanticCacheEntry where
  objMeta := .new .semanticCache uuid now
  promptText := prompt
  responseText := response
  modelName := self.modelName
  similarityThreshold := self.threshold

section

variable [StorageBackend (EStateM PyError β) Bytes] [PyRuntime] [Serializer Bytes] [Hnswlib η]

/-- One id of the loop: it is made known to the Bloom filter, then read and indexed. -/
def loadEntry (objectId : String) (now : Rat) : StoreM β η Unit := do
  modify fun self =>
    { self with metadata := self.metadata.onObjectAdded .semanticCache objectId none }
  match ← getSemanticEntry objectId now with
  | none => pure ()
  | some (_, embedding) => onMetadata (MetadataStore.onSemanticEntryAdded objectId embedding)

def loadExistingEntries (now : Rat) : StoreM β η Unit := do
  let entryIds ← listSemanticEntries
  entryIds.forM fun objectId => loadEntry objectId now

/-- `SemanticCacheManager(store, embedding_service, ...)` -/
def new (embed : String → NdArray) (now : Rat) (similarityThreshold : Rat := 17 / 20)
    (modelName : String := "default") : StoreM β η SemanticCacheManager :=
  if inRange : 0 ≤ similarityThreshold ∧ similarityThreshold ≤ 1 then do
    loadExistingEntries now
    return { embed, threshold := similarityThreshold, modelName, thresholdInRange := inRange }
  else throw (.valueError "similarity_threshold must be in [0.0, 1.0]")

/-- What a miss does: the response is generated and stored under a drawn id. -/
def generate (self : SemanticCacheManager) (prompt : String)
    (generator : String → EStateM PyError γ String) (uuid : String) (now : Rat) :
    SessionM β η γ (String × Bool) := do
  let response ← onOutside (generator prompt)
  let _ ← onStore (putSemanticEntry (self.entryFor prompt response uuid now) (self.embed prompt))
  return (response, false)

def getOrGenerate (self : SemanticCacheManager) (prompt : String)
    (generator : String → EStateM PyError γ String) (uuid : String) (now : Rat) :
    SessionM β η γ (String × Bool) := do
  let metadata := (← get).store.metadata
  let found ← raising (metadata.searchSimilarPrompts (self.embed prompt) 1 self.threshold)
  match found with
  | [] => self.generate prompt generator uuid now
  | (objectId, _) :: _ =>
      match ← onStore (getSemanticEntry objectId now) with
      | some (entry, _) => return (entry.responseText, true)
      | none =>
          -- The index points to a missing object: it is dropped, and this is a miss.
          onStore (onMetadata (MetadataStore.onObjectRemoved .semanticCache objectId))
          self.generate prompt generator uuid now

end

/-! ## What the operations do -/

section

variable [PyRuntime] [Serializer Bytes] [Hnswlib η]

omit [Hnswlib η] in
theorem getSemanticEntry_run (store : UnifiedObjectStore (MemoryBackend Bytes) η)
    (objectId : String) (now : Rat) :
    getSemanticEntry objectId now store =
      raising (EStateResult.outcome (getSemanticEntry objectId now store)) store := by
  have asGet : getSemanticEntry objectId now store =
      UnifiedObjectStore.get .semanticCache objectId now store := rfl
  rw [asGet, get_eq]
  generalize (if store.metadata.mightExist objectId then
    ((ReadableBackend.view store.backend).read store.config .semanticCache objectId).map
      (Option.map (Payload.touch now))
    else .ok none) = answer
  cases answer <;> rfl

theorem loadExistingEntries_eq (now : Rat)
    (store : UnifiedObjectStore (MemoryBackend Bytes) η) :
    loadExistingEntries now store =
      (store.backend.listed (store.config.keyPrefix .semanticCache)).forM
        (fun objectId => loadEntry objectId now) store := by
  have listing : listSemanticEntries store =
      .ok (store.backend.listed (store.config.keyPrefix .semanticCache)) store :=
    store.list_eq .semanticCache
  rw [loadExistingEntries, bind_run, listing]

/-- A manager that was built has loaded the store, and has what it was given. -/
theorem new_ok {store store' : UnifiedObjectStore (MemoryBackend Bytes) η}
    {embed : String → NdArray} {now similarityThreshold : Rat} {modelName : String}
    {manager : SemanticCacheManager}
    (built : new embed now similarityThreshold modelName store = .ok manager store') :
    loadExistingEntries now store = .ok () store' ∧ manager.embed = embed ∧
      manager.threshold = similarityThreshold := by
  unfold new at built
  split at built
  · obtain ⟨_, m, loaded, built⟩ := bind_run_ok.mp built
    cases built
    exact ⟨loaded, rfl, rfl⟩
  · cases built

/-- A store that loads gets its manager, if the threshold is in range. -/
theorem new_returns {store store' : UnifiedObjectStore (MemoryBackend Bytes) η} {now : Rat}
    (loaded : loadExistingEntries now store = .ok () store') (embed : String → NdArray)
    {similarityThreshold : Rat} (inRange : 0 ≤ similarityThreshold ∧ similarityThreshold ≤ 1)
    (modelName : String) :
    new embed now similarityThreshold modelName store =
      .ok { embed, threshold := similarityThreshold, modelName, thresholdInRange := inRange }
        store' := by
  unfold new
  rw [dif_pos inRange, bind_run, loaded]
  rfl

theorem loadEntry_eq (store : UnifiedObjectStore (MemoryBackend Bytes) η) (objectId : String)
    (now : Rat) :
    loadEntry objectId now store =
      let known := { store with metadata := store.metadata.bloomed objectId }
      match store.backend.read store.config .semanticCache objectId with
      | .error e => .error e known
      | .ok none => .ok () known
      | .ok (some payload) =>
          onMetadata (MetadataStore.onSemanticEntryAdded objectId payload.2) known := by
  have found := get_eq { store with metadata := store.metadata.bloomed objectId }
    .semanticCache objectId now
  rw [if_pos (store.metadata.mightExist_bloomed_self objectId)] at found
  change getSemanticEntry objectId now { store with metadata := store.metadata.bloomed objectId } =
    raising ((store.backend.read store.config .semanticCache objectId).map _) _ at found
  have step : loadEntry objectId now store = (do
      match ← getSemanticEntry objectId now with
      | none => pure ()
      | some (_, embedding) =>
          onMetadata (MetadataStore.onSemanticEntryAdded objectId embedding) :
      StoreM (MemoryBackend Bytes) η Unit)
      { store with metadata := store.metadata.bloomed objectId } := rfl
  rw [step, bind_run, found]
  rcases store.backend.read store.config .semanticCache objectId with e | (_ | payload) <;> rfl

theorem generate_eq (self : SemanticCacheManager) (prompt : String)
    (generator : String → EStateM PyError γ String) (uuid : String) (now : Rat)
    (s : Session (MemoryBackend Bytes) η γ) :
    self.generate prompt generator uuid now s =
      match generator prompt s.outside with
      | .error e outside => .error e { s with outside }
      | .ok response outside =>
          match putSemanticEntry (self.entryFor prompt response uuid now) (self.embed prompt)
            s.store with
          | .error e store => .error e { store, outside }
          | .ok _ store => .ok (response, false) { store, outside } := by
  rw [generate, bind_run, onOutside, zoom_run]
  cases generator prompt s.outside with
  | error e outside => rfl
  | ok response outside =>
      simp only [bind_run, onStore, zoom_run]
      cases putSemanticEntry (self.entryFor prompt response uuid now) (self.embed prompt)
        s.store <;> rfl

theorem getOrGenerate_eq (self : SemanticCacheManager) (prompt : String)
    (generator : String → EStateM PyError γ String) (uuid : String) (now : Rat)
    (s : Session (MemoryBackend Bytes) η γ) :
    self.getOrGenerate prompt generator uuid now s =
      match s.store.metadata.searchSimilarPrompts (self.embed prompt) 1 self.threshold with
      | .error e => .error e s
      | .ok [] => self.generate prompt generator uuid now s
      | .ok ((objectId, _) :: _) =>
          match EStateResult.outcome (getSemanticEntry objectId now s.store) with
          | .error e => .error e s
          | .ok (some found) => .ok (found.1.responseText, true) s
          | .ok none =>
              match MetadataStore.onObjectRemoved .semanticCache objectId s.store.metadata with
              | .error e metadata => .error e { s with store := { s.store with metadata } }
              | .ok _ metadata =>
                  self.generate prompt generator uuid now
                    { s with store := { s.store with metadata } } := by
  rw [getOrGenerate, bind_run, get_run]
  simp only [bind_run]
  rcases s.store.metadata.searchSimilarPrompts (self.embed prompt) 1 self.threshold with
    e | (_ | ⟨⟨objectId, similarity⟩, rest⟩)
  · rfl
  · rfl
  · simp only [raising_ok, bind_run, onStore, zoom_run]
    rw [getSemanticEntry_run]
    rcases EStateResult.outcome (getSemanticEntry objectId now s.store) with e | (_ | found)
    · rfl
    · simp only [raising_ok, bind_run, zoom_run, onMetadata]
      cases MetadataStore.onObjectRemoved .semanticCache objectId s.store.metadata <;> rfl
    · rfl

end

end SemanticCacheManager

end IntelliL3
