import IntelliL3.SemanticCache.Serving
import Mathlib.Data.List.Induction

/-! # Where a hit comes from

Managers of any model share one store and one index, and each loads what is
there when it starts. A hit gives the response of a stored entry, which names
the model it was generated for and is not asked about it.
-/

namespace IntelliL3

open Lib UnifiedObjectStore

/-- A step of some manager on a shared store: one starts, or one is asked. -/
inductive SharedOp (γ : Type) where
  | start (embed : String → NdArray) (now threshold : Rat) (modelName : String)
  | ask (manager : SemanticCacheManager) (request : Request γ)

section

variable {η γ Bytes : Type} [PyRuntime] [Serializer Bytes] [Hnswlib η]

namespace SharedOp

/-- The answer of a step; a start has none. -/
def exec : SharedOp γ → SessionM (MemoryBackend Bytes) η γ (Option (String × Bool))
  | .start embed now threshold modelName => do
      let _ ← Session.onStore (SemanticCacheManager.new embed now threshold modelName)
      return none
  | .ask manager request => do return some (← manager.exec request)

end SharedOp

/-- The call that generated the response of an entry, for its own model, and stored it. -/
structure GeneratedBy (s : Session (MemoryBackend Bytes) η γ) (manager : SemanticCacheManager)
    (request : Request γ) (id : String) (payload : Payload .semanticCache) : Prop where
  generated : request.generator request.prompt s.outside =
    .ok payload.1.responseText (EStateResult.state (manager.exec request s)).outside
  stored : (EStateResult.state (manager.exec request s)).store.backend.read s.store.config
    .semanticCache id = .ok (some payload)
  underId : request.uuid = id
  modelName : payload.1.modelName = manager.modelName
  promptText : payload.1.promptText = request.prompt

/-- An entry was there at the start, or an earlier call generated and stored it. -/
def Origin (start : Session (MemoryBackend Bytes) η γ) (ops : List (SharedOp γ)) (id : String)
    (payload : Payload .semanticCache) : Prop :=
  start.store.backend.read start.store.config .semanticCache id = .ok (some payload) ∨
    ∃ before manager request after, ops = before ++ .ask manager request :: after ∧
      GeneratedBy (drive SharedOp.exec start before) manager request id payload

/-- All entries at the start, and all managers asked since, are of one model. -/
structure OneModel (start : Session (MemoryBackend Bytes) η γ) (ops : List (SharedOp γ))
    (modelName : String) : Prop where
  atStart : ∀ id payload, start.store.backend.read start.store.config .semanticCache id =
    .ok (some payload) → payload.1.modelName = modelName
  asked : ∀ manager request, .ask manager request ∈ ops → manager.modelName = modelName

variable {start s : Session (MemoryBackend Bytes) η γ} {ops : List (SharedOp γ)} {id : String}
  {payload : Payload .semanticCache}

namespace Origin

theorem later (origin : Origin start ops id payload) (more : List (SharedOp γ)) :
    Origin start (ops ++ more) id payload := by
  rcases origin with there | ⟨before, manager, request, after, split, generated⟩
  · exact Or.inl there
  · refine Or.inr ⟨before, manager, request, after ++ more, ?_, generated⟩
    rw [split, List.append_assoc, List.cons_append]

theorem modelName (origin : Origin start ops id payload) {modelName : String}
    (single : OneModel start ops modelName) : payload.1.modelName = modelName := by
  rcases origin with there | ⟨before, manager, request, after, split, generated⟩
  · exact single.atStart id payload there
  · exact generated.modelName.trans
      (single.asked manager request (split ▸ List.mem_append_right _ List.mem_cons_self))

end Origin

/-! ## What a step writes -/

theorem loadExistingEntries_backend (now : Rat)
    (store : UnifiedObjectStore (MemoryBackend Bytes) η) :
    (EStateResult.state (SemanticCacheManager.loadExistingEntries now store)).backend =
        store.backend ∧
      (EStateResult.state (SemanticCacheManager.loadExistingEntries now store)).config =
        store.config := by
  rw [SemanticCacheManager.loadExistingEntries_eq]
  refine forM_keeps (I := fun after : UnifiedObjectStore (MemoryBackend Bytes) η =>
    after.backend = store.backend ∧ after.config = store.config) ?_ _ ⟨rfl, rfl⟩
  rintro objectId after ⟨backend, config⟩
  rw [SemanticCacheManager.loadEntry_eq]
  rcases after.backend.read after.config .semanticCache objectId with e | (_ | payload)
  · exact ⟨backend, config⟩
  · exact ⟨backend, config⟩
  · simp only [onMetadata, zoom_run]
    cases MetadataStore.onSemanticEntryAdded objectId payload.2
      (after.metadata.bloomed objectId) <;> exact ⟨backend, config⟩

/-- A manager that starts writes nothing. -/
theorem new_backend (embed : String → NdArray) (now threshold : Rat) (modelName : String)
    (store : UnifiedObjectStore (MemoryBackend Bytes) η) :
    (EStateResult.state (SemanticCacheManager.new embed now threshold modelName store)).backend =
        store.backend ∧
      (EStateResult.state (SemanticCacheManager.new embed now threshold modelName store)).config =
        store.config := by
  unfold SemanticCacheManager.new
  by_cases inRange : 0 ≤ threshold ∧ threshold ≤ 1
  · rw [dif_pos inRange, bind_run]
    have kept := loadExistingEntries_backend now store
    cases loading : SemanticCacheManager.loadExistingEntries now store <;>
      · rw [loading] at kept
        exact kept
  · rw [dif_neg inRange]
    exact ⟨rfl, rfl⟩

theorem start_backend (embed : String → NdArray) (now threshold : Rat) (modelName : String)
    (s : Session (MemoryBackend Bytes) η γ) :
    (EStateResult.state ((SharedOp.start embed now threshold modelName).exec s)).store.backend =
        s.store.backend ∧
      (EStateResult.state ((SharedOp.start embed now threshold modelName).exec s)).store.config =
        s.store.config := by
  have kept := new_backend embed now threshold modelName s.store
  rw [SharedOp.exec, bind_run, Session.onStore, zoom_run]
  cases built : SemanticCacheManager.new embed now threshold modelName s.store <;>
    · rw [built] at kept
      exact kept

/-- A call leaves the backend alone, or writes what its generator returned. -/
def WritesResponse (manager : SemanticCacheManager) (request : Request γ)
    (s after : Session (MemoryBackend Bytes) η γ) : Prop :=
  after.store.config = s.store.config ∧
    (after.store.backend = s.store.backend ∨
      ∃ response stamped,
        request.generator request.prompt s.outside = .ok response after.outside ∧
        (manager.entryFor request.prompt response request.uuid request.now).stamp
          (manager.embed request.prompt) = .ok stamped ∧
        after.store.backend = s.store.backend.write s.store.config (X := .semanticCache)
          (stamped, manager.embed request.prompt))

theorem generate_writes (manager : SemanticCacheManager) (request : Request γ)
    (s : Session (MemoryBackend Bytes) η γ) :
    WritesResponse manager request s (EStateResult.state
      (manager.generate request.prompt request.generator request.uuid request.now s)) := by
  rw [SemanticCacheManager.generate_eq]
  cases generated : request.generator request.prompt s.outside with
  | error e outside => exact ⟨rfl, Or.inl rfl⟩
  | ok response outside =>
      simp only
      rw [putSemanticEntry_eq]
      cases stamping : (manager.entryFor request.prompt response request.uuid request.now).stamp
        (manager.embed request.prompt) with
      | error e => exact ⟨rfl, Or.inl rfl⟩
      | ok stamped =>
          -- The entry is written before the index may refuse it.
          simp only
          cases MetadataStore.onSemanticEntryAdded
              (manager.entryFor request.prompt response request.uuid request.now).objMeta.objectId
              (manager.embed request.prompt) s.store.metadata <;>
            exact ⟨rfl, Or.inr ⟨response, stamped, generated, stamping, rfl⟩⟩

theorem exec_writes (manager : SemanticCacheManager) (request : Request γ)
    (s : Session (MemoryBackend Bytes) η γ) :
    WritesResponse manager request s (EStateResult.state (manager.exec request s)) := by
  rw [SemanticCacheManager.exec, SemanticCacheManager.getOrGenerate_eq]
  rcases s.store.metadata.searchSimilarPrompts (manager.embed request.prompt) 1
    manager.threshold with e | (_ | ⟨⟨objectId, similarity⟩, rest⟩)
  · exact ⟨rfl, Or.inl rfl⟩
  · exact generate_writes manager request s
  · simp only
    rcases EStateResult.outcome (getSemanticEntry objectId request.now s.store) with
      e | (_ | found)
    · exact ⟨rfl, Or.inl rfl⟩
    · simp only
      cases MetadataStore.onObjectRemoved .semanticCache objectId s.store.metadata with
      | error e metadata => exact ⟨rfl, Or.inl rfl⟩
      | ok _ metadata =>
          exact generate_writes manager request { s with store := { s.store with metadata } }
    · exact ⟨rfl, Or.inl rfl⟩

variable [LawfulSerializer Bytes] in
/-- What a call makes readable is what it generated. -/
theorem exec_reads {manager : SemanticCacheManager} {request : Request γ}
    (read : (EStateResult.state (manager.exec request s)).store.backend.read s.store.config
      .semanticCache id = .ok (some payload)) :
    s.store.backend.read s.store.config .semanticCache id = .ok (some payload) ∨
      GeneratedBy s manager request id payload := by
  obtain ⟨-, unwritten | ⟨response, stamped, generated, stamping, written⟩⟩ :=
    exec_writes manager request s
  · exact Or.inl (unwritten ▸ read)
  · have reads := MemoryBackend.read_write s.store.backend s.store.config (X := .semanticCache)
      (stamped, manager.embed request.prompt) id
    rw [← written, read, show Payload.objectId (X := .semanticCache)
      (stamped, manager.embed request.prompt) = request.uuid from
        SemanticCacheEntry.stamp_objectId stamping] at reads
    by_cases here : request.uuid = id
    · rw [if_pos here] at reads
      cases reads
      obtain ⟨text, modelName, promptText⟩ := SemanticCacheEntry.stamp_keeps stamping
      refine Or.inr ⟨?_, read, here, modelName, promptText⟩
      rw [show stamped.responseText = response from text]
      exact generated
    · rw [if_neg here] at reads
      exact Or.inl reads.symm

/-! ## What is read -/

omit [Hnswlib η] in
theorem getSemanticEntry_found {store : UnifiedObjectStore (MemoryBackend Bytes) η} {now : Rat}
    {found : SemanticCacheEntry × NdArray}
    (answer : EStateResult.outcome (getSemanticEntry id now store) = .ok (some found)) :
    ∃ payload, store.backend.read store.config .semanticCache id = .ok (some payload) ∧
      found = Payload.touch now payload := by
  have reading := (store.outcome_get .semanticCache id now).symm.trans answer
  change (if _ then (store.backend.read _ _ _).map _ else _) = _ at reading
  split at reading
  · rcases read : store.backend.read store.config .semanticCache id with e | (_ | payload) <;>
      rw [read] at reading <;> cases reading
    exact ⟨payload, rfl, rfl⟩
  · cases reading

/-- What was generated is not told as a hit. -/
theorem generate_not_hit {manager : SemanticCacheManager} {request : Request γ}
    {response : String} : EStateResult.outcome
      (manager.generate request.prompt request.generator request.uuid request.now s) ≠
        .ok (response, true) := by
  intro hit
  rw [SemanticCacheManager.generate_eq] at hit
  cases generated : request.generator request.prompt s.outside with
  | error e outside => rw [generated] at hit; cases hit
  | ok answer outside =>
      simp only [generated] at hit
      cases stored : putSemanticEntry (manager.entryFor request.prompt answer request.uuid
        request.now) (manager.embed request.prompt) s.store <;> rw [stored] at hit <;> cases hit

/-- A hit gives the response of the entry under an id the search returned. -/
theorem hit_reads {manager : SemanticCacheManager} {request : Request γ} {response : String}
    (hit : EStateResult.outcome (manager.exec request s) = .ok (response, true)) :
    ∃ id similarity rest payload,
      manager.search s.store request.prompt 1 = .ok ((id, similarity) :: rest) ∧
      s.store.backend.read s.store.config .semanticCache id = .ok (some payload) ∧
      response = payload.1.responseText := by
  rw [SemanticCacheManager.exec, SemanticCacheManager.getOrGenerate_eq] at hit
  rcases search : s.store.metadata.searchSimilarPrompts (manager.embed request.prompt) 1
    manager.threshold with e | (_ | ⟨⟨id, similarity⟩, rest⟩)
  · rw [search] at hit
    cases hit
  · rw [search] at hit
    exact absurd hit generate_not_hit
  · simp only [search] at hit
    rcases answer : EStateResult.outcome (getSemanticEntry id request.now s.store) with
      e | (_ | found)
    · rw [answer] at hit
      cases hit
    · simp only [answer] at hit
      cases removal : MetadataStore.onObjectRemoved .semanticCache id s.store.metadata with
      | error e metadata => rw [removal] at hit; cases hit
      | ok _ metadata =>
          rw [removal] at hit
          exact absurd hit generate_not_hit
    · rw [answer] at hit
      cases hit
      obtain ⟨payload, read, same⟩ := getSemanticEntry_found answer
      exact ⟨id, similarity, rest, payload, search, read, congrArg (·.1.responseText) same⟩

variable [LawfulSerializer Bytes]

/-- Every readable entry has an origin in the history. -/
theorem origin_of_read (start : Session (MemoryBackend Bytes) η γ) (ops : List (SharedOp γ)) :
    (drive SharedOp.exec start ops).store.config = start.store.config ∧
      ∀ id payload, (drive SharedOp.exec start ops).store.backend.read start.store.config
        .semanticCache id = .ok (some payload) → Origin start ops id payload := by
  induction ops using List.reverseRecOn with
  | nil => exact ⟨rfl, fun id payload read => Or.inl read⟩
  | append_singleton ops op ih =>
      obtain ⟨config, origins⟩ := ih
      rw [drive_concat]
      cases op with
      | start embed now threshold modelName =>
          obtain ⟨backend, config'⟩ := start_backend embed now threshold modelName
            (drive SharedOp.exec start ops)
          rw [backend, config']
          exact ⟨config, fun id payload read => (origins id payload read).later _⟩
      | ask manager request =>
          have same : EStateResult.state ((SharedOp.ask manager request).exec
              (drive SharedOp.exec start ops)) =
              EStateResult.state (manager.exec request (drive SharedOp.exec start ops)) := by
            rw [SharedOp.exec, bind_run]
            cases manager.exec request (drive SharedOp.exec start ops) <;> rfl
          rw [same]
          refine ⟨(exec_writes manager request _).1.trans config, fun id payload read => ?_⟩
          rw [← config] at read
          rcases exec_reads read with before | generated
          · exact (origins id payload (config ▸ before)).later _
          · exact Or.inr ⟨ops, manager, request, [], rfl, generated⟩

/-- A hit gives the response of a stored entry that the search found. The entry
    was there at the start or an earlier call generated it, under the model name
    of that call's manager, which is the caller's when there is one model. -/
theorem hit_has_origin (start : Session (MemoryBackend Bytes) η γ) (ops : List (SharedOp γ))
    (manager : SemanticCacheManager) (request : Request γ) {response : String}
    (hit : EStateResult.outcome (manager.exec request (drive SharedOp.exec start ops)) =
      .ok (response, true)) :
    ∃ id similarity rest payload,
      manager.search (drive SharedOp.exec start ops).store request.prompt 1 =
        .ok ((id, similarity) :: rest) ∧
      (drive SharedOp.exec start ops).store.backend.read start.store.config .semanticCache id =
        .ok (some payload) ∧
      response = payload.1.responseText ∧
      Origin start ops id payload ∧
      (OneModel start ops manager.modelName → payload.1.modelName = manager.modelName) := by
  obtain ⟨config, origins⟩ := origin_of_read start ops
  obtain ⟨id, similarity, rest, payload, found, read, text⟩ := hit_reads hit
  rw [config] at read
  have origin := origins id payload read
  exact ⟨id, similarity, rest, payload, found, read, text, origin, origin.modelName⟩

end

namespace Reference

/-- The prompt "a" asked again, with a new id drawn. -/
def again : Request (List String) := { request "a" with uuid := "b" }

/-- A manager of "model-a" is asked, and one of "model-b" starts on the same store. -/
def twoModels : List (SharedOp (List String)) :=
  [.ask (manager "model-a") (request "a"), .start axes 0 1 "model-b"]

theorem twoModels_asked : OneModel (⟨store, []⟩ : Session (MemoryBackend Encoded) FlatIndex _)
    twoModels "model-a" where
  atStart id payload read := by cases read
  asked manager request asked := by
    rcases List.mem_cons.mp asked with here | later
    · cases here
      rfl
    · cases List.mem_singleton.mp later

end Reference

section

open Reference

/-- Asked again by a manager of the same model, the prompt is answered for that model. -/
theorem hit_has_origin_repeated :
    ∃ id payload, Origin ⟨store, []⟩ twoModels id payload ∧
      payload.1.responseText = "answer to a" ∧ payload.1.modelName = "model-a" := by
  have hit : EStateResult.outcome ((manager "model-a").exec again
      (drive SharedOp.exec ⟨store, []⟩ twoModels)) = .ok ("answer to a", true) := by
    decide +kernel
  obtain ⟨id, -, -, payload, -, -, text, origin, modelName⟩ :=
    hit_has_origin ⟨store, []⟩ twoModels (manager "model-a") again hit
  exact ⟨id, payload, origin, text.symm, modelName twoModels_asked⟩

/-- The manager of "model-b" has a hit, and no entry is of its model. -/
theorem hit_crosses_models :
    EStateResult.outcome ((manager "model-b").exec again
        (drive SharedOp.exec ⟨store, []⟩ twoModels)) = .ok ("answer to a", true) ∧
      ∀ id payload, (drive SharedOp.exec ⟨store, []⟩ twoModels).store.backend.read store.config
        .semanticCache id = .ok (some payload) → payload.1.modelName ≠ "model-b" := by
  refine ⟨by decide +kernel, fun id payload read => ?_⟩
  have origin := (origin_of_read ⟨store, []⟩ twoModels).2 id payload read
  rw [origin.modelName twoModels_asked]
  decide

end

end IntelliL3
