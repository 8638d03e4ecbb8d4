import IntelliL3.Agent.PlanCache
import IntelliL3.Agent.ToolCacheMap
import IntelliL3.Core.Reopen

/-! # Agent caches after a restart

The caches build their indexes from what a store lists, and read each object
through that store. A store opened anew lists everything and reads nothing, its
Bloom filter being blank, so both indexes come out empty: what was live before
is recovered exactly when there was nothing.
-/

namespace IntelliL3

open Lib

/-- Both agent caches over one store. -/
structure AgentCaches (β η : Type) where
  store : UnifiedObjectStore β η
  tools : ToolArtifactCache
  plans : PlanCacheManager η

inductive AgentCall where
  | tool (c : ToolCall)
  | plan (c : PlanCall)

/-- What the caches are constructed with. -/
structure AgentSettings where
  requireSourceVersion : Bool := false
  embed : String → NdArray
  dimension : Int
  similarityThreshold : Rat := 3 / 4
  maxElements : Int := 100000

namespace AgentCaches

open CacheSession

variable {β η Bytes : Type}

def onTools (action : CacheM β η ToolArtifactCache α) : EStateM PyError (AgentCaches β η) α :=
  zoom (fun self => ⟨self.store, self.tools⟩)
    (fun self session => { self with store := session.store, tools := session.cache }) action

def onPlans (action : CacheM β η (PlanCacheManager η) α) : EStateM PyError (AgentCaches β η) α :=
  zoom (fun self => ⟨self.store, self.plans⟩)
    (fun self session => { self with store := session.store, plans := session.cache }) action

variable [StorageBackend (EStateM PyError β) Bytes] [PyRuntime] [PyJson] [Serializer Bytes]
  [Hnswlib η]

def exec : AgentCall → EStateM PyError (AgentCaches β η) Unit
  | .tool c => do let _ ← onTools (ToolArtifactCache.exec c)
  | .plan c => do let _ ← onPlans (PlanCacheManager.exec c)

omit [PyJson] in
/-- Both caches built over a store: one rebuilds its index, the other loads the plans. -/
def startUp (settings : AgentSettings) (now clock : Rat) :
    StoreM β η (ToolArtifactCache × PlanCacheManager η) := do
  let tools ← building (ToolArtifactCache.new settings.requireSourceVersion)
    (do let _ ← ToolArtifactCache.rebuildIndex now clock)
  let plans ← PlanCacheManager.new settings.embed settings.dimension settings.similarityThreshold
    settings.maxElements clock
  return (tools, plans)

section

variable (old : AgentCaches (MemoryBackend Bytes) η)

omit [Hnswlib η] in
omit [PyJson] in
/-- The store answers an artifact that has not expired. -/
def LiveArtifact (objectId : String) (now clock : Rat) : Prop :=
  ∃ artifact, EStateResult.outcome
      (UnifiedObjectStore.getToolArtifact objectId clock old.store) = .ok (some artifact) ∧
    artifact.isExpired now = false

def LivePlan (planId : String) (clock : Rat) : Prop :=
  ∃ found, EStateResult.outcome
    (UnifiedObjectStore.getPlanCacheEntry planId clock old.store) = .ok (some found)

/-- No plan is stored, and every artifact indexed has expired. -/
def NothingLive (now clock : Rat) : Prop :=
  (∀ planId, ¬ old.LivePlan planId clock) ∧
    ∀ key objectId, old.tools.index.get? key = some objectId →
      ¬ old.LiveArtifact objectId now clock

/-- The new indexes have the entries that were live in the old caches, no others; every
    stored plan is indexed, and every artifact that was indexed and has not expired is
    found. -/
structure Recovers (new : AgentCaches (MemoryBackend Bytes) η) (now clock : Rat) : Prop where
  plans : ∀ planId, new.plans.index.objectToId.contains planId = true ↔
    old.plans.index.objectToId.contains planId = true ∧ old.LivePlan planId clock
  stored : ∀ planId, old.LivePlan planId clock →
    new.plans.index.objectToId.contains planId = true
  artifacts : ∀ key objectId, new.tools.index.get? key = some objectId ↔
    old.tools.index.get? key = some objectId ∧ old.LiveArtifact objectId now clock
  found : ∀ toolName args scope key objectId,
    ToolArtifactCache.keyFor toolName args scope = .ok key →
    old.tools.index.get? key = some objectId → old.LiveArtifact objectId now clock →
      ∃ artifact, EStateResult.outcome (ToolArtifactCache.getToolArtifact toolName args scope none
        now clock ⟨new.store, new.tools⟩) = .ok (some artifact)

end

/-! ## Starting over a store that knows no id -/

section

variable {store : UnifiedObjectStore (MemoryBackend Bytes) η}

omit [PyJson] in
theorem rebuildIndex_blank (blank : ∀ objectId, store.metadata.mightExist objectId = false)
    (requireSourceVersion : Bool) (now clock : Rat) :
    ToolArtifactCache.rebuildIndex now clock ⟨store, .new requireSourceVersion⟩ =
      .ok 0 ⟨store, .new requireSourceVersion⟩ := by
  have clearing : onCache (modify ToolArtifactCache.cleared)
      (⟨store, .new requireSourceVersion⟩ :
        CacheSession (MemoryBackend Bytes) η ToolArtifactCache) =
      .ok ⟨⟩ ⟨store, .new requireSourceVersion⟩ := rfl
  have listing : onStore UnifiedObjectStore.listToolArtifacts
      (⟨store, .new requireSourceVersion⟩ :
        CacheSession (MemoryBackend Bytes) η ToolArtifactCache) = .ok _ _ :=
    onStore_ok (UnifiedObjectStore.list_eq store .toolCallArtifact)
  have idle : ∀ objectId ∈ (ReadableBackend.view store.backend).listed
        (store.config.keyPrefix .toolCallArtifact),
      ToolArtifactCache.rebuildOne now clock 0 objectId ⟨store, .new requireSourceVersion⟩ =
        .ok 0 ⟨store, .new requireSourceVersion⟩ := by
    intro objectId _
    rw [ToolArtifactCache.rebuildOne, bind_run,
      onStore_ok (UnifiedObjectStore.get_unknown (blank objectId) .toolCallArtifact clock)]
    rfl
  simp only [ToolArtifactCache.rebuildIndex, bind_run, clearing, listing, foldlM_idle idle]
  rfl

omit [PyJson] in
/-- A start succeeds only with a threshold in range and an index that can be built. -/
theorem startUp_ok {settings : AgentSettings} {now clock : Rat}
    {caches : ToolArtifactCache × PlanCacheManager η}
    {store' : UnifiedObjectStore (MemoryBackend Bytes) η}
    (started : startUp settings now clock store = .ok caches store') :
    (0 ≤ settings.similarityThreshold ∧ settings.similarityThreshold ≤ 1) ∧
      ∃ index : HNSWIndex η,
        HNSWIndex.new settings.dimension settings.maxElements = .ok index := by
  obtain ⟨tools, m, -, started⟩ := bind_run_ok.mp started
  obtain ⟨plans, m', built, -⟩ := bind_run_ok.mp started
  exact PlanCacheManager.new_ok built

omit [PyJson] in
/-- Over a store that knows no id, both caches start empty. -/
theorem startUp_blank (blank : ∀ objectId, store.metadata.mightExist objectId = false)
    {settings : AgentSettings}
    (inRange : 0 ≤ settings.similarityThreshold ∧ settings.similarityThreshold ≤ 1)
    {index : HNSWIndex η}
    (indexed : HNSWIndex.new settings.dimension settings.maxElements = .ok index)
    (now clock : Rat) :
    startUp settings now clock store = .ok (.new settings.requireSourceVersion,
      ⟨settings.embed, settings.similarityThreshold, index, 0, 0, 0, 0, 0, 0, inRange⟩) store := by
  have tools : building (ToolArtifactCache.new settings.requireSourceVersion)
      (do let _ ← ToolArtifactCache.rebuildIndex now clock) store =
        .ok (.new settings.requireSourceVersion) store := by
    simp only [building, bind_run, rebuildIndex_blank blank]
    rfl
  have plans := PlanCacheManager.new_blank blank settings.embed inRange indexed clock
  rw [startUp, bind_run, tools]
  simp only [bind_run, plans]
  rfl

end

end AgentCaches

open AgentCaches

/-- After any history of both caches, a new store over the same backend and caches built over
    it recover what was live exactly when nothing was. -/
theorem restart_recovers_iff {η Bytes : Type} [PyRuntime] [PyJson] [Serializer Bytes] [Hnswlib η]
    {expectedItems : Int} {fpRate : Rat} {embeddingDim : Option Int}
    {metadata reopened : MetadataStore η}
    (fresh : MetadataStore.new expectedItems fpRate embeddingDim = .ok reopened)
    (config : L3Config) {settings : AgentSettings} {now₀ clock₀ : Rat} {tools : ToolArtifactCache}
    {plans : PlanCacheManager η} {store : UnifiedObjectStore (MemoryBackend Bytes) η}
    (started : startUp settings now₀ clock₀ (.overEmpty Bytes config metadata) =
      .ok (tools, plans) store)
    (history : List AgentCall) (now clock : Rat) :
    let old := drive AgentCaches.exec ⟨store, tools, plans⟩ history
    ∃ tools' plans' store', startUp settings now clock (old.store.reopen reopened) =
        .ok (tools', plans') store' ∧
      (old.Recovers ⟨store', tools', plans'⟩ now clock ↔ old.NothingLive now clock) := by
  intro old
  obtain ⟨inRange, index, indexed⟩ := startUp_ok started
  have blank : ∀ objectId, (old.store.reopen reopened).metadata.mightExist objectId = false :=
    (MetadataStore.new_fresh fresh).1
  refine ⟨_, _, _, startUp_blank blank inRange indexed now clock, ?_⟩
  have unindexed : ∀ planId, index.objectToId.contains planId ≠ true := by
    intro planId
    rw [HNSWIndex.new_objectToId indexed]
    exact Bool.false_ne_true
  constructor
  · intro recovers
    refine ⟨fun planId live => unindexed planId (recovers.stored planId live), ?_⟩
    intro key objectId known live
    have again := (recovers.artifacts key objectId).mpr ⟨known, live⟩
    cases again
  · rintro ⟨noPlan, noArtifact⟩
    refine ⟨fun planId => ?_, fun planId live => absurd live (noPlan planId),
      fun key objectId => ?_, fun toolName args scope key objectId _ known live =>
        absurd live (noArtifact _ _ known)⟩
    · exact ⟨fun known => absurd known (unindexed planId),
        fun live => absurd live.2 (noPlan planId)⟩
    · exact ⟨fun known => (by cases known),
        fun live => absurd live.2 (noArtifact key objectId live.1)⟩

section

open Reference

private def settings : AgentSettings := { embed := fun _ => array [1], dimension := 1 }

/-- One artifact, that lives until 10. -/
private def oneArtifact : List AgentCall :=
  [.tool (.put "search" (.int 1) [] 10 .privateScope "v1" 0 "a" 0)]

private def planIndex : HNSWIndex FlatIndex where
  dim := 1
  maxElements := 100000
  index := Hnswlib.initIndex 1 100000
  idToObject := .empty
  objectToId := .empty
  freeIds := []
  nextId := 0
  dimPositive := Nat.zero_lt_one
  capacityPositive := Nat.zero_lt_succ 99999

private theorem inRange : 0 ≤ settings.similarityThreshold ∧ settings.similarityThreshold ≤ 1 := by
  decide +kernel

private theorem planIndex_new :
    HNSWIndex.new settings.dimension settings.maxElements = .ok planIndex := rfl

private theorem blank (objectId : String) : Reference.metadata.mightExist objectId = false :=
  (MetadataStore.new_fresh new_metadata).1 objectId

/-- The caches with the one artifact. -/
private def caches : AgentCaches (MemoryBackend Encoded) FlatIndex :=
  drive AgentCaches.exec ⟨Reference.store, .new,
    ⟨settings.embed, settings.similarityThreshold, planIndex, 0, 0, 0, 0, 0, 0, inRange⟩⟩
    oneArtifact

private theorem objects_caches : caches.store.backend.objects.keys =
    [metaKey (L3Config.default.keyPrefix .toolCallArtifact) "8ea4208056c21270"] := by
  decide +kernel

private theorem index_caches :
    caches.tools.index.entries =
      [(("search", "6b86b273ff34fce1", .privateScope), "8ea4208056c21270")] := by
  decide +kernel

/-- The one key of the backend is that of an artifact, so no plan is held. -/
private theorem holds_noPlan : caches.store.backend.HoldsOf L3Config.default
    fun _ => (none : Option (Payload .planCache)) := by
  have absent : ∀ key, key ≠ metaKey (L3Config.default.keyPrefix .toolCallArtifact)
      "8ea4208056c21270" → caches.store.backend.get key = none := by
    intro key other
    refine Option.not_isSome_iff_eq_none.mp fun present => other ?_
    have held := (Dict.mem_keys_iff caches.store.backend.objects key).mpr present
    rwa [objects_caches, List.mem_singleton] at held
  refine ⟨fun planId => absent _ fun same => ?_, fun planId ext pair => absent _ fun same => ?_⟩
  · exact ObjectType.noConfusion (L3Config.default_prefixFree.metaKey_iff.mp same).1
  · exact metaKey_ne_dataKey pair _ _ _ _ same.symm

/-- At 20 the artifact has expired: nothing is left to recover, and the restart recovers that. -/
theorem restart_recovers_expired : ∃ tools plans store,
    startUp settings 20 20 (caches.store.reopen metadata) = .ok (tools, plans) store ∧
      caches.Recovers ⟨store, tools, plans⟩ 20 20 := by
  have restarted : ∃ tools plans store,
      startUp settings 20 20 (caches.store.reopen metadata) = .ok (tools, plans) store ∧
        (caches.Recovers ⟨store, tools, plans⟩ 20 20 ↔ caches.NothingLive 20 20) :=
    restart_recovers_iff new_metadata .default
      (startUp_blank blank inRange planIndex_new 0 0) oneArtifact 20 20
  obtain ⟨tools, plans, store, started, recovers⟩ := restarted
  refine ⟨tools, plans, store, started, recovers.mpr ⟨?_, ?_⟩⟩
  · rintro planId ⟨found, answered⟩
    have reading : UnifiedObjectStore.get .planCache planId 20 caches.store =
        .ok none caches.store := by
      rw [UnifiedObjectStore.get_eq]
      change raising (if _ then (caches.store.backend.read _ _ _).map _ else _) _ = _
      rw [show caches.store.config = L3Config.default from rfl, holds_noPlan.read]
      split <;> rfl
    have nothing : UnifiedObjectStore.getPlanCacheEntry planId 20 caches.store =
        .ok none caches.store := reading
    rw [nothing] at answered
    cases answered
  · rintro key objectId known ⟨artifact, answered, live⟩
    have entry := (Dict.mem_entries_iff _ _ _).mpr known
    rw [index_caches, List.mem_singleton] at entry
    cases entry
    have expired : (EStateResult.found (UnifiedObjectStore.getToolArtifact "8ea4208056c21270" 20
        caches.store)).any (fun artifact => !artifact.isExpired 20) = false := by decide +kernel
    rw [EStateResult.found_eq_some_iff.mpr answered, Option.any_some, live] at expired
    cases expired

/-- At 5 the artifact is live, and is not found after a restart. -/
theorem restart_forgets_artifact : ∃ tools plans store,
    startUp settings 5 5 (caches.store.reopen metadata) = .ok (tools, plans) store ∧
      ¬ caches.Recovers ⟨store, tools, plans⟩ 5 5 := by
  have unknown : ∀ objectId, (caches.store.reopen metadata).metadata.mightExist objectId = false :=
    blank
  have started := startUp_blank unknown inRange planIndex_new 5 5
  refine ⟨_, _, _, started, fun recovers => ?_⟩
  have indexed : caches.tools.index.get? ("search", "6b86b273ff34fce1", .privateScope) =
      some "8ea4208056c21270" := by decide +kernel
  have live : caches.LiveArtifact "8ea4208056c21270" 5 5 := by
    have answered : (EStateResult.found (UnifiedObjectStore.getToolArtifact "8ea4208056c21270" 5
        caches.store)).any (fun artifact => !artifact.isExpired 5) = true := by decide +kernel
    obtain ⟨artifact, found, live⟩ := (Option.any_eq_true _ _).mp answered
    exact ⟨artifact, EStateResult.found_eq_some_iff.mp found, by simpa using live⟩
  have again := (recovers.artifacts _ _).mpr ⟨indexed, live⟩
  cases again

end

end IntelliL3
