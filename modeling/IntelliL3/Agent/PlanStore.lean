import IntelliL3.Agent.PlanCache
import IntelliL3.Core.FailedWrites

/-! # The plans of a store whose writes may fail

A plan is answered as long as its metadata key is there; its data key may stay
behind when a failed overwrite takes the metadata away. Of a put, either nothing
is written, or the plan is lost, or it is stored.
-/

namespace IntelliL3

open Lib

theorem PlanCacheEntry.stamp_ok (entry : PlanCacheEntry) {embedding : NdArray}
    (axes : embedding.shape ≠ []) : ∃ stamped, entry.stamp embedding = .ok stamped := by
  have last : embedding.lastDim = .ok (embedding.shape.getLast axes) := by
    rw [NdArray.lastDim, List.getLast?_eq_some_getLast axes]
  exact ⟨_, by rw [PlanCacheEntry.stamp, last]; rfl⟩

namespace UnifiedObjectStore

variable {η Bytes : Type}

theorem putPair_succeeds {store : UnifiedObjectStore (FaultyBackend Bytes) η}
    (first : ¬ store.backend.FailsFirst) (second : ¬ store.backend.FailsSecond)
    (metaKey : String) (metaBytes : Bytes) (dataKey : String) (dataBytes : Bytes) :
    ∃ faults, (putPair metaKey metaBytes dataKey dataBytes :
        StoreM (FaultyBackend Bytes) η Unit) store = .ok () { store with
      backend := { inner := (store.backend.inner.put metaKey metaBytes).put dataKey dataBytes,
                   faults } } := by
  have writes : ∀ (key : String) (data : Bytes) (backend : FaultyBackend Bytes),
      ¬ backend.FailsFirst → (StorageBackend.put key data : StoreM (FaultyBackend Bytes) η Unit)
        { store with backend } = .ok () { store with
          backend := { inner := backend.inner.put key data, faults := backend.faults.tail } } := by
    intro key data backend succeeds
    change onBackend (FaultyBackend.put key data) _ = _
    rw [onBackend, zoom_run, FaultyBackend.put]
    rcases faults : backend.faults with _ | ⟨_ | error, later⟩
    · simp only [List.tail_nil]
    · simp only [List.tail_cons]
    · exact absurd ⟨error, later, faults⟩ succeeds
  have later : ¬ ({ inner := store.backend.inner.put metaKey metaBytes,
                    faults := store.backend.faults.tail } : FaultyBackend Bytes).FailsFirst := by
    rintro ⟨error, later, faults⟩
    rcases all : store.backend.faults with _ | ⟨_ | error', rest⟩
    · simp [all] at faults
    · simp only [all, List.tail_cons] at faults
      exact second ⟨error, later, by rw [all, faults]⟩
    · exact first ⟨error', rest, all⟩
  refine ⟨store.backend.faults.tail.tail, ?_⟩
  rw [putPair, bind_run, writes metaKey metaBytes store.backend first]
  simp only [tryCatch_run, writes dataKey dataBytes _ later]

/-- The deletion of a pair of which the metadata key is there. -/
theorem deletePair_eq (store : UnifiedObjectStore (FaultyBackend Bytes) η) (p planId ext : String)
    (present : store.backend.inner.existsKey (metaKey p planId) = true) :
    (deletePair p planId ext : StoreM (FaultyBackend Bytes) η Bool) store =
      .ok true { store with backend := { store.backend with
        inner := (store.backend.inner.delete (metaKey p planId)).delete
          (dataKey p planId ext) } } := by
  cases later : (store.backend.inner.delete (metaKey p planId)).existsKey
      (dataKey p planId ext) <;>
    simp [deletePair, bind_run, StorageBackend.deleteMany, onBackend, zoom_run, present, later]

variable [PyRuntime] [Serializer Bytes]

/-- An embedding without axes is refused before anything is written. -/
theorem putPlanCacheEntry_noAxes (store : UnifiedObjectStore (FaultyBackend Bytes) η)
    (entry : PlanCacheEntry) {embedding : NdArray} (axes : embedding.shape = []) :
    ∃ e, putPlanCacheEntry entry embedding store = .error e store := by
  have raises : entry.stamp embedding = .error (.indexError "tuple index out of range") := by
    rw [PlanCacheEntry.stamp, NdArray.lastDim, axes]
    rfl
  refine ⟨.indexError "tuple index out of range", ?_⟩
  rw [putPlanCacheEntry, bind_run, get_run]
  simp only [bind_run, raises, raising_error]

/-- The store answers exactly these plans, and its filter knows them. -/
structure KeepsPlans (store : UnifiedObjectStore (FaultyBackend Bytes) η)
    (live : String → Option (PlanCacheEntry × NdArray)) : Prop where
  metaOf : ∀ planId, store.backend.inner.get
      (metaKey (store.config.keyPrefix .planCache) planId) =
    (live planId).map fun plan => Serializer.serializePlanCacheEntry plan.1
  dataOf : ∀ planId plan, live planId = some plan →
    store.backend.inner.get (dataKey (store.config.keyPrefix .planCache) planId "data.npy") =
      some (Serializer.serializePlanEmbedding plan.2)
  known : ∀ planId, (live planId).isSome → store.metadata.mightExist planId = true

namespace KeepsPlans

variable {store : UnifiedObjectStore (FaultyBackend Bytes) η}
  {live : String → Option (PlanCacheEntry × NdArray)}

theorem empty (config : L3Config) (metadata : MetadataStore η)
    (faults : List (Option PyError)) :
    KeepsPlans (.new { inner := (.empty : MemoryBackend Bytes), faults } config metadata)
      fun _ => none :=
  ⟨fun _ => rfl, fun _ _ found => (by cases found), fun _ found => (by cases found)⟩

theorem get [LawfulSerializer Bytes] (keeps : store.KeepsPlans live) (planId : String)
    (clock : Rat) :
    getPlanCacheEntry planId clock store = .ok ((live planId).map fun plan =>
      ({ plan.1 with objMeta := plan.1.objMeta.touch clock }, plan.2)) store := by
  have answer := get_eq store .planCache planId clock
  change getPlanCacheEntry planId clock store = raising (if _ then
    (store.backend.inner.readPair _ _ _ _ _).map _ else _) store at answer
  rw [answer]
  have held := keeps.metaOf planId
  cases found : live planId with
  | none =>
      rw [found] at held
      rw [(MemoryBackend.readPair_none_iff _ _ _ _ _ _).mpr (.inl held)]
      cases store.metadata.mightExist planId <;> rfl
  | some plan =>
      rw [found] at held
      have decodes : ∀ embedding, Serializer.deserializePlanEmbedding
          (Serializer.serializePlanEmbedding embedding : Bytes) = .ok embedding :=
        LawfulSerializer.embedding
      rw [keeps.known planId (by rw [found]; rfl),
        MemoryBackend.readPair_stored LawfulSerializer.planCacheEntry decodes held
          (keeps.dataOf planId plan found)]
      rfl

/-- What happens to one plan, when its keys say so and the other keys are as they were. -/
private theorem update (keeps : store.KeepsPlans live) {planId : String}
    {plan : Option (PlanCacheEntry × NdArray)} {inner : MemoryBackend Bytes}
    {faults : List (Option PyError)} {metadata : MetadataStore η}
    (metaOf : inner.get (metaKey (store.config.keyPrefix .planCache) planId) =
      plan.map fun plan => Serializer.serializePlanCacheEntry plan.1)
    (dataOf : ∀ found, plan = some found →
      inner.get (dataKey (store.config.keyPrefix .planCache) planId "data.npy") =
        some (Serializer.serializePlanEmbedding found.2))
    (others : ∀ key, key ≠ metaKey (store.config.keyPrefix .planCache) planId →
      key ≠ dataKey (store.config.keyPrefix .planCache) planId "data.npy" →
        inner.get key = store.backend.inner.get key)
    (filter : ∀ other, store.metadata.mightExist other = true → metadata.mightExist other = true)
    (known : plan.isSome → metadata.mightExist planId = true) :
    KeepsPlans { store with backend := { inner, faults }, metadata }
      (Function.update live planId plan) := by
  have apart : ∀ a b, metaKey (store.config.keyPrefix .planCache) a ≠
      dataKey (store.config.keyPrefix .planCache) b "data.npy" :=
    fun a b => metaKey_ne_dataKey (X := .planCache) rfl _ a _ b
  refine ⟨fun other => ?_, fun other found live' => ?_, fun other live' => ?_⟩
  · by_cases here : other = planId
    · subst here
      rw [Function.update_self]
      exact metaOf
    · rw [Function.update_of_ne here]
      exact (others _ (fun same => here (metaKey_inj same)) (apart _ _)).trans (keeps.metaOf other)
  · by_cases here : other = planId
    · subst here
      rw [Function.update_self] at live'
      exact dataOf found live'
    · rw [Function.update_of_ne here] at live'
      exact (others _ (apart _ _).symm fun same => here (dataKey_inj same)).trans
        (keeps.dataOf other found live')
  · by_cases here : other = planId
    · subst here
      rw [Function.update_self] at live'
      exact known live'
    · rw [Function.update_of_ne here] at live'
      exact filter other (keeps.known other live')

variable [Hnswlib η]

/-- A first write that fails changes nothing. -/
theorem put_failsFirst (keeps : store.KeepsPlans live) {entry stamped : PlanCacheEntry}
    {embedding : NdArray} (stamping : entry.stamp embedding = .ok stamped)
    (fails : store.backend.FailsFirst) :
    ∃ e store', putPlanCacheEntry entry embedding store = .error e store' ∧
      store'.KeepsPlans live := by
  obtain ⟨e, later, faults⟩ := fails
  have stamps : Payload.stamp (X := .planCache) (entry, embedding) = .ok (stamped, embedding) :=
    bind_eq_ok.mpr ⟨stamped, stamping, rfl⟩
  have failing := put_of_putPair_error (X := .planCache) rfl stamps rfl
    (putPair_failsFirst faults _ _ _ _)
  exact ⟨e, _, failing, keeps.metaOf, keeps.dataOf, keeps.known⟩

/-- A second write that fails takes the plan away. -/
theorem put_failsSecond (keeps : store.KeepsPlans live) {entry stamped : PlanCacheEntry}
    {embedding : NdArray} (stamping : entry.stamp embedding = .ok stamped)
    (fails : store.backend.FailsSecond) :
    ∃ e store', putPlanCacheEntry entry embedding store = .error e store' ∧
      store'.KeepsPlans (Function.update live entry.planId none) := by
  obtain ⟨e, later, faults⟩ := fails
  have stamps : Payload.stamp (X := .planCache) (entry, embedding) = .ok (stamped, embedding) :=
    bind_eq_ok.mpr ⟨stamped, stamping, rfl⟩
  have failing := put_of_putPair_error (X := .planCache) rfl stamps rfl
    (putPair_failsSecond faults _ _ _ _)
  refine ⟨e, _, failing, keeps.update ?_ (fun _ found => (by cases found)) ?_
    (fun _ known => known) fun live' => (by cases live')⟩
  · rw [MemoryBackend.get_delete]
    exact if_pos rfl
  · intro key notMeta _
    rw [MemoryBackend.get_delete]
    exact if_neg (Ne.symm notMeta)

omit [Hnswlib η] in
/-- Two writes that succeed store the plan. -/
theorem put_writes (keeps : store.KeepsPlans live) {entry stamped : PlanCacheEntry}
    {embedding : NdArray} (stamping : entry.stamp embedding = .ok stamped)
    (first : ¬ store.backend.FailsFirst) (second : ¬ store.backend.FailsSecond) :
    ∃ store', putPlanCacheEntry entry embedding store = .ok entry.planId store' ∧
      store'.KeepsPlans (Function.update live entry.planId (some (stamped, embedding))) := by
  have same := PlanCacheEntry.stamp_planId stamping
  obtain ⟨faults, written⟩ := putPair_succeeds first second
    (metaKey store.config.objects.agent.plansPrefix stamped.planId)
    (Serializer.serializePlanCacheEntry stamped : Bytes)
    (dataKey store.config.objects.agent.plansPrefix stamped.planId "data.npy")
    (Serializer.serializePlanEmbedding embedding)
  have apart := metaKey_ne_dataKey (X := .planCache) rfl (store.config.keyPrefix .planCache)
    stamped.planId (store.config.keyPrefix .planCache) stamped.planId
  let inner := store.backend.inner.write store.config (X := .planCache) (stamped, embedding)
  let metadata := store.metadata.onObjectAdded .planCache stamped.planId none
  have stores : putPlanCacheEntry entry embedding store =
      .ok stamped.planId { store with backend := { inner, faults }, metadata } := by
    rw [putPlanCacheEntry, bind_run, get_run]
    simp only [bind_run, stamping, raising_ok, written]
    rfl
  rw [← same]
  refine ⟨_, stores, keeps.update ?_ ?_ ?_ ?_ ?_⟩
  · exact ((MemoryBackend.get_put _ _ _ _).trans (if_neg apart.symm)).trans
      ((MemoryBackend.get_put _ _ _ _).trans (if_pos rfl))
  · rintro found ⟨⟩
    exact (MemoryBackend.get_put _ _ _ _).trans (if_pos rfl)
  · intro key notMeta notData
    exact ((MemoryBackend.get_put _ _ _ _).trans (if_neg (Ne.symm notData))).trans
      ((MemoryBackend.get_put _ _ _ _).trans (if_neg (Ne.symm notMeta)))
  · exact fun other known => BloomFilter.mightContain_add _ _ known
  · exact fun _ => BloomFilter.mightContain_add_self _ _

/-- The deletion of a stored plan erases both its keys. -/
theorem delete (keeps : store.KeepsPlans live) {planId : String} (stored : (live planId).isSome) :
    ∃ store', deletePlanCacheEntry planId store = .ok true store' ∧
      store'.KeepsPlans (Function.update live planId none) := by
  have present : store.backend.inner.existsKey
      (metaKey store.config.objects.agent.plansPrefix planId) = true := by
    rw [MemoryBackend.existsKey_eq]
    exact (congrArg Option.isSome (keeps.metaOf planId)).trans
      (Option.isSome_map.trans stored)
  have removed : MetadataStore.onObjectRemoved .planCache planId store.metadata =
      .ok () store.metadata :=
    MetadataStore.onObjectRemoved_other (by decide) (by decide) store.metadata planId
  let inner := store.backend.inner.wipe store.config .planCache planId
  have deletes : deletePlanCacheEntry planId store =
      .ok true { store with backend := { store.backend with inner } } := by
    rw [deletePlanCacheEntry, bind_run, get_run]
    simp only [deletePairObject, bind_run, deletePair_eq store _ planId "data.npy" present, if_true,
      onMetadata, zoom_run, removed]
    rfl
  refine ⟨_, deletes, keeps.update ?_ (fun _ found => (by cases found)) ?_
    (fun _ known => known) fun live' => (by cases live')⟩
  · refine (MemoryBackend.get_delete _ _ _).trans ?_
    split
    · rfl
    · exact (MemoryBackend.get_delete _ _ _).trans (if_pos rfl)
  · intro key notMeta notData
    exact ((MemoryBackend.get_delete _ _ _).trans (if_neg (Ne.symm notData))).trans
      ((MemoryBackend.get_delete _ _ _).trans (if_neg (Ne.symm notMeta)))

end KeepsPlans

end UnifiedObjectStore

end IntelliL3
