import IntelliL3.Core.Observations

/-! # Reopening a store

A new store over the backend of an old one starts with an empty Bloom filter,
and every `get` asks that filter first. What the old store still answers and the
new one does not is therefore exactly what the old filter let through.
-/

namespace IntelliL3

open Lib

namespace UnifiedObjectStore

variable {η Bytes : Type} [PyRuntime] [Serializer Bytes]

/-- A second store over the backend and the configuration of the first. -/
def reopen (self : UnifiedObjectStore (MemoryBackend Bytes) η) (metadata : MetadataStore η) :
    UnifiedObjectStore (MemoryBackend Bytes) η :=
  new self.backend self.config metadata

/-- Nothing the Bloom filter lets through is complete in the backend. -/
def HidesNothing (self : UnifiedObjectStore (MemoryBackend Bytes) η) : Prop :=
  ∀ X objectId, self.metadata.mightExist objectId = true →
    self.backend.complete self.config X objectId = false

/-- A store that knows no id agrees with another one over the same backend exactly
    when the other finds nothing there. -/
theorem sameGets_reopen_iff (self : UnifiedObjectStore (MemoryBackend Bytes) η)
    {metadata : MetadataStore η} (blank : ∀ objectId, metadata.mightExist objectId = false) :
    SameGets (self.reopen metadata) self ↔ HidesNothing self := by
  have new_answer : ∀ X objectId now,
      EStateResult.outcome (get X objectId now (self.reopen metadata)) = .ok none := by
    intro X objectId now
    rw [outcome_get]
    exact if_neg (by rw [reopen, new, blank]; exact Bool.false_ne_true)
  constructor
  · intro same X objectId known
    have old := (same X objectId 0).symm.trans (new_answer X objectId 0)
    rw [outcome_get, if_pos known, Payload.map_touch_none_iff] at old
    exact (self.backend.read_none_iff self.config X objectId).mp old
  · intro nothing X objectId now
    rw [new_answer, outcome_get]
    split
    · next known =>
        exact ((Payload.map_touch_none_iff _ _).mpr
          ((self.backend.read_none_iff self.config X objectId).mpr (nothing X objectId known))).symm
    · rfl

/-! ## What a history leaves in the filter -/

/-- The filter lets through every id that has a metadata key. -/
def KnowsKeys (self : UnifiedObjectStore (MemoryBackend Bytes) η) : Prop :=
  ∀ X objectId, (self.backend.get (metaKey (self.config.keyPrefix X) objectId)).isSome →
    self.metadata.mightExist objectId = true

variable [Hnswlib η]

theorem KnowsKeys.put {self : UnifiedObjectStore (MemoryBackend Bytes) η}
    (knows : self.KnowsKeys) (free : self.config.PrefixFree) {X : ObjectType}
    (payload : Payload X) :
    (EStateResult.state (UnifiedObjectStore.put payload self)).config = self.config ∧
      (EStateResult.state (UnifiedObjectStore.put payload self)).KnowsKeys := by
  rw [put_eq]
  cases payload.stamp with
  | error e => exact ⟨rfl, knows⟩
  | ok stamped =>
      have bloom := stamped.index_bloom self.metadata
      have grown : ∀ metadata : MetadataStore η,
          metadata.bloom = self.metadata.bloom.add stamped.objectId →
          KnowsKeys { self with backend := self.backend.write self.config stamped, metadata } := by
        intro metadata bloom Y other present
        rw [MetadataStore.mightExist, bloom]
        simp only [MemoryBackend.get_write] at present
        split at present
        · next data =>
            obtain ⟨ext, pair, same⟩ := data
            exact absurd same.symm (metaKey_ne_dataKey pair _ _ _ _)
        · split at present
          · next here =>
              rw [← (free.metaKey_iff.mp here).2]
              exact BloomFilter.mightContain_add_self _ _
          · exact BloomFilter.mightContain_add _ _ (knows Y other present)
      simp only
      cases indexing : stamped.index self.metadata with
      | ok _ metadata =>
          rw [indexing] at bloom
          exact ⟨rfl, grown metadata bloom⟩
      | error e metadata =>
          rw [indexing] at bloom
          exact ⟨rfl, grown metadata bloom⟩

omit [Serializer Bytes] in
theorem KnowsKeys.delete {self : UnifiedObjectStore (MemoryBackend Bytes) η}
    (knows : self.KnowsKeys) (X : ObjectType) (objectId : String) :
    (EStateResult.state (UnifiedObjectStore.delete X objectId self)).config = self.config ∧
      (EStateResult.state (UnifiedObjectStore.delete X objectId self)).KnowsKeys := by
  have bloom := self.metadata.onObjectRemoved_bloom X objectId
  have kept : ∀ metadata : MetadataStore η, metadata.bloom = self.metadata.bloom →
      KnowsKeys { self with backend := self.backend.wipe self.config X objectId, metadata } := by
    intro metadata bloom Y other present
    rw [MetadataStore.mightExist, bloom]
    simp only [MemoryBackend.get_wipe] at present
    split at present
    · cases present
    · exact knows Y other present
  rw [delete_eq]
  simp only
  split
  · cases removing : MetadataStore.onObjectRemoved X objectId self.metadata with
    | ok _ metadata =>
        rw [removing] at bloom
        exact ⟨rfl, kept metadata bloom⟩
    | error e metadata =>
        rw [removing] at bloom
        exact ⟨rfl, kept metadata bloom⟩
  · exact ⟨rfl, kept self.metadata rfl⟩

theorem KnowsKeys.exec {self : UnifiedObjectStore (MemoryBackend Bytes) η}
    (knows : self.KnowsKeys) (free : self.config.PrefixFree) (c : Call) :
    (EStateResult.state (UnifiedObjectStore.exec c self)).config = self.config ∧
      (EStateResult.state (UnifiedObjectStore.exec c self)).KnowsKeys := by
  cases c with
  | put payload =>
      have kept := knows.put free payload
      rw [UnifiedObjectStore.exec, bind_run]
      cases done : UnifiedObjectStore.put payload self <;> rw [done] at kept <;> exact kept
  | get X objectId now =>
      rw [UnifiedObjectStore.exec, bind_run, get_eq]
      generalize (if self.metadata.mightExist objectId then
        ((ReadableBackend.view self.backend).read self.config X objectId).map
          (Option.map (Payload.touch now))
        else .ok none) = answer
      cases answer <;> exact ⟨rfl, knows⟩
  | delete X objectId =>
      have kept := knows.delete X objectId
      rw [UnifiedObjectStore.exec, bind_run]
      cases done : UnifiedObjectStore.delete X objectId self <;> rw [done] at kept <;> exact kept

theorem KnowsKeys.drive {self : UnifiedObjectStore (MemoryBackend Bytes) η}
    (knows : self.KnowsKeys) (free : self.config.PrefixFree) (history : List Call) :
    (Lib.drive UnifiedObjectStore.exec self history).config = self.config ∧
      (Lib.drive UnifiedObjectStore.exec self history).KnowsKeys := by
  have keep : ∀ (s : UnifiedObjectStore (MemoryBackend Bytes) η), ∀ c ∈ history,
      (s.config = self.config ∧ s.KnowsKeys) →
      ((EStateResult.state (UnifiedObjectStore.exec c s)).config = self.config ∧
        (EStateResult.state (UnifiedObjectStore.exec c s)).KnowsKeys) := by
    rintro s c - ⟨same, knows⟩
    obtain ⟨config, known⟩ := knows.exec (same ▸ free) c
    exact ⟨config.trans same, known⟩
  exact drive_invariant keep ⟨rfl, knows⟩

end UnifiedObjectStore

open UnifiedObjectStore

/-- After any history, a store reopened over the same backend gives the results of
    the old one exactly when the old filter let nothing complete through; with
    disjoint prefixes, exactly when the backend holds nothing complete. -/
theorem reopened_sameGets_iff {η Bytes : Type} [PyRuntime] [Serializer Bytes] [Hnswlib η]
    {expectedItems : Int} {fpRate : Rat} {embeddingDim : Option Int}
    {metadata reopened : MetadataStore η}
    (fresh : MetadataStore.new expectedItems fpRate embeddingDim = .ok reopened)
    (config : L3Config) (history : List Call)
    (self : UnifiedObjectStore (MemoryBackend Bytes) η)
    (reached : self = drive UnifiedObjectStore.exec
      (UnifiedObjectStore.overEmpty Bytes config metadata) history) :
    (SameGets (self.reopen reopened) self ↔ HidesNothing self) ∧
      (config.PrefixFree → (SameGets (self.reopen reopened) self ↔
        ∀ X objectId, self.backend.complete config X objectId = false)) := by
  have blank := (MetadataStore.new_fresh fresh).1
  have general := self.sameGets_reopen_iff blank
  refine ⟨general, fun free => general.trans ?_⟩
  have start : KnowsKeys (UnifiedObjectStore.overEmpty Bytes config metadata) :=
    fun _ _ present => absurd present Bool.false_ne_true
  obtain ⟨same, knows⟩ := start.drive free history
  rw [← reached] at same knows
  have config_eq : self.config = config := same
  constructor
  · intro nothing X objectId
    by_contra complete
    rw [Bool.not_eq_false] at complete
    have present := (Bool.and_eq_true_iff.mp complete).1
    rw [← config_eq] at present complete
    rw [nothing X objectId (knows X objectId present)] at complete
    cases complete
  · intro nothing X objectId _
    rw [config_eq]
    exact nothing X objectId

section

open Reference

private def putAndDeleted : UnifiedObjectStore (MemoryBackend Encoded) FlatIndex :=
  drive UnifiedObjectStore.exec store
    [.put (X := .kvCache) (kvBlock "a" [1, 2], array [1], array [2]), .delete .kvCache "a"]

/-- A block put and deleted again leaves nothing to lose. -/
theorem reopened_sameGets_deleted : SameGets (putAndDeleted.reopen metadata) putAndDeleted := by
  obtain ⟨-, agrees⟩ := reopened_sameGets_iff new_metadata L3Config.default _ putAndDeleted rfl
  exact (agrees L3Config.default_prefixFree).mpr fun X objectId => by cases X <;> rfl

/-- A block that was put is not found after the store is reopened. -/
theorem reopened_store_forgets :
    ¬ ∀ history : List Call, SameGets
      ((drive UnifiedObjectStore.exec store history).reopen metadata)
      (drive UnifiedObjectStore.exec store history) := by
  intro always
  have same := always [.put (X := .kvCache) (kvBlock "a" [1, 2], array [1], array [2])]
  have blank := (MetadataStore.new_fresh new_metadata).1
  have hidden := (sameGets_reopen_iff _ blank).mp same .kvCache "a" (by decide)
  exact absurd hidden (by decide)

end

end IntelliL3
