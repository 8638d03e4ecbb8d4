import Mathlib.Data.List.Dedup
import IntelliL3.Core.TypedMap

/-! # What callers observe

Gets and listings, as functions of the backend, the configuration and the Bloom
filter, and which keys of the backend each of them depends on.
-/

namespace IntelliL3

open Lib

namespace UnifiedObjectStore

variable {β η Bytes : Type} [StorageBackend (EStateM PyError β) Bytes] [ReadableBackend β Bytes]
  [PyRuntime] [Serializer Bytes]

theorem outcome_get (self : UnifiedObjectStore β η) (X : ObjectType) (objectId : String)
    (now : Rat) :
    EStateResult.outcome (get X objectId now self) =
      if self.metadata.mightExist objectId then
        ((ReadableBackend.view self.backend).read self.config X objectId).map
          (Option.map (Payload.touch now))
      else .ok none := by
  rw [get_eq]
  generalize (if self.metadata.mightExist objectId then
    ((ReadableBackend.view self.backend).read self.config X objectId).map
      (Option.map (Payload.touch now))
    else .ok none) = answer
  cases answer <;> rfl

/-- Every `get` gives the same result on both stores, value or exception. -/
def SameGets (self other : UnifiedObjectStore β η) : Prop :=
  ∀ X objectId now, EStateResult.outcome (get X objectId now self) =
    EStateResult.outcome (get X objectId now other)

omit [PyRuntime] [Serializer Bytes] in
/-- Every listing gives the same result on both stores. -/
def SameLists (self other : UnifiedObjectStore β η) : Prop :=
  ∀ X, EStateResult.outcome (list X self) = EStateResult.outcome (list X other)

end UnifiedObjectStore

/-- Touching turns no answer into none. -/
theorem Payload.map_touch_none_iff {X : ObjectType} (found : Except PyError (Option (Payload X)))
    (now : Rat) :
    found.map (Option.map (Payload.touch now)) = .ok none ↔ found = .ok none := by
  cases found with
  | error e => simp [Except.map]
  | ok value => cases value <;> simp [Except.map]

namespace MemoryBackend

variable {Bytes : Type}

/-- A read depends on the keys of its object only. -/
theorem read_congr [Serializer Bytes] {b b' : MemoryBackend Bytes} {config : L3Config}
    {X : ObjectType} {objectId : String}
    (sameMeta : b'.get (metaKey (config.keyPrefix X) objectId) =
      b.get (metaKey (config.keyPrefix X) objectId))
    (sameData : ∀ ext, X.dataExt = some ext →
      b'.get (dataKey (config.keyPrefix X) objectId ext) =
        b.get (dataKey (config.keyPrefix X) objectId ext)) :
    b'.read config X objectId = b.read config X objectId := by
  cases X with
  | kvCache | rag | semanticCache | planCache =>
      simp only [read, readPair, sameMeta, sameData _ rfl]
      rfl
  | agentWorkflow | agentStep | toolCallArtifact | workflowTrace =>
      simp only [read, readMeta, sameMeta]

section

variable [Serializer Bytes]

/-- A write changes the reads of its own object only. -/
theorem read_write [LawfulSerializer Bytes] (b : MemoryBackend Bytes) (config : L3Config)
    {X : ObjectType} (payload : Payload X) (objectId : String) :
    (b.write config payload).read config X objectId =
      if payload.objectId = objectId then .ok (some payload) else b.read config X objectId := by
  have noData : ∀ id, ¬ ∃ ext, X.dataExt = some ext ∧
      dataKey (config.keyPrefix X) payload.objectId ext = metaKey (config.keyPrefix X) id :=
    fun id ⟨ext, pair, same⟩ => metaKey_ne_dataKey pair _ _ _ _ same.symm
  by_cases here : payload.objectId = objectId
  · subst here
    rw [if_pos rfl]
    refine read_stored ?_ fun ext pair => ?_
    · rw [get_write, if_neg (noData _), if_pos rfl, Option.map_some]
    · rw [get_write, if_pos ⟨ext, pair, rfl⟩, Option.bind_some]
  · rw [if_neg here]
    refine read_congr ?_ fun ext pair => ?_
    · rw [get_write, if_neg (noData _), if_neg fun same => here (metaKey_inj same)]
    · have notData : ¬ ∃ ext', X.dataExt = some ext' ∧
          dataKey (config.keyPrefix X) payload.objectId ext' =
            dataKey (config.keyPrefix X) objectId ext := by
        rintro ⟨ext', pair', same⟩
        rw [pair] at pair'
        cases pair'
        exact here (dataKey_inj same)
      rw [get_write, if_neg notData, if_neg (metaKey_ne_dataKey pair _ _ _ _)]

/-- A wipe takes the reads of its own object only. -/
theorem read_wipe (b : MemoryBackend Bytes) (config : L3Config) (X : ObjectType)
    (gone objectId : String) :
    (b.wipe config X gone).read config X objectId =
      if gone = objectId then .ok none else b.read config X objectId := by
  by_cases here : gone = objectId
  · subst here
    rw [if_pos rfl, read_none_iff, complete, get_wipe, if_pos (Or.inl rfl)]
    rfl
  · rw [if_neg here]
    refine read_congr ?_ fun ext pair => ?_
    · rw [get_wipe, if_neg]
      rintro (same | ⟨ext, pair, same⟩)
      · exact here (metaKey_inj same)
      · exact metaKey_ne_dataKey pair _ _ _ _ same.symm
    · rw [get_wipe, if_neg]
      rintro (same | ⟨ext', pair', same⟩)
      · exact metaKey_ne_dataKey pair _ _ _ _ same
      · rw [pair] at pair'
        cases pair'
        exact here (dataKey_inj same)

end

/-! ## Listings -/

theorem mem_listed (b : MemoryBackend Bytes) (p name : String) :
    name ∈ b.listed p ↔ name ≠ "" ∧ ∃ key, (b.get key).isSome ∧ startsWith key p = true ∧
      UnifiedObjectStore.listedName p key = name := by
  simp only [listed, sorted, List.mem_insertionSort, List.mem_dedup, List.mem_filter,
    List.mem_map, mem_listKeys, decide_eq_true_eq]
  constructor
  · rintro ⟨⟨key, ⟨held, inside⟩, rfl⟩, nonempty⟩
    exact ⟨nonempty, key, held, inside, rfl⟩
  · rintro ⟨nonempty, key, held, inside, rfl⟩
    exact ⟨⟨key, ⟨held, inside⟩, rfl⟩, nonempty⟩

/-- A listing is determined by the names in it. -/
theorem listed_eq_iff (b b' : MemoryBackend Bytes) (p : String) :
    b'.listed p = b.listed p ↔ ∀ name, name ∈ b'.listed p ↔ name ∈ b.listed p := by
  constructor
  · intro same name
    rw [same]
  · intro same
    refine (sorted_eq_iff _ _).mpr ((List.perm_ext_iff_of_nodup (List.nodup_dedup _)
      (List.nodup_dedup _)).mpr fun name => ?_)
    simpa only [listed, sorted, List.mem_insertionSort] using same name

/-- Another key than `gone` gives each name `gone` has in a listing. -/
def ListedAnyway (b : MemoryBackend Bytes) (config : L3Config) (gone : String) : Prop :=
  ∀ X, startsWith gone (config.keyPrefix X) = true →
    UnifiedObjectStore.listedName (config.keyPrefix X) gone ≠ "" →
    ∃ key, key ≠ gone ∧ (b.get key).isSome ∧ startsWith key (config.keyPrefix X) = true ∧
      UnifiedObjectStore.listedName (config.keyPrefix X) key =
        UnifiedObjectStore.listedName (config.keyPrefix X) gone

/-- Losing a present key goes unnoticed by the listings exactly when other keys
    give its names. -/
theorem listed_delete_iff {b : MemoryBackend Bytes} {gone : String}
    (present : (b.get gone).isSome) (config : L3Config) :
    (∀ X, (b.delete gone).listed (config.keyPrefix X) = b.listed (config.keyPrefix X)) ↔
      b.ListedAnyway config gone := by
  have kept : ∀ key, ((b.delete gone).get key).isSome ↔ key ≠ gone ∧ (b.get key).isSome := by
    intro key
    rw [get_delete]
    by_cases same : gone = key
    · simp [same]
    · simp [same, Ne.symm same]
  constructor
  · intro same X inside nonempty
    have listed := (b.mem_listed _ _).mpr ⟨nonempty, gone, present, inside, rfl⟩
    obtain ⟨-, key, held, below, name⟩ := (mem_listed _ _ _).mp (same X ▸ listed)
    exact ⟨key, ((kept key).mp held).1, ((kept key).mp held).2, below, name⟩
  · intro anyway X
    refine (listed_eq_iff _ _ _).mpr fun name => ?_
    rw [mem_listed, mem_listed]
    refine and_congr_right fun nonempty => ?_
    constructor
    · rintro ⟨key, held, inside, same⟩
      exact ⟨key, ((kept key).mp held).2, inside, same⟩
    · rintro ⟨key, held, inside, same⟩
      by_cases lost : key = gone
      · subst lost
        obtain ⟨other, differ, held, inside, other_name⟩ := anyway X inside (same ▸ nonempty)
        exact ⟨other, (kept other).mpr ⟨differ, held⟩, inside, other_name.trans same⟩
      · exact ⟨key, (kept key).mpr ⟨lost, held⟩, inside, same⟩

end MemoryBackend

end IntelliL3
