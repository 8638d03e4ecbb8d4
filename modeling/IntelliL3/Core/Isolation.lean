import IntelliL3.Core.MapBackend
import IntelliL3.Core.OneType
import IntelliL3.Lib.Maintains

/-! # Isolation of the object types

A call of one type touches the keys under its prefix and teaches the Bloom filter
ids. Nothing checks the configured prefixes: the types are isolated from each
other exactly when neither prefix starts with the other.
-/

namespace IntelliL3

open Lib

/-- Neither prefix starts with the other. -/
def L3Config.Apart (config : L3Config) (X Y : ObjectType) : Prop :=
  ¬ (config.keyPrefix X).toList <+: (config.keyPrefix Y).toList ∧
    ¬ (config.keyPrefix Y).toList <+: (config.keyPrefix X).toList

/-- What is under one of two prefixes apart is not under the other. -/
theorem L3Config.Apart.outside {config : L3Config} {X Y : ObjectType} (apart : config.Apart X Y)
    {key : String} (inside : startsWith key (config.keyPrefix Y) = true) :
    startsWith key (config.keyPrefix X) = false :=
  startsWith_apart apart.1 apart.2 inside

/-- Under prefixes that are not apart two objects share a key. -/
theorem L3Config.shared_metaKey {config : L3Config} {X Y : ObjectType}
    (together : ¬ config.Apart X Y) :
    ∃ i j, metaKey (config.keyPrefix X) i = metaKey (config.keyPrefix Y) j := by
  have extend : ∀ {p q : String}, p.toList <+: q.toList → ∃ i, metaKey p i = metaKey q "a" := by
    rintro p q ⟨rest, same⟩
    refine ⟨String.ofList rest ++ "a", String.toList_inj.mp ?_⟩
    simp only [metaKey, String.toList_append, ← same, String.toList_ofList, List.append_assoc]
  by_cases first : (config.keyPrefix X).toList <+: (config.keyPrefix Y).toList
  · obtain ⟨i, same⟩ := extend first
    exact ⟨i, "a", same⟩
  · by_cases second : (config.keyPrefix Y).toList <+: (config.keyPrefix X).toList
    · obtain ⟨j, same⟩ := extend second
      exact ⟨"a", j, same.symm⟩
    · exact absurd ⟨first, second⟩ together

namespace UnifiedObjectStore

open ReadableBackend (view)

variable {β η Bytes : Type} [StorageBackend (EStateM PyError β) Bytes] [MapBackend β Bytes]
  [PyRuntime]

/-! ## What is under a prefix -/

/-- Only keys under the prefix have changed, and the filter has forgotten nothing. -/
structure Within (p : String) (before after : UnifiedObjectStore β η) : Prop where
  config : after.config = before.config
  keys : ∀ key, startsWith key p = false →
    (view after.backend).get key = (view before.backend).get key
  filter : ∀ objectId, before.metadata.mightExist objectId = true →
    after.metadata.mightExist objectId = true

theorem Within.refl (p : String) (store : UnifiedObjectStore β η) : Within p store store :=
  ⟨rfl, fun _ _ => rfl, fun _ known => known⟩

variable {self : UnifiedObjectStore β η} {p key : String}

theorem putKey_within (under : startsWith key p = true) (data : Bytes) :
    Maintains (Within p self)
      (StorageBackend.put key data : StoreM β η Unit) := by
  refine Maintains.zoom fun s within => ⟨within.config, fun other outside => ?_, within.filter⟩
  refine (MapBackend.put_other key data s.backend fun same => ?_).trans (within.keys other outside)
  rw [same, under] at outside
  cases outside

theorem deleteKey_within (under : startsWith key p = true) :
    Maintains (Within p self) (StorageBackend.delete key : StoreM β η Bool) := by
  refine Maintains.zoom fun s within => ⟨within.config, fun other outside => ?_, within.filter⟩
  obtain ⟨existed, b, ran, erased⟩ := MapBackend.delete_view key s.backend
  rw [ran]
  refine (erased other).trans ?_
  rw [if_neg, within.keys other outside]
  intro same
  rw [← same, under] at outside
  cases outside

theorem deleteMany_within {keys : List String} (under : ∀ key ∈ keys, startsWith key p = true) :
    Maintains (Within p self) (StorageBackend.deleteMany keys : StoreM β η Nat) := by
  refine Maintains.zoom fun s within => ⟨within.config, fun other outside => ?_, within.filter⟩
  obtain ⟨count, b, ran, erased⟩ := MapBackend.deleteMany_view keys s.backend
  rw [ran]
  refine (erased other).trans ?_
  rw [if_neg, within.keys other outside]
  intro member
  rw [under other member] at outside
  cases outside

/-- The metadata may do anything but forget an id. -/
theorem onMetadata_within {α : Type} {action : EStateM PyError (MetadataStore η) α}
    (bloom : ∀ metadata objectId, metadata.mightExist objectId = true →
      (EStateResult.state (action metadata)).mightExist objectId = true) :
    Maintains (Within p self) (onMetadata action : StoreM β η α) :=
  Maintains.zoom fun _ within =>
    ⟨within.config, within.keys, fun objectId known => bloom _ _ (within.filter objectId known)⟩

theorem onObjectAdded_within (X : ObjectType) (objectId : String)
    (tokenIds : Option (List Int)) :
    Maintains (Within p self) (modify fun s =>
      { s with metadata := s.metadata.onObjectAdded X objectId tokenIds } : StoreM β η PUnit) := by
  refine Maintains.modify fun _ within => ⟨within.config, within.keys, fun other known => ?_⟩
  rw [MetadataStore.mightExist, MetadataStore.onObjectAdded_bloom]
  exact BloomFilter.mightContain_add _ _ (within.filter other known)

/-! ## Puts and deletions -/

theorem putPair_within (objectId ext : String) (metaBytes dataBytes : Bytes) :
    Maintains (Within p self) (putPair (metaKey p objectId) metaBytes (dataKey p objectId ext)
      dataBytes : StoreM β η Unit) := by
  refine (putKey_within (startsWith_metaKey p objectId) metaBytes).bind fun _ => ?_
  refine (putKey_within (startsWith_dataKey p objectId ext) dataBytes).tryCatch fun e => ?_
  exact (deleteKey_within (startsWith_metaKey p objectId)).bind fun _ => .throw e

theorem putMetaObject_within (objectId : String) (metaBytes : Bytes) (X : ObjectType) :
    Maintains (Within p self) (putMetaObject p objectId metaBytes X : StoreM β η String) :=
  (putKey_within (startsWith_metaKey p objectId) metaBytes).bind fun _ =>
    (onObjectAdded_within X objectId none).bind fun _ => .pure objectId

section

variable [Hnswlib η]

theorem onObjectRemoved_within (X : ObjectType) (objectId : String) :
    Maintains (Within p self)
      (onMetadata (MetadataStore.onObjectRemoved X objectId) : StoreM β η Unit) := by
  refine onMetadata_within fun metadata other known => ?_
  rwa [MetadataStore.mightExist, metadata.onObjectRemoved_bloom]

theorem deleteMetaObject_within (objectId : String) (X : ObjectType) :
    Maintains (Within p self) (deleteMetaObject p objectId X : StoreM β η Bool) := by
  refine (deleteKey_within (startsWith_metaKey p objectId)).bind fun result => ?_
  cases result with
  | false => exact .pure false
  | true => exact (onObjectRemoved_within X objectId).bind fun _ => .pure true

theorem deletePairObject_within (objectId ext : String) (X : ObjectType) :
    Maintains (Within p self) (deletePairObject p objectId ext X : StoreM β η Bool) := by
  have under : ∀ key ∈ [metaKey p objectId, dataKey p objectId ext], startsWith key p = true := by
    simp [startsWith_metaKey, startsWith_dataKey]
  refine ((deleteMany_within under).bind fun deleted => .pure _).bind fun result => ?_
  cases result with
  | false => exact .pure false
  | true => exact (onObjectRemoved_within X objectId).bind fun _ => .pure true

/-- A deletion, returning or raising, stays under the prefix of its type. -/
theorem delete_within (X : ObjectType) (objectId : String) :
    Maintains (Within (self.config.keyPrefix X) self) (delete X objectId : StoreM β η Bool) := by
  cases X with
  | kvCache | rag | semanticCache | planCache =>
      refine Maintains.bind_get fun s within => ?_
      rw [within.config]
      exact deletePairObject_within _ _ _
  | agentWorkflow | agentStep | toolCallArtifact | workflowTrace =>
      refine Maintains.bind_get fun s within => ?_
      rw [within.config]
      exact deleteMetaObject_within _ _

variable [Serializer Bytes] {X : ObjectType}

/-- So does a put. -/
theorem put_within (payload : Payload X) :
    Maintains (Within (self.config.keyPrefix X) self) (put payload : StoreM β η String) := by
  cases X with
  | kvCache | rag | planCache =>
      refine Maintains.bind_get fun s within => ?_
      rw [within.config]
      refine (Maintains.raising _).bind fun prepared => ?_
      refine (putPair_within _ _ _ _).bind fun _ => ?_
      exact (onObjectAdded_within _ _ _).bind fun _ => .pure _
  | semanticCache =>
      refine Maintains.bind_get fun s within => ?_
      rw [within.config]
      refine (Maintains.raising _).bind fun entry => ?_
      refine (putPair_within _ _ _ _).bind fun _ => ?_
      refine (onMetadata_within fun metadata objectId known => ?_).bind fun _ => .pure _
      rw [MetadataStore.mightExist, metadata.onSemanticEntryAdded_bloom]
      exact BloomFilter.mightContain_add _ _ known
  | agentWorkflow | agentStep | toolCallArtifact | workflowTrace =>
      refine Maintains.bind_get fun s within => ?_
      rw [within.config]
      exact putMetaObject_within _ _ _

end

/-! ## What is observed of a type -/

section

variable [Serializer Bytes] {other : UnifiedObjectStore β η} {X Y : ObjectType}

/-- Every get and the listing of a type give the same in both stores. -/
def SameType (Y : ObjectType) (self other : UnifiedObjectStore β η) : Prop :=
  (∀ objectId now, EStateResult.outcome (get Y objectId now other) =
    EStateResult.outcome (get Y objectId now self)) ∧
  EStateResult.outcome (list Y other) = EStateResult.outcome (list Y self)

/-- The filter knows every object of the type that the backend holds. -/
def Knows (Y : ObjectType) (self : UnifiedObjectStore β η) : Prop :=
  ∀ objectId, (view self.backend).complete self.config Y objectId = true →
    self.metadata.mightExist objectId = true

theorem Within.read (within : Within (self.config.keyPrefix X) self other)
    (apart : self.config.Apart X Y) (objectId : String) :
    (view other.backend).read other.config Y objectId =
      (view self.backend).read self.config Y objectId := by
  rw [within.config]
  exact MemoryBackend.read_congr
    (within.keys _ (apart.outside (startsWith_metaKey _ _)))
    fun ext _ => within.keys _ (apart.outside (startsWith_dataKey _ _ _))

omit [Serializer Bytes] in
theorem Within.listed (within : Within (self.config.keyPrefix X) self other)
    (apart : self.config.Apart X Y) :
    (view other.backend).listed (self.config.keyPrefix Y) =
      (view self.backend).listed (self.config.keyPrefix Y) := by
  rw [MemoryBackend.listed_eq_iff]
  intro name
  rw [MemoryBackend.mem_listed, MemoryBackend.mem_listed]
  refine and_congr_right fun _ => exists_congr fun key => ?_
  by_cases inside : startsWith key (self.config.keyPrefix Y) = true
  · rw [within.keys key (apart.outside inside)]
  · simp [inside]

/-- A call that stays under the prefix of its type is not observed of the others. -/
theorem Within.sameType (within : Within (self.config.keyPrefix X) self other)
    (apart : self.config.Apart X Y) (knows : self.Knows Y) : SameType Y self other := by
  constructor
  · intro objectId now
    rw [outcome_get, outcome_get, within.read apart]
    cases known : self.metadata.mightExist objectId with
    | true => rw [within.filter objectId known]
    | false =>
        have nothing : (view self.backend).read self.config Y objectId = .ok none := by
          rw [MemoryBackend.read_none_iff, Bool.eq_false_iff]
          intro complete
          rw [knows objectId complete] at known
          cases known
        rw [nothing]
        split <;> rfl
  · rw [list_eq, list_eq, within.config, within.listed apart]
    rfl

end

end UnifiedObjectStore

/-! ## A store with one object -/

private theorem one_pos_rat : (0 : Rat) < 1 := by decide

private theorem never_stopped : ∀ stop ∈ (none : Option Rat), (0 : Rat) ≤ stop :=
  fun _ stopped => absurd stopped (Option.not_mem_none _)

private theorem one_branch : (1 : Rat) ≤ 1 := Rat.le_refl

private theorem ratio_zero : (0 : Rat) ≤ 0 ∧ (0 : Rat) ≤ 1 := ⟨Rat.le_refl, by decide⟩

/-- An object of a type, under an id. -/
def Payload.named (objectId : String) : (X : ObjectType) → Payload X
  | .kvCache =>
      ({ objMeta := .new .kvCache objectId 0 }, Reference.array [], Reference.array [])
  | .rag => ({ objMeta := .new .rag objectId 0 }, Reference.array [])
  | .semanticCache => ({ objMeta := .new .semanticCache objectId 0 }, Reference.array [])
  | .agentWorkflow => {
      objMeta := .new .agentWorkflow objectId 0
      workflowId := objectId
      createdAt := 0 }
  | .agentStep => {
      objMeta := .new .agentStep objectId 0
      stepId := objectId
      workflowId := "workflow"
      agentId := "agent"
      timestampStart := 0
      timestampsOrdered := never_stopped }
  | .toolCallArtifact => {
      objMeta := .new .toolCallArtifact objectId 0
      toolCallId := objectId
      toolName := "tool"
      toolArgsHash := "hash"
      ttl := 1
      createdAt := 0
      expiresAt := 1
      ttlPositive := one_pos_rat
      expiresLater := one_pos_rat }
  | .planCache =>
      ({ objMeta := .new .planCache objectId 0, planId := objectId }, Reference.array [])
  | .workflowTrace => {
      objMeta := .new .workflowTrace objectId 0
      workflowId := objectId
      ratioInRange := ratio_zero
      branchingAtLeastOne := one_branch }

theorem Payload.named_objectId (objectId : String) (X : ObjectType) :
    (Payload.named objectId X).objectId = objectId := by
  cases X <;> rfl

namespace UnifiedObjectStore

open ReadableBackend (view)

variable {β η Bytes : Type} [StorageBackend (EStateM PyError β) Bytes] [MapBackend β Bytes]
  [PyRuntime] [Serializer Bytes]

/-- A store whose backend holds one object, and whose filter knows it. -/
def holding (config : L3Config) (X : ObjectType) (objectId : String) : UnifiedObjectStore β η where
  backend := MapBackend.hold (MemoryBackend.empty.write config (Payload.named objectId X))
  config := config
  metadata := {
    bloom := (BloomFilter.blank ⟨64, le_rfl⟩ ⟨1, le_rfl⟩).add objectId
    prefixTree := .empty
    expectedItems := 1
    hnsw := none }

/-- What the backend of such a store holds of its type. -/
theorem holding_holdsOf (config : L3Config) (X : ObjectType) (objectId : String) :
    (view (holding config X objectId : UnifiedObjectStore β η).backend).HoldsOf config
      (Function.update (fun _ => none) objectId (some (Payload.named objectId X))) := by
  have written := (@MemoryBackend.HoldsOf.empty Bytes _ config X).write (Payload.named objectId X)
  rw [Payload.named_objectId] at written
  rw [holding, MapBackend.view_hold]
  exact written

theorem holding_complete (config : L3Config) (X : ObjectType) (objectId : String) :
    (view (holding config X objectId : UnifiedObjectStore β η).backend).complete config X objectId =
      true := by
  have holds := holding_holdsOf (β := β) (η := η) config X objectId
  rw [MemoryBackend.complete, holds.metaOf, Function.update_self]
  cases pair : X.dataExt with
  | none => rfl
  | some ext =>
      have arrays := MemoryBackend.dataBytes_isSome Bytes (Payload.named objectId X)
      simp only [holds.dataOf objectId ext pair, Function.update_self, Option.bind_some, arrays,
        pair]
      rfl

theorem holding_knows (config : L3Config) (X : ObjectType) (objectId : String) :
    (holding config X objectId : UnifiedObjectStore β η).Knows X := by
  intro other complete
  have holds := holding_holdsOf (β := β) (η := η) config X objectId
  have present := (Bool.and_eq_true_iff.mp complete).1
  rw [show (holding config X objectId : UnifiedObjectStore β η).config = config from rfl,
    holds.metaOf, Option.isSome_map] at present
  by_cases here : other = objectId
  · rw [here]
    exact BloomFilter.mightContain_add_self _ _
  · rw [Function.update_of_ne here] at present
    cases present

section

variable [Hnswlib η] (self : UnifiedObjectStore β η)

omit [MapBackend β Bytes] [PyRuntime] [Serializer Bytes] in
/-- Without an index nothing refuses a removal. -/
theorem onObjectRemoved_unindexed (unindexed : self.metadata.hnsw = none) (X : ObjectType)
    (objectId : String) : ∃ metadata,
      onMetadata (MetadataStore.onObjectRemoved X objectId) self =
        .ok () { self with metadata } := by
  have returns : ∃ metadata, MetadataStore.onObjectRemoved X objectId self.metadata =
      .ok () metadata := by
    by_cases semantic : X = .semanticCache
    · rw [semantic, MetadataStore.onObjectRemoved_semantic, unindexed]
      exact ⟨_, rfl⟩
    · exact MetadataStore.onObjectRemoved_quiet semantic self.metadata objectId
  obtain ⟨metadata, ran⟩ := returns
  rw [onMetadata, zoom_run, ran]
  exact ⟨metadata, rfl⟩

omit [MapBackend β Bytes] [PyRuntime] [Serializer Bytes] in
/-- What a deletion does once its keys are erased. -/
theorem afterErasing_returns {erase : StoreM β η Bool} {erased : Bool} {backend : β}
    (ran : erase self = .ok erased { self with backend }) (unindexed : self.metadata.hnsw = none)
    (X : ObjectType) (objectId : String) : ∃ metadata,
      (do let result ← erase
          if result then onMetadata (MetadataStore.onObjectRemoved X objectId)
          return result : StoreM β η Bool) self = .ok erased { self with backend, metadata } := by
  obtain ⟨metadata, removed⟩ :=
    onObjectRemoved_unindexed { self with backend } unindexed X objectId
  rw [bind_run, ran]
  cases erased with
  | false => exact ⟨self.metadata, rfl⟩
  | true =>
      simp only [if_true, bind_run, removed]
      exact ⟨metadata, rfl⟩

omit [PyRuntime] [Serializer Bytes] in
/-- Without an index a deletion returns, and the metadata key is gone. -/
theorem delete_erases (unindexed : self.metadata.hnsw = none) (X : ObjectType)
    (objectId : String) : ∃ existed self', delete X objectId self = .ok existed self' ∧
      self'.config = self.config ∧
      (view self'.backend).get (metaKey (self.config.keyPrefix X) objectId) = none := by
  have single : ∀ p, ∃ existed backend,
      (StorageBackend.delete (metaKey p objectId) : StoreM β η Bool) self =
        .ok existed { self with backend } ∧ (view backend).get (metaKey p objectId) = none := by
    intro p
    obtain ⟨existed, backend, ran, erased⟩ :=
      MapBackend.delete_view (metaKey p objectId) self.backend
    refine ⟨existed, backend, ?_, (erased _).trans (if_pos rfl)⟩
    change onBackend _ self = _
    rw [onBackend, zoom_run, ran]
  have pair : ∀ p ext, ∃ existed backend, (deletePair p objectId ext : StoreM β η Bool) self =
      .ok existed { self with backend } ∧ (view backend).get (metaKey p objectId) = none := by
    intro p ext
    obtain ⟨count, backend, ran, erased⟩ :=
      MapBackend.deleteMany_view [metaKey p objectId, dataKey p objectId ext] self.backend
    have many : (StorageBackend.deleteMany [metaKey p objectId, dataKey p objectId ext] :
        StoreM β η Nat) self = .ok count { self with backend } := by
      change onBackend _ self = _
      rw [onBackend, zoom_run, ran]
    refine ⟨count > 0, backend, ?_, (erased _).trans (if_pos List.mem_cons_self)⟩
    rw [deletePair, bind_run, many]
    rfl
  cases X with
  | kvCache | rag | semanticCache | planCache =>
      obtain ⟨existed, backend, ran, gone⟩ := pair _ _
      obtain ⟨metadata, done⟩ := afterErasing_returns self ran unindexed _ objectId
      exact ⟨existed, _, done, rfl, gone⟩
  | agentWorkflow | agentStep | toolCallArtifact | workflowTrace =>
      obtain ⟨existed, backend, ran, gone⟩ := single _
      obtain ⟨metadata, done⟩ := afterErasing_returns self ran unindexed _ objectId
      exact ⟨existed, _, done, rfl, gone⟩

end

/-- A deletion of one type takes an object of another from under a shared key. -/
theorem deleted_of_shared [Hnswlib η] {config : L3Config} {X Y : ObjectType} {i j : String}
    (shared : metaKey (config.keyPrefix X) i = metaKey (config.keyPrefix Y) j) :
    ∃ existed self', delete X i (holding config Y j : UnifiedObjectStore β η) =
        .ok existed self' ∧ ¬ SameType Y (holding config Y j) self' := by
  obtain ⟨existed, self', done, sameConfig, gone⟩ :=
    delete_erases (holding config Y j : UnifiedObjectStore β η) rfl X i
  refine ⟨existed, self', done, fun same => ?_⟩
  have before : EStateResult.outcome (get Y j 0 (holding config Y j : UnifiedObjectStore β η)) ≠
      .ok none := by
    have complete := holding_complete (β := β) (η := η) config Y j
    rw [outcome_get, if_pos (holding_knows config Y j j complete), Ne,
      Payload.map_touch_none_iff, MemoryBackend.read_none_iff]
    exact ne_of_eq_of_ne complete Bool.false_ne_true.symm
  have after : EStateResult.outcome (get Y j 0 self') = .ok none := by
    have absent : (view self'.backend).get (metaKey (self'.config.keyPrefix Y) j) = none := by
      rw [sameConfig]
      exact shared ▸ gone
    have incomplete : (view self'.backend).complete self'.config Y j = false := by
      rw [MemoryBackend.complete, absent]
      rfl
    rw [outcome_get, (MemoryBackend.read_none_iff _ _ _ _).mpr incomplete]
    split <;> rfl
  exact before ((same.1 j 0).symm.trans after)

end UnifiedObjectStore

open UnifiedObjectStore

/-- Puts and deletions of one type change nothing of what is observed of another, in any store
    whose filter knows the objects of that type, exactly when neither prefix starts with the
    other. -/
theorem types_isolated_iff {β η Bytes : Type} [StorageBackend (EStateM PyError β) Bytes]
    [MapBackend β Bytes] [PyRuntime] [Serializer Bytes] [Hnswlib η] (config : L3Config)
    (X Y : ObjectType) :
    (∀ self : UnifiedObjectStore β η, self.config = config → self.Knows Y →
      (∀ (payload : Payload X) objectId self', put payload self = .ok objectId self' →
        SameType Y self self') ∧
      ∀ objectId existed self', delete X objectId self = .ok existed self' →
        SameType Y self self') ↔
      config.Apart X Y := by
  constructor
  · intro isolated
    by_contra together
    obtain ⟨i, j, shared⟩ := L3Config.shared_metaKey together
    obtain ⟨existed, self', done, differ⟩ := deleted_of_shared (β := β) (η := η) shared
    exact differ ((isolated _ rfl (holding_knows config Y j)).2 i existed self' done)
  · rintro apart self rfl knows
    constructor
    · intro payload objectId self' done
      have within := put_within payload self (.refl _ self)
      rw [done] at within
      exact within.sameType apart knows
    · intro objectId existed self' done
      have within := delete_within X objectId self (.refl _ self)
      rw [done] at within
      exact within.sameType apart knows

section

open Reference

/-- Blocks and RAG objects under one prefix. -/
private def sharedPrefix : L3Config := { objects := { rag := { keyPrefix := "kv/" } } }

/-- A second store over a backend that holds a RAG object. -/
private def reopened : UnifiedObjectStore (MemoryBackend Encoded) FlatIndex :=
  .new (holding (η := FlatIndex) .default .rag "a").backend .default metadata

/-- A block of the same id makes the RAG object known to the filter. -/
private theorem put_reveals : ∃ objectId self',
    put (Payload.named "a" .kvCache) reopened = .ok objectId self' ∧
      (EStateResult.found (get .rag "a" 0 self')).isSome = true := by
  have returns : EStateResult.outcome (put (Payload.named "a" .kvCache) reopened) = .ok "a" := rfl
  have found : (EStateResult.found (get .rag "a" 0
      (EStateResult.state (put (Payload.named "a" .kvCache) reopened)))).isSome = true := by
    decide +kernel
  cases done : put (Payload.named "a" .kvCache) reopened with
  | error e self' =>
      rw [done] at returns
      cases returns
  | ok objectId self' =>
      rw [done] at found
      exact ⟨objectId, self', rfl, found⟩

/-- With a shared prefix a deleted block takes a RAG object with it; and where the filter does not
    know a RAG object, a block of the same id makes it known. -/
theorem types_not_isolated :
    ¬ (∀ (self : UnifiedObjectStore (MemoryBackend Encoded) FlatIndex) (X Y : ObjectType),
        X ≠ Y → self.Knows Y → ∀ objectId existed self',
          delete X objectId self = .ok existed self' → SameType Y self self') ∧
      ¬ ∀ (self : UnifiedObjectStore (MemoryBackend Encoded) FlatIndex) (X Y : ObjectType),
        X ≠ Y → self.config = .default → ∀ (payload : Payload X) objectId self',
          put payload self = .ok objectId self' → SameType Y self self' := by
  constructor
  · intro always
    have shared : metaKey (sharedPrefix.keyPrefix .kvCache) "a" =
        metaKey (sharedPrefix.keyPrefix .rag) "a" := rfl
    obtain ⟨existed, self', done, differ⟩ :=
      deleted_of_shared (β := MemoryBackend Encoded) (η := FlatIndex) shared
    exact differ (always _ _ _ (by decide) (holding_knows sharedPrefix .rag "a") _ _ _ done)
  · intro always
    obtain ⟨objectId, self', done, found⟩ := put_reveals
    have same := (always reopened .kvCache .rag (by decide) rfl _ _ _ done).1 "a" 0
    have unknown : EStateResult.found (get .rag "a" 0 reopened) = none := rfl
    rw [EStateResult.found, same, ← EStateResult.found, unknown] at found
    cases found

end

end IntelliL3
