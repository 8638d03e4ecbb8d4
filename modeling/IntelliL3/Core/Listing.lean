import Mathlib.Data.List.TakeWhile
import Mathlib.Data.Set.Card
import IntelliL3.Core.Observations

/-! # Listings and what they stand for

A listing cuts the ids out of the keys again: it strips the prefix and stops at
the first dot. Ids without a dot come back as they are, an id with one comes
back cut or not at all.
-/

namespace IntelliL3

open Lib

/-! ## Counting -/

structure StoreStats where
  kvCacheBlocks : Nat
  ragObjects : Nat
  semanticCacheEntries : Nat
  agentWorkflows : Nat
  agentSteps : Nat
  toolArtifacts : Nat
  planCacheEntries : Nat
  workflowTraces : Nat
  metadata : MetadataStats

def StoreStats.count (stats : StoreStats) : ObjectType → Nat
  | .kvCache => stats.kvCacheBlocks
  | .rag => stats.ragObjects
  | .semanticCache => stats.semanticCacheEntries
  | .agentWorkflow => stats.agentWorkflows
  | .agentStep => stats.agentSteps
  | .toolCallArtifact => stats.toolArtifacts
  | .planCache => stats.planCacheEntries
  | .workflowTrace => stats.workflowTraces

namespace UnifiedObjectStore

variable {β η Bytes : Type} [StorageBackend (EStateM PyError β) Bytes]

def stats : StoreM β η StoreStats := do
  let self ← getThe (UnifiedObjectStore β η)
  return {
    kvCacheBlocks := (← listKvBlocks).length
    ragObjects := (← listRagObjects).length
    semanticCacheEntries := (← listSemanticEntries).length
    agentWorkflows := (← listAgentWorkflows).length
    agentSteps := (← listAgentSteps).length
    toolArtifacts := (← listToolArtifacts).length
    planCacheEntries := (← listPlanCacheEntries).length
    workflowTraces := (← listWorkflowTraces).length
    metadata := self.metadata.stats }

/-- Every count is the length of the listing of its type. -/
theorem stats_eq [ReadableBackend β Bytes] (self : UnifiedObjectStore β η) :
    ∃ answer, stats self = .ok answer self ∧ ∀ X, answer.count X =
      ((ReadableBackend.view self.backend).listed (self.config.keyPrefix X)).length := by
  have current : (getThe (UnifiedObjectStore β η) : StoreM β η _) self = .ok self self := rfl
  have kvBlocks : listKvBlocks self = _ := list_eq self .kvCache
  have ragObjects : listRagObjects self = _ := list_eq self .rag
  have semanticEntries : listSemanticEntries self = _ := list_eq self .semanticCache
  have workflows : listAgentWorkflows self = _ := list_eq self .agentWorkflow
  have steps : listAgentSteps self = _ := list_eq self .agentStep
  have artifacts : listToolArtifacts self = _ := list_eq self .toolCallArtifact
  have plans : listPlanCacheEntries self = _ := list_eq self .planCache
  have traces : listWorkflowTraces self = _ := list_eq self .workflowTrace
  simp only [stats, bind_run, pure_run, current, kvBlocks, ragObjects, semanticEntries,
    workflows, steps, artifacts, plans, traces]
  exact ⟨_, rfl, fun X => by cases X <;> rfl⟩

end UnifiedObjectStore

/-! ## The id in a key -/

/-- `object_id.split(".")[0]` -/
def stem (objectId : String) : String := String.ofList (objectId.toList.takeWhile (· ≠ '.'))

theorem stem_noDot (objectId : String) : '.' ∉ (stem objectId).toList := by
  intro dotted
  rw [stem, String.toList_ofList] at dotted
  have kept := List.mem_takeWhile_imp (p := fun c => decide (c ≠ '.')) dotted
  exact absurd kept (by decide)

theorem stem_eq_self_iff (objectId : String) :
    stem objectId = objectId ↔ '.' ∉ objectId.toList := by
  constructor
  · intro same
    rw [← same]
    exact stem_noDot objectId
  · intro noDot
    have whole : objectId.toList.takeWhile (· ≠ '.') = objectId.toList :=
      List.takeWhile_eq_self_iff.mpr fun c member =>
        decide_eq_true fun dot => noDot (dot ▸ member)
    rw [stem, whole, String.ofList_toList]

private theorem stem_append_dot (objectId rest : String) :
    String.ofList ((objectId.toList ++ '.' :: rest.toList).takeWhile (· ≠ '.')) =
      stem objectId := by
  rw [stem, List.takeWhile_append]
  split
  · next whole => rw [List.takeWhile_cons_of_neg (by decide), List.append_nil,
      List.IsPrefix.eq_of_length (List.takeWhile_prefix _) whole]
  · rfl

private theorem listedName_append (p objectId rest : String) :
    UnifiedObjectStore.listedName p (p ++ objectId ++ "." ++ rest) = stem objectId := by
  have inside : startsWith (p ++ objectId ++ "." ++ rest) p = true := by
    rw [startsWith, List.isPrefixOf_iff_prefix]
    simp only [String.toList_append, List.append_assoc]
    exact List.prefix_append _ _
  have dropped : (p ++ objectId ++ "." ++ rest).toList.drop p.length =
      objectId.toList ++ '.' :: rest.toList := by
    rw [← String.length_toList]
    simp only [String.toList_append, List.append_assoc, List.drop_left]
    rfl
  rw [UnifiedObjectStore.listedName, if_pos inside, dropped]
  exact stem_append_dot objectId rest

theorem listedName_metaKey (p objectId : String) :
    UnifiedObjectStore.listedName p (metaKey p objectId) = stem objectId := by
  have key : metaKey p objectId = p ++ objectId ++ "." ++ "meta.json" := by
    simp only [metaKey, String.append_assoc]
    rfl
  rw [key, listedName_append]

theorem listedName_dataKey (p objectId ext : String) :
    UnifiedObjectStore.listedName p (dataKey p objectId ext) = stem objectId :=
  listedName_append p objectId ext

/-! ## Which ids a listing reports -/

theorem startsWith_metaKey (p objectId : String) : startsWith (metaKey p objectId) p = true := by
  rw [startsWith, List.isPrefixOf_iff_prefix]
  simp only [metaKey, String.toList_append, List.append_assoc]
  exact List.prefix_append _ _

theorem startsWith_dataKey (p objectId ext : String) :
    startsWith (dataKey p objectId ext) p = true := by
  rw [startsWith, List.isPrefixOf_iff_prefix]
  simp only [dataKey, String.toList_append, List.append_assoc]
  exact List.prefix_append _ _

/-- A key is under two prefixes only where one of them starts with the other. -/
theorem startsWith_apart {p q key : String} (apart : ¬ p.toList <+: q.toList)
    (apart' : ¬ q.toList <+: p.toList) (inside : startsWith key q = true) :
    startsWith key p = false := by
  rw [Bool.eq_false_iff]
  intro other
  rw [startsWith, List.isPrefixOf_iff_prefix] at inside other
  rcases List.prefix_or_prefix_of_prefix other inside with first | second
  · exact apart first
  · exact apart' second

namespace MemoryBackend

variable {Bytes : Type}

/-- Every key under the prefix of a type is a key of one of its objects. -/
def KeysOf (b : MemoryBackend Bytes) (config : L3Config) (X : ObjectType) : Prop :=
  ∀ key, (b.get key).isSome → startsWith key (config.keyPrefix X) = true → ∃ objectId,
    key = metaKey (config.keyPrefix X) objectId ∨
      ∃ ext, X.dataExt = some ext ∧ key = dataKey (config.keyPrefix X) objectId ext

namespace KeysOf

variable {b : MemoryBackend Bytes} {config : L3Config} {X Y : ObjectType}

theorem empty (config : L3Config) (X : ObjectType) :
    KeysOf (empty : MemoryBackend Bytes) config X :=
  fun _ held => absurd held Bool.false_ne_true

theorem wipe (keys : KeysOf b config X) (Y : ObjectType) (gone : String) :
    KeysOf (b.wipe config Y gone) config X := by
  intro key held inside
  rw [get_wipe] at held
  split at held
  · cases held
  · exact keys key held inside

variable [Serializer Bytes]

theorem write (keys : KeysOf b config X) (payload : Payload X) :
    KeysOf (b.write config payload) config X := by
  intro key held inside
  rw [get_write] at held
  split at held
  · next data =>
      obtain ⟨ext, pair, same⟩ := data
      exact ⟨payload.objectId, .inr ⟨ext, pair, same.symm⟩⟩
  · split at held
    · next same => exact ⟨payload.objectId, .inl same.symm⟩
    · exact keys key held inside

/-- An object of another type brings no key under the prefix. -/
theorem write_other (keys : KeysOf b config X) (free : config.PrefixFree) (other : Y ≠ X)
    (payload : Payload Y) : KeysOf (b.write config payload) config X := by
  have outside : ∀ key, startsWith key (config.keyPrefix Y) = true →
      startsWith key (config.keyPrefix X) = false :=
    fun key => startsWith_apart (free X Y (Ne.symm other)) (free Y X other)
  intro key held inside
  rw [get_write] at held
  split at held
  · next data =>
      obtain ⟨ext, -, rfl⟩ := data
      rw [outside _ (startsWith_dataKey _ _ _)] at inside
      cases inside
  · split at held
    · next same =>
        subst same
        rw [outside _ (startsWith_metaKey _ _)] at inside
        cases inside
    · exact keys key held inside

end KeysOf

/-- A listing reports the stems of the live ids. -/
theorem HoldsOf.mem_listed_iff [Serializer Bytes] {b : MemoryBackend Bytes} {config : L3Config}
    {X : ObjectType} {live : String → Option (Payload X)} (holds : HoldsOf b config live)
    (keys : KeysOf b config X) (name : String) :
    name ∈ b.listed (config.keyPrefix X) ↔
      name ≠ "" ∧ ∃ objectId, (live objectId).isSome ∧ stem objectId = name := by
  rw [mem_listed]
  refine and_congr_right fun _ => ?_
  constructor
  · rintro ⟨key, held, inside, rfl⟩
    obtain ⟨objectId, rfl | ⟨ext, pair, rfl⟩⟩ := keys key held inside
    · rw [holds.metaOf, Option.isSome_map] at held
      exact ⟨objectId, held, (listedName_metaKey _ _).symm⟩
    · rw [holds.dataOf objectId ext pair] at held
      refine ⟨objectId, ?_, (listedName_dataKey _ _ _).symm⟩
      cases found : live objectId with
      | none => rw [found] at held; cases held
      | some payload => rfl
  · rintro ⟨objectId, found, rfl⟩
    refine ⟨metaKey (config.keyPrefix X) objectId, ?_, startsWith_metaKey _ _,
      listedName_metaKey _ _⟩
    rw [holds.metaOf, Option.isSome_map]
    exact found

/-- What can be read is listed, when its id is a name without a dot. -/
theorem mem_listed_of_read [Serializer Bytes] {b : MemoryBackend Bytes} {config : L3Config}
    {X : ObjectType} {objectId : String} {payload : Payload X}
    (read : b.read config X objectId = .ok (some payload))
    (plain : objectId ≠ "" ∧ '.' ∉ objectId.toList) : objectId ∈ b.listed (config.keyPrefix X) := by
  have present : (b.get (metaKey (config.keyPrefix X) objectId)).isSome = true := by
    by_contra absent
    rw [Bool.not_eq_true] at absent
    have nothing : b.read config X objectId = .ok none := by
      rw [read_none_iff, complete, absent, Bool.false_and]
    rw [nothing] at read
    cases read
  rw [mem_listed]
  refine ⟨plain.1, _, present, startsWith_metaKey _ _, ?_⟩
  rw [listedName_metaKey]
  exact (stem_eq_self_iff objectId).mpr plain.2

theorem listed_sorted (b : MemoryBackend Bytes) (p : String) :
    (b.listed p).Pairwise (· < ·) := by
  have ordered : (b.listed p).Pairwise (· ≤ ·) := List.pairwise_insertionSort _ _
  have distinct : (b.listed p).Nodup := (sorted_perm _).nodup_iff.mpr (List.nodup_dedup _)
  exact ordered.imp₂ (fun _ _ le ne => lt_of_le_of_ne le ne) distinct

end MemoryBackend

/-- When every live id is a name of its own, a listing reports exactly the live ids. -/
theorem MemoryBackend.HoldsOf.mem_listed_plain {Bytes : Type} [Serializer Bytes]
    {b : MemoryBackend Bytes} {config : L3Config} {X : ObjectType}
    {live : String → Option (Payload X)} (holds : b.HoldsOf config live)
    (keys : b.KeysOf config X)
    (plain : ∀ objectId, (live objectId).isSome → objectId ≠ "" ∧ '.' ∉ objectId.toList)
    (name : String) : name ∈ b.listed (config.keyPrefix X) ↔ (live name).isSome := by
  rw [holds.mem_listed_iff keys]
  constructor
  · rintro ⟨-, objectId, found, rfl⟩
    rw [(stem_eq_self_iff objectId).mpr (plain objectId found).2]
    exact found
  · intro found
    exact ⟨(plain name found).1, name, found, (stem_eq_self_iff name).mpr (plain name found).2⟩

/-! ## Runs -/

namespace UnifiedObjectStore

variable {η Bytes : Type} [PyRuntime] [Serializer Bytes]

/-- `get_X(id)` is not None. -/
def Retrievable (self : UnifiedObjectStore (MemoryBackend Bytes) η) (X : ObjectType)
    (objectId : String) : Prop :=
  ∀ now, EStateResult.outcome (get X objectId now self) ≠ .ok none

/-- Each listing is the sorted list, without repetitions, of the ids a `get`
    answers, and each count is the number of these ids. -/
def ListsRetrievable (self : UnifiedObjectStore (MemoryBackend Bytes) η) : Prop :=
  ∀ X, ∃ ids answer, EStateResult.outcome (list X self) = .ok ids ∧
    EStateResult.outcome (stats self) = .ok answer ∧ ids.Pairwise (· < ·) ∧
    (∀ objectId, objectId ∈ ids ↔ self.Retrievable X objectId) ∧
    answer.count X = Set.ncard { objectId | self.Retrievable X objectId }

end UnifiedObjectStore

theorem Refines.retrievable_iff {η Bytes : Type} [PyRuntime] [Serializer Bytes]
    [LawfulSerializer Bytes] {self : UnifiedObjectStore (MemoryBackend Bytes) η} {m : TypedMap}
    (refines : Refines self m) (X : ObjectType) (objectId : String) :
    self.Retrievable X objectId ↔ (m X objectId).isSome := by
  unfold UnifiedObjectStore.Retrievable
  simp only [refines.get, EStateResult.outcome_ok]
  cases m X objectId <;> simp

/-- What is live after a history was put in it or live before. -/
theorem TypedMap.live_named [PyRuntime] {calls : List Call}
    (named : ∀ {X} (payload : Payload X), Call.put payload ∈ calls → payload.objectId ≠ "")
    {m : TypedMap} (start : ∀ X objectId, (m X objectId).isSome → objectId ≠ "") :
    ∀ X objectId, ((calls.foldl TypedMap.apply m) X objectId).isSome → objectId ≠ "" := by
  induction calls generalizing m with
  | nil => exact start
  | cons c rest ih =>
      refine ih (fun payload later => named payload (List.mem_cons_of_mem _ later)) ?_
      intro X objectId live
      by_cases concerned : c.concerns X objectId
      · cases c with
        | put payload =>
            obtain ⟨-, rfl⟩ := concerned
            exact named payload List.mem_cons_self
        | get => exact start X objectId live
        | delete Y other =>
            obtain ⟨rfl, rfl⟩ := concerned
            simp [TypedMap.apply] at live
      · rw [TypedMap.apply_other m concerned] at live
        exact start X objectId live

namespace Refines

variable {η Bytes : Type} [PyRuntime] [Serializer Bytes] [Hnswlib η]

/-- A call leaves nothing but keys of objects under each prefix. -/
theorem keysOf_step {self self' : UnifiedObjectStore (MemoryBackend Bytes) η}
    (free : self.config.PrefixFree) (keys : ∀ X, self.backend.KeysOf self.config X) {c : Call}
    {r : Reply} (done : UnifiedObjectStore.exec c self = .ok r self') :
    self'.config = self.config ∧ ∀ X, self'.backend.KeysOf self'.config X := by
  cases c with
  | put payload =>
      rename_i Y
      obtain ⟨objectId, m, inner, done⟩ := bind_run_ok.mp done
      cases done
      obtain ⟨stamped, -, -, -, config, backend, -⟩ := UnifiedObjectStore.put_ok inner
      refine ⟨config, fun X => ?_⟩
      rw [config, backend]
      by_cases same : Y = X
      · subst same
        exact (keys Y).write stamped
      · exact (keys X).write_other free same stamped
  | get X objectId now =>
      obtain ⟨value, m, inner, done⟩ := bind_run_ok.mp done
      cases done
      rw [UnifiedObjectStore.get_eq] at inner
      unfold raising at inner
      split at inner <;> cases inner
      exact ⟨rfl, keys⟩
  | delete X objectId =>
      obtain ⟨existed, m, inner, done⟩ := bind_run_ok.mp done
      cases done
      obtain ⟨-, config, backend, -⟩ := UnifiedObjectStore.delete_ok inner
      refine ⟨config, fun Y => ?_⟩
      rw [config, backend]
      exact (keys Y).wipe X objectId

end Refines

/-- After any run of calls with non-empty ids, each listing is the sorted list of
    the ids a `get` answers, and each count their number, exactly when no live id
    contains a dot. -/
theorem listing_agrees_iff {η Bytes : Type} [PyRuntime] [Serializer Bytes]
    [LawfulSerializer Bytes] [Hnswlib η] (metadata : MetadataStore η)
    {calls : List Call} {replies : List Reply}
    {self : UnifiedObjectStore (MemoryBackend Bytes) η}
    (run : Run UnifiedObjectStore.exec
      (UnifiedObjectStore.overEmpty Bytes .default metadata) calls replies self)
    (named : ∀ {X} (payload : Payload X), Call.put payload ∈ calls → payload.objectId ≠ "") :
    self.ListsRetrievable ↔ ∀ X objectId,
      ((calls.foldl TypedMap.apply TypedMap.empty) X objectId).isSome →
        '.' ∉ objectId.toList := by
  have step : ∀ (s : UnifiedObjectStore (MemoryBackend Bytes) η) m c r s',
      (Refines s m ∧ ∀ X, s.backend.KeysOf s.config X) →
      UnifiedObjectStore.exec c s = .ok r s' → r = TypedMap.answer m c ∧
        Refines s' (TypedMap.apply m c) ∧ ∀ X, s'.backend.KeysOf s'.config X := by
    rintro s m c r s' ⟨refines, keys⟩ done
    obtain ⟨answered, next⟩ := refines.step done
    exact ⟨answered, next, (Refines.keysOf_step refines.free keys done).2⟩
  obtain ⟨-, refines, keys⟩ := run.simulates step
    ⟨Refines.fresh L3Config.default_prefixFree metadata,
      fun X => MemoryBackend.KeysOf.empty L3Config.default X⟩
  have nonempty := TypedMap.live_named named (m := TypedMap.empty)
    fun _ _ live => absurd live Bool.false_ne_true
  obtain ⟨answer, stats, counts⟩ := self.stats_eq
  constructor
  · intro agrees X objectId live
    obtain ⟨ids, -, listing, -, -, members, -⟩ := agrees X
    rw [UnifiedObjectStore.list_eq] at listing
    cases listing
    have member := (members objectId).mpr ((refines.retrievable_iff X objectId).mpr live)
    obtain ⟨-, other, -, rfl⟩ := ((refines.holds X).mem_listed_iff (keys X) objectId).mp member
    exact stem_noDot other
  · intro plain X
    have members : ∀ objectId, objectId ∈ self.backend.listed (self.config.keyPrefix X) ↔
        self.Retrievable X objectId := by
      intro objectId
      rw [refines.retrievable_iff]
      exact (refines.holds X).mem_listed_plain (keys X)
        (fun objectId live => ⟨nonempty X objectId live, plain X objectId live⟩) objectId
    have ordered := self.backend.listed_sorted (self.config.keyPrefix X)
    have same : { objectId | self.Retrievable X objectId } =
        ((self.backend.listed (self.config.keyPrefix X)).toFinset : Set String) := by
      ext objectId
      rw [Set.mem_ofPred_eq, ← members, Finset.mem_coe, List.mem_toFinset]
    refine ⟨_, answer, by rw [UnifiedObjectStore.list_eq]; rfl, by rw [stats]; rfl, ordered,
      members, ?_⟩
    rw [same, Set.ncard_coe_finset, List.toFinset_card_of_nodup (ordered.imp ne_of_lt), counts]
    rfl

section

open Reference

private def putOne (objectId : String) : List Call :=
  [.put (X := .kvCache) (kvBlock objectId [1], array [1], array [2])]

/-- One block, listed and counted. -/
theorem listing_agrees_one : ∃ replies self,
    Run UnifiedObjectStore.exec store (putOne "a") replies self ∧ self.ListsRetrievable := by
  have run : Run UnifiedObjectStore.exec store (putOne "a") _ _ := .cons rfl (.nil _)
  refine ⟨_, _, run, (listing_agrees_iff metadata run ?_).mpr ?_⟩
  · intro X payload member
    cases List.mem_singleton.mp member
    decide
  · intro X objectId live
    by_cases here : ObjectType.kvCache = X ∧ "a" = objectId
    · obtain ⟨-, rfl⟩ := here
      decide
    · have kept := TypedMap.apply_other .empty
        (c := .put (X := .kvCache) (kvBlock "a" [1], array [1], array [2])) here
      rw [putOne, List.foldl_cons, List.foldl_nil, kept] at live
      cases live

/-- A block put under an id with a dot is answered but not listed. -/
theorem dotted_id_unlisted : ¬ ∀ calls replies self,
    Run UnifiedObjectStore.exec store calls replies self →
    (∀ {X} (payload : Payload X), Call.put payload ∈ calls → payload.objectId ≠ "") →
    self.ListsRetrievable := by
  intro always
  have run : Run UnifiedObjectStore.exec store (putOne "a.b") _ _ := .cons rfl (.nil _)
  obtain ⟨ids, -, listing, -, -, members, -⟩ := always _ _ _ run (by
    intro X payload member
    cases List.mem_singleton.mp member
    decide) .kvCache
  have found := (members "a.b").mpr fun now none => by cases none
  rw [UnifiedObjectStore.list_eq] at listing
  cases listing
  exact absurd found (by decide)

end

end IntelliL3
