import IntelliL3.Core.PrefixIndex
import IntelliL3.Runners.PreparedRequests

/-! # The store that a run is seeded with

After the seeding every object of the requests is a block of its own in the store, with tokens that
no other block has.
-/

namespace IntelliL3

open Lib

/-! ## Tokens -/

namespace BenchmarkRunner

theorem seedTokens_ne_nil {tokensPerObject : Nat} (positive : 0 < tokensPerObject) (index : Nat) :
    seedTokens tokensPerObject index ≠ [] := by
  rw [seedTokens, ne_eq, List.map_eq_nil_iff, List.range_eq_nil]
  exact positive.ne'

/-- The tokens of two objects start apart. -/
theorem seedTokens_prefix {tokensPerObject : Nat} (positive : 0 < tokensPerObject)
    {index index' : Nat} {query : List Int} (starts : seedTokens tokensPerObject index <+: query)
    (starts' : seedTokens tokensPerObject index' <+: query) : index = index' := by
  obtain ⟨rest, rfl⟩ := starts
  obtain ⟨rest', same⟩ := starts'
  obtain ⟨n, rfl⟩ : ∃ n, tokensPerObject = n + 1 := ⟨tokensPerObject - 1, by omega⟩
  rw [seedTokens, seedTokens, List.range_succ_eq_map, List.map_cons, List.map_cons,
    List.cons_append, List.cons_append, List.cons.injEq] at same
  have first := same.1
  norm_cast at first
  rw [Nat.add_zero, Nat.add_zero] at first
  exact (Nat.eq_of_mul_eq_mul_right positive first).symm

end BenchmarkRunner

namespace UnifiedObjectStore

open BenchmarkRunner

variable {η Bytes : Type} [PyRuntime] [Serializer Bytes]

/-- The store holds a block of its own for each object, and no other. -/
structure Seeded (store : UnifiedObjectStore (MemoryBackend Bytes) η) (tokensPerObject : Nat)
    (rows : List (String × Nat)) (live : String → Option (Payload .kvCache)) : Prop where
  holds : store.backend.HoldsOf store.config live
  indexed : store.PrefixIndexed
  known : ∀ id, (live id).isSome → store.metadata.mightExist id = true
  listed : ∀ id, (live id).isSome → ∃ index, (id, index) ∈ rows
  block : ∀ id index, (id, index) ∈ rows → ∃ payload : Payload .kvCache, live id = some payload ∧
    payload.objectId = id ∧ payload.1.tokenIds = seedTokens tokensPerObject index

variable [Hnswlib η] [LawfulSerializer Bytes]
  {self self' : UnifiedObjectStore (MemoryBackend Bytes) η} {config : RealStorageConfig}
  {objMeta : Nat → ObjectMeta} {rows : List (String × Nat)}
  {live : String → Option (Payload .kvCache)}

omit [Hnswlib η] [LawfulSerializer Bytes] in
theorem Seeded.empty (l3Config : L3Config) {metadata : MetadataStore η} (tokensPerObject : Nat)
    (fresh : metadata.prefixTree = .empty) :
    (new .empty l3Config metadata : UnifiedObjectStore (MemoryBackend Bytes) η).Seeded
      tokensPerObject [] fun _ => none where
  holds := MemoryBackend.HoldsOf.empty l3Config .kvCache
  indexed := by
    refine ⟨fun _ => none, MemoryBackend.HoldsOf.empty l3Config .kvCache, ?_⟩
    change metadata.prefixTree.Mirrors _
    rw [fresh]
    exact PrefixTree.Mirrors.empty
  known _ live := absurd live Bool.false_ne_true
  listed _ live := absurd live Bool.false_ne_true
  block _ _ among := absurd among List.not_mem_nil

/-- Seeding one more object puts its block beside the others. -/
theorem Seeded.put (seeded : self.Seeded config.kvTokensPerObject.toNat rows live)
    {objectId : String} {index : Nat} (unseen : ∀ i, (objectId, i) ∉ rows)
    (done : seedKvObject config objMeta (objectId, index) self = .ok ⟨⟩ self') :
    ∃ live', self'.Seeded config.kvTokensPerObject.toNat (rows ++ [(objectId, index)]) live' := by
  obtain ⟨stored, _, put, done⟩ := bind_run_ok.mp done
  cases done
  have absent : live objectId = none := by
    rw [← Option.not_isSome_iff_eq_none]
    intro present
    obtain ⟨i, among⟩ := seeded.listed objectId present
    exact unseen i among
  have asPut : UnifiedObjectStore.put (X := .kvCache) (seedBlock config (objMeta index) objectId
      index, _, _) self = .ok stored self' := put
  obtain ⟨stamped, stamping, -, named, config', backend, indexing⟩ := put_ok asPut
  obtain ⟨block, stampedBlock, same⟩ := bind_eq_ok.mp stamping
  have tokens : stamped.1.tokenIds = seedTokens config.kvTokensPerObject.toNat index := by
    cases same
    exact KVCacheBlock.stamp_tokenIds stampedBlock
  have bloom := stamped.index_bloom self.metadata
  rw [indexing, EStateResult.state_ok, named] at bloom
  refine ⟨Function.update live objectId (some stamped), ?_, ?_, ?_, ?_, ?_⟩
  · rw [config', backend]
    have written := seeded.holds.write stamped
    rwa [named] at written
  · refine seeded.indexed.put (fun tokens held => ?_) put
    rw [storedTokens_eq seeded.holds] at held
    have unheld : live (seedBlock config (objMeta index) objectId index).objMeta.objectId = none :=
      absent
    rw [unheld] at held
    cases held
  · intro id present
    rw [MetadataStore.mightExist, bloom]
    by_cases here : id = objectId
    · rw [here]
      exact BloomFilter.mightContain_add_self _ _
    · rw [Function.update_of_ne here] at present
      exact BloomFilter.mightContain_add _ _ (seeded.known id present)
  · intro id present
    by_cases here : id = objectId
    · exact ⟨index, List.mem_append_right _ (by rw [here]; exact List.mem_singleton_self _)⟩
    · rw [Function.update_of_ne here] at present
      obtain ⟨i, among⟩ := seeded.listed id present
      exact ⟨i, List.mem_append_left _ among⟩
  · intro id i among
    rcases List.mem_append.mp among with earlier | last
    · have other : id ≠ objectId := by
        rintro rfl
        exact unseen i earlier
      rw [Function.update_of_ne other]
      exact seeded.block id i earlier
    · obtain ⟨rfl, rfl⟩ := Prod.mk.inj (List.mem_singleton.mp last)
      exact ⟨stamped, Function.update_self _ _ _, named, tokens⟩

theorem Seeded.forM (seeded : self.Seeded config.kvTokensPerObject.toNat rows live)
    {more : List (String × Nat)} (distinct : ((rows ++ more).map Prod.fst).Nodup)
    (done : (more.forM (seedKvObject config objMeta)) self = .ok ⟨⟩ self') :
    ∃ live', self'.Seeded config.kvTokensPerObject.toNat (rows ++ more) live' := by
  induction more generalizing self rows live with
  | nil =>
      cases done
      exact ⟨live, by rwa [List.append_nil]⟩
  | cons row rest ih =>
      rw [List.append_cons] at distinct ⊢
      change (seedKvObject config objMeta row >>= fun _ => rest.forM _) self = _ at done
      obtain ⟨_, store, first, later⟩ := bind_run_ok.mp done
      have unseen : ∀ i, (row.1, i) ∉ rows := by
        intro i among
        rw [List.append_assoc, List.map_append, List.nodup_append] at distinct
        exact distinct.2.2 row.1 (List.mem_map.mpr ⟨_, among, rfl⟩) row.1 List.mem_cons_self rfl
      obtain ⟨live', next⟩ := seeded.put unseen first
      exact ih next distinct later

variable [PyBuiltins]

/-- After the seeding the store holds a block for each object of the requests, in their order. -/
theorem seedKvObjects_seeded {l3Config : L3Config} {metadata : MetadataStore η}
    {requests : List BenchmarkRequest} (fresh : metadata.prefixTree = .empty)
    (done : (seedKvObjects config objMeta requests)
      (new .empty l3Config metadata : UnifiedObjectStore (MemoryBackend Bytes) η) =
        .ok ⟨⟩ self) :
    0 < config.kvTokensPerObject.toNat ∧ ∃ objectIds live, objectIdsOf requests = .ok objectIds ∧
      self.Seeded config.kvTokensPerObject.toNat objectIds.zipIdx live := by
  rw [seedKvObjects] at done
  split at done
  · cases done
  · rename_i sizes
    rw [not_or, not_le, not_le] at sizes
    obtain ⟨objectIds, _, drawn, done⟩ := bind_run_ok.mp done
    obtain ⟨named, same⟩ := raising_eq_ok.mp drawn
    subst same
    have seeded : (new .empty l3Config metadata : UnifiedObjectStore (MemoryBackend Bytes) η).Seeded
        config.kvTokensPerObject.toNat [] fun _ => none := Seeded.empty l3Config _ fresh
    have distinct : (([] ++ objectIds.zipIdx).map Prod.fst).Nodup := by
      rw [List.nil_append, List.zipIdx_map_fst]
      exact objectIdsOf_nodup named
    obtain ⟨live, seeded⟩ := seeded.forM distinct done
    exact ⟨by omega, objectIds, live, named, seeded⟩

/-! ## Blocks by their tokens -/

omit [Hnswlib η] [PyBuiltins] in
/-- Whatever starts with the tokens of a block starts with those of no other. -/
theorem Seeded.matches_iff {tokensPerObject : Nat} (positive : 0 < tokensPerObject)
    {objectIds : List String} (seeded : self.Seeded tokensPerObject objectIds.zipIdx live)
    {objectId : String} {index : Nat} (among : (objectId, index) ∈ objectIds.zipIdx)
    {query : List Int} (starts : seedTokens tokensPerObject index <+: query) (other : String)
    (tokens : List Int) : self.Matches query other tokens ↔
      other = objectId ∧ tokens = seedTokens tokensPerObject index := by
  rw [Matches, storedTokens_eq seeded.holds, Option.map_eq_some_iff]
  constructor
  · rintro ⟨⟨payload, held, rfl⟩, -, starts'⟩
    obtain ⟨index', among'⟩ := seeded.listed other (by rw [held]; rfl)
    obtain ⟨payload', held', -, stored⟩ := seeded.block other index' among'
    rw [held, Option.some.injEq] at held'
    subst held'
    rw [stored] at starts' ⊢
    obtain rfl := seedTokens_prefix positive starts starts'
    rw [List.mk_mem_zipIdx_iff_getElem?] at among among'
    exact ⟨Option.some.inj (among'.symm.trans among), rfl⟩
  · rintro ⟨rfl, rfl⟩
    obtain ⟨payload, held, -, stored⟩ := seeded.block other index among
    exact ⟨⟨payload, held, stored⟩, seedTokens_ne_nil positive index, starts⟩

/-- After the seeding a query that starts with the tokens of an object finds its block, and no
    other one. -/
theorem seeded_block_found {l3Config : L3Config} {expectedItems : Int} {fpRate : Rat}
    {embeddingDim : Option Int} {metadata : MetadataStore η} {requests : List BenchmarkRequest}
    {objectIds : List String} (built : MetadataStore.new expectedItems fpRate embeddingDim =
      .ok metadata)
    (done : (seedKvObjects config objMeta requests)
      (new .empty l3Config metadata : UnifiedObjectStore (MemoryBackend Bytes) η) =
        .ok ⟨⟩ self)
    (texts : objectIdsOf requests = .ok objectIds) {objectId : String} {index : Nat}
    (place : objectIds[index]? = some objectId) (order : SetOrder)
    {query : List Int} (starts : seedTokens config.kvTokensPerObject.toNat index <+: query) :
    self.findKvPrefixMatches order query = [objectId] ∧
      self.findKvLongestPrefix order query = some objectId := by
  obtain ⟨positive, _, live, named, seeded⟩ :=
    seedKvObjects_seeded (MetadataStore.new_fresh built).2.1 done
  cases texts.symm.trans named
  have only := seeded.matches_iff positive (List.mk_mem_zipIdx_iff_getElem?.mpr place) starts
  obtain ⟨found, once, longest⟩ := seeded.indexed.agree order query
  have this : self.Matches query objectId _ := (only objectId _).mpr ⟨rfl, rfl⟩
  constructor
  · have each : ∀ other ∈ self.findKvPrefixMatches order query, other = objectId := by
      intro other among
      obtain ⟨tokens, matching⟩ := (found other).mp among
      exact ((only other tokens).mp matching).1
    rw [← List.perm_singleton, List.perm_ext_iff_of_nodup once (List.nodup_singleton objectId)]
    intro other
    rw [List.mem_singleton]
    exact ⟨each other, fun same => same ▸ (found objectId).mpr ⟨_, this⟩⟩
  · cases best : self.findKvLongestPrefix order query with
    | none =>
        rw [best] at longest
        exact absurd this (longest objectId _)
    | some other =>
        rw [best] at longest
        obtain ⟨tokens, matching, -⟩ := longest
        rw [((only other tokens).mp matching).1]

end UnifiedObjectStore

namespace BenchmarkRunner

open Reference Reference.Seeds

/-- Two objects are seeded. -/
theorem storageRequests_seed : ∃ store, (seedKvObjects storageConfig
    (fun _ => .new .kvCache "block" 0) storageRequests) (.new .empty .default metadata :
      UnifiedObjectStore (MemoryBackend Encoded) FlatIndex) = .ok ⟨⟩ store := by
  have seeded : (match (seedKvObjects storageConfig (fun _ => .new .kvCache "block" 0)
      storageRequests) (.new .empty .default metadata :
        UnifiedObjectStore (MemoryBackend Encoded) FlatIndex) with
    | .ok _ _ => true
    | .error _ _ => false) = true := by decide +kernel
  cases done : (seedKvObjects storageConfig (fun _ => .new .kvCache "block" 0)
      storageRequests) (.new .empty .default metadata :
        UnifiedObjectStore (MemoryBackend Encoded) FlatIndex) with
  | error e store =>
      rw [done] at seeded
      cases seeded
  | ok _ store => exact ⟨store, rfl⟩

/-- Of two objects, the second one is found by its token. -/
theorem seeded_block_found_of_two :
    ∃ store : UnifiedObjectStore (MemoryBackend Encoded) FlatIndex, ∀ order : SetOrder,
      store.findKvPrefixMatches order [1, 7] = ["b"] ∧
        store.findKvLongestPrefix order [1, 7] = some "b" := by
  obtain ⟨store, done⟩ := storageRequests_seed
  have built : MetadataStore.new 2 = .ok metadata := new_metadata
  have texts : objectIdsOf storageRequests = .ok ["a", "b"] := rfl
  have place : ["a", "b"][1]? = some "b" := rfl
  exact ⟨store, fun order => UnifiedObjectStore.seeded_block_found built done texts place order
    ⟨[7], rfl⟩⟩

end BenchmarkRunner

end IntelliL3
