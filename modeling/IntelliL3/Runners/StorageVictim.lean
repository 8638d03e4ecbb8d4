import IntelliL3.Lib.StackDistance
import IntelliL3.Runners.StorageHits

/-! # Victims over real storage

The system that keeps the objects used last names a victim on request: of the candidates that were
asked for, the one whose last request is the longest ago.
-/

namespace IntelliL3

open Lib BenchmarkRunner

namespace LRUEviction

/-- The blocks were accessed in that order. -/
def Accessed (self : LRUEviction) (uses : List String) : Prop :=
  self.accessOrder.keys = uses.dedup

variable {self : LRUEviction} {uses : List String}

theorem Accessed.access (accessed : self.Accessed uses) (block : KVCacheBlock) (now : Rat) :
    (self.onBlockAccessed block now).Accessed (uses ++ [block.objMeta.objectId]) := by
  have gone : block.objMeta.objectId ∉ (self.accessOrder.erase block.objMeta.objectId).keys := by
    rw [Dict.keys_erase]
    exact self.accessOrder.keys_nodup.not_mem_erase
  rw [Accessed, onBlockAccessed_eq, LeastRecent.dedup_concat, ← accessed, ← Dict.keys_erase]
  exact (Dict.keys_set _ _ _).trans (if_neg gone)

/-- The candidate whose last use is the longest ago, those never used apart. -/
def LongestAgo (uses candidates : List String) (victim : String) : Prop :=
  victim ∈ candidates ∧ ∃ before since, uses = before ++ victim :: since ∧ victim ∉ since ∧
    ∀ other ∈ candidates, other ∈ uses → other = victim ∨ other ∈ since

/-- A candidate that was never used is named only where none was. -/
theorem Accessed.victim (accessed : self.Accessed uses) (first : KVCacheBlock)
    (rest : List KVCacheBlock) : ∃ decision, self.selectVictim (first :: rest) = some decision ∧
      ((∃ block ∈ first :: rest, block.objMeta.objectId ∈ uses) →
        LongestAgo uses ((first :: rest).map (·.objMeta.objectId)) decision.objectId) ∧
      ((∀ block ∈ first :: rest, block.objMeta.objectId ∉ uses) →
        decision.objectId = first.objMeta.objectId) := by
  unfold selectVictim
  simp only
  generalize ids : (first :: rest).map (·.objMeta.objectId) = candidateIds
  have byKeys : (self.accessOrder.entries.find? fun row => candidateIds.contains row.1).map
      Prod.fst = uses.dedup.find? candidateIds.contains := by
    rw [← accessed, Dict.keys, List.find?_map]
    rfl
  have named : ∀ {objectId}, objectId ∈ candidateIds ↔
      ∃ block ∈ first :: rest, block.objMeta.objectId = objectId := by
    intro objectId
    rw [← ids, List.mem_map]
  cases found : self.accessOrder.entries.find? fun row => candidateIds.contains row.1 with
  | some row =>
      obtain ⟨objectId, timestamp⟩ := row
      rw [found] at byKeys
      have among : objectId ∈ candidateIds :=
        List.contains_iff_mem.mp (List.find?_some byKeys.symm)
      have used : objectId ∈ uses :=
        List.mem_dedup.mp (List.mem_of_find?_eq_some byKeys.symm)
      refine ⟨_, rfl, fun _ => ⟨among, ?_⟩, fun unused => ?_⟩
      · obtain ⟨before, since, split, last, later⟩ := LeastRecent.find?_dedup byKeys.symm
        exact ⟨before, since, split, last, fun other candidate again =>
          later other again (List.contains_iff_mem.mpr candidate)⟩
      · obtain ⟨block, candidate, rfl⟩ := named.mp among
        exact absurd used (unused block candidate)
  | none =>
      rw [found] at byKeys
      refine ⟨_, rfl, fun asked => ?_, fun _ => rfl⟩
      obtain ⟨block, candidate, used⟩ := asked
      have skipped := List.find?_eq_none.mp byKeys.symm _ (List.mem_dedup.mpr used)
      exact absurd (List.contains_iff_mem.mpr (named.mpr ⟨block, candidate, rfl⟩)) skipped

end LRUEviction

namespace LRUL3Baseline

variable {η Bytes : Type} [PyBuiltins] [PyRuntime] [Serializer Bytes] {clock : Nat → Rat}
  {store : UnifiedObjectStore (MemoryBackend Bytes) η} {requests : List BenchmarkRequest}
  {results : List ProcessResult} {before after : LRUL3Baseline (MemoryBackend Bytes) η}

/-- What is asked for of a store that has it is accessed, request by request. -/
theorem run_accessed (run : Run (process clock) before requests results after)
    (offered : ∀ request ∈ requests, ∃ objectId payload, store.Offers request objectId payload)
    (same : before.store = store) {uses : List String} (accessed : before.eviction.Accessed uses) :
    ∃ objectIds, requests.mapM (fun request => request.text "object_id") = .ok objectIds ∧
      after.eviction.Accessed (uses ++ objectIds) := by
  induction run generalizing uses with
  | nil => exact ⟨[], rfl, by rwa [List.append_nil]⟩
  | cons step _ ih =>
      rw [List.forall_mem_cons] at offered
      obtain ⟨objectId, payload, offers⟩ := offered.1
      obtain ⟨result, next, answered, -, kept, block, now, rfl, evicts⟩ :=
        process_reads offers same
      cases step.symm.trans answered
      have accessed' := accessed.access block now
      rw [← evicts] at accessed'
      obtain ⟨objectIds, named, final⟩ := ih offered.2 kept accessed'
      refine ⟨block.objMeta.objectId :: objectIds, ?_, ?_⟩
      · rw [List.mapM_cons, offers.text, ok_bind, named]
        rfl
      · rwa [List.append_assoc] at final

variable [LawfulSerializer Bytes] [Hnswlib η] [PrintsText]

/-- Whatever was served of the requests that the store was seeded for, the victim is the candidate
    whose last request is the longest ago, and one that was never asked for only where none was. -/
theorem real_storage_victim {expectedItems : Int} {fpRate : Rat} {embeddingDim : Option Int}
    {metadata : MetadataStore η} {objMeta : Nat → ObjectMeta} {l3Config : L3Config}
    {config : RealStorageConfig} {prepared : List BenchmarkRequest}
    (fresh : MetadataStore.new expectedItems fpRate embeddingDim = .ok metadata)
    (seeding : (seedKvObjects config objMeta prepared)
      (.new .empty l3Config metadata : UnifiedObjectStore (MemoryBackend Bytes) η) = .ok ⟨⟩ store)
    (known : ∀ request ∈ requests, request ∈ prepared ∧ namesObject request)
    (run : Run (process clock) { store } requests results after) (first : KVCacheBlock)
    (rest : List KVCacheBlock) : ∃ objectIds decision,
      requests.mapM (fun request => request.text "object_id") = .ok objectIds ∧
      after.selectVictim (first :: rest) = some decision ∧
      ((∃ block ∈ first :: rest, block.objMeta.objectId ∈ objectIds) →
        LRUEviction.LongestAgo objectIds ((first :: rest).map (·.objMeta.objectId))
          decision.objectId) ∧
      ((∀ block ∈ first :: rest, block.objMeta.objectId ∉ objectIds) →
        decision.objectId = first.objMeta.objectId) := by
  have offered : ∀ request ∈ requests,
      ∃ objectId payload, store.Offers request objectId payload := fun request among =>
    UnifiedObjectStore.seedKvObjects_offers (MetadataStore.new_fresh fresh).2.1 seeding
      (known request among).1 (known request among).2
  have start : LRUEviction.new.Accessed [] := rfl
  obtain ⟨objectIds, named, accessed⟩ := run_accessed run offered rfl start
  obtain ⟨decision, chosen, used, unused⟩ := accessed.victim first rest
  exact ⟨objectIds, decision, named, chosen, used, unused⟩

end LRUL3Baseline

namespace BenchmarkRunner

open Reference Reference.Seeds

/-- The object `b` is asked for before the object `a`, so it goes. -/
theorem real_storage_victim_of_two :
    ∃ (after : LRUL3Baseline (MemoryBackend Encoded) FlatIndex) (decision : EvictionDecision),
      after.selectVictim [kvBlock "a" [1], kvBlock "b" [2]] = some decision ∧
        LRUEviction.LongestAgo ["b", "a"] ["a", "b"] decision.objectId := by
  obtain ⟨store, seeding⟩ := storageRequests_seed
  have fresh : MetadataStore.new 2 = .ok metadata := new_metadata
  have named : ∀ request ∈ storageRequests, namesObject request := by decide
  have known : ∀ request ∈ storageRequests, request ∈ storageRequests ∧
      namesObject request := fun request among => ⟨among, named request among⟩
  have offered := fun request among => UnifiedObjectStore.seedKvObjects_offers
    (MetadataStore.new_fresh fresh).2.1 seeding (known request among).1 (known request among).2
  obtain ⟨_, _, offers⟩ := offered (requestFor "b") List.mem_cons_self
  obtain ⟨_, _, offers'⟩ := offered (requestFor "a") (List.mem_cons_of_mem _ List.mem_cons_self)
  obtain ⟨_, middle, answered, -, kept, -⟩ := LRUL3Baseline.process_reads
    offers (rfl : ({ store } : LRUL3Baseline (MemoryBackend Encoded) FlatIndex).store = store)
  obtain ⟨_, after, answered', -⟩ := LRUL3Baseline.process_reads offers' kept
  have run : Run (LRUL3Baseline.process fun ticks => ticks) { store } storageRequests _ after :=
    .cons answered (.cons answered' (.nil _))
  obtain ⟨objectIds, decision, texts, chosen, used, -⟩ := LRUL3Baseline.real_storage_victim
    fresh seeding known run (kvBlock "a" [1]) [kvBlock "b" [2]]
  cases texts
  exact ⟨after, decision, chosen, used ⟨_, List.mem_cons_self, by decide⟩⟩

end BenchmarkRunner

end IntelliL3
