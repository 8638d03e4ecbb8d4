import IntelliL3.Core.Prefetch
import IntelliL3.Lib.Numbered
import IntelliL3.Lib.Pointwise
import IntelliL3.Runners.RunTotals
import IntelliL3.Runners.SeededStore

/-! # Hits over real storage

Over a store that was seeded with the objects of the requests no request misses, whichever system
serves it. What a policy prefetches changes no answer.
-/

namespace IntelliL3

open Lib

/-- Nothing but a text without letters is printed as one. -/
class PrintsText [PyBuiltins] : Prop where
  repr_ne_empty : ∀ value : Json, PyBuiltins.repr value ≠ .ok ""

namespace BenchmarkRunner

section

variable [PyBuiltins] {request : BenchmarkRequest}

omit [PyBuiltins] in
theorem get_objectId (named : namesObject request) (default : Json) :
    request.get "object_id" default = request.get "object_id" := by
  rw [BenchmarkRequest.get, BenchmarkRequest.get]
  cases stored : request.metadata.get? "object_id" with
  | some value => rfl
  | none =>
      rw [namesObject, BenchmarkRequest.get, stored] at named
      exact absurd named Bool.false_ne_true

theorem text_objectId (named : namesObject request) (default : String) :
    request.text "object_id" default = (request.get "object_id").toStr := by
  rw [BenchmarkRequest.text, get_objectId named]

theorem text_ne_empty [PrintsText] {value : Json} (truthy : value.truthy) :
    value.toStr ≠ .ok "" := by
  cases value with
  | str text =>
      rw [Json.toStr, ne_eq, Except.ok.injEq]
      exact of_decide_eq_true truthy
  | none => exact absurd truthy Bool.false_ne_true
  | bool b => cases b <;> simp [Json.toStr]
  | int i => exact PrintsText.repr_ne_empty _
  | float x => exact PrintsText.repr_ne_empty _
  | list items => exact PrintsText.repr_ne_empty _
  | dict rows => exact PrintsText.repr_ne_empty _

end

end BenchmarkRunner

open BenchmarkRunner

namespace UnifiedObjectStore

variable {η Bytes : Type} [PyRuntime] [Serializer Bytes]
  {self self' : UnifiedObjectStore (MemoryBackend Bytes) η} {request : BenchmarkRequest}

/-- Reading a block leaves the store as it is, and finds it at one time exactly when at any. -/
theorem getKvBlock_ok {objectId : String} {now : Rat} {found : Option (Payload .kvCache)}
    (returned : getKvBlock objectId now self = .ok found self') :
    self' = self ∧ (found.isSome ↔ self.metadata.mightExist objectId = true ∧
      self.backend.complete self.config .kvCache objectId = true) := by
  obtain ⟨read, same⟩ := raising_eq_ok.mp ((get_eq self .kvCache objectId now).symm.trans returned)
  refine ⟨same, ?_⟩
  cases known : self.metadata.mightExist objectId with
  | false =>
      rw [known, if_neg Bool.false_ne_true] at read
      cases read
      simp
  | true =>
      rw [known, if_pos rfl] at read
      have missing := MemoryBackend.read_none_iff self.backend self.config .kvCache objectId
      change Except.map _ (self.backend.read self.config .kvCache objectId) = _ at read
      cases stored : self.backend.read self.config .kvCache objectId with
      | error e =>
          rw [stored] at read
          cases read
      | ok value =>
          rw [stored] at read missing
          cases read
          cases value with
          | none =>
              rw [missing.mp rfl]
              simp
          | some payload =>
              rw [Bool.eq_true_of_not_eq_false fun gone => nomatch missing.mpr gone]
              simp

variable [PyBuiltins]

/-- The store has the object that a request names. -/
structure Offers (store : UnifiedObjectStore (MemoryBackend Bytes) η) (request : BenchmarkRequest)
    (objectId : String) (payload : Payload .kvCache) : Prop where
  text : ∀ default, request.text "object_id" default = .ok objectId
  named : objectId ≠ ""
  own : payload.objectId = objectId
  held : (store.backend.get
    (dataKey store.config.objects.kvCache.keyPrefix objectId "data.npz")).isSome
  found : ∀ now, getKvBlock objectId now store = .ok (some (payload.touch now)) store

variable [Hnswlib η] [LawfulSerializer Bytes] [PrintsText]

/-- A store seeded with the objects of the requests offers each of them. -/
theorem seedKvObjects_offers {config : RealStorageConfig} {objMeta : Nat → ObjectMeta}
    {l3Config : L3Config} {metadata : MetadataStore η} {requests : List BenchmarkRequest}
    (fresh : metadata.prefixTree = .empty)
    (done : (seedKvObjects config objMeta requests)
      (new .empty l3Config metadata : UnifiedObjectStore (MemoryBackend Bytes) η) = .ok ⟨⟩ self)
    (among : request ∈ requests) (named : namesObject request) :
    ∃ objectId payload, self.Offers request objectId payload := by
  obtain ⟨-, objectIds, live, texts, seeded⟩ := seedKvObjects_seeded fresh done
  obtain ⟨drawn, all, -⟩ := bind_eq_ok.mp texts
  obtain ⟨objectId, text⟩ := mapM_succeeds_iff.mp ⟨drawn, all⟩ request
    (List.mem_filter.mpr ⟨among, named⟩)
  have member := (mem_objectIdsOf texts).mpr
    ⟨request, List.mem_filter.mpr ⟨among, named⟩, text⟩
  obtain ⟨index, place⟩ := List.mem_iff_getElem?.mp member
  obtain ⟨payload, held, own, -⟩ := seeded.block objectId index
    (List.mk_mem_zipIdx_iff_getElem?.mpr place)
  refine ⟨objectId, payload, fun default => ?_, ?_, own, ?_, fun now => ?_⟩
  · rwa [text_objectId named, ← text_objectId named ""]
  · rintro rfl
    rw [text_objectId named] at text
    exact text_ne_empty named text
  · have stored := seeded.holds.dataOf objectId "data.npz" rfl
    rw [held, Option.bind_some] at stored
    change (self.backend.get (dataKey (self.config.keyPrefix .kvCache) objectId _)).isSome
    rw [stored, MemoryBackend.dataBytes_isSome]
    rfl
  · have known := seeded.known objectId (by rw [held]; rfl)
    have read := get_eq self .kvCache objectId now
    rw [known, if_pos rfl] at read
    change _ = raising (Except.map _ (self.backend.read self.config .kvCache objectId)) self at read
    rw [seeded.holds.read, held] at read
    exact read

omit [PyBuiltins] [LawfulSerializer Bytes] [PrintsText] in
theorem seedKvObject_config {config : RealStorageConfig} {objMeta : Nat → ObjectMeta}
    {row : String × Nat} (done : seedKvObject config objMeta row self = .ok ⟨⟩ self') :
    self'.config = self.config := by
  obtain ⟨stored, _, put, done⟩ := bind_run_ok.mp done
  cases done
  have asPut : UnifiedObjectStore.put (X := .kvCache) (seedBlock config (objMeta row.2) row.1
      row.2, _, _) self = .ok stored self' := put
  obtain ⟨_, -, -, -, same, -⟩ := put_ok asPut
  exact same

omit [LawfulSerializer Bytes] [PrintsText] in
theorem seedKvObjects_config {config : RealStorageConfig} {objMeta : Nat → ObjectMeta}
    {requests : List BenchmarkRequest}
    (done : seedKvObjects config objMeta requests self = .ok ⟨⟩ self') :
    self'.config = self.config := by
  rw [seedKvObjects] at done
  split at done
  · cases done
  · obtain ⟨_, middle, drawn, done⟩ := bind_run_ok.mp done
    obtain ⟨-, same⟩ := raising_eq_ok.mp drawn
    rw [← same]
    exact forM_invariant (I := fun store => store.config = middle.config)
      (fun _ _ _ held next => (seedKvObject_config next).trans held) rfl done

end UnifiedObjectStore

/-! ## Answers -/

/-- A request was answered by one read, and a write for each object that was prefetched. -/
def ProcessResult.Reads (result : ProcessResult) : Prop :=
  result.extraMetrics = .ofRows [("l3_read_count", 1), ("l3_write_count", result.prefetched)]

/-- A request was answered by one read that found its object. -/
structure ProcessResult.ReadHit (result : ProcessResult) : Prop where
  hit : result.isCacheHit = true
  prefetched : result.prefetched = 0
  reads : result.Reads

section

variable {σ η Bytes : Type} [PyBuiltins] [PyRuntime] [Serializer Bytes] {clock : Nat → Rat}
  {store : UnifiedObjectStore (MemoryBackend Bytes) η} {request : BenchmarkRequest}
  {objectId : String} {payload : Payload .kvCache}

theorem VanillaS3Baseline.process_reads {before : VanillaS3Baseline (MemoryBackend Bytes)}
    (offers : store.Offers request objectId payload) (same : before.backend = store.backend)
    (under : before.keyPrefix = store.config.objects.kvCache.keyPrefix) :
    ∃ result after, process clock request before = .ok result after ∧ result.ReadHit ∧
      after.backend = before.backend ∧ after.keyPrefix = before.keyPrefix := by
  have key : s!"{before.keyPrefix}{objectId}.data.npz" =
      dataKey store.config.objects.kvCache.keyPrefix objectId "data.npz" := by
    rw [dataKey, ← under, @String.append_assoc (before.keyPrefix ++ objectId)]
    rfl
  rw [process]
  simp only [bind_run, offers.text, raising_ok, get_run, zoom_run, perfCounter, readClock,
    modifyGet_run]
  refine ⟨_, _, rfl, ⟨?_, rfl, rfl⟩, rfl, rfl⟩
  change (before.backend.get s!"{before.keyPrefix}{objectId}.data.npz").isSome = true
  rw [key, same]
  exact offers.held

theorem LRUL3Baseline.process_reads {before : LRUL3Baseline (MemoryBackend Bytes) η}
    (offers : store.Offers request objectId payload) (same : before.store = store) :
    ∃ result after, process clock request before = .ok result after ∧ result.ReadHit ∧
      after.store = store ∧ ∃ block now, block.objMeta.objectId = objectId ∧
        after.eviction = before.eviction.onBlockAccessed block now := by
  subst same
  rw [process]
  simp only [bind_run, offers.text, raising_ok, zoom_run, readClock, IntelliL3.readClock,
    modifyGet_run, getKvBlock, if_pos offers.named, offers.found, account]
  exact ⟨_, _, rfl, ⟨rfl, rfl, rfl⟩, rfl, _, _, offers.own, rfl⟩

theorem FullL3System.process_reads {before : FullL3System σ (MemoryBackend Bytes) η}
    (offers : store.Offers request objectId payload) (same : before.store = store)
    (alone : before.prefetchPolicy = none) :
    ∃ result after, process clock request before = .ok result after ∧ result.ReadHit ∧
      after.store = store ∧ after.prefetchPolicy = none := by
  subst same
  rw [process]
  simp only [bind_run, prefetch, get_run, alone, pure_run, offers.text, raising_ok, zoom_run,
    readClock, IntelliL3.readClock, modifyGet_run, getKvBlock, if_pos offers.named, offers.found]
  exact ⟨_, _, rfl, ⟨rfl, rfl, rfl⟩, rfl, rfl⟩

end

/-! ## Runs -/

namespace BenchmarkRunner

/-- What a run of hits adds up to. -/
structure AllHits (requests : Nat) (metrics : Metrics) : Prop where
  total : metrics.totalRequests = requests
  hits : metrics.cacheHits = requests
  prefetched : metrics.prefetched = 0
  network : 0 < requests → metrics.extraMetrics.get? "network_io_overhead" = some (requests : Rat)

section

variable {σ : Type} {process : BenchmarkRequest → EStateM PyError σ ProcessResult}
  {requests : List BenchmarkRequest} {results : List ProcessResult} {I : σ → Prop}

theorem run_readHits {before after : σ} (run : Run process before requests results after)
    (answers : ∀ request ∈ requests, ∀ state, I state →
      ∃ result next, process request state = .ok result next ∧ result.ReadHit ∧ I next)
    (start : I before) : ∀ result ∈ results, result.ReadHit := by
  induction run with
  | nil => exact fun _ none => absurd none List.not_mem_nil
  | cons step _ ih =>
      rw [List.forall_mem_cons] at answers
      obtain ⟨result, next, answered, hit, held⟩ := answers.1 _ start
      cases step.symm.trans answered
      exact List.forall_mem_cons.mpr ⟨hit, ih answers.2 held⟩

theorem metricTotal_reads (reads : ∀ result ∈ results, result.Reads) :
    metricTotal "l3_read_count" results = results.length ∧
      metricTotal "l3_write_count" results =
        ((results.map ProcessResult.prefetched).sum : Nat) := by
  induction results with
  | nil => exact ⟨rfl, rfl⟩
  | cons result rest ih =>
      rw [List.forall_mem_cons] at reads
      obtain ⟨read, written⟩ := ih reads.2
      have first : result.extraMetrics = _ := reads.1
      rw [metricTotal_cons, metricTotal_cons, read, written, first, List.length_cons,
        Nat.cast_succ, add_comm (rest.length : Rat), List.map_cons, List.sum_cons, Nat.cast_add]
      exact ⟨rfl, rfl⟩

end

/-- A run of reads moves an object for each request and each prefetch. -/
theorem network_of_reads {keys : List (Option String)} {latencies : List Rat}
    {results : List ProcessResult} {tally : Tally} (requests : Nat)
    (totals : Totals keys latencies results {} tally) (reads : ∀ result ∈ results, result.Reads)
    (some_result : 0 < results.length) :
    (tally.metrics requests).extraMetrics.get? "network_io_overhead" =
      some ((results.length : Rat) + tally.prefetched) := by
  have unreported : tally.extraMetrics.get? "network_io_overhead" = none := by
    rw [← Option.not_isSome_iff_eq_none, totals.reported]
    rintro (before | ⟨result, among, reported⟩)
    · exact absurd before Bool.false_ne_true
    · have rows : result.extraMetrics = _ := reads result among
      rw [rows] at reported
      exact absurd reported Bool.false_ne_true
  obtain ⟨read, written⟩ := metricTotal_reads reads
  have prefetched : tally.prefetched = (results.map ProcessResult.prefetched).sum :=
    totals.prefetched.trans (Nat.zero_add _)
  have nonzero : (results.length : Rat) ≠ 0 := Nat.cast_ne_zero.mpr some_result.ne'
  have before : ∀ name, (({} : Tally).extraMetrics.get? name).getD 0 = (0 : Rat) := fun _ => rfl
  rw [Tally.metrics_extra, finalize_network unreported, totals.metrics, totals.metrics, before,
    before, read, written, ← prefetched]
  simp only [zero_add, if_pos (Or.inl nonzero : _ ∨ (tally.prefetched : Rat) ≠ 0)]

variable [PyBuiltins]

theorem allHits {system : BenchmarkSystem} {timed : List (BenchmarkRequest × Rat)}
    {I : system.State → Prop} (start : I system.start)
    (answers : ∀ request ∈ timed.map Prod.fst, ∀ state, I state →
      ∃ result after, system.process request state = .ok result after ∧ result.ReadHit ∧ I after)
    (known : ∀ request ∈ timed.map Prod.fst, ∃ key, workflowKey request = .ok key) :
    ∃ metrics, runSystem system timed = .ok metrics ∧ AllHits timed.length metrics := by
  obtain ⟨metrics, returned⟩ := runSystem_returns start (fun request among state held => by
    obtain ⟨result, after, answered, -, next⟩ := answers request among state held
    exact ⟨result, after, answered, next⟩) known
  refine ⟨metrics, returned, ?_⟩
  obtain ⟨keys, results, after, tally, run, -, totals, rfl⟩ := runSystem_ok returned
  have each := run_readHits run answers start
  have length : results.length = timed.length := by
    rw [run.length_eq, List.length_map]
  have prefetched : tally.prefetched = 0 := by
    rw [totals.prefetched, List.map_congr_left fun result among => (each result among).prefetched,
      List.map_const', List.sum_replicate]
    rfl
  refine ⟨rfl, ?_, prefetched, fun positive => ?_⟩
  · change tally.cacheHits = _
    rw [totals.cacheHits, List.countP_eq_length.mpr fun result among => (each result among).hit,
      length]
    exact Nat.zero_add _
  · rw [network_of_reads _ totals (fun result among => (each result among).reads)
      (length ▸ positive), length, prefetched, Nat.cast_zero, add_zero]

variable {η Bytes : Type} [PyRuntime] [Serializer Bytes] [LawfulSerializer Bytes] [Hnswlib η]
  [PrintsText]

/-- Whichever system is built over real storage, it answers every request of its run with a hit. -/
theorem real_storage_all_hits {expectedItems : Int} {fpRate : Rat} {embeddingDim : Option Int}
    {metadata : MetadataStore η} {clock : Nat → Rat} {objMeta : Nat → ObjectMeta}
    {l3Config : L3Config} {config : RealStorageConfig} {systemKey : String}
    {requests ready : List BenchmarkRequest} {timed : List (BenchmarkRequest × Rat)}
    {system : BenchmarkSystem}
    (fresh : MetadataStore.new expectedItems fpRate embeddingDim = .ok metadata)
    (attached : attachObjectIds config requests = .ok ready)
    (built : buildRealStorageSystem clock objMeta (.empty : MemoryBackend Bytes) metadata l3Config
      config systemKey ready = .ok system)
    (served : timed.map Prod.fst = ready)
    (known : ∀ request ∈ ready, ∃ key, workflowKey request = .ok key) :
    ∃ metrics, runSystem system timed = .ok metrics ∧ AllHits requests.length metrics := by
  obtain ⟨-, each⟩ := attachObjectIds_prepared attached
  have length : timed.length = requests.length := by
    rw [each.length_eq, ← served, List.length_map]
  have named := forall_named each
  rw [← length]
  subst served
  rw [buildRealStorageSystem] at built
  cases seeding : (seedKvObjects config objMeta (timed.map Prod.fst))
      (.new .empty l3Config metadata : UnifiedObjectStore (MemoryBackend Bytes) η) with
  | error e store =>
      rw [seeding] at built
      cases built
  | ok done store =>
      rw [seeding] at built
      have offered : ∀ request ∈ timed.map Prod.fst,
          ∃ objectId payload, store.Offers request objectId payload := fun request among =>
        UnifiedObjectStore.seedKvObjects_offers (MetadataStore.new_fresh fresh).2.1 seeding among
          (named request among)
      have configured : store.config = l3Config := UnifiedObjectStore.seedKvObjects_config seeding
      simp only at built
      split at built
      case isTrue =>
        cases built
        refine allHits (I := fun state : VanillaS3Baseline (MemoryBackend Bytes) =>
          state.backend = store.backend ∧
            state.keyPrefix = store.config.objects.kvCache.keyPrefix)
          ⟨rfl, by rw [configured]; rfl⟩ (fun request among state held => ?_) known
        obtain ⟨objectId, payload, offers⟩ := offered request among
        obtain ⟨result, after, answered, hit, backend, under⟩ :=
          VanillaS3Baseline.process_reads offers held.1 held.2
        exact ⟨result, after, answered, hit, backend.trans held.1, under.trans held.2⟩
      case isFalse =>
        split at built
        case isTrue =>
          cases built
          refine allHits (I := fun state : LRUL3Baseline (MemoryBackend Bytes) η =>
            state.store = store) rfl (fun request among state held => ?_) known
          obtain ⟨objectId, payload, offers⟩ := offered request among
          obtain ⟨result, after, answered, hit, same, -⟩ :=
            LRUL3Baseline.process_reads offers held
          exact ⟨result, after, answered, hit, same⟩
        case isFalse =>
          split at built
          case isTrue =>
            cases built
            refine allHits (I := fun state : FullL3System Unit (MemoryBackend Bytes) η =>
              state.store = store ∧ state.prefetchPolicy = none) ⟨rfl, rfl⟩
              (fun request among state held => ?_) known
            obtain ⟨objectId, payload, offers⟩ := offered request among
            obtain ⟨result, after, answered, hit, same, alone⟩ :=
              FullL3System.process_reads offers held.1 held.2
            exact ⟨result, after, answered, hit, same, alone⟩
          case isFalse => cases built

end BenchmarkRunner

namespace Reference

scoped instance : PrintsText where
  repr_ne_empty
    | .int (.ofNat n) => by
        have digits : (toString n : String) ≠ "" := by
          rw [ne_eq, ← String.toList_eq_nil_iff, toList_toString]
          exact Nat.toDigits_ne_nil
        exact fun same => digits (Except.ok.inj same)
    | .int (.negSucc n) => by
        have sign : "-" ++ Nat.repr (n + 1) ≠ "" := by simp
        exact fun same => sign (Except.ok.inj same)
    | .float x | .none | .bool b | .str text | .list items | .dict rows => nofun

end Reference

namespace BenchmarkRunner

open Reference Reference.Seeds

/-- Two objects, served by the system that keeps those used last. -/
theorem real_storage_all_hits_of_two : ∃ metrics, ∃ system : BenchmarkSystem,
    runSystem system (storageRequests.map (·, 0)) = .ok metrics ∧ metrics.cacheHits = 2 := by
  have built : (buildRealStorageSystem (fun ticks => ticks) (fun _ => .new .kvCache "block" 0)
      (.empty : MemoryBackend Encoded) metadata .default storageConfig "LRU"
        storageRequests).isOk = true := by decide +kernel
  cases done : buildRealStorageSystem (fun ticks => ticks) (fun _ => .new .kvCache "block" 0)
      (.empty : MemoryBackend Encoded) metadata .default storageConfig "LRU" storageRequests with
  | error e =>
      rw [done] at built
      cases built
  | ok system =>
      have fresh : MetadataStore.new 2 = .ok metadata := new_metadata
      have served : (storageRequests.map fun request => (request, (0 : Rat))).map Prod.fst =
          storageRequests := by
        rw [List.map_map]
        exact List.map_id _
      have named : ∀ request ∈ storageRequests, namesObject request := by decide
      have known : ∀ request ∈ storageRequests, ∃ key, workflowKey request = .ok key := by
        intro request among
        rcases List.mem_pair.mp among with rfl | rfl
        · exact ⟨none, rfl⟩
        · exact ⟨none, rfl⟩
      obtain ⟨metrics, returned, all⟩ := real_storage_all_hits fresh
        (attachObjectIds_named (by decide) named) done served known
      exact ⟨metrics, system, returned, all.hits⟩

end BenchmarkRunner

/-! ## Prefetches -/

namespace UnifiedObjectStore

variable {η Bytes : Type} [PyRuntime] [Serializer Bytes] [PyBuiltins]

/-- Whether the store has the object that a request names. -/
def has (store : UnifiedObjectStore (MemoryBackend Bytes) η) (request : BenchmarkRequest) : Bool :=
  match request.text "object_id" with
  | .ok objectId => objectId ≠ "" && store.metadata.mightExist objectId &&
      store.backend.complete store.config .kvCache objectId
  | .error _ => false

end UnifiedObjectStore

namespace FullL3System

variable {σ η Bytes : Type} [PyBuiltins] [PyRuntime] [Serializer Bytes] {clock : Nat → Rat}
  {request : BenchmarkRequest} {before after : FullL3System σ (MemoryBackend Bytes) η}

/-- One read, which finds what the store has. -/
structure Answer (store : UnifiedObjectStore (MemoryBackend Bytes) η) (request : BenchmarkRequest)
    (result : ProcessResult) : Prop where
  hit : result.isCacheHit = store.has request
  reads : result.Reads

omit [PyBuiltins] in
theorem prefetch_ok {prefetched : Nat}
    (returned : prefetch clock request before = .ok prefetched after) :
    after.store = before.store := by
  obtain ⟨self, _, got, returned⟩ := bind_run_ok.mp returned
  cases got
  cases chosen : before.prefetchPolicy with
  | none =>
      rw [chosen] at returned
      cases returned
      rfl
  | some policy =>
      rw [chosen] at returned
      obtain ⟨decisions, _, predicted, returned⟩ := bind_run_ok.mp returned
      obtain ⟨_, -, rfl⟩ := zoom_eq_ok.mp predicted
      obtain ⟨now, _, read, returned⟩ := bind_run_ok.mp returned
      obtain ⟨_, -, rfl⟩ := zoom_eq_ok.mp read
      obtain ⟨found, _, loaded, returned⟩ := bind_run_ok.mp returned
      obtain ⟨store, batch, rfl⟩ := zoom_eq_ok.mp loaded
      cases returned
      rcases UnifiedObjectStore.prefetchBatch_run before.store decisions fun _ => now with
        ⟨_, done, -⟩ | ⟨_, raised, -⟩
      · cases batch.symm.trans done
        rfl
      · cases batch.symm.trans raised

omit [PyBuiltins] in
theorem getKvBlock_ok {objectId : String} {found : Option (Payload .kvCache)}
    (returned : getKvBlock clock objectId before = .ok found after) :
    after.store = before.store ∧ found.isSome = (decide (objectId ≠ "") &&
      before.store.metadata.mightExist objectId &&
      before.store.backend.complete before.store.config .kvCache objectId) := by
  by_cases named : objectId ≠ ""
  · rw [getKvBlock, if_pos named] at returned
    obtain ⟨now, _, read, returned⟩ := bind_run_ok.mp returned
    obtain ⟨_, -, rfl⟩ := zoom_eq_ok.mp read
    obtain ⟨store, loaded, rfl⟩ := zoom_eq_ok.mp returned
    obtain ⟨same, held⟩ := UnifiedObjectStore.getKvBlock_ok loaded
    refine ⟨same, ?_⟩
    rw [decide_eq_true named, Bool.true_and, Bool.eq_iff_iff, Bool.and_eq_true]
    exact held
  · rw [getKvBlock, if_neg named] at returned
    cases returned
    rw [decide_eq_false named]
    exact ⟨rfl, rfl⟩

theorem process_ok {result : ProcessResult}
    (returned : process clock request before = .ok result after) :
    Answer before.store request result ∧ after.store = before.store := by
  obtain ⟨prefetched, ready, first, returned⟩ := bind_run_ok.mp returned
  have kept := prefetch_ok first
  obtain ⟨objectId, _, text, later⟩ := bind_run_ok.mp returned
  obtain ⟨named, same⟩ := raising_eq_ok.mp text
  subst same
  obtain ⟨start, _, started, loading⟩ := bind_run_ok.mp later
  obtain ⟨_, -, rfl⟩ := zoom_eq_ok.mp started
  obtain ⟨found, _, loaded, stopping⟩ := bind_run_ok.mp loading
  obtain ⟨untouched, held⟩ := getKvBlock_ok loaded
  obtain ⟨finish, _, finished, answered⟩ := bind_run_ok.mp stopping
  obtain ⟨_, -, rfl⟩ := zoom_eq_ok.mp finished
  cases answered
  refine ⟨⟨?_, rfl⟩, untouched.trans kept⟩
  rw [UnifiedObjectStore.has, named, ← kept]
  exact held

theorem run_answers {requests : List BenchmarkRequest} {results : List ProcessResult}
    (run : Run (process clock) before requests results after) :
    List.Forall₂ (Answer before.store) requests results ∧ after.store = before.store := by
  induction run with
  | nil => exact ⟨.nil, rfl⟩
  | cons step _ ih =>
      obtain ⟨answer, same⟩ := process_ok step
      rw [same] at ih
      exact ⟨.cons answer ih.1, ih.2⟩

/-- Whatever a policy prefetches, a request hits if and only if the store has its object from the
    start. -/
theorem prefetches_change_no_hits {start : FullL3System σ (MemoryBackend Bytes) η}
    {timed : List (BenchmarkRequest × Rat)} {metrics : Metrics}
    (returned : runSystem (start.system clock) timed = .ok metrics) :
    (∃ results after, Run (start.system clock).process (start.system clock).start
        (timed.map Prod.fst) results after ∧
      results.map ProcessResult.isCacheHit = (timed.map Prod.fst).map start.store.has) ∧
    metrics.cacheHits = (timed.map Prod.fst).countP start.store.has ∧
      (timed ≠ [] → metrics.extraMetrics.get? "network_io_overhead" =
        some ((timed.length : Rat) + metrics.prefetched)) := by
  obtain ⟨keys, results, after, tally, run, -, totals, rfl⟩ := runSystem_ok returned
  obtain ⟨answers, -⟩ := run_answers run
  have length : results.length = timed.length := by
    rw [run.length_eq, List.length_map]
  refine ⟨⟨results, after, run, ?_⟩, ?_, fun some_request => ?_⟩
  · exact (map_eq_of_forall₂ answers fun answer => answer.hit.symm).symm
  · change tally.cacheHits = _
    rw [totals.cacheHits]
    exact (Nat.zero_add _).trans (countP_eq_of_forall₂ answers fun answer => answer.hit.symm).symm
  · have reads : ∀ result ∈ results, result.Reads := by
      intro result among
      obtain ⟨_, -, _, _, answered⟩ := run.mem_replies among
      exact (process_ok answered).1.reads
    have positive := List.length_pos_iff.mpr some_request
    rw [← length] at positive ⊢
    exact network_of_reads _ totals reads positive

end FullL3System

namespace Reference

/-- A store with the block of the object `a`. -/
def storeOfOne : UnifiedObjectStore (MemoryBackend Encoded) FlatIndex :=
  EStateResult.state ((UnifiedObjectStore.putKvBlock (kvBlock "a" [1]) (array [1]) (array [1]))
    store)

/-- A system that prefetches the object `a` for every request. -/
def prefetchingSystem : FullL3System Unit (MemoryBackend Encoded) FlatIndex where
  store := storeOfOne
  prefetchPolicy := some { predictPrefetch _ _ :=
    return [{ objectId := "a", priority := 1, prefetchType := "kv_cache" }] }
  policyState := ()

end Reference

namespace FullL3System

open Reference

/-- The second of two requests hits, and for each of them an object is prefetched. -/
theorem prefetches_change_no_hits_of_two : ∃ metrics,
    runSystem (prefetchingSystem.system fun ticks => ticks) (storageRequests.map (·, 0)) =
        .ok metrics ∧ metrics.prefetched = 2 ∧ metrics.cacheHits = 1 ∧
      ∃ results after, Run (prefetchingSystem.system fun ticks => ticks).process
        (prefetchingSystem.system fun ticks => ticks).start storageRequests results after ∧
        results.map ProcessResult.isCacheHit = [false, true] := by
  have counted : (runSystem (prefetchingSystem.system fun ticks => ticks)
      (storageRequests.map (·, 0))).toOption.map Metrics.prefetched = some 2 := by decide +kernel
  have has : storageRequests.map prefetchingSystem.store.has = [false, true] := by decide +kernel
  obtain ⟨metrics, answered, prefetched⟩ := Option.map_eq_some_iff.mp counted
  cases returned : runSystem (prefetchingSystem.system fun ticks => ticks)
      (storageRequests.map (·, 0)) with
  | error e =>
      rw [returned] at answered
      cases answered
  | ok metrics' =>
      rw [returned] at answered
      cases answered
      have served : (storageRequests.map fun request => (request, (0 : Rat))).map Prod.fst =
          storageRequests := by
        rw [List.map_map]
        exact List.map_id _
      obtain ⟨each, hits, -⟩ := prefetches_change_no_hits returned
      rw [served, has] at each
      rw [served] at hits
      exact ⟨metrics, rfl, prefetched, hits.trans (by decide +kernel), each⟩

end FullL3System

end IntelliL3
