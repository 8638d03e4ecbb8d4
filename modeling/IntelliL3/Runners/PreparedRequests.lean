import IntelliL3.Core.Reference
import IntelliL3.Runners.RealStorage
import IntelliL3.Workloads.Reference

/-! # Requests that name an object

A request keeps the object it comes with. Any other is given one of the pool, by what the request
says alone.
-/

namespace IntelliL3

open Lib

namespace BenchmarkRunner

theorem slotName_ne_empty (slot : Nat) : slotName slot ≠ "" := by
  simp [slotName]

section

variable [PyBuiltins] {requests : List BenchmarkRequest} {objectIds : List String}

theorem mem_objectIdsOf (texts : objectIdsOf requests = .ok objectIds)
    {objectId : String} : objectId ∈ objectIds ↔
      ∃ request ∈ requests.filter namesObject, request.text "object_id" = .ok objectId := by
  obtain ⟨_, drawn, same⟩ := bind_eq_ok.mp texts
  cases same
  rw [(sorted_perm _).mem_iff, List.mem_dedup, mem_mapM_iff drawn]

theorem objectIdsOf_nodup (texts : objectIdsOf requests = .ok objectIds) :
    objectIds.Nodup := by
  obtain ⟨_, -, same⟩ := bind_eq_ok.mp texts
  cases same
  exact (sorted_perm _).nodup_iff.mpr (List.nodup_dedup _)

end

variable [PyBuiltins] [PyRuntime]

/-- What becomes of one request. -/
structure Prepared (poolSize : Nat) (request ready : BenchmarkRequest) : Prop where
  named : namesObject ready
  kept : namesObject request → ready = request
  pooled : ¬ namesObject request → ∃ seedKey, requestSeedKey request = .ok seedKey ∧
    ∀ default, ready.get "object_id" default = .str (slotName (slotOf seedKey poolSize))
  asked : ready.prompt = request.prompt ∧ ready.sessionId = request.sessionId ∧
    ready.timestamp = request.timestamp ∧ ready.modelName = request.modelName
  others : ∀ key default, key ≠ "object_id" → ready.get key default = request.get key default

omit [PyBuiltins] in
theorem slotOf_lt {poolSize : Nat} (positive : 0 < poolSize) (seedKey : String) :
    slotOf seedKey poolSize < poolSize :=
  Nat.mod_lt _ positive

theorem attachObjectId_named {request : BenchmarkRequest} (named : namesObject request)
    (poolSize : Nat) : attachObjectId poolSize request = .ok request := by
  rw [attachObjectId, if_pos named]
  rfl

theorem attachObjectId_prepared {poolSize : Nat} {request ready : BenchmarkRequest}
    (attached : attachObjectId poolSize request = .ok ready) : Prepared poolSize request ready := by
  by_cases named : namesObject request
  · rw [attachObjectId_named named] at attached
    cases attached
    exact ⟨named, fun _ => rfl, fun unnamed => absurd named unnamed, ⟨rfl, rfl, rfl, rfl⟩,
      fun _ _ _ => rfl⟩
  · rw [attachObjectId, if_neg named] at attached
    obtain ⟨seedKey, keyed, same⟩ := bind_eq_ok.mp attached
    cases same
    have given : ∀ default, BenchmarkRequest.get { request with
        metadata := request.metadata.set "object_id" (.str (slotName (slotOf seedKey poolSize))) }
          "object_id" default = .str (slotName (slotOf seedKey poolSize)) := by
      intro default
      rw [BenchmarkRequest.get, Dict.get?_set, if_pos rfl, Option.getD_some]
    refine ⟨?_, fun named' => absurd named' named, fun _ => ⟨seedKey, keyed, given⟩,
      ⟨rfl, rfl, rfl, rfl⟩, fun key default other => ?_⟩
    · rw [namesObject, given]
      exact decide_eq_true (slotName_ne_empty (slotOf seedKey poolSize))
    · rw [BenchmarkRequest.get, BenchmarkRequest.get, Dict.get?_set, if_neg other.symm]

variable {config : RealStorageConfig} {requests ready : List BenchmarkRequest}

theorem attachObjectIds_prepared (attached : attachObjectIds config requests = .ok ready) :
    0 < config.objectPoolSize ∧
      List.Forall₂ (Prepared config.objectPoolSize.toNat) requests ready := by
  rw [attachObjectIds] at attached
  split at attached
  · cases attached
  · next positive =>
      exact ⟨not_le.mp positive,
        (forall₂_of_mapM attached).imp fun _ _ one => attachObjectId_prepared one⟩

theorem attachObjectIds_named (positive : 0 < config.objectPoolSize)
    (named : ∀ request ∈ requests, namesObject request) :
    attachObjectIds config requests = .ok requests := by
  rw [attachObjectIds, if_neg (not_le.mpr positive)]
  change requests.mapM _ = _
  induction requests with
  | nil => rfl
  | cons request rest ih =>
      rw [List.forall_mem_cons] at named
      rw [List.mapM_cons, attachObjectId_named named.1, ok_bind, ih named.2]
      rfl

theorem forall_named (each : List.Forall₂ (Prepared poolSize) requests ready) :
    ∀ request ∈ ready, namesObject request := by
  induction each with
  | nil => exact fun _ none => absurd none List.not_mem_nil
  | cons first _ ih => exact List.forall_mem_cons.mpr ⟨first.named, ih⟩

/-- Whatever is named is a slot of the pool or came with a request. -/
theorem named_among (positive : 0 < poolSize)
    (each : List.Forall₂ (Prepared poolSize) requests ready) {request : BenchmarkRequest}
    {objectId : String} (among : request ∈ ready)
    (named : request.text "object_id" = .ok objectId) :
    objectId ∈ (List.range poolSize).map slotName ∨
      ∃ own ∈ requests.filter namesObject, own.text "object_id" = .ok objectId := by
  induction each with
  | nil => exact absurd among List.not_mem_nil
  | @cons first firstReady rest restReady prepared _ ih =>
      rcases List.mem_cons.mp among with rfl | later
      · by_cases own : namesObject first
        · refine .inr ⟨first, List.mem_filter.mpr ⟨List.mem_cons_self, own⟩, ?_⟩
          rwa [← prepared.kept own]
        · obtain ⟨seedKey, -, given⟩ := prepared.pooled own
          rw [BenchmarkRequest.text, given, Json.toStr, Except.ok.injEq] at named
          exact .inl (List.mem_map.mpr
            ⟨_, List.mem_range.mpr (slotOf_lt positive seedKey), named⟩)
      · rcases ih later with slot | ⟨own, member, text⟩
        · exact .inl slot
        · refine .inr ⟨own, ?_, text⟩
          obtain ⟨member, names⟩ := List.mem_filter.mp member
          exact List.mem_filter.mpr ⟨List.mem_cons_of_mem first member, names⟩

/-- Preparing requests changes nothing but the objects that some lack, and preparing them again
    nothing at all. No more objects are named than the pool has slots and requests bring. -/
theorem attachObjectIds_pooled (attached : attachObjectIds config requests = .ok ready) :
    List.Forall₂ (Prepared config.objectPoolSize.toNat) requests ready ∧
      attachObjectIds config ready = .ok ready ∧
      ∀ objectIds, objectIdsOf ready = .ok objectIds →
        objectIds.length ≤ config.objectPoolSize.toNat + requests.countP namesObject := by
  obtain ⟨positive, each⟩ := attachObjectIds_prepared attached
  refine ⟨each, attachObjectIds_named positive (forall_named each), fun objectIds texts => ?_⟩
  have own : ∀ objectId ∈ objectIds,
      objectId ∈ (List.range config.objectPoolSize.toNat).map slotName ++
        (requests.filter namesObject).map fun request =>
          (request.text "object_id").toOption.getD "" := by
    intro objectId member
    obtain ⟨request, among, named⟩ := (mem_objectIdsOf texts).mp member
    rw [List.mem_append]
    rcases named_among (by omega) each (List.mem_filter.mp among).1 named with slot | own
    · exact .inl slot
    · obtain ⟨own, brought, text⟩ := own
      exact .inr (List.mem_map.mpr ⟨own, brought, by rw [text]; rfl⟩)
  have few := (List.subperm_of_subset (objectIdsOf_nodup texts) own).length_le
  rwa [List.length_append, List.length_map, List.length_map, List.length_range,
    ← List.countP_eq_length_filter] at few

end BenchmarkRunner

namespace Reference

namespace Seeds

/-- The digests of one seed key and of the tokens of the first object, too. -/
scoped instance (priority := high) : PyRuntime where
  sha256
    | "session|test-model||workflow_0||" =>
        0xf34ffaad6e23e99d84b3482d96ebfbd6a4ddd8911c9e8475c883f79f5de727f3
    | text => PyRuntime.sha256 text
  md5 := PyRuntime.md5
  computeTokenHash
    | [0] => .ok "df3f619804a92fdb"
    | tokens => PyRuntime.computeTokenHash tokens
  bloomBits := PyRuntime.bloomBits
  bloomHashes := PyRuntime.bloomHashes
  float32 := PyRuntime.float32

end Seeds

def storageConfig : RealStorageConfig where
  objectPoolSize := 2
  kvTokensPerObject := 1
  kvVectorSize := 1

/-- A request for an object. -/
def requestFor (objectId : String) : BenchmarkRequest :=
  { agentStep "planner" with metadata := .ofRows [("object_id", .str objectId)] }

def storageRequests : List BenchmarkRequest := [requestFor "b", requestFor "a"]

end Reference

namespace BenchmarkRunner

open Reference Reference.Seeds

/-- Two requests that say the same share a slot of the pool, beside an object that a third one
    brings. -/
theorem attachObjectIds_pooled_of_three : ∃ ready objectIds,
    attachObjectIds storageConfig [agentStep "planner", requestFor "a", agentStep "critic"] =
        .ok ready ∧ objectIdsOf ready = .ok objectIds ∧
      attachObjectIds storageConfig ready = .ok ready ∧ objectIds.length ≤ 2 + 1 := by
  have prepared : ((attachObjectIds storageConfig
      [agentStep "planner", requestFor "a", agentStep "critic"]).bind objectIdsOf).isOk = true := by
    decide +kernel
  cases attached : attachObjectIds storageConfig
      [agentStep "planner", requestFor "a", agentStep "critic"] with
  | error e =>
      rw [attached] at prepared
      cases prepared
  | ok ready =>
      cases texts : objectIdsOf ready with
      | error e =>
          rw [attached, Except.bind, texts] at prepared
          cases prepared
      | ok objectIds =>
          obtain ⟨-, again, few⟩ := attachObjectIds_pooled attached
          exact ⟨ready, objectIds, rfl, texts, again, few objectIds texts⟩

end BenchmarkRunner

end IntelliL3
