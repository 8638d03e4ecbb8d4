import IntelliL3.Agent.CacheSession
import IntelliL3.Core.TypedStore

/-! # Plan cache manager

`agent/plan_cache.py`: reusable plan templates, stored with the embedding of the
task they were made for and found again through an index of its own. `clock` is
what `time.time()` answers; a new plan is stored under a drawn id.
-/

namespace IntelliL3

open Lib

structure PlanCacheCandidate where
  planId : String
  planTemplate : String
  similarity : Rat
  requiredTools : List String
  constraints : Dict String String

structure PlanAdaptationResult where
  planId : String
  planTemplate : String
  adaptedTemplate : String
  context : Dict String String

structure PlanCacheManager (η : Type) where
  embed : String → NdArray
  threshold : Rat
  index : HNSWIndex η
  puts : Nat := 0
  searches : Nat := 0
  hits : Nat := 0
  validations : Nat := 0
  validationFailures : Nat := 0
  deleted : Nat := 0
  /-- `similarity_threshold must be in [0, 1]` -/
  thresholdInRange : 0 ≤ threshold ∧ threshold ≤ 1

structure PlanCacheStats where
  plansIndexed : Nat
  puts : Nat
  searches : Nat
  hits : Nat
  planCacheHitRate : Rat
  validations : Nat
  validationFailures : Nat
  planValidationFailRate : Rat
  deleted : Nat

namespace PlanCacheManager

open CacheSession UnifiedObjectStore

variable {β η Bytes : Type}

def stats (self : PlanCacheManager η) : PlanCacheStats where
  plansIndexed := self.index.size
  puts := self.puts
  searches := self.searches
  hits := self.hits
  planCacheHitRate := if self.searches = 0 then 0 else self.hits / self.searches
  validations := self.validations
  validationFailures := self.validationFailures
  planValidationFailRate :=
    if self.validations = 0 then 0 else self.validationFailures / self.validations
  deleted := self.deleted

/-- `sorted(dict.fromkeys(tool.strip() for tool in tools if tool.strip()))` -/
def normalizeTools (tools : List String) : List String :=
  sorted ((tools.map strip).filter (· ≠ "")).dedup

/-- Whether an entry asks for these tools, already normalized, and these constraints. -/
def meetsContext (entry : PlanCacheEntry) (required : List String)
    (expectedConstraints : Dict String String) : Bool :=
  decide (normalizeTools entry.requiredTools = required) &&
    entry.constraints.sameItems expectedConstraints

/-- `self._index` -/
def onIndex (action : EStateM PyError (HNSWIndex η) α) : CacheM β η (PlanCacheManager η) α :=
  onCache (zoom index (fun self index => { self with index }) action)

theorem onIndex_run (action : EStateM PyError (HNSWIndex η) α)
    (s : CacheSession β η (PlanCacheManager η)) :
    onIndex action s = match action s.cache.index with
      | .ok a index => .ok a { s with cache := { s.cache with index } }
      | .error e index => .error e { s with cache := { s.cache with index } } := by
  rw [onIndex, onCache, zoom_run, zoom_run]
  cases action s.cache.index <;> rfl

theorem onIndex_store (action : EStateM PyError (HNSWIndex η) α)
    (s : CacheSession β η (PlanCacheManager η)) :
    (EStateResult.state (onIndex action s)).store = s.store := by
  rw [onIndex_run]
  cases action s.cache.index <;> rfl

/-- The entry a put stores. -/
def entryFor (planTemplate : String) (tools : List String) (constraints : Dict String String)
    (validityScope : ArtifactScope) (planId uuid : String) (clock : Rat) : PlanCacheEntry where
  objMeta := .new .planCache uuid clock
  planId
  planTemplate
  requiredTools := normalizeTools tools
  constraints
  validityScope

/-- `entry.success_count += 1` or `entry.failure_count += 1` -/
def counted (entry : PlanCacheEntry) (success : Bool) : PlanCacheEntry :=
  if success then { entry with successCount := entry.successCount + 1 }
  else { entry with failureCount := entry.failureCount + 1 }

variable [StorageBackend (EStateM PyError β) Bytes] [PyRuntime] [Serializer Bytes] [Hnswlib η]

def putPlan (taskDescription planTemplate : String) (tools : List String := [])
    (constraints : Dict String String := .empty) (validityScope : ArtifactScope := .sessionScope)
    (planId uuid : String) (clock : Rat) : CacheM β η (PlanCacheManager η) String := do
  if strip taskDescription = "" then
    throw (.valueError "task_description must be non-empty")
  else if strip planTemplate = "" then
    throw (.valueError "plan_template must be non-empty")
  else
    let embedding := (← get).cache.embed taskDescription
    let entry := entryFor planTemplate tools constraints validityScope planId uuid clock
    let planId ← onStore (putPlanCacheEntry entry embedding)
    onIndex (HNSWIndex.add planId embedding)
    onCache (modify fun self => { self with puts := self.puts + 1 })
    return planId

def validatePlan (planId : String) (requiredTools : List String := [])
    (constraints : Dict String String := .empty) (entry : Option PlanCacheEntry := none)
    (clock : Rat) : CacheM β η (PlanCacheManager η) Bool := do
  onCache (modify fun self => { self with validations := self.validations + 1 })
  let loadedEntry ← match entry with
    | some entry => pure (some entry)
    | none => Option.map Prod.fst <$> onStore (getPlanCacheEntry planId clock)
  match loadedEntry with
  | none =>
      onCache (modify fun self =>
        { self with validationFailures := self.validationFailures + 1 })
      return false
  | some loadedEntry =>
      let valid := meetsContext loadedEntry (normalizeTools requiredTools) constraints
      if !valid then
        onCache (modify fun self =>
          { self with validationFailures := self.validationFailures + 1 })
      return valid

omit [Hnswlib η] in
/-- Checking a plan that is at hand moves counters only. -/
theorem validatePlan_run (planId : String) (requiredTools : List String)
    (constraints : Dict String String) (entry : PlanCacheEntry) (clock : Rat)
    (s : CacheSession β η (PlanCacheManager η)) :
    ∃ s', validatePlan planId requiredTools constraints (some entry) clock s =
        .ok (meetsContext entry (normalizeTools requiredTools) constraints) s' ∧
      s'.store = s.store ∧ s'.cache.index = s.cache.index := by
  simp only [validatePlan, bind_run, onCache, zoom_run, modify_run, pure_run]
  cases meetsContext entry (normalizeTools requiredTools) constraints <;>
    exact ⟨_, rfl, rfl, rfl⟩

/-- One match of a search: a plan that is gone is dropped from the index. -/
def collectCandidate (tools : List String) (constraints : Dict String String) (clock : Rat)
    (candidates : List PlanCacheCandidate) (found : String × Rat) :
    CacheM β η (PlanCacheManager η) (List PlanCacheCandidate) := do
  match ← onStore (getPlanCacheEntry found.1 clock) with
  | none =>
      let _ ← onIndex (HNSWIndex.remove found.1)
      return candidates
  | some (entry, _) =>
      if ← validatePlan found.1 tools constraints (some entry) clock then
        return candidates ++ [{
          planId := found.1
          planTemplate := entry.planTemplate
          similarity := found.2
          requiredTools := entry.requiredTools
          constraints := entry.constraints }]
      else return candidates

def searchSimilarPlans (taskDescription : String) (topK : Int := 5)
    (requiredTools : List String := []) (constraints : Dict String String := .empty)
    (threshold : Option Rat := none) (clock : Rat) :
    CacheM β η (PlanCacheManager η) (List PlanCacheCandidate) := do
  if topK ≤ 0 then return []
  else if strip taskDescription = "" then
    throw (.valueError "task_description must be non-empty")
  else
    onCache (modify fun self => { self with searches := self.searches + 1 })
    let self := (← get).cache
    let found ← raising (self.index.search (self.embed taskDescription) topK
      (threshold.getD self.threshold))
    let candidates ← found.foldlM
      (collectCandidate (normalizeTools requiredTools) constraints clock) []
    if !candidates.isEmpty then
      onCache (modify fun self => { self with hits := self.hits + 1 })
    return candidates

def adaptPlan (planId : String) (currentContext : Dict String String := .empty) (clock : Rat) :
    CacheM β η (PlanCacheManager η) (Option PlanAdaptationResult) := do
  match ← onStore (getPlanCacheEntry planId clock) with
  | none => return none
  | some (entry, _) =>
      return some {
        planId
        planTemplate := entry.planTemplate
        adaptedTemplate := entry.planTemplate
        context := currentContext }

def recordPlanResult (planId : String) (success : Bool) (clock : Rat) :
    CacheM β η (PlanCacheManager η) Bool := do
  match ← onStore (getPlanCacheEntry planId clock) with
  | none => return false
  | some (entry, embedding) =>
      let _ ← onIndex (HNSWIndex.remove planId)
      let _ ← onStore (putPlanCacheEntry (counted entry success) embedding)
      onIndex (HNSWIndex.add planId embedding)
      return true

def deletePlan (planId : String) (clock : Rat) : CacheM β η (PlanCacheManager η) Bool := do
  let existsInStore := (← onStore (getPlanCacheEntry planId clock)).isSome
  let removedFromIndex ← onIndex (HNSWIndex.remove planId)
  let removedFromStore ←
    if existsInStore then onStore (deletePlanCacheEntry planId) else pure false
  if removedFromIndex || removedFromStore then
    onCache (modify fun self => { self with deleted := self.deleted + 1 })
  return removedFromIndex || removedFromStore

/-- One id of the loop in `_load_existing_plans`. -/
def loadPlan (clock : Rat) (planId : String) : CacheM β η (PlanCacheManager η) Unit := do
  match ← onStore (getPlanCacheEntry planId clock) with
  | none => pure ()
  | some (_, embedding) => onIndex (HNSWIndex.add planId embedding)

def loadExistingPlans (clock : Rat) : CacheM β η (PlanCacheManager η) Unit := do
  let planIds ← onStore listPlanCacheEntries
  planIds.forM (loadPlan clock)

/-- `PlanCacheManager(store, embedding_service, ...)` -/
def new (embed : String → NdArray) (dimension : Int) (similarityThreshold : Rat := 3 / 4)
    (maxElements : Int := 100000) (clock : Rat) : StoreM β η (PlanCacheManager η) :=
  if inRange : 0 ≤ similarityThreshold ∧ similarityThreshold ≤ 1 then do
    let index ← raising (HNSWIndex.new dimension maxElements)
    building { embed, threshold := similarityThreshold, index, thresholdInRange := inRange }
      (loadExistingPlans clock)
  else throw (.valueError "similarity_threshold must be in [0, 1]")

/-! ## Starting over a store that knows no id -/

section

variable [ReadableBackend β Bytes] {store : UnifiedObjectStore β η}

theorem loadExistingPlans_blank (blank : ∀ planId, store.metadata.mightExist planId = false)
    (manager : PlanCacheManager η) (clock : Rat) :
    loadExistingPlans clock ⟨store, manager⟩ = .ok ⟨⟩ ⟨store, manager⟩ := by
  have listing : onStore listPlanCacheEntries
      (⟨store, manager⟩ : CacheSession β η (PlanCacheManager η)) = .ok _ _ :=
    onStore_ok (list_eq store .planCache)
  have idle : ∀ planId ∈ (ReadableBackend.view store.backend).listed
        (store.config.keyPrefix .planCache),
      loadPlan clock planId ⟨store, manager⟩ = .ok ⟨⟩ ⟨store, manager⟩ := by
    intro planId _
    rw [loadPlan, bind_run, onStore_ok (get_unknown (blank planId) .planCache clock)]
    rfl
  rw [loadExistingPlans, bind_run, listing]
  exact forM_idle idle

/-- Over a store that knows no id, a manager starts with an empty index. -/
theorem new_blank (blank : ∀ planId, store.metadata.mightExist planId = false)
    (embed : String → NdArray) {dimension maxElements : Int} {similarityThreshold : Rat}
    (inRange : 0 ≤ similarityThreshold ∧ similarityThreshold ≤ 1) {index : HNSWIndex η}
    (indexed : HNSWIndex.new dimension maxElements = .ok index) (clock : Rat) :
    new embed dimension similarityThreshold maxElements clock store =
      .ok ⟨embed, similarityThreshold, index, 0, 0, 0, 0, 0, 0, inRange⟩ store := by
  rw [new, dif_pos inRange, bind_run, indexed, raising_ok]
  simp only [building, loadExistingPlans_blank blank]

end

/-- A manager is built only with a threshold in range and an index that can be built. -/
theorem new_ok {embed : String → NdArray} {dimension maxElements : Int}
    {similarityThreshold clock : Rat} {store store' : UnifiedObjectStore β η}
    {manager : PlanCacheManager η}
    (built : new embed dimension similarityThreshold maxElements clock store =
      .ok manager store') :
    (0 ≤ similarityThreshold ∧ similarityThreshold ≤ 1) ∧
      ∃ index : HNSWIndex η, HNSWIndex.new dimension maxElements = .ok index := by
  unfold new at built
  split at built
  · next inRange =>
      obtain ⟨index, m, indexed, -⟩ := bind_run_ok.mp built
      refine ⟨inRange, index, ?_⟩
      cases made : (HNSWIndex.new dimension maxElements : Except PyError (HNSWIndex η)) with
      | error e =>
          rw [made] at indexed
          cases indexed
      | ok index' =>
          rw [made] at indexed
          cases indexed
          rfl
  · cases built

end PlanCacheManager

/-! ## Calls -/

inductive PlanCall where
  | put (taskDescription planTemplate : String) (tools : List String)
      (constraints : Dict String String) (validityScope : ArtifactScope) (planId uuid : String)
      (clock : Rat)
  | search (taskDescription : String) (topK : Int) (requiredTools : List String)
      (constraints : Dict String String) (threshold : Option Rat) (clock : Rat)
  | record (planId : String) (success : Bool) (clock : Rat)
  | delete (planId : String) (clock : Rat)

inductive PlanReply where
  | stored (planId : String)
  | found (candidates : List PlanCacheCandidate)
  | recorded (known : Bool)
  | deleted (removed : Bool)

namespace PlanCacheManager

variable {β η Bytes : Type} [StorageBackend (EStateM PyError β) Bytes] [PyRuntime]
  [Serializer Bytes] [Hnswlib η]

def exec : PlanCall → CacheM β η (PlanCacheManager η) PlanReply
  | .put taskDescription planTemplate tools constraints validityScope planId uuid clock => do
      return .stored (← putPlan taskDescription planTemplate tools constraints validityScope
        planId uuid clock)
  | .search taskDescription topK requiredTools constraints threshold clock => do
      return .found (← searchSimilarPlans taskDescription topK requiredTools constraints
        threshold clock)
  | .record planId success clock => do
      return .recorded (← recordPlanResult planId success clock)
  | .delete planId clock => do return .deleted (← deletePlan planId clock)

end PlanCacheManager

end IntelliL3
