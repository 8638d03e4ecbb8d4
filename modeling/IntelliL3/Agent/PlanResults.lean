import IntelliL3.Agent.PlanCache
import IntelliL3.Core.PairInterleaving
import IntelliL3.Lib.LostUpdate

/-! # Recording results from several managers

`record_plan_result` reads an entry and later writes it back, without a lock or
a version. Calls of managers that share a backend are run as the messages they
send to it, and as the steps they take on their own filter and index.
-/

namespace IntelliL3

open Lib

/-! ## Steps of a call -/

/-- A message to the backend, or a step on the filter or the index of the manager. -/
inductive PlanStep (Bytes : Type) where
  | message (c : Command Bytes)
  | mightExist (planId : String)
  | objectAdded (planId : String)
  | indexRemove (planId : String)
  | indexAdd (planId : String) (embedding : NdArray)

namespace PlanStep

variable {η Bytes : Type}

def Reply : PlanStep Bytes → Type
  | .message c => c.Reply
  | .mightExist _ | .indexRemove _ => Bool
  | .objectAdded _ | .indexAdd _ _ => Unit

open CacheSession UnifiedObjectStore in
/-- A step on a manager and its store. -/
def exec [PyRuntime] [Hnswlib η] :
    (c : PlanStep Bytes) → CacheM (MemoryBackend Bytes) η (PlanCacheManager η) c.Reply
  | .message c => onStore (onBackend c.serve)
  | .mightExist planId => do return (← get).store.metadata.mightExist planId
  | .objectAdded planId => onStore (modify fun self =>
      { self with metadata := self.metadata.onObjectAdded .planCache planId none })
  | .indexRemove planId => PlanCacheManager.onIndex (HNSWIndex.remove planId)
  | .indexAdd planId embedding => PlanCacheManager.onIndex (HNSWIndex.add planId embedding)

end PlanStep

/-- A call of a manager, as the steps it takes. -/
abbrev PlanProgram (Bytes : Type) := Proc (PlanStep Bytes) PlanStep.Reply PyError

instance {Bytes : Type} : StorageBackend (PlanProgram Bytes) Bytes where
  put key data := Proc.send (PlanStep.message (.put key data))
  get key := Proc.send (PlanStep.message (.get key))
  delete key := Proc.send (PlanStep.message (.delete key))
  existsKey key := Proc.send (PlanStep.message (.existsKey key))
  listKeys p := Proc.send (PlanStep.message (.listKeys p))

namespace PlanProgram

variable {η Bytes : Type}

def mightExist (planId : String) : PlanProgram Bytes Bool :=
  Proc.send (PlanStep.mightExist planId)

def objectAdded (planId : String) : PlanProgram Bytes Unit :=
  Proc.send (PlanStep.objectAdded planId)

def indexRemove (planId : String) : PlanProgram Bytes Bool :=
  Proc.send (PlanStep.indexRemove planId)

def indexAdd (planId : String) (embedding : NdArray) : PlanProgram Bytes Unit :=
  Proc.send (PlanStep.indexAdd planId embedding)

variable [PyRuntime] [Serializer Bytes]

/-- `put_plan_cache_entry` -/
def put (p : String) (entry : PlanCacheEntry) (embedding : NdArray) : PlanProgram Bytes Unit := do
  let entry ← Proc.done (entry.stamp embedding)
  putPair (metaKey p entry.planId) (Serializer.serializePlanCacheEntry entry)
    (dataKey p entry.planId "data.npy") (Serializer.serializePlanEmbedding embedding)
  objectAdded entry.planId

/-- What follows once the entry is loaded. -/
def writeBack (p planId : String) (entry : PlanCacheEntry) (embedding : NdArray) :
    PlanProgram Bytes Bool := do
  let _ ← indexRemove planId
  put p entry embedding
  indexAdd planId embedding
  return true

def decoded (p planId : String) (success : Bool) (now : Rat) (pair : Bytes × Bytes) :
    PlanProgram Bytes Bool := do
  let entry ← Proc.done (Serializer.deserializePlanCacheEntry pair.1)
  let embedding ← Proc.done (Serializer.deserializePlanEmbedding pair.2)
  writeBack p planId
    (PlanCacheManager.counted { entry with objMeta := entry.objMeta.touch now } success) embedding

/-- `record_plan_result` -/
def record (p planId : String) (success : Bool) (now : Rat) : PlanProgram Bytes Bool := do
  if ← mightExist planId then
    match ← getPair (metaKey p planId) (dataKey p planId "data.npy") with
    | none => return false
    | some pair => decoded p planId success now pair
  else return false

end PlanProgram

/-! ## Uninterrupted, the steps are the call -/

section

variable {η Bytes : Type}

namespace CacheSession

theorem onStore_laws {κ : Type} :
    ZoomLaws (store : CacheSession (MemoryBackend Bytes) η κ → _)
      (fun self store => { self with store }) :=
  ⟨fun _ _ => rfl, fun _ => rfl, fun _ _ _ => rfl⟩

theorem onStore_bind {κ α β : Type} (first : StoreM (MemoryBackend Bytes) η α)
    (next : α → StoreM (MemoryBackend Bytes) η β) :
    (onStore (first >>= next) : CacheM (MemoryBackend Bytes) η κ β) =
      onStore first >>= fun a => onStore (next a) :=
  zoom_bind onStore_laws first next

end CacheSession

namespace PlanProgram

open CacheSession UnifiedObjectStore

variable [PyRuntime] [Hnswlib η]

theorem run_putPair (metaKey : String) (metaBytes : Bytes) (dataKey : String)
    (dataBytes : Bytes) :
    Proc.run (PlanStep.exec (η := η)) (putPair metaKey metaBytes dataKey dataBytes) =
      onStore (putPair metaKey metaBytes dataKey dataBytes) := by
  simp only [putPair, onStore, zoom_bind onStore_laws, zoom_tryCatch onStore_laws, Proc.run_bind,
    Proc.run_tryCatch]
  rfl

private theorem run_get (key : String) :
    Proc.run (PlanStep.exec (η := η)) (StorageBackend.get key : PlanProgram Bytes _) =
      onStore (StorageBackend.get key) :=
  Proc.run_send PlanStep.exec (.message (.get key))

theorem run_getPair (metaKey dataKey : String) :
    Proc.run (PlanStep.exec (η := η)) (getPair metaKey dataKey : PlanProgram Bytes _) =
      onStore (getPair metaKey dataKey) := by
  rw [getPair, getPair, Proc.run_bind, run_get, onStore_bind]
  congr 1
  funext found
  cases found with
  | none => rfl
  | some metaData =>
      simp only [Proc.run_bind, run_get, onStore_bind]
      congr 1
      funext found
      cases found <;> rfl

variable [Serializer Bytes]

variable {s : CacheSession (MemoryBackend Bytes) η (PlanCacheManager η)} {p : String}

theorem run_put (keyed : s.store.config.objects.agent.plansPrefix = p)
    (entry : PlanCacheEntry) (embedding : NdArray) :
    Proc.run PlanStep.exec (put p entry embedding) s =
      (do let _ ← onStore (putPlanCacheEntry entry embedding)) s := by
  subst keyed
  rw [put, Proc.run_bind, bind_run, bind_run, onStore, zoom_run, putPlanCacheEntry, bind_run,
    get_run]
  simp only [bind_run]
  cases entry.stamp embedding with
  | error e => rfl
  | ok stamped =>
      simp only [Proc.run, raising_ok, Proc.run_bind, bind_run, run_putPair]
      rw [onStore, zoom_run]
      cases (putPair (metaKey s.store.config.objects.agent.plansPrefix stamped.planId)
        (Serializer.serializePlanCacheEntry stamped)
        (dataKey s.store.config.objects.agent.plansPrefix stamped.planId "data.npy")
        (Serializer.serializePlanEmbedding embedding) :
          StoreM (MemoryBackend Bytes) η Unit) s.store <;> rfl

theorem run_writeBack (keyed : s.store.config.objects.agent.plansPrefix = p)
    (planId : String) (entry : PlanCacheEntry) (embedding : NdArray) :
    Proc.run PlanStep.exec (writeBack p planId entry embedding) s =
      (do
        let _ ← PlanCacheManager.onIndex (HNSWIndex.remove planId)
        let _ ← onStore (putPlanCacheEntry entry embedding)
        PlanCacheManager.onIndex (HNSWIndex.add planId embedding)
        return true) s := by
  have removes : Proc.run PlanStep.exec (indexRemove planId) =
      (PlanCacheManager.onIndex (HNSWIndex.remove planId) :
        CacheM (MemoryBackend Bytes) η (PlanCacheManager η) Bool) :=
    Proc.run_send PlanStep.exec (.indexRemove planId)
  have adds : Proc.run PlanStep.exec (indexAdd planId embedding) =
      (PlanCacheManager.onIndex (HNSWIndex.add planId embedding) :
        CacheM (MemoryBackend Bytes) η (PlanCacheManager η) Unit) :=
    Proc.run_send PlanStep.exec (.indexAdd planId embedding)
  rw [writeBack, Proc.run_bind, removes, bind_run, bind_run, PlanCacheManager.onIndex_run]
  cases HNSWIndex.remove planId s.cache.index with
  | error e index => rfl
  | ok removed index =>
      let m : CacheSession (MemoryBackend Bytes) η (PlanCacheManager η) :=
        { s with cache := { s.cache with index } }
      have same : m.store.config.objects.agent.plansPrefix = p := keyed
      change Proc.run PlanStep.exec (put p entry embedding >>= fun _ => _) m =
        (onStore (putPlanCacheEntry entry embedding) >>= fun _ => _) m
      rw [Proc.run_bind, bind_run, run_put same, bind_run, bind_run]
      cases onStore (putPlanCacheEntry entry embedding) m with
      | error e m => rfl
      | ok stored m =>
          simp only [Proc.run_bind, bind_run, adds]
          rfl

/-- Taken without interruption, the steps of a call are `record_plan_result` of its manager. -/
theorem run_record (keyed : s.store.config.objects.agent.plansPrefix = p) (planId : String)
    (success : Bool) (now : Rat) :
    Proc.run PlanStep.exec (record p planId success now) s =
      PlanCacheManager.recordPlanResult planId success now s := by
  have asks : Proc.run PlanStep.exec (mightExist planId : PlanProgram Bytes Bool) s =
      .ok (s.store.metadata.mightExist planId) s :=
    congrFun (Proc.run_send PlanStep.exec (PlanStep.mightExist planId)) s
  rw [record, Proc.run_bind, bind_run, asks, PlanCacheManager.recordPlanResult, bind_run, onStore,
    zoom_run, getPlanCacheEntry, bind_run, get_run]
  simp only [getPairObject, bind_run, get_run, keyed]
  cases s.store.metadata.mightExist planId with
  | false => rfl
  | true =>
      simp only [if_true, Proc.run_bind, bind_run, run_getPair]
      rw [onStore, zoom_run]
      simp only [getPair, bind_run, get_eq_view]
      cases (ReadableBackend.view s.store.backend).get (metaKey p planId) with
      | none => rfl
      | some metaData =>
          simp only [bind_run, get_eq_view]
          cases (ReadableBackend.view s.store.backend).get (dataKey p planId "data.npy") with
          | none => rfl
          | some data =>
              simp only [pure_run, decoded, Proc.run_bind, bind_run, Proc.run]
              cases (Serializer.deserializePlanCacheEntry metaData : Except PyError _) with
              | error e => rfl
              | ok entry =>
                  simp only [raising_ok]
                  cases (Serializer.deserializePlanEmbedding data : Except PyError _) with
                  | error e => rfl
                  | ok embedding =>
                      simp only [raising_ok]
                      exact run_writeBack keyed planId _ embedding

end PlanProgram

end

/-! ## Managers over one backend -/

/-- What a store keeps in memory. -/
structure StoreMemory (η : Type) where
  config : L3Config
  metadata : MetadataStore η

/-- A manager and the store it was built over. -/
structure PlanManager (ς η : Type) where
  store : ς
  cache : PlanCacheManager η

/-- Managers over stores that share a backend. -/
structure SharedPlans (κ ς η Bytes : Type) where
  backend : MemoryBackend Bytes
  stores : ς → StoreMemory η
  managers : κ → PlanManager ς η

namespace SharedPlans

variable {κ ς η Bytes : Type} [DecidableEq κ] [DecidableEq ς]

omit [DecidableEq κ] [DecidableEq ς] in
def config (self : SharedPlans κ ς η Bytes) (m : κ) : L3Config :=
  (self.stores (self.managers m).store).config

omit [DecidableEq κ] [DecidableEq ς] in
/-- A manager with its store, over the shared backend. -/
def session (self : SharedPlans κ ς η Bytes) (m : κ) :
    CacheSession (MemoryBackend Bytes) η (PlanCacheManager η) :=
  ⟨.new self.backend (self.config m) (self.stores (self.managers m).store).metadata,
    (self.managers m).cache⟩

def withSession (m : κ) (self : SharedPlans κ ς η Bytes)
    (session : CacheSession (MemoryBackend Bytes) η (PlanCacheManager η)) :
    SharedPlans κ ς η Bytes where
  backend := session.store.backend
  stores := Function.update self.stores (self.managers m).store
    ⟨session.store.config, session.store.metadata⟩
  managers := Function.update self.managers m
    { self.managers m with cache := session.cache }

theorem session_laws (m : κ) :
    ZoomLaws (fun self : SharedPlans κ ς η Bytes => self.session m) (withSession m) where
  read_write self session := by
    simp only [SharedPlans.session, config, withSession, Function.update_self,
      UnifiedObjectStore.new]
  write_read self := by
    simp only [SharedPlans.session, config, withSession, UnifiedObjectStore.new,
      Function.update_eq_self]
  write_write self first second := by
    simp only [withSession, Function.update_self, Function.update_idem]

/-- A call or a step of one manager. -/
def onManager {α : Type} (m : κ)
    (action : CacheM (MemoryBackend Bytes) η (PlanCacheManager η) α) :
    EStateM PyError (SharedPlans κ ς η Bytes) α :=
  zoom (fun self => self.session m) (withSession m) action

variable [PyRuntime] [Hnswlib η]

def serve (c : κ × PlanStep Bytes) : EStateM PyError (SharedPlans κ ς η Bytes) c.2.Reply :=
  onManager c.1 c.2.exec

/-- The steps of a call, taken one after the other, are the call. -/
theorem run_record [Serializer Bytes] (self : SharedPlans κ ς η Bytes) (m : κ) (planId : String)
    (success : Bool) (now : Rat) :
    Proc.run serve ((PlanProgram.record (self.config m).objects.agent.plansPrefix planId
        success now).addressed m) self =
      onManager m (PlanCacheManager.recordPlanResult planId success now) self := by
  rw [Proc.run_addressed]
  have keyed : (self.session m).store.config.objects.agent.plansPrefix =
      (self.config m).objects.agent.plansPrefix := rfl
  refine (congrFun (Proc.run_zoom PlanStep.exec (session_laws m) _) self).trans ?_
  rw [onManager, zoom_run, zoom_run, PlanProgram.run_record keyed]

end SharedPlans

/-! ## Calls on one plan -/

/-- `record_plan_result(plan_id, success)` on one of the managers. -/
structure ResultCall (κ : Type) where
  manager : κ
  success : Bool
  now : Rat

abbrev PlanProcess (κ Bytes : Type) :=
  Proc (κ × PlanStep Bytes) (fun c => c.2.Reply) PyError Bool

abbrev PlanPool (ι κ ς η Bytes : Type) :=
  Pool ι (SharedPlans κ ς η Bytes) (κ × PlanStep Bytes) (fun c => c.2.Reply) PyError Bool

/-- A message that reads or writes a key. -/
def PlanStep.accesses {Bytes : Type} (key : String) : PlanStep Bytes → Bool
  | .message (.get k) | .message (.put k _) => k = key
  | _ => false

/-- The calls in the order in which they read and write a key. -/
def accessesOf {ι κ Bytes : Type} (key : String) (sent : List (ι × (κ × PlanStep Bytes))) :
    List ι :=
  (sent.filter fun message => message.2.2.accesses key).map Prod.fst

section

variable {ι κ ς η Bytes : Type} [DecidableEq ι] [PyRuntime] [Serializer Bytes]

/-- The pool before any message. -/
def PlanPool.start (p planId : String) (calls : ι → ResultCall κ)
    (shared : SharedPlans κ ς η Bytes) : PlanPool ι κ ς η Bytes where
  state := shared
  threads i := (PlanProgram.record p planId (calls i).success (calls i).now).addressed
    (calls i).manager
  underWay := []

/-- An entry that counts the results of these calls. -/
def Counts (planId : String) (calls : ι → ResultCall κ) (updates : List ι)
    (entry : PlanCacheEntry) : Prop :=
  entry.planId = planId ∧ entry.successCount = updates.countP (fun i => (calls i).success) ∧
    entry.failureCount = updates.countP fun i => !(calls i).success

/-- Where a call stands with the metadata key. -/
inductive MetadataPhase (ι : Type) where
  | unread
  | read (updates : List ι)
  | written

/-- From this phase on, a process reads the metadata once, writes it back with one more result,
    and returns `True` only after that; it never changes the embedding. -/
def Behaves (p planId : String) (embedding : NdArray) (calls : ι → ResultCall κ) (i : ι) :
    MetadataPhase ι → PlanProcess κ Bytes → Prop
  | phase, .done outcome => outcome = .ok true → phase = .written
  | phase, .call (_, .message (.get key)) next =>
      key = metaKey p planId ∧ phase = .unread ∧
        (∀ updates entry, Counts planId calls updates entry →
          Behaves p planId embedding calls i (.read updates)
            (next (.ok (some (Serializer.serializePlanCacheEntry entry))))) ∨
      key = dataKey p planId "data.npy" ∧ Behaves p planId embedding calls i phase
        (next (.ok (some (Serializer.serializePlanEmbedding embedding))))
  | phase, .call (_, .message (.put key data)) next =>
      key = metaKey p planId ∧ (∃ updates entry, phase = .read updates ∧
        data = Serializer.serializePlanCacheEntry entry ∧ Counts planId calls (i :: updates) entry ∧
        Behaves p planId embedding calls i .written (next (.ok ()))) ∨
      key = dataKey p planId "data.npy" ∧ data = Serializer.serializePlanEmbedding embedding ∧
        Behaves p planId embedding calls i phase (next (.ok ()))
  | phase, .call (_, .mightExist _) next =>
      ∀ reply, Behaves p planId embedding calls i phase (next reply)
  | phase, .call (_, .objectAdded _) next =>
      ∀ reply, Behaves p planId embedding calls i phase (next reply)
  | phase, .call (_, .indexRemove _) next =>
      ∀ reply, Behaves p planId embedding calls i phase (next reply)
  | phase, .call (_, .indexAdd _ _) next =>
      ∀ reply, Behaves p planId embedding calls i phase (next reply)
  | _, .call (_, .message _) _ => False

section

variable [LawfulSerializer Bytes] {p planId : String} {embedding : NdArray}
  {calls : ι → ResultCall κ} {i : ι}

omit [DecidableEq ι] [PyRuntime] [LawfulSerializer Bytes] in
theorem failed_behaves (phase : MetadataPhase ι) (e : PyError) :
    Behaves p planId embedding calls i phase (.done (.error e) : PlanProcess κ Bytes) :=
  fun same => (by cases same)

omit [DecidableEq ι] [PyRuntime] in
theorem Counts.stamp {updates : List ι} {entry stamped : PlanCacheEntry}
    (counts : Counts planId calls updates entry) (stamping : entry.stamp embedding = .ok stamped) :
    Counts planId calls updates stamped := by
  obtain ⟨dim, -, same⟩ := bind_eq_ok.mp stamping
  cases same
  exact counts

omit [DecidableEq ι] [PyRuntime] [LawfulSerializer Bytes] in
theorem writeBack_behaves {updates : List ι} {entry : PlanCacheEntry}
    (counts : Counts planId calls (i :: updates) entry) :
    Behaves p planId embedding calls i (.read updates)
      ((PlanProgram.writeBack p planId entry embedding : PlanProgram Bytes Bool).addressed
        (calls i).manager) := by
  intro reply
  cases reply with
  | error e => exact failed_behaves _ e
  | ok removed =>
      cases stamping : entry.stamp embedding with
      | error e =>
          simp only [PlanProgram.put, stamping]
          exact failed_behaves _ e
      | ok stamped =>
          have counted := counts.stamp stamping
          simp only [PlanProgram.put, stamping]
          refine Or.inl ⟨by rw [counted.1], updates, stamped, rfl, rfl, counted, ?_⟩
          refine Or.inr ⟨by rw [counted.1], rfl, ?_⟩
          intro noted
          cases noted with
          | error e => exact failed_behaves _ e
          | ok _ =>
              intro indexed
              cases indexed with
              | error e => exact failed_behaves _ e
              | ok _ => exact fun _ => rfl

omit [DecidableEq ι] [PyRuntime] in
theorem counted_counts {updates : List ι} {entry : PlanCacheEntry}
    (counts : Counts planId calls updates entry) (objMeta : ObjectMeta) :
    Counts planId calls (i :: updates)
      (PlanCacheManager.counted { entry with objMeta } (calls i).success) := by
  obtain ⟨named, successes, failures⟩ := counts
  rw [Counts, List.countP_cons, List.countP_cons]
  cases (calls i).success <;> exact ⟨named, by simpa [PlanCacheManager.counted] using successes,
    by simpa [PlanCacheManager.counted] using failures⟩

omit [DecidableEq ι] [PyRuntime] in
/-- A call reads the metadata once and writes it back with its own result. -/
theorem record_behaves (i : ι) :
    Behaves p planId embedding calls i .unread
      ((PlanProgram.record p planId (calls i).success (calls i).now :
        PlanProgram Bytes Bool).addressed (calls i).manager) := by
  intro reply
  cases reply with
  | error e => exact failed_behaves _ e
  | ok known =>
      cases known with
      | false => exact fun same => (by cases same)
      | true =>
          refine Or.inl ⟨rfl, rfl, fun updates entry counts => ?_⟩
          refine Or.inr ⟨rfl, ?_⟩
          have decodes : (PlanProgram.decoded p planId (calls i).success (calls i).now
              ((Serializer.serializePlanCacheEntry entry,
                Serializer.serializePlanEmbedding embedding) : Bytes × Bytes)) =
            PlanProgram.writeBack p planId (PlanCacheManager.counted
              { entry with objMeta := entry.objMeta.touch (calls i).now } (calls i).success)
                embedding := by
            have embedded : Serializer.deserializePlanEmbedding
                (Serializer.serializePlanEmbedding embedding : Bytes) = .ok embedding :=
              LawfulSerializer.embedding embedding
            rw [PlanProgram.decoded]
            simp only [LawfulSerializer.planCacheEntry, embedded]
            rfl
          change Behaves p planId embedding calls i (.read updates)
            ((PlanProgram.decoded p planId (calls i).success (calls i).now _).addressed _)
          rw [decodes]
          exact writeBack_behaves (counted_counts counts _)

end

/-! ## Any order of steps -/

section

open Register

variable [DecidableEq κ] [DecidableEq ς] [Hnswlib η] {p planId : String} {embedding : NdArray}
  {calls : ι → ResultCall κ}

/-- The phase of a call that has made these accesses. -/
def PhaseIs (accesses : List ι) (i : ι) : MetadataPhase ι → Prop
  | .unread => accesses.count i = 0 ∧ (after accesses).seen i = none
  | .read updates => accesses.count i = 1 ∧ (after accesses).seen i = some updates
  | .written => accesses.count i = 2 ∧ (after accesses).seen i = none

/-- The stored entry counts the results of the calls whose updates have survived. -/
structure Records (p planId : String) (embedding : NdArray) (calls : ι → ResultCall κ)
    (sent : List (ι × (κ × PlanStep Bytes))) (pool : PlanPool ι κ ς η Bytes) : Prop where
  metaOf : ∃ entry, pool.state.backend.get (metaKey p planId) =
      some (Serializer.serializePlanCacheEntry entry) ∧
    Counts planId calls (after (accessesOf (metaKey p planId) sent)).updates entry
  dataOf : pool.state.backend.get (dataKey p planId "data.npy") =
    some (Serializer.serializePlanEmbedding embedding)
  behaves : ∀ i, ∃ phase, PhaseIs (accessesOf (metaKey p planId) sent) i phase ∧
    Behaves p planId embedding calls i phase (pool.threads i)

omit [DecidableEq ι] [PyRuntime] [Serializer Bytes] [DecidableEq κ] in
theorem accessesOf_append {key : String} (sent : List (ι × (κ × PlanStep Bytes))) (i : ι)
    (c : κ × PlanStep Bytes) :
    accessesOf key (sent ++ [(i, c)]) =
      accessesOf key sent ++ if c.2.accesses key then [i] else [] := by
  rw [accessesOf, List.filter_append, List.map_append]
  by_cases touches : c.2.accesses key = true
  · simp [accessesOf, touches]
  · simp [accessesOf, touches]

omit [PyRuntime] in
/-- The accesses of one call leave the phases of the others. -/
theorem PhaseIs.other {accesses : List ι} {i j : ι} {phase : MetadataPhase ι}
    (is : PhaseIs accesses j phase) (other : j ≠ i) : PhaseIs (accesses ++ [i]) j phase := by
  have same : (accesses ++ [i]).count j = accesses.count j := by
    rw [List.count_append, List.count_singleton, beq_false_of_ne (Ne.symm other)]
    rfl
  cases phase <;> rw [PhaseIs, after_append, seen_access_of_ne other, same] <;> exact is

omit [PyRuntime] in
theorem PhaseIs.reads {accesses : List ι} {i : ι} (is : PhaseIs accesses i .unread) :
    PhaseIs (accesses ++ [i]) i (.read (after accesses).updates) ∧
      (after (accesses ++ [i])).updates = (after accesses).updates := by
  obtain ⟨none_yet, fresh⟩ := is
  simp only [PhaseIs, after_append, Register.access, fresh, List.count_append, none_yet,
    List.count_singleton_self, Function.update_self, and_self]

omit [PyRuntime] in
theorem PhaseIs.writes {accesses : List ι} {i : ι} {updates : List ι}
    (is : PhaseIs accesses i (.read updates)) :
    PhaseIs (accesses ++ [i]) i .written ∧
      (after (accesses ++ [i])).updates = i :: updates := by
  obtain ⟨once, read⟩ := is
  simp only [PhaseIs, after_append, Register.access, read, List.count_append, once,
    List.count_singleton_self, Function.update_self, and_self]

omit [Serializer Bytes] in
/-- A message served changes the backend as it would alone. -/
theorem serve_message (m : κ) (c : Command Bytes) (shared : SharedPlans κ ς η Bytes) :
    EStateResult.outcome (SharedPlans.serve (m, .message c) shared) =
        EStateResult.outcome (c.serve shared.backend) ∧
      (EStateResult.state (SharedPlans.serve (m, .message c) shared)).backend =
        EStateResult.state (c.serve shared.backend) := by
  have alone : PlanStep.exec (.message c) (shared.session m) =
      match c.serve shared.backend with
      | .ok a backend => .ok a ({ shared with backend }.session m)
      | .error e backend => .error e ({ shared with backend }.session m) := by
    change CacheSession.onStore (UnifiedObjectStore.onBackend c.serve) _ = _
    have same : (shared.session m).store.backend = shared.backend := rfl
    rw [CacheSession.onStore, zoom_run, UnifiedObjectStore.onBackend, zoom_run, same]
    cases c.serve shared.backend <;> rfl
  rw [SharedPlans.serve, SharedPlans.onManager, zoom_run, alone]
  cases c.serve shared.backend <;> exact ⟨rfl, rfl⟩

omit [Serializer Bytes] in
/-- A step on the filter or the index of a manager leaves the backend alone. -/
theorem serve_local (m : κ) (shared : SharedPlans κ ς η Bytes) (c : PlanStep Bytes)
    (quiet : ∀ command, c ≠ .message command) :
    (EStateResult.state (SharedPlans.serve (m, c) shared)).backend = shared.backend := by
  have inner : (EStateResult.state (c.exec (shared.session m))).store.backend =
      shared.backend := by
    cases c with
    | message command => exact absurd rfl (quiet command)
    | mightExist planId => rfl
    | objectAdded planId => rfl
    | indexRemove planId =>
        exact congrArg UnifiedObjectStore.backend
          (PlanCacheManager.onIndex_store (HNSWIndex.remove planId) (shared.session m))
    | indexAdd planId embedding =>
        exact congrArg UnifiedObjectStore.backend
          (PlanCacheManager.onIndex_store (HNSWIndex.add planId embedding) (shared.session m))
  rw [SharedPlans.serve, SharedPlans.onManager, zoom_run, ← inner]
  cases c.exec (shared.session m) <;> rfl

namespace Records

variable {sent : List (ι × (κ × PlanStep Bytes))} {pool pool' : PlanPool ι κ ς η Bytes} {i : ι}

omit [PyRuntime] [DecidableEq κ] [DecidableEq ς] [Hnswlib η] in
/-- A step that leaves the metadata key alone. -/
theorem silent (records : Records p planId embedding calls sent pool) {c : κ × PlanStep Bytes}
    {phase : MetadataPhase ι} {thread : PlanProcess κ Bytes}
    (unread : c.2.accesses (metaKey p planId) = false)
    (is : PhaseIs (accessesOf (metaKey p planId) sent) i phase)
    (threads : pool'.threads = Function.update pool.threads i thread)
    (behaves : Behaves p planId embedding calls i phase thread)
    (metaOf : pool'.state.backend.get (metaKey p planId) =
      pool.state.backend.get (metaKey p planId))
    (dataOf : pool'.state.backend.get (dataKey p planId "data.npy") =
      pool.state.backend.get (dataKey p planId "data.npy")) :
    Records p planId embedding calls (sent ++ [(i, c)]) pool' := by
  have same : accessesOf (metaKey p planId) (sent ++ [(i, c)]) =
      accessesOf (metaKey p planId) sent := by
    rw [accessesOf_append, unread, if_neg Bool.false_ne_true, List.append_nil]
  refine ⟨?_, dataOf.trans records.dataOf, fun j => ?_⟩
  · rw [metaOf, same]
    exact records.metaOf
  · rw [threads, same]
    by_cases here : j = i
    · subst here
      rw [Function.update_self]
      exact ⟨phase, is, behaves⟩
    · rw [Function.update_of_ne here]
      exact records.behaves j

omit [PyRuntime] [DecidableEq κ] [DecidableEq ς] [Hnswlib η] in
/-- A read or a write of the metadata key. -/
theorem access (records : Records p planId embedding calls sent pool) {c : κ × PlanStep Bytes}
    {phase : MetadataPhase ι} {thread : PlanProcess κ Bytes}
    (accesses : c.2.accesses (metaKey p planId) = true)
    (is : PhaseIs (accessesOf (metaKey p planId) sent ++ [i]) i phase)
    (threads : pool'.threads = Function.update pool.threads i thread)
    (behaves : Behaves p planId embedding calls i phase thread)
    (metaOf : ∃ entry, pool'.state.backend.get (metaKey p planId) =
        some (Serializer.serializePlanCacheEntry entry) ∧
      Counts planId calls (after (accessesOf (metaKey p planId) sent ++ [i])).updates entry)
    (dataOf : pool'.state.backend.get (dataKey p planId "data.npy") =
      pool.state.backend.get (dataKey p planId "data.npy")) :
    Records p planId embedding calls (sent ++ [(i, c)]) pool' := by
  have one : accessesOf (metaKey p planId) (sent ++ [(i, c)]) =
      accessesOf (metaKey p planId) sent ++ [i] := by
    rw [accessesOf_append, accesses, if_pos rfl]
  refine ⟨?_, dataOf.trans records.dataOf, fun j => ?_⟩
  · rw [one]
    exact metaOf
  · rw [threads, one]
    by_cases here : j = i
    · subst here
      rw [Function.update_self]
      exact ⟨phase, is, behaves⟩
    · rw [Function.update_of_ne here]
      obtain ⟨phase', was, later⟩ := records.behaves j
      exact ⟨phase', was.other here, later⟩

/-- A step on the manager alone keeps what is recorded. -/
theorem unsent (records : Records p planId embedding calls sent pool) {m : κ} {c : PlanStep Bytes}
    {next : Except PyError c.Reply → PlanProcess κ Bytes} {phase : MetadataPhase ι}
    (quiet : ∀ command, c ≠ .message command)
    (thread : pool.threads i = .call (m, c) next)
    (is : PhaseIs (accessesOf (metaKey p planId) sent) i phase)
    (behaves : ∀ reply, Behaves p planId embedding calls i phase (next reply))
    (delivered : pool.deliver SharedPlans.serve i = some pool') :
    Records p planId embedding calls (sent ++ [(i, (m, c))]) pool' := by
  obtain ⟨state, threads⟩ := Pool.deliver_eq thread delivered
  have untouched : pool'.state.backend = pool.state.backend := by
    rw [state]
    exact serve_local m pool.state c quiet
  have unread : c.accesses (metaKey p planId) = false := by
    cases c with
    | message command => exact absurd rfl (quiet command)
    | mightExist | objectAdded | indexRemove | indexAdd => rfl
  exact records.silent unread is threads (behaves _) (by rw [untouched]) (by rw [untouched])

theorem step (records : Records p planId embedding calls sent pool) {c : κ × PlanStep Bytes}
    {next : Except PyError c.2.Reply → PlanProcess κ Bytes}
    (thread : pool.threads i = .call c next)
    (delivered : pool.deliver SharedPlans.serve i = some pool') :
    Records p planId embedding calls (sent ++ [(i, c)]) pool' := by
  have apart : metaKey p planId ≠ dataKey p planId "data.npy" :=
    metaKey_ne_dataKey (X := .planCache) rfl p planId p planId
  obtain ⟨phase, is, behaves⟩ := records.behaves i
  rw [thread] at behaves
  obtain ⟨state, threads⟩ := Pool.deliver_eq thread delivered
  obtain ⟨m, c⟩ := c
  cases c with
  | mightExist | objectAdded | indexRemove | indexAdd =>
      exact records.unsent (fun _ same => by cases same) thread is behaves delivered
  | message command =>
      obtain ⟨answer, left⟩ := serve_message m command pool.state
      rw [← state] at left
      rw [answer] at threads
      cases command with
      | get key =>
          change pool'.state.backend = pool.state.backend at left
          change pool'.threads =
            Function.update pool.threads i (next (.ok (pool.state.backend.get key))) at threads
          rcases behaves with ⟨rfl, rfl, later⟩ | ⟨rfl, later⟩
          · obtain ⟨entry, held, counts⟩ := records.metaOf
            rw [held] at threads
            have touches : PlanStep.accesses (metaKey p planId)
                (.message (.get (metaKey p planId)) : PlanStep Bytes) = true := decide_eq_true rfl
            obtain ⟨read, unchanged⟩ := is.reads
            refine records.access touches read threads (later _ entry counts)
              ⟨entry, by rw [left, held], ?_⟩ (by rw [left])
            rw [unchanged]
            exact counts
          · rw [records.dataOf] at threads
            have untouched : PlanStep.accesses (metaKey p planId)
                (.message (.get (dataKey p planId "data.npy")) : PlanStep Bytes) = false :=
              decide_eq_false (Ne.symm apart)
            exact records.silent untouched is threads later (by rw [left]) (by rw [left])
      | put key data =>
          change pool'.state.backend = pool.state.backend.put key data at left
          change pool'.threads = Function.update pool.threads i (next (.ok ())) at threads
          rcases behaves with ⟨rfl, updates, entry, rfl, rfl, counts, later⟩ | ⟨rfl, rfl, later⟩
          · have touches : PlanStep.accesses (metaKey p planId)
                (.message (.put (metaKey p planId) (Serializer.serializePlanCacheEntry entry)) :
                  PlanStep Bytes) = true := decide_eq_true rfl
            obtain ⟨written, latest⟩ := is.writes
            refine records.access touches written threads later ⟨entry, ?_, ?_⟩ ?_
            · rw [left, MemoryBackend.get_put, if_pos rfl]
            · rw [latest]
              exact counts
            · rw [left, MemoryBackend.get_put, if_neg apart]
          · have untouched : PlanStep.accesses (metaKey p planId)
                (.message (.put (dataKey p planId "data.npy")
                  (Serializer.serializePlanEmbedding embedding)) : PlanStep Bytes) = false :=
              decide_eq_false (Ne.symm apart)
            refine records.silent untouched is threads later ?_ ?_
            · rw [left, MemoryBackend.get_put, if_neg (Ne.symm apart)]
            · rw [left, MemoryBackend.get_put, if_pos rfl, records.dataOf]
      | delete | existsKey | listKeys => exact behaves.elim

end Records

end

end

open Register

/-- Whatever the order of the steps, a plan stored with no results counts at most the results
    of the calls, and counts all of them exactly when no call writes the metadata while
    another one has read it and not written it back. -/
theorem plan_results_counted_iff {ι κ ς η Bytes : Type} [Fintype ι] [DecidableEq ι]
    [DecidableEq κ] [DecidableEq ς] [PyRuntime] [Serializer Bytes] [LawfulSerializer Bytes]
    [Hnswlib η] {p planId : String} {calls : ι → ResultCall κ} {shared : SharedPlans κ ς η Bytes}
    {entry : PlanCacheEntry} {embedding : NdArray} (named : entry.planId = planId)
    (noResults : entry.successCount = 0 ∧ entry.failureCount = 0)
    (metaOf : shared.backend.get (metaKey p planId) =
      some (Serializer.serializePlanCacheEntry entry))
    (dataOf : shared.backend.get (dataKey p planId "data.npy") =
      some (Serializer.serializePlanEmbedding embedding))
    {schedule : List ι} {pool : PlanPool ι κ ς η Bytes}
    (run : Pool.Interleaving SharedPlans.serve (fun _ _ => True)
      (PlanPool.start p planId calls shared) schedule pool)
    (returned : ∀ i, pool.threads i = .done (.ok true)) :
    let sent := Pool.sent SharedPlans.serve (PlanPool.start p planId calls shared) schedule
    let successes := (Finset.univ.filter fun i => (calls i).success = true).card
    let failures := (Finset.univ.filter fun i => (calls i).success = false).card
    ∃ stored, pool.state.backend.get (metaKey p planId) =
        some (Serializer.serializePlanCacheEntry stored) ∧
      stored.successCount ≤ successes ∧ stored.failureCount ≤ failures ∧
      (stored.successCount = successes ∧ stored.failureCount = failures ↔
        Undisturbed (accessesOf (metaKey p planId) sent)) := by
  intro sent successes failures
  have begins : Records p planId embedding calls [] (PlanPool.start p planId calls shared) :=
    ⟨⟨entry, metaOf, named, noResults.1, noResults.2⟩, dataOf,
      fun i => ⟨.unread, ⟨rfl, rfl⟩, record_behaves i⟩⟩
  have records : Records p planId embedding calls sent pool :=
    run.traced (fun _ _ _ _ _ _ records thread delivered => records.step thread delivered) begins
  obtain ⟨stored, held, -, counted, failed⟩ := records.metaOf
  have twice : ∀ i, (accessesOf (metaKey p planId) sent).count i = 2 := by
    intro i
    obtain ⟨phase, is, behaves⟩ := records.behaves i
    rw [returned i] at behaves
    obtain rfl : phase = .written := behaves rfl
    exact is.1
  obtain ⟨sound, -⟩ := after_cases _ fun i => (twice i).le
  have distinct := sound.distinct _ (Or.inl rfl)
  refine ⟨stored, held, ?_, ?_, ?_⟩
  · rw [counted]
    exact countP_le_card distinct _
  · rw [failed]
    simpa only [Bool.not_eq_true'] using countP_le_card distinct fun i => !(calls i).success
  · rw [counted, failed, ← complete_iff twice]
    exact countP_eq_card_iff distinct _

section

open Reference

private def unitIndex : HNSWIndex FlatIndex where
  dim := 1
  maxElements := 2
  index := Hnswlib.initIndex 1 2
  idToObject := .empty
  objectToId := .empty
  freeIds := []
  nextId := 0
  dimPositive := by decide
  capacityPositive := by decide

/-- Two managers over one store with one plan, put by the first. -/
private def twoManagers : SharedPlans (Fin 2) Unit FlatIndex Encoded :=
  EStateResult.state (SharedPlans.onManager 0
    (PlanCacheManager.putPlan "sort a list" "1. sort" [] .empty .sessionScope "p" "u" 0) {
      backend := .empty
      stores := fun _ => ⟨.default, metadata⟩
      managers := fun _ =>
        ⟨(), ⟨fun _ => array [1], 3 / 4, unitIndex, 0, 0, 0, 0, 0, 0, by decide +kernel⟩⟩ })

private def twoSuccesses (i : Fin 2) : ResultCall (Fin 2) := ⟨i, true, 0⟩

private def outset : PlanPool (Fin 2) (Fin 2) Unit FlatIndex Encoded :=
  PlanPool.start "agent/plans/" "p" twoSuccesses twoManagers

private def returnedTrue : PlanProcess (Fin 2) Encoded → Bool
  | .done (.ok true) => true
  | _ => false

private theorem returnedTrue_eq {process : PlanProcess (Fin 2) Encoded}
    (returned : returnedTrue process = true) : process = .done (.ok true) := by
  unfold returnedTrue at returned
  split at returned
  · rfl
  · cases returned

/-- Whether both calls returned `True`, and how many successes are stored then. -/
private def endOf (pool : PlanPool (Fin 2) (Fin 2) Unit FlatIndex Encoded) :
    Bool × Bool × Option Nat :=
  (returnedTrue (pool.threads 0), returnedTrue (pool.threads 1),
    match pool.state.backend.get (metaKey "agent/plans/" "p") with
    | some (.planCacheEntry entry) => some entry.successCount
    | _ => none)

private theorem ends {schedule : List (Fin 2)} {count : Nat}
    (summary : (outset.play SharedPlans.serve schedule).map endOf = some (true, true, some count)) :
    ∃ pool, Pool.Interleaving SharedPlans.serve (fun _ _ => True) outset schedule pool ∧
      (∀ i, pool.threads i = .done (.ok true)) ∧
      ∃ stored, pool.state.backend.get (metaKey "agent/plans/" "p") =
          some (Serializer.serializePlanCacheEntry stored) ∧ stored.successCount = count := by
  obtain ⟨pool, played, same⟩ := Option.map_eq_some_iff.mp summary
  simp only [endOf, Prod.mk.injEq] at same
  obtain ⟨first, second, counted⟩ := same
  refine ⟨pool, Pool.play_interleaving played, fun i => ?_, ?_⟩
  · match i with
    | 0 => exact returnedTrue_eq first
    | 1 => exact returnedTrue_eq second
  · split at counted
    · next entry held =>
        cases counted
        exact ⟨entry, held, rfl⟩
    · cases counted

private theorem stored_at_outset : ∃ entry embedding,
    twoManagers.backend.get (metaKey "agent/plans/" "p") =
        some (Serializer.serializePlanCacheEntry entry) ∧
      twoManagers.backend.get (dataKey "agent/plans/" "p" "data.npy") =
        some (Serializer.serializePlanEmbedding embedding) ∧
      entry.planId = "p" ∧ entry.successCount = 0 ∧ entry.failureCount = 0 := by
  exact ⟨_, _, rfl, rfl, rfl, rfl, rfl⟩

/-- One call after the other: the order of the accesses loses no result. -/
theorem plan_results_counted_in_turn : ∃ schedule pool stored,
    Pool.Interleaving SharedPlans.serve (fun _ _ => True) outset schedule pool ∧
    (∀ i, pool.threads i = .done (.ok true)) ∧
    pool.state.backend.get (metaKey "agent/plans/" "p") =
      some (Serializer.serializePlanCacheEntry stored) ∧
    (stored.successCount = (Finset.univ.filter fun i => (twoSuccesses i).success = true).card ∧
        stored.failureCount =
          (Finset.univ.filter fun i => (twoSuccesses i).success = false).card ↔
      Undisturbed (accessesOf (metaKey "agent/plans/" "p")
        (Pool.sent SharedPlans.serve outset schedule))) := by
  have played : (outset.play SharedPlans.serve
      [0, 0, 0, 0, 0, 0, 0, 0, 1, 1, 1, 1, 1, 1, 1, 1]).map endOf = some (true, true, some 2) := by
    decide +kernel
  obtain ⟨pool, run, returned, -⟩ := ends played
  obtain ⟨entry, embedding, metaOf, dataOf, named, noResults⟩ := stored_at_outset
  obtain ⟨stored, held, -, -, exact_iff⟩ :=
    plan_results_counted_iff named noResults metaOf dataOf run returned
  exact ⟨_, pool, stored, run, returned, held, exact_iff⟩

/-- Both calls read the entry before either writes it: one of two successes is lost. -/
theorem interleaved_results_lost : ∃ entry schedule pool stored,
    twoManagers.backend.get (metaKey "agent/plans/" "p") =
      some (Serializer.serializePlanCacheEntry entry) ∧
    entry.successCount = 0 ∧ entry.failureCount = 0 ∧
    Pool.Interleaving SharedPlans.serve (fun _ _ => True) outset schedule pool ∧
    (∀ i, pool.threads i = .done (.ok true)) ∧
    pool.state.backend.get (metaKey "agent/plans/" "p") =
      some (Serializer.serializePlanCacheEntry stored) ∧
    stored.successCount ≠ (Finset.univ.filter fun i => (twoSuccesses i).success = true).card := by
  have played : (outset.play SharedPlans.serve
      [0, 0, 0, 1, 1, 1, 0, 0, 0, 0, 0, 1, 1, 1, 1, 1]).map endOf = some (true, true, some 1) := by
    decide +kernel
  obtain ⟨pool, run, returned, stored, held, counted⟩ := ends played
  obtain ⟨entry, -, metaOf, -, -, noSuccess, noFailure⟩ := stored_at_outset
  refine ⟨entry, _, pool, stored, metaOf, noSuccess, noFailure, run, returned, held, ?_⟩
  rw [counted]
  decide

end

end IntelliL3
