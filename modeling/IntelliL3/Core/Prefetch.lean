import IntelliL3.Core.TypedStore

/-! # Prefetching

`prefetch_batch` of `core/object_store.py`: objects named by prefetch decisions
(`policies/prefetch/base.py`) are loaded, each id once, under the type it is first
named with.
-/

namespace IntelliL3

open Lib

structure PrefetchDecision where
  objectId : String
  priority : Rat
  prefetchType : String

/-- What an id is mapped to: the answer of one of five getters. -/
inductive Prefetched where
  | kvBlock (found : KVCacheBlock × NdArray × NdArray)
  | ragObject (found : RAGObject × NdArray)
  | semanticEntry (found : SemanticCacheEntry × NdArray)
  | toolArtifact (found : ToolCallArtifact)
  | planEntry (found : PlanCacheEntry × NdArray)

/-- The type an object is loaded under. -/
def Prefetched.prefetchType : Prefetched → String
  | .kvBlock _ => "kv_cache"
  | .ragObject _ => "rag"
  | .semanticEntry _ => "semantic"
  | .toolArtifact _ => "tool_artifact"
  | .planEntry _ => "plan_cache"

namespace UnifiedObjectStore

variable {β η Bytes : Type} [StorageBackend (EStateM PyError β) Bytes] [PyRuntime]
  [Serializer Bytes]

def prefetchOne (objectId prefetchType : String) (now : Rat) : StoreM β η (Option Prefetched) :=
  match prefetchType with
  | "kv_cache" => do return (← getKvBlock objectId now).map .kvBlock
  | "rag" => do return (← getRagObject objectId now).map .ragObject
  | "semantic" => do return (← getSemanticEntry objectId now).map .semanticEntry
  | "tool_artifact" => do return (← getToolArtifact objectId now).map .toolArtifact
  | "plan_cache" => do return (← getPlanCacheEntry objectId now).map .planEntry
  | _ => return none

/-- One decision of the loop, given the results and the ids seen. -/
def prefetchDecision (clock : String → Rat) (found : Dict String Prefetched × List String)
    (decision : PrefetchDecision) : StoreM β η (Dict String Prefetched × List String) := do
  let (results, seen) := found
  if decision.objectId = "" ∨ decision.objectId ∈ seen then return (results, seen)
  else
    match ← prefetchOne decision.objectId decision.prefetchType (clock decision.objectId) with
    | none => return (results, decision.objectId :: seen)
    | some result =>
        return (results.set decision.objectId result, decision.objectId :: seen)

/-- `clock` is when an id is loaded: a batch loads none twice. -/
def prefetchBatch (decisions : List PrefetchDecision) (clock : String → Rat) :
    StoreM β η (Dict String Prefetched) := do
  let (results, _) ← decisions.foldlM (prefetchDecision clock) (.empty, [])
  return results

/-! ## What a batch loads -/

section

variable {self : UnifiedObjectStore (MemoryBackend Bytes) η}

/-- What the store answers for an id under a prefetch type. -/
def answers (self : UnifiedObjectStore (MemoryBackend Bytes) η) (objectId prefetchType : String)
    (now : Rat) : Except PyError (Option Prefetched) :=
  EStateResult.outcome (prefetchOne objectId prefetchType now self)

omit [PyRuntime] [Serializer Bytes] in
private theorem wrapped_run {τ : Type} {action : StoreM (MemoryBackend Bytes) η (Option τ)}
    (reads : ∃ answer, action self = raising answer self) (wrap : τ → Prefetched) :
    (do return (← action).map wrap : StoreM (MemoryBackend Bytes) η (Option Prefetched)) self =
      raising (EStateResult.outcome
        ((do return (← action).map wrap : StoreM (MemoryBackend Bytes) η _) self)) self := by
  obtain ⟨answer, run⟩ := reads
  rw [bind_run, run]
  cases answer <;> rfl

/-- Loading changes nothing. -/
theorem prefetchOne_run (objectId prefetchType : String) (now : Rat) :
    prefetchOne objectId prefetchType now self =
      raising (self.answers objectId prefetchType now) self := by
  unfold answers prefetchOne
  split
  · exact wrapped_run ⟨_, get_eq self .kvCache objectId now⟩ _
  · exact wrapped_run ⟨_, get_eq self .rag objectId now⟩ _
  · exact wrapped_run ⟨_, get_eq self .semanticCache objectId now⟩ _
  · exact wrapped_run ⟨_, get_eq self .toolCallArtifact objectId now⟩ _
  · exact wrapped_run ⟨_, get_eq self .planCache objectId now⟩ _
  · rfl

/-- What is answered is of the type it was asked under. -/
theorem answers_type {objectId prefetchType : String} {now : Rat} {found : Prefetched}
    (answered : self.answers objectId prefetchType now = .ok (some found)) :
    found.prefetchType = prefetchType := by
  have typed : ∀ {τ : Type} {action : StoreM (MemoryBackend Bytes) η (Option τ)}
      {wrap : τ → Prefetched}, EStateResult.outcome
        ((do return (← action).map wrap : StoreM (MemoryBackend Bytes) η _) self) =
          .ok (some found) → ∃ inner, found = wrap inner := by
    intro τ action wrap answered
    rw [bind_run] at answered
    cases done : action self with
    | error e s => rw [done] at answered; cases answered
    | ok value s =>
        rw [done] at answered
        obtain ⟨inner, -, same⟩ := Option.map_eq_some_iff.mp (Except.ok.inj answered)
        exact ⟨inner, same.symm⟩
  unfold answers prefetchOne at answered
  split at answered
  · obtain ⟨inner, rfl⟩ := typed answered
    rfl
  · obtain ⟨inner, rfl⟩ := typed answered
    rfl
  · obtain ⟨inner, rfl⟩ := typed answered
    rfl
  · obtain ⟨inner, rfl⟩ := typed answered
    rfl
  · obtain ⟨inner, rfl⟩ := typed answered
    rfl
  · cases answered

/-- The type an id is first named with. -/
def firstType (decisions : List PrefetchDecision) (objectId : String) : Option String :=
  (decisions.find? fun decision => decision.objectId = objectId).map
    PrefetchDecision.prefetchType

/-- What a batch loads for an id. -/
def loaded (self : UnifiedObjectStore (MemoryBackend Bytes) η) (decisions : List PrefetchDecision)
    (clock : String → Rat) (objectId : String) : Except PyError (Option Prefetched) :=
  if objectId = "" then .ok none
  else match firstType decisions objectId with
    | none => .ok none
    | some prefetchType => self.answers objectId prefetchType (clock objectId)

omit [PyRuntime] [Serializer Bytes] [StorageBackend (EStateM PyError β) Bytes] in
theorem firstType_append (done rest : List PrefetchDecision) (objectId : String) :
    firstType (done ++ rest) objectId =
      (firstType done objectId).or (firstType rest objectId) := by
  rw [firstType, List.find?_append, Option.map_or]
  rfl

omit [PyRuntime] [Serializer Bytes] [StorageBackend (EStateM PyError β) Bytes] in
theorem firstType_isSome (decisions : List PrefetchDecision) (objectId : String) :
    (firstType decisions objectId).isSome ↔
      ∃ decision ∈ decisions, decision.objectId = objectId := by
  rw [firstType, Option.isSome_map, List.find?_isSome]
  simp

/-- Later decisions change nothing for an id that was named. -/
theorem loaded_append {done : List PrefetchDecision} {objectId : String}
    (named : ∃ decision ∈ done, decision.objectId = objectId) (rest : List PrefetchDecision)
    (clock : String → Rat) :
    self.loaded (done ++ rest) clock objectId = self.loaded done clock objectId := by
  obtain ⟨prefetchType, first⟩ := Option.isSome_iff_exists.mp
    ((firstType_isSome done objectId).mpr named)
  rw [loaded, loaded, firstType_append, first, Option.some_or]

theorem loaded_unnamed {decisions : List PrefetchDecision} {objectId : String}
    (unnamed : ¬ ∃ decision ∈ decisions, decision.objectId = objectId) (clock : String → Rat) :
    self.loaded decisions clock objectId = .ok none := by
  rw [← firstType_isSome, Option.not_isSome_iff_eq_none] at unnamed
  rw [loaded, unnamed, ite_self]

/-- The loop after some decisions: what was loaded, and which ids were seen. -/
structure Loading (store : UnifiedObjectStore (MemoryBackend Bytes) η)
    (done : List PrefetchDecision) (clock : String → Rat) (results : Dict String Prefetched)
    (seen : List String) : Prop where
  seen : ∀ objectId, objectId ∈ seen ↔
    objectId ≠ "" ∧ ∃ decision ∈ done, decision.objectId = objectId
  results : ∀ objectId, store.loaded done clock objectId = .ok (results.get? objectId)

omit [PyRuntime] in
private theorem named_concat (done : List PrefetchDecision) (decision : PrefetchDecision)
    (objectId : String) : (∃ d ∈ done ++ [decision], d.objectId = objectId) ↔
      (∃ d ∈ done, d.objectId = objectId) ∨ decision.objectId = objectId := by
  simp only [List.mem_append, List.mem_singleton, or_and_right, exists_or, exists_eq_left]

section

variable {done : List PrefetchDecision} {clock : String → Rat} {results : Dict String Prefetched}
  {seen : List String}

/-- What one decision adds: its id is seen, and nothing is loaded for any other. -/
private theorem Loading.extend (loading : self.Loading done clock results seen)
    {decision : PrefetchDecision} {results' : Dict String Prefetched} {seen' : List String}
    (sees : ∀ objectId, objectId ∈ seen' ↔
      objectId ∈ seen ∨ objectId ≠ "" ∧ decision.objectId = objectId)
    (others : ∀ objectId, objectId ≠ decision.objectId →
      results'.get? objectId = results.get? objectId)
    (here : self.loaded (done ++ [decision]) clock decision.objectId =
      .ok (results'.get? decision.objectId)) :
    self.Loading (done ++ [decision]) clock results' seen' := by
  constructor
  · intro objectId
    rw [sees, loading.seen, named_concat, and_or_left]
  · intro objectId
    by_cases same : objectId = decision.objectId
    · rw [same]
      exact here
    · rw [others objectId same, ← loading.results]
      by_cases named : ∃ earlier ∈ done, earlier.objectId = objectId
      · exact loaded_append named _ clock
      · rw [loaded_unnamed named, loaded_unnamed]
        rw [named_concat]
        exact fun either => either.elim named fun here => same here.symm

theorem Loading.step (loading : self.Loading done clock results seen)
    (decision : PrefetchDecision) :
    (∃ results' seen',
      prefetchDecision clock (results, seen) decision self = .ok (results', seen') self ∧
      self.Loading (done ++ [decision]) clock results' seen') ∨
    ∃ e, prefetchDecision clock (results, seen) decision self = .error e self ∧
      self.loaded (done ++ [decision]) clock decision.objectId = .error e := by
  by_cases skipped : decision.objectId = "" ∨ decision.objectId ∈ seen
  · refine Or.inl ⟨results, seen, by simp only [prefetchDecision, if_pos skipped]; rfl, ?_⟩
    refine loading.extend (fun objectId => ?_) (fun _ _ => rfl) ?_
    · constructor
      · exact Or.inl
      · rintro (before | ⟨nonempty, rfl⟩)
        · exact before
        · exact skipped.resolve_left nonempty
    · rw [← loading.results]
      rcases skipped with empty | before
      · rw [loaded, loaded, if_pos empty, if_pos empty]
      · exact loaded_append ((loading.seen _).mp before).2 _ clock
  · obtain ⟨nonempty, unseen⟩ := not_or.mp skipped
    have unnamed : ¬ ∃ earlier ∈ done, earlier.objectId = decision.objectId :=
      fun named => unseen ((loading.seen _).mpr ⟨nonempty, named⟩)
    have asks : self.loaded (done ++ [decision]) clock decision.objectId =
        self.answers decision.objectId decision.prefetchType (clock decision.objectId) := by
      have before : firstType done decision.objectId = none := by
        rw [← Option.not_isSome_iff_eq_none, firstType_isSome]
        exact unnamed
      have here : firstType [decision] decision.objectId = some decision.prefetchType := by
        simp [firstType]
      rw [loaded, if_neg nonempty, firstType_append, before, Option.none_or, here]
    have nothing : results.get? decision.objectId = none := by
      have loaded := loading.results decision.objectId
      rw [loaded_unnamed unnamed] at loaded
      exact (Except.ok.inj loaded).symm
    have sees : ∀ objectId, objectId ∈ decision.objectId :: seen ↔
        objectId ∈ seen ∨ objectId ≠ "" ∧ decision.objectId = objectId := by
      intro objectId
      rw [List.mem_cons]
      constructor
      · rintro (rfl | before)
        · exact Or.inr ⟨nonempty, rfl⟩
        · exact Or.inl before
      · rintro (before | ⟨-, rfl⟩)
        · exact Or.inr before
        · exact Or.inl rfl
    have run : prefetchDecision clock (results, seen) decision self =
        match self.answers decision.objectId decision.prefetchType (clock decision.objectId) with
        | .error e => .error e self
        | .ok none => .ok (results, decision.objectId :: seen) self
        | .ok (some result) =>
            .ok (results.set decision.objectId result, decision.objectId :: seen) self := by
      simp only [prefetchDecision, if_neg skipped, bind_run, prefetchOne_run]
      rcases self.answers decision.objectId decision.prefetchType (clock decision.objectId) with
        e | (_ | result) <;> rfl
    rw [run, asks]
    rcases answered : self.answers decision.objectId decision.prefetchType
        (clock decision.objectId) with e | (_ | result)
    · exact Or.inr ⟨e, rfl, rfl⟩
    · refine Or.inl ⟨results, decision.objectId :: seen, rfl, ?_⟩
      refine loading.extend sees (fun _ _ => rfl) ?_
      rw [asks, answered, nothing]
    · refine Or.inl ⟨results.set decision.objectId result, decision.objectId :: seen, rfl, ?_⟩
      refine loading.extend sees (fun objectId other => ?_) ?_
      · rw [Dict.get?_set, if_neg (Ne.symm other)]
      · rw [asks, answered, Dict.get?_set, if_pos rfl]

/-- The loop loads every id it meets, or raises what loading one of them raises. -/
theorem Loading.run (loading : self.Loading done clock results seen)
    (rest : List PrefetchDecision) :
    (∃ results' seen',
      rest.foldlM (prefetchDecision clock) (results, seen) self = .ok (results', seen') self ∧
      self.Loading (done ++ rest) clock results' seen') ∨
    ∃ e, rest.foldlM (prefetchDecision clock) (results, seen) self = .error e self ∧
      ∃ objectId, self.loaded (done ++ rest) clock objectId = .error e := by
  induction rest generalizing done results seen with
  | nil =>
      rw [List.append_nil]
      exact Or.inl ⟨results, seen, rfl, loading⟩
  | cons decision rest ih =>
      rw [List.foldlM_cons, bind_run, ← List.singleton_append, ← List.append_assoc]
      rcases loading.step decision with ⟨results', seen', done', next⟩ | ⟨e, raised, error⟩
      · rw [done']
        exact ih next
      · rw [raised]
        refine Or.inr ⟨e, rfl, decision.objectId, ?_⟩
        rw [loaded_append ⟨decision, by simp, rfl⟩, error]

end

/-- A batch maps each id to what was loaded for it, or raises what loading an id raises. -/
theorem prefetchBatch_run (self : UnifiedObjectStore (MemoryBackend Bytes) η)
    (decisions : List PrefetchDecision) (clock : String → Rat) :
    (∃ results, prefetchBatch decisions clock self = .ok results self ∧
      ∀ objectId, self.loaded decisions clock objectId = .ok (results.get? objectId)) ∨
    ∃ e, prefetchBatch decisions clock self = .error e self ∧
      ∃ objectId, self.loaded decisions clock objectId = .error e := by
  have start : self.Loading [] clock .empty [] := by
    constructor
    · simp
    · intro objectId
      rw [loaded_unnamed (by simp), Dict.get?_empty]
  rw [prefetchBatch, bind_run]
  rcases start.run decisions with ⟨results, seen, done, loading⟩ | ⟨e, raised, error⟩
  · rw [done]
    exact Or.inl ⟨results, rfl, loading.results⟩
  · rw [raised]
    exact Or.inr ⟨e, rfl, error⟩

end

end UnifiedObjectStore

end IntelliL3
