import IntelliL3.Agent.PlanStore
import IntelliL3.Core.Reference
import IntelliL3.Metadata.IndexedVectors

/-! # The plan index and the plan store

`PlanCacheManager` writes a plan first and indexes it then, and takes a recorded
plan out of the index before it writes it again. What fails in between leaves
one side with a plan the other does not have.
-/

namespace IntelliL3

open Lib

namespace PlanCacheManager

open CacheSession UnifiedObjectStore

variable {η Bytes : Type} [PyRuntime] [Serializer Bytes] [Hnswlib η]

section

variable [HnswlibStores η]

/-- The index knows exactly the plans the store answers, each with its stored embedding. -/
structure PlansInStep (s : CacheSession (FaultyBackend Bytes) η (PlanCacheManager η)) : Prop where
  ids : ∀ planId clock, s.cache.index.objectToId.contains planId = true ↔
    ∃ plan, EStateResult.outcome (getPlanCacheEntry planId clock s.store) = .ok (some plan)
  vectors : ∀ planId clock plan,
    EStateResult.outcome (getPlanCacheEntry planId clock s.store) = .ok (some plan) →
      s.cache.index.vectorOf planId = some plan.2.asFloat32

end

omit [Hnswlib η] in
/-- A call that leaves the index and the store in step: a plan that is stored fits into the
    index, and no first write of a recorded plan fails. -/
def KeepsInStep (s : CacheSession (FaultyBackend Bytes) η (PlanCacheManager η)) :
    PlanCall → Prop
  | .put taskDescription planTemplate _ _ _ _ _ _ =>
      let embedding := s.cache.embed taskDescription
      strip taskDescription = "" ∨ strip planTemplate = "" ∨ embedding.shape = [] ∨
        s.store.backend.FailsFirst ∨ s.store.backend.FailsSecond ∨
        s.cache.index.isFull = false ∧ embedding.IsRow s.cache.index.dim
  | .record planId _ clock =>
      (∀ plan, EStateResult.outcome (getPlanCacheEntry planId clock s.store) ≠ .ok (some plan)) ∨
        ¬ s.store.backend.FailsFirst
  | .search .. | .delete .. => True

/-- The ids drawn by the `put_plan` calls of a history. -/
def drawnIds (calls : List PlanCall) : List String :=
  calls.filterMap fun
    | .put _ _ _ _ _ planId _ _ => some planId
    | _ => none

/-- The vectors of an index that holds exactly these plans. -/
def vectorsOf (live : String → Option (PlanCacheEntry × NdArray)) (planId : String) :
    Option (List Rat) :=
  (live planId).map fun plan => plan.2.asFloat32

@[simp] theorem isSome_vectorsOf (live : String → Option (PlanCacheEntry × NdArray))
    (planId : String) : (vectorsOf live planId).isSome = (live planId).isSome :=
  Option.isSome_map

theorem vectorsOf_update (live : String → Option (PlanCacheEntry × NdArray)) (planId : String)
    (plan : Option (PlanCacheEntry × NdArray)) :
    vectorsOf (Function.update live planId plan) =
      Function.update (vectorsOf live) planId (plan.map fun plan => plan.2.asFloat32) := by
  funext other
  by_cases here : other = planId
  · subst here
    simp only [vectorsOf, Function.update_self]
  · simp only [vectorsOf, Function.update_of_ne here]

/-- The index holds exactly the embeddings of these plans. -/
structure IndexesPlans [LawfulHnswlib η] (index : HNSWIndex η)
    (live : String → Option (PlanCacheEntry × NdArray)) : Prop where
  mirrors : index.Mirrors (vectorsOf live)
  fits : index.InStep
  named : ∀ planId plan, live planId = some plan →
    plan.1.planId = planId ∧ plan.2.IsRow index.dim

namespace IndexesPlans

variable [LawfulHnswlib η] {index index' : HNSWIndex η}
  {live : String → Option (PlanCacheEntry × NdArray)}

omit [Serializer Bytes] in
theorem new {dim maxElements : Int} (built : HNSWIndex.new dim maxElements = .ok index) :
    IndexesPlans index fun _ => none :=
  ⟨.new built, .new built, fun _ _ found => (by cases found)⟩

theorem removed (indexes : IndexesPlans index live) {planId : String} {known : Bool}
    (done : HNSWIndex.remove planId index = .ok known index') :
    IndexesPlans index' (Function.update live planId none) where
  mirrors := by
    rw [vectorsOf_update]
    exact indexes.mirrors.remove done
  fits := indexes.fits.remove done
  named other plan found := by
    rw [(HNSWIndex.remove_keeps done).1]
    by_cases here : other = planId
    · subst here
      rw [Function.update_self] at found
      cases found
    · rw [Function.update_of_ne here] at found
      exact indexes.named other plan found

theorem added (indexes : IndexesPlans index live) {planId : String}
    {entry : PlanCacheEntry} {embedding : NdArray} (fresh : live planId = none)
    (named : entry.planId = planId) (row : embedding.IsRow index.dim)
    (done : HNSWIndex.add planId embedding index = .ok () index') :
    IndexesPlans index' (Function.update live planId (some (entry, embedding))) where
  mirrors := by
    have absent : vectorsOf live planId = none := by rw [vectorsOf, fresh, Option.map_none]
    have mirrors := indexes.mirrors.add done
    rw [absent, Option.getD_none] at mirrors
    rw [vectorsOf_update]
    exact mirrors
  fits := indexes.fits.add indexes.mirrors.consistent done
  named other plan' found := by
    rw [(HNSWIndex.add_keeps done).1]
    by_cases here : other = planId
    · subst here
      rw [Function.update_self] at found
      cases found
      exact ⟨named, row⟩
    · rw [Function.update_of_ne here] at found
      exact indexes.named other plan' found

theorem unknown (indexes : IndexesPlans index live) {planId : String}
    (absent : live planId = none) : index.objectToId.contains planId = false := by
  rw [indexes.mirrors.known, isSome_vectorsOf, absent, Option.isSome_none]

/-- A plan that was taken out of the index fits in again with its own embedding. -/
theorem replaced (indexes : IndexesPlans index live) (marks : MarksDeleted η) {planId : String}
    {plan : PlanCacheEntry × NdArray} (found : live planId = some plan) :
    ∃ known removed, HNSWIndex.remove planId index = .ok known removed ∧
      IndexesPlans removed (Function.update live planId none) ∧
      ∃ index', HNSWIndex.add planId plan.2 removed = .ok () index' ∧
        ∀ entry : PlanCacheEntry, entry.planId = planId →
          IndexesPlans index' (Function.update live planId (some (entry, plan.2))) := by
  obtain ⟨removed, done, room⟩ := indexes.mirrors.remove_accepted marks planId
  have without := indexes.removed done
  have held : (vectorsOf live planId).isSome = true := by
    rw [isSome_vectorsOf, found, Option.isSome_some]
  have fitting : plan.2.IsRow removed.dim := by
    rw [(HNSWIndex.remove_keeps done).1]
    exact (indexes.named planId plan found).2
  obtain ⟨index', indexed⟩ := without.fits.add_accepted without.mirrors planId fitting (room held)
  refine ⟨_, removed, done, without, index', indexed, fun entry named => ?_⟩
  have again := without.added (Function.update_self planId none live) named fitting indexed
  rwa [Function.update_idem] at again

end IndexesPlans

/-! ## The states the calls leave -/

section

variable {s : CacheSession (FaultyBackend Bytes) η (PlanCacheManager η)}

variable {taskDescription planTemplate : String} {tools : List String}
  {constraints : Dict String String} {validityScope : ArtifactScope} {planId uuid : String}
  {clock : Rat}

/-- A put with a blank text is refused. -/
theorem putPlan_blank (blank : strip taskDescription = "" ∨ strip planTemplate = "") :
    EStateResult.state (putPlan taskDescription planTemplate tools constraints validityScope
      planId uuid clock s) = s := by
  unfold putPlan
  by_cases noTask : strip taskDescription = ""
  · rw [if_pos noTask]
    rfl
  · rw [if_neg noTask, if_pos (blank.resolve_left noTask)]
    rfl

variable (task : strip taskDescription ≠ "") (template : strip planTemplate ≠ "")

include task template

theorem putPlan_unstored {e : PyError} {store : UnifiedObjectStore (FaultyBackend Bytes) η}
    (refused : putPlanCacheEntry (entryFor planTemplate tools constraints validityScope planId uuid
      clock) (s.cache.embed taskDescription) s.store = .error e store) :
    EStateResult.state (putPlan taskDescription planTemplate tools constraints validityScope
      planId uuid clock s) = { s with store } := by
  rw [putPlan, if_neg task, if_neg template, bind_run, get_run]
  exact congrArg EStateResult.state (bind_error (onStore_error refused) _)

theorem putPlan_unindexed {e : PyError} {store : UnifiedObjectStore (FaultyBackend Bytes) η}
    {index : HNSWIndex η}
    (stored : putPlanCacheEntry (entryFor planTemplate tools constraints validityScope planId uuid
      clock) (s.cache.embed taskDescription) s.store = .ok planId store)
    (refused : HNSWIndex.add planId (s.cache.embed taskDescription) s.cache.index =
      .error e index) :
    EStateResult.state (putPlan taskDescription planTemplate tools constraints validityScope
      planId uuid clock s) = ⟨store, { s.cache with index }⟩ := by
  rw [putPlan, if_neg task, if_neg template, bind_run, get_run]
  simp only [bind_run, onStore_ok stored, onIndex_run, refused, EStateResult.state_error]

theorem putPlan_indexed {store : UnifiedObjectStore (FaultyBackend Bytes) η} {index : HNSWIndex η}
    (stored : putPlanCacheEntry (entryFor planTemplate tools constraints validityScope planId uuid
      clock) (s.cache.embed taskDescription) s.store = .ok planId store)
    (indexed : HNSWIndex.add planId (s.cache.embed taskDescription) s.cache.index =
      .ok () index) :
    EStateResult.state (putPlan taskDescription planTemplate tools constraints validityScope
      planId uuid clock s) = ⟨store, { s.cache with index, puts := s.cache.puts + 1 }⟩ := by
  rw [putPlan, if_neg task, if_neg template, bind_run, get_run]
  simp only [bind_run, onStore_ok stored, onIndex_run, indexed]
  rfl

end

section

variable {s : CacheSession (FaultyBackend Bytes) η (PlanCacheManager η)} {planId : String}
  {clock : Rat}

theorem recordPlanResult_unknown
    (unknown : getPlanCacheEntry planId clock s.store = .ok none s.store) (success : Bool) :
    EStateResult.state (recordPlanResult planId success clock s) = s := by
  rw [recordPlanResult, bind_run, onStore_ok unknown]
  rfl

variable {plan : PlanCacheEntry × NdArray} {known : Bool} {index : HNSWIndex η} {success : Bool}
  (answered : getPlanCacheEntry planId clock s.store = .ok (some plan) s.store)
  (removed : HNSWIndex.remove planId s.cache.index = .ok known index)

include answered removed

theorem recordPlanResult_unstored {e : PyError} {store : UnifiedObjectStore (FaultyBackend Bytes) η}
    (refused : putPlanCacheEntry (counted plan.1 success) plan.2 s.store = .error e store) :
    EStateResult.state (recordPlanResult planId success clock s) =
      ⟨store, { s.cache with index }⟩ := by
  let dropped : CacheSession (FaultyBackend Bytes) η (PlanCacheManager η) :=
    { s with cache := { s.cache with index } }
  have answers : onStore (getPlanCacheEntry planId clock) s = .ok (some plan) s :=
    onStore_ok answered
  have removes : onIndex (HNSWIndex.remove planId) s = .ok known dropped := by
    rw [onIndex_run, removed]
  have raises : onStore (putPlanCacheEntry (counted plan.1 success) plan.2) dropped =
      .error e { dropped with store } := onStore_error refused
  simp only [recordPlanResult, bind_run, answers, removes, raises, EStateResult.state_error]
  rfl

theorem recordPlanResult_indexed {stored : String}
    {store : UnifiedObjectStore (FaultyBackend Bytes) η} {index' : HNSWIndex η}
    (written : putPlanCacheEntry (counted plan.1 success) plan.2 s.store = .ok stored store)
    (indexed : HNSWIndex.add planId plan.2 index = .ok () index') :
    EStateResult.state (recordPlanResult planId success clock s) =
      ⟨store, { s.cache with index := index' }⟩ := by
  let dropped : CacheSession (FaultyBackend Bytes) η (PlanCacheManager η) :=
    { s with cache := { s.cache with index } }
  have answers : onStore (getPlanCacheEntry planId clock) s = .ok (some plan) s :=
    onStore_ok answered
  have removes : onIndex (HNSWIndex.remove planId) s = .ok known dropped := by
    rw [onIndex_run, removed]
  have stores : onStore (putPlanCacheEntry (counted plan.1 success) plan.2) dropped =
      .ok stored { dropped with store } := onStore_ok written
  have indexes : onIndex (HNSWIndex.add planId plan.2) { dropped with store } =
      .ok () ⟨store, { s.cache with index := index' }⟩ := by
    rw [onIndex_run, indexed]
  simp only [recordPlanResult, bind_run, answers, removes, stores, indexes]
  rfl

end

/-! ## What a call leaves in step -/

section

variable [LawfulSerializer Bytes] [LawfulHnswlib η]
  {s : CacheSession (FaultyBackend Bytes) η (PlanCacheManager η)}
  {live : String → Option (PlanCacheEntry × NdArray)}

/-- Store and index hold the same plans. -/
structure Follows (s : CacheSession (FaultyBackend Bytes) η (PlanCacheManager η))
    (live : String → Option (PlanCacheEntry × NdArray)) : Prop where
  stored : s.store.KeepsPlans live
  indexed : IndexesPlans s.cache.index live

theorem Follows.inStep (follows : Follows s live) : PlansInStep s where
  ids planId clock := by
    rw [follows.indexed.mirrors.known, follows.stored.get planId clock, vectorsOf,
      Option.isSome_map, EStateResult.outcome_ok]
    cases live planId with
    | none => simp only [Option.isSome_none, Bool.false_eq_true, Option.map_none, Except.ok.injEq,
        reduceCtorEq, exists_false]
    | some plan => simp only [Option.isSome_some, Option.map_some, Except.ok.injEq,
        Option.some.injEq, exists_eq']
  vectors planId clock plan answered := by
    rw [follows.stored.get planId clock, EStateResult.outcome_ok, Except.ok.injEq] at answered
    obtain ⟨stored, found, rfl⟩ := Option.map_eq_some_iff.mp answered
    rw [follows.indexed.mirrors.stored, vectorsOf, found, Option.map_some]

/-- A plan that is stored and not indexed. -/
theorem not_inStep (keeps : s.store.KeepsPlans live) {planId : String}
    (stored : (live planId).isSome) (unindexed : s.cache.index.objectToId.contains planId = false) :
    ¬ PlansInStep s := by
  intro inStep
  obtain ⟨plan, held⟩ := Option.isSome_iff_exists.mp stored
  have known := (inStep.ids planId 0).mpr ⟨_, by
    rw [keeps.get planId 0, held, Option.map_some, EStateResult.outcome_ok]⟩
  rw [unindexed] at known
  cases known

/-- A new plan either leaves both sides in step, or is stored and not indexed. -/
theorem putPlan_step (follows : Follows s live) {planId : String} (fresh : live planId = none)
    (taskDescription planTemplate : String) (tools : List String)
    (constraints : Dict String String) (validityScope : ArtifactScope) (uuid : String)
    (clock : Rat) :
    let c := PlanCall.put taskDescription planTemplate tools constraints validityScope planId uuid
      clock
    let left := EStateResult.state (putPlan taskDescription planTemplate tools constraints
      validityScope planId uuid clock s)
    (KeepsInStep s c ∧ ∃ live', Follows left live' ∧
      ∀ other, other ≠ planId → live' other = live other) ∨
      (¬ KeepsInStep s c ∧ ¬ PlansInStep left) := by
  intro c left
  by_cases blank : strip taskDescription = "" ∨ strip planTemplate = ""
  · refine Or.inl ⟨blank.imp_right Or.inl, live, ?_, fun _ _ => rfl⟩
    rw [show left = s from putPlan_blank blank]
    exact follows
  obtain ⟨task, template⟩ := not_or.mp blank
  let embedding := s.cache.embed taskDescription
  let entry := entryFor planTemplate tools constraints validityScope planId uuid clock
  by_cases axes : embedding.shape = []
  · obtain ⟨e, refused⟩ := putPlanCacheEntry_noAxes s.store entry axes
    refine Or.inl ⟨Or.inr (Or.inr (Or.inl axes)), live, ?_, fun _ _ => rfl⟩
    rw [show left = s from putPlan_unstored task template refused]
    exact follows
  obtain ⟨stamped, stamping⟩ := entry.stamp_ok axes
  by_cases first : s.store.backend.FailsFirst
  · obtain ⟨e, store, refused, keeps⟩ := follows.stored.put_failsFirst stamping first
    refine Or.inl ⟨Or.inr (Or.inr (Or.inr (Or.inl first))), live, ?_, fun _ _ => rfl⟩
    rw [show left = { s with store } from putPlan_unstored task template refused]
    exact ⟨keeps, follows.indexed⟩
  by_cases second : s.store.backend.FailsSecond
  · obtain ⟨e, store, refused, keeps⟩ := follows.stored.put_failsSecond stamping second
    have unchanged : Function.update live planId none = live := by
      rw [← fresh, Function.update_eq_self]
    refine Or.inl ⟨Or.inr (Or.inr (Or.inr (Or.inr (Or.inl second)))), live, ?_, fun _ _ => rfl⟩
    rw [show left = { s with store } from putPlan_unstored task template refused]
    exact ⟨unchanged ▸ keeps, follows.indexed⟩
  obtain ⟨store, stored, keeps⟩ := follows.stored.put_writes stamping first second
  by_cases fits : s.cache.index.isFull = false ∧ embedding.IsRow s.cache.index.dim
  · obtain ⟨index, indexed⟩ := follows.indexed.fits.add_accepted follows.indexed.mirrors planId
      fits.2 fits.1
    refine Or.inl ⟨Or.inr (Or.inr (Or.inr (Or.inr (Or.inr fits)))),
      Function.update live planId (some (stamped, embedding)), ?_,
      fun other apart => Function.update_of_ne apart _ _⟩
    rw [show left = _ from putPlan_indexed task template stored indexed]
    exact ⟨keeps, follows.indexed.added fresh (PlanCacheEntry.stamp_planId stamping) fits.2 indexed⟩
  · have unknown := follows.indexed.unknown fresh
    refine Or.inr ⟨?_, ?_⟩
    · rintro (noTask | noTemplate | noAxes | fails | fails | fitting)
      · exact task noTask
      · exact template noTemplate
      · exact axes noAxes
      · exact first fails
      · exact second fails
      · exact fits fitting
    · obtain ⟨e, refused⟩ := HNSWIndex.add_refused unknown fits
      rw [show left = _ from putPlan_unindexed task template stored refused]
      have held : (Function.update live planId (some (stamped, embedding)) planId).isSome := by
        rw [Function.update_self]
        rfl
      exact not_inStep keeps held unknown

omit [PyRuntime] in
/-- No plan comes from forgetting one. -/
theorem forgotten_absent (planId : String) {other : String} (absent : live other = none) :
    Function.update live planId none other = none := by
  by_cases here : other = planId
  · rw [here, Function.update_self]
  · rw [Function.update_of_ne here]
    exact absent

omit [PyRuntime] [LawfulSerializer Bytes] in
theorem counted_planId (entry : PlanCacheEntry) (success : Bool) :
    (counted entry success).planId = entry.planId := by
  cases success <;> rfl

/-- A recorded plan is lost to the index alone when the first write of it fails. -/
theorem recordPlanResult_step (follows : Follows s live) (marks : MarksDeleted η)
    (planId : String) (success : Bool) (clock : Rat) :
    let c := PlanCall.record planId success clock
    let left := EStateResult.state (recordPlanResult planId success clock s)
    (KeepsInStep s c ∧ ∃ live', Follows left live' ∧
      ∀ other, live other = none → live' other = none) ∨
      (¬ KeepsInStep s c ∧ ¬ PlansInStep left) := by
  intro c left
  have answer := follows.stored.get planId clock
  cases found : live planId with
  | none =>
      rw [found, Option.map_none] at answer
      refine Or.inl ⟨Or.inl fun plan => ?_, live, ?_, fun _ absent => absent⟩
      · rw [answer]
        rintro ⟨⟩
      · rw [show left = s from recordPlanResult_unknown answer success]
        exact follows
  | some plan =>
      rw [found, Option.map_some] at answer
      obtain ⟨named, row⟩ := follows.indexed.named planId plan found
      obtain ⟨known, index, removed, without, index', indexed, again⟩ :=
        follows.indexed.replaced marks found
      let touched := { plan.1 with objMeta := plan.1.objMeta.touch clock }
      have sameId : (counted touched success).planId = planId :=
        (counted_planId touched success).trans named
      obtain ⟨stamped, stamping⟩ := (counted touched success).stamp_ok row.hasAxes
      by_cases first : s.store.backend.FailsFirst
      · obtain ⟨e, store, refused, keeps⟩ := follows.stored.put_failsFirst stamping first
        refine Or.inr ⟨?_, ?_⟩
        · rintro (unanswered | writes)
          · exact unanswered _ (by rw [answer]; rfl)
          · exact writes first
        · rw [show left = _ from recordPlanResult_unstored answer removed refused]
          exact not_inStep keeps (Option.isSome_of_eq_some found)
            (without.unknown (Function.update_self planId none live))
      refine Or.inl ⟨Or.inr first, ?_⟩
      by_cases second : s.store.backend.FailsSecond
      · obtain ⟨e, store, refused, keeps⟩ := follows.stored.put_failsSecond stamping second
        rw [sameId] at keeps
        refine ⟨Function.update live planId none, ?_, fun other absent => ?_⟩
        · rw [show left = _ from recordPlanResult_unstored answer removed refused]
          exact ⟨keeps, without⟩
        · exact forgotten_absent planId absent
      · obtain ⟨store, stored, keeps⟩ := follows.stored.put_writes stamping first second
        rw [sameId] at keeps
        have stampedId := (PlanCacheEntry.stamp_planId stamping).trans sameId
        refine ⟨Function.update live planId (some (stamped, plan.2)), ?_, fun other absent => ?_⟩
        · rw [show left = _ from recordPlanResult_indexed answer removed stored indexed]
          exact ⟨keeps, again stamped stampedId⟩
        · have apart : other ≠ planId := by
            rintro rfl
            rw [found] at absent
            cases absent
          rw [Function.update_of_ne apart]
          exact absent

/-- A deletion takes a plan out of both sides. -/
theorem deletePlan_step (follows : Follows s live) (marks : MarksDeleted η) (planId : String)
    (clock : Rat) :
    Follows (EStateResult.state (deletePlan planId clock s))
      (Function.update live planId none) := by
  have answer : onStore (getPlanCacheEntry planId clock) s = .ok _ s :=
    onStore_ok (follows.stored.get planId clock)
  obtain ⟨index, removed, -⟩ := follows.indexed.mirrors.remove_accepted marks planId
  have without := follows.indexed.removed removed
  have removes : onIndex (HNSWIndex.remove planId) s =
      .ok (vectorsOf live planId).isSome { s with cache := { s.cache with index } } := by
    rw [onIndex_run, removed]
  cases found : live planId with
  | none =>
      have absent : vectorsOf live planId = none := by rw [vectorsOf, found, Option.map_none]
      have unchanged : Function.update live planId none = live := by
        rw [← found, Function.update_eq_self]
      rw [found] at answer
      rw [absent] at removes
      simp only [deletePlan, bind_run, answer, removes, Option.map_none, Option.isSome_none,
        Bool.false_eq_true, if_false, pure_run, Bool.or_self]
      rw [unchanged] at without ⊢
      exact ⟨follows.stored, without⟩
  | some plan =>
      have held : vectorsOf live planId = some plan.2.asFloat32 := by
        rw [vectorsOf, found, Option.map_some]
      obtain ⟨store, erased, keeps⟩ := follows.stored.delete (Option.isSome_of_eq_some found)
      let dropped : CacheSession (FaultyBackend Bytes) η (PlanCacheManager η) :=
        { s with cache := { s.cache with index } }
      have erases : onStore (deletePlanCacheEntry planId) dropped =
          .ok true { dropped with store } := onStore_ok erased
      rw [found] at answer
      rw [held] at removes
      simp only [deletePlan, bind_run, answer, removes, Option.map_some, Option.isSome_some,
        if_true]
      rw [erases]
      exact ⟨keeps, without⟩

theorem collectCandidate_step (follows : Follows s live) (tools : List String)
    (constraints : Dict String String) (clock : Rat) (candidates : List PlanCacheCandidate)
    (match' : String × Rat) :
    ∃ candidates' s', collectCandidate tools constraints clock candidates match' s =
      .ok candidates' s' ∧ Follows s' live := by
  have answer : onStore (getPlanCacheEntry match'.1 clock) s = .ok _ s :=
    onStore_ok (follows.stored.get match'.1 clock)
  cases found : live match'.1 with
  | none =>
      have unknown : s.cache.index.objectToId.get? match'.1 = none := by
        rw [follows.indexed.mirrors.unknown_iff, vectorsOf, found, Option.map_none]
      have removes : onIndex (HNSWIndex.remove match'.1) s = .ok false s := by
        rw [onIndex_run, HNSWIndex.remove_unknown unknown]
      rw [found] at answer
      refine ⟨candidates, s, ?_, follows⟩
      simp only [collectCandidate, bind_run, answer, Option.map_none, removes, pure_run]
  | some plan =>
      rw [found] at answer
      obtain ⟨s', checked, store, index⟩ := validatePlan_run match'.1 tools constraints
        { plan.1 with objMeta := plan.1.objMeta.touch clock } clock s
      have later : Follows s' live := ⟨store ▸ follows.stored, index ▸ follows.indexed⟩
      simp only [collectCandidate, bind_run, answer, Option.map_some, checked]
      split
      · exact ⟨_, s', rfl, later⟩
      · exact ⟨candidates, s', rfl, later⟩

theorem searchSimilarPlans_step (follows : Follows s live) (taskDescription : String)
    (topK : Int) (requiredTools : List String) (constraints : Dict String String)
    (threshold : Option Rat) (clock : Rat) :
    Follows (EStateResult.state (searchSimilarPlans taskDescription topK requiredTools constraints
      threshold clock s)) live := by
  unfold searchSimilarPlans
  split
  · exact follows
  split
  · exact follows
  let counted : CacheSession (FaultyBackend Bytes) η (PlanCacheManager η) :=
    { s with cache := { s.cache with searches := s.cache.searches + 1 } }
  have unchanged : Follows counted live := ⟨follows.stored, follows.indexed⟩
  have counts : onCache (modify fun self : PlanCacheManager η =>
      { self with searches := self.searches + 1 }) s = .ok ⟨⟩ counted := rfl
  rw [bind_run, counts]
  simp only [bind_run, get_run]
  cases answered : counted.cache.index.search (counted.cache.embed taskDescription) topK
      (threshold.getD counted.cache.threshold) with
  | error e =>
      rw [raising_error]
      exact unchanged
  | ok matches' =>
      rw [raising_ok]
      obtain ⟨candidates, s', collected, later⟩ := foldlM_returns
        (fun candidates match' s held => collectCandidate_step held
          (normalizeTools requiredTools) constraints clock candidates match') matches' [] unchanged
      simp only [collected]
      cases candidates.isEmpty with
      | true => exact later
      | false => exact ⟨later.stored, later.indexed⟩

/-- A call leaves both sides in step exactly when it meets the condition. -/
theorem exec_step (follows : Follows s live) (marks : MarksDeleted η) (c : PlanCall)
    (fresh : ∀ planId ∈ drawnIds [c], live planId = none) :
    (KeepsInStep s c ∧ ∃ live', Follows (EStateResult.state (exec c s)) live' ∧
      ∀ other, live other = none → other ∉ drawnIds [c] → live' other = none) ∨
      (¬ KeepsInStep s c ∧ ¬ PlansInStep (EStateResult.state (exec c s))) := by
  cases c with
  | put taskDescription planTemplate tools constraints validityScope planId uuid clock =>
      rw [exec, EStateResult.state_wrapped]
      refine (putPlan_step follows (fresh planId List.mem_cons_self) taskDescription planTemplate
        tools constraints validityScope uuid clock).imp_left ?_
      rintro ⟨keeps, live', left, others⟩
      refine ⟨keeps, live', left, fun other absent undrawn => ?_⟩
      rw [others other fun same => undrawn (same ▸ List.mem_cons_self)]
      exact absent
  | record planId success clock =>
      rw [exec, EStateResult.state_wrapped]
      refine (recordPlanResult_step follows marks planId success clock).imp_left ?_
      rintro ⟨keeps, live', left, others⟩
      exact ⟨keeps, live', left, fun other absent _ => others other absent⟩
  | search taskDescription topK requiredTools constraints threshold clock =>
      rw [exec, EStateResult.state_wrapped]
      exact Or.inl ⟨trivial, live, searchSimilarPlans_step follows taskDescription topK
        requiredTools constraints threshold clock, fun _ absent _ => absent⟩
  | delete planId clock =>
      rw [exec, EStateResult.state_wrapped]
      refine Or.inl ⟨trivial, _, deletePlan_step follows marks planId clock,
        fun other absent _ => forgotten_absent planId absent⟩

end

end PlanCacheManager

open PlanCacheManager

/-- Index and store of a manager built over an empty store are in step after every call of a
    history exactly when every call of it meets the condition. -/
theorem plans_in_step_iff {η Bytes : Type} [PyRuntime] [Serializer Bytes] [LawfulSerializer Bytes]
    [Hnswlib η] [LawfulHnswlib η] (marks : MarksDeleted η) {expectedItems : Int} {fpRate : Rat}
    {embeddingDim : Option Int} {metadata : MetadataStore η}
    (fresh : MetadataStore.new expectedItems fpRate embeddingDim = .ok metadata)
    (config : L3Config) (faults : List (Option PyError)) {embed : String → NdArray}
    {dimension maxElements : Int} {similarityThreshold clock : Rat} {manager : PlanCacheManager η}
    {store : UnifiedObjectStore (FaultyBackend Bytes) η}
    (built : PlanCacheManager.new embed dimension similarityThreshold maxElements clock
      (.new { inner := .empty, faults } config metadata) = .ok manager store)
    (calls : List PlanCall) (distinct : (drawnIds calls).Nodup) :
    (∀ pre post, calls = pre ++ post →
        PlansInStep (drive PlanCacheManager.exec ⟨store, manager⟩ pre)) ↔
      ∀ pre c post, calls = pre ++ c :: post →
        KeepsInStep (drive PlanCacheManager.exec ⟨store, manager⟩ pre) c := by
  let Inv (s : CacheSession (FaultyBackend Bytes) η (PlanCacheManager η))
      (rest : List PlanCall) : Prop :=
    ∃ live, Follows s live ∧ (drawnIds rest).Nodup ∧ ∀ planId ∈ drawnIds rest, live planId = none
  have split : ∀ c rest, drawnIds (c :: rest) = drawnIds [c] ++ drawnIds rest := fun c rest =>
    List.filterMap_append (l := [c])
  have step : ∀ s c rest, Inv s (c :: rest) →
      (KeepsInStep s c ∧ Inv (EStateResult.state (PlanCacheManager.exec c s)) rest) ∨
        (¬ KeepsInStep s c ∧ ¬ PlansInStep (EStateResult.state (PlanCacheManager.exec c s))) := by
    rintro s c rest ⟨live, follows, distinct, absent⟩
    rw [split] at distinct absent
    obtain ⟨-, later, apart⟩ := List.nodup_append.mp distinct
    refine (exec_step follows marks c fun planId drawn =>
      absent planId (List.mem_append_left _ drawn)).imp_left ?_
    rintro ⟨keeps, live', left, others⟩
    exact ⟨keeps, live', left, later, fun planId drawn => others planId
      (absent planId (List.mem_append_right _ drawn)) fun now => apart planId now planId drawn rfl⟩
  have start : Inv ⟨store, manager⟩ calls := by
    obtain ⟨inRange, index, indexed⟩ := new_ok built
    rw [new_blank (MetadataStore.new_fresh fresh).1 embed inRange indexed] at built
    cases built
    exact ⟨fun _ => none, ⟨.empty config metadata faults, .new indexed⟩, distinct, fun _ _ => rfl⟩
  refine drive_all_reached_iff (fun s rest inv => ?_) (fun s c rest inv keeps => ?_)
    (fun s c rest inv loses => ?_) start
  · obtain ⟨live, follows, -⟩ := inv
    exact follows.inStep
  · exact ((step s c rest inv).resolve_right fun lost => lost.1 keeps).2
  · exact ((step s c rest inv).resolve_left fun kept => loses kept.1).2

section

open Reference

private def zeroIndex : HNSWIndex FlatIndex where
  dim := 1
  maxElements := 2
  index := Hnswlib.initIndex 1 2
  idToObject := .empty
  objectToId := .empty
  freeIds := []
  nextId := 0
  dimPositive := Nat.zero_lt_succ _
  capacityPositive := Nat.zero_lt_succ _

private theorem unitThreshold : (0 : Rat) ≤ 3 / 4 ∧ (3 / 4 : Rat) ≤ 1 := by decide +kernel

/-- A manager over an empty store whose third write fails. -/
private def thirdWriteFails : CacheSession (FaultyBackend Encoded) FlatIndex
    (PlanCacheManager FlatIndex) where
  store := .new { inner := .empty, faults := [none, none, some (.runtimeError "refused")] }
    .default metadata
  cache := ⟨fun _ => array [1], 3 / 4, zeroIndex, 0, 0, 0, 0, 0, 0, unitThreshold⟩

private theorem thirdWriteFails_built :
    PlanCacheManager.new (fun _ => array [1]) 1 (3 / 4) 2 0 thirdWriteFails.store =
      .ok thirdWriteFails.cache thirdWriteFails.store :=
  new_blank (MetadataStore.new_fresh new_metadata).1 _ unitThreshold rfl 0

/-- A plan is put, and its outcome recorded. -/
private def recordedPlan : List PlanCall :=
  [.put "sort a list" "1. sort" [] .empty .sessionScope "p" "u" 0, .record "p" true 0]

theorem plans_in_step_recorded :
    (∀ pre post, recordedPlan = pre ++ post →
        PlansInStep (drive PlanCacheManager.exec thirdWriteFails pre)) ↔
      ∀ pre c post, recordedPlan = pre ++ c :: post →
        KeepsInStep (drive PlanCacheManager.exec thirdWriteFails pre) c :=
  plans_in_step_iff FlatIndex.marksDeleted new_metadata .default _ thirdWriteFails_built
    recordedPlan (by decide)

/-- The plan is still stored, and no longer indexed. -/
theorem failed_record_unindexes_plan : ∃ manager store,
    PlanCacheManager.new (fun _ => array [1]) 1 (3 / 4) 2 0 thirdWriteFails.store =
      .ok manager store ∧
    ¬ PlansInStep (drive PlanCacheManager.exec ⟨store, manager⟩ recordedPlan) := by
  refine ⟨_, _, thirdWriteFails_built, ?_⟩
  intro (inStep : PlansInStep (drive PlanCacheManager.exec thirdWriteFails recordedPlan))
  have answered : (EStateResult.found (UnifiedObjectStore.getPlanCacheEntry "p" 0
      (drive PlanCacheManager.exec thirdWriteFails recordedPlan).store)).isSome = true := by
    decide +kernel
  have unindexed : (drive PlanCacheManager.exec thirdWriteFails
      recordedPlan).cache.index.objectToId.contains "p" = false := by decide +kernel
  obtain ⟨plan, found⟩ := Option.isSome_iff_exists.mp answered
  rw [(inStep.ids "p" 0).mpr ⟨plan, EStateResult.found_eq_some_iff.mp found⟩] at unindexed
  cases unindexed

end

end IntelliL3
