import Mathlib.Data.List.Dedup
import IntelliL3.Agent.PlanCache
import IntelliL3.Core.Reference
import IntelliL3.Lib.Maintains
import IntelliL3.Metadata.IndexSearch

/-! # What a plan search answers

Matches of the index are looked up in the store one by one: what is gone is taken
out of the index, what asks for other tools or constraints is passed over. Others
may delete plans from the store between the calls of a manager.
-/

namespace IntelliL3

open Lib

namespace PlanCacheManager

open CacheSession UnifiedObjectStore

/-! ## Normalized tools -/

theorem mem_normalizeTools {tool : String} {tools : List String} :
    tool ∈ normalizeTools tools ↔ tool ≠ "" ∧ ∃ given ∈ tools, strip given = tool := by
  rw [normalizeTools, (sorted_perm _).mem_iff, List.mem_dedup, List.mem_filter, List.mem_map,
    decide_eq_true_eq, and_comm]

/-- Order, duplicates, blanks and surrounding spaces do not count. -/
theorem normalizeTools_eq_iff {tools others : List String} :
    normalizeTools tools = normalizeTools others ↔
      ∀ tool, tool ∈ normalizeTools tools ↔ tool ∈ normalizeTools others := by
  refine ⟨fun same tool => by rw [same], fun same => ?_⟩
  refine (sorted_eq_iff _ _).mpr ((List.perm_ext_iff_of_nodup (List.nodup_dedup _)
    (List.nodup_dedup _)).mpr fun tool => ?_)
  have here := same tool
  rw [normalizeTools, normalizeTools, (sorted_perm _).mem_iff, (sorted_perm _).mem_iff] at here
  exact here

/-- Normalizing again changes nothing. -/
theorem normalizeTools_idem (tools : List String) :
    normalizeTools (normalizeTools tools) = normalizeTools tools := by
  refine normalizeTools_eq_iff.mpr fun tool => ?_
  rw [mem_normalizeTools]
  constructor
  · rintro ⟨-, given, normal, rfl⟩
    obtain ⟨named, tool, member, rfl⟩ := mem_normalizeTools.mp normal
    rw [strip_strip]
    exact mem_normalizeTools.mpr ⟨named, tool, member, rfl⟩
  · intro normal
    obtain ⟨named, given, -, same⟩ := mem_normalizeTools.mp normal
    exact ⟨named, tool, normal, by rw [← same, strip_strip]⟩

end PlanCacheManager

/-! ## Calls, also by others -/

/-- A call of the manager, or a deletion by another user of the store. -/
inductive PlanEvent where
  | call (c : PlanCall)
  | validate (planId : String) (requiredTools : List String) (constraints : Dict String String)
      (entry : Option PlanCacheEntry) (clock : Rat)
  | adapt (planId : String) (currentContext : Dict String String) (clock : Rat)
  | foreignDelete (planId : String)

namespace PlanCacheManager

open CacheSession UnifiedObjectStore

variable {β η : Type}

/-- What holds of the manager's index. -/
def Indexed (I : HNSWIndex η → Prop) (s : CacheSession β η (PlanCacheManager η)) : Prop :=
  I s.cache.index

variable {I : HNSWIndex η → Prop}

theorem onStore_maintains {α : Type} (action : StoreM β η α) :
    Maintains (Indexed I) (onStore action : CacheM β η (PlanCacheManager η) α) :=
  Maintains.zoom fun _ held => held

theorem onIndex_maintains {α : Type} {action : EStateM PyError (HNSWIndex η) α}
    (keep : Maintains I action) :
    Maintains (Indexed I) (onIndex action : CacheM β η (PlanCacheManager η) α) := by
  intro s held
  have next := keep s.cache.index held
  rw [onIndex_run]
  cases ran : action s.cache.index <;> rw [ran] at next <;> exact next

/-- Counting leaves the index alone. -/
theorem counting_maintains {f : PlanCacheManager η → PlanCacheManager η}
    (same : ∀ self, (f self).index = self.index) :
    Maintains (Indexed I) (onCache (modify f) : CacheM β η (PlanCacheManager η) PUnit) :=
  Maintains.zoom fun s held => by
    change I (f s.cache).index
    rw [same]
    exact held

variable {Bytes : Type} [StorageBackend (EStateM PyError β) Bytes] [PyRuntime]
  [Serializer Bytes] [Hnswlib η]

def serve : PlanEvent → CacheM β η (PlanCacheManager η) Unit
  | .call c => do let _ ← exec c
  | .validate planId requiredTools constraints entry clock => do
      let _ ← validatePlan planId requiredTools constraints entry clock
  | .adapt planId currentContext clock => do let _ ← adaptPlan planId currentContext clock
  | .foreignDelete planId => do let _ ← onStore (deletePlanCacheEntry planId)

/-! ## What the index keeps -/

omit [Hnswlib η] in
theorem validatePlan_maintains (planId : String) (requiredTools : List String)
    (constraints : Dict String String) (entry : Option PlanCacheEntry) (clock : Rat) :
    Maintains (Indexed I) (validatePlan planId requiredTools constraints entry clock :
      CacheM β η (PlanCacheManager η) Bool) := by
  unfold validatePlan
  refine Maintains.bind (counting_maintains fun _ => rfl) fun _ => ?_
  rcases entry with _ | entry
  on_goal 1 =>
    refine Maintains.bind (Maintains.bind (onStore_maintains _) fun _ => .pure _) fun loaded => ?_
  on_goal 2 => refine Maintains.bind (.pure (some entry)) fun loaded => ?_
  all_goals
    cases loaded with
    | none => exact Maintains.bind (counting_maintains fun _ => rfl) fun _ => .pure _
    | some entry =>
        simp only
        split
        · exact Maintains.bind (counting_maintains fun _ => rfl) fun _ => .pure _
        · exact .pure _

section

variable (removed : ∀ planId, Maintains I (HNSWIndex.remove planId))

include removed

theorem searchSimilarPlans_maintains (taskDescription : String) (topK : Int)
    (requiredTools : List String) (constraints : Dict String String) (threshold : Option Rat)
    (clock : Rat) :
    Maintains (Indexed I) (searchSimilarPlans taskDescription topK requiredTools constraints
      threshold clock : CacheM β η (PlanCacheManager η) (List PlanCacheCandidate)) := by
  have collected : ∀ candidates found, Maintains (Indexed I)
      (collectCandidate (normalizeTools requiredTools) constraints clock candidates found :
        CacheM β η (PlanCacheManager η) (List PlanCacheCandidate)) := by
    intro candidates found
    refine Maintains.bind (onStore_maintains _) fun loaded => ?_
    cases loaded with
    | none => exact Maintains.bind (onIndex_maintains (removed _)) fun _ => .pure _
    | some plan =>
        refine Maintains.bind (validatePlan_maintains _ _ _ _ _) fun valid => ?_
        cases valid <;> exact .pure _
  unfold searchSimilarPlans
  split
  · exact .pure _
  split
  · exact .throw _
  refine Maintains.bind (counting_maintains fun _ => rfl) fun _ => Maintains.bind_get fun s _ => ?_
  refine Maintains.bind (.raising _) fun found => Maintains.bind (.foldlM collected found [])
    fun candidates => ?_
  simp only
  split
  · exact Maintains.bind (counting_maintains fun _ => rfl) fun _ => .pure _
  · exact .pure _

theorem deletePlan_maintains (planId : String) (clock : Rat) :
    Maintains (Indexed I) (deletePlan planId clock : CacheM β η (PlanCacheManager η) Bool) := by
  unfold deletePlan
  refine Maintains.bind (onStore_maintains _) fun known =>
    Maintains.bind (onIndex_maintains (removed planId)) fun unindexed => ?_
  have settled : ∀ erased : Bool, Maintains (Indexed I) (if (unindexed || erased) = true then do
        onCache (modify fun self => { self with deleted := self.deleted + 1 })
        return unindexed || erased
      else return unindexed || erased : CacheM β η (PlanCacheManager η) Bool) := by
    intro erased
    split
    · exact Maintains.bind (counting_maintains fun _ => rfl) fun _ => .pure _
    · exact .pure _
  simp only
  split
  · exact Maintains.bind (onStore_maintains _) settled
  · exact Maintains.bind (.pure _) settled

variable (added : ∀ planId embedding, Maintains I (HNSWIndex.add planId embedding))

include added

theorem serve_maintains (event : PlanEvent) :
    Maintains (Indexed I) (serve event : CacheM β η (PlanCacheManager η) Unit) := by
  cases event with
  | call c =>
      refine Maintains.bind ?_ fun _ => .pure _
      cases c with
      | put taskDescription planTemplate tools constraints validityScope planId uuid clock =>
          refine Maintains.bind ?_ fun _ => .pure _
          unfold putPlan
          split
          · exact .throw _
          split
          · exact .throw _
          exact Maintains.bind_get fun _ _ => Maintains.bind (onStore_maintains _) fun _ =>
            Maintains.bind (onIndex_maintains (added _ _)) fun _ =>
            Maintains.bind (counting_maintains fun _ => rfl) fun _ => .pure _
      | search taskDescription topK requiredTools constraints threshold clock =>
          exact Maintains.bind (searchSimilarPlans_maintains removed taskDescription topK
            requiredTools constraints threshold clock) fun _ => .pure _
      | record planId success clock =>
          refine Maintains.bind (Maintains.bind (onStore_maintains _) fun loaded => ?_) fun _ =>
            .pure _
          cases loaded with
          | none => exact .pure _
          | some plan =>
              exact Maintains.bind (onIndex_maintains (removed planId)) fun _ =>
                Maintains.bind (onStore_maintains _) fun _ =>
                Maintains.bind (onIndex_maintains (added _ _)) fun _ => .pure _
      | delete planId clock =>
          exact Maintains.bind (deletePlan_maintains removed planId clock) fun _ => .pure _
  | validate planId requiredTools constraints entry clock =>
      exact Maintains.bind (validatePlan_maintains planId requiredTools constraints entry clock)
        fun _ => .pure _
  | adapt planId currentContext clock =>
      refine Maintains.bind (Maintains.bind (onStore_maintains _) fun loaded => ?_) fun _ =>
        .pure _
      cases loaded <;> exact .pure _
  | foreignDelete => exact Maintains.bind (onStore_maintains _) fun _ => .pure _

end

/-- A manager is built with an index that was new, and to which only additions were made. -/
theorem new_indexed {dimension maxElements : Int}
    (fresh : ∀ index, HNSWIndex.new dimension maxElements = .ok index → I index)
    (added : ∀ planId embedding, Maintains I (HNSWIndex.add planId embedding))
    {embed : String → NdArray} {similarityThreshold clock : Rat}
    {store store' : UnifiedObjectStore β η} {manager : PlanCacheManager η}
    (built : new embed dimension similarityThreshold maxElements clock store =
      .ok manager store') : I manager.index := by
  unfold new at built
  split at built
  · next inRange =>
      obtain ⟨index, opened, indexed, builds⟩ := bind_run_ok.mp built
      obtain ⟨isNew, unchanged⟩ := raising_eq_ok.mp indexed
      subst opened
      have loads : ∀ planId, Maintains (Indexed I)
          (loadPlan clock planId : CacheM β η (PlanCacheManager η) Unit) := by
        intro planId
        refine Maintains.bind (onStore_maintains _) fun loaded => ?_
        cases loaded with
        | none => exact .pure _
        | some plan => exact onIndex_maintains (added planId plan.2)
      have loaded : Maintains (Indexed I)
          (loadExistingPlans clock : CacheM β η (PlanCacheManager η) Unit) :=
        Maintains.bind (onStore_maintains _) fun planIds s held => forM_keeps loads planIds held
      have kept := loaded
        ⟨store, ⟨embed, similarityThreshold, index, 0, 0, 0, 0, 0, 0, inRange⟩⟩ (fresh index isNew)
      rw [building] at builds
      split at builds
      · next ran =>
          rw [ran] at kept
          cases builds
          exact kept
      · cases builds
  · cases built

/-! ## What a search finds in the store -/

section

variable [ReadableBackend β Bytes]

/-- What the store answers for a plan. -/
def planAt (store : UnifiedObjectStore β η) (planId : String) (clock : Rat) :
    Option (PlanCacheEntry × NdArray) :=
  EStateResult.found (getPlanCacheEntry planId clock store)

def candidateOf (found : String × Rat) (entry : PlanCacheEntry) : PlanCacheCandidate where
  planId := found.1
  planTemplate := entry.planTemplate
  similarity := found.2
  requiredTools := entry.requiredTools
  constraints := entry.constraints

/-- The candidate a match becomes, when its plan is there and meets the request. -/
def candidateFrom (store : UnifiedObjectStore β η) (required : List String)
    (constraints : Dict String String) (clock : Rat) (found : String × Rat) :
    Option PlanCacheCandidate :=
  (planAt store found.1 clock).bind fun plan =>
    if meetsContext plan.1 required constraints then some (candidateOf found plan.1) else none

variable {s s' : CacheSession β η (PlanCacheManager η)}

omit [Hnswlib η] in
/-- Reading a plan leaves everything as it was. -/
theorem onStore_get (planId : String) (clock : Rat) (s : CacheSession β η (PlanCacheManager η)) :
    onStore (getPlanCacheEntry planId clock) s =
      raising (EStateResult.outcome (getPlanCacheEntry planId clock s.store)) s := by
  have pure := get_eq s.store .planCache planId clock
  change getPlanCacheEntry planId clock s.store = raising _ s.store at pure
  rw [onStore, zoom_run, pure]
  generalize (if s.store.metadata.mightExist planId = true then _ else _ : Except PyError _) =
    result
  cases result <;> rfl

omit [Hnswlib η] in
theorem onStore_get_ok {planId : String} {clock : Rat}
    {plan : Option (PlanCacheEntry × NdArray)}
    (answered : onStore (getPlanCacheEntry planId clock) s = .ok plan s') :
    s' = s ∧ planAt s.store planId clock = plan := by
  rw [onStore_get] at answered
  obtain ⟨outcome, unchanged⟩ := raising_eq_ok.mp answered
  exact ⟨unchanged, by rw [planAt, EStateResult.found, outcome]; rfl⟩

/-- A match whose plan is gone leaves the index; any other may become a candidate. -/
theorem collectCandidate_ok {required : List String} {constraints : Dict String String}
    {clock : Rat} {candidates candidates' : List PlanCacheCandidate} {found : String × Rat}
    (done : collectCandidate required constraints clock candidates found s = .ok candidates' s') :
    s'.store = s.store ∧
      candidates' = candidates ++
        (candidateFrom s.store (normalizeTools required) constraints clock found).toList ∧
      (planAt s.store found.1 clock = none → s'.cache.index.objectToId.get? found.1 = none) ∧
      ∀ planId, s.cache.index.objectToId.get? planId = none →
        s'.cache.index.objectToId.get? planId = none := by
  rw [collectCandidate] at done
  obtain ⟨loaded, m, answered, done⟩ := bind_run_ok.mp done
  obtain ⟨unchanged, there⟩ := onStore_get_ok answered
  subst m
  rw [candidateFrom, there]
  cases loaded with
  | none =>
      obtain ⟨known, m, dropped, done⟩ := bind_run_ok.mp done
      cases done
      rw [onIndex_run] at dropped
      cases removed : HNSWIndex.remove found.1 s.cache.index with
      | error e index =>
          rw [removed] at dropped
          cases dropped
      | ok known' index =>
          rw [removed] at dropped
          cases dropped
          rcases HNSWIndex.remove_ok removed with ⟨unknown, rfl⟩ | ⟨label, index', -, -, rfl⟩
          · exact ⟨rfl, (List.append_nil _).symm, fun _ => unknown, fun _ absent => absent⟩
          · have erased : ∀ planId, (s.cache.index.objectToId.erase found.1).get? planId =
                if found.1 = planId then none else s.cache.index.objectToId.get? planId :=
              fun planId => Dict.get?_erase _ _ _
            refine ⟨rfl, (List.append_nil _).symm, fun _ => (erased _).trans (if_pos rfl),
              fun planId absent => (erased planId).trans ?_⟩
            rw [absent, ite_self]
  | some plan =>
      obtain ⟨counted, checked, store, index⟩ :=
        validatePlan_run found.1 required constraints plan.1 clock s
      simp only [bind_run, checked] at done
      rw [Option.bind_some]
      split at done
      · next meets =>
          cases done
          rw [if_pos meets]
          exact ⟨store, rfl, fun gone => (by cases gone), fun planId absent => index ▸ absent⟩
      · next differs =>
          cases done
          rw [if_neg differs]
          exact ⟨store, (List.append_nil _).symm, fun gone => (by cases gone),
            fun planId absent => index ▸ absent⟩

/-- The matches are gone through in their order. -/
theorem collect_ok {required : List String} {constraints : Dict String String} {clock : Rat}
    {found : List (String × Rat)} {candidates candidates' : List PlanCacheCandidate}
    (done : found.foldlM (collectCandidate required constraints clock) candidates s =
      .ok candidates' s') :
    s'.store = s.store ∧
      candidates' = candidates ++
        found.filterMap (candidateFrom s.store (normalizeTools required) constraints clock) ∧
      (∀ hit ∈ found, planAt s.store hit.1 clock = none →
        s'.cache.index.objectToId.get? hit.1 = none) ∧
      ∀ planId, s.cache.index.objectToId.get? planId = none →
        s'.cache.index.objectToId.get? planId = none := by
  induction found generalizing candidates s with
  | nil =>
      cases done
      exact ⟨rfl, (List.append_nil _).symm, fun _ member => absurd member List.not_mem_nil,
        fun _ absent => absent⟩
  | cons hit rest ih =>
      rw [List.foldlM_cons] at done
      obtain ⟨middle, m, first, done⟩ := bind_run_ok.mp done
      obtain ⟨store, grown, gone, kept⟩ := collectCandidate_ok first
      obtain ⟨store', grown', gone', kept'⟩ := ih done
      rw [store] at store' grown' gone'
      refine ⟨store', ?_, fun other member absent => ?_, fun planId absent =>
        kept' planId (kept planId absent)⟩
      · rw [grown', grown, List.append_assoc, List.filterMap_cons]
        cases candidateFrom s.store (normalizeTools required) constraints clock hit <;> rfl
      · rcases List.mem_cons.mp member with rfl | later
        · exact kept' _ (gone absent)
        · exact gone' other later absent

/-- A search that returns has asked the index, and read every match in the store. -/
theorem searchSimilarPlans_ok {taskDescription : String} {topK : Int}
    {requiredTools : List String} {constraints : Dict String String} {threshold : Option Rat}
    {clock : Rat} {candidates : List PlanCacheCandidate}
    (done : searchSimilarPlans taskDescription topK requiredTools constraints threshold clock s =
      .ok candidates s') :
    ∃ found, s.cache.index.search (s.cache.embed taskDescription) topK
        (threshold.getD s.cache.threshold) = .ok found ∧
      s'.store = s.store ∧
      candidates =
        found.filterMap (candidateFrom s.store (normalizeTools requiredTools) constraints clock) ∧
      ∀ hit ∈ found, planAt s.store hit.1 clock = none →
        s'.cache.index.objectToId.get? hit.1 = none := by
  unfold searchSimilarPlans at done
  split at done
  · next noneAsked =>
      cases done
      refine ⟨[], ?_, rfl, rfl, fun _ member => absurd member List.not_mem_nil⟩
      rw [HNSWIndex.search, if_pos (Or.inl noneAsked)]
  split at done
  · cases done
  obtain ⟨_, m, counted, done⟩ := bind_run_ok.mp done
  cases counted
  obtain ⟨self, m, read, done⟩ := bind_run_ok.mp done
  cases read
  obtain ⟨found, m, asked, done⟩ := bind_run_ok.mp done
  obtain ⟨found', unchanged⟩ := raising_eq_ok.mp asked
  subst m
  obtain ⟨candidates', m, collected, done⟩ := bind_run_ok.mp done
  obtain ⟨store, same, gone, -⟩ := collect_ok collected
  rw [normalizeTools_idem] at same
  refine ⟨found, found', ?_⟩
  split at done <;> cases done <;> exact ⟨store, same, gone⟩

omit [Hnswlib η] [ReadableBackend β Bytes] in
theorem candidateFrom_eq_some {store : UnifiedObjectStore β η} {required : List String}
    {constraints : Dict String String} {clock : Rat} {found : String × Rat}
    {candidate : PlanCacheCandidate}
    (there : candidateFrom store required constraints clock found = some candidate) :
    ∃ plan, planAt store found.1 clock = some plan ∧
      meetsContext plan.1 required constraints = true ∧ candidate = candidateOf found plan.1 := by
  obtain ⟨plan, held, there⟩ := Option.bind_eq_some_iff.mp there
  split at there
  · next meets =>
      cases there
      exact ⟨plan, held, meets, rfl⟩
  · cases there

omit [StorageBackend (EStateM PyError β) Bytes] [PyRuntime] [Serializer Bytes] [Hnswlib η]
  [ReadableBackend β Bytes] in
theorem meetsContext_iff {entry : PlanCacheEntry} {required : List String}
    {constraints : Dict String String} :
    meetsContext entry required constraints = true ↔
      normalizeTools entry.requiredTools = required ∧
        ∀ key, entry.constraints.get? key = constraints.get? key := by
  rw [meetsContext, Bool.and_eq_true, decide_eq_true_eq, Dict.sameItems_iff]

/-- What a caller may rely on in the answer to a search. -/
structure SoundAnswer (store : UnifiedObjectStore β η) (topK : Int) (requiredTools : List String)
    (constraints : Dict String String) (threshold clock : Rat)
    (candidates : List PlanCacheCandidate) : Prop where
  atMost : candidates.length ≤ topK.toNat
  distinct : (candidates.map PlanCacheCandidate.planId).Nodup
  nearestFirst : candidates.Pairwise fun candidate later => later.similarity ≤ candidate.similarity
  reaches : ∀ candidate ∈ candidates, threshold ≤ candidate.similarity
  retrievable : ∀ candidate ∈ candidates, ∃ plan,
    EStateResult.outcome (getPlanCacheEntry candidate.planId clock store) = .ok (some plan) ∧
      plan.1.planTemplate = candidate.planTemplate ∧
      plan.1.requiredTools = candidate.requiredTools ∧
      plan.1.constraints = candidate.constraints
  tools : ∀ candidate ∈ candidates,
    normalizeTools candidate.requiredTools = normalizeTools requiredTools
  named : ∀ candidate ∈ candidates, ∀ tool, tool ≠ "" →
    ((∃ given ∈ candidate.requiredTools, strip given = tool) ↔
      ∃ given ∈ requiredTools, strip given = tool)
  constrained : ∀ candidate ∈ candidates, ∀ key,
    candidate.constraints.get? key = constraints.get? key

omit [Hnswlib η] [ReadableBackend β Bytes] in
/-- Candidates come from sound matches, in their order. -/
theorem soundAnswer {store : UnifiedObjectStore β η} {topK : Int} {requiredTools : List String}
    {constraints : Dict String String} {threshold clock : Rat} {found : List (String × Rat)}
    (atMost : found.length ≤ topK.toNat) (distinct : (found.map Prod.fst).Nodup)
    (nearestFirst : found.Pairwise fun hit later => later.2 ≤ hit.2)
    (reaches : ∀ hit ∈ found, threshold ≤ hit.2) :
    SoundAnswer store topK requiredTools constraints threshold clock
      (found.filterMap (candidateFrom store (normalizeTools requiredTools) constraints clock)) := by
  have origin : ∀ {hit candidate},
      candidateFrom store (normalizeTools requiredTools) constraints clock hit = some candidate →
        candidate.planId = hit.1 ∧ candidate.similarity = hit.2 := by
    intro hit candidate there
    obtain ⟨plan, -, -, rfl⟩ := candidateFrom_eq_some there
    exact ⟨rfl, rfl⟩
  constructor
  case atMost => exact (List.length_filterMap_le _ _).trans atMost
  case distinct =>
    refine List.pairwise_map.mpr ((List.pairwise_map.mp distinct).filterMap _ ?_)
    intro hit later differ candidate here candidate' there same
    exact differ ((origin here).1.symm.trans (same.trans (origin there).1))
  case nearestFirst =>
    refine nearestFirst.filterMap _ ?_
    intro hit later nearer candidate here candidate' there
    rw [(origin here).2, (origin there).2]
    exact nearer
  all_goals
    intro candidate member
    obtain ⟨hit, listed, there⟩ := List.mem_filterMap.mp member
    obtain ⟨plan, held, meets, rfl⟩ := candidateFrom_eq_some there
    obtain ⟨tools, same⟩ := meetsContext_iff.mp meets
  case reaches => exact reaches hit listed
  case retrievable => exact ⟨plan, EStateResult.found_eq_some_iff.mp held, rfl, rfl, rfl⟩
  case tools => exact tools
  case named =>
    intro tool nonempty
    have same : tool ∈ normalizeTools plan.1.requiredTools ↔
        tool ∈ normalizeTools requiredTools := by rw [tools]
    simpa only [mem_normalizeTools, nonempty, ne_eq, not_false_eq_true, true_and,
      candidateOf] using same
  case constrained => exact same

end

end PlanCacheManager

open PlanCacheManager UnifiedObjectStore

/-- In every state of a manager over a store that others delete from, a search that returns
    gives a sound answer, and has dropped from the index the matches that are gone. -/
theorem plan_search_sound {β η Bytes : Type} [StorageBackend (EStateM PyError β) Bytes]
    [ReadableBackend β Bytes] [PyRuntime] [Serializer Bytes] [Hnswlib η] (ranks : RanksRows η)
    {embed : String → NdArray} {dimension maxElements : Int} {similarityThreshold built : Rat}
    {store store' : UnifiedObjectStore β η} {manager : PlanCacheManager η}
    (builds : PlanCacheManager.new embed dimension similarityThreshold maxElements built store =
      .ok manager store')
    (events : List PlanEvent) (taskDescription : String) (topK : Int)
    (requiredTools : List String) (constraints : Dict String String) (threshold : Option Rat)
    (clock : Rat) {candidates : List PlanCacheCandidate}
    {s' : CacheSession β η (PlanCacheManager η)}
    (answers : searchSimilarPlans taskDescription topK requiredTools constraints threshold clock
      (drive serve ⟨store', manager⟩ events) = .ok candidates s') :
    let s := drive serve ⟨store', manager⟩ events
    SoundAnswer s'.store topK requiredTools constraints (threshold.getD s.cache.threshold) clock
        candidates ∧
      ∃ found, s.cache.index.search (s.cache.embed taskDescription) topK
          (threshold.getD s.cache.threshold) = .ok found ∧
        ∀ hit ∈ found,
          EStateResult.outcome (getPlanCacheEntry hit.1 clock s.store) = .ok none →
            s'.cache.index.objectToId.get? hit.1 = none ∧
              ∀ label, s'.cache.index.idToObject.get? label ≠ some hit.1 := by
  intro s
  have added : ∀ planId embedding, Maintains HNSWIndex.Unambiguous
      (HNSWIndex.add planId embedding : EStateM PyError (HNSWIndex η) Unit) :=
    fun planId embedding _ unambiguous => unambiguous.add planId embedding
  have removed : ∀ planId, Maintains HNSWIndex.Unambiguous
      (HNSWIndex.remove planId : EStateM PyError (HNSWIndex η) Bool) :=
    fun planId _ unambiguous => unambiguous.remove planId
  have start := new_indexed (fun _ => HNSWIndex.Unambiguous.new) added builds
  have unambiguous : HNSWIndex.Unambiguous s.cache.index :=
    drive_invariant (I := Indexed HNSWIndex.Unambiguous)
      (fun s event _ => serve_maintains removed added event s) start
  have later : HNSWIndex.Unambiguous s'.cache.index := by
    have kept := searchSimilarPlans_maintains removed taskDescription topK requiredTools
      constraints threshold clock s unambiguous
    rw [answers] at kept
    exact kept
  obtain ⟨found, asked, unchanged, rfl, gone⟩ := searchSimilarPlans_ok answers
  obtain ⟨atMost, distinct, nearestFirst, reaches⟩ := HNSWIndex.search_sound ranks unambiguous asked
  rw [unchanged]
  refine ⟨soundAnswer atMost distinct nearestFirst reaches, found, asked,
    fun hit member missing => ?_⟩
  have absent := gone hit member (by rw [planAt, EStateResult.found, missing]; rfl)
  refine ⟨absent, fun label held => ?_⟩
  rw [← later.inverse, absent] at held
  cases held

section

open Reference

/-- The rows of the exhaustive index are ranked. -/
theorem Reference.FlatIndex.ranksRows : RanksRows FlatIndex := by
  intro self query k rows answered
  simp only [Hnswlib.knnQuery] at answered
  split at answered
  · cases answered
  · split at answered
    · cases answered
    · cases answered
      have perm : (self.ranked query).Perm (self.distances query) := List.perm_insertionSort _ _
      have labels : ((self.distances query).map Prod.fst).Nodup := by
        refine List.pairwise_map.mpr ((List.pairwise_map.mp self.rows.distinct).filterMap _ ?_)
        intro row later differ found here found' there same
        obtain ⟨vector, -, rfl⟩ := Option.map_eq_some_iff.mp here
        obtain ⟨vector', -, rfl⟩ := Option.map_eq_some_iff.mp there
        exact differ same
      refine ⟨?_, (List.pairwise_insertionSort _ _).take⟩
      rw [List.map_take]
      exact ((perm.map Prod.fst).nodup_iff.mpr labels).take

/-- An empty plan index of two dimensions. -/
def plansIndex : HNSWIndex FlatIndex where
  dim := 2
  maxElements := 2
  index := Hnswlib.initIndex 2 2
  idToObject := .empty
  objectToId := .empty
  freeIds := []
  nextId := 0
  dimPositive := Nat.zero_lt_two
  capacityPositive := Nat.zero_lt_two

theorem threeQuarters_inRange : (0 : Rat) ≤ 3 / 4 ∧ (3 / 4 : Rat) ≤ 1 := by decide +kernel

/-- Tasks about sorting are embedded in one direction, all others in another. -/
def embedTask (task : String) : NdArray :=
  if task = "sort" then array [1, 0] else array [4 / 5, 3 / 5]

def plansManager : PlanCacheManager FlatIndex :=
  ⟨embedTask, 3 / 4, plansIndex, 0, 0, 0, 0, 0, 0, threeQuarters_inRange⟩

theorem plansManager_built :
    PlanCacheManager.new embedTask 2 (3 / 4) 2 0 Reference.store =
      .ok plansManager Reference.store :=
  new_blank (MetadataStore.new_fresh new_metadata).1 _ threeQuarters_inRange rfl 0

/-- Two plans are put, and others delete the first. -/
def oneDeleted : List PlanEvent :=
  [.call (.put "sort" "1. sort" ["sort"] .empty .sessionScope "p" "u" 0),
    .call (.put "arrange" "1. compare" [" sort ", "sort"] .empty .sessionScope "q" "v" 0),
    .foreignDelete "p"]

theorem plan_search_sound_one_deleted : ∃ candidates s',
    searchSimilarPlans "sort" 5 ["sort", ""] .empty none 1
        (drive serve ⟨Reference.store, plansManager⟩ oneDeleted) = .ok candidates s' ∧
      SoundAnswer s'.store 5 ["sort", ""] .empty (3 / 4) 1 candidates ∧
      candidates.map PlanCacheCandidate.planId = ["q"] := by
  have returned : (EStateResult.outcome (searchSimilarPlans "sort" 5 ["sort", ""] .empty none 1
      (drive serve ⟨Reference.store, plansManager⟩ oneDeleted))).toOption.map
        (List.map PlanCacheCandidate.planId) = some ["q"] := by decide +kernel
  obtain ⟨candidates, s', answers, found⟩ := EStateResult.exists_answer returned
  exact ⟨candidates, s', answers, (plan_search_sound FlatIndex.ranksRows plansManager_built
    oneDeleted "sort" 5 ["sort", ""] .empty none 1 answers).1, found⟩

end

end IntelliL3
