import IntelliL3.Agent.PlanIndex
import IntelliL3.Agent.PlanSearch

/-! # How complete a plan search is

The index is cut to the `top_k` most similar plans before a plan is asked for its
tools and constraints. What the cut leaves is best among the plans that match,
and lacks as many of them as others that do not match stand before them.
-/

namespace IntelliL3

open Lib

namespace PlanCacheManager

open CacheSession UnifiedObjectStore

variable {β η : Type}

/-- What a candidate answers of a plan. -/
def scoreOf (candidate : PlanCacheCandidate) : String × Rat :=
  (candidate.planId, candidate.similarity)

variable {Bytes : Type} [StorageBackend (EStateM PyError β) Bytes] [ReadableBackend β Bytes]
  [PyRuntime] [Serializer Bytes]

/-- The index holds the plans the store answers, with their embeddings. -/
structure PlansAgree [Hnswlib η] [HnswlibStores η]
    (s : CacheSession β η (PlanCacheManager η)) (clock : Rat) : Prop where
  ids : ∀ planId, s.cache.index.objectToId.contains planId = true ↔
    ∃ plan, EStateResult.outcome (getPlanCacheEntry planId clock s.store) = .ok (some plan)
  vectors : ∀ planId plan,
    EStateResult.outcome (getPlanCacheEntry planId clock s.store) = .ok (some plan) →
      s.cache.index.vectorOf planId = some plan.2.asFloat32

/-- Whether a plan reaches the threshold and has the requested tools and constraints. -/
def matchesRequest (store : UnifiedObjectStore β η) (requiredTools : List String)
    (constraints : Dict String String) (threshold clock : Rat) (plan : String × Rat) : Bool :=
  decide (threshold ≤ plan.2) && (planAt store plan.1 clock).any fun held =>
    meetsContext held.1 (normalizeTools requiredTools) constraints

/-- A query that raises: a blank task, or an embedding that the index does not take. -/
def Refuses (self : PlanCacheManager η) (taskDescription : String) : Prop :=
  strip taskDescription = "" ∨
    self.index.idToObject.size ≠ 0 ∧ ¬ (self.embed taskDescription).IsRow self.index.dim

/-- What a search leaves of the plans that match: those among the `k` most similar plans. -/
structure NearestMatches (k : Nat) (plans : List (String × Rat)) (wanted : String × Rat → Bool)
    (answer : List (String × Rat)) : Prop where
  cut : ∃ nearest, TopOf Prod.snd k plans nearest ∧ answer = nearest.filter wanted
  best : ∀ plan ∈ plans.filter wanted, plan ∉ answer → ∀ found ∈ answer, plan.2 ≤ found.2
  atMost : answer.length ≤ min k (plans.filter wanted).length
  atLeast : min (plans.filter wanted).length (k - (blockers Prod.snd wanted plans).length) ≤
    answer.length
  unblocked : blockers Prod.snd wanted plans = [] →
    TopOf Prod.snd k (plans.filter wanted) answer

omit [PyRuntime] in
theorem NearestMatches.of_cut {k : Nat} {plans nearest : List (String × Rat)}
    (distinct : plans.Nodup) (top : TopOf Prod.snd k plans nearest)
    (wanted : String × Rat → Bool) : NearestMatches k plans wanted (nearest.filter wanted) where
  cut := ⟨nearest, top, rfl⟩
  best := top.filter_best wanted
  atMost := top.filter_length_le wanted
  atLeast := top.le_filter_length wanted distinct
  unblocked := top.filter_top wanted distinct

/-! ## What becomes of the matches -/

omit [ReadableBackend β Bytes] in
/-- Candidates are the matches whose plan meets the request. -/
theorem candidates_scores (store : UnifiedObjectStore β η) (requiredTools : List String)
    (constraints : Dict String String) (threshold clock : Rat) (nearest : List (String × Rat)) :
    ((nearest.filter fun hit => decide (threshold ≤ hit.2)).filterMap
        (candidateFrom store (normalizeTools requiredTools) constraints clock)).map scoreOf =
      nearest.filter (matchesRequest store requiredTools constraints threshold clock) := by
  rw [List.map_filterMap, List.filterMap_filter, ← List.filterMap_eq_filter]
  refine List.filterMap_congr fun hit _ => ?_
  rw [candidateFrom, Option.guard, matchesRequest]
  by_cases reaches : threshold ≤ hit.2
  · simp only [reaches, decide_true, if_true, Bool.true_and]
    cases planAt store hit.1 clock with
    | none => rfl
    | some plan =>
        simp only [Option.bind_some, Option.any_some]
        split <;> rfl
  · simp only [reaches, decide_false, Bool.false_eq_true, if_false, Bool.false_and]

variable {s : CacheSession β η (PlanCacheManager η)}

omit [ReadableBackend β Bytes] in
theorem PlansAgree.held [Hnswlib η] [LawfulHnswlib η] {clock : Rat} (agree : PlansAgree s clock)
    {query : NdArray} {hit : String × Rat} (indexed : hit ∈ s.cache.index.scored query) :
    (planAt s.store hit.1 clock).isSome := by
  obtain ⟨vector, there, -⟩ := HNSWIndex.mem_scored.mp indexed
  obtain ⟨label, known, -⟩ := Option.bind_eq_some_iff.mp there
  obtain ⟨plan, answered⟩ := (agree.ids hit.1).mp (by rw [Dict.contains, known]; rfl)
  exact Option.isSome_of_eq_some (EStateResult.found_eq_some_iff.mpr answered)

theorem onStore_get_found {planId : String} {clock : Rat} {plan : PlanCacheEntry × NdArray}
    (held : planAt s.store planId clock = some plan) :
    onStore (getPlanCacheEntry planId clock) s = .ok (some plan) s := by
  rw [onStore_get, EStateResult.found_eq_some_iff.mp held, raising_ok]

variable [Hnswlib η]

/-- A match whose plan is there does not raise. -/
theorem collectCandidate_returns {required : List String} {constraints : Dict String String}
    {clock : Rat} {found : String × Rat} (held : (planAt s.store found.1 clock).isSome)
    (candidates : List PlanCacheCandidate) :
    ∃ candidates' s', collectCandidate required constraints clock candidates found s =
      .ok candidates' s' := by
  obtain ⟨plan, there⟩ := Option.isSome_iff_exists.mp held
  obtain ⟨s', checked, -⟩ := validatePlan_run found.1 required constraints plan.1 clock s
  simp only [collectCandidate, bind_run, onStore_get_found there, checked]
  split <;> exact ⟨_, s', rfl⟩

theorem collect_returns {required : List String} {constraints : Dict String String} {clock : Rat}
    {found : List (String × Rat)}
    (held : ∀ hit ∈ found, (planAt s.store hit.1 clock).isSome)
    (candidates : List PlanCacheCandidate) :
    ∃ candidates' s', found.foldlM (collectCandidate required constraints clock) candidates s =
      .ok candidates' s' := by
  induction found generalizing candidates s with
  | nil => exact ⟨candidates, s, rfl⟩
  | cons hit rest ih =>
      obtain ⟨middle, m, first⟩ := collectCandidate_returns (held hit List.mem_cons_self) candidates
      have unchanged := (collectCandidate_ok first).1
      rw [List.foldlM_cons, bind_run, first]
      exact ih (fun later member => unchanged ▸ held later (List.mem_cons_of_mem _ member)) middle

/-- A search whose matches are all there returns. -/
theorem searchSimilarPlans_returns {taskDescription : String} {topK : Int}
    {requiredTools : List String} {constraints : Dict String String} {threshold : Option Rat}
    {clock : Rat} (named : strip taskDescription ≠ "") {found : List (String × Rat)}
    (asked : s.cache.index.search (s.cache.embed taskDescription) topK
      (threshold.getD s.cache.threshold) = .ok found)
    (held : ∀ hit ∈ found, (planAt s.store hit.1 clock).isSome) :
    ∃ candidates s', searchSimilarPlans taskDescription topK requiredTools constraints threshold
      clock s = .ok candidates s' := by
  rw [searchSimilarPlans]
  by_cases noneAsked : topK ≤ 0
  · rw [if_pos noneAsked]
    exact ⟨[], s, rfl⟩
  rw [if_neg noneAsked, if_neg named]
  let counted : CacheSession β η (PlanCacheManager η) :=
    { s with cache := { s.cache with searches := s.cache.searches + 1 } }
  have collects : ∃ candidates s', found.foldlM (collectCandidate (normalizeTools requiredTools)
      constraints clock) [] counted = .ok candidates s' :=
    collect_returns (s := counted) held []
  obtain ⟨candidates, s', collected⟩ := collects
  have counts : onCache (modify fun self : PlanCacheManager η =>
      { self with searches := self.searches + 1 }) s = .ok ⟨⟩ counted := rfl
  have asks : counted.cache.index.search (counted.cache.embed taskDescription) topK
    (threshold.getD counted.cache.threshold) = .ok found := asked
  rw [bind_run, counts]
  simp only [bind_run, get_run, asks, raising_ok, collected]
  cases candidates.isEmpty <;> exact ⟨_, _, rfl⟩

omit [ReadableBackend β Bytes] in
theorem searchSimilarPlans_refused {taskDescription : String} {topK : Int} (asks : 1 ≤ topK)
    (refuses : s.cache.Refuses taskDescription) (requiredTools : List String)
    (constraints : Dict String String) (threshold : Option Rat) (clock : Rat) :
    ∃ message, EStateResult.outcome (searchSimilarPlans taskDescription topK requiredTools
      constraints threshold clock s) = .error (.valueError message) := by
  rw [searchSimilarPlans, if_neg (show ¬ topK ≤ 0 by omega)]
  by_cases blank : strip taskDescription = ""
  · rw [if_pos blank]
    exact ⟨_, rfl⟩
  obtain ⟨holds, unfit⟩ := refuses.resolve_left blank
  obtain ⟨message, raises⟩ := HNSWIndex.search_unfit holds unfit (show 0 < topK by omega)
    (threshold.getD s.cache.threshold)
  refine ⟨message, ?_⟩
  let counted : CacheSession β η (PlanCacheManager η) :=
    { s with cache := { s.cache with searches := s.cache.searches + 1 } }
  have counts : onCache (modify fun self : PlanCacheManager η =>
      { self with searches := self.searches + 1 }) s = .ok ⟨⟩ counted := rfl
  have asked : counted.cache.index.search (counted.cache.embed taskDescription) topK
    (threshold.getD counted.cache.threshold) = .error (.valueError message) := raises
  rw [if_neg blank, bind_run, counts]
  simp only [bind_run, get_run, asked, raising_error]
  rfl

/-! ## Calls among others -/

/-- A call of the manager, or any change of the store by others. -/
def serveAmong : PlanEvent ⊕ UnifiedObjectStore β η → CacheM β η (PlanCacheManager η) Unit
  | .inl event => serve event
  | .inr store => modify fun s => { s with store }

omit [ReadableBackend β Bytes] in
theorem serveAmong_maintains {I : HNSWIndex η → Prop}
    (removed : ∀ planId, Maintains I (HNSWIndex.remove planId))
    (added : ∀ planId embedding, Maintains I (HNSWIndex.add planId embedding))
    (event : PlanEvent ⊕ UnifiedObjectStore β η) :
    Maintains (Indexed I) (serveAmong event : CacheM β η (PlanCacheManager η) Unit) := by
  cases event with
  | inl event => exact serve_maintains removed added event
  | inr store => exact fun s held => held

omit [StorageBackend (EStateM PyError β) Bytes] [ReadableBackend β Bytes] in
theorem PlansInStep.agree [LawfulHnswlib η]
    {s : CacheSession (FaultyBackend Bytes) η (PlanCacheManager η)} (inStep : PlansInStep s)
    (clock : Rat) : PlansAgree s clock :=
  ⟨fun planId => inStep.ids planId clock, fun planId => inStep.vectors planId clock⟩

omit [ReadableBackend β Bytes] in
theorem drive_calls (s : CacheSession β η (PlanCacheManager η)) (calls : List PlanCall) :
    drive serveAmong s (calls.map fun c => .inl (.call c)) = drive exec s calls := by
  induction calls generalizing s with
  | nil => rfl
  | cons c rest ih =>
      have same : EStateResult.state (serveAmong (.inl (.call c)) s) =
          EStateResult.state (exec c s) := EStateResult.state_wrapped (exec c) (fun _ => ()) s
      rw [List.map_cons]
      exact (congrArg (drive serveAmong · _) same).trans (ih _)

end PlanCacheManager

open PlanCacheManager UnifiedObjectStore

/-- In every state of a manager whose index and store agree, a search answers the matching plans
    among the `top_k` most similar ones: the best of those that match, and short of as many as
    others that do not match are in the way. -/
theorem plan_search_nearest {β η Bytes : Type} [StorageBackend (EStateM PyError β) Bytes]
    [ReadableBackend β Bytes] [PyRuntime] [Serializer Bytes] [Hnswlib η] [LawfulHnswlib η]
    (marks : MarksDeleted η) (exact : ExactSearch η) {embed : String → NdArray}
    {dimension maxElements : Int} {similarityThreshold built : Rat}
    {store store' : UnifiedObjectStore β η} {manager : PlanCacheManager η}
    (builds : PlanCacheManager.new embed dimension similarityThreshold maxElements built store =
      .ok manager store')
    (events : List (PlanEvent ⊕ UnifiedObjectStore β η)) (taskDescription : String) {topK : Int}
    (asks : 1 ≤ topK) (requiredTools : List String) (constraints : Dict String String)
    (threshold : Option Rat) (clock : Rat)
    (agree : PlansAgree (drive serveAmong ⟨store', manager⟩ events) clock) :
    let s := drive serveAmong ⟨store', manager⟩ events
    let answer := searchSimilarPlans taskDescription topK requiredTools constraints threshold
      clock s
    (s.cache.Refuses taskDescription →
        ∃ message, EStateResult.outcome answer = .error (.valueError message)) ∧
      (¬ s.cache.Refuses taskDescription → ∃ candidates s', answer = .ok candidates s' ∧
        NearestMatches topK.toNat (s.cache.index.scored (s.cache.embed taskDescription))
          (matchesRequest s.store requiredTools constraints (threshold.getD s.cache.threshold)
            clock)
          (candidates.map scoreOf)) := by
  intro s answer
  have added : ∀ planId embedding, Maintains HNSWIndex.Coherent
      (HNSWIndex.add planId embedding : EStateM PyError (HNSWIndex η) Unit) :=
    fun planId embedding _ coherent => coherent.add planId embedding
  have removed : ∀ planId, Maintains HNSWIndex.Coherent
      (HNSWIndex.remove planId : EStateM PyError (HNSWIndex η) Bool) :=
    fun planId _ coherent => coherent.remove marks planId
  have start := new_indexed (fun _ => HNSWIndex.Coherent.new) added builds
  obtain ⟨inStep, vectors, mirrors⟩ : HNSWIndex.Coherent s.cache.index :=
    drive_invariant (I := Indexed HNSWIndex.Coherent)
      (fun s event _ => serveAmong_maintains removed added event s) start
  refine ⟨fun refuses => searchSimilarPlans_refused asks refuses requiredTools constraints
    threshold clock, fun accepts => ?_⟩
  obtain ⟨named, fits⟩ := not_or.mp accepts
  have row : s.cache.index.idToObject.size ≠ 0 →
      (s.cache.embed taskDescription).IsRow s.cache.index.dim :=
    fun holds => not_not.mp (not_and.mp fits holds)
  obtain ⟨nearest, top, search⟩ := HNSWIndex.search_cut exact inStep mirrors row
    (show 0 < topK by omega)
  have asked := search (threshold.getD s.cache.threshold)
  obtain ⟨candidates, s', answered⟩ := searchSimilarPlans_returns named asked fun hit member =>
    agree.held (top.within (List.mem_of_mem_filter member))
  obtain ⟨found, again, -, same, -⟩ := searchSimilarPlans_ok answered
  rw [asked] at again
  cases again
  refine ⟨candidates, s', answered, ?_⟩
  rw [same, candidates_scores]
  exact .of_cut (HNSWIndex.scored_nodup mirrors) top _

section

open Reference

/-- The exhaustive index answers the nearest rows of its ranking. -/
theorem Reference.FlatIndex.exactSearch : ExactSearch FlatIndex := by
  intro self query k labels fits distinct live enough
  have perm : (self.ranked query).Perm (self.distances query) := List.perm_insertionSort _ _
  have sorted : (self.ranked query).Pairwise fun a b => a.2 ≤ b.2 :=
    List.pairwise_insertionSort _ _
  have covers : labels ⊆ (self.distances query).map Prod.fst := by
    intro label member
    obtain ⟨vector, held⟩ := Option.isSome_iff_exists.mp (live label member)
    exact List.mem_map.mpr ⟨_, (self.mem_distances query label _).mpr ⟨vector, held, rfl⟩, rfl⟩
  have many : k ≤ (self.distances query).length := by
    rw [← List.length_map (f := Prod.fst)]
    exact enough.trans (distinct.subperm covers).length_le
  have answered : Hnswlib.knnQuery self query k = .ok ((self.ranked query).take k) := by
    have dimension : query.length = self.dim := fits
    simp only [Hnswlib.knnQuery]
    rw [if_neg (not_not.mpr dimension), if_neg (Nat.not_lt.mpr many)]
  refine ⟨_, answered, ?_, (FlatIndex.ranksRows answered).1, fun row member => ?_,
    fun label vector held missing row member => ?_⟩
  · rw [List.length_take, perm.length_eq]
    exact Nat.min_eq_left many
  · exact (self.mem_distances query row.1 row.2).mp (perm.subset (List.mem_of_mem_take member))
  · have listed := perm.symm.subset ((self.mem_distances query label _).mpr ⟨vector, held, rfl⟩)
    rw [← List.take_append_drop k (self.ranked query)] at listed sorted
    rcases List.mem_append.mp listed with early | late
    · exact absurd (List.mem_map.mpr ⟨_, early, rfl⟩) missing
    · exact (List.pairwise_append.mp sorted).2.2 row member _ late

/-- An empty store to which every write succeeds. -/
def plansStore : UnifiedObjectStore (FaultyBackend Encoded) FlatIndex :=
  .new { inner := .empty, faults := [] } .default metadata

theorem plansStore_built :
    PlanCacheManager.new embedTask 2 (3 / 4) 2 0 plansStore = .ok plansManager plansStore :=
  new_blank (MetadataStore.new_fresh new_metadata).1 _ threeQuarters_inRange rfl 0

/-- A plan that sorts. -/
def putSort : PlanCall := .put "sort" "1. sort" ["sort"] .empty .sessionScope "p" "u" 0

/-- A plan that searches, less similar to sorting. -/
def putSearch : PlanCall := .put "arrange" "1. look" ["search"] .empty .sessionScope "q" "v" 0

/-- The manager once both are put. -/
def sortAndSearch : CacheSession (FaultyBackend Encoded) FlatIndex (PlanCacheManager FlatIndex) :=
  drive serveAmong ⟨plansStore, plansManager⟩ ([putSort, putSearch].map fun c => .inl (.call c))

theorem sortAndSearch_agree (clock : Rat) : PlansAgree sortAndSearch clock := by
  let blank : CacheSession (FaultyBackend Encoded) FlatIndex (PlanCacheManager FlatIndex) :=
    ⟨plansStore, plansManager⟩
  have built : HNSWIndex.new 2 2 = .ok plansIndex := rfl
  have start : Follows blank fun _ => none := ⟨.empty .default metadata [], .new built⟩
  have sorts : KeepsInStep blank putSort :=
    Or.inr (Or.inr (Or.inr (Or.inr (Or.inr ⟨rfl, Or.inl rfl⟩))))
  obtain ⟨-, live, first, others⟩ := (exec_step start FlatIndex.marksDeleted putSort
    fun _ _ => rfl).resolve_right fun lost => lost.1 sorts
  have searches : KeepsInStep (EStateResult.state (PlanCacheManager.exec putSort blank))
      putSearch :=
    Or.inr (Or.inr (Or.inr (Or.inr (Or.inr ⟨by decide +kernel, Or.inl (by decide +kernel)⟩))))
  have fresh : ∀ planId ∈ drawnIds [putSearch], live planId = none := by
    intro planId drawn
    have undrawn : planId ∉ drawnIds [putSort] := by
      rw [List.mem_singleton.mp drawn]
      decide
    exact others planId rfl undrawn
  obtain ⟨-, live', second, -⟩ := (exec_step first FlatIndex.marksDeleted putSearch
    fresh).resolve_right fun lost => lost.1 searches
  rw [sortAndSearch, drive_calls]
  exact second.inStep.agree clock

/-- With room for two plans, the one that matches is found. -/
theorem plan_search_nearest_room_for_two : ∃ candidates s',
    searchSimilarPlans "sort" 2 ["search"] .empty none 1 sortAndSearch = .ok candidates s' ∧
      NearestMatches 2 (sortAndSearch.cache.index.scored (embedTask "sort"))
        (matchesRequest sortAndSearch.store ["search"] .empty (3 / 4) 1)
        (candidates.map scoreOf) ∧
      candidates.map PlanCacheCandidate.planId = ["q"] := by
  have accepts : ¬ sortAndSearch.cache.Refuses "sort" := by
    rintro (blank | ⟨-, unfit⟩)
    · exact absurd blank (by decide)
    · exact unfit (Or.inl (by decide +kernel))
  obtain ⟨candidates, s', answered, nearest⟩ := (plan_search_nearest FlatIndex.marksDeleted
    FlatIndex.exactSearch plansStore_built _ "sort" (show 1 ≤ 2 by decide) ["search"] .empty none 1
    (sortAndSearch_agree 1)).2 accepts
  have returned : (EStateResult.outcome (searchSimilarPlans "sort" 2 ["search"] .empty none 1
      sortAndSearch)).toOption.map (List.map PlanCacheCandidate.planId) = some ["q"] := by
    decide +kernel
  have search : searchSimilarPlans "sort" 2 ["search"] .empty none 1 sortAndSearch =
    .ok candidates s' := answered
  rw [search] at returned
  exact ⟨candidates, s', search, nearest, Option.some.inj returned⟩

/-- With room for one plan, the plan that matches is hidden by one that does not. -/
theorem more_similar_plan_hides :
    PlanCacheManager.new embedTask 2 (3 / 4) 2 0 plansStore = .ok plansManager plansStore ∧
      ExactSearch FlatIndex ∧ PlansAgree sortAndSearch 1 ∧
      ∃ candidates s',
        searchSimilarPlans "sort" 1 ["search"] .empty none 1 sortAndSearch = .ok candidates s' ∧
        ¬ TopOf Prod.snd 1 ((sortAndSearch.cache.index.scored (embedTask "sort")).filter
          (matchesRequest sortAndSearch.store ["search"] .empty (3 / 4) 1))
          (candidates.map scoreOf) := by
  refine ⟨plansStore_built, FlatIndex.exactSearch, sortAndSearch_agree 1, ?_⟩
  have returned : (EStateResult.outcome (searchSimilarPlans "sort" 1 ["search"] .empty none 1
      sortAndSearch)).toOption.map List.length = some 0 := by decide +kernel
  have matching : ((sortAndSearch.cache.index.scored (embedTask "sort")).filter
      (matchesRequest sortAndSearch.store ["search"] .empty (3 / 4) 1)).length = 1 := by
    decide +kernel
  obtain ⟨candidates, s', answered, found⟩ := EStateResult.exists_answer returned
  refine ⟨candidates, s', answered, fun top => ?_⟩
  have counted := top.count
  rw [matching, List.length_map, found] at counted
  exact absurd counted (by decide)

end

end IntelliL3
