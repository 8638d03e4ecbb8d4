import Mathlib.Data.Set.Card
import Mathlib.Order.Bounds.Defs
import IntelliL3.Metadata.StepPrediction
import IntelliL3.Policies.PrefetchSteps

/-! # Prefetch selection

The loops over steps, types and ids meet an object as often as it is registered for the
predicted steps, and keep the decision of its nearest step. What is returned are the
objects of the highest priorities.
-/

namespace IntelliL3

open Lib

namespace AgentPrefetchType

theorem text_injective : Function.Injective text := by
  intro a b same
  cases a <;> cases b <;> first | rfl | exact absurd same (by decide)

end AgentPrefetchType

/-- The ids of one type. -/
def AgentStepObjects.idsOf (objects : AgentStepObjects) : AgentPrefetchType → List String
  | .kvCache => objects.kvBlockIds
  | .rag => objects.ragObjectIds
  | .semantic => objects.semanticEntryIds
  | .toolArtifact => objects.toolArtifactIds
  | .planCache => objects.planCacheEntryIds

/-- The step a call registers objects for, and these objects. -/
def AgentPrefetchCall.registration (c : AgentPrefetchCall) :
    Option (String × AgentStepObjects) :=
  c.given.filter (·.1 ≠ "")

namespace AgentPrefetchPolicy

/-! ## What is registered -/

/-- What was last registered for a step. -/
def registeredFor (calls : List AgentPrefetchCall) (stepId : String) : Option AgentStepObjects :=
  ((calls.reverse.filterMap AgentPrefetchCall.registration).find? (·.1 = stepId)).map Prod.snd

/-- The id is registered for the step, as one of this type. -/
def Registers (calls : List AgentPrefetchCall) (stepId : String) (type : AgentPrefetchType)
    (objectId : String) : Prop :=
  ∃ objects, registeredFor calls stepId = some objects ∧ objectId ∈ objects.idsOf type ∧
    objectId ≠ ""

/-- The steps predicted from the current one. -/
def predictedSteps (self : AgentPrefetchPolicy) : List String :=
  match self.currentStepId with
  | none => []
  | some currentStepId =>
      match self.graph.getStep currentStepId with
      | none => []
      | some current =>
          (self.graph.predictNextSteps current.workflowId currentStepId
            self.nextStepTopK).toOption.getD []

/-- Decisions for the best of the objects that are registered for some steps. -/
structure SelectsBest (registers : String → AgentPrefetchType → String → Prop)
    (stepIds : List String) (n : Nat) (decisions : List PrefetchDecision) : Prop where
  distinct : (decisions.map fun decision => (decision.prefetchType, decision.objectId)).Nodup
  descending : decisions.Pairwise fun a b => b.priority ≤ a.priority
  count : decisions.length = min n (Set.ncard { pair : AgentPrefetchType × String |
    ∃ stepId ∈ stepIds, registers stepId pair.1 pair.2 })
  highest : ∀ decision ∈ decisions, ∃ type : AgentPrefetchType,
    decision.prefetchType = type.text ∧
      IsGreatest { priority : Rat | ∃ (stepRank : Nat) (stepId : String),
        stepIds[stepRank]? = some stepId ∧ registers stepId type decision.objectId ∧
          priority = type.weight / (1 + stepRank) } decision.priority
  omitted : ∀ (type : AgentPrefetchType) (objectId : String),
    (∀ decision ∈ decisions, (decision.prefetchType, decision.objectId) ≠ (type.text, objectId)) →
      ∀ (stepRank : Nat) (stepId : String), stepIds[stepRank]? = some stepId →
        registers stepId type objectId →
          ∀ decision ∈ decisions, type.weight / (1 + stepRank) ≤ decision.priority

/-! ## The loops -/

/-- The decisions the loops meet for a step at this rank. -/
def offeredBy (self : AgentPrefetchPolicy) (stepId : String) (stepRank : Nat) :
    List PrefetchDecision :=
  match self.stepObjects.get? stepId with
  | none => []
  | some objects => (iterObjects objects).flatMap fun item => item.2.map fun objectId =>
      { objectId, priority := 1 / (1 + stepRank) * item.1.weight, prefetchType := item.1.text }

def offered (self : AgentPrefetchPolicy) (stepIds : List String) : List PrefetchDecision :=
  stepIds.zipIdx.flatMap fun step => self.offeredBy step.1 step.2

theorem decideStep_eq (self : AgentPrefetchPolicy)
    (decisionsByKey : Dict (String × String) PrefetchDecision) (stepId : String)
    (stepRank : Nat) :
    self.decideStep decisionsByKey stepId stepRank =
      (self.offeredBy stepId stepRank).foldl
        (keepBest decisionKey PrefetchDecision.priority) decisionsByKey := by
  unfold decideStep offeredBy
  cases self.stepObjects.get? stepId with
  | none => rfl
  | some objects => simp only [List.foldl_flatMap, List.foldl_map]

theorem decisionsForSteps_bestOf (self : AgentPrefetchPolicy) (stepIds : List String) :
    BestOf decisionKey PrefetchDecision.priority self.maxDecisions (self.offered stepIds)
      (self.decisionsForSteps stepIds) := by
  have merged : self.decisionsForSteps stepIds =
      firstDecisions (bestByKey decisionKey PrefetchDecision.priority (self.offered stepIds))
        self.maxDecisions := by
    unfold decisionsForSteps bestByKey offered
    simp only [decideStep_eq, List.foldl_flatMap]
  rw [merged]
  exact bestOf_take decisionKey PrefetchDecision.priority self.maxDecisions (self.offered stepIds)

theorem mem_iterObjects {objects : AgentStepObjects} {type : AgentPrefetchType}
    {ids : List String} : (type, ids) ∈ iterObjects objects ↔ ids = objects.idsOf type := by
  cases type <;> simp [iterObjects, AgentStepObjects.idsOf]

theorem mem_offered {self : AgentPrefetchPolicy} {stepIds : List String}
    {decision : PrefetchDecision} :
    decision ∈ self.offered stepIds ↔ ∃ (stepRank : Nat) (stepId : String)
      (objects : AgentStepObjects) (type : AgentPrefetchType),
      stepIds[stepRank]? = some stepId ∧ self.stepObjects.get? stepId = some objects ∧
        decision.objectId ∈ objects.idsOf type ∧ decision.prefetchType = type.text ∧
          decision.priority = type.weight / (1 + stepRank) := by
  unfold offered
  rw [List.mem_flatMap]
  constructor
  · rintro ⟨⟨stepId, stepRank⟩, listed, member⟩
    unfold offeredBy at member
    cases held : self.stepObjects.get? stepId with
    | none =>
        rw [held] at member
        cases member
    | some objects =>
        rw [held] at member
        obtain ⟨⟨type, ids⟩, inside, member⟩ := List.mem_flatMap.mp member
        obtain ⟨objectId, owned, rfl⟩ := List.mem_map.mp member
        rw [mem_iterObjects.mp inside] at owned
        refine ⟨stepRank, stepId, objects, type, List.mk_mem_zipIdx_iff_getElem?.mp listed, held,
          owned, rfl, ?_⟩
        rw [one_div_mul_eq_div]
  · rintro ⟨stepRank, stepId, objects, type, listed, held, owned, typed, priority⟩
    refine ⟨(stepId, stepRank), List.mk_mem_zipIdx_iff_getElem?.mpr listed, ?_⟩
    unfold offeredBy
    rw [held]
    refine List.mem_flatMap.mpr ⟨(type, objects.idsOf type), mem_iterObjects.mpr rfl,
      List.mem_map.mpr ⟨decision.objectId, owned, ?_⟩⟩
    cases decision
    simp only at typed priority
    rw [typed, priority, one_div_mul_eq_div]

/-! ## Runs -/

theorem mem_idsOf_dedupe {objects : AgentStepObjects} {type : AgentPrefetchType}
    {objectId : String} : objectId ∈ (dedupeStepObjects objects).idsOf type ↔
      objectId ∈ objects.idsOf type ∧ objectId ≠ "" := by
  cases type <;>
    simp only [dedupeStepObjects, AgentStepObjects.idsOf, dedupe, List.mem_eraseDups,
      List.mem_filter, decide_eq_true_eq]

/-- Only a registration changes the objects of a step. -/
theorem stepObjects_exec (c : AgentPrefetchCall) (s : AgentPrefetchPolicy) :
    (EStateResult.state (exec c s)).stepObjects =
      c.registration.elim s.stepObjects fun given =>
        s.stepObjects.set given.1 (dedupeStepObjects given.2) := by
  have step := exec_step c s
  generalize exec c s = result at step
  unfold AgentPrefetchCall.registration
  cases step with
  | unnamed given =>
      rw [given]
      rfl
  | registered given named =>
      rw [given, Option.filter_some, if_pos (decide_eq_true named)]
      rfl
  | moved | unpredicted | predicted | negativeSaving | negativeSize | requested | graphChanged
  | graphRaised => rfl
  | used | wasted =>
      simp only [EStateResult.state_ok, countUsed, countWasted]
      split <;> rfl

/-- The objects of a step are those last registered for it. -/
theorem stepObjects_run {s : AgentPrefetchPolicy} (empty : s.stepObjects = .empty)
    (calls : List AgentPrefetchCall) (stepId : String) :
    (drive exec s calls).stepObjects.get? stepId =
      (registeredFor calls stepId).map dedupeStepObjects := by
  induction calls using List.reverseRecOn with
  | nil =>
      change s.stepObjects.get? stepId = none
      rw [empty]
      rfl
  | append_singleton calls c ih =>
      rw [drive_concat, stepObjects_exec, registeredFor, List.reverse_concat]
      cases given : c.registration with
      | none => rw [List.filterMap_cons_none given, ← registeredFor, ← ih, Option.elim_none]
      | some given' =>
          rw [List.filterMap_cons_some given, Option.elim_some, Dict.get?_set, List.find?_cons]
          by_cases here : given'.1 = stepId
          · rw [if_pos here, decide_eq_true here]
            rfl
          · rw [if_neg here, decide_eq_false here, ih]
            rfl

theorem registers_iff {s : AgentPrefetchPolicy} (empty : s.stepObjects = .empty)
    (calls : List AgentPrefetchCall) (stepId : String) (type : AgentPrefetchType)
    (objectId : String) :
    (∃ objects, (drive exec s calls).stepObjects.get? stepId = some objects ∧
        objectId ∈ objects.idsOf type) ↔ Registers calls stepId type objectId := by
  rw [stepObjects_run empty]
  constructor
  · rintro ⟨_, found, owned⟩
    obtain ⟨objects, given, rfl⟩ := Option.map_eq_some_iff.mp found
    exact ⟨objects, given, mem_idsOf_dedupe.mp owned⟩
  · rintro ⟨objects, given, owned⟩
    exact ⟨_, Option.map_eq_some_iff.mpr ⟨objects, given, rfl⟩, mem_idsOf_dedupe.mpr owned⟩

/-- The steps of the graph stay in order. -/
theorem ordered_exec {s : AgentPrefetchPolicy} (ordered : s.graph.Ordered)
    (c : AgentPrefetchCall) : (EStateResult.state (exec c s)).graph.Ordered := by
  have step := exec_step c s
  generalize exec c s = result at step
  cases step with
  | unnamed | registered | moved | unpredicted | predicted | negativeSaving | negativeSize
  | requested => exact ordered
  | used | wasted =>
      simp only [EStateResult.state_ok, countUsed, countWasted]
      split <;> exact ordered
  | @graphChanged call graph ran =>
      rcases ordered.exec_advances call with ⟨e, raised⟩ | ⟨after, returned, kept, -⟩
      · rw [ran] at raised
        cases raised
      · cases ran.symm.trans returned
        exact kept
  | @graphRaised call graph e ran =>
      rcases ordered.exec_advances call with ⟨e, raised⟩ | ⟨after, returned, -, -⟩
      · cases ran.symm.trans raised
        exact ordered
      · rw [ran] at returned
        cases returned

/-- No call changes how many decisions there may be. -/
theorem maxDecisions_exec (c : AgentPrefetchCall) (s : AgentPrefetchPolicy) :
    (EStateResult.state (exec c s)).maxDecisions = s.maxDecisions := by
  have step := exec_step c s
  generalize exec c s = result at step
  cases step with
  | unnamed | registered | moved | unpredicted | predicted | negativeSaving | negativeSize
  | requested | graphChanged | graphRaised => rfl
  | used | wasted =>
      simp only [EStateResult.state_ok, countUsed, countWasted]
      split <;> rfl

/-! ## Selection -/

/-- Over a graph whose steps are in order a prediction returns. -/
theorem predictPrefetch_returns {s : AgentPrefetchPolicy} (ordered : s.graph.Ordered) :
    EStateResult.outcome (predictPrefetch s) = .ok (s.decisionsForSteps s.predictedSteps) := by
  have nothing : s.decisionsForSteps [] = [] := List.take_nil
  unfold predictPrefetch predictedSteps
  rw [bind_run, modify_run]
  simp only
  rw [bind_run, get_run]
  simp only [countRequest]
  cases s.currentStepId with
  | none =>
      simp only [nothing]
      rfl
  | some currentStepId =>
      simp only
      cases known : s.graph.getStep currentStepId with
      | none =>
          simp only [nothing]
          rfl
      | some current =>
          simp only [ordered.predictNextSteps_eq known, bind_run, raising_ok]
          rfl

/-- The keys of what the loops meet are those of the registered pairs. -/
theorem count_offered {s : AgentPrefetchPolicy}
    {registers : String → AgentPrefetchType → String → Prop}
    (registered : ∀ stepId type objectId,
      (∃ objects, s.stepObjects.get? stepId = some objects ∧ objectId ∈ objects.idsOf type) ↔
        registers stepId type objectId) (stepIds : List String) :
    ((s.offered stepIds).map decisionKey).dedup.length =
      Set.ncard { pair : AgentPrefetchType × String |
        ∃ stepId ∈ stepIds, registers stepId pair.1 pair.2 } := by
  have injective : Function.Injective fun pair : AgentPrefetchType × String =>
      (pair.1.text, pair.2) := by
    intro pair other same
    obtain ⟨typed, ids⟩ := Prod.mk.inj same
    exact Prod.ext (AgentPrefetchType.text_injective typed) ids
  rw [← Set.ncard_image_of_injective _ injective, ← List.card_toFinset, ← Set.ncard_coe_finset]
  congr 1
  ext key
  simp only [List.coe_toFinset, List.mem_map, Set.mem_ofPred_eq, Set.mem_image, Prod.exists]
  constructor
  · rintro ⟨decision, member, rfl⟩
    obtain ⟨stepRank, stepId, objects, type, listed, held, owned, typed, -⟩ :=
      mem_offered.mp member
    refine ⟨type, decision.objectId, ⟨stepId, List.mem_of_getElem? listed, ?_⟩, ?_⟩
    · exact (registered stepId type decision.objectId).mp ⟨objects, held, owned⟩
    · rw [decisionKey, typed]
  · rintro ⟨type, objectId, ⟨stepId, member, registers⟩, rfl⟩
    obtain ⟨objects, held, owned⟩ := (registered stepId type objectId).mpr registers
    obtain ⟨stepRank, listed⟩ := List.mem_iff_getElem?.mp member
    exact ⟨⟨objectId, type.weight / (1 + stepRank), type.text⟩, mem_offered.mpr ⟨stepRank, stepId,
      objects, type, listed, held, owned, rfl, rfl⟩, rfl⟩

/-- What is decided for some steps are the best of the objects registered for them. -/
theorem decisionsForSteps_selectsBest {s : AgentPrefetchPolicy}
    {registers : String → AgentPrefetchType → String → Prop}
    (registered : ∀ stepId type objectId,
      (∃ objects, s.stepObjects.get? stepId = some objects ∧ objectId ∈ objects.idsOf type) ↔
        registers stepId type objectId) (stepIds : List String) :
    SelectsBest registers stepIds s.maxDecisions (s.decisionsForSteps stepIds) := by
  have best := s.decisionsForSteps_bestOf stepIds
  constructor
  · exact best.distinct
  · exact best.descending
  · rw [best.count, count_offered registered]
  · intro decision member
    obtain ⟨stepRank, stepId, objects, type, listed, held, owned, typed, priority⟩ :=
      mem_offered.mp (best.among decision member)
    refine ⟨type, typed, ⟨stepRank, stepId, listed,
      (registered _ _ _).mp ⟨objects, held, owned⟩, priority⟩, ?_⟩
    rintro _ ⟨otherRank, otherId, listed', registers', rfl⟩
    obtain ⟨objects', held', owned'⟩ := (registered _ _ _).mpr registers'
    refine best.highest decision member
      ⟨decision.objectId, type.weight / (1 + otherRank), type.text⟩
      (mem_offered.mpr ⟨otherRank, otherId, objects', type, listed', held', owned', rfl, rfl⟩) ?_
    rw [decisionKey, decisionKey, typed]
  · intro type objectId missing stepRank stepId listed registers' decision member
    obtain ⟨objects, held, owned⟩ := (registered _ _ _).mpr registers'
    refine best.others ⟨objectId, type.weight / (1 + stepRank), type.text⟩
      (mem_offered.mpr ⟨stepRank, stepId, objects, type, listed, held, owned, rfl, rfl⟩) ?_
      decision member
    intro chosen
    obtain ⟨other, kept, same⟩ := List.mem_map.mp chosen
    exact missing other kept same

/-- After every history, over every graph, a prediction returns decisions for the best of the
    objects registered for the predicted steps. -/
theorem predict_prefetch_selects_best {graphCalls : List StepGraphCall}
    {currentStepId : Option String} {nextStepTopK maxDecisions : Int}
    {fresh : AgentPrefetchPolicy}
    (built : new (drive AgentStepGraph.exec .empty graphCalls) currentStepId nextStepTopK
      maxDecisions = .ok fresh) (calls : List AgentPrefetchCall) :
    ∃ decisions,
      EStateResult.outcome (exec .predictPrefetch (drive exec fresh calls)) = .ok decisions ∧
        SelectsBest (Registers calls) (drive exec fresh calls).predictedSteps
          maxDecisions.toNat decisions := by
  have start := Fresh.new built
  have ordered : (drive exec fresh calls).graph.Ordered := by
    refine drive_invariant (I := fun s : AgentPrefetchPolicy => s.graph.Ordered)
      (fun _ c _ before => ordered_exec before c) ?_
    rw [start.graph]
    exact (AgentStepGraph.Ordered.empty.drive graphCalls).1
  have limit : (drive exec fresh calls).maxDecisions = maxDecisions.toNat :=
    drive_invariant (I := fun s => s.maxDecisions = maxDecisions.toNat)
      (fun s c _ before => (maxDecisions_exec c s).trans before) start.maxDecisions
  refine ⟨_, predictPrefetch_returns ordered, ?_⟩
  rw [← limit]
  exact decisionsForSteps_selectsBest (registers_iff start.objects calls) _

theorem predict_prefetch_selects_best_overlap :
    ∃ fresh, new (drive AgentStepGraph.exec .empty
        [.addStep "w" "root" "planner" none 0, .addStep "w" "a" "worker" (some "root") 0,
          .addStep "w" "b" "worker" (some "root") 0]) (some "root") 2 3 = .ok fresh ∧
      ∃ decisions,
        EStateResult.outcome (exec .predictPrefetch (drive exec fresh
          [.registerStepObjects "a" { kvBlockIds := ["x"] },
            .registerStepObjects "b" { kvBlockIds := ["x", "y"] }])) = .ok decisions ∧
          SelectsBest (Registers [.registerStepObjects "a" { kvBlockIds := ["x"] },
              .registerStepObjects "b" { kvBlockIds := ["x", "y"] }])
            (drive exec fresh [.registerStepObjects "a" { kvBlockIds := ["x"] },
              .registerStepObjects "b" { kvBlockIds := ["x", "y"] }]).predictedSteps
            3 decisions := by
  obtain ⟨fresh, built⟩ := @new_returns (drive AgentStepGraph.exec .empty
    [.addStep "w" "root" "planner" none 0, .addStep "w" "a" "worker" (some "root") 0,
      .addStep "w" "b" "worker" (some "root") 0]) (some "root") 2 3 (by decide) (by decide)
  exact ⟨fresh, built, predict_prefetch_selects_best built _⟩

end AgentPrefetchPolicy

end IntelliL3
