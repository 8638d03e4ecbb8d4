import IntelliL3.Lib.FirstReport
import IntelliL3.Lib.UnitScore
import IntelliL3.Policies.PrefetchSteps

/-! # Prefetch feedback

What is reported as used or wasted was predicted, so the ratios are fractions, and each
object is counted with its first report of either kind. Nothing relates the two kinds: an
object is counted as both when it is reported as both.
-/

namespace IntelliL3

open Lib

namespace AgentPrefetchPolicy

variable {s : AgentPrefetchPolicy}

/-! ## Ratios -/

/-- What was used or wasted was predicted, and no more was met than was asked for. -/
structure Counters (s : AgentPrefetchPolicy) : Prop where
  used : s.usedPrefetchIds ⊆ s.predictedObjectIds
  wasted : s.wastedPrefetchIds ⊆ s.predictedObjectIds
  predicted : s.predictedObjectIds.card ≤ s.agentPrefetchCount
  recalled : s.recallHitCount ≤ s.expectedObjectCount

namespace Counters

theorem fresh {graph : AgentStepGraph} {maxDecisions : Int} (start : Fresh graph maxDecisions s) :
    Counters s where
  used := by rw [start.used]; exact Finset.empty_subset _
  wasted := by rw [start.wasted]; exact Finset.empty_subset _
  predicted := by rw [start.predicted]; exact Nat.zero_le _
  recalled := by rw [start.hits]; exact Nat.zero_le _

theorem decided (counters : Counters s) (decisions : List PrefetchDecision) :
    Counters (s.countRequest.decided decisions) where
  used := counters.used.trans Finset.subset_union_left
  wasted := counters.wasted.trans Finset.subset_union_left
  predicted := by
    have few := List.toFinset_card_le (decisions.map PrefetchDecision.objectId)
    rw [List.length_map] at few
    exact (Finset.card_union_le _ _).trans (Nat.add_le_add counters.predicted few)
  recalled := counters.recalled

theorem countUsed (counters : Counters s) (objectId : String) (savedMs : Rat) :
    Counters (s.countUsed objectId savedMs) := by
  unfold AgentPrefetchPolicy.countUsed
  split
  · next new =>
      exact ⟨Finset.insert_subset new.1 counters.used, counters.wasted, counters.predicted,
        counters.recalled⟩
  · exact counters

theorem countWasted (counters : Counters s) (objectId : String) (sizeBytes : Int) :
    Counters (s.countWasted objectId sizeBytes) := by
  unfold AgentPrefetchPolicy.countWasted
  split
  · next new =>
      exact ⟨counters.used, Finset.insert_subset new.1 counters.wasted, counters.predicted,
        counters.recalled⟩
  · exact counters

theorem call (counters : Counters s) (c : AgentPrefetchCall) :
    Counters (EStateResult.state (exec c s)) := by
  have step := exec_step c s
  generalize exec c s = result at step
  cases step with
  | unnamed | negativeSaving | negativeSize => exact counters
  | registered | moved | unpredicted | graphChanged | graphRaised =>
      exact ⟨counters.used, counters.wasted, counters.predicted, counters.recalled⟩
  | predicted decisions => exact counters.decided decisions
  | used => exact counters.countUsed _ _
  | wasted => exact counters.countWasted _ _
  | requested =>
      exact ⟨counters.used, counters.wasted, counters.predicted,
        Nat.add_le_add counters.recalled (Finset.card_le_card Finset.inter_subset_left)⟩

theorem precision (counters : Counters s) :
    0 ≤ s.stats.prefetchPrecision ∧ s.stats.prefetchPrecision ≤ 1 :=
  share_or_zero_mem_unit ((Finset.card_le_card counters.used).trans counters.predicted)

theorem recallRate (counters : Counters s) :
    0 ≤ s.stats.prefetchRecall ∧ s.stats.prefetchRecall ≤ 1 :=
  share_or_zero_mem_unit counters.recalled

end Counters

/-! ## First reports -/

/-- The object and the saved time of a report that it was used, once it was predicted. -/
def reportsUse (s : AgentPrefetchPolicy) : AgentPrefetchCall → Option (String × Rat)
  | .prefetchUsed objectId savedMs =>
      if 0 ≤ savedMs ∧ objectId ∈ s.predictedObjectIds then some (objectId, savedMs) else none
  | _ => none

/-- The object and the size of a report that it was wasted, once it was predicted. -/
def reportsWaste (s : AgentPrefetchPolicy) : AgentPrefetchCall → Option (String × Int)
  | .prefetchWasted objectId sizeBytes =>
      if 0 ≤ sizeBytes ∧ objectId ∈ s.predictedObjectIds then some (objectId, sizeBytes) else none
  | _ => none

theorem reports_of_given {c : AgentPrefetchCall} {given : String × AgentStepObjects}
    (gives : c.given = some given) : s.reportsUse c = none ∧ s.reportsWaste c = none := by
  cases c with
  | registerStep | registerStepObjects => exact ⟨rfl, rfl⟩
  | setCurrentStep | predictPrefetch | prefetchUsed | prefetchWasted | objectsRequested
  | graphCall => cases gives

theorem countUsed_wasted (objectId : String) (savedMs : Rat) :
    (s.countUsed objectId savedMs).wastedPrefetchIds = s.wastedPrefetchIds ∧
      (s.countUsed objectId savedMs).wastedPrefetchBytes = s.wastedPrefetchBytes := by
  unfold countUsed
  split <;> exact ⟨rfl, rfl⟩

theorem countWasted_used (objectId : String) (sizeBytes : Int) :
    (s.countWasted objectId sizeBytes).usedPrefetchIds = s.usedPrefetchIds ∧
      (s.countWasted objectId sizeBytes).latencySavedMs = s.latencySavedMs := by
  unfold countWasted
  split <;> exact ⟨rfl, rfl⟩

/-- What a call does to the used objects and the time they saved. -/
theorem used_exec (s : AgentPrefetchPolicy) (c : AgentPrefetchCall) :
    ((EStateResult.state (exec c s)).usedPrefetchIds,
        (EStateResult.state (exec c s)).latencySavedMs) =
      tell (s.reportsUse c) (s.usedPrefetchIds, s.latencySavedMs) := by
  have step := exec_step c s
  generalize exec c s = result at step
  cases step with
  | unnamed given | registered given => rw [(reports_of_given given).1]; rfl
  | moved | unpredicted | predicted | negativeSize | requested | graphChanged | graphRaised => rfl
  | wasted => exact Prod.ext (countWasted_used _ _).1 (countWasted_used _ _).2
  | negativeSaving negative =>
      rw [reportsUse, if_neg fun accepted => absurd accepted.1 (not_le.mpr negative)]
      rfl
  | used nonneg =>
      rw [reportsUse, tell_accepted, EStateResult.state_ok, countUsed]
      simp only [nonneg, true_and]
      split <;> rfl

/-- What a call does to the wasted objects and their bytes. -/
theorem wasted_exec (s : AgentPrefetchPolicy) (c : AgentPrefetchCall) :
    ((EStateResult.state (exec c s)).wastedPrefetchIds,
        (EStateResult.state (exec c s)).wastedPrefetchBytes) =
      tell (s.reportsWaste c) (s.wastedPrefetchIds, s.wastedPrefetchBytes) := by
  have step := exec_step c s
  generalize exec c s = result at step
  cases step with
  | unnamed given | registered given => rw [(reports_of_given given).2]; rfl
  | moved | unpredicted | predicted | negativeSaving | requested | graphChanged | graphRaised =>
      rfl
  | used => exact Prod.ext (countUsed_wasted _ _).1 (countUsed_wasted _ _).2
  | negativeSize negative =>
      rw [reportsWaste, if_neg fun accepted => absurd accepted.1 (not_le.mpr negative)]
      rfl
  | wasted nonneg =>
      rw [reportsWaste, tell_accepted, EStateResult.state_ok, countWasted]
      simp only [nonneg, true_and]
      split <;> rfl

/-- The counters of a policy, the ratios and the sums it reports. -/
structure WellDefined (fresh : AgentPrefetchPolicy) (calls : List AgentPrefetchCall)
    (s : AgentPrefetchPolicy) : Prop where
  counters : Counters s
  precision : 0 ≤ s.stats.prefetchPrecision ∧ s.stats.prefetchPrecision ≤ 1
  recallRate : 0 ≤ s.stats.prefetchRecall ∧ s.stats.prefetchRecall ≤ 1
  saved : ∃ savedMs, CountedWith exec reportsUse fresh calls s.usedPrefetchIds
    s.stats.latencySavedMs savedMs
  wasted : ∃ sizeBytes, CountedWith exec reportsWaste fresh calls s.wastedPrefetchIds
    s.stats.wastedPrefetchBytes sizeBytes

/-- After every history the ratios are fractions, and what was saved and wasted is the sum of
    the first reports of the objects counted. -/
theorem prefetch_ratios_defined {graph : AgentStepGraph} {currentStepId : Option String}
    {nextStepTopK maxDecisions : Int} {fresh : AgentPrefetchPolicy}
    (built : new graph currentStepId nextStepTopK maxDecisions = .ok fresh)
    (calls : List AgentPrefetchCall) : WellDefined fresh calls (drive exec fresh calls) := by
  have start := Fresh.new built
  have counters : Counters (drive exec fresh calls) :=
    drive_invariant (fun _ c _ before => before.call c) (Counters.fresh start)
  exact {
    counters
    precision := counters.precision
    recallRate := counters.recallRate
    saved := drive_tell used_exec start.used start.saved calls
    wasted := drive_tell wasted_exec start.wasted start.bytes calls }

section

/-- Two steps of a workflow, the second of which needs two blocks. -/
private def twoSteps : AgentStepGraph := drive AgentStepGraph.exec .empty
  [.addStep "w" "one" "planner" none 0, .addStep "w" "two" "worker" none 0]

/-- The calls after which both blocks are predicted, and some more. -/
private def afterwards (calls : List AgentPrefetchCall) : List AgentPrefetchCall :=
  .registerStepObjects "two" { kvBlockIds := ["a", "b"] } :: .predictPrefetch :: calls

/-- What is read of a policy after these calls. -/
private def readAfter {α : Type} (calls : List AgentPrefetchCall)
    (read : AgentPrefetchPolicy → α) : Except PyError α :=
  (new twoSteps (some "one") 3 10).map fun fresh => read (drive exec fresh (afterwards calls))

private theorem twoSteps_fresh : ∃ fresh, new twoSteps (some "one") 3 10 = .ok fresh ∧
    ∀ {α : Type} (calls : List AgentPrefetchCall) (read : AgentPrefetchPolicy → α) {value : α},
      readAfter calls read = .ok value → read (drive exec fresh (afterwards calls)) = value := by
  obtain ⟨fresh, built⟩ := @new_returns twoSteps (some "one") 3 10 (by decide) (by decide)
  refine ⟨fresh, built, fun calls read value reads => ?_⟩
  rw [readAfter, built] at reads
  exact Except.ok.inj reads

/-- A block is reported as used twice, and the other as wasted. -/
theorem prefetch_ratios_defined_two : ∃ fresh, new twoSteps (some "one") 3 10 = .ok fresh ∧
    WellDefined fresh (afterwards [.prefetchUsed "a" 10, .prefetchUsed "a" 20,
        .prefetchWasted "b" 100, .objectsRequested ["a", "c"]])
      (drive exec fresh (afterwards [.prefetchUsed "a" 10, .prefetchUsed "a" 20,
        .prefetchWasted "b" 100, .objectsRequested ["a", "c"]])) := by
  obtain ⟨fresh, built, -⟩ := twoSteps_fresh
  exact ⟨fresh, built, prefetch_ratios_defined built _⟩

/-! ## Both kinds of reports -/

/-- The call reports no use of an object that is counted as wasted, and no waste of one that
    is counted as used. -/
def ReportsOneKind (s : AgentPrefetchPolicy) (c : AgentPrefetchCall) : Prop :=
  (∀ objectId savedMs, s.reportsUse c = some (objectId, savedMs) →
      objectId ∉ s.wastedPrefetchIds) ∧
    ∀ objectId sizeBytes, s.reportsWaste c = some (objectId, sizeBytes) →
      objectId ∉ s.usedPrefetchIds

theorem reports_one {c : AgentPrefetchCall} : s.reportsUse c = none ∨ s.reportsWaste c = none := by
  cases c with
  | prefetchUsed => exact Or.inr rfl
  | _ => exact Or.inl rfl

theorem disjoint_tell_iff {M : Type} [Add M] {report : Option (String × M)}
    {ids other : Finset String} {sum : M} (apart : Disjoint ids other) :
    Disjoint (tell report (ids, sum)).1 other ↔ ∀ k v, report = some (k, v) → k ∉ other := by
  cases report with
  | none => exact iff_of_true apart fun _ _ same => by cases same
  | some told =>
      obtain ⟨k, v⟩ := told
      by_cases known : k ∈ ids
      · rw [tell_known known]
        refine iff_of_true apart fun k' v' same => ?_
        cases same
        exact Finset.disjoint_left.mp apart known
      · rw [tell_new known, Finset.disjoint_insert_left, and_iff_left apart]
        exact ⟨fun outside k' v' same => by cases same; exact outside, fun all => all k v rfl⟩

/-- A call keeps used and wasted objects apart exactly when it reports of one kind. -/
theorem disjoint_feedback_iff (c : AgentPrefetchCall)
    (apart : Disjoint s.usedPrefetchIds s.wastedPrefetchIds) :
    Disjoint (EStateResult.state (exec c s)).usedPrefetchIds
        (EStateResult.state (exec c s)).wastedPrefetchIds ↔ ReportsOneKind s c := by
  have used := (Prod.mk.inj (used_exec s c)).1
  have wasted := (Prod.mk.inj (wasted_exec s c)).1
  rw [used, wasted]
  unfold ReportsOneKind
  rcases s.reports_one with noUse | noWaste
  · rw [noUse]
    refine disjoint_comm.trans ((disjoint_tell_iff apart.symm).trans ?_)
    exact (and_iff_right fun _ _ reported => by cases reported).symm
  · rw [noWaste]
    refine (disjoint_tell_iff apart).trans ?_
    exact (and_iff_left fun _ _ reported => by cases reported).symm

/-- No object is ever counted as used and as wasted exactly when no report of the history is
    about an object that was counted by a report of the other kind. -/
theorem used_or_wasted_iff {graph : AgentStepGraph} {currentStepId : Option String}
    {nextStepTopK maxDecisions : Int} {fresh : AgentPrefetchPolicy}
    (built : new graph currentStepId nextStepTopK maxDecisions = .ok fresh)
    (calls : List AgentPrefetchCall) :
    (∀ pre post, calls = pre ++ post →
        Disjoint (drive exec fresh pre).usedPrefetchIds
          (drive exec fresh pre).wastedPrefetchIds) ↔
      ∀ pre c post, calls = pre ++ c :: post → ReportsOneKind (drive exec fresh pre) c := by
  have start : Disjoint fresh.usedPrefetchIds fresh.wastedPrefetchIds := by
    rw [(Fresh.new built).used]
    exact Finset.disjoint_empty_left _
  exact @drive_all_reached_iff _ _ _ _ exec
    (fun s _ => Disjoint s.usedPrefetchIds s.wastedPrefetchIds) _ _ (fun _ _ apart => apart)
    (fun _ c _ apart => (disjoint_feedback_iff c apart).mpr)
    (fun _ c _ apart => mt (disjoint_feedback_iff c apart).mp) _ _ start

/-- One block is used, the other is wasted. -/
theorem used_or_wasted_each : ∃ fresh, new twoSteps (some "one") 3 10 = .ok fresh ∧
    ∀ pre post, afterwards [.prefetchUsed "a" 10, .prefetchWasted "b" 100] = pre ++ post →
      Disjoint (drive exec fresh pre).usedPrefetchIds
        (drive exec fresh pre).wastedPrefetchIds := by
  obtain ⟨fresh, built, reads⟩ := twoSteps_fresh
  have unwasted : (drive exec fresh (afterwards [])).wastedPrefetchIds = ∅ :=
    reads [] wastedPrefetchIds (by decide +kernel)
  have used : (drive exec fresh (afterwards [.prefetchUsed "a" 10])).usedPrefetchIds = {"a"} :=
    reads _ usedPrefetchIds (by decide +kernel)
  refine ⟨fresh, built, (used_or_wasted_iff built _).mpr fun pre c post parts => ?_⟩
  match pre, parts with
  | [], parts | [_], parts =>
      cases parts
      exact ⟨fun _ _ reported => (by cases reported), fun _ _ reported => by cases reported⟩
  | [_, _], parts =>
      cases parts
      refine ⟨fun objectId _ _ => ?_, fun _ _ reported => by cases reported⟩
      change objectId ∉ (drive exec fresh (afterwards [])).wastedPrefetchIds
      rw [unwasted]
      exact Finset.notMem_empty objectId
  | [_, _, _], parts =>
      cases parts
      refine ⟨fun _ _ reported => (by cases reported), fun objectId _ reported => ?_⟩
      cases (Option.ite_none_right_eq_some.mp reported).2
      change "b" ∉ (drive exec fresh (afterwards [.prefetchUsed "a" 10])).usedPrefetchIds
      rw [used]
      decide
  | _ :: _ :: _ :: _ :: _, parts => simp [afterwards] at parts

/-- A block is reported as used, and then as wasted. -/
theorem used_prefetch_wasted :
    ¬ ∀ (graph : AgentStepGraph) (currentStepId : Option String)
      (nextStepTopK maxDecisions : Int) (fresh : AgentPrefetchPolicy)
      (calls : List AgentPrefetchCall),
      new graph currentStepId nextStepTopK maxDecisions = .ok fresh →
        Disjoint (drive exec fresh calls).usedPrefetchIds
          (drive exec fresh calls).wastedPrefetchIds := by
  intro always
  obtain ⟨fresh, built, reads⟩ := twoSteps_fresh
  have apart := always _ _ _ _ fresh
    (afterwards [.prefetchUsed "a" 10, .prefetchWasted "a" 100]) built
  have used : (drive exec fresh
      (afterwards [.prefetchUsed "a" 10, .prefetchWasted "a" 100])).usedPrefetchIds = {"a"} :=
    reads _ usedPrefetchIds (by decide +kernel)
  have wasted : (drive exec fresh
      (afterwards [.prefetchUsed "a" 10, .prefetchWasted "a" 100])).wastedPrefetchIds = {"a"} :=
    reads _ wastedPrefetchIds (by decide +kernel)
  rw [used, wasted] at apart
  exact absurd apart (by decide)

end

end AgentPrefetchPolicy

end IntelliL3
