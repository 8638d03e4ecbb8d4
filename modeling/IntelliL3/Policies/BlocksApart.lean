import IntelliL3.Policies.RetentionSteps

/-! # Pinned and offloaded blocks

A decision adds its blocks to one side and takes them from the other nowhere, so
the two sides stay apart exactly as long as no decision is about a block of the
other side.
-/

namespace IntelliL3

open Lib

namespace AgentTTLPolicy

variable {s : AgentTTLPolicy}

/-- No block that a call pins is offloaded, and none that it offloads is pinned. -/
def KeepsApart (s : AgentTTLPolicy) : RetentionCall → Prop
  | .llmStepCompleted step kvBlockIds toolCallId toolName toolArgsClass reloadCostMs =>
      0 ≤ reloadCostMs.getD s.reloadCostMs → (orText toolCallId step.toolCallId).isSome →
        ∀ predicted, s.latencyEstimator.predictLatency (resolveToolName step toolName)
            toolArgsClass = .ok predicted →
          ∀ block ∈ kvBlockIds.getD step.kvBlockIds,
            block ∉ if predicted ≤ s.ttlThresholdMs then s.offloadedBlocks else s.pinnedBlocks
  | _ => True

theorem KeepsApart.of_latency {c : RetentionCall} (latency : c.isLatency = true) :
    KeepsApart s c := by
  cases c with
  | llmStepCompleted => cases latency
  | _ => trivial

theorem disjoint_add_left {blocks : List String} {added other : Finset String}
    (apart : Disjoint added other) :
    Disjoint (added ∪ blocks.toFinset) other ↔ ∀ block ∈ blocks, block ∉ other := by
  rw [Finset.disjoint_union_left, Finset.disjoint_left (s := blocks.toFinset)]
  simp only [apart, true_and, List.mem_toFinset]

/-- A call keeps the two sides apart exactly when its blocks are not on the other side. -/
theorem disjoint_exec_iff (c : RetentionCall) (apart : Disjoint s.pinnedBlocks s.offloadedBlocks) :
    Disjoint (EStateResult.state (exec c s)).pinnedBlocks
        (EStateResult.state (exec c s)).offloadedBlocks ↔ KeepsApart s c := by
  have step := exec_step c s
  generalize exec c s = result at step
  cases step with
  | refused negative =>
      exact iff_of_true apart fun nonneg => absurd nonneg (not_le.mpr negative)
  | retained nonneg unresolved same =>
      subst same
      refine iff_of_true (by simpa using apart) fun _ resolved => ?_
      rw [unresolved] at resolved
      cases resolved
  | pinned nonneg resolved predicts short same =>
      subst same
      simp only [EStateResult.state_ok, storeDecision_pinnedBlocks, storeDecision_offloadedBlocks]
      refine (disjoint_add_left apart).trans ?_
      simp [KeepsApart, nonneg, resolved, predicts, short]
  | offloaded nonneg resolved predicts long same =>
      subst same
      simp only [EStateResult.state_ok, storeDecision_pinnedBlocks, storeDecision_offloadedBlocks]
      rw [disjoint_comm]
      refine (disjoint_add_left apart.symm).trans ?_
      simp [KeepsApart, nonneg, resolved, predicts, not_le.mpr long]
  | negative elapsed => exact iff_of_true apart trivial
  | notDue nonneg none_due => exact iff_of_true apart trivial
  | triggered due => exact iff_of_true apart trivial
  | reloaded => exact iff_of_true (apart.mono_right Finset.sdiff_subset) trivial
  | released => exact iff_of_true (apart.mono_left Finset.sdiff_subset) trivial
  | learned estimator latency => exact iff_of_true apart (.of_latency latency)
  | unlearned e latency => exact iff_of_true apart (.of_latency latency)

/-- No block is ever both pinned and offloaded exactly when no decision of the history is about
    a block of the other side. -/
theorem blocks_apart_iff {latencyEstimator : ToolLatencyEstimator}
    {ttlThresholdMs defaultTtlMs reloadCostMs prefetchMarginMs : Rat} {fresh : AgentTTLPolicy}
    (built : new latencyEstimator ttlThresholdMs defaultTtlMs reloadCostMs prefetchMarginMs =
      .ok fresh) (calls : List RetentionCall) :
    (∀ pre post, calls = pre ++ post →
        Disjoint (drive exec fresh pre).pinnedBlocks (drive exec fresh pre).offloadedBlocks) ↔
      ∀ pre c post, calls = pre ++ c :: post → KeepsApart (drive exec fresh pre) c := by
  have start : Disjoint fresh.pinnedBlocks fresh.offloadedBlocks := by
    rw [(Fresh.new built).pinned]
    exact Finset.disjoint_empty_left _
  exact @drive_all_reached_iff _ _ _ _ exec (fun s _ => Disjoint s.pinnedBlocks s.offloadedBlocks)
    _ _ (fun _ _ apart => apart) (fun _ c _ apart => (disjoint_exec_iff c apart).mpr)
    (fun _ c _ apart => mt (disjoint_exec_iff c apart).mp) _ _ start

section

private def tookLong : RetentionCall := .toolCompleted "call" 10000 none none

/-- The blocks of both sides after some calls. -/
private def sides (calls : List RetentionCall) (fresh : AgentTTLPolicy) :
    Finset String × Finset String :=
  ((drive exec fresh calls).pinnedBlocks, (drive exec fresh calls).offloadedBlocks)

/-- A block that is pinned, and released before it is offloaded. -/
theorem blocks_apart_released : ∃ estimator fresh, new estimator = .ok fresh ∧
    ∀ pre post, [searched, tookLong, .pinnedKvReleased ["kv"], searched] = pre ++ post →
      Disjoint (drive exec fresh pre).pinnedBlocks (drive exec fresh pre).offloadedBlocks := by
  obtain ⟨estimator, fresh, built, reads⟩ := @readOf_new 10 (by decide +kernel)
  have released : sides [searched, tookLong, .pinnedKvReleased ["kv"]] fresh = (∅, ∅) :=
    reads _ (by decide +kernel)
  obtain ⟨noPins, noOffloads⟩ := Prod.mk.inj released
  refine ⟨estimator, fresh, built, (blocks_apart_iff built _).mpr fun pre c post parts => ?_⟩
  match pre, parts with
  | [], parts =>
      obtain ⟨rfl, -⟩ := List.cons.inj parts
      intro nonneg resolved predicted predicts block member
      simp only [drive, List.foldl_nil, (Fresh.new built).pinned, (Fresh.new built).offloaded]
      split <;> exact Finset.notMem_empty _
  | [_], parts =>
      cases parts
      trivial
  | [_, _], parts =>
      cases parts
      trivial
  | [_, _, _], parts =>
      cases parts
      intro nonneg resolved predicted predicts block member
      rw [noPins, noOffloads]
      split <;> exact Finset.notMem_empty _
  | _ :: _ :: _ :: _ :: _, parts => simp at parts

/-- The step is decided on twice, before and after its tool call took long. -/
theorem pinned_block_offloaded :
    ¬ ∀ (estimator : ToolLatencyEstimator) (fresh : AgentTTLPolicy) (calls : List RetentionCall),
      new estimator = .ok fresh →
      Disjoint (drive exec fresh calls).pinnedBlocks (drive exec fresh calls).offloadedBlocks := by
  intro always
  obtain ⟨estimator, fresh, built, reads⟩ := @readOf_new 10 (by decide +kernel)
  have apart := always estimator fresh [searched, tookLong, searched] built
  have shared : sides [searched, tookLong, searched] fresh = ({"kv"}, {"kv"}) :=
    reads _ (by decide +kernel)
  obtain ⟨pins, offloads⟩ := Prod.mk.inj shared
  rw [pins, offloads] at apart
  exact absurd apart (by decide)

end

end AgentTTLPolicy

end IntelliL3
