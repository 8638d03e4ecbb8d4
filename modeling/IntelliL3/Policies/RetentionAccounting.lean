import IntelliL3.Lib.Commitments
import IntelliL3.Policies.RetentionSteps

/-! # Retention accounting

An offload decision schedules the prefetch of its blocks, and triggering it spends what
was scheduled. A decision that replaces another drops what the other had scheduled, so the
counters never show more prefetches triggered than scheduled.
-/

namespace IntelliL3

open Lib

namespace AgentTTLPolicy

variable {s t : AgentTTLPolicy} {c : RetentionCall} {id : String}
  {decision : AgentRetentionDecision}

theorem storeDecision_eq (decision : AgentRetentionDecision) (s : AgentTTLPolicy) :
    storeDecision decision s = { s with
      decisionsByStep := s.decisionsByStep.set decision.stepId decision
      decisionsByToolCall := (storeDecision decision s).decisionsByToolCall } := by
  unfold storeDecision
  cases decision.toolCallId <;> rfl

/-- A call that raises changes nothing. -/
theorem state_of_raised {e : PyError} (raised : EStateResult.outcome (exec c s) = .error e) :
    EStateResult.state (exec c s) = s := by
  have step := exec_step c s
  generalize exec c s = result at step raised
  cases step with
  | refused | negative | unlearned => rfl
  | retained | pinned | offloaded | notDue | triggered | reloaded | released | learned =>
      cases raised

/-! ## The counters -/

/-- How the counters are related to each other and to the blocks that are held. -/
structure Accounts (s : AgentTTLPolicy) : Prop where
  retained : s.kvRetained = s.recomputeAvoided
  evicted : s.kvEvicted = s.prefetchScheduled
  triggered : s.prefetchTriggerCount ≤ s.prefetchScheduled
  pinned : s.pinnedBlocks.card ≤ s.kvRetained
  offloaded : s.offloadedBlocks.card ≤ s.kvEvicted

/-- The blocks whose prefetch is scheduled for a tool call and not triggered. -/
def owedFor (s : AgentTTLPolicy) (id : String) : Nat :=
  if id ∈ s.prefetchTriggered then 0
  else match s.decisionsByToolCall.get? id with
    | none => 0
    | some decision => if decision.action = .offload then decision.kvBlockIds.length else 0

/-- The counters agree, and what is still to be prefetched was scheduled. -/
structure Ledger (s : AgentTTLPolicy) : Prop where
  retained : s.kvRetained = s.recomputeAvoided
  evicted : s.kvEvicted = s.prefetchScheduled
  pinned : s.pinnedBlocks.card ≤ s.kvRetained
  offloaded : s.offloadedBlocks.card ≤ s.kvEvicted
  covered : Covered s.prefetchTriggerCount s.prefetchScheduled s.owedFor

theorem Ledger.accounts (ledger : Ledger s) : Accounts s where
  retained := ledger.retained
  evicted := ledger.evicted
  triggered := ledger.covered.le
  pinned := ledger.pinned
  offloaded := ledger.offloaded

theorem Ledger.new {latencyEstimator : ToolLatencyEstimator}
    {ttlThresholdMs defaultTtlMs reloadCostMs prefetchMarginMs : Rat}
    (built : AgentTTLPolicy.new latencyEstimator ttlThresholdMs defaultTtlMs reloadCostMs
      prefetchMarginMs = .ok s) : Ledger s := by
  unfold AgentTTLPolicy.new at built
  iterate 4 obtain ⟨_, built⟩ := check_passed built
  cases built
  exact ⟨rfl, rfl, Nat.le_refl 0, Nat.le_refl 0, Covered.nothing.mono fun _ => Nat.le_refl 0⟩

/-- A decision on a tool call takes the place of the one before. -/
theorem owedFor_storeDecision (triggered : t.prefetchTriggered = s.prefetchTriggered)
    (decisions : t.decisionsByToolCall = s.decisionsByToolCall)
    (named : decision.toolCallId = some id) (other : String) :
    (storeDecision decision t).owedFor other ≤ Function.update s.owedFor id
      (if decision.action = .offload then decision.kvBlockIds.length else 0) other := by
  unfold owedFor
  rw [storeDecision_prefetchTriggered, storeDecision_get?, triggered, decisions, named,
    Function.update_apply]
  by_cases same : id = other
  · subst same
    rw [if_pos rfl, if_pos rfl]
    split
    · exact Nat.zero_le _
    · exact le_rfl
  · rw [if_neg fun equal => same (Option.some.inj equal), if_neg (Ne.symm same)]

theorem owedFor_triggered (decision : AgentRetentionDecision) (id other : String) :
    (s.triggered id decision).owedFor other = Function.update s.owedFor id 0 other := by
  unfold owedFor triggered
  rw [Function.update_apply]
  simp only [Finset.mem_insert]
  by_cases same : other = id
  · rw [if_pos (Or.inl same), if_pos same]
  · simp only [same, false_or, if_false]

theorem Due.owed {elapsedMs : Rat} (due : Due s id elapsedMs decision) :
    s.owedFor id = decision.kvBlockIds.length := by
  rw [owedFor, if_neg due.untriggered, due.current]
  exact if_pos due.offload

theorem card_union_le (held : Finset String) (blockIds : List String) {n : Nat}
    (within : held.card ≤ n) : (held ∪ blockIds.toFinset).card ≤ n + blockIds.length :=
  (Finset.card_union_le _ _).trans (Nat.add_le_add within (List.toFinset_card_le _))

namespace Ledger

/-- A decision without a tool call schedules nothing. -/
theorem retain (ledger : Ledger s) (unnamed : decision.toolCallId = none) :
    Ledger (storeDecision decision s) := by
  have same : storeDecision decision s = { s with
      decisionsByStep := s.decisionsByStep.set decision.stepId decision } := by
    unfold storeDecision
    rw [unnamed]
  rw [same]
  exact ⟨ledger.retained, ledger.evicted, ledger.pinned, ledger.offloaded, ledger.covered⟩

theorem pin (ledger : Ledger s) (toolName : String) (toolArgsClass : Option String)
    (blockIds : List String) (predicted reloadCost : Rat)
    (named : decision.toolCallId = some id) (keeps : decision.action ≠ .offload) :
    Ledger (storeDecision decision
      ((s.profiled id toolName toolArgsClass).pinned blockIds predicted reloadCost)) := by
  have owed := @owedFor_storeDecision s
    ((s.profiled id toolName toolArgsClass).pinned blockIds predicted reloadCost) _ _ rfl rfl named
  rw [if_neg keeps] at owed
  rw [storeDecision_eq] at owed ⊢
  exact {
    retained := congrArg (· + blockIds.length) ledger.retained
    evicted := ledger.evicted
    pinned := card_union_le _ _ ledger.pinned
    offloaded := ledger.offloaded
    covered := (ledger.covered.drop id).mono owed }

theorem offload (ledger : Ledger s) (toolName : String) (toolArgsClass : Option String)
    (named : decision.toolCallId = some id) (offloads : decision.action = .offload) :
    Ledger (storeDecision decision
      ((s.profiled id toolName toolArgsClass).offloaded decision.kvBlockIds)) := by
  have owed := @owedFor_storeDecision s
    ((s.profiled id toolName toolArgsClass).offloaded decision.kvBlockIds) _ _ rfl rfl named
  rw [if_pos offloads] at owed
  rw [storeDecision_eq] at owed ⊢
  exact {
    retained := ledger.retained
    evicted := congrArg (· + decision.kvBlockIds.length) ledger.evicted
    pinned := ledger.pinned
    offloaded := card_union_le _ _ ledger.offloaded
    covered := (ledger.covered.commit id decision.kvBlockIds.length).mono owed }

theorem trigger (ledger : Ledger s) {elapsedMs : Rat} (due : Due s id elapsedMs decision) :
    Ledger (s.triggered id decision) where
  retained := ledger.retained
  evicted := ledger.evicted
  pinned := ledger.pinned
  offloaded := ledger.offloaded
  covered := by
    have settled := ledger.covered.settle id
    rw [due.owed] at settled
    exact settled.mono fun other => (owedFor_triggered decision id other).le

theorem call (ledger : Ledger s) (c : RetentionCall) : Ledger (EStateResult.state (exec c s)) := by
  have step := exec_step c s
  generalize exec c s = result at step
  cases step with
  | refused | negative | notDue | unlearned => exact ledger
  | retained nonneg unresolved same =>
      subst same
      rw [EStateResult.state_ok]
      exact ledger.retain rfl
  | pinned nonneg resolved predicts short same =>
      subst same
      rw [EStateResult.state_ok]
      exact ledger.pin _ _ _ _ _ rfl fun offload => by cases offload
  | offloaded nonneg resolved predicts long same =>
      subst same
      rw [EStateResult.state_ok]
      exact ledger.offload _ _ rfl rfl
  | triggered due => exact ledger.trigger due
  | reloaded =>
      exact ⟨ledger.retained, ledger.evicted, ledger.pinned,
        (Finset.card_le_card Finset.sdiff_subset).trans ledger.offloaded, ledger.covered⟩
  | released =>
      exact ⟨ledger.retained, ledger.evicted,
        (Finset.card_le_card Finset.sdiff_subset).trans ledger.pinned, ledger.offloaded,
        ledger.covered⟩
  | learned =>
      exact ⟨ledger.retained, ledger.evicted, ledger.pinned, ledger.offloaded, ledger.covered⟩

end Ledger

/-! ## Decisions of the past -/

/-- A call of the history has decided to offload the blocks of the tool call. -/
def WasOffloaded (fresh : AgentTTLPolicy) (calls : List RetentionCall) (id : String) : Prop :=
  ∃ pre c post decision, calls = pre ++ c :: post ∧
    EStateResult.outcome (exec c (drive exec fresh pre)) = .ok (some decision) ∧
    decision.action = .offload ∧ decision.toolCallId = some id

variable {fresh : AgentTTLPolicy} {calls : List RetentionCall}

theorem WasOffloaded.later (before : WasOffloaded fresh calls id) (c : RetentionCall) :
    WasOffloaded fresh (calls ++ [c]) id := by
  obtain ⟨pre, c', post, decision, rfl, decided⟩ := before
  refine ⟨pre, c', post ++ [c], decision, ?_, decided⟩
  rw [List.append_assoc, List.cons_append]

theorem WasOffloaded.last
    (decided : EStateResult.outcome (exec c (drive exec fresh calls)) = .ok (some decision))
    (offloads : decision.action = .offload) (named : decision.toolCallId = some id) :
    WasOffloaded fresh (calls ++ [c]) id :=
  ⟨calls, c, [], decision, rfl, decided, offloads, named⟩

/-- What is triggered or still to be triggered was decided before. -/
structure Remembered (fresh : AgentTTLPolicy) (calls : List RetentionCall) : Prop where
  triggered : ∀ id ∈ (drive exec fresh calls).prefetchTriggered, WasOffloaded fresh calls id
  current : ∀ id decision, (drive exec fresh calls).decisionsByToolCall.get? id = some decision →
    decision.action = .offload → WasOffloaded fresh calls id

namespace Remembered

/-- A call that leaves the prefetches and the decisions alone. -/
theorem kept (remembered : Remembered fresh calls)
    (triggered : (EStateResult.state (exec c (drive exec fresh calls))).prefetchTriggered =
      (drive exec fresh calls).prefetchTriggered)
    (decisions : (EStateResult.state (exec c (drive exec fresh calls))).decisionsByToolCall =
      (drive exec fresh calls).decisionsByToolCall) : Remembered fresh (calls ++ [c]) := by
  constructor
  · intro id member
    rw [drive_concat, triggered] at member
    exact (remembered.triggered id member).later c
  · intro id decision current offloads
    rw [drive_concat, decisions] at current
    exact (remembered.current id decision current offloads).later c

/-- A decision is remembered from the call that made it. -/
theorem decided (remembered : Remembered fresh calls)
    (ran : exec c (drive exec fresh calls) = .ok (some decision) (storeDecision decision t))
    (triggered : t.prefetchTriggered = (drive exec fresh calls).prefetchTriggered)
    (decisions : t.decisionsByToolCall = (drive exec fresh calls).decisionsByToolCall) :
    Remembered fresh (calls ++ [c]) := by
  constructor
  · intro id member
    rw [drive_concat, ran, EStateResult.state_ok, storeDecision_prefetchTriggered,
      triggered] at member
    exact (remembered.triggered id member).later c
  · intro id other current offloads
    rw [drive_concat, ran, EStateResult.state_ok, storeDecision_get?, decisions] at current
    split at current
    · next named =>
        cases current
        exact .last (by rw [ran, EStateResult.outcome_ok]) offloads named
    · exact (remembered.current id other current offloads).later c

theorem call (remembered : Remembered fresh calls) (c : RetentionCall) :
    Remembered fresh (calls ++ [c]) := by
  have step := exec_step c (drive exec fresh calls)
  generalize ran : exec c (drive exec fresh calls) = result at step
  cases step with
  | refused | negative | notDue | reloaded | released | learned | unlearned =>
      exact remembered.kept (by rw [ran]; rfl) (by rw [ran]; rfl)
  | retained | pinned | offloaded => exact remembered.decided ran rfl rfl
  | triggered due =>
      constructor
      · intro id member
        rw [drive_concat, ran] at member
        rcases Finset.mem_insert.mp member with rfl | before
        · exact (remembered.current _ _ due.current due.offload).later _
        · exact (remembered.triggered id before).later _
      · intro id decision current offloads
        rw [drive_concat, ran] at current
        exact (remembered.current id decision current offloads).later _

theorem drive (start : Fresh fresh) (calls : List RetentionCall) : Remembered fresh calls := by
  induction calls using List.reverseRecOn with
  | nil =>
      constructor
      · intro id member
        change id ∈ fresh.prefetchTriggered at member
        rw [start.triggered] at member
        cases member
      · intro id decision current
        change fresh.decisionsByToolCall.get? id = _ at current
        rw [start.decisions] at current
        cases current
  | append_singleton calls c remembered => exact remembered.call c

end Remembered

/-- After every history the counters of a policy agree, what is held is within them, and a
    prefetch is only triggered for a tool call that was decided to offload. -/
theorem retention_accounting {latencyEstimator : ToolLatencyEstimator}
    {ttlThresholdMs defaultTtlMs reloadCostMs prefetchMarginMs : Rat}
    (built : new latencyEstimator ttlThresholdMs defaultTtlMs reloadCostMs prefetchMarginMs =
      .ok fresh) (calls : List RetentionCall) :
    Accounts (drive exec fresh calls) ∧
      (∀ id ∈ (drive exec fresh calls).prefetchTriggered, WasOffloaded fresh calls id) ∧
      ∀ c e, EStateResult.outcome (exec c (drive exec fresh calls)) = .error e →
        EStateResult.state (exec c (drive exec fresh calls)) = drive exec fresh calls := by
  have ledger : Ledger (drive exec fresh calls) :=
    drive_invariant (fun _ c _ before => before.call c) (Ledger.new built)
  exact ⟨ledger.accounts, (Remembered.drive (.new built) calls).triggered,
    fun _ _ => state_of_raised⟩

theorem retention_accounting_searched : ∃ estimator fresh, new estimator = .ok fresh ∧
    Accounts (drive exec fresh [searched, .prefetchDue "call" 1000]) ∧
      (∀ id ∈ (drive exec fresh [searched, .prefetchDue "call" 1000]).prefetchTriggered,
        WasOffloaded fresh [searched, .prefetchDue "call" 1000] id) ∧
      ∀ c e, EStateResult.outcome
          (exec c (drive exec fresh [searched, .prefetchDue "call" 1000])) = .error e →
        EStateResult.state (exec c (drive exec fresh [searched, .prefetchDue "call" 1000])) =
          drive exec fresh [searched, .prefetchDue "call" 1000] := by
  obtain ⟨estimator, fresh, built, -⟩ := @readOf_new 1000 (by decide +kernel)
  exact ⟨estimator, fresh, built, retention_accounting built _⟩

end AgentTTLPolicy

end IntelliL3
