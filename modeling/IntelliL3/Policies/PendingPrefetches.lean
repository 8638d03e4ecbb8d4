import IntelliL3.Policies.PrefetchOnce

/-! # Pending prefetches

The pending list reads the current decisions and not what was triggered, so it
agrees with `prefetch_due` exactly as long as no prefetch is triggered.
-/

namespace IntelliL3

open Lib

namespace AgentTTLPolicy

variable {s : AgentTTLPolicy} {c : RetentionCall} {id : String} {decision : AgentRetentionDecision}

theorem mem_pendingPrefetches :
    decision ∈ s.pendingPrefetches ↔ ∃ id, s.decisionsByToolCall.get? id = some decision ∧
      decision.action = .offload ∧ decision.prefetchDelayMs.isSome = true := by
  simp only [pendingPrefetches, List.mem_filter, List.mem_map, Prod.exists, exists_eq_right,
    Dict.mem_entries_iff, Bool.and_eq_true, decide_eq_true_eq, exists_and_right]

/-! ## Decisions as they are made -/

/-- The decision of a tool call names it, and is delayed if it offloads. -/
structure Scheduled (id : String) (decision : AgentRetentionDecision) : Prop where
  named : decision.toolCallId = some id
  delayed : decision.action = .offload →
    ∃ delay, decision.prefetchDelayMs = some delay ∧ 0 ≤ delay

/-- Every decision kept for a tool call is one made for it. -/
def Kept (s : AgentTTLPolicy) : Prop :=
  ∀ id decision, s.decisionsByToolCall.get? id = some decision → Scheduled id decision

theorem Kept.offloads (kept : Kept s) (current : s.decisionsByToolCall.get? id = some decision)
    (offload : decision.action = .offload) : Offloads s id decision :=
  ⟨current, offload, (kept id decision current).delayed offload⟩

theorem Kept.store (kept : Kept s) {t : AgentTTLPolicy}
    (same : t.decisionsByToolCall = s.decisionsByToolCall)
    (made : ∀ id, decision.toolCallId = some id → Scheduled id decision) :
    Kept (storeDecision decision t) := by
  intro id other found
  rw [storeDecision_get?, same] at found
  split at found
  · next named =>
      cases found
      exact made id named
  · exact kept id other found

theorem Kept.call (kept : Kept s) (c : RetentionCall) : Kept (EStateResult.state (exec c s)) := by
  have step := exec_step c s
  generalize exec c s = result at step
  cases step with
  | retained nonneg unresolved same =>
      subst same
      rw [EStateResult.state_ok]
      refine kept.store rfl fun _ named => ?_
      cases named
  | pinned nonneg resolved predicts short same =>
      subst same
      rw [EStateResult.state_ok]
      refine kept.store rfl fun _ named => ⟨named, fun offload => ?_⟩
      cases offload
  | offloaded nonneg resolved predicts long same =>
      subst same
      rw [EStateResult.state_ok]
      refine kept.store rfl fun _ named => ⟨named, fun _ => ?_⟩
      exact ⟨_, rfl, le_max_left _ _⟩
  | refused | negative | notDue | triggered | reloaded | released | learned | unlearned =>
      exact kept

/-! ## Two views of one schedule -/

/-- A decision is pending exactly when `prefetch_due`, at some elapsed time, answers its tool
    call with its prefetch. -/
def ViewsAgree (s : AgentTTLPolicy) : Prop :=
  ∀ decision, decision ∈ s.pendingPrefetches ↔ ∃ id elapsedMs,
    decision.toolCallId = some id ∧ s.decisionsByToolCall.get? id = some decision ∧
      EStateResult.outcome (exec (.prefetchDue id elapsedMs) s) =
        .ok (some (prefetchOf decision id))

/-- No call finds the delay of an offload decision reached. -/
def NothingReached (s : AgentTTLPolicy) : RetentionCall → Prop
  | .prefetchDue id elapsedMs => ∀ decision, s.decisionsByToolCall.get? id = some decision →
      decision.action = .offload → decision.reachedAt elapsedMs = false
  | _ => True

/-- A prefetch is only answered to an offload decision. -/
theorem offload_of_answer {elapsedMs : Rat} {answer : AgentRetentionDecision}
    (current : s.decisionsByToolCall.get? id = some decision)
    (answered : EStateResult.outcome (exec (.prefetchDue id elapsedMs) s) = .ok (some answer)) :
    decision.action = .offload := by
  have step := exec_step (.prefetchDue id elapsedMs) s
  generalize exec (.prefetchDue id elapsedMs) s = result at step answered
  cases step with
  | triggered due =>
      obtain rfl := Option.some.inj (due.current.symm.trans current)
      exact due.offload
  | negative | notDue | learned | unlearned => cases answered

/-- A prefetch that was triggered stays in the pending list. -/
theorem Offloads.not_viewsAgree (offloads : Offloads s id decision)
    (named : decision.toolCallId = some id) (triggered : id ∈ s.prefetchTriggered) :
    ¬ ViewsAgree s := by
  intro agree
  obtain ⟨delay, scheduled, -⟩ := offloads.delayed
  obtain ⟨id', elapsedMs, named', -, answered⟩ := (agree decision).mp <|
    mem_pendingPrefetches.mpr ⟨id, offloads.current, offloads.offload, by rw [scheduled]; rfl⟩
  obtain rfl := Option.some.inj (named.symm.trans named')
  rw [offloads.prefetchDue_outcome] at answered
  split at answered
  · cases answered
  · rw [if_neg fun due => due.2 triggered] at answered
    cases answered

/-- The two views agree exactly when no tool call that offloads has been prefetched. -/
theorem Kept.viewsAgree_iff (kept : Kept s) :
    ViewsAgree s ↔ ∀ id decision, s.decisionsByToolCall.get? id = some decision →
      decision.action = .offload → id ∉ s.prefetchTriggered := by
  constructor
  · intro agree id decision current offload triggered
    exact (kept.offloads current offload).not_viewsAgree (kept id decision current).named
      triggered agree
  · intro untriggered decision
    rw [mem_pendingPrefetches]
    constructor
    · rintro ⟨id, current, offload, -⟩
      have offloads := kept.offloads current offload
      obtain ⟨delay, scheduled, nonneg⟩ := offloads.delayed
      refine ⟨id, delay, (kept id decision current).named, current, ?_⟩
      have reached : decision.reachedAt delay = true := by
        simp [AgentRetentionDecision.reachedAt, scheduled]
      rw [offloads.prefetchDue_outcome, if_neg (not_lt.mpr nonneg),
        if_pos ⟨reached, untriggered id decision current offload⟩]
    · rintro ⟨id, elapsedMs, named, current, answered⟩
      have offload := offload_of_answer current answered
      obtain ⟨delay, scheduled, -⟩ := (kept.offloads current offload).delayed
      exact ⟨id, current, offload, by rw [scheduled]; rfl⟩

theorem Kept.nothingReached_iff (kept : Kept s) (untriggered : s.prefetchTriggered = ∅)
    (c : RetentionCall) :
    NothingReached s c ↔ ∀ id elapsedMs decision, c = .prefetchDue id elapsedMs →
      ¬ Due s id elapsedMs decision := by
  constructor
  · rintro nothing id elapsedMs decision rfl due
    have early := nothing decision due.current due.offload
    have reached := due.reached
    rw [tooEarly_eq, early] at reached
    cases reached
  · intro undue
    cases c with
    | prefetchDue id elapsedMs =>
        intro decision current offload
        by_contra reached
        refine undue id elapsedMs decision rfl ((kept.offloads current offload).due_iff.mpr
          ⟨rfl, eq_true_of_ne_false reached, ?_⟩)
        rw [untriggered]
        exact Finset.notMem_empty id
    | _ => trivial

/-- The two views agree in every state of a history exactly when no call of it finds the delay
    of an offload decision reached. -/
theorem views_agree_iff {latencyEstimator : ToolLatencyEstimator}
    {ttlThresholdMs defaultTtlMs reloadCostMs prefetchMarginMs : Rat} {fresh : AgentTTLPolicy}
    (built : new latencyEstimator ttlThresholdMs defaultTtlMs reloadCostMs prefetchMarginMs =
      .ok fresh) (calls : List RetentionCall) :
    (∀ pre post, calls = pre ++ post → ViewsAgree (drive exec fresh pre)) ↔
      ∀ pre c post, calls = pre ++ c :: post → NothingReached (drive exec fresh pre) c := by
  have start : Kept fresh ∧ fresh.prefetchTriggered = ∅ := by
    refine ⟨fun id decision current => ?_, (Fresh.new built).triggered⟩
    rw [(Fresh.new built).decisions] at current
    cases current
  refine @drive_all_reached_iff _ _ _ _ exec (fun s _ => Kept s ∧ s.prefetchTriggered = ∅)
    _ _ (fun _ _ held => ?_) (fun s c _ held nothing => ?_)
    (fun s c _ held something => ?_) _ _ start
  · refine held.1.viewsAgree_iff.mpr fun id decision _ _ => ?_
    rw [held.2]
    exact Finset.notMem_empty id
  · refine ⟨held.1.call c, Finset.eq_empty_iff_forall_notMem.mpr fun id => ?_⟩
    rw [mem_triggered_exec, held.2]
    rintro (inside | ⟨elapsedMs, decision, same, due⟩)
    · exact absurd inside (Finset.notMem_empty id)
    · exact (held.1.nothingReached_iff held.2 c).mp nothing id elapsedMs decision same due
  · rw [held.1.nothingReached_iff held.2] at something
    push Not at something
    obtain ⟨id, elapsedMs, decision, rfl, due⟩ := something
    have offloads := held.1.offloads due.current due.offload
    refine (offloads.call rfl).1.not_viewsAgree (held.1 id decision due.current).named ?_
    exact (mem_triggered_exec _ _ _).mpr (Or.inr ⟨elapsedMs, decision, rfl, due⟩)

section

private def scheduleAfter (calls : List RetentionCall) (fresh : AgentTTLPolicy) :
    Option AgentRetentionDecision × Finset String :=
  ((drive exec fresh calls).decisionsByToolCall.get? "call",
    (drive exec fresh calls).prefetchTriggered)

/-- A prefetch that is asked for a millisecond too early. -/
theorem views_agree_early : ∃ estimator fresh, new estimator = .ok fresh ∧
    ∀ pre post, [searched, .prefetchDue "call" 899] = pre ++ post →
      ViewsAgree (drive exec fresh pre) := by
  obtain ⟨estimator, fresh, built, reads⟩ := @readOf_new 1000 (by decide +kernel)
  have schedule : scheduleAfter [searched] fresh = (some searchOffloaded, ∅) :=
    reads _ (by decide +kernel)
  obtain ⟨current, -⟩ := Prod.mk.inj schedule
  refine ⟨estimator, fresh, built, (views_agree_iff built _).mpr fun pre c post parts => ?_⟩
  match pre, parts with
  | [], parts =>
      cases parts
      trivial
  | [_], parts =>
      cases parts
      intro decision found offload
      rw [current] at found
      cases found
      decide +kernel
  | _ :: _ :: _, parts => simp at parts

/-- What was prefetched is still pending. -/
theorem prefetched_still_pending :
    ¬ ∀ (estimator : ToolLatencyEstimator) (fresh : AgentTTLPolicy) (calls : List RetentionCall),
      new estimator = .ok fresh → ViewsAgree (drive exec fresh calls) := by
  intro always
  obtain ⟨estimator, fresh, built, reads⟩ := @readOf_new 1000 (by decide +kernel)
  have schedule : scheduleAfter [searched, .prefetchDue "call" 900] fresh =
      (some searchOffloaded, {"call"}) := reads _ (by decide +kernel)
  obtain ⟨current, triggered⟩ := Prod.mk.inj schedule
  have offloads : Offloads (drive exec fresh [searched, .prefetchDue "call" 900]) "call"
      searchOffloaded := ⟨current, rfl, 900, rfl, by decide +kernel⟩
  refine offloads.not_viewsAgree rfl ?_ (always estimator fresh _ built)
  rw [triggered]
  exact Finset.mem_singleton_self _

end

end AgentTTLPolicy

end IntelliL3
