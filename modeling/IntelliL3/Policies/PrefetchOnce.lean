import IntelliL3.Policies.RetentionSteps

/-! # Prefetches

An offload decision stays the current one of its tool call until that call is
decided on again, and its prefetch is triggered by the first call that reaches its
delay. What was triggered is remembered by tool call, not by decision.
-/

namespace IntelliL3

open Lib

/-- The elapsed time reaches the delay of the decision. -/
def AgentRetentionDecision.reachedAt (decision : AgentRetentionDecision) (elapsedMs : Rat) : Bool :=
  decision.prefetchDelayMs.any fun delay => delay ≤ elapsedMs

namespace RetentionCall

/-- The call decides on the tool call of an agent step. -/
def decidesOn (id : String) : RetentionCall → Bool
  | .llmStepCompleted step _ toolCallId _ _ _ => orText toolCallId step.toolCallId = some id
  | _ => false

/-- The call asks for the prefetch of a decision, late enough. -/
def asksFor (decision : AgentRetentionDecision) (id : String) : RetentionCall → Bool
  | .prefetchDue toolCallId elapsedMs => toolCallId = id && decision.reachedAt elapsedMs
  | _ => false

end RetentionCall

namespace AgentTTLPolicy

variable {s : AgentTTLPolicy} {c : RetentionCall} {id : String} {decision : AgentRetentionDecision}

theorem tooEarly_eq (decision : AgentRetentionDecision) (elapsedMs : Rat) :
    tooEarly decision elapsedMs = !decision.reachedAt elapsedMs := by
  unfold tooEarly AgentRetentionDecision.reachedAt
  cases decision.prefetchDelayMs with
  | none => rfl
  | some delay => simp [← not_lt]

/-! ## One call -/

/-- The current decision of a tool call is to offload, after a delay. -/
structure Offloads (s : AgentTTLPolicy) (id : String) (decision : AgentRetentionDecision) :
    Prop where
  current : s.decisionsByToolCall.get? id = some decision
  offload : decision.action = .offload
  delayed : ∃ delay, decision.prefetchDelayMs = some delay ∧ 0 ≤ delay

theorem Offloads.elapsed_nonneg (offloads : Offloads s id decision) {elapsedMs : Rat}
    (reached : decision.reachedAt elapsedMs = true) : 0 ≤ elapsedMs := by
  obtain ⟨delay, scheduled, nonneg⟩ := offloads.delayed
  rw [AgentRetentionDecision.reachedAt, scheduled, Option.any_some, decide_eq_true_eq] at reached
  exact nonneg.trans reached

/-- What is due is the current decision, once its delay is reached. -/
theorem Offloads.due_iff (offloads : Offloads s id decision) {elapsedMs : Rat}
    {other : AgentRetentionDecision} :
    Due s id elapsedMs other ↔
      other = decision ∧ decision.reachedAt elapsedMs = true ∧ id ∉ s.prefetchTriggered := by
  constructor
  · intro due
    obtain rfl := Option.some.inj (due.current.symm.trans offloads.current)
    have reached := due.reached
    rw [tooEarly_eq, Bool.not_eq_false'] at reached
    exact ⟨rfl, reached, due.untriggered⟩
  · rintro ⟨rfl, reached, untriggered⟩
    exact ⟨offloads.elapsed_nonneg reached, untriggered, offloads.current, offloads.offload, by
      rw [tooEarly_eq, reached]; rfl⟩

/-- What `prefetch_due` answers for a tool call that offloads. -/
theorem Offloads.prefetchDue_outcome (offloads : Offloads s id decision) (elapsedMs : Rat) :
    EStateResult.outcome (exec (.prefetchDue id elapsedMs) s) =
      if elapsedMs < 0 then .error (.valueError "elapsed_ms must be non-negative")
      else if decision.reachedAt elapsedMs = true ∧ id ∉ s.prefetchTriggered then
        .ok (some (prefetchOf decision id))
      else .ok none := by
  have step := exec_step (.prefetchDue id elapsedMs) s
  generalize exec (.prefetchDue id elapsedMs) s = result at step
  cases step with
  | negative elapsed => rw [if_pos elapsed]; rfl
  | notDue nonneg undue =>
      rw [if_neg (not_lt.mpr nonneg),
        if_neg fun due => undue decision (offloads.due_iff.mpr ⟨rfl, due⟩)]
      rfl
  | triggered due =>
      obtain ⟨rfl, reached⟩ := offloads.due_iff.mp due
      rw [if_neg (not_lt.mpr due.elapsed), if_pos reached]
      rfl
  | learned estimator latency => cases latency
  | unlearned e latency => cases latency

/-- A decision that offloads becomes the current one, and triggers nothing. -/
theorem decides_offload (decides : c.decidesOn id = true)
    (answer : EStateResult.outcome (exec c s) = .ok (some decision))
    (offload : decision.action = .offload) :
    Offloads (EStateResult.state (exec c s)) id decision ∧
      (EStateResult.state (exec c s)).prefetchTriggered = s.prefetchTriggered := by
  have step := exec_step c s
  generalize exec c s = result at step answer
  cases step with
  | refused negative => cases answer
  | retained nonneg unresolved same =>
      cases answer
      subst same
      cases offload
  | pinned nonneg resolved predicts short same =>
      cases answer
      subst same
      cases offload
  | offloaded nonneg resolved predicts long same =>
      obtain rfl := Option.some.inj (Except.ok.inj answer)
      have named : some _ = some id := resolved.symm.trans (of_decide_eq_true decides)
      cases named
      subst same
      rw [EStateResult.state_ok, storeDecision_prefetchTriggered]
      refine ⟨⟨?_, offload, _, rfl, le_max_left _ _⟩, rfl⟩
      rw [storeDecision_get?]
      exact if_pos rfl
  | negative | notDue | triggered | reloaded | released => cases decides
  | learned estimator latency => cases answer
  | unlearned e latency => cases answer

/-- Only a step of the agent changes the decision of a tool call. -/
theorem get?_undecided (s : AgentTTLPolicy) (undecided : c.decidesOn id = false) :
    (EStateResult.state (exec c s)).decisionsByToolCall.get? id =
      s.decisionsByToolCall.get? id := by
  have step := exec_step c s
  generalize exec c s = result at step
  have elsewhere : ∀ {other : String} {step : AgentStep} {toolCallId : Option String},
      orText toolCallId step.toolCallId = some other →
      decide (orText toolCallId step.toolCallId = some id) = false →
        ¬ some other = some id := by
    intro other step toolCallId resolved apart
    rw [resolved] at apart
    exact of_decide_eq_false apart
  cases step with
  | retained nonneg unresolved same =>
      subst same
      rw [EStateResult.state_ok, storeDecision_get?_ne]
      exact (Option.some_ne_none _).symm
  | pinned nonneg resolved predicts short same =>
      subst same
      rw [EStateResult.state_ok, storeDecision_get?_ne _ _ (elsewhere resolved undecided)]
      rfl
  | offloaded nonneg resolved predicts long same =>
      subst same
      rw [EStateResult.state_ok, storeDecision_get?_ne _ _ (elsewhere resolved undecided)]
      rfl
  | refused | negative | notDue | triggered | reloaded | released | learned | unlearned => rfl

/-- Only a prefetch that is due is triggered. -/
theorem mem_triggered_exec (s : AgentTTLPolicy) (c : RetentionCall) (id : String) :
    id ∈ (EStateResult.state (exec c s)).prefetchTriggered ↔
      id ∈ s.prefetchTriggered ∨
        ∃ elapsedMs decision, c = .prefetchDue id elapsedMs ∧ Due s id elapsedMs decision := by
  have step := exec_step c s
  generalize exec c s = result at step
  cases step with
  | retained nonneg unresolved same => simp
  | pinned nonneg resolved predicts short same =>
      simp [profiled, AgentTTLPolicy.pinned]
  | offloaded nonneg resolved predicts long same =>
      simp [profiled, AgentTTLPolicy.offloaded]
  | notDue nonneg undue =>
      refine (or_iff_left ?_).symm
      rintro ⟨elapsedMs, decision, same, due⟩
      cases same
      exact undue decision due
  | @triggered other elapsedMs decision due =>
      change id ∈ insert other s.prefetchTriggered ↔ _
      rw [Finset.mem_insert, or_comm]
      refine or_congr_right ⟨?_, ?_⟩
      · rintro rfl
        exact ⟨elapsedMs, decision, rfl, due⟩
      · rintro ⟨elapsedMs, decision, same, -⟩
        cases same
        rfl
  | negative elapsed =>
      refine (or_iff_left ?_).symm
      rintro ⟨elapsedMs, decision, same, due⟩
      cases same
      exact absurd due.elapsed (not_le.mpr elapsed)
  | refused | reloaded | released => simp [onKvReloaded, onPinnedKvReleased]
  | learned estimator latency | unlearned e latency =>
      refine (or_iff_left ?_).symm
      rintro ⟨elapsedMs, decision, rfl, due⟩
      cases latency

/-- Until the tool call is decided on again its decision stays, and its prefetch is triggered
    by the first call that asks for it. -/
theorem Offloads.call (offloads : Offloads s id decision) (undecided : c.decidesOn id = false) :
    Offloads (EStateResult.state (exec c s)) id decision ∧
      (id ∈ (EStateResult.state (exec c s)).prefetchTriggered ↔
        id ∈ s.prefetchTriggered ∨ c.asksFor decision id = true) := by
  refine ⟨⟨(get?_undecided s undecided).trans offloads.current, offloads.offload,
    offloads.delayed⟩, ?_⟩
  rw [mem_triggered_exec]
  by_cases triggered : id ∈ s.prefetchTriggered
  · exact iff_of_true (Or.inl triggered) (Or.inl triggered)
  · refine or_congr_right ⟨?_, fun asks => ?_⟩
    · rintro ⟨elapsedMs, other, rfl, due⟩
      obtain ⟨rfl, reached, -⟩ := offloads.due_iff.mp due
      simpa [RetentionCall.asksFor] using reached
    · cases c with
      | prefetchDue toolCallId elapsedMs =>
          rw [RetentionCall.asksFor, Bool.and_eq_true, decide_eq_true_eq] at asks
          obtain ⟨rfl, reached⟩ := asks
          exact ⟨elapsedMs, decision, rfl, offloads.due_iff.mpr ⟨rfl, reached, triggered⟩⟩
      | _ => cases asks

theorem Offloads.calls (offloads : Offloads s id decision) {calls : List RetentionCall}
    (undecided : ∀ c ∈ calls, c.decidesOn id = false) :
    Offloads (drive exec s calls) id decision ∧
      (id ∈ (drive exec s calls).prefetchTriggered ↔
        id ∈ s.prefetchTriggered ∨ calls.any (RetentionCall.asksFor decision id) = true) := by
  induction calls generalizing s with
  | nil => exact ⟨offloads, by simp [drive]⟩
  | cons c rest ih =>
      obtain ⟨first, asked⟩ := offloads.call (undecided c List.mem_cons_self)
      obtain ⟨last, later⟩ := ih first fun c member => undecided c (List.mem_cons_of_mem _ member)
      refine ⟨last, later.trans ?_⟩
      rw [asked, List.any_cons, Bool.or_eq_true, or_assoc]

/-! ## Runs -/

/-- A run in which a step of the agent decides to offload for a tool call, and the prefetch is
    asked for before the next step that decides on the tool call. -/
structure AskedWithin (s : AgentTTLPolicy) (calls pre : List RetentionCall) (c : RetentionCall)
    (between : List RetentionCall) (id : String) (elapsedMs : Rat)
    (decision : AgentRetentionDecision) : Prop where
  run : ∃ rest, calls = pre ++ c :: (between ++ .prefetchDue id elapsedMs :: rest)
  decides : c.decidesOn id = true
  decided : EStateResult.outcome (exec c (drive exec s pre)) = .ok (some decision)
  offload : decision.action = .offload
  undecided : ∀ c ∈ between, c.decidesOn id = false

/-- The answer that is right after the calls since the decision: the first call late enough is
    answered by the prefetch, no other one is; no time elapsed is negative. -/
def rightAnswer (between : List RetentionCall) (id : String) (elapsedMs : Rat)
    (decision : AgentRetentionDecision) : Except PyError (Option AgentRetentionDecision) :=
  if elapsedMs < 0 then .error (.valueError "elapsed_ms must be non-negative")
  else if decision.reachedAt elapsedMs = true ∧
      ¬ between.any (RetentionCall.asksFor decision id) = true then
    .ok (some (prefetchOf decision id))
  else .ok none

variable {calls pre between : List RetentionCall} {elapsedMs : Rat}

theorem AskedWithin.offloads (asked : AskedWithin s calls pre c between id elapsedMs decision) :
    Offloads (drive exec s (pre ++ c :: between)) id decision ∧
      (id ∈ (drive exec s (pre ++ c :: between)).prefetchTriggered ↔
        id ∈ (drive exec s pre).prefetchTriggered ∨
          between.any (RetentionCall.asksFor decision id) = true) := by
  obtain ⟨start, same⟩ := decides_offload asked.decides asked.decided asked.offload
  rw [drive_append, ← same]
  exact start.calls asked.undecided

/-- The first call that asks for a prefetch before another one that does. -/
theorem AskedWithin.first (asked : AskedWithin s calls pre c between id elapsedMs decision)
    (before : between.any (RetentionCall.asksFor decision id) = true) :
    ∃ earlier elapsedMs, AskedWithin s calls pre c earlier id elapsedMs decision ∧
      decision.reachedAt elapsedMs = true ∧
      ¬ earlier.any (RetentionCall.asksFor decision id) = true := by
  obtain ⟨late, found⟩ :=
    Option.isSome_iff_exists.mp (List.find?_isSome.mpr (List.any_eq_true.mp before))
  obtain ⟨asks, earlier, later, split, unasked⟩ := List.find?_eq_some_iff_append.mp found
  obtain ⟨rest, run⟩ := asked.run
  cases late with
  | prefetchDue toolCallId elapsedMs' =>
      rw [RetentionCall.asksFor, Bool.and_eq_true, decide_eq_true_eq] at asks
      obtain ⟨rfl, reached⟩ := asks
      refine ⟨earlier, elapsedMs', ⟨⟨later ++ .prefetchDue toolCallId elapsedMs :: rest, ?_⟩,
        asked.decides, asked.decided, asked.offload, fun c member => asked.undecided c ?_⟩,
        reached, ?_⟩
      · rw [run, split, List.append_assoc]
        rfl
      · rw [split]
        exact List.mem_append_left _ member
      · rw [List.any_eq_true]
        rintro ⟨c, member, asks⟩
        simpa [asks] using unasked c member
  | _ => cases asks

/-- Each decision to offload is prefetched exactly once exactly when no decision to offload for a
    tool call whose prefetch was triggered before is asked for late enough. -/
theorem prefetched_once_iff (s : AgentTTLPolicy) (calls : List RetentionCall) :
    (∀ pre c between id elapsedMs decision,
        AskedWithin s calls pre c between id elapsedMs decision →
        EStateResult.outcome (exec (.prefetchDue id elapsedMs)
          (drive exec s (pre ++ c :: between))) = rightAnswer between id elapsedMs decision) ↔
      ∀ pre c between id elapsedMs decision,
        AskedWithin s calls pre c between id elapsedMs decision →
        decision.reachedAt elapsedMs = true → id ∉ (drive exec s pre).prefetchTriggered := by
  constructor
  · intro right pre c between id elapsedMs decision asked reached triggered
    have first : ∃ earlier elapsedMs, AskedWithin s calls pre c earlier id elapsedMs decision ∧
        decision.reachedAt elapsedMs = true ∧
        ¬ earlier.any (RetentionCall.asksFor decision id) = true := by
      by_cases before : between.any (RetentionCall.asksFor decision id) = true
      · exact asked.first before
      · exact ⟨between, elapsedMs, asked, reached, before⟩
    obtain ⟨earlier, elapsedMs, asked, reached, unasked⟩ := first
    have answer := right pre c earlier id elapsedMs decision asked
    obtain ⟨offloads, asksIff⟩ := asked.offloads
    rw [offloads.prefetchDue_outcome, rightAnswer,
      if_neg (not_lt.mpr (offloads.elapsed_nonneg reached)),
      if_neg (not_lt.mpr (offloads.elapsed_nonneg reached)),
      if_neg fun due => due.2 (asksIff.mpr (Or.inl triggered)), if_pos ⟨reached, unasked⟩] at answer
    cases answer
  · intro untriggered pre c between id elapsedMs decision asked
    obtain ⟨offloads, asksIff⟩ := asked.offloads
    rw [offloads.prefetchDue_outcome, rightAnswer]
    have same : (decision.reachedAt elapsedMs = true ∧
        id ∉ (drive exec s (pre ++ c :: between)).prefetchTriggered) ↔
          (decision.reachedAt elapsedMs = true ∧
            ¬ between.any (RetentionCall.asksFor decision id) = true) := by
      refine and_congr_right fun reached => not_congr (asksIff.trans (or_iff_right ?_))
      exact untriggered pre c between id elapsedMs decision asked reached
    simp only [same]

section

private def prefetched : List RetentionCall := [searched, .prefetchDue "call" 900]

private def answerTo (c : RetentionCall) (pre : List RetentionCall) (fresh : AgentTTLPolicy) :
    Except PyError (Option AgentRetentionDecision) :=
  EStateResult.outcome (exec c (drive exec fresh pre))

/-- The step is decided on again after the prefetch of its tool call, and not prefetched again. -/
theorem retried_call_not_prefetched :
    ¬ ∀ (estimator : ToolLatencyEstimator) (fresh : AgentTTLPolicy),
      new estimator = .ok fresh →
      ∀ calls pre c between id elapsedMs decision,
        AskedWithin fresh calls pre c between id elapsedMs decision →
        EStateResult.outcome (exec (.prefetchDue id elapsedMs)
          (drive exec fresh (pre ++ c :: between))) =
            rightAnswer between id elapsedMs decision := by
  intro always
  obtain ⟨estimator, fresh, built, reads⟩ := @readOf_new 1000 (by decide +kernel)
  have decided : answerTo searched prefetched fresh = .ok (some searchOffloaded) :=
    reads _ (by decide +kernel)
  have answer : answerTo (.prefetchDue "call" 900) (prefetched ++ [searched]) fresh = .ok none :=
    reads _ (by decide +kernel)
  have asked : AskedWithin fresh (prefetched ++ searched :: ([] ++ [.prefetchDue "call" 900]))
      prefetched searched [] "call" 900 searchOffloaded :=
    ⟨⟨[], rfl⟩, by decide +kernel, decided, rfl, List.forall_mem_nil _⟩
  have right := always estimator fresh built _ _ _ _ _ _ _ asked
  change answerTo (.prefetchDue "call" 900) (prefetched ++ [searched]) fresh = _ at right
  rw [answer] at right
  exact absurd right (by decide +kernel)

end

end AgentTTLPolicy

end IntelliL3
