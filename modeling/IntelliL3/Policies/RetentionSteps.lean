import IntelliL3.Policies.AgentTTL

/-! # What a call of the policy does

Every call of the retention policy is one of a few steps, guards included; a call
that raises changes nothing. What holds along runs is proved from these steps.
-/

namespace IntelliL3

open Lib

/-- A call that tells the estimator something and touches nothing else. -/
def RetentionCall.isLatency : RetentionCall → Bool
  | .toolCompleted .. | .recordLatency .. | .recordInterval .. | .resetLatencies => true
  | .llmStepCompleted .. | .prefetchDue .. | .kvReloaded .. | .pinnedKvReleased .. => false

namespace ToolLatencyEstimator

/-- A latency is recorded, or refused and nothing changes. -/
theorem recordLatency_cases (toolName : String) (latencyMs : Rat) (toolArgsClass : Option String)
    (estimator : ToolLatencyEstimator) :
    (∃ recorded, recordLatency toolName latencyMs toolArgsClass estimator = .ok () recorded) ∨
      ∃ e, recordLatency toolName latencyMs toolArgsClass estimator = .error e estimator := by
  unfold recordLatency
  rw [bind_run]
  cases normalizeName toolName "tool_name" with
  | error e => exact Or.inr ⟨e, rfl⟩
  | ok name =>
      simp only [raising_ok]
      split
      · exact Or.inr ⟨_, rfl⟩
      · exact Or.inl ⟨_, rfl⟩

theorem recordInterval_cases (toolName : String) (startedAt endedAt : Rat)
    (toolArgsClass : Option String) (estimator : ToolLatencyEstimator) :
    (∃ recorded, recordInterval toolName startedAt endedAt toolArgsClass estimator =
        .ok () recorded) ∨
      ∃ e, recordInterval toolName startedAt endedAt toolArgsClass estimator =
        .error e estimator := by
  unfold recordInterval
  split
  · exact Or.inr ⟨_, rfl⟩
  · exact recordLatency_cases _ _ _ estimator

end ToolLatencyEstimator

namespace AgentTTLPolicy

/-- A policy that has decided nothing yet. -/
structure Fresh (s : AgentTTLPolicy) : Prop where
  decisions : s.decisionsByToolCall = .empty
  triggered : s.prefetchTriggered = ∅
  pinned : s.pinnedBlocks = ∅
  offloaded : s.offloadedBlocks = ∅

theorem Fresh.new {latencyEstimator : ToolLatencyEstimator}
    {ttlThresholdMs defaultTtlMs reloadCostMs prefetchMarginMs : Rat} {s : AgentTTLPolicy}
    (built : AgentTTLPolicy.new latencyEstimator ttlThresholdMs defaultTtlMs reloadCostMs
      prefetchMarginMs = .ok s) : Fresh s := by
  unfold AgentTTLPolicy.new at built
  iterate 4 obtain ⟨_, built⟩ := check_passed built
  cases built
  exact ⟨rfl, rfl, rfl, rfl⟩

theorem new_returns (latencyEstimator : ToolLatencyEstimator)
    {ttlThresholdMs defaultTtlMs reloadCostMs prefetchMarginMs : Rat}
    (thresholdNonneg : 0 ≤ ttlThresholdMs) (defaultTtlNonneg : 0 ≤ defaultTtlMs)
    (reloadNonneg : 0 ≤ reloadCostMs) (marginNonneg : 0 ≤ prefetchMarginMs) :
    ∃ s, new latencyEstimator ttlThresholdMs defaultTtlMs reloadCostMs prefetchMarginMs =
      .ok s := by
  unfold new
  rw [dif_neg (not_lt.mpr thresholdNonneg), dif_neg (not_lt.mpr defaultTtlNonneg),
    dif_neg (not_lt.mpr reloadNonneg), dif_neg (not_lt.mpr marginNonneg)]
  exact ⟨_, rfl⟩

/-! ## Steps -/

/-- What is known of a tool call that is decided on. -/
def profiled (toolCallId toolName : String) (toolArgsClass : Option String)
    (self : AgentTTLPolicy) : AgentTTLPolicy :=
  { self with toolProfiles := self.toolProfiles.set toolCallId ⟨toolName, toolArgsClass⟩ }

/-- The step that triggers the prefetch of a decision. -/
def triggered (toolCallId : String) (decision : AgentRetentionDecision) (self : AgentTTLPolicy) :
    AgentTTLPolicy :=
  { self with
    prefetchTriggered := insert toolCallId self.prefetchTriggered
    prefetchTriggerCount := self.prefetchTriggerCount + decision.kvBlockIds.length }

section

variable (decision : AgentRetentionDecision) (s : AgentTTLPolicy)

@[simp] theorem storeDecision_pinnedBlocks :
    (storeDecision decision s).pinnedBlocks = s.pinnedBlocks := by
  unfold storeDecision
  cases decision.toolCallId <;> rfl

@[simp] theorem storeDecision_offloadedBlocks :
    (storeDecision decision s).offloadedBlocks = s.offloadedBlocks := by
  unfold storeDecision
  cases decision.toolCallId <;> rfl

@[simp] theorem storeDecision_prefetchTriggered :
    (storeDecision decision s).prefetchTriggered = s.prefetchTriggered := by
  unfold storeDecision
  cases decision.toolCallId <;> rfl

theorem storeDecision_get? (id : String) :
    (storeDecision decision s).decisionsByToolCall.get? id =
      if decision.toolCallId = some id then some decision
      else s.decisionsByToolCall.get? id := by
  unfold storeDecision
  cases decision.toolCallId with
  | none => rfl
  | some toolCallId =>
      simp only [Dict.get?_set, Option.some.injEq]

theorem storeDecision_get?_ne {id : String} (other : decision.toolCallId ≠ some id) :
    (storeDecision decision s).decisionsByToolCall.get? id = s.decisionsByToolCall.get? id := by
  rw [storeDecision_get?, if_neg other]

end

/-- A decision whose prefetch is due for a tool call, that has none triggered yet. -/
structure Due (s : AgentTTLPolicy) (toolCallId : String) (elapsedMs : Rat)
    (decision : AgentRetentionDecision) : Prop where
  elapsed : 0 ≤ elapsedMs
  untriggered : toolCallId ∉ s.prefetchTriggered
  current : s.decisionsByToolCall.get? toolCallId = some decision
  offload : decision.action = .offload
  reached : tooEarly decision elapsedMs = false

/-- What a call can do, and what it answers. -/
inductive Step (s : AgentTTLPolicy) :
    RetentionCall → EStateM.Result PyError AgentTTLPolicy (Option AgentRetentionDecision) → Prop
  | refused {step kvBlockIds toolCallId toolName toolArgsClass reloadCostMs} :
      reloadCostMs.getD s.reloadCostMs < 0 →
      Step s (.llmStepCompleted step kvBlockIds toolCallId toolName toolArgsClass reloadCostMs)
        (.error (.valueError "reload_cost_ms must be non-negative") s)
  | retained {step kvBlockIds toolCallId toolName toolArgsClass reloadCostMs decision} :
      0 ≤ reloadCostMs.getD s.reloadCostMs → orText toolCallId step.toolCallId = none →
      decision = retainDecision step.stepId (kvBlockIds.getD step.kvBlockIds)
        (reloadCostMs.getD s.reloadCostMs) →
      Step s (.llmStepCompleted step kvBlockIds toolCallId toolName toolArgsClass reloadCostMs)
        (.ok (some decision) (storeDecision decision s))
  | pinned {step kvBlockIds toolCallId toolName toolArgsClass reloadCostMs id predicted decision} :
      0 ≤ reloadCostMs.getD s.reloadCostMs → orText toolCallId step.toolCallId = some id →
      s.latencyEstimator.predictLatency (resolveToolName step toolName) toolArgsClass =
        .ok predicted → predicted ≤ s.ttlThresholdMs →
      decision = s.pinDecision step.stepId (kvBlockIds.getD step.kvBlockIds) id predicted
        (reloadCostMs.getD s.reloadCostMs) →
      Step s (.llmStepCompleted step kvBlockIds toolCallId toolName toolArgsClass reloadCostMs)
        (.ok (some decision) (storeDecision decision
          ((s.profiled id (resolveToolName step toolName) toolArgsClass).pinned
            (kvBlockIds.getD step.kvBlockIds) predicted (reloadCostMs.getD s.reloadCostMs))))
  | offloaded {step kvBlockIds toolCallId toolName toolArgsClass reloadCostMs id predicted
      decision} :
      0 ≤ reloadCostMs.getD s.reloadCostMs → orText toolCallId step.toolCallId = some id →
      s.latencyEstimator.predictLatency (resolveToolName step toolName) toolArgsClass =
        .ok predicted → s.ttlThresholdMs < predicted →
      decision = s.offloadDecision step.stepId (kvBlockIds.getD step.kvBlockIds) id predicted
        (reloadCostMs.getD s.reloadCostMs) →
      Step s (.llmStepCompleted step kvBlockIds toolCallId toolName toolArgsClass reloadCostMs)
        (.ok (some decision) (storeDecision decision
          ((s.profiled id (resolveToolName step toolName) toolArgsClass).offloaded
            (kvBlockIds.getD step.kvBlockIds))))
  | negative {id elapsedMs} : elapsedMs < 0 →
      Step s (.prefetchDue id elapsedMs)
        (.error (.valueError "elapsed_ms must be non-negative") s)
  | notDue {id elapsedMs} : 0 ≤ elapsedMs → (∀ decision, ¬ Due s id elapsedMs decision) →
      Step s (.prefetchDue id elapsedMs) (.ok none s)
  | triggered {id elapsedMs decision} : Due s id elapsedMs decision →
      Step s (.prefetchDue id elapsedMs)
        (.ok (some (prefetchOf decision id)) (s.triggered id decision))
  | reloaded {kvBlockIds} : Step s (.kvReloaded kvBlockIds) (.ok none (s.onKvReloaded kvBlockIds))
  | released {kvBlockIds} :
      Step s (.pinnedKvReleased kvBlockIds) (.ok none (s.onPinnedKvReleased kvBlockIds))
  | learned {c} (estimator : ToolLatencyEstimator) : c.isLatency = true →
      Step s c (.ok none { s with latencyEstimator := estimator })
  | unlearned {c} (e : PyError) : c.isLatency = true → Step s c (.error e s)

variable {s : AgentTTLPolicy}

theorem resolveToolName_normalized (step : AgentStep) (toolName : Option String) :
    ToolLatencyEstimator.normalizeName (resolveToolName step toolName) "tool_name" =
      .ok (resolveToolName step toolName) := by
  have unknown : ToolLatencyEstimator.normalizeName "unknown" "tool_name" = .ok "unknown" := by
    decide +kernel
  unfold resolveToolName
  cases orText toolName step.objMeta.toolName with
  | none => exact unknown
  | some resolved =>
      simp only
      split
      · exact unknown
      · next named => rw [ToolLatencyEstimator.normalizeName, strip_strip, if_neg named]

/-- A tool name is always resolved to one the estimator accepts. -/
theorem predictLatency_resolved (estimator : ToolLatencyEstimator) (step : AgentStep)
    (toolName toolArgsClass : Option String) :
    ∃ predicted, estimator.predictLatency (resolveToolName step toolName) toolArgsClass =
      .ok predicted := by
  simp only [ToolLatencyEstimator.predictLatency, resolveToolName_normalized, bind, Except.bind]
  split
  · exact ⟨_, rfl⟩
  · split <;> exact ⟨_, rfl⟩

/-- A call that returns nothing changes the estimator; one that raises changes nothing. -/
def OnlyEstimator (action : EStateM PyError AgentTTLPolicy Unit) (s : AgentTTLPolicy) : Prop :=
  (∃ estimator, action s = .ok () { s with latencyEstimator := estimator }) ∨
    ∃ e, action s = .error e s

theorem onEstimator_only {action : EStateM PyError ToolLatencyEstimator Unit}
    (cases : (∃ recorded, action s.latencyEstimator = .ok () recorded) ∨
      ∃ e, action s.latencyEstimator = .error e s.latencyEstimator) :
    OnlyEstimator (onEstimator action) s := by
  unfold OnlyEstimator onEstimator
  rw [zoom_run]
  rcases cases with ⟨recorded, ran⟩ | ⟨e, ran⟩
  · rw [ran]
    exact Or.inl ⟨recorded, rfl⟩
  · rw [ran]
    exact Or.inr ⟨e, rfl⟩

theorem onToolCompleted_only (toolCallId : String) (actualLatencyMs : Rat)
    (toolName toolArgsClass : Option String) (s : AgentTTLPolicy) :
    OnlyEstimator (onToolCompleted toolCallId actualLatencyMs toolName toolArgsClass) s := by
  unfold OnlyEstimator onToolCompleted
  split
  · exact Or.inr ⟨_, rfl⟩
  · rw [bind_run, get_run]
    simp only
    cases orText toolName ((s.toolProfiles.get? toolCallId).map ToolProfile.toolName) with
    | none => exact Or.inr ⟨_, rfl⟩
    | some resolvedToolName =>
        exact onEstimator_only (ToolLatencyEstimator.recordLatency_cases _ _ _ _)

theorem OnlyEstimator.step {action : EStateM PyError AgentTTLPolicy Unit} {c : RetentionCall}
    (only : OnlyEstimator action s) (latency : c.isLatency = true) :
    Step s c ((action >>= fun _ => pure none) s) := by
  rw [bind_run]
  rcases only with ⟨estimator, ran⟩ | ⟨e, ran⟩
  · rw [ran]
    exact .learned estimator latency
  · rw [ran]
    exact .unlearned e latency

theorem llmStepCompleted_step (s : AgentTTLPolicy) (step : AgentStep)
    (kvBlockIds : Option (List String)) (toolCallId toolName toolArgsClass : Option String)
    (reloadCostMs : Option Rat) :
    Step s (.llmStepCompleted step kvBlockIds toolCallId toolName toolArgsClass reloadCostMs)
      (exec (.llmStepCompleted step kvBlockIds toolCallId toolName toolArgsClass reloadCostMs)
        s) := by
  have ran : exec
      (.llmStepCompleted step kvBlockIds toolCallId toolName toolArgsClass reloadCostMs) s =
      (onLlmStepCompleted step kvBlockIds toolCallId toolName toolArgsClass reloadCostMs >>=
        fun decision => pure (some decision)) s := rfl
  rw [ran, bind_run, onLlmStepCompleted, bind_run, get_run]
  simp only
  by_cases negative : reloadCostMs.getD s.reloadCostMs < 0
  · rw [if_pos negative]
    exact .refused negative
  · rw [if_neg negative]
    rw [not_lt] at negative
    cases resolved : orText toolCallId step.toolCallId with
    | none => exact .retained negative resolved rfl
    | some id =>
        obtain ⟨predicted, returns⟩ :=
          predictLatency_resolved s.latencyEstimator step toolName toolArgsClass
        simp only [returns, bind_run, raising_ok, modify_run]
        by_cases short : predicted ≤ s.ttlThresholdMs
        · rw [if_pos short]
          exact .pinned negative resolved returns short rfl
        · rw [if_neg short]
          exact .offloaded negative resolved returns (not_le.mp short) rfl

theorem prefetchDue_step (s : AgentTTLPolicy) (toolCallId : String) (elapsedMs : Rat) :
    Step s (.prefetchDue toolCallId elapsedMs) (prefetchDue toolCallId elapsedMs s) := by
  unfold prefetchDue
  by_cases negative : elapsedMs < 0
  · rw [if_pos negative]
    exact .negative negative
  · rw [if_neg negative, bind_run, get_run]
    simp only
    rw [not_lt] at negative
    by_cases before : toolCallId ∈ s.prefetchTriggered
    · rw [if_pos before]
      exact .notDue negative fun _ due => due.untriggered before
    · rw [if_neg before]
      cases current : s.decisionsByToolCall.get? toolCallId with
      | none => exact .notDue negative fun _ due => by simp [due.current] at current
      | some decision =>
          simp only
          have same : ∀ other, Due s toolCallId elapsedMs other → other = decision :=
            fun other due => Option.some.inj (due.current.symm.trans current)
          split
          · next kept =>
              refine .notDue negative fun other due => ?_
              cases same other due
              exact kept due.offload
          · next offload =>
              split
              · next early =>
                  refine .notDue negative fun other due => ?_
                  cases same other due
                  rw [due.reached] at early
                  cases early
              · next reached =>
                  exact .triggered ⟨negative, before, current, not_not.mp offload,
                    Bool.eq_false_iff.mpr reached⟩

theorem exec_step (c : RetentionCall) (s : AgentTTLPolicy) : Step s c (exec c s) := by
  cases c with
  | llmStepCompleted step kvBlockIds toolCallId toolName toolArgsClass reloadCostMs =>
      exact llmStepCompleted_step s step kvBlockIds toolCallId toolName toolArgsClass reloadCostMs
  | prefetchDue toolCallId elapsedMs => exact prefetchDue_step s toolCallId elapsedMs
  | toolCompleted toolCallId actualLatencyMs toolName toolArgsClass =>
      exact (onToolCompleted_only toolCallId actualLatencyMs toolName toolArgsClass s).step rfl
  | kvReloaded kvBlockIds => exact .reloaded
  | pinnedKvReleased kvBlockIds => exact .released
  | recordLatency toolName latencyMs toolArgsClass =>
      exact (onEstimator_only (ToolLatencyEstimator.recordLatency_cases toolName latencyMs
        toolArgsClass _)).step rfl
  | recordInterval toolName startedAt endedAt toolArgsClass =>
      exact (onEstimator_only (ToolLatencyEstimator.recordInterval_cases toolName startedAt
        endedAt toolArgsClass _)).step rfl
  | resetLatencies => exact .learned _ rfl

/-! ## A step that searches -/

def searchStep : AgentStep where
  objMeta := { objectId := "m", objectType := .agentStep, createdAt := 0, lastAccessed := 0 }
  stepId := "step"
  workflowId := "workflow"
  agentId := "agent"
  toolCallId := some "call"
  kvBlockIds := ["kv"]
  timestampStart := 0
  timestampsOrdered := fun _ stopped => by cases stopped

def searched : RetentionCall :=
  .llmStepCompleted searchStep none none (some "search") none none

/-- What is decided for it by default, its latency being predicted as one second. -/
def searchOffloaded : AgentRetentionDecision where
  stepId := "step"
  kvBlockIds := ["kv"]
  action := .offload
  ttlMs := none
  reason := "long_tool_call"
  toolCallId := some "call"
  predictedToolLatencyMs := some 1000
  reloadCostMs := some 150
  prefetchDelayMs := some 900

/-- What is read of a policy with default settings, given the latency predicted of unknown
    tools. -/
def readOf {α : Type} (defaultLatencyMs : Rat) (read : AgentTTLPolicy → α) : Except PyError α :=
  ((ToolLatencyEstimator.new defaultLatencyMs).bind new).map read

theorem readOf_new {defaultLatencyMs : Rat} (nonneg : 0 ≤ defaultLatencyMs) :
    ∃ estimator fresh, new estimator = .ok fresh ∧
      ∀ {α : Type} (read : AgentTTLPolicy → α) {value : α},
        readOf defaultLatencyMs read = .ok value → read fresh = value := by
  obtain ⟨estimator, made, -⟩ := @ToolLatencyEstimator.new_returns defaultLatencyMs (3 / 10) 512
    nonneg (by decide +kernel) (by decide +kernel) (by decide)
  obtain ⟨fresh, built⟩ := @new_returns estimator 750 1000 150 100 (by decide +kernel)
    (by decide +kernel) (by decide +kernel) (by decide +kernel)
  refine ⟨estimator, fresh, built, fun read value reads => ?_⟩
  rw [readOf, made] at reads
  change Except.map _ (new estimator) = _ at reads
  rw [built] at reads
  exact Except.ok.inj reads

end AgentTTLPolicy

end IntelliL3
