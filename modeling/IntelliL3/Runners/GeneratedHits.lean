import IntelliL3.Lib.Blocks
import IntelliL3.Runners.PrefetchMetrics
import IntelliL3.Workloads.AgenticTraces

/-! # Hits on generated workloads

On a workload of agents that take turns, what a system hits is settled by the shape of the
workload alone: by how many workflows, agents and turns there are.
-/

namespace IntelliL3

open Lib BenchmarkRunner

theorem exists_of_isOk {ε α : Type} {result : Except ε α} (ok : result.isOk = true) :
    ∃ a, result = .ok a := by
  cases result with
  | ok a => exact ⟨a, rfl⟩
  | error e => cases ok

namespace AgenticWorkflowWorkload

section

variable [PyBuiltins] [PyRuntime] {self : AgenticWorkflowWorkload} (draws : Draws)
  (workflowIndex turn : Nat)

/-- The request at a place of the workload. -/
def requestNumber (self : AgenticWorkflowWorkload) (draws : Draws) (k : Nat) : BenchmarkRequest :=
  self.requestAt draws (k / self.turnsPerWorkflow) (k % self.turnsPerWorkflow)

/-- The step at a place of the workload. -/
def stepNumber (self : AgenticWorkflowWorkload) (k : Nat) : String :=
  stepIdOf (workflowIdOf (k / self.turnsPerWorkflow)) (k % self.turnsPerWorkflow)

theorem requestAt_stepText : (self.requestAt draws workflowIndex turn).text "step_id" =
    .ok (stepIdOf (workflowIdOf workflowIndex) turn) := by
  rw [BenchmarkRequest.text, requestAt_stepId, Json.toStr]

theorem requestAt_parentText : (self.requestAt draws workflowIndex turn).text "parent_step_id" =
    .ok (parentOf workflowIndex turn) := by
  rw [BenchmarkRequest.text, requestAt_parent, Json.toStr]

/-- `f"{workflow_id}:{agent_id}"` -/
def agentKey (workflowIndex agentIndex : Nat) : String :=
  s!"{workflowIdOf workflowIndex}:agent_{agentIndex}"

theorem requestAt_workflowAgent : workflowAgent (self.requestAt draws workflowIndex turn) =
    .ok (agentKey workflowIndex (turn % self.numAgents)) := by
  have agent : (self.requestAt draws workflowIndex turn).get "agent_id" (.str "") =
      .str (self.agentIdOf turn) := requestAt_get (by simp [metadataRows]) _
  rw [workflowAgent, BenchmarkRequest.text, requestAt_workflowId, Json.toStr, ok_bind,
    BenchmarkRequest.text, agent, Json.toStr, ok_bind]
  refine congrArg Except.ok ?_
  change workflowIdOf workflowIndex ++ ":" ++ ("agent_" ++ toString (turn % self.numAgents)) = _
  rw [← String.append_assoc, @String.append_assoc (workflowIdOf workflowIndex) ":" "agent_"]
  rfl

omit [PyBuiltins] [PyRuntime] in
theorem agentKey_inj {i j i' j' : Nat} (same : agentKey i j = agentKey i' j') : i = i' ∧ j = j' :=
  twiceNumbered_inj (c := ':') rfl (by decide)
    (show "workflow_" ++ toString i ++ ":agent_" ++ toString j =
      "workflow_" ++ toString i' ++ ":agent_" ++ toString j' from same)

omit [PyBuiltins] [PyRuntime] in
theorem stepIdOf_ne_empty : stepIdOf (workflowIdOf workflowIndex) turn ≠ "" := by
  simp [stepIdOf]

omit [PyBuiltins] [PyRuntime] in
theorem parentOf_number (k : Nat) :
    parentOf (k / self.turnsPerWorkflow) (k % self.turnsPerWorkflow) =
      if k % self.turnsPerWorkflow = 0 then "" else self.stepNumber (k - 1) := by
  split
  · next first => rw [first, parentOf]
  · next later =>
      cases k with
      | zero => exact absurd (Nat.zero_mod _) later
      | succ k =>
          obtain ⟨workflow, place⟩ := Blocks.succ_within self.turnsPositive later
          rw [workflow, place, parentOf, stepNumber, Nat.add_sub_cancel]

omit [PyBuiltins] [PyRuntime] in
theorem parentOf_number_ne (k : Nat) :
    parentOf (k / self.turnsPerWorkflow) (k % self.turnsPerWorkflow) ≠ "" ↔
      1 ≤ k % self.turnsPerWorkflow := by
  rw [parentOf_number]
  split
  · next first => simp [first]
  · next later => exact iff_of_true (stepIdOf_ne_empty _ _) (Nat.one_le_iff_ne_zero.mpr later)

end

/-- A value for every turn of every workflow, in the order of the requests. -/
def turnByTurn {α : Type} (self : AgenticWorkflowWorkload) (value : Nat → α) : List α :=
  (List.range self.numWorkflows).flatMap fun _ => (List.range self.turnsPerWorkflow).map value

theorem turnByTurn_eq {α : Type} (self : AgenticWorkflowWorkload) (value : Nat → α) :
    self.turnByTurn value = (List.range (self.numWorkflows * self.turnsPerWorkflow)).map fun k =>
      value (k % self.turnsPerWorkflow) :=
  Blocks.flatMap_range (fun _ => value) _ _

/-! ## Prefetches -/

section

variable {self : AgenticWorkflowWorkload} {processedSteps : Finset String} {k : Nat}

/-- Among the steps are those of the requests so far. -/
def Processed (self : AgenticWorkflowWorkload) (processedSteps : Finset String) (k : Nat) : Prop :=
  ∀ i < k, self.stepNumber i ∈ processedSteps

theorem Processed.parent (known : self.Processed processedSteps k) :
    (parentOf (k / self.turnsPerWorkflow) (k % self.turnsPerWorkflow) ≠ "" ∧
      parentOf (k / self.turnsPerWorkflow) (k % self.turnsPerWorkflow) ∈ processedSteps) ↔
        1 ≤ k % self.turnsPerWorkflow := by
  rw [← parentOf_number_ne]
  refine and_iff_left_of_imp fun named => ?_
  have later := (parentOf_number_ne k).mp named
  have positive : 0 < k := (Nat.zero_lt_of_lt later).trans_le (Nat.mod_le _ _)
  rw [parentOf_number, if_neg (Nat.one_le_iff_ne_zero.mp later)]
  exact known (k - 1) (Nat.sub_lt positive Nat.one_pos)

theorem Processed.insert (known : self.Processed processedSteps k) :
    self.Processed (Insert.insert (self.stepNumber k) processedSteps) (k + 1) := by
  intro i earlier
  rw [Finset.mem_insert]
  rcases Nat.lt_succ_iff_lt_or_eq.mp earlier with before | rfl
  · exact .inr (known i before)
  · exact .inl rfl

end

section

variable [PyBuiltins] [PyRuntime] {self : AgenticWorkflowWorkload} {draws : Draws}

/-- From the second turn on the step before is known. -/
theorem prefetch_answers {results : List ProcessResult} {after : AgentPrefetchSystem}
    (run : Run AgentPrefetchSystem.process {} (self.allRequests draws) results after) :
    List.Forall₂ (fun k result =>
        result.isCacheHit = decide (1 ≤ k % self.turnsPerWorkflow) ∧
          result.prefetched = (decide (1 ≤ k % self.turnsPerWorkflow)).toNat)
      (List.range (self.numWorkflows * self.turnsPerWorkflow)) results := by
  rw [allRequests_eq] at run
  refine (Run.indexed (I := fun k before => self.Processed before.processedSteps k) ?_ run
    (fun i none => absurd none (Nat.not_lt_zero i))).1
  intro k before result after known returned
  obtain ⟨stepId, parentStepId, answer⟩ := AgentPrefetchSystem.process_answered returned
  have step := answer.step
  have parent := answer.parent
  rw [requestAt_stepText, Except.ok.injEq] at step
  rw [requestAt_parentText, Except.ok.injEq] at parent
  subst step parent
  refine ⟨⟨?_, ?_⟩, ?_⟩
  · rw [answer.hit, decide_eq_decide]
    exact known.parent
  · rw [answer.prefetched]
    exact congrArg Bool.toNat (decide_eq_decide.mpr (parentOf_number_ne k))
  · rw [answer.processed]
    exact known.insert

/-! ## Agents that take turns -/

theorem mapM_workflowAgent : (self.allRequests draws).mapM workflowAgent =
    .ok ((List.range self.numWorkflows).flatMap fun workflowIndex =>
      LeastRecent.rounds (agentKey workflowIndex) self.numAgents self.turnsPerWorkflow) := by
  have rounds := Blocks.flatMap_range
    (fun workflowIndex turn => agentKey workflowIndex (turn % self.numAgents))
    self.numWorkflows self.turnsPerWorkflow
  refine Eq.trans ?_ (congrArg Except.ok rounds.symm)
  have each : workflowAgent ∘ self.requestNumber draws = fun k => .ok
      (agentKey (k / self.turnsPerWorkflow) (k % self.turnsPerWorkflow % self.numAgents)) :=
    funext fun k => requestAt_workflowAgent draws _ _
  rw [allRequests_eq, List.mapM_map]
  exact (congrArg (List.mapM · _) each).trans List.mapM_pure

omit [PyBuiltins] [PyRuntime] in
/-- Where hits are those of rounds, they are settled turn by turn. -/
theorem hits_turns {results : List ProcessResult} {n : Nat}
    (hits : results.map ProcessResult.isCacheHit = LeastRecent.hits n []
      ((List.range self.numWorkflows).flatMap fun workflowIndex =>
        LeastRecent.rounds (agentKey workflowIndex) self.numAgents self.turnsPerWorkflow)) :
    results.map ProcessResult.isCacheHit =
      self.turnByTurn fun turn => decide (self.numAgents ≤ turn ∧ self.numAgents ≤ n) :=
  hits.trans (LeastRecent.hits_blocks (fun _ _ _ _ => agentKey_inj) self.agentsPositive _ _)

omit [PyBuiltins] [PyRuntime] in
/-- Hits that are settled turn by turn are counted by the shape of the workload. -/
theorem countP_turns {results : List ProcessResult} {least : Nat} {room : Prop} [Decidable room]
    (hits : results.map ProcessResult.isCacheHit =
      self.turnByTurn fun turn => decide (least ≤ turn ∧ room)) :
    results.countP ProcessResult.isCacheHit =
      if room then self.numWorkflows * (self.turnsPerWorkflow - least) else 0 := by
  have counted : results.countP ProcessResult.isCacheHit =
      (results.map ProcessResult.isCacheHit).countP id := by
    rw [List.countP_map]
    rfl
  rw [counted, hits, turnByTurn, List.countP_flatMap]
  split
  · next room =>
      have turns := Blocks.countP_range_le least self.turnsPerWorkflow
      simp [room, List.countP_map, Function.comp_def, turns]
  · next small => simp [small, Function.comp_def]

/-! ## Runs -/

variable [PyRng]

/-- A run of a system over the requests, in which what is read off the answers depends on the
    turn alone. -/
def AnswersTurns {α : Type} (self : AgenticWorkflowWorkload) (system : BenchmarkSystem)
    (requests : List BenchmarkRequest) (read : ProcessResult → α) (value : Nat → α) : Prop :=
  ∃ results after, Run system.process system.start requests results after ∧
    results.map read = self.turnByTurn value

/-- Which turns each system hits on a generated workload, and how many that makes. Prefetches are
    made and hit from the second turn on, the workflow's memory of an agent hits from the agent's
    second turn on; a cache of steps does so only with room for all agents of a workflow, and else
    never. -/
theorem generated_hits {objMeta : Nat → ObjectMeta} {timed : List (BenchmarkRequest × Rat)}
    {tracker : RetailWorkflowMetricsTracker} {capacity : Int} {start : AgentLRUBaseline}
    {prefetch aware lru : Metrics}
    (generated : timed.map Prod.fst = (self.generate objMeta).requests)
    (built : AgentLRUBaseline.new tracker capacity = .ok start)
    (returnedPrefetch : runSystem AgentPrefetchSystem.system timed = .ok prefetch)
    (returnedAware : runSystem WorkflowAwareEvictionSystem.system timed = .ok aware)
    (returnedLRU : runSystem start.system timed = .ok lru) :
    (self.AnswersTurns AgentPrefetchSystem.system (timed.map Prod.fst)
        (fun result => (result.isCacheHit, result.prefetched))
        (fun turn => (decide (1 ≤ turn), if 1 ≤ turn then 1 else 0)) ∧
      prefetch.cacheHits = self.numWorkflows * (self.turnsPerWorkflow - 1) ∧
      prefetch.prefetched = prefetch.cacheHits) ∧
    (self.AnswersTurns WorkflowAwareEvictionSystem.system (timed.map Prod.fst)
        ProcessResult.isCacheHit (fun turn => decide (self.numAgents ≤ turn)) ∧
      aware.cacheHits = self.numWorkflows * (self.turnsPerWorkflow - self.numAgents)) ∧
    self.AnswersTurns start.system (timed.map Prod.fst) ProcessResult.isCacheHit
        (fun turn => decide (self.numAgents ≤ turn ∧ (self.numAgents : Int) ≤ capacity)) ∧
      lru.cacheHits = if (self.numAgents : Int) ≤ capacity then
        self.numWorkflows * (self.turnsPerWorkflow - self.numAgents) else 0 := by
  rw [generate_eq] at generated
  have nonempty : timed ≠ [] := by
    rintro rfl
    have count := congrArg List.length generated
    rw [List.map_nil, List.length_nil, allRequests_eq, List.length_map, List.length_range] at count
    exact (Nat.mul_pos self.workflowsPositive self.turnsPositive).ne count
  obtain ⟨prefetches, _, run, finalPrefetch⟩ := runSystem_final nonempty returnedPrefetch
  obtain ⟨awares, _, runAware, finalAware⟩ := runSystem_final nonempty returnedAware
  obtain ⟨lrus, _, runLRU, finalLRU⟩ := runSystem_final nonempty returnedLRU
  rw [generated] at run runAware runLRU
  rw [generated]
  refine ⟨⟨⟨prefetches, _, run, ?_⟩, ?_, ?_⟩, ?_, ?_⟩
  · rw [turnByTurn_eq]
    refine (map_eq_of_forall₂ (prefetch_answers run) fun each => ?_).symm
    rw [each.1, each.2]
    exact congrArg (Prod.mk _) (by split <;> simp_all)
  · have answers := prefetch_answers run
    rw [finalPrefetch.cacheHits, ← countP_eq_of_forall₂ answers fun each => each.1.symm,
      Blocks.countP_place (fun place => decide (1 ≤ place)), Blocks.countP_range_le]
  · have answers := prefetch_answers run
    rw [finalPrefetch.prefetched, finalPrefetch.cacheHits, ← sum_toNat]
    have made := map_eq_of_forall₂ answers fun each => each.2.symm
    have hit := map_eq_of_forall₂ answers (g := fun result => result.isCacheHit.toNat)
      fun each => congrArg Bool.toNat each.1.symm
    exact congrArg List.sum (made.symm.trans hit)
  · have unseen : WorkflowAwareEvictionSystem.system.start = (⟨[].toFinset⟩ :
        WorkflowAwareEvictionSystem) := rfl
    obtain ⟨keys, named, hits, -⟩ := WorkflowAwareEvictionSystem.run_repeats rfl
      (unseen ▸ runAware)
    rw [mapM_workflowAgent, Except.ok.injEq] at named
    subst named
    have room {keys : List String} : ([] ++ keys).dedup.length ≤ keys.length + self.numAgents :=
      (List.dedup_sublist _).length_le.trans (Nat.le_add_right _ _)
    rw [← LeastRecent.hits_eq_repeats [] _ room] at hits
    have turns := hits_turns hits
    refine ⟨⟨awares, _, runAware, turns.trans ?_⟩, ?_⟩
    · simp only [Nat.le_add_left, and_true]
    · rw [finalAware.cacheHits, countP_turns turns, if_pos (Nat.le_add_left _ _)]
  · obtain ⟨settings, empty⟩ := AgentLRUBaseline.new_settings built
    have begun : start.recentSteps = LeastRecent.recent start.capacity [] := by
      rw [empty, LeastRecent.recent_nil]
    obtain ⟨keys, named, hits, -⟩ := AgentLRUBaseline.run_recent begun runLRU
    rw [mapM_workflowAgent, Except.ok.injEq] at named
    subst named
    have turns := hits_turns hits
    have room : self.numAgents ≤ capacity.toNat ↔ (self.numAgents : Int) ≤ capacity := by
      have := self.agentsPositive
      omega
    simp only [settings, room] at turns
    exact ⟨⟨lrus, _, runLRU, turns⟩, finalLRU.cacheHits.trans (countP_turns turns)⟩

end

open Reference Reference.Shown in
/-- With room for one of two agents nothing is hit, without a cache of steps half of the turns. -/
theorem generated_hits_of_turns : ∃ prefetch aware lru : Metrics,
    runSystem AgentPrefetchSystem.system (eightRequests.map (·, 0)) = .ok prefetch ∧
      prefetch.cacheHits = 6 ∧ aware.cacheHits = 4 ∧ lru.cacheHits = 0 ∧
      twoWorkflows.AnswersTurns WorkflowAwareEvictionSystem.system eightRequests
        ProcessResult.isCacheHit (fun turn => decide (2 ≤ turn)) := by
  have generated : (eightRequests.map fun request => (request, (0 : Rat))).map Prod.fst =
      eightRequests := by
    rw [List.map_map]
    exact List.map_id _
  have built : AgentLRUBaseline.new untracked 1 = .ok (keeping 1 (by decide)) := rfl
  have prefetch : (runSystem AgentPrefetchSystem.system
    (eightRequests.map (·, 0))).isOk = true := by decide +kernel
  have aware : (runSystem WorkflowAwareEvictionSystem.system
    (eightRequests.map (·, 0))).isOk = true := by decide +kernel
  have lru : (runSystem (keeping 1 (by decide)).system
    (eightRequests.map (·, 0))).isOk = true := by decide +kernel
  obtain ⟨metrics, prefetch⟩ := exists_of_isOk prefetch
  obtain ⟨metrics', aware⟩ := exists_of_isOk aware
  obtain ⟨metrics'', lru⟩ := exists_of_isOk lru
  obtain ⟨⟨-, prefetchHits, -⟩, ⟨turns, awareHits⟩, -, lruHits⟩ :=
    generated_hits generated built prefetch aware lru
  rw [generated] at turns
  exact ⟨metrics, metrics', metrics'', prefetch, prefetchHits, awareHits, lruHits, turns⟩

end AgenticWorkflowWorkload

end IntelliL3
