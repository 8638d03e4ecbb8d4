import Mathlib.Algebra.Order.Field.Rat
import Mathlib.Data.List.MinMax
import IntelliL3.Workloads.Reference
import IntelliL3.Workloads.RetailTools

/-! # Verdict on a retail task

`workloads/retail_validator.py`: what was done is compared with the outcome that a task expects
and with the one it may fall back to, and the steps are checked for the required tools and for
their arguments. A task succeeds on a fallback that it does not allow.
-/

namespace IntelliL3

open Lib

/-- The rows of an outcome. -/
abbrev Outcome := List (String × Json)

inductive MatchedOutcome where
  | none | expected | fallback
  deriving DecidableEq

structure EndState where
  taskId : Json
  taskSuccess : Bool
  matchedOutcome : MatchedOutcome
  observedOutcome : Outcome
  expectedOutcome : Json
  fallbackOutcome : Json
  errors : List String

structure Milestones where
  checksTotal : Nat
  checksPassed : Nat
  milestonePassRate : Rat
  toolArgErrorCount : Nat
  policyViolation : Bool
  errors : List String
  deriving DecidableEq

structure TaskScore where
  taskId : Json
  taskSuccess : Bool
  policyViolation : Bool
  toolArgErrorCount : Nat
  fallbackSuccess : Bool
  milestonePassRate : Rat
  matchedOutcome : MatchedOutcome
  errorCount : Nat
  errors : List String

structure RetailEndStateValidator where
  tasks : Dict String Json

namespace RetailEndStateValidator

/-- `RetailEndStateValidator(tasks_path)`, with what the file holds -/
def new (tasks : Json) : Except PyError RetailEndStateValidator := do
  return { tasks := ← RetailToolKit.indexRows "task_id" tasks }

def task (self : RetailEndStateValidator) (taskId : String) : Except PyError Json :=
  match self.tasks.get? taskId with
  | some task => .ok task
  | none => .error (.valueError s!"unknown task_id: {taskId}")

section

variable [PyBuiltins]

/-! ## The end state -/

def inferOutcome (task stateSnapshot : Json) : Except PyError Outcome := do
  let orderId ← (← task.getItem "input").get "order_id"
  let requestedItem ← (← task.getItem "input").get "requested_item_id" (.str "")
  let refundActions ← stateSnapshot.get "refund_actions" (.list [])
  let returnRequests ← stateSnapshot.get "return_requests" (.list [])
  let requested (row : Json) : Except PyError Bool := do
    if (← row.get "order_id").equals orderId then
      return (← row.get "item_id").equals requestedItem
    return false
  match ← (← refundActions.iterate).findM? requested with
  | some action => return [
      ("decision", .str "approve_refund"),
      ("refund_amount", .float (← (← action.get "amount" (.float (.finite 0))).toFloat)),
      ("currency", ← action.get "currency" (.str "USD")),
      ("reason_code", .str (← (← action.get "reason_code" (.str "")).toStr))]
  | none =>
      match ← (← returnRequests.reversed).findM? requested with
      | some request =>
          let status ← (← request.get "status" (.str "")).toStr
          let note ← (← request.get "note" (.str "")).toStr
          return [
            ("decision", .str status),
            ("reason_code", .str (if note ≠ "" then note else status)),
            ("refund_amount", .float (.finite 0)),
            ("currency", .str "USD")]
      | none =>
          let requestType ← (← (← task.getItem "input").get "request_type" (.str "refund")).toStr
          if requestType = "exchange" then
            return [
              ("decision", .str "deny_exchange"),
              ("reason_code", .str "exchange_item_unavailable"),
              ("refund_amount", .float (.finite 0)),
              ("currency", .str "USD")]
          let expected ← task.getItem "expected_outcome"
          return [
            ("decision", .str "deny_refund"),
            ("reason_code", .str (← (← expected.get "reason_code" (.str "unknown")).toStr)),
            ("refund_amount", .float (.finite 0)),
            ("currency", .str (← (← expected.get "currency" (.str "USD")).toStr))]

/-- The float next to 1e-6. -/
def tolerance : PyFloat := .finite (4722366482869645 / 2 ^ 72)

/-- Floats match within a tolerance, and everything else by its text. -/
def matchesValue (observed expected : Json) : Except PyError Bool := do
  match expected with
  | .float x => return !tolerance.lt (PyBuiltins.sub (← observed.toFloat) x).abs
  | expected => return (← observed.toStr) = (← expected.toStr)

def matchesOutcome (observed : Outcome) (expected : Json) : Except PyError Bool := do
  if !expected.truthy then
    return false
  (← expected.items).allM fun row => do
    match Assoc.get? observed row.1 with
    | none => return false
    | some value => matchesValue value row.2

def matchOutcome (observed : Outcome) (expected fallback : Json) :
    Except PyError MatchedOutcome := do
  if ← matchesOutcome observed expected then
    return .expected
  let isFallback ←
    (if fallback.truthy then matchesOutcome observed fallback else .ok false : Except PyError Bool)
  return if isFallback then .fallback else .none

def validate (task stateSnapshot : Json) : Except PyError EndState := do
  let observed ← inferOutcome task stateSnapshot
  let expected ← task.get "expected_outcome" (.dict [])
  let expected := if expected.truthy then expected else .dict []
  let fallback ← task.get "fallback_outcome"
  let matched ← matchOutcome observed expected fallback
  return {
    taskId := ← task.getItem "task_id"
    taskSuccess := matched ≠ .none
    matchedOutcome := matched
    observedOutcome := observed
    expectedOutcome := expected
    fallbackOutcome := fallback
    errors := if matched = .none then ["outcome_mismatch"] else [] }

/-! ## The steps -/

def toolName (step : Json) : Except PyError String := do
  (← step.get "tool_name" (.str "")).toStr

def inputText (task : Json) (key : String) : Except PyError String := do
  (← (← task.get "input" (.dict [])).get key (.str "")).toStr

/-- A tool of these that names another id than the task. -/
def argError (tools : List String) (key expected error : String) (tool : String) (args : Json) :
    Except PyError (List String) := do
  if tool ∈ tools ∧ expected ≠ "" then
    if (← (← args.get key (.str "")).toStr) ≠ expected then
      return [error]
  return []

def argErrors (orderId itemId : String) (step : Json) : Except PyError (List String) := do
  let args ← step.get "args" (.dict [])
  let tool ← toolName step
  let order ← argError ["get_order", "calculate_refund", "submit_refund", "update_return_request"]
    "order_id" orderId "order_id_mismatch" tool args
  let item ← argError ["calculate_refund", "submit_refund", "update_return_request"]
    "item_id" itemId "item_id_mismatch" tool args
  return order ++ item

omit [PyBuiltins] in
def positions (tools : List String) (name : String) : List Nat :=
  (tools.zipIdx.filter fun row => row.1 = name).map Prod.snd

/-- A refund is submitted before one is calculated. -/
def submitsWithoutCalculate (tools : List String) : Bool :=
  match (positions tools "submit_refund").min?, (positions tools "calculate_refund").min? with
  | none, _ => false
  | some _, none => true
  | some submit, some calculate => submit < calculate

def validateMilestones (task : Json) (history : List Json) : Except PyError Milestones := do
  let required ← (← (← task.get "required_tools" (.list [])).iterate).mapM Json.toStr
  let tools ← history.mapM toolName
  let orderId ← inputText task "order_id"
  let itemId ← inputText task "requested_item_id"
  let wrongArgs := (← history.mapM (argErrors orderId itemId)).flatten
  let checksTotal := max 1 required.length
  let missing := required.zipIdx.filter fun row => tools[row.2]? ≠ some row.1
  let checksPassed := required.length - missing.length
  let policyViolation := submitsWithoutCalculate tools
  return {
    checksTotal, checksPassed, policyViolation
    milestonePassRate := checksPassed / checksTotal
    toolArgErrorCount := wrongArgs.length
    errors := missing.map (fun row => s!"missing_or_wrong_tool_at_{row.2}") ++ wrongArgs ++
      if policyViolation then ["submit_without_calculate"] else [] }

def scoreTask (task stateSnapshot : Json) (history : List Json) : Except PyError TaskScore := do
  let endState ← validate task stateSnapshot
  let milestones ← validateMilestones task history
  let allowed ← task.get "allow_fallback" (.bool false)
  return {
    taskId := ← task.getItem "task_id"
    taskSuccess := endState.taskSuccess && !milestones.policyViolation &&
      milestones.toolArgErrorCount = 0
    policyViolation := milestones.policyViolation
    toolArgErrorCount := milestones.toolArgErrorCount
    fallbackSuccess := endState.matchedOutcome = .fallback && allowed.truthy
    milestonePassRate := milestones.milestonePassRate
    matchedOutcome := endState.matchedOutcome
    errorCount := endState.errors.length + milestones.errors.length
    errors := endState.errors ++ milestones.errors }

/-! ## What the verdict says -/

omit [PyBuiltins] in
theorem mem_positions_iff {tools : List String} {name : String} {i : Nat} :
    i ∈ positions tools name ↔ tools[i]? = some name := by
  simp only [positions, List.mem_map, List.mem_filter, decide_eq_true_iff, Prod.exists,
    List.mem_zipIdx_iff_getElem?]
  constructor
  · rintro ⟨tool, place, ⟨found, rfl⟩, rfl⟩
    exact found
  · intro found
    exact ⟨name, i, ⟨found, rfl⟩, rfl⟩

omit [PyBuiltins] in
theorem submitsWithoutCalculate_iff {tools : List String} :
    submitsWithoutCalculate tools = true ↔ ∃ i : Nat, tools[i]? = some "submit_refund" ∧
      ∀ j ≤ i, tools[j]? ≠ some "calculate_refund" := by
  simp only [ne_eq, ← mem_positions_iff]
  unfold submitsWithoutCalculate
  cases submits : (positions tools "submit_refund").min? with
  | none =>
      rw [List.min?_eq_none_iff] at submits
      simp [submits]
  | some submit =>
      obtain ⟨here, least⟩ := List.min?_eq_some_iff.mp submits
      cases calculates : (positions tools "calculate_refund").min? with
      | none =>
          rw [List.min?_eq_none_iff] at calculates
          exact iff_of_true rfl ⟨submit, here, by simp [calculates]⟩
      | some calculate =>
          obtain ⟨there, first⟩ := List.min?_eq_some_iff.mp calculates
          simp only [decide_eq_true_iff]
          constructor
          · intro before
            exact ⟨submit, here, fun j le listed =>
              absurd (first j listed) (Nat.not_le.mpr (le.trans_lt before))⟩
          · rintro ⟨i, listed, none⟩
            exact Nat.lt_of_not_le fun late => none calculate (late.trans (least i listed)) there

theorem matchesOutcome_falsy {observed : Outcome} {expected : Json}
    (empty : expected.truthy = false) : matchesOutcome observed expected = .ok false := by
  rw [matchesOutcome, empty]
  rfl

/-- The three ways in which a match returns. -/
theorem matchOutcome_ok_iff {observed : Outcome} {expected fallback : Json}
    {matched : MatchedOutcome} : matchOutcome observed expected fallback = .ok matched ↔
      (matched = .expected ∧ matchesOutcome observed expected = .ok true) ∨
      matchesOutcome observed expected = .ok false ∧
        ((matched = .fallback ∧ matchesOutcome observed fallback = .ok true) ∨
          (matched = .none ∧ matchesOutcome observed fallback = .ok false)) := by
  have second : (if fallback.truthy then matchesOutcome observed fallback else .ok false) =
      matchesOutcome observed fallback := by
    split
    · rfl
    · next empty => exact (matchesOutcome_falsy (Bool.eq_false_iff.mpr empty)).symm
  rw [matchOutcome, second]
  cases matchesOutcome observed expected with
  | error e => simp [bind, Except.bind]
  | ok isExpected =>
      cases isExpected with
      | true => simp [ok_bind, pure, Except.pure, eq_comm]
      | false =>
          cases matchesOutcome observed fallback with
          | error e => simp [bind, Except.bind]
          | ok isFallback => cases isFallback <;> simp [ok_bind, pure, Except.pure, eq_comm]

/-- The inferred outcome matches the one that the task has under this key. -/
def Matches (task stateSnapshot : Json) (key : String) : Prop :=
  ∃ observed outcome, inferOutcome task stateSnapshot = .ok observed ∧
    task.get key = .ok outcome ∧ matchesOutcome observed outcome = .ok true

def AllowsFallback (task : Json) : Prop :=
  ∃ allowed, task.get "allow_fallback" = .ok allowed ∧ allowed.truthy = true

/-- Some refund is submitted before any is calculated. -/
def PolicyViolation (history : List Json) : Prop :=
  ∃ tools, history.mapM toolName = .ok tools ∧ ∃ i : Nat, tools[i]? = some "submit_refund" ∧
    ∀ j ≤ i, tools[j]? ≠ some "calculate_refund"

/-- Some step names another order or item than the task. -/
def ArgError (task : Json) (history : List Json) : Prop :=
  ∃ orderId itemId, inputText task "order_id" = .ok orderId ∧
    inputText task "requested_item_id" = .ok itemId ∧
    ∃ step ∈ history, ∃ errors, argErrors orderId itemId step = .ok errors ∧ errors ≠ []

theorem validateMilestones_returned {task : Json} {history : List Json} {milestones : Milestones}
    (returned : validateMilestones task history = .ok milestones) :
    (milestones.policyViolation = true ↔ PolicyViolation history) ∧
      (milestones.toolArgErrorCount = 0 ↔ ¬ ArgError task history) := by
  rw [validateMilestones] at returned
  obtain ⟨_, -, returned⟩ := bind_eq_ok.mp returned
  obtain ⟨_, -, returned⟩ := bind_eq_ok.mp returned
  obtain ⟨_, -, returned⟩ := bind_eq_ok.mp returned
  obtain ⟨tools, sequence, returned⟩ := bind_eq_ok.mp returned
  obtain ⟨orderId, order, returned⟩ := bind_eq_ok.mp returned
  obtain ⟨itemId, item, returned⟩ := bind_eq_ok.mp returned
  obtain ⟨wrong, checked, returned⟩ := bind_eq_ok.mp returned
  cases returned
  constructor
  · rw [submitsWithoutCalculate_iff, PolicyViolation, sequence]
    simp only [Except.ok.injEq, exists_eq_left']
  · rw [List.length_eq_zero_iff, List.flatten_eq_nil_iff]
    constructor
    · rintro clean ⟨orderId', itemId', order', item', step, member, errors, found, some⟩
      rw [order, Except.ok.injEq] at order'
      rw [item, Except.ok.injEq] at item'
      subst order' item'
      exact some (clean errors ((mem_mapM_iff checked).mpr ⟨step, member, found⟩))
    · intro clean errors listed
      obtain ⟨step, member, found⟩ := (mem_mapM_iff checked).mp listed
      by_contra some
      exact clean ⟨orderId, itemId, order, item, step, member, errors, found, some⟩

/-- What a key is looked up with in its place makes no difference, as long as it is empty. -/
theorem matchesOutcome_default {task default outcome : Json} {key : String}
    (empty : default.truthy = false) (found : task.get key default = .ok outcome) :
    ∃ outcome', task.get key = .ok outcome' ∧
      ∀ observed, matchesOutcome observed outcome' = matchesOutcome observed outcome := by
  cases task with
  | dict rows =>
      simp only [Json.get, Except.ok.injEq] at found ⊢
      subst found
      refine ⟨_, rfl, fun observed => ?_⟩
      cases Assoc.get? rows key with
      | some value => rfl
      | none => exact (matchesOutcome_falsy rfl).trans (matchesOutcome_falsy empty).symm
  | _ => cases found

theorem matches_iff {task stateSnapshot outcome : Json} {observed : Outcome} {key : String}
    (inferred : inferOutcome task stateSnapshot = .ok observed)
    (found : task.get key = .ok outcome) :
    Matches task stateSnapshot key ↔ matchesOutcome observed outcome = .ok true := by
  rw [Matches, inferred, found]
  constructor
  · rintro ⟨_, _, ⟨⟩, ⟨⟩, same⟩
    exact same
  · exact fun same => ⟨observed, outcome, rfl, rfl, same⟩

theorem validate_returned {task stateSnapshot : Json} {endState : EndState}
    (returned : validate task stateSnapshot = .ok endState) :
    endState.taskSuccess = decide (endState.matchedOutcome ≠ .none) ∧
      (endState.matchedOutcome = .expected ↔ Matches task stateSnapshot "expected_outcome") ∧
      (endState.matchedOutcome = .fallback ↔ ¬ Matches task stateSnapshot "expected_outcome" ∧
        Matches task stateSnapshot "fallback_outcome") := by
  rw [validate] at returned
  obtain ⟨observed, inferred, returned⟩ := bind_eq_ok.mp returned
  obtain ⟨expected, expects, returned⟩ := bind_eq_ok.mp returned
  obtain ⟨fallback, fallsBack, returned⟩ := bind_eq_ok.mp returned
  obtain ⟨matched, matching, returned⟩ := bind_eq_ok.mp returned
  obtain ⟨taskId, -, returned⟩ := bind_eq_ok.mp returned
  cases returned
  have orEmpty : matchesOutcome observed (if expected.truthy then expected else .dict []) =
      matchesOutcome observed expected := by
    split
    · rfl
    · next empty =>
        exact (matchesOutcome_falsy rfl).trans
          (matchesOutcome_falsy (Bool.eq_false_iff.mpr empty)).symm
  obtain ⟨expected', expects', same⟩ := matchesOutcome_default rfl expects
  rw [matches_iff inferred expects', matches_iff inferred fallsBack, same, ← orEmpty]
  rw [matchOutcome_ok_iff] at matching
  refine ⟨rfl, ?_⟩
  grind

/-- A task is scored whenever both of its checks return. -/
theorem scoreTask_returns {task stateSnapshot : Json} {history : List Json} {endState : EndState}
    {milestones : Milestones} (validated : validate task stateSnapshot = .ok endState)
    (checked : validateMilestones task history = .ok milestones) :
    ∃ score, scoreTask task stateSnapshot history = .ok score ∧
      score.taskSuccess = (endState.taskSuccess && !milestones.policyViolation &&
        milestones.toolArgErrorCount = 0) := by
  have looked := validated
  rw [validate] at looked
  obtain ⟨_, -, looked⟩ := bind_eq_ok.mp looked
  obtain ⟨_, expects, looked⟩ := bind_eq_ok.mp looked
  obtain ⟨_, -, looked⟩ := bind_eq_ok.mp looked
  obtain ⟨_, -, looked⟩ := bind_eq_ok.mp looked
  obtain ⟨taskId, named, -⟩ := bind_eq_ok.mp looked
  cases task with
  | dict rows =>
      have allowed : (Json.dict rows).get "allow_fallback" (.bool false) =
        .ok ((Assoc.get? rows "allow_fallback").getD (.bool false)) := rfl
      have scored : ∃ score, scoreTask (.dict rows) stateSnapshot history = .ok score := by
        rw [scoreTask, validated, ok_bind, checked, ok_bind, allowed, ok_bind, named]
        exact ⟨_, rfl⟩
      obtain ⟨score, scored⟩ := scored
      refine ⟨score, scored, ?_⟩
      rw [scoreTask, validated, ok_bind, checked, ok_bind, allowed, ok_bind, named] at scored
      cases scored
      rfl
  | _ => cases expects

/-- The task fails to match what it expects, but does match a fallback that it does not allow,
    with every step in order. -/
structure OnlyForbiddenFallback (task stateSnapshot : Json) (history : List Json) : Prop where
  validated : ∃ endState, validate task stateSnapshot = .ok endState
  checked : ∃ milestones, validateMilestones task history = .ok milestones
  unexpected : ¬ Matches task stateSnapshot "expected_outcome"
  fallback : Matches task stateSnapshot "fallback_outcome"
  forbidden : ¬ AllowsFallback task
  noViolation : ¬ PolicyViolation history
  noArgError : ¬ ArgError task history

/-- Success means a permitted outcome and clean steps, except where the only thing wrong with a
    task is that it does not allow its fallback. -/
theorem scoreTask_permitted_iff (task stateSnapshot : Json) (history : List Json) :
    (∀ score, scoreTask task stateSnapshot history = .ok score → score.taskSuccess = true →
      (Matches task stateSnapshot "expected_outcome" ∨
        Matches task stateSnapshot "fallback_outcome" ∧ AllowsFallback task) ∧
      ¬ PolicyViolation history ∧ ¬ ArgError task history) ↔
    ¬ OnlyForbiddenFallback task stateSnapshot history := by
  constructor
  · rintro permitted ⟨⟨endState, validated⟩, ⟨milestones, checked⟩, unexpected, fallback,
      forbidden, noViolation, noArgError⟩
    obtain ⟨success, expected, fellBack⟩ := validate_returned validated
    obtain ⟨violation, argErrors⟩ := validateMilestones_returned checked
    obtain ⟨score, scored, verdict⟩ := scoreTask_returns validated checked
    have succeeded : score.taskSuccess = true := by
      rw [verdict, success, fellBack.mpr ⟨unexpected, fallback⟩, argErrors.mpr noArgError,
        Bool.eq_false_iff.mpr (mt violation.mp noViolation)]
      rfl
    rcases (permitted score scored succeeded).1 with matched | ⟨-, allowed⟩
    · exact unexpected matched
    · exact forbidden allowed
  · intro allowed score scored success
    obtain ⟨endState, validated, rest⟩ := bind_eq_ok.mp scored
    obtain ⟨milestones, checked, -⟩ := bind_eq_ok.mp rest
    obtain ⟨score', scored', verdict⟩ := scoreTask_returns validated checked
    rw [scored, Except.ok.injEq] at scored'
    rw [← scored', success, eq_comm, Bool.and_eq_true, Bool.and_eq_true, decide_eq_true_iff,
      Bool.not_eq_true'] at verdict
    obtain ⟨⟨matched, clean⟩, noErrors⟩ := verdict
    obtain ⟨succeeded, expected, fellBack⟩ := validate_returned validated
    obtain ⟨violation, argErrors⟩ := validateMilestones_returned checked
    have noViolation : ¬ PolicyViolation history := fun bad =>
      absurd (violation.mpr bad) (Bool.eq_false_iff.mp clean)
    have noArgError := argErrors.mp noErrors
    refine ⟨?_, noViolation, noArgError⟩
    rw [succeeded, decide_eq_true_iff] at matched
    by_contra forbidden
    rw [not_or] at forbidden
    obtain ⟨unexpected, forbidden⟩ := forbidden
    have fallback : Matches task stateSnapshot "fallback_outcome" := by
      cases outcome : endState.matchedOutcome with
      | none => exact absurd outcome matched
      | expected => exact absurd (expected.mp outcome) unexpected
      | fallback => exact (fellBack.mp outcome).2
    exact allowed ⟨⟨endState, validated⟩, ⟨milestones, checked⟩, unexpected, fallback,
      fun permits => forbidden ⟨fallback, permits⟩, noViolation, noArgError⟩

end

section

open Reference

private def exchangeTask : Json := .dict [
  ("task_id", .str "TASK-005"),
  ("input", .dict [
    ("order_id", .str "ORD-1002"),
    ("request_type", .str "exchange"),
    ("requested_item_id", .str "ITEM-1002-1")]),
  ("required_tools", .list []),
  ("allow_fallback", .bool false),
  ("expected_outcome", .dict [("decision", .str "approve_exchange")]),
  ("fallback_outcome", .dict [
    ("decision", .str "offer_refund_or_store_credit"),
    ("reason_code", .str "exchange_fallback")])]

private def creditOffered : Json := .dict [
  ("refund_actions", .list []),
  ("return_requests", .list [.dict [
    ("order_id", .str "ORD-1002"),
    ("item_id", .str "ITEM-1002-1"),
    ("status", .str "offer_refund_or_store_credit"),
    ("note", .str "exchange_fallback")]])]

/-- The task succeeds on a fallback that it forbids. -/
theorem scoreTask_forbidden_fallback :
    (scoreTask exchangeTask creditOffered []).map
        (fun score => (score.taskSuccess, score.fallbackSuccess)) = .ok (true, false) ∧
      ¬ Matches exchangeTask creditOffered "expected_outcome" ∧ ¬ AllowsFallback exchangeTask := by
  refine ⟨by decide +kernel, ?_, ?_⟩
  · have matched : (validate exchangeTask creditOffered).map EndState.matchedOutcome =
        .ok .fallback := by decide +kernel
    cases validated : validate exchangeTask creditOffered with
    | error e =>
        rw [validated] at matched
        cases matched
    | ok endState =>
        rw [validated, Except.map, Except.ok.injEq] at matched
        exact ((validate_returned validated).2.2.mp matched).1
  · rintro ⟨_, ⟨⟩, allowed⟩
    exact absurd allowed (by decide +kernel)

end

end RetailEndStateValidator

end IntelliL3
