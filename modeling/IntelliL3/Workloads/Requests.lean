import Mathlib.Algebra.Order.Field.Rat
import Mathlib.Tactic.NormNum
import IntelliL3.Core.Json
import IntelliL3.Core.Platform
import IntelliL3.Lib.Accumulate

/-! # Benchmark requests

`workloads/base.py` and `baselines/base.py`: what a workload emits and what a system answers to
it. Latencies and metrics are exact numbers, so an infinite number or a `nan` in the metadata of
a request is left out.
-/

namespace IntelliL3

open Lib

structure BenchmarkRequest where
  prompt : String
  sessionId : String
  timestamp : Rat
  modelName : String := "test-model"
  metadata : Dict String Json := .empty

structure ProcessResult where
  latencyMs : Rat
  isCacheHit : Bool := false
  prefetched : Nat := 0
  usefulPrefetch : Nat := 0
  extraMetrics : Dict String Rat := .empty

/-- A system and the state it is built with. -/
structure BenchmarkSystem where
  State : Type
  name : String
  start : State
  process : BenchmarkRequest → EStateM PyError State ProcessResult

/-- The number that a finite float is; the others are left out. -/
def PyFloat.exact : PyFloat → Except PyError Rat
  | .finite x => .ok x
  | _ => .error (.overflowError "cannot convert a float that is not finite")

/-- `int(event)`, as a metric -/
def indicator (event : Bool) : Rat := if event then 1 else 0

@[simp] theorem indicator_true : indicator true = 1 := rfl

@[simp] theorem indicator_false : indicator false = 0 := rfl

/-- A metric, summed over some results. -/
def metricTotal (name : String) (results : List ProcessResult) : Rat :=
  (results.map fun result => (result.extraMetrics.get? name).getD 0).sum

theorem metricTotal_cons (name : String) (result : ProcessResult) (results : List ProcessResult) :
    metricTotal name (result :: results) =
      (result.extraMetrics.get? name).getD 0 + metricTotal name results := by
  rw [metricTotal, List.map_cons, List.sum_cons, metricTotal]

namespace BenchmarkRequest

/-- `self.metadata.get(key, default)` -/
def get (self : BenchmarkRequest) (key : String) (default : Json := .none) : Json :=
  (self.metadata.get? key).getD default

variable [PyBuiltins]

/-- `str(self.metadata.get(key, default))` -/
def text (self : BenchmarkRequest) (key : String) (default : String := "") :
    Except PyError String :=
  (self.get key (.str default)).toStr

/-- `float(self.metadata.get(key, 0.0))` -/
def number (self : BenchmarkRequest) (key : String) : Except PyError Rat := do
  (← (self.get key (.float (.finite 0))).toFloat).exact

/-- `f"{salt}:{self.session_id}:{self.timestamp}:{self.prompt[:128]}"` -/
def jitterPayload (self : BenchmarkRequest) (salt : String) : Except PyError String := do
  let timestamp ← (Json.float (.finite self.timestamp)).toStr
  return s!"{salt}:{self.sessionId}:{timestamp}:{String.ofList (self.prompt.toList.take 128)}"

variable [PyRuntime]

omit [PyBuiltins] in
/-- `int(hashlib.sha256(payload.encode("utf-8")).hexdigest()[:8], 16) / 0xFFFFFFFF` -/
def unitOf (payload : String) : Rat :=
  ((PyRuntime.sha256 payload / 16 ^ 56 % 16 ^ 8 : Nat) : Rat) / 0xFFFFFFFF

/-- `_stable_jitter(self, salt, spread_ms)` -/
def stableJitter (self : BenchmarkRequest) (salt : String) (spreadMs : Rat) :
    Except PyError Rat := do
  return unitOf (← self.jitterPayload salt) * spreadMs

omit [PyBuiltins] in
theorem unitOf_mem (payload : String) : 0 ≤ unitOf payload ∧ unitOf payload ≤ 1 := by
  have small : PyRuntime.sha256 payload / 16 ^ 56 % 16 ^ 8 ≤ 0xFFFFFFFF :=
    Nat.le_of_lt_succ (Nat.mod_lt _ (by norm_num))
  constructor
  · exact div_nonneg (Nat.cast_nonneg _) (by norm_num)
  · exact div_le_one_of_le₀ (by exact_mod_cast small) (by norm_num)

/-- The jitter of a request is within its spread. -/
theorem stableJitter_mem {self : BenchmarkRequest} {salt : String} {spreadMs jitter : Rat}
    (positive : 0 ≤ spreadMs) (computed : self.stableJitter salt spreadMs = .ok jitter) :
    0 ≤ jitter ∧ jitter ≤ spreadMs := by
  rw [stableJitter] at computed
  cases payload : self.jitterPayload salt with
  | error e =>
      rw [payload] at computed
      cases computed
  | ok payload' =>
      rw [payload] at computed
      cases computed
      obtain ⟨low, high⟩ := unitOf_mem payload'
      exact ⟨mul_nonneg low positive, mul_le_of_le_one_left positive high⟩

end BenchmarkRequest

namespace Reference

/-- A step of an agent of one workflow. -/
def agentStep (agentId : String) : BenchmarkRequest where
  prompt := ""
  sessionId := "session"
  timestamp := 0
  metadata := .ofRows [("workflow_id", .str "workflow_0"), ("agent_id", .str agentId)]

def agentSteps : List BenchmarkRequest := [agentStep "planner", agentStep "critic"]

end Reference

end IntelliL3
