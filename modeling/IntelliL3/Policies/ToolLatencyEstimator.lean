import Mathlib.Data.List.Sort
import IntelliL3.Core.Platform
import IntelliL3.Lib.Run

/-! # Tool latency estimator

`policies/agent/tool_latency_estimator.py`: how long tool calls take, by tool and
by class of arguments, in exact rational arithmetic.
-/

namespace IntelliL3

open Lib

/-- Tool name, class of arguments. -/
abbrev ToolLatencyKey : Type := String × Option String

structure ToolLatencyStats where
  toolName : String
  toolArgsClass : Option String
  count : Nat
  meanLatencyMs : Rat
  emaLatencyMs : Rat
  lastLatencyMs : Rat
  minLatencyMs : Rat
  maxLatencyMs : Rat
  p50LatencyMs : Rat
  p95LatencyMs : Rat
  deriving DecidableEq

structure ToolLatencyEstimator where
  defaultLatencyMs : Rat
  emaAlpha : Rat
  maxSamplesPerProfile : Nat
  stats : Dict ToolLatencyKey ToolLatencyStats
  samples : Dict ToolLatencyKey (List Rat)
  defaultNonneg : 0 ≤ defaultLatencyMs
  alphaPositive : 0 < emaAlpha
  alphaAtMostOne : emaAlpha ≤ 1
  samplesPositive : 0 < maxSamplesPerProfile

/-- One of the profiles of a snapshot. -/
structure ProfileSnapshot where
  toolName : String
  toolArgsClass : Option String
  samplesMs : List Rat

/-- The dict `snapshot()` builds; `from_snapshot` reads each entry with a default. -/
structure EstimatorSnapshot where
  defaultLatencyMs : Option Rat
  emaAlpha : Option Rat
  maxSamplesPerProfile : Option Int
  profiles : Option (List ProfileSnapshot)

namespace ToolLatencyEstimator

def new (defaultLatencyMs : Rat := 1000) (emaAlpha : Rat := 3 / 10)
    (maxSamplesPerProfile : Int := 512) : Except PyError ToolLatencyEstimator :=
  if wrongDefault : defaultLatencyMs < 0 then
    .error (.valueError "default_latency_ms must be non-negative")
  else if rightAlpha : 0 < emaAlpha ∧ emaAlpha ≤ 1 then
    if wrongSamples : maxSamplesPerProfile ≤ 0 then
      .error (.valueError "max_samples_per_profile must be positive")
    else .ok {
      defaultLatencyMs
      emaAlpha
      maxSamplesPerProfile := maxSamplesPerProfile.toNat
      stats := .empty
      samples := .empty
      defaultNonneg := not_lt.mp wrongDefault
      alphaPositive := rightAlpha.1
      alphaAtMostOne := rightAlpha.2
      samplesPositive := by omega }
  else .error (.valueError "ema_alpha must be in (0, 1]")

theorem new_returns {defaultLatencyMs emaAlpha : Rat} {maxSamplesPerProfile : Int}
    (defaultNonneg : 0 ≤ defaultLatencyMs) (alphaPositive : 0 < emaAlpha)
    (alphaAtMostOne : emaAlpha ≤ 1) (samplesPositive : 0 < maxSamplesPerProfile) :
    ∃ estimator, new defaultLatencyMs emaAlpha maxSamplesPerProfile = .ok estimator ∧
      estimator.defaultLatencyMs = defaultLatencyMs ∧ estimator.emaAlpha = emaAlpha := by
  unfold new
  rw [dif_neg (not_lt.mpr defaultNonneg), dif_pos ⟨alphaPositive, alphaAtMostOne⟩,
    dif_neg (not_le.mpr samplesPositive)]
  exact ⟨_, rfl, rfl, rfl⟩

theorem new_settings {defaultLatencyMs emaAlpha : Rat} {maxSamplesPerProfile : Int}
    {estimator : ToolLatencyEstimator}
    (built : new defaultLatencyMs emaAlpha maxSamplesPerProfile = .ok estimator) :
    estimator.emaAlpha = emaAlpha ∧
      (estimator.maxSamplesPerProfile : Int) = maxSamplesPerProfile := by
  unfold new at built
  split at built
  · cases built
  · split at built
    · split at built <;> cases built
      exact ⟨rfl, Int.toNat_of_nonneg (by omega)⟩
    · cases built

def normalizeName (value fieldName : String) : Except PyError String :=
  let value := strip value
  if value = "" then .error (.valueError s!"{fieldName} must be non-empty") else .ok value

/-- `value.strip() or None` -/
def normalizeOptionalName (value : Option String) : Option String :=
  value.bind fun value => if strip value = "" then none else some (strip value)

/-- `sorted(values)`, interpolated at the rank of the percentile. -/
def percentile (values : List Rat) (percentile : Rat) : Rat :=
  let ordered := values.insertionSort (· ≤ ·)
  match ordered with
  | [] => 0
  | [only] => only
  | _ =>
      let rank := percentile / 100 * (ordered.length - 1 : Nat)
      let lower := rank.floor.toNat -- `int(rank)`
      let upper := min (lower + 1) (ordered.length - 1)
      let weight := rank - lower
      ordered.getD lower 0 * (1 - weight) + ordered.getD upper 0 * weight

/-- The last samples of a profile once a latency is added. -/
def appendSample (maxSamplesPerProfile : Nat) (samples : List Rat) (latencyMs : Rat) :
    List Rat :=
  let samples := samples ++ [latencyMs]
  if maxSamplesPerProfile < samples.length then
    samples.drop (samples.length - maxSamplesPerProfile)
  else samples

/-- The statistics of a profile once a latency is added, the samples being the last ones. -/
def updated (emaAlpha : Rat) (key : ToolLatencyKey) (current : Option ToolLatencyStats)
    (samples : List Rat) (latencyMs : Rat) : ToolLatencyStats :=
  let p50 := percentile samples 50
  let p95 := percentile samples 95
  match current with
  | none => {
      toolName := key.1
      toolArgsClass := key.2
      count := 1
      meanLatencyMs := latencyMs
      emaLatencyMs := latencyMs
      lastLatencyMs := latencyMs
      minLatencyMs := latencyMs
      maxLatencyMs := latencyMs
      p50LatencyMs := p50
      p95LatencyMs := p95 }
  | some current =>
      let count := current.count + 1
      { toolName := key.1
        toolArgsClass := key.2
        count
        meanLatencyMs := (current.meanLatencyMs * current.count + latencyMs) / count
        emaLatencyMs := emaAlpha * latencyMs + (1 - emaAlpha) * current.emaLatencyMs
        lastLatencyMs := latencyMs
        minLatencyMs := min current.minLatencyMs latencyMs
        maxLatencyMs := max current.maxLatencyMs latencyMs
        p50LatencyMs := p50
        p95LatencyMs := p95 }

/-- `_record` -/
def record (self : ToolLatencyEstimator) (key : ToolLatencyKey) (latencyMs : Rat) :
    ToolLatencyEstimator :=
  let current := self.stats.get? key
  let samples := appendSample self.maxSamplesPerProfile ((self.samples.get? key).getD [])
    latencyMs
  { self with
    samples := self.samples.set key samples
    stats := self.stats.set key (updated self.emaAlpha key current samples latencyMs) }

/-- An accepted latency, for the tool and for the class of arguments. -/
def recordBoth (self : ToolLatencyEstimator) (toolName : String) (latencyMs : Rat)
    (toolArgsClass : Option String) : ToolLatencyEstimator :=
  let self := self.record (toolName, none) latencyMs
  match toolArgsClass with
  | none => self
  | some argsClass => self.record (toolName, some argsClass) latencyMs

def recordLatency (toolName : String) (latencyMs : Rat) (toolArgsClass : Option String := none) :
    EStateM PyError ToolLatencyEstimator Unit := do
  let toolName ← raising (normalizeName toolName "tool_name")
  let toolArgsClass := normalizeOptionalName toolArgsClass
  if latencyMs < 0 then throw (.valueError "latency_ms must be non-negative")
  else modify fun self => self.recordBoth toolName latencyMs toolArgsClass

def recordInterval (toolName : String) (startedAt endedAt : Rat)
    (toolArgsClass : Option String := none) : EStateM PyError ToolLatencyEstimator Unit :=
  if endedAt < startedAt then
    throw (.valueError "ended_at must be greater than or equal to started_at")
  else recordLatency toolName ((endedAt - startedAt) * 1000) toolArgsClass

def predictLatency (self : ToolLatencyEstimator) (toolName : String)
    (toolArgsClass : Option String := none) : Except PyError Rat := do
  let toolName ← normalizeName toolName "tool_name"
  let specific := (normalizeOptionalName toolArgsClass).bind fun argsClass =>
    self.stats.get? (toolName, some argsClass)
  match specific with
  | some specific => return specific.emaLatencyMs
  | none =>
      match self.stats.get? (toolName, none) with
      | some aggregate => return aggregate.emaLatencyMs
      | none => return self.defaultLatencyMs

def getStats (self : ToolLatencyEstimator) (toolName : String)
    (toolArgsClass : Option String := none) : Except PyError (Option ToolLatencyStats) := do
  let toolName ← normalizeName toolName "tool_name"
  return self.stats.get? (toolName, normalizeOptionalName toolArgsClass)

/-- `(item[0], item[1] is not None, item[1] or "")` of one key is at most that of another. -/
def keyLe (a b : ToolLatencyKey) : Bool :=
  if a.1 ≠ b.1 then a.1 < b.1
  else if a.2.isSome ≠ b.2.isSome then b.2.isSome
  else a.2.getD "" ≤ b.2.getD ""

/-- The keys in the order of reports. -/
def sortedKeys {ν : Type} (profiles : Dict ToolLatencyKey ν) : List ToolLatencyKey :=
  profiles.keys.insertionSort fun a b => keyLe a b = true

def allStats (self : ToolLatencyEstimator) : List ToolLatencyStats :=
  (sortedKeys self.stats).filterMap self.stats.get?

def reset (self : ToolLatencyEstimator) : ToolLatencyEstimator :=
  { self with stats := .empty, samples := .empty }

def snapshot (self : ToolLatencyEstimator) : EstimatorSnapshot where
  defaultLatencyMs := some self.defaultLatencyMs
  emaAlpha := some self.emaAlpha
  maxSamplesPerProfile := some self.maxSamplesPerProfile
  profiles := some <| (sortedKeys self.samples).map fun key =>
    { toolName := key.1, toolArgsClass := key.2, samplesMs := (self.samples.get? key).getD [] }

/-- One sample of a profile of the snapshot. -/
def restoreSample (profile : ProfileSnapshot) (estimator : ToolLatencyEstimator)
    (latencyMs : Rat) : Except PyError ToolLatencyEstimator := do
  let toolName ← normalizeName profile.toolName "tool_name"
  return estimator.record (toolName, normalizeOptionalName profile.toolArgsClass) latencyMs

def fromSnapshot (snapshot : EstimatorSnapshot) : Except PyError ToolLatencyEstimator := do
  let estimator ← new (snapshot.defaultLatencyMs.getD 1000) (snapshot.emaAlpha.getD (3 / 10))
    (snapshot.maxSamplesPerProfile.getD 512)
  (snapshot.profiles.getD []).foldlM (fun estimator profile =>
    profile.samplesMs.foldlM (restoreSample profile) estimator) estimator

end ToolLatencyEstimator

/-- A call of `record_latency`. -/
structure LatencyCall where
  toolName : String
  latencyMs : Rat
  toolArgsClass : Option String

namespace LatencyCall

def exec (c : LatencyCall) : EStateM PyError ToolLatencyEstimator Unit :=
  ToolLatencyEstimator.recordLatency c.toolName c.latencyMs c.toolArgsClass

end LatencyCall

end IntelliL3
