import Mathlib.Data.Rat.Floor
import IntelliL3.Lib.Interpolation
import IntelliL3.Policies.LatencyHistory

/-! # Latency statistics

The statistics of a profile are kept up to date with every latency. They are those one
would compute from all of its latencies at once, and the percentiles those of the last
ones.
-/

namespace IntelliL3

open Lib

namespace ToolLatencyEstimator

/-! ## Statistics of a whole history -/

/-- The moving average of latencies, started by the first one. -/
def movingAverage (emaAlpha first : Rat) (rest : List Rat) : Rat :=
  rest.foldl (fun average latencyMs => emaAlpha * latencyMs + (1 - emaAlpha) * average) first

/-- The statistics of a profile, computed from its latencies at once. -/
def batchStats (emaAlpha : Rat) (maxSamplesPerProfile : Nat) (key : ToolLatencyKey) :
    List Rat → Option ToolLatencyStats
  | [] => none
  | first :: rest => some {
      toolName := key.1
      toolArgsClass := key.2
      count := (first :: rest).length
      meanLatencyMs := (first :: rest).sum / (first :: rest).length
      emaLatencyMs := movingAverage emaAlpha first rest
      lastLatencyMs := (first :: rest).getLast (List.cons_ne_nil first rest)
      minLatencyMs := (first :: rest).min (List.cons_ne_nil first rest)
      maxLatencyMs := (first :: rest).max (List.cons_ne_nil first rest)
      p50LatencyMs := linearPercentile (window maxSamplesPerProfile (first :: rest)) 50
      p95LatencyMs := linearPercentile (window maxSamplesPerProfile (first :: rest)) 95 }

/-- `_percentile` interpolates between the order statistics. -/
theorem percentile_eq (values : List Rat) {percent : Rat} (nonneg : 0 ≤ percent)
    (atMost : percent ≤ 100) : percentile values percent = linearPercentile values percent := by
  have rank := rank_nonneg values nonneg
  have sorted := List.length_insertionSort (· ≤ ·) values
  unfold percentile linearPercentile
  rw [interpolate_succ rank]
  simp only
  split
  · next empty =>
      rw [List.length_eq_zero_iff.mp (sorted.symm.trans (congrArg List.length empty))]
      simp [orderStatistic]
  · next only alone =>
      have one : values.length = 1 := sorted.symm.trans (congrArg List.length alone)
      simp [orderStatistic, one, alone]
  · rw [sorted]
    have floor : (percent / 100 * ((values.length - 1 : ℕ) : Rat)).floor.toNat =
        ⌊percent / 100 * ((values.length - 1 : ℕ) : Rat)⌋₊ := rfl
    have below : ⌊percent / 100 * ((values.length - 1 : ℕ) : Rat)⌋₊ ≤ values.length - 1 := by
      have part : percent / 100 ≤ 1 := (div_le_one (by norm_num)).mpr atMost
      exact Nat.floor_le_of_le (mul_le_of_le_one_left (Nat.cast_nonneg (values.length - 1)) part)
    rw [floor]
    unfold orderStatistic
    rw [min_eq_left below]
    ring

/-- Statistics brought up to date are those of the longer history. -/
theorem updated_batchStats (emaAlpha : Rat) (maxSamplesPerProfile : Nat) (key : ToolLatencyKey)
    (history : List Rat) (latencyMs : Rat) :
    some (updated emaAlpha key (batchStats emaAlpha maxSamplesPerProfile key history)
        (window maxSamplesPerProfile (history ++ [latencyMs])) latencyMs) =
      batchStats emaAlpha maxSamplesPerProfile key (history ++ [latencyMs]) := by
  unfold updated
  simp only [@percentile_eq _ 50 (by norm_num) (by norm_num),
    @percentile_eq _ 95 (by norm_num) (by norm_num)]
  cases history with
  | nil => simp [batchStats, movingAverage, List.min, List.max]
  | cons first rest =>
      have mean : ((first :: rest).sum / ((first :: rest).length : Rat) * (first :: rest).length +
          latencyMs) / ((first :: rest).length + 1 : ℕ) =
          (first :: (rest ++ [latencyMs])).sum / ((first :: (rest ++ [latencyMs])).length : ℕ) := by
        have some : ((first :: rest).length : Rat) ≠ 0 := by
          rw [List.length_cons]
          exact Nat.cast_ne_zero.mpr (Nat.succ_ne_zero _)
        rw [div_mul_cancel₀ _ some, ← List.cons_append, List.sum_append, List.sum_singleton,
          List.length_append, List.length_singleton]
      rw [List.cons_append]
      simp only [batchStats, mean, movingAverage, List.min, List.max, List.foldl_append,
        List.foldl_cons, List.foldl_nil]
      simp [List.getLast_cons]

theorem profileOf_stats (emaAlpha : Rat) (maxSamplesPerProfile : Nat) (key : ToolLatencyKey)
    (history : List Rat) :
    (profileOf emaAlpha maxSamplesPerProfile key history).map Prod.fst =
      batchStats emaAlpha maxSamplesPerProfile key history := by
  induction history using List.reverseRecOn with
  | nil => rfl
  | append_singleton history latencyMs ih =>
      rw [profileOf_concat, ← updated_batchStats, ← ih, ← appendSample_window,
        ← (profileOf_kept emaAlpha maxSamplesPerProfile key history).1]
      rfl

theorem Tells.stats_eq {estimator : ToolLatencyEstimator} {history : ToolLatencyKey → List Rat}
    (tells : Tells estimator history) (key : ToolLatencyKey) :
    estimator.stats.get? key =
      batchStats estimator.emaAlpha estimator.maxSamplesPerProfile key (history key) := by
  rw [tells.stats, profileOf_stats]

/-! ## Names -/

theorem normalizeName_eq_ok_iff {value fieldName name : String} :
    normalizeName value fieldName = .ok name ↔ strip value = name ∧ name ≠ "" := by
  unfold normalizeName
  simp only
  split
  · next empty =>
      simp only [reduceCtorEq, false_iff, not_and, not_not]
      exact fun same => same.symm.trans empty
  · next named =>
      rw [Except.ok.injEq]
      exact ⟨fun same => ⟨same, same ▸ named⟩, And.left⟩

theorem normalizeOptionalName_eq_some_iff {value : Option String} {name : String} :
    normalizeOptionalName value = some name ↔ value.map strip = some name ∧ name ≠ "" := by
  cases value with
  | none => simp [normalizeOptionalName]
  | some value =>
      simp only [normalizeOptionalName, Option.bind_some, Option.map_some, Option.some.injEq]
      split
      · next empty =>
          simp only [reduceCtorEq, false_iff, not_and, not_not]
          exact fun same => same.symm.trans empty
      · next named =>
          rw [Option.some.injEq]
          exact ⟨fun same => ⟨same, same ▸ named⟩, And.left⟩

end ToolLatencyEstimator

/-! ## The latencies of a profile -/

namespace LatencyCall

open ToolLatencyEstimator

/-- The latencies that calls give for a tool, or for a class of its arguments: those that
    are not negative, of the calls with this tool's name and this class, both stripped. -/
def recordedFor (calls : List LatencyCall) (toolName : String) (argsClass : Option String) :
    List Rat :=
  (calls.filter fun c => 0 ≤ c.latencyMs && strip c.toolName = toolName &&
    (argsClass = none || c.toolArgsClass.map strip = argsClass)).map latencyMs

theorem mem_keys_iff (c : LatencyCall) (key : ToolLatencyKey) :
    key ∈ c.keys ↔ normalizeName c.toolName "tool_name" = .ok key.1 ∧ 0 ≤ c.latencyMs ∧
      (key.2 = none ∨ key.2.isSome ∧ normalizeOptionalName c.toolArgsClass = key.2) := by
  unfold keys
  cases normalizeName c.toolName "tool_name" with
  | error e => simp only [List.not_mem_nil, reduceCtorEq, false_and]
  | ok toolName =>
      obtain ⟨name, argsClass⟩ := key
      rw [Except.ok.injEq]
      by_cases negative : c.latencyMs < 0
      · simp only [negative, if_true, List.not_mem_nil, not_le.mpr negative, false_and, and_false]
      · simp only [negative, if_false, not_lt.mp negative, true_and]
        cases normalizeOptionalName c.toolArgsClass with
        | none => cases argsClass <;> simp [eq_comm]
        | some other => cases argsClass <;> simp [eq_comm]

theorem history_eq {calls : List LatencyCall} {toolName name : String}
    (normalized : normalizeName toolName "tool_name" = .ok name) (argsClass : Option String) :
    history calls (name, normalizeOptionalName argsClass) =
      recordedFor calls name (normalizeOptionalName argsClass) := by
  have named := (normalizeName_eq_ok_iff.mp normalized).2
  unfold history recordedFor
  refine congrArg (List.map latencyMs) (List.filter_congr fun c _ => ?_)
  rw [Bool.eq_iff_iff, decide_eq_true_eq, c.mem_keys_iff]
  simp only [normalizeName_eq_ok_iff, named, ne_eq, not_false_eq_true, and_true,
    decide_eq_true_eq, Bool.and_eq_true, Bool.or_eq_true]
  cases cls : normalizeOptionalName argsClass with
  | none => simp [and_comm]
  | some a =>
      have nonempty := (normalizeOptionalName_eq_some_iff.mp cls).2
      simp [normalizeOptionalName_eq_some_iff, nonempty, and_comm, and_assoc]

/-- A call that raises changes nothing. -/
theorem state_of_raised {c : LatencyCall} {estimator : ToolLatencyEstimator} {e : PyError}
    (raised : EStateResult.outcome (c.exec estimator) = .error e) :
    EStateResult.state (c.exec estimator) = estimator := by
  unfold exec recordLatency at raised ⊢
  rw [bind_run] at raised ⊢
  cases named : normalizeName c.toolName "tool_name" with
  | error e => rfl
  | ok toolName =>
      rw [named] at raised
      simp only [raising_ok] at raised ⊢
      split at raised
      · next negative =>
          rw [if_pos negative]
          rfl
      · cases raised

end LatencyCall

open ToolLatencyEstimator in
/-- After any calls, the statistics of a profile are those of all the latencies recorded for
    it, and a call that raises changes nothing. -/
theorem latency_stats_batch {defaultLatencyMs emaAlpha : Rat} {maxSamplesPerProfile : Int}
    {fresh : ToolLatencyEstimator}
    (built : ToolLatencyEstimator.new defaultLatencyMs emaAlpha maxSamplesPerProfile = .ok fresh)
    (calls : List LatencyCall) :
    (∀ toolName toolArgsClass,
      (drive LatencyCall.exec fresh calls).getStats toolName toolArgsClass =
        (normalizeName toolName "tool_name").map fun name =>
          batchStats emaAlpha maxSamplesPerProfile.toNat
            (name, normalizeOptionalName toolArgsClass)
            (LatencyCall.recordedFor calls name (normalizeOptionalName toolArgsClass))) ∧
      ∀ c e, EStateResult.outcome (LatencyCall.exec c (drive LatencyCall.exec fresh calls)) =
          .error e →
        EStateResult.state (LatencyCall.exec c (drive LatencyCall.exec fresh calls)) =
          drive LatencyCall.exec fresh calls := by
  refine ⟨fun toolName toolArgsClass => ?_, fun _ _ => LatencyCall.state_of_raised⟩
  have settings := sameSettings_run fresh calls
  have tells : Tells (drive LatencyCall.exec fresh calls) (LatencyCall.history calls) :=
    tells_run (Tells.new built) calls
  have samples : maxSamplesPerProfile.toNat = fresh.maxSamplesPerProfile := by
    rw [← (new_settings built).2, Int.toNat_natCast]
  unfold getStats
  cases named : normalizeName toolName "tool_name" with
  | error e => rfl
  | ok name =>
      simp only [Except.map, bind, Except.bind, pure, Except.pure]
      rw [tells.stats_eq, settings.emaAlpha, settings.maxSamplesPerProfile, samples,
        LatencyCall.history_eq named, (new_settings built).1]

section

private def slowing : List LatencyCall :=
  [⟨"search", 100, some "short"⟩, ⟨" search ", 300, none⟩, ⟨"search", 500, some " short "⟩,
    ⟨"search", -1, none⟩]

open ToolLatencyEstimator in
/-- Three latencies of one tool, of which two samples are kept. -/
theorem latency_stats_batch_three :
    ∃ fresh, ToolLatencyEstimator.new 1000 (1 / 2) 2 = .ok fresh ∧
      (∀ toolName toolArgsClass,
        (drive LatencyCall.exec fresh slowing).getStats toolName toolArgsClass =
          (normalizeName toolName "tool_name").map fun name =>
            batchStats (1 / 2) 2 (name, normalizeOptionalName toolArgsClass)
              (LatencyCall.recordedFor slowing name (normalizeOptionalName toolArgsClass))) ∧
        ∀ c e, EStateResult.outcome (LatencyCall.exec c (drive LatencyCall.exec fresh slowing)) =
            .error e →
          EStateResult.state (LatencyCall.exec c (drive LatencyCall.exec fresh slowing)) =
            drive LatencyCall.exec fresh slowing := by
  obtain ⟨fresh, built, -⟩ := @new_returns 1000 (1 / 2) 2 (by decide +kernel)
    (by decide +kernel) (by decide +kernel) (by decide)
  exact ⟨fresh, built, latency_stats_batch built slowing⟩

end

end IntelliL3
