import Mathlib.Algebra.Order.BigOperators.Group.List
import IntelliL3.Policies.EstimatorRestore
import IntelliL3.Policies.LatencyStatistics

/-! # Latency bounds

Whatever an estimator goes through, each of its profiles sums up latencies that are not
negative. So its statistics lie between the least and the greatest of them, and with them
every prediction that is read from a profile.
-/

namespace IntelliL3

open Lib

namespace ToolLatencyEstimator

/-! ## Averages -/

/-- A moving average stays between bounds of the latencies. -/
theorem movingAverage_mem {emaAlpha lo hi : Rat} (positive : 0 < emaAlpha)
    (atMostOne : emaAlpha ≤ 1) {first : Rat} {rest : List Rat}
    (within : ∀ x ∈ first :: rest, lo ≤ x ∧ x ≤ hi) :
    lo ≤ movingAverage emaAlpha first rest ∧ movingAverage emaAlpha first rest ≤ hi := by
  unfold movingAverage
  induction rest generalizing first with
  | nil => exact within first List.mem_cons_self
  | cons next rest ih =>
      obtain ⟨lo_first, first_hi⟩ := within first List.mem_cons_self
      obtain ⟨lo_next, next_hi⟩ := within next (List.mem_cons_of_mem _ List.mem_cons_self)
      have remains : 0 ≤ 1 - emaAlpha := sub_nonneg.mpr atMostOne
      have averaged : lo ≤ emaAlpha * next + (1 - emaAlpha) * first ∧
          emaAlpha * next + (1 - emaAlpha) * first ≤ hi := by
        have below := mul_le_mul_of_nonneg_left lo_next positive.le
        have below' := mul_le_mul_of_nonneg_left lo_first remains
        have above := mul_le_mul_of_nonneg_left next_hi positive.le
        have above' := mul_le_mul_of_nonneg_left first_hi remains
        constructor <;> linarith
      refine ih fun x member => ?_
      rcases List.mem_cons.mp member with rfl | later
      · exact averaged
      · exact within x (List.mem_cons_of_mem _ (List.mem_cons_of_mem _ later))

theorem mean_mem {lo hi : Rat} {values : List Rat} (some : values ≠ [])
    (within : ∀ x ∈ values, lo ≤ x ∧ x ≤ hi) :
    lo ≤ values.sum / values.length ∧ values.sum / values.length ≤ hi := by
  have positive : (0 : Rat) < values.length := Nat.cast_pos.mpr (List.length_pos_iff.mpr some)
  have below := List.card_nsmul_le_sum values lo fun x member => (within x member).1
  have above := List.sum_le_card_nsmul values hi fun x member => (within x member).2
  rw [nsmul_eq_mul] at below above
  rw [le_div_iff₀ positive, div_le_iff₀ positive]
  constructor <;> linarith

/-! ## One profile -/

/-- The statistics of a profile are not negative, and between the least and the greatest. -/
structure InOrder (stats : ToolLatencyStats) : Prop where
  nonneg : 0 ≤ stats.minLatencyMs
  minP50 : stats.minLatencyMs ≤ stats.p50LatencyMs
  p50P95 : stats.p50LatencyMs ≤ stats.p95LatencyMs
  p95Max : stats.p95LatencyMs ≤ stats.maxLatencyMs
  mean : stats.minLatencyMs ≤ stats.meanLatencyMs ∧ stats.meanLatencyMs ≤ stats.maxLatencyMs
  ema : stats.minLatencyMs ≤ stats.emaLatencyMs ∧ stats.emaLatencyMs ≤ stats.maxLatencyMs
  last : stats.minLatencyMs ≤ stats.lastLatencyMs ∧ stats.lastLatencyMs ≤ stats.maxLatencyMs

theorem InOrder.ema_nonneg {stats : ToolLatencyStats} (inOrder : InOrder stats) :
    0 ≤ stats.emaLatencyMs :=
  inOrder.nonneg.trans inOrder.ema.1

theorem batchStats_inOrder {emaAlpha : Rat} (positive : 0 < emaAlpha)
    (atMostOne : emaAlpha ≤ 1) {maxSamplesPerProfile : Nat} (some : 0 < maxSamplesPerProfile)
    {key : ToolLatencyKey} {history : List Rat} (nonneg : ∀ x ∈ history, 0 ≤ x)
    {stats : ToolLatencyStats}
    (summed : batchStats emaAlpha maxSamplesPerProfile key history = .some stats) :
    InOrder stats := by
  cases history with
  | nil => cases summed
  | cons first rest =>
      cases summed
      have nonempty := List.cons_ne_nil first rest
      have within : ∀ x ∈ first :: rest, (first :: rest).min nonempty ≤ x ∧
          x ≤ (first :: rest).max nonempty :=
        fun x member => ⟨List.min_le_of_mem member, List.le_max_of_mem member⟩
      have kept : window maxSamplesPerProfile (first :: rest) ≠ [] := by
        refine List.ne_nil_of_length_pos ?_
        rw [length_window]
        exact lt_min (Nat.succ_pos _) some
      have among : ∀ x ∈ window maxSamplesPerProfile (first :: rest),
          (first :: rest).min nonempty ≤ x ∧ x ≤ (first :: rest).max nonempty :=
        fun x member => within x (List.mem_of_mem_drop member)
      exact {
        nonneg := nonneg _ (List.min_mem nonempty)
        minP50 := (linearPercentile_mem kept among (by norm_num)).1
        p50P95 := linearPercentile_mono _ (by norm_num) (by norm_num)
        p95Max := (linearPercentile_mem kept among (by norm_num)).2
        mean := mean_mem nonempty within
        ema := movingAverage_mem positive atMostOne within
        last := within _ (List.getLast_mem nonempty) }

/-! ## Every estimator there is -/

/-- The estimators that are built, told latencies or intervals, reset, or restored from the
    snapshot of another. -/
inductive Reachable : ToolLatencyEstimator → Prop
  | new {defaultLatencyMs emaAlpha : Rat} {maxSamplesPerProfile : Int}
      {estimator : ToolLatencyEstimator} :
      ToolLatencyEstimator.new defaultLatencyMs emaAlpha maxSamplesPerProfile = .ok estimator →
      Reachable estimator
  | recordLatency {estimator : ToolLatencyEstimator} (toolName : String) (latencyMs : Rat)
      (toolArgsClass : Option String) : Reachable estimator →
      Reachable (EStateResult.state
        (ToolLatencyEstimator.recordLatency toolName latencyMs toolArgsClass estimator))
  | recordInterval {estimator : ToolLatencyEstimator} (toolName : String)
      (startedAt endedAt : Rat) (toolArgsClass : Option String) : Reachable estimator →
      Reachable (EStateResult.state
        (ToolLatencyEstimator.recordInterval toolName startedAt endedAt toolArgsClass estimator))
  | reset {estimator : ToolLatencyEstimator} : Reachable estimator → Reachable estimator.reset
  | fromSnapshot {estimator restored : ToolLatencyEstimator} : Reachable estimator →
      ToolLatencyEstimator.fromSnapshot estimator.snapshot = .ok restored → Reachable restored

/-- An estimator knows the profiles of these latencies, none of them negative. -/
structure Recorded (estimator : ToolLatencyEstimator) (known : ToolLatencyKey → List Rat) :
    Prop where
  tells : Tells estimator known
  profiles : ∀ key, known key ≠ [] → IsProfile key
  nonneg : ∀ key, ∀ x ∈ known key, 0 ≤ x

namespace Recorded

variable {estimator : ToolLatencyEstimator} {known : ToolLatencyKey → List Rat}

theorem recordLatency (recorded : Recorded estimator known) (toolName : String)
    (latencyMs : Rat) (toolArgsClass : Option String) : ∃ known, Recorded (EStateResult.state
      (ToolLatencyEstimator.recordLatency toolName latencyMs toolArgsClass estimator)) known := by
  have told := tells_run recorded.tells [⟨toolName, latencyMs, toolArgsClass⟩]
  rw [drive_singleton] at told
  refine ⟨_, told, fun key some => ?_, fun key x member => ?_⟩
  · by_cases before : known key = []
    · rw [before, List.nil_append] at some
      exact LatencyCall.isProfile_of_history some
    · exact recorded.profiles key before
  · rcases List.mem_append.mp member with before | now
    · exact recorded.nonneg key x before
    · unfold LatencyCall.history at now
      obtain ⟨c, listed, rfl⟩ := List.mem_map.mp now
      have accepted := (List.mem_filter.mp listed).2
      rw [decide_eq_true_eq, LatencyCall.mem_keys_iff] at accepted
      exact accepted.2.1

theorem recordInterval (recorded : Recorded estimator known) (toolName : String)
    (startedAt endedAt : Rat) (toolArgsClass : Option String) :
    ∃ known, Recorded (EStateResult.state (ToolLatencyEstimator.recordInterval toolName startedAt
      endedAt toolArgsClass estimator)) known := by
  unfold ToolLatencyEstimator.recordInterval
  split
  · exact ⟨known, recorded⟩
  · exact recorded.recordLatency toolName _ toolArgsClass

theorem fromSnapshot (recorded : Recorded estimator known) {restored : ToolLatencyEstimator}
    (restores : ToolLatencyEstimator.fromSnapshot estimator.snapshot = .ok restored) :
    ∃ known, Recorded restored known := by
  obtain ⟨other, same, -, told⟩ := fromSnapshot_snapshot recorded.tells recorded.profiles
  cases same.symm.trans restores
  refine ⟨_, told, fun key some => recorded.profiles key fun none => some ?_, fun key x member =>
    recorded.nonneg key x (List.mem_of_mem_drop member)⟩
  rw [none]
  exact List.drop_nil

end Recorded

theorem Reachable.recorded {estimator : ToolLatencyEstimator} (reachable : Reachable estimator) :
    ∃ known, Recorded estimator known := by
  induction reachable with
  | new built =>
      exact ⟨_, Tells.new built, fun _ some => absurd rfl some,
        fun _ _ member => absurd member List.not_mem_nil⟩
  | recordLatency toolName latencyMs toolArgsClass _ ih =>
      obtain ⟨known, recorded⟩ := ih
      exact recorded.recordLatency toolName latencyMs toolArgsClass
  | recordInterval toolName startedAt endedAt toolArgsClass _ ih =>
      obtain ⟨known, recorded⟩ := ih
      exact recorded.recordInterval toolName startedAt endedAt toolArgsClass
  | reset _ ih =>
      exact ⟨fun _ => [], fun _ => rfl, fun _ some => absurd rfl some,
        fun _ _ member => absurd member List.not_mem_nil⟩
  | fromSnapshot _ restores ih =>
      obtain ⟨known, recorded⟩ := ih
      exact recorded.fromSnapshot restores

theorem Reachable.inOrder {estimator : ToolLatencyEstimator} (reachable : Reachable estimator)
    {key : ToolLatencyKey} {stats : ToolLatencyStats}
    (profile : estimator.stats.get? key = some stats) : InOrder stats := by
  obtain ⟨known, recorded⟩ := reachable.recorded
  rw [recorded.tells.stats_eq] at profile
  exact batchStats_inOrder estimator.alphaPositive estimator.alphaAtMostOne
    estimator.samplesPositive (recorded.nonneg key) profile

/-! ## Predictions -/

/-- The profile a prediction is read from: that of the class, or else that of the tool. -/
def selected (self : ToolLatencyEstimator) (toolName : String) (argsClass : Option String) :
    Option ToolLatencyStats :=
  (argsClass.bind fun argsClass => self.stats.get? (toolName, some argsClass)).or
    (self.stats.get? (toolName, none))

theorem selected_profile {estimator : ToolLatencyEstimator} {toolName : String}
    {argsClass : Option String} {stats : ToolLatencyStats}
    (found : estimator.selected toolName argsClass = some stats) :
    ∃ key, estimator.stats.get? key = some stats := by
  rcases Option.or_eq_some_iff.mp found with specific | ⟨-, aggregate⟩
  · obtain ⟨name, -, held⟩ := Option.bind_eq_some_iff.mp specific
    exact ⟨_, held⟩
  · exact ⟨_, aggregate⟩

theorem predictLatency_eq (estimator : ToolLatencyEstimator) (toolName : String)
    (toolArgsClass : Option String) :
    estimator.predictLatency toolName toolArgsClass =
      (normalizeName toolName "tool_name").map fun name =>
        ((estimator.selected name (normalizeOptionalName toolArgsClass)).map
          ToolLatencyStats.emaLatencyMs).getD estimator.defaultLatencyMs := by
  unfold predictLatency selected
  cases normalizeName toolName "tool_name" with
  | error e => rfl
  | ok name =>
      simp only [bind, Except.bind, pure, Except.pure, Except.map]
      cases (normalizeOptionalName toolArgsClass).bind fun argsClass =>
          estimator.stats.get? (name, some argsClass) with
      | some specific => rfl
      | none => cases estimator.stats.get? (name, none) <;> rfl

/-- In every estimator the statistics of a profile are in order, and a prediction is the moving
    average of the profile it is read from, within its bounds, or the default. -/
theorem latency_profiles_in_order {estimator : ToolLatencyEstimator}
    (reachable : Reachable estimator) :
    (∀ key stats, estimator.stats.get? key = some stats → InOrder stats) ∧
      ∀ toolName toolArgsClass,
        estimator.predictLatency toolName toolArgsClass =
            ((normalizeName toolName "tool_name").map fun name =>
              ((estimator.selected name (normalizeOptionalName toolArgsClass)).map
                ToolLatencyStats.emaLatencyMs).getD estimator.defaultLatencyMs) ∧
          ∀ value, estimator.predictLatency toolName toolArgsClass = .ok value → 0 ≤ value ∧
            ∀ name stats, normalizeName toolName "tool_name" = .ok name →
              estimator.selected name (normalizeOptionalName toolArgsClass) = some stats →
                stats.minLatencyMs ≤ value ∧ value ≤ stats.maxLatencyMs := by
  refine ⟨fun key stats profile => reachable.inOrder profile, fun toolName toolArgsClass =>
    ⟨estimator.predictLatency_eq toolName toolArgsClass, fun value predicted => ?_⟩⟩
  rw [predictLatency_eq] at predicted
  cases named : normalizeName toolName "tool_name" with
  | error e =>
      rw [named] at predicted
      cases predicted
  | ok name =>
      rw [named] at predicted
      cases found : estimator.selected name (normalizeOptionalName toolArgsClass) with
      | none =>
          simp only [Except.map, found, Option.map_none, Option.getD_none, Except.ok.injEq]
            at predicted
          subst predicted
          refine ⟨estimator.defaultNonneg, fun other stats same selected => ?_⟩
          cases same
          rw [found] at selected
          cases selected
      | some profile =>
          simp only [Except.map, found, Option.map_some, Option.getD_some, Except.ok.injEq]
            at predicted
          subst predicted
          obtain ⟨key, held⟩ := selected_profile found
          have inOrder := reachable.inOrder held
          refine ⟨inOrder.ema_nonneg, fun other stats same selected => ?_⟩
          cases same
          cases found.symm.trans selected
          exact inOrder.ema

theorem latency_profiles_in_order_search :
    ∃ estimator, Reachable estimator ∧
      (∀ key stats, estimator.stats.get? key = some stats → InOrder stats) ∧
        ∀ toolName toolArgsClass,
          estimator.predictLatency toolName toolArgsClass =
              ((normalizeName toolName "tool_name").map fun name =>
                ((estimator.selected name (normalizeOptionalName toolArgsClass)).map
                  ToolLatencyStats.emaLatencyMs).getD estimator.defaultLatencyMs) ∧
            ∀ value, estimator.predictLatency toolName toolArgsClass = .ok value → 0 ≤ value ∧
              ∀ name stats, normalizeName toolName "tool_name" = .ok name →
                estimator.selected name (normalizeOptionalName toolArgsClass) = some stats →
                  stats.minLatencyMs ≤ value ∧ value ≤ stats.maxLatencyMs := by
  obtain ⟨fresh, built, -⟩ := @new_returns 1000 (1 / 2) 2 (by decide +kernel)
    (by decide +kernel) (by decide +kernel) (by decide)
  have reachable := ((Reachable.new built).recordLatency "search" 100 (some "short")).recordInterval
    "search" 1 3 none
  exact ⟨_, reachable, latency_profiles_in_order reachable⟩

end ToolLatencyEstimator

end IntelliL3
