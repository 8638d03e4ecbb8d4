import Mathlib.Data.List.MinMax
import Mathlib.Tactic.Linarith
import Mathlib.Tactic.Positivity
import IntelliL3.Measurement.Comparison

/-! # Summary of a run

`measurement/run_summary.py`: verdicts on the key metrics of a comparison by the difference of
the means. They agree with the counts of the comparison report wherever the baseline is not
zero; from a baseline of zero the report has no percentage, and counts nothing.
-/

namespace IntelliL3

open Lib

inductive Verdict where
  | improved | regressed | unchanged
  deriving DecidableEq

structure MetricEntry where
  metric : String
  group : MetricGroup
  direction : Direction
  values : Dict String Rat
  delta : Option Rat
  improvementPercent : Option Rat
  verdict : Verdict

structure RunSummary where
  experimentName : String
  mode : String
  systems : List String
  baselineSystem : Option String
  candidateSystem : Option String
  timestamp : String
  keyMetrics : List MetricEntry
  interpretation : String

/-- The formats of floats. -/
class PyFormat where
  /-- `f"{x:+.1f}"` -/
  signed : Rat → String
  /-- `f"{x:.4f}"` -/
  places : Rat → String

/-- The least difference that is called an improvement or a regression. -/
def epsilon : Rat := 1 / 10 ^ 9

def verdict (delta : Option Rat) (direction : Direction) : Verdict :=
  match delta with
  | none => .unchanged
  | some delta =>
      if |delta| < epsilon then .unchanged
      else match direction with
        | .higherIsBetter => if 0 < delta then .improved else .regressed
        | .lowerIsBetter => if delta < 0 then .improved else .regressed
        | .neutral => .unchanged

def interpretComparison [PyFormat] (comparison : SystemComparison) (entries : List MetricEntry) :
    String :=
  let experiment := s!"Experiment '{comparison.experimentName}': "
  let improved := entries.filter fun entry => entry.verdict = .improved
  let regressed := entries.filter fun entry => entry.verdict = .regressed
  if entries = [] then experiment ++ "no key metrics were measured for comparison."
  else
    let size (entry : MetricEntry) := |entry.improvementPercent.getD 0|
    let percent (entry : MetricEntry) :=
      (entry.improvementPercent.map fun percent => PyFormat.signed percent ++ "%").getD ""
    let mean (entry : MetricEntry) system := PyFormat.places ((entry.values.get? system).getD 0)
    let gain := (improved.argmax size).map fun best =>
      s!"Largest gain: {best.metric} {percent best} " ++
        s!"({mean best comparison.baselineSystem} → {mean best comparison.candidateSystem})."
    let loss := (regressed.argmax size).map fun worst =>
      s!"Notable regression: {worst.metric} {percent worst}."
    let checks := (comparison.metrics.filter (·.metric ∈ keyMetrics)).filterMap
      MetricComparison.meetsTarget
    let met := checks.countP id
    let targets := if checks = [] then [] else
      [s!"Targets met: {met}, missed: {checks.length - met}."]
    " ".intercalate ([experiment ++ s!"candidate '{comparison.candidateSystem}' vs baseline " ++
      s!"'{comparison.baselineSystem}' — {improved.length} of {entries.length} key metric(s) " ++
      "improved."] ++ gain.toList ++ loss.toList ++ targets)

def metricEntry (comparison : SystemComparison) (mc : MetricComparison) : MetricEntry where
  metric := mc.metric
  group := mc.metricGroup
  direction := mc.direction
  values := Dict.set (.set .empty comparison.baselineSystem mc.baselineMean)
    comparison.candidateSystem mc.candidateMean
  delta := some mc.delta
  improvementPercent := mc.improvementPercent
  verdict := verdict (some mc.delta) mc.direction

def buildFromComparison [PyFormat] (comparison : SystemComparison) (timestamp : String) :
    RunSummary :=
  let keyEntries := (comparison.metrics.filter (·.metric ∈ keyMetrics)).map (metricEntry comparison)
  { experimentName := comparison.experimentName
    mode := "comparison"
    systems := [comparison.baselineSystem, comparison.candidateSystem]
    baselineSystem := some comparison.baselineSystem
    candidateSystem := some comparison.candidateSystem
    timestamp
    keyMetrics := keyEntries
    interpretation := interpretComparison comparison keyEntries }

/-! ## Two reports on one comparison -/

theorem percent_pos_iff {b x : Rat} (nonzero : b ≠ 0) : 0 < x / |b| * 100 ↔ 0 < x := by
  have size : 0 < |b| := abs_pos.mpr nonzero
  rw [mul_pos_iff_of_pos_right (by norm_num), div_pos_iff_of_pos_right size]

theorem percent_neg_iff {b x : Rat} (nonzero : b ≠ 0) : x / |b| * 100 < 0 ↔ x < 0 := by
  rw [← neg_pos, ← neg_mul, ← neg_div, percent_pos_iff nonzero, neg_pos]

/-- What differs at all improved or regressed. -/
theorem verdict_apart {direction : Direction} (set : direction ≠ .neutral) {delta : Rat}
    (apart : epsilon ≤ |delta|) :
    (verdict (some delta) direction = .improved ↔
        (if direction = .higherIsBetter then 0 < delta else delta < 0)) ∧
      (verdict (some delta) direction = .regressed ↔
        (if direction = .higherIsBetter then delta < 0 else 0 < delta)) := by
  have nonzero : delta ≠ 0 := by
    rintro rfl
    exact absurd apart (by decide +kernel)
  have sign : delta < 0 ↔ ¬ 0 < delta := ⟨fun below => not_lt.mpr below.le, fun notAbove =>
    lt_of_le_of_ne (not_lt.mp notAbove) nonzero⟩
  have large : ¬ |delta| < epsilon := not_lt.mpr apart
  cases direction with
  | neutral => exact absurd rfl set
  | higherIsBetter => by_cases above : 0 < delta <;> simp [verdict, large, sign, above]
  | lowerIsBetter => by_cases above : 0 < delta <;> simp [verdict, large, sign, above]

theorem verdict_same (direction : Direction) : verdict (some 0) direction = .unchanged :=
  if_pos (by decide +kernel)

theorem improvementPercent_same {direction : Direction} (set : direction ≠ .neutral) (b : Rat) :
    improvementPercent direction b b = some 0 := by
  simp [improvementPercent, set]

theorem improvementPercent_of_ne {direction : Direction} (set : direction ≠ .neutral) {b c : Rat}
    (nonzero : b ≠ 0) : improvementPercent direction b c =
      some ((if direction = .higherIsBetter then c - b else b - c) / |b| * 100) := by
  rw [improvementPercent, if_neg set, if_neg nonzero]
  split <;> rfl

/-- A percentage has the sign of the verdict, unless the baseline is zero and the candidate is
    not. -/
theorem percent_agrees_iff {direction : Direction} (set : direction ≠ .neutral) {b c : Rat}
    (apart : c = b ∨ epsilon ≤ |c - b|) :
    (((improvementPercent direction b c).any (0 < ·) ↔
        verdict (some (c - b)) direction = .improved) ∧
      ((improvementPercent direction b c).any (· < 0) ↔
        verdict (some (c - b)) direction = .regressed)) ↔ ¬ (b = 0 ∧ c ≠ 0) := by
  by_cases same : c = b
  · subst same
    rw [improvementPercent_same set, sub_self, verdict_same]
    simp
  obtain ⟨improved, regressed⟩ := verdict_apart set (apart.resolve_left same)
  rw [improved, regressed]
  by_cases zero : b = 0
  · have none : improvementPercent direction b c = none := by
      rw [improvementPercent, if_neg set, if_pos zero, if_pos same]
    have moved : 0 < c - b ∨ c - b < 0 := (sub_ne_zero.mpr same).lt_or_gt.symm
    refine iff_of_false ?_ (not_not.mpr ⟨zero, zero ▸ same⟩)
    rw [none]
    rintro ⟨notImproved, notRegressed⟩
    split at notImproved <;> grind
  · refine iff_of_true ?_ fun bad => zero bad.1
    rw [improvementPercent_of_ne set zero]
    simp only [Option.any_some, decide_eq_true_iff, percent_pos_iff zero, percent_neg_iff zero]
    split <;> simp

/-- The mean of a metric, zero where a system has none. -/
def meanOf (summary : MeasurementSummary) (system metric : String) : Rat :=
  (((summary.systems.get? system).bind (·.get? metric)).getD zeroMetric).mean

theorem systemMetrics_ok {summary : MeasurementSummary} {role system : String}
    {metrics : Dict String MetricValues} (found : systemMetrics summary role system = .ok metrics)
    (metric : String) :
    meanOf summary system metric = ((metrics.get? metric).getD zeroMetric).mean := by
  unfold systemMetrics at found
  split at found
  · next known =>
      cases found
      rw [meanOf, known, Option.bind_some]
  · cases found

theorem mem_metricNames {baseline candidate : Dict String MetricValues} {metric : String} :
    metric ∈ metricNames baseline candidate ↔
      metric ∈ baseline.keys ∨ metric ∈ candidate.keys := by
  rw [metricNames, sortBy, List.mem_insertionSort, List.mem_append, List.mem_filter,
    decide_eq_true_iff]
  tauto

/-- A metric that is missing from both systems has the mean zero in both. -/
theorem listed_of_mean {metrics : Dict String MetricValues} {metric : String}
    (measured : ((metrics.get? metric).getD zeroMetric).mean ≠ 0) : metric ∈ metrics.keys := by
  rw [Dict.mem_keys_iff]
  cases found : metrics.get? metric with
  | some values => rfl
  | none =>
      rw [found] at measured
      exact absurd rfl measured

section

variable [Statistics] {summary : MeasurementSummary} {baselineSystem candidateSystem : String}
  {targets : Dict String Rat} {comparison : SystemComparison}

/-- Each metric of either system is compared by its two means. -/
theorem compareSystems_returned
    (compared : compareSystems summary baselineSystem candidateSystem targets = .ok comparison) :
    (∀ mc ∈ comparison.metrics, mc.direction = directionFor mc.metric ∧
      mc.delta = meanOf summary candidateSystem mc.metric -
        meanOf summary baselineSystem mc.metric ∧
      mc.improvementPercent = improvementPercent (directionFor mc.metric)
        (meanOf summary baselineSystem mc.metric) (meanOf summary candidateSystem mc.metric)) ∧
    ∀ metric,
      meanOf summary baselineSystem metric ≠ 0 ∨ meanOf summary candidateSystem metric ≠ 0 →
      ∃ mc ∈ comparison.metrics, mc.metric = metric := by
  obtain ⟨baseline, first, compared⟩ := bind_eq_ok.mp compared
  obtain ⟨candidate, second, compared⟩ := bind_eq_ok.mp compared
  obtain ⟨statistical, -, compared⟩ := bind_eq_ok.mp compared
  cases compared
  simp only [systemMetrics_ok first, systemMetrics_ok second]
  constructor
  · intro mc member
    obtain ⟨name, -, rfl⟩ := List.mem_map.mp member
    exact ⟨rfl, rfl, rfl⟩
  · intro metric measured
    refine ⟨_, List.mem_map_of_mem (mem_metricNames.mpr ?_), rfl⟩
    exact measured.imp listed_of_mean listed_of_mean

end

/-- The run summary has a verdict on this metric. -/
def HasVerdict [PyFormat] (comparison : SystemComparison) (timestamp metric : String)
    (verdict : Verdict) : Prop :=
  ∃ entry ∈ (buildFromComparison comparison timestamp).keyMetrics,
    entry.metric = metric ∧ entry.verdict = verdict

theorem hasVerdict_iff [PyFormat] {comparison : SystemComparison} {timestamp metric : String}
    (key : metric ∈ keyMetrics) {outcome : Verdict} :
    HasVerdict comparison timestamp metric outcome ↔ ∃ mc ∈ comparison.metrics,
      mc.metric = metric ∧ verdict (some mc.delta) mc.direction = outcome := by
  simp only [HasVerdict, buildFromComparison, List.mem_map, List.mem_filter, decide_eq_true_iff]
  constructor
  · rintro ⟨_, ⟨mc, ⟨member, -⟩, rfl⟩, named, reached⟩
    exact ⟨mc, member, named, reached⟩
  · rintro ⟨mc, member, named, reached⟩
    exact ⟨_, ⟨mc, ⟨member, named ▸ key⟩, rfl⟩, named, reached⟩

theorem mem_improvedMetrics {comparison : SystemComparison} {metric : String} :
    metric ∈ improvedMetrics comparison ↔ ∃ mc ∈ comparison.metrics,
      mc.metric = metric ∧ mc.improvementPercent.any (0 < ·) := by
  simp only [improvedMetrics, List.mem_map, List.mem_filter]
  grind

theorem mem_regressedMetrics {comparison : SystemComparison} {metric : String} :
    metric ∈ regressedMetrics comparison ↔ ∃ mc ∈ comparison.metrics,
      mc.metric = metric ∧ mc.improvementPercent.any (· < 0) := by
  simp only [regressedMetrics, List.mem_map, List.mem_filter]
  grind

theorem keyMetrics_directed : ∀ metric ∈ keyMetrics, directionFor metric ≠ .neutral := by
  decide +kernel

/-- The two reports agree on a key metric unless it was zero in the baseline and is not in the
    candidate. -/
theorem reports_agree_iff [Statistics] [PyFormat] {summary : MeasurementSummary}
    {baselineSystem candidateSystem : String} {targets : Dict String Rat}
    {comparison : SystemComparison}
    (compared : compareSystems summary baselineSystem candidateSystem targets = .ok comparison)
    (timestamp : String) {metric : String} (key : metric ∈ keyMetrics)
    (apart : meanOf summary candidateSystem metric = meanOf summary baselineSystem metric ∨
      epsilon ≤ |meanOf summary candidateSystem metric - meanOf summary baselineSystem metric|) :
    ((metric ∈ improvedMetrics comparison ↔ HasVerdict comparison timestamp metric .improved) ∧
      (metric ∈ regressedMetrics comparison ↔
        HasVerdict comparison timestamp metric .regressed)) ↔
    ¬ (meanOf summary baselineSystem metric = 0 ∧ meanOf summary candidateSystem metric ≠ 0) := by
  obtain ⟨each, all⟩ := compareSystems_returned compared
  have agree := percent_agrees_iff (keyMetrics_directed metric key) apart
  rw [mem_improvedMetrics, mem_regressedMetrics, hasVerdict_iff key, hasVerdict_iff key]
  by_cases listed : ∃ mc ∈ comparison.metrics, mc.metric = metric
  · have said {P : MetricComparison → Prop} {Q : Prop}
        (means : ∀ mc ∈ comparison.metrics, mc.metric = metric → (P mc ↔ Q)) :
        (∃ mc ∈ comparison.metrics, mc.metric = metric ∧ P mc) ↔ Q := by
      constructor
      · rintro ⟨mc, member, named, holds⟩
        exact (means mc member named).mp holds
      · obtain ⟨mc, member, named⟩ := listed
        exact fun holds => ⟨mc, member, named, (means mc member named).mpr holds⟩
    rw [said fun mc member named => ?_, said fun mc member named => ?_,
      said fun mc member named => ?_, said fun mc member named => ?_]
    · exact agree
    all_goals
      obtain ⟨direction, delta, improvement⟩ := each mc member
      subst named
      first | rw [improvement] | rw [delta, direction]
  · have zero := mt (all metric) listed
    rw [not_or, not_not, not_not] at zero
    have none {P : MetricComparison → Prop} :
        ¬ ∃ mc ∈ comparison.metrics, mc.metric = metric ∧ P mc :=
      fun ⟨mc, member, named, _⟩ => listed ⟨mc, member, named⟩
    exact iff_of_true ⟨iff_of_false none none, iff_of_false none none⟩ fun bad => bad.2 zero.2

namespace Reference

private def unsampled : StatisticalMetric where
  baselineCiLow := 0
  baselineCiHigh := 0
  candidateCiLow := 0
  candidateCiHigh := 0
  effectSize := 0
  pValue := none
  isSignificant := false

/-- Statistics of metrics without samples. -/
scoped instance : Statistics where
  byMetric summary baselineSystem candidateSystem := do
    let baseline ← systemMetrics summary "baseline" baselineSystem
    let candidate ← systemMetrics summary "candidate" candidateSystem
    return (metricNames baseline candidate).foldl (fun rows name => rows.set name unsampled) .empty

/-- Formats of whole numbers. -/
scoped instance : PyFormat where
  signed x := (if x < 0 then "" else "+") ++ toString x.num ++ ".0"
  places x := toString x.num ++ ".0000"

end Reference

section

open Reference

private def oneMetric (metric : String) (baselineMean candidateMean : Rat) :
    MeasurementSummary where
  experimentName := "comparison test"
  systems := Dict.set
    (.set .empty "baseline" (.set .empty metric
      { mean := baselineMean, std := 0, samples := some [] }))
    "candidate" (.set .empty metric { mean := candidateMean, std := 0, samples := some [] })

/-- A latency that halves improves in both reports. -/
theorem reports_agree_latency : ∃ comparison,
    compareSystems (oneMetric "latency_p95_ms" 200 100) "baseline" "candidate" = .ok comparison ∧
      (("latency_p95_ms" ∈ improvedMetrics comparison ↔
          HasVerdict comparison "" "latency_p95_ms" .improved) ∧
        ("latency_p95_ms" ∈ regressedMetrics comparison ↔
          HasVerdict comparison "" "latency_p95_ms" .regressed)) := by
  have known : (compareSystems (oneMetric "latency_p95_ms" 200 100) "baseline" "candidate").isOk =
    true := by decide +kernel
  cases compared : compareSystems (oneMetric "latency_p95_ms" 200 100) "baseline" "candidate" with
  | error e =>
      rw [compared] at known
      cases known
  | ok comparison =>
      exact ⟨comparison, rfl, (reports_agree_iff compared "" (by decide +kernel)
        (.inr (by decide +kernel))).mpr (by decide +kernel)⟩

/-- A hit rate that rises from zero improves in the run summary alone. -/
theorem reports_differ_hit_rate :
    "cache_hit_rate" ∈ keyMetrics ∧
      epsilon ≤ |meanOf (oneMetric "cache_hit_rate" 0 (72 / 100)) "candidate" "cache_hit_rate" -
        meanOf (oneMetric "cache_hit_rate" 0 (72 / 100)) "baseline" "cache_hit_rate"| ∧
      (compareSystems (oneMetric "cache_hit_rate" 0 (72 / 100)) "baseline" "candidate").map
        improvedMetrics = .ok [] ∧
      (compareSystems (oneMetric "cache_hit_rate" 0 (72 / 100)) "baseline" "candidate").map
        (fun comparison => (buildFromComparison comparison "").keyMetrics.map
          fun entry => (entry.metric, entry.verdict)) = .ok [("cache_hit_rate", .improved)] := by
  refine ⟨by decide +kernel, by decide +kernel, by decide +kernel, by decide +kernel⟩

end

end IntelliL3
