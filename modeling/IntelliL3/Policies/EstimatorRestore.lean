import IntelliL3.Policies.LatencyHistory

/-! # Restoring an estimator

A snapshot holds the samples and not the statistics. An estimator restored from
it knows the last latencies of every profile as if they were all: the same
estimator as long as no tool was recorded more often than samples are kept.
-/

namespace IntelliL3

open Lib

namespace ToolLatencyEstimator

variable {estimator : ToolLatencyEstimator} {known : ToolLatencyKey → List Rat}

/-! ## The loops -/

theorem restoreSample_eq {key : ToolLatencyKey} (isProfile : IsProfile key)
    (samplesMs : List Rat) (estimator : ToolLatencyEstimator) (latencyMs : Rat) :
    restoreSample ⟨key.1, key.2, samplesMs⟩ estimator latencyMs =
      .ok (estimator.record key latencyMs) := by
  unfold restoreSample
  simp only [isProfile.1, isProfile.2]
  rfl

private theorem restoreProfile_eq {key : ToolLatencyKey} (isProfile : IsProfile key)
    (samplesMs : List Rat) (estimator : ToolLatencyEstimator) (latencies : List Rat) :
    latencies.foldlM (restoreSample ⟨key.1, key.2, samplesMs⟩) estimator =
      .ok (latencies.foldl (fun estimator latencyMs => estimator.record key latencyMs)
        estimator) := by
  induction latencies generalizing estimator with
  | nil => rfl
  | cons latencyMs rest ih =>
      rw [List.foldlM_cons, restoreSample_eq isProfile]
      exact ih _

/-- Profile after profile is restored, each from its samples. -/
private theorem restoreProfiles {keys : List ToolLatencyKey} (distinct : keys.Nodup)
    (profiles : ∀ key ∈ keys, IsProfile key) (samples : ToolLatencyKey → List Rat)
    (tells : Tells estimator known) :
    ∃ restored, (keys.map fun key =>
        (⟨key.1, key.2, samples key⟩ : ProfileSnapshot)).foldlM (fun estimator profile =>
          profile.samplesMs.foldlM (restoreSample profile) estimator) estimator =
        Except.ok (ε := PyError) restored ∧
      SameSettings estimator restored ∧
      Tells restored fun key => known key ++ if key ∈ keys then samples key else [] := by
  induction keys generalizing estimator known with
  | nil => exact ⟨estimator, rfl, .refl estimator, by simpa using tells⟩
  | cons first rest ih =>
      obtain ⟨fresh, distinct⟩ := List.nodup_cons.mp distinct
      obtain ⟨restored, loop, same, told⟩ := ih distinct
        (fun key later => profiles key (List.mem_cons_of_mem _ later))
        (tells.recordAll first (samples first))
      have recorded := SameSettings.recordEach (fun _ => first) id (samples first)
      refine ⟨restored, ?_, (recorded _).trans same, ?_⟩
      · rw [List.map_cons, List.foldlM_cons,
          restoreProfile_eq (profiles first List.mem_cons_self)]
        exact loop
      · refine cast (congrArg (Tells _) (funext fun key => ?_)) told
        by_cases here : key = first
        · subst here
          simp [fresh]
        · simp [here]

/-- What `cls(...)` builds from the settings of an estimator. -/
private theorem new_same (estimator : ToolLatencyEstimator) :
    ∃ fresh, ToolLatencyEstimator.new estimator.defaultLatencyMs estimator.emaAlpha
        estimator.maxSamplesPerProfile = .ok fresh ∧
      SameSettings estimator fresh := by
  obtain ⟨fresh, built, sameDefault, sameAlpha⟩ := new_returns estimator.defaultNonneg
    estimator.alphaPositive estimator.alphaAtMostOne (Int.ofNat_lt.mpr estimator.samplesPositive)
  exact ⟨fresh, built, sameDefault, sameAlpha, Int.ofNat.inj (new_settings built).2⟩

/-- The restored estimator has the settings of the old one, and of every profile it knows
    the samples. -/
theorem fromSnapshot_snapshot (tells : Tells estimator known)
    (profiles : ∀ key, known key ≠ [] → IsProfile key) :
    ∃ restored, fromSnapshot estimator.snapshot = .ok restored ∧
      SameSettings estimator restored ∧
      Tells restored fun key => window estimator.maxSamplesPerProfile (known key) := by
  obtain ⟨fresh, built, settings⟩ := new_same estimator
  have sorted := List.perm_insertionSort (fun a b => keyLe a b = true) estimator.samples.keys
  have listed : ∀ key, key ∈ sortedKeys estimator.samples ↔
      (estimator.samples.get? key).isSome := fun key =>
    (sorted.mem_iff).trans (estimator.samples.mem_keys_iff key)
  have distinct : (sortedKeys estimator.samples).Nodup :=
    sorted.nodup_iff.mpr estimator.samples.keys_nodup
  have unrecorded : ∀ key, known key = [] → estimator.samples.get? key = none := by
    intro key empty
    rw [tells.samples, empty]
    rfl
  have recorded : ∀ key ∈ sortedKeys estimator.samples, IsProfile key := by
    intro key member
    refine profiles key fun empty => ?_
    rw [listed, unrecorded key empty] at member
    cases member
  obtain ⟨restored, loop, same, told⟩ := restoreProfiles distinct recorded
    (fun key => (estimator.samples.get? key).getD []) (Tells.new built)
  refine ⟨restored, ?_, settings.trans same, ?_⟩
  · unfold fromSnapshot snapshot
    simp only [Option.getD_some, built]
    exact loop
  · refine cast (congrArg (Tells _) (funext fun key => ?_)) told
    rw [List.nil_append, tells.samples_eq]
    split
    · rfl
    · next unlisted =>
        rw [listed, Option.not_isSome_iff_eq_none] at unlisted
        rw [← tells.samples_eq, unlisted]
        rfl

/-! ## The same answers -/

/-- Two estimators predict the same and report the same statistics, whatever is asked. -/
def SameAnswers (estimator other : ToolLatencyEstimator) : Prop :=
  ∀ toolName toolArgsClass,
    other.predictLatency toolName toolArgsClass =
        estimator.predictLatency toolName toolArgsClass ∧
      other.getStats toolName toolArgsClass = estimator.getStats toolName toolArgsClass

theorem SameSettings.sameAnswers {other : ToolLatencyEstimator}
    (same : SameSettings estimator other)
    (stats : ∀ key, other.stats.get? key = estimator.stats.get? key) :
    SameAnswers estimator other := by
  intro toolName toolArgsClass
  unfold predictLatency getStats
  simp only [stats, same.defaultLatencyMs, and_self]

end ToolLatencyEstimator

/-- A profile for a class of arguments is recorded no more often than its tool. -/
theorem LatencyCall.history_length_le (calls : List LatencyCall) (key : ToolLatencyKey) :
    (history calls key).length ≤ (history calls (key.1, none)).length := by
  unfold history
  rw [List.length_map, List.length_map, ← List.countP_eq_length_filter,
    ← List.countP_eq_length_filter]
  refine List.countP_mono_left fun c _ member => ?_
  rw [decide_eq_true_eq] at member ⊢
  exact (isProfile_of_mem member).2

theorem LatencyCall.isProfile_of_history {calls : List LatencyCall} {key : ToolLatencyKey}
    (recorded : history calls key ≠ []) : ToolLatencyEstimator.IsProfile key := by
  obtain ⟨c, member⟩ := List.exists_mem_of_ne_nil _ (mt List.map_eq_nil_iff.mpr recorded)
  exact (isProfile_of_mem (of_decide_eq_true (List.mem_filter.mp member).2)).1

open ToolLatencyEstimator in
/-- An estimator restored from its snapshot answers as before exactly when no tool was recorded
    more often than samples are kept of a profile. -/
theorem snapshot_restores_iff {defaultLatencyMs emaAlpha : Rat} {maxSamplesPerProfile : Int}
    {fresh : ToolLatencyEstimator}
    (built : ToolLatencyEstimator.new defaultLatencyMs emaAlpha maxSamplesPerProfile = .ok fresh)
    (calls : List LatencyCall) :
    (∃ restored, fromSnapshot (drive LatencyCall.exec fresh calls).snapshot = .ok restored ∧
        SameAnswers (drive LatencyCall.exec fresh calls) restored) ↔
      ∀ toolName, (LatencyCall.history calls (toolName, none)).length ≤ maxSamplesPerProfile := by
  have settings := sameSettings_run fresh calls
  have tells : Tells (drive LatencyCall.exec fresh calls) (LatencyCall.history calls) :=
    tells_run (Tells.new built) calls
  generalize drive LatencyCall.exec fresh calls = estimator at settings tells ⊢
  have samples : (estimator.maxSamplesPerProfile : Int) = maxSamplesPerProfile := by
    rw [settings.maxSamplesPerProfile, (new_settings built).2]
  obtain ⟨restored, restores, same, told⟩ :=
    fromSnapshot_snapshot tells fun key recorded => LatencyCall.isProfile_of_history recorded
  rw [restores, ← samples]
  constructor
  · rintro ⟨other, equal, answers⟩ toolName
    cases equal
    by_contra many
    have recorded : LatencyCall.history calls (toolName, none) ≠ [] := by
      intro empty
      rw [empty] at many
      exact many (Int.natCast_nonneg _)
    obtain ⟨named, -⟩ := LatencyCall.isProfile_of_history recorded
    have reported := (answers toolName none).2
    simp only [getStats, named] at reported
    have counted := congrArg (fun stats => (Option.map ToolLatencyStats.count stats).getD 0)
      (Except.ok.inj reported)
    have before := tells.count_eq (toolName, none)
    have after := told.count_eq (toolName, none)
    rw [length_window] at after
    simp only [normalizeOptionalName, Option.bind_none, before, after] at counted
    omega
  · intro few
    refine ⟨restored, rfl, same.sameAnswers fun key => ?_⟩
    have short := (LatencyCall.history_length_le calls key).trans
      (Int.ofNat_le.mp (few key.1))
    rw [told.stats, tells.stats, same.emaAlpha, same.maxSamplesPerProfile, window_eq_self short]

section

private def searches : List LatencyCall := [⟨"search", 100, some "short"⟩, ⟨" search ", 300, none⟩]

private def countOf (estimator : ToolLatencyEstimator) : Except PyError (Option Nat) :=
  (estimator.getStats "search").map (Option.map ToolLatencyStats.count)

private theorem halving (maxSamplesPerProfile : Int) (positive : 0 < maxSamplesPerProfile) :
    ∃ fresh, ToolLatencyEstimator.new 1000 (1 / 2) maxSamplesPerProfile = .ok fresh := by
  obtain ⟨fresh, built, -⟩ := @ToolLatencyEstimator.new_returns 1000 (1 / 2) maxSamplesPerProfile
    (by decide +kernel) (by decide +kernel) (by decide +kernel) positive
  exact ⟨fresh, built⟩

/-- Two latencies of one tool, of which two samples are kept. -/
theorem snapshot_restores_two :
    ∃ fresh restored, ToolLatencyEstimator.new 1000 (1 / 2) 2 = .ok fresh ∧
      ToolLatencyEstimator.fromSnapshot (drive LatencyCall.exec fresh searches).snapshot =
        .ok restored ∧
      ToolLatencyEstimator.SameAnswers (drive LatencyCall.exec fresh searches) restored := by
  obtain ⟨fresh, built⟩ := halving 2 (by decide)
  obtain ⟨restored, restores, answers⟩ := (snapshot_restores_iff built searches).mpr
    fun toolName => by
      have few : (LatencyCall.history searches (toolName, none)).length ≤ 2 := by
        rw [LatencyCall.history, List.length_map]
        exact List.length_filter_le _ searches
      omega
  exact ⟨fresh, restored, built, restores, answers⟩

/-- Two latencies of one tool, of which one sample is kept: the count is lost. -/
theorem snapshot_forgets_count :
    ¬ ∀ (maxSamplesPerProfile : Int) (fresh : ToolLatencyEstimator) (calls : List LatencyCall),
      ToolLatencyEstimator.new 1000 (1 / 2) maxSamplesPerProfile = .ok fresh →
      ∃ restored,
        ToolLatencyEstimator.fromSnapshot (drive LatencyCall.exec fresh calls).snapshot =
          .ok restored ∧
        ToolLatencyEstimator.SameAnswers (drive LatencyCall.exec fresh calls) restored := by
  intro always
  obtain ⟨fresh, built⟩ := halving 1 (by decide)
  obtain ⟨restored, restores, answers⟩ := always 1 fresh searches built
  have counts : (ToolLatencyEstimator.new 1000 (1 / 2) 1).map (fun fresh =>
      (countOf (drive LatencyCall.exec fresh searches),
        (ToolLatencyEstimator.fromSnapshot
          (drive LatencyCall.exec fresh searches).snapshot).map countOf)) =
      .ok (.ok (some 2), .ok (.ok (some 1))) := by decide +kernel
  rw [built] at counts
  obtain ⟨before, after⟩ := Prod.mk.inj (Except.ok.inj counts)
  rw [restores] at after
  have same : countOf restored = countOf (drive LatencyCall.exec fresh searches) := by
    rw [countOf, (answers "search" none).2, countOf]
  rw [before, Except.ok.inj after] at same
  cases same

end

end IntelliL3
