import Mathlib.Logic.Function.Basic
import IntelliL3.Lib.Recent
import IntelliL3.Policies.ToolLatencyEstimator

/-! # Latency histories

What an estimator knows of a profile is a function of the latencies recorded for
it, in order: the statistics summarise all of them, the samples are the last.
-/

namespace IntelliL3

open Lib

namespace ToolLatencyEstimator

/-! ## One profile -/

/-- Statistics and samples of a profile once a latency is recorded. -/
def observe (emaAlpha : Rat) (maxSamplesPerProfile : Nat) (key : ToolLatencyKey)
    (profile : Option (ToolLatencyStats × List Rat)) (latencyMs : Rat) :
    Option (ToolLatencyStats × List Rat) :=
  let samples := appendSample maxSamplesPerProfile ((profile.map Prod.snd).getD []) latencyMs
  some (updated emaAlpha key (profile.map Prod.fst) samples latencyMs, samples)

/-- Statistics and samples of a profile, from its latencies in order. -/
def profileOf (emaAlpha : Rat) (maxSamplesPerProfile : Nat) (key : ToolLatencyKey)
    (history : List Rat) : Option (ToolLatencyStats × List Rat) :=
  history.foldl (observe emaAlpha maxSamplesPerProfile key) none

/-- The last of some latencies, at most as many as a profile keeps. -/
def window (maxSamplesPerProfile : Nat) (history : List Rat) : List Rat :=
  history.drop (history.length - maxSamplesPerProfile)

theorem length_window (maxSamplesPerProfile : Nat) (history : List Rat) :
    (window maxSamplesPerProfile history).length = min history.length maxSamplesPerProfile := by
  rw [window, List.length_drop]
  omega

theorem window_eq_self {maxSamplesPerProfile : Nat} {history : List Rat}
    (few : history.length ≤ maxSamplesPerProfile) :
    window maxSamplesPerProfile history = history := by
  rw [window, Nat.sub_eq_zero_of_le few, List.drop_zero]

/-- Dropping what is too much, when it is, bounds the samples as a deque would. -/
theorem appendSample_eq (maxSamplesPerProfile : Nat) (samples : List Rat) (latencyMs : Rat) :
    appendSample maxSamplesPerProfile samples latencyMs =
      appendRecent maxSamplesPerProfile samples latencyMs := by
  unfold appendSample
  simp only
  split
  · rfl
  · next room => exact (window_eq_self (not_lt.mp room)).symm

/-- The samples are the last latencies. -/
theorem appendSample_window (maxSamplesPerProfile : Nat) (history : List Rat) (latencyMs : Rat) :
    appendSample maxSamplesPerProfile (window maxSamplesPerProfile history) latencyMs =
      window maxSamplesPerProfile (history ++ [latencyMs]) := by
  rw [appendSample_eq]
  exact appendRecent_rtake maxSamplesPerProfile history latencyMs

theorem profileOf_concat (emaAlpha : Rat) (maxSamplesPerProfile : Nat) (key : ToolLatencyKey)
    (history : List Rat) (latencyMs : Rat) :
    profileOf emaAlpha maxSamplesPerProfile key (history ++ [latencyMs]) =
      observe emaAlpha maxSamplesPerProfile key
        (profileOf emaAlpha maxSamplesPerProfile key history) latencyMs := by
  simp only [profileOf, List.foldl_append, List.foldl_cons, List.foldl_nil]

/-- What is kept of a history: how many latencies there were, and the last of them. -/
theorem profileOf_kept (emaAlpha : Rat) (maxSamplesPerProfile : Nat) (key : ToolLatencyKey)
    (history : List Rat) :
    ((profileOf emaAlpha maxSamplesPerProfile key history).map Prod.snd).getD [] =
        window maxSamplesPerProfile history ∧
      ((profileOf emaAlpha maxSamplesPerProfile key history).map fun profile =>
        profile.1.count).getD 0 = history.length := by
  induction history using List.reverseRecOn with
  | nil => exact ⟨List.drop_nil.symm, rfl⟩
  | append_singleton history latencyMs ih =>
      obtain ⟨samples, count⟩ := ih
      rw [profileOf_concat]
      constructor
      · rw [← appendSample_window, ← samples]
        rfl
      · rw [List.length_append, List.length_singleton, ← count]
        cases profileOf emaAlpha maxSamplesPerProfile key history <;> rfl

/-! ## All profiles -/

/-- An estimator knows of every profile what its history tells. -/
def Tells (estimator : ToolLatencyEstimator) (history : ToolLatencyKey → List Rat) : Prop :=
  ∀ key, (estimator.stats.get? key, estimator.samples.get? key) =
    let profile := profileOf estimator.emaAlpha estimator.maxSamplesPerProfile key (history key)
    (profile.map Prod.fst, profile.map Prod.snd)

namespace Tells

variable {estimator : ToolLatencyEstimator} {history : ToolLatencyKey → List Rat}

theorem new {defaultLatencyMs emaAlpha : Rat} {maxSamplesPerProfile : Int}
    (built : ToolLatencyEstimator.new defaultLatencyMs emaAlpha maxSamplesPerProfile =
      .ok estimator) : Tells estimator fun _ => [] := by
  unfold ToolLatencyEstimator.new at built
  split at built
  · cases built
  · split at built
    · split at built <;> cases built
      exact fun _ => rfl
    · cases built

theorem stats (tells : Tells estimator history) (key : ToolLatencyKey) :
    estimator.stats.get? key = (profileOf estimator.emaAlpha estimator.maxSamplesPerProfile key
      (history key)).map Prod.fst :=
  congrArg Prod.fst (tells key)

theorem samples (tells : Tells estimator history) (key : ToolLatencyKey) :
    estimator.samples.get? key = (profileOf estimator.emaAlpha estimator.maxSamplesPerProfile key
      (history key)).map Prod.snd :=
  congrArg Prod.snd (tells key)

theorem record (tells : Tells estimator history) (key : ToolLatencyKey) (latencyMs : Rat) :
    Tells (estimator.record key latencyMs)
      (Function.update history key (history key ++ [latencyMs])) := by
  intro other
  change ((estimator.stats.set key _).get? other, (estimator.samples.set key _).get? other) = _
  rw [Dict.get?_set, Dict.get?_set]
  by_cases same : key = other
  · subst same
    rw [if_pos rfl, if_pos rfl, Function.update_self]
    have next := profileOf_concat estimator.emaAlpha estimator.maxSamplesPerProfile key
      (history key) latencyMs
    change _ = ((profileOf estimator.emaAlpha estimator.maxSamplesPerProfile key _).map Prod.fst,
      (profileOf estimator.emaAlpha estimator.maxSamplesPerProfile key _).map Prod.snd)
    rw [next, tells.stats, tells.samples]
    rfl
  · rw [if_neg same, if_neg same, Function.update_of_ne (Ne.symm same)]
    exact tells other

theorem samples_eq (tells : Tells estimator history) (key : ToolLatencyKey) :
    (estimator.samples.get? key).getD [] =
      window estimator.maxSamplesPerProfile (history key) := by
  rw [tells.samples]
  exact (profileOf_kept _ _ _ _).1

theorem count_eq (tells : Tells estimator history) (key : ToolLatencyKey) :
    ((estimator.stats.get? key).map ToolLatencyStats.count).getD 0 = (history key).length := by
  rw [tells.stats, Option.map_map]
  exact (profileOf_kept _ _ _ _).2

/-- Latencies recorded one after the other for one profile. -/
theorem recordAll (tells : Tells estimator history) (key : ToolLatencyKey)
    (latencies : List Rat) :
    Tells (latencies.foldl (fun estimator latencyMs => estimator.record key latencyMs) estimator)
      (Function.update history key (history key ++ latencies)) := by
  induction latencies generalizing estimator history with
  | nil => rwa [List.append_nil, Function.update_eq_self]
  | cons latencyMs rest ih =>
      have next := ih (tells.record key latencyMs)
      rwa [Function.update_self, Function.update_idem, List.append_assoc] at next

end Tells

/-- Of the three settings nothing changes. -/
structure SameSettings (estimator other : ToolLatencyEstimator) : Prop where
  defaultLatencyMs : other.defaultLatencyMs = estimator.defaultLatencyMs
  emaAlpha : other.emaAlpha = estimator.emaAlpha
  maxSamplesPerProfile : other.maxSamplesPerProfile = estimator.maxSamplesPerProfile

namespace SameSettings

theorem refl (estimator : ToolLatencyEstimator) : SameSettings estimator estimator :=
  ⟨rfl, rfl, rfl⟩

theorem trans {a b c : ToolLatencyEstimator} (first : SameSettings a b)
    (second : SameSettings b c) : SameSettings a c :=
  ⟨second.1.trans first.1, second.2.trans first.2, second.3.trans first.3⟩

theorem record (estimator : ToolLatencyEstimator) (key : ToolLatencyKey) (latencyMs : Rat) :
    SameSettings estimator (estimator.record key latencyMs) := ⟨rfl, rfl, rfl⟩

theorem recordEach {α : Type} (key : α → ToolLatencyKey) (latencyMs : α → Rat) (items : List α)
    (estimator : ToolLatencyEstimator) : SameSettings estimator
      (items.foldl (fun estimator item => estimator.record (key item) (latencyMs item))
        estimator) := by
  induction items generalizing estimator with
  | nil => exact refl estimator
  | cons item rest ih => exact (record estimator (key item) (latencyMs item)).trans (ih _)

end SameSettings

/-! ## Names -/

/-- A key as it is recorded: both names stripped, none of them empty. -/
def IsProfile (key : ToolLatencyKey) : Prop :=
  normalizeName key.1 "tool_name" = .ok key.1 ∧ normalizeOptionalName key.2 = key.2

theorem normalizeName_idem {value fieldName name : String}
    (normalized : normalizeName value fieldName = .ok name) :
    normalizeName name fieldName = .ok name := by
  unfold normalizeName at normalized ⊢
  simp only at normalized ⊢
  split at normalized
  · cases normalized
  · next named =>
      cases normalized
      rw [strip_strip, if_neg named]

theorem normalizeOptionalName_idem (value : Option String) :
    normalizeOptionalName (normalizeOptionalName value) = normalizeOptionalName value := by
  cases value with
  | none => rfl
  | some value =>
      simp only [normalizeOptionalName, Option.bind_some]
      split
      · rfl
      · next named => rw [Option.bind_some, strip_strip, if_neg named]

end ToolLatencyEstimator

/-! ## Calls -/

namespace LatencyCall

open ToolLatencyEstimator

/-- The profiles a call records its latency for. -/
def keys (c : LatencyCall) : List ToolLatencyKey :=
  match normalizeName c.toolName "tool_name" with
  | .error _ => []
  | .ok toolName =>
      if c.latencyMs < 0 then []
      else match normalizeOptionalName c.toolArgsClass with
      | none => [(toolName, none)]
      | some argsClass => [(toolName, none), (toolName, some argsClass)]

/-- The latencies some calls record for a profile, in order. -/
def history (calls : List LatencyCall) (key : ToolLatencyKey) : List Rat :=
  (calls.filter fun c => key ∈ c.keys).map latencyMs

theorem exec_eq (c : LatencyCall) (estimator : ToolLatencyEstimator) :
    EStateResult.state (c.exec estimator) =
      c.keys.foldl (fun estimator key => estimator.record key c.latencyMs) estimator := by
  unfold exec recordLatency keys
  rw [bind_run]
  cases normalizeName c.toolName "tool_name" with
  | error e => rfl
  | ok toolName =>
      simp only [raising_ok]
      split
      · rfl
      · cases normalizeOptionalName c.toolArgsClass <;> rfl

theorem keys_nodup (c : LatencyCall) : c.keys.Nodup := by
  unfold keys
  cases normalizeName c.toolName "tool_name" with
  | error e => exact List.nodup_nil
  | ok toolName =>
      simp only
      split
      · exact List.nodup_nil
      · cases normalizeOptionalName c.toolArgsClass with
        | none => exact List.nodup_singleton _
        | some argsClass => simp

theorem isProfile_of_mem {c : LatencyCall} {key : ToolLatencyKey} (member : key ∈ c.keys) :
    IsProfile key ∧ (key.1, none) ∈ c.keys := by
  unfold keys at member ⊢
  cases normalized : normalizeName c.toolName "tool_name" with
  | error e => rw [normalized] at member; cases member
  | ok toolName =>
      have named := normalizeName_idem normalized
      simp only [normalized] at member ⊢
      split at member
      · cases member
      · next nonneg =>
          have idem := normalizeOptionalName_idem c.toolArgsClass
          rw [if_neg nonneg]
          cases class_ : normalizeOptionalName c.toolArgsClass with
          | none =>
              simp only [class_, List.mem_singleton] at member ⊢
              subst member
              exact ⟨⟨named, rfl⟩, rfl⟩
          | some argsClass =>
              rw [class_] at idem
              simp only [class_, List.mem_cons, List.not_mem_nil, or_false] at member ⊢
              rcases member with rfl | rfl
              · exact ⟨⟨named, rfl⟩, Or.inl rfl⟩
              · exact ⟨⟨named, idem⟩, Or.inl rfl⟩

theorem history_cons (c : LatencyCall) (calls : List LatencyCall) (key : ToolLatencyKey) :
    history (c :: calls) key =
      (if key ∈ c.keys then [c.latencyMs] else []) ++ history calls key := by
  unfold history
  rw [List.filter_cons]
  by_cases member : key ∈ c.keys
  · simp [member]
  · simp [member]

end LatencyCall

namespace ToolLatencyEstimator

open LatencyCall (history)

variable {estimator : ToolLatencyEstimator} {known : ToolLatencyKey → List Rat}

private theorem tells_keys (tells : Tells estimator known) {keys : List ToolLatencyKey}
    (distinct : keys.Nodup) (latencyMs : Rat) :
    Tells (keys.foldl (fun estimator key => estimator.record key latencyMs) estimator)
      fun key => known key ++ if key ∈ keys then [latencyMs] else [] := by
  induction keys generalizing estimator known with
  | nil => simpa using tells
  | cons first rest ih =>
      obtain ⟨fresh, distinct⟩ := List.nodup_cons.mp distinct
      have next := ih (tells.record first latencyMs) distinct
      refine cast (congrArg (Tells _) (funext fun key => ?_)) next
      by_cases same : key = first
      · subst same
        simp [fresh]
      · simp [same]

/-- Whatever is recorded, accepted or not, the estimator knows the history of the calls. -/
theorem tells_run (tells : Tells estimator known) (calls : List LatencyCall) :
    Tells (drive LatencyCall.exec estimator calls) fun key => known key ++ history calls key := by
  induction calls generalizing estimator known with
  | nil => simpa [LatencyCall.history, drive] using tells
  | cons c rest ih =>
      have first := tells_keys tells c.keys_nodup c.latencyMs
      rw [← c.exec_eq] at first
      refine cast (congrArg (Tells _) (funext fun key => ?_)) (ih first)
      rw [LatencyCall.history_cons, List.append_assoc]

theorem sameSettings_run (estimator : ToolLatencyEstimator) (calls : List LatencyCall) :
    SameSettings estimator (drive LatencyCall.exec estimator calls) := by
  refine drive_invariant (I := SameSettings estimator) (fun e c _ before => ?_) (.refl estimator)
  rw [c.exec_eq]
  exact before.trans (.recordEach id (fun _ => c.latencyMs) c.keys e)

end ToolLatencyEstimator

end IntelliL3
