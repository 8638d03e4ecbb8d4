import Mathlib.Algebra.Order.Field.Basic
import Mathlib.Algebra.Order.Field.Rat
import Mathlib.Data.List.Forall2
import IntelliL3.Lib.Run
import IntelliL3.Lib.Thresholds
import IntelliL3.Lib.UnitScore
import IntelliL3.Policies.PrefetchPolicy

/-! # Adaptive prefetch policy

`policies/prefetch/adaptive.py`: the first decisions of another policy are kept, more of
them when most of what was prefetched lately turned out useful and fewer when little did.
The rates are exact.
-/

namespace IntelliL3

open Lib

structure AdaptivePrefetchPolicy (σ η : Type) where
  base : PrefetchPolicy σ η
  depth : Nat
  minDepth : Nat
  maxDepth : Nat
  interval : Nat
  highHitRate : Rat
  lowHitRate : Rat
  totalPrefetch : Nat := 0
  usefulPrefetch : Nat := 0
  eventsSinceAdjust : Nat := 0
  minDepthPositive : 0 < minDepth
  withinDepths : depth ∈ Set.Icc minDepth maxDepth
  intervalPositive : 0 < interval
  ratesOrdered : 0 ≤ lowHitRate ∧ lowHitRate ≤ highHitRate ∧ highHitRate ≤ 1

structure AdaptivePrefetchStats where
  depth : Nat
  minDepth : Nat
  maxDepth : Nat
  totalPrefetch : Nat
  usefulPrefetch : Nat
  eventsSinceAdjust : Nat
  hitRate : Rat

namespace AdaptivePrefetchPolicy

variable {σ η : Type}

theorem toNat_mem_Icc {low n high : Int} (within : ¬ ¬ (low ≤ n ∧ n ≤ high)) :
    n.toNat ∈ Set.Icc low.toNat high.toNat := by
  obtain ⟨above, below⟩ := not_not.mp within
  exact ⟨Int.toNat_le_toNat above, Int.toNat_le_toNat below⟩

def new (base : PrefetchPolicy σ η) (initialDepth : Int := 3) (minDepth : Int := 1)
    (maxDepth : Int := 10) (adjustmentInterval : Int := 100) (highHitRate : Rat := 7 / 10)
    (lowHitRate : Rat := 3 / 10) : Except PyError (AdaptivePrefetchPolicy σ η) :=
  if wrongMin : minDepth ≤ 0 then .error (.valueError "min_depth must be positive")
  else if maxDepth < minDepth then .error (.valueError "max_depth must be >= min_depth")
  else if wrongInitial : ¬ (minDepth ≤ initialDepth ∧ initialDepth ≤ maxDepth) then
    .error (.valueError "initial_depth must be within [min_depth, max_depth]")
  else if wrongInterval : adjustmentInterval ≤ 0 then
    .error (.valueError "adjustment_interval must be positive")
  else if wrongRates : ¬ (0 ≤ lowHitRate ∧ lowHitRate ≤ highHitRate ∧ highHitRate ≤ 1) then
    .error (.valueError "hit rate thresholds must satisfy 0 <= low <= high <= 1")
  else .ok {
    base
    depth := initialDepth.toNat
    minDepth := minDepth.toNat
    maxDepth := maxDepth.toNat
    interval := adjustmentInterval.toNat
    highHitRate
    lowHitRate
    minDepthPositive := toNat_pos_of_allowed wrongMin
    withinDepths := toNat_mem_Icc wrongInitial
    intervalPositive := toNat_pos_of_allowed wrongInterval
    ratesOrdered := not_not.mp wrongRates }

/-- `_adjust_depth` -/
def adjustDepth (self : AdaptivePrefetchPolicy σ η) : AdaptivePrefetchPolicy σ η :=
  if self.totalPrefetch = 0 then { self with eventsSinceAdjust := 0 }
  else
    let hitRate : Rat := self.usefulPrefetch / self.totalPrefetch
    { self with
      depth := nudge self.lowHitRate self.highHitRate self.minDepth self.maxDepth hitRate
        self.depth
      totalPrefetch := 0
      usefulPrefetch := 0
      eventsSinceAdjust := 0
      withinDepths := nudge_mem self.withinDepths }

/-- One more prefetch, useful or not. -/
def counted (self : AdaptivePrefetchPolicy σ η) (wasUseful : Bool) :
    AdaptivePrefetchPolicy σ η :=
  { self with
    totalPrefetch := self.totalPrefetch + 1
    eventsSinceAdjust := self.eventsSinceAdjust + 1
    usefulPrefetch := if wasUseful then self.usefulPrefetch + 1 else self.usefulPrefetch }

def onPrefetchUsed (self : AdaptivePrefetchPolicy σ η) (wasUseful : Bool) :
    AdaptivePrefetchPolicy σ η :=
  let self := self.counted wasUseful
  if self.interval ≤ self.eventsSinceAdjust then self.adjustDepth else self

/-- The state is that of the base policy. -/
def predictPrefetch (self : AdaptivePrefetchPolicy σ η) (incomingRequest : RequestContext)
    (metadata : MetadataStore η) : EStateM PyError σ (List PrefetchDecision) := do
  let decisions ← self.base.predictPrefetch incomingRequest metadata
  return decisions.take self.depth

def stats (self : AdaptivePrefetchPolicy σ η) : AdaptivePrefetchStats where
  depth := self.depth
  minDepth := self.minDepth
  maxDepth := self.maxDepth
  totalPrefetch := self.totalPrefetch
  usefulPrefetch := self.usefulPrefetch
  eventsSinceAdjust := self.eventsSinceAdjust
  hitRate :=
    if self.totalPrefetch ≠ 0 then (self.usefulPrefetch : Rat) / self.totalPrefetch else 0

/-- The policy after a sequence of feedback. -/
def fed (self : AdaptivePrefetchPolicy σ η) (feedback : List Bool) : AdaptivePrefetchPolicy σ η :=
  feedback.foldl onPrefetchUsed self

/-! ## The window -/

/-- What a policy is built with: it has counted nothing. -/
theorem new_fresh {base : PrefetchPolicy σ η}
    {initialDepth minDepth maxDepth adjustmentInterval : Int} {highHitRate lowHitRate : Rat}
    {fresh : AdaptivePrefetchPolicy σ η} (built : new base initialDepth minDepth maxDepth
      adjustmentInterval highHitRate lowHitRate = .ok fresh) :
    fresh.base = base ∧ fresh.minDepth = minDepth ∧ fresh.maxDepth = maxDepth ∧
      fresh.interval = adjustmentInterval ∧ fresh.totalPrefetch = 0 ∧
      fresh.usefulPrefetch = 0 ∧ fresh.eventsSinceAdjust = 0 := by
  obtain ⟨someMin, built⟩ := check_passed built
  split at built
  · cases built
  · next ordered =>
      obtain ⟨_, built⟩ := check_passed built
      obtain ⟨someInterval, built⟩ := check_passed built
      obtain ⟨_, built⟩ := check_passed built
      cases built
      refine ⟨rfl, ?_, ?_, ?_, rfl, rfl, rfl⟩
      · exact Int.toNat_of_nonneg (by omega)
      · exact Int.toNat_of_nonneg (by omega)
      · exact Int.toNat_of_nonneg (by omega)

theorem counted_some (self : AdaptivePrefetchPolicy σ η) (wasUseful : Bool) :
    (self.counted wasUseful).totalPrefetch ≠ 0 := Nat.succ_ne_zero _

/-- A policy that was new some calls of feedback ago: it counts the calls since the last
    adjustment, all of them as prefetches. -/
structure Bookkept (fresh : AdaptivePrefetchPolicy σ η) (calls : Nat)
    (policy : AdaptivePrefetchPolicy σ η) : Prop where
  base : policy.base = fresh.base
  minDepth : policy.minDepth = fresh.minDepth
  maxDepth : policy.maxDepth = fresh.maxDepth
  interval : policy.interval = fresh.interval
  useful : policy.usefulPrefetch ≤ policy.totalPrefetch
  total : policy.totalPrefetch = policy.eventsSinceAdjust
  events : policy.eventsSinceAdjust = calls % fresh.interval

namespace Bookkept

variable {fresh self : AdaptivePrefetchPolicy σ η} {calls : Nat}

theorem new {base : PrefetchPolicy σ η}
    {initialDepth minDepth maxDepth adjustmentInterval : Int} {highHitRate lowHitRate : Rat}
    (built : AdaptivePrefetchPolicy.new base initialDepth minDepth maxDepth adjustmentInterval
      highHitRate lowHitRate = .ok fresh) : Bookkept fresh 0 fresh := by
  obtain ⟨-, -, -, -, total, useful, events⟩ := new_fresh built
  refine ⟨rfl, rfl, rfl, rfl, ?_, ?_, ?_⟩
  · rw [useful, total]
  · rw [total, events]
  · rw [events, Nat.zero_mod]

theorem events_lt (bookkept : Bookkept fresh calls self) :
    self.eventsSinceAdjust < fresh.interval := by
  rw [bookkept.events]
  exact Nat.mod_lt _ fresh.intervalPositive

/-- A window is full after every so many calls. -/
theorem fills_iff (bookkept : Bookkept fresh calls self) (wasUseful : Bool) :
    self.interval ≤ (self.counted wasUseful).eventsSinceAdjust ↔ fresh.interval ∣ calls + 1 := by
  change self.interval ≤ self.eventsSinceAdjust + 1 ↔ _
  have below := bookkept.events_lt
  rw [Nat.dvd_iff_mod_eq_zero, ← Nat.mod_add_mod, ← bookkept.events, bookkept.interval]
  constructor
  · intro full
    have whole : self.eventsSinceAdjust + 1 = fresh.interval := Nat.le_antisymm below full
    rw [whole, Nat.mod_self]
  · intro wraps
    by_contra room
    rw [Nat.mod_eq_of_lt (not_le.mp room)] at wraps
    exact Nat.succ_ne_zero _ wraps

/-- A call counts within the window, or it is the last of the window and adjusts the depth. -/
theorem onPrefetchUsed_cases (bookkept : Bookkept fresh calls self) (wasUseful : Bool) :
    (¬ fresh.interval ∣ calls + 1 ∧ self.onPrefetchUsed wasUseful = self.counted wasUseful) ∨
      (fresh.interval ∣ calls + 1 ∧
        self.onPrefetchUsed wasUseful = (self.counted wasUseful).adjustDepth) := by
  by_cases last : fresh.interval ∣ calls + 1
  · exact Or.inr ⟨last, if_pos ((bookkept.fills_iff wasUseful).mpr last)⟩
  · exact Or.inl ⟨last, if_neg (mt (bookkept.fills_iff wasUseful).mp last)⟩

theorem onPrefetchUsed (bookkept : Bookkept fresh calls self) (wasUseful : Bool) :
    Bookkept fresh (calls + 1) (self.onPrefetchUsed wasUseful) := by
  rcases bookkept.onPrefetchUsed_cases wasUseful with ⟨within, same⟩ | ⟨last, same⟩
  · rw [same]
    refine ⟨bookkept.base, bookkept.minDepth, bookkept.maxDepth, bookkept.interval, ?_,
      congrArg (· + 1) bookkept.total, ?_⟩
    · cases wasUseful with
      | false => exact bookkept.useful.trans (Nat.le_succ _)
      | true => exact Nat.succ_le_succ bookkept.useful
    · have room := mt (bookkept.fills_iff wasUseful).mp within
      rw [bookkept.interval, not_le] at room
      rw [← Nat.mod_add_mod, ← bookkept.events]
      exact (Nat.mod_eq_of_lt room).symm
  · rw [same, adjustDepth, if_neg (counted_some self wasUseful)]
    exact ⟨bookkept.base, bookkept.minDepth, bookkept.maxDepth, bookkept.interval, le_rfl, rfl,
      (Nat.mod_eq_zero_of_dvd last).symm⟩

/-- The depth stays within a window, and moves by one at most at its end. -/
theorem depth_onPrefetchUsed (bookkept : Bookkept fresh calls self) (wasUseful : Bool) :
    ((self.onPrefetchUsed wasUseful).depth ≠ self.depth → fresh.interval ∣ calls + 1) ∧
      (self.onPrefetchUsed wasUseful).depth ≤ self.depth + 1 ∧
      self.depth ≤ (self.onPrefetchUsed wasUseful).depth + 1 := by
  rcases bookkept.onPrefetchUsed_cases wasUseful with ⟨within, same⟩ | ⟨last, same⟩
  · rw [same]
    exact ⟨fun moves => absurd rfl moves, Nat.le_succ _, Nat.le_succ _⟩
  · rw [same, adjustDepth, if_neg (counted_some self wasUseful)]
    exact ⟨fun _ => last, nudge_near self.withinDepths⟩

theorem fed (bookkept : Bookkept fresh calls self) (feedback : List Bool) :
    Bookkept fresh (calls + feedback.length) (self.fed feedback) := by
  induction feedback generalizing self calls with
  | nil => exact bookkept
  | cons wasUseful rest ih =>
      rw [List.length_cons, Nat.add_comm rest.length, ← Nat.add_assoc]
      exact ih (bookkept.onPrefetchUsed wasUseful)

end Bookkept

/-- Whatever the feedback, the hit rate that is reported is a fraction. -/
theorem stats_fed_hitRate {base : PrefetchPolicy σ η}
    {initialDepth minDepth maxDepth adjustmentInterval : Int} {highHitRate lowHitRate : Rat}
    {fresh : AdaptivePrefetchPolicy σ η} (built : new base initialDepth minDepth maxDepth
      adjustmentInterval highHitRate lowHitRate = .ok fresh) (feedback : List Bool) :
    (fresh.fed feedback).stats.hitRate ∈ Set.Icc 0 1 :=
  share_or_zero_mem_unit ((Bookkept.new built).fed feedback).useful

/-! ## Predictions -/

theorem predictPrefetch_ok {self : AdaptivePrefetchPolicy σ η} {request : RequestContext}
    {metadata : MetadataStore η} {s s' : σ} {decisions : List PrefetchDecision}
    (predicted : self.base.predictPrefetch request metadata s = .ok decisions s') :
    self.predictPrefetch request metadata s = .ok (decisions.take self.depth) s' := by
  rw [predictPrefetch, bind_run, predicted]
  rfl

theorem predictPrefetch_error {self : AdaptivePrefetchPolicy σ η} {request : RequestContext}
    {metadata : MetadataStore η} {s s' : σ} {e : PyError}
    (raised : self.base.predictPrefetch request metadata s = .error e s') :
    self.predictPrefetch request metadata s = .error e s' :=
  bind_error raised _

/-- A call of `on_prefetch_used` reaches the branch of `_adjust_depth` for a window without
    prefetches. -/
def AdjustsEmpty (self : AdaptivePrefetchPolicy σ η) (wasUseful : Bool) : Prop :=
  let self := self.counted wasUseful
  self.interval ≤ self.eventsSinceAdjust ∧ self.totalPrefetch = 0

theorem not_adjustsEmpty (self : AdaptivePrefetchPolicy σ η) (wasUseful : Bool) :
    ¬ self.AdjustsEmpty wasUseful :=
  fun empty => counted_some self wasUseful empty.2

/-- After every sequence of feedback the depth is within its bounds and the counts are those of
    the window; another call moves the depth only at the end of a window, and by one at most; and
    a prediction is a prefix, no longer than the bound, of what the base policy predicts. -/
theorem adaptive_window_bookkept {base : PrefetchPolicy σ η}
    {initialDepth minDepth maxDepth adjustmentInterval : Int} {highHitRate lowHitRate : Rat}
    {fresh : AdaptivePrefetchPolicy σ η} (built : new base initialDepth minDepth maxDepth
      adjustmentInterval highHitRate lowHitRate = .ok fresh) (feedback : List Bool) :
    let policy := fresh.fed feedback
    (minDepth ≤ policy.depth ∧ policy.depth ≤ maxDepth) ∧
      (0 ≤ policy.usefulPrefetch ∧ policy.usefulPrefetch ≤ policy.totalPrefetch ∧
        policy.totalPrefetch = policy.eventsSinceAdjust ∧
        policy.eventsSinceAdjust < adjustmentInterval) ∧
      (∀ wasUseful, let next := policy.onPrefetchUsed wasUseful
        (next.depth ≠ policy.depth → adjustmentInterval ∣ (feedback ++ [wasUseful]).length) ∧
        |(next.depth : Int) - policy.depth| ≤ 1 ∧ ¬ policy.AdjustsEmpty wasUseful) ∧
      ∀ (request : RequestContext) (metadata : MetadataStore η) (s : σ),
        match base.predictPrefetch request metadata s with
        | .ok decisions s' => ∃ kept, policy.predictPrefetch request metadata s = .ok kept s' ∧
            kept <+: decisions ∧ kept.length ≤ maxDepth
        | .error e s' => policy.predictPrefetch request metadata s = .error e s' := by
  intro policy
  obtain ⟨sameBase, least, most, interval, -⟩ := new_fresh built
  have bookkept := (Bookkept.new built).fed feedback
  rw [Nat.zero_add] at bookkept
  have above : minDepth ≤ policy.depth := by
    rw [← least, ← bookkept.minDepth]
    exact_mod_cast policy.withinDepths.1
  have below : (policy.depth : Int) ≤ maxDepth := by
    rw [← most, ← bookkept.maxDepth]
    exact_mod_cast policy.withinDepths.2
  refine ⟨⟨above, below⟩, ⟨Nat.zero_le _, bookkept.useful, bookkept.total, ?_⟩,
    fun wasUseful => ⟨?_, ?_, not_adjustsEmpty policy wasUseful⟩, fun request metadata s => ?_⟩
  · rw [← interval]
    exact_mod_cast bookkept.events_lt
  · intro moves
    rw [← interval, List.length_append, List.length_singleton]
    exact_mod_cast (bookkept.depth_onPrefetchUsed wasUseful).1 moves
  · obtain ⟨up, down⟩ : (policy.onPrefetchUsed wasUseful).depth ≤ policy.depth + 1 ∧
        policy.depth ≤ (policy.onPrefetchUsed wasUseful).depth + 1 :=
      (bookkept.depth_onPrefetchUsed wasUseful).2
    rw [abs_le]
    omega
  · rw [← sameBase, ← bookkept.base]
    cases predicted : policy.base.predictPrefetch request metadata s with
    | ok decisions s' =>
        refine ⟨_, predictPrefetch_ok predicted, List.take_prefix _ _, ?_⟩
        have short := List.length_take_le policy.depth decisions
        omega
    | error e s' => exact predictPrefetch_error predicted

section

/-- It always predicts the same four blocks. -/
private def fourBlocks : PrefetchPolicy Unit Unit where
  predictPrefetch _ _ := pure (["a", "b", "c", "d"].map fun id => ⟨id, 1, "kv_cache"⟩)

private def upToFour : AdaptivePrefetchPolicy Unit Unit where
  base := fourBlocks
  depth := 2
  minDepth := 1
  maxDepth := 4
  interval := 2
  highHitRate := 1 / 2
  lowHitRate := 1 / 2
  minDepthPositive := Nat.one_pos
  withinDepths := by decide
  intervalPositive := Nat.two_pos
  ratesOrdered := by decide +kernel

private theorem new_upToFour : new fourBlocks 2 1 4 2 (1 / 2) (1 / 2) = .ok upToFour := by
  have rates : (0 : Rat) ≤ 1 / 2 ∧ (1 : Rat) / 2 ≤ 1 / 2 ∧ (1 : Rat) / 2 ≤ 1 :=
    upToFour.ratesOrdered
  simp only [new, rates]
  rfl

private def noBlocks : MetadataStore Unit where
  bloom := .blank ⟨256, by decide⟩ ⟨3, by decide⟩
  prefixTree := .empty
  expectedItems := 100
  hnsw := none

theorem adaptive_window_bookkept_two :
    1 ≤ (upToFour.fed [true, true, true]).depth ∧ (upToFour.fed [true, true, true]).depth ≤ 4 ∧
      (upToFour.fed [true, true, true]).eventsSinceAdjust < 2 := by
  obtain ⟨⟨above, below⟩, ⟨-, -, -, within⟩, -⟩ :=
    adaptive_window_bookkept new_upToFour [true, true, true]
  exact ⟨by exact_mod_cast above, by exact_mod_cast below, by exact_mod_cast within⟩

end

/-! ## Two policies side by side -/

/-- Two policies of one configuration in the same window, the second at least as deep and with
    at least as many useful prefetches. -/
structure NoDeeper (first second : AdaptivePrefetchPolicy σ η) : Prop where
  base : second.base = first.base
  minDepth : second.minDepth = first.minDepth
  maxDepth : second.maxDepth = first.maxDepth
  interval : second.interval = first.interval
  highHitRate : second.highHitRate = first.highHitRate
  lowHitRate : second.lowHitRate = first.lowHitRate
  total : second.totalPrefetch = first.totalPrefetch
  events : second.eventsSinceAdjust = first.eventsSinceAdjust
  useful : first.usefulPrefetch ≤ second.usefulPrefetch
  depth : first.depth ≤ second.depth

namespace NoDeeper

variable {first second : AdaptivePrefetchPolicy σ η}

theorem refl (self : AdaptivePrefetchPolicy σ η) : NoDeeper self self :=
  ⟨rfl, rfl, rfl, rfl, rfl, rfl, rfl, rfl, le_rfl, le_rfl⟩

theorem adjustDepth (before : NoDeeper first second) :
    NoDeeper first.adjustDepth second.adjustDepth := by
  obtain ⟨base, minDepth, maxDepth, interval, high, low, total, events, useful, depth⟩ := before
  unfold AdaptivePrefetchPolicy.adjustDepth
  by_cases none : first.totalPrefetch = 0
  · rw [if_pos none, if_pos (total.trans none)]
    exact ⟨base, minDepth, maxDepth, interval, high, low, total, rfl, useful, depth⟩
  · rw [if_neg none, if_neg fun no => none (total.symm.trans no)]
    refine ⟨base, minDepth, maxDepth, interval, high, low, rfl, rfl, le_rfl, ?_⟩
    have rates : (first.usefulPrefetch : Rat) / first.totalPrefetch ≤
        second.usefulPrefetch / second.totalPrefetch := by
      rw [total]
      exact div_le_div_of_nonneg_right (Nat.cast_le.mpr useful) (Nat.cast_nonneg _)
    have within := second.withinDepths
    simp only [low, high, minDepth, maxDepth] at within ⊢
    exact nudge_mono first.ratesOrdered.2.1 first.withinDepths within rates depth

theorem counted (before : NoDeeper first second) {wasUseful wasUseful' : Bool}
    (implied : wasUseful = true → wasUseful' = true) :
    NoDeeper (first.counted wasUseful) (second.counted wasUseful') := by
  obtain ⟨base, minDepth, maxDepth, interval, high, low, total, events, useful, depth⟩ := before
  refine ⟨base, minDepth, maxDepth, interval, high, low, congrArg (· + 1) total,
    congrArg (· + 1) events, ?_, depth⟩
  cases wasUseful with
  | false =>
      refine useful.trans ?_
      rw [AdaptivePrefetchPolicy.counted]
      split
      · exact Nat.le_succ _
      · exact le_rfl
  | true =>
      rw [implied rfl]
      exact Nat.succ_le_succ useful

/-- Feedback that is useful where the other is keeps the second no less deep. -/
theorem onPrefetchUsed (before : NoDeeper first second) {wasUseful wasUseful' : Bool}
    (implied : wasUseful = true → wasUseful' = true) :
    NoDeeper (first.onPrefetchUsed wasUseful) (second.onPrefetchUsed wasUseful') := by
  have counted := before.counted implied
  simp only [AdaptivePrefetchPolicy.onPrefetchUsed]
  rw [counted.interval, counted.events]
  split
  · exact counted.adjustDepth
  · exact counted

theorem fed (before : NoDeeper first second) {feedback feedback' : List Bool}
    (implied : List.Forall₂ (fun b b' => b = true → b' = true) feedback feedback') :
    NoDeeper (first.fed feedback) (second.fed feedback') :=
  List.rel_foldl (fun _ _ before _ _ implied => before.onPrefetchUsed implied) before implied

end NoDeeper

/-- With feedback that is useful wherever other feedback is, a policy is at every moment at
    least as deep, and predicts at least as much of what its base policy does. -/
theorem adaptive_depth_monotone {base : PrefetchPolicy σ η}
    {initialDepth minDepth maxDepth adjustmentInterval : Int} {highHitRate lowHitRate : Rat}
    {fresh : AdaptivePrefetchPolicy σ η} (built : new base initialDepth minDepth maxDepth
      adjustmentInterval highHitRate lowHitRate = .ok fresh)
    {first second : List Bool}
    (implied : List.Forall₂ (fun b b' => b = true → b' = true) first second) (seen : Nat) :
    (fresh.fed (first.take seen)).depth ≤ (fresh.fed (second.take seen)).depth ∧
      ∀ (request : RequestContext) (metadata : MetadataStore η) (s : σ),
        match base.predictPrefetch request metadata s with
        | .ok decisions s' => ∃ shorter longer,
            (fresh.fed (first.take seen)).predictPrefetch request metadata s = .ok shorter s' ∧
            (fresh.fed (second.take seen)).predictPrefetch request metadata s = .ok longer s' ∧
            shorter <+: longer ∧ longer <+: decisions
        | .error e s' =>
            (fresh.fed (first.take seen)).predictPrefetch request metadata s = .error e s' ∧
            (fresh.fed (second.take seen)).predictPrefetch request metadata s = .error e s' := by
  have same : ∀ feedback, (fresh.fed feedback).base = base := fun feedback =>
    ((Bookkept.new built).fed feedback).base.trans (new_fresh built).1
  have deeper := ((NoDeeper.refl fresh).fed (List.forall₂_take seen implied)).depth
  refine ⟨deeper, fun request metadata s => ?_⟩
  split
  · next decisions s' predicted =>
      rw [← same (first.take seen)] at predicted
      have first' := predictPrefetch_ok predicted
      rw [same, ← same (second.take seen)] at predicted
      exact ⟨_, _, first', predictPrefetch_ok predicted, List.take_prefix_take_left deeper,
        List.take_prefix _ _⟩
  · next e s' raised =>
      rw [← same (first.take seen)] at raised
      have first' := predictPrefetch_error raised
      rw [same, ← same (second.take seen)] at raised
      exact ⟨first', predictPrefetch_error raised⟩

theorem adaptive_depth_monotone_two :
    (upToFour.fed [false, false, true, false]).depth = 1 ∧
      (upToFour.fed [false, true, true, true]).depth = 3 ∧
      ∃ shorter longer,
        (upToFour.fed [false, false, true, false]).predictPrefetch ⟨"", "session", "", none⟩
          noBlocks () = .ok shorter () ∧
        (upToFour.fed [false, true, true, true]).predictPrefetch ⟨"", "session", "", none⟩
          noBlocks () = .ok longer () ∧
        shorter <+: longer := by
  have implied : List.Forall₂ (fun b b' => b = true → b' = true) [false, false, true, false]
      [false, true, true, true] := by decide
  have monotone := adaptive_depth_monotone new_upToFour implied 4
  obtain ⟨shorter, longer, first, second, within, -⟩ :=
    monotone.2 ⟨"", "session", "", none⟩ noBlocks ()
  exact ⟨by decide +kernel, by decide +kernel, shorter, longer, first, second, within⟩

end AdaptivePrefetchPolicy

end IntelliL3
