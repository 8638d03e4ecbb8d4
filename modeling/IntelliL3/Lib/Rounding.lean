import Mathlib.Algebra.Order.Floor.Ring
import Mathlib.Data.Int.Log
import Mathlib.Data.Nat.Cast.Order.Field
import Mathlib.Data.Rat.Floor
import Mathlib.Tactic.Linarith

/-! # Rounding

Rounding to an integer, and to a number of significant bits as floating point arithmetic
does, with or without a least place. How large an exponent may be is left out.
-/

namespace IntelliL3

/-- `round(x)`: to the nearest integer, and half way to the even one. -/
def roundHalfEven (x : Rat) : Int :=
  if x - ⌊x⌋ < 1 / 2 then ⌊x⌋
  else if 1 / 2 < x - ⌊x⌋ then ⌊x⌋ + 1
  else if ⌊x⌋ % 2 = 0 then ⌊x⌋ else ⌊x⌋ + 1

theorem roundHalfEven_mem {x : Rat} {n : Int} (low : 0 ≤ x) (high : x ≤ n) :
    0 ≤ roundHalfEven x ∧ roundHalfEven x ≤ n := by
  have floor : 0 ≤ ⌊x⌋ := Int.floor_nonneg.mpr low
  have le : ⌊x⌋ ≤ n := Int.floor_le_iff.mpr (high.trans_lt (by exact_mod_cast Int.lt_succ n))
  have up : 1 / 2 ≤ x - ⌊x⌋ → ⌊x⌋ + 1 ≤ n := by
    intro half
    have below : (⌊x⌋ : Rat) < n := by linarith
    exact_mod_cast below
  unfold roundHalfEven
  split
  · exact ⟨floor, le⟩
  · next notBelow =>
      have above := up (not_lt.mp notBelow)
      split
      · exact ⟨by omega, above⟩
      · split
        · exact ⟨floor, le⟩
        · exact ⟨by omega, above⟩

theorem roundHalfEven_intCast (n : Int) : roundHalfEven n = n := by
  have half : (0 : Rat) < 1 / 2 := one_half_pos
  rw [roundHalfEven, Int.floor_intCast, sub_self, if_pos half]

theorem abs_sub_roundHalfEven_le (x : Rat) : |x - roundHalfEven x| ≤ 1 / 2 := by
  have low := Int.floor_le x
  have high := Int.lt_floor_add_one x
  rw [abs_le]
  unfold roundHalfEven
  split_ifs <;> push_cast <;> constructor <;> linarith

/-- A number that is rounded down lies below one that is rounded up, for one that is half
    way has one rounding. -/
theorem roundHalfEven_mono {x y : Rat} (le : x ≤ y) : roundHalfEven x ≤ roundHalfEven y := by
  rcases le.eq_or_lt with rfl | below
  · exact le_rfl
  by_contra crossed
  have crossed : (roundHalfEven y : Rat) + 1 ≤ roundHalfEven x := by
    exact_mod_cast Int.add_one_le_iff.mpr (not_le.mp crossed)
  have up := (abs_le.mp (abs_sub_roundHalfEven_le x)).1
  have down := (abs_le.mp (abs_sub_roundHalfEven_le y)).2
  linarith

theorem roundHalfEven_neg (x : Rat) : roundHalfEven (-x) = -roundHalfEven x := by
  by_cases whole : x = ⌊x⌋
  · rw [whole, ← Int.cast_neg, roundHalfEven_intCast, roundHalfEven_intCast]
  have above : (⌊x⌋ : Rat) < x := (Int.floor_le x).lt_of_ne (Ne.symm whole)
  have below := Int.lt_floor_add_one x
  have floor : ⌊-x⌋ = -⌊x⌋ - 1 := by
    rw [Int.floor_eq_iff]
    push_cast
    constructor <;> linarith
  unfold roundHalfEven
  rw [floor]
  push_cast
  split_ifs <;> first | omega | linarith

namespace Lib

/-- `int(x)` -/
def truncate (x : Rat) : Int := x.num.tdiv x.den

/-- The numbers of at most `p` significant bits. -/
def HasPrecision (p : Nat) (x : Rat) : Prop := ∃ m e : Int, |m| < 2 ^ p ∧ x = m * 2 ^ e

/-- The nearest of them, half way the one whose last bit is even. -/
def nearest (p : Nat) (x : Rat) : Rat :=
  let ulp : Rat := 2 ^ (Int.log 2 |x| + 1 - p)
  roundHalfEven (x / ulp) * ulp

variable {p : Nat} {x : Rat}

theorem hasPrecision_intCast {n : Int} (small : |n| < 2 ^ p) : HasPrecision p n :=
  ⟨n, 0, small, by rw [zpow_zero, mul_one]⟩

theorem HasPrecision.div_two_pow (exact : HasPrecision p x) (k : Nat) :
    HasPrecision p (x / 2 ^ k) := by
  obtain ⟨m, e, small, rfl⟩ := exact
  refine ⟨m, e - k, small, ?_⟩
  rw [zpow_sub₀ two_ne_zero, zpow_natCast, mul_div_assoc]

/-- The place a number is rounded at lies no further left than its last digit. -/
theorem HasPrecision.ulp_le {m e : Int} (small : |m| < 2 ^ p) (some : m ≠ 0) :
    Int.log 2 |(m * 2 ^ e : Rat)| + 1 - p ≤ e := by
  have scale : (0 : Rat) < 2 ^ e := zpow_pos two_pos e
  have positive : (0 : Rat) < |(m * 2 ^ e : Rat)| :=
    abs_pos.mpr (mul_ne_zero (Int.cast_ne_zero.mpr some) scale.ne')
  have below : |(m * 2 ^ e : Rat)| < (2 : Nat) ^ (p + e) := by
    have digits : |(m : Rat)| < 2 ^ p := by exact_mod_cast small
    rw [abs_mul, abs_of_pos scale, Nat.cast_ofNat, zpow_add₀ two_ne_zero, zpow_natCast]
    exact mul_lt_mul_of_pos_right digits scale
  have bits := (Int.lt_zpow_iff_log_lt one_lt_two positive).mp below
  omega

/-- What has the precision is not changed by rounding to it. -/
theorem nearest_eq_self (exact : HasPrecision p x) : nearest p x = x := by
  obtain ⟨m, e, small, rfl⟩ := exact
  by_cases zero : m = 0
  · rw [zero, Int.cast_zero, zero_mul, nearest, zero_div]
    rw [show roundHalfEven 0 = 0 from roundHalfEven_intCast 0, Int.cast_zero, zero_mul]
  have room := HasPrecision.ulp_le (e := e) small zero
  rw [nearest]
  generalize Int.log 2 |(m * 2 ^ e : Rat)| + 1 - p = place at room
  obtain ⟨k, rfl⟩ := Int.le.dest room
  have ulp : (2 : Rat) ^ place ≠ 0 := zpow_ne_zero place two_ne_zero
  have whole : (m * 2 ^ (place + k) / 2 ^ place : Rat) = (m * 2 ^ k : Int) := by
    rw [zpow_add₀ two_ne_zero, zpow_natCast, mul_div_assoc, mul_div_cancel_left₀ _ ulp]
    push_cast
    rfl
  rw [whole, roundHalfEven_intCast, ← whole, div_mul_cancel₀ _ ulp]

example : nearest 53 (2 ^ 53 + 3) = 2 ^ 53 + 4 := by decide +kernel

/-! ## A least place -/

/-- Rounding at a place, to a multiple of a power of two. -/
def roundAt (place : Int) (x : Rat) : Rat := roundHalfEven (x / 2 ^ place) * 2 ^ place

/-- The place of the last of `p` significant bits, or the least place. -/
def lastPlace (p : Nat) (least : Int) (x : Rat) : Int := max (Int.log 2 |x| + 1 - p) least

/-- The nearest number of at most `p` significant bits, none of them below the least place;
    half way the one whose last bit is even. -/
def nearestFrom (p : Nat) (least : Int) (x : Rat) : Rat := roundAt (lastPlace p least x) x

variable {place least : Int} {y : Rat}

theorem roundAt_mono (place : Int) : Monotone (roundAt place) := by
  intro x y le
  have scale : (0 : Rat) < 2 ^ place := zpow_pos two_pos place
  refine mul_le_mul_of_nonneg_right ?_ scale.le
  exact_mod_cast roundHalfEven_mono (div_le_div_of_nonneg_right le scale.le)

theorem roundAt_neg (place : Int) (x : Rat) : roundAt place (-x) = -roundAt place x := by
  rw [roundAt, neg_div, roundHalfEven_neg, Int.cast_neg, neg_mul, roundAt]

theorem roundAt_zero (place : Int) : roundAt place 0 = 0 := by
  rw [roundAt, zero_div, show roundHalfEven 0 = 0 from roundHalfEven_intCast 0, Int.cast_zero,
    zero_mul]

/-- Powers of two from the place on are not changed. -/
theorem roundAt_two_zpow {e : Int} (within : place ≤ e) : roundAt place (2 ^ e) = 2 ^ e := by
  obtain ⟨k, rfl⟩ := Int.le.dest within
  have scale : (2 : Rat) ^ place ≠ 0 := zpow_ne_zero place two_ne_zero
  have whole : (2 ^ (place + k) / 2 ^ place : Rat) = (2 ^ k : Int) := by
    rw [zpow_add₀ two_ne_zero, zpow_natCast, mul_div_cancel_left₀ _ scale]
    push_cast
    rfl
  rw [roundAt, whole, roundHalfEven_intCast, ← whole, div_mul_cancel₀ _ scale]

theorem nearestFrom_zero : nearestFrom p least 0 = 0 := roundAt_zero _

theorem nearestFrom_neg (p : Nat) (least : Int) (x : Rat) :
    nearestFrom p least (-x) = -nearestFrom p least x := by
  rw [nearestFrom, lastPlace, abs_neg, roundAt_neg]
  rfl

theorem nearestFrom_nonneg (nonneg : 0 ≤ x) : 0 ≤ nearestFrom p least x :=
  (roundAt_zero _).symm.trans_le (roundAt_mono _ nonneg)

/-- Numbers of one magnitude are rounded at one place; between two magnitudes lies a power
    of two, which neither rounding crosses. -/
theorem nearestFrom_le_of_pos (some : p ≠ 0) (positive : 0 < x) (le : x ≤ y) :
    nearestFrom p least x ≤ nearestFrom p least y := by
  have positive' : 0 < y := positive.trans_le le
  have logs : Int.log 2 x ≤ Int.log 2 y := Int.log_mono_right positive le
  have places : lastPlace p least x ≤ lastPlace p least y := by
    rw [lastPlace, lastPlace, abs_of_pos positive, abs_of_pos positive']
    omega
  rcases places.eq_or_lt with same | further
  · rw [nearestFrom, nearestFrom, ← same]
    exact roundAt_mono _ le
  · have bits : Int.log 2 x < Int.log 2 y ∧ lastPlace p least y ≤ Int.log 2 y := by
      rw [lastPlace, lastPlace, abs_of_pos positive, abs_of_pos positive'] at further
      rw [lastPlace, abs_of_pos positive']
      omega
    have below : x ≤ 2 ^ Int.log 2 y :=
      ((Int.lt_zpow_iff_log_lt one_lt_two positive).mpr bits.1).le
    have above : (2 : Rat) ^ Int.log 2 y ≤ y := Int.zpow_log_le_self one_lt_two positive'
    calc nearestFrom p least x
        ≤ roundAt (lastPlace p least x) (2 ^ Int.log 2 y) := roundAt_mono _ below
      _ = 2 ^ Int.log 2 y := roundAt_two_zpow (further.le.trans bits.2)
      _ = roundAt (lastPlace p least y) (2 ^ Int.log 2 y) := (roundAt_two_zpow bits.2).symm
      _ ≤ nearestFrom p least y := roundAt_mono _ above

theorem nearestFrom_mono (some : p ≠ 0) : Monotone (nearestFrom p least) := by
  intro x y le
  rcases lt_trichotomy 0 x with positive | rfl | negative
  · exact nearestFrom_le_of_pos some positive le
  · rw [nearestFrom_zero]
    exact nearestFrom_nonneg le
  · rcases le_or_gt 0 y with nonneg | negative'
    · have low : 0 ≤ nearestFrom p least (-x) := nearestFrom_nonneg (neg_nonneg.mpr negative.le)
      rw [nearestFrom_neg, neg_nonneg] at low
      exact low.trans (nearestFrom_nonneg nonneg)
    · have flipped : nearestFrom p least (-y) ≤ nearestFrom p least (-x) :=
        nearestFrom_le_of_pos some (neg_pos.mpr negative') (neg_le_neg le)
      rwa [nearestFrom_neg, nearestFrom_neg, neg_le_neg_iff] at flipped

theorem nearestFrom_two_zpow {e : Int} (some : p ≠ 0) (within : least ≤ e) :
    nearestFrom p least (2 ^ e) = 2 ^ e := by
  have positive : (0 : Rat) < 2 ^ e := zpow_pos two_pos e
  have log : Int.log 2 (2 ^ e : Rat) = e := Int.log_zpow one_lt_two e
  refine roundAt_two_zpow ?_
  rw [lastPlace, abs_of_pos positive, log]
  omega

theorem two_zpow_eq_add (e : Int) : (2 : Rat) ^ e = 2 ^ (e - 1) + 2 ^ (e - 1) := by
  rw [← two_mul, ← zpow_one_add₀ two_ne_zero, add_sub_cancel]

/-- What lies below the middle between the greatest number short of a power of two and that
    power stays below it. -/
theorem nearestFrom_lt {e : Int} (some : p ≠ 0) (within : least ≤ e - p)
    (below : x < 2 ^ e - 2 ^ (e - p - 1)) : nearestFrom p least x < 2 ^ e - 2 ^ (e - p - 1) := by
  have halved := two_zpow_eq_add e
  rcases le_or_gt x (2 ^ (e - 1)) with small | large
  · have last : (2 : Rat) ^ (e - p - 1) < 2 ^ (e - 1) :=
      zpow_lt_zpow_right₀ one_lt_two (by omega)
    calc nearestFrom p least x ≤ nearestFrom p least (2 ^ (e - 1)) := nearestFrom_mono some small
      _ = 2 ^ (e - 1) := nearestFrom_two_zpow some (by omega)
      _ < 2 ^ e - 2 ^ (e - p - 1) := by linarith
  · have half : (0 : Rat) < 2 ^ (e - p - 1) := zpow_pos two_pos _
    have positive : 0 < x := (zpow_pos two_pos _).trans large
    have log : Int.log 2 x = e - 1 := by
      have short : x < (2 : Nat) ^ e := by
        rw [Nat.cast_ofNat]
        linarith
      have low := (Int.zpow_le_iff_le_log one_lt_two positive).mp large.le
      have high := (Int.lt_zpow_iff_log_lt one_lt_two positive).mp short
      omega
    have place : lastPlace p least x = e - p := by
      rw [lastPlace, abs_of_pos positive, log]
      omega
    have scale : (0 : Rat) < 2 ^ (e - p) := zpow_pos two_pos _
    have ulp := two_zpow_eq_add (e - p)
    have top : (2 : Rat) ^ e = 2 ^ p * 2 ^ (e - p) := by
      rw [← zpow_natCast, ← zpow_add₀ two_ne_zero, add_sub_cancel]
    -- the significand stays below two to the power of `p`
    have significand : roundHalfEven (x / 2 ^ (e - p)) + 1 ≤ 2 ^ p := by
      have close := (abs_le.mp (abs_sub_roundHalfEven_le (x / 2 ^ (e - p)))).1
      have less : x / 2 ^ (e - p) < 2 ^ p - 1 / 2 := by
        rw [div_lt_iff₀ scale]
        linarith
      have strict : (roundHalfEven (x / 2 ^ (e - p)) : Rat) < 2 ^ p := by linarith
      exact_mod_cast strict
    have bounded : (roundHalfEven (x / 2 ^ (e - p)) + 1 : Rat) ≤ 2 ^ p := by
      exact_mod_cast significand
    have scaled := mul_le_mul_of_nonneg_right bounded scale.le
    rw [nearestFrom, place, roundAt]
    linarith

theorem truncate_intCast (n : Int) : truncate n = n := Int.tdiv_one n

theorem abs_truncate_le (x : Rat) : (|truncate x| : Rat) ≤ |x| := by
  have size : (|truncate x| : Rat) = (x.num.natAbs / x.den : Nat) := by
    rw [← Int.cast_abs, Int.abs_eq_natAbs, truncate, Int.natAbs_tdiv, Int.natAbs_natCast,
      Int.cast_natCast]
    rfl
  have whole : |x| = x.num.natAbs / x.den := by
    rw [Nat.cast_natAbs, Int.cast_abs, ← abs_of_nonneg (Nat.cast_nonneg (α := Rat) x.den),
      ← abs_div, Rat.num_div_den]
  rw [size, whole]
  exact Nat.cast_div_le

/-- Dropping the fraction of a number does not make it longer. -/
theorem HasPrecision.truncate (exact : HasPrecision p x) : HasPrecision p (truncate x) := by
  obtain ⟨m, e, small, rfl⟩ := exact
  rcases le_or_gt 0 e with large | fraction
  · obtain ⟨k, rfl⟩ := Int.eq_ofNat_of_zero_le large
    have whole : (m * 2 ^ (k : Int) : Rat) = (m * 2 ^ k : Int) := by
      rw [zpow_natCast]
      push_cast
      rfl
    refine ⟨m, k, small, ?_⟩
    rw [whole, truncate_intCast]
  · have shorter : (2 : Rat) ^ e ≤ 1 := zpow_le_one_of_nonpos₀ one_le_two fraction.le
    have below : |(m * 2 ^ e : Rat)| ≤ |(m : Rat)| := by
      have scale : (0 : Rat) ≤ 2 ^ e := (zpow_pos two_pos e).le
      rw [abs_mul, abs_of_nonneg scale]
      exact mul_le_of_le_one_right (abs_nonneg _) shorter
    have bound : |Lib.truncate (m * 2 ^ e)| ≤ |m| := by
      exact_mod_cast (abs_truncate_le (m * 2 ^ e)).trans below
    exact hasPrecision_intCast (bound.trans_lt small)

end Lib

end IntelliL3
