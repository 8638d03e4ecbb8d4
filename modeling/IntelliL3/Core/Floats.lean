import Mathlib.Data.Prod.Lex
import IntelliL3.Core.Json
import IntelliL3.Lib.Rounding

/-! # Doubles

What `float` computes with: an exact result is rounded to the nearest number of 53 bits,
down to the least subnormal one, and to an infinity where it is too large. The sign of a
zero is left out, no comparison shows it.
-/

namespace IntelliL3.PyFloat

open Lib

/-- Half way from the largest double to the power of two that would follow it. -/
def overflow : Rat := 2 ^ 1024 - 2 ^ 970

def round (x : Rat) : PyFloat :=
  if overflow ≤ x then inf
  else if x ≤ -overflow then negInf
  else finite (nearestFrom 53 (-1074) x)

/-- Below zero, zero, above it. -/
def sign : PyFloat → Int
  | finite x => if x < 0 then -1 else if x = 0 then 0 else 1
  | inf => 1
  | negInf => -1
  | nan => 0

/-- What a product with an infinity comes to. -/
def infinity (sign : Int) : PyFloat :=
  if 0 < sign then inf else if sign < 0 then negInf else nan

instance : RatCast PyFloat := ⟨round⟩
instance : Zero PyFloat := ⟨finite 0⟩
instance : One PyFloat := ⟨finite 1⟩

instance : Neg PyFloat where
  neg
    | finite x => finite (-x)
    | inf => negInf
    | negInf => inf
    | nan => nan

def add : PyFloat → PyFloat → PyFloat
  | finite x, finite y => round (x + y)
  | nan, _ | _, nan => nan
  | inf, negInf | negInf, inf => nan
  | inf, _ | _, inf => inf
  | negInf, _ | _, negInf => negInf

def mul : PyFloat → PyFloat → PyFloat
  | finite x, finite y => round (x * y)
  | nan, _ | _, nan => nan
  | x, y => infinity (x.sign * y.sign)

/-- What a quotient comes to; by zero the code does not divide. -/
def div : PyFloat → PyFloat → PyFloat
  | finite x, finite y => round (x / y)
  | nan, _ | _, nan => nan
  | finite _, _ => finite 0
  | x, finite y => infinity (x.sign * (finite y).sign)
  | _, _ => nan

instance : Add PyFloat := ⟨add⟩
instance : Sub PyFloat := ⟨fun x y => x + -y⟩
instance : Mul PyFloat := ⟨mul⟩
instance : Div PyFloat := ⟨div⟩

/-- Where a double stands in the order. -/
def rank : PyFloat → Nat ×ₗ Rat
  | nan => toLex (0, 0)
  | negInf => toLex (1, 0)
  | finite x => toLex (2, x)
  | inf => toLex (3, 0)

theorem rank_injective : Function.Injective rank := by
  intro x y same
  cases x <;> cases y <;> simp_all [rank]

/-- The order of Python on all but NaN, which compares with nothing and is put below the rest. -/
instance : LinearOrder PyFloat := LinearOrder.lift' rank rank_injective

variable {b x y : PyFloat} {p q : Rat}

theorem add_def : x + y = add x y := rfl
theorem mul_def : x * y = mul x y := rfl
theorem div_def : x / y = div x y := rfl

/-! ## Order -/

theorem le_iff_rank : x ≤ y ↔ x.rank ≤ y.rank := Iff.rfl

@[simp] theorem finite_le_finite : finite p ≤ finite q ↔ p ≤ q := by
  simp [le_iff_rank, rank, Prod.Lex.toLex_le_toLex]

@[simp] theorem nan_le (x : PyFloat) : nan ≤ x := by
  cases x <;> simp [le_iff_rank, rank, Prod.Lex.toLex_le_toLex]

@[simp] theorem le_inf (x : PyFloat) : x ≤ inf := by
  cases x <;> simp [le_iff_rank, rank, Prod.Lex.toLex_le_toLex]

@[simp] theorem negInf_le_iff : negInf ≤ x ↔ x ≠ nan := by
  cases x <;> simp [le_iff_rank, rank, Prod.Lex.toLex_le_toLex]

@[simp] theorem inf_le_iff : inf ≤ x ↔ x = inf := by
  cases x <;> simp [le_iff_rank, rank, Prod.Lex.toLex_le_toLex]

@[simp] theorem le_negInf_iff : x ≤ negInf ↔ x = negInf ∨ x = nan := by
  cases x <;> simp [le_iff_rank, rank, Prod.Lex.toLex_le_toLex]

@[simp] theorem le_nan_iff : x ≤ nan ↔ x = nan := by
  cases x <;> simp [le_iff_rank, rank, Prod.Lex.toLex_le_toLex]

/-- The order is the one floats are compared by. -/
theorem lt_iff (known : x ≠ nan) (known' : y ≠ nan) : x < y ↔ PyFloat.lt x y := by
  cases x <;> cases y <;> simp_all [← not_le, PyFloat.lt]

theorem zero_le_iff : 0 ≤ x ↔ (∃ q, 0 ≤ q ∧ x = finite q) ∨ x = inf := by
  change finite 0 ≤ x ↔ _
  cases x <;> simp

protected theorem zero_le_one : (0 : PyFloat) ≤ 1 := finite_le_finite.mpr zero_le_one

/-! ## Rounding -/

theorem overflow_pos : 0 < overflow := by
  decide +kernel

theorem round_mono : Monotone round := by
  intro p q le
  unfold round
  split_ifs <;> simp <;> first | linarith | exact nearestFrom_mono (by decide) le

theorem round_zero : round 0 = 0 := by
  have positive := overflow_pos
  rw [round, if_neg (by linarith), if_neg (by linarith), nearestFrom_zero]
  rfl

theorem round_nonneg (nonneg : 0 ≤ q) : 0 ≤ round q := round_zero.symm.trans_le (round_mono nonneg)

theorem round_one : round 1 = 1 := by
  decide +kernel

theorem round_ne_nan (q : Rat) : round q ≠ nan := by
  unfold round
  split_ifs <;> simp

/-- What is rounded to a number at all is rounded to a double. -/
theorem nearest_lt_overflow (small : q < overflow) : nearestFrom 53 (-1074) q < overflow := by
  have middle : overflow = 2 ^ (1024 : Int) - 2 ^ (1024 - (53 : Nat) - 1 : Int) := rfl
  rw [middle] at small ⊢
  exact nearestFrom_lt (by decide) (by decide) small

theorem round_ne_inf (small : q < overflow) : round q ≠ inf := by
  rw [round, if_neg small.not_ge]
  split_ifs <;> simp

/-- A number from zero on that is not too large is not rounded to infinity. -/
theorem cast_eq_finite (nonneg : 0 ≤ q) (small : q < overflow) :
    ∃ r, 0 ≤ r ∧ r < overflow ∧ (q : PyFloat) = finite r := by
  have positive := overflow_pos
  refine ⟨_, nearestFrom_nonneg nonneg, nearest_lt_overflow small, ?_⟩
  change round q = _
  rw [round, if_neg small.not_ge, if_neg (by linarith)]

/-! ## Sums -/

protected theorem add_comm (x y : PyFloat) : x + y = y + x := by
  cases x <;> cases y <;> first | rfl | exact congrArg round (Rat.add_comm _ _)

protected theorem add_le_add_right (le : x ≤ y) (some : b ≠ negInf) : x + b ≤ y + b := by
  cases b with
  | negInf => contradiction
  | nan => cases x <;> cases y <;> exact le_rfl
  | inf => cases x <;> cases y <;> simp_all [add_def, add]
  | finite r =>
      cases x <;> cases y <;> simp_all [add_def, add, round_ne_nan]
      exact round_mono (by linarith)

protected theorem add_le_add_left (le : x ≤ y) (some : b ≠ negInf) : b + x ≤ b + y := by
  rw [PyFloat.add_comm b x, PyFloat.add_comm b y]
  exact PyFloat.add_le_add_right le some

protected theorem sub_le_sub_right (le : x ≤ y) (some : b ≠ inf) : x - b ≤ y - b := by
  refine PyFloat.add_le_add_right le fun opposite => some ?_
  cases b <;> first | rfl | cases opposite

protected theorem add_nonneg (nonneg : 0 ≤ x) (nonneg' : 0 ≤ y) : 0 ≤ x + y := by
  obtain ⟨p, low, rfl⟩ | rfl := zero_le_iff.mp nonneg <;>
    obtain ⟨q, low', rfl⟩ | rfl := zero_le_iff.mp nonneg'
  · exact round_nonneg (add_nonneg low low')
  · exact le_inf _
  · exact le_inf _
  · exact le_inf _

theorem sub_finite_ne_nan (known : x ≠ nan) (q : Rat) : x - finite q ≠ nan := by
  cases x with
  | finite p => exact round_ne_nan _
  | inf | negInf => exact nofun
  | nan => contradiction

/-- Nothing below zero. -/
def NotNegative (x : PyFloat) : Prop := x = nan ∨ 0 ≤ x

namespace NotNegative

theorem ne_negInf (bare : NotNegative x) : x ≠ negInf := by
  rintro rfl
  rcases bare with unknown | nonneg
  · cases unknown
  · rcases zero_le_iff.mp nonneg with ⟨_, _, _⟩ | _ <;> contradiction

theorem add (bare : NotNegative x) (bare' : NotNegative y) : NotNegative (x + y) := by
  rcases bare with rfl | nonneg
  · exact .inl (by cases y <;> rfl)
  rcases bare' with rfl | nonneg'
  · exact .inl (by cases x <;> rfl)
  exact .inr (PyFloat.add_nonneg nonneg nonneg')

theorem mul (nonneg : 0 ≤ x) (nonneg' : 0 ≤ y) : NotNegative (x * y) := by
  obtain ⟨p, low, rfl⟩ | rfl := zero_le_iff.mp nonneg <;>
    obtain ⟨q, low', rfl⟩ | rfl := zero_le_iff.mp nonneg'
  · exact .inr (round_nonneg (mul_nonneg low low'))
  all_goals
    simp only [mul_def, PyFloat.mul, infinity, sign]
    split_ifs <;> first | linarith | simp_all [NotNegative]

end NotNegative

/-! ## Products and quotients -/

theorem mem_unit_iff : x ∈ Set.Icc 0 1 ↔ ∃ q, 0 ≤ q ∧ q ≤ 1 ∧ x = finite q := by
  change finite 0 ≤ x ∧ x ≤ finite 1 ↔ _
  cases x <;> simp

protected theorem mul_le_mul_left (nonneg : 0 ≤ q) (unit : x ∈ Set.Icc 0 1)
    (unit' : y ∈ Set.Icc 0 1) (le : x ≤ y) : finite q * x ≤ finite q * y := by
  obtain ⟨r, _, _, rfl⟩ := mem_unit_iff.mp unit
  obtain ⟨s, _, _, rfl⟩ := mem_unit_iff.mp unit'
  exact round_mono (mul_le_mul_of_nonneg_left (finite_le_finite.mp le) nonneg)

/-- A share of a double is a double. -/
theorem mul_eq_finite (nonneg : 0 ≤ q) (small : q < overflow) (unit : x ∈ Set.Icc 0 1) :
    ∃ r, finite q * x = finite r ∧ 0 ≤ r := by
  obtain ⟨p, low, high, rfl⟩ := mem_unit_iff.mp unit
  have less : q * p < overflow := (mul_le_of_le_one_right nonneg high).trans_lt small
  obtain ⟨r, nonneg', -, rounded⟩ := cast_eq_finite (mul_nonneg nonneg low) less
  exact ⟨r, rounded, nonneg'⟩

theorem mul_ne_inf (nonneg : 0 ≤ q) (small : q < overflow) (le : x ≤ 1) : finite q * x ≠ inf := by
  cases x with
  | finite r =>
      have le : r ≤ 1 := finite_le_finite.mp le
      exact round_ne_inf ((mul_le_of_le_one_right nonneg le).trans_lt small)
  | inf => cases inf_le_iff.mp le
  | nan => simp [mul_def, mul]
  | negInf =>
      simp only [mul_def, mul, infinity, sign]
      split_ifs <;> first | linarith | simp_all

/-- A quotient of numbers from zero on, of a zero too. -/
theorem cast_div_nonneg {p : Rat} (nonneg : 0 ≤ p) (small : p < overflow) (nonneg' : 0 ≤ q)
    (small' : q < overflow) : (0 : PyFloat) ≤ (p : PyFloat) / (q : PyFloat) := by
  obtain ⟨r, low, -, dividend⟩ := cast_eq_finite nonneg small
  obtain ⟨t, low', -, divisor⟩ := cast_eq_finite nonneg' small'
  rw [dividend, divisor]
  exact round_nonneg (div_nonneg low low')

protected theorem div_nonneg (nonneg : 0 ≤ x) (positive : 0 < q) : 0 ≤ x / finite q := by
  obtain ⟨p, low, rfl⟩ | rfl := zero_le_iff.mp nonneg
  · exact round_nonneg (div_nonneg low positive.le)
  · simp [div_def, div, infinity, sign, positive.not_gt, positive.ne']

theorem one_le_iff : 1 ≤ x ↔ (∃ q, 1 ≤ q ∧ x = finite q) ∨ x = inf := by
  change finite 1 ≤ x ↔ _
  cases x <;> simp

theorem one_div_mem_unit (le : 1 ≤ x) : 1 / x ∈ Set.Icc 0 1 := by
  obtain ⟨q, least, rfl⟩ | rfl := one_le_iff.mp le
  · have positive : 0 < q := one_pos.trans_le least
    refine ⟨round_nonneg (one_div_pos.mpr positive).le, round_one.symm.trans_ge ?_⟩
    exact round_mono ((div_le_one positive).mpr least)
  · exact ⟨le_rfl, finite_le_finite.mpr zero_le_one⟩

theorem one_div_antitone (le : 1 ≤ x) (le' : x ≤ y) : 1 / y ≤ 1 / x := by
  obtain ⟨q, least, rfl⟩ | rfl := one_le_iff.mp le
  · obtain ⟨r, least', rfl⟩ | rfl := one_le_iff.mp (le.trans le')
    · exact round_mono (one_div_le_one_div_of_le (by linarith) (finite_le_finite.mp le'))
    · exact (one_div_mem_unit le).1
  · obtain rfl := inf_le_iff.mp le'
    exact le_rfl

theorem one_le_one_add (nonneg : 0 ≤ x) : 1 ≤ 1 + x :=
  calc (1 : PyFloat) = round 1 := round_one.symm
    _ = 1 + 0 := congrArg round (add_zero 1).symm
    _ ≤ 1 + x := PyFloat.add_le_add_left nonneg nofun

/-- Closeness of something a distance away. -/
theorem closeness_mem_unit (nonneg : 0 ≤ x) : 1 / (1 + x) ∈ Set.Icc 0 1 :=
  one_div_mem_unit (one_le_one_add nonneg)

theorem closeness_antitone (nonneg : 0 ≤ x) (le : x ≤ y) : 1 / (1 + y) ≤ 1 / (1 + x) :=
  one_div_antitone (one_le_one_add nonneg) (PyFloat.add_le_add_left le nofun)

end IntelliL3.PyFloat
