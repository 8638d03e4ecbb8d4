import Mathlib.Tactic.IntervalCases

/-! # The Gregorian calendar

Dates of the years from zero on, and their numbers: the day after a date has the next number,
so the days between two dates are the difference of their numbers.
-/

namespace IntelliL3.Lib

namespace Calendar

def isLeap (year : Nat) : Bool := year % 4 = 0 && (year % 100 ≠ 0 || year % 400 = 0)

def daysInMonth (year : Nat) : Nat → Nat
  | 2 => if isLeap year then 29 else 28
  | 4 | 6 | 9 | 11 => 30
  | 1 | 3 | 5 | 7 | 8 | 10 | 12 => 31
  | _ => 0

def daysBeforeMonth (year : Nat) : Nat → Nat
  | 0 => 0
  | month + 1 => daysBeforeMonth year month + daysInMonth year month

/-- How many of the years before a year are leap years. -/
def leapYearsBefore (year : Nat) : Int :=
  ((year + 3) / 4 : Nat) - ((year + 99) / 100 : Nat) + ((year + 399) / 400 : Nat)

theorem leapYearsBefore_succ (year : Nat) :
    leapYearsBefore (year + 1) = leapYearsBefore year + if isLeap year then 1 else 0 := by
  simp only [leapYearsBefore, isLeap, Bool.and_eq_true, Bool.or_eq_true, decide_eq_true_eq]
  split <;> omega

theorem leapYearsBefore_mono {a b : Nat} (le : a ≤ b) : leapYearsBefore a ≤ leapYearsBefore b := by
  simp only [leapYearsBefore]
  omega

structure Date where
  year : Nat
  month : Nat
  day : Nat
  monthInYear : 1 ≤ month ∧ month ≤ 12
  dayInMonth : 1 ≤ day ∧ day ≤ daysInMonth year month
  deriving DecidableEq

namespace Date

/-- The number of a date, one more for each day. -/
def ordinal (self : Date) : Int :=
  365 * self.year + leapYearsBefore self.year + daysBeforeMonth self.year self.month + self.day

/-- How many days lie between a date and a later one. -/
def daysUntil (self later : Date) : Int := later.ordinal - self.ordinal

/-- By years, then by months, then by days. -/
def Before (self other : Date) : Prop :=
  self.year < other.year ∨ self.year = other.year ∧
    (self.month < other.month ∨ self.month = other.month ∧ self.day < other.day)

instance (self other : Date) : Decidable (self.Before other) :=
  inferInstanceAs (Decidable (_ ∨ _ ∧ (_ ∨ _ ∧ _)))

theorem daysInMonth_le (year month : Nat) : daysInMonth year month ≤ 31 := by
  unfold daysInMonth
  split
  · split <;> omega
  all_goals omega

theorem daysInMonth_pos {month : Nat} (year : Nat) (inYear : 1 ≤ month ∧ month ≤ 12) :
    1 ≤ daysInMonth year month := by
  obtain ⟨first, last⟩ := inYear
  have february : 1 ≤ if isLeap year then 29 else 28 := by split <;> omega
  interval_cases month <;> first | exact february | exact Nat.succ_pos _

theorem daysBeforeMonth_mono (year : Nat) {a b : Nat} (le : a ≤ b) :
    daysBeforeMonth year a ≤ daysBeforeMonth year b := by
  induction le with
  | refl => exact Nat.le_refl _
  | step _ ih => exact Nat.le_trans ih (Nat.le_add_right _ _)

/-- A year has 365 days, a leap year one more. -/
theorem daysBeforeMonth_year (year : Nat) :
    daysBeforeMonth year 13 = 365 + if isLeap year then 1 else 0 := by
  simp only [daysBeforeMonth, daysInMonth]
  split <;> rfl

/-- The months before a date and its day are no more than the months until the next one. -/
theorem day_le (self : Date) :
    daysBeforeMonth self.year self.month + self.day ≤ daysBeforeMonth self.year (self.month + 1) :=
  Nat.add_le_add_left self.dayInMonth.2 _

theorem ordinal_lt {self other : Date} (before : self.Before other) :
    self.ordinal < other.ordinal := by
  have within := self.day_le
  have first := other.dayInMonth.1
  rcases before with years | ⟨same, months | ⟨sameMonth, days⟩⟩
  · -- the rest of the year is no longer than the year
    have rest := daysBeforeMonth_mono self.year (Nat.succ_le_succ self.monthInYear.2)
    have leaps := leapYearsBefore_mono (Nat.succ_le_of_lt years)
    rw [Nat.succ_eq_add_one, leapYearsBefore_succ] at leaps
    have year := daysBeforeMonth_year self.year
    simp only [ordinal]
    split at year <;> simp_all <;> omega
  · have later : daysBeforeMonth other.year (self.month + 1) ≤ _ :=
      daysBeforeMonth_mono other.year (Nat.succ_le_of_lt months)
    simp only [ordinal]
    rw [same] at within ⊢
    omega
  · simp only [ordinal]
    rw [same, sameMonth]
    omega

theorem before_trichotomy (self other : Date) :
    self.Before other ∨ self = other ∨ other.Before self := by
  by_cases alike : self.year = other.year ∧ self.month = other.month ∧ self.day = other.day
  · obtain ⟨year, month, day⟩ := alike
    cases self
    cases other
    simp only at year month day
    subst year month day
    exact Or.inr (Or.inl rfl)
  · simp only [Before]
    omega

theorem tomorrow_in_month {self : Date} (more : self.day < daysInMonth self.year self.month) :
    1 ≤ self.day + 1 ∧ self.day + 1 ≤ daysInMonth self.year self.month :=
  ⟨Nat.le_add_left 1 _, more⟩

theorem next_month_in_year {self : Date} (more : self.month < 12) :
    1 ≤ self.month + 1 ∧ self.month + 1 ≤ 12 :=
  ⟨Nat.le_add_left 1 _, more⟩

theorem first_of_month {month : Nat} (year : Nat) (inYear : 1 ≤ month ∧ month ≤ 12) :
    1 ≤ 1 ∧ 1 ≤ daysInMonth year month :=
  ⟨Nat.le_refl 1, daysInMonth_pos year inYear⟩

theorem january : 1 ≤ 1 ∧ 1 ≤ 12 := by decide

/-- The day after a date. -/
def next (self : Date) : Date :=
  if more : self.day < daysInMonth self.year self.month then
    ⟨self.year, self.month, self.day + 1, self.monthInYear, tomorrow_in_month more⟩
  else if more : self.month < 12 then
    ⟨self.year, self.month + 1, 1, next_month_in_year more,
      first_of_month self.year (next_month_in_year more)⟩
  else ⟨self.year + 1, 1, 1, january, first_of_month (self.year + 1) january⟩

theorem ordinal_next (self : Date) : self.next.ordinal = self.ordinal + 1 := by
  have last := self.dayInMonth.2
  unfold next
  split
  · simp only [ordinal]
    omega
  · split
    · simp only [ordinal, daysBeforeMonth]
      omega
    · next inMonth inYear =>
        have december : self.month = 12 :=
          Nat.le_antisymm self.monthInYear.2 (Nat.le_of_not_lt inYear)
        have year := daysBeforeMonth_year self.year
        have begins : daysBeforeMonth (self.year + 1) 1 = 0 := rfl
        rw [december] at last inMonth
        simp only [ordinal, leapYearsBefore_succ, begins, december]
        change daysBeforeMonth self.year 12 + daysInMonth self.year 12 = _ at year
        split at year <;> simp_all <;> omega

end Date

end Calendar

end IntelliL3.Lib
