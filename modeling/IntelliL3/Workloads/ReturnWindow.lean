import IntelliL3.Lib.Calendar
import IntelliL3.Workloads.Reference
import IntelliL3.Workloads.RetailTools

/-! # The return window

A date is counted as if every month had thirty days and every year 365. How far that runs from
the calendar between two dates decides for which windows the answer is the calendar's.
-/

namespace IntelliL3

open Lib Calendar

namespace ReturnWindow

/-! ## Dates as texts -/

/-- The last digits of a number, as many as there is room for. -/
def lastDigits (width n : Nat) : List Nat :=
  (List.range width).map fun i => n / 10 ^ (width - 1 - i) % 10

def padded (width n : Nat) : List Char := (lastDigits width n).map Nat.digitChar

/-- `YYYY-MM-DD` -/
def iso (date : Date) : String :=
  String.ofList (padded 4 date.year ++ '-' :: (padded 2 date.month ++ '-' :: padded 2 date.day))

theorem dash_notMem_padded (width n : Nat) : '-' ∉ padded width n := by
  have digits : ∀ d < 10, Nat.digitChar d ≠ '-' := by decide
  intro dash
  obtain ⟨d, member, same⟩ := List.mem_map.mp dash
  obtain ⟨i, -, rfl⟩ := List.mem_map.mp member
  exact digits _ (Nat.mod_lt _ (by decide)) same

theorem split_iso (date : Date) :
    (Json.str (iso date)).split '-' 2 = .ok [String.ofList (padded 4 date.year),
      String.ofList (padded 2 date.month), String.ofList (padded 2 date.day)] := by
  rw [Json.split, iso, String.toList_ofList, splitMax_at _ (dash_notMem_padded _ _),
    splitMax_at _ (dash_notMem_padded _ _), splitMax]
  rfl

variable [PyBuiltins] [LawfulBuiltins]

theorem toInt_padded {width n : Nat} (some : width ≠ 0) (few : width ≤ 640) :
    (Json.str (String.ofList (padded width n))).toInt =
      .ok ((lastDigits width n).foldl (fun n d => 10 * n + d) 0 : Nat) := by
  refine LawfulBuiltins.intOfText_digits _ ?_ ?_ ?_
  · intro none
    have length := congrArg List.length none
    rw [lastDigits, List.length_map, List.length_range] at length
    exact some length
  · rw [lastDigits, List.length_map, List.length_range]
    exact few
  · intro d member
    obtain ⟨i, -, rfl⟩ := List.mem_map.mp member
    exact Nat.mod_lt _ (by decide)

theorem toInt_year {n : Nat} (small : n < 10000) :
    (Json.str (String.ofList (padded 4 n))).toInt = .ok n := by
  have digits : lastDigits 4 n = [n / 1000 % 10, n / 100 % 10, n / 10 % 10, n / 1 % 10] := rfl
  rw [toInt_padded (by decide) (by decide), digits]
  simp only [List.foldl_cons, List.foldl_nil]
  congr 2
  omega

theorem toInt_two {n : Nat} (small : n < 100) :
    (Json.str (String.ofList (padded 2 n))).toInt = .ok n := by
  have digits : lastDigits 2 n = [n / 10 % 10, n / 1 % 10] := rfl
  rw [toInt_padded (by decide) (by decide), digits]
  simp only [List.foldl_cons, List.foldl_nil]
  congr 2
  omega

theorem dateNumbers_iso {date : Date} (fourDigits : date.year < 10000) :
    RetailToolKit.dateNumbers [String.ofList (padded 4 date.year),
      String.ofList (padded 2 date.month), String.ofList (padded 2 date.day)] =
      .ok ((date.year : Int), (date.month : Int), (date.day : Int)) := by
  have month : date.month < 100 := Nat.lt_of_le_of_lt date.monthInYear.2 (by decide)
  have day : date.day < 100 := Nat.lt_of_le_of_lt
    (Nat.le_trans date.dayInMonth.2 (Date.daysInMonth_le _ _)) (by decide)
  simp only [RetailToolKit.dateNumbers, List.mapM_cons, List.mapM_nil, toInt_year fourDigits,
    toInt_two month, toInt_two day]
  rfl

/-! ## Days and numbers -/

/-- The number a date is counted as. -/
def linear (date : Date) : Int := RetailToolKit.linearDay (date.year, date.month, date.day)

/-- The days before the month of a date that years of 365 days and months of thirty leave out. -/
def leftOut (date : Date) : Int :=
  leapYearsBefore date.year + daysBeforeMonth date.year date.month - 30 * date.month

omit [PyBuiltins] [LawfulBuiltins] in
theorem linear_eq (date : Date) : linear date = date.ordinal - leftOut date := by
  simp only [linear, RetailToolKit.linearDay, Date.ordinal, leftOut]
  omega

omit [PyBuiltins] [LawfulBuiltins] in
/-- Only the day after a 31st counts as no later, and not in a new year. -/
theorem linear_le {self other : Date} (before : self.Before other) :
    linear self ≤ linear other ∧
      (linear other = linear self ↔ other = self.next ∧ self.day = 31 ∧ self.month < 12) := by
  have lastDay := Nat.le_trans self.dayInMonth.2 (Date.daysInMonth_le _ _)
  have firstDay := other.dayInMonth.1
  have months := self.monthInYear
  have months' := other.monthInYear
  simp only [linear, RetailToolKit.linearDay]
  constructor
  · rcases before with years | ⟨same, month | ⟨sameMonth, days⟩⟩ <;> omega
  · constructor
    · intro equal
      have following : self.day = 31 ∧ self.month < 12 ∧ other.year = self.year ∧
          other.month = self.month + 1 ∧ other.day = 1 := by
        rcases before with years | ⟨same, month | ⟨sameMonth, days⟩⟩ <;> omega
      obtain ⟨last, inYear, year, month, day⟩ := following
      refine ⟨?_, last, inYear⟩
      have full := self.dayInMonth.2
      rw [Date.next, dif_neg (by have := Date.daysInMonth_le self.year self.month; omega),
        dif_pos inYear]
      cases other
      simp only at year month day
      subst year month day
      rfl
    · rintro ⟨rfl, last, inYear⟩
      have full := Date.daysInMonth_le self.year self.month
      rw [Date.next, dif_neg (by omega), dif_pos inYear]
      simp only
      omega

/-- The days left out between two dates; February makes them negative. -/
def leftOutBetween (delivered now : Date) : Int := leftOut now - leftOut delivered

/-- When a window of some days is answered as the calendar has it. -/
abbrev CountedRight (delivered now : Date) (window : Int) : Prop :=
  if now.Before delivered then
    ¬ (delivered = now.next ∧ now.day = 31 ∧ now.month < 12 ∧ 0 ≤ window)
  else
    ¬ (delivered.daysUntil now - leftOutBetween delivered now ≤ window ∧
        window < delivered.daysUntil now) ∧
      ¬ (delivered.daysUntil now ≤ window ∧
        window < delivered.daysUntil now - leftOutBetween delivered now)

omit [PyBuiltins] [LawfulBuiltins] in
theorem within_iff (delivered now : Date) (window : Int) :
    ((0 ≤ linear now - linear delivered ∧ linear now - linear delivered ≤ window) ↔
      (0 ≤ delivered.daysUntil now ∧ delivered.daysUntil now ≤ window)) ↔
        CountedRight delivered now window := by
  have now_eq := linear_eq now
  have delivered_eq := linear_eq delivered
  unfold CountedRight leftOutBetween Date.daysUntil
  split
  · next early =>
      obtain ⟨le, equal⟩ := linear_le early
      have later := Date.ordinal_lt early
      rw [← and_assoc, ← and_assoc, and_assoc (a := delivered = now.next), ← equal]
      omega
  · next notEarly =>
      have ordered : linear delivered ≤ linear now ∧ delivered.ordinal ≤ now.ordinal := by
        rcases Date.before_trichotomy delivered now with before | rfl | before
        · exact ⟨(linear_le before).1, Int.le_of_lt (Date.ordinal_lt before)⟩
        · exact ⟨Int.le_refl _, Int.le_refl _⟩
        · exact absurd before notEarly
      omega

/-! ## The tool -/

/-- A toolkit whose rules give a window of some days. -/
def WindowOf (tk : RetailToolKit) (window : Int) : Prop :=
  ∃ rules days, tk.policies.getItem "rules" = .ok rules ∧
    rules.getItem "return_window_days" = .ok days ∧ days.toInt = .ok window

/-- A request that gets as far as the check of a delivery date. -/
structure DateChecked (tk : RetailToolKit) (orderId : String) (quantity : Int)
    (deliveredAt : Json) : Prop where
  positive : 0 < quantity
  eligible : ∃ order status rules statuses, tk.orders.get? orderId = some order ∧
    order.get "status" = .ok status ∧ tk.policies.getItem "rules" = .ok rules ∧
    rules.getItem "eligible_order_statuses" = .ok statuses ∧
    statuses.contains status = .ok true ∧ order.get "delivered_at" (.str "") = .ok deliveredAt

theorem withinReturnWindow_iso {tk : RetailToolKit} {delivered now : Date} {window : Int}
    (years : delivered.year < 10000 ∧ now.year < 10000) (today : tk.nowDate = iso now)
    (rule : WindowOf tk window) :
    tk.withinReturnWindow (.str (iso delivered)) = .ok (decide
      (0 ≤ linear now - linear delivered ∧ linear now - linear delivered ≤ window)) := by
  obtain ⟨rules, days, found, limit, number⟩ := rule
  have some : (Json.str (iso delivered)).truthy = true := by
    simp [Json.truthy, iso]
  rw [RetailToolKit.withinReturnWindow, today]
  simp only [some, Bool.not_true, Bool.false_eq_true, if_false, split_iso, ok_bind,
    dateNumbers_iso years.1, dateNumbers_iso years.2, found, limit, number]
  change (if linear now - linear delivered < 0 then pure false else _) = _
  split
  · next early => rw [decide_eq_false fun accepted => Int.not_lt.mpr accepted.1 early]; rfl
  · next reached =>
      refine congrArg Except.ok (decide_eq_decide.mpr ?_)
      exact (and_iff_right (Int.not_lt.mp reached)).symm

omit [LawfulBuiltins] in
/-- A request is told that its window is over exactly when the date is not accepted. -/
theorem calculateRefund_outside {tk : RetailToolKit} {orderId : String} {quantity : Int}
    {deliveredAt : Json} (checked : DateChecked tk orderId quantity deliveredAt) {within : Bool}
    (answer : tk.withinReturnWindow deliveredAt = .ok within) (itemId : String) :
    RetailToolKit.calculateRefund orderId itemId quantity tk =
      .ok (RetailToolKit.failed "outside_return_window") ↔ within = false := by
  obtain ⟨order, status, rules, statuses, known, statusOf, rulesOf, statusesOf, among, date⟩ :=
    checked.eligible
  rw [RetailToolKit.calculateRefund]
  simp only [Int.not_le.mpr checked.positive, if_false, known, statusOf, rulesOf, statusesOf,
    ok_bind, among, date, answer, Bool.not_true, Bool.false_eq_true]
  cases within with
  | false => exact iff_of_true rfl rfl
  | true =>
      refine iff_of_false (fun outside => ?_) Bool.noConfusion
      -- whatever is answered after the check is another answer
      obtain ⟨rows, -, outside⟩ := bind_eq_ok.mp outside
      obtain ⟨item, -, outside⟩ := bind_eq_ok.mp outside
      cases item with
      | none => simp [pure, Except.pure, RetailToolKit.failed] at outside
      | some item =>
          obtain ⟨bought, -, outside⟩ := bind_eq_ok.mp outside
          obtain ⟨bought, -, outside⟩ := bind_eq_ok.mp outside
          split at outside
          · simp [pure, Except.pure, RetailToolKit.failed] at outside
          · obtain ⟨price, -, outside⟩ := bind_eq_ok.mp outside
            obtain ⟨price, -, outside⟩ := bind_eq_ok.mp outside
            obtain ⟨count, -, outside⟩ := bind_eq_ok.mp outside
            obtain ⟨currency, -, outside⟩ := bind_eq_ok.mp outside
            simp [pure, Except.pure, RetailToolKit.failed, RetailToolKit.succeeded] at outside

end ReturnWindow

open ReturnWindow in
/-- The check of a delivery date is that of the calendar exactly when the days the reckoning
    leaves out do not move the date over an end of the window. -/
theorem return_window_calendar_iff [PyBuiltins] [LawfulBuiltins] {tk : RetailToolKit}
    {orderId : String} {quantity window : Int} {delivered now : Date}
    (years : delivered.year < 10000 ∧ now.year < 10000) (today : tk.nowDate = iso now)
    (rule : WindowOf tk window) (checked : DateChecked tk orderId quantity (.str (iso delivered)))
    (itemId : String) :
    (RetailToolKit.calculateRefund orderId itemId quantity tk ≠
        .ok (RetailToolKit.failed "outside_return_window") ↔
      0 ≤ delivered.daysUntil now ∧ delivered.daysUntil now ≤ window) ↔
        CountedRight delivered now window := by
  have answer := calculateRefund_outside checked (withinReturnWindow_iso years today rule) itemId
  rw [ne_eq, answer, Bool.not_eq_false, decide_eq_true_eq]
  exact within_iff delivered now window

section

open Reference ReturnWindow

/-- One delivered order of one item. -/
private def shop (deliveredAt nowDate : String) : RetailToolKit where
  nowDate := nowDate
  orders := Dict.empty.set "ORD-1001" (.dict [("order_id", .str "ORD-1001"),
    ("status", .str "delivered"), ("delivered_at", .str deliveredAt)])
  orderItems := .list [.dict [("order_id", .str "ORD-1001"), ("item_id", .str "ITEM-1001-1"),
    ("quantity", .int 1), ("unit_price", .float (.finite 120))]]
  policies := .dict [("rules", .dict [("return_window_days", .int 30),
    ("eligible_order_statuses", .list [.str "delivered"])])]

private theorem shop_window (deliveredAt nowDate : String) :
    WindowOf (shop deliveredAt nowDate) 30 :=
  ⟨_, _, rfl, rfl, rfl⟩

private theorem shop_checked (deliveredAt nowDate : String) :
    DateChecked (shop deliveredAt nowDate) "ORD-1001" 1 (.str deliveredAt) :=
  ⟨by decide, _, _, _, _, rfl, rfl, rfl, rfl, rfl, rfl⟩

/-- Three weeks are within thirty days either way. -/
theorem return_window_three_weeks :
    let delivered : Date := ⟨2026, 1, 10, by decide, by decide⟩
    let now : Date := ⟨2026, 2, 1, by decide, by decide⟩
    (RetailToolKit.calculateRefund "ORD-1001" "ITEM-1001-1" 1 (shop (iso delivered) (iso now)) ≠
        .ok (RetailToolKit.failed "outside_return_window") ↔
      0 ≤ delivered.daysUntil now ∧ delivered.daysUntil now ≤ 30) := by
  intro delivered now
  exact (return_window_calendar_iff (by decide) rfl (shop_window _ _) (shop_checked _ _) _).mpr
    (by decide +kernel)

/-- From the end of January to the second of March there are thirty days in 2026, and the window
    of thirty days is over. -/
theorem return_window_over_february :
    let delivered : Date := ⟨2026, 1, 31, by decide, by decide⟩
    let now : Date := ⟨2026, 3, 2, by decide, by decide⟩
    RetailToolKit.calculateRefund "ORD-1001" "ITEM-1001-1" 1 (shop (iso delivered) (iso now)) =
        .ok (RetailToolKit.failed "outside_return_window") ∧ delivered.daysUntil now = 30 := by
  intro delivered now
  have years : delivered.year < 10000 ∧ now.year < 10000 := by decide
  have answer := withinReturnWindow_iso years rfl (shop_window (iso delivered) (iso now))
  exact ⟨(calculateRefund_outside (shop_checked _ _) answer _).mpr (by decide +kernel),
    by decide +kernel⟩

end

end IntelliL3
