import Mathlib.Data.List.Basic
import Mathlib.Data.String.Basic

/-! # Names with numbers in them

A number is written in digits, so it ends where the text after it begins with anything else: what
is numbered twice is told apart by either number.
-/

namespace IntelliL3.Lib

variable {α : Type} {c : α} {xs ys r s : List α}

/-- A separator that is on neither side's first part splits both the same way. -/
theorem append_cons_inj (left : c ∉ xs) (right : c ∉ ys) (same : xs ++ c :: r = ys ++ c :: s) :
    xs = ys ∧ r = s := by
  induction xs generalizing ys with
  | nil =>
      cases ys with
      | nil => exact ⟨rfl, (List.cons.inj same).2⟩
      | cons y rest =>
          rw [(List.cons.inj same).1] at right
          exact absurd List.mem_cons_self right
  | cons x rest ih =>
      cases ys with
      | nil =>
          rw [(List.cons.inj same).1] at left
          exact absurd List.mem_cons_self left
      | cons y others =>
          rw [List.mem_cons, not_or] at left right
          obtain ⟨first, later⟩ := List.cons.inj same
          obtain ⟨same, rest⟩ := ih left.2 right.2 later
          exact ⟨by rw [first, same], rest⟩

theorem digits_inj {m n : Nat} (same : Nat.toDigits 10 m = Nat.toDigits 10 n) : m = n := by
  rw [← Nat.ofDigitChars_ten_toDigits (n := m), same, Nat.ofDigitChars_ten_toDigits]

theorem notMem_digits {c : Char} (other : ¬ c.isDigit) (n : Nat) : c ∉ Nat.toDigits 10 n :=
  fun among => other (Nat.isDigit_of_mem_toDigits (by decide) (by decide) among)

theorem toList_toString (n : Nat) : (toString n).toList = Nat.toDigits 10 n := Nat.toList_repr

/-- `f"{stem}{n}"` -/
theorem numbered_inj {stem : String} {m n : Nat} (same : stem ++ toString m = stem ++ toString n) :
    m = n := by
  have lists := congrArg String.toList same
  rw [String.toList_append, String.toList_append, toList_toString, toList_toString] at lists
  exact digits_inj (List.append_cancel_left lists)

/-- `f"{stem}{m}{mark}{rest}"`, the mark starting with a character that is no digit -/
theorem numberedThen_inj {stem mark xs ys : String} {c : Char} {tail : List Char} {m n : Nat}
    (starts : mark.toList = c :: tail) (other : ¬ c.isDigit)
    (same : stem ++ toString m ++ mark ++ xs = stem ++ toString n ++ mark ++ ys) :
    m = n ∧ xs = ys := by
  have lists := congrArg String.toList same
  simp only [String.toList_append, toList_toString, starts, List.append_assoc,
    List.cons_append] at lists
  obtain ⟨first, later⟩ := append_cons_inj (notMem_digits other m) (notMem_digits other n)
    (List.append_cancel_left lists)
  exact ⟨digits_inj first, String.toList_inj.mp (List.append_cancel_left later)⟩

/-- `f"{stem}{m}{mark}{n}"` -/
theorem twiceNumbered_inj {stem mark : String} {c : Char} {tail : List Char} {m n m' n' : Nat}
    (starts : mark.toList = c :: tail) (other : ¬ c.isDigit)
    (same : stem ++ toString m ++ mark ++ toString n =
      stem ++ toString m' ++ mark ++ toString n') : m = m' ∧ n = n' := by
  obtain ⟨first, later⟩ := numberedThen_inj starts other same
  have digits := congrArg String.toList later
  rw [toList_toString, toList_toString] at digits
  exact ⟨first, digits_inj digits⟩

end IntelliL3.Lib
