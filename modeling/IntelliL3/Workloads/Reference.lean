import IntelliL3.Workloads.RagRetriever

/-! # Reference conversions

Concrete values for what the workloads leave open: texts of decimal digits are read, numbers
are exact, and items are shuffled by the draws of a generator.
-/

namespace IntelliL3.Reference

open Lib

def readDigits (text : String) : Option Nat :=
  if text.toList ≠ [] ∧ text.toList.all Char.isDigit then
    some (text.toList.foldl (fun n c => 10 * n + (c.toNat - 48)) 0)
  else none

scoped instance : PyBuiltins where
  repr
    | .int i => .ok (toString i)
    | _ => .error (.typeError "")
  intOfText text :=
    match readDigits text with
    | some n => .ok n
    | none => .error (.valueError s!"invalid literal for int() with base 10: '{text}'")
  floatOfText text :=
    match readDigits text with
    | some n => .ok (.finite n)
    | none => .error (.valueError s!"could not convert string to float: '{text}'")
  floatOfInt i := .ok (.finite i)
  mul
    | .finite x, .finite y => .finite (x * y)
    | _, _ => .nan
  sub
    | .finite x, .finite y => .finite (x - y)
    | _, _ => .nan
  dumps _ := ""
  copyFrames _ := 2
  stackRoom := 1000

theorem foldl_digits (digits : List Nat) (small : ∀ d ∈ digits, d < 10) (start : Nat) :
    (digits.map Nat.digitChar).foldl (fun n c => 10 * n + (c.toNat - 48)) start =
      digits.foldl (fun n d => 10 * n + d) start := by
  have value : ∀ d < 10, (Nat.digitChar d).toNat - 48 = d := by decide
  induction digits generalizing start with
  | nil => rfl
  | cons d rest ih =>
      rw [List.map_cons, List.foldl_cons, List.foldl_cons, value d (small d List.mem_cons_self)]
      exact ih (fun d later => small d (List.mem_cons_of_mem _ later)) _

scoped instance : LawfulBuiltins where
  intOfText_digits digits some _ small := by
    have digit : ∀ d < 10, (Nat.digitChar d).isDigit = true := by decide
    have all : (digits.map Nat.digitChar).all Char.isDigit = true := by
      rw [List.all_eq_true]
      intro c member
      obtain ⟨d, listed, rfl⟩ := List.mem_map.mp member
      exact digit d (small d listed)
    change (match readDigits _ with | .some n => _ | .none => _) = _
    rw [readDigits, String.toList_ofList, if_pos ⟨by simpa using some, all⟩, foldl_digits _ small]

scoped instance : LawfulFloats where
  sub_unit x low high := ⟨1 - x, rfl, sub_nonneg.mpr high, sub_le_self 1 low⟩
  mul_unit d y low high nonneg :=
    ⟨d * y, rfl, mul_nonneg low nonneg, mul_le_of_le_one_left nonneg high⟩
  floatOfInt_nonneg i y nonneg returned := by
    cases returned
    exact ⟨i, rfl, by exact_mod_cast nonneg⟩
  floatOfInt_exact _ _ := rfl

/-- Superscripts are digits, too. -/
scoped instance : PyUnicode where
  isDigit c := c.isDigit || c = '²' || c = '³' || c = '¹'

theorem drawn_lt {i n : Nat} (inside : i + 1 < n) (draw : Nat) : draw % (i + 2) < n :=
  (Nat.mod_lt draw (Nat.succ_pos (i + 1))).trans_le inside

/-- Each place from the last to the second changes places with the one that is drawn for it. -/
def swaps (n : Nat) : Nat → List Nat → Equiv.Perm (Fin n) × List Nat
  | 0, draws => (Equiv.refl _, draws)
  | i + 1, draws =>
      let rest := swaps n i draws.tail
      if inside : i + 1 < n then
        (rest.1.trans (Equiv.swap ⟨i + 1, inside⟩ ⟨_, drawn_lt inside (draws.headD 0)⟩), rest.2)
      else rest

/-- What is drawn for two, two and three items with the seeds 42 and 43. -/
scoped instance : PyRandom where
  Rng := List Nat
  seeded
    | 42 => [0, 0, 2, 1]
    | 43 => [0, 1, 2, 0]
    | _ => []
  permutation n draws := swaps n (n - 1) draws

example : (shuffle [1, 2, 3] ([2, 0] : List Nat)).1 = [2, 1, 3] := by decide +kernel

namespace Shown

/-- Floats that are whole are shown, too. -/
scoped instance (priority := high) : PyBuiltins where
  repr
    | .int i => .ok (toString i)
    | .float (.finite x) => .ok s!"{x.num}.0"
    | _ => .error (.typeError "")
  intOfText := PyBuiltins.intOfText
  floatOfText := PyBuiltins.floatOfText
  floatOfInt := PyBuiltins.floatOfInt
  mul := PyBuiltins.mul
  sub := PyBuiltins.sub
  dumps := PyBuiltins.dumps
  copyFrames := PyBuiltins.copyFrames
  stackRoom := PyBuiltins.stackRoom

end Shown

namespace Recursive

mutual

/-- Two calls for each level of nesting. -/
def copyCalls : Json → Nat
  | .list items => 2 + copyCallsItems items
  | .dict rows => 2 + copyCallsRows rows
  | _ => 2

def copyCallsItems : List Json → Nat
  | [] => 0
  | item :: rest => max (copyCalls item) (copyCallsItems rest)

def copyCallsRows : List (String × Json) → Nat
  | [] => 0
  | (_, value) :: rest => max (max 2 (copyCalls value)) (copyCallsRows rest)

end

/-- A copy takes more frames the deeper the value is nested. -/
scoped instance (priority := high) : PyBuiltins where
  repr := PyBuiltins.repr
  intOfText := PyBuiltins.intOfText
  floatOfText := PyBuiltins.floatOfText
  floatOfInt := PyBuiltins.floatOfInt
  mul := PyBuiltins.mul
  sub := PyBuiltins.sub
  dumps := PyBuiltins.dumps
  copyFrames := copyCalls
  stackRoom := PyBuiltins.stackRoom

end Recursive

end IntelliL3.Reference
