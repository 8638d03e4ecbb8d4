import Mathlib.Data.List.Infix
import IntelliL3.Core.Types

/-! # JSON values

What `json.loads` gives and what Python makes of it: items, methods, membership, equality and
conversions, with the exceptions they raise. The texts of numbers and containers, and what is
read from a text, are left open.
-/

namespace IntelliL3

open Lib

inductive Json where
  | none
  | bool (b : Bool)
  | int (i : Int)
  | float (x : PyFloat)
  | str (text : String)
  | list (items : List Json)
  | dict (rows : List (String × Json))

/-- Conversions of the standard library, as far as the workloads compute with them. -/
class PyBuiltins where
  /-- `str(value)` of a number, a list or a dictionary -/
  repr : Json → Except PyError String
  /-- `int(text)` -/
  intOfText : String → Except PyError Int
  /-- `float(text)` -/
  floatOfText : String → Except PyError PyFloat
  /-- `float(i)` -/
  floatOfInt : Int → Except PyError PyFloat
  mul : PyFloat → PyFloat → PyFloat
  sub : PyFloat → PyFloat → PyFloat
  /-- `json.dumps(value, sort_keys=True, separators=(",", ":"))` -/
  dumps : Json → String
  /-- How many frames the recursion of `copy.deepcopy(value)` takes -/
  copyFrames : Json → Nat
  /-- How many frames the stack has room for -/
  stackRoom : Nat

/-- Decimal digits are read as the number they write, as long as they are no more than the
    lowest bound that Python lets one set on them. -/
class LawfulBuiltins [PyBuiltins] : Prop where
  intOfText_digits : ∀ digits : List Nat, digits ≠ [] → digits.length ≤ 640 →
    (∀ d ∈ digits, d < 10) → PyBuiltins.intOfText (String.ofList (digits.map Nat.digitChar)) =
      .ok (digits.foldl (fun n d => 10 * n + d) 0 : Nat)

namespace Json

/-- `type(self).__name__` -/
def typeName : Json → String
  | .none => "NoneType"
  | .bool _ => "bool"
  | .int _ => "int"
  | .float _ => "float"
  | .str _ => "str"
  | .list _ => "list"
  | .dict _ => "dict"

/-- `bool(self)` -/
def truthy : Json → Bool
  | .none => false
  | .bool b => b
  | .int i => i ≠ 0
  | .float x => x ≠ .finite 0
  | .str text => text ≠ ""
  | .list items => !items.isEmpty
  | .dict rows => !rows.isEmpty

/-- `self[key]` -/
def getItem (self : Json) (key : String) : Except PyError Json :=
  match self with
  | .dict rows =>
      match Assoc.get? rows key with
      | some value => .ok value
      | Option.none => .error (.keyError key)
  | .list _ => .error (.typeError "list indices must be integers or slices, not str")
  | .str _ => .error (.typeError "string indices must be integers")
  | other => .error (.typeError s!"'{other.typeName}' object is not subscriptable")

/-- `self.get(key, default)` -/
def get (self : Json) (key : String) (default : Json := .none) : Except PyError Json :=
  match self with
  | .dict rows => .ok ((Assoc.get? rows key).getD default)
  | other => .error (.attributeError s!"'{other.typeName}' object has no attribute 'get'")

/-- `list(self)` -/
def iterate : Json → Except PyError (List Json)
  | .list items => .ok items
  | .dict rows => .ok (rows.map fun row => .str row.1)
  | .str text => .ok (text.toList.map fun c => .str c.toString)
  | other => .error (.typeError s!"'{other.typeName}' object is not iterable")

/-- `list(reversed(self))` -/
def reversed : Json → Except PyError (List Json)
  | .list items => .ok items.reverse
  | .dict rows => .ok (rows.reverse.map fun row => .str row.1)
  | .str text => .ok (text.toList.reverse.map fun c => .str c.toString)
  | other => .error (.typeError s!"'{other.typeName}' object is not reversible")

/-- `list(self.items())` -/
def items : Json → Except PyError (List (String × Json))
  | .dict rows => .ok rows
  | other => .error (.attributeError s!"'{other.typeName}' object has no attribute 'items'")

/-- The number a value counts as in a comparison. -/
def number? : Json → Option PyFloat
  | .bool b => some (.finite (if b then 1 else 0))
  | .int i => some (.finite i)
  | .float x => some x
  | _ => Option.none

mutual

/-- `self is other or self == other`, one object standing for all that are no number -/
def same : Json → Json → Bool
  | .none, .none => true
  | .str a, .str b => a = b
  | .list a, .list b => sameItems a b
  | .dict a, .dict b => a.length = b.length && sameRows a b
  | a, b =>
      match number? a, number? b with
      | some x, some y => x = y
      | _, _ => false

def sameItems : List Json → List Json → Bool
  | [], [] => true
  | a :: as, b :: bs => same a b && sameItems as bs
  | _, _ => false

def sameRows : List (String × Json) → List (String × Json) → Bool
  | [], _ => true
  | (key, a) :: rest, rows =>
      (match Assoc.get? rows key with
        | some b => same a b
        | Option.none => false) && sameRows rest rows

end

/-- `self == other` -/
def equals (self other : Json) : Bool :=
  match self, other with
  | .float .nan, _ | _, .float .nan => false
  | self, other => same self other

/-- `item in self` -/
def contains (self item : Json) : Except PyError Bool :=
  match self, item with
  | .list items, item => .ok (items.any (same item))
  | .dict rows, .str key => .ok (Assoc.get? rows key).isSome
  | .dict _, .list _ | .dict _, .dict _ =>
      .error (.typeError s!"unhashable type: '{item.typeName}'")
  | .dict _, _ => .ok false
  | .str text, .str part => .ok (decide (part.toList <:+: text.toList))
  | .str _, item => .error (.typeError
      s!"'in <string>' requires string as left operand, not {item.typeName}")
  | other, _ => .error (.typeError s!"argument of type '{other.typeName}' is not iterable")

variable [PyBuiltins]

/-- `str(self)` -/
def toStr : Json → Except PyError String
  | .str text => .ok text
  | .none => .ok "None"
  | .bool b => .ok (if b then "True" else "False")
  | other => PyBuiltins.repr other

/-- `int(self)` -/
def toInt : Json → Except PyError Int
  | .int i => .ok i
  | .bool b => .ok (if b then 1 else 0)
  | .float (.finite x) => .ok (x.num.tdiv x.den)
  | .float .nan => .error (.valueError "cannot convert float NaN to integer")
  | .float _ => .error (.overflowError "cannot convert float infinity to integer")
  | .str text => PyBuiltins.intOfText text
  | other => .error (.typeError (s!"int() argument must be a string, a bytes-like object or a " ++
      s!"real number, not '{other.typeName}'"))

/-- `float(self)` -/
def toFloat : Json → Except PyError PyFloat
  | .float x => .ok x
  | .int i => PyBuiltins.floatOfInt i
  | .bool b => .ok (.finite (if b then 1 else 0))
  | .str text => PyBuiltins.floatOfText text
  | other => .error (.typeError
      s!"float() argument must be a string or a real number, not '{other.typeName}'")

end Json

section

variable [PyBuiltins]

/-- There is room to copy a value in a function that is some calls deep. -/
def CopyFits (frames : Nat) (value : Json) : Prop :=
  frames + PyBuiltins.copyFrames value ≤ PyBuiltins.stackRoom

instance (frames : Nat) (value : Json) : Decidable (CopyFits frames value) :=
  inferInstanceAs (Decidable (_ ≤ _))

/-- What can be copied deeper in the stack can be copied here. -/
theorem CopyFits.shallower {frames deeper : Nat} {value : Json} (fits : CopyFits deeper value)
    (le : frames ≤ deeper) : CopyFits frames value :=
  (Nat.add_le_add_right le _).trans fits

/-- `copy.deepcopy(value)` in a function that is some calls deep: an equal value, when the stack
    has room for the recursion. -/
def deepcopy {α : Type} (frames : Nat) (toJson : α → Json) (value : α) : Except PyError α :=
  if CopyFits frames (toJson value) then .ok value
  else .error (.recursionError "maximum recursion depth exceeded")

end

namespace PyFloat

/-- `abs(self)` -/
def abs : PyFloat → PyFloat
  | finite x => finite |x|
  | negInf => inf
  | other => other

/-- `self < other` -/
def lt : PyFloat → PyFloat → Bool
  | nan, _ | _, nan => false
  | finite x, finite y => x < y
  | negInf, negInf => false
  | negInf, _ => true
  | _, negInf => false
  | inf, _ => false
  | _, inf => true

/-- `self <= other` -/
def le (self other : PyFloat) : Bool := lt self other || (self ≠ nan && self = other)

end PyFloat

/-- `text.split(sep, most)` of a text in its characters -/
def splitMax (sep : Char) : Nat → List Char → List (List Char)
  | 0, cs => [cs]
  | most + 1, cs =>
      match cs.dropWhile (· ≠ sep) with
      | [] => [cs]
      | _ :: rest => cs.takeWhile (· ≠ sep) :: splitMax sep most rest

theorem splitMax_at {sep : Char} (most : Nat) {first rest : List Char} (within : sep ∉ first) :
    splitMax sep (most + 1) (first ++ sep :: rest) = first :: splitMax sep most rest := by
  have others : ∀ c ∈ first, decide (c ≠ sep) = true := fun c member =>
    decide_eq_true fun same => within (same ▸ member)
  rw [splitMax, List.dropWhile_append_of_pos others, List.dropWhile_cons_of_neg (by simp),
    List.takeWhile_append_of_pos others, List.takeWhile_cons_of_neg (by simp), List.append_nil]

/-- `self.split(sep, most)` -/
def Json.split (self : Json) (sep : Char) (most : Nat) : Except PyError (List String) :=
  match self with
  | .str text => .ok ((splitMax sep most text.toList).map String.ofList)
  | other => .error (.attributeError s!"'{other.typeName}' object has no attribute 'split'")

end IntelliL3
