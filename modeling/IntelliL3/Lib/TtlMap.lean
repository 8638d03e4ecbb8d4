import Mathlib.Data.Set.Card
import Mathlib.Logic.Function.Basic
import Mathlib.Order.Lattice

/-! # Maps whose entries expire

A map from keys to versioned payloads, each with the time it expires at. The
clock is an argument of each operation and need not advance between them.
-/

namespace IntelliL3.Lib

structure TtlEntry (ν π T : Type) where
  payload : π
  version : ν
  expiresAt : T

namespace TtlEntry

variable {ν π T : Type}

/-- Whether the entry may answer a request for a version, or for any. -/
def serves [DecidableEq ν] (entry : TtlEntry ν π T) (version : Option ν) : Bool :=
  version.all (· = entry.version)

def isExpired [LinearOrder T] (entry : TtlEntry ν π T) (now : T) : Bool :=
  decide (entry.expiresAt ≤ now)

end TtlEntry

abbrev TtlMap (κ ν π T : Type) : Type := κ → Option (TtlEntry ν π T)

namespace TtlMap

variable {κ ν π T : Type}

def empty : TtlMap κ ν π T := fun _ => none

/-- Take away the entries a condition names. -/
def removeWhere (m : TtlMap κ ν π T) (gone : κ → TtlEntry ν π T → Bool) : TtlMap κ ν π T :=
  fun key => (m key).filter fun entry => !gone key entry

/-- How many entries a condition names. -/
noncomputable def countWhere (m : TtlMap κ ν π T) (gone : κ → TtlEntry ν π T → Bool) : Nat :=
  Set.ncard { key | (m key).any (gone key) = true }

def purge [LinearOrder T] (m : TtlMap κ ν π T) (now : T) : TtlMap κ ν π T :=
  m.removeWhere fun _ entry => entry.isExpired now

section

variable [DecidableEq κ]

def put (m : TtlMap κ ν π T) (key : κ) (entry : TtlEntry ν π T) : TtlMap κ ν π T :=
  Function.update m key (some entry)

def erase (m : TtlMap κ ν π T) (key : κ) : TtlMap κ ν π T := Function.update m key none

variable [DecidableEq ν] [LinearOrder T]

/-- The entry that answers a request, if there is one. -/
def lookup (m : TtlMap κ ν π T) (key : κ) (version : Option ν) (now : T) :
    Option (TtlEntry ν π T) :=
  (m key).filter fun entry => entry.serves version && !entry.isExpired now

/-- A request takes away the entry it would have had, were it not expired. -/
def expire (m : TtlMap κ ν π T) (key : κ) (version : Option ν) (now : T) : TtlMap κ ν π T :=
  m.removeWhere fun other entry =>
    decide (other = key) && entry.serves version && entry.isExpired now

end

/-! ## Removing -/

theorem removeWhere_self {m : TtlMap κ ν π T} {gone : κ → TtlEntry ν π T → Bool}
    (none_gone : ∀ key entry, m key = some entry → gone key entry = false) :
    m.removeWhere gone = m := by
  funext key
  rw [removeWhere]
  cases found : m key with
  | none => rfl
  | some entry => simp [Option.filter, none_gone key entry found]

/-- A condition that names at most the entry of one key. -/
theorem removeWhere_one [DecidableEq κ] {m : TtlMap κ ν π T}
    {gone : κ → TtlEntry ν π T → Bool} {key : κ} {entry : TtlEntry ν π T}
    (found : m key = some entry) (isGone : gone key entry = true)
    (others : ∀ other entry, gone other entry = true → other = key) :
    m.removeWhere gone = m.erase key := by
  funext other
  rw [removeWhere, erase]
  by_cases here : other = key
  · subst here
    simp [found, isGone, Option.filter]
  · rw [Function.update_of_ne here]
    cases kept : m other with
    | none => rfl
    | some entry' =>
        have stays : gone other entry' = false := by
          rw [Bool.eq_false_iff]
          exact fun isGone => here (others other entry' isGone)
        simp [Option.filter, stays]

/-! ## Sweeping -/

section

variable [DecidableEq κ]

/-- A key of a sweep, with the count so far: its entry goes when the condition names it. -/
def sweepOne (gone : κ → TtlEntry ν π T → Bool) (counted : Nat × TtlMap κ ν π T) (key : κ) :
    Nat × TtlMap κ ν π T :=
  if (counted.2 key).any (gone key) then (counted.1 + 1, counted.2.erase key) else counted

theorem sweepOne_of_ne (gone : κ → TtlEntry ν π T → Bool) (counted : Nat × TtlMap κ ν π T)
    {key other : κ} (differ : other ≠ key) :
    (sweepOne gone counted key).2 other = counted.2 other := by
  rw [sweepOne]
  split
  · exact Function.update_of_ne differ _ _
  · rfl

/-- Going through the keys one by one takes away what the condition names among them. -/
private theorem sweep_of_nodup {gone : κ → TtlEntry ν π T → Bool} {keys : List κ}
    (distinct : keys.Nodup) (counted : Nat × TtlMap κ ν π T) :
    keys.foldl (sweepOne gone) counted =
      (counted.1 + (keys.filter fun key => (counted.2 key).any (gone key)).length,
        fun key => if key ∈ keys then (counted.2 key).filter fun entry => !gone key entry
          else counted.2 key) := by
  induction keys generalizing counted with
  | nil => rfl
  | cons key rest ih =>
      obtain ⟨fresh, later⟩ := List.nodup_cons.mp distinct
      have apart : ∀ other ∈ rest, (sweepOne gone counted key).2 other = counted.2 other :=
        fun other member => sweepOne_of_ne gone counted fun same => fresh (same ▸ member)
      rw [List.foldl_cons, ih later]
      refine Prod.ext ?_ (funext fun other => ?_)
      · have same : (rest.filter fun other =>
            ((sweepOne gone counted key).2 other).any (gone other)) =
              rest.filter fun other => (counted.2 other).any (gone other) :=
          List.filter_congr fun other member => by rw [apart other member]
        simp only [same, List.filter_cons]
        rw [sweepOne]
        split
        · simp only [List.length_cons]
          omega
        · rfl
      · by_cases here : other = key
        · subst here
          simp only [fresh, if_false, List.mem_cons, true_or, if_true]
          rw [sweepOne]
          cases found : counted.2 other with
          | none => simp [found]
          | some entry =>
              cases named : gone other entry with
              | true => simp [named, erase, Option.filter]
              | false => simp [found, named, Option.filter]
        · by_cases member : other ∈ rest
          · simp [member, apart other member]
          · simp only [member, if_false, List.mem_cons, here, or_self]
            exact sweepOne_of_ne gone counted here

/-- The named entries are counted on any list that has each of their keys once. -/
private theorem countWhere_eq_length {m : TtlMap κ ν π T} {gone : κ → TtlEntry ν π T → Bool}
    {keys : List κ} (distinct : keys.Nodup)
    (covered : ∀ key, (m key).any (gone key) = true → key ∈ keys) :
    m.countWhere gone = (keys.filter fun key => (m key).any (gone key)).length := by
  classical
  have same : { key | (m key).any (gone key) = true } =
      ((keys.filter fun key => (m key).any (gone key)).toFinset : Set κ) := by
    ext key
    simp only [Set.mem_ofPred_eq, Finset.mem_coe, List.mem_toFinset, List.mem_filter]
    exact ⟨fun named => ⟨covered key named, named⟩, fun named => named.2⟩
  rw [countWhere, same, Set.ncard_coe_finset,
    List.toFinset_card_of_nodup (distinct.filter _)]

/-- A sweep over every key that the condition names an entry of. -/
theorem sweep {m : TtlMap κ ν π T} {gone : κ → TtlEntry ν π T → Bool} {keys : List κ}
    (distinct : keys.Nodup)
    (covered : ∀ key, (m key).any (gone key) = true → key ∈ keys) :
    keys.foldl (sweepOne gone) (0, m) = (m.countWhere gone, m.removeWhere gone) := by
  rw [sweep_of_nodup distinct, countWhere_eq_length distinct covered, Nat.zero_add]
  refine Prod.ext rfl (funext fun key => ?_)
  simp only [removeWhere]
  split
  · rfl
  · next outside =>
      cases found : m key with
      | none => rfl
      | some entry =>
          have stays : gone key entry = false := by
            rw [Bool.eq_false_iff]
            exact fun named => outside (covered key (by simp [found, named]))
          simp [Option.filter, stays]

end

end TtlMap

end IntelliL3.Lib
