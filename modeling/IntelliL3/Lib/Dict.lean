import Mathlib.Data.List.Nodup
import Mathlib.Data.List.Perm.Subperm

/-! # Insertion-ordered dictionaries

Association lists read first-match, and dictionaries that carry the proof that
their keys are distinct. Assigning an existing key keeps its place, a new key
goes last: iteration order is insertion order.
-/

namespace IntelliL3.Lib

namespace Assoc

variable {κ : Type u} {ν : Type v} [DecidableEq κ]

def get? : List (κ × ν) → κ → Option ν
  | [], _ => none
  | (key, value) :: rest, k => if key = k then some value else get? rest k

def set : List (κ × ν) → κ → ν → List (κ × ν)
  | [], k, v => [(k, v)]
  | (key, value) :: rest, k, v =>
      if key = k then (key, v) :: rest else (key, value) :: set rest k v

def erase (l : List (κ × ν)) (k : κ) : List (κ × ν) :=
  l.filter fun row => row.1 ≠ k

theorem get?_set (l : List (κ × ν)) (k : κ) (v : ν) (k' : κ) :
    get? (set l k v) k' = if k = k' then some v else get? l k' := by
  induction l with
  | nil => rfl
  | cons row rest ih =>
      obtain ⟨key, value⟩ := row
      simp only [set]
      by_cases here : key = k
      · subst here
        simp only [if_true, get?]
        split <;> rfl
      · simp only [if_neg here, get?, ih]
        by_cases there : key = k'
        · subst there
          simp only [if_true, if_neg (Ne.symm here)]
        · simp only [if_neg there]

theorem set_ne_nil (l : List (κ × ν)) (k : κ) (v : ν) : set l k v ≠ [] := by
  cases l with
  | nil => exact List.cons_ne_nil _ _
  | cons row rest =>
      rw [set]
      split <;> exact List.cons_ne_nil _ _

theorem get?_erase (l : List (κ × ν)) (k k' : κ) :
    get? (erase l k) k' = if k = k' then none else get? l k' := by
  induction l with
  | nil => simp only [erase, List.filter_nil, get?, ite_self]
  | cons row rest ih =>
      obtain ⟨key, value⟩ := row
      simp only [erase] at ih
      by_cases here : key = k
      · subst here
        simp only [erase, ne_eq, not_true_eq_false, decide_false, Bool.false_eq_true,
          not_false_eq_true, List.filter_cons_of_neg, ih, get?]
        split <;> rfl
      · simp only [erase, ne_eq, here, not_false_eq_true, decide_true,
          List.filter_cons_of_pos, get?, ih]
        by_cases there : key = k'
        · subst there
          simp only [if_true, if_neg (Ne.symm here)]
        · simp only [if_neg there]

theorem mem_keys_iff (l : List (κ × ν)) (k : κ) :
    k ∈ l.map Prod.fst ↔ (get? l k).isSome := by
  induction l with
  | nil => simp [get?]
  | cons row rest ih =>
      obtain ⟨key, value⟩ := row
      by_cases here : key = k
      · simp [get?, here]
      · simp only [List.map_cons, List.mem_cons, Ne.symm here, false_or, ih, get?, if_neg here]

theorem mem_iff_get? {l : List (κ × ν)} (distinct : (l.map Prod.fst).Nodup) (k : κ) (v : ν) :
    (k, v) ∈ l ↔ get? l k = some v := by
  induction l with
  | nil => simp [get?]
  | cons row rest ih =>
      obtain ⟨key, value⟩ := row
      obtain ⟨absent, tailDistinct⟩ := List.nodup_cons.mp distinct
      by_cases here : key = k
      · subst here
        have notBelow : (key, v) ∉ rest := fun member =>
          absent (List.mem_map.mpr ⟨(key, v), member, rfl⟩)
        simp only [List.mem_cons, Prod.mk.injEq, true_and, notBelow, or_false, get?, if_true,
          Option.some.injEq, eq_comm]
      · simp only [List.mem_cons, Prod.mk.injEq, Ne.symm here, false_and, false_or,
          ih tailDistinct, get?, if_neg here]

theorem keys_set (l : List (κ × ν)) (k : κ) (v : ν) :
    (set l k v).map Prod.fst =
      if k ∈ l.map Prod.fst then l.map Prod.fst else l.map Prod.fst ++ [k] := by
  induction l with
  | nil => rfl
  | cons row rest ih =>
      obtain ⟨key, value⟩ := row
      by_cases here : key = k
      · simp [set, here]
      · simp only [set, if_neg here, List.map_cons, ih, List.mem_cons, Ne.symm here, false_or]
        split <;> rfl

/-- Assigning the value a key already has changes nothing, not even the order. -/
theorem set_same {l : List (κ × ν)} {k : κ} {v : ν} (present : get? l k = some v) :
    set l k v = l := by
  induction l with
  | nil => simp [get?] at present
  | cons row rest ih =>
      obtain ⟨key, value⟩ := row
      by_cases here : key = k
      · simp only [get?, if_pos here, Option.some.injEq] at present
        simp only [set, if_pos here, present]
      · simp only [get?, if_neg here] at present
        simp only [set, if_neg here, ih present]

/-- Assigning twice keeps what is assigned last. -/
theorem set_set (l : List (κ × ν)) (k : κ) (v w : ν) : set (set l k v) k w = set l k w := by
  induction l with
  | nil => simp only [set, if_true]
  | cons row rest ih =>
      obtain ⟨key, value⟩ := row
      by_cases here : key = k
      · simp only [set, if_pos here]
      · simp only [set, if_neg here, ih]

theorem set_append_absent {l : List (κ × ν)} {k : κ} (absent : get? l k = none) (v : ν)
    (tail : List (κ × ν)) : set (l ++ tail) k v = l ++ set tail k v := by
  induction l with
  | nil => rfl
  | cons row rest ih =>
      obtain ⟨key, value⟩ := row
      by_cases here : key = k
      · simp [get?, here] at absent
      · simp only [get?, if_neg here] at absent
        simp only [List.cons_append, set, if_neg here, ih absent]

/-- Where a key is found. -/
theorem exists_split {l : List (κ × ν)} {k : κ} {v : ν} (present : get? l k = some v) :
    ∃ before after, l = before ++ (k, v) :: after ∧ get? before k = none := by
  induction l with
  | nil => cases present
  | cons row rest ih =>
      obtain ⟨key, value⟩ := row
      by_cases here : key = k
      · simp only [get?, if_pos here, Option.some.injEq] at present
        exact ⟨[], rest, by rw [here, present, List.nil_append], rfl⟩
      · simp only [get?, if_neg here] at present
        obtain ⟨before, after, split, absent⟩ := ih present
        refine ⟨(key, value) :: before, after, by rw [split, List.cons_append], ?_⟩
        simp only [get?, if_neg here, absent]

/-- Erasing forgets what was last set. -/
theorem erase_set_self (l : List (κ × ν)) (k : κ) (v : ν) : erase (set l k v) k = erase l k := by
  induction l with
  | nil => simp [set, erase]
  | cons row rest ih =>
      obtain ⟨key, value⟩ := row
      by_cases here : key = k
      · simp [set, erase, here]
      · have kept : ∀ tail, erase ((key, value) :: tail) k = (key, value) :: erase tail k :=
          fun tail => List.filter_cons_of_pos (by simpa using here)
        simp only [set, if_neg here, kept, ih]

/-- Erasing an absent key changes nothing. -/
theorem erase_absent {l : List (κ × ν)} {k : κ} (absent : get? l k = none) : erase l k = l := by
  refine List.filter_eq_self.mpr fun row member => ?_
  by_contra same
  have held := (mem_keys_iff l k).mp (List.mem_map.mpr ⟨row, member, by simpa using same⟩)
  rw [absent] at held
  cases held

end Assoc

/-- A dictionary: rows in insertion order, keys distinct by construction. -/
structure Dict (κ : Type u) (ν : Type v) where
  entries : List (κ × ν)
  distinct : (entries.map Prod.fst).Nodup
  deriving DecidableEq

namespace Dict

variable {κ : Type u} {ν : Type v}

def empty : Dict κ ν := ⟨[], List.nodup_nil⟩

def keys (d : Dict κ ν) : List κ := d.entries.map Prod.fst

def values (d : Dict κ ν) : List ν := d.entries.map Prod.snd

def size (d : Dict κ ν) : Nat := d.entries.length

theorem keys_nodup (d : Dict κ ν) : d.keys.Nodup := d.distinct

theorem length_keys (d : Dict κ ν) : d.keys.length = d.size := by
  simp only [keys, size, List.length_map]

variable [DecidableEq κ]

def get? (d : Dict κ ν) (k : κ) : Option ν := Assoc.get? d.entries k

def contains (d : Dict κ ν) (k : κ) : Bool := (d.get? k).isSome

def set (d : Dict κ ν) (k : κ) (v : ν) : Dict κ ν where
  entries := Assoc.set d.entries k v
  distinct := by
    rw [Assoc.keys_set]
    split
    · exact d.distinct
    · next absent =>
        exact List.nodup_append.mpr ⟨d.distinct, List.nodup_singleton k, by
          intro a member b last same
          exact absent (List.mem_singleton.mp last ▸ same ▸ member)⟩

def erase (d : Dict κ ν) (k : κ) : Dict κ ν where
  entries := Assoc.erase d.entries k
  distinct := d.distinct.sublist (List.Sublist.map _ List.filter_sublist)

/-- The same items, in whatever order. -/
def sameItems [DecidableEq ν] (d e : Dict κ ν) : Bool :=
  decide (d.size = e.size) && d.entries.all fun item => e.get? item.1 = some item.2

@[simp] theorem get?_empty (k : κ) : (empty : Dict κ ν).get? k = none := rfl

@[grind =] theorem get?_set (d : Dict κ ν) (k : κ) (v : ν) (k' : κ) :
    (d.set k v).get? k' = if k = k' then some v else d.get? k' :=
  Assoc.get?_set d.entries k v k'

@[grind =] theorem get?_erase (d : Dict κ ν) (k k' : κ) :
    (d.erase k).get? k' = if k = k' then none else d.get? k' :=
  Assoc.get?_erase d.entries k k'

/-- As a function, an assigned dictionary is updated at the key. -/
theorem lookup_set (d : Dict κ ν) (k : κ) (v : ν) :
    (d.set k v).get? = Function.update d.get? k (some v) := by
  funext k'
  rw [get?_set, Function.update_apply]
  simp only [eq_comm]

theorem lookup_erase (d : Dict κ ν) (k : κ) :
    (d.erase k).get? = Function.update d.get? k none := by
  funext k'
  rw [get?_erase, Function.update_apply]
  simp only [eq_comm]

theorem get?_set_ne (d : Dict κ ν) {k k' : κ} (other : k ≠ k') (v : ν) :
    (d.set k v).get? k' = d.get? k' := by
  rw [get?_set, if_neg other]

theorem contains_iff (d : Dict κ ν) (k : κ) : d.contains k = true ↔ k ∈ d.keys :=
  (Assoc.mem_keys_iff d.entries k).symm

theorem contains_eq_false_iff (d : Dict κ ν) (k : κ) :
    d.contains k = false ↔ d.get? k = none := by
  rw [contains, Option.isSome_eq_false_iff, Option.isNone_iff_eq_none]

theorem ne_of_absent {d : Dict κ ν} {k k' : κ} {v : ν} (absent : d.get? k = none)
    (present : d.get? k' = some v) : k ≠ k' := by
  rintro rfl
  rw [absent] at present
  cases present

theorem mem_keys_iff (d : Dict κ ν) (k : κ) : k ∈ d.keys ↔ (d.get? k).isSome :=
  Assoc.mem_keys_iff d.entries k

theorem mem_entries_iff (d : Dict κ ν) (k : κ) (v : ν) :
    (k, v) ∈ d.entries ↔ d.get? k = some v :=
  Assoc.mem_iff_get? d.distinct k v

theorem set_same (d : Dict κ ν) {k : κ} {v : ν} (present : d.get? k = some v) :
    d.set k v = d := by
  cases d
  simp only [set, Dict.mk.injEq]
  exact Assoc.set_same present

theorem erase_set_self (d : Dict κ ν) (k : κ) (v : ν) : (d.set k v).erase k = d.erase k := by
  cases d
  simp only [set, erase, Dict.mk.injEq]
  exact Assoc.erase_set_self _ k v

theorem erase_absent (d : Dict κ ν) {k : κ} (absent : d.get? k = none) : d.erase k = d := by
  cases d
  simp only [erase, Dict.mk.injEq]
  exact Assoc.erase_absent absent

theorem set_set (d : Dict κ ν) (k : κ) (v w : ν) : (d.set k v).set k w = d.set k w := by
  cases d
  simp only [set, Dict.mk.injEq]
  exact Assoc.set_set _ k v w

/-- A new key goes last. -/
theorem entries_set_absent {d : Dict κ ν} {k : κ} (absent : d.get? k = none) (v : ν) :
    (d.set k v).entries = d.entries ++ [(k, v)] := by
  have appended := Assoc.set_append_absent absent v []
  rwa [List.append_nil] at appended

/-- A known key keeps its place. -/
theorem entries_set_present {d : Dict κ ν} {k : κ} {old : ν} (present : d.get? k = some old)
    (v : ν) : ∃ before after, d.entries = before ++ (k, old) :: after ∧
      (d.set k v).entries = before ++ (k, v) :: after := by
  obtain ⟨before, after, split, absent⟩ := Assoc.exists_split present
  refine ⟨before, after, split, ?_⟩
  change Assoc.set d.entries k v = _
  rw [split, Assoc.set_append_absent absent]
  simp only [Assoc.set, if_true]

theorem entries_erase_sublist (d : Dict κ ν) (k : κ) :
    (d.erase k).entries.Sublist d.entries :=
  List.filter_sublist

theorem keys_set (d : Dict κ ν) (k : κ) (v : ν) :
    (d.set k v).keys = if k ∈ d.keys then d.keys else d.keys ++ [k] :=
  Assoc.keys_set d.entries k v

/-- A dictionary grows by one exactly when the assigned key is new. -/
theorem size_set (d : Dict κ ν) (k : κ) (v : ν) :
    (d.set k v).size = if d.contains k then d.size else d.size + 1 := by
  rw [← length_keys, keys_set, ← length_keys]
  by_cases present : k ∈ d.keys
  · rw [if_pos present, if_pos ((contains_iff d k).mpr present)]
  · rw [if_neg present, if_neg (fun held => present ((contains_iff d k).mp held)),
      List.length_append, List.length_singleton]

/-- Dictionaries have the same items when they answer the same at every key. -/
theorem sameItems_iff [DecidableEq ν] (d e : Dict κ ν) :
    d.sameItems e = true ↔ ∀ k, d.get? k = e.get? k := by
  have items : (d.entries.all fun item => e.get? item.1 = some item.2) = true ↔
      ∀ k v, d.get? k = some v → e.get? k = some v := by
    simp only [List.all_eq_true, decide_eq_true_eq, Prod.forall, mem_entries_iff]
  rw [sameItems, Bool.and_eq_true, decide_eq_true_eq, items, ← length_keys, ← length_keys]
  constructor
  · rintro ⟨sizes, within⟩ k
    have listed : d.keys ⊆ e.keys := by
      intro k member
      obtain ⟨v, held⟩ := Option.isSome_iff_exists.mp ((d.mem_keys_iff k).mp member)
      rw [mem_keys_iff, within k v held]
      rfl
    have perm := (d.keys_nodup.subperm listed).perm_of_length_le (Nat.le_of_eq sizes.symm)
    cases held : d.get? k with
    | some v => exact (within k v held).symm
    | none =>
        have absent : k ∉ e.keys := by
          rw [← perm.mem_iff, mem_keys_iff, held]
          exact Bool.false_ne_true
        rw [mem_keys_iff, Option.not_isSome_iff_eq_none] at absent
        exact absent.symm
  · intro same
    refine ⟨?_, fun k v held => same k ▸ held⟩
    refine ((List.perm_ext_iff_of_nodup d.keys_nodup e.keys_nodup).mpr fun k => ?_).length_eq
    rw [mem_keys_iff, mem_keys_iff, same]

/-- The keys, in their order, whose value has a property. -/
def keysWhere (d : Dict κ ν) (holds : ν → Bool) : List κ :=
  d.keys.filter fun k => (d.get? k).any holds

theorem mem_keysWhere {d : Dict κ ν} {holds : ν → Bool} {k : κ} :
    k ∈ d.keysWhere holds ↔ ∃ v, d.get? k = some v ∧ holds v = true := by
  rw [keysWhere, List.mem_filter, mem_keys_iff, Option.any_eq_true]
  constructor
  · exact fun member => member.2
  · rintro ⟨v, held, property⟩
    exact ⟨by rw [held]; rfl, v, held, property⟩

theorem keysWhere_nodup (d : Dict κ ν) (holds : ν → Bool) : (d.keysWhere holds).Nodup :=
  d.keys_nodup.filter _

theorem keysWhere_true (d : Dict κ ν) : (d.keysWhere fun _ => true) = d.keys := by
  refine List.filter_eq_self.mpr fun k member => ?_
  obtain ⟨v, held⟩ := Option.isSome_iff_exists.mp ((mem_keys_iff d k).mp member)
  rw [held]
  rfl

theorem length_keysWhere (d : Dict κ ν) (holds : ν → Bool) :
    (d.keysWhere holds).length = d.entries.countP fun item => holds item.2 := by
  have read : ∀ item ∈ d.entries, (d.get? item.1).any holds = holds item.2 := by
    intro item member
    rw [(d.mem_entries_iff item.1 item.2).mp member, Option.any_some]
  rw [keysWhere, keys, List.filter_map, List.length_map, List.countP_eq_length_filter]
  exact congrArg List.length (List.filter_congr read)

/-- A new key comes last. -/
theorem keysWhere_set_new {d : Dict κ ν} {k : κ} (absent : d.get? k = none) (v : ν)
    (holds : ν → Bool) :
    (d.set k v).keysWhere holds = d.keysWhere holds ++ if holds v then [k] else [] := by
  have unlisted : k ∉ d.keys := by
    rw [mem_keys_iff, absent]
    exact Bool.false_ne_true
  have others : ∀ k' ∈ d.keys, ((d.set k v).get? k').any holds = (d.get? k').any holds := by
    intro k' member
    rw [get?_set_ne _ fun same : k = k' => unlisted (same ▸ member)]
  rw [keysWhere, keys_set, if_neg unlisted, List.filter_append, List.filter_congr others,
    List.filter_singleton, get?_set, if_pos rfl, Option.any_some, cond_eq_ite]
  rfl

/-- A value that keeps the property keeps its place. -/
theorem keysWhere_set_known {d : Dict κ ν} {k : κ} {old v : ν} (held : d.get? k = some old)
    {holds : ν → Bool} (same : holds v = holds old) :
    (d.set k v).keysWhere holds = d.keysWhere holds := by
  have listed : k ∈ d.keys := by
    rw [mem_keys_iff, held]
    rfl
  rw [keysWhere, keys_set, if_pos listed]
  refine List.filter_congr fun k' _ => ?_
  rw [get?_set]
  split
  · next here =>
      subst here
      rw [held, Option.any_some, Option.any_some, same]
  · rfl

/-- Each maps exactly what the other maps back. -/
def Inverse [DecidableEq ν] (d : Dict κ ν) (e : Dict ν κ) : Prop :=
  ∀ k v, d.get? k = some v ↔ e.get? v = some k

namespace Inverse

variable [DecidableEq ν] {d : Dict κ ν} {e : Dict ν κ} {k : κ} {v : ν}

theorem set (inverse : d.Inverse e) (newKey : d.get? k = none) (newValue : e.get? v = none) :
    (d.set k v).Inverse (e.set v k) := by
  intro k' v'
  rw [get?_set, get?_set]
  have back := inverse k' v'
  by_cases sameKey : k = k'
  · subst sameKey
    by_cases sameValue : v = v'
    · simp only [sameValue, if_true]
    · rw [if_pos rfl, if_neg sameValue, ← back, newKey]
      simp only [Option.some.injEq, sameValue, reduceCtorEq]
  · by_cases sameValue : v = v'
    · subst sameValue
      rw [if_neg sameKey, if_pos rfl, back, newValue]
      simp only [Option.some.injEq, sameKey, reduceCtorEq]
    · rw [if_neg sameKey, if_neg sameValue, back]

theorem erase (inverse : d.Inverse e) (known : d.get? k = some v) :
    (d.erase k).Inverse (e.erase v) := by
  intro k' v'
  rw [get?_erase, get?_erase]
  have back := inverse k' v'
  have used := (inverse k v).mp known
  by_cases sameKey : k = k'
  · subst sameKey
    by_cases sameValue : v = v'
    · simp only [sameValue, if_true, reduceCtorEq]
    · rw [if_pos rfl, if_neg sameValue, ← back, known]
      simp only [Option.some.injEq, sameValue, reduceCtorEq]
  · by_cases sameValue : v = v'
    · subst sameValue
      rw [if_neg sameKey, if_pos rfl, back, used]
      simp only [Option.some.injEq, sameKey, reduceCtorEq]
    · rw [if_neg sameKey, if_neg sameValue, back]

end Inverse

end Dict

end IntelliL3.Lib
