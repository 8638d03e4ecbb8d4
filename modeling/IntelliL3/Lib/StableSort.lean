import Mathlib.Data.List.MinMax
import Mathlib.Data.List.Sort

/-! # The head of a stable sort

Sorting by a key keeps items with one key in the order they came, so the head is
the first item whose key is least.
-/

namespace IntelliL3.Lib

variable {α β κ : Type*} [LinearOrder κ]

/-- `items.sort(key=key)` -/
def sortBy (key : α → κ) (items : List α) : List α :=
  items.insertionSort fun a b => key a ≤ key b

/-- No item has a smaller key, and none that comes earlier has the same key. -/
def FirstLeast (key : α → κ) (items : List α) (item : α) : Prop :=
  ∃ before after, items = before ++ item :: after ∧
    (∀ a ∈ before, key item < key a) ∧ ∀ a ∈ after, key item ≤ key a

namespace FirstLeast

variable {key : α → κ} {items : List α} {item : α}

theorem mem (first : FirstLeast key items item) : item ∈ items := by
  obtain ⟨before, after, rfl, -⟩ := first
  exact List.mem_append_right before List.mem_cons_self

theorem le (first : FirstLeast key items item) {a : α} (member : a ∈ items) :
    key item ≤ key a := by
  obtain ⟨before, after, rfl, earlier, later⟩ := first
  rcases List.mem_append.mp member with early | late
  · exact (earlier a early).le
  · rcases List.mem_cons.mp late with rfl | late
    · exact le_rfl
    · exact later a late

theorem cons_iff {a : α} : FirstLeast key (a :: items) item ↔
    (item = a ∧ ∀ b ∈ items, key a ≤ key b) ∨ (FirstLeast key items item ∧ key item < key a) := by
  constructor
  · rintro ⟨before, after, split, earlier, later⟩
    cases before with
    | nil =>
        obtain ⟨rfl, rfl⟩ := List.cons.inj split
        exact .inl ⟨rfl, later⟩
    | cons b before =>
        obtain ⟨rfl, rfl⟩ := List.cons.inj split
        refine .inr ⟨⟨before, after, rfl, fun b early => ?_, later⟩, earlier a List.mem_cons_self⟩
        exact earlier b (List.mem_cons_of_mem a early)
  · rintro (⟨rfl, least⟩ | ⟨⟨before, after, rfl, earlier, later⟩, below⟩)
    · exact ⟨[], items, rfl, List.forall_mem_nil _, least⟩
    · refine ⟨a :: before, after, rfl, fun b early => ?_, later⟩
      rcases List.mem_cons.mp early with rfl | early
      · exact below
      · exact earlier b early

end FirstLeast

/-- At this place the key is least, and at no earlier place it is the same. The key may
    depend on the place. -/
structure FirstLeastAt (key : Nat → α → κ) (items : List α) (place : Nat) (item : α) : Prop where
  found : items[place]? = some item
  least : ∀ other b, items[other]? = some b → key place item ≤ key other b
  first : ∀ other b, other < place → items[other]? = some b → key place item < key other b

theorem FirstLeast.zipIdx {key : Nat → α → κ} {items : List α} {place : Nat} {item : α}
    (first : FirstLeast (fun row => key row.2 row.1) items.zipIdx (item, place)) :
    FirstLeastAt key items place item := by
  have row : ∀ other : Nat, items.zipIdx[other]? = items[other]?.map fun b => (b, other) := by
    intro other
    rw [List.getElem?_zipIdx, Nat.zero_add]
  refine ⟨List.mk_mem_zipIdx_iff_getElem?.mp first.mem, fun other b found =>
    first.le (List.mk_mem_zipIdx_iff_getElem?.mpr found), fun other b earlier found => ?_⟩
  obtain ⟨before, after, split, smaller, -⟩ := first
  have here : items.zipIdx[before.length]? = some (item, place) := by
    rw [split, List.getElem?_append_right le_rfl, Nat.sub_self, List.getElem?_cons_zero]
  rw [row, Option.map_eq_some_iff] at here
  obtain ⟨_, -, same⟩ := here
  obtain rfl : before.length = place := congrArg Prod.snd same
  have shown : items.zipIdx[other]? = some (b, other) := by rw [row, found, Option.map_some]
  rw [split, List.getElem?_append_left earlier] at shown
  exact smaller (b, other) (List.mem_of_getElem? shown)

/-- The first item with the least key has a property exactly when some item that has it is
    ahead of all that do not: by a smaller key, or by the same key and an earlier place. -/
theorem FirstLeastAt.iff_ahead {key : Nat → α → κ} {items : List α} {place : Nat} {item : α}
    {P : α → Prop} (first : FirstLeastAt key items place item) :
    P item ↔ ∃ i a, items[i]? = some a ∧ P a ∧ ∀ j b, items[j]? = some b → ¬ P b →
      key i a ≤ key j b ∧ (j < i → key i a ≠ key j b) := by
  constructor
  · intro has
    exact ⟨place, item, first.found, has, fun j b found _ =>
      ⟨first.least j b found, fun earlier => (first.first j b earlier found).ne⟩⟩
  · rintro ⟨i, a, found, has, ahead⟩
    by_contra lacks
    obtain ⟨le, apart⟩ := ahead place item first.found lacks
    have same : key i a = key place item := le.antisymm (first.least i a found)
    rcases lt_trichotomy i place with before | rfl | after
    · exact (first.first i a before found).ne same.symm
    · exact lacks (Option.some.inj (found.symm.trans first.found) ▸ has)
    · exact apart after same

theorem argmin_eq_some_iff_firstLeast {key : α → κ} {items : List α} {item : α} :
    items.argmin key = some item ↔ FirstLeast key items item := by
  induction items generalizing item with
  | nil =>
      refine iff_of_false (by simp) fun first => ?_
      cases first.mem
  | cons a rest ih =>
      rw [List.argmin_cons, FirstLeast.cons_iff, ← ih]
      cases least : rest.argmin key with
      | none =>
          have empty : rest = [] := List.argmin_eq_none.mp least
          subst empty
          simp [eq_comm]
      | some b =>
          have first := ih.mp least
          by_cases below : key b < key a
          · have notHead : ¬ ∀ c ∈ rest, key a ≤ key c :=
              fun all => absurd below (all b first.mem).not_gt
            grind
          · have head : ∀ c ∈ rest, key a ≤ key c :=
              fun c member => (not_lt.mp below).trans (first.le member)
            grind

theorem head?_orderedInsert (r : α → α → Prop) [DecidableRel r] (a : α) (items : List α) :
    (items.orderedInsert r a).head? =
      some (items.head?.elim a fun b => if r a b then a else b) := by
  cases items with
  | nil => rfl
  | cons b rest =>
      rw [List.orderedInsert_cons]
      split <;> simp_all

theorem head?_sortBy (key : α → κ) (items : List α) :
    (sortBy key items).head? = items.argmin key := by
  induction items with
  | nil => rfl
  | cons a rest ih =>
      rw [sortBy, List.insertionSort_cons, head?_orderedInsert, ← sortBy, ih, List.argmin_cons]
      cases rest.argmin key with
      | none => rfl
      | some b =>
          simp only [Option.elim_some]
          grind

/-- What `sort` puts first. -/
theorem head?_sortBy_eq_some_iff {key : α → κ} {items : List α} {item : α} :
    (sortBy key items).head? = some item ↔ FirstLeast key items item := by
  rw [head?_sortBy, argmin_eq_some_iff_firstLeast]

theorem head?_sortBy_eq_none_iff {key : α → κ} {items : List α} :
    (sortBy key items).head? = none ↔ items = [] := by
  rw [head?_sortBy, List.argmin_eq_none]

/-- What `sort` puts last has the greatest key. -/
theorem getLast?_sortBy {key : α → κ} {items : List α} {item : α}
    (last : (sortBy key items).getLast? = some item) :
    item ∈ items ∧ ∀ a ∈ items, key a ≤ key item := by
  have total : Std.Total fun a b => key a ≤ key b := ⟨fun a b => le_total (key a) (key b)⟩
  have transitive : IsTrans α fun a b => key a ≤ key b := ⟨fun _ _ _ => le_trans⟩
  have sorted := List.pairwise_insertionSort (fun a b => key a ≤ key b) items
  obtain ⟨before, split⟩ := List.getLast?_eq_some_iff.mp last
  rw [sortBy] at split
  rw [split, List.pairwise_append] at sorted
  have member {a : α} : a ∈ items ↔ a ∈ before ++ [item] := by
    rw [← split, List.mem_insertionSort]
  refine ⟨member.mpr (by simp), fun a listed => ?_⟩
  rcases List.mem_append.mp (member.mp listed) with early | here
  · exact sorted.2.2 a early item List.mem_cons_self
  · exact (List.mem_singleton.mp here ▸ le_rfl)

/-- Sorting rows by a key of what they were made from. -/
theorem head?_sortBy_map (key : β → κ) (f : α → β) (items : List α) :
    (sortBy key (items.map f)).head? = (sortBy (key ∘ f) items).head?.map f := by
  rw [sortBy, sortBy, ← List.map_insertionSort (fun a b => (key ∘ f) a ≤ (key ∘ f) b)
    (fun a b => key a ≤ key b) f items fun a _ b _ => Iff.rfl, List.head?_map]

end IntelliL3.Lib
