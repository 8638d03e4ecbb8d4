import Mathlib.Data.List.Dedup
import Mathlib.Data.List.Forall2
import Mathlib.Data.List.Induction
import IntelliL3.Lib.Dict

/-! # Items by key

Dictionaries made from a list of items: the item of each key, or all items with one key, in
the order they came.
-/

namespace IntelliL3.Lib.Dict

variable {α κ : Type} [DecidableEq κ] {key : α → κ} {items : List α}

/-- `{key(a): a for a in items}` -/
def indexBy (key : α → κ) (items : List α) : Dict κ α :=
  items.foldl (fun rows a => rows.set (key a) a) empty

theorem get?_indexBy (distinct : (items.map key).Nodup) {a : α} (member : a ∈ items) :
    (indexBy key items).get? (key a) = some a := by
  induction items using List.reverseRecOn with
  | nil => cases member
  | append_singleton items last ih =>
      rw [List.map_append, List.nodup_append] at distinct
      rw [indexBy, List.foldl_append, ← indexBy, List.foldl_cons, List.foldl_nil, get?_set]
      rcases List.mem_append.mp member with early | here
      · have other : key last ≠ key a := fun same =>
          distinct.2.2 (key a) (List.mem_map_of_mem early) (key last) (by simp) same.symm
        rw [if_neg other, ih distinct.1 early]
      · rw [List.mem_singleton.mp here, if_pos rfl]

/-- `groups.setdefault(key(a), []).append(a)`, for each item in turn. -/
def groupBy (key : α → κ) (items : List α) : Dict κ (List α) :=
  items.foldl (fun groups a => groups.set (key a) ((groups.get? (key a)).getD [] ++ [a])) empty

theorem groupBy_concat (key : α → κ) (items : List α) (a : α) : groupBy key (items ++ [a]) =
    (groupBy key items).set (key a) (((groupBy key items).get? (key a)).getD [] ++ [a]) := by
  rw [groupBy, List.foldl_append]
  rfl

theorem getD_groupBy (key : α → κ) (items : List α) (k : κ) :
    ((groupBy key items).get? k).getD [] = items.filter (key · = k) := by
  induction items using List.reverseRecOn with
  | nil => rfl
  | append_singleton items a ih =>
      rw [groupBy_concat, get?_set, List.filter_append]
      split
      · next same =>
          subst same
          simp [ih]
      · next other => simp [ih, other]

theorem mem_keys_groupBy {k : κ} : k ∈ (groupBy key items).keys ↔ ∃ a ∈ items, key a = k := by
  induction items using List.reverseRecOn with
  | nil => simp [groupBy, keys, empty]
  | append_singleton items a ih =>
      rw [groupBy_concat, mem_keys_iff, get?_set]
      rw [mem_keys_iff] at ih
      split
      · next same => simp [same]
      · next other => simp [ih, other]

theorem get?_groupBy_eq_some_iff {k : κ} {group : List α} :
    (groupBy key items).get? k = some group ↔
      group = items.filter (key · = k) ∧ ∃ a ∈ items, key a = k := by
  rw [← getD_groupBy, ← mem_keys_groupBy, mem_keys_iff]
  cases (groupBy key items).get? k <;> simp [eq_comm]

theorem mem_values_groupBy {group : List α} : group ∈ (groupBy key items).values ↔
    ∃ a ∈ items, group = items.filter (key · = key a) := by
  have row : group ∈ (groupBy key items).values ↔ ∃ k, (groupBy key items).get? k = some group := by
    simp only [values, List.mem_map, Prod.exists, mem_entries_iff, exists_eq_right]
  rw [row]
  constructor
  · rintro ⟨k, found⟩
    obtain ⟨rfl, a, member, rfl⟩ := get?_groupBy_eq_some_iff.mp found
    exact ⟨a, member, rfl⟩
  · rintro ⟨a, member, rfl⟩
    exact ⟨key a, get?_groupBy_eq_some_iff.mpr ⟨rfl, a, member, rfl⟩⟩

/-- There are as many groups as keys. -/
theorem keys_groupBy_perm : (groupBy key items).keys.Perm (items.map key).dedup := by
  refine (List.perm_ext_iff_of_nodup (keys_nodup _) (List.nodup_dedup _)).mpr fun k => ?_
  rw [mem_keys_groupBy, List.mem_dedup, List.mem_map]

/-- One item out of each group: their keys are those of the groups. -/
theorem map_key_eq_keys {chosen : List α}
    (each : List.Forall₂ (fun group a => a ∈ group) (groupBy key items).values chosen) :
    chosen.map key = (groupBy key items).keys := by
  rw [values, List.forall₂_map_left_iff] at each
  have listed := (List.forall₂_and_left (p := (· ∈ (groupBy key items).entries)) _ _).mpr
    ⟨fun _ member => member, each⟩
  have rows : List.Forall₂ (fun row a => key a = row.1) (groupBy key items).entries chosen := by
    refine listed.imp fun row a ⟨member, inside⟩ => ?_
    have found := (mem_entries_iff _ row.1 row.2).mp member
    obtain ⟨group, -⟩ := get?_groupBy_eq_some_iff.mp found
    rw [group, List.mem_filter, decide_eq_true_iff] at inside
    exact inside.2
  have same : List.Forall₂ (· = ·) (chosen.map key) (groupBy key items).keys :=
    List.forall₂_map_left_iff.mpr (List.forall₂_map_right_iff.mpr rows.flip)
  rwa [List.forall₂_eq_eq_eq] at same

end IntelliL3.Lib.Dict
