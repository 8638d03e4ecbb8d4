import Mathlib.Data.List.Dedup
import Mathlib.Data.Set.Function
import IntelliL3.Lib.Dict
import IntelliL3.Lib.Recent

/-! # Least recently used

What a bounded cache holds when it forgets the least recently used of its items: the last
of the distinct items it was used for. An item is used by putting it behind the others, and
then the oldest items go that do not fit.
-/

namespace IntelliL3.Lib

namespace LeastRecent

variable {α : Type} [DecidableEq α]

/-- The `n` distinct items used last, the last one last. -/
def recent (n : Nat) (uses : List α) : List α := uses.dedup.rtake n

/-- What using an item makes of the items that are held. -/
def use (n : Nat) (held : List α) (item : α) : List α := (held.erase item ++ [item]).rtake n

theorem dedup_concat (uses : List α) (item : α) :
    (uses ++ [item]).dedup = uses.dedup.erase item ++ [item] := by
  induction uses with
  | nil => rfl
  | cons first rest ih =>
      by_cases again : first ∈ rest
      · rw [List.cons_append, List.dedup_cons_of_mem (List.mem_append_left _ again), ih,
          List.dedup_cons_of_mem again]
      · rw [List.cons_append, List.dedup_cons_of_notMem again]
        by_cases same : first = item
        · subst same
          have fresh : first ∉ rest.dedup := fun member => again (List.mem_dedup.mp member)
          rw [List.dedup_cons_of_mem (List.mem_append_right _ List.mem_cons_self), ih,
            List.erase_of_not_mem fresh, List.erase_cons_head]
        · rw [List.dedup_cons_of_notMem (by simp [same, again]), ih,
            List.erase_cons_tail (by simpa using same), List.cons_append]

@[simp] theorem recent_nil (n : Nat) : recent n ([] : List α) = [] := List.rtake_nil n

theorem length_recent (n : Nat) (uses : List α) :
    (recent n uses).length = min n uses.dedup.length := by
  rw [recent, List.rtake, List.length_drop]
  omega

theorem mem_of_mem_recent {n : Nat} {uses : List α} {item : α} (held : item ∈ recent n uses) :
    item ∈ uses :=
  List.mem_dedup.mp (List.mem_of_mem_drop held)

theorem mem_of_mem_use {n : Nat} {held : List α} {item other : α}
    (member : other ∈ use n held item) : other ∈ held ∨ other = item := by
  rcases List.mem_append.mp (List.mem_of_mem_drop member) with before | last
  · exact Or.inl (List.mem_of_mem_erase before)
  · exact Or.inr (List.mem_singleton.mp last)

/-- The items used last are used up one by one. -/
theorem recent_concat (n : Nat) (uses : List α) (item : α) :
    recent n (uses ++ [item]) = use n (recent n uses) item := by
  rw [recent, dedup_concat, use]
  by_cases few : uses.dedup.length ≤ n
  · have all : recent n uses = uses.dedup := by
      rw [recent, List.rtake, Nat.sub_eq_zero_of_le few, List.drop_zero]
    rw [all]
  · have split : uses.dedup = uses.dedup.rdrop n ++ recent n uses :=
      (List.take_append_drop _ _).symm
    have distinct := List.nodup_dedup uses
    have room : n ≤ ((recent n uses).erase item ++ [item]).length := by
      have held := length_recent n uses
      rw [List.length_append, List.length_erase, List.length_singleton]
      split <;> omega
    -- the items that are no longer held lie too far back to matter
    rw [split, List.erase_append]
    split
    · next forgotten =>
        have unheld : item ∉ recent n uses := by
          rw [split] at distinct
          exact List.disjoint_of_nodup_append distinct forgotten
        rw [List.append_assoc]
        rw [List.erase_of_not_mem unheld] at room ⊢
        exact rtake_append_of_le room _
    · rw [List.append_assoc]
      exact rtake_append_of_le room _

/-- An item that is held goes behind the others. -/
theorem use_held {n : Nat} {held : List α} {item : α} (member : item ∈ held)
    (fits : held.length ≤ n) : use n held item = held.erase item ++ [item] := by
  have length : (held.erase item ++ [item]).length ≤ n := by
    rw [List.length_append, List.length_erase_of_mem member, List.length_singleton]
    have := List.length_pos_of_mem member
    omega
  rw [use, List.rtake, Nat.sub_eq_zero_of_le length, List.drop_zero]

/-- A new item drops the oldest one when there is no room. -/
theorem use_new {n : Nat} {held : List α} {item : α} (absent : item ∉ held) :
    use n held item = appendRecent n held item := by
  rw [use, List.erase_of_not_mem absent, appendRecent]

end LeastRecent

/-- Names that are apart let the names be erased. -/
theorem map_erase_of_injOn {α β : Type} [DecidableEq α] [DecidableEq β] {name : α → β}
    {items : List α} {item : α} (apart : Set.InjOn name {i | i ∈ item :: items}) :
    (items.erase item).map name = (items.map name).erase (name item) := by
  induction items with
  | nil => rfl
  | cons first rest ih =>
      have names : name first = name item ↔ first = item :=
        apart.eq_iff (List.mem_cons_of_mem _ List.mem_cons_self) List.mem_cons_self
      by_cases same : first = item
      · rw [List.map_cons, same, List.erase_cons_head, List.erase_cons_head]
      · have later := ih (apart.mono fun i member => by
          rcases List.mem_cons.mp member with rfl | member
          · exact List.mem_cons_self
          · exact List.mem_cons_of_mem _ (List.mem_cons_of_mem _ member))
        rw [List.erase_cons_tail (by simpa using same), List.map_cons, List.map_cons, later,
          List.erase_cons_tail (by simpa using fun equal => same (names.mp equal))]

/-! ## Ordered dictionaries -/

section

variable {κ ν α : Type}

/-- `while len(items) > n: items.popitem(last=False)` -/
def dropOldest (n : Nat) : List α → List α
  | [] => []
  | first :: rest => if n < (first :: rest).length then dropOldest n rest else first :: rest

theorem dropOldest_eq_rtake (n : Nat) (items : List α) : dropOldest n items = items.rtake n := by
  induction items with
  | nil => rw [List.rtake_nil]; rfl
  | cons first rest ih =>
      rw [dropOldest]
      split
      · next full => rw [ih, ← rtake_append_of_le (Nat.le_of_lt_succ full) [first]]; rfl
      · next fits =>
          rw [List.rtake, Nat.sub_eq_zero_of_le (Nat.le_of_not_lt fits), List.drop_zero]

namespace Dict

/-- The rows that fit, the oldest ones being dropped. -/
def keepNewest (n : Nat) (d : Dict κ ν) : Dict κ ν where
  entries := dropOldest n d.entries
  distinct := by
    rw [dropOldest_eq_rtake]
    exact d.distinct.sublist ((List.drop_sublist _ _).map _)

theorem keys_keepNewest (n : Nat) (d : Dict κ ν) : (d.keepNewest n).keys = d.keys.rtake n := by
  change (dropOldest n d.entries).map Prod.fst = d.keys.rtake n
  rw [dropOldest_eq_rtake, List.rtake, List.rtake, List.map_drop, keys, List.length_map]

variable [DecidableEq κ]

/-- `OrderedDict.move_to_end(k)` -/
def moveToEnd (d : Dict κ ν) (k : κ) : Dict κ ν :=
  match d.get? k with
  | none => d
  | some v => (d.erase k).set k v

/-- A row that is kept is not changed. -/
theorem get?_keepNewest {n : Nat} {d : Dict κ ν} {k : κ} (kept : k ∈ (d.keepNewest n).keys) :
    (d.keepNewest n).get? k = d.get? k := by
  obtain ⟨v, held⟩ := Option.isSome_iff_exists.mp (((d.keepNewest n).mem_keys_iff k).mp kept)
  have member := ((d.keepNewest n).mem_entries_iff k v).mpr held
  change (k, v) ∈ dropOldest n d.entries at member
  rw [dropOldest_eq_rtake] at member
  rw [held, (d.mem_entries_iff k v).mp (List.mem_of_mem_drop member)]

theorem keys_erase (d : Dict κ ν) (k : κ) : (d.erase k).keys = d.keys.erase k := by
  rw [d.keys_nodup.erase_eq_filter]
  change (d.entries.filter fun row => row.1 ≠ k).map Prod.fst = _
  rw [keys, List.filter_map]
  refine congrArg (List.map Prod.fst) (List.filter_congr fun row _ => ?_)
  change decide (row.1 ≠ k) = (row.1 != k)
  by_cases same : row.1 = k <;> simp [same]

theorem get?_moveToEnd (d : Dict κ ν) (k k' : κ) : (d.moveToEnd k).get? k' = d.get? k' := by
  unfold moveToEnd
  cases held : d.get? k with
  | none => rfl
  | some v =>
      rw [get?_set, get?_erase]
      split
      · next same => rw [← same, held]
      · rfl

theorem keys_moveToEnd {d : Dict κ ν} {k : κ} (member : k ∈ d.keys) :
    (d.moveToEnd k).keys = d.keys.erase k ++ [k] := by
  obtain ⟨v, held⟩ := Option.isSome_iff_exists.mp ((d.mem_keys_iff k).mp member)
  have gone : k ∉ (d.erase k).keys := by
    rw [keys_erase]
    exact d.keys_nodup.not_mem_erase
  rw [moveToEnd, held]
  change ((d.erase k).set k v).keys = _
  rw [keys_set, if_neg gone, keys_erase]

end Dict

end

end IntelliL3.Lib
