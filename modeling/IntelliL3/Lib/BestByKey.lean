import Mathlib.Data.List.Dedup
import Mathlib.Data.List.Sort
import Mathlib.Order.Lattice
import IntelliL3.Lib.Dict

/-! # The best item of each key

Of the items with one key the first with the highest score is kept. The items that are
kept are sorted by falling score and cut off: what remains are the best keys, each with the
highest score any of its items has.
-/

namespace IntelliL3.Lib

variable {α κ T : Type} [DecidableEq κ] [LinearOrder T]

/-- Keep an item unless one of its key has as high a score. -/
def keepBest (key : α → κ) (score : α → T) (best : Dict κ α) (item : α) : Dict κ α :=
  match best.get? (key item) with
  | none => best.set (key item) item
  | some current =>
      if score current < score item then best.set (key item) item else best

/-- The first item with the highest score of each key. -/
def bestByKey (key : α → κ) (score : α → T) (items : List α) : Dict κ α :=
  items.foldl (keepBest key score) .empty

/-- `sorted(items, key=score, reverse=True)`: items of one score keep their order. -/
def sortDescending (score : α → T) (items : List α) : List α :=
  items.insertionSort fun a b => score b ≤ score a

/-- Items of the keys with the highest scores, `n` of them while there are as many keys,
    each with the highest score of its key. -/
structure BestOf (key : α → κ) (score : α → T) (n : Nat) (items chosen : List α) : Prop where
  among : ∀ c ∈ chosen, c ∈ items
  distinct : (chosen.map key).Nodup
  descending : chosen.Pairwise fun a b => score b ≤ score a
  count : chosen.length = min n (items.map key).dedup.length
  highest : ∀ c ∈ chosen, ∀ item ∈ items, key item = key c → score item ≤ score c
  others : ∀ item ∈ items, key item ∉ chosen.map key → ∀ c ∈ chosen, score item ≤ score c

variable {key : α → κ} {score : α → T}

/-! ## Keeping the best -/

/-- The dictionary holds the best of these items for each of their keys. -/
structure KeepsBest (key : α → κ) (score : α → T) (items : List α) (best : Dict κ α) :
    Prop where
  held : ∀ k c, best.get? k = some c →
    c ∈ items ∧ key c = k ∧ ∀ item ∈ items, key item = k → score item ≤ score c
  covers : ∀ item ∈ items, (best.get? (key item)).isSome

namespace KeepsBest

variable {items : List α} {best : Dict κ α}

theorem empty : KeepsBest key score [] .empty where
  held _ _ found := by cases found
  covers _ member := absurd member List.not_mem_nil

/-- An item takes the place of its key. -/
theorem replace (keeps : KeepsBest key score items best) {item : α}
    (higher : ∀ c, best.get? (key item) = some c → score c ≤ score item) :
    KeepsBest key score (items ++ [item]) (best.set (key item) item) where
  held k c found := by
    rw [Dict.get?_set] at found
    split at found
    · next same =>
        cases found
        refine ⟨List.mem_append_right _ List.mem_cons_self, same, fun other member owns => ?_⟩
        rcases List.mem_append.mp member with before | last
        · obtain ⟨c, current⟩ := Option.isSome_iff_exists.mp (keeps.covers other before)
          rw [owns, ← same] at current
          obtain ⟨-, -, highest⟩ := keeps.held _ c current
          exact (highest other before (owns.trans same.symm)).trans (higher c current)
        · rw [List.mem_singleton.mp last]
    · next other =>
        obtain ⟨member, owns, highest⟩ := keeps.held k c found
        refine ⟨List.mem_append_left _ member, owns, fun later added same => ?_⟩
        rcases List.mem_append.mp added with before | last
        · exact highest later before same
        · rw [List.mem_singleton.mp last] at same
          exact absurd same other
  covers other member := by
    rw [Dict.get?_set]
    split
    · rfl
    · next apart =>
        rcases List.mem_append.mp member with before | last
        · exact keeps.covers other before
        · exact absurd (congrArg key (List.mem_singleton.mp last).symm) apart

/-- An item that is no better than the one held changes nothing. -/
theorem keep (keeps : KeepsBest key score items best) {item current : α}
    (found : best.get? (key item) = some current) (lower : score item ≤ score current) :
    KeepsBest key score (items ++ [item]) best where
  held k c there := by
    obtain ⟨member, owns, highest⟩ := keeps.held k c there
    refine ⟨List.mem_append_left _ member, owns, fun other added same => ?_⟩
    rcases List.mem_append.mp added with before | last
    · exact highest other before same
    · rw [List.mem_singleton.mp last] at same ⊢
      rw [← same, found] at there
      cases there
      exact lower
  covers other member := by
    rcases List.mem_append.mp member with before | last
    · exact keeps.covers other before
    · rw [List.mem_singleton.mp last, found]
      rfl

theorem keepBest (keeps : KeepsBest key score items best) (item : α) :
    KeepsBest key score (items ++ [item]) (Lib.keepBest key score best item) := by
  unfold Lib.keepBest
  cases found : best.get? (key item) with
  | none =>
      refine keeps.replace fun c there => ?_
      rw [found] at there
      cases there
  | some current =>
      simp only
      split
      · next higher =>
          refine keeps.replace fun c there => ?_
          cases found.symm.trans there
          exact higher.le
      · next lower => exact keeps.keep found (not_lt.mp lower)

theorem foldl (keeps : KeepsBest key score items best) (more : List α) :
    KeepsBest key score (items ++ more) (more.foldl (Lib.keepBest key score) best) := by
  induction more generalizing items best with
  | nil => rwa [List.append_nil]
  | cons item rest ih =>
      have next := ih (keeps.keepBest item)
      rwa [List.append_assoc] at next

theorem bestByKey (key : α → κ) (score : α → T) (items : List α) :
    KeepsBest key score items (Lib.bestByKey key score items) :=
  empty.foldl items

/-! ## The values that are kept -/

theorem values_map_key (keeps : KeepsBest key score items best) :
    best.values.map key = best.keys := by
  rw [Dict.values, Dict.keys, List.map_map]
  refine List.map_congr_left fun row member => ?_
  exact (keeps.held row.1 row.2 ((best.mem_entries_iff _ _).mp member)).2.1

theorem mem_values (keeps : KeepsBest key score items best) {c : α} :
    c ∈ best.values ↔ best.get? (key c) = some c := by
  rw [Dict.values, List.mem_map]
  constructor
  · rintro ⟨row, member, rfl⟩
    have found := (best.mem_entries_iff row.1 row.2).mp member
    rw [(keeps.held row.1 row.2 found).2.1]
    exact found
  · exact fun found => ⟨(key c, c), (best.mem_entries_iff _ _).mpr found, rfl⟩

/-- There is one value for each key of the items. -/
theorem length_values (keeps : KeepsBest key score items best) :
    best.values.length = (items.map key).dedup.length := by
  have same : best.values.length = best.keys.length := by
    rw [← keeps.values_map_key, List.length_map]
  rw [same]
  refine List.Perm.length_eq
    ((List.perm_ext_iff_of_nodup best.keys_nodup (List.nodup_dedup _)).mpr fun k => ?_)
  rw [List.mem_dedup, List.mem_map, Dict.mem_keys_iff]
  constructor
  · intro held
    obtain ⟨c, found⟩ := Option.isSome_iff_exists.mp held
    obtain ⟨member, owns, -⟩ := keeps.held k c found
    exact ⟨c, member, owns⟩
  · rintro ⟨item, member, rfl⟩
    exact keeps.covers item member

end KeepsBest

/-! ## The first of the sorted -/

theorem sortDescending_perm (score : α → T) (items : List α) :
    (sortDescending score items).Perm items :=
  List.perm_insertionSort _ _

theorem sortDescending_pairwise (score : α → T) (items : List α) :
    (sortDescending score items).Pairwise fun a b => score b ≤ score a := by
  have total : Std.Total fun a b : α => score b ≤ score a := ⟨fun a b => le_total _ _⟩
  have trans : IsTrans α fun a b => score b ≤ score a := ⟨fun _ _ _ ab bc => bc.trans ab⟩
  exact List.pairwise_insertionSort _ _

theorem score_le_of_dropped {items : List α} (n : Nat)
    (descending : items.Pairwise fun a b => score b ≤ score a) {a c : α} (member : a ∈ items)
    (dropped : a ∉ items.take n) (kept : c ∈ items.take n) : score a ≤ score c := by
  rw [← List.take_append_drop n items] at descending member
  rcases List.mem_append.mp member with early | late
  · exact absurd early dropped
  · exact (List.pairwise_append.mp descending).2.2 c kept a late

/-- Keeping the best of each key, sorting and cutting off selects the best keys. -/
theorem bestOf_take (key : α → κ) (score : α → T) (n : Nat) (items : List α) :
    BestOf key score n items
      ((sortDescending score (bestByKey key score items).values).take n) := by
  have keeps := KeepsBest.bestByKey key score items
  have perm := sortDescending_perm score (bestByKey key score items).values
  have descending := sortDescending_pairwise score (bestByKey key score items).values
  have held : ∀ {c}, c ∈ (sortDescending score (bestByKey key score items).values).take n →
      (bestByKey key score items).get? (key c) = some c := fun member =>
    keeps.mem_values.mp (perm.mem_iff.mp (List.mem_of_mem_take member))
  refine ⟨fun c member => (keeps.held _ c (held member)).1, ?_,
    descending.sublist (List.take_sublist _ _), ?_,
    fun c member => (keeps.held _ c (held member)).2.2, fun item member missing c kept => ?_⟩
  · have distinct := (bestByKey key score items).keys_nodup
    rw [← keeps.values_map_key, ← (perm.map key).nodup_iff] at distinct
    exact distinct.sublist ((List.take_sublist _ _).map key)
  · rw [List.length_take, perm.length_eq, keeps.length_values]
  · obtain ⟨best, found⟩ := Option.isSome_iff_exists.mp (keeps.covers item member)
    obtain ⟨-, owns, highest⟩ := keeps.held _ best found
    have there : best ∈ sortDescending score (bestByKey key score items).values := by
      rw [perm.mem_iff, keeps.mem_values, owns]
      exact found
    refine (highest item member rfl).trans (score_le_of_dropped n descending there ?_ kept)
    exact fun chosen => missing (List.mem_map.mpr ⟨best, chosen, owns⟩)

end IntelliL3.Lib
