import IntelliL3.Lib.LeastRecent
import IntelliL3.Lib.Numbered

/-! # When a least recently used cache hits

An item is still held when fewer distinct items were used since than the cache has room for. So a
larger cache hits wherever a smaller one does, the misses are the evictions and what is held at
the end, and a round of more items than fit never hits.
-/

namespace IntelliL3.Lib

namespace LeastRecent

variable {α : Type} [DecidableEq α] {n m : Nat} {item : α}

/-! ## Distance -/

omit [DecidableEq α] in
theorem mem_rtake_iff {before after : List α} (distinct : (before ++ item :: after).Nodup) :
    item ∈ (before ++ item :: after).rtake n ↔ after.length < n := by
  have absent : item ∉ after := (List.nodup_cons.mp distinct.of_append_right).1
  constructor
  · intro held
    by_contra far
    rw [show before ++ item :: after = (before ++ [item]) ++ after by simp,
      rtake_append_of_le (Nat.le_of_not_lt far)] at held
    exact absent (List.mem_of_mem_drop held)
  · intro near
    rw [List.rtake, List.drop_append, List.mem_append]
    right
    have place : (before ++ item :: after).length - n - before.length = 0 := by
      rw [List.length_append, List.length_cons]
      omega
    rw [place]
    exact List.mem_cons_self

/-- Only the last use of an item counts. -/
theorem dedup_last (before : List α) {after : List α} (last : item ∉ after) :
    ∃ older, (before ++ item :: after).dedup = older ++ item :: after.dedup := by
  induction before with
  | nil => exact ⟨[], List.dedup_cons_of_notMem last⟩
  | cons first rest ih =>
      obtain ⟨older, split⟩ := ih
      rw [List.cons_append]
      by_cases again : first ∈ rest ++ item :: after
      · exact ⟨older, by rw [List.dedup_cons_of_mem again, split]⟩
      · exact ⟨first :: older, by rw [List.dedup_cons_of_notMem again, split, List.cons_append]⟩

/-- An item is held exactly when fewer distinct items were used since. -/
theorem mem_recent_iff_distance (before : List α) {after : List α} (last : item ∉ after) :
    item ∈ recent n (before ++ item :: after) ↔ after.dedup.length < n := by
  obtain ⟨older, split⟩ := dedup_last before last
  have distinct := List.nodup_dedup (before ++ item :: after)
  rw [recent, split] at *
  exact mem_rtake_iff distinct

omit [DecidableEq α] in
theorem exists_last_use {uses : List α} (used : item ∈ uses) :
    ∃ before after, uses = before ++ item :: after ∧ item ∉ after := by
  obtain ⟨after, before, split, last⟩ := List.eq_append_cons_of_mem (List.mem_reverse.mpr used)
  refine ⟨before.reverse, after.reverse, ?_, fun again => last (List.mem_reverse.mp again)⟩
  rw [← List.reverse_reverse uses, split]
  simp

/-- Of the items that pass, the first one in the order of last use was used longest ago. -/
theorem find?_dedup {uses : List α} {p : α → Bool} (first : uses.dedup.find? p = some item) :
    ∃ before since, uses = before ++ item :: since ∧ item ∉ since ∧
      ∀ other ∈ uses, p other → other = item ∨ other ∈ since := by
  obtain ⟨-, older, newer, split, skipped⟩ := List.find?_eq_some_iff_append.mp first
  have used : item ∈ uses := by
    rw [← List.mem_dedup, split]
    exact List.mem_append_right older List.mem_cons_self
  obtain ⟨before, since, rfl, last⟩ := exists_last_use used
  obtain ⟨older', place⟩ := dedup_last before last
  have distinct := List.nodup_dedup (before ++ item :: since)
  have unseen : ∀ {xs ys : List α}, (before ++ item :: since).dedup = xs ++ item :: ys →
      item ∉ xs := by
    intro xs ys here among
    rw [here] at distinct
    exact List.disjoint_of_nodup_append distinct among List.mem_cons_self
  obtain ⟨-, rfl⟩ := append_cons_inj (unseen split) (unseen place) (split.symm.trans place)
  refine ⟨before, since, rfl, last, fun other among passes => ?_⟩
  rw [← List.mem_dedup, split] at among
  rcases List.mem_append.mp among with early | late
  · have skip := skipped other early
    rw [passes] at skip
    cases skip
  · exact (List.mem_cons.mp late).imp id List.mem_dedup.mp

/-- The items that are held, by what was used since. -/
theorem mem_recent_iff {uses : List α} : item ∈ recent n uses ↔
    ∃ before since, uses = before ++ item :: since ∧ item ∉ since ∧ since.dedup.length < n := by
  constructor
  · intro held
    obtain ⟨before, since, rfl, last⟩ := exists_last_use (mem_of_mem_recent held)
    exact ⟨before, since, rfl, last, (mem_recent_iff_distance before last).mp held⟩
  · rintro ⟨before, since, rfl, last, near⟩
    exact (mem_recent_iff_distance before last).mpr near

theorem recent_suffix (larger : n ≤ m) (uses : List α) : recent n uses <:+ recent m uses := by
  rw [recent, recent, List.rtake, List.rtake]
  refine ⟨(uses.dedup.drop (uses.dedup.length - m)).take
    (uses.dedup.length - n - (uses.dedup.length - m)), ?_⟩
  have deeper : uses.dedup.length - n =
      uses.dedup.length - m + (uses.dedup.length - n - (uses.dedup.length - m)) := by omega
  conv_lhs => rw [deeper, ← List.drop_drop]
  rw [Nat.add_sub_cancel_left]
  exact List.take_append_drop _ _

/-! ## Hits -/

/-- Which of some uses hit, after others. -/
def hits (n : Nat) (before : List α) : List α → List Bool
  | [] => []
  | item :: later => decide (item ∈ recent n before) :: hits n (before ++ [item]) later

/-- Which of some uses are repeated, after others. -/
def repeats (before : List α) : List α → List Bool
  | [] => []
  | item :: later => decide (item ∈ before) :: repeats (before ++ [item]) later

/-- A larger cache hits wherever a smaller one does. -/
theorem hits_mono (larger : n ≤ m) (before uses : List α) :
    List.Forall₂ (fun small large : Bool => small = true → large = true)
      (hits n before uses) (hits m before uses) := by
  induction uses generalizing before with
  | nil => exact .nil
  | cons item later ih =>
      refine .cons (fun hit => ?_) (ih _)
      exact decide_eq_true ((recent_suffix larger before).subset (of_decide_eq_true hit))

/-- Every hit is a repeated use. -/
theorem hits_repeats (n : Nat) (before uses : List α) :
    List.Forall₂ (fun hit again : Bool => hit = true → again = true)
      (hits n before uses) (repeats before uses) := by
  induction uses generalizing before with
  | nil => exact .nil
  | cons item later ih =>
      exact .cons (fun hit => decide_eq_true (mem_of_mem_recent (of_decide_eq_true hit))) (ih _)

/-- A cache with room for all items never forgets one. -/
theorem hits_eq_repeats (before uses : List α) (room : (before ++ uses).dedup.length ≤ n) :
    hits n before uses = repeats before uses := by
  induction uses generalizing before with
  | nil => rfl
  | cons item later ih =>
      have among : before.dedup ⊆ (before ++ item :: later).dedup := fun a member =>
        List.mem_dedup.mpr (List.mem_append_left _ (List.mem_dedup.mp member))
      have fewer := ((List.nodup_dedup before).subperm among).length_le.trans room
      have all : recent n before = before.dedup := by
        rw [recent, List.rtake, Nat.sub_eq_zero_of_le fewer, List.drop_zero]
      rw [hits, repeats, ih (before ++ [item]) (by rwa [List.append_assoc, List.singleton_append]),
        all]
      simp only [List.mem_dedup]

theorem hits_append (n : Nat) (before uses more : List α) :
    hits n before (uses ++ more) = hits n before uses ++ hits n (before ++ uses) more := by
  induction uses generalizing before with
  | nil => rw [List.nil_append, List.append_nil, hits, List.nil_append]
  | cons item later ih =>
      rw [List.cons_append, hits, ih, hits, List.append_assoc, List.singleton_append,
        List.cons_append]

/-- Where more hits, there are more hits. -/
theorem countP_le_of_forall₂ {β γ : Type} {p : β → Bool} {q : γ → Bool} {items : List β}
    {others : List γ} (each : List.Forall₂ (fun b c => p b = true → q c = true) items others) :
    items.countP p ≤ others.countP q := by
  induction each with
  | nil => exact Nat.le_refl _
  | @cons b c _ _ holds _ ih =>
      rw [List.countP_cons, List.countP_cons]
      refine Nat.add_le_add ih ?_
      split
      · next held => rw [if_pos (holds held)]
      · exact Nat.zero_le _

/-! ## Rounds -/

/-- Uses that go round and round through some items. -/
def rounds (f : Nat → α) (size turns : Nat) : List α :=
  (List.range turns).map fun turn => f (turn % size)

omit [DecidableEq α] in
theorem rounds_succ (f : Nat → α) (size turns : Nat) :
    rounds f size (turns + 1) = rounds f size turns ++ [f (turns % size)] := by
  rw [rounds, List.range_succ, List.map_append]
  rfl

omit [DecidableEq α] in
/-- What is used within less than a round is distinct. -/
theorem rounds_injOn {f : Nat → α} {size : Nat} (apart : Set.InjOn f {i | i < size})
    {i j : Nat} (positive : 0 < size) (before : i < j) (near : j < i + size) :
    f (i % size) ≠ f (j % size) := by
  intro same
  have equal := apart (Nat.mod_lt i positive) (Nat.mod_lt j positive) same
  have multiple : size ∣ j - i :=
    Nat.dvd_of_mod_eq_zero (Nat.sub_mod_eq_zero_of_mod_eq equal.symm)
  exact absurd (Nat.le_of_dvd (by omega) multiple) (by omega)

/-- In rounds of distinct items a turn hits when a round went before it and a round fits. -/
theorem mem_recent_rounds {f : Nat → α} {size : Nat} (apart : Set.InjOn f {i | i < size})
    (positive : 0 < size) {before : List α} (new : ∀ i < size, f i ∉ before) (turn : Nat) :
    f (turn % size) ∈ recent n (before ++ rounds f size turn) ↔ size ≤ turn ∧ size ≤ n := by
  by_cases first : turn < size
  · refine iff_of_false (fun held => ?_) (fun both => absurd both.1 (Nat.not_le.mpr first))
    rcases List.mem_append.mp (mem_of_mem_recent held) with old | listed
    · exact new _ (Nat.mod_lt turn positive) old
    · obtain ⟨earlier, among, same⟩ := List.mem_map.mp listed
      rw [List.mem_range] at among
      exact rounds_injOn apart positive among (by omega) same
  · have round := Nat.le_of_not_lt first
    -- The item was used a round ago, and the others of the round since.
    have split : rounds f size turn = rounds f size (turn - size) ++ f (turn % size) ::
        (List.range' (turn - size + 1) (size - 1)).map fun i => f (i % size) := by
      have range : List.range turn = List.range (turn - size) ++ (turn - size) ::
          List.range' (turn - size + 1) (size - 1) := by
        have joined : List.range' 0 (turn - size) ++
            List.range' (0 + (turn - size)) (size - 1 + 1) =
              List.range' 0 (turn - size + (size - 1 + 1)) := List.range'_append_1
        rw [Nat.zero_add, show turn - size + (size - 1 + 1) = turn by omega] at joined
        rw [← List.range'_succ, List.range_eq_range', List.range_eq_range', joined]
      rw [rounds, range, List.map_append, List.map_cons, ← Nat.mod_eq_sub_mod round]
      rfl
    have last : f (turn % size) ∉
        (List.range' (turn - size + 1) (size - 1)).map fun i => f (i % size) := by
      intro listed
      obtain ⟨i, among, same⟩ := List.mem_map.mp listed
      rw [List.mem_range'_1] at among
      exact rounds_injOn apart positive (by omega) (by omega) same
    have distinct : ((List.range' (turn - size + 1) (size - 1)).map
        fun i => f (i % size)).Nodup := by
      refine List.Nodup.map_on ?_ List.nodup_range'
      intro i among j among' same
      rw [List.mem_range'_1] at among among'
      rcases Nat.lt_trichotomy i j with less | equal | more
      · exact absurd same (rounds_injOn apart positive less (by omega))
      · exact equal
      · exact absurd same.symm (rounds_injOn apart positive more (by omega))
    rw [split, ← List.append_assoc, mem_recent_iff_distance _ last, distinct.dedup,
      List.length_map, List.length_range']
    omega

/-- A cache with room for a round hits from the second one on, a smaller cache never. -/
theorem hits_rounds {f : Nat → α} {size : Nat} (apart : Set.InjOn f {i | i < size})
    (positive : 0 < size) {before : List α} (new : ∀ i < size, f i ∉ before) (turns : Nat) :
    hits n before (rounds f size turns) =
      (List.range turns).map fun turn => decide (size ≤ turn ∧ size ≤ n) := by
  induction turns with
  | zero => rfl
  | succ turns ih =>
      rw [rounds_succ, hits_append, ih, List.range_succ, List.map_append]
      congr 1
      rw [hits, hits, List.map_singleton]
      simp only [mem_recent_rounds apart positive new turns]

/-- Rounds after rounds, of other items each time: every one of them starts anew. -/
theorem hits_blocks {f : Nat → Nat → α} {size : Nat}
    (apart : ∀ i j i' j', f i j = f i' j' → i = i' ∧ j = j') (positive : 0 < size)
    (blocks turns : Nat) :
    hits n [] ((List.range blocks).flatMap fun block => rounds (f block) size turns) =
      (List.range blocks).flatMap fun _ =>
        (List.range turns).map fun turn => decide (size ≤ turn ∧ size ≤ n) := by
  induction blocks with
  | zero => rfl
  | succ blocks ih =>
      rw [List.range_succ, List.flatMap_append, List.flatMap_append, hits_append, ih,
        List.flatMap_singleton, List.flatMap_singleton, hits_rounds _ positive]
      · rintro i - listed
        rw [List.nil_append] at listed
        obtain ⟨block, earlier, among⟩ := List.mem_flatMap.mp listed
        obtain ⟨turn, -, same⟩ := List.mem_map.mp among
        exact absurd (List.mem_range.mp earlier) ((apart _ _ _ _ same).1 ▸ Nat.lt_irrefl _)
      · exact fun i _ j _ same => (apart _ _ _ _ same).2

end LeastRecent

end IntelliL3.Lib
