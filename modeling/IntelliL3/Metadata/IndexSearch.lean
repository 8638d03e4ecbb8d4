import IntelliL3.Lib.TopK
import IntelliL3.Metadata.IndexedVectors

/-! # What an index search answers

The rows of `knn_query` that stand for an object and reach the threshold, in
their order. That no object is answered twice rests on the label maps, which
stay inverse to each other also when hnswlib refuses a call half way.
-/

namespace IntelliL3

open Lib

/-- `knn_query` answers distinct labels by non-decreasing distance. -/
def RanksRows (η : Type) [Hnswlib η] : Prop :=
  ∀ {h : η} {query k rows}, Hnswlib.knnQuery h query k = .ok rows →
    (rows.map Prod.fst).Nodup ∧ rows.Pairwise fun row later => row.2 ≤ later.2

/-- Distinct labels with the distances of their vectors, and no label left out is nearer. -/
structure NearestRows {η : Type} [Hnswlib η] [LawfulHnswlib η] (h : η) (query : List Rat)
    (rows : List (Nat × Rat)) : Prop where
  distinct : (rows.map Prod.fst).Nodup
  exactly : ∀ row ∈ rows, ∃ vector, HnswlibStores.vectorOf h row.1 = some vector ∧
    row.2 = LawfulHnswlib.distance η query vector
  nearest : ∀ label vector, HnswlibStores.vectorOf h label = some vector →
    label ∉ rows.map Prod.fst →
      ∀ row ∈ rows, row.2 ≤ LawfulHnswlib.distance η query vector

/-- A query for no more rows than there are labels is answered with that many nearest ones. -/
def ExactSearch (η : Type) [Hnswlib η] [LawfulHnswlib η] : Prop :=
  ∀ {h : η} {query : List Rat} {k : Nat} {labels : List Nat},
    query.length = LawfulHnswlib.dim h → labels.Nodup →
    (∀ label ∈ labels, (HnswlibStores.vectorOf h label).isSome) → k ≤ labels.length →
    ∃ rows, Hnswlib.knnQuery h query k = .ok rows ∧ rows.length = k ∧ NearestRows h query rows

namespace HNSWIndex

variable {η : Type}

/-! ## The rows that are answered -/

/-- What a row adds to the results. -/
def hit (self : HNSWIndex η) (threshold : Rat) (row : Nat × Rat) : Option (String × Rat) :=
  (self.idToObject.get? row.1).bind fun objectId =>
    if threshold ≤ 1 - row.2 then some (objectId, 1 - row.2) else none

theorem hit_eq_some_iff {self : HNSWIndex η} {threshold : Rat} {row : Nat × Rat}
    {found : String × Rat} :
    self.hit threshold row = some found ↔
      self.idToObject.get? row.1 = some found.1 ∧ found.2 = 1 - row.2 ∧ threshold ≤ found.2 := by
  rw [hit, Option.bind_eq_some_iff]
  constructor
  · rintro ⟨objectId, known, answer⟩
    split at answer
    · next reaches =>
        cases answer
        exact ⟨known, rfl, reaches⟩
    · cases answer
  · rintro ⟨known, same, reaches⟩
    refine ⟨found.1, known, ?_⟩
    rw [← same, if_pos reaches]

/-- The loop over the rows takes the first `k` of those that add a result. -/
theorem collect_eq_take (self : HNSWIndex η) {k : Nat} (threshold : Rat)
    (rows : List (Nat × Rat)) {results : List (String × Rat)} (room : results.length < k) :
    self.collect k threshold rows results =
      (results ++ rows.filterMap (self.hit threshold)).take k := by
  induction rows generalizing results with
  | nil =>
      rw [collect, List.filterMap_nil, List.append_nil, List.take_of_length_le room.le]
  | cons row rest ih =>
      obtain ⟨label, distance⟩ := row
      rw [collect, List.filterMap_cons, hit]
      cases self.idToObject.get? label with
      | none => exact ih room
      | some objectId =>
          simp only [Option.bind_some]
          by_cases reaches : threshold ≤ 1 - distance
          · simp only [if_pos reaches, List.length_append, List.length_singleton]
            split
            · next full =>
                have last : k = (results ++ [(objectId, 1 - distance)]).length := by
                  rw [List.length_append, List.length_singleton]
                  omega
                rw [List.append_cons results _ (rest.filterMap _), List.take_left' last.symm]
            · next room =>
                rw [ih (by simpa using room), List.append_assoc]
                rfl
          · simp only [if_neg reaches]
            rw [if_neg (by omega)]
            exact ih room

section

variable [Hnswlib η] [PyRuntime]

/-- A search that answers has asked hnswlib, or had nothing to ask. -/
theorem search_ok {self : HNSWIndex η} {query : NdArray} {k : Int} {threshold : Rat}
    {found : List (String × Rat)} (answered : self.search query k threshold = .ok found) :
    found = [] ∨ 0 < k ∧ ∃ rows, Hnswlib.knnQuery self.index query.asFloat32
        (min k.toNat self.idToObject.size) = .ok rows ∧
      found = (rows.filterMap (self.hit threshold)).take k.toNat := by
  rw [search] at answered
  split at answered
  · cases answered
    exact Or.inl rfl
  · next asked =>
      have positive : 0 < k := by omega
      obtain ⟨vector, prepared, answered⟩ := bind_eq_ok.mp answered
      obtain ⟨rows, queried, answered⟩ := bind_eq_ok.mp answered
      cases answered
      rw [← (prepareEmbedding_eq_ok.mp prepared).2] at queried
      refine Or.inr ⟨positive, rows, queried, ?_⟩
      have room : ([] : List (String × Rat)).length < k.toNat := by
        rw [List.length_nil]
        omega
      exact self.collect_eq_take threshold rows room

/-- An index that holds something takes queries of its dimension only. -/
theorem search_unfit {self : HNSWIndex η} {query : NdArray} {k : Int}
    (holds : self.idToObject.size ≠ 0) (unfit : ¬ query.IsRow self.dim) (asked : 0 < k)
    (threshold : Rat) :
    ∃ message, self.search query k threshold = .error (.valueError message) := by
  have raises : ∃ message, self.prepareEmbedding query = .error (.valueError message) :=
    ⟨_, if_neg fun row => unfit (prepareEmbedding_eq_ok.mp (if_pos row)).1⟩
  obtain ⟨message, raises⟩ := raises
  refine ⟨message, ?_⟩
  rw [search, if_neg (by omega), raises]
  rfl

end

/-! ## Labels -/

/-- The maps are inverse to each other, and what is free or not handed out yet stands for
    no object. -/
structure Unambiguous (idx : HNSWIndex η) : Prop where
  inverse : idx.objectToId.Inverse idx.idToObject
  freeDistinct : idx.freeIds.Nodup
  freeUnused : ∀ label ∈ idx.freeIds, idx.idToObject.get? label = none ∧ label < idx.nextId
  unallocated : ∀ label, idx.nextId ≤ label → idx.idToObject.get? label = none

namespace Unambiguous

theorem new [Hnswlib η] {dim maxElements : Int} {self : HNSWIndex η}
    (built : HNSWIndex.new dim maxElements = .ok self) : Unambiguous self := by
  have consistent := Consistent.new built
  obtain ⟨d, m, -, -, rfl⟩ := new_eq_blank built
  exact ⟨consistent.inverse, List.nodup_nil, fun _ member => absurd member List.not_mem_nil,
    fun _ _ => rfl⟩

variable {self : HNSWIndex η}

/-- The label taken is unused, and is not handed out again. -/
theorem nextLabel_taken (unambiguous : Unambiguous self) :
    self.idToObject.get? self.nextLabel = none ∧ self.nextLabel ∉ self.takeLabel.freeIds ∧
      self.nextLabel < self.takeLabel.nextId := by
  by_cases free : self.freeIds = []
  · rw [takeLabel_new free, nextLabel_new free, free]
    exact ⟨unambiguous.unallocated _ (Nat.le_refl _), List.not_mem_nil, Nat.lt_succ_self _⟩
  · obtain ⟨unused, below⟩ := unambiguous.freeUnused _ (nextLabel_freed free)
    rw [takeLabel_freed free]
    refine ⟨unused, fun again => ?_, below⟩
    have distinct := unambiguous.freeDistinct
    have last : self.freeIds = self.freeIds.dropLast ++ [self.nextLabel] := by
      conv_lhs => rw [← List.dropLast_append_getLast free]
      simp only [nextLabel, List.getLast?_eq_some_getLast free, Option.getD_some]
    rw [last] at distinct
    obtain ⟨-, -, apart⟩ := List.nodup_append.mp distinct
    exact apart _ again _ (List.mem_singleton_self _) rfl

/-- A label that was taken for nothing stays unused. -/
theorem taken (unambiguous : Unambiguous self) (index : η) :
    Unambiguous { self.takeLabel with index } := by
  obtain ⟨-, idToObject, objectToId, -, -⟩ := self.takeLabel_maps
  refine ⟨?_, ?_, fun label member => ?_, fun label beyond => ?_⟩
  · change self.takeLabel.objectToId.Inverse self.takeLabel.idToObject
    rw [idToObject, objectToId]
    exact unambiguous.inverse
  · change self.takeLabel.freeIds.Nodup
    unfold takeLabel
    split
    · exact unambiguous.freeDistinct
    · exact unambiguous.freeDistinct.sublist (List.dropLast_sublist _)
  · change self.takeLabel.idToObject.get? label = none ∧ label < self.takeLabel.nextId
    change label ∈ self.takeLabel.freeIds at member
    rw [idToObject]
    unfold takeLabel at member ⊢
    split at member
    · next empty =>
        rw [List.isEmpty_iff.mp empty] at member
        exact absurd member List.not_mem_nil
    · next some_free =>
        rw [if_neg some_free]
        exact unambiguous.freeUnused label (List.dropLast_subset _ member)
  · change self.takeLabel.idToObject.get? label = none
    change self.takeLabel.nextId ≤ label at beyond
    rw [idToObject]
    refine unambiguous.unallocated label (Nat.le_trans ?_ beyond)
    unfold takeLabel
    split
    · exact Nat.le_succ _
    · exact Nat.le_refl _

theorem indexed (unambiguous : Unambiguous self) {objectId : String}
    (unknown : self.objectToId.get? objectId = none) (index : η) :
    Unambiguous (self.indexed objectId index) := by
  obtain ⟨unused, notFree, below⟩ := unambiguous.nextLabel_taken
  have taken := unambiguous.taken index
  have idToObject := self.takeLabel_maps.2.1
  have others : ∀ label, self.nextLabel ≠ label →
      (self.idToObject.set self.nextLabel objectId).get? label =
        self.takeLabel.idToObject.get? label := by
    intro label differ
    rw [Dict.get?_set_ne _ differ, idToObject]
  refine ⟨unambiguous.inverse.set unknown unused, taken.freeDistinct, fun label member => ?_,
    fun label beyond => ?_⟩
  · have free := taken.freeUnused label member
    exact ⟨(others label fun same => notFree (same ▸ member)).trans free.1, free.2⟩
  · have differ : self.nextLabel ≠ label := fun same => by
      change self.takeLabel.nextId ≤ label at beyond
      omega
    exact (others label differ).trans (taken.unallocated label beyond)

/-- The maps forget an object before hnswlib is told. -/
theorem erased (unambiguous : Unambiguous self) {objectId : String} {label : Nat}
    (known : self.objectToId.get? objectId = some label) (index : η) :
    Unambiguous { self with
      index
      objectToId := self.objectToId.erase objectId
      idToObject := self.idToObject.erase label } := by
  have less : ∀ other, self.idToObject.get? other = none →
      (self.idToObject.erase label).get? other = none := by
    intro other unused
    rw [Dict.get?_erase]
    split
    · rfl
    · exact unused
  exact ⟨unambiguous.inverse.erase known, unambiguous.freeDistinct,
    fun other member => (unambiguous.freeUnused other member).imp_left (less other),
    fun other beyond => less other (unambiguous.unallocated other beyond)⟩

theorem forgotten (unambiguous : Unambiguous self) {objectId : String} {label : Nat}
    (known : self.objectToId.get? objectId = some label) (index : η) :
    Unambiguous (self.forgotten objectId label index) := by
  have erased := unambiguous.erased known index
  have used := (unambiguous.inverse objectId label).mp known
  have below : label < self.nextId := by
    by_contra beyond
    rw [unambiguous.unallocated label (Nat.le_of_not_lt beyond)] at used
    cases used
  refine ⟨erased.inverse, ?_, fun other member => ?_, erased.unallocated⟩
  · refine List.nodup_append.mpr ⟨erased.freeDistinct, List.nodup_singleton _, ?_⟩
    intro other member last single same
    rw [same, List.mem_singleton.mp single] at member
    rw [(unambiguous.freeUnused label member).1] at used
    cases used
  · rcases List.mem_append.mp member with free | last
    · exact erased.freeUnused other free
    · rw [List.mem_singleton.mp last]
      exact ⟨by change (self.idToObject.erase label).get? label = none; simp [Dict.get?_erase],
        below⟩

variable [Hnswlib η]

theorem remove (unambiguous : Unambiguous self) (objectId : String) :
    Unambiguous (EStateResult.state (HNSWIndex.remove objectId self)) := by
  cases known : self.objectToId.get? objectId with
  | none =>
      rw [remove_unknown known]
      exact unambiguous
  | some label =>
      rw [remove_known known]
      cases Hnswlib.markDeleted label self.index with
      | ok _ index => exact unambiguous.forgotten known index
      | error e index => exact unambiguous.erased known index

theorem add [PyRuntime] (unambiguous : Unambiguous self) (objectId : String)
    (embedding : NdArray) :
    Unambiguous (EStateResult.state (HNSWIndex.add objectId embedding self)) := by
  cases known : self.objectToId.contains objectId with
  | true =>
      rw [add_known known]
      exact unambiguous
  | false =>
      cases room : self.isFull with
      | true =>
          rw [add_full known room]
          exact unambiguous
      | false =>
          cases prepared : self.prepareEmbedding embedding with
          | error e =>
              rw [add_badShape known room prepared]
              exact unambiguous
          | ok vector =>
              rw [add_new known room prepared]
              have unknown := (Dict.contains_eq_false_iff _ _).mp known
              cases Hnswlib.addItems vector self.nextLabel (!self.freeIds.isEmpty)
                self.index with
              | ok _ index => exact unambiguous.indexed unknown index
              | error e index => exact unambiguous.taken index

end Unambiguous

/-- No object is answered twice, the nearest come first, and none is below the threshold. -/
theorem search_sound [Hnswlib η] [PyRuntime] (ranks : RanksRows η) {self : HNSWIndex η}
    (unambiguous : Unambiguous self) {query : NdArray} {k : Int} {threshold : Rat}
    {found : List (String × Rat)} (answered : self.search query k threshold = .ok found) :
    found.length ≤ k.toNat ∧ (found.map Prod.fst).Nodup ∧
      (found.Pairwise fun hit later => later.2 ≤ hit.2) ∧
      ∀ hit ∈ found, threshold ≤ hit.2 := by
  rcases search_ok answered with rfl | ⟨-, rows, queried, rfl⟩
  · exact ⟨Nat.zero_le _, List.nodup_nil, .nil, fun _ member => absurd member List.not_mem_nil⟩
  · obtain ⟨distinct, ascending⟩ := ranks queried
    have apart : rows.Pairwise fun row later => row.1 ≠ later.1 := List.pairwise_map.mp distinct
    refine ⟨List.length_take_le _ _, ?_, ?_, fun hit member => ?_⟩
    · refine List.pairwise_map.mpr ((apart.filterMap _ ?_).take)
      intro row later differ hit here hit' there same
      have first := (unambiguous.inverse hit.1 row.1).mpr (hit_eq_some_iff.mp here).1
      have second := (unambiguous.inverse hit'.1 later.1).mpr (hit_eq_some_iff.mp there).1
      rw [same, second] at first
      exact differ (Option.some.inj first).symm
    · refine (ascending.filterMap _ ?_).take
      intro row later nearer hit here hit' there
      rw [(hit_eq_some_iff.mp here).2.1, (hit_eq_some_iff.mp there).2.1]
      exact sub_le_sub_left nearer 1
    · obtain ⟨row, -, here⟩ := List.mem_filterMap.mp (List.mem_of_mem_take member)
      exact (hit_eq_some_iff.mp here).2.2

/-! ## Exact search -/

section

variable [Hnswlib η] [LawfulHnswlib η]

/-- The indexed objects with the similarities of their vectors to a query. -/
def scored [PyRuntime] (self : HNSWIndex η) (query : NdArray) : List (String × Rat) :=
  self.objectToId.keys.filterMap fun objectId => (self.vectorOf objectId).map fun vector =>
    (objectId, similarity η query.asFloat32 vector)

variable [PyRuntime] {idx : HNSWIndex η} {vectors : String → Option (List Rat)}
  {query : NdArray}

theorem mem_scored {hit : String × Rat} :
    hit ∈ idx.scored query ↔ ∃ vector, idx.vectorOf hit.1 = some vector ∧
      hit.2 = similarity η query.asFloat32 vector := by
  rw [scored, List.mem_filterMap]
  constructor
  · rintro ⟨objectId, -, found⟩
    obtain ⟨vector, held, rfl⟩ := Option.map_eq_some_iff.mp found
    exact ⟨vector, held, rfl⟩
  · rintro ⟨vector, held, same⟩
    refine ⟨hit.1, ?_, ?_⟩
    · obtain ⟨label, known, -⟩ := Option.bind_eq_some_iff.mp held
      rw [idx.objectToId.mem_keys_iff, known]
      rfl
    · rw [held, Option.map_some, ← same]

theorem scored_keys (mirrors : idx.Mirrors vectors) :
    (idx.scored query).map Prod.fst = idx.objectToId.keys := by
  rw [scored, List.map_filterMap]
  refine (List.filterMap_congr fun objectId member => ?_).trans List.filterMap_some
  have indexed : (idx.vectorOf objectId).isSome := by
    rw [mirrors.stored, ← mirrors.known]
    exact (Dict.contains_iff _ _).mpr member
  obtain ⟨vector, held⟩ := Option.isSome_iff_exists.mp indexed
  rw [held]
  rfl

theorem scored_nodup (mirrors : idx.Mirrors vectors) : (idx.scored query).Nodup := by
  have keys : (idx.scored query).map Prod.fst = idx.objectToId.keys := scored_keys mirrors
  exact .of_map Prod.fst (keys ▸ idx.objectToId.keys_nodup)

theorem length_scored (mirrors : idx.Mirrors vectors) :
    (idx.scored query).length = idx.idToObject.size := by
  rw [← List.length_map (f := Prod.fst), scored_keys mirrors, Dict.length_keys,
    mirrors.consistent.size_eq]
  rfl

/-- What a row stands for. -/
def scoredRow (self : HNSWIndex η) (row : Nat × Rat) : String × Rat :=
  ((self.idToObject.get? row.1).getD "", 1 - row.2)

omit [Hnswlib η] [LawfulHnswlib η] [PyRuntime] in
/-- Rows that all stand for an object are only asked for the threshold. -/
theorem filterMap_hit {rows : List (Nat × Rat)}
    (known : ∀ row ∈ rows, (idx.idToObject.get? row.1).isSome) (threshold : Rat) :
    rows.filterMap (idx.hit threshold) =
      (rows.map idx.scoredRow).filter fun hit => decide (threshold ≤ hit.2) := by
  rw [← List.filterMap_eq_filter, List.filterMap_map]
  refine List.filterMap_congr fun row member => ?_
  obtain ⟨objectId, held⟩ := Option.isSome_iff_exists.mp (known row member)
  simp only [hit, Function.comp_apply, scoredRow, held, Option.bind_some, Option.getD_some,
    Option.guard, decide_eq_true_eq]

omit [PyRuntime] in
/-- A label and the object it stands for have one vector. -/
theorem Mirrors.vectorOf_label (mirrors : idx.Mirrors vectors) {label : Nat} {objectId : String}
    (held : idx.idToObject.get? label = some objectId) :
    HnswlibStores.vectorOf idx.index label = idx.vectorOf objectId := by
  rw [vectorOf, (mirrors.consistent.inverse objectId label).mpr held, Option.bind_some]

omit [PyRuntime] in
/-- hnswlib holds a vector for exactly the labels that stand for an object. -/
theorem Mirrors.label_stored_iff (mirrors : idx.Mirrors vectors) {label : Nat} :
    (HnswlibStores.vectorOf idx.index label).isSome ↔ (idx.idToObject.get? label).isSome := by
  constructor
  · intro stored
    rw [Option.isSome_iff_ne_none]
    intro unused
    rw [mirrors.noStrays label unused] at stored
    cases stored
  · intro used
    obtain ⟨objectId, held⟩ := Option.isSome_iff_exists.mp used
    rw [mirrors.vectorOf_label held, mirrors.stored, ← mirrors.known, Dict.contains,
      (mirrors.consistent.inverse objectId label).mpr held]
    rfl

/-- The nearest rows stand for the most similar objects. -/
theorem Mirrors.topOf_rows (mirrors : idx.Mirrors vectors) {rows : List (Nat × Rat)} {k : Nat}
    (nearest : NearestRows idx.index query.asFloat32 rows)
    (named : ∀ row ∈ rows, idx.idToObject.get? row.1 = some (idx.scoredRow row).1)
    (counted : rows.length = min k idx.idToObject.size) :
    TopOf Prod.snd k (idx.scored query) (rows.map idx.scoredRow) := by
  have inverse := mirrors.consistent.inverse
  constructor
  case within =>
    intro hit member
    obtain ⟨row, answer, rfl⟩ := List.mem_map.mp member
    obtain ⟨vector, stored, distance⟩ := nearest.exactly row answer
    refine mem_scored.mpr ⟨vector, ?_, ?_⟩
    · rw [← mirrors.vectorOf_label (named row answer), stored]
    · rw [scoredRow, similarity, distance]
  case distinct =>
    refine List.pairwise_map.mpr ((List.pairwise_map.mp nearest.distinct).imp_of_mem ?_)
    intro row later member member' differ same
    have first := (inverse _ _).mpr (named row member)
    have second := (inverse _ _).mpr (named later member')
    rw [same, second] at first
    exact differ (Option.some.inj first).symm
  case count => rw [List.length_map, counted, length_scored mirrors]
  case best =>
    intro hit indexed missing chosen member
    obtain ⟨vector, held, score⟩ := mem_scored.mp indexed
    obtain ⟨row, answer, rfl⟩ := List.mem_map.mp member
    obtain ⟨label, labelled, stored⟩ := Option.bind_eq_some_iff.mp held
    have other : label ∉ rows.map Prod.fst := by
      intro listed
      obtain ⟨row', answer', rfl⟩ := List.mem_map.mp listed
      obtain ⟨vector', stored', distance⟩ := nearest.exactly row' answer'
      refine missing (List.mem_map.mpr ⟨row', answer', Prod.ext ?_ ?_⟩)
      · rw [scoredRow, (inverse _ _).mp labelled, Option.getD_some]
      · rw [score, similarity, scoredRow, distance, Option.some.inj (stored'.symm.trans stored)]
    rw [score]
    exact sub_le_sub_left (nearest.nearest label vector stored other row answer) 1

/-- An exact search answers those of the most similar objects that reach the threshold. -/
theorem search_cut (exact : ExactSearch η) (inStep : idx.InStep) (mirrors : idx.Mirrors vectors)
    (row : idx.idToObject.size ≠ 0 → query.IsRow idx.dim) {k : Int} (asked : 0 < k) :
    ∃ cut, TopOf Prod.snd k.toNat (idx.scored query) cut ∧ ∀ threshold,
      idx.search query k threshold = .ok (cut.filter fun hit => decide (threshold ≤ hit.2)) := by
  by_cases empty : idx.idToObject.size = 0
  · have nothing : idx.scored query = [] := by
      rw [← List.length_eq_zero_iff, length_scored mirrors, empty]
    refine ⟨[], ⟨List.nil_subset _, .nil, ?_, fun _ _ _ _ member =>
      absurd member List.not_mem_nil⟩, fun threshold => ?_⟩
    · rw [nothing, List.length_nil, Nat.min_zero]
    · rw [search, if_pos (Or.inr empty), List.filter_nil]
  · have row := row empty
    obtain ⟨rows, answered, counted, nearest⟩ :=
      exact (k := min k.toNat idx.idToObject.size) (row.length.trans inStep.dim.symm)
        idx.idToObject.keys_nodup
        (fun label used => mirrors.label_stored_iff.mpr
          ((idx.idToObject.mem_keys_iff label).mp used))
        (by rw [Dict.length_keys]; exact Nat.min_le_right _ _)
    have known : ∀ row ∈ rows, (idx.idToObject.get? row.1).isSome := by
      intro row member
      obtain ⟨vector, stored, -⟩ := nearest.exactly row member
      exact mirrors.label_stored_iff.mp (Option.isSome_of_eq_some stored)
    have named : ∀ row ∈ rows, idx.idToObject.get? row.1 = some (idx.scoredRow row).1 := by
      intro row member
      obtain ⟨objectId, held⟩ := Option.isSome_iff_exists.mp (known row member)
      rw [scoredRow, held, Option.getD_some]
    refine ⟨rows.map idx.scoredRow, mirrors.topOf_rows nearest named counted,
      fun threshold => ?_⟩
    have asks : ¬ (k ≤ 0 ∨ idx.idToObject.size = 0) := by omega
    have room : ([] : List (String × Rat)).length < k.toNat := by
      rw [List.length_nil]
      omega
    have atMost : ((rows.map idx.scoredRow).filter fun hit =>
        decide (threshold ≤ hit.2)).length ≤ k.toNat := by
      refine (List.length_filter_le _ _).trans ?_
      rw [List.length_map, counted]
      exact Nat.min_le_left _ _
    rw [search, if_neg asks, prepareEmbedding_eq_ok.mpr ⟨row, rfl⟩]
    change (do
      let rows ← Hnswlib.knnQuery idx.index query.asFloat32 (min k.toNat _)
      return idx.collect k.toNat threshold rows [] : Except PyError _) = _
    rw [answered]
    change Except.ok (idx.collect k.toNat threshold rows []) = _
    rw [collect_eq_take _ _ _ room, List.nil_append, filterMap_hit known,
      List.take_of_length_le atMost]

/-! ## What the calls keep -/

/-- hnswlib holds the vectors of the indexed objects, under the labels of the maps. -/
def Coherent (idx : HNSWIndex η) : Prop := idx.InStep ∧ ∃ vectors, idx.Mirrors vectors

namespace Coherent

omit [PyRuntime] in
theorem new {dim maxElements : Int} (built : HNSWIndex.new dim maxElements = .ok idx) :
    idx.Coherent := ⟨.new built, _, .new built⟩

omit [PyRuntime] in
theorem remove (coherent : idx.Coherent) (marks : MarksDeleted η) (objectId : String) :
    HNSWIndex.Coherent (EStateResult.state (HNSWIndex.remove objectId idx)) := by
  obtain ⟨inStep, vectors, mirrors⟩ := coherent
  obtain ⟨idx', removed, -⟩ := mirrors.remove_accepted marks objectId
  rw [removed]
  exact ⟨inStep.remove removed, _, mirrors.remove removed⟩

/-- hnswlib accepts what reaches it, so an addition that raises has changed nothing. -/
theorem add (coherent : idx.Coherent) (objectId : String) (embedding : NdArray) :
    HNSWIndex.Coherent (EStateResult.state (HNSWIndex.add objectId embedding idx)) := by
  obtain ⟨inStep, vectors, mirrors⟩ := coherent
  have accepted : ∀ {idx'}, HNSWIndex.add objectId embedding idx = .ok () idx' → idx'.Coherent :=
    fun done => ⟨inStep.add mirrors.consistent done, _, mirrors.add done⟩
  cases known : idx.objectToId.contains objectId with
  | true =>
      rw [add_known known]
      exact ⟨inStep, vectors, mirrors⟩
  | false =>
      by_cases fits : idx.isFull = false ∧ embedding.IsRow idx.dim
      · obtain ⟨idx', added⟩ := inStep.add_accepted mirrors objectId fits.2 fits.1
        rw [added]
        exact accepted added
      · obtain ⟨e, refused⟩ := add_refused known fits
        rw [refused]
        exact ⟨inStep, vectors, mirrors⟩

end Coherent

end

end HNSWIndex

end IntelliL3
