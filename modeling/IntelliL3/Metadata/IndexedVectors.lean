import Mathlib.Logic.Function.Basic
import IntelliL3.Metadata.HNSWIndex

/-! # What an HNSW index knows

The label bookkeeping is consistent, so an index mirrors a map from ids to
vectors; as long as hnswlib has seen the labels handed out and no others, a row
is accepted while there is room, and a query for one neighbour finds one.
-/

namespace IntelliL3

open Lib

namespace HNSWIndex

variable {η : Type}

/-! ## Bookkeeping -/

/-- The two maps are inverse; the labels below `nextId` are the used and the free
    ones, each once, and never more than the capacity. -/
structure Consistent (idx : HNSWIndex η) : Prop where
  inverse : ∀ objectId label,
    idx.objectToId.get? objectId = some label ↔ idx.idToObject.get? label = some objectId
  freeDistinct : idx.freeIds.Nodup
  freeUnused : ∀ label ∈ idx.freeIds, idx.idToObject.get? label = none
  allocated : ∀ label,
    label < idx.nextId ↔ label ∈ idx.freeIds ∨ (idx.idToObject.get? label).isSome
  bounded : idx.nextId ≤ idx.maxElements

namespace Consistent

theorem new [Hnswlib η] {dim maxElements : Int} {self : HNSWIndex η}
    (built : HNSWIndex.new dim maxElements = .ok self) : Consistent self := by
  obtain ⟨d, m, -, -, rfl⟩ := new_eq_blank built
  exact ⟨by simp [blank], List.nodup_nil, by simp [blank], by simp [blank], Nat.zero_le _⟩

theorem nextLabel_unused {self : HNSWIndex η} (consistent : Consistent self) :
    self.idToObject.get? self.nextLabel = none := by
  unfold nextLabel
  cases last : self.freeIds.getLast? with
  | some label =>
      exact consistent.freeUnused label (List.mem_of_getLast? last)
  | none =>
      by_contra used
      have below := (consistent.allocated self.nextId).mpr
        (Or.inr (Option.isSome_iff_ne_none.mpr used))
      exact Nat.lt_irrefl _ below

private theorem free_split {self : HNSWIndex η} (some_free : self.freeIds ≠ []) :
    self.freeIds = self.freeIds.dropLast ++ [self.nextLabel] := by
  conv_lhs => rw [← List.dropLast_append_getLast some_free]
  simp only [nextLabel, List.getLast?_eq_some_getLast some_free, Option.getD_some]

/-- Taking a label never handed out. -/
private theorem indexed_new {self : HNSWIndex η} (consistent : Consistent self)
    {objectId : String} (unknown : self.objectToId.get? objectId = none)
    (noFree : self.freeIds = []) (room : self.nextId < self.maxElements) (index : η) :
    Consistent (self.indexed objectId index) := by
  have label := nextLabel_new noFree
  have nowhere : ∀ l, l ∉ self.freeIds := fun l => noFree ▸ List.not_mem_nil
  unfold HNSWIndex.indexed
  rw [takeLabel_new noFree]
  refine ⟨Dict.Inverse.set consistent.inverse unknown consistent.nextLabel_unused,
    consistent.freeDistinct, fun l member => absurd member (nowhere l), fun l => ?_, room⟩
  have before := consistent.allocated l
  change l < self.nextId + 1 ↔ l ∈ self.freeIds ∨
    ((self.idToObject.set self.nextLabel objectId).get? l).isSome = true
  rw [Dict.get?_set, label]
  simp only [nowhere, false_or] at before ⊢
  by_cases here : self.nextId = l
  · subst here
    simp
  · rw [if_neg here, ← before]
    omega

/-- The label freed last is not among the others. -/
private theorem free_rest {self : HNSWIndex η} (consistent : Consistent self)
    (free : self.freeIds ≠ []) :
    self.freeIds.dropLast.Nodup ∧ self.nextLabel ∉ self.freeIds.dropLast ∧
      ∀ l, l ∈ self.freeIds ↔ l ∈ self.freeIds.dropLast ∨ l = self.nextLabel := by
  have split := free_split free
  have distinct := consistent.freeDistinct
  rw [split] at distinct
  obtain ⟨restDistinct, -, apart⟩ := List.nodup_append.mp distinct
  refine ⟨restDistinct, fun member => ?_, fun l => ?_⟩
  · exact apart _ member _ (List.mem_singleton.mpr rfl) rfl
  · conv_lhs => rw [split]
    rw [List.mem_append, List.mem_singleton]

/-- The labels still free once one is taken. -/
theorem mem_takeLabel_free {self : HNSWIndex η} (consistent : Consistent self) {label : Nat} :
    label ∈ self.takeLabel.freeIds ↔ label ∈ self.freeIds ∧ label ≠ self.nextLabel := by
  by_cases free : self.freeIds = []
  · simp [takeLabel, free]
  · obtain ⟨-, lastOut, member⟩ := consistent.free_rest free
    rw [takeLabel_freed free, member]
    constructor
    · exact fun inRest => ⟨Or.inl inRest, fun same => lastOut (same ▸ inRest)⟩
    · rintro ⟨inRest | last, other⟩
      · exact inRest
      · exact absurd last other

/-- Taking the label freed last. -/
private theorem indexed_freed {self : HNSWIndex η} (consistent : Consistent self)
    {objectId : String} (unknown : self.objectToId.get? objectId = none)
    (free : self.freeIds ≠ []) (index : η) : Consistent (self.indexed objectId index) := by
  obtain ⟨restDistinct, lastOut, member⟩ := consistent.free_rest free
  unfold HNSWIndex.indexed
  rw [takeLabel_freed free]
  refine ⟨Dict.Inverse.set consistent.inverse unknown consistent.nextLabel_unused, restDistinct,
    fun l inRest => ?_, fun l => ?_, consistent.bounded⟩
  · change (self.idToObject.set self.nextLabel objectId).get? l = none
    rw [Dict.get?_set_ne _ (fun same : self.nextLabel = l => lastOut (same ▸ inRest))]
    exact consistent.freeUnused l ((member l).mpr (Or.inl inRest))
  · change l < self.nextId ↔ l ∈ self.freeIds.dropLast ∨
      ((self.idToObject.set self.nextLabel objectId).get? l).isSome = true
    rw [consistent.allocated l, member l, Dict.get?_set]
    by_cases here : self.nextLabel = l
    · subst here
      simp
    · simp only [if_neg here, Ne.symm here, or_false]

theorem indexed {self : HNSWIndex η} (consistent : Consistent self) {objectId : String}
    (unknown : self.objectToId.get? objectId = none) (room : self.isFull = false) (index : η) :
    Consistent (self.indexed objectId index) := by
  by_cases free : self.freeIds = []
  · have below : self.nextId < self.maxElements := by simpa [isFull, free] using room
    exact consistent.indexed_new unknown free below index
  · exact consistent.indexed_freed unknown free index

theorem forgotten {self : HNSWIndex η} (consistent : Consistent self) {objectId : String}
    {internalId : Nat} (known : self.objectToId.get? objectId = some internalId) (index : η) :
    Consistent (self.forgotten objectId internalId index) := by
  have used := (consistent.inverse objectId internalId).mp known
  have notFree : internalId ∉ self.freeIds := by
    intro member
    rw [consistent.freeUnused internalId member] at used
    cases used
  refine ⟨Dict.Inverse.erase consistent.inverse known, ?_, ?_, ?_, consistent.bounded⟩
  · exact List.nodup_append.mpr ⟨consistent.freeDistinct, List.nodup_singleton _, by
      intro label member last single same
      exact notFree (List.mem_singleton.mp single ▸ same ▸ member)⟩
  · intro label member
    change (self.idToObject.erase internalId).get? label = none
    rw [Dict.get?_erase]
    split
    · rfl
    · next other =>
        rcases List.mem_append.mp member with free | last
        · exact consistent.freeUnused label free
        · exact absurd (List.mem_singleton.mp last).symm other
  · intro label
    change label < self.nextId ↔ label ∈ self.freeIds ++ [internalId] ∨
      ((self.idToObject.erase internalId).get? label).isSome = true
    rw [consistent.allocated label, List.mem_append, List.mem_singleton, Dict.get?_erase]
    by_cases here : internalId = label
    · subst here; simp [used]
    · simp only [if_neg here, Ne.symm here, or_false]

private theorem mem_usedLabels {self : HNSWIndex η} (consistent : Consistent self) (label : Nat) :
    label ∈ self.objectToId.entries.map Prod.snd ↔ (self.idToObject.get? label).isSome := by
  rw [List.mem_map, Option.isSome_iff_exists]
  constructor
  · rintro ⟨⟨objectId, used⟩, member, rfl⟩
    exact ⟨objectId, (consistent.inverse objectId used).mp
      ((self.objectToId.mem_entries_iff objectId used).mp member)⟩
  · rintro ⟨objectId, held⟩
    exact ⟨(objectId, label), (self.objectToId.mem_entries_iff objectId label).mpr
      ((consistent.inverse objectId label).mpr held), rfl⟩

private theorem usedLabels_nodup {self : HNSWIndex η} (consistent : Consistent self) :
    (self.objectToId.entries.map Prod.snd).Nodup := by
  refine List.Nodup.map_on ?_ self.objectToId.distinct.of_map
  rintro ⟨objectId, label⟩ member ⟨other, label'⟩ member' same
  subst same
  have one := (self.objectToId.mem_entries_iff objectId label).mp member
  have two := (self.objectToId.mem_entries_iff other label).mp member'
  rw [consistent.inverse] at one two
  rw [Option.some.inj (one.symm.trans two)]

/-- Every label handed out is used or free. -/
theorem size_add_free {self : HNSWIndex η} (consistent : Consistent self) :
    self.size + self.freeIds.length = self.nextId := by
  have distinct : (self.objectToId.entries.map Prod.snd ++ self.freeIds).Nodup := by
    refine List.nodup_append.mpr ⟨usedLabels_nodup consistent, consistent.freeDistinct, ?_⟩
    intro label used other free same
    have held := (mem_usedLabels consistent label).mp used
    rw [consistent.freeUnused label (same ▸ free)] at held
    cases held
  have labels : (self.objectToId.entries.map Prod.snd ++ self.freeIds).Perm
      (List.range self.nextId) := by
    refine (List.perm_ext_iff_of_nodup distinct List.nodup_range).mpr fun label => ?_
    rw [List.mem_append, mem_usedLabels consistent, List.mem_range, consistent.allocated label]
    exact or_comm
  have counted := labels.length_eq
  rw [List.length_append, List.length_map, List.length_range] at counted
  exact counted

/-- An index is full when it holds as many objects as its capacity. -/
theorem isFull_iff {self : HNSWIndex η} (consistent : Consistent self) :
    self.isFull = true ↔ self.maxElements ≤ self.size := by
  have counted := consistent.size_add_free
  have bounded := consistent.bounded
  rw [isFull, Bool.and_eq_true, decide_eq_true_eq, List.isEmpty_iff, ← List.length_eq_zero_iff]
  omega

/-- The two maps are of one size. -/
theorem size_eq {self : HNSWIndex η} (consistent : Consistent self) :
    self.idToObject.size = self.size := by
  have labels : self.idToObject.keys.Perm (self.objectToId.entries.map Prod.snd) := by
    refine (List.perm_ext_iff_of_nodup self.idToObject.keys_nodup
      (usedLabels_nodup consistent)).mpr fun label => ?_
    rw [self.idToObject.mem_keys_iff, mem_usedLabels consistent]
  rw [← self.idToObject.length_keys, labels.length_eq, List.length_map]
  rfl

end Consistent

/-! ## Indexed vectors -/

section

variable [Hnswlib η] [HnswlibStores η]

/-- The vector hnswlib holds for an object. -/
def vectorOf (self : HNSWIndex η) (objectId : String) : Option (List Rat) :=
  (self.objectToId.get? objectId).bind (HnswlibStores.vectorOf self.index)

theorem vectorOf_indexed {self : HNSWIndex η} (consistent : Consistent self) {objectId : String}
    {vector : List Rat} {replaceDeleted : Bool} {index : η}
    (stored : Hnswlib.addItems vector self.nextLabel replaceDeleted self.index = .ok () index)
    (other : String) :
    (self.indexed objectId index).vectorOf other =
      if objectId = other then some vector else self.vectorOf other := by
  have vectors := HnswlibStores.addItems_vector stored
  change ((self.objectToId.set objectId self.nextLabel).get? other).bind
    (HnswlibStores.vectorOf index) = _
  rw [Dict.get?_set]
  by_cases same : objectId = other
  · simp only [if_pos same, Option.bind_some, vectors, if_true]
  · rw [if_neg same, if_neg same, vectorOf]
    cases found : self.objectToId.get? other with
    | none => rfl
    | some label =>
        have used := (consistent.inverse other label).mp found
        have apart : self.nextLabel ≠ label := by
          intro equal
          rw [← equal, consistent.nextLabel_unused] at used
          cases used
        simp only [Option.bind_some, vectors, if_neg apart]

theorem vectorOf_forgotten {self : HNSWIndex η} (consistent : Consistent self)
    {objectId : String} {internalId : Nat}
    (known : self.objectToId.get? objectId = some internalId) {index : η}
    (marked : Hnswlib.markDeleted internalId self.index = .ok () index) (other : String) :
    (self.forgotten objectId internalId index).vectorOf other =
      if objectId = other then none else self.vectorOf other := by
  have vectors := HnswlibStores.markDeleted_vector marked
  change ((self.objectToId.erase objectId).get? other).bind (HnswlibStores.vectorOf index) = _
  rw [Dict.get?_erase]
  by_cases same : objectId = other
  · simp only [if_pos same, Option.bind_none]
  · rw [if_neg same, if_neg same, vectorOf]
    cases found : self.objectToId.get? other with
    | none => rfl
    | some label =>
        have apart : internalId ≠ label := by
          intro equal
          subst equal
          have one := (consistent.inverse objectId internalId).mp known
          have two := (consistent.inverse other internalId).mp found
          exact same (Option.some.inj (one.symm.trans two))
        simp only [Option.bind_some, vectors, if_neg apart]

/-! ## An index that mirrors a map -/

/-- The index knows the ids of a map, each with its vector, and hnswlib holds no
    vector besides. -/
structure Mirrors (idx : HNSWIndex η) (vectors : String → Option (List Rat)) : Prop where
  consistent : Consistent idx
  known : ∀ id, idx.objectToId.contains id = (vectors id).isSome
  stored : ∀ id, idx.vectorOf id = vectors id
  noStrays : ∀ label, idx.idToObject.get? label = none →
    HnswlibStores.vectorOf idx.index label = none

namespace Mirrors

variable {idx : HNSWIndex η} {vectors : String → Option (List Rat)}

theorem new {dim maxElements : Int} (built : HNSWIndex.new dim maxElements = .ok idx) :
    idx.Mirrors fun _ => none := by
  have consistent := Consistent.new built
  obtain ⟨d, m, -, -, rfl⟩ := new_eq_blank built
  exact ⟨consistent, fun _ => rfl, fun _ => rfl,
    fun label _ => HnswlibStores.initIndex_vector _ _ label⟩

theorem unknown_iff (mirrors : idx.Mirrors vectors) (id : String) :
    idx.objectToId.get? id = none ↔ vectors id = none := by
  rw [← Option.not_isSome_iff_eq_none, ← Option.not_isSome_iff_eq_none, ← mirrors.known]
  exact Iff.rfl

theorem indexed (mirrors : idx.Mirrors vectors) {objectId : String} {vector : List Rat}
    {replaceDeleted : Bool} {index : η} (absent : vectors objectId = none)
    (room : idx.isFull = false)
    (added : Hnswlib.addItems vector idx.nextLabel replaceDeleted idx.index = .ok () index) :
    (idx.indexed objectId index).Mirrors
      (Function.update vectors objectId (some vector)) where
  consistent := mirrors.consistent.indexed ((mirrors.unknown_iff _).mpr absent) room index
  known id := by
    change ((idx.objectToId.set objectId idx.nextLabel).get? id).isSome = _
    rw [Dict.get?_set]
    by_cases here : objectId = id
    · subst here
      rw [if_pos rfl, Function.update_self]
      rfl
    · rw [if_neg here, Function.update_of_ne (Ne.symm here), ← mirrors.known]
      rfl
  stored id := by
    rw [vectorOf_indexed mirrors.consistent added]
    by_cases here : objectId = id
    · subst here
      rw [if_pos rfl, Function.update_self]
    · rw [if_neg here, Function.update_of_ne (Ne.symm here), mirrors.stored]
  noStrays label unused := by
    change (idx.idToObject.set idx.nextLabel objectId).get? label = none at unused
    change HnswlibStores.vectorOf index label = none
    rw [Dict.get?_set] at unused
    rw [HnswlibStores.addItems_vector added]
    split at unused
    · cases unused
    · next other => rw [if_neg other, mirrors.noStrays label unused]

theorem forgotten (mirrors : idx.Mirrors vectors) {objectId : String} {label : Nat} {index : η}
    (known : idx.objectToId.get? objectId = some label)
    (marked : Hnswlib.markDeleted label idx.index = .ok () index) :
    (idx.forgotten objectId label index).Mirrors (Function.update vectors objectId none) where
  consistent := mirrors.consistent.forgotten known index
  known id := by
    change ((idx.objectToId.erase objectId).get? id).isSome = _
    rw [Dict.get?_erase]
    by_cases here : objectId = id
    · subst here
      rw [if_pos rfl, Function.update_self]
      rfl
    · rw [if_neg here, Function.update_of_ne (Ne.symm here), ← mirrors.known]
      rfl
  stored id := by
    rw [vectorOf_forgotten mirrors.consistent known marked]
    by_cases here : objectId = id
    · subst here
      rw [if_pos rfl, Function.update_self]
    · rw [if_neg here, Function.update_of_ne (Ne.symm here), mirrors.stored]
  noStrays other unused := by
    change (idx.idToObject.erase label).get? other = none at unused
    change HnswlibStores.vectorOf index other = none
    rw [HnswlibStores.markDeleted_vector marked]
    by_cases here : label = other
    · rw [if_pos here]
    · rw [Dict.get?_erase, if_neg here] at unused
      rw [if_neg here, mirrors.noStrays other unused]

variable [PyRuntime]

/-- An id keeps the vector it was first indexed with. -/
theorem add (mirrors : idx.Mirrors vectors) {idx' : HNSWIndex η} {objectId : String}
    {embedding : NdArray} (done : HNSWIndex.add objectId embedding idx = .ok () idx') :
    idx'.Mirrors (Function.update vectors objectId
      (some ((vectors objectId).getD embedding.asFloat32))) := by
  rcases add_ok done with ⟨known, same⟩ | ⟨unknown, room, vector, index, prepared, added, same⟩
  · rw [mirrors.known] at known
    obtain ⟨vector, held⟩ := Option.isSome_iff_exists.mp known
    rw [held, Option.getD_some, ← held, Function.update_eq_self, same]
    exact mirrors
  · have absent := (mirrors.unknown_iff objectId).mp ((Dict.contains_eq_false_iff _ _).mp unknown)
    rw [absent, Option.getD_none, (prepareEmbedding_eq_ok.mp prepared).2, same]
    exact mirrors.indexed absent room added

omit [PyRuntime] in
theorem remove (mirrors : idx.Mirrors vectors) {idx' : HNSWIndex η} {objectId : String}
    {removed : Bool} (done : HNSWIndex.remove objectId idx = .ok removed idx') :
    idx'.Mirrors (Function.update vectors objectId none) := by
  rcases remove_ok done with ⟨unknown, same⟩ | ⟨label, index, known, marked, same⟩
  · rw [← (mirrors.unknown_iff objectId).mp unknown, Function.update_eq_self, same]
    exact mirrors
  · rw [same]
    exact mirrors.forgotten known marked

omit [PyRuntime] in
/-- A removal is accepted, and frees a label when the id was known. -/
theorem remove_accepted (mirrors : idx.Mirrors vectors) (marks : MarksDeleted η)
    (objectId : String) :
    ∃ idx', HNSWIndex.remove objectId idx = .ok (vectors objectId).isSome idx' ∧
      ((vectors objectId).isSome → idx'.isFull = false) := by
  cases known : idx.objectToId.get? objectId with
  | none =>
      have absent := (mirrors.unknown_iff objectId).mp known
      rw [absent]
      exact ⟨idx, remove_unknown known, fun found => (by cases found)⟩
  | some label =>
      have present : (vectors objectId).isSome = true := by
        rw [← mirrors.known, Dict.contains, known]
        rfl
      have held : (HnswlibStores.vectorOf idx.index label).isSome = true := by
        rw [← mirrors.stored, vectorOf, known, Option.bind_some] at present
        exact present
      obtain ⟨index, marked⟩ := marks held
      refine ⟨idx.forgotten objectId label index, ?_, fun _ => ?_⟩
      · rw [remove_known known, marked, present]
      · simp [isFull, HNSWIndex.forgotten]

end Mirrors

end

/-! ## When an addition is accepted -/

section

variable [Hnswlib η] [LawfulHnswlib η]

/-- `1.0 - float(distance)` -/
def similarity (η : Type) [Hnswlib η] [LawfulHnswlib η] (query vector : List Rat) : Rat :=
  1 - LawfulHnswlib.distance η query vector

/-- hnswlib has the size of the index, and has seen exactly the labels handed out. -/
structure InStep (idx : HNSWIndex η) : Prop where
  dim : LawfulHnswlib.dim idx.index = idx.dim
  capacity : LawfulHnswlib.maxElements idx.index = idx.maxElements
  count : LawfulHnswlib.currentCount idx.index = idx.nextId
  seen : ∀ label, LawfulHnswlib.seen idx.index label ↔ label < idx.nextId

namespace InStep

variable {idx idx' : HNSWIndex η}

theorem new {dim maxElements : Int} (built : HNSWIndex.new dim maxElements = .ok idx) :
    idx.InStep := by
  obtain ⟨d, m, -, -, rfl⟩ := new_eq_blank built
  obtain ⟨unseen, count, capacity, dims⟩ := LawfulHnswlib.initIndex_fresh (η := η) d m
  exact ⟨dims, capacity, count, fun label =>
    ⟨fun seen => absurd seen (unseen label), fun below => absurd below (Nat.not_lt_zero _)⟩⟩

/-- Which label is taken: a free one, which hnswlib has seen, or the next one. -/
private theorem taken (inStep : idx.InStep) (consistent : Consistent idx) :
    idx.freeIds.isEmpty = false ∧ LawfulHnswlib.seen idx.index idx.nextLabel ∧
        idx.takeLabel.nextId = idx.nextId ∧ idx.nextLabel < idx.nextId ∨
      idx.freeIds.isEmpty = true ∧ ¬ LawfulHnswlib.seen idx.index idx.nextLabel ∧
        idx.takeLabel.nextId = idx.nextId + 1 ∧ idx.nextLabel = idx.nextId := by
  cases free : idx.freeIds.isEmpty with
  | true =>
      have label := nextLabel_new (List.isEmpty_iff.mp free)
      refine Or.inr ⟨rfl, ?_, ?_, label⟩
      · rw [inStep.seen, label]
        exact Nat.lt_irrefl _
      · simp only [takeLabel, free, if_true]
  | false =>
      have some_free : idx.freeIds ≠ [] := fun empty => by simp [empty] at free
      have below := (consistent.allocated idx.nextLabel).mpr
        (Or.inl (nextLabel_freed some_free))
      refine Or.inl ⟨rfl, (inStep.seen _).mpr below, ?_, below⟩
      simp only [takeLabel, free, Bool.false_eq_true, if_false]

theorem indexed (inStep : idx.InStep) (consistent : Consistent idx) {objectId : String}
    {vector : List Rat} {index : η}
    (added : Hnswlib.addItems vector idx.nextLabel (!idx.freeIds.isEmpty) idx.index =
      .ok () index) : (idx.indexed objectId index).InStep := by
  obtain ⟨-, -, -, sameDim, sameCapacity⟩ := idx.takeLabel_maps
  obtain ⟨capacity, dims, seen⟩ := LawfulHnswlib.addItems_keeps added
  rcases inStep.taken consistent with ⟨-, before, next, below⟩ | ⟨free, before, next, label⟩
  · refine ⟨?_, ?_, ?_, fun other => (seen other).trans ?_⟩
    · exact dims.trans (inStep.dim.trans sameDim.symm)
    · exact capacity.trans (inStep.capacity.trans sameCapacity.symm)
    · exact (LawfulHnswlib.addItems_again before added).trans (inStep.count.trans next.symm)
    · change _ ↔ other < idx.takeLabel.nextId
      rw [inStep.seen, next]
      omega
  · refine ⟨?_, ?_, ?_, fun other => (seen other).trans ?_⟩
    · exact dims.trans (inStep.dim.trans sameDim.symm)
    · exact capacity.trans (inStep.capacity.trans sameCapacity.symm)
    · rw [free] at added
      change _ = idx.takeLabel.nextId
      rw [next, ← inStep.count]
      exact LawfulHnswlib.addItems_fresh before added
    · change _ ↔ other < idx.takeLabel.nextId
      rw [inStep.seen, next, label]
      omega

theorem forgotten (inStep : idx.InStep) {objectId : String} {label : Nat} {index : η}
    (marked : Hnswlib.markDeleted label idx.index = .ok () index) :
    (idx.forgotten objectId label index).InStep := by
  obtain ⟨count, capacity, dims, seen⟩ := LawfulHnswlib.markDeleted_keeps marked
  exact ⟨dims.trans inStep.dim, capacity.trans inStep.capacity, count.trans inStep.count,
    fun other => (seen other).trans (inStep.seen other)⟩

theorem remove (inStep : idx.InStep) {objectId : String} {removed : Bool}
    (done : HNSWIndex.remove objectId idx = .ok removed idx') : idx'.InStep := by
  rcases remove_ok done with ⟨-, same⟩ | ⟨label, index, -, marked, same⟩
  · rw [same]
    exact inStep
  · rw [same]
    exact inStep.forgotten marked

variable [PyRuntime]

theorem add (inStep : idx.InStep) (consistent : Consistent idx) {objectId : String}
    {embedding : NdArray} (done : HNSWIndex.add objectId embedding idx = .ok () idx') :
    idx'.InStep := by
  rcases add_ok done with ⟨-, same⟩ | ⟨-, -, vector, index, -, added, same⟩
  · rw [same]
    exact inStep
  · rw [same]
    exact inStep.indexed consistent added

/-- A row of the right dimension is accepted while the index has room. -/
theorem add_accepted (inStep : idx.InStep) {vectors : String → Option (List Rat)}
    (mirrors : idx.Mirrors vectors) (objectId : String) {embedding : NdArray}
    (row : embedding.IsRow idx.dim) (room : idx.isFull = false) :
    ∃ idx', HNSWIndex.add objectId embedding idx = .ok () idx' := by
  cases known : idx.objectToId.contains objectId with
  | true => exact ⟨idx, add_known known embedding⟩
  | false =>
      have accepted : ∃ index, Hnswlib.addItems embedding.asFloat32 idx.nextLabel
          (!idx.freeIds.isEmpty) idx.index = .ok () index := by
        refine LawfulHnswlib.addItems_accepted (row.length.trans inStep.dim.symm) ?_
        rcases inStep.taken mirrors.consistent with ⟨free, seen, -, -⟩ | ⟨free, unseen, -, -⟩
        · refine Or.inr ⟨by rw [free]; rfl, seen, ?_⟩
          exact mirrors.noStrays _ mirrors.consistent.nextLabel_unused
        · refine Or.inl ⟨unseen, ?_⟩
          rw [inStep.count, inStep.capacity]
          simpa [isFull, free] using room
      obtain ⟨index, added⟩ := accepted
      refine ⟨idx.indexed objectId index, ?_⟩
      rw [add_new known room (prepareEmbedding_eq_ok.mpr ⟨row, rfl⟩), added]

/-- A query for one neighbour answers an indexed id with the similarity of its vector, if
    that reaches the threshold; the vector is a nearest one if hnswlib is exact. -/
theorem search_one (inStep : idx.InStep) {vectors : String → Option (List Rat)}
    (mirrors : idx.Mirrors vectors) {query : NdArray} (row : query.IsRow idx.dim)
    (threshold : Rat) :
    (∀ id, vectors id = none) ∧ idx.search query 1 threshold = .ok [] ∨
      ∃ id vector, vectors id = some vector ∧
        idx.search query 1 threshold =
          .ok (if threshold ≤ similarity η query.asFloat32 vector then
            [(id, similarity η query.asFloat32 vector)] else []) ∧
        (ExactNearest η → ∀ other vector', vectors other = some vector' →
          similarity η query.asFloat32 vector' ≤ similarity η query.asFloat32 vector) := by
  by_cases empty : idx.idToObject.size = 0
  · left
    refine ⟨fun id => ?_, ?_⟩
    · rw [mirrors.consistent.size_eq, size, ← Dict.length_keys, List.length_eq_zero_iff] at empty
      rw [← mirrors.unknown_iff, ← Option.not_isSome_iff_eq_none, ← Dict.mem_keys_iff, empty]
      exact List.not_mem_nil
    · rw [search, if_pos (Or.inr empty)]
  · right
    obtain ⟨label, used⟩ : ∃ label, label ∈ idx.idToObject.keys :=
      List.exists_mem_of_length_pos (by rw [Dict.length_keys]; omega)
    have vectorOf_eq : ∀ {label id}, idx.idToObject.get? label = some id →
        HnswlibStores.vectorOf idx.index label = vectors id := by
      intro label id held
      rw [← mirrors.stored, vectorOf, (mirrors.consistent.inverse id label).mpr held]
      rfl
    have live : ∃ label, (HnswlibStores.vectorOf idx.index label).isSome := by
      obtain ⟨id, held⟩ := Option.isSome_iff_exists.mp ((Dict.mem_keys_iff _ _).mp used)
      refine ⟨label, ?_⟩
      rw [vectorOf_eq held, ← mirrors.known, Dict.contains,
        (mirrors.consistent.inverse id label).mpr held]
      rfl
    obtain ⟨nearest, vector, answered, stored⟩ := LawfulHnswlib.knnQuery_one live
      (row.length.trans inStep.dim.symm)
    obtain ⟨id, held⟩ : ∃ id, idx.idToObject.get? nearest = some id := by
      rw [← Option.ne_none_iff_exists']
      intro unused
      rw [mirrors.noStrays nearest unused] at stored
      cases stored
    have one : min (1 : Int).toNat idx.idToObject.size = 1 := by
      change min 1 _ = 1
      omega
    refine ⟨id, vector, (vectorOf_eq held).symm.trans stored, ?_, ?_⟩
    · have notEmpty : ¬ ((1 : Int) ≤ 0 ∨ idx.idToObject.size = 0) := by omega
      rw [search, if_neg notEmpty, prepareEmbedding_eq_ok.mpr ⟨row, rfl⟩]
      change (do
        let rows ← Hnswlib.knnQuery idx.index query.asFloat32 (min (1 : Int).toNat _)
        return idx.collect 1 threshold rows [] : Except PyError _) = _
      rw [one, answered]
      change Except.ok (idx.collect 1 threshold [(nearest, _)] []) = _
      simp only [collect, held, List.nil_append, similarity, ite_self]
      rfl
    · intro exact other vector' indexed
      have known : idx.objectToId.contains other = true := by
        rw [mirrors.known, indexed]
        rfl
      obtain ⟨label', found⟩ := Option.isSome_iff_exists.mp known
      have stored' := vectorOf_eq ((mirrors.consistent.inverse other label').mp found)
      exact sub_le_sub_left (exact answered (stored'.trans indexed)) 1

end InStep

end

end HNSWIndex

end IntelliL3
