import IntelliL3.Metadata.LabelBookkeeping

/-! # Label recycling

An HNSW index hands out the label freed last; hnswlib overwrites a deleted slot
of its own choice, and forgets the label that slot had. The two stay consistent
as long as no slot is overwritten whose old label was handed out again.
-/

namespace IntelliL3

open Lib

/-! ## Slots -/

structure Slot where
  label : Nat
  vector : List Rat
  deleted : Bool
  deriving DecidableEq

/-- An hnswlib index as slots and a table from labels to slots. Which deleted slot is
    overwritten is left open: the `n`-th time it is the one `picks n` points at. -/
structure SlotIndex (picks : Nat → Nat) where
  dim : Nat
  maxElements : Nat
  slots : List Slot
  table : Dict Nat Nat
  /-- Deleted slots overwritten so far. -/
  replaced : Nat

namespace SlotIndex

variable {picks : Nat → Nat}

def deletedSlots (self : SlotIndex picks) : List Nat :=
  (List.range self.slots.length).filter fun slot =>
    (self.slots[slot]?).any Slot.deleted

/-- The deleted slot overwritten next. -/
def vacant (self : SlotIndex picks) : Option Nat :=
  self.deletedSlots[picks self.replaced % self.deletedSlots.length]?

def labelAt (self : SlotIndex picks) (slot : Nat) : Option Nat :=
  (self.slots[slot]?).map Slot.label

/-- The label that slot still carries. -/
def staleLabel (self : SlotIndex picks) : Option Nat := self.vacant.bind self.labelAt

def overwrite (self : SlotIndex picks) (slot label : Nat) (vector : List Rat) :
    SlotIndex picks :=
  { self with
    slots := self.slots.set slot ⟨label, vector, false⟩
    table := ((self.labelAt slot).elim self.table self.table.erase).set label slot
    replaced := self.replaced + 1 }

def append (self : SlotIndex picks) (label : Nat) (vector : List Rat) : SlotIndex picks :=
  { self with
    slots := self.slots ++ [⟨label, vector, false⟩]
    table := self.table.set label self.slots.length }

def mark (self : SlotIndex picks) (slot : Nat) (entry : Slot) : SlotIndex picks :=
  { self with slots := self.slots.set slot { entry with deleted := true } }

/-- Rows of the slots that are not deleted, with their cosine distances, nearest first. -/
def ranked (self : SlotIndex picks) (query : List Rat) : List (Nat × Rat) :=
  ((self.slots.filter fun slot => !slot.deleted).map fun slot =>
    (slot.label, 1 - (List.zipWith (· * ·) query slot.vector).sum)).insertionSort
      fun a b => a.2 ≤ b.2

instance : Hnswlib (SlotIndex picks) where
  initIndex dim maxElements := ⟨dim, maxElements, [], .empty, 0⟩
  addItems vector label replaceDeleted := fun self =>
    if vector.length ≠ self.dim then
      .error (.runtimeError "Wrong dimensionality of the vectors") self
    else match if replaceDeleted then self.vacant else none with
    | some slot => .ok () (self.overwrite slot label vector)
    | none =>
        match self.table.get? label with
        | some slot =>
            if (self.slots[slot]?).any Slot.deleted then
              .error (.runtimeError "Can't use addPoint to update a deleted element") self
            else .ok () { self with slots := self.slots.set slot ⟨label, vector, false⟩ }
        | none =>
            if self.maxElements ≤ self.slots.length then
              .error (.runtimeError
                "The number of elements exceeds the specified limit") self
            else .ok () (self.append label vector)
  markDeleted label := fun self =>
    match (self.table.get? label).bind fun slot => (self.slots[slot]?).map (slot, ·) with
    | none => .error (.runtimeError "Label not found") self
    | some (slot, entry) =>
        if entry.deleted then
          .error (.runtimeError "The requested to delete element is already deleted") self
        else .ok () (self.mark slot entry)
  knnQuery self query k :=
    if query.length ≠ self.dim then
      .error (.runtimeError "Wrong dimensionality of the vectors")
    else if (self.ranked query).length < k then
      .error (.runtimeError "Cannot return the results in a contiguous 2D array.")
    else .ok ((self.ranked query).take k)

/-- A label is in the table, and its slot is not deleted and carries it. -/
def Holds (self : SlotIndex picks) (label : Nat) : Prop :=
  ∃ slot entry, self.table.get? label = some slot ∧ self.slots[slot]? = some entry ∧
    entry.deleted = false ∧ entry.label = label

/-- How many slots are deleted. -/
def deletedCount (self : SlotIndex picks) : Nat := self.slots.countP Slot.deleted

variable {self : SlotIndex picks}

theorem mem_deletedSlots {slot : Nat} :
    slot ∈ self.deletedSlots ↔ ∃ entry, self.slots[slot]? = some entry ∧ entry.deleted = true := by
  unfold deletedSlots
  rw [List.mem_filter, List.mem_range, Option.any_eq_true]
  constructor
  · exact fun ⟨_, found⟩ => found
  · rintro ⟨entry, held, deleted⟩
    exact ⟨(List.getElem?_eq_some_iff.mp held).1, entry, held, deleted⟩

theorem vacant_of_deleted (some_deleted : 0 < self.deletedCount) :
    ∃ slot entry, self.vacant = some slot ∧ self.slots[slot]? = some entry ∧
      entry.deleted = true := by
  obtain ⟨entry, member, deleted⟩ := List.countP_pos_iff.mp some_deleted
  obtain ⟨i, held⟩ := List.mem_iff_getElem?.mp member
  have there : i ∈ self.deletedSlots := mem_deletedSlots.mpr ⟨entry, held, deleted⟩
  have inside : picks self.replaced % self.deletedSlots.length < self.deletedSlots.length :=
    Nat.mod_lt _ (List.length_pos_of_mem there)
  have found := List.getElem?_eq_getElem inside
  obtain ⟨former, carried, gone⟩ := mem_deletedSlots.mp (List.getElem_mem inside)
  exact ⟨_, former, found, carried, gone⟩

/-! ## What hnswlib is asked to do -/

theorem addItems_overwrites {vector : List Rat} {label slot : Nat}
    (fits : vector.length = self.dim) (found : self.vacant = some slot) :
    Hnswlib.addItems vector label true self = .ok () (self.overwrite slot label vector) := by
  simp only [Hnswlib.addItems, fits, ne_eq, not_true_eq_false, if_false, if_true, found]

theorem addItems_appends {vector : List Rat} {label : Nat} (fits : vector.length = self.dim)
    (unknown : self.table.get? label = none) (room : self.slots.length < self.maxElements) :
    Hnswlib.addItems vector label false self = .ok () (self.append label vector) := by
  simp only [Hnswlib.addItems, fits, ne_eq, not_true_eq_false, if_false, Bool.false_eq_true,
    unknown, Nat.not_le.mpr room]

theorem markDeleted_marks {label slot : Nat} {entry : Slot}
    (known : self.table.get? label = some slot) (held : self.slots[slot]? = some entry)
    (live : entry.deleted = false) :
    Hnswlib.markDeleted label self = .ok () (self.mark slot entry) := by
  simp only [Hnswlib.markDeleted, known, Option.bind_some, held, Option.map_some, live,
    Bool.false_eq_true, if_false]

/-! ## What it holds then -/

theorem holds_append {label : Nat} {vector : List Rat} {other : Nat}
    (held : self.Holds other ∧ other ≠ label ∨ other = label) :
    (self.append label vector).Holds other := by
  rcases held with ⟨⟨slot, entry, known, held, live, carried⟩, apart⟩ | same
  · refine ⟨slot, entry, ?_, ?_, live, carried⟩
    · exact (Dict.get?_set_ne _ apart.symm _).trans known
    · have inside := (List.getElem?_eq_some_iff.mp held).1
      exact (List.getElem?_append_left inside).trans held
  · rw [same]
    refine ⟨self.slots.length, ⟨label, vector, false⟩, ?_, ?_, rfl, rfl⟩
    · exact (Dict.get?_set _ _ _ _).trans (if_pos rfl)
    · exact (List.getElem?_append_right (Nat.le_refl _)).trans (by simp)

theorem holds_mark {slot : Nat} {entry : Slot} {other : Nat} (held : self.Holds other)
    (carried : entry.label ≠ other) (there : self.slots[slot]? = some entry) :
    (self.mark slot entry).Holds other := by
  obtain ⟨slot', entry', known, held', live, carried'⟩ := held
  refine ⟨slot', entry', known, ?_, live, carried'⟩
  have apart : slot ≠ slot' := by
    rintro rfl
    rw [there] at held'
    cases held'
    exact carried carried'
  exact (List.getElem?_set_ne apart).trans held'

theorem overwrite_table {slot label : Nat} {former : Slot} {vector : List Rat}
    (there : self.slots[slot]? = some former) :
    (self.overwrite slot label vector).table =
      (self.table.erase former.label).set label slot := by
  rw [overwrite, labelAt, there]
  rfl

/-- An overwritten slot takes its old label away. -/
theorem holds_overwrite {slot label : Nat} {former : Slot} {vector : List Rat}
    (there : self.slots[slot]? = some former) (gone : former.deleted = true) (other : Nat)
    (held : other = label ∨ self.Holds other) :
    (self.overwrite slot label vector).Holds other ↔ other = label ∨ former.label ≠ other := by
  have inside := (List.getElem?_eq_some_iff.mp there).1
  by_cases same : other = label
  · subst same
    refine iff_of_true ⟨slot, _, ?_, List.getElem?_set_self inside, rfl, rfl⟩ (Or.inl rfl)
    rw [overwrite_table there, Dict.get?_set, if_pos rfl]
  · have known : (self.overwrite slot label vector).table.get? other =
        if former.label = other then none else self.table.get? other := by
      rw [overwrite_table there, Dict.get?_set_ne _ (Ne.symm same), Dict.get?_erase]
    obtain ⟨slot', entry', known', held', live, carried⟩ := held.resolve_left same
    constructor
    · rintro ⟨slot'', entry'', found, -⟩
      refine Or.inr fun stale => ?_
      rw [known, if_pos stale] at found
      cases found
    · rintro (equal | apart)
      · exact absurd equal same
      · refine ⟨slot', entry', by rw [known, if_neg apart, known'], ?_, live, carried⟩
        have other_slot : slot ≠ slot' := by
          rintro rfl
          rw [there] at held'
          cases held'
          rw [gone] at live
          cases live
        exact (List.getElem?_set_ne other_slot).trans held'

theorem deletedCount_append (label : Nat) (vector : List Rat) :
    (self.append label vector).deletedCount = self.deletedCount := by
  simp [deletedCount, append]

theorem deletedCount_overwrite {slot : Nat} {former : Slot}
    (there : self.slots[slot]? = some former) (gone : former.deleted = true) (label : Nat)
    (vector : List Rat) :
    (self.overwrite slot label vector).deletedCount = self.deletedCount - 1 := by
  obtain ⟨inside, same⟩ := List.getElem?_eq_some_iff.mp there
  simp only [deletedCount, overwrite, List.countP_set inside, same, gone, if_true,
    Bool.false_eq_true, if_false, Nat.add_zero]

theorem deletedCount_mark {slot : Nat} {entry : Slot} (there : self.slots[slot]? = some entry)
    (live : entry.deleted = false) :
    (self.mark slot entry).deletedCount = self.deletedCount + 1 := by
  obtain ⟨inside, same⟩ := List.getElem?_eq_some_iff.mp there
  simp only [deletedCount, mark, List.countP_set inside, same, live, if_true,
    Bool.false_eq_true, if_false, Nat.sub_zero]

end SlotIndex

namespace HNSWIndex

variable {picks : Nat → Nat} {idx : HNSWIndex (SlotIndex picks)}

/-- Every label in use is held by hnswlib, so that every indexed id can be removed. -/
structure InTable (idx : HNSWIndex (SlotIndex picks)) : Prop where
  removable : ∀ objectId, idx.objectToId.contains objectId = true →
    ∃ idx', HNSWIndex.remove objectId idx = .ok true idx'
  held : ∀ label, (idx.idToObject.get? label).isSome → idx.index.Holds label

/-- The slots are as many as the labels handed out, the deleted ones as many as the free
    labels, and every label in use is held. -/
structure InSync (idx : HNSWIndex (SlotIndex picks)) : Prop where
  consistent : Consistent idx
  dim : idx.index.dim = idx.dim
  capacity : idx.index.maxElements = idx.maxElements
  count : idx.index.slots.length = idx.nextId
  deleted : idx.index.deletedCount = idx.freeIds.length
  below : ∀ label slot, idx.index.table.get? label = some slot → label < idx.nextId
  held : ∀ label, (idx.idToObject.get? label).isSome → idx.index.Holds label

namespace InSync

theorem new {dim maxElements : Int} (built : HNSWIndex.new dim maxElements = .ok idx) :
    InSync idx := by
  have consistent := Consistent.new built
  obtain ⟨d, m, -, -, rfl⟩ := new_eq_blank built
  exact ⟨consistent, rfl, rfl, rfl, rfl,
    fun _ _ found => absurd found (Option.some_ne_none _).symm,
    fun _ used => absurd used Bool.false_ne_true⟩

theorem remove_returns (sync : InSync idx) {objectId : String} {label : Nat}
    (known : idx.objectToId.get? objectId = some label) :
    ∃ slot entry, idx.index.slots[slot]? = some entry ∧ entry.deleted = false ∧
      entry.label = label ∧ HNSWIndex.remove objectId idx =
        .ok true (idx.forgotten objectId label (idx.index.mark slot entry)) := by
  have used : (idx.idToObject.get? label).isSome := by
    rw [(sync.consistent.inverse objectId label).mp known]
    rfl
  obtain ⟨slot, entry, found, there, live, carried⟩ := sync.held label used
  refine ⟨slot, entry, there, live, carried, ?_⟩
  rw [remove_known known, SlotIndex.markDeleted_marks found there live]

theorem inTable (sync : InSync idx) : InTable idx where
  removable objectId known := by
    obtain ⟨label, found⟩ := Option.isSome_iff_exists.mp known
    obtain ⟨slot, entry, -, -, -, removed⟩ := sync.remove_returns found
    exact ⟨_, removed⟩
  held := sync.held

theorem forgotten (sync : InSync idx) {objectId : String} {label slot : Nat} {entry : Slot}
    (known : idx.objectToId.get? objectId = some label)
    (there : idx.index.slots[slot]? = some entry) (live : entry.deleted = false)
    (carried : entry.label = label) :
    InSync (idx.forgotten objectId label (idx.index.mark slot entry)) where
  consistent := sync.consistent.forgotten known _
  dim := sync.dim
  capacity := sync.capacity
  count := List.length_set.trans sync.count
  deleted := by
    change (idx.index.mark slot entry).deletedCount = (idx.freeIds ++ [label]).length
    rw [SlotIndex.deletedCount_mark there live, sync.deleted, List.length_append]
    rfl
  below := sync.below
  held other used := by
    change ((idx.idToObject.erase label).get? other).isSome at used
    rw [Dict.get?_erase] at used
    split at used
    · cases used
    · next apart =>
        exact SlotIndex.holds_mark (sync.held other used) (carried ▸ apart) there

variable [PyRuntime]

theorem add_recycles (sync : InSync idx) {objectId : String} {embedding : NdArray}
    (unknown : idx.objectToId.get? objectId = none) (row : embedding.IsRow idx.dim)
    (free : idx.freeIds ≠ []) :
    ∃ slot former, idx.index.vacant = some slot ∧ idx.index.slots[slot]? = some former ∧
      former.deleted = true ∧ HNSWIndex.add objectId embedding idx = .ok ()
        (idx.indexed objectId
          (idx.index.overwrite slot idx.nextLabel embedding.asFloat32)) := by
  have some_deleted : 0 < idx.index.deletedCount := by
    rw [sync.deleted]
    exact List.length_pos_iff.mpr free
  obtain ⟨slot, former, vacant, there, gone⟩ := SlotIndex.vacant_of_deleted some_deleted
  refine ⟨slot, former, vacant, there, gone, ?_⟩
  have absent := (idx.objectToId.contains_eq_false_iff objectId).mpr unknown
  have room : idx.isFull = false := by simp [isFull, free]
  have replaces : (!idx.freeIds.isEmpty) = true := by simp [free]
  rw [add_new absent room (prepareEmbedding_eq_ok.mpr ⟨row, rfl⟩), replaces,
    SlotIndex.addItems_overwrites (row.length.trans sync.dim.symm) vacant]

theorem add_allots (sync : InSync idx) {objectId : String} {embedding : NdArray}
    (unknown : idx.objectToId.get? objectId = none) (row : embedding.IsRow idx.dim)
    (noFree : idx.freeIds = []) (room : idx.isFull = false) :
    HNSWIndex.add objectId embedding idx = .ok ()
      (idx.indexed objectId (idx.index.append idx.nextId embedding.asFloat32)) := by
  have absent := (idx.objectToId.contains_eq_false_iff objectId).mpr unknown
  have below : idx.index.slots.length < idx.index.maxElements := by
    rw [sync.count, sync.capacity]
    simpa [isFull, noFree] using room
  have unseen : idx.index.table.get? idx.nextId = none := by
    by_contra found
    obtain ⟨slot, found⟩ := Option.ne_none_iff_exists'.mp found
    exact Nat.lt_irrefl _ (sync.below _ _ found)
  have fresh : (!idx.freeIds.isEmpty) = false := by simp [noFree]
  rw [add_new absent room (prepareEmbedding_eq_ok.mpr ⟨row, rfl⟩), fresh,
    nextLabel_new noFree, SlotIndex.addItems_appends (row.length.trans sync.dim.symm) unseen below]

omit [PyRuntime] in
theorem recycled (sync : InSync idx) {objectId : String}
    (unknown : idx.objectToId.get? objectId = none) (free : idx.freeIds ≠ []) {slot : Nat}
    {former : Slot} (there : idx.index.slots[slot]? = some former) (gone : former.deleted = true)
    (harmless : idx.idToObject.get? former.label = none) (vector : List Rat) :
    InSync (idx.indexed objectId (idx.index.overwrite slot idx.nextLabel vector)) := by
  have room : idx.isFull = false := by simp [isFull, free]
  have consistent := sync.consistent.indexed unknown room
    (idx.index.overwrite slot idx.nextLabel vector)
  have label := (sync.consistent.allocated _).mpr (Or.inl (nextLabel_freed free))
  unfold HNSWIndex.indexed at consistent ⊢
  rw [takeLabel_freed free] at consistent ⊢
  refine ⟨consistent, sync.dim, sync.capacity, List.length_set.trans sync.count, ?_, ?_, ?_⟩
  · change (idx.index.overwrite slot idx.nextLabel vector).deletedCount =
      idx.freeIds.dropLast.length
    rw [SlotIndex.deletedCount_overwrite there gone, sync.deleted, List.length_dropLast]
  · intro other slot' found
    rw [SlotIndex.overwrite_table there, Dict.get?_set] at found
    split at found
    · next same => exact same ▸ label
    · rw [Dict.get?_erase] at found
      split at found
      · cases found
      · exact sync.below _ _ found
  · intro other used
    change ((idx.idToObject.set idx.nextLabel objectId).get? other).isSome at used
    rw [Dict.get?_set] at used
    by_cases same : idx.nextLabel = other
    · exact (SlotIndex.holds_overwrite there gone other (Or.inl same.symm)).mpr
        (Or.inl same.symm)
    · rw [if_neg same] at used
      refine (SlotIndex.holds_overwrite there gone other (Or.inr (sync.held other used))).mpr
        (Or.inr ?_)
      rintro rfl
      rw [harmless] at used
      cases used

omit [PyRuntime] in
theorem allotted (sync : InSync idx) {objectId : String}
    (unknown : idx.objectToId.get? objectId = none) (noFree : idx.freeIds = [])
    (room : idx.isFull = false) (vector : List Rat) :
    InSync (idx.indexed objectId (idx.index.append idx.nextId vector)) := by
  have consistent := sync.consistent.indexed unknown room (idx.index.append idx.nextId vector)
  have label := nextLabel_new noFree
  unfold HNSWIndex.indexed at consistent ⊢
  rw [takeLabel_new noFree, label] at consistent ⊢
  refine ⟨consistent, sync.dim, sync.capacity, ?_, ?_, ?_, ?_⟩
  · change (idx.index.slots ++ [_]).length = idx.nextId + 1
    rw [List.length_append, sync.count]
    rfl
  · exact (SlotIndex.deletedCount_append _ _).trans sync.deleted
  · intro other slot found
    change (idx.index.table.set idx.nextId _).get? other = some slot at found
    change other < idx.nextId + 1
    rw [Dict.get?_set] at found
    split at found
    · omega
    · exact Nat.lt_succ_of_lt (sync.below _ _ found)
  · intro other used
    change ((idx.idToObject.set idx.nextId objectId).get? other).isSome at used
    rw [Dict.get?_set] at used
    by_cases same : idx.nextId = other
    · exact SlotIndex.holds_append (Or.inr same.symm)
    · rw [if_neg same] at used
      exact SlotIndex.holds_append (Or.inl ⟨sync.held other used, Ne.symm same⟩)

end InSync

/-- The deleted slot that an addition overwrites does not carry a label in use. -/
def Harmless (idx : HNSWIndex (SlotIndex picks)) : IndexCall → Prop
  | .add objectId embedding =>
      idx.objectToId.get? objectId = none → embedding.IsRow idx.dim → idx.freeIds ≠ [] →
        ∀ label ∈ idx.index.staleLabel, idx.idToObject.get? label = none
  | .search .. | .remove _ => True

variable [PyRuntime]

theorem InSync.step (sync : InSync idx) {call : IndexCall} (harmless : Harmless idx call) :
    InSync (EStateResult.state (HNSWIndex.exec call idx)) := by
  cases call with
  | search query k threshold =>
      rw [exec_search]
      exact sync
  | remove objectId =>
      rw [exec_remove]
      cases known : idx.objectToId.get? objectId with
      | none =>
          rw [remove_unknown known]
          exact sync
      | some label =>
          obtain ⟨slot, entry, there, live, carried, removed⟩ := sync.remove_returns known
          rw [removed]
          exact sync.forgotten known there live carried
  | add objectId embedding =>
      rw [exec_add]
      cases known : idx.objectToId.get? objectId with
      | some label =>
          rw [add_known (by simp [Dict.contains, known])]
          exact sync
      | none =>
          by_cases fits : idx.isFull = false ∧ embedding.IsRow idx.dim
          · obtain ⟨room, row⟩ := fits
            by_cases noFree : idx.freeIds = []
            · rw [sync.add_allots known row noFree room]
              exact sync.allotted known noFree room _
            · obtain ⟨slot, former, vacant, there, gone, added⟩ :=
                sync.add_recycles known row noFree
              rw [added]
              refine sync.recycled known noFree there gone ?_ _
              refine harmless known row noFree former.label ?_
              rw [SlotIndex.staleLabel, vacant, Option.bind_some, SlotIndex.labelAt, there]
              rfl
          · have unknown := (idx.objectToId.contains_eq_false_iff objectId).mpr known
            obtain ⟨e, refused⟩ := add_refused unknown fits
            rw [refused]
            exact sync

/-- Overwriting a slot whose old label is in use takes that label out of the table. -/
theorem InSync.lost (sync : InSync idx) {call : IndexCall} (harmful : ¬ Harmless idx call) :
    ¬ InTable (EStateResult.state (HNSWIndex.exec call idx)) := by
  cases call with
  | search query k threshold => exact absurd trivial harmful
  | remove objectId => exact absurd trivial harmful
  | add objectId embedding =>
      unfold Harmless at harmful
      push Not at harmful
      obtain ⟨unknown, row, free, label, stale, used⟩ := harmful
      obtain ⟨slot, former, vacant, there, gone, added⟩ := sync.add_recycles unknown row free
      rw [SlotIndex.staleLabel, vacant, Option.bind_some, SlotIndex.labelAt, there] at stale
      obtain rfl : former.label = label := Option.some.inj stale
      have apart : idx.nextLabel ≠ former.label := by
        intro same
        exact used (same ▸ sync.consistent.nextLabel_unused)
      rw [exec_add, added]
      intro inTable
      have inUse : ((idx.idToObject.set idx.nextLabel objectId).get? former.label).isSome := by
        rw [Dict.get?_set_ne _ apart]
        exact Option.isSome_iff_ne_none.mpr used
      have kept := (SlotIndex.holds_overwrite there gone former.label
        (Or.inr (sync.held _ (Option.isSome_iff_ne_none.mpr used)))).mp
        (inTable.held former.label inUse)
      rcases kept with same | other
      · exact apart same.symm
      · exact other rfl

end HNSWIndex

/-- Every label in use stays in hnswlib's table, and every indexed id can be removed, exactly
    as long as no deleted slot is overwritten that still carries a label in use. -/
theorem labels_in_table_iff [PyRuntime] {picks : Nat → Nat} {dim maxElements : Int}
    {idx : HNSWIndex (SlotIndex picks)} (built : HNSWIndex.new dim maxElements = .ok idx)
    (calls : List IndexCall) :
    (∀ pre post, calls = pre ++ post → (drive HNSWIndex.exec idx pre).InTable) ↔
      ∀ pre call post, calls = pre ++ call :: post →
        (drive HNSWIndex.exec idx pre).Harmless call :=
  @drive_all_reached_iff _ _ _ _ HNSWIndex.exec (fun s _ => s.InSync) HNSWIndex.InTable
    HNSWIndex.Harmless (fun _ _ sync => sync.inTable)
    (fun _ _ _ sync harmless => sync.step harmless)
    (fun _ _ _ sync harmful => sync.lost harmful) _ _ (.new built)

section

open Reference

private def twoRecycled : List IndexCall :=
  [.add "a" (array [1]), .add "b" (array [1]), .remove "a", .remove "b",
    .add "c" (array [1]), .add "d" (array [1])]

private def emptySlots (picks : Nat → Nat) : HNSWIndex (SlotIndex picks) :=
  ⟨1, 2, Hnswlib.initIndex 1 2, .empty, .empty, [], 0, Nat.one_pos, Nat.two_pos⟩

/-- Two labels are recycled, and hnswlib overwrites the slot deleted last first. -/
theorem labels_in_table_last_first :
    HNSWIndex.new 1 2 = .ok (emptySlots fun _ => 1) ∧ ∀ pre post, twoRecycled = pre ++ post →
      (drive HNSWIndex.exec (emptySlots fun _ => 1) pre).InTable := by
  refine ⟨rfl, (@labels_in_table_iff _ _ 1 2 _ rfl twoRecycled).mpr fun pre call post split => ?_⟩
  rcases pre with _ | ⟨_, _ | ⟨_, _ | ⟨_, _ | ⟨_, _ | ⟨_, _ | ⟨_, rest⟩⟩⟩⟩⟩⟩
  · cases split
    exact fun _ _ free => absurd rfl free
  · cases split
    exact fun _ _ free => absurd rfl free
  · cases split
    trivial
  · cases split
    trivial
  · cases split
    intro _ _ _
    decide +kernel
  · cases split
    intro _ _ _
    decide +kernel
  · have length := congrArg List.length split
    simp [twoRecycled] at length

/-- Fourteen objects come and go, and nine others come. -/
private def nineRecycled : List IndexCall :=
  ((List.range 14).map fun i => .add s!"old{i}" (array [1])) ++
    ((List.range 14).map fun i => .remove s!"old{i}") ++
    ((List.range 9).map fun i => .add s!"new{i}" (array [1]))

/-- A hash set of fourteen slots whose buckets grew with the last one: that one comes first, the
    others follow in order. -/
private def lastThenInOrder (n : Nat) : Nat := if n = 0 then 13 else 0

/-- Labels are recycled from the last one down, and slots are overwritten from the first one up:
    where they have passed each other the label of an object is lost, and the object cannot be
    removed. -/
theorem recycled_label_lost :
    ¬ ∀ (picks : Nat → Nat) (idx : HNSWIndex (SlotIndex picks)) (calls : List IndexCall),
      HNSWIndex.new 1 14 = .ok idx → (drive HNSWIndex.exec idx calls).InTable := by
  intro always
  let start : HNSWIndex (SlotIndex lastThenInOrder) :=
    ⟨1, 14, Hnswlib.initIndex 1 14, .empty, .empty, [], 0, Nat.one_pos, Nat.succ_pos 13⟩
  have inTable := always lastThenInOrder start nineRecycled rfl
  obtain ⟨idx', removed⟩ := inTable.removable "new6" (by decide +kernel)
  have raised : EStateResult.outcome (HNSWIndex.remove "new6"
      (drive HNSWIndex.exec start nineRecycled)) =
        .error (.runtimeError "Label not found") := by decide +kernel
  rw [removed] at raised
  cases raised

end

end IntelliL3
