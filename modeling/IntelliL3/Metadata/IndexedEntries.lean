import IntelliL3.Metadata.IndexedVectors
import IntelliL3.Metadata.MetadataStore

/-! # The semantic entries the metadata knows

What additions and removals of semantic entries do to the map the index mirrors,
and when an addition is accepted.
-/

namespace IntelliL3

open Lib

namespace MetadataStore

variable {η : Type}

section

variable [Hnswlib η]

theorem hnswFor_eq_ok {self : MetadataStore η} {dim : Nat} {idx : HNSWIndex η}
    (found : self.hnswFor dim = .ok idx) :
    self.hnsw = some idx ∧ idx.dim = dim ∨
      self.hnsw = none ∧ HNSWIndex.new dim self.expectedItems = .ok idx := by
  unfold hnswFor at found
  split at found
  · next absent => exact Or.inr ⟨absent, found⟩
  · next index present =>
      split at found
      · next fits =>
          cases found
          exact Or.inl ⟨present, fits⟩
      · cases found

theorem onObjectRemoved_semantic_ok {self self' : MetadataStore η} {objectId : String}
    (done : onObjectRemoved .semanticCache objectId self = .ok () self') :
    self.hnsw = none ∧ self' = self ∨
      ∃ idx removed idx', self.hnsw = some idx ∧ HNSWIndex.remove objectId idx = .ok removed idx' ∧
        self' = { self with hnsw := some idx' } := by
  rw [onObjectRemoved_semantic] at done
  cases present : self.hnsw with
  | none =>
      rw [present] at done
      cases done
      exact Or.inl ⟨rfl, rfl⟩
  | some idx =>
      simp only [present] at done
      cases removal : HNSWIndex.remove objectId idx with
      | error e idx' => rw [removal] at done; cases done
      | ok removed idx' =>
          rw [removal] at done
          cases done
          exact Or.inr ⟨idx, removed, idx', rfl, removal, rfl⟩

section

variable [PyRuntime]

theorem onSemanticEntryAdded_ok {self self' : MetadataStore η} {objectId : String}
    {embedding : NdArray} (done : onSemanticEntryAdded objectId embedding self = .ok () self') :
    ∃ dim idx idx', embedding.lastDim = .ok dim ∧ self.hnswFor dim = .ok idx ∧
      HNSWIndex.add objectId embedding idx = .ok () idx' ∧
      self' = { self.bloomed objectId with hnsw := some idx' } := by
  rw [onSemanticEntryAdded_eq] at done
  cases last : embedding.lastDim with
  | error e => rw [last] at done; cases done
  | ok dim =>
      simp only [last] at done
      cases found : self.hnswFor dim with
      | error e => rw [found] at done; cases done
      | ok idx =>
          simp only [found] at done
          cases addition : HNSWIndex.add objectId embedding idx with
          | error e idx' => rw [addition] at done; cases done
          | ok _ idx' =>
              rw [addition] at done
              cases done
              exact ⟨dim, idx, idx', rfl, found, addition, rfl⟩

end

section

variable [HnswlibStores η]

/-- The index mirrors a map; as long as there is no index, the map is empty. -/
def IndexMirrors (self : MetadataStore η) (vectors : String → Option (List Rat)) : Prop :=
  match self.hnsw with
  | none => ∀ id, vectors id = none
  | some idx => idx.Mirrors vectors

variable {self self' : MetadataStore η} {vectors : String → Option (List Rat)}

theorem IndexMirrors.of_some (mirrors : self.IndexMirrors vectors) {idx : HNSWIndex η}
    (present : self.hnsw = some idx) : idx.Mirrors vectors := by
  simpa only [IndexMirrors, present] using mirrors

theorem IndexMirrors.hnswFor (mirrors : self.IndexMirrors vectors) {dim : Nat}
    {idx : HNSWIndex η} (found : self.hnswFor dim = .ok idx) : idx.Mirrors vectors := by
  rcases hnswFor_eq_ok found with ⟨present, -⟩ | ⟨absent, built⟩
  · exact mirrors.of_some present
  · simp only [IndexMirrors, absent] at mirrors
    rw [show vectors = fun _ => none from funext mirrors]
    exact HNSWIndex.Mirrors.new built

/-- A removal takes the id out of the mirrored map. -/
theorem IndexMirrors.removed (mirrors : self.IndexMirrors vectors) {objectId : String}
    (done : onObjectRemoved .semanticCache objectId self = .ok () self') :
    self'.IndexMirrors (Function.update vectors objectId none) := by
  rcases onObjectRemoved_semantic_ok done with
    ⟨absent, same⟩ | ⟨idx, removed, idx', present, removal, same⟩
  · simp only [IndexMirrors, absent] at mirrors
    rw [← mirrors objectId, Function.update_eq_self, same]
    simpa only [IndexMirrors, absent] using mirrors
  · rw [same]
    exact (mirrors.of_some present).remove removal

variable [PyRuntime]

/-- An addition puts the id into the mirrored map, unless it is there already. -/
theorem IndexMirrors.added (mirrors : self.IndexMirrors vectors) {objectId : String}
    {embedding : NdArray} (done : onSemanticEntryAdded objectId embedding self = .ok () self') :
    self'.IndexMirrors (Function.update vectors objectId
      (some ((vectors objectId).getD embedding.asFloat32))) := by
  obtain ⟨dim, idx, idx', -, found, addition, same⟩ := onSemanticEntryAdded_ok done
  rw [same]
  exact (mirrors.hnswFor found).add addition

theorem IndexMirrors.fresh {expectedItems : Int} {fpRate : Rat} {embeddingDim : Option Int}
    (built : new expectedItems fpRate embeddingDim = .ok self) :
    self.IndexMirrors fun _ => none := by
  obtain ⟨-, -, -, absent | ⟨dim, idx, index, present⟩⟩ := new_fresh built
  · simp only [IndexMirrors, absent, implies_true]
  · simp only [IndexMirrors, present]
    exact HNSWIndex.Mirrors.new index

end

/-! ## When an addition is accepted -/

section

variable {self self' : MetadataStore η}

/-- An index, when there is one, is over vectors of this dimension. -/
def HasDim (self : MetadataStore η) (dim : Nat) : Prop :=
  ∀ idx, self.hnsw = some idx → idx.dim = dim

omit [Hnswlib η] in
theorem HasDim.of_absent (absent : self.hnsw = none) (dim : Nat) : self.HasDim dim := by
  intro idx present
  rw [absent] at present
  cases present

theorem hnswFor_dim {dim : Nat} {idx : HNSWIndex η} (found : self.hnswFor dim = .ok idx) :
    idx.dim = dim := by
  rcases hnswFor_eq_ok found with ⟨-, fits⟩ | ⟨-, built⟩
  · exact fits
  · exact Int.ofNat.inj (HNSWIndex.new_eq_ok built).2.2.1

variable [PyRuntime]

/-- After an addition there is an index over rows of the dimension added. -/
theorem HasDim.added {dim : Nat} {objectId : String} {embedding : NdArray}
    (row : embedding.IsRow dim)
    (done : onSemanticEntryAdded objectId embedding self = .ok () self') : self'.HasDim dim := by
  obtain ⟨last, idx, idx', lastDim, found, addition, same⟩ := onSemanticEntryAdded_ok done
  rw [row.lastDim] at lastDim
  cases lastDim
  rw [same]
  rintro _ ⟨⟩
  exact (HNSWIndex.add_keeps addition).1.trans (hnswFor_dim found)

end

section

variable [LawfulHnswlib η] {self self' : MetadataStore η}
  {vectors : String → Option (List Rat)}

/-- hnswlib is in step with the index, whose capacity is `expected_items`. -/
def InStep (self : MetadataStore η) : Prop :=
  ∀ idx, self.hnsw = some idx → idx.InStep ∧ idx.maxElements = self.expectedItems

theorem InStep.hnswFor (inStep : self.InStep) {dim : Nat} {idx : HNSWIndex η}
    (found : self.hnswFor dim = .ok idx) :
    idx.InStep ∧ idx.maxElements = self.expectedItems := by
  rcases hnswFor_eq_ok found with ⟨present, -⟩ | ⟨-, built⟩
  · exact inStep idx present
  · exact ⟨HNSWIndex.InStep.new built, (HNSWIndex.new_eq_ok built).2.2.2⟩

theorem InStep.removed (inStep : self.InStep) {objectId : String}
    (done : onObjectRemoved .semanticCache objectId self = .ok () self') : self'.InStep := by
  rcases onObjectRemoved_semantic_ok done with
    ⟨-, same⟩ | ⟨idx, removed, idx', present, removal, same⟩
  · rw [same]
    exact inStep
  · rw [same]
    rintro _ ⟨⟩
    obtain ⟨before, capacity⟩ := inStep idx present
    refine ⟨before.remove removal, ?_⟩
    rw [(HNSWIndex.remove_keeps removal).2]
    exact capacity

variable [PyRuntime]

theorem InStep.fresh {expectedItems : Int} {fpRate : Rat} {embeddingDim : Option Int}
    (built : new expectedItems fpRate embeddingDim = .ok self) : self.InStep := by
  obtain ⟨-, -, expected, absent | ⟨dim, index, indexBuilt, present⟩⟩ := new_fresh built
  · intro idx present
    rw [absent] at present
    cases present
  · intro idx held
    rw [present, Option.some.injEq] at held
    subst held
    exact ⟨HNSWIndex.InStep.new indexBuilt,
      (HNSWIndex.new_eq_ok indexBuilt).2.2.2.trans expected.symm⟩

theorem InStep.added (inStep : self.InStep) (mirrors : self.IndexMirrors vectors)
    {objectId : String} {embedding : NdArray}
    (done : onSemanticEntryAdded objectId embedding self = .ok () self') : self'.InStep := by
  obtain ⟨dim, idx, idx', -, found, addition, same⟩ := onSemanticEntryAdded_ok done
  obtain ⟨before, capacity⟩ := inStep.hnswFor found
  rw [same]
  rintro _ ⟨⟩
  refine ⟨before.add (mirrors.hnswFor found).consistent addition, ?_⟩
  rw [(HNSWIndex.add_keeps addition).2]
  exact capacity

omit [PyRuntime] in
/-- The index a new entry would go to, and how full it is. -/
private theorem hnswFor_room (mirrors : self.IndexMirrors vectors) (inStep : self.InStep)
    {dim : Nat} {idx : HNSWIndex η} (found : self.hnswFor dim = .ok idx) :
    idx.isFull = true ↔ self.expectedItems ≤ self.stats.hnswSize := by
  have capacity := (inStep.hnswFor found).2
  have full := (mirrors.hnswFor found).consistent.isFull_iff
  rcases hnswFor_eq_ok found with ⟨present, -⟩ | ⟨absent, built⟩
  · rw [full, ← capacity, stats, present]
    exact Int.ofNat_le.symm
  · rw [full, ← capacity, stats, absent, HNSWIndex.new_size built]
    exact Int.ofNat_le.symm

/-- A row of the right dimension is accepted if the index has room or knows the id. -/
theorem onSemanticEntryAdded_returns (mirrors : self.IndexMirrors vectors)
    (inStep : self.InStep) {dim : Nat} (positive : 0 < dim) (hasDim : self.HasDim dim)
    {objectId : String} {embedding : NdArray} (row : embedding.IsRow dim)
    (room : self.stats.hnswSize < self.expectedItems ∨ (vectors objectId).isSome) :
    ∃ self', onSemanticEntryAdded objectId embedding self = .ok () self' := by
  have found : ∃ idx, self.hnswFor dim = .ok idx := by
    unfold MetadataStore.hnswFor
    cases present : self.hnsw with
    | some idx => exact ⟨idx, if_pos (hasDim idx present)⟩
    | none =>
        rcases room with room | known
        · exact HNSWIndex.new_returns (by omega) (by omega)
        · simp only [IndexMirrors, present] at mirrors
          rw [mirrors objectId] at known
          cases known
  obtain ⟨idx, found⟩ := found
  have addition : ∃ idx', HNSWIndex.add objectId embedding idx = .ok () idx' := by
    rcases room with room | known
    · have notFull : idx.isFull = false := by
        rw [← Bool.not_eq_true, hnswFor_room mirrors inStep found]
        omega
      exact (inStep.hnswFor found).1.add_accepted (mirrors.hnswFor found) objectId
        (by rw [hnswFor_dim found]; exact row) notFull
    · rw [← (mirrors.hnswFor found).known] at known
      exact ⟨idx, HNSWIndex.add_known known embedding⟩
  obtain ⟨idx', addition⟩ := addition
  refine ⟨{ self.bloomed objectId with hnsw := some idx' }, ?_⟩
  rw [onSemanticEntryAdded_eq, row.lastDim]
  simp only [found, addition]

/-- What a new entry meets when there is no room for it. -/
def noRoom (expectedItems : Int) : PyError :=
  if 0 < expectedItems then .valueError "HNSWIndex max_elements limit reached"
  else .valueError "max_elements must be positive"

omit [PyRuntime] in
theorem noRoom_eq (expectedItems : Int) :
    ∃ message, noRoom expectedItems = .valueError message := by
  unfold noRoom
  split
  · exact ⟨_, rfl⟩
  · exact ⟨_, rfl⟩

/-- A new id is refused once the index is full, which leaves the id in the Bloom
    filter. -/
theorem onSemanticEntryAdded_full (mirrors : self.IndexMirrors vectors)
    (inStep : self.InStep) {dim : Nat} (positive : 0 < dim) (hasDim : self.HasDim dim)
    {objectId : String} (unknown : vectors objectId = none) {embedding : NdArray}
    (row : embedding.IsRow dim) (full : self.expectedItems ≤ self.stats.hnswSize) :
    onSemanticEntryAdded objectId embedding self =
      .error (noRoom self.expectedItems) (self.bloomed objectId) := by
  rw [onSemanticEntryAdded_eq, row.lastDim]
  cases found : self.hnswFor dim with
  | error e =>
      have refused : e = noRoom self.expectedItems := by
        unfold MetadataStore.hnswFor at found
        cases present : self.hnsw with
        | some idx => rw [present] at found; simp [hasDim idx present] at found
        | none =>
            rw [present] at found
            have empty : self.stats.hnswSize = 0 := by rw [stats, present]
            have noCapacity : self.expectedItems ≤ 0 := by rw [empty] at full; exact full
            have refusal := HNSWIndex.new_refused (η := η) (Int.natCast_pos.mpr positive) noCapacity
            rw [refusal] at found
            cases found
            rw [noRoom, if_neg (by omega)]
      simp only [found, refused]
  | ok idx =>
      have isFull := (hnswFor_room mirrors inStep found).mpr full
      have notKnown : idx.objectToId.contains objectId = false := by
        rw [(mirrors.hnswFor found).known, unknown]
        rfl
      have present : self.hnsw = some idx := by
        rcases hnswFor_eq_ok found with ⟨present, -⟩ | ⟨absent, built⟩
        · exact present
        · have capacity := (HNSWIndex.new_eq_ok built).2.1
          have empty : self.stats.hnswSize = 0 := by rw [stats, absent]
          rw [empty] at full
          omega
      have positive : 0 < self.expectedItems := by
        rw [← (inStep.hnswFor found).2]
        exact Int.natCast_pos.mpr idx.capacityPositive
      simp only [found, HNSWIndex.add_full notKnown isFull, ← present, noRoom, if_pos positive]
      rfl

omit [LawfulHnswlib η] [PyRuntime] in
/-- The size of an index that mirrors exactly these ids. -/
theorem IndexMirrors.hnswSize_eq [HnswlibStores η] (mirrors : self.IndexMirrors vectors)
    {ids : List String} (distinct : ids.Nodup)
    (members : ∀ id, id ∈ ids ↔ (vectors id).isSome) : self.stats.hnswSize = ids.length := by
  unfold IndexMirrors at mirrors
  cases present : self.hnsw with
  | none =>
      rw [present] at mirrors
      have nobody : ids = [] := List.eq_nil_iff_forall_not_mem.mpr fun id member => by
        rw [members, mirrors id] at member
        cases member
      rw [stats, present, nobody]
      rfl
  | some idx =>
      rw [present] at mirrors
      have same : idx.objectToId.keys.Perm ids :=
        (List.perm_ext_iff_of_nodup idx.objectToId.keys_nodup distinct).mpr fun id => by
          rw [members, ← mirrors.known]
          exact idx.objectToId.mem_keys_iff id
      rw [stats, present, ← same.length_eq, Dict.length_keys]
      rfl

/-- A new id makes the index grow by one. -/
theorem onSemanticEntryAdded_size (mirrors : self.IndexMirrors vectors) {objectId : String}
    (unknown : vectors objectId = none) {embedding : NdArray}
    (done : onSemanticEntryAdded objectId embedding self = .ok () self') :
    self'.stats.hnswSize = self.stats.hnswSize + 1 := by
  obtain ⟨dim, idx, idx', -, found, addition, same⟩ := onSemanticEntryAdded_ok done
  have notKnown : idx.objectToId.contains objectId = false := by
    rw [(mirrors.hnswFor found).known, unknown]
    rfl
  have before : self.stats.hnswSize = idx.size := by
    rcases hnswFor_eq_ok found with ⟨present, -⟩ | ⟨absent, built⟩
    · rw [stats, present]
    · rw [stats, absent, HNSWIndex.new_size built]
  rw [before, same]
  exact HNSWIndex.add_size notKnown addition

end

end

end MetadataStore

end IntelliL3
