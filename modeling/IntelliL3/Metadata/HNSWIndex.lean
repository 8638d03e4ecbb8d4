import IntelliL3.Core.Platform
import IntelliL3.Lib.Run

/-! # HNSW index

`metadata/hnsw_index.py`: object ids are mapped to integer labels of an hnswlib
index, and labels of removed objects are handed out again.
-/

namespace IntelliL3

open Lib

structure HNSWIndex (η : Type) where
  dim : Nat
  maxElements : Nat
  index : η
  idToObject : Dict Nat String
  objectToId : Dict String Nat
  freeIds : List Nat
  nextId : Nat
  dimPositive : 0 < dim
  capacityPositive : 0 < maxElements

/-- `str(tuple(shape))` -/
def showTuple : List Nat → String
  | [only] => s!"({only},)"
  | shape => "(" ++ String.intercalate ", " (shape.map toString) ++ ")"

namespace HNSWIndex

variable {η : Type}

def size (self : HNSWIndex η) : Nat := self.objectToId.size

/-- The label the next `add` takes: the last one freed, else a new one. -/
def nextLabel (self : HNSWIndex η) : Nat := self.freeIds.getLast?.getD self.nextId

/-- The bookkeeping once that label is taken, before hnswlib has accepted it. -/
def takeLabel (self : HNSWIndex η) : HNSWIndex η :=
  if self.freeIds.isEmpty then { self with nextId := self.nextId + 1 }
  else { self with freeIds := self.freeIds.dropLast }

/-- `not self._free_ids and self._next_id >= self._max_elements` -/
def isFull (self : HNSWIndex η) : Bool :=
  self.freeIds.isEmpty && decide (self.maxElements ≤ self.nextId)

theorem takeLabel_maps (self : HNSWIndex η) :
    self.takeLabel.index = self.index ∧ self.takeLabel.idToObject = self.idToObject ∧
      self.takeLabel.objectToId = self.objectToId ∧ self.takeLabel.dim = self.dim ∧
      self.takeLabel.maxElements = self.maxElements := by
  unfold takeLabel
  split <;> exact ⟨rfl, rfl, rfl, rfl, rfl⟩

theorem takeLabel_new {self : HNSWIndex η} (noFree : self.freeIds = []) :
    self.takeLabel = { self with nextId := self.nextId + 1 } := by
  simp only [takeLabel, noFree, List.isEmpty_nil, if_true]

theorem takeLabel_freed {self : HNSWIndex η} (free : self.freeIds ≠ []) :
    self.takeLabel = { self with freeIds := self.freeIds.dropLast } := by
  simp only [takeLabel, List.isEmpty_iff, free, if_false]

theorem nextLabel_new {self : HNSWIndex η} (noFree : self.freeIds = []) :
    self.nextLabel = self.nextId := by
  simp only [nextLabel, noFree, List.getLast?_nil, Option.getD_none]

theorem nextLabel_freed {self : HNSWIndex η} (free : self.freeIds ≠ []) :
    self.nextLabel ∈ self.freeIds := by
  rw [nextLabel, List.getLast?_eq_some_getLast free, Option.getD_some]
  exact List.getLast_mem free

/-- The loop over the rows of `knn_query`: labels without an object are skipped,
    and it stops once `k` results are collected. -/
def collect (self : HNSWIndex η) (k : Nat) (threshold : Rat) :
    List (Nat × Rat) → List (String × Rat) → List (String × Rat)
  | [], results => results
  | (label, distance) :: rows, results =>
      match self.idToObject.get? label with
      | none => collect self k threshold rows results
      | some objectId =>
          let similarity := 1 - distance
          let results :=
            if threshold ≤ similarity then results ++ [(objectId, similarity)] else results
          if k ≤ results.length then results else collect self k threshold rows results

/-- The state after a label was taken and hnswlib accepted the vector. -/
def indexed (self : HNSWIndex η) (objectId : String) (index : η) : HNSWIndex η :=
  { self.takeLabel with
    index
    idToObject := self.idToObject.set self.nextLabel objectId
    objectToId := self.objectToId.set objectId self.nextLabel }

section

variable [Hnswlib η]

def new (dim maxElements : Int) : Except PyError (HNSWIndex η) :=
  if wrongDim : dim ≤ 0 then .error (.valueError "dim must be positive")
  else if wrongCapacity : maxElements ≤ 0 then
    .error (.valueError "max_elements must be positive")
  else .ok {
    dim := dim.toNat
    maxElements := maxElements.toNat
    index := Hnswlib.initIndex dim.toNat maxElements.toNat
    idToObject := .empty
    objectToId := .empty
    freeIds := []
    nextId := 0
    dimPositive := by omega
    capacityPositive := by omega }

/-- An index with nothing in it. -/
def blank (dim maxElements : { n : Nat // 0 < n }) : HNSWIndex η where
  dim := dim
  maxElements := maxElements
  index := Hnswlib.initIndex dim maxElements
  idToObject := .empty
  objectToId := .empty
  freeIds := []
  nextId := 0
  dimPositive := dim.property
  capacityPositive := maxElements.property

theorem new_eq_blank {dim maxElements : Int} {idx : HNSWIndex η}
    (built : new dim maxElements = .ok idx) :
    ∃ d m : { n : Nat // 0 < n }, dim = d ∧ maxElements = m ∧ idx = blank d m := by
  obtain ⟨someDim, built⟩ := check_passed built
  obtain ⟨someRoom, built⟩ := check_passed built
  cases built
  refine ⟨⟨dim.toNat, by omega⟩, ⟨maxElements.toNat, by omega⟩, ?_, ?_, rfl⟩
  · exact (Int.toNat_of_nonneg (by omega)).symm
  · exact (Int.toNat_of_nonneg (by omega)).symm

theorem new_eq_ok {dim maxElements : Int} {idx : HNSWIndex η}
    (built : new dim maxElements = .ok idx) :
    0 < dim ∧ 0 < maxElements ∧ idx.dim = dim ∧ idx.maxElements = maxElements := by
  obtain ⟨d, m, rfl, rfl, rfl⟩ := new_eq_blank built
  exact ⟨Int.natCast_pos.mpr d.property, Int.natCast_pos.mpr m.property, rfl, rfl⟩

theorem new_returns {dim maxElements : Int} (dimPositive : 0 < dim)
    (capacityPositive : 0 < maxElements) : ∃ idx : HNSWIndex η, new dim maxElements = .ok idx := by
  unfold new
  rw [dif_neg (by omega), dif_neg (by omega)]
  exact ⟨_, rfl⟩

theorem new_refused {dim maxElements : Int} (dimPositive : 0 < dim)
    (noCapacity : maxElements ≤ 0) :
    (new dim maxElements : Except PyError (HNSWIndex η)) =
      .error (.valueError "max_elements must be positive") := by
  unfold new
  rw [dif_neg (by omega), dif_pos noCapacity]

theorem new_objectToId {dim maxElements : Int} {idx : HNSWIndex η}
    (built : new dim maxElements = .ok idx) : idx.objectToId = .empty := by
  obtain ⟨d, m, -, -, rfl⟩ := new_eq_blank built
  rfl

theorem new_size {dim maxElements : Int} {idx : HNSWIndex η}
    (built : new dim maxElements = .ok idx) : idx.size = 0 := by
  rw [size, new_objectToId built]
  rfl

def onIndex (action : EStateM PyError η α) : EStateM PyError (HNSWIndex η) α :=
  zoom index (fun self index => { self with index }) action

def remove (objectId : String) : EStateM PyError (HNSWIndex η) Bool := do
  let self ← get
  match self.objectToId.get? objectId with
  | none => pure false
  | some internalId =>
      set { self with
        objectToId := self.objectToId.erase objectId
        idToObject := self.idToObject.erase internalId }
      onIndex (Hnswlib.markDeleted internalId)
      modify fun s => { s with freeIds := s.freeIds ++ [internalId] }
      pure true

theorem remove_unknown {self : HNSWIndex η} {objectId : String}
    (unknown : self.objectToId.get? objectId = none) :
    remove objectId self = .ok false self := by
  simp only [remove, bind_run, get_run, unknown, pure_run]

/-- The state after hnswlib has marked the label of a removed object. -/
def forgotten (self : HNSWIndex η) (objectId : String) (internalId : Nat) (index : η) :
    HNSWIndex η :=
  { self with
    index
    objectToId := self.objectToId.erase objectId
    idToObject := self.idToObject.erase internalId
    freeIds := self.freeIds ++ [internalId] }

theorem remove_known {self : HNSWIndex η} {objectId : String} {internalId : Nat}
    (known : self.objectToId.get? objectId = some internalId) :
    remove objectId self =
      match Hnswlib.markDeleted internalId self.index with
      | .ok _ index => .ok true (self.forgotten objectId internalId index)
      | .error e index => .error e { self with
          index
          objectToId := self.objectToId.erase objectId
          idToObject := self.idToObject.erase internalId } := by
  simp only [remove, bind_run, get_run, known, set_run, onIndex, zoom_run]
  cases Hnswlib.markDeleted internalId self.index with
  | ok _ index => simp only [modify_run, pure_run, forgotten]
  | error e index => rfl

variable [PyRuntime]

def prepareEmbedding (self : HNSWIndex η) (embedding : NdArray) : Except PyError (List Rat) :=
  let shape := if embedding.shape.length = 1 then 1 :: embedding.shape else embedding.shape
  if shape = [1, self.dim] then .ok embedding.asFloat32
  else .error (.valueError
    s!"embedding must have shape ({self.dim},) or (1, {self.dim}), got {showTuple shape}")

def add (objectId : String) (embedding : NdArray) : EStateM PyError (HNSWIndex η) Unit := do
  let self ← get
  if self.objectToId.contains objectId then pure ()
  else if self.isFull then throw (.valueError "HNSWIndex max_elements limit reached")
  else
    let vector ← raising (self.prepareEmbedding embedding)
    set self.takeLabel
    onIndex (Hnswlib.addItems vector self.nextLabel (!self.freeIds.isEmpty))
    modify fun s => { s with
      idToObject := s.idToObject.set self.nextLabel objectId
      objectToId := s.objectToId.set objectId self.nextLabel }

def search (self : HNSWIndex η) (query : NdArray) (k : Int) (threshold : Rat) :
    Except PyError (List (String × Rat)) :=
  if k ≤ 0 ∨ self.idToObject.size = 0 then .ok []
  else do
    let vector ← self.prepareEmbedding query
    let rows ← Hnswlib.knnQuery self.index vector (min k.toNat self.idToObject.size)
    return self.collect k.toNat threshold rows []

theorem add_known {self : HNSWIndex η} {objectId : String}
    (known : self.objectToId.contains objectId = true) (embedding : NdArray) :
    add objectId embedding self = .ok () self := by
  simp only [add, bind_run, get_run, known, if_true, pure_run]

theorem add_full {self : HNSWIndex η} {objectId : String}
    (unknown : self.objectToId.contains objectId = false) (full : self.isFull = true)
    (embedding : NdArray) :
    add objectId embedding self =
      .error (.valueError "HNSWIndex max_elements limit reached") self := by
  simp only [add, bind_run, get_run, unknown, full, Bool.false_eq_true, if_false, if_true,
    throw_run]

theorem add_badShape {self : HNSWIndex η} {objectId : String} {embedding : NdArray} {e : PyError}
    (unknown : self.objectToId.contains objectId = false) (room : self.isFull = false)
    (refused : self.prepareEmbedding embedding = .error e) :
    add objectId embedding self = .error e self := by
  simp only [add, bind_run, get_run, unknown, room, Bool.false_eq_true, if_false, refused,
    raising_error]

theorem add_new {self : HNSWIndex η} {objectId : String} {embedding : NdArray}
    {vector : List Rat}
    (unknown : self.objectToId.contains objectId = false) (room : self.isFull = false)
    (prepared : self.prepareEmbedding embedding = .ok vector) :
    add objectId embedding self =
      match Hnswlib.addItems vector self.nextLabel (!self.freeIds.isEmpty) self.index with
      | .ok _ index => .ok () (self.indexed objectId index)
      | .error e index => .error e { self.takeLabel with index } := by
  obtain ⟨same, sameIds, sameObjects, -, -⟩ := self.takeLabel_maps
  simp only [add, bind_run, get_run, unknown, room, Bool.false_eq_true, if_false, prepared,
    raising_ok, set_run, onIndex, zoom_run, same]
  cases Hnswlib.addItems vector self.nextLabel (!self.freeIds.isEmpty) self.index with
  | ok _ index => simp only [modify_run, sameIds, sameObjects, indexed]
  | error e index => rfl

/-- An `add` that returns knew the id already, or has indexed its vector. -/
theorem add_ok {self self' : HNSWIndex η} {objectId : String} {embedding : NdArray}
    (done : add objectId embedding self = .ok () self') :
    self.objectToId.contains objectId = true ∧ self' = self ∨
      self.objectToId.contains objectId = false ∧ self.isFull = false ∧
        ∃ vector index, self.prepareEmbedding embedding = .ok vector ∧
          Hnswlib.addItems vector self.nextLabel (!self.freeIds.isEmpty) self.index =
            .ok () index ∧
          self' = self.indexed objectId index := by
  cases known : self.objectToId.contains objectId with
  | true =>
      rw [add_known known] at done
      cases done
      exact Or.inl ⟨rfl, rfl⟩
  | false =>
      cases room : self.isFull with
      | true => rw [add_full known room] at done; cases done
      | false =>
          cases prepared : self.prepareEmbedding embedding with
          | error e => rw [add_badShape known room prepared] at done; cases done
          | ok vector =>
              rw [add_new known room prepared] at done
              cases added : Hnswlib.addItems vector self.nextLabel (!self.freeIds.isEmpty)
                self.index with
              | error e index => rw [added] at done; cases done
              | ok _ index =>
                  rw [added] at done
                  cases done
                  exact Or.inr ⟨rfl, rfl, vector, index, rfl, added, rfl⟩

omit [PyRuntime] in
theorem remove_ok {self self' : HNSWIndex η} {objectId : String} {removed : Bool}
    (done : remove objectId self = .ok removed self') :
    self.objectToId.get? objectId = none ∧ self' = self ∨
      ∃ label index, self.objectToId.get? objectId = some label ∧
        Hnswlib.markDeleted label self.index = .ok () index ∧
        self' = self.forgotten objectId label index := by
  cases known : self.objectToId.get? objectId with
  | none =>
      rw [remove_unknown known] at done
      cases done
      exact Or.inl ⟨rfl, rfl⟩
  | some label =>
      rw [remove_known known] at done
      cases marked : Hnswlib.markDeleted label self.index with
      | error e index => rw [marked] at done; cases done
      | ok _ index =>
          rw [marked] at done
          cases done
          exact Or.inr ⟨label, index, rfl, marked, rfl⟩

omit [Hnswlib η] in
/-- What a vector must look like depends on the dimension only. -/
theorem prepareEmbedding_eq_ok {self : HNSWIndex η} {embedding : NdArray} {vector : List Rat} :
    self.prepareEmbedding embedding = .ok vector ↔
      embedding.IsRow self.dim ∧ embedding.asFloat32 = vector := by
  have row : (if embedding.shape.length = 1 then 1 :: embedding.shape else embedding.shape) =
      [1, self.dim] ↔ embedding.IsRow self.dim := by
    unfold NdArray.IsRow
    split
    · next flat =>
        constructor
        · intro same
          exact Or.inl (List.cons.inj same).2
        · rintro (same | same)
          · rw [same]
          · rw [same] at flat
            cases flat
    · next notFlat =>
        refine ⟨Or.inr, ?_⟩
        rintro (same | same)
        · rw [same] at notFlat
          exact absurd rfl notFlat
        · exact same
  rw [← row]
  unfold prepareEmbedding
  generalize (if embedding.shape.length = 1 then 1 :: embedding.shape else embedding.shape) =
    shape
  by_cases fits : shape = [1, self.dim]
  · simp only [fits, if_true, Except.ok.injEq, true_and]
  · simp only [fits, if_false, reduceCtorEq, false_and]

/-- An unknown id is refused by a full index and with a vector of another shape, and
    nothing changes. -/
theorem add_refused {self : HNSWIndex η} {objectId : String} {embedding : NdArray}
    (unknown : self.objectToId.contains objectId = false)
    (unfit : ¬ (self.isFull = false ∧ embedding.IsRow self.dim)) :
    ∃ e, add objectId embedding self = .error e self := by
  cases room : self.isFull with
  | true => exact ⟨_, add_full unknown room embedding⟩
  | false =>
      cases prepared : self.prepareEmbedding embedding with
      | error e => exact ⟨e, add_badShape unknown room prepared⟩
      | ok vector => exact absurd ⟨room, (prepareEmbedding_eq_ok.mp prepared).1⟩ unfit

theorem add_keeps {self self' : HNSWIndex η} {objectId : String} {embedding : NdArray}
    (done : add objectId embedding self = .ok () self') :
    self'.dim = self.dim ∧ self'.maxElements = self.maxElements := by
  rcases add_ok done with ⟨-, same⟩ | ⟨-, -, vector, index, -, -, same⟩
  · rw [same]
    exact ⟨rfl, rfl⟩
  · rw [same]
    exact ⟨self.takeLabel_maps.2.2.2.1, self.takeLabel_maps.2.2.2.2⟩

theorem add_size {self self' : HNSWIndex η} {objectId : String} {embedding : NdArray}
    (unknown : self.objectToId.contains objectId = false)
    (done : add objectId embedding self = .ok () self') : self'.size = self.size + 1 := by
  rcases add_ok done with ⟨known, -⟩ | ⟨-, -, vector, index, -, -, same⟩
  · rw [unknown] at known
    cases known
  · rw [same]
    change (self.objectToId.set objectId self.nextLabel).size = _
    rw [Dict.size_set, unknown]
    rfl

omit [PyRuntime] in
theorem remove_keeps {self self' : HNSWIndex η} {objectId : String} {removed : Bool}
    (done : remove objectId self = .ok removed self') :
    self'.dim = self.dim ∧ self'.maxElements = self.maxElements := by
  rcases remove_ok done with ⟨-, same⟩ | ⟨label, index, -, -, same⟩ <;>
    rw [same] <;> exact ⟨rfl, rfl⟩

end

end HNSWIndex

end IntelliL3
