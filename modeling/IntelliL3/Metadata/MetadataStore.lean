import IntelliL3.Metadata.BloomFilter
import IntelliL3.Metadata.HNSWIndex
import IntelliL3.Metadata.PrefixTree

/-! # Metadata store

`metadata/metadata_store.py`: the in-memory Bloom filter over all object ids, the
prefix tree over KV blocks and the ANN index over semantic entries, which is
created when the first embedding arrives.
-/

namespace IntelliL3

open Lib

structure MetadataStore (η : Type) where
  bloom : BloomFilter
  prefixTree : PrefixTree
  expectedItems : Int
  hnsw : Option (HNSWIndex η)

structure MetadataStats where
  bloomCount : Nat
  prefixTreeSize : Nat
  hnswSize : Nat
  deriving Repr, DecidableEq

namespace MetadataStore

variable {η : Type}

def stats (self : MetadataStore η) : MetadataStats where
  bloomCount := self.bloom.count
  prefixTreeSize := self.prefixTree.size
  hnswSize := match self.hnsw with
    | some index => index.size
    | none => 0

def findPrefixMatches (self : MetadataStore η) (order : SetOrder) (tokenIds : List Int) :
    List PrefixMatch :=
  self.prefixTree.search order tokenIds

def findLongestPrefix (self : MetadataStore η) (order : SetOrder) (tokenIds : List Int) :
    Option PrefixMatch :=
  self.prefixTree.longestMatch order tokenIds

/-- Work on the index `self._hnsw` refers to. -/
def onHnsw (index : HNSWIndex η) (action : EStateM PyError (HNSWIndex η) α) :
    EStateM PyError (MetadataStore η) α :=
  zoom (fun _ => index) (fun self index => { self with hnsw := some index }) action

section

variable [Hnswlib η]

def onObjectRemoved (objectType : ObjectType) (objectId : String) :
    EStateM PyError (MetadataStore η) Unit := do
  let self ← get
  if objectType = .kvCache then
    set { self with prefixTree := (self.prefixTree.remove objectId).1 }
  else if objectType = .semanticCache then
    match self.hnsw with
    | none => pure ()
    | some index =>
        let _ ← onHnsw index (HNSWIndex.remove objectId)

/-- `self._ensure_hnsw(dim)` before it is stored: a new index, or the one there
    is when the dimension fits. -/
def hnswFor (self : MetadataStore η) (dim : Nat) : Except PyError (HNSWIndex η) :=
  match self.hnsw with
  | none => HNSWIndex.new dim self.expectedItems
  | some index =>
      if index.dim = dim then .ok index
      else .error (.valueError
        s!"semantic embedding dimension mismatch: index dim={index.dim}, embedding dim={dim}")

def ensureHnsw (dim : Nat) : EStateM PyError (MetadataStore η) (HNSWIndex η) := do
  let self ← get
  let index ← raising (self.hnswFor dim)
  set { self with hnsw := some index }
  return index

variable [PyRuntime]

def new (expectedItems : Int := 100000) (fpRate : Rat := 1 / 100)
    (embeddingDim : Option Int := none) : Except PyError (MetadataStore η) := do
  let bloom ← BloomFilter.new expectedItems fpRate
  match embeddingDim with
  | none => return { bloom, prefixTree := .empty, expectedItems, hnsw := none }
  | some dim =>
      let index ← HNSWIndex.new dim expectedItems
      return { bloom, prefixTree := .empty, expectedItems, hnsw := some index }

def mightExist (self : MetadataStore η) (objectId : String) : Bool :=
  self.bloom.mightContain objectId

/-- `self._bloom.add(object_id)` -/
def bloomed (self : MetadataStore η) (objectId : String) : MetadataStore η :=
  { self with bloom := self.bloom.add objectId }

/-- `token_ids` is only indexed when it is given and non-empty. -/
def onObjectAdded (self : MetadataStore η) (objectType : ObjectType) (objectId : String)
    (tokenIds : Option (List Int)) : MetadataStore η :=
  let self := self.bloomed objectId
  match tokenIds with
  | some (token :: rest) =>
      if objectType = .kvCache then
        { self with prefixTree := self.prefixTree.insert (token :: rest) objectId }
      else self
  | _ => self

def onSemanticEntryAdded (objectId : String) (embedding : NdArray) :
    EStateM PyError (MetadataStore η) Unit := do
  modify fun self => self.bloomed objectId
  let dim ← raising embedding.lastDim
  let index ← ensureHnsw dim
  onHnsw index (HNSWIndex.add objectId embedding)

def searchSimilarPrompts (self : MetadataStore η) (query : NdArray) (k : Int) (threshold : Rat) :
    Except PyError (List (String × Rat)) :=
  match self.hnsw with
  | none => .ok []
  | some index => index.search query k threshold

end

/-! ## What the operations do -/

section

variable [PyRuntime]

theorem onObjectAdded_bloom (self : MetadataStore η) (X : ObjectType) (objectId : String)
    (tokenIds : Option (List Int)) :
    (self.onObjectAdded X objectId tokenIds).bloom = self.bloom.add objectId := by
  cases tokenIds with
  | none => rfl
  | some tokens =>
      cases tokens with
      | nil => rfl
      | cons token rest =>
          simp only [onObjectAdded]
          split <;> rfl

theorem mightExist_bloomed_self (self : MetadataStore η) (objectId : String) :
    (self.bloomed objectId).mightExist objectId = true :=
  self.bloom.mightContain_add_self objectId

theorem mightExist_bloomed (self : MetadataStore η) {objectId : String} (other : String)
    (held : self.mightExist objectId = true) : (self.bloomed other).mightExist objectId = true :=
  self.bloom.mightContain_add other held

end

section

variable [Hnswlib η]

theorem onObjectRemoved_kv (self : MetadataStore η) (objectId : String) :
    onObjectRemoved .kvCache objectId self =
      .ok () { self with prefixTree := (self.prefixTree.remove objectId).1 } := rfl

theorem onObjectRemoved_semantic (self : MetadataStore η) (objectId : String) :
    onObjectRemoved .semanticCache objectId self =
      match self.hnsw with
      | none => .ok () self
      | some index => match HNSWIndex.remove objectId index with
        | .ok _ index => .ok () { self with hnsw := some index }
        | .error e index => .error e { self with hnsw := some index } := by
  obtain ⟨bloom, tree, expected, hnsw⟩ := self
  cases hnsw with
  | none => rfl
  | some index =>
      simp only [onObjectRemoved, bind_run, get_run, reduceCtorEq, if_false, if_true, onHnsw,
        zoom_run]
      cases HNSWIndex.remove objectId index <;> rfl

theorem onObjectRemoved_other {objectType : ObjectType} (notKv : objectType ≠ .kvCache)
    (notSemantic : objectType ≠ .semanticCache) (self : MetadataStore η) (objectId : String) :
    onObjectRemoved objectType objectId self = .ok () self := by
  simp only [onObjectRemoved, bind_run, get_run, notKv, notSemantic, if_false, pure_run]

/-- A removal never touches the Bloom filter. -/
theorem onObjectRemoved_bloom (self : MetadataStore η) (X : ObjectType) (objectId : String) :
    (EStateResult.state (onObjectRemoved X objectId self)).bloom = self.bloom := by
  by_cases kv : X = .kvCache
  · subst kv
    rw [onObjectRemoved_kv]
    rfl
  · by_cases semantic : X = .semanticCache
    · subst semantic
      rw [onObjectRemoved_semantic]
      cases self.hnsw with
      | none => rfl
      | some index =>
          simp only
          cases HNSWIndex.remove objectId index <;> rfl
    · rw [onObjectRemoved_other kv semantic]
      rfl

variable [PyRuntime]

theorem onSemanticEntryAdded_eq (self : MetadataStore η) (objectId : String)
    (embedding : NdArray) :
    onSemanticEntryAdded objectId embedding self =
      match embedding.lastDim with
      | .error e => .error e (self.bloomed objectId)
      | .ok dim => match self.hnswFor dim with
        | .error e => .error e (self.bloomed objectId)
        | .ok index => match HNSWIndex.add objectId embedding index with
          | .ok _ index => .ok () { self.bloomed objectId with hnsw := some index }
          | .error e index => .error e { self.bloomed objectId with hnsw := some index } := by
  have same : ∀ dim, (self.bloomed objectId).hnswFor dim = self.hnswFor dim := fun _ => rfl
  simp only [onSemanticEntryAdded, ensureHnsw, bind_run, modify_run, get_run]
  cases embedding.lastDim with
  | error e => rfl
  | ok dim =>
      simp only [raising_ok, same]
      cases self.hnswFor dim with
      | error e => rfl
      | ok index =>
          simp only [raising_ok, set_run, pure_run, onHnsw, zoom_run]
          cases HNSWIndex.add objectId embedding index <;> rfl

/-- Every outcome of an addition leaves the id in the Bloom filter. -/
theorem onSemanticEntryAdded_bloom (self : MetadataStore η) (objectId : String)
    (embedding : NdArray) :
    (EStateResult.state (onSemanticEntryAdded objectId embedding self)).bloom =
      self.bloom.add objectId := by
  rw [onSemanticEntryAdded_eq]
  cases embedding.lastDim with
  | error e => rfl
  | ok dim =>
      simp only
      cases self.hnswFor dim with
      | error e => rfl
      | ok index =>
          simp only
          cases HNSWIndex.add objectId embedding index <;> rfl

theorem new_fresh {expectedItems : Int} {fpRate : Rat} {embeddingDim : Option Int}
    {self : MetadataStore η} (built : new expectedItems fpRate embeddingDim = .ok self) :
    (∀ objectId, self.mightExist objectId = false) ∧ self.prefixTree = .empty ∧
      self.expectedItems = expectedItems ∧
      (self.hnsw = none ∨ ∃ dim index, HNSWIndex.new dim expectedItems = .ok index ∧
        self.hnsw = some index) := by
  cases filter : BloomFilter.new expectedItems fpRate with
  | error e => simp [new, filter, bind, Except.bind] at built
  | ok bloom =>
      have nothing := BloomFilter.mightContain_new filter
      cases embeddingDim with
      | none =>
          simp only [new, filter, bind, Except.bind, pure, Except.pure, Except.ok.injEq] at built
          subst built
          exact ⟨nothing, rfl, rfl, Or.inl rfl⟩
      | some dim =>
          cases index : HNSWIndex.new (η := η) dim expectedItems with
          | error e => simp [new, filter, index, bind, Except.bind] at built
          | ok hnsw =>
              simp only [new, filter, index, bind, Except.bind, pure, Except.pure,
                Except.ok.injEq] at built
              subst built
              exact ⟨nothing, rfl, rfl, Or.inr ⟨dim, hnsw, index, rfl⟩⟩

end

end MetadataStore

end IntelliL3
