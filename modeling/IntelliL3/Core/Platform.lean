import Mathlib.Data.List.DropRight
import IntelliL3.Core.Types

/-! # What the store is built on

Everything the code calls and does not define: numpy arrays, hashes and
logarithms of the standard library, the JSON and npy encoders behind
`storage/serialization.py`, and the hnswlib index. Each is a parameter; what
the code may rely on is stated as laws next to it.
-/

namespace IntelliL3

open Lib

/-- An `np.ndarray`: the scalars are exact rationals, and as many as the shape says. -/
structure NdArray where
  itemsize : Nat
  shape : List Nat
  data : List Rat
  filled : data.length = shape.prod
  deriving DecidableEq

namespace NdArray

def nbytes (self : NdArray) : Nat := self.data.length * self.itemsize

/-- `self.shape[-1]` -/
def lastDim (self : NdArray) : Except PyError Nat :=
  match self.shape.getLast? with
  | some dim => .ok dim
  | none => .error (.indexError "tuple index out of range")

end NdArray

/-- The standard library and numpy, as far as the store computes with them. -/
class PyRuntime where
  /-- `int(hashlib.sha256(key.encode()).hexdigest(), 16)` -/
  sha256 : String → Nat
  /-- `int(hashlib.md5(key.encode()).hexdigest(), 16)` -/
  md5 : String → Nat
  /-- `KVCacheBlock.compute_token_hash`; tokens that are no int32 raise. -/
  computeTokenHash : List Int → Except PyError String
  /-- `int(-n * math.log(p) / (math.log(2) ** 2))` -/
  bloomBits : Int → Rat → Except PyError Int
  /-- `int((m / n) * math.log(2))` -/
  bloomHashes : Nat → Int → Except PyError Int
  /-- One element of `np.asarray(_, dtype=np.float32)`. -/
  float32 : Rat → Rat

/-- `hashlib.sha256(key.encode()).hexdigest()[:16]`, the digest being 64 digits wide. -/
def shortDigest [PyRuntime] (key : String) : String :=
  String.ofList ((List.range 16).map fun i =>
    Nat.digitChar (PyRuntime.sha256 key / 16 ^ (63 - i) % 16))

/-- A short digest is a name: it is not empty and has no dot. -/
theorem shortDigest_plain [PyRuntime] (key : String) :
    shortDigest key ≠ "" ∧ '.' ∉ (shortDigest key).toList := by
  have hex : ∀ digit < 16, Nat.digitChar digit ≠ '.' := by decide
  constructor
  · intro empty
    have length := congrArg (fun text => text.toList.length) empty
    simp [shortDigest] at length
  · intro dotted
    rw [shortDigest, String.toList_ofList, List.mem_map] at dotted
    obtain ⟨i, -, dot⟩ := dotted
    exact hex _ (Nat.mod_lt _ (by decide)) dot

/-- `json.dumps(value, sort_keys=True, separators=(",", ":"), ensure_ascii=True, default=str)` -/
class PyJson where
  dumps : PyValue → Except PyError String

/-- `c.isspace()` -/
def isSpace (c : Char) : Bool :=
  let n := c.toNat
  decide (9 ≤ n ∧ n ≤ 13 ∨ 28 ≤ n ∧ n ≤ 32 ∨ n = 0x85 ∨ n = 0xa0 ∨ n = 0x1680 ∨
    0x2000 ≤ n ∧ n ≤ 0x200a ∨ n = 0x2028 ∨ n = 0x2029 ∨ n = 0x202f ∨ n = 0x205f ∨ n = 0x3000)

/-- `text.strip()` -/
def strip (text : String) : String :=
  String.ofList ((text.toList.dropWhile isSpace).reverse.dropWhile isSpace).reverse

theorem strip_strip (text : String) : strip (strip text) = strip text := by
  have trimmed : ∀ l : List Char, l.dropWhile isSpace = l →
      (l.rdropWhile isSpace).dropWhile isSpace = l.rdropWhile isSpace := by
    intro l start
    rw [List.dropWhile_eq_self_iff] at start ⊢
    intro inside
    have kept := List.rdropWhile_prefix isSpace l
    rw [kept.getElem inside]
    exact start (inside.trans_le kept.length_le)
  change String.ofList ((List.dropWhile isSpace (String.ofList
      ((text.toList.dropWhile isSpace).rdropWhile isSpace)).toList).rdropWhile isSpace) =
    String.ofList ((text.toList.dropWhile isSpace).rdropWhile isSpace)
  rw [String.toList_ofList, trimmed _ (List.dropWhile_idempotent _ _), List.rdropWhile_idempotent]

/-- `np.asarray(self, dtype=np.float32)`, read as one row. -/
def NdArray.asFloat32 [PyRuntime] (self : NdArray) : List Rat :=
  self.data.map PyRuntime.float32

/-- A vector of the dimension, alone or as the only row of a matrix. -/
def NdArray.IsRow (self : NdArray) (dim : Nat) : Prop :=
  self.shape = [dim] ∨ self.shape = [1, dim]

theorem NdArray.IsRow.lastDim {self : NdArray} {dim : Nat} (row : self.IsRow dim) :
    self.lastDim = .ok dim := by
  rcases row with flat | single
  · simp only [NdArray.lastDim, flat, List.getLast?_singleton]
  · simp only [NdArray.lastDim, single]
    rfl

theorem NdArray.IsRow.length [PyRuntime] {self : NdArray} {dim : Nat} (row : self.IsRow dim) :
    self.asFloat32.length = dim := by
  rw [NdArray.asFloat32, List.length_map, self.filled]
  rcases row with flat | single
  · simp only [flat, List.prod_singleton]
  · simp only [single, List.prod_cons, List.prod_nil, one_mul, mul_one]

theorem NdArray.IsRow.hasAxes {self : NdArray} {dim : Nat} (row : self.IsRow dim) :
    self.shape ≠ [] := by
  rcases row with flat | single
  · exact flat ▸ List.cons_ne_nil _ _
  · exact single ▸ List.cons_ne_nil _ _

/-- The encoders of `storage/serialization.py`, over whatever bytes they produce. -/
class Serializer (Bytes : Type) where
  serializeKvBlockMeta : KVCacheBlock → Bytes
  deserializeKvBlockMeta : Bytes → Except PyError KVCacheBlock
  serializeKvTensors : NdArray → NdArray → Bytes
  deserializeKvTensors : Bytes → Except PyError (NdArray × NdArray)
  serializeRagMeta : RAGObject → Bytes
  deserializeRagMeta : Bytes → Except PyError RAGObject
  serializeEmbedding : NdArray → Bytes
  deserializeEmbedding : Bytes → Except PyError NdArray
  serializeSemanticEntry : SemanticCacheEntry → Bytes
  deserializeSemanticEntry : Bytes → Except PyError SemanticCacheEntry
  serializeAgentWorkflow : AgentWorkflow → Bytes
  deserializeAgentWorkflow : Bytes → Except PyError AgentWorkflow
  serializeAgentStep : AgentStep → Bytes
  deserializeAgentStep : Bytes → Except PyError AgentStep
  serializeToolArtifact : ToolCallArtifact → Bytes
  deserializeToolArtifact : Bytes → Except PyError ToolCallArtifact
  serializePlanCacheEntry : PlanCacheEntry → Bytes
  deserializePlanCacheEntry : Bytes → Except PyError PlanCacheEntry
  serializeWorkflowTrace : WorkflowTrace → Bytes
  deserializeWorkflowTrace : Bytes → Except PyError WorkflowTrace

namespace Serializer

variable {Bytes : Type} [Serializer Bytes]

def serializePlanEmbedding (embedding : NdArray) : Bytes := serializeEmbedding embedding

def deserializePlanEmbedding (data : Bytes) : Except PyError NdArray := deserializeEmbedding data

end Serializer

/-- The encoders round-trip. -/
class LawfulSerializer (Bytes : Type) [Serializer Bytes] : Prop where
  kvBlockMeta : ∀ block, Serializer.deserializeKvBlockMeta
    (Serializer.serializeKvBlockMeta block : Bytes) = .ok block
  kvTensors : ∀ key value, Serializer.deserializeKvTensors
    (Serializer.serializeKvTensors key value : Bytes) = .ok (key, value)
  ragMeta : ∀ obj, Serializer.deserializeRagMeta
    (Serializer.serializeRagMeta obj : Bytes) = .ok obj
  embedding : ∀ array, Serializer.deserializeEmbedding
    (Serializer.serializeEmbedding array : Bytes) = .ok array
  semanticEntry : ∀ entry, Serializer.deserializeSemanticEntry
    (Serializer.serializeSemanticEntry entry : Bytes) = .ok entry
  agentWorkflow : ∀ workflow, Serializer.deserializeAgentWorkflow
    (Serializer.serializeAgentWorkflow workflow : Bytes) = .ok workflow
  agentStep : ∀ step, Serializer.deserializeAgentStep
    (Serializer.serializeAgentStep step : Bytes) = .ok step
  toolArtifact : ∀ artifact, Serializer.deserializeToolArtifact
    (Serializer.serializeToolArtifact artifact : Bytes) = .ok artifact
  planCacheEntry : ∀ entry, Serializer.deserializePlanCacheEntry
    (Serializer.serializePlanCacheEntry entry : Bytes) = .ok entry
  workflowTrace : ∀ trace, Serializer.deserializeWorkflowTrace
    (Serializer.serializeWorkflowTrace trace : Bytes) = .ok trace

attribute [simp] LawfulSerializer.kvBlockMeta LawfulSerializer.kvTensors
  LawfulSerializer.ragMeta LawfulSerializer.embedding LawfulSerializer.semanticEntry
  LawfulSerializer.agentWorkflow LawfulSerializer.agentStep LawfulSerializer.toolArtifact
  LawfulSerializer.planCacheEntry LawfulSerializer.workflowTrace

/-- An `hnswlib.Index` in cosine space with `allow_replace_deleted=True`. -/
class Hnswlib (η : Type) where
  /-- `hnswlib.Index(space="cosine", dim=dim)` and `init_index(max_elements=...)` -/
  initIndex : (dim maxElements : Nat) → η
  /-- `add_items(vector, [label], replace_deleted=...)` with one row -/
  addItems : List Rat → Nat → Bool → EStateM PyError η Unit
  markDeleted : Nat → EStateM PyError η Unit
  /-- The one row of labels and distances `knn_query(query, k)` answers. -/
  knnQuery : η → List Rat → Nat → Except PyError (List (Nat × Rat))

/-- hnswlib keeps, for each label that is not deleted, exactly the vector it was
    last given. -/
class HnswlibStores (η : Type) [Hnswlib η] where
  vectorOf : η → Nat → Option (List Rat)
  initIndex_vector : ∀ dim maxElements label,
    vectorOf (Hnswlib.initIndex dim maxElements) label = none
  addItems_vector : ∀ {h h' : η} {vector label replaceDeleted},
    Hnswlib.addItems vector label replaceDeleted h = .ok () h' →
    ∀ other, vectorOf h' other = if label = other then some vector else vectorOf h other
  markDeleted_vector : ∀ {h h' : η} {label}, Hnswlib.markDeleted label h = .ok () h' →
    ∀ other, vectorOf h' other = if label = other then none else vectorOf h other

/-- When hnswlib does not raise, and what a one-neighbour query answers. A label
    never seen before is accepted while there is room, a deleted one when it may
    be replaced; a query against a non-empty index answers one label that is not
    deleted, with its distance. -/
class LawfulHnswlib (η : Type) [Hnswlib η] extends HnswlibStores η where
  /-- Labels handed to `add_items` so far. -/
  seen : η → Nat → Prop
  /-- `get_current_count()`, `get_max_elements()` and `dim` -/
  currentCount : η → Nat
  maxElements : η → Nat
  dim : η → Nat
  distance : List Rat → List Rat → Rat
  initIndex_fresh : ∀ d n, (∀ label, ¬ seen (Hnswlib.initIndex d n) label) ∧
    currentCount (Hnswlib.initIndex d n) = 0 ∧ maxElements (Hnswlib.initIndex d n) = n ∧
    dim (Hnswlib.initIndex d n) = d
  addItems_accepted : ∀ {h : η} {vector label replaceDeleted}, vector.length = dim h →
    ¬ seen h label ∧ currentCount h < maxElements h ∨
      replaceDeleted = true ∧ seen h label ∧ vectorOf h label = none →
    ∃ h', Hnswlib.addItems vector label replaceDeleted h = .ok () h'
  addItems_fresh : ∀ {h h' : η} {vector label}, ¬ seen h label →
    Hnswlib.addItems vector label false h = .ok () h' → currentCount h' = currentCount h + 1
  addItems_again : ∀ {h h' : η} {vector label replaceDeleted}, seen h label →
    Hnswlib.addItems vector label replaceDeleted h = .ok () h' → currentCount h' = currentCount h
  addItems_keeps : ∀ {h h' : η} {vector label replaceDeleted},
    Hnswlib.addItems vector label replaceDeleted h = .ok () h' →
    maxElements h' = maxElements h ∧ dim h' = dim h ∧
      ∀ other, seen h' other ↔ label = other ∨ seen h other
  markDeleted_keeps : ∀ {h h' : η} {label}, Hnswlib.markDeleted label h = .ok () h' →
    currentCount h' = currentCount h ∧ maxElements h' = maxElements h ∧ dim h' = dim h ∧
      ∀ other, seen h' other ↔ seen h other
  knnQuery_one : ∀ {h : η} {query}, (∃ label, (vectorOf h label).isSome) →
    query.length = dim h →
    ∃ label vector, Hnswlib.knnQuery h query 1 = .ok [(label, distance query vector)] ∧
      vectorOf h label = some vector

/-- A label that is not deleted may be marked as deleted. -/
def MarksDeleted (η : Type) [Hnswlib η] [HnswlibStores η] : Prop :=
  ∀ {h : η} {label}, (HnswlibStores.vectorOf h label).isSome →
    ∃ h', Hnswlib.markDeleted label h = .ok () h'

/-- A one-neighbour query answers an exact nearest neighbour. -/
def ExactNearest (η : Type) [Hnswlib η] [LawfulHnswlib η] : Prop :=
  ∀ {h : η} {query label other dist vector},
    Hnswlib.knnQuery h query 1 = .ok [(label, dist)] →
    HnswlibStores.vectorOf h other = some vector →
    dist ≤ LawfulHnswlib.distance η query vector

end IntelliL3
