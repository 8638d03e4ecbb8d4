import Mathlib.Data.List.Sort
import IntelliL3.Core.TypedStore

/-! # Reference platform

Concrete values for what `Core.Platform` leaves open, on which its laws are
proved: bytes that remember what was encoded, digests of a few short ids, and an
index that compares a query with every vector. The concrete runs use them.
-/

namespace IntelliL3.Reference

open Lib

/-! ## Hashes and logarithms -/

/-- Digests of the texts in the concrete runs, and `-log(1/100) / log(2)^2` and `log(2)` to
    six decimals. -/
scoped instance : PyRuntime where
  sha256
    | "a" => 0xca978112ca1bbdcafac231b39a23dc4da786eff8147c4e72b9807785afee48bb
    | "b" => 0x3e23e8160039594a33894f6564e1b1348bbd7a0088d42c4acb73eeaed59c009d
    | "c" => 0x2e7d2c03a9507ae265ecf5b5356885a53393a2029d241394997265a1a25aefc6
    | "1" => 0x6b86b273ff34fce19d6b804eff5a3f5747ada4eaa22f1d49c01e52ddb7875b4b
    | "\x7b\x7d" => 0x44136fa355b3678a1146ad16f7e8649e94fb4fc21fe77e8310c060f61caaff8a
    | "search:6b86b273ff34fce1:private:v1" =>
        0x8ea4208056c2127066ed3d7186d0806c0e0d0e1756e88e2ac458799451e75185
    | "search:6b86b273ff34fce1:private:v2" =>
        0x6cf9391538fca2fa043eb5550e733959cb85ce76533475867161478113d55125
    | "8ea4208056c21270" =>
        0x373715fabf2750a1913b27d7be0e82eade337deeb1bdba2a2098c8a1590dbc4d
    | "6cf9391538fca2fa" =>
        0x15651ba7625ba33c897350b632fba434b97eeccb2bc7c32d67f57561b013fe3b
    | _ => 0
  md5
    | "a" => 0x0cc175b9c0f1b6a831c399e269772661
    | "b" => 0x92eb5ffee6ae2fec3ad71c777531578f
    | "c" => 0x4a8a08f09d37b73795649038408b5f33
    | "8ea4208056c21270" => 0xecca02de1e5b0aca4c7ad8efbc0f147a
    | "6cf9391538fca2fa" => 0x1e92d3bf6db1828fb7ac5977bf17f71d
    | _ => 0
  computeTokenHash
    | [1] => .ok "67abdd721024f0ff"
    | [2] => .ok "26b25d457597a7b0"
    | [1, 2] => .ok "34fb5c825de7ca4a"
    | _ => .ok ""
  bloomBits n p :=
    if p = 1 / 100 then .ok (n * 9585058 / 1000000) else .error (.valueError "math domain error")
  bloomHashes m n :=
    if n = 0 then .error (.zeroDivisionError "division by zero")
    else .ok ((m * 693147) / (n * 1000000))
  float32 x := x

/-- The texts of the values in the concrete runs. -/
scoped instance : PyJson where
  dumps
    | .int i => .ok (toString i)
    | .dict [] => .ok "\x7b\x7d"
    | _ => .error (.valueError "")

/-! ## Encoders -/

/-- Bytes that remember what they encode. -/
inductive Encoded where
  | kvBlockMeta (block : KVCacheBlock)
  | kvTensors (key value : NdArray)
  | ragMeta (obj : RAGObject)
  | embedding (array : NdArray)
  | semanticEntry (entry : SemanticCacheEntry)
  | agentWorkflow (workflow : AgentWorkflow)
  | agentStep (step : AgentStep)
  | toolArtifact (artifact : ToolCallArtifact)
  | planCacheEntry (entry : PlanCacheEntry)
  | workflowTrace (trace : WorkflowTrace)

/-- What decoding bytes of another kind raises. -/
def wrongKind : Except PyError α := .error (.validationError "wrong kind")

instance : Serializer Encoded where
  serializeKvBlockMeta := .kvBlockMeta
  deserializeKvBlockMeta
    | .kvBlockMeta block => .ok block
    | _ => wrongKind
  serializeKvTensors := .kvTensors
  deserializeKvTensors
    | .kvTensors key value => .ok (key, value)
    | _ => wrongKind
  serializeRagMeta := .ragMeta
  deserializeRagMeta
    | .ragMeta obj => .ok obj
    | _ => wrongKind
  serializeEmbedding := .embedding
  deserializeEmbedding
    | .embedding array => .ok array
    | _ => wrongKind
  serializeSemanticEntry := .semanticEntry
  deserializeSemanticEntry
    | .semanticEntry entry => .ok entry
    | _ => wrongKind
  serializeAgentWorkflow := .agentWorkflow
  deserializeAgentWorkflow
    | .agentWorkflow workflow => .ok workflow
    | _ => wrongKind
  serializeAgentStep := .agentStep
  deserializeAgentStep
    | .agentStep step => .ok step
    | _ => wrongKind
  serializeToolArtifact := .toolArtifact
  deserializeToolArtifact
    | .toolArtifact artifact => .ok artifact
    | _ => wrongKind
  serializePlanCacheEntry := .planCacheEntry
  deserializePlanCacheEntry
    | .planCacheEntry entry => .ok entry
    | _ => wrongKind
  serializeWorkflowTrace := .workflowTrace
  deserializeWorkflowTrace
    | .workflowTrace trace => .ok trace
    | _ => wrongKind

instance : LawfulSerializer Encoded where
  kvBlockMeta _ := rfl
  kvTensors _ _ := rfl
  ragMeta _ := rfl
  embedding _ := rfl
  semanticEntry _ := rfl
  agentWorkflow _ := rfl
  agentStep _ := rfl
  toolArtifact _ := rfl
  planCacheEntry _ := rfl
  workflowTrace _ := rfl

/-! ## An exhaustive index -/

/-- Vectors by label; a deleted label keeps its row without a vector. -/
structure FlatIndex where
  dim : Nat
  maxElements : Nat
  rows : Dict Nat (Option (List Rat))

namespace FlatIndex

def vectorOf (self : FlatIndex) (label : Nat) : Option (List Rat) :=
  (self.rows.get? label).bind id

/-- Cosine distance of two unit vectors. -/
def distance (u v : List Rat) : Rat := 1 - (List.zipWith (· * ·) u v).sum

/-- The rows that are not deleted, with their distances to a query. -/
def distances (self : FlatIndex) (query : List Rat) : List (Nat × Rat) :=
  self.rows.entries.filterMap fun row =>
    row.2.map fun vector => (row.1, distance query vector)

def ranked (self : FlatIndex) (query : List Rat) : List (Nat × Rat) :=
  (self.distances query).insertionSort fun a b => a.2 ≤ b.2

/-- Whether a label may be given a vector: it holds one, it is new and there is
    room, or a deleted row may be replaced. -/
def accepts (self : FlatIndex) (label : Nat) (replaceDeleted : Bool) : Bool :=
  match self.rows.get? label with
  | some (some _) => true
  | some none => replaceDeleted
  | none => decide (self.rows.size < self.maxElements)

instance : Hnswlib FlatIndex where
  initIndex dim maxElements := ⟨dim, maxElements, .empty⟩
  addItems vector label replaceDeleted := fun self =>
    if vector.length ≠ self.dim then
      .error (.runtimeError "Wrong dimensionality of the vectors") self
    else if self.accepts label replaceDeleted then
      .ok () { self with rows := self.rows.set label (some vector) }
    else .error (.runtimeError "The number of elements exceeds the specified limit") self
  markDeleted label := fun self =>
    match self.rows.get? label with
    | some (some _) => .ok () { self with rows := self.rows.set label none }
    | _ => .error (.runtimeError "Label not found") self
  knnQuery self query k :=
    if query.length ≠ self.dim then
      .error (.runtimeError "Wrong dimensionality of the vectors")
    else if (self.distances query).length < k then
      .error (.runtimeError "Cannot return the results in a contiguous 2D array.")
    else .ok ((self.ranked query).take k)

theorem mem_distances (self : FlatIndex) (query : List Rat) (label : Nat) (dist : Rat) :
    (label, dist) ∈ self.distances query ↔
      ∃ vector, self.vectorOf label = some vector ∧ dist = distance query vector := by
  simp only [distances, List.mem_filterMap, Option.map_eq_some_iff, Prod.mk.injEq, vectorOf]
  constructor
  · rintro ⟨⟨key, value⟩, member, vector, held, rfl, rfl⟩
    refine ⟨vector, ?_, rfl⟩
    rw [(self.rows.mem_entries_iff key value).mp member]
    exact held
  · rintro ⟨vector, held, rfl⟩
    obtain ⟨value, stored, same⟩ := Option.bind_eq_some_iff.mp held
    exact ⟨(label, value), (self.rows.mem_entries_iff label value).mpr stored, vector, same,
      rfl, rfl⟩

theorem mem_ranked (self : FlatIndex) (query : List Rat) (row : Nat × Rat) :
    row ∈ self.ranked query ↔ row ∈ self.distances query :=
  List.mem_insertionSort _

private theorem addItems_ok {self self' : FlatIndex} {vector : List Rat} {label : Nat}
    {replaceDeleted : Bool}
    (done : Hnswlib.addItems vector label replaceDeleted self = .ok () self') :
    self' = { self with rows := self.rows.set label (some vector) } := by
  simp only [Hnswlib.addItems] at done
  split at done
  · cases done
  · split at done <;> cases done
    rfl

instance : LawfulHnswlib FlatIndex where
  vectorOf := vectorOf
  initIndex_vector _ _ _ := rfl
  addItems_vector done other := by
    rw [addItems_ok done, vectorOf, Dict.get?_set]
    split <;> rfl
  markDeleted_vector {self _ label} done other := by
    simp only [Hnswlib.markDeleted] at done
    split at done <;> cases done
    rw [vectorOf, Dict.get?_set]
    split <;> rfl
  seen self label := (self.rows.get? label).isSome
  currentCount self := self.rows.size
  maxElements := FlatIndex.maxElements
  dim := FlatIndex.dim
  distance := distance
  initIndex_fresh _ _ := ⟨fun _ => Bool.false_ne_true, rfl, rfl, rfl⟩
  addItems_accepted {self vector label replaceDeleted} fits accepted := by
    have admits : self.accepts label replaceDeleted = true := by
      rcases accepted with ⟨unseen, room⟩ | ⟨replaces, seen, deleted⟩
      · have absent : self.rows.get? label = none := by simpa using unseen
        simpa [accepts, absent] using room
      · obtain ⟨row, held⟩ := Option.isSome_iff_exists.mp seen
        have empty : row = none := by simpa [vectorOf, held] using deleted
        simpa [accepts, held, empty] using replaces
    exact ⟨{ self with rows := self.rows.set label (some vector) },
      by simp [Hnswlib.addItems, fits, admits]⟩
  addItems_fresh {self _ vector label} unseen done := by
    have absent : self.rows.get? label = none := by simpa using unseen
    rw [addItems_ok done]
    simp [Dict.size_set, Dict.contains, absent]
  addItems_again {self _ vector label _} seen done := by
    rw [addItems_ok done]
    simp [Dict.size_set, Dict.contains, seen]
  addItems_keeps {self _ vector label _} done := by
    rw [addItems_ok done]
    refine ⟨rfl, rfl, fun other => ?_⟩
    simp only [Dict.get?_set]
    by_cases same : label = other <;> simp [same]
  markDeleted_keeps {self _ label} done := by
    simp only [Hnswlib.markDeleted] at done
    split at done <;> cases done
    next held =>
      refine ⟨by simp [Dict.size_set, Dict.contains, held], rfl, rfl, fun other => ?_⟩
      simp only [Dict.get?_set]
      by_cases same : label = other
      · subst same
        simp [held]
      · rw [if_neg same]
  knnQuery_one {self query} := by
    rintro ⟨label, held⟩ fits
    obtain ⟨vector, held⟩ := Option.isSome_iff_exists.mp held
    have found := (self.mem_ranked query _).mpr
      ((self.mem_distances query label _).mpr ⟨vector, held, rfl⟩)
    cases order : self.ranked query with
    | nil => rw [order] at found; cases found
    | cons first rest =>
        have member : first ∈ self.distances query :=
          (self.mem_ranked query first).mp (order ▸ List.mem_cons_self)
        obtain ⟨vector', held', same⟩ := (self.mem_distances query first.1 first.2).mp member
        have some_row : ¬ (self.distances query).length < 1 :=
          Nat.not_lt.mpr (List.length_pos_of_mem member)
        refine ⟨first.1, vector', ?_, held'⟩
        simp only [Hnswlib.knnQuery, fits, ne_eq, not_true_eq_false, if_false, some_row, order,
          List.take_succ_cons, List.take_zero, ← same]

theorem marksDeleted : MarksDeleted FlatIndex := by
  intro self label live
  obtain ⟨vector, found⟩ := Option.isSome_iff_exists.mp live
  obtain ⟨row, held, rfl⟩ := Option.bind_eq_some_iff.mp found
  simp only [Hnswlib.markDeleted, held, EStateM.Result.ok.injEq, true_and, exists_eq']

/-- The first row of the ranking is a nearest one. -/
theorem exactNearest : ExactNearest FlatIndex := by
  intro self query label other dist vector answered held
  simp only [Hnswlib.knnQuery] at answered
  split at answered
  · cases answered
  · split at answered
    · cases answered
    · have sorted : (self.ranked query).Pairwise fun a b => a.2 ≤ b.2 :=
        List.pairwise_insertionSort _ _
      have found := (self.mem_ranked query _).mpr
        ((self.mem_distances query other _).mpr ⟨vector, held, rfl⟩)
      cases order : self.ranked query with
      | nil => rw [order] at found; cases found
      | cons first rest =>
          rw [order] at found sorted answered
          simp only [List.take_succ_cons, List.take_zero, Except.ok.injEq,
            List.cons.injEq, and_true] at answered
          subst answered
          rcases List.mem_cons.mp found with same | later
          · exact le_of_eq (congrArg Prod.snd same).symm
          · exact (List.pairwise_cons.mp sorted).1 _ later

end FlatIndex

/-! ## A small store -/

/-- `MetadataStore(expected_items=2)` -/
def metadata : MetadataStore FlatIndex where
  bloom := .blank ⟨64, by decide⟩ ⟨22, by decide⟩
  prefixTree := .empty
  expectedItems := 2
  hnsw := none

theorem new_metadata : MetadataStore.new 2 = .ok metadata := by
  simp [MetadataStore.new, BloomFilter.new, BloomFilter.optimalSize, BloomFilter.optimalHashes,
    PyRuntime.bloomBits, PyRuntime.bloomHashes, Except.map, bind, Except.bind, pure, Except.pure,
    metadata]

/-- A fresh store over an empty backend, with the default configuration. -/
def store : UnifiedObjectStore (MemoryBackend Encoded) FlatIndex :=
  .overEmpty Encoded .default metadata

/-- A float32 array with one axis. -/
def array (data : List Rat) : NdArray where
  itemsize := 4
  shape := [data.length]
  data := data
  filled := by simp

def kvBlock (objectId : String) (tokenIds : List Int) : KVCacheBlock where
  objMeta := .new .kvCache objectId 0
  tokenIds := tokenIds

def semanticEntry (objectId responseText : String) : SemanticCacheEntry where
  objMeta := .new .semanticCache objectId 0
  responseText := responseText

end IntelliL3.Reference
