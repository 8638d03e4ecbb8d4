import IntelliL3.Core.Platform
import IntelliL3.Lib.LeastRecent
import IntelliL3.Lib.Run

/-! # Cached embeddings

`embeddings/cache.py`: an ordered dictionary from short digests of texts to their
embeddings, in front of a deterministic backend. A text that is found goes behind the
others, a text that is not is embedded and stored, and the oldest rows go that do not fit.
-/

namespace IntelliL3

open Lib

namespace NdArray

/-- `self.astype(np.float32, copy=False)` -/
def astypeFloat32 [PyRuntime] (self : NdArray) : NdArray where
  itemsize := 4
  shape := self.shape
  data := self.data.map PyRuntime.float32
  filled := (List.length_map _).trans self.filled

theorem stacked {rows : List NdArray} {shape : List Nat}
    (same : ∀ row ∈ rows, row.shape = shape) :
    (rows.flatMap data).length = (rows.length :: shape).prod := by
  have each : rows.map (fun row => row.data.length) = rows.map fun _ => shape.prod :=
    List.map_congr_left fun row member => by rw [row.filled, same row member]
  rw [List.length_flatMap, each, List.map_const', List.sum_replicate_nat, List.prod_cons]

/-- `np.stack(rows)` of rows of one dtype -/
def stack : List NdArray → Except PyError NdArray
  | [] => .error (.valueError "need at least one array to stack")
  | first :: rest =>
      if same : ∀ row ∈ first :: rest, row.shape = first.shape then
        .ok {
          itemsize := first.itemsize
          shape := (first :: rest).length :: first.shape
          data := (first :: rest).flatMap data
          filled := stacked same }
      else .error (.valueError "all input arrays must have the same shape")

theorem empty_filled (dimension : Nat) :
    ([] : List Rat).length = ([0, dimension] : List Nat).prod := by
  rw [List.prod_cons, Nat.zero_mul, List.length_nil]

/-- `np.empty((0, dimension), dtype=np.float32)` -/
def emptyRows (dimension : Int) : Except PyError NdArray :=
  if dimension < 0 then .error (.valueError "negative dimensions are not allowed")
  else .ok ⟨4, [0, dimension.toNat], [], empty_filled dimension.toNat⟩

end NdArray

/-- A deterministic backend, with the texts it was asked for. -/
structure EmbeddingService where
  answer : String → Except PyError NdArray
  dimension : Int
  calls : List String := []

namespace EmbeddingService

def embed (text : String) : EStateM PyError EmbeddingService NdArray := do
  modify fun self => { self with calls := self.calls ++ [text] }
  raising ((← get).answer text)

end EmbeddingService

structure CachedEmbeddingService where
  backend : EmbeddingService
  maxCacheSize : Int
  cache : Dict String NdArray
  positive : 0 < maxCacheSize

structure CacheStats where
  size : Nat
  maxSize : Int
  deriving DecidableEq

namespace CachedEmbeddingService

abbrev CachedM := EStateM PyError CachedEmbeddingService

/-- `CachedEmbeddingService(backend, max_cache_size=10_000)` -/
def new (backend : EmbeddingService) (maxCacheSize : Int := 10000) :
    Except PyError CachedEmbeddingService :=
  if wrong : maxCacheSize ≤ 0 then .error (.valueError "max_cache_size must be positive")
  else .ok ⟨backend, maxCacheSize, .empty, Int.not_le.mp wrong⟩

variable [PyRuntime]

def cacheKey (text : String) : String := shortDigest text

def evictIfNeeded (self : CachedEmbeddingService) : CachedEmbeddingService :=
  { self with cache := self.cache.keepNewest self.maxCacheSize.toNat }

def embed (text : String) : CachedM NdArray := do
  let key := cacheKey text
  match (← get).cache.get? key with
  | some cached =>
      modify fun self => { self with cache := self.cache.moveToEnd key }
      return cached
  | none =>
      let embedding ← zoom backend (fun self backend => { self with backend := backend })
        (EmbeddingService.embed text)
      let embedding := embedding.astypeFloat32
      modify fun self => { self with cache := self.cache.set key embedding }
      modify evictIfNeeded
      return embedding

def embedBatch (texts : List String) : CachedM NdArray := do
  if texts.isEmpty then
    return ← raising (NdArray.emptyRows (← get).backend.dimension)
  let embeddings ← texts.mapM embed
  return (← raising (NdArray.stack embeddings)).astypeFloat32

/-- The service once its backend was asked for a text. -/
def asked (text : String) (self : CachedEmbeddingService) : CachedEmbeddingService :=
  { self with backend := { self.backend with calls := self.backend.calls ++ [text] } }

theorem embed_hit {self : CachedEmbeddingService} {text : String} {cached : NdArray}
    (held : self.cache.get? (cacheKey text) = some cached) :
    embed text self = .ok cached { self with cache := self.cache.moveToEnd (cacheKey text) } := by
  rw [embed, bind_run, get_run]
  simp only [held]
  rfl

theorem embed_miss {self : CachedEmbeddingService} {text : String}
    (absent : self.cache.get? (cacheKey text) = none) :
    embed text self = match self.backend.answer text with
      | .error e => .error e (asked text self)
      | .ok embedding => .ok embedding.astypeFloat32 (evictIfNeeded { asked text self with
          cache := self.cache.set (cacheKey text) embedding.astypeFloat32 }) := by
  rw [embed, bind_run, get_run]
  simp only [absent, bind_run, zoom_run, EmbeddingService.embed, modify_run, get_run]
  cases self.backend.answer text <;> rfl

theorem embedBatch_nil (self : CachedEmbeddingService) :
    embedBatch [] self = raising (NdArray.emptyRows self.backend.dimension) self := by
  rw [embedBatch]
  simp only [List.isEmpty_nil, if_true, bind_run, get_run]

theorem embedBatch_cons (text : String) (rest : List String) :
    embedBatch (text :: rest) = (text :: rest).mapM embed >>= fun embeddings =>
      raising (NdArray.astypeFloat32 <$> NdArray.stack embeddings) := by
  funext self
  rw [embedBatch]
  simp only [List.isEmpty_cons, Bool.false_eq_true, if_false, bind_run]
  cases (text :: rest).mapM embed self with
  | error e s => rfl
  | ok embeddings s =>
      simp only
      cases NdArray.stack embeddings <;> rfl

def clearCache : CachedM Unit := modify fun self => { self with cache := .empty }

def cacheStats (self : CachedEmbeddingService) : CacheStats where
  size := self.cache.size
  maxSize := self.maxCacheSize

end CachedEmbeddingService

inductive EmbeddingCall where
  | embed (text : String)
  | embedBatch (texts : List String)
  | clearCache

/-- The clearing of the cache answers nothing. -/
def CachedEmbeddingService.exec [PyRuntime] : EmbeddingCall → CachedM (Option NdArray)
  | .embed text => some <$> embed text
  | .embedBatch texts => some <$> embedBatch texts
  | .clearCache => do
      clearCache
      return none

end IntelliL3
