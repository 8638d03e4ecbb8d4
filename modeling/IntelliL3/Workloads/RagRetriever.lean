import Mathlib.Data.Int.Bitwise
import Mathlib.Data.List.FinRange
import Mathlib.Data.Rat.Floor
import IntelliL3.Core.Json
import IntelliL3.Lib.Grouping
import IntelliL3.Lib.Rounding
import IntelliL3.Lib.Run
import IntelliL3.Lib.StableSort

/-! # Retrieval with noise

`workloads/rag_retriever.py`: some of the gold passages of a query and some of the others, in
an order that a generator draws. The generator is seeded with the hash of the query.
-/

namespace IntelliL3

open Lib

/-- `random.Random`: a shuffle draws a permutation of the places, whatever stands there. -/
class PyRandom where
  Rng : Type
  /-- `random.Random(seed)` -/
  seeded : Int → Rng
  permutation : (n : Nat) → Rng → Equiv.Perm (Fin n) × Rng

/-- `c.isdigit()` -/
class PyUnicode where
  isDigit : Char → Bool

section

variable {α : Type} [PyRandom]

/-- `rng.shuffle(items)` -/
def shuffle (items : List α) (rng : PyRandom.Rng) : List α × PyRandom.Rng :=
  let drawn := PyRandom.permutation items.length rng
  (List.ofFn fun i => items.get (drawn.1 i), drawn.2)

theorem shuffle_perm (items : List α) (rng : PyRandom.Rng) : (shuffle items rng).1.Perm items := by
  have shuffled := (PyRandom.permutation items.length rng).1.ofFn_comp_perm items.get
  rwa [List.ofFn_get] at shuffled

end

/-- `0.0 <= self <= 1.0` -/
abbrev PyFloat.InUnit (self : PyFloat) : Prop :=
  PyFloat.le (.finite 0) self ∧ PyFloat.le self (.finite 1)

theorem PyFloat.InUnit.of_accepted {x : PyFloat} (accepted : ¬ ¬ x.InUnit) : x.InUnit :=
  Decidable.not_not.mp accepted

theorem PyFloat.InUnit.exists_finite {x : PyFloat} (inside : x.InUnit) :
    ∃ q : Rat, x = .finite q ∧ 0 ≤ q ∧ q ≤ 1 := by
  obtain ⟨low, high⟩ := inside
  cases x with
  | finite q =>
      simp only [PyFloat.le, PyFloat.lt, Bool.or_eq_true, decide_eq_true_iff, Bool.and_eq_true,
        PyFloat.finite.injEq] at low high
      exact ⟨q, rfl, by grind, by grind⟩
  | inf => simp [PyFloat.le, PyFloat.lt] at high
  | negInf => simp [PyFloat.le, PyFloat.lt] at low
  | nan => simp [PyFloat.le, PyFloat.lt] at low

/-- `round(x)` of a float -/
def roundFloat : PyFloat → Except PyError Int
  | .finite x => .ok (roundHalfEven x)
  | .nan => .error (.valueError "cannot convert float NaN to integer")
  | _ => .error (.overflowError "cannot convert float infinity to integer")

/-- Rounding to the nearest float keeps order, and all integers up to 2^53 are floats. -/
class LawfulFloats [PyBuiltins] : Prop where
  sub_unit : ∀ x : Rat, 0 ≤ x → x ≤ 1 →
    ∃ d, PyBuiltins.sub (.finite 1) (.finite x) = .finite d ∧ 0 ≤ d ∧ d ≤ 1
  mul_unit : ∀ d y : Rat, 0 ≤ d → d ≤ 1 → 0 ≤ y →
    ∃ p, PyBuiltins.mul (.finite d) (.finite y) = .finite p ∧ 0 ≤ p ∧ p ≤ y
  floatOfInt_nonneg : ∀ (i : Int) (y : PyFloat), 0 ≤ i → PyBuiltins.floatOfInt i = .ok y →
    ∃ q, y = .finite q ∧ 0 ≤ q
  floatOfInt_exact : ∀ i : Int, |i| ≤ 2 ^ 53 → PyBuiltins.floatOfInt i = .ok (.finite i)

structure Passage where
  passageId : String
  docId : String
  version : String := "v0"
  deriving DecidableEq

inductive VersionPreference where
  | latest | oldest | any
  deriving DecidableEq

inductive RetrievalMode where
  | baseline | enhanced
  deriving DecidableEq

structure RetrievalResult where
  retrievedPassageIds : List String
  retrievalTopK : Int
  retrievalMode : RetrievalMode
  deriving DecidableEq

/-- The relevant passages of the queries are those listed for them. -/
structure RAGRetriever where
  topK : Int
  noiseLevel : PyFloat
  versionPreference : VersionPreference
  retrievalMode : RetrievalMode
  seed : Int
  passages : Dict String Passage
  qrels : Dict String (List String)
  allIds : List String
  positive : 0 < topK
  inRange : noiseLevel.InUnit
  deriving DecidableEq

namespace RAGRetriever

def preferenceOf : String → Option VersionPreference
  | "latest" => some .latest
  | "oldest" => some .oldest
  | "any" => some .any
  | _ => none

def modeOf : String → Option RetrievalMode
  | "baseline" => some .baseline
  | "enhanced" => some .enhanced
  | _ => none

theorem positive_of_accepted {topK : Int} (accepted : ¬ topK ≤ 0) : 0 < topK :=
  Int.not_le.mp accepted

/-- `RAGRetriever(corpus, qrels, ...)`, with the float next to 0.2 as the default noise. -/
def new (corpus : List Passage) (qrels : Dict String (List String)) (topK : Int := 5)
    (noiseLevel : PyFloat := .finite (3602879701896397 / 2 ^ 54))
    (versionPreference : String := "latest") (retrievalMode : String := "baseline")
    (seed : Int := 42) : Except PyError RAGRetriever :=
  if noTop : topK ≤ 0 then .error (.valueError "top_k must be positive")
  else if outside : ¬ noiseLevel.InUnit then
    .error (.valueError "noise_level must be in [0.0, 1.0]")
  else match preferenceOf versionPreference with
    | none => .error (.valueError "version_preference must be 'latest', 'oldest', or 'any'")
    | some preference =>
      match modeOf retrievalMode with
      | none => .error (.valueError "retrieval_mode must be 'baseline' or 'enhanced'")
      | some mode => .ok {
          topK, noiseLevel, seed, qrels
          versionPreference := preference
          retrievalMode := mode
          passages := .indexBy Passage.passageId corpus
          allIds := corpus.map Passage.passageId
          positive := positive_of_accepted noTop
          inRange := .of_accepted outside }

/-- A version-unaware retriever with a noise level of 0.3. -/
def baseline (corpus : List Passage) (qrels : Dict String (List String)) (topK : Int := 5)
    (seed : Int := 42) : Except PyError RAGRetriever :=
  new corpus qrels topK (.finite (5404319552844595 / 2 ^ 54)) "any" "baseline" seed

/-- A version-aware retriever with a noise level of 0.1. -/
def enhanced (corpus : List Passage) (qrels : Dict String (List String)) (topK : Int := 5)
    (seed : Int := 42) : Except PyError RAGRetriever :=
  new corpus qrels topK (.finite (3602879701896397 / 2 ^ 55)) "latest" "enhanced" seed

variable (self : RAGRetriever)

/-- `self._passages[passage_id]` -/
def passage (passageId : String) : Except PyError Passage :=
  match self.passages.get? passageId with
  | some passage => .ok passage
  | none => .error (.keyError passageId)

/-- The digits of a version, whatever else stands in it. -/
def versionDigits [PyUnicode] (version : String) : List Char :=
  version.toList.filter PyUnicode.isDigit

/-- `qrel.get("relevant_passage_ids", [])` -/
def goldIds (queryId : String) : List String := (self.qrels.get? queryId).getD []

def querySeed (hash : String → Int) (queryId : String) : Int :=
  self.seed.xor (hash queryId % 2 ^ 32)

section

variable [PyBuiltins] [PyUnicode]

def versionSortKey (passageId : String) : Except PyError Int := do
  let passage ← self.passage passageId
  match versionDigits passage.version with
  | [] => return 0
  | digits => PyBuiltins.intOfText (String.ofList digits)

/-- `by_doc` -/
def groupByDoc (goldIds : List String) : Except PyError (Dict String (List String)) :=
  goldIds.foldlM (fun byDoc pid => do
    let docId := (← self.passage pid).docId
    return byDoc.set docId ((byDoc.get? docId).getD [] ++ [pid])) Dict.empty

/-- The one passage that is kept of a document. -/
def keepVersion (pids : List String) : Except PyError String := do
  match pids with
  | [pid] => return pid
  | pids =>
      let keyed ← pids.mapM fun pid => do return (← self.versionSortKey pid, pid)
      let sorted := sortBy Prod.fst keyed
      match if self.versionPreference = .latest then sorted.getLast? else sorted.head? with
      | some chosen => return chosen.2
      | none => throw (.indexError "list index out of range")

def applyVersionPreference (goldIds : List String) : Except PyError (List String) := do
  if self.versionPreference = .any ∨ goldIds = [] then
    return goldIds
  (← self.groupByDoc goldIds).values.mapM self.keepVersion

/-- `round((1.0 - self.noise_level) * self.top_k)` -/
def wanted : Except PyError Int := do
  let topK ← PyBuiltins.floatOfInt self.topK
  roundFloat (PyBuiltins.mul (PyBuiltins.sub (.finite 1) self.noiseLevel) topK)

end

/-- The passages that are drawn, `nGold` of them effective gold ones. -/
def select [PyRandom] (goldIds effectiveGold : List String) (nGold : Int) (rng : PyRandom.Rng) :
    List String :=
  let nNoise := self.topK - nGold
  let goldShuffled := shuffle effectiveGold rng
  let selected := goldShuffled.1.take nGold.toNat
  if 0 < nNoise then
    let distractors := self.allIds.filter fun pid => pid ∉ goldIds ∧ pid ∉ selected
    let drawn := shuffle distractors goldShuffled.2
    (shuffle (selected ++ drawn.1.take nNoise.toNat) drawn.2).1
  else (shuffle selected goldShuffled.2).1

def retrieve [PyBuiltins] [PyUnicode] [PyRandom] (hash : String → Int) (queryId : String) :
    Except PyError RetrievalResult := do
  let goldIds := self.goldIds queryId
  let effectiveGold ← self.applyVersionPreference goldIds
  let nGold := min (effectiveGold.length : Int) (← self.wanted)
  let rng := PyRandom.seeded (self.querySeed hash queryId)
  return {
    retrievedPassageIds := self.select goldIds effectiveGold nGold rng
    retrievalTopK := self.topK
    retrievalMode := self.retrievalMode }

end RAGRetriever

end IntelliL3
