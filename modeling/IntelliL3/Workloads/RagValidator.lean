import Mathlib.Algebra.Order.Field.Rat
import Mathlib.Data.Finset.Card
import Mathlib.Data.Rat.Cast.Order
import Mathlib.Order.Interval.Set.Defs
import Mathlib.Tactic.NormNum
import IntelliL3.Workloads.Reference

/-! # Scores of an answer

`workloads/rag_validator.py`: how much of the evidence was retrieved, how much of the expected
answer was given and how much of the answer the evidence covers. Scores are exact fractions.
-/

namespace IntelliL3

open Lib

class PyText where
  /-- `text.lower()` -/
  lower : String → String
  /-- `text.strip()` -/
  strip : String → String

def abstentionSignals : List String := [
  "insufficient_evidence", "insufficient evidence", "don't know", "do not know",
  "cannot answer", "can't answer", "no information", "not available", "not found", "unknown",
  "unanswerable", "no relevant"]

def stopwords : List String := [
  "a", "an", "the", "is", "it", "in", "on", "at", "to", "for", "of",
  "and", "or", "but", "not", "with", "as", "by", "from", "that", "this",
  "be", "are", "was", "were", "been", "has", "have", "had", "do", "does",
  "did", "will", "would", "can", "could", "should", "may", "might",
  "when", "where", "how", "what", "which", "who", "its", "their"]

/-- `part in text` -/
def within (part text : String) : Bool := decide (part.toList <:+: text.toList)

structure RAGValidationResult where
  evidenceRecall : Rat
  evidencePrecision : Rat
  answerCorrectness : Rat
  groundedness : Rat
  abstentionCorrectness : Rat
  ragTaskSuccess : Bool
  deriving DecidableEq

section

variable [PyText]

/-- The words of four letters or more that are no stopwords. -/
def keyTerms (text : String) : List String :=
  let letter (c : Char) : Bool := 'a' ≤ c && c ≤ 'z'
  let tokens := ((PyText.lower text).toList.splitOnP (!letter ·)).map String.ofList
  tokens.filter fun token => 3 < token.length ∧ token ∉ stopwords

def isAbstention (answer : String) : Bool :=
  abstentionSignals.any fun signal => within signal (PyText.strip (PyText.lower answer))

end

structure RAGValidator where
  recallThreshold : PyFloat
  correctnessThreshold : PyFloat
  groundednessThreshold : PyFloat
  recallInUnit : recallThreshold.InUnit
  correctnessInUnit : correctnessThreshold.InUnit
  groundednessInUnit : groundednessThreshold.InUnit

namespace RAGValidator

def new (recallThreshold : PyFloat := .finite (1 / 2))
    (correctnessThreshold : PyFloat := .finite (1 / 2))
    (groundednessThreshold : PyFloat := .finite (5404319552844595 / 2 ^ 54)) :
    Except PyError RAGValidator :=
  if recallOut : ¬ recallThreshold.InUnit then
    .error (.valueError "recall_threshold must be in [0.0, 1.0]")
  else if correctnessOut : ¬ correctnessThreshold.InUnit then
    .error (.valueError "correctness_threshold must be in [0.0, 1.0]")
  else if groundednessOut : ¬ groundednessThreshold.InUnit then
    .error (.valueError "groundedness_threshold must be in [0.0, 1.0]")
  else .ok {
    recallThreshold, correctnessThreshold, groundednessThreshold
    recallInUnit := .of_accepted recallOut
    correctnessInUnit := .of_accepted correctnessOut
    groundednessInUnit := .of_accepted groundednessOut }

/-- How many of the retrieved passages are gold. -/
def hits (goldIds retrievedIds : List String) : Nat := retrievedIds.countP (· ∈ goldIds)

def evidenceRecall (goldIds retrievedIds : List String) : Rat :=
  -- Nothing was to be found.
  if goldIds = [] then 1 else hits goldIds retrievedIds / goldIds.length

def evidencePrecision (goldIds retrievedIds : List String) : Rat :=
  if retrievedIds = [] then 0 else hits goldIds retrievedIds / retrievedIds.length

section

variable [PyText]

def answerCorrectness (expected generated : String) : Rat :=
  let expTerms := keyTerms expected
  if expTerms = [] then 1
  else expTerms.countP (within · (PyText.lower generated)) / expTerms.length

def groundedness (generatedAnswer : String) (retrievedTexts : List String)
    (answerable : Bool := true) : Rat :=
  if isAbstention generatedAnswer then 1
  else if !answerable then 1
  else
    let ansTerms := keyTerms generatedAnswer
    let combined := PyText.lower (" ".intercalate retrievedTexts)
    if ansTerms = [] then 0 else ansTerms.countP (within · combined) / ansTerms.length

def abstentionCorrectness (generatedAnswer : String) (answerable : Bool) : Rat :=
  let abstained := isAbstention generatedAnswer
  if !answerable then (if abstained then 1 else 0)
  else if abstained then 0 else 1

variable (self : RAGValidator)

omit [PyText] in
def taskSuccess (answerable : Bool) (evidenceRecall answerCorrectness abstentionCorrectness : Rat) :
    Bool :=
  if !answerable then abstentionCorrectness = 1
  else PyFloat.le self.recallThreshold (.finite evidenceRecall) &&
    PyFloat.le self.correctnessThreshold (.finite answerCorrectness)

def validate (goldEvidenceIds retrievedPassageIds retrievedPassageTexts : List String)
    (expectedAnswer generatedAnswer : String) (answerable : Bool) : RAGValidationResult :=
  let evidence := evidenceRecall goldEvidenceIds retrievedPassageIds
  let correctness := answerCorrectness expectedAnswer generatedAnswer
  let abstention := abstentionCorrectness generatedAnswer answerable
  { evidenceRecall := evidence
    evidencePrecision := evidencePrecision goldEvidenceIds retrievedPassageIds
    answerCorrectness := correctness
    groundedness := groundedness generatedAnswer retrievedPassageTexts answerable
    abstentionCorrectness := abstention
    ragTaskSuccess := self.taskSuccess answerable evidence correctness abstention }

/-- `_ids(key)` -/
def ids [PyBuiltins] (metadata : Dict String Json) (key : String) :
    Except PyError (List String) := do
  let raw ← ((metadata.get? key).getD (.str "")).toStr
  return ((raw.toList.splitOn ',').map String.ofList).filter (· ≠ "")

def scoreRequest [PyBuiltins] (metadata : Dict String Json) (generatedAnswer : String)
    (passageTexts : Dict String String) : Except PyError RAGValidationResult := do
  let goldIds ← ids metadata "gold_evidence_ids"
  let retrievedIds ← ids metadata "retrieved_passage_ids"
  let answerable := ((metadata.get? "answerable").getD (.int 1)).truthy
  let expectedAnswer ← ((metadata.get? "expected_answer").getD (.str "")).toStr
  let retrievedTexts := retrievedIds.filterMap passageTexts.get?
  return self.validate goldIds retrievedIds retrievedTexts expectedAnswer generatedAnswer answerable

end

/-! ## Repeated ids -/

/-- How many places hold an id that came before. -/
def repeats (ids : List String) : Nat := ids.length - ids.toFinset.card

theorem length_eq_card_add_repeats (ids : List String) :
    ids.length = ids.toFinset.card + repeats ids :=
  (Nat.add_sub_cancel' ids.toFinset_card_le).symm

theorem hits_eq (goldIds retrievedIds : List String) : hits goldIds retrievedIds =
    (goldIds.toFinset ∩ retrievedIds.toFinset).card +
      repeats (retrievedIds.filter (· ∈ goldIds)) := by
  have found : (retrievedIds.filter (· ∈ goldIds)).toFinset =
      goldIds.toFinset ∩ retrievedIds.toFinset := by
    ext pid
    simp [and_comm]
  rw [hits, List.countP_eq_length_filter, length_eq_card_add_repeats, found]

/-- A scored request has the evidence scores of the ids that its metadata lists. -/
theorem scoreRequest_evidence [PyText] [PyBuiltins] {self : RAGValidator}
    {metadata : Dict String Json} {generatedAnswer : String} {passageTexts : Dict String String}
    {score : RAGValidationResult}
    (scored : self.scoreRequest metadata generatedAnswer passageTexts = .ok score) :
    ∃ goldIds retrievedIds, ids metadata "gold_evidence_ids" = .ok goldIds ∧
      ids metadata "retrieved_passage_ids" = .ok retrievedIds ∧
      score.evidenceRecall = evidenceRecall goldIds retrievedIds ∧
      score.evidencePrecision = evidencePrecision goldIds retrievedIds := by
  obtain ⟨goldIds, gold, scored⟩ := bind_eq_ok.mp scored
  obtain ⟨retrievedIds, retrieved, scored⟩ := bind_eq_ok.mp scored
  obtain ⟨expected, -, scored⟩ := bind_eq_ok.mp scored
  cases scored
  exact ⟨goldIds, retrievedIds, gold, retrieved, rfl, rfl⟩

/-- The evidence scores are fractions of sets. -/
structure SetFractions (goldIds retrievedIds : List String) : Prop where
  fraction : goldIds ≠ [] → evidenceRecall goldIds retrievedIds =
    (goldIds.toFinset ∩ retrievedIds.toFinset).card / goldIds.toFinset.card
  recallUnit : evidenceRecall goldIds retrievedIds ∈ Set.Icc 0 1
  precisionUnit : evidencePrecision goldIds retrievedIds ∈ Set.Icc 0 1
  complete : evidenceRecall goldIds retrievedIds = 1 ↔ ∀ pid ∈ goldIds, pid ∈ retrievedIds

theorem div_mem_unit {part whole : Nat} (le : part ≤ whole) :
    (part : Rat) / whole ∈ Set.Icc 0 1 :=
  ⟨by positivity, div_le_one_of_le₀ (by exact_mod_cast le) (by positivity)⟩

theorem evidencePrecision_unit (goldIds retrievedIds : List String) :
    evidencePrecision goldIds retrievedIds ∈ Set.Icc 0 1 := by
  unfold evidencePrecision
  split
  · exact ⟨le_rfl, zero_le_one⟩
  · exact div_mem_unit List.countP_le_length

/-- Recall is a fraction of the set exactly where repeats add to both numbers alike. -/
theorem evidenceRecall_eq_iff {goldIds : List String} (some : goldIds ≠ [])
    (retrievedIds : List String) : evidenceRecall goldIds retrievedIds =
      (goldIds.toFinset ∩ retrievedIds.toFinset).card / goldIds.toFinset.card ↔
    repeats (retrievedIds.filter (· ∈ goldIds)) * goldIds.toFinset.card =
      (goldIds.toFinset ∩ retrievedIds.toFinset).card * repeats goldIds := by
  have distinct : (goldIds.toFinset.card : Rat) ≠ 0 := by simpa using some
  have listed : (goldIds.length : Rat) ≠ 0 := by simpa using some
  rw [evidenceRecall, if_neg some, div_eq_div_iff listed distinct, hits_eq,
    length_eq_card_add_repeats goldIds]
  norm_cast
  rw [Nat.add_mul, Nat.mul_add, Nat.add_left_cancel_iff]

/-- The evidence scores are fractions of sets exactly where no gold id was to be found, or
    where as many repeats come on each id that was found as on each that was to be found. -/
theorem evidence_setFractions_iff (goldIds retrievedIds : List String) :
    SetFractions goldIds retrievedIds ↔ goldIds = [] ∨
      repeats (retrievedIds.filter (· ∈ goldIds)) * goldIds.toFinset.card =
        (goldIds.toFinset ∩ retrievedIds.toFinset).card * repeats goldIds := by
  by_cases none : goldIds = []
  · subst none
    refine iff_of_true ⟨fun some => absurd rfl some, ⟨zero_le_one, le_rfl⟩,
      evidencePrecision_unit _ _, iff_of_true rfl (List.forall_mem_nil _)⟩ (.inl rfl)
  rw [or_iff_right none, ← evidenceRecall_eq_iff none]
  refine ⟨fun fractions => fractions.fraction none, fun fraction => ?_⟩
  have part := Finset.card_le_card
    (@Finset.inter_subset_left _ _ goldIds.toFinset retrievedIds.toFinset)
  refine ⟨fun _ => fraction, fraction ▸ div_mem_unit part, evidencePrecision_unit _ _, ?_⟩
  have distinct : (goldIds.toFinset.card : Rat) ≠ 0 := by simpa using none
  rw [fraction, div_eq_one_iff_eq distinct, Nat.cast_inj]
  constructor
  · intro all pid gold
    have same := Finset.eq_of_subset_of_card_le Finset.inter_subset_left all.ge
    have found := same ▸ List.mem_toFinset.mpr gold
    exact List.mem_toFinset.mp (Finset.mem_inter.mp found).2
  · intro all
    rw [Finset.inter_eq_left.mpr fun pid gold =>
      List.mem_toFinset.mpr (all pid (List.mem_toFinset.mp gold))]

section

open Reference

private def twice : Dict String Json :=
  Dict.set (.set .empty "gold_evidence_ids" (.str "P001")) "retrieved_passage_ids"
    (.str "P001,P001")

/-- A gold passage that is retrieved twice is found twice. -/
theorem evidenceRecall_twice :
    ids twice "gold_evidence_ids" = .ok ["P001"] ∧
      ids twice "retrieved_passage_ids" = .ok ["P001", "P001"] ∧
      evidenceRecall ["P001"] ["P001", "P001"] = 2 ∧
      ¬ SetFractions ["P001"] ["P001", "P001"] := by
  have two : evidenceRecall ["P001"] ["P001", "P001"] = 2 := by decide +kernel
  refine ⟨by decide +kernel, by decide +kernel, two, fun fractions => ?_⟩
  have unit := fractions.recallUnit.2
  rw [two] at unit
  exact absurd unit (by decide +kernel)

end

end RAGValidator

end IntelliL3
