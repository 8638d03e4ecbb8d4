import Mathlib.Data.List.Perm.Subperm
import Mathlib.Tactic.Linarith
import IntelliL3.Workloads.RagRetriever
import IntelliL3.Workloads.Reference

/-! # What a retrieval is made of

So many gold passages and so many others, none twice. A version-aware retriever draws at most
one gold passage of a document, and that one has the highest or the lowest version. It raises
when it has to compare versions and `int` does not read what `isdigit` counts as a digit.
-/

namespace IntelliL3

open Lib

theorem nodup_of_subperm {α : Type} {items all : List α} (part : items.Subperm all)
    (distinct : all.Nodup) : items.Nodup := by
  obtain ⟨sublist, same, inside⟩ := part
  exact same.nodup_iff.mp (distinct.sublist inside)

/-- A version with this key may be kept beside one with the other key. -/
def VersionPreference.Allows : VersionPreference → Int → Int → Prop
  | .latest, key, other => other ≤ key
  | .oldest, key, other => key ≤ other
  | .any, _, _ => True

/-- The last or the first of the sorted rows. -/
def VersionPreference.extreme (preference : VersionPreference) (keyed : List (Int × String)) :
    Option (Int × String) :=
  let sorted := sortBy Prod.fst keyed
  if preference = .latest then sorted.getLast? else sorted.head?

theorem extreme_returned {preference : VersionPreference} {keyed : List (Int × String)}
    {row : Int × String} (set : preference ≠ .any) (found : preference.extreme keyed = some row) :
    row ∈ keyed ∧ ∀ other ∈ keyed, preference.Allows row.1 other.1 := by
  cases preference with
  | latest => exact getLast?_sortBy found
  | oldest =>
      have first := head?_sortBy_eq_some_iff.mp found
      exact ⟨first.mem, fun _ member => first.le member⟩
  | any => exact absurd rfl set

theorem extreme_exists (preference : VersionPreference) {keyed : List (Int × String)}
    (some : keyed ≠ []) : ∃ row, preference.extreme keyed = .some row := by
  have sorted : sortBy Prod.fst keyed ≠ [] := by
    rw [← List.length_pos_iff, sortBy, List.length_insertionSort]
    exact List.length_pos_iff.mpr some
  unfold VersionPreference.extreme
  dsimp only
  split
  · exact ⟨_, List.getLast?_eq_some_getLast sorted⟩
  · exact ⟨_, List.head?_eq_some_head sorted⟩

namespace RAGRetriever

/-- The constructor knows every row of its corpus by its id. -/
structure Indexes (retriever : RAGRetriever) (corpus : List Passage) : Prop where
  ids : retriever.allIds = corpus.map Passage.passageId
  rows : ∀ row ∈ corpus, retriever.passages.get? row.passageId = some row

theorem new_ok {corpus : List Passage} {qrels : Dict String (List String)} {topK : Int}
    {noiseLevel : PyFloat} {versionPreference retrievalMode : String} {seed : Int}
    {self : RAGRetriever}
    (made : new corpus qrels topK noiseLevel versionPreference retrievalMode seed = .ok self) :
    self.passages = .indexBy Passage.passageId corpus ∧
      self.allIds = corpus.map Passage.passageId ∧ self.qrels = qrels := by
  unfold new at made
  obtain ⟨_, made⟩ := check_passed made
  obtain ⟨_, made⟩ := check_passed made
  split at made
  · cases made
  · split at made
    · cases made
    · cases made
      exact ⟨rfl, rfl, rfl⟩

theorem new_indexes {corpus : List Passage} {qrels : Dict String (List String)} {topK : Int}
    {noiseLevel : PyFloat} {versionPreference retrievalMode : String} {seed : Int}
    {self : RAGRetriever} (distinct : (corpus.map Passage.passageId).Nodup)
    (made : new corpus qrels topK noiseLevel versionPreference retrievalMode seed = .ok self) :
    self.Indexes corpus := by
  obtain ⟨passages, ids, -⟩ := new_ok made
  refine ⟨ids, fun row member => ?_⟩
  rw [passages]
  exact Dict.get?_indexBy distinct member

variable (self : RAGRetriever)

/-- `self._passages[pid]["doc_id"]` of a passage of the corpus -/
def document (pid : String) : String :=
  match self.passages.get? pid with
  | some row => row.docId
  | none => ""

/-- How many gold passages are left after the version preference: all of them, or one of each
    document. -/
def effectiveCount (gold : List String) : Nat :=
  match self.versionPreference with
  | .any => gold.length
  | .latest | .oldest => (gold.map self.document).dedup.length

def Known (gold : List String) : Prop :=
  ∀ pid ∈ gold, ∃ row, self.passages.get? pid = some row

section

variable [PyBuiltins] [PyUnicode]

/-- Among the gold passages of its document this one has the highest or the lowest key. -/
def Preferred (gold : List String) (pid : String) : Prop :=
  ∀ other ∈ gold, self.document other = self.document pid → other ≠ pid →
    ∃ key key', self.versionSortKey pid = .ok key ∧ self.versionSortKey other = .ok key' ∧
      self.versionPreference.Allows key key'

/-- `int` reads the digits of every version that is compared with another one. -/
def Readable (gold : List String) : Prop :=
  self.versionPreference = .any ∨
    ∀ pid ∈ gold, ∀ other ∈ gold, self.document other = self.document pid → other ≠ pid →
      ∀ row, self.passages.get? pid = some row → versionDigits row.version = [] ∨
        ∃ key, PyBuiltins.intOfText (String.ofList (versionDigits row.version)) = .ok key

variable {self}

theorem versionSortKey_known {pid : String} {row : Passage}
    (found : self.passages.get? pid = some row) : self.versionSortKey pid =
      match versionDigits row.version with
      | [] => .ok 0
      | digits => PyBuiltins.intOfText (String.ofList digits) := by
  rw [versionSortKey, passage, found]
  rfl

theorem versionSortKey_returns_iff {pid : String} {row : Passage}
    (found : self.passages.get? pid = some row) : (∃ key, self.versionSortKey pid = .ok key) ↔
      versionDigits row.version = [] ∨
        ∃ key, PyBuiltins.intOfText (String.ofList (versionDigits row.version)) = .ok key := by
  rw [versionSortKey_known found]
  cases versionDigits row.version with
  | nil => simp
  | cons c digits => simp

omit [PyBuiltins] [PyUnicode] in
theorem groupByDoc_known {gold : List String} (known : self.Known gold) :
    self.groupByDoc gold = .ok (Dict.groupBy self.document gold) := by
  rw [groupByDoc, Dict.groupBy]
  generalize (Dict.empty : Dict String (List String)) = byDoc
  induction gold generalizing byDoc with
  | nil => rfl
  | cons pid rest ih =>
      obtain ⟨row, found⟩ := known pid List.mem_cons_self
      have document : self.document pid = row.docId := by rw [RAGRetriever.document, found]
      have first : self.passage pid = .ok row := by rw [passage, found]
      rw [List.foldlM_cons, first, List.foldl_cons, document]
      exact ih (fun later member => known later (List.mem_cons_of_mem _ member)) _

theorem keepVersion_several {pids : List String} (several : pids.length ≠ 1) :
    self.keepVersion pids = (do
      let keyed ← pids.mapM fun pid => do return (← self.versionSortKey pid, pid)
      match self.versionPreference.extreme keyed with
      | some chosen => return chosen.2
      | none => throw (.indexError "list index out of range")) := by
  match pids with
  | [] => rfl
  | [_] => exact absurd rfl several
  | _ :: _ :: _ => rfl

theorem keyed_iff {pid : String} {row : Int × String} :
    (do return (← self.versionSortKey pid, pid) : Except PyError (Int × String)) = .ok row ↔
      self.versionSortKey pid = .ok row.1 ∧ row.2 = pid := by
  cases self.versionSortKey pid with
  | error e => simp [bind, Except.bind]
  | ok key => simp [bind, Except.bind, pure, Except.pure, Prod.ext_iff, eq_comm]

theorem mem_keyed_iff {pids : List String} {keyed : List (Int × String)}
    (done : (pids.mapM fun pid => do return (← self.versionSortKey pid, pid)) = .ok keyed)
    {row : Int × String} :
    row ∈ keyed ↔ row.2 ∈ pids ∧ self.versionSortKey row.2 = .ok row.1 := by
  simp only [mem_mapM_iff done, keyed_iff]
  constructor
  · rintro ⟨_, listed, key, rfl⟩
    exact ⟨listed, key⟩
  · rintro ⟨listed, key⟩
    exact ⟨_, listed, key, rfl⟩

/-- One passage needs no key; of several every key is read. -/
theorem keepVersion_returns_iff {pids : List String} (some : pids ≠ []) :
    (∃ chosen, self.keepVersion pids = .ok chosen) ↔
      pids.length = 1 ∨ ∀ pid ∈ pids, ∃ key, self.versionSortKey pid = .ok key := by
  by_cases several : pids.length = 1
  · obtain ⟨pid, rfl⟩ := List.length_eq_one_iff.mp several
    exact iff_of_true ⟨pid, rfl⟩ (.inl rfl)
  · have read : (∃ keyed, (pids.mapM fun pid => do return (← self.versionSortKey pid, pid)) =
        .ok keyed) ↔ ∀ pid ∈ pids, ∃ key, self.versionSortKey pid = .ok key := by
      rw [mapM_succeeds_iff]
      refine forall₂_congr fun pid _ => ⟨?_, ?_⟩
      · rintro ⟨row, returned⟩
        exact ⟨row.1, (keyed_iff.mp returned).1⟩
      · rintro ⟨key, returned⟩
        exact ⟨(key, pid), keyed_iff.mpr ⟨returned, rfl⟩⟩
    rw [keepVersion_several several, or_iff_right several, ← read]
    constructor
    · rintro ⟨chosen, kept⟩
      obtain ⟨keyed, done, -⟩ := bind_eq_ok.mp kept
      exact ⟨keyed, done⟩
    · rintro ⟨keyed, done⟩
      have rows : keyed ≠ [] := by
        rw [← List.length_pos_iff, (mapM_returned done).1]
        exact List.length_pos_iff.mpr some
      obtain ⟨chosen, found⟩ := extreme_exists self.versionPreference rows
      exact ⟨chosen.2, by rw [done, ok_bind, found]; rfl⟩

theorem keepVersion_returned {pids : List String} {chosen : String}
    (preference : self.versionPreference ≠ .any) (kept : self.keepVersion pids = .ok chosen) :
    chosen ∈ pids ∧ ∀ other ∈ pids, other ≠ chosen → ∃ key key',
      self.versionSortKey chosen = .ok key ∧ self.versionSortKey other = .ok key' ∧
        self.versionPreference.Allows key key' := by
  by_cases several : pids.length = 1
  · obtain ⟨pid, rfl⟩ := List.length_eq_one_iff.mp several
    cases kept
    exact ⟨List.mem_cons_self, fun other member different =>
      absurd (List.mem_singleton.mp member) different⟩
  · rw [keepVersion_several several] at kept
    obtain ⟨keyed, done, kept⟩ := bind_eq_ok.mp kept
    split at kept
    case h_2 => cases kept
    case h_1 row found =>
    cases kept
    obtain ⟨member, extreme⟩ := extreme_returned preference found
    obtain ⟨listed, key⟩ := (mem_keyed_iff done).mp member
    refine ⟨listed, fun other member _ => ?_⟩
    obtain ⟨key', returned⟩ := mapM_succeeds_iff.mp ⟨keyed, done⟩ other member
    have returned := (keyed_iff.mp returned).1
    exact ⟨row.1, key'.1, key, returned,
      extreme (key'.1, other) ((mem_keyed_iff done).mpr ⟨member, returned⟩)⟩

theorem applyVersionPreference_any {gold : List String}
    (preference : self.versionPreference = .any) : self.applyVersionPreference gold = .ok gold := by
  rw [applyVersionPreference, if_pos (.inl preference)]
  rfl

theorem applyVersionPreference_grouped {gold : List String}
    (preference : self.versionPreference ≠ .any) (known : self.Known gold) :
    self.applyVersionPreference gold =
      (Dict.groupBy self.document gold).values.mapM self.keepVersion := by
  unfold applyVersionPreference
  by_cases none : gold = []
  · subst none
    rw [if_pos (.inr rfl)]
    rfl
  · rw [if_neg (not_or.mpr ⟨preference, none⟩), groupByDoc_known known]
    rfl

omit [PyBuiltins] [PyUnicode] in
theorem mem_group_iff {gold : List String} {pid other : String} :
    other ∈ gold.filter (self.document · = self.document pid) ↔
      other ∈ gold ∧ self.document other = self.document pid := by
  rw [List.mem_filter, decide_eq_true_iff]

theorem applyVersionPreference_returns_iff {gold : List String} (known : self.Known gold)
    (distinct : gold.Nodup) :
    (∃ effective, self.applyVersionPreference gold = .ok effective) ↔ self.Readable gold := by
  by_cases preference : self.versionPreference = .any
  · exact iff_of_true ⟨gold, applyVersionPreference_any preference⟩ (.inl preference)
  rw [applyVersionPreference_grouped preference known, mapM_succeeds_iff, Readable,
    or_iff_right preference]
  constructor
  · intro kept pid member other listed same different row found
    have mine : pid ∈ gold.filter (self.document · = self.document pid) :=
      mem_group_iff.mpr ⟨member, rfl⟩
    have theirs : other ∈ gold.filter (self.document · = self.document pid) :=
      mem_group_iff.mpr ⟨listed, same⟩
    have group := kept _ (Dict.mem_values_groupBy.mpr ⟨pid, member, rfl⟩)
    rcases (keepVersion_returns_iff (List.ne_nil_of_mem mine)).mp group with one | read
    · obtain ⟨only, single⟩ := List.length_eq_one_iff.mp one
      rw [single, List.mem_singleton] at mine theirs
      exact absurd (theirs.trans mine.symm) different
    · exact (versionSortKey_returns_iff found).mp (read pid mine)
  · intro read group listed
    obtain ⟨a, member, rfl⟩ := Dict.mem_values_groupBy.mp listed
    have mine : a ∈ gold.filter (self.document · = self.document a) :=
      mem_group_iff.mpr ⟨member, rfl⟩
    refine (keepVersion_returns_iff (List.ne_nil_of_mem mine)).mpr (or_iff_not_imp_left.mpr ?_)
    intro several pid inside
    obtain ⟨row, found⟩ := known pid (mem_group_iff.mp inside).1
    have others : gold.filter (self.document · = self.document a) ≠ [pid] := fun single =>
      several (by rw [single]; rfl)
    rcases (List.Nodup.ne_singleton_iff (distinct.filter _) pid).mp others with none | other
    · exact absurd none (List.ne_nil_of_mem mine)
    · obtain ⟨other, beside, different⟩ := other
      obtain ⟨listed, same⟩ := mem_group_iff.mp inside
      obtain ⟨listed', same'⟩ := mem_group_iff.mp beside
      exact (versionSortKey_returns_iff found).mpr
        (read pid listed other listed' (same'.trans same.symm) different row found)

/-- What is left of the gold passages. -/
structure Effective (retriever : RAGRetriever) (gold effective : List String) : Prop where
  distinct : effective.Nodup
  inGold : ∀ pid ∈ effective, pid ∈ gold
  length : effective.length = retriever.effectiveCount gold
  preferred : retriever.versionPreference ≠ .any → ∀ pid ∈ effective, retriever.Preferred gold pid
  onePerDocument : retriever.versionPreference ≠ .any → (effective.map retriever.document).Nodup

theorem applyVersionPreference_returned {gold effective : List String} (known : self.Known gold)
    (distinct : gold.Nodup) (applied : self.applyVersionPreference gold = .ok effective) :
    self.Effective gold effective := by
  by_cases preference : self.versionPreference = .any
  · rw [applyVersionPreference_any preference] at applied
    cases applied
    exact ⟨distinct, fun _ member => member, by rw [effectiveCount, preference],
      fun set => absurd preference set, fun set => absurd preference set⟩
  rw [applyVersionPreference_grouped preference known] at applied
  have chosen {pid : String} (member : pid ∈ effective) :
      pid ∈ gold ∧ self.Preferred gold pid := by
    obtain ⟨group, listed, kept⟩ := (mem_mapM_iff applied).mp member
    obtain ⟨a, -, rfl⟩ := Dict.mem_values_groupBy.mp listed
    obtain ⟨inside, extreme⟩ := keepVersion_returned preference kept
    obtain ⟨inGold, here⟩ := mem_group_iff.mp inside
    exact ⟨inGold, fun other listed same different =>
      extreme other (mem_group_iff.mpr ⟨listed, same.trans here⟩) different⟩
  have documents : effective.map self.document = (Dict.groupBy self.document gold).keys :=
    Dict.map_key_eq_keys ((forall₂_of_mapM applied).imp fun _ _ kept =>
      (keepVersion_returned preference kept).1)
  have one : (effective.map self.document).Nodup := documents ▸ Dict.keys_nodup _
  refine ⟨one.of_map _, fun pid member => (chosen member).1, ?_,
    fun _ pid member => (chosen member).2, fun _ => one⟩
  have count : self.effectiveCount gold = (gold.map self.document).dedup.length := by
    unfold effectiveCount
    split <;> simp_all
  rw [count, ← Dict.keys_groupBy_perm.length_eq, ← documents, List.length_map]

omit [PyUnicode] in
theorem wanted_eq [LawfulFloats] {topK : Rat} (nonneg : 0 ≤ topK)
    (float : PyBuiltins.floatOfInt self.topK = .ok (.finite topK)) :
    ∃ p, self.wanted = .ok (roundHalfEven p) ∧ 0 ≤ p ∧ p ≤ topK := by
  obtain ⟨x, noise, low, high⟩ := self.inRange.exists_finite
  obtain ⟨d, difference, dLow, dHigh⟩ := LawfulFloats.sub_unit x low high
  obtain ⟨p, product, pLow, pHigh⟩ := LawfulFloats.mul_unit d topK dLow dHigh nonneg
  exact ⟨p, by rw [wanted, float, ok_bind, noise, difference, product]; rfl, pLow, pHigh⟩

omit [PyUnicode] in
theorem wanted_nonneg [LawfulFloats] {wanted : Int} (computed : self.wanted = .ok wanted) :
    0 ≤ wanted := by
  have float := computed
  rw [RAGRetriever.wanted] at float
  obtain ⟨y, float, -⟩ := bind_eq_ok.mp float
  obtain ⟨q, rfl, nonneg⟩ := LawfulFloats.floatOfInt_nonneg _ y self.positive.le float
  obtain ⟨p, same, low, -⟩ := wanted_eq nonneg float
  rw [computed, Except.ok.injEq] at same
  exact same ▸ (roundHalfEven_mem low (Int.le_ceil p)).1

/-- The retriever draws as many gold passages as it wants, or all there are, and no more than
    it may return. -/
def WithinTop (self : RAGRetriever) (gold : List String) : Prop :=
  ∃ wanted, self.wanted = .ok wanted ∧ min (self.effectiveCount gold : Int) wanted ≤ self.topK

omit [PyUnicode] in
/-- Floats hold every number of passages that one asks for. -/
theorem withinTop_of_small [LawfulFloats] (small : self.topK ≤ 2 ^ 53) (gold : List String) :
    self.WithinTop gold := by
  have positive := self.positive
  have float := LawfulFloats.floatOfInt_exact self.topK (abs_le.mpr ⟨by omega, small⟩)
  obtain ⟨p, computed, low, high⟩ := wanted_eq (by exact_mod_cast positive.le) float
  exact ⟨_, computed, (min_le_right _ _).trans (roundHalfEven_mem low high).2⟩

end

section

variable {self : RAGRetriever} [PyRandom]

theorem take_shuffle_subperm {items : List String} {rng : PyRandom.Rng} (n : Nat) :
    ((shuffle items rng).1.take n).Subperm items :=
  (List.take_sublist _ _).subperm.trans (shuffle_perm items rng).subperm

theorem length_take_shuffle {items : List String} {rng : PyRandom.Rng} (n : Nat) :
    ((shuffle items rng).1.take n).length = min n items.length := by
  rw [List.length_take, (shuffle_perm items rng).length_eq]

/-- A passage that is drawn is gold, so that leaving out the gold ones leaves it out. -/
theorem distractors_eq {gold effective : List String} {n : Nat} {rng : PyRandom.Rng}
    (inGold : ∀ pid ∈ effective, pid ∈ gold) :
    (self.allIds.filter fun pid => pid ∉ gold ∧ pid ∉ (shuffle effective rng).1.take n) =
      self.allIds.filter (· ∉ gold) := by
  refine List.filter_congr fun pid _ => decide_eq_decide.mpr (and_iff_left_of_imp ?_)
  exact fun notGold member => notGold (inGold pid ((take_shuffle_subperm n).subset member))

/-- Some of the effective gold passages, and some of those that are not gold. -/
theorem select_perm (gold effective : List String) (nGold : Int) (rng : PyRandom.Rng)
    (inGold : ∀ pid ∈ effective, pid ∈ gold) : ∃ selected noise,
      (self.select gold effective nGold rng).Perm (selected ++ noise) ∧
      selected.Subperm effective ∧ selected.length = min nGold.toNat effective.length ∧
      noise.Subperm (self.allIds.filter (· ∉ gold)) ∧
      noise.length = min (self.topK - nGold).toNat (self.allIds.countP (· ∉ gold)) := by
  have within := @take_shuffle_subperm _ effective rng nGold.toNat
  refine ⟨(shuffle effective rng).1.take nGold.toNat, ?_⟩
  unfold select
  dsimp only
  rw [distractors_eq inGold]
  split
  · refine ⟨_, shuffle_perm _ _, within, length_take_shuffle _, take_shuffle_subperm _, ?_⟩
    rw [length_take_shuffle, List.countP_eq_length_filter]
  · next full =>
      refine ⟨[], ?_, within, length_take_shuffle _, List.nil_subperm, ?_⟩
      · rw [List.append_nil]
        exact shuffle_perm _ _
      · rw [Int.toNat_of_nonpos (not_lt.mp full), Nat.zero_min, List.length_nil]

end

/-- So many gold passages and otherwise others, no passage twice, and of each document at most
    one that the preference puts first. -/
structure Composed [PyBuiltins] [PyUnicode] (retriever : RAGRetriever) (gold : List String)
    (nGold : Int) (retrieved : List String) : Prop where
  distinct : retrieved.Nodup
  known : ∀ pid ∈ retrieved, pid ∈ retriever.allIds
  fromGold : retrieved.countP (· ∈ gold) = nGold
  length : (retrieved.length : Int) =
    min retriever.topK (nGold + retriever.allIds.countP (· ∉ gold))
  preferred : retriever.versionPreference ≠ .any →
    ∀ pid ∈ retrieved, pid ∈ gold → retriever.Preferred gold pid
  onePerDocument : retriever.versionPreference ≠ .any →
    ((retrieved.filter (· ∈ gold)).map retriever.document).Nodup

theorem select_composed [PyBuiltins] [PyUnicode] [PyRandom] {self : RAGRetriever}
    {gold effective : List String} {nGold : Int} {rng : PyRandom.Rng}
    (ids : self.allIds.Nodup) (listed : ∀ pid ∈ gold, pid ∈ self.allIds)
    (left : self.Effective gold effective) (nonneg : 0 ≤ nGold)
    (available : nGold ≤ effective.length) (within : nGold ≤ self.topK) :
    self.Composed gold nGold (self.select gold effective nGold rng) := by
  obtain ⟨selected, noise, drawn, some, someLength, others, othersLength⟩ :=
    self.select_perm gold effective nGold rng left.inGold
  have inGold : ∀ pid ∈ selected, pid ∈ gold := fun pid member =>
    left.inGold pid (some.subset member)
  have notGold : ∀ pid ∈ noise, pid ∈ self.allIds ∧ pid ∉ gold := fun pid member => by
    simpa using others.subset member
  have goldPart : (selected ++ noise).filter (· ∈ gold) = selected := by
    rw [List.filter_append, List.filter_eq_self.mpr (by simpa using inGold),
      List.filter_eq_nil_iff.mpr (by simpa using fun pid member => (notGold pid member).2),
      List.append_nil]
  have selectedLength : (selected.length : Int) = nGold := by omega
  constructor
  case distinct =>
    refine drawn.nodup_iff.mpr (List.nodup_append.mpr ⟨?_, ?_, ?_⟩)
    · exact nodup_of_subperm some left.distinct
    · exact nodup_of_subperm others (ids.filter _)
    · intro pid chosen other noise same
      exact (notGold other noise).2 (same ▸ inGold pid chosen)
  case known =>
    intro pid member
    rcases List.mem_append.mp (drawn.subset member) with chosen | noise
    · exact listed pid (inGold pid chosen)
    · exact (notGold pid noise).1
  case fromGold =>
    rw [drawn.countP_eq, List.countP_eq_length_filter, goldPart, selectedLength]
  case length =>
    rw [drawn.length_eq, List.length_append]
    omega
  case preferred =>
    intro set pid member isGold
    rcases List.mem_append.mp (drawn.subset member) with chosen | noise
    · exact left.preferred set pid (some.subset chosen)
    · exact absurd isGold (notGold pid noise).2
  case onePerDocument =>
    intro set
    have chosen : ((self.select gold effective nGold rng).filter (· ∈ gold)).Perm selected :=
      goldPart ▸ drawn.filter _
    obtain ⟨sublist, same, inside⟩ := some
    rw [(chosen.map _).nodup_iff, ← (same.map _).nodup_iff]
    exact (left.onePerDocument set).sublist (inside.map _)

/-- Retrieval returns what it should exactly when it can tell the versions apart and may draw
    as many gold passages as it wants. -/
theorem retrieve_composed_iff [PyBuiltins] [LawfulFloats] [PyUnicode] [PyRandom]
    {corpus : List Passage} {qrels : Dict String (List String)} {topK : Int}
    {noiseLevel : PyFloat} {versionPreference retrievalMode : String} {seed : Int}
    {self : RAGRetriever}
    (made : new corpus qrels topK noiseLevel versionPreference retrievalMode seed = .ok self)
    (distinct : (corpus.map Passage.passageId).Nodup) (hash : String → Int) (queryId : String)
    (goldDistinct : (self.goldIds queryId).Nodup)
    (goldListed : ∀ pid ∈ self.goldIds queryId, pid ∈ corpus.map Passage.passageId) :
    (∃ result wanted, self.retrieve hash queryId = .ok result ∧ self.wanted = .ok wanted ∧
      self.Composed (self.goldIds queryId) (min (self.effectiveCount (self.goldIds queryId)) wanted)
        result.retrievedPassageIds) ↔
      self.Readable (self.goldIds queryId) ∧ self.WithinTop (self.goldIds queryId) := by
  have indexes := new_indexes distinct made
  have known : self.Known (self.goldIds queryId) := fun pid member => by
    obtain ⟨row, listed, rfl⟩ := List.mem_map.mp (goldListed pid member)
    exact ⟨row, indexes.rows row listed⟩
  rw [← applyVersionPreference_returns_iff known goldDistinct]
  constructor
  · rintro ⟨result, wanted, returned, computed, composed⟩
    obtain ⟨effective, applied, -⟩ := bind_eq_ok.mp returned
    refine ⟨⟨effective, applied⟩, wanted, computed, ?_⟩
    have drawn := List.countP_le_length (p := (· ∈ self.goldIds queryId))
      (l := result.retrievedPassageIds)
    have fromGold := composed.fromGold
    have length := composed.length
    omega
  · rintro ⟨⟨effective, applied⟩, wanted, computed, within⟩
    have left := applyVersionPreference_returned known goldDistinct applied
    have nonneg := wanted_nonneg computed
    rw [← left.length] at within ⊢
    refine ⟨_, wanted, by rw [retrieve, applied, ok_bind, computed, ok_bind]; rfl, computed, ?_⟩
    refine select_composed (indexes.ids ▸ distinct) (indexes.ids ▸ goldListed) left ?_ ?_ within
    · omega
    · omega

section

open Reference

private def manual : List Passage := [
  { passageId := "P1", docId := "D1", version := "v1" },
  { passageId := "P2", docId := "D1", version := "v2" },
  { passageId := "P3", docId := "D2" },
  { passageId := "P4", docId := "D3" },
  { passageId := "P5", docId := "D3" }]

private def relevant : Dict String (List String) := .set .empty "Q1" ["P1", "P2", "P3"]

private theorem half_inUnit : (PyFloat.finite (1 / 2)).InUnit := by decide +kernel

private def manualRetriever : RAGRetriever where
  topK := 3
  noiseLevel := .finite (1 / 2)
  versionPreference := .latest
  retrievalMode := .enhanced
  seed := 42
  passages := .indexBy Passage.passageId manual
  qrels := relevant
  allIds := manual.map Passage.passageId
  positive := Int.natCast_succ_pos 2
  inRange := half_inUnit

/-- Two of three passages are to be gold, and `P1` gives way to the later `P2`. -/
theorem retrieve_composed_manual :
    ∃ result wanted, manualRetriever.retrieve (fun _ => 0) "Q1" = .ok result ∧
      manualRetriever.wanted = .ok wanted ∧
      manualRetriever.Composed (manualRetriever.goldIds "Q1")
        (min (manualRetriever.effectiveCount (manualRetriever.goldIds "Q1")) wanted)
        result.retrievedPassageIds := by
  have made : new manual relevant 3 (.finite (1 / 2)) "latest" "enhanced" 42 =
    .ok manualRetriever := by decide +kernel
  have distinct : (manual.map Passage.passageId).Nodup := by decide +kernel
  have goldDistinct : (manualRetriever.goldIds "Q1").Nodup := by decide +kernel
  have known : manualRetriever.Known (manualRetriever.goldIds "Q1") := by
    have all : ∀ pid ∈ manualRetriever.goldIds "Q1",
        (manualRetriever.passages.get? pid).isSome := by decide +kernel
    exact fun pid member => Option.isSome_iff_exists.mp (all pid member)
  have readable := (applyVersionPreference_returns_iff known goldDistinct).mp
    ⟨["P2", "P3"], by decide +kernel⟩
  exact (retrieve_composed_iff made distinct (fun _ => 0) "Q1" goldDistinct
    (by decide +kernel)).mpr ⟨readable, withinTop_of_small (by decide) _⟩

private def superscripts : List Passage := [
  { passageId := "P1", docId := "D1", version := "v²" },
  { passageId := "P2", docId := "D1", version := "v1" }]

private def superscriptRetriever : RAGRetriever :=
  { manualRetriever with
    passages := .indexBy Passage.passageId superscripts
    qrels := .set .empty "Q1" ["P1", "P2"]
    allIds := superscripts.map Passage.passageId }

/-- `²` is a digit, but not one that `int` reads. -/
theorem retrieve_superscript_version :
    new superscripts (.set .empty "Q1" ["P1", "P2"]) 3 (.finite (1 / 2)) "latest" "enhanced" 42 =
        .ok superscriptRetriever ∧
      (superscripts.map Passage.passageId).Nodup ∧
      (superscriptRetriever.goldIds "Q1").Nodup ∧
      (∀ pid ∈ superscriptRetriever.goldIds "Q1", pid ∈ superscripts.map Passage.passageId) ∧
      superscriptRetriever.retrieve (fun _ => 0) "Q1" =
        .error (.valueError "invalid literal for int() with base 10: '²'") ∧
      ¬ ∃ result wanted, superscriptRetriever.retrieve (fun _ => 0) "Q1" = .ok result ∧
        superscriptRetriever.wanted = .ok wanted ∧
        superscriptRetriever.Composed (superscriptRetriever.goldIds "Q1")
          (min (superscriptRetriever.effectiveCount (superscriptRetriever.goldIds "Q1")) wanted)
          result.retrievedPassageIds := by
  have raised : superscriptRetriever.retrieve (fun _ => 0) "Q1" =
      .error (.valueError "invalid literal for int() with base 10: '²'") := by decide +kernel
  refine ⟨by decide +kernel, by decide +kernel, by decide +kernel, by decide +kernel, raised, ?_⟩
  rintro ⟨result, wanted, returned, -⟩
  rw [raised] at returned
  cases returned

end

end RAGRetriever

end IntelliL3
