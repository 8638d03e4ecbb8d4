import IntelliL3.Workloads.RagComposition

/-! # Retrieval in two processes

The hash of a text is another one in each process, and it seeds the generator. Two processes
retrieve the same, whatever the generator, only where there is nothing to draw: all passages
that could be drawn are one.
-/

namespace IntelliL3.RAGRetriever

open Lib

variable {self : RAGRetriever}

/-! ## What can be drawn -/

/-- The gold passages, when some are wanted, and the others, when there is room for them. -/
def candidates (self : RAGRetriever) (gold effective : List String) (nGold : Int) : List String :=
  (if 0 < nGold then effective else []) ++
    if nGold < self.topK then self.allIds.filter (· ∉ gold) else []

section

variable [PyBuiltins] [PyUnicode]

omit [PyBuiltins] [PyUnicode] in
theorem groupByDoc_returned {gold : List String} {byDoc : Dict String (List String)}
    (grouped : self.groupByDoc gold = .ok byDoc) : self.Known gold := by
  rw [groupByDoc] at grouped
  generalize (Dict.empty : Dict String (List String)) = start at grouped
  induction gold generalizing start with
  | nil => exact fun pid member => absurd member List.not_mem_nil
  | cons pid rest ih =>
      rw [List.foldlM_cons] at grouped
      obtain ⟨next, first, later⟩ := bind_eq_ok.mp grouped
      refine List.forall_mem_cons.mpr ⟨?_, ih next later⟩
      obtain ⟨row, found, -⟩ := bind_eq_ok.mp first
      unfold passage at found
      split at found
      · exact ⟨_, ‹_›⟩
      · cases found

theorem applyVersionPreference_subset {gold effective : List String}
    (applied : self.applyVersionPreference gold = .ok effective) :
    ∀ pid ∈ effective, pid ∈ gold := by
  by_cases preference : self.versionPreference = .any
  · rw [applyVersionPreference_any preference] at applied
    cases applied
    exact fun _ member => member
  by_cases none : gold = []
  · subst none
    rw [applyVersionPreference, if_pos (.inr rfl)] at applied
    cases applied
    exact fun _ member => member
  have grouped := applied
  rw [applyVersionPreference, if_neg (not_or.mpr ⟨preference, none⟩)] at grouped
  obtain ⟨byDoc, grouped, -⟩ := bind_eq_ok.mp grouped
  rw [applyVersionPreference_grouped preference (groupByDoc_returned grouped)] at applied
  intro pid member
  obtain ⟨group, listed, kept⟩ := (mem_mapM_iff applied).mp member
  obtain ⟨a, -, rfl⟩ := Dict.mem_values_groupBy.mp listed
  exact (mem_group_iff.mp (keepVersion_returned preference kept).1).1

/-- Nothing is drawn, because the retrieval raises before, or one passage is all there is. -/
def Settled (self : RAGRetriever) (queryId : String) : Prop :=
  ∀ effective wanted, self.applyVersionPreference (self.goldIds queryId) = .ok effective →
    self.wanted = .ok wanted →
    ∃ pid, ∀ candidate ∈ self.candidates (self.goldIds queryId) effective
      (min effective.length wanted), candidate = pid

end

theorem mem_select [PyRandom] {gold effective : List String} {nGold : Int} {rng : PyRandom.Rng}
    (inGold : ∀ pid ∈ effective, pid ∈ gold) {pid : String}
    (drawn : pid ∈ self.select gold effective nGold rng) :
    pid ∈ self.candidates gold effective nGold := by
  obtain ⟨selected, noise, perm, some, someLength, others, othersLength⟩ :=
    self.select_perm gold effective nGold rng inGold
  rw [candidates, List.mem_append]
  rcases List.mem_append.mp (perm.subset drawn) with chosen | extra
  · have wants : 0 < nGold := by
      have := List.length_pos_of_mem chosen
      omega
    rw [if_pos wants]
    exact .inl (some.subset chosen)
  · have room : nGold < self.topK := by
      have := List.length_pos_of_mem extra
      omega
    rw [if_pos room]
    exact .inr (others.subset extra)

theorem length_select [PyRandom] {gold effective : List String} {nGold : Int}
    (rng : PyRandom.Rng) (inGold : ∀ pid ∈ effective, pid ∈ gold) :
    (self.select gold effective nGold rng).length = min nGold.toNat effective.length +
      min (self.topK - nGold).toNat (self.allIds.countP (· ∉ gold)) := by
  obtain ⟨selected, noise, perm, -, someLength, -, othersLength⟩ :=
    self.select_perm gold effective nGold rng inGold
  rw [perm.length_eq, List.length_append, someLength, othersLength]

/-- Where one passage is all there is, the generator does not matter. -/
theorem select_settled [PyRandom] {gold effective : List String} {nGold : Int} {pid : String}
    (inGold : ∀ pid ∈ effective, pid ∈ gold)
    (one : ∀ candidate ∈ self.candidates gold effective nGold, candidate = pid)
    (rng rng' : PyRandom.Rng) :
    self.select gold effective nGold rng = self.select gold effective nGold rng' := by
  have replicated (rng : PyRandom.Rng) : self.select gold effective nGold rng =
      List.replicate (self.select gold effective nGold rng).length pid :=
    List.eq_replicate_iff.mpr ⟨rfl, fun other drawn => one other (mem_select inGold drawn)⟩
  rw [replicated rng, replicated rng', length_select rng inGold, length_select rng' inGold]

/-! ## A generator that brings a passage to the front -/

def front (n i : Nat) : Equiv.Perm (Fin n) :=
  if inside : i < n then Equiv.swap ⟨0, i.zero_le.trans_lt inside⟩ ⟨i, inside⟩ else Equiv.refl _

/-- Each shuffle lets the next place of a list that comes with the seed go first. -/
@[reducible] def bringing (places : Int → List Nat) : PyRandom where
  Rng := List Nat
  seeded := places
  permutation n draws := (front n (draws.headD 0), draws.tail)

theorem head?_shuffle (places : Int → List Nat) {α : Type} {items : List α} {draws : List Nat}
    {a : α} (here : items[draws.headD 0]? = some a) :
    (@shuffle α (bringing places) items draws).1.head? = some a := by
  obtain ⟨inside, found⟩ := List.getElem?_eq_some_iff.mp here
  have nonempty : 0 < items.length := (Nat.zero_le _).trans_lt inside
  have first : front items.length (draws.headD 0) ⟨0, nonempty⟩ = ⟨draws.headD 0, inside⟩ := by
    rw [front, dif_pos inside, Equiv.swap_apply_left]
  change (List.ofFn fun i => items.get (front items.length (draws.headD 0) i)).head? = some a
  rw [List.head?_eq_getElem?, List.getElem?_ofFn, dif_pos nonempty, first, List.get_eq_getElem,
    found]

theorem head?_take_of_pos {α : Type} {items : List α} {a : α} (first : items.head? = some a)
    {n : Nat} (some : 0 < n) : (items.take n).head? = .some a := by
  rw [List.head?_take, if_neg some.ne', first]

/-- A gold passage that is brought to the front stays there. -/
theorem head?_select_gold {gold effective : List String} {nGold : Int} (wants : 0 < nGold)
    {pid : String} (listed : pid ∈ effective) : ∃ draws : List Nat, ∀ places,
      (@select self (bringing places) gold effective nGold draws).head? = some pid := by
  obtain ⟨i, here⟩ := List.mem_iff_getElem?.mp listed
  refine ⟨[i], fun places => ?_⟩
  let generator := bringing places
  have chosen : ((shuffle effective ([i] : List Nat)).1.take nGold.toNat).head? = some pid :=
    head?_take_of_pos (head?_shuffle places here) (by omega)
  have filled (noise : List String) : (shuffle
      ((shuffle effective ([i] : List Nat)).1.take nGold.toNat ++ noise) ([] : List Nat)).1.head? =
      some pid := by
    refine head?_shuffle places ?_
    rw [List.headD_nil, ← List.head?_eq_getElem?, List.head?_append, chosen, Option.some_or]
  unfold select
  dsimp only
  split
  · exact filled _
  · have alone := filled []
    rwa [List.append_nil] at alone

/-- Another passage that is drawn first comes after the gold ones, and is fetched from there. -/
theorem head?_select_noise {gold effective : List String} {nGold : Int}
    (inGold : ∀ pid ∈ effective, pid ∈ gold) (available : nGold ≤ effective.length)
    (room : nGold < self.topK) {pid : String} (listed : pid ∈ self.allIds.filter (· ∉ gold)) :
    ∃ draws : List Nat, ∀ places,
      (@select self (bringing places) gold effective nGold draws).head? = some pid := by
  obtain ⟨j, here⟩ := List.mem_iff_getElem?.mp listed
  refine ⟨[0, j, nGold.toNat], fun places => ?_⟩
  let generator := bringing places
  unfold select
  dsimp only
  rw [if_pos (by omega), distractors_eq inGold]
  have drawn := head?_take_of_pos (n := (self.topK - nGold).toNat)
    (@head?_shuffle places _ _ [j, nGold.toNat] _ here) (by omega)
  refine head?_shuffle places ?_
  have length : ((shuffle effective ([0, j, nGold.toNat] : List Nat)).1.take nGold.toNat).length =
      nGold.toNat := by
    rw [length_take_shuffle]
    omega
  change (_ ++ _)[nGold.toNat]? = some pid
  rw [List.getElem?_append_right length.le, length, Nat.sub_self, ← List.head?_eq_getElem?]
  exact drawn

theorem head?_select {gold effective : List String} {nGold : Int}
    (inGold : ∀ pid ∈ effective, pid ∈ gold) (available : nGold ≤ effective.length) {pid : String}
    (candidate : pid ∈ self.candidates gold effective nGold) : ∃ draws : List Nat, ∀ places,
      (@select self (bringing places) gold effective nGold draws).head? = some pid := by
  rw [candidates, List.mem_append, List.mem_ite_nil_right, List.mem_ite_nil_right] at candidate
  rcases candidate with ⟨wants, listed⟩ | ⟨room, listed⟩
  · exact head?_select_gold wants listed
  · exact head?_select_noise inGold available room listed

/-! ## Two processes -/

theorem querySeed_injective (self : RAGRetriever) (queryId : String) :
    self.querySeed (fun _ => 0) queryId ≠ self.querySeed (fun _ => 1) queryId := by
  intro same
  have lowest := congrArg (Int.testBit · 0) same
  simp only [querySeed, Int.testBit_lxor, Bool.xor_right_inj] at lowest
  exact absurd lowest (by decide)

section

variable [PyBuiltins] [PyUnicode]

theorem retrieve_returned [PyRandom] {hash : String → Int} {queryId : String}
    {effective : List String} {wanted : Int}
    (applied : self.applyVersionPreference (self.goldIds queryId) = .ok effective)
    (computed : self.wanted = .ok wanted) : self.retrieve hash queryId = .ok {
      retrievedPassageIds := self.select (self.goldIds queryId) effective
        (min effective.length wanted) (PyRandom.seeded (self.querySeed hash queryId))
      retrievalTopK := self.topK
      retrievalMode := self.retrievalMode } := by
  rw [retrieve, applied, ok_bind, computed, ok_bind]
  rfl

/-- Two processes retrieve the same, whatever the generator, exactly where nothing is drawn. -/
theorem retrieve_reproducible_iff (self : RAGRetriever) (queryId : String) :
    (∀ [PyRandom] (hash hash' : String → Int),
      self.retrieve hash queryId = self.retrieve hash' queryId) ↔ self.Settled queryId := by
  constructor
  · intro same effective wanted applied computed
    have inGold := applyVersionPreference_subset applied
    by_contra several
    rw [not_exists] at several
    obtain ⟨x, first, -⟩ := not_forall₂.mp (several "")
    obtain ⟨y, second, different⟩ := not_forall₂.mp (several x)
    obtain ⟨dx, toX⟩ := head?_select inGold (min_le_left _ _) first
    obtain ⟨dy, toY⟩ := head?_select inGold (min_le_left _ _) second
    let places (seed : Int) : List Nat :=
      if seed = self.querySeed (fun _ => 0) queryId then dx else dy
    have same := @same (bringing places) (fun _ => 0) (fun _ => 1)
    rw [@retrieve_returned _ _ _ (bringing places) _ _ _ _ applied computed,
      @retrieve_returned _ _ _ (bringing places) _ _ _ _ applied computed, Except.ok.injEq,
      RetrievalResult.mk.injEq] at same
    have here : places (self.querySeed (fun _ => 0) queryId) = dx := if_pos rfl
    have there : places (self.querySeed (fun _ => 1) queryId) = dy :=
      if_neg (self.querySeed_injective queryId).symm
    have heads := congrArg List.head? same.1
    change (@select self (bringing places) _ _ _ (places _)).head? =
      (@select self (bringing places) _ _ _ (places _)).head? at heads
    rw [here, there, toX places, toY places, Option.some.injEq] at heads
    exact different heads.symm
  · intro settled _ hash hash'
    cases applied : self.applyVersionPreference (self.goldIds queryId) with
    | error e => simp only [retrieve, applied, bind, Except.bind]
    | ok effective =>
        cases computed : self.wanted with
        | error e => simp only [retrieve, applied, computed, bind, Except.bind]
        | ok wanted =>
            obtain ⟨pid, one⟩ := settled effective wanted applied computed
            rw [retrieve_returned applied computed, retrieve_returned applied computed,
              select_settled (applyVersionPreference_subset applied) one]

end

section

open Reference

private def pair : List Passage := [
  { passageId := "P1", docId := "D1" },
  { passageId := "P2", docId := "D2" }]

private theorem zero_inUnit : (PyFloat.finite 0).InUnit := by decide +kernel

private def pairRetriever : RAGRetriever where
  topK := 2
  noiseLevel := .finite 0
  versionPreference := .any
  retrievalMode := .baseline
  seed := 42
  passages := .indexBy Passage.passageId pair
  qrels := .set .empty "Q1" ["P1", "P2"]
  allIds := pair.map Passage.passageId
  positive := Int.natCast_succ_pos 1
  inRange := zero_inUnit

/-- The hashes 0 and 1 of one query seed the generator with 42 and 43. -/
theorem retrieve_differs_between_processes :
    new pair (.set .empty "Q1" ["P1", "P2"]) 2 (.finite 0) "any" "baseline" 42 =
        .ok pairRetriever ∧
      (pairRetriever.retrieve (fun _ => 0) "Q1").map RetrievalResult.retrievedPassageIds =
        .ok ["P1", "P2"] ∧
      (pairRetriever.retrieve (fun _ => 1) "Q1").map RetrievalResult.retrievedPassageIds =
        .ok ["P2", "P1"] := by
  refine ⟨by decide +kernel, by decide +kernel, by decide +kernel⟩

end

end IntelliL3.RAGRetriever
