import Mathlib.Algebra.Order.Field.Rat
import Mathlib.Data.Set.Card
import Mathlib.Order.Bounds.Defs
import IntelliL3.Lib.Run
import IntelliL3.Policies.SessionPrefetch

/-! # Sessions

What is predicted for a session is read from its last requests alone, whatever the other
sessions do in between: the blocks matched by one of them, the best first.
-/

namespace IntelliL3

open Lib

namespace SessionPrefetchPolicy

/-- The tokens of the requests of a session, in the order they completed, the empty ones
    left out. -/
def tokensOf (calls : List CompletedRequest) (sessionId : String) : List (List Int) :=
  (calls.filter fun c => c.sessionId = sessionId && c.tokenIds ≠ []).map
    CompletedRequest.tokenIds

/-- Decisions for the blocks matched for some of the token lists, the longest match of each,
    and of the longest matches as many as asked for. -/
structure PredictsFrom (matches_ : List Int → List PrefixMatch) (tokenLists : List (List Int))
    (topK : Nat) (decisions : List PrefetchDecision) : Prop where
  kind : ∀ decision ∈ decisions, decision.prefetchType = "kv_cache"
  distinct : (decisions.map PrefetchDecision.objectId).Nodup
  descending : decisions.Pairwise fun a b => b.priority ≤ a.priority
  count : decisions.length = min topK (Set.ncard { objectId : String |
    ∃ tokenIds ∈ tokenLists, ∃ found ∈ matches_ tokenIds, found.objectId = objectId })
  longest : ∀ decision ∈ decisions, IsGreatest { priority : Rat | ∃ tokenIds ∈ tokenLists,
    ∃ found ∈ matches_ tokenIds, found.objectId = decision.objectId ∧
      priority = found.matchedLength } decision.priority
  omitted : ∀ tokenIds ∈ tokenLists, ∀ found ∈ matches_ tokenIds,
    found.objectId ∉ decisions.map PrefetchDecision.objectId →
      ∀ decision ∈ decisions, (found.matchedLength : Rat) ≤ decision.priority

/-! ## Histories -/

/-- A request changes the history of its session, if it has tokens. -/
theorem get?_onRequestCompleted (s : SessionPrefetchPolicy) (c : CompletedRequest)
    (sessionId : String) :
    (s.onRequestCompleted c.sessionId c.tokenIds).sessionHistories.get? sessionId =
      if c.sessionId = sessionId ∧ c.tokenIds ≠ [] then
        some (appendRecent s.historySize ((s.sessionHistories.get? sessionId).getD []) c.tokenIds)
      else s.sessionHistories.get? sessionId := by
  unfold onRequestCompleted
  by_cases empty : c.tokenIds = []
  · rw [if_pos empty, if_neg fun new => new.2 empty]
  · rw [if_neg empty, Dict.get?_set]
    by_cases same : c.sessionId = sessionId
    · rw [if_pos same, if_pos ⟨same, empty⟩, same]
    · rw [if_neg same, if_neg fun new => same new.1]

theorem historySize_completed (s : SessionPrefetchPolicy) (calls : List CompletedRequest) :
    (s.completed calls).historySize = s.historySize ∧ (s.completed calls).topK = s.topK := by
  induction calls generalizing s with
  | nil => exact ⟨rfl, rfl⟩
  | cons c rest ih =>
      have same : (s.onRequestCompleted c.sessionId c.tokenIds).historySize = s.historySize ∧
          (s.onRequestCompleted c.sessionId c.tokenIds).topK = s.topK := by
        unfold onRequestCompleted
        split <;> exact ⟨rfl, rfl⟩
      exact ⟨(ih _).1.trans same.1, (ih _).2.trans same.2⟩

/-- The history of a session are the last of its own requests. -/
theorem get?_completed {s : SessionPrefetchPolicy} (fresh : s.sessionHistories = .empty)
    (calls : List CompletedRequest) (sessionId : String) :
    (s.completed calls).sessionHistories.get? sessionId =
      if tokensOf calls sessionId = [] then none
      else some ((tokensOf calls sessionId).rtake s.historySize) := by
  induction calls using List.reverseRecOn with
  | nil =>
      change s.sessionHistories.get? sessionId = none
      rw [fresh]
      rfl
  | append_singleton calls c ih =>
      have last : s.completed (calls ++ [c]) =
          (s.completed calls).onRequestCompleted c.sessionId c.tokenIds := by
        rw [completed, List.foldl_append]
        rfl
      have tokens : tokensOf (calls ++ [c]) sessionId = tokensOf calls sessionId ++
          if c.sessionId = sessionId ∧ c.tokenIds ≠ [] then [c.tokenIds] else [] := by
        rw [tokensOf, List.filter_append, List.map_append, tokensOf]
        congr 1
        by_cases new : c.sessionId = sessionId ∧ c.tokenIds ≠ []
        · rw [if_pos new, List.filter_cons_of_pos (by simpa using new)]
          rfl
        · rw [if_neg new, List.filter_cons_of_neg (by simpa using new)]
          rfl
      rw [last, get?_onRequestCompleted, ih, (historySize_completed s calls).1, tokens]
      by_cases new : c.sessionId = sessionId ∧ c.tokenIds ≠ []
      · rw [if_pos new, if_pos new, if_neg (List.append_ne_nil_of_right_ne_nil _ (by simp))]
        split
        · next none => rw [none]; rfl
        · rw [Option.getD_some, appendRecent_rtake]
      · rw [if_neg new, if_neg new, List.append_nil]

/-! ## Predictions -/

/-- The decisions the loops meet for these token lists. -/
def offeredFor (matches_ : List Int → List PrefixMatch) (tokenLists : List (List Int)) :
    List PrefetchDecision :=
  tokenLists.flatMap fun tokenIds => (matches_ tokenIds).map decisionFor

theorem mem_offeredFor {matches_ : List Int → List PrefixMatch} {tokenLists : List (List Int)}
    {decision : PrefetchDecision} : decision ∈ offeredFor matches_ tokenLists ↔
      ∃ tokenIds ∈ tokenLists, ∃ found ∈ matches_ tokenIds, decisionFor found = decision := by
  simp only [offeredFor, List.mem_flatMap, List.mem_map]

theorem predictsFrom_of_bestOf {matches_ : List Int → List PrefixMatch}
    {tokenLists : List (List Int)} {topK : Nat} {decisions : List PrefetchDecision}
    (best : BestOf PrefetchDecision.objectId PrefetchDecision.priority topK
      (offeredFor matches_ tokenLists) decisions) :
    PredictsFrom matches_ tokenLists topK decisions where
  kind decision member := by
    obtain ⟨tokenIds, listed, found, matched, rfl⟩ :=
      mem_offeredFor.mp (best.among decision member)
    rfl
  distinct := best.distinct
  descending := best.descending
  count := by
    rw [best.count, ← List.card_toFinset, ← Set.ncard_coe_finset]
    congr 2
    ext objectId
    simp only [List.coe_toFinset, List.mem_map, mem_offeredFor, Set.mem_ofPred_eq]
    constructor
    · rintro ⟨_, ⟨tokenIds, listed, found, matched, rfl⟩, rfl⟩
      exact ⟨tokenIds, listed, found, matched, rfl⟩
    · rintro ⟨tokenIds, listed, found, matched, rfl⟩
      exact ⟨_, ⟨tokenIds, listed, found, matched, rfl⟩, rfl⟩
  longest decision member := by
    obtain ⟨tokenIds, listed, found, matched, rfl⟩ :=
      mem_offeredFor.mp (best.among decision member)
    refine ⟨⟨tokenIds, listed, found, matched, rfl, rfl⟩, ?_⟩
    rintro _ ⟨otherIds, listed', other, matched', same, rfl⟩
    exact best.highest _ member (decisionFor other)
      (mem_offeredFor.mpr ⟨otherIds, listed', other, matched', rfl⟩) same
  omitted tokenIds listed found matched missing decision member :=
    best.others (decisionFor found) (mem_offeredFor.mpr ⟨tokenIds, listed, found, matched, rfl⟩)
      missing decision member

theorem predictsFrom_reverse {matches_ : List Int → List PrefixMatch}
    {tokenLists : List (List Int)} {topK : Nat} {decisions : List PrefetchDecision}
    (predicts : PredictsFrom matches_ tokenLists.reverse topK decisions) :
    PredictsFrom matches_ tokenLists topK decisions := by
  obtain ⟨kind, distinct, descending, count, longest, omitted⟩ := predicts
  simp only [List.mem_reverse] at count longest omitted
  exact ⟨kind, distinct, descending, count, longest, omitted⟩

/-- The two loops are one loop over all the decisions they meet. -/
theorem foldl_offered (matches_ : List Int → List PrefixMatch) (tokenLists : List (List Int)) :
    tokenLists.foldl (fun decisionsById tokenIds =>
        (matches_ tokenIds).foldl (fun decisionsById found =>
          keepBest PrefetchDecision.objectId PrefetchDecision.priority decisionsById
            (decisionFor found)) decisionsById) .empty =
      bestByKey PrefetchDecision.objectId PrefetchDecision.priority
        (offeredFor matches_ tokenLists) := by
  rw [bestByKey, offeredFor, List.foldl_flatMap]
  simp only [List.foldl_map]

/-- A session without a history gets what an empty history gets. -/
theorem predictPrefetch_eq {η : Type} (s : SessionPrefetchPolicy) (request : RequestContext)
    (metadata : MetadataStore η) (order : SetOrder) :
    s.predictPrefetch request metadata order =
      firstDecisions (bestByKey PrefetchDecision.objectId PrefetchDecision.priority
        (offeredFor (metadata.findPrefixMatches order)
          ((s.sessionHistories.get? request.sessionId).getD []).reverse)) s.topK := by
  unfold predictPrefetch
  split
  · next unknown =>
      rw [unknown]
      exact List.take_nil.symm
  · next cleared =>
      rw [cleared]
      exact List.take_nil.symm
  · next found =>
      rw [found, foldl_offered]
      rfl

/-- The tokens of a session are those of its own requests. -/
theorem tokensOf_congr {calls calls' : List CompletedRequest} {sessionId : String}
    (same : calls'.filter (fun c => c.sessionId = sessionId) =
      calls.filter fun c => c.sessionId = sessionId) :
    tokensOf calls' sessionId = tokensOf calls sessionId := by
  have own : ∀ calls : List CompletedRequest, tokensOf calls sessionId =
      ((calls.filter fun c => c.sessionId = sessionId).filter fun c => c.tokenIds ≠ []).map
        CompletedRequest.tokenIds := by
    intro calls
    rw [tokensOf, List.filter_filter]
    simp only [Bool.and_comm]
  rw [own, own, same]

/-- A new policy has seen no request. -/
theorem new_fresh {sessionHistorySize topK : Int} {fresh : SessionPrefetchPolicy}
    (built : new sessionHistorySize topK = .ok fresh) :
    fresh.sessionHistories = .empty ∧ fresh.historySize = sessionHistorySize.toNat ∧
      fresh.topK = topK.toNat := by
  iterate 2 obtain ⟨_, built⟩ := check_passed built
  cases built
  exact ⟨rfl, rfl, rfl⟩

/-- A policy remembers the last requests of the session it is asked about. -/
theorem predictPrefetch_completed {η : Type} {sessionHistorySize topK : Int}
    {fresh : SessionPrefetchPolicy} (built : new sessionHistorySize topK = .ok fresh)
    (calls : List CompletedRequest) (request : RequestContext) (metadata : MetadataStore η)
    (order : SetOrder) :
    (fresh.completed calls).predictPrefetch request metadata order =
      firstDecisions (bestByKey PrefetchDecision.objectId PrefetchDecision.priority
        (offeredFor (metadata.findPrefixMatches order)
          ((tokensOf calls request.sessionId).rtake sessionHistorySize.toNat).reverse))
        topK.toNat := by
  obtain ⟨empty, historySize, limit⟩ := new_fresh built
  have remembered : ((fresh.completed calls).sessionHistories.get? request.sessionId).getD [] =
      (tokensOf calls request.sessionId).rtake sessionHistorySize.toNat := by
    rw [get?_completed empty, historySize]
    split
    · next none =>
        rw [none, List.rtake_nil]
        rfl
    · rfl
  rw [predictPrefetch_eq, remembered, (historySize_completed fresh calls).2, limit]

/-- After every sequence of requests a prediction for a session is made from the last of its
    own, and stays the same whatever other sessions complete. -/
theorem predict_prefetch_per_session {sessionHistorySize topK : Int}
    {fresh : SessionPrefetchPolicy} (built : new sessionHistorySize topK = .ok fresh)
    {η : Type} (metadata : MetadataStore η) (order : SetOrder) (calls : List CompletedRequest)
    (request : RequestContext) :
    PredictsFrom (metadata.findPrefixMatches order)
        ((tokensOf calls request.sessionId).rtake sessionHistorySize.toNat) topK.toNat
        ((fresh.completed calls).predictPrefetch request metadata order) ∧
      ∀ calls' : List CompletedRequest,
        calls'.filter (fun c => c.sessionId = request.sessionId) =
            calls.filter (fun c => c.sessionId = request.sessionId) →
          (fresh.completed calls').predictPrefetch request metadata order =
            (fresh.completed calls).predictPrefetch request metadata order := by
  constructor
  · rw [predictPrefetch_completed built]
    exact predictsFrom_reverse (predictsFrom_of_bestOf (bestOf_take _ _ _ _))
  · intro calls' same
    rw [predictPrefetch_completed built, predictPrefetch_completed built, tokensOf_congr same]

section

/-- One block for one token, one for two tokens. -/
private def twoBlocks : MetadataStore Unit where
  bloom := .blank ⟨128, by decide⟩ ⟨2, by decide⟩
  prefixTree := (PrefixTree.empty.insert [1] "short").insert [1, 2] "long"
  expectedItems := 100
  hnsw := none

private def twoTurns : List CompletedRequest :=
  [⟨"first", [1]⟩, ⟨"first", [1, 2]⟩, ⟨"first", []⟩, ⟨"first", [1, 2, 3]⟩]

/-- What another session completes between the turns. -/
private def otherTurns : List CompletedRequest :=
  [⟨"second", [1]⟩, ⟨"first", [1]⟩, ⟨"first", [1, 2]⟩, ⟨"second", [1, 2]⟩, ⟨"first", []⟩,
    ⟨"first", [1, 2, 3]⟩, ⟨"second", [7]⟩]

theorem predict_prefetch_per_session_two :
    ∃ fresh, new 2 1 = .ok fresh ∧
      PredictsFrom (twoBlocks.findPrefixMatches ⟨id, fun _ => .refl _⟩) [[1, 2], [1, 2, 3]] 1
        ((fresh.completed twoTurns).predictPrefetch ⟨"", "first", "", none⟩ twoBlocks
          ⟨id, fun _ => .refl _⟩) ∧
      (fresh.completed otherTurns).predictPrefetch ⟨"", "first", "", none⟩ twoBlocks
          ⟨id, fun _ => .refl _⟩ =
        (fresh.completed twoTurns).predictPrefetch ⟨"", "first", "", none⟩ twoBlocks
          ⟨id, fun _ => .refl _⟩ := by
  have isolated := predict_prefetch_per_session
    (show new 2 1 = .ok ⟨2, 1, .empty, Nat.two_pos, Nat.one_pos⟩ from rfl)
    twoBlocks ⟨id, fun _ => .refl _⟩ twoTurns ⟨"", "first", "", none⟩
  exact ⟨_, rfl, isolated.1, isolated.2 otherTurns rfl⟩

end

end SessionPrefetchPolicy

end IntelliL3
