import IntelliL3.Lib.Run
import IntelliL3.Metadata.PrefixTree

/-! # What a search of the prefix tree answers

A history of inserts and removals leaves a map from ids to tokens. Searches answer
what that map says as long as no id is inserted under new tokens while it is in
the tree: an insert marks the new path and leaves the mark on the old one.
-/

namespace IntelliL3

open Lib

inductive PrefixTreeCall where
  | insert (tokenIds : List Int) (objectId : String)
  | remove (objectId : String)

namespace PrefixTree

/-- An insert answers nothing, a removal whether it found the id. -/
def exec : PrefixTreeCall → EStateM PyError PrefixTree (Option Bool)
  | .insert tokenIds objectId => do
      modify fun self => self.insert tokenIds objectId
      return none
  | .remove objectId => do
      return some (← modifyGet fun self => ((self.remove objectId).2, (self.remove objectId).1))

/-- The ids in the tree, with the tokens of their latest insert, once a call was made. -/
def after (tokens : String → Option (List Int)) : PrefixTreeCall → String → Option (List Int)
  | .insert tokenIds objectId => Function.update tokens objectId (some tokenIds)
  | .remove objectId => Function.update tokens objectId none

/-- The same after a history. -/
def contents (calls : List PrefixTreeCall) : String → Option (List Int) :=
  calls.foldl after fun _ => none

/-- A search answers the ids whose tokens start the query, each once and with the number of
    its tokens, from the shortest to the longest; the longest match is one of the longest. -/
structure SearchExact (tree : PrefixTree) (tokens : String → Option (List Int)) : Prop where
  contains : ∀ id, tree.objectToTokens.contains id = (tokens id).isSome
  ordered : ∀ order query, (tree.search order query).Pairwise
    fun a b => a.matchedLength ≤ b.matchedLength
  once : ∀ order query, ((tree.search order query).map PrefixMatch.objectId).Nodup
  found : ∀ order query m, m ∈ tree.search order query ↔
    ∃ path, tokens m.objectId = some path ∧ path <+: query ∧ m.matchedLength = path.length
  longest : ∀ order order' query,
    (tree.longestMatch order query = none ↔ tree.search order' query = []) ∧
    ∀ m, tree.longestMatch order query = some m → m ∈ tree.search order' query ∧
      ∀ other ∈ tree.search order' query, other.matchedLength ≤ m.matchedLength

/-- An insert of an id that is not there, or under the tokens it has. -/
def Settled (tokens : String → Option (List Int)) : PrefixTreeCall → Prop
  | .insert tokenIds objectId => ∀ path, tokens objectId = some path → path = tokenIds
  | .remove _ => True

/-- The tokens an insert gives are some. -/
def SomeTokens : PrefixTreeCall → Prop
  | .insert tokenIds _ => tokenIds ≠ []
  | .remove _ => True

variable {tree : PrefixTree} {tokens : String → Option (List Int)}

theorem Mirrors.searchExact (mirrors : Mirrors tree tokens) : SearchExact tree tokens where
  contains id := by
    rw [Dict.contains, mirrors.tracked]
  ordered order query := searchFrom_ordered order 0 query tree.root
  once := mirrors.search_nodup
  found := mirrors.mem_search
  longest order order' query := by
    have reported : ∀ m, m ∈ tree.search order query ↔ m ∈ tree.search order' query :=
      fun m => (mirrors.mem_search order query m).trans (mirrors.mem_search order' query m).symm
    have spec := tree.longestMatch_spec order query
    cases last : tree.longestMatch order query with
    | none =>
        rw [last] at spec
        refine ⟨⟨fun _ => ?_, fun _ => rfl⟩, fun m found => by cases found⟩
        refine List.eq_nil_iff_forall_not_mem.mpr fun m member => ?_
        have member' := (reported m).mpr member
        rw [spec] at member'
        cases member'
    | some longest =>
        rw [last] at spec
        obtain ⟨member, maximal⟩ := spec
        have member' := (reported longest).mp member
        refine ⟨⟨fun absent => (by cases absent), fun nothing => ?_⟩, fun m same => ?_⟩
        · rw [nothing] at member'
          cases member'
        · cases same
          exact ⟨member', fun other listed => maximal other ((reported other).mpr listed)⟩

/-! ## One call -/

/-- The tree tracks the ids whatever its nodes say. -/
theorem get?_exec (c : PrefixTreeCall) (tree : PrefixTree) :
    (EStateResult.state (exec c tree)).objectToTokens.get? =
      after tree.objectToTokens.get? c := by
  funext other
  cases c with
  | insert tokenIds objectId =>
      change (tree.objectToTokens.set objectId tokenIds).get? other = _
      rw [Dict.get?_set, after, Function.update_apply]
      exact if_congr eq_comm rfl rfl
  | remove objectId =>
      change (tree.remove objectId).1.objectToTokens.get? other = _
      rw [after, Function.update_apply, remove]
      cases held : tree.objectToTokens.get? objectId with
      | none =>
          simp only
          by_cases same : other = objectId
          · rw [if_pos same, same, held]
          · rw [if_neg same]
      | some path =>
          have popped : (tree.objectToTokens.erase objectId).get? other =
              if other = objectId then none else tree.objectToTokens.get? other := by
            rw [Dict.get?_erase]
            exact if_congr eq_comm rfl rfl
          simp only
          cases tree.root.removeAt objectId path <;> exact popped

theorem get?_drive (calls : List PrefixTreeCall) (tree : PrefixTree) :
    (drive exec tree calls).objectToTokens.get? = calls.foldl after tree.objectToTokens.get? := by
  induction calls generalizing tree with
  | nil => rfl
  | cons c rest ih =>
      rw [List.foldl_cons, ← get?_exec]
      exact ih _

theorem Mirrors.exec (mirrors : Mirrors tree tokens) {c : PrefixTreeCall}
    (someTokens : SomeTokens c) (settled : Settled tokens c) :
    Mirrors (EStateResult.state (PrefixTree.exec c tree)) (after tokens c) := by
  cases c with
  | insert tokenIds objectId =>
      refine mirrors.insert someTokens ?_
      cases held : tokens objectId with
      | none => exact Or.inl rfl
      | some path => exact Or.inr (congrArg some (settled path held))
  | remove objectId => exact mirrors.remove objectId

/-- An id inserted under other tokens is still found under the old ones. -/
theorem Mirrors.stale (mirrors : Mirrors tree tokens) {c : PrefixTreeCall}
    (unsettled : ¬ Settled tokens c) :
    ¬ SearchExact (EStateResult.state (PrefixTree.exec c tree)) (after tokens c) := by
  cases c with
  | remove objectId => exact absurd trivial unsettled
  | insert tokenIds objectId =>
      simp only [Settled, not_forall] at unsettled
      obtain ⟨path, held, differ⟩ := unsettled
      intro searches
      have marked : objectId ∈ (tree.insert tokenIds objectId).root.marksAt path := by
        rw [PrefixTree.insert, Trie.marksAt_insert, if_neg differ]
        exact (mirrors.marked objectId path).mpr held
      have reported := ((tree.insert tokenIds objectId).mem_search ⟨id, fun _ => List.Perm.refl _⟩
        path ⟨objectId, path.length⟩).mpr
          ⟨path, mirrors.nonempty objectId path held, List.prefix_rfl, marked, rfl⟩
      obtain ⟨tokens', latest, start, length⟩ := (searches.found _ _ _).mp reported
      rw [after, Function.update_self, Option.some.injEq] at latest
      subst latest
      exact differ (start.eq_of_length length.symm).symm

end PrefixTree

open PrefixTree in
/-- Searches are exact after every part of a history exactly when no call of it inserts an
    id under new tokens while the id is in the tree. -/
theorem prefix_search_exact_iff {calls : List PrefixTreeCall}
    (someTokens : ∀ c ∈ calls, SomeTokens c) :
    (∀ pre post, calls = pre ++ post →
        SearchExact (drive PrefixTree.exec .empty pre) (contents pre)) ↔
      ∀ pre c post, calls = pre ++ c :: post → Settled (contents pre) c := by
  have tracked : ∀ pre, (drive PrefixTree.exec .empty pre).objectToTokens.get? = contents pre :=
    fun pre => get?_drive pre .empty
  simp only [← tracked]
  refine @drive_all_reached_iff _ _ _ _ PrefixTree.exec
    (fun tree rest => Mirrors tree tree.objectToTokens.get? ∧ ∀ c ∈ rest, SomeTokens c)
    (fun tree => SearchExact tree tree.objectToTokens.get?)
    (fun tree c => Settled tree.objectToTokens.get? c)
    (fun tree _ inv => inv.1.searchExact) ?_ ?_ _ _ ⟨Mirrors.empty, someTokens⟩
  · intro tree c rest ⟨mirrors, given⟩ settled
    refine ⟨?_, fun c later => given c (List.mem_cons_of_mem _ later)⟩
    rw [get?_exec]
    exact mirrors.exec (given c List.mem_cons_self) settled
  · intro tree c rest ⟨mirrors, _⟩ unsettled
    rw [get?_exec]
    exact mirrors.stale unsettled

section

private def movedCalls : List PrefixTreeCall := [.insert [1, 2] "a", .remove "a", .insert [2] "a"]

private def reinsertedCalls : List PrefixTreeCall := [.insert [1, 2] "a", .insert [2] "a"]

/-- An id that is removed first may come back under other tokens. -/
theorem prefix_search_exact_moved :
    (∀ c ∈ movedCalls, PrefixTree.SomeTokens c) ∧ ∀ pre post, movedCalls = pre ++ post →
      PrefixTree.SearchExact (drive PrefixTree.exec .empty pre) (PrefixTree.contents pre) := by
  have someTokens : ∀ c ∈ movedCalls, PrefixTree.SomeTokens c := by
    intro c member
    simp only [movedCalls, List.mem_cons, List.not_mem_nil, or_false] at member
    rcases member with rfl | rfl | rfl
    · exact List.cons_ne_nil _ _
    · trivial
    · exact List.cons_ne_nil _ _
  refine ⟨someTokens, (prefix_search_exact_iff someTokens).mpr fun pre c post split => ?_⟩
  have unheld : ∀ path, PrefixTree.contents (movedCalls.take 2) "a" ≠ some path := by
    intro path
    exact Option.some_ne_none path |>.symm
  rcases pre with _ | ⟨first, _ | ⟨second, _ | ⟨third, rest⟩⟩⟩
  · cases split
    exact fun path held => by cases held
  · cases split
    trivial
  · cases split
    exact fun path held => absurd held (unheld path)
  · have length := congrArg List.length split
    simp [movedCalls] at length

/-- An id inserted again under other tokens is found under the old ones. -/
theorem reinserted_id_found_under_old_tokens :
    ¬ ∀ calls : List PrefixTreeCall, (∀ c ∈ calls, PrefixTree.SomeTokens c) →
      PrefixTree.SearchExact (drive PrefixTree.exec .empty calls) (PrefixTree.contents calls) := by
  intro always
  have given : ∀ c ∈ reinsertedCalls, PrefixTree.SomeTokens c := by
    intro c member
    simp only [reinsertedCalls, List.mem_cons, List.not_mem_nil, or_false] at member
    rcases member with rfl | rfl <;> exact List.cons_ne_nil _ _
  obtain ⟨path, latest, -, length⟩ := ((always reinsertedCalls given).found
    ⟨id, fun _ => List.Perm.refl _⟩ [1, 2] ⟨"a", 2⟩).mp (by decide)
  have held : PrefixTree.contents reinsertedCalls "a" = some [2] := rfl
  cases held.symm.trans latest
  cases length

end

end IntelliL3
