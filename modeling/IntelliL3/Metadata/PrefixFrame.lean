import IntelliL3.Metadata.PrefixSearch

/-! # What a search answers for the other ids

An insert marks one path and a removal unmarks one, so what is found for another id stays as
it was, whatever the tree has become and whatever nodes are pruned.
-/

namespace IntelliL3

open Lib

namespace PrefixTree

/-- What a search found for one id. -/
def matchesFor (objectId : String) (found : List PrefixMatch) : List PrefixMatch :=
  found.filter fun m => m.objectId = objectId

/-- No node lists an id twice. -/
def MarkedOnce (tree : PrefixTree) : Prop := ∀ path, (tree.root.marksAt path).Nodup

theorem matchesFor_append (objectId : String) (found more : List PrefixMatch) :
    matchesFor objectId (found ++ more) =
      matchesFor objectId found ++ matchesFor objectId more :=
  List.filter_append _ _

theorem matchesFor_visited {ids : List String} (once : ids.Nodup) (order : SetOrder)
    (objectId : String) (depth : Nat) :
    matchesFor objectId ((order.visit ids).map fun id => ⟨id, depth⟩) =
      if objectId ∈ ids then [⟨objectId, depth⟩] else [] := by
  rw [matchesFor, List.filter_map]
  change ((order.visit ids).filter fun id => id = objectId).map _ = _
  rw [List.filter_eq, (order.perm ids).count_eq, once.count]
  split <;> rfl

/-- What is found for an id depends on the nodes along the query that hold it, and on nothing
    else. -/
theorem matchesFor_searchFrom (order : SetOrder) (objectId : String) (depth : Nat)
    (query : List Int) {node : Trie Int String} (once : ∀ path, (node.marksAt path).Nodup) :
    matchesFor objectId (searchFrom order depth query node) =
      ((List.range query.length).filter fun k =>
          objectId ∈ node.marksAt (query.take (k + 1))).map
        fun k => ⟨objectId, depth + k + 1⟩ := by
  induction query generalizing depth node with
  | nil => rfl
  | cons token rest ih =>
      rw [List.length_cons, List.range_succ_eq_map, List.filter_cons, List.filter_map]
      simp only [searchFrom, List.take_succ_cons, Trie.marksAt_cons]
      cases step : node.child? token with
      | none => simp [matchesFor]
      | some child =>
          have below : ∀ path, (child.marksAt path).Nodup := fun path => by
            have deeper := once (token :: path)
            rwa [Trie.marksAt_cons, step] at deeper
          have marks : child.marks = child.marksAt [] := rfl
          have shifted : ∀ ks : List Nat,
              ks.map (fun k => (⟨objectId, depth + 1 + k + 1⟩ : PrefixMatch)) =
                (ks.map Nat.succ).map fun k => ⟨objectId, depth + k + 1⟩ := by
            intro ks
            rw [List.map_map]
            refine List.map_congr_left fun k _ => ?_
            rw [Function.comp_apply, Nat.succ_eq_add_one, Nat.add_assoc depth 1,
              Nat.add_comm 1 k]
          rw [matchesFor_append, marks, matchesFor_visited (below []), ih (depth + 1) below,
            shifted]
          by_cases held : objectId ∈ child.marksAt []
          · simp only [List.take_zero, held, decide_true, if_true]
            rfl
          · simp only [List.take_zero, held, decide_false, Bool.false_eq_true, if_false]
            rfl

/-- Trees that hold an id at the same places give the same matches for it. -/
theorem matchesFor_search_congr {tree tree' : PrefixTree} (once : tree.MarkedOnce)
    (once' : tree'.MarkedOnce) {objectId : String}
    (same : ∀ path, objectId ∈ tree.root.marksAt path ↔ objectId ∈ tree'.root.marksAt path)
    (order order' : SetOrder) (query : List Int) :
    matchesFor objectId (tree.search order query) =
      matchesFor objectId (tree'.search order' query) := by
  rw [search, search, matchesFor_searchFrom order objectId 0 query once,
    matchesFor_searchFrom order' objectId 0 query once']
  refine congrArg _ (List.filter_congr fun k _ => ?_)
  exact decide_eq_decide.mpr (same _)

/-! ## One call -/

theorem MarkedOnce.insert {tree : PrefixTree} (once : tree.MarkedOnce) (tokenIds : List Int)
    (objectId : String) : (tree.insert tokenIds objectId).MarkedOnce := by
  intro path
  rw [PrefixTree.insert, Trie.marksAt_insert]
  split
  · exact (once tokenIds).insert
  · exact once path

/-- An insert leaves the other ids where they are. -/
theorem mem_marksAt_insert (tree : PrefixTree) (tokenIds : List Int) {objectId other : String}
    (apart : other ≠ objectId) (path : List Int) :
    other ∈ (tree.insert tokenIds objectId).root.marksAt path ↔
      other ∈ tree.root.marksAt path := by
  rw [PrefixTree.insert, Trie.marksAt_insert]
  split
  · next here => rw [List.mem_insert_iff, here]; simp only [apart, false_or]
  · rfl

/-- What a removal leaves at a path: all of it, but for the id. -/
theorem marksAt_remove (tree : PrefixTree) (objectId : String) (path : List Int) :
    (tree.remove objectId).1.root.marksAt path = tree.root.marksAt path ∨
      (tree.remove objectId).1.root.marksAt path =
        (tree.root.marksAt path).filter (· ≠ objectId) := by
  rw [remove]
  cases tree.objectToTokens.get? objectId with
  | none => exact Or.inl rfl
  | some tokenIds =>
      cases removed : tree.root.removeAt objectId tokenIds with
      | none => simp only [removed, true_or]
      | some result =>
          obtain ⟨root, pruning⟩ := result
          simp only [removed]
          rw [Trie.marksAt_removeAt removed]
          split
          · next here => exact Or.inr (by rw [here])
          · exact Or.inl rfl

theorem MarkedOnce.remove {tree : PrefixTree} (once : tree.MarkedOnce) (objectId : String) :
    (tree.remove objectId).1.MarkedOnce := by
  intro path
  rcases tree.marksAt_remove objectId path with same | filtered
  · rw [same]
    exact once path
  · rw [filtered]
    exact (once path).filter _

/-- A removal leaves the other ids where they are. -/
theorem mem_marksAt_remove (tree : PrefixTree) {objectId other : String}
    (apart : other ≠ objectId) (path : List Int) :
    other ∈ (tree.remove objectId).1.root.marksAt path ↔ other ∈ tree.root.marksAt path := by
  rcases tree.marksAt_remove objectId path with same | filtered
  · rw [same]
  · rw [filtered, List.mem_filter]
    simp only [decide_eq_true_eq, apart, ne_eq, not_false_eq_true, and_true]

/-- No history lists an id twice in a node, re-inserts under other tokens included. -/
theorem markedOnce_drive (calls : List PrefixTreeCall) :
    (drive PrefixTree.exec .empty calls).MarkedOnce := by
  refine @drive_invariant _ _ _ _ PrefixTree.exec MarkedOnce calls ?_ _ ?_
  · intro tree c _ once
    cases c with
    | insert tokenIds objectId => exact once.insert tokenIds objectId
    | remove objectId => exact once.remove objectId
  · intro path
    rw [PrefixTree.empty, Trie.marksAt_empty]
    exact List.nodup_nil

end PrefixTree

open PrefixTree in
/-- After every history, an insert or a removal of one id leaves what a search finds for
    another one as it was. -/
theorem prefix_search_frame (calls : List PrefixTreeCall) {x y : String} (apart : y ≠ x)
    (tokenIds query : List Int) (before after : SetOrder) :
    let tree := drive PrefixTree.exec .empty calls
    matchesFor y ((tree.insert tokenIds x).search after query) =
        matchesFor y (tree.search before query) ∧
      matchesFor y ((tree.remove x).1.search after query) =
        matchesFor y (tree.search before query) := by
  intro tree
  have once : tree.MarkedOnce := markedOnce_drive calls
  exact ⟨matchesFor_search_congr (once.insert tokenIds x) once
      (tree.mem_marksAt_insert tokenIds apart) after before query,
    matchesFor_search_congr (once.remove x) once (tree.mem_marksAt_remove apart) after before
      query⟩

section

private def sharedStart : List PrefixTreeCall :=
  [.insert [1, 2] "a", .insert [1, 3] "b", .insert [1] "a"]

private def listed : SetOrder := ⟨id, fun _ => List.Perm.refl _⟩

/-- The removal of an id that was moved leaves the node it shared with another id. -/
theorem prefix_search_frame_shared :
    PrefixTree.matchesFor "b" (((drive PrefixTree.exec .empty sharedStart).remove "a").1.search
      listed [1, 3]) = [⟨"b", 2⟩] := by
  have unmoved := prefix_search_frame sharedStart (show "b" ≠ "a" by decide) [] [1, 3]
    listed listed
  have found : PrefixTree.matchesFor "b" ((drive PrefixTree.exec .empty sharedStart).search
      listed [1, 3]) = [⟨"b", 2⟩] := by decide +kernel
  exact unmoved.2.trans found

end

end IntelliL3
