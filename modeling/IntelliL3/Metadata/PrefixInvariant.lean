import IntelliL3.Metadata.PrefixFrame

/-! # What holds of every prefix tree

The tokens an id was inserted under last lead to a node that holds it, and no node below the
root is dead. So a removal finds what it looks for, and undoes an insert of a new id.
-/

namespace IntelliL3

open Lib

namespace PrefixTree

structure Sound (tree : PrefixTree) : Prop where
  held : ∀ objectId path, tree.objectToTokens.get? objectId = some path →
    objectId ∈ tree.root.marksAt path
  alive : tree.root.NoDeadBranches

namespace Sound

variable {tree : PrefixTree}

theorem empty : Sound PrefixTree.empty where
  held _ _ held := by cases held
  alive := Trie.noDeadBranches_empty

theorem insert (sound : Sound tree) (tokenIds : List Int) (objectId : String) :
    Sound (tree.insert tokenIds objectId) where
  held other path latest := by
    change (tree.objectToTokens.set objectId tokenIds).get? other = some path at latest
    rw [Dict.get?_set] at latest
    split at latest
    · next same =>
        cases latest
        subst same
        rw [PrefixTree.insert, Trie.marksAt_insert, if_pos rfl]
        exact List.mem_insert_self
    · next apart =>
        exact (tree.mem_marksAt_insert tokenIds (Ne.symm apart) path).mpr
          (sound.held other path latest)
  alive := sound.alive.insert objectId tokenIds

/-- The walk of a removal ends in a node. -/
theorem removeAt (sound : Sound tree) {objectId : String} {path : List Int}
    (latest : tree.objectToTokens.get? objectId = some path) :
    ∃ root pruning, tree.root.removeAt objectId path = some (root, pruning) := by
  obtain ⟨stop, reached⟩ := Trie.nodeAt_of_mem_marksAt (sound.held objectId path latest)
  obtain ⟨⟨root, pruning⟩, removed⟩ := Trie.removeAt_of_nodeAt objectId reached
  exact ⟨root, pruning, removed⟩

theorem remove (sound : Sound tree) (objectId : String) : Sound (tree.remove objectId).1 := by
  cases latest : tree.objectToTokens.get? objectId with
  | none =>
      rw [PrefixTree.remove, latest]
      exact sound
  | some tokenIds =>
      have frame := @tree.mem_marksAt_remove objectId
      obtain ⟨root, pruning, removed⟩ := sound.removeAt latest
      simp only [PrefixTree.remove, latest, removed] at frame ⊢
      refine ⟨fun other path held => ?_, sound.alive.removeAt removed⟩
      rw [Dict.get?_erase] at held
      split at held
      · cases held
      · next apart => exact (frame (Ne.symm apart) path).mpr (sound.held other path held)

theorem remove_returned (sound : Sound tree) (objectId : String) :
    (tree.remove objectId).2 = tree.contains objectId := by
  rw [PrefixTree.remove, contains, Dict.contains]
  cases latest : tree.objectToTokens.get? objectId with
  | none => rfl
  | some path =>
      obtain ⟨root, pruning, removed⟩ := sound.removeAt latest
      simp only [removed, Option.isSome_some]

/-- The removal of an id that the tree does not mark, after its insertion. -/
theorem remove_insert (sound : Sound tree) {objectId : String}
    (absent : tree.objectToTokens.get? objectId = none)
    (unmarked : ∀ path, objectId ∉ tree.root.marksAt path) (tokenIds : List Int) :
    (tree.insert tokenIds objectId).remove objectId = (tree, true) := by
  obtain ⟨pruning, undone, -⟩ := Trie.removeAt_insert sound.alive (unmarked tokenIds)
  have latest : (tree.insert tokenIds objectId).objectToTokens.get? objectId = some tokenIds := by
    rw [PrefixTree.insert, Dict.get?_set, if_pos rfl]
  rw [PrefixTree.remove, latest]
  simp only [PrefixTree.insert, undone, Dict.erase_set_self, Dict.erase_absent _ absent]

end Sound

theorem sound_drive (calls : List PrefixTreeCall) : Sound (drive PrefixTree.exec .empty calls) := by
  refine @drive_invariant _ _ _ _ PrefixTree.exec Sound calls ?_ _ Sound.empty
  intro tree c _ sound
  cases c with
  | insert tokenIds objectId => exact sound.insert tokenIds objectId
  | remove objectId => exact sound.remove objectId

/-- An id that no call of a history inserts. -/
def NeverInserted (objectId : String) (calls : List PrefixTreeCall) : Prop :=
  ∀ tokenIds, .insert tokenIds objectId ∉ calls

/-- The tree knows only what was inserted. -/
theorem unknown_drive {objectId : String} {calls : List PrefixTreeCall}
    (never : NeverInserted objectId calls) :
    (drive PrefixTree.exec .empty calls).objectToTokens.get? objectId = none ∧
      ∀ path, objectId ∉ (drive PrefixTree.exec .empty calls).root.marksAt path := by
  refine @drive_invariant _ _ _ _ PrefixTree.exec (fun tree =>
    tree.objectToTokens.get? objectId = none ∧ ∀ path, objectId ∉ tree.root.marksAt path)
    calls ?_ _ ⟨rfl, fun path => ?_⟩
  · rintro tree c listed ⟨absent, unmarked⟩
    cases c with
    | insert tokenIds other =>
        have apart : objectId ≠ other := by
          rintro rfl
          exact never tokenIds listed
        refine ⟨?_, fun path member => unmarked path ?_⟩
        · change (tree.objectToTokens.set other tokenIds).get? objectId = none
          rw [Dict.get?_set, if_neg (Ne.symm apart)]
          exact absent
        · exact (tree.mem_marksAt_insert tokenIds apart path).mp member
    | remove other =>
        refine ⟨?_, fun path member => unmarked path ?_⟩
        · have tracked := congrFun (get?_exec (.remove other) tree) objectId
          rw [tracked, after, Function.update_apply, absent, ite_self]
        · change objectId ∈ (tree.remove other).1.root.marksAt path at member
          rcases tree.marksAt_remove other path with same | filtered
          · exact same ▸ member
          · rw [filtered] at member
            exact (List.mem_filter.mp member).1
  · rw [PrefixTree.empty, Trie.marksAt_empty]
    exact List.not_mem_nil

end PrefixTree

open PrefixTree in
/-- In every tree that a history leaves behind, the latest tokens of a contained id lead to a
    node that holds it, and every node below the root holds an id or has a child. A removal
    answers whether the id is contained, its walk never fails, and it undoes the insertion of
    an id that was never inserted before. -/
theorem prefix_tree_structure (calls : List PrefixTreeCall) :
    let tree := drive PrefixTree.exec .empty calls
    (∀ objectId path, contents calls objectId = some path →
      ∃ node, tree.root.nodeAt path = some node ∧ objectId ∈ node.marks) ∧
    (∀ path node, path ≠ [] → tree.root.nodeAt path = some node →
      node.marks ≠ [] ∨ node.children ≠ []) ∧
    (∀ objectId, tree.contains objectId = (contents calls objectId).isSome ∧
      ((tree.remove objectId).2 = true ↔ tree.contains objectId = true) ∧
      ∀ path, tree.objectToTokens.get? objectId = some path →
        tree.root.removeAt objectId path ≠ none) ∧
    ∀ tokenIds objectId, NeverInserted objectId calls →
      (tree.insert tokenIds objectId).remove objectId = (tree, true) := by
  intro tree
  have sound : Sound tree := sound_drive calls
  have tracked : tree.objectToTokens.get? = contents calls := get?_drive calls .empty
  refine ⟨fun objectId path latest => ?_, fun path node nonempty reached => ?_,
    fun objectId => ⟨?_, ?_, fun path latest => ?_⟩, fun tokenIds objectId never => ?_⟩
  · have member := sound.held objectId path (by rw [tracked, latest])
    obtain ⟨node, reached⟩ := Trie.nodeAt_of_mem_marksAt member
    refine ⟨node, reached, ?_⟩
    rwa [Trie.marksAt, reached] at member
  · exact (Trie.isBare_eq_false_iff node).mp (sound.alive path node nonempty reached)
  · rw [contains, Dict.contains, tracked]
  · rw [sound.remove_returned]
  · obtain ⟨root, pruning, removed⟩ := sound.removeAt latest
    rw [removed]
    exact Option.some_ne_none _
  · obtain ⟨absent, unmarked⟩ := unknown_drive never
    exact sound.remove_insert absent unmarked tokenIds

end IntelliL3
