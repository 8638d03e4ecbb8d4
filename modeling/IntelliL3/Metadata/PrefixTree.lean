import Mathlib.Logic.Function.Basic
import IntelliL3.Core.Types
import IntelliL3.Lib.Trie

/-! # Prefix tree

`metadata/prefix_tree.py`: a trie over token ids with a reverse map from object
ids to the tokens they were last inserted under.
-/

namespace IntelliL3

open Lib

structure PrefixMatch where
  objectId : String
  matchedLength : Nat
  deriving Repr, DecidableEq

/-- The order in which one traversal of a `set[str]` visits it: any order. -/
structure SetOrder where
  visit : List String → List String
  perm : ∀ ids, (visit ids).Perm ids

structure PrefixTree where
  root : Trie Int String
  objectToTokens : Dict String (List Int)

namespace PrefixTree

def empty : PrefixTree := ⟨.empty, .empty⟩

def insert (self : PrefixTree) (tokenIds : List Int) (objectId : String) : PrefixTree where
  root := self.root.insert objectId tokenIds
  objectToTokens := self.objectToTokens.set objectId tokenIds

/-- The loop of `search`: `depth` is the number of tokens followed so far. -/
def searchFrom (order : SetOrder) : Nat → List Int → Trie Int String → List PrefixMatch
  | _, [], _ => []
  | depth, token :: rest, node =>
      match node.child? token with
      | none => []
      | some child =>
          (order.visit child.marks).map (fun id => ⟨id, depth + 1⟩) ++
            searchFrom order (depth + 1) rest child

def search (self : PrefixTree) (order : SetOrder) (tokenIds : List Int) : List PrefixMatch :=
  searchFrom order 0 tokenIds self.root

def longestMatch (self : PrefixTree) (order : SetOrder) (tokenIds : List Int) :
    Option PrefixMatch :=
  (self.search order tokenIds).getLast?

def remove (self : PrefixTree) (objectId : String) : PrefixTree × Bool :=
  match self.objectToTokens.get? objectId with
  | none => (self, false)
  | some tokenIds =>
      let popped := { self with objectToTokens := self.objectToTokens.erase objectId }
      match self.root.removeAt objectId tokenIds with
      | none => (popped, false)
      | some (root, _) => ({ popped with root := root }, true)

def size (self : PrefixTree) : Nat := self.objectToTokens.size

def contains (self : PrefixTree) (objectId : String) : Bool :=
  self.objectToTokens.contains objectId

/-- What a search reports: every mark on a non-empty prefix of the query, with
    the length of that prefix. -/
theorem mem_searchFrom (order : SetOrder) (found : PrefixMatch) (depth : Nat) (query : List Int)
    (node : Trie Int String) :
    found ∈ searchFrom order depth query node ↔
      ∃ path, path ≠ [] ∧ path <+: query ∧ found.objectId ∈ node.marksAt path ∧
        found.matchedLength = depth + path.length := by
  induction query generalizing depth node with
  | nil =>
      simp only [searchFrom, List.not_mem_nil, List.prefix_nil, false_iff, not_exists, not_and]
      exact fun path nonempty empty => absurd empty nonempty
  | cons token rest ih =>
      simp only [searchFrom]
      cases step : node.child? token with
      | none =>
          simp only [List.not_mem_nil, false_iff, not_exists, not_and]
          intro path nonempty start member
          obtain ⟨head, tail, rfl⟩ := List.exists_cons_of_ne_nil nonempty
          obtain ⟨rfl, -⟩ := List.cons_prefix_cons.mp start
          rw [Trie.marksAt_cons, step] at member
          exact absurd member List.not_mem_nil
      | some child =>
          simp only [List.mem_append, List.mem_map, (order.perm _).mem_iff, ih]
          constructor
          · rintro (⟨id, member, rfl⟩ | ⟨path, nonempty, start, member, length⟩)
            · refine ⟨[token], List.cons_ne_nil _ _, by simp, ?_, rfl⟩
              rw [Trie.marksAt_cons, step]
              exact member
            · refine ⟨token :: path, List.cons_ne_nil _ _, by simpa using start, ?_, ?_⟩
              · rw [Trie.marksAt_cons, step]
                exact member
              · rw [length, List.length_cons]
                omega
          · rintro ⟨path, nonempty, start, member, length⟩
            obtain ⟨head, tail, rfl⟩ := List.exists_cons_of_ne_nil nonempty
            obtain ⟨rfl, below⟩ := List.cons_prefix_cons.mp start
            rw [Trie.marksAt_cons, step] at member
            cases tail with
            | nil => exact Or.inl ⟨found.objectId, member, by
                cases found; simp only [List.length_singleton] at length; rw [length]⟩
            | cons next tail =>
                refine Or.inr ⟨next :: tail, List.cons_ne_nil _ _, below, member, ?_⟩
                rw [length, List.length_cons]
                omega

theorem mem_search (self : PrefixTree) (order : SetOrder) (query : List Int)
    (found : PrefixMatch) :
    found ∈ self.search order query ↔
      ∃ path, path ≠ [] ∧ path <+: query ∧ found.objectId ∈ self.root.marksAt path ∧
        found.matchedLength = path.length := by
  simpa only [search, Nat.zero_add] using mem_searchFrom order found 0 query self.root

/-- Matches come from the shortest to the longest. -/
theorem searchFrom_ordered (order : SetOrder) (depth : Nat) (query : List Int)
    (node : Trie Int String) :
    (searchFrom order depth query node).Pairwise
      (fun a b => a.matchedLength ≤ b.matchedLength) := by
  induction query generalizing depth node with
  | nil => exact List.Pairwise.nil
  | cons token rest ih =>
      simp only [searchFrom]
      cases step : node.child? token with
      | none => exact List.Pairwise.nil
      | some child =>
          refine List.pairwise_append.mpr ⟨?_, ih _ _, ?_⟩
          · exact List.pairwise_map.mpr (List.pairwise_of_forall fun _ _ => Nat.le_refl _)
          · intro a first b later
            obtain ⟨id, -, rfl⟩ := List.mem_map.mp first
            obtain ⟨path, nonempty, -, -, length⟩ :=
              (mem_searchFrom order b (depth + 1) rest child).mp later
            rw [length]
            exact Nat.le_add_right _ _

/-- No id twice, when no node lists an id twice and no id sits on two prefixes. -/
theorem searchFrom_nodup (order : SetOrder) (depth : Nat) {query : List Int}
    {node : Trie Int String}
    (once : ∀ path, (node.marksAt path).Nodup)
    (apart : ∀ p q id, p <+: query → q <+: query →
      id ∈ node.marksAt p → id ∈ node.marksAt q → p = q) :
    ((searchFrom order depth query node).map PrefixMatch.objectId).Nodup := by
  induction query generalizing depth node with
  | nil => exact List.nodup_nil
  | cons token rest ih =>
      simp only [searchFrom]
      cases step : node.child? token with
      | none => exact List.nodup_nil
      | some child =>
          have below : ∀ path, node.marksAt (token :: path) = child.marksAt path := by
            intro path
            rw [Trie.marksAt_cons, step]
          have marked : child.marks = child.marksAt [] := rfl
          rw [List.map_append, List.map_map]
          refine List.nodup_append.mpr ⟨?_, ?_, ?_⟩
          · have same : PrefixMatch.objectId ∘ (fun id => (⟨id, depth + 1⟩ : PrefixMatch)) = id :=
              rfl
            rw [same, List.map_id, (order.perm _).nodup_iff, marked, ← below]
            exact once [token]
          · refine ih (depth + 1) (fun path => below path ▸ once (token :: path)) ?_
            intro p q id startP startQ memberP memberQ
            have same := apart (token :: p) (token :: q) id (by simpa using startP)
              (by simpa using startQ) (by rwa [below]) (by rwa [below])
            exact (List.cons.inj same).2
          · intro a first b later same
            subst same
            obtain ⟨m, member, rfl⟩ := List.mem_map.mp first
            obtain ⟨found, later', same⟩ := List.mem_map.mp later
            obtain ⟨path, nonempty, start, deep, -⟩ :=
              (mem_searchFrom order found (depth + 1) rest child).mp later'
            have equal := apart [token] (token :: path) m (by simp) (by simpa using start)
              (by rw [below]; exact (order.perm _).mem_iff.mp member)
              (by rw [below, ← show found.objectId = m from same]; exact deep)
            exact nonempty (List.cons.inj equal).2.symm

/-! ## A tree that mirrors a map -/

/-- The tree holds each id under the tokens a map gives it, and nowhere else. -/
structure Mirrors (tree : PrefixTree) (tokens : String → Option (List Int)) : Prop where
  tracked : ∀ id, tree.objectToTokens.get? id = tokens id
  marked : ∀ id path, id ∈ tree.root.marksAt path ↔ tokens id = some path
  once : ∀ path, (tree.root.marksAt path).Nodup
  nonempty : ∀ id path, tokens id = some path → path ≠ []

namespace Mirrors

variable {tree : PrefixTree} {tokens : String → Option (List Int)}

theorem empty : Mirrors PrefixTree.empty fun _ => none where
  tracked _ := rfl
  marked id path := by
    rw [PrefixTree.empty, Trie.marksAt_empty]
    simp
  once path := by
    rw [PrefixTree.empty, Trie.marksAt_empty]
    exact List.nodup_nil
  nonempty _ _ held := by cases held

/-- Inserting an id that is new, or at the tokens it already has. -/
theorem insert (mirrors : Mirrors tree tokens) {id : String} {path : List Int}
    (some_token : path ≠ [])
    (settled : tokens id = none ∨ tokens id = some path) :
    Mirrors (tree.insert path id) (Function.update tokens id (some path)) where
  tracked other := by
    rw [PrefixTree.insert, Dict.get?_set]
    by_cases here : id = other
    · subst here
      rw [if_pos rfl, Function.update_self]
    · rw [if_neg here, Function.update_of_ne (Ne.symm here), mirrors.tracked]
  marked other stop := by
    rw [PrefixTree.insert, Trie.marksAt_insert]
    by_cases here : other = id
    · subst here
      rw [Function.update_self, Option.some.injEq]
      by_cases arrived : stop = path
      · simp [arrived]
      · rw [if_neg arrived, mirrors.marked]
        rcases settled with absent | held
        · simp [absent, Ne.symm arrived]
        · rw [held, Option.some.injEq]
    · rw [Function.update_of_ne here]
      by_cases arrived : stop = path
      · rw [if_pos arrived, List.mem_insert_iff, ← mirrors.marked, arrived]
        simp only [here, false_or]
      · rw [if_neg arrived, mirrors.marked]
  once stop := by
    rw [PrefixTree.insert, Trie.marksAt_insert]
    split
    · exact (mirrors.once path).insert
    · exact mirrors.once stop
  nonempty other stop held := by
    by_cases here : other = id
    · subst here
      rw [Function.update_self, Option.some.injEq] at held
      exact held ▸ some_token
    · rw [Function.update_of_ne here] at held
      exact mirrors.nonempty other stop held

theorem remove (mirrors : Mirrors tree tokens) (id : String) :
    Mirrors (tree.remove id).1 (Function.update tokens id none) := by
  have tracked := mirrors.tracked id
  unfold PrefixTree.remove
  cases held : tokens id with
  | none =>
      rw [held] at tracked
      rw [tracked]
      have same : Function.update tokens id none = tokens := by
        rw [← held]
        exact Function.update_eq_self id tokens
      rw [same]
      exact mirrors
  | some path =>
      rw [held] at tracked
      rw [tracked]
      obtain ⟨stop, reached⟩ := Trie.nodeAt_of_mem_marksAt ((mirrors.marked id path).mpr held)
      obtain ⟨⟨root, pruning⟩, removed⟩ := Trie.removeAt_of_nodeAt id reached
      simp only [removed]
      refine ⟨?_, ?_, ?_, ?_⟩
      · intro other
        change (tree.objectToTokens.erase id).get? other = _
        rw [Dict.get?_erase]
        by_cases here : id = other
        · subst here
          rw [if_pos rfl, Function.update_self]
        · rw [if_neg here, Function.update_of_ne (Ne.symm here), mirrors.tracked]
      · intro other stop
        change other ∈ root.marksAt stop ↔ _
        rw [Trie.marksAt_removeAt removed]
        by_cases here : other = id
        · subst here
          rw [Function.update_self]
          by_cases arrived : stop = path
          · simp [arrived]
          · rw [if_neg arrived, mirrors.marked, held]
            simp [Ne.symm arrived]
        · rw [Function.update_of_ne here, ← mirrors.marked]
          by_cases arrived : stop = path
          · rw [if_pos arrived, List.mem_filter, arrived]
            simp [here]
          · rw [if_neg arrived]
      · intro stop
        change (root.marksAt stop).Nodup
        rw [Trie.marksAt_removeAt removed]
        split
        · exact (mirrors.once path).filter _
        · exact mirrors.once stop
      · intro other stop held
        by_cases here : other = id
        · subst here
          rw [Function.update_self] at held
          cases held
        · rw [Function.update_of_ne here] at held
          exact mirrors.nonempty other stop held

/-- A search reports the ids whose tokens start the query. -/
theorem mem_search (mirrors : Mirrors tree tokens) (order : SetOrder) (query : List Int)
    (found : PrefixMatch) :
    found ∈ tree.search order query ↔ ∃ path, tokens found.objectId = some path ∧
      path <+: query ∧ found.matchedLength = path.length := by
  rw [PrefixTree.mem_search]
  constructor
  · rintro ⟨path, -, start, marked, length⟩
    exact ⟨path, (mirrors.marked _ _).mp marked, start, length⟩
  · rintro ⟨path, held, start, length⟩
    exact ⟨path, mirrors.nonempty _ _ held, start, (mirrors.marked _ _).mpr held, length⟩

theorem search_nodup (mirrors : Mirrors tree tokens) (order : SetOrder) (query : List Int) :
    ((tree.search order query).map PrefixMatch.objectId).Nodup := by
  refine searchFrom_nodup order 0 mirrors.once fun p q id _ _ here there => ?_
  have first := (mirrors.marked id p).mp here
  have second := (mirrors.marked id q).mp there
  rw [first, Option.some.injEq] at second
  exact second

end Mirrors

/-- The longest match is the last of the matches, and none is longer. -/
theorem longestMatch_spec (tree : PrefixTree) (order : SetOrder) (query : List Int) :
    match tree.longestMatch order query with
    | none => tree.search order query = []
    | some longest => longest ∈ tree.search order query ∧
        ∀ other ∈ tree.search order query, other.matchedLength ≤ longest.matchedLength := by
  unfold longestMatch
  cases last : (tree.search order query).getLast? with
  | none => exact List.getLast?_eq_none_iff.mp last
  | some longest =>
      obtain ⟨init, split⟩ := List.getLast?_eq_some_iff.mp last
      have ordered : (tree.search order query).Pairwise _ :=
        searchFrom_ordered order 0 query tree.root
      rw [split] at ordered ⊢
      refine ⟨List.mem_append_right _ List.mem_cons_self, fun other member => ?_⟩
      rcases List.mem_append.mp member with earlier | same
      · exact (List.pairwise_append.mp ordered).2.2 other earlier longest List.mem_cons_self
      · rw [List.mem_singleton.mp same]

end PrefixTree

end IntelliL3
