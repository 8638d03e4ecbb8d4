import IntelliL3.Lib.Dict

/-! # Tries that mark their nodes

Each node holds the marks of the keys ending there. A trie is read through
`marksAt`: which marks sit at the end of a path. Insertion and removal are
characterised by what they do to that reading, so pruning never shows.
-/

namespace IntelliL3.Lib

inductive Trie (τ : Type) (α : Type) where
  | node (children : List (τ × Trie τ α)) (marks : List α)

namespace Trie

variable {τ α : Type} [DecidableEq τ]

def empty : Trie τ α := .node [] []

def children : Trie τ α → List (τ × Trie τ α)
  | .node children _ => children

def marks : Trie τ α → List α
  | .node _ marks => marks

/-- No marks and no children: a node worth pruning. -/
def isBare : Trie τ α → Bool
  | .node children marks => children.isEmpty && marks.isEmpty

def child? (t : Trie τ α) (step : τ) : Option (Trie τ α) := Assoc.get? t.children step

/-- The node a path leads to. -/
def nodeAt : List τ → Trie τ α → Option (Trie τ α)
  | [], t => some t
  | step :: path, t => (t.child? step).bind (nodeAt path)

/-- The marks at the end of a path; none when the path leaves the trie. -/
def marksAt (path : List τ) (t : Trie τ α) : List α :=
  match nodeAt path t with
  | some stop => stop.marks
  | none => []

theorem marksAt_cons (step : τ) (path : List τ) (t : Trie τ α) :
    marksAt (step :: path) t = match t.child? step with
      | some child => marksAt path child
      | none => [] := by
  simp only [marksAt, nodeAt]
  cases t.child? step <;> rfl

theorem marksAt_empty (path : List τ) : marksAt path (empty : Trie τ α) = [] := by
  cases path <;> rfl

theorem marksAt_bare {t : Trie τ α} (bare : t.isBare = true) (path : List τ) :
    marksAt path t = [] := by
  obtain ⟨children, marks⟩ := t
  simp only [isBare, Bool.and_eq_true, List.isEmpty_iff] at bare
  obtain ⟨rfl, rfl⟩ := bare
  exact marksAt_empty path

theorem nodeAt_of_mem_marksAt {mark : α} {path : List τ} {t : Trie τ α}
    (member : mark ∈ marksAt path t) : ∃ stop, nodeAt path t = some stop := by
  simp only [marksAt] at member
  split at member
  · next stop found => exact ⟨stop, found⟩
  · exact absurd member List.not_mem_nil

variable [DecidableEq α]

/-- Walk a path, creating the missing nodes, and mark its end. -/
def insert (mark : α) : List τ → Trie τ α → Trie τ α
  | [], .node children marks => .node children (marks.insert mark)
  | step :: path, .node children marks =>
      let child := (Assoc.get? children step).getD empty
      .node (Assoc.set children step (insert mark path child)) marks

/-- Walk a path, unmark its end, then delete bare nodes on the way up until one
    is not bare. The flag says whether the pruning is still going on; a path
    that leaves the trie is reported as `none`. -/
def removeAt (mark : α) : List τ → Trie τ α → Option (Trie τ α × Bool)
  | [], .node children marks => some (.node children (marks.filter (· ≠ mark)), true)
  | step :: path, .node children marks =>
      match Assoc.get? children step with
      | none => none
      | some child =>
          match removeAt mark path child with
          | none => none
          | some (child, pruning) =>
              if pruning && child.isBare then some (.node (Assoc.erase children step) marks, true)
              else some (.node (Assoc.set children step child) marks, false)

/-- Insertion adds the mark at its path and touches no other path. -/
theorem marksAt_insert (mark : α) (path other : List τ) (t : Trie τ α) :
    marksAt other (insert mark path t) =
      if other = path then (marksAt path t).insert mark else marksAt other t := by
  induction path generalizing other t with
  | nil =>
      obtain ⟨children, marks⟩ := t
      cases other with
      | nil => rfl
      | cons step rest => rw [if_neg (List.cons_ne_nil step rest)]; rfl
  | cons step path ih =>
      obtain ⟨children, marks⟩ := t
      cases other with
      | nil => rw [if_neg (List.cons_ne_nil step path).symm]; rfl
      | cons step' rest =>
          simp only [insert, marksAt_cons, child?, Trie.children, Assoc.get?_set]
          by_cases same : step = step'
          · subst same
            simp only [if_true, ih, List.cons.injEq, true_and]
            cases Assoc.get? children step with
            | some child => rfl
            | none => simp only [Option.getD_none, marksAt_empty]
          · simp only [if_neg same, List.cons.injEq, Ne.symm same, false_and, if_false]

/-- Removal drops the mark at its path and touches no other path. -/
theorem marksAt_removeAt {mark : α} {path : List τ} {t t' : Trie τ α} {pruning : Bool}
    (removed : removeAt mark path t = some (t', pruning)) (other : List τ) :
    marksAt other t' =
      if other = path then (marksAt path t).filter (· ≠ mark) else marksAt other t := by
  induction path generalizing other t t' pruning with
  | nil =>
      obtain ⟨children, marks⟩ := t
      cases removed
      cases other with
      | nil => rfl
      | cons step rest => rw [if_neg (List.cons_ne_nil step rest)]; rfl
  | cons step path ih =>
      obtain ⟨children, marks⟩ := t
      simp only [removeAt] at removed
      cases found : Assoc.get? children step with
      | none => simp [found] at removed
      | some child =>
          cases below : removeAt mark path child with
          | none => simp [found, below] at removed
          | some result =>
              obtain ⟨child', going⟩ := result
              simp only [found, below] at removed
              have inside := ih below
              cases other with
              | nil =>
                  rw [if_neg (List.cons_ne_nil step path).symm]
                  split at removed <;> cases removed <;> rfl
              | cons step' rest =>
                  split at removed
                  · next prune =>
                      cases removed
                      have bare : child'.isBare = true := (Bool.and_eq_true _ _ ▸ prune).2
                      simp only [marksAt_cons, child?, Trie.children, Assoc.get?_erase, found]
                      by_cases same : step = step'
                      · subst same
                        have gone := inside rest
                        rw [marksAt_bare bare] at gone
                        simp only [if_true, List.cons.injEq, true_and, found]
                        exact gone
                      · simp only [if_neg same, List.cons.injEq, Ne.symm same, false_and, if_false]
                  · cases removed
                    simp only [marksAt_cons, child?, Trie.children, Assoc.get?_set, found]
                    by_cases same : step = step'
                    · subst same
                      simp only [if_true, List.cons.injEq, true_and, found, inside]
                    · simp only [if_neg same, List.cons.injEq, Ne.symm same, false_and, if_false]

/-- A path that ends in a node can be removed along. -/
theorem removeAt_of_nodeAt (mark : α) {path : List τ} {t stop : Trie τ α}
    (reached : nodeAt path t = some stop) : ∃ result, removeAt mark path t = some result := by
  induction path generalizing t with
  | nil => cases t; exact ⟨_, rfl⟩
  | cons step path ih =>
      obtain ⟨children, marks⟩ := t
      simp only [nodeAt, child?, Trie.children, Option.bind_eq_some_iff] at reached
      obtain ⟨child, found, below⟩ := reached
      obtain ⟨⟨child', pruning⟩, removed⟩ := ih below
      simp only [removeAt, found, removed]
      split <;> exact ⟨_, rfl⟩

/-! ## Dead branches -/

omit [DecidableEq τ] [DecidableEq α] in
theorem isBare_eq_false_iff (t : Trie τ α) :
    t.isBare = false ↔ t.marks ≠ [] ∨ t.children ≠ [] := by
  obtain ⟨children, marks⟩ := t
  simp only [isBare, Trie.children, Trie.marks, Bool.and_eq_false_iff, List.isEmpty_eq_false_iff,
    or_comm]

/-- Every node below the root has a mark or a child. -/
def NoDeadBranches (t : Trie τ α) : Prop :=
  ∀ path stop, path ≠ [] → nodeAt path t = some stop → stop.isBare = false

omit [DecidableEq α] in
theorem noDeadBranches_iff {t : Trie τ α} :
    t.NoDeadBranches ↔ ∀ step child, t.child? step = some child →
      child.isBare = false ∧ child.NoDeadBranches := by
  constructor
  · intro alive step child found
    have below : ∀ path, nodeAt (step :: path) t = nodeAt path child := fun path => by
      rw [nodeAt, found, Option.bind_some]
    refine ⟨alive [step] child (List.cons_ne_nil _ _) (below []), fun path stop _ reached => ?_⟩
    exact alive (step :: path) stop (List.cons_ne_nil _ _) ((below path).trans reached)
  · intro alive path stop nonempty reached
    obtain ⟨step, path, rfl⟩ := List.exists_cons_of_ne_nil nonempty
    rw [nodeAt, Option.bind_eq_some_iff] at reached
    obtain ⟨child, found, reached⟩ := reached
    obtain ⟨held, below⟩ := alive step child found
    cases path with
    | nil =>
        cases reached
        exact held
    | cons next path => exact below _ stop (List.cons_ne_nil _ _) reached

omit [DecidableEq α] in
theorem noDeadBranches_empty : (empty : Trie τ α).NoDeadBranches :=
  noDeadBranches_iff.mpr fun step child found => by cases found

theorem insert_isBare (mark : α) (path : List τ) (t : Trie τ α) :
    (insert mark path t).isBare = false := by
  obtain ⟨children, marks⟩ := t
  cases path with
  | nil =>
      have marked : marks.insert mark ≠ [] := List.ne_nil_of_mem List.mem_insert_self
      simp [insert, isBare, marked]
  | cons step path =>
      simp [insert, isBare, Assoc.set_ne_nil]

theorem NoDeadBranches.insert {t : Trie τ α} (alive : t.NoDeadBranches) (mark : α)
    (path : List τ) : (t.insert mark path).NoDeadBranches := by
  induction path generalizing t with
  | nil =>
      obtain ⟨children, marks⟩ := t
      exact noDeadBranches_iff.mpr fun step child found =>
        noDeadBranches_iff.mp alive step child found
  | cons step path ih =>
      obtain ⟨children, marks⟩ := t
      refine noDeadBranches_iff.mpr fun other child found => ?_
      change Assoc.get? (Assoc.set children step _) other = some child at found
      rw [Assoc.get?_set] at found
      split at found
      · cases found
        refine ⟨insert_isBare mark path _, ih ?_⟩
        cases known : Assoc.get? children step with
        | none => exact noDeadBranches_empty
        | some below => exact (noDeadBranches_iff.mp alive step below known).2
      · exact noDeadBranches_iff.mp alive other child found

/-- Where the pruning stops, a child or a mark is left. -/
theorem removeAt_stopped {mark : α} {path : List τ} {t t' : Trie τ α}
    (removed : removeAt mark path t = some (t', false)) : t'.isBare = false := by
  obtain ⟨children, marks⟩ := t
  cases path with
  | nil => cases removed
  | cons step path =>
      simp only [removeAt] at removed
      split at removed
      · cases removed
      · split at removed
        · cases removed
        · split at removed <;> cases removed
          simp [isBare, Assoc.set_ne_nil]

theorem NoDeadBranches.removeAt {t t' : Trie τ α} (alive : t.NoDeadBranches) {mark : α}
    {path : List τ} {pruning : Bool} (removed : removeAt mark path t = some (t', pruning)) :
    t'.NoDeadBranches := by
  induction path generalizing t t' pruning with
  | nil =>
      obtain ⟨children, marks⟩ := t
      cases removed
      exact noDeadBranches_iff.mpr fun step child found =>
        noDeadBranches_iff.mp alive step child found
  | cons step path ih =>
      obtain ⟨children, marks⟩ := t
      simp only [Trie.removeAt] at removed
      cases found : Assoc.get? children step with
      | none => simp [found] at removed
      | some child =>
          obtain ⟨-, below⟩ := noDeadBranches_iff.mp alive step child found
          cases step_removed : Trie.removeAt mark path child with
          | none => simp [found, step_removed] at removed
          | some result =>
              obtain ⟨child', going⟩ := result
              simp only [found, step_removed] at removed
              split at removed
              · cases removed
                refine noDeadBranches_iff.mpr fun other child'' found' => ?_
                change Assoc.get? (Assoc.erase children step) other = some child'' at found'
                rw [Assoc.get?_erase] at found'
                split at found'
                · cases found'
                · exact noDeadBranches_iff.mp alive other child'' found'
              · next kept =>
                  cases removed
                  refine noDeadBranches_iff.mpr fun other child'' found' => ?_
                  change Assoc.get? (Assoc.set children step child') other = some child'' at found'
                  rw [Assoc.get?_set] at found'
                  split at found'
                  · cases found'
                    refine ⟨?_, ih below step_removed⟩
                    cases going with
                    | true => simpa using kept
                    | false => exact removeAt_stopped step_removed
                  · exact noDeadBranches_iff.mp alive other child'' found'

/-- Removing a mark that was not there before it was inserted leaves what was there: the nodes
    the insertion made are bare again, and those it found are not. -/
theorem removeAt_insert {t : Trie τ α} (alive : t.NoDeadBranches) {mark : α} {path : List τ}
    (fresh : mark ∉ marksAt path t) : ∃ pruning,
      removeAt mark path (t.insert mark path) = some (t, pruning) ∧
        (t.isBare = true → pruning = true) := by
  induction path generalizing t with
  | nil =>
      obtain ⟨children, marks⟩ := t
      change mark ∉ marks at fresh
      refine ⟨true, ?_, fun _ => rfl⟩
      have others : marks.filter (· ≠ mark) = marks :=
        List.filter_eq_self.mpr fun m member => by
          simpa using fun same : m = mark => fresh (same ▸ member)
      rw [insert, Trie.removeAt, List.insert_of_not_mem fresh, List.filter_cons_of_neg (by simp),
        others]
  | cons step path ih =>
      obtain ⟨children, marks⟩ := t
      rw [marksAt_cons, child?, Trie.children] at fresh
      cases found : Assoc.get? children step with
      | none =>
          obtain ⟨pruning, undone, bare⟩ := ih noDeadBranches_empty (by
            rw [marksAt_empty]
            exact List.not_mem_nil)
          have pruned : (pruning && isBare (empty : Trie τ α)) = true := by
            rw [bare rfl]
            rfl
          refine ⟨true, ?_, fun _ => rfl⟩
          simp only [insert, Trie.removeAt, found, Option.getD_none, Assoc.get?_set, if_true,
            undone, pruned, Assoc.erase_set_self, Assoc.erase_absent found]
      | some child =>
          rw [found] at fresh
          obtain ⟨held, below⟩ := noDeadBranches_iff.mp alive step child found
          obtain ⟨pruning, undone, -⟩ := ih below fresh
          refine ⟨false, ?_, fun bare => ?_⟩
          · simp only [insert, Trie.removeAt, found, Option.getD_some, Assoc.get?_set, if_true,
              undone, held, Bool.and_false, Bool.false_eq_true, if_false, Assoc.set_set,
              Assoc.set_same found]
          · simp only [isBare, Bool.and_eq_true, List.isEmpty_iff] at bare
            rw [bare.1] at found
            cases found

end Trie

end IntelliL3.Lib
