import Mathlib.Data.List.Nodup
import IntelliL3.Lib.Process

/-! # Two keys, two messages

Calls that write, read or erase two keys with one message each, first the first
key, then the second. A key remembers which call wrote it, so a torn pair is one
whose keys name two writers. Interleaved freely, reads and final states may be
torn; when no writer overtakes or is overtaken, they are not.
-/

namespace IntelliL3.Lib.TwoKeys

variable {ι : Type}

inductive Kind where
  | put | get | delete
  deriving DecidableEq

/-- Where a call stands. A `get` under way has read a first key, and a finished one
    may have an answer, each by its writer. -/
inductive Phase (ι : Type) where
  | fresh
  | underWay (read : Option ι)
  | finished (answer : Option (ι × ι))

/-- Who wrote each key, the calls under way in starting order, and all phases. -/
structure State (ι : Type) where
  first : Option ι
  second : Option ι
  underWay : List ι
  phase : ι → Phase ι

/-- A `get` answers when it has found both keys. -/
def pairOf : Option ι → Option ι → Option (ι × ι)
  | some x, some y => some (x, y)
  | _, _ => none

theorem pairOf_eq_some {first second : Option ι} {x y : ι} :
    pairOf first second = some (x, y) ↔ first = some x ∧ second = some y := by
  cases first <;> cases second <;> simp [pairOf]

namespace State

/-- No call has started and the keys are absent. -/
def initial : State ι := ⟨none, none, [], fun _ => .fresh⟩

variable [DecidableEq ι]

def start (s : State ι) (i : ι) (read : Option ι) : State ι :=
  { s with
    underWay := if i ∈ s.underWay then s.underWay else s.underWay ++ [i]
    phase := Function.update s.phase i (.underWay read) }

def finish (s : State ι) (i : ι) (answer : Option (ι × ι)) : State ι :=
  { s with
    underWay := s.underWay.filter (· ≠ i)
    phase := Function.update s.phase i (.finished answer) }

/-- The next message of a call. -/
def step (kind : ι → Kind) (s : State ι) (i : ι) : State ι :=
  match s.phase i, kind i with
  | .fresh, .put => { s with first := some i }.start i none
  | .fresh, .delete => { s with first := none }.start i none
  | .fresh, .get =>
      match s.first with
      | none => s.finish i none
      | some writer => s.start i (some writer)
  | .underWay _, .put => { s with second := some i }.finish i none
  | .underWay _, .delete => { s with second := none }.finish i none
  | .underWay read, .get => s.finish i (pairOf read s.second)
  | .finished _, _ => s

section

variable {kind : ι → Kind} {s : State ι} {i : ι} {read : Option ι}

theorem step_fresh_put (phase : s.phase i = .fresh) (job : kind i = .put) :
    s.step kind i = { s with first := some i }.start i none := by
  simp only [step, phase, job]

theorem step_fresh_delete (phase : s.phase i = .fresh) (job : kind i = .delete) :
    s.step kind i = { s with first := none }.start i none := by
  simp only [step, phase, job]

theorem step_fresh_get (phase : s.phase i = .fresh) (job : kind i = .get) :
    s.step kind i = match s.first with
      | none => s.finish i none
      | some writer => s.start i (some writer) := by
  simp only [step, phase, job]

theorem step_underWay_put (phase : s.phase i = .underWay read) (job : kind i = .put) :
    s.step kind i = { s with second := some i }.finish i none := by
  simp only [step, phase, job]

theorem step_underWay_delete (phase : s.phase i = .underWay read) (job : kind i = .delete) :
    s.step kind i = { s with second := none }.finish i none := by
  simp only [step, phase, job]

theorem step_underWay_get (phase : s.phase i = .underWay read) (job : kind i = .get) :
    s.step kind i = s.finish i (pairOf read s.second) := by
  simp only [step, phase, job]

theorem step_finished {answer : Option (ι × ι)} (phase : s.phase i = .finished answer) :
    s.step kind i = s := by
  simp only [step, phase]

end

end State

/-- A call that runs and one that put something are in conflict. -/
def Conflict (kind : ι → Kind) (i j : ι) : Prop := kind i = .put ∨ kind j = .put

instance (kind : ι → Kind) : DecidableRel (Conflict kind) := fun i j =>
  inferInstanceAs (Decidable (kind i = .put ∨ kind j = .put))

/-- What the second message of a call will do to the second key. -/
def effect (kind : ι → Kind) (second : Option ι) (i : ι) : Option ι :=
  match kind i with
  | .put => some i
  | .delete => none
  | .get => second

/-- The second key once some calls have sent their second messages in order. -/
def settled (kind : ι → Kind) (second : Option ι) (calls : List ι) : Option ι :=
  calls.foldl (effect kind) second

variable {kind : ι → Kind}

theorem settled_append (second : Option ι) (l r : List ι) :
    settled kind second (l ++ r) = settled kind (settled kind second l) r :=
  List.foldl_append

/-- Without puts, a call leaves the second key or clears it. -/
theorem settled_none {l : List ι} (noPut : ∀ j ∈ l, kind j ≠ .put) :
    settled kind none l = none := by
  induction l with
  | nil => rfl
  | cons j rest ih =>
      have here := noPut j List.mem_cons_self
      have below := ih fun k member => noPut k (List.mem_cons_of_mem _ member)
      have kept : effect kind none j = none := by
        unfold effect
        cases job : kind j with
        | put => exact absurd job here
        | get | delete => rfl
      rw [settled, List.foldl_cons, kept]
      exact below

theorem settled_some {l : List ι} {second : Option ι} {x : ι}
    (noPut : ∀ j ∈ l, kind j ≠ .put) (settles : settled kind second l = some x) :
    second = some x ∧ ∀ j ∈ l, kind j = .get := by
  induction l generalizing second with
  | nil => exact ⟨settles, fun _ member => absurd member List.not_mem_nil⟩
  | cons j rest ih =>
      have here := noPut j List.mem_cons_self
      have noPut' : ∀ k ∈ rest, kind k ≠ .put := fun k member =>
        noPut k (List.mem_cons_of_mem _ member)
      rw [settled, List.foldl_cons] at settles
      obtain ⟨before_rest, gets⟩ := ih noPut' settles
      cases job : kind j with
      | put => exact absurd job here
      | delete =>
          rw [effect, job] at before_rest
          cases before_rest
      | get =>
          rw [effect, job] at before_rest
          exact ⟨before_rest, fun k member => by
            rcases List.mem_cons.mp member with rfl | below
            · exact job
            · exact gets k below⟩

/-- A `get` behind the calls `ahead` that has read `x` first will find `x` or nothing
    second. -/
def Sees (kind : ι → Kind) (second : Option ι) (ahead : List ι) (x : ι) : Prop :=
  settled kind second ahead = some x ∨ (∀ j ∈ ahead, kind j = .get) ∧ second = none

/-- A `get` with no put ahead finds its own writer second, or nothing. -/
theorem Sees.found {second : Option ι} {ahead : List ι} {x y : ι}
    (sees : Sees kind second ahead x) (noPut : ∀ j ∈ ahead, kind j ≠ .put)
    (held : second = some y) : x = y := by
  rcases sees with settles | ⟨-, empty⟩
  · have same := (settled_some noPut settles).1
    rw [held] at same
    exact (Option.some.inj same).symm
  · rw [held] at empty
    cases empty

section

variable [DecidableEq ι]

@[simp] theorem start_phase (s : State ι) (i : ι) (read : Option ι) :
    (s.start i read).phase = Function.update s.phase i (.underWay read) := rfl

@[simp] theorem finish_phase (s : State ι) (i : ι) (answer : Option (ι × ι)) :
    (s.finish i answer).phase = Function.update s.phase i (.finished answer) := rfl

/-! ## In any interleaving -/

/-- Keys and answers only ever name puts. -/
structure Written (kind : ι → Kind) (s : State ι) : Prop where
  first : ∀ x, s.first = some x → kind x = .put
  second : ∀ x, s.second = some x → kind x = .put
  read : ∀ i x, s.phase i = .underWay (some x) → kind x = .put
  answer : ∀ i x y, s.phase i = .finished (some (x, y)) → kind x = .put ∧ kind y = .put

namespace Written

variable {s : State ι}

omit [DecidableEq ι] in
theorem initial : Written kind (State.initial : State ι) where
  first _ same := by cases same
  second _ same := by cases same
  read _ _ same := by cases same
  answer _ _ _ same := by cases same

theorem start (written : Written kind s) (i : ι) {read : Option ι}
    (put : ∀ x, read = some x → kind x = .put) : Written kind (s.start i read) where
  first := written.first
  second := written.second
  read j x under := by
    rw [start_phase, Function.update_apply] at under
    split at under
    · exact put x (Phase.underWay.inj under)
    · exact written.read j x under
  answer j x y answered := by
    rw [start_phase, Function.update_apply] at answered
    split at answered
    · cases answered
    · exact written.answer j x y answered

theorem finish (written : Written kind s) (i : ι) {answer : Option (ι × ι)}
    (puts : ∀ x y, answer = some (x, y) → kind x = .put ∧ kind y = .put) :
    Written kind (s.finish i answer) where
  first := written.first
  second := written.second
  read j x under := by
    rw [finish_phase, Function.update_apply] at under
    split at under
    · cases under
    · exact written.read j x under
  answer j x y answered := by
    rw [finish_phase, Function.update_apply] at answered
    split at answered
    · exact puts x y (Phase.finished.inj answered)
    · exact written.answer j x y answered

/-- What a message writes, a put writes. -/
theorem step (written : Written kind s) (i : ι) : Written kind (s.step kind i) := by
  have nothing : ∀ x, (none : Option ι) = some x → kind x = .put := fun x same => by cases same
  have noAnswer : ∀ x y, (none : Option (ι × ι)) = some (x, y) → kind x = .put ∧ kind y = .put :=
    fun x y same => by cases same
  cases phase : s.phase i with
  | fresh =>
      cases job : kind i with
      | put =>
          have changed : Written kind { s with first := some i } :=
            ⟨fun x same => by cases same; exact job, written.second, written.read, written.answer⟩
          rw [State.step_fresh_put phase job]
          exact changed.start i nothing
      | delete =>
          have changed : Written kind { s with first := none } :=
            ⟨nothing, written.second, written.read, written.answer⟩
          rw [State.step_fresh_delete phase job]
          exact changed.start i nothing
      | get =>
          rw [State.step_fresh_get phase job]
          cases held : s.first with
          | none => exact finish written i noAnswer
          | some writer => exact start written i fun x same => written.first x (held.trans same)
  | underWay read =>
      cases job : kind i with
      | put =>
          have changed : Written kind { s with second := some i } :=
            ⟨written.first, fun x same => by cases same; exact job, written.read, written.answer⟩
          rw [State.step_underWay_put phase job]
          exact changed.finish i noAnswer
      | delete =>
          have changed : Written kind { s with second := none } :=
            ⟨written.first, nothing, written.read, written.answer⟩
          rw [State.step_underWay_delete phase job]
          exact changed.finish i noAnswer
      | get =>
          rw [State.step_underWay_get phase job]
          refine finish written i fun x y answered => ?_
          obtain ⟨rfl, held⟩ := pairOf_eq_some.mp answered
          exact ⟨written.read i x phase, written.second y held⟩
  | finished answer =>
      rw [State.step_finished phase]
      exact written

end Written

/-! ## When nothing overtakes a put -/

/-- The second key settles to the first once the calls under way are through, and
    every `get` among them sees one pair. -/
structure Consistent (kind : ι → Kind) (s : State ι) : Prop where
  nodup : s.underWay.Nodup
  member : ∀ i, i ∈ s.underWay ↔ ∃ read, s.phase i = .underWay read
  settles : settled kind s.second s.underWay = s.first
  sees : ∀ g ∈ s.underWay, kind g = .get → ∃ x, s.phase g = .underWay (some x) ∧
    Sees kind s.second (before g s.underWay) x
  answer : ∀ i x y, s.phase i = .finished (some (x, y)) → x = y

namespace Consistent

variable {s : State ι}

theorem initial : Consistent kind (State.initial : State ι) where
  nodup := List.nodup_nil
  member i := ⟨fun inside => absurd inside List.not_mem_nil, fun ⟨_, phase⟩ => by cases phase⟩
  settles := rfl
  sees _ inside := absurd inside List.not_mem_nil
  answer _ _ _ phase := by cases phase

theorem fresh_absent {i : ι} (consistent : Consistent kind s) (fresh : s.phase i = .fresh) :
    i ∉ s.underWay := by
  intro under
  obtain ⟨read, phase⟩ := (consistent.member i).mp under
  rw [fresh] at phase
  cases phase

theorem start {i : ι} {first read : Option ι} (consistent : Consistent kind s)
    (fresh : s.phase i = .fresh)
    (settles : settled kind s.second (s.underWay ++ [i]) = first)
    (reads : kind i = .get → ∃ x, read = some x ∧ s.first = some x) :
    Consistent kind ({ s with first }.start i read) := by
  have absent : i ∉ s.underWay := consistent.fresh_absent fresh
  have grown : ({ s with first }.start i read).underWay = s.underWay ++ [i] := if_neg absent
  refine ⟨?_, ?_, grown ▸ settles, ?_, ?_⟩
  · rw [grown]
    exact List.nodup_append.mpr ⟨consistent.nodup, List.nodup_singleton i, by
      intro a inside b last same
      exact absent (List.mem_singleton.mp last ▸ same ▸ inside)⟩
  · intro j
    rw [grown, start_phase]
    rw [List.mem_append, List.mem_singleton, Function.update_apply]
    by_cases here : j = i
    · simp [here]
    · simp only [here, or_false, if_false, consistent.member j]
  · intro g under get
    rw [grown] at under ⊢
    rw [start_phase]
    change ∃ x, _ ∧ Sees kind s.second _ x
    by_cases here : g = i
    · subst here
      obtain ⟨x, rfl, held⟩ := reads get
      refine ⟨x, Function.update_self .., Or.inl ?_⟩
      rw [before_append_of_not_mem absent, before_cons_self, List.append_nil,
        consistent.settles, held]
    · have under' : g ∈ s.underWay := by
        rcases List.mem_append.mp under with inside | last
        · exact inside
        · exact absurd (List.mem_singleton.mp last) here
      rw [Function.update_of_ne here, before_append_of_mem under']
      exact consistent.sees g under' get
  · intro j x y answered
    rw [start_phase, Function.update_apply] at answered
    split at answered
    · cases answered
    · exact consistent.answer j x y answered

theorem finish {i : ι} {l r : List ι} {second : Option ι} {answer : Option (ι × ι)}
    (consistent : Consistent kind s) (split : s.underWay = l ++ i :: r)
    (settles : settled kind second (l ++ r) = settled kind s.second (l ++ i :: r))
    (ahead : ∀ g x, g ∈ l → Sees kind s.second (before g l) x → Sees kind second (before g l) x)
    (behind : ∀ g x, Sees kind s.second (l ++ i :: before g r) x →
      Sees kind second (l ++ before g r) x)
    (same : ∀ x y, answer = some (x, y) → x = y) :
    Consistent kind ({ s with second }.finish i answer) := by
  have nodup := consistent.nodup
  rw [split] at nodup
  obtain ⟨leftNodup, rightNodup, apart⟩ := List.nodup_append.mp nodup
  obtain ⟨notRight, restNodup⟩ := List.nodup_cons.mp rightNodup
  have notLeft : i ∉ l := fun inside => apart i inside i List.mem_cons_self rfl
  have rest : s.underWay.filter (· ≠ i) = l ++ r := by
    rw [split, List.filter_append, List.filter_cons_of_neg (by simp)]
    congr 1
    · exact List.filter_eq_self.mpr fun j inside => by
        simpa using fun same : j = i => notLeft (same ▸ inside)
    · exact List.filter_eq_self.mpr fun j inside => by
        simpa using fun same : j = i => notRight (same ▸ inside)
  have remaining : ({ s with second }.finish i answer).underWay = l ++ r := rest
  refine ⟨?_, ?_, ?_, ?_, ?_⟩
  · rw [remaining]
    exact List.nodup_append.mpr ⟨leftNodup, restNodup, fun a inLeft b inRight =>
      apart a inLeft b (List.mem_cons_of_mem i inRight)⟩
  · intro j
    rw [remaining, finish_phase, Function.update_apply]
    have old := consistent.member j
    rw [split, List.mem_append, List.mem_cons] at old
    by_cases here : j = i
    · subst here
      simp [notLeft, notRight]
    · simp only [here, false_or] at old
      rw [if_neg here, ← old, List.mem_append]
  · rw [remaining]
    change settled kind second (l ++ r) = s.first
    rw [settles, ← split, consistent.settles]
  · intro g under get
    rw [remaining] at under ⊢
    have differ : g ≠ i := by
      rintro rfl
      exact (List.mem_append.mp under).elim notLeft notRight
    have under' : g ∈ s.underWay := by
      rw [split]
      rcases List.mem_append.mp under with inside | inside
      · exact List.mem_append_left _ inside
      · exact List.mem_append_right _ (List.mem_cons_of_mem _ inside)
    obtain ⟨x, phase, sees⟩ := consistent.sees g under' get
    refine ⟨x, ?_, ?_⟩
    · rw [finish_phase, Function.update_of_ne differ, phase]
    · rw [split] at sees
      by_cases inside : g ∈ l
      · rw [before_append_of_mem inside] at sees ⊢
        exact ahead g x inside sees
      · rw [before_append_of_not_mem inside] at sees ⊢
        rw [before, if_neg (Ne.symm differ)] at sees
        exact behind g x sees
  · intro j x y answered
    rw [finish_phase, Function.update_apply] at answered
    split at answered
    · exact same x y (Phase.finished.inj answered)
    · exact consistent.answer j x y answered

/-- A `get` that finds no first key is done with one message. -/
theorem missed {i : ι} (consistent : Consistent kind s) (fresh : s.phase i = .fresh) :
    Consistent kind (s.finish i none) := by
  have absent : i ∉ s.underWay := consistent.fresh_absent fresh
  have kept : (s.finish i none).underWay = s.underWay :=
    List.filter_eq_self.mpr fun j inside => by
      simpa using fun same : j = i => absent (same ▸ inside)
  refine ⟨kept ▸ consistent.nodup, ?_, ?_, ?_, ?_⟩
  · intro j
    rw [kept, finish_phase, Function.update_apply, consistent.member j]
    by_cases here : j = i
    · simp [here, fresh]
    · rw [if_neg here]
  · rw [kept]
    exact consistent.settles
  · intro g under get
    rw [kept] at under ⊢
    have differ : g ≠ i := fun same => absent (same ▸ under)
    rw [finish_phase, Function.update_of_ne differ]
    exact consistent.sees g under get
  · intro j x y answered
    rw [finish_phase, Function.update_apply] at answered
    split at answered
    · cases answered
    · exact consistent.answer j x y answered

theorem finish_put {i : ι} {l r : List ι} (consistent : Consistent kind s) (job : kind i = .put)
    (split : s.underWay = l ++ i :: r) (orderly : ∀ j ∈ l, ¬ Conflict kind i j) :
    Consistent kind ({ s with second := some i }.finish i none) := by
  have first : l = [] := List.eq_nil_iff_forall_not_mem.mpr fun j inside =>
    orderly j inside (Or.inl job)
  subst first
  have done : ∀ rest, settled kind (some i) rest = settled kind s.second (i :: rest) := by
    intro rest
    rw [settled, settled, List.foldl_cons, effect, job]
  refine consistent.finish split (done r) (fun _ _ inside => absurd inside List.not_mem_nil) ?_
    fun x y same => by cases same
  intro g x sees
  rcases sees with same | ⟨gets, -⟩
  · exact Or.inl ((done _).trans same)
  · have get := gets i List.mem_cons_self
    rw [job] at get
    cases get

theorem finish_delete {i : ι} {l r : List ι} (consistent : Consistent kind s)
    (job : kind i = .delete) (split : s.underWay = l ++ i :: r)
    (noPut : ∀ j ∈ l, kind j ≠ .put) :
    Consistent kind ({ s with second := none }.finish i none) := by
  have done : ∀ rest, settled kind none (l ++ rest) = settled kind s.second (l ++ i :: rest) := by
    intro rest
    rw [settled_append, settled_append, settled_none noPut]
    conv_rhs => rw [settled, List.foldl_cons, effect, job]
    rfl
  refine consistent.finish split (done r) ?_ ?_ fun x y same => by cases same
  · intro g x inside sees
    have noPut' : ∀ j ∈ before g l, kind j ≠ .put := fun j ahead => noPut j (before_subset ahead)
    rcases sees with same | ⟨gets, -⟩
    · exact Or.inr ⟨(settled_some noPut' same).2, rfl⟩
    · exact Or.inr ⟨gets, rfl⟩
  · intro g x sees
    rcases sees with same | ⟨gets, -⟩
    · exact Or.inl ((done _).trans same)
    · have get := gets i (List.mem_append_right _ List.mem_cons_self)
      rw [job] at get
      cases get

theorem finish_get {i : ι} {l r : List ι} {answer : Option (ι × ι)}
    (consistent : Consistent kind s) (job : kind i = .get) (split : s.underWay = l ++ i :: r)
    (same : ∀ x y, answer = some (x, y) → x = y) : Consistent kind (s.finish i answer) := by
  have done : ∀ rest, settled kind s.second (l ++ rest) =
      settled kind s.second (l ++ i :: rest) := by
    intro rest
    rw [settled_append, settled_append]
    conv_rhs => rw [settled, List.foldl_cons, effect, job]
    rfl
  refine consistent.finish split (done r) (fun _ _ _ sees => sees) ?_ same
  intro g x sees
  rcases sees with settles | ⟨gets, empty⟩
  · exact Or.inl ((done _).trans settles)
  · refine Or.inr ⟨fun j inside => gets j ?_, empty⟩
    rcases List.mem_append.mp inside with ahead | behind
    · exact List.mem_append_left _ ahead
    · exact List.mem_append_right _ (List.mem_cons_of_mem _ behind)

/-- A message that overtakes no put and, if it is a put's, nothing at all, keeps the
    pair whole. -/
theorem step (consistent : Consistent kind s) (i : ι)
    (orderly : i ∈ s.underWay → ∀ j ∈ before i s.underWay, ¬ Conflict kind i j) :
    Consistent kind (s.step kind i) := by
  cases phase : s.phase i with
  | fresh =>
      have added : ∀ second, settled kind second (s.underWay ++ [i]) =
          effect kind (settled kind second s.underWay) i := by
        intro second
        rw [settled_append, settled, List.foldl_cons, List.foldl_nil]
      cases job : kind i with
      | put =>
          rw [State.step_fresh_put phase job]
          refine consistent.start phase ?_ (by simp [job])
          rw [added, effect, job]
      | delete =>
          rw [State.step_fresh_delete phase job]
          refine consistent.start phase ?_ (by simp [job])
          rw [added, effect, job]
      | get =>
          rw [State.step_fresh_get phase job]
          cases held : s.first with
          | none => exact consistent.missed phase
          | some writer =>
              refine consistent.start phase ?_ fun _ => ⟨writer, rfl, held⟩
              rw [added, effect, job, consistent.settles]
  | underWay read =>
      have under : i ∈ s.underWay := (consistent.member i).mpr ⟨read, phase⟩
      obtain ⟨l, r, split⟩ := List.append_of_mem under
      have ahead : before i s.underWay = l := by
        have nodup := consistent.nodup
        rw [split] at nodup ⊢
        have notLeft : i ∉ l := fun inside =>
          (List.nodup_append.mp nodup).2.2 i inside i List.mem_cons_self rfl
        rw [before_append_of_not_mem notLeft, before_cons_self, List.append_nil]
      have clear := orderly under
      rw [ahead] at clear
      have noPut : ∀ j ∈ l, kind j ≠ .put := fun j inside put => clear j inside (Or.inr put)
      cases job : kind i with
      | put =>
          rw [State.step_underWay_put phase job]
          exact consistent.finish_put job split clear
      | delete =>
          rw [State.step_underWay_delete phase job]
          exact consistent.finish_delete job split noPut
      | get =>
          rw [State.step_underWay_get phase job]
          obtain ⟨x, reading, sees⟩ := consistent.sees i under job
          rw [phase, Phase.underWay.injEq] at reading
          subst reading
          rw [ahead] at sees
          refine consistent.finish_get job split fun a b answered => ?_
          obtain ⟨same, held⟩ := pairOf_eq_some.mp answered
          cases same
          exact sees.found noPut held
  | finished answer =>
      rw [State.step_finished phase]
      exact consistent

/-- Once nothing is under way, both keys name one writer, or none. -/
theorem quiet (consistent : Consistent kind s) (idle : s.underWay = []) :
    s.first = s.second := by
  rw [← consistent.settles, idle]
  rfl

end Consistent

end

end IntelliL3.Lib.TwoKeys
