import IntelliL3.Core.Reference
import IntelliL3.Metadata.IndexedVectors

/-! # Label bookkeeping

Over any history of calls on an HNSW index, the two maps, the free labels and
the counter agree, and hnswlib is called as it must be. A log is kept beside
hnswlib of what it was asked to do.
-/

namespace IntelliL3

open Lib

/-! ## Calls on an index -/

inductive IndexCall where
  | add (objectId : String) (embedding : NdArray)
  | search (query : NdArray) (k : Int) (threshold : Rat)
  | remove (objectId : String)

inductive IndexReply where
  | none
  | results (found : List (String × Rat))
  | removed (known : Bool)

def HNSWIndex.exec {η : Type} [Hnswlib η] [PyRuntime] :
    IndexCall → EStateM PyError (HNSWIndex η) IndexReply
  | .add objectId embedding => do
      HNSWIndex.add objectId embedding
      pure .none
  | .search query k threshold => do
      let self ← get
      return .results (← raising (self.search query k threshold))
  | .remove objectId => do
      return .removed (← HNSWIndex.remove objectId)

namespace HNSWIndex

variable {η : Type} [Hnswlib η] [PyRuntime] (idx : HNSWIndex η)

theorem exec_add (objectId : String) (embedding : NdArray) :
    EStateResult.state (exec (.add objectId embedding) idx) =
      EStateResult.state (add objectId embedding idx) :=
  EStateResult.state_wrapped _ (fun _ => IndexReply.none) idx

theorem exec_search (query : NdArray) (k : Int) (threshold : Rat) :
    EStateResult.state (exec (.search query k threshold) idx) = idx := by
  change EStateResult.state ((get >>= fun self =>
    raising (self.search query k threshold) >>= fun rows =>
      pure (IndexReply.results rows)) idx) = idx
  rw [bind_run, get_run]
  cases found : idx.search query k threshold with
  | ok rows => simp only [found, bind_run, raising_ok, pure_run, EStateResult.state_ok]
  | error e => simp only [found, bind_run, raising_error, EStateResult.state_error]

theorem exec_remove (objectId : String) :
    EStateResult.state (exec (.remove objectId) idx) =
      EStateResult.state (remove objectId idx) :=
  EStateResult.state_wrapped _ IndexReply.removed idx

end HNSWIndex

/-! ## A log of the calls -/

inductive HnswlibCall where
  | addItems (label : Nat) (replaceDeleted : Bool)
  | markDeleted (label : Nat)
  deriving DecidableEq

/-- An hnswlib index, and what it was asked to do, the latest call first. -/
structure Traced (η : Type) where
  index : η
  trace : List HnswlibCall
  /-- Some call has raised. -/
  raised : Bool

namespace Traced

variable {η : Type}

def log (call : HnswlibCall) (action : EStateM PyError η Unit) :
    EStateM PyError (Traced η) Unit := fun self =>
  match action self.index with
  | .ok _ index => .ok () { self with index, trace := call :: self.trace }
  | .error e index => .error e { index, trace := call :: self.trace, raised := true }

instance [Hnswlib η] : Hnswlib (Traced η) where
  initIndex dim maxElements := ⟨Hnswlib.initIndex dim maxElements, [], false⟩
  addItems vector label replaceDeleted :=
    log (.addItems label replaceDeleted) (Hnswlib.addItems vector label replaceDeleted)
  markDeleted label := log (.markDeleted label) (Hnswlib.markDeleted label)
  knnQuery self := Hnswlib.knnQuery self.index

theorem log_ok {call : HnswlibCall} {action : EStateM PyError η Unit} {self : Traced η}
    {index : η} (done : action self.index = .ok () index) :
    log call action self = .ok () ⟨index, call :: self.trace, self.raised⟩ := by
  simp only [log, done]

theorem log_error {call : HnswlibCall} {action : EStateM PyError η Unit} {self : Traced η}
    {index : η} {e : PyError} (raised : action self.index = .error e index) :
    log call action self = .error e ⟨index, call :: self.trace, true⟩ := by
  simp only [log, raised]

end Traced

/-- The label was added and not marked as deleted since. -/
def inUse : List HnswlibCall → Nat → Bool
  | [], _ => false
  | .addItems other _ :: earlier, label => label == other || inUse earlier label
  | .markDeleted other :: earlier, label => label != other && inUse earlier label

/-- The label was marked as deleted and not added since. -/
def isDeleted : List HnswlibCall → Nat → Bool
  | [], _ => false
  | .addItems other _ :: earlier, label => label != other && isDeleted earlier label
  | .markDeleted other :: earlier, label => label == other || isDeleted earlier label

/-- No label was added while in use, none replaced while none was deleted, and only labels
    in use were marked as deleted. -/
def WellUsed : List HnswlibCall → Prop
  | [] => True
  | .addItems label replaceDeleted :: earlier =>
      inUse earlier label = false ∧
        (replaceDeleted = true → ∃ other, isDeleted earlier other = true) ∧ WellUsed earlier
  | .markDeleted label :: earlier => inUse earlier label = true ∧ WellUsed earlier

namespace HNSWIndex

variable {η : Type}

/-- The log tells the labels of the index: those in use are in use, the free ones were
    deleted, and hnswlib was well used. -/
structure Logged (idx : HNSWIndex (Traced η)) : Prop where
  consistent : Consistent idx
  used : ∀ label, inUse idx.index.trace label = (idx.idToObject.get? label).isSome
  free : ∀ label ∈ idx.freeIds, isDeleted idx.index.trace label = true
  wellUsed : WellUsed idx.index.trace

namespace Logged

variable [Hnswlib η] {idx : HNSWIndex (Traced η)}

theorem new {dim maxElements : Int} (built : HNSWIndex.new dim maxElements = .ok idx) :
    Logged idx ∧ idx.index.raised = false := by
  have consistent := Consistent.new built
  obtain ⟨d, m, -, -, rfl⟩ := new_eq_blank built
  exact ⟨⟨consistent, fun _ => rfl, fun _ member => absurd member List.not_mem_nil, trivial⟩, rfl⟩

omit [Hnswlib η] in
theorem indexed (logged : Logged idx) {objectId : String}
    (unknown : idx.objectToId.get? objectId = none) (room : idx.isFull = false) (index : η)
    (raised : Bool) :
    Logged (idx.indexed objectId ⟨index,
      .addItems idx.nextLabel (!idx.freeIds.isEmpty) :: idx.index.trace, raised⟩) where
  consistent := logged.consistent.indexed unknown room _
  used label := by
    change (label == idx.nextLabel || inUse idx.index.trace label) =
      ((idx.idToObject.set idx.nextLabel objectId).get? label).isSome
    rw [Dict.get?_set, logged.used]
    by_cases here : idx.nextLabel = label
    · subst here
      simp
    · rw [if_neg here, beq_false_of_ne (Ne.symm here), Bool.false_or]
  free label member := by
    obtain ⟨free, other⟩ := logged.consistent.mem_takeLabel_free.mp member
    change (label != idx.nextLabel && isDeleted idx.index.trace label) = true
    rw [logged.free label free, bne_iff_ne.mpr other]
    rfl
  wellUsed := by
    refine ⟨?_, fun replaced => ?_, logged.wellUsed⟩
    · rw [logged.used, logged.consistent.nextLabel_unused]
      rfl
    · have some_free : idx.freeIds ≠ [] := by
        intro empty
        simp [empty] at replaced
      obtain ⟨label, free⟩ := List.exists_mem_of_ne_nil _ some_free
      exact ⟨label, logged.free label free⟩

omit [Hnswlib η] in
theorem forgotten (logged : Logged idx) {objectId : String} {label : Nat}
    (known : idx.objectToId.get? objectId = some label) (index : η) (raised : Bool) :
    Logged (idx.forgotten objectId label
      ⟨index, .markDeleted label :: idx.index.trace, raised⟩) where
  consistent := logged.consistent.forgotten known _
  used other := by
    change (other != label && inUse idx.index.trace other) =
      ((idx.idToObject.erase label).get? other).isSome
    rw [Dict.get?_erase, logged.used]
    by_cases here : label = other
    · subst here
      simp
    · rw [if_neg here, bne_iff_ne.mpr (Ne.symm here), Bool.true_and]
  free other member := by
    change (other == label || isDeleted idx.index.trace other) = true
    rcases List.mem_append.mp member with free | last
    · rw [logged.free other free, Bool.or_true]
    · rw [List.mem_singleton.mp last, beq_self_eq_true, Bool.true_or]
  wellUsed := by
    refine ⟨?_, logged.wellUsed⟩
    rw [logged.used, (logged.consistent.inverse _ _).mp known]
    rfl

end Logged

/-! ## Calls -/

variable [Hnswlib η] {idx : HNSWIndex (Traced η)}

/-- A removal changes nothing, forgets the id and logs the call, or hnswlib has raised. -/
theorem remove_logged (idx : HNSWIndex (Traced η)) (objectId : String) :
    HNSWIndex.remove objectId idx = .ok false idx ∨
      (∃ label index, idx.objectToId.get? objectId = some label ∧
        HNSWIndex.remove objectId idx = .ok true (idx.forgotten objectId label
          ⟨index, .markDeleted label :: idx.index.trace, idx.index.raised⟩)) ∨
      ∃ e s, HNSWIndex.remove objectId idx = .error e s ∧ s.index.raised = true := by
  cases known : idx.objectToId.get? objectId with
  | none => exact Or.inl (remove_unknown known)
  | some label =>
      right
      cases called : Hnswlib.markDeleted label idx.index.index with
      | ok _ index =>
          have marked : Hnswlib.markDeleted label idx.index = _ := Traced.log_ok called
          exact Or.inl ⟨label, index, rfl, by rw [remove_known known, marked]⟩
      | error e index =>
          have marked : Hnswlib.markDeleted label idx.index = _ := Traced.log_error called
          exact Or.inr ⟨e, _, by rw [remove_known known, marked], rfl⟩

variable [PyRuntime]

/-- An addition finds the id known, is refused, indexes the vector and logs the call, or
    hnswlib has raised. -/
theorem add_logged (idx : HNSWIndex (Traced η)) (objectId : String) (embedding : NdArray) :
    idx.objectToId.contains objectId = true ∧ HNSWIndex.add objectId embedding idx = .ok () idx ∨
      (idx.objectToId.contains objectId = false ∧
        ¬ (idx.isFull = false ∧ embedding.IsRow idx.dim) ∧
        ∃ e, HNSWIndex.add objectId embedding idx = .error e idx) ∨
      (idx.objectToId.contains objectId = false ∧ idx.isFull = false ∧
        ∃ index, HNSWIndex.add objectId embedding idx = .ok () (idx.indexed objectId
          ⟨index, .addItems idx.nextLabel (!idx.freeIds.isEmpty) :: idx.index.trace,
            idx.index.raised⟩)) ∨
      ∃ e s, HNSWIndex.add objectId embedding idx = .error e s ∧ s.index.raised = true := by
  cases known : idx.objectToId.contains objectId with
  | true => exact Or.inl ⟨rfl, add_known known embedding⟩
  | false =>
      right
      by_cases fits : idx.isFull = false ∧ embedding.IsRow idx.dim
      · right
        obtain ⟨room, row⟩ := fits
        have prepared := prepareEmbedding_eq_ok.mpr ⟨row, rfl⟩
        cases called : Hnswlib.addItems embedding.asFloat32 idx.nextLabel (!idx.freeIds.isEmpty)
            idx.index.index with
        | ok _ index =>
            have added : Hnswlib.addItems _ _ _ idx.index = _ := Traced.log_ok called
            exact Or.inl ⟨rfl, room, index, by rw [add_new known room prepared, added]⟩
        | error e index =>
            have added : Hnswlib.addItems _ _ _ idx.index = _ := Traced.log_error called
            exact Or.inr ⟨e, _, by rw [add_new known room prepared, added], rfl⟩
      · left
        exact ⟨rfl, fits, add_refused known fits⟩

/-- One index follows another on which hnswlib had not raised. -/
structure Follows (idx idx' : HNSWIndex (Traced η)) : Prop where
  returned : idx.index.raised = false
  dim : idx'.dim = idx.dim
  maxElements : idx'.maxElements = idx.maxElements
  logged : Logged idx → Logged idx'

omit [Hnswlib η] [PyRuntime] in
theorem Follows.same (returned : idx.index.raised = false) : Follows idx idx :=
  ⟨returned, rfl, rfl, id⟩

theorem exec_follows (idx : HNSWIndex (Traced η)) (call : IndexCall)
    (returned : (EStateResult.state (HNSWIndex.exec call idx)).index.raised = false) :
    Follows idx (EStateResult.state (HNSWIndex.exec call idx)) := by
  cases call with
  | add objectId embedding =>
      rw [exec_add] at returned ⊢
      rcases add_logged idx objectId embedding with
        ⟨-, done⟩ | ⟨-, -, e, done⟩ | ⟨unknown, room, index, done⟩ | ⟨e, s, done, raised⟩
      · rw [done] at returned ⊢
        exact .same returned
      · rw [done] at returned ⊢
        exact .same returned
      · obtain ⟨sameDim, sameCapacity⟩ := add_keeps done
        rw [done] at returned ⊢
        have absent := (idx.objectToId.contains_eq_false_iff objectId).mp unknown
        exact ⟨returned, sameDim, sameCapacity, fun logged => logged.indexed absent room index _⟩
      · rw [done] at returned
        exact absurd returned (by rw [EStateResult.state_error, raised]; exact nofun)
  | search query k threshold =>
      rw [exec_search] at returned ⊢
      exact .same returned
  | remove objectId =>
      rw [exec_remove] at returned ⊢
      rcases remove_logged idx objectId with
        done | ⟨label, index, known, done⟩ | ⟨e, s, done, raised⟩
      · rw [done] at returned ⊢
        exact .same returned
      · rw [done] at returned ⊢
        exact ⟨returned, rfl, rfl, fun logged => logged.forgotten known index _⟩
      · rw [done] at returned
        exact absurd returned (by rw [EStateResult.state_error, raised]; exact nofun)

/-- Over a history in which hnswlib has not raised, the log tells the labels. -/
theorem Follows.run (calls : List IndexCall)
    (returned : (drive HNSWIndex.exec idx calls).index.raised = false) :
    Follows idx (drive HNSWIndex.exec idx calls) := by
  induction calls generalizing idx with
  | nil => exact .same returned
  | cons call rest ih =>
      have later := ih returned
      have first := exec_follows idx call later.returned
      exact ⟨first.returned, later.dim.trans first.dim,
        later.maxElements.trans first.maxElements, fun logged => later.logged (first.logged logged)⟩

/-- What holds of an addition to an index whose log tells its labels. -/
theorem Logged.addition (logged : Logged idx) (objectId : String) (embedding : NdArray)
    (returned : (EStateResult.state
      (HNSWIndex.add objectId embedding idx)).index.raised = false) :
    (idx.objectToId.get? objectId = none → embedding.IsRow idx.dim →
      ((∃ e s, HNSWIndex.add objectId embedding idx = .error e s) ↔
        idx.size = idx.maxElements)) ∧
      ∀ e s, HNSWIndex.add objectId embedding idx = .error e s → s = idx := by
  have full := logged.consistent.isFull_iff
  have counted := logged.consistent.size_add_free
  have bounded := logged.consistent.bounded
  rcases add_logged idx objectId embedding with
    ⟨known, done⟩ | ⟨-, unfit, e, done⟩ | ⟨-, room, index, done⟩ | ⟨e, s, done, raised⟩
  · rw [done]
    refine ⟨fun unknown _ => ?_, nofun⟩
    rw [(idx.objectToId.contains_eq_false_iff objectId).mpr unknown] at known
    cases known
  · rw [done]
    refine ⟨fun _ row => ⟨fun _ => ?_, fun _ => ⟨e, idx, rfl⟩⟩, ?_⟩
    · have isFull : idx.isFull = true := by
        by_contra room
        exact unfit ⟨Bool.not_eq_true _ ▸ room, row⟩
      have reached := full.mp isFull
      omega
    · intro e' s same
      cases same
      rfl
  · rw [done]
    refine ⟨fun _ _ => ⟨nofun, fun equal => ?_⟩, nofun⟩
    rw [full.mpr equal.ge] at room
    cases room
  · rw [done] at returned
    exact absurd returned (by rw [EStateResult.state_error, raised]; exact nofun)

/-! ## Without the log -/

omit [PyRuntime] in
/-- The index without the log. -/
def untraced (idx : HNSWIndex (Traced η)) : HNSWIndex η := { idx with index := idx.index.index }

/-- A call gives the same with the log and without it. -/
def Unlogged {α : Type} (idx : HNSWIndex (Traced η))
    (logged : EStateM PyError (HNSWIndex (Traced η)) α)
    (plain : EStateM PyError (HNSWIndex η) α) : Prop :=
  EStateResult.outcome (logged idx) = EStateResult.outcome (plain idx.untraced) ∧
    (EStateResult.state (logged idx)).untraced = EStateResult.state (plain idx.untraced)

omit [Hnswlib η] [PyRuntime] in
theorem Unlogged.wrap {α β : Type} {logged : EStateM PyError (HNSWIndex (Traced η)) α}
    {plain : EStateM PyError (HNSWIndex η) α} (same : Unlogged idx logged plain) (wrap : α → β) :
    Unlogged idx (logged >>= fun a => pure (wrap a)) (plain >>= fun a => pure (wrap a)) := by
  obtain ⟨outcome, state⟩ := same
  unfold Unlogged
  rw [bind_run, bind_run]
  cases one : logged idx <;> cases two : plain idx.untraced <;>
    simp_all [EStateResult.outcome, EStateResult.state, pure_run]

omit [PyRuntime] in
theorem remove_unlogged (idx : HNSWIndex (Traced η)) (objectId : String) :
    Unlogged idx (remove objectId) (remove objectId) := by
  unfold Unlogged
  cases known : idx.objectToId.get? objectId with
  | none =>
      have plain : remove objectId idx.untraced = _ := remove_unknown known
      rw [remove_unknown known, plain]
      exact ⟨rfl, rfl⟩
  | some label =>
      have plain : remove objectId idx.untraced = _ := remove_known known
      rw [remove_known known, plain]
      cases called : Hnswlib.markDeleted label idx.untraced.index with
      | ok _ index =>
          have logged : Hnswlib.markDeleted label idx.index = _ := Traced.log_ok called
          rw [logged]
          exact ⟨rfl, rfl⟩
      | error e index =>
          have logged : Hnswlib.markDeleted label idx.index = _ := Traced.log_error called
          rw [logged]
          exact ⟨rfl, rfl⟩

omit [Hnswlib η] [PyRuntime] in
theorem takeLabel_untraced (idx : HNSWIndex (Traced η)) :
    idx.untraced.takeLabel = idx.takeLabel.untraced := by
  unfold takeLabel untraced
  split <;> rfl

theorem add_unlogged (idx : HNSWIndex (Traced η)) (objectId : String) (embedding : NdArray) :
    Unlogged idx (add objectId embedding) (add objectId embedding) := by
  unfold Unlogged
  cases known : idx.objectToId.contains objectId with
  | true =>
      have plain := @add_known η _ _ idx.untraced objectId known embedding
      rw [add_known known, plain]
      exact ⟨rfl, rfl⟩
  | false =>
      cases room : idx.isFull with
      | true =>
          have plain := @add_full η _ _ idx.untraced objectId known room embedding
          rw [add_full known room, plain]
          exact ⟨rfl, rfl⟩
      | false =>
          cases prepared : idx.prepareEmbedding embedding with
          | error e =>
              have plain : add objectId embedding idx.untraced = _ :=
                add_badShape known room prepared
              rw [add_badShape known room prepared, plain]
              exact ⟨rfl, rfl⟩
          | ok vector =>
              have plain : add objectId embedding idx.untraced = _ := add_new known room prepared
              rw [add_new known room prepared, plain]
              cases called : Hnswlib.addItems vector idx.untraced.nextLabel
                  (!idx.untraced.freeIds.isEmpty) idx.untraced.index with
              | ok _ index =>
                  have logged : Hnswlib.addItems vector idx.nextLabel (!idx.freeIds.isEmpty)
                    idx.index = _ := Traced.log_ok called
                  rw [logged]
                  refine ⟨rfl, ?_⟩
                  simp only [EStateResult.state_ok, indexed, takeLabel_untraced]
                  rfl
              | error e index =>
                  have logged : Hnswlib.addItems vector idx.nextLabel (!idx.freeIds.isEmpty)
                    idx.index = _ := Traced.log_error called
                  rw [logged]
                  refine ⟨rfl, ?_⟩
                  simp only [EStateResult.state_error, takeLabel_untraced]
                  rfl

theorem search_untraced (idx : HNSWIndex (Traced η)) (query : NdArray) (k : Int)
    (threshold : Rat) : idx.untraced.search query k threshold = idx.search query k threshold := by
  have collected : ∀ rows results, idx.untraced.collect k.toNat threshold rows results =
      idx.collect k.toNat threshold rows results := by
    intro rows
    induction rows with
    | nil => exact fun _ => rfl
    | cons row rows ih =>
        intro results
        simp only [collect, ih]
        rfl
  unfold search
  simp only [collected]
  rfl

/-- Keeping the log changes nothing. -/
theorem exec_unlogged (idx : HNSWIndex (Traced η)) (call : IndexCall) :
    Unlogged idx (exec call) (exec call) := by
  cases call with
  | add objectId embedding =>
      exact (add_unlogged idx objectId embedding).wrap fun _ => IndexReply.none
  | search query k threshold =>
      refine ⟨?_, ?_⟩
      · change EStateResult.outcome ((raising (idx.search query k threshold) >>= fun rows =>
          pure (IndexReply.results rows)) idx) = EStateResult.outcome
            ((raising (idx.untraced.search query k threshold) >>= fun rows =>
              pure (IndexReply.results rows)) idx.untraced)
        rw [search_untraced]
        cases idx.search query k threshold <;> rfl
      · rw [exec_search, exec_search]
  | remove objectId => exact (remove_unlogged idx objectId).wrap IndexReply.removed

theorem outcomes_unlogged (idx : HNSWIndex (Traced η)) (calls : List IndexCall) :
    outcomes exec idx calls = outcomes exec idx.untraced calls :=
  outcomes_related (R := fun s t => s.untraced = t)
    (fun s _ call _ same => same ▸ exec_unlogged s call) rfl

end HNSWIndex

/-- Whatever is added, searched and removed while hnswlib does not raise, the labels are kept
    track of and hnswlib is well used; an unknown id with a row is refused exactly by a full
    index, and an addition that raises changes nothing. -/
theorem label_bookkeeping {η : Type} [Hnswlib η] [PyRuntime] {dim maxElements : Int}
    {idx : HNSWIndex (Traced η)} (built : HNSWIndex.new dim maxElements = .ok idx)
    (calls : List IndexCall)
    (returned : (drive HNSWIndex.exec idx calls).index.raised = false) :
    let reached := drive HNSWIndex.exec idx calls
    reached.Logged ∧ reached.dim = dim ∧ reached.maxElements = maxElements ∧
      ∀ objectId embedding,
        (EStateResult.state (HNSWIndex.add objectId embedding reached)).index.raised = false →
        (reached.objectToId.get? objectId = none → embedding.IsRow reached.dim →
          ((∃ e s, HNSWIndex.add objectId embedding reached = .error e s) ↔
            reached.size = reached.maxElements)) ∧
          ∀ e s, HNSWIndex.add objectId embedding reached = .error e s → s = reached := by
  intro reached
  obtain ⟨logged, -⟩ := HNSWIndex.Logged.new built
  obtain ⟨-, -, sameDim, sameCapacity⟩ := HNSWIndex.new_eq_ok built
  have follows : HNSWIndex.Follows idx reached := .run calls returned
  refine ⟨follows.logged logged, ?_, ?_, (follows.logged logged).addition⟩
  · rw [follows.dim, sameDim]
  · rw [follows.maxElements, sameCapacity]

section

open Reference

/-- A label is freed and handed out again; the id after the second is refused. -/
theorem label_bookkeeping_full :
    let reached := drive HNSWIndex.exec (HNSWIndex.mk 2 2
        (Hnswlib.initIndex 2 2 : Traced FlatIndex) .empty .empty [] 0 (by decide) (by decide))
      [.add "a" (array [1, 0]), .remove "a", .add "b" (array [0, 1]), .add "c" (array [1, 0])]
    reached.Logged ∧ ∃ e s, HNSWIndex.add "d" (array [0, 1]) reached = .error e s := by
  obtain ⟨logged, -, -, addition⟩ :=
    @label_bookkeeping FlatIndex _ _ 2 2 _ rfl
      [.add "a" (array [1, 0]), .remove "a", .add "b" (array [0, 1]), .add "c" (array [1, 0])]
      (by decide +kernel)
  have full := (addition "d" (array [0, 1]) (by decide +kernel)).1 (by decide +kernel) (Or.inl rfl)
  exact ⟨logged, full.mpr (by decide +kernel)⟩

end

end IntelliL3
