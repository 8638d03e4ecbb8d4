import IntelliL3.Core.Observations

/-! # Failed pair writes

A pair is written in two steps, and when the second fails the metadata key is
deleted again. After a failure of the first step the backend is as it was; after
one of the second it is as it was without the metadata key, whoever wrote that.
-/

namespace IntelliL3

open Lib

namespace FaultyBackend

variable {Bytes : Type}

/-- The next write fails. -/
def FailsFirst (self : FaultyBackend Bytes) : Prop :=
  ∃ error later, self.faults = some error :: later

/-- The next write succeeds and the one after it fails. -/
def FailsSecond (self : FaultyBackend Bytes) : Prop :=
  ∃ error later, self.faults = none :: some error :: later

end FaultyBackend

namespace UnifiedObjectStore

variable {η Bytes : Type}

theorem putPair_failsFirst {self : UnifiedObjectStore (FaultyBackend Bytes) η} {e : PyError}
    {later : List (Option PyError)} (faults : self.backend.faults = some e :: later)
    (metaKey : String) (metaBytes : Bytes) (dataKey : String) (dataBytes : Bytes) :
    (putPair metaKey metaBytes dataKey dataBytes : StoreM (FaultyBackend Bytes) η Unit) self =
      .error e { self with backend := { self.backend with faults := later } } := by
  have refused : (StorageBackend.put metaKey metaBytes : StoreM (FaultyBackend Bytes) η Unit)
      self = .error e { self with backend := { self.backend with faults := later } } := by
    change onBackend (FaultyBackend.put metaKey metaBytes) self = _
    rw [onBackend, zoom_run, FaultyBackend.put]
    simp only [faults]
  rw [putPair, bind_run, refused]

theorem putPair_failsSecond {self : UnifiedObjectStore (FaultyBackend Bytes) η} {e : PyError}
    {later : List (Option PyError)} (faults : self.backend.faults = none :: some e :: later)
    (metaKey : String) (metaBytes : Bytes) (dataKey : String) (dataBytes : Bytes) :
    (putPair metaKey metaBytes dataKey dataBytes : StoreM (FaultyBackend Bytes) η Unit) self =
      .error e { self with
        backend := { inner := self.backend.inner.delete metaKey, faults := later } } := by
  have written : (StorageBackend.put metaKey metaBytes : StoreM (FaultyBackend Bytes) η Unit)
      self = .ok () { self with backend := {
        inner := self.backend.inner.put metaKey metaBytes, faults := some e :: later } } := by
    change onBackend (FaultyBackend.put metaKey metaBytes) self = _
    rw [onBackend, zoom_run, FaultyBackend.put]
    simp only [faults]
  rw [putPair, bind_run, written, ← MemoryBackend.delete_put _ _ metaBytes]
  rfl

section

variable [PyRuntime] [Serializer Bytes] [Hnswlib η]

/-- A pair put raises whatever its two writes raise, and leaves what they leave. -/
theorem put_of_putPair_error {self self' : UnifiedObjectStore (FaultyBackend Bytes) η}
    {X : ObjectType} {payload stamped : Payload X} {ext : String} {data : Bytes} {e : PyError}
    (pair : X.dataExt = some ext) (stamping : payload.stamp = .ok stamped)
    (bytes : stamped.dataBytes = some data)
    (failing : (putPair (metaKey (self.config.keyPrefix X) payload.objectId) stamped.metaBytes
      (dataKey (self.config.keyPrefix X) payload.objectId ext) data :
        StoreM (FaultyBackend Bytes) η Unit) self = .error e self') :
    put payload self = .error e self' := by
  cases X with
  | kvCache =>
      cases pair
      obtain ⟨block, key, value⟩ := payload
      obtain ⟨stamped', inner, same⟩ := bind_eq_ok.mp stamping
      cases same
      cases bytes
      rw [put, putKvBlock, bind_run, get_run]
      dsimp only
      rw [bind_run, inner, raising_ok]
      dsimp only
      exact bind_error failing _
  | rag =>
      cases pair
      obtain ⟨obj, embedding⟩ := payload
      obtain ⟨stamped', inner, same⟩ := bind_eq_ok.mp stamping
      cases same
      cases bytes
      rw [put, putRagObject, bind_run, get_run]
      dsimp only
      rw [bind_run, inner, raising_ok]
      dsimp only
      exact bind_error failing _
  | semanticCache =>
      cases pair
      obtain ⟨entry, embedding⟩ := payload
      obtain ⟨stamped', inner, same⟩ := bind_eq_ok.mp stamping
      cases same
      cases bytes
      rw [put, putSemanticEntry, bind_run, get_run]
      dsimp only
      rw [bind_run, inner, raising_ok]
      dsimp only
      exact bind_error failing _
  | planCache =>
      cases pair
      obtain ⟨entry, embedding⟩ := payload
      obtain ⟨stamped', inner, same⟩ := bind_eq_ok.mp stamping
      cases same
      cases bytes
      rw [put, putPlanCacheEntry, bind_run, get_run]
      dsimp only
      rw [bind_run, inner, raising_ok]
      dsimp only
      rw [PlanCacheEntry.stamp_planId inner]
      exact bind_error failing _
  | agentWorkflow | agentStep | toolCallArtifact | workflowTrace => cases pair

end

/-! ## Losing a metadata key -/

/-- No object with that metadata key is complete and let through by the Bloom filter. -/
def NotAnswered (self : UnifiedObjectStore (FaultyBackend Bytes) η) [PyRuntime] (key : String) :
    Prop :=
  ∀ X objectId, metaKey (self.config.keyPrefix X) objectId = key →
    self.metadata.mightExist objectId = true →
    self.backend.inner.complete self.config X objectId = false

variable [PyRuntime] [Serializer Bytes]

theorem sameGets_delete_iff (self : UnifiedObjectStore (FaultyBackend Bytes) η) (p : String)
    (objectId : String) (later : List (Option PyError)) :
    SameGets { self with backend := {
        inner := self.backend.inner.delete (metaKey p objectId), faults := later } } self ↔
      self.NotAnswered (metaKey p objectId) := by
  have gone : ∀ X other, metaKey (self.config.keyPrefix X) other = metaKey p objectId →
      (self.backend.inner.delete (metaKey p objectId)).read self.config X other = .ok none := by
    intro X other same
    rw [MemoryBackend.read_none_iff, MemoryBackend.complete, MemoryBackend.get_delete,
      if_pos same.symm]
    rfl
  constructor
  · intro same X other sameKey known
    have old := same X other 0
    rw [outcome_get, outcome_get] at old
    change (if self.metadata.mightExist other then
      ((self.backend.inner.delete (metaKey p objectId)).read self.config X other).map _
      else _) = (if self.metadata.mightExist other then
        (self.backend.inner.read self.config X other).map _ else _) at old
    rw [if_pos known, if_pos known, gone X other sameKey] at old
    exact (MemoryBackend.read_none_iff _ _ _ _).mp
      ((Payload.map_touch_none_iff _ _).mp old.symm)
  · intro unanswered X other now
    rw [outcome_get, outcome_get]
    change (if self.metadata.mightExist other then
      ((self.backend.inner.delete (metaKey p objectId)).read self.config X other).map _
      else _) = (if self.metadata.mightExist other then
        (self.backend.inner.read self.config X other).map _ else _)
    split
    · next known =>
        by_cases sameKey : metaKey (self.config.keyPrefix X) other = metaKey p objectId
        · rw [gone X other sameKey, (MemoryBackend.read_none_iff _ _ _ _).mpr
            (unanswered X other sameKey known)]
        · rw [MemoryBackend.read_congr]
          · rw [MemoryBackend.get_delete, if_neg (Ne.symm sameKey)]
          · intro ext pair
            rw [MemoryBackend.get_delete, if_neg (metaKey_ne_dataKey pair _ _ _ _)]
    · rfl

omit [PyRuntime] [Serializer Bytes] in
theorem sameLists_iff (self : UnifiedObjectStore (FaultyBackend Bytes) η)
    (inner : MemoryBackend Bytes) (later : List (Option PyError)) :
    SameLists { self with backend := { inner, faults := later } } self ↔
      ∀ X, inner.listed (self.config.keyPrefix X) =
        self.backend.inner.listed (self.config.keyPrefix X) := by
  refine forall_congr' fun X => ?_
  rw [list_eq, list_eq, EStateResult.outcome_ok, EStateResult.outcome_ok, Except.ok.injEq]
  exact Iff.rfl

end UnifiedObjectStore

open UnifiedObjectStore

/-- A put whose write fails raises. It leaves every get and listing as it was exactly
    when the first write failed, or there was no metadata key to lose, or losing it
    goes unnoticed: nothing under it was answered, and other keys give its names. -/
theorem failed_put_unnoticed_iff {η Bytes : Type} [PyRuntime] [Serializer Bytes] [Hnswlib η]
    (self : UnifiedObjectStore (FaultyBackend Bytes) η) {X : ObjectType} (payload : Payload X)
    {stamped : Payload X} (pair : X.dataExt.isSome)
    (stamping : payload.stamp = .ok stamped)
    (fails : self.backend.FailsFirst ∨ self.backend.FailsSecond) :
    ∃ e self', put payload self = .error e self' ∧
      ((SameGets self' self ∧ SameLists self' self) ↔
        self.backend.FailsFirst ∨
        self.backend.inner.get (metaKey (self.config.keyPrefix X) payload.objectId) = none ∨
        self.NotAnswered (metaKey (self.config.keyPrefix X) payload.objectId) ∧
          self.backend.inner.ListedAnyway self.config
            (metaKey (self.config.keyPrefix X) payload.objectId)) := by
  obtain ⟨ext, pair⟩ := Option.isSome_iff_exists.mp pair
  obtain ⟨data, bytes⟩ : ∃ data : Bytes, stamped.dataBytes = some data := by
    rw [← Option.isSome_iff_exists, MemoryBackend.dataBytes_isSome, pair]
    rfl
  rcases fails with first | second
  · obtain ⟨e, later, faults⟩ := first
    have failing := put_of_putPair_error pair stamping bytes (putPair_failsFirst faults _ _ _ _)
    refine ⟨e, _, failing, ⟨fun _ => Or.inl ⟨e, later, faults⟩, fun _ => ⟨?_, ?_⟩⟩⟩
    · intro Y other now
      rw [outcome_get, outcome_get]
      rfl
    · exact (self.sameLists_iff _ _).mpr fun _ => rfl
  · obtain ⟨e, later, faults⟩ := second
    have failing := put_of_putPair_error pair stamping bytes (putPair_failsSecond faults _ _ _ _)
    refine ⟨e, _, failing, ?_⟩
    rw [sameGets_delete_iff, sameLists_iff]
    have notFirst : ¬ self.backend.FailsFirst := by
      rintro ⟨e', later', faults'⟩
      rw [faults] at faults'
      cases faults'
    simp only [notFirst, false_or]
    cases held : self.backend.inner.get (metaKey (self.config.keyPrefix X) payload.objectId) with
    | none =>
        rw [MemoryBackend.delete_absent _ held]
        simp only [implies_true, and_true, true_or, iff_true]
        intro Y other same _
        rw [MemoryBackend.complete, same, held]
        rfl
    | some bytes =>
        have present := Option.isSome_iff_exists.mpr ⟨bytes, held⟩
        rw [MemoryBackend.listed_delete_iff present]
        simp only [reduceCtorEq, false_or]

section

open Reference

private def flakyStore (faults : List (Option PyError)) :
    UnifiedObjectStore (FaultyBackend Encoded) FlatIndex :=
  .new { inner := .empty, faults } .default metadata

private def block : Payload .kvCache := (kvBlock "a" [1, 2], array [1], array [2])

/-- Over a new id, a failure of the second write is undone. -/
theorem failed_put_unnoticed_new : ∃ e self',
    put block (flakyStore [none, some (.connectionError "down")]) = .error e self' ∧
      SameGets self' (flakyStore [none, some (.connectionError "down")]) ∧
      SameLists self' (flakyStore [none, some (.connectionError "down")]) := by
  obtain ⟨e, self', raised, unnoticed⟩ :=
    failed_put_unnoticed_iff (flakyStore [none, some (.connectionError "down")]) block rfl rfl
      (Or.inr ⟨_, _, rfl⟩)
  exact ⟨e, self', raised, unnoticed.mpr (Or.inr (Or.inl rfl))⟩

/-- The store once a block is written; the second write of the next put fails. -/
private def stored : UnifiedObjectStore (FaultyBackend Encoded) FlatIndex :=
  EStateResult.state
    (put block (flakyStore [none, none, none, some (.connectionError "down")]))

/-- Over a stored id, a failure of the second write loses the stored block. -/
theorem failed_overwrite_loses_block : ∃ e self',
    put block stored = .error e self' ∧ ¬ SameGets self' stored := by
  have failing : put block stored = .error (.connectionError "down") _ :=
    put_of_putPair_error rfl rfl rfl (putPair_failsSecond rfl _ _ _ _)
  refine ⟨_, _, failing, fun same => ?_⟩
  have unanswered := (stored.sameGets_delete_iff _ _ _).mp same .kvCache "a" rfl (by decide)
  exact absurd unanswered (by decide)

end

end IntelliL3
