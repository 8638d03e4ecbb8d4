import IntelliL3.Core.S3Agreement

/-! # Backends as maps

What all backends have in common: a call changes the keys it names and no other,
and a deletion succeeds. The in-memory backend, S3 and the backend whose writes
fail are such maps.
-/

namespace IntelliL3

open Lib

/-- A readable backend that can hold any objects and changes them key by key. -/
class MapBackend (β : Type) (Bytes : outParam Type) [StorageBackend (EStateM PyError β) Bytes]
    extends ReadableBackend β Bytes where
  hold : MemoryBackend Bytes → β
  view_hold : ∀ b, view (hold b) = b
  put_other : ∀ key data (b : β) {other}, other ≠ key →
    (view (EStateResult.state
      ((StorageBackend.put key data : EStateM PyError β Unit) b))).get other = (view b).get other
  delete_view : ∀ key (b : β), ∃ existed b',
    (StorageBackend.delete key : EStateM PyError β Bool) b = .ok existed b' ∧
      ∀ other, (view b').get other = if key = other then none else (view b).get other
  deleteMany_view : ∀ keys (b : β), ∃ count b',
    (StorageBackend.deleteMany keys : EStateM PyError β Nat) b = .ok count b' ∧
      ∀ other, (view b').get other = if other ∈ keys then none else (view b).get other

section

variable {β Bytes : Type} [StorageBackend (EStateM PyError β) Bytes]

/-- The body of the default `delete_many`. -/
private def deleteOne (count : Nat) (key : String) : EStateM PyError β Nat := do
  if ← StorageBackend.delete key then pure (count + 1) else pure count

/-- The default `delete_many` deletes its keys one after the other. -/
private theorem foldlM_deleteOne {view : β → MemoryBackend Bytes}
    (delete : ∀ key (b : β), ∃ existed b',
      (StorageBackend.delete key : EStateM PyError β Bool) b = .ok existed b' ∧
        ∀ other, (view b').get other = if key = other then none else (view b).get other)
    (keys : List String) (count : Nat) (b : β) :
    ∃ count' b', keys.foldlM deleteOne count b = .ok count' b' ∧
      ∀ other, (view b').get other = if other ∈ keys then none else (view b).get other := by
  induction keys generalizing count b with
  | nil => exact ⟨count, b, rfl, fun _ => (if_neg List.not_mem_nil).symm⟩
  | cons key rest ih =>
      obtain ⟨existed, m, first, erased⟩ := delete key b
      obtain ⟨count', b', later, rest_erased⟩ := ih (if existed then count + 1 else count) m
      refine ⟨count', b', ?_, fun other => ?_⟩
      · rw [List.foldlM_cons, bind_run, deleteOne, bind_run, first]
        cases existed <;> exact later
      · rw [rest_erased, erased]
        by_cases here : other ∈ rest
        · simp [here]
        · simp [here, eq_comm]

end

variable {Bytes : Type}

instance : MapBackend (MemoryBackend Bytes) Bytes where
  hold := id
  view_hold _ := rfl
  put_other key data b other differ :=
    (b.get_put key data other).trans (if_neg (Ne.symm differ))
  delete_view key b := ⟨_, _, rfl, b.get_delete key⟩
  deleteMany_view keys b :=
    foldlM_deleteOne (fun key b => ⟨_, _, rfl, b.get_delete key⟩) keys 0 b

instance : MapBackend (FaultyBackend Bytes) Bytes where
  hold b := ⟨b, []⟩
  view_hold _ := rfl
  put_other key data b other differ := by
    obtain ⟨inner, faults⟩ := b
    have written := (inner.get_put key data other).trans (if_neg (Ne.symm differ))
    cases faults with
    | nil => exact written
    | cons fault later =>
        cases fault with
        | none => exact written
        | some e => rfl
  delete_view key b := ⟨_, _, rfl, b.inner.get_delete key⟩
  deleteMany_view keys b :=
    foldlM_deleteOne (fun key b => ⟨_, _, rfl, b.inner.get_delete key⟩) keys 0 b

namespace S3Backend

/-- The objects of the bucket. -/
def held (self : S3Backend Bytes) : MemoryBackend Bytes := ⟨self.bucket.objects⟩

instance : MapBackend (S3Backend Bytes) Bytes where
  view := held
  get_view key b := b.get_run key
  listKeys_view p b := by
    have same : SameObjects b.held b := fun _ => rfl
    rw [same.listKeys]
    exact b.listKeys_run p
  hold b := ⟨⟨b.objects⟩⟩
  view_hold _ := rfl
  put_other key data b other differ :=
    (b.held.get_put key data other).trans (if_neg (Ne.symm differ))
  delete_view key b := ⟨_, _, b.delete_run key, b.held.get_delete key⟩
  deleteMany_view keys b :=
    ⟨_, _, b.deleteMany_run keys, Dict.get?_foldl_erase b.bucket.objects keys⟩

end S3Backend

end IntelliL3
