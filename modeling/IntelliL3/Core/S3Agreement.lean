import IntelliL3.Core.Reference
import IntelliL3.Storage.S3Backend

/-! # Both backends side by side

The same calls on the in-memory backend and on S3: they always leave the same
objects, and they answer alike but for the count of a `delete_many`, which S3
takes over keys that are not there.
-/

namespace IntelliL3

open Lib

/-- A call of the backend interface. -/
inductive BackendCall (Bytes : Type) where
  | put (key : String) (data : Bytes)
  | get (key : String)
  | delete (key : String)
  | deleteMany (keys : List String)
  | existsKey (key : String)
  | listKeys (p : String)

inductive BackendReply (Bytes : Type) where
  | done
  | read (data : Option Bytes)
  | existed (existed : Bool)
  | deleted (count : Nat)
  | listed (keys : List String)

def BackendCall.exec {β Bytes : Type} [StorageBackend (EStateM PyError β) Bytes] :
    BackendCall Bytes → EStateM PyError β (BackendReply Bytes)
  | .put key data => do StorageBackend.put key data; return .done
  | .get key => do return .read (← StorageBackend.get key)
  | .delete key => do return .existed (← StorageBackend.delete key)
  | .deleteMany keys => do return .deleted (← StorageBackend.deleteMany keys)
  | .existsKey key => do return .existed (← StorageBackend.existsKey key)
  | .listKeys p => do return .listed (← StorageBackend.listKeys p)

section

variable {Bytes : Type}

/-- The two backends hold the same bytes under every key. -/
def SameObjects (b : MemoryBackend Bytes) (s : S3Backend Bytes) : Prop :=
  ∀ key, b.get key = s.object key

/-! ## Deleting many keys -/

theorem Lib.Dict.get?_foldl_erase {κ ν : Type} [DecidableEq κ] (d : Dict κ ν) (keys : List κ)
    (k : κ) : (keys.foldl Dict.erase d).get? k = if k ∈ keys then none else d.get? k := by
  induction keys generalizing d with
  | nil => simp
  | cons key rest ih =>
      rw [List.foldl_cons, ih, Dict.get?_erase]
      by_cases later : k ∈ rest
      · simp [later]
      · by_cases here : key = k
        · simp [here]
        · simp [later, here, Ne.symm here]

namespace MemoryBackend

/-- The body of the default `delete_many`. -/
private def countDeleted (count : Nat) (key : String) :
    EStateM PyError (MemoryBackend Bytes) Nat := do
  if ← StorageBackend.delete key then pure (count + 1) else pure count

private theorem countDeleted_run (b : MemoryBackend Bytes) (count : Nat) (key : String) :
    countDeleted count key b =
      .ok (if (b.get key).isSome then count + 1 else count) (b.delete key) := by
  have erased : (StorageBackend.delete key : EStateM PyError (MemoryBackend Bytes) Bool) b =
      .ok (b.existsKey key) (b.delete key) := rfl
  rw [countDeleted, bind_run, erased, existsKey_eq]
  cases (b.get key).isSome <;> rfl

private theorem present_after_delete (b : MemoryBackend Bytes) (key : String)
    (rest : List String) :
    (∀ k ∈ rest, ((b.delete key).get k).isSome) ↔
      key ∉ rest ∧ ∀ k ∈ rest, (b.get k).isSome := by
  simp only [get_delete]
  constructor
  · intro every
    refine ⟨fun again => by simpa using every key again, fun k member => ?_⟩
    have held := every k member
    split at held
    · cases held
    · exact held
  · rintro ⟨once, every⟩ k member
    have differ : key ≠ k := fun same => once (by rw [same]; exact member)
    rw [if_neg differ]
    exact every k member

private theorem foldlM_countDeleted (keys : List String) (b : MemoryBackend Bytes) (n : Nat) :
    ∃ count, keys.foldlM countDeleted n b =
        .ok (n + count) ⟨keys.foldl Dict.erase b.objects⟩ ∧ count ≤ keys.length ∧
      (count = keys.length ↔ keys.Nodup ∧ ∀ key ∈ keys, (b.get key).isSome) := by
  induction keys generalizing b n with
  | nil => exact ⟨0, rfl, Nat.le_refl _, by simp⟩
  | cons key rest ih =>
      rw [List.foldlM_cons, bind_run, countDeleted_run, List.length_cons, List.nodup_cons,
        List.forall_mem_cons]
      cases found : (b.get key).isSome with
      | true =>
          obtain ⟨count, ran, few, all⟩ := ih (b.delete key) (n + 1)
          refine ⟨count + 1, ?_, Nat.succ_le_succ few, ?_⟩
          · rw [if_pos rfl, Nat.add_comm count, ← Nat.add_assoc]
            exact ran
          · rw [Nat.add_right_cancel_iff, all, present_after_delete]
            tauto
      | false =>
          obtain ⟨count, ran, few, -⟩ := ih (b.delete key) n
          refine ⟨count, ran, Nat.le_succ_of_le few, ?_⟩
          constructor
          · intro same
            omega
          · rintro ⟨-, held, -⟩
            cases held

/-- The default `delete_many` counts the keys it finds, one after the other. -/
theorem deleteMany_run (b : MemoryBackend Bytes) (keys : List String) :
    ∃ count, (StorageBackend.deleteMany keys : EStateM PyError (MemoryBackend Bytes) Nat) b =
        .ok count ⟨keys.foldl Dict.erase b.objects⟩ ∧
      (count = keys.length ↔ keys.Nodup ∧ ∀ key ∈ keys, (b.get key).isSome) := by
  obtain ⟨count, ran, -, all⟩ := foldlM_countDeleted keys b 0
  rw [Nat.zero_add] at ran
  exact ⟨count, ran, all⟩

end MemoryBackend

/-! ## One call -/

namespace SameObjects

variable {b : MemoryBackend Bytes} {s : S3Backend Bytes}

theorem isSome (same : SameObjects b s) (key : String) :
    (s.object key).isSome = b.existsKey key := by
  rw [← same key, MemoryBackend.existsKey_eq]

theorem put (same : SameObjects b s) (key : String) (data : Bytes) :
    SameObjects (b.put key data) ⟨⟨s.bucket.objects.set key data⟩⟩ := by
  intro k
  rw [MemoryBackend.get_put, same k]
  exact (s.bucket.objects.get?_set key data k).symm

theorem deleteMany (same : SameObjects b s) (keys : List String) :
    SameObjects ⟨keys.foldl Dict.erase b.objects⟩
      ⟨⟨keys.foldl Dict.erase s.bucket.objects⟩⟩ := by
  intro k
  change (keys.foldl Dict.erase b.objects).get? k =
    (keys.foldl Dict.erase s.bucket.objects).get? k
  rw [Dict.get?_foldl_erase, Dict.get?_foldl_erase]
  exact congrArg (fun held => if k ∈ keys then none else held) (same k)

theorem listKeys (same : SameObjects b s) (p : String) :
    b.listKeys p = sorted (s.bucket.objects.keys.filter fun key => startsWith key p) := by
  have one : b.listKeys p = sorted (b.objects.keys.filter fun key => startsWith key p) := by
    unfold MemoryBackend.listKeys
    split
    · next empty =>
        subst empty
        have every : b.objects.keys.filter (fun key => startsWith key "") = b.objects.keys :=
          List.filter_eq_self.mpr fun _ _ => rfl
        rw [every]
    · rfl
  rw [one, sorted_eq_iff]
  refine List.Perm.filter _ ((List.perm_ext_iff_of_nodup b.objects.keys_nodup
    s.bucket.objects.keys_nodup).mpr fun key => ?_)
  rw [Dict.mem_keys_iff, Dict.mem_keys_iff]
  exact iff_of_eq (congrArg (·.isSome = true) (same key))

/-- After any call the backends hold the same again. -/
theorem step (same : SameObjects b s) (c : BackendCall Bytes) :
    SameObjects (EStateResult.state (c.exec b)) (EStateResult.state (c.exec s)) := by
  cases c with
  | put key data => exact same.put key data
  | get key =>
      have ran := S3Backend.get_run s key
      simp only [BackendCall.exec, bind_run, StorageBackend.get, ran]
      exact same
  | delete key =>
      have ran := S3Backend.delete_run s key
      simp only [BackendCall.exec, bind_run, StorageBackend.delete, ran]
      exact same.deleteMany [key]
  | deleteMany keys =>
      obtain ⟨count, counted, -⟩ := b.deleteMany_run keys
      have ran : (StorageBackend.deleteMany keys : EStateM PyError (S3Backend Bytes) Nat) s = _ :=
        S3Backend.deleteMany_run s keys
      simp only [BackendCall.exec, bind_run, counted, ran]
      exact same.deleteMany keys
  | existsKey key =>
      have ran := S3Backend.existsKey_run s key
      simp only [BackendCall.exec, bind_run, StorageBackend.existsKey, ran]
      exact same
  | listKeys p =>
      have ran := S3Backend.listKeys_run s p
      simp only [BackendCall.exec, bind_run, StorageBackend.listKeys, ran]
      exact same

/-- Only a `delete_many` may be answered differently: S3 counts every key it was
    given. -/
theorem outcome_iff (same : SameObjects b s) (c : BackendCall Bytes) :
    EStateResult.outcome (c.exec b) = EStateResult.outcome (c.exec s) ↔
      ∀ keys, c = .deleteMany keys → keys.Nodup ∧ ∀ key ∈ keys, (b.get key).isSome := by
  cases c with
  | deleteMany keys =>
      obtain ⟨count, counted, all⟩ := b.deleteMany_run keys
      have ran : (StorageBackend.deleteMany keys : EStateM PyError (S3Backend Bytes) Nat) s = _ :=
        S3Backend.deleteMany_run s keys
      simp only [BackendCall.exec, bind_run, counted, ran]
      change Except.ok (BackendReply.deleted count) = .ok (.deleted keys.length) ↔ _
      simp only [Except.ok.injEq, BackendReply.deleted.injEq, all, BackendCall.deleteMany.injEq,
        forall_eq']
  | put key data => exact iff_of_true rfl fun _ other => by cases other
  | get key =>
      refine iff_of_true ?_ fun _ other => by cases other
      have ran := S3Backend.get_run s key
      simp only [BackendCall.exec, bind_run, StorageBackend.get, ran, ← same key]
      rfl
  | delete key =>
      refine iff_of_true ?_ fun _ other => by cases other
      have ran := S3Backend.delete_run s key
      simp only [BackendCall.exec, bind_run, StorageBackend.delete, ran, same.isSome]
      rfl
  | existsKey key =>
      refine iff_of_true ?_ fun _ other => by cases other
      have ran := S3Backend.existsKey_run s key
      simp only [BackendCall.exec, bind_run, StorageBackend.existsKey, ran, same.isSome]
      rfl
  | listKeys p =>
      refine iff_of_true ?_ fun _ other => by cases other
      have ran := S3Backend.listKeys_run s p
      simp only [BackendCall.exec, bind_run, StorageBackend.listKeys, ran, ← same.listKeys]
      rfl

end SameObjects

end

/-! ## Deletions of the store -/

namespace UnifiedObjectStore

variable {β η Bytes : Type} [StorageBackend (EStateM PyError β) Bytes] [Hnswlib η]

/-- What a pair deletion answers, when its keys are erased without an exception. -/
private theorem outcome_deletePairObject {self : UnifiedObjectStore β η}
    {p objectId ext : String} {existed : Bool} {backend : β}
    (erased : (deletePair p objectId ext : StoreM β η Bool) self =
      .ok existed { self with backend }) (X : ObjectType) :
    EStateResult.outcome (deletePairObject p objectId ext X self) =
      if existed then
        (EStateResult.outcome (MetadataStore.onObjectRemoved X objectId self.metadata)).map
          fun _ => true
      else .ok false := by
  rw [deletePairObject, bind_run, erased]
  cases existed with
  | false => rfl
  | true =>
      simp only [if_true, bind_run, onMetadata, zoom_run]
      cases MetadataStore.onObjectRemoved X objectId self.metadata <;> rfl

/-- Over S3 every pair deletion reports that there was an object. -/
theorem outcome_delete_s3 (self : UnifiedObjectStore (S3Backend Bytes) η) {X : ObjectType}
    (pair : X.dataExt.isSome) (objectId : String) :
    EStateResult.outcome (delete X objectId self) =
      (EStateResult.outcome (MetadataStore.onObjectRemoved X objectId self.metadata)).map
        fun _ => true := by
  have erased : ∀ p ext, ∃ backend, (deletePair p objectId ext :
      StoreM (S3Backend Bytes) η Bool) self = .ok true { self with backend } := by
    intro p ext
    have ran : (StorageBackend.deleteMany [metaKey p objectId, dataKey p objectId ext] :
        StoreM (S3Backend Bytes) η Nat) self = .ok 2 { self with backend :=
          ⟨⟨[metaKey p objectId, dataKey p objectId ext].foldl Dict.erase
            self.backend.bucket.objects⟩⟩ } := by
      change onBackend (S3Backend.deleteMany _) self = _
      rw [onBackend, zoom_run, S3Backend.deleteMany_run]
      rfl
    exact ⟨_, by rw [deletePair, bind_run, ran]; rfl⟩
  cases X with
  | kvCache | rag | semanticCache | planCache =>
      obtain ⟨backend, erased⟩ := erased _ _
      exact outcome_deletePairObject erased _
  | agentWorkflow | agentStep | toolCallArtifact | workflowTrace => cases pair

theorem outcome_delete (self : UnifiedObjectStore (MemoryBackend Bytes) η) (X : ObjectType)
    (objectId : String) :
    EStateResult.outcome (delete X objectId self) =
      if self.backend.touchesKeys self.config X objectId then
        (EStateResult.outcome (MetadataStore.onObjectRemoved X objectId self.metadata)).map
          fun _ => true
      else .ok false := by
  rw [delete_eq]
  cases self.backend.touchesKeys self.config X objectId with
  | false => rfl
  | true =>
      simp only [if_true]
      cases MetadataStore.onObjectRemoved X objectId self.metadata <;> rfl

end UnifiedObjectStore

/-- The same calls leave the same objects on both backends. They are answered alike
    exactly when every `delete_many` is given distinct keys that are all there; and
    a pair deletion of a store is answered alike exactly when a key of its object is
    there. -/
theorem s3_agrees_iff {Bytes η : Type} [Hnswlib η] (objects : Dict String Bytes)
    (calls : List (BackendCall Bytes)) :
    SameObjects (drive BackendCall.exec ⟨objects⟩ calls)
        (drive BackendCall.exec ⟨⟨objects⟩⟩ calls) ∧
      (outcomes BackendCall.exec (⟨objects⟩ : MemoryBackend Bytes) calls =
          outcomes BackendCall.exec (⟨⟨objects⟩⟩ : S3Backend Bytes) calls ↔
        ∀ pre keys post, calls = pre ++ .deleteMany keys :: post → keys.Nodup ∧
          ∀ key ∈ keys, ((drive BackendCall.exec (⟨objects⟩ : MemoryBackend Bytes) pre).get
            key).isSome) ∧
      ∀ (config : L3Config) (metadata : MetadataStore η) (X : ObjectType) (objectId : String),
        X.dataExt.isSome →
        (EStateResult.outcome (UnifiedObjectStore.delete X objectId (.new
            (drive BackendCall.exec (⟨objects⟩ : MemoryBackend Bytes) calls) config metadata)) =
          EStateResult.outcome (UnifiedObjectStore.delete X objectId (.new
            (drive BackendCall.exec (⟨⟨objects⟩⟩ : S3Backend Bytes) calls) config metadata)) ↔
        (drive BackendCall.exec (⟨objects⟩ : MemoryBackend Bytes) calls).touchesKeys config X
          objectId) := by
  have start : SameObjects (⟨objects⟩ : MemoryBackend Bytes) ⟨⟨objects⟩⟩ := fun _ => rfl
  have related := fun pre => drive_related (fun _ _ c same => same.step c) start pre
  refine ⟨related calls, ?_, ?_⟩
  · rw [outcomes_eq_iff]
    constructor
    · intro alike pre keys post split
      exact ((related pre).outcome_iff _).mp (alike pre _ post split) keys rfl
    · intro every pre c post split
      refine ((related pre).outcome_iff c).mpr fun keys same => ?_
      exact every pre keys post (by rw [split, same])
  · intro config metadata X objectId pair
    rw [UnifiedObjectStore.outcome_delete, UnifiedObjectStore.outcome_delete_s3 _ pair]
    by_cases touched : MemoryBackend.touchesKeys (drive BackendCall.exec ⟨objects⟩ calls) config X
      objectId = true
    · exact iff_of_true (if_pos touched) touched
    · refine iff_of_false (fun same => ?_) touched
      have missed := (if_neg touched).symm.trans same
      change _ = Except.map _ (EStateResult.outcome
        (MetadataStore.onObjectRemoved X objectId metadata)) at missed
      cases removed : EStateResult.outcome (MetadataStore.onObjectRemoved X objectId metadata) <;>
        rw [removed] at missed <;> cases missed

open Reference in
/-- A key that is not there is counted by S3 and not by the in-memory backend, and a
    block that was never put is deleted from one of them. -/
theorem s3_counts_missing_keys :
    ¬ (∀ calls : List (BackendCall Encoded),
        outcomes BackendCall.exec (⟨.empty⟩ : MemoryBackend Encoded) calls =
          outcomes BackendCall.exec (⟨⟨.empty⟩⟩ : S3Backend Encoded) calls) ∧
      EStateResult.outcome (UnifiedObjectStore.delete .kvCache "a" store) = .ok false ∧
      EStateResult.outcome (UnifiedObjectStore.delete .kvCache "a"
        (.new (⟨⟨.empty⟩⟩ : S3Backend Encoded) .default metadata)) = .ok true := by
  refine ⟨fun alike => ?_, rfl, rfl⟩
  have first := alike [.deleteMany ["a"]]
  rw [outcomes_eq_iff] at first
  cases first [] (.deleteMany ["a"]) [] rfl

end IntelliL3
