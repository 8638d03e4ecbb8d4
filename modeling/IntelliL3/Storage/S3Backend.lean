import IntelliL3.Storage.Backend

/-! # S3 backend

`storage/s3_backend.py` over a bucket that is a map from keys to bytes: deleting
a missing key is no error, one request deletes at most a thousand keys, and a
listing comes in pages of sorted keys.
-/

namespace IntelliL3

open Lib

/-! ## The client -/

/-- What a bucket holds. -/
structure S3Bucket (Bytes : Type) where
  objects : Dict String Bytes

/-- The slice `[i * size : (i + 1) * size]` -/
def slice {α : Type} (size : Nat) (items : List α) (i : Nat) : List α :=
  (items.drop (i * size)).take size

/-- The indices of `range(0, len(items), size)`, divided by `size`. -/
def sliceIndices {α : Type} (size : Nat) (items : List α) : List Nat :=
  List.range ((items.length + size - 1) / size)

namespace S3Bucket

variable {Bytes : Type}

def putObject (key : String) (body : Bytes) : EStateM PyError (S3Bucket Bytes) Unit :=
  modify fun self => ⟨self.objects.set key body⟩

def getObject (key : String) : EStateM PyError (S3Bucket Bytes) Bytes := do
  match (← get).objects.get? key with
  | some body => return body
  | none => throw (.clientError "NoSuchKey")

def headObject (key : String) : EStateM PyError (S3Bucket Bytes) Unit := do
  if (← get).objects.contains key then return () else throw (.clientError "404")

def deleteObject (key : String) : EStateM PyError (S3Bucket Bytes) Unit :=
  modify fun self => ⟨self.objects.erase key⟩

/-- `delete_objects`: answers the keys it could not delete. A missing key counts
    as deleted. -/
def deleteObjects (keys : List String) : EStateM PyError (S3Bucket Bytes) (List String) := do
  if 1000 < keys.length then throw (.clientError "MalformedXML")
  else
    modify fun self => ⟨keys.foldl Dict.erase self.objects⟩
    return []

/-- The pages of `list_objects_v2`. -/
def listObjectsV2 (p : String) : EStateM PyError (S3Bucket Bytes) (List (List String)) := do
  let keys := sorted ((← get).objects.keys.filter fun key => startsWith key p)
  return (sliceIndices 1000 keys).map (slice 1000 keys)

end S3Bucket

/-! ## The backend -/

structure S3Backend (Bytes : Type) where
  bucket : S3Bucket Bytes

namespace S3Backend

variable {Bytes : Type}

/-- `self._client` -/
def client (action : EStateM PyError (S3Bucket Bytes) α) : EStateM PyError (S3Backend Bytes) α :=
  zoom bucket (fun self bucket => { self with bucket }) action

def put (key : String) (data : Bytes) : EStateM PyError (S3Backend Bytes) Unit :=
  client (S3Bucket.putObject key data)

def get (key : String) : EStateM PyError (S3Backend Bytes) (Option Bytes) :=
  tryCatch (do return some (← client (S3Bucket.getObject key))) fun
    | .clientError code =>
        if code = "NoSuchKey" ∨ code = "404" then return none else throw (.clientError code)
    | e => throw e

def existsKey (key : String) : EStateM PyError (S3Backend Bytes) Bool :=
  tryCatch (do client (S3Bucket.headObject key); return true) fun
    | .clientError _ => return false
    | e => throw e

def delete (key : String) : EStateM PyError (S3Backend Bytes) Bool := do
  let existed ← existsKey key
  client (S3Bucket.deleteObject key)
  return existed

/-- One request of `delete_many`: what is counted are its keys, less those it answers
    as errors. -/
def deleteBatch (keys : List String) (deleted i : Nat) :
    EStateM PyError (S3Backend Bytes) Nat := do
  let batch := slice 1000 keys i
  let errors ← client (S3Bucket.deleteObjects batch)
  return deleted + (batch.length - errors.length)

def deleteMany (keys : List String) : EStateM PyError (S3Backend Bytes) Nat :=
  if keys = [] then return 0
  else (sliceIndices 1000 keys).foldlM (deleteBatch keys) 0

def listKeys (p : String) : EStateM PyError (S3Backend Bytes) (List String) := do
  let pages ← client (S3Bucket.listObjectsV2 p)
  return pages.flatten

instance : StorageBackend (EStateM PyError (S3Backend Bytes)) Bytes where
  put := put
  get := get
  delete := delete
  deleteMany := deleteMany
  existsKey := existsKey
  listKeys := listKeys

end S3Backend

/-! ## What the requests do -/

private theorem flatMap_slice (size : Nat) {α : Type} (items : List α) (n : Nat) :
    (List.range n).flatMap (slice size items) = items.take (n * size) := by
  induction n with
  | zero => simp
  | succ n ih =>
      rw [List.range_succ, List.flatMap_append, ih, List.flatMap_singleton, slice, Nat.succ_mul,
        List.take_add]

/-- The slices put together are the whole list. -/
theorem flatMap_slices {size : Nat} (positive : 0 < size) {α : Type} (items : List α) :
    (sliceIndices size items).flatMap (slice size items) = items := by
  rw [sliceIndices, flatMap_slice, List.take_of_length_le]
  have rest := Nat.div_add_mod (items.length + size - 1) size
  have small := Nat.mod_lt (items.length + size - 1) positive
  rw [Nat.mul_comm] at rest
  omega

theorem length_slice_le (size : Nat) {α : Type} (items : List α) (i : Nat) :
    (slice size items i).length ≤ size := List.length_take_le _ _

namespace S3Backend

variable {Bytes : Type} (self : S3Backend Bytes)

/-- The value of a key, as the bucket has it. -/
def object (key : String) : Option Bytes := self.bucket.objects.get? key

theorem put_run (key : String) (data : Bytes) :
    put key data self = .ok () ⟨⟨self.bucket.objects.set key data⟩⟩ := rfl

theorem get_run (key : String) : get key self = .ok (self.object key) self := by
  have answer : client (S3Bucket.getObject key) self = match self.object key with
      | some body => .ok body self
      | none => .error (.clientError "NoSuchKey") self := by
    simp only [client, zoom_run, S3Bucket.getObject, bind_run, Lib.get_run, object]
    cases self.bucket.objects.get? key <;> rfl
  rw [get, tryCatch_run, bind_run, answer]
  cases self.object key <;> rfl

theorem existsKey_run (key : String) :
    existsKey key self = .ok (self.object key).isSome self := by
  have answer : client (S3Bucket.headObject key) self =
      if self.bucket.objects.contains key then .ok () self
      else .error (.clientError "404") self := by
    simp only [client, zoom_run, S3Bucket.headObject, bind_run, Lib.get_run]
    cases self.bucket.objects.contains key <;> rfl
  change _ = EStateM.Result.ok (self.bucket.objects.contains key) self
  rw [existsKey, tryCatch_run, bind_run, answer]
  cases self.bucket.objects.contains key <;> rfl

theorem delete_run (key : String) :
    delete key self = .ok (self.object key).isSome ⟨⟨self.bucket.objects.erase key⟩⟩ := by
  rw [delete, bind_run, existsKey_run]
  rfl

private theorem deleteObjects_run {keys : List String} (few : keys.length ≤ 1000) :
    client (S3Bucket.deleteObjects keys) self =
      .ok [] ⟨⟨keys.foldl Dict.erase self.bucket.objects⟩⟩ := by
  rw [client, zoom_run, S3Bucket.deleteObjects, if_neg (Nat.not_lt.mpr few)]
  rfl

/-- Every key asked for counts as deleted, whether it was there or not. -/
theorem deleteMany_run (keys : List String) :
    deleteMany keys self =
      .ok keys.length ⟨⟨keys.foldl Dict.erase self.bucket.objects⟩⟩ := by
  have requests : ∀ (indices : List Nat) (deleted : Nat) (s : S3Backend Bytes),
      indices.foldlM (deleteBatch keys) deleted s =
      .ok (deleted + (indices.flatMap (slice 1000 keys)).length)
        ⟨⟨(indices.flatMap (slice 1000 keys)).foldl Dict.erase s.bucket.objects⟩⟩ := by
    intro indices
    induction indices with
    | nil => intro deleted s; rfl
    | cons i rest ih =>
        intro deleted s
        rw [List.foldlM_cons, bind_run, deleteBatch, bind_run,
          deleteObjects_run s (length_slice_le 1000 keys i)]
        simp only [pure_run, ih, List.length_nil, Nat.sub_zero, List.flatMap_cons,
          List.length_append, List.foldl_append, Nat.add_assoc]
  unfold deleteMany
  split
  · next empty =>
      subst empty
      rfl
  · rw [requests, flatMap_slices (by decide)]
    simp only [Nat.zero_add]

theorem listKeys_run (p : String) :
    listKeys p self =
      .ok (sorted (self.bucket.objects.keys.filter fun key => startsWith key p)) self := by
  have pages : client (S3Bucket.listObjectsV2 p) self =
      .ok ((sliceIndices 1000 (sorted (self.bucket.objects.keys.filter fun key =>
        startsWith key p))).map (slice 1000 (sorted (self.bucket.objects.keys.filter fun key =>
          startsWith key p)))) self := rfl
  rw [listKeys, bind_run, pages]
  simp only [pure_run, ← List.flatMap_def, flatMap_slices (by decide : 0 < 1000)]

end S3Backend

end IntelliL3
