import Mathlib.Data.List.Sort
import Mathlib.Data.String.Basic
import IntelliL3.Lib.Run
import IntelliL3.Core.Types

/-! # Object backends

The interface of `storage/backend.py` over any monad that can speak to a
backend, the in-memory backend, and a backend whose writes fail on schedule.
-/

namespace IntelliL3

open Lib

class StorageBackend (m : Type → Type) [Monad m] (Bytes : outParam Type) where
  put : String → Bytes → m Unit
  get : String → m (Option Bytes)
  delete : String → m Bool
  deleteMany : List String → m Nat := fun keys =>
    keys.foldlM (fun count key => do if ← delete key then pure (count + 1) else pure count) 0
  existsKey : String → m Bool
  listKeys : String → m (List String)

/-- `key.startswith(p)` -/
def startsWith (key p : String) : Bool := p.toList.isPrefixOf key.toList

/-- `sorted(keys)`: Python orders strings by code point. -/
def sorted (keys : List String) : List String := keys.insertionSort (· ≤ ·)

theorem sorted_perm (keys : List String) : (sorted keys).Perm keys :=
  List.perm_insertionSort _ keys

/-- Sorting forgets the order, and nothing else. -/
theorem sorted_eq_iff (keys others : List String) :
    sorted keys = sorted others ↔ keys.Perm others := by
  constructor
  · intro same
    have perm := sorted_perm keys
    rw [same] at perm
    exact perm.symm.trans (sorted_perm others)
  · intro perm
    exact List.Perm.eq_of_sortedLE List.sortedLE_insertionSort List.sortedLE_insertionSort
      ((sorted_perm keys).trans (perm.trans (sorted_perm others).symm))

structure MemoryBackend (Bytes : Type) where
  objects : Dict String Bytes

namespace MemoryBackend

variable {Bytes : Type}

def empty : MemoryBackend Bytes := ⟨.empty⟩

def put (self : MemoryBackend Bytes) (key : String) (data : Bytes) : MemoryBackend Bytes :=
  ⟨self.objects.set key data⟩

def get (self : MemoryBackend Bytes) (key : String) : Option Bytes := self.objects.get? key

def delete (self : MemoryBackend Bytes) (key : String) : MemoryBackend Bytes :=
  ⟨self.objects.erase key⟩

def existsKey (self : MemoryBackend Bytes) (key : String) : Bool := self.objects.contains key

def listKeys (self : MemoryBackend Bytes) (p : String) : List String :=
  if p = "" then sorted self.objects.keys
  else sorted (self.objects.keys.filter fun key => startsWith key p)

instance : StorageBackend (EStateM PyError (MemoryBackend Bytes)) Bytes where
  put key data := modify fun self => self.put key data
  get key := modifyGet fun self => (self.get key, self)
  delete key := modifyGet fun self => (self.existsKey key, self.delete key)
  existsKey key := modifyGet fun self => (self.existsKey key, self)
  listKeys p := modifyGet fun self => (self.listKeys p, self)

@[grind =] theorem get_put (self : MemoryBackend Bytes) (key : String) (data : Bytes) (k : String) :
    (self.put key data).get k = if key = k then some data else self.get k :=
  self.objects.get?_set key data k

@[grind =] theorem get_delete (self : MemoryBackend Bytes) (key k : String) :
    (self.delete key).get k = if key = k then none else self.get k :=
  self.objects.get?_erase key k

theorem existsKey_eq (self : MemoryBackend Bytes) (key : String) :
    self.existsKey key = (self.get key).isSome := rfl

theorem delete_put (self : MemoryBackend Bytes) (key : String) (data : Bytes) :
    (self.put key data).delete key = self.delete key :=
  congrArg MemoryBackend.mk (self.objects.erase_set_self key data)

theorem delete_absent (self : MemoryBackend Bytes) {key : String} (absent : self.get key = none) :
    self.delete key = self :=
  congrArg MemoryBackend.mk (self.objects.erase_absent absent)

theorem mem_listKeys (self : MemoryBackend Bytes) (p key : String) :
    key ∈ self.listKeys p ↔ (self.get key).isSome ∧ startsWith key p = true := by
  have held : key ∈ self.objects.keys ↔ (self.get key).isSome := self.objects.mem_keys_iff key
  unfold listKeys sorted
  split
  · next empty =>
      subst empty
      have always : startsWith key "" = true := rfl
      rw [List.mem_insertionSort, held, always]
      simp only [and_true]
  · rw [List.mem_insertionSort, List.mem_filter, held]

end MemoryBackend

/-- A backend whose next writes are scheduled: a scheduled exception is raised
    and nothing is written. Reads and deletes always succeed. -/
structure FaultyBackend (Bytes : Type) where
  inner : MemoryBackend Bytes
  faults : List (Option PyError)

namespace FaultyBackend

variable {Bytes : Type}

def put (key : String) (data : Bytes) : EStateM PyError (FaultyBackend Bytes) Unit := fun self =>
  match self.faults with
  | some error :: later => .error error { self with faults := later }
  | none :: later => .ok () { inner := self.inner.put key data, faults := later }
  | [] => .ok () { self with inner := self.inner.put key data }

instance : StorageBackend (EStateM PyError (FaultyBackend Bytes)) Bytes where
  put := put
  get key := modifyGet fun self => (self.inner.get key, self)
  delete key := modifyGet fun self =>
    (self.inner.existsKey key, { self with inner := self.inner.delete key })
  existsKey key := modifyGet fun self => (self.inner.existsKey key, self)
  listKeys p := modifyGet fun self => (self.inner.listKeys p, self)

end FaultyBackend

end IntelliL3
