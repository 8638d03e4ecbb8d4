import Mathlib.Algebra.Order.Field.Rat
import IntelliL3.Lib.StableSort
import IntelliL3.Policies.EvictionPolicy

/-! # Prefix reuse

`policies/eviction/prefix_reuse.py`: blocks are scored by how recently, how often and
by how many sessions they are used. The age of a block is not clamped, and only an
access raises the number of sessions that sharing is measured by.
-/

namespace IntelliL3

open Lib EvictionEvent

structure PrefixReuseEviction where
  wRecency : Rat
  wFrequency : Rat
  wShared : Rat
  accessTimes : Dict String Rat := .empty
  accessCounts : Dict String Nat := .empty
  maxShared : Nat := 1

/-- `a / b` of two floats. -/
def floatDiv (a b : Rat) : Except PyError Rat :=
  if b = 0 then .error (.zeroDivisionError "float division by zero") else .ok (a / b)

namespace PrefixReuseEviction

/-- `PrefixReuseEviction(metadata)`; neither the metadata nor the decay is ever read. -/
def new (recencyWeight : Rat := 3 / 10) (frequencyWeight : Rat := 3 / 10)
    (sharedWeight : Rat := 4 / 10) : PrefixReuseEviction where
  wRecency := recencyWeight
  wFrequency := frequencyWeight
  wShared := sharedWeight

def onBlockAccessed (block : KVCacheBlock) (now : Rat) (self : PrefixReuseEviction) :
    PrefixReuseEviction :=
  let objId := block.objMeta.objectId
  let sharedCount := block.sharedBySessions.length
  { self with
    accessTimes := self.accessTimes.set objId now
    accessCounts := self.accessCounts.set objId ((self.accessCounts.get? objId).getD 0 + 1)
    maxShared := if self.maxShared < sharedCount then sharedCount else self.maxShared }

def onBlockAdded (block : KVCacheBlock) (now : Rat) (self : PrefixReuseEviction) :
    PrefixReuseEviction :=
  let objId := block.objMeta.objectId
  { self with
    accessTimes := self.accessTimes.set objId now
    accessCounts := self.accessCounts.set objId 1 }

def onBlockEvicted (objectId : String) (self : PrefixReuseEviction) : PrefixReuseEviction :=
  { self with
    accessTimes := self.accessTimes.erase objectId
    accessCounts := self.accessCounts.erase objectId }

def recency (self : PrefixReuseEviction) (now : Rat) (block : KVCacheBlock) :
    Except PyError Rat :=
  let lastAccess := (self.accessTimes.get? block.objMeta.objectId).getD 0
  floatDiv 1 (1 + (now - lastAccess))

def frequency (self : PrefixReuseEviction) (block : KVCacheBlock) : Rat :=
  let freq := (self.accessCounts.get? block.objMeta.objectId).getD 1
  min 1 (freq / 10)

def sharedScore (self : PrefixReuseEviction) (block : KVCacheBlock) : Rat :=
  block.sharedBySessions.length / (max 1 self.maxShared : Nat)

def reuseScore (self : PrefixReuseEviction) (now : Rat) (block : KVCacheBlock) :
    Except PyError Rat := do
  let recency ← self.recency now block
  return self.wRecency * recency + self.wFrequency * self.frequency block +
    self.wShared * self.sharedScore block

/-- What `scored` holds of a candidate. -/
def scoredRow (self : PrefixReuseEviction) (now : Rat) (block : KVCacheBlock) :
    Except PyError (String × Rat) := do
  let score ← self.reuseScore now block
  return (block.objMeta.objectId, score)

/-- `select_victim`, with the one reading of the clock it takes. -/
def selectVictim (self : PrefixReuseEviction) (now : Rat) (candidates : List KVCacheBlock) :
    Except PyError (Option EvictionDecision) := do
  if candidates.isEmpty then return none
  else
    let scored ← candidates.mapM (self.scoredRow now)
    return (sortBy Prod.snd scored).head?.map fun victim =>
      { objectId := victim.1, priority := -victim.2 }

abbrev PrefixReuseM := EStateM PyError PrefixReuseEviction

def exec : EvictionEvent → PrefixReuseM Unit
  | .accessed block now => modify (onBlockAccessed block now)
  | .added block now => modify (onBlockAdded block now)
  | .evicted objectId => modify (onBlockEvicted objectId)

/-! ## What a history leaves behind -/

theorem accessTimes_exec (s : PrefixReuseEviction) (event : EvictionEvent) :
    (EStateResult.state (exec event s)).accessTimes.get? = touch s.accessTimes.get? event := by
  cases event with
  | accessed block now | added block now => exact Dict.lookup_set _ _ _
  | evicted objectId => exact Dict.lookup_erase _ _

/-- Every touch is recorded under its reading. -/
theorem accessTimes_get? (recencyWeight frequencyWeight sharedWeight : Rat)
    (events : List EvictionEvent) :
    (drive exec (new recencyWeight frequencyWeight sharedWeight) events).accessTimes.get? =
      lastTouch events := by
  have recorded := touches_recorded some accessTimes accessTimes_exec
    (s := new recencyWeight frequencyWeight sharedWeight) rfl events
  rwa [List.filterMap_some] at recorded

/-- Sharing is measured by the accesses of the history, not by its additions. -/
theorem le_maxShared_iff (recencyWeight frequencyWeight sharedWeight : Rat)
    (events : List EvictionEvent) (n : Nat) :
    n ≤ (drive exec (new recencyWeight frequencyWeight sharedWeight) events).maxShared ↔
      n ≤ 1 ∨ ∃ block now, .accessed block now ∈ events ∧ n ≤ block.sharedBySessions.length := by
  induction events using List.reverseRecOn with
  | nil => simp [drive, new]
  | append_singleton events event ih =>
      rw [drive_concat]
      cases event with
      | accessed block now =>
          simp only [exec, modify_run, EStateResult.state_ok, onBlockAccessed, List.mem_append,
            List.mem_singleton, EvictionEvent.accessed.injEq]
          grind
      | added block now =>
          simp only [exec, modify_run, EStateResult.state_ok, onBlockAdded, ih, List.mem_append,
            List.mem_singleton, reduceCtorEq, or_false]
      | evicted objectId =>
          simp only [exec, modify_run, EStateResult.state_ok, onBlockEvicted, ih, List.mem_append,
            List.mem_singleton, reduceCtorEq, or_false]

end PrefixReuseEviction

end IntelliL3
