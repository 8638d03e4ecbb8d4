import Mathlib.Data.List.Induction
import IntelliL3.Core.Types
import IntelliL3.Lib.Run

/-! # Eviction policies

`policies/base.py`: the notifications a policy is given, the decision it takes, and
what a history of notifications says of a block.
-/

namespace IntelliL3

open Lib

/-- Which block to move from L2 to L3; the priority is a number as the policy computes it. -/
structure EvictionDecision (F : Type := Rat) where
  objectId : String
  priority : F
  deriving Repr, DecidableEq

/-- `on_block_accessed`, `on_block_added` and `on_block_evicted`; `now` is what
    `time.time()` reads during the notification. -/
inductive EvictionEvent where
  | accessed (block : KVCacheBlock) (now : Rat)
  | added (block : KVCacheBlock) (now : Rat)
  | evicted (objectId : String)

namespace EvictionEvent

def reading : EvictionEvent → Option Rat
  | .accessed _ now | .added _ now => some now
  | .evicted _ => none

/-- The block a notification registers. -/
def registered : EvictionEvent → Option KVCacheBlock
  | .accessed block _ | .added block _ => some block
  | .evicted _ => none

/-- The clock readings of a history. -/
def readings (events : List EvictionEvent) : List Rat := events.filterMap reading

/-- A block was added or accessed with the sessions it is shared by now. -/
def Registered (events : List EvictionEvent) (block : KVCacheBlock) : Prop :=
  ∃ event ∈ events, ∃ known ∈ event.registered,
    known.objMeta.objectId = block.objMeta.objectId ∧
      known.sharedBySessions = block.sharedBySessions

/-- What a notification does to the times at which blocks were last touched. -/
def touch (times : String → Option Rat) : EvictionEvent → String → Option Rat
  | .accessed block now | .added block now =>
      Function.update times block.objMeta.objectId (some now)
  | .evicted objectId => Function.update times objectId none

/-- When a block was last added or accessed; nothing when it was not, or was evicted since. -/
def lastTouch (events : List EvictionEvent) : String → Option Rat :=
  events.foldl touch fun _ => none

/-- A tracked candidate that was added or accessed longest ago. -/
structure IsOldest (touched : String → Option Rat) (candidates : List KVCacheBlock)
    (victim : String) : Prop where
  candidate : ∃ block ∈ candidates, block.objMeta.objectId = victim
  oldest : ∃ time ∈ touched victim, ∀ block ∈ candidates,
    ∀ other ∈ touched block.objMeta.objectId, time ≤ other

theorem lastTouch_concat (events : List EvictionEvent) (event : EvictionEvent) :
    lastTouch (events ++ [event]) = touch (lastTouch events) event := by
  simp only [lastTouch, List.foldl_append, List.foldl_cons, List.foldl_nil]

theorem readings_concat (events : List EvictionEvent) (event : EvictionEvent) :
    readings (events ++ [event]) = readings events ++ event.reading.toList := by
  rw [readings, List.filterMap_append, readings]
  cases reads : event.reading <;> simp [reads]

/-- A touch is remembered under the time it was read at. -/
theorem mem_readings_of_lastTouch {events : List EvictionEvent} {objectId : String} {time : Rat}
    (touched : lastTouch events objectId = some time) : time ∈ readings events := by
  induction events using List.reverseRecOn with
  | nil => cases touched
  | append_singleton events event ih =>
      rw [lastTouch_concat] at touched
      rw [readings_concat, List.mem_append]
      cases event with
      | accessed block now | added block now =>
          simp only [touch, Function.update_apply] at touched
          split at touched
          · cases touched
            exact .inr List.mem_cons_self
          · exact .inl (ih touched)
      | evicted evictedId =>
          simp only [touch, Function.update_apply] at touched
          split at touched
          · cases touched
          · exact .inl (ih touched)

end EvictionEvent

/-- A table that is assigned the reading of each touch and loses what is evicted holds the
    last touches of the notifications among the calls. -/
theorem touches_recorded {σ C : Type} {exec : C → EStateM PyError σ Unit}
    (notification : C → Option EvictionEvent) (times : σ → Dict String Rat)
    (record : ∀ s c, (times (EStateResult.state (exec c s))).get? =
      (notification c).elim (times s).get? (EvictionEvent.touch (times s).get?))
    {s : σ} (fresh : times s = .empty) (calls : List C) :
    (times (drive exec s calls)).get? =
      EvictionEvent.lastTouch (calls.filterMap notification) := by
  induction calls using List.reverseRecOn with
  | nil =>
      rw [drive, List.foldl_nil, fresh]
      rfl
  | append_singleton calls c ih =>
      rw [drive_concat, record, ih, List.filterMap_append]
      cases told : notification c with
      | none => simp [told]
      | some event => simp [told, EvictionEvent.lastTouch_concat]

end IntelliL3
