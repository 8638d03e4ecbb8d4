import Mathlib.Order.Basic
import IntelliL3.Lib.LeastRecent
import IntelliL3.Policies.EvictionPolicy

/-! # Least recently used

`policies/eviction/lru.py`: recency is the place of a block in an ordered dictionary,
and besides the time stored there. An access moves the block to the end, an addition
only when the block is new.
-/

namespace IntelliL3

open Lib EvictionEvent

structure LRUEviction where
  accessOrder : Dict String Rat
  deriving DecidableEq

namespace LRUEviction

/-- `LRUEviction()` -/
def new : LRUEviction := ⟨.empty⟩

def onBlockAccessed (block : KVCacheBlock) (now : Rat) (self : LRUEviction) : LRUEviction :=
  let objId := block.objMeta.objectId
  let order :=
    if self.accessOrder.contains objId then self.accessOrder.moveToEnd objId
    else self.accessOrder
  { accessOrder := order.set objId now }

def onBlockAdded (block : KVCacheBlock) (now : Rat) (self : LRUEviction) : LRUEviction :=
  { accessOrder := self.accessOrder.set block.objMeta.objectId now }

def onBlockEvicted (objectId : String) (self : LRUEviction) : LRUEviction :=
  { accessOrder := self.accessOrder.erase objectId }

def selectVictim (self : LRUEviction) : List KVCacheBlock → Option EvictionDecision
  | [] => none
  | first :: rest =>
      let candidateIds := (first :: rest).map (·.objMeta.objectId)
      match self.accessOrder.entries.find? fun row => candidateIds.contains row.1 with
      | some (objId, timestamp) => some { objectId := objId, priority := timestamp }
      -- no candidate is in the history
      | none => some { objectId := first.objMeta.objectId, priority := 0 }

abbrev LRUM := EStateM PyError LRUEviction

def exec : EvictionEvent → LRUM Unit
  | .accessed block now => modify (onBlockAccessed block now)
  | .added block now => modify (onBlockAdded block now)
  | .evicted objectId => modify (onBlockEvicted objectId)

/-! ## Order and time -/

/-- The order of the blocks is the order of the times stored for them. -/
def Increasing (s : LRUEviction) : Prop := s.accessOrder.values.Pairwise (· < ·)

/-- A block that is added while it is tracked is the last one touched. -/
def AddsLast (touched : String → Option Rat) : EvictionEvent → Prop
  | .added block _ => ∀ time ∈ touched block.objMeta.objectId,
      ∀ objectId, ∀ other ∈ touched objectId, other ≤ time
  | .accessed .. | .evicted _ => True

/-- The times of the order increase and lie before every reading to come. -/
structure Timely (s : LRUEviction) (rest : List EvictionEvent) : Prop where
  increasing : Increasing s
  past : ∀ time ∈ s.accessOrder.values, ∀ reading ∈ readings rest, time < reading
  strict : (readings rest).Pairwise (· < ·)

section

variable {s : LRUEviction} {rest : List EvictionEvent} {block : KVCacheBlock} {now : Rat}

/-- An access puts the block behind all others. -/
theorem onBlockAccessed_eq (block : KVCacheBlock) (now : Rat) (s : LRUEviction) :
    onBlockAccessed block now s =
      ⟨(s.accessOrder.erase block.objMeta.objectId).set block.objMeta.objectId now⟩ := by
  unfold onBlockAccessed Dict.moveToEnd
  cases held : s.accessOrder.get? block.objMeta.objectId with
  | none =>
      have untracked := (Dict.contains_eq_false_iff _ _).mpr held
      simp only [untracked, Bool.false_eq_true, if_false, Dict.erase_absent _ held]
  | some time =>
      have tracked : s.accessOrder.contains block.objMeta.objectId = true := by
        rw [Dict.contains, held]
        rfl
      simp only [tracked, if_true, held, Dict.set_set]

theorem values_set_absent {order : Dict String Rat} {objId : String}
    (absent : order.get? objId = none) (now : Rat) :
    (order.set objId now).values = order.values ++ [now] := by
  rw [Dict.values, Dict.entries_set_absent absent, List.map_append]
  rfl

/-- Where a tracked block stands, and what adding it again makes of the order. -/
theorem values_set_present {order : Dict String Rat} {objId : String} {time : Rat}
    (present : order.get? objId = some time) (now : Rat) :
    ∃ before after, order.values = before ++ time :: after ∧
      (order.set objId now).values = before ++ now :: after := by
  obtain ⟨before, after, split, stored⟩ := Dict.entries_set_present present now
  refine ⟨before.map Prod.snd, after.map Prod.snd, ?_, ?_⟩
  · rw [Dict.values, split, List.map_append, List.map_cons]
  · rw [Dict.values, stored, List.map_append, List.map_cons]

theorem mem_values_of_get? {order : Dict String Rat} {objId : String} {time : Rat}
    (held : order.get? objId = some time) : time ∈ order.values :=
  List.mem_map.mpr ⟨(objId, time), (order.mem_entries_iff objId time).mpr held, rfl⟩

theorem exists_get?_of_mem_values {order : Dict String Rat} {time : Rat}
    (member : time ∈ order.values) : ∃ objId, order.get? objId = some time := by
  obtain ⟨row, held, rfl⟩ := List.mem_map.mp member
  exact ⟨row.1, (order.mem_entries_iff row.1 row.2).mp held⟩

/-- Some of the times, in their order, and then the one that was read last. -/
theorem Timely.last {order : List Rat} {event : EvictionEvent} (timely : Timely s (event :: rest))
    (reads : event.reading = some now) (part : order.Sublist s.accessOrder.values)
    {s' : LRUEviction} (last : s'.accessOrder.values = order ++ [now]) : Timely s' rest := by
  have coming : readings (event :: rest) = now :: readings rest := List.filterMap_cons_some reads
  obtain ⟨nowFirst, strict⟩ := List.pairwise_cons.mp (coming ▸ timely.strict)
  have past := fun time held => coming ▸ timely.past time held
  have before : ∀ time ∈ order, time < now := fun time held =>
    past time (part.subset held) now List.mem_cons_self
  refine ⟨?_, fun time held reading later => ?_, strict⟩
  · rw [Increasing, last, List.pairwise_append]
    refine ⟨timely.increasing.sublist part, List.pairwise_singleton _ _, fun time held a same => ?_⟩
    rw [List.mem_singleton.mp same]
    exact before time held
  · rw [last] at held
    rcases List.mem_append.mp held with early | latest
    · exact past time (part.subset early) reading (List.mem_cons_of_mem _ later)
    · rw [List.mem_singleton.mp latest]
      exact nowFirst reading later

/-- Only a block that stands last may be added again. -/
theorem Timely.exec {event : EvictionEvent} (timely : Timely s (event :: rest))
    (allowed : AddsLast s.accessOrder.get? event) :
    Timely (EStateResult.state (exec event s)) rest := by
  cases event with
  | accessed block now =>
      have part := s.accessOrder.entries_erase_sublist block.objMeta.objectId
      refine timely.last rfl (part.map Prod.snd) ?_
      simp only [LRUEviction.exec, modify_run, EStateResult.state_ok, onBlockAccessed_eq]
      exact values_set_absent (by rw [Dict.get?_erase, if_pos rfl]) now
  | added block now =>
      cases held : s.accessOrder.get? block.objMeta.objectId with
      | none => exact timely.last rfl (List.Sublist.refl _) (values_set_absent held now)
      | some time =>
          obtain ⟨before, after, split, stored⟩ := values_set_present held now
          -- whatever stands behind it was touched later
          have nothing : after = [] := by
            refine List.eq_nil_iff_forall_not_mem.mpr fun other behind => ?_
            have increasing := timely.increasing
            rw [Increasing, split] at increasing
            have later := (List.pairwise_cons.mp (List.pairwise_append.mp increasing).2.1).1
            have listed : other ∈ s.accessOrder.values := by
              rw [split]
              exact List.mem_append_right before (List.mem_cons_of_mem time behind)
            obtain ⟨objectId, tracked⟩ := exists_get?_of_mem_values listed
            exact absurd (allowed time held objectId other tracked) (later other behind).not_ge
          subst nothing
          refine timely.last rfl ?_ stored
          rw [split]
          exact List.sublist_append_left before [time]
  | evicted objectId =>
      have part : (s.accessOrder.erase objectId).values.Sublist s.accessOrder.values :=
        (s.accessOrder.entries_erase_sublist objectId).map Prod.snd
      exact ⟨timely.increasing.sublist part, fun time held => timely.past time (part.subset held),
        timely.strict⟩

/-- A block that is added again out of turn keeps its place among older ones. -/
theorem Timely.not_increasing {event : EvictionEvent} (timely : Timely s (event :: rest))
    (refused : ¬ AddsLast s.accessOrder.get? event) :
    ¬ Increasing (EStateResult.state (LRUEviction.exec event s)) := by
  cases event with
  | accessed block now => exact absurd trivial refused
  | evicted objectId => exact absurd trivial refused
  | added block now =>
      simp only [AddsLast, not_forall] at refused
      obtain ⟨time, held, objectId, other, tracked, younger⟩ := refused
      obtain ⟨before, after, split, stored⟩ := values_set_present held now
      have increasing := timely.increasing
      rw [Increasing, split] at increasing
      have earlier := (List.pairwise_append.mp increasing).2.2
      have member := mem_values_of_get? tracked
      have behind : other ∈ after := by
        rw [split] at member
        rcases List.mem_append.mp member with early | late
        · exact absurd (earlier other early time List.mem_cons_self).le younger
        · rcases List.mem_cons.mp late with rfl | late
          · exact absurd le_rfl younger
          · exact late
      have past : other < now := timely.past other member now List.mem_cons_self
      intro still
      change (s.accessOrder.set block.objMeta.objectId now).values.Pairwise (· < ·) at still
      rw [stored] at still
      have later := (List.pairwise_cons.mp (List.pairwise_append.mp still).2.1).1
      exact absurd (later other behind) past.not_gt

/-- In the order of the times, the first candidate met is the oldest. -/
theorem selectVictim_oldest (increasing : Increasing s) {candidates : List KVCacheBlock}
    (tracked : ∃ block ∈ candidates, (s.accessOrder.get? block.objMeta.objectId).isSome) :
    ∃ decision, s.selectVictim candidates = some decision ∧
      IsOldest s.accessOrder.get? candidates decision.objectId := by
  obtain ⟨block, member, held⟩ := tracked
  obtain ⟨time, held⟩ := Option.isSome_iff_exists.mp held
  have row := (s.accessOrder.mem_entries_iff _ _).mpr held
  cases candidates with
  | nil => cases member
  | cons first rest =>
      unfold selectVictim
      simp only
      generalize ids : (first :: rest).map (·.objMeta.objectId) = candidateIds
      have named : ∀ b ∈ first :: rest, candidateIds.contains b.objMeta.objectId = true := by
        intro b listed
        rw [← ids, List.contains_iff_mem]
        exact List.mem_map.mpr ⟨b, listed, rfl⟩
      cases found : s.accessOrder.entries.find? fun row => candidateIds.contains row.1 with
      | none => exact absurd (named block member) (List.find?_eq_none.mp found _ row)
      | some victim =>
          obtain ⟨objId, timestamp⟩ := victim
          obtain ⟨listed, before, after, split, skipped⟩ := List.find?_eq_some_iff_append.mp found
          refine ⟨_, rfl, ?_, timestamp, ?_, fun b candidate other touched => ?_⟩
          · rw [List.contains_iff_mem, ← ids] at listed
            exact List.mem_map.mp listed
          · refine (s.accessOrder.mem_entries_iff _ _).mp ?_
            rw [split]
            exact List.mem_append_right before List.mem_cons_self
          · have place := (s.accessOrder.mem_entries_iff _ _).mpr touched
            rw [split] at place
            rcases List.mem_append.mp place with early | late
            · have skip : (!candidateIds.contains b.objMeta.objectId) = true := skipped _ early
              rw [named b candidate] at skip
              cases skip
            · rcases List.mem_cons.mp late with same | late
              · exact (congrArg Prod.snd same).symm.le
              · rw [Increasing, Dict.values, split, List.map_append, List.map_cons] at increasing
                have later := (List.pairwise_cons.mp (List.pairwise_append.mp increasing).2.1).1
                exact (later other (List.mem_map.mpr ⟨_, late, rfl⟩)).le

end

theorem accessOrder_exec (s : LRUEviction) (event : EvictionEvent) :
    (EStateResult.state (exec event s)).accessOrder.get? = touch s.accessOrder.get? event := by
  cases event with
  | accessed block now =>
      simp only [exec, modify_run, EStateResult.state_ok, onBlockAccessed_eq, touch]
      rw [Dict.lookup_set, Dict.lookup_erase, Function.update_idem]
  | added block now => exact Dict.lookup_set _ _ _
  | evicted objectId => exact Dict.lookup_erase _ _

/-- The order holds the last touch of every block it holds. -/
theorem accessOrder_get? (events : List EvictionEvent) :
    (drive exec new events).accessOrder.get? = lastTouch events := by
  have recorded := touches_recorded some accessOrder accessOrder_exec (s := new) rfl events
  rwa [List.filterMap_some] at recorded

/-- Under a clock that always advances, the order follows the times and every victim is the
    candidate touched longest ago, exactly when no block is added again out of turn. -/
theorem victim_oldest_iff {events : List EvictionEvent}
    (advances : (readings events).Pairwise (· < ·)) :
    (∀ pre post, events = pre ++ post → Increasing (drive exec new pre) ∧
        ∀ candidates : List KVCacheBlock,
          (∃ block ∈ candidates, (lastTouch pre block.objMeta.objectId).isSome) →
          ∃ decision, (drive exec new pre).selectVictim candidates = some decision ∧
            IsOldest (lastTouch pre) candidates decision.objectId) ↔
      ∀ pre event post, events = pre ++ event :: post → AddsLast (lastTouch pre) event := by
  have start : Timely new events :=
    ⟨List.Pairwise.nil, fun time held => (List.not_mem_nil held).elim, advances⟩
  have ordered := @drive_all_reached_iff _ _ _ _ exec Timely Increasing
    (fun s event => AddsLast s.accessOrder.get? event) (fun _ _ timely => timely.increasing)
    (fun _ _ _ timely allowed => timely.exec allowed)
    (fun _ _ _ timely refused => timely.not_increasing refused) new events start
  simp only [accessOrder_get?] at ordered
  rw [← ordered]
  refine ⟨fun every pre post split => (every pre post split).1, fun every pre post split => ?_⟩
  refine ⟨every pre post split, fun candidates tracked => ?_⟩
  rw [← accessOrder_get?] at tracked ⊢
  exact selectVictim_oldest (every pre post split) tracked

section

private def lruBlock (objectId : String) : KVCacheBlock where
  objMeta := .new .kvCache objectId 0

private def accessedAgain : List EvictionEvent :=
  [.added (lruBlock "a") 1, .added (lruBlock "b") 2, .accessed (lruBlock "a") 3]

/-- Of two blocks the first is accessed again, so the second one goes. -/
theorem victim_oldest_accessed :
    Increasing (drive exec new accessedAgain) ∧
      ∃ decision, (drive exec new accessedAgain).selectVictim [lruBlock "a", lruBlock "b"] =
          some decision ∧
        IsOldest (lastTouch accessedAgain) [lruBlock "a", lruBlock "b"] decision.objectId := by
  have advances : (readings accessedAgain).Pairwise (· < ·) := by decide +kernel
  obtain ⟨increasing, oldest⟩ := (victim_oldest_iff advances).mpr (by
    intro pre event post split
    match pre, split with
    | [], split =>
        cases split
        intro time touched
        cases touched
    | [_], split =>
        cases split
        intro time touched
        cases touched
    | [_, _], split =>
        cases split
        trivial
    | _ :: _ :: _ :: _, split => simp [accessedAgain] at split) accessedAgain [] rfl
  exact ⟨increasing, oldest _ ⟨lruBlock "a", List.mem_cons_self, by decide +kernel⟩⟩

private def addedAgain : List EvictionEvent :=
  [.added (lruBlock "a") 1, .added (lruBlock "b") 2, .added (lruBlock "a") 3]

/-- A block that is added again is chosen before the block that was touched before it. -/
theorem victim_not_oldest :
    ¬ ∀ (events : List EvictionEvent) (candidates : List KVCacheBlock),
      (readings events).Pairwise (· < ·) →
      (∃ block ∈ candidates, (lastTouch events block.objMeta.objectId).isSome) →
      Increasing (drive exec new events) ∧
        ∃ decision, (drive exec new events).selectVictim candidates = some decision ∧
          IsOldest (lastTouch events) candidates decision.objectId := by
  intro always
  obtain ⟨-, decision, chosen, -, time, touched, oldest⟩ :=
    always addedAgain [lruBlock "a", lruBlock "b"] (by decide +kernel)
      ⟨lruBlock "a", List.mem_cons_self, by decide +kernel⟩
  have again : (drive exec new addedAgain).selectVictim [lruBlock "a", lruBlock "b"] =
      some ⟨"a", 3⟩ := by decide +kernel
  cases again.symm.trans chosen
  have late : lastTouch addedAgain "a" = some 3 := by decide +kernel
  have early : lastTouch addedAgain "b" = some 2 := by decide +kernel
  cases late.symm.trans touched
  exact absurd (oldest (lruBlock "b") (List.mem_cons_of_mem _ List.mem_cons_self) 2 early)
    (by decide +kernel)

end

end LRUEviction

end IntelliL3
