import IntelliL3.Lib.UnitScore
import IntelliL3.Policies.PrefixReuseEviction

/-! # Reuse scores

When the components of a reuse score lie between zero and one, and when the clock
the ages are taken from may be set back.
-/

namespace IntelliL3

open Lib EvictionEvent

namespace PrefixReuseEviction

variable {s : PrefixReuseEviction} {now : Rat} {block : KVCacheBlock}

/-- The time a block counts as last accessed at. -/
def lastAccess (s : PrefixReuseEviction) (block : KVCacheBlock) : Rat :=
  (s.accessTimes.get? block.objMeta.objectId).getD 0

theorem recency_eq_ok_iff {recency : Rat} : s.recency now block = .ok recency ↔
    1 + (now - s.lastAccess block) ≠ 0 ∧ recency = 1 / (1 + (now - s.lastAccess block)) := by
  unfold PrefixReuseEviction.recency floatDiv lastAccess
  simp only
  split
  · next singular => exact iff_of_false nofun fun regular => regular.1 singular
  · next regular =>
      rw [Except.ok.injEq, and_iff_right regular, eq_comm]

theorem reuseScore_eq_ok_iff {score : Rat} : s.reuseScore now block = .ok score ↔
    ∃ recency, s.recency now block = .ok recency ∧
      score = s.wRecency * recency + s.wFrequency * s.frequency block +
        s.wShared * s.sharedScore block := by
  rw [reuseScore, bind_eq_ok]
  simp only [pure, Except.pure, Except.ok.injEq, eq_comm]

/-- A block last accessed at or before the reading has a recency in the unit interval. -/
theorem recency_of_past (past : s.lastAccess block ≤ now) :
    ∃ recency ∈ Set.Icc (0 : Rat) 1, s.recency now block = .ok recency := by
  have aged : 0 ≤ now - s.lastAccess block := sub_nonneg.mpr past
  refine ⟨_, closeness_mem_unit aged, recency_eq_ok_iff.mpr ⟨?_, rfl⟩⟩
  linarith

theorem frequency_mem_unit (s : PrefixReuseEviction) (block : KVCacheBlock) :
    s.frequency block ∈ Set.Icc (0 : Rat) 1 :=
  capped_mem_unit (by positivity)

theorem sharedScore_mem_unit_iff : s.sharedScore block ∈ Set.Icc (0 : Rat) 1 ↔
    block.sharedBySessions.length ≤ max 1 s.maxShared :=
  share_mem_unit_iff (lt_of_lt_of_le Nat.one_pos (le_max_left 1 _))

/-! ## Normalised components -/

/-- All components lie in the unit interval, so no score exceeds the sum of the weights. -/
structure Normalised (s : PrefixReuseEviction) (now : Rat) (block : KVCacheBlock) : Prop where
  recency : ∃ recency ∈ Set.Icc (0 : Rat) 1, s.recency now block = .ok recency
  frequency : s.frequency block ∈ Set.Icc (0 : Rat) 1
  shared : s.sharedScore block ∈ Set.Icc (0 : Rat) 1
  score : 0 ≤ s.wRecency → 0 ≤ s.wFrequency → 0 ≤ s.wShared →
    ∃ score ≤ s.wRecency + s.wFrequency + s.wShared, s.reuseScore now block = .ok score

theorem normalised_iff (past : s.lastAccess block ≤ now) :
    Normalised s now block ↔ block.sharedBySessions.length ≤ max 1 s.maxShared := by
  refine ⟨fun normalised => sharedScore_mem_unit_iff.mp normalised.shared, fun part => ?_⟩
  obtain ⟨recency, recent, computed⟩ := recency_of_past past
  have frequent := frequency_mem_unit s block
  have shared := sharedScore_mem_unit_iff.mpr part
  refine ⟨⟨recency, recent, computed⟩, frequent, shared, fun wRecency wFrequency wShared => ?_⟩
  refine ⟨_, ?_, reuseScore_eq_ok_iff.mpr ⟨recency, computed, rfl⟩⟩
  have recently := (weighted_mem wRecency recent).2
  have often := (weighted_mem wFrequency frequent).2
  exact add_le_add (add_le_add recently often) (weighted_mem wShared shared).2

/-- What is recorded was read before now. -/
theorem lastAccess_le (recencyWeight frequencyWeight sharedWeight : Rat)
    {events : List EvictionEvent} (clock : (readings events ++ [now]).Pairwise (· ≤ ·))
    (recorded : (lastTouch events block.objMeta.objectId).isSome ∨ 0 ≤ now) :
    (drive exec (new recencyWeight frequencyWeight sharedWeight) events).lastAccess block ≤
      now := by
  rw [lastAccess, accessTimes_get?]
  cases touched : lastTouch events block.objMeta.objectId with
  | none =>
      rw [touched] at recorded
      exact recorded.resolve_left Bool.false_ne_true
  | some time =>
      have before := (List.pairwise_append.mp clock).2.2
      exact before time (mem_readings_of_lastTouch touched) now List.mem_cons_self

/-- Under a clock that is never set back, the components of every candidate are normalised
    exactly when an access showed as many sessions as any candidate has. A candidate whose
    record was dropped counts as last accessed at the epoch. -/
theorem components_normalised_iff (recencyWeight frequencyWeight sharedWeight : Rat)
    {events : List EvictionEvent} (clock : (readings events ++ [now]).Pairwise (· ≤ ·))
    {candidates : List KVCacheBlock} (recorded : ∀ block ∈ candidates,
      (lastTouch events block.objMeta.objectId).isSome ∨ 0 ≤ now) :
    (∀ block ∈ candidates,
        Normalised (drive exec (new recencyWeight frequencyWeight sharedWeight) events) now block) ↔
      ∀ block ∈ candidates, block.sharedBySessions.length ≤ 1 ∨
        ∃ accessed time, .accessed accessed time ∈ events ∧
          block.sharedBySessions.length ≤ accessed.sharedBySessions.length := by
  refine forall₂_congr fun block candidate => ?_
  rw [normalised_iff (lastAccess_le _ _ _ clock (recorded block candidate)), le_max_iff,
    le_maxShared_iff, ← or_assoc, or_self]

/-! ## Any clock -/

/-- Of two candidates alike in frequency and sharing, the one touched later has no lower
    recency. -/
def LaterIsRecent (s : PrefixReuseEviction) (touched : String → Option Rat) (now : Rat)
    (block later : KVCacheBlock) : Prop :=
  s.frequency block = s.frequency later → s.sharedScore block = s.sharedScore later →
    ∀ time ∈ touched block.objMeta.objectId, ∀ time' ∈ touched later.objMeta.objectId,
      time < time' → ∀ recency recency', s.recency now block = .ok recency →
        s.recency now later = .ok recency' → recency ≤ recency'

/-- Two candidates alike in frequency and sharing are not touched one before and one after the
    instant at which the age of a block divides by zero. -/
def SameSide (s : PrefixReuseEviction) (touched : String → Option Rat) (now : Rat)
    (block later : KVCacheBlock) : Prop :=
  s.frequency block = s.frequency later → s.sharedScore block = s.sharedScore later →
    ∀ time ∈ touched block.objMeta.objectId, ∀ time' ∈ touched later.objMeta.objectId,
      ¬ (time < now + 1 ∧ now + 1 < time')

/-- A score is computed unless the block was last accessed a second after the reading. -/
theorem scores_iff : (∃ score, s.reuseScore now block = .ok score) ↔
    s.lastAccess block ≠ now + 1 := by
  have singular : 1 + (now - s.lastAccess block) ≠ 0 ↔ s.lastAccess block ≠ now + 1 := by
    refine not_congr ⟨fun same => ?_, fun same => ?_⟩ <;> linarith
  simp only [reuseScore_eq_ok_iff, recency_eq_ok_iff, singular]
  constructor
  · rintro ⟨_, _, ⟨regular, -⟩, -⟩
    exact regular
  · exact fun regular => ⟨_, _, ⟨regular, rfl⟩, rfl⟩

/-- A victim is chosen unless some candidate has no score. -/
theorem selectVictim_returns_iff {candidates : List KVCacheBlock} :
    (∃ decision, s.selectVictim now candidates = .ok decision) ↔
      ∀ block ∈ candidates, s.lastAccess block ≠ now + 1 := by
  unfold selectVictim
  split
  · next none_given =>
      rw [List.isEmpty_iff] at none_given
      subst none_given
      exact iff_of_true ⟨none, rfl⟩ fun block member => (List.not_mem_nil member).elim
  · have scored : ∀ block, (∃ row, s.scoredRow now block = .ok row) ↔
        s.lastAccess block ≠ now + 1 := by
      intro block
      simp only [scoredRow, bind_eq_ok, ← scores_iff]
      exact ⟨fun ⟨_, score, computed, _⟩ => ⟨score, computed⟩,
        fun ⟨score, computed⟩ => ⟨_, score, computed, rfl⟩⟩
    simp only [← scored, ← mapM_succeeds_iff, bind_eq_ok]
    exact ⟨fun ⟨_, rows, computed, _⟩ => ⟨rows, computed⟩,
      fun ⟨rows, computed⟩ => ⟨_, rows, computed, rfl⟩⟩

/-- Recency follows the touches exactly on one side of the instant. -/
theorem laterIsRecent_iff {later : KVCacheBlock} (regular : s.lastAccess block ≠ now + 1)
    (regular' : s.lastAccess later ≠ now + 1) :
    LaterIsRecent s s.accessTimes.get? now block later ↔
      SameSide s s.accessTimes.get? now block later := by
  unfold LaterIsRecent SameSide
  refine imp_congr_right fun _ => imp_congr_right fun _ => forall₂_congr fun time touched =>
    forall₂_congr fun time' touched' => ?_
  have last : s.lastAccess block = time := by rw [lastAccess, touched, Option.getD_some]
  have last' : s.lastAccess later = time' := by rw [lastAccess, touched', Option.getD_some]
  rw [last] at regular
  rw [last'] at regular'
  have age : 1 + (now - time) ≠ 0 := fun zero => regular (by linarith)
  have age' : 1 + (now - time') ≠ 0 := fun zero => regular' (by linarith)
  have ordered : time < time' → (1 / (1 + (now - time)) ≤ 1 / (1 + (now - time')) ↔
      ¬ (time < now + 1 ∧ now + 1 < time')) := by
    intro before
    rw [one_div_le_one_div_iff_not_across age age' (by linarith)]
    refine not_congr ⟨?_, ?_⟩ <;> rintro ⟨_, _⟩ <;> constructor <;> linarith
  simp only [recency_eq_ok_iff, last, last', and_imp]
  constructor
  · intro recent across
    have before := across.1.trans across.2
    exact (ordered before).mp (recent before _ _ age rfl age' rfl) across
  · rintro within before recency recency' - rfl - rfl
    exact (ordered before).mpr within

/-- Whatever the clock reads, a victim is chosen and recency follows the touches, exactly when
    no candidate counts as accessed a second after the reading, and none alike stand on both
    sides of that instant. -/
theorem any_clock_iff (recencyWeight frequencyWeight sharedWeight : Rat)
    (events : List EvictionEvent) (now : Rat) (candidates : List KVCacheBlock) :
    let s := drive exec (new recencyWeight frequencyWeight sharedWeight) events
    ((∃ decision, s.selectVictim now candidates = .ok decision) ∧
        ∀ block ∈ candidates, ∀ later ∈ candidates,
          LaterIsRecent s (lastTouch events) now block later) ↔
      (∀ block ∈ candidates, (lastTouch events block.objMeta.objectId).getD 0 ≠ now + 1) ∧
        ∀ block ∈ candidates, ∀ later ∈ candidates,
          SameSide s (lastTouch events) now block later := by
  intro s
  have recorded : s.accessTimes.get? = lastTouch events := accessTimes_get? _ _ _ events
  rw [← recorded, selectVictim_returns_iff]
  refine and_congr_right fun regular => ?_
  exact forall₂_congr fun block member => forall₂_congr fun later member' =>
    laterIsRecent_iff (regular block member) (regular later member')

section

private def reuseBlock (objectId : String) (sessions : List String) : KVCacheBlock where
  objMeta := .new .kvCache objectId 0
  sharedBySessions := sessions

private def shared : KVCacheBlock := reuseBlock "a" ["s1", "s2", "s3"]

/-- A shared block that was accessed after it was added. -/
theorem components_normalised_accessed :
    Normalised (drive exec new [.added shared 1, .accessed shared 2]) 3 shared := by
  have recorded : ∀ block ∈ [shared],
      (lastTouch [.added shared 1, .accessed shared 2] block.objMeta.objectId).isSome ∨
        (0 : Rat) ≤ 3 := fun block candidate => .inr (by decide +kernel)
  refine (components_normalised_iff _ _ _ (by decide +kernel) recorded).mpr ?_ shared
    List.mem_cons_self
  intro block candidate
  rw [List.mem_singleton.mp candidate]
  exact .inr ⟨shared, 2, by simp, le_rfl⟩

/-- A block that three sessions share when it is added has a sharing of three. -/
theorem components_not_normalised :
    ¬ ∀ (events : List EvictionEvent) (now : Rat) (candidates : List KVCacheBlock),
      (readings events ++ [now]).Pairwise (· ≤ ·) →
      (∀ block ∈ candidates, Registered events block ∧
        (lastTouch events block.objMeta.objectId).isSome) →
      ∀ block ∈ candidates, Normalised (drive exec new events) now block := by
  intro always
  have normalised := always [.added shared 1] 2 [shared] (by decide +kernel) (by
    intro block candidate
    rw [List.mem_singleton.mp candidate]
    exact ⟨⟨_, List.mem_cons_self, shared, rfl, rfl, rfl⟩, by decide +kernel⟩)
    shared List.mem_cons_self
  exact absurd normalised.shared.2 (by decide +kernel)

/-- The clock is set back by one second between an access and the choice. -/
theorem division_by_zero :
    ¬ ∀ (events : List EvictionEvent) (now : Rat) (candidates : List KVCacheBlock),
      (∃ decision, (drive exec new events).selectVictim now candidates = .ok decision) ∧
        ∀ block ∈ candidates, ∀ later ∈ candidates,
          LaterIsRecent (drive exec new events) (lastTouch events) now block later := by
  intro always
  obtain ⟨⟨decision, chosen⟩, -⟩ := always [.accessed shared 10] 9 [shared]
  have raised : (drive exec new [.accessed shared 10]).selectVictim 9 [shared] =
      .error (.zeroDivisionError "float division by zero") := by decide +kernel
  cases raised.symm.trans chosen

end

end PrefixReuseEviction

end IntelliL3
