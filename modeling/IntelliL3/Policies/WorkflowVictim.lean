import IntelliL3.Policies.WorkflowRounding

/-! # Victims of workflow-aware eviction

The victim is the first candidate of the lowest score. Where the candidates differ in
recency only, their ages decide, each age as it shows at its own reading of the clock.
Rounding turns no two ages around, but it can give them one score, and then the place in
the list decides.
-/

namespace IntelliL3

open Lib EvictionEvent

namespace WorkflowAwareEviction

section

variable {F : Type} [LinearOrder F] [Zero F] [One F] [Add F] [Sub F] [Neg F] [Mul F] [Div F]
variable [RatCast F] {candidates : List KVCacheBlock}

/-- The first candidate of the lowest score is chosen. -/
theorem selectVictim_first (float : String → Option PyFloat) (s : WorkflowAwareEviction)
    (clock : Nat → Rat) (given : candidates ≠ []) :
    ∃ place chosen, FirstLeastAt (fun i block => s.scoreBlock F float block (clock i)) candidates
        place chosen ∧
      s.selectVictim F float clock candidates =
        some { objectId := chosen.objMeta.objectId
               priority := -s.scoreBlock F float chosen (clock place) } := by
  have scored : (sortBy (fun row : KVCacheBlock × Nat => s.scoreBlock F float row.1 (clock row.2))
      candidates.zipIdx).head? ≠ none := by
    rw [ne_eq, head?_sortBy_eq_none_iff, List.zipIdx_eq_nil_iff]
    exact given
  obtain ⟨⟨chosen, place⟩, first⟩ := Option.ne_none_iff_exists'.mp scored
  refine ⟨place, chosen, (head?_sortBy_eq_some_iff.mp first).zipIdx, ?_⟩
  rw [selectVictim, if_neg (by simpa using given)]
  simp only [head?_sortBy_map]
  change Option.map _ (Option.map _ (sortBy (fun row : KVCacheBlock × Nat =>
    s.scoreBlock F float row.1 (clock row.2)) candidates.zipIdx).head?) = _
  rw [first]
  rfl

end

/-- The candidates differ in the recency component alone. -/
structure AlikeButRecency (float : String → Option PyFloat) (s : WorkflowAwareEviction)
    (block other : KVCacheBlock) : Prop where
  frequency : s.frequencyScore PyFloat block.objMeta.objectId =
    s.frequencyScore PyFloat other.objMeta.objectId
  shared : s.sharedScore PyFloat block = s.sharedScore PyFloat other
  prefixReuse : clamp01 (block.objMeta.reuseScore : PyFloat) =
    clamp01 (other.objMeta.reuseScore : PyFloat)
  workflow : s.workflowNextUseScore PyFloat block = s.workflowNextUseScore PyFloat other
  size : s.sizePenalty PyFloat block = s.sizePenalty PyFloat other
  reload : s.reloadCostPenalty PyFloat float block = s.reloadCostPenalty PyFloat float other

/-- How old a touch shows at a reading of the clock. -/
def age (now time : Rat) : PyFloat := max 0 ((now : PyFloat) - (time : PyFloat))

/-- One of the oldest candidates shows at least the age of every younger one, or is rounded to
    its score; and none of them that comes before it is rounded to its score. -/
def OldestShows (touched : String → Option Rat) (clock : Nat → Rat)
    (score : Nat → KVCacheBlock → PyFloat) (candidates : List KVCacheBlock) : Prop :=
  ∃ (place : Nat) (oldest : KVCacheBlock), candidates[place]? = some oldest ∧
    ∃ time ∈ touched oldest.objMeta.objectId,
      (∀ block ∈ candidates, ∀ other ∈ touched block.objMeta.objectId, time ≤ other) ∧
      ∀ (i : Nat) (block : KVCacheBlock), candidates[i]? = some block →
        ∀ other ∈ touched block.objMeta.objectId, time < other →
        (age (clock i) other ≤ age (clock place) time ∨ score place oldest = score i block) ∧
        (i < place → score place oldest ≠ score i block)

section

variable {s : WorkflowAwareEviction} {float : String → Option PyFloat} {clock : Nat → Rat}
variable {candidates : List KVCacheBlock}

/-- The older of two blocks does not score higher. -/
theorem scoreBlock_le_of_age {block other : KVCacheBlock} {now now' time time' : Rat}
    (alike : AlikeButRecency float s block other)
    (touched : s.accessTimes.get? block.objMeta.objectId = some time)
    (touched' : s.accessTimes.get? other.objMeta.objectId = some time')
    (older : age now' time' ≤ age now time) :
    s.scoreBlock PyFloat float block now ≤ s.scoreBlock PyFloat float other now' := by
  refine scoreBlock_le ?_ alike.workflow.le alike.frequency alike.shared alike.prefixReuse
    alike.size alike.reload
  simp only [recencyScore, touched, touched']
  exact PyFloat.closeness_antitone (le_max_left 0 _) older

/-- A score is at most another one because of the ages, or because of rounding. -/
theorem scoreBlock_le_iff_age {block other : KVCacheBlock} {now now' time time' : Rat}
    (alike : AlikeButRecency float s block other) (alike' : AlikeButRecency float s other block)
    (touched : s.accessTimes.get? block.objMeta.objectId = some time)
    (touched' : s.accessTimes.get? other.objMeta.objectId = some time') :
    s.scoreBlock PyFloat float block now ≤ s.scoreBlock PyFloat float other now' ↔
      age now' time' ≤ age now time ∨
        s.scoreBlock PyFloat float block now = s.scoreBlock PyFloat float other now' := by
  constructor
  · intro le
    refine or_iff_not_imp_left.mpr fun younger => le.antisymm ?_
    exact scoreBlock_le_of_age alike' touched' touched (not_le.mp younger).le
  · rintro (older | same)
    · exact scoreBlock_le_of_age alike touched touched' older
    · exact same.le

/-- Among candidates that differ in recency alone, an oldest one is evicted exactly when it
    shows its age. -/
theorem selectVictim_oldest_iff (given : candidates ≠ [])
    (tracked : ∀ block ∈ candidates, (s.accessTimes.get? block.objMeta.objectId).isSome)
    (alike : ∀ block ∈ candidates, ∀ other ∈ candidates, AlikeButRecency float s block other) :
    (∃ decision, s.selectVictim PyFloat float clock candidates = some decision ∧
        IsOldest s.accessTimes.get? candidates decision.objectId) ↔
      OldestShows s.accessTimes.get? clock
        (fun i block => s.scoreBlock PyFloat float block (clock i)) candidates := by
  obtain ⟨place, chosen, first, selected⟩ := selectVictim_first (F := PyFloat) float s clock given
  have compared : ∀ {i oldest j block time time'}, candidates[i]? = some oldest →
      candidates[j]? = some block → s.accessTimes.get? oldest.objMeta.objectId = some time →
      s.accessTimes.get? block.objMeta.objectId = some time' →
      (s.scoreBlock PyFloat float oldest (clock i) ≤ s.scoreBlock PyFloat float block (clock j) ↔
        age (clock j) time' ≤ age (clock i) time ∨
          s.scoreBlock PyFloat float oldest (clock i) =
            s.scoreBlock PyFloat float block (clock j)) := fun found found' =>
    scoreBlock_le_iff_age
      (alike _ (List.mem_of_getElem? found) _ (List.mem_of_getElem? found'))
      (alike _ (List.mem_of_getElem? found') _ (List.mem_of_getElem? found))
  rw [selected]
  simp only [Option.some.injEq, exists_eq_left']
  rw [first.iff_ahead
    (P := fun block => IsOldest s.accessTimes.get? candidates block.objMeta.objectId)]
  constructor
  · rintro ⟨i, oldest, found, ⟨-, time, touched, least⟩, ahead⟩
    refine ⟨i, oldest, found, time, touched, least, fun j block found' other touched' younger => ?_⟩
    have notOldest : ¬ IsOldest s.accessTimes.get? candidates block.objMeta.objectId := by
      rintro ⟨-, time', touched'', least'⟩
      obtain rfl := Option.some.inj (touched'.symm.trans touched'')
      exact (least' oldest (List.mem_of_getElem? found) time touched).not_gt younger
    obtain ⟨le, apart⟩ := ahead j block found' notOldest
    exact ⟨(compared found found' touched touched').mp le, apart⟩
  · rintro ⟨i, oldest, found, time, touched, least, shows⟩
    refine ⟨i, oldest, found, ⟨⟨oldest, List.mem_of_getElem? found, rfl⟩, time, touched, least⟩,
      fun j block found' notOldest => ?_⟩
    have member := List.mem_of_getElem? found'
    obtain ⟨other, touched'⟩ := Option.isSome_iff_exists.mp (tracked block member)
    have younger : time < other := by
      refine (least block member other touched').lt_of_ne ?_
      rintro rfl
      exact notOldest ⟨⟨block, member, rfl⟩, time, touched', least⟩
    obtain ⟨shown, apart⟩ := shows j block found' other touched' younger
    exact ⟨(compared found found' touched touched').mpr shown, apart⟩

end

section

variable {graph : Option AgentStepGraph} {currentStepId : Option String}
variable {recencyWeight frequencyWeight sharedWeight prefixWeight workflowWeight sizeWeight
  reloadWeight reloadCostNormalizerMs : Rat} {sizeNormalizerBytes : Int}
variable {fresh : WorkflowAwareEviction} {candidates : List KVCacheBlock}

end

section

private def idleBlock (objectId : String) : KVCacheBlock where
  objMeta := .new .kvCache objectId 0

private def both : List KVCacheBlock := [idleBlock "old", idleBlock "young"]

private def addedBoth : List WorkflowAwareCall :=
  [.notified (.added (idleBlock "old") 1), .notified (.added (idleBlock "young") 2)]

private theorem mem_both {block : KVCacheBlock} :
    block ∈ both ↔ block = idleBlock "old" ∨ block = idleBlock "young" := by
  simp only [both, List.mem_cons, List.not_mem_nil, or_false]

private theorem both_tracked : ∀ block ∈ both,
    (lastTouch (WorkflowAwareCall.events addedBoth) block.objMeta.objectId).isSome := by
  decide +kernel

private theorem both_alike (float : String → Option PyFloat) (fresh : WorkflowAwareEviction) :
    ∀ block ∈ both, ∀ other ∈ both,
      AlikeButRecency float (drive exec fresh addedBoth) block other := by
  have counted : ∀ block ∈ both,
      (drive exec fresh addedBoth).accessCounts.get? block.objMeta.objectId = some 1 := by
    intro block candidate
    rcases mem_both.mp candidate with rfl | rfl <;>
      simp [drive, addedBoth, exec, notify, onBlockAdded, trackShared, idleBlock, ObjectMeta.new,
        Dict.get?_set]
  intro block candidate other candidate'
  have frequency : (drive exec fresh addedBoth).frequencyScore PyFloat block.objMeta.objectId =
      (drive exec fresh addedBoth).frequencyScore PyFloat other.objMeta.objectId := by
    rw [frequencyScore, frequencyScore, counted block candidate, counted other candidate']
  rcases mem_both.mp candidate with rfl | rfl <;> rcases mem_both.mp candidate' with rfl | rfl <;>
    exact ⟨frequency, rfl, rfl, rfl, rfl, rfl⟩

private theorem touched_old :
    lastTouch (WorkflowAwareCall.events addedBoth) "old" = some 1 := by decide +kernel

private theorem touched_young :
    lastTouch (WorkflowAwareCall.events addedBoth) "young" = some 2 := by decide +kernel

/-- Ten, twenty and so on. -/
private def ticking (i : Nat) : Rat := 10 * (i + 1)

private theorem ticking_monotone : Monotone ticking := by
  intro i j before
  have cast : (i : Rat) ≤ j := Nat.cast_le.mpr before
  unfold ticking
  linarith

end

end WorkflowAwareEviction

end IntelliL3
