import IntelliL3.Agent.ToolCacheMap

/-! # The newest artifact of a key

Caches come one after another over one store, each with an empty index of its
own, so that artifacts outlive the index that knew them. A rebuild then chooses
among the artifacts of a key, by how long they live and not by when they were
put: the newest one wins exactly when it also lives longest.
-/

namespace IntelliL3

open Lib

/-- A new cache over the same store, or a call of the present one. -/
inductive InstanceCall where
  | newInstance (requireSourceVersion : Bool)
  | run (c : ToolCall)

/-- A put, a get or a rebuild. -/
def ToolCall.IsTraffic : ToolCall → Prop
  | .put .. | .get .. | .rebuild .. => True
  | .invalidate .. | .purge .. => False

/-- What a call is told the time is. -/
def ToolCall.now? : ToolCall → Option Rat
  | .put _ _ _ _ _ _ now _ _ | .get _ _ _ _ now _ | .rebuild now _ | .purge now _ => some now
  | .invalidate .. => none

namespace InstanceCall

def call? : InstanceCall → Option ToolCall
  | .newInstance _ => none
  | .run c => some c

def exec {β η Bytes : Type} [StorageBackend (EStateM PyError β) Bytes] [PyRuntime] [PyJson]
    [Serializer Bytes] [Hnswlib η] : InstanceCall → CacheM β η ToolArtifactCache Unit
  | .newInstance requireSourceVersion =>
      CacheSession.onCache (set (ToolArtifactCache.new requireSourceVersion))
  | .run c => do let _ ← ToolArtifactCache.exec c

end InstanceCall

section

variable [PyRuntime] [PyJson]

/-- What the present cache requires, and the artifact put last for each key. -/
structure PutHistory where
  requireSourceVersion : Bool
  newest : ToolCacheKey → Option ToolCallArtifact

namespace PutHistory

def start (requireSourceVersion : Bool) : PutHistory :=
  { requireSourceVersion, newest := fun _ => none }

def after (h : PutHistory) : InstanceCall → PutHistory
  | .newInstance requireSourceVersion => { h with requireSourceVersion }
  | .run (.put toolName args output ttl scope sourceVersion now uuid clock) =>
      match (ToolArtifactCache.new h.requireSourceVersion).artifactFor toolName args output ttl
          scope sourceVersion now uuid clock with
      | .ok artifact =>
          { h with newest := Function.update h.newest artifact.key (some artifact.stamp) }
      | .error _ => h
  | .run _ => h

end PutHistory

end

/-! ## First maxima -/

/-- In a sorted list the first of the largest is the least of them. -/
theorem argmax_eq_some_iff_of_sorted {α β : Type} [LinearOrder α] [LinearOrder β] (f : α → β)
    {l : List α} (sorted : l.Pairwise (· < ·)) (m : α) :
    l.argmax f = some m ↔ m ∈ l ∧ ∀ a ∈ l, a ≠ m → f a < f m ∨ f a = f m ∧ m < a := by
  have ordered : ∀ {a}, m ∈ l → a ∈ l → (l.idxOf m ≤ l.idxOf a ↔ m ≤ a) := by
    intro a first second
    have here := List.idxOf_lt_length_of_mem first
    have there := List.idxOf_lt_length_of_mem second
    have increasing : l[l.idxOf m] ≤ l[l.idxOf a] ↔ l.idxOf m ≤ l.idxOf a :=
      sorted.sortedLT.getElem_le_getElem_iff
    rw [← increasing, List.getElem_idxOf, List.getElem_idxOf]
  rw [List.argmax_eq_some_iff]
  constructor
  · rintro ⟨member, maximal, first⟩
    refine ⟨member, fun a listed differ => ?_⟩
    rcases (maximal a listed).lt_or_eq with less | same
    · exact .inl less
    · have below := (ordered member listed).mp (first a listed same.ge)
      exact .inr ⟨same, lt_of_le_of_ne below differ.symm⟩
  · rintro ⟨member, wins⟩
    refine ⟨member, fun a listed => ?_, fun a listed equal => ?_⟩
    · by_cases same : a = m
      · rw [same]
      · rcases wins a listed same with less | ⟨equal, -⟩
        · exact less.le
        · exact equal.le
    · rw [ordered member listed]
      by_cases same : a = m
      · rw [same]
      · rcases wins a listed same with less | ⟨-, below⟩
        · exact absurd equal (not_le.mpr less)
        · exact below.le

/-! ## What survives -/

open ToolArtifactCache

section

variable [PyRuntime] [PyJson]

/-- The id of the artifact is that of its key and version, which a call was for. -/
def ToolCallArtifact.Signed (calls : List ToolCall) (artifact : ToolCallArtifact) : Prop :=
  callId (artifact.key, artifact.sourceVersion) = artifact.toolCallId ∧
    Issued calls (artifact.key, artifact.sourceVersion)

/-- The newest artifact of a key is live until it expires; what else is live or indexed is
    under the id of its key. -/
structure Preserves (calls : List ToolCall) (now : Rat) (h : PutHistory) (p : ToolPicture) :
    Prop where
  required : p.requireSourceVersion = h.requireSourceVersion
  indexed : ∀ key objectId, p.index.get? key = some objectId →
    ∃ version, callId (key, version) = objectId ∧ Issued calls (key, version)
  signed : ∀ objectId artifact, p.live objectId = some artifact →
    artifact.toolCallId = objectId ∧ artifact.Signed calls
  newest : ∀ key artifact, h.newest key = some artifact →
    artifact.key = key ∧ artifact.Signed calls ∧
      (artifact.isExpired now = false → p.live artifact.toolCallId = some artifact)

namespace Preserves

variable {calls : List ToolCall} {now : Rat} {h : PutHistory} {p : ToolPicture}

theorem start (requireSourceVersion : Bool) :
    Preserves calls now (.start requireSourceVersion) (.empty requireSourceVersion) :=
  ⟨rfl, fun _ _ found => (by cases found), fun _ _ found => (by cases found),
    fun _ _ found => (by cases found)⟩

/-- Whatever takes away no artifact but expired ones, and indexes what is live. -/
theorem prune (preserves : Preserves calls now h p) {q : ToolPicture}
    (required : q.requireSourceVersion = p.requireSourceVersion)
    (index : ∀ key objectId, q.index.get? key = some objectId →
      p.index.get? key = some objectId ∨
        ∃ artifact, p.live objectId = some artifact ∧ artifact.key = key)
    (live : ∀ objectId artifact, q.live objectId = some artifact →
      p.live objectId = some artifact)
    (kept : ∀ objectId artifact, p.live objectId = some artifact →
      artifact.isExpired now = false → q.live objectId = some artifact) :
    Preserves calls now h q where
  required := required.trans preserves.required
  indexed := by
    intro key objectId known
    rcases index key objectId known with before | ⟨artifact, held, keyed⟩
    · exact preserves.indexed key objectId before
    · obtain ⟨named, own, issued⟩ := preserves.signed objectId artifact held
      rw [keyed] at own issued
      exact ⟨artifact.sourceVersion, own.trans named, issued⟩
  signed := fun objectId artifact held =>
    preserves.signed objectId artifact (live objectId artifact held)
  newest := by
    intro key artifact last
    obtain ⟨keyed, own, lives⟩ := preserves.newest key artifact last
    exact ⟨keyed, own, fun lasting => kept _ _ (lives lasting) lasting⟩

theorem newInstance (preserves : Preserves calls now h p) (requireSourceVersion : Bool) :
    Preserves calls now (h.after (.newInstance requireSourceVersion))
      { p with requireSourceVersion, index := .empty } where
  required := rfl
  indexed _ _ known := by cases known
  signed := preserves.signed
  newest := preserves.newest

/-- A put replaces artifacts of its own key only. -/
theorem put (preserves : Preserves calls now h p)
    (free : CollisionFree calls) {artifact : ToolCallArtifact} (own : artifact.Signed calls) :
    Preserves calls now
      { h with newest := Function.update h.newest artifact.key (some artifact.stamp) }
      (p.put artifact) where
  required := (p.put_required artifact).trans preserves.required
  indexed := by
    intro key objectId known
    change (p.index.set artifact.key artifact.toolCallId).get? key = some objectId at known
    rw [Dict.get?_set] at known
    split at known
    · next same =>
        cases known
        exact ⟨artifact.sourceVersion, same ▸ own.1, same ▸ own.2⟩
    · exact preserves.indexed key objectId known
  signed := by
    intro objectId other held
    rw [ToolPicture.live_put] at held
    split at held
    · next here =>
        cases held
        exact ⟨here.symm, own⟩
    · split at held
      · cases held
      · exact preserves.signed objectId other held
  newest := by
    intro key other last
    by_cases same : key = artifact.key
    · subst same
      simp only [Function.update_self, Option.some.injEq] at last
      subst last
      exact ⟨rfl, own, fun _ => (p.live_put _ _).trans (if_pos rfl)⟩
    · simp only [Function.update_of_ne same] at last
      obtain ⟨keyed, signed, lives⟩ := preserves.newest key other last
      refine ⟨keyed, signed, fun lasting => ?_⟩
      rw [ToolPicture.live_put]
      have differ : ∀ version, Issued calls (artifact.key, version) →
          callId (artifact.key, version) ≠ other.toolCallId := by
        intro version issued equal
        have signature := free _ _ issued signed.2 (equal.trans signed.1.symm)
        exact same (keyed.symm.trans (congrArg Prod.fst signature).symm)
      rw [if_neg fun here => differ _ own.2 (own.1.trans here.symm), if_neg, lives lasting]
      intro previous
      obtain ⟨version, named, issued⟩ := preserves.indexed _ _ previous
      exact differ version issued named

theorem get (preserves : Preserves calls now h p) (key : ToolCacheKey)
    (sourceVersion : Option String) {time : Rat} (past : time ≤ now) :
    Preserves calls now h (p.get key sourceVersion time).2 := by
  have popped : ∀ other objectId, (p.pop key).index.get? other = some objectId →
      p.index.get? other = some objectId := by
    intro other objectId known
    change (p.index.erase key).get? other = some objectId at known
    rw [Dict.get?_erase] at known
    split at known
    · cases known
    · exact known
  have pop : Preserves calls now h (p.pop key) :=
    preserves.prune rfl (fun other objectId known => .inl (popped other objectId known))
      (fun _ _ held => held) fun _ _ held _ => held
  unfold ToolPicture.get
  cases p.index.get? key with
  | none => exact preserves
  | some objectId =>
      simp only
      cases found : p.live objectId with
      | none => exact pop
      | some artifact =>
          simp only
          split
          · exact preserves
          · split
            · exact preserves
            · split
              · next expired =>
                  refine pop.prune rfl (fun _ _ known => .inl known) (fun other held live => ?_)
                    fun other held live lasting => ?_
                  · rw [ToolPicture.live_delete] at live
                    split at live
                    · cases live
                    · exact live
                  · rw [ToolPicture.live_delete, if_neg, live]
                    rintro rfl
                    cases found.symm.trans live
                    have ended : artifact.expiresAt ≤ time := of_decide_eq_true expired
                    exact of_decide_eq_false lasting (ended.trans past)
              · exact preserves

theorem rebuild (preserves : Preserves calls now h p) {time : Rat} (past : time ≤ now)
    {objectIds : List String} (distinct : objectIds.Nodup) :
    Preserves calls now h (p.rebuild time objectIds).2 := by
  obtain ⟨lives, indexes⟩ := p.rebuild_spec time
    (fun objectId artifact held => (preserves.signed objectId artifact held).1) distinct
  refine preserves.prune (p.rebuild_required time objectIds) (fun key objectId known => ?_)
    (fun objectId artifact held => ?_) fun objectId artifact held lasting => ?_
  · rw [indexes] at known
    obtain ⟨artifact, held, keyed, -⟩ := (p.candidate_iff _ _ _).mp
      (List.mem_filter.mp (List.argmax_mem known)).2
    exact .inr ⟨artifact, held, keyed⟩
  · rw [lives] at held
    split at held
    · exact (Option.filter_eq_some_iff.mp held).1
    · exact held
  · have still : artifact.isExpired time = false := by
      have later : ¬ artifact.expiresAt ≤ now := of_decide_eq_false lasting
      exact decide_eq_false fun ended => later (ended.trans past)
    rw [lives, held]
    simp [Option.filter, still]

end Preserves

section

variable {η Bytes : Type} [Serializer Bytes] [LawfulSerializer Bytes] [Hnswlib η]

/-- A cache shows a picture whose newest artifacts are those of a history. -/
def Holds (calls : List ToolCall) (now : Rat) (h : PutHistory)
    (s : CacheSession (MemoryBackend Bytes) η ToolArtifactCache) : Prop :=
  ∃ p, Shows s p ∧ Preserves calls now h p

private theorem holds_step {calls : List ToolCall} (free : CollisionFree calls) {now : Rat}
    {h : PutHistory} {s : CacheSession (MemoryBackend Bytes) η ToolArtifactCache}
    (holds : Holds calls now h s) {c : InstanceCall} (traffic : ∀ d, c = .run d → d.IsTraffic)
    (past : ∀ d, c = .run d → ∀ time, d.now? = some time → time ≤ now)
    (made : ∀ d, c = .run d → d ∈ calls) :
    Holds calls now (h.after c) (EStateResult.state (c.exec s)) := by
  obtain ⟨p, shows, preserves⟩ := holds
  cases c with
  | newInstance requireSourceVersion =>
      refine ⟨_, ?_, preserves.newInstance requireSourceVersion⟩
      exact ⟨rfl, rfl, shows.has, shows.named, shows.plain⟩
  | run c =>
      have past := past c rfl
      have made := made c rfl
      have traffic := traffic c rfl
      cases c with
      | put toolName args output ttl scope sourceVersion now' uuid clock =>
          have same : s.cache.requireSourceVersion = h.requireSourceVersion :=
            shows.required.trans preserves.required
          have alike : s.cache.artifactFor toolName args output ttl scope sourceVersion now' uuid
              clock = (ToolArtifactCache.new h.requireSourceVersion).artifactFor toolName args
                output ttl scope sourceVersion now' uuid clock := by
            simp only [artifactFor, same]
            rfl
          rw [PutHistory.after, ← alike]
          cases admitted : s.cache.artifactFor toolName args output ttl scope sourceVersion now'
              uuid clock with
          | error e =>
              simp only [InstanceCall.exec, ToolArtifactCache.exec, bind_run, put_error admitted]
              exact ⟨p, shows, preserves⟩
          | ok artifact =>
              obtain ⟨s', done, shown⟩ := put_shows shows admitted
              simp only [InstanceCall.exec, ToolArtifactCache.exec, bind_run, done]
              exact ⟨_, shown, preserves.put free (signed_put made admitted)⟩
      | get toolName args scope sourceVersion now' clock =>
          cases looked : keyFor toolName args scope with
          | error e =>
              simp only [InstanceCall.exec, ToolArtifactCache.exec, bind_run, get_error looked]
              exact ⟨p, shows, preserves⟩
          | ok key =>
              obtain ⟨s', done, shown⟩ := get_shows shows looked sourceVersion now' clock
              simp only [InstanceCall.exec, ToolArtifactCache.exec, bind_run, done]
              exact ⟨_, shown, preserves.get key sourceVersion (past now' rfl)⟩
      | rebuild now' clock =>
          obtain ⟨objectIds, s', sorted, -, done, shown⟩ := rebuild_shows shows now' clock
          simp only [InstanceCall.exec, ToolArtifactCache.exec, bind_run, done]
          exact ⟨_, shown, preserves.rebuild (past now' rfl) (sorted.imp ne_of_lt)⟩
      | invalidate | purge => exact traffic.elim

theorem holds_run {issued : List ToolCall} (free : CollisionFree issued) {now : Rat}
    {h : PutHistory} {s : CacheSession (MemoryBackend Bytes) η ToolArtifactCache}
    (holds : Holds issued now h s) {calls : List InstanceCall}
    (traffic : ∀ c, .run c ∈ calls → c.IsTraffic)
    (past : ∀ c, .run c ∈ calls → ∀ time, c.now? = some time → time ≤ now)
    (made : ∀ c, .run c ∈ calls → c ∈ issued) :
    Holds issued now (calls.foldl PutHistory.after h) (drive InstanceCall.exec s calls) := by
  induction calls generalizing h s with
  | nil => exact holds
  | cons c rest ih =>
      refine ih ?_ (fun d later => traffic d (List.mem_cons_of_mem _ later))
        (fun d later => past d (List.mem_cons_of_mem _ later))
        fun d later => made d (List.mem_cons_of_mem _ later)
      refine holds_step free holds ?_ ?_ ?_
      · rintro d rfl
        exact traffic d List.mem_cons_self
      · rintro d rfl
        exact past d List.mem_cons_self
      · rintro d rfl
        exact made d List.mem_cons_self

/-- What a get answers right after a rebuild: of the artifacts of the key that have not
    expired, the one with the least id among those that live longest. -/
theorem get_rebuild {calls : List ToolCall} {now : Rat} {h : PutHistory} {p : ToolPicture}
    (preserves : Preserves calls now h p) {key : ToolCacheKey} {artifact : ToolCallArtifact}
    (newest : h.newest key = some artifact) (lasting : artifact.isExpired now = false)
    {objectIds : List String} (sorted : objectIds.Pairwise (· < ·))
    (all : ∀ objectId, objectId ∈ objectIds ↔ (p.live objectId).isSome) :
    ∃ chosen winner, p.live chosen = some winner ∧
      (objectIds.filter (p.candidate now key)).argmax p.expiry = some chosen ∧
      ((p.rebuild now objectIds).2.get key none now).1 = some winner := by
  obtain ⟨keyed, -, lives⟩ := preserves.newest key artifact newest
  have admitted : artifact.toolCallId ∈ objectIds.filter (p.candidate now key) := by
    refine List.mem_filter.mpr ⟨(all _).mpr (by rw [lives lasting]; rfl), ?_⟩
    exact (p.candidate_iff _ _ _).mpr ⟨artifact, lives lasting, keyed, lasting⟩
  obtain ⟨live, index⟩ := p.rebuild_spec now
    (fun objectId artifact held => (preserves.signed objectId artifact held).1)
    (sorted.imp ne_of_lt)
  cases chosen : (objectIds.filter (p.candidate now key)).argmax p.expiry with
  | none =>
      rw [List.argmax_eq_none.mp chosen] at admitted
      cases admitted
  | some objectId =>
      obtain ⟨listed, candidate⟩ := List.mem_filter.mp (List.argmax_mem chosen)
      obtain ⟨winner, held, own, unexpired⟩ := (p.candidate_iff _ _ _).mp candidate
      refine ⟨objectId, winner, held, rfl, ?_⟩
      have inScope : winner.permissionScope = key.2.2 := congrArg (·.2.2) own
      have kept : (p.rebuild now objectIds).2.live objectId = some winner := by
        rw [live, if_pos listed, held]
        simp [Option.filter, unexpired]
      simp [ToolPicture.get, index, chosen, kept, ToolCallArtifact.versionDiffers, inScope,
        unexpired]

variable (Bytes) in
/-- Store and present cache after a history that began with an empty store. -/
def sessionAfter (config : L3Config) (metadata : MetadataStore η) (requireSourceVersion : Bool)
    (calls : List InstanceCall) : CacheSession (MemoryBackend Bytes) η ToolArtifactCache :=
  drive InstanceCall.exec ⟨.overEmpty Bytes config metadata, .new requireSourceVersion⟩ calls

/-- A rebuild, and a get of any version right after it. -/
def rebuildAndGet (toolName : String) (args : PyValue) (scope : ArtifactScope) (now clock : Rat) :
    CacheM (MemoryBackend Bytes) η ToolArtifactCache (Option ToolCallArtifact) := do
  let _ ← rebuildIndex now clock
  getToolArtifact toolName args scope none now clock

/-- After any history, a rebuild and a get answer with the artifact put last for the key, if
    it has not expired, exactly when every other artifact of the key still in the store
    expires earlier, or at the same time and has a larger id. -/
theorem newest_artifact_wins_iff (config : L3Config) (metadata : MetadataStore η)
    (requireSourceVersion : Bool) (calls : List InstanceCall)
    (traffic : ∀ c, .run c ∈ calls → c.IsTraffic) (now clock : Rat)
    (past : ∀ c, .run c ∈ calls → ∀ time, c.now? = some time → time ≤ now)
    (free : CollisionFree (calls.filterMap InstanceCall.call?)) {toolName : String}
    {args : PyValue} {scope : ArtifactScope} {key : ToolCacheKey}
    (looked : keyFor toolName args scope = .ok key) {artifact : ToolCallArtifact}
    (newest : (calls.foldl PutHistory.after (.start requireSourceVersion)).newest key =
      some artifact)
    (lasting : artifact.isExpired now = false) :
    EStateResult.outcome (rebuildAndGet toolName args scope now clock
        (sessionAfter Bytes config metadata requireSourceVersion calls)) =
        .ok (some (artifact.touch clock)) ↔
      ∀ objectId other, EStateResult.outcome (CacheSession.onStore
          (UnifiedObjectStore.getToolArtifact objectId clock)
          (sessionAfter Bytes config metadata requireSourceVersion calls)) = .ok (some other) →
        other.key = key → other.isExpired now = false → objectId ≠ artifact.toolCallId →
          other.expiresAt < artifact.expiresAt ∨
            other.expiresAt = artifact.expiresAt ∧ artifact.toolCallId < objectId := by
  have made : ∀ c, InstanceCall.run c ∈ calls → c ∈ calls.filterMap InstanceCall.call? :=
    fun c member => List.mem_filterMap.mpr ⟨.run c, member, rfl⟩
  have empty : Shows (⟨.overEmpty Bytes config metadata, .new requireSourceVersion⟩ :
      CacheSession (MemoryBackend Bytes) η ToolArtifactCache) (.empty requireSourceVersion) :=
    .new requireSourceVersion config metadata
  obtain ⟨p, shows, preserves⟩ :=
    holds_run free ⟨_, empty, .start requireSourceVersion⟩ traffic past made
  change Shows (sessionAfter Bytes config metadata requireSourceVersion calls) p at shows
  generalize sessionAfter Bytes config metadata requireSourceVersion calls = s at shows ⊢
  obtain ⟨objectIds, s', sorted, all, rebuilt, shown⟩ := rebuild_shows shows now clock
  obtain ⟨s'', answered, -⟩ := get_shows shown looked none now clock
  obtain ⟨chosen, winner, held, choice, answer⟩ :=
    get_rebuild preserves newest lasting sorted all
  obtain ⟨keyed, -, lives⟩ := preserves.newest key artifact newest
  have live := lives lasting
  have reply : EStateResult.outcome (rebuildAndGet toolName args scope now clock s) =
      .ok (some (winner.touch clock)) := by
    simp only [rebuildAndGet, bind_run, rebuilt, answered, answer]
    rfl
  -- The id of an answer tells which artifact it is.
  have wins : winner.touch clock = artifact.touch clock ↔ chosen = artifact.toolCallId := by
    constructor
    · intro same
      have named : winner.toolCallId = artifact.toolCallId := congrArg (·.toolCallId) same
      rw [← named, (preserves.signed chosen winner held).1]
    · rintro rfl
      rw [Option.some.inj (held.symm.trans live)]
  rw [reply, Except.ok.injEq, Option.some.injEq, wins, ← Option.some.injEq, ← choice,
    argmax_eq_some_iff_of_sorted _ (sorted.filter _)]
  have expiry : ∀ {objectId other}, p.live objectId = some other →
      p.expiry objectId = other.expiresAt := fun held => (by rw [ToolPicture.expiry, held])
  constructor
  · rintro ⟨-, first⟩ objectId other stored own unexpired differ
    rw [shows.getArtifact] at stored
    obtain ⟨other', held', same⟩ := Option.map_eq_some_iff.mp (Except.ok.inj stored)
    subst same
    have listed : objectId ∈ objectIds.filter (p.candidate now key) :=
      List.mem_filter.mpr ⟨(all objectId).mpr (by rw [held']; rfl),
        (p.candidate_iff _ _ _).mpr ⟨other', held', own, unexpired⟩⟩
    have later := first objectId listed differ
    rw [expiry held', expiry live] at later
    exact later
  · intro earlier
    refine ⟨List.mem_filter.mpr ⟨(all _).mpr (by rw [live]; rfl),
      (p.candidate_iff _ _ _).mpr ⟨artifact, live, keyed, lasting⟩⟩, ?_⟩
    intro objectId listed differ
    obtain ⟨other, held', own, unexpired⟩ :=
      (p.candidate_iff _ _ _).mp (List.mem_filter.mp listed).2
    rw [expiry held', expiry live]
    refine earlier objectId (other.touch clock) ?_ own unexpired differ
    rw [shows.getArtifact, held']
    rfl

end

end

section

open Reference

/-- Two instances, each with a version of one key. -/
def twoInstances (ttl ttl' : Rat) : List InstanceCall :=
  [.run (.put "search" (.int 1) [] ttl .privateScope "v1" 0 "a" 0), .newInstance false,
    .run (.put "search" (.int 1) [] ttl' .privateScope "v2" 1 "b" 1)]

private theorem twoInstances_free (ttl ttl' : Rat) :
    CollisionFree ((twoInstances ttl ttl').filterMap InstanceCall.call?) := by
  refine free_of_two_versions fun given => ?_
  rintro ⟨c, made, issued⟩
  simp only [twoInstances, InstanceCall.call?, List.filterMap_cons, List.filterMap_nil,
    List.mem_cons, List.not_mem_nil, or_false] at made
  rcases made with rfl | rfl
  · rw [signature, keyFor_search] at issued
    exact .inl (Option.some.inj issued).symm
  · rw [signature, keyFor_search] at issued
    exact .inr (Option.some.inj issued).symm

private theorem twoInstances_traffic (ttl ttl' : Rat) :
    ∀ c, .run c ∈ twoInstances ttl ttl' → c.IsTraffic := by
  intro c member
  simp only [twoInstances, List.mem_cons, InstanceCall.run.injEq, reduceCtorEq, false_or,
    List.not_mem_nil, or_false] at member
  rcases member with rfl | rfl <;> trivial

private theorem twoInstances_past (ttl ttl' : Rat) :
    ∀ c, .run c ∈ twoInstances ttl ttl' → ∀ time, c.now? = some time → time ≤ 2 := by
  intro c member time told
  simp only [twoInstances, List.mem_cons, InstanceCall.run.injEq, reduceCtorEq, false_or,
    List.not_mem_nil, or_false] at member
  rcases member with rfl | rfl <;> cases told <;> decide +kernel

/-- What was put last for the key, and is live at 2. -/
private theorem newest_of_two {ttl ttl' : Rat}
    (last : ((((twoInstances ttl ttl').foldl PutHistory.after (.start false)).newest
      ("search", "6b86b273ff34fce1", .privateScope)).any fun artifact =>
        !artifact.isExpired 2 && artifact.sourceVersion = "v2") = true) :
    ∃ artifact, ((twoInstances ttl ttl').foldl PutHistory.after (.start false)).newest
        ("search", "6b86b273ff34fce1", .privateScope) = some artifact ∧
      artifact.isExpired 2 = false ∧ artifact.sourceVersion = "v2" := by
  obtain ⟨artifact, newest, live⟩ := (Option.any_eq_true _ _).mp last
  rw [Bool.and_eq_true, Bool.not_eq_true', decide_eq_true_eq] at live
  exact ⟨artifact, newest, live⟩

/-- The newest of the two, when it lives for 1000. -/
theorem newest_artifact_wins_two : ∃ artifact : ToolCallArtifact,
    artifact.sourceVersion = "v2" ∧
      (EStateResult.outcome (rebuildAndGet "search" (.int 1) .privateScope 2 2
        (sessionAfter Encoded .default Reference.metadata false (twoInstances 10 1000))) =
          .ok (some (artifact.touch 2)) ↔
        ∀ objectId other, EStateResult.outcome (CacheSession.onStore
            (UnifiedObjectStore.getToolArtifact objectId 2)
            (sessionAfter Encoded .default Reference.metadata false (twoInstances 10 1000))) =
              .ok (some other) →
          other.key = ("search", "6b86b273ff34fce1", .privateScope) →
          other.isExpired 2 = false → objectId ≠ artifact.toolCallId →
            other.expiresAt < artifact.expiresAt ∨
              other.expiresAt = artifact.expiresAt ∧ artifact.toolCallId < objectId) := by
  obtain ⟨artifact, newest, live, version⟩ := @newest_of_two 10 1000 (by decide +kernel)
  exact ⟨artifact, version, newest_artifact_wins_iff .default Reference.metadata false
    (twoInstances 10 1000) (twoInstances_traffic 10 1000) 2 2 (twoInstances_past 10 1000)
    (twoInstances_free 10 1000) keyFor_search newest live⟩

/-- The older of the two answers, when it lives for 1000 and the newest for 10. -/
theorem older_artifact_wins :
    CollisionFree ((twoInstances 1000 10).filterMap InstanceCall.call?) ∧
      ∃ artifact older : ToolCallArtifact,
        ((twoInstances 1000 10).foldl PutHistory.after (.start false)).newest
            ("search", "6b86b273ff34fce1", .privateScope) = some artifact ∧
          artifact.isExpired 2 = false ∧ artifact.sourceVersion = "v2" ∧
          EStateResult.outcome (rebuildAndGet "search" (.int 1) .privateScope 2 2
            (sessionAfter Encoded .default Reference.metadata false (twoInstances 1000 10))) =
              .ok (some older) ∧ older.sourceVersion = "v1" := by
  obtain ⟨artifact, newest, live, version⟩ := @newest_of_two 1000 10 (by decide +kernel)
  have answered : (EStateResult.found (rebuildAndGet "search" (.int 1) .privateScope 2 2
      (sessionAfter Encoded .default Reference.metadata false (twoInstances 1000 10)))).any
        (fun older => older.sourceVersion = "v1") = true := by decide +kernel
  obtain ⟨older, found, oldVersion⟩ := (Option.any_eq_true _ _).mp answered
  exact ⟨twoInstances_free 1000 10, artifact, older, newest, live, version,
    EStateResult.found_eq_some_iff.mp found, of_decide_eq_true oldVersion⟩

end

end IntelliL3
