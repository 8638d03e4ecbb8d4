import IntelliL3.Agent.ToolCacheMap

/-! # What the tool cache counts

Every artifact that entered the cache under a new key is still indexed, or left it
and was counted where it left. What is conserved is the number of live artifacts
with the counters of those deleted, which no operation but a put changes.
-/

namespace IntelliL3

open Lib

/-! ## Live artifacts -/

namespace ToolPicture

/-- A get counts as expired what it deletes. -/
theorem held_get (p : ToolPicture) (finite : p.Finite) (key : ToolCacheKey)
    (sourceVersion : Option String) (now : Rat) (counters : ToolCounters) :
    (p.get key sourceVersion now).2.held +
        (p.tallyGet key sourceVersion now counters).expired = p.held + counters.expired := by
  rw [get, tallyGet]
  cases p.index.get? key with
  | none => rfl
  | some objectId =>
      simp only
      cases live : p.live objectId with
      | none => rfl
      | some artifact =>
          have left := held_delete finite objectId
          rw [live, Option.isSome_some, if_pos rfl] at left
          change ((p.pop key).delete objectId).held + 1 = p.held at left
          simp only
          split
          · rfl
          · split
            · rfl
            · split
              · simp only [ToolCounters.expire]
                omega
              · rfl

/-- A get is a hit or a miss, and one that finds its artifact expired is a miss. -/
theorem tallyGet_cases (p : ToolPicture) (key : ToolCacheKey) (sourceVersion : Option String)
    (now : Rat) (counters : ToolCounters) :
    p.tallyGet key sourceVersion now counters = counters.hit ∨
      p.tallyGet key sourceVersion now counters = counters.miss ∨
      p.tallyGet key sourceVersion now counters = counters.expire := by
  rw [tallyGet]
  repeat' split
  all_goals simp only [true_or, or_true]

theorem held_invalidateKey (counted : Nat × ToolPicture) (finite : counted.2.Finite)
    (key : ToolCacheKey) :
    (invalidateKey counted key).2.Finite ∧
      (invalidateKey counted key).2.held + (invalidateKey counted key).1 =
        counted.2.held + counted.1 := by
  obtain ⟨deleted, p⟩ := counted
  simp only [invalidateKey]
  cases p.index.get? key with
  | none => exact ⟨finite, rfl⟩
  | some objectId =>
      have left := held_delete (p := p) finite objectId
      refine ⟨Finite.delete (p := p) finite objectId, ?_⟩
      change (p.delete objectId).held + (if (p.live objectId).isSome then _ else _) = p.held + _
      split at left
      · rw [if_pos ‹_›]
        omega
      · rw [if_neg ‹_›]
        omega

theorem held_purgeItem (now : Rat) (counted : Nat × ToolPicture) (finite : counted.2.Finite)
    (item : ToolCacheKey × String) :
    (purgeItem now counted item).2.Finite ∧
      (purgeItem now counted item).2.held + (purgeItem now counted item).1 =
        counted.2.held + counted.1 := by
  obtain ⟨purged, p⟩ := counted
  simp only [purgeItem]
  cases live : p.live item.2 with
  | none => exact ⟨finite, rfl⟩
  | some artifact =>
      have left := held_delete (p := p) finite item.2
      rw [live, Option.isSome_some, if_pos rfl] at left
      simp only
      split
      · refine ⟨Finite.delete (p := p) finite item.2, ?_⟩
        change (p.delete item.2).held + (purged + 1) = p.held + purged
        omega
      · exact ⟨finite, rfl⟩

/-- A loop whose body counts what it deletes counts what it deletes. -/
theorem held_foldl {α : Type} {step : Nat × ToolPicture → α → Nat × ToolPicture}
    (keep : ∀ counted a, counted.2.Finite → (step counted a).2.Finite ∧
      (step counted a).2.held + (step counted a).1 = counted.2.held + counted.1)
    (items : List α) (counted : Nat × ToolPicture) (finite : counted.2.Finite) :
    (items.foldl step counted).2.held + (items.foldl step counted).1 =
      counted.2.held + counted.1 := by
  induction items generalizing counted with
  | nil => rfl
  | cons a rest ih =>
      obtain ⟨kept, balanced⟩ := keep counted a finite
      exact (ih (step counted a) kept).trans balanced

theorem held_invalidate (p : ToolPicture) (finite : p.Finite) (toolName : Option String)
    (scope : Option ArtifactScope) :
    (p.invalidate toolName scope).2.held + (p.invalidate toolName scope).1 = p.held :=
  held_foldl (fun counted key finite => held_invalidateKey counted finite key) _ (0, p) finite

theorem held_purge (p : ToolPicture) (finite : p.Finite) (now : Rat) :
    (p.purge now).2.held + (p.purge now).1 = p.held :=
  held_foldl (fun counted item finite => held_purgeItem now counted finite item) _ (0, p) finite

/-- The index has an entry for every live artifact. -/
theorem Linked.size [PyRuntime] {requireSourceVersion : Bool}
    {issued : ToolCacheKey × String → Prop} {p : ToolPicture} {m : ToolMap}
    (linked : Linked requireSourceVersion issued p m) : p.index.size = p.held := by
  have ids : p.index.values.Nodup := by
    rw [Dict.values]
    refine List.Nodup.map_on ?_ (List.Nodup.of_map _ p.index.distinct)
    intro first there second there' same
    rw [p.index.mem_entries_iff first.1 first.2] at there
    rw [p.index.mem_entries_iff second.1 second.2] at there'
    obtain ⟨artifact, live, own, -⟩ := linked.found there
    obtain ⟨artifact', live', own', -⟩ := linked.found there'
    rw [same, live'] at live
    cases live
    exact Prod.ext (own.symm.trans own') same
  have listed : occupied p.live = { objectId | objectId ∈ p.index.values } := by
    ext objectId
    rw [mem_occupied, Option.isSome_iff_exists, Set.mem_ofPred_eq, Dict.values, List.mem_map]
    constructor
    · rintro ⟨artifact, live⟩
      have indexed := (linked.indexed artifact.key objectId).mpr ⟨artifact, live, rfl⟩
      exact ⟨(artifact.key, objectId), (p.index.mem_entries_iff _ _).mpr indexed, rfl⟩
    · rintro ⟨item, there, rfl⟩
      obtain ⟨artifact, live, -⟩ := linked.found ((p.index.mem_entries_iff _ _).mp there)
      exact ⟨artifact, live⟩
  have coerced : { objectId | objectId ∈ p.index.values } =
      (p.index.values.toFinset : Set String) := by
    ext objectId
    simp
  rw [held, occupancy, listed, coerced, Set.ncard_coe_finset, List.toFinset_card_of_nodup ids,
    Dict.values, List.length_map]
  rfl

/-- A put adds a live artifact exactly when its key is new. -/
theorem Linked.held_put [PyRuntime] {requireSourceVersion : Bool}
    {issued : ToolCacheKey × String → Prop} {p : ToolPicture} {m m' : ToolMap}
    {artifact : ToolCallArtifact} (before : Linked requireSourceVersion issued p m)
    (after : Linked requireSourceVersion issued (p.put artifact) m') :
    (p.put artifact).held = p.held + if !p.index.contains artifact.key then 1 else 0 := by
  rw [← before.size, ← after.size]
  change (p.index.set artifact.key artifact.toolCallId).size = _
  rw [Dict.size_set]
  cases p.index.contains artifact.key <;> rfl

end ToolPicture

/-! ## The counters over a history -/

section

variable [PyRuntime] [PyJson]

open ToolArtifactCache
open ToolPicture (Linked)

variable {η Bytes : Type} [Serializer Bytes] [Hnswlib η]

/-- Whether a call is a put that returns and whose key is not in the index. -/
def putsNewKey (s : CacheSession (MemoryBackend Bytes) η ToolArtifactCache) (c : ToolCall) :
    Bool :=
  match c with
  | .put toolName args _ _ scope _ _ _ _ =>
      (EStateResult.outcome (ToolArtifactCache.exec c s)).isOk &&
        (keyFor toolName args scope).toOption.any fun key => !s.cache.index.contains key
  | _ => false

/-- Whether a call is a get that returns. -/
def getReturns (s : CacheSession (MemoryBackend Bytes) η ToolArtifactCache) (c : ToolCall) :
    Bool :=
  match c with
  | .get _ _ _ _ _ _ => (EStateResult.outcome (ToolArtifactCache.exec c s)).isOk
  | _ => false

/-- The artifacts that entered under a new key, wherever they are now. -/
def ToolCacheStats.entered (stats : ToolCacheStats) : Nat :=
  stats.entries + stats.expired + stats.invalidated + stats.purged

/-- What a call from one state to another has to have counted. -/
structure Accounts (c : ToolCall) (s s' : CacheSession (MemoryBackend Bytes) η ToolArtifactCache) :
    Prop where
  entered : s'.cache.stats.entered = s.cache.stats.entered + if putsNewKey s c then 1 else 0
  gets : s'.cache.counters.hits + s'.cache.counters.misses =
    s.cache.counters.hits + s.cache.counters.misses + if getReturns s c then 1 else 0
  expired : s'.cache.counters.expired = s.cache.counters.expired ∨
    s'.cache.counters.expired = s.cache.counters.expired + 1 ∧
      s'.cache.counters.misses = s.cache.counters.misses + 1

namespace Accounts

variable {c : ToolCall} {s s' : CacheSession (MemoryBackend Bytes) η ToolArtifactCache}

/-- A call that raises counts nothing and is not counted. -/
theorem raised {e : PyError} (raised : ToolArtifactCache.exec c s = .error e s) :
    Accounts c s s := by
  have puts : putsNewKey s c = false := by
    cases c with
    | put => rw [putsNewKey, raised]; rfl
    | _ => rfl
  have gets : getReturns s c = false := by
    cases c with
    | get => rw [getReturns, raised]; rfl
    | _ => rfl
  exact ⟨by rw [puts]; rfl, by rw [gets]; rfl, .inl rfl⟩

end Accounts

omit [PyJson] [Hnswlib η] in
/-- The live artifacts are those indexed. -/
private theorem entered_eq {requireSourceVersion : Bool}
    {issued : ToolCacheKey × String → Prop}
    {s : CacheSession (MemoryBackend Bytes) η ToolArtifactCache} {p : ToolPicture} {m : ToolMap}
    (shows : Shows s p) (linked : Linked requireSourceVersion issued p m) :
    s.cache.stats.entered = p.held + s.cache.counters.expired + s.cache.counters.invalidated +
      s.cache.counters.purged := by
  rw [← linked.size, ← shows.index]
  rfl

/-- A call counts what it has to, and a map still says what the cache holds. -/
private def Settles (requireSourceVersion : Bool) (calls : List ToolCall) (c : ToolCall)
    (s : CacheSession (MemoryBackend Bytes) η ToolArtifactCache) : Prop :=
  (∃ m, Mirrors requireSourceVersion calls (EStateResult.state (ToolArtifactCache.exec c s)) m) ∧
    Accounts c s (EStateResult.state (ToolArtifactCache.exec c s))

section

variable {requireSourceVersion : Bool} {calls : List ToolCall}
  {s : CacheSession (MemoryBackend Bytes) η ToolArtifactCache} {p : ToolPicture} {m : ToolMap}

private theorem Settles.raised {c : ToolCall} {e : PyError} (shows : Shows s p)
    (linked : Linked requireSourceVersion (Issued calls) p m)
    (raised : ToolArtifactCache.exec c s = .error e s) :
    Settles requireSourceVersion calls c s := by
  rw [Settles, raised]
  exact ⟨⟨m, p, shows, linked⟩, .raised raised⟩

/-- A call that only drops artifacts counts what it drops. -/
private theorem Settles.dropped {c : ToolCall} (shows : Shows s p)
    (linked : Linked requireSourceVersion (Issued calls) p m)
    {s' : CacheSession (MemoryBackend Bytes) η ToolArtifactCache} {p' : ToolPicture} {m' : ToolMap}
    (returned : EStateResult.state (ToolArtifactCache.exec c s) = s') (shown : Shows s' p')
    (linked' : Linked requireSourceVersion (Issued calls) p' m')
    (noPut : putsNewKey s c = false) (noGet : getReturns s c = false)
    (hits : s'.cache.counters.hits = s.cache.counters.hits)
    (misses : s'.cache.counters.misses = s.cache.counters.misses)
    (expired : s'.cache.counters.expired = s.cache.counters.expired)
    (balanced : p'.held + s'.cache.counters.invalidated + s'.cache.counters.purged =
      p.held + s.cache.counters.invalidated + s.cache.counters.purged) :
    Settles requireSourceVersion calls c s := by
  have before := entered_eq shows linked
  have after := entered_eq shown linked'
  rw [Settles, returned]
  refine ⟨⟨_, _, shown, linked'⟩, ?_, ?_, .inl expired⟩
  · rw [noPut, if_neg Bool.false_ne_true]
    omega
  · rw [noGet, hits, misses]
    rfl

private theorem put_settles (free : CollisionFree calls) (shows : Shows s p)
    (linked : Linked requireSourceVersion (Issued calls) p m) {toolName : String}
    {args : PyValue} {output : List (String × PyValue)} {ttl : Rat} {scope : ArtifactScope}
    {sourceVersion : String} {now : Rat} {uuid : String} {clock : Rat}
    (made : .put toolName args output ttl scope sourceVersion now uuid clock ∈ calls) :
    Settles requireSourceVersion calls
      (.put toolName args output ttl scope sourceVersion now uuid clock) s := by
  cases admitted : s.cache.artifactFor toolName args output ttl scope sourceVersion now uuid
      clock with
  | error e => exact .raised shows linked (bind_error (put_error admitted) _)
  | ok artifact =>
      obtain ⟨s', done, shown, counted⟩ := put_tallies shows admitted
      obtain ⟨own, issued⟩ := signed_put made admitted
      have linked' := linked.put free own issued
      have returned : ToolArtifactCache.exec (.put toolName args output ttl scope
          sourceVersion now uuid clock) s = .ok (.stored artifact.toolCallId) s' := by
        rw [ToolArtifactCache.exec, bind_run, done]
        rfl
      have fresh : putsNewKey s (.put toolName args output ttl scope sourceVersion now uuid
          clock) = !p.index.contains artifact.key := by
        obtain ⟨⟨name, argsHash, normalized, hashed, keyed, -⟩, -⟩ := artifactFor_ok admitted
        have looked : keyFor toolName args scope = .ok artifact.key :=
          keyFor_ok_iff.mpr ⟨name, argsHash, normalized, hashed, keyed⟩
        rw [putsNewKey, returned, looked, ← shows.index]
        rfl
      have before := entered_eq shows linked
      have after := entered_eq shown linked'
      have grown := linked.held_put linked'
      rw [counted] at after
      simp only at after
      rw [Settles, returned, EStateResult.state_ok]
      refine ⟨⟨_, _, shown, linked'⟩, ?_, by rw [counted]; rfl, .inl (by rw [counted])⟩
      rw [fresh]
      omega

private theorem invalidate_settles (shows : Shows s p)
    (linked : Linked requireSourceVersion (Issued calls) p m) (toolName : Option String)
    (scope : Option ArtifactScope) :
    Settles requireSourceVersion calls (.invalidate toolName scope) s := by
  cases normalizes : toolName.mapM normalizeToolName with
  | error e => exact .raised shows linked (bind_error (invalidate_error normalizes) _)
  | ok normalized =>
      obtain ⟨s', done, shown, counted⟩ := invalidate_tallies shows normalizes scope
      obtain ⟨-, linked'⟩ := linked.invalidate normalized scope
      have returned : EStateResult.state
          (ToolArtifactCache.exec (.invalidate toolName scope) s) = s' := by
        rw [ToolArtifactCache.exec, bind_run, done]
        rfl
      have balanced := p.held_invalidate shows.finite normalized scope
      refine .dropped shows linked returned shown linked' rfl rfl (by rw [counted])
        (by rw [counted]) (by rw [counted]) ?_
      rw [counted]
      change _ + (s.cache.counters.invalidated + _) + s.cache.counters.purged = _
      omega

variable [LawfulSerializer Bytes]

private theorem get_settles (shows : Shows s p)
    (linked : Linked requireSourceVersion (Issued calls) p m) (toolName : String)
    (args : PyValue) (scope : ArtifactScope) (sourceVersion : Option String) (now clock : Rat) :
    Settles requireSourceVersion calls (.get toolName args scope sourceVersion now clock) s := by
  cases looked : keyFor toolName args scope with
  | error e => exact .raised shows linked (bind_error (get_error looked) _)
  | ok key =>
      obtain ⟨s', done, shown, counted⟩ := get_tallies shows looked sourceVersion now clock
      obtain ⟨-, linked'⟩ := linked.get key sourceVersion now
      have returned : EStateResult.state (ToolArtifactCache.exec
            (.get toolName args scope sourceVersion now clock) s) = s' ∧
          getReturns s (.get toolName args scope sourceVersion now clock) = true := by
        rw [getReturns, ToolArtifactCache.exec, bind_run, done]
        exact ⟨rfl, rfl⟩
      have before := entered_eq shows linked
      have after := entered_eq shown linked'
      have balanced := p.held_get shows.finite key sourceVersion now s.cache.counters
      rw [counted] at after
      rw [Settles, returned.1]
      refine ⟨⟨_, _, shown, linked'⟩, ?_, ?_, ?_⟩
      · change s'.cache.stats.entered = s.cache.stats.entered
        rcases p.tallyGet_cases key sourceVersion now s.cache.counters with is | is | is <;>
          simp only [is, ToolCounters.hit, ToolCounters.miss, ToolCounters.expire]
            at after balanced <;>
          omega
      · rw [returned.2, counted]
        rcases p.tallyGet_cases key sourceVersion now s.cache.counters with is | is | is <;>
          simp only [is, ToolCounters.hit, ToolCounters.miss, ToolCounters.expire, if_true] <;>
          omega
      · rw [counted]
        rcases p.tallyGet_cases key sourceVersion now s.cache.counters with is | is | is <;> rw [is]
        · exact .inl rfl
        · exact .inl rfl
        · exact .inr ⟨rfl, rfl⟩

private theorem rebuild_settles (shows : Shows s p)
    (linked : Linked requireSourceVersion (Issued calls) p m) (now clock : Rat) :
    Settles requireSourceVersion calls (.rebuild now clock) s := by
  obtain ⟨objectIds, s', sorted, all, done, shown, balanced, counted⟩ :=
    rebuild_tallies shows now clock
  have linked' := linked.rebuild now shows.named (sorted.imp ne_of_lt) all
  have returned : EStateResult.state (ToolArtifactCache.exec (.rebuild now clock) s) = s' := by
    rw [ToolArtifactCache.exec, bind_run, done]
    rfl
  refine .dropped shows linked returned shown linked' rfl rfl (by rw [counted])
    (by rw [counted]) (by rw [counted]) ?_
  rw [counted]
  change _ + s.cache.invalidated + s'.cache.purged = _ + s.cache.invalidated + s.cache.purged
  omega

private theorem purge_settles (shows : Shows s p)
    (linked : Linked requireSourceVersion (Issued calls) p m) (now clock : Rat) :
    Settles requireSourceVersion calls (.purge now clock) s := by
  obtain ⟨s', done, shown, counted⟩ := purge_tallies shows now clock
  obtain ⟨-, linked'⟩ := linked.purge now
  have returned : EStateResult.state (ToolArtifactCache.exec (.purge now clock) s) = s' := by
    rw [ToolArtifactCache.exec, bind_run, done]
    rfl
  have balanced := p.held_purge shows.finite now
  refine .dropped shows linked returned shown linked' rfl rfl (by rw [counted])
    (by rw [counted]) (by rw [counted]) ?_
  rw [counted]
  change _ + s.cache.counters.invalidated + (s.cache.counters.purged + _) = _
  omega

end

variable [LawfulSerializer Bytes]

/-- One call counts what it has to. -/
private theorem settles {requireSourceVersion : Bool} {calls : List ToolCall}
    (free : CollisionFree calls) (s : CacheSession (MemoryBackend Bytes) η ToolArtifactCache)
    (c : ToolCall) (made : c ∈ calls) (mirrors : ∃ m, Mirrors requireSourceVersion calls s m) :
    Settles requireSourceVersion calls c s := by
  obtain ⟨m, p, shows, linked⟩ := mirrors
  cases c with
  | put => exact put_settles free shows linked made
  | get => exact get_settles shows linked ..
  | invalidate => exact invalidate_settles shows linked ..
  | rebuild => exact rebuild_settles shows linked ..
  | purge => exact purge_settles shows linked ..

/-- What entered under a new key is still indexed or was counted out, and every get that
    returned was a hit or a miss, expired only when it was a miss. -/
theorem tool_cache_accounts (config : L3Config) (metadata : MetadataStore η)
    (requireSourceVersion : Bool) (calls : List ToolCall) (free : CollisionFree calls) :
    let start : CacheSession (MemoryBackend Bytes) η ToolArtifactCache :=
      ⟨.overEmpty Bytes config metadata, .new requireSourceVersion⟩
    let stats := (drive ToolArtifactCache.exec start calls).cache.stats
    tally ToolArtifactCache.exec putsNewKey start calls =
        stats.entries + stats.expired + stats.invalidated + stats.purged ∧
      stats.hits + stats.misses = tally ToolArtifactCache.exec getReturns start calls ∧
      ∀ pre c post, calls = pre ++ c :: post →
        let before := (drive ToolArtifactCache.exec start pre).cache.stats
        let after := (drive ToolArtifactCache.exec start (pre ++ [c])).cache.stats
        after.expired = before.expired ∨
          after.expired = before.expired + 1 ∧ after.misses = before.misses + 1 := by
  intro start stats
  have empty : ∃ m, Mirrors requireSourceVersion calls start m :=
    ⟨_, _, Shows.new requireSourceVersion config metadata, Linked.empty⟩
  refine ⟨?_, ?_, fun pre c post same => ?_⟩
  · have counted := drive_tally (fun s => s.cache.stats.entered)
      (fun s c made mirrors => (settles free s c made mirrors).imp id Accounts.entered) empty
    exact (counted.trans (Nat.zero_add _)).symm
  · have counted := drive_tally (fun s => s.cache.counters.hits + s.cache.counters.misses)
      (fun s c made mirrors => (settles free s c made mirrors).imp id Accounts.gets) empty
    exact counted.trans (Nat.zero_add _)
  · have reached : ∃ m, Mirrors requireSourceVersion calls
        (drive ToolArtifactCache.exec start pre) m :=
      drive_invariant
        (fun s c made mirrors => (settles free s c (by simp [same, made]) mirrors).1) empty
    have step := settles free _ c (by simp [same]) reached
    rw [drive_concat]
    exact step.2.expired

end

section

open Reference ToolArtifactCache

theorem tool_cache_accounts_new_version :
    CollisionFree newVersion ∧
      let stats := (drive ToolArtifactCache.exec ⟨Reference.store, .new⟩ newVersion).cache.stats
      tally ToolArtifactCache.exec putsNewKey ⟨Reference.store, .new⟩ newVersion =
          stats.entries + stats.expired + stats.invalidated + stats.purged ∧
        stats.hits + stats.misses =
          tally ToolArtifactCache.exec getReturns ⟨Reference.store, .new⟩ newVersion :=
  have accounts :=
    tool_cache_accounts .default Reference.metadata false newVersion newVersion_free
  ⟨newVersion_free, accounts.1, accounts.2.1⟩

end

end IntelliL3
