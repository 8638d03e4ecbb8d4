import Mathlib.Data.List.MinMax
import IntelliL3.Agent.ToolCache
import IntelliL3.Core.OneType
import IntelliL3.Lib.Occupancy

/-! # What a tool artifact cache works on

A picture of a cache and its store: the index, and the live artifacts by id. On
it every operation of the cache is a pure function; a cache that shows a picture
never fails, and shows the picture the function computes.
-/

namespace IntelliL3

open Lib

/-- The index of a cache and the artifacts in its store. -/
structure ToolPicture where
  requireSourceVersion : Bool
  index : Dict ToolCacheKey String
  live : String → Option ToolCallArtifact

namespace ToolPicture

def empty (requireSourceVersion : Bool) : ToolPicture :=
  { requireSourceVersion, index := .empty, live := fun _ => none }

def delete (p : ToolPicture) (objectId : String) : ToolPicture :=
  { p with live := Function.update p.live objectId none }

def pop (p : ToolPicture) (key : ToolCacheKey) : ToolPicture :=
  { p with index := p.index.erase key }

def store (p : ToolPicture) (artifact : ToolCallArtifact) : ToolPicture :=
  { p with live := Function.update p.live artifact.toolCallId (some artifact.stamp) }

/-- How many artifacts are live. -/
noncomputable def held (p : ToolPicture) : Nat := occupancy p.live

def Finite (p : ToolPicture) : Prop := (occupied p.live).Finite

theorem live_delete (p : ToolPicture) (objectId other : String) :
    (p.delete objectId).live other = if other = objectId then none else p.live other :=
  Function.update_apply _ _ _ _

theorem live_store (p : ToolPicture) (artifact : ToolCallArtifact) (other : String) :
    (p.store artifact).live other =
      if other = artifact.toolCallId then some artifact.stamp else p.live other :=
  Function.update_apply _ _ _ _

theorem Finite.delete {p : ToolPicture} (finite : p.Finite) (objectId : String) :
    (p.delete objectId).Finite := by
  rw [Finite, ToolPicture.delete, occupied_clear]
  exact finite.sdiff

/-- A deletion takes away one live artifact, if there was one. -/
theorem held_delete {p : ToolPicture} (finite : p.Finite) (objectId : String) :
    (p.delete objectId).held + (if (p.live objectId).isSome then 1 else 0) = p.held :=
  occupancy_clear finite objectId

/-- The artifact is stored and indexed; the one indexed before under another id goes. -/
def put (p : ToolPicture) (artifact : ToolCallArtifact) : ToolPicture :=
  let replaced := match p.index.get? artifact.key with
    | some previous =>
        if previous ≠ artifact.toolCallId then (p.store artifact).delete previous
        else p.store artifact
    | none => p.store artifact
  { replaced with index := p.index.set artifact.key artifact.toolCallId }

theorem put_required (p : ToolPicture) (artifact : ToolCallArtifact) :
    (p.put artifact).requireSourceVersion = p.requireSourceVersion := by
  unfold put
  cases p.index.get? artifact.key with
  | none => rfl
  | some previous =>
      simp only
      split <;> rfl

theorem live_put (p : ToolPicture) (artifact : ToolCallArtifact) (objectId : String) :
    (p.put artifact).live objectId =
      if objectId = artifact.toolCallId then some artifact.stamp
      else if p.index.get? artifact.key = some objectId then none
      else p.live objectId := by
  unfold put
  cases p.index.get? artifact.key with
  | none => simp [live_store]
  | some previous =>
      by_cases same : previous = artifact.toolCallId
      · subst same
        by_cases here : objectId = artifact.toolCallId
        · simp [here, live_store]
        · simp [here, Ne.symm here, live_store]
      · by_cases here : objectId = artifact.toolCallId
        · subst here
          simp [same, Ne.symm same, live_delete, live_store]
        · by_cases there : objectId = previous
          · subst there
            simp [same, live_delete]
          · simp [same, here, there, Ne.symm there, live_delete, live_store]

/-- What a get answers, before it is touched, and what it leaves: an index entry without an
    artifact goes, and an expired artifact of the version asked for. -/
def get (p : ToolPicture) (key : ToolCacheKey) (sourceVersion : Option String) (now : Rat) :
    Option ToolCallArtifact × ToolPicture :=
  match p.index.get? key with
  | none => (none, p)
  | some objectId =>
      match p.live objectId with
      | none => (none, p.pop key)
      | some artifact =>
          if artifact.versionDiffers sourceVersion then (none, p)
          else if artifact.permissionScope ≠ key.2.2 then (none, p)
          else if artifact.isExpired now then (none, (p.pop key).delete objectId)
          else (some artifact, p)

/-- What a get counts. -/
def tallyGet (p : ToolPicture) (key : ToolCacheKey) (sourceVersion : Option String) (now : Rat)
    (counters : ToolCounters) : ToolCounters :=
  match p.index.get? key with
  | none => counters.miss
  | some objectId =>
      match p.live objectId with
      | none => counters.miss
      | some artifact =>
          if artifact.versionDiffers sourceVersion then counters.miss
          else if artifact.permissionScope ≠ key.2.2 then counters.miss
          else if artifact.isExpired now then counters.expire
          else counters.hit

/-- A key of an invalidation, with the count so far. -/
def invalidateKey (counted : Nat × ToolPicture) (key : ToolCacheKey) : Nat × ToolPicture :=
  let (deleted, p) := counted
  match p.index.get? key with
  | none => (deleted, p)
  | some objectId =>
      (if (p.live objectId).isSome then deleted + 1 else deleted, (p.pop key).delete objectId)

def invalidate (p : ToolPicture) (toolName : Option String) (scope : Option ArtifactScope) :
    Nat × ToolPicture :=
  (p.index.keys.filter fun key => toolName.all (key.1 = ·) && scope.all (key.2.2 = ·)).foldl
    invalidateKey (0, p)

/-- An id of a rebuild, with the count so far. -/
def rebuildOne (now : Rat) (counted : Nat × ToolPicture) (objectId : String) :
    Nat × ToolPicture :=
  let (indexed, p) := counted
  match p.live objectId with
  | none => (indexed, p)
  | some artifact =>
      if artifact.isExpired now then (indexed, p.delete objectId)
      else
        let assigned := { p with index := p.index.set artifact.key artifact.toolCallId }
        match p.index.get? artifact.key with
        | none => (indexed + 1, assigned)
        | some currentId =>
            if (p.live currentId).all artifact.outlives then (indexed, assigned)
            else (indexed, p)

def rebuild (p : ToolPicture) (now : Rat) (objectIds : List String) : Nat × ToolPicture :=
  objectIds.foldl (rebuildOne now) (0, { p with index := .empty })

/-- An item of a purge, with the count so far. -/
def purgeItem (now : Rat) (counted : Nat × ToolPicture) (item : ToolCacheKey × String) :
    Nat × ToolPicture :=
  let (purged, p) := counted
  match p.live item.2 with
  | none => (purged, p.pop item.1)
  | some artifact =>
      if artifact.isExpired now then (purged + 1, (p.pop item.1).delete item.2) else (purged, p)

def purge (p : ToolPicture) (now : Rat) : Nat × ToolPicture :=
  p.index.entries.foldl (purgeItem now) (0, p)

/-! ## What a rebuild indexes -/

/-- An artifact of the key that has not expired. -/
def candidate (p : ToolPicture) (now : Rat) (key : ToolCacheKey) (objectId : String) : Bool :=
  (p.live objectId).any fun artifact => decide (artifact.key = key) && !artifact.isExpired now

def expiry (p : ToolPicture) (objectId : String) : Rat :=
  match p.live objectId with
  | some artifact => artifact.expiresAt
  | none => 0

theorem candidate_iff (p : ToolPicture) (now : Rat) (key : ToolCacheKey) (objectId : String) :
    p.candidate now key objectId = true ↔
      ∃ artifact, p.live objectId = some artifact ∧ artifact.key = key ∧
        artifact.isExpired now = false := by
  simp only [candidate, Option.any_eq_true, Bool.and_eq_true, decide_eq_true_eq,
    Bool.not_eq_true']

/-- The artifact takes its key when no artifact has it, or one that expires earlier. -/
def challenge (p : ToolPicture) (artifact : ToolCallArtifact) : ToolPicture :=
  if (p.index.get? artifact.key).all fun currentId =>
      (p.live currentId).all artifact.outlives then
    { p with index := p.index.set artifact.key artifact.toolCallId }
  else p

theorem live_challenge (p : ToolPicture) (artifact : ToolCallArtifact) :
    (p.challenge artifact).live = p.live := by
  unfold challenge
  split <;> rfl

theorem rebuild_concat (p : ToolPicture) (now : Rat) (objectIds : List String)
    (objectId : String) :
    p.rebuild now (objectIds ++ [objectId]) =
      rebuildOne now (p.rebuild now objectIds) objectId := by
  simp only [rebuild, List.foldl_append, List.foldl_cons, List.foldl_nil]

theorem rebuild_required (p : ToolPicture) (now : Rat) (objectIds : List String) :
    (p.rebuild now objectIds).2.requireSourceVersion = p.requireSourceVersion := by
  induction objectIds using List.reverseRecOn with
  | nil => rfl
  | append_singleton visited objectId ih =>
      rw [rebuild_concat, ← ih]
      obtain ⟨indexed, q⟩ := p.rebuild now visited
      simp only [rebuildOne]
      cases q.live objectId with
      | none => rfl
      | some artifact =>
          simp only
          split
          · rfl
          · cases q.index.get? artifact.key with
            | none => rfl
            | some currentId =>
                simp only
                split <;> rfl

/-- What a rebuild has made of a picture once it has visited these ids: the expired ones of
    them are deleted, and each key has the first of those that expire last. -/
structure Rebuilt (p : ToolPicture) (now : Rat) (visited : List String) (q : ToolPicture) :
    Prop where
  live : ∀ objectId, q.live objectId =
    if objectId ∈ visited then (p.live objectId).filter fun artifact => !artifact.isExpired now
    else p.live objectId
  index : ∀ key, q.index.get? key = (visited.filter (p.candidate now key)).argmax p.expiry

namespace Rebuilt

variable {p q q' : ToolPicture} {now : Rat} {visited : List String} {objectId : String}

/-- What is visited is kept unless it has expired, and the rest is left alone. -/
theorem live_visit (rebuilt : Rebuilt p now visited q)
    (here : q'.live objectId = (p.live objectId).filter fun artifact => !artifact.isExpired now)
    (elsewhere : ∀ other, other ≠ objectId → q'.live other = q.live other) (other : String) :
    q'.live other = if other ∈ visited ++ [objectId] then
      (p.live other).filter fun artifact => !artifact.isExpired now else p.live other := by
  by_cases same : other = objectId
  · subst same
    rw [here, if_pos (List.mem_append_right _ List.mem_cons_self)]
  · have visit : other ∈ visited ++ [objectId] ↔ other ∈ visited := by simp [same]
    rw [elsewhere other same, rebuilt.live, if_congr visit rfl rfl]

/-- An id that is no candidate leaves every choice as it is. -/
theorem index_skip (rebuilt : Rebuilt p now visited q) {key : ToolCacheKey}
    (outside : p.candidate now key objectId = false) :
    q.index.get? key =
      ((visited ++ [objectId]).filter (p.candidate now key)).argmax p.expiry := by
  rw [List.filter_append, List.filter_cons_of_neg (by simp [outside]), List.filter_nil,
    List.append_nil, rebuilt.index]

theorem absent (rebuilt : Rebuilt p now visited q) (fresh : objectId ∉ visited)
    (none : p.live objectId = none) : Rebuilt p now (visited ++ [objectId]) q where
  live := by
    refine rebuilt.live_visit ?_ fun _ _ => rfl
    rw [rebuilt.live, if_neg fresh, none]
    rfl
  index key := by
    refine rebuilt.index_skip ?_
    rw [candidate, none]
    rfl

theorem delete (rebuilt : Rebuilt p now visited q) {artifact : ToolCallArtifact}
    (found : p.live objectId = some artifact) (expired : artifact.isExpired now = true) :
    Rebuilt p now (visited ++ [objectId]) (q.delete objectId) where
  live := by
    refine rebuilt.live_visit ?_ fun other differ => by rw [live_delete, if_neg differ]
    rw [live_delete, if_pos rfl, found]
    simp [expired, Option.filter]
  index key := by
    refine rebuilt.index_skip ?_
    rw [candidate, found]
    simp [expired]

/-- The id that has a key gives it up to one that expires later. -/
theorem index_challenge (rebuilt : Rebuilt p now visited q) {artifact : ToolCallArtifact}
    (found : p.live objectId = some artifact) (named : artifact.toolCallId = objectId)
    (lasting : artifact.isExpired now = false) :
    (q.challenge artifact).index.get? artifact.key =
      ((visited ++ [objectId]).filter (p.candidate now artifact.key)).argmax p.expiry := by
  have admitted : p.candidate now artifact.key objectId = true :=
    (p.candidate_iff _ _ _).mpr ⟨artifact, found, rfl, lasting⟩
  rw [List.filter_append, List.filter_cons_of_pos admitted, List.filter_nil,
    List.argmax_concat, ← rebuilt.index, challenge]
  cases held : q.index.get? artifact.key with
  | none => simp [Dict.get?_set, named]
  | some current =>
      have first := held
      rw [rebuilt.index] at first
      have chosen := List.mem_filter.mp (List.argmax_mem first)
      obtain ⟨other, stored, -, lasting'⟩ := (p.candidate_iff _ _ _).mp chosen.2
      have kept : q.live current = some other := by
        rw [rebuilt.live, if_pos chosen.1, stored]
        simp [Option.filter, lasting']
      simp only [Option.all_some, kept, ToolCallArtifact.outlives, expiry, found, stored,
        decide_eq_true_eq]
      split
      · simp [Dict.get?_set, named]
      · exact held

theorem challenge (rebuilt : Rebuilt p now visited q) (fresh : objectId ∉ visited)
    {artifact : ToolCallArtifact} (found : p.live objectId = some artifact)
    (named : artifact.toolCallId = objectId) (lasting : artifact.isExpired now = false) :
    Rebuilt p now (visited ++ [objectId]) (q.challenge artifact) where
  live := by
    rw [live_challenge]
    refine rebuilt.live_visit ?_ fun _ _ => rfl
    rw [rebuilt.live, if_neg fresh, found]
    simp [lasting, Option.filter]
  index key := by
    by_cases own : artifact.key = key
    · subst own
      exact rebuilt.index_challenge found named lasting
    · rw [← rebuilt.index_skip]
      · unfold ToolPicture.challenge
        split
        · exact Dict.get?_set_ne _ own _
        · rfl
      · rw [candidate, found]
        simp [own]

end Rebuilt

/-- An artifact that has not expired challenges the one that has its key. -/
theorem rebuildOne_lasting {q : ToolPicture} {now : Rat} {objectId : String}
    {artifact : ToolCallArtifact} (found : q.live objectId = some artifact)
    (lasting : artifact.isExpired now = false) (indexed : Nat) :
    (rebuildOne now (indexed, q) objectId).2 = q.challenge artifact := by
  simp only [rebuildOne, found, lasting, Bool.false_eq_true, if_false, challenge]
  cases q.index.get? artifact.key with
  | none => rfl
  | some currentId =>
      simp only [Option.all_some]
      split <;> rfl

/-- A rebuild deletes the expired artifacts and indexes for each key the first of those
    that live longest. -/
theorem rebuild_spec (p : ToolPicture) (now : Rat)
    (named : ∀ objectId artifact, p.live objectId = some artifact →
      artifact.toolCallId = objectId) {objectIds : List String} (distinct : objectIds.Nodup) :
    (∀ objectId, (p.rebuild now objectIds).2.live objectId =
        if objectId ∈ objectIds then (p.live objectId).filter fun artifact =>
          !artifact.isExpired now
        else p.live objectId) ∧
      ∀ key, (p.rebuild now objectIds).2.index.get? key =
        (objectIds.filter (p.candidate now key)).argmax p.expiry := by
  have rebuilt : Rebuilt p now objectIds (p.rebuild now objectIds).2 := by
    induction objectIds using List.reverseRecOn with
    | nil => exact ⟨fun _ => rfl, fun _ => rfl⟩
    | append_singleton visited objectId ih =>
        obtain ⟨before, -, apart⟩ := List.nodup_append.mp distinct
        have fresh : objectId ∉ visited := fun member =>
          apart objectId member objectId (List.mem_singleton_self _) rfl
        have rebuilt := ih before
        rw [rebuild_concat]
        generalize p.rebuild now visited = counted at rebuilt
        obtain ⟨indexed, q⟩ := counted
        have here : q.live objectId = p.live objectId := by rw [rebuilt.live, if_neg fresh]
        cases found : p.live objectId with
        | none =>
            simp only [rebuildOne, here, found]
            exact rebuilt.absent fresh found
        | some artifact =>
            cases expired : artifact.isExpired now with
            | true =>
                simp only [rebuildOne, here, found, expired, if_true]
                exact rebuilt.delete found expired
            | false =>
                rw [rebuildOne_lasting (here.trans found) expired]
                exact rebuilt.challenge fresh found (named objectId artifact found) expired
  exact ⟨rebuilt.live, rebuilt.index⟩

/-- Over all artifacts, a rebuild keeps those that have not expired. -/
theorem live_rebuild (p : ToolPicture) (now : Rat)
    (named : ∀ objectId artifact, p.live objectId = some artifact →
      artifact.toolCallId = objectId) {objectIds : List String}
    (distinct : objectIds.Nodup)
    (all : ∀ objectId, objectId ∈ objectIds ↔ (p.live objectId).isSome) (objectId : String) :
    (p.rebuild now objectIds).2.live objectId =
      (p.live objectId).filter fun artifact => !artifact.isExpired now := by
  rw [(p.rebuild_spec now named distinct).1]
  split
  · rfl
  · next outside =>
      rw [all, Option.not_isSome_iff_eq_none] at outside
      rw [outside]
      rfl

end ToolPicture

namespace ToolArtifactCache

open CacheSession

/-! ## Showing a picture -/

section

variable {η Bytes : Type} [PyRuntime] [Serializer Bytes]

/-- The cache has the index of the picture and its store the artifacts, each under its
    call id, which is a name of its own. -/
structure Shows (session : CacheSession (MemoryBackend Bytes) η ToolArtifactCache)
    (p : ToolPicture) : Prop where
  required : session.cache.requireSourceVersion = p.requireSourceVersion
  index : session.cache.index = p.index
  has : session.store.Has (X := .toolCallArtifact) p.live
  named : ∀ objectId artifact, p.live objectId = some artifact → artifact.toolCallId = objectId
  plain : ∀ objectId, (p.live objectId).isSome → objectId ≠ "" ∧ '.' ∉ objectId.toList

namespace Shows

variable {s : CacheSession (MemoryBackend Bytes) η ToolArtifactCache} {p : ToolPicture}

/-- A cache just built over a store without artifacts. -/
theorem new (requireSourceVersion : Bool) (config : L3Config) (metadata : MetadataStore η) :
    Shows ⟨.overEmpty Bytes config metadata, .new requireSourceVersion⟩
      (.empty requireSourceVersion) :=
  ⟨rfl, rfl, .overEmpty config metadata .toolCallArtifact, fun _ _ found => (by cases found),
    fun _ live => absurd live Bool.false_ne_true⟩

/-- The counters show nothing. -/
theorem counters (shows : Shows s p) {cache : ToolArtifactCache}
    (required : cache.requireSourceVersion = s.cache.requireSourceVersion)
    (index : cache.index = s.cache.index) : Shows { s with cache } p :=
  ⟨required.trans shows.required, index.trans shows.index, shows.has, shows.named, shows.plain⟩

/-- The live artifacts are those the store lists. -/
theorem finite (shows : Shows s p) : p.Finite :=
  (List.finite_toSet _).subset fun objectId live =>
    (shows.has.mem_list shows.plain objectId).mpr live

theorem popped (shows : Shows s p) (key : ToolCacheKey) :
    Shows { s with cache := s.cache.popped key } (p.pop key) :=
  ⟨shows.required, congrArg (Dict.erase · key) shows.index, shows.has, shows.named, shows.plain⟩

theorem assign (shows : Shows s p) (key : ToolCacheKey) (objectId : String) :
    Shows { s with cache := s.cache.assign key objectId }
      { p with index := p.index.set key objectId } :=
  ⟨shows.required, congrArg (Dict.set · key objectId) shows.index, shows.has, shows.named,
    shows.plain⟩

theorem getArtifact [LawfulSerializer Bytes] (shows : Shows s p) (objectId : String)
    (clock : Rat) :
    onStore (UnifiedObjectStore.getToolArtifact objectId clock) s =
      .ok ((p.live objectId).map (·.touch clock)) s :=
  onStore_ok (shows.has.get objectId clock)

variable [Hnswlib η]

theorem deleteArtifact (shows : Shows s p) (objectId : String) :
    ∃ store, onStore (UnifiedObjectStore.deleteToolArtifact objectId) s =
        .ok (p.live objectId).isSome { s with store } ∧
      Shows { s with store } (p.delete objectId) := by
  obtain ⟨store, deleted, -, has⟩ := shows.has.delete (by decide) objectId
  refine ⟨store, onStore_ok deleted, shows.required, shows.index, has, ?_, ?_⟩
  · intro other artifact found
    rw [ToolPicture.live_delete] at found
    split at found
    · cases found
    · exact shows.named other artifact found
  · intro other found
    rw [ToolPicture.live_delete] at found
    split at found
    · cases found
    · exact shows.plain other found

theorem putArtifact (shows : Shows s p) {artifact : ToolCallArtifact}
    (plain : artifact.toolCallId ≠ "" ∧ '.' ∉ artifact.toolCallId.toList) :
    ∃ store, onStore (UnifiedObjectStore.putToolArtifact artifact) s =
        .ok artifact.toolCallId { s with store } ∧
      Shows { s with store } (p.store artifact) := by
  have stamping : Payload.stamp (X := .toolCallArtifact) artifact = .ok artifact.stamp := rfl
  obtain ⟨store, put, -, has⟩ := shows.has.put (by decide) stamping
  refine ⟨store, onStore_ok put, shows.required, shows.index, has, ?_, ?_⟩
  · intro other found held
    rw [ToolPicture.live_store] at held
    split at held
    · next here =>
        cases held
        exact here.symm
    · exact shows.named other found held
  · intro other held
    rw [ToolPicture.live_store] at held
    split at held
    · next here => exact here ▸ plain
    · exact shows.plain other held

end Shows

end

/-! ## Operations on pictures -/

section

variable {η Bytes : Type} [PyRuntime] [PyJson] [Serializer Bytes] [Hnswlib η]
  {s : CacheSession (MemoryBackend Bytes) η ToolArtifactCache} {p : ToolPicture}

/-- A put that is refused is refused before it touches anything. -/
theorem put_error {toolName : String} {args : PyValue} {output : List (String × PyValue)}
    {ttl : Rat} {scope : ArtifactScope} {sourceVersion : String} {now : Rat} {uuid : String}
    {clock : Rat} {e : PyError}
    (refused : s.cache.artifactFor toolName args output ttl scope sourceVersion now uuid clock =
      .error e) :
    putToolArtifact toolName args output ttl scope sourceVersion now uuid clock s =
      .error e s := by
  rw [putToolArtifact, bind_run, get_run]
  simp only [bind_run, refused, raising_error]

/-- A put counts itself, whatever it replaces. -/
theorem put_tallies (shows : Shows s p) {toolName : String} {args : PyValue}
    {output : List (String × PyValue)} {ttl : Rat} {scope : ArtifactScope}
    {sourceVersion : String} {now : Rat} {uuid : String} {clock : Rat}
    {artifact : ToolCallArtifact}
    (admissible : s.cache.artifactFor toolName args output ttl scope sourceVersion now uuid
      clock = .ok artifact) :
    ∃ s', putToolArtifact toolName args output ttl scope sourceVersion now uuid clock s =
        .ok artifact.toolCallId s' ∧ Shows s' (p.put artifact) ∧
      s'.cache.counters = { s.cache.counters with puts := s.cache.puts + 1 } := by
  have plain : artifact.toolCallId ≠ "" ∧ '.' ∉ artifact.toolCallId.toList := by
    obtain ⟨⟨name, argsHash, -, -, -, id⟩, -⟩ := artifactFor_ok admissible
    rw [id]
    exact shortDigest_plain _
  obtain ⟨store, put, stored⟩ := shows.putArtifact plain
  have assigned : ∀ {q : ToolPicture} {store : UnifiedObjectStore (MemoryBackend Bytes) η},
      q.index = p.index → Shows { s with store } q →
      Shows { store, cache := { s.cache.assign artifact.key artifact.toolCallId with
        puts := s.cache.puts + 1 } }
        { q with index := p.index.set artifact.key artifact.toolCallId } := by
    intro q store index shown
    have next := shown.assign artifact.key artifact.toolCallId
    rw [index] at next
    exact next.counters rfl rfl
  rw [putToolArtifact, bind_run, get_run]
  simp only [bind_run, admissible, raising_ok, put, shows.index, ToolPicture.put]
  cases p.index.get? artifact.key with
  | none => exact ⟨_, rfl, assigned rfl stored, rfl⟩
  | some previous =>
      by_cases same : previous = artifact.toolCallId
      · simp only [same, ne_eq, not_true_eq_false, if_false]
        exact ⟨_, rfl, assigned rfl stored, rfl⟩
      · obtain ⟨store', deleted, gone⟩ := stored.deleteArtifact previous
        simp only [same, ne_eq, not_false_eq_true, if_true, bind_run, deleted]
        exact ⟨_, rfl, assigned rfl gone, rfl⟩

theorem put_shows (shows : Shows s p) {toolName : String} {args : PyValue}
    {output : List (String × PyValue)} {ttl : Rat} {scope : ArtifactScope}
    {sourceVersion : String} {now : Rat} {uuid : String} {clock : Rat}
    {artifact : ToolCallArtifact}
    (admissible : s.cache.artifactFor toolName args output ttl scope sourceVersion now uuid
      clock = .ok artifact) :
    ∃ s', putToolArtifact toolName args output ttl scope sourceVersion now uuid clock s =
        .ok artifact.toolCallId s' ∧ Shows s' (p.put artifact) := by
  obtain ⟨s', done, shown, -⟩ := put_tallies shows admissible
  exact ⟨s', done, shown⟩

/-- The key a get looks up. -/
def keyFor (toolName : String) (args : PyValue) (scope : ArtifactScope) :
    Except PyError ToolCacheKey := do
  let toolName ← normalizeToolName toolName
  let argsHash ← hashArgs args
  return (toolName, argsHash, scope)

omit [Hnswlib η] in
theorem keyFor_ok_iff {toolName : String} {args : PyValue} {scope : ArtifactScope}
    {key : ToolCacheKey} :
    keyFor toolName args scope = .ok key ↔ ∃ name argsHash,
      normalizeToolName toolName = .ok name ∧ hashArgs args = .ok argsHash ∧
        key = (name, argsHash, scope) := by
  constructor
  · intro looked
    obtain ⟨name, normalized, looked⟩ := bind_eq_ok.mp looked
    obtain ⟨argsHash, hashed, same⟩ := bind_eq_ok.mp looked
    exact ⟨name, argsHash, normalized, hashed, (Except.ok.inj same).symm⟩
  · rintro ⟨name, argsHash, normalized, hashed, rfl⟩
    exact bind_eq_ok.mpr ⟨name, normalized, bind_eq_ok.mpr ⟨argsHash, hashed, rfl⟩⟩

omit [PyJson] [Hnswlib η] in
private theorem miss_tallies (shows : Shows s p) :
    ∃ s', miss s = .ok none s' ∧ Shows s' p ∧ s'.cache.counters = s.cache.counters.miss :=
  ⟨_, rfl, shows.counters rfl rfl, rfl⟩

theorem get_error {toolName : String} {args : PyValue} {scope : ArtifactScope}
    {sourceVersion : Option String} {now clock : Rat} {e : PyError}
    (refused : keyFor toolName args scope = .error e) :
    getToolArtifact toolName args scope sourceVersion now clock s = .error e s := by
  rw [keyFor] at refused
  rw [getToolArtifact, bind_run]
  cases normalized : normalizeToolName toolName with
  | error e' =>
      rw [normalized] at refused
      cases refused
      rfl
  | ok name =>
      rw [normalized] at refused
      simp only [raising_ok, bind_run]
      cases hashed : hashArgs args with
      | error e' =>
          rw [hashed] at refused
          cases refused
          rfl
      | ok argsHash =>
          rw [hashed] at refused
          cases refused

/-- A get answers, drops and counts what the picture says. -/
theorem get_tallies [LawfulSerializer Bytes] (shows : Shows s p) {toolName : String}
    {args : PyValue} {scope : ArtifactScope} {key : ToolCacheKey}
    (looked : keyFor toolName args scope = .ok key) (sourceVersion : Option String)
    (now clock : Rat) :
    ∃ s', getToolArtifact toolName args scope sourceVersion now clock s =
        .ok ((p.get key sourceVersion now).1.map (·.touch clock)) s' ∧
      Shows s' (p.get key sourceVersion now).2 ∧
      s'.cache.counters = p.tallyGet key sourceVersion now s.cache.counters := by
  obtain ⟨name, argsHash, normalized, hashed, rfl⟩ := keyFor_ok_iff.mp looked
  rw [getToolArtifact, bind_run, normalized]
  simp only [raising_ok, bind_run, hashed, get_run, shows.index, ToolPicture.get,
    ToolPicture.tallyGet]
  cases p.index.get? (name, argsHash, scope) with
  | none => exact miss_tallies shows
  | some objectId =>
      simp only [bind_run, shows.getArtifact]
      cases p.live objectId with
      | none => exact miss_tallies (shows.popped (name, argsHash, scope))
      | some artifact =>
          simp only [Option.map_some]
          -- The checks read nothing that touching has changed.
          by_cases version : artifact.versionDiffers sourceVersion = true
          · have touched := artifact.touch_versionDiffers clock sourceVersion
            rw [if_pos (touched.trans version), if_pos version, if_pos version]
            exact miss_tallies shows
          · have touched : (artifact.touch clock).versionDiffers sourceVersion ≠ true := version
            rw [if_neg touched, if_neg version, if_neg version]
            by_cases otherScope : artifact.permissionScope ≠ scope
            · have touched : (artifact.touch clock).permissionScope ≠ scope := otherScope
              rw [if_pos touched, if_pos otherScope, if_pos otherScope]
              exact miss_tallies shows
            · have touched : ¬ (artifact.touch clock).permissionScope ≠ scope := otherScope
              rw [if_neg touched, if_neg otherScope, if_neg otherScope]
              by_cases expired : artifact.isExpired now = true
              · obtain ⟨store, deleted, gone⟩ :=
                  (shows.popped (name, argsHash, scope)).deleteArtifact objectId
                have touched := artifact.touch_isExpired clock now
                rw [if_pos (touched.trans expired), if_pos expired, if_pos expired]
                simp only [bind_run, onCache, zoom_run, modify_run, deleted]
                exact ⟨_, rfl, gone.counters rfl rfl, rfl⟩
              · have touched : (artifact.touch clock).isExpired now ≠ true := expired
                rw [if_neg touched, if_neg expired, if_neg expired]
                exact ⟨_, rfl, shows.counters rfl rfl, rfl⟩

theorem get_shows [LawfulSerializer Bytes] (shows : Shows s p) {toolName : String}
    {args : PyValue} {scope : ArtifactScope} {key : ToolCacheKey}
    (looked : keyFor toolName args scope = .ok key) (sourceVersion : Option String)
    (now clock : Rat) :
    ∃ s', getToolArtifact toolName args scope sourceVersion now clock s =
        .ok ((p.get key sourceVersion now).1.map (·.touch clock)) s' ∧
      Shows s' (p.get key sourceVersion now).2 := by
  obtain ⟨s', done, shown, -⟩ := get_tallies shows looked sourceVersion now clock
  exact ⟨s', done, shown⟩

omit [PyJson] in
private theorem invalidateKey_tallies {counters : ToolCounters} (deleted : Nat)
    (key : ToolCacheKey) (s : CacheSession (MemoryBackend Bytes) η ToolArtifactCache)
    (p : ToolPicture) (shows : Shows s p ∧ s.cache.counters = counters) :
    ∃ s', invalidateKey deleted key s = .ok (ToolPicture.invalidateKey (deleted, p) key).1 s' ∧
      Shows s' (ToolPicture.invalidateKey (deleted, p) key).2 ∧ s'.cache.counters = counters := by
  obtain ⟨shows, counted⟩ := shows
  rw [invalidateKey, bind_run, get_run]
  simp only [shows.index, ToolPicture.invalidateKey]
  cases p.index.get? key with
  | none => exact ⟨s, rfl, shows, counted⟩
  | some objectId =>
      obtain ⟨store, gone, shown⟩ := (shows.popped key).deleteArtifact objectId
      simp only [bind_run, onCache, zoom_run, modify_run, gone]
      refine ⟨_, ?_, shown, counted⟩
      change _ = EStateM.Result.ok (if ((p.pop key).live objectId).isSome then _ else _) _
      cases ((p.pop key).live objectId).isSome <;> rfl

omit [PyRuntime] [PyJson] [Serializer Bytes] in
theorem invalidate_error {toolName : Option String} {scope : Option ArtifactScope} {e : PyError}
    (refused : toolName.mapM normalizeToolName = .error e) :
    invalidateToolArtifacts toolName scope s = .error e s := by
  rw [invalidateToolArtifacts, bind_run, refused]
  rfl

omit [PyJson] in
/-- An invalidation counts the artifacts it deletes. -/
theorem invalidate_tallies (shows : Shows s p) {toolName normalized : Option String}
    (normalizes : toolName.mapM normalizeToolName = .ok normalized)
    (scope : Option ArtifactScope) :
    ∃ s', invalidateToolArtifacts toolName scope s = .ok (p.invalidate normalized scope).1 s' ∧
      Shows s' (p.invalidate normalized scope).2 ∧
      s'.cache.counters = { s.cache.counters with
        invalidated := s.cache.invalidated + (p.invalidate normalized scope).1 } := by
  obtain ⟨s', loop, shown, counted⟩ := foldlM_simulates
    (R := fun s p => Shows s p ∧ s.cache.counters = _) invalidateKey_tallies
    (p.index.keys.filter fun key => normalized.all (key.1 = ·) && scope.all (key.2.2 = ·))
    (b := 0) ⟨shows, rfl⟩
  rw [invalidateToolArtifacts, bind_run, normalizes]
  simp only [raising_ok, bind_run, get_run, shows.index, loop]
  refine ⟨_, rfl, shown.counters rfl rfl, ?_⟩
  exact congrArg (fun c : ToolCounters =>
    { c with invalidated := c.invalidated + (p.invalidate normalized scope).1 }) counted

omit [PyJson] in
theorem invalidate_shows (shows : Shows s p) {toolName normalized : Option String}
    (normalizes : toolName.mapM normalizeToolName = .ok normalized)
    (scope : Option ArtifactScope) :
    ∃ s', invalidateToolArtifacts toolName scope s = .ok (p.invalidate normalized scope).1 s' ∧
      Shows s' (p.invalidate normalized scope).2 := by
  obtain ⟨s', done, shown, -⟩ := invalidate_tallies shows normalizes scope
  exact ⟨s', done, shown⟩

omit [PyJson] in
/-- An id of a rebuild counts what it deletes as purged. -/
private theorem rebuildOne_tallies [LawfulSerializer Bytes] (now clock : Rat)
    {counters : ToolCounters} {total : Nat} (indexed : Nat) (objectId : String)
    (s : CacheSession (MemoryBackend Bytes) η ToolArtifactCache) (p : ToolPicture)
    (shows : Shows s p ∧ s.cache.purged + p.held = total ∧
      s.cache.counters = { counters with purged := s.cache.purged }) :
    ∃ s', rebuildOne now clock indexed objectId s =
        .ok (ToolPicture.rebuildOne now (indexed, p) objectId).1 s' ∧
      Shows s' (ToolPicture.rebuildOne now (indexed, p) objectId).2 ∧
      s'.cache.purged + (ToolPicture.rebuildOne now (indexed, p) objectId).2.held = total ∧
      s'.cache.counters = { counters with purged := s'.cache.purged } := by
  obtain ⟨shows, balanced, counted⟩ := shows
  rw [rebuildOne, bind_run, shows.getArtifact]
  simp only [ToolPicture.rebuildOne]
  cases live : p.live objectId with
  | none => exact ⟨s, rfl, shows, balanced, counted⟩
  | some artifact =>
      simp only [Option.map_some]
      by_cases expired : artifact.isExpired now = true
      · obtain ⟨store, deleted, gone⟩ := shows.deleteArtifact objectId
        have touched := artifact.touch_isExpired clock now
        have left := ToolPicture.held_delete shows.finite objectId
        rw [live, Option.isSome_some, if_pos rfl] at left
        rw [if_pos (touched.trans expired), if_pos expired]
        simp only [bind_run, deleted]
        refine ⟨_, rfl, gone.counters rfl rfl, ?_, ?_⟩
        · change s.cache.purged + 1 + (p.delete objectId).held = total
          omega
        · exact congrArg (fun c : ToolCounters => { c with purged := s.cache.purged + 1 }) counted
      · have touched : (artifact.touch clock).isExpired now ≠ true := expired
        rw [if_neg touched, if_neg expired]
        simp only [bind_run, get_run, shows.index, ToolCallArtifact.touch_key,
          ToolCallArtifact.touch_toolCallId]
        have assigned := shows.assign artifact.key artifact.toolCallId
        cases p.index.get? artifact.key with
        | none => exact ⟨_, rfl, assigned, balanced, counted⟩
        | some currentId =>
            simp only [bind_run, shows.getArtifact, Option.all_map]
            by_cases later : (p.live currentId).all artifact.outlives = true
            · have touched : (p.live currentId).all
                  (fun other => (artifact.touch clock).outlives (other.touch clock)) = true :=
                later
              rw [if_pos touched, if_pos later]
              exact ⟨_, rfl, assigned, balanced, counted⟩
            · have touched : ¬ (p.live currentId).all
                  (fun other => (artifact.touch clock).outlives (other.touch clock)) = true :=
                later
              rw [if_neg touched, if_neg later]
              exact ⟨_, rfl, shows, balanced, counted⟩

omit [PyJson] in
/-- A rebuild goes through the ids of the live artifacts in order, and counts as purged
    those it deletes. -/
theorem rebuild_tallies [LawfulSerializer Bytes] (shows : Shows s p) (now clock : Rat) :
    ∃ objectIds s', objectIds.Pairwise (· < ·) ∧
      (∀ objectId, objectId ∈ objectIds ↔ (p.live objectId).isSome) ∧
      rebuildIndex now clock s = .ok (p.rebuild now objectIds).1 s' ∧
      Shows s' (p.rebuild now objectIds).2 ∧
      s'.cache.purged + (p.rebuild now objectIds).2.held = s.cache.purged + p.held ∧
      s'.cache.counters = { s.cache.counters with
        purged := s'.cache.purged
        reindexed := s.cache.reindexed + (p.rebuild now objectIds).1 } := by
  have emptied : Shows { s with cache := s.cache.cleared } { p with index := .empty } :=
    ⟨shows.required, rfl, shows.has, shows.named, shows.plain⟩
  have clearing : onCache (modify cleared) s = .ok ⟨⟩ { s with cache := s.cache.cleared } := rfl
  obtain ⟨objectIds, listed⟩ : ∃ objectIds,
      objectIds = s.store.backend.listed (s.store.config.keyPrefix .toolCallArtifact) := ⟨_, rfl⟩
  have listing : onStore UnifiedObjectStore.listToolArtifacts
      { s with cache := s.cache.cleared } = .ok objectIds { s with cache := s.cache.cleared } :=
    listed ▸ onStore_ok (UnifiedObjectStore.list_eq s.store .toolCallArtifact)
  obtain ⟨s', loop, shown, balanced, counted⟩ := foldlM_simulates
    (R := fun t q => Shows t q ∧ t.cache.purged + q.held = s.cache.purged + p.held ∧
      t.cache.counters = { s.cache.counters with purged := t.cache.purged })
    (rebuildOne_tallies now clock) objectIds (b := 0) ⟨emptied, rfl, rfl⟩
  refine ⟨objectIds, ?_⟩
  simp only [rebuildIndex, bind_run, clearing, listing, loop]
  refine ⟨_, listed ▸ s.store.backend.listed_sorted _, listed ▸ shows.has.mem_list shows.plain,
    rfl, shown.counters rfl rfl, balanced, ?_⟩
  exact congrArg (fun c : ToolCounters =>
    { c with reindexed := c.reindexed + (p.rebuild now objectIds).1 }) counted

omit [PyJson] in
theorem rebuild_shows [LawfulSerializer Bytes] (shows : Shows s p) (now clock : Rat) :
    ∃ objectIds s', objectIds.Pairwise (· < ·) ∧
      (∀ objectId, objectId ∈ objectIds ↔ (p.live objectId).isSome) ∧
      rebuildIndex now clock s = .ok (p.rebuild now objectIds).1 s' ∧
      Shows s' (p.rebuild now objectIds).2 := by
  obtain ⟨objectIds, s', sorted, all, done, shown, -⟩ := rebuild_tallies shows now clock
  exact ⟨objectIds, s', sorted, all, done, shown⟩

omit [PyJson] in
private theorem purgeItem_tallies [LawfulSerializer Bytes] (now clock : Rat)
    {counters : ToolCounters} (purged : Nat) (item : ToolCacheKey × String)
    (s : CacheSession (MemoryBackend Bytes) η ToolArtifactCache) (p : ToolPicture)
    (shows : Shows s p ∧ s.cache.counters = counters) :
    ∃ s', purgeItem now clock purged item s =
        .ok (ToolPicture.purgeItem now (purged, p) item).1 s' ∧
      Shows s' (ToolPicture.purgeItem now (purged, p) item).2 ∧
      s'.cache.counters = counters := by
  obtain ⟨shows, counted⟩ := shows
  rw [purgeItem, bind_run, shows.getArtifact]
  simp only [ToolPicture.purgeItem]
  cases found : p.live item.2 with
  | none => exact ⟨_, rfl, shows.popped item.1, counted⟩
  | some artifact =>
      simp only [Option.map_some]
      by_cases expired : artifact.isExpired now = true
      · obtain ⟨store, deleted, gone⟩ := (shows.popped item.1).deleteArtifact item.2
        have present : ((p.pop item.1).live item.2).isSome = true := by
          rw [ToolPicture.pop, found]
          rfl
        rw [present] at deleted
        have touched := artifact.touch_isExpired clock now
        rw [if_pos (touched.trans expired), if_pos expired]
        simp only [bind_run, onCache, zoom_run, modify_run, deleted]
        exact ⟨_, rfl, gone, counted⟩
      · have touched : (artifact.touch clock).isExpired now ≠ true := expired
        rw [if_neg touched, if_neg expired]
        exact ⟨s, rfl, shows, counted⟩

omit [PyJson] in
/-- A purge counts the artifacts it deletes. -/
theorem purge_tallies [LawfulSerializer Bytes] (shows : Shows s p) (now clock : Rat) :
    ∃ s', purgeExpired now clock s = .ok (p.purge now).1 s' ∧ Shows s' (p.purge now).2 ∧
      s'.cache.counters = { s.cache.counters with
        purged := s.cache.purged + (p.purge now).1 } := by
  obtain ⟨s', loop, shown, counted⟩ := foldlM_simulates
    (R := fun s p => Shows s p ∧ s.cache.counters = _) (purgeItem_tallies now clock)
    p.index.entries (b := 0) ⟨shows, rfl⟩
  simp only [purgeExpired, bind_run, get_run, shows.index, loop]
  refine ⟨_, rfl, shown.counters rfl rfl, ?_⟩
  exact congrArg (fun c : ToolCounters =>
    { c with purged := c.purged + (p.purge now).1 }) counted

omit [PyJson] in
theorem purge_shows [LawfulSerializer Bytes] (shows : Shows s p) (now clock : Rat) :
    ∃ s', purgeExpired now clock s = .ok (p.purge now).1 s' ∧ Shows s' (p.purge now).2 := by
  obtain ⟨s', done, shown, -⟩ := purge_tallies shows now clock
  exact ⟨s', done, shown⟩

end

/-! ## Signatures -/

section

variable [PyRuntime]

/-- The call id of the artifact of a key and a version. -/
def callId (signature : ToolCacheKey × String) : String :=
  toolCallId signature.1.1 signature.1.2.1 signature.1.2.2 signature.2

variable [PyJson]

/-- The key and the version an admissible put is for. -/
def signature : ToolCall → Option (ToolCacheKey × String)
  | .put toolName args _ _ scope sourceVersion _ _ _ =>
      match keyFor toolName args scope with
      | .ok key => some (key, sourceVersion)
      | .error _ => none
  | _ => none

def Issued (calls : List ToolCall) (given : ToolCacheKey × String) : Prop :=
  ∃ c ∈ calls, signature c = some given

/-- No two keys and versions that are put share a call id. -/
def CollisionFree (calls : List ToolCall) : Prop :=
  ∀ a b, Issued calls a → Issued calls b → callId a = callId b → a = b

/-- What an admissible put stores has the call id of a signature given out. -/
theorem signed_put {self : ToolArtifactCache} {calls : List ToolCall} {toolName : String}
    {args : PyValue} {output : List (String × PyValue)} {ttl : Rat} {scope : ArtifactScope}
    {sourceVersion : String} {now : Rat} {uuid : String} {clock : Rat}
    {artifact : ToolCallArtifact}
    (made : .put toolName args output ttl scope sourceVersion now uuid clock ∈ calls)
    (admissible : self.artifactFor toolName args output ttl scope sourceVersion now uuid clock =
      .ok artifact) :
    callId (artifact.key, artifact.sourceVersion) = artifact.toolCallId ∧
      Issued calls (artifact.key, artifact.sourceVersion) := by
  obtain ⟨⟨name, argsHash, normalized, hashed, keyed, id⟩, -, version, -⟩ :=
    artifactFor_ok admissible
  have looked : keyFor toolName args scope = .ok (name, argsHash, scope) :=
    keyFor_ok_iff.mpr ⟨name, argsHash, normalized, hashed, rfl⟩
  refine ⟨by rw [keyed, version, id]; rfl, _, made, ?_⟩
  rw [signature, looked, keyed, version]

end

end ToolArtifactCache

end IntelliL3
