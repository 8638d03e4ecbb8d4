import IntelliL3.Agent.CacheSession

/-! # Tool artifact cache

`agent/tool_cache.py`: results of tool calls, stored under a digest of the call
and found again through an in-memory index by tool, arguments and scope. `now` is
what `self._now(now)` answers, and `clock` what `time.time()` does.
-/

namespace IntelliL3

open Lib

def ArtifactScope.value : ArtifactScope → String
  | .publicScope => "public"
  | .sessionScope => "session"
  | .userScope => "user"
  | .workflowScope => "workflow"
  | .privateScope => "private"

namespace ToolCallArtifact

def isExpired (self : ToolCallArtifact) (now : Rat) : Bool := decide (self.expiresAt ≤ now)

/-- `artifact.meta.touch()` -/
def touch (self : ToolCallArtifact) (clock : Rat) : ToolCallArtifact :=
  { self with objMeta := self.objMeta.touch clock }

end ToolCallArtifact

/-- Tool name, digest of the arguments, scope. -/
abbrev ToolCacheKey : Type := String × String × ArtifactScope

structure ToolArtifactCache where
  requireSourceVersion : Bool
  index : Dict ToolCacheKey String := .empty
  puts : Nat := 0
  hits : Nat := 0
  misses : Nat := 0
  expired : Nat := 0
  invalidated : Nat := 0
  reindexed : Nat := 0
  purged : Nat := 0

/-- What a cache has counted. -/
structure ToolCounters where
  puts : Nat
  hits : Nat
  misses : Nat
  expired : Nat
  invalidated : Nat
  reindexed : Nat
  purged : Nat

namespace ToolCounters

def hit (self : ToolCounters) : ToolCounters := { self with hits := self.hits + 1 }

def miss (self : ToolCounters) : ToolCounters := { self with misses := self.misses + 1 }

/-- A get that finds its artifact expired. -/
def expire (self : ToolCounters) : ToolCounters :=
  { self with expired := self.expired + 1, misses := self.misses + 1 }

end ToolCounters

structure ToolCacheStats where
  entries : Nat
  puts : Nat
  hits : Nat
  misses : Nat
  expired : Nat
  invalidated : Nat
  reindexed : Nat
  purged : Nat
  hitRate : Rat
  toolCacheHitRate : Rat

namespace ToolCallArtifact

/-- The key an artifact is indexed under by `rebuild_index`. -/
def key (self : ToolCallArtifact) : ToolCacheKey :=
  (self.toolName, self.toolArgsHash, self.permissionScope)

/-- `source_version is not None and artifact.source_version != source_version` -/
def versionDiffers (self : ToolCallArtifact) (sourceVersion : Option String) : Bool :=
  sourceVersion.any (· ≠ self.sourceVersion)

/-- `artifact.expires_at > other.expires_at` -/
def outlives (self other : ToolCallArtifact) : Bool := decide (other.expiresAt < self.expiresAt)

@[simp] theorem touch_key (self : ToolCallArtifact) (clock : Rat) :
    (self.touch clock).key = self.key := rfl

@[simp] theorem touch_versionDiffers (self : ToolCallArtifact) (clock : Rat)
    (sourceVersion : Option String) :
    (self.touch clock).versionDiffers sourceVersion = self.versionDiffers sourceVersion := rfl

@[simp] theorem touch_permissionScope (self : ToolCallArtifact) (clock : Rat) :
    (self.touch clock).permissionScope = self.permissionScope := rfl

@[simp] theorem touch_toolCallId (self : ToolCallArtifact) (clock : Rat) :
    (self.touch clock).toolCallId = self.toolCallId := rfl

@[simp] theorem touch_outlives (self other : ToolCallArtifact) (clock clock' : Rat) :
    (self.touch clock).outlives (other.touch clock') = self.outlives other := rfl

@[simp] theorem touch_isExpired (self : ToolCallArtifact) (clock now : Rat) :
    (self.touch clock).isExpired now = self.isExpired now := rfl

end ToolCallArtifact

namespace ToolArtifactCache

open CacheSession UnifiedObjectStore

/-- `ToolArtifactCache(store, require_source_version)` -/
def new (requireSourceVersion : Bool := false) : ToolArtifactCache := { requireSourceVersion }

def stats (self : ToolArtifactCache) : ToolCacheStats :=
  let totalGets := self.hits + self.misses
  let hitRate : Rat := if totalGets = 0 then 0 else self.hits / totalGets
  { entries := self.index.size
    puts := self.puts
    hits := self.hits
    misses := self.misses
    expired := self.expired
    invalidated := self.invalidated
    reindexed := self.reindexed
    purged := self.purged
    hitRate
    toolCacheHitRate := hitRate }

def counters (self : ToolArtifactCache) : ToolCounters where
  puts := self.puts
  hits := self.hits
  misses := self.misses
  expired := self.expired
  invalidated := self.invalidated
  reindexed := self.reindexed
  purged := self.purged

def normalizeToolName (toolName : String) : Except PyError String :=
  let toolName := strip toolName
  if toolName = "" then .error (.valueError "tool_name must be non-empty") else .ok toolName

/-- `self._index.clear()` -/
def cleared (self : ToolArtifactCache) : ToolArtifactCache := { self with index := .empty }

/-- `self._index[key] = object_id` -/
def assign (self : ToolArtifactCache) (key : ToolCacheKey) (objectId : String) :
    ToolArtifactCache :=
  { self with index := self.index.set key objectId }

/-- `self._index.pop(key, None)`, without its answer. -/
def popped (self : ToolArtifactCache) (key : ToolCacheKey) : ToolArtifactCache :=
  { self with index := self.index.erase key }

section

variable [PyRuntime]

def toolCallId (toolName argsHash : String) (scope : ArtifactScope) (sourceVersion : String) :
    String :=
  shortDigest s!"{toolName}:{argsHash}:{scope.value}:{sourceVersion}"

variable [PyJson]

def hashArgs (value : PyValue) : Except PyError String := do
  let payload ← PyJson.dumps value
  return shortDigest payload

/-- The artifact a put stores, when the call is admissible. -/
def artifactFor (self : ToolArtifactCache) (toolName : String) (args : PyValue)
    (output : List (String × PyValue)) (ttl : Rat) (scope : ArtifactScope)
    (sourceVersion : String) (now : Rat) (uuid : String) (clock : Rat) :
    Except PyError ToolCallArtifact := do
  let toolName ← normalizeToolName toolName
  if positive : 0 < ttl then
    if self.requireSourceVersion ∧ sourceVersion = "" then
      throw (.valueError "source_version is required")
    else
      let argsHash ← hashArgs args
      let outputHash ← hashArgs (.dict output)
      return {
        objMeta := { ObjectMeta.new .toolCallArtifact uuid clock with
          consistencyClass := some .ttl }
        toolCallId := toolCallId toolName argsHash scope sourceVersion
        toolName
        toolArgsHash := argsHash
        toolOutputHash := outputHash
        toolOutputPayload := output
        ttl
        sourceVersion
        permissionScope := scope
        createdAt := now
        expiresAt := now + ttl
        ttlPositive := positive
        expiresLater := lt_add_of_pos_right now positive }
  else throw (.valueError "ttl must be positive")

variable {β η Bytes : Type} [StorageBackend (EStateM PyError β) Bytes] [Serializer Bytes]
  [Hnswlib η]

def putToolArtifact (toolName : String) (args : PyValue) (output : List (String × PyValue))
    (ttl : Rat) (scope : ArtifactScope := .privateScope) (sourceVersion : String := "")
    (now : Rat) (uuid : String) (clock : Rat) : CacheM β η ToolArtifactCache String := do
  let self := (← get).cache
  let artifact ← raising
    (self.artifactFor toolName args output ttl scope sourceVersion now uuid clock)
  let previousId := self.index.get? artifact.key
  let objectId ← onStore (UnifiedObjectStore.putToolArtifact artifact)
  match previousId with
  | some previous =>
      if previous ≠ objectId then
        let _ ← onStore (deleteToolArtifact previous)
  | none => pure ()
  onCache (modify fun self =>
    { self.assign artifact.key objectId with puts := self.puts + 1 })
  return objectId

/-- A get that misses. -/
def miss : CacheM β η ToolArtifactCache (Option ToolCallArtifact) := do
  onCache (modify fun self => { self with misses := self.misses + 1 })
  return none

def getToolArtifact (toolName : String) (args : PyValue)
    (scope : ArtifactScope := .privateScope) (sourceVersion : Option String := none)
    (now clock : Rat) : CacheM β η ToolArtifactCache (Option ToolCallArtifact) := do
  let toolName ← raising (normalizeToolName toolName)
  let argsHash ← raising (hashArgs args)
  let key := (toolName, argsHash, scope)
  match (← get).cache.index.get? key with
  | none => miss
  | some objectId =>
      match ← onStore (UnifiedObjectStore.getToolArtifact objectId clock) with
      | none =>
          onCache (modify fun self => self.popped key)
          miss
      | some artifact =>
          if artifact.versionDiffers sourceVersion then miss
          else if artifact.permissionScope ≠ scope then miss
          else if artifact.isExpired now then
            onCache (modify fun self => self.popped key)
            let _ ← onStore (deleteToolArtifact objectId)
            onCache (modify fun self => { self with expired := self.expired + 1 })
            miss
          else
            onCache (modify fun self => { self with hits := self.hits + 1 })
            return some artifact

/-- One key of `keys_to_delete`: its artifact is deleted with it. -/
def invalidateKey (deleted : Nat) (key : ToolCacheKey) : CacheM β η ToolArtifactCache Nat := do
  match (← get).cache.index.get? key with
  | none => return deleted -- the keys were read off the index, so each one is found
  | some objectId =>
      onCache (modify fun self => self.popped key)
      if ← onStore (deleteToolArtifact objectId) then return deleted + 1 else return deleted

def invalidateToolArtifacts (toolName : Option String := none)
    (scope : Option ArtifactScope := none) : CacheM β η ToolArtifactCache Nat := do
  let normalizedTool ← raising (toolName.mapM normalizeToolName)
  let keysToDelete := (← get).cache.index.keys.filter fun key =>
    normalizedTool.all (key.1 = ·) && scope.all (key.2.2 = ·)
  let deleted ← keysToDelete.foldlM invalidateKey 0
  onCache (modify fun self => { self with invalidated := self.invalidated + deleted })
  return deleted

/-- One id of the loop in `rebuild_index`. -/
def rebuildOne (currentTime clock : Rat) (indexed : Nat) (objectId : String) :
    CacheM β η ToolArtifactCache Nat := do
  match ← onStore (UnifiedObjectStore.getToolArtifact objectId clock) with
  | none => return indexed
  | some artifact =>
      if artifact.isExpired currentTime then
        let _ ← onStore (deleteToolArtifact objectId)
        onCache (modify fun self => { self with purged := self.purged + 1 })
        return indexed
      else
        match (← get).cache.index.get? artifact.key with
        | none =>
            onCache (modify fun self => self.assign artifact.key artifact.toolCallId)
            return indexed + 1
        | some currentId =>
            let current ← onStore (UnifiedObjectStore.getToolArtifact currentId clock)
            if current.all artifact.outlives then
              onCache (modify fun self => self.assign artifact.key artifact.toolCallId)
            return indexed

def rebuildIndex (now clock : Rat) : CacheM β η ToolArtifactCache Nat := do
  onCache (modify cleared)
  let objectIds ← onStore listToolArtifacts
  let indexed ← objectIds.foldlM (rebuildOne now clock) 0
  onCache (modify fun self => { self with reindexed := self.reindexed + indexed })
  return indexed

/-- One item of the loop in `purge_expired`. -/
def purgeItem (currentTime clock : Rat) (purged : Nat) (item : ToolCacheKey × String) :
    CacheM β η ToolArtifactCache Nat := do
  match ← onStore (UnifiedObjectStore.getToolArtifact item.2 clock) with
  | none =>
      onCache (modify fun self => self.popped item.1)
      return purged
  | some artifact =>
      if artifact.isExpired currentTime then
        onCache (modify fun self => self.popped item.1)
        if ← onStore (deleteToolArtifact item.2) then return purged + 1 else return purged
      else return purged

def purgeExpired (now clock : Rat) : CacheM β η ToolArtifactCache Nat := do
  let purged ← (← get).cache.index.entries.foldlM (purgeItem now clock) 0
  onCache (modify fun self => { self with purged := self.purged + purged })
  return purged

end

/-! ## Admissible puts -/

section

variable [PyRuntime] [PyJson]

/-- What an admissible put stores. -/
theorem artifactFor_ok {self : ToolArtifactCache} {toolName : String} {args : PyValue}
    {output : List (String × PyValue)} {ttl : Rat} {scope : ArtifactScope}
    {sourceVersion : String} {now : Rat} {uuid : String} {clock : Rat}
    {artifact : ToolCallArtifact}
    (admissible : self.artifactFor toolName args output ttl scope sourceVersion now uuid clock =
      .ok artifact) :
    (∃ name argsHash, normalizeToolName toolName = .ok name ∧ hashArgs args = .ok argsHash ∧
        artifact.key = (name, argsHash, scope) ∧
        artifact.toolCallId = toolCallId name argsHash scope sourceVersion) ∧ 0 < ttl ∧
      artifact.sourceVersion = sourceVersion ∧ artifact.toolOutputPayload = output ∧
      artifact.expiresAt = now + ttl := by
  obtain ⟨name, normalized, admissible⟩ := bind_eq_ok.mp admissible
  by_cases positive : 0 < ttl
  · rw [dif_pos positive] at admissible
    split at admissible
    · cases admissible
    · obtain ⟨argsHash, hashed, admissible⟩ := bind_eq_ok.mp admissible
      obtain ⟨outputHash, -, admissible⟩ := bind_eq_ok.mp admissible
      cases admissible
      exact ⟨⟨name, argsHash, normalized, hashed, rfl, rfl⟩, positive, rfl, rfl, rfl⟩
  · rw [dif_neg positive] at admissible
    cases admissible

end

end ToolArtifactCache

/-! ## Calls -/

inductive ToolCall where
  | put (toolName : String) (args : PyValue) (output : List (String × PyValue)) (ttl : Rat)
      (scope : ArtifactScope) (sourceVersion : String) (now : Rat) (uuid : String) (clock : Rat)
  | get (toolName : String) (args : PyValue) (scope : ArtifactScope)
      (sourceVersion : Option String) (now clock : Rat)
  | invalidate (toolName : Option String) (scope : Option ArtifactScope)
  | rebuild (now clock : Rat)
  | purge (now clock : Rat)

inductive ToolReply where
  | stored (objectId : String)
  | found (artifact : Option ToolCallArtifact)
  | invalidated (deleted : Nat)
  | rebuilt (indexed : Nat)
  | purged (purged : Nat)

namespace ToolArtifactCache

variable {β η Bytes : Type} [StorageBackend (EStateM PyError β) Bytes] [PyRuntime] [PyJson]
  [Serializer Bytes] [Hnswlib η]

def exec : ToolCall → CacheM β η ToolArtifactCache ToolReply
  | .put toolName args output ttl scope sourceVersion now uuid clock => do
      return .stored
        (← putToolArtifact toolName args output ttl scope sourceVersion now uuid clock)
  | .get toolName args scope sourceVersion now clock => do
      return .found (← getToolArtifact toolName args scope sourceVersion now clock)
  | .invalidate toolName scope => do
      return .invalidated (← invalidateToolArtifacts toolName scope)
  | .rebuild now clock => do return .rebuilt (← rebuildIndex now clock)
  | .purge now clock => do return .purged (← purgeExpired now clock)

end ToolArtifactCache

end IntelliL3
