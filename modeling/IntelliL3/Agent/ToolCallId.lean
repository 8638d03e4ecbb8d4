import IntelliL3.Agent.NewestArtifact

/-! # The id of a tool call

An id is the digest of tool, arguments, scope and version joined by colons.
Tools and versions may hold colons themselves, so two calls can be joined to one
text; as long as no two do, ids tell calls apart, in one cache and in many over
one store.
-/

namespace IntelliL3

open Lib

/-! ## Joined texts -/

/-- What stands before a separator begins with what stands before the first one. -/
theorem append_separator_iff {α : Type} {separator : α} {first before after rest : List α}
    (plain : separator ∉ first) :
    before ++ separator :: after = first ++ separator :: rest ↔
      before = first ∧ after = rest ∨
        ∃ between, before = first ++ separator :: between ∧
          between ++ separator :: after = rest := by
  constructor
  · intro same
    rcases List.append_eq_append_iff.mp same with ⟨text, split, tail⟩ | ⟨text, split, tail⟩
    · cases text with
      | nil =>
          rw [List.append_nil] at split
          exact Or.inl ⟨split.symm, (List.cons.inj tail).2⟩
      | cons head text =>
          obtain ⟨rfl, -⟩ := List.cons.inj tail
          exact absurd (split ▸ List.mem_append_right _ List.mem_cons_self) plain
    · cases text with
      | nil =>
          rw [List.append_nil] at split
          exact Or.inl ⟨split, (List.cons.inj tail).2.symm⟩
      | cons head text =>
          obtain ⟨rfl, same⟩ := List.cons.inj tail
          exact Or.inr ⟨text, split, same.symm⟩
  · rintro (⟨rfl, rfl⟩ | ⟨between, rfl, rfl⟩)
    · rfl
    · rw [List.append_assoc, List.cons_append]

namespace ToolArtifactCache

/-- A key and a version as an admissible put names them. -/
structure Producible (given : ToolCacheKey × String) : Prop where
  stripped : strip given.1.1 = given.1.1
  named : given.1.1 ≠ ""
  digits : given.1.2.1.length = 16
  hex : ∀ c ∈ given.1.2.1.toList, c ∈ "0123456789abcdef".toList

/-- The text whose digest the id is. -/
def payload (given : ToolCacheKey × String) : String :=
  s!"{given.1.1}:{given.1.2.1}:{given.1.2.2.value}:{given.2}"

/-- The second tool begins with the whole first key, and the first version ends with all the
    second call has after its tool, the same text between them. -/
def Overlap (given other : ToolCacheKey × String) : Prop :=
  (other.1.1 = s!"{given.1.1}:{given.1.2.1}:{given.1.2.2.value}" ∧
    given.2 = s!"{other.1.2.1}:{other.1.2.2.value}:{other.2}") ∨
  ∃ between : String, other.1.1 = s!"{given.1.1}:{given.1.2.1}:{given.1.2.2.value}:{between}" ∧
    given.2 = s!"{between}:{other.1.2.1}:{other.1.2.2.value}:{other.2}"

theorem payload_toList (given : ToolCacheKey × String) :
    (payload given).toList = given.1.1.toList ++ ':' :: (given.1.2.1.toList ++
      ':' :: (given.1.2.2.value.toList ++ ':' :: given.2.toList)) := by
  simp only [payload, String.toList_append, List.append_assoc]
  rfl

theorem scope_value_plain (scope : ArtifactScope) :
    ':' ∉ scope.value.toList ∧ scope.value.length ≠ 16 := by
  cases scope <;> decide

theorem scope_value_injective : Function.Injective ArtifactScope.value := by
  intro one two same
  cases one <;> cases two <;> first | rfl | exact absurd same (by decide)

theorem Producible.plain {given : ToolCacheKey × String} (producible : Producible given) :
    ':' ∉ given.1.2.1.toList := fun colon => by
  have digit := producible.hex ':' colon
  exact absurd digit (by decide)

theorem overlap_iff {given other : ToolCacheKey × String} :
    Overlap given other ↔
      (other.1.1.toList = given.1.1.toList ++ ':' :: (given.1.2.1.toList ++
          ':' :: given.1.2.2.value.toList) ∧
        given.2.toList = other.1.2.1.toList ++ ':' :: (other.1.2.2.value.toList ++
          ':' :: other.2.toList)) ∨
      ∃ between, other.1.1.toList = given.1.1.toList ++ ':' :: (given.1.2.1.toList ++
          ':' :: (given.1.2.2.value.toList ++ ':' :: between)) ∧
        given.2.toList = between ++ ':' :: (other.1.2.1.toList ++
          ':' :: (other.1.2.2.value.toList ++ ':' :: other.2.toList)) := by
  have texts : ∀ p : List Char → Prop,
      (∃ between, p between) ↔ ∃ between : String, p between.toList :=
    fun p => ⟨fun ⟨l, held⟩ => ⟨String.ofList l, by rwa [String.toList_ofList]⟩,
      fun ⟨text, held⟩ => ⟨_, held⟩⟩
  unfold Overlap
  rw [texts]
  simp only [← String.toList_inj, String.toList_append, List.append_assoc]
  rfl

/-- The first field of a joined text, when neither has a separator. -/
private theorem fields_eq {field field' rest rest' : List Char} (plain : ':' ∉ field)
    (plain' : ':' ∉ field') (same : field ++ ':' :: rest = field' ++ ':' :: rest') :
    field = field' ∧ rest = rest' := by
  rcases (append_separator_iff plain').mp same with equal | ⟨between, longer, -⟩
  · exact equal
  · exact absurd (longer ▸ List.mem_append_right _ List.mem_cons_self) plain

/-- Where the second tool goes on after the first one, the calls overlap. -/
private theorem overlap_of_longer {given other : ToolCacheKey × String}
    (producible : Producible given) (producible' : Producible other) {text : List Char}
    (longer : other.1.1.toList = given.1.1.toList ++ ':' :: text)
    (same : text ++ ':' :: (other.1.2.1.toList ++
        ':' :: (other.1.2.2.value.toList ++ ':' :: other.2.toList)) =
      given.1.2.1.toList ++ ':' :: (given.1.2.2.value.toList ++ ':' :: given.2.toList)) :
    Overlap given other := by
  obtain ⟨plain, length⟩ := scope_value_plain given.1.2.2
  rw [overlap_iff]
  rcases (append_separator_iff producible.plain).mp same with ⟨-, rest⟩ | ⟨text, rfl, rest⟩
  · -- A digest is no scope.
    have equal := (fields_eq producible'.plain plain rest).1
    have sixteen := producible'.digits
    rw [String.toList_inj.mp equal] at sixteen
    exact absurd sixteen length
  · rcases (append_separator_iff plain).mp rest with ⟨rfl, version⟩ | ⟨between, rfl, version⟩
    · exact Or.inl ⟨longer, version.symm⟩
    · exact Or.inr ⟨between, longer, version.symm⟩

private theorem same_or_overlap {given other : ToolCacheKey × String}
    (producible : Producible given) (producible' : Producible other) {text : List Char}
    (tool : other.1.1.toList = given.1.1.toList ++ text)
    (same : ':' :: (given.1.2.1.toList ++
        ':' :: (given.1.2.2.value.toList ++ ':' :: given.2.toList)) =
      text ++ ':' :: (other.1.2.1.toList ++
        ':' :: (other.1.2.2.value.toList ++ ':' :: other.2.toList))) :
    given = other ∨ Overlap given other := by
  cases text with
  | nil =>
      rw [List.append_nil] at tool
      obtain ⟨hash, rest⟩ := fields_eq producible.plain producible'.plain (List.cons.inj same).2
      obtain ⟨scope, version⟩ := fields_eq (scope_value_plain _).1 (scope_value_plain _).1 rest
      have scopes := scope_value_injective (String.toList_inj.mp scope)
      exact Or.inl (Prod.ext (Prod.ext (String.toList_inj.mp tool).symm
        (Prod.ext (String.toList_inj.mp hash) scopes)) (String.toList_inj.mp version))
  | cons head text =>
      obtain ⟨rfl, tail⟩ := List.cons.inj same
      exact Or.inr (overlap_of_longer producible producible' tool tail.symm)

theorem Overlap.payload_eq {given other : ToolCacheKey × String} (overlap : Overlap given other) :
    payload given = payload other := by
  rw [← String.toList_inj, payload_toList, payload_toList]
  rcases overlap_iff.mp overlap with ⟨tool, version⟩ | ⟨between, tool, version⟩
  · simp only [tool, version, List.append_assoc, List.cons_append]
  · simp only [tool, version, List.append_assoc, List.cons_append]

/-- Calls that overlap name different tools. -/
theorem Overlap.tools_differ {given other : ToolCacheKey × String}
    (overlap : Overlap given other) : given.1.1 ≠ other.1.1 := by
  intro same
  rcases overlap_iff.mp overlap with ⟨tool, -⟩ | ⟨between, tool, -⟩
  · rw [same] at tool
    exact absurd (List.self_eq_append_right.mp tool) (List.cons_ne_nil _ _)
  · rw [same] at tool
    exact absurd (List.self_eq_append_right.mp tool) (List.cons_ne_nil _ _)

/-- Two calls are joined to one text exactly when they are the same or overlap. -/
theorem payload_eq_iff {given other : ToolCacheKey × String} (producible : Producible given)
    (producible' : Producible other) :
    payload given = payload other ↔
      given = other ∨ Overlap given other ∨ Overlap other given := by
  constructor
  · intro same
    rw [← String.toList_inj, payload_toList, payload_toList] at same
    rcases List.append_eq_append_iff.mp same with ⟨text, tool, rest⟩ | ⟨text, tool, rest⟩
    · rcases same_or_overlap producible producible' tool rest with equal | overlap
      · exact Or.inl equal
      · exact Or.inr (Or.inl overlap)
    · rcases same_or_overlap producible' producible tool rest with equal | overlap
      · exact Or.inl equal.symm
      · exact Or.inr (Or.inr overlap)
  · rintro (rfl | overlap | overlap)
    · rfl
    · exact overlap.payload_eq
    · exact overlap.payload_eq.symm

/-! ## Which calls are producible -/

section

variable [PyRuntime]

theorem callId_eq (given : ToolCacheKey × String) : callId given = shortDigest (payload given) :=
  rfl

theorem shortDigest_digits (text : String) :
    (shortDigest text).length = 16 ∧
      ∀ c ∈ (shortDigest text).toList, c ∈ "0123456789abcdef".toList := by
  have hex : ∀ digit < 16, Nat.digitChar digit ∈ "0123456789abcdef".toList := by decide
  constructor
  · simp [shortDigest]
  · intro c member
    rw [shortDigest, String.toList_ofList, List.mem_map] at member
    obtain ⟨i, -, rfl⟩ := member
    exact hex _ (Nat.mod_lt _ (by decide))

/-- What a put looks up is producible. -/
private theorem producible_key [PyJson] {toolName : String} {args : PyValue} {scope : ArtifactScope}
    {key : ToolCacheKey} (looked : keyFor toolName args scope = .ok key) (version : String) :
    Producible (key, version) := by
  obtain ⟨name, argsHash, normalized, hashed, rfl⟩ := keyFor_ok_iff.mp looked
  obtain ⟨text, -, digest⟩ := bind_eq_ok.mp hashed
  cases digest
  unfold normalizeToolName at normalized
  simp only at normalized
  split at normalized
  · cases normalized
  · next named =>
      cases normalized
      exact ⟨strip_strip toolName, named, (shortDigest_digits text).1, (shortDigest_digits text).2⟩

theorem producible_signature [PyJson] {c : ToolCall} {given : ToolCacheKey × String}
    (signed : signature c = some given) : Producible given := by
  cases c with
  | put toolName args output ttl scope sourceVersion now uuid clock =>
      cases looked : keyFor toolName args scope with
      | error e =>
          rw [signature, looked] at signed
          cases signed
      | ok key =>
          rw [signature, looked] at signed
          cases signed
          exact producible_key looked sourceVersion
  | get | invalidate | rebuild | purge => cases signed

end

end ToolArtifactCache

/-! ## What is indexed and live -/

namespace ToolPicture

/-- A picture has no artifact more than another, and indexes no id more that is not live
    there under the key. -/
structure Prunes (p q : ToolPicture) : Prop where
  index : ∀ key objectId, q.index.get? key = some objectId →
    p.index.get? key = some objectId ∨
      ∃ artifact, p.live objectId = some artifact ∧ artifact.key = key
  live : ∀ objectId artifact, q.live objectId = some artifact → p.live objectId = some artifact

namespace Prunes

variable {p q r : ToolPicture}

theorem refl (p : ToolPicture) : Prunes p p := ⟨fun _ _ => Or.inl, fun _ _ => id⟩

theorem trans (first : Prunes p q) (second : Prunes q r) : Prunes p r where
  index key objectId known := by
    rcases second.index key objectId known with before | ⟨artifact, held, keyed⟩
    · exact first.index key objectId before
    · exact Or.inr ⟨artifact, first.live _ _ held, keyed⟩
  live objectId artifact held := first.live _ _ (second.live _ _ held)

theorem pop (p : ToolPicture) (key : ToolCacheKey) : Prunes p (p.pop key) where
  index other objectId known := by
    change (p.index.erase key).get? other = some objectId at known
    rw [Dict.get?_erase] at known
    split at known
    · cases known
    · exact Or.inl known
  live _ _ := id

theorem delete (p : ToolPicture) (objectId : String) : Prunes p (p.delete objectId) where
  index _ _ := Or.inl
  live other artifact held := by
    rw [live_delete] at held
    split at held
    · cases held
    · exact held

theorem assign {artifact : ToolCallArtifact} {objectId : String}
    (held : p.live objectId = some artifact) (named : artifact.toolCallId = objectId) :
    Prunes p { p with index := p.index.set artifact.key artifact.toolCallId } where
  index key other known := by
    change (p.index.set artifact.key artifact.toolCallId).get? key = some other at known
    rw [Dict.get?_set] at known
    split at known
    · next same =>
        cases known
        exact Or.inr ⟨artifact, named ▸ held, same⟩
    · exact Or.inl known
  live _ _ := id

theorem get (p : ToolPicture) (key : ToolCacheKey) (sourceVersion : Option String) (now : Rat) :
    Prunes p (p.get key sourceVersion now).2 := by
  unfold ToolPicture.get
  cases p.index.get? key with
  | none => exact refl p
  | some objectId =>
      simp only
      cases p.live objectId with
      | none => exact pop p key
      | some artifact =>
          simp only
          split
          · exact refl p
          · split
            · exact refl p
            · split
              · exact (pop p key).trans (delete _ objectId)
              · exact refl p

/-- What every item of a loop prunes, the loop prunes. -/
private theorem fold {α : Type} {step : Nat × ToolPicture → α → Nat × ToolPicture}
    (keep : ∀ counted a, Prunes counted.2 (step counted a).2) (items : List α) (n : Nat)
    (p : ToolPicture) : Prunes p (items.foldl step (n, p)).2 := by
  suffices ∀ counted : Nat × ToolPicture, Prunes counted.2 (items.foldl step counted).2 from
    this (n, p)
  induction items with
  | nil => exact fun counted => refl counted.2
  | cons a rest ih => exact fun counted => (keep counted a).trans (ih _)

theorem invalidate (p : ToolPicture) (toolName : Option String) (scope : Option ArtifactScope) :
    Prunes p (p.invalidate toolName scope).2 := by
  refine fold (fun counted key => ?_) _ 0 p
  obtain ⟨deleted, q⟩ := counted
  simp only [invalidateKey]
  cases q.index.get? key with
  | none => exact refl q
  | some objectId => exact (pop q key).trans (delete _ objectId)

theorem purge (p : ToolPicture) (now : Rat) : Prunes p (p.purge now).2 := by
  refine fold (fun counted item => ?_) _ 0 p
  obtain ⟨purged, q⟩ := counted
  simp only [purgeItem]
  cases q.live item.2 with
  | none => exact pop q item.1
  | some artifact =>
      simp only
      split
      · exact (pop q item.1).trans (delete _ item.2)
      · exact refl q

theorem rebuildOne {indexed : Nat}
    (named : ∀ objectId artifact, p.live objectId = some artifact →
      artifact.toolCallId = objectId) (now : Rat) (objectId : String) :
    Prunes p (ToolPicture.rebuildOne now (indexed, p) objectId).2 := by
  simp only [ToolPicture.rebuildOne]
  cases held : p.live objectId with
  | none => exact refl p
  | some artifact =>
      have assigned := assign held (named objectId artifact held)
      simp only
      split
      · exact delete p objectId
      · cases p.index.get? artifact.key with
        | none => exact assigned
        | some currentId =>
            simp only
            split
            · exact assigned
            · exact refl p

theorem rebuild (named : ∀ objectId artifact, p.live objectId = some artifact →
      artifact.toolCallId = objectId) (now : Rat) (objectIds : List String) :
    Prunes p (p.rebuild now objectIds).2 := by
  induction objectIds using List.reverseRecOn with
  | nil => exact ⟨fun _ _ known => (by cases known), fun _ _ => id⟩
  | append_singleton visited objectId ih =>
      rw [rebuild_concat]
      exact ih.trans (rebuildOne (fun id artifact held => named id artifact (ih.live _ _ held))
        now objectId)

end Prunes

theorem get_eq_some {p : ToolPicture} {key : ToolCacheKey} {sourceVersion : Option String}
    {now : Rat} {artifact : ToolCallArtifact}
    (found : (p.get key sourceVersion now).1 = some artifact) :
    ∃ objectId, p.index.get? key = some objectId ∧ p.live objectId = some artifact := by
  unfold get at found
  cases known : p.index.get? key with
  | none => rw [known] at found; cases found
  | some objectId =>
      simp only [known] at found
      cases held : p.live objectId with
      | none => rw [held] at found; cases found
      | some other =>
          simp only [held] at found
          split at found
          · cases found
          · split at found
            · cases found
            · split at found
              · cases found
              · cases found
                exact ⟨objectId, rfl, held⟩

section

open ToolArtifactCache (callId)

variable [PyRuntime]

/-- Every artifact has the id of its own call, and every key is indexed under the id of one
    of its calls. -/
structure Marked (given : Set (ToolCacheKey × String)) (p : ToolPicture) : Prop where
  indexed : ∀ key objectId, p.index.get? key = some objectId →
    ∃ version, callId (key, version) = objectId ∧ (key, version) ∈ given
  signed : ∀ objectId artifact, p.live objectId = some artifact →
    callId (artifact.key, artifact.sourceVersion) = objectId ∧
      (artifact.key, artifact.sourceVersion) ∈ given

namespace Marked

variable {given : Set (ToolCacheKey × String)} {p q : ToolPicture}

theorem prune (marked : Marked given p) (prunes : Prunes p q) : Marked given q where
  indexed key objectId known := by
    rcases prunes.index key objectId known with before | ⟨artifact, held, keyed⟩
    · exact marked.indexed key objectId before
    · obtain ⟨own, member⟩ := marked.signed objectId artifact held
      rw [keyed] at own member
      exact ⟨artifact.sourceVersion, own, member⟩
  signed objectId artifact held := marked.signed objectId artifact (prunes.live _ _ held)

theorem put (marked : Marked given p) {artifact : ToolCallArtifact}
    (own : callId (artifact.key, artifact.sourceVersion) = artifact.toolCallId)
    (member : (artifact.key, artifact.sourceVersion) ∈ given) :
    Marked given (p.put artifact) where
  indexed key objectId known := by
    change (p.index.set artifact.key artifact.toolCallId).get? key = some objectId at known
    rw [Dict.get?_set] at known
    split at known
    · next same =>
        cases known
        exact ⟨artifact.sourceVersion, same ▸ own, same ▸ member⟩
    · exact marked.indexed key objectId known
  signed objectId other held := by
    rw [live_put] at held
    split at held
    · next here =>
        cases held
        exact ⟨own.trans here.symm, member⟩
    · split at held
      · cases held
      · exact marked.signed objectId other held

end Marked

end

end ToolPicture

namespace ToolArtifactCache

variable {η Bytes : Type} [PyRuntime] [PyJson] [Serializer Bytes] [LawfulSerializer Bytes]
  [Hnswlib η] {given : Set (ToolCacheKey × String)}

/-- Whatever a cache is called for, returning or raising, artifacts and keys keep the ids of
    their calls. -/
theorem exec_marked {s : CacheSession (MemoryBackend Bytes) η ToolArtifactCache} {p : ToolPicture}
    (shows : Shows s p) (marked : p.Marked given) (c : ToolCall)
    (issued : ∀ a, signature c = some a → a ∈ given) :
    ∃ q, Shows (EStateResult.state (exec c s)) q ∧ q.Marked given := by
  cases c with
  | put toolName args output ttl scope sourceVersion now uuid clock =>
      simp only [exec, bind_run]
      cases admitted : s.cache.artifactFor toolName args output ttl scope sourceVersion now uuid
          clock with
      | error e =>
          rw [put_error admitted]
          exact ⟨p, shows, marked⟩
      | ok artifact =>
          obtain ⟨own, call, made, same⟩ := signed_put (List.mem_singleton.mpr rfl) admitted
          obtain ⟨s', done, shown⟩ := put_shows shows admitted
          rw [done]
          refine ⟨_, shown, marked.put own ?_⟩
          rw [List.mem_singleton] at made
          exact issued _ (made ▸ same)
  | get toolName args scope sourceVersion now clock =>
      simp only [exec, bind_run]
      cases looked : keyFor toolName args scope with
      | error e =>
          rw [get_error looked]
          exact ⟨p, shows, marked⟩
      | ok key =>
          obtain ⟨s', done, shown⟩ := get_shows shows looked sourceVersion now clock
          rw [done]
          exact ⟨_, shown, marked.prune (.get p key sourceVersion now)⟩
  | invalidate toolName scope =>
      simp only [exec, bind_run]
      cases normalizes : toolName.mapM normalizeToolName with
      | error e =>
          rw [invalidate_error normalizes]
          exact ⟨p, shows, marked⟩
      | ok normalized =>
          obtain ⟨s', done, shown⟩ := invalidate_shows shows normalizes scope
          rw [done]
          exact ⟨_, shown, marked.prune (.invalidate p normalized scope)⟩
  | rebuild now clock =>
      simp only [exec, bind_run]
      obtain ⟨objectIds, s', -, -, done, shown⟩ := rebuild_shows shows now clock
      rw [done]
      exact ⟨_, shown, marked.prune (.rebuild shows.named now objectIds)⟩
  | purge now clock =>
      simp only [exec, bind_run]
      obtain ⟨s', done, shown⟩ := purge_shows shows now clock
      rw [done]
      exact ⟨_, shown, marked.prune (.purge p now)⟩

end ToolArtifactCache

/-! ## Many caches over one store -/

/-- Tool caches that share a store. -/
structure SharedTools (ι η Bytes : Type) where
  store : UnifiedObjectStore (MemoryBackend Bytes) η
  caches : ι → ToolArtifactCache

namespace SharedTools

open ToolArtifactCache

variable {ι η Bytes : Type}

/-- A cache and the store. -/
def session (s : SharedTools ι η Bytes) (i : ι) :
    CacheSession (MemoryBackend Bytes) η ToolArtifactCache :=
  ⟨s.store, s.caches i⟩

variable [DecidableEq ι]

def back (i : ι) (s : SharedTools ι η Bytes)
    (t : CacheSession (MemoryBackend Bytes) η ToolArtifactCache) : SharedTools ι η Bytes :=
  ⟨t.store, Function.update s.caches i t.cache⟩

variable [PyRuntime] [PyJson] [Serializer Bytes] [Hnswlib η]

def exec : ι × ToolCall → EStateM PyError (SharedTools ι η Bytes) ToolReply
  | (i, c) => zoom (session · i) (back i) (ToolArtifactCache.exec c)

/-- New caches over an empty store. -/
def start (config : L3Config) (metadata : MetadataStore η) (requireSourceVersion : ι → Bool) :
    SharedTools ι η Bytes :=
  ⟨.overEmpty Bytes config metadata, fun i => .new (requireSourceVersion i)⟩

omit [DecidableEq ι] in
/-- A put of a call in question overwrites no artifact but of that call, and a get answers
    with an artifact of the tool asked for. -/
structure Separate (given : Set (ToolCacheKey × String)) (s : SharedTools ι η Bytes) : Prop where
  overwrites : ∀ i toolName args output ttl scope sourceVersion now uuid clock artifact,
    (s.caches i).artifactFor toolName args output ttl scope sourceVersion now uuid clock =
      .ok artifact → (artifact.key, artifact.sourceVersion) ∈ given →
    ∀ clock stored, EStateResult.outcome (UnifiedObjectStore.getToolArtifact artifact.toolCallId
        clock s.store) = .ok (some stored) →
      (stored.key, stored.sourceVersion) = (artifact.key, artifact.sourceVersion)
  answers : ∀ i toolName args scope sourceVersion now clock artifact,
    EStateResult.outcome (getToolArtifact toolName args scope sourceVersion now clock
      (s.session i)) = .ok (some artifact) →
    normalizeToolName toolName = .ok artifact.toolName

section

variable {given : Set (ToolCacheKey × String)}

/-- The index of a cache and what the store holds. -/
def picture (s : SharedTools ι η Bytes) (i : ι) (live : String → Option ToolCallArtifact) :
    ToolPicture :=
  ⟨(s.caches i).requireSourceVersion, (s.caches i).index, live⟩

/-- Artifacts and keys of all caches have the ids of their calls. -/
def Marked (given : Set (ToolCacheKey × String)) (s : SharedTools ι η Bytes) : Prop :=
  ∃ live, ∀ i, Shows (s.session i) (s.picture i live) ∧ (s.picture i live).Marked given

omit [DecidableEq ι] [PyJson] [Hnswlib η] in
theorem marked_start (config : L3Config) (metadata : MetadataStore η)
    (requireSourceVersion : ι → Bool) :
    Marked given (start config metadata requireSourceVersion : SharedTools ι η Bytes) :=
  ⟨fun _ => none, fun i => ⟨.new (requireSourceVersion i) config metadata,
    fun _ _ known => (by cases known), fun _ _ held => (by cases held)⟩⟩

theorem Marked.exec [LawfulSerializer Bytes] {s : SharedTools ι η Bytes} (marked : Marked given s)
    (c : ι × ToolCall) (issued : ∀ a, signature c.2 = some a → a ∈ given) :
    Marked given (EStateResult.state (SharedTools.exec c s)) := by
  obtain ⟨live, holds⟩ := marked
  obtain ⟨i, c⟩ := c
  obtain ⟨q, shows, kept⟩ := exec_marked (holds i).1 (holds i).2 c issued
  have after : EStateResult.state (SharedTools.exec (i, c) s) =
      back i s (EStateResult.state (ToolArtifactCache.exec c (s.session i))) := by
    rw [SharedTools.exec, zoom_run]
    cases ToolArtifactCache.exec c (s.session i) <;> rfl
  rw [after]
  generalize EStateResult.state (ToolArtifactCache.exec c (s.session i)) = t at shows
  refine ⟨q.live, fun j => ?_⟩
  by_cases same : j = i
  · subst same
    have cache : (back j s t).caches j = t.cache := Function.update_self _ _ _
    rw [SharedTools.session, SharedTools.picture, cache, shows.required, shows.index]
    exact ⟨shows, kept⟩
  · have cache : (back i s t).caches j = s.caches j := Function.update_of_ne same _ _
    rw [SharedTools.session, SharedTools.picture, cache]
    exact ⟨⟨rfl, rfl, shows.has, shows.named, shows.plain⟩,
      (holds j).2.indexed, kept.signed⟩

omit [DecidableEq ι] in
theorem Marked.separate [LawfulSerializer Bytes] {s : SharedTools ι η Bytes}
    (marked : Marked given s) (injective : Set.InjOn callId given) : Separate given s := by
  obtain ⟨live, holds⟩ := marked
  constructor
  · intro i toolName args output ttl scope sourceVersion now uuid clock artifact admitted member
      clock stored answered
    obtain ⟨own, -⟩ := signed_put (List.mem_singleton.mpr rfl) admitted
    obtain ⟨shows, signed⟩ := holds i
    change EStateResult.outcome (UnifiedObjectStore.get .toolCallArtifact artifact.toolCallId clock
      (s.session i).store) = _ at answered
    rw [shows.has.get] at answered
    obtain ⟨held, there, rfl⟩ := Option.map_eq_some_iff.mp (Except.ok.inj answered)
    obtain ⟨named, member'⟩ := signed.signed _ _ there
    exact injective member' member (named.trans own.symm)
  · intro i toolName args scope sourceVersion now clock artifact answered
    obtain ⟨shows, signed⟩ := holds i
    cases looked : keyFor toolName args scope with
    | error e =>
        rw [get_error looked] at answered
        cases answered
    | ok key =>
        obtain ⟨s', done, -⟩ := get_shows shows looked sourceVersion now clock
        rw [done] at answered
        obtain ⟨held, found, rfl⟩ := Option.map_eq_some_iff.mp (Except.ok.inj answered)
        obtain ⟨objectId, known, there⟩ := ToolPicture.get_eq_some found
        obtain ⟨version, named, member⟩ := signed.indexed key objectId known
        obtain ⟨named', member'⟩ := signed.signed objectId held there
        have same := injective member member' (named.trans named'.symm)
        obtain ⟨name, argsHash, normalized, -, rfl⟩ := keyFor_ok_iff.mp looked
        rw [normalized]
        exact congrArg (fun a => Except.ok a.1.1) same

end

end SharedTools

section

open ToolArtifactCache

variable [PyRuntime] {given : Set (ToolCacheKey × String)}

/-- Where digests tell joined texts apart, ids tell calls apart exactly when no two overlap. -/
theorem callId_injOn_iff (producible : ∀ a ∈ given, Producible a)
    (digests : ∀ a ∈ given, ∀ b ∈ given, shortDigest (payload a) = shortDigest (payload b) →
      payload a = payload b) :
    Set.InjOn callId given ↔ ∀ a ∈ given, ∀ b ∈ given, ¬ Overlap a b := by
  constructor
  · intro injective a first b second overlap
    refine overlap.tools_differ (congrArg (·.1.1) (injective first second ?_))
    rw [callId_eq, callId_eq, overlap.payload_eq]
  · intro apart a first b second same
    have joined := digests a first b second same
    rcases (payload_eq_iff (producible a first) (producible b second)).mp joined with
      equal | overlap | overlap
    · exact equal
    · exact absurd overlap (apart a first b second)
    · exact absurd overlap (apart b second a first)

variable {η Bytes : Type} [PyJson] [Serializer Bytes] [LawfulSerializer Bytes] [Hnswlib η]

/-- Caches over one store keep apart the calls they put, as long as ids tell these apart. -/
theorem SharedTools.separate_run {ι : Type} [DecidableEq ι] (config : L3Config)
    (metadata : MetadataStore η) (requireSourceVersion : ι → Bool) (calls : List (ι × ToolCall))
    (issued : ∀ c ∈ calls, ∀ a, signature c.2 = some a → a ∈ given)
    (injective : Set.InjOn callId given) :
    (drive SharedTools.exec (SharedTools.start config metadata requireSourceVersion :
      SharedTools ι η Bytes) calls).Separate given :=
  (drive_invariant (fun _ c made marked => marked.exec c (issued c made))
    (marked_start config metadata requireSourceVersion)).separate injective

/-- The calls of a run are kept apart when no two of them overlap. -/
theorem SharedTools.separate_of_apart {ι : Type} [DecidableEq ι] (config : L3Config)
    (metadata : MetadataStore η) (requireSourceVersion : ι → Bool) (calls : List (ι × ToolCall))
    (digests : ∀ a b, Issued (calls.map Prod.snd) a → Issued (calls.map Prod.snd) b →
      shortDigest (payload a) = shortDigest (payload b) → payload a = payload b)
    (apart : ∀ a b, Issued (calls.map Prod.snd) a → Issued (calls.map Prod.snd) b →
      ¬ Overlap a b) :
    (drive SharedTools.exec (SharedTools.start config metadata requireSourceVersion :
      SharedTools ι η Bytes) calls).Separate {a | Issued (calls.map Prod.snd) a} := by
  refine separate_run config metadata requireSourceVersion calls
    (fun c made a signed => ⟨c.2, List.mem_map_of_mem made, signed⟩) ?_
  refine (callId_injOn_iff (fun a issued => ?_) fun a first b second =>
    digests a b first second).mpr fun a first b second => apart a b first second
  obtain ⟨c, -, signed⟩ := issued
  exact producible_signature signed

/-- Ids tell calls apart, and caches over one store keep them apart whatever they are called
    for, exactly when no two calls overlap. -/
theorem tool_call_ids_injective_iff (producible : ∀ a ∈ given, Producible a)
    (digests : ∀ a ∈ given, ∀ b ∈ given, shortDigest (payload a) = shortDigest (payload b) →
      payload a = payload b) :
    (Set.InjOn callId given ∧
      ∀ (ι : Type) [DecidableEq ι] (config : L3Config) (metadata : MetadataStore η)
        (requireSourceVersion : ι → Bool) (calls : List (ι × ToolCall)),
        (∀ c ∈ calls, ∀ a, signature c.2 = some a → a ∈ given) →
        (drive SharedTools.exec (SharedTools.start config metadata requireSourceVersion :
          SharedTools ι η Bytes) calls).Separate given) ↔
      ∀ a ∈ given, ∀ b ∈ given, ¬ Overlap a b := by
  rw [← callId_injOn_iff producible digests]
  refine ⟨And.left, fun injective => ⟨injective, ?_⟩⟩
  intro ι _ config metadata requireSourceVersion calls issued
  exact SharedTools.separate_run config metadata requireSourceVersion calls issued injective

end

section

open Reference ToolArtifactCache

private def searchCall (version : String) : ToolCacheKey × String :=
  (("search", "6b86b273ff34fce1", .privateScope), version)

private def longCall : ToolCacheKey × String :=
  (("search:6b86b273ff34fce1:private", "6b86b273ff34fce1", .privateScope), "v1")

private theorem searchHash_hex :
    ∀ c ∈ "6b86b273ff34fce1".toList, c ∈ "0123456789abcdef".toList := by
  have every : "6b86b273ff34fce1".toList.all
      (fun c => decide (c ∈ "0123456789abcdef".toList)) = true := by decide
  simpa only [List.all_eq_true, decide_eq_true_eq] using every

private theorem searchCall_producible (version : String) : Producible (searchCall version) := by
  have stripped : strip "search" = "search" := by decide +kernel
  have named : "search" ≠ "" := by decide
  have digits : "6b86b273ff34fce1".length = 16 := by decide
  exact ⟨stripped, named, digits, searchHash_hex⟩

/-- Two versions of one search never meet. -/
theorem tool_call_ids_injective_two :
    Set.InjOn callId {searchCall "v1", searchCall "v2"} := by
  have names : ∀ a ∈ ({searchCall "v1", searchCall "v2"} : Set _), ∃ version,
      a = searchCall version := by
    rintro a (rfl | rfl)
    · exact ⟨_, rfl⟩
    · exact ⟨_, rfl⟩
  refine ((@tool_call_ids_injective_iff _ _ FlatIndex Encoded _ _ _ _ (fun a member => ?_)
    fun a first b second same => ?_).mpr fun a first b second overlap => ?_).1
  · obtain ⟨version, rfl⟩ := names a member
    exact searchCall_producible version
  · have differ : shortDigest (payload (searchCall "v1")) ≠
        shortDigest (payload (searchCall "v2")) := by decide +kernel
    rcases first with rfl | rfl <;> rcases second with rfl | rfl
    · rfl
    · exact absurd same differ
    · exact absurd same.symm differ
    · rfl
  · obtain ⟨version, rfl⟩ := names a first
    obtain ⟨version', rfl⟩ := names b second
    exact overlap.tools_differ rfl

/-- A tool and a version with colons share an id with another tool, whose artifact a get of
    the first then answers. -/
theorem overlapping_calls_share_id :
    (¬ ∀ a b, Producible a → Producible b →
      (shortDigest (payload a) = shortDigest (payload b) → payload a = payload b) →
      callId a = callId b → a = b) ∧
    (EStateResult.found (getToolArtifact "search" (.int 1) .privateScope none 1 1
      (SharedTools.session (drive SharedTools.exec
        (SharedTools.start .default Reference.metadata (fun _ : Unit => false) :
          SharedTools Unit FlatIndex Encoded)
        [((), .put "search" (.int 1) [] 10 .privateScope "6b86b273ff34fce1:private:v1" 0 "a" 0),
          ((), .put "search:6b86b273ff34fce1:private" (.int 1) [] 10 .privateScope "v1" 0
            "b" 0)]) ()))).any
      (fun artifact => artifact.toolName = "search:6b86b273ff34fce1:private") = true := by
  constructor
  · intro injective
    have joined : payload (searchCall "6b86b273ff34fce1:private:v1") = payload longCall := by
      decide
    have long : Producible longCall := ⟨by decide +kernel, by decide, by decide, searchHash_hex⟩
    have same := injective _ _ (searchCall_producible _) long (fun _ => joined)
      (congrArg shortDigest joined)
    exact absurd (congrArg (·.2) same) (by decide)
  · decide +kernel

end

end IntelliL3
