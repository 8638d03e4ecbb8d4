import IntelliL3.Agent.ToolPicture
import IntelliL3.Core.Reference
import IntelliL3.Lib.TtlMap

/-! # The tool artifact cache as a TTL map

Index and store of a cache are kept in bijection: every live artifact is indexed
under its own key, and every index entry leads to one. Read that way, a cache is
a map from keys to expiring entries, and its operations are those of the map.
-/

namespace IntelliL3

open Lib

/-- Entries by tool, arguments and scope; a payload is what the tool answered. -/
abbrev ToolMap : Type := TtlMap ToolCacheKey String (List (String × PyValue)) Rat

/-- What the map keeps of an artifact. -/
def ToolCallArtifact.entry (artifact : ToolCallArtifact) :
    TtlEntry String (List (String × PyValue)) Rat :=
  ⟨artifact.toolOutputPayload, artifact.sourceVersion, artifact.expiresAt⟩

/-- What a caller sees of a reply: of a found artifact its payload, version, scope and
    expiry, of a deletion its count, of a rebuild nothing. -/
inductive ToolObservation where
  | stored (objectId : String)
  | found (artifact : Option (List (String × PyValue) × String × ArtifactScope × Rat))
  | invalidated (deleted : Nat)
  | rebuilt
  | purged (purged : Nat)

namespace ToolReply

def observe : ToolReply → ToolObservation
  | .stored objectId => .stored objectId
  | .found artifact => .found (artifact.map fun artifact =>
      (artifact.toolOutputPayload, artifact.sourceVersion, artifact.permissionScope,
        artifact.expiresAt))
  | .invalidated deleted => .invalidated deleted
  | .rebuilt _ => .rebuilt
  | .purged count => .purged count

end ToolReply

namespace ToolMap

variable [PyRuntime] [PyJson]

open ToolArtifactCache

/-- The map an operation leaves and what it answers; a call with an inadmissible argument
    raises. -/
noncomputable def apply (requireSourceVersion : Bool) (m : ToolMap) :
    ToolCall → Except PyError (ToolObservation × ToolMap)
  | .put toolName args output ttl scope sourceVersion now _ _ => do
      let toolName ← normalizeToolName toolName
      if ttl ≤ 0 then throw (.valueError "ttl must be positive")
      else if requireSourceVersion ∧ sourceVersion = "" then
        throw (.valueError "source_version is required")
      else
        let argsHash ← hashArgs args
        let _ ← hashArgs (.dict output)
        return (.stored (toolCallId toolName argsHash scope sourceVersion),
          m.put (toolName, argsHash, scope) ⟨output, sourceVersion, now + ttl⟩)
  | .get toolName args scope sourceVersion now _ => do
      let key ← keyFor toolName args scope
      return (.found ((m.lookup key sourceVersion now).map fun entry =>
          (entry.payload, entry.version, scope, entry.expiresAt)),
        m.expire key sourceVersion now)
  | .invalidate toolName scope => do
      let toolName ← toolName.mapM normalizeToolName
      let named : ToolCacheKey → TtlEntry String (List (String × PyValue)) Rat → Bool :=
        fun key _ => toolName.all (key.1 = ·) && scope.all (key.2.2 = ·)
      return (.invalidated (m.countWhere named), m.removeWhere named)
  | .rebuild now _ => return (.rebuilt, m.purge now)
  | .purge now _ =>
      return (.purged (m.countWhere fun _ entry => entry.isExpired now), m.purge now)

noncomputable def exec (requireSourceVersion : Bool) (c : ToolCall) :
    EStateM PyError ToolMap ToolObservation :=
  fun m => match apply requireSourceVersion m c with
    | .ok (observation, m') => .ok observation m'
    | .error e => .error e m

end ToolMap

namespace ToolPicture

open ToolArtifactCache (callId)

variable [PyRuntime]

/-- Index and live artifacts are in bijection, every artifact has the call id of a
    signature given out, and the map has their entries. -/
structure Linked (requireSourceVersion : Bool) (issued : ToolCacheKey × String → Prop)
    (p : ToolPicture) (m : ToolMap) : Prop where
  required : p.requireSourceVersion = requireSourceVersion
  indexed : ∀ key objectId, p.index.get? key = some objectId ↔
    ∃ artifact, p.live objectId = some artifact ∧ artifact.key = key
  signed : ∀ objectId artifact, p.live objectId = some artifact →
    callId (artifact.key, artifact.sourceVersion) = objectId ∧
      issued (artifact.key, artifact.sourceVersion)
  agrees : ∀ key, m key = ((p.index.get? key).bind p.live).map (·.entry)

namespace Linked

variable {requireSourceVersion : Bool} {issued : ToolCacheKey × String → Prop}
  {p : ToolPicture} {m : ToolMap}

theorem empty :
    Linked requireSourceVersion issued (.empty requireSourceVersion) TtlMap.empty :=
  ⟨rfl, fun _ _ => ⟨fun found => (by cases found), fun ⟨_, found, _⟩ => (by cases found)⟩,
    fun _ _ found => (by cases found), fun _ => rfl⟩

theorem found (linked : Linked requireSourceVersion issued p m) {key : ToolCacheKey}
    {objectId : String} (known : p.index.get? key = some objectId) :
    ∃ artifact, p.live objectId = some artifact ∧ artifact.key = key ∧
      m key = some artifact.entry := by
  obtain ⟨artifact, live, own⟩ := (linked.indexed key objectId).mp known
  refine ⟨artifact, live, own, ?_⟩
  rw [linked.agrees, known, Option.bind_some, live, Option.map_some]

theorem absent (linked : Linked requireSourceVersion issued p m) {key : ToolCacheKey}
    (unknown : p.index.get? key = none) : m key = none := by
  rw [linked.agrees, unknown]
  rfl

/-- Different keys lead to different artifacts. -/
theorem key_of_id (linked : Linked requireSourceVersion issued p m) {key other : ToolCacheKey}
    {objectId : String} (known : p.index.get? key = some objectId)
    (known' : p.index.get? other = some objectId) : key = other := by
  obtain ⟨artifact, live, own, -⟩ := linked.found known
  obtain ⟨artifact', live', own', -⟩ := linked.found known'
  rw [live] at live'
  cases live'
  exact own.symm.trans own'

/-- A key is dropped: its index entry and its artifact go together. -/
theorem drop (linked : Linked requireSourceVersion issued p m) {key : ToolCacheKey}
    {objectId : String} (known : p.index.get? key = some objectId) :
    Linked requireSourceVersion issued ((p.pop key).delete objectId) (m.erase key) := by
  have index : ∀ other, ((p.pop key).delete objectId).index.get? other =
      if key = other then none else p.index.get? other := fun other => p.index.get?_erase key other
  obtain ⟨artifact, live, own, -⟩ := linked.found known
  refine ⟨linked.required, fun other id => ?_, fun id artifact' held => ?_, fun other => ?_⟩
  · rw [index, live_delete]
    by_cases same : key = other
    · subst same
      rw [if_pos rfl]
      refine ⟨fun found => (by cases found), fun ⟨artifact', held, own'⟩ => ?_⟩
      split at held
      · cases held
      · next differ =>
          have there := (linked.indexed key id).mpr ⟨artifact', held, own'⟩
          rw [known] at there
          exact absurd (Option.some.inj there).symm differ
    · rw [if_neg same, linked.indexed]
      by_cases gone : id = objectId
      · subst gone
        rw [if_pos rfl]
        refine ⟨fun ⟨artifact', held, own'⟩ => ?_, fun ⟨_, held, _⟩ => (by cases held)⟩
        rw [live] at held
        cases held
        exact absurd (own.symm.trans own') same
      · rw [if_neg gone]
        rfl
  · rw [live_delete] at held
    split at held
    · cases held
    · exact linked.signed id artifact' held
  · rw [index, TtlMap.erase]
    by_cases same : key = other
    · subst same
      rw [if_pos rfl, Function.update_self]
      rfl
    · rw [if_neg same, Function.update_of_ne (Ne.symm same), linked.agrees]
      cases there : p.index.get? other with
      | none => rfl
      | some id =>
          have differ : id ≠ objectId := by
            rintro rfl
            exact same (linked.key_of_id known there)
          simp only [Option.bind_some, live_delete, if_neg differ]
          rfl

/-- Ids of other keys are neither the new one nor the one it replaces. -/
private theorem other_id (linked : Linked requireSourceVersion issued p m)
    (free : ∀ a b, issued a → issued b → callId a = callId b → a = b)
    {artifact : ToolCallArtifact}
    (own : callId (artifact.key, artifact.sourceVersion) = artifact.toolCallId)
    (given : issued (artifact.key, artifact.sourceVersion)) {key : ToolCacheKey}
    (differ : artifact.key ≠ key) {objectId : String} {other : ToolCallArtifact}
    (live : p.live objectId = some other) (keyed : other.key = key) :
    objectId ≠ artifact.toolCallId ∧ p.index.get? artifact.key ≠ some objectId := by
  obtain ⟨signature, signed⟩ := linked.signed objectId other live
  constructor
  · rintro rfl
    have same := free _ _ given signed (own.trans signature.symm)
    exact differ ((congrArg Prod.fst same).trans keyed)
  · intro previous
    obtain ⟨held, live', own', -⟩ := linked.found previous
    rw [live] at live'
    cases live'
    exact differ (own'.symm.trans keyed)

/-- A new artifact takes the place of the one its key had. -/
theorem put (linked : Linked requireSourceVersion issued p m)
    (free : ∀ a b, issued a → issued b → callId a = callId b → a = b)
    {artifact : ToolCallArtifact}
    (own : callId (artifact.key, artifact.sourceVersion) = artifact.toolCallId)
    (given : issued (artifact.key, artifact.sourceVersion)) :
    Linked requireSourceVersion issued (p.put artifact)
      (TtlMap.put m artifact.key artifact.entry) := by
  have index : ∀ key, (p.put artifact).index.get? key =
      if artifact.key = key then some artifact.toolCallId else p.index.get? key :=
    fun key => p.index.get?_set artifact.key artifact.toolCallId key
  refine ⟨p.put_required artifact ▸ linked.required, fun key objectId => ?_,
    fun objectId held live => ?_, fun key => ?_⟩
  · rw [index, live_put]
    by_cases same : artifact.key = key
    · subst same
      rw [if_pos rfl]
      constructor
      · rintro ⟨⟩
        exact ⟨artifact.stamp, if_pos rfl, rfl⟩
      · rintro ⟨held, live, keyed⟩
        split at live
        · next here => rw [here]
        · split at live
          · cases live
          · next previous =>
              exact absurd ((linked.indexed _ _).mpr ⟨held, live, keyed⟩) previous
    · rw [if_neg same, linked.indexed]
      constructor
      · rintro ⟨held, live, keyed⟩
        obtain ⟨fresh, previous⟩ := linked.other_id free own given same live keyed
        exact ⟨held, by rw [if_neg fresh, if_neg previous, live], keyed⟩
      · rintro ⟨held, live, keyed⟩
        split at live
        · cases live
          exact absurd keyed same
        · split at live
          · cases live
          · exact ⟨held, live, keyed⟩
  · rw [live_put] at live
    split at live
    · next here =>
        cases live
        exact ⟨own.trans here.symm, given⟩
    · split at live
      · cases live
      · exact linked.signed objectId held live
  · rw [index, TtlMap.put]
    by_cases same : artifact.key = key
    · subst same
      rw [Function.update_self, if_pos rfl, Option.bind_some, live_put, if_pos rfl]
      rfl
    · rw [Function.update_of_ne (Ne.symm same), if_neg same, linked.agrees]
      cases known : p.index.get? key with
      | none => rfl
      | some objectId =>
          obtain ⟨held, live, keyed, -⟩ := linked.found known
          obtain ⟨fresh, previous⟩ := linked.other_id free own given same live keyed
          rw [Option.bind_some, Option.bind_some, live_put, if_neg fresh, if_neg previous]

theorem get (linked : Linked requireSourceVersion issued p m) (key : ToolCacheKey)
    (sourceVersion : Option String) (now : Rat) :
    (p.get key sourceVersion now).1.map (fun artifact =>
        (artifact.toolOutputPayload, artifact.sourceVersion, artifact.permissionScope,
          artifact.expiresAt)) =
      (m.lookup key sourceVersion now).map (fun entry =>
        (entry.payload, entry.version, key.2.2, entry.expiresAt)) ∧
    Linked requireSourceVersion issued (p.get key sourceVersion now).2
      (m.expire key sourceVersion now) := by
  -- Nothing expires but the entry of the key.
  have others : ∀ other (entry : TtlEntry String (List (String × PyValue)) Rat),
      (decide (other = key) && entry.serves sourceVersion && entry.isExpired now) = true →
        other = key := by
    simp only [Bool.and_eq_true, decide_eq_true_eq]
    exact fun other entry named => named.1.1
  have stays : (∀ entry, m key = some entry →
      (entry.serves sourceVersion && entry.isExpired now) = false) →
        m.expire key sourceVersion now = m := by
    refine fun kept => TtlMap.removeWhere_self fun other entry found => ?_
    by_cases here : other = key
    · rw [Bool.and_assoc, kept entry (here ▸ found), Bool.and_false]
    · simp [here]
  rw [ToolPicture.get, TtlMap.lookup]
  cases known : p.index.get? key with
  | none =>
      have absent := linked.absent known
      rw [stays fun entry found => (by rw [absent] at found; cases found), absent]
      exact ⟨rfl, linked⟩
  | some objectId =>
      obtain ⟨artifact, live, own, found⟩ := linked.found known
      have served : artifact.entry.serves sourceVersion =
          !artifact.versionDiffers sourceVersion := by
        cases sourceVersion with
        | none => rfl
        | some version =>
            simp only [TtlEntry.serves, ToolCallArtifact.versionDiffers, ToolCallArtifact.entry,
              Option.all_some, Option.any_some, ne_eq, decide_not, Bool.not_not]
            exact decide_eq_decide.mpr Iff.rfl
      have inScope : artifact.permissionScope = key.2.2 := congrArg (·.2.2) own
      have expires : artifact.entry.isExpired now = artifact.isExpired now := rfl
      have kept : (artifact.entry.serves sourceVersion && artifact.entry.isExpired now) = false →
          m.expire key sourceVersion now = m := fun outside =>
        stays fun entry held => Option.some.inj (found.symm.trans held) ▸ outside
      simp only [live, found, Option.filter, served, expires]
      cases differs : artifact.versionDiffers sourceVersion with
      | true =>
          rw [kept (by rw [served, differs]; rfl)]
          exact ⟨rfl, linked⟩
      | false =>
          simp only [Bool.false_eq_true, if_false, inScope, ne_eq, not_true_eq_false]
          cases expired : artifact.isExpired now with
          | true =>
              have gone : m.expire key sourceVersion now = m.erase key :=
                TtlMap.removeWhere_one found (by simp [served, differs, expires, expired]) others
              rw [gone]
              exact ⟨rfl, linked.drop known⟩
          | false =>
              rw [kept (by rw [expires, expired, Bool.and_false])]
              refine ⟨?_, linked⟩
              simp [ToolCallArtifact.entry, inScope]

/-- A loop over indexed keys that drops those whose artifact a condition names does what a
    sweep of the map does. -/
private theorem sweep {α : Type} (keyOf : α → ToolCacheKey)
    (gone : ToolCacheKey → TtlEntry String (List (String × PyValue)) Rat → Bool)
    (step : Nat × ToolPicture → α → Nat × ToolPicture) {items : List α}
    (distinct : (items.map keyOf).Nodup)
    (acts : ∀ a ∈ items, ∃ objectId, p.index.get? (keyOf a) = some objectId ∧
      ∀ count q artifact, q.index.get? (keyOf a) = some objectId →
        q.live objectId = some artifact → step (count, q) a =
          if gone (keyOf a) artifact.entry then (count + 1, (q.pop (keyOf a)).delete objectId)
          else (count, q))
    (linked : Linked requireSourceVersion issued p m) (count : Nat) :
    (items.foldl step (count, p)).1 =
        ((items.map keyOf).foldl (TtlMap.sweepOne gone) (count, m)).1 ∧
      Linked requireSourceVersion issued (items.foldl step (count, p)).2
        ((items.map keyOf).foldl (TtlMap.sweepOne gone) (count, m)).2 := by
  induction items generalizing p m count with
  | nil => exact ⟨rfl, linked⟩
  | cons a rest ih =>
      obtain ⟨fresh, later⟩ := List.nodup_cons.mp distinct
      obtain ⟨objectId, known, act⟩ := acts a List.mem_cons_self
      obtain ⟨artifact, live, -, found⟩ := linked.found known
      simp only [List.foldl_cons, List.map_cons, act count p artifact known live,
        TtlMap.sweepOne, found, Option.any_some]
      split
      · refine ih later (fun b member => ?_) (linked.drop known) (count + 1)
        obtain ⟨id, known', act'⟩ := acts b (List.mem_cons_of_mem a member)
        refine ⟨id, ?_, act'⟩
        have differ : keyOf a ≠ keyOf b := fun same =>
          fresh (same ▸ List.mem_map_of_mem member)
        exact (p.index.get?_erase (keyOf a) (keyOf b)).trans ((if_neg differ).trans known')
      · exact ih later (fun b member => acts b (List.mem_cons_of_mem a member)) linked count

/-- Every entry of the map is indexed. -/
private theorem mem_keys (linked : Linked requireSourceVersion issued p m) {key : ToolCacheKey}
    {gone : TtlEntry String (List (String × PyValue)) Rat → Bool}
    (named : (m key).any gone = true) : key ∈ p.index.keys := by
  rw [p.index.mem_keys_iff, Option.isSome_iff_ne_none]
  intro unknown
  rw [linked.absent unknown] at named
  cases named

theorem invalidate (linked : Linked requireSourceVersion issued p m) (toolName : Option String)
    (scope : Option ArtifactScope) :
    (p.invalidate toolName scope).1 = m.countWhere (fun key _ =>
        toolName.all (key.1 = ·) && scope.all (key.2.2 = ·)) ∧
      Linked requireSourceVersion issued (p.invalidate toolName scope).2 (m.removeWhere
        fun key _ => toolName.all (key.1 = ·) && scope.all (key.2.2 = ·)) := by
  have distinct : (p.index.keys.filter fun key =>
      toolName.all (key.1 = ·) && scope.all (key.2.2 = ·)).Nodup := p.index.keys_nodup.filter _
  have distinct' := distinct
  rw [← List.map_id (p.index.keys.filter _)] at distinct'
  have swept := linked.sweep id (fun key _ =>
    toolName.all (key.1 = ·) && scope.all (key.2.2 = ·)) invalidateKey distinct'
      (fun key member => ?_) 0
  · rw [List.map_id, TtlMap.sweep distinct fun key named => ?_] at swept
    · exact swept
    · refine List.mem_filter.mpr ⟨linked.mem_keys named, ?_⟩
      obtain ⟨-, -, matching⟩ := (Option.any_eq_true _ _).mp named
      exact matching
  · obtain ⟨indexed, matching⟩ := List.mem_filter.mp member
    obtain ⟨objectId, known⟩ := Option.isSome_iff_exists.mp ((p.index.mem_keys_iff key).mp indexed)
    refine ⟨objectId, known, fun count q artifact known' live => ?_⟩
    rw [id_eq] at known'
    simp only [invalidateKey, known', live, id_eq, Option.isSome_some, if_true, matching]

theorem purge (linked : Linked requireSourceVersion issued p m) (now : Rat) :
    (p.purge now).1 = m.countWhere (fun _ entry => entry.isExpired now) ∧
      Linked requireSourceVersion issued (p.purge now).2 (m.purge now) := by
  have distinct : (p.index.entries.map Prod.fst).Nodup := p.index.keys_nodup
  have swept := linked.sweep Prod.fst (fun _ entry => entry.isExpired now) (purgeItem now) distinct
    (fun item member => ?_) 0
  · rw [TtlMap.sweep distinct fun key named => linked.mem_keys named] at swept
    exact swept
  · refine ⟨item.2, (p.index.mem_entries_iff item.1 item.2).mp member,
      fun count q artifact _ live => ?_⟩
    simp only [purgeItem, live]
    rfl

section

variable (now : Rat) {objectIds : List String}

/-- A key has one candidate at most: the artifact it was indexed under. -/
theorem index_rebuild_iff (linked : Linked requireSourceVersion issued p m)
    (named : ∀ objectId artifact, p.live objectId = some artifact →
      artifact.toolCallId = objectId) (distinct : objectIds.Nodup)
    (all : ∀ objectId, objectId ∈ objectIds ↔ (p.live objectId).isSome) (key : ToolCacheKey)
    (objectId : String) :
    (p.rebuild now objectIds).2.index.get? key = some objectId ↔
      p.index.get? key = some objectId ∧ p.candidate now key objectId = true := by
  have only : ∀ {other}, p.candidate now key other = true → p.index.get? key = some other := by
    intro other admitted
    obtain ⟨artifact, held, keyed, -⟩ := (p.candidate_iff _ _ _).mp admitted
    exact (linked.indexed key other).mpr ⟨artifact, held, keyed⟩
  rw [(p.rebuild_spec now named distinct).2]
  constructor
  · intro chosen
    have admitted := (List.mem_filter.mp (List.argmax_mem chosen)).2
    exact ⟨only admitted, admitted⟩
  · rintro ⟨known, admitted⟩
    have listed : objectId ∈ objectIds.filter (p.candidate now key) := by
      refine List.mem_filter.mpr ⟨(all objectId).mpr ?_, admitted⟩
      obtain ⟨artifact, held, -⟩ := linked.found known
      rw [held]
      rfl
    cases chosen : (objectIds.filter (p.candidate now key)).argmax p.expiry with
    | none =>
        rw [List.argmax_eq_none.mp chosen] at listed
        cases listed
    | some other =>
        have admitted' := (List.mem_filter.mp (List.argmax_mem chosen)).2
        rw [← known, ← only admitted']

/-- A key that had no candidate is not indexed. -/
theorem index_rebuild_none (linked : Linked requireSourceVersion issued p m)
    (named : ∀ objectId artifact, p.live objectId = some artifact →
      artifact.toolCallId = objectId) (distinct : objectIds.Nodup)
    (all : ∀ objectId, objectId ∈ objectIds ↔ (p.live objectId).isSome) {key : ToolCacheKey}
    (lost : ∀ objectId, p.index.get? key = some objectId →
      p.candidate now key objectId = false) :
    (p.rebuild now objectIds).2.index.get? key = none := by
  rw [Option.eq_none_iff_forall_ne_some]
  intro objectId chosen
  obtain ⟨known, admitted⟩ :=
    (linked.index_rebuild_iff now named distinct all key objectId).mp chosen
  rw [lost objectId known] at admitted
  cases admitted

end

/-- A rebuild finds the index again, without what has expired. -/
theorem rebuild (linked : Linked requireSourceVersion issued p m) (now : Rat)
    (named : ∀ objectId artifact, p.live objectId = some artifact →
      artifact.toolCallId = objectId) {objectIds : List String} (distinct : objectIds.Nodup)
    (all : ∀ objectId, objectId ∈ objectIds ↔ (p.live objectId).isSome) :
    Linked requireSourceVersion issued (p.rebuild now objectIds).2 (m.purge now) := by
  have live := p.live_rebuild now named distinct all
  have index := linked.index_rebuild_iff now named distinct all
  refine ⟨(p.rebuild_required now objectIds).trans linked.required, fun key objectId => ?_,
    fun objectId artifact held => ?_, fun key => ?_⟩
  · rw [index, linked.indexed, live, candidate_iff]
    constructor
    · rintro ⟨-, artifact, held, keyed, lasting⟩
      exact ⟨artifact, by simp [held, Option.filter, lasting], keyed⟩
    · rintro ⟨artifact, held, keyed⟩
      obtain ⟨held, lasting⟩ := Option.filter_eq_some_iff.mp held
      exact ⟨⟨artifact, held, keyed⟩, artifact, held, keyed, Bool.not_eq_true' _ ▸ lasting⟩
  · rw [live] at held
    exact linked.signed objectId artifact (Option.filter_eq_some_iff.mp held).1
  · cases known : p.index.get? key with
    | none =>
        have unknown := linked.index_rebuild_none now named distinct all
          fun other found => by cases known.symm.trans found
        rw [unknown, TtlMap.purge, TtlMap.removeWhere, linked.absent known]
        rfl
    | some objectId =>
        obtain ⟨artifact, held, keyed, found⟩ := linked.found known
        rw [TtlMap.purge, TtlMap.removeWhere, found]
        cases expired : artifact.isExpired now with
        | true =>
            have lost : ∀ other, p.index.get? key = some other →
                p.candidate now key other = false := by
              intro other same
              cases known.symm.trans same
              simp [candidate, held, expired]
            have unknown := linked.index_rebuild_none now named distinct all lost
            have gone : artifact.entry.isExpired now = true := expired
            simp [unknown, Option.filter, gone]
        | false =>
            have kept := (index key objectId).mpr
              ⟨known, (p.candidate_iff _ _ _).mpr ⟨artifact, held, keyed, expired⟩⟩
            have stays : artifact.entry.isExpired now = false := expired
            simp [kept, live, held, Option.filter, expired, stays]

end Linked

end ToolPicture

/-! ## The refinement -/

section

variable [PyRuntime] [PyJson]

open ToolArtifactCache
open ToolPicture (Linked)

/-- The map admits the puts the cache admits, and sets the key of the artifact stored. -/
private theorem apply_put (self : ToolArtifactCache) (m : ToolMap) (toolName : String)
    (args : PyValue) (output : List (String × PyValue)) (ttl : Rat) (scope : ArtifactScope)
    (sourceVersion : String) (now : Rat) (uuid : String) (clock : Rat) :
    ToolMap.apply self.requireSourceVersion m
        (.put toolName args output ttl scope sourceVersion now uuid clock) =
      (self.artifactFor toolName args output ttl scope sourceVersion now uuid clock).map
        fun artifact =>
          (.stored artifact.toolCallId, TtlMap.put m artifact.key artifact.entry) := by
  rw [artifactFor, ToolMap.apply]
  cases normalizeToolName toolName with
  | error e => rfl
  | ok name =>
      simp only [bind, Except.bind]
      by_cases positive : 0 < ttl
      · rw [dif_pos positive, if_neg (not_le.mpr positive)]
        split
        · rfl
        · cases hashArgs args with
          | error e => rfl
          | ok argsHash => cases hashArgs (.dict output) <;> rfl
      · rw [dif_neg positive, if_pos (not_lt.mp positive)]
        rfl

section

variable {η Bytes : Type} [Serializer Bytes] [Hnswlib η]

/-- A call, of whose reply a caller sees what a map can answer. -/
def observedExec (c : ToolCall) :
    CacheM (MemoryBackend Bytes) η ToolArtifactCache ToolObservation :=
  do return (← ToolArtifactCache.exec c).observe

/-- A cache and the map that says what it holds. -/
def Mirrors (requireSourceVersion : Bool) (calls : List ToolCall)
    (s : CacheSession (MemoryBackend Bytes) η ToolArtifactCache) (m : ToolMap) : Prop :=
  ∃ p, Shows s p ∧ Linked requireSourceVersion (Issued calls) p m

variable [LawfulSerializer Bytes]

/-- One call: the same answer, and the map still says what the cache holds. -/
private theorem mirrors_step {requireSourceVersion : Bool} {calls : List ToolCall}
    (free : CollisionFree calls) (s : CacheSession (MemoryBackend Bytes) η ToolArtifactCache)
    (m : ToolMap) (c : ToolCall) (made : c ∈ calls)
    (mirrors : Mirrors requireSourceVersion calls s m) :
    EStateResult.outcome (observedExec c s) =
        EStateResult.outcome (ToolMap.exec requireSourceVersion c m) ∧
      Mirrors requireSourceVersion calls (EStateResult.state (observedExec c s))
        (EStateResult.state (ToolMap.exec requireSourceVersion c m)) := by
  obtain ⟨p, shows, linked⟩ := mirrors
  cases c with
  | put toolName args output ttl scope sourceVersion now uuid clock =>
      have required : s.cache.requireSourceVersion = requireSourceVersion :=
        shows.required.trans linked.required
      have mapped := apply_put s.cache m toolName args output ttl scope sourceVersion now uuid clock
      rw [required] at mapped
      cases admitted : s.cache.artifactFor toolName args output ttl scope sourceVersion now uuid
          clock with
      | error e =>
          simp only [observedExec, ToolArtifactCache.exec, bind_run, put_error admitted,
            ToolMap.exec, mapped, admitted]
          exact ⟨rfl, p, shows, linked⟩
      | ok artifact =>
          obtain ⟨s', done, shown⟩ := put_shows shows admitted
          obtain ⟨own, issued⟩ := signed_put made admitted
          simp only [observedExec, ToolArtifactCache.exec, bind_run, done, ToolMap.exec, mapped,
            admitted]
          exact ⟨rfl, p.put artifact, shown, linked.put free own issued⟩
  | get toolName args scope sourceVersion now clock =>
      cases looked : keyFor toolName args scope with
      | error e =>
          simp only [observedExec, ToolArtifactCache.exec, bind_run, get_error looked,
            ToolMap.exec, ToolMap.apply, looked]
          exact ⟨rfl, p, shows, linked⟩
      | ok key =>
          obtain ⟨s', done, shown⟩ := get_shows shows looked sourceVersion now clock
          obtain ⟨answer, linked'⟩ := linked.get key sourceVersion now
          simp only [observedExec, ToolArtifactCache.exec, bind_run, done, ToolMap.exec,
            ToolMap.apply, looked]
          refine ⟨?_, _, shown, linked'⟩
          obtain ⟨name, argsHash, -, -, rfl⟩ := keyFor_ok_iff.mp looked
          change Except.ok (ToolObservation.found (Option.map _ (Option.map _ _))) =
            Except.ok (ToolObservation.found _)
          rw [Option.map_map, ← answer]
          rfl
  | invalidate toolName scope =>
      cases normalized : toolName.mapM normalizeToolName with
      | error e =>
          simp only [observedExec, ToolArtifactCache.exec, bind_run, invalidate_error normalized,
            ToolMap.exec, ToolMap.apply, normalized]
          exact ⟨rfl, p, shows, linked⟩
      | ok name =>
          obtain ⟨s', done, shown⟩ := invalidate_shows shows normalized scope
          obtain ⟨count, linked'⟩ := linked.invalidate name scope
          simp only [observedExec, ToolArtifactCache.exec, bind_run, done, ToolMap.exec,
            ToolMap.apply, normalized]
          rw [count]
          exact ⟨rfl, _, shown, linked'⟩
  | rebuild now clock =>
      obtain ⟨objectIds, s', sorted, all, done, shown⟩ := rebuild_shows shows now clock
      simp only [observedExec, ToolArtifactCache.exec, bind_run, done, ToolMap.exec, ToolMap.apply]
      exact ⟨rfl, _, shown, linked.rebuild now shows.named (sorted.imp ne_of_lt) all⟩
  | purge now clock =>
      obtain ⟨s', done, shown⟩ := purge_shows shows now clock
      obtain ⟨count, linked'⟩ := linked.purge now
      simp only [observedExec, ToolArtifactCache.exec, bind_run, done, ToolMap.exec, ToolMap.apply]
      rw [count]
      exact ⟨rfl, _, shown, linked'⟩

/-- A cache over an empty store answers every history of calls as the map does. -/
theorem tool_cache_refines_ttl_map (config : L3Config) (metadata : MetadataStore η)
    (requireSourceVersion : Bool) (calls : List ToolCall) (free : CollisionFree calls) :
    outcomes observedExec ⟨.overEmpty Bytes config metadata, .new requireSourceVersion⟩ calls =
      outcomes (ToolMap.exec requireSourceVersion) TtlMap.empty calls :=
  outcomes_related (mirrors_step free)
    ⟨_, Shows.new requireSourceVersion config metadata, Linked.empty⟩

end

end

section

open Reference ToolArtifactCache

/-- A key that two versions are put for; the digests of the two differ. -/
theorem free_of_two_versions {calls : List ToolCall}
    (only : ∀ given, Issued calls given →
      given = (("search", "6b86b273ff34fce1", .privateScope), "v1") ∨
        given = (("search", "6b86b273ff34fce1", .privateScope), "v2")) :
    CollisionFree calls := by
  have differ : callId (("search", "6b86b273ff34fce1", .privateScope), "v1") ≠
      callId (("search", "6b86b273ff34fce1", .privateScope), "v2") := by decide +kernel
  intro a b first second same
  rcases only a first with rfl | rfl <;> rcases only b second with rfl | rfl
  · rfl
  · exact absurd same differ
  · exact absurd same.symm differ
  · rfl

theorem keyFor_search : keyFor "search" (.int 1) .privateScope =
    .ok ("search", "6b86b273ff34fce1", .privateScope) := by
  have normalized : normalizeToolName "search" = .ok "search" := by decide +kernel
  have hashed : hashArgs (.int 1) = .ok "6b86b273ff34fce1" := by decide +kernel
  exact keyFor_ok_iff.mpr ⟨_, _, normalized, hashed, rfl⟩

/-- Two versions put for one key, the second asked for. -/
def newVersion : List ToolCall :=
  [.put "search" (.int 1) [] 1000 .privateScope "v1" 0 "a" 0,
    .put " search" (.int 1) [] 10 .privateScope "v2" 1 "b" 1,
    .get "search" (.int 1) .privateScope (some "v2") 2 2]

theorem newVersion_free : CollisionFree newVersion := by
  refine free_of_two_versions fun given => ?_
  rintro ⟨c, made, issued⟩
  simp only [newVersion, List.mem_cons, List.not_mem_nil, or_false] at made
  rcases made with rfl | rfl | rfl
  · exact .inl (Option.some.inj (issued.symm.trans (by decide +kernel)))
  · exact .inr (Option.some.inj (issued.symm.trans (by decide +kernel)))
  · cases issued

theorem tool_cache_refines_ttl_map_new_version :
    CollisionFree newVersion ∧
      outcomes observedExec ⟨Reference.store, .new⟩ newVersion =
        outcomes (ToolMap.exec false) TtlMap.empty newVersion :=
  ⟨newVersion_free, tool_cache_refines_ttl_map .default Reference.metadata false newVersion
    newVersion_free⟩

end

end IntelliL3
