import IntelliL3.Core.TypedMap

/-! # Prefix queries and stored blocks

The prefix tree is told about every put and delete of a KV block. A put under
new tokens leaves the id at its old tokens too, so the queries agree with the
stored blocks exactly as long as no put changes the tokens of a stored id.
-/

namespace IntelliL3

open Lib

/-- A call that changes the KV blocks of a store. -/
inductive KvOp where
  | put (block : KVCacheBlock) (keyStates valueStates : NdArray)
  | delete (objectId : String)

namespace KvOp

variable {β η Bytes : Type} [StorageBackend (EStateM PyError β) Bytes] [PyRuntime]
  [Serializer Bytes] [Hnswlib η]

def exec : KvOp → StoreM β η Reply
  | .put block keyStates valueStates => do
      return .stored (← UnifiedObjectStore.putKvBlock block keyStates valueStates)
  | .delete objectId => do return .deleted (← UnifiedObjectStore.deleteKvBlock objectId)

theorem exec_ok {op : KvOp} {r : Reply} {self self' : UnifiedObjectStore β η}
    (done : op.exec self = .ok r self') :
    match op with
    | .put block keyStates valueStates => ∃ objectId,
        UnifiedObjectStore.putKvBlock block keyStates valueStates self = .ok objectId self'
    | .delete objectId => ∃ existed,
        UnifiedObjectStore.deleteKvBlock objectId self = .ok existed self' := by
  cases op with
  | put block keyStates valueStates =>
      obtain ⟨objectId, m, inner, done⟩ := bind_run_ok.mp done
      cases done
      exact ⟨objectId, inner⟩
  | delete objectId =>
      obtain ⟨existed, m, inner, done⟩ := bind_run_ok.mp done
      cases done
      exact ⟨existed, inner⟩

end KvOp

theorem KVCacheBlock.stamp_tokenIds [PyRuntime] {block stamped : KVCacheBlock}
    {key value : NdArray} (done : block.stamp key value = .ok stamped) :
    stamped.tokenIds = block.tokenIds := by
  unfold KVCacheBlock.stamp at done
  split at done <;>
    · obtain ⟨tokenHash, -, same⟩ := bind_eq_ok.mp done
      cases same
      rfl

namespace UnifiedObjectStore

variable {η Bytes : Type} [Serializer Bytes]

/-- The `token_ids` persisted for a stored block. -/
def storedTokens (self : UnifiedObjectStore (MemoryBackend Bytes) η) (objectId : String) :
    Option (List Int) :=
  match self.backend.read self.config .kvCache objectId with
  | .ok (some value) => some (value : KVCacheBlock × NdArray × NdArray).1.tokenIds
  | _ => none

/-- A stored block whose tokens are a non-empty prefix of the query. -/
def Matches (self : UnifiedObjectStore (MemoryBackend Bytes) η) (query : List Int)
    (objectId : String) (tokens : List Int) : Prop :=
  self.storedTokens objectId = some tokens ∧ tokens ≠ [] ∧ tokens <+: query

/-- Every prefix query answers the matching blocks, each once, and a longest one. -/
def PrefixQueriesAgree (self : UnifiedObjectStore (MemoryBackend Bytes) η) : Prop :=
  ∀ order query,
    (∀ objectId, objectId ∈ self.findKvPrefixMatches order query ↔
      ∃ tokens, self.Matches query objectId tokens) ∧
    (self.findKvPrefixMatches order query).Nodup ∧
    match self.findKvLongestPrefix order query with
    | none => ∀ objectId tokens, ¬ self.Matches query objectId tokens
    | some objectId => ∃ tokens, self.Matches query objectId tokens ∧
        ∀ other tokens', self.Matches query other tokens' → tokens'.length ≤ tokens.length

/-- A put under an id stored with tokens has the same tokens. -/
def KeepsTokens (self : UnifiedObjectStore (MemoryBackend Bytes) η) : KvOp → Prop
  | .put block _ _ => ∀ tokens, self.storedTokens block.objMeta.objectId = some tokens →
      tokens ≠ [] → tokens = block.tokenIds
  | .delete _ => True

/-- The tokens a block is indexed under; a block without tokens is not. -/
def indexedTokens (value : Payload .kvCache) : Option (List Int) :=
  if value.1.tokenIds = [] then none else some value.1.tokenIds

theorem indexedTokens_eq_some {value : Payload .kvCache} {tokens : List Int} :
    indexedTokens value = some tokens ↔ value.1.tokenIds = tokens ∧ tokens ≠ [] := by
  unfold indexedTokens
  split
  · next empty => simp [empty]
  · next some_token =>
      rw [Option.some.injEq]
      exact ⟨fun same => ⟨same, same ▸ some_token⟩, fun held => held.1⟩

/-- The backend holds some blocks, and the prefix tree mirrors their tokens. -/
def PrefixIndexed (self : UnifiedObjectStore (MemoryBackend Bytes) η) : Prop :=
  ∃ live : String → Option (Payload .kvCache),
    self.backend.HoldsOf self.config live ∧
      self.metadata.prefixTree.Mirrors fun id => (live id).bind indexedTokens

section

variable [LawfulSerializer Bytes] {self : UnifiedObjectStore (MemoryBackend Bytes) η}
  {live : String → Option (Payload .kvCache)}

theorem storedTokens_eq (holds : self.backend.HoldsOf self.config live) (objectId : String) :
    self.storedTokens objectId = (live objectId).map fun value => value.1.tokenIds := by
  rw [storedTokens, holds.read]
  cases live objectId <;> rfl

theorem matches_iff (holds : self.backend.HoldsOf self.config live) (query : List Int)
    (objectId : String) (tokens : List Int) :
    self.Matches query objectId tokens ↔
      (live objectId).bind indexedTokens = some tokens ∧ tokens <+: query := by
  rw [Matches, storedTokens_eq holds, Option.map_eq_some_iff, Option.bind_eq_some_iff]
  constructor
  · rintro ⟨⟨value, held, same⟩, some_token, start⟩
    exact ⟨⟨value, held, indexedTokens_eq_some.mpr ⟨same, some_token⟩⟩, start⟩
  · rintro ⟨⟨value, held, indexed⟩, start⟩
    obtain ⟨same, some_token⟩ := indexedTokens_eq_some.mp indexed
    exact ⟨⟨value, held, same⟩, some_token, start⟩

/-- A mirrored tree answers every prefix query rightly. -/
theorem PrefixIndexed.agree (indexed : self.PrefixIndexed) : self.PrefixQueriesAgree := by
  obtain ⟨live, holds, mirrors⟩ := indexed
  intro order query
  have found : ∀ id, id ∈ self.findKvPrefixMatches order query ↔
      ∃ tokens, self.Matches query id tokens := by
    intro id
    rw [findKvPrefixMatches, MetadataStore.findPrefixMatches, List.mem_map]
    constructor
    · rintro ⟨found, member, rfl⟩
      obtain ⟨tokens, held, start, -⟩ := (mirrors.mem_search order query found).mp member
      exact ⟨tokens, (matches_iff holds _ _ _).mpr ⟨held, start⟩⟩
    · rintro ⟨tokens, matching⟩
      obtain ⟨held, start⟩ := (matches_iff holds _ _ _).mp matching
      exact ⟨⟨id, tokens.length⟩, (mirrors.mem_search order query _).mpr
        ⟨tokens, held, start, rfl⟩, rfl⟩
  refine ⟨found, mirrors.search_nodup order query, ?_⟩
  have longest := self.metadata.prefixTree.longestMatch_spec order query
  rw [findKvLongestPrefix, MetadataStore.findLongestPrefix]
  cases last : self.metadata.prefixTree.longestMatch order query with
  | none =>
      rw [last] at longest
      intro id tokens matching
      have member := (found id).mpr ⟨tokens, matching⟩
      rw [findKvPrefixMatches, MetadataStore.findPrefixMatches, longest] at member
      cases member
  | some best =>
      rw [last] at longest
      obtain ⟨member, greatest⟩ := longest
      obtain ⟨tokens, held, start, length⟩ := (mirrors.mem_search order query best).mp member
      refine ⟨tokens, (matches_iff holds _ _ _).mpr ⟨held, start⟩, ?_⟩
      intro other tokens' matching
      obtain ⟨held', start'⟩ := (matches_iff holds _ _ _).mp matching
      have shorter := greatest ⟨other, tokens'.length⟩ ((mirrors.mem_search order query _).mpr
        ⟨tokens', held', start', rfl⟩)
      rw [length] at shorter
      exact shorter

end

/-! ## One call -/

section

variable [PyRuntime] [Hnswlib η] {self self' : UnifiedObjectStore (MemoryBackend Bytes) η}

/-- What a put of a block that returns has done to backend and tree. -/
theorem putKvBlock_ok {block : KVCacheBlock} {key value : NdArray} {objectId : String}
    (done : putKvBlock block key value self = .ok objectId self') :
    ∃ stamped : KVCacheBlock, stamped.tokenIds = block.tokenIds ∧
      stamped.objMeta.objectId = block.objMeta.objectId ∧ self'.config = self.config ∧
      self'.backend = self.backend.write self.config (X := .kvCache) (stamped, key, value) ∧
      self'.metadata.prefixTree =
        if block.tokenIds = [] then self.metadata.prefixTree
        else self.metadata.prefixTree.insert block.tokenIds block.objMeta.objectId := by
  have asPut : put (X := .kvCache) (block, key, value) self = .ok objectId self' := done
  obtain ⟨stamped, stamping, -, sameId, config, backend, indexing⟩ := put_ok asPut
  obtain ⟨block', inner, same⟩ := bind_eq_ok.mp stamping
  cases same
  have tokens := KVCacheBlock.stamp_tokenIds inner
  refine ⟨block', tokens, sameId, config, backend, ?_⟩
  have metadata : self'.metadata = self.metadata.onObjectAdded .kvCache block'.objMeta.objectId
      (some block'.tokenIds) := by
    injection indexing with _ same
    exact same.symm
  have sameId' : block'.objMeta.objectId = block.objMeta.objectId := sameId
  rw [metadata, tokens, sameId']
  cases block.tokenIds with
  | nil => rfl
  | cons token rest => rfl

omit [PyRuntime] [Serializer Bytes] in
theorem deleteKvBlock_ok {objectId : String} {existed : Bool}
    (done : deleteKvBlock objectId self = .ok existed self') :
    self'.config = self.config ∧
      self'.backend = self.backend.wipe self.config .kvCache objectId ∧
      existed = self.backend.touchesKeys self.config .kvCache objectId ∧
      self'.metadata.prefixTree =
        if existed then (self.metadata.prefixTree.remove objectId).1
        else self.metadata.prefixTree := by
  have asDelete : delete .kvCache objectId self = .ok existed self' := done
  obtain ⟨answered, config, backend, metadata⟩ := delete_ok asDelete
  refine ⟨config, backend, answered, ?_⟩
  cases existed with
  | false => rw [metadata]; rfl
  | true =>
      rw [if_pos rfl, MetadataStore.onObjectRemoved_kv] at metadata
      injection metadata with _ same
      rw [← same]
      rfl

variable [LawfulSerializer Bytes]

theorem PrefixIndexed.put (indexed : self.PrefixIndexed) {block : KVCacheBlock}
    {key value : NdArray} (keeps : self.KeepsTokens (.put block key value)) {objectId : String}
    (done : putKvBlock block key value self = .ok objectId self') : self'.PrefixIndexed := by
  obtain ⟨live, holds, mirrors⟩ := indexed
  obtain ⟨stamped, tokens, sameId, config, backend, tree⟩ := putKvBlock_ok done
  refine ⟨Function.update live block.objMeta.objectId (some (stamped, key, value)), ?_, ?_⟩
  · rw [config, backend, ← sameId]
    exact holds.write (X := .kvCache) (stamped, key, value)
  · have settled : (live block.objMeta.objectId).bind indexedTokens = none ∨
        (live block.objMeta.objectId).bind indexedTokens = some block.tokenIds := by
      cases held : (live block.objMeta.objectId).bind indexedTokens with
      | none => exact Or.inl rfl
      | some old =>
          obtain ⟨before, present, indexed⟩ := Option.bind_eq_some_iff.mp held
          obtain ⟨same, some_token⟩ := indexedTokens_eq_some.mp indexed
          have stored : self.storedTokens block.objMeta.objectId = some old := by
            rw [storedTokens_eq holds, present, Option.map_some, same]
          exact Or.inr (congrArg some (keeps old stored some_token))
    have updated : (fun id => (Function.update live block.objMeta.objectId
        (some (stamped, key, value)) id).bind indexedTokens) =
        Function.update (fun id => (live id).bind indexedTokens) block.objMeta.objectId
          (indexedTokens (stamped, key, value)) :=
      Function.comp_update (fun found => Option.bind found indexedTokens) live _ _
    rw [updated, tree]
    by_cases empty : block.tokenIds = []
    · have unindexed : indexedTokens (stamped, key, value) = none := if_pos (tokens.trans empty)
      have absent : (live block.objMeta.objectId).bind indexedTokens = none := by
        rcases settled with absent | held
        · exact absent
        · exact absurd empty (mirrors.nonempty _ _ held)
      rw [if_pos empty, unindexed, ← absent, Function.update_eq_self]
      exact mirrors
    · have indexed : indexedTokens (stamped, key, value) = some block.tokenIds :=
        indexedTokens_eq_some.mpr ⟨tokens, empty⟩
      rw [if_neg empty, indexed]
      exact mirrors.insert empty settled

omit [PyRuntime] [LawfulSerializer Bytes] in
theorem PrefixIndexed.delete (indexed : self.PrefixIndexed) {objectId : String} {existed : Bool}
    (done : deleteKvBlock objectId self = .ok existed self') : self'.PrefixIndexed := by
  obtain ⟨live, holds, mirrors⟩ := indexed
  obtain ⟨config, backend, answered, tree⟩ := deleteKvBlock_ok done
  refine ⟨Function.update live objectId none, ?_, ?_⟩
  · rw [config, backend]
    exact holds.wipe objectId
  · have updated : (fun id => (Function.update live objectId none id).bind indexedTokens) =
        Function.update (fun id => (live id).bind indexedTokens) objectId none :=
      Function.comp_update (fun found => Option.bind found indexedTokens) live _ _
    rw [updated, tree]
    rw [holds.touchesKeys] at answered
    cases existed with
    | true => exact mirrors.remove objectId
    | false =>
        have absent : live objectId = none := by
          rw [← Option.not_isSome_iff_eq_none, ← answered]
          exact Bool.false_ne_true
        have same : Function.update (fun id => (live id).bind indexedTokens) objectId none =
            fun id => (live id).bind indexedTokens := by
          rw [show none = (live objectId).bind indexedTokens by rw [absent]; rfl]
          exact Function.update_eq_self objectId _
        rw [same]
        exact mirrors

/-- A put under new tokens leaves the id at its old ones. -/
theorem stale_tokens (indexed : self.PrefixIndexed) {block : KVCacheBlock} {key value : NdArray}
    (changes : ¬ self.KeepsTokens (.put block key value)) {objectId : String}
    (done : putKvBlock block key value self = .ok objectId self') :
    ¬ self'.PrefixQueriesAgree := by
  obtain ⟨live, holds, mirrors⟩ := indexed
  obtain ⟨stamped, tokens, sameId, config, backend, tree⟩ := putKvBlock_ok done
  simp only [KeepsTokens, not_forall] at changes
  obtain ⟨old, stored, some_token, differ⟩ := changes
  have holds' : self'.backend.HoldsOf self'.config
      (Function.update live block.objMeta.objectId (some (stamped, key, value))) := by
    rw [config, backend, ← sameId]
    exact holds.write (X := .kvCache) (stamped, key, value)
  have stored' : self'.storedTokens block.objMeta.objectId = some block.tokenIds := by
    rw [storedTokens_eq holds', Function.update_self]
    exact congrArg some tokens
  have marked : block.objMeta.objectId ∈ self.metadata.prefixTree.root.marksAt old := by
    rw [storedTokens_eq holds, Option.map_eq_some_iff] at stored
    obtain ⟨before, present, same⟩ := stored
    refine (mirrors.marked _ _).mpr ?_
    rw [present, Option.bind_some]
    exact indexedTokens_eq_some.mpr ⟨same, some_token⟩
  have still : block.objMeta.objectId ∈ self'.metadata.prefixTree.root.marksAt old := by
    rw [tree]
    split
    · exact marked
    · rw [PrefixTree.insert, Trie.marksAt_insert, if_neg differ]
      exact marked
  intro agree
  obtain ⟨members, distinct, -⟩ := agree ⟨id, fun _ => List.Perm.refl _⟩ old
  have first := (self'.metadata.prefixTree.mem_search ⟨id, fun _ => List.Perm.refl _⟩ old
    ⟨block.objMeta.objectId, old.length⟩).mpr ⟨old, some_token, List.prefix_rfl, still, rfl⟩
  obtain ⟨new, held, new_token, start⟩ := (members block.objMeta.objectId).mp
    (List.mem_map.mpr ⟨_, first, rfl⟩)
  rw [stored', Option.some.injEq] at held
  subst held
  have fresh : block.objMeta.objectId ∈
      self'.metadata.prefixTree.root.marksAt block.tokenIds := by
    rw [tree, if_neg new_token, PrefixTree.insert, Trie.marksAt_insert, if_pos rfl]
    exact List.mem_insert_self
  have second := (self'.metadata.prefixTree.mem_search ⟨id, fun _ => List.Perm.refl _⟩ old
    ⟨block.objMeta.objectId, block.tokenIds.length⟩).mpr
    ⟨block.tokenIds, new_token, start, fresh, rfl⟩
  have same := List.inj_on_of_nodup_map distinct first second rfl
  exact differ (start.eq_of_length (congrArg PrefixMatch.matchedLength same).symm).symm

end

end UnifiedObjectStore

open UnifiedObjectStore

section

variable {η Bytes : Type} [PyRuntime] [Serializer Bytes] [LawfulSerializer Bytes] [Hnswlib η]
  {self self' : UnifiedObjectStore (MemoryBackend Bytes) η}

/-- A call that keeps the tokens of the stored block keeps the tree a mirror. -/
theorem PrefixIndexed.exec (indexed : self.PrefixIndexed) {op : KvOp} {r : Reply}
    (keeps : self.KeepsTokens op) (done : KvOp.exec op self = .ok r self') :
    self'.PrefixIndexed := by
  cases op with
  | put block key value =>
      obtain ⟨objectId, inner⟩ := KvOp.exec_ok done
      exact UnifiedObjectStore.PrefixIndexed.put indexed keeps inner
  | delete objectId =>
      obtain ⟨existed, inner⟩ := KvOp.exec_ok done
      exact UnifiedObjectStore.PrefixIndexed.delete indexed inner

/-- A call that changes the tokens of the stored block makes some query wrong. -/
theorem PrefixIndexed.exec_stale (indexed : self.PrefixIndexed) {op : KvOp} {r : Reply}
    (changes : ¬ self.KeepsTokens op) (done : KvOp.exec op self = .ok r self') :
    ¬ self'.PrefixQueriesAgree := by
  cases op with
  | put block key value =>
      obtain ⟨objectId, inner⟩ := KvOp.exec_ok done
      exact stale_tokens indexed changes inner
  | delete objectId => exact absurd trivial changes

/-- In a run on a fresh store, the prefix queries agree with the stored blocks in every
    state reached exactly when every put of a stored id keeps the tokens it is stored
    with. -/
theorem prefix_queries_agree_iff {expectedItems : Int} {fpRate : Rat}
    {embeddingDim : Option Int} {metadata : MetadataStore η}
    (fresh : MetadataStore.new expectedItems fpRate embeddingDim = .ok metadata)
    (config : L3Config) {ops : List KvOp} {replies : List Reply}
    (run : Run KvOp.exec (overEmpty Bytes config metadata) ops replies self) :
    (∀ pre post rs reached, ops = pre ++ post →
      Run KvOp.exec (overEmpty Bytes config metadata) pre rs reached →
      reached.PrefixQueriesAgree) ↔
    ∀ pre op post rs reached, ops = pre ++ op :: post →
      Run KvOp.exec (overEmpty Bytes config metadata) pre rs reached →
      reached.KeepsTokens op := by
  have start : (overEmpty Bytes config metadata).PrefixIndexed := by
    refine ⟨fun _ => none, MemoryBackend.HoldsOf.empty config .kvCache, ?_⟩
    have tree := (MetadataStore.new_fresh fresh).2.1
    change metadata.prefixTree.Mirrors _
    rw [tree]
    exact PrefixTree.Mirrors.empty
  exact run.all_reached_iff (fun _ indexed => indexed.agree)
    (fun _ _ _ _ indexed keeps done => PrefixIndexed.exec indexed keeps done)
    (fun _ _ _ _ indexed changes done => PrefixIndexed.exec_stale indexed changes done) start

end

section

open Reference

/-- Two blocks, one of them put again under its tokens, deleted, and put under others. -/
private def blocksPutAgain : List KvOp := [
  .put (kvBlock "a" [1, 2]) (array [1]) (array [2]), .put (kvBlock "b" [1]) (array [1]) (array [2]),
  .put (kvBlock "a" [1, 2]) (array [3]) (array [4]), .delete "a",
  .put (kvBlock "a" [2]) (array [1]) (array [2])]

/-- A block that is put again keeps its tokens, and has others after it was deleted. -/
theorem prefix_queries_agree_reput : ∃ replies self,
    Run KvOp.exec store blocksPutAgain replies self ∧ self.PrefixQueriesAgree := by
  have run : Run KvOp.exec store blocksPutAgain _ _ :=
    .cons rfl (.cons rfl (.cons rfl (.cons rfl (.cons rfl (.nil _)))))
  refine ⟨_, _, run, (prefix_queries_agree_iff new_metadata .default run).mpr ?_ _ [] _ _
    (List.append_nil _).symm run⟩
  have unknown {tokens other : List Int} (stored : none = some tokens) : tokens = other :=
    by cases stored
  refine Run.before_each_cons (fun _ stored _ => unknown stored) rfl
    (Run.before_each_cons (fun _ stored _ => unknown stored) rfl
      (Run.before_each_cons (fun _ stored _ => (Option.some.inj stored).symm) rfl
        (Run.before_each_cons trivial rfl
          (Run.before_each_cons (fun _ stored _ => unknown stored) rfl Run.before_each_nil))))

/-- After a put under new tokens, the old tokens still find the block. -/
theorem reput_block_found_under_old_tokens : ∃ replies self,
    Run KvOp.exec store [.put (kvBlock "a" [1, 2]) (array [1]) (array [2]),
      .put (kvBlock "a" [2]) (array [1]) (array [2])] replies self ∧
      ¬ self.PrefixQueriesAgree := by
  have run : Run KvOp.exec store [.put (kvBlock "a" [1, 2]) (array [1]) (array [2]),
      .put (kvBlock "a" [2]) (array [1]) (array [2])] _ _ := .cons rfl (.cons rfl (.nil _))
  refine ⟨_, _, run, fun agree => ?_⟩
  obtain ⟨members, -⟩ := agree ⟨id, fun _ => List.Perm.refl _⟩ [1, 2]
  obtain ⟨tokens, stored, -, start⟩ := (members "a").mp (by decide)
  cases stored
  exact absurd start (by decide)

end

end IntelliL3
