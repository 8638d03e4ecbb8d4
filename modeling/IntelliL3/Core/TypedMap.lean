import Mathlib.Logic.Function.Basic
import IntelliL3.Core.Reference

/-! # The store as a typed map

A partial map from types and ids to objects, and the reading of a backend as
one. The eight key prefixes are disjoint, so every key of the flat key space
belongs to one object, and a Bloom filter that knows every live id never hides
one: put, get and delete of the store are those of the map.
-/

namespace IntelliL3

open Lib

/-! ## One key space -/

/-- No prefix starts with another. -/
def L3Config.PrefixFree (config : L3Config) : Prop :=
  ∀ X Y, X ≠ Y → ¬ (config.keyPrefix X).toList <+: (config.keyPrefix Y).toList

theorem L3Config.default_prefixFree : L3Config.default.PrefixFree := by
  intro X Y differ
  cases X <;> cases Y <;> first | exact absurd rfl differ | decide

namespace L3Config.PrefixFree

variable {config : L3Config} (free : config.PrefixFree)
include free

theorem metaKey_iff {X Y : ObjectType} {objectId other : String} :
    metaKey (config.keyPrefix X) objectId = metaKey (config.keyPrefix Y) other ↔
      X = Y ∧ objectId = other := by
  constructor
  · intro same
    by_cases sameType : X = Y
    · subst sameType
      exact ⟨rfl, metaKey_inj same⟩
    · refine absurd same ?_
      simp only [metaKey, String.append_assoc]
      exact keys_apart ⟨free X Y sameType, free Y X (Ne.symm sameType)⟩ _ _
  · rintro ⟨rfl, rfl⟩
    rfl

theorem dataKey_iff {X Y : ObjectType} {ext ext' : String} (pair : X.dataExt = some ext)
    (pair' : Y.dataExt = some ext') {objectId other : String} :
    dataKey (config.keyPrefix X) objectId ext = dataKey (config.keyPrefix Y) other ext' ↔
      X = Y ∧ objectId = other := by
  constructor
  · intro same
    by_cases sameType : X = Y
    · subst sameType
      rw [pair] at pair'
      cases pair'
      exact ⟨rfl, dataKey_inj same⟩
    · refine absurd same ?_
      simp only [dataKey, String.append_assoc]
      exact keys_apart ⟨free X Y sameType, free Y X (Ne.symm sameType)⟩ _ _
  · rintro ⟨rfl, rfl⟩
    rw [pair] at pair'
    cases pair'
    rfl

end L3Config.PrefixFree

/-! ## The abstract map -/

/-- Which object is live under each type and id. -/
abbrev TypedMap : Type := (X : ObjectType) → String → Option (Payload X)

namespace TypedMap

def empty : TypedMap := fun _ _ => none

def set (m : TypedMap) (X : ObjectType) (objectId : String) (value : Option (Payload X)) :
    TypedMap :=
  Function.update m X (Function.update (m X) objectId value)

@[simp] theorem set_self (m : TypedMap) (X : ObjectType) (objectId : String)
    (value : Option (Payload X)) : m.set X objectId value X objectId = value := by
  simp only [set, Function.update_self]

theorem set_other (m : TypedMap) {X Y : ObjectType} {objectId other : String}
    (value : Option (Payload X)) (differ : ¬ (X = Y ∧ objectId = other)) :
    m.set X objectId value Y other = m Y other := by
  by_cases sameType : X = Y
  · subst sameType
    have differ : other ≠ objectId := fun same => differ ⟨rfl, same.symm⟩
    simp only [set, Function.update_self, Function.update_of_ne differ]
  · simp only [set, Function.update_of_ne (Ne.symm sameType)]

end TypedMap

/-! ## Reading a backend as a map -/

namespace MemoryBackend

variable {Bytes : Type}

theorem get_wipe (b : MemoryBackend Bytes) (config : L3Config) (X : ObjectType)
    (objectId key : String) :
    (b.wipe config X objectId).get key =
      if metaKey (config.keyPrefix X) objectId = key ∨
          ∃ ext, X.dataExt = some ext ∧ dataKey (config.keyPrefix X) objectId ext = key then none
      else b.get key := by
  unfold wipe
  cases X.dataExt with
  | none =>
      simp only [get_delete, reduceCtorEq, false_and, exists_false, or_false]
  | some ext =>
      simp only [get_delete, Option.some.injEq, exists_eq_left']
      by_cases first : metaKey (config.keyPrefix X) objectId = key <;>
        by_cases second : dataKey (config.keyPrefix X) objectId ext = key <;>
        simp [first, second]

/-- Reading one key back through an encoder that round-trips. -/
theorem readMeta_stored {b : MemoryBackend Bytes} {p objectId : String} {τ : Type}
    {value : Option τ} {serialize : τ → Bytes} {deserialize : Bytes → Except PyError τ}
    (stored : b.get (metaKey p objectId) = value.map serialize)
    (roundTrip : ∀ x, deserialize (serialize x) = .ok x) :
    b.readMeta p objectId deserialize = .ok value := by
  rw [readMeta, stored]
  cases value with
  | none => rfl
  | some x => simp only [Option.map_some, roundTrip, Except.map]

theorem readPair_stored {b : MemoryBackend Bytes} {p objectId ext : String} {τ δ : Type}
    {value : Option (τ × δ)} {serialize : τ → Bytes} {deserialize : Bytes → Except PyError τ}
    {serializeData : δ → Bytes} {deserializeData : Bytes → Except PyError δ}
    (roundTrip : ∀ x, deserialize (serialize x) = .ok x)
    (dataRoundTrip : ∀ x, deserializeData (serializeData x) = .ok x)
    (metaOf : b.get (metaKey p objectId) = value.map fun pair => serialize pair.1)
    (dataOf : b.get (dataKey p objectId ext) =
      value.bind fun pair => some (serializeData pair.2)) :
    b.readPair p objectId ext deserialize deserializeData = .ok value := by
  rw [readPair, metaOf, dataOf]
  cases value with
  | none => rfl
  | some pair =>
      simp only [Option.map_some, Option.bind_some, roundTrip, dataRoundTrip]
      rfl

variable [Serializer Bytes]

variable (Bytes) in
/-- The pair types, and only they, have arrays. -/
theorem dataBytes_isSome {X : ObjectType} (payload : Payload X) :
    (payload.dataBytes : Option Bytes).isSome = X.dataExt.isSome := by
  cases X <;> rfl

theorem get_write (b : MemoryBackend Bytes) (config : L3Config) {X : ObjectType}
    (payload : Payload X) (key : String) :
    (b.write config payload).get key =
      if ∃ ext, X.dataExt = some ext ∧
          dataKey (config.keyPrefix X) payload.objectId ext = key then payload.dataBytes
      else if metaKey (config.keyPrefix X) payload.objectId = key then some payload.metaBytes
      else b.get key := by
  have both := dataBytes_isSome Bytes payload
  unfold write
  cases ext : X.dataExt with
  | none => simp [get_put]
  | some ext =>
      cases data : (payload.dataBytes : Option Bytes) with
      | none => simp [data, ext] at both
      | some data => simp only [get_put, Option.some.injEq, exists_eq_left']

/-- An object is read back from keys that hold its encoding. -/
theorem read_stored [LawfulSerializer Bytes] {b : MemoryBackend Bytes} {config : L3Config}
    {X : ObjectType} {objectId : String} {value : Option (Payload X)}
    (metaOf : b.get (metaKey (config.keyPrefix X) objectId) = value.map Payload.metaBytes)
    (dataOf : ∀ ext, X.dataExt = some ext →
      b.get (dataKey (config.keyPrefix X) objectId ext) = value.bind Payload.dataBytes) :
    b.read config X objectId = .ok value := by
  cases X with
  | kvCache =>
      exact readPair_stored LawfulSerializer.kvBlockMeta
        (fun arrays => LawfulSerializer.kvTensors arrays.1 arrays.2) metaOf (dataOf _ rfl)
  | rag =>
      exact readPair_stored LawfulSerializer.ragMeta LawfulSerializer.embedding metaOf
        (dataOf _ rfl)
  | semanticCache =>
      exact readPair_stored LawfulSerializer.semanticEntry LawfulSerializer.embedding metaOf
        (dataOf _ rfl)
  | planCache =>
      exact readPair_stored LawfulSerializer.planCacheEntry LawfulSerializer.embedding metaOf
        (dataOf _ rfl)
  | agentWorkflow => exact readMeta_stored metaOf LawfulSerializer.agentWorkflow
  | agentStep => exact readMeta_stored metaOf LawfulSerializer.agentStep
  | toolCallArtifact => exact readMeta_stored metaOf LawfulSerializer.toolArtifact
  | workflowTrace => exact readMeta_stored metaOf LawfulSerializer.workflowTrace

/-- The backend holds exactly the live objects of one type. -/
structure HoldsOf (b : MemoryBackend Bytes) (config : L3Config) {X : ObjectType}
    (live : String → Option (Payload X)) : Prop where
  metaOf : ∀ objectId,
    b.get (metaKey (config.keyPrefix X) objectId) = (live objectId).map Payload.metaBytes
  dataOf : ∀ objectId ext, X.dataExt = some ext →
    b.get (dataKey (config.keyPrefix X) objectId ext) = (live objectId).bind Payload.dataBytes

namespace HoldsOf

variable {b : MemoryBackend Bytes} {config : L3Config} {X Y : ObjectType}
  {live : String → Option (Payload X)}

theorem empty (config : L3Config) (X : ObjectType) :
    HoldsOf (empty : MemoryBackend Bytes) config fun _ => (none : Option (Payload X)) :=
  ⟨fun _ => rfl, fun _ _ _ => rfl⟩

theorem write (holds : HoldsOf b config live) (payload : Payload X) :
    HoldsOf (b.write config payload) config
      (Function.update live payload.objectId (some payload)) := by
  constructor
  · intro other
    have noData : ¬ ∃ ext, X.dataExt = some ext ∧
        dataKey (config.keyPrefix X) payload.objectId ext =
          metaKey (config.keyPrefix X) other :=
      fun ⟨ext, pair, same⟩ => metaKey_ne_dataKey pair _ _ _ _ same.symm
    rw [get_write, if_neg noData]
    by_cases here : other = payload.objectId
    · subst here
      rw [if_pos rfl, Function.update_self, Option.map_some]
    · rw [if_neg (fun same => here (metaKey_inj same).symm), Function.update_of_ne here,
        holds.metaOf]
  · intro other ext pair
    rw [get_write]
    by_cases here : other = payload.objectId
    · subst here
      rw [if_pos ⟨ext, pair, rfl⟩, Function.update_self, Option.bind_some]
    · have notData : ¬ ∃ ext', X.dataExt = some ext' ∧
          dataKey (config.keyPrefix X) payload.objectId ext' =
            dataKey (config.keyPrefix X) other ext := by
        rintro ⟨ext', pair', same⟩
        rw [pair] at pair'
        cases pair'
        exact here (dataKey_inj same).symm
      rw [if_neg notData, if_neg (metaKey_ne_dataKey pair _ _ _ _), Function.update_of_ne here,
        holds.dataOf other ext pair]

theorem write_other (holds : HoldsOf b config live) (free : config.PrefixFree) (other : Y ≠ X)
    (payload : Payload Y) : HoldsOf (b.write config payload) config live := by
  constructor
  · intro objectId
    have noData : ¬ ∃ ext, Y.dataExt = some ext ∧
        dataKey (config.keyPrefix Y) payload.objectId ext =
          metaKey (config.keyPrefix X) objectId :=
      fun ⟨ext, pair, same⟩ => metaKey_ne_dataKey pair _ _ _ _ same.symm
    rw [get_write, if_neg noData, if_neg (fun same => other (free.metaKey_iff.mp same).1),
      holds.metaOf]
  · intro objectId ext pair
    have notData : ¬ ∃ ext', Y.dataExt = some ext' ∧
        dataKey (config.keyPrefix Y) payload.objectId ext' =
          dataKey (config.keyPrefix X) objectId ext :=
      fun ⟨ext', pair', same⟩ => other ((free.dataKey_iff pair' pair).mp same).1
    rw [get_write, if_neg notData, if_neg (metaKey_ne_dataKey pair _ _ _ _),
      holds.dataOf objectId ext pair]

theorem wipe (holds : HoldsOf b config live) (objectId : String) :
    HoldsOf (b.wipe config X objectId) config (Function.update live objectId none) := by
  constructor
  · intro other
    have noData : ¬ ∃ ext, X.dataExt = some ext ∧
        dataKey (config.keyPrefix X) objectId ext = metaKey (config.keyPrefix X) other :=
      fun ⟨ext, pair, same⟩ => metaKey_ne_dataKey pair _ _ _ _ same.symm
    rw [get_wipe]
    by_cases here : other = objectId
    · subst here
      rw [if_pos (Or.inl rfl), Function.update_self, Option.map_none]
    · rw [if_neg (not_or.mpr ⟨fun same => here (metaKey_inj same).symm, noData⟩),
        Function.update_of_ne here, holds.metaOf]
  · intro other ext pair
    rw [get_wipe]
    by_cases here : other = objectId
    · subst here
      rw [if_pos (Or.inr ⟨ext, pair, rfl⟩), Function.update_self, Option.bind_none]
    · have notData : ¬ ∃ ext', X.dataExt = some ext' ∧
          dataKey (config.keyPrefix X) objectId ext' = dataKey (config.keyPrefix X) other ext := by
        rintro ⟨ext', pair', same⟩
        rw [pair] at pair'
        cases pair'
        exact here (dataKey_inj same).symm
      rw [if_neg (not_or.mpr ⟨metaKey_ne_dataKey pair _ _ _ _, notData⟩),
        Function.update_of_ne here, holds.dataOf other ext pair]

theorem wipe_other (holds : HoldsOf b config live) (free : config.PrefixFree) (other : Y ≠ X)
    (gone : String) : HoldsOf (b.wipe config Y gone) config live := by
  constructor
  · intro objectId
    have noData : ¬ ∃ ext, Y.dataExt = some ext ∧
        dataKey (config.keyPrefix Y) gone ext = metaKey (config.keyPrefix X) objectId :=
      fun ⟨ext, pair, same⟩ => metaKey_ne_dataKey pair _ _ _ _ same.symm
    rw [get_wipe, if_neg (not_or.mpr ⟨fun same => other (free.metaKey_iff.mp same).1, noData⟩),
      holds.metaOf]
  · intro objectId ext pair
    have notData : ¬ ∃ ext', Y.dataExt = some ext' ∧
        dataKey (config.keyPrefix Y) gone ext' = dataKey (config.keyPrefix X) objectId ext :=
      fun ⟨ext', pair', same⟩ => other ((free.dataKey_iff pair' pair).mp same).1
    rw [get_wipe, if_neg (not_or.mpr ⟨metaKey_ne_dataKey pair _ _ _ _, notData⟩),
      holds.dataOf objectId ext pair]

/-- A deletion finds a key exactly when the object is live. -/
theorem touchesKeys (holds : HoldsOf b config live) (objectId : String) :
    b.touchesKeys config X objectId = (live objectId).isSome := by
  unfold MemoryBackend.touchesKeys
  rw [existsKey_eq, holds.metaOf, Option.isSome_map]
  cases pair : X.dataExt with
  | none => simp
  | some ext =>
      simp only [existsKey_eq, holds.dataOf objectId ext pair]
      cases live objectId <;> rfl

theorem read [LawfulSerializer Bytes] (holds : HoldsOf b config live) (objectId : String) :
    b.read config X objectId = .ok (live objectId) :=
  read_stored (holds.metaOf objectId) (holds.dataOf objectId)

end HoldsOf

/-- The backend holds exactly the live objects of a map. -/
def Holds (b : MemoryBackend Bytes) (config : L3Config) (m : TypedMap) : Prop :=
  ∀ X, HoldsOf b config (m X)

namespace Holds

variable {b : MemoryBackend Bytes} {config : L3Config} {m : TypedMap}

theorem write (holds : Holds b config m) (free : config.PrefixFree) {X : ObjectType}
    (payload : Payload X) :
    Holds (b.write config payload) config (m.set X payload.objectId (some payload)) := by
  intro Y
  by_cases same : Y = X
  · subst same
    rw [TypedMap.set, Function.update_self]
    exact (holds Y).write payload
  · rw [TypedMap.set, Function.update_of_ne same]
    exact (holds Y).write_other free (Ne.symm same) payload

theorem wipe (holds : Holds b config m) (free : config.PrefixFree) (X : ObjectType)
    (objectId : String) : Holds (b.wipe config X objectId) config (m.set X objectId none) := by
  intro Y
  by_cases same : Y = X
  · subst same
    rw [TypedMap.set, Function.update_self]
    exact (holds Y).wipe objectId
  · rw [TypedMap.set, Function.update_of_ne same]
    exact (holds Y).wipe_other free (Ne.symm same) objectId

end Holds

end MemoryBackend

/-! ## The refinement -/

namespace TypedMap

variable [PyRuntime]

/-- A put makes the object it stamped live, a delete ends its life. -/
def apply (m : TypedMap) : Call → TypedMap
  | .put (X := X) payload =>
      match payload.stamp with
      | .ok stamped => m.set X payload.objectId (some stamped)
      | .error _ => m
  | .get _ _ _ => m
  | .delete X objectId => m.set X objectId none

/-- What a caller is told: the live object touched, or whether there was one. -/
def answer (m : TypedMap) : Call → Reply
  | .put payload => .stored payload.objectId
  | .get X objectId now => .found X ((m X objectId).map (Payload.touch now))
  | .delete X objectId => .deleted (m X objectId).isSome

theorem apply_other (m : TypedMap) {c : Call} {X : ObjectType} {objectId : String}
    (other : ¬ c.concerns X objectId) : m.apply c X objectId = m X objectId := by
  cases c with
  | put payload =>
      simp only [apply]
      cases payload.stamp with
      | error e => rfl
      | ok stamped => exact set_other m _ other
  | get => rfl
  | delete Y id => exact set_other m _ other

end TypedMap

/-- The store stands for a map: its backend holds it and its Bloom filter knows it. -/
structure Refines {η Bytes : Type} [PyRuntime] [Serializer Bytes]
    (store : UnifiedObjectStore (MemoryBackend Bytes) η) (m : TypedMap) : Prop where
  free : store.config.PrefixFree
  holds : store.backend.Holds store.config m
  known : ∀ X objectId, (m X objectId).isSome → store.metadata.mightExist objectId = true

namespace Refines

variable {η Bytes : Type} [PyRuntime] [Serializer Bytes]
  {self self' : UnifiedObjectStore (MemoryBackend Bytes) η} {m : TypedMap}

theorem fresh {config : L3Config} (free : config.PrefixFree) (metadata : MetadataStore η) :
    Refines (UnifiedObjectStore.overEmpty Bytes config metadata) TypedMap.empty :=
  ⟨free, fun X => MemoryBackend.HoldsOf.empty config X,
    fun _ _ live => absurd live Bool.false_ne_true⟩

theorem get [LawfulSerializer Bytes] (refines : Refines self m) (X : ObjectType)
    (objectId : String) (now : Rat) :
    UnifiedObjectStore.get X objectId now self =
      .ok ((m X objectId).map (Payload.touch now)) self := by
  rw [UnifiedObjectStore.get_eq]
  change raising (if _ then (self.backend.read _ _ _).map _ else _) self = _
  rw [(refines.holds X).read]
  cases live : m X objectId with
  | none => split <;> rfl
  | some payload =>
      rw [if_pos (refines.known X objectId (by rw [live]; rfl))]
      rfl

variable [Hnswlib η]

theorem put (refines : Refines self m) {X : ObjectType} {payload : Payload X} {objectId : String}
    (done : UnifiedObjectStore.put payload self = .ok objectId self') :
    objectId = payload.objectId ∧ Refines self' (m.apply (.put payload)) := by
  obtain ⟨stamped, stamping, same, sameId, config, backend, indexing⟩ :=
    UnifiedObjectStore.put_ok done
  have bloom := stamped.index_bloom self.metadata
  rw [indexing, EStateResult.state_ok, sameId] at bloom
  refine ⟨same, ?_⟩
  simp only [TypedMap.apply, stamping]
  refine ⟨config ▸ refines.free, ?_, ?_⟩
  · rw [config, backend, ← sameId]
    exact refines.holds.write refines.free stamped
  · intro Y other live
    rw [MetadataStore.mightExist, bloom]
    by_cases here : X = Y ∧ payload.objectId = other
    · rw [here.2]
      exact BloomFilter.mightContain_add_self _ _
    · rw [TypedMap.set_other m _ here] at live
      exact BloomFilter.mightContain_add _ _ (refines.known Y other live)

theorem delete (refines : Refines self m) {X : ObjectType} {objectId : String} {existed : Bool}
    (done : UnifiedObjectStore.delete X objectId self = .ok existed self') :
    existed = (m X objectId).isSome ∧ Refines self' (m.apply (.delete X objectId)) := by
  obtain ⟨answered, config, backend, metadata⟩ := UnifiedObjectStore.delete_ok done
  have bloom : self'.metadata.bloom = self.metadata.bloom := by
    have kept := self.metadata.onObjectRemoved_bloom X objectId
    split at metadata
    · rw [metadata] at kept
      exact kept
    · rw [metadata]
  refine ⟨answered.trans ((refines.holds X).touchesKeys objectId), config ▸ refines.free, ?_, ?_⟩
  · rw [config, backend]
    exact refines.holds.wipe refines.free X objectId
  · intro Y other live
    rw [MetadataStore.mightExist, bloom]
    by_cases here : X = Y ∧ objectId = other
    · obtain ⟨rfl, rfl⟩ := here
      simp [TypedMap.apply] at live
    · rw [TypedMap.apply, TypedMap.set_other m _ here] at live
      exact refines.known Y other live

/-- One call of the store is one call of the map. -/
theorem step [LawfulSerializer Bytes] (refines : Refines self m) {c : Call} {r : Reply}
    (done : UnifiedObjectStore.exec c self = .ok r self') :
    r = m.answer c ∧ Refines self' (m.apply c) := by
  cases c with
  | put payload =>
      obtain ⟨objectId, m, inner, done⟩ := bind_run_ok.mp done
      cases done
      obtain ⟨rfl, next⟩ := refines.put inner
      exact ⟨rfl, next⟩
  | get X objectId now =>
      rw [UnifiedObjectStore.exec, bind_run, refines.get] at done
      cases done
      exact ⟨rfl, refines⟩
  | delete X objectId =>
      obtain ⟨existed, m, inner, done⟩ := bind_run_ok.mp done
      cases done
      obtain ⟨rfl, next⟩ := refines.delete inner
      exact ⟨rfl, next⟩

end Refines

/-- Over every run of calls that return, the store answers as the typed map does,
    and no call changes what `get` answers for an object it is not about. -/
theorem store_refines_typedMap {η Bytes : Type} [PyRuntime] [Serializer Bytes]
    [LawfulSerializer Bytes] [Hnswlib η] (metadata : MetadataStore η)
    {calls : List Call} {replies : List Reply}
    {self : UnifiedObjectStore (MemoryBackend Bytes) η}
    (run : Run UnifiedObjectStore.exec
      (UnifiedObjectStore.overEmpty Bytes .default metadata) calls replies self) :
    replies = Run.answers TypedMap.apply TypedMap.answer TypedMap.empty calls ∧
      (∀ X objectId now, UnifiedObjectStore.get X objectId now self =
        .ok (((calls.foldl TypedMap.apply TypedMap.empty) X objectId).map (Payload.touch now))
          self) ∧
      ∀ c r self', UnifiedObjectStore.exec c self = .ok r self' →
        ∀ X objectId now, ¬ c.concerns X objectId →
          EStateResult.outcome (UnifiedObjectStore.get X objectId now self') =
            EStateResult.outcome (UnifiedObjectStore.get X objectId now self) := by
  have step : ∀ (s : UnifiedObjectStore (MemoryBackend Bytes) η) m c r s', Refines s m →
      UnifiedObjectStore.exec c s = .ok r s' → r = TypedMap.answer m c ∧
        Refines s' (TypedMap.apply m c) :=
    fun _ _ _ _ _ related done => related.step done
  obtain ⟨answered, refines⟩ :=
    run.simulates step (Refines.fresh L3Config.default_prefixFree metadata)
  refine ⟨answered, fun X objectId now => refines.get X objectId now, ?_⟩
  intro c r self' done X objectId now other
  obtain ⟨-, next⟩ := refines.step done
  rw [next.get, refines.get, TypedMap.apply_other _ other]
  rfl

open Reference in
/-- A block put twice, read, deleted and read again. -/
theorem store_refines_typedMap_run :
    ∃ replies self, Run UnifiedObjectStore.exec store
        [.put (X := .kvCache) (kvBlock "a" [1, 2], array [1], array [2]),
          .put (X := .kvCache) (kvBlock "a" [1], array [3], array [4]),
          .get .kvCache "a" 5, .delete .kvCache "a", .get .kvCache "a" 6] replies self ∧
      replies = Run.answers TypedMap.apply TypedMap.answer TypedMap.empty
        [.put (X := .kvCache) (kvBlock "a" [1, 2], array [1], array [2]),
          .put (X := .kvCache) (kvBlock "a" [1], array [3], array [4]),
          .get .kvCache "a" 5, .delete .kvCache "a", .get .kvCache "a" 6] := by
  have run : Run UnifiedObjectStore.exec store
      [.put (X := .kvCache) (kvBlock "a" [1, 2], array [1], array [2]),
        .put (X := .kvCache) (kvBlock "a" [1], array [3], array [4]),
        .get .kvCache "a" 5, .delete .kvCache "a", .get .kvCache "a" 6] _ _ :=
    .cons rfl (.cons rfl (.cons rfl (.cons rfl (.cons rfl (.nil _)))))
  exact ⟨_, _, run, (store_refines_typedMap metadata run).1⟩

end IntelliL3
