import Mathlib.Data.List.Perm.Basic
import IntelliL3.Core.Prefetch
import IntelliL3.Core.Reference

/-! # The keys of a batch

A batch loads an id under the type it is first named with and under no other, so it
loads everything it is asked for exactly when each id that is stored under a type it
is named with is so under the first.
-/

namespace IntelliL3

open Lib

/-- The object type behind a prefetch type. -/
def prefetchedType : String → Option ObjectType
  | "kv_cache" => some .kvCache
  | "rag" => some .rag
  | "semantic" => some .semanticCache
  | "tool_artifact" => some .toolCallArtifact
  | "plan_cache" => some .planCache
  | _ => none

namespace UnifiedObjectStore

section

variable {η Bytes : Type} [PyRuntime] [Serializer Bytes]
variable {self : UnifiedObjectStore (MemoryBackend Bytes) η}

/-- Everything the named object needs is stored, under the type the decision names. -/
def Available (self : UnifiedObjectStore (MemoryBackend Bytes) η) (decision : PrefetchDecision) :
    Prop :=
  ∃ X, prefetchedType decision.prefetchType = some X ∧
    self.backend.complete self.config X decision.objectId = true

/-- The named object can be read, if the filter lets it be read at all. -/
def Decodes (self : UnifiedObjectStore (MemoryBackend Bytes) η) (decision : PrefetchDecision) :
    Prop :=
  ∀ X, prefetchedType decision.prefetchType = some X →
    self.metadata.mightExist decision.objectId = true →
      ∃ found, self.backend.read self.config X decision.objectId = .ok found

/-- Some decision names the id with a type under which it is stored. -/
def Requested (self : UnifiedObjectStore (MemoryBackend Bytes) η)
    (decisions : List PrefetchDecision) (objectId : String) : Prop :=
  ∃ decision ∈ decisions, decision.objectId = objectId ∧ self.Available decision

/-- The batch returns, and its keys are the ids it was asked for. -/
def LoadsRequested (self : UnifiedObjectStore (MemoryBackend Bytes) η) (clock : String → Rat)
    (decisions : List PrefetchDecision) : Prop :=
  ∃ results, prefetchBatch decisions clock self = .ok results self ∧
    ∀ objectId, objectId ∈ results.keys ↔ self.Requested decisions objectId

/-- The decision that names an id first. -/
def firstNaming (decisions : List PrefetchDecision) (objectId : String) :
    Option PrefetchDecision :=
  decisions.find? fun decision => decision.objectId = objectId

/-- What is named first can be read, and is available where any decision finds it so. -/
structure FirstAvailable (store : UnifiedObjectStore (MemoryBackend Bytes) η)
    (decisions : List PrefetchDecision) : Prop where
  decodes : ∀ objectId ≠ "", ∀ decision ∈ firstNaming decisions objectId, store.Decodes decision
  available : ∀ objectId, store.Requested decisions objectId →
    objectId ≠ "" ∧ store.metadata.mightExist objectId = true ∧
      ∃ decision ∈ firstNaming decisions objectId, store.Available decision

/-- The same of every decision, whichever comes first. -/
structure AllAvailable (store : UnifiedObjectStore (MemoryBackend Bytes) η)
    (decisions : List PrefetchDecision) : Prop where
  decodes : ∀ decision ∈ decisions, decision.objectId ≠ "" → store.Decodes decision
  available : ∀ objectId, store.Requested decisions objectId →
    objectId ≠ "" ∧ store.metadata.mightExist objectId = true ∧
      ∀ decision ∈ decisions, decision.objectId = objectId → store.Available decision

/-! ## One id -/

/-- An answer is the stored object, if the filter knows the id. -/
private theorem outcome_wrapped (X : ObjectType) (objectId : String) (now : Rat)
    (wrap : Payload X → Prefetched) :
    EStateResult.outcome ((do return (← get X objectId now).map wrap :
        StoreM (MemoryBackend Bytes) η (Option Prefetched)) self) =
      if self.metadata.mightExist objectId then
        (self.backend.read self.config X objectId).map (Option.map (wrap ∘ Payload.touch now))
      else .ok none := by
  have viewed : ReadableBackend.view self.backend = self.backend := rfl
  rw [bind_run, get_eq, viewed]
  cases self.metadata.mightExist objectId with
  | false => rfl
  | true =>
      simp only [if_true]
      cases self.backend.read self.config X objectId with
      | error e => rfl
      | ok found => cases found <;> rfl

/-- What a store answers under a prefetch type. -/
theorem answers_cases (objectId prefetchType : String) (now : Rat) :
    (prefetchedType prefetchType = none ∧ self.answers objectId prefetchType now = .ok none) ∨
      ∃ X wrap, prefetchedType prefetchType = some X ∧
        self.answers objectId prefetchType now =
          if self.metadata.mightExist objectId then
            (self.backend.read self.config X objectId).map
              (Option.map (wrap ∘ Payload.touch now))
          else .ok none := by
  unfold answers prefetchOne
  split
  · exact .inr ⟨.kvCache, _, rfl, outcome_wrapped .kvCache objectId now _⟩
  · exact .inr ⟨.rag, _, rfl, outcome_wrapped .rag objectId now _⟩
  · exact .inr ⟨.semanticCache, _, rfl, outcome_wrapped .semanticCache objectId now _⟩
  · exact .inr ⟨.toolCallArtifact, _, rfl, outcome_wrapped .toolCallArtifact objectId now _⟩
  · exact .inr ⟨.planCache, _, rfl, outcome_wrapped .planCache objectId now _⟩
  · next kv rag semantic tool plan =>
      refine .inl ⟨?_, rfl⟩
      unfold prefetchedType
      split
      · exact absurd rfl kv
      · exact absurd rfl rag
      · exact absurd rfl semantic
      · exact absurd rfl tool
      · exact absurd rfl plan
      · rfl

variable {decision : PrefetchDecision} {decisions : List PrefetchDecision}
variable {clock : String → Rat}

theorem answers_returns_iff (now : Rat) :
    (∃ answer, self.answers decision.objectId decision.prefetchType now = .ok answer) ↔
      self.Decodes decision := by
  unfold Decodes
  rcases self.answers_cases decision.objectId decision.prefetchType now with
    ⟨untyped, answered⟩ | ⟨X, wrap, typed, answered⟩
  · simp only [answered, untyped, reduceCtorEq, false_implies, implies_true, Except.ok.injEq,
      exists_eq']
  · rw [answered, typed]
    simp only [Option.some.injEq, forall_eq']
    generalize self.backend.read self.config X decision.objectId = read
    cases self.metadata.mightExist decision.objectId with
    | false => simp
    | true => cases read <;> simp [Except.map]

theorem answers_found_iff (decodes : self.Decodes decision) (now : Rat) :
    (∃ found, self.answers decision.objectId decision.prefetchType now = .ok (some found)) ↔
      self.metadata.mightExist decision.objectId = true ∧ self.Available decision := by
  unfold Available
  rcases self.answers_cases decision.objectId decision.prefetchType now with
    ⟨untyped, answered⟩ | ⟨X, wrap, typed, answered⟩
  · simp only [answered, untyped, reduceCtorEq, false_and, exists_false, and_false,
      Except.ok.injEq]
  · have readable := decodes X typed
    have missing := self.backend.read_none_iff self.config X decision.objectId
    rw [answered, typed]
    simp only [Option.some.injEq, exists_eq_left']
    generalize self.backend.read self.config X decision.objectId = read at missing readable
    cases known : self.metadata.mightExist decision.objectId with
    | false => simp
    | true =>
        obtain ⟨found, rfl⟩ := readable known
        have complete : self.backend.complete self.config X decision.objectId = true ↔
            found ≠ none := by
          rw [Except.ok.injEq] at missing
          rw [ne_eq, missing, Bool.not_eq_false]
        rw [complete]
        cases found <;> simp [Except.map]

/-! ## A batch -/

omit [PyRuntime] in
theorem firstNaming_spec {objectId : String}
    (first : decision ∈ firstNaming decisions objectId) :
    decision ∈ decisions ∧ decision.objectId = objectId :=
  ⟨List.mem_of_find?_eq_some first, by simpa using List.find?_some first⟩

theorem loaded_first {objectId : String} (named : objectId ≠ "")
    (first : decision ∈ firstNaming decisions objectId) :
    self.loaded decisions clock objectId =
      self.answers decision.objectId decision.prefetchType (clock objectId) := by
  have found : firstType decisions objectId = some decision.prefetchType := by
    rw [firstType, ← firstNaming, Option.mem_def.mp first, Option.map_some]
  rw [loaded, if_neg named, found, (firstNaming_spec first).2]

theorem loaded_found {objectId : String} {found : Prefetched}
    (loads : self.loaded decisions clock objectId = .ok (some found)) :
    objectId ≠ "" ∧ ∃ decision, decision ∈ firstNaming decisions objectId := by
  rw [loaded] at loads
  split at loads
  · cases loads
  · next named =>
      refine ⟨named, Option.ne_none_iff_exists'.mp fun unnamed => ?_⟩
      rw [firstType, ← firstNaming, unnamed] at loads
      cases loads

/-- A batch returns when each id does, and its keys are the ids something is loaded for. -/
theorem loadsRequested_iff : self.LoadsRequested clock decisions ↔
    (∀ objectId, ∃ answer, self.loaded decisions clock objectId = .ok answer) ∧
      ∀ objectId, (∃ found, self.loaded decisions clock objectId = .ok (some found)) ↔
        self.Requested decisions objectId := by
  unfold LoadsRequested
  rcases prefetchBatch_run self decisions clock with ⟨results, run, loads⟩ | ⟨e, run, id, error⟩
  · simp only [run, loads, EStateM.Result.ok.injEq, and_true, exists_eq_left', Except.ok.injEq,
      exists_eq', implies_true, true_and, Dict.mem_keys_iff, Option.isSome_iff_exists]
  · rw [run]
    refine iff_of_false nofun fun returns => ?_
    obtain ⟨answer, returned⟩ := returns.1 id
    cases error.symm.trans returned

theorem loadsRequested_iff_first :
    self.LoadsRequested clock decisions ↔ self.FirstAvailable decisions := by
  rw [loadsRequested_iff]
  constructor
  · rintro ⟨returns, keys⟩
    have decodes : ∀ objectId ≠ "", ∀ decision ∈ firstNaming decisions objectId,
        self.Decodes decision := by
      intro objectId named decision first
      rw [← answers_returns_iff (clock objectId), ← loaded_first named first]
      exact returns objectId
    refine ⟨decodes, fun objectId requested => ?_⟩
    obtain ⟨found, loads⟩ := (keys objectId).mpr requested
    obtain ⟨named, decision, first⟩ := loaded_found loads
    rw [loaded_first named first] at loads
    obtain ⟨known, available⟩ :=
      (answers_found_iff (decodes objectId named decision first) _).mp ⟨found, loads⟩
    rw [(firstNaming_spec first).2] at known
    exact ⟨named, known, decision, first, available⟩
  · intro all
    refine ⟨fun objectId => ?_, fun objectId => ⟨?_, fun requested => ?_⟩⟩
    · by_cases named : objectId = ""
      · exact ⟨none, by rw [loaded, if_pos named]⟩
      · cases first : firstNaming decisions objectId with
        | none =>
            refine ⟨none, ?_⟩
            rw [loaded, if_neg named, firstType, ← firstNaming, first]
            rfl
        | some decision =>
            rw [loaded_first named first, answers_returns_iff]
            exact all.decodes objectId named decision first
    · rintro ⟨found, loads⟩
      obtain ⟨named, decision, first⟩ := loaded_found loads
      rw [loaded_first named first] at loads
      obtain ⟨-, available⟩ := (answers_found_iff (all.decodes objectId named decision first) _).mp
        ⟨found, loads⟩
      obtain ⟨member, names⟩ := firstNaming_spec first
      exact ⟨decision, member, names, available⟩
    · obtain ⟨named, known, decision, first, available⟩ := all.available objectId requested
      rw [loaded_first named first, answers_found_iff (all.decodes objectId named decision first),
        (firstNaming_spec first).2]
      exact ⟨known, available⟩

omit [PyRuntime] [Serializer Bytes] in
theorem requested_perm {reordered : List PrefetchDecision} (perm : reordered.Perm decisions)
    (objectId : String) :
    self.Requested reordered objectId ↔ self.Requested decisions objectId := by
  unfold Requested
  simp only [perm.mem_iff]

omit [PyRuntime] in
/-- Any decision may come first. -/
theorem exists_perm_first (member : decision ∈ decisions) :
    ∃ reordered : List PrefetchDecision, reordered.Perm decisions ∧
      decision ∈ firstNaming reordered decision.objectId := by
  obtain ⟨before, after, rfl⟩ := List.append_of_mem member
  refine ⟨decision :: (before ++ after), List.perm_middle.symm, ?_⟩
  simp [firstNaming]

/-- A batch loads what it is asked for exactly when the first decision that names an id does
    so with a type under which it is stored, if any does; and in every order of the decisions
    exactly when all of them do. -/
theorem prefetch_keys_iff (self : UnifiedObjectStore (MemoryBackend Bytes) η)
    (clock : String → Rat) (decisions : List PrefetchDecision) :
    (self.LoadsRequested clock decisions ↔ self.FirstAvailable decisions) ∧
      ((∀ reordered : List PrefetchDecision, reordered.Perm decisions →
          self.LoadsRequested clock reordered) ↔ self.AllAvailable decisions) := by
  refine ⟨loadsRequested_iff_first, ?_⟩
  simp only [loadsRequested_iff_first]
  constructor
  · intro every
    refine ⟨fun decision member named => ?_, fun objectId requested => ?_⟩
    · obtain ⟨reordered, perm, first⟩ := exists_perm_first member
      exact (every reordered perm).decodes _ named decision first
    · obtain ⟨named, known, -⟩ := (every decisions (List.Perm.refl _)).available objectId requested
      refine ⟨named, known, fun decision member names => ?_⟩
      obtain ⟨reordered, perm, first⟩ := exists_perm_first member
      rw [names] at first
      obtain ⟨-, -, decision', first', available⟩ :=
        (every reordered perm).available objectId ((requested_perm perm objectId).mpr requested)
      obtain rfl := Option.mem_unique first first'
      exact available
  · intro all reordered perm
    refine ⟨fun objectId named decision first => ?_, fun objectId requested => ?_⟩
    · obtain ⟨member, names⟩ := firstNaming_spec first
      exact all.decodes decision (perm.mem_iff.mp member) (names ▸ named)
    · obtain ⟨named, known, each⟩ :=
        all.available objectId ((requested_perm perm objectId).mp requested)
      obtain ⟨asked, member, asks, -⟩ := requested
      have found : (firstNaming reordered objectId).isSome := by
        rw [firstNaming, List.find?_isSome]
        exact ⟨asked, member, by simpa using asks⟩
      obtain ⟨decision, first⟩ := Option.isSome_iff_exists.mp found
      obtain ⟨listed, names⟩ := firstNaming_spec first
      exact ⟨named, known, decision, first, each decision (perm.mem_iff.mp listed) names⟩

end

section

open Reference

/-- A store that holds the block `a` and nothing else. -/
private def holdingBlock : UnifiedObjectStore (MemoryBackend Encoded) FlatIndex :=
  EStateResult.state
    (UnifiedObjectStore.put (X := .kvCache) (kvBlock "a" [1], array [3], array [4]) store)

private def bothTypes : List PrefetchDecision :=
  [⟨"a", 1, "rag"⟩, ⟨"a", 1 / 2, "kv_cache"⟩]

/-- An object that is not there is asked for before the block of the same id. -/
theorem prefetch_suppressed :
    ¬ ∀ (self : UnifiedObjectStore (MemoryBackend Encoded) FlatIndex) (clock : String → Rat)
      (decisions : List PrefetchDecision), self.LoadsRequested clock decisions := by
  intro always
  obtain ⟨results, run, keys⟩ := always holdingBlock (fun _ => 5) bothTypes
  have nothing : (EStateResult.outcome (prefetchBatch bothTypes (fun _ => 5)
      holdingBlock)).toOption.map Dict.keys = some [] := by decide +kernel
  rw [run] at nothing
  have requested : holdingBlock.Requested bothTypes "a" :=
    ⟨_, List.mem_cons_of_mem _ List.mem_cons_self, rfl, .kvCache, rfl, by decide +kernel⟩
  have listed := (keys "a").mpr requested
  rw [Option.some.inj nothing] at listed
  cases listed

end

end UnifiedObjectStore

end IntelliL3
