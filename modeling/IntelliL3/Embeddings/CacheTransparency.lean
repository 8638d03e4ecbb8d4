import IntelliL3.Core.Reference
import IntelliL3.Embeddings.CachedEmbedding

/-! # What the cache of embeddings answers and holds

It answers what the backend answers, holds the texts embedded last, and asks the backend
for the others only.
-/

namespace IntelliL3

open Lib LeastRecent

/-! ## Rows of a stacked array -/

namespace NdArray

theorem row_filled {self : NdArray} {i : Nat} (inside : i < self.shape.headD 0) :
    ((self.data.drop (i * self.shape.tail.prod)).take self.shape.tail.prod).length =
      self.shape.tail.prod := by
  have filled := self.filled
  cases split : self.shape with
  | nil =>
      rw [split] at inside
      exact absurd inside (Nat.not_lt_zero i)
  | cons n shape =>
      rw [split, List.prod_cons] at filled
      rw [split] at inside
      have rest : (i + 1) * shape.prod ≤ n * shape.prod := Nat.mul_le_mul_right _ inside
      rw [Nat.add_mul, Nat.one_mul] at rest
      rw [List.tail_cons, List.length_take, List.length_drop]
      omega

/-- `self[i]` -/
def row? (self : NdArray) (i : Nat) : Option NdArray :=
  if inside : i < self.shape.headD 0 then
    some {
      itemsize := self.itemsize
      shape := self.shape.tail
      data := (self.data.drop (i * self.shape.tail.prod)).take self.shape.tail.prod
      filled := row_filled inside }
  else none

theorem flatMap_slice {α β : Type} {f : α → List β} {rows : List α} {width : Nat}
    (each : ∀ row ∈ rows, (f row).length = width) {i : Nat} {row : α} (here : rows[i]? = some row) :
    ((rows.flatMap f).drop (i * width)).take width = f row := by
  induction rows generalizing i with
  | nil => cases here
  | cons first rest ih =>
      have wide := each first List.mem_cons_self
      cases i with
      | zero =>
          cases here
          rw [Nat.zero_mul, List.drop_zero, List.flatMap_cons, ← wide, List.take_left']
          rfl
      | succ i =>
          rw [List.flatMap_cons, Nat.succ_mul, Nat.add_comm, ← wide, List.drop_length_add_append,
            wide]
          exact ih (fun row later => each row (List.mem_cons_of_mem _ later)) here

theorem ext {a b : NdArray} (sizes : a.itemsize = b.itemsize) (shapes : a.shape = b.shape)
    (same : a.data = b.data) : a = b := by
  cases a
  cases b
  simp only at sizes shapes same
  subst sizes shapes same
  rfl

/-- A stacked array has the arrays it was made of as its rows. -/
theorem row?_stack {rows : List NdArray} {array : NdArray} (stacked : stack rows = .ok array)
    {size : Nat} (sizes : ∀ row ∈ rows, row.itemsize = size) {i : Nat} (inside : i < rows.length) :
    array.row? i = rows[i]? := by
  cases rows with
  | nil => cases stacked
  | cons first rest =>
      rw [stack] at stacked
      split at stacked
      · next same =>
          cases stacked
          have here := List.getElem?_eq_getElem inside
          have member : (first :: rest)[i] ∈ first :: rest := List.getElem_mem inside
          rw [row?, here]
          refine (dif_pos inside).trans (congrArg some (ext ?_ ?_ ?_))
          · exact (sizes first List.mem_cons_self).trans (sizes _ member).symm
          · exact (same _ member).symm
          · refine flatMap_slice (fun row member => ?_) here
            rw [row.filled, same row member]
            rfl
      · cases stacked

variable [PyRuntime]

/-- An array that was cast is cast already. -/
theorem astypeFloat32_twice
    (rounded : ∀ x, PyRuntime.float32 (PyRuntime.float32 x) = PyRuntime.float32 x)
    (self : NdArray) : self.astypeFloat32.astypeFloat32 = self.astypeFloat32 := by
  refine ext rfl rfl ?_
  change (self.data.map PyRuntime.float32).map PyRuntime.float32 = self.data.map PyRuntime.float32
  rw [List.map_map]
  exact List.map_congr_left fun x _ => rounded x

/-- Rows that are cast give an array that is cast. -/
theorem astypeFloat32_stack {rows : List NdArray} (cast : ∀ row ∈ rows, row.astypeFloat32 = row) :
    astypeFloat32 <$> stack rows = stack rows := by
  cases rows with
  | nil => rfl
  | cons first rest =>
      rw [stack]
      split
      · refine congrArg Except.ok (ext ?_ rfl ?_)
        · have size : first.astypeFloat32.itemsize = first.itemsize := by
            rw [cast first List.mem_cons_self]
          exact size
        · change ((first :: rest).flatMap data).map PyRuntime.float32 = (first :: rest).flatMap data
          rw [List.map_flatMap]
          exact List.flatMap_congr fun row member => congrArg data (cast row member)
      · rfl

end NdArray

/-! ## The plain service -/

namespace EmbeddingCall

/-- The texts a call is about. -/
def texts : EmbeddingCall → List String
  | .embed text => [text]
  | .embedBatch texts => texts
  | .clearCache => []

end EmbeddingCall

namespace EmbeddingService

variable [PyRuntime] (backend : EmbeddingService)

/-- The embedding of a text, without a cache. -/
def plain (text : String) : Except PyError NdArray := NdArray.astypeFloat32 <$> backend.answer text

def plainBatch (texts : List String) : Except PyError NdArray :=
  if texts.isEmpty then NdArray.emptyRows backend.dimension
  else do NdArray.stack (← texts.mapM backend.plain)

def plainAnswer : EmbeddingCall → Except PyError (Option NdArray)
  | .embed text => some <$> backend.plain text
  | .embedBatch texts => some <$> backend.plainBatch texts
  | .clearCache => .ok none

/-- The texts of a call that get embedded: those before the first that raises. -/
def embedded (texts : List String) : List String :=
  texts.takeWhile fun text => (backend.plain text).isOk

/-- The texts embedded since the last clear, in their order, once a call was made. -/
def usedAfter (used : List String) : EmbeddingCall → List String
  | .clearCache => []
  | c => used ++ backend.embedded c.texts

/-- The same after a history. -/
def used (calls : List EmbeddingCall) : List String := calls.foldl backend.usedAfter []

/-- The texts the backend is asked for, one after the other, when a cache of `n` texts stands
    before it: those that are not among the `n` used last. -/
def missed (n : Nat) : List String → List String → List String
  | _, [] => []
  | used, text :: rest =>
      (if text ∈ recent n used then [] else [text]) ++
        if (backend.plain text).isOk then missed n (used ++ [text]) rest else []

end EmbeddingService

namespace CachedEmbeddingService

variable [PyRuntime]

/-- A service that holds what was used last, in front of a backend. -/
structure HoldsRecent (backend : EmbeddingService) (n : Nat) (used : List String)
    (service : CachedEmbeddingService) : Prop where
  answer : service.backend.answer = backend.answer
  dimension : service.backend.dimension = backend.dimension
  bound : service.maxCacheSize.toNat = n
  keys : service.cache.keys = (recent n used).map cacheKey
  values : ∀ text ∈ recent n used,
    service.cache.get? (cacheKey text) = (backend.plain text).toOption

variable {backend : EmbeddingService} {n : Nat} {used : List String}
  {service : CachedEmbeddingService}

theorem HoldsRecent.miss (holds : HoldsRecent backend n used service) {text : String}
    (apart : Set.InjOn cacheKey {t | t ∈ text :: used}) :
    service.cache.get? (cacheKey text) = none ↔ text ∉ recent n used := by
  rw [← Dict.contains_eq_false_iff, ← Bool.not_eq_true, not_iff_not, Dict.contains_iff, holds.keys,
    List.mem_map]
  constructor
  · rintro ⟨other, held, same⟩
    have equal := apart (List.mem_cons_of_mem text (mem_of_mem_recent held)) List.mem_cons_self same
    exact equal ▸ held
  · exact fun held => ⟨text, held, rfl⟩

theorem embedded_ok {text : String} {embedding : NdArray}
    (answered : backend.plain text = .ok embedding) : backend.embedded [text] = [text] := by
  rw [EmbeddingService.embedded, List.takeWhile_cons, answered]
  rfl

theorem embedded_error {text : String} {e : PyError} (raised : backend.plain text = .error e) :
    backend.embedded [text] = [] := by
  rw [EmbeddingService.embedded, List.takeWhile_cons, raised]
  rfl

theorem missed_singleton (backend : EmbeddingService) (n : Nat) (used : List String)
    (text : String) :
    backend.missed n used [text] = if text ∈ recent n used then [] else [text] := by
  simp only [EmbeddingService.missed, ite_self, List.append_nil]

/-- A text that is found goes behind the others. -/
theorem HoldsRecent.hit (holds : HoldsRecent backend n used service) {text : String}
    (apart : Set.InjOn cacheKey {t | t ∈ text :: used}) (held : text ∈ recent n used) :
    HoldsRecent backend n (used ++ [text])
      { service with cache := service.cache.moveToEnd (cacheKey text) } where
  answer := holds.answer
  dimension := holds.dimension
  bound := holds.bound
  keys := by
    have listed : cacheKey text ∈ service.cache.keys := by
      rw [holds.keys]
      exact List.mem_map_of_mem held
    have among : Set.InjOn cacheKey {t | t ∈ text :: recent n used} := by
      refine apart.mono fun t member => ?_
      rcases List.mem_cons.mp member with rfl | member
      · exact List.mem_cons_self
      · exact List.mem_cons_of_mem text (mem_of_mem_recent member)
    have fits : (recent n used).length ≤ n := by
      rw [length_recent]
      exact Nat.min_le_left _ _
    rw [Dict.keys_moveToEnd listed, holds.keys, recent_concat, use_held held fits, List.map_append,
      map_erase_of_injOn among, List.map_singleton]
  values t member := by
    rw [Dict.get?_moveToEnd]
    rw [recent_concat] at member
    rcases mem_of_mem_use member with before | rfl
    · exact holds.values t before
    · exact holds.values t held

/-- A text that is not found is stored last, and the oldest rows go that do not fit. -/
theorem HoldsRecent.store (holds : HoldsRecent backend n used service) {text : String}
    (apart : Set.InjOn cacheKey {t | t ∈ text :: used}) (absent : text ∉ recent n used)
    {embedding : NdArray} (answered : backend.plain text = .ok embedding) :
    HoldsRecent backend n (used ++ [text])
      (evictIfNeeded { asked text service with
        cache := service.cache.set (cacheKey text) embedding }) := by
  have unlisted : cacheKey text ∉ service.cache.keys := by
    rw [Dict.mem_keys_iff, (holds.miss apart).mpr absent]
    exact Bool.false_ne_true
  have keys : ((service.cache.set (cacheKey text) embedding).keepNewest n).keys =
      (recent n (used ++ [text])).map cacheKey := by
    rw [Dict.keys_keepNewest, Dict.keys_set, if_neg unlisted, holds.keys, recent_concat,
      use_new absent, appendRecent, List.rtake, List.rtake, List.map_drop, List.map_append,
      List.length_append, List.length_append, List.length_map, List.map_singleton]
    rfl
  refine ⟨holds.answer, holds.dimension, holds.bound, ?_, fun t member => ?_⟩
  · change ((service.cache.set _ _).keepNewest service.maxCacheSize.toNat).keys = _
    rw [holds.bound]
    exact keys
  · change ((service.cache.set _ _).keepNewest service.maxCacheSize.toNat).get? _ = _
    have kept : cacheKey t ∈
        ((service.cache.set (cacheKey text) embedding).keepNewest n).keys := by
      rw [keys]
      exact List.mem_map_of_mem member
    rw [holds.bound, Dict.get?_keepNewest kept, Dict.get?_set]
    rw [recent_concat] at member
    by_cases same : t = text
    · rw [same, if_pos rfl, answered]
      rfl
    · have before := (mem_of_mem_use member).resolve_right same
      rw [if_neg, holds.values t before]
      intro equal
      exact same (apart (List.mem_cons_of_mem text (mem_of_mem_recent before)) List.mem_cons_self
        equal.symm)

/-- What one embedding answers, leaves behind and asks the backend for. -/
theorem HoldsRecent.embed (holds : HoldsRecent backend n used service) {text : String}
    (apart : Set.InjOn cacheKey {t | t ∈ text :: used}) :
    EStateResult.outcome (embed text service) = backend.plain text ∧
      HoldsRecent backend n (used ++ backend.embedded [text])
        (EStateResult.state (embed text service)) ∧
      (EStateResult.state (embed text service)).backend.calls =
        service.backend.calls ++ backend.missed n used [text] := by
  rw [missed_singleton]
  by_cases held : text ∈ recent n used
  · obtain ⟨cached, found⟩ := Option.ne_none_iff_exists'.mp
      fun absent => (holds.miss apart).mp absent held
    have answered : backend.plain text = .ok cached := by
      have value := holds.values text held
      rw [found] at value
      cases plain : backend.plain text with
      | error e => rw [plain] at value; cases value
      | ok embedding => rw [plain] at value; cases value; rfl
    rw [embed_hit found, embedded_ok answered, if_pos held, List.append_nil]
    exact ⟨answered.symm, holds.hit apart held, rfl⟩
  · rw [embed_miss ((holds.miss apart).mpr held), if_neg held, holds.answer]
    cases replied : backend.answer text with
    | error e =>
        have raised : backend.plain text = .error e := by
          rw [EmbeddingService.plain, replied]
          rfl
        rw [embedded_error raised, List.append_nil]
        exact ⟨raised.symm, ⟨holds.answer, holds.dimension, holds.bound, holds.keys,
          holds.values⟩, rfl⟩
    | ok embedding =>
        have answered : backend.plain text = .ok embedding.astypeFloat32 := by
          rw [EmbeddingService.plain, replied]
          rfl
        rw [embedded_ok answered]
        exact ⟨answered.symm, holds.store apart held answered, rfl⟩

/-- What the embeddings of a batch answer, leave behind and ask the backend for. -/
theorem HoldsRecent.mapM (holds : HoldsRecent backend n used service) {texts : List String}
    (apart : Set.InjOn cacheKey {t | t ∈ texts ++ used}) :
    EStateResult.outcome (texts.mapM CachedEmbeddingService.embed service) =
        texts.mapM backend.plain ∧
      HoldsRecent backend n (used ++ backend.embedded texts)
        (EStateResult.state (texts.mapM CachedEmbeddingService.embed service)) ∧
      (EStateResult.state (texts.mapM CachedEmbeddingService.embed service)).backend.calls =
        service.backend.calls ++ backend.missed n used texts := by
  induction texts generalizing used service with
  | nil =>
      rw [List.mapM_nil, List.mapM_nil, EmbeddingService.embedded, List.takeWhile_nil,
        EmbeddingService.missed, List.append_nil, List.append_nil]
      exact ⟨rfl, holds, rfl⟩
  | cons text rest ih =>
      have one := holds.embed (apart.mono fun t member => by
        rcases List.mem_cons.mp member with rfl | member
        · exact List.mem_append_left used List.mem_cons_self
        · exact List.mem_append_right _ member)
      rw [missed_singleton] at one
      rw [List.mapM_cons, List.mapM_cons, bind_run, EmbeddingService.embedded, List.takeWhile_cons,
        EmbeddingService.missed]
      cases replied : CachedEmbeddingService.embed text service with
      | error e s =>
          rw [replied] at one
          obtain ⟨answer, left, calls⟩ := one
          rw [embedded_error answer.symm, List.append_nil] at left
          rw [← answer]
          refine ⟨rfl, ?_, ?_⟩
          · change HoldsRecent backend n (used ++ []) s
            rw [List.append_nil]
            exact left
          · change s.backend.calls = service.backend.calls ++ (_ ++ [])
            rw [List.append_nil]
            exact calls
      | ok embedding s =>
          rw [replied] at one
          obtain ⟨answer, left, calls⟩ := one
          rw [embedded_ok answer.symm] at left
          obtain ⟨answers, after, asked⟩ := @ih _ s left (apart.mono fun t member => by
            simp only [List.mem_append, List.mem_cons, List.not_mem_nil, or_false,
              Set.mem_ofPred_eq] at member ⊢
            tauto)
          have okay : (backend.plain text).isOk = true := by
            rw [← answer]
            rfl
          rw [if_pos okay, if_pos okay, ← answer]
          simp only [EStateResult.state_wrapped, EStateResult.outcome_wrapped, answers, asked]
          refine ⟨rfl, ?_, ?_⟩
          · rw [EmbeddingService.embedded, List.append_assoc] at after
            exact after
          · rw [← List.append_assoc, ← calls]
            rfl

/-- What is answered was cast. -/
theorem exists_cast {text : String} {embedding : NdArray}
    (answered : backend.plain text = .ok embedding) :
    ∃ array : NdArray, embedding = array.astypeFloat32 := by
  rw [EmbeddingService.plain] at answered
  cases replied : backend.answer text with
  | error e => rw [replied] at answered; cases answered
  | ok array =>
      rw [replied] at answered
      cases answered
      exact ⟨array, rfl⟩

/-- A batch answers what the backend answers for its texts. -/
theorem HoldsRecent.embedBatch (holds : HoldsRecent backend n used service)
    (rounded : ∀ x, PyRuntime.float32 (PyRuntime.float32 x) = PyRuntime.float32 x)
    {texts : List String} (apart : Set.InjOn cacheKey {t | t ∈ texts ++ used}) :
    EStateResult.outcome (embedBatch texts service) = backend.plainBatch texts ∧
      HoldsRecent backend n (used ++ backend.embedded texts)
        (EStateResult.state (embedBatch texts service)) ∧
      (EStateResult.state (embedBatch texts service)).backend.calls =
        service.backend.calls ++ backend.missed n used texts := by
  cases texts with
  | nil =>
      have embedded : used ++ backend.embedded [] = used := List.append_nil used
      have missed : backend.missed n used [] = [] := rfl
      rw [embedded, missed, List.append_nil]
      rw [embedBatch_nil, holds.dimension, EmbeddingService.plainBatch, List.isEmpty_nil,
        if_pos rfl]
      cases NdArray.emptyRows backend.dimension <;> exact ⟨rfl, holds, rfl⟩
  | cons text rest =>
      obtain ⟨answers, left, calls⟩ := holds.mapM apart
      have plain : backend.plainBatch (text :: rest) =
          (text :: rest).mapM backend.plain >>= NdArray.stack := rfl
      rw [embedBatch_cons, plain, bind_run, ← answers]
      cases replied : (text :: rest).mapM CachedEmbeddingService.embed service with
      | error e s =>
          rw [replied] at left calls
          exact ⟨rfl, left, calls⟩
      | ok embeddings s =>
          rw [replied] at answers left calls
          have cast : ∀ row ∈ embeddings, row.astypeFloat32 = row := by
            intro row member
            obtain ⟨text, -, answered⟩ := (mem_mapM_iff answers.symm).mp member
            obtain ⟨array, rfl⟩ := exists_cast answered
            exact array.astypeFloat32_twice rounded
          simp only [NdArray.astypeFloat32_stack cast]
          cases stacked : NdArray.stack embeddings <;> exact ⟨stacked.symm, left, calls⟩

/-- What one call answers, leaves behind and asks the backend for. -/
theorem HoldsRecent.exec (holds : HoldsRecent backend n used service)
    (rounded : ∀ x, PyRuntime.float32 (PyRuntime.float32 x) = PyRuntime.float32 x)
    {c : EmbeddingCall} (apart : Set.InjOn cacheKey {t | t ∈ c.texts ++ used}) :
    EStateResult.outcome (exec c service) = backend.plainAnswer c ∧
      HoldsRecent backend n (backend.usedAfter used c) (EStateResult.state (exec c service)) ∧
      (EStateResult.state (exec c service)).backend.calls =
        service.backend.calls ++ backend.missed n used c.texts := by
  cases c with
  | embed text =>
      obtain ⟨answer, left, calls⟩ := holds.embed apart
      rw [CachedEmbeddingService.exec, EStateResult.outcome_map, EStateResult.state_map, answer]
      exact ⟨rfl, left, calls⟩
  | embedBatch texts =>
      obtain ⟨answer, left, calls⟩ := @HoldsRecent.embedBatch _ _ _ _ _ holds rounded texts apart
      rw [CachedEmbeddingService.exec, EStateResult.outcome_map, EStateResult.state_map, answer]
      exact ⟨rfl, left, calls⟩
  | clearCache =>
      refine ⟨rfl, ⟨holds.answer, holds.dimension, holds.bound, ?_, ?_⟩, ?_⟩
      · rw [EmbeddingService.usedAfter, recent_nil]
        rfl
      · intro text held
        rw [EmbeddingService.usedAfter, recent_nil] at held
        cases held
      · exact (List.append_nil _).symm

/-- The rows of a batch are the embeddings of its texts. -/
theorem plainBatch_row {texts : List String} {array : NdArray}
    (answered : backend.plainBatch texts = .ok array) {i : Nat} {text : String}
    (here : texts[i]? = some text) : array.row? i = (backend.plain text).toOption := by
  cases texts with
  | nil => cases here
  | cons first rest =>
      obtain ⟨rows, plain, stacked⟩ := bind_eq_ok.mp (show
        (first :: rest).mapM backend.plain >>= NdArray.stack = .ok array from answered)
      have sizes : ∀ row ∈ rows, row.itemsize = 4 := by
        intro row member
        obtain ⟨text, -, answered⟩ := (mem_mapM_iff plain).mp member
        obtain ⟨array, rfl⟩ := exists_cast answered
        rfl
      obtain ⟨row, found, answered⟩ := (mapM_returned plain).2 i text here
      obtain ⟨inside, -⟩ := List.getElem?_eq_some_iff.mp found
      rw [NdArray.row?_stack stacked sizes inside, found, answered]
      rfl

theorem mem_usedAfter {c : EmbeddingCall} {text : String}
    (member : text ∈ backend.usedAfter used c) : text ∈ c.texts ∨ text ∈ used := by
  have embedded : text ∈ used ++ backend.embedded c.texts → text ∈ c.texts ∨ text ∈ used := by
    intro member
    rcases List.mem_append.mp member with before | now
    · exact Or.inr before
    · exact Or.inl ((List.takeWhile_prefix _).mem now)
  cases c with
  | clearCache => cases member
  | embed text => exact embedded member
  | embedBatch texts => exact embedded member

/-- What a history leaves behind. -/
theorem HoldsRecent.drive (holds : HoldsRecent backend n used service)
    (rounded : ∀ x, PyRuntime.float32 (PyRuntime.float32 x) = PyRuntime.float32 x)
    {calls : List EmbeddingCall}
    (apart : Set.InjOn cacheKey {t | t ∈ used ∨ ∃ c ∈ calls, t ∈ c.texts}) :
    HoldsRecent backend n (calls.foldl backend.usedAfter used)
        (drive CachedEmbeddingService.exec service calls) ∧
      ∀ t ∈ calls.foldl backend.usedAfter used, t ∈ used ∨ ∃ c ∈ calls, t ∈ c.texts := by
  induction calls generalizing used service with
  | nil => exact ⟨holds, fun t member => Or.inl member⟩
  | cons c rest ih =>
      have later : ∀ t, (t ∈ backend.usedAfter used c ∨ ∃ c' ∈ rest, t ∈ c'.texts) →
          t ∈ used ∨ ∃ c' ∈ c :: rest, t ∈ c'.texts := by
        rintro t (member | ⟨c', among, about⟩)
        · rcases mem_usedAfter member with now | before
          · exact Or.inr ⟨c, List.mem_cons_self, now⟩
          · exact Or.inl before
        · exact Or.inr ⟨c', List.mem_cons_of_mem c among, about⟩
      have step := (holds.exec rounded (apart.mono fun t member => by
        rcases List.mem_append.mp member with now | before
        · exact Or.inr ⟨c, List.mem_cons_self, now⟩
        · exact Or.inl before)).2.1
      obtain ⟨left, among⟩ := ih step (apart.mono later)
      exact ⟨left, fun t member => later t (among t member)⟩

end CachedEmbeddingService

open CachedEmbeddingService EmbeddingService in
/-- After every history of calls the cache holds no more texts than it may, and exactly the
    texts embedded last, in their order. Every call answers what the backend answers, cast to
    float32, and asks it for the texts only that are not held. -/
theorem cached_embedding_transparent [PyRuntime]
    (rounded : ∀ x, PyRuntime.float32 (PyRuntime.float32 x) = PyRuntime.float32 x)
    {backend : EmbeddingService} {maxCacheSize : Int} {service : CachedEmbeddingService}
    (built : CachedEmbeddingService.new backend maxCacheSize = .ok service)
    (calls : List EmbeddingCall) (c : EmbeddingCall)
    (apart : Set.InjOn cacheKey {text | ∃ c' ∈ calls ++ [c], text ∈ c'.texts}) :
    let self := drive CachedEmbeddingService.exec service calls
    let held := recent maxCacheSize.toNat (backend.used calls)
    (self.cacheStats.size : Int) ≤ maxCacheSize ∧
      self.cache.keys = held.map cacheKey ∧
      (∀ text ∈ held, self.cache.get? (cacheKey text) = (backend.plain text).toOption) ∧
      EStateResult.outcome (CachedEmbeddingService.exec c self) = backend.plainAnswer c ∧
      (∀ texts array, c = .embedBatch texts →
        EStateResult.outcome (CachedEmbeddingService.exec c self) = .ok (some array) →
        ∀ i text, texts[i]? = some text → array.row? i = (backend.plain text).toOption) ∧
      (EStateResult.state (CachedEmbeddingService.exec c self)).backend.calls =
        self.backend.calls ++ backend.missed maxCacheSize.toNat (backend.used calls) c.texts := by
  intro self held
  obtain ⟨wrong, built⟩ := check_passed built
  cases built
  have fresh : HoldsRecent backend maxCacheSize.toNat []
      ⟨backend, maxCacheSize, .empty, Int.not_le.mp wrong⟩ :=
    ⟨rfl, rfl, rfl, by rw [recent_nil]; rfl, fun text member => by
      rw [recent_nil] at member
      cases member⟩
  obtain ⟨left, among⟩ := fresh.drive rounded (apart.mono (by
    rintro t (member | ⟨c', before, about⟩)
    · cases member
    · exact ⟨c', List.mem_append_left _ before, about⟩))
  obtain ⟨answer, -, asked⟩ := left.exec rounded (apart.mono (by
    intro t member
    rcases List.mem_append.mp member with now | before
    · exact ⟨c, List.mem_append_right _ List.mem_cons_self, now⟩
    · obtain ⟨c', listed, about⟩ := (among t before).resolve_left List.not_mem_nil
      exact ⟨c', List.mem_append_left _ listed, about⟩))
  refine ⟨?_, left.keys, left.values, answer, ?_, asked⟩
  · change ((self.cache.size : Nat) : Int) ≤ maxCacheSize
    have size : self.cache.size = (recent maxCacheSize.toNat (backend.used calls)).length := by
      rw [← Dict.length_keys, left.keys, List.length_map]
      rfl
    rw [size, length_recent]
    omega
  · rintro texts array rfl batch i text here
    rw [answer] at batch
    change some <$> backend.plainBatch texts = .ok (some array) at batch
    cases plain : backend.plainBatch texts with
    | error e => rw [plain] at batch; cases batch
    | ok rows =>
        rw [plain] at batch
        cases batch
        exact plainBatch_row plain here

section

open Reference CachedEmbeddingService

/-- Three numbers after the first letter, as the backend of the tests answers. -/
private def letters : EmbeddingService where
  answer text :=
    let value : Rat := (text.toList.foldl (fun n c => n + c.toNat) 0 % 100 : Nat)
    .ok ⟨4, [3], [value, value + 1, value + 2], rfl⟩
  dimension := 3

private def fourTexts : List EmbeddingCall := [.embed "a", .embed "b", .embed "a", .embed "c"]

/-- In a cache of two the third text drops the second, not the first one. -/
theorem cached_embedding_transparent_evicted :
    ∃ service, CachedEmbeddingService.new letters 2 = .ok service ∧
      (drive CachedEmbeddingService.exec service fourTexts).cache.keys =
        ["a", "c"].map cacheKey ∧
      (EStateResult.state (CachedEmbeddingService.exec (.embed "b")
        (drive CachedEmbeddingService.exec service fourTexts))).backend.calls =
          (drive CachedEmbeddingService.exec service fourTexts).backend.calls ++ ["b"] := by
  have among : ∀ text, (∃ c' ∈ fourTexts ++ [.embed "b"], text ∈ c'.texts) →
      text ∈ ["a", "b", "c"] := by
    rintro text ⟨c', member, about⟩
    simp only [fourTexts, List.cons_append, List.nil_append, List.mem_cons, List.not_mem_nil,
      or_false] at member
    rcases member with rfl | rfl | rfl | rfl | rfl <;>
      · simp only [EmbeddingCall.texts, List.mem_singleton] at about
        subst about
        decide
  have apart : ∀ t ∈ ["a", "b", "c"], ∀ u ∈ ["a", "b", "c"], cacheKey t = cacheKey u → t = u := by
    decide +kernel
  obtain ⟨-, keys, -, -, -, asked⟩ := cached_embedding_transparent (fun _ => rfl)
    (show CachedEmbeddingService.new letters 2 = .ok _ from rfl) fourTexts (.embed "b")
    fun t about u about' => apart t (among t about) u (among u about')
  have held : LeastRecent.recent 2 (letters.used fourTexts) = ["a", "c"] := by decide +kernel
  have missed : letters.missed 2 (letters.used fourTexts) ["b"] = ["b"] := by decide +kernel
  exact ⟨_, rfl, keys.trans (congrArg _ held), asked.trans (congrArg _ missed)⟩

end

end IntelliL3
