import IntelliL3.Core.Reference
import IntelliL3.Lib.TwoKeys

/-! # Interleaved pair calls

`put_kv_block`, `get_kv_block` and `delete_kv_block` on one id, as the messages
they send to a shared backend. The text of the pair operations is the store's
own, run as programs whose messages a scheduler delivers one at a time.
-/

namespace IntelliL3

open Lib TwoKeys

/-! ## Messages -/

/-- A request to a backend. -/
inductive Command (Bytes : Type) where
  | put (key : String) (data : Bytes)
  | get (key : String)
  | delete (key : String)
  | existsKey (key : String)
  | listKeys (p : String)

def Command.Reply {Bytes : Type} : Command Bytes → Type
  | .put _ _ => Unit
  | .get _ => Option Bytes
  | .delete _ | .existsKey _ => Bool
  | .listKeys _ => List String

/-- A program that talks to a backend. -/
abbrev Client (Bytes : Type) := Proc (Command Bytes) Command.Reply PyError

instance {Bytes : Type} : StorageBackend (Client Bytes) Bytes where
  put key data := Proc.send (Command.put key data)
  get key := Proc.send (Command.get key)
  delete key := Proc.send (Command.delete key)
  existsKey key := Proc.send (Command.existsKey key)
  listKeys p := Proc.send (Command.listKeys p)

/-- The in-memory backend answers each request at once and never fails. -/
def Command.serve {Bytes : Type} :
    (c : Command Bytes) → EStateM PyError (MemoryBackend Bytes) c.Reply
  | .put key data => StorageBackend.put key data
  | .get key => StorageBackend.get key
  | .delete key => StorageBackend.delete key
  | .existsKey key => StorageBackend.existsKey key
  | .listKeys p => StorageBackend.listKeys p

section

variable {Bytes : Type}

/-! Delivered without interruption, the messages of a pair operation are the operation
of the store on its backend. -/

theorem run_putPair (metaKey : String) (metaBytes : Bytes) (dataKey : String)
    (dataBytes : Bytes) :
    Proc.run Command.serve (putPair metaKey metaBytes dataKey dataBytes) =
      putPair metaKey metaBytes dataKey dataBytes := by
  simp only [putPair, Proc.run_bind, Proc.run_tryCatch]
  rfl

private theorem run_get (key : String) :
    Proc.run Command.serve (StorageBackend.get key : Client Bytes _) = StorageBackend.get key :=
  Proc.run_send Command.serve (.get key)

theorem run_getPair (metaKey dataKey : String) :
    Proc.run Command.serve (getPair metaKey dataKey : Client Bytes _) =
      getPair metaKey dataKey := by
  rw [getPair, getPair, Proc.run_bind, run_get]
  congr 1
  funext found
  cases found with
  | none => rfl
  | some metaData =>
      simp only [Proc.run_bind, run_get]
      congr 1
      funext found
      cases found <;> rfl

private theorem run_delete (key : String) :
    Proc.run Command.serve (StorageBackend.delete key : Client Bytes _) =
      StorageBackend.delete key :=
  Proc.run_send Command.serve (.delete key)

theorem run_deletePair (p objectId dataExt : String) :
    Proc.run Command.serve (deletePair p objectId dataExt : Client Bytes _) =
      deletePair p objectId dataExt := by
  rw [deletePair, deletePair, Proc.run_bind]
  congr 1
  refine (Proc.run_foldlM _ _ _ _).trans ?_
  refine congrArg (fun f => List.foldlM f 0 _) (funext fun count => funext fun key => ?_)
  refine (Proc.run_bind Command.serve (StorageBackend.delete key : Client Bytes Bool)
    fun existed => if existed then pure (count + 1) else pure count).trans ?_
  rw [run_delete]
  refine congrArg (fun next => StorageBackend.delete key >>= next) (funext fun existed => ?_)
  cases existed <;> rfl

end

/-! ## Calls on one block -/

/-- A block as `get_kv_block` returns it. -/
abbrev KvValue : Type := KVCacheBlock × NdArray × NdArray

/-- A call on one id. The client's own Bloom filter has answered before a `get` sends
    anything. -/
inductive KvCall (objectId : String) where
  | put (block : KVCacheBlock) (keyStates valueStates : NdArray)
      (about : block.objMeta.objectId = objectId)
  | get (mightExist : Bool) (now : Rat)
  | delete

inductive KvReply where
  | stored (objectId : String)
  | found (value : Option KvValue)
  | deleted (existed : Bool)

namespace KvCall

variable {objectId : String} {Bytes : Type} [PyRuntime]

/-- What a put writes; a block that cannot be stamped is not written. -/
def written : KvCall objectId → Option KvValue
  | .put block keyStates valueStates _ =>
      match block.stamp keyStates valueStates with
      | .ok stamped => some (stamped, keyStates, valueStates)
      | .error _ => none
  | .get _ _ | .delete => none

/-- A put that writes nothing sends no message, like a `get` that is not let through. -/
def kind (c : KvCall objectId) : Kind :=
  match c with
  | .put .. => if c.written.isSome then .put else .get
  | .get .. => .get
  | .delete => .delete

theorem kind_put_iff (c : KvCall objectId) : c.kind = .put ↔ ∃ w, c.written = some w := by
  rw [← Option.isSome_iff_exists]
  cases c with
  | put block key value about =>
      simp only [kind]
      cases (KvCall.put block key value about).written <;> simp
  | get => simp [kind, written]
  | delete => simp [kind, written]

variable [Serializer Bytes]

def decoded (now : Rat) (metaData data : Bytes) : Client Bytes KvReply := do
  let block ← Proc.done (Serializer.deserializeKvBlockMeta metaData)
  let tensors ← Proc.done (Serializer.deserializeKvTensors data)
  return .found (some ({ block with objMeta := block.objMeta.touch now }, tensors))

def program (p : String) : KvCall objectId → Client Bytes KvReply
  | .put block keyStates valueStates _ => do
      let objId := block.objMeta.objectId
      let block ← Proc.done (block.stamp keyStates valueStates)
      putPair (metaKey p objId) (Serializer.serializeKvBlockMeta block)
        (dataKey p objId "data.npz") (Serializer.serializeKvTensors keyStates valueStates)
      return .stored objId
  | .get mightExist now =>
      if mightExist then do
        match ← getPair (metaKey p objectId) (dataKey p objectId "data.npz") with
        | none => return .found none
        | some pair => decoded now pair.1 pair.2
      else return .found none
  | .delete => do return .deleted (← deletePair p objectId "data.npz")

/-- A call that has had the reply to its first message, and waits to send the second. -/
def Half (p : String) (c : KvCall objectId) (read : Option Bytes) (t : Client Bytes KvReply) :
    Prop :=
  match c with
  | .put .. => ∃ w next, c.written = some w ∧
      t = .call (.put (dataKey p objectId "data.npz")
        (Serializer.serializeKvTensors w.2.1 w.2.2)) next ∧
      next (.ok ()) = .done (.ok (.stored objectId))
  | .get _ now => ∃ metaData next, read = some metaData ∧
      t = .call (.get (dataKey p objectId "data.npz")) next ∧
      next (.ok none) = .done (.ok (.found none)) ∧
      ∀ data, next (.ok (some data)) = decoded now metaData data
  | .delete => ∃ next, t = .call (.delete (dataKey p objectId "data.npz")) next ∧
      ∀ existed, ∃ answer, next (.ok existed) = .done (.ok (.deleted answer))

variable (Bytes) in
theorem put_program (p : String) {c : KvCall objectId} {w : KvValue}
    (written : c.written = some w) :
    ∃ next, (c.program p : Client Bytes KvReply) =
        .call (.put (metaKey p objectId) (Serializer.serializeKvBlockMeta w.1)) next ∧
      Half p c none (next (.ok ())) := by
  cases c with
  | get | delete => cases written
  | put block key value about =>
      have stamped_w := written
      simp only [KvCall.written] at stamped_w
      cases stamping : block.stamp key value with
      | error e => rw [stamping] at stamped_w; cases stamped_w
      | ok stamped =>
          rw [stamping] at stamped_w
          cases stamped_w
          simp only [program, stamping, about]
          exact ⟨_, rfl, (stamped, key, value), _, written, rfl, rfl⟩

variable (Bytes) in
theorem unwritten_program (p : String) {block : KVCacheBlock} {key value : NdArray}
    {about : block.objMeta.objectId = objectId}
    (unwritten : (KvCall.put block key value about).written = none) :
    ∃ e, ((KvCall.put block key value about).program p : Client Bytes KvReply) =
      .done (.error e) := by
  cases stamping : block.stamp key value with
  | error e =>
      simp only [program, stamping]
      exact ⟨e, rfl⟩
  | ok stamped => simp [written, stamping] at unwritten

variable (Bytes objectId) in
theorem get_program (p : String) (now : Rat) :
    ∃ next, (program p (.get true now : KvCall objectId) : Client Bytes KvReply) =
        .call (.get (metaKey p objectId)) next ∧
      next (.ok none) = .done (.ok (.found none)) ∧
      ∀ metaData, Half p (.get true now : KvCall objectId) (some metaData)
        (next (.ok (some metaData))) :=
  ⟨_, rfl, rfl, fun metaData => ⟨metaData, _, rfl, rfl, rfl, fun _ => rfl⟩⟩

variable (Bytes objectId) in
theorem delete_program (p : String) :
    ∃ next, (program p (.delete : KvCall objectId) : Client Bytes KvReply) =
        .call (.delete (metaKey p objectId)) next ∧
      ∀ existed, Half p (.delete : KvCall objectId) none (next (.ok existed)) := by
  refine ⟨_, rfl, fun existed => ?_⟩
  cases existed with
  | true => exact ⟨_, rfl, fun again => by cases again <;> exact ⟨_, rfl⟩⟩
  | false => exact ⟨_, rfl, fun again => by cases again <;> exact ⟨_, rfl⟩⟩

theorem Half.running {p : String} {c : KvCall objectId} {read : Option Bytes}
    {t : Client Bytes KvReply} (half : Half p c read t) : t.finished = false := by
  cases c with
  | put =>
      obtain ⟨_, _, _, rfl, _⟩ := half
      rfl
  | get =>
      obtain ⟨_, _, _, rfl, _⟩ := half
      rfl
  | delete =>
      obtain ⟨_, rfl, _⟩ := half
      rfl

end KvCall

/-! ## The two keys of a block -/

section

variable {ι Bytes : Type} [DecidableEq ι] [PyRuntime] [Serializer Bytes] {objectId : String}

abbrev KvPool (ι Bytes : Type) : Type :=
  Pool ι (MemoryBackend Bytes) (Command Bytes) Command.Reply PyError KvReply

/-- The value one put wrote, as a `get` at a later time returns it. -/
def touchedBy (c : KvCall objectId) (block : KVCacheBlock) (tensors : NdArray × NdArray) :
    KvValue :=
  match c with
  | .get _ now => ({ block with objMeta := block.objMeta.touch now }, tensors)
  | .put .. | .delete => (block, tensors)

/-- A thread whose call stands at that point of the two-key protocol. -/
def Stands (p : String) (calls : ι → KvCall objectId) (i : ι) (thread : Client Bytes KvReply) :
    Phase ι → Prop
  | .fresh => thread = (calls i).program p
  | .underWay read => (calls i).Half p
      ((read.bind fun x => (calls x).written).map fun w => Serializer.serializeKvBlockMeta w.1)
      thread
  | .finished answer => ∃ outcome, thread = .done outcome ∧
      ∀ value, outcome = .ok (.found (some value)) → ∃ x y w v, answer = some (x, y) ∧
        (calls x).written = some w ∧ (calls y).written = some v ∧
        value = touchedBy (calls i) w.1 v.2

/-- The pool of messages runs the two-key protocol. -/
structure Simulates (p : String) (calls : ι → KvCall objectId) (pool : KvPool ι Bytes)
    (s : TwoKeys.State ι) : Prop where
  underWay : pool.underWay = s.underWay
  first : pool.state.get (metaKey p objectId) =
    (s.first.bind fun x => (calls x).written).map fun w => Serializer.serializeKvBlockMeta w.1
  second : pool.state.get (dataKey p objectId "data.npz") =
    (s.second.bind fun x => (calls x).written).map fun w =>
      Serializer.serializeKvTensors w.2.1 w.2.2
  stands : ∀ i, Stands p calls i (pool.threads i) (s.phase i)

namespace Simulates

variable {p : String} {calls : ι → KvCall objectId} {pool : KvPool ι Bytes} {s : TwoKeys.State ι}

omit [DecidableEq ι] in
theorem initial {b : MemoryBackend Bytes} (noMeta : b.get (metaKey p objectId) = none)
    (noData : b.get (dataKey p objectId "data.npz") = none) :
    Simulates p calls { state := b, threads := fun i => (calls i).program p, underWay := [] }
      State.initial :=
  ⟨rfl, noMeta, noData, fun _ => rfl⟩

/-- Changing one thread and its phase keeps the others where they stand. -/
theorem update (simulates : Simulates p calls pool s) {i : ι} {thread : Client Bytes KvReply}
    {phase : Phase ι} (stands : Stands p calls i thread phase) (j : ι) :
    Stands p calls j (Function.update pool.threads i thread j)
      (Function.update s.phase i phase j) := by
  by_cases here : j = i
  · subst here
    rw [Function.update_self, Function.update_self]
    exact stands
  · rw [Function.update_of_ne here, Function.update_of_ne here]
    exact simulates.stands j

theorem started (simulates : Simulates p calls pool s) {i : ι} {c : Command Bytes}
    {next : Except PyError c.Reply → Client Bytes KvReply} {a : c.Reply}
    {state : MemoryBackend Bytes} {first read : Option ι} {pool' : KvPool ι Bytes}
    (thread : pool.threads i = .call c next)
    (served : Command.serve c pool.state = .ok a state)
    (firstKey : state.get (metaKey p objectId) =
      (first.bind fun x => (calls x).written).map fun w => Serializer.serializeKvBlockMeta w.1)
    (secondKey : state.get (dataKey p objectId "data.npz") =
      pool.state.get (dataKey p objectId "data.npz"))
    (stands : Stands p calls i (next (.ok a)) (.underWay read))
    (delivered : pool.deliver Command.serve i = some pool') :
    Simulates p calls pool' ({ s with first }.start i read) := by
  rw [Pool.deliver_call thread served] at delivered
  cases delivered
  refine ⟨?_, firstKey, secondKey.trans simulates.second, simulates.update stands⟩
  rw [KvCall.Half.running stands, simulates.underWay]
  rfl

theorem ended (simulates : Simulates p calls pool s) {i : ι} {c : Command Bytes}
    {next : Except PyError c.Reply → Client Bytes KvReply} {a : c.Reply}
    {state : MemoryBackend Bytes} {second : Option ι} {answer : Option (ι × ι)}
    {pool' : KvPool ι Bytes}
    (thread : pool.threads i = .call c next)
    (served : Command.serve c pool.state = .ok a state)
    (firstKey : state.get (metaKey p objectId) = pool.state.get (metaKey p objectId))
    (secondKey : state.get (dataKey p objectId "data.npz") =
      (second.bind fun x => (calls x).written).map fun w =>
        Serializer.serializeKvTensors w.2.1 w.2.2)
    (stands : Stands p calls i (next (.ok a)) (.finished answer))
    (delivered : pool.deliver Command.serve i = some pool') :
    Simulates p calls pool' ({ s with second }.finish i answer) := by
  rw [Pool.deliver_call thread served] at delivered
  cases delivered
  refine ⟨?_, firstKey.trans simulates.first, secondKey, simulates.update stands⟩
  obtain ⟨outcome, done, -⟩ := stands
  rw [done, simulates.underWay]
  rfl

theorem fresh_put (simulates : Simulates p calls pool s) {i : ι} {w : KvValue}
    {pool' : KvPool ι Bytes} (thread : pool.threads i = (calls i).program p)
    (wrote : (calls i).written = some w)
    (delivered : pool.deliver Command.serve i = some pool') :
    Simulates p calls pool' ({ s with first := some i }.start i none) := by
  have apart : metaKey p objectId ≠ dataKey p objectId "data.npz" :=
    metaKey_ne_dataKey (X := .kvCache) rfl p objectId p objectId
  obtain ⟨next, program, half⟩ := KvCall.put_program Bytes p wrote
  refine simulates.started (thread.trans program) rfl ?_ ?_ half delivered
  · rw [MemoryBackend.get_put, if_pos rfl, Option.bind_some, wrote, Option.map_some]
  · rw [MemoryBackend.get_put, if_neg apart]

theorem fresh_delete (simulates : Simulates p calls pool s) {i : ι} {pool' : KvPool ι Bytes}
    (thread : pool.threads i = (calls i).program p) (call : calls i = .delete)
    (delivered : pool.deliver Command.serve i = some pool') :
    Simulates p calls pool' ({ s with first := none }.start i none) := by
  have apart : metaKey p objectId ≠ dataKey p objectId "data.npz" :=
    metaKey_ne_dataKey (X := .kvCache) rfl p objectId p objectId
  obtain ⟨next, program, half⟩ := KvCall.delete_program objectId Bytes p
  rw [call, program] at thread
  refine simulates.started thread rfl ?_ ?_ ?_ delivered
  · rw [MemoryBackend.get_delete, if_pos rfl]
    rfl
  · rw [MemoryBackend.get_delete, if_neg apart]
  · rw [Stands, call]
    exact half _

theorem fresh_get (simulates : Simulates p calls pool s) {i : ι} {now : Rat}
    {pool' : KvPool ι Bytes} (puts : ∀ x, s.first = some x → ∃ w, (calls x).written = some w)
    (thread : pool.threads i = (calls i).program p) (call : calls i = .get true now)
    (delivered : pool.deliver Command.serve i = some pool') :
    Simulates p calls pool' (match s.first with
      | none => s.finish i none
      | some writer => s.start i (some writer)) := by
  obtain ⟨next, program, missed, half⟩ :=
    KvCall.get_program objectId Bytes p now
  have firstKey := simulates.first
  rw [call, program] at thread
  cases held : s.first with
  | none =>
      rw [held] at firstKey
      have served : Command.serve (.get (metaKey p objectId)) pool.state =
          .ok none pool.state := congrArg (fun found => EStateM.Result.ok found pool.state) firstKey
      refine simulates.ended thread served rfl simulates.second ⟨_, missed, ?_⟩ delivered
      intro value found
      cases found
  | some x =>
      obtain ⟨w, wrote⟩ := puts x held
      rw [held, Option.bind_some, wrote] at firstKey
      have served : Command.serve (.get (metaKey p objectId)) pool.state =
          .ok (some (Serializer.serializeKvBlockMeta w.1)) pool.state :=
        congrArg (fun found => EStateM.Result.ok found pool.state) firstKey
      refine simulates.started thread served simulates.first rfl ?_ delivered
      rw [Stands, call, Option.bind_some, wrote]
      exact half _

theorem underWay_put (simulates : Simulates p calls pool s) {i : ι} {read : Option ι}
    {block : KVCacheBlock} {key value : NdArray} {about : block.objMeta.objectId = objectId}
    {pool' : KvPool ι Bytes} (call : calls i = .put block key value about)
    (stands : Stands p calls i (pool.threads i) (.underWay read))
    (delivered : pool.deliver Command.serve i = some pool') :
    Simulates p calls pool' ({ s with second := some i }.finish i none) := by
  have apart : metaKey p objectId ≠ dataKey p objectId "data.npz" :=
    metaKey_ne_dataKey (X := .kvCache) rfl p objectId p objectId
  rw [Stands, call] at stands
  obtain ⟨w, next, wrote, thread, finished⟩ := stands
  refine simulates.ended thread rfl ?_ ?_ ⟨_, finished, ?_⟩ delivered
  · rw [MemoryBackend.get_put, if_neg (Ne.symm apart)]
  · rw [MemoryBackend.get_put, if_pos rfl, Option.bind_some, call, wrote, Option.map_some]
  · intro value found
    cases found

theorem underWay_delete (simulates : Simulates p calls pool s) {i : ι} {read : Option ι}
    {pool' : KvPool ι Bytes} (call : calls i = .delete)
    (stands : Stands p calls i (pool.threads i) (.underWay read))
    (delivered : pool.deliver Command.serve i = some pool') :
    Simulates p calls pool' ({ s with second := none }.finish i none) := by
  have apart : metaKey p objectId ≠ dataKey p objectId "data.npz" :=
    metaKey_ne_dataKey (X := .kvCache) rfl p objectId p objectId
  rw [Stands, call] at stands
  obtain ⟨next, thread, finished⟩ := stands
  obtain ⟨answer, done⟩ := finished (pool.state.existsKey (dataKey p objectId "data.npz"))
  refine simulates.ended thread rfl ?_ ?_ ⟨_, done, ?_⟩ delivered
  · rw [MemoryBackend.get_delete, if_neg (Ne.symm apart)]
  · rw [MemoryBackend.get_delete, if_pos rfl]
    rfl
  · intro value found
    cases found

theorem underWay_get [LawfulSerializer Bytes] (simulates : Simulates p calls pool s) {i : ι}
    {read : Option ι} {mightExist : Bool} {now : Rat} {pool' : KvPool ι Bytes}
    (puts : ∀ x, s.second = some x → ∃ w, (calls x).written = some w)
    (reads : ∀ x, read = some x → ∃ w, (calls x).written = some w)
    (call : calls i = .get mightExist now)
    (stands : Stands p calls i (pool.threads i) (.underWay read))
    (delivered : pool.deliver Command.serve i = some pool') :
    Simulates p calls pool' (s.finish i (pairOf read s.second)) := by
  have secondKey := simulates.second
  rw [Stands, call] at stands
  obtain ⟨metaData, next, same, thread, missed, answers⟩ := stands
  obtain ⟨x, rfl⟩ : ∃ x, read = some x := by
    cases read with
    | none => cases same
    | some x => exact ⟨x, rfl⟩
  obtain ⟨w, wrote⟩ := reads x rfl
  rw [Option.bind_some, wrote, Option.map_some, Option.some.injEq] at same
  subst same
  cases held : s.second with
  | none =>
      rw [held] at secondKey
      have served : Command.serve (.get (dataKey p objectId "data.npz")) pool.state =
          .ok none pool.state :=
        congrArg (fun found => EStateM.Result.ok found pool.state) secondKey
      refine simulates.ended thread served rfl simulates.second ⟨_, missed, ?_⟩ delivered
      intro value found
      cases found
  | some y =>
      obtain ⟨v, wrote'⟩ := puts y held
      rw [held, Option.bind_some, wrote'] at secondKey
      have served : Command.serve (.get (dataKey p objectId "data.npz")) pool.state =
          .ok (some (Serializer.serializeKvTensors v.2.1 v.2.2)) pool.state :=
        congrArg (fun found => EStateM.Result.ok found pool.state) secondKey
      have answered : next (.ok (some (Serializer.serializeKvTensors v.2.1 v.2.2))) =
          .done (.ok (.found (some (touchedBy (calls i) w.1 v.2)))) := by
        rw [answers, KvCall.decoded, LawfulSerializer.kvBlockMeta, LawfulSerializer.kvTensors, call]
        rfl
      refine simulates.ended thread served rfl simulates.second ⟨_, answered, ?_⟩ delivered
      intro value found
      cases found
      exact ⟨x, y, w, v, rfl, wrote, wrote', rfl⟩

/-- One message of the pool is one message of the protocol. -/
theorem step [LawfulSerializer Bytes] (simulates : Simulates p calls pool s)
    (written : Written (fun i => (calls i).kind) s) {i : ι} {pool' : KvPool ι Bytes}
    (delivered : pool.deliver Command.serve i = some pool') :
    Simulates p calls pool' (s.step (fun i => (calls i).kind) i) := by
  have wrote : ∀ x, (calls x).kind = .put → ∃ w, (calls x).written = some w := fun x job =>
    (calls x).kind_put_iff.mp job
  have stands := simulates.stands i
  cases phase : s.phase i with
  | finished answer =>
      rw [phase] at stands
      obtain ⟨outcome, done, -⟩ := stands
      rw [Pool.deliver_done done] at delivered
      cases delivered
  | fresh =>
      rw [phase] at stands
      change pool.threads i = (calls i).program p at stands
      cases call : calls i with
      | put block key value about =>
          cases stamping : (calls i).written with
          | none =>
              obtain ⟨e, silent⟩ := KvCall.unwritten_program Bytes p (call ▸ stamping)
              rw [Pool.deliver_done (stands.trans (call ▸ silent))] at delivered
              cases delivered
          | some w =>
              rw [State.step_fresh_put phase ((calls i).kind_put_iff.mpr ⟨w, stamping⟩)]
              exact simulates.fresh_put stands stamping delivered
      | get mightExist now =>
          have job : (calls i).kind = .get := by rw [call, KvCall.kind]
          cases mightExist with
          | false =>
              rw [Pool.deliver_done (stands.trans (congrArg _ call))] at delivered
              cases delivered
          | true =>
              rw [State.step_fresh_get phase job]
              exact simulates.fresh_get (fun x held => wrote x (written.first x held)) stands call
                delivered
      | delete =>
          have job : (calls i).kind = .delete := by rw [call, KvCall.kind]
          rw [State.step_fresh_delete phase job]
          exact simulates.fresh_delete stands call delivered
  | underWay read =>
      rw [phase] at stands
      cases call : calls i with
      | put block key value about =>
          have half := stands
          rw [Stands, call] at half
          obtain ⟨w, -, stamping, -⟩ := half
          rw [State.step_underWay_put phase ((calls i).kind_put_iff.mpr ⟨w, call ▸ stamping⟩)]
          exact simulates.underWay_put call stands delivered
      | get mightExist now =>
          have job : (calls i).kind = .get := by rw [call, KvCall.kind]
          rw [State.step_underWay_get phase job]
          exact simulates.underWay_get (fun x held => wrote x (written.second x held))
            (fun x same => wrote x (written.read i x (same ▸ phase))) call stands delivered
      | delete =>
          have job : (calls i).kind = .delete := by rw [call, KvCall.kind]
          rw [State.step_underWay_delete phase job]
          exact simulates.underWay_delete call stands delivered

end Simulates

omit [DecidableEq ι] in
/-- No call has found a block before it has sent a message. -/
theorem program_not_found (p : String) (c : KvCall objectId) (value : KvValue) :
    (c.program p : Client Bytes KvReply) ≠ .done (.ok (.found (some value))) := by
  intro same
  cases c with
  | put block key value about =>
      cases stamping : (KvCall.put block key value about).written with
      | none =>
          obtain ⟨e, silent⟩ := KvCall.unwritten_program Bytes p stamping
          rw [silent] at same
          cases same
      | some w =>
          obtain ⟨next, program, -⟩ := KvCall.put_program Bytes p stamping
          rw [program] at same
          cases same
  | get mightExist now => cases mightExist <;> cases same
  | delete =>
      obtain ⟨next, program, -⟩ :=
        KvCall.delete_program objectId Bytes p
      rw [program] at same
      cases same

omit [DecidableEq ι] in
/-- A found block names the writers of its two keys. -/
theorem Simulates.found {p : String} {calls : ι → KvCall objectId} {pool : KvPool ι Bytes}
    {s : TwoKeys.State ι} (simulates : Simulates p calls pool s) {i : ι} {value : KvValue}
    (done : pool.threads i = .done (.ok (.found (some value)))) :
    ∃ x y w v, s.phase i = .finished (some (x, y)) ∧ (calls x).written = some w ∧
      (calls y).written = some v ∧ value = touchedBy (calls i) w.1 v.2 := by
  have stands := simulates.stands i
  cases phase : s.phase i with
  | fresh =>
      rw [phase] at stands
      exact absurd (stands.symm.trans done) (program_not_found p _ value)
  | underWay read =>
      rw [phase] at stands
      have running := KvCall.Half.running stands
      rw [done] at running
      cases running
  | finished answer =>
      rw [phase] at stands
      obtain ⟨outcome, finished, found⟩ := stands
      rw [done] at finished
      cases finished
      obtain ⟨x, y, w, v, rfl, wrote, wrote', same⟩ := found value rfl
      exact ⟨x, y, w, v, rfl, wrote, wrote', same⟩

/-- The pool before any message, over a backend. -/
def KvPool.start (p : String) (calls : ι → KvCall objectId) (b : MemoryBackend Bytes) :
    KvPool ι Bytes where
  state := b
  threads i := (calls i).program p
  underWay := []

/-- In any order of messages, a found block has metadata and tensors that puts wrote.
    When no call overtakes another one of the two being a put, one put wrote both, and
    once every call has finished the two keys are absent or of one put. -/
theorem interleaved_kv_pairs [LawfulSerializer Bytes] (p : String)
    (calls : ι → KvCall objectId) {b : MemoryBackend Bytes}
    (noMeta : b.get (metaKey p objectId) = none)
    (noData : b.get (dataKey p objectId "data.npz") = none) :
    (∀ schedule pool,
      Pool.Interleaving Command.serve (fun _ _ => True) (KvPool.start p calls b) schedule pool →
      ∀ i value, pool.threads i = .done (.ok (.found (some value))) →
        ∃ x y w v, (calls x).written = some w ∧ (calls y).written = some v ∧
          value = touchedBy (calls i) w.1 v.2) ∧
    ∀ schedule pool,
      Pool.Interleaving Command.serve (Pool.Orderly (Conflict fun i => (calls i).kind))
        (KvPool.start p calls b) schedule pool →
      (∀ i value, pool.threads i = .done (.ok (.found (some value))) →
        ∃ x w, (calls x).written = some w ∧ value = touchedBy (calls i) w.1 w.2) ∧
      ((∀ i, (pool.threads i).finished = true) →
        pool.state.get (metaKey p objectId) = none ∧
          pool.state.get (dataKey p objectId "data.npz") = none ∨
        ∃ x w, (calls x).written = some w ∧
          pool.state.get (metaKey p objectId) = some (Serializer.serializeKvBlockMeta w.1) ∧
          pool.state.get (dataKey p objectId "data.npz") =
            some (Serializer.serializeKvTensors w.2.1 w.2.2)) := by
  have begins : Simulates p calls (KvPool.start p calls b) State.initial :=
    Simulates.initial noMeta noData
  constructor
  · intro schedule pool run i value done
    obtain ⟨s, simulates, -⟩ := run.invariant
      (I := fun pool => ∃ s, Simulates p calls pool s ∧ Written (fun i => (calls i).kind) s)
      (fun pool i pool' ⟨s, simulates, written⟩ _ delivered =>
        ⟨_, simulates.step written delivered, written.step i⟩)
      ⟨_, begins, Written.initial⟩
    obtain ⟨x, y, w, v, -, wrote, wrote', same⟩ := simulates.found done
    exact ⟨x, y, w, v, wrote, wrote', same⟩
  · intro schedule pool run
    obtain ⟨s, simulates, written, consistent⟩ := run.invariant
      (I := fun pool => ∃ s, Simulates p calls pool s ∧ Written (fun i => (calls i).kind) s ∧
        Consistent (fun i => (calls i).kind) s)
      (fun pool i pool' ⟨s, simulates, written, consistent⟩ orderly delivered =>
        ⟨_, simulates.step written delivered, written.step i,
          consistent.step i (simulates.underWay ▸ orderly)⟩)
      ⟨_, begins, Written.initial, Consistent.initial⟩
    constructor
    · intro i value done
      obtain ⟨x, y, w, v, phase, wrote, wrote', same⟩ := simulates.found done
      obtain rfl := consistent.answer i x y phase
      rw [wrote] at wrote'
      cases wrote'
      exact ⟨x, w, wrote, same⟩
    · intro finished
      have idle : s.underWay = [] := by
        refine List.eq_nil_iff_forall_not_mem.mpr fun i under => ?_
        obtain ⟨read, phase⟩ := (consistent.member i).mp under
        have stands := simulates.stands i
        rw [phase] at stands
        have running := KvCall.Half.running stands
        rw [finished i] at running
        cases running
      have same := consistent.quiet idle
      have firstKey := simulates.first
      have secondKey := simulates.second
      rw [← same] at secondKey
      cases held : s.first with
      | none =>
          rw [held] at firstKey secondKey
          exact Or.inl ⟨firstKey, secondKey⟩
      | some x =>
          obtain ⟨w, wrote⟩ := (calls x).kind_put_iff.mp (written.first x held)
          rw [held, Option.bind_some, wrote] at firstKey secondKey
          exact Or.inr ⟨x, w, wrote, firstKey, secondKey⟩

end

section

open Reference

private def twoWriters : Fin 3 → KvCall "a"
  | 0 => .put (kvBlock "a" [1]) (array [1]) (array [1]) rfl
  | 1 => .put (kvBlock "a" [2]) (array [2]) (array [2]) rfl
  | 2 => .get true 5

private def begin : KvPool (Fin 3) Encoded := KvPool.start "kv/" twoWriters .empty

/-- Two puts and a get that overlap, each finishing in the order they started: the get finds what
    the second put wrote. -/
theorem interleaved_kv_pairs_overlapping : ∃ pool value x w,
    Pool.Interleaving Command.serve (Pool.Orderly (Conflict fun i => (twoWriters i).kind))
      begin [0, 1, 2, 0, 1, 2] pool ∧
    pool.threads 2 = .done (.ok (.found (some value))) ∧
    (twoWriters x).written = some w ∧ value = touchedBy (twoWriters 2) w.1 w.2 := by
  have run : Pool.Interleaving Command.serve
      (Pool.Orderly (Conflict fun i => (twoWriters i).kind)) begin [0, 1, 2, 0, 1, 2] _ :=
    .cons (by decide) rfl (.cons (by decide) rfl (.cons (by decide) rfl (.cons (by decide) rfl
      (.cons (by decide) rfl (.cons (by decide) rfl (.nil _))))))
  obtain ⟨x, w, wrote, same⟩ :=
    ((interleaved_kv_pairs "kv/" twoWriters rfl rfl).2 _ _ run).1 2 _ rfl
  exact ⟨_, _, x, w, run, rfl, wrote, same⟩

private def tokensOf : Option Encoded → List Int
  | some (.kvBlockMeta block) => block.tokenIds
  | _ => []

private def tensorsOf : Option Encoded → List (List Rat)
  | some (.kvTensors key value) => [key.data, value.data]
  | _ => []

/-- The second put runs between the two messages of the first: the get returns the
    metadata of one and the tensors of the other, and so the keys stay. -/
theorem interleaved_puts_tear_pair : ∃ pool value,
    Pool.Interleaving Command.serve (fun _ _ => True) begin [0, 1, 1, 0, 2, 2] pool ∧
    pool.threads 2 = .done (.ok (.found (some value))) ∧
    (∀ x w, (twoWriters x).written = some w → value ≠ touchedBy (twoWriters 2) w.1 w.2) ∧
    (∀ i, (pool.threads i).finished = true) ∧
    ¬ (pool.state.get (metaKey "kv/" "a") = none ∧
        pool.state.get (dataKey "kv/" "a" "data.npz") = none ∨
      ∃ x w, (twoWriters x).written = some w ∧
        pool.state.get (metaKey "kv/" "a") = some (Serializer.serializeKvBlockMeta w.1) ∧
        pool.state.get (dataKey "kv/" "a" "data.npz") =
          some (Serializer.serializeKvTensors w.2.1 w.2.2)) := by
  have run : Pool.Interleaving Command.serve (fun _ _ => True) begin [0, 1, 1, 0, 2, 2] _ :=
    .cons trivial rfl (.cons trivial rfl (.cons trivial rfl (.cons trivial rfl
      (.cons trivial rfl (.cons trivial rfl (.nil _))))))
  refine ⟨_, _, run, rfl, ?_, by decide, ?_⟩
  · intro x w wrote same
    match x with
    | 0 =>
        cases wrote
        exact absurd (congrArg (fun value => value.1.tokenIds) same) (by decide)
    | 1 =>
        cases wrote
        exact absurd (congrArg (fun value => value.2.1) same) (by decide)
    | 2 => cases wrote
  · rintro (⟨absent, -⟩ | ⟨x, w, wrote, metaOf, dataOf⟩)
    · cases absent
    · match x with
      | 0 =>
          cases wrote
          exact absurd (congrArg tokensOf metaOf) (by decide)
      | 1 =>
          cases wrote
          exact absurd (congrArg tensorsOf dataOf) (by decide)
      | 2 => cases wrote

end

end IntelliL3
