import Mathlib.Data.List.Chain
import IntelliL3.Workloads.Reference
import IntelliL3.Workloads.RetailState

/-! # What a replay of a retail workflow gives

A tool that returns appends the same rows whatever was done before it, and one that raises
appends none. So a history can be gone through again from the start, if the stack has room for the
copies that a step takes: a copy that raises after its tool has run leaves a step unrecorded.
-/

namespace IntelliL3

open Lib

namespace RetailToolKit

/-- The same dataset, with other things done. -/
def during (self : RetailToolKit) (done : Snapshot) : RetailToolKit :=
  { self with refundActions := done.refundActions, returnRequests := done.returnRequests }

/-- Where an action leads that answers and appends, or raises. -/
def leaves (self : RetailToolKit) (done : Snapshot) :
    Except PyError (Json × Snapshot) → EStateM.Result PyError RetailToolKit Json
  | .ok (result, more) => .ok result (self.during (done.append more))
  | .error e => .error e (self.during done)

/-- An action that answers and appends the same whatever was done before. -/
def Appends (self : RetailToolKit) (action : ToolM Json) : Prop :=
  ∃ effect, ∀ done, action (self.during done) = self.leaves done effect

variable {tk : RetailToolKit}

namespace Appends

theorem answer (result : Json) : tk.Appends (pure result) :=
  ⟨.ok (result, {}), fun done => by rw [leaves, Snapshot.append_nothing]; rfl⟩

theorem raising (result : Except PyError Json) : tk.Appends (Lib.raising result) := by
  cases result with
  | ok result => exact answer result
  | error e => exact ⟨.error e, fun done => rfl⟩

/-- What is computed first is the same, and so is what follows. -/
theorem bind {α : Type} (result : Except PyError α) {next : α → ToolM Json}
    (follows : ∀ a, tk.Appends (next a)) : tk.Appends (Lib.raising result >>= next) := by
  cases result with
  | ok a => exact follows a
  | error e => exact ⟨.error e, fun done => rfl⟩

/-- An action that reads the dataset only. -/
theorem read {next : RetailToolKit → ToolM Json} (apart : ∀ done, next (tk.during done) = next tk)
    (appends : tk.Appends (next tk)) : tk.Appends (MonadState.get >>= next) := by
  obtain ⟨effect, appends⟩ := appends
  refine ⟨effect, fun done => ?_⟩
  rw [bind_run, get_run]
  simp only
  rw [apart done, appends done]

theorem refund (action result : Json) : tk.Appends (do
    modify fun self => { self with refundActions := self.refundActions ++ [action] }
    return result) := by
  refine ⟨.ok (result, { refundActions := [action] }), fun done => ?_⟩
  simp only [bind_run, modify_run, leaves, during, Snapshot.append, List.append_nil, pure_run]

theorem request (payload result : Json) : tk.Appends (do
    modify fun self => { self with returnRequests := self.returnRequests ++ [payload] }
    return result) := by
  refine ⟨.ok (result, { returnRequests := [payload] }), fun done => ?_⟩
  simp only [bind_run, modify_run, leaves, during, Snapshot.append, List.append_nil, pure_run]

end Appends

theorem submitRefund_appends (orderId itemId : String) (amount : PyFloat) (reasonCode : String) :
    tk.Appends (submitRefund orderId itemId amount reasonCode) := by
  unfold submitRefund
  split
  · exact Appends.answer _
  · refine Appends.read (fun done => rfl) ?_
    split
    · exact Appends.answer _
    · refine Appends.bind _ fun method => Appends.bind _ fun rules =>
        Appends.bind _ fun methods => Appends.bind _ fun among => ?_
      split
      · exact Appends.answer _
      · exact Appends.bind _ fun currency => Appends.refund _ _

theorem updateReturnRequest_appends (orderId itemId status note : String) :
    tk.Appends (updateReturnRequest orderId itemId status note) := by
  unfold updateReturnRequest
  split
  · exact Appends.answer _
  · refine Appends.read (fun done => rfl) ?_
    split
    · exact Appends.answer _
    · exact Appends.request _ _

theorem execute_appends [PyBuiltins] (toolName : String) (args : ToolArgs) :
    tk.Appends (execute toolName args) := by
  unfold execute
  split
  · exact Appends.bind _ fun orderId => Appends.read (fun done => rfl) (Appends.raising _)
  · exact Appends.bind _ fun policyKey => Appends.read (fun done => rfl) (Appends.raising _)
  · exact Appends.bind _ fun orderId => Appends.bind _ fun itemId => Appends.bind _ fun quantity =>
      Appends.read (fun done => rfl) (Appends.raising _)
  · exact Appends.bind _ fun orderId => Appends.bind _ fun itemId => Appends.bind _ fun amount =>
      Appends.bind _ fun reasonCode => submitRefund_appends orderId itemId amount reasonCode
  · exact Appends.bind _ fun orderId => Appends.bind _ fun itemId => Appends.bind _ fun status =>
      Appends.bind _ fun note => updateReturnRequest_appends orderId itemId status note
  · exact Appends.answer _

end RetailToolKit

/-! ## Steps -/

namespace RetailWorkflowState

variable [PyBuiltins] {tk : RetailToolKit}

/-- There is room for a snapshot. -/
def SnapshotFits (frames : Nat) (done : Snapshot) : Prop :=
  CopyFits frames (.list done.refundActions) ∧ CopyFits frames (.list done.returnRequests)

theorem SnapshotFits.shallower {frames deeper : Nat} {done : Snapshot}
    (fits : SnapshotFits deeper done) (le : frames ≤ deeper) : SnapshotFits frames done :=
  ⟨fits.1.shallower le, fits.2.shallower le⟩

/-- There is room for all the copies that it takes to record a step. -/
structure Recordable (frames : Nat) (step : RetailStep) (before after : Snapshot) (result : Json) :
    Prop where
  before : SnapshotFits (frames + 1) before
  after : SnapshotFits (frames + 1) after
  args : CopyFits frames (.dict step.args)
  result : CopyFits frames result

theorem deepcopy_fits {α : Type} {frames : Nat} (toJson : α → Json) {value : α}
    (fits : CopyFits frames (toJson value)) : deepcopy frames toJson value = .ok value :=
  if_pos fits

theorem deepcopy_raises {α : Type} {frames : Nat} (toJson : α → Json) {value : α}
    (deep : ¬ CopyFits frames (toJson value)) : ∃ e, deepcopy frames toJson value = .error e :=
  ⟨_, if_neg deep⟩

theorem snapshot_fits {frames : Nat} (self : RetailWorkflowState)
    (fits : SnapshotFits frames self.done) : self.snapshot frames = .ok self.done := by
  have refunds : deepcopy frames .list self.toolkit.refundActions = .ok _ :=
    deepcopy_fits Json.list fits.1
  have requests : deepcopy frames .list self.toolkit.returnRequests = .ok _ :=
    deepcopy_fits Json.list fits.2
  rw [snapshot, refunds, ok_bind, requests]
  rfl

theorem snapshot_raises {frames : Nat} (self : RetailWorkflowState)
    (deep : ¬ SnapshotFits frames self.done) : ∃ e, self.snapshot frames = .error e := by
  by_cases fits : CopyFits frames (.list self.toolkit.refundActions)
  · have refunds : deepcopy frames .list self.toolkit.refundActions = .ok _ :=
      deepcopy_fits Json.list fits
    have requests : ∃ e, deepcopy frames .list self.toolkit.returnRequests = .error e :=
      deepcopy_raises Json.list fun second => deep ⟨fits, second⟩
    obtain ⟨e, raised⟩ := requests
    exact ⟨e, by rw [snapshot, refunds, ok_bind, raised]; rfl⟩
  · obtain ⟨e, raised⟩ := deepcopy_raises Json.list fits
    exact ⟨e, by rw [snapshot, raised]; rfl⟩

variable {frames : Nat} {step : RetailStep} {done more : Snapshot} {result : Json}

/-- A tool that raises has done nothing. -/
theorem applyStep_raises (frames : Nat) {e : PyError}
    (raises : RetailToolKit.execute step.toolName step.args (tk.during done) =
      tk.leaves done (.error e)) (history : List StepRecord) :
    ∃ e', applyStep frames step ⟨tk.during done, history⟩ =
      .error e' ⟨tk.during done, history⟩ := by
  rw [applyStep, bind_run, get_run]
  by_cases fits : SnapshotFits (frames + 1) done
  · have pre : snapshot (frames + 1) ⟨tk.during done, history⟩ = .ok done := snapshot_fits _ fits
    simp only [bind_run, pre, raising_ok, zoom_run, raises]
    exact ⟨e, rfl⟩
  · obtain ⟨e', raised⟩ := snapshot_raises ⟨tk.during done, history⟩ fits
    simp only [bind_run, raised, raising_error]
    exact ⟨e', rfl⟩

/-- A step that there is room to record is recorded. -/
theorem applyStep_records
    (answers : RetailToolKit.execute step.toolName step.args (tk.during done) =
      tk.leaves done (.ok (result, more)))
    (fits : Recordable frames step done (done.append more) result) (history : List StepRecord) :
    applyStep frames step ⟨tk.during done, history⟩ =
      .ok result ⟨tk.during (done.append more), history ++
        [{ step with result := result, preState := done, postState := done.append more }]⟩ := by
  have pre : snapshot (frames + 1) ⟨tk.during done, history⟩ = .ok done :=
    snapshot_fits _ fits.before
  have post : snapshot (frames + 1) ⟨tk.during (done.append more), history⟩ =
    .ok (done.append more) := snapshot_fits _ fits.after
  rw [applyStep, bind_run, get_run]
  simp only [bind_run, pre, raising_ok, zoom_run, answers, RetailToolKit.leaves, get_run, post,
    deepcopy_fits Json.dict fits.args, deepcopy_fits id fits.result, modify_run, pure_run]

/-- A step that there is no room to record raises, and what its tool has appended stays if there
    was room to look at what was done before. -/
theorem applyStep_unrecorded
    (answers : RetailToolKit.execute step.toolName step.args (tk.during done) =
      tk.leaves done (.ok (result, more)))
    (deep : ¬ Recordable frames step done (done.append more) result) (history : List StepRecord) :
    ∃ e left, applyStep frames step ⟨tk.during done, history⟩ =
      .error e ⟨tk.during left, history⟩ ∧
        (SnapshotFits (frames + 1) done ∧ left = done.append more ∨
          ¬ SnapshotFits (frames + 1) done ∧ left = done) := by
  rw [applyStep, bind_run, get_run]
  by_cases before : SnapshotFits (frames + 1) done
  · have pre : snapshot (frames + 1) ⟨tk.during done, history⟩ = .ok done := snapshot_fits _ before
    simp only [bind_run, pre, raising_ok, zoom_run, answers, RetailToolKit.leaves, get_run]
    by_cases after : SnapshotFits (frames + 1) (done.append more)
    · have post : snapshot (frames + 1) ⟨tk.during (done.append more), history⟩ =
        .ok (done.append more) := snapshot_fits _ after
      simp only [post, raising_ok]
      by_cases args : CopyFits frames (.dict step.args)
      · obtain ⟨e, raised⟩ := deepcopy_raises id fun result =>
          deep ⟨before, after, args, result⟩
        simp only [deepcopy_fits Json.dict args, raising_ok, raised, raising_error]
        exact ⟨e, _, rfl, .inl ⟨before, rfl⟩⟩
      · obtain ⟨e, raised⟩ := deepcopy_raises Json.dict args
        simp only [raised, raising_error]
        exact ⟨e, _, rfl, .inl ⟨before, rfl⟩⟩
    · obtain ⟨e, raised⟩ :=
        snapshot_raises ⟨tk.during (done.append more), history⟩ after
      simp only [raised, raising_error]
      exact ⟨e, _, rfl, .inl ⟨before, rfl⟩⟩
  · obtain ⟨e, raised⟩ := snapshot_raises ⟨tk.during done, history⟩ before
    simp only [bind_run, raised, raising_error]
    exact ⟨e, _, rfl, .inr ⟨before, rfl⟩⟩

/-- A replay that returns has gone through all recorded steps. -/
theorem replayMatches_returned {self self' : RetailWorkflowState} {same : Bool}
    (recorded : self.history ≠ []) (returned : replayMatches frames self = .ok same self') :
    ∃ m, (self.history.map StepRecord.toRetailStep).forM
      (fun step => discard (applyStep (frames + 2) step)) self.reset = .ok ⟨⟩ m := by
  rw [replayMatches, bind_run, get_run] at returned
  simp only at returned
  cases ended : self.history.getLast? with
  | none => exact absurd (List.getLast?_eq_none_iff.mp ended) recorded
  | some last =>
      rw [ended] at returned
      obtain ⟨_, _, read, returned⟩ := bind_run_ok.mp returned
      cases read
      obtain ⟨current, _, replayed, -⟩ := bind_run_ok.mp returned
      obtain ⟨_, _, emptied, replayed⟩ := bind_run_ok.mp replayed
      cases emptied
      obtain ⟨_, m, through, -⟩ := bind_run_ok.mp replayed
      exact ⟨m, through⟩

end RetailWorkflowState

open RetailWorkflowState

/-! ## Histories that can be gone through again -/

/-- Records that lead from what was done to what was done later, each of a step that does the
    same again at any time, and that there is room to record again some calls deep. -/
inductive Recorded [PyBuiltins] (frames : Nat) (tk : RetailToolKit) :
    Snapshot → List StepRecord → Snapshot → Prop where
  | nil (done : Snapshot) : Recorded frames tk done [] done
  | cons {record : StepRecord} {more final : Snapshot} {rest : List StepRecord} :
      (∀ done, RetailToolKit.execute record.toolName record.args (tk.during done) =
        tk.leaves done (.ok (record.result, more))) →
      record.postState = record.preState.append more →
      Recordable frames record.toRetailStep record.preState record.postState record.result →
      Recorded frames tk record.postState rest final →
      Recorded frames tk record.preState (record :: rest) final

namespace Recorded

variable [PyBuiltins] {frames : Nat} {tk : RetailToolKit} {start final : Snapshot}
  {records : List StepRecord}

theorem concat (recorded : Recorded frames tk start records final) {record : StepRecord}
    {more : Snapshot}
    (again : ∀ done, RetailToolKit.execute record.toolName record.args (tk.during done) =
      tk.leaves done (.ok (record.result, more)))
    (before : record.preState = final) (after : record.postState = record.preState.append more)
    (fits : Recordable frames record.toRetailStep record.preState record.postState
      record.result) : Recorded frames tk start (records ++ [record]) record.postState := by
  induction recorded with
  | nil done => exact before ▸ cons again after fits (nil _)
  | cons again' after' fits' _ ih => exact cons again' after' fits' (ih before)

theorem final_of_nil (recorded : Recorded frames tk start [] final) : final = start := by
  cases recorded
  rfl

/-- Each step starts where the one before it ended, and the last one ends at the end. -/
theorem chained (recorded : Recorded frames tk start records final) :
    (∀ record ∈ records.head?, record.preState = start) ∧
      records.IsChain (fun a b => a.postState = b.preState) ∧
      ∀ record ∈ records.getLast?, record.postState = final := by
  induction recorded with
  | nil done => exact ⟨by simp, List.IsChain.nil, by simp⟩
  | @cons record more final rest again after fits below ih =>
      obtain ⟨first, chain, last⟩ := ih
      refine ⟨by simp, List.isChain_cons.mpr ⟨fun next head => (first next head).symm, chain⟩, ?_⟩
      cases rest with
      | nil => simp [below.final_of_nil]
      | cons next rest =>
          rw [List.getLast?_cons_cons]
          exact last

theorem grown (recorded : Recorded frames tk start records final) :
    ∀ record ∈ records, record.preState.GrownTo record.postState := by
  induction recorded with
  | nil done => exact fun record member => by cases member
  | cons again after fits rest ih =>
      refine List.forall_mem_cons.mpr ⟨?_, ih⟩
      rw [after]
      exact Snapshot.grownTo_append _ _

theorem recordable (recorded : Recorded frames tk start records final) :
    ∀ record ∈ records,
      Recordable frames record.toRetailStep record.preState record.postState record.result := by
  induction recorded with
  | nil done => exact fun record member => by cases member
  | cons again after fits rest ih => exact List.forall_mem_cons.mpr ⟨fits, ih⟩

/-- Going through the steps again gives the same records, and then goes on. -/
theorem replay (recorded : Recorded frames tk start records final) (later : List RetailStep)
    (history : List StepRecord) :
    (records.map StepRecord.toRetailStep ++ later).forM
        (fun step => discard (applyStep frames step)) ⟨tk.during start, history⟩ =
      later.forM (fun step => discard (applyStep frames step))
        ⟨tk.during final, history ++ records⟩ := by
  induction recorded generalizing history with
  | nil done =>
      rw [List.append_nil]
      rfl
  | @cons record more final rest again after fits below ih =>
      rw [after] at fits
      have first : (discard (applyStep frames record.toRetailStep) : WorkflowM Unit)
          ⟨tk.during record.preState, history⟩ =
            .ok ⟨⟩ ⟨tk.during record.postState, history ++ [record]⟩ := by
        change (applyStep frames record.toRetailStep >>= fun _ => (pure ⟨⟩ : WorkflowM Unit)) _ = _
        rw [bind_run, applyStep_records (again _) fits]
        simp only [← after]
        rfl
      change (discard (applyStep frames record.toRetailStep) >>= fun _ =>
        (rest.map StepRecord.toRetailStep ++ later).forM fun step =>
          discard (applyStep frames step)) _ = _
      rw [bind_run, first]
      simp only
      rw [ih, List.append_assoc]
      rfl

end Recorded

/-- A state whose history leads from nothing done to what was done, and that a replay goes through
    again when it is asked for some calls deep. -/
structure Faithful [PyBuiltins] (frames : Nat) (tk : RetailToolKit) (state : RetailWorkflowState) :
    Prop where
  toolkit : state.toolkit = tk.during state.done
  recorded : Recorded (frames + 2) tk {} state.history state.done

/-- A step, and how many calls deep it is made. -/
structure RetailCall extends RetailStep where
  frames : Nat

namespace RetailWorkflowState

variable [PyBuiltins]

def exec (call : RetailCall) : WorkflowM Json := applyStep call.frames call.toRetailStep

/-- A replay that is asked for some calls deep answers that it ends where the history ended, and
    leaves everything as it was; each recorded step starts where the one before it ended, and
    what was done only grows at its end. -/
structure Replays (frames : Nat) (state : RetailWorkflowState) : Prop where
  matched : replayMatches frames state = .ok true state
  first : ∀ record ∈ state.history.head?, record.preState = {}
  chained : state.history.IsChain fun a b => a.postState = b.preState
  last : ∀ record ∈ state.history.getLast?, record.postState = state.done
  grown : ∀ record ∈ state.history, record.preState.GrownTo record.postState

/-- What was done only grows at its end, and a call that raises changes nothing. -/
structure StepsSafely (call : RetailCall) (state : RetailWorkflowState) : Prop where
  grown : state.done.GrownTo (EStateResult.state (exec call state)).done
  unchanged : ∀ e s, exec call state = .error e s → s = state

/-- A call that is recorded can be recorded again where a replay makes it, two calls below the one
    that asks for the replay, and one whose tool appends is recorded. -/
structure CopiesFit (frames : Nat) (call : RetailCall) (state : RetailWorkflowState) : Prop where
  appends : ∀ result toolkit,
    RetailToolKit.execute call.toolName call.args state.toolkit = .ok result toolkit →
    toolkit.done ≠ state.done → SnapshotFits (call.frames + 1) state.done →
    Recordable call.frames call.toRetailStep state.done toolkit.done result
  again : ∀ result toolkit,
    RetailToolKit.execute call.toolName call.args state.toolkit = .ok result toolkit →
    Recordable call.frames call.toRetailStep state.done toolkit.done result →
    Recordable (frames + 2) call.toRetailStep state.done toolkit.done result

/-- After each of the calls there is a faithful replay, and each of them is safe. -/
structure ReplaysThroughout (frames : Nat) (toolkit : RetailToolKit) (calls : List RetailCall) :
    Prop where
  replays : ∀ before, before <+: calls → Replays frames (drive exec (new toolkit) before)
  safe : ∀ before call, before ++ [call] <+: calls →
    StepsSafely call (drive exec (new toolkit) before)

end RetailWorkflowState

namespace Faithful

variable [PyBuiltins] {frames : Nat} {tk : RetailToolKit} {state : RetailWorkflowState}

theorem fresh : Faithful frames tk (RetailWorkflowState.new tk) := ⟨rfl, .nil _⟩

theorem eta (faithful : Faithful frames tk state) :
    (⟨tk.during state.done, state.history⟩ : RetailWorkflowState) = state := by
  rw [← faithful.toolkit]

/-- What a call does of which there is room for the copies: it is recorded, or nothing happens. -/
theorem step (faithful : Faithful frames tk state) {call : RetailCall}
    (fits : CopiesFit frames call state) :
    Faithful frames tk (EStateResult.state (exec call state)) ∧ StepsSafely call state := by
  have unchanged : ∀ {e}, exec call state = .error e state →
      Faithful frames tk (EStateResult.state (exec call state)) ∧ StepsSafely call state := by
    intro e raised
    refine ⟨by rw [raised]; exact faithful, ?_, fun _ _ raised' => ?_⟩
    · rw [raised]
      exact state.done.grownTo_refl
    · rw [raised] at raised'
      cases raised'
      rfl
  obtain ⟨effect, appends⟩ := @RetailToolKit.execute_appends tk _ call.toolName call.args
  have here := appends state.done
  cases effect with
  | error e =>
      obtain ⟨e', raised⟩ := applyStep_raises call.frames here state.history
      rw [faithful.eta] at raised
      exact unchanged raised
  | ok effect =>
      obtain ⟨result, more⟩ := effect
      have answers := here
      rw [← faithful.toolkit] at answers
      by_cases room : Recordable call.frames call.toRetailStep state.done
        (state.done.append more) result
      · have recorded := applyStep_records here room state.history
        rw [faithful.eta] at recorded
        have ran : exec call state = .ok _ _ := recorded
        refine ⟨?_, ?_, fun _ _ raised => by rw [ran] at raised; cases raised⟩
        · rw [ran]
          exact ⟨rfl, faithful.recorded.concat appends rfl rfl
            (fits.again result _ answers room)⟩
        · rw [ran]
          exact state.done.grownTo_append more
      · obtain ⟨e, left, raised, kept⟩ := applyStep_unrecorded here room state.history
        have same : left = state.done := by
          rcases kept with ⟨before, rfl⟩ | ⟨-, same⟩
          · by_contra changed
            exact room (fits.appends result _ answers changed before)
          · exact same
        rw [same, faithful.eta] at raised
        exact unchanged raised

theorem reset (faithful : Faithful frames tk state) : state.reset = ⟨tk.during {}, []⟩ := by
  rw [RetailWorkflowState.reset, faithful.toolkit]
  rfl

theorem replays (faithful : Faithful frames tk state) : Replays frames state := by
  obtain ⟨first, chained, last⟩ := faithful.recorded.chained
  refine ⟨?_, first, chained, last, faithful.recorded.grown⟩
  rw [RetailWorkflowState.replayMatches, bind_run, get_run]
  simp only
  cases ended : state.history.getLast? with
  | none => rfl
  | some record =>
      have after := last record ended
      have room := (faithful.recorded.recordable record (List.mem_of_getLast? ended)).after
      rw [after] at room
      have final := snapshot_fits state (room.shallower (Nat.le_succ (frames + 2)))
      have through := faithful.recorded.replay [] []
      rw [List.append_nil, List.nil_append, faithful.eta] at through
      have replayed : RetailWorkflowState.replay (frames + 1)
          (state.history.map StepRecord.toRetailStep) state = .ok state.done state := by
        rw [RetailWorkflowState.replay, bind_run, modify_run, faithful.reset]
        simp only [bind_run, through]
        change raising (state.snapshot (frames + 2)) state = _
        rw [final]
        rfl
      simp only [bind_run, get_run, replayed, after, decide_true]
      rfl

/-- A call that is safe and leads to a state that can be replayed had room for its copies. -/
theorem copiesFit (faithful : Faithful frames tk state) {call : RetailCall}
    (safe : StepsSafely call state)
    (replays : Replays frames (EStateResult.state (exec call state))) :
    CopiesFit frames call state := by
  obtain ⟨effect, appends⟩ := @RetailToolKit.execute_appends tk _ call.toolName call.args
  have here := appends state.done
  have answers := here
  rw [← faithful.toolkit] at answers
  cases effect with
  | error e =>
      refine ⟨fun result toolkit answered => ?_, fun result toolkit answered => ?_⟩ <;>
        cases answers.symm.trans answered
  | ok effect =>
      obtain ⟨result, more⟩ := effect
      constructor
      · intro result' toolkit answered changed before
        cases answers.symm.trans answered
        by_contra room
        obtain ⟨e, left, raised, kept⟩ := applyStep_unrecorded here room state.history
        rw [faithful.eta] at raised
        rcases kept with ⟨-, rfl⟩ | ⟨deep, -⟩
        · exact changed (congrArg RetailWorkflowState.done (safe.unchanged _ _ raised))
        · exact deep before
      · intro result' toolkit answered room
        cases answers.symm.trans answered
        by_contra deep
        have recorded := applyStep_records here room state.history
        rw [faithful.eta] at recorded
        have ran : exec call state = .ok _ _ := recorded
        obtain ⟨e, left, raised, -⟩ := applyStep_unrecorded here deep state.history
        have stuck : ([call.toRetailStep].forM
            (fun step => discard (applyStep (frames + 2) step)) : WorkflowM Unit)
            ⟨tk.during state.done, state.history⟩ = .error e ⟨tk.during left, state.history⟩ := by
          change ((applyStep (frames + 2) call.toRetailStep >>= fun _ => (pure ⟨⟩ : WorkflowM Unit))
            >>= fun _ => (pure ⟨⟩ : WorkflowM Unit)) _ = _
          simp only [bind_run, raised]
        have through := faithful.recorded.replay [call.toRetailStep] []
        rw [List.nil_append, stuck] at through
        have matched := replays.matched
        rw [ran, EStateResult.state_ok] at matched
        obtain ⟨m, again⟩ := replayMatches_returned (List.concat_ne_nil _ _) matched
        rw [List.map_append] at again
        have same := through.symm.trans again
        cases same

/-- Calls of which there is room for the copies lead from one faithful state to the next. -/
theorem drive {calls : List RetailCall}
    (fits : ∀ before call, before ++ [call] <+: calls →
      Faithful frames tk (Lib.drive exec (RetailWorkflowState.new tk) before) →
        CopiesFit frames call (Lib.drive exec (RetailWorkflowState.new tk) before))
    {before : List RetailCall} (within : before <+: calls) :
    Faithful frames tk (Lib.drive exec (RetailWorkflowState.new tk) before) := by
  induction before using List.reverseRecOn with
  | nil => exact fresh
  | append_singleton before call ih =>
      have earlier := ih ((List.prefix_append _ _).trans within)
      rw [drive_concat]
      exact (earlier.step (fits before call within earlier)).1

end Faithful

/-- A replay is faithful after every call, and every call is safe, exactly when there is always
    room for the copies: no call has its tool append and then fails to be recorded, and none is
    recorded that cannot be recorded again as deep in the stack as a replay makes it. -/
theorem retail_replay_faithful_iff [PyBuiltins] (frames : Nat) (toolkit : RetailToolKit)
    (calls : List RetailCall) :
    ReplaysThroughout frames toolkit calls ↔ ∀ before call, before ++ [call] <+: calls →
      CopiesFit frames call (drive exec (RetailWorkflowState.new toolkit) before) := by
  have earlier : ∀ {before call}, before ++ [call] <+: calls → before <+: calls :=
    fun within => (List.prefix_append _ _).trans within
  constructor
  · intro throughout
    have fits : ∀ before call, before ++ [call] <+: calls →
        Faithful frames toolkit (drive exec (RetailWorkflowState.new toolkit) before) →
        CopiesFit frames call (drive exec (RetailWorkflowState.new toolkit) before) := by
      intro before call within faithful
      refine faithful.copiesFit (throughout.safe before call within) ?_
      rw [← drive_concat]
      exact throughout.replays _ within
    exact fun before call within => fits before call within (Faithful.drive fits (earlier within))
  · intro fits
    have faithful : ∀ {before}, before <+: calls →
        Faithful frames toolkit (drive exec (RetailWorkflowState.new toolkit) before) :=
      Faithful.drive fun before call within _ => fits before call within
    exact ⟨fun before within => (faithful within).replays, fun before call within =>
      ((faithful (earlier within)).step (fits before call within)).2⟩

section

open Reference Reference.Recursive

/-- Lists in lists. -/
private def nested : Nat → Json
  | 0 => .none
  | n + 1 => .list [nested n]

private theorem copyCalls_nested (n : Nat) : copyCalls (nested n) = 2 * n + 2 := by
  induction n with
  | zero => rfl
  | succ n ih =>
      rw [nested, copyCalls, copyCallsItems, copyCallsItems, ih]
      omega

private def oneOrder : RetailToolKit where
  orders := .set .empty "ORD-1001" (.dict [])
  orderItems := .list []
  policies := .dict []

/-- A return request, and one with an argument more that is nested too deeply to be copied. -/
private def filed (more : ToolArgs) : RetailCall where
  toolName := "update_return_request"
  args := [("order_id", .str "ORD-1001"), ("status", .str "pending")] ++ more
  frames := 0

private theorem copyCalls_filed (n : Nat) :
    copyCalls (.dict (filed [("trace", nested n)]).args) = 2 * n + 4 := by
  simp only [filed, List.cons_append, List.nil_append, copyCalls, copyCallsRows, copyCalls_nested]
  omega

private def payload : Json := .dict [
  ("order_id", .str "ORD-1001"), ("item_id", .str ""), ("status", .str "pending"),
  ("note", .str "")]

/-- The second request is appended, and its step raises. -/
private theorem unrecorded {n : Nat} (deep : 500 ≤ n) :
    ¬ ReplaysThroughout 0 oneOrder [filed [], filed [("trace", nested n)]] := by
  intro throughout
  have safe := throughout.safe [filed []] _ List.prefix_rfl
  obtain ⟨history, first⟩ : ∃ history, drive exec (RetailWorkflowState.new oneOrder) [filed []] =
      ⟨oneOrder.during { returnRequests := [payload] }, history⟩ := ⟨_, rfl⟩
  rw [first] at safe
  have answers : RetailToolKit.execute (filed [("trace", nested n)]).toolName
      (filed [("trace", nested n)]).args (oneOrder.during { returnRequests := [payload] }) =
        oneOrder.leaves { returnRequests := [payload] }
          (.ok (RetailToolKit.succeeded payload, { returnRequests := [payload] })) := rfl
  have unfit : ¬ CopyFits 0 (.dict (filed [("trace", nested n)]).args) := by
    rw [CopyFits]
    change ¬ 0 + copyCalls _ ≤ 1000
    rw [copyCalls_filed]
    omega
  obtain ⟨e, left, raised, kept⟩ :=
    applyStep_unrecorded answers (fun room => unfit room.args) history
  have same := safe.unchanged e _ raised
  rcases kept with ⟨-, rfl⟩ | ⟨shown, -⟩
  · cases same
  · exact shown ⟨by decide, by decide⟩

/-- A return request whose arguments are too deep to be copied is filed and not recorded. -/
theorem deep_arguments_unrecorded :
    ¬ ReplaysThroughout 0 oneOrder [filed [], filed [("trace", nested 500)]] :=
  unrecorded le_rfl

end

end IntelliL3
