import Mathlib.Logic.Function.Basic
import IntelliL3.Lib.Run

/-! # Programs that talk to a server

A program is a tree of commands with a continuation for every reply, so that a
scheduler can deliver its messages one at a time. `Proc.run` executes a program
on its own, `Pool.deliver` one message of one of many programs.
-/

namespace IntelliL3.Lib

/-- A program: finished, or waiting for the reply to a command. -/
inductive Proc (C : Type) (R : C → Type) (ε α : Type) where
  | done (outcome : Except ε α)
  | call (command : C) (next : Except ε (R command) → Proc C R ε α)

namespace Proc

variable {C : Type} {R : C → Type} {ε α β σ : Type}

def bind : Proc C R ε α → (α → Proc C R ε β) → Proc C R ε β
  | .done (.ok a), f => f a
  | .done (.error e), _ => .done (.error e)
  | .call c next, f => .call c fun reply => bind (next reply) f

def handle : Proc C R ε α → (ε → Proc C R ε α) → Proc C R ε α
  | .done (.ok a), _ => .done (.ok a)
  | .done (.error e), handler => handler e
  | .call c next, handler => .call c fun reply => handle (next reply) handler

instance : Monad (Proc C R ε) where
  pure a := .done (.ok a)
  bind := bind

instance : MonadExceptOf ε (Proc C R ε) where
  throw e := .done (.error e)
  tryCatch := handle

/-- Send one command and return its reply. -/
def send (c : C) : Proc C R ε (R c) := .call c .done

def finished : Proc C R ε α → Bool
  | .done _ => true
  | .call _ _ => false

/-! ## Running a program on its own -/

def run (serve : (c : C) → EStateM ε σ (R c)) : Proc C R ε α → EStateM ε σ α
  | .done outcome => raising outcome
  | .call c next => fun s => match serve c s with
    | .ok a s => run serve (next (.ok a)) s
    | .error e s => run serve (next (.error e)) s

variable (serve : (c : C) → EStateM ε σ (R c))

theorem run_send (c : C) : run serve (send c : Proc C R ε (R c)) = serve c := by
  funext s
  simp only [send, run]
  cases serve c s <;> rfl

theorem run_bind (first : Proc C R ε α) (next : α → Proc C R ε β) :
    run serve (first >>= next) = run serve first >>= fun a => run serve (next a) := by
  change run serve (bind first next) = _
  funext s
  induction first generalizing s with
  | done outcome => cases outcome <;> rfl
  | call c rest ih =>
      rw [bind_run]
      simp only [bind, run]
      cases serve c s with
      | ok a s => exact ih (.ok a) s
      | error e s => exact ih (.error e) s

theorem run_foldlM {γ : Type} (f : β → γ → Proc C R ε β) (b : β) (l : List γ) :
    run serve (l.foldlM f b) = l.foldlM (fun b c => run serve (f b c)) b := by
  induction l generalizing b with
  | nil => rfl
  | cons c rest ih =>
      rw [List.foldlM_cons, List.foldlM_cons, run_bind]
      exact congrArg _ (funext ih)

theorem run_tryCatch (body : Proc C R ε α) (handler : ε → Proc C R ε α) :
    run serve (tryCatch body handler) =
      tryCatch (run serve body) fun e => run serve (handler e) := by
  change run serve (handle body handler) = _
  funext s
  induction body generalizing s with
  | done outcome => cases outcome <;> rfl
  | call c rest ih =>
      rw [tryCatch_run]
      simp only [handle, run]
      cases serve c s with
      | ok a s => exact (ih (.ok a) s).trans (tryCatch_run ..)
      | error e s => exact (ih (.error e) s).trans (tryCatch_run ..)

/-- A program served on a component of the state works on that component. -/
theorem run_zoom {τ : Type} {read : τ → σ} {write : τ → σ → τ} (laws : ZoomLaws read write)
    (program : Proc C R ε α) :
    run (fun c => zoom read write (serve c)) program = zoom read write (run serve program) := by
  funext s
  induction program generalizing s with
  | done outcome => exact (congrFun (zoom_raising laws outcome) s).symm
  | call c next ih =>
      rw [zoom_run]
      simp only [run, zoom_run]
      cases serve c (read s) with
      | ok a t =>
          refine (ih (.ok a) (write s t)).trans ?_
          rw [zoom_run, laws.read_write]
          simp only [laws.write_write]
      | error e t =>
          refine (ih (.error e) (write s t)).trans ?_
          rw [zoom_run, laws.read_write]
          simp only [laws.write_write]

/-- A program whose commands are all addressed to one of many servers. -/
def addressed {κ : Type} (m : κ) :
    Proc C R ε α → Proc (κ × C) (fun c => R c.2) ε α
  | .done outcome => .done outcome
  | .call c next => .call (m, c) fun reply => addressed m (next reply)

theorem run_addressed {κ : Type} (serve : (c : κ × C) → EStateM ε σ (R c.2)) (m : κ)
    (program : Proc C R ε α) :
    run serve (addressed m program) = run (fun c => serve (m, c)) program := by
  funext s
  induction program generalizing s with
  | done outcome => rfl
  | call c next ih =>
      simp only [addressed, run]
      cases serve (m, c) s with
      | ok a s => exact ih (.ok a) s
      | error e s => exact ih (.error e) s

end Proc

/-! ## Many programs -/

/-- The elements of a list in front of an element. -/
def before {ι : Type} [DecidableEq ι] (i : ι) : List ι → List ι
  | [] => []
  | j :: rest => if j = i then [] else j :: before i rest

section

variable {ι : Type} [DecidableEq ι]

theorem before_append_of_mem {i : ι} {l : List ι} (member : i ∈ l) (r : List ι) :
    before i (l ++ r) = before i l := by
  induction l with
  | nil => cases member
  | cons j rest ih =>
      simp only [List.cons_append, before]
      by_cases here : j = i
      · rw [if_pos here, if_pos here]
      · rw [if_neg here, if_neg here, ih ((List.mem_cons.mp member).resolve_left (Ne.symm here))]

theorem before_append_of_not_mem {i : ι} {l : List ι} (absent : i ∉ l) (r : List ι) :
    before i (l ++ r) = l ++ before i r := by
  induction l with
  | nil => rfl
  | cons j rest ih =>
      obtain ⟨differ, absent⟩ := not_or.mp (mt List.mem_cons.mpr absent)
      rw [List.cons_append, before, if_neg (Ne.symm differ), ih absent, List.cons_append]

theorem before_cons_self (i : ι) (r : List ι) : before i (i :: r) = [] := if_pos rfl

theorem before_subset {i j : ι} {l : List ι} (member : j ∈ before i l) : j ∈ l := by
  induction l with
  | nil => cases member
  | cons k rest ih =>
      simp only [before] at member
      split at member
      · cases member
      · rcases List.mem_cons.mp member with rfl | below
        · exact List.mem_cons_self
        · exact List.mem_cons_of_mem _ (ih below)

end

/-- Programs sharing a server, and those under way in the order they started. -/
structure Pool (ι σ C : Type) (R : C → Type) (ε α : Type) where
  state : σ
  threads : ι → Proc C R ε α
  underWay : List ι

namespace Pool

variable {ι σ C : Type} {R : C → Type} {ε α : Type} [DecidableEq ι]

/-- Deliver the next message of one program, if it has one. -/
def deliver (serve : (c : C) → EStateM ε σ (R c)) (pool : Pool ι σ C R ε α) (i : ι) :
    Option (Pool ι σ C R ε α) :=
  match pool.threads i with
  | .done _ => none
  | .call c next =>
      let answered := serve c pool.state
      let thread := next (EStateResult.outcome answered)
      some {
        state := EStateResult.state answered
        threads := Function.update pool.threads i thread
        underWay :=
          if thread.finished then pool.underWay.filter (· ≠ i)
          else if i ∈ pool.underWay then pool.underWay else pool.underWay ++ [i] }

theorem deliver_call {serve : (c : C) → EStateM ε σ (R c)} {pool : Pool ι σ C R ε α} {i : ι}
    {c : C} {next : Except ε (R c) → Proc C R ε α} {a : R c} {state : σ}
    (thread : pool.threads i = .call c next) (served : serve c pool.state = .ok a state) :
    pool.deliver serve i = some {
      state
      threads := Function.update pool.threads i (next (.ok a))
      underWay :=
        if (next (.ok a)).finished then pool.underWay.filter (· ≠ i)
        else if i ∈ pool.underWay then pool.underWay else pool.underWay ++ [i] } := by
  unfold deliver
  split
  · next done => rw [thread] at done; cases done
  · next call =>
      rw [thread] at call
      cases call
      simp only [served, EStateResult.state_ok, EStateResult.outcome_ok]

theorem deliver_eq {serve : (c : C) → EStateM ε σ (R c)} {pool pool' : Pool ι σ C R ε α} {i : ι}
    {c : C} {next : Except ε (R c) → Proc C R ε α} (thread : pool.threads i = .call c next)
    (delivered : pool.deliver serve i = some pool') :
    pool'.state = EStateResult.state (serve c pool.state) ∧ pool'.threads =
      Function.update pool.threads i (next (EStateResult.outcome (serve c pool.state))) := by
  unfold deliver at delivered
  split at delivered
  · cases delivered
  · next call =>
      rw [thread] at call
      cases call
      cases delivered
      exact ⟨rfl, rfl⟩

theorem deliver_done {serve : (c : C) → EStateM ε σ (R c)} {pool : Pool ι σ C R ε α} {i : ι}
    {outcome : Except ε α} (thread : pool.threads i = .done outcome) :
    pool.deliver serve i = none := by
  unfold deliver
  split
  · rfl
  · next call => rw [thread] at call; cases call

/-- The next message of `i` overtakes nothing: no conflicting program that started
    before `i` is still under way. -/
def Orderly (conflict : ι → ι → Prop) (pool : Pool ι σ C R ε α) (i : ι) : Prop :=
  i ∈ pool.underWay → ∀ j ∈ before i pool.underWay, ¬ conflict i j

instance (conflict : ι → ι → Prop) [DecidableRel conflict] (pool : Pool ι σ C R ε α) (i : ι) :
    Decidable (Orderly conflict pool i) :=
  inferInstanceAs (Decidable (_ → ∀ j ∈ _, ¬ conflict i j))

/-- One order of messages, each allowed in the pool it is delivered in. -/
inductive Interleaving (serve : (c : C) → EStateM ε σ (R c))
    (allowed : Pool ι σ C R ε α → ι → Prop) :
    Pool ι σ C R ε α → List ι → Pool ι σ C R ε α → Prop where
  | nil (pool : Pool ι σ C R ε α) : Interleaving serve allowed pool [] pool
  | cons {pool pool' pool'' : Pool ι σ C R ε α} {i : ι} {schedule : List ι} :
      allowed pool i → pool.deliver serve i = some pool' →
      Interleaving serve allowed pool' schedule pool'' →
      Interleaving serve allowed pool (i :: schedule) pool''

/-- Deliver the messages of a schedule. -/
def play (serve : (c : C) → EStateM ε σ (R c)) (pool : Pool ι σ C R ε α) :
    List ι → Option (Pool ι σ C R ε α)
  | [] => some pool
  | i :: schedule => (pool.deliver serve i).bind fun pool => pool.play serve schedule

theorem play_interleaving {serve : (c : C) → EStateM ε σ (R c)} {pool pool' : Pool ι σ C R ε α}
    {schedule : List ι} (played : pool.play serve schedule = some pool') :
    Interleaving serve (fun _ _ => True) pool schedule pool' := by
  induction schedule generalizing pool with
  | nil =>
      cases played
      exact .nil _
  | cons i schedule ih =>
      obtain ⟨next, delivered, rest⟩ := Option.bind_eq_some_iff.mp played
      exact .cons trivial delivered (ih rest)

/-- What every allowed delivery keeps, every interleaving keeps. -/
theorem Interleaving.invariant {serve : (c : C) → EStateM ε σ (R c)}
    {allowed : Pool ι σ C R ε α → ι → Prop} {I : Pool ι σ C R ε α → Prop}
    (keep : ∀ pool i pool', I pool → allowed pool i → pool.deliver serve i = some pool' → I pool')
    {pool pool' : Pool ι σ C R ε α} {schedule : List ι}
    (run : Interleaving serve allowed pool schedule pool') (start : I pool) : I pool' := by
  induction run with
  | nil => exact start
  | cons permitted delivered _ ih => exact ih (keep _ _ _ start permitted delivered)

/-- The messages of a schedule in the order they are delivered, each with its sender. -/
def sent (serve : (c : C) → EStateM ε σ (R c)) : Pool ι σ C R ε α → List ι → List (ι × C)
  | _, [] => []
  | pool, i :: schedule =>
      match pool.threads i, pool.deliver serve i with
      | .call c _, some pool' => (i, c) :: sent serve pool' schedule
      | _, _ => []

/-- What every delivery keeps of the messages so far and the pool, every interleaving keeps. -/
theorem Interleaving.traced {serve : (c : C) → EStateM ε σ (R c)}
    {allowed : Pool ι σ C R ε α → ι → Prop} {I : List (ι × C) → Pool ι σ C R ε α → Prop}
    (keep : ∀ log pool i c next pool', I log pool → pool.threads i = .call c next →
      pool.deliver serve i = some pool' → I (log ++ [(i, c)]) pool')
    {pool pool' : Pool ι σ C R ε α} {schedule : List ι}
    (run : Interleaving serve allowed pool schedule pool') {log : List (ι × C)}
    (start : I log pool) : I (log ++ sent serve pool schedule) pool' := by
  induction run generalizing log with
  | nil =>
      rw [sent, List.append_nil]
      exact start
  | @cons pool pool' pool'' i schedule _ delivered _ ih =>
      cases thread : pool.threads i with
      | done outcome =>
          rw [deliver_done thread] at delivered
          cases delivered
      | call c next =>
          have later := ih (keep log pool i c next pool' start thread delivered)
          rw [List.append_assoc, List.singleton_append] at later
          simp only [sent, thread, delivered]
          exact later

end Pool

end IntelliL3.Lib
