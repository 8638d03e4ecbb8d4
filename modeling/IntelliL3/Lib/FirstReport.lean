import Mathlib.Algebra.BigOperators.Group.Finset.Basic
import IntelliL3.Lib.Run

/-! # Counting each key once

A machine is told values for keys, and adds up the first value it is told for each. What
it has counted after a history are the keys there was a report for, and the sum is over
their first reports.
-/

namespace IntelliL3.Lib

variable {ε σ C ρ κ M : Type}

/-- The keys counted and the sum of their values, once a report is told. -/
def tell [DecidableEq κ] [Add M] (report : Option (κ × M)) (account : Finset κ × M) :
    Finset κ × M :=
  match report with
  | none => account
  | some (k, v) => if k ∈ account.1 then account else (insert k account.1, account.2 + v)

theorem tell_known [DecidableEq κ] [Add M] {k : κ} {account : Finset κ × M}
    (known : k ∈ account.1) (v : M) : tell (some (k, v)) account = account :=
  if_pos known

theorem tell_new [DecidableEq κ] [Add M] {k : κ} {account : Finset κ × M}
    (new : k ∉ account.1) (v : M) :
    tell (some (k, v)) account = (insert k account.1, account.2 + v) :=
  if_neg new

/-- A new key is counted if the report of it is accepted. -/
theorem tell_accepted [DecidableEq κ] [Add M] (accepted : Prop) [Decidable accepted] (k : κ)
    (v : M) (ids : Finset κ) (sum : M) :
    tell (if accepted then some (k, v) else none) (ids, sum) =
      if accepted ∧ k ∉ ids then (insert k ids, sum + v) else (ids, sum) := by
  by_cases accept : accepted
  · rw [if_pos accept]
    by_cases known : k ∈ ids
    · rw [tell_known known, if_neg fun new => new.2 known]
    · rw [tell_new known, if_pos ⟨accept, known⟩]
  · rw [if_neg accept, if_neg fun new => accept new.1, tell]

section

variable (exec : C → EStateM ε σ ρ) (reports : σ → C → Option (κ × M)) (s : σ)

/-- No call of the history reports a value for the key. -/
def NoReport (calls : List C) (k : κ) : Prop :=
  ∀ pre c post v, calls = pre ++ c :: post → reports (drive exec s pre) c ≠ some (k, v)

/-- The first call of the history that reports a value for the key reports this one. -/
def FirstReport (calls : List C) (k : κ) (v : M) : Prop :=
  ∃ pre c post, calls = pre ++ c :: post ∧ reports (drive exec s pre) c = some (k, v) ∧
    NoReport exec reports s pre k

end

section

variable {exec : C → EStateM ε σ ρ} {reports : σ → C → Option (κ × M)} {s : σ} {calls : List C}
  {c : C} {k : κ} {v : M}

theorem NoReport.concat (none : NoReport exec reports s calls k)
    (last : ∀ v, reports (drive exec s calls) c ≠ some (k, v)) :
    NoReport exec reports s (calls ++ [c]) k := by
  intro pre c' post v split
  rcases post.eq_nil_or_concat with rfl | ⟨front, end_, rfl⟩
  · obtain ⟨rfl, same⟩ := List.append_inj' split rfl
    cases same
    exact last v
  · rw [List.concat_eq_append, ← List.cons_append, ← List.append_assoc] at split
    exact none pre c' front v (List.append_inj' split rfl).1

theorem FirstReport.later (first : FirstReport exec reports s calls k v) (c : C) :
    FirstReport exec reports s (calls ++ [c]) k v := by
  obtain ⟨pre, c', post, rfl, reported, none⟩ := first
  refine ⟨pre, c', post ++ [c], ?_, reported, none⟩
  rw [List.append_assoc, List.cons_append]

variable [AddCommMonoid M] {counted : σ → Finset κ} {total : σ → M}

/-- The keys that are counted and the values they are counted with. -/
structure CountedWith (exec : C → EStateM ε σ ρ) (reports : σ → C → Option (κ × M)) (s : σ)
    (calls : List C) (ids : Finset κ) (sum : M) (value : κ → M) : Prop where
  first : ∀ k ∈ ids, FirstReport exec reports s calls k (value k)
  none : ∀ k, k ∉ ids → NoReport exec reports s calls k
  sum : sum = ∑ k ∈ ids, value k

namespace CountedWith

variable {ids : Finset κ} {sum : M} {value : κ → M}

/-- A call that reports nothing new. -/
theorem keep (counts : CountedWith exec reports s calls ids sum value)
    (known : ∀ k v, reports (drive exec s calls) c = some (k, v) → k ∈ ids) :
    CountedWith exec reports s (calls ++ [c]) ids sum value where
  first k member := (counts.first k member).later c
  none k outside := (counts.none k outside).concat fun v reported =>
    outside (known k v reported)
  sum := counts.sum

/-- A call with the first report for a key. -/
theorem add [DecidableEq κ] (counts : CountedWith exec reports s calls ids sum value)
    (reported : reports (drive exec s calls) c = some (k, v)) (new : k ∉ ids) :
    CountedWith exec reports s (calls ++ [c]) (insert k ids) (sum + v)
      (Function.update value k v) where
  first other member := by
    rcases Finset.mem_insert.mp member with rfl | before
    · rw [Function.update_self]
      exact ⟨calls, c, [], rfl, reported, counts.none _ new⟩
    · rw [Function.update_of_ne (ne_of_mem_of_not_mem before new)]
      exact (counts.first other before).later c
  none other outside := by
    obtain ⟨apart, before⟩ := not_or.mp (mt Finset.mem_insert.mpr outside)
    refine (counts.none other before).concat fun v' also => ?_
    rw [reported] at also
    cases also
    exact apart rfl
  sum := by
    rw [Finset.sum_insert new, Function.update_self, add_comm, counts.sum]
    refine congrArg (v + ·) (Finset.sum_congr rfl fun other before => ?_)
    rw [Function.update_of_ne (ne_of_mem_of_not_mem before new)]

end CountedWith

/-- When every call is told to the account, after a history the sum is that of the first
    values reported for the keys counted. -/
theorem drive_tell [DecidableEq κ]
    (tells : ∀ s c, (counted (EStateResult.state (exec c s)),
      total (EStateResult.state (exec c s))) = tell (reports s c) (counted s, total s))
    (empty : counted s = ∅) (zero : total s = 0) (calls : List C) :
    ∃ value, CountedWith exec reports s calls (counted (drive exec s calls))
      (total (drive exec s calls)) value := by
  induction calls using List.reverseRecOn with
  | nil =>
      refine ⟨fun _ => 0, fun k member => ?_, fun k _ pre c post v split => by simp at split, ?_⟩
      · change k ∈ counted s at member
        rw [empty] at member
        cases member
      · rw [Finset.sum_const_zero]
        exact zero
  | append_singleton calls c ih =>
      obtain ⟨value, counts⟩ := ih
      rw [drive_concat]
      have told := tells (drive exec s calls) c
      cases report : reports (drive exec s calls) c with
      | none =>
          rw [report] at told
          obtain ⟨keys, sum⟩ := Prod.mk.inj told
          rw [keys, sum]
          exact ⟨value, counts.keep fun k v reported => by rw [report] at reported; cases reported⟩
      | some new =>
          obtain ⟨k, v⟩ := new
          rw [report] at told
          by_cases known : k ∈ counted (drive exec s calls)
          · rw [tell_known known] at told
            obtain ⟨keys, sum⟩ := Prod.mk.inj told
            rw [keys, sum]
            refine ⟨value, counts.keep fun k' v' reported => ?_⟩
            rw [report] at reported
            cases reported
            exact known
          · rw [tell_new known] at told
            obtain ⟨keys, sum⟩ := Prod.mk.inj told
            rw [keys, sum]
            exact ⟨_, counts.add report known⟩

end

end IntelliL3.Lib
