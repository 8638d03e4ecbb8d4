import Mathlib.Data.List.Forall2

/-! # Runs of a machine that may raise

A machine executes calls on a state; a call returns or raises, and the state it
leaves behind is kept in both cases. `Run` is a history in which every call
returned, `drive` one in which the caller goes on after an exception.
-/

namespace IntelliL3.Lib

/-! ## Actions applied to a state -/

section

variable {ε σ τ α β : Type}

theorem bind_run (first : EStateM ε σ α) (next : α → EStateM ε σ β) (s : σ) :
    (first >>= next) s = match first s with
      | .ok a s => next a s
      | .error e s => .error e s := rfl

theorem bind_error {first : EStateM ε σ α} {s s' : σ} {e : ε} (raised : first s = .error e s')
    (next : α → EStateM ε σ β) : (first >>= next) s = .error e s' := by
  rw [bind_run, raised]

/-- An action that returns has returned at each of its two stages. -/
theorem bind_run_ok {first : EStateM ε σ α} {next : α → EStateM ε σ β} {s s' : σ} {b : β} :
    (first >>= next) s = .ok b s' ↔ ∃ a m, first s = .ok a m ∧ next a m = .ok b s' := by
  rw [bind_run]
  cases first s with
  | error e m => simp only [reduceCtorEq, false_and, exists_false]
  | ok a m => simp only [EStateM.Result.ok.injEq, and_assoc, exists_and_left, exists_eq_left']

@[simp] theorem pure_run (a : α) (s : σ) : (pure a : EStateM ε σ α) s = .ok a s := rfl

@[simp] theorem get_run (s : σ) : (get : EStateM ε σ σ) s = .ok s s := rfl

@[simp] theorem set_run (s s' : σ) : (set s' : EStateM ε σ PUnit) s = .ok ⟨⟩ s' := rfl

@[simp] theorem modify_run (f : σ → σ) (s : σ) :
    (modify f : EStateM ε σ PUnit) s = .ok ⟨⟩ (f s) := rfl

@[simp] theorem modifyGet_run (f : σ → α × σ) (s : σ) :
    (modifyGet f : EStateM ε σ α) s = .ok (f s).1 (f s).2 := rfl

@[simp] theorem throw_run (e : ε) (s : σ) : (throw e : EStateM ε σ α) s = .error e s := rfl

theorem tryCatch_run (body : EStateM ε σ α) (handler : ε → EStateM ε σ α) (s : σ) :
    tryCatch body handler s = match body s with
      | .ok a s => .ok a s
      | .error e s => handler e s := by
  change EStateM.tryCatch body handler s = _
  delta EStateM.tryCatch
  cases body s <;> rfl

theorem ok_bind (a : α) (next : α → Except ε β) : (Except.ok a >>= next) = next a := rfl

/-- A computation that succeeds has succeeded at each of its two stages. -/
theorem bind_eq_ok {first : Except ε α} {next : α → Except ε β} {b : β} :
    first >>= next = .ok b ↔ ∃ a, first = .ok a ∧ next a = .ok b := by
  cases first with
  | error e => simp [bind, Except.bind]
  | ok a => simp [bind, Except.bind]

/-- What is made of the result of a computation. -/
theorem exists_made_ok {first : Except ε α} {f : α → β} {Q : β → Prop} :
    (∃ b, (first >>= fun a => pure (f a)) = .ok b ∧ Q b) ↔ ∃ a, first = .ok a ∧ Q (f a) := by
  constructor
  · rintro ⟨b, made, holds⟩
    obtain ⟨a, done, same⟩ := bind_eq_ok.mp made
    cases same
    exact ⟨a, done, holds⟩
  · rintro ⟨a, done, holds⟩
    exact ⟨f a, bind_eq_ok.mpr ⟨a, done, rfl⟩, holds⟩

/-- A loop of computations succeeds exactly when each of them does. -/
theorem mapM_succeeds_iff {f : α → Except ε β} {items : List α} :
    (∃ bs, items.mapM f = .ok bs) ↔ ∀ a ∈ items, ∃ b, f a = .ok b := by
  induction items with
  | nil => exact ⟨fun _ a member => (List.not_mem_nil member).elim, fun _ => ⟨[], rfl⟩⟩
  | cons a rest ih =>
      rw [List.forall_mem_cons, ← ih, List.mapM_cons]
      constructor
      · rintro ⟨bs, done⟩
        obtain ⟨b, first, done⟩ := bind_eq_ok.mp done
        obtain ⟨later, done, -⟩ := bind_eq_ok.mp done
        exact ⟨⟨b, first⟩, later, done⟩
      · rintro ⟨⟨b, first⟩, later, done⟩
        exact ⟨b :: later, by rw [first, done]; rfl⟩

/-- What a loop of computations returns, one by one. -/
theorem forall₂_of_mapM {f : α → Except ε β} {items : List α} {bs : List β}
    (done : items.mapM f = .ok bs) : List.Forall₂ (fun a b => f a = .ok b) items bs := by
  induction items generalizing bs with
  | nil =>
      cases done
      exact .nil
  | cons a rest ih =>
      rw [List.mapM_cons] at done
      obtain ⟨b, first, done⟩ := bind_eq_ok.mp done
      obtain ⟨later, more, same⟩ := bind_eq_ok.mp done
      cases same
      exact .cons first (ih more)

theorem mapM_returned {f : α → Except ε β} {items : List α} {bs : List β}
    (done : items.mapM f = .ok bs) :
    bs.length = items.length ∧
      ∀ (i : Nat) a, items[i]? = some a → ∃ b, bs[i]? = some b ∧ f a = .ok b := by
  have each := forall₂_of_mapM done
  refine ⟨each.length_eq.symm, fun i a here => ?_⟩
  obtain ⟨inside, rfl⟩ := List.getElem?_eq_some_iff.mp here
  have inside' : i < bs.length := each.length_eq ▸ inside
  exact ⟨bs[i], List.getElem?_eq_getElem inside', each.get inside inside'⟩

theorem mem_mapM_iff {f : α → Except ε β} {items : List α} {bs : List β}
    (done : items.mapM f = .ok bs) {b : β} : b ∈ bs ↔ ∃ a ∈ items, f a = .ok b := by
  obtain ⟨length, each⟩ := mapM_returned done
  constructor
  · intro member
    obtain ⟨i, inside, here⟩ := List.mem_iff_getElem.mp member
    have inside' := length ▸ inside
    obtain ⟨b', there, returned⟩ := each i _ (List.getElem?_eq_getElem inside')
    rw [List.getElem?_eq_getElem inside, here, Option.some.injEq] at there
    exact ⟨items[i], List.getElem_mem inside', there ▸ returned⟩
  · rintro ⟨a, member, returned⟩
    obtain ⟨i, here⟩ := List.mem_iff_getElem?.mp member
    obtain ⟨b', there, returned'⟩ := each i a here
    rw [returned, Except.ok.injEq] at returned'
    exact returned' ▸ List.mem_of_getElem? there

/-- A loop of tests none of which raises. -/
theorem allM_ok {f : α → Except ε Bool} {g : α → Bool} {items : List α}
    (each : ∀ a ∈ items, f a = .ok (g a)) : items.allM f = .ok (items.all g) := by
  induction items with
  | nil => rfl
  | cons a rest ih =>
      rw [List.forall_mem_cons] at each
      rw [List.allM, each.1, ok_bind, List.all_cons]
      cases g a with
      | false => rfl
      | true => exact ih each.2

/-- Let an action work on one component of a larger state. -/
def zoom (read : σ → τ) (write : σ → τ → σ) (action : EStateM ε τ α) : EStateM ε σ α :=
  fun s => match action (read s) with
    | .ok a t => .ok a (write s t)
    | .error e t => .error e (write s t)

/-- Raise the exception of a pure computation. -/
def raising (result : Except ε α) : EStateM ε σ α :=
  fun s => match result with
    | .ok a => .ok a s
    | .error e => .error e s

@[simp] theorem raising_ok (a : α) (s : σ) : (raising (.ok a) : EStateM ε σ α) s = .ok a s := rfl

@[simp] theorem raising_error (e : ε) (s : σ) :
    (raising (.error e) : EStateM ε σ α) s = .error e s := rfl

theorem raising_eq_ok {result : Except ε α} {s s' : σ} {a : α} :
    raising result s = .ok a s' ↔ result = .ok a ∧ s' = s := by
  cases result with
  | ok b => simp only [raising_ok, EStateM.Result.ok.injEq, Except.ok.injEq, eq_comm]
  | error e => simp only [raising_error, reduceCtorEq, false_and]

/-- What returns has passed the checks made first. -/
theorem check_passed {failed : Prop} [Decidable failed] {e : ε} {rest : ¬ failed → Except ε α}
    {a : α} (returned : (if wrong : failed then .error e else rest wrong) = .ok a) :
    ∃ allowed, rest allowed = .ok a := by
  split at returned
  · cases returned
  · next allowed => exact ⟨allowed, returned⟩

theorem zoom_run (read : σ → τ) (write : σ → τ → σ) (action : EStateM ε τ α) (s : σ) :
    zoom read write action s = match action (read s) with
      | .ok a t => .ok a (write s t)
      | .error e t => .error e (write s t) := rfl

/-- An action on a component returns what it returns there. -/
theorem zoom_eq_ok {read : σ → τ} {write : σ → τ → σ} {action : EStateM ε τ α} {s s' : σ} {a : α} :
    zoom read write action s = .ok a s' ↔
      ∃ t, action (read s) = .ok a t ∧ s' = write s t := by
  rw [zoom_run]
  cases action (read s) with
  | ok b t =>
      simp only [EStateM.Result.ok.injEq]
      exact ⟨fun ⟨value, state⟩ => ⟨t, ⟨value, rfl⟩, state.symm⟩,
        fun ⟨_, ⟨value, same⟩, state⟩ => ⟨value, by rw [state, same]⟩⟩
  | error e t => simp only [reduceCtorEq, false_and, exists_false]

/-- Reading and writing a component as one reads and writes a field. -/
structure ZoomLaws (read : σ → τ) (write : σ → τ → σ) : Prop where
  read_write : ∀ s t, read (write s t) = t
  write_read : ∀ s, write s (read s) = s
  write_write : ∀ s t t', write (write s t) t' = write s t'

theorem zoom_raising {read : σ → τ} {write : σ → τ → σ} (laws : ZoomLaws read write)
    (result : Except ε α) : zoom read write (raising result) = raising result := by
  funext s
  cases result <;> simp only [zoom_run, raising_ok, raising_error, laws.write_read]

theorem zoom_bind {read : σ → τ} {write : σ → τ → σ} (laws : ZoomLaws read write)
    (first : EStateM ε τ α) (next : α → EStateM ε τ β) :
    zoom read write (first >>= next) =
      zoom read write first >>= fun a => zoom read write (next a) := by
  funext s
  rw [zoom_run, bind_run, bind_run, zoom_run]
  cases first (read s) with
  | error e t => rfl
  | ok a t =>
      simp only [zoom_run, laws.read_write]
      cases next a t <;> simp only [laws.write_write]

theorem zoom_tryCatch {read : σ → τ} {write : σ → τ → σ} (laws : ZoomLaws read write)
    (body : EStateM ε τ α) (handler : ε → EStateM ε τ α) :
    zoom read write (tryCatch body handler) =
      tryCatch (zoom read write body) fun e => zoom read write (handler e) := by
  funext s
  rw [zoom_run, tryCatch_run, tryCatch_run, zoom_run]
  cases body (read s) with
  | ok a t => rfl
  | error e t =>
      simp only [zoom_run, laws.read_write]
      cases handler e t <;> simp only [laws.write_write]

end

namespace EStateResult

variable {ε σ α β : Type}

/-- The state left behind, returned or raised. -/
def state : EStateM.Result ε σ α → σ
  | .ok _ s | .error _ s => s

/-- The value returned or the exception raised. -/
def outcome : EStateM.Result ε σ α → Except ε α
  | .ok a _ => .ok a
  | .error e _ => .error e

@[simp] theorem state_ok (a : α) (s : σ) : state (.ok a s : EStateM.Result ε σ α) = s := rfl

@[simp] theorem state_error (e : ε) (s : σ) :
    state (.error e s : EStateM.Result ε σ α) = s := rfl

@[simp] theorem outcome_ok (a : α) (s : σ) :
    outcome (.ok a s : EStateM.Result ε σ α) = .ok a := rfl

theorem outcome_eq_ok {result : EStateM.Result ε σ α} {a : α} :
    outcome result = .ok a ↔ ∃ s, result = .ok a s := by
  cases result <;> simp [outcome]

/-- What a lookup that returned has found. -/
def found (result : EStateM.Result ε σ (Option α)) : Option α :=
  (outcome result).toOption.join

theorem found_eq_some_iff {result : EStateM.Result ε σ (Option α)} {a : α} :
    found result = some a ↔ outcome result = .ok (some a) := by
  cases result with
  | ok answer s => cases answer <;> simp [found, outcome, Except.toOption]
  | error e s => simp [found, outcome, Except.toOption]

/-- What was evaluated of an answer holds of the answer. -/
theorem exists_answer {result : EStateM.Result ε σ α} {f : α → β} {b : β}
    (evaluated : (outcome result).toOption.map f = some b) :
    ∃ a s, result = .ok a s ∧ f a = b := by
  cases result with
  | ok a s => exact ⟨a, s, rfl, Option.some.inj evaluated⟩
  | error e s => cases evaluated

/-- Wrapping what an action returns does not touch the state it leaves. -/
theorem state_wrapped (action : EStateM ε σ α) (wrap : α → β) (s : σ) :
    state ((action >>= fun a => pure (wrap a)) s) = state (action s) := by
  rw [bind_run]
  cases action s <;> rfl

theorem outcome_wrapped (action : EStateM ε σ α) (wrap : α → β) (s : σ) :
    outcome ((action >>= fun a => pure (wrap a)) s) = wrap <$> outcome (action s) := by
  rw [bind_run]
  cases action s <;> rfl

theorem state_map (f : α → β) (action : EStateM ε σ α) (s : σ) :
    state ((f <$> action) s) = state (action s) :=
  state_wrapped action f s

theorem outcome_map (f : α → β) (action : EStateM ε σ α) (s : σ) :
    outcome ((f <$> action) s) = f <$> outcome (action s) :=
  outcome_wrapped action f s

end EStateResult

section

variable {ε σ C ρ α : Type} {exec : C → EStateM ε σ ρ}

/-- A history of calls that all returned normally, with what they returned. -/
inductive Run (exec : C → EStateM ε σ ρ) : σ → List C → List ρ → σ → Prop where
  | nil (s : σ) : Run exec s [] [] s
  | cons {s s' s'' : σ} {c : C} {r : ρ} {calls : List C} {replies : List ρ} :
      exec c s = .ok r s' → Run exec s' calls replies s'' →
      Run exec s (c :: calls) (r :: replies) s''

/-- The state after a history in which calls may also raise. -/
def drive (exec : C → EStateM ε σ ρ) (s : σ) (calls : List C) : σ :=
  calls.foldl (fun s c => EStateResult.state (exec c s)) s

/-- What the calls of such a history return or raise, one by one. -/
def outcomes (exec : C → EStateM ε σ ρ) (s : σ) : List C → List (Except ε ρ)
  | [] => []
  | c :: calls =>
      EStateResult.outcome (exec c s) :: outcomes exec (EStateResult.state (exec c s)) calls

namespace Run

/-- What every normal step preserves, every run preserves. -/
theorem invariant {I : σ → Prop}
    (keep : ∀ s c r s', I s → exec c s = .ok r s' → I s')
    {s s' : σ} {calls : List C} {replies : List ρ}
    (run : Run exec s calls replies s') (start : I s) : I s' := by
  induction run with
  | nil => exact start
  | cons step _ ih => exact ih (keep _ _ _ _ start step)

theorem length_eq {s s' : σ} {calls : List C} {replies : List ρ}
    (run : Run exec s calls replies s') : replies.length = calls.length := by
  induction run with
  | nil => rfl
  | cons _ _ ih => rw [List.length_cons, ih, List.length_cons]

theorem mem_replies {s s' : σ} {calls : List C} {replies : List ρ}
    (run : Run exec s calls replies s') {r : ρ} (among : r ∈ replies) :
    ∃ c ∈ calls, ∃ m m', exec c m = .ok r m' := by
  induction run with
  | nil => cases among
  | cons step _ ih =>
      rcases List.mem_cons.mp among with rfl | later
      · exact ⟨_, List.mem_cons_self, _, _, step⟩
      · obtain ⟨c, called, returned⟩ := ih later
        exact ⟨c, List.mem_cons_of_mem _ called, returned⟩

/-- A history goes through a state between any two of its calls. -/
theorem append_iff {s s' : σ} {pre post : List C} {replies : List ρ} :
    Run exec s (pre ++ post) replies s' ↔ ∃ before after m, replies = before ++ after ∧
      Run exec s pre before m ∧ Run exec m post after s' := by
  induction pre generalizing s replies with
  | nil =>
      constructor
      · exact fun run => ⟨[], replies, s, rfl, .nil s, run⟩
      · rintro ⟨_, after, m, rfl, ⟨⟩, run⟩
        exact run
  | cons c rest ih =>
      constructor
      · rintro (_ | ⟨step, later⟩)
        obtain ⟨before, after, m, rfl, first, second⟩ := ih.mp later
        exact ⟨_ :: before, after, m, rfl, .cons step first, second⟩
      · rintro ⟨_, after, m, rfl, ⟨⟩ | ⟨step, first⟩, second⟩
        exact .cons step (ih.mpr ⟨_, after, m, rfl, first, second⟩)

/-- What holds before the first call of a run and before each of the others holds before all. -/
theorem before_each_cons {P : σ → C → Prop} {s m : σ} {c : C} {r : ρ} {calls : List C}
    (first : P s c) (step : exec c s = .ok r m)
    (others : ∀ pre other post replies reached, calls = pre ++ other :: post →
      Run exec m pre replies reached → P reached other) :
    ∀ pre other post replies reached, c :: calls = pre ++ other :: post →
      Run exec s pre replies reached → P reached other := by
  intro pre other post replies reached split run
  cases run with
  | nil =>
      cases split
      exact first
  | cons step' rest =>
      obtain ⟨rfl, later⟩ := List.cons.inj split
      cases step.symm.trans step'
      exact others _ _ _ _ _ later rest

theorem before_each_nil {P : σ → C → Prop} {s : σ} :
    ∀ pre other post replies reached, [] = pre ++ other :: post →
      Run exec s pre replies reached → P reached other := by
  intro pre other post replies reached split
  exact absurd split.symm (List.append_ne_nil_of_right_ne_nil _ (List.cons_ne_nil _ _))

/-- A loop that returns has run through all its calls. -/
theorem of_forM {exec : C → EStateM ε σ PUnit} {calls : List C} {u : PUnit} {s s' : σ}
    (returned : (calls.forM exec) s = .ok u s') : ∃ replies, Run exec s calls replies s' := by
  induction calls generalizing s with
  | nil =>
      cases returned
      exact ⟨[], .nil _⟩
  | cons c rest ih =>
      change (exec c >>= fun _ => rest.forM exec) s = .ok u s' at returned
      obtain ⟨reply, m, called, later⟩ := bind_run_ok.mp returned
      obtain ⟨replies, run⟩ := ih later
      exact ⟨reply :: replies, .cons called run⟩

/-- What holds of the state before each call of a list, by its place, and of what it replies. -/
theorem indexed {f : Nat → C} {I : Nat → σ → Prop} {Q : Nat → ρ → Prop}
    (keep : ∀ k s r s', I k s → exec (f k) s = .ok r s' → Q k r ∧ I (k + 1) s')
    {n : Nat} {s s' : σ} {replies : List ρ} (run : Run exec s ((List.range n).map f) replies s')
    (start : I 0 s) : List.Forall₂ Q (List.range n) replies ∧ I n s' := by
  rw [List.range_eq_range'] at run ⊢
  suffices from_k : ∀ k, I k s → Run exec s ((List.range' k n).map f) replies s' →
      List.Forall₂ Q (List.range' k n) replies ∧ I (k + n) s' by
    have all := from_k 0 start run
    rwa [Nat.zero_add] at all
  clear run start
  induction n generalizing s replies with
  | zero =>
      rintro k start ⟨⟩
      exact ⟨.nil, start⟩
  | succ n ih =>
      intro k start run
      rw [List.range'_succ, List.map_cons] at run
      cases run with
      | cons step later =>
          obtain ⟨reply, next⟩ := keep k _ _ _ start step
          obtain ⟨rest, final⟩ := ih (k + 1) next later
          rw [List.range'_succ]
          exact ⟨.cons reply rest, by rwa [Nat.add_right_comm] at final⟩

/-- A step simulation between two machines lifts to their histories of the same calls. -/
theorem related {τ ρ' : Type} {other : C → EStateM ε τ ρ'} {R : σ → τ → Prop} {Q : ρ → ρ' → Prop}
    (keep : ∀ s t c r s' r' t', R s t → exec c s = .ok r s' → other c t = .ok r' t' →
      Q r r' ∧ R s' t')
    {s s' : σ} {t t' : τ} {calls : List C} {replies : List ρ} {replies' : List ρ'}
    (run : Run exec s calls replies s') (run' : Run other t calls replies' t') (start : R s t) :
    List.Forall₂ Q replies replies' ∧ R s' t' := by
  induction run generalizing t replies' with
  | nil =>
      cases run'
      exact ⟨.nil, start⟩
  | cons step _ ih =>
      cases run' with
      | cons step' later' =>
          obtain ⟨reply, next⟩ := keep _ _ _ _ _ _ _ start step step'
          obtain ⟨rest, final⟩ := ih later' next
          exact ⟨.cons reply rest, final⟩

/-- The replies an abstract machine gives, call by call. -/
def answers (apply : α → C → α) (answer : α → C → ρ) : α → List C → List ρ
  | _, [] => []
  | a, c :: calls => answer a c :: answers apply answer (apply a c) calls

/-- A step simulation lifts to runs: the abstract machine gives the same replies
    and ends in a related state. -/
theorem simulates {R : σ → α → Prop} {apply : α → C → α} {answer : α → C → ρ}
    (simulate : ∀ s a c r s', R s a → exec c s = .ok r s' → r = answer a c ∧ R s' (apply a c))
    {s s' : σ} {a : α} {calls : List C} {replies : List ρ}
    (run : Run exec s calls replies s') (related : R s a) :
    replies = answers apply answer a calls ∧ R s' (calls.foldl apply a) := by
  induction run generalizing a with
  | nil => exact ⟨rfl, related⟩
  | cons step _ ih =>
      obtain ⟨reply, next⟩ := simulate _ _ _ _ _ related step
      obtain ⟨rest, final⟩ := ih next
      exact ⟨by rw [answers, reply, rest], final⟩

/-- When a step condition is exactly what keeps an agreement alive, the agreement
    holds in every state of a run iff every step of the run meets the condition. -/
theorem all_reached_iff {Inv Agree : σ → Prop} {Cond : σ → C → Prop}
    (agree : ∀ s, Inv s → Agree s)
    (keep : ∀ s c r s', Inv s → Cond s c → exec c s = .ok r s' → Inv s')
    (lose : ∀ s c r s', Inv s → ¬ Cond s c → exec c s = .ok r s' → ¬ Agree s')
    {s₀ s : σ} {calls : List C} {replies : List ρ}
    (run : Run exec s₀ calls replies s) (start : Inv s₀) :
    (∀ pre post rs m, calls = pre ++ post → Run exec s₀ pre rs m → Agree m) ↔
      ∀ pre c post rs m, calls = pre ++ c :: post → Run exec s₀ pre rs m → Cond m c := by
  induction run with
  | nil s =>
      refine ⟨fun _ pre c post _ _ same => by simp at same, fun _ pre post rs m same reached => ?_⟩
      obtain ⟨rfl, rfl⟩ := List.nil_eq_append_iff.mp same
      cases reached
      exact agree _ start
  | @cons s s' s'' c r calls replies step tail ih =>
      by_cases meets : Cond s c
      · have rest := ih (keep _ _ _ _ start meets step)
        constructor
        · intro always pre c' post rs m same reached
          cases reached with
          | nil =>
              obtain ⟨rfl, -⟩ := List.cons.inj same
              exact meets
          | cons step' reached' =>
              obtain ⟨rfl, same'⟩ := List.cons.inj same
              rw [step] at step'
              cases step'
              refine rest.mp ?_ _ _ _ _ _ same' reached'
              exact fun pre post rs m split reach =>
                always (_ :: pre) post (_ :: rs) m (by rw [split]; rfl) (.cons step reach)
        · intro always pre post rs m same reached
          cases reached with
          | nil => exact agree _ start
          | cons step' reached' =>
              obtain ⟨rfl, same'⟩ := List.cons.inj same
              rw [step] at step'
              cases step'
              refine rest.mpr ?_ _ _ _ _ same' reached'
              exact fun pre c post rs m split reach =>
                always (_ :: pre) c post (_ :: rs) m (by rw [split]; rfl) (.cons step reach)
      · constructor
        · intro always
          exact absurd (always [c] calls [r] s' rfl (.cons step (.nil _)))
            (lose _ _ _ _ start meets step)
        · intro always
          exact absurd (always [] c calls [] s rfl (.nil _)) meets

end Run

/-- What every call of a history preserves, returning or raising, the history
    preserves. -/
theorem drive_invariant {I : σ → Prop} {calls : List C}
    (keep : ∀ s, ∀ c ∈ calls, I s → I (EStateResult.state (exec c s)))
    {s : σ} (start : I s) : I (drive exec s calls) := by
  induction calls generalizing s with
  | nil => exact start
  | cons c rest ih =>
      exact ih (fun s c later => keep s c (List.mem_cons_of_mem _ later))
        (keep s c List.mem_cons_self start)

/-- When a condition on a call is exactly what keeps an agreement alive, the agreement holds
    in every state of a history iff every call of it meets the condition. The invariant
    may look at the calls still to come. -/
theorem drive_all_reached_iff {Inv : σ → List C → Prop} {Agree : σ → Prop} {Cond : σ → C → Prop}
    (agree : ∀ s rest, Inv s rest → Agree s)
    (keep : ∀ s c rest, Inv s (c :: rest) → Cond s c → Inv (EStateResult.state (exec c s)) rest)
    (lose : ∀ s c rest, Inv s (c :: rest) → ¬ Cond s c → ¬ Agree (EStateResult.state (exec c s)))
    {s : σ} {calls : List C} (start : Inv s calls) :
    (∀ pre post, calls = pre ++ post → Agree (drive exec s pre)) ↔
      ∀ pre c post, calls = pre ++ c :: post → Cond (drive exec s pre) c := by
  induction calls generalizing s with
  | nil =>
      refine ⟨fun _ pre c post same => by simp at same, fun _ pre post same => ?_⟩
      obtain ⟨rfl, -⟩ := List.nil_eq_append_iff.mp same
      exact agree s [] start
  | cons c rest ih =>
      by_cases meets : Cond s c
      · have later := ih (keep s c rest start meets)
        constructor
        · intro always pre c' post same
          cases pre with
          | nil =>
              obtain ⟨rfl, -⟩ := List.cons.inj same
              exact meets
          | cons c'' pre =>
              obtain ⟨rfl, tail⟩ := List.cons.inj same
              refine later.mp (fun pre post split => ?_) pre c' post tail
              exact always (c :: pre) post (by rw [split]; rfl)
        · intro always pre post same
          cases pre with
          | nil => exact agree s _ start
          | cons c'' pre =>
              obtain ⟨rfl, tail⟩ := List.cons.inj same
              refine later.mpr (fun pre c' post split => ?_) pre post tail
              exact always (c :: pre) c' post (by rw [split]; rfl)
      · constructor
        · intro always
          exact absurd (always [c] rest rfl) (lose s c rest start meets)
        · intro always
          exact absurd (always [] c rest rfl) meets

/-- How many calls of a history are of a kind, in the states they are made in. -/
def tally (exec : C → EStateM ε σ ρ) (kind : σ → C → Bool) : σ → List C → Nat
  | _, [] => 0
  | s, c :: calls =>
      (if kind s c then 1 else 0) + tally exec kind (EStateResult.state (exec c s)) calls

/-- A measure that each call of a kind raises by one, and no other call changes, counts the
    calls of the kind. -/
theorem drive_tally {I : σ → Prop} (measure : σ → Nat) {kind : σ → C → Bool} {calls : List C}
    (keep : ∀ s, ∀ c ∈ calls, I s → I (EStateResult.state (exec c s)) ∧
      measure (EStateResult.state (exec c s)) = measure s + if kind s c then 1 else 0)
    {s : σ} (start : I s) :
    measure (drive exec s calls) = measure s + tally exec kind s calls := by
  induction calls generalizing s with
  | nil => rfl
  | cons c rest ih =>
      obtain ⟨kept, raised⟩ := keep s c List.mem_cons_self start
      have later := ih (fun s c member => keep s c (List.mem_cons_of_mem _ member)) kept
      calc measure (drive exec (EStateResult.state (exec c s)) rest)
          = measure s + (if kind s c then 1 else 0) +
              tally exec kind (EStateResult.state (exec c s)) rest := by rw [later, raised]
        _ = measure s + tally exec kind s (c :: rest) := Nat.add_assoc _ _ _

theorem drive_singleton (s : σ) (c : C) : drive exec s [c] = EStateResult.state (exec c s) := rfl

theorem drive_append (s : σ) (pre post : List C) :
    drive exec s (pre ++ post) = drive exec (drive exec s pre) post :=
  List.foldl_append

theorem drive_concat (s : σ) (calls : List C) (c : C) :
    drive exec s (calls ++ [c]) = EStateResult.state (exec c (drive exec s calls)) := by
  simp only [drive, List.foldl_append, List.foldl_cons, List.foldl_nil]

/-- Two machines give the same outcomes exactly when each call does, made where the
    calls before it lead. -/
theorem outcomes_eq_iff {τ : Type} {other : C → EStateM ε τ ρ} (s : σ) (t : τ) (calls : List C) :
    outcomes exec s calls = outcomes other t calls ↔ ∀ pre c post, calls = pre ++ c :: post →
      EStateResult.outcome (exec c (drive exec s pre)) =
        EStateResult.outcome (other c (drive other t pre)) := by
  induction calls generalizing s t with
  | nil => exact ⟨fun _ pre c post same => by simp at same, fun _ => rfl⟩
  | cons c rest ih =>
      rw [outcomes, outcomes, List.cons.injEq, ih]
      constructor
      · rintro ⟨first, later⟩ pre c' post same
        cases pre with
        | nil =>
            obtain ⟨rfl, -⟩ := List.cons.inj same
            exact first
        | cons c'' pre =>
            obtain ⟨rfl, tail⟩ := List.cons.inj same
            exact later pre c' post tail
      · intro every
        refine ⟨every [] c rest rfl, fun pre c' post same => ?_⟩
        exact every (c :: pre) c' post (by rw [same]; rfl)

/-- Two machines give the same outcomes when each call does in related states, and leads to
    related states. -/
theorem outcomes_related {τ : Type} {other : C → EStateM ε τ ρ} {R : σ → τ → Prop}
    {calls : List C}
    (keep : ∀ s t, ∀ c ∈ calls, R s t →
      EStateResult.outcome (exec c s) = EStateResult.outcome (other c t) ∧
        R (EStateResult.state (exec c s)) (EStateResult.state (other c t)))
    {s : σ} {t : τ} (start : R s t) : outcomes exec s calls = outcomes other t calls := by
  induction calls generalizing s t with
  | nil => rfl
  | cons c rest ih =>
      obtain ⟨same, next⟩ := keep s t c List.mem_cons_self start
      rw [outcomes, outcomes, same,
        ih (fun s t c later => keep s t c (List.mem_cons_of_mem _ later)) next]

/-- What every call keeps between two machines, a history keeps. -/
theorem drive_related {τ : Type} {other : C → EStateM ε τ ρ} {R : σ → τ → Prop}
    (keep : ∀ s t c, R s t → R (EStateResult.state (exec c s)) (EStateResult.state (other c t)))
    {s : σ} {t : τ} (start : R s t) (calls : List C) :
    R (drive exec s calls) (drive other t calls) := by
  induction calls generalizing s t with
  | nil => exact start
  | cons c rest ih => exact ih (keep s t c start)

end

/-- What the body of a loop preserves when it returns, the loop preserves. -/
theorem forM_invariant {ε σ α : Type} {body : α → EStateM ε σ PUnit} {I : σ → Prop}
    (keep : ∀ a s s', I s → body a s = .ok ⟨⟩ s' → I s') {items : List α} {s s' : σ}
    (start : I s) (done : items.forM body s = .ok ⟨⟩ s') : I s' := by
  induction items generalizing s with
  | nil =>
      cases done
      exact start
  | cons a rest ih =>
      change (body a >>= fun _ => rest.forM body) s = _ at done
      obtain ⟨_, m, first, done⟩ := bind_run_ok.mp done
      exact ih (keep a s m start first) done

/-- What the body of a loop preserves, returning or raising, the loop preserves. -/
theorem forM_keeps {ε σ α : Type} {body : α → EStateM ε σ PUnit} {I : σ → Prop}
    (keep : ∀ a s, I s → I (EStateResult.state (body a s))) (items : List α) {s : σ}
    (start : I s) : I (EStateResult.state (items.forM body s)) := by
  induction items generalizing s with
  | nil => exact start
  | cons a rest ih =>
      change I (EStateResult.state ((body a >>= fun _ => rest.forM body) s))
      rw [bind_run]
      have first := keep a s start
      cases step : body a s with
      | error e m =>
          rw [step] at first
          exact first
      | ok _ m =>
          rw [step] at first
          exact ih first

/-- A loop returns when its body does, and keeps what holds of the state. -/
theorem forM_returns {ε σ α : Type} {body : α → EStateM ε σ PUnit} {I : σ → Prop} {items : List α}
    (keep : ∀ a ∈ items, ∀ s, I s → ∃ s', body a s = .ok ⟨⟩ s' ∧ I s') {s : σ} (start : I s) :
    ∃ s', items.forM body s = .ok ⟨⟩ s' ∧ I s' := by
  induction items generalizing s with
  | nil => exact ⟨s, rfl, start⟩
  | cons a rest ih =>
      obtain ⟨m, first, held⟩ := keep a List.mem_cons_self s start
      obtain ⟨s', later, final⟩ := ih (fun b member => keep b (List.mem_cons_of_mem a member)) held
      refine ⟨s', ?_, final⟩
      change (body a >>= fun _ => rest.forM body) s = _
      rw [bind_run, first]
      exact later

/-- A loop whose body changes nothing changes nothing. -/
theorem forM_idle {ε σ α : Type} {body : α → EStateM ε σ PUnit} {items : List α} {s : σ}
    (idle : ∀ a ∈ items, body a s = .ok ⟨⟩ s) : items.forM body s = .ok ⟨⟩ s := by
  induction items with
  | nil => rfl
  | cons a rest ih =>
      change (body a >>= fun _ => rest.forM body) s = _
      rw [bind_run, idle a List.mem_cons_self]
      exact ih fun b later => idle b (List.mem_cons_of_mem a later)

theorem foldlM_idle {ε σ α β : Type} {body : β → α → EStateM ε σ β} {items : List α} {b : β}
    {s : σ} (idle : ∀ a ∈ items, body b a s = .ok b s) : items.foldlM body b s = .ok b s := by
  induction items with
  | nil => rfl
  | cons a rest ih =>
      rw [List.foldlM_cons, bind_run, idle a List.mem_cons_self]
      exact ih fun a' later => idle a' (List.mem_cons_of_mem a later)

/-- A loop whose body always returns, and keeps what holds of the state, returns. -/
theorem foldlM_returns {ε σ α β : Type} {body : β → α → EStateM ε σ β} {I : σ → Prop}
    (keep : ∀ b a s, I s → ∃ b' s', body b a s = .ok b' s' ∧ I s') (items : List α) (b : β)
    {s : σ} (start : I s) : ∃ b' s', items.foldlM body b s = .ok b' s' ∧ I s' := by
  induction items generalizing b s with
  | nil => exact ⟨b, s, rfl, start⟩
  | cons a rest ih =>
      obtain ⟨b', m, first, held⟩ := keep b a s start
      obtain ⟨b'', s', later, final⟩ := ih b' held
      refine ⟨b'', s', ?_, final⟩
      rw [List.foldlM_cons, bind_run, first]
      exact later

/-- A loop whose body always returns, and keeps a relation to a pure step, returns what
    the pure loop computes. -/
theorem foldlM_simulates {ε σ τ α β : Type} {R : σ → τ → Prop} {body : β → α → EStateM ε σ β}
    {step : β × τ → α → β × τ}
    (keep : ∀ b a s t, R s t →
      ∃ s', body b a s = .ok (step (b, t) a).1 s' ∧ R s' (step (b, t) a).2)
    (items : List α) {b : β} {s : σ} {t : τ} (start : R s t) :
    ∃ s', items.foldlM body b s = .ok (items.foldl step (b, t)).1 s' ∧
      R s' (items.foldl step (b, t)).2 := by
  induction items generalizing b s t with
  | nil => exact ⟨s, rfl, start⟩
  | cons a rest ih =>
      obtain ⟨m, first, related⟩ := keep b a s t start
      obtain ⟨s', later, final⟩ := ih related
      refine ⟨s', ?_, final⟩
      rw [List.foldlM_cons, bind_run, first]
      exact later

end IntelliL3.Lib
