import Mathlib.Data.Fintype.Card
import Mathlib.Logic.Function.Basic

/-! # Updates of a shared register

Each call reads the register once and writes back what it read with its own
update added. The register ends with the updates of all calls exactly when no
call writes between the read and the write of another.
-/

namespace IntelliL3.Lib

/-- The updates in the register, the latest first, and what the calls that are yet to write
    have read. -/
structure Register (ι : Type) where
  updates : List ι
  seen : ι → Option (List ι)

namespace Register

variable {ι : Type} [DecidableEq ι]

omit [DecidableEq ι] in
/-- A list of updates that is in the register or may come back to it. -/
def Held (self : Register ι) (updates : List ι) : Prop :=
  updates = self.updates ∨ ∃ i, self.seen i = some updates

/-- The next access of a call: its read, and after that its write. -/
def access (self : Register ι) (i : ι) : Register ι :=
  match self.seen i with
  | none => { self with seen := Function.update self.seen i (some self.updates) }
  | some updates => { updates := i :: updates, seen := Function.update self.seen i none }

def after (accesses : List ι) : Register ι :=
  accesses.foldl access { updates := [], seen := fun _ => none }

/-- No call writes while another one has read and not written. -/
def Undisturbed (accesses : List ι) : Prop :=
  ∀ earlier j later, accesses = earlier ++ j :: later → earlier.count j = 1 →
    ∀ i, i ≠ j → earlier.count i ≠ 1

theorem after_append (accesses : List ι) (i : ι) :
    after (accesses ++ [i]) = (after accesses).access i := by
  rw [after, List.foldl_append]
  rfl

theorem undisturbed_append {accesses : List ι} {j : ι} :
    Undisturbed (accesses ++ [j]) ↔ Undisturbed accesses ∧
      (accesses.count j = 1 → ∀ i, i ≠ j → accesses.count i ≠ 1) := by
  constructor
  · intro undisturbed
    refine ⟨fun earlier k later same => ?_, undisturbed accesses j [] rfl⟩
    refine undisturbed earlier k (later ++ [j]) ?_
    rw [same, List.append_assoc, List.cons_append]
  · rintro ⟨before, last⟩ earlier k later same
    rcases List.eq_nil_or_concat later with rfl | ⟨rest, k', rfl⟩
    · obtain ⟨rfl, single⟩ := List.append_inj' same rfl
      obtain ⟨rfl, -⟩ := List.cons.inj single
      exact last
    · rw [List.concat_eq_append, ← List.cons_append, ← List.append_assoc] at same
      exact before earlier k rest (List.append_inj' same rfl).1

section

variable {self : Register ι} {i : ι}

theorem held_read (fresh : self.seen i = none) {updates : List ι}
    (held : (self.access i).Held updates) : self.Held updates := by
  simp only [access, fresh] at held
  rcases held with current | ⟨j, read⟩
  · exact Or.inl current
  · change Function.update self.seen i _ j = _ at read
    by_cases here : j = i
    · subst here
      rw [Function.update_self, Option.some.injEq] at read
      exact Or.inl read.symm
    · rw [Function.update_of_ne here] at read
      exact Or.inr ⟨j, read⟩

theorem held_write {old : List ι} (read : self.seen i = some old) {updates : List ι}
    (held : (self.access i).Held updates) : updates = i :: old ∨ self.Held updates := by
  simp only [access, read] at held
  rcases held with current | ⟨j, later⟩
  · exact Or.inl current
  · change Function.update self.seen i _ j = _ at later
    by_cases here : j = i
    · subst here
      rw [Function.update_self] at later
      cases later
    · rw [Function.update_of_ne here] at later
      exact Or.inr (Or.inr ⟨j, later⟩)

theorem seen_access_of_ne {j : ι} (other : j ≠ i) :
    (self.access i).seen j = self.seen j := by
  unfold access
  split <;> exact Function.update_of_ne other _ _

end

/-- Every list of updates names calls that have written, each once. -/
structure Sound (accesses : List ι) (r : Register ι) : Prop where
  reading : ∀ i, (r.seen i).isSome ↔ accesses.count i = 1
  distinct : ∀ updates, r.Held updates → updates.Nodup
  written : ∀ updates, r.Held updates → ∀ i ∈ updates, accesses.count i = 2

/-- No update is missing anywhere. -/
def Complete (accesses : List ι) (self : Register ι) : Prop :=
  ∀ updates, self.Held updates → ∀ i, accesses.count i = 2 → i ∈ updates

/-- Two calls whose updates can no longer be found together. -/
def Apart (accesses : List ι) (self : Register ι) : Prop :=
  ∃ i j, i ≠ j ∧ accesses.count i ≠ 0 ∧ accesses.count j = 2 ∧
    (∀ updates, self.Held updates → i ∈ updates → j ∉ updates) ∧
    ∀ updates, self.seen i = some updates → j ∉ updates

section

variable {accesses : List ι} {self : Register ι} {i : ι}

private theorem count_self (accesses : List ι) (i : ι) :
    (accesses ++ [i]).count i = accesses.count i + 1 := by
  rw [List.count_append, List.count_singleton_self]

private theorem count_other (accesses : List ι) {i j : ι} (other : j ≠ i) :
    (accesses ++ [i]).count j = accesses.count j := by
  rw [List.count_append, List.count_singleton, beq_false_of_ne (Ne.symm other)]
  rfl

/-- An access is a read of a call that has made none, or the write of one that has read. -/
theorem Sound.read_or_write (sound : Sound accesses self)
    (twice : (accesses ++ [i]).count i ≤ 2) :
    accesses.count i = 0 ∧ self.seen i = none ∨
      accesses.count i = 1 ∧ ∃ old, self.seen i = some old := by
  rw [count_self] at twice
  cases read : self.seen i with
  | none =>
      have notReading : accesses.count i ≠ 1 := fun once => by
        rw [← sound.reading, read] at once
        cases once
      exact Or.inl ⟨by omega, rfl⟩
  | some old =>
      exact Or.inr ⟨(sound.reading i).mp (Option.isSome_of_eq_some read), old, rfl⟩

theorem Sound.access (sound : Sound accesses self) (twice : (accesses ++ [i]).count i ≤ 2) :
    Sound (accesses ++ [i]) (self.access i) := by
  have kept : ∀ j, accesses.count j = 2 → (accesses ++ [i]).count j = 2 := by
    intro j both
    by_cases here : j = i
    · subst here
      rw [count_self] at twice
      omega
    · rw [count_other accesses here]
      exact both
  rcases sound.read_or_write twice with ⟨none_yet, fresh⟩ | ⟨once, old, read⟩
  · refine ⟨fun j => ?_, fun updates held => sound.distinct updates (held_read fresh held),
      fun updates held j member => kept j (sound.written updates (held_read fresh held) j member)⟩
    by_cases here : j = i
    · subst here
      simp only [Register.access, fresh, Function.update_self, count_self, none_yet,
        Option.isSome_some]
    · rw [seen_access_of_ne here, count_other accesses here]
      exact sound.reading j
  · have unwritten : i ∉ old := fun member => by
      rw [sound.written old (Or.inr ⟨i, read⟩) i member] at once
      cases once
    refine ⟨fun j => ?_, fun updates held => ?_, fun updates held j member => ?_⟩
    · by_cases here : j = i
      · subst here
        simp [Register.access, read, once]
      · rw [seen_access_of_ne here, count_other accesses here]
        exact sound.reading j
    · rcases held_write read held with rfl | before
      · exact List.nodup_cons.mpr ⟨unwritten, sound.distinct old (Or.inr ⟨i, read⟩)⟩
      · exact sound.distinct updates before
    · rcases held_write read held with rfl | before
      · rcases List.mem_cons.mp member with rfl | older
        · rw [count_self, once]
        · exact kept j (sound.written old (Or.inr ⟨i, read⟩) j older)
      · exact kept j (sound.written updates before j member)

/-- Nothing goes missing as long as no call writes behind the back of another. -/
theorem Complete.access (complete : Complete accesses self) (sound : Sound accesses self)
    (twice : (accesses ++ [i]).count i ≤ 2)
    (alone : accesses.count i = 1 → ∀ j, j ≠ i → accesses.count j ≠ 1) :
    Complete (accesses ++ [i]) (self.access i) := by
  intro updates held j both
  rcases sound.read_or_write twice with ⟨none_yet, fresh⟩ | ⟨once, old, read⟩
  · by_cases here : j = i
    · subst here
      rw [count_self, none_yet] at both
      cases both
    · rw [count_other accesses here] at both
      exact complete updates (held_read fresh held) j both
  · have latest : updates = i :: old := by
      simp only [Register.access, read] at held
      rcases held with current | ⟨k, later⟩
      · exact current
      · change Function.update self.seen i _ k = _ at later
        by_cases here : k = i
        · subst here
          rw [Function.update_self] at later
          cases later
        · rw [Function.update_of_ne here] at later
          exact absurd ((sound.reading k).mp (Option.isSome_of_eq_some later)) (alone once k here)
    rw [latest]
    by_cases here : j = i
    · exact here ▸ List.mem_cons_self
    · rw [count_other accesses here] at both
      exact List.mem_cons_of_mem i (complete old (Or.inr ⟨i, read⟩) j both)

/-- A call that writes behind the back of another one: one of the two will be missing. -/
theorem Sound.apart (sound : Sound accesses self) (once : accesses.count i = 1) {j : ι}
    (other : j ≠ i) (reading : accesses.count j = 1) :
    Apart (accesses ++ [i]) (self.access i) := by
  obtain ⟨old, read⟩ := Option.isSome_iff_exists.mp ((sound.reading i).mpr once)
  have notWritten : ∀ updates, self.Held updates → j ∉ updates := fun updates held member => by
    rw [sound.written updates held j member] at reading
    cases reading
  refine ⟨j, i, other, ?_, by rw [count_self, once], fun updates held member => ?_,
    fun updates later member => ?_⟩
  · rw [count_other accesses other, reading]
    exact Nat.one_ne_zero
  · rcases held_write read held with rfl | before
    · rcases List.mem_cons.mp member with same | older
      · exact absurd same other
      · exact absurd older (notWritten old (Or.inr ⟨i, read⟩))
    · exact absurd member (notWritten updates before)
  · rw [seen_access_of_ne other] at later
    rw [sound.written updates (Or.inr ⟨j, later⟩) i member] at once
    cases once

theorem Apart.access (apart : Apart accesses self) (sound : Sound accesses self)
    (twice : (accesses ++ [i]).count i ≤ 2) : Apart (accesses ++ [i]) (self.access i) := by
  obtain ⟨x, y, differ, started, both, never, unseen⟩ := apart
  have notY : y ≠ i := by
    rintro rfl
    rw [count_self, both] at twice
    omega
  refine ⟨x, y, differ, ?_, by rw [count_other accesses notY, both], fun updates held => ?_,
    fun updates later => ?_⟩
  · rw [List.count_append]
    omega
  · rcases sound.read_or_write twice with ⟨-, fresh⟩ | ⟨-, old, read⟩
    · exact never updates (held_read fresh held)
    · rcases held_write read held with rfl | before
      · intro member latest
        have older : y ∈ old := (List.mem_cons.mp latest).resolve_left notY
        rcases List.mem_cons.mp member with rfl | inside
        · exact unseen old read older
        · exact never old (Or.inr ⟨i, read⟩) inside older
      · exact never updates before
  · by_cases here : x = i
    · subst here
      rcases sound.read_or_write twice with ⟨none_yet, -⟩ | ⟨-, old, read⟩
      · exact absurd none_yet started
      · simp only [Register.access, read, Function.update_self] at later
        cases later
    · rw [seen_access_of_ne here] at later
      exact unseen updates later

end

/-- After any accesses, at most two of each call, nothing is missing if no call was disturbed,
    and otherwise two updates exclude each other. -/
theorem after_cases (accesses : List ι) (twice : ∀ i, accesses.count i ≤ 2) :
    Sound accesses (after accesses) ∧
      (Undisturbed accesses ∧ Complete accesses (after accesses) ∨
        ¬ Undisturbed accesses ∧ Apart accesses (after accesses)) := by
  induction accesses using List.reverseRecOn with
  | nil =>
      have nothing : ∀ updates, (after ([] : List ι)).Held updates → updates = [] := by
        rintro updates (current | ⟨i, read⟩)
        · exact current
        · cases read
      refine ⟨⟨fun i => ?_, fun updates held => ?_, fun updates held i member => ?_⟩,
        Or.inl ⟨fun earlier j later same => ?_, fun updates held i both => ?_⟩⟩
      · simp [after]
      · rw [nothing updates held]
        exact List.nodup_nil
      · rw [nothing updates held] at member
        cases member
      · simp at same
      · simp at both
  | append_singleton accesses i ih =>
      have before : ∀ j, accesses.count j ≤ 2 := by
        intro j
        have total := twice j
        rw [List.count_append] at total
        omega
      obtain ⟨sound, so_far⟩ := ih before
      rw [after_append, undisturbed_append]
      refine ⟨sound.access (twice i), ?_⟩
      rcases so_far with ⟨undisturbed, complete⟩ | ⟨disturbed, apart⟩
      · by_cases alone : accesses.count i = 1 → ∀ j, j ≠ i → accesses.count j ≠ 1
        · exact Or.inl ⟨⟨undisturbed, alone⟩, complete.access sound (twice i) alone⟩
        · refine Or.inr ⟨fun both => alone both.2, ?_⟩
          simp only [not_forall, not_not] at alone
          obtain ⟨once, j, other, reading⟩ := alone
          exact sound.apart once other reading
      · exact Or.inr ⟨fun both => disturbed both.1, apart.access sound (twice i)⟩

/-- When every call has read and written, all updates are there iff no call was disturbed. -/
theorem complete_iff {accesses : List ι} (twice : ∀ i, accesses.count i = 2) :
    (∀ i, i ∈ (after accesses).updates) ↔ Undisturbed accesses := by
  obtain ⟨-, ⟨undisturbed, complete⟩ | ⟨disturbed, i, j, -, -, -, never, -⟩⟩ :=
    after_cases accesses fun i => (twice i).le
  · exact ⟨fun _ => undisturbed, fun _ i => complete _ (Or.inl rfl) i (twice i)⟩
  · refine ⟨fun all => ?_, fun undisturbed => absurd undisturbed disturbed⟩
    exact absurd (all j) (never _ (Or.inl rfl) (all i))

/-! ## Counting updates -/

section

variable [Fintype ι] {updates : List ι}

theorem countP_le_card (distinct : updates.Nodup) (q : ι → Bool) :
    updates.countP q ≤ (Finset.univ.filter fun i => q i = true).card := by
  rw [List.countP_eq_length_filter, ← List.toFinset_card_of_nodup (distinct.filter q)]
  refine Finset.card_le_card fun i member => ?_
  rw [List.mem_toFinset, List.mem_filter] at member
  rw [Finset.mem_filter]
  exact ⟨Finset.mem_univ i, member.2⟩

/-- Both kinds are counted in full exactly when no update is missing. -/
theorem countP_eq_card_iff (distinct : updates.Nodup) (q : ι → Bool) :
    (updates.countP q = (Finset.univ.filter fun i => q i = true).card ∧
      updates.countP (fun i => !q i) = (Finset.univ.filter fun i => q i = false).card) ↔
      ∀ i, i ∈ updates := by
  have total : updates.length = updates.countP q + updates.countP fun i => !q i := by
    rw [List.length_eq_countP_add_countP q]
    simp only [Bool.not_eq_true, Bool.decide_eq_false]
  have everyone : (Finset.univ.filter fun i => q i = true).card +
      (Finset.univ.filter fun i => q i = false).card = Fintype.card ι := by
    have split := Finset.card_filter_add_card_filter_not (s := Finset.univ) fun i => q i = true
    simpa only [Bool.not_eq_true, Finset.card_univ] using split
  have positive := countP_le_card distinct q
  have negative := countP_le_card distinct fun i => !q i
  simp only [Bool.not_eq_true'] at negative
  have whole : (∀ i, i ∈ updates) ↔ updates.length = Fintype.card ι := by
    rw [← List.toFinset_card_of_nodup distinct, Finset.card_eq_iff_eq_univ,
      Finset.eq_univ_iff_forall]
    simp only [List.mem_toFinset]
  rw [whole]
  omega

end

end Register

end IntelliL3.Lib
