import IntelliL3.Core.Platform

/-! # Bloom filter

`metadata/bloom_filter.py`. The sizes are fixed at construction, so the facts
that keep every bit index inside the byte array are fields.
-/

namespace IntelliL3

structure BloomFilter where
  size : Nat
  numHashes : Nat
  bits : List (BitVec 8)
  count : Nat
  minSize : 64 ≤ size
  minHashes : 1 ≤ numHashes
  bytes : bits.length = (size + 7) / 8

namespace BloomFilter

/-- `bits[idx // 8] & (1 << (idx % 8))` is non-zero. -/
def bitSet (bits : List (BitVec 8)) (idx : Nat) : Bool :=
  bits.getD (idx / 8) 0 &&& 1#8 <<< (idx % 8) ≠ 0

/-- `bits[idx // 8] |= 1 << (idx % 8)` -/
def setBit (bits : List (BitVec 8)) (idx : Nat) : List (BitVec 8) :=
  bits.modify (idx / 8) (· ||| 1#8 <<< (idx % 8))

def setBits (bits : List (BitVec 8)) (indices : List Nat) : List (BitVec 8) :=
  indices.foldl setBit bits

@[simp] theorem length_setBits (bits : List (BitVec 8)) (indices : List Nat) :
    (setBits bits indices).length = bits.length := by
  induction indices generalizing bits with
  | nil => rfl
  | cons idx rest ih =>
      change (setBits (setBit bits idx) rest).length = _
      rw [ih, setBit, List.length_modify]

private theorem one_shift_getLsbD (i j : Nat) (small : i < 8) :
    ((1#8) <<< i).getLsbD j = decide (j = i) := by
  simp only [BitVec.getLsbD_shiftLeft, BitVec.getLsbD_one]
  by_cases below : j < 8
  · by_cases same : j = i
    · subst same; simp [below]
    · by_cases after : j < i
      · simp [below, after, same]
      · simp [below, same]; omega
  · simp [below]; omega

private theorem masked_iff (byte : BitVec 8) (i : Nat) (small : i < 8) :
    byte &&& 1#8 <<< i ≠ 0 ↔ byte.getLsbD i = true := by
  constructor
  · intro masked
    by_contra clear
    apply masked
    apply BitVec.eq_of_getLsbD_eq
    intro j _
    rw [BitVec.getLsbD_and, one_shift_getLsbD _ _ small]
    by_cases same : j = i
    · subst same
      rw [Bool.not_eq_true] at clear
      rw [clear, Bool.false_and]
      exact BitVec.getLsbD_zero.symm
    · simp only [same, decide_false, Bool.and_false]
      exact BitVec.getLsbD_zero.symm
  · intro held zero
    have bit := congrArg (fun v => BitVec.getLsbD v i) zero
    simp only [BitVec.getLsbD_and, held, one_shift_getLsbD _ _ small, decide_true,
      Bool.and_true] at bit
    exact absurd (bit.trans BitVec.getLsbD_zero) (by decide)

/-- One bit of one byte decides the masked test. -/
theorem bitSet_eq (bits : List (BitVec 8)) (idx : Nat) :
    bitSet bits idx = (bits.getD (idx / 8) 0).getLsbD (idx % 8) := by
  have small : idx % 8 < 8 := Nat.mod_lt _ (by decide)
  rw [bitSet, Bool.eq_iff_iff, decide_eq_true_iff]
  exact masked_iff _ _ small

theorem bitSet_setBit (bits : List (BitVec 8)) {idx : Nat} (inside : idx / 8 < bits.length)
    (other : Nat) :
    bitSet (setBit bits idx) other = (bitSet bits other || decide (other = idx)) := by
  have small : idx % 8 < 8 := Nat.mod_lt _ (by decide)
  rw [bitSet_eq, bitSet_eq, setBit, List.getD_eq_getElem?_getD, List.getD_eq_getElem?_getD,
    List.getElem?_modify]
  by_cases sameByte : idx / 8 = other / 8
  · rw [← sameByte, List.getElem?_eq_getElem inside]
    simp only [if_true, Option.map_eq_map, Option.map_some, Option.getD_some, BitVec.getLsbD_or,
      one_shift_getLsbD _ _ small]
    congr 1
    rw [Bool.eq_iff_iff, decide_eq_true_iff, decide_eq_true_iff]
    omega
  · have differ : other ≠ idx := fun same => sameByte (by rw [same])
    simp only [if_neg sameByte, Option.map_eq_map, Option.map_id', differ, decide_false,
      Bool.or_false]

/-- Setting indices sets exactly their bits. -/
theorem bitSet_setBits {bits : List (BitVec 8)} {indices : List Nat}
    (inside : ∀ idx ∈ indices, idx / 8 < bits.length) (other : Nat) :
    bitSet (setBits bits indices) other = (bitSet bits other || decide (other ∈ indices)) := by
  induction indices generalizing bits with
  | nil => simp [setBits]
  | cons idx rest ih =>
      have here := inside idx List.mem_cons_self
      have tail : ∀ i ∈ rest, i / 8 < (setBit bits idx).length := by
        intro i member
        rw [setBit, List.length_modify]
        exact inside i (List.mem_cons_of_mem idx member)
      change bitSet (setBits (setBit bits idx) rest) other = _
      rw [ih tail, bitSet_setBit bits here, Bool.or_assoc]
      congr 1
      simp only [List.mem_cons, Bool.decide_or]

theorem bitSet_zeros (n idx : Nat) : bitSet (List.replicate n 0) idx = false := by
  rw [bitSet_eq, List.getD_eq_getElem?_getD]
  have zero : ((List.replicate n (0 : BitVec 8))[idx / 8]?).getD 0 = 0 := by
    rw [List.getElem?_replicate]
    split <;> rfl
  rw [zero]
  exact BitVec.getLsbD_zero

section

variable [PyRuntime]

/-- `max(64, int(-n * log(p) / log(2)^2))` -/
def optimalSize (n : Int) (p : Rat) : Except PyError { size : Nat // 64 ≤ size } :=
  (PyRuntime.bloomBits n p).map fun bits => ⟨(max 64 bits).toNat, by omega⟩

/-- `max(1, int((m / n) * log(2)))` -/
def optimalHashes (m : Nat) (n : Int) : Except PyError { hashes : Nat // 1 ≤ hashes } :=
  (PyRuntime.bloomHashes m n).map fun hashes => ⟨(max 1 hashes).toNat, by omega⟩

/-- A filter with every bit clear. -/
def blank (size : { size : Nat // 64 ≤ size }) (numHashes : { hashes : Nat // 1 ≤ hashes }) :
    BloomFilter where
  size := size
  numHashes := numHashes
  bits := List.replicate ((size + 7) / 8) 0
  count := 0
  minSize := size.property
  minHashes := numHashes.property
  bytes := List.length_replicate

def new (expectedItems : Int) (fpRate : Rat) : Except PyError BloomFilter := do
  let size ← optimalSize expectedItems fpRate
  let numHashes ← optimalHashes size expectedItems
  return blank size numHashes

def getIndices (self : BloomFilter) (key : String) : List Nat :=
  (List.range self.numHashes).map fun i =>
    (PyRuntime.sha256 key + i * PyRuntime.md5 key) % self.size

def add (self : BloomFilter) (key : String) : BloomFilter :=
  { self with
    bits := setBits self.bits (self.getIndices key)
    count := self.count + 1
    bytes := (length_setBits _ _).trans self.bytes }

def mightContain (self : BloomFilter) (key : String) : Bool :=
  (self.getIndices key).all fun idx => bitSet self.bits idx

/-- Every byte an index touches lies inside the byte array. -/
theorem index_inside (self : BloomFilter) {key : String} {idx : Nat}
    (member : idx ∈ self.getIndices key) : idx / 8 < self.bits.length := by
  obtain ⟨i, -, rfl⟩ := List.mem_map.mp member
  have wide := self.minSize
  have below : (PyRuntime.sha256 key + i * PyRuntime.md5 key) % self.size < self.size :=
    Nat.mod_lt _ (by omega)
  rw [self.bytes]
  omega

theorem mightContain_iff (self : BloomFilter) (key : String) :
    self.mightContain key = true ↔ ∀ idx ∈ self.getIndices key, bitSet self.bits idx = true := by
  simp only [mightContain, List.all_eq_true]

/-- An added key is contained. -/
theorem mightContain_add_self (self : BloomFilter) (key : String) :
    (self.add key).mightContain key = true := by
  rw [mightContain_iff]
  intro idx member
  change bitSet (setBits self.bits (self.getIndices key)) idx = true
  rw [bitSet_setBits (fun i inside => self.index_inside inside)]
  have present : idx ∈ self.getIndices key := member
  simp only [present, decide_true, Bool.or_true]

/-- Once contained, a key stays contained. -/
theorem mightContain_add (self : BloomFilter) {key : String} (other : String)
    (held : self.mightContain key = true) : (self.add other).mightContain key = true := by
  rw [mightContain_iff] at held ⊢
  intro idx member
  change bitSet (setBits self.bits (self.getIndices other)) idx = true
  rw [bitSet_setBits (fun i inside => self.index_inside inside), held idx member, Bool.true_or]

/-- Adding a contained key again changes no answer. -/
theorem mightContain_add_held (self : BloomFilter) {key : String}
    (held : self.mightContain key = true) (other : String) :
    (self.add key).mightContain other = self.mightContain other := by
  rw [mightContain_iff] at held
  have sameBit : ∀ idx, bitSet (setBits self.bits (self.getIndices key)) idx =
      bitSet self.bits idx := by
    intro idx
    rw [bitSet_setBits (fun i inside => self.index_inside inside)]
    by_cases set : idx ∈ self.getIndices key
    · rw [held idx set, Bool.true_or]
    · simp only [set, decide_false, Bool.or_false]
  change (self.getIndices other).all (fun idx =>
    bitSet (setBits self.bits (self.getIndices key)) idx) = _
  simp only [sameBit]
  rfl

/-- A filter nothing was added to contains nothing. -/
theorem mightContain_blank (size : { size : Nat // 64 ≤ size })
    (numHashes : { hashes : Nat // 1 ≤ hashes }) (key : String) :
    (blank size numHashes).mightContain key = false := by
  rw [Bool.eq_false_iff]
  intro held
  rw [mightContain_iff] at held
  have first := held ((PyRuntime.sha256 key + 0 * PyRuntime.md5 key) % size)
    (List.mem_map.mpr ⟨0, List.mem_range.mpr numHashes.property, rfl⟩)
  rw [blank, bitSet_zeros] at first
  cases first

theorem new_eq_blank {expectedItems : Int} {fpRate : Rat} {filter : BloomFilter}
    (built : new expectedItems fpRate = .ok filter) :
    ∃ size numHashes, filter = blank size numHashes := by
  cases sized : optimalSize expectedItems fpRate with
  | error e => simp [new, sized, bind, Except.bind] at built
  | ok size =>
      cases hashed : optimalHashes size expectedItems with
      | error e => simp [new, sized, hashed, bind, Except.bind] at built
      | ok numHashes =>
          simp [new, sized, hashed, bind, Except.bind, pure, Except.pure] at built
          exact ⟨size, numHashes, built.symm⟩

theorem mightContain_new {expectedItems : Int} {fpRate : Rat} {filter : BloomFilter}
    (built : new expectedItems fpRate = .ok filter) (key : String) :
    filter.mightContain key = false := by
  obtain ⟨size, numHashes, rfl⟩ := new_eq_blank built
  exact mightContain_blank size numHashes key

end

end BloomFilter
end IntelliL3
