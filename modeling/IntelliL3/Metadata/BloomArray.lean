import IntelliL3.Core.Reference
import IntelliL3.Lib.Bloom
import IntelliL3.Lib.Rounding

/-! # The byte array of the Bloom filter

`metadata/bloom_filter.py` as it runs: how many bytes there are is computed in floats, and
an index that lies outside of them raises. For the sizes that `_optimal_size` returns there
are enough bytes, and the array does what `BloomFilter` does.
-/

namespace IntelliL3

open Lib

/-- `a / b` of integers, the second not zero -/
def trueDiv (a b : Int) : Rat := nearest 53 (a / b)

/-- Nothing is promised of the bytes, nor of how many hashes there are. -/
structure BloomArray where
  size : { size : Nat // 64 ≤ size }
  numHashes : Nat
  bits : List (BitVec 8)
  count : Nat

namespace BloomArray

open BloomFilter (bitSet)

/-- `math.ceil(self._size / 8)` -/
def byteCount (size : Nat) : Nat := ⌈trueDiv size 8⌉.toNat

def new (size : { size : Nat // 64 ≤ size }) (numHashes : Nat) : BloomArray where
  size := size
  numHashes := numHashes
  bits := List.replicate (byteCount size) 0
  count := 0

/-- `self._bits[i]` -/
def byteAt (self : BloomArray) (i : Nat) : Except PyError (BitVec 8) :=
  match self.bits[i]? with
  | some byte => .ok byte
  | none => .error (.indexError "bytearray index out of range")

/-- `self._bits[idx // 8] |= 1 << (idx % 8)` -/
def setBit (idx : Nat) : EStateM PyError BloomArray Unit := do
  let self ← get
  let byte ← raising (self.byteAt (idx / 8))
  set { self with bits := self.bits.set (idx / 8) (byte ||| 1#8 <<< (idx % 8)) }

section

variable [PyRuntime]

/-- `__init__` -/
def init (expectedItems : Int) (fpRate : Rat) : Except PyError BloomArray := do
  let size ← BloomFilter.optimalSize expectedItems fpRate
  let numHashes ← BloomFilter.optimalHashes size expectedItems
  return new size numHashes

def getIndices (self : BloomArray) (key : String) : List Nat :=
  (List.range self.numHashes).map fun i =>
    (PyRuntime.sha256 key + i * PyRuntime.md5 key) % self.size

def add (key : String) : EStateM PyError BloomArray Unit := do
  let self ← get
  (self.getIndices key).forM setBit
  modify fun self => { self with count := self.count + 1 }

def mightContain (self : BloomArray) (key : String) : Except PyError Bool :=
  (self.getIndices key).allM fun idx => do
    let byte ← self.byteAt (idx / 8)
    return byte &&& 1#8 <<< (idx % 8) ≠ 0

end

/-! ## How many bytes there are -/

/-- The division is exact for a size that is a float. -/
theorem byteCount_eq {size : Nat} (float : HasPrecision 53 size) :
    byteCount size = (size + 7) / 8 := by
  have exact : trueDiv size 8 = (size : Rat) / 8 := by
    have eighth : HasPrecision 53 ((size : Rat) / 2 ^ 3) := float.div_two_pow 3
    rw [trueDiv, Int.cast_natCast, Int.cast_ofNat]
    rw [show (2 : Rat) ^ 3 = 8 by norm_num] at eighth
    exact nearest_eq_self eighth
  have whole : ⌈(size : Rat) / 8⌉ = ((size + 7) / 8 : Nat) := by
    rw [Int.ceil_eq_iff, lt_div_iff₀ (by norm_num), div_le_iff₀ (by norm_num)]
    have above : (size + 7) / 8 * 8 < size + 8 := by omega
    have below : size ≤ (size + 7) / 8 * 8 := by omega
    have above' : (((size + 7) / 8 : Nat) : Rat) * 8 < size + 8 := by exact_mod_cast above
    have below' : (size : Rat) ≤ ((size + 7) / 8 : Nat) * 8 := by exact_mod_cast below
    constructor
    · rw [Int.cast_natCast]
      linarith
    · rwa [Int.cast_natCast]
  rw [byteCount, exact, whole, Int.toNat_natCast]

/-! ## Runs -/

theorem byteAt_inside (self : BloomArray) {i : Nat} (inside : i < self.bits.length) :
    self.byteAt i = .ok (self.bits.getD i 0) := by
  rw [byteAt, List.getD_eq_getElem?_getD, List.getElem?_eq_getElem inside]
  rfl

theorem setBit_run {self : BloomArray} {idx : Nat} (inside : idx / 8 < self.bits.length) :
    setBit idx self = .ok ⟨⟩ { self with bits := BloomFilter.setBit self.bits idx } := by
  rw [setBit, bind_run, get_run]
  simp only [bind_run, self.byteAt_inside inside, raising_ok, set_run]
  rw [BloomFilter.setBit, List.modify_eq_set, List.getD_eq_getElem?_getD]
  rfl

theorem setBits_run {self : BloomArray} {indices : List Nat}
    (inside : ∀ idx ∈ indices, idx / 8 < self.bits.length) :
    indices.forM setBit self =
      .ok ⟨⟩ { self with bits := BloomFilter.setBits self.bits indices } := by
  induction indices generalizing self with
  | nil => rfl
  | cons idx rest ih =>
      change (setBit idx >>= fun _ => rest.forM setBit) self = _
      rw [bind_run, setBit_run (inside idx List.mem_cons_self)]
      refine ih fun other later => ?_
      change other / 8 < (BloomFilter.setBit self.bits idx).length
      rw [BloomFilter.setBit, List.length_modify]
      exact inside other (List.mem_cons_of_mem idx later)

section

variable [PyRuntime] {self : BloomArray}

theorem index_lt (self : BloomArray) {key : String} {idx : Nat}
    (member : idx ∈ self.getIndices key) : idx < self.size := by
  obtain ⟨i, -, rfl⟩ := List.mem_map.mp member
  exact Nat.mod_lt _ (Nat.lt_of_lt_of_le (by decide) self.size.property)

/-- There is a byte for every index below the size. -/
def Fits (self : BloomArray) : Prop := self.bits.length = (self.size + 7) / 8

namespace Fits

theorem inside (fits : self.Fits) {key : String} {idx : Nat}
    (member : idx ∈ self.getIndices key) : idx / 8 < self.bits.length := by
  have below := self.index_lt member
  rw [fits]
  omega

theorem add_run (fits : self.Fits) (key : String) :
    BloomArray.add key self = .ok ⟨⟩
      { self with
        bits := BloomFilter.setBits self.bits (self.getIndices key)
        count := self.count + 1 } := by
  have within : ∀ idx ∈ self.getIndices key, idx / 8 < self.bits.length := fun idx => fits.inside
  simp only [BloomArray.add, bind_run, get_run, setBits_run within, modify_run]

theorem mightContain_run (fits : self.Fits) (key : String) :
    self.mightContain key =
      .ok ((self.getIndices key).all fun idx => bitSet self.bits idx) := by
  refine allM_ok fun idx member => ?_
  rw [self.byteAt_inside (fits.inside member)]
  rfl

end Fits

/-! ## What is in a filter -/

/-- The places of a key. -/
def places (self : BloomArray) (key : String) : Set Nat := {idx | idx ∈ self.getIndices key}

/-- The bits of a filter are set at the places of these keys. -/
structure Holds (filter : BloomArray) (keys : Set String) : Prop where
  fits : filter.Fits
  bits : ∀ idx, bitSet filter.bits idx = true ↔ idx ∈ Bloom.taken filter.places keys

namespace Holds

variable {keys : Set String}

theorem new {size : { size : Nat // 64 ≤ size }} (float : HasPrecision 53 size)
    (numHashes : Nat) : Holds (new size numHashes) ∅ where
  fits := List.length_replicate.trans (byteCount_eq float)
  bits idx := by
    rw [BloomArray.new, BloomFilter.bitSet_zeros, Bloom.taken_empty]
    exact ⟨fun set => (by cases set), False.elim⟩

/-- An addition takes the places of its key. -/
theorem add (holds : self.Holds keys) (key : String) :
    ∃ self', BloomArray.add key self = .ok ⟨⟩ self' ∧ self'.places = self.places ∧
      self'.Holds (insert key keys) := by
  refine ⟨_, holds.fits.add_run key, rfl, ?_, fun idx => ?_⟩
  · exact (BloomFilter.length_setBits _ _).trans holds.fits
  · change bitSet (BloomFilter.setBits self.bits (self.getIndices key)) idx = true ↔
      idx ∈ Bloom.taken self.places (insert key keys)
    rw [BloomFilter.bitSet_setBits fun i => holds.fits.inside, Bool.or_eq_true, holds.bits,
      decide_eq_true_iff, Bloom.taken_insert, Set.union_comm]
    rfl

/-- Additions, one after the other, take the places of all their keys. -/
theorem adds (holds : self.Holds keys) (later : List String) :
    ∃ self', later.forM BloomArray.add self = .ok ⟨⟩ self' ∧ self'.places = self.places ∧
      self'.Holds (keys ∪ {key | key ∈ later}) := by
  induction later generalizing self keys with
  | nil => exact ⟨self, rfl, rfl, by simpa using holds⟩
  | cons key rest ih =>
      obtain ⟨middle, first, same, held⟩ := holds.add key
      obtain ⟨self', more, same', final⟩ := ih held
      refine ⟨self', ?_, same'.trans same, ?_⟩
      · change (BloomArray.add key >>= fun _ => rest.forM BloomArray.add) self = _
        rw [bind_run, first]
        exact more
      · have all : keys ∪ {other | other ∈ key :: rest} =
            insert key keys ∪ {other | other ∈ rest} := by
          ext other
          grind
        exact all ▸ final

/-- A key is said to be contained exactly when all its places are taken. -/
theorem mightContain_iff (holds : self.Holds keys) (key : String) :
    self.mightContain key = .ok true ↔ key ∈ Bloom.passing self.places keys := by
  rw [holds.fits.mightContain_run, Except.ok.injEq, List.all_eq_true]
  simp only [holds.bits]
  rfl

end Holds

/-- A size that `_optimal_size` returns is a float. -/
theorem optimalSize_float {expectedItems : Int} {fpRate quotient : Rat}
    {size : { size : Nat // 64 ≤ size }}
    (computed : PyRuntime.bloomBits expectedItems fpRate = .ok (truncate quotient))
    (float : HasPrecision 53 quotient)
    (sized : BloomFilter.optimalSize expectedItems fpRate = .ok size) : HasPrecision 53 size := by
  rw [BloomFilter.optimalSize, computed] at sized
  cases sized
  change HasPrecision 53 ((max 64 (truncate quotient)).toNat : Nat)
  rcases le_total (truncate quotient) 64 with few | many
  · rw [max_eq_left few]
    exact hasPrecision_intCast (n := 64) (by decide)
  · have same : (((max 64 (truncate quotient)).toNat : Nat) : Rat) = truncate quotient := by
      rw [max_eq_right many]
      exact_mod_cast Int.toNat_of_nonneg (le_trans (by decide) many)
    exact same ▸ float.truncate

/-! ## The filter with its promises -/

/-- A filter that promises nothing. -/
def ofFilter (filter : BloomFilter) : BloomArray :=
  ⟨⟨filter.size, filter.minSize⟩, filter.numHashes, filter.bits, filter.count⟩

omit [PyRuntime] in
theorem fits_ofFilter (filter : BloomFilter) : (ofFilter filter).Fits := filter.bytes

omit [PyRuntime] in
theorem new_eq_ofFilter {size : { size : Nat // 64 ≤ size }} (float : HasPrecision 53 size)
    (numHashes : { hashes : Nat // 1 ≤ hashes }) :
    new size numHashes = ofFilter (.blank size numHashes) := by
  rw [new, byteCount_eq float]
  rfl

theorem init_eq_ofFilter {expectedItems : Int} {fpRate quotient : Rat} {filter : BloomFilter}
    (computed : PyRuntime.bloomBits expectedItems fpRate = .ok (truncate quotient))
    (float : HasPrecision 53 quotient) (built : BloomFilter.new expectedItems fpRate = .ok filter) :
    init expectedItems fpRate = .ok (ofFilter filter) := by
  obtain ⟨size, sized, built⟩ := bind_eq_ok.mp built
  obtain ⟨numHashes, hashed, same⟩ := bind_eq_ok.mp built
  cases same
  rw [init, sized, ok_bind, hashed, ok_bind,
    new_eq_ofFilter (optimalSize_float computed float sized) numHashes]
  rfl

theorem add_ofFilter (filter : BloomFilter) (key : String) :
    add key (ofFilter filter) = .ok ⟨⟩ (ofFilter (filter.add key)) :=
  (fits_ofFilter filter).add_run key

theorem mightContain_ofFilter (filter : BloomFilter) (key : String) :
    (ofFilter filter).mightContain key = .ok (filter.mightContain key) :=
  (fits_ofFilter filter).mightContain_run key

/-- Whatever the hashes and however many, no addition raises, every byte index is inside of the
    array, every added key is said to be contained, and what is once said to be contained
    stays so. -/
theorem bloom_no_false_negatives {expectedItems : Int} {fpRate quotient : Rat}
    {size : { size : Nat // 64 ≤ size }}
    (computed : PyRuntime.bloomBits expectedItems fpRate = .ok (truncate quotient))
    (float : HasPrecision 53 quotient)
    (sized : BloomFilter.optimalSize expectedItems fpRate = .ok size) (numHashes : Nat)
    (keys : List String) :
    ∃ filter, keys.forM add (new size numHashes) = .ok ⟨⟩ filter ∧
      (∀ key, ∀ idx ∈ filter.getIndices key, idx / 8 < filter.bits.length) ∧
      (∀ key ∈ keys, filter.mightContain key = .ok true) ∧
      ∀ key, filter.mightContain key = .ok true → ∀ later : List String, ∃ filter',
        later.forM add filter = .ok ⟨⟩ filter' ∧ filter'.mightContain key = .ok true := by
  have start := Holds.new (optimalSize_float computed float sized) numHashes
  obtain ⟨filter, added, -, holds⟩ := start.adds keys
  refine ⟨filter, added, fun key idx => holds.fits.inside, fun key member => ?_,
    fun key contained later => ?_⟩
  · exact (holds.mightContain_iff key).mpr (Bloom.subset_passing (Or.inr member))
  · obtain ⟨filter', more, same, holds'⟩ := holds.adds later
    refine ⟨filter', more, (holds'.mightContain_iff key).mpr ?_⟩
    have passes := (holds.mightContain_iff key).mp contained
    exact same ▸ Bloom.passing_mono Set.subset_union_left passes

end

section

open Reference

/-- `-100 * math.log(0.01) / (math.log(2) ** 2)` -/
private theorem quotient_float : HasPrecision 53 (8431106511061807 / 2 ^ 43) :=
  ⟨8431106511061807, -43, by decide, by norm_num⟩

theorem bloom_no_false_negatives_two : ∃ filter,
    ["a", "b"].forM add (new ⟨958, by decide⟩ 6) = .ok ⟨⟩ filter ∧
      filter.mightContain "a" = .ok true ∧ filter.mightContain "b" = .ok true := by
  have computed :
      PyRuntime.bloomBits 100 (1 / 100) = .ok (truncate (8431106511061807 / 2 ^ 43)) := by
    decide +kernel
  have sized : BloomFilter.optimalSize 100 (1 / 100) = .ok ⟨958, by decide⟩ := by decide +kernel
  obtain ⟨filter, added, -, contained, -⟩ :=
    bloom_no_false_negatives computed quotient_float sized 6 ["a", "b"]
  exact ⟨filter, added, contained "a" (by decide), contained "b" (by decide)⟩

end

end BloomArray

end IntelliL3
