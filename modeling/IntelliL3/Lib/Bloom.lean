import Mathlib.Data.Set.Lattice

/-! # Bloom filters

A filter remembers which places are taken, not by what. An item passes when all its places
are taken, so whatever was put in passes, and something else may.
-/

namespace IntelliL3.Lib

namespace Bloom

variable {κ ι : Type} (places : κ → Set ι)

/-- The places that some items take. -/
def taken (items : Set κ) : Set ι := ⋃ item ∈ items, places item

/-- What passes a filter that the items were put in. -/
def passing (items : Set κ) : Set κ := {item | places item ⊆ taken places items}

variable {places} {items more : Set κ}

@[simp] theorem taken_empty : taken places ∅ = ∅ := Set.biUnion_empty places

theorem taken_insert (item : κ) :
    taken places (insert item items) = places item ∪ taken places items :=
  Set.biUnion_insert item items places

theorem taken_mono (le : items ⊆ more) : taken places items ⊆ taken places more :=
  Set.biUnion_subset_biUnion_left le

/-- No false negatives. -/
theorem subset_passing : items ⊆ passing places items :=
  fun _ member => Set.subset_biUnion_of_mem member

theorem passing_mono (le : items ⊆ more) : passing places items ⊆ passing places more :=
  fun _ passes => passes.trans (taken_mono le)

end Bloom

end IntelliL3.Lib
