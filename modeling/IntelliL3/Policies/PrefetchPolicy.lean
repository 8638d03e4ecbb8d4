import IntelliL3.Core.Prefetch
import IntelliL3.Lib.BestByKey
import IntelliL3.Metadata.MetadataStore

/-! # Prefetch policies

`policies/prefetch/base.py`: what a policy is asked with, and what it answers. Policies
that meet one object several times keep its best decision. Priorities are exact.
-/

namespace IntelliL3

open Lib

structure RequestContext where
  prompt : String
  sessionId : String
  modelName : String
  promptEmbedding : Option NdArray := none

/-- A policy some other object refers to: asking it may change its state, and may raise. -/
structure PrefetchPolicy (σ η : Type) where
  predictPrefetch : RequestContext → MetadataStore η → EStateM PyError σ (List PrefetchDecision)

theorem toNat_pos_of_allowed {n : Int} (allowed : ¬ n ≤ 0) : 0 < n.toNat := by omega

/-- `sorted(decisions.values(), key=lambda decision: decision.priority, reverse=True)[:limit]` -/
def firstDecisions {κ : Type} (decisions : Dict κ PrefetchDecision) (limit : Nat) :
    List PrefetchDecision :=
  (sortDescending PrefetchDecision.priority decisions.values).take limit

end IntelliL3
