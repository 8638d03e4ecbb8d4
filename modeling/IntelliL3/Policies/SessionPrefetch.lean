import IntelliL3.Lib.Recent
import IntelliL3.Metadata.MetadataStore
import IntelliL3.Policies.PrefetchPolicy

/-! # Session prefetch policy

`policies/prefetch/session_prefetch.py`: the KV blocks whose tokens start one of the last
requests of the session are prefetched, those with the longest match first.
-/

namespace IntelliL3

open Lib

structure SessionPrefetchPolicy where
  historySize : Nat
  topK : Nat
  sessionHistories : Dict String (List (List Int)) := .empty
  historySizePositive : 0 < historySize
  topKPositive : 0 < topK

namespace SessionPrefetchPolicy

def new (sessionHistorySize : Int := 5) (topK : Int := 3) :
    Except PyError SessionPrefetchPolicy :=
  if wrongSize : sessionHistorySize ≤ 0 then
    .error (.valueError "session_history_size must be positive")
  else if wrongTopK : topK ≤ 0 then .error (.valueError "top_k must be positive")
  else .ok {
    historySize := sessionHistorySize.toNat
    topK := topK.toNat
    historySizePositive := toNat_pos_of_allowed wrongSize
    topKPositive := toNat_pos_of_allowed wrongTopK }

/-- The ids of the KV blocks are only counted for the log. -/
def onRequestCompleted (sessionId : String) (tokenIds : List Int)
    (self : SessionPrefetchPolicy) : SessionPrefetchPolicy :=
  if tokenIds = [] then self
  else
    let history := (self.sessionHistories.get? sessionId).getD []
    { self with
      sessionHistories :=
        self.sessionHistories.set sessionId (appendRecent self.historySize history tokenIds) }

/-- The decision for a match. -/
def decisionFor (found : PrefixMatch) : PrefetchDecision where
  objectId := found.objectId
  priority := found.matchedLength
  prefetchType := "kv_cache"

/-- `order` is how the sets of the prefix tree are traversed. -/
def predictPrefetch {η : Type} (self : SessionPrefetchPolicy) (incomingRequest : RequestContext)
    (metadata : MetadataStore η) (order : SetOrder) : List PrefetchDecision :=
  match self.sessionHistories.get? incomingRequest.sessionId with
  | none | some [] => []
  | some history =>
      let decisionsById := history.reverse.foldl (fun decisionsById tokenIds =>
        (metadata.findPrefixMatches order tokenIds).foldl (fun decisionsById found =>
          keepBest PrefetchDecision.objectId PrefetchDecision.priority decisionsById
            (decisionFor found)) decisionsById) .empty
      firstDecisions decisionsById self.topK

end SessionPrefetchPolicy

/-- A call of `on_request_completed`. -/
structure CompletedRequest where
  sessionId : String
  tokenIds : List Int

namespace SessionPrefetchPolicy

/-- The policy once some requests have completed. -/
def completed (self : SessionPrefetchPolicy) (calls : List CompletedRequest) :
    SessionPrefetchPolicy :=
  calls.foldl (fun self c => self.onRequestCompleted c.sessionId c.tokenIds) self

end SessionPrefetchPolicy

end IntelliL3
