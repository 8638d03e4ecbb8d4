import Mathlib.Algebra.Order.Ring.Rat
import IntelliL3.Lib.Dict

/-! # Objects held in L3

The eight object types of `core/types.py`. Validators that run when an object
is built are fields, so an object the source would reject cannot be written
down. Times and scores are exact rationals; ids and times a default factory
would draw are arguments.
-/

namespace IntelliL3

open Lib

/-- Exceptions the modelled code raises or passes on. -/
inductive PyError where
  | valueError (message : String)
  | indexError (message : String)
  | keyError (key : String)
  | overflowError (message : String)
  | connectionError (message : String)
  | runtimeError (message : String)
  | zeroDivisionError (message : String)
  | validationError (message : String)
  | typeError (message : String)
  | attributeError (message : String)
  | recursionError (message : String)
  | clientError (code : String)
  deriving Repr, DecidableEq

/-- What `float(text)` may give. -/
inductive PyFloat where
  | finite (x : Rat)
  | inf
  | negInf
  | nan
  deriving DecidableEq

inductive ObjectType where
  | kvCache | rag | semanticCache | agentWorkflow | agentStep
  | toolCallArtifact | planCache | workflowTrace
  deriving Repr, DecidableEq

inductive AgentWorkflowType where
  | react | multiAgent | ragAgent | toolAgent
  deriving Repr, DecidableEq

inductive AgentWorkflowStatus where
  | created | running | completed | failed | cancelled
  deriving Repr, DecidableEq

inductive ArtifactScope where
  | publicScope | sessionScope | userScope | workflowScope | privateScope
  deriving Repr, DecidableEq

inductive ConsistencyClass where
  | immutable | ttl | sourceVersioned | writeThrough | writeBack
  deriving Repr, DecidableEq

/-- Values a `dict[str, Any]` field can hold once it is JSON. -/
inductive PyValue where
  | none
  | bool (b : Bool)
  | int (i : Int)
  | float (x : Rat)
  | str (s : String)
  | list (items : List PyValue)
  | dict (rows : List (String × PyValue))

structure ObjectMeta where
  objectId : String
  objectType : ObjectType
  createdAt : Rat
  lastAccessed : Rat
  accessCount : Int := 0
  sizeBytes : Int := 0
  reuseScore : Rat := 0
  refCount : Int := 0
  tags : Dict String String := .empty
  workflowId : Option String := none
  agentId : Option String := none
  stepId : Option String := none
  turnId : Option Int := none
  toolName : Option String := none
  toolArgsHash : Option String := none
  planId : Option String := none
  expectedNextUseStep : Option Int := none
  predictedToolLatencyMs : Option Rat := none
  validUntil : Option Rat := none
  scope : Option ArtifactScope := none
  consistencyClass : Option ConsistencyClass := none

namespace ObjectMeta

/-- What `ObjectMeta(object_type=...)` builds: a drawn id, both clock fields read. -/
def new (objectType : ObjectType) (uuid : String) (now : Rat) : ObjectMeta where
  objectId := uuid
  objectType := objectType
  createdAt := now
  lastAccessed := now

def touch (self : ObjectMeta) (now : Rat) : ObjectMeta :=
  { self with lastAccessed := now, accessCount := self.accessCount + 1 }

end ObjectMeta

structure AgentWorkflow where
  objMeta : ObjectMeta
  workflowId : String
  sessionId : String := ""
  workflowType : AgentWorkflowType := .react
  createdAt : Rat
  status : AgentWorkflowStatus := .created
  agentIds : List String := []
  stepIds : List String := []

structure AgentStep where
  objMeta : ObjectMeta
  stepId : String
  workflowId : String
  agentId : String
  turnId : Int := 0
  parentStepId : Option String := none
  inputPromptHash : String := ""
  outputHash : String := ""
  toolCallId : Option String := none
  kvBlockIds : List String := []
  ragObjectIds : List String := []
  semanticEntryIds : List String := []
  timestampStart : Rat
  timestampEnd : Option Rat := none
  /-- `timestamp_end must be >= timestamp_start` -/
  timestampsOrdered : ∀ stop ∈ timestampEnd, timestampStart ≤ stop

structure ToolCallArtifact where
  objMeta : ObjectMeta
  toolCallId : String
  toolName : String
  toolArgsHash : String
  toolOutputHash : String := ""
  toolOutputPayload : List (String × PyValue) := []
  ttl : Rat
  sourceVersion : String := ""
  permissionScope : ArtifactScope := .privateScope
  createdAt : Rat
  expiresAt : Rat
  /-- `ttl must be positive` -/
  ttlPositive : 0 < ttl
  /-- `expires_at must be greater than created_at` -/
  expiresLater : createdAt < expiresAt

/-- Counters and the dimension are naturals: their validator rejects negative ones. -/
structure PlanCacheEntry where
  objMeta : ObjectMeta
  planId : String
  taskEmbeddingDim : Nat := 0
  planTemplate : String := ""
  requiredTools : List String := []
  constraints : Dict String String := .empty
  successCount : Nat := 0
  failureCount : Nat := 0
  lastValidatedAt : Option Rat := none
  validityScope : ArtifactScope := .sessionScope

structure WorkflowTrace where
  objMeta : ObjectMeta
  workflowId : String
  orderedSteps : List String := []
  toolLatencies : Dict String Rat := .empty
  promptLengths : Dict String Int := .empty
  sharedPrefixRatio : Rat := 0
  branchingFactor : Rat := 1
  cacheEvents : List (List (String × PyValue)) := []
  /-- `shared_prefix_ratio must be in [0.0, 1.0]` -/
  ratioInRange : 0 ≤ sharedPrefixRatio ∧ sharedPrefixRatio ≤ 1
  /-- `branching_factor must be >= 1.0` -/
  branchingAtLeastOne : 1 ≤ branchingFactor

structure KVCacheBlock where
  objMeta : ObjectMeta
  modelName : String := ""
  tokenIds : List Int := []
  blockIndex : Int := 0
  tokenHash : String := ""
  parentBlockId : Option String := none
  sharedBySessions : List String := []

structure RAGObject where
  objMeta : ObjectMeta
  documentId : String := ""
  chunkIndex : Int := 0
  chunkText : String := ""
  embeddingDim : Int := 0
  source : String := ""
  pageNumber : Option Int := none

structure SemanticCacheEntry where
  objMeta : ObjectMeta
  promptText : String := ""
  responseText : String := ""
  modelName : String := ""
  embeddingDim : Int := 0
  reuseCount : Int := 0
  similarityThreshold : Rat := 19 / 20

end IntelliL3
