import GraphAgent.PythonValues
import Mathlib.Data.Finset.Basic

/-!
# Choosing between the carriers of one message

`app/services/mapping/itemized/carrier_dedup.py`: a stream sink and a checkpoint
sink record the same model output as canonical items.  Three rules say which
items are superseded: explicit revisions, tool groups of the same model call and
the parts that a final carrier names.
-/

namespace GraphAgent.Carriers

inductive SemanticKind where
  | userInput
  | assistantOutput
  | reasoning
  | toolCall
  | toolResult
  | runtimeNotice
  | compactionSummary
  | attachment
  | extension
  deriving DecidableEq

inductive CanonicalItemStatus where
  | completed
  | partial_
  | incomplete
  | cancelled
  | failed
  | unknown
  deriving DecidableEq

structure ProjectionGroup where
  ordinal : Nat
  size : Nat
  inside : ordinal < size

structure ProjectionPartRef where
  id : String
  index : Nat

structure ItemProjectionIdentity where
  projectionMessageId : Option String := none
  modelCallId : Option String := none
  blockId : Option String := none
  blockIndex : Option Nat := none
  contentPartRefs : List ProjectionPartRef := []
  block : blockId.isSome = blockIndex.isSome ∧ (blockId.isSome → modelCallId.isSome) := by decide

theorem ItemProjectionIdentity.noBlock (modelCallId : String) :
    (none : Option String).isSome = (none : Option Nat).isSome ∧
      ((none : Option String).isSome → (some modelCallId).isSome) := by
  simp

inductive RelationKind where
  | replaces
  | derivedFrom
  deriving DecidableEq

inductive RelationTarget where
  | projectionMessage
  | canonicalItem
  | legacyMessage
  deriving DecidableEq

structure ItemProvenanceRelation where
  relation : RelationKind
  targetKind : RelationTarget
  targetId : String
  targetModelCallId : Option String := none

structure ToolResultEvidence where
  toolCallId : String

structure CanonicalItem where
  itemId : String
  itemSequence : Nat
  semanticKind : SemanticKind
  status : CanonicalItemStatus
  payload : Json
  turnId : Option String
  messageGroupId : Option String
  projectionGroup : Option ProjectionGroup := none
  projectionIdentity : Option ItemProjectionIdentity := none
  toolResultEvidence : Option ToolResultEvidence := none
  provenanceRelations : List ItemProvenanceRelation := []

inductive DedupError where
  /-- `TypeError`: the calls of a payload cannot be iterated. -/
  | notIterable
  | resultWithoutCall (itemId : String)
  | scopeMismatch
  | carrierNotUnique
  | partScopeMissing
  | revisionSources (itemId : String)
  | revisionFork (targetId : String)
  | revisionMismatch (itemId : String)

/-- `provider_tool_call_id`: without the prefix of its own model call. -/
def providerToolCallId (identity : Option ItemProjectionIdentity) (toolCallId : String) :
    String :=
  match identity.bind ItemProjectionIdentity.modelCallId with
  | none => toolCallId
  | some modelCallId =>
    if modelCallId = "" then
      toolCallId
    else
      match (modelCallId ++ ":tool-call:").toList.isPrefixOf? toolCallId.toList with
      | some rest => String.ofList rest
      | none => toolCallId

abbrev ToolCarrierScope : Type := Option String × String

abbrev ScopedCall : Type := Option ToolCarrierScope × String

namespace CanonicalItem

def scope (item : CanonicalItem) : Option ToolCarrierScope :=
  (item.projectionIdentity.bind ItemProjectionIdentity.modelCallId).map (item.turnId, ·)

/-- `_checkpoint_carrier`. -/
def isCheckpointCarrier (item : CanonicalItem) : Bool :=
  (item.projectionIdentity.bind ItemProjectionIdentity.projectionMessageId).isSome

/-- `item.message_group_id or item.item_id`. -/
def groupId (item : CanonicalItem) : String :=
  (item.messageGroupId.filter fun groupId => groupId ≠ "").getD item.itemId

/-- The values that `for call in payload.get("tool_calls", [payload])` meets. -/
def payloadCalls (item : CanonicalItem) : Except DedupError (List Json) :=
  match item.payload with
  | .obj fields =>
    match Dictionary.lookupEntries "tool_calls" fields with
    | none => .ok [item.payload]
    | some (.arr calls) => .ok calls
    | some (.obj _) | some (.str _) => .ok []
    | some _ => .error .notIterable
  | _ => .ok [.obj []]

/-- `call.get("id") or call.get("tool_call_id")`, if it is a text. -/
def callId (call : Json) : Option String :=
  match call with
  | .obj fields =>
    let get (key : String) : Json := (Dictionary.lookupEntries key fields).getD .null
    ((get "id").orElse (get "tool_call_id")).identifier?
  | _ => none

def normalizedToolCallIds (item : CanonicalItem) : Except DedupError (List String) := do
  let calls ← item.payloadCalls
  return (calls.filterMap callId).map (providerToolCallId item.projectionIdentity)

def resultCallId (item : CanonicalItem) : Except DedupError String :=
  match item.toolResultEvidence with
  | some evidence => .ok (providerToolCallId item.projectionIdentity evidence.toolCallId)
  | none =>
    match item.payload with
    | .obj fields =>
      match Dictionary.lookupEntries "tool_call_id" fields with
      | some (.str text) => .ok (providerToolCallId item.projectionIdentity text)
      | _ => .error (.resultWithoutCall item.itemId)
    | _ => .error (.resultWithoutCall item.itemId)

end CanonicalItem

/-- `positions[item.item_id]`; items have distinct ids. -/
def position (items : List CanonicalItem) (item : CanonicalItem) : Nat :=
  (items.map CanonicalItem.itemId).idxOf item.itemId

def isToolCarrier (item : CanonicalItem) : Bool :=
  item.semanticKind = .reasoning || item.semanticKind = .toolCall

def groupKey (item : CanonicalItem) : Option ToolCarrierScope × String :=
  (item.scope, item.groupId)

def groupMembers (items : List CanonicalItem) (key : Option ToolCarrierScope × String) :
    List CanonicalItem :=
  items.filter fun item => isToolCarrier item && groupKey item = key

def groupKeys (items : List CanonicalItem) : List (Option ToolCarrierScope × String) :=
  ((items.filter isToolCarrier).map groupKey).dedup

inductive Sink where
  | checkpoint
  | stream
  deriving DecidableEq

structure ToolGroup where
  sink : Sink
  scope : ToolCarrierScope
  calls : Finset String
  members : List CanonicalItem

namespace ToolGroup

def registryKey (group : ToolGroup) : Sink × ToolCarrierScope × Finset String :=
  (group.sink, group.scope, group.calls)

def declares (group : ToolGroup) (call : ScopedCall) : Bool :=
  call.1 = some group.scope && call.2 ∈ group.calls

def sameCalls (first second : ToolGroup) : Bool :=
  first.scope = second.scope && first.calls = second.calls

end ToolGroup

/-- `call_ids` of a group. -/
def declaredCalls (members : List CanonicalItem) : Except DedupError (Finset String) := do
  let calls ← (members.filter fun item => item.semanticKind = .toolCall).mapM
    CanonicalItem.normalizedToolCallIds
  return calls.flatten.toFinset

def sinkOf (members : List CanonicalItem) : Sink :=
  if members.any CanonicalItem.isCheckpointCarrier then .checkpoint else .stream

/-- One round of the loop that fills the registries. -/
def readGroup (members : List CanonicalItem) : Except DedupError (Option ToolGroup) := do
  let calls ← declaredCalls members
  if calls = ∅ then
    return none
  else
    match (members.map CanonicalItem.scope).dedup with
    | [some scope] => return some ⟨sinkOf members, scope, calls, members⟩
    | [none] => return none
    | _ => .error .scopeMismatch

def readGroups (items : List CanonicalItem) : Except DedupError (List ToolGroup) := do
  let read ← ((groupKeys items).map (groupMembers items)).mapM readGroup
  let groups := read.reduceOption
  if (groups.map ToolGroup.registryKey).Nodup then return groups
  else .error .carrierNotUnique

structure CompletedResult where
  item : CanonicalItem
  call : ScopedCall

def isCompletedResult (item : CanonicalItem) : Bool :=
  item.semanticKind = .toolResult && item.status = .completed

def readResult (item : CanonicalItem) : Except DedupError CompletedResult := do
  let callId ← item.resultCallId
  return ⟨item, (item.scope, callId)⟩

/-- `results` with their calls. -/
def readResults (items : List CanonicalItem) : Except DedupError (List CompletedResult) :=
  (items.filter isCompletedResult).mapM readResult

def checkpointResult (items : List CanonicalItem) (results : List CompletedResult)
    (call : ScopedCall) : Option Nat :=
  ((results.filter fun result =>
    result.item.isCheckpointCarrier && result.call = call).getLast?).map
      fun result => position items result.item

def lastCall (items : List CanonicalItem) (group : ToolGroup) : Nat :=
  (group.members.map (position items)).foldr max 0

def isClosed (items : List CanonicalItem) (results : List CompletedResult)
    (group : ToolGroup) : Bool :=
  decide (∀ callId ∈ group.calls,
    (checkpointResult items results (some group.scope, callId)).any
      (fun result => lastCall items group < result) = true)

def pairedGroups (groups : List ToolGroup) : List (ToolGroup × ToolGroup) :=
  (groups.filter fun group => group.sink = .checkpoint).flatMap fun checkpoint =>
    (groups.filter fun group => group.sink = .stream && checkpoint.sameCalls group).map
      fun stream => (checkpoint, stream)

def isShadowResult (results : List CompletedResult)
    (preferCheckpoint preferStream : List ToolGroup) (result : CompletedResult) : Bool :=
  (!result.item.isCheckpointCarrier &&
    preferCheckpoint.any fun group => group.declares result.call) ||
  (result.item.isCheckpointCarrier &&
    (preferStream.any fun group => group.declares result.call) &&
    results.any fun other => !other.item.isCheckpointCarrier && other.call = result.call)

def supersededToolGroupItemIds (items : List CanonicalItem) : Except DedupError (List String) := do
  let groups ← readGroups items
  let results ← readResults items
  let closed := (pairedGroups groups).filter fun pair => isClosed items results pair.1
  let shadows := (pairedGroups groups).filter fun pair => !isClosed items results pair.1
  return (closed.flatMap fun pair => pair.2.members.map CanonicalItem.itemId) ++
    (shadows.flatMap fun pair => pair.1.members.map CanonicalItem.itemId) ++
    (results.filter (isShadowResult results (closed.map Prod.fst)
      (shadows.map Prod.fst))).map fun result => result.item.itemId

def messageReplacements (item : CanonicalItem) : List ItemProvenanceRelation :=
  item.provenanceRelations.filter fun relation =>
    relation.relation = .replaces && relation.targetKind = .projectionMessage

def partScopes (item : CanonicalItem) (identity : ItemProjectionIdentity) : List String :=
  ((messageReplacements item).filterMap ItemProvenanceRelation.targetModelCallId ++
    identity.modelCallId.toList).dedup

def namedParts (item : CanonicalItem) : List (String × String × Nat) :=
  match item.projectionIdentity with
  | none => []
  | some identity =>
    (partScopes item identity).flatMap fun scope =>
      identity.contentPartRefs.map fun ref => (scope, scope ++ ":block:" ++ ref.id, ref.index)

def checkPartScopes (item : CanonicalItem) : Except DedupError Unit :=
  match item.projectionIdentity with
  | none => .ok ()
  | some identity =>
    if identity.contentPartRefs ≠ [] ∧ (partScopes item identity).length ≠ 1 then
      .error .partScopeMissing
    else
      .ok ()

def partCoordinate (identity : ItemProjectionIdentity) : Option (String × String × Nat) :=
  match identity.modelCallId, identity.blockId, identity.blockIndex with
  | some modelCallId, some blockId, some index => some (modelCallId, blockId, index)
  | _, _, _ => none

def names (carrier item : CanonicalItem) : Bool :=
  (item.semanticKind = .assistantOutput || item.semanticKind = .reasoning) &&
  match item.projectionIdentity with
  | none => false
  | some identity =>
    (partCoordinate identity).any (fun part => part ∈ namedParts carrier) ||
    identity.projectionMessageId.any fun messageId =>
      messageId ∈ (messageReplacements carrier).map ItemProvenanceRelation.targetId

def supersededStreamContentItemIds (items : List CanonicalItem) :
    Except DedupError (List String) := do
  items.forM checkPartScopes
  return (items.filter fun item => items.any fun carrier => names carrier item).map
    CanonicalItem.itemId

def revisionRelations (item : CanonicalItem) : List ItemProvenanceRelation :=
  if item.projectionGroup.any fun group => group.ordinal + 1 ≠ group.size then
    []
  else
    item.provenanceRelations.filter fun relation =>
      relation.relation = .replaces && relation.targetKind = .canonicalItem

def revises (item : CanonicalItem) (targetId : String) : Bool :=
  (revisionRelations item).any fun relation => relation.targetId = targetId

def validRevision (previous item : CanonicalItem) : Bool :=
  previous.itemSequence < item.itemSequence &&
  match previous.projectionIdentity.bind ItemProjectionIdentity.projectionMessageId,
      item.projectionIdentity.bind ItemProjectionIdentity.projectionMessageId with
  | some oldId, some newId => oldId = newId
  | _, _ => false

def checkRevision (items : List CanonicalItem) (item : CanonicalItem) : Except DedupError Unit :=
  match revisionRelations item with
  | [] => .ok ()
  | [relation] =>
    if items.any fun other => revises other relation.targetId && other.itemId ≠ item.itemId then
      .error (.revisionFork relation.targetId)
    else
      match items.find? fun previous => previous.itemId = relation.targetId with
      | none => .ok ()
      | some previous =>
        if validRevision previous item then .ok ()
        else .error (.revisionMismatch item.itemId)
  | _ :: _ :: _ => .error (.revisionSources item.itemId)

def isReplaced (items : List CanonicalItem) (item : CanonicalItem) : Bool :=
  items.any fun later => revises later item.itemId

def inReplacedGroup (items : List CanonicalItem) (item : CanonicalItem) : Bool :=
  items.any fun previous =>
    isReplaced items previous && previous.messageGroupId.isSome &&
      previous.messageGroupId = item.messageGroupId

def supersededCanonicalMessageItemIds (items : List CanonicalItem) :
    Except DedupError (List String) := do
  items.forM (checkRevision items)
  return (items.filter fun item => isReplaced items item || inReplacedGroup items item).map
    CanonicalItem.itemId

def kept (items : List CanonicalItem) (ids : List String) : List CanonicalItem :=
  items.filter fun item => item.itemId ∉ ids

def supersededItemIds (items : List CanonicalItem) : Except DedupError (List String) := do
  let replaced ← supersededCanonicalMessageItemIds items
  let selected := kept items replaced
  let shadows ← supersededToolGroupItemIds selected
  let parts ← supersededStreamContentItemIds selected
  return replaced ++ shadows ++ parts

end GraphAgent.Carriers
