import GraphAgent.CatalogOutbox

/-!
# The projected catalog

`buildEffectiveNodes` of `state/session/sessionCatalogProjection.ts`: the
confirmed nodes with the pending commands of the outbox replayed over them.  A
table is the list of its entries in insertion order, each under the id of its
node.
-/

namespace GraphAgent.Outbox

open KeyedRows

inductive CatalogNodeKind where
  | folder
  | session

inductive CatalogNodeState where
  | active
  | deleting
  deriving DecidableEq

/-- `SessionCatalogNode`, without the DTO of a session. -/
structure SessionCatalogNode where
  nodeId : String
  kind : CatalogNodeKind
  name : String
  parentNodeId : Option String
  sessionId : Option String
  folderId : Option String
  hasChildren : Bool
  nodeRevision : Nat
  state : CatalogNodeState
  createdAt : Option String
  updatedAt : Option String

structure CatalogProjectedNode where
  nodeId : String
  kind : CatalogNodeKind
  name : String
  parentNodeId : Option String
  sessionId : Option String
  folderId : Option String
  hasChildren : Bool
  nodeRevision : Option Nat
  state : Option CatalogNodeState
  createdAt : Option String
  updatedAt : Option String
  pendingState : Option OperationState
  pendingOperationId : Option String
  settlement : Option Settlement
  settlementError : Option String
  clientRef : Option String

structure EffectiveNode where
  node : CatalogProjectedNode
  confirmed : Bool
  deleted : Bool
  createdByOperationId : Option String

namespace EffectiveNode

abbrev nodeId (entry : EffectiveNode) : String := entry.node.nodeId

abbrev parentNodeId (entry : EffectiveNode) : Option String := entry.node.parentNodeId

end EffectiveNode

inductive ProjectionError where
  | duplicateNode (nodeId : String)
  | creationMissing (operationId : String)
  | ancestorCycle (nodeId : String)

abbrev NodeTable := List EffectiveNode

structure Projection where
  table : NodeTable
  deletingRoots : List String

def NodeTable.get (table : NodeTable) (nodeId : String) : Option EffectiveNode :=
  fetch EffectiveNode.nodeId table nodeId

def NodeTable.update (table : NodeTable) (nodeId : String)
    (change : EffectiveNode → EffectiveNode) : NodeTable :=
  updateWhere (fun entry => entry.nodeId = nodeId) change table

def effectiveNodeId (operation : CatalogOutboxOperation) : String :=
  operation.createdNodeId.getD operation.clientOperationId

def confirmedNodeToProjected (node : SessionCatalogNode) : CatalogProjectedNode where
  nodeId := node.nodeId
  kind := node.kind
  name := node.name
  parentNodeId := node.parentNodeId
  sessionId := node.sessionId
  folderId := node.folderId
  hasChildren := node.hasChildren
  nodeRevision := some node.nodeRevision
  state := some node.state
  createdAt := node.createdAt
  updatedAt := node.updatedAt
  pendingState := none
  pendingOperationId := none
  settlement := none
  settlementError := none
  clientRef := none

def confirmedEntry (node : SessionCatalogNode) : EffectiveNode where
  node := confirmedNodeToProjected node
  confirmed := true
  deleted := node.state = .deleting
  createdByOperationId := none

def addConfirmed (projection : Projection) (node : SessionCatalogNode) :
    Except ProjectionError Projection :=
  match projection.table.get node.nodeId with
  | some _ => .error (.duplicateNode node.nodeId)
  | none =>
    .ok
      { table := projection.table ++ [confirmedEntry node]
        deletingRoots := projection.deletingRoots ++
          if node.state = .deleting then [node.nodeId] else [] }

/-- `resolution`: the node a creation stands for. -/
def resolution (operations : CatalogOutbox) (operationId : String) : Option String :=
  (operations.reverse.find? fun operation =>
    operation.kind = .createFolder && operation.clientOperationId = operationId).map
      effectiveNodeId

/-- The parent an operation gives: its own field, or what `resolveReference` finds. -/
def projectedParent (operations : CatalogOutbox) (operation : CatalogOutboxOperation) :
    Except ProjectionError (Option String) :=
  match operation.createdByOperationId with
  | none => .ok operation.parentNodeId
  | some createdBy =>
    match resolution operations createdBy with
    | none => .error (.creationMissing createdBy)
    | some nodeId => .ok (some nodeId)

def createdEntry (operation : CatalogOutboxOperation) (parentNodeId : Option String) :
    EffectiveNode where
  node :=
    { nodeId := effectiveNodeId operation
      kind := .folder
      name := operation.name.getD ""
      parentNodeId := parentNodeId
      sessionId := none
      folderId := none
      hasChildren := false
      nodeRevision := none
      state := none
      createdAt := none
      updatedAt := none
      pendingState := some operation.state
      pendingOperationId := some operation.clientOperationId
      settlement := none
      settlementError := none
      clientRef := some operation.clientOperationId }
  confirmed := false
  deleted := false
  createdByOperationId := some operation.clientOperationId

def withPending (operation : CatalogOutboxOperation) (entry : EffectiveNode) : EffectiveNode :=
  { entry with
    node.pendingState := some operation.state
    node.pendingOperationId := some operation.clientOperationId }

def replayCreation (operations : CatalogOutbox) (projection : Projection)
    (operation : CatalogOutboxOperation) : Except ProjectionError Projection :=
  match projection.table.get (effectiveNodeId operation) with
  | some _ =>
    .ok { projection with
      table := projection.table.update (effectiveNodeId operation) fun entry =>
        { withPending operation entry with
          createdByOperationId := some operation.clientOperationId } }
  | none => do
      let parentNodeId ← projectedParent operations operation
      return { projection with table := projection.table ++ [createdEntry operation parentNodeId] }

def replayTarget (operations : CatalogOutbox) (operation : CatalogOutboxOperation) :
    Except ProjectionError (EffectiveNode → EffectiveNode) :=
  match operation.kind with
  | .renameNode =>
    .ok fun entry => { entry with node.name := operation.name.getD entry.node.name }
  | .moveNode => do
      let parentNodeId ← projectedParent operations operation
      return fun entry => { entry with node.parentNodeId := parentNodeId }
  | _ =>
    .ok fun entry =>
      { entry with
        deleted := true
        node.state := some .deleting
        node.settlement := operation.settlement
        node.settlementError :=
          if operation.settlement = some .repairRequired then
            operation.errorDetail.or operation.errorCode
          else none }

def isDeletion (operation : CatalogOutboxOperation) : Bool :=
  operation.kind = .deleteFolder || operation.kind = .deleteSession

def marksPending (deletingRoots : List String) (targetNodeId : String)
    (operation : CatalogOutboxOperation) : Bool :=
  targetNodeId ∈ deletingRoots || !operation.isTerminal ||
    operation.state = .reported .dependencyFailed || operation.state = .reported .rejected

def replay (operations : CatalogOutbox) (projection : Projection)
    (operation : CatalogOutboxOperation) : Except ProjectionError Projection :=
  if operation.kind = .createFolder then replayCreation operations projection operation
  else
    match operation.targetNodeId with
    | none => .ok projection
    | some targetNodeId =>
      match projection.table.get targetNodeId with
      | none => .ok projection
      | some _ => do
          let change ← replayTarget operations operation
          let deletingRoots := projection.deletingRoots ++
            if isDeletion operation then [targetNodeId] else []
          return {
            table := projection.table.update targetNodeId fun entry =>
              if marksPending deletingRoots targetNodeId operation then
                withPending operation (change entry)
              else change entry
            deletingRoots := deletingRoots }

def replayAll (confirmedNodes : List SessionCatalogNode) (operations : CatalogOutbox) :
    Except ProjectionError Projection := do
  let confirmed ← confirmedNodes.foldlM addConfirmed ⟨[], []⟩
  operations.foldlM (replay operations) confirmed

def parentDeleted (table : NodeTable) (entry : EffectiveNode) : Bool :=
  match entry.parentNodeId with
  | none => false
  | some parentNodeId => (table.get parentNodeId).any (·.deleted)

/-- The `while (changed)` loop: every pass but the last removes an entry, so there are at
most as many as there are entries and one more. -/
def removeDescendants (table : NodeTable) : Nat → NodeTable → NodeTable
  | 0, live => live
  | passes + 1, live =>
    let next := live.filter fun entry => !parentDeleted table entry
    if next.length = live.length then next else removeDescendants table passes next

/-- The inner loop of `assertParentChainsAreAcyclic`, with the chain it has pushed. -/
def walkChain (live : NodeTable) (complete : List String) (nodeId : String) :
    Nat → List String → Option String → Except ProjectionError (List String)
  | _, chain, none => .ok chain
  | 0, chain, some _ => .ok chain
  | steps + 1, chain, some cursor =>
    match live.get cursor with
    | none => .ok chain
    | some entry =>
      if cursor ∈ chain then .error (.ancestorCycle nodeId)
      else if cursor ∈ complete then .ok chain
      else walkChain live complete nodeId steps (chain ++ [cursor]) entry.parentNodeId

/-- `assertParentChainsAreAcyclic`; a chain has at most one step for each entry. -/
def assertParentChainsAreAcyclic (live : NodeTable) : Except ProjectionError (List String) :=
  live.foldlM (fun complete entry =>
    if entry.nodeId ∈ complete then .ok complete
    else do
      let chain ← walkChain live complete entry.nodeId (live.length + 1) [] (some entry.nodeId)
      return complete ++ chain) []

def withChildren (live : NodeTable) (entry : EffectiveNode) : EffectiveNode :=
  if live.any fun child => child.parentNodeId = some entry.nodeId then
    { entry with node.hasChildren := true }
  else if !entry.confirmed then { entry with node.hasChildren := false }
  else entry

def buildEffectiveNodes (confirmedNodes : List SessionCatalogNode) (outbox : CatalogOutbox) :
    Except ProjectionError NodeTable := do
  let projection ← replayAll confirmedNodes (orderedCatalogOutboxOperations outbox)
  let visible := projection.table.filter fun entry =>
    !entry.deleted || entry.nodeId ∈ projection.deletingRoots
  let live := removeDescendants projection.table (visible.length + 1) visible
  let _ ← assertParentChainsAreAcyclic live
  return live.map (withChildren live)

end GraphAgent.Outbox
