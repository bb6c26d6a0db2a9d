import GraphAgent.CatalogNodes

/-!
# The subtree delete journal

The methods of `subtree_delete.py` on the node table and the journal, and the
write transactions of the catalog, one after another.  A transaction hook writes
other tables of the same database, or refuses and rolls the transaction back.
-/

namespace GraphAgent.Catalog

open KeyedRows Navigation

structure PinnedClaim where
  sourceSessionId : String
  claimId : String
  active : Bool

structure CatalogDatabase where
  nodes : Nodes
  deletes : List SubtreeDeleteRecord
  pinnedClaims : List PinnedClaim

/-- A `CatalogTransactionHook`. -/
abbrev TransactionHook := SubtreeDeleteRecord → Except NavigationError Unit

def raiseForSourceClaims (claims : List PinnedClaim) : Except NavigationError Unit :=
  match claims.find? (·.active) with
  | some claim =>
    .error (.sourceRetainedByFork
      s!"source={claim.sourceSessionId}, claim={claim.claimId}")
  | none =>
    match claims with
    | claim :: _ =>
      .error (.sourceRetentionOperationPending
        s!"source={claim.sourceSessionId}, claim={claim.claimId}")
    | [] => .ok ()

def frozenIds (record : SubtreeDeleteRecord) : List String :=
  record.frozenNodeIds.map (·.nodeId)

def frozenSessions (record : SubtreeDeleteRecord) : List String :=
  record.frozenSessionLocators.map (·.1)

namespace Nodes

/-- `_subtree_rows`: the root and all rows below it, by node id. -/
def subtreeRows (nodes : Nodes) (rootNodeId : String) : List SessionCatalogNode :=
  (nodes.filter fun row =>
    row.nodeId ∈ FiniteClosure.closure nodes.links [rootNodeId]).insertionSort
      fun left right => left.nodeId ≤ right.nodeId

def freezeRow (workspaceId : String) (row : SessionCatalogNode) :
    Except NavigationError (List (String × String)) :=
  if row.workspaceId ≠ workspaceId then
    .error (.runtimeError
      (s!"子树内存在跨 workspace 节点（目录不一致，fail closed）: node_id={row.nodeId}, " ++
        s!"node_workspace={row.workspaceId}, requested_workspace={workspaceId}"))
  else if row.state ≠ .active then
    .error (.runtimeError
      (s!"子树内存在非 active 节点，拒绝新删除: node_id={row.nodeId}, " ++
        s!"state={row.state.text}"))
  else if row.kind = .session then
    match row.storageRelativeLocator with
    | none =>
      .error (.runtimeError
        (s!"session 节点缺少 storage_relative_locator（目录被外部改动，fail closed）: " ++
          s!"node_id={row.nodeId}"))
    | some locator => .ok [(row.nodeId, locator)]
  else
    .ok []

def freezeSubtree (nodes : Nodes) (workspaceId rootNodeId : String) :
    Except NavigationError (List SubtreeFrozenNode × List (String × String)) := do
  let root ← nodes.requireNode rootNodeId
  if root.workspaceId ≠ workspaceId then
    .error (.runtimeError
      (s!"root 节点属于其他 workspace，拒绝跨 workspace 删除: root={rootNodeId}, " ++
        s!"root_workspace={root.workspaceId}, requested_workspace={workspaceId}"))
  else if root.state ≠ .active then
    .error (.runtimeError
      s!"root 节点非 active，拒绝新删除: root={rootNodeId}, state={root.state.text}")
  else do
    let rows := nodes.subtreeRows rootNodeId
    let locators ← rows.mapM (freezeRow workspaceId)
    return (rows.map fun row => ⟨row.nodeId, row.revision⟩, locators.flatten)

def requireFrozen (nodes : Nodes) (idempotencyKey : String) (item : SubtreeFrozenNode) :
    Except NavigationError Unit :=
  match nodes.fetchNode item.nodeId with
  | none =>
    .error (.runtimeError
      (s!"mark CAS 失败：冻结节点已不存在: key={idempotencyKey}, node_id={item.nodeId}, " ++
        s!"expected_revision={item.revision}, actual=缺失"))
  | some node =>
    if node.state ≠ .active then
      .error (.runtimeError
        (s!"mark CAS 失败：冻结节点非 active: key={idempotencyKey}, node_id={item.nodeId}, " ++
          s!"expected_state=active, actual_state={node.state.text}"))
    else if node.revision ≠ item.revision then
      .error (.runtimeError
        (s!"mark CAS 失败：冻结节点 revision 已漂移: key={idempotencyKey}, " ++
          s!"node_id={item.nodeId}, expected_revision={item.revision}, " ++
          s!"actual_revision={node.revision}"))
    else
      .ok ()

/-- What a mark writes into a frozen row. -/
def closedNode (node : SessionCatalogNode) : SessionCatalogNode :=
  revisedNode { node with state := .deleting }

def closeFrozen (nodes : Nodes) (frozen : List String) : Nodes :=
  updateWhere (fun row => row.nodeId ∈ frozen) closedNode nodes

def frozenDepth (nodes : Nodes) (frozen : List String) : Nat → String → Option Nat
  | 0, _ => none
  | steps + 1, nodeId =>
    match (nodes.fetchNode nodeId).bind (·.parentNodeId) with
    | none => some 0
    | some parent =>
      if parent ∈ frozen then
        (frozenDepth nodes frozen steps parent).map (· + 1)
      else
        some 0

def frozenDepths (nodes : Nodes) (frozen : List String) : Option (List (Nat × String)) :=
  frozen.mapM fun nodeId =>
    (nodes.frozenDepth frozen frozen.length nodeId).map fun depth => (depth, nodeId)

/-- Deepest first, and by node id inside a depth. -/
def removalOrder (depths : List (Nat × String)) : List String :=
  (depths.insertionSort fun left right =>
    right.1 < left.1 ∨ right.1 = left.1 ∧ left.2 ≤ right.2).map (·.2)

def removeFrozen (nodes : Nodes) (idempotencyKey nodeId : String) :
    Except NavigationError Nodes := do
  let removed ← nodes.deleteNode nodeId
  if nodes.countP (fun row => row.nodeId = nodeId) ≠ 1 then
    .error (.runtimeError
      (s!"finish 失败：冻结节点行已缺失（外部改动，fail closed）: key={idempotencyKey}, " ++
        s!"node_id={nodeId}"))
  else
    return removed

def removeSubtree (nodes : Nodes) (idempotencyKey : String) (frozen : List String) :
    Except NavigationError Nodes :=
  match nodes.frozenDepths frozen with
  | none => .error (.runtimeError "the depth walk does not end")
  | some depths =>
    (removalOrder depths).foldlM
      (fun nodes nodeId => nodes.removeFrozen idempotencyKey nodeId) nodes

end Nodes

namespace CatalogDatabase

def opened : CatalogDatabase := ⟨[], [], []⟩

/-- `_fetch_subtree_delete_record`. -/
def fetchSubtreeDelete (database : CatalogDatabase) (idempotencyKey : String) :
    Option SubtreeDeleteRecord :=
  fetch (·.idempotencyKey) database.deletes idempotencyKey

def requireSubtreeDelete (database : CatalogDatabase) (idempotencyKey : String) :
    Except NavigationError SubtreeDeleteRecord :=
  match database.fetchSubtreeDelete idempotencyKey with
  | some record => .ok record
  | none => .error (.keyError s!"subtree delete record 不存在: key={idempotencyKey}")

def updateSubtreeDelete (database : CatalogDatabase) (idempotencyKey : String)
    (change : SubtreeDeleteRecord → SubtreeDeleteRecord) : CatalogDatabase :=
  { database with
    deletes := updateWhere (fun record => record.idempotencyKey = idempotencyKey) change
      database.deletes }

def withNodes (database : CatalogDatabase) (nodes : Nodes) : CatalogDatabase :=
  { database with nodes := nodes }

def preparingRecord (idempotencyKey workspaceId rootNodeId now : String)
    (frozenNodeIds : List SubtreeFrozenNode) (locators : List (String × String)) :
    SubtreeDeleteRecord where
  idempotencyKey := idempotencyKey
  workspaceId := workspaceId
  rootNodeId := rootNodeId
  frozenNodeIds := frozenNodeIds
  frozenSessionLocators := locators
  state := .preparing
  abortReason := none
  drainedSessionIds := []
  createdAt := now
  updatedAt := now

/-- `create_or_get_subtree_delete_record`. -/
def createOrGetSubtreeDelete (database : CatalogDatabase)
    (idempotencyKey workspaceId rootNodeId now : String) :
    Except NavigationError CatalogDatabase :=
  match database.fetchSubtreeDelete idempotencyKey with
  | some existing =>
    if existing.workspaceId ≠ workspaceId ∨ existing.rootNodeId ≠ rootNodeId then
      .error (.runtimeError
        (s!"subtree delete record preimage 冲突（同 key 不同 workspace/root，拒绝复用）: " ++
          s!"key={idempotencyKey}, existing_workspace={existing.workspaceId}, " ++
          s!"existing_root={existing.rootNodeId}, requested_workspace={workspaceId}, " ++
          s!"requested_root={rootNodeId}"))
    else
      .ok database
  | none => do
      let (frozenNodeIds, locators) ← database.nodes.freezeSubtree workspaceId rootNodeId
      return { database with
        deletes := database.deletes ++
          [preparingRecord idempotencyKey workspaceId rootNodeId now frozenNodeIds locators] }

def requireUnpinned (database : CatalogDatabase) (sessionId : String) :
    Except NavigationError Unit :=
  raiseForSourceClaims
    (database.pinnedClaims.filter fun claim => claim.sourceSessionId = sessionId)

def markSubtreeDeleting (database : CatalogDatabase) (idempotencyKey : String)
    (transactionHook : TransactionHook) (now : String) :
    Except NavigationError CatalogDatabase := do
  let record ← database.requireSubtreeDelete idempotencyKey
  if record.state.isMarked then do
    transactionHook record
    return database
  else if record.state ≠ .preparing then
    .error (.runtimeError
      (s!"subtree delete record 状态不允许 mark: key={idempotencyKey}, " ++
        s!"state={record.state.text}"))
  else do
    (frozenSessions record).forM database.requireUnpinned
    record.frozenNodeIds.forM (database.nodes.requireFrozen idempotencyKey)
    let marked := (database.withNodes
      (database.nodes.closeFrozen (frozenIds record))).updateSubtreeDelete idempotencyKey
        fun record => { record with state := .deleting, updatedAt := now }
    let updated ← marked.requireSubtreeDelete idempotencyKey
    transactionHook updated
    return marked

def recordDrainProgress (database : CatalogDatabase) (idempotencyKey sessionId now : String) :
    Except NavigationError CatalogDatabase := do
  let record ← database.requireSubtreeDelete idempotencyKey
  if !record.state.isMarked then
    .error (.runtimeError
      (s!"subtree delete record 状态不允许记录 drain 进度: key={idempotencyKey}, " ++
        s!"state={record.state.text}"))
  else if sessionId ∉ frozenSessions record then
    .error (.runtimeError
      (s!"drain 进度的 session 不在冻结集合内（拒绝记录）: key={idempotencyKey}, " ++
        s!"session_id={sessionId}"))
  else if sessionId ∈ record.drainedSessionIds then
    return database
  else
    return database.updateSubtreeDelete idempotencyKey fun record =>
      { record with
        state := .draining
        drainedSessionIds := record.drainedSessionIds ++ [sessionId]
        updatedAt := now }

def isDrained (record : SubtreeDeleteRecord) : Bool :=
  (frozenSessions record).all record.drainedSessionIds.contains &&
    record.drainedSessionIds.all (frozenSessions record).contains

def finishSubtreeDelete (database : CatalogDatabase) (idempotencyKey : String)
    (transactionHook : TransactionHook) (now : String) :
    Except NavigationError CatalogDatabase := do
  let record ← database.requireSubtreeDelete idempotencyKey
  if record.state = .completed then do
    transactionHook record
    return database
  else if !record.state.isMarked then
    .error (.runtimeError
      (s!"subtree delete record 状态不允许 finish: key={idempotencyKey}, " ++
        s!"state={record.state.text}"))
  else if !isDrained record then
    .error (.runtimeError
      s!"subtree delete drain 未完成，拒绝 tombstone: key={idempotencyKey}")
  else do
    let nodes ← database.nodes.removeSubtree idempotencyKey (frozenIds record)
    let finished := (database.withNodes nodes).updateSubtreeDelete idempotencyKey
      fun record => { record with state := .completed, updatedAt := now }
    let updated ← finished.requireSubtreeDelete idempotencyKey
    transactionHook updated
    return finished

def abortSubtreeDelete (database : CatalogDatabase) (idempotencyKey reason now : String) :
    Except NavigationError CatalogDatabase :=
  if reason = "" then
    .error (.valueError "abort reason 不能为空")
  else do
    let record ← database.requireSubtreeDelete idempotencyKey
    match record.state with
    | .completed =>
      .error (.runtimeError
        s!"subtree delete record 已完成，不可撤销: key={idempotencyKey}")
    | .aborted => return database
    | _ =>
      return database.updateSubtreeDelete idempotencyKey fun record =>
        { record with
          state := .aborted
          abortReason := some reason
          updatedAt := now }

def changeNodes (database : CatalogDatabase) (changed : Except NavigationError Nodes) :
    Except NavigationError CatalogDatabase :=
  changed.map database.withNodes

end CatalogDatabase

/-- One write transaction of the catalog.  `pinSources` stands for the writes of the
fork retention tables, of which only the unreleased claims matter here. -/
inductive CatalogCommand where
  | createFolder (nodeId workspaceId : String) (parentNodeId : Option String)
      (displayName : String)
  | createSessionNode (request : Nodes.SessionNodeRequest)
  | renameNode (nodeId displayName : String)
  | moveNode (nodeId : String) (newParentNodeId : Option String)
  | applyNavigationMutation (nodeId : String) (expectedRevision : Nat)
      (newParentNodeId : Option (Option String)) (newDisplayName : Option String)
  | deleteEmptyFolder (folderId : String)
  | createOrGetSubtreeDelete (idempotencyKey workspaceId rootNodeId : String)
  | markSubtreeDeleting (idempotencyKey : String) (transactionHook : TransactionHook)
  | recordDrainProgress (idempotencyKey sessionId : String)
  | finishSubtreeDelete (idempotencyKey : String) (transactionHook : TransactionHook)
  | abortSubtreeDelete (idempotencyKey reason : String)
  | pinSources (claims : List PinnedClaim)

namespace CatalogDatabase

/-- The result of the transaction. -/
def execute (database : CatalogDatabase) (now : String) :
    CatalogCommand → Except NavigationError CatalogDatabase
  | .createFolder nodeId workspaceId parentNodeId displayName =>
    database.changeNodes
      (database.nodes.createFolder nodeId workspaceId parentNodeId displayName)
  | .createSessionNode request => database.changeNodes (database.nodes.createSessionNode request)
  | .renameNode nodeId displayName =>
    database.changeNodes (database.nodes.renameNode nodeId displayName)
  | .moveNode nodeId newParentNodeId =>
    database.changeNodes (database.nodes.moveNode nodeId newParentNodeId)
  | .applyNavigationMutation nodeId expectedRevision newParentNodeId newDisplayName =>
    database.changeNodes (database.nodes.applyNavigationMutation nodeId expectedRevision
      newParentNodeId newDisplayName)
  | .deleteEmptyFolder folderId =>
    database.changeNodes (database.nodes.deleteEmptyFolder folderId)
  | .createOrGetSubtreeDelete idempotencyKey workspaceId rootNodeId =>
    database.createOrGetSubtreeDelete idempotencyKey workspaceId rootNodeId now
  | .markSubtreeDeleting idempotencyKey transactionHook =>
    database.markSubtreeDeleting idempotencyKey transactionHook now
  | .recordDrainProgress idempotencyKey sessionId =>
    database.recordDrainProgress idempotencyKey sessionId now
  | .finishSubtreeDelete idempotencyKey transactionHook =>
    database.finishSubtreeDelete idempotencyKey transactionHook now
  | .abortSubtreeDelete idempotencyKey reason =>
    database.abortSubtreeDelete idempotencyKey reason now
  | .pinSources claims => .ok { database with pinnedClaims := claims }

def step (database : CatalogDatabase) (command : CatalogCommand × String) : CatalogDatabase :=
  match database.execute command.2 command.1 with
  | .ok committed => committed
  | .error _ => database

/-- Transactions one after another, each with its clock reading. -/
def run (database : CatalogDatabase) (commands : List (CatalogCommand × String)) :
    CatalogDatabase :=
  commands.foldl step database

end CatalogDatabase

end GraphAgent.Catalog
