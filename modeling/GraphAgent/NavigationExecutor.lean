import GraphAgent.NavigationQueueStore

/-!
# The navigation executor

The write transactions of `executor.py` and of the subtree delete journal it
drives, over any node table.  A worker holds the owner it acquired and the
delete operations it claimed; it may stop after any transaction, and it may go
on after another worker has taken the queue from it.
-/

namespace GraphAgent.Navigation

open KeyedRows

structure SubtreeFrozenNode where
  nodeId : String
  revision : Nat

/-- The node table as the queue uses it: the two revisions, the changes of
`nodes.py` and `delete_empty_folder`, and the three node steps of a subtree
delete.  Every change may refuse. -/
structure NodeStore (Nodes : Type) where
  navigationRevision : Nodes → Nat
  nodeRevision : Nodes → String → Option Nat
  createFolder : Nodes → Option String → String → Option String → String →
    Except NavigationError (Nodes × String)
  applyNavigationMutation : Nodes → Option String → Option Nat →
    (newParentNodeId : Option (Option String)) → (newDisplayName : Option String) →
    Except NavigationError (Nodes × String)
  applyAutoTitleMutation : Nodes → Option String → Option Nat → Option String → String →
    Except NavigationError (Option (Nodes × String))
  deleteEmptyFolder : Nodes → String → Except NavigationError Nodes
  freezeSubtree : Nodes → String → String →
    Except NavigationError (List SubtreeFrozenNode × List (String × String))
  closeSubtree : Nodes → List SubtreeFrozenNode → List (String × String) →
    Except NavigationError Nodes
  removeSubtree : Nodes → List SubtreeFrozenNode → Except NavigationError Nodes

inductive SubtreeDeleteState where
  | preparing
  | deleting
  | draining
  | completed
  | aborted
  deriving DecidableEq

def SubtreeDeleteState.text : SubtreeDeleteState → String
  | .preparing => "preparing"
  | .deleting => "deleting"
  | .draining => "draining"
  | .completed => "completed"
  | .aborted => "aborted"

/-- The tree is closed and not yet removed. -/
def SubtreeDeleteState.isMarked : SubtreeDeleteState → Bool
  | .deleting | .draining => true
  | .preparing | .completed | .aborted => false

structure SubtreeDeleteRecord where
  idempotencyKey : String
  workspaceId : String
  rootNodeId : String
  frozenNodeIds : List SubtreeFrozenNode
  frozenSessionLocators : List (String × String)
  state : SubtreeDeleteState
  abortReason : Option String
  drainedSessionIds : List String
  createdAt : String
  updatedAt : String

structure NavigationDatabase (Nodes : Type) extends NavigationQueue where
  nodes : Nodes
  deletes : List SubtreeDeleteRecord

structure NavigationExecutionOutcome where
  record : NavigationMutationRecord
  settled : Bool

def terminalOutcome (record : NavigationMutationRecord) : NavigationExecutionOutcome :=
  ⟨record, !record.pendingSettlement⟩

def errorCode : NavigationError → String
  | .sessionDeletionPending _ => "session_deletion_pending"
  | .sourceRetainedByFork _ => "source_retained_by_fork"
  | .sourceRetentionOperationPending _ => "source_retention_operation_pending"
  | .keyError _ => "node_not_found"
  | .valueError _ => "invalid_operation"
  | _ => "conflict"

def rejectionDetail : NavigationError → String
  | .typeError message | .valueError message | .keyError message | .runtimeError message
  | .queueOwner message | .conflict message | .backpressure message
  | .sessionDeletionPending message | .sourceRetainedByFork message
  | .sourceRetentionOperationPending message => message
  | .skipped operationId => s!"导航 operation 已被其它 owner 领取: {operationId}"

def affectedOnReject (record : NavigationMutationRecord) : List String :=
  record.targetNodeId.toList ++ record.params.parentNodeId.toList

namespace NavigationDatabase

variable {Nodes : Type}

def opened (nodes : Nodes) : NavigationDatabase Nodes where
  toNavigationQueue := .empty
  nodes := nodes
  deletes := []

def withQueue (database : NavigationDatabase Nodes) (queue : NavigationQueue) :
    NavigationDatabase Nodes :=
  { database with toNavigationQueue := queue }

def withNodeChange (database : NavigationDatabase Nodes) (nodes : Nodes)
    (operation : Option RecordKey) : NavigationDatabase Nodes :=
  { database with
    nodes := nodes
    appliedChanges := database.appliedChanges ++ [operation] }

section Executor

variable (store : NodeStore Nodes) (choice : AnyRow NavigationMutationRecord)

def claim (database : NavigationDatabase Nodes) (owner : NavigationQueueOwner)
    (key : RecordKey) (now : String) :
    Except NavigationError (Option (NavigationMutationRecord × NavigationDatabase Nodes)) := do
  let current ← database.requireRecord key
  if current.isTerminal then
    return none
  else if current.state = .running then
    return none
  else
    match ← database.claimRunning choice current owner.holderId owner.ownerId
        owner.generation now with
    | none => return none
    | some (row, queue) => return some (row, database.withQueue queue)

/-- `_finish`: the terminal record and its event. -/
def finish (database : NavigationDatabase Nodes) (owner : NavigationQueueOwner)
    (record : NavigationMutationRecord) (state : NavigationMutationState)
    (resultNodeId : Option String) (affected : List String)
    (resultNodeRevision : Option Nat) (code detail : Option String)
    (pendingSettlement : Bool) (now : String) :
    Except NavigationError (NavigationMutationRecord × NavigationDatabase Nodes) := do
  database.requireOwnerGeneration owner.workspaceId owner.ownerId owner.generation
  let (terminal, finished) ← database.finishTerminal record record.fencingToken
    { state := state
      resultNodeId := resultNodeId
      resultNodeRevision := resultNodeRevision
      committedCatalogRevision := some (store.navigationRevision database.nodes)
      errorCode := code
      errorDetail := detail
      pendingSettlement := pendingSettlement } now
  let appended ← finished.appendEvent terminal affected now
  return (terminal, database.withQueue appended)

def requireLive (database : NavigationDatabase Nodes) (owner : NavigationQueueOwner)
    (key : RecordKey) : Except NavigationError (Option NavigationMutationRecord) := do
  database.requireOwnerGeneration owner.workspaceId owner.ownerId owner.generation
  let current ← database.requireRecord key
  return if current.isTerminal then none else some current

def resolveParent (database : NavigationDatabase Nodes) (record : NavigationMutationRecord) :
    Except NavigationError (Option String) :=
  match record.createdByOperationId with
  | none => .ok record.params.parentNodeId
  | some createdBy =>
    match database.fetchRecord { record.key with operationId := createdBy } with
    | none =>
      .error (.keyError
        (s!"created_by_operation_id 引用的 operation 不存在: " ++
          s!"operation={record.key.operationId}, referenced={createdBy}"))
    | some referenced =>
      if referenced.state ≠ .committed ∨ referenced.resultNodeId = none then
        .error (.runtimeError
          (s!"created_by_operation_id 尚未成功提交，无法解析父节点: " ++
            s!"operation={record.key.operationId}, referenced={createdBy}, " ++
            s!"referenced_state={referenced.state.text}"))
      else
        .ok referenced.resultNodeId

/-- `_predecessor_for`: the latest referenced operation whose result is the
target node. -/
def predecessorFor (database : NavigationDatabase Nodes) (record : NavigationMutationRecord) :
    Option NavigationMutationRecord :=
  let candidates := record.dependencyIds.filterMap fun dependencyId =>
    database.fetchRecord { record.key with operationId := dependencyId }
  (candidates.filter fun candidate => candidate.resultNodeId = record.targetNodeId).argmax
    (·.queueSeq)

def resolveExpectedRevision (database : NavigationDatabase Nodes)
    (record : NavigationMutationRecord) : Except NavigationError (Option Nat) :=
  if record.kind = .createFolder then
    .ok none
  else
    match database.predecessorFor record with
    | some predecessor =>
      match predecessor.resultNodeRevision with
      | none =>
        .error (.runtimeError
          (s!"前序 operation 缺少结果 revision，无法串行同 node 编辑: " ++
            s!"operation={record.key.operationId}, " ++
            s!"predecessor={predecessor.key.operationId}"))
      | some revision => .ok (some revision)
    | none =>
      match record.params.expectedRevision with
      | none =>
        .error (.typeError
          (s!"operation 缺少 expected_revision，无法执行 CAS: " ++
            s!"operation_id={record.key.operationId}"))
      | some revision => .ok (some revision)

/-- `_apply_node_change`: the new nodes, the affected ids and the result id. -/
def applyNodeChange (nodes : Nodes) (workspaceId : String) (record : NavigationMutationRecord)
    (parentNodeId : Option String) (expectedRevision : Option Nat) :
    Except NavigationError (Option (Nodes × List String × String)) :=
  let name := record.params.name.getD "None"
  match record.kind with
  | .createFolder => do
      let (changed, nodeId) ←
        store.createFolder nodes record.reservedNodeId workspaceId parentNodeId name
      return some (changed, [nodeId], nodeId)
  | .renameNode => do
      let (changed, nodeId) ← store.applyNavigationMutation nodes record.targetNodeId
        expectedRevision none (some name)
      return some (changed, [nodeId], nodeId)
  | .autoTitleSession => do
      match ← store.applyAutoTitleMutation nodes record.targetNodeId
          record.params.expectedRevision record.params.expectedTitle name with
      | none => return none
      | some (changed, nodeId) => return some (changed, [nodeId], nodeId)
  | .moveNode => do
      let (changed, nodeId) ← store.applyNavigationMutation nodes record.targetNodeId
        expectedRevision (some parentNodeId) none
      return some (changed, nodeId :: parentNodeId.toList, nodeId)
  | kind => .error (.runtimeError s!"executor 不处理的 operation kind: {kind.text}")

/-- The transaction of `_execute_node_mutation`: claim, change the nodes, write
the terminal record and its event. -/
def executeNodeMutation (database : NavigationDatabase Nodes) (owner : NavigationQueueOwner)
    (key : RecordKey) (now : String) :
    Except NavigationError (NavigationExecutionOutcome × NavigationDatabase Nodes) := do
  match ← database.claim choice owner key now with
  | none => .error (.skipped key.operationId)
  | some (claimed, database) =>
    let parentNodeId ← database.resolveParent claimed
    let expectedRevision ← database.resolveExpectedRevision claimed
    match ← applyNodeChange store database.nodes owner.workspaceId claimed parentNodeId
        expectedRevision with
    | none =>
      let (terminal, database) ← database.finish store owner claimed .rejected none
        [claimed.targetNodeId.getD "None"] none (some "session_title_not_applicable")
        (some "会话已被用户改名或目录状态已变化，自动标题不再适用") false now
      return (⟨terminal, true⟩, database)
    | some (nodes, affected, resultNodeId) =>
      let changed := database.withNodeChange nodes (some claimed.key)
      match store.nodeRevision changed.nodes resultNodeId with
      | none => .error (.keyError s!"会话目录节点不存在: {resultNodeId}")
      | some revision =>
        let (terminal, database) ← changed.finish store owner claimed .committed
          (some resultNodeId) affected (some revision) none none false now
        return (⟨terminal, true⟩, database)

/-- The transaction of `_execute_empty_folder_delete`. -/
def executeEmptyFolderDelete (database : NavigationDatabase Nodes)
    (owner : NavigationQueueOwner) (key : RecordKey) (now : String) :
    Except NavigationError (NavigationExecutionOutcome × NavigationDatabase Nodes) := do
  match ← database.claim choice owner key now with
  | none => .error (.skipped key.operationId)
  | some (claimed, database) =>
    let target := claimed.targetNodeId.getD "None"
    let nodes ← store.deleteEmptyFolder database.nodes target
    let changed := database.withNodeChange nodes (some claimed.key)
    let (terminal, database) ← changed.finish store owner claimed .committed
      claimed.targetNodeId [target] none none none false now
    return (⟨terminal, true⟩, database)

/-- `_claim_or_raise`: the claim a recursive delete commits on its own. -/
def claimOrRaise (database : NavigationDatabase Nodes) (owner : NavigationQueueOwner)
    (key : RecordKey) (now : String) :
    Except NavigationError (NavigationMutationRecord × NavigationDatabase Nodes) := do
  match ← database.claim choice owner key now with
  | none => .error (.skipped key.operationId)
  | some claimed => return claimed

def appendSuccessorEvents (now : String) : List NavigationMutationRecord → NavigationQueue →
    Except NavigationError NavigationQueue
  | [], queue => .ok queue
  | successor :: rest, queue => do
      let failed ← queue.requireRecord successor.key
      let appended ← queue.appendEvent failed (affectedOnReject failed) now
      appendSuccessorEvents now rest appended

/-- The part of `_reject` after the row is known to be held. -/
def rejectHeld (database : NavigationDatabase Nodes) (owner : NavigationQueueOwner)
    (claimed : NavigationMutationRecord) (error : NavigationError) (now : String) :
    Except NavigationError (NavigationExecutionOutcome × NavigationDatabase Nodes) := do
  let (terminal, database) ← database.finish store owner claimed .rejected none
    (affectedOnReject claimed) none (some (errorCode error)) (some (rejectionDetail error))
    false now
  let (successors, marked) := database.markDependencyFailedSuccessors owner.workspaceId
    terminal.key.operationId (store.navigationRevision database.nodes) now
  let appended ← appendSuccessorEvents now successors marked
  return (⟨terminal, true⟩, database.withQueue appended)

/-- `_reject` with `claim=True`. -/
def reject (database : NavigationDatabase Nodes) (owner : NavigationQueueOwner)
    (key : RecordKey) (error : NavigationError) (now : String) :
    Except NavigationError (NavigationExecutionOutcome × NavigationDatabase Nodes) := do
  match ← database.claim choice owner key now with
  | none =>
    let existing ← database.requireRecord key
    if existing.isTerminal then
      return (terminalOutcome existing, database)
    else
      .error (.skipped key.operationId)
  | some (claimed, database) => rejectHeld store database owner claimed error now

/-- `_reject` with `claim=False`, on a record the worker claimed before. -/
def rejectClaimed (database : NavigationDatabase Nodes) (owner : NavigationQueueOwner)
    (record : NavigationMutationRecord) (error : NavigationError) (now : String) :
    Except NavigationError (NavigationExecutionOutcome × NavigationDatabase Nodes) := do
  match ← database.requireLive owner record.key with
  | none => return (terminalOutcome record, database)
  | some claimed => rejectHeld store database owner claimed error now

def fetchSubtreeDelete (database : NavigationDatabase Nodes) (idempotencyKey : String) :
    Option SubtreeDeleteRecord :=
  fetch (·.idempotencyKey) database.deletes idempotencyKey

def requireSubtreeDelete (database : NavigationDatabase Nodes) (idempotencyKey : String) :
    Except NavigationError SubtreeDeleteRecord :=
  match database.fetchSubtreeDelete idempotencyKey with
  | some record => .ok record
  | none => .error (.keyError s!"subtree delete record 不存在: key={idempotencyKey}")

def updateSubtreeDelete (database : NavigationDatabase Nodes) (idempotencyKey : String)
    (change : SubtreeDeleteRecord → SubtreeDeleteRecord) : NavigationDatabase Nodes :=
  { database with
    deletes := updateWhere (fun record => record.idempotencyKey = idempotencyKey) change
      database.deletes }

/-- `create_or_get_subtree_delete_record`. -/
def createOrGetSubtreeDelete (database : NavigationDatabase Nodes)
    (idempotencyKey workspaceId rootNodeId now : String) :
    Except NavigationError (NavigationDatabase Nodes) :=
  match database.fetchSubtreeDelete idempotencyKey with
  | some existing =>
    if existing.workspaceId ≠ workspaceId ∨ existing.rootNodeId ≠ rootNodeId then
      .error (.runtimeError
        (s!"subtree delete record preimage 冲突（同 key 不同 workspace/root，拒绝复用）: " ++
          s!"key={idempotencyKey}, existing_workspace={existing.workspaceId}, " ++
          s!"existing_root={existing.rootNodeId}, requested_workspace={workspaceId}, " ++
          s!"requested_root={rootNodeId}"))
    else
      .ok database
  | none => do
      let (frozenNodeIds, locators) ←
        store.freezeSubtree database.nodes workspaceId rootNodeId
      return { database with
        deletes := database.deletes ++
          [{ idempotencyKey := idempotencyKey
             workspaceId := workspaceId
             rootNodeId := rootNodeId
             frozenNodeIds := frozenNodeIds
             frozenSessionLocators := locators
             state := .preparing
             abortReason := none
             drainedSessionIds := []
             createdAt := now
             updatedAt := now }] }

def subtreeDeleteMarkHook (owner : NavigationQueueOwner) (now : String)
    (database : NavigationDatabase Nodes) (record : SubtreeDeleteRecord) :
    Except NavigationError (NavigationDatabase Nodes) := do
  match ← database.findDeleteOperation owner.workspaceId record.idempotencyKey with
  | none => return database
  | some operation =>
    if operation.targetNodeId ≠ some record.rootNodeId then
      .error (.runtimeError
        (s!"subtree delete root 与导航 operation target 不一致: " ++
          s!"operation_id={operation.key.operationId}, root={record.rootNodeId}"))
    else if operation.state = .committed then
      if operation.resultNodeId ≠ some record.rootNodeId then
        .error (.runtimeError
          (s!"已 committed 的递归删除 receipt 与 catalog root 不一致: " ++
            s!"operation_id={operation.key.operationId}"))
      else
        return database
    else if operation.state ≠ .running then
      .error (.runtimeError
        (s!"子树删除 mark 只能提交当前 running 导航 operation: " ++
          s!"operation_id={operation.key.operationId}, state={operation.state.text}"))
    else
      match ← database.requireLive owner operation.key with
      | none =>
        .error (.runtimeError
          (s!"子树删除 mark 时导航 operation 已终结: " ++
            s!"operation_id={operation.key.operationId}"))
      | some live => do
          let (_, database) ← database.finish store owner live .committed
            (some record.rootNodeId)
            (record.rootNodeId :: record.frozenNodeIds.map (·.nodeId)) none none none true now
          return database

def closedFor (database : NavigationDatabase Nodes) (owner : NavigationQueueOwner)
    (idempotencyKey : String) : Option RecordKey :=
  match database.findDeleteOperation owner.workspaceId idempotencyKey with
  | .ok (some operation) => some operation.key
  | _ => none

/-- `mark_subtree_deleting` with the mark hook. -/
def markSubtreeDeleting (database : NavigationDatabase Nodes) (owner : NavigationQueueOwner)
    (idempotencyKey now : String) : Except NavigationError (NavigationDatabase Nodes) := do
  let record ← database.requireSubtreeDelete idempotencyKey
  if record.state.isMarked then
    subtreeDeleteMarkHook store owner now database record
  else if record.state ≠ .preparing then
    .error (.runtimeError
      (s!"subtree delete record 状态不允许 mark: key={idempotencyKey}, " ++
        s!"state={record.state.text}"))
  else do
    let nodes ← store.closeSubtree database.nodes record.frozenNodeIds
      record.frozenSessionLocators
    let closed := (database.withNodeChange nodes (database.closedFor owner idempotencyKey))
      |>.updateSubtreeDelete idempotencyKey fun record =>
        { record with state := .deleting, updatedAt := now }
    let updated ← closed.requireSubtreeDelete idempotencyKey
    subtreeDeleteMarkHook store owner now closed updated

def recordDrainProgress (database : NavigationDatabase Nodes)
    (idempotencyKey sessionId now : String) :
    Except NavigationError (NavigationDatabase Nodes) := do
  let record ← database.requireSubtreeDelete idempotencyKey
  if !record.state.isMarked then
    .error (.runtimeError
      (s!"subtree delete record 状态不允许记录 drain 进度: key={idempotencyKey}, " ++
        s!"state={record.state.text}"))
  else if !(record.frozenSessionLocators.map (·.1)).contains sessionId then
    .error (.runtimeError
      (s!"drain 进度的 session 不在冻结集合内（拒绝记录）: key={idempotencyKey}, " ++
        s!"session_id={sessionId}"))
  else if record.drainedSessionIds.contains sessionId then
    return database
  else
    return database.updateSubtreeDelete idempotencyKey fun record =>
      { record with
        state := .draining
        drainedSessionIds := record.drainedSessionIds ++ [sessionId]
        updatedAt := now }

def subtreeDeleteFinishHook (owner : NavigationQueueOwner) (now : String)
    (database : NavigationDatabase Nodes) (record : SubtreeDeleteRecord) :
    Except NavigationError (NavigationDatabase Nodes) := do
  match ← database.findDeleteOperation owner.workspaceId record.idempotencyKey with
  | none => return database
  | some operation => do
      database.requireOwnerGeneration owner.workspaceId owner.ownerId owner.generation
      if operation.state ≠ .committed then
        .error (.runtimeError
          (s!"子树删除完成时导航 operation 未由 mark 事务同步提交为 committed: " ++
            s!"operation_id={operation.key.operationId}, state={operation.state.text}"))
      else if operation.pendingSettlement then do
        let (_, settled) ← database.settleDeleteOperation operation.key now
        return database.withQueue settled
      else
        return database

/-- `finish_subtree_delete` with the finish hook. -/
def finishSubtreeDelete (database : NavigationDatabase Nodes) (owner : NavigationQueueOwner)
    (idempotencyKey now : String) : Except NavigationError (NavigationDatabase Nodes) := do
  let record ← database.requireSubtreeDelete idempotencyKey
  if record.state = .completed then
    subtreeDeleteFinishHook owner now database record
  else if !record.state.isMarked then
    .error (.runtimeError
      (s!"subtree delete record 状态不允许 finish: key={idempotencyKey}, " ++
        s!"state={record.state.text}"))
  else if !((record.frozenSessionLocators.map (·.1)).all record.drainedSessionIds.contains &&
      record.drainedSessionIds.all (record.frozenSessionLocators.map (·.1)).contains) then
    .error (.runtimeError
      s!"subtree delete drain 未完成，拒绝 tombstone: key={idempotencyKey}")
  else do
    let nodes ← store.removeSubtree database.nodes record.frozenNodeIds
    let removed := { database with nodes := nodes }.updateSubtreeDelete idempotencyKey
      fun record => { record with state := .completed, updatedAt := now }
    let updated ← removed.requireSubtreeDelete idempotencyKey
    subtreeDeleteFinishHook owner now removed updated

def abortSubtreeDelete (database : NavigationDatabase Nodes)
    (idempotencyKey reason now : String) :
    Except NavigationError (NavigationDatabase Nodes) :=
  if reason = "" then
    .error (.valueError "abort reason 不能为空")
  else do
    let record ← database.requireSubtreeDelete idempotencyKey
    match record.state with
    | .completed =>
      .error (.runtimeError
        s!"subtree delete record 已完成，不可撤销: key={idempotencyKey}")
    | .aborted => return database
    | _ =>
      return database.updateSubtreeDelete idempotencyKey fun record =>
        { record with
          state := .aborted
          abortReason := some reason
          updatedAt := now }

/-- The last transaction of `_execute_delete`, after the delete flow returned a
completed record or an unfinished one. -/
def settleExecutedDelete (database : NavigationDatabase Nodes) (key : RecordKey)
    (settled : Bool) (now : String) :
    Except NavigationError (NavigationExecutionOutcome × NavigationDatabase Nodes) := do
  let current ← database.requireRecord key
  if current.state = .committed ∧ settled = true then
    if current.pendingSettlement then do
      let (terminal, queue) ← database.settleDeleteOperation key now
      return (terminalOutcome terminal, database.withQueue queue)
    else
      return (terminalOutcome current, database)
  else if current.state = .committed then
    return (terminalOutcome current, database)
  else
    .error (.runtimeError
      (s!"递归删除完成后导航 operation 状态不一致: operation_id={key.operationId}, " ++
        s!"state={current.state.text}"))

def recordDeleteSettlementFailure (database : NavigationDatabase Nodes)
    (owner : NavigationQueueOwner) (key : RecordKey) (detail now : String) :
    Except NavigationError (NavigationDatabase Nodes) := do
  database.requireOwnerGeneration owner.workspaceId owner.ownerId owner.generation
  let (_, queue) ← database.markDeleteRepairRequired key detail now
  return database.withQueue queue

end Executor

end NavigationDatabase

/-- The database and what the workers hold: for each recursive delete an owner
claimed, the record `_claim_or_raise` returned to it. -/
structure NavigationSystem (Nodes : Type) where
  database : NavigationDatabase Nodes
  claimed : List (NavigationQueueOwner × NavigationMutationRecord)

inductive NavigationCommand (Nodes : Type) where
  | enqueueBatch (gatewayId workspaceId actor : String)
      (intents : List NavigationQueueCommand) (newFolderId : Nat → String)
  | acquireOwner (workspaceId ownerId : String)
  | recoverInFlight (owner : NavigationQueueOwner)
  | executeRecord (owner : NavigationQueueOwner) (gatewayId actor operationId : String)
  | reject (owner : NavigationQueueOwner) (gatewayId actor operationId : String)
      (error : NavigationError)
  | rejectClaimed (owner : NavigationQueueOwner) (record : NavigationMutationRecord)
      (error : NavigationError)
  | createSubtreeDelete (owner : NavigationQueueOwner) (record : NavigationMutationRecord)
  | markSubtreeDeleting (owner : NavigationQueueOwner) (idempotencyKey : String)
  | recordDrainProgress (owner : NavigationQueueOwner) (idempotencyKey sessionId : String)
  | finishSubtreeDelete (owner : NavigationQueueOwner) (idempotencyKey : String)
  | abortSubtreeDelete (owner : NavigationQueueOwner) (idempotencyKey reason : String)
  | settleDelete (owner : NavigationQueueOwner) (record : NavigationMutationRecord)
  | recordSettlementFailure (owner : NavigationQueueOwner)
      (gatewayId actor operationId detail : String)
  | writeCatalog (nodes : Nodes)

namespace NavigationSystem

variable {Nodes : Type} (store : NodeStore Nodes) (choice : AnyRow NavigationMutationRecord)

def opened (nodes : Nodes) : NavigationSystem Nodes :=
  ⟨.opened nodes, []⟩

/-- `write_transaction`: commit the result, or roll everything back. -/
def commit (system : NavigationSystem Nodes)
    (result : Except NavigationError (NavigationDatabase Nodes)) : NavigationSystem Nodes :=
  match result with
  | .ok database => { system with database := database }
  | .error _ => system

def ownsSubtreeDelete (system : NavigationSystem Nodes) (owner : NavigationQueueOwner)
    (idempotencyKey : String) : Bool :=
  (system.database.fetchSubtreeDelete idempotencyKey).any fun record =>
    record.workspaceId = owner.workspaceId

/-- The first transaction of `execute_record`. -/
def executeRecord (system : NavigationSystem Nodes) (owner : NavigationQueueOwner)
    (key : RecordKey) (now : String) : NavigationSystem Nodes :=
  match system.database.fetchRecord key with
  | none => system
  | some record =>
    if record.isTerminal then
      system
    else if record.kind = .deleteFolder ∧ record.params.recursive = false then
      system.commit
        ((system.database.executeEmptyFolderDelete store choice owner key now).map (·.2))
    else if record.kind = .deleteFolder ∨ record.kind = .deleteSession then
      match system.database.claimOrRaise choice owner key now with
      | .error _ => system
      | .ok (claimed, database) =>
        ⟨database, system.claimed ++ [(owner, claimed)]⟩
    else
      system.commit
        ((system.database.executeNodeMutation store choice owner key now).map (·.2))

/-- One transaction. -/
def step (system : NavigationSystem Nodes) (now : String) :
    NavigationCommand Nodes → NavigationSystem Nodes
  | .enqueueBatch gatewayId workspaceId actor intents newFolderId =>
    system.commit ((system.database.enqueueBatch gatewayId workspaceId actor intents
      newFolderId now).map fun accepted => system.database.withQueue accepted.2)
  | .acquireOwner workspaceId ownerId =>
    { system with
      database := system.database.withQueue
        (system.database.acquireOwner workspaceId ownerId) }
  | .recoverInFlight owner =>
    system.commit ((system.database.recoverInFlight owner.workspaceId owner.ownerId
      owner.generation now).map system.database.withQueue)
  | .executeRecord owner gatewayId actor operationId =>
    system.executeRecord store choice owner ⟨gatewayId, owner.workspaceId, actor, operationId⟩
      now
  | .reject owner gatewayId actor operationId error =>
    system.commit ((system.database.reject store choice owner
      ⟨gatewayId, owner.workspaceId, actor, operationId⟩ error now).map (·.2))
  | .rejectClaimed owner record error =>
    if (owner, record) ∈ system.claimed then
      system.commit ((system.database.rejectClaimed store owner record error now).map (·.2))
    else
      system
  | .createSubtreeDelete owner record =>
    if (owner, record) ∈ system.claimed then
      system.commit (system.database.createOrGetSubtreeDelete store record.key.operationId
        owner.workspaceId (record.targetNodeId.getD "None") now)
    else
      system
  | .markSubtreeDeleting owner idempotencyKey =>
    if system.ownsSubtreeDelete owner idempotencyKey then
      system.commit (system.database.markSubtreeDeleting store owner idempotencyKey now)
    else
      system
  | .recordDrainProgress owner idempotencyKey sessionId =>
    if system.ownsSubtreeDelete owner idempotencyKey then
      system.commit (system.database.recordDrainProgress idempotencyKey sessionId now)
    else
      system
  | .finishSubtreeDelete owner idempotencyKey =>
    if system.ownsSubtreeDelete owner idempotencyKey then
      system.commit (system.database.finishSubtreeDelete store owner idempotencyKey now)
    else
      system
  | .abortSubtreeDelete owner idempotencyKey reason =>
    if system.ownsSubtreeDelete owner idempotencyKey then
      system.commit (system.database.abortSubtreeDelete idempotencyKey reason now)
    else
      system
  | .settleDelete owner record =>
    if (owner, record) ∈ system.claimed then
      system.commit ((system.database.settleExecutedDelete record.key
        ((system.database.fetchSubtreeDelete record.key.operationId).any
          fun journal => journal.state = .completed) now).map (·.2))
    else
      system
  | .recordSettlementFailure owner gatewayId actor operationId detail =>
    system.commit (system.database.recordDeleteSettlementFailure owner
      ⟨gatewayId, owner.workspaceId, actor, operationId⟩ detail now)
  | .writeCatalog nodes =>
    { system with database := { system.database with nodes := nodes } }

/-- A run: transactions one after another, each with its clock reading. -/
def run (system : NavigationSystem Nodes) (commands : List (NavigationCommand Nodes × String)) :
    NavigationSystem Nodes :=
  commands.foldl (fun system command => system.step store choice command.2 command.1) system

end NavigationSystem

end GraphAgent.Navigation
