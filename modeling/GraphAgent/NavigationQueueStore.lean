import GraphAgent.KeyedRows
import GraphAgent.NavigationIntents
import Mathlib.Data.List.MinMax

/-!
# The navigation queue tables

The rows of `navigation_mutation_records`, `navigation_events` and
`navigation_queue_owners`, and the methods of `queue_store.py`,
`queue_dependencies.py` and `queue_events.py` on them.  A method runs inside
the write transaction of its caller: an error rolls the whole transaction back.
-/

namespace GraphAgent.Navigation

open KeyedRows

structure RecordKey where
  gatewayId : String
  workspaceId : String
  actor : String
  operationId : String
  deriving DecidableEq

structure AcceptedIntent where
  key : RecordKey
  clientSequence : Nat
  queueSeq : Nat
  kind : NavigationMutationKind
  params : NavigationParams
  preimageHash : String
  dependsOn : List String
  createdByOperationId : Option String
  targetNodeId : Option String
  reservedNodeId : Option String
  createdAt : String
  deriving DecidableEq

namespace AcceptedIntent

def dependencyIds (intent : AcceptedIntent) : List String :=
  intent.dependsOn ++ intent.createdByOperationId.toList

/-- The kinds `find_delete_operation_in` looks for. -/
def isDelete (intent : AcceptedIntent) : Bool :=
  intent.kind = .deleteFolder || intent.kind = .deleteSession

def isSubtreeDelete (intent : AcceptedIntent) : Bool :=
  intent.kind = .deleteSession || intent.kind = .deleteFolder && intent.params.recursive

end AcceptedIntent

structure NavigationMutationRecord extends AcceptedIntent where
  state : NavigationMutationState
  resultNodeId : Option String
  resultNodeRevision : Option Nat
  committedCatalogRevision : Option Nat
  errorCode : Option String
  errorDetail : Option String
  pendingSettlement : Bool
  holderId : Option String
  fencingToken : Nat
  receiptRevision : Nat
  updatedAt : String
  deriving DecidableEq

def NavigationMutationRecord.isTerminal (record : NavigationMutationRecord) : Bool :=
  record.state.isTerminal

structure NavigationEventRecord where
  key : RecordKey
  eventSeq : Nat
  queueSeq : Nat
  kind : NavigationMutationKind
  resultState : NavigationMutationState
  committedCatalogRevision : Option Nat
  affectedNodeIds : List String
  errorCode : Option String
  errorDetail : Option String
  createdAt : String

structure NavigationQueueOwner where
  workspaceId : String
  ownerId : String
  generation : Nat
  deriving DecidableEq

def NavigationQueueOwner.holderId (owner : NavigationQueueOwner) : String :=
  s!"{owner.ownerId}:{owner.generation}"

/-- The queue tables.  `appliedChanges` is not stored: it lists, for each change
a transaction made to the node table on behalf of the queue, the operation it
was made for. -/
structure NavigationQueue where
  records : List NavigationMutationRecord
  events : List NavigationEventRecord
  owners : List NavigationQueueOwner
  appliedChanges : List (Option RecordKey)

def backpressurePendingLimit : Nat := 1000

def repairRequired : String := "delete_settlement_repair_required"

namespace NavigationQueue

def empty : NavigationQueue := ⟨[], [], [], []⟩

def fetchRecord (queue : NavigationQueue) (key : RecordKey) :
    Option NavigationMutationRecord :=
  fetch (·.key) queue.records key

def requireRecord (queue : NavigationQueue) (key : RecordKey) :
    Except NavigationError NavigationMutationRecord :=
  match queue.fetchRecord key with
  | some record => .ok record
  | none => .error (.keyError s!"会话目录 operation 不存在: {key.operationId}")

def pendingRecords (queue : NavigationQueue) (workspaceId : String) :
    List NavigationMutationRecord :=
  queue.records.filter fun row => row.key.workspaceId = workspaceId && !row.isTerminal

def countPending (queue : NavigationQueue) (workspaceId : String) : Nat :=
  (queue.pendingRecords workspaceId).length

def nextQueueSeq (queue : NavigationQueue) (workspaceId : String) : Nat :=
  ((queue.records.filter fun row => row.key.workspaceId = workspaceId).map (·.queueSeq)).foldr
    max 0 + 1

def referencedRecords (queue : NavigationQueue) (workspaceId operationId : String) :
    List NavigationMutationRecord :=
  queue.records.filter fun row =>
    row.key.workspaceId = workspaceId && row.key.operationId = operationId

def requireReferencedOperation (queue : NavigationQueue) (workspaceId operationId : String)
    (intent : NavigationQueueCommand) : Except NavigationError Unit :=
  match queue.referencedRecords workspaceId operationId with
  | [] =>
    .error (.conflict
      (s!"跨批依赖引用的 operation 尚未被 durable 接受: intent={intent.clientOperationId}, " ++
        s!"dependency={operationId}"))
  | _ :: _ => .ok ()

/-- One reference of `_require_batch_dependencies_precede`. -/
def requireDependencyPrecedes (queue : NavigationQueue) (workspaceId : String)
    (batch : List NavigationQueueCommand) (intent : NavigationQueueCommand) (position : Nat)
    (dependencyId : String) : Except NavigationError Unit :=
  if dependencyId = intent.clientOperationId then
    .error (.valueError s!"intent 不能依赖自身: operation_id={intent.clientOperationId}")
  else
    match batch.findIdx? (fun member => member.clientOperationId = dependencyId) with
    | none => .ok ()
    | some dependencyPosition =>
      if dependencyPosition < position then
        .ok ()
      else
        match queue.referencedRecords workspaceId dependencyId with
        | [] =>
          .error (.valueError
            (s!"同批依赖必须先于依赖方入队，避免 FIFO 队首永久阻塞: " ++
              s!"operation_id={intent.clientOperationId}, dependency_id={dependencyId}"))
        | _ :: _ => .ok ()

/-- One reference of `_require_dependencies_resolvable`. -/
def requireDependencyResolvable (queue : NavigationQueue) (workspaceId : String)
    (batch : List NavigationQueueCommand) (intent : NavigationQueueCommand)
    (dependencyId : String) : Except NavigationError Unit :=
  if (batch.map (·.clientOperationId)).contains dependencyId then
    .ok ()
  else
    queue.requireReferencedOperation workspaceId dependencyId intent

def requireDependenciesResolvable (queue : NavigationQueue) (workspaceId : String)
    (batch : List NavigationQueueCommand) (intent : NavigationQueueCommand) :
    Except NavigationError Unit := do
  intent.dependsOn.forM (queue.requireDependencyResolvable workspaceId batch intent)
  match intent.createdByOperationId with
  | none => .ok ()
  | some createdBy =>
    if createdBy = intent.clientOperationId then
      .error (.valueError "intent 不能引用自身作为 created_by_operation_id")
    else
      queue.requireDependencyResolvable workspaceId batch intent createdBy

def queuedRecord (key : RecordKey) (intent : NavigationQueueCommand) (queueSeq : Nat)
    (newFolderId : Nat → String) (now : String) : NavigationMutationRecord where
  key := key
  clientSequence := intent.clientSequence
  queueSeq := queueSeq
  kind := intent.kind
  params := intent.params
  preimageHash := computeIntentPreimageHash intent
  dependsOn := sortedStrings intent.dependsOn
  createdByOperationId := intent.createdByOperationId
  targetNodeId := intent.targetNodeId
  reservedNodeId := if intent.kind = .createFolder then some (newFolderId queueSeq) else none
  createdAt := now
  state := .queued
  resultNodeId := none
  resultNodeRevision := none
  committedCatalogRevision := none
  errorCode := none
  errorDetail := none
  pendingSettlement := false
  holderId := none
  fencingToken := 0
  receiptRevision := 1
  updatedAt := now

/-- One intent of the loop of `enqueue_batch`. -/
def acceptIntent (queue : NavigationQueue) (gatewayId workspaceId actor : String)
    (batch : List NavigationQueueCommand) (newFolderId : Nat → String) (now : String)
    (intent : NavigationQueueCommand) (position : Nat) :
    Except NavigationError (NavigationMutationRecord × NavigationQueue) :=
  let key : RecordKey := ⟨gatewayId, workspaceId, actor, intent.clientOperationId⟩
  match queue.fetchRecord key with
  | some existing =>
    if existing.preimageHash ≠ computeIntentPreimageHash intent then
      .error (.conflict
        (s!"同一 client_operation_id 携带不同 preimage，明确冲突: " ++
          s!"operation_id={intent.clientOperationId}"))
    else
      .ok (existing, queue)
  | none => do
      let dependencyIds := intent.dependsOn ++ intent.createdByOperationId.toList
      dependencyIds.forM
        (queue.requireDependencyPrecedes workspaceId batch intent position)
      queue.requireDependenciesResolvable workspaceId batch intent
      let record :=
        queuedRecord key intent (queue.nextQueueSeq workspaceId) newFolderId now
      return (record, { queue with records := queue.records ++ [record] })

def acceptIntents (gatewayId workspaceId actor : String) (batch : List NavigationQueueCommand)
    (newFolderId : Nat → String) (now : String) :
    List (NavigationQueueCommand × Nat) → NavigationQueue →
      Except NavigationError (List NavigationMutationRecord × NavigationQueue)
  | [], queue => .ok ([], queue)
  | (intent, position) :: rest, queue => do
      let (receipt, accepted) ←
        queue.acceptIntent gatewayId workspaceId actor batch newFolderId now intent position
      let (receipts, final) ←
        acceptIntents gatewayId workspaceId actor batch newFolderId now rest accepted
      return (receipt :: receipts, final)

def enqueueBatch (queue : NavigationQueue) (gatewayId workspaceId actor : String)
    (intents : List NavigationQueueCommand) (newFolderId : Nat → String) (now : String) :
    Except NavigationError (List NavigationMutationRecord × NavigationQueue) :=
  let pending := queue.countPending workspaceId
  if backpressurePendingLimit < pending + intents.length then
    .error (.backpressure
      (s!"会话目录 operation 队列积压达到上限，请稍后重试并保留本地 outbox: " ++
        s!"workspace_id={workspaceId}, pending={pending}, batch={intents.length}, " ++
        s!"limit={backpressurePendingLimit}"))
  else
    let ordered := intents.insertionSort fun left right =>
      left.clientSequence ≤ right.clientSequence
    if ¬ (intents.map (·.clientOperationId)).Nodup then
      .error (.valueError "同批 client_operation_id 必须唯一")
    else
      acceptIntents gatewayId workspaceId actor ordered newFolderId now ordered.zipIdx queue

def fetchOwner (queue : NavigationQueue) (workspaceId : String) : Option NavigationQueueOwner :=
  fetch (·.workspaceId) queue.owners workspaceId

/-- `acquire_owner`: every call raises the durable generation. -/
def acquireOwner (queue : NavigationQueue) (workspaceId ownerId : String) : NavigationQueue :=
  { queue with
    owners := upsert (·.workspaceId) ⟨workspaceId, ownerId, 1⟩
      (fun owner => { owner with ownerId := ownerId, generation := owner.generation + 1 })
      queue.owners }

def requireOwnerGeneration (queue : NavigationQueue) (workspaceId ownerId : String)
    (generation : Nat) : Except NavigationError Unit :=
  match queue.fetchOwner workspaceId with
  | none =>
    .error (.queueOwner
      (s!"navigation queue owner fencing token 已失效: workspace_id={workspaceId}, " ++
        s!"expected={ownerId}:{generation}, current=None"))
  | some owner =>
    if owner.ownerId = ownerId ∧ owner.generation = generation then
      .ok ()
    else
      .error (.queueOwner
        (s!"navigation queue owner fencing token 已失效: workspace_id={workspaceId}, " ++
          s!"expected={ownerId}:{generation}, current={owner.holderId}"))

/-- `_dependencies_terminal` on `depends_on`. -/
def dependsOnTerminal (choice : AnyRow NavigationMutationRecord) (queue : NavigationQueue)
    (workspaceId : String) (record : NavigationMutationRecord) :
    List String → Except NavigationError Bool
  | [] => .ok true
  | dependencyId :: rest =>
    match choice.pick (queue.referencedRecords workspaceId dependencyId) with
    | none =>
      .error (.runtimeError
        (s!"已 durable 接受的依赖 operation 缺失（catalog 被外部改动）: " ++
          s!"operation={record.key.operationId}, dependency={dependencyId}"))
    | some row =>
      if row.isTerminal then
        dependsOnTerminal choice queue workspaceId record rest
      else
        .ok false

def dependenciesTerminal (choice : AnyRow NavigationMutationRecord) (queue : NavigationQueue)
    (workspaceId : String) (record : NavigationMutationRecord) :
    Except NavigationError Bool := do
  if ← queue.dependsOnTerminal choice workspaceId record record.dependsOn then
    match record.createdByOperationId with
    | none => return true
    | some createdBy =>
      match choice.pick (queue.referencedRecords workspaceId createdBy) with
      | none => return false
      | some row => return row.isTerminal
  else
    return false

def head (queue : NavigationQueue) (workspaceId : String) : Option NavigationMutationRecord :=
  (queue.pendingRecords workspaceId).argmin (·.queueSeq)

def nextRunnable (choice : AnyRow NavigationMutationRecord) (queue : NavigationQueue)
    (workspaceId : String) : Except NavigationError (Option NavigationMutationRecord) :=
  match queue.head workspaceId with
  | none => .ok none
  | some record =>
    if record.state ≠ .queued then
      .ok none
    else do
      if ← queue.dependenciesTerminal choice workspaceId record then
        return some record
      else
        return none

def claimedRecord (holderId now : String) (record : NavigationMutationRecord) :
    NavigationMutationRecord :=
  { record with
    state := .running
    holderId := some holderId
    fencingToken := record.fencingToken + 1
    receiptRevision := record.receiptRevision + 1
    updatedAt := now }

def claimRunning (choice : AnyRow NavigationMutationRecord) (queue : NavigationQueue)
    (record : NavigationMutationRecord) (holderId ownerId : String) (ownerGeneration : Nat)
    (now : String) :
    Except NavigationError (Option (NavigationMutationRecord × NavigationQueue)) := do
  queue.requireOwnerGeneration record.key.workspaceId ownerId ownerGeneration
  if holderId ≠ s!"{ownerId}:{ownerGeneration}" then
    .error (.queueOwner
      (s!"operation holder 与 durable queue owner generation 不一致: holder_id={holderId}, " ++
        s!"owner_generation={ownerGeneration}"))
  else
    match queue.head record.key.workspaceId with
    | none => return none
    | some head =>
      if head.key.operationId ≠ record.key.operationId ∨ head.queueSeq ≠ record.queueSeq ∨
          head.state ≠ .queued then
        return none
      else
        match queue.fetchRecord record.key with
        | none => return none
        | some current =>
          if ← queue.dependenciesTerminal choice record.key.workspaceId current then
            let matching (row : NavigationMutationRecord) : Bool :=
              row.key = record.key && row.state = .queued
            if queue.records.countP matching ≠ 1 then
              return none
            else
              let claimed : NavigationQueue :=
                { queue with
                  records := updateWhere matching (claimedRecord holderId now)
                    queue.records }
              let row ← claimed.requireRecord record.key
              return some (row, claimed)
          else
            return none

/-- What recovery writes into a row left running by another holder. -/
def releasedRecord (now : String) (record : NavigationMutationRecord) :
    NavigationMutationRecord :=
  { record with
    state := .queued
    holderId := none
    receiptRevision := record.receiptRevision + 1
    updatedAt := now }

def recoverInFlight (queue : NavigationQueue) (workspaceId ownerId : String)
    (ownerGeneration : Nat) (now : String) : Except NavigationError NavigationQueue := do
  queue.requireOwnerGeneration workspaceId ownerId ownerGeneration
  let matching (row : NavigationMutationRecord) : Bool :=
    row.key.workspaceId = workspaceId && row.state = .running &&
      row.holderId.any fun holder => holder ≠ s!"{ownerId}:{ownerGeneration}"
  return { queue with records := updateWhere matching (releasedRecord now) queue.records }

/-- The columns of `finish_terminal`. -/
structure TerminalWrite where
  state : NavigationMutationState
  resultNodeId : Option String
  resultNodeRevision : Option Nat
  committedCatalogRevision : Option Nat
  errorCode : Option String
  errorDetail : Option String
  pendingSettlement : Bool

def finishedRecord (write : TerminalWrite) (now : String) (record : NavigationMutationRecord) :
    NavigationMutationRecord :=
  { record with
    state := write.state
    resultNodeId := write.resultNodeId
    resultNodeRevision := write.resultNodeRevision
    committedCatalogRevision := write.committedCatalogRevision
    errorCode := write.errorCode
    errorDetail := write.errorDetail
    pendingSettlement := write.pendingSettlement
    receiptRevision := record.receiptRevision + 1
    updatedAt := now }

/-- `finish_terminal`: the update is guarded by the fencing token alone. -/
def finishTerminal (queue : NavigationQueue) (record : NavigationMutationRecord)
    (expectedFencingToken : Nat) (write : TerminalWrite) (now : String) :
    Except NavigationError (NavigationMutationRecord × NavigationQueue) :=
  if !write.state.isTerminal then
    .error (.valueError s!"finish_terminal 只接受终态状态: {write.state.text}")
  else
    let matching (row : NavigationMutationRecord) : Bool :=
      row.key = record.key && row.fencingToken = expectedFencingToken
    if queue.records.countP matching ≠ 1 then
      .error (.runtimeError
        (s!"operation fencing token 已失效，拒绝写入终态（已被新 owner 接管）: " ++
          s!"operation_id={record.key.operationId}, " ++
          s!"expected_fencing_token={expectedFencingToken}"))
    else do
      let finished : NavigationQueue :=
        { queue with records := updateWhere matching (finishedRecord write now) queue.records }
      let row ← finished.requireRecord record.key
      return (row, finished)

def nextEventSeq (queue : NavigationQueue) (workspaceId : String) : Nat :=
  ((queue.events.filter fun event => event.key.workspaceId = workspaceId).map
    (·.eventSeq)).foldr max 0 + 1

def terminalEvent (queue : NavigationQueue) (record : NavigationMutationRecord)
    (affectedNodeIds : List String) (now : String) : NavigationEventRecord where
  key := record.key
  eventSeq := queue.nextEventSeq record.key.workspaceId
  queueSeq := record.queueSeq
  kind := record.kind
  resultState := record.state
  committedCatalogRevision := record.committedCatalogRevision
  affectedNodeIds := sortedStrings affectedNodeIds.dedup
  errorCode := record.errorCode
  errorDetail := record.errorDetail
  createdAt := now

/-- `append_event`, with the check of `_event_in` against the retained row. -/
def appendEvent (queue : NavigationQueue) (record : NavigationMutationRecord)
    (affectedNodeIds : List String) (now : String) :
    Except NavigationError NavigationQueue :=
  if !record.isTerminal then
    .error (.runtimeError
      s!"只允许为终态 operation 追加导航事件: {record.key.operationId}")
  else
    let event := queue.terminalEvent record affectedNodeIds now
    match queue.fetchRecord event.key with
    | none =>
      .error (.runtimeError
        ("navigation event 原始记录损坏，拒绝读取或恢复: artifact=navigation_events, " ++
          "stage=validate, rule=事件对应的保留operation不存在"))
    | some operation =>
      if operation.queueSeq = event.queueSeq ∧ operation.kind = event.kind ∧
          operation.state = event.resultState ∧
          operation.committedCatalogRevision = event.committedCatalogRevision then
        .ok { queue with events := queue.events ++ [event] }
      else
        .error (.runtimeError
          ("navigation event 原始记录损坏，拒绝读取或恢复: artifact=navigation_events, " ++
            "stage=validate, rule=事件与保留operation不符"))

def queuedByOperationId : List NavigationMutationRecord →
    List (String × NavigationMutationRecord) → List (String × NavigationMutationRecord)
  | [], entries => entries
  | row :: rest, entries =>
    queuedByOperationId rest
      (if (entries.map (·.1)).contains row.key.operationId then
        entries.map fun entry =>
          if entry.1 = row.key.operationId then (entry.1, row) else entry
      else
        entries ++ [(row.key.operationId, row)])

structure Poison where
  poisoned : List String
  failed : List NavigationMutationRecord

/-- One sweep of the `while changed` loop over the queued rows. -/
def poisonSweep (queued : List (String × NavigationMutationRecord)) (poison : Poison) : Poison :=
  queued.foldl (fun poison entry =>
    if poison.poisoned.contains entry.1 then
      poison
    else if entry.2.dependencyIds.any poison.poisoned.contains then
      ⟨poison.poisoned ++ [entry.1], poison.failed ++ [entry.2]⟩
    else
      poison) poison

def poisonLoop (queued : List (String × NavigationMutationRecord)) : Nat → Poison → Poison
  | 0, poison => poison
  | sweeps + 1, poison =>
    let swept := poisonSweep queued poison
    if swept.failed.length = poison.failed.length then
      swept
    else
      poisonLoop queued sweeps swept

def dependencyFailedSuccessors (queue : NavigationQueue) (workspaceId : String)
    (failedOperationId : String) : List NavigationMutationRecord :=
  let rows := (queue.records.filter fun row =>
    row.key.workspaceId = workspaceId && row.state = .queued).insertionSort
      fun left right => left.queueSeq ≤ right.queueSeq
  let queued := queuedByOperationId rows []
  (poisonLoop queued (queued.length + 1) ⟨[failedOperationId], []⟩).failed

def dependencyFailedRecord (failedOperationId : String) (committedCatalogRevision : Nat)
    (now : String) (record : NavigationMutationRecord) : NavigationMutationRecord :=
  { record with
    state := .dependencyFailed
    errorCode := some "dependency_failed"
    errorDetail := some s!"前置 operation 未成功: {failedOperationId}"
    committedCatalogRevision := some committedCatalogRevision
    receiptRevision := record.receiptRevision + 1
    updatedAt := now }

def markDependencyFailedSuccessors (queue : NavigationQueue) (workspaceId : String)
    (failedOperationId : String) (committedCatalogRevision : Nat) (now : String) :
    List NavigationMutationRecord × NavigationQueue :=
  let failed := queue.dependencyFailedSuccessors workspaceId failedOperationId
  (failed, failed.foldl (fun current record =>
    { current with
      records := updateWhere (fun row => row.key = record.key && row.state = .queued)
        (dependencyFailedRecord failedOperationId committedCatalogRevision now)
        current.records }) queue)

/-- `find_delete_operation_in`. -/
def findDeleteOperation (queue : NavigationQueue) (workspaceId operationId : String) :
    Except NavigationError (Option NavigationMutationRecord) :=
  match queue.records.filter (fun row =>
      row.key.workspaceId = workspaceId && row.key.operationId = operationId &&
        row.isDelete) with
  | [] => .ok none
  | [record] => .ok (some record)
  | _ =>
    .error (.runtimeError
      (s!"subtree delete key 对应多个导航 operation，拒绝猜测 scope: " ++
        s!"workspace_id={workspaceId}, operation_id={operationId}"))

def settledRecord (now : String) (record : NavigationMutationRecord) :
    NavigationMutationRecord :=
  { record with
    pendingSettlement := false
    errorCode := none
    errorDetail := none
    receiptRevision := record.receiptRevision + 1
    updatedAt := now }

/-- `settle_delete_operation_in`. -/
def settleDeleteOperation (queue : NavigationQueue) (key : RecordKey) (now : String) :
    Except NavigationError (NavigationMutationRecord × NavigationQueue) := do
  let matching (row : NavigationMutationRecord) : Bool :=
    row.key = key && row.state = .committed && row.pendingSettlement
  let settled : NavigationQueue :=
    { queue with records := updateWhere matching (settledRecord now) queue.records }
  let current ← settled.requireRecord key
  if queue.records.countP matching = 1 then
    return (current, settled)
  else if current.state = .committed ∧ current.pendingSettlement = false then
    return (current, settled)
  else
    .error (.runtimeError
      (s!"递归删除 settlement CAS 失败，operation 不在 committed/pending 状态: " ++
        s!"operation_id={key.operationId}, state={current.state.text}, " ++
        s!"pending_settlement={current.pendingSettlement}"))

def repairRecord (detail now : String) (record : NavigationMutationRecord) :
    NavigationMutationRecord :=
  { record with
    errorCode := some repairRequired
    errorDetail := some detail
    receiptRevision := record.receiptRevision + 1
    updatedAt := now }

/-- `mark_delete_repair_required_in`. -/
def markDeleteRepairRequired (queue : NavigationQueue) (key : RecordKey) (detail now : String) :
    Except NavigationError (NavigationMutationRecord × NavigationQueue) :=
  if detail = "" then
    .error (.valueError "删除排空失败必须提供具体原因")
  else do
    let matching (row : NavigationMutationRecord) : Bool :=
      row.key = key && row.state = .committed && row.pendingSettlement &&
        (row.errorCode ≠ some repairRequired || row.errorDetail ≠ some detail)
    let marked : NavigationQueue :=
      { queue with records := updateWhere matching (repairRecord detail now) queue.records }
    let current ← marked.requireRecord key
    if current.state ≠ .committed then
      .error (.runtimeError
        s!"删除排空失败不能改写非 committed 回执: {key.operationId}, {current.state.text}")
    else
      return (current, marked)

end NavigationQueue

end GraphAgent.Navigation
