import GraphAgent.CommunicationRecords

/-!
# The collaboration ledger and its fan-outs

`collaboration_fanout.py` and `collaboration.py`: every change of the members or
of a board is frozen, in the transaction that makes it, as a fan-out under the
next revision of the ledger, with one delivery for each recipient and a lease.
A fan-out is validated on every read.
-/

namespace GraphAgent.Collaboration

open KeyedRows Communication SessionControl Epoch

inductive MemberState where
  | registering
  | published
  | cancelled
  deriving DecidableEq

/-- A row of `collaboration_members`. -/
structure CollaborationMember where
  delegationId : String
  creationIdempotencyKey : String
  membershipPreimageHash : String
  registeredRevision : Nat
  coordinatorSessionId : String
  coordinatorThreadId : String
  childThreadId : String
  role : String
  subagentType : String
  title : String
  taskSeed : String
  state : MemberState
  registeredAt : String
  updatedAt : String
  deriving DecidableEq

structure TaskReference where
  parentSessionId : Option String
  parentThreadId : Option String
  delegationId : Option String
  text : String
  deriving DecidableEq

inductive CreationState where
  | preparing
  | published
  | aborted
  deriving DecidableEq

def CreationState.memberState : CreationState → MemberState
  | .preparing => .registering
  | .published => .published
  | .aborted => .cancelled

/-- A row of `thread_creation_records`, as far as the ledger reads it. -/
structure ThreadCreationRecord where
  idempotencyKey : String
  state : CreationState
  preimageHash : String
  delegationId : Option String
  childThreadId : String
  taskSeed : Option String
  taskReference : Option TaskReference
  ownerGeneration : Nat
  collaborationPreconditionRevision : Option Nat
  membershipPreimageHash : Option String

structure CollaborationMemberInput where
  coordinatorSessionId : String
  coordinatorThreadId : String
  role : String
  subagentType : String
  title : String
  deriving DecidableEq

/-- What `membership_preimage_hash` digests. -/
structure MembershipPreimage where
  creationIdempotencyKey : String
  creationPreimageHash : String
  delegationId : String
  childThreadId : String
  member : CollaborationMemberInput
  taskSeed : String
  taskReference : TaskReference
  registeredRevision : Nat

/-- A board; `rest` is the JSON of the fields that the ledger does not read. -/
structure BoardDocument where
  sessionId : String
  teamId : String
  version : Int
  members : List String
  recentEvents : List String
  rest : String
  deriving DecidableEq

structure BoardEvent where
  eventId : String
  sessionId : String
  teamId : String
  rest : String
  deriving DecidableEq

inductive CollaborationEvent where
  | member (type delegationId : String)
  | board (event : BoardEvent)
  deriving DecidableEq

inductive WakeupValue where
  | text (value : String)
  | object (json : String)
  | other (json : String)
  deriving DecidableEq

/-- A JSON object. -/
abbrev Wakeup := List (String × WakeupValue)

/-- What a fan-out freezes. -/
structure FanoutPayload where
  sessionId : String
  ledgerRevision : Nat
  eventHash : String
  event : CollaborationEvent
  members : List CollaborationMember
  boards : List BoardDocument
  deriving DecidableEq

/-- The sha256 of the canonical JSON of the documents. -/
structure LedgerDigests where
  event : CollaborationEvent → String
  preimage : FanoutPayload → List String → Option Wakeup → String
  membership : MembershipPreimage → String

inductive DeliveryState where
  | pending
  | delivered
  | recipientDeleted
  | fenceClosed
  deriving DecidableEq

/-- The outcomes that `finish_collaboration_delivery` accepts. -/
def DeliveryState.outcome? : String → Option DeliveryState
  | "delivered" => some .delivered
  | "recipient_deleted" => some .recipientDeleted
  | "fence_closed" => some .fenceClosed
  | _ => none

/-- A row of `collaboration_deliveries`. -/
structure CollaborationDelivery where
  ledgerRevision : Nat
  threadId : String
  state : DeliveryState
  error : Option String
  deriving DecidableEq

inductive FanoutState where
  | pending
  | completed
  | cancelled
  deriving DecidableEq

def FanoutState.leaseStates : FanoutState → List LeaseState
  | .pending => [.active, .settling]
  | .completed => [.completed]
  | .cancelled => [.cancelled]

/-- A row of `collaboration_fanouts`. -/
structure FanoutRow where
  ledgerRevision : Nat
  sessionId : String
  eventHash : String
  payload : FanoutPayload
  leaseId : String
  wakeup : Option Wakeup
  wakeupReceipt : Option String
  state : FanoutState
  createdAt : String
  deriving DecidableEq

structure CollaborationFanoutRecord where
  row : FanoutRow
  recipients : List CollaborationDelivery

structure BoardRow where
  teamId : String
  version : Int
  board : BoardDocument

structure EventRow where
  eventId : String
  teamId : String
  ledgerRevision : Nat
  event : BoardEvent

structure CollaborationStore where
  control : ControlDatabase
  mainThreadId : String
  catalog : List String
  revision : Nat := 0
  creations : List ThreadCreationRecord := []
  members : List CollaborationMember := []
  boards : List BoardRow := []
  events : List EventRow := []
  fanouts : List FanoutRow := []
  deliveries : List CollaborationDelivery := []

inductive LedgerError where
  | keyError (message : String)
  | valueError (message : String)
  | runtimeError (message : String)
  | identifier (error : CommunicationError)
  | lease (error : LeaseError)
  | integrityError (constraint : String)

/-- `if condition: raise error`. -/
def raiseIf (condition : Bool) (error : LedgerError) : Except LedgerError Unit :=
  if condition then .error error else .ok ()

namespace CollaborationStore

variable (sha256 : LedgerDigests)

def frozenMembership (creation : ThreadCreationRecord) (row : CollaborationMember) :
    Option MembershipPreimage := do
  let delegationId ← creation.delegationId
  let taskSeed ← creation.taskSeed
  let taskReference ← creation.taskReference
  let registeredRevision ← creation.collaborationPreconditionRevision
  let _ ← creation.membershipPreimageHash
  return {
    creationIdempotencyKey := creation.idempotencyKey
    creationPreimageHash := creation.preimageHash
    delegationId
    childThreadId := creation.childThreadId
    member := ⟨row.coordinatorSessionId, row.coordinatorThreadId, row.role, row.subagentType,
      row.title⟩
    taskSeed
    taskReference
    registeredRevision }

def matchesMembership (creation : ThreadCreationRecord) (row : CollaborationMember)
    (frozen : MembershipPreimage) : Bool :=
  row.delegationId = frozen.delegationId && row.childThreadId = frozen.childThreadId &&
    row.taskSeed = frozen.taskSeed && row.registeredRevision = frozen.registeredRevision &&
    row.membershipPreimageHash = sha256.membership frozen &&
    creation.membershipPreimageHash = some (sha256.membership frozen) &&
    frozen.taskReference.parentSessionId = some row.coordinatorSessionId &&
    frozen.taskReference.parentThreadId = some row.coordinatorThreadId &&
    frozen.taskReference.delegationId = some row.delegationId

def validateCollaborationMember (store : CollaborationStore) (row : CollaborationMember) :
    Except LedgerError Unit :=
  match fetch ThreadCreationRecord.idempotencyKey store.creations row.creationIdempotencyKey with
  | none => .error (.runtimeError "collaboration member 缺少原 creation record")
  | some creation =>
    match frozenMembership creation row with
    | none =>
      .error (.runtimeError "collaboration member 的 creation 缺少冻结 membership 字段")
    | some frozen => do
        raiseIf (!matchesMembership sha256 creation row frozen)
          (.runtimeError "collaboration member 与 creation 冻结 membership preimage 不一致")
        raiseIf (row.state ≠ creation.state.memberState)
          (.runtimeError "collaboration member 与 creation publication 状态不一致")
        raiseIf (store.revision < row.registeredRevision)
          (.runtimeError "collaboration member 的 ledger revision 已回退或缺失")
        raiseIf (!store.catalog.contains row.coordinatorThreadId)
          (.runtimeError "collaboration member 的 parent thread 不在同 owner catalog")

/-- `tuple(sorted(set(values)))`. -/
def sortedSet (values : List String) : List String :=
  values.dedup.insertionSort (· ≤ ·)

def wakeupFields : List String :=
  ["target_thread_id", "source_id", "idempotency_key", "content", "metadata"]

def wakeupText (wakeup : Wakeup) (field : String) : Option String :=
  match wakeup.lookup field with
  | some (.text value) => some value
  | _ => none

def validateWakeup (wakeup : Wakeup) (recipients : List String) : Except LedgerError Unit := do
  let keys := wakeup.map Prod.fst
  raiseIf (!(keys.all wakeupFields.contains && wakeupFields.all keys.contains))
    (.valueError "collaboration wakeup 字段不完整或包含未知字段")
  raiseIf ((["target_thread_id", "source_id", "idempotency_key", "content"]).any fun field =>
      (wakeupText wakeup field).all fun value => value = "")
    (.valueError "collaboration wakeup identity/content 必须为非空字符串")
  raiseIf (!(match wakeup.lookup "metadata" with
      | some (.object _) => true
      | _ => false) ||
      !(wakeupText wakeup "target_thread_id").any recipients.contains)
    (.valueError "collaboration wakeup 必须指向原冻结 recipient")

/-- `if wakeup is not None`. -/
def validateOptionalWakeup (wakeup : Option Wakeup) (recipients : List String) :
    Except LedgerError Unit :=
  match wakeup with
  | none => .ok ()
  | some wakeup => validateWakeup wakeup recipients

def fanoutIdentity (revision : Nat) : String :=
  s!"collaboration:{revision}"

def validateFanout (record : CollaborationFanoutRecord) (lease : SessionOperationLease) :
    Except LedgerError Unit := do
  let row := record.row
  (validateSessionId row.sessionId).mapError .identifier
  raiseIf ((row.payload.sessionId, row.payload.ledgerRevision, row.payload.eventHash) ≠
      (row.sessionId, row.ledgerRevision, row.eventHash))
    (.runtimeError "collaboration fanout 冻结 owner/revision/hash 不一致")
  raiseIf (row.ledgerRevision < 1 || sha256.event row.payload.event ≠ row.eventHash)
    (.runtimeError "collaboration fanout 冻结 event hash 不一致")
  let recipients := record.recipients.map CollaborationDelivery.threadId
  raiseIf (recipients.isEmpty || recipients ≠ sortedSet recipients)
    (.runtimeError "collaboration fanout 冻结 recipient 集合损坏")
  recipients.forM fun threadId => (validateThreadId threadId).mapError .identifier
  validateOptionalWakeup row.wakeup recipients
  raiseIf ((lease.operationKind, lease.operationIdentity, lease.preimageHash,
      lease.recoveryRef) ≠ (LeaseKind.collaborationFanout, fanoutIdentity row.ledgerRevision,
      sha256.preimage row.payload recipients row.wakeup,
      some (fanoutIdentity row.ledgerRevision)))
    (.runtimeError "collaboration fanout 与原 operation lease preimage 不一致")
  raiseIf (!row.state.leaseStates.contains lease.state)
    (.runtimeError "collaboration fanout 与原 operation lease terminal 不一致")
  raiseIf (row.state ≠ .pending && record.recipients.any fun item => item.state = .pending)
    (.runtimeError "collaboration fanout 提前终结但仍有 pending recipient")
  raiseIf (row.state = .completed && row.wakeup.isSome && row.wakeupReceipt.isNone)
    (.runtimeError "collaboration fanout 提前完成但缺少 wakeup receipt")

def recipientsOf (store : CollaborationStore) (revision : Nat) : List CollaborationDelivery :=
  (store.deliveries.filter fun delivery => delivery.ledgerRevision = revision).insertionSort
    fun first second => first.threadId ≤ second.threadId

def leaseOf (store : CollaborationStore) (leaseId : String) :
    Except LedgerError SessionOperationLease :=
  (store.control.leaseRowOrRaise leaseId).mapError .lease

/-- `get_collaboration_fanout`, which validates what it returns. -/
def getCollaborationFanout (store : CollaborationStore) (revision : Nat) :
    Except LedgerError CollaborationFanoutRecord :=
  match fetch FanoutRow.ledgerRevision store.fanouts revision with
  | none => .error (.keyError s!"collaboration fanout 不存在: revision={revision}")
  | some row => do
      let record : CollaborationFanoutRecord := ⟨row, store.recipientsOf revision⟩
      let lease ← store.leaseOf row.leaseId
      validateFanout sha256 record lease
      return record

def getCollaborationMember (store : CollaborationStore) (delegationId : String) :
    Except LedgerError CollaborationMember :=
  match fetch CollaborationMember.delegationId store.members delegationId with
  | none => .error (.keyError s!"collaboration member 不存在: delegation_id={pyRepr delegationId}")
  | some row => do
      validateCollaborationMember sha256 store row
      return row

/-- `ORDER BY registered_at, delegation_id`. -/
def orderMembers (members : List CollaborationMember) : List CollaborationMember :=
  members.insertionSort fun first second =>
    first.registeredAt < second.registeredAt ∨
      first.registeredAt = second.registeredAt ∧ first.delegationId ≤ second.delegationId

/-- `UPDATE collaboration_ledger SET revision=revision+1`. -/
def bump (store : CollaborationStore) : CollaborationStore :=
  { store with revision := store.revision + 1 }

def frozenMembers (store : CollaborationStore) (event : CollaborationEvent)
    (cancelled : Option CollaborationMember) : Except LedgerError (List CollaborationMember) := do
  let live := (orderMembers store.members).filter fun row =>
    cancelled.all fun snapshot => row.delegationId ≠ snapshot.delegationId
  live.forM (validateCollaborationMember sha256 store)
  match cancelled with
  | none => return live
  | some snapshot => do
      raiseIf (event ≠ .member "member.cancelled" snapshot.delegationId)
        (.runtimeError "取消快照只能冻结原 member.cancelled 事件")
      validateCollaborationMember sha256 store snapshot
      return orderMembers (live ++ [snapshot])

def recipientThreads (store : CollaborationStore) (members : List CollaborationMember) :
    List String :=
  sortedSet (store.mainThreadId ::
    (members.filter fun member => member.state = .published).map
      CollaborationMember.childThreadId)

def insertFanout (store : CollaborationStore) (row : FanoutRow) (recipients : List String) :
    Except LedgerError CollaborationStore := do
  raiseIf (store.fanouts.any fun other =>
      other.ledgerRevision = row.ledgerRevision || other.leaseId = row.leaseId)
    (.integrityError "UNIQUE constraint failed: collaboration_fanouts")
  return { store with
    fanouts := store.fanouts ++ [row]
    deliveries := store.deliveries ++
      recipients.map fun threadId => ⟨row.ledgerRevision, threadId, .pending, none⟩ }

/-- `_freeze_collaboration_change_transaction`, after its bump of the revision. -/
def freezeCollaborationChange (store : CollaborationStore) (sessionId : String)
    (event : CollaborationEvent) (wakeup : Option Wakeup)
    (cancelled : Option CollaborationMember) (leaseId now : String) :
    Except LedgerError (Nat × CollaborationStore) := do
  let fence ← store.control.readFenceRow.mapError .lease
  raiseIf (fence.state ≠ .active)
    (.runtimeError "collaboration ledger 的 lifecycle fence 已关闭")
  let revision := store.revision
  let members ← store.frozenMembers sha256 event cancelled
  let boards := (store.boards.insertionSort fun first second =>
    first.teamId ≤ second.teamId).map BoardRow.board
  let recipients := store.recipientThreads members
  raiseIf (members.any fun member => member.coordinatorSessionId ≠ sessionId)
    (.runtimeError "collaboration member 与冻结 Session owner 不一致")
  recipients.forM fun threadId => do
    (validateThreadId threadId).mapError .identifier
    raiseIf (!store.catalog.contains threadId)
      (.runtimeError s!"collaboration recipient 不在权威 thread catalog: {threadId}")
  validateOptionalWakeup wakeup recipients
  let eventHash := sha256.event event
  let payload : FanoutPayload := ⟨sessionId, revision, eventHash, event, members, boards⟩
  let (lease, control) ← (store.control.createOrGetLease
    { operationKind := LeaseKind.collaborationFanout.text
      operationIdentity := fanoutIdentity revision
      preimageHash := sha256.preimage payload recipients wakeup
      expectedGeneration := some fence.generation
      recoveryRef := some (fanoutIdentity revision) } leaseId now).mapError .lease
  let next ← insertFanout { store with control }
    ⟨revision, sessionId, eventHash, payload, lease.leaseId, wakeup, none, .pending, now⟩ recipients
  return (revision, next)

def freezeMemberChange (store : CollaborationStore) (delegationId type : String)
    (leaseId now : String) : Except LedgerError CollaborationStore := do
  let member ← store.getCollaborationMember sha256 delegationId
  let (_, next) ← store.freezeCollaborationChange sha256 member.coordinatorSessionId
    (.member type delegationId) none none leaseId now
  return next

structure DelegatedCreation where
  idempotencyKey : String
  preimageHash : String
  ownerSessionId : String
  delegationId : String
  childThreadId : String
  taskSeed : String
  taskReference : TaskReference
  member : CollaborationMemberInput

def validateCreation (request : DelegatedCreation) : Except LedgerError Unit := do
  raiseIf (request.idempotencyKey = "" || request.delegationId = "")
    (.valueError "delegated child 必须携带非空 delegation_id")
  (validateSessionId request.ownerSessionId).mapError .identifier
  (validateThreadId request.member.coordinatorThreadId).mapError .identifier
  raiseIf ([request.member.coordinatorSessionId, request.member.coordinatorThreadId,
      request.member.role, request.member.subagentType, request.member.title].contains "")
    (.valueError "collaboration member 冻结字段不能为空")
  raiseIf ((request.taskReference.parentSessionId, request.taskReference.parentThreadId,
      request.taskReference.delegationId, request.member.coordinatorSessionId) ≠
      (some request.ownerSessionId, some request.member.coordinatorThreadId,
        some request.delegationId, request.ownerSessionId))
    (.runtimeError "collaboration member 与 owner/task reference 不一致")

/-- A creation with the same key was admitted before. -/
def replayCreation (store : CollaborationStore) (request : DelegatedCreation)
    (existing : ThreadCreationRecord) : Except LedgerError Unit := do
  raiseIf (existing.preimageHash ≠ request.preimageHash)
    (.runtimeError "thread creation record preimage 冲突")
  raiseIf (existing.delegationId ≠ some request.delegationId)
    (.runtimeError "thread creation delegation 与冻结身份不一致")
  raiseIf ((existing.taskSeed, existing.taskReference) ≠
      (some request.taskSeed, some request.taskReference))
    (.runtimeError "delegated creation 同 key 的冻结请求 preimage 冲突")
  let member ← store.getCollaborationMember sha256 request.delegationId
  raiseIf (existing.state = .aborted || (⟨member.coordinatorSessionId,
      member.coordinatorThreadId, member.role, member.subagentType, member.title⟩ :
      CollaborationMemberInput) ≠ request.member || member.taskSeed ≠ request.taskSeed)
    (.runtimeError "collaboration member 幂等 preimage 冲突或已取消")

/-- `prepare_collaboration_member` and the insertion of the creation record. -/
def prepareCollaborationMember (store : CollaborationStore) (request : DelegatedCreation)
    (fence : LifecycleFence) (now : String) : Except LedgerError CollaborationStore := do
  raiseIf (store.members.any fun row => row.delegationId = request.delegationId ||
      row.creationIdempotencyKey = request.idempotencyKey)
    (.runtimeError "collaboration member 已绑定其他 creation，拒绝换绑")
  let next := store.bump
  let frozen := sha256.membership {
    creationIdempotencyKey := request.idempotencyKey
    creationPreimageHash := request.preimageHash
    delegationId := request.delegationId
    childThreadId := request.childThreadId
    member := request.member
    taskSeed := request.taskSeed
    taskReference := request.taskReference
    registeredRevision := next.revision }
  raiseIf (store.members.any fun row => row.childThreadId = request.childThreadId)
    (.integrityError "UNIQUE constraint failed: collaboration_members.child_thread_id")
  return { next with
    members := store.members ++ [{
      delegationId := request.delegationId
      creationIdempotencyKey := request.idempotencyKey
      membershipPreimageHash := frozen
      registeredRevision := next.revision
      coordinatorSessionId := request.member.coordinatorSessionId
      coordinatorThreadId := request.member.coordinatorThreadId
      childThreadId := request.childThreadId
      role := request.member.role
      subagentType := request.member.subagentType
      title := request.member.title
      taskSeed := request.taskSeed
      state := .registering
      registeredAt := now
      updatedAt := now }]
    creations := store.creations ++ [{
      idempotencyKey := request.idempotencyKey
      state := .preparing
      preimageHash := request.preimageHash
      delegationId := some request.delegationId
      childThreadId := request.childThreadId
      taskSeed := some request.taskSeed
      taskReference := some request.taskReference
      ownerGeneration := fence.generation
      collaborationPreconditionRevision := some next.revision
      membershipPreimageHash := some frozen }] }

/-- `create_or_get_thread_creation_record` of a delegated child. -/
def createDelegatedThread (store : CollaborationStore) (request : DelegatedCreation)
    (leaseId now : String) : Except LedgerError CollaborationStore := do
  validateCreation request
  match fetch ThreadCreationRecord.idempotencyKey store.creations request.idempotencyKey with
  | some existing => do
      store.replayCreation sha256 request existing
      return store
  | none => do
      let fence ← store.control.readFenceRow.mapError .lease
      raiseIf (fence.state ≠ .active) (.runtimeError "owner fence 非 active")
      (validateThreadId request.childThreadId).mapError .identifier
      raiseIf (request.childThreadId = store.mainThreadId ||
          store.catalog.contains request.childThreadId)
        (.runtimeError "child thread ID 已被 thread catalog 占用")
      raiseIf (store.creations.any fun creation =>
          creation.childThreadId = request.childThreadId)
        (.runtimeError "最终 locator 已被其它 thread creation record 冻结")
      raiseIf (store.creations.any fun creation =>
          creation.delegationId = some request.delegationId)
        (.runtimeError "delegation_id 已绑定其它 thread creation record")
      raiseIf (!store.catalog.contains request.member.coordinatorThreadId)
        (.runtimeError "delegated parent thread 不在 owner catalog")
      let prepared ← store.prepareCollaborationMember sha256 request fence now
      prepared.freezeMemberChange sha256 request.delegationId "member.registered" leaseId now

/-- `UPDATE thread_creation_records SET state = … WHERE key = ?`. -/
def setCreationState (store : CollaborationStore) (key : String) (state : CreationState) :
    CollaborationStore :=
  { store with
    creations := updateWhere (fun creation => creation.idempotencyKey = key)
      (fun creation => { creation with state }) store.creations }

/-- `UPDATE collaboration_members SET state = … WHERE delegation_id = ?`. -/
def setMemberState (store : CollaborationStore) (delegationId : String) (state : MemberState)
    (now : String) : CollaborationStore :=
  { store with
    members := updateWhere (fun row => row.delegationId = delegationId)
      (fun row => { row with state, updatedAt := now }) store.members }

/-- `publish_thread_creation_record`; `accepted` are its checks of the artifacts, the
locator, the graph and the execution intent. -/
def publishThreadCreation (store : CollaborationStore) (key sessionId : String)
    (accepted : Bool) (leaseId now : String) : Except LedgerError CollaborationStore := do
  match fetch ThreadCreationRecord.idempotencyKey store.creations key with
  | none => .error (.keyError s!"thread creation record 不存在: key={key}")
  | some creation => do
      raiseIf (creation.state ≠ .preparing || !accepted)
        (.runtimeError "thread creation record 拒绝发布")
      (validateThreadId creation.childThreadId).mapError .identifier
      let fence ← store.control.readFenceRow.mapError .lease
      raiseIf (fence ≠ ⟨.active, creation.ownerGeneration⟩)
        (.runtimeError "thread creation publish CAS 失败：owner fence 已漂移")
      raiseIf (store.catalog.contains creation.childThreadId)
        (.runtimeError "thread creation publish 失败：child thread 已存在于 thread catalog")
      let published := { store with catalog := store.catalog ++ [creation.childThreadId] }
      match creation.delegationId with
      | none => return published.setCreationState key .published
      | some delegationId => do
          let member ← store.getCollaborationMember sha256 delegationId
          raiseIf (member.coordinatorSessionId ≠ sessionId)
            (.runtimeError "collaboration member 与 publish owner Session 不一致")
          raiseIf (member.state ≠ .registering)
            (.runtimeError "collaboration member 非 registering，拒绝 publish 转正")
          let turned := ((published.setCreationState key .published).setMemberState delegationId
            .published now).bump
          turned.freezeMemberChange sha256 delegationId "member.published" leaseId now

/-- `registered_collaboration_member_snapshot`. -/
def registeredMemberSnapshot (store : CollaborationStore) (creation : ThreadCreationRecord)
    (delegationId : String) : Except LedgerError CollaborationMember := do
  match creation.collaborationPreconditionRevision with
  | none => .error (.runtimeError "取消成员缺少 creation 冻结的 registered revision")
  | some revision => do
      let original ← store.getCollaborationFanout sha256 revision
      raiseIf (original.row.payload.event ≠ .member "member.registered" delegationId)
        (.runtimeError "取消成员的原 registered fanout event identity 不一致")
      match original.row.payload.members.filter fun member =>
          member.delegationId = delegationId with
      | [member] => do
          raiseIf ((original.row.sessionId, member.creationIdempotencyKey, member.childThreadId,
              some member.membershipPreimageHash, member.registeredRevision, member.state) ≠
              (member.coordinatorSessionId, creation.idempotencyKey, creation.childThreadId,
                creation.membershipPreimageHash, revision, .registering))
            (.runtimeError
              "取消成员的原 registered fanout 与 creation 冻结 identity/preimage 不一致")
          validateCollaborationMember sha256 store member
          return member
      | _ => .error (.runtimeError "取消成员的原 registered fanout 缺少唯一 member snapshot")

/-- `freeze_collaboration_member_cancellation`. -/
def freezeMemberCancellation (store : CollaborationStore) (snapshot : CollaborationMember)
    (leaseId now : String) : Except LedgerError CollaborationStore := do
  validateCollaborationMember sha256 store snapshot
  let fence ← store.control.readFenceRow.mapError .lease
  if fence.state ≠ .active then
    return store.bump
  else
    let (_, next) ← store.bump.freezeCollaborationChange sha256 snapshot.coordinatorSessionId
      (.member "member.cancelled" snapshot.delegationId) none (some snapshot) leaseId now
    return next

/-- `abort_thread_creation_record`.  A member that does not validate is reported after
the commit and does not change what is committed. -/
def abortThreadCreation (store : CollaborationStore) (key : String) (leaseId now : String) :
    Except LedgerError CollaborationStore := do
  match fetch ThreadCreationRecord.idempotencyKey store.creations key with
  | none => .error (.keyError s!"thread creation record 不存在: key={key}")
  | some creation =>
    match creation.state, creation.delegationId with
    | .published, _ => .error (.runtimeError "thread creation record 已发布，不可撤销")
    | .aborted, none => return store
    | .aborted, some delegationId => do
        let _ ← store.getCollaborationMember sha256 delegationId
        return store
    | .preparing, none => return store.setCreationState key .aborted
    | .preparing, some delegationId => do
        let snapshot ← store.registeredMemberSnapshot sha256 creation delegationId
        raiseIf ((store.members.filter fun row => row.delegationId = delegationId &&
            row.state = .registering).length ≠ 1)
          (.runtimeError "thread creation abort 的原 registering member 缺失或已被改动")
        let turned := (store.setCreationState key .aborted).setMemberState delegationId
          .cancelled now
        turned.freezeMemberCancellation sha256
          { snapshot with state := .cancelled, updatedAt := now } leaseId now

structure BoardCommit where
  sessionId : String
  teamId : String
  version : Int
  board : BoardDocument
  event : BoardEvent
  wakeup : Option Wakeup

def validateBoardCommit (commit : BoardCommit) : Except LedgerError Unit := do
  (validateSessionId commit.sessionId).mapError .identifier
  raiseIf ((commit.board.sessionId, commit.board.teamId, commit.board.version) ≠
      (commit.sessionId, commit.teamId, commit.version))
    (.valueError "collaboration board owner/version 与提交字段不一致")
  raiseIf ((commit.event.sessionId, commit.event.teamId) ≠ (commit.sessionId, commit.teamId))
    (.valueError "collaboration event owner 与 board 不一致")
  raiseIf (!commit.board.members.isEmpty || !commit.board.recentEvents.isEmpty)
    (.valueError "board 不得存入第二份成员或事件权威")

def boardVersion (store : CollaborationStore) (teamId : String) : Int :=
  ((fetch BoardRow.teamId store.boards teamId).map BoardRow.version).getD 0

def commitCollaborationBoard (store : CollaborationStore) (commit : BoardCommit)
    (leaseId now : String) : Except LedgerError (Nat × CollaborationStore) := do
  validateBoardCommit commit
  match fetch EventRow.eventId store.events commit.event.eventId with
  | some existing => do
      let original ← store.getCollaborationFanout sha256 existing.ledgerRevision
      match original.row.payload.boards.find? fun board => board.teamId = commit.teamId with
      | none => .error (.runtimeError "StopIteration")
      | some board => do
          raiseIf (board ≠ commit.board || existing.event ≠ commit.event ||
              original.row.wakeup ≠ commit.wakeup)
            (.runtimeError "collaboration event 幂等 preimage 冲突")
          return (existing.ledgerRevision, store)
  | none => do
      raiseIf (store.boardVersion commit.teamId ≠ commit.version - 1)
        (.runtimeError (s!"collaboration board version CAS 冲突: team_id={commit.teamId}, " ++
          s!"incoming={commit.version}"))
      let written := { store with
        boards := upsert BoardRow.teamId ⟨commit.teamId, commit.version, commit.board⟩
          (fun row => { row with version := commit.version, board := commit.board }) store.boards }
      let (revision, next) ← written.bump.freezeCollaborationChange sha256 commit.sessionId
        (.board commit.event) commit.wakeup none leaseId now
      raiseIf (next.events.any fun event => event.ledgerRevision = revision)
        (.integrityError "UNIQUE constraint failed: collaboration_events.ledger_revision")
      return (revision, { next with
        events := next.events ++ [⟨commit.event.eventId, commit.teamId, revision, commit.event⟩] })

def requireCollaborationToken (store : CollaborationStore) (revision token : Nat) :
    Except LedgerError (CollaborationFanoutRecord × SessionOperationLease) := do
  let record ← store.getCollaborationFanout sha256 revision
  let lease ← store.leaseOf record.row.leaseId
  raiseIf (record.row.state ≠ .pending || lease.state.isTerminal || lease.fencingToken ≠ token)
    (.runtimeError "collaboration callback 的原 lease/token 已失效")
  return (record, lease)

def pendingDelivery (revision : Nat) (threadId : String) (delivery : CollaborationDelivery) :
    Bool :=
  delivery.ledgerRevision = revision && delivery.threadId = threadId &&
    delivery.state = .pending

/-- `UPDATE collaboration_deliveries SET … WHERE … AND state='pending'` of one row. -/
def updateDelivery (store : CollaborationStore) (revision : Nat) (threadId : String)
    (change : CollaborationDelivery → CollaborationDelivery) (error : LedgerError) :
    Except LedgerError CollaborationStore := do
  raiseIf ((store.deliveries.filter (pendingDelivery revision threadId)).length ≠ 1) error
  return { store with
    deliveries := updateWhere (pendingDelivery revision threadId) change store.deliveries }

def finishCollaborationDelivery (store : CollaborationStore) (revision : Nat) (threadId : String)
    (token : Nat) (outcome : String) (error : Option String) :
    Except LedgerError CollaborationStore :=
  match DeliveryState.outcome? outcome with
  | none => .error (.valueError s!"非法 collaboration delivery outcome: {outcome}")
  | some state => do
      let (_, lease) ← store.requireCollaborationToken sha256 revision token
      raiseIf (state = .delivered &&
          store.control.fence ≠ some ⟨.active, lease.capturedLifecycleGeneration⟩)
        (.runtimeError "collaboration delivery 的原 lifecycle generation 已失效")
      store.updateDelivery revision threadId (fun delivery => { delivery with state, error })
        (.runtimeError "collaboration delivery 已终结或 recipient 不在冻结集合")

/-- `record_collaboration_delivery_failure`. -/
def recordDeliveryFailure (store : CollaborationStore) (revision : Nat) (threadId : String)
    (token : Nat) (error : String) : Except LedgerError CollaborationStore := do
  let _ ← store.requireCollaborationToken sha256 revision token
  store.updateDelivery revision threadId (fun delivery => { delivery with error := some error })
    (.runtimeError "不能覆盖已终结的 collaboration delivery")

/-- `UPDATE collaboration_fanouts SET … WHERE ledger_revision=?`. -/
def updateFanout (store : CollaborationStore) (revision : Nat) (change : FanoutRow → FanoutRow) :
    CollaborationStore :=
  { store with
    fanouts := updateWhere (fun row => row.ledgerRevision = revision) change store.fanouts }

/-- `record_collaboration_wakeup_receipt`. -/
def recordWakeupReceipt (store : CollaborationStore) (revision token : Nat) (receipt : String) :
    Except LedgerError CollaborationStore := do
  let (record, lease) ← store.requireCollaborationToken sha256 revision token
  raiseIf (record.row.wakeup.isNone ||
      store.control.fence ≠ some ⟨.active, lease.capturedLifecycleGeneration⟩)
    (.runtimeError "collaboration wakeup 无原描述或 lifecycle 已失效")
  raiseIf (record.row.wakeupReceipt.any fun stored => stored ≠ receipt)
    (.runtimeError "collaboration wakeup receipt 冲突")
  return store.updateFanout revision fun row => { row with wakeupReceipt := some receipt }

/-- The outcome that a finished fan-out and its lease share. -/
def finalState (cancelled : Bool) : FanoutState :=
  if cancelled then .cancelled else .completed

def finalOutcome (cancelled : Bool) : LeaseState :=
  if cancelled then .cancelled else .completed

def markFanoutLease (control : ControlDatabase) (lease : SessionOperationLease) (token : Nat)
    (now : String) : Except LedgerError (SessionOperationLease × ControlDatabase) :=
  if lease.state = .active then
    (control.markLeaseSettling lease.leaseId token now).mapError .lease
  else
    .ok (lease, control)

def settleFanoutLease (control : ControlDatabase) (lease : SessionOperationLease) (token : Nat)
    (cancelled : Bool) (now : String) : Except LedgerError ControlDatabase := do
  let (lease, control) ← markFanoutLease control lease token now
  let (_, settled) ← (control.settleLease lease.leaseId token (finalOutcome cancelled).text
    now).mapError .lease
  return settled

def finishCollaborationFanout (store : CollaborationStore) (revision token : Nat)
    (cancelled : Bool) (now : String) : Except LedgerError CollaborationStore := do
  let (record, lease) ← store.requireCollaborationToken sha256 revision token
  raiseIf (record.recipients.any fun item => item.state = .pending)
    (.runtimeError "collaboration fanout 仍有未终结 recipient")
  raiseIf (!cancelled && record.row.wakeup.isSome && record.row.wakeupReceipt.isNone)
    (.runtimeError "collaboration fanout 的显式 wakeup 尚未确认")
  let written := store.updateFanout revision fun row => { row with state := finalState cancelled }
  let control ← settleFanoutLease store.control lease token cancelled now
  return { written with control }

def takeoverFanout (store : CollaborationStore) (revision : Nat) (now : String) :
    Except LedgerError CollaborationStore := do
  let record ← store.getCollaborationFanout sha256 revision
  raiseIf (record.row.state ≠ .pending) (.runtimeError "fanout 已终结")
  let lease ← store.leaseOf record.row.leaseId
  let (_, control) ←
    (store.control.takeoverLease lease.leaseId lease.fencingToken now).mapError .lease
  return { store with control }

def closeFence (store : CollaborationStore) (generation : Nat) :
    Except LedgerError CollaborationStore := do
  let (_, control) ← (store.control.casFenceTransition generation "deleting").mapError .lease
  return { store with control }

def catalogThread (store : CollaborationStore) (threadId : String) :
    Except LedgerError CollaborationStore := do
  (validateThreadId threadId).mapError .identifier
  raiseIf (store.catalog.contains threadId)
    (.integrityError "UNIQUE constraint failed: thread_catalog.thread_id")
  return { store with catalog := store.catalog ++ [threadId] }

end CollaborationStore

/-- The transactions on the ledger, by whichever party, each as often as it is retried. -/
inductive LedgerCommand where
  | create (request : CollaborationStore.DelegatedCreation) (leaseId now : String)
  | publish (key sessionId : String) (accepted : Bool) (leaseId now : String)
  | abort (key leaseId now : String)
  | catalogThread (threadId : String)
  | commitBoard (commit : CollaborationStore.BoardCommit) (leaseId now : String)
  | finishDelivery (revision : Nat) (threadId : String) (token : Nat) (outcome : String)
      (error : Option String)
  | recordFailure (revision : Nat) (threadId : String) (token : Nat) (error : String)
  | recordReceipt (revision token : Nat) (receipt : String)
  | finishFanout (revision token : Nat) (cancelled : Bool) (now : String)
  | takeover (revision : Nat) (now : String)
  | closeFence (generation : Nat)

namespace CollaborationStore

variable (sha256 : LedgerDigests)

def apply (store : CollaborationStore) : LedgerCommand → Except LedgerError CollaborationStore
  | .create request leaseId now => store.createDelegatedThread sha256 request leaseId now
  | .publish key sessionId accepted leaseId now =>
    store.publishThreadCreation sha256 key sessionId accepted leaseId now
  | .abort key leaseId now => store.abortThreadCreation sha256 key leaseId now
  | .catalogThread threadId => store.catalogThread threadId
  | .commitBoard commit leaseId now =>
    (store.commitCollaborationBoard sha256 commit leaseId now).map Prod.snd
  | .finishDelivery revision threadId token outcome error =>
    store.finishCollaborationDelivery sha256 revision threadId token outcome error
  | .recordFailure revision threadId token error =>
    store.recordDeliveryFailure sha256 revision threadId token error
  | .recordReceipt revision token receipt =>
    store.recordWakeupReceipt sha256 revision token receipt
  | .finishFanout revision token cancelled now =>
    store.finishCollaborationFanout sha256 revision token cancelled now
  | .takeover revision now => store.takeoverFanout sha256 revision now
  | .closeFence generation => store.closeFence generation

/-- A transaction that raises, or that a crash interrupts, is rolled back. -/
def step (store : CollaborationStore) (command : LedgerCommand) : CollaborationStore :=
  match store.apply sha256 command with
  | .ok next => next
  | .error _ => store

def run (store : CollaborationStore) (commands : List LedgerCommand) : CollaborationStore :=
  commands.foldl (step sha256) store

def fresh (databasePath mainThreadId : String) (generation : Nat) : CollaborationStore where
  control := ⟨databasePath, some ⟨.active, generation⟩, []⟩
  mainThreadId
  catalog := [mainThreadId]

end CollaborationStore

end GraphAgent.Collaboration
