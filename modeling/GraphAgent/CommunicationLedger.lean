import GraphAgent.CatalogNodes
import GraphAgent.CommunicationRecords
import GraphAgent.LeaseFencing

/-!
# The communication ledger of a session

The two tables of one session's control database and the transactions on them:
create-or-get of an outbox and of an inbox row, the state compare-and-sets, the
claim of an admission, the binding, and the drains of a deletion.
-/

namespace GraphAgent.Communication

open Epoch KeyedRows SessionControl

structure CommunicationSession where
  node : Option Catalog.NodeState
  mainThreads : List String
  control : ControlDatabase
  outbox : List CommunicationOutboxRecord
  inbox : List CommunicationInboxRecord

def noneOrRepr : Option String → String
  | none => "None"
  | some text => pyRepr text

/-- `repr` of a list of strings. -/
def pyList (texts : List String) : String :=
  "[" ++ ", ".intercalate (texts.map pyRepr) ++ "]"

/-- Nothing, or the given refusal. -/
def refuseUnless (condition : Bool) (error : CommunicationError) :
    Except CommunicationError Unit :=
  if condition then .ok () else .error error

def validateCommunicationText (value field : String) : Except CommunicationError Unit :=
  refuseUnless (!isBlank value && value.length ≤ 256)
    (.valueError s!"{field} 必须是 1-256 个字符的非空字符串: {pyRepr value}")

def validateCommunicationAddress (address : GlobalThreadAddress) (side : String) :
    Except CommunicationError Unit := do
  validateCommunicationText address.gatewayId s!"{side}.gateway_id"
  validateCommunicationText address.workspaceId s!"{side}.workspace_id"
  validateSessionId address.sessionId
  validateThreadId address.threadId

/-- `_validate_communication_kind_and_reply`. -/
def validateKindAndReply (kind : CommunicationKind) (replyTo : Option String) :
    Except CommunicationError Unit :=
  refuseUnless ((kind = .reply : Bool) = replyTo.isSome)
    (.valueError ("reply_to_communication_id 只允许与 kind=reply 同时出现: " ++
      s!"kind={pyRepr kind.text}, reply_to={noneOrRepr replyTo}"))

def validateCommunicationId (communicationId : String) : Except CommunicationError Unit :=
  refuseUnless (isIdentifier "comm_" communicationId)
    (.valueError s!"communication_id 形态非法: {pyRepr communicationId}")

def validatePayloadHash (payloadHash : String) : Except CommunicationError Unit :=
  refuseUnless (isHexDigest payloadHash.toList)
    (.valueError s!"payload_hash 必须是 sha256 小写 hex: {pyRepr payloadHash}")

def validateOutbox (preimage : OutboxPreimage) (sendOperationId communicationId : String) :
    Except CommunicationError Unit := do
  validateSessionId preimage.source.sessionId
  validateCommunicationText sendOperationId "send_operation_id"
  validateCommunicationId communicationId
  validateCommunicationAddress preimage.source "source"
  validateCommunicationAddress preimage.target "target"
  validateKindAndReply preimage.kind preimage.replyToCommunicationId
  validatePayloadHash preimage.payloadHash

def validateInbox (preimage : InboxPreimage) (communicationId : String) :
    Except CommunicationError Unit := do
  validateSessionId preimage.target.sessionId
  validateSessionId preimage.source.sessionId
  validateCommunicationId communicationId
  validateCommunicationAddress preimage.source "source"
  validateThreadId preimage.target.threadId
  validateKindAndReply preimage.kind preimage.replyToCommunicationId
  validatePayloadHash preimage.payloadHash

namespace CommunicationSession

def fetchOutboxByOperation (session : CommunicationSession) (sendOperationId : String) :
    Option CommunicationOutboxRecord :=
  fetch CommunicationOutboxRecord.sendOperationId session.outbox sendOperationId

def fetchOutboxByCommunication (session : CommunicationSession) (communicationId : String) :
    Option CommunicationOutboxRecord :=
  fetch CommunicationOutboxRecord.communicationId session.outbox communicationId

def fetchInbox (session : CommunicationSession) (communicationId : String) :
    Option CommunicationInboxRecord :=
  fetch CommunicationInboxRecord.communicationId session.inbox communicationId

/-- `find_lease_by_operation`: the latest row of the identity. -/
def findLeaseByOperation (session : CommunicationSession) (operationIdentity : String) :
    Option SessionOperationLease :=
  session.control.leases.reverse.find? fun lease => lease.operationIdentity = operationIdentity

def proveOutboxReply (session : CommunicationSession) (preimage : OutboxPreimage) :
    Except CommunicationError Unit :=
  if preimage.kind = .reply then
    match session.fetchInbox (preimage.replyToCommunicationId.getD "None") with
    | none =>
      .error (.runtimeError
        ("kind=reply 无法在本 session inbox 中证明被回复 communication（fail closed）: " ++
          s!"session_id={pyRepr preimage.source.sessionId}, " ++
          s!"reply_to={noneOrRepr preimage.replyToCommunicationId}"))
    | some answered =>
      refuseUnless (answered.source = preimage.target ∧ answered.target = preimage.source)
        (.runtimeError
          ("kind=reply 的被回复 communication 方向与本次 send 相同（fail closed）: " ++
            s!"session_id={pyRepr preimage.source.sessionId}, " ++
            s!"reply_to={noneOrRepr preimage.replyToCommunicationId}"))
  else
    .ok ()

def proveInboxReply (session : CommunicationSession) (preimage : InboxPreimage) :
    Except CommunicationError Unit :=
  if preimage.kind = .reply then
    match session.fetchOutboxByCommunication (preimage.replyToCommunicationId.getD "None") with
    | none =>
      .error (.runtimeError
        ("kind=reply 无法在本 session outbox 中证明被回复 communication（fail closed）: " ++
          s!"session_id={pyRepr preimage.target.sessionId}, " ++
          s!"reply_to={noneOrRepr preimage.replyToCommunicationId}"))
    | some answered =>
      refuseUnless (answered.target = preimage.source ∧ answered.source = preimage.target)
        (.runtimeError
          ("kind=reply 的被回复 communication 方向与本次方向不一致（fail closed）: " ++
            s!"session_id={pyRepr preimage.target.sessionId}, " ++
            s!"reply_to={noneOrRepr preimage.replyToCommunicationId}"))
  else
    .ok ()

def freshOutbox (preimage : OutboxPreimage)
    (sendOperationId communicationId requestId nowText : String) : CommunicationOutboxRecord where
  toOutboxPreimage := preimage
  sendOperationId
  communicationId
  requestId
  state := .accepted
  latestReceipt := none
  abortReason := none
  createdAt := nowText
  updatedAt := nowText

/-- `create_or_get_communication_outbox`: the row, and whether it is new. -/
def createOrGetCommunicationOutbox (preimage : OutboxPreimage)
    (sendOperationId communicationId requestId nowText : String)
    (session : CommunicationSession) :
    Except CommunicationError ((CommunicationOutboxRecord × Bool) × CommunicationSession) := do
  validateOutbox preimage sendOperationId communicationId
  match session.fetchOutboxByOperation sendOperationId with
  | some record =>
    if record.mismatches preimage ≠ [] ∨ record.communicationId ≠ communicationId then
      .error (.runtimeError
        ("同 send_operation_id 的 outbox 重试 preimage 漂移（fail closed）: " ++
          s!"send_operation_id={pyRepr sendOperationId}, " ++
          s!"漂移字段={pyList (record.mismatches preimage)}, " ++
          s!"existing_communication_id={pyRepr record.communicationId}, " ++
          s!"submitted_communication_id={pyRepr communicationId}"))
    else
      .ok ((record, false), session)
  | none =>
    match session.fetchOutboxByCommunication communicationId with
    | some record =>
      if record.mismatches preimage ≠ [] then
        .error (.runtimeError
          ("同 communication_id 已绑定不同 preimage（fail closed）: " ++
            s!"communication_id={pyRepr communicationId}, " ++
            s!"漂移字段={pyList (record.mismatches preimage)}"))
      else
        .ok ((record, false), session)
    | none => do
        session.proveOutboxReply preimage
        .ok ((freshOutbox preimage sendOperationId communicationId requestId nowText, true),
          { session with
            outbox := session.outbox ++
              [freshOutbox preimage sendOperationId communicationId requestId nowText] })

def updateOutbox (session : CommunicationSession) (matching : CommunicationOutboxRecord → Bool)
    (change : CommunicationOutboxRecord → CommunicationOutboxRecord) : CommunicationSession :=
  { session with outbox := updateWhere matching change session.outbox }

def advancedOutbox (record : CommunicationOutboxRecord) (newState : OutboxState)
    (receiptJson abortReason : Option String) (nowText : String) : CommunicationOutboxRecord :=
  { record with
    state := newState
    latestReceipt :=
      if newState.isFailure then record.latestReceipt
      else if newState.isSuccess then receiptJson
      else none
    abortReason := if newState.isFailure then abortReason else none
    updatedAt := nowText }

def repeatsAdvance (record : CommunicationOutboxRecord) (newState : OutboxState)
    (receiptJson abortReason : Option String) : Bool :=
  if newState.isFailure then record.abortReason = abortReason
  else record.latestReceipt = receiptJson && record.abortReason = abortReason

/-- The checks before the transaction.  `accepted` is a key of the transition
table and passes them. -/
def checkAdvance (newState : OutboxState) (receiptJson abortReason : Option String) :
    Except CommunicationError Unit :=
  if newState.isSuccess ∧ receiptJson = none then
    .error (.valueError s!"outbox 迁移到 {pyRepr newState.text} 必须携带 receipt JSON")
  else if newState.isFailure ∧ abortReason = none then
    .error (.valueError s!"outbox 迁移到 {pyRepr newState.text} 必须携带 abort_reason")
  else if newState.isFailure ∧ receiptJson ≠ none then
    .error (.valueError (s!"outbox 迁移到 {pyRepr newState.text} 不得携带 receipt JSON" ++
      "（受认证 receipt 由既有行保留，不接受覆盖）"))
  else
    .ok ()

def checkTransition (record : CommunicationOutboxRecord) (newState : OutboxState)
    (receiptJson abortReason : Option String) : Except CommunicationError Unit :=
  if newState ∉ record.state.transitions then
    .error (.runtimeError
      ("outbox 状态迁移非法（fail closed）: " ++
        s!"send_operation_id={pyRepr record.sendOperationId}, " ++
        s!"current={pyRepr record.state.text}, requested={pyRepr newState.text}, " ++
        s!"allowed={pyTuple (record.state.transitions.map OutboxState.text)}"))
  else if newState.isSuccess ∧ abortReason ≠ none then
    .error (.valueError (s!"outbox 迁移到 {pyRepr newState.text} 不得携带 abort_reason" ++
      "（abort_reason 只属于 failed|cancelled）"))
  else if newState.isSuccess = false ∧ newState.isFailure = false ∧
      (receiptJson ≠ none ∨ abortReason ≠ none) then
    .error (.valueError
      s!"outbox 迁移到 {pyRepr newState.text} 不接受 receipt/abort_reason 载荷")
  else
    .ok ()

def advanceCommunicationOutboxState (sendOperationId : String) (newState : OutboxState)
    (receiptJson abortReason : Option String) (nowText : String)
    (session : CommunicationSession) :
    Except CommunicationError (CommunicationOutboxRecord × CommunicationSession) := do
  validateCommunicationText sendOperationId "send_operation_id"
  checkAdvance newState receiptJson abortReason
  match session.fetchOutboxByOperation sendOperationId with
  | none =>
    .error (.keyError ("communication outbox 不存在，无法推进状态: " ++
      s!"send_operation_id={pyRepr sendOperationId}"))
  | some record =>
    if record.state = newState then
      if repeatsAdvance record newState receiptJson abortReason then
        .ok (record, session)
      else
        .error (.runtimeError
          ("outbox 重复提交同状态但载荷漂移（fail closed）: " ++
            s!"send_operation_id={pyRepr sendOperationId}, " ++
            s!"existing_receipt={noneOrRepr record.latestReceipt}, " ++
            s!"submitted_receipt={noneOrRepr receiptJson}, " ++
            s!"existing_abort_reason={noneOrRepr record.abortReason}, " ++
            s!"submitted_abort_reason={noneOrRepr abortReason}"))
    else do
      checkTransition record newState receiptJson abortReason
      .ok (advancedOutbox record newState receiptJson abortReason nowText,
        session.updateOutbox
          (fun row => row.sendOperationId = sendOperationId && row.state = record.state)
          fun row => advancedOutbox row newState receiptJson abortReason nowText)

def drainCommunicationOutboxes (nowText : String) (session : CommunicationSession) :
    CommunicationSession :=
  session.updateOutbox (fun row => !row.state.isTerminal) fun row =>
    { row with state := .cancelled, abortReason := some "source-deleted", updatedAt := nowText }

def freshInbox (preimage : InboxPreimage) (communicationId requestId nowText : String) :
    CommunicationInboxRecord where
  toInboxPreimage := preimage
  communicationId
  requestId
  state := .targetAccepted
  binding := none
  admissionClaim := none
  lastError := none
  terminalOutcome := none
  createdAt := nowText
  updatedAt := nowText

def checkMainThread (session : CommunicationSession) (target : GlobalThreadAddress) :
    Except CommunicationError Unit :=
  match session.mainThreads with
  | [main] =>
    refuseUnless (main = target.threadId)
      (.runtimeError
        ("communication inbox 目标必须解析 main thread（main binding 漂移，fail closed）: " ++
          s!"session_id={pyRepr target.sessionId}, main_thread_id={pyRepr main}, " ++
          s!"target_thread_id={pyRepr target.threadId}"))
  | mains =>
    .error (.runtimeError
      ("session control main row 缺失或不唯一，拒绝建立 communication inbox（fail closed）: " ++
        s!"path={session.control.databasePath}, main_rows={mains.length}"))

/-- The insertion under the unique key on `admission_id`. -/
def insertInbox (session : CommunicationSession) (record : CommunicationInboxRecord) :
    Except CommunicationError ((CommunicationInboxRecord × Bool) × CommunicationSession) :=
  if session.inbox.any fun row => row.admissionId = record.admissionId then
    .error (.integrityError "UNIQUE constraint failed: communication_inbox.admission_id")
  else
    .ok ((record, true), { session with inbox := session.inbox ++ [record] })

/-- `create_or_get_communication_inbox`: the row, and whether it is new. -/
def createOrGetCommunicationInbox (preimage : InboxPreimage)
    (communicationId requestId nowText : String) (session : CommunicationSession) :
    Except CommunicationError ((CommunicationInboxRecord × Bool) × CommunicationSession) := do
  validateInbox preimage communicationId
  session.checkMainThread preimage.target
  session.proveInboxReply preimage
  match session.fetchInbox communicationId with
  | some record =>
    if record.mismatches preimage ≠ [] then
      .error (.runtimeError
        ("同 communication_id 的 inbox 重试身份漂移（fail closed）: " ++
          s!"communication_id={pyRepr communicationId}, " ++
          s!"漂移字段={pyList (record.mismatches preimage)}"))
    else
      .ok ((record, false), session)
  | none => session.insertInbox (freshInbox preimage communicationId requestId nowText)

/-- `_fetch_inbox_row`, or the error that the row is missing. -/
def inboxOrRaise (session : CommunicationSession) (communicationId purpose : String) :
    Except CommunicationError CommunicationInboxRecord :=
  match session.fetchInbox communicationId with
  | none =>
    .error (.keyError
      s!"communication inbox 不存在，{purpose}: communication_id={pyRepr communicationId}")
  | some record => .ok record

def updateInbox (session : CommunicationSession) (matching : CommunicationInboxRecord → Bool)
    (change : CommunicationInboxRecord → CommunicationInboxRecord) : CommunicationSession :=
  { session with inbox := updateWhere matching change session.inbox }

def writeInbox (session : CommunicationSession) (record : CommunicationInboxRecord)
    (change : CommunicationInboxRecord → CommunicationInboxRecord) :
    Except CommunicationError (CommunicationInboxRecord × CommunicationSession) :=
  .ok (change record,
    session.updateInbox (fun row => row.communicationId = record.communicationId) change)

def validateClaim (claim : InboxClaim) : Except CommunicationError Unit := do
  refuseUnless (claim.owner ≠ "")
    (.valueError s!"claim_owner 不能为空: {pyRepr claim.owner}")
  refuseUnless (1 ≤ claim.generation)
    (.valueError s!"claim_generation 必须是 >= 1 的整数: {claim.generation}")

def claimCommunicationInboxAdmission (communicationId : String) (claim : InboxClaim)
    (nowText : String) (session : CommunicationSession) :
    Except CommunicationError (CommunicationInboxRecord × CommunicationSession) := do
  validateClaim claim
  let record ← session.inboxOrRaise communicationId "无法领取 admission"
  if record.state ≠ .targetAccepted then
    .error (.runtimeError
      ("communication inbox 非 target_accepted，拒绝领取（fail closed）: " ++
        s!"communication_id={pyRepr communicationId}, state={pyRepr record.state.text}"))
  else
    match record.admissionClaim with
    | none =>
      session.writeInbox record fun row =>
        { row with admissionClaim := some claim, updatedAt := nowText }
    | some held =>
      if held.owner ≠ claim.owner then
        .error (.runtimeError
          ("communication inbox admission 已被其他 claim 持有（不同 claim 冲突，" ++
            s!"fail closed）: communication_id={pyRepr communicationId}, " ++
            s!"held_owner={pyRepr held.owner}, requested_owner={pyRepr claim.owner}"))
      else if held.generation < claim.generation then
        session.writeInbox record fun row =>
          { row with admissionClaim := some claim, updatedAt := nowText }
      else if claim.generation < held.generation then
        .error (.runtimeError
          ("inbox claim generation 过期（不得低于当前持有 generation，fail closed）: " ++
            s!"communication_id={pyRepr communicationId}, held={held.generation}, " ++
            s!"requested={claim.generation}"))
      else
        .ok (record, session)

def checkBinding (binding : InboxExecutionBinding) : Except CommunicationError Unit := do
  validateCommunicationText binding.jobId "job_id"
  match binding.turnId with
  | none => .ok ()
  | some turnId => validateCommunicationText turnId "turn_id"
  validateCommunicationText binding.executionId "execution_id"

def markCommunicationInboxExecutionBound (communicationId : String)
    (binding : InboxExecutionBinding) (claim : InboxClaim) (nowText : String)
    (session : CommunicationSession) :
    Except CommunicationError (CommunicationInboxRecord × CommunicationSession) := do
  checkBinding binding
  validateClaim claim
  let record ← session.inboxOrRaise communicationId "无法标记 execution_bound"
  match record.admissionClaim with
  | none =>
    .error (.runtimeError ("communication inbox 未被领取，拒绝 mark bound: " ++
      s!"communication_id={pyRepr communicationId}"))
  | some held =>
    if held ≠ claim then
      .error (.runtimeError ("mark bound 的 claim 与当前持有 claim 不一致（fail closed）: " ++
        s!"communication_id={pyRepr communicationId}"))
    else if record.state = .executionBound then
      if record.binding ≠ some binding then
        .error (.runtimeError
          ("communication inbox 已 execution_bound 且提交 identity 漂移（fail closed）: " ++
            s!"communication_id={pyRepr communicationId}, " ++
            s!"frozen_job={noneOrRepr (record.binding.map InboxExecutionBinding.jobId)}, " ++
            s!"submitted_job={pyRepr binding.jobId}"))
      else
        .ok (record, session)
    else if record.state ≠ .targetAccepted then
      .error (.runtimeError
        ("communication inbox 非 target_accepted，拒绝 mark bound（fail closed）: " ++
          s!"communication_id={pyRepr communicationId}, state={pyRepr record.state.text}"))
    else
      session.writeInbox record fun row =>
        { row with
          state := .executionBound
          binding := some binding
          lastError := none
          updatedAt := nowText }

def recordCommunicationInboxAdmissionFailure (communicationId : String) (claim : InboxClaim)
    (lastError nowText : String) (session : CommunicationSession) :
    Except CommunicationError (CommunicationInboxRecord × CommunicationSession) := do
  validateClaim claim
  refuseUnless (lastError ≠ "") (.valueError s!"last_error 不能为空: {pyRepr lastError}")
  let record ← session.inboxOrRaise communicationId "无法记录 admission 失败"
  if record.state ≠ .targetAccepted then
    .error (.runtimeError
      ("communication inbox 非 target_accepted，无失败可记录（fail closed）: " ++
        s!"communication_id={pyRepr communicationId}, state={pyRepr record.state.text}"))
  else if record.admissionClaim ≠ some claim then
    .error (.runtimeError ("record failure 的 claim 与当前持有 claim 不一致（fail closed）: " ++
      s!"communication_id={pyRepr communicationId}"))
  else
    session.writeInbox record fun row =>
      { row with lastError := some lastError, updatedAt := nowText }

/-- `drain_communication_inboxes`, of every row or of the named one. -/
def drainCommunicationInboxes (communicationId : Option String) (nowText : String)
    (session : CommunicationSession) : CommunicationSession :=
  session.updateInbox
    (fun row => !row.state.isTerminal && communicationId.all fun only => row.communicationId = only)
    fun row =>
      { row with
        state := if row.binding = none then .cancelled else .terminal
        lastError := some "target-deleted"
        terminalOutcome := some "target-deleted"
        updatedAt := nowText }

def onLeases {Result : Type} (session : CommunicationSession)
    (outcome : Except LeaseError (Result × ControlDatabase)) :
    Except CommunicationError (Result × CommunicationSession) :=
  match outcome with
  | .error error => .error (.lease error)
  | .ok (result, control) => .ok (result, { session with control })

end CommunicationSession

end GraphAgent.Communication
