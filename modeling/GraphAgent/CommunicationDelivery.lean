import GraphAgent.CommunicationLedger
import GraphAgent.DurablePrograms

/-!
# Delivery of a cross-session message

The saga of one send: the blocks that the source, the target, the inbox workers
and a deletion run, each under the gate of one session, and the system in which
they interleave.  Between two blocks a party may crash, and a message may be
lost or arrive again.
-/

namespace GraphAgent.Communication

open Epoch SessionControl

abbrev SessionProgram (Value : Type) : Type :=
  Durable CommunicationError CommunicationSession Value

structure SendRequest where
  source : GlobalThreadAddress
  sendOperationId : String
  targetSessionId : String
  targetWorkspaceId : Option String
  payload : CommunicationPayload

namespace SendRequest

def communicationId (request : SendRequest) : String :=
  Communication.communicationId request.sendOperationId

def targetRef (request : SendRequest) : String :=
  targetReference request.targetSessionId request.targetWorkspaceId

def outboxPreimage (request : SendRequest) (target : GlobalThreadAddress) : OutboxPreimage where
  source := request.source
  target
  kind := request.payload.kind
  replyToCommunicationId := request.payload.replyToCommunicationId
  payloadHash := communicationPreimageHash target request.payload
  content := request.payload.content
  deliveryPolicy := request.payload.deliveryPolicy
  targetRef := request.targetRef

end SendRequest

def sourceIdentity (sendOperationId : String) : String :=
  "communication-source|" ++ sendOperationId

def targetIdentity (communicationId : String) : String :=
  "communication-target|" ++ communicationId

namespace CommunicationAcceptanceRequest

def inboxPreimage (message : CommunicationAcceptanceRequest) : InboxPreimage :=
  let payloadHash := communicationPreimageHash message.target message.payload
  let identity := deriveAdmissionIdentity message.communicationId payloadHash
  { source := message.source
    target := message.target
    kind := message.payload.kind
    replyToCommunicationId := message.payload.replyToCommunicationId
    payloadHash
    content := message.payload.content
    deliveryPolicy := message.payload.deliveryPolicy
    admissionId := identity.1
    wakeupKey := identity.2 }

end CommunicationAcceptanceRequest

def SendRequest.acceptance (request : SendRequest) (outbox : CommunicationOutboxRecord) :
    CommunicationAcceptanceRequest :=
  ⟨request.communicationId, request.source, outbox.target, request.payload, outbox.requestId⟩

namespace SessionPrograms

def leased {Result : Type} (call : ControlDatabase → Except LeaseError (Result × ControlDatabase)) :
    SessionProgram Result :=
  Durable.transact fun session => session.onLeases (call session.control)

/-- `_session_write_scope`: the catalog node of the session. -/
def sessionWriteScope (sessionId : String) : SessionProgram Catalog.NodeState :=
  Durable.check fun session =>
    match session.node with
    | none => .error (.notFound s!"Session {sessionId} not found")
    | some state => .ok state

def sessionWriteAdmission (sessionId : String) : SessionProgram Unit := do
  let state ← sessionWriteScope sessionId
  if state = .active then
    pure ()
  else
    Durable.raise (.deletionPending
      ("session_deletion_pending: catalog owner 正在删除，拒绝新业务准入: " ++
        s!"session_id={pyRepr sessionId}, state={pyRepr state.text}"))

/-- `assert_lease_current`. -/
def leaseCurrent (lease : SessionOperationLease) : SessionProgram SessionOperationLease :=
  Durable.check fun session =>
    match session.control.assertLeaseCurrent lease with
    | .error error => .error (.lease error)
    | .ok current => .ok current

def fenceCurrent (sessionId : String) (lease : SessionOperationLease) : SessionProgram Unit :=
  Durable.check fun session =>
    match session.control.readFenceRow with
    | .error error => .error (.lease error)
    | .ok fence =>
      refuseUnless (fence = ⟨.active, lease.capturedLifecycleGeneration⟩)
        (.runtimeError
          s!"原 lease 的 Session fence 已失效: session_id={sessionId}, lease_id={lease.leaseId}")

/-- `session_lease_settlement`: whether the session still admits new work. -/
def sessionLeaseSettlement (sessionId : String) (lease : SessionOperationLease) :
    SessionProgram Bool := do
  let state ← sessionWriteScope sessionId
  let _ ← leaseCurrent lease
  fenceCurrent sessionId lease
  pure (state = .active)

def beginSettlement (lease : SessionOperationLease) (nowText : String) : SessionProgram Unit :=
  if lease.state = .active then do
    let _ ← leased fun control =>
      control.markLeaseSettling lease.leaseId lease.fencingToken nowText
    pure ()
  else if lease.state = .settling ∨ lease.state = .completed then
    pure ()
  else
    Durable.raise (.runtimeError "通信 lifecycle lease 已失效")

/-- `settle_lease` under the token of the lease. -/
def settleLease (lease : SessionOperationLease) (outcome nowText : String) :
    SessionProgram Unit := do
  let _ ← leased fun control =>
    control.settleLease lease.leaseId lease.fencingToken outcome nowText
  pure ()

def completeLease (lease : SessionOperationLease) (nowText : String) : SessionProgram Unit := do
  let current ← leaseCurrent lease
  if current.state = .completed then
    pure ()
  else
    settleLease lease "completed" nowText

structure Attempt where
  requestId : String
  resolved : GlobalThreadAddress
  leaseId : String
  acceptanceLeaseId : String
  nowText : String

def sendTarget (request : SendRequest) (attempt : Attempt) : SessionProgram GlobalThreadAddress :=
  Durable.check fun session =>
    match session.fetchOutboxByOperation request.sendOperationId with
    | none => .ok attempt.resolved
    | some existing =>
      if existing.targetRef = request.targetRef then
        .ok existing.target
      else
        .error (.runtimeError "communication-preimage-conflict: 同 operation 目标选择漂移")

/-- `__post_init__` of the send request. -/
def checkOperationId (sendOperationId : String) : Except CommunicationError Unit :=
  refuseUnless (!isBlank sendOperationId)
    (.contractError "communication-operation-id-invalid"
      "send_operation_id 必须是非空字符串（软件持久化的幂等键，模型不可见）")

def sendScope (request : SendRequest) : SessionProgram Unit := do
  let prior ← Durable.read fun session =>
    session.findLeaseByOperation (sourceIdentity request.sendOperationId)
  match prior with
  | none => sessionWriteAdmission request.source.sessionId
  | some lease => do
      let _ ← sessionLeaseSettlement request.source.sessionId lease
      pure ()

def sourceLease (request : SendRequest) (target : GlobalThreadAddress) : LeaseRequest :=
  ⟨"communication_source", sourceIdentity request.sendOperationId,
    communicationPreimageHash target request.payload, none, none⟩

/-- The first block of `send`, up to the end of `admit_outgoing_send`. -/
def admitSend (request : SendRequest) (attempt : Attempt) : SessionProgram Unit := do
  Durable.check fun _ => request.payload.check
  let target ← sendTarget request attempt
  Durable.check fun _ => checkOperationId request.sendOperationId
  sendScope request
  let lease ← leased fun control =>
    control.createOrGetLease (sourceLease request target) attempt.leaseId attempt.nowText
  beginSettlement lease attempt.nowText
  let _ ← Durable.transact (CommunicationSession.createOrGetCommunicationOutbox
    (request.outboxPreimage target) request.sendOperationId request.communicationId
    attempt.requestId attempt.nowText)
  pure ()

def admittedLease (request : SendRequest) : SessionProgram SessionOperationLease :=
  Durable.check fun session =>
    match session.findLeaseByOperation (sourceIdentity request.sendOperationId) with
    | none => .error (.runtimeError "通信 outbox 缺少原 lifecycle lease")
    | some lease => .ok lease

/-- The row that the admission left. -/
def admittedOutbox (request : SendRequest) : SessionProgram CommunicationOutboxRecord :=
  Durable.check fun session =>
    match session.fetchOutboxByOperation request.sendOperationId with
    | none => .error (.attributeError "'NoneType' object has no attribute 'state'")
    | some outbox => .ok outbox

/-- The second block of `send`, up to the gateway operation. -/
def route (request : SendRequest) (nowText : String) :
    SessionProgram (CommunicationOutboxRecord × SessionOperationLease) := do
  let lease ← admittedLease request
  let outbox ← admittedOutbox request
  if outbox.state = .accepted then do
    let _ ← sessionLeaseSettlement request.source.sessionId lease
    let _ ← Durable.transact (CommunicationSession.advanceCommunicationOutboxState
      request.sendOperationId .routing none none nowText)
    pure (outbox, lease)
  else
    pure (outbox, lease)

def targetLease (message : CommunicationAcceptanceRequest) : LeaseRequest :=
  ⟨"communication_target", targetIdentity message.communicationId,
    communicationPreimageHash message.target message.payload, none, none⟩

/-- `accept` at the session of the target. -/
def accept (message : CommunicationAcceptanceRequest) (leaseId nowText : String) :
    SessionProgram CommunicationReceipt := do
  Durable.check fun _ => message.payload.check
  sessionWriteAdmission message.target.sessionId
  let lease ← leased fun control =>
    control.createOrGetLease (targetLease message) leaseId nowText
  beginSettlement lease nowText
  let inbox ← Durable.transact (CommunicationSession.createOrGetCommunicationInbox
    message.inboxPreimage message.communicationId message.requestId nowText)
  pure ⟨inbox.1.communicationId, message.source, message.target, inbox.1.payloadHash,
    inbox.1.admissionId, inbox.1.createdAt⟩

def checkReceipt (request : SendRequest) (outbox : CommunicationOutboxRecord)
    (receipt : CommunicationReceipt) : Except CommunicationError Unit :=
  refuseUnless
    (receipt.communicationId = request.communicationId ∧ receipt.source = request.source ∧
      receipt.target = outbox.target ∧ receipt.payloadHash = outbox.payloadHash)
    (.runtimeError "受认证 target receipt 与 outbox 冻结身份不一致")

/-- The last block of `send`, with the receipt of the target. -/
def receive (request : SendRequest)
    (waiting : CommunicationOutboxRecord × SessionOperationLease)
    (receipt : CommunicationReceipt) (nowText : String) : SessionProgram Unit := do
  Durable.check fun _ => checkReceipt request waiting.1 receipt
  let _ ← sessionLeaseSettlement request.source.sessionId waiting.2
  let _ ← Durable.transact (CommunicationSession.advanceCommunicationOutboxState
    request.sendOperationId .targetAccepted (some receipt.json) none nowText)
  completeLease waiting.2 nowText

/-- `claim_owner` of every worker. -/
def claimOwner : String := "backend-inbox-owner"

/-- An admission that a worker has claimed. -/
structure InboxTask where
  place : SessionPlace
  inbox : CommunicationInboxRecord
  lease : SessionOperationLease
  generation : Nat
  deriving DecidableEq

def InboxTask.claim (task : InboxTask) : InboxClaim :=
  ⟨claimOwner, task.generation⟩

def cancelInbox (communicationId : String) (lease : SessionOperationLease) (nowText : String) :
    SessionProgram Unit := do
  Durable.transact fun session =>
    .ok ((), session.drainCommunicationInboxes (some communicationId) nowText)
  let current ← leaseCurrent lease
  if current.state = .settling then
    settleLease lease "cancelled" nowText
  else
    pure ()

def inboxLease (inbox : CommunicationInboxRecord) : SessionProgram SessionOperationLease :=
  Durable.check fun session =>
    match session.findLeaseByOperation (targetIdentity inbox.communicationId) with
    | none => .error (.runtimeError "通信 inbox 缺少同 identity/hash 的原 lifecycle lease")
    | some lease =>
      if lease.operationKind = .communicationTarget ∧ lease.preimageHash = inbox.payloadHash then
        .ok lease
      else
        .error (.runtimeError "通信 inbox 缺少同 identity/hash 的原 lifecycle lease")

/-- The first block of `_consume_one`: the task, unless the row was cancelled. -/
def claimInbox (place : SessionPlace) (inbox : CommunicationInboxRecord) (generation : Nat)
    (nowText : String) : SessionProgram (Option InboxTask) := do
  let lease ← inboxLease inbox
  let active ← sessionLeaseSettlement place.sessionId lease
  if active then do
    let _ ← Durable.transact (CommunicationSession.claimCommunicationInboxAdmission
      inbox.communicationId ⟨claimOwner, generation⟩ nowText)
    pure (some ⟨place, inbox, lease, generation⟩)
  else do
    cancelInbox inbox.communicationId lease nowText
    pure none

def bindInbox (task : InboxTask) (binding : InboxExecutionBinding) (nowText : String) :
    SessionProgram Unit := do
  let _ ← sessionLeaseSettlement task.place.sessionId task.lease
  let _ ← Durable.transact (CommunicationSession.markCommunicationInboxExecutionBound
    task.inbox.communicationId binding task.claim nowText)
  let current ← leaseCurrent task.lease
  if current.state = .settling then
    settleLease task.lease "completed" nowText
  else
    pure ()

def refuseInbox (task : InboxTask) (nowText : String) : SessionProgram Unit := do
  let active ← sessionLeaseSettlement task.place.sessionId task.lease
  if active then
    Durable.raise (.deletionPending "session_deletion_pending")
  else
    cancelInbox task.inbox.communicationId task.lease nowText

/-- `_record_failure`. -/
def failInbox (task : InboxTask) (message nowText : String) : SessionProgram Unit := do
  let _ ← sessionLeaseSettlement task.place.sessionId task.lease
  let _ ← Durable.transact (CommunicationSession.recordCommunicationInboxAdmissionFailure
    task.inbox.communicationId task.claim message nowText)
  pure ()

/-- `_cancel_observation_lease_if_present`, which the drain uses for every
communication lease. -/
def cancelLease (operationIdentity nowText : String) : SessionProgram Unit := do
  let found ← Durable.read fun session => session.findLeaseByOperation operationIdentity
  match found with
  | none => pure ()
  | some lease =>
    if lease.state.isTerminal then
      pure ()
    else do
      if lease.state = .active then do
        let _ ← leased fun control =>
          control.markLeaseSettling lease.leaseId lease.fencingToken nowText
        settleLease lease "cancelled" nowText
      else
        settleLease lease "cancelled" nowText

def isDrained : LeaseKind → Bool
  | .communicationSource | .communicationTarget | .federatedCall => true
  | _ => false

def cancelLeases (nowText : String) : List SessionOperationLease → SessionProgram Unit
  | [] => pure ()
  | lease :: leases => do
      cancelLease lease.operationIdentity nowText
      cancelLeases nowText leases

def drainSession (nowText : String) : SessionProgram Unit := do
  Durable.transact fun session => .ok ((), session.drainCommunicationOutboxes nowText)
  Durable.transact fun session => .ok ((), session.drainCommunicationInboxes none nowText)
  let leases ← Durable.read fun session =>
    session.control.listNonTerminalLeases.filter fun lease => isDrained lease.operationKind
  cancelLeases nowText leases

/-- `_cas_session_fence`. -/
def closeSessionFence (sessionId : String) : SessionProgram Unit := do
  let advanced ← leased fun control => control.casFenceTransition 1 "deleting"
  if advanced then
    pure ()
  else
    Durable.check fun session =>
      match session.control.readFenceRow with
      | .error error => .error (.lease error)
      | .ok fence =>
        refuseUnless (fence.state = .deleting)
          (.runtimeError
            ("子树删除 drain: session fence CAS 失败且 fence 非 deleting" ++
              s!"（generation 不符，fail closed）: session_id={sessionId}, " ++
              s!"fence_state={pyRepr fence.state.text}, fence_generation={fence.generation}"))

def drainAndClose (sessionId : String) (closes : Bool) (nowText : String) :
    SessionProgram Unit := do
  drainSession nowText
  if closes then
    closeSessionFence sessionId
  else
    pure ()

end SessionPrograms

open SessionPrograms

structure CommunicationSystem where
  sessions : SessionPlace → CommunicationSession
  jobs : List (String × InboxExecutionBinding)
  messages : List CommunicationAcceptanceRequest
  waiting : List (CommunicationOutboxRecord × SessionOperationLease)
  receipts : List CommunicationReceipt
  claimed : List InboxTask
  bound : List (InboxTask × InboxExecutionBinding)

inductive CommunicationCommand where
  | admitSend (attempt : Attempt)
  | route (nowText : String)
  | deliver (message : CommunicationAcceptanceRequest) (leaseId nowText : String)
  | receive (waiting : CommunicationOutboxRecord × SessionOperationLease)
      (receipt : CommunicationReceipt) (nowText : String)
  | claim (place : SessionPlace) (communicationId : String) (generation : Nat) (nowText : String)
  | submit (task : InboxTask) (created : InboxExecutionBinding)
  | bind (task : InboxTask) (binding : InboxExecutionBinding) (nowText : String)
  | refuse (task : InboxTask) (nowText : String)
  | fail (task : InboxTask) (message nowText : String)
  | markDeleting (place : SessionPlace)
  | drain (place : SessionPlace) (closes : Bool) (nowText : String)
  | finishDelete (place : SessionPlace)

namespace CommunicationSystem

def write (system : CommunicationSystem) (place : SessionPlace)
    (session : CommunicationSession) : CommunicationSystem :=
  { system with sessions := Function.update system.sessions place session }

def atSession {Value : Type} (place : SessionPlace) (program : SessionProgram Value) :
    Durable CommunicationError CommunicationSystem Value :=
  Durable.onPart (fun system => system.sessions place) (fun session system =>
    system.write place session) program

def run {Value : Type} (system : CommunicationSystem) (place : SessionPlace)
    (program : SessionProgram Value) : CommunicationSystem :=
  (atSession place program system).2

def createOrGetJob (system : CommunicationSystem) (admissionId : String)
    (created : InboxExecutionBinding) : InboxExecutionBinding × CommunicationSystem :=
  match system.jobs.lookup admissionId with
  | some binding => (binding, system)
  | none => (created, { system with jobs := system.jobs ++ [(admissionId, created)] })

def setNode (system : CommunicationSystem) (place : SessionPlace)
    (node : Option Catalog.NodeState) : CommunicationSystem :=
  system.write place { system.sessions place with node }

def step (request : SendRequest) (system : CommunicationSystem) :
    CommunicationCommand → CommunicationSystem
  | .admitSend attempt => system.run request.source.place (admitSend request attempt)
  | .route nowText =>
    match atSession request.source.place (route request nowText) system with
    | (.error _, next) => next
    | (.ok waiting, next) =>
      { next with
        messages := request.acceptance waiting.1 :: next.messages
        waiting := waiting :: next.waiting }
  | .deliver message leaseId nowText =>
    if message ∈ system.messages then
      match atSession message.target.place (accept message leaseId nowText) system with
      | (.error _, next) => next
      | (.ok receipt, next) => { next with receipts := receipt :: next.receipts }
    else
      system
  | .receive waiting receipt nowText =>
    if waiting ∈ system.waiting ∧ receipt ∈ system.receipts then
      system.run request.source.place (receive request waiting receipt nowText)
    else
      system
  | .claim place communicationId generation nowText =>
    match (system.sessions place).fetchInbox communicationId with
    | none => system
    | some inbox =>
      match atSession place (claimInbox place inbox generation nowText) system with
      | (.ok (some task), next) => { next with claimed := task :: next.claimed }
      | (_, next) => next
  | .submit task created =>
    if task ∈ system.claimed ∧ (system.sessions task.place).node = some .active then
      let answer := system.createOrGetJob task.inbox.admissionId created
      { answer.2 with bound := (task, answer.1) :: answer.2.bound }
    else
      system
  | .bind task binding nowText =>
    if (task, binding) ∈ system.bound then
      system.run task.place (bindInbox task binding nowText)
    else
      system
  | .refuse task nowText =>
    if task ∈ system.claimed then
      system.run task.place (refuseInbox task nowText)
    else
      system
  | .fail task message nowText =>
    if task ∈ system.claimed then
      system.run task.place (failInbox task message nowText)
    else
      system
  | .markDeleting place =>
    if (system.sessions place).node = some .active then
      system.setNode place (some .deleting)
    else
      system
  | .drain place closes nowText =>
    if (system.sessions place).node = some .deleting then
      system.run place (drainAndClose place.sessionId closes nowText)
    else
      system
  | .finishDelete place =>
    if (system.sessions place).node = some .deleting ∧
        (system.sessions place).control.fence.any (fun fence => fence.state = .deleting) then
      system.setNode place none
    else
      system

def runCommands (request : SendRequest) (system : CommunicationSystem)
    (commands : List CommunicationCommand) : CommunicationSystem :=
  commands.foldl (step request) system

/-- `send` without an interruption, with every operation answered. -/
def send (request : SendRequest) (attempt : Attempt) :
    Durable CommunicationError CommunicationSystem CommunicationReceipt := do
  atSession request.source.place (admitSend request attempt)
  let waiting ← atSession request.source.place (route request attempt.nowText)
  let receipt ← atSession waiting.1.target.place
    (accept (request.acceptance waiting.1) attempt.acceptanceLeaseId attempt.nowText)
  atSession request.source.place (receive request waiting receipt attempt.nowText)
  pure receipt

end CommunicationSystem

end GraphAgent.Communication
