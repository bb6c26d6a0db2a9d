import GraphAgent.KeyedRows
import GraphAgent.PythonValues
import GraphAgent.Transactions

/-!
# The row of a background task

`app/core/session_control_store/background_work.py` and the mailbox insert that
it shares a transaction with: one task, the mailbox of its session and the
lifecycle fence.
-/

namespace GraphAgent.BackgroundWork

open KeyedRows

inductive BackgroundTaskStatus where
  | pending
  | running
  | reconcileRequired
  | completed
  | cancelled
  | failed
  | deleted
  deriving DecidableEq

/-- `ACTIVE_TASK_STATUSES`. -/
def BackgroundTaskStatus.isActive : BackgroundTaskStatus → Bool
  | .pending | .running | .reconcileRequired => true
  | .completed | .cancelled | .failed | .deleted => false

inductive BackgroundMessageKind where
  | normal
  | interrupt

def BackgroundMessageKind.text : BackgroundMessageKind → String
  | .normal => "normal"
  | .interrupt => "interrupt"

structure BackgroundMessage where
  messageId : String
  sessionId : String
  threadId : String
  agentId : String
  sourceId : String
  kind : BackgroundMessageKind
  content : String
  payload : Fields
  timestamp : String

namespace BackgroundMessage

def preimage (message : BackgroundMessage) : List (String × Json) :=
  [("message_id", .str message.messageId), ("session_id", .str message.sessionId),
    ("thread_id", .str message.threadId), ("agent_id", .str message.agentId),
    ("source_id", .str message.sourceId), ("kind", .str message.kind.text),
    ("content", .str message.content), ("payload", message.payload.toJson)]

/-- `message_json`. -/
def json (message : BackgroundMessage) : Json :=
  .obj (message.preimage ++ [("timestamp", .str message.timestamp)])

end BackgroundMessage

structure BackgroundTaskStep where
  checkpoint : Fields
  completed : Bool
  messages : List BackgroundMessage
  result : Option Fields
  resultMessageIds : List String

/-- A row of `background_tasks`, and the handle that is read from it. -/
structure BackgroundTaskHandle where
  taskId : String
  sessionId : String
  threadId : String
  agentId : String
  checkpoint : Fields
  status : BackgroundTaskStatus
  fencingToken : Nat
  runtimeGeneration : Nat
  externalEffectPending : Bool
  startedAt : Option String
  endedAt : Option String
  metadata : Fields

/-- A row of `background_mailbox`; the rows stand in the order of `sequence`. -/
structure MailboxRow where
  message : BackgroundMessage
  preimageHash : String

def MailboxRow.messageId (row : MailboxRow) : String :=
  row.message.messageId

structure BackgroundDatabase where
  fenceActive : Bool
  task : BackgroundTaskHandle
  mailbox : List MailboxRow

inductive BackgroundError where
  | deletionPending (message : String)
  | claimRefused (taskId : String) (token : Nat)
  | markRefused (taskId : String)
  | commitRefused (taskId : String) (token : Nat)
  | foreignMessage
  | messageConflict (messageId : String)
  | missingMessage (messageId : String)
  | statusNotFinal (status : BackgroundTaskStatus)
  | finishRefused (taskId : String)

def BackgroundError.message : BackgroundError → String
  | .deletionPending message => message
  | .claimRefused taskId token => s!"后台任务领取 CAS 失败: {taskId}, token={token}"
  | .markRefused taskId => s!"后台任务外部效果 fencing 失败: {taskId}"
  | .commitRefused taskId token =>
    s!"后台任务 checkpoint fencing 失败: {taskId}, token={token}"
  | .foreignMessage => "后台任务消息不能越过精确 thread/agent 归属"
  | .messageConflict messageId => s!"邮箱 message_id 内容冲突: {messageId}"
  | .missingMessage messageId => s!"后台完成回执缺少已提交消息: {messageId}"
  | .statusNotFinal _ => "后台任务终结状态非法"
  | .finishRefused taskId => s!"后台任务终结 fencing 失败: {taskId}"

namespace BackgroundDatabase

def claimable (reconcile : Bool) : List BackgroundTaskStatus :=
  if reconcile then [.reconcileRequired] else [.pending, .running]

def claimBackgroundTask (database : BackgroundDatabase) (expectedToken runtimeGeneration : Nat)
    (reconcile : Bool) (nowText : String) : Except BackgroundError BackgroundDatabase :=
  let row := database.task
  if database.fenceActive then
    if row.fencingToken = expectedToken ∧ row.status ∈ claimable reconcile ∧
        row.externalEffectPending = reconcile then
      .ok { database with
        task := { row with
          fencingToken := row.fencingToken + 1
          runtimeGeneration
          status := if reconcile then .reconcileRequired else .running
          startedAt := row.startedAt.or (some nowText) } }
    else
      .error (.claimRefused row.taskId expectedToken)
  else
    .error (.deletionPending "Session 删除中，拒绝领取后台任务")

def markBackgroundExternalEffect (database : BackgroundDatabase) (token : Nat) :
    Except BackgroundError BackgroundDatabase :=
  let row := database.task
  if row.fencingToken = token ∧ row.status = .running ∧ row.externalEffectPending = false then
    .ok { database with task := { row with externalEffectPending := true } }
  else
    .error (.markRefused row.taskId)

section Mailbox

variable (sha256Jcs : List (String × Json) → String)

def insertBackgroundMessage (mailbox : List MailboxRow) (message : BackgroundMessage) :
    Except BackgroundError (List MailboxRow) :=
  let digest := sha256Jcs message.preimage
  match fetch MailboxRow.messageId mailbox message.messageId with
  | some row =>
    if row.preimageHash = digest then .ok mailbox
    else .error (.messageConflict message.messageId)
  | none => .ok (mailbox ++ [⟨message, digest⟩])

def insertMessages (row : BackgroundTaskHandle) :
    List MailboxRow → List BackgroundMessage → Except BackgroundError (List MailboxRow)
  | mailbox, [] => .ok mailbox
  | mailbox, message :: messages =>
    if (message.sessionId, message.threadId, message.agentId) =
        (row.sessionId, row.threadId, row.agentId) then do
      let inserted ← insertBackgroundMessage sha256Jcs mailbox message
      insertMessages row inserted messages
    else
      .error .foreignMessage

def emitBackgroundMessage (database : BackgroundDatabase) (message : BackgroundMessage) :
    Except BackgroundError BackgroundDatabase :=
  if database.fenceActive then do
    let mailbox ← insertBackgroundMessage sha256Jcs database.mailbox message
    return { database with mailbox }
  else
    .error (.deletionPending "Session 删除中，拒绝邮箱写入")

def resultMessage (row : BackgroundTaskHandle) (mailbox : List MailboxRow) (messageId : String) :
    Except BackgroundError Json :=
  match fetch MailboxRow.messageId mailbox messageId with
  | some stored =>
    if stored.message.threadId = row.threadId ∧ stored.message.agentId = row.agentId then
      .ok stored.message.json
    else
      .error (.missingMessage messageId)
  | none => .error (.missingMessage messageId)

def stepMetadata (row : BackgroundTaskHandle) (mailbox : List MailboxRow)
    (step : BackgroundTaskStep) : Except BackgroundError Fields :=
  match step.result with
  | none => .ok row.metadata
  | some result => do
      let messages ← step.resultMessageIds.mapM (resultMessage row mailbox)
      let completed := if step.resultMessageIds.isEmpty then result
        else result.insert "messages" (.arr messages)
      return row.metadata.insert "result" completed.toJson

def committable (reconcile : Bool) : BackgroundTaskStatus :=
  if reconcile then .reconcileRequired else .running

def commitBackgroundStep (database : BackgroundDatabase) (token : Nat)
    (step : BackgroundTaskStep) (reconcile : Bool) (nowText : String) :
    Except BackgroundError BackgroundDatabase :=
  let row := database.task
  if database.fenceActive then
    if row.fencingToken = token ∧ row.status = committable reconcile then do
      let mailbox ← insertMessages sha256Jcs row database.mailbox step.messages
      let metadata ← stepMetadata row mailbox step
      return { database with
        mailbox
        task := { row with
          checkpoint := step.checkpoint
          externalEffectPending := false
          status := if step.completed then .completed else .running
          endedAt := if step.completed then some nowText else none
          metadata } }
    else
      .error (.commitRefused row.taskId token)
  else
    .error (.deletionPending "Session 删除中，拒绝后台回调写入")

end Mailbox

/-- The statuses that `finish_background_task` accepts. -/
def finishStatuses : List BackgroundTaskStatus :=
  [.pending, .reconcileRequired, .cancelled, .failed, .deleted]

def finishBackgroundTask (database : BackgroundDatabase) (token : Nat)
    (status : BackgroundTaskStatus) (note nowText : String) :
    Except BackgroundError BackgroundDatabase :=
  let row := database.task
  if status ∈ finishStatuses then
    if row.fencingToken = token then
      if row.status.isActive = false ∧ status ≠ .deleted then
        .ok database
      else
        .ok { database with
          task := { row with
            status
            endedAt := if status.isActive then none else some nowText
            metadata := row.metadata.insert "status_note" (.str note) } }
    else
      .error (.finishRefused row.taskId)
  else
    .error (.statusNotFinal status)

end BackgroundDatabase

end GraphAgent.BackgroundWork
