import GraphAgent.KeyedRows
import GraphAgent.PrefixEpoch
import GraphAgent.Transactions
import Mathlib.Data.List.MinMax

/-!
# The execution queue of a thread

The queue table of one rollout database with its constraints and triggers, and
the transactions that publish, claim, start and re-schedule a job.  The order of
the queue is the order of the admission commits.
-/

namespace GraphAgent.Rollout

open KeyedRows

inductive DeliveryPolicy where
  | afterTurn
  | afterToolResult
  | afterInterrupt
  deriving DecidableEq

def DeliveryPolicy.text : DeliveryPolicy → String
  | .afterTurn => "after_turn"
  | .afterToolResult => "after_tool_result"
  | .afterInterrupt => "after_interrupt"

def DeliveryPolicy.ofText? (text : String) : Option DeliveryPolicy :=
  [afterTurn, afterToolResult, afterInterrupt].find? fun policy => policy.text = text

inductive QueuePhase where
  | queued
  | claimed
  | started
  | terminal
  deriving DecidableEq

/-- `phase IN ('claimed', 'started')`. -/
def QueuePhase.isActive : QueuePhase → Bool
  | .claimed | .started => true
  | .queued | .terminal => false

inductive ExecutionOrigin where
  | userTurn
  | internal
  deriving DecidableEq

structure ExecutionAdmission where
  sessionId : String
  threadId : String
  executionId : String
  jobId : String
  admissionIdempotencyKey : String
  executionOrigin : ExecutionOrigin
  turnId : Option String
  deriving DecidableEq

inductive ExecutionBinding where
  | user (jobId turnId admissionIdempotencyKey : String)
  | internal (messageId executionId admissionIdempotencyKey : String)
      (inputReferenceJson : Option String)

def ExecutionBinding.admissionIdempotencyKey : ExecutionBinding → String
  | .user _ _ key => key
  | .internal _ _ key _ => key

structure ExecutionQueueInput where
  executionBinding : ExecutionBinding
  messageId : String
  agentId : String
  providerId : Option String
  deliveryPolicy : DeliveryPolicy
  gatewayId : Option String
  requestId : Option String
  createdAt : String

inductive ExecutionQueueError where
  | valueError (message : String)
  | runtimeError (message : String)
  | keyError (message : String)
  | integrityError (constraint : String)

/-- A row of `executions` with the commit of its admission and, for a user turn,
the ingress it accepted. -/
structure Execution where
  admission : ExecutionAdmission
  commitId : Nat
  acceptedIngressId : Option String
  outcome : String
  updatedAt : String

structure QueueRow where
  checkpointNs : String
  jobId : String
  executionId : String
  admissionCommitId : Nat
  input : ExecutionQueueInput
  inputHash : String
  deliveryPolicy : DeliveryPolicy
  phase : QueuePhase
  claimOwner : Option String
  claimGeneration : Nat
  createdAt : String
  updatedAt : String

namespace QueueRow

/-- `PRIMARY KEY(checkpoint_ns, job_id)`. -/
def key (row : QueueRow) : String × String :=
  (row.checkpointNs, row.jobId)

/-- The `CHECK` constraint of the table. -/
def checked (row : QueueRow) : Bool :=
  match row.phase with
  | .queued => row.claimOwner.isNone && row.claimGeneration = 0
  | .claimed | .started => row.claimOwner.isSome && decide (0 < row.claimGeneration)
  | .terminal => true

def isTerminal (row : QueueRow) : Bool :=
  row.phase = .terminal

end QueueRow

structure TableConstraints (rows : List QueueRow) : Prop where
  checks : ∀ row ∈ rows, row.checked = true
  keys : (rows.map QueueRow.key).Nodup
  commits : (rows.map fun row => (row.checkpointNs, row.admissionCommitId)).Nodup
  executions : (rows.map fun row => (row.checkpointNs, row.executionId)).Nodup
  singleActive :
    ((rows.filter fun row => row.phase.isActive).map QueueRow.checkpointNs).Nodup

instance (rows : List QueueRow) : Decidable (TableConstraints rows) :=
  decidable_of_iff
    ((∀ row ∈ rows, row.checked = true) ∧ (rows.map QueueRow.key).Nodup ∧
      (rows.map fun row => (row.checkpointNs, row.admissionCommitId)).Nodup ∧
        (rows.map fun row => (row.checkpointNs, row.executionId)).Nodup ∧
          ((rows.filter fun row => row.phase.isActive).map QueueRow.checkpointNs).Nodup)
    ⟨fun holds => ⟨holds.1, holds.2.1, holds.2.2.1, holds.2.2.2.1, holds.2.2.2.2⟩,
      fun table => ⟨table.checks, table.keys, table.commits, table.executions,
        table.singleActive⟩⟩

/-- The rows of `execution_queue`; what breaks a constraint cannot be stored. -/
structure ExecutionQueueTable where
  rows : List QueueRow
  constraints : TableConstraints rows

def ExecutionQueueTable.empty : ExecutionQueueTable :=
  ⟨[], by decide⟩

structure ExecutionAdmissionCursor where
  admission : ExecutionAdmission
  commitId : Nat

/-- The projection of a row that the scheduler reads. -/
structure ExecutionQueueRecord where
  cursor : ExecutionAdmissionCursor
  input : ExecutionQueueInput
  deliveryPolicy : DeliveryPolicy
  phase : QueuePhase
  claimOwner : Option String
  claimGeneration : Nat
  updatedAt : String
  outcome : String

namespace ExecutionQueueRecord

/-- `__post_init__`. -/
def validate (record : ExecutionQueueRecord) : Except ExecutionQueueError ExecutionQueueRecord :=
  if record.phase.isActive && (record.claimOwner.all (· = "") || record.claimGeneration = 0) then
    .error (.valueError "活动执行队列缺少 claim owner/generation")
  else if record.phase = .queued && (record.claimOwner.isSome || record.claimGeneration ≠ 0) then
    .error (.valueError "未领取执行不得携带 claim")
  else if decide (record.phase = .terminal) ≠ decide (record.outcome ≠ "unknown") then
    .error (.valueError "执行队列 phase 与 canonical outcome 不一致")
  else
    .ok record

end ExecutionQueueRecord

structure ExecutionQueueSnapshot where
  records : List ExecutionQueueRecord
  revision : Nat

structure RolloutDatabase where
  executions : List Execution
  queue : ExecutionQueueTable
  revision : Nat
  /-- The newest of the `AUTOINCREMENT` commit identifiers. -/
  lastCommitId : Nat
  /-- The executions with a model call or a context assembly. -/
  dispatched : List String

namespace RolloutDatabase

def fresh : RolloutDatabase :=
  ⟨[], .empty, 0, 0, []⟩

def execution (database : RolloutDatabase) (executionId : String) : Option Execution :=
  fetch (fun execution => execution.admission.executionId) database.executions executionId

def queueRow (database : RolloutDatabase) (checkpointNs jobId : String) : Option QueueRow :=
  fetch QueueRow.key database.queue.rows (checkpointNs, jobId)

def storeRows (database : RolloutDatabase) (rows : List QueueRow) (changed : Nat) :
    Except ExecutionQueueError RolloutDatabase :=
  if constraints : TableConstraints rows then
    .ok { database with queue := ⟨rows, constraints⟩, revision := database.revision + changed }
  else
    .error (.integrityError "execution_queue")

def insertRow (database : RolloutDatabase) (row : QueueRow) :
    Except ExecutionQueueError RolloutDatabase :=
  database.storeRows (database.queue.rows ++ [row]) 1

/-- `UPDATE execution_queue SET change WHERE matching`. -/
def updateRows (database : RolloutDatabase) (matching : QueueRow → Bool)
    (change : QueueRow → QueueRow) : Except ExecutionQueueError RolloutDatabase :=
  database.storeRows (updateWhere matching change database.queue.rows)
    (database.queue.rows.filter matching).length

def acceptedIngress (database : RolloutDatabase) (admission : ExecutionAdmission) :
    Option String :=
  (database.execution admission.executionId).bind Execution.acceptedIngressId

def executionAdmissionCursor (database : RolloutDatabase) (admission : ExecutionAdmission) :
    Except ExecutionQueueError Execution :=
  match database.execution admission.executionId with
  | none => .error (.keyError s!"execution 不存在: execution_id={admission.executionId}")
  | some stored =>
    if stored.admission ≠ admission then
      .error (.valueError "准入游标与权威 execution identity 不一致")
    else
      .ok stored

/-- `_validate_execution_queue_input`, with the ingress that the turn accepted. -/
def validateExecutionQueueInput (acceptedIngress : Option String)
    (admission : ExecutionAdmission) (input : ExecutionQueueInput) :
    Except ExecutionQueueError Unit :=
  if input.executionBinding.admissionIdempotencyKey ≠ admission.admissionIdempotencyKey then
    .error (.valueError "队列输入与 admission key 不一致")
  else
    match input.executionBinding with
    | .user jobId turnId _ =>
      if admission.executionOrigin ≠ .userTurn ∨ admission.jobId ≠ jobId ∨
          admission.turnId ≠ some turnId ∨
            acceptedIngress ≠ some input.messageId then
        .error (.valueError "队列输入与 user admission identity 不一致")
      else
        .ok ()
    | .internal _ executionId _ _ =>
      if admission.executionOrigin ≠ .internal ∨ executionId ≠ admission.executionId then
        .error (.valueError "队列输入与 internal admission identity 不一致")
      else
        .ok ()

variable (hashInput : ExecutionQueueInput → String)

/-- The checks of `_execution_queue_record` on a row and its execution. -/
def checkedRecord (row : QueueRow) (execution : Execution) (jobId : String) :
    Except ExecutionQueueError ExecutionQueueRecord :=
  if row.admissionCommitId ≠ execution.commitId ∨ hashInput row.input ≠ row.inputHash then
    .error (.runtimeError s!"执行队列输入与准入游标/hash 不一致: job_id={jobId}")
  else do
    validateExecutionQueueInput execution.acceptedIngressId execution.admission row.input
    if execution.admission.jobId ≠ jobId then
      throw (.runtimeError "执行队列与 admission Job identity 不一致")
    else
      ExecutionQueueRecord.validate
        ⟨⟨execution.admission, execution.commitId⟩, row.input, row.deliveryPolicy, row.phase,
          row.claimOwner, row.claimGeneration, row.updatedAt, execution.outcome⟩

def executionQueueRecord (database : RolloutDatabase) (checkpointNs jobId : String) :
    Except ExecutionQueueError ExecutionQueueRecord :=
  match database.queueRow checkpointNs jobId with
  | none => .error (.keyError s!"执行队列引用不存在: job_id={jobId}")
  | some row =>
    match database.execution row.executionId with
    | none => .error (.keyError s!"execution 不存在: execution_id={row.executionId}")
    | some execution => checkedRecord hashInput row execution jobId

def publishedRow (execution : Execution) (checkpointNs : String) (input : ExecutionQueueInput) :
    QueueRow where
  checkpointNs
  jobId := execution.admission.jobId
  executionId := execution.admission.executionId
  admissionCommitId := execution.commitId
  input
  inputHash := hashInput input
  deliveryPolicy := input.deliveryPolicy
  phase := if execution.outcome = "unknown" then .queued else .terminal
  claimOwner := none
  claimGeneration := 0
  createdAt := input.createdAt
  updatedAt := input.createdAt

def ensurePublished (database : RolloutDatabase) (execution : Execution)
    (input : ExecutionQueueInput) (checkpointNs : String) :
    Except ExecutionQueueError RolloutDatabase :=
  match database.queueRow checkpointNs execution.admission.jobId with
  | some row =>
    if row.inputHash ≠ hashInput input then
      .error (.valueError s!"执行队列输入冲突: job_id={execution.admission.jobId}")
    else
      .ok database
  | none => database.insertRow (publishedRow hashInput execution checkpointNs input)

def publishExecutionQueueInput (database : RolloutDatabase) (admission : ExecutionAdmission)
    (input : ExecutionQueueInput) (checkpointNs : String) :
    Except ExecutionQueueError (ExecutionQueueRecord × RolloutDatabase) := do
  validateExecutionQueueInput (database.acceptedIngress admission) admission input
  let execution ← database.executionAdmissionCursor admission
  let next ← database.ensurePublished hashInput execution input checkpointNs
  let record ← next.executionQueueRecord hashInput checkpointNs admission.jobId
  pure (record, next)

def admitExecution (database : RolloutDatabase) (admission : ExecutionAdmission)
    (acceptedIngressId : Option String) (nowText : String) :
    Except ExecutionQueueError RolloutDatabase :=
  match database.execution admission.executionId with
  | some _ => .error (.integrityError "UNIQUE constraint failed: executions.execution_id")
  | none =>
    .ok { database with
      executions := database.executions ++
        [⟨admission, database.lastCommitId + 1, acceptedIngressId, "unknown", nowText⟩]
      lastCommitId := database.lastCommitId + 1 }

def admitAndPublish (database : RolloutDatabase) (admission : ExecutionAdmission)
    (acceptedIngressId : Option String) (input : ExecutionQueueInput)
    (checkpointNs nowText : String) :
    Except ExecutionQueueError (ExecutionQueueRecord × RolloutDatabase) := do
  let admitted ← database.admitExecution admission acceptedIngressId nowText
  admitted.publishExecutionQueueInput hashInput admission input checkpointNs

def waitingRows (database : RolloutDatabase) (checkpointNs : String) : List QueueRow :=
  database.queue.rows.filter fun row => row.checkpointNs = checkpointNs && !row.isTerminal

/-- `ORDER BY admission_commit_id LIMIT 1`. -/
def queueHead (database : RolloutDatabase) (checkpointNs : String) : Option QueueRow :=
  (database.waitingRows checkpointNs).argmin QueueRow.admissionCommitId

/-- `ORDER BY admission_commit_id`. -/
def orderedRows (database : RolloutDatabase) (checkpointNs : String) : List QueueRow :=
  (database.waitingRows checkpointNs).mergeSort fun first second =>
    first.admissionCommitId ≤ second.admissionCommitId

def executionQueueSnapshot (database : RolloutDatabase) (checkpointNs : String) :
    Except ExecutionQueueError ExecutionQueueSnapshot := do
  let records ← (database.orderedRows checkpointNs).mapM fun row =>
    database.executionQueueRecord hashInput checkpointNs row.jobId
  pure ⟨records, database.revision⟩

def updateOne (database : RolloutDatabase) (matching : QueueRow → Bool)
    (change : QueueRow → QueueRow) (missed : String) :
    Except ExecutionQueueError RolloutDatabase :=
  if (database.queue.rows.filter matching).length ≠ 1 then
    .error (.runtimeError missed)
  else
    database.updateRows matching change

def updateExecutionQueuePolicy (database : RolloutDatabase) (checkpointNs jobId policy : String)
    (expectedRevision : Nat) (nowText : String) :
    Except ExecutionQueueError RolloutDatabase :=
  match DeliveryPolicy.ofText? policy with
  | none => .error (.valueError "执行队列 policy 非法")
  | some policy =>
    if database.revision ≠ expectedRevision then
      .error (.runtimeError "执行队列快照已过期")
    else
      database.updateOne (fun row => row.key = (checkpointNs, jobId) && row.phase = .queued)
        (fun row => { row with deliveryPolicy := policy, updatedAt := nowText })
        "执行队列项已不再等待"

def checkClaim (database : RolloutDatabase) (record : ExecutionQueueRecord)
    (checkpointNs jobId : String) (previousGeneration : Nat) :
    Except ExecutionQueueError Unit :=
  if record.phase = .terminal then
    .error (.runtimeError s!"不能领取终态执行: job_id={jobId}")
  else if record.claimGeneration ≠ previousGeneration then
    .error (.runtimeError s!"执行领取 generation 冲突: job_id={jobId}")
  else if (database.queueHead checkpointNs).map QueueRow.jobId ≠ some jobId then
    .error (.runtimeError s!"只能领取同 Thread 的原始 FIFO 队首: job_id={jobId}")
  else
    .ok ()

def takeClaim (database : RolloutDatabase) (checkpointNs jobId claimOwner : String)
    (previousGeneration : Nat) (nowText : String) :
    Except ExecutionQueueError RolloutDatabase :=
  database.updateRows
    (fun row => row.key = (checkpointNs, jobId) && row.claimGeneration = previousGeneration)
    fun row =>
      { row with
        phase := .claimed
        claimOwner := some claimOwner
        claimGeneration := row.claimGeneration + 1
        updatedAt := nowText }

def claimExecutionQueue (database : RolloutDatabase) (checkpointNs jobId claimOwner : String)
    (previousGeneration : Nat) (nowText : String) :
    Except ExecutionQueueError (ExecutionQueueRecord × RolloutDatabase) :=
  if claimOwner = "" then
    .error (.valueError "claim_owner 必须是非空字符串")
  else do
    let record ← database.executionQueueRecord hashInput checkpointNs jobId
    database.checkClaim record checkpointNs jobId previousGeneration
    let next ← database.takeClaim checkpointNs jobId claimOwner previousGeneration nowText
    let claimed ← next.executionQueueRecord hashInput checkpointNs jobId
    pure (claimed, next)

def startExecutionQueue (database : RolloutDatabase) (checkpointNs jobId claimOwner : String)
    (claimGeneration : Nat) (nowText : String) : Except ExecutionQueueError RolloutDatabase :=
  database.updateOne
    (fun row => row.key = (checkpointNs, jobId) && row.phase.isActive &&
      row.claimOwner = some claimOwner && row.claimGeneration = claimGeneration)
    (fun row => { row with phase := .started, updatedAt := nowText })
    s!"执行启动 claim 已失效: job_id={jobId}"

def executionQueueBeforeDispatch (database : RolloutDatabase) (record : ExecutionQueueRecord) :
    Except ExecutionQueueError Bool := do
  let current ← database.executionQueueRecord hashInput "" record.cursor.admission.jobId
  if current.claimOwner ≠ record.claimOwner ∨
      current.claimGeneration ≠ record.claimGeneration then
    throw (.runtimeError "恢复检查的 execution claim 已失效")
  else
    pure (!database.dispatched.contains record.cursor.admission.executionId)

/-- `UPDATE executions SET outcome`, and the trigger `execution_queue_terminal`. -/
def updateOutcome (database : RolloutDatabase) (executionId outcome nowText : String) :
    Except ExecutionQueueError RolloutDatabase :=
  let settled := { database with
    executions := updateWhere (fun execution => execution.admission.executionId = executionId)
      (fun execution => { execution with outcome, updatedAt := nowText }) database.executions }
  if outcome ≠ "unknown" ∧ (database.execution executionId).isSome then
    settled.updateRows (fun row => row.executionId = executionId && !row.isTerminal)
      fun row => { row with phase := .terminal, updatedAt := nowText }
  else
    .ok settled

end RolloutDatabase

/-- One transaction on the database. -/
inductive QueueCommand where
  | admission (admission : ExecutionAdmission) (acceptedIngressId : Option String)
      (input : ExecutionQueueInput) (checkpointNs nowText : String)
  /-- A retried admission, whose row is there. -/
  | republish (admission : ExecutionAdmission) (input : ExecutionQueueInput)
      (checkpointNs : String)
  | claim (checkpointNs jobId claimOwner : String) (previousGeneration : Nat) (nowText : String)
  | start (checkpointNs jobId claimOwner : String) (claimGeneration : Nat) (nowText : String)
  | updatePolicy (checkpointNs jobId policy : String) (expectedRevision : Nat) (nowText : String)
  | updateOutcome (executionId outcome nowText : String)
  | dispatch (executionId : String)
  | otherCommit

namespace RolloutDatabase

variable (hashInput : ExecutionQueueInput → String)

def committed (database : RolloutDatabase)
    (outcome : Except ExecutionQueueError RolloutDatabase) : RolloutDatabase :=
  match outcome with
  | .error _ => database
  | .ok next => next

def step (database : RolloutDatabase) : QueueCommand → RolloutDatabase
  | .admission admission acceptedIngressId input checkpointNs nowText =>
    database.committed ((database.admitAndPublish hashInput admission acceptedIngressId input
      checkpointNs nowText).map Prod.snd)
  | .republish admission input checkpointNs =>
    if (database.queueRow checkpointNs admission.jobId).isSome then
      database.committed ((database.publishExecutionQueueInput hashInput admission input
        checkpointNs).map Prod.snd)
    else
      database
  | .claim checkpointNs jobId claimOwner previousGeneration nowText =>
    database.committed ((database.claimExecutionQueue hashInput checkpointNs jobId claimOwner
      previousGeneration nowText).map Prod.snd)
  | .start checkpointNs jobId claimOwner claimGeneration nowText =>
    database.committed
      (database.startExecutionQueue checkpointNs jobId claimOwner claimGeneration nowText)
  | .updatePolicy checkpointNs jobId policy expectedRevision nowText =>
    database.committed
      (database.updateExecutionQueuePolicy checkpointNs jobId policy expectedRevision nowText)
  | .updateOutcome executionId outcome nowText =>
    database.committed (database.updateOutcome executionId outcome nowText)
  | .dispatch executionId =>
    { database with dispatched := executionId :: database.dispatched }
  | .otherCommit => { database with lastCommitId := database.lastCommitId + 1 }

def run (database : RolloutDatabase) (commands : List QueueCommand) : RolloutDatabase :=
  commands.foldl (step hashInput) database

end RolloutDatabase

end GraphAgent.Rollout
