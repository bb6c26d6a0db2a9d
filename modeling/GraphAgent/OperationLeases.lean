import GraphAgent.KeyedRows
import GraphAgent.PrefixEpoch
import GraphAgent.Transactions

/-!
# Operation leases

The leases of one session's control database and the lifecycle fence they are
admitted under.  A lease row is found by its identifier, changed only by a
compare-and-set on its fencing token, and inserted at most once for each fence
generation and operation identity.
-/

namespace GraphAgent.SessionControl

open KeyedRows Epoch

inductive FenceState where
  | active
  | deleting
  deriving DecidableEq

namespace FenceState

def text : FenceState → String
  | .active => "active"
  | .deleting => "deleting"

def ofText? (text : String) : Option FenceState :=
  [active, deleting].find? fun state => state.text = text

end FenceState

/-- The single row of `lifecycle_fence`. -/
structure LifecycleFence where
  state : FenceState
  generation : Nat
  deriving DecidableEq

inductive LeaseKind where
  | threadCreation
  | boardMigration
  | collaborationFanout
  | runtimeOwner
  | execution
  | contextControl
  | communicationSource
  | communicationTarget
  | federatedCall
  | remoteObservation
  | attachment
  | forkRetention
  | sessionCatalogMutation
  deriving DecidableEq

namespace LeaseKind

def text : LeaseKind → String
  | .threadCreation => "thread_creation"
  | .boardMigration => "board_migration"
  | .collaborationFanout => "collaboration_fanout"
  | .runtimeOwner => "runtime_owner"
  | .execution => "execution"
  | .contextControl => "context_control"
  | .communicationSource => "communication_source"
  | .communicationTarget => "communication_target"
  | .federatedCall => "federated_call"
  | .remoteObservation => "remote_observation"
  | .attachment => "attachment"
  | .forkRetention => "fork_retention"
  | .sessionCatalogMutation => "session_catalog_mutation"

/-- `SESSION_OPERATION_LEASE_KINDS`. -/
def all : List LeaseKind :=
  [.threadCreation, .boardMigration, .collaborationFanout, .runtimeOwner, .execution,
    .contextControl, .communicationSource, .communicationTarget, .federatedCall,
    .remoteObservation, .attachment, .forkRetention, .sessionCatalogMutation]

def ofText? (text : String) : Option LeaseKind :=
  all.find? fun kind => kind.text = text

end LeaseKind

inductive LeaseState where
  | active
  | settling
  | completed
  | cancelled
  | failed
  deriving DecidableEq

namespace LeaseState

def text : LeaseState → String
  | .active => "active"
  | .settling => "settling"
  | .completed => "completed"
  | .cancelled => "cancelled"
  | .failed => "failed"

def isTerminal : LeaseState → Bool
  | .active | .settling => false
  | .completed | .cancelled | .failed => true

/-- `SESSION_OPERATION_LEASE_TERMINAL_STATES`. -/
def terminalStates : List LeaseState :=
  [.completed, .cancelled, .failed]

def terminal? (text : String) : Option LeaseState :=
  terminalStates.find? fun state => state.text = text

end LeaseState

structure SessionOperationLease where
  leaseId : String
  operationKind : LeaseKind
  operationIdentity : String
  preimageHash : String
  capturedLifecycleGeneration : Nat
  holderGeneration : Nat
  fencingToken : Nat
  state : LeaseState
  revision : Nat
  recoveryRef : Option String
  createdAt : String
  updatedAt : String
  deriving DecidableEq

structure SettlementProof where
  operationKind : LeaseKind
  operationIdentity : String
  preimageHash : String
  capturedLifecycleGeneration : Nat
  holderGeneration : Nat
  fencingToken : Nat
  recoveryRef : Option String
  createdAt : String
  deriving DecidableEq

def SessionOperationLease.settlementProof (lease : SessionOperationLease) : SettlementProof :=
  ⟨lease.operationKind, lease.operationIdentity, lease.preimageHash,
    lease.capturedLifecycleGeneration, lease.holderGeneration, lease.fencingToken,
    lease.recoveryRef, lease.createdAt⟩

inductive LeaseError where
  | keyError (message : String)
  | runtimeError (message : String)
  | valueError (message : String)
  | integrityError (constraint : String)
  deriving DecidableEq

structure ControlDatabase where
  databasePath : String
  fence : Option LifecycleFence
  leases : List SessionOperationLease

/-- The keyword arguments of `create_or_get_lease`. -/
structure LeaseRequest where
  operationKind : String
  operationIdentity : String
  preimageHash : String
  expectedGeneration : Option Nat
  recoveryRef : Option String

/-- `repr` of a tuple of strings. -/
def pyTuple (texts : List String) : String :=
  "(" ++ ", ".intercalate (texts.map pyRepr) ++ ")"

namespace LeaseRequest

def validate (request : LeaseRequest) : Except LeaseError LeaseKind :=
  match LeaseKind.ofText? request.operationKind with
  | none =>
    .error (.valueError (s!"operation_kind 非法: {pyRepr request.operationKind}" ++
      s!"（闭集 {pyTuple (LeaseKind.all.map LeaseKind.text)}）"))
  | some kind =>
    if request.operationIdentity = "" then
      .error (.valueError
        s!"operation_identity 必须是非空字符串: {pyRepr request.operationIdentity}")
    else if isHexDigest request.preimageHash.toList = false then
      .error (.valueError
        s!"preimage_hash 必须是 sha256 小写 hex: {pyRepr request.preimageHash}")
    else if request.recoveryRef = some "" then
      .error (.valueError "recovery_ref 必须是非空字符串或 None: ''")
    else
      .ok kind

end LeaseRequest

namespace ControlDatabase

def readFenceRow (database : ControlDatabase) : Except LeaseError LifecycleFence :=
  match database.fence with
  | none =>
    .error (.keyError s!"session control 缺少 lifecycle fence row: path={database.databasePath}")
  | some fence => .ok fence

/-- Create-or-get of the single fence row. -/
def initializeFence (database : ControlDatabase) (state : String) (generation : Nat) :
    Except LeaseError ControlDatabase :=
  match FenceState.ofText? state with
  | none => .error (.valueError s!"fence 状态非法: {pyRepr state}")
  | some state =>
    match database.fence with
    | none => .ok { database with fence := some ⟨state, generation⟩ }
    | some fence =>
      if fence = ⟨state, generation⟩ then
        .ok database
      else
        .error (.runtimeError
          ("fence 已存在且与初始化参数不一致（拒绝覆盖，fail closed）: " ++
            s!"path={database.databasePath}, existing_state={pyRepr fence.state.text}, " ++
            s!"existing_generation={fence.generation}, " ++
            s!"requested_state={pyRepr state.text}, requested_generation={generation}"))

def casFenceTransition (database : ControlDatabase) (expectedGeneration : Nat)
    (newState : String) : Except LeaseError (Bool × ControlDatabase) :=
  match FenceState.ofText? newState with
  | none => .error (.valueError s!"fence 目标状态非法: {pyRepr newState}")
  | some newState => do
      let fence ← database.readFenceRow
      if fence.state = .active ∧ newState = .deleting ∧ fence.generation = expectedGeneration then
        pure (true, { database with fence := some ⟨newState, fence.generation + 1⟩ })
      else
        pure (false, database)

/-- `SELECT … WHERE captured_lifecycle_generation = ? AND operation_identity = ?`. -/
def leaseOfOperation (database : ControlDatabase) (generation : Nat) (identity : String) :
    Option SessionOperationLease :=
  database.leases.find? fun lease =>
    lease.capturedLifecycleGeneration = generation && lease.operationIdentity = identity

def leaseRow (database : ControlDatabase) (leaseId : String) : Option SessionOperationLease :=
  fetch SessionOperationLease.leaseId database.leases leaseId

def leaseRowOrRaise (database : ControlDatabase) (leaseId : String) :
    Except LeaseError SessionOperationLease :=
  match database.leaseRow leaseId with
  | none =>
    .error (.keyError
      s!"operation lease 不存在: lease_id={pyRepr leaseId}, path={database.databasePath}")
  | some lease => .ok lease

def freshLease (request : LeaseRequest) (kind : LeaseKind) (generation : Nat)
    (leaseId nowText : String) : SessionOperationLease where
  leaseId
  operationKind := kind
  operationIdentity := request.operationIdentity
  preimageHash := request.preimageHash
  capturedLifecycleGeneration := generation
  holderGeneration := 1
  fencingToken := 1
  state := .active
  revision := 1
  recoveryRef := request.recoveryRef
  createdAt := nowText
  updatedAt := nowText

def insertLease (database : ControlDatabase) (lease : SessionOperationLease) :
    Except LeaseError (SessionOperationLease × ControlDatabase) :=
  match database.leaseRow lease.leaseId with
  | some _ => .error (.integrityError "UNIQUE constraint failed: session_operation_leases.lease_id")
  | none => .ok (lease, { database with leases := database.leases ++ [lease] })

/-- The body of the transaction of `create_or_get_lease`. -/
def admitLease (database : ControlDatabase) (request : LeaseRequest) (kind : LeaseKind)
    (leaseId nowText : String) (fence : LifecycleFence) :
    Except LeaseError (SessionOperationLease × ControlDatabase) :=
  if fence.state ≠ .active then
    .error (.runtimeError ("fence 非 active，拒绝建立新 operation lease（新准入立即失败）: " ++
      s!"path={database.databasePath}, fence_state={fence.state.text}, " ++
      s!"fence_generation={fence.generation}, operation_kind={pyRepr request.operationKind}, " ++
      s!"operation_identity={pyRepr request.operationIdentity}"))
  else if request.expectedGeneration.any (fun expected => expected ≠ fence.generation) then
    .error (.valueError ("expected_generation 与当前 fence generation 不一致: " ++
      s!"expected={request.expectedGeneration.getD 0}, actual={fence.generation}"))
  else
    match database.leaseOfOperation fence.generation request.operationIdentity with
    | some lease =>
      if lease.preimageHash ≠ request.preimageHash then
        .error (.runtimeError ("同 operation identity 的 preimage 冲突（fail closed）: " ++
          s!"lease_id={lease.leaseId}, " ++
          s!"operation_identity={pyRepr request.operationIdentity}"))
      else
        .ok (lease, database)
    | none => database.insertLease (freshLease request kind fence.generation leaseId nowText)

def createOrGetLease (database : ControlDatabase) (request : LeaseRequest)
    (leaseId nowText : String) : Except LeaseError (SessionOperationLease × ControlDatabase) := do
  let kind ← request.validate
  let fence ← database.readFenceRow
  database.admitLease request kind leaseId nowText fence

/-- `WHERE lease_id = ? AND allowed`. -/
def named (leaseId : String) (allowed : SessionOperationLease → Bool) :
    SessionOperationLease → Bool :=
  fun lease => lease.leaseId = leaseId && allowed lease

def rewriteLeases (database : ControlDatabase) (matching : SessionOperationLease → Bool)
    (change : SessionOperationLease → SessionOperationLease) : ControlDatabase :=
  { database with leases := updateWhere matching change database.leases }

def compareAndSet (database : ControlDatabase) (leaseId : String)
    (allowed : SessionOperationLease → Bool)
    (change : SessionOperationLease → SessionOperationLease)
    (conflict : SessionOperationLease → String) :
    Except LeaseError (SessionOperationLease × ControlDatabase) :=
  if (database.leases.filter (named leaseId allowed)).length = 1 then do
    let lease ← (database.rewriteLeases (named leaseId allowed) change).leaseRowOrRaise leaseId
    pure (lease, database.rewriteLeases (named leaseId allowed) change)
  else do
    let lease ← database.leaseRowOrRaise leaseId
    throw (.runtimeError (conflict lease))

def describe (lease : SessionOperationLease) (expectedToken : Nat) : String :=
  s!"lease_id={lease.leaseId}, state={lease.state.text}, " ++
    s!"fencing_token={lease.fencingToken}, expected_token={expectedToken}"

def markLeaseSettling (database : ControlDatabase) (leaseId : String)
    (expectedFencingToken : Nat) (nowText : String) :
    Except LeaseError (SessionOperationLease × ControlDatabase) :=
  database.compareAndSet leaseId
    (fun lease => lease.state = .active && lease.fencingToken = expectedFencingToken)
    (fun lease =>
      { lease with state := .settling, revision := lease.revision + 1, updatedAt := nowText })
    fun lease =>
      "lease settling CAS 失败（token 不符或状态非 active）: " ++ describe lease expectedFencingToken

def settleLease (database : ControlDatabase) (leaseId : String) (expectedFencingToken : Nat)
    (outcome nowText : String) : Except LeaseError (SessionOperationLease × ControlDatabase) :=
  match LeaseState.terminal? outcome with
  | none =>
    .error (.valueError (s!"lease 终态非法: {pyRepr outcome}" ++
      s!"（闭集 {pyTuple (LeaseState.terminalStates.map LeaseState.text)}）"))
  | some final =>
    database.compareAndSet leaseId
      (fun lease => lease.state = .settling && lease.fencingToken = expectedFencingToken)
      (fun lease =>
        { lease with state := final, revision := lease.revision + 1, updatedAt := nowText })
      fun lease =>
        "lease settle CAS 失败（token 不符或状态非 settling）: " ++
          describe lease expectedFencingToken ++ s!", outcome={pyRepr outcome}"

def takeoverLease (database : ControlDatabase) (leaseId : String)
    (expectedFencingToken : Nat) (nowText : String) :
    Except LeaseError (SessionOperationLease × ControlDatabase) :=
  database.compareAndSet leaseId
    (fun lease => lease.fencingToken = expectedFencingToken && !lease.state.isTerminal)
    (fun lease =>
      { lease with
        state := .active
        fencingToken := lease.fencingToken + 1
        holderGeneration := lease.holderGeneration + 1
        revision := lease.revision + 1
        updatedAt := nowText })
    fun lease =>
      "lease takeover CAS 失败（token 不符或已终态）: " ++ describe lease expectedFencingToken

def verifyLeaseToken (database : ControlDatabase) (leaseId : String) (fencingToken : Nat) : Bool :=
  match database.leaseRow leaseId with
  | none => false
  | some lease => !lease.state.isTerminal && lease.fencingToken = fencingToken

def assertLeaseCurrent (database : ControlDatabase) (lease : SessionOperationLease) :
    Except LeaseError SessionOperationLease := do
  let current ← database.leaseRowOrRaise lease.leaseId
  if current.settlementProof ≠ lease.settlementProof ∨
      (current.state ≠ .settling ∧ current.state ≠ .completed) then
    throw (.runtimeError ("原 operation lease 结算证明已失效: " ++
      s!"lease_id={lease.leaseId}, operation_identity={pyRepr lease.operationIdentity}, " ++
      s!"expected_token={lease.fencingToken}, current_token={current.fencingToken}, " ++
      s!"current_state={current.state.text}"))
  else
    pure current

/-- `SELECT … WHERE state IN ('active', 'settling')`, the leases a drain settles. -/
def listNonTerminalLeases (database : ControlDatabase) : List SessionOperationLease :=
  database.leases.filter fun lease => !lease.state.isTerminal

end ControlDatabase

/-- One committed call on the control database, by whichever holder. -/
inductive LeaseCommand where
  | initializeFence (state : String) (generation : Nat)
  | casFence (expectedGeneration : Nat) (newState : String)
  | createOrGet (request : LeaseRequest) (leaseId nowText : String)
  | markSettling (leaseId : String) (expectedFencingToken : Nat) (nowText : String)
  | settle (leaseId : String) (expectedFencingToken : Nat) (outcome nowText : String)
  | takeover (leaseId : String) (expectedFencingToken : Nat) (nowText : String)
  | verify (leaseId : String) (fencingToken : Nat)
  | assertCurrent (lease : SessionOperationLease)

namespace ControlDatabase

/-- A call that raises is rolled back. -/
def committed {Result : Type} (database : ControlDatabase)
    (outcome : Except LeaseError (Result × ControlDatabase)) : ControlDatabase :=
  match outcome with
  | .error _ => database
  | .ok (_, next) => next

def step (database : ControlDatabase) : LeaseCommand → ControlDatabase
  | .initializeFence state generation =>
    database.committed ((database.initializeFence state generation).map fun next => ((), next))
  | .casFence expectedGeneration newState =>
    database.committed (database.casFenceTransition expectedGeneration newState)
  | .createOrGet request leaseId nowText =>
    database.committed (database.createOrGetLease request leaseId nowText)
  | .markSettling leaseId expectedFencingToken nowText =>
    database.committed (database.markLeaseSettling leaseId expectedFencingToken nowText)
  | .settle leaseId expectedFencingToken outcome nowText =>
    database.committed (database.settleLease leaseId expectedFencingToken outcome nowText)
  | .takeover leaseId expectedFencingToken nowText =>
    database.committed (database.takeoverLease leaseId expectedFencingToken nowText)
  | .verify _ _ | .assertCurrent _ => database

def run (database : ControlDatabase) (commands : List LeaseCommand) : ControlDatabase :=
  commands.foldl step database

def fresh (databasePath : String) : ControlDatabase :=
  ⟨databasePath, none, []⟩

@[simp]
theorem committed_ok {Result : Type} (database next : ControlDatabase) (result : Result) :
    database.committed (.ok (result, next)) = next :=
  rfl

end ControlDatabase

end GraphAgent.SessionControl
