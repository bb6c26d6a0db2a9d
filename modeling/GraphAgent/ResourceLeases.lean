import GraphAgent.Dictionaries
import GraphAgent.DurablePrograms

/-!
# The ledger of external resources

`external_resource_leases.py`: the records of the resources and the leases of the
operations on them, kept in memory and in a state file that every commit writes
whole.  A write can fail at each of its steps; the file is replaced in the last one
and the memory only after it.
-/

namespace GraphAgent.ResourceLedger

open Durable

inductive LeaseStatus where
  | active
  | released
  | settled
  | reconcileRequired
  deriving DecidableEq

/-- `_UNSETTLED_LEASE_STATUSES`. -/
def LeaseStatus.isUnsettled : LeaseStatus → Bool
  | .active | .reconcileRequired => true
  | .released | .settled => false

inductive ResourceStatus where
  | running
  | recovered
  | stopped
  | unknown
  | orphaned
  deriving DecidableEq

namespace ResourceStatus

def text : ResourceStatus → String
  | .running => "running"
  | .recovered => "recovered"
  | .stopped => "stopped"
  | .unknown => "unknown"
  | .orphaned => "orphaned"

/-- The states that an owner reports to `update_external_state`. -/
def reported? (text : String) : Option ResourceStatus :=
  [running, stopped, unknown, orphaned].find? fun status => status.text = text

end ResourceStatus

inductive LifetimeScope where
  | turn
  | thread
  | session
  | workspace
  | everywhere
  deriving DecidableEq

namespace LifetimeScope

def text : LifetimeScope → String
  | .turn => "turn"
  | .thread => "thread"
  | .session => "session"
  | .workspace => "workspace"
  | .everywhere => "global"

def ofText? (text : String) : Option LifetimeScope :=
  [turn, thread, session, workspace, everywhere].find? fun scope => scope.text = text

/-- The scopes that `update_external_state` takes. -/
def retained? (text : String) : Option LifetimeScope :=
  [thread, workspace].find? fun scope => scope.text = text

end LifetimeScope

structure ResourceRecord where
  resourceId : String
  kind : String
  lifetimeScope : LifetimeScope
  createdByTurnId : Option String
  status : ResourceStatus
  updatedAt : String

structure ResourceLease where
  leaseId : String
  resourceId : String
  turnStreamId : String
  operationId : String
  status : LeaseStatus
  updatedAt : String
  holderSessionId : Option String
  holderThreadId : Option String
  deriving DecidableEq

/-- What the process keeps. -/
structure Ledger where
  records : Dictionary String ResourceRecord
  leases : Dictionary String ResourceLease

/-- The rows of the state file. -/
structure Snapshot where
  records : List ResourceRecord
  leases : List ResourceLease

def keyedRecords (records : List ResourceRecord) : Dictionary String ResourceRecord :=
  Dictionary.ofList (records.map fun record => (record.resourceId, record))

def keyedLeases (leases : List ResourceLease) : Dictionary String ResourceLease :=
  Dictionary.ofList (leases.map fun lease => (lease.leaseId, lease))

def Ledger.snapshot (ledger : Ledger) : Snapshot :=
  ⟨ledger.records.entries.map Prod.snd, ledger.leases.entries.map Prod.snd⟩

/-- The ledger with rows put over those of their identifiers. -/
def Ledger.updated (ledger : Ledger) (records : List ResourceRecord)
    (leases : List ResourceLease) : Ledger :=
  ⟨ledger.records.merge (keyedRecords records), ledger.leases.merge (keyedLeases leases)⟩

def load : Option Snapshot → Ledger
  | none => ⟨.empty, .empty⟩
  | some snapshot => ⟨keyedRecords snapshot.records, keyedLeases snapshot.leases⟩

inductive WriteStep where
  | directory
  | opening
  | dumping
  | syncing
  | replacing
  deriving DecidableEq

inductive TempFile where
  | absent
  | partly
  | complete (snapshot : Snapshot)

/-- The memory of the process and the files of the state path. -/
structure Store where
  memory : Ledger
  file : Option Snapshot
  temp : TempFile

/-- A ledger whose state file was never written. -/
def Store.fresh : Store :=
  ⟨load none, none, .absent⟩

inductive LedgerError where
  | missingIdentity
  | unknownScope (scope : String)
  | kindConflict (resourceId existing incoming : String)
  | unsupportedKind (kind : String)
  | missingResource (resourceId : String)
  | unavailable (resourceId : String) (status : ResourceStatus)
  | missingLeaseKeys
  | leaseConflict (leaseId : String)
  | missingLease (leaseId : String)
  | unretainedScope (scope : String)
  | unreportedStatus (status : String)
  | foreignLease (leaseId : String)
  | writeFailed (step : WriteStep)
  deriving DecidableEq

/-- `_commit`: the file first, then the memory; `fault` is the step that fails. -/
def commit (fault : Option WriteStep) (records : List ResourceRecord)
    (leases : List ResourceLease) : Durable LedgerError Store Unit := fun store =>
  let next := store.memory.updated records leases
  match fault with
  | none => (.ok (), ⟨next, some next.snapshot, .absent⟩)
  | some .directory => (.error (.writeFailed .directory), store)
  | some .opening => (.error (.writeFailed .opening), store)
  | some .dumping => (.error (.writeFailed .dumping), { store with temp := .partly })
  | some .syncing =>
    (.error (.writeFailed .syncing), { store with temp := .complete next.snapshot })
  | some .replacing =>
    (.error (.writeFailed .replacing), { store with temp := .complete next.snapshot })

/-- What `_now` reads when a row of an identifier is written. -/
structure Times where
  record : String → String
  lease : String → String

def Ledger.requireRecord (ledger : Ledger) (resourceId : String) :
    Except LedgerError ResourceRecord :=
  match ledger.records.lookup resourceId with
  | none => .error (.missingResource resourceId)
  | some record => .ok record

def Ledger.requireLease (ledger : Ledger) (leaseId : String) :
    Except LedgerError ResourceLease :=
  match ledger.leases.lookup leaseId with
  | none => .error (.missingLease leaseId)
  | some lease => .ok lease

section Operations

variable (times : Times) (fault : Option WriteStep)

/-- The record that `register` writes. -/
def Ledger.registered (ledger : Ledger) (resourceId kind : String) (scope : LifetimeScope)
    (createdByTurnId : Option String) : Except LedgerError ResourceRecord :=
  match ledger.records.lookup resourceId with
  | none => .ok ⟨resourceId, kind, scope, createdByTurnId, .running, times.record resourceId⟩
  | some record =>
    if record.kind ≠ kind then .error (.kindConflict resourceId record.kind kind)
    else .ok { record with updatedAt := times.record resourceId }

def register (resourceId kind lifetimeScope : String) (createdByTurnId : Option String) :
    Durable LedgerError Store ResourceRecord :=
  if resourceId = "" ∨ kind = "" then raise .missingIdentity
  else
    match LifetimeScope.ofText? lifetimeScope with
    | none => raise (.unknownScope lifetimeScope)
    | some scope => do
        let record ← check fun store =>
          store.memory.registered times resourceId kind scope createdByTurnId
        commit fault [record] []
        return record

def externalResourceKinds : List String :=
  ["terminal", "browser_context", "mcp_connection", "development_server", "node_debug_process"]

def registerExternal (resourceId kind lifetimeScope : String)
    (createdByTurnId : Option String) : Durable LedgerError Store ResourceRecord :=
  if kind ∉ externalResourceKinds then raise (.unsupportedKind kind)
  else register times fault resourceId kind lifetimeScope createdByTurnId

/-- The arguments of `acquire`. -/
structure AcquireRequest where
  resourceId : String
  turnStreamId : String
  leaseId : String
  operationId : String
  holderSessionId : Option String
  holderThreadId : Option String
  allowStopped : Bool
  allowUnverified : Bool

namespace AcquireRequest

def allowedStatuses (request : AcquireRequest) : List ResourceStatus :=
  [.running, .recovered] ++ (if request.allowStopped then [.stopped] else []) ++
    (if request.allowUnverified then [.unknown, .orphaned] else [])

def Names (request : AcquireRequest) (lease : ResourceLease) : Prop :=
  lease.resourceId = request.resourceId ∧ lease.turnStreamId = request.turnStreamId ∧
    lease.operationId = request.operationId ∧
    lease.holderSessionId = request.holderSessionId ∧
    lease.holderThreadId = request.holderThreadId

instance (request : AcquireRequest) (lease : ResourceLease) : Decidable (request.Names lease) :=
  inferInstanceAs (Decidable (_ ∧ _ ∧ _ ∧ _ ∧ _))

def lease (request : AcquireRequest) (now : String) : ResourceLease :=
  ⟨request.leaseId, request.resourceId, request.turnStreamId, request.operationId, .active, now,
    request.holderSessionId, request.holderThreadId⟩

end AcquireRequest

/-- The checks of `acquire`, and the lease that is there already. -/
def Ledger.admitted (ledger : Ledger) (request : AcquireRequest) :
    Except LedgerError (Option ResourceLease) := do
  let record ← ledger.requireRecord request.resourceId
  if record.status ∉ request.allowedStatuses then
    .error (.unavailable request.resourceId record.status)
  else if request.turnStreamId = "" ∨ request.leaseId = "" ∨ request.operationId = "" then
    .error .missingLeaseKeys
  else
    match ledger.leases.lookup request.leaseId with
    | none => .ok none
    | some existing =>
      if request.Names existing then .ok (some existing)
      else .error (.leaseConflict request.leaseId)

def acquire (request : AcquireRequest) : Durable LedgerError Store ResourceLease := do
  match ← check fun store => store.memory.admitted request with
  | some existing => return existing
  | none => do
      let lease := request.lease (times.lease request.leaseId)
      commit fault [] [lease]
      return lease

/-- `acquire_operation`; `request.leaseId` is empty where the caller gives none. -/
def acquireOperation (request : AcquireRequest) : Durable LedgerError Store ResourceLease :=
  acquire times fault
    { request with
      leaseId :=
        if request.leaseId = "" then
          s!"{request.turnStreamId}:{request.operationId}:{request.resourceId}"
        else request.leaseId }

def ResourceLease.withStatus (lease : ResourceLease) (status : LeaseStatus) (now : String) :
    ResourceLease :=
  { lease with status := status, updatedAt := now }

def release (leaseId : String) : Durable LedgerError Store ResourceLease := do
  let lease ← check fun store => store.memory.requireLease leaseId
  let lease := lease.withStatus .released (times.lease leaseId)
  commit fault [] [lease]
  return lease

inductive NoticeState where
  | released
  | unavailable
  | unknown

/-- A `resource.state` event, published after the commit. -/
structure Notice where
  resourceId : String
  state : NoticeState

def settle (leaseId : String) : Durable LedgerError Store (ResourceLease × Notice) := do
  let lease ← check fun store => store.memory.requireLease leaseId
  let lease := lease.withStatus .settled (times.lease leaseId)
  commit fault [] [lease]
  return (lease, ⟨lease.resourceId, .released⟩)

/-- The leases that `release_turn_leases` writes. -/
def Ledger.turnReleases (ledger : Ledger) (turnStreamId : String) : List ResourceLease :=
  ((ledger.leases.entries.map Prod.snd).filter fun lease =>
    lease.turnStreamId = turnStreamId ∧ lease.status = .active).map fun lease =>
      lease.withStatus .released (times.lease lease.leaseId)

def releaseTurnLeases (turnStreamId : String) :
    Durable LedgerError Store (List ResourceLease) := do
  let released ← read fun store => store.memory.turnReleases times turnStreamId
  if released = [] then return []
  else do
    commit fault [] released
    return released

def observedStatus : Option String → ResourceStatus
  | none => .orphaned
  | some observed =>
    if observed = "running" then .recovered
    else if observed = "stopped" then .stopped
    else .unknown

def Ledger.reconciledRecords (ledger : Ledger) (observed : Dictionary String String)
    (kind : Option String) : List ResourceRecord :=
  ((ledger.records.entries.map Prod.snd).filter fun record =>
    kind.all fun kind => record.kind = kind).map fun record =>
      { record with
        status := observedStatus (observed.lookup record.resourceId)
        updatedAt := times.record record.resourceId }

/-- The loop over the leases of `reconcile`. -/
def Ledger.reconciledLeases (ledger : Ledger) (kind : Option String) :
    List ResourceLease → Except LedgerError (List ResourceLease)
  | [] => .ok []
  | lease :: rest => do
      let record ← ledger.requireRecord lease.resourceId
      let others ← ledger.reconciledLeases kind rest
      if lease.status = .active ∧ kind.all fun kind => record.kind = kind then
        .ok (lease.withStatus .reconcileRequired (times.lease lease.leaseId) :: others)
      else .ok others

def noticeOf (record : ResourceRecord) : Notice :=
  ⟨record.resourceId,
    match record.status with
    | .stopped => .released
    | .orphaned => .unavailable
    | _ => .unknown⟩

def reconcile (observed : Dictionary String String) (kind : Option String) :
    Durable LedgerError Store (List ResourceRecord × List Notice) := do
  let reconciled ← read fun store => store.memory.reconciledRecords times observed kind
  let changedLeases ← check fun store =>
    store.memory.reconciledLeases times kind (store.memory.leases.entries.map Prod.snd)
  commit fault reconciled changedLeases
  return (reconciled, reconciled.map noticeOf)

/-- The lease that `update_external_state` names, which must be of the resource. -/
def Ledger.unresolvedLease (ledger : Ledger) (resourceId : String) :
    Option String → Except LedgerError (Option ResourceLease)
  | none => .ok none
  | some leaseId =>
    match ledger.leases.lookup leaseId with
    | none => .error (.foreignLease leaseId)
    | some lease =>
      if lease.resourceId ≠ resourceId then .error (.foreignLease leaseId)
      else .ok (some lease)

def updateExternalState (resourceId lifetimeScope status : String)
    (unresolvedLeaseId : Option String) : Durable LedgerError Store Unit :=
  match LifetimeScope.retained? lifetimeScope, ResourceStatus.reported? status with
  | none, _ => raise (.unretainedScope lifetimeScope)
  | some _, none => raise (.unreportedStatus status)
  | some scope, some status => do
      let record ← check fun store => store.memory.requireRecord resourceId
      let lease ← check fun store =>
        store.memory.unresolvedLease resourceId unresolvedLeaseId
      let pending := lease.filter fun lease => lease.status = .active
      if record.lifetimeScope = scope ∧ record.status = status ∧ pending = none then
        return ()
      else
        let now := times.record resourceId
        commit fault [{ record with lifetimeScope := scope, status := status, updatedAt := now }]
          (pending.toList.map fun lease => lease.withStatus .reconcileRequired now)

end Operations

def Ledger.leasesForResource (ledger : Ledger) (resourceId : String) :
    Except LedgerError (List ResourceLease) := do
  let _ ← ledger.requireRecord resourceId
  .ok ((ledger.leases.entries.map Prod.snd).filter fun lease =>
    lease.resourceId = resourceId ∧ lease.status.isUnsettled)

inductive Operation where
  | register (resourceId kind lifetimeScope : String) (createdByTurnId : Option String)
  | registerExternal (resourceId kind lifetimeScope : String) (createdByTurnId : Option String)
  | acquire (request : AcquireRequest)
  | acquireOperation (request : AcquireRequest)
  | release (leaseId : String)
  | settle (leaseId : String)
  | releaseTurnLeases (turnStreamId : String)
  | reconcile (observed : Dictionary String String) (kind : Option String)
  | updateExternalState (resourceId lifetimeScope status : String)
      (unresolvedLeaseId : Option String)

/-- What a call returns. -/
inductive Answer where
  | record (record : ResourceRecord)
  | lease (lease : ResourceLease)
  | settled (lease : ResourceLease) (notice : Notice)
  | leases (leases : List ResourceLease)
  | reconciled (records : List ResourceRecord) (notices : List Notice)
  | nothing

def perform (times : Times) (fault : Option WriteStep) :
    Operation → Durable LedgerError Store Answer
  | .register resourceId kind lifetimeScope createdByTurnId => do
      return .record (← register times fault resourceId kind lifetimeScope createdByTurnId)
  | .registerExternal resourceId kind lifetimeScope createdByTurnId => do
      return .record (← registerExternal times fault resourceId kind lifetimeScope
        createdByTurnId)
  | .acquire request => do return .lease (← acquire times fault request)
  | .acquireOperation request => do return .lease (← acquireOperation times fault request)
  | .release leaseId => do return .lease (← release times fault leaseId)
  | .settle leaseId => do
      let (lease, notice) ← settle times fault leaseId
      return .settled lease notice
  | .releaseTurnLeases turnStreamId => do
      return .leases (← releaseTurnLeases times fault turnStreamId)
  | .reconcile observed kind => do
      let (records, notices) ← reconcile times fault observed kind
      return .reconciled records notices
  | .updateExternalState resourceId lifetimeScope status unresolvedLeaseId => do
      updateExternalState times fault resourceId lifetimeScope status unresolvedLeaseId
      return .nothing

inductive Event where
  | call (operation : Operation) (times : Times) (fault : Option WriteStep)
  | restart

def Store.after (store : Store) : Event → Store
  | .call operation times fault => (perform times fault operation store).2
  | .restart => { store with memory := load store.file }

def Store.run (store : Store) (events : List Event) : Store :=
  events.foldl Store.after store

def Reached (store : Store) : Prop :=
  ∃ events, store = Store.fresh.run events

end GraphAgent.ResourceLedger
