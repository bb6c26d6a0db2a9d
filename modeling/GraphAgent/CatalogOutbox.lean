import GraphAgent.NavigationQueueStore
import GraphAgent.Transactions

/-!
# The catalog outbox of the client

`state/session/sessionCatalogOutbox.ts`: pending commands of the session
catalog, their states, and the batch that is sent next.  An outbox function
either returns the next outbox or throws and leaves it as it was.
-/

namespace GraphAgent.Outbox

open Navigation

inductive OperationKind where
  | createFolder
  | renameNode
  | moveNode
  | deleteFolder
  | deleteSession
  deriving DecidableEq

/-- `CatalogOutboxOperationState`: the local states, and those the server reports. -/
inductive OperationState where
  | pendingLocal
  | persisted
  | accepted
  | unknown
  | reported (state : NavigationMutationState)
  deriving DecidableEq

inductive Settlement where
  | pending
  | repairRequired
  | settled
  deriving DecidableEq

structure CatalogOutboxIntent where
  kind : OperationKind
  targetNodeId : Option String := none
  parentNodeId : Option String := none
  parentCreatedByOperationId : Option String := none
  name : Option String := none
  recursive : Bool := false

structure CatalogOutboxOptions where
  baseCatalogRevision : Int
  expectedRevision : Option Int := none
  dependsOn : List String := []

structure CatalogOutboxOperation where
  clientOperationId : String
  clientSequence : Option Nat
  kind : OperationKind
  targetNodeId : Option String
  parentNodeId : Option String
  createdByOperationId : Option String
  name : Option String
  recursive : Bool
  dependsOn : List String
  baseCatalogRevision : Int
  expectedRevision : Option Int
  state : OperationState
  serverState : Option NavigationMutationState
  clientRef : Option String
  createdNodeId : Option String
  committedCatalogRevision : Option Int
  queueSeq : Option Nat
  receiptRevision : Option Int
  settlement : Option Settlement
  errorCode : Option String
  errorDetail : Option String

/-- `SessionCatalogOperationReceipt`. -/
structure Receipt where
  operationId : String
  queueSeq : Nat
  state : NavigationMutationState
  createdNodeId : Option String
  committedCatalogRevision : Option Int
  errorCode : Option String
  errorDetail : Option String
  settlement : Option Settlement
  receiptRevision : Int

inductive OutboxError where
  | emptyOperationId
  | baseCatalogRevision (revision : Int)
  | duplicateOperation (operationId : String)
  | selfReference (field operationId : String)
  | unknownReference (field operationId referencedId : String)
  | pendingParentKind
  | parentGivenTwice
  | createFolderTarget
  | createFolderName
  | targetMissing (kind : OperationKind)
  | expectedRevisionMissing (kind : OperationKind)
  | sequenceRange (sequence : Int)
  | sequenceTaken (sequence : Nat) (operationId : String)
  | sequenceChanged (operationId : String)
  | operationMissing (operationId : String)
  | sequenceMissing (operationId : String)
  | notPendingLocal (operationId : String)
  | receiptUnregistered (operationId : String)
  | terminalConflict (operationId : String)
  | batchSize (size : Int)

abbrev CatalogOutbox := List CatalogOutboxOperation

namespace CatalogOutboxOperation

def references (operation : CatalogOutboxOperation) : List String :=
  operation.dependsOn ++ operation.createdByOperationId.toList

/-- `catalogOutboxOperationIsTerminal`. -/
def isTerminal (operation : CatalogOutboxOperation) : Bool :=
  match operation.state with
  | .reported state => state.isTerminal
  | _ => false

def isAccepted (operation : CatalogOutboxOperation) : Bool :=
  operation.state = .accepted || operation.state = .reported .committed

/-- The comparison of `orderedCatalogOutboxOperations`. -/
def Precedes (left right : CatalogOutboxOperation) : Prop :=
  match left.clientSequence, right.clientSequence with
  | none, none => True
  | none, some _ => False
  | some _, none => True
  | some first, some second => first ≤ second

instance : DecidableRel Precedes := fun left right => by
  unfold Precedes
  split <;> infer_instance

end CatalogOutboxOperation

open CatalogOutboxOperation

def given (text : Option String) : Bool :=
  text.isSome && text ≠ some ""

def orderedCatalogOutboxOperations (outbox : CatalogOutbox) : CatalogOutbox :=
  outbox.insertionSort Precedes

def requireKnownOperationReference (knownIds : List String) (clientOperationId field : String)
    (referencedId : String) : Except OutboxError Unit :=
  if referencedId = clientOperationId then .error (.selfReference field clientOperationId)
  else if referencedId ∉ knownIds then
    .error (.unknownReference field clientOperationId referencedId)
  else .ok ()

def requirePendingParent (knownIds : List String) (clientOperationId : String)
    (intent : CatalogOutboxIntent) : Except OutboxError Unit :=
  match intent.parentCreatedByOperationId with
  | none => .ok ()
  | some createdBy => do
      requireKnownOperationReference knownIds clientOperationId "parent_created_by_operation_id"
        createdBy
      if intent.kind ≠ .moveNode ∧ intent.kind ≠ .createFolder then .error .pendingParentKind
      else if given intent.parentNodeId then .error .parentGivenTwice
      else .ok ()

def requireKindFields (intent : CatalogOutboxIntent) (options : CatalogOutboxOptions) :
    Except OutboxError Unit :=
  if intent.kind = .createFolder then
    if given intent.targetNodeId then .error .createFolderTarget
    else if !given intent.name then .error .createFolderName
    else .ok ()
  else if !given intent.targetNodeId then .error (.targetMissing intent.kind)
  else if (intent.kind = .renameNode ∨ intent.kind = .moveNode) ∧
      options.expectedRevision = none then
    .error (.expectedRevisionMissing intent.kind)
  else .ok ()

def pendingOperation (clientOperationId : String) (intent : CatalogOutboxIntent)
    (options : CatalogOutboxOptions) : CatalogOutboxOperation where
  clientOperationId := clientOperationId
  clientSequence := none
  kind := intent.kind
  targetNodeId := intent.targetNodeId
  parentNodeId := intent.parentNodeId
  createdByOperationId := intent.parentCreatedByOperationId
  name := intent.name
  recursive := intent.recursive
  dependsOn := options.dependsOn
  baseCatalogRevision := options.baseCatalogRevision
  expectedRevision := options.expectedRevision
  state := .pendingLocal
  serverState := none
  clientRef := if intent.kind = .createFolder then some clientOperationId else none
  createdNodeId := none
  committedCatalogRevision := none
  queueSeq := none
  receiptRevision := none
  settlement := none
  errorCode := none
  errorDetail := none

def addCatalogOutboxIntent (outbox : CatalogOutbox) (clientOperationId : String)
    (intent : CatalogOutboxIntent) (options : CatalogOutboxOptions) :
    Except OutboxError CatalogOutbox :=
  if clientOperationId = "" then .error .emptyOperationId
  else if options.baseCatalogRevision < 0 then
    .error (.baseCatalogRevision options.baseCatalogRevision)
  else if clientOperationId ∈ outbox.map (·.clientOperationId) then
    .error (.duplicateOperation clientOperationId)
  else do
    let knownIds := outbox.map (·.clientOperationId)
    options.dependsOn.forM (requireKnownOperationReference knownIds clientOperationId "depends_on")
    requirePendingParent knownIds clientOperationId intent
    requireKindFields intent options
    return outbox ++ [pendingOperation clientOperationId intent options]

/-- `updateCatalogOutboxOperation`, with the error of an id that is not found. -/
def updateCatalogOutboxOperation (missing : OutboxError) (operationId : String)
    (update : CatalogOutboxOperation → Except OutboxError CatalogOutboxOperation) :
    CatalogOutbox → Except OutboxError CatalogOutbox
  | [] => .error missing
  | operation :: rest =>
    if operation.clientOperationId = operationId then
      (update operation).map (· :: rest)
    else
      (updateCatalogOutboxOperation missing operationId update rest).map (operation :: ·)

def maxSafeInteger : Int := 2 ^ 53 - 1

/-- The update of `assignCatalogOutboxOperationSequence`. -/
def withSequence (sequence : Nat) (operation : CatalogOutboxOperation) :
    Except OutboxError CatalogOutboxOperation :=
  if operation.clientSequence ≠ none ∧ operation.clientSequence ≠ some sequence then
    .error (.sequenceChanged operation.clientOperationId)
  else
    .ok { operation with clientSequence := some sequence }

def assignCatalogOutboxOperationSequence (outbox : CatalogOutbox) (operationId : String)
    (sequence : Int) : Except OutboxError CatalogOutbox :=
  if maxSafeInteger < sequence ∨ sequence < 1 then .error (.sequenceRange sequence)
  else
    match outbox.find? fun operation => operation.clientOperationId ≠ operationId &&
        operation.clientSequence = some sequence.toNat with
    | some conflicting => .error (.sequenceTaken sequence.toNat conflicting.clientOperationId)
    | none =>
      updateCatalogOutboxOperation (.operationMissing operationId) operationId
        (withSequence sequence.toNat) outbox

/-- The update of `markCatalogOutboxOperationPersisted`. -/
def asPersisted (operation : CatalogOutboxOperation) :
    Except OutboxError CatalogOutboxOperation :=
  if operation.clientSequence = none then .error (.sequenceMissing operation.clientOperationId)
  else if operation.state ≠ .pendingLocal then
    .error (.notPendingLocal operation.clientOperationId)
  else .ok { operation with state := .persisted }

def markCatalogOutboxOperationPersisted (outbox : CatalogOutbox) (operationId : String) :
    Except OutboxError CatalogOutbox :=
  updateCatalogOutboxOperation (.operationMissing operationId) operationId asPersisted outbox

/-- `collectCatalogOutboxDependentClosure`: the seeds and, in order, what refers to them. -/
def collectCatalogOutboxDependentClosure (outbox : CatalogOutbox) (seeds : List String) :
    List String :=
  (orderedCatalogOutboxOperations outbox).foldl (fun doomed operation =>
    if operation.clientOperationId ∈ doomed then doomed
    else if operation.references.any (· ∈ doomed) then operation.clientOperationId :: doomed
    else doomed) seeds

def rollbackCatalogOutboxIntents (outbox : CatalogOutbox) (removedOperationIds : List String) :
    CatalogOutbox :=
  let removed := collectCatalogOutboxDependentClosure outbox removedOperationIds
  outbox.filter fun operation => operation.clientOperationId ∉ removed

def nextCatalogOutboxState (current : OperationState) (reported : NavigationMutationState) :
    OperationState :=
  if reported.isTerminal then .reported reported
  else if current = .pendingLocal ∨ current = .persisted ∨ current = .unknown then .accepted
  else current

def applyCatalogOutboxOperationReceipt (receipt : Receipt) (existing : CatalogOutboxOperation) :
    Except OutboxError CatalogOutboxOperation :=
  if existing.receiptRevision.any (receipt.receiptRevision ≤ ·) then .ok existing
  else if existing.isTerminal ∧ existing.state ≠ .reported receipt.state then
    .error (.terminalConflict receipt.operationId)
  else
    .ok { existing with
      state := nextCatalogOutboxState existing.state receipt.state
      serverState := some receipt.state
      queueSeq := some receipt.queueSeq
      receiptRevision := some receipt.receiptRevision
      settlement := receipt.settlement
      createdNodeId := receipt.createdNodeId.or existing.createdNodeId
      clientRef := if given receipt.createdNodeId then none else existing.clientRef
      committedCatalogRevision := receipt.committedCatalogRevision
      errorCode := receipt.errorCode
      errorDetail := receipt.errorDetail }

def applyCatalogOutboxReceipts (outbox : CatalogOutbox) (receipts : List Receipt) :
    Except OutboxError CatalogOutbox :=
  receipts.foldlM (fun next receipt =>
    updateCatalogOutboxOperation (.receiptUnregistered receipt.operationId) receipt.operationId
      (applyCatalogOutboxOperationReceipt receipt) next) outbox

/-- The update of `markCatalogOutboxOperationsUnknown`. -/
def asUnknown (operation : CatalogOutboxOperation) : Except OutboxError CatalogOutboxOperation :=
  .ok (if operation.state = .persisted then { operation with state := .unknown } else operation)

def markCatalogOutboxOperationsUnknown (outbox : CatalogOutbox) (operationIds : List String) :
    Except OutboxError CatalogOutbox :=
  operationIds.foldlM (fun next operationId =>
    updateCatalogOutboxOperation (.operationMissing operationId) operationId asUnknown next) outbox

def acceptedIds (outbox : CatalogOutbox) : List String :=
  (outbox.filter isAccepted).map (·.clientOperationId)

def insertedAfterUnsequenced (outbox : CatalogOutbox) (operation : CatalogOutboxOperation) : Bool :=
  match outbox.findIdx? (fun other => other.clientSequence = none),
      outbox.findIdx? (fun other => other.clientOperationId = operation.clientOperationId) with
  | some firstUnsequencedIndex, some insertionIndex => firstUnsequencedIndex < insertionIndex
  | _, _ => false

def includable (retryable : List String) (operation : CatalogOutboxOperation) : Bool :=
  operation.state = .persisted ||
    (operation.state = .unknown && operation.clientOperationId ∈ retryable)

/-- The loop of `planCatalogOutboxBatch`. -/
def planFrom (outbox : CatalogOutbox) (maxBatchSize : Nat) (retryable : List String) :
    CatalogOutbox → CatalogOutbox → CatalogOutbox
  | [], batch => batch
  | operation :: rest, batch =>
    if operation.clientSequence = none then planFrom outbox maxBatchSize retryable rest batch
    else if insertedAfterUnsequenced outbox operation then
      planFrom outbox maxBatchSize retryable rest batch
    else if !includable retryable operation then
      planFrom outbox maxBatchSize retryable rest batch
    else if maxBatchSize ≤ batch.length then batch
    else if operation.dependsOn.all fun dependencyId =>
        dependencyId ∈ acceptedIds outbox || dependencyId ∈ batch.map (·.clientOperationId) then
      planFrom outbox maxBatchSize retryable rest (batch ++ [operation])
    else planFrom outbox maxBatchSize retryable rest batch

def planCatalogOutboxBatch (outbox : CatalogOutbox) (maxBatchSize : Int)
    (retryableOperationIds : List String) : Except OutboxError CatalogOutbox :=
  if maxBatchSize < 1 then .error (.batchSize maxBatchSize)
  else
    .ok (planFrom outbox maxBatchSize.toNat retryableOperationIds
      (orderedCatalogOutboxOperations outbox) [])

/-- `SessionCatalogOperationIntent`; a parent that is sent may be `null`. -/
structure WireIntent where
  clientOperationId : String
  clientSequence : Nat
  kind : OperationKind
  baseCatalogRevision : Int
  dependsOn : List String
  expectedRevision : Option Int
  targetNodeId : Option String
  createdByOperationId : Option String
  parentNodeId : Option (Option String)
  name : Option String
  recursive : Option Bool

def wireParent (operation : CatalogOutboxOperation) : Option (Option String) :=
  if operation.kind = .moveNode ∧ operation.parentNodeId = none then some none
  else if operation.createdByOperationId = none then operation.parentNodeId.map some
  else none

/-- One intent of `catalogOutboxBatchToIntents`. -/
def wireIntent (batchIds : List String) (operation : CatalogOutboxOperation) :
    Except OutboxError WireIntent :=
  match operation.clientSequence with
  | none => .error (.sequenceMissing operation.clientOperationId)
  | some sequence =>
    .ok {
      clientOperationId := operation.clientOperationId
      clientSequence := sequence
      kind := operation.kind
      baseCatalogRevision := operation.baseCatalogRevision
      dependsOn := operation.dependsOn.filter (· ∈ batchIds)
      expectedRevision := operation.expectedRevision
      targetNodeId := operation.targetNodeId
      createdByOperationId := operation.createdByOperationId
      parentNodeId := wireParent operation
      name := operation.name
      recursive := if operation.kind = .deleteFolder then some operation.recursive else none }

def catalogOutboxBatchToIntents (batch : CatalogOutbox) : Except OutboxError (List WireIntent) :=
  batch.mapM (wireIntent (batch.map (·.clientOperationId)))

inductive OutboxStep where
  | addIntent (clientOperationId : String) (intent : CatalogOutboxIntent)
      (options : CatalogOutboxOptions)
  | assignSequence (operationId : String) (sequence : Int)
  | markPersisted (operationId : String)
  | applyReceipts (receipts : List Receipt)
  | markUnknown (operationIds : List String)
  | rollback (removedOperationIds : List String)

def OutboxStep.call (outbox : CatalogOutbox) : OutboxStep → Except OutboxError CatalogOutbox
  | .addIntent clientOperationId intent options =>
    addCatalogOutboxIntent outbox clientOperationId intent options
  | .assignSequence operationId sequence =>
    assignCatalogOutboxOperationSequence outbox operationId sequence
  | .markPersisted operationId => markCatalogOutboxOperationPersisted outbox operationId
  | .applyReceipts receipts => applyCatalogOutboxReceipts outbox receipts
  | .markUnknown operationIds => markCatalogOutboxOperationsUnknown outbox operationIds
  | .rollback removedOperationIds => .ok (rollbackCatalogOutboxIntents outbox removedOperationIds)

def step (outbox : CatalogOutbox) (command : OutboxStep) : CatalogOutbox :=
  match command.call outbox with
  | .ok next => next
  | .error _ => outbox

def run (commands : List OutboxStep) : CatalogOutbox :=
  commands.foldl step []

end GraphAgent.Outbox
