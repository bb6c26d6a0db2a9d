import GraphAgent.PythonValues

/-!
# Message stream events and states

A turn streams its output as numbered events of one log.  This file fixes the
event record, the state that a log projects to, and the errors of
`app/domain/message_stream/projection.py` and of the store.
-/

namespace GraphAgent.MessageStream

/-- `stream_status` of a state. -/
inductive StreamStatus where
  | opened
  | interrupting
  | completed
  | interrupted
  | failed
  deriving DecidableEq

namespace StreamStatus

def name : StreamStatus → String
  | .opened => "open"
  | .interrupting => "interrupting"
  | .completed => "completed"
  | .interrupted => "interrupted"
  | .failed => "failed"

/-- `TERMINAL_STREAM_STATUSES`. -/
def isTerminal : StreamStatus → Bool
  | .completed | .interrupted | .failed => true
  | .opened | .interrupting => false

end StreamStatus

/-- What follows `activity.` in an event type. -/
inductive ActivityStage where
  | started
  | updated
  | completed
  | failed
  | other (suffix : String)
  deriving DecidableEq

/-- The type of an event in the log.  The control frame `stream.snapshot` is
never logged and has no constructor. -/
inductive EventType where
  | streamOpened
  | modelStarted
  | modelCompleted
  | modelFailed
  | modelRetrying
  | blockStarted
  | blockDelta
  | blockCompleted
  | toolCall
  | toolCallDelta
  | toolCallCompleted
  | toolStarted
  | toolCompleted
  | activity (stage : ActivityStage)
  | interruptRequested
  | interruptRejected
  | streamCompleted
  | streamInterrupted
  | streamFailed
  | other (name : String)
  deriving DecidableEq

namespace EventType

def name : EventType → String
  | .streamOpened => "stream.opened"
  | .modelStarted => "model.started"
  | .modelCompleted => "model.completed"
  | .modelFailed => "model.failed"
  | .modelRetrying => "model.retrying"
  | .blockStarted => "block.started"
  | .blockDelta => "block.delta"
  | .blockCompleted => "block.completed"
  | .toolCall => "tool_call"
  | .toolCallDelta => "tool_call.delta"
  | .toolCallCompleted => "tool_call.completed"
  | .toolStarted => "tool.started"
  | .toolCompleted => "tool.completed"
  | .activity .started => "activity.started"
  | .activity .updated => "activity.updated"
  | .activity .completed => "activity.completed"
  | .activity .failed => "activity.failed"
  | .activity (.other suffix) => "activity." ++ suffix
  | .interruptRequested => "interrupt.requested"
  | .interruptRejected => "interrupt.rejected"
  | .streamCompleted => "stream.completed"
  | .streamInterrupted => "stream.interrupted"
  | .streamFailed => "stream.failed"
  | .other name => name

def ofName (name : String) : Option EventType :=
  match name with
  | "stream.snapshot" => none
  | "stream.opened" => some .streamOpened
  | "model.started" => some .modelStarted
  | "model.completed" => some .modelCompleted
  | "model.failed" => some .modelFailed
  | "model.retrying" => some .modelRetrying
  | "block.started" => some .blockStarted
  | "block.delta" => some .blockDelta
  | "block.completed" => some .blockCompleted
  | "tool_call" => some .toolCall
  | "tool_call.delta" => some .toolCallDelta
  | "tool_call.completed" => some .toolCallCompleted
  | "tool.started" => some .toolStarted
  | "tool.completed" => some .toolCompleted
  | "activity.started" => some (.activity .started)
  | "activity.updated" => some (.activity .updated)
  | "activity.completed" => some (.activity .completed)
  | "activity.failed" => some (.activity .failed)
  | "interrupt.requested" => some .interruptRequested
  | "interrupt.rejected" => some .interruptRejected
  | "stream.completed" => some .streamCompleted
  | "stream.interrupted" => some .streamInterrupted
  | "stream.failed" => some .streamFailed
  | name =>
    let letters := name.toList
    if "activity.".toList.isPrefixOf letters then
      some (.activity (.other (String.ofList (letters.drop "activity.".length))))
    else
      some (.other name)

def isTerminal : EventType → Bool
  | .streamCompleted | .streamInterrupted | .streamFailed => true
  | _ => false

/-- `INTERRUPTING_ALLOWED_EVENT_TYPES`. -/
def allowedWhileInterrupting : EventType → Bool
  | .blockCompleted | .modelCompleted | .modelFailed | .toolCallCompleted | .toolCompleted
  | .streamInterrupted | .streamFailed => true
  | _ => false

end EventType

/-- The keys that every event and the state of a stream share. -/
structure StreamIdentity where
  sessionId : String
  threadId : String
  turnId : String
  turnStreamId : String

/-- One event record.  `fields` are the identity fields of the envelope. -/
structure StreamEvent where
  eventId : String
  identity : StreamIdentity
  eventSeq : Nat
  emittedAt : String
  type : EventType
  payload : Fields
  fields : Fields
  jobId : Option String

structure StreamState where
  identity : StreamIdentity
  jobId : Option String
  workspaceId : Option String
  snapshotSeq : Nat
  streamStatus : StreamStatus
  agentLoopStatus : String
  currentModelCallId : Json
  currentAttempt : Int
  blocks : List Fields
  toolCalls : List Fields
  toolExecutions : List Fields
  modelCalls : List Fields
  activities : List Fields
  activeState : Option Fields
  interruptState : Option Fields
  failure : Option Fields
  recovery : Option Fields
  resumable : Bool

inductive FieldSource where
  | envelope
  | payload

inductive StreamError where
  | autoClosedBlocks
  | missingToolCallId
  | missingBlockId
  | missingToolExecutionId
  | missingActivityId (type : String)
  | missingItem
  /-- `int(value)` raises `ValueError` or `TypeError`. -/
  | notANumber
  /-- `value in {…}` raises `TypeError`. -/
  | unhashable
  /-- `activity["status"]` raises `KeyError`. -/
  | missingStatus
  | controlFrame
  | identityNotText (field : String) (source : FieldSource)
  | identityMismatch (field : String)
  | notFound (turnStreamId : String)
  | workspaceMismatch (turnStreamId : String) (expected actual : String)
  | duplicateConflict (turnStreamId eventId : String)
  | interruptGate (turnStreamId type : String)
  | terminalStream (turnStreamId status type : String)
  | unfinishedEntities (unfinished : List (String × List String))
  | recordMismatch (field : String)
  | sequenceNotContiguous (previous current : Nat)
  | duplicateEventId
  | snapshotMissingTrimmed
  | snapshotMissingIncomplete
  | snapshotMismatch (field : String)
  | snapshotSequence (lastEventSeq : Nat)
  | unrecoverableGap (snapshotSeq firstEventSeq : Nat)
  | snapshotWorkspace (expected : String)

end GraphAgent.MessageStream
