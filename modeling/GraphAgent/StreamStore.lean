import GraphAgent.StreamProjection

/-!
# The message stream store

`app/services/infrastructure/message_stream_store.py` for one stream: what a
commit checks before it appends, how a stream is rebuilt from its event log and
its state snapshot, and which event ids are remembered.
-/

namespace GraphAgent.MessageStream

open Json

/-- `MESSAGE_STREAM_EVENT_MAX_PAYLOAD_BYTES`. -/
def eventMaxPayloadBytes : Nat := 256 * 1024

/-- `MESSAGE_STREAM_SNAPSHOT_INTERVAL_EVENTS`. -/
def snapshotIntervalEvents : Nat := 32

structure StoreConfig where
  interpreter : Interpreter
  workspaceId : Option String
  workspaceId_ne_empty : workspaceId ≠ some ""
  payloadBytes : Fields → Nat
  /-- What `bound_json_value` makes of a payload that is too long. -/
  compacted : Fields → Fields
  /-- The number of bytes of the line `_encode_event` makes of an event. -/
  recordBytes : StreamEvent → Nat
  /-- `MESSAGE_STREAM_MAX_BYTES`. -/
  maxBytes : Nat := 64 * 1024 * 1024
  /-- `MESSAGE_STREAM_RETAINED_BYTES`. -/
  retainedBytes : Nat := 8 * 1024 * 1024

/-- The identifiers that the caller of `commit` gives. -/
structure EventIdentifiers where
  modelCallId : Option String := none
  blockId : Option String := none
  toolCallId : Option String := none
  toolInvocationId : Option String := none
  toolAttemptId : Option String := none
  toolExecutionId : Option String := none

/-- One call of `commit`. -/
structure CommitRequest where
  eventType : String
  payload : Fields
  identifiers : EventIdentifiers := {}
  jobId : Option String := none
  eventId : Option String := none

/-- What a commit reads from the clock and the identifier generator. -/
structure Moment where
  generatedId : String
  emittedAt : String

namespace StoreConfig

variable (config : StoreConfig)

/-- `bound_json_value` on a payload. -/
def boundPayload (payload : Fields) : Fields :=
  if config.payloadBytes payload ≤ eventMaxPayloadBytes then payload else config.compacted payload

/-- `_encode_event`: the record that reaches the log. -/
def encodeEvent (event : StreamEvent) : StreamEvent :=
  { event with payload := config.boundPayload event.payload }

def logBytes (log : List StreamEvent) : Nat :=
  (log.map config.recordBytes).sum

/-- The records that `_compact_stream_log` keeps: the oldest ones go while more
than one is left and the rest is above the limit. -/
def retainedRecords : List StreamEvent → List StreamEvent
  | [] => []
  | [record] => [record]
  | record :: next :: rest =>
    if config.retainedBytes < config.logBytes (record :: next :: rest) then
      retainedRecords (next :: rest)
    else
      record :: next :: rest

def emptyState (identity : StreamIdentity) (jobId : Option String) : StreamState where
  identity := identity
  jobId := jobId
  workspaceId := config.workspaceId
  snapshotSeq := 0
  streamStatus := .opened
  agentLoopStatus := "running"
  currentModelCallId := .null
  currentAttempt := 0
  blocks := []
  toolCalls := []
  toolExecutions := []
  modelCalls := []
  activities := []
  activeState := none
  interruptState := none
  failure := none
  recovery := none
  resumable := true

end StoreConfig

def identityNames : List String :=
  ["model_call_id", "block_id", "tool_call_id", "tool_invocation_id", "tool_attempt_id",
    "tool_execution_id", "workspace_id"]

def EventIdentifiers.get (identifiers : EventIdentifiers) (name : String) : Option String :=
  match name with
  | "model_call_id" => identifiers.modelCallId
  | "block_id" => identifiers.blockId
  | "tool_call_id" => identifiers.toolCallId
  | "tool_invocation_id" => identifiers.toolInvocationId
  | "tool_attempt_id" => identifiers.toolAttemptId
  | "tool_execution_id" => identifiers.toolExecutionId
  | _ => none

/-- `identity_fields` of a commit: what the caller or the store gives, or the
field of the payload. -/
def identityFields (config : StoreConfig) (request : CommitRequest) : List (String × Json) :=
  identityNames.map fun name =>
    let given :=
      if name = "workspace_id" then config.workspaceId else request.identifiers.get name
    (name, match given with
      | some text => .str text
      | none => request.payload.get name)

/-- An identity is `None` or a text that is not empty. -/
def validIdentity (value : Json) : Bool :=
  value matches .null || value.identifier?.isSome

def validateEventIdentityFields (payload : Fields) :
    List (String × Json) → Except StreamError Unit
  | [] => .ok ()
  | (name, envelope) :: rest =>
    if !validIdentity envelope then
      .error (.identityNotText name .envelope)
    else if !validIdentity (payload.get name) then
      .error (.identityNotText name .payload)
    else
      match envelope.text?, (payload.get name).text? with
      | some outer, some inner =>
        if outer = inner then validateEventIdentityFields payload rest
        else .error (.identityMismatch name)
      | _, _ => validateEventIdentityFields payload rest

/-- `payload.setdefault` for every identity but the workspace. -/
def defaultIdentity (payload : Fields) (identity : List (String × Json)) : Fields :=
  identity.foldl (fun filled field =>
    if field.2 matches .null ∨ field.1 = "workspace_id" then filled
    else filled.setDefault field.1 field.2) payload

def envelopeFields (identity : List (String × Json)) (workspaceId : Option String) : Fields :=
  let fields := Fields.withoutNone identity
  match workspaceId with
  | some workspace => fields.insert "workspace_id" (.str workspace)
  | none => fields

abbrev EventIds := Dictionary String StreamEvent

/-- `_validate_event_record` against the keys the earlier records fixed. -/
def validateEventRecord (expected : StreamIdentity) (event : StreamEvent) :
    Except StreamError Unit := do
  validateEventIdentityFields event.payload
    (identityNames.map fun name => (name, event.fields.get name))
  if event.identity.sessionId ≠ expected.sessionId then .error (.recordMismatch "session_id")
  else if event.identity.threadId ≠ expected.threadId then .error (.recordMismatch "thread_id")
  else if event.identity.turnId ≠ expected.turnId then .error (.recordMismatch "turn_id")
  else if event.identity.turnStreamId ≠ expected.turnStreamId then
    .error (.recordMismatch "turn_stream_id")
  else .ok ()

/-- `_iter_records` after its first record. -/
def checkRecords (expected : StreamIdentity) (previous : Nat) (seen : List String) :
    List StreamEvent → Except StreamError Unit
  | [] => .ok ()
  | event :: rest => do
      validateEventRecord expected event
      if event.eventSeq ≠ previous + 1 then
        .error (.sequenceNotContiguous previous event.eventSeq)
      else if event.eventId ∈ seen then
        .error .duplicateEventId
      else
        checkRecords expected event.eventSeq (event.eventId :: seen) rest

/-- `_read_records`: the first record fixes the thread and the turn. -/
def readRecords (identity : StreamIdentity) (log : List StreamEvent) :
    Except StreamError (List StreamEvent) :=
  match log with
  | [] => .ok []
  | first :: rest => do
      let expected := { identity with
        threadId := first.identity.threadId
        turnId := first.identity.turnId }
      validateEventRecord expected first
      checkRecords expected first.eventSeq [first.eventId] rest
      return log

/-- `_event_ids_from_records`: the retained records and the ids that were put
aside, the records first. -/
def eventIdsFromRecords (sidecar : EventIds) (records : List StreamEvent) : EventIds :=
  sidecar.entries.foldl (fun ids entry => ids.setDefault entry.1 entry.2)
    (Dictionary.ofList (records.map fun event => (event.eventId, event)))

/-- `state["snapshot_seq"] = event_seq`. -/
def StreamState.atSequence (state : StreamState) (eventSeq : Nat) : StreamState :=
  { state with snapshotSeq := eventSeq }

def replayEvents (interpreter : Interpreter) (state : StreamState) :
    List StreamEvent → Except StreamError StreamState
  | [] => .ok state
  | event :: rest => do
      let next ← applyEvent interpreter state event
      replayEvents interpreter (next.atSequence event.eventSeq) rest

def validateStateSnapshot (state : StreamState) (expected : StreamIdentity)
    (lastEventSeq : Nat) : Except StreamError Unit :=
  if state.identity.sessionId ≠ expected.sessionId then .error (.snapshotMismatch "session_id")
  else if state.identity.threadId ≠ expected.threadId then
    .error (.snapshotMismatch "thread_id")
  else if state.identity.turnId ≠ expected.turnId then .error (.snapshotMismatch "turn_id")
  else if state.identity.turnStreamId ≠ expected.turnStreamId then
    .error (.snapshotMismatch "turn_stream_id")
  else if lastEventSeq < state.snapshotSeq then .error (.snapshotSequence lastEventSeq)
  else .ok ()

structure StreamDisk where
  log : List StreamEvent
  sidecar : EventIds
  snapshot : Option StreamState

/-- The replay of `_load_state_from_disk`, from the snapshot or from nothing. -/
def replayRecords (config : StoreConfig) (identity : StreamIdentity)
    (snapshot : Option StreamState) (first : StreamEvent) (rest : List StreamEvent) :
    Except StreamError StreamState :=
  let records := first :: rest
  let lastSeq := (records.getLast (List.cons_ne_nil _ _)).eventSeq
  let expected := { identity with
    threadId := first.identity.threadId
    turnId := first.identity.turnId }
  match snapshot with
  | none =>
    if first.eventSeq ≠ 1 then .error .snapshotMissingTrimmed
    else if first.type ≠ .streamOpened then .error .snapshotMissingIncomplete
    else
      replayEvents config.interpreter (config.emptyState expected first.jobId) records
  | some state => do
      validateStateSnapshot state expected lastSeq
      if state.snapshotSeq < lastSeq ∧ state.snapshotSeq + 1 < first.eventSeq then
        .error (.unrecoverableGap state.snapshotSeq first.eventSeq)
      else
        replayEvents config.interpreter state
          (records.filter fun record => state.snapshotSeq < record.eventSeq)

def adoptStoreWorkspace (config : StoreConfig) (state : StreamState) :
    Except StreamError StreamState :=
  match config.workspaceId, state.workspaceId with
  | some expected, some stored =>
    if stored = expected then .ok state else .error (.snapshotWorkspace expected)
  | some expected, none => .ok { state with workspaceId := some expected }
  | none, _ => .ok state

/-- `_load_state_from_disk`: the state and the event ids it puts into the cache. -/
def loadStateFromDisk (config : StoreConfig) (identity : StreamIdentity) (disk : StreamDisk) :
    Except StreamError (StreamState × EventIds) := do
  let records ← readRecords identity disk.log
  match records with
  | [] => .error (.notFound identity.turnStreamId)
  | first :: rest =>
    let replayed ← replayRecords config identity disk.snapshot first rest
    let adopted ← adoptStoreWorkspace config replayed
    return (backfillLifecycleMetadata adopted records,
      eventIdsFromRecords disk.sidecar records)

structure CheckedCommit where
  type : EventType
  payload : Fields
  identity : List (String × Json)
  state : StreamState
  jobId : Option String
  eventId : Option String

structure PendingEvent where
  event : StreamEvent
  nextState : StreamState
  /-- Whether the caller gave the event id. -/
  explicit : Bool

inductive Admission where
  /-- The event id was applied before. -/
  | duplicate (event : StreamEvent)
  | admitted (commit : CheckedCommit)

def checkPayload (config : StoreConfig) (request : CommitRequest) :
    Except StreamError (EventType × Fields × List (String × Json)) :=
  match EventType.ofName request.eventType with
  | none => .error .controlFrame
  | some type => do
      let identity := identityFields config request
      validateEventPayload type request.payload
      validateEventIdentityFields request.payload identity
      return (type, defaultIdentity request.payload identity, identity)

def incomingWorkspace (identity : List (String × Json)) : Option String :=
  (Dictionary.lookupEntries "workspace_id" identity).bind Json.identifier?

/-- Refuse another workspace, and take over the first one. -/
def adoptWorkspace (state : StreamState) (identity : List (String × Json)) :
    Except StreamError StreamState :=
  match incomingWorkspace identity, state.workspaceId with
  | some incoming, some stored =>
    if incoming = stored then .ok state
    else .error (.workspaceMismatch state.identity.turnStreamId stored incoming)
  | some incoming, none => .ok { state with workspaceId := some incoming }
  | none, _ => .ok state

def allowedInterruptDuplicate (type : EventType) (payload : Fields) (previous : StreamEvent) :
    Except StreamError Bool :=
  if type = .interruptRequested ∧ previous.type = .interruptRejected ∧
      (previous.payload.get "interrupt_request_id").sameValue
        (payload.get "interrupt_request_id") then
    match memberOf ["already_interrupting", "already_terminal"]
      (previous.payload.get "reason") with
    | some member => .ok member
    | none => .error .unhashable
  else
    .ok false

/-- `previous.get(field) or previous_payload.get(field)`. -/
def previousIdentity (previous : StreamEvent) (name : String) : Json :=
  (previous.fields.get name).orElse (previous.payload.get name)

def identityConflict (type : EventType) (payload : Fields) (identity : List (String × Json))
    (previous : StreamEvent) : Bool :=
  previous.type ≠ type ||
  !(Json.sameValue previous.payload.toJson payload.toJson) ||
  identity.any fun field =>
    !(field.2 matches .null) && !(previousIdentity previous field.1).sameValue field.2

def checkDuplicate (ids : EventIds) (eventId : String) (type : EventType) (payload : Fields)
    (identity : List (String × Json)) (turnStreamId : String) :
    Except StreamError (Option StreamEvent) :=
  match ids.lookup eventId with
  | none => .ok none
  | some previous => do
      let allowed ← allowedInterruptDuplicate type payload previous
      if identityConflict type payload identity previous && !allowed then
        .error (.duplicateConflict turnStreamId eventId)
      else
        return some previous

def gateEvent (status : StreamStatus) (turnStreamId : String) (type : EventType)
    (payload : Fields) : Except StreamError (EventType × Fields) :=
  if status = .interrupting then
    if type = .interruptRequested then
      .ok (.interruptRejected, payload.insert "reason" (.str "already_interrupting"))
    else if type.allowedWhileInterrupting then
      .ok (type, payload)
    else
      .error (.interruptGate turnStreamId type.name)
  else if status.isTerminal ∧ type ≠ .interruptRejected then
    if type = .interruptRequested then
      .ok (.interruptRejected, payload.insert "reason" (.str "already_terminal"))
    else
      .error (.terminalStream turnStreamId status.name type.name)
  else
    .ok (type, payload)

def resolvedJobId (jobId stored : Option String) : Option String :=
  match jobId with
  | some text => if text = "" then stored else some text
  | none => stored

def buildEvent (commit : CheckedCommit) (state : StreamState) (moment : Moment) : StreamEvent where
  eventId := match commit.eventId with
    | some text => if text = "" then moment.generatedId else text
    | none => moment.generatedId
  identity := state.identity
  eventSeq := state.snapshotSeq + 1
  emittedAt := moment.emittedAt
  type := commit.type
  payload := commit.payload
  fields := envelopeFields commit.identity state.workspaceId
  jobId := resolvedJobId commit.jobId state.jobId

def activeIds (interpreter : Interpreter) (idKey : String)
    (active : Fields → Except StreamError Bool) :
    List Fields → Except StreamError (List String)
  | [] => .ok []
  | entity :: rest => do
      let isActive ← active entity
      let ids ← activeIds interpreter idKey active rest
      return if isActive then (entity.get idKey).toText interpreter :: ids else ids

def validateCompletedState (interpreter : Interpreter) (state : StreamState) :
    Except StreamError Unit := do
  let running (entity : Fields) : Except StreamError Bool := .ok (hasStatus "running" entity)
  let modelCalls ← activeIds interpreter "model_call_id" running state.modelCalls
  let blocks ← activeIds interpreter "block_id" running state.blocks
  let toolCalls ← activeIds interpreter "tool_call_id" (statusIn activeToolCallStatuses)
    state.toolCalls
  let toolExecutions ← activeIds interpreter "tool_execution_id"
    (statusIn activeActivityStatuses) state.toolExecutions
  let activities ← activeIds interpreter "activity_id" (statusIn activeActivityStatuses)
    state.activities
  let unfinished := [("model_calls", modelCalls), ("blocks", blocks), ("tool_calls", toolCalls),
    ("tool_executions", toolExecutions), ("activities", activities)].filter fun entry =>
      !entry.2.isEmpty
  if unfinished.isEmpty then
    .ok ()
  else
    .error (.unfinishedEntities (unfinished.map fun entry =>
      (entry.1, entry.2.dedup.mergeSort fun first second => first ≤ second)))

def prepareEvent (config : StoreConfig) (commit : CheckedCommit) (state : StreamState)
    (moment : Moment) : Except StreamError PendingEvent := do
  let event := buildEvent commit state moment
  let next ← applyEvent config.interpreter state event
  if commit.type = .streamCompleted then
    validateCompletedState config.interpreter next
  let stamped := { next with jobId := (event.jobId).or next.jobId }
  return ⟨event, stamped.atSequence event.eventSeq, commit.eventId.isSome⟩

def shouldWriteStateSnapshot (type : EventType) (eventSeq : Nat) : Bool :=
  type = .streamOpened || type.isTerminal || eventSeq % snapshotIntervalEvents = 0

/-- `_write_state_snapshot`: an older state never replaces a newer one. -/
def writeStateSnapshot (existing : Option StreamState) (state : StreamState) :
    Option StreamState :=
  match existing with
  | some newer => if state.snapshotSeq < newer.snapshotSeq then some newer else some state
  | none => some state

/-- The block events that `_close_running_blocks_locked` commits. -/
def closingRequest (interpreter : Interpreter) (jobId : Option String) (block : Fields) :
    Except StreamError CommitRequest := do
  let index ← intOrZero interpreter (block.get "block_index")
  let blockId := (block.get "block_id").toText interpreter
  return {
    eventType := "block.completed"
    payload := Dictionary.ofList [
      ("block_id", .str blockId), ("block_index", .int index),
      ("carrier_type", .str (textOr interpreter (block.get "carrier_type") "text")),
      ("status", .str "completed"), ("completion_reason", .str "stream_completed"),
      ("partial", .bool false)]
    identifiers := {
      modelCallId := (block.get "model_call_id").text?
      blockId := some blockId }
    jobId := jobId }

/-- The blocks that are closed before `stream.completed`. -/
def pendingBlocks (state : StreamState) : List Fields :=
  state.blocks.filter fun block =>
    hasStatus "running" block && (block.get "block_id").text?.isSome

end GraphAgent.MessageStream
