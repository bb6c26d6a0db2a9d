import GraphAgent.FirstMatch
import GraphAgent.StreamEvents
import GraphAgent.Transactions

/-!
# The projection of a message stream

`app/domain/message_stream/projection.py`: how one event changes the state, and
how it marks the entity it names with sequence numbers and times.  Commit and
replay share these functions.
-/

namespace GraphAgent.MessageStream

open FirstMatch Json

/-- `MESSAGE_STREAM_BLOCK_TEXT_MAX_CHARS`. -/
def blockTextMaxChars : Nat := 256 * 1024

/-- `MESSAGE_STREAM_TOOL_TEXT_MAX_CHARS`. -/
def toolTextMaxChars : Nat := 64 * 1024

/-- `MESSAGE_STREAM_TEXT_TRUNCATION_MARKER`. -/
def textTruncationMarker : String :=
  "\n\n…消息流展示已截断；Turn 完成后可从权威历史详情读取持久化内容…\n\n"

/-- `_bounded_stream_text`: keep the head and the tail around a marker. -/
def boundedStreamText (value : String) (maxChars : Nat) : String :=
  if value.length ≤ maxChars then
    value
  else
    let retainedChars := maxChars - textTruncationMarker.length
    let headChars := retainedChars / 2
    let tailChars := retainedChars - headChars
    String.ofList (value.toList.take headChars) ++ textTruncationMarker ++
      String.ofList (value.toList.drop (value.length - tailChars))

def validateEventPayload (type : EventType) (payload : Fields) : Except StreamError Unit :=
  if type = .streamCompleted ∧ payload.has "auto_closed_blocks" then
    .error .autoClosedBlocks
  else
    .ok ()

inductive EntityKind where
  | modelCall
  | block
  | toolCall
  | toolExecution
  | activity
  deriving DecidableEq

def EventType.entityKind : EventType → Option EntityKind
  | .modelStarted | .modelCompleted | .modelFailed => some .modelCall
  | .blockStarted | .blockDelta | .blockCompleted => some .block
  | .toolCall | .toolCallDelta | .toolCallCompleted => some .toolCall
  | .toolStarted | .toolCompleted => some .toolExecution
  | .activity _ => some .activity
  | _ => none

def EntityKind.idKey : EntityKind → String
  | .modelCall => "model_call_id"
  | .block => "block_id"
  | .toolCall => "tool_call_id"
  | .toolExecution => "tool_execution_id"
  | .activity => "activity_id"

namespace StreamState

def entities (state : StreamState) : EntityKind → List Fields
  | .modelCall => state.modelCalls
  | .block => state.blocks
  | .toolCall => state.toolCalls
  | .toolExecution => state.toolExecutions
  | .activity => state.activities

def setEntities (state : StreamState) (kind : EntityKind) (entities : List Fields) :
    StreamState :=
  match kind with
  | .modelCall => { state with modelCalls := entities }
  | .block => { state with blocks := entities }
  | .toolCall => { state with toolCalls := entities }
  | .toolExecution => { state with toolExecutions := entities }
  | .activity => { state with activities := entities }

/-- `_set_active_state`: fields without a value are dropped. -/
def setActiveState (state : StreamState) (fields : List (String × Json)) : StreamState :=
  { state with activeState := some (Fields.withoutNone fields) }

/-- `previous.get(key) if isinstance(previous, Mapping) else None`. -/
def lastActive (state : StreamState) (key : String) : Json :=
  match state.activeState with
  | some previous => previous.get key
  | none => .null

end StreamState

/-- `entity.get(key) == id`. -/
def hasId (key id : String) (entity : Fields) : Bool :=
  (entity.get key).text? = some id

/-- `entity.get("status") == status`. -/
def hasStatus (status : String) (entity : Fields) : Bool :=
  (entity.get "status").text? = some status

/-- `entity.get("status") in {statuses}`. -/
def statusIn (statuses : List String) (entity : Fields) : Except StreamError Bool :=
  match memberOf statuses (entity.get "status") with
  | some member => .ok member
  | none => .error .unhashable

section

variable (interpreter : Interpreter)

/-- `str(value or fallback)`. -/
def textOr (value : Json) (fallback : String) : String :=
  (value.orElse (.str fallback)).toText interpreter

/-- `int(value or 0)`. -/
def intOrZero (value : Json) : Except StreamError Int :=
  match (value.orElse (.int 0)).toInt? interpreter with
  | some number => .ok number
  | none => .error .notANumber

def upsertModelCall (state : StreamState) (payload : Fields) (status : String) : StreamState :=
  match (payload.get "model_call_id").identifier? with
  | none => state
  | some id =>
    { state with
      modelCalls := upsertFirst (hasId "model_call_id" id)
        (payload.insert "status" (.str status))
        (fun call => (call.merge payload).insert "status" (.str status)) state.modelCalls }

/-- The block that `_upsert_block` appends. -/
def newBlock (payload : Fields) (blockId status : String) (modelCallId : Json) :
    Except StreamError Fields := do
  let index ← intOrZero interpreter (payload.get "block_index")
  let block : Fields := Dictionary.ofList [
    ("block_id", .str blockId),
    ("block_index", .int index),
    ("carrier_type", .str (textOr interpreter (payload.get "carrier_type") "text")),
    ("status", .str status),
    ("text", .str ""),
    ("items", .arr []),
    ("redacted", .bool (payload.get "redacted").truthy),
    ("projection", .str (textOr interpreter (payload.get "projection") "streaming"))]
  match modelCallId.identifier? with
  | some id => return block.insert "model_call_id" (.str id)
  | none => return block

def changeFirst (matching : Fields → Bool) (change : Fields → Except StreamError Fields) :
    List Fields → Except StreamError (List Fields)
  | [] => .ok []
  | entity :: rest =>
    if matching entity then (change entity).map (· :: rest)
    else (changeFirst matching change rest).map (entity :: ·)

/-- `_upsert_block`, followed by what the caller does with the block. -/
def upsertBlock (state : StreamState) (payload : Fields) (status : String) (modelCallId : Json)
    (change : Fields → Except StreamError Fields) : Except StreamError StreamState :=
  match (payload.get "block_id").identifier? with
  | none => .error .missingBlockId
  | some id =>
    if state.blocks.any (hasId "block_id" id) then do
      let blocks ← changeFirst (hasId "block_id" id)
        (fun block => change (block.insert "status" (.str status))) state.blocks
      return { state with blocks := blocks }
    else do
      let created ← newBlock interpreter payload id status modelCallId
      let block ← change created
      return { state with blocks := state.blocks ++ [block] }

def upsertItem (operation : String) (item : Fields) (items : List Json) : List Json :=
  match (item.get "id").text? with
  | none => items ++ [item.toJson]
  | some id =>
    let matching (existing : Json) : Bool :=
      match Fields.ofJson existing with
      | some fields => hasId "id" id fields
      | none => false
    let change (existing : Json) : Json :=
      if operation = "item_patch" then
        match Fields.ofJson existing with
        | some fields => Fields.toJson (fields.merge item)
        | none => existing
      else
        item.toJson
    upsertFirst matching item.toJson change items

def appendBlockText (operation : String) (payload block : Fields) : Fields :=
  match payload.get "text" with
  | .str text =>
    if operation = "append" then
      block.insert "text" (.str (boundedStreamText
        (textOr interpreter (block.get "text") "" ++ text) blockTextMaxChars))
    else
      block
  | _ => block

def applyBlockItem (operation : String) (payload block : Fields) : Except StreamError Fields :=
  if operation = "item_upsert" ∨ operation = "item_patch" then
    match Fields.ofJson (payload.get "item") with
    | none => .error .missingItem
    | some item =>
      let items := match block.get "items" with
        | .arr items => items
        | _ => []
      .ok (block.insert "items" (.arr (upsertItem operation item items)))
  else
    .ok block

/-- `_apply_block_delta` on its block. -/
def applyBlockDelta (payload block : Fields) : Except StreamError Fields :=
  let operation := textOr interpreter (payload.get "operation") "append"
  (applyBlockItem operation payload (appendBlockText interpreter operation payload block)).map
    fun changed =>
      if (payload.get "redacted").truthy then changed.insert "redacted" (.bool true) else changed

/-- The changes of `block.completed`. -/
def completeBlock (payload block : Fields) : Fields :=
  ((block.insert "status" (.str (textOr interpreter (payload.get "status") "completed"))).insert
    "completion_reason"
    (.str (textOr interpreter (payload.get "completion_reason") "upstream_completed"))).insert
    "partial" (.bool (payload.get "partial").truthy)

def withoutEmptyName (toolCall incoming : Fields) : Fields :=
  if (toolCall.get "tool_name").identifier?.isSome ∧ ¬ (incoming.get "tool_name").truthy then
    incoming.erase "tool_name"
  else
    incoming

/-- `value in ({}, "", None)`. -/
def emptyArguments : Json → Bool
  | .obj [] | .str "" | .null => true
  | _ => false

def withoutEmptyArguments (toolCall incoming : Fields) : Fields :=
  match toolCall.get "arguments" with
  | .obj (_ :: _) =>
    if emptyArguments (incoming.get "arguments") then incoming.erase "arguments" else incoming
  | _ => incoming

def incomingToolCall (toolCall payload : Fields) : Fields :=
  withoutEmptyArguments toolCall (withoutEmptyName toolCall payload)

def upsertToolCall (state : StreamState) (payload : Fields) : Except StreamError StreamState :=
  match (payload.get "tool_call_id").identifier? with
  | none => .error .missingToolCallId
  | some id =>
    .ok { state with
      toolCalls := upsertFirst (hasId "tool_call_id" id) payload
        (fun toolCall => toolCall.merge (incomingToolCall toolCall payload)) state.toolCalls }

/-- The changes of `tool_call.completed` after the upsert. -/
def completeToolCall (payload toolCall : Fields) : Fields :=
  (toolCall.insert "status" (.str (textOr interpreter (payload.get "status") "incomplete"))).insert
    "completion_reason"
    (.str (textOr interpreter (payload.get "completion_reason") "execution_lost"))

def boundedField (fields : Fields) (name : String) : Fields :=
  match fields.get name with
  | .str text => fields.insert name (.str (boundedStreamText text toolTextMaxChars))
  | _ => fields

def boundedToolPayload (payload : Fields) : Fields :=
  ["result", "error"].foldl boundedField payload

def upsertTool (state : StreamState) (payload : Fields) (status : String) :
    Except StreamError StreamState :=
  match (payload.get "tool_execution_id").identifier? with
  | none => .error .missingToolExecutionId
  | some id =>
    let bounded := boundedToolPayload payload
    .ok { state with
      toolExecutions := upsertFirst (hasId "tool_execution_id" id)
        (bounded.insert "status" (.str status))
        (fun execution => (execution.merge bounded).insert "status" (.str status))
        state.toolExecutions }

def toolActiveState (kind phase idKey : String) (payload : Fields) (status : String) :
    List (String × Json) :=
  [("kind", .str kind), ("phase", .str phase),
    ("entity_id", .str (textOr interpreter (payload.get idKey) ""))] ++
  (if idKey = "tool_execution_id" then
    [("tool_execution_id", payload.get "tool_execution_id")] else []) ++
  [("tool_call_id", payload.get "tool_call_id"),
    ("tool_invocation_id", payload.get "tool_invocation_id"),
    ("tool_attempt_id", payload.get "tool_attempt_id"), ("status", .str status)]

/-- The activity after `_apply_activity_event` has merged the payload. -/
def projectActivity (stage : ActivityStage) (payload activity : Fields) : Fields :=
  let merged : Fields := activity.merge payload
  match stage with
  | .started => merged.insert "status" (.str "running")
  | .updated =>
    merged.insert "status" (.str (((payload.get "status").orElse
      ((merged.get "status").orElse (.str "running"))).toText interpreter))
  | .completed => merged.insert "status" (.str "completed")
  | .failed => merged.insert "status" (.str (textOr interpreter (payload.get "status") "failed"))
  | .other _ => merged

def applyActivityEvent (state : StreamState) (stage : ActivityStage) (payload : Fields) :
    Except StreamError StreamState :=
  match (payload.get "activity_id").identifier? with
  | none => .error (.missingActivityId (EventType.activity stage).name)
  | some id =>
    let matching := hasId "activity_id" id
    let created : Fields := Dictionary.ofList [("activity_id", .str id)]
    let activity := projectActivity interpreter stage payload
      ((state.activities.find? matching).getD created)
    match activity.lookup "status" with
    | none => .error .missingStatus
    | some status =>
      .ok ({ state with
        activities := upsertFirst matching activity (fun _ => activity)
          state.activities }.setActiveState [
        ("kind", .str "activity"), ("phase", status), ("entity_id", .str id),
        ("activity_id", .str id), ("activity_kind", activity.get "kind"),
        ("status", status), ("detail_ref", activity.get "detail_ref")])

def finishRunningModelCalls (outcome : String) (state : StreamState) : StreamState :=
  { state with
    modelCalls := state.modelCalls.map fun call =>
      if hasStatus "running" call then
        (((call.insert "status" (.str "failed")).insert "outcome" (.str outcome)).insert
          "retryable" (.bool false)).insert "completion_reason" (.str outcome)
      else
        call }

def finishRunningBlocks (status : String) (state : StreamState) : StreamState :=
  { state with
    blocks := state.blocks.map fun block =>
      if hasStatus "running" block then
        ((block.insert "status" (.str status)).insert "completion_reason"
          (.str (if status = "interrupted" then "user_interrupt" else "execution_lost"))).insert
          "partial" (.bool true)
      else
        block }

def activeToolCallStatuses : List String := ["accumulating", "streaming", "running"]

/-- `_finish_running_tool_calls` on one tool call. -/
def finishToolCall (reason : String) (toolCall : Fields) : Except StreamError Fields := do
  let active ← statusIn activeToolCallStatuses toolCall
  if active then
    let complete := toolCall.get "arguments_complete" matches .bool true
    let status := if reason = "user_interrupt" ∧ complete then "cancelled" else "incomplete"
    return (toolCall.insert "status" (.str status)).insert "completion_reason" (.str reason)
  else
    return toolCall

def finishRunningToolCalls (reason : String) (state : StreamState) :
    Except StreamError StreamState := do
  let toolCalls ← state.toolCalls.mapM (finishToolCall reason)
  return { state with toolCalls := toolCalls }

def markRunningToolsUnknown (state : StreamState) : StreamState :=
  { state with
    toolExecutions := state.toolExecutions.map fun execution =>
      if hasStatus "running" execution then
        ((execution.insert "status" (.str "completed")).insert "outcome"
          (.str "outcome_unknown")).insert "completion_reason" (.str "execution_lost")
      else
        execution }

def activeActivityStatuses : List String := ["running", "waiting", "stopping"]

def outcomeUnknown (outcome : String) (activity : Fields) : Except StreamError Bool :=
  if outcome = "user_interrupt" then
    match memberOf ["none", "read_only"] (activity.get "side_effect_policy") with
    | some harmless => .ok (!harmless)
    | none => .error .unhashable
  else
    .ok false

/-- `_finish_running_activities` on one activity. -/
def finishActivity (terminalStatus outcome completionReason : String) (activity : Fields) :
    Except StreamError Fields := do
  let active ← statusIn activeActivityStatuses activity
  if active then
    let unknown ← outcomeUnknown outcome activity
    let status := if unknown then "failed" else terminalStatus
    let finished := ((activity.insert "status" (.str status)).insert "outcome"
      (.str (if unknown then "outcome_unknown" else outcome))).insert
      "completion_reason" (.str completionReason)
    return if status = "failed" then finished.insert "resumable" (.bool false) else finished
  else
    return activity

def finishRunningActivities (terminalStatus outcome completionReason : String)
    (state : StreamState) : Except StreamError StreamState := do
  let activities ←
    state.activities.mapM (finishActivity terminalStatus outcome completionReason)
  return { state with activities := activities }

/-- The order in which `stream.interrupted` and `stream.failed` close entities. -/
def finishEntities (modelOutcome blockStatus activityStatus : String) (state : StreamState) :
    Except StreamError StreamState := do
  let state := finishRunningBlocks blockStatus (finishRunningModelCalls modelOutcome state)
  let state ← finishRunningToolCalls modelOutcome state
  finishRunningActivities activityStatus modelOutcome modelOutcome
    (markRunningToolsUnknown state)

def setTerminalActiveState (state : StreamState) (status : String) (payload : Fields) :
    StreamState :=
  state.setActiveState [
    ("kind", .str "terminal"), ("phase", .str status),
    ("entity_id", .str state.identity.turnStreamId), ("status", .str status),
    ("last_kind", state.lastActive "kind"), ("last_phase", state.lastActive "phase"),
    ("reason", (payload.get "completion_reason").orElse
      ((payload.get "code").orElse (.str status)))]

def reasoningCarriers : List String :=
  ["reasoning", "reasoning_content", "reasoning_items", "thinking", "redacted_thinking"]

/-- `apply_event` before the lifecycle marks. -/
def projectEvent (state : StreamState) (event : StreamEvent) : Except StreamError StreamState :=
  let payload := event.payload
  match event.type with
  | .streamOpened => .ok { state with streamStatus := .opened, activeState := none }
  | .modelStarted => do
      let attempt ← intOrZero interpreter (payload.get "attempt")
      let started := { state with
        currentModelCallId := payload.get "model_call_id"
        currentAttempt := attempt
        agentLoopStatus := "model_running" }
      return (upsertModelCall started payload "running").setActiveState [
        ("kind", .str "model_output"), ("phase", .str "reasoning"),
        ("entity_id", .str (textOr interpreter (payload.get "model_call_id") "")),
        ("status", .str "running")]
  | .modelCompleted =>
    .ok (upsertModelCall { state with agentLoopStatus := "validating" } payload "completed")
  | .modelFailed =>
    .ok { upsertModelCall { state with agentLoopStatus := "validating" } payload "failed" with
      failure := some payload }
  | .modelRetrying =>
    .ok { state with
      agentLoopStatus := "retrying"
      blocks := state.blocks.map fun block =>
        if (block.get "model_call_id").sameValue state.currentModelCallId then
          block.insert "projection" (.str "intermediate")
        else
          block }
  | .blockStarted => do
      let started ← upsertBlock interpreter state payload "running"
        (event.fields.get "model_call_id") .ok
      let carrierType := textOr interpreter (payload.get "carrier_type") "text"
      return started.setActiveState [
        ("kind", .str "model_output"),
        ("phase", .str (if reasoningCarriers.contains carrierType then "reasoning" else "text")),
        ("entity_id", .str (textOr interpreter (payload.get "block_id") "")),
        ("block_id", payload.get "block_id"), ("carrier_type", .str carrierType),
        ("status", .str "running")]
  | .blockDelta =>
    upsertBlock interpreter state payload "running" (event.fields.get "model_call_id")
      (applyBlockDelta interpreter payload)
  | .blockCompleted =>
    match (payload.get "block_id").text? with
    | none => .ok state
    | some id =>
      .ok { state with
        blocks := updateFirst (hasId "block_id" id) (completeBlock interpreter payload)
          state.blocks }
  | .toolCall | .toolCallDelta => do
      let called ← upsertToolCall state payload
      return called.setActiveState (toolActiveState interpreter "tool_call" "accumulating"
        "tool_call_id" payload (textOr interpreter (payload.get "status") "running"))
  | .toolCallCompleted => do
      let called ← upsertToolCall state payload
      let completed := match (payload.get "tool_call_id").text? with
        | none => called
        | some id =>
          { called with
            toolCalls := updateFirst (hasId "tool_call_id" id)
              (completeToolCall interpreter payload) called.toolCalls }
      return completed.setActiveState (toolActiveState interpreter "tool_call" "stopping"
        "tool_call_id" payload (textOr interpreter (payload.get "status") "incomplete"))
  | .toolStarted => do
      let started ← upsertTool state payload "running"
      return { started with agentLoopStatus := "tool_running" }.setActiveState
        (toolActiveState interpreter "tool_execution" "running" "tool_execution_id" payload
          "running")
  | .toolCompleted => do
      let reported := textOr interpreter (payload.get "status") "completed"
      let status := if reported = "outcome_unknown" then "completed" else reported
      let completed ← upsertTool state payload status
      return completed.setActiveState (toolActiveState interpreter "tool_execution" "stopping"
        "tool_execution_id" payload status)
  | .activity stage => applyActivityEvent interpreter state stage payload
  | .interruptRequested =>
    .ok { state with
      interruptState := some (Dictionary.ofList [
        ("request_id", payload.get "interrupt_request_id"), ("status", .str "requested"),
        ("reason", payload.get "reason")])
      streamStatus := .interrupting
      activeState := some (Dictionary.ofList [
        ("kind", .str "interrupting"), ("phase", .str "stopping"),
        ("entity_id", .str (textOr interpreter (payload.get "interrupt_request_id") "")),
        ("status", .str "stopping"), ("last_kind", state.lastActive "kind"),
        ("last_phase", state.lastActive "phase"), ("reason", payload.get "reason")]) }
  | .interruptRejected =>
    if state.streamStatus = .interrupting then
      .ok state
    else
      .ok { state with
        interruptState := some (Dictionary.ofList [
          ("request_id", payload.get "interrupt_request_id"), ("status", .str "rejected"),
          ("reason", payload.get "reason")]) }
  | .streamCompleted =>
    .ok (setTerminalActiveState { state with
      streamStatus := .completed
      agentLoopStatus := "completed"
      resumable := false } "completed" payload)
  | .streamInterrupted => do
      let finished ← finishEntities "user_interrupt" "interrupted" "completed" { state with
        streamStatus := .interrupted
        agentLoopStatus := "interrupted"
        resumable := false }
      let settled := setTerminalActiveState finished "interrupted" payload
      return { settled with
        interruptState := match settled.interruptState with
          | none => some (Dictionary.ofList [
              ("request_id", payload.get "interrupt_request_id"), ("status", .str "confirmed")])
          | some requested => some (requested.insert "status" (.str "confirmed")) }
  | .streamFailed => do
      let finished ← finishEntities "execution_lost" "failed" "failed" { state with
        streamStatus := .failed
        agentLoopStatus := "failed"
        failure := some payload
        resumable := (payload.get "resumable").truthy }
      let lost := (payload.get "code").text? = some "execution_lost"
      return setTerminalActiveState { finished with
        recovery := some (Dictionary.ofList [
          ("status", .str (if lost then "execution_lost" else "failed")),
          ("code", payload.get "code"), ("message", payload.get "message"),
          ("resumable", .bool (payload.get "resumable").truthy)]) } "failed" payload
  | .other _ => .ok state

end

namespace StreamEvent

/-- `_event_timestamp`. -/
def timestamp (event : StreamEvent) : Option String :=
  if event.emittedAt ≠ "" then some event.emittedAt
  else (event.payload.get "updated_at").identifier?

def completes (event : StreamEvent) : Bool :=
  match event.type with
  | .modelCompleted | .modelFailed | .blockCompleted | .toolCallCompleted | .toolCompleted
  | .activity .completed | .activity .failed => true
  | _ => false

/-- `payload.get(key) or event.get(key)`. -/
def idField (event : StreamEvent) (key : String) : Json :=
  (event.payload.get key).orElse (event.fields.get key)

/-- The entity that `_mark_event_lifecycle` looks for. -/
def target (event : StreamEvent) : Option (EntityKind × String) :=
  match event.type.entityKind with
  | none => none
  | some kind =>
    let id :=
      match kind with
      | .block => (event.idField "block_id").text?
      | .activity => (event.payload.get "activity_id").identifier?
      | kind => (event.idField kind.idKey).identifier?
    id.map (kind, ·)

end StreamEvent

def stampEntity (seqKey timeKey : String) (event : StreamEvent) (entity : Fields) : Fields :=
  let stamped : Fields := entity.insert seqKey (.int event.eventSeq)
  match event.timestamp with
  | some timestamp => stamped.insert timeKey (.str timestamp)
  | none => stamped

/-- Not a positive integer. -/
def lacksStart (value : Json) : Bool :=
  match value.int? with
  | some seq => seq ≤ 0
  | none => true

def reachedBy (seq : Nat) (value : Json) : Bool :=
  match value.int? with
  | some earlier => earlier ≤ seq
  | none => true

def stampWhen (condition : Json → Bool) (seqKey timeKey : String) (event : StreamEvent)
    (entity : Fields) : Fields :=
  if condition (entity.get seqKey) then stampEntity seqKey timeKey event entity else entity

def markEntityLifecycle (event : StreamEvent) (completed : Bool) (entity : Fields) : Fields :=
  let started := stampWhen lacksStart "started_seq" "started_at" event entity
  let updated := stampWhen (reachedBy event.eventSeq) "last_event_seq" "updated_at" event started
  if completed then
    stampWhen (reachedBy event.eventSeq) "completed_seq" "completed_at" event updated
  else
    updated

/-- The mark of a terminal event: only entities without `completed_seq`. -/
def markUncompleted (event : StreamEvent) (entity : Fields) : Fields :=
  if entity.has "completed_seq" then entity else markEntityLifecycle event true entity

def markEventLifecycle (state : StreamState) (event : StreamEvent) : StreamState :=
  match event.type with
  | .streamInterrupted | .streamFailed =>
    { state with
      modelCalls := state.modelCalls.map (markUncompleted event)
      blocks := state.blocks.map (markUncompleted event)
      toolCalls := state.toolCalls.map (markUncompleted event)
      toolExecutions := state.toolExecutions.map (markUncompleted event)
      activities := state.activities.map (markUncompleted event) }
  | _ =>
    match event.target with
    | none => state
    | some (kind, id) =>
      state.setEntities kind (updateFirst (hasId kind.idKey id)
        (markEntityLifecycle event event.completes) (state.entities kind))

def backfillLifecycleMetadata (state : StreamState) (events : List StreamEvent) : StreamState :=
  events.foldl markEventLifecycle state

def applyEvent (interpreter : Interpreter) (state : StreamState) (event : StreamEvent) :
    Except StreamError StreamState := do
  validateEventPayload event.type event.payload
  let projected ← projectEvent interpreter state event
  return markEventLifecycle projected event

end GraphAgent.MessageStream
