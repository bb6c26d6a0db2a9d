import GraphAgent.CarrierDedup
import GraphAgent.ToolCallChunks

/-!
# Tool attempts

`start_tool`, `complete_tool`, `complete_tool_from_message` and the failure
cleanup of `app/services/orchestration/tool_call_registry.py`, with one phase
for every await.  What stands between two awaits is one step; any other task may
run between two steps.  The writer and the sinks are present.
-/

namespace GraphAgent.ToolAttempts

open ToolCallChunks (Registry invocationIdFor)

/-- What an await raises. -/
inductive Failure where
  | cancelled
  | exception
  deriving DecidableEq

inductive ToolOutcome where
  | success
  | failure
  | cancelled
  | unknown
  deriving DecidableEq

/-- `ToolResultCompletion`, and the canonical result that is made of it. -/
structure ToolResultCompletion where
  modelCallId : Option String
  toolCallId : String
  toolInvocationId : String
  toolAttemptId : String
  toolName : String
  content : String
  toolOutcome : ToolOutcome
  deriving DecidableEq

namespace ToolResultCompletion

/-- `ToolResultCompletion.__post_init__`. -/
def wellFormed (completion : ToolResultCompletion) : Bool :=
  (completion.modelCallId.any (· ≠ "")) && completion.toolCallId ≠ "" &&
    completion.toolInvocationId ≠ "" && completion.toolAttemptId ≠ "" && completion.toolName ≠ ""

def itemId (completion : ToolResultCompletion) : String :=
  "item-" ++ completion.toolAttemptId ++ "-result-" ++ completion.toolCallId

end ToolResultCompletion

/-- The payload of `tool.completed`. -/
structure CompletedPayload where
  toolExecutionId : String
  toolCallId : String
  toolInvocationId : String
  toolName : String
  status : String
  outcome : String
  completionReason : String
  result : String
  error : Option String
  deriving DecidableEq

structure PendingToolCompletion where
  eventId : Nat
  modelCallId : Option String
  toolExecutionId : String
  toolCallId : String
  toolInvocationId : String
  toolName : String
  payload : CompletedPayload
  deriving DecidableEq

/-- What the two stores hold, in the order of their commits. -/
inductive Record where
  | callCompleted (toolCallId toolInvocationId toolName : String) (argumentsComplete : Bool)
  | started (toolExecutionId toolCallId toolInvocationId toolName : String)
  | result (item : ToolResultCompletion)
  | completed (event : PendingToolCompletion)

inductive StartFuture where
  | pending
  | started (toolExecutionId toolName : String)
  | failed (failure : Failure)
  deriving DecidableEq

/-- An attempt as `start_tool` goes on with it. -/
structure Attempt where
  toolExecutionId : String
  toolCallId : String
  toolName : String
  deriving DecidableEq

/-- The arguments of `complete_tool`. -/
structure CompletionRequest where
  toolExecutionId : String
  toolCallId : String
  toolName : String
  status : String
  result : String
  error : Option String := none
  outcome : Option String := none
  completionReason : Option String := none
  deriving DecidableEq

/-- What `complete_tool` has made when it awaits the sink. -/
structure Prepared where
  completion : ToolResultCompletion
  payload : CompletedPayload
  deriving DecidableEq

inductive ToolError where
  | startIdentity
  | manyAttempts (toolCallId : String)
  | pendingIdentity (toolExecutionId : String)
  | otherAttempt (toolCallId previous current : String)
  | incompleteIdentity
  /-- `InvalidStateError` of a future that is done. -/
  | futureDone
  | sinkRefused
  | observer
  | raised (failure : Failure)
  deriving DecidableEq

inductive Phase where
  | idle
  /-- Awaits the commit of `tool_call.completed`. -/
  | declaring (attempt : Attempt)
  /-- Awaits the commit of `tool.started`. -/
  | starting (attempt : Attempt)
  /-- Awaits the start of an attempt, with the result of its message. -/
  | waiting (future : Nat) (toolCallId result : String) (succeeded : Bool)
  | acquiring (request : CompletionRequest) (further : List CompletionRequest)
  | sinking (prepared : Prepared) (further : List CompletionRequest)
  /-- Holds the lock and awaits the commit of `tool.completed`. -/
  | committing (pending : PendingToolCompletion) (observerFailed : Bool)
      (further : List CompletionRequest)
  | returned
  | failed (error : ToolError)
  deriving DecidableEq

structure ToolState where
  registry : Registry
  active : Dictionary String (String × String)
  pendingStarts : Dictionary String Nat
  futures : Nat → StartFuture
  futureCount : Nat
  pendingCompletions : Dictionary String PendingToolCompletion
  completedExecutions : List String
  completedCalls : List String
  /-- `_completed_tool_result_execution_by_call_id`; its keys are the other set. -/
  resultExecutions : Dictionary String String
  lock : Option Nat
  tasks : Nat → Phase
  eventCount : Nat
  log : List Record
  /-- What the writer was given for `tool.completed`, committed or not. -/
  sent : List PendingToolCompletion

namespace ToolState

def initial (registry : Registry) : ToolState where
  registry
  active := .empty
  pendingStarts := .empty
  futures := fun _ => .pending
  futureCount := 0
  pendingCompletions := .empty
  completedExecutions := []
  completedCalls := []
  resultExecutions := .empty
  lock := none
  tasks := fun _ => .idle
  eventCount := 0
  log := []
  sent := []

def moveTo (state : ToolState) (task : Nat) (phase : Phase) : ToolState :=
  { state with tasks := Function.update state.tasks task phase }

def append (state : ToolState) (record : Record) : ToolState :=
  { state with log := state.log ++ [record] }

def settle (state : ToolState) (future : Nat) (result : StartFuture) : ToolState :=
  { state with futures := Function.update state.futures future result }

def resolveToolCallId (state : ToolState) (toolCallId : String) : String :=
  let registry := state.registry
  if registry.modelCallIds.has toolCallId then toolCallId
  else match registry.idsByProviderKey.lookup (registry.currentModelCallId, toolCallId) with
    | some current => current
    | none =>
      match registry.idsByProviderKey.entries.reverse.find? fun entry =>
          entry.1.2 = toolCallId with
      | some entry => entry.2
      | none => toolCallId

def register (state : ToolState) (toolCallId : String) : ToolState :=
  let owned := { state.registry with
    modelCallIds := state.registry.modelCallIds.setDefault toolCallId
      state.registry.currentModelCallId }
  { state with registry := { owned with
      invocationIds := owned.invocationIds.setDefault toolCallId
        (invocationIdFor owned toolCallId none) } }

def modelCallOf (state : ToolState) (toolCallId : String) : Option String :=
  (state.registry.modelCallIds.lookup toolCallId).join

def invocationOf (state : ToolState) (toolCallId : String) : String :=
  invocationIdFor state.registry toolCallId none

/-- `start_tool` up to its first await. -/
def startTool (state : ToolState) (task : Nat) (toolExecutionId toolCallId toolName : String) :
    ToolState :=
  if toolExecutionId ∈ state.completedExecutions then state.moveTo task .returned
  else match state.active.lookup toolExecutionId with
    | some previous =>
      if previous ≠ (toolCallId, toolName) then state.moveTo task (.failed .startIdentity)
      else state.moveTo task .returned
    | none =>
      let callId := state.resolveToolCallId toolCallId
      let attempt := ⟨toolExecutionId, callId, toolName⟩
      (state.register callId).moveTo task
        (if callId ∈ state.completedCalls then .starting attempt else .declaring attempt)

/-- The `except` clause of `start_tool`. -/
def failStart (state : ToolState) (task : Nat) (attempt : Attempt) (failure : Failure) :
    ToolState :=
  let settled : ToolState := match state.pendingStarts.lookup attempt.toolCallId with
    | none => state
    | some future =>
      if state.futures future = .pending then state.settle future (.failed failure) else state
  settled.moveTo task (.failed (.raised failure))

/-- The end of `start_tool`. -/
def finishStart (state : ToolState) (task : Nat) (attempt : Attempt) : ToolState :=
  let started := { state with
    active := state.active.insert attempt.toolExecutionId (attempt.toolCallId, attempt.toolName)
    pendingStarts := state.pendingStarts.erase attempt.toolCallId }
  match state.pendingStarts.lookup attempt.toolCallId with
  | none => started.moveTo task .returned
  | some future =>
    if state.futures future = .pending then
      (started.settle future (.started attempt.toolExecutionId attempt.toolName)).moveTo task
        .returned
    else started.moveTo task (.failed .futureDone)

def attemptsOf (state : ToolState) (toolCallId : String) : List (String × String) :=
  state.active.entries.filterMap fun entry =>
    if entry.2.1 = toolCallId then some (entry.1, entry.2.2) else none

/-- `complete_tool` up to the lock. -/
def completeTool (state : ToolState) (task : Nat) (request : CompletionRequest)
    (further : List CompletionRequest) : ToolState :=
  state.moveTo task (.acquiring
    { request with toolCallId := state.resolveToolCallId request.toolCallId } further)

def proceed (state : ToolState) (task : Nat) : List CompletionRequest → ToolState
  | [] => state.moveTo task .returned
  | request :: further => state.completeTool task request further

def normalizedStatus (request : CompletionRequest) : String :=
  if request.status = "succeeded" then "completed" else request.status

/-- `outcome or ...`, with the two names of an unknown outcome made one. -/
def normalizedOutcome (request : CompletionRequest) : String :=
  let outcome := (request.outcome.filter (· ≠ "")).getD
    (if normalizedStatus request = "completed" then "success" else "provider_error")
  if outcome = "unknown" then "outcome_unknown" else outcome

def resultOutcome (request : CompletionRequest) : ToolOutcome :=
  let outcome := normalizedOutcome request
  if outcome = "outcome_unknown" then .unknown
  else if outcome = "success" then .success
  else if outcome = "cancelled" ∨ outcome = "user_interrupt" then .cancelled
  else if normalizedStatus request = "failed" ∨ request.error.isSome then .failure
  else .unknown

def prepare (state : ToolState) (request : CompletionRequest) : Prepared where
  completion :=
    { modelCallId := state.modelCallOf request.toolCallId
      toolCallId := request.toolCallId
      toolInvocationId := state.invocationOf request.toolCallId
      toolAttemptId := request.toolExecutionId
      toolName := request.toolName
      content := request.result
      toolOutcome := resultOutcome request }
  payload :=
    { toolExecutionId := request.toolExecutionId
      toolCallId := request.toolCallId
      toolInvocationId := state.invocationOf request.toolCallId
      toolName := request.toolName
      status := normalizedStatus request
      outcome := normalizedOutcome request
      completionReason := (request.completionReason.filter (· ≠ "")).getD
        (if normalizedOutcome request = "success" then "tool_completed" else "provider_failed")
      result := request.result
      error := request.error }

/-- `_commit_pending_tool_completion` up to its await. -/
def sendPending (state : ToolState) (task : Nat) (pending : PendingToolCompletion)
    (observerFailed : Bool) (further : List CompletionRequest) : ToolState :=
  { state with lock := some task, sent := state.sent ++ [pending] }.moveTo task
    (.committing pending observerFailed further)

/-- `complete_tool` from the lock to its first await. -/
def enterCompletion (state : ToolState) (task : Nat) (request : CompletionRequest)
    (further : List CompletionRequest) : ToolState :=
  if request.toolExecutionId ∈ state.completedExecutions then state.proceed task further
  else match state.pendingCompletions.lookup request.toolExecutionId with
    | some pending =>
      if pending.toolCallId ≠ request.toolCallId ∨ pending.toolName ≠ request.toolName then
        state.moveTo task (.failed (.pendingIdentity request.toolExecutionId))
      else state.sendPending task pending false further
    | none =>
      match state.resultExecutions.lookup request.toolCallId with
      | some previous =>
        if previous = request.toolExecutionId then state.proceed task further
        else state.moveTo task (.failed
          (.otherAttempt request.toolCallId previous request.toolExecutionId))
      | none =>
        let registered := state.register request.toolCallId
        let prepared := registered.prepare request
        if prepared.completion.wellFormed then
          { registered with lock := some task }.moveTo task (.sinking prepared further)
        else registered.moveTo task (.failed .incompleteIdentity)

def results (log : List Record) : List ToolResultCompletion :=
  log.filterMap fun
    | .result item => some item
    | _ => none

/-- `commit_tool_result`: a result of the item or of the call must be the one of this
attempt.  An unknown outcome leaves it as it is, any other must agree with it. -/
def commitToolResult (log : List Record) (completion : ToolResultCompletion) :
    Option (List Record × ToolResultCompletion) :=
  match (results log).filter fun item =>
      item.itemId = completion.itemId ∨ item.toolCallId = completion.toolCallId with
  | [] => some (log ++ [.result completion], completion)
  | existing :: others =>
    if (existing :: others).all (fun item =>
        item.toolAttemptId = completion.toolAttemptId ∧ item.toolCallId = completion.toolCallId ∧
          item.toolInvocationId = completion.toolInvocationId ∧
          item.toolName = completion.toolName ∧ item.modelCallId = completion.modelCallId) then
      if completion.toolOutcome = .unknown ∨ existing = completion then some (log, existing)
      else none
    else none

def persistedPayload (payload : CompletedPayload) (item : ToolResultCompletion) :
    CompletedPayload :=
  match item.toolOutcome with
  | .unknown => { payload with result := item.content, outcome := "outcome_unknown" }
  | .success => { payload with
      result := item.content
      outcome := "success"
      status := "completed"
      error := none
      completionReason := "tool_completed" }
  | .cancelled => { payload with
      result := item.content
      outcome := "cancelled"
      status := "completed"
      error := none
      completionReason := "user_interrupt" }
  | .failure => { payload with
      result := item.content
      outcome := "provider_error"
      status := "failed"
      error := none
      completionReason := "tool_completed" }

/-- `_pending_tool_completion` and the commit of it. -/
def makePending (state : ToolState) (task : Nat) (prepared : Prepared)
    (payload : CompletedPayload) (observerFailed : Bool) (further : List CompletionRequest) :
    ToolState :=
  let pending : PendingToolCompletion :=
    { eventId := state.eventCount
      modelCallId := prepared.completion.modelCallId
      toolExecutionId := prepared.completion.toolAttemptId
      toolCallId := prepared.completion.toolCallId
      toolInvocationId := prepared.completion.toolInvocationId
      toolName := prepared.completion.toolName
      payload }
  { state with
    eventCount := state.eventCount + 1
    pendingCompletions := state.pendingCompletions.insert pending.toolExecutionId pending
    }.sendPending task pending observerFailed further

def failLocked (state : ToolState) (task : Nat) (error : ToolError) : ToolState :=
  { state with lock := none }.moveTo task (.failed error)

inductive SinkFault where
  | raised (failure : Failure) (durable : Bool)
  /-- `CanonicalItemObserverError`, after the commit of exactly this item. -/
  | observer

/-- `complete_tool` after the sink. -/
def afterSink (state : ToolState) (task : Nat) (prepared : Prepared)
    (further : List CompletionRequest) (fault : Option SinkFault) : ToolState :=
  match commitToolResult state.log prepared.completion, fault with
  | _, some (.raised failure false) => state.failLocked task (.raised failure)
  | none, some (.raised failure true) => state.failLocked task (.raised failure)
  | some (log, _), some (.raised failure true) =>
    { state with log }.failLocked task (.raised failure)
  | none, _ => state.failLocked task .sinkRefused
  | some (log, _), some .observer =>
    if prepared.completion.toolOutcome = .unknown then
      { state with log }.failLocked task .observer
    else { state with log }.makePending task prepared prepared.payload true further
  | some (log, item), none =>
    { state with log }.makePending task prepared
      (if prepared.completion.toolOutcome = ToolOutcome.unknown then
        persistedPayload prepared.payload item
      else prepared.payload) false further

def recordCompleted (log : List Record) (pending : PendingToolCompletion) : List Record :=
  if log.any (fun
      | .completed event => event.eventId = pending.eventId
      | _ => false) then log
  else log ++ [.completed pending]

/-- `_commit_pending_tool_completion` after its await. -/
def finishCompletion (state : ToolState) (task : Nat) (pending : PendingToolCompletion)
    (observerFailed : Bool) (further : List CompletionRequest) : ToolState :=
  let finished := { state with
    log := recordCompleted state.log pending
    lock := none
    pendingCompletions := state.pendingCompletions.erase pending.toolExecutionId
    active := state.active.erase pending.toolExecutionId
    completedExecutions := pending.toolExecutionId :: state.completedExecutions
    resultExecutions :=
      state.resultExecutions.insert pending.toolCallId pending.toolExecutionId }
  if observerFailed then finished.moveTo task (.failed .observer)
  else finished.proceed task further

def messageRequest (toolExecutionId toolCallId toolName result : String) (succeeded : Bool) :
    CompletionRequest where
  toolExecutionId
  toolCallId
  toolName
  status := if succeeded then "succeeded" else "failed"
  result
  error := if succeeded then none else some result

/-- `self._tool_call_ids_by_provider_key.get((model_call_id, raw_call_id))`. -/
def emittedCall (state : ToolState) (modelCallId toolCallId : String) : Option String :=
  state.registry.idsByProviderKey.lookup (some modelCallId,
    Carriers.providerToolCallId (some
      { modelCallId := some modelCallId
        block := Carriers.ItemProjectionIdentity.noBlock modelCallId }) toolCallId)

/-- `complete_tool_from_message` up to its first await. -/
def completeToolFromMessage (state : ToolState) (task : Nat)
    (modelCallId toolCallId result : String) (succeeded : Bool) : ToolState :=
  match state.emittedCall modelCallId toolCallId with
  | none => state.moveTo task .returned
  | some callId =>
    if state.resultExecutions.has callId then state.moveTo task .returned
    else match state.attemptsOf callId with
      | [(toolExecutionId, toolName)] =>
        state.completeTool task
          (messageRequest toolExecutionId callId toolName result succeeded) []
      | _ :: _ => state.moveTo task (.failed (.manyAttempts callId))
      | [] =>
        match state.pendingStarts.lookup callId with
        | some future => state.moveTo task (.waiting future callId result succeeded)
        | none =>
          { state with
            futureCount := state.futureCount + 1
            pendingStarts := state.pendingStarts.insert callId state.futureCount
            }.moveTo task (.waiting state.futureCount callId result succeeded)

def cleanupRequest (error completionReason toolExecutionId toolCallId toolName : String) :
    CompletionRequest where
  toolExecutionId
  toolCallId
  toolName
  status := "failed"
  result := error
  error := some error
  outcome := some "outcome_unknown"
  completionReason := some completionReason

/-- `fail_tool_invocation` up to its first await. -/
def failToolInvocation (state : ToolState) (task : Nat) (modelCallId toolCallId error : String) :
    ToolState :=
  match state.emittedCall modelCallId toolCallId with
  | none => state.moveTo task .returned
  | some callId =>
    if state.resultExecutions.has callId then state.moveTo task .returned
    else match state.attemptsOf callId with
      | [(toolExecutionId, toolName)] =>
        state.completeTool task
          (cleanupRequest error "execution_error" toolExecutionId callId toolName) []
      | _ :: _ => state.moveTo task (.failed (.manyAttempts callId))
      | [] => state.moveTo task .returned

def openAttempts (state : ToolState) : List Attempt :=
  state.active.entries.map (fun entry => ⟨entry.1, entry.2.1, entry.2.2⟩) ++
    (state.pendingCompletions.entries.filter fun entry => !state.active.has entry.1).map
      fun entry => ⟨entry.1, entry.2.toolCallId, entry.2.toolName⟩

/-- `fail_active_tool_executions` up to its first await. -/
def failActiveToolExecutions (state : ToolState) (task : Nat)
    (completionReason error : String) : ToolState :=
  state.proceed task (state.openAttempts.map fun attempt =>
    cleanupRequest error completionReason attempt.toolExecutionId attempt.toolCallId
      attempt.toolName)

end ToolState

structure WriterFault where
  failure : Failure
  durable : Bool

inductive Action where
  | startTool (task : Nat) (toolExecutionId toolCallId toolName : String)
  | completeTool (task : Nat) (request : CompletionRequest)
  | completeToolFromMessage (task : Nat) (modelCallId toolCallId result : String)
      (succeeded : Bool)
  | failToolInvocation (task : Nat) (modelCallId toolCallId error : String)
  | failActiveToolExecutions (task : Nat) (completionReason error : String)
  | writerReturns (task : Nat) (fault : Option WriterFault)
  | sinkReturns (task : Nat) (fault : Option ToolState.SinkFault)
  | acquire (task : Nat)
  | wake (task : Nat)

namespace Phase

/-- A task that can make a call. -/
def free : Phase → Bool
  | .idle | .returned | .failed _ => true
  | _ => false

end Phase

namespace ToolState

def call (state : ToolState) (task : Nat) (after : ToolState) : Option ToolState :=
  if (state.tasks task).free then some after else none

def writerReturns (state : ToolState) (task : Nat) (fault : Option WriterFault) :
    Option ToolState :=
  match state.tasks task with
  | .declaring attempt =>
    let declared := state.append (.callCompleted attempt.toolCallId
      (state.invocationOf attempt.toolCallId) attempt.toolName
      ((state.registry.argumentsComplete.lookup attempt.toolCallId).getD false))
    match fault with
    | none => some ({ declared with
        completedCalls := attempt.toolCallId :: state.completedCalls }.moveTo task
          (.starting attempt))
    | some ⟨failure, durable⟩ =>
      some ((if durable then declared else state).failStart task attempt failure)
  | .starting attempt =>
    let started := state.append (.started attempt.toolExecutionId attempt.toolCallId
      (state.invocationOf attempt.toolCallId) attempt.toolName)
    match fault with
    | none => some (started.finishStart task attempt)
    | some ⟨failure, durable⟩ =>
      some ((if durable then started else state).failStart task attempt failure)
  | .committing pending observerFailed further =>
    match fault with
    | none => some (state.finishCompletion task pending observerFailed further)
    | some ⟨failure, durable⟩ =>
      some ({ state with
        log := if durable then recordCompleted state.log pending else state.log
        }.failLocked task (.raised failure))
  | _ => none

def step (state : ToolState) : Action → Option ToolState
  | .startTool task toolExecutionId toolCallId toolName =>
    state.call task (state.startTool task toolExecutionId toolCallId toolName)
  | .completeTool task request => state.call task (state.completeTool task request [])
  | .completeToolFromMessage task modelCallId toolCallId result succeeded =>
    state.call task (state.completeToolFromMessage task modelCallId toolCallId result succeeded)
  | .failToolInvocation task modelCallId toolCallId error =>
    state.call task (state.failToolInvocation task modelCallId toolCallId error)
  | .failActiveToolExecutions task completionReason error =>
    state.call task (state.failActiveToolExecutions task completionReason error)
  | .writerReturns task fault => state.writerReturns task fault
  | .sinkReturns task fault =>
    match state.tasks task with
    | .sinking prepared further => some (state.afterSink task prepared further fault)
    | _ => none
  | .acquire task =>
    match state.tasks task, state.lock with
    | .acquiring request further, none => some (state.enterCompletion task request further)
    | _, _ => none
  | .wake task =>
    match state.tasks task with
    | .waiting future toolCallId result succeeded =>
      match state.futures future with
      | .pending => none
      | .started toolExecutionId toolName =>
        some (state.completeTool task
          (messageRequest toolExecutionId toolCallId toolName result succeeded) [])
      | .failed failure => some (state.moveTo task (.failed (.raised failure)))
    | _ => none

def run (state : ToolState) : List Action → Option ToolState
  | [] => some state
  | action :: actions => (state.step action).bind fun after => after.run actions

end ToolState

end GraphAgent.ToolAttempts
