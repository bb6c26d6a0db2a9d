import GraphAgent.KeyedRows
import GraphAgent.Transactions

/-!
# The federation channel

The request side of one peer channel: the table of pending correlations, the
futures the requesters wait on, and what the reader does with a response.  A
requester that is timed out or cancelled leaves the table when its task runs
again, not when its timer fires.
-/

namespace GraphAgent.Federation

open KeyedRows

def federationErrorCodes : List String :=
  ["federation-missing-credential", "federation-invalid-credential", "federation-unknown-peer",
    "federation-malformed-frame", "federation-unknown-method", "federation-channel-closed",
    "federation-channel-heartbeat-timeout", "federation-channel-epoch-stale",
    "federation-grant-invalid-signature", "federation-grant-expired",
    "federation-grant-audience-mismatch", "federation-grant-path-mismatch",
    "federation-grant-origin-mismatch", "federation-grant-kind-mismatch",
    "federation-grant-lifetime-insufficient", "federation-grant-replay",
    "federation-grant-replay-conflict", "federation-transit-limit-exceeded",
    "federation-deadline-exceeded", "authorization-revoked", "federation-hardening-active",
    "target_not_resolvable", "target_ambiguous", "federation-capability-denied",
    "federation-session-main-unavailable", "federation-target-owner-rejected"]

/-- An error of the federation; its `detail` is a JSON object. -/
structure FederationError (Value : Type) where
  code : String
  message : String
  detail : Value
  registered : code ∈ federationErrorCodes
  named : message ≠ ""
  deriving DecidableEq

structure ErrorDetails (Value : Type) where
  empty : Value
  deadline : String → Value
  remoteCode : String → Value

def knownMethods : List String :=
  ["federation.discovery", "federation.relay", "federation.status", "gateway.skill_sources"]

structure WireError (Value : Type) where
  code : Option String
  message : Option String
  detail : Option Value

structure ResponsePayload (Value : Type) where
  correlationId : Option String
  ok : Bool
  result : Option Value
  error : Option (WireError Value)

/-- What the handler of the peer comes to. -/
inductive Answer (Value : Type) where
  | result (value : Value)
  | error (error : FederationError Value)

def buildResponseFrame {Value : Type} (correlationId : String) : Answer Value → ResponsePayload Value
  | .result value => ⟨some correlationId, true, some value, none⟩
  | .error error =>
    ⟨some correlationId, false, none, some ⟨some error.code, some error.message, some error.detail⟩⟩

inductive FutureState (Value : Type) where
  | pending
  | result (value : Value)
  | exception (error : FederationError Value)
  | cancelled

def FutureState.isDone {Value : Type} : FutureState Value → Bool
  | .pending => false
  | .result _ | .exception _ | .cancelled => true

/-- How a call of `request` ends. -/
inductive Outcome (Value : Type) where
  | result (value : Value)
  | error (error : FederationError Value)
  | cancelled
  deriving DecidableEq

inductive CallStage (Value : Type) where
  /-- `await transport.send_text(…)`. -/
  | sending
  /-- `await asyncio.wait_for(future, …)`. -/
  | waiting
  | ended (outcome : Outcome Value)
  deriving DecidableEq

namespace CallStage

def isSending {Value : Type} : CallStage Value → Bool
  | .sending => true
  | .waiting | .ended _ => false

def isWaiting {Value : Type} : CallStage Value → Bool
  | .waiting => true
  | .sending | .ended _ => false

end CallStage

/-- One call of `request`, with what its peer got and gave. -/
structure FederationCall (Value : Type) where
  correlationId : String
  method : String
  stage : CallStage Value
  future : FutureState Value
  timedOut : Bool
  cancelRequested : Bool
  delivered : Bool
  answer : Option (Answer Value)

structure FederationChannel (Value : Type) where
  closedReason : Option (FederationError Value)
  pending : List String
  calls : List (FederationCall Value)

variable {Value : Type}

namespace FederationError

def malformedFrame (message : String) (named : message ≠ "") (detail : Value) :
    FederationError Value :=
  ⟨"federation-malformed-frame", message, detail, by decide, named⟩

def make? (code message : String) (detail : Value) : Option (FederationError Value) :=
  if registered : code ∈ federationErrorCodes then
    if named : message ≠ "" then some ⟨code, message, detail, registered, named⟩ else none
  else
    none

def channelClosed (detail : Value) : FederationError Value :=
  ⟨"federation-channel-closed", "channel 已关闭，无法发起请求", detail, by decide, by decide⟩

def unknownCorrelation (correlationId : String) (detail : Value) : FederationError Value :=
  malformedFrame ("收到未知 correlation 的 response: " ++ correlationId)
    (by simp [String.append_eq_empty_iff]) detail

def deadlineExceeded (detail : Value) : FederationError Value :=
  ⟨"federation-deadline-exceeded", "联邦请求在有效 timeout 内未收到对端响应", detail, by decide,
    by decide⟩

end FederationError

namespace FederationCall

def inFlight (call : FederationCall Value) : Bool :=
  match call.stage with
  | .sending | .waiting => true
  | .ended _ => false

def cancelFuture (call : FederationCall Value) : FederationCall Value :=
  if call.future.isDone then call else { call with future := .cancelled }

def interruption (details : ErrorDetails Value) (call : FederationCall Value) :
    Option (Outcome Value) :=
  if call.cancelRequested then
    some .cancelled
  else if call.timedOut then
    some (.error (.deadlineExceeded (details.deadline call.method)))
  else
    none

def settlement (call : FederationCall Value) : Option (Outcome Value) :=
  match call.future with
  | .result value => some (.result value)
  | .exception error => some (.error error)
  | .pending | .cancelled => none

/-- What the requester's task ends with when it runs; `keepsResult` tells whether
a settled future wins over an interruption, which depends on the version. -/
def outcome (details : ErrorDetails Value) (keepsResult : Bool) (call : FederationCall Value) :
    Option (Outcome Value) :=
  match call.stage with
  | .sending => if call.cancelRequested then some .cancelled else none
  | .waiting =>
    if keepsResult then
      (call.settlement).or (call.interruption details)
    else
      (call.interruption details).or call.settlement
  | .ended _ => none

end FederationCall

namespace FederationChannel

def opened : FederationChannel Value :=
  ⟨none, [], []⟩

def call (channel : FederationChannel Value) (correlationId : String) :
    Option (FederationCall Value) :=
  fetch FederationCall.correlationId channel.calls correlationId

def updateCall (channel : FederationChannel Value) (correlationId : String)
    (change : FederationCall Value → FederationCall Value) : FederationChannel Value :=
  { channel with
    calls := updateWhere (fun call => call.correlationId = correlationId) change channel.calls }

/-- `request` until its first `await`. -/
def request (details : ErrorDetails Value) (channel : FederationChannel Value)
    (correlationId method : String) : FederationChannel Value :=
  if channel.closedReason.isSome then
    { channel with
      calls := channel.calls ++
        [⟨correlationId, method, .ended (.error (.channelClosed details.empty)), .pending, false,
          false, false, none⟩] }
  else
    { channel with
      pending := channel.pending ++ [correlationId]
      calls := channel.calls ++
        [⟨correlationId, method, .sending, .pending, false, false, false, none⟩] }

def failClosed (channel : FederationChannel Value) (error : FederationError Value) :
    FederationChannel Value :=
  if channel.closedReason.isSome then
    channel
  else
    { closedReason := some error
      pending := []
      calls := updateWhere
        (fun call => channel.pending.contains call.correlationId && !call.future.isDone)
        (fun call => { call with future := .exception error }) channel.calls }

def setFuture (channel : FederationChannel Value) (correlationId : String)
    (future : FutureState Value) : FederationChannel Value :=
  channel.updateCall correlationId fun call => { call with future }

/-- The part of `_dispatch_response` after the pending future was found. -/
def settleFuture (details : ErrorDetails Value) (channel : FederationChannel Value)
    (correlationId : String) (payload : ResponsePayload Value) :
    Except (FederationError Value) (FederationChannel Value) :=
  if payload.ok then
    match payload.result with
    | none =>
      .error (.malformedFrame "帧字段 result 必须是对象" (by decide) details.empty)
    | some value => .ok (channel.setFuture correlationId (.result value))
  else
    match payload.error with
    | none =>
      .ok (channel.setFuture correlationId
        (.exception (.malformedFrame "response 缺少 error 对象" (by decide) details.empty)))
    | some wire =>
      match FederationError.make? (wire.code.getD "federation-malformed-frame")
          (wire.message.getD "对端返回未命名错误") (wire.detail.getD details.empty) with
      | none =>
        .error (.malformedFrame "对端响应包含未登记的联邦错误码" (by decide)
          (details.remoteCode (wire.code.getD "federation-malformed-frame")))
      | some error => .ok (channel.setFuture correlationId (.exception error))

def dispatchResponse (details : ErrorDetails Value) (channel : FederationChannel Value)
    (payload : ResponsePayload Value) :
    Except (FederationError Value) (FederationChannel Value) :=
  match payload.correlationId with
  | none =>
    .error (.malformedFrame "帧字段 correlation_id 必须是非空字符串" (by decide) details.empty)
  | some correlationId =>
    if channel.pending.contains correlationId then
      if ((channel.call correlationId).map fun call => call.future.isDone) = some true then
        .ok channel
      else
        settleFuture details channel correlationId payload
    else
      .error (.unknownCorrelation correlationId details.empty)

def receiveResponse (details : ErrorDetails Value) (channel : FederationChannel Value)
    (payload : ResponsePayload Value) : FederationChannel Value :=
  match channel.dispatchResponse details payload with
  | .error error => channel.failClosed error
  | .ok next => next

/-- The requester's task runs: it ends, and takes its entry out of the table. -/
def resume (details : ErrorDetails Value) (channel : FederationChannel Value)
    (correlationId : String) (keepsResult : Bool) : FederationChannel Value :=
  match (channel.call correlationId).bind (FederationCall.outcome details keepsResult) with
  | none => channel
  | some outcome =>
    { channel.updateCall correlationId fun call => { call with stage := .ended outcome } with
      pending := channel.pending.filter fun other => other ≠ correlationId }

end FederationChannel

inductive ChannelCommand (Value : Type) where
  | request (correlationId method : String)
  /-- The frame reaches the peer. -/
  | deliver (correlationId : String)
  /-- `send_text` returns to a requester that was not cancelled. -/
  | sent (correlationId : String)
  | respond (correlationId : String) (answer : Answer Value)
  | timeout (correlationId : String)
  | cancel (correlationId : String)
  | resume (correlationId : String) (keepsResult : Bool)
  /-- `close`, `fail`, a lost connection or a heartbeat that was missed. -/
  | fail (error : FederationError Value)

namespace FederationCall

def owed (call : FederationCall Value) : Bool :=
  call.delivered && call.answer.isNone

/-- The frame of a call that is still being sent. -/
def deliver (call : FederationCall Value) : FederationCall Value :=
  if call.stage.isSending then { call with delivered := true } else call

def sent (call : FederationCall Value) : FederationCall Value :=
  if call.delivered && call.stage.isSending && !call.cancelRequested then
    { call with stage := .waiting }
  else
    call

def timeout (call : FederationCall Value) : FederationCall Value :=
  if call.stage.isWaiting then { call.cancelFuture with timedOut := true } else call

def cancel (call : FederationCall Value) : FederationCall Value :=
  match call.stage with
  | .sending => { call with cancelRequested := true }
  | .waiting => { call.cancelFuture with cancelRequested := true }
  | .ended _ => call

end FederationCall

namespace FederationChannel

variable (details : ErrorDetails Value)

def respond (channel : FederationChannel Value) (correlationId : String) (answer : Answer Value) :
    FederationChannel Value :=
  if ((channel.call correlationId).map FederationCall.owed) = some true then
    (channel.updateCall correlationId fun call =>
      { call with answer := some answer }).receiveResponse details
        (buildResponseFrame correlationId answer)
  else
    channel

def step (channel : FederationChannel Value) : ChannelCommand Value → FederationChannel Value
  | .request correlationId method =>
    if (channel.call correlationId).isNone && knownMethods.contains method then
      channel.request details correlationId method
    else
      channel
  | .deliver correlationId => channel.updateCall correlationId FederationCall.deliver
  | .sent correlationId => channel.updateCall correlationId FederationCall.sent
  | .respond correlationId answer => channel.respond details correlationId answer
  | .timeout correlationId => channel.updateCall correlationId FederationCall.timeout
  | .cancel correlationId => channel.updateCall correlationId FederationCall.cancel
  | .resume correlationId keepsResult => channel.resume details correlationId keepsResult
  | .fail error => channel.failClosed error

def run (channel : FederationChannel Value) (commands : List (ChannelCommand Value)) :
    FederationChannel Value :=
  commands.foldl (step details) channel

end FederationChannel

end GraphAgent.Federation
