import Mathlib.Data.List.Sort

/-!
# The client's mirror of a message stream

`state/messageStream/eventReducer.ts` and `snapshotHydration.ts`: events of a
turn arrive in any order, are buffered behind a gap, and are replayed when the
gap closes or a snapshot arrives.  What an event does to the entities of the
mirror is the parameter `reduce`; status, sequence, buffer and connection are
modelled as they are.
-/

namespace GraphAgent.StreamMirror

/-- `MESSAGE_STREAM_PENDING_EVENT_LIMIT`. -/
def pendingEventLimit : Nat := 256

inductive StreamStatus where
  | opened
  | interrupting
  | completed
  | interrupted
  | failed

/-- `isTerminalStatus`. -/
def StreamStatus.isTerminal : StreamStatus → Bool
  | .opened | .interrupting => false
  | .completed | .interrupted | .failed => true

inductive ConnectionStatus where
  | connecting
  | connected
  | disconnected
  | gap
  | terminal
  | retryExhausted
  deriving DecidableEq

inductive EventType where
  | streamOpened
  | interruptRequested
  | interruptRejected
  | streamCompleted
  | streamInterrupted
  | streamFailed
  | other (name : String)
  deriving DecidableEq

/-- `isTerminalEvent`. -/
def EventType.isTerminal : EventType → Bool
  | .streamCompleted | .streamInterrupted | .streamFailed => true
  | _ => false

def StreamStatus.after (status : StreamStatus) : EventType → StreamStatus
  | .streamOpened => .opened
  | .interruptRequested => .interrupting
  | .streamCompleted => .completed
  | .streamInterrupted => .interrupted
  | .streamFailed => .failed
  | .interruptRejected | .other _ => status

structure StreamKeys where
  sessionId : String
  threadId : String
  turnId : String
  deriving DecidableEq

structure MessageStreamEvent (Payload : Type) where
  eventId : String
  keys : StreamKeys
  turnStreamId : String
  workspaceId : Option String
  eventSeq : Nat
  type : EventType
  payload : Payload
  deriving DecidableEq

structure MessageStreamSnapshot (Content : Type) where
  keys : StreamKeys
  turnStreamId : String
  workspaceId : Option String
  snapshotSeq : Nat
  streamStatus : StreamStatus
  content : Content

inductive ProtocolError where
  | keys
  | workspace
  | turnStreamId
  | overflow
  | gap (expected actual : Nat)

structure MessageStreamState (Payload Content : Type) where
  keys : StreamKeys
  turnStreamId : String
  workspaceId : Option String
  lastEventSeq : Nat
  streamStatus : StreamStatus
  /-- The entities and the other fields that only `reduce` and snapshots write. -/
  content : Content
  pendingEvents : List (MessageStreamEvent Payload)
  connectionStatus : ConnectionStatus
  protocolError : Option ProtocolError

variable {Payload Content : Type}

/-- `current && incoming && current !== incoming` on texts. -/
def conflicting (current incoming : String) : Bool :=
  current ≠ "" && incoming ≠ "" && current ≠ incoming

def mismatch (state : MessageStreamState Payload Content) (keys : StreamKeys)
    (workspaceId : Option String) (turnStreamId : String) : Option ProtocolError :=
  if state.keys ≠ keys then some .keys
  else if conflicting (state.workspaceId.getD "") (workspaceId.getD "") then some .workspace
  else if state.turnStreamId ≠ "" ∧ state.turnStreamId ≠ turnStreamId then some .turnStreamId
  else none

def refuse (state : MessageStreamState Payload Content) (error : ProtocolError) :
    MessageStreamState Payload Content :=
  { state with connectionStatus := .gap, protocolError := some error }

/-- The comparison of the sorts by `event_seq`. -/
def Earlier (first second : MessageStreamEvent Payload) : Prop :=
  first.eventSeq ≤ second.eventSeq

instance : DecidableRel (Earlier : MessageStreamEvent Payload → _ → Prop) :=
  fun first second => inferInstanceAs (Decidable (first.eventSeq ≤ second.eventSeq))

def pushPending (pendingEvents : List (MessageStreamEvent Payload))
    (event : MessageStreamEvent Payload) : List (MessageStreamEvent Payload) :=
  (pendingEvents.filter (fun pending => pending.eventId ≠ event.eventId) ++ [event]).insertionSort
    Earlier

def bufferEvent (state : MessageStreamState Payload Content) (event : MessageStreamEvent Payload) :
    MessageStreamState Payload Content :=
  let pendingEvents := pushPending state.pendingEvents event
  let overflowed := pendingEventLimit < pendingEvents.length
  { state with
    connectionStatus := .gap
    pendingEvents := if overflowed then pendingEvents.take pendingEventLimit else pendingEvents
    protocolError := some (if overflowed then .overflow
      else .gap (state.lastEventSeq + 1) event.eventSeq) }

section Reducer

variable (reduce : Content → StreamStatus → MessageStreamEvent Payload → Content)

/-- The next event in order, before the buffer is drained. -/
def advance (state : MessageStreamState Payload Content) (event : MessageStreamEvent Payload) :
    MessageStreamState Payload Content :=
  { state with
    lastEventSeq := event.eventSeq
    workspaceId := event.workspaceId.or state.workspaceId
    turnStreamId := event.turnStreamId
    connectionStatus :=
      if state.streamStatus.isTerminal || event.type.isTerminal then .terminal else .connected
    protocolError := none
    streamStatus := state.streamStatus.after event.type
    content := reduce state.content state.streamStatus event }

/-- `applyMessageStreamEvent` on a data event, given how buffers are drained. -/
def applyEvent (drain : MessageStreamState Payload Content → MessageStreamState Payload Content)
    (current : MessageStreamState Payload Content) (event : MessageStreamEvent Payload) :
    MessageStreamState Payload Content :=
  match mismatch current event.keys event.workspaceId event.turnStreamId with
  | some error => refuse current error
  | none =>
    if current.streamStatus.isTerminal ∧ event.type ≠ .interruptRejected then current
    else if event.eventSeq ≤ current.lastEventSeq then current
    else if event.eventSeq ≠ current.lastEventSeq + 1 then bufferEvent current event
    else drain (advance reduce current event)

/-- The loop of `drainPendingEvents`, given how an event is applied. -/
def drainLoop (apply : MessageStreamState Payload Content → MessageStreamEvent Payload →
      MessageStreamState Payload Content) :
    List (MessageStreamEvent Payload) → MessageStreamState Payload Content →
      MessageStreamState Payload Content
  | [], next => next
  | pending :: rest, next =>
    if next.streamStatus.isTerminal then next
    else if pending.eventSeq = next.lastEventSeq + 1 then
      drainLoop apply rest (apply next pending)
    else if next.lastEventSeq < pending.eventSeq then
      drainLoop apply rest { next with pendingEvents := next.pendingEvents ++ [pending] }
    else
      drainLoop apply rest next

/-- The end of `drainPendingEvents`: a closed gap is no gap any more. -/
def closeGap (next : MessageStreamState Payload Content) : MessageStreamState Payload Content :=
  if next.pendingEvents = [] ∧ next.connectionStatus = .gap then
    { next with
      connectionStatus := if next.streamStatus.isTerminal then .terminal else .connected
      protocolError := none }
  else next

/-- `drainPendingEvents`.  An event it applies drains again what the loop has put back so
far, which is less than the whole buffer, so the length of the buffer is enough fuel. -/
def drainFuel : Nat → MessageStreamState Payload Content → MessageStreamState Payload Content
  | 0, state => state
  | fuel + 1, state =>
    if state.pendingEvents = [] then state
    else
      closeGap (drainLoop (applyEvent reduce (drainFuel fuel))
        (state.pendingEvents.insertionSort Earlier) { state with pendingEvents := [] })

def drainPendingEvents (state : MessageStreamState Payload Content) :
    MessageStreamState Payload Content :=
  drainFuel reduce state.pendingEvents.length state

/-- `applyMessageStreamEvent` on a data event. -/
def applyMessageStreamEvent (current : MessageStreamState Payload Content)
    (event : MessageStreamEvent Payload) : MessageStreamState Payload Content :=
  applyEvent reduce (drainPendingEvents reduce) current event

def applySnapshotState (current : MessageStreamState Payload Content)
    (snapshot : MessageStreamSnapshot Content) : MessageStreamState Payload Content :=
  let pendingEvents := current.pendingEvents.filter fun pending =>
    snapshot.snapshotSeq < pending.eventSeq
  let firstPendingSeq := pendingEvents.head?.map (·.eventSeq)
  let hasPendingGap := firstPendingSeq.any (snapshot.snapshotSeq + 1 < ·)
  { keys := current.keys
    turnStreamId := snapshot.turnStreamId
    workspaceId := snapshot.workspaceId.or current.workspaceId
    lastEventSeq := snapshot.snapshotSeq
    streamStatus := snapshot.streamStatus
    content := snapshot.content
    pendingEvents := pendingEvents
    connectionStatus :=
      if snapshot.streamStatus.isTerminal then .terminal
      else if hasPendingGap then .gap
      else .connected
    protocolError :=
      if hasPendingGap then some (.gap (snapshot.snapshotSeq + 1) (firstPendingSeq.getD 0))
      else none }

/-- `applyMessageStreamSnapshot`, which a snapshot event is reduced by as well. -/
def applyMessageStreamSnapshot (current : MessageStreamState Payload Content)
    (snapshot : MessageStreamSnapshot Content) : MessageStreamState Payload Content :=
  match mismatch current snapshot.keys snapshot.workspaceId snapshot.turnStreamId with
  | some error => refuse current error
  | none =>
    if snapshot.snapshotSeq < current.lastEventSeq then current
    else drainPendingEvents reduce (applySnapshotState current snapshot)

end Reducer

structure EventStream (Payload : Type) where
  keys : StreamKeys
  turnStreamId : String
  workspaceId : Option String
  event : Nat → MessageStreamEvent Payload
  eventSeq : ∀ seq, (event seq).eventSeq = seq
  eventId : ∀ first second, (event first).eventId = (event second).eventId → first = second
  ownKeys : ∀ seq, (event seq).keys = keys
  ownStream : ∀ seq, (event seq).turnStreamId = turnStreamId
  ownWorkspace : ∀ seq, (event seq).workspaceId = workspaceId
  /-- The server only admits `interrupt.rejected` after a terminal event. -/
  closed : ∀ first later, 0 < first → first < later → (event first).type.isTerminal →
    (event later).type = .interruptRejected

namespace EventStream

variable (stream : EventStream Payload)

def statusAt : Nat → StreamStatus
  | 0 => .opened
  | seq + 1 => (statusAt seq).after (stream.event (seq + 1)).type

variable (reduce : Content → StreamStatus → MessageStreamEvent Payload → Content)

/-- The content after the next `count` events behind a sequence, in order. -/
def contentAfter (seq : Nat) (content : Content) : Nat → Content
  | 0 => content
  | count + 1 =>
    reduce (contentAfter seq content count) (stream.statusAt (seq + count))
      (stream.event (seq + count + 1))

def OpenBefore (seq : Nat) : Prop :=
  ∀ earlier, 0 < earlier → earlier < seq → (stream.event earlier).type.isTerminal = false

end EventStream

inductive Delivery (Content : Type) where
  | event (seq : Nat)
  | snapshot (seq : Nat) (content : Content)

structure Mirror (Payload Content : Type) where
  state : MessageStreamState Payload Content
  base : Nat × Content
  delivered : List Nat

namespace Mirror

variable (stream : EventStream Payload)
  (reduce : Content → StreamStatus → MessageStreamEvent Payload → Content)

/-- `createMessageStreamState` for the turn of a stream. -/
def init (content : Content) : Mirror Payload Content where
  state :=
    { keys := stream.keys
      turnStreamId := stream.turnStreamId
      workspaceId := none
      lastEventSeq := 0
      streamStatus := .opened
      content := content
      pendingEvents := []
      connectionStatus := .connecting
      protocolError := none }
  base := (0, content)
  delivered := []

def streamSnapshot (seq : Nat) (content : Content) : MessageStreamSnapshot Content where
  keys := stream.keys
  turnStreamId := stream.turnStreamId
  workspaceId := stream.workspaceId
  snapshotSeq := seq
  streamStatus := stream.statusAt seq
  content := content

def step (mirror : Mirror Payload Content) : Delivery Content → Mirror Payload Content
  | .event seq =>
    { mirror with
      state := applyMessageStreamEvent reduce mirror.state (stream.event seq)
      delivered := seq :: mirror.delivered }
  | .snapshot seq content =>
    { mirror with
      state := applyMessageStreamSnapshot reduce mirror.state
        (streamSnapshot stream seq content)
      base := if seq < mirror.state.lastEventSeq then mirror.base else (seq, content) }

def run (mirror : Mirror Payload Content) (deliveries : List (Delivery Content)) :
    Mirror Payload Content :=
  deliveries.foldl (step stream reduce) mirror

def Calm (mirror : Mirror Payload Content) : Delivery Content → Prop
  | .event seq => mirror.state.lastEventSeq + 1 < seq →
      (pushPending mirror.state.pendingEvents (stream.event seq)).length ≤ pendingEventLimit ∧
        stream.OpenBefore seq
  | .snapshot _ _ => True

def CalmRun (mirror : Mirror Payload Content) : List (Delivery Content) → Prop
  | [] => True
  | delivery :: rest =>
    Calm stream mirror delivery ∧ CalmRun (step stream reduce mirror delivery) rest

end Mirror

end GraphAgent.StreamMirror
