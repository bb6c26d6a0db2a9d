import GraphAgent.LazyQueue
import GraphAgent.TerminalText

/-!
# The terminal output multiplexer

One terminal records its output as numbered events and delivers them to any
number of attached connections, each with its own acknowledgement window,
control queue and socket
(`output/terminalOutputMultiplexer.js`, driven by `terminalSession.js` and
`backend.js`).  A socket answers every send by an arbitrary rule and keeps the
frames it accepted; the other fields are those of the source.
-/

namespace GraphAgent.Terminal

structure FlowLimits where
  maxReplayBytes : Nat
  maxClientUnacknowledgedBytes : Nat
  maxControlQueueBytes : Nat
  maxTerminalBufferBytes : Nat
  maxTerminalOutputEventBytes : Nat
  event_le_window : maxTerminalOutputEventBytes ≤ maxClientUnacknowledgedBytes
  character_le_event : 4 ≤ maxTerminalOutputEventBytes

def terminalLimits : FlowLimits where
  maxReplayBytes := 512 * 1024
  maxClientUnacknowledgedBytes := 256 * 1024
  maxControlQueueBytes := 256 * 1024
  maxTerminalBufferBytes := 256 * 1024
  maxTerminalOutputEventBytes := 64 * 1024
  event_le_window := by decide
  character_le_event := by decide

structure OutputEvent where
  sequence : Nat
  data : Text
  timestamp : String
  byteCount : Nat

structure InFlightEvent where
  sequence : Nat
  byteCount : Nat

structure ControlEntry (Message : Type*) where
  afterSequence : Nat
  message : Message
  byteCount : Nat

structure Snapshot where
  sequence : Nat
  buffer : Text

inductive ReplayMode where
  | incremental
  | snapshot

inductive Frame (Message : Type*) where
  | attached (snapshot : Snapshot) (replayMode : ReplayMode) (resumeFromSequence : Nat)
  | output (sequence : Nat) (data : Text) (timestamp : String)
  | resync (snapshot : Snapshot)
  | control (message : Message)

inductive BlockedOn where
  | ack
  | socket

structure Socket (Message : Type*) where
  accepts : Nat → Bool
  attempts : Nat
  frames : List (Frame Message)

def Socket.send {Message : Type*} (socket : Socket Message) (frame : Frame Message) :
    Bool × Socket Message :=
  if socket.accepts socket.attempts then
    (true, { socket with
      attempts := socket.attempts + 1
      frames := socket.frames ++ [frame] })
  else
    (false, { socket with attempts := socket.attempts + 1 })

/-- `TerminalClientFlowState`.  The last three fields are the argument of the
attach call, the connection and the controls registered for it so far. -/
structure ClientFlow (Message : Type*) where
  acknowledgedSequence : Nat
  sentSequence : Nat
  inFlightEvents : LazyQueue InFlightEvent
  unacknowledgedBytes : Nat
  attachedMessageSent : Bool
  blockedOn : Option BlockedOn
  socketRetryTimer : Bool
  controlQueue : LazyQueue (ControlEntry Message)
  controlQueueBytes : Nat
  requestedSequence : Option Nat
  socket : Socket Message
  broadcasts : List (ControlEntry Message)

/-- The recording side of a terminal.  `recorded` lists every event since the
terminal was opened on `initialText`; the code keeps only a tail of it. -/
structure TerminalOutput where
  outputSequence : Nat
  buffer : Text
  outputEvents : LazyQueue OutputEvent
  outputEventBytes : Nat
  initialSequence : Nat
  initialText : Text
  recorded : List OutputEvent

namespace TerminalOutput

def opened (sequence : Nat) (buffer : Text) : TerminalOutput where
  outputSequence := sequence
  buffer := buffer
  outputEvents := .empty
  outputEventBytes := 0
  initialSequence := sequence
  initialText := buffer
  recorded := []

def snapshot (output : TerminalOutput) : Snapshot :=
  ⟨output.outputSequence, output.buffer⟩

def earliestSequence (output : TerminalOutput) : Nat :=
  match output.outputEvents.head? with
  | some event => event.sequence
  | none => output.outputSequence + 1

/-- The eviction loop of `recordAndBroadcast`; the newest event stays. -/
def evict (maxReplayBytes : Nat) :
    List OutputEvent → LazyQueue OutputEvent → Nat → LazyQueue OutputEvent × Nat
  | removed :: next :: events, queue, bytes =>
    if maxReplayBytes < bytes then
      evict maxReplayBytes (next :: events) queue.vacateFront (bytes - removed.byteCount)
    else
      (queue, bytes)
  | _, queue, bytes => (queue, bytes)

/-- The recording half of `recordAndBroadcast`. -/
def record (limits : FlowLimits) (output : TerminalOutput) (event : OutputEvent) :
    TerminalOutput :=
  let pushed := output.outputEvents.push event
  let evicted := evict limits.maxReplayBytes pushed.toList pushed
    (output.outputEventBytes + event.byteCount)
  let queue := evicted.1
  { output with
    outputEvents :=
      if queue.startIndex * 2 ≥ queue.slots.length then queue.compact else queue
    outputEventBytes := evicted.2
    recorded := output.recorded ++ [event] }

end TerminalOutput

namespace ClientFlow

variable {Message : Type*}

def scheduleSocketRetry (flow : ClientFlow Message) : ClientFlow Message :=
  { flow with blockedOn := some .socket, socketRetryTimer := true }

def compactControls (flow : ClientFlow Message) : ClientFlow Message :=
  { flow with
    controlQueue :=
      if flow.controlQueue.startIndex > 0 ∧
          flow.controlQueue.startIndex * 2 ≥ flow.controlQueue.slots.length then
        flow.controlQueue.compact
      else flow.controlQueue }

def controlSent (flow : ClientFlow Message) (entry : ControlEntry Message)
    (socket : Socket Message) : ClientFlow Message :=
  { flow with
    socket := socket
    controlQueue := flow.controlQueue.vacateFront
    controlQueueBytes := flow.controlQueueBytes - entry.byteCount }

/-- The loop of `flushControlsThrough` over the live controls. -/
def flushControls (sequence : Nat) :
    List (ControlEntry Message) → ClientFlow Message → ClientFlow Message × Bool
  | [], flow => (flow.compactControls, true)
  | entry :: entries, flow =>
    if entry.afterSequence ≤ sequence then
      match flow.socket.send (.control entry.message) with
      | (false, socket) => (({ flow with socket := socket }).scheduleSocketRetry, false)
      | (true, socket) => flushControls sequence entries (flow.controlSent entry socket)
    else
      (flow.compactControls, true)

def flushControlsThrough (flow : ClientFlow Message) (sequence : Nat) :
    ClientFlow Message × Bool :=
  flushControls sequence flow.controlQueue.toList flow

def outputSent (flow : ClientFlow Message) (event : OutputEvent) (socket : Socket Message) :
    ClientFlow Message :=
  { flow with
    socket := socket
    sentSequence := event.sequence
    inFlightEvents := flow.inFlightEvents.push ⟨event.sequence, event.byteCount⟩
    unacknowledgedBytes := flow.unacknowledgedBytes + event.byteCount }

/-- The output loop of `flushClientReplay` over the remaining events. -/
def flushOutputs (limits : FlowLimits) (currentSequence : Nat) :
    List OutputEvent → ClientFlow Message → ClientFlow Message
  | [], flow =>
    match flow.flushControlsThrough currentSequence with
    | (flow, false) => flow
    | (flow, true) => { flow with blockedOn := none }
  | event :: events, flow =>
    match flow.flushControlsThrough (event.sequence - 1) with
    | (flow, false) => flow
    | (flow, true) =>
      if flow.inFlightEvents.startIndex < flow.inFlightEvents.slots.length ∧
          limits.maxClientUnacknowledgedBytes <
            flow.unacknowledgedBytes + event.byteCount then
        { flow with blockedOn := some .ack }
      else
        match flow.socket.send (.output event.sequence event.data event.timestamp) with
        | (false, socket) => ({ flow with socket := socket }).scheduleSocketRetry
        | (true, socket) =>
          flushOutputs limits currentSequence events (flow.outputSent event socket)

def resyncSent (flow : ClientFlow Message) (snapshot : Snapshot) (socket : Socket Message) :
    ClientFlow Message :=
  { flow with
    socket := socket
    sentSequence := snapshot.sequence
    inFlightEvents := .singleton ⟨snapshot.sequence, byteLength snapshot.buffer⟩
    unacknowledgedBytes := byteLength snapshot.buffer
    blockedOn := some .ack }

def flushClientReplay (limits : FlowLimits) (output : TerminalOutput)
    (flow : ClientFlow Message) : ClientFlow Message :=
  if flow.sentSequence + 1 < output.earliestSequence then
    match flow.socket.send (.resync output.snapshot) with
    | (false, socket) => ({ flow with socket := socket }).scheduleSocketRetry
    | (true, socket) => flow.resyncSent output.snapshot socket
  else
    flushOutputs limits output.outputSequence
      (output.outputEvents.listFrom (flow.sentSequence + 1 - output.earliestSequence)) flow

/-- The loop of `acknowledge` over the live records. -/
def settleInFlight (acknowledgedSequence : Nat) :
    List InFlightEvent → LazyQueue InFlightEvent → Nat → LazyQueue InFlightEvent × Nat
  | acknowledged :: events, queue, bytes =>
    if acknowledged.sequence ≤ acknowledgedSequence then
      settleInFlight acknowledgedSequence events queue.vacateFront
        (bytes - acknowledged.byteCount)
    else
      (queue, bytes)
  | [], queue, bytes => (queue, bytes)

/-- The bookkeeping of `acknowledge`, before it flushes. -/
def settle (flow : ClientFlow Message) (sequence : Nat) : ClientFlow Message :=
  let acknowledged := max flow.acknowledgedSequence sequence
  let settled := settleInFlight acknowledged flow.inFlightEvents.toList flow.inFlightEvents
    flow.unacknowledgedBytes
  let queue := settled.1
  { flow with
    acknowledgedSequence := acknowledged
    inFlightEvents :=
      if queue.startIndex > 0 ∧ queue.startIndex * 2 ≥ queue.slots.length then queue.compact
      else queue
    unacknowledgedBytes := settled.2
    blockedOn := none }

/-- `acknowledge`; `none` when the sequence is rejected. -/
def acknowledge (limits : FlowLimits) (output : TerminalOutput) (flow : ClientFlow Message)
    (sequence : Int) : Option (ClientFlow Message) :=
  if sequence < 0 ∨ (flow.sentSequence : Int) < sequence then none
  else some ((flow.settle sequence.toNat).flushClientReplay limits output)

/-- A flow as `attach` registers it, before `beforeNotify` returns. -/
def registered (afterSequence : Option Int) (accepts : Nat → Bool) : ClientFlow Message where
  acknowledgedSequence := 0
  sentSequence := 0
  inFlightEvents := .empty
  unacknowledgedBytes := 0
  attachedMessageSent := false
  blockedOn := none
  socketRetryTimer := false
  controlQueue := .empty
  controlQueueBytes := 0
  requestedSequence :=
    match afterSequence with
    | some sequence => if 0 ≤ sequence then some sequence.toNat else none
    | none => none
  socket := ⟨accepts, 0, []⟩
  broadcasts := []

def replayStart (output : TerminalOutput) (flow : ClientFlow Message) : Option Nat :=
  flow.requestedSequence.filter fun requested =>
    decide (requested ≤ output.outputSequence ∧ output.earliestSequence ≤ requested + 1)

def attachedFrame (output : TerminalOutput) (flow : ClientFlow Message) : Frame Message :=
  match flow.replayStart output with
  | some requested =>
    .attached { output.snapshot with buffer := [] } .incremental requested
  | none => .attached output.snapshot .snapshot output.outputSequence

def attachedState (output : TerminalOutput) (flow : ClientFlow Message)
    (socket : Socket Message) : ClientFlow Message :=
  let resume := (flow.replayStart output).getD output.outputSequence
  let attached :=
    { flow with
      acknowledgedSequence := resume
      sentSequence := resume
      socket := socket
      attachedMessageSent := true }
  if (flow.replayStart output).isNone ∧ flow.requestedSequence.isSome then
    let inFlight := attached.inFlightEvents.push
      ⟨output.outputSequence, byteLength output.buffer⟩
    { attached with
      inFlightEvents := inFlight
      unacknowledgedBytes := (inFlight.slots.headD none).elim 0 (·.byteCount)
      blockedOn := some .ack }
  else
    attached

/-- The rest of `attach` after `beforeNotify`; `none` when the socket refuses the
attached frame and the flow is dropped. -/
def resumeAttach (limits : FlowLimits) (output : TerminalOutput)
    (flow : ClientFlow Message) : Option (ClientFlow Message) :=
  match flow.socket.send (flow.attachedFrame output) with
  | (false, _) => none
  | (true, socket) =>
    let attached := flow.attachedState output socket
    if attached.blockedOn = none then some (attached.flushClientReplay limits output)
    else some attached

def retry (limits : FlowLimits) (output : TerminalOutput) (flow : ClientFlow Message) :
    ClientFlow Message :=
  if flow.socketRetryTimer then
    ({ flow with socketRetryTimer := false, blockedOn := none }).flushClientReplay limits output
  else
    flow

/-- The per-client body of `recordAndBroadcast`. -/
def afterRecord (limits : FlowLimits) (output : TerminalOutput) (flow : ClientFlow Message) :
    ClientFlow Message :=
  if flow.attachedMessageSent = true ∧ flow.blockedOn = none then
    flow.flushClientReplay limits output
  else
    flow

def enqueueControl (flow : ClientFlow Message) (entry : ControlEntry Message) :
    ClientFlow Message :=
  { flow with
    controlQueue := flow.controlQueue.push entry
    controlQueueBytes := flow.controlQueueBytes + entry.byteCount
    broadcasts := flow.broadcasts ++ [entry] }

/-- The per-client body of `broadcast`; `none` disconnects a slow client. -/
def afterBroadcast (limits : FlowLimits) (output : TerminalOutput)
    (entry : ControlEntry Message) (flow : ClientFlow Message) :
    Option (ClientFlow Message) :=
  if limits.maxControlQueueBytes < flow.controlQueueBytes + entry.byteCount then
    none
  else
    some ((flow.enqueueControl entry).afterRecord limits output)

end ClientFlow

structure Multiplexer (Client Message : Type*) where
  output : TerminalOutput
  clientFlowStates : List (Client × ClientFlow Message)

inductive Command (Client Message : Type*) where
  | onData (data : Text) (timestamp : String)
  | broadcast (message : Message)
  | attach (client : Client) (afterSequence : Option Int) (accepts : Nat → Bool)
  | attachResume (client : Client) (notified : Bool)
  | acknowledge (client : Client) (sequence : Int)
  | socketRetry (client : Client)
  | detach (client : Client)

namespace Multiplexer

variable {Client Message : Type*}

def opened (sequence : Nat) (buffer : Text) : Multiplexer Client Message :=
  ⟨.opened sequence buffer, []⟩

/-- `recordAndBroadcast`; `none` when the event is larger than the window. -/
def recordAndBroadcast (limits : FlowLimits) (mux : Multiplexer Client Message)
    (sequence : Nat) (data : Text) (timestamp : String) :
    Option (Multiplexer Client Message) :=
  if limits.maxClientUnacknowledgedBytes < byteLength data then
    none
  else
    let output := mux.output.record limits ⟨sequence, data, timestamp, byteLength data⟩
    some
      { output
        clientFlowStates := mux.clientFlowStates.map fun entry =>
          (entry.1, entry.2.afterRecord limits output) }

/-- The chunk loop of `onData`; a thrown error ends it. -/
def recordChunks (limits : FlowLimits) (timestamp : String) :
    List Text → Multiplexer Client Message → Multiplexer Client Message
  | [], mux => mux
  | chunk :: chunks, mux =>
    let sequence := mux.output.outputSequence + 1
    let numbered := { mux with output := { mux.output with outputSequence := sequence } }
    match numbered.recordAndBroadcast limits sequence chunk timestamp with
    | none => numbered
    | some next => recordChunks limits timestamp chunks next

/-- `onData` of the session: trim the buffer, then record the chunks. -/
def onData (limits : FlowLimits) (mux : Multiplexer Client Message) (data : Text)
    (timestamp : String) : Multiplexer Client Message :=
  let buffer := trimTerminalBuffer limits.maxTerminalBufferBytes (mux.output.buffer ++ data)
  recordChunks limits timestamp
    (splitTerminalOutputChunks limits.maxTerminalOutputEventBytes data)
    { mux with output := { mux.output with buffer := buffer } }

def broadcast (limits : FlowLimits) (messageBytes : Message → Nat)
    (mux : Multiplexer Client Message) (message : Message) : Multiplexer Client Message :=
  let entry : ControlEntry Message :=
    ⟨mux.output.outputSequence, message, messageBytes message⟩
  { mux with
    clientFlowStates := mux.clientFlowStates.filterMap fun client =>
      (client.2.afterBroadcast limits mux.output entry).map (client.1, ·) }

variable [DecidableEq Client]

def flowOf (mux : Multiplexer Client Message) (client : Client) :
    Option (ClientFlow Message) :=
  mux.clientFlowStates.lookup client

/-- `Map.set`. -/
def setFlow (mux : Multiplexer Client Message) (client : Client)
    (flow : ClientFlow Message) : Multiplexer Client Message :=
  { mux with
    clientFlowStates :=
      if (mux.flowOf client).isSome then
        mux.clientFlowStates.map fun entry =>
          if entry.1 = client then (client, flow) else entry
      else
        mux.clientFlowStates ++ [(client, flow)] }

/-- `Map.delete`. -/
def deleteFlow (mux : Multiplexer Client Message) (client : Client) :
    Multiplexer Client Message :=
  { mux with
    clientFlowStates := mux.clientFlowStates.filter fun entry => decide (entry.1 ≠ client) }

def step (limits : FlowLimits) (messageBytes : Message → Nat)
    (mux : Multiplexer Client Message) :
    Command Client Message → Multiplexer Client Message
  | .onData data timestamp => mux.onData limits data timestamp
  | .broadcast message => mux.broadcast limits messageBytes message
  | .attach client afterSequence accepts =>
    mux.setFlow client (.registered afterSequence accepts)
  | .attachResume client notified =>
    match mux.flowOf client with
    | none => mux
    | some flow =>
      if flow.attachedMessageSent then mux
      else if notified then
        match flow.resumeAttach limits mux.output with
        | some attached => mux.setFlow client attached
        | none => mux.deleteFlow client
      else mux.deleteFlow client
  | .acknowledge client sequence =>
    match (mux.flowOf client).bind (·.acknowledge limits mux.output sequence) with
    | some flow => mux.setFlow client flow
    | none => mux
  | .socketRetry client =>
    match mux.flowOf client with
    | some flow => mux.setFlow client (flow.retry limits mux.output)
    | none => mux
  | .detach client => mux.deleteFlow client

def run (limits : FlowLimits) (messageBytes : Message → Nat)
    (mux : Multiplexer Client Message) (commands : List (Command Client Message)) :
    Multiplexer Client Message :=
  commands.foldl (step limits messageBytes) mux

/-- What `backend.js` guarantees for one connection: its messages are processed
one after the other, an attach first detaches, and everything else needs an
attach that has completed. -/
def Serialised (mux : Multiplexer Client Message) : Command Client Message → Prop
  | .attach client _ _ => (mux.flowOf client).isNone = true
  | .acknowledge client _ => (mux.flowOf client).all (·.attachedMessageSent) = true
  | .detach client => (mux.flowOf client).all (·.attachedMessageSent) = true
  | _ => True

def SerialisedRun (limits : FlowLimits) (messageBytes : Message → Nat) :
    Multiplexer Client Message → List (Command Client Message) → Prop
  | _, [] => True
  | mux, command :: commands =>
    mux.Serialised command ∧
      SerialisedRun limits messageBytes (mux.step limits messageBytes command) commands

end Multiplexer

end GraphAgent.Terminal
