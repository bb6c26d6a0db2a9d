import GraphAgent.StreamStore

/-!
# Runs of one message stream

A commit holds the lock of its stream while a worker thread appends the event,
so one commit is in flight at a time.  The steps of the system are the points
at which the process can stop, the disk can fail or another task can run.
-/

namespace GraphAgent.MessageStream

/-- How far `_append_durable_event` has come. -/
inductive AppendProgress where
  | started
  /-- The record is in the log. -/
  | logged
  /-- The event id has been put aside, if it was explicit. -/
  | recorded
  | snapshotted
  | done
  deriving DecidableEq

/-- A `stream.completed` that still closes blocks. -/
structure Closing where
  commit : CheckedCommit
  remaining : List Fields

/-- What the lock of the stream is held for. -/
inductive Phase where
  | idle
  | closing (closing : Closing)
  | appending (pending : PendingEvent) (needsCompaction : Bool) (progress : AppendProgress)
      (resume : Option Closing)

/-- A stream: its files, the cache of the store and the commit in flight.
`committed` records every event that reached the log, in order. -/
structure StreamSystem where
  identity : StreamIdentity
  disk : StreamDisk
  cached : Option StreamState
  eventIds : Option EventIds
  scheduled : List StreamState
  phase : Phase
  committed : List PendingEvent

namespace Phase

def after (resume : Option Closing) : Phase :=
  match resume with
  | none => .idle
  | some held => .closing held

end Phase

namespace StreamSystem

variable (config : StoreConfig)

/-- The stream after `open` has put the empty state into the cache. -/
def fresh (identity : StreamIdentity) (jobId : Option String) : StreamSystem where
  identity := identity
  disk := ⟨[], Dictionary.empty, none⟩
  cached := some (config.emptyState identity jobId)
  eventIds := none
  scheduled := []
  phase := .idle
  committed := []

/-- The first commit of `open`. -/
def openingRequest (jobId : Option String) : CommitRequest where
  eventType := "stream.opened"
  payload := Dictionary.ofList [("status", .str "open")]
  jobId := jobId

/-- The checks of `_commit_locked` before the event ids are read. -/
def checkCommit (system : StreamSystem) (request : CommitRequest) :
    Except StreamError CheckedCommit := do
  let (type, payload, identity) ← checkPayload config request
  match system.cached with
  | none => .error (.notFound system.identity.turnStreamId)
  | some cached =>
    let state ← adoptWorkspace cached identity
    return ⟨type, payload, identity, state, request.jobId, request.eventId⟩

/-- `_load_event_ids_from_disk`, which only an explicit event id needs. -/
def rememberEventIds (system : StreamSystem) (eventId : Option String) :
    Except StreamError StreamSystem :=
  match eventId, system.eventIds with
  | some _, none => do
      let records ← readRecords system.identity system.disk.log
      return { system with eventIds := some (eventIdsFromRecords system.disk.sidecar records) }
  | _, _ => .ok system

def previousEvent (system : StreamSystem) (commit : CheckedCommit) :
    Except StreamError (Option StreamEvent) :=
  match commit.eventId with
  | none => .ok none
  | some eventId =>
    checkDuplicate (system.eventIds.getD Dictionary.empty) eventId commit.type commit.payload
      commit.identity commit.state.identity.turnStreamId

def admitChecked (system : StreamSystem) (commit : CheckedCommit) :
    Except StreamError Admission := do
  let previous ← previousEvent system commit
  match previous with
  | some event => return .duplicate event
  | none =>
    let (type, payload) ← gateEvent commit.state.streamStatus
      commit.state.identity.turnStreamId commit.type commit.payload
    return .admitted { commit with type := type, payload := payload }

def beginCommit (system : StreamSystem) (request : CommitRequest) :
    StreamSystem × Except StreamError Admission :=
  match checkCommit config system request with
  | .error error => (system, .error error)
  | .ok commit =>
    match rememberEventIds system commit.eventId with
    | .error error => (system, .error error)
    | .ok loaded => (loaded, admitChecked loaded commit)

def needsCompaction (system : StreamSystem) (event : StreamEvent) : Bool :=
  !system.disk.log.isEmpty &&
    config.maxBytes < config.logBytes system.disk.log + config.recordBytes event

def startAppend (system : StreamSystem) (prepared : Except StreamError PendingEvent)
    (resume : Option Closing) : StreamSystem :=
  match prepared with
  | .error _ => { system with phase := .idle }
  | .ok pending =>
    { system with
      phase := .appending pending (needsCompaction config system pending.event) .started resume }

def continueCommit (system : StreamSystem) (commit : CheckedCommit) (moment : Moment) :
    StreamSystem :=
  if commit.type = .streamCompleted then
    { system with
      phase := .closing ⟨commit, (system.cached.map pendingBlocks).getD []⟩ }
  else
    startAppend config system (prepareEvent config commit commit.state moment) none

def closeBlock (system : StreamSystem) (commit : CheckedCommit) (block : Fields)
    (remaining : List Fields) (moment : Moment) : StreamSystem :=
  match closingRequest config.interpreter commit.jobId block with
  | .error _ => { system with phase := .idle }
  | .ok request =>
    match beginCommit config system request with
    | (loaded, .ok (.admitted inner)) =>
      startAppend config loaded (prepareEvent config inner inner.state moment)
        (some ⟨commit, remaining⟩)
    | (loaded, .ok (.duplicate _)) => { loaded with phase := .closing ⟨commit, remaining⟩ }
    | (loaded, .error _) => { loaded with phase := .idle }

/-- Build `stream.completed` once no block is left to close. -/
def completeStream (system : StreamSystem) (commit : CheckedCommit) (moment : Moment) :
    StreamSystem :=
  match system.cached with
  | none => { system with phase := .idle }
  | some state => startAppend config system (prepareEvent config commit state moment) none

/-- The next step of `_append_durable_event`. -/
def advanceAppend (system : StreamSystem) (pending : PendingEvent) (needsCompaction : Bool)
    (resume : Option Closing) : AppendProgress → StreamSystem
  | .started =>
    { system with
      disk.log := system.disk.log ++ [config.encodeEvent pending.event]
      committed := system.committed ++ [pending]
      phase := .appending pending needsCompaction .logged resume }
  | .logged =>
    { system with
      disk.sidecar :=
        if pending.explicit then
          system.disk.sidecar.insert pending.event.eventId pending.event
        else
          system.disk.sidecar
      phase := .appending pending needsCompaction .recorded resume }
  | .recorded =>
    if needsCompaction then
      { system with
        disk.snapshot := writeStateSnapshot system.disk.snapshot pending.nextState
        phase := .appending pending needsCompaction .snapshotted resume }
    else
      { system with phase := .appending pending needsCompaction .done resume }
  | .snapshotted =>
    let retained := config.retainedRecords system.disk.log
    { system with
      disk.log := retained.map config.encodeEvent
      eventIds := some (eventIdsFromRecords system.disk.sidecar retained)
      phase := .appending pending needsCompaction .done resume }
  | .done => system

def publish (system : StreamSystem) (pending : PendingEvent) (resume : Option Closing) :
    StreamSystem :=
  { system with
    cached := some pending.nextState
    eventIds := some ((system.eventIds.getD Dictionary.empty).insert pending.event.eventId
      pending.event)
    scheduled :=
      if shouldWriteStateSnapshot pending.event.type pending.event.eventSeq then
        system.scheduled ++ [pending.nextState]
      else
        system.scheduled
    phase := .after resume }

/-- `_load_state_from_disk` into the cache; when it raises the cache stays. -/
def reload (system : StreamSystem) : StreamSystem :=
  match loadStateFromDisk config system.identity system.disk with
  | .error _ => system
  | .ok (state, ids) => { system with cached := some state, eventIds := some ids }

def recoverAppend (system : StreamSystem) : StreamSystem :=
  reload config { system with cached := none, eventIds := none, phase := .idle }

/-- The process stops: only the files are left. -/
def restart (system : StreamSystem) : StreamSystem :=
  { system with cached := none, eventIds := none, scheduled := [], phase := .idle }

/-- `_evict_stream_cache`, which only terminal streams meet. -/
def evict (system : StreamSystem) : StreamSystem :=
  match system.cached with
  | some state =>
    if state.streamStatus.isTerminal then
      { system with cached := none, eventIds := none }
    else
      system
  | none => system

def settleSnapshot (system : StreamSystem) (index : Nat) (written : Bool) : StreamSystem :=
  match system.scheduled[index]? with
  | none => system
  | some state =>
    { system with
      scheduled := system.scheduled.eraseIdx index
      disk.snapshot :=
        if written then writeStateSnapshot system.disk.snapshot state
        else system.disk.snapshot }

end StreamSystem

inductive StreamCommand where
  | begin (request : CommitRequest) (moment : Moment)
  | close (moment : Moment)
  /-- The worker thread finishes its next step. -/
  | advance
  /-- The worker thread is done and the commit returns. -/
  | publish
  /-- The worker thread raises, or the commit was cancelled. -/
  | fail
  | restart
  | load
  | evict
  | settleSnapshot (index : Nat) (written : Bool)

namespace StreamSystem

variable (config : StoreConfig)

def heldId (system : StreamSystem) : Option String :=
  match system.phase with
  | .closing held => held.commit.eventId
  | _ => none

def takenIds (system : StreamSystem) : List String :=
  (system.committed.map fun pending => pending.event.eventId) ++ system.heldId.toList

def generates (system : StreamSystem) (moment : Moment) : Bool :=
  moment.generatedId ∉ system.takenIds

def step (system : StreamSystem) : StreamCommand → StreamSystem
  | .begin request moment =>
    match system.phase with
    | .idle =>
      if system.generates moment then
        match beginCommit config system request with
        | (loaded, .ok (.admitted commit)) => continueCommit config loaded commit moment
        | (loaded, _) => loaded
      else
        system
    | _ => system
  | .close moment =>
    match system.phase with
    | .closing ⟨commit, block :: remaining⟩ =>
      if system.generates moment then closeBlock config system commit block remaining moment
      else system
    | .closing ⟨commit, []⟩ =>
      if system.generates moment then completeStream config system commit moment else system
    | _ => system
  | .advance =>
    match system.phase with
    | .appending pending needsCompaction progress resume =>
      advanceAppend config system pending needsCompaction resume progress
    | _ => system
  | .publish =>
    match system.phase with
    | .appending pending _ .done resume => publish system pending resume
    | _ => system
  | .fail =>
    match system.phase with
    | .appending .. => recoverAppend config system
    | _ => system
  | .restart => restart system
  | .load => reload config system
  | .evict => evict system
  | .settleSnapshot index written => settleSnapshot system index written

/-- The stream that `open` creates, its first commit in flight. -/
def start (identity : StreamIdentity) (jobId : Option String) (moment : Moment) : StreamSystem :=
  step config (fresh config identity jobId) (.begin (openingRequest jobId) moment)

def run (system : StreamSystem) (commands : List StreamCommand) : StreamSystem :=
  commands.foldl (step config) system

end StreamSystem

end GraphAgent.MessageStream
