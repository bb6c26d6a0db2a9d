import GraphAgent.StreamRecovery
import Mathlib.Data.Fintype.EquivFin

/-!
# Opening a turn stream

`MessageStreamStore.open` writes the index of the session, then commits
`stream.opened` through the append of the stream.  The store of one turn is the
index entry and the streams under their ids; the process can stop, and the disk
can fail, between any two of its steps.
-/

namespace GraphAgent.MessageStream

open StreamSystem Transaction

structure TurnKey where
  sessionId : String
  threadId : String
  turnId : String

def TurnKey.identity (key : TurnKey) (turnStreamId : String) : StreamIdentity :=
  ⟨key.sessionId, key.threadId, key.turnId, turnStreamId⟩

/-- How far a call of `open` that creates a stream has come. -/
inductive OpenPhase where
  | idle
  /-- The empty state is in the cache, the index is not replaced yet. -/
  | indexing (turnStreamId : String) (jobId : Option String)
  /-- The index is replaced and `stream.opened` is being committed. -/
  | committing (turnStreamId : String)

structure TurnStore where
  key : TurnKey
  /-- `index[thread_id][turn_id]`. -/
  index : Option String
  stream : String → StreamSystem
  /-- The generated stream ids. -/
  taken : List String
  phase : OpenPhase

inductive OpenError where
  | stream (error : StreamError)
  | keysMismatch

/-- What a call of `open` has come to when it first waits or returns. -/
inductive OpenResult where
  | creating
  | writer (turnStreamId : String)
  | raised (error : OpenError)

namespace TurnStore

variable (config : StoreConfig)

def init (key : TurnKey) : TurnStore where
  key := key
  index := none
  stream turnStreamId := restart (fresh config (key.identity turnStreamId) none)
  taken := []
  phase := .idle

def put (store : TurnStore) (turnStreamId : String) (system : StreamSystem) : TurnStore :=
  { store with
    stream := fun other => if other = turnStreamId then system else store.stream other }

@[simp]
theorem put_stream (store : TurnStore) (turnStreamId : String) (system : StreamSystem) :
    (store.put turnStreamId system).stream turnStreamId = system := if_pos rfl

def loadState (system : StreamSystem) : Except StreamError (StreamState × StreamSystem) :=
  match system.cached with
  | some state => .ok (state, system)
  | none => do
      let (state, ids) ← loadStateFromDisk config system.identity system.disk
      return (state, { system with cached := some state, eventIds := some ids })

/-- `open` without a stream id, up to the index write of a new stream. -/
def openStream (store : TurnStore) (generatedId : String) (jobId : Option String) :
    TurnStore × OpenResult :=
  match store.index with
  | none =>
    ({ store.put generatedId (fresh config (store.key.identity generatedId) jobId) with
        taken := generatedId :: store.taken
        phase := .indexing generatedId jobId }, .creating)
  | some turnStreamId =>
    match loadState config (store.stream turnStreamId) with
    | .error error => (store, .raised (.stream error))
    | .ok (state, loaded) =>
      if (state.identity.sessionId, state.identity.threadId, state.identity.turnId) ≠
          (store.key.sessionId, store.key.threadId, store.key.turnId) then
        (store.put turnStreamId loaded, .raised .keysMismatch)
      else
        (store.put turnStreamId loaded, .writer turnStreamId)

def proceed (store : TurnStore) (turnStreamId : String) (command : StreamCommand) : TurnStore :=
  let system := StreamSystem.step config (store.stream turnStreamId) command
  { store.put turnStreamId system with
    phase := match system.phase with
      | .idle => .idle
      | _ => .committing turnStreamId }

end TurnStore

/-- What can happen to the store of a turn. -/
inductive OpenCommand where
  | call (generatedId : String) (jobId : Option String)
  /-- `_write_index` replaces the index, and the first commit begins. -/
  | writeIndex (moment : Moment)
  /-- `_write_index` raises before it has replaced the index. -/
  | failIndex
  /-- The worker thread of the first commit finishes its next step. -/
  | advance
  | publish
  /-- The worker thread raises. -/
  | fail
  /-- The process stops. -/
  | crash
  | settleSnapshot (written : Bool)

namespace TurnStore

variable (config : StoreConfig)

def step (store : TurnStore) : OpenCommand → TurnStore
  | .call generatedId jobId =>
    match store.phase with
    | .idle =>
      if generatedId ∈ store.taken then store
      else (openStream config store generatedId jobId).1
    | _ => store
  | .writeIndex moment =>
    match store.phase with
    | .indexing turnStreamId jobId =>
      proceed config { store with index := some turnStreamId } turnStreamId
        (.begin (openingRequest jobId) moment)
    | _ => store
  | .failIndex =>
    match store.phase with
    | .indexing _ _ => { store with phase := .idle }
    | _ => store
  | .advance =>
    match store.phase with
    | .committing turnStreamId => proceed config store turnStreamId .advance
    | _ => store
  | .publish =>
    match store.phase with
    | .committing turnStreamId => proceed config store turnStreamId .publish
    | _ => store
  | .fail =>
    match store.phase with
    | .committing turnStreamId => proceed config store turnStreamId .fail
    | _ => store
  | .crash =>
    { store with
      stream := fun turnStreamId => restart (store.stream turnStreamId)
      phase := .idle }
  | .settleSnapshot written =>
    match store.index with
    | some turnStreamId =>
      store.put turnStreamId (settleSnapshot (store.stream turnStreamId) 0 written)
    | none => store

def run (store : TurnStore) (commands : List OpenCommand) : TurnStore :=
  commands.foldl (step config) store

/-- The steps of a first commit that nothing interrupts. -/
def uninterrupted (moment : Moment) : List OpenCommand :=
  [.writeIndex moment, .advance, .advance, .advance, .publish]

/-- A whole call of `open` that nothing interrupts. -/
def reopen (store : TurnStore) (generatedId : String) (jobId : Option String) (moment : Moment) :
    TurnStore × OpenResult :=
  match openStream config store generatedId jobId with
  | (created, .creating) =>
    let committed := run config created (uninterrupted moment)
    (committed, match committed.phase with
      | .idle => .writer generatedId
      | _ => .creating)
  | answered => answered

def AcceptsCommits (system : StreamSystem) : Prop :=
  ∀ request checked, checkPayload config request = .ok checked → request.eventId = none →
    ∃ commit, (beginCommit config system request).2 = .ok (.admitted commit)

/-- A later `open` returns the writer of the indexed stream, which has a record and
accepts commits. -/
def OpensAgain (store : TurnStore) : Prop :=
  ∀ generatedId jobId moment, generatedId ∉ store.taken →
    ∃ after turnStreamId,
      reopen config store generatedId jobId moment = (after, .writer turnStreamId) ∧
      after.index = some turnStreamId ∧ (after.stream turnStreamId).disk.log ≠ [] ∧
      AcceptsCommits config (after.stream turnStreamId)

def spares (store : TurnStore) : OpenCommand → Bool
  | .fail | .crash =>
    match store.phase with
    | .committing turnStreamId => !(store.stream turnStreamId).disk.log.isEmpty
    | _ => true
  | _ => true

def sparesRun (store : TurnStore) : List OpenCommand → Bool
  | [] => true
  | command :: rest => spares store command && sparesRun (step config store command) rest

end TurnStore

structure FirstRecord (config : StoreConfig) (identity : StreamIdentity) (record : StreamEvent)
    (state : StreamState) : Prop where
  loads : ∀ snapshot, (snapshot = none ∨ snapshot = some state) → ∃ ids,
    loadStateFromDisk config identity ⟨[record], Dictionary.empty, snapshot⟩ = .ok (state, ids)
  sameIdentity : state.identity = identity
  status : state.streamStatus = .opened
  workspace : state.workspaceId = config.workspaceId

variable {config : StoreConfig} {identity : StreamIdentity} {jobId : Option String}
  {moment : Moment} {pending : PendingEvent}

def appendingAt (config : StoreConfig) (identity : StreamIdentity) (jobId : Option String)
    (pending : PendingEvent) (progress : AppendProgress) : StreamSystem :=
  { fresh config identity jobId with
    disk := ⟨if progress = .started then [] else [config.encodeEvent pending.event],
      Dictionary.empty, none⟩
    committed := if progress = .started then [] else [pending]
    phase := .appending pending false progress none }

def openedStream (config : StoreConfig) (identity : StreamIdentity) (jobId : Option String)
    (pending : PendingEvent) : StreamSystem :=
  publish (appendingAt config identity jobId pending .done) pending none

def OpeningFits (config : StoreConfig) : Prop :=
  config.payloadBytes (openingRequest none).payload ≤ eventMaxPayloadBytes

theorem withoutNone_of_null {fields : List (String × Json)}
    (nulls : ∀ field ∈ fields, field.2 = .null) : Fields.withoutNone fields = Dictionary.empty := by
  rw [Fields.withoutNone, List.filter_eq_nil_iff.mpr fun field member => by
    simp [nulls field member]]
  rfl

theorem start_opening (fits : OpeningFits config) (identity : StreamIdentity)
    (jobId : Option String) (moment : Moment) : ∃ pending,
      start config identity jobId moment = appendingAt config identity jobId pending .started ∧
      pending.explicit = false ∧ pending.event.type = .streamOpened ∧
      FirstRecord config identity (config.encodeEvent pending.event) pending.nextState := by
  obtain ⟨commit, pending, next, started, built, checked, type, payload, fields, job, eventId⟩ :=
    @start_eq config identity jobId moment
  have begun : start config identity jobId moment =
      appendingAt config identity jobId pending .started := started
  have explicit : pending.explicit = false := by rw [built.explicit, eventId]; rfl
  have opened : pending.event.type = .streamOpened := by rw [built.event]; exact type
  have small : config.payloadBytes pending.event.payload ≤ eventMaxPayloadBytes := by
    rw [built.event]
    show config.payloadBytes commit.payload ≤ _
    rw [payload]
    exact fits
  have frame : next.frame =
      ((config.emptyState identity jobId).frame.after pending.event.type) :=
    applyEvent_frame built.applied
  have sameJob : pending.event.jobId = jobId := by
    rw [built.event]
    show resolvedJobId commit.jobId jobId = jobId
    rw [job]
    unfold resolvedJobId
    split
    · split <;> rfl
    · rfl
  have unbrought : (config.emptyState identity jobId).workspaceId.isSome ||
      !pending.event.fields.has "workspace_id" = true := by
    cases stored : config.workspaceId with
    | some workspace => simp [StoreConfig.emptyState, stored]
    | none =>
      have silent : pending.event.fields =
          envelopeFields (identityFields config (openingRequest jobId)) none := by
        rw [built.event]
        show envelopeFields commit.identity config.workspaceId = _
        rw [fields, stored]
      have nulls : ∀ field ∈ identityFields config (openingRequest jobId), field.2 = .null := by
        intro field member
        obtain ⟨name, known, rfl⟩ := List.mem_map.mp member
        have given : (openingRequest jobId).identifiers.get name = none := by
          unfold EventIdentifiers.get
          split <;> rfl
        simp only [stored, given, ite_self]
        exact get_opening known
      rw [silent, envelopeFields, withoutNone_of_null nulls]
      simp [Dictionary.has]
  have replayed : replaysRun config (start config identity jobId moment)
      [.advance, .advance, .advance, .publish] = true := by
    rw [begun]
    simp [replaysRun, StreamSystem.replays, appendingAt, fresh, StreamSystem.step, advanceAppend,
      explicit, sameJob, StoreConfig.emptyState] at unbrought ⊢
    exact .inl unbrought
  have after : StreamSystem.run config (start config identity jobId moment)
      [.advance, .advance, .advance, .publish] = openedStream config identity jobId pending := by
    rw [begun]
    simp [StreamSystem.run, appendingAt, fresh, StreamSystem.step, advanceAppend, explicit,
      openedStream]
  have committed : ∀ other ∈ (openedStream config identity jobId pending).committed,
      config.payloadBytes other.event.payload ≤ eventMaxPayloadBytes := by
    intro other member
    rw [List.mem_singleton.mp member]
    exact small
  have invariant : CommitInvariant config identity jobId
      (openedStream config identity jobId pending) := by
    have started := @CommitInvariant.start config identity jobId moment
    rw [← after]
    exact started.run (by decide) replayed (after ▸ committed)
  have free : ∀ other needsCompaction progress resume,
      (openedStream config identity jobId pending).phase ≠
        .appending other needsCompaction progress resume := by
    intro other needsCompaction progress resume phase
    cases phase
  have encoded : config.encodeEvent pending.event = pending.event := encodeEvent_eq small
  have first : pending.event.eventSeq = 1 := by rw [built.event]; rfl
  refine ⟨pending, begun, explicit, opened, ?_, ?_, ?_, ?_⟩
  · intro snapshot written
    have leaves : (openedStream config identity jobId pending).Leaves
        ⟨[config.encodeEvent pending.event], Dictionary.empty, snapshot⟩ := by
      refine ⟨⟨0, Nat.one_pos, rfl⟩, ?_⟩
      rcases written with unwritten | written
      · refine .inl ⟨unwritten, ?_⟩
        rintro record ⟨⟩
        rw [encoded, first]
      · refine .inr ⟨pending, List.mem_singleton_self _, written, ?_⟩
        rintro record ⟨⟩
        rw [encoded, first]
        omega
    obtain ⟨state, cached, loaded⟩ := invariant.recovers free leaves
    cases cached
    exact ⟨_, loaded⟩
  · rw [built.nextState]
    exact congrArg StreamFrame.identity frame
  · rw [built.nextState]
    have status := congrArg StreamFrame.streamStatus frame
    rw [opened] at status
    exact status
  · rw [built.nextState]
    exact congrArg StreamFrame.workspaceId frame

def Recorded (config : StoreConfig) (identity : StreamIdentity) (system : StreamSystem) : Prop :=
  ∃ record state snapshot, FirstRecord config identity record state ∧
    system.disk = ⟨[record], Dictionary.empty, snapshot⟩ ∧
    (snapshot = none ∨ snapshot = some state) ∧ (∀ scheduled ∈ system.scheduled, scheduled = state) ∧
    (system.cached = none ∨ system.cached = some state) ∧ system.identity = identity

/-- The stream is named by the index and has neither a record nor a state. -/
def Lost (system : StreamSystem) : Prop :=
  system.disk.log = [] ∧ system.cached = none

theorem appendingAt_recorded {progress : AppendProgress}
    (first : FirstRecord config identity (config.encodeEvent pending.event) pending.nextState)
    (begun : progress ≠ .started) :
    Recorded config identity (restart (appendingAt config identity jobId pending progress)) :=
  ⟨_, _, none, first, by simp [appendingAt, restart, begun], .inl rfl,
    fun _ member => absurd member List.not_mem_nil, .inl rfl, rfl⟩

theorem openedStream_recorded
    (first : FirstRecord config identity (config.encodeEvent pending.event) pending.nextState) :
    Recorded config identity (openedStream config identity jobId pending) := by
  refine ⟨_, _, none, first, rfl, .inl rfl, ?_, .inr rfl, rfl⟩
  intro scheduled member
  unfold openedStream publish at member
  dsimp only at member
  split at member
  · exact List.mem_singleton.mp member
  · cases member

variable {system : StreamSystem}

theorem Recorded.load (recorded : Recorded config identity system) :
    ∃ state loaded, TurnStore.loadState config system = .ok (state, loaded) ∧
      state.identity = identity ∧ Recorded config identity loaded ∧ loaded.cached = some state ∧
      state.streamStatus = .opened ∧ state.workspaceId = config.workspaceId := by
  obtain ⟨record, state, snapshot, first, disk, written, scheduled, cached, own⟩ := recorded
  refine ⟨state, ?_⟩
  rcases cached with uncached | cached
  · obtain ⟨ids, loads⟩ := first.loads snapshot written
    refine ⟨{ system with cached := some state, eventIds := some ids }, ?_, first.sameIdentity,
      ⟨record, state, snapshot, first, disk, written, scheduled, .inr rfl, own⟩, rfl, first.status,
      first.workspace⟩
    rw [← disk, ← own] at loads
    rw [TurnStore.loadState, uncached, loads]
    rfl
  · exact ⟨system, by rw [TurnStore.loadState, cached], first.sameIdentity,
      ⟨record, state, snapshot, first, disk, written, scheduled, .inr cached, own⟩, cached,
      first.status, first.workspace⟩

theorem Recorded.restart (recorded : Recorded config identity system) :
    Recorded config identity (restart system) := by
  obtain ⟨record, state, snapshot, first, disk, written, _, _, own⟩ := recorded
  exact ⟨record, state, snapshot, first, disk, written,
    fun _ member => absurd member List.not_mem_nil, .inl rfl, own⟩

theorem Recorded.settleSnapshot (recorded : Recorded config identity system) (written : Bool) :
    Recorded config identity (settleSnapshot system 0 written) := by
  obtain ⟨record, state, snapshot, first, disk, old, scheduled, cached, own⟩ := recorded
  unfold StreamSystem.settleSnapshot
  split
  · exact ⟨record, state, snapshot, first, disk, old, scheduled, cached, own⟩
  · rename_i stored found
    have same : stored = state := scheduled stored (List.mem_of_getElem? found)
    have later : (if written then writeStateSnapshot system.disk.snapshot stored
        else system.disk.snapshot) = none ∨ (if written then
          writeStateSnapshot system.disk.snapshot stored else system.disk.snapshot) =
          some state := by
      rw [disk, same]
      split
      · rcases old with rfl | rfl
        · exact .inr rfl
        · simp [writeStateSnapshot]
      · exact old
    refine ⟨record, state, _, first, ?_, later, fun other member =>
      scheduled other (List.mem_of_mem_eraseIdx member), cached, own⟩
    simp only [disk]

theorem Recorded.acceptsCommits {state : StreamState} (cached : system.cached = some state)
    (status : state.streamStatus = .opened) (workspace : state.workspaceId = config.workspaceId) :
    TurnStore.AcceptsCommits config system := by
  intro request checked valid implicit
  obtain ⟨type, payload, fields⟩ := checked
  have sameFields : fields = identityFields config request := by
    unfold checkPayload at valid
    split at valid
    · cases valid
    · obtain ⟨_, _, rest⟩ := bind_ok valid
      obtain ⟨_, _, rest⟩ := bind_ok rest
      cases rest
      rfl
  obtain ⟨adopted, adopts, adoptedStatus⟩ : ∃ adopted,
      adoptWorkspace state fields = .ok adopted ∧ adopted.streamStatus = .opened := by
    unfold adoptWorkspace incomingWorkspace
    rw [sameFields, lookupEntries_identityFields, workspace]
    cases stored : config.workspaceId with
    | none =>
      split
      · contradiction
      · exact ⟨_, rfl, status⟩
      · exact ⟨_, rfl, status⟩
    | some text =>
      have named : text ≠ "" := by
        rintro rfl
        exact config.workspaceId_ne_empty stored
      refine ⟨state, ?_, status⟩
      simp [requestedWorkspace, stored, Json.identifier?, named]
  refine ⟨⟨type, payload, fields, adopted, request.jobId, request.eventId⟩, ?_⟩
  have checks : checkCommit config system request =
      .ok ⟨type, payload, fields, adopted, request.jobId, request.eventId⟩ := by
    unfold checkCommit
    rw [valid, cached]
    change (adoptWorkspace state fields >>= _) = _
    rw [adopts]
    rfl
  have remembers : rememberEventIds system none = .ok system := rfl
  rw [beginCommit, checks]
  dsimp only
  rw [implicit, remembers]
  dsimp only
  unfold admitChecked previousEvent
  change (gateEvent adopted.streamStatus _ type payload >>= _) = _
  rw [adoptedStatus]
  rfl

namespace TurnStore

inductive Standing (config : StoreConfig) (store : TurnStore) : Bool → Prop where
  | unopened (phase : store.phase = .idle) (index : store.index = none) :
      Standing config store true
  | indexing {turnStreamId : String} {jobId : Option String}
      (phase : store.phase = .indexing turnStreamId jobId) (index : store.index = none)
      (stream : store.stream turnStreamId =
        fresh config (store.key.identity turnStreamId) jobId) : Standing config store true
  | committing {turnStreamId : String} {jobId : Option String} {pending : PendingEvent}
      {progress : AppendProgress} (phase : store.phase = .committing turnStreamId)
      (index : store.index = some turnStreamId)
      (stream : store.stream turnStreamId =
        appendingAt config (store.key.identity turnStreamId) jobId pending progress)
      (small : progress ≠ .snapshotted) (explicit : pending.explicit = false)
      (first : FirstRecord config (store.key.identity turnStreamId)
        (config.encodeEvent pending.event) pending.nextState) : Standing config store true
  | recorded {turnStreamId : String} (phase : store.phase = .idle)
      (index : store.index = some turnStreamId)
      (recorded : Recorded config (store.key.identity turnStreamId) (store.stream turnStreamId)) :
      Standing config store true
  | lost {turnStreamId : String} (phase : store.phase = .idle)
      (index : store.index = some turnStreamId) (lost : Lost (store.stream turnStreamId)) :
      Standing config store false

variable {store : TurnStore} {spared : Bool} {turnStreamId : String}

theorem loadState_lost (lost : Lost system) :
    loadState config system = .error (.notFound system.identity.turnStreamId) := by
  have read : readRecords system.identity system.disk.log = .ok [] := by rw [lost.1]; rfl
  rw [loadState, lost.2, loadStateFromDisk, read]
  rfl

theorem openStream_lost (index : store.index = some turnStreamId)
    (lost : Lost (store.stream turnStreamId)) (generatedId : String) :
    openStream config store generatedId jobId =
      (store, .raised (.stream (.notFound (store.stream turnStreamId).identity.turnStreamId))) := by
  rw [openStream, index]
  dsimp only
  rw [loadState_lost lost]

theorem openStream_recorded (index : store.index = some turnStreamId)
    (recorded : Recorded config (store.key.identity turnStreamId) (store.stream turnStreamId))
    (generatedId : String) :
    ∃ loaded, openStream config store generatedId jobId =
        (store.put turnStreamId loaded, .writer turnStreamId) ∧
      Recorded config (store.key.identity turnStreamId) loaded ∧ AcceptsCommits config loaded := by
  obtain ⟨state, loaded, loads, own, again, cached, status, workspace⟩ := recorded.load
  refine ⟨loaded, ?_, again, Recorded.acceptsCommits cached status workspace⟩
  rw [openStream, index]
  dsimp only
  rw [loads]
  dsimp only
  rw [own, if_neg (fun differs => differs rfl)]

theorem Standing.appends {command : StreamCommand} {progress : AppendProgress}
    (index : store.index = some turnStreamId)
    (steps : StreamSystem.step config (store.stream turnStreamId) command =
      appendingAt config (store.key.identity turnStreamId) jobId pending progress)
    (small : progress ≠ .snapshotted) (explicit : pending.explicit = false)
    (first : FirstRecord config (store.key.identity turnStreamId)
      (config.encodeEvent pending.event) pending.nextState) :
    Standing config (proceed config store turnStreamId command) true := by
  refine @Standing.committing config _ turnStreamId jobId pending progress ?_ index ?_ small
    explicit first
  · simp only [proceed, steps]
    rfl
  · simp only [proceed, put_stream, steps]
    rfl

theorem Standing.returns {command : StreamCommand} {next : StreamSystem}
    (index : store.index = some turnStreamId)
    (steps : StreamSystem.step config (store.stream turnStreamId) command = next)
    (idle : next.phase = .idle)
    (recorded : Recorded config (store.key.identity turnStreamId) next) :
    Standing config (proceed config store turnStreamId command) true := by
  refine @Standing.recorded config _ turnStreamId ?_ index ?_
  · simp only [proceed, steps, idle]
  · simp only [proceed, put_stream, steps]
    exact recorded

theorem reload_recorded (recorded : Recorded config identity system) : Recorded config identity (reload config system) ∧
      (reload config system).phase = system.phase := by
  obtain ⟨record, state, snapshot, first, disk, written, scheduled, _, own⟩ := recorded
  obtain ⟨ids, loads⟩ := first.loads snapshot written
  rw [← disk, ← own] at loads
  rw [reload, loads]
  exact ⟨⟨record, state, snapshot, first, disk, written, scheduled, .inr rfl, own⟩, rfl⟩

theorem reload_lost (lost : Lost system) : reload config system = system := by
  have read : readRecords system.identity system.disk.log = .ok [] := by rw [lost.1]; rfl
  rw [reload, loadStateFromDisk, read]
  rfl

theorem Standing.step (fits : OpeningFits config) (standing : Standing config store spared)
    (command : OpenCommand) :
    Standing config (step config store command) (spared && spares store command) := by
  cases standing with
  | unopened phase index =>
    cases command with
    | call generatedId jobId =>
      simp only [TurnStore.step, phase, spares, Bool.and_true]
      split
      · exact .unopened phase index
      · refine @Standing.indexing config _ generatedId jobId ?_ ?_ ?_
        · simp only [openStream, index]
        · simp only [openStream, index]
          exact index
        · simp only [openStream, index, put_stream]
          simp only [put]
    | crash =>
      simp only [TurnStore.step, phase, spares, Bool.and_true]
      exact .unopened rfl index
    | settleSnapshot written =>
      simp only [TurnStore.step, index, spares, Bool.and_true]
      exact .unopened phase index
    | writeIndex moment | failIndex | advance | publish | fail =>
      simp only [TurnStore.step, phase, spares, Bool.and_true]
      exact .unopened phase index
  | @indexing id job phase index stream =>
    cases command with
    | writeIndex moment =>
      obtain ⟨pending, started, explicit, _, first⟩ :=
        start_opening fits (store.key.identity id) job moment
      simp only [TurnStore.step, phase, spares, Bool.and_true]
      have steps : StreamSystem.step config (store.stream id)
          (.begin (openingRequest job) moment) =
            appendingAt config (store.key.identity id) job pending .started := by
        rw [stream]
        exact started
      exact @Standing.appends config job pending { store with index := some id } id _ .started
        rfl steps (by simp) explicit first
    | failIndex =>
      simp only [TurnStore.step, phase, spares, Bool.and_true]
      exact .unopened rfl index
    | crash =>
      simp only [TurnStore.step, phase, spares, Bool.and_true]
      exact .unopened rfl index
    | settleSnapshot written =>
      simp only [TurnStore.step, index, spares, Bool.and_true]
      exact .indexing phase index stream
    | call generatedId jobId | advance | publish | fail =>
      simp only [TurnStore.step, phase, spares, Bool.and_true]
      exact .indexing phase index stream
  | @committing id job pending progress phase index stream small explicit first =>
    have noted : progress ≠ .started →
        (store.stream id).disk.log = [config.encodeEvent pending.event] := by
      intro begun
      rw [stream]
      simp [appendingAt, begun]
    have unnoted : progress = .started → (store.stream id).disk.log = [] := by
      rintro rfl
      rw [stream]
      rfl
    cases command with
    | advance =>
      simp only [TurnStore.step, phase, spares, Bool.and_true]
      have moved : ∃ later, StreamSystem.step config (store.stream id) .advance =
          appendingAt config (store.key.identity id) job pending later ∧
          later ≠ .snapshotted := by
        rw [stream]
        cases progress with
        | started => exact ⟨.logged, rfl, by simp⟩
        | logged =>
          refine ⟨.recorded, ?_, by simp⟩
          simp [StreamSystem.step, appendingAt, advanceAppend, explicit, fresh]
        | recorded => exact ⟨.done, rfl, by simp⟩
        | snapshotted => exact absurd rfl small
        | done => exact ⟨.done, rfl, by simp⟩
      obtain ⟨later, steps, allowed⟩ := moved
      exact .appends index steps allowed explicit first
    | publish =>
      simp only [TurnStore.step, phase, spares, Bool.and_true]
      cases progress with
      | done =>
        have steps : StreamSystem.step config (store.stream id) .publish =
            openedStream config (store.key.identity id) job pending := by
          rw [stream]
          rfl
        exact .returns index steps rfl (openedStream_recorded first)
      | snapshotted => exact absurd rfl small
      | started | logged | recorded =>
        have steps : StreamSystem.step config (store.stream id) .publish =
            store.stream id := by
          rw [stream]
          rfl
        exact .appends index (steps.trans stream) small explicit first
    | fail =>
      simp only [TurnStore.step, phase]
      have steps : StreamSystem.step config (store.stream id) .fail =
          reload config (restart (store.stream id)) := by
        rw [stream]
        rfl
      by_cases begun : progress = .started
      · have lost : Lost (restart (store.stream id)) := ⟨unnoted begun, rfl⟩
        rw [reload_lost lost] at steps
        simp only [spares, phase, unnoted begun]
        refine @Standing.lost config _ id ?_ index ?_
        · simp only [proceed, steps]
          rfl
        · simp only [proceed, put_stream, steps]
          exact lost
      · have recorded := @appendingAt_recorded config _ job _ _ first begun
        rw [← stream] at recorded
        obtain ⟨again, idle⟩ := reload_recorded recorded
        simp only [spares, phase, noted begun]
        exact .returns index steps idle again
    | crash =>
      by_cases begun : progress = .started
      · simp only [TurnStore.step, spares, phase, unnoted begun]
        exact .lost rfl index ⟨unnoted begun, rfl⟩
      · simp only [TurnStore.step, spares, phase, noted begun]
        have recorded := @appendingAt_recorded config _ job _ _ first begun
        rw [← stream] at recorded
        exact .recorded rfl index recorded
    | settleSnapshot written =>
      simp only [TurnStore.step, index, spares, Bool.and_true]
      have unchanged : settleSnapshot (store.stream id) 0 written = store.stream id := by
        rw [stream]
        rfl
      refine @Standing.committing config _ id job pending progress phase index ?_ small explicit
        first
      rw [unchanged, put_stream, stream]
      rfl
    | call generatedId jobId | writeIndex moment | failIndex =>
      simp only [TurnStore.step, phase, spares, Bool.and_true]
      exact .committing phase index stream small explicit first
  | @recorded id phase index recorded =>
    cases command with
    | call generatedId jobId =>
      simp only [TurnStore.step, phase, spares, Bool.and_true]
      split
      · exact .recorded phase index recorded
      · obtain ⟨loaded, opened, again, _⟩ :=
          @openStream_recorded config jobId store id index recorded generatedId
        rw [opened]
        refine @Standing.recorded config _ id phase index ?_
        rw [put_stream]
        exact again
    | crash =>
      simp only [TurnStore.step, phase, spares, Bool.and_true]
      exact .recorded rfl index recorded.restart
    | settleSnapshot written =>
      simp only [TurnStore.step, index, spares, Bool.and_true]
      refine @Standing.recorded config _ id phase index ?_
      rw [put_stream]
      exact recorded.settleSnapshot written
    | writeIndex moment | failIndex | advance | publish | fail =>
      simp only [TurnStore.step, phase, spares, Bool.and_true]
      exact .recorded phase index recorded
  | @lost id phase index lost =>
    cases command with
    | call generatedId jobId =>
      simp only [TurnStore.step, phase, Bool.false_and]
      rw [openStream_lost index lost, ite_self]
      exact .lost phase index lost
    | crash => exact .lost rfl index ⟨lost.1, rfl⟩
    | settleSnapshot written =>
      simp only [TurnStore.step, index, Bool.false_and]
      refine @Standing.lost config _ id phase index ?_
      rw [put_stream]
      unfold StreamSystem.settleSnapshot
      split <;> exact lost
    | writeIndex moment | failIndex | advance | publish | fail =>
      simp only [TurnStore.step, phase, Bool.false_and]
      exact .lost phase index lost

theorem Standing.run (fits : OpeningFits config) (standing : Standing config store spared)
    (commands : List OpenCommand) :
    Standing config (run config store commands) (spared && sparesRun config store commands) := by
  induction commands generalizing store spared with
  | nil => simpa [TurnStore.run, sparesRun] using standing
  | cons command commands ih =>
    have later := ih (standing.step fits command)
    rw [Bool.and_assoc] at later
    exact later

theorem run_uninterrupted (fits : OpeningFits config) {created : TurnStore}
    (phase : created.phase = .indexing turnStreamId jobId)
    (stream : created.stream turnStreamId =
      fresh config (created.key.identity turnStreamId) jobId) (moment : Moment) :
    let committed := TurnStore.run config created (uninterrupted moment)
    committed.phase = .idle ∧ committed.index = some turnStreamId ∧
      ∃ pending, committed.stream turnStreamId =
          openedStream config (created.key.identity turnStreamId) jobId pending ∧
        FirstRecord config (created.key.identity turnStreamId) (config.encodeEvent pending.event)
          pending.nextState := by
  obtain ⟨pending, started, explicit, _, first⟩ :=
    start_opening fits (created.key.identity turnStreamId) jobId moment
  generalize created.key.identity turnStreamId = identity at *
  have begun : StreamSystem.step config (created.stream turnStreamId)
      (.begin (openingRequest jobId) moment) =
        appendingAt config identity jobId pending .started := by
    rw [stream]
    exact started
  have logs : StreamSystem.step config (appendingAt config identity jobId pending .started)
      .advance = appendingAt config identity jobId pending .logged := rfl
  have records : StreamSystem.step config (appendingAt config identity jobId pending .logged)
      .advance = appendingAt config identity jobId pending .recorded := by
    simp [StreamSystem.step, appendingAt, advanceAppend, explicit, fresh]
  have ends : StreamSystem.step config (appendingAt config identity jobId pending .recorded)
      .advance = appendingAt config identity jobId pending .done := rfl
  have publishes : StreamSystem.step config (appendingAt config identity jobId pending .done)
      .publish = openedStream config identity jobId pending := rfl
  have appending (progress : AppendProgress) :
      (appendingAt config identity jobId pending progress).phase =
        .appending pending false progress none := rfl
  have opened : (openedStream config identity jobId pending).phase = .idle := rfl
  refine ⟨?_, ?_, pending, ?_, first⟩ <;>
    simp only [uninterrupted, TurnStore.run, List.foldl_cons, List.foldl_nil, TurnStore.step,
      phase, proceed, put_stream, begun, logs, records, ends, publishes, appending, opened]
  rfl

theorem opensAgain_unopened (fits : OpeningFits config) (index : store.index = none) :
    OpensAgain config store := by
  intro generatedId jobId moment _
  have created : openStream config store generatedId jobId =
      ({ store.put generatedId (fresh config (store.key.identity generatedId) jobId) with
          taken := generatedId :: store.taken
          phase := .indexing generatedId jobId }, .creating) := by
    rw [openStream, index]
  obtain ⟨idle, named, pending, stream, first⟩ :=
    @run_uninterrupted config jobId generatedId fits
      { store.put generatedId (fresh config (store.key.identity generatedId) jobId) with
        taken := generatedId :: store.taken
        phase := .indexing generatedId jobId } rfl (store.put_stream _ _) moment
  refine ⟨_, generatedId, ?_, named, ?_, ?_⟩
  · rw [reopen, created]
    dsimp only
    rw [idle]
  · rw [stream]
    exact List.cons_ne_nil _ _
  · rw [stream]
    exact Recorded.acceptsCommits rfl first.status first.workspace

theorem opensAgain_recorded (index : store.index = some turnStreamId)
    (recorded : Recorded config (store.key.identity turnStreamId) (store.stream turnStreamId)) :
    OpensAgain config store := by
  intro generatedId jobId moment _
  obtain ⟨loaded, opened, again, accepts⟩ :=
    @openStream_recorded config jobId store turnStreamId index recorded generatedId
  refine ⟨store.put turnStreamId loaded, turnStreamId, ?_, index, ?_, ?_⟩
  · rw [reopen, opened]
  · obtain ⟨record, state, snapshot, _, disk, _⟩ := again
    rw [put_stream, disk]
    exact List.cons_ne_nil _ _
  · rw [put_stream]
    exact accepts

theorem not_opensAgain_lost (index : store.index = some turnStreamId)
    (lost : Lost (store.stream turnStreamId)) {generatedId : String}
    (generated : generatedId ∉ store.taken) : ¬ OpensAgain config store := by
  intro opens
  obtain ⟨after, named, opened, _⟩ := opens generatedId none ⟨"", ""⟩ generated
  rw [reopen, openStream_lost index lost] at opened
  cases opened

theorem exists_untaken (taken : List String) : ∃ generatedId, generatedId ∉ taken := by
  have injective : Function.Injective fun count : Nat =>
      String.ofList (List.replicate count 'a') := by
    intro first second same
    have lists := String.ofList_injective same
    simpa using congrArg List.length lists
  have infinite : Infinite String := .of_injective _ injective
  obtain ⟨generatedId, generated⟩ := Infinite.exists_notMem_finset taken.toFinset
  exact ⟨generatedId, fun member => generated (List.mem_toFinset.mpr member)⟩

/-- Once the calls have ended, a later `open` returns a writer of a stream that accepts
commits if and only if every crash and every failed append spared the store: none of them
struck while the index named a stream without a record. -/
theorem opening_survives_iff_spared (config : StoreConfig) (fits : OpeningFits config)
    (key : TurnKey) (commands : List OpenCommand)
    (ended : (run config (init config key) commands).phase = .idle) :
    OpensAgain config (run config (init config key) commands) ↔
      sparesRun config (init config key) commands = true := by
  have unopened : Standing config (init config key) true := .unopened rfl rfl
  have standing := unopened.run fits commands
  rw [Bool.true_and] at standing
  generalize run config (init config key) commands = store at ended standing ⊢
  generalize sparesRun config (init config key) commands = spared at standing ⊢
  cases standing with
  | unopened _ index => exact iff_of_true (opensAgain_unopened fits index) rfl
  | indexing phase => rw [phase] at ended; cases ended
  | committing phase => rw [phase] at ended; cases ended
  | recorded _ index recorded => exact iff_of_true (opensAgain_recorded index recorded) rfl
  | lost _ index lost =>
    obtain ⟨generatedId, generated⟩ := exists_untaken store.taken
    exact iff_of_false (not_opensAgain_lost index lost generated) Bool.false_ne_true

def sampleTurn : TurnKey := ⟨"session_1", "thread_1", "turn_1"⟩

/-- The process stops when the record is in the log. -/
theorem opening_survives_iff_spared_logged :
    OpensAgain smallLog (run smallLog (init smallLog sampleTurn)
      [.call "strm_1" none, .writeIndex ⟨"evt_1", "10:00"⟩, .advance, .crash]) :=
  (opening_survives_iff_spared smallLog (by unfold OpeningFits; decide) sampleTurn
    [.call "strm_1" none, .writeIndex ⟨"evt_1", "10:00"⟩, .advance, .crash] rfl).mpr (by decide)

/-- The process stops between the index write and the append: no later `open` returns. -/
theorem opening_survives_iff_spared_unlogged :
    ¬ ∀ (config : StoreConfig), OpeningFits config → ∀ (key : TurnKey)
      (commands : List OpenCommand), (run config (init config key) commands).phase = .idle →
      OpensAgain config (run config (init config key) commands) := by
  intro survives
  refine @not_opensAgain_lost smallLog (run smallLog (init smallLog sampleTurn)
    [.call "strm_1" none, .writeIndex ⟨"evt_1", "10:00"⟩, .crash]) "strm_1" rfl ⟨rfl, rfl⟩ "strm_2"
    (by decide) (survives smallLog (by unfold OpeningFits; decide) sampleTurn _ rfl)

end TurnStore

end GraphAgent.MessageStream
