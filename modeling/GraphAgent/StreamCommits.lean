import GraphAgent.StreamEntities

/-!
# What a step of a stream can do

Every command leads to one of a few transitions: the lock is taken, an event is
handed to the worker thread, the thread goes on, or the cache changes.  The
invariants of runs are derived from this list alone.
-/

namespace GraphAgent.MessageStream

open Transaction

inductive Remembered (system : StreamSystem) : StreamSystem → Prop where
  | same : Remembered system system
  | read {records : List StreamEvent} (unread : system.eventIds = none)
      (ok : readRecords system.identity system.disk.log = .ok records) :
      Remembered system
        { system with eventIds := some (eventIdsFromRecords system.disk.sidecar records) }

structure Admitted (config : StoreConfig) (loaded : StreamSystem) (request : CommitRequest)
    (checked commit : CheckedCommit) : Prop where
  checks : StreamSystem.checkCommit config loaded request = .ok checked
  unknown : ∀ eventId, request.eventId = some eventId →
    (loaded.eventIds.getD Dictionary.empty).lookup eventId = none
  gate : gateEvent checked.state.streamStatus checked.state.identity.turnStreamId checked.type
    checked.payload = .ok (commit.type, commit.payload)
  rest : commit = { checked with type := commit.type, payload := commit.payload }

def StreamSystem.hold (system : StreamSystem) (commit : CheckedCommit) : StreamSystem :=
  { system with phase := .closing ⟨commit, (system.cached.map pendingBlocks).getD []⟩ }

def StreamSystem.handOver (config : StoreConfig) (system : StreamSystem) (pending : PendingEvent)
    (resume : Option Closing) : StreamSystem :=
  { system with
    phase := .appending pending (StreamSystem.needsCompaction config system pending.event)
      .started resume }

inductive StreamStep (config : StoreConfig) (system : StreamSystem) :
    StreamCommand → StreamSystem → Prop where
  | stay (command : StreamCommand) : StreamStep config system command system
  /-- A commit returned an earlier event or raised. -/
  | answered {loaded : StreamSystem} (request : CommitRequest) (moment : Moment)
      (idle : system.phase = .idle) (remembered : Remembered system loaded) :
      StreamStep config system (.begin request moment) loaded
  | held {loaded : StreamSystem} {request : CommitRequest} {checked commit : CheckedCommit}
      (moment : Moment) (idle : system.phase = .idle) (remembered : Remembered system loaded)
      (admitted : Admitted config loaded request checked commit)
      (completes : commit.type = .streamCompleted) :
      StreamStep config system (.begin request moment) (loaded.hold commit)
  | begun {loaded : StreamSystem} {request : CommitRequest} {checked commit : CheckedCommit}
      {moment : Moment} {pending : PendingEvent} (idle : system.phase = .idle)
      (remembered : Remembered system loaded)
      (admitted : Admitted config loaded request checked commit)
      (other : commit.type ≠ .streamCompleted) (generated : system.generates moment = true)
      (prepared : prepareEvent config commit commit.state moment = .ok pending) :
      StreamStep config system (.begin request moment) (loaded.handOver config pending none)
  | closing {outer checked commit : CheckedCommit} {block : Fields} {remaining : List Fields}
      {request : CommitRequest} {moment : Moment} {pending : PendingEvent}
      (phase : system.phase = .closing ⟨outer, block :: remaining⟩)
      (closes : closingRequest config.interpreter outer.jobId block = .ok request)
      (admitted : Admitted config system request checked commit)
      (generated : system.generates moment = true)
      (prepared : prepareEvent config commit commit.state moment = .ok pending) :
      StreamStep config system (.close moment)
        (system.handOver config pending (some ⟨outer, remaining⟩))
  | completing {outer : CheckedCommit} {state : StreamState} {moment : Moment}
      {pending : PendingEvent} (phase : system.phase = .closing ⟨outer, []⟩)
      (cached : system.cached = some state) (generated : system.generates moment = true)
      (prepared : prepareEvent config outer state moment = .ok pending) :
      StreamStep config system (.close moment) (system.handOver config pending none)
  /-- A commit raised and gave the lock back. -/
  | raised {loaded : StreamSystem} (command : StreamCommand)
      (free : ∀ pending needsCompaction progress resume,
        system.phase ≠ .appending pending needsCompaction progress resume)
      (remembered : Remembered system loaded) :
      StreamStep config system command { loaded with phase := .idle }
  | advanced {pending : PendingEvent} {needsCompaction : Bool} {progress : AppendProgress}
      {resume : Option Closing}
      (phase : system.phase = .appending pending needsCompaction progress resume) :
      StreamStep config system .advance
        (StreamSystem.advanceAppend config system pending needsCompaction resume progress)
  | published {pending : PendingEvent} {needsCompaction : Bool} {resume : Option Closing}
      (phase : system.phase = .appending pending needsCompaction .done resume) :
      StreamStep config system .publish (StreamSystem.publish system pending resume)
  | failed {pending : PendingEvent} {needsCompaction : Bool} {progress : AppendProgress}
      {resume : Option Closing}
      (phase : system.phase = .appending pending needsCompaction progress resume) :
      StreamStep config system .fail (StreamSystem.recoverAppend config system)
  | restarted : StreamStep config system .restart (StreamSystem.restart system)
  | reloaded : StreamStep config system .load (StreamSystem.reload config system)
  | evicted : StreamStep config system .evict (StreamSystem.evict system)
  | settled (index : Nat) (written : Bool) :
      StreamStep config system (.settleSnapshot index written)
        (StreamSystem.settleSnapshot system index written)

variable {config : StoreConfig} {system loaded : StreamSystem} {request : CommitRequest}
  {commit : CheckedCommit} {pending : PendingEvent} {moment : Moment} {state : StreamState}

theorem rememberEventIds_ok {eventId : Option String}
    (ok : StreamSystem.rememberEventIds system eventId = .ok loaded) :
    Remembered system loaded := by
  unfold StreamSystem.rememberEventIds at ok
  split at ok
  · rename_i unread
    obtain ⟨records, read, built⟩ := bind_ok ok
    cases Except.ok.inj built
    exact .read unread read
  · cases Except.ok.inj ok
    exact .same

theorem Remembered.cached_eq (remembered : Remembered system loaded) :
    loaded.cached = system.cached := by
  cases remembered <;> rfl

theorem Remembered.identity_eq (remembered : Remembered system loaded) :
    loaded.identity = system.identity := by
  cases remembered <;> rfl

theorem Remembered.phase_eq (remembered : Remembered system loaded) :
    loaded.phase = system.phase := by
  cases remembered <;> rfl

theorem Remembered.committed_eq (remembered : Remembered system loaded) :
    loaded.committed = system.committed := by
  cases remembered <;> rfl

theorem Remembered.generates_eq (remembered : Remembered system loaded) (moment : Moment) :
    loaded.generates moment = system.generates moment := by
  have taken : loaded.takenIds = system.takenIds := by
    cases remembered <;> rfl
  rw [Bool.eq_iff_iff]
  simp only [StreamSystem.generates, decide_eq_true_eq, taken]

theorem checkCommit_congr (cached : loaded.cached = system.cached)
    (identity : loaded.identity = system.identity) :
    StreamSystem.checkCommit config loaded request =
      StreamSystem.checkCommit config system request := by
  simp only [StreamSystem.checkCommit, cached, identity]

theorem checkCommit_eventId {checked : CheckedCommit}
    (ok : StreamSystem.checkCommit config system request = .ok checked) :
    checked.eventId = request.eventId := by
  obtain ⟨fields, _, rest⟩ := bind_ok ok
  cases cached : system.cached with
  | none => simp [cached] at rest
  | some state =>
    simp only [cached] at rest
    obtain ⟨adopted, _, built⟩ := bind_ok rest
    cases Except.ok.inj built
    rfl

theorem admitChecked_admitted {checked : CheckedCommit}
    (checks : StreamSystem.checkCommit config loaded request = .ok checked)
    (ok : StreamSystem.admitChecked loaded checked = .ok (.admitted commit)) :
    Admitted config loaded request checked commit := by
  obtain ⟨previous, looked, rest⟩ := bind_ok ok
  have eventId := checkCommit_eventId checks
  cases previous with
  | some event => cases Except.ok.inj rest
  | none =>
    obtain ⟨gated, gate, built⟩ := bind_ok rest
    cases Except.ok.inj built
    refine ⟨checks, ?_, gate, rfl⟩
    intro given isGiven
    rw [StreamSystem.previousEvent, eventId, isGiven] at looked
    simp only [checkDuplicate] at looked
    cases found : (loaded.eventIds.getD Dictionary.empty).lookup given with
    | none => rfl
    | some event =>
      simp only [found] at looked
      obtain ⟨allowed, _, answer⟩ := bind_ok looked
      split at answer
      · cases answer
      · cases Except.ok.inj answer

theorem beginCommit_cases (config : StoreConfig) (system : StreamSystem)
    (request : CommitRequest) :
    Remembered system (StreamSystem.beginCommit config system request).1 ∧
      ∀ commit, (StreamSystem.beginCommit config system request).2 = .ok (.admitted commit) →
        ∃ checked, Admitted config (StreamSystem.beginCommit config system request).1 request
          checked commit := by
  cases checks : StreamSystem.checkCommit config system request with
  | error error => simp [StreamSystem.beginCommit, checks, Remembered.same]
  | ok checked =>
    cases read : StreamSystem.rememberEventIds system checked.eventId with
    | error error => simp [StreamSystem.beginCommit, checks, read, Remembered.same]
    | ok loaded =>
      have remembered := rememberEventIds_ok read
      simp only [StreamSystem.beginCommit, checks, read]
      refine ⟨remembered, ?_⟩
      intro commit admitted
      refine ⟨checked, admitChecked_admitted ?_ admitted⟩
      rw [checkCommit_congr remembered.cached_eq remembered.identity_eq]
      exact checks

theorem closingRequest_eventId {interpreter : Json.Interpreter} {jobId : Option String}
    {block : Fields} (ok : closingRequest interpreter jobId block = .ok request) :
    request.eventId = none := by
  obtain ⟨index, _, built⟩ := bind_ok ok
  cases Except.ok.inj built
  rfl

theorem beginCommit_of_generated (unnamed : request.eventId = none) :
    (StreamSystem.beginCommit config system request).1 = system := by
  unfold StreamSystem.beginCommit
  cases checks : StreamSystem.checkCommit config system request with
  | error error => rfl
  | ok checked =>
    have eventId := (checkCommit_eventId checks).trans unnamed
    simp [StreamSystem.rememberEventIds, eventId]

theorem beginCommit_not_duplicate (unnamed : request.eventId = none) {event : StreamEvent} :
    (StreamSystem.beginCommit config system request).2 ≠ .ok (.duplicate event) := by
  intro duplicate
  cases checks : StreamSystem.checkCommit config system request with
  | error error => simp [StreamSystem.beginCommit, checks] at duplicate
  | ok checked =>
    have eventId := (checkCommit_eventId checks).trans unnamed
    simp only [StreamSystem.beginCommit, checks, StreamSystem.rememberEventIds, eventId,
      StreamSystem.admitChecked, StreamSystem.previousEvent] at duplicate
    obtain ⟨previous, none, rest⟩ := bind_ok duplicate
    cases Except.ok.inj none
    obtain ⟨gated, _, built⟩ := bind_ok rest
    cases Except.ok.inj built

theorem streamStep_closeBlock {outer : CheckedCommit} {block : Fields}
    {remaining : List Fields} (phase : system.phase = .closing ⟨outer, block :: remaining⟩)
    (generated : system.generates moment = true) :
    StreamStep config system (.close moment)
      (StreamSystem.closeBlock config system outer block remaining moment) := by
  have free : ∀ pending needsCompaction progress resume,
      system.phase ≠ .appending pending needsCompaction progress resume := by
    simp [phase]
  unfold StreamSystem.closeBlock
  cases closes : closingRequest config.interpreter outer.jobId block with
  | error error => exact .raised _ free .same
  | ok request =>
    dsimp only
    have unnamed := closingRequest_eventId closes
    have unread : (StreamSystem.beginCommit config system request).1 = system :=
      beginCommit_of_generated unnamed
    have fresh (event : StreamEvent) :
        (StreamSystem.beginCommit config system request).2 ≠ .ok (.duplicate event) :=
      beginCommit_not_duplicate unnamed
    obtain ⟨_, admitted⟩ := beginCommit_cases config system request
    rw [unread] at admitted
    cases result : StreamSystem.beginCommit config system request with
    | mk loaded answer =>
      rw [result] at unread admitted fresh
      simp only at unread admitted fresh
      subst unread
      cases answer with
      | error error => exact .raised _ free .same
      | ok admission =>
        cases admission with
        | duplicate event => exact absurd rfl (fresh event)
        | admitted commit =>
          obtain ⟨checked, isAdmitted⟩ := admitted commit rfl
          simp only [StreamSystem.startAppend]
          cases prepared : prepareEvent config commit commit.state moment with
          | error error => exact .raised _ free .same
          | ok pending => exact .closing phase closes isAdmitted generated prepared

theorem streamStep_completeStream {outer : CheckedCommit}
    (phase : system.phase = .closing ⟨outer, []⟩) (generated : system.generates moment = true) :
    StreamStep config system (.close moment)
      (StreamSystem.completeStream config system outer moment) := by
  have free : ∀ pending needsCompaction progress resume,
      system.phase ≠ .appending pending needsCompaction progress resume := by
    simp [phase]
  cases cached : system.cached with
  | none =>
    have stopped : StreamSystem.completeStream config system outer moment =
        { system with phase := .idle } := by
      simp only [StreamSystem.completeStream, cached]
    rw [stopped]
    exact .raised _ free .same
  | some state =>
    have started : StreamSystem.completeStream config system outer moment =
        StreamSystem.startAppend config system (prepareEvent config outer state moment)
          none := by
      simp only [StreamSystem.completeStream, cached]
    rw [started]
    unfold StreamSystem.startAppend
    cases prepared : prepareEvent config outer state moment with
    | error error => exact .raised _ free .same
    | ok pending => exact .completing phase cached generated prepared

theorem streamStep_begin (idle : system.phase = .idle) (generated : system.generates moment = true) :
    StreamStep config system (.begin request moment)
      (match StreamSystem.beginCommit config system request with
        | (loaded, .ok (.admitted commit)) =>
          StreamSystem.continueCommit config loaded commit moment
        | (loaded, _) => loaded) := by
  obtain ⟨remembered, admitted⟩ := beginCommit_cases config system request
  cases result : StreamSystem.beginCommit config system request with
  | mk loaded answer =>
    rw [result] at remembered admitted
    simp only at remembered admitted
    cases answer with
    | error error => exact .answered request moment idle remembered
    | ok admission =>
      cases admission with
      | duplicate event => exact .answered request moment idle remembered
      | admitted commit =>
        obtain ⟨checked, isAdmitted⟩ := admitted commit rfl
        simp only [StreamSystem.continueCommit]
        split
        · rename_i completes
          exact .held moment idle remembered isAdmitted completes
        · rename_i other
          simp only [StreamSystem.startAppend]
          cases prepared : prepareEvent config commit commit.state moment with
          | error error => exact .raised _ (by simp [idle]) remembered
          | ok pending => exact .begun idle remembered isAdmitted other generated prepared

theorem streamStep_step (config : StoreConfig) (system : StreamSystem) (command : StreamCommand) :
    StreamStep config system command (StreamSystem.step config system command) := by
  cases command with
  | begin request moment =>
    simp only [StreamSystem.step]
    cases phase : system.phase with
    | idle =>
      simp only
      split
      · rename_i generated
        exact streamStep_begin phase generated
      · exact .stay _
    | closing held => exact .stay _
    | appending pending needsCompaction progress resume => exact .stay _
  | close moment =>
    simp only [StreamSystem.step]
    cases phase : system.phase with
    | idle => exact .stay _
    | appending pending needsCompaction progress resume => exact .stay _
    | closing held =>
      obtain ⟨outer, remaining⟩ := held
      cases remaining with
      | cons block remaining =>
        simp only
        split
        · rename_i generated
          exact streamStep_closeBlock phase generated
        · exact .stay _
      | nil =>
        simp only
        split
        · rename_i generated
          exact streamStep_completeStream phase generated
        · exact .stay _
  | advance =>
    simp only [StreamSystem.step]
    cases phase : system.phase with
    | idle => exact .stay _
    | closing held => exact .stay _
    | appending pending needsCompaction progress resume => exact .advanced phase
  | publish =>
    simp only [StreamSystem.step]
    cases phase : system.phase with
    | idle => exact .stay _
    | closing held => exact .stay _
    | appending pending needsCompaction progress resume =>
      cases progress with
      | done => exact .published phase
      | started | logged | recorded | snapshotted => exact .stay _
  | fail =>
    simp only [StreamSystem.step]
    cases phase : system.phase with
    | idle => exact .stay _
    | closing held => exact .stay _
    | appending pending needsCompaction progress resume => exact .failed phase
  | restart => exact .restarted
  | load => exact .reloaded
  | evict => exact .evicted
  | settleSnapshot index written => exact .settled index written

end GraphAgent.MessageStream
