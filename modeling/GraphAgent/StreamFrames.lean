import GraphAgent.StreamCommits

/-!
# What an event leaves alone

The projection never touches the identity, the job, the workspace and the
sequence number of a state, and the type of an event alone decides the status.
-/

namespace GraphAgent.MessageStream

open Json Transaction

/-- The fields outside the reach of the projection, and the status. -/
structure StreamFrame where
  identity : StreamIdentity
  jobId : Option String
  workspaceId : Option String
  snapshotSeq : Nat
  streamStatus : StreamStatus

def StreamState.frame (state : StreamState) : StreamFrame :=
  ⟨state.identity, state.jobId, state.workspaceId, state.snapshotSeq, state.streamStatus⟩

def StreamStatus.after (status : StreamStatus) : EventType → StreamStatus
  | .streamOpened => .opened
  | .interruptRequested => .interrupting
  | .streamCompleted => .completed
  | .streamInterrupted => .interrupted
  | .streamFailed => .failed
  | _ => status

def StreamFrame.after (frame : StreamFrame) (type : EventType) : StreamFrame :=
  { frame with streamStatus := frame.streamStatus.after type }

section

variable {interpreter : Interpreter} {state next : StreamState} {event : StreamEvent}

@[simp]
theorem setActiveState_frame (fields : List (String × Json)) :
    (state.setActiveState fields).frame = state.frame :=
  rfl

@[simp]
theorem setTerminalActiveState_frame (status : String) (payload : Fields) :
    (setTerminalActiveState state status payload).frame = state.frame :=
  rfl

@[simp]
theorem upsertModelCall_frame (state : StreamState) (payload : Fields) (status : String) :
    (upsertModelCall state payload status).frame = state.frame := by
  unfold upsertModelCall
  split <;> rfl

theorem upsertBlock_frame {payload : Fields} {status : String} {modelCallId : Json}
    {change : Fields → Except StreamError Fields}
    (ok : upsertBlock interpreter state payload status modelCallId change = .ok next) :
    next.frame = state.frame := by
  unfold upsertBlock at ok
  split at ok
  · cases ok
  · split at ok
    · obtain ⟨blocks, _, built⟩ := bind_ok ok
      cases built
      rfl
    · obtain ⟨created, _, rest⟩ := bind_ok ok
      obtain ⟨block, _, built⟩ := bind_ok rest
      cases built
      rfl

theorem upsertToolCall_frame {payload : Fields} (ok : upsertToolCall state payload = .ok next) :
    next.frame = state.frame := by
  unfold upsertToolCall at ok
  split at ok
  · cases ok
  · cases ok
    rfl

theorem upsertTool_frame {payload : Fields} {status : String}
    (ok : upsertTool state payload status = .ok next) : next.frame = state.frame := by
  unfold upsertTool at ok
  split at ok
  · cases ok
  · cases ok
    rfl

theorem applyActivityEvent_frame {stage : ActivityStage} {payload : Fields}
    (ok : applyActivityEvent interpreter state stage payload = .ok next) :
    next.frame = state.frame := by
  unfold applyActivityEvent at ok
  split at ok
  · cases ok
  · simp only at ok
    split at ok
    · cases ok
    · cases ok
      rfl

theorem finishEntities_frame {outcome blockStatus activityStatus : String}
    (ok : finishEntities outcome blockStatus activityStatus state = .ok next) :
    next.frame = state.frame := by
  obtain ⟨called, calledOk, rest⟩ := bind_ok ok
  obtain ⟨toolCalls, _, calledEq⟩ := bind_ok calledOk
  obtain ⟨activities, _, finishedEq⟩ := bind_ok rest
  cases calledEq
  cases finishedEq
  rfl

theorem projectEvent_frame (projected : projectEvent interpreter state event = .ok next) :
    next.frame = state.frame.after event.type := by
  unfold projectEvent at projected
  cases type : event.type with
  | modelStarted =>
    simp only [type] at projected
    obtain ⟨attempt, _, built⟩ := bind_ok projected
    cases built
    rw [setActiveState_frame, upsertModelCall_frame]
    rfl
  | modelCompleted =>
    simp only [type, Except.ok.injEq] at projected
    rw [← projected, upsertModelCall_frame]
    rfl
  | modelFailed =>
    simp only [type, Except.ok.injEq] at projected
    subst projected
    have frame := upsertModelCall_frame { state with agentLoopStatus := "validating" }
      event.payload "failed"
    exact frame
  | blockStarted =>
    simp only [type] at projected
    obtain ⟨started, startedOk, built⟩ := bind_ok projected
    cases built
    rw [setActiveState_frame, upsertBlock_frame startedOk]
    rfl
  | blockDelta =>
    simp only [type] at projected
    exact upsertBlock_frame projected
  | blockCompleted =>
    simp only [type] at projected
    split at projected <;> cases projected <;> rfl
  | toolCall =>
    simp only [type] at projected
    obtain ⟨called, calledOk, built⟩ := bind_ok projected
    cases built
    rw [setActiveState_frame, upsertToolCall_frame calledOk]
    rfl
  | toolCallDelta =>
    simp only [type] at projected
    obtain ⟨called, calledOk, built⟩ := bind_ok projected
    cases built
    rw [setActiveState_frame, upsertToolCall_frame calledOk]
    rfl
  | toolCallCompleted =>
    simp only [type] at projected
    obtain ⟨called, calledOk, built⟩ := bind_ok projected
    cases built
    have kept := upsertToolCall_frame calledOk
    rw [setActiveState_frame]
    split <;> exact kept
  | toolStarted =>
    simp only [type] at projected
    obtain ⟨started, startedOk, built⟩ := bind_ok projected
    cases built
    have kept := upsertTool_frame startedOk
    exact kept
  | toolCompleted =>
    simp only [type] at projected
    obtain ⟨completed, completedOk, built⟩ := bind_ok projected
    cases built
    have kept := upsertTool_frame completedOk
    exact kept
  | activity stage =>
    simp only [type] at projected
    exact applyActivityEvent_frame projected
  | interruptRejected =>
    simp only [type] at projected
    split at projected <;> cases projected <;> rfl
  | streamInterrupted =>
    simp only [type] at projected
    obtain ⟨finished, finishedOk, built⟩ := bind_ok projected
    cases built
    have kept := finishEntities_frame finishedOk
    exact kept
  | streamFailed =>
    simp only [type] at projected
    obtain ⟨finished, finishedOk, built⟩ := bind_ok projected
    cases built
    have kept := finishEntities_frame finishedOk
    exact kept
  | streamOpened | modelRetrying | interruptRequested | streamCompleted | other =>
    simp only [type, Except.ok.injEq] at projected
    subst projected
    rfl

theorem setEntities_frame (kind : EntityKind) (entities : List Fields) :
    (state.setEntities kind entities).frame = state.frame := by
  cases kind <;> rfl

@[simp]
theorem markEventLifecycle_frame (event : StreamEvent) :
    (markEventLifecycle state event).frame = state.frame := by
  unfold markEventLifecycle
  split
  · rfl
  · rfl
  · split
    · rfl
    · exact setEntities_frame _ _

@[simp]
theorem backfill_frame (events : List StreamEvent) :
    (backfillLifecycleMetadata state events).frame = state.frame := by
  induction events generalizing state with
  | nil => rfl
  | cons event events ih =>
    rw [backfillLifecycleMetadata, List.foldl_cons]
    exact ih.trans (markEventLifecycle_frame event)

theorem applyEvent_frame (applied : applyEvent interpreter state event = .ok next) :
    next.frame = state.frame.after event.type := by
  obtain ⟨projected, projectedOk, rfl⟩ := applyEvent_ok applied
  rw [markEventLifecycle_frame, projectEvent_frame projectedOk]

end

section Replay

variable {interpreter : Interpreter} {state middle next : StreamState}

theorem replayEvents_append (first second : List StreamEvent) :
    replayEvents interpreter state (first ++ second) =
      (replayEvents interpreter state first >>= fun middle =>
        replayEvents interpreter middle second) := by
  induction first generalizing state with
  | nil => rfl
  | cons event first ih =>
    rw [List.cons_append, replayEvents, replayEvents]
    cases applied : applyEvent interpreter state event with
    | error error => rfl
    | ok next => exact ih

theorem replayEvents_snoc {events : List StreamEvent} {event : StreamEvent}
    (replayed : replayEvents interpreter state events = .ok middle)
    (applied : applyEvent interpreter middle event = .ok next) :
    replayEvents interpreter state (events ++ [event]) =
      .ok (next.atSequence event.eventSeq) := by
  rw [replayEvents_append, replayed]
  change (applyEvent interpreter middle event >>= fun next =>
    replayEvents interpreter (next.atSequence event.eventSeq) []) = _
  rw [applied]
  rfl

end Replay

section Prepared

variable {config : StoreConfig} {commit : CheckedCommit} {state : StreamState} {moment : Moment}
  {pending : PendingEvent}

/-- What `prepareEvent` has done when it succeeds. -/
structure PreparedFrom (config : StoreConfig) (commit : CheckedCommit) (state : StreamState)
    (moment : Moment) (pending : PendingEvent) (next : StreamState) : Prop where
  event : pending.event = buildEvent commit state moment
  applied : applyEvent config.interpreter state pending.event = .ok next
  validated : commit.type = .streamCompleted →
    validateCompletedState config.interpreter next = .ok ()
  nextState : pending.nextState =
    ({ next with jobId := pending.event.jobId.or next.jobId }).atSequence pending.event.eventSeq
  explicit : pending.explicit = commit.eventId.isSome

theorem prepareEvent_ok (prepared : prepareEvent config commit state moment = .ok pending) :
    ∃ next, PreparedFrom config commit state moment pending next := by
  obtain ⟨next, applied, rest⟩ := bind_ok prepared
  refine ⟨next, ?_⟩
  split at rest
  · obtain ⟨_, validated, built⟩ := bind_ok rest
    cases built
    exact ⟨rfl, applied, fun _ => validated, rfl, rfl⟩
  · rename_i other
    cases rest
    exact ⟨rfl, applied, fun completes => absurd completes other, rfl, rfl⟩

end Prepared

end GraphAgent.MessageStream
