import GraphAgent.StreamSettling
import GraphAgent.StreamIdempotence

/-!
# Histories

A history is a list of events, each applied to the state the one before led to.
From any state of a history the remaining events lead to the last state again,
so a log that starts behind a snapshot rebuilds it.
-/

namespace GraphAgent.MessageStream

open Json

def ValidRecord (event : StreamEvent) : Prop :=
  validateEventIdentityFields event.payload
    (identityNames.map fun name => (name, event.fields.get name)) = .ok ()

theorem checkRecords_ok {expected : StreamIdentity} {previous : Nat} {seen : List String}
    {events : List StreamEvent} (valid : ∀ event ∈ events, ValidRecord event)
    (identity : ∀ event ∈ events, event.identity = expected)
    (sequence : events.map StreamEvent.eventSeq = List.range' (previous + 1) events.length)
    (distinct : (events.map StreamEvent.eventId).Nodup)
    (unseen : ∀ event ∈ events, event.eventId ∉ seen) :
    checkRecords expected previous seen events = .ok () := by
  induction events generalizing previous seen with
  | nil => rfl
  | cons event events ih =>
    rw [List.map_cons, List.length_cons, List.range'_succ, List.cons.injEq] at sequence
    rw [List.map_cons, List.nodup_cons] at distinct
    have same := identity event (List.mem_cons_self ..)
    have checked : validateEventRecord expected event = .ok () := by
      rw [validateEventRecord, valid event (List.mem_cons_self ..)]
      simp [same]
      rfl
    rw [checkRecords, checked]
    change (if event.eventSeq ≠ previous + 1 then _ else _) = _
    rw [if_neg (not_not.mpr sequence.1), if_neg (unseen event (List.mem_cons_self ..))]
    apply ih (fun event member => valid event (List.mem_cons_of_mem _ member))
      (fun event member => identity event (List.mem_cons_of_mem _ member))
    · rw [sequence.1]
      exact sequence.2
    · exact distinct.2
    · intro other member
      rw [List.mem_cons, not_or]
      refine ⟨?_, unseen other (List.mem_cons_of_mem _ member)⟩
      intro same
      exact distinct.1 (same ▸ List.mem_map_of_mem member)

theorem readRecords_ok {identity : StreamIdentity} {events : List StreamEvent} {first : Nat}
    (valid : ∀ event ∈ events, ValidRecord event)
    (same : ∀ event ∈ events, event.identity = identity)
    (sequence : events.map StreamEvent.eventSeq = List.range' first events.length)
    (distinct : (events.map StreamEvent.eventId).Nodup) :
    readRecords identity events = .ok events := by
  cases events with
  | nil => rfl
  | cons event events =>
    rw [List.map_cons, List.length_cons, List.range'_succ, List.cons.injEq] at sequence
    rw [List.map_cons, List.nodup_cons] at distinct
    have ours := same event (List.mem_cons_self ..)
    have checked : validateEventRecord identity event = .ok () := by
      rw [validateEventRecord, valid event (List.mem_cons_self ..)]
      simp [ours]
      rfl
    have rest : checkRecords identity event.eventSeq [event.eventId] events = .ok () := by
      apply checkRecords_ok (fun event member => valid event (List.mem_cons_of_mem _ member))
        (fun event member => same event (List.mem_cons_of_mem _ member))
      · rw [sequence.1]
        exact sequence.2
      · exact distinct.2
      · intro other member
        rw [List.mem_singleton]
        intro equal
        exact distinct.1 (equal ▸ List.mem_map_of_mem member)
    rw [readRecords]
    simp only [ours, checked]
    change (checkRecords identity event.eventSeq [event.eventId] events >>= _) = _
    rw [rest]
    rfl

structure Follows (interpreter : Interpreter) (state : StreamState) (pending : PendingEvent) :
    Prop where
  applied : ∃ next, applyEvent interpreter state pending.event = .ok next ∧
    pending.nextState = next.atSequence pending.event.eventSeq
  sequence : pending.event.eventSeq = state.snapshotSeq + 1
  identity : pending.event.identity = state.identity
  jobId : pending.event.jobId = state.jobId
  valid : ValidRecord pending.event
  closed : state.streamStatus.isTerminal = true → pending.event.type = .interruptRejected

inductive History (interpreter : Interpreter) (start : StreamState) :
    List PendingEvent → StreamState → Prop where
  | start : History interpreter start [] start
  | snoc {committed : List PendingEvent} {state : StreamState} {pending : PendingEvent}
      (earlier : History interpreter start committed state)
      (follows : Follows interpreter state pending)
      (opened : committed = [] → pending.event.type = .streamOpened)
      (kept : ∀ earlier ∈ committed,
        keepsCompletion state earlier.event pending.event = true) :
      History interpreter start (committed ++ [pending]) pending.nextState

namespace History

variable {interpreter : Interpreter} {start state : StreamState} {committed : List PendingEvent}
  {pending : PendingEvent}

theorem Follows.frame (follows : Follows interpreter state pending) :
    pending.nextState.identity = state.identity ∧ pending.nextState.jobId = state.jobId ∧
      pending.nextState.workspaceId = state.workspaceId ∧
      pending.nextState.snapshotSeq = pending.event.eventSeq ∧
      pending.nextState.streamStatus = state.streamStatus.after pending.event.type := by
  obtain ⟨next, applied, nextState⟩ := follows.applied
  have frame := applyEvent_frame applied
  rw [nextState]
  exact ⟨congrArg StreamFrame.identity frame, congrArg StreamFrame.jobId frame,
    congrArg StreamFrame.workspaceId frame, rfl, congrArg StreamFrame.streamStatus frame⟩

theorem last {earlier : List PendingEvent}
    (history : History interpreter start (earlier ++ [pending]) state) :
    state = pending.nextState := by
  generalize whole : earlier ++ [pending] = committed at history
  cases history with
  | start => simp at whole
  | snoc _ _ _ _ =>
    obtain ⟨_, same⟩ := List.append_inj' whole rfl
    rw [List.cons.inj same |>.1]

theorem stays (history : History interpreter start committed state) :
    state.identity = start.identity ∧ state.jobId = start.jobId ∧
      state.workspaceId = start.workspaceId := by
  induction history with
  | start => exact ⟨rfl, rfl, rfl⟩
  | snoc _ follows _ _ ih =>
    obtain ⟨identity, jobId, workspaceId, _⟩ := Follows.frame follows
    exact ⟨identity.trans ih.1, jobId.trans ih.2.1, workspaceId.trans ih.2.2⟩

theorem snapshotSeq (history : History interpreter start committed state)
    (zero : start.snapshotSeq = 0) : state.snapshotSeq = committed.length := by
  induction history with
  | start => exact zero
  | snoc _ follows _ _ ih =>
    rw [(Follows.frame follows).2.2.2.1, follows.sequence, ih, List.length_append]
    rfl

theorem sequences (history : History interpreter start committed state)
    (zero : start.snapshotSeq = 0) :
    committed.map (fun pending => pending.event.eventSeq) = List.range' 1 committed.length := by
  induction history with
  | start => rfl
  | snoc earlier follows _ _ ih =>
    rw [List.map_append, ih, List.length_append, List.length_singleton, List.range'_1_concat,
      List.map_singleton, follows.sequence, earlier.snapshotSeq zero, Nat.add_comm 1]

theorem sequence_of_getElem? (history : History interpreter start committed state)
    (zero : start.snapshotSeq = 0) {index : Nat} (found : committed[index]? = some pending) :
    pending.event.eventSeq = index + 1 := by
  have sequences := congrArg (fun sequences => sequences[index]?) (history.sequences zero)
  obtain ⟨bound, _⟩ := List.getElem?_eq_some_iff.mp found
  simp only [List.getElem?_map, found, Option.map_some] at sequences
  rw [List.getElem?_range' bound] at sequences
  have same := Option.some.inj sequences
  omega

theorem records (history : History interpreter start committed state) :
    ∀ pending ∈ committed, ValidRecord pending.event ∧
      pending.event.identity = start.identity ∧ pending.event.jobId = start.jobId := by
  induction history with
  | start =>
    intro pending member
    cases member
  | snoc earlier follows _ _ ih =>
    intro pending member
    rcases List.mem_append.mp member with before | new
    · exact ih pending before
    · cases List.mem_singleton.mp new
      exact ⟨follows.valid, follows.identity.trans earlier.stays.1,
        follows.jobId.trans earlier.stays.2.1⟩

theorem opened (history : History interpreter start committed state) {first : PendingEvent}
    (head : committed.head? = some first) : first.event.type = .streamOpened := by
  induction history with
  | start => cases head
  | @snoc committed state pending earlier follows opened kept ih =>
    cases committed with
    | nil =>
      cases head
      exact opened rfl
    | cons pending committed => exact ih head

theorem cut (history : History interpreter start committed state) (count : Nat)
    (bound : count ≤ committed.length) :
    ∃ middle, History interpreter start (committed.take count) middle ∧
      replayEvents interpreter middle
        ((committed.drop count).map fun pending => pending.event) = .ok state := by
  induction history with
  | start =>
    rw [List.take_nil, List.drop_nil, List.map_nil]
    exact ⟨start, .start, rfl⟩
  | @snoc committed state pending earlier follows opened kept ih =>
    by_cases whole : count ≤ committed.length
    · obtain ⟨middle, before, replayed⟩ := ih whole
      refine ⟨middle, ?_, ?_⟩
      · rw [List.take_append_of_le_length whole]
        exact before
      · obtain ⟨next, applied, nextState⟩ := follows.applied
        rw [List.drop_append_of_le_length whole, List.map_append, List.map_singleton,
          nextState]
        exact replayEvents_snoc replayed applied
    · have all : count = (committed ++ [pending]).length := by
        rw [List.length_append, List.length_singleton] at bound ⊢
        omega
      refine ⟨pending.nextState, ?_, ?_⟩
      · rw [all, List.take_length]
        exact .snoc earlier follows opened kept
      · rw [all, List.drop_length]
        rfl

theorem terminal (history : History interpreter start committed state)
    (member : pending ∈ committed) (closes : pending.event.type.closesEntities = true) :
    state.streamStatus.isTerminal = true := by
  induction history with
  | start => cases member
  | @snoc committed state last earlier follows _ _ ih =>
    rw [(Follows.frame follows).2.2.2.2]
    rcases List.mem_append.mp member with before | new
    · rw [follows.closed (ih before)]
      exact ih before
    · cases List.mem_singleton.mp new
      cases type : pending.event.type <;>
        simp [type, EventType.closesEntities] at closes <;>
        simp [StreamStatus.after, StreamStatus.isTerminal]

theorem settled (history : History interpreter start committed state)
    (zero : start.snapshotSeq = 0) (member : pending ∈ committed) :
    Settled state pending.event := by
  induction history with
  | start => cases member
  | @snoc committed state last earlier follows _ kept ih =>
    obtain ⟨next, applied, nextState⟩ := follows.applied
    have positive : 0 < last.event.eventSeq := by
      rw [follows.sequence]
      omega
    have same {event : StreamEvent} (settled : Settled next event) :
        Settled last.nextState event := by
      rw [nextState]
      exact settled
    rcases List.mem_append.mp member with before | new
    · obtain ⟨index, found⟩ := List.mem_iff_getElem?.mp before
      have bound : index < committed.length := (List.getElem?_eq_some_iff.mp found).1
      apply same
      refine (ih before).later positive ?_ applied (kept pending before) ?_
      · rw [earlier.sequence_of_getElem? zero found, follows.sequence,
          earlier.snapshotSeq zero]
        omega
      · intro closes
        exact follows.closed (earlier.terminal before closes)
    · cases List.mem_singleton.mp new
      exact same (settled_applyEvent positive applied)

end History

end GraphAgent.MessageStream
