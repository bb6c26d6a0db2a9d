import GraphAgent.StreamMirror

/-!
# What a run of deliveries leaves in the mirror

As long as no delivery overflows the buffer and none is buffered behind the
terminal event, the mirror stands at the in-order application of its stream and
holds every delivered event that it has not applied.
-/

namespace GraphAgent.StreamMirror

variable {Payload Content : Type}

theorem StreamStatus.isTerminal_after {status : StreamStatus} (still : status.isTerminal = false)
    (type : EventType) : (status.after type).isTerminal = type.isTerminal := by
  cases type with
  | interruptRejected => exact still
  | other name => exact still
  | streamOpened => rfl
  | interruptRequested => rfl
  | streamCompleted => rfl
  | streamInterrupted => rfl
  | streamFailed => rfl

namespace EventStream

variable (stream : EventStream Payload)

theorem statusAt_open {seq : Nat} (openBefore : stream.OpenBefore (seq + 1)) :
    (stream.statusAt seq).isTerminal = false := by
  induction seq with
  | zero => rfl
  | succ seq ih =>
    have before : (stream.statusAt seq).isTerminal = false :=
      ih fun earlier positive less => openBefore earlier positive (by omega)
    rw [statusAt, StreamStatus.isTerminal_after before]
    exact openBefore (seq + 1) (by omega) (by omega)

theorem exists_terminal {seq : Nat} (terminal : (stream.statusAt seq).isTerminal) :
    ∃ first, 0 < first ∧ first ≤ seq ∧ (stream.event first).type.isTerminal := by
  by_contra none
  have openBefore : stream.OpenBefore (seq + 1) := by
    intro earlier positive less
    by_contra event
    exact none ⟨earlier, positive, by omega, by simpa using event⟩
  rw [statusAt_open stream openBefore] at terminal
  exact Bool.false_ne_true terminal

theorem rejected_of_terminal {seq later : Nat} (terminal : (stream.statusAt seq).isTerminal)
    (less : seq < later) : (stream.event later).type = .interruptRejected := by
  obtain ⟨first, positive, reached, event⟩ := stream.exists_terminal terminal
  exact stream.closed first later positive (by omega) event

theorem contentAfter_add (reduce : Content → StreamStatus → MessageStreamEvent Payload → Content)
    (seq : Nat) (content : Content) (count more : Nat) :
    stream.contentAfter reduce (seq + count) (stream.contentAfter reduce seq content count) more =
      stream.contentAfter reduce seq content (count + more) := by
  induction more with
  | zero => rfl
  | succ more ih => rw [contentAfter, ih, ← Nat.add_assoc, contentAfter, Nat.add_assoc seq]

end EventStream

section Standing

variable (stream : EventStream Payload)
  (reduce : Content → StreamStatus → MessageStreamEvent Payload → Content)

structure Standing (base : Nat × Content) (state : MessageStreamState Payload Content) :
    Prop where
  keys : state.keys = stream.keys
  turnStreamId : state.turnStreamId = stream.turnStreamId
  workspaceId : state.workspaceId = none ∨ state.workspaceId = stream.workspaceId
  named : 0 < state.lastEventSeq → state.workspaceId = stream.workspaceId
  reached : base.1 ≤ state.lastEventSeq
  streamStatus : state.streamStatus = stream.statusAt state.lastEventSeq
  content : state.content =
    stream.contentAfter reduce base.1 base.2 (state.lastEventSeq - base.1)

structure Waiting (last : Nat) (events : List (MessageStreamEvent Payload)) : Prop where
  own : ∀ event ∈ events, event = stream.event event.eventSeq
  later : ∀ event ∈ events, last < event.eventSeq
  openBefore : ∀ event ∈ events, stream.OpenBefore event.eventSeq
  ordered : events.Pairwise fun first second => first.eventSeq < second.eventSeq

def Quiet (state : MessageStreamState Payload Content) : Prop :=
  state.connectionStatus = (if state.streamStatus.isTerminal then .terminal else .connected) ∧
    state.protocolError = none

variable {stream reduce} {base : Nat × Content} {state : MessageStreamState Payload Content}

theorem conflicting_self (text : String) : conflicting text text = false := by
  simp [conflicting]

theorem Standing.mismatch_event (standing : Standing stream reduce base state) (seq : Nat) :
    mismatch state (stream.event seq).keys (stream.event seq).workspaceId
      (stream.event seq).turnStreamId = none := by
  have keys : state.keys = (stream.event seq).keys := by rw [standing.keys, stream.ownKeys]
  have turnStreamId : state.turnStreamId = (stream.event seq).turnStreamId := by
    rw [standing.turnStreamId, stream.ownStream]
  have workspace : conflicting (state.workspaceId.getD "")
      ((stream.event seq).workspaceId.getD "") = false := by
    rw [stream.ownWorkspace]
    rcases standing.workspaceId with absent | same
    · simp [absent, conflicting]
    · rw [same, conflicting_self]
  rw [mismatch, if_neg (not_not.mpr keys), workspace, if_neg Bool.false_ne_true,
    if_neg (by simp [turnStreamId])]

theorem Standing.mismatch_snapshot (standing : Standing stream reduce base state) :
    mismatch state stream.keys stream.workspaceId stream.turnStreamId = none := by
  have event := standing.mismatch_event 0
  rwa [stream.ownKeys, stream.ownWorkspace, stream.ownStream] at event

theorem Standing.advance (standing : Standing stream reduce base state) :
    Standing stream reduce base
      (advance reduce state (stream.event (state.lastEventSeq + 1))) := by
  have reached := standing.reached
  refine
    { keys := standing.keys
      turnStreamId := stream.ownStream _
      workspaceId := ?_
      named := ?_
      reached := ?_
      streamStatus := ?_
      content := ?_ }
  · right
    rcases standing.workspaceId with absent | same
    · simp [StreamMirror.advance, absent, stream.ownWorkspace]
    · simp [StreamMirror.advance, same, stream.ownWorkspace]
  · intro _
    rcases standing.workspaceId with absent | same
    · simp [StreamMirror.advance, absent, stream.ownWorkspace]
    · simp [StreamMirror.advance, same, stream.ownWorkspace]
  · simp only [StreamMirror.advance, stream.eventSeq]
    omega
  · simp only [StreamMirror.advance, stream.eventSeq, EventStream.statusAt,
      standing.streamStatus]
  · have count : state.lastEventSeq + 1 - base.1 = state.lastEventSeq - base.1 + 1 := by omega
    have seq : base.1 + (state.lastEventSeq - base.1) = state.lastEventSeq := by omega
    simp only [StreamMirror.advance, stream.eventSeq, count, EventStream.contentAfter, seq,
      ← standing.content, ← standing.streamStatus]

theorem Standing.advance_quiet (standing : Standing stream reduce base state) :
    Quiet (StreamMirror.advance reduce state (stream.event (state.lastEventSeq + 1))) := by
  refine ⟨?_, rfl⟩
  simp only [StreamMirror.advance]
  by_cases terminal : state.streamStatus.isTerminal
  · have rejected := stream.rejected_of_terminal (standing.streamStatus ▸ terminal)
      (Nat.lt_succ_self state.lastEventSeq)
    simp [rejected, StreamStatus.after, terminal]
  · have still : state.streamStatus.isTerminal = false := by simpa using terminal
    simp only [StreamStatus.isTerminal_after still, still, Bool.false_or]

theorem Standing.applyEvent_next (standing : Standing stream reduce base state)
    (drain : MessageStreamState Payload Content → MessageStreamState Payload Content) :
    applyEvent reduce drain state (stream.event (state.lastEventSeq + 1)) =
      drain (StreamMirror.advance reduce state (stream.event (state.lastEventSeq + 1))) := by
  have admitted : ¬(state.streamStatus.isTerminal ∧
      (stream.event (state.lastEventSeq + 1)).type ≠ .interruptRejected) := by
    rintro ⟨terminal, other⟩
    exact other (stream.rejected_of_terminal (standing.streamStatus ▸ terminal)
      (Nat.lt_succ_self _))
  rw [applyEvent, standing.mismatch_event]
  simp only [if_neg admitted, stream.eventSeq]
  rw [if_neg (by omega), if_neg (by omega)]

theorem Waiting.tail {last : Nat} {first : MessageStreamEvent Payload}
    {rest : List (MessageStreamEvent Payload)} (waiting : Waiting stream last (first :: rest)) :
    Waiting stream first.eventSeq rest where
  own event member := waiting.own event (.tail _ member)
  later event member := (List.pairwise_cons.mp waiting.ordered).1 event member
  openBefore event member := waiting.openBefore event (.tail _ member)
  ordered := (List.pairwise_cons.mp waiting.ordered).2

theorem Waiting.sorted {last : Nat} {events : List (MessageStreamEvent Payload)}
    (waiting : Waiting stream last events) : events.insertionSort Earlier = events :=
  (waiting.ordered.imp fun less => Nat.le_of_lt less).insertionSort_eq

theorem Standing.still (standing : Standing stream reduce base state) {seq : Nat}
    (openBefore : stream.OpenBefore seq) (less : state.lastEventSeq < seq) :
    state.streamStatus.isTerminal = false := by
  rw [standing.streamStatus]
  exact stream.statusAt_open fun earlier positive before =>
    openBefore earlier positive (by omega)

theorem Standing.setPending (standing : Standing stream reduce base state)
    (events : List (MessageStreamEvent Payload)) :
    Standing stream reduce base { state with pendingEvents := events } where
  keys := standing.keys
  turnStreamId := standing.turnStreamId
  workspaceId := standing.workspaceId
  named := standing.named
  reached := standing.reached
  streamStatus := standing.streamStatus
  content := standing.content

theorem drainLoop_back
    (apply : MessageStreamState Payload Content → MessageStreamEvent Payload →
      MessageStreamState Payload Content) (waiting : List (MessageStreamEvent Payload))
    (state : MessageStreamState Payload Content)
    (still : waiting ≠ [] → state.streamStatus.isTerminal = false)
    (behind : ∀ event ∈ waiting, state.lastEventSeq + 1 < event.eventSeq) :
    drainLoop apply waiting state =
      { state with pendingEvents := state.pendingEvents ++ waiting } := by
  induction waiting generalizing state with
  | nil => simp [drainLoop]
  | cons first rest ih =>
    have later := behind first List.mem_cons_self
    have back := ih { state with pendingEvents := state.pendingEvents ++ [first] }
      (fun _ => still (List.cons_ne_nil _ _))
      (fun event member => behind event (.tail _ member))
    rw [drainLoop, still (List.cons_ne_nil _ _), if_neg Bool.false_ne_true,
      if_neg (by omega), if_pos (by omega), back]
    simp

variable (stream reduce) in
structure Drained (base : Nat × Content) (start : Nat)
    (events : List (MessageStreamEvent Payload)) (state : MessageStreamState Payload Content) :
    Prop where
  standing : Standing stream reduce base state
  waiting : Waiting stream (state.lastEventSeq + 1) state.pendingEvents
  kept : ∀ event ∈ events, event.eventSeq ≤ state.lastEventSeq ∨ event ∈ state.pendingEvents
  fresh : ∀ event ∈ state.pendingEvents, event ∈ events
  source : state.lastEventSeq = start ∨ ∃ event ∈ events, state.lastEventSeq = event.eventSeq
  forward : start ≤ state.lastEventSeq
  quiet : state.pendingEvents = [] → Quiet state

theorem Standing.drainLoop
    {drain : MessageStreamState Payload Content → MessageStreamState Payload Content}
    (empty : ∀ state, state.pendingEvents = [] → drain state = state)
    {waiting : List (MessageStreamEvent Payload)}
    (standing : Standing stream reduce base state) (none : state.pendingEvents = [])
    (behind : Waiting stream state.lastEventSeq waiting) (quiet : waiting = [] → Quiet state) :
    Drained stream reduce base state.lastEventSeq waiting
      (StreamMirror.drainLoop (applyEvent reduce drain) waiting state) := by
  induction waiting generalizing state with
  | nil =>
    exact
      { standing := standing
        waiting := by
          rw [StreamMirror.drainLoop, none]
          exact ⟨by simp, by simp, by simp, .nil⟩
        kept := by simp
        fresh := by simp [StreamMirror.drainLoop, none]
        source := .inl rfl
        forward := le_rfl
        quiet := fun _ => quiet rfl }
  | cons first rest ih =>
    have later := behind.later first List.mem_cons_self
    have still := standing.still (behind.openBefore first List.mem_cons_self) later
    by_cases next : first.eventSeq = state.lastEventSeq + 1
    · -- The gap closes: the event is applied with nothing to drain behind it.
      have event : first = stream.event (state.lastEventSeq + 1) :=
        next ▸ behind.own first List.mem_cons_self
      have advanced : Standing stream reduce base (StreamMirror.advance reduce state first) := by
        rw [event]
        exact standing.advance
      have quieted : Quiet (StreamMirror.advance reduce state first) := by
        rw [event]
        exact standing.advance_quiet
      have applied : applyEvent reduce drain state first =
          StreamMirror.advance reduce state first := by
        rw [event, standing.applyEvent_next]
        exact empty _ none
      have last : (StreamMirror.advance reduce state first).lastEventSeq = first.eventSeq := rfl
      have drained := ih advanced none behind.tail (fun _ => quieted)
      rw [StreamMirror.drainLoop, still, if_neg Bool.false_ne_true, if_pos next, applied]
      have forward := drained.forward
      rw [last] at forward
      exact
        { standing := drained.standing
          waiting := drained.waiting
          kept := by
            intro other member
            rcases List.mem_cons.mp member with rfl | member
            · exact .inl forward
            · exact drained.kept other member
          fresh := fun other member => .tail _ (drained.fresh other member)
          source := by
            right
            rcases drained.source with same | ⟨other, member, same⟩
            · exact ⟨first, List.mem_cons_self, same.trans last⟩
            · exact ⟨other, .tail _ member, same⟩
          forward := by omega
          quiet := drained.quiet }
    · have gap : ∀ event ∈ first :: rest, state.lastEventSeq + 1 < event.eventSeq := by
        intro event member
        rcases List.mem_cons.mp member with rfl | member
        · omega
        · have := behind.tail.later event member
          omega
      rw [drainLoop_back _ _ _ (fun _ => still) gap, none, List.nil_append]
      exact
        { standing := standing.setPending _
          waiting := ⟨behind.own, gap, behind.openBefore, behind.ordered⟩
          kept := fun event member => .inr member
          fresh := fun event member => member
          source := .inl rfl
          forward := le_rfl
          quiet := fun absent => absurd absent (List.cons_ne_nil _ _) }

variable (reduce) in
theorem drainFuel_empty (fuel : Nat) (state : MessageStreamState Payload Content)
    (none : state.pendingEvents = []) : drainFuel reduce fuel state = state := by
  cases fuel with
  | zero => rfl
  | succ fuel => rw [drainFuel, if_pos none]

theorem Drained.closeGap {start : Nat} {events : List (MessageStreamEvent Payload)}
    (drained : Drained stream reduce base start events state) :
    Drained stream reduce base start events (StreamMirror.closeGap state) := by
  rw [StreamMirror.closeGap]
  split
  next closed =>
    exact
      { standing :=
          { keys := drained.standing.keys
            turnStreamId := drained.standing.turnStreamId
            workspaceId := drained.standing.workspaceId
            named := drained.standing.named
            reached := drained.standing.reached
            streamStatus := drained.standing.streamStatus
            content := drained.standing.content }
        waiting := drained.waiting
        kept := drained.kept
        fresh := drained.fresh
        source := drained.source
        forward := drained.forward
        quiet := fun _ => ⟨rfl, rfl⟩ }
  next => exact drained

theorem Standing.drainPendingEvents (standing : Standing stream reduce base state)
    (behind : Waiting stream state.lastEventSeq state.pendingEvents)
    (quiet : state.pendingEvents = [] → Quiet state) :
    Drained stream reduce base state.lastEventSeq state.pendingEvents
      (StreamMirror.drainPendingEvents reduce state) := by
  have looped := (standing.setPending []).drainLoop
    (drainFuel_empty reduce (state.pendingEvents.length - 1)) rfl behind
  rw [StreamMirror.drainPendingEvents]
  cases pending : state.pendingEvents with
  | nil =>
    have drained := looped fun absent => quiet absent
    rw [pending] at drained
    rw [List.length_nil, drainFuel]
    have same : { state with pendingEvents := [] } = state := by rw [← pending]
    rwa [StreamMirror.drainLoop, same] at drained
  | cons first rest =>
    have filled : state.pendingEvents ≠ [] := pending ▸ List.cons_ne_nil _ _
    have drained := (looped fun absent => absurd absent filled).closeGap
    rw [pending, List.length_cons, Nat.add_sub_cancel] at drained
    rw [List.length_cons, drainFuel, if_neg filled, behind.sorted, pending]
    exact drained

instance : Std.Total (Earlier : MessageStreamEvent Payload → _ → Prop) :=
  ⟨fun first second => Nat.le_total first.eventSeq second.eventSeq⟩

instance : IsTrans (MessageStreamEvent Payload) Earlier :=
  ⟨fun _ _ _ => Nat.le_trans⟩

theorem Waiting.pushPending {last seq : Nat} {events : List (MessageStreamEvent Payload)}
    (waiting : Waiting stream last events) (later : last < seq)
    (openBefore : stream.OpenBefore seq) :
    Waiting stream last (StreamMirror.pushPending events (stream.event seq)) := by
  have members : ∀ event ∈ StreamMirror.pushPending events (stream.event seq),
      event ∈ events ∨ event = stream.event seq := by
    intro event member
    rw [StreamMirror.pushPending, List.mem_insertionSort, List.mem_append,
      List.mem_singleton] at member
    exact member.imp_left List.mem_of_mem_filter
  have distinct : (StreamMirror.pushPending events (stream.event seq)).Pairwise
      fun first second => first.eventSeq ≠ second.eventSeq := by
    refine ((List.perm_insertionSort _ _).pairwise_iff Ne.symm).mpr ?_
    refine List.pairwise_append.mpr ⟨?_, List.pairwise_singleton _ _, ?_⟩
    · exact (waiting.ordered.imp fun less => Nat.ne_of_lt less).filter _
    · intro event member pushed isPushed same
      rw [List.mem_singleton.mp isPushed, stream.eventSeq] at same
      obtain ⟨old, other⟩ := List.mem_filter.mp member
      rw [waiting.own event old, same] at other
      simp at other
  refine ⟨?_, ?_, ?_, ?_⟩
  · intro event member
    rcases members event member with old | rfl
    · exact waiting.own event old
    · rw [stream.eventSeq]
  · intro event member
    rcases members event member with old | rfl
    · exact waiting.later event old
    · rwa [stream.eventSeq]
  · intro event member
    rcases members event member with old | rfl
    · exact waiting.openBefore event old
    · rwa [stream.eventSeq]
  · have sorted := List.pairwise_insertionSort (Earlier : MessageStreamEvent Payload → _ → Prop)
      (events.filter (fun pending => pending.eventId ≠ (stream.event seq).eventId) ++
        [stream.event seq])
    exact (sorted.and distinct).imp fun both => Nat.lt_of_le_of_ne both.1 both.2

theorem Waiting.mem_pushPending {last seq : Nat} {events : List (MessageStreamEvent Payload)}
    (waiting : Waiting stream last events) {event : MessageStreamEvent Payload}
    (member : event ∈ events ∨ event = stream.event seq) :
    event ∈ StreamMirror.pushPending events (stream.event seq) := by
  rw [StreamMirror.pushPending, List.mem_insertionSort, List.mem_append, List.mem_singleton]
  rcases member with old | pushed
  · by_cases same : event.eventId = (stream.event seq).eventId
    · right
      rw [waiting.own event old] at same ⊢
      rw [stream.eventId _ _ same]
    · exact .inl (List.mem_filter.mpr ⟨old, by simpa using same⟩)
  · exact .inr pushed

end Standing

namespace Mirror

variable (stream : EventStream Payload)
  (reduce : Content → StreamStatus → MessageStreamEvent Payload → Content)

/-- What holds of the mirror along a calm run. -/
structure Mirrored (mirror : Mirror Payload Content) : Prop where
  standing : Standing stream reduce mirror.base mirror.state
  waiting : Waiting stream (mirror.state.lastEventSeq + 1) mirror.state.pendingEvents
  kept : ∀ seq ∈ mirror.delivered,
    seq ≤ mirror.state.lastEventSeq ∨ stream.event seq ∈ mirror.state.pendingEvents
  quiet : mirror.state.pendingEvents = [] → 0 < mirror.state.lastEventSeq → Quiet mirror.state

variable {stream reduce} {mirror : Mirror Payload Content}

theorem mirrored_init (content : Content) : Mirrored stream reduce (init stream content) where
  standing :=
    { keys := rfl
      turnStreamId := rfl
      workspaceId := .inl rfl
      named := fun positive => absurd positive (Nat.lt_irrefl 0)
      reached := le_rfl
      streamStatus := rfl
      content := rfl }
  waiting := ⟨by simp [init], by simp [init], by simp [init], .nil⟩
  kept := by simp [init]
  quiet := fun _ positive => absurd positive (Nat.lt_irrefl 0)

theorem Mirrored.event_cases (mirrored : Mirrored stream reduce mirror) {seq : Nat}
    (calm : Calm stream mirror (.event seq)) :
    (seq ≤ mirror.state.lastEventSeq ∧
      applyMessageStreamEvent reduce mirror.state (stream.event seq) = mirror.state) ∨
    (mirror.state.lastEventSeq + 1 < seq ∧ stream.OpenBefore seq ∧
      applyMessageStreamEvent reduce mirror.state (stream.event seq) =
        { mirror.state with
          connectionStatus := .gap
          pendingEvents := pushPending mirror.state.pendingEvents (stream.event seq)
          protocolError := some (.gap (mirror.state.lastEventSeq + 1) seq) }) ∨
    (seq = mirror.state.lastEventSeq + 1 ∧
      Drained stream reduce mirror.base seq mirror.state.pendingEvents
        (applyMessageStreamEvent reduce mirror.state (stream.event seq))) := by
  have standing := mirrored.standing
  rcases Nat.lt_trichotomy seq (mirror.state.lastEventSeq + 1) with applied | rfl | behind
  · left
    refine ⟨by omega, ?_⟩
    rw [applyMessageStreamEvent, applyEvent, standing.mismatch_event]
    simp only [stream.eventSeq]
    split
    next => rfl
    next => rw [if_pos (by omega)]
  · right; right
    refine ⟨rfl, ?_⟩
    have last : (advance reduce mirror.state
        (stream.event (mirror.state.lastEventSeq + 1))).lastEventSeq =
          mirror.state.lastEventSeq + 1 := stream.eventSeq _
    have behind : Waiting stream (advance reduce mirror.state
        (stream.event (mirror.state.lastEventSeq + 1))).lastEventSeq
        mirror.state.pendingEvents := by
      rw [last]
      exact mirrored.waiting
    have drained := standing.advance.drainPendingEvents behind
      (fun _ => standing.advance_quiet)
    rw [last] at drained
    rw [applyMessageStreamEvent, standing.applyEvent_next]
    exact drained
  · right; left
    obtain ⟨room, openBefore⟩ := calm behind
    refine ⟨behind, openBefore, ?_⟩
    have still := standing.still openBefore (by omega)
    rw [applyMessageStreamEvent, applyEvent, standing.mismatch_event]
    simp only [stream.eventSeq, still]
    rw [if_neg (by simp), if_neg (by omega), if_pos (by omega), bufferEvent]
    simp only [if_neg (Nat.not_lt.mpr room), stream.eventSeq]

theorem Mirrored.snapshot_cases (mirrored : Mirrored stream reduce mirror) (seq : Nat)
    (content : Content) :
    (seq < mirror.state.lastEventSeq ∧
      applyMessageStreamSnapshot reduce mirror.state (streamSnapshot stream seq content) =
        mirror.state) ∨
    (mirror.state.lastEventSeq ≤ seq ∧
      Drained stream reduce (seq, content) seq
        (mirror.state.pendingEvents.filter fun pending => seq < pending.eventSeq)
        (applyMessageStreamSnapshot reduce mirror.state
          (streamSnapshot stream seq content))) := by
  have standing := mirrored.standing
  have accepted : mismatch mirror.state (streamSnapshot stream seq content).keys
      (streamSnapshot stream seq content).workspaceId
      (streamSnapshot stream seq content).turnStreamId = none := standing.mismatch_snapshot
  rw [applyMessageStreamSnapshot, accepted]
  by_cases stale : seq < mirror.state.lastEventSeq
  · exact .inl ⟨stale, if_pos stale⟩
  · right
    refine ⟨by omega, ?_⟩
    have named : (applySnapshotState mirror.state (streamSnapshot stream seq content)).workspaceId =
        stream.workspaceId := by
      rcases standing.workspaceId with absent | same
      · simp [applySnapshotState, streamSnapshot, absent]
      · simp [applySnapshotState, streamSnapshot, same]
    have snapshot : Standing stream reduce (seq, content)
        (applySnapshotState mirror.state (streamSnapshot stream seq content)) :=
      { keys := standing.keys
        turnStreamId := rfl
        workspaceId := .inr named
        named := fun _ => named
        reached := le_rfl
        streamStatus := rfl
        content := by simp [applySnapshotState, streamSnapshot, EventStream.contentAfter] }
    have behind : Waiting stream seq
        (mirror.state.pendingEvents.filter fun pending => seq < pending.eventSeq) :=
      { own := fun event member =>
          mirrored.waiting.own event (List.mem_of_mem_filter member)
        later := fun event member => by simpa using (List.mem_filter.mp member).2
        openBefore := fun event member =>
          mirrored.waiting.openBefore event (List.mem_of_mem_filter member)
        ordered := mirrored.waiting.ordered.filter _ }
    have drained := snapshot.drainPendingEvents behind (by
      intro none
      simp only [applySnapshotState, streamSnapshot] at none
      simp [Quiet, applySnapshotState, streamSnapshot, none])
    change Drained _ _ _ _ _ (if seq < mirror.state.lastEventSeq then _ else _)
    rw [if_neg stale]
    exact drained

theorem Mirrored.step (mirrored : Mirrored stream reduce mirror) {delivery : Delivery Content}
    (calm : Calm stream mirror delivery) :
    Mirrored stream reduce (step stream reduce mirror delivery) := by
  cases delivery with
  | event seq =>
    rcases mirrored.event_cases calm with ⟨reached, same⟩ | ⟨behind, openBefore, buffered⟩ |
      ⟨next, drained⟩
    · rw [Mirror.step, same]
      refine ⟨mirrored.standing, mirrored.waiting, ?_, mirrored.quiet⟩
      intro other member
      rcases List.mem_cons.mp member with rfl | member
      · exact .inl reached
      · exact mirrored.kept other member
    · rw [Mirror.step, buffered]
      have old := mirrored.waiting
      refine ⟨?_, old.pushPending behind openBefore, ?_, ?_⟩
      · exact
          { keys := mirrored.standing.keys
            turnStreamId := mirrored.standing.turnStreamId
            workspaceId := mirrored.standing.workspaceId
            named := mirrored.standing.named
            reached := mirrored.standing.reached
            streamStatus := mirrored.standing.streamStatus
            content := mirrored.standing.content }
      · intro other member
        rcases List.mem_cons.mp member with rfl | member
        · exact .inr (old.mem_pushPending (.inr rfl))
        · exact (mirrored.kept other member).imp_right fun kept =>
            old.mem_pushPending (.inl kept)
      · intro none
        have pushed : stream.event seq ∈
            pushPending mirror.state.pendingEvents (stream.event seq) :=
          old.mem_pushPending (.inr rfl)
        exact absurd pushed (List.eq_nil_iff_forall_not_mem.mp none _)
    · refine ⟨drained.standing, drained.waiting, ?_, fun none _ => drained.quiet none⟩
      have forward := drained.forward
      intro other member
      rcases List.mem_cons.mp member with rfl | member
      · exact .inl forward
      · rcases mirrored.kept other member with reached | kept
        · exact .inl (by simp only [Mirror.step]; omega)
        · have stays := drained.kept _ kept
          rwa [stream.eventSeq] at stays
  | snapshot seq content =>
    rcases mirrored.snapshot_cases seq content with ⟨stale, same⟩ | ⟨current, drained⟩
    · rw [Mirror.step, same, if_pos stale]
      exact mirrored
    · rw [Mirror.step, if_neg (by omega)]
      refine ⟨drained.standing, drained.waiting, ?_, fun none _ => drained.quiet none⟩
      have forward := drained.forward
      intro other member
      by_cases reached : other ≤ seq
      · exact .inl (reached.trans forward)
      · rcases mirrored.kept other member with applied | kept
        · exact absurd (applied.trans current) reached
        · have stays := drained.kept _ (List.mem_filter.mpr
            ⟨kept, by simpa [stream.eventSeq] using reached⟩)
          rwa [stream.eventSeq] at stays

theorem Mirrored.run (deliveries : List (Delivery Content))
    (mirrored : Mirrored stream reduce mirror) (calm : CalmRun stream reduce mirror deliveries) :
    Mirrored stream reduce (run stream reduce mirror deliveries) := by
  induction deliveries generalizing mirror with
  | nil => exact mirrored
  | cons delivery rest ih => exact ih (mirrored.step calm.1) calm.2

theorem mem_delivered_run {seq : Nat} (deliveries : List (Delivery Content)) :
    seq ∈ (Mirror.run stream reduce mirror deliveries).delivered ↔
      seq ∈ mirror.delivered ∨ .event seq ∈ deliveries := by
  induction deliveries generalizing mirror with
  | nil => simp [Mirror.run]
  | cons delivery rest ih =>
    change seq ∈ (Mirror.run stream reduce (Mirror.step stream reduce mirror delivery)
      rest).delivered ↔ _
    rw [ih]
    cases delivery with
    | event other => simp [Mirror.step, or_assoc, or_left_comm]
    | snapshot other content => simp [Mirror.step]

variable (stream reduce)

def OfFirst (initial : Content) (count : Nat) : Delivery Content → Prop
  | .event seq => seq ≤ count
  | .snapshot seq content =>
    seq ≤ count ∧ content = stream.contentAfter reduce 0 initial seq

structure Complete (initial : Content) (count : Nat) (deliveries : List (Delivery Content)) :
    Prop where
  positive : 0 < count
  all : ∀ seq, 0 < seq → seq ≤ count → .event seq ∈ deliveries
  only : ∀ delivery ∈ deliveries, OfFirst stream reduce initial count delivery

structure Within (initial : Content) (count : Nat) (mirror : Mirror Payload Content) :
    Prop where
  reached : mirror.state.lastEventSeq ≤ count
  pending : ∀ event ∈ mirror.state.pendingEvents, event.eventSeq ≤ count
  base : mirror.base.2 = stream.contentAfter reduce 0 initial mirror.base.1

def settled (initial : Content) (count : Nat) : MessageStreamState Payload Content where
  keys := stream.keys
  turnStreamId := stream.turnStreamId
  workspaceId := stream.workspaceId
  lastEventSeq := count
  streamStatus := stream.statusAt count
  content := stream.contentAfter reduce 0 initial count
  pendingEvents := []
  connectionStatus := if (stream.statusAt count).isTerminal then .terminal else .connected
  protocolError := none

variable {stream reduce} {initial : Content} {count : Nat}

theorem Within.drained {base : Nat × Content} {start : Nat}
    {events : List (MessageStreamEvent Payload)} {state : MessageStreamState Payload Content}
    (drained : Drained stream reduce base start events state) (reached : start ≤ count)
    (pending : ∀ event ∈ events, event.eventSeq ≤ count)
    (consistent : base.2 = stream.contentAfter reduce 0 initial base.1) (delivered : List Nat) :
    Within stream reduce initial count
      { state := state, base := base, delivered := delivered } where
  reached := by
    rcases drained.source with same | ⟨event, member, same⟩
    · exact same ▸ reached
    · exact same ▸ pending event member
  pending event member := pending event (drained.fresh event member)
  base := consistent

theorem Within.step (within : Within stream reduce initial count mirror)
    (mirrored : Mirrored stream reduce mirror) {delivery : Delivery Content}
    (calm : Calm stream mirror delivery) (first : OfFirst stream reduce initial count delivery) :
    Within stream reduce initial count (step stream reduce mirror delivery) := by
  cases delivery with
  | event seq =>
    rcases mirrored.event_cases calm with ⟨_, same⟩ | ⟨_, _, buffered⟩ | ⟨_, drained⟩
    · rw [Mirror.step, same]
      exact ⟨within.reached, within.pending, within.base⟩
    · rw [Mirror.step, buffered]
      refine ⟨within.reached, ?_, within.base⟩
      intro event member
      simp only [pushPending, List.mem_insertionSort, List.mem_append,
        List.mem_singleton] at member
      rcases member with old | rfl
      · exact within.pending event (List.mem_of_mem_filter old)
      · rw [stream.eventSeq]
        exact first
    · exact Within.drained drained first within.pending within.base _
  | snapshot seq content =>
    rcases mirrored.snapshot_cases seq content with ⟨stale, same⟩ | ⟨current, drained⟩
    · rw [Mirror.step, same, if_pos stale]
      exact within
    · rw [Mirror.step, if_neg (by omega)]
      exact Within.drained drained first.1
        (fun event member => within.pending event (List.mem_of_mem_filter member)) first.2 _

theorem Within.run (deliveries : List (Delivery Content))
    (within : Within stream reduce initial count mirror)
    (mirrored : Mirrored stream reduce mirror) (calm : CalmRun stream reduce mirror deliveries)
    (only : ∀ delivery ∈ deliveries, OfFirst stream reduce initial count delivery) :
    Within stream reduce initial count (run stream reduce mirror deliveries) := by
  induction deliveries generalizing mirror with
  | nil => exact within
  | cons delivery rest ih =>
    exact ih (within.step mirrored calm.1 (only delivery List.mem_cons_self))
      (mirrored.step calm.1) calm.2 fun later member => only later (.tail _ member)

theorem run_complete {deliveries : List (Delivery Content)}
    (calm : CalmRun stream reduce (init stream initial) deliveries)
    (complete : Complete stream reduce initial count deliveries) :
    (run stream reduce (init stream initial) deliveries).state =
      settled stream reduce initial count := by
  have mirrored := (mirrored_init initial).run deliveries calm
  have start : Within stream reduce initial count (init stream initial) :=
    ⟨Nat.zero_le _, by simp [init], rfl⟩
  have within := start.run deliveries (mirrored_init initial) calm complete.only
  have delivered : ∀ seq, 0 < seq → seq ≤ count →
      seq ∈ (run stream reduce (init stream initial) deliveries).delivered :=
    fun seq positive reached =>
      (mem_delivered_run deliveries).mpr (.inr (complete.all seq positive reached))
  generalize run stream reduce (init stream initial) deliveries = mirror at *
  have standing := mirrored.standing
  have last : mirror.state.lastEventSeq = count := by
    by_contra short
    have reached := within.reached
    rcases mirrored.kept _ (delivered (mirror.state.lastEventSeq + 1) (by omega) (by omega)) with
      applied | waits
    · omega
    · have later := mirrored.waiting.later _ waits
      rw [stream.eventSeq] at later
      omega
  have pending : mirror.state.pendingEvents = [] := by
    refine List.eq_nil_iff_forall_not_mem.mpr fun event member => ?_
    have later := mirrored.waiting.later event member
    have bounded := within.pending event member
    omega
  have positive : 0 < mirror.state.lastEventSeq := last ▸ complete.positive
  obtain ⟨connection, error⟩ := mirrored.quiet pending positive
  have content : mirror.state.content = stream.contentAfter reduce 0 initial count := by
    have reached := standing.reached
    have split := stream.contentAfter_add reduce 0 initial mirror.base.1
      (mirror.state.lastEventSeq - mirror.base.1)
    rw [Nat.zero_add, ← within.base] at split
    rw [standing.content, split, ← last]
    congr 1
    omega
  have status := standing.streamStatus
  rw [last] at status
  rw [status] at connection
  have named := standing.named positive
  rcases mirror with ⟨state, base, seen⟩
  rcases state with ⟨keys, turnStreamId, workspaceId, lastEventSeq, streamStatus, held, waits,
    connectionStatus, protocolError⟩
  simp only [settled, MessageStreamState.mk.injEq]
  exact ⟨standing.keys, standing.turnStreamId, named, last, status, content, pending, connection,
    error⟩

/-- In a calm run the mirror is its stream applied in order on top of the last
snapshot, no delivered event is lost without a gap, and complete runs agree. -/
theorem calm_run_mirrors_stream (stream : EventStream Payload)
    (reduce : Content → StreamStatus → MessageStreamEvent Payload → Content) (initial : Content)
    (deliveries : List (Delivery Content))
    (calm : CalmRun stream reduce (init stream initial) deliveries) :
    let mirror := run stream reduce (init stream initial) deliveries
    mirror.base.1 ≤ mirror.state.lastEventSeq ∧
      mirror.state.streamStatus = stream.statusAt mirror.state.lastEventSeq ∧
      mirror.state.content = stream.contentAfter reduce mirror.base.1 mirror.base.2
        (mirror.state.lastEventSeq - mirror.base.1) ∧
      (∀ seq, .event seq ∈ deliveries → mirror.state.lastEventSeq < seq →
        stream.event seq ∈ mirror.state.pendingEvents ∨
          mirror.state.connectionStatus = .gap) ∧
      ∀ count others, CalmRun stream reduce (init stream initial) others →
        Complete stream reduce initial count deliveries →
        Complete stream reduce initial count others →
        mirror.state = (run stream reduce (init stream initial) others).state := by
  intro mirror
  have mirrored : Mirrored stream reduce mirror := (mirrored_init initial).run deliveries calm
  refine ⟨mirrored.standing.reached, mirrored.standing.streamStatus, mirrored.standing.content,
    ?_, ?_⟩
  · intro seq member later
    have delivered : seq ∈ mirror.delivered := (mem_delivered_run deliveries).mpr (.inr member)
    rcases mirrored.kept seq delivered with applied | waits
    · omega
    · exact .inl waits
  · intro count others otherCalm complete otherComplete
    exact (run_complete calm complete).trans (run_complete otherCalm otherComplete).symm

def briefStream (second : EventType) : EventStream Unit where
  keys := ⟨"ses_1", "thr_1", "turn_1"⟩
  turnStreamId := "stream_1"
  workspaceId := some "ws_1"
  event seq :=
    { eventId := String.ofList (List.replicate seq 'e')
      keys := ⟨"ses_1", "thr_1", "turn_1"⟩
      turnStreamId := "stream_1"
      workspaceId := some "ws_1"
      eventSeq := seq
      type := if seq ≤ 1 then .streamOpened else if seq = 2 then second else .interruptRejected
      payload := () }
  eventSeq _ := rfl
  eventId first second same := by
    have lists := String.ofList_injective same
    simpa using congrArg List.length lists
  ownKeys _ := rfl
  ownStream _ := rfl
  ownWorkspace _ := rfl
  closed first later positive less terminal := by
    by_cases opened : first ≤ 1
    · simp [opened, EventType.isTerminal] at terminal
    · rw [if_neg (by omega), if_neg (by omega)]

def countEvents (count : Nat) (_ : StreamStatus) (_ : MessageStreamEvent Unit) : Nat :=
  count + 1

theorem calm_run_mirrors_stream_swapped :
    (run (briefStream .streamCompleted) countEvents (init (briefStream .streamCompleted) 0)
        [.event 2, .event 1]).state =
      (run (briefStream .streamCompleted) countEvents (init (briefStream .streamCompleted) 0)
        [.event 1, .event 2, .event 1]).state := by
  have swapped : CalmRun (briefStream .streamCompleted) countEvents
      (init (briefStream .streamCompleted) 0) [.event 2, .event 1] := by
    refine ⟨fun _ => ⟨by decide +kernel, ?_⟩, fun less => absurd less (by decide +kernel), trivial⟩
    intro earlier positive less
    have first : earlier = 1 := by omega
    rw [first]
    rfl
  have ordered : CalmRun (briefStream .streamCompleted) countEvents
      (init (briefStream .streamCompleted) 0) [.event 1, .event 2, .event 1] :=
    ⟨fun less => absurd less (by decide +kernel), fun less => absurd less (by decide +kernel),
      fun less => absurd less (by decide +kernel), trivial⟩
  refine (calm_run_mirrors_stream _ _ _ _ swapped).2.2.2.2 2 _ ordered ⟨by decide, ?_, ?_⟩
    ⟨by decide, ?_, ?_⟩
  · intro seq positive reached
    have cases : seq = 1 ∨ seq = 2 := by omega
    rcases cases with rfl | rfl <;> simp
  · simp [OfFirst]
  · intro seq positive reached
    have cases : seq = 1 ∨ seq = 2 := by omega
    rcases cases with rfl | rfl <;> simp
  · simp [OfFirst]

/-- A rejected interrupt that is buffered when the stream closes is dropped without a gap. -/
theorem late_rejection_lost :
    let state := (run (briefStream .streamCompleted) countEvents
      (init (briefStream .streamCompleted) 0) [.event 1, .event 3, .event 2]).state
    state.lastEventSeq < 3 ∧ (briefStream .streamCompleted).event 3 ∉ state.pendingEvents ∧
      state.connectionStatus ≠ .gap ∧ state.protocolError = none := by
  decide +kernel

end Mirror

end GraphAgent.StreamMirror
