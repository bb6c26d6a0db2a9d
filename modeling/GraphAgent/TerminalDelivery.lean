import GraphAgent.TerminalFlowControl

/-!
# Delivery of terminal output

A client replays the frames of its connection into a text.  After every
serialised run the frames of each attached client replay without a gap to the
text the terminal had at the client's cursor, and the controls arrive in
broadcast order, none before the output it follows.
-/

namespace GraphAgent.Terminal

variable {Message : Type*}

structure Reception (Message : Type*) where
  position : Nat
  content : Text
  controls : List (Nat × Message)

/-- One frame after the attached frame; `none` is a gap, a repetition or a
second attached frame. -/
def Reception.receive (reception : Reception Message) :
    Frame Message → Option (Reception Message)
  | .output sequence data _ =>
    if sequence = reception.position + 1 then
      some { reception with position := sequence, content := reception.content ++ data }
    else
      none
  | .resync snapshot =>
    some { reception with position := snapshot.sequence, content := snapshot.buffer }
  | .control message =>
    some { reception with controls := reception.controls ++ [(reception.position, message)] }
  | .attached _ _ _ => none

/-- Replay a connection from its attached frame.  An incremental attach continues
the text `held` by the client. -/
def replay (held : Text) : List (Frame Message) → Option (Reception Message)
  | .attached snapshot mode resume :: frames =>
    let content := match mode with
      | .incremental => held
      | .snapshot => snapshot.buffer
    frames.foldlM Reception.receive ⟨resume, content, []⟩
  | _ => none

theorem replay_append (held : Text) {frames : List (Frame Message)} (greeted : frames ≠ [])
    (frame : Frame Message) :
    replay held (frames ++ [frame]) = (replay held frames).bind (·.receive frame) := by
  cases frames with
  | nil => exact absurd rfl greeted
  | cons first frames =>
    cases first with
    | attached snapshot mode resume =>
      simp only [List.cons_append, replay, List.foldlM_append, Option.bind_eq_bind]
      congr 1
      funext reception
      simp
    | output sequence data timestamp => rfl
    | resync snapshot => rfl
    | control message => rfl

def Due (received : Nat × Message) (entry : ControlEntry Message) : Prop :=
  received.2 = entry.message ∧ entry.afterSequence ≤ received.1

/-- A reception agrees with the log at the cursor of its connection. -/
structure Faithful (limits : FlowLimits) (output : TerminalOutput) (flow : ClientFlow Message)
    (reception : Reception Message) : Prop where
  position : reception.position = flow.sentSequence
  content : trimTerminalBuffer limits.maxTerminalBufferBytes reception.content =
    trimTerminalBuffer limits.maxTerminalBufferBytes (output.textThrough flow.sentSequence)
  controls : ∃ delivered, flow.broadcasts = delivered ++ flow.controlQueue.toList ∧
    List.Forall₂ Due reception.controls delivered

def HoldsResumed (limits : FlowLimits) (output : TerminalOutput) (flow : ClientFlow Message)
    (held : Text) : Prop :=
  ∀ snapshot resume, flow.socket.frames.head? = some (.attached snapshot .incremental resume) →
    trimTerminalBuffer limits.maxTerminalBufferBytes held =
      trimTerminalBuffer limits.maxTerminalBufferBytes (output.textThrough resume)

structure DeliveryInvariant (limits : FlowLimits) (output : TerminalOutput)
    (flow : ClientFlow Message) : Prop where
  resumed : ∀ snapshot mode resume,
    flow.socket.frames.head? = some (.attached snapshot mode resume) →
    resume ≤ output.outputSequence
  received : ∀ held, HoldsResumed limits output flow held →
    ∃ reception, replay held flow.socket.frames = some reception ∧
      Faithful limits output flow reception

namespace TerminalOutput

theorem textThrough_succ {limits : FlowLimits} {output : TerminalOutput}
    (sound : OutputSound limits output) {sent : Nat} {event : OutputEvent}
    (next : output.recorded[sent - output.initialSequence]? = some event) :
    output.textThrough event.sequence = output.textThrough sent ++ event.data := by
  have sequence := sequence_of_recorded sound next
  have taken : event.sequence - output.initialSequence =
      sent - output.initialSequence + 1 := by omega
  rw [textThrough, taken, List.take_add_one, next]
  simp [textThrough]

theorem textThrough_extended {limits : FlowLimits} {output : TerminalOutput}
    (sound : OutputSound limits output) (data : Text) (timestamp : String) {sequence : Nat}
    (past : sequence ≤ output.outputSequence) :
    (output.extended limits data timestamp).textThrough sequence =
      output.textThrough sequence := by
  have current := sound.current
  simp only [textThrough, extended, record]
  rw [List.take_append_of_le_length (by omega)]

end TerminalOutput

def SnapshotCurrent (limits : FlowLimits) (output : TerminalOutput) : Prop :=
  trimTerminalBuffer limits.maxTerminalBufferBytes output.buffer =
    trimTerminalBuffer limits.maxTerminalBufferBytes (output.textThrough output.outputSequence)

theorem deliveryInvariant_congr {limits : FlowLimits} {output : TerminalOutput}
    {flow next : ClientFlow Message} (invariant : DeliveryInvariant limits output flow)
    (frames : next.socket.frames = flow.socket.frames)
    (sent : next.sentSequence = flow.sentSequence)
    (broadcasts : next.broadcasts = flow.broadcasts)
    (queue : next.controlQueue.toList = flow.controlQueue.toList) :
    DeliveryInvariant limits output next := by
  refine ⟨by rw [frames]; exact invariant.resumed, ?_⟩
  intro held holds
  obtain ⟨reception, replayed, faithful⟩ := invariant.received held (by
    intro snapshot resume first
    exact holds snapshot resume (by rw [frames, first]))
  refine ⟨reception, by rw [frames, replayed], ?_⟩
  exact
    { position := by rw [sent, faithful.position]
      content := by rw [sent, faithful.content]
      controls := by
        rw [broadcasts, queue]
        exact faithful.controls }

theorem deliveryInvariant_frame {limits : FlowLimits} {output : TerminalOutput}
    {flow next : ClientFlow Message} (invariant : DeliveryInvariant limits output flow)
    (greeted : flow.socket.frames ≠ []) {frame : Frame Message}
    (frames : next.socket.frames = flow.socket.frames ++ [frame])
    (extends' : ∀ reception, Faithful limits output flow reception →
      ∃ after, reception.receive frame = some after ∧ Faithful limits output next after) :
    DeliveryInvariant limits output next := by
  have sameHead : next.socket.frames.head? = flow.socket.frames.head? := by
    rw [frames, List.head?_append_of_ne_nil _ greeted]
  refine ⟨by rw [sameHead]; exact invariant.resumed, ?_⟩
  intro held holds
  obtain ⟨reception, replayed, faithful⟩ := invariant.received held (by
    intro snapshot resume first
    exact holds snapshot resume (sameHead.trans first))
  obtain ⟨after, received, nextFaithful⟩ := extends' reception faithful
  refine ⟨after, ?_, nextFaithful⟩
  rw [frames, replay_append held greeted, replayed]
  exact received

theorem deliveryInvariant_step {limits : FlowLimits} {output : TerminalOutput}
    (sound : OutputSound limits output) {flow next : ClientFlow Message}
    (accounts : FlowInvariant limits output flow)
    (snapshot : SnapshotCurrent limits output ∨
      output.earliestSequence ≤ flow.sentSequence + 1)
    (invariant : DeliveryInvariant limits output flow)
    (step : FlowStep limits output flow next) : DeliveryInvariant limits output next := by
  have greeted := accounts.greeted
  cases step with
  | refused => exact deliveryInvariant_congr invariant rfl rfl rfl rfl
  | compacted =>
    exact deliveryInvariant_congr invariant rfl rfl rfl (ClientFlow.toList_compactControls flow)
  | control entry first due =>
    refine deliveryInvariant_frame invariant greeted rfl ?_
    intro reception faithful
    refine ⟨_, rfl, ⟨faithful.position, faithful.content, ?_⟩⟩
    obtain ⟨delivered, broadcasts, paired⟩ := faithful.controls
    obtain ⟨entries, live⟩ : ∃ entries, flow.controlQueue.toList = entry :: entries :=
      List.head?_eq_some_iff.mp first
    refine ⟨delivered ++ [entry], ?_, ?_⟩
    · simp [ClientFlow.controlSent, broadcasts, live]
    · refine List.rel_append paired (.cons ⟨rfl, ?_⟩ .nil)
      rw [faithful.position]
      exact due
  | output event recorded window =>
    have sequence : event.sequence = flow.sentSequence + 1 := by
      have := TerminalOutput.sequence_of_recorded sound recorded
      have := accounts.opened
      omega
    refine deliveryInvariant_frame invariant greeted rfl ?_
    intro reception faithful
    refine ⟨_, if_pos (by rw [faithful.position, sequence]), ⟨rfl, ?_, faithful.controls⟩⟩
    simp only [ClientFlow.outputSent]
    rw [TerminalOutput.textThrough_succ sound recorded]
    exact trimTerminalBuffer_append_congr faithful.content event.data
  | awaitAck inFlight => exact deliveryInvariant_congr invariant rfl rfl rfl rfl
  | resync evicted =>
    have current : SnapshotCurrent limits output := by
      rcases snapshot with current | retained
      · exact current
      · omega
    refine deliveryInvariant_frame invariant greeted rfl ?_
    intro reception faithful
    exact ⟨_, rfl, ⟨rfl, current, faithful.controls⟩⟩
  | caughtUp sent drained => exact deliveryInvariant_congr invariant rfl rfl rfl rfl

theorem retained_step {limits : FlowLimits} {output : TerminalOutput}
    (sound : OutputSound limits output) {flow next : ClientFlow Message}
    (accounts : FlowInvariant limits output flow)
    (retained : output.earliestSequence ≤ flow.sentSequence + 1)
    (step : FlowStep limits output flow next) :
    output.earliestSequence ≤ next.sentSequence + 1 := by
  cases step with
  | refused => exact retained
  | compacted => exact retained
  | control => exact retained
  | output event recorded window =>
    have := TerminalOutput.sequence_of_recorded sound recorded
    have := accounts.opened
    simp only [ClientFlow.outputSent]
    omega
  | awaitAck => exact retained
  | resync evicted => omega
  | caughtUp => exact retained

theorem deliveryInvariant_steps {limits : FlowLimits} {output : TerminalOutput}
    (sound : OutputSound limits output) {flow next : ClientFlow Message}
    (accounts : FlowInvariant limits output flow)
    (snapshot : SnapshotCurrent limits output ∨
      output.earliestSequence ≤ flow.sentSequence + 1)
    (invariant : DeliveryInvariant limits output flow)
    (steps : FlowSteps limits output flow next) : DeliveryInvariant limits output next := by
  have carried : DeliveryInvariant limits output next ∧
      (SnapshotCurrent limits output ∨ output.earliestSequence ≤ next.sentSequence + 1) := by
    induction steps with
    | refl => exact ⟨invariant, snapshot⟩
    | tail earlier last ih =>
      have before := flowInvariant_steps sound accounts earlier
      refine ⟨deliveryInvariant_step sound before ih.2 ih.1 last, ?_⟩
      exact ih.2.imp id fun retained => retained_step sound before retained last
  exact carried.1

structure FlowDelivered (limits : FlowLimits) (output : TerminalOutput)
    (flow : ClientFlow Message) : Prop extends FlowSound limits output flow where
  queued : flow.attachedMessageSent = false → flow.broadcasts = flow.controlQueue.toList
  delivered : flow.attachedMessageSent = true → DeliveryInvariant limits output flow

theorem flowDelivered_of_attached {limits : FlowLimits} {output : TerminalOutput}
    {flow : ClientFlow Message} (sound : FlowSound limits output flow)
    (attached : flow.attachedMessageSent = true)
    (invariant : DeliveryInvariant limits output flow) : FlowDelivered limits output flow :=
  { sound with
    queued := by simp [attached]
    delivered := fun _ => invariant }

theorem flowDelivered_flush {limits : FlowLimits} {output : TerminalOutput}
    (sound : OutputSound limits output) {flow : ClientFlow Message}
    (attached : flow.attachedMessageSent = true)
    (accounts : FlowInvariant limits output flow)
    (snapshot : SnapshotCurrent limits output ∨
      output.earliestSequence ≤ flow.sentSequence + 1)
    (invariant : DeliveryInvariant limits output flow) :
    FlowDelivered limits output (flow.flushClientReplay limits output) := by
  obtain ⟨steps, -⟩ := ClientFlow.flushClientReplay_steps sound flow accounts.toCursorSound
  exact flowDelivered_of_attached (flowSound_flush sound attached accounts)
    ((attachedMessageSent_steps steps).trans attached)
    (deliveryInvariant_steps sound accounts snapshot invariant steps)

theorem deliveryInvariant_attached {limits : FlowLimits} {output : TerminalOutput}
    {flow : ClientFlow Message} (queued : flow.broadcasts = flow.controlQueue.toList)
    {snapshot : Snapshot} {mode : ReplayMode}
    (frames : flow.socket.frames = [.attached snapshot mode flow.sentSequence])
    (current : flow.sentSequence ≤ output.outputSequence)
    (content : mode = .snapshot →
      trimTerminalBuffer limits.maxTerminalBufferBytes snapshot.buffer =
        trimTerminalBuffer limits.maxTerminalBufferBytes
          (output.textThrough flow.sentSequence)) :
    DeliveryInvariant limits output flow := by
  refine ⟨?_, ?_⟩
  · intro _ _ resume first
    rw [frames] at first
    cases first
    exact current
  · intro held holds
    cases mode with
    | incremental =>
      refine ⟨⟨flow.sentSequence, held, []⟩, by rw [frames]; rfl, ?_⟩
      exact
        { position := rfl
          content := holds snapshot flow.sentSequence (by rw [frames]; rfl)
          controls := ⟨[], by simpa using queued, .nil⟩ }
    | snapshot =>
      refine ⟨⟨flow.sentSequence, snapshot.buffer, []⟩, by rw [frames]; rfl, ?_⟩
      exact
        { position := rfl
          content := content rfl
          controls := ⟨[], by simpa using queued, .nil⟩ }

theorem attachedState_delivered {limits : FlowLimits} {output : TerminalOutput}
    (atRest : output.AtRest limits) {flow : ClientFlow Message} (pending : flow.Pending output)
    (queued : flow.broadcasts = flow.controlQueue.toList) :
    DeliveryInvariant limits output
      (flow.attachedState output (flow.socket.accepted (flow.attachedFrame output))) := by
  cases start : flow.replayStart output with
  | some requested =>
    have frames : (flow.socket.accepted (flow.attachedFrame output)).frames =
        [.attached { output.snapshot with buffer := [] } .incremental requested] := by
      simp [Socket.accepted, pending.frames, ClientFlow.attachedFrame, start]
    have bounds := ClientFlow.replayStart_bounds atRest.sound start
    simp only [ClientFlow.attachedState, start, Option.isNone_some, Bool.false_eq_true,
      false_and, if_false, Option.getD_some]
    exact deliveryInvariant_attached queued frames bounds.2 (by simp)
  | none =>
    have frames : (flow.socket.accepted (flow.attachedFrame output)).frames =
        [.attached output.snapshot .snapshot output.outputSequence] := by
      simp [Socket.accepted, pending.frames, ClientFlow.attachedFrame, start]
    simp only [ClientFlow.attachedState, start, Option.isNone_none, Option.getD_none, true_and]
    split
    · exact deliveryInvariant_attached queued frames (le_refl _) fun _ => atRest.buffer
    · exact deliveryInvariant_attached queued frames (le_refl _) fun _ => atRest.buffer

theorem deliveryInvariant_extended {limits : FlowLimits} {output : TerminalOutput}
    (sound : OutputSound limits output) {flow : ClientFlow Message}
    (cursor : CursorSound output flow) (invariant : DeliveryInvariant limits output flow)
    (data : Text) (timestamp : String) :
    DeliveryInvariant limits (output.extended limits data timestamp) flow := by
  refine ⟨?_, ?_⟩
  · intro snapshot mode resume first
    exact Nat.le_succ_of_le (invariant.resumed snapshot mode resume first)
  · intro held holds
    obtain ⟨reception, replayed, faithful⟩ := invariant.received held (by
      intro snapshot resume first
      have past := invariant.resumed snapshot .incremental resume first
      rw [← TerminalOutput.textThrough_extended sound data timestamp past]
      exact holds snapshot resume first)
    refine ⟨reception, replayed, ⟨faithful.position, ?_, faithful.controls⟩⟩
    rw [TerminalOutput.textThrough_extended sound data timestamp cursor.current]
    exact faithful.content

theorem flowDelivered_resumed {limits : FlowLimits} {output : TerminalOutput}
    (atRest : output.AtRest limits) {flow next : ClientFlow Message}
    (flowDelivered : FlowDelivered limits output flow)
    (waiting : flow.attachedMessageSent = false)
    (resumed : flow.resumeAttach limits output = some next) :
    FlowDelivered limits output next := by
  have pending := flowDelivered.pending waiting
  have attached := attachedState_attached output flow
    (flow.socket.accepted (flow.attachedFrame output))
  have accounts := ClientFlow.attachedState_invariant atRest.sound pending
  have delivery := attachedState_delivered atRest pending (flowDelivered.queued waiting)
  rw [ClientFlow.resumeAttach] at resumed
  rcases flow.socket.send_cases (flow.attachedFrame output) with sent | sent
  · rw [sent] at resumed
    simp only at resumed
    split at resumed
    · cases resumed
      exact flowDelivered_flush atRest.sound attached accounts (.inl atRest.buffer) delivery
    · rename_i blocked
      cases resumed
      exact flowDelivered_of_attached
        (flowSound_of_attached attached accounts fun unblocked => absurd unblocked blocked)
        attached delivery
  · rw [sent] at resumed
    cases resumed

theorem flowDelivered_acknowledged {limits : FlowLimits} {output : TerminalOutput}
    (atRest : output.AtRest limits) {flow next : ClientFlow Message}
    (flowDelivered : FlowDelivered limits output flow)
    (attached : flow.attachedMessageSent = true) {sequence : Int}
    (acknowledged : flow.acknowledge limits output sequence = some next) :
    FlowDelivered limits output next := by
  rw [ClientFlow.acknowledge] at acknowledged
  split at acknowledged
  · cases acknowledged
  · rename_i accepted
    cases acknowledged
    have accounts := ClientFlow.settle_invariant (flowDelivered.attached attached).1
      (show sequence.toNat ≤ flow.sentSequence by omega)
    exact flowDelivered_flush atRest.sound attached accounts (.inl atRest.buffer)
      (deliveryInvariant_congr (flowDelivered.delivered attached) rfl rfl rfl rfl)

theorem flowDelivered_retried {limits : FlowLimits} {output : TerminalOutput}
    (atRest : output.AtRest limits) {flow : ClientFlow Message}
    (flowDelivered : FlowDelivered limits output flow) :
    FlowDelivered limits output (flow.retry limits output) := by
  rw [ClientFlow.retry]
  split
  · rename_i timer
    have attached : flow.attachedMessageSent = true := by
      by_contra waiting
      have noTimer := (flowDelivered.pending (by simpa using waiting)).noTimer
      simp [timer] at noTimer
    exact flowDelivered_flush atRest.sound attached
      (flowInvariant_unblock (flowDelivered.attached attached).1) (.inl atRest.buffer)
      (deliveryInvariant_congr (flowDelivered.delivered attached) rfl rfl rfl rfl)
  · exact flowDelivered

theorem deliveryInvariant_enqueue {limits : FlowLimits} {output : TerminalOutput}
    {flow : ClientFlow Message} (invariant : DeliveryInvariant limits output flow)
    (entry : ControlEntry Message) :
    DeliveryInvariant limits output (flow.enqueueControl entry) := by
  refine ⟨invariant.resumed, ?_⟩
  intro held holds
  obtain ⟨reception, replayed, faithful⟩ := invariant.received held holds
  refine ⟨reception, replayed, ⟨faithful.position, faithful.content, ?_⟩⟩
  obtain ⟨delivered, broadcasts, paired⟩ := faithful.controls
  exact ⟨delivered, by simp [ClientFlow.enqueueControl, broadcasts], paired⟩

theorem flowDelivered_enqueue {limits : FlowLimits} {output : TerminalOutput}
    (atRest : output.AtRest limits) {flow next : ClientFlow Message}
    (flowDelivered : FlowDelivered limits output flow) {entry : ControlEntry Message}
    (now : entry.afterSequence = output.outputSequence)
    (broadcasted : flow.afterBroadcast limits output entry = some next) :
    FlowDelivered limits output next := by
  have sound := flowSound_enqueue atRest.sound flowDelivered.toFlowSound now broadcasted
  rw [ClientFlow.afterBroadcast] at broadcasted
  split at broadcasted
  · cases broadcasted
  · cases broadcasted
    rw [ClientFlow.afterRecord] at sound ⊢
    cases attached : flow.attachedMessageSent with
    | false =>
      have queued := flowDelivered.queued attached
      rw [if_neg (by simp [ClientFlow.enqueueControl, attached])] at sound ⊢
      exact
        { sound with
          queued := fun _ => by simp [ClientFlow.enqueueControl, queued]
          delivered := by simp [ClientFlow.enqueueControl, attached] }
    | true =>
      have delivery := deliveryInvariant_enqueue (flowDelivered.delivered attached) entry
      split
      · rename_i unblocked
        rw [if_pos unblocked] at sound
        obtain ⟨steps, -⟩ := ClientFlow.flushClientReplay_steps atRest.sound
          (flow.enqueueControl entry)
          (flowInvariant_enqueue (flowDelivered.attached attached).1 now).toCursorSound
        exact flowDelivered_of_attached sound ((attachedMessageSent_steps steps).trans attached)
          (deliveryInvariant_steps atRest.sound
            (flowInvariant_enqueue (flowDelivered.attached attached).1 now)
            (.inl atRest.buffer) delivery steps)
      · rename_i blocked
        rw [if_neg blocked] at sound
        exact flowDelivered_of_attached sound attached delivery

theorem flowDelivered_recorded {limits : FlowLimits} {output : TerminalOutput}
    (sound : OutputSound limits output) {data : Text} {timestamp : String}
    (fits : byteLength data ≤ limits.maxClientUnacknowledgedBytes)
    {flow : ClientFlow Message} (flowDelivered : FlowDelivered limits output flow) :
    FlowDelivered limits (output.extended limits data timestamp)
      (flow.afterRecord limits (output.extended limits data timestamp)) := by
  have extended := TerminalOutput.extended_sound sound timestamp fits
  have nextSound : FlowSound limits (output.extended limits data timestamp)
      (flow.afterRecord limits (output.extended limits data timestamp)) :=
    flowSound_recorded sound fits flowDelivered.toFlowSound
  rw [ClientFlow.afterRecord] at nextSound ⊢
  cases attached : flow.attachedMessageSent with
  | false =>
    rw [if_neg (by simp [attached])] at nextSound
    rw [if_neg (by simp)]
    exact
      { nextSound with
        queued := fun _ => flowDelivered.queued attached
        delivered := by simp [attached] }
  | true =>
    obtain ⟨accounts, caughtUp⟩ := flowDelivered.attached attached
    have delivery := deliveryInvariant_extended sound accounts.toCursorSound
      (flowDelivered.delivered attached) data timestamp
    split
    · rename_i unblocked
      -- An unblocked client had everything before this event, so it is not resynced.
      have retained :
          (output.extended limits data timestamp).earliestSequence ≤
            flow.sentSequence + 1 := by
        have sent := (caughtUp unblocked.2).1
        have earliest := TerminalOutput.earliestSequence_eq extended
        have newest := extended.newest (by
          simp [TerminalOutput.extended, TerminalOutput.record])
        have := List.length_pos_iff.mpr newest
        simp only [TerminalOutput.extended, TerminalOutput.record] at earliest this ⊢
        omega
      exact flowDelivered_flush extended attached
        (flowInvariant_extended accounts data timestamp) (.inr retained) delivery
    · rename_i blocked
      rw [if_neg (by simpa [attached] using blocked)] at nextSound
      exact flowDelivered_of_attached nextSound attached delivery

theorem flowDelivered_closed (limits : FlowLimits) :
    FlowClosed limits (FlowDelivered limits : TerminalOutput → ClientFlow Message → Prop) where
  registered output afterSequence accepts :=
    { flowSound_registered limits output afterSequence accepts with
      queued := fun _ => rfl
      delivered := fun isAttached => by cases isAttached }
  resumed atRest flowDelivered waiting := flowDelivered_resumed atRest flowDelivered waiting
  acknowledged atRest flowDelivered attached :=
    flowDelivered_acknowledged atRest flowDelivered attached
  retried atRest flowDelivered := flowDelivered_retried atRest flowDelivered
  broadcasted atRest flowDelivered now := flowDelivered_enqueue atRest flowDelivered now
  recorded sound fits flowDelivered := flowDelivered_recorded sound fits flowDelivered
  buffered := by
    intro output flow buffer flowDelivered
    have sound := (flowSound_closed limits).buffered buffer flowDelivered.toFlowSound
    refine { sound with queued := flowDelivered.queued, delivered := ?_ }
    intro attached
    obtain ⟨resumed, received⟩ := flowDelivered.delivered attached
    refine ⟨resumed, fun held holds => ?_⟩
    obtain ⟨reception, replayed, faithful⟩ := received held holds
    exact ⟨reception, replayed, { faithful with }⟩

/-- In every state of a serialised run a client has no frame before its attached
frame, and the frames of an attached client replay without a gap: the cursor is
the sent sequence, the text is that of the terminal at the cursor (its buffer
when the client is caught up), and the controls are those broadcast so far, in
order and none ahead of its output, except the ones still queued. -/
theorem terminal_delivery {Client : Type*} [DecidableEq Client] (limits : FlowLimits)
    (messageBytes : Message → Nat) (sequence : Nat) (buffer : Text)
    (commands : List (Command Client Message))
    (serialised : Multiplexer.SerialisedRun limits messageBytes
      (.opened sequence buffer) commands) :
    let mux := Multiplexer.run limits messageBytes (.opened sequence buffer) commands
    ∀ entry ∈ mux.clientFlowStates,
      (entry.2.attachedMessageSent = false → entry.2.socket.frames = []) ∧
      (entry.2.attachedMessageSent = true → ∀ held, HoldsResumed limits mux.output entry.2 held →
        ∃ reception, replay held entry.2.socket.frames = some reception ∧
          Faithful limits mux.output entry.2 reception ∧
          (entry.2.blockedOn = none →
            trimTerminalBuffer limits.maxTerminalBufferBytes reception.content =
              trimTerminalBuffer limits.maxTerminalBufferBytes mux.output.buffer)) := by
  intro mux entry member
  have invariant := Multiplexer.run_holds (flowDelivered_closed limits)
    (Multiplexer.opened_holds sequence buffer) commands serialised
  have flow := invariant.flows entry member
  refine ⟨fun waiting => (flow.pending waiting).frames, ?_⟩
  intro attached held holds
  obtain ⟨reception, replayed, faithful⟩ := (flow.delivered attached).received held holds
  refine ⟨reception, replayed, faithful, ?_⟩
  intro unblocked
  rw [faithful.content, ((flow.attached attached).2 unblocked).1]
  exact invariant.atRest.buffer.symm

/-- A client resumes after the first event, is refused once and catches up. -/
def deliveryCommands : List (Command Nat String) :=
  [.onData "ab".toList "t1", .onData "cd".toList "t2",
    .attach 1 (some 1) (fun attempt => attempt ≠ 1), .broadcast "resized",
    .attachResume 1 true, .onData "ef".toList "t3", .socketRetry 1]

theorem terminal_delivery_deliveryCommands :
    let mux := Multiplexer.run terminalLimits String.length (.opened 0 []) deliveryCommands
    ∀ entry ∈ mux.clientFlowStates,
      (entry.2.attachedMessageSent = false → entry.2.socket.frames = []) ∧
      (entry.2.attachedMessageSent = true →
        ∀ held, HoldsResumed terminalLimits mux.output entry.2 held →
        ∃ reception, replay held entry.2.socket.frames = some reception ∧
          Faithful terminalLimits mux.output entry.2 reception ∧
          (entry.2.blockedOn = none →
            trimTerminalBuffer terminalLimits.maxTerminalBufferBytes reception.content =
              trimTerminalBuffer terminalLimits.maxTerminalBufferBytes mux.output.buffer)) :=
  terminal_delivery terminalLimits String.length 0 [] deliveryCommands
    ⟨trivial, trivial, rfl, trivial, trivial, trivial, trivial, trivial⟩

/-- An acknowledgement while the attach waits for `beforeNotify` flushes the
retained output before the attached frame. -/
theorem terminal_delivery_earlyAck :
    ¬ ∀ entry ∈ (Multiplexer.run terminalLimits String.length (.opened 0 [])
        [.onData "ab".toList "t1", .attach 1 (some 0) (fun _ => true),
          .acknowledge 1 0]).clientFlowStates,
      entry.2.attachedMessageSent = false → entry.2.socket.frames = [] := by
  intro claimed
  have wrong : (Multiplexer.run terminalLimits String.length (.opened 0 [])
      [.onData "ab".toList "t1", .attach (1 : Nat) (some 0) (fun _ => true),
        .acknowledge 1 0]).clientFlowStates.any (fun entry =>
          !entry.2.attachedMessageSent && !entry.2.socket.frames.isEmpty) = true := by
    decide +kernel
  obtain ⟨entry, member, broken⟩ := List.any_eq_true.mp wrong
  simp only [Bool.and_eq_true, Bool.not_eq_true', List.isEmpty_eq_false_iff] at broken
  exact broken.2 (claimed entry member broken.1)

end GraphAgent.Terminal
