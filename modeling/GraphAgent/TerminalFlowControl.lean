import GraphAgent.TerminalRuns

/-!
# Flow control of terminal connections

The accounting of a connection (the bytes in flight, the window, the blocking
reasons) is an invariant of every run in which the connections are serialised.
An acknowledgement that arrives while an attach is suspended breaks it.
-/

namespace GraphAgent.Terminal

variable {Message : Type*}

/-- The record that `attach` charges for a snapshot, read off the first frame. -/
def initialSnapshotRecord (flow : ClientFlow Message) : Option InFlightEvent :=
  match flow.socket.frames.head? with
  | some (.attached snapshot .snapshot resume) => some ⟨resume, byteLength snapshot.buffer⟩
  | _ => none

structure FlowAccounting (limits : FlowLimits) (flow : ClientFlow Message) : Prop where
  total : flow.unacknowledgedBytes = (flow.inFlightEvents.toList.map (·.byteCount)).sum
  window : flow.unacknowledgedBytes ≤ limits.maxClientUnacknowledgedBytes ∨
    flow.inFlightEvents.toList.length ≤ 1
  increasing : (flow.inFlightEvents.toList.map (·.sequence)).Pairwise (· < ·)
  unacknowledged : ∀ event ∈ flow.inFlightEvents.toList,
    flow.acknowledgedSequence < event.sequence ∨ initialSnapshotRecord flow = some event
  ackBlocked : flow.blockedOn = some .ack → flow.inFlightEvents.toList ≠ []
  socketBlocked : flow.blockedOn = some .socket → flow.socketRetryTimer = true

structure FlowInvariant (limits : FlowLimits) (output : TerminalOutput)
    (flow : ClientFlow Message) : Prop extends
    FlowAccounting limits flow, CursorSound output flow where
  greeted : flow.socket.frames ≠ []
  acknowledged : flow.acknowledgedSequence ≤ flow.sentSequence
  sent : ∀ event ∈ flow.inFlightEvents.toList, event.sequence ≤ flow.sentSequence

theorem initialSnapshotRecord_accepted {flow : ClientFlow Message} {frame : Frame Message}
    {next : ClientFlow Message} (greeted : flow.socket.frames ≠ [])
    (frames : next.socket.frames = flow.socket.frames ++ [frame]) :
    initialSnapshotRecord next = initialSnapshotRecord flow := by
  rw [initialSnapshotRecord, initialSnapshotRecord, frames, List.head?_append_of_ne_nil _ greeted]

theorem flowInvariant_step {limits : FlowLimits} {output : TerminalOutput}
    (sound : OutputSound limits output) {flow next : ClientFlow Message}
    (invariant : FlowInvariant limits output flow) (step : FlowStep limits output flow next) :
    FlowInvariant limits output next := by
  have greeted := invariant.greeted
  cases step with
  | refused =>
    exact { invariant with
      ackBlocked := by simp [ClientFlow.scheduleSocketRetry]
      socketBlocked := fun _ => rfl }
  | compacted =>
    exact { invariant with
      controls := by simpa using invariant.controls }
  | control entry first due =>
    exact { invariant with
      unacknowledged := by
        intro event member
        rw [initialSnapshotRecord_accepted greeted rfl]
        exact invariant.unacknowledged event member
      controls := by
        intro other member
        refine invariant.controls other ?_
        exact List.mem_of_mem_tail (by simpa [ClientFlow.controlSent] using member)
      greeted := by simp [ClientFlow.controlSent, Socket.accepted] }
  | output event recorded window =>
    have sequence : event.sequence = flow.sentSequence + 1 := by
      have := TerminalOutput.sequence_of_recorded sound recorded
      have := invariant.opened
      omega
    have inside := (List.getElem?_eq_some_iff.mp recorded).1
    have opened := invariant.opened
    have current := sound.current
    exact
      { total := by simp [ClientFlow.outputSent, invariant.total]
        window := by
          rcases window with vacant | room
          · right
            simp [ClientFlow.outputSent, vacant]
          · exact .inl room
        increasing := by
          simp only [ClientFlow.outputSent, LazyQueue.toList_push, List.map_append,
            List.map_cons, List.map_nil]
          rw [List.pairwise_append]
          refine ⟨invariant.increasing, List.pairwise_singleton _ _, ?_⟩
          intro old oldMember new newMember
          obtain ⟨earlier, earlierMember, rfl⟩ := List.mem_map.mp oldMember
          have := invariant.sent earlier earlierMember
          rw [List.mem_singleton.mp newMember]
          omega
        unacknowledged := by
          intro other member
          rw [initialSnapshotRecord_accepted greeted rfl]
          simp only [ClientFlow.outputSent, LazyQueue.toList_push] at member ⊢
          rcases List.mem_append.mp member with earlier | new
          · exact invariant.unacknowledged other earlier
          · left
            have := invariant.acknowledged
            rw [List.mem_singleton.mp new]
            dsimp only
            omega
        ackBlocked := by simp [ClientFlow.outputSent]
        socketBlocked := invariant.socketBlocked
        opened := by
          simp only [ClientFlow.outputSent]
          omega
        current := by
          simp only [ClientFlow.outputSent]
          omega
        controls := invariant.controls
        greeted := by simp [ClientFlow.outputSent, Socket.accepted]
        acknowledged := by
          have := invariant.acknowledged
          simp only [ClientFlow.outputSent]
          omega
        sent := by
          intro other member
          simp only [ClientFlow.outputSent, LazyQueue.toList_push] at member ⊢
          rcases List.mem_append.mp member with earlier | new
          · have := invariant.sent other earlier
            omega
          · rw [List.mem_singleton.mp new] }
  | awaitAck inFlight =>
    exact { invariant with
      ackBlocked := fun _ => inFlight
      socketBlocked := by simp }
  | resync evicted =>
    have earliest := TerminalOutput.earliestSequence_eq sound
    have acknowledged := invariant.acknowledged
    exact
      { total := by simp [ClientFlow.resyncSent]
        window := by simp [ClientFlow.resyncSent]
        increasing := by simp [ClientFlow.resyncSent]
        unacknowledged := by
          intro event member
          left
          simp only [ClientFlow.resyncSent, LazyQueue.toList_singleton,
            List.mem_singleton] at member
          subst member
          simp only [ClientFlow.resyncSent, TerminalOutput.snapshot]
          omega
        ackBlocked := by simp [ClientFlow.resyncSent]
        socketBlocked := by simp [ClientFlow.resyncSent]
        opened := by
          have := sound.current
          simp only [ClientFlow.resyncSent, TerminalOutput.snapshot]
          omega
        current := le_refl _
        controls := invariant.controls
        greeted := by simp [ClientFlow.resyncSent, Socket.accepted]
        acknowledged := by
          simp only [ClientFlow.resyncSent, TerminalOutput.snapshot]
          omega
        sent := by simp [ClientFlow.resyncSent] }
  | caughtUp sent drained =>
    exact { invariant with
      ackBlocked := by simp
      socketBlocked := by simp }

theorem flowInvariant_steps {limits : FlowLimits} {output : TerminalOutput}
    (sound : OutputSound limits output) {flow next : ClientFlow Message}
    (invariant : FlowInvariant limits output flow)
    (steps : FlowSteps limits output flow next) : FlowInvariant limits output next := by
  induction steps with
  | refl => exact invariant
  | tail _ last ih => exact flowInvariant_step sound ih last

namespace ClientFlow

theorem settleInFlight_spec (acknowledged : Nat) (live : List InFlightEvent)
    (queue : LazyQueue InFlightEvent) (bytes : Nat) (isLive : queue.toList = live)
    (increasing : (live.map (·.sequence)).Pairwise (· < ·))
    (total : bytes = (live.map (·.byteCount)).sum) :
    (settleInFlight acknowledged live queue bytes).1.toList <:+ live ∧
      (∀ event ∈ (settleInFlight acknowledged live queue bytes).1.toList,
        acknowledged < event.sequence) ∧
      (settleInFlight acknowledged live queue bytes).2 =
        ((settleInFlight acknowledged live queue bytes).1.toList.map (·.byteCount)).sum := by
  induction live generalizing queue bytes with
  | nil => simp [settleInFlight, isLive, total]
  | cons first events ih =>
    rw [List.map_cons, List.pairwise_cons] at increasing
    rw [settleInFlight]
    split
    · have vacated : queue.vacateFront.toList = events := by simp [isLive]
      have remaining : bytes - first.byteCount = (events.map (·.byteCount)).sum := by
        simp only [List.map_cons, List.sum_cons] at total
        omega
      obtain ⟨suffix, above, rest⟩ := ih queue.vacateFront _ vacated increasing.2 remaining
      exact ⟨suffix.trans (List.suffix_cons _ _), above, rest⟩
    · rename_i above
      refine ⟨by simp [isLive], ?_, by simp [isLive, total]⟩
      intro event member
      rw [isLive] at member
      rcases List.mem_cons.mp member with rfl | later
      · omega
      · have := increasing.1 event.sequence (List.mem_map_of_mem later)
        omega

theorem settle_invariant {limits : FlowLimits} {output : TerminalOutput}
    {flow : ClientFlow Message} (invariant : FlowInvariant limits output flow)
    {sequence : Nat} (sent : sequence ≤ flow.sentSequence) :
    FlowInvariant limits output (flow.settle sequence) := by
  obtain ⟨suffix, above, total⟩ := settleInFlight_spec
    (max flow.acknowledgedSequence sequence) flow.inFlightEvents.toList flow.inFlightEvents
    flow.unacknowledgedBytes rfl invariant.increasing invariant.total
  have remaining : (flow.settle sequence).inFlightEvents.toList <:+
      flow.inFlightEvents.toList := by
    simpa only [settle, LazyQueue.toList_ite_compact] using suffix
  have settledTotal : (flow.settle sequence).unacknowledgedBytes =
      ((flow.settle sequence).inFlightEvents.toList.map (·.byteCount)).sum := by
    simpa only [settle, LazyQueue.toList_ite_compact] using total
  have shrinks : (flow.settle sequence).unacknowledgedBytes ≤ flow.unacknowledgedBytes := by
    obtain ⟨dropped, split⟩ := remaining
    rw [settledTotal, invariant.total, ← split, List.map_append, List.sum_append]
    omega
  exact
    { total := settledTotal
      window := by
        rcases invariant.window with bounded | single
        · exact .inl (shrinks.trans bounded)
        · exact .inr (remaining.length_le.trans single)
      increasing := invariant.increasing.sublist (remaining.sublist.map _)
      unacknowledged := by
        intro event member
        left
        apply above
        simpa only [settle, LazyQueue.toList_ite_compact] using member
      ackBlocked := by simp [settle]
      socketBlocked := by simp [settle]
      opened := invariant.opened
      current := invariant.current
      controls := invariant.controls
      greeted := invariant.greeted
      acknowledged := by
        have := invariant.acknowledged
        simp only [settle]
        omega
      sent := fun event member => invariant.sent event (remaining.subset member) }

/-- A registered connection that waits for `beforeNotify`. -/
structure Pending (output : TerminalOutput) (flow : ClientFlow Message) : Prop where
  notAttached : flow.attachedMessageSent = false
  inFlight : flow.inFlightEvents = .empty
  unacknowledged : flow.unacknowledgedBytes = 0
  unblocked : flow.blockedOn = none
  noTimer : flow.socketRetryTimer = false
  frames : flow.socket.frames = []
  controls : ∀ entry ∈ flow.controlQueue.toList,
    entry.afterSequence ≤ output.outputSequence

theorem replayStart_bounds {limits : FlowLimits} {output : TerminalOutput}
    (sound : OutputSound limits output) {flow : ClientFlow Message} {requested : Nat}
    (start : flow.replayStart output = some requested) :
    output.initialSequence ≤ requested ∧ requested ≤ output.outputSequence := by
  have bounds := (Option.filter_eq_some_iff.mp start).2
  simp only [decide_eq_true_eq] at bounds
  have earliest := TerminalOutput.earliestSequence_eq sound
  have current := sound.current
  have length := sound.retained.length_le
  omega

theorem attachedState_invariant {limits : FlowLimits} {output : TerminalOutput}
    (sound : OutputSound limits output) {flow : ClientFlow Message}
    (pending : Pending output flow) :
    FlowInvariant limits output
      (flow.attachedState output (flow.socket.accepted (flow.attachedFrame output))) := by
  have current := sound.current
  have frames : (flow.socket.accepted (flow.attachedFrame output)).frames =
      [flow.attachedFrame output] := by simp [Socket.accepted, pending.frames]
  cases start : flow.replayStart output with
  | some requested =>
    obtain ⟨opened, bounded⟩ := replayStart_bounds sound start
    simp only [attachedState, start, Option.isNone_some, Bool.false_eq_true, false_and,
      if_false, Option.getD_some]
    exact
      { total := by simp [pending.inFlight, pending.unacknowledged]
        window := by simp [pending.inFlight]
        increasing := by simp [pending.inFlight]
        unacknowledged := by simp [pending.inFlight]
        ackBlocked := by simp [pending.unblocked]
        socketBlocked := by simp [pending.unblocked]
        opened := opened
        current := bounded
        controls := pending.controls
        greeted := by simp [frames]
        acknowledged := le_refl _
        sent := by simp [pending.inFlight] }
  | none =>
    simp only [attachedState, start, Option.isNone_none, Option.getD_none, true_and]
    split
    · exact
        { total := by
            simp [pending.inFlight, LazyQueue.push, LazyQueue.empty, LazyQueue.toList]
          window := by simp [pending.inFlight]
          increasing := by simp [pending.inFlight]
          unacknowledged := by
            intro event member
            right
            simp only [pending.inFlight, LazyQueue.toList_push, LazyQueue.toList_empty,
              List.nil_append, List.mem_singleton] at member
            rw [member]
            simp only [initialSnapshotRecord, frames]
            simp [attachedFrame, start, TerminalOutput.snapshot]
          ackBlocked := by simp
          socketBlocked := by simp
          opened := by
            dsimp only
            omega
          current := le_refl _
          controls := pending.controls
          greeted := by simp [frames]
          acknowledged := le_refl _
          sent := by simp [pending.inFlight] }
    · exact
        { total := by simp [pending.inFlight, pending.unacknowledged]
          window := by simp [pending.inFlight]
          increasing := by simp [pending.inFlight]
          unacknowledged := by simp [pending.inFlight]
          ackBlocked := by simp [pending.unblocked]
          socketBlocked := by simp [pending.unblocked]
          opened := by
            dsimp only
            omega
          current := le_refl _
          controls := pending.controls
          greeted := by simp [frames]
          acknowledged := le_refl _
          sent := by simp [pending.inFlight] }

end ClientFlow

structure FlowSound (limits : FlowLimits) (output : TerminalOutput)
    (flow : ClientFlow Message) : Prop where
  pending : flow.attachedMessageSent = false → flow.Pending output
  attached : flow.attachedMessageSent = true →
    FlowInvariant limits output flow ∧ CaughtUp output flow

theorem attachedMessageSent_steps {limits : FlowLimits} {output : TerminalOutput}
    {flow next : ClientFlow Message} (steps : FlowSteps limits output flow next) :
    next.attachedMessageSent = flow.attachedMessageSent := by
  induction steps with
  | refl => rfl
  | tail _ last ih => cases last <;> exact ih

theorem flowSound_of_attached {limits : FlowLimits} {output : TerminalOutput}
    {flow : ClientFlow Message} (attached : flow.attachedMessageSent = true)
    (invariant : FlowInvariant limits output flow) (caughtUp : CaughtUp output flow) :
    FlowSound limits output flow where
  pending notAttached := by simp [attached] at notAttached
  attached _ := ⟨invariant, caughtUp⟩

theorem flowSound_flush {limits : FlowLimits} {output : TerminalOutput}
    (sound : OutputSound limits output) {flow : ClientFlow Message}
    (attached : flow.attachedMessageSent = true)
    (invariant : FlowInvariant limits output flow) :
    FlowSound limits output (flow.flushClientReplay limits output) := by
  obtain ⟨steps, caughtUp⟩ :=
    ClientFlow.flushClientReplay_steps sound flow invariant.toCursorSound
  exact flowSound_of_attached ((attachedMessageSent_steps steps).trans attached)
    (flowInvariant_steps sound invariant steps) caughtUp

theorem pending_registered (output : TerminalOutput) (afterSequence : Option Int)
    (accepts : Nat → Bool) :
    (ClientFlow.registered afterSequence accepts : ClientFlow Message).Pending output where
  notAttached := rfl
  inFlight := rfl
  unacknowledged := rfl
  unblocked := rfl
  noTimer := rfl
  frames := rfl
  controls := by simp [ClientFlow.registered]

theorem flowSound_registered (limits : FlowLimits) (output : TerminalOutput)
    (afterSequence : Option Int) (accepts : Nat → Bool) :
    FlowSound limits output
      (ClientFlow.registered afterSequence accepts : ClientFlow Message) where
  pending _ := pending_registered output afterSequence accepts
  attached isAttached := by cases isAttached

theorem attachedState_attached (output : TerminalOutput) (flow : ClientFlow Message)
    (socket : Socket Message) :
    (flow.attachedState output socket).attachedMessageSent = true := by
  simp only [ClientFlow.attachedState]
  split <;> rfl

theorem flowSound_resumed {limits : FlowLimits} {output : TerminalOutput}
    (sound : OutputSound limits output) {flow next : ClientFlow Message}
    (pending : flow.Pending output) (resumed : flow.resumeAttach limits output = some next) :
    FlowSound limits output next := by
  have attached := attachedState_attached output flow
    (flow.socket.accepted (flow.attachedFrame output))
  have invariant := ClientFlow.attachedState_invariant sound pending
  rw [ClientFlow.resumeAttach] at resumed
  rcases flow.socket.send_cases (flow.attachedFrame output) with sent | sent
  · rw [sent] at resumed
    simp only at resumed
    split at resumed
    · cases resumed
      exact flowSound_flush sound attached invariant
    · rename_i blocked
      cases resumed
      exact flowSound_of_attached attached invariant fun unblocked => absurd unblocked blocked
  · rw [sent] at resumed
    cases resumed

theorem flowSound_acknowledged {limits : FlowLimits} {output : TerminalOutput}
    (sound : OutputSound limits output) {flow next : ClientFlow Message}
    (flowSound : FlowSound limits output flow) (attached : flow.attachedMessageSent = true)
    {sequence : Int} (acknowledged : flow.acknowledge limits output sequence = some next) :
    FlowSound limits output next := by
  rw [ClientFlow.acknowledge] at acknowledged
  split at acknowledged
  · cases acknowledged
  · rename_i accepted
    cases acknowledged
    have invariant := (flowSound.attached attached).1
    exact flowSound_flush sound attached
      (ClientFlow.settle_invariant invariant (by omega))

theorem flowInvariant_unblock {limits : FlowLimits} {output : TerminalOutput}
    {flow : ClientFlow Message} (invariant : FlowInvariant limits output flow) :
    FlowInvariant limits output { flow with socketRetryTimer := false, blockedOn := none } :=
  { invariant with
    ackBlocked := by simp
    socketBlocked := by simp }

theorem controls_push {output : TerminalOutput} {queue : LazyQueue (ControlEntry Message)}
    (bounded : ∀ other ∈ queue.toList, other.afterSequence ≤ output.outputSequence)
    {entry : ControlEntry Message} (now : entry.afterSequence = output.outputSequence) :
    ∀ other ∈ (queue.push entry).toList, other.afterSequence ≤ output.outputSequence := by
  intro other member
  rw [LazyQueue.toList_push] at member
  rcases List.mem_append.mp member with earlier | new
  · exact bounded other earlier
  · rw [List.mem_singleton.mp new, now]

theorem flowInvariant_enqueue {limits : FlowLimits} {output : TerminalOutput}
    {flow : ClientFlow Message} (invariant : FlowInvariant limits output flow)
    {entry : ControlEntry Message} (now : entry.afterSequence = output.outputSequence) :
    FlowInvariant limits output (flow.enqueueControl entry) :=
  { invariant with controls := controls_push invariant.controls now }

theorem flowSound_enqueue {limits : FlowLimits} {output : TerminalOutput}
    (sound : OutputSound limits output) {flow next : ClientFlow Message}
    (flowSound : FlowSound limits output flow) {entry : ControlEntry Message}
    (now : entry.afterSequence = output.outputSequence)
    (delivered : flow.afterBroadcast limits output entry = some next) :
    FlowSound limits output next := by
  rw [ClientFlow.afterBroadcast] at delivered
  split at delivered
  · cases delivered
  · cases delivered
    rw [ClientFlow.afterRecord]
    cases attached : flow.attachedMessageSent with
    | false =>
      have pending := flowSound.pending attached
      rw [if_neg (by simp [ClientFlow.enqueueControl, attached])]
      exact
        { pending := fun _ =>
            { pending with controls := controls_push pending.controls now }
          attached := by simp [ClientFlow.enqueueControl, attached] }
    | true =>
      have enqueued := flowInvariant_enqueue (flowSound.attached attached).1 now
      split
      · exact flowSound_flush sound attached enqueued
      · rename_i blocked
        exact flowSound_of_attached attached enqueued
          fun unblocked => absurd ⟨attached, unblocked⟩ blocked

theorem flowInvariant_extended {limits : FlowLimits} {output : TerminalOutput}
    {flow : ClientFlow Message} (invariant : FlowInvariant limits output flow) (data : Text)
    (timestamp : String) :
    FlowInvariant limits (output.extended limits data timestamp) flow :=
  { invariant with
    opened := invariant.opened
    current := Nat.le_succ_of_le invariant.current
    controls := fun entry member => Nat.le_succ_of_le (invariant.controls entry member) }

theorem flowSound_recorded {limits : FlowLimits} {output : TerminalOutput}
    (sound : OutputSound limits output) {data : Text} {timestamp : String}
    (fits : byteLength data ≤ limits.maxClientUnacknowledgedBytes)
    {flow : ClientFlow Message} (flowSound : FlowSound limits output flow) :
    FlowSound limits (output.extended limits data timestamp)
      (flow.afterRecord limits (output.extended limits data timestamp)) := by
  have extended := TerminalOutput.extended_sound sound timestamp fits
  rw [ClientFlow.afterRecord]
  cases attached : flow.attachedMessageSent with
  | false =>
    have pending := flowSound.pending attached
    rw [if_neg (by simp)]
    exact
      { pending := fun _ =>
          { pending with
            controls := fun entry member => Nat.le_succ_of_le (pending.controls entry member) }
        attached := by simp [attached] }
  | true =>
    have invariant := flowInvariant_extended (flowSound.attached attached).1 data timestamp
    split
    · exact flowSound_flush extended attached invariant
    · rename_i blocked
      exact flowSound_of_attached attached invariant
        fun unblocked => absurd ⟨rfl, unblocked⟩ blocked

theorem flowSound_closed (limits : FlowLimits) :
    FlowClosed limits (FlowSound limits : TerminalOutput → ClientFlow Message → Prop) where
  registered := flowSound_registered limits
  resumed atRest flowSound waiting := flowSound_resumed atRest.sound (flowSound.pending waiting)
  acknowledged atRest flowSound attached :=
    flowSound_acknowledged atRest.sound flowSound attached
  retried := by
    intro output flow atRest flowSound
    rw [ClientFlow.retry]
    split
    · rename_i timer
      have attached : flow.attachedMessageSent = true := by
        by_contra waiting
        have noTimer := (flowSound.pending (by simpa using waiting)).noTimer
        simp [timer] at noTimer
      exact flowSound_flush atRest.sound attached
        (flowInvariant_unblock (flowSound.attached attached).1)
    · exact flowSound
  broadcasted atRest flowSound now := flowSound_enqueue atRest.sound flowSound now
  recorded sound fits flowSound := flowSound_recorded sound fits flowSound
  buffered _ flowSound :=
    { pending := fun notAttached => { flowSound.pending notAttached with }
      attached := fun isAttached =>
        ⟨{ (flowSound.attached isAttached).1 with }, (flowSound.attached isAttached).2⟩ }

/-- In every state of a serialised run each attached client is accounted for:
the bytes in flight, the window, the order of the records, and no client is
blocked without something that will resume it. -/
theorem terminal_flowControl {Client : Type*} [DecidableEq Client] (limits : FlowLimits)
    (messageBytes : Message → Nat) (sequence : Nat) (buffer : Text)
    (commands : List (Command Client Message))
    (serialised : Multiplexer.SerialisedRun limits messageBytes
      (.opened sequence buffer) commands) :
    let mux := Multiplexer.run limits messageBytes (.opened sequence buffer) commands
    ∀ entry ∈ mux.clientFlowStates, entry.2.attachedMessageSent = true →
      FlowAccounting limits entry.2 ∧ CaughtUp mux.output entry.2 := by
  intro mux entry member attached
  have invariant := Multiplexer.run_holds (flowSound_closed limits)
    (Multiplexer.opened_holds sequence buffer) commands serialised
  obtain ⟨flowInvariant, caughtUp⟩ := (invariant.flows entry member).attached attached
  exact ⟨flowInvariant.toFlowAccounting, caughtUp⟩

def replayCommands : List (Command Nat String) :=
  [.onData "ab".toList "t1", .onData "cd".toList "t2",
    .attach 1 (some 0) (fun attempt => attempt ≠ 2), .broadcast "resized",
    .attachResume 1 true, .acknowledge 1 1, .socketRetry 1]

theorem terminal_flowControl_replayCommands :
    let mux := Multiplexer.run terminalLimits String.length (.opened 0 []) replayCommands
    ∀ entry ∈ mux.clientFlowStates, entry.2.attachedMessageSent = true →
      FlowAccounting terminalLimits entry.2 ∧ CaughtUp mux.output entry.2 :=
  terminal_flowControl terminalLimits String.length 0 [] replayCommands
    ⟨trivial, trivial, rfl, trivial, trivial, rfl, trivial, trivial⟩

def earlyAckCommands : List (Command Nat String) :=
  [.onData "ab".toList "t1", .attach 1 (some 5) (fun _ => true), .acknowledge 1 0,
    .attachResume 1 true]

/-- Without the discipline the early record stays in flight beside the snapshot
record, and the byte count covers only one of them. -/
theorem terminal_flowControl_earlyAckCommands :
    ¬ ∀ entry ∈ (Multiplexer.run terminalLimits String.length (.opened 0 [])
        earlyAckCommands).clientFlowStates,
      entry.2.attachedMessageSent = true → FlowAccounting terminalLimits entry.2 := by
  intro claimed
  have wrong : (Multiplexer.run terminalLimits String.length (.opened 0 [])
      earlyAckCommands).clientFlowStates.any (fun entry =>
        entry.2.attachedMessageSent &&
          decide (entry.2.unacknowledgedBytes ≠
            (entry.2.inFlightEvents.toList.map (·.byteCount)).sum)) = true := by
    decide +kernel
  obtain ⟨entry, member, broken⟩ := List.any_eq_true.mp wrong
  simp only [Bool.and_eq_true, decide_eq_true_eq] at broken
  exact broken.2 (claimed entry member broken.1).total

end GraphAgent.Terminal
