import GraphAgent.TerminalMultiplexer
import Mathlib.Logic.Relation

/-!
# Flushes as runs of deliveries

The retained events are the numbered tail of everything a terminal recorded,
and a flush of one connection is a run of elementary deliveries from it.  What
a delivery can do is said once here; the accounting and the order of frames are
derived from it in later files.
-/

namespace GraphAgent.Terminal

variable {Message : Type*}

structure OutputSound (limits : FlowLimits) (output : TerminalOutput) : Prop where
  sequences : output.recorded.map (·.sequence) =
    List.range' (output.initialSequence + 1) output.recorded.length
  current : output.outputSequence = output.initialSequence + output.recorded.length
  retained : output.outputEvents.toList <:+ output.recorded
  newest : output.recorded ≠ [] → output.outputEvents.toList ≠ []
  window : ∀ event ∈ output.recorded,
    event.byteCount ≤ limits.maxClientUnacknowledgedBytes
  bytes : output.outputEventBytes = (output.outputEvents.toList.map (·.byteCount)).sum

namespace TerminalOutput

theorem evict_suffix (maxReplayBytes : Nat) (live : List OutputEvent)
    (queue : LazyQueue OutputEvent) (bytes : Nat) (isLive : queue.toList = live)
    (total : bytes = (live.map (·.byteCount)).sum) :
    (evict maxReplayBytes live queue bytes).1.toList <:+ live ∧
      (live ≠ [] → (evict maxReplayBytes live queue bytes).1.toList ≠ []) ∧
      (evict maxReplayBytes live queue bytes).2 =
        ((evict maxReplayBytes live queue bytes).1.toList.map (·.byteCount)).sum := by
  induction live generalizing queue bytes with
  | nil => simp [evict, isLive, total]
  | cons removed events ih =>
    cases events with
    | nil => simp [evict, isLive, total]
    | cons next events =>
      rw [evict]
      split
      · have vacated : queue.vacateFront.toList = next :: events := by simp [isLive]
        have remaining : bytes - removed.byteCount =
            ((next :: events).map (·.byteCount)).sum := by
          simp only [List.map_cons, List.sum_cons] at total ⊢
          omega
        obtain ⟨suffix, nonempty, rest⟩ := ih queue.vacateFront _ vacated remaining
        exact ⟨suffix.trans (List.suffix_cons _ _), fun _ => nonempty (by simp), rest⟩
      · simp [isLive, total]

theorem opened_sound (limits : FlowLimits) (sequence : Nat) (buffer : Text) :
    OutputSound limits (opened sequence buffer) where
  sequences := rfl
  current := rfl
  retained := List.suffix_refl _
  newest := by simp [opened]
  window := by simp [opened]
  bytes := rfl

theorem record_sound {limits : FlowLimits} {output : TerminalOutput}
    (sound : OutputSound limits output) (event : OutputEvent)
    (numbered : event.sequence = output.outputSequence + 1)
    (fits : event.byteCount ≤ limits.maxClientUnacknowledgedBytes) :
    OutputSound limits
      (record limits { output with outputSequence := output.outputSequence + 1 } event) := by
  have evicted := evict_suffix limits.maxReplayBytes
    (output.outputEvents.push event).toList (output.outputEvents.push event)
    (output.outputEventBytes + event.byteCount) rfl (by simp [sound.bytes])
  obtain ⟨suffix, nonempty, total⟩ := evicted
  refine
    { sequences := ?_
      current := ?_
      retained := ?_
      newest := ?_
      window := ?_
      bytes := ?_ }
  · have position : event.sequence = output.initialSequence + 1 + output.recorded.length := by
      have := sound.current
      omega
    simp [record, sound.sequences, position, List.range'_concat]
  · simp [record, sound.current]
    omega
  · simp only [record, LazyQueue.toList_ite_compact]
    refine suffix.trans ?_
    obtain ⟨dropped, split⟩ := sound.retained
    refine ⟨dropped, ?_⟩
    rw [LazyQueue.toList_push, ← List.append_assoc, split]
  · intro _
    simp only [record, LazyQueue.toList_ite_compact]
    exact nonempty (by simp)
  · intro other member
    rcases List.mem_append.mp member with earlier | new
    · exact sound.window other earlier
    · rw [List.mem_singleton.mp new]
      exact fits
  · simp only [record, LazyQueue.toList_ite_compact]
    exact total

theorem earliestSequence_eq {limits : FlowLimits} {output : TerminalOutput}
    (sound : OutputSound limits output) :
    output.earliestSequence + output.outputEvents.toList.length =
      output.outputSequence + 1 := by
  obtain ⟨dropped, split⟩ := sound.retained
  have lengthEq := congrArg List.length split
  rw [List.length_append] at lengthEq
  have current := sound.current
  rw [earliestSequence, LazyQueue.head?_eq]
  cases live : output.outputEvents.toList with
  | nil => simp
  | cons first rest =>
    have sequences := sound.sequences
    rw [← split, live] at sequences
    have firstAt := congrArg (fun numbers => numbers[dropped.length]?) sequences
    simp at firstAt
    rw [live] at lengthEq
    simp only [List.length_cons, List.head?_cons] at lengthEq ⊢
    omega

theorem listFrom_eq_drop {limits : FlowLimits} {output : TerminalOutput}
    (sound : OutputSound limits output) {sent : Nat}
    (retained : output.earliestSequence ≤ sent + 1) (opened : output.initialSequence ≤ sent) :
    output.outputEvents.listFrom (sent + 1 - output.earliestSequence) =
      output.recorded.drop (sent - output.initialSequence) := by
  obtain ⟨dropped, split⟩ := sound.retained
  have lengthEq := congrArg List.length split
  rw [List.length_append] at lengthEq
  have earliest := earliestSequence_eq sound
  have current := sound.current
  have position : sent - output.initialSequence =
      dropped.length + (sent + 1 - output.earliestSequence) := by omega
  rw [LazyQueue.listFrom_eq, position, ← split, ← List.drop_drop, List.drop_left]

theorem sequence_of_recorded {limits : FlowLimits} {output : TerminalOutput}
    (sound : OutputSound limits output) {index : Nat} {event : OutputEvent}
    (at_index : output.recorded[index]? = some event) :
    event.sequence = output.initialSequence + 1 + index := by
  have numbers := congrArg (fun numbers => numbers[index]?) sound.sequences
  have inside : index < output.recorded.length := by
    by_contra outside
    rw [List.getElem?_eq_none (by omega)] at at_index
    cases at_index
  simp only [List.getElem?_map, at_index, Option.map_some, List.getElem?_range' inside,
    Option.some.injEq] at numbers
  omega

end TerminalOutput

def Socket.accepted (socket : Socket Message) (frame : Frame Message) : Socket Message :=
  { socket with attempts := socket.attempts + 1, frames := socket.frames ++ [frame] }

def Socket.refused (socket : Socket Message) : Socket Message :=
  { socket with attempts := socket.attempts + 1 }

theorem Socket.send_cases (socket : Socket Message) (frame : Frame Message) :
    socket.send frame = (true, socket.accepted frame) ∨
      socket.send frame = (false, socket.refused) := by
  unfold Socket.send
  split
  · exact .inl rfl
  · exact .inr rfl

/-- One elementary effect of a flush on a connection. -/
inductive FlowStep (limits : FlowLimits) (output : TerminalOutput) :
    ClientFlow Message → ClientFlow Message → Prop
  | refused (flow : ClientFlow Message) :
      FlowStep limits output flow
        ({ flow with socket := flow.socket.refused }).scheduleSocketRetry
  | compacted (flow : ClientFlow Message) :
      FlowStep limits output flow flow.compactControls
  | control (flow : ClientFlow Message) (entry : ControlEntry Message)
      (first : flow.controlQueue.toList.head? = some entry)
      (due : entry.afterSequence ≤ flow.sentSequence) :
      FlowStep limits output flow
        (flow.controlSent entry (flow.socket.accepted (.control entry.message)))
  | output (flow : ClientFlow Message) (event : OutputEvent)
      (next : output.recorded[flow.sentSequence - output.initialSequence]? = some event)
      (window : flow.inFlightEvents.toList = [] ∨
        flow.unacknowledgedBytes + event.byteCount ≤ limits.maxClientUnacknowledgedBytes) :
      FlowStep limits output flow
        (flow.outputSent event
          (flow.socket.accepted (.output event.sequence event.data event.timestamp)))
  | awaitAck (flow : ClientFlow Message) (inFlight : flow.inFlightEvents.toList ≠ []) :
      FlowStep limits output flow { flow with blockedOn := some .ack }
  | resync (flow : ClientFlow Message)
      (evicted : flow.sentSequence + 1 < output.earliestSequence) :
      FlowStep limits output flow
        (flow.resyncSent output.snapshot (flow.socket.accepted (.resync output.snapshot)))
  | caughtUp (flow : ClientFlow Message) (sent : flow.sentSequence = output.outputSequence)
      (drained : flow.controlQueue.toList = []) :
      FlowStep limits output flow { flow with blockedOn := none }

def FlowSteps (limits : FlowLimits) (output : TerminalOutput) :
    ClientFlow Message → ClientFlow Message → Prop :=
  Relation.ReflTransGen (FlowStep limits output)

/-- An unblocked connection has nothing left to receive. -/
def CaughtUp (output : TerminalOutput) (flow : ClientFlow Message) : Prop :=
  flow.blockedOn = none →
    flow.sentSequence = output.outputSequence ∧ flow.controlQueue.toList = []

theorem caughtUp_of_blocked {output : TerminalOutput} {flow : ClientFlow Message}
    {reason : BlockedOn} (blocked : flow.blockedOn = some reason) : CaughtUp output flow := by
  intro unblocked
  rw [blocked] at unblocked
  cases unblocked

structure CursorSound (output : TerminalOutput) (flow : ClientFlow Message) : Prop where
  opened : output.initialSequence ≤ flow.sentSequence
  current : flow.sentSequence ≤ output.outputSequence
  controls : ∀ entry ∈ flow.controlQueue.toList,
    entry.afterSequence ≤ output.outputSequence

namespace ClientFlow

structure ControlPass (limits : FlowLimits) (output : TerminalOutput) (sequence : Nat)
    (flow : ClientFlow Message) (result : ClientFlow Message × Bool) : Prop where
  steps : FlowSteps limits output flow result.1
  sent : result.1.sentSequence = flow.sentSequence
  inFlight : result.1.inFlightEvents = flow.inFlightEvents
  unacknowledged : result.1.unacknowledgedBytes = flow.unacknowledgedBytes
  remaining : result.1.controlQueue.toList <:+ flow.controlQueue.toList
  blocked : result.2 = false → result.1.blockedOn = some .socket
  passed : result.2 = true →
    ∀ entry ∈ result.1.controlQueue.toList.head?, sequence < entry.afterSequence

@[simp]
theorem toList_compactControls (flow : ClientFlow Message) :
    flow.compactControls.controlQueue.toList = flow.controlQueue.toList :=
  LazyQueue.toList_ite_compact _ _

theorem flushControls_pass (limits : FlowLimits) (output : TerminalOutput)
    (entries : List (ControlEntry Message)) (flow : ClientFlow Message)
    (live : flow.controlQueue.toList = entries) :
    ControlPass limits output flow.sentSequence flow
      (flushControls flow.sentSequence entries flow) := by
  induction entries generalizing flow with
  | nil =>
    exact
      { steps := .single (.compacted flow)
        sent := rfl
        inFlight := rfl
        unacknowledged := rfl
        remaining := by simp [flushControls]
        blocked := by simp [flushControls]
        passed := by simp [flushControls, live] }
  | cons entry entries ih =>
    rw [flushControls]
    split
    · rename_i due
      rcases flow.socket.send_cases (.control entry.message) with sent | sent
      · have first : flow.controlQueue.toList.head? = some entry := by simp [live]
        have delivered := ih
          (flow.controlSent entry (flow.socket.accepted (.control entry.message)))
          (by simp [controlSent, live])
        rw [sent]
        exact
          { steps := .head (.control flow entry first due) delivered.steps
            sent := delivered.sent
            inFlight := delivered.inFlight
            unacknowledged := delivered.unacknowledged
            remaining := delivered.remaining.trans (by simp [controlSent, List.tail_suffix])
            blocked := delivered.blocked
            passed := delivered.passed }
      · rw [sent]
        exact
          { steps := .single (.refused flow)
            sent := rfl
            inFlight := rfl
            unacknowledged := rfl
            remaining := List.suffix_refl _
            blocked := fun _ => rfl
            passed := by simp }
    · rename_i notDue
      exact
        { steps := .single (.compacted flow)
          sent := rfl
          inFlight := rfl
          unacknowledged := rfl
          remaining := by simp
          blocked := by simp
          passed := by
            intro _ head isHead
            simp only [toList_compactControls, live, List.head?_cons, Option.mem_def,
              Option.some.injEq] at isHead
            subst isHead
            omega }

theorem flushControlsThrough_pass (limits : FlowLimits) (output : TerminalOutput)
    (flow : ClientFlow Message) {sequence : Nat} (cursor : sequence = flow.sentSequence) :
    ControlPass limits output sequence flow (flow.flushControlsThrough sequence) := by
  subst cursor
  exact flushControls_pass limits output flow.controlQueue.toList flow rfl

theorem drained_of_pass {output : TerminalOutput} {flow next : ClientFlow Message}
    (cursor : CursorSound output flow)
    (remaining : next.controlQueue.toList <:+ flow.controlQueue.toList)
    (passed : ∀ entry ∈ next.controlQueue.toList.head?,
      output.outputSequence < entry.afterSequence) : next.controlQueue.toList = [] := by
  cases live : next.controlQueue.toList with
  | nil => rfl
  | cons entry entries =>
    have later := passed entry (by simp [live])
    have member : entry ∈ flow.controlQueue.toList := remaining.subset (by simp [live])
    have due := cursor.controls entry member
    omega

theorem inFlight_ne_nil {queue : LazyQueue InFlightEvent}
    (occupied : queue.startIndex < queue.slots.length) : queue.toList ≠ [] := by
  intro nothing
  have lengthEq := queue.length_slots
  rw [nothing, List.length_nil] at lengthEq
  omega

theorem inFlight_eq_nil {queue : LazyQueue InFlightEvent}
    (vacant : ¬ queue.startIndex < queue.slots.length) : queue.toList = [] := by
  have lengthEq := queue.length_slots
  exact List.eq_nil_of_length_eq_zero (by omega)

theorem flushOutputs_steps {limits : FlowLimits} {output : TerminalOutput}
    (sound : OutputSound limits output) (events : List OutputEvent)
    (flow : ClientFlow Message) (cursor : CursorSound output flow)
    (remaining : events = output.recorded.drop (flow.sentSequence - output.initialSequence)) :
    FlowSteps limits output flow
        (flushOutputs limits output.outputSequence events flow) ∧
      CaughtUp output (flushOutputs limits output.outputSequence events flow) := by
  have current := sound.current
  induction events generalizing flow with
  | nil =>
    have atEnd : output.outputSequence = flow.sentSequence := by
      have := List.drop_eq_nil_iff.mp remaining.symm
      have := cursor.opened
      have := cursor.current
      omega
    have pass := flushControlsThrough_pass limits output flow atEnd
    rw [flushOutputs]
    rcases result : flow.flushControlsThrough output.outputSequence with ⟨next, _ | _⟩
    · rw [result] at pass
      exact ⟨pass.steps, caughtUp_of_blocked (pass.blocked rfl)⟩
    · rw [result] at pass
      have drained := drained_of_pass cursor pass.remaining (pass.passed rfl)
      have sent : next.sentSequence = output.outputSequence := pass.sent.trans atEnd.symm
      exact ⟨.tail pass.steps (.caughtUp next sent drained), fun _ => ⟨sent, drained⟩⟩
  | cons event events ih =>
    have next : output.recorded[flow.sentSequence - output.initialSequence]? =
        some event := by
      have first := congrArg List.head? remaining
      rw [List.head?_drop] at first
      exact first.symm
    have sequence : event.sequence = flow.sentSequence + 1 := by
      have := TerminalOutput.sequence_of_recorded sound next
      have := cursor.opened
      omega
    have pass := flushControlsThrough_pass limits output flow
      (show event.sequence - 1 = flow.sentSequence by omega)
    rw [flushOutputs]
    rcases result : flow.flushControlsThrough (event.sequence - 1) with ⟨passed, _ | _⟩
    · rw [result] at pass
      exact ⟨pass.steps, caughtUp_of_blocked (pass.blocked rfl)⟩
    · rw [result] at pass
      dsimp only
      split
      · rename_i full
        exact ⟨.tail pass.steps (.awaitAck passed (inFlight_ne_nil full.1)),
          caughtUp_of_blocked rfl⟩
      · rename_i room
        have window : passed.inFlightEvents.toList = [] ∨
            passed.unacknowledgedBytes + event.byteCount ≤
              limits.maxClientUnacknowledgedBytes := by
          by_cases occupied :
              passed.inFlightEvents.startIndex < passed.inFlightEvents.slots.length
          · right
            by_contra overflow
            exact room ⟨occupied, by omega⟩
          · exact .inl (inFlight_eq_nil occupied)
        have nextPassed :
            output.recorded[passed.sentSequence - output.initialSequence]? = some event := by
          rw [pass.sent]
          exact next
        rcases passed.socket.send_cases
            (.output event.sequence event.data event.timestamp) with sent | sent
        · rw [sent]
          have delivered := ih
            (passed.outputSent event
              (passed.socket.accepted (.output event.sequence event.data event.timestamp)))
            { opened := by
                have := cursor.opened
                simp only [outputSent]
                omega
              current := by
                have inside := (List.getElem?_eq_some_iff.mp next).1
                have := cursor.opened
                simp only [outputSent]
                omega
              controls := fun entry member =>
                cursor.controls entry (pass.remaining.subset member) }
            (by
              have rest := congrArg List.tail remaining
              rw [List.tail_cons, List.tail_drop] at rest
              have := cursor.opened
              rw [rest]
              congr 1
              simp only [outputSent]
              omega)
          refine ⟨pass.steps.trans (.head ?_ delivered.1), delivered.2⟩
          exact .output passed event nextPassed window
        · rw [sent]
          exact ⟨.tail pass.steps (.refused passed), caughtUp_of_blocked rfl⟩

theorem flushClientReplay_steps {limits : FlowLimits} {output : TerminalOutput}
    (sound : OutputSound limits output) (flow : ClientFlow Message)
    (cursor : CursorSound output flow) :
    FlowSteps limits output flow (flow.flushClientReplay limits output) ∧
      CaughtUp output (flow.flushClientReplay limits output) := by
  rw [flushClientReplay]
  split
  · rename_i evicted
    rcases flow.socket.send_cases (.resync output.snapshot) with sent | sent
    · rw [sent]
      exact ⟨.single (.resync flow evicted), caughtUp_of_blocked rfl⟩
    · rw [sent]
      exact ⟨.single (.refused flow), caughtUp_of_blocked rfl⟩
  · rename_i retained
    exact flushOutputs_steps sound _ flow cursor
      (TerminalOutput.listFrom_eq_drop sound (by omega) cursor.opened)

end ClientFlow

end GraphAgent.Terminal
