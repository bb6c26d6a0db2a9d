import GraphAgent.TerminalFlushSteps

/-!
# Runs of a terminal

The flows of different clients do not interact, so a property of one flow that
every command keeps holds for all flows of every run.  Between two packets of
the process the buffer is the trimmed tail of everything recorded.
-/

namespace GraphAgent.Terminal

variable {Client Message : Type*}

namespace TerminalOutput

def textThrough (output : TerminalOutput) (sequence : Nat) : Text :=
  output.initialText ++
    (output.recorded.take (sequence - output.initialSequence)).flatMap (·.data)

/-- The log after one more event. -/
def extended (limits : FlowLimits) (output : TerminalOutput) (data : Text)
    (timestamp : String) : TerminalOutput :=
  record limits { output with outputSequence := output.outputSequence + 1 }
    ⟨output.outputSequence + 1, data, timestamp, byteLength data⟩

theorem textThrough_current {limits : FlowLimits} {output : TerminalOutput}
    (sound : OutputSound limits output) :
    output.textThrough output.outputSequence =
      output.initialText ++ output.recorded.flatMap (·.data) := by
  have current := sound.current
  rw [textThrough, List.take_of_length_le (by omega)]

theorem extended_sound {limits : FlowLimits} {output : TerminalOutput}
    (sound : OutputSound limits output) {data : Text} (timestamp : String)
    (fits : byteLength data ≤ limits.maxClientUnacknowledgedBytes) :
    OutputSound limits (output.extended limits data timestamp) :=
  record_sound sound _ rfl fits

/-- The log between two packets. -/
structure AtRest (limits : FlowLimits) (output : TerminalOutput) : Prop where
  sound : OutputSound limits output
  buffer : trimTerminalBuffer limits.maxTerminalBufferBytes output.buffer =
    trimTerminalBuffer limits.maxTerminalBufferBytes
      (output.textThrough output.outputSequence)

theorem opened_atRest (limits : FlowLimits) (sequence : Nat) (buffer : Text) :
    AtRest limits (opened sequence buffer) where
  sound := opened_sound limits sequence buffer
  buffer := by simp [opened, textThrough]

end TerminalOutput

structure FlowClosed (limits : FlowLimits)
    (holds : TerminalOutput → ClientFlow Message → Prop) : Prop where
  registered : ∀ output afterSequence accepts, holds output (.registered afterSequence accepts)
  resumed : ∀ {output flow next}, output.AtRest limits → holds output flow →
    flow.attachedMessageSent = false → flow.resumeAttach limits output = some next →
    holds output next
  acknowledged : ∀ {output flow next sequence}, output.AtRest limits → holds output flow →
    flow.attachedMessageSent = true → flow.acknowledge limits output sequence = some next →
    holds output next
  retried : ∀ {output flow}, output.AtRest limits → holds output flow →
    holds output (flow.retry limits output)
  broadcasted : ∀ {output flow next entry}, output.AtRest limits → holds output flow →
    entry.afterSequence = output.outputSequence →
    flow.afterBroadcast limits output entry = some next → holds output next
  recorded : ∀ {output flow data timestamp}, OutputSound limits output →
    byteLength data ≤ limits.maxClientUnacknowledgedBytes → holds output flow →
    holds (output.extended limits data timestamp)
      (flow.afterRecord limits (output.extended limits data timestamp))
  buffered : ∀ {output flow} buffer, holds output flow →
    holds { output with buffer := buffer } flow

namespace Multiplexer

structure Holds (limits : FlowLimits) (holds : TerminalOutput → ClientFlow Message → Prop)
    (mux : Multiplexer Client Message) : Prop where
  atRest : mux.output.AtRest limits
  flows : ∀ entry ∈ mux.clientFlowStates, holds mux.output entry.2

variable {limits : FlowLimits} {holds : TerminalOutput → ClientFlow Message → Prop}

theorem opened_holds (sequence : Nat) (buffer : Text) :
    Holds limits holds (opened sequence buffer : Multiplexer Client Message) where
  atRest := TerminalOutput.opened_atRest limits sequence buffer
  flows := by simp [opened]

theorem recordChunks_spec (closed : FlowClosed limits holds) (timestamp : String)
    (chunks : List Text)
    (fit : ∀ chunk ∈ chunks, byteLength chunk ≤ limits.maxClientUnacknowledgedBytes)
    (mux : Multiplexer Client Message) (sound : OutputSound limits mux.output)
    (flows : ∀ entry ∈ mux.clientFlowStates, holds mux.output entry.2) :
    OutputSound limits (recordChunks limits timestamp chunks mux).output ∧
      (∀ entry ∈ (recordChunks limits timestamp chunks mux).clientFlowStates,
        holds (recordChunks limits timestamp chunks mux).output entry.2) ∧
      (recordChunks limits timestamp chunks mux).output.buffer = mux.output.buffer ∧
      (recordChunks limits timestamp chunks mux).output.initialText ++
          (recordChunks limits timestamp chunks mux).output.recorded.flatMap (·.data) =
        mux.output.initialText ++ mux.output.recorded.flatMap (·.data) ++ chunks.flatten := by
  induction chunks generalizing mux with
  | nil => exact ⟨sound, flows, rfl, by simp [recordChunks]⟩
  | cons chunk chunks ih =>
    have chunkFits := fit chunk (by simp)
    have extendedSound := TerminalOutput.extended_sound sound timestamp chunkFits
    have recorded : Multiplexer.recordAndBroadcast limits
        { mux with output :=
          { mux.output with outputSequence := mux.output.outputSequence + 1 } }
        (mux.output.outputSequence + 1) chunk timestamp =
        some
          { output := mux.output.extended limits chunk timestamp
            clientFlowStates := mux.clientFlowStates.map fun entry =>
              (entry.1, entry.2.afterRecord limits
                (mux.output.extended limits chunk timestamp)) } := by
      rw [recordAndBroadcast, if_neg (by omega)]
      rfl
    have nextFlows : ∀ entry ∈ mux.clientFlowStates.map (fun entry =>
          (entry.1, entry.2.afterRecord limits (mux.output.extended limits chunk timestamp))),
        holds (mux.output.extended limits chunk timestamp) entry.2 := by
      intro entry member
      obtain ⟨earlier, earlierMember, rfl⟩ := List.mem_map.mp member
      exact closed.recorded sound chunkFits (flows earlier earlierMember)
    rw [recordChunks]
    simp only [recorded]
    obtain ⟨restSound, restFlows, restBuffer, restText⟩ := ih
      (fun part member => fit part (by simp [member]))
      ⟨mux.output.extended limits chunk timestamp, _⟩ extendedSound nextFlows
    refine ⟨restSound, restFlows, restBuffer, ?_⟩
    rw [restText]
    simp [TerminalOutput.extended, TerminalOutput.record]

theorem onData_holds (closed : FlowClosed limits holds) {mux : Multiplexer Client Message}
    (invariant : Holds limits holds mux) (data : Text) (timestamp : String) :
    Holds limits holds (mux.onData limits data timestamp) := by
  have chunksFit : ∀ chunk ∈ splitTerminalOutputChunks limits.maxTerminalOutputEventBytes data,
      byteLength chunk ≤ limits.maxClientUnacknowledgedBytes := by
    intro chunk member
    exact (splitTerminalOutputChunks_bounded limits.character_le_event data chunk member).trans
      limits.event_le_window
  have sound := invariant.atRest.sound
  obtain ⟨nextSound, flows, buffer, text⟩ := recordChunks_spec closed timestamp _ chunksFit
    { mux with output :=
      { mux.output with
        buffer := trimTerminalBuffer limits.maxTerminalBufferBytes (mux.output.buffer ++ data) } }
    { sound with }
    (fun entry member => closed.buffered _ (invariant.flows entry member))
  refine ⟨⟨nextSound, ?_⟩, flows⟩
  rw [onData, TerminalOutput.textThrough_current nextSound, text, buffer,
    splitTerminalOutputChunks_flatten, trimTerminalBuffer_trim]
  refine trimTerminalBuffer_append_congr ?_ data
  rw [invariant.atRest.buffer, TerminalOutput.textThrough_current sound]

variable {messageBytes : Message → Nat}

theorem broadcast_holds (closed : FlowClosed limits holds) {mux : Multiplexer Client Message}
    (invariant : Holds limits holds mux) (message : Message) :
    Holds limits holds (mux.broadcast limits messageBytes message) := by
  refine ⟨invariant.atRest, ?_⟩
  intro entry member
  obtain ⟨earlier, earlierMember, kept⟩ := List.mem_filterMap.mp member
  obtain ⟨next, delivered, rfl⟩ := Option.map_eq_some_iff.mp kept
  exact closed.broadcasted invariant.atRest (invariant.flows earlier earlierMember) rfl delivered

variable [DecidableEq Client]

theorem setFlow_holds {mux : Multiplexer Client Message} (invariant : Holds limits holds mux)
    (client : Client) {flow : ClientFlow Message} (next : holds mux.output flow) :
    Holds limits holds (mux.setFlow client flow) := by
  refine ⟨invariant.atRest, ?_⟩
  intro entry member
  change holds mux.output entry.2
  simp only [setFlow] at member
  split at member
  · obtain ⟨earlier, earlierMember, rfl⟩ := List.mem_map.mp member
    split
    · exact next
    · exact invariant.flows earlier earlierMember
  · rcases List.mem_append.mp member with old | new
    · exact invariant.flows entry old
    · rw [List.mem_singleton.mp new]
      exact next

theorem deleteFlow_holds {mux : Multiplexer Client Message} (invariant : Holds limits holds mux)
    (client : Client) : Holds limits holds (mux.deleteFlow client) :=
  ⟨invariant.atRest, fun entry member => invariant.flows entry (List.mem_of_mem_filter member)⟩

theorem flowOf_holds {mux : Multiplexer Client Message} (invariant : Holds limits holds mux)
    {client : Client} {flow : ClientFlow Message} (found : mux.flowOf client = some flow) :
    holds mux.output flow := by
  obtain ⟨before, after, split, -⟩ := List.lookup_eq_some_iff.mp found
  exact invariant.flows (client, flow) (by simp [split])

theorem step_holds (closed : FlowClosed limits holds) {mux : Multiplexer Client Message}
    (invariant : Holds limits holds mux) (command : Command Client Message)
    (serialised : mux.Serialised command) :
    Holds limits holds (mux.step limits messageBytes command) := by
  cases command with
  | onData data timestamp => exact onData_holds closed invariant data timestamp
  | broadcast message => exact broadcast_holds closed invariant message
  | attach client afterSequence accepts =>
    exact setFlow_holds invariant client (closed.registered _ _ _)
  | attachResume client notified =>
    rw [step]
    cases found : mux.flowOf client with
    | none => exact invariant
    | some flow =>
      have current := flowOf_holds invariant found
      dsimp only
      split
      · exact invariant
      · rename_i waiting
        split
        · cases resumed : flow.resumeAttach limits mux.output with
          | none => exact deleteFlow_holds invariant client
          | some next =>
            exact setFlow_holds invariant client
              (closed.resumed invariant.atRest current (by simpa using waiting) resumed)
        · exact deleteFlow_holds invariant client
  | acknowledge client sequence =>
    rw [step]
    cases found : mux.flowOf client with
    | none => exact invariant
    | some flow =>
      simp only [Option.bind_some]
      cases settled : flow.acknowledge limits mux.output sequence with
      | none => exact invariant
      | some next =>
        have attached : flow.attachedMessageSent = true := by
          simpa [Serialised, found] using serialised
        exact setFlow_holds invariant client
          (closed.acknowledged invariant.atRest (flowOf_holds invariant found)
            attached settled)
  | socketRetry client =>
    rw [step]
    cases found : mux.flowOf client with
    | none => exact invariant
    | some flow =>
      exact setFlow_holds invariant client
        (closed.retried invariant.atRest (flowOf_holds invariant found))
  | detach client => exact deleteFlow_holds invariant client

theorem run_holds (closed : FlowClosed limits holds) {mux : Multiplexer Client Message}
    (invariant : Holds limits holds mux) (commands : List (Command Client Message))
    (serialised : SerialisedRun limits messageBytes mux commands) :
    Holds limits holds (mux.run limits messageBytes commands) := by
  induction commands generalizing mux with
  | nil => exact invariant
  | cons command commands ih =>
    exact ih (step_holds closed invariant command serialised.1) serialised.2

end Multiplexer

end GraphAgent.Terminal
