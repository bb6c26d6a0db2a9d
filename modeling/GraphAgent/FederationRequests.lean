import GraphAgent.FederationSettlement

/-!
# Requests over a federation channel

Every request of a run ends once, in one of the ways it may, and leaves the
table when it does.  The responses of a run leave the channel and the other
requests alone exactly when none of them comes after its own request has left.
-/

namespace GraphAgent.Federation

namespace FederationChannel

variable {Value : Type} {details : ErrorDetails Value} {channel next : FederationChannel Value}
  {correlationId method : String}

def EndedKept (channel next : FederationChannel Value) : Prop :=
  ∀ call ∈ channel.calls, ∀ outcome, call.stage = .ended outcome →
    ∃ after ∈ next.calls, after.correlationId = call.correlationId ∧ after.stage = .ended outcome

namespace EndedKept

theorem refl (channel : FederationChannel Value) : EndedKept channel channel :=
  fun call member _ ended => ⟨call, member, rfl, ended⟩

theorem trans {first second third : FederationChannel Value} (start : EndedKept first second)
    (later : EndedKept second third) : EndedKept first third := by
  intro call member outcome ended
  obtain ⟨middle, middleMember, middleKey, middleEnded⟩ := start call member outcome ended
  obtain ⟨last, lastMember, lastKey, lastEnded⟩ :=
    later middle middleMember outcome middleEnded
  exact ⟨last, lastMember, lastKey.trans middleKey, lastEnded⟩

theorem of_update {change : FederationCall Value → FederationCall Value}
    (keeps : ∀ call : FederationCall Value, (change call).correlationId = call.correlationId)
    (stays : ∀ call ∈ channel.calls, call.correlationId = correlationId →
      ∀ outcome, call.stage = .ended outcome → (change call).stage = .ended outcome) :
    EndedKept channel (channel.updateCall correlationId change) := by
  intro call member outcome ended
  by_cases same : call.correlationId = correlationId
  · exact ⟨change call, updateCall_self member same, keeps call,
      stays call member same outcome ended⟩
  · exact ⟨call, updateCall_other member same, rfl, ended⟩

theorem failClosed (channel : FederationChannel Value) (error : FederationError Value) :
    EndedKept channel (channel.failClosed error) := by
  by_cases isOpen : channel.closedReason = none
  · rw [failClosed_open isOpen]
    intro call member outcome ended
    refine ⟨_, List.mem_map.mpr ⟨call, member, rfl⟩, ?_, ?_⟩
    · split <;> rfl
    · split <;> exact ended
  · rw [failClosed_closed isOpen]
    exact refl channel

theorem respond (sound : Sound details channel) (correlationId : String)
    (answer : Answer Value) : EndedKept channel (channel.respond details correlationId answer) := by
  have noted : EndedKept channel (channel.noteAnswer correlationId answer) := by
    refine of_update ?_ ?_
    · intro call
      rfl
    · intro call _ _ outcome ended
      exact ended
  by_cases owing : ∃ call, channel.call correlationId = some call ∧ call.owed = true
  · obtain ⟨call, found, owed⟩ := owing
    rcases respond_cases sound answer found owed with
      ⟨-, responds⟩ | ⟨-, responds⟩ | ⟨-, responds⟩
    · rw [responds]
      exact noted
    · rw [responds]
      refine noted.trans (of_update ?_ ?_)
      · intro call
        rfl
      · intro call _ _ outcome ended
        exact ended
    · rw [responds]
      exact noted.trans (failClosed _ _)
  · rw [respond_unowed]
    · exact refl channel
    · intro call found
      rw [← Bool.not_eq_true]
      exact fun owed => owing ⟨call, found, owed⟩

theorem resume (sound : Sound details channel) (correlationId : String) (keepsResult : Bool) :
    EndedKept channel (channel.resume details correlationId keepsResult) := by
  unfold FederationChannel.resume
  split
  · exact refl channel
  rename_i outcome found
  obtain ⟨call, callFound, outcomeFound⟩ := Option.bind_eq_some_iff.mp found
  obtain ⟨callMember, callKey⟩ := call_mem callFound
  refine of_update ?_ ?_
  · intro other
    rfl
  · intro other member same ending ended
    have sameCall := KeyedRows.eq_of_key_eq sound.correlations member callMember
      (same.trans callKey.symm)
    rw [← sameCall, FederationCall.outcome, ended] at outcomeFound
    cases outcomeFound

theorem step (sound : Sound details channel) (command : ChannelCommand Value) :
    EndedKept channel (channel.step details command) := by
  cases command with
  | request correlationId method =>
    change EndedKept channel (if _ then _ else _)
    split
    · unfold FederationChannel.request
      split
      · exact fun call member _ ended => ⟨call, List.mem_append_left _ member, rfl, ended⟩
      · exact fun call member _ ended => ⟨call, List.mem_append_left _ member, rfl, ended⟩
    · exact refl channel
  | deliver correlationId =>
    refine of_update ?_ ?_
    · intro call
      unfold FederationCall.deliver
      split <;> rfl
    · intro call _ _ outcome ended
      unfold FederationCall.deliver
      split <;> exact ended
  | sent correlationId =>
    refine of_update ?_ ?_
    · intro call
      unfold FederationCall.sent
      split <;> rfl
    · intro call _ _ outcome ended
      simp [FederationCall.sent, ended, CallStage.isSending]
  | respond correlationId answer => exact respond sound correlationId answer
  | timeout correlationId =>
    refine of_update ?_ ?_
    · intro call
      unfold FederationCall.timeout
      split <;> simp
    · intro call _ _ outcome ended
      simp [FederationCall.timeout, ended, CallStage.isWaiting]
  | cancel correlationId =>
    refine of_update ?_ ?_
    · intro call
      unfold FederationCall.cancel
      split <;> simp
    · intro call _ _ outcome ended
      unfold FederationCall.cancel
      rw [ended]
      exact ended
  | resume correlationId keepsResult => exact resume sound correlationId keepsResult
  | fail error => exact failClosed channel error

theorem run (sound : Sound details channel) (commands : List (ChannelCommand Value)) :
    EndedKept channel (channel.run details commands) := by
  induction commands generalizing channel with
  | nil => exact refl channel
  | cons command commands ih => exact (step sound command).trans (ih (sound.step command))

end EndedKept

theorem interruption_isSome {call : FederationCall Value}
    (interrupted : call.timedOut = true ∨ call.cancelRequested = true) :
    (call.interruption details).isSome = true := by
  unfold FederationCall.interruption
  cases cancelled : call.cancelRequested with
  | true => simp
  | false =>
    rw [cancelled] at interrupted
    simp [interrupted.resolve_right nofun]

theorem outcome_of_woken {call : FederationCall Value} (sound : CallSound details
    channel.closedReason call) (waiting : call.stage = .waiting)
    (woken : call.future.isDone = true ∨ call.timedOut = true ∨ call.cancelRequested = true)
    (keepsResult : Bool) : ∃ outcome, call.outcome details keepsResult = some outcome := by
  have some_of_either : (call.interruption details).isSome ∨ call.settlement.isSome := by
    cases future : call.future with
    | result value => exact .inr (by rw [FederationCall.settlement, future]; rfl)
    | exception error => exact .inr (by rw [FederationCall.settlement, future]; rfl)
    | pending =>
      left
      rw [future] at woken
      exact interruption_isSome (woken.resolve_left nofun)
    | cancelled => exact .inl (interruption_isSome (sound.cancelled future).2)
  refine Option.isSome_iff_exists.mp ?_
  unfold FederationCall.outcome
  rw [waiting]
  dsimp only
  split
  · rw [Option.isSome_or]
    rcases some_of_either with interrupted | settled <;> simp_all
  · rw [Option.isSome_or]
    rcases some_of_either with interrupted | settled <;> simp_all

theorem resume_ends {call : FederationCall Value} (found : channel.call correlationId = some call)
    {keepsResult : Bool} {outcome : Outcome Value}
    (ends : call.outcome details keepsResult = some outcome) :
    (channel.resume details correlationId keepsResult).call correlationId =
        some { call with stage := .ended outcome } ∧
      correlationId ∉ (channel.resume details correlationId keepsResult).pending := by
  have resumes : channel.resume details correlationId keepsResult =
      { channel.updateCall correlationId fun call => { call with stage := .ended outcome } with
        pending := channel.pending.filter fun other => other ≠ correlationId } := by
    unfold resume
    rw [found, Option.bind_some, ends]
  rw [resumes]
  constructor
  · refine call_updateCall ?_ found
    intro other
    rfl
  · simp

theorem timeout_ends (sound : Sound details channel) {call : FederationCall Value}
    (found : channel.call correlationId = some call) (waiting : call.stage = .waiting)
    (keepsResult : Bool) :
    ∃ outcome after, ((channel.step details (.timeout correlationId)).step details
        (.resume correlationId keepsResult)).call correlationId = some after ∧
      after.stage = .ended outcome := by
  have timed : (channel.step details (.timeout correlationId)).call correlationId =
      some call.timeout := by
    refine call_updateCall ?_ found
    intro other
    unfold FederationCall.timeout
    split <;> simp
  have timedCall : call.timeout = { call.cancelFuture with timedOut := true } := by
    rw [FederationCall.timeout, waiting]
    rfl
  have timedSound := (sound.step (.timeout correlationId)).calls _ (call_mem timed).1
  obtain ⟨outcome, ends⟩ := outcome_of_woken timedSound
    (by rw [timedCall]; exact stage_cancelFuture.trans waiting)
    (.inr (.inl (by rw [timedCall]))) keepsResult
  exact ⟨outcome, _, (resume_ends timed ends).1, rfl⟩

def answerOutcome : Answer Value → Outcome Value
  | .result value => .result value
  | .error error => .error error

theorem respond_ends (sound : Sound details channel) {call : FederationCall Value}
    (found : channel.call correlationId = some call) (waiting : call.stage = .waiting)
    (owed : call.owed = true) (pending : call.future = .pending) (answer : Answer Value)
    (keepsResult : Bool) :
    ∃ after, ((channel.step details (.respond correlationId answer)).step details
        (.resume correlationId keepsResult)).call correlationId = some after ∧
      after.stage = .ended (answerOutcome answer) := by
  have inFlight : call.inFlight = true := by rw [FederationCall.inFlight, waiting]
  obtain ⟨isOpen, inTime, uncancelled⟩ :=
    (sound.calls call (call_mem found).1).pending inFlight pending
  have responds : channel.step details (.respond correlationId answer) =
      (channel.noteAnswer correlationId answer).setFuture correlationId (answerFuture answer) := by
    rcases respond_cases sound answer found owed with
      ⟨closed | ⟨-, done⟩, -⟩ | ⟨-, responds⟩ | ⟨⟨-, other, otherFound, -, gone⟩, -⟩
    · exact absurd isOpen closed
    · rw [pending] at done
      cases done
    · exact responds
    · rw [found] at otherFound
      cases otherFound
      rw [inFlight] at gone
      cases gone
  have settled : (channel.step details (.respond correlationId answer)).call correlationId =
      some { call with answer := some answer, future := answerFuture answer } := by
    rw [responds]
    have noted : (channel.noteAnswer correlationId answer).call correlationId =
        some { call with answer := some answer } := by
      refine call_updateCall ?_ found
      intro other
      rfl
    refine (call_updateCall ?_ noted).trans rfl
    intro other
    rfl
  have ends : FederationCall.outcome details keepsResult
      { call with answer := some answer, future := answerFuture answer } =
        some (answerOutcome answer) := by
    have uninterrupted : FederationCall.interruption details
        { call with answer := some answer, future := answerFuture answer } = none := by
      rw [FederationCall.interruption, if_neg (by simp [uncancelled waiting]),
        if_neg (by simp [inTime])]
    have settlement : FederationCall.settlement
        { call with answer := some answer, future := answerFuture answer } =
          some (answerOutcome answer) := by
      cases answer <;> rfl
    unfold FederationCall.outcome
    rw [uninterrupted, settlement]
    dsimp only
    rw [waiting]
    dsimp only
    split <;> rfl
  exact ⟨_, (resume_ends settled ends).1, rfl⟩

structure SettlesOnce (details : ErrorDetails Value) (commands : List (ChannelCommand Value)) :
    Prop where
  outcomes : ∀ call ∈ (opened.run details commands).calls, ∀ outcome,
    call.stage = .ended outcome →
      OutcomeSound details (opened.run details commands).closedReason call outcome
  left : ∀ call ∈ (opened.run details commands).calls, ∀ outcome,
    call.stage = .ended outcome → call.correlationId ∉ (opened.run details commands).pending
  once : ∀ later, EndedKept (opened.run details commands)
    ((opened.run details commands).run details later)
  wakes : ∀ call ∈ (opened.run details commands).calls, call.stage = .waiting →
    (call.future.isDone = true ∨ call.timedOut = true ∨ call.cancelRequested = true) →
      ∀ keepsResult, ∃ outcome after, ((opened.run details commands).step details
        (.resume call.correlationId keepsResult)).call call.correlationId = some after ∧
          after.stage = .ended outcome
  failed : (opened.run details commands).closedReason ≠ none →
    ∀ call ∈ (opened.run details commands).calls, call.inFlight = true → call.future.isDone = true
  timed : ∀ call ∈ (opened.run details commands).calls, call.stage = .waiting →
    ∀ keepsResult, ∃ outcome after, (((opened.run details commands).step details
      (.timeout call.correlationId)).step details
        (.resume call.correlationId keepsResult)).call call.correlationId = some after ∧
          after.stage = .ended outcome
  answered : ∀ call ∈ (opened.run details commands).calls, call.stage = .waiting →
    call.owed = true → call.future = .pending → ∀ answer keepsResult, ∃ after,
      (((opened.run details commands).step details (.respond call.correlationId answer)).step
        details (.resume call.correlationId keepsResult)).call call.correlationId = some after ∧
          after.stage = .ended (answerOutcome answer)

def Undisturbed (details : ErrorDetails Value) (channel : FederationChannel Value) :
    List (ChannelCommand Value) → Prop
  | [] => True
  | command :: commands =>
    (∀ correlationId answer, command = .respond correlationId answer →
      (channel.step details command).closedReason = channel.closedReason ∧
        ∀ other ∈ channel.calls, other.correlationId ≠ correlationId →
          other ∈ (channel.step details command).calls) ∧
      Undisturbed details (channel.step details command) commands

/-- No response comes after its own request was ended otherwise. -/
def OnTime (details : ErrorDetails Value) (channel : FederationChannel Value) :
    List (ChannelCommand Value) → Prop
  | [] => True
  | command :: commands =>
    (∀ correlationId answer, command = .respond correlationId answer →
      ¬ channel.Late correlationId) ∧
      OnTime details (channel.step details command) commands

theorem settlesOnce (details : ErrorDetails Value) (commands : List (ChannelCommand Value)) :
    SettlesOnce details commands := by
  have sound : Sound details (opened.run details commands) := run_sound opened_sound commands
  have found : ∀ call ∈ (opened.run details commands).calls,
      (opened.run details commands).call call.correlationId = some call :=
    fun call member => KeyedRows.fetch_of_mem sound.correlations member
  refine ⟨?_, ?_, EndedKept.run sound, ?_, ?_, ?_, ?_⟩
  · intro call member outcome ended
    exact (sound.calls call member).ended outcome ended
  · intro call member outcome ended registered
    obtain ⟨-, other, otherMember, same, inFlight⟩ := (sound.pending _).mp registered
    rw [KeyedRows.eq_of_key_eq sound.correlations otherMember member same,
      FederationCall.inFlight, ended] at inFlight
    cases inFlight
  · intro call member waiting woken keepsResult
    obtain ⟨outcome, ends⟩ := outcome_of_woken (sound.calls call member) waiting woken keepsResult
    exact ⟨outcome, _, (resume_ends (found call member) ends).1, rfl⟩
  · intro closed call member inFlight
    cases future : call.future with
    | pending => exact absurd ((sound.calls call member).pending inFlight future).1 closed
    | result value => rfl
    | exception error => rfl
    | cancelled => rfl
  · intro call member waiting keepsResult
    exact timeout_ends sound (found call member) waiting keepsResult
  · intro call member waiting owed pending answer keepsResult
    exact respond_ends sound (found call member) waiting owed pending answer keepsResult

theorem respond_undisturbed (sound : Sound details channel) (correlationId : String)
    (answer : Answer Value) :
    ((channel.step details (.respond correlationId answer)).closedReason = channel.closedReason ∧
      ∀ other ∈ channel.calls, other.correlationId ≠ correlationId →
        other ∈ (channel.step details (.respond correlationId answer)).calls) ↔
      ¬ channel.Late correlationId := by
  change (((channel.respond details correlationId answer).closedReason = _) ∧
    ∀ other ∈ channel.calls, _ → other ∈ (channel.respond details correlationId answer).calls) ↔ _
  by_cases owing : ∃ call, channel.call correlationId = some call ∧ call.owed = true
  · obtain ⟨call, found, owed⟩ := owing
    rcases respond_cases sound answer found owed with
      ⟨settled, responds⟩ | ⟨⟨-, inFlight, -⟩, responds⟩ | ⟨late, responds⟩
    · rw [responds]
      refine ⟨?_, fun _ => ⟨rfl, fun other member different => updateCall_other member different⟩⟩
      rintro - ⟨isOpen, other, otherFound, -, gone⟩
      rw [found] at otherFound
      cases otherFound
      rcases settled with closed | ⟨inFlight, -⟩
      · exact closed isOpen
      · rw [inFlight] at gone
        cases gone
    · rw [responds]
      refine ⟨?_, fun _ => ⟨rfl, fun other member different =>
        updateCall_other (updateCall_other member different) different⟩⟩
      rintro - ⟨-, other, otherFound, -, gone⟩
      rw [found] at otherFound
      cases otherFound
      rw [inFlight] at gone
      cases gone
    · rw [responds]
      constructor
      · rintro ⟨sameReason, -⟩
        have isOpen : (channel.noteAnswer correlationId answer).closedReason = none := late.1
        rw [failClosed_open isOpen, late.1] at sameReason
        cases sameReason
      · exact fun onTime => absurd late onTime
  · have unowed : ∀ call, channel.call correlationId = some call → call.owed = false := by
      intro call found
      rw [← Bool.not_eq_true]
      exact fun owed => owing ⟨call, found, owed⟩
    rw [respond_unowed answer unowed]
    refine ⟨?_, fun _ => ⟨rfl, fun other member _ => member⟩⟩
    rintro - ⟨-, call, found, owed, -⟩
    exact owing ⟨call, found, owed⟩

theorem undisturbed_iff (sound : Sound details channel) (commands : List (ChannelCommand Value)) :
    Undisturbed details channel commands ↔ OnTime details channel commands := by
  induction commands generalizing channel with
  | nil => rfl
  | cons command commands ih =>
    refine and_congr ?_ (ih (sound.step command))
    refine forall_congr' fun correlationId => forall_congr' fun answer => ?_
    refine ⟨fun quiet same => ?_, fun onTime same => ?_⟩
    · subst same
      exact (respond_undisturbed sound correlationId answer).mp (quiet rfl)
    · subst same
      exact (respond_undisturbed sound correlationId answer).mpr (onTime rfl)

/-- Requests settle once, and disturb one another exactly through late responses. -/
theorem federationRequests_settle (details : ErrorDetails Value)
    (commands : List (ChannelCommand Value)) :
    (SettlesOnce details commands ∧ Undisturbed details opened commands) ↔
      OnTime details opened commands := by
  rw [undisturbed_iff opened_sound]
  exact ⟨fun both => both.2, fun onTime => ⟨settlesOnce details commands, onTime⟩⟩

def lateCommands : List (ChannelCommand Unit) :=
  [.request "cor_a" "federation.status", .deliver "cor_a", .sent "cor_a",
    .request "cor_b" "federation.status", .deliver "cor_b", .sent "cor_b",
    .timeout "cor_a", .resume "cor_a" false, .respond "cor_a" (.result ()),
    .resume "cor_b" false]

def plainDetails : ErrorDetails Unit :=
  ⟨(), fun _ => (), fun _ => ()⟩

theorem federationRequests_settle_lateCommands :
    ¬ (SettlesOnce plainDetails lateCommands ∧ Undisturbed plainDetails opened lateCommands) ∧
      ((opened.run plainDetails lateCommands).call "cor_b").map FederationCall.stage =
        some (.ended (.error (.unknownCorrelation "cor_a" ()))) := by
  constructor
  · rintro ⟨-, -, -, -, -, -, -, -, -, disturbed, -⟩
    have closed := (disturbed "cor_a" (.result ()) rfl).1
    revert closed
    decide
  · decide

end FederationChannel

end GraphAgent.Federation
