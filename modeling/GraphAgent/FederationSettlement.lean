import GraphAgent.FederationChannel

/-!
# Settlement of federation requests

The invariant of the pending table and of every call, kept by each event on the
channel.  A response touches its own request only, unless that request has left
the table already.
-/

namespace GraphAgent.Federation

open KeyedRows

variable {Value : Type} {details : ErrorDetails Value} {channel next : FederationChannel Value}
  {correlationId method : String}

def OutcomeSound (details : ErrorDetails Value) (closed : Option (FederationError Value))
    (call : FederationCall Value) : Outcome Value → Prop
  | .result value => call.answer = some (.result value)
  | .error error =>
    call.answer = some (.error error) ∨
      (call.timedOut = true ∧ error = .deadlineExceeded (details.deadline call.method)) ∨
        closed = some error ∨ (closed.isSome = true ∧ error = .channelClosed details.empty)
  | .cancelled => call.cancelRequested = true

structure CallSound (details : ErrorDetails Value) (closed : Option (FederationError Value))
    (call : FederationCall Value) : Prop where
  result : ∀ value, call.future = .result value → call.answer = some (.result value)
  exception : ∀ error, call.future = .exception error →
    call.answer = some (.error error) ∨ closed = some error
  cancelled : call.future = .cancelled → call.stage ≠ .sending ∧
    (call.timedOut = true ∨ call.cancelRequested = true)
  pending : call.inFlight = true → call.future = .pending →
    closed = none ∧ call.timedOut = false ∧ (call.stage = .waiting → call.cancelRequested = false)
  ended : ∀ outcome, call.stage = .ended outcome → OutcomeSound details closed call outcome

namespace FederationChannel

structure Sound (details : ErrorDetails Value) (channel : FederationChannel Value) : Prop where
  correlations : (channel.calls.map FederationCall.correlationId).Nodup
  pending : ∀ correlationId, correlationId ∈ channel.pending ↔ channel.closedReason = none ∧
    ∃ call ∈ channel.calls, call.correlationId = correlationId ∧ call.inFlight = true
  calls : ∀ call ∈ channel.calls, CallSound details channel.closedReason call

/-- A response whose request was ended by its timeout or its caller. -/
def Late (channel : FederationChannel Value) (correlationId : String) : Prop :=
  channel.closedReason = none ∧ ∃ call, channel.call correlationId = some call ∧
    call.owed = true ∧ call.inFlight = false

end FederationChannel

theorem call_mem {call : FederationCall Value} (found : channel.call correlationId = some call) :
    call ∈ channel.calls ∧ call.correlationId = correlationId :=
  ⟨fetch_mem found, fetch_key found⟩

section UpdateCall

variable {change : FederationCall Value → FederationCall Value}

theorem mem_updateCall {call : FederationCall Value}
    (member : call ∈ (channel.updateCall correlationId change).calls) :
    (∃ earlier ∈ channel.calls, earlier.correlationId = correlationId ∧ call = change earlier) ∨
      (call ∈ channel.calls ∧ call.correlationId ≠ correlationId) := by
  obtain ⟨earlier, earlierMember, rfl⟩ := List.mem_map.mp member
  by_cases same : earlier.correlationId = correlationId
  · exact .inl ⟨earlier, earlierMember, same, by simp [same]⟩
  · exact .inr (by simpa [same] using earlierMember)

theorem updateCall_other {call : FederationCall Value} (member : call ∈ channel.calls)
    (different : call.correlationId ≠ correlationId) :
    call ∈ (channel.updateCall correlationId change).calls :=
  List.mem_map.mpr ⟨call, member, by simp [different]⟩

theorem updateCall_self {call : FederationCall Value} (member : call ∈ channel.calls)
    (same : call.correlationId = correlationId) :
    change call ∈ (channel.updateCall correlationId change).calls :=
  List.mem_map.mpr ⟨call, member, by simp [same]⟩

theorem correlations_updateCall
    (keeps : ∀ call : FederationCall Value, (change call).correlationId = call.correlationId) :
    (channel.updateCall correlationId change).calls.map FederationCall.correlationId =
      channel.calls.map FederationCall.correlationId := by
  change (channel.calls.map _).map _ = _
  rw [List.map_map]
  refine List.map_congr_left fun call _ => ?_
  dsimp only [Function.comp_apply]
  split
  · exact keeps call
  · rfl

theorem call_updateCall (keeps : ∀ call : FederationCall Value,
    (change call).correlationId = call.correlationId) {call : FederationCall Value}
    (found : channel.call correlationId = some call) :
    (channel.updateCall correlationId change).call correlationId = some (change call) :=
  fetch_updateWhere_self keeps found (by simp [(call_mem found).2])

theorem FederationChannel.Sound.updateCall (sound : Sound details channel)
    (keeps : ∀ call : FederationCall Value, (change call).correlationId = call.correlationId)
    (flight : ∀ call : FederationCall Value, (change call).inFlight = call.inFlight)
    (changed : ∀ call, channel.call correlationId = some call →
      CallSound details channel.closedReason (change call)) :
    Sound details (channel.updateCall correlationId change) := by
  refine ⟨?_, ?_, ?_⟩
  · rw [correlations_updateCall keeps]
    exact sound.correlations
  · intro wanted
    refine (sound.pending wanted).trans (and_congr_right fun _ => ?_)
    constructor
    · rintro ⟨call, member, key, inFlight⟩
      by_cases same : call.correlationId = correlationId
      · exact ⟨change call, updateCall_self member same, (keeps call).trans key,
          (flight call).trans inFlight⟩
      · exact ⟨call, updateCall_other member same, key, inFlight⟩
    · rintro ⟨call, member, key, inFlight⟩
      rcases mem_updateCall member with ⟨earlier, earlierMember, -, rfl⟩ | ⟨earlierMember, -⟩
      · exact ⟨earlier, earlierMember, (keeps earlier).symm.trans key,
          (flight earlier).symm.trans inFlight⟩
      · exact ⟨call, earlierMember, key, inFlight⟩
  · intro call member
    rcases mem_updateCall member with ⟨earlier, earlierMember, same, rfl⟩ | ⟨earlierMember, -⟩
    · refine changed earlier ?_
      rw [← same]
      exact fetch_of_mem sound.correlations earlierMember
    · exact sound.calls call earlierMember

end UpdateCall

section Calls

variable {closed : Option (FederationError Value)} {call : FederationCall Value}

theorem eq_sending (sending : call.stage.isSending = true) : call.stage = .sending := by
  cases stage : call.stage with
  | sending => rfl
  | waiting => simp [stage, CallStage.isSending] at sending
  | ended outcome => simp [stage, CallStage.isSending] at sending

theorem eq_waiting (waiting : call.stage.isWaiting = true) : call.stage = .waiting := by
  cases stage : call.stage with
  | sending => simp [stage, CallStage.isWaiting] at waiting
  | waiting => rfl
  | ended outcome => simp [stage, CallStage.isWaiting] at waiting

@[simp]
theorem correlationId_cancelFuture : call.cancelFuture.correlationId = call.correlationId := by
  unfold FederationCall.cancelFuture
  split <;> rfl

@[simp]
theorem stage_cancelFuture : call.cancelFuture.stage = call.stage := by
  unfold FederationCall.cancelFuture
  split <;> rfl

@[simp]
theorem answer_cancelFuture : call.cancelFuture.answer = call.answer := by
  unfold FederationCall.cancelFuture
  split <;> rfl

theorem future_cancelFuture : call.cancelFuture.future ≠ .pending ∧
    (call.cancelFuture.future = call.future ∨ call.cancelFuture.future = .cancelled) := by
  unfold FederationCall.cancelFuture
  cases future : call.future with
  | pending => simp [FutureState.isDone]
  | result value => simp [FutureState.isDone, future]
  | exception error => simp [FutureState.isDone, future]
  | cancelled => simp [FutureState.isDone, future]

theorem callSound_deliver (sound : CallSound details closed call) :
    CallSound details closed call.deliver := by
  unfold FederationCall.deliver
  split
  · exact ⟨sound.result, sound.exception, sound.cancelled, sound.pending, sound.ended⟩
  · exact sound

theorem callSound_sent (sound : CallSound details closed call) :
    CallSound details closed call.sent := by
  unfold FederationCall.sent
  split
  · rename_i allowed
    simp only [Bool.and_eq_true, Bool.not_eq_true'] at allowed
    have sending := eq_sending allowed.1.2
    refine ⟨sound.result, sound.exception, ?_, ?_, ?_⟩
    · intro cancelled
      exact absurd sending (sound.cancelled cancelled).1
    · intro _ pending
      obtain ⟨isOpen, inTime, -⟩ := sound.pending (by rw [FederationCall.inFlight, sending]) pending
      exact ⟨isOpen, inTime, fun _ => allowed.2⟩
    · intro outcome ended
      cases ended
  · exact sound

theorem callSound_interrupted (sound : CallSound details closed call)
    (waiting : call.stage = .waiting) {later : FederationCall Value}
    (stage : later.stage = call.stage) (future : later.future = call.cancelFuture.future)
    (answer : later.answer = call.answer)
    (interrupted : later.timedOut = true ∨ later.cancelRequested = true) :
    CallSound details closed later := by
  obtain ⟨done, kept⟩ : call.cancelFuture.future ≠ .pending ∧ _ := future_cancelFuture
  refine ⟨?_, ?_, ?_, ?_, ?_⟩
  · intro value result
    rw [future] at result
    rcases kept with same | cancelled
    · rw [answer]
      exact sound.result value (same.symm.trans result)
    · rw [cancelled] at result
      cases result
  · intro error raised
    rw [future] at raised
    rcases kept with same | cancelled
    · rw [answer]
      exact sound.exception error (same.symm.trans raised)
    · rw [cancelled] at raised
      cases raised
  · intro _
    refine ⟨?_, interrupted⟩
    rw [stage, waiting]
    exact nofun
  · intro _ pending
    exact absurd (future.symm.trans pending) done
  · intro outcome ended
    rw [stage, waiting] at ended
    cases ended

theorem callSound_timeout (sound : CallSound details closed call) :
    CallSound details closed call.timeout := by
  unfold FederationCall.timeout
  split
  · rename_i waiting
    exact callSound_interrupted sound (eq_waiting waiting) stage_cancelFuture rfl
      answer_cancelFuture (.inl rfl)
  · exact sound

theorem callSound_cancel (sound : CallSound details closed call) :
    CallSound details closed call.cancel := by
  unfold FederationCall.cancel
  split
  · rename_i sending
    refine ⟨sound.result, sound.exception, ?_, ?_, ?_⟩
    · intro cancelled
      exact absurd sending (sound.cancelled cancelled).1
    · intro inFlight pending
      obtain ⟨isOpen, inTime, -⟩ := sound.pending inFlight pending
      refine ⟨isOpen, inTime, fun waiting => ?_⟩
      dsimp only at waiting
      rw [sending] at waiting
      cases waiting
    · intro outcome ended
      dsimp only at ended
      rw [sending] at ended
      cases ended
  · rename_i waiting
    exact callSound_interrupted sound waiting stage_cancelFuture rfl answer_cancelFuture (.inr rfl)
  · exact sound

theorem callSound_answered (sound : CallSound details closed call) (owed : call.owed = true)
    (answer : Answer Value) :
    CallSound details closed { call with answer := some answer } := by
  have unanswered : call.answer = none := by
    simp only [FederationCall.owed, Bool.and_eq_true, Option.isNone_iff_eq_none] at owed
    exact owed.2
  refine ⟨?_, ?_, sound.cancelled, sound.pending, ?_⟩
  · intro value result
    have before := sound.result value result
    rw [unanswered] at before
    cases before
  · intro error raised
    rcases sound.exception error raised with before | failed
    · rw [unanswered] at before
      cases before
    · exact .inr failed
  · intro outcome ended
    have before := sound.ended outcome ended
    cases outcome with
    | result value =>
      rw [OutcomeSound, unanswered] at before
      cases before
    | error error =>
      rw [OutcomeSound, unanswered] at before
      exact .inr (before.resolve_left nofun)
    | cancelled => exact before

def answerFuture : Answer Value → FutureState Value
  | .result value => .result value
  | .error error => .exception error

theorem callSound_settled (inFlight : call.inFlight = true) (answer : Answer Value) :
    CallSound details closed
      { call with answer := some answer, future := answerFuture answer } := by
  refine ⟨?_, ?_, ?_, ?_, ?_⟩
  · intro value result
    cases answer with
    | result other =>
      cases result
      rfl
    | error error => cases result
  · intro error raised
    cases answer with
    | result value => cases raised
    | error other =>
      cases raised
      exact .inl rfl
  · intro cancelled
    cases answer <;> cases cancelled
  · intro _ pending
    cases answer <;> cases pending
  · intro outcome ended
    dsimp only at ended
    rw [FederationCall.inFlight, ended] at inFlight
    cases inFlight

theorem callSound_failed (sound : CallSound details none call) (error : FederationError Value) :
    CallSound details (some error)
      (if call.inFlight && !call.future.isDone then
        { call with future := .exception error } else call) := by
  split
  · rename_i failing
    simp only [Bool.and_eq_true] at failing
    refine ⟨nofun, ?_, nofun, nofun, ?_⟩
    · intro raised same
      cases same
      exact .inr rfl
    · intro outcome ended
      dsimp only at ended
      rw [FederationCall.inFlight, ended] at failing
      cases failing.1
  · rename_i kept
    refine ⟨sound.result, ?_, sound.cancelled, ?_, ?_⟩
    · intro raised same
      exact .inl ((sound.exception raised same).resolve_right nofun)
    · intro inFlight pending
      simp [inFlight, pending, FutureState.isDone] at kept
    · intro outcome ended
      have before := sound.ended outcome ended
      cases outcome with
      | result value => exact before
      | error other =>
        rcases before with own | late | failed | refused
        · exact .inl own
        · exact .inr (.inl late)
        · cases failed
        · cases refused.1
      | cancelled => exact before

theorem outcome_sound (sound : CallSound details closed call) {keepsResult : Bool}
    {outcome : Outcome Value} (found : call.outcome details keepsResult = some outcome) :
    OutcomeSound details closed call outcome := by
  have interruptionSound : ∀ {outcome}, call.interruption details = some outcome →
      OutcomeSound details closed call outcome := by
    intro outcome interrupted
    unfold FederationCall.interruption at interrupted
    split at interrupted
    · rename_i requested
      cases interrupted
      exact requested
    · split at interrupted
      · rename_i timedOut
        cases interrupted
        exact .inr (.inl ⟨timedOut, rfl⟩)
      · cases interrupted
  have settlementSound : ∀ {outcome}, call.settlement = some outcome →
      OutcomeSound details closed call outcome := by
    intro outcome settled
    unfold FederationCall.settlement at settled
    split at settled
    · rename_i value result
      cases settled
      exact sound.result value result
    · rename_i error raised
      cases settled
      rcases sound.exception error raised with own | failed
      · exact .inl own
      · exact .inr (.inr (.inl failed))
    · cases settled
    · cases settled
  unfold FederationCall.outcome at found
  split at found
  · split at found
    · rename_i requested
      cases found
      exact requested
    · cases found
  · split at found
    · rcases Option.or_eq_some_iff.mp found with settled | ⟨-, interrupted⟩
      · exact settlementSound settled
      · exact interruptionSound interrupted
    · rcases Option.or_eq_some_iff.mp found with interrupted | ⟨-, settled⟩
      · exact interruptionSound interrupted
      · exact settlementSound settled
  · cases found

end Calls

namespace FederationChannel

theorem opened_sound : Sound details (opened : FederationChannel Value) := by
  refine ⟨List.nodup_nil, ?_, ?_⟩
  · intro correlationId
    simp [opened]
  · intro call member
    cases member

theorem Sound.pending_contains (sound : Sound details channel)
    (isOpen : channel.closedReason = none) {call : FederationCall Value}
    (member : call ∈ channel.calls) :
    channel.pending.contains call.correlationId = call.inFlight := by
  rw [Bool.eq_iff_iff, List.contains_iff_mem, sound.pending]
  constructor
  · rintro ⟨-, other, otherMember, same, inFlight⟩
    rw [← eq_of_key_eq sound.correlations otherMember member same]
    exact inFlight
  · intro inFlight
    exact ⟨isOpen, call, member, rfl, inFlight⟩

theorem Sound.pending_closed (sound : Sound details channel)
    (closed : channel.closedReason ≠ none) (correlationId : String) :
    channel.pending.contains correlationId = false := by
  rw [← Bool.not_eq_true, List.contains_iff_mem, sound.pending]
  exact fun registered => closed registered.1

theorem failClosed_closed (closed : channel.closedReason ≠ none)
    (error : FederationError Value) : channel.failClosed error = channel := by
  rw [failClosed, if_pos (Option.isSome_iff_ne_none.mpr closed)]

theorem failClosed_open (isOpen : channel.closedReason = none) (error : FederationError Value) :
    channel.failClosed error =
      { closedReason := some error
        pending := []
        calls := updateWhere
          (fun call => channel.pending.contains call.correlationId && !call.future.isDone)
          (fun call => { call with future := .exception error }) channel.calls } := by
  rw [failClosed, if_neg (by simp [isOpen])]

theorem Sound.failClosed (sound : Sound details channel) (error : FederationError Value) :
    Sound details (channel.failClosed error) := by
  by_cases isOpen : channel.closedReason = none
  · rw [failClosed_open isOpen]
    refine ⟨?_, ?_, ?_⟩
    · rw [updateWhere, List.map_map]
      have same : channel.calls.map (FederationCall.correlationId ∘ fun call =>
          if channel.pending.contains call.correlationId && !call.future.isDone then
            { call with future := .exception error } else call) =
          channel.calls.map FederationCall.correlationId := by
        refine List.map_congr_left fun call _ => ?_
        dsimp only [Function.comp_apply]
        split <;> rfl
      rw [same]
      exact sound.correlations
    · intro correlationId
      simp
    · intro call member
      obtain ⟨earlier, earlierMember, rfl⟩ := List.mem_map.mp member
      have earlierSound := sound.calls earlier earlierMember
      rw [isOpen] at earlierSound
      have failed := callSound_failed earlierSound error
      simp only [← sound.pending_contains isOpen earlierMember] at failed
      exact failed
  · rw [failClosed_closed isOpen]
    exact sound

theorem Sound.request (sound : Sound details channel) (method : String)
    (new : channel.call correlationId = none) :
    Sound details (channel.request details correlationId method) := by
  have distinct : ∀ call : FederationCall Value, call.correlationId = correlationId →
      ((channel.calls ++ [call]).map FederationCall.correlationId).Nodup := by
    intro call same
    rw [List.map_append, List.map_singleton, List.nodup_append]
    refine ⟨sound.correlations, List.nodup_singleton _, ?_⟩
    intro key member other single
    obtain ⟨earlier, earlierMember, rfl⟩ := List.mem_map.mp member
    rw [List.mem_singleton.mp single, same]
    exact fetch_eq_none.mp new earlier earlierMember
  unfold FederationChannel.request
  split
  · rename_i closed
    refine ⟨distinct _ rfl, ?_, ?_⟩
    · intro wanted
      constructor
      · intro member
        have closed := Option.isSome_iff_ne_none.mp closed
        exact absurd ((sound.pending wanted).mp member).1 closed
      · rintro ⟨isOpen, -⟩
        rw [isOpen] at closed
        cases closed
    · intro call member
      rcases List.mem_append.mp member with before | single
      · exact sound.calls call before
      · rw [List.mem_singleton.mp single]
        refine ⟨nofun, nofun, nofun, nofun, ?_⟩
        intro outcome ended
        cases ended
        exact .inr (.inr (.inr ⟨closed, rfl⟩))
  · rename_i isOpen
    have isOpen : channel.closedReason = none := by simpa using isOpen
    refine ⟨distinct _ rfl, ?_, ?_⟩
    · intro wanted
      rw [List.mem_append, sound.pending, List.mem_singleton]
      constructor
      · rintro (⟨-, call, member, same, inFlight⟩ | rfl)
        · exact ⟨isOpen, call, List.mem_append_left _ member, same, inFlight⟩
        · exact ⟨isOpen, _, List.mem_append_right _ (List.mem_singleton_self _), rfl, rfl⟩
      · rintro ⟨-, call, member, same, inFlight⟩
        rcases List.mem_append.mp member with before | single
        · exact .inl ⟨isOpen, call, before, same, inFlight⟩
        · right
          rw [← same, List.mem_singleton.mp single]
    · intro call member
      rcases List.mem_append.mp member with before | single
      · exact sound.calls call before
      · rw [List.mem_singleton.mp single]
        exact ⟨nofun, nofun, nofun, fun _ _ => ⟨isOpen, rfl, nofun⟩, nofun⟩

theorem Sound.resume (sound : Sound details channel) (correlationId : String)
    (keepsResult : Bool) : Sound details (channel.resume details correlationId keepsResult) := by
  unfold FederationChannel.resume
  split
  · exact sound
  rename_i outcome found
  obtain ⟨call, callFound, outcomeFound⟩ := Option.bind_eq_some_iff.mp found
  obtain ⟨callMember, callKey⟩ := call_mem callFound
  refine ⟨?_, ?_, ?_⟩
  · change ((channel.updateCall correlationId _).calls.map _).Nodup
    rw [correlations_updateCall]
    · exact sound.correlations
    · intro call
      rfl
  · intro wanted
    change wanted ∈ channel.pending.filter _ ↔ _
    rw [List.mem_filter, sound.pending]
    simp only [ne_eq, decide_not, Bool.not_eq_true', decide_eq_false_iff_not]
    constructor
    · rintro ⟨⟨isOpen, other, member, same, inFlight⟩, different⟩
      exact ⟨isOpen, other, updateCall_other member (by rw [same]; exact different), same, inFlight⟩
    · rintro ⟨isOpen, other, member, same, inFlight⟩
      rcases mem_updateCall member with ⟨earlier, -, -, rfl⟩ | ⟨before, different⟩
      · cases inFlight
      · exact ⟨⟨isOpen, other, before, same, inFlight⟩, by rw [← same]; exact different⟩
  · intro other member
    change CallSound details channel.closedReason other
    rcases mem_updateCall member with ⟨earlier, earlierMember, same, rfl⟩ | ⟨before, -⟩
    · have sameCall := eq_of_key_eq sound.correlations earlierMember callMember
        (same.trans callKey.symm)
      rw [sameCall]
      have callSound := sound.calls call callMember
      refine ⟨callSound.result, callSound.exception, ?_, nofun, ?_⟩
      · intro cancelled
        exact ⟨nofun, (callSound.cancelled cancelled).2⟩
      · intro ended same
        cases same
        exact outcome_sound callSound outcomeFound
    · exact sound.calls other before

theorem settleFuture_answer (details : ErrorDetails Value) (channel : FederationChannel Value)
    (correlationId : String) (answer : Answer Value) :
    settleFuture details channel correlationId (buildResponseFrame correlationId answer) =
      .ok (channel.setFuture correlationId (answerFuture answer)) := by
  cases answer with
  | result value => rfl
  | error error =>
    have made : FederationError.make? error.code error.message error.detail = some error := by
      rw [FederationError.make?, dif_pos error.registered, dif_pos error.named]
    simp [settleFuture, buildResponseFrame, made, answerFuture]

theorem updateCall_updateCall {first second : FederationCall Value → FederationCall Value}
    (keeps : ∀ call : FederationCall Value, (first call).correlationId = call.correlationId) :
    (channel.updateCall correlationId first).updateCall correlationId second =
      channel.updateCall correlationId (second ∘ first) := by
  unfold updateCall updateWhere
  rw [List.map_map]
  congr 1
  refine List.map_congr_left fun call _ => ?_
  by_cases same : call.correlationId = correlationId
  · simp [same, keeps]
  · simp [same]

theorem receiveResponse_answer (details : ErrorDetails Value) (channel : FederationChannel Value)
    (correlationId : String) (answer : Answer Value) :
    channel.receiveResponse details (buildResponseFrame correlationId answer) =
      if channel.pending.contains correlationId then
        if ((channel.call correlationId).map fun call => call.future.isDone) = some true then
          channel
        else
          channel.setFuture correlationId (answerFuture answer)
      else
        channel.failClosed (.unknownCorrelation correlationId details.empty) := by
  have named : (buildResponseFrame correlationId answer).correlationId = some correlationId := by
    cases answer <;> rfl
  by_cases registered : channel.pending.contains correlationId = true
  · by_cases done : ((channel.call correlationId).map fun call => call.future.isDone) = some true
    · rw [receiveResponse, dispatchResponse, named]
      simp only [registered, done, if_true]
    · rw [receiveResponse, dispatchResponse, named, if_pos registered, if_neg done]
      dsimp only
      rw [if_pos registered, if_neg done, settleFuture_answer]
  · rw [receiveResponse, dispatchResponse, named, if_neg registered]
    dsimp only
    rw [if_neg registered]

def noteAnswer (channel : FederationChannel Value) (correlationId : String)
    (answer : Answer Value) : FederationChannel Value :=
  channel.updateCall correlationId fun call => { call with answer := some answer }

/-- What a first response does: it finds the channel closed or its call interrupted, it
settles its own call, or it closes the channel as an unknown correlation. -/
theorem respond_cases (sound : Sound details channel) (answer : Answer Value)
    {call : FederationCall Value} (found : channel.call correlationId = some call)
    (owed : call.owed = true) :
    ((channel.closedReason ≠ none ∨ (call.inFlight = true ∧ call.future.isDone = true)) ∧
      channel.respond details correlationId answer = channel.noteAnswer correlationId answer) ∨
    ((channel.closedReason = none ∧ call.inFlight = true ∧ call.future.isDone = false) ∧
      channel.respond details correlationId answer =
        (channel.noteAnswer correlationId answer).setFuture correlationId (answerFuture answer)) ∨
    (channel.Late correlationId ∧
      channel.respond details correlationId answer =
        (channel.noteAnswer correlationId answer).failClosed
          (.unknownCorrelation correlationId details.empty)) := by
  obtain ⟨member, key⟩ := call_mem found
  have noted : (channel.noteAnswer correlationId answer).call correlationId =
      some { call with answer := some answer } := by
    refine call_updateCall ?_ found
    intro other
    rfl
  have responds : channel.respond details correlationId answer =
      (channel.noteAnswer correlationId answer).receiveResponse details
        (buildResponseFrame correlationId answer) := by
    rw [respond, found, if_pos (by simp [owed])]
    rfl
  rw [responds, receiveResponse_answer, noted]
  change (_ ∧ (if channel.pending.contains correlationId then _ else _) = _) ∨
    (_ ∧ (if channel.pending.contains correlationId then _ else _) = _) ∨
      (_ ∧ (if channel.pending.contains correlationId then _ else _) = _)
  by_cases isOpen : channel.closedReason = none
  · have registered := sound.pending_contains isOpen member
    rw [key] at registered
    rw [registered]
    cases inFlight : call.inFlight with
    | false =>
      right
      right
      exact ⟨⟨isOpen, call, found, owed, inFlight⟩, rfl⟩
    | true =>
      cases done : call.future.isDone with
      | true =>
        left
        refine ⟨.inr ⟨rfl, rfl⟩, ?_⟩
        simp [done]
      | false =>
        right
        left
        refine ⟨⟨isOpen, rfl, rfl⟩, ?_⟩
        simp [done]
  · left
    refine ⟨.inl isOpen, ?_⟩
    rw [sound.pending_closed isOpen, if_neg (by decide)]
    exact failClosed_closed
      (show (channel.noteAnswer correlationId answer).closedReason ≠ none from isOpen) _

theorem respond_unowed (answer : Answer Value)
    (unowed : ∀ call, channel.call correlationId = some call → call.owed = false) :
    channel.respond details correlationId answer = channel := by
  rw [respond, if_neg]
  intro owed
  obtain ⟨call, found, same⟩ := Option.map_eq_some_iff.mp owed
  rw [unowed call found] at same
  cases same

theorem Sound.noteAnswer (sound : Sound details channel) (answer : Answer Value)
    {call : FederationCall Value} (found : channel.call correlationId = some call)
    (owed : call.owed = true) : Sound details (channel.noteAnswer correlationId answer) := by
  refine sound.updateCall ?_ ?_ ?_
  · intro other
    rfl
  · intro other
    rfl
  · intro other otherFound
    rw [found] at otherFound
    cases otherFound
    exact callSound_answered (sound.calls call (call_mem found).1) owed answer

theorem Sound.respond (sound : Sound details channel) (correlationId : String)
    (answer : Answer Value) : Sound details (channel.respond details correlationId answer) := by
  by_cases owing : ∃ call, channel.call correlationId = some call ∧ call.owed = true
  · obtain ⟨call, found, owed⟩ := owing
    have noted := sound.noteAnswer answer found owed
    rcases respond_cases sound answer found owed with
      ⟨-, responds⟩ | ⟨⟨-, inFlight, -⟩, responds⟩ | ⟨-, responds⟩
    · rw [responds]
      exact noted
    · rw [responds, setFuture, FederationChannel.noteAnswer, updateCall_updateCall]
      · refine sound.updateCall ?_ ?_ ?_
        · intro other
          rfl
        · intro other
          rfl
        · intro other otherFound
          rw [found] at otherFound
          cases otherFound
          exact callSound_settled inFlight answer
      · intro other
        rfl
    · rw [responds]
      exact noted.failClosed _
  · rw [respond_unowed]
    · exact sound
    · intro call found
      rw [← Bool.not_eq_true]
      exact fun owed => owing ⟨call, found, owed⟩

theorem Sound.step (sound : Sound details channel) (command : ChannelCommand Value) :
    Sound details (channel.step details command) := by
  have known : ∀ {correlationId call}, channel.call correlationId = some call →
      CallSound details channel.closedReason call :=
    fun found => sound.calls _ (call_mem found).1
  cases command with
  | request correlationId method =>
    change Sound details (if _ then _ else _)
    split
    · rename_i allowed
      simp only [Bool.and_eq_true, Option.isNone_iff_eq_none] at allowed
      exact sound.request method allowed.1
    · exact sound
  | deliver correlationId =>
    refine sound.updateCall ?_ ?_ fun call found => callSound_deliver (known found)
    · intro call
      unfold FederationCall.deliver
      split <;> rfl
    · intro call
      unfold FederationCall.deliver
      split <;> rfl
  | sent correlationId =>
    refine sound.updateCall ?_ ?_ fun call found => callSound_sent (known found)
    · intro call
      unfold FederationCall.sent
      split <;> rfl
    · intro call
      unfold FederationCall.sent
      split
      · rename_i allowed
        simp only [Bool.and_eq_true] at allowed
        rw [FederationCall.inFlight, FederationCall.inFlight, eq_sending allowed.1.2]
      · rfl
  | respond correlationId answer => exact sound.respond correlationId answer
  | timeout correlationId =>
    refine sound.updateCall ?_ ?_ fun call found => callSound_timeout (known found)
    · intro call
      unfold FederationCall.timeout
      split <;> simp
    · intro call
      unfold FederationCall.timeout
      split <;> simp [FederationCall.inFlight]
  | cancel correlationId =>
    refine sound.updateCall ?_ ?_ fun call found => callSound_cancel (known found)
    · intro call
      unfold FederationCall.cancel
      split <;> simp
    · intro call
      unfold FederationCall.cancel
      split <;> simp [FederationCall.inFlight]
  | resume correlationId keepsResult => exact sound.resume correlationId keepsResult
  | fail error => exact sound.failClosed error

theorem run_sound (sound : Sound details channel) (commands : List (ChannelCommand Value)) :
    Sound details (channel.run details commands) := by
  induction commands generalizing channel with
  | nil => exact sound
  | cons command commands ih => exact ih (sound.step command)

/-- The table of pending futures holds the calls in flight, and is empty once closed. -/
theorem pending_iff_inFlight (details : ErrorDetails Value)
    (commands : List (ChannelCommand Value)) (correlationId : String) :
    let channel := opened.run details commands
    correlationId ∈ channel.pending ↔ channel.closedReason = none ∧
      ∃ call ∈ channel.calls, call.correlationId = correlationId ∧ call.inFlight = true :=
  (run_sound opened_sound commands).pending correlationId

end FederationChannel

end GraphAgent.Federation
