import GraphAgent.CommunicationRows

/-!
# What the ledger transactions commit

One specification for each transaction of the ledger: which rows it found, and
which row it wrote.  Later proofs use these and never unfold a transaction.
-/

namespace GraphAgent.Communication

open KeyedRows Transaction

theorem refuseUnless_ok {condition : Bool} {error : CommunicationError} {done : Unit}
    (passed : refuseUnless condition error = .ok done) : condition = true := by
  unfold refuseUnless at passed
  split at passed
  · assumption
  · cases passed

theorem refuseUnless_of_true {condition : Bool} {error : CommunicationError}
    (holds : condition = true) : refuseUnless condition error = .ok () := by
  rw [refuseUnless, if_pos holds]

namespace CommunicationSession

variable {session next : CommunicationSession} {nowText : String}

def InboxWritten (session next : CommunicationSession) : Prop :=
  ∃ (matching : CommunicationInboxRecord → Bool)
    (change : CommunicationInboxRecord → CommunicationInboxRecord),
    (∀ row ∈ session.inbox, matching row = true → InboxSucceeds (change row) row) ∧
    (∀ row ∈ session.inbox, matching row = true → InboxShape (change row)) ∧
    next = session.updateInbox matching change

def OutboxWritten (session next : CommunicationSession) : Prop :=
  ∃ (matching : CommunicationOutboxRecord → Bool)
    (change : CommunicationOutboxRecord → CommunicationOutboxRecord),
    (∀ row ∈ session.outbox, matching row = true → OutboxSucceeds (change row) row) ∧
    (∀ row ∈ session.outbox, matching row = true → OutboxShape (change row)) ∧
    next = session.updateOutbox matching change

theorem updateWhere_none {Row : Type} (rows : List Row) :
    updateWhere (fun _ => false) id rows = rows := by
  simp [updateWhere]

theorem InboxWritten.refl (session : CommunicationSession) : InboxWritten session session := by
  refine ⟨fun _ => false, id, ?_, ?_, ?_⟩
  · intro row member matched
    cases matched
  · intro row member matched
    cases matched
  · rw [updateInbox, updateWhere_none]

theorem OutboxWritten.refl (session : CommunicationSession) :
    OutboxWritten session session := by
  refine ⟨fun _ => false, id, ?_, ?_, ?_⟩
  · intro row member matched
    cases matched
  · intro row member matched
    cases matched
  · rw [updateOutbox, updateWhere_none]

theorem InboxWritten.step (written : InboxWritten session next) : Step session next := by
  obtain ⟨matching, change, succeeds, shape, rfl⟩ := written
  exact .consumed matching change succeeds shape

theorem OutboxWritten.step (written : OutboxWritten session next) : Step session next := by
  obtain ⟨matching, change, succeeds, shape, rfl⟩ := written
  exact .advanced matching change succeeds shape

theorem inboxWritten_row (held : session.Sound) {record : CommunicationInboxRecord}
    {change : CommunicationInboxRecord → CommunicationInboxRecord}
    (member : record ∈ session.inbox) (succeeds : InboxSucceeds (change record) record)
    (shape : InboxShape (change record)) :
    InboxWritten session (session.updateInbox
      (fun row => row.communicationId = record.communicationId) change) := by
  have only : ∀ row ∈ session.inbox,
      decide (row.communicationId = record.communicationId) = true → row = record := by
    intro row rowMember matched
    exact eq_of_key_eq held.inboxes rowMember member (of_decide_eq_true matched)
  refine ⟨_, _, ?_, ?_, rfl⟩
  · intro row rowMember matched
    rw [only row rowMember matched]
    exact succeeds
  · intro row rowMember matched
    rw [only row rowMember matched]
    exact shape

section Outbox

variable {sendOperationId communicationId requestId : String} {preimage : OutboxPreimage}
  {record : CommunicationOutboxRecord} {created : Bool}

/-- The row that a successful create-or-get returns is the one of the operation,
one of the same communication and preimage, or a new one. -/
theorem createOrGetOutbox_ok
    (succeeded : session.createOrGetCommunicationOutbox preimage sendOperationId communicationId
      requestId nowText = .ok ((record, created), next)) :
    validateOutbox preimage sendOperationId communicationId = .ok () ∧
      ((next = session ∧ record ∈ session.outbox ∧ record.toOutboxPreimage = preimage ∧
          record.communicationId = communicationId) ∨
        (session.fetchOutboxByOperation sendOperationId = none ∧
          session.fetchOutboxByCommunication communicationId = none ∧
          record = freshOutbox preimage sendOperationId communicationId requestId nowText ∧
          next = { session with outbox := session.outbox ++ [record] })) := by
  obtain ⟨_, valid, rest⟩ := bind_ok succeeded
  refine ⟨valid, ?_⟩
  split at rest
  · rename_i row found
    split at rest
    · cases rest
    · rename_i same
      push Not at same
      cases rest
      exact .inl ⟨rfl, fetch_mem found, OutboxPreimage.mismatches_eq_nil.mp same.1, same.2⟩
  · rename_i newOperation
    split at rest
    · rename_i row found
      split at rest
      · cases rest
      · rename_i same
        cases rest
        exact .inl ⟨rfl, fetch_mem found,
          OutboxPreimage.mismatches_eq_nil.mp (not_not.mp same), fetch_key found⟩
    · rename_i newCommunication
      obtain ⟨-, -, rest⟩ := bind_ok rest
      cases rest
      exact .inr ⟨newOperation, newCommunication, rfl, rfl⟩

theorem createOrGetOutbox_again (held : session.Sound) (member : record ∈ session.outbox)
    (valid : validateOutbox record.toOutboxPreimage record.sendOperationId
      record.communicationId = .ok ()) :
    session.createOrGetCommunicationOutbox record.toOutboxPreimage record.sendOperationId
      record.communicationId requestId nowText = .ok ((record, false), session) := by
  have found : session.fetchOutboxByOperation record.sendOperationId = some record :=
    fetch_of_mem held.operations member
  have same : ¬(record.mismatches record.toOutboxPreimage ≠ [] ∨
      record.communicationId ≠ record.communicationId) := by
    simp
  unfold createOrGetCommunicationOutbox
  rw [valid, found]
  exact if_neg same

theorem createOrGetOutbox_step
    (succeeded : session.createOrGetCommunicationOutbox preimage sendOperationId communicationId
      requestId nowText = .ok ((record, created), next)) : Step session next := by
  obtain ⟨-, ⟨rfl, -⟩ | ⟨newOperation, newCommunication, rfl, rfl⟩⟩ :=
    createOrGetOutbox_ok succeeded
  · exact .unchanged
  · exact .sent _ newOperation newCommunication fun _ => rfl

variable {newState : OutboxState} {receiptJson abortReason : Option String}

theorem advance_ok
    (succeeded : session.advanceCommunicationOutboxState sendOperationId newState receiptJson
      abortReason nowText = .ok (record, next)) :
    ∃ row ∈ session.outbox, row.sendOperationId = sendOperationId ∧
      ((row.state = newState ∧ next = session ∧
          repeatsAdvance row newState receiptJson abortReason = true) ∨
        (newState ∈ row.state.transitions ∧ next = session.updateOutbox
          (fun other => other.sendOperationId = sendOperationId && other.state = row.state)
          fun other => advancedOutbox other newState receiptJson abortReason nowText)) := by
  obtain ⟨-, -, checked⟩ := bind_ok succeeded
  obtain ⟨-, -, rest⟩ := bind_ok checked
  split at rest
  · cases rest
  · rename_i row found
    refine ⟨row, fetch_mem found, fetch_key found, ?_⟩
    split at rest
    · rename_i same
      split at rest
      · rename_i repeats
        cases rest
        exact .inl ⟨same, rfl, repeats⟩
      · cases rest
    · obtain ⟨_, allowed, rest⟩ := bind_ok rest
      cases rest
      refine .inr ⟨?_, rfl⟩
      unfold checkTransition at allowed
      split at allowed
      · cases allowed
      · rename_i permitted
        exact not_not.mp permitted

theorem advance_written (held : session.Sound)
    (used : newState = .routing ∨ newState = .targetAccepted)
    (succeeded : session.advanceCommunicationOutboxState sendOperationId newState receiptJson
      abortReason nowText = .ok (record, next))
    (payload : newState = .routing → receiptJson = none) :
    OutboxWritten session next := by
  obtain ⟨row, member, operation, ⟨-, rfl, -⟩ | ⟨permitted, rfl⟩⟩ := advance_ok succeeded
  · exact .refl next
  · have only : ∀ other ∈ session.outbox,
        (decide (other.sendOperationId = sendOperationId) && decide (other.state = row.state)) =
          true → other = row := by
      intro other otherMember matched
      simp only [Bool.and_eq_true, decide_eq_true_eq] at matched
      exact eq_of_key_eq held.operations otherMember member (matched.1.trans operation.symm)
    have early : row.latestReceipt = none := by
      apply held.outboxShape row member
      revert permitted
      rcases used with rfl | rfl
      · cases row.state <;> simp [OutboxState.transitions]
      · cases row.state <;> simp [OutboxState.transitions]
    refine ⟨_, _, ?_, ?_, rfl⟩
    · intro other otherMember matched
      rw [only other otherMember matched]
      refine ⟨rfl, rfl, rfl, rfl, rfl, .single permitted, ?_, ?_⟩
      · intro terminal
        rw [OutboxState.unsettled_of_moves permitted] at terminal
        cases terminal
      · intro receipt stored
        rw [early] at stored
        cases stored
    · intro other otherMember matched
      rw [only other otherMember matched]
      rcases used with rfl | rfl
      · intro _
        rfl
      · rintro (impossible | impossible)
        · cases impossible
        · cases impossible

theorem drainOutboxes_written :
    OutboxWritten session (session.drainCommunicationOutboxes nowText) := by
  refine ⟨_, _, ?_, ?_, rfl⟩
  · intro row member matched
    rw [Bool.not_eq_true'] at matched
    refine ⟨rfl, rfl, rfl, rfl, rfl, .single (OutboxState.cancelled_mem matched), ?_,
      fun _ stored => stored⟩
    intro terminal
    rw [matched] at terminal
    cases terminal
  · intro row member matched
    rintro (impossible | impossible)
    · cases impossible
    · cases impossible

theorem drainOutboxes_terminal :
    ∀ row ∈ (session.drainCommunicationOutboxes nowText).outbox, row.state.isTerminal = true := by
  intro row member
  obtain ⟨earlier, -, rfl⟩ := List.mem_map.mp member
  split
  · rfl
  · rename_i settled
    simpa using settled

end Outbox

section Inbox

variable {communicationId requestId : String} {preimage : InboxPreimage}
  {record : CommunicationInboxRecord} {created : Bool} {claim : InboxClaim}

theorem createOrGetInbox_ok
    (succeeded : session.createOrGetCommunicationInbox preimage communicationId requestId
      nowText = .ok ((record, created), next)) :
    (validateInbox preimage communicationId = .ok () ∧
        session.checkMainThread preimage.target = .ok () ∧
        session.proveInboxReply preimage = .ok ()) ∧
      record.toInboxPreimage = preimage ∧ record.communicationId = communicationId ∧
      ((next = session ∧ record ∈ session.inbox) ∨
        (session.fetchInbox communicationId = none ∧
          record = freshInbox preimage communicationId requestId nowText ∧
          next = { session with inbox := session.inbox ++ [record] })) := by
  obtain ⟨_, valid, mainChecked⟩ := bind_ok succeeded
  obtain ⟨_, main, replyChecked⟩ := bind_ok mainChecked
  obtain ⟨_, reply, rest⟩ := bind_ok replyChecked
  refine ⟨⟨valid, main, reply⟩, ?_⟩
  split at rest
  · rename_i row found
    split at rest
    · cases rest
    · rename_i same
      cases rest
      exact ⟨InboxPreimage.mismatches_eq_nil.mp (not_not.mp same), fetch_key found,
        .inl ⟨rfl, fetch_mem found⟩⟩
  · rename_i absent
    unfold insertInbox at rest
    split at rest
    · cases rest
    · cases rest
      exact ⟨rfl, rfl, .inr ⟨absent, rfl, rfl⟩⟩

theorem createOrGetInbox_again (held : session.Sound) (member : record ∈ session.inbox)
    (valid : validateInbox record.toInboxPreimage record.communicationId = .ok ())
    (main : session.checkMainThread record.target = .ok ())
    (reply : session.proveInboxReply record.toInboxPreimage = .ok ()) :
    session.createOrGetCommunicationInbox record.toInboxPreimage record.communicationId requestId
      nowText = .ok ((record, false), session) := by
  have found : session.fetchInbox record.communicationId = some record :=
    fetch_of_mem held.inboxes member
  have same : ¬(record.mismatches record.toInboxPreimage ≠ []) := by
    simp
  unfold createOrGetCommunicationInbox
  rw [valid, main, reply, found]
  exact if_neg same

theorem createOrGetInbox_step
    (succeeded : session.createOrGetCommunicationInbox preimage communicationId requestId
      nowText = .ok ((record, created), next)) : Step session next := by
  obtain ⟨-, -, -, ⟨rfl, -⟩ | ⟨absent, rfl, rfl⟩⟩ := createOrGetInbox_ok succeeded
  · exact .unchanged
  · exact .accepted _ absent (.inl rfl)

theorem inboxOrRaise_ok {purpose : String}
    (found : session.inboxOrRaise communicationId purpose = .ok record) :
    record ∈ session.inbox ∧ record.communicationId = communicationId := by
  unfold inboxOrRaise at found
  split at found
  · cases found
  · rename_i row present
    cases found
    exact ⟨fetch_mem present, fetch_key present⟩

theorem claim_written (held : session.Sound)
    (succeeded : session.claimCommunicationInboxAdmission communicationId claim nowText =
      .ok (record, next)) : InboxWritten session next := by
  obtain ⟨-, -, rest⟩ := bind_ok succeeded
  obtain ⟨row, found, rest⟩ := bind_ok rest
  obtain ⟨member, -⟩ := inboxOrRaise_ok found
  split at rest
  · cases rest
  rename_i unbound
  have unbound := not_not.mp unbound
  have open_ : ¬row.state.isTerminal = true := by
    rw [unbound]
    decide
  split at rest
  · rename_i unclaimed
    cases rest
    apply inboxWritten_row held member
    · refine ⟨rfl, rfl, rfl, rfl, .refl, fun terminal => absurd terminal open_,
        fun _ bound => bound, ?_⟩
      intro earlier claimed
      rw [unclaimed] at claimed
      cases claimed
    · exact held.inboxShape row member
  · rename_i holder claimedBy
    split at rest
    · cases rest
    rename_i sameOwner
    split at rest
    · rename_i newer
      cases rest
      apply inboxWritten_row held member
      · refine ⟨rfl, rfl, rfl, rfl, .refl, fun terminal => absurd terminal open_,
          fun _ bound => bound, ?_⟩
        intro earlier claimed
        rw [claimedBy] at claimed
        cases claimed
        exact ⟨claim, rfl, (not_not.mp sameOwner).symm, newer.le⟩
      · exact held.inboxShape row member
    · split at rest
      · cases rest
      · cases rest
        exact .refl _

theorem markBound_ok {binding : InboxExecutionBinding}
    (succeeded : session.markCommunicationInboxExecutionBound communicationId binding claim
      nowText = .ok (record, next)) :
    ∃ row ∈ session.inbox, row.communicationId = communicationId ∧
      row.admissionClaim = some claim ∧
      ((row.binding = some binding ∧ next = session) ∨
        (row.state = .targetAccepted ∧ next = session.updateInbox
          (fun other => other.communicationId = row.communicationId)
          fun other => { other with
            state := .executionBound, binding := some binding, lastError := none,
            updatedAt := nowText })) := by
  obtain ⟨-, -, rest⟩ := bind_ok succeeded
  obtain ⟨-, -, rest⟩ := bind_ok rest
  obtain ⟨row, found, rest⟩ := bind_ok rest
  obtain ⟨member, key⟩ := inboxOrRaise_ok found
  refine ⟨row, member, key, ?_⟩
  split at rest
  · cases rest
  rename_i holder claimedBy
  split at rest
  · cases rest
  rename_i current
  refine ⟨by rw [claimedBy, not_not.mp current], ?_⟩
  split at rest
  · split at rest
    · cases rest
    · rename_i repeated
      cases rest
      exact .inl ⟨not_not.mp repeated, rfl⟩
  · split at rest
    · cases rest
    · rename_i unbound
      cases rest
      exact .inr ⟨not_not.mp unbound, rfl⟩

theorem markBound_written (held : session.Sound) {binding : InboxExecutionBinding}
    (succeeded : session.markCommunicationInboxExecutionBound communicationId binding claim
      nowText = .ok (record, next)) : InboxWritten session next := by
  obtain ⟨row, member, -, -, ⟨-, rfl⟩ | ⟨unbound, rfl⟩⟩ := markBound_ok succeeded
  · exact .refl next
  · apply inboxWritten_row held member
    · refine ⟨rfl, rfl, rfl, rfl, ?_, ?_, ?_, fun earlier claimed => ⟨earlier, claimed, rfl, le_rfl⟩⟩
      · rw [unbound]
        exact .single (by simp [InboxState.Moves, InboxState.transitions])
      · intro terminal
        rw [unbound] at terminal
        cases terminal
      · intro earlier bound
        rcases held.inboxShape row member with none_ | state | state
        · rw [none_] at bound
          cases bound
        · rw [unbound] at state
          cases state
        · rw [unbound] at state
          cases state
    · exact .inr (.inl rfl)

theorem markBound_superseded (held : session.Sound) (member : record ∈ session.inbox)
    {binding : InboxExecutionBinding} (superseded : record.admissionClaim ≠ some claim) :
    ∃ error, session.markCommunicationInboxExecutionBound record.communicationId binding claim
      nowText = .error error := by
  cases outcome : session.markCommunicationInboxExecutionBound record.communicationId binding
      claim nowText with
  | error error => exact ⟨error, rfl⟩
  | ok result =>
    obtain ⟨row, rowMember, key, claimed, -⟩ := markBound_ok
      (show _ = Except.ok (result.1, result.2) from outcome)
    rw [eq_of_key_eq held.inboxes rowMember member key] at claimed
    exact absurd claimed superseded

theorem recordFailure_written (held : session.Sound) {lastError : String}
    (succeeded : session.recordCommunicationInboxAdmissionFailure communicationId claim lastError
      nowText = .ok (record, next)) : InboxWritten session next := by
  obtain ⟨-, -, rest⟩ := bind_ok succeeded
  obtain ⟨-, -, rest⟩ := bind_ok rest
  obtain ⟨row, found, rest⟩ := bind_ok rest
  obtain ⟨member, -⟩ := inboxOrRaise_ok found
  split at rest
  · cases rest
  rename_i unbound
  split at rest
  · cases rest
  cases rest
  apply inboxWritten_row held member
  · refine ⟨rfl, rfl, rfl, rfl, .refl, ?_, fun _ bound => bound,
      fun earlier claimed => ⟨earlier, claimed, rfl, le_rfl⟩⟩
    intro terminal
    rw [not_not.mp unbound] at terminal
    cases terminal
  · exact held.inboxShape row member

theorem drained_moves {row : CommunicationInboxRecord} (shape : InboxShape row)
    (unsettled : row.state.isTerminal = false) :
    (if row.binding = none then InboxState.cancelled else .terminal) ∈ row.state.transitions := by
  split
  · cases state : row.state with
    | targetAccepted | executionBound => decide
    | terminal | failed | cancelled =>
      rw [state] at unsettled
      cases unsettled
  · rename_i bound
    rcases shape with none_ | state | state
    · exact absurd none_ bound
    · rw [state]
      decide
    · rw [state] at unsettled
      cases unsettled

theorem drainInboxes_written (held : session.Sound) {only : Option String} :
    InboxWritten session (session.drainCommunicationInboxes only nowText) := by
  have unsettled : ∀ row : CommunicationInboxRecord,
      ((!row.state.isTerminal) && only.all fun wanted => row.communicationId = wanted) = true →
        row.state.isTerminal = false := by
    intro row matched
    rw [Bool.and_eq_true, Bool.not_eq_true'] at matched
    exact matched.1
  refine ⟨_, _, ?_, ?_, rfl⟩
  · intro row member matched
    have open_ := unsettled row matched
    refine ⟨rfl, rfl, rfl, rfl, .single (drained_moves (held.inboxShape row member) open_), ?_,
      fun _ bound => bound, fun earlier claimed => ⟨earlier, claimed, rfl, le_rfl⟩⟩
    intro terminal
    rw [open_] at terminal
    cases terminal
  · intro row member matched
    by_cases bound : row.binding = none
    · exact .inl bound
    · refine .inr (.inr ?_)
      exact if_neg bound

end Inbox

end CommunicationSession

end GraphAgent.Communication
