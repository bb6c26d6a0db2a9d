import GraphAgent.CommunicationTracking

/-!
# The delivery blocks keep what a session holds

Each block of the saga, taken transaction by transaction: wherever it ends, also
by a raise halfway, the session is a later state of the one it started from and
still tracks the send.
-/

namespace GraphAgent.Communication

open Durable KeyedRows SessionControl CommunicationSession SessionPrograms

structure Continues (request : SendRequest) (place : SessionPlace)
    (messages : List CommunicationAcceptanceRequest) (proven : String → Prop)
    (start session : CommunicationSession) : Prop where
  tracks : Tracks request place messages proven session
  later : session.Succeeds start
  node : session.node = start.node

variable {request : SendRequest} {place : SessionPlace}
  {messages : List CommunicationAcceptanceRequest} {proven : String → Prop}
  {start session next : CommunicationSession} {nowText : String}

namespace Continues

theorem refl (tracks : Tracks request place messages proven start) :
    Continues request place messages proven start start :=
  ⟨tracks, .refl start, rfl⟩

theorem step (continues : Continues request place messages proven start session)
    (moved : Step session next) (tracks : Tracks request place messages proven next) :
    Continues request place messages proven start next :=
  ⟨tracks, moved.succeeds.trans continues.later, moved.node.trans continues.node⟩

theorem inboxWritten (continues : Continues request place messages proven start session)
    (written : InboxWritten session next) : Continues request place messages proven start next :=
  continues.step written.step (continues.tracks.inboxWritten written)

theorem leased (continues : Continues request place messages proven start session)
    {control : ControlDatabase} (moved : ControlDatabase.LeaseStep session.control control)
    (fence : control.fence = session.control.fence)
    (source : ∀ row ∈ session.outbox, row.state.isTerminal = false → ∀ hash,
      session.control.LeaseHeld (sourceIdentity request.sendOperationId) hash →
      control.LeaseHeld (sourceIdentity request.sendOperationId) hash)
    (target : session.node = some .active → ∀ hash,
      session.control.LeaseHeld (targetIdentity request.communicationId) hash →
      control.LeaseHeld (targetIdentity request.communicationId) hash) :
    Continues request place messages proven start { session with control } :=
  continues.step (.leased control moved (.inl fence))
    (continues.tracks.leased moved (.inl fence) source target)

theorem marked (continues : Continues request place messages proven start session)
    {leaseId : String} {token : Nat} {lease : SessionOperationLease} {control : ControlDatabase}
    (marked : session.control.markLeaseSettling leaseId token nowText = .ok (lease, control)) :
    Continues request place messages proven start { session with control } := by
  have consistent := continues.tracks.sound.leases
  have moved := ControlDatabase.markLeaseSettling_moves consistent marked
  obtain ⟨-, -, -, -, -, rfl⟩ := ControlDatabase.markLeaseSettling_ok consistent marked
  exact continues.leased moved rfl (fun _ _ _ _ held => held.marked) fun _ _ held => held.marked

theorem completed (continues : Continues request place messages proven start session)
    {leaseId : String} {token : Nat} {lease : SessionOperationLease} {control : ControlDatabase}
    (settled : session.control.settleLease leaseId token "completed" nowText =
      .ok (lease, control)) :
    Continues request place messages proven start { session with control } := by
  have consistent := continues.tracks.sound.leases
  have moved := ControlDatabase.settleLease_moves consistent settled
  obtain ⟨final, known, -, -, -, -, -, rfl⟩ := ControlDatabase.settleLease_ok consistent settled
  have completed : final = .completed := by
    have : LeaseState.terminal? "completed" = some .completed := by decide
    exact (Option.some.inj (this.symm.trans known)).symm
  exact continues.leased moved rfl (fun _ _ _ _ held => held.settled (.inl completed))
    fun _ _ held => held.settled (.inl completed)

theorem cancelled (continues : Continues request place messages proven start session)
    {leaseId outcome : String} {token : Nat} {lease : SessionOperationLease}
    {control : ControlDatabase}
    (settled : session.control.settleLease leaseId token outcome nowText = .ok (lease, control))
    (inactive : session.node ≠ some .active)
    (unneeded : (∀ row ∈ session.outbox, row.state.isTerminal = true) ∨
      ∀ row ∈ session.control.leases, row.leaseId = leaseId →
        row.operationIdentity ≠ sourceIdentity request.sendOperationId) :
    Continues request place messages proven start { session with control } := by
  have consistent := continues.tracks.sound.leases
  have moved := ControlDatabase.settleLease_moves consistent settled
  obtain ⟨final, -, -, -, -, -, -, rfl⟩ := ControlDatabase.settleLease_ok consistent settled
  apply continues.leased moved rfl
  · intro row member unsettled hash held
    rcases unneeded with terminal | different
    · rw [terminal row member] at unsettled
      cases unsettled
    · exact held.settled (.inr different)
  · intro active
    exact absurd active inactive

end Continues

section Parts

variable {Result : Type} {before : CommunicationSession → Prop}
  {after : Result → CommunicationSession → Prop} {raised : CommunicationSession → Prop}

theorem leased_meets
    {call : ControlDatabase → Except LeaseError (Result × ControlDatabase)}
    (holds : ∀ session, before session → ∀ result control,
      call session.control = .ok (result, control) → after result { session with control })
    (refused : ∀ session, before session → raised session) :
    Meets before (leased call) after raised := by
  apply Meets.transact
  · intro session held result next committed
    unfold onLeases at committed
    split at committed
    · cases committed
    · rename_i value control outcome
      cases committed
      exact holds session held _ _ outcome
  · exact refused

def Current (lease : SessionOperationLease) (session : CommunicationSession) : Prop :=
  ∀ row ∈ session.control.leases, row.leaseId = lease.leaseId →
    row.operationIdentity = lease.operationIdentity

variable {lease : SessionOperationLease} {sessionId : String}

theorem leaseCurrent_meets (kept : ∀ session, before session → session.Sound) :
    Meets before (leaseCurrent lease)
      (fun _ session => before session ∧ Current lease session) before := by
  apply Meets.check
  · intro session held current viewed
    refine ⟨held, ?_⟩
    split at viewed
    · cases viewed
    · rename_i value accepted
      obtain ⟨found, proof⟩ := ControlDatabase.assertLeaseCurrent_ok accepted
      intro row member same
      have rowFound := (kept session held).leases.leaseRow_of_mem member
      rw [same, found] at rowFound
      cases rowFound
      exact congrArg SettlementProof.operationIdentity proof
  · intro session held
    exact held

theorem writeScope_meets :
    Meets before (sessionWriteScope sessionId)
      (fun state session => before session ∧ session.node = some state) before := by
  apply Meets.check
  · intro session held state viewed
    refine ⟨held, ?_⟩
    split at viewed
    · cases viewed
    · rename_i present
      cases viewed
      exact present
  · intro session held
    exact held

theorem settlement_meets (kept : ∀ session, before session → session.Sound) :
    Meets before (sessionLeaseSettlement sessionId lease)
      (fun active session => before session ∧ Current lease session ∧
        (active = true ↔ session.node = some .active)) before := by
  refine writeScope_meets.bind fun state => ?_
  have current := @leaseCurrent_meets
    (fun session => before session ∧ session.node = some state) lease
    fun session held => kept session held.1
  refine (current.weaken (fun _ held => held) (fun _ _ held => held)
    fun _ held => held.1).bind fun _ => ?_
  have fence : Meets
      (fun session => (before session ∧ session.node = some state) ∧ Current lease session)
      (fenceCurrent sessionId lease)
      (fun _ session => (before session ∧ session.node = some state) ∧ Current lease session)
      before :=
    Meets.check (fun _ held _ _ => held) fun _ held => held.1.1
  refine fence.bind fun _ => ?_
  apply Meets.pure
  rintro session ⟨⟨held, node⟩, identity⟩
  refine ⟨held, identity, ?_⟩
  rw [node, decide_eq_true_eq, Option.some.injEq]

theorem admission_meets :
    Meets before (sessionWriteAdmission sessionId)
      (fun _ session => before session ∧ session.node = some .active) before := by
  refine writeScope_meets.bind fun state => ?_
  split
  · rename_i active
    apply Meets.pure
    rintro session ⟨held, node⟩
    exact ⟨held, by rw [node, active]⟩
  · apply Meets.raise
    rintro session ⟨held, -⟩
    exact held

theorem beginSettlement_meets :
    Meets
      (fun session => Continues request place messages proven start session ∧
        lease ∈ session.control.leases ∧
        session.control.fence = some ⟨.active, lease.capturedLifecycleGeneration⟩)
      (beginSettlement lease nowText)
      (fun _ session => Continues request place messages proven start session ∧
        session.control.LeaseHeld lease.operationIdentity lease.preimageHash)
      (Continues request place messages proven start) := by
  unfold beginSettlement
  split
  · refine (leased_meets ?_ ?_ : Meets _ _ (fun _ session =>
      Continues request place messages proven start session ∧
        session.control.LeaseHeld lease.operationIdentity lease.preimageHash) _).bind
      fun _ => Meets.pure fun _ held => held
    · rintro session ⟨continues, member, fence⟩ row control marked
      refine ⟨continues.marked marked, ?_⟩
      have consistent := continues.tracks.sound.leases
      obtain ⟨earlier, earlierMember, sameId, active, -, rfl⟩ :=
        ControlDatabase.markLeaseSettling_ok consistent marked
      have same : earlier = lease :=
        eq_of_key_eq consistent.leaseIds earlierMember member sameId
      subst same
      have rewritten := @ControlDatabase.mem_rewriteLeases session.control earlier
        (ControlDatabase.named earlier.leaseId fun row =>
          row.state = .active && row.fencingToken = earlier.fencingToken)
        (fun row => { row with
          state := .settling, revision := row.revision + 1, updatedAt := nowText })
        earlierMember
      rw [if_pos (by simp [ControlDatabase.named, active])] at rewritten
      exact ⟨_, rewritten, rfl, rfl, .inl rfl, fence⟩
    · rintro session ⟨continues, -⟩
      exact continues
  · split
    · rename_i held
      apply Meets.pure
      rintro session ⟨continues, member, fence⟩
      exact ⟨continues, lease, member, rfl, rfl, held, fence⟩
    · apply Meets.raise
      rintro session ⟨continues, -⟩
      exact continues

theorem createLease_meets {request' : LeaseRequest} {leaseId : String} :
    Meets (Continues request place messages proven start)
      (leased fun control => control.createOrGetLease request' leaseId nowText)
      (fun lease session => (Continues request place messages proven start session ∧
          lease ∈ session.control.leases ∧
          session.control.fence = some ⟨.active, lease.capturedLifecycleGeneration⟩) ∧
        lease.operationIdentity = request'.operationIdentity ∧
        lease.preimageHash = request'.preimageHash)
      (Continues request place messages proven start) := by
  apply leased_meets
  · intro session continues lease control created
    have moved := ControlDatabase.createOrGetLease_moves created
    obtain ⟨open_, identity, hash, member, fence, rows⟩ :=
      ControlDatabase.createOrGetLease_ok created
    exact ⟨⟨continues.leased moved fence (fun _ _ _ _ held => held.extend fence rows)
      (fun _ _ held => held.extend fence rows), member, fence.trans open_⟩, identity, hash⟩
  · intro session continues
    exact continues

theorem settleCompleted_meets :
    Meets (Continues request place messages proven start)
      (settleLease lease "completed" nowText)
      (fun _ => Continues request place messages proven start)
      (Continues request place messages proven start) := by
  refine (leased_meets ?_ fun _ continues => continues : Meets _ _ (fun _ =>
    Continues request place messages proven start) _).bind fun _ => Meets.pure fun _ held => held
  intro session continues row control settled
  exact continues.completed settled

theorem completeLease_meets :
    Meets (Continues request place messages proven start)
      (completeLease lease nowText)
      (fun _ => Continues request place messages proven start)
      (Continues request place messages proven start) := by
  refine (leaseCurrent_meets fun _ continues => continues.tracks.sound).bind fun current => ?_
  split
  · exact Meets.pure fun _ held => held.1
  · exact settleCompleted_meets.weaken (fun _ held => held.1) (fun _ _ held => held)
      fun _ held => held

end Parts

theorem sendScope_meets :
    Meets (Continues request place messages proven start) (sendScope request)
      (fun _ => Continues request place messages proven start)
      (Continues request place messages proven start) := by
  refine (Meets.read fun _ held => held : Meets _ _ (fun _ =>
    Continues request place messages proven start) _).bind fun prior => ?_
  split
  · exact admission_meets.weaken (fun _ held => held) (fun _ _ held => held.1) fun _ held => held
  · refine (settlement_meets fun _ continues => continues.tracks.sound).bind fun _ => ?_
    exact Meets.pure fun _ held => held.1

theorem admitSend_meets {attempt : Attempt} (atSource : place = request.source.place) :
    Keeps (Continues request place messages proven start) (admitSend request attempt) := by
  refine (Meets.check (fun _ held value passed => ⟨held, passed⟩) fun _ held => held :
    Meets _ _ (fun _ session => Continues request place messages proven start session ∧
      request.payload.check = .ok ()) _).bind fun _ => ?_
  refine (Meets.check (fun _ held _ _ => held) fun _ held => held.1 :
    Meets _ (sendTarget request attempt) (fun _ session =>
      Continues request place messages proven start session ∧
        request.payload.check = .ok ()) _).bind fun target => ?_
  refine (Meets.check (fun _ held value passed => ⟨held.1, held.2, passed⟩) fun _ held => held.1 :
    Meets _ _ (fun _ session => Continues request place messages proven start session ∧
      request.payload.check = .ok () ∧
      checkOperationId request.sendOperationId = .ok ()) _).bind fun _ => ?_
  by_cases checks : request.payload.check = .ok () ∧
      checkOperationId request.sendOperationId = .ok ()
  · refine (sendScope_meets.weaken (fun _ held => held.1) (fun _ _ held => held)
      fun _ held => held).bind fun _ => ?_
    refine createLease_meets.bind fun lease => ?_
    by_cases same : lease.operationIdentity = sourceIdentity request.sendOperationId ∧
        lease.preimageHash = communicationPreimageHash target request.payload
    · refine (beginSettlement_meets.weaken (fun _ held => held.1) (fun _ _ held => held)
        fun _ held => held).bind fun _ => ?_
      refine (Meets.transact ?_ fun _ held => held.1 : Meets _ _ (fun _ =>
        Continues request place messages proven start) _).bind fun _ =>
          Meets.pure fun _ held => held
      rintro session ⟨continues, held⟩ ⟨record, created⟩ next committed
      rw [same.1, same.2] at held
      obtain ⟨valid, ⟨rfl, -⟩ | ⟨newOperation, newCommunication, rfl, rfl⟩⟩ :=
        createOrGetOutbox_ok committed
      · exact continues
      · refine continues.step (createOrGetOutbox_step committed)
          (continues.tracks.sent newOperation newCommunication (fun _ => rfl) ?_ held)
        refine ⟨atSource, rfl, rfl, rfl, valid, checks.1, checks.2, .inl rfl, ?_, fun _ => rfl, ?_⟩
        · intro impossible
          cases impossible
        · intro text impossible
          cases impossible
    · constructor
      · rintro session ⟨-, identity⟩
        exact absurd identity same
      · rintro session ⟨-, identity⟩
        exact absurd identity same
  · constructor
    · rintro session ⟨-, passed⟩
      exact absurd passed checks
    · rintro session ⟨-, passed⟩
      exact absurd passed checks

theorem FrozenOutbox.advanced {row : CommunicationOutboxRecord}
    (frozen : FrozenOutbox request place proven row) {newState : OutboxState}
    {receiptJson : Option String}
    (used : newState = .routing ∧ receiptJson = none ∨
      newState = .targetAccepted ∧ ∃ text, receiptJson = some text ∧ proven text) :
    FrozenOutbox request place proven
      (advancedOutbox row newState receiptJson none nowText) := by
  refine ⟨frozen.atSource, frozen.sendOperationId, frozen.communicationId, frozen.preimage,
    frozen.valid, frozen.payload, frozen.operation, ?_, ?_, ?_, ?_⟩
  · rcases used with ⟨rfl, -⟩ | ⟨rfl, -⟩
    · exact .inr (.inl rfl)
    · exact .inr (.inr (.inl rfl))
  · rcases used with ⟨rfl, -⟩ | ⟨rfl, text, rfl, -⟩
    · intro impossible
      cases impossible
    · intro _ impossible
      cases impossible
  · intro _
    exact ite_self _
  · intro stored held
    rcases used with ⟨rfl, -⟩ | ⟨rfl, text, rfl, given⟩
    · cases held
    · cases held
      exact given

theorem advance_meets {newState : OutboxState} {receiptJson : Option String}
    (used : newState = .routing ∧ receiptJson = none ∨
      newState = .targetAccepted ∧ ∃ text, receiptJson = some text ∧ proven text) :
    Meets (Continues request place messages proven start)
      (Durable.transact (advanceCommunicationOutboxState request.sendOperationId newState
        receiptJson none nowText))
      (fun _ => Continues request place messages proven start)
      (Continues request place messages proven start) := by
  apply Meets.transact
  · intro session continues record next committed
    have written : OutboxWritten session next := by
      apply advance_written continues.tracks.sound ?_ committed ?_
      · rcases used with ⟨routing, -⟩ | ⟨accepted, -⟩
        · exact .inl routing
        · exact .inr accepted
      · intro routing
        rcases used with ⟨-, none_⟩ | ⟨accepted, -⟩
        · exact none_
        · rw [routing] at accepted
          cases accepted
    refine continues.step written.step (continues.tracks.outboxWritten written ?_)
    obtain ⟨row, -, -, ⟨-, rfl, -⟩ | ⟨-, rfl⟩⟩ := advance_ok committed
    · exact continues.tracks.outbox
    · intro version member same
      obtain ⟨earlier, earlierMember, rfl⟩ := List.mem_map.mp member
      split at same
      · rename_i matched
        rw [if_pos matched]
        exact (continues.tracks.outbox earlier earlierMember same).advanced used
      · rename_i other
        rw [if_neg other]
        exact continues.tracks.outbox earlier earlierMember same
  · intro session continues
    exact continues

/-- The row of the operation, in a version that has left `accepted`. -/
def Routed (request : SendRequest) (outbox : CommunicationOutboxRecord)
    (session : CommunicationSession) : Prop :=
  ∃ row ∈ session.outbox, OutboxSucceeds row outbox ∧ row.state ≠ .accepted ∧
    outbox.sendOperationId = request.sendOperationId

theorem route_meets :
    Meets (Continues request place messages proven start) (route request nowText)
      (fun waiting session => Continues request place messages proven start session ∧
        Routed request waiting.1 session)
      (Continues request place messages proven start) := by
  refine (Meets.check (fun _ held _ _ => held) fun _ held => held :
    Meets _ (admittedLease request) (fun _ =>
      Continues request place messages proven start) _).bind fun lease => ?_
  have read : Meets (Continues request place messages proven start) (admittedOutbox request)
      (fun outbox session => Continues request place messages proven start session ∧
        outbox ∈ session.outbox ∧ outbox.sendOperationId = request.sendOperationId)
      (Continues request place messages proven start) := by
    apply Meets.check
    · intro session continues outbox viewed
      split at viewed
      · cases viewed
      · rename_i row found
        cases viewed
        exact ⟨continues, fetch_mem found, fetch_key found⟩
    · intro session continues
      exact continues
  refine read.bind fun outbox => ?_
  split
  · refine (settlement_meets fun _ held => held.1.tracks.sound).weaken
      (fun _ held => held) (fun _ _ held => held.1) (fun _ held => held.1) |>.bind fun _ => ?_
    have advanced : Meets
        (fun session => Continues request place messages proven start session ∧
          outbox ∈ session.outbox ∧ outbox.sendOperationId = request.sendOperationId)
        (Durable.transact (advanceCommunicationOutboxState request.sendOperationId .routing none
          none nowText))
        (fun _ session => Continues request place messages proven start session ∧
          Routed request outbox session)
        (Continues request place messages proven start) := by
      apply Meets.transact
      · rintro session ⟨continues, member, operation⟩ record next committed
        have kept := (@advance_meets request place messages proven start nowText .routing none
          (.inl ⟨rfl, rfl⟩)).returns session continues record next
            (Durable.transact_run_ok committed)
        refine ⟨kept, ?_⟩
        have written := advance_written continues.tracks.sound (.inl rfl) committed fun _ => rfl
        obtain ⟨row, rowMember, key, moved⟩ := advance_ok committed
        have same : row = outbox := eq_of_key_eq continues.tracks.sound.operations rowMember
          member (key.trans operation.symm)
        subst same
        obtain ⟨version, versionMember, succeeds⟩ := written.step.succeeds.outbox row rowMember
        refine ⟨version, versionMember, succeeds, ?_, operation⟩
        have versionFound := fetchOutbox_of_mem kept.tracks.sound versionMember
        intro accepted
        rcases moved with ⟨routing, rfl, -⟩ | ⟨-, rfl⟩
        · have equal := eq_of_key_eq continues.tracks.sound.operations versionMember rowMember
            succeeds.sendOperationId
          rw [equal, routing] at accepted
          cases accepted
        · obtain ⟨earlier, earlierMember, rfl⟩ := List.mem_map.mp versionMember
          split at accepted
          · cases accepted
          · rename_i other
            rw [if_neg other] at succeeds
            have equal := eq_of_key_eq continues.tracks.sound.operations earlierMember rowMember
              succeeds.sendOperationId
            subst equal
            simp [operation] at other
      · rintro session ⟨continues, -⟩
        exact continues
    refine advanced.bind fun _ => Meets.pure fun _ held => held
  · rename_i routed
    apply Meets.pure
    rintro session ⟨continues, member, operation⟩
    exact ⟨continues, outbox, member, .refl outbox, routed, operation⟩

theorem receive_meets {waiting : CommunicationOutboxRecord × SessionOperationLease}
    {receipt : CommunicationReceipt} (given : proven receipt.json) :
    Keeps (Continues request place messages proven start)
      (receive request waiting receipt nowText) := by
  refine (Meets.check (fun _ held _ _ => held) fun _ held => held :
    Meets _ _ (fun _ => Continues request place messages proven start) _).bind fun _ => ?_
  refine (settlement_meets fun _ continues => continues.tracks.sound).bind fun _ => ?_
  refine ((advance_meets (.inr ⟨rfl, _, rfl, given⟩)).weaken (fun _ held => held.1)
    (fun _ _ held => held) fun _ held => held).bind fun _ => ?_
  exact completeLease_meets

theorem accept_meets {message : CommunicationAcceptanceRequest} {leaseId : String}
    (listed : message ∈ messages) (atTarget : message.target.place = place)
    (same : message.communicationId = request.communicationId) :
    Meets (Continues request place messages proven start) (accept message leaseId nowText)
      (fun receipt session => Continues request place messages proven start session ∧
        ∃ row ∈ session.inbox, row.communicationId = request.communicationId ∧
          receipt = row.receipt)
      (Continues request place messages proven start) := by
  refine (Meets.check (fun _ held value passed => ⟨held, passed⟩) fun _ held => held :
    Meets _ _ (fun _ session => Continues request place messages proven start session ∧
      message.payload.check = .ok ()) _).bind fun _ => ?_
  by_cases payload : message.payload.check = .ok ()
  · refine (admission_meets.weaken (fun _ held => held.1) (fun _ _ held => held.1)
      fun _ held => held).bind fun _ => ?_
    refine createLease_meets.bind fun lease => ?_
    by_cases identity : lease.operationIdentity = targetIdentity message.communicationId ∧
        lease.preimageHash = communicationPreimageHash message.target message.payload
    · refine (beginSettlement_meets.weaken (fun _ held => held.1) (fun _ _ held => held)
        fun _ held => held).bind fun _ => ?_
      refine (Meets.transact ?_ fun _ held => held.1 : Meets _ _
        (fun result session => Continues request place messages proven start session ∧
          result.1 ∈ session.inbox ∧ result.1.toInboxPreimage = message.inboxPreimage ∧
          result.1.communicationId = message.communicationId) _).bind fun result =>
            Meets.pure ?_
      · rintro session ⟨continues, held⟩ ⟨record, created⟩ next committed
        rw [identity.1, identity.2, same] at held
        obtain ⟨⟨valid, main, reply⟩, preimage, key, ⟨rfl, member⟩ | ⟨absent, rfl, rfl⟩⟩ :=
          createOrGetInbox_ok committed
        · exact ⟨continues, member, preimage, key⟩
        · refine ⟨continues.step (createOrGetInbox_step committed)
            (continues.tracks.accepted absent (.inl rfl) listed ?_ held),
            List.mem_append_right _ (List.mem_singleton_self _), rfl, rfl⟩
          exact ⟨atTarget, rfl, rfl, payload, valid, main, reply⟩
      · rintro session ⟨continues, member, preimage, key⟩
        refine ⟨continues, result.1, member, key.trans same, ?_⟩
        have source : result.1.source = message.source :=
          congrArg InboxPreimage.source preimage
        have target : result.1.target = message.target :=
          congrArg InboxPreimage.target preimage
        rw [CommunicationInboxRecord.receipt, source, target]
    · constructor
      · rintro session ⟨-, kept⟩
        exact absurd kept identity
      · rintro session ⟨-, kept⟩
        exact absurd kept identity
  · constructor
    · rintro session ⟨-, passed⟩
      exact absurd passed payload
    · rintro session ⟨-, passed⟩
      exact absurd passed payload

section Workers

variable {lease : SessionOperationLease} {communicationId : String} {task : InboxTask}

theorem target_ne_source (inbox : String)
    (target : lease.operationIdentity = targetIdentity inbox) :
    lease.operationIdentity ≠ sourceIdentity request.sendOperationId := by
  rw [target]
  exact (sourceIdentity_ne_targetIdentity _ _).symm

theorem cancelInbox_meets
    (other : lease.operationIdentity ≠ sourceIdentity request.sendOperationId) :
    Meets
      (fun session => Continues request place messages proven start session ∧
        session.node ≠ some .active)
      (cancelInbox communicationId lease nowText)
      (fun _ => Continues request place messages proven start)
      (Continues request place messages proven start) := by
  refine (Meets.transact ?_ fun _ held => held.1 : Meets _ _ (fun _ session =>
    Continues request place messages proven start session ∧ session.node ≠ some .active)
    _).bind fun _ => ?_
  · rintro session ⟨continues, inactive⟩ value next ⟨⟩
    exact ⟨continues.inboxWritten (drainInboxes_written continues.tracks.sound), inactive⟩
  refine ((leaseCurrent_meets fun _ held => held.1.tracks.sound).weaken (fun _ held => held)
    (fun _ _ held => held) fun _ held => held.1).bind fun current => ?_
  split
  · refine (leased_meets ?_ fun _ held => held.1.1 : Meets _ _ (fun _ =>
      Continues request place messages proven start) _).bind fun _ =>
        Meets.pure fun _ held => held
    rintro session ⟨⟨continues, inactive⟩, identity⟩ row control settled
    refine continues.cancelled settled inactive (.inr ?_)
    intro row member same
    rw [identity row member same]
    exact other
  · exact Meets.pure fun _ held => held.1.1

theorem inboxLease_meets {inbox : CommunicationInboxRecord} :
    Meets (Continues request place messages proven start) (inboxLease inbox)
      (fun lease session => Continues request place messages proven start session ∧
        lease.operationIdentity = targetIdentity inbox.communicationId)
      (Continues request place messages proven start) := by
  apply Meets.check
  · intro session continues lease viewed
    split at viewed
    · cases viewed
    · rename_i row found
      split at viewed
      · cases viewed
        have matched := List.find?_some found
        exact ⟨continues, of_decide_eq_true matched⟩
      · cases viewed
  · intro session continues
    exact continues

def OwnsLease (task : InboxTask) : Prop :=
  task.lease.operationIdentity = targetIdentity task.inbox.communicationId

theorem claimInbox_meets {inbox : CommunicationInboxRecord} {generation : Nat} :
    Meets (Continues request place messages proven start)
      (claimInbox place inbox generation nowText)
      (fun claimed session => Continues request place messages proven start session ∧
        ∀ task ∈ claimed, OwnsLease task)
      (Continues request place messages proven start) := by
  refine inboxLease_meets.bind fun lease => ?_
  by_cases owns : lease.operationIdentity = targetIdentity inbox.communicationId
  · refine ((settlement_meets fun _ held => held.1.tracks.sound).weaken (fun _ held => held)
      (fun _ _ held => held) fun _ held => held.1).bind fun active => ?_
    split
    · refine (Meets.transact ?_ fun _ held => held.1.1 : Meets _ _ (fun _ =>
        Continues request place messages proven start) _).bind fun _ => Meets.pure ?_
      · rintro session ⟨⟨continues, -⟩, -⟩ row next claimed
        exact continues.inboxWritten (claim_written continues.tracks.sound claimed)
      · intro session continues
        refine ⟨continues, ?_⟩
        rintro task ⟨⟩
        exact owns
    · rename_i inactive
      have cancelled := @cancelInbox_meets request place messages proven start nowText lease
        inbox.communicationId (target_ne_source _ owns)
      refine (cancelled.weaken ?_ (fun _ _ held => held) fun _ held => held).bind fun _ =>
        Meets.pure ?_
      · rintro session ⟨⟨continues, -⟩, -, node⟩
        exact ⟨continues, fun active => inactive (node.mpr active)⟩
      · intro session continues
        refine ⟨continues, ?_⟩
        rintro task ⟨⟩
  · constructor
    · rintro session ⟨-, kept⟩
      exact absurd kept owns
    · rintro session ⟨-, kept⟩
      exact absurd kept owns

theorem bindInbox_meets {binding : InboxExecutionBinding} :
    Keeps (Continues request place messages proven start) (bindInbox task binding nowText) := by
  refine (settlement_meets fun _ continues => continues.tracks.sound).bind fun _ => ?_
  refine (Meets.transact ?_ fun _ held => held.1 : Meets _ _ (fun _ =>
    Continues request place messages proven start) _).bind fun _ => ?_
  · rintro session ⟨continues, -⟩ row next marked
    exact continues.inboxWritten (markBound_written continues.tracks.sound marked)
  refine (leaseCurrent_meets fun _ continues => continues.tracks.sound).bind fun current => ?_
  split
  · exact settleCompleted_meets.weaken (fun _ held => held.1) (fun _ _ held => held)
      fun _ held => held
  · exact Meets.pure fun _ held => held.1

theorem refuseInbox_meets (owns : OwnsLease task) :
    Keeps (Continues request place messages proven start) (refuseInbox task nowText) := by
  refine (settlement_meets fun _ continues => continues.tracks.sound).bind fun active => ?_
  split
  · exact Meets.raise fun _ held => held.1
  · rename_i inactive
    have cancelled := @cancelInbox_meets request place messages proven start nowText task.lease
      task.inbox.communicationId (target_ne_source _ owns)
    refine cancelled.weaken ?_ (fun _ _ held => held) fun _ held => held
    rintro session ⟨continues, -, node⟩
    exact ⟨continues, fun active => inactive (node.mpr active)⟩

theorem failInbox_meets {message : String} :
    Keeps (Continues request place messages proven start) (failInbox task message nowText) := by
  refine (settlement_meets fun _ continues => continues.tracks.sound).bind fun _ => ?_
  refine (Meets.transact ?_ fun _ held => held.1 : Meets _ _ (fun _ =>
    Continues request place messages proven start) _).bind fun _ => Meets.pure fun _ held => held
  rintro session ⟨continues, -⟩ row next recorded
  exact continues.inboxWritten (recordFailure_written continues.tracks.sound recorded)

end Workers

section Deletion

structure Drained (request : SendRequest) (place : SessionPlace)
    (messages : List CommunicationAcceptanceRequest) (proven : String → Prop)
    (start session : CommunicationSession) : Prop where
  continues : Continues request place messages proven start session
  inactive : session.node ≠ some .active
  settled : ∀ row ∈ session.outbox, row.state.isTerminal = true

theorem Drained.shut (drained : Drained request place messages proven start session)
    {control : ControlDatabase} (fenced : control.fence = session.control.fence ∨
      ∃ generation, control.fence = some ⟨.deleting, generation⟩) :
    control.fence = session.control.fence ∨ session.node ≠ some .active ∧
      ∀ generation, control.fence ≠ some ⟨.active, generation⟩ := by
  rcases fenced with same | ⟨closed, deleting⟩
  · exact .inl same
  · refine .inr ⟨drained.inactive, ?_⟩
    intro generation active
    rw [deleting] at active
    cases active

theorem Drained.leased (drained : Drained request place messages proven start session)
    {control : ControlDatabase} (moved : ControlDatabase.LeaseStep session.control control)
    (fenced : control.fence = session.control.fence ∨
      ∃ generation, control.fence = some ⟨.deleting, generation⟩) :
    Drained request place messages proven start { session with control } where
  continues := drained.continues.step (.leased control moved (drained.shut fenced))
    (drained.continues.tracks.leased moved (drained.shut fenced)
      (fun row member unsettled => by
        rw [drained.settled row member] at unsettled
        cases unsettled)
      fun active => absurd active drained.inactive)
  inactive := drained.inactive
  settled := drained.settled

theorem cancelLease_meets {identity : String} :
    Keeps (Drained request place messages proven start) (cancelLease identity nowText) := by
  have settle : ∀ lease : SessionOperationLease,
      Keeps (Drained request place messages proven start)
        (settleLease lease "cancelled" nowText) := by
    intro lease
    refine (leased_meets ?_ fun _ held => held : Meets _ _ (fun _ =>
      Drained request place messages proven start) _).bind fun _ => Meets.pure fun _ held => held
    intro session drained row control settled
    have consistent := drained.continues.tracks.sound.leases
    have moved := ControlDatabase.settleLease_moves consistent settled
    obtain ⟨final, -, -, -, -, -, -, rfl⟩ := ControlDatabase.settleLease_ok consistent settled
    exact drained.leased moved (.inl rfl)
  refine (Meets.read fun _ held => held : Meets _ _ (fun _ =>
    Drained request place messages proven start) _).bind fun found => ?_
  split
  · exact Meets.pure fun _ held => held
  · rename_i lease
    split
    · exact Meets.pure fun _ held => held
    · split
      · refine (leased_meets ?_ fun _ held => held : Meets _ _ (fun _ =>
          Drained request place messages proven start) _).bind fun _ => settle lease
        intro session drained row control marked
        have consistent := drained.continues.tracks.sound.leases
        have moved := ControlDatabase.markLeaseSettling_moves consistent marked
        obtain ⟨-, -, -, -, -, rfl⟩ := ControlDatabase.markLeaseSettling_ok consistent marked
        exact drained.leased moved (.inl rfl)
      · exact settle lease

theorem cancelLeases_meets (leases : List SessionOperationLease) :
    Keeps (Drained request place messages proven start) (cancelLeases nowText leases) := by
  induction leases with
  | nil => exact Meets.pure fun _ held => held
  | cons lease leases ih => exact Meets.bind cancelLease_meets fun _ => ih

theorem closeSessionFence_meets {sessionId : String} :
    Keeps (Drained request place messages proven start) (closeSessionFence sessionId) := by
  refine (leased_meets ?_ fun _ held => held : Meets _ _ (fun _ =>
    Drained request place messages proven start) _).bind fun advanced => ?_
  · intro session drained moved control closed
    exact drained.leased (ControlDatabase.casFenceTransition_moves closed)
      (ControlDatabase.casFenceTransition_fence closed)
  split
  · exact Meets.pure fun _ held => held
  · exact Meets.check (fun _ held _ _ => held) fun _ held => held

theorem drainAndClose_meets {sessionId : String} {closes : Bool}
    (inactive : start.node ≠ some .active) :
    Keeps (Continues request place messages proven start)
      (drainAndClose sessionId closes nowText) := by
  have emptied : Meets (Continues request place messages proven start)
      (Durable.transact fun session =>
        .ok ((), session.drainCommunicationOutboxes nowText) : SessionProgram Unit)
      (fun _ => Drained request place messages proven start)
      (Continues request place messages proven start) := by
    refine Meets.transact ?_ fun _ held => held
    rintro session continues value next ⟨⟩
    have written := @drainOutboxes_written session nowText
    refine ⟨continues.step written.step (continues.tracks.outboxWritten written ?_), ?_,
      drainOutboxes_terminal⟩
    · intro version member same
      obtain ⟨row, rowMember, rfl⟩ := List.mem_map.mp member
      split at same
      · rename_i matched
        rw [if_pos matched]
        have frozen := continues.tracks.outbox row rowMember same
        exact ⟨frozen.atSource, frozen.sendOperationId, frozen.communicationId, frozen.preimage,
          frozen.valid, frozen.payload, frozen.operation, .inr (.inr (.inr rfl)),
          nofun, nofun, frozen.receipt⟩
      · rename_i other
        rw [if_neg other]
        exact continues.tracks.outbox row rowMember same
    · intro active
      exact inactive (continues.node.symm.trans active)
  have drains : Meets (Continues request place messages proven start) (drainSession nowText)
      (fun _ => Drained request place messages proven start)
      (Continues request place messages proven start) := by
    refine emptied.bind fun _ => ?_
    refine (Meets.transact ?_ fun _ held => held.continues : Meets _ _ (fun _ =>
      Drained request place messages proven start) _).bind fun _ => ?_
    · rintro session drained value next ⟨⟩
      have written := @drainInboxes_written session nowText drained.continues.tracks.sound none
      exact ⟨drained.continues.inboxWritten written, drained.inactive, drained.settled⟩
    refine (Meets.read fun _ held => held : Meets _ _ (fun _ =>
      Drained request place messages proven start) _).bind fun leases => ?_
    exact (cancelLeases_meets leases).weaken (fun _ held => held) (fun _ _ held => held)
      fun _ held => held.continues
  refine drains.bind fun _ => ?_
  split
  · exact closeSessionFence_meets.weaken (fun _ held => held) (fun _ _ held => held.continues)
      fun _ held => held.continues
  · exact Meets.pure fun _ held => held.continues

end Deletion

end GraphAgent.Communication
