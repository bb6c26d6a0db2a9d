import GraphAgent.CommunicationRuns

/-!
# Retrying a send

The uninterrupted retry of a send whose message was accepted, evaluated block by
block: it gives the receipt of the one inbox row exactly while the target still
admits work and the outbox row has not been drained.
-/

namespace GraphAgent

namespace SessionControl

namespace ControlDatabase

variable {database : ControlDatabase} {leaseId nowText : String}
  {lease : SessionOperationLease}

theorem settleLease_of_mem (consistent : database.Consistent) (member : lease ∈ database.leases)
    (settling : lease.state = .settling) :
    ∃ settled control, database.settleLease lease.leaseId lease.fencingToken "completed" nowText =
      .ok (settled, control) := by
  have known : LeaseState.terminal? "completed" = some .completed := by decide
  unfold settleLease
  rw [known]
  refine ⟨_, _, compareAndSet_allowed consistent.leaseIds ?_ (consistent.leaseRow_of_mem member)
    ?_⟩
  · intro row
    rfl
  · simp [settling]

end ControlDatabase

end SessionControl

namespace Communication

open Durable Epoch KeyedRows SessionControl Transaction CommunicationSession SessionPrograms

theorem isHexDigest_sha256Hex (text : String) : isHexDigest (sha256Hex text).toList = true := by
  have lower : ∀ char ∈ Sha256.hexDigits, isLowerHex char = true :=
    List.all_eq_true.mp (by decide : Sha256.hexDigits.all isLowerHex = true)
  rw [sha256Hex, String.toList_ofList, isHexDigest, Bool.and_eq_true]
  constructor
  · simp [Sha256.length_hexdigest]
  · rw [List.all_eq_true]
    intro char member
    exact lower char (Sha256.mem_hexDigits_of_mem_hexdigest member)

theorem validate_ok {request : LeaseRequest} {kind : LeaseKind}
    (known : LeaseKind.ofText? request.operationKind = some kind)
    (named : request.operationIdentity ≠ "")
    (digest : isHexDigest request.preimageHash.toList = true)
    (unreferenced : request.recoveryRef = none) : request.validate = .ok kind := by
  unfold LeaseRequest.validate
  rw [known]
  simp [named, digest, unreferenced]

theorem append_ne_empty {first rest : String} {char : Char} {chars : List Char}
    (starts : first.toList = char :: chars) : first ++ rest ≠ "" := by
  intro empty
  have lists := String.ext_iff.mp empty
  rw [String.toList_append, starts] at lists
  exact List.cons_ne_nil _ _ lists

theorem sourceLease_validate (request : SendRequest) (target : GlobalThreadAddress) :
    (sourceLease request target).validate = .ok .communicationSource := by
  have named : sourceIdentity request.sendOperationId ≠ "" :=
    append_ne_empty (show _ = 'c' :: "ommunication-source|".toList from rfl)
  have known : LeaseKind.ofText? "communication_source" = some .communicationSource := by decide
  exact validate_ok known named (isHexDigest_sha256Hex _) rfl

theorem targetLease_validate (message : CommunicationAcceptanceRequest) :
    (targetLease message).validate = .ok .communicationTarget := by
  have named : targetIdentity message.communicationId ≠ "" :=
    append_ne_empty (show _ = 'c' :: "ommunication-target|".toList from rfl)
  have known : LeaseKind.ofText? "communication_target" = some .communicationTarget := by decide
  exact validate_ok known named (isHexDigest_sha256Hex _) rfl

section Session

variable {session : CommunicationSession} {lease : SessionOperationLease}
  {sessionId nowText : String}

theorem findLease_of_mem (sound : session.Sound) (member : lease ∈ session.control.leases) :
    session.findLeaseByOperation lease.operationIdentity = some lease := by
  have present : (session.findLeaseByOperation lease.operationIdentity).isSome := by
    rw [findLeaseByOperation, List.find?_isSome]
    exact ⟨lease, List.mem_reverse.mpr member, by simp⟩
  obtain ⟨row, found⟩ := Option.isSome_iff_exists.mp present
  have matched := List.find?_some found
  have rowMember := List.mem_reverse.mp (List.mem_of_find?_eq_some found)
  rw [found, sound.leases.eq_of_identity rowMember member (of_decide_eq_true matched)]

theorem leaseCurrent_run (sound : session.Sound) (member : lease ∈ session.control.leases)
    (held : lease.state = .settling ∨ lease.state = .completed) :
    leaseCurrent lease session = (.ok lease, session) := by
  have accepted := ControlDatabase.assertLeaseCurrent_of_mem sound.leases member held
  simp only [leaseCurrent, check_run, accepted]

theorem settlement_run (sound : session.Sound) (member : lease ∈ session.control.leases)
    (held : lease.state = .settling ∨ lease.state = .completed)
    (fence : session.control.fence = some ⟨.active, lease.capturedLifecycleGeneration⟩) :
    ∃ active, sessionLeaseSettlement sessionId lease session = (.ok active, session) := by
  cases node : session.node with
  | none => exact absurd fence (sound.closed node _)
  | some state =>
    refine ⟨state = .active, ?_⟩
    have scope : sessionWriteScope sessionId session = (.ok state, session) := by
      simp only [sessionWriteScope, check_run, node]
    have open_ : fenceCurrent sessionId lease session = (.ok (), session) := by
      have read : session.control.readFenceRow =
          .ok ⟨.active, lease.capturedLifecycleGeneration⟩ := by
        rw [ControlDatabase.readFenceRow, fence]
      unfold fenceCurrent
      rw [check_run, read]
      dsimp only
      rw [refuseUnless_of_true (decide_eq_true rfl)]
    unfold sessionLeaseSettlement
    rw [bind_run_ok scope, bind_run_ok (leaseCurrent_run sound member held), bind_run_ok open_]
    rfl

theorem beginSettlement_run (held : lease.state = .settling ∨ lease.state = .completed) :
    beginSettlement lease nowText session = (.ok (), session) := by
  have inactive : ¬lease.state = .active := by
    intro active
    rcases held with settling | completed
    · rw [active] at settling
      cases settling
    · rw [active] at completed
      cases completed
  rw [beginSettlement, if_neg inactive, if_pos held]
  rfl

theorem createLease_run (sound : session.Sound) (member : lease ∈ session.control.leases)
    (fence : session.control.fence = some ⟨.active, lease.capturedLifecycleGeneration⟩)
    {request : LeaseRequest} {kind : LeaseKind} {leaseId : String}
    (valid : request.validate = .ok kind)
    (identity : request.operationIdentity = lease.operationIdentity)
    (hash : request.preimageHash = lease.preimageHash)
    (unexpected : request.expectedGeneration = none) :
    leased (fun control => control.createOrGetLease request leaseId nowText) session =
      (.ok lease, session) := by
  have again := (@ControlDatabase.createOrGetLease_of_mem session.control leaseId nowText lease
    sound.leases member _ fence rfl request kind valid identity
    (by rw [unexpected]; simp)).1 hash
  apply transact_run_ok
  simp only [onLeases, again]

theorem completeLease_run (sound : session.Sound) (member : lease ∈ session.control.leases)
    (held : lease.state = .settling ∨ lease.state = .completed) :
    ∃ next, completeLease lease nowText session = (.ok (), next) := by
  unfold completeLease
  rw [bind_run_ok (leaseCurrent_run sound member held)]
  split
  · exact ⟨session, rfl⟩
  · rename_i incomplete
    have settling : lease.state = .settling := held.resolve_right incomplete
    obtain ⟨settled, control, committed⟩ :=
      @ControlDatabase.settleLease_of_mem session.control nowText lease sound.leases member
        settling
    have run : leased (fun control => control.settleLease lease.leaseId lease.fencingToken
        "completed" nowText) session = (.ok settled, { session with control }) := by
      apply transact_run_ok
      simp only [onLeases, committed]
    refine ⟨{ session with control }, ?_⟩
    unfold settleLease
    rw [bind_run_ok run]
    rfl

end Session

namespace CommunicationSystem

variable {request : SendRequest} {system : CommunicationSystem}

theorem Delivery.outbox_unique (delivery : system.Delivery request)
    {first second : CommunicationOutboxRecord} {place : SessionPlace}
    (firstMember : first ∈ (system.sessions place).outbox)
    (secondMember : second ∈ (system.sessions place).outbox)
    (same : first.sendOperationId = second.sendOperationId) : first = second :=
  eq_of_key_eq (delivery.tracks place).sound.operations firstMember secondMember same

theorem Delivery.answers (delivery : system.Delivery request) {place : SessionPlace}
    {row : CommunicationInboxRecord} (member : row ∈ (system.sessions place).inbox)
    (same : row.communicationId = request.communicationId) :
    ∃ sent ∈ (system.sessions request.source.place).outbox,
      sent.sendOperationId = request.sendOperationId ∧ sent.state ≠ .accepted ∧
        AnswersMessage place (system.sessions place) row (request.acceptance sent) := by
  obtain ⟨message, listed, answers⟩ := (delivery.tracks place).inbox row member same
  obtain ⟨sent, sentMember, operation, left, rfl⟩ := delivery.messages message listed
  exact ⟨sent, sentMember, operation, left, answers⟩

theorem Delivery.inbox_unique (delivery : system.Delivery request)
    {firstPlace secondPlace : SessionPlace} {first second : CommunicationInboxRecord}
    (firstMember : first ∈ (system.sessions firstPlace).inbox)
    (secondMember : second ∈ (system.sessions secondPlace).inbox)
    (firstSame : first.communicationId = request.communicationId)
    (secondSame : second.communicationId = request.communicationId) :
    firstPlace = secondPlace ∧ first = second := by
  obtain ⟨sent, sentMember, sentOperation, -, firstAnswers⟩ :=
    delivery.answers firstMember firstSame
  obtain ⟨other, otherMember, otherOperation, -, secondAnswers⟩ :=
    delivery.answers secondMember secondSame
  have same : sent = other :=
    delivery.outbox_unique sentMember otherMember (sentOperation.trans otherOperation.symm)
  subst same
  have place : firstPlace = secondPlace :=
    firstAnswers.atTarget.symm.trans secondAnswers.atTarget
  subst place
  exact ⟨rfl, eq_of_key_eq (delivery.tracks firstPlace).sound.inboxes firstMember secondMember
    (firstSame.trans secondSame.symm)⟩

section Retry

variable {sent : CommunicationOutboxRecord} {lease : SessionOperationLease} {attempt : Attempt}
  {session : CommunicationSession} {proven : String → Prop}
  {messages : List CommunicationAcceptanceRequest} {place : SessionPlace}

theorem admitSend_run (sound : session.Sound) (member : sent ∈ session.outbox)
    (frozen : FrozenOutbox request place proven sent) (leaseMember : lease ∈ session.control.leases)
    (identity : lease.operationIdentity = sourceIdentity request.sendOperationId)
    (hash : lease.preimageHash = sent.payloadHash)
    (held : lease.state = .settling ∨ lease.state = .completed)
    (fence : session.control.fence = some ⟨.active, lease.capturedLifecycleGeneration⟩) :
    admitSend request attempt session = (.ok (), session) := by
  have found : session.fetchOutboxByOperation request.sendOperationId = some sent :=
    frozen.sendOperationId ▸ fetchOutbox_of_mem sound member
  have reference : sent.targetRef = request.targetRef :=
    congrArg OutboxPreimage.targetRef frozen.preimage
  have payloadHash : sent.payloadHash =
      communicationPreimageHash sent.target request.payload :=
    congrArg OutboxPreimage.payloadHash frozen.preimage
  have target : sendTarget request attempt session = (.ok sent.target, session) := by
    simp only [sendTarget, check_run, found, if_pos reference]
  have prior : session.findLeaseByOperation (sourceIdentity request.sendOperationId) =
      some lease := identity ▸ findLease_of_mem sound leaseMember
  have scope : sendScope request session = (.ok (), session) := by
    obtain ⟨active, settled⟩ :=
      @settlement_run session lease request.source.sessionId sound leaseMember held fence
    unfold sendScope
    rw [bind_run_ok (read_run _), prior]
    dsimp only
    rw [bind_run_ok settled]
    rfl
  have again : session.createOrGetCommunicationOutbox (request.outboxPreimage sent.target)
      request.sendOperationId request.communicationId attempt.requestId attempt.nowText =
        .ok ((sent, false), session) := by
    rw [← frozen.preimage, ← frozen.sendOperationId, ← frozen.communicationId]
    exact createOrGetOutbox_again sound member frozen.valid
  have payload : (Durable.check fun _ => request.payload.check :
      SessionProgram Unit) session = (.ok (), session) := by
    rw [check_run, frozen.payload]
  have operation : (Durable.check fun _ => checkOperationId request.sendOperationId :
      SessionProgram Unit) session = (.ok (), session) := by
    rw [check_run, frozen.operation]
  unfold admitSend
  rw [bind_run_ok payload, bind_run_ok target, bind_run_ok operation, bind_run_ok scope,
    bind_run_ok (createLease_run sound leaseMember fence (sourceLease_validate request sent.target)
      identity.symm (payloadHash.symm.trans hash.symm) rfl),
    bind_run_ok (beginSettlement_run held), bind_run_ok (transact_run_ok again)]
  rfl

theorem route_run (sound : session.Sound) (member : sent ∈ session.outbox)
    (operation : sent.sendOperationId = request.sendOperationId)
    (left : sent.state ≠ .accepted) (leaseMember : lease ∈ session.control.leases)
    (identity : lease.operationIdentity = sourceIdentity request.sendOperationId)
    {nowText : String} :
    route request nowText session = (.ok (sent, lease), session) := by
  have found : session.fetchOutboxByOperation request.sendOperationId = some sent :=
    operation ▸ fetchOutbox_of_mem sound member
  have prior : session.findLeaseByOperation (sourceIdentity request.sendOperationId) =
      some lease := identity ▸ findLease_of_mem sound leaseMember
  have leaseRead : admittedLease request session = (.ok lease, session) := by
    simp only [admittedLease, check_run, prior]
  have outboxRead : admittedOutbox request session = (.ok sent, session) := by
    simp only [admittedOutbox, check_run, found]
  unfold route
  rw [bind_run_ok leaseRead, bind_run_ok outboxRead, if_neg left]
  rfl

theorem accept_run (sound : session.Sound) {row : CommunicationInboxRecord}
    {message : CommunicationAcceptanceRequest} (member : row ∈ session.inbox)
    (answers : AnswersMessage place session row message) (active : session.node = some .active)
    (held : session.control.LeaseHeld (targetIdentity message.communicationId) row.payloadHash)
    {leaseId nowText : String} :
    accept message leaseId nowText session = (.ok row.receipt, session) := by
  obtain ⟨lease, leaseMember, identity, hash, state, fence⟩ := held
  have payloadHash : row.payloadHash =
      communicationPreimageHash message.target message.payload :=
    congrArg InboxPreimage.payloadHash answers.preimage
  have source : row.source = message.source := congrArg InboxPreimage.source answers.preimage
  have target : row.target = message.target := congrArg InboxPreimage.target answers.preimage
  have payload : (Durable.check fun _ => message.payload.check :
      SessionProgram Unit) session = (.ok (), session) := by
    rw [check_run, answers.payload]
  have admitted : sessionWriteAdmission message.target.sessionId session =
      (.ok (), session) := by
    have scope : sessionWriteScope message.target.sessionId session =
        (.ok .active, session) := by
      simp only [sessionWriteScope, check_run, active]
    unfold sessionWriteAdmission
    rw [bind_run_ok scope, if_pos rfl]
    rfl
  have again : session.createOrGetCommunicationInbox message.inboxPreimage
      message.communicationId message.requestId nowText = .ok ((row, false), session) := by
    rw [← answers.preimage, ← answers.communicationId]
    exact createOrGetInbox_again sound member answers.valid answers.mainThread answers.reply
  unfold accept
  rw [bind_run_ok payload, bind_run_ok admitted,
    bind_run_ok (createLease_run sound leaseMember fence (targetLease_validate message)
      identity.symm (payloadHash.symm.trans hash.symm) rfl),
    bind_run_ok (beginSettlement_run state), bind_run_ok (transact_run_ok again)]
  rw [CommunicationInboxRecord.receipt, source, target]
  rfl

theorem validateOutbox_operation {preimage : OutboxPreimage}
    {sendOperationId communicationId : String}
    (valid : validateOutbox preimage sendOperationId communicationId = .ok ()) :
    validateCommunicationText sendOperationId "send_operation_id" = .ok () := by
  obtain ⟨-, -, rest⟩ := bind_ok valid
  obtain ⟨done, passed, -⟩ := bind_ok rest
  exact passed

theorem acceptReceipt_run (sound : session.Sound) (member : sent ∈ session.outbox)
    (frozen : FrozenOutbox request place proven sent)
    (open_ : sent.state = .routing ∨ sent.state = .targetAccepted)
    {text nowText : String}
    (repeated : sent.state = .targetAccepted → sent.latestReceipt = some text) :
    ∃ record next, session.advanceCommunicationOutboxState request.sendOperationId
      .targetAccepted (some text) none nowText = .ok (record, next) ∧ next.Sound ∧
        next.control = session.control := by
  have found : session.fetchOutboxByOperation request.sendOperationId = some sent :=
    frozen.sendOperationId ▸ fetchOutbox_of_mem sound member
  have named : validateCommunicationText request.sendOperationId "send_operation_id" = .ok () :=
    frozen.sendOperationId ▸ validateOutbox_operation frozen.valid
  have payload : checkAdvance .targetAccepted (some text) none = .ok () := by
    simp [checkAdvance, OutboxState.isSuccess, OutboxState.isFailure]
  have committed : ∃ record next, session.advanceCommunicationOutboxState
      request.sendOperationId .targetAccepted (some text) none nowText = .ok (record, next) := by
    unfold advanceCommunicationOutboxState
    rw [named, payload, found]
    rcases open_ with routing | accepted
    · have different : ¬sent.state = .targetAccepted := by
        rw [routing]
        decide
      have allowed : CommunicationSession.checkTransition sent .targetAccepted (some text) none =
          .ok () := by
        simp [CommunicationSession.checkTransition, routing, OutboxState.transitions,
          OutboxState.isSuccess]
      refine ⟨advancedOutbox sent .targetAccepted (some text) none nowText,
        session.updateOutbox
          (fun row => row.sendOperationId = request.sendOperationId && row.state = sent.state)
          fun row => advancedOutbox row .targetAccepted (some text) none nowText, ?_⟩
      change (if sent.state = .targetAccepted then _ else _) = _
      rw [if_neg different, allowed]
      rfl
    · have repeats : repeatsAdvance sent .targetAccepted (some text) none = true := by
        simp [repeatsAdvance, OutboxState.isFailure, repeated accepted, frozen.unaborted accepted]
      refine ⟨sent, session, ?_⟩
      change (if sent.state = .targetAccepted then _ else _) = _
      rw [if_pos accepted, if_pos repeats]
  obtain ⟨record, next, outcome⟩ := committed
  have written := advance_written sound (.inr rfl) outcome fun other => by cases other
  refine ⟨record, next, outcome, written.step.sound sound, ?_⟩
  obtain ⟨matching, change, -, -, rfl⟩ := written
  rfl

theorem receive_run (sound : session.Sound) (member : sent ∈ session.outbox)
    (frozen : FrozenOutbox request place proven sent)
    (open_ : sent.state = .routing ∨ sent.state = .targetAccepted)
    (leaseMember : lease ∈ session.control.leases)
    (held : lease.state = .settling ∨ lease.state = .completed)
    (fence : session.control.fence = some ⟨.active, lease.capturedLifecycleGeneration⟩)
    {receipt : CommunicationReceipt} {nowText : String}
    (checked : checkReceipt request sent receipt = .ok ())
    (repeated : sent.state = .targetAccepted → sent.latestReceipt = some receipt.json) :
    ∃ next, receive request (sent, lease) receipt nowText session = (.ok (), next) := by
  have answered : (Durable.check fun _ => checkReceipt request sent receipt :
      SessionProgram Unit) session = (.ok (), session) := by
    rw [check_run, checked]
  obtain ⟨active, settled⟩ :=
    @settlement_run session lease request.source.sessionId sound leaseMember held fence
  obtain ⟨record, advanced, outcome, advancedSound, control⟩ :=
    @acceptReceipt_run request sent session proven place sound member frozen open_ receipt.json
      nowText repeated
  obtain ⟨next, completed⟩ :=
    @completeLease_run advanced lease nowText advancedSound (control ▸ leaseMember) held
  refine ⟨next, ?_⟩
  unfold receive
  rw [bind_run_ok answered, bind_run_ok settled, bind_run_ok (transact_run_ok outcome)]
  exact completed

end Retry

section System

variable {place : SessionPlace} {row : CommunicationInboxRecord}
  {sent : CommunicationOutboxRecord} {attempt : Attempt}

theorem atSession_same {Value : Type} {program : SessionProgram Value} {value : Value}
    (returned : program (system.sessions place) = (.ok value, system.sessions place)) :
    atSession place program system = (.ok value, system) := by
  rw [atSession_apply, returned]
  simp only [write, Function.update_eq_self]

theorem checkReceipt_answers
    (answers : AnswersMessage place (system.sessions place) row (request.acceptance sent))
    (frozen : sent.toOutboxPreimage = request.outboxPreimage sent.target) :
    checkReceipt request sent row.receipt = .ok () := by
  have source : row.source = request.source := congrArg InboxPreimage.source answers.preimage
  have target : row.target = sent.target := congrArg InboxPreimage.target answers.preimage
  have hash : row.payloadHash = communicationPreimageHash sent.target request.payload :=
    congrArg InboxPreimage.payloadHash answers.preimage
  have sentHash : sent.payloadHash = communicationPreimageHash sent.target request.payload :=
    congrArg OutboxPreimage.payloadHash frozen
  apply refuseUnless_of_true
  apply decide_eq_true
  exact ⟨answers.communicationId, source, target, hash.trans sentHash.symm⟩

theorem Delivery.retry_answered (delivery : system.Delivery request)
    (member : row ∈ (system.sessions place).inbox)
    (same : row.communicationId = request.communicationId)
    (sentMember : sent ∈ (system.sessions request.source.place).outbox)
    (operation : sent.sendOperationId = request.sendOperationId)
    (active : (system.sessions place).node = some .active)
    (undrained : sent.state ≠ .cancelled) :
    (send request attempt system).1 = .ok row.receipt := by
  obtain ⟨other, otherMember, otherOperation, left, answers⟩ := delivery.answers member same
  have equal : other = sent :=
    delivery.outbox_unique otherMember sentMember (otherOperation.trans operation.symm)
  subst equal
  have sourceTracks := delivery.tracks request.source.place
  have frozen := sourceTracks.outbox other sentMember (.inl operation)
  have open_ : other.state = .routing ∨ other.state = .targetAccepted := by
    rcases frozen.state with accepted | routing | accepted | cancelled
    · exact absurd accepted left
    · exact .inl routing
    · exact .inr accepted
    · exact absurd cancelled undrained
  have unsettled : other.state.isTerminal = false := by
    rcases open_ with routing | accepted
    · rw [routing]
      rfl
    · rw [accepted]
      rfl
  obtain ⟨lease, leaseMember, identity, hash, held, fence⟩ :=
    sourceTracks.sourceHeld other sentMember operation unsettled
  have targetHeld := (delivery.tracks place).targetHeld row member same active
  have repeated : other.state = .targetAccepted →
      other.latestReceipt = some row.receipt.json := by
    intro accepted
    cases stored : other.latestReceipt with
    | none => exact absurd stored (frozen.stored accepted)
    | some text =>
      obtain ⟨holder, holderRow, holderMember, holderSame, rfl⟩ := frozen.receipt text stored
      obtain ⟨-, rfl⟩ := delivery.inbox_unique holderMember member holderSame same
      rfl
  have admitted := @admitSend_run request other lease attempt
    (system.sessions request.source.place) _ _ sourceTracks.sound sentMember frozen leaseMember
    identity hash held fence
  have routed := @route_run request other lease (system.sessions request.source.place)
    sourceTracks.sound sentMember operation left leaseMember identity attempt.nowText
  have accepted := @accept_run (system.sessions place) place (delivery.tracks place).sound row
    (request.acceptance other) member answers active targetHeld attempt.acceptanceLeaseId
    attempt.nowText
  obtain ⟨last, received⟩ := @receive_run request other lease
    (system.sessions request.source.place) _ _ sourceTracks.sound sentMember frozen open_
    leaseMember held fence row.receipt attempt.nowText
    (checkReceipt_answers answers frozen.preimage) repeated
  have target : other.target.place = place := answers.atTarget
  subst target
  unfold send
  rw [bind_run_ok (atSession_same admitted), bind_run_ok (atSession_same routed),
    bind_run_ok (atSession_same accepted)]
  rw [bind_run_ok (by rw [atSession_apply, received])]
  rfl

theorem accept_active {session next : CommunicationSession}
    {message : CommunicationAcceptanceRequest} {leaseId nowText : String}
    {receipt : CommunicationReceipt}
    (returned : accept message leaseId nowText session = (.ok receipt, next)) :
    session.node = some .active := by
  obtain ⟨done, first, checked, rest⟩ := bind_returned returned
  obtain ⟨-, rfl⟩ := Prod.mk.inj checked
  obtain ⟨done, second, admitted, -⟩ := bind_returned rest
  have passed := (@admission_meets (fun state => state = session) message.target.sessionId).returns
    session rfl done second admitted
  rw [← passed.1]
  exact passed.2

theorem receive_open {session next : CommunicationSession} (sound : session.Sound)
    {waiting : CommunicationOutboxRecord × SessionOperationLease}
    {receipt : CommunicationReceipt} {nowText : String}
    (returned : receive request waiting receipt nowText session = (.ok (), next)) :
    ∃ row ∈ session.outbox, row.sendOperationId = request.sendOperationId ∧
      row.state ≠ .cancelled := by
  obtain ⟨done, first, checked, rest⟩ := bind_returned returned
  obtain ⟨-, rfl⟩ := Prod.mk.inj checked
  obtain ⟨active, second, settled, rest⟩ := bind_returned rest
  have kept := (@settlement_meets (fun state => state = session) waiting.2
    request.source.sessionId fun _ same => same ▸ sound).returns session rfl active second settled
  obtain ⟨record, third, advanced, -⟩ := bind_returned rest
  rw [kept.1] at advanced
  obtain ⟨row, member, key, moved⟩ := advance_ok (transact_returned advanced)
  refine ⟨row, member, key, ?_⟩
  intro cancelled
  rcases moved with ⟨accepted, -⟩ | ⟨allowed, -⟩
  · rw [cancelled] at accepted
    cases accepted
  · rw [cancelled] at allowed
    cases allowed

theorem Delivery.retry_returned (delivery : system.Delivery request)
    (member : row ∈ (system.sessions place).inbox)
    (same : row.communicationId = request.communicationId)
    (sentMember : sent ∈ (system.sessions request.source.place).outbox)
    (operation : sent.sendOperationId = request.sendOperationId)
    {receipt : CommunicationReceipt}
    (returned : (send request attempt system).1 = .ok receipt) :
    receipt = row.receipt ∧ (system.sessions place).node = some .active ∧
      sent.state ≠ .cancelled := by
  obtain ⟨done, first, admitted, rest⟩ := bind_returned (Prod.ext returned rfl)
  obtain ⟨waiting, second, routed, rest⟩ := bind_returned rest
  obtain ⟨answer, third, accepted, rest⟩ := bind_returned rest
  obtain ⟨done, fourth, received, final⟩ := bind_returned rest
  cases final
  have admits : Meets
      (Continues request request.source.place system.messages (Proven request system)
        (system.sessions request.source.place)) (admitSend request attempt)
      (fun _ session => Continues request request.source.place system.messages
        (Proven request system) (system.sessions request.source.place) session ∧ True)
      (Continues request request.source.place system.messages (Proven request system)
        (system.sessions request.source.place)) :=
    (admitSend_meets rfl).weaken (fun _ held => held) (fun _ _ held => ⟨held, trivial⟩)
      fun _ held => held
  obtain ⟨⟨firstDelivery, firstLater⟩, -, firstNodes⟩ := delivery.atSession_ok admits admitted
  obtain ⟨⟨secondDelivery, secondLater⟩,
    ⟨version, versionMember, succeeds, left, frozenOperation⟩, secondNodes⟩ :=
      firstDelivery.atSession_ok route_meets routed
  have later := secondLater.trans firstLater
  -- The message goes to the target of the one outbox row, which is the place of the inbox row.
  obtain ⟨laterSent, laterMember, sentLater⟩ := (later request.source.place).outbox sent sentMember
  have sameVersion : version = laterSent := secondDelivery.outbox_unique versionMember laterMember
    ((succeeds.sendOperationId.trans frozenOperation).trans
      (sentLater.sendOperationId.trans operation).symm)
  subst sameVersion
  obtain ⟨other, otherMember, otherOperation, -, answers⟩ := delivery.answers member same
  have equal : other = sent :=
    delivery.outbox_unique otherMember sentMember (otherOperation.trans operation.symm)
  subst equal
  have waitingTarget : waiting.1.target = other.target :=
    (congrArg OutboxPreimage.target succeeds.preimage).symm.trans
      (congrArg OutboxPreimage.target sentLater.preimage)
  have target : waiting.1.target.place = place := by
    rw [waitingTarget]
    exact answers.atTarget
  subst target
  rw [atSession_apply] at accepted
  obtain ⟨acceptedRun, rfl⟩ := Prod.mk.inj accepted
  have active := accept_active (Prod.ext acceptedRun rfl)
  rw [secondNodes, firstNodes] at active
  -- With its message on the way, the target answers as it does to any delivery.
  have sending := step_follows firstDelivery (.route attempt.nowText)
  simp only [step, routed] at sending
  obtain ⟨⟨thirdDelivery, thirdLater⟩, ⟨holder, holderMember, holderSame, rfl⟩, -⟩ :=
    sending.1.atSession_ok
      (@accept_meets request waiting.1.target.place
        (request.acceptance waiting.1 :: second.messages) _
        (second.sessions waiting.1.target.place) attempt.nowText (request.acceptance waiting.1)
        attempt.acceptanceLeaseId (List.mem_cons_self ..) rfl rfl)
      (show atSession waiting.1.target.place _ _ = _ from Prod.ext acceptedRun rfl)
  have thirdFinal := thirdLater.trans sending.2 |>.trans firstLater
  obtain ⟨laterRow, laterRowMember, rowLater⟩ :=
    (thirdFinal waiting.1.target.place).inbox row member
  obtain ⟨-, sameRow⟩ := thirdDelivery.inbox_unique holderMember laterRowMember holderSame
    (rowLater.communicationId.trans same)
  subst sameRow
  refine ⟨rowLater.receipt_eq, active, ?_⟩
  rw [atSession_apply] at received
  obtain ⟨receivedRun, -⟩ := Prod.mk.inj received
  obtain ⟨stored, storedMember, storedOperation, uncancelled⟩ := receive_open
    (thirdDelivery.tracks request.source.place).sound (Prod.ext receivedRun rfl)
  obtain ⟨finalSent, finalMember, finalLater⟩ :=
    (thirdFinal request.source.place).outbox other sentMember
  have sameFinal : stored = finalSent := thirdDelivery.outbox_unique storedMember finalMember
    (storedOperation.trans (finalLater.sendOperationId.trans operation).symm)
  subst sameFinal
  intro cancelled
  rw [finalLater.final (by rw [cancelled]; rfl)] at uncancelled
  exact uncancelled cancelled

end System

end CommunicationSystem

end Communication

end GraphAgent
