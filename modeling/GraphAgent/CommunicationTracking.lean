import GraphAgent.CommunicationLeases

/-!
# Following one send through a session

What a session holds of one send in every reachable state: its outbox row with
the frozen preimage, the inbox rows that answer its message, and the leases that
cover them until a deletion settles them.
-/

namespace GraphAgent.Communication

open KeyedRows SessionControl CommunicationSession

structure FrozenOutbox (request : SendRequest) (place : SessionPlace) (proven : String → Prop)
    (row : CommunicationOutboxRecord) : Prop where
  atSource : place = request.source.place
  sendOperationId : row.sendOperationId = request.sendOperationId
  communicationId : row.communicationId = request.communicationId
  preimage : row.toOutboxPreimage = request.outboxPreimage row.target
  valid : validateOutbox row.toOutboxPreimage row.sendOperationId row.communicationId = .ok ()
  payload : request.payload.check = .ok ()
  operation : SessionPrograms.checkOperationId request.sendOperationId = .ok ()
  state : row.state = .accepted ∨ row.state = .routing ∨ row.state = .targetAccepted ∨
    row.state = .cancelled
  stored : row.state = .targetAccepted → row.latestReceipt ≠ none
  unaborted : row.state = .targetAccepted → row.abortReason = none
  receipt : ∀ text, row.latestReceipt = some text → proven text

structure AnswersMessage (place : SessionPlace) (session : CommunicationSession)
    (row : CommunicationInboxRecord) (message : CommunicationAcceptanceRequest) : Prop where
  atTarget : message.target.place = place
  communicationId : row.communicationId = message.communicationId
  preimage : row.toInboxPreimage = message.inboxPreimage
  payload : message.payload.check = .ok ()
  valid : validateInbox row.toInboxPreimage row.communicationId = .ok ()
  mainThread : session.checkMainThread row.target = .ok ()
  reply : session.proveInboxReply row.toInboxPreimage = .ok ()

structure Tracks (request : SendRequest) (place : SessionPlace)
    (messages : List CommunicationAcceptanceRequest) (proven : String → Prop)
    (session : CommunicationSession) : Prop where
  sound : session.Sound
  outbox : ∀ row ∈ session.outbox,
    row.sendOperationId = request.sendOperationId ∨
      row.communicationId = request.communicationId →
    FrozenOutbox request place proven row
  inbox : ∀ row ∈ session.inbox, row.communicationId = request.communicationId →
    ∃ message ∈ messages, AnswersMessage place session row message
  sourceHeld : ∀ row ∈ session.outbox, row.sendOperationId = request.sendOperationId →
    row.state.isTerminal = false →
    session.control.LeaseHeld (sourceIdentity request.sendOperationId) row.payloadHash
  targetHeld : ∀ row ∈ session.inbox, row.communicationId = request.communicationId →
    session.node = some .active →
    session.control.LeaseHeld (targetIdentity request.communicationId) row.payloadHash

theorem sourceIdentity_ne_targetIdentity (sendOperationId communicationId : String) :
    sourceIdentity sendOperationId ≠ targetIdentity communicationId := by
  intro same
  unfold sourceIdentity targetIdentity at same
  have lists := String.ext_iff.mp same
  rw [String.toList_append, String.toList_append] at lists
  have source : "communication-source|".toList =
      "communication-".toList ++ 's' :: "ource|".toList := rfl
  have target : "communication-target|".toList =
      "communication-".toList ++ 't' :: "arget|".toList := rfl
  rw [source, target, List.append_assoc, List.append_assoc] at lists
  have rest := List.append_cancel_left lists
  rw [List.cons_append, List.cons_append] at rest
  injection rest with first
  exact absurd first (by decide)

section Later

variable {session next : CommunicationSession}

theorem fetchOutbox_of_mem (sound : session.Sound) {row : CommunicationOutboxRecord}
    (member : row ∈ session.outbox) :
    session.fetchOutboxByOperation row.sendOperationId = some row :=
  fetch_of_mem sound.operations member

theorem checkMainThread_ok {target : GlobalThreadAddress}
    (checked : session.checkMainThread target = .ok ()) :
    session.mainThreads = [target.threadId] := by
  unfold checkMainThread at checked
  split at checked
  · rename_i main listed
    have same := refuseUnless_ok checked
    rw [listed, of_decide_eq_true same]
  · cases checked

theorem checkMainThread_of_eq {target : GlobalThreadAddress}
    (only : session.mainThreads = [target.threadId]) :
    session.checkMainThread target = .ok () := by
  unfold checkMainThread
  rw [only]
  exact refuseUnless_of_true (decide_eq_true rfl)

theorem proveInboxReply_later (later : next.Succeeds session) (nextSound : next.Sound)
    {preimage : InboxPreimage} (proved : session.proveInboxReply preimage = .ok ()) :
    next.proveInboxReply preimage = .ok () := by
  unfold proveInboxReply at proved ⊢
  split
  · rename_i reply
    rw [if_pos reply] at proved
    split at proved
    · cases proved
    · rename_i answered found
      obtain ⟨version, member, succeeds⟩ := later.outbox answered (fetch_mem found)
      have key : version.communicationId = preimage.replyToCommunicationId.getD "None" :=
        succeeds.communicationId.trans (fetch_key found)
      have present : next.fetchOutboxByCommunication
          (preimage.replyToCommunicationId.getD "None") = some version :=
        key ▸ fetch_of_mem nextSound.communications member
      have direction := of_decide_eq_true (refuseUnless_ok proved)
      have target : version.target = answered.target :=
        congrArg OutboxPreimage.target succeeds.preimage
      have source : version.source = answered.source :=
        congrArg OutboxPreimage.source succeeds.preimage
      rw [present]
      exact refuseUnless_of_true
        (decide_eq_true ⟨target.trans direction.1, source.trans direction.2⟩)
  · rfl

variable {place : SessionPlace} {row version : CommunicationInboxRecord}
  {message : CommunicationAcceptanceRequest}

theorem AnswersMessage.later (answers : AnswersMessage place session row message)
    (later : next.Succeeds session) (nextSound : next.Sound)
    (preimage : version.toInboxPreimage = row.toInboxPreimage)
    (communicationId : version.communicationId = row.communicationId) :
    AnswersMessage place next version message where
  atTarget := answers.atTarget
  communicationId := communicationId.trans answers.communicationId
  preimage := preimage.trans answers.preimage
  payload := answers.payload
  valid := by
    rw [preimage, communicationId]
    exact answers.valid
  mainThread := by
    have target : version.target = row.target := congrArg InboxPreimage.target preimage
    apply checkMainThread_of_eq
    rw [later.mainThreads, target]
    exact checkMainThread_ok answers.mainThread
  reply := by
    rw [preimage]
    exact proveInboxReply_later later nextSound answers.reply

end Later

namespace Tracks

variable {request : SendRequest} {place : SessionPlace}
  {messages : List CommunicationAcceptanceRequest} {proven : String → Prop}
  {session next : CommunicationSession}

theorem leased (tracks : Tracks request place messages proven session)
    {control : ControlDatabase} (moved : ControlDatabase.LeaseStep session.control control)
    (fenced : control.fence = session.control.fence ∨ session.node ≠ some .active ∧
      ∀ generation, control.fence ≠ some ⟨.active, generation⟩)
    (source : ∀ row ∈ session.outbox, row.state.isTerminal = false → ∀ hash,
      session.control.LeaseHeld (sourceIdentity request.sendOperationId) hash →
      control.LeaseHeld (sourceIdentity request.sendOperationId) hash)
    (target : session.node = some .active → ∀ hash,
      session.control.LeaseHeld (targetIdentity request.communicationId) hash →
      control.LeaseHeld (targetIdentity request.communicationId) hash) :
    Tracks request place messages proven { session with control } where
  sound := (Step.leased control moved fenced).sound tracks.sound
  outbox := tracks.outbox
  inbox := by
    intro row member same
    have step : Step session { session with control } := .leased control moved fenced
    obtain ⟨message, listed, answers⟩ := tracks.inbox row member same
    exact ⟨message, listed, answers.later step.succeeds (step.sound tracks.sound) rfl rfl⟩
  sourceHeld := fun row member same unsettled =>
    source row member unsettled _ (tracks.sourceHeld row member same unsettled)
  targetHeld := fun row member same active =>
    target active _ (tracks.targetHeld row member same active)

theorem inboxWritten (tracks : Tracks request place messages proven session)
    (written : InboxWritten session next) : Tracks request place messages proven next := by
  have step := written.step
  obtain ⟨matching, change, succeeds, shape, rfl⟩ := written
  have earlier : ∀ version ∈ (session.updateInbox matching change).inbox,
      ∃ row ∈ session.inbox, InboxSucceeds version row := by
    intro version member
    obtain ⟨row, rowMember, rfl⟩ := List.mem_map.mp member
    refine ⟨row, rowMember, ?_⟩
    split
    · rename_i matched
      exact succeeds row rowMember matched
    · exact .refl row
  refine ⟨step.sound tracks.sound, tracks.outbox, ?_, tracks.sourceHeld, ?_⟩
  · intro version member same
    obtain ⟨row, rowMember, later⟩ := earlier version member
    obtain ⟨message, listed, answers⟩ :=
      tracks.inbox row rowMember (later.communicationId.symm.trans same)
    exact ⟨message, listed, answers.later step.succeeds (step.sound tracks.sound)
      later.preimage later.communicationId⟩
  · intro version member same active
    obtain ⟨row, rowMember, later⟩ := earlier version member
    have hash : version.payloadHash = row.payloadHash :=
      congrArg InboxPreimage.payloadHash later.preimage
    rw [hash]
    exact tracks.targetHeld row rowMember (later.communicationId.symm.trans same) active

theorem outboxWritten (tracks : Tracks request place messages proven session)
    (written : OutboxWritten session next)
    (frozen : ∀ row ∈ next.outbox, row.sendOperationId = request.sendOperationId ∨
      row.communicationId = request.communicationId → FrozenOutbox request place proven row) :
    Tracks request place messages proven next := by
  have step := written.step
  obtain ⟨matching, change, succeeds, shape, rfl⟩ := written
  refine ⟨step.sound tracks.sound, frozen, ?_, ?_, tracks.targetHeld⟩
  · intro row member same
    obtain ⟨message, listed, answers⟩ := tracks.inbox row member same
    exact ⟨message, listed, answers.later step.succeeds (step.sound tracks.sound) rfl rfl⟩
  · intro version member same unsettled
    obtain ⟨row, rowMember, rfl⟩ := List.mem_map.mp member
    split at same
    · rename_i matched
      have later := succeeds row rowMember matched
      have hash : (change row).payloadHash = row.payloadHash :=
        congrArg OutboxPreimage.payloadHash later.preimage
      rw [if_pos matched] at unsettled ⊢
      rw [hash]
      apply tracks.sourceHeld row rowMember (later.sendOperationId.symm.trans same)
      rw [← Bool.not_eq_true]
      intro terminal
      rw [later.final terminal, terminal] at unsettled
      cases unsettled
    · rename_i other
      rw [if_neg other] at unsettled ⊢
      exact tracks.sourceHeld row rowMember same unsettled

theorem sent (tracks : Tracks request place messages proven session)
    {row : CommunicationOutboxRecord}
    (newOperation : session.fetchOutboxByOperation row.sendOperationId = none)
    (newCommunication : session.fetchOutboxByCommunication row.communicationId = none)
    (shape : OutboxShape row) (frozen : FrozenOutbox request place proven row)
    (held : session.control.LeaseHeld (sourceIdentity request.sendOperationId)
      row.payloadHash) :
    Tracks request place messages proven
      { session with outbox := session.outbox ++ [row] } := by
  have step : Step session _ := .sent row newOperation newCommunication shape
  refine ⟨step.sound tracks.sound, ?_, ?_, ?_, tracks.targetHeld⟩
  · intro version member same
    rcases List.mem_append.mp member with before | single
    · exact tracks.outbox version before same
    · rw [List.mem_singleton.mp single]
      exact frozen
  · intro version member same
    obtain ⟨message, listed, answers⟩ := tracks.inbox version member same
    exact ⟨message, listed, answers.later step.succeeds (step.sound tracks.sound) rfl rfl⟩
  · intro version member same unsettled
    rcases List.mem_append.mp member with before | single
    · exact tracks.sourceHeld version before same unsettled
    · rw [List.mem_singleton.mp single]
      exact held

theorem accepted (tracks : Tracks request place messages proven session)
    {row : CommunicationInboxRecord}
    (newCommunication : session.fetchInbox row.communicationId = none) (shape : InboxShape row)
    {message : CommunicationAcceptanceRequest} (listed : message ∈ messages)
    (answers : AnswersMessage place session row message)
    (held : session.control.LeaseHeld (targetIdentity request.communicationId)
      row.payloadHash) :
    Tracks request place messages proven { session with inbox := session.inbox ++ [row] } := by
  have step : Step session _ := .accepted row newCommunication shape
  have sound := step.sound tracks.sound
  refine ⟨sound, tracks.outbox, ?_, tracks.sourceHeld, ?_⟩
  · intro version member same
    rcases List.mem_append.mp member with before | single
    · obtain ⟨earlier, earlierListed, earlierAnswers⟩ := tracks.inbox version before same
      exact ⟨earlier, earlierListed, earlierAnswers.later step.succeeds sound rfl rfl⟩
    · rw [List.mem_singleton.mp single]
      exact ⟨message, listed, answers.later step.succeeds sound rfl rfl⟩
  · intro version member same active
    rcases List.mem_append.mp member with before | single
    · exact tracks.targetHeld version before same active
    · rw [List.mem_singleton.mp single]
      exact held

theorem deleted (tracks : Tracks request place messages proven session)
    {node : Option Catalog.NodeState} (inactive : node ≠ some .active)
    (closed : node = none → ∀ generation, session.control.fence ≠ some ⟨.active, generation⟩) :
    Tracks request place messages proven { session with node } where
  sound := { tracks.sound with opened := fun active => absurd active inactive, closed := closed }
  outbox := tracks.outbox
  inbox := by
    intro row member same
    obtain ⟨message, listed, answers⟩ := tracks.inbox row member same
    exact ⟨message, listed, ⟨answers.atTarget, answers.communicationId, answers.preimage,
      answers.payload, answers.valid, answers.mainThread, answers.reply⟩⟩
  sourceHeld := tracks.sourceHeld
  targetHeld := fun _ _ _ active => absurd active inactive

theorem weaken (tracks : Tracks request place messages proven session)
    {more : List CommunicationAcceptanceRequest} {given : String → Prop}
    (messages : messages ⊆ more) (proven : ∀ text, proven text → given text) :
    Tracks request place more given session where
  sound := tracks.sound
  outbox := fun row member same =>
    { tracks.outbox row member same with
      receipt := fun text held => proven text ((tracks.outbox row member same).receipt text held) }
  inbox := by
    intro row member same
    obtain ⟨message, listed, answers⟩ := tracks.inbox row member same
    exact ⟨message, messages listed, answers⟩
  sourceHeld := tracks.sourceHeld
  targetHeld := tracks.targetHeld

end Tracks

end GraphAgent.Communication
