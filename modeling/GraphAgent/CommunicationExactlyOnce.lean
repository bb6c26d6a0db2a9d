import GraphAgent.CommunicationRetry

/-!
# Exactly-once delivery

What every interleaving of attempts, lost and repeated messages, crashes,
workers and drains leaves true of one send, and when a retry gets its receipt.
-/

namespace GraphAgent.Communication

open Durable KeyedRows SessionControl CommunicationSession SessionPrograms

namespace CommunicationSystem

variable {request : SendRequest} {system : CommunicationSystem}

structure OneRowEach (request : SendRequest) (system : CommunicationSystem) : Prop where
  operations : ∀ place, ∀ first ∈ (system.sessions place).outbox,
    ∀ second ∈ (system.sessions place).outbox,
      first.sendOperationId = second.sendOperationId → first = second
  source : ∀ place, ∀ row ∈ (system.sessions place).outbox,
    row.sendOperationId = request.sendOperationId → place = request.source.place
  communications : ∀ place, ∀ first ∈ (system.sessions place).inbox,
    ∀ second ∈ (system.sessions place).inbox,
      first.communicationId = second.communicationId → first = second
  target : ∀ firstPlace secondPlace, ∀ first ∈ (system.sessions firstPlace).inbox,
    ∀ second ∈ (system.sessions secondPlace).inbox,
      first.communicationId = request.communicationId →
      second.communicationId = request.communicationId → firstPlace = secondPlace
  payload : ∀ place, ∀ row ∈ (system.sessions place).inbox,
    row.communicationId = request.communicationId →
    ∃ sent ∈ (system.sessions request.source.place).outbox,
      sent.sendOperationId = request.sendOperationId ∧ row.payloadHash = sent.payloadHash

structure BindsOnce (request : SendRequest) (system : CommunicationSystem) : Prop where
  superseded : ∀ task binding nowText, ∀ row ∈ (system.sessions task.place).inbox,
    row.communicationId = task.inbox.communicationId →
    row.admissionClaim ≠ some task.claim →
    (system.step request (.bind task binding nowText)).sessions = system.sessions
  binder : ∀ first ∈ system.bound, ∀ second ∈ system.bound,
    first.1.inbox.admissionId = second.1.inbox.admissionId → first.2 = second.2

def RetriesAnswered (request : SendRequest) (system : CommunicationSystem) : Prop :=
  ∀ place, ∀ row ∈ (system.sessions place).inbox,
    row.communicationId = request.communicationId →
    ∃ sent ∈ (system.sessions request.source.place).outbox,
      sent.sendOperationId = request.sendOperationId ∧
      ∀ attempt,
        ((send request attempt system).1 = .ok row.receipt ↔
          (system.sessions place).node = some .active ∧ sent.state ≠ .cancelled) ∧
        ∀ receipt, (send request attempt system).1 = .ok receipt → receipt = row.receipt

theorem Delivery.oneRowEach (delivery : system.Delivery request) : system.OneRowEach request where
  operations _ _ firstMember _ secondMember same :=
    delivery.outbox_unique firstMember secondMember same
  source place row member same := ((delivery.tracks place).outbox row member (.inl same)).atSource
  communications place _ firstMember _ secondMember same :=
    eq_of_key_eq (delivery.tracks place).sound.inboxes firstMember secondMember same
  target _ _ _ firstMember _ secondMember firstSame secondSame :=
    (delivery.inbox_unique firstMember secondMember firstSame secondSame).1
  payload := by
    intro place row member same
    obtain ⟨sent, sentMember, operation, -, answers⟩ := delivery.answers member same
    have frozen := (delivery.tracks request.source.place).outbox sent sentMember (.inl operation)
    have rowHash : row.payloadHash = communicationPreimageHash sent.target request.payload :=
      congrArg InboxPreimage.payloadHash answers.preimage
    have sentHash : sent.payloadHash = communicationPreimageHash sent.target request.payload :=
      congrArg OutboxPreimage.payloadHash frozen.preimage
    exact ⟨sent, sentMember, operation, rowHash.trans sentHash.symm⟩

theorem bindInbox_superseded {session : CommunicationSession} (sound : session.Sound)
    {task : InboxTask} {binding : InboxExecutionBinding} {nowText : String}
    {row : CommunicationInboxRecord} (member : row ∈ session.inbox)
    (same : row.communicationId = task.inbox.communicationId)
    (superseded : row.admissionClaim ≠ some task.claim) :
    (bindInbox task binding nowText session).2 = session := by
  have settles := @settlement_meets (fun state => state = session) task.lease
    task.place.sessionId fun _ equal => equal ▸ sound
  unfold bindInbox
  cases outcome : sessionLeaseSettlement task.place.sessionId task.lease session with
  | mk answer next =>
    cases answer with
    | error error =>
      rw [bind_run_error outcome]
      exact settles.raises session rfl error next outcome
    | ok active =>
      have unchanged := (settles.returns session rfl active next outcome).1
      obtain ⟨error, refused⟩ := @markBound_superseded session nowText row task.claim sound
        member binding superseded
      rw [same] at refused
      rw [bind_run_ok outcome, unchanged, bind_run_error (transact_run_error refused)]

theorem Delivery.bindsOnce (delivery : system.Delivery request) : system.BindsOnce request where
  superseded := by
    intro task binding nowText row member same superseded
    dsimp only [step]
    split
    · have kept := @bindInbox_superseded _ (delivery.tracks task.place).sound task binding nowText
        row member same superseded
      rw [CommunicationSystem.run, atSession_apply, kept]
      exact Function.update_eq_self _ _
    · rfl
  binder := by
    intro first firstListed second secondListed same
    have firstKnown := delivery.bound first firstListed
    rw [same, delivery.bound second secondListed] at firstKnown
    exact (Option.some.inj firstKnown).symm

theorem Delivery.retriesAnswered (delivery : system.Delivery request) :
    system.RetriesAnswered request := by
  intro place row member same
  obtain ⟨sent, sentMember, operation, -⟩ := delivery.answers member same
  refine ⟨sent, sentMember, operation, ?_⟩
  intro attempt
  constructor
  · constructor
    · intro returned
      exact (delivery.retry_returned member same sentMember operation returned).2
    · rintro ⟨active, undrained⟩
      exact delivery.retry_answered member same sentMember operation active undrained
  · intro receipt returned
    exact (delivery.retry_returned member same sentMember operation returned).1

theorem markDeleting_inactive (place : SessionPlace) :
    ((system.runCommands request [.markDeleting place]).sessions place).node ≠ some .active := by
  simp only [runCommands, List.foldl_cons, List.foldl_nil, step]
  split
  · rw [setNode, write_same]
    intro active
    cases active
  · assumption

theorem runCommands_append (first second : List CommunicationCommand) :
    system.runCommands request (first ++ second) =
      (system.runCommands request first).runCommands request second :=
  List.foldl_append

/-- In every run each of the two ledgers holds one row of a send, bound once, and
rows only move forward; a retry of an accepted send gets the receipt of its row
exactly while the target is not being deleted and the source has not drained the
send. -/
theorem exactlyOnceDelivery (request : SendRequest) (start : CommunicationSystem)
    (initial : start.Initial request) (earlier later : List CommunicationCommand) :
    (start.runCommands request (earlier ++ later)).OneRowEach request ∧
      (start.runCommands request (earlier ++ later)).BindsOnce request ∧
      (start.runCommands request (earlier ++ later)).Succeeds
        (start.runCommands request earlier) ∧
      (start.runCommands request (earlier ++ later)).RetriesAnswered request := by
  have before := runCommands_follows initial.delivery earlier
  have after := runCommands_follows before.1 later
  rw [runCommands_append]
  exact ⟨after.1.oneRowEach, after.1.bindsOnce, after.2, after.1.retriesAnswered⟩

/-! A send between two sessions of one workspace. -/

def asking : GlobalThreadAddress :=
  ⟨"gateway", "workspace", "ses_00000000000070008000000000000001",
    "thr_00000000000070008000000000000001"⟩

def answering : GlobalThreadAddress :=
  ⟨"gateway", "workspace", "ses_00000000000070008000000000000002",
    "thr_00000000000070008000000000000002"⟩

def question : SendRequest where
  source := asking
  sendOperationId := "operation"
  targetSessionId := answering.sessionId
  targetWorkspaceId := none
  payload := ⟨"ping", .question, none, .afterTurn⟩

def openSession (address : GlobalThreadAddress) : CommunicationSession where
  node := some .active
  mainThreads := [address.threadId]
  control := ⟨"session-control.sqlite", some ⟨.active, 1⟩, []⟩
  outbox := []
  inbox := []

def absentSession : CommunicationSession where
  node := none
  mainThreads := []
  control := ControlDatabase.fresh "session-control.sqlite"
  outbox := []
  inbox := []

def twoSessions : CommunicationSystem where
  sessions place :=
    if place = asking.place then openSession asking
    else if place = answering.place then openSession answering
    else absentSession
  jobs := []
  messages := []
  waiting := []
  receipts := []
  claimed := []
  bound := []

theorem openSession_sound (address : GlobalThreadAddress) : (openSession address).Sound where
  leases := by constructor <;> simp [openSession]
  opened _ := ⟨1, rfl⟩
  closed removed := absurd removed (by simp [openSession])
  operations := List.nodup_nil
  communications := List.nodup_nil
  inboxes := List.nodup_nil
  outboxShape _ member := absurd member List.not_mem_nil
  inboxShape _ member := absurd member List.not_mem_nil

theorem absentSession_sound : absentSession.Sound where
  leases := ControlDatabase.fresh_consistent _
  opened active := absurd active (by simp [absentSession])
  closed _ _ open_ := by simp [absentSession, ControlDatabase.fresh] at open_
  operations := List.nodup_nil
  communications := List.nodup_nil
  inboxes := List.nodup_nil
  outboxShape _ member := absurd member List.not_mem_nil
  inboxShape _ member := absurd member List.not_mem_nil

theorem twoSessions_initial : twoSessions.Initial question := by
  have each : ∀ place, (twoSessions.sessions place).Sound ∧
      (twoSessions.sessions place).outbox = [] ∧ (twoSessions.sessions place).inbox = [] := by
    intro place
    dsimp only [twoSessions]
    split
    · exact ⟨openSession_sound asking, rfl, rfl⟩
    · split
      · exact ⟨openSession_sound answering, rfl, rfl⟩
      · exact ⟨absentSession_sound, rfl, rfl⟩
  refine ⟨fun place => (each place).1, ?_, ?_, rfl, rfl, rfl, rfl, rfl⟩
  · intro place row member
    rw [(each place).2.1] at member
    cases member
  · intro place row member
    rw [(each place).2.2] at member
    cases member

def questionAttempt : Attempt :=
  ⟨"request", answering, "lease-1", "lease-2", "now"⟩

def questionMessage : CommunicationAcceptanceRequest :=
  ⟨question.communicationId, asking, answering, question.payload, "request"⟩

def acceptedQuestion : List CommunicationCommand :=
  [.admitSend questionAttempt, .route "now", .deliver questionMessage "lease-2" "now"]

theorem acceptedQuestion_row :
    ∃ row ∈ ((twoSessions.runCommands question acceptedQuestion).sessions answering.place).inbox,
      row.communicationId = question.communicationId := by
  have present : (((twoSessions.runCommands question acceptedQuestion).sessions
      answering.place).fetchInbox question.communicationId).isSome = true := by
    decide +kernel
  obtain ⟨row, found⟩ := Option.isSome_iff_exists.mp present
  exact ⟨row, fetch_mem found, fetch_key found⟩

/-- The run of the accepted question, in which both sessions stay open. -/
theorem exactlyOnceDelivery_question :
    (twoSessions.runCommands question (acceptedQuestion ++ [])).OneRowEach question ∧
      (twoSessions.runCommands question (acceptedQuestion ++ [])).BindsOnce question ∧
      (twoSessions.runCommands question (acceptedQuestion ++ [])).Succeeds
        (twoSessions.runCommands question acceptedQuestion) ∧
      (twoSessions.runCommands question (acceptedQuestion ++ [])).RetriesAnswered question :=
  exactlyOnceDelivery question twoSessions twoSessions_initial acceptedQuestion []

/-- The target accepted the question and its deletion began: no retry gets the
receipt of the row that is there. -/
theorem exactlyOnceDelivery_deleted :
    (∃ row ∈ ((twoSessions.runCommands question
        (acceptedQuestion ++ [.markDeleting answering.place])).sessions answering.place).inbox,
      row.communicationId = question.communicationId) ∧
    ∀ attempt receipt, (send question attempt (twoSessions.runCommands question
      (acceptedQuestion ++ [.markDeleting answering.place]))).1 ≠ .ok receipt := by
  have before := runCommands_follows twoSessions_initial.delivery acceptedQuestion
  have after := runCommands_follows before.1 [.markDeleting answering.place]
  rw [← runCommands_append] at after
  obtain ⟨row, member, same⟩ := acceptedQuestion_row
  obtain ⟨version, versionMember, later⟩ := (after.2 answering.place).inbox row member
  have versionSame := later.communicationId.trans same
  refine ⟨⟨version, versionMember, versionSame⟩, ?_⟩
  intro attempt receipt returned
  obtain ⟨sent, sentMember, operation, -⟩ := after.1.answers versionMember versionSame
  have active :=
    (after.1.retry_returned versionMember versionSame sentMember operation returned).2.1
  rw [runCommands_append] at active
  exact markDeleting_inactive answering.place active

end CommunicationSystem

end GraphAgent.Communication
