import GraphAgent.CommunicationBlocks

/-!
# Runs of the delivery system

The invariant that every block keeps, and the order in which the states of a run
succeed each other.  Messages, receipts and tasks that are still held always
belong to rows that are still there.
-/

namespace GraphAgent.Communication

open Durable SessionControl SessionPrograms

theorem OutboxState.left_accepted {earlier later : OutboxState}
    (forward : Relation.ReflTransGen OutboxState.Moves earlier later)
    (left : earlier ≠ .accepted) : later ≠ .accepted := by
  induction forward with
  | refl => exact left
  | @tail middle last before moves ih =>
    rintro rfl
    cases middle <;> simp [OutboxState.Moves, OutboxState.transitions] at moves

theorem OutboxSucceeds.left_accepted {later earlier : CommunicationOutboxRecord}
    (succeeds : OutboxSucceeds later earlier) (left : earlier.state ≠ .accepted) :
    later.state ≠ .accepted :=
  OutboxState.left_accepted succeeds.forward left

theorem InboxSucceeds.receipt_eq {later earlier : CommunicationInboxRecord}
    (succeeds : InboxSucceeds later earlier) : later.receipt = earlier.receipt := by
  have source := congrArg InboxPreimage.source succeeds.preimage
  have target := congrArg InboxPreimage.target succeeds.preimage
  have hash := congrArg InboxPreimage.payloadHash succeeds.preimage
  have admission := congrArg InboxPreimage.admissionId succeeds.preimage
  simp only [CommunicationInboxRecord.receipt, succeeds.communicationId, succeeds.createdAt,
    source, target, hash, admission]

namespace CommunicationSystem

variable {request : SendRequest} {system : CommunicationSystem}

def Succeeds (later earlier : CommunicationSystem) : Prop :=
  ∀ place, (later.sessions place).Succeeds (earlier.sessions place)

theorem Succeeds.refl (system : CommunicationSystem) : system.Succeeds system :=
  fun _ => .refl _

theorem Succeeds.trans {first second third : CommunicationSystem} (later : third.Succeeds second)
    (start : second.Succeeds first) : third.Succeeds first :=
  fun place => (later place).trans (start place)

def Proven (request : SendRequest) (system : CommunicationSystem) (text : String) : Prop :=
  ∃ place, ∃ row ∈ (system.sessions place).inbox,
    row.communicationId = request.communicationId ∧ text = row.receipt.json

structure Delivery (request : SendRequest) (system : CommunicationSystem) : Prop where
  tracks : ∀ place, Tracks request place system.messages (Proven request system)
    (system.sessions place)
  messages : ∀ message ∈ system.messages,
    ∃ row ∈ (system.sessions request.source.place).outbox,
      row.sendOperationId = request.sendOperationId ∧ row.state ≠ .accepted ∧
        message = request.acceptance row
  receipts : ∀ receipt ∈ system.receipts,
    ∃ place, ∃ row ∈ (system.sessions place).inbox,
      row.communicationId = request.communicationId ∧ receipt = row.receipt
  claimed : ∀ task ∈ system.claimed, OwnsLease task
  bound : ∀ entry ∈ system.bound, system.jobs.lookup entry.1.inbox.admissionId = some entry.2

structure Initial (request : SendRequest) (system : CommunicationSystem) : Prop where
  sound : ∀ place, (system.sessions place).Sound
  noOutbox : ∀ place, ∀ row ∈ (system.sessions place).outbox,
    row.sendOperationId ≠ request.sendOperationId ∧
      row.communicationId ≠ request.communicationId
  noInbox : ∀ place, ∀ row ∈ (system.sessions place).inbox,
    row.communicationId ≠ request.communicationId
  messages : system.messages = []
  waiting : system.waiting = []
  receipts : system.receipts = []
  claimed : system.claimed = []
  bound : system.bound = []

theorem Initial.delivery (initial : system.Initial request) : system.Delivery request where
  tracks place :=
    { sound := initial.sound place
      outbox := by
        rintro row member (operation | communication)
        · exact absurd operation (initial.noOutbox place row member).1
        · exact absurd communication (initial.noOutbox place row member).2
      inbox := fun row member same => absurd same (initial.noInbox place row member)
      sourceHeld := fun row member same => absurd same (initial.noOutbox place row member).1
      targetHeld := fun row member same => absurd same (initial.noInbox place row member) }
  messages := by simp [initial.messages]
  receipts := by simp [initial.receipts]
  claimed := by simp [initial.claimed]
  bound := by simp [initial.bound]

section Write

variable {place : SessionPlace} {session : CommunicationSession}

@[simp]
theorem write_same : (system.write place session).sessions place = session := by
  simp [write]

theorem write_other {other : SessionPlace} (different : other ≠ place) :
    (system.write place session).sessions other = system.sessions other := by
  simp [write, different]

theorem write_succeeds (later : session.Succeeds (system.sessions place)) :
    (system.write place session).Succeeds system := by
  intro other
  by_cases same : other = place
  · subst same
    rw [write_same]
    exact later
  · rw [write_other same]

theorem atSession_apply {Value : Type} (program : SessionProgram Value) :
    atSession place program system =
      ((program (system.sessions place)).1,
        system.write place (program (system.sessions place)).2) :=
  rfl

theorem Succeeds.proven {later : CommunicationSystem} (succeeds : later.Succeeds system)
    {text : String} (proven : Proven request system text) : Proven request later text := by
  obtain ⟨place, row, member, same, rfl⟩ := proven
  obtain ⟨version, versionMember, versionSucceeds⟩ := (succeeds place).inbox row member
  exact ⟨place, version, versionMember, versionSucceeds.communicationId.trans same,
    by rw [versionSucceeds.receipt_eq]⟩

theorem Delivery.held {later : CommunicationSystem} (delivery : system.Delivery request)
    (succeeds : later.Succeeds system) :
    (∀ message ∈ system.messages,
      ∃ row ∈ (later.sessions request.source.place).outbox,
        row.sendOperationId = request.sendOperationId ∧ row.state ≠ .accepted ∧
          message = request.acceptance row) ∧
    ∀ receipt ∈ system.receipts,
      ∃ place, ∃ row ∈ (later.sessions place).inbox,
        row.communicationId = request.communicationId ∧ receipt = row.receipt := by
  constructor
  · intro message listed
    obtain ⟨row, member, operation, left, rfl⟩ := delivery.messages message listed
    obtain ⟨version, versionMember, later⟩ :=
      (succeeds request.source.place).outbox row member
    refine ⟨version, versionMember, later.sendOperationId.trans operation,
      later.left_accepted left, ?_⟩
    have target := congrArg OutboxPreimage.target later.preimage
    simp only [SendRequest.acceptance, target, later.requestId]
  · intro receipt listed
    obtain ⟨place, row, member, same, rfl⟩ := delivery.receipts receipt listed
    obtain ⟨version, versionMember, later⟩ := (succeeds place).inbox row member
    exact ⟨place, version, versionMember, later.communicationId.trans same, later.receipt_eq.symm⟩

theorem Delivery.write (delivery : system.Delivery request)
    (tracks : Tracks request place system.messages (Proven request system) session)
    (later : session.Succeeds (system.sessions place)) :
    (system.write place session).Delivery request := by
  have succeeds := write_succeeds later
  have held := delivery.held succeeds
  refine ⟨?_, held.1, held.2, delivery.claimed, delivery.bound⟩
  intro other
  have kept : Tracks request other system.messages (Proven request system)
      ((system.write place session).sessions other) := by
    by_cases same : other = place
    · subst same
      rw [write_same]
      exact tracks
    · rw [write_other same]
      exact delivery.tracks other
  exact kept.weaken (List.Subset.refl _) fun _ proven => succeeds.proven proven

theorem Delivery.extend (delivery : system.Delivery request)
    {messages : List CommunicationAcceptanceRequest}
    {waiting : List (CommunicationOutboxRecord × SessionOperationLease)}
    {receipts : List CommunicationReceipt} {claimed : List InboxTask}
    (more : system.messages ⊆ messages)
    (sent : ∀ message ∈ messages,
      ∃ row ∈ (system.sessions request.source.place).outbox,
        row.sendOperationId = request.sendOperationId ∧ row.state ≠ .accepted ∧
          message = request.acceptance row)
    (given : ∀ receipt ∈ receipts,
      ∃ place, ∃ row ∈ (system.sessions place).inbox,
        row.communicationId = request.communicationId ∧ receipt = row.receipt)
    (owned : ∀ task ∈ claimed, OwnsLease task) :
    ({ system with messages, waiting, receipts, claimed } : CommunicationSystem).Delivery
      request where
  tracks place := (delivery.tracks place).weaken more fun _ proven => proven
  messages := sent
  receipts := given
  claimed := owned
  bound := delivery.bound

end Write

def Follows (request : SendRequest) (later earlier : CommunicationSystem) : Prop :=
  later.Delivery request ∧ later.Succeeds earlier

namespace Delivery

variable {place : SessionPlace} {Value : Type} {program : SessionProgram Value}

theorem run (delivery : system.Delivery request)
    (kept : Keeps (Continues request place system.messages (Proven request system)
      (system.sessions place)) program) :
    Follows request (system.run place program) system := by
  have continues := kept.ends (.refl (delivery.tracks place))
  exact ⟨delivery.write continues.tracks continues.later, write_succeeds continues.later⟩

theorem atSession_error {after : Value → CommunicationSession → Prop}
    (delivery : system.Delivery request)
    (meets : Meets (Continues request place system.messages (Proven request system)
      (system.sessions place)) program after
      (Continues request place system.messages (Proven request system) (system.sessions place)))
    {error : CommunicationError} {next : CommunicationSystem}
    (raised : atSession place program system = (.error error, next)) :
    Follows request next system := by
  rw [atSession_apply] at raised
  obtain ⟨outcome, rfl⟩ := Prod.mk.inj raised
  have continues := meets.raises _ (.refl (delivery.tracks place)) error _
    (Prod.ext outcome rfl)
  exact ⟨delivery.write continues.tracks continues.later, write_succeeds continues.later⟩

theorem atSession_ok {fact : Value → CommunicationSession → Prop}
    (delivery : system.Delivery request)
    (meets : Meets (Continues request place system.messages (Proven request system)
      (system.sessions place)) program
      (fun value session => Continues request place system.messages (Proven request system)
        (system.sessions place) session ∧ fact value session)
      (Continues request place system.messages (Proven request system) (system.sessions place)))
    {value : Value} {next : CommunicationSystem}
    (returned : atSession place program system = (.ok value, next)) :
    Follows request next system ∧ fact value (next.sessions place) ∧
      ∀ other, (next.sessions other).node = (system.sessions other).node := by
  rw [atSession_apply] at returned
  obtain ⟨outcome, rfl⟩ := Prod.mk.inj returned
  obtain ⟨continues, holds⟩ := meets.returns _ (.refl (delivery.tracks place)) value _
    (Prod.ext outcome rfl)
  refine ⟨⟨delivery.write continues.tracks continues.later, write_succeeds continues.later⟩,
    ?_, ?_⟩
  · rw [write_same]
    exact holds
  · intro other
    by_cases same : other = place
    · subst same
      rw [write_same]
      exact continues.node
    · rw [write_other same]

end Delivery

theorem setNode_follows (delivery : system.Delivery request) {place : SessionPlace}
    {node : Option Catalog.NodeState} (inactive : node ≠ some .active)
    (closed : node = none → ∀ generation,
      (system.sessions place).control.fence ≠ some ⟨.active, generation⟩) :
    Follows request (system.setNode place node) system := by
  have later : CommunicationSession.Succeeds { system.sessions place with node }
      (system.sessions place) :=
    ⟨rfl, fun row member => ⟨row, member, .refl row⟩, fun row member => ⟨row, member, .refl row⟩,
      .refl _⟩
  exact ⟨delivery.write ((delivery.tracks place).deleted inactive closed) later,
    write_succeeds later⟩

theorem submit_delivery (delivery : system.Delivery request) (task : InboxTask)
    (created : InboxExecutionBinding) :
    ({ (system.createOrGetJob task.inbox.admissionId created).2 with
      bound := (task, (system.createOrGetJob task.inbox.admissionId created).1) ::
        (system.createOrGetJob task.inbox.admissionId created).2.bound } :
      CommunicationSystem).Delivery request := by
  cases known : system.jobs.lookup task.inbox.admissionId with
  | some binding =>
    simp only [createOrGetJob, known]
    refine ⟨delivery.tracks, delivery.messages, delivery.receipts, delivery.claimed, ?_⟩
    intro entry listed
    rcases List.mem_cons.mp listed with rfl | earlier
    · exact known
    · exact delivery.bound entry earlier
  | none =>
    simp only [createOrGetJob, known]
    refine ⟨delivery.tracks, delivery.messages, delivery.receipts, delivery.claimed, ?_⟩
    intro entry listed
    change (system.jobs ++ [(task.inbox.admissionId, created)]).lookup _ = _
    rw [List.lookup_append]
    rcases List.mem_cons.mp listed with rfl | earlier
    · simp [known]
    · rw [delivery.bound entry earlier, Option.some_or]

theorem step_follows (delivery : system.Delivery request) (command : CommunicationCommand) :
    Follows request (system.step request command) system := by
  cases command with
  | admitSend attempt => exact delivery.run (admitSend_meets rfl)
  | route nowText =>
    dsimp only [step]
    split
    · rename_i error next outcome
      exact delivery.atSession_error route_meets outcome
    · rename_i waiting next outcome
      obtain ⟨⟨kept, later⟩, ⟨row, member, succeeds, left, operation⟩, -⟩ :=
        delivery.atSession_ok route_meets outcome
      refine ⟨kept.extend (List.subset_cons_self _ _) ?_ kept.receipts kept.claimed, later⟩
      intro message listed
      rcases List.mem_cons.mp listed with rfl | earlier
      · refine ⟨row, member, succeeds.sendOperationId.trans operation, left, ?_⟩
        have target := congrArg OutboxPreimage.target succeeds.preimage
        simp only [SendRequest.acceptance, target, succeeds.requestId]
      · exact kept.messages message earlier
  | deliver message leaseId nowText =>
    dsimp only [step]
    split
    · rename_i listed
      have same : message.communicationId = request.communicationId := by
        obtain ⟨row, -, -, -, rfl⟩ := delivery.messages message listed
        rfl
      have meets := @accept_meets request message.target.place system.messages
        (Proven request system) (system.sessions message.target.place) nowText message leaseId
        listed rfl same
      split
      · rename_i error next outcome
        exact delivery.atSession_error meets outcome
      · rename_i receipt next outcome
        obtain ⟨⟨kept, later⟩, answered, -⟩ := delivery.atSession_ok meets outcome
        refine ⟨kept.extend (List.Subset.refl _) kept.messages ?_ kept.claimed, later⟩
        intro given listed
        rcases List.mem_cons.mp listed with rfl | earlier
        · exact ⟨message.target.place, answered⟩
        · exact kept.receipts given earlier
    · exact ⟨delivery, .refl system⟩
  | receive waiting receipt nowText =>
    dsimp only [step]
    split
    · rename_i held
      apply delivery.run
      apply receive_meets
      obtain ⟨place, row, member, same, rfl⟩ := delivery.receipts receipt held.2
      exact ⟨place, row, member, same, rfl⟩
    · exact ⟨delivery, .refl system⟩
  | claim place communicationId generation nowText =>
    dsimp only [step]
    split
    · exact ⟨delivery, .refl system⟩
    · rename_i inbox found
      cases outcome : atSession place (claimInbox place inbox generation nowText) system with
      | mk answer next =>
        cases answer with
        | error error => exact delivery.atSession_error claimInbox_meets outcome
        | ok claimed =>
          obtain ⟨⟨kept, later⟩, owns, -⟩ :=
            delivery.atSession_ok claimInbox_meets outcome
          cases claimed with
          | none => exact ⟨kept, later⟩
          | some task =>
            refine ⟨kept.extend (List.Subset.refl _) kept.messages kept.receipts ?_,
              later⟩
            intro listedTask listed
            rcases List.mem_cons.mp listed with rfl | earlier
            · exact owns listedTask rfl
            · exact kept.claimed listedTask earlier
  | submit task created =>
    dsimp only [step]
    split
    · refine ⟨submit_delivery delivery task created, ?_⟩
      unfold createOrGetJob
      split
      · exact Succeeds.refl system
      · exact Succeeds.refl system
    · exact ⟨delivery, .refl system⟩
  | bind task binding nowText =>
    dsimp only [step]
    split
    · exact delivery.run bindInbox_meets
    · exact ⟨delivery, .refl system⟩
  | refuse task nowText =>
    dsimp only [step]
    split
    · rename_i listed
      exact delivery.run (refuseInbox_meets (delivery.claimed task listed))
    · exact ⟨delivery, .refl system⟩
  | fail task message nowText =>
    dsimp only [step]
    split
    · exact delivery.run failInbox_meets
    · exact ⟨delivery, .refl system⟩
  | markDeleting place =>
    dsimp only [step]
    split
    · exact setNode_follows delivery (by simp) (by simp)
    · exact ⟨delivery, .refl system⟩
  | drain place closes nowText =>
    dsimp only [step]
    split
    · rename_i deleting
      apply delivery.run
      apply drainAndClose_meets
      rw [deleting]
      simp
    · exact ⟨delivery, .refl system⟩
  | finishDelete place =>
    dsimp only [step]
    split
    · rename_i shut
      refine setNode_follows delivery (by simp) ?_
      intro _ generation active
      rw [active] at shut
      exact absurd shut.2 (by simp)
    · exact ⟨delivery, .refl system⟩

theorem runCommands_follows (delivery : system.Delivery request)
    (commands : List CommunicationCommand) :
    Follows request (system.runCommands request commands) system := by
  induction commands generalizing system with
  | nil => exact ⟨delivery, .refl system⟩
  | cons command commands ih =>
    obtain ⟨kept, later⟩ := step_follows delivery command
    obtain ⟨finalKept, finalLater⟩ := ih kept
    exact ⟨finalKept, finalLater.trans later⟩

end CommunicationSystem

end GraphAgent.Communication
