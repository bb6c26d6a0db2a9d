import GraphAgent.CommunicationLedger

/-!
# Versions of communication rows

The order in which a row succeeds its earlier versions, the invariant of a
session's tables, and what one transaction can do to them: its identity stays,
its state moves along the transition table, a final row, a receipt and a binding
never change.
-/

namespace GraphAgent.Communication

open KeyedRows SessionControl Relation

def OutboxState.Moves (earlier later : OutboxState) : Prop :=
  later ∈ earlier.transitions

def InboxState.Moves (earlier later : InboxState) : Prop :=
  later ∈ earlier.transitions

theorem OutboxState.cancelled_mem {state : OutboxState} (unsettled : state.isTerminal = false) :
    OutboxState.cancelled ∈ state.transitions := by
  cases state with
  | accepted | routing | targetAccepted | executionBound => decide
  | terminal | failed | cancelled => cases unsettled

theorem OutboxState.unsettled_of_moves {earlier later : OutboxState}
    (moves : later ∈ earlier.transitions) : earlier.isTerminal = false := by
  cases earlier with
  | accepted | routing | targetAccepted | executionBound => rfl
  | terminal | failed | cancelled => cases moves

structure OutboxSucceeds (later earlier : CommunicationOutboxRecord) : Prop where
  preimage : later.toOutboxPreimage = earlier.toOutboxPreimage
  sendOperationId : later.sendOperationId = earlier.sendOperationId
  communicationId : later.communicationId = earlier.communicationId
  requestId : later.requestId = earlier.requestId
  createdAt : later.createdAt = earlier.createdAt
  forward : ReflTransGen OutboxState.Moves earlier.state later.state
  final : earlier.state.isTerminal = true → later = earlier
  receipt : ∀ receipt, earlier.latestReceipt = some receipt → later.latestReceipt = some receipt

namespace OutboxSucceeds

@[refl]
theorem refl (row : CommunicationOutboxRecord) : OutboxSucceeds row row :=
  ⟨rfl, rfl, rfl, rfl, rfl, .refl, fun _ => rfl, fun _ held => held⟩

theorem trans {first second third : CommunicationOutboxRecord}
    (next : OutboxSucceeds third second) (start : OutboxSucceeds second first) :
    OutboxSucceeds third first where
  preimage := next.preimage.trans start.preimage
  sendOperationId := next.sendOperationId.trans start.sendOperationId
  communicationId := next.communicationId.trans start.communicationId
  requestId := next.requestId.trans start.requestId
  createdAt := next.createdAt.trans start.createdAt
  forward := start.forward.trans next.forward
  final := by
    intro terminal
    have same := start.final terminal
    rw [next.final (by rw [same]; exact terminal), same]
  receipt := fun receipt held => next.receipt receipt (start.receipt receipt held)

end OutboxSucceeds

structure InboxSucceeds (later earlier : CommunicationInboxRecord) : Prop where
  preimage : later.toInboxPreimage = earlier.toInboxPreimage
  communicationId : later.communicationId = earlier.communicationId
  requestId : later.requestId = earlier.requestId
  createdAt : later.createdAt = earlier.createdAt
  forward : ReflTransGen InboxState.Moves earlier.state later.state
  final : earlier.state.isTerminal = true → later = earlier
  binding : ∀ binding, earlier.binding = some binding → later.binding = some binding
  claim : ∀ held, earlier.admissionClaim = some held →
    ∃ claim, later.admissionClaim = some claim ∧ claim.owner = held.owner ∧
      held.generation ≤ claim.generation

namespace InboxSucceeds

@[refl]
theorem refl (row : CommunicationInboxRecord) : InboxSucceeds row row :=
  ⟨rfl, rfl, rfl, rfl, .refl, fun _ => rfl, fun _ held => held,
    fun held claimed => ⟨held, claimed, rfl, le_rfl⟩⟩

theorem trans {first second third : CommunicationInboxRecord}
    (next : InboxSucceeds third second) (start : InboxSucceeds second first) :
    InboxSucceeds third first where
  preimage := next.preimage.trans start.preimage
  communicationId := next.communicationId.trans start.communicationId
  requestId := next.requestId.trans start.requestId
  createdAt := next.createdAt.trans start.createdAt
  forward := start.forward.trans next.forward
  final := by
    intro terminal
    have same := start.final terminal
    rw [next.final (by rw [same]; exact terminal), same]
  binding := fun binding held => next.binding binding (start.binding binding held)
  claim := by
    intro held claimed
    obtain ⟨middle, middleClaimed, middleOwner, middleGeneration⟩ := start.claim held claimed
    obtain ⟨last, lastClaimed, lastOwner, lastGeneration⟩ := next.claim middle middleClaimed
    exact ⟨last, lastClaimed, lastOwner.trans middleOwner,
      middleGeneration.trans lastGeneration⟩

end InboxSucceeds

def OutboxShape (row : CommunicationOutboxRecord) : Prop :=
  row.state = .accepted ∨ row.state = .routing → row.latestReceipt = none

/-- `CHECK (job_id IS NULL OR state IN ('execution_bound', 'terminal'))`. -/
def InboxShape (row : CommunicationInboxRecord) : Prop :=
  row.binding = none ∨ row.state = .executionBound ∨ row.state = .terminal

namespace CommunicationSession

variable {session next : CommunicationSession} {nowText : String}

/-- The invariant of the tables and the unique keys of their schema. -/
structure Sound (session : CommunicationSession) : Prop where
  leases : session.control.Consistent
  opened : session.node = some .active →
    ∃ generation, session.control.fence = some ⟨.active, generation⟩
  closed : session.node = none →
    ∀ generation, session.control.fence ≠ some ⟨.active, generation⟩
  operations : (session.outbox.map CommunicationOutboxRecord.sendOperationId).Nodup
  communications : (session.outbox.map CommunicationOutboxRecord.communicationId).Nodup
  inboxes : (session.inbox.map CommunicationInboxRecord.communicationId).Nodup
  outboxShape : ∀ row ∈ session.outbox, OutboxShape row
  inboxShape : ∀ row ∈ session.inbox, InboxShape row

structure Succeeds (later earlier : CommunicationSession) : Prop where
  mainThreads : later.mainThreads = earlier.mainThreads
  outbox : ∀ row ∈ earlier.outbox, ∃ version ∈ later.outbox, OutboxSucceeds version row
  inbox : ∀ row ∈ earlier.inbox, ∃ version ∈ later.inbox, InboxSucceeds version row
  leases : ControlDatabase.Evolves earlier.control later.control

namespace Succeeds

@[refl]
theorem refl (session : CommunicationSession) : Succeeds session session :=
  ⟨rfl, fun row member => ⟨row, member, .refl row⟩, fun row member => ⟨row, member, .refl row⟩,
    .refl _⟩

theorem trans {first second third : CommunicationSession} (later : Succeeds third second)
    (start : Succeeds second first) : Succeeds third first where
  mainThreads := later.mainThreads.trans start.mainThreads
  outbox := by
    intro row member
    obtain ⟨middle, middleMember, middleSucceeds⟩ := start.outbox row member
    obtain ⟨last, lastMember, lastSucceeds⟩ := later.outbox middle middleMember
    exact ⟨last, lastMember, lastSucceeds.trans middleSucceeds⟩
  inbox := by
    intro row member
    obtain ⟨middle, middleMember, middleSucceeds⟩ := start.inbox row member
    obtain ⟨last, lastMember, lastSucceeds⟩ := later.inbox middle middleMember
    exact ⟨last, lastMember, lastSucceeds.trans middleSucceeds⟩
  leases := start.leases.trans later.leases

end Succeeds

/-- Everything one transaction can do to a session. -/
inductive Step (session : CommunicationSession) : CommunicationSession → Prop where
  | unchanged : Step session session
  | leased (control : ControlDatabase)
      (moved : ControlDatabase.LeaseStep session.control control)
      (fenced : control.fence = session.control.fence ∨ session.node ≠ some .active ∧
        ∀ generation, control.fence ≠ some ⟨.active, generation⟩) :
      Step session { session with control }
  | sent (row : CommunicationOutboxRecord)
      (newOperation : session.fetchOutboxByOperation row.sendOperationId = none)
      (newCommunication : session.fetchOutboxByCommunication row.communicationId = none)
      (shape : OutboxShape row) :
      Step session { session with outbox := session.outbox ++ [row] }
  | advanced (matching : CommunicationOutboxRecord → Bool)
      (change : CommunicationOutboxRecord → CommunicationOutboxRecord)
      (succeeds : ∀ row ∈ session.outbox, matching row = true → OutboxSucceeds (change row) row)
      (shape : ∀ row ∈ session.outbox, matching row = true → OutboxShape (change row)) :
      Step session (session.updateOutbox matching change)
  | accepted (row : CommunicationInboxRecord)
      (newCommunication : session.fetchInbox row.communicationId = none)
      (shape : InboxShape row) :
      Step session { session with inbox := session.inbox ++ [row] }
  | consumed (matching : CommunicationInboxRecord → Bool)
      (change : CommunicationInboxRecord → CommunicationInboxRecord)
      (succeeds : ∀ row ∈ session.inbox, matching row = true → InboxSucceeds (change row) row)
      (shape : ∀ row ∈ session.inbox, matching row = true → InboxShape (change row)) :
      Step session (session.updateInbox matching change)

theorem map_updateWhere {Row Key : Type} {key : Row → Key} {rows : List Row}
    {matching : Row → Bool} {change : Row → Row}
    (keeps : ∀ row ∈ rows, matching row = true → key (change row) = key row) :
    (updateWhere matching change rows).map key = rows.map key := by
  unfold updateWhere
  rw [List.map_map]
  apply List.map_congr_left
  intro row member
  dsimp only [Function.comp_apply]
  split
  · rename_i matched
    exact keeps row member matched
  · rfl

theorem nodup_append_key {Row Key : Type} [DecidableEq Key] {key : Row → Key} {rows : List Row}
    {row : Row} (distinct : (rows.map key).Nodup) (new : fetch key rows (key row) = none) :
    ((rows ++ [row]).map key).Nodup := by
  rw [List.map_append, List.map_singleton, List.nodup_append]
  refine ⟨distinct, List.nodup_singleton _, ?_⟩
  intro wanted member other single
  obtain ⟨earlier, earlierMember, rfl⟩ := List.mem_map.mp member
  rw [List.mem_singleton.mp single]
  exact fetch_eq_none.mp new earlier earlierMember

theorem forall_updateWhere {Row : Type} {holds : Row → Prop} {rows : List Row}
    {matching : Row → Bool} {change : Row → Row} (before : ∀ row ∈ rows, holds row)
    (changed : ∀ row ∈ rows, matching row = true → holds (change row)) :
    ∀ row ∈ updateWhere matching change rows, holds row := by
  intro row member
  obtain ⟨earlier, earlierMember, rfl⟩ := List.mem_map.mp member
  split
  · rename_i matched
    exact changed earlier earlierMember matched
  · exact before earlier earlierMember

theorem exists_updateWhere {Row : Type} {related : Row → Row → Prop} {rows : List Row}
    {matching : Row → Bool} {change : Row → Row} (reflexive : ∀ row, related row row)
    (changed : ∀ row ∈ rows, matching row = true → related (change row) row) :
    ∀ row ∈ rows, ∃ version ∈ updateWhere matching change rows, related version row := by
  intro row member
  refine ⟨_, List.mem_map_of_mem member, ?_⟩
  split
  · rename_i matched
    exact changed row member matched
  · exact reflexive row

namespace Step

theorem succeeds (moved : Step session next) : Succeeds next session := by
  cases moved with
  | unchanged => exact .refl session
  | leased control moved fenced =>
    exact ⟨rfl, fun row member => ⟨row, member, .refl row⟩,
      fun row member => ⟨row, member, .refl row⟩, moved.evolves⟩
  | sent row newOperation newCommunication shape =>
    exact ⟨rfl, fun row member => ⟨row, List.mem_append_left _ member, .refl row⟩,
      fun row member => ⟨row, member, .refl row⟩, .refl _⟩
  | advanced matching change succeeds shape =>
    exact ⟨rfl, exists_updateWhere OutboxSucceeds.refl succeeds,
      fun row member => ⟨row, member, .refl row⟩, .refl _⟩
  | accepted row newCommunication shape =>
    exact ⟨rfl, fun row member => ⟨row, member, .refl row⟩,
      fun row member => ⟨row, List.mem_append_left _ member, .refl row⟩, .refl _⟩
  | consumed matching change succeeds shape =>
    exact ⟨rfl, fun row member => ⟨row, member, .refl row⟩,
      exists_updateWhere InboxSucceeds.refl succeeds, .refl _⟩

theorem node (moved : Step session next) : next.node = session.node := by
  cases moved <;> rfl

theorem sound (moved : Step session next) (held : session.Sound) : next.Sound := by
  cases moved with
  | unchanged => exact held
  | leased control moved fenced =>
    refine { held with leases := moved.consistent held.leases, opened := ?_, closed := ?_ }
    · intro active
      obtain ⟨generation, open_⟩ := held.opened active
      rcases fenced with same | ⟨inactive, -⟩
      · exact ⟨generation, same.trans open_⟩
      · exact absurd active inactive
    · intro removed
      rcases fenced with same | ⟨-, shut⟩
      · intro generation open_
        exact held.closed removed generation (same.symm.trans open_)
      · exact shut
  | sent row newOperation newCommunication shape =>
    refine { held with
      operations := nodup_append_key held.operations newOperation
      communications := nodup_append_key held.communications newCommunication
      outboxShape := ?_ }
    intro version member
    rcases List.mem_append.mp member with before | single
    · exact held.outboxShape version before
    · rw [List.mem_singleton.mp single]
      exact shape
  | advanced matching change succeeds shape =>
    refine { held with
      operations := ?_
      communications := ?_
      outboxShape := forall_updateWhere held.outboxShape shape }
    · have same := @map_updateWhere _ _ CommunicationOutboxRecord.sendOperationId _ _ _
        fun row member matched => (succeeds row member matched).sendOperationId
      exact same ▸ held.operations
    · have same := @map_updateWhere _ _ CommunicationOutboxRecord.communicationId _ _ _
        fun row member matched => (succeeds row member matched).communicationId
      exact same ▸ held.communications
  | accepted row newCommunication shape =>
    refine { held with
      inboxes := nodup_append_key held.inboxes newCommunication
      inboxShape := ?_ }
    intro version member
    rcases List.mem_append.mp member with before | single
    · exact held.inboxShape version before
    · rw [List.mem_singleton.mp single]
      exact shape
  | consumed matching change succeeds shape =>
    refine { held with
      inboxes := ?_
      inboxShape := forall_updateWhere held.inboxShape shape }
    have same := @map_updateWhere _ _ CommunicationInboxRecord.communicationId _ _ _
      fun row member matched => (succeeds row member matched).communicationId
    exact same ▸ held.inboxes

end Step

end CommunicationSession

end GraphAgent.Communication
