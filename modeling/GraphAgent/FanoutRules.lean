import Mathlib.Data.List.Dedup
import GraphAgent.FanoutLedger
import GraphAgent.LeaseFencing

/-!
# What keeps a fan-out readable

A stored fan-out is readable when the checks of a read hold of it.  They are
about what was frozen, which never changes, and about the states of the fan-out,
its lease and its deliveries, which change together.
-/

namespace GraphAgent.Collaboration

open KeyedRows Transaction Communication SessionControl

theorem raiseIf_ok {condition : Bool} {error : LedgerError} :
    raiseIf condition error = .ok () ↔ condition = false := by
  cases condition with
  | true => exact ⟨nofun, nofun⟩
  | false => exact ⟨fun _ => rfl, fun _ => rfl⟩

theorem bind_unit_ok {Error Result : Type} {check : Except Error Unit}
    {rest : Unit → Except Error Result} {result : Result} :
    (check >>= rest) = .ok result ↔ check = .ok () ∧ rest () = .ok result := by
  cases check with
  | error error => exact ⟨nofun, fun both => nomatch both.1⟩
  | ok value => exact ⟨fun done => ⟨rfl, done⟩, And.right⟩

theorem mapError_ok {Error Other Value : Type} {program : Except Error Value}
    {change : Error → Other} {value : Value} :
    program.mapError change = .ok value ↔ program = .ok value := by
  cases program with
  | error error => exact ⟨nofun, nofun⟩
  | ok result => exact ⟨fun done => by cases done; rfl, fun done => by cases done; rfl⟩

namespace CollaborationStore

variable {sha256 : LedgerDigests}

/-- What the checks of a read ask for. -/
structure FanoutValid (sha256 : LedgerDigests) (row : FanoutRow)
    (deliveries : List CollaborationDelivery) (lease : SessionOperationLease) : Prop where
  session : validateSessionId row.sessionId = .ok ()
  owner : (row.payload.sessionId, row.payload.ledgerRevision, row.payload.eventHash) =
    (row.sessionId, row.ledgerRevision, row.eventHash)
  positive : 1 ≤ row.ledgerRevision
  hash : sha256.event row.payload.event = row.eventHash
  recipients : deliveries.map CollaborationDelivery.threadId ≠ []
  sorted : deliveries.map CollaborationDelivery.threadId =
    sortedSet (deliveries.map CollaborationDelivery.threadId)
  threads : ∀ threadId ∈ deliveries.map CollaborationDelivery.threadId,
    validateThreadId threadId = .ok ()
  wakeup : validateOptionalWakeup row.wakeup
    (deliveries.map CollaborationDelivery.threadId) = .ok ()
  preimage : (lease.operationKind, lease.operationIdentity, lease.preimageHash,
    lease.recoveryRef) = (LeaseKind.collaborationFanout, fanoutIdentity row.ledgerRevision,
      sha256.preimage row.payload (deliveries.map CollaborationDelivery.threadId) row.wakeup,
      some (fanoutIdentity row.ledgerRevision))
  state : lease.state ∈ row.state.leaseStates
  settled : row.state ≠ .pending → ∀ item ∈ deliveries, item.state ≠ .pending
  receipt : row.state = .completed → row.wakeup.isSome = true → row.wakeupReceipt.isSome = true

theorem validateFanout_ok {row : FanoutRow} {deliveries : List CollaborationDelivery}
    {lease : SessionOperationLease} :
    validateFanout sha256 ⟨row, deliveries⟩ lease = .ok () ↔
      FanoutValid sha256 row deliveries lease := by
  unfold validateFanout
  simp only [bind_unit_ok, mapError_ok, raiseIf_ok, forM_iff, Bool.or_eq_false_iff,
    Bool.and_eq_false_iff, decide_eq_false_iff_not, not_not, not_lt, Bool.not_eq_eq_eq_not,
    Bool.not_false]
  constructor
  · rintro ⟨session, owner, ⟨positive, hash⟩, ⟨recipients, sorted⟩, threads, wakeup, preimage, state,
      settled, receipt⟩
    refine ⟨session, owner, positive, hash, by simpa using recipients, sorted, threads, wakeup,
      preimage, by simpa using state, fun final item listed => ?_, fun completed woken => ?_⟩
    · have none := settled.resolve_left final
      intro waiting
      rw [List.any_eq_false] at none
      exact none item listed (by simpa using waiting)
    · rcases receipt with (open' | silent) | received
      · exact absurd completed open'
      · rw [silent] at woken
        cases woken
      · simpa using received
  · rintro ⟨session, owner, positive, hash, recipients, sorted, threads, wakeup, preimage, state,
      settled, receipt⟩
    refine ⟨session, owner, ⟨positive, hash⟩, ⟨by simpa using recipients, sorted⟩, threads, wakeup,
      preimage, by simpa using state, ?_, ?_⟩
    · by_cases waiting : row.state = .pending
      · exact .inl waiting
      · right
        rw [List.any_eq_false]
        intro item listed
        simpa using settled waiting item listed
    · by_cases completed : row.state = .completed
      · cases woken : row.wakeup.isSome with
        | false => exact .inl (.inr rfl)
        | true =>
          right
          simpa using receipt completed woken
      · exact .inl (.inl completed)

theorem sortedSet_idem (values : List String) : sortedSet (sortedSet values) = sortedSet values := by
  have nodup : (sortedSet values).Nodup :=
    (List.perm_insertionSort _ _).nodup_iff.mpr (List.nodup_dedup values)
  have sorted : (sortedSet values).Pairwise (· ≤ ·) := List.pairwise_insertionSort _ _
  rw [sortedSet, nodup.dedup]
  exact sorted.insertionSort_eq

theorem mem_sortedSet {values : List String} {value : String} :
    value ∈ sortedSet values ↔ value ∈ values := by
  rw [sortedSet, List.mem_insertionSort, List.mem_dedup]

def deliveryKey (delivery : CollaborationDelivery) : Nat × String :=
  (delivery.ledgerRevision, delivery.threadId)

theorem mem_recipientsOf {store : CollaborationStore} {revision : Nat}
    {delivery : CollaborationDelivery} :
    delivery ∈ store.recipientsOf revision ↔
      delivery ∈ store.deliveries ∧ delivery.ledgerRevision = revision := by
  rw [recipientsOf, List.mem_insertionSort, List.mem_filter, decide_eq_true_eq]

theorem recipientsOf_update {store : CollaborationStore}
    {matching : CollaborationDelivery → Bool}
    {change : CollaborationDelivery → CollaborationDelivery}
    (keeps : ∀ delivery, deliveryKey (change delivery) = deliveryKey delivery) (revision : Nat) :
    recipientsOf { store with deliveries := updateWhere matching change store.deliveries }
      revision = updateWhere matching change (store.recipientsOf revision) := by
  have kept := @update_key _ _ deliveryKey matching change keeps
  rw [recipientsOf, updateWhere, List.filter_map, recipientsOf, updateWhere]
  have same : ((fun delivery => decide (delivery.ledgerRevision = revision)) ∘
      fun delivery => if matching delivery then change delivery else delivery) =
        fun delivery : CollaborationDelivery => decide (delivery.ledgerRevision = revision) := by
    funext delivery
    rw [Function.comp_apply,
      show (if matching delivery then change delivery else delivery).ledgerRevision =
        delivery.ledgerRevision from congrArg Prod.fst (kept delivery)]
  rw [same]
  symm
  apply List.map_insertionSort
  intro first _ second _
  rw [show (if matching first then change first else first).threadId = first.threadId from
      congrArg Prod.snd (kept first),
    show (if matching second then change second else second).threadId = second.threadId from
      congrArg Prod.snd (kept second)]

def startDeliveries (revision : Nat) (recipients : List String) : List CollaborationDelivery :=
  recipients.map fun threadId => ⟨revision, threadId, .pending, none⟩

@[simp]
theorem startDeliveries_threads (revision : Nat) (recipients : List String) :
    (startDeliveries revision recipients).map CollaborationDelivery.threadId = recipients := by
  rw [startDeliveries, List.map_map]
  exact List.map_id' recipients

theorem mem_startDeliveries {revision : Nat} {recipients : List String}
    {delivery : CollaborationDelivery} (listed : delivery ∈ startDeliveries revision recipients) :
    delivery.ledgerRevision = revision ∧ delivery.state = .pending ∧
      delivery.threadId ∈ recipients := by
  obtain ⟨threadId, member, rfl⟩ := List.mem_map.mp listed
  exact ⟨rfl, rfl, member⟩

theorem recipientsOf_append {store : CollaborationStore} {revision : Nat}
    {recipients : List String} (sorted : sortedSet recipients = recipients)
    (newRevision : ∀ delivery ∈ store.deliveries, delivery.ledgerRevision ≠ revision)
    (wanted : Nat) :
    recipientsOf { store with
      deliveries := store.deliveries ++ startDeliveries revision recipients } wanted =
        if wanted = revision then startDeliveries revision recipients
        else store.recipientsOf wanted := by
  rw [recipientsOf, List.filter_append]
  by_cases same : wanted = revision
  · subst same
    have before : store.deliveries.filter
        (fun delivery => decide (delivery.ledgerRevision = wanted)) = [] := by
      rw [List.filter_eq_nil_iff]
      intro delivery listed
      simpa using newRevision delivery listed
    have after : (startDeliveries wanted recipients).filter
        (fun delivery => decide (delivery.ledgerRevision = wanted)) =
          startDeliveries wanted recipients := by
      rw [List.filter_eq_self]
      intro delivery listed
      simpa using (mem_startDeliveries listed).1
    rw [if_pos rfl, before, after, List.nil_append]
    apply List.Pairwise.insertionSort_eq
    have ordered : recipients.Pairwise (· ≤ ·) := by
      rw [← sorted]
      exact List.pairwise_insertionSort _ _
    rw [startDeliveries, List.pairwise_map]
    exact ordered
  · have after : (startDeliveries revision recipients).filter
        (fun delivery => decide (delivery.ledgerRevision = wanted)) = [] := by
      rw [List.filter_eq_nil_iff]
      intro delivery listed
      have here := (mem_startDeliveries listed).1
      simpa [here] using Ne.symm same
    rw [if_neg same, after, List.append_nil, recipientsOf]

theorem createOrGetLease_cases {database next : ControlDatabase} {request : LeaseRequest}
    {leaseId now : String} {lease : SessionOperationLease}
    (created : database.createOrGetLease request leaseId now = .ok (lease, next)) :
    lease ∈ database.leases ∨ ∃ kind generation,
      LeaseKind.ofText? request.operationKind = some kind ∧
        lease = ControlDatabase.freshLease request kind generation leaseId now ∧
          next = { database with leases := database.leases ++ [lease] } ∧
            database.leaseRow lease.leaseId = none := by
  obtain ⟨kind, validated, read⟩ := bind_ok created
  obtain ⟨fence, -, admitted⟩ := bind_ok read
  unfold ControlDatabase.admitLease at admitted
  split at admitted
  · cases admitted
  split at admitted
  · cases admitted
  split at admitted
  · rename_i found
    split at admitted
    · cases admitted
    · cases admitted
      exact .inl (List.mem_of_find?_eq_some found)
  · unfold ControlDatabase.insertLease at admitted
    split at admitted
    · cases admitted
    rename_i newId
    cases admitted
    refine .inr ⟨kind, fence.generation, ?_, rfl, rfl, newId⟩
    unfold LeaseRequest.validate at validated
    split at validated
    · cases validated
    rename_i known
    split at validated
    · cases validated
    split at validated
    · cases validated
    split at validated
    · cases validated
    cases validated
    exact known

theorem createOrGetLease_leaseStep {database next : ControlDatabase} {request : LeaseRequest}
    {leaseId now : String} {lease : SessionOperationLease}
    (created : database.createOrGetLease request leaseId now = .ok (lease, next)) :
    ControlDatabase.LeaseStep database next := by
  have stepped : ControlDatabase.LeaseStep database (database.committed
      (database.createOrGetLease request leaseId now)) := ControlDatabase.createOrGetLease_step
  rw [created, ControlDatabase.committed_ok] at stepped
  exact stepped

def frozenBoards (store : CollaborationStore) : List BoardDocument :=
  (store.boards.insertionSort fun first second => first.teamId ≤ second.teamId).map BoardRow.board

structure Freezes (sha256 : LedgerDigests) (store : CollaborationStore)
    (event : CollaborationEvent) (wakeup : Option Wakeup)
    (cancelled : Option CollaborationMember) (row : FanoutRow) (recipients : List String)
    (lease : SessionOperationLease) (next : CollaborationStore) : Prop where
  revision : row.ledgerRevision = store.revision
  state : row.state = .pending
  wakeup : row.wakeup = wakeup
  event : row.payload.event = event
  boards : row.payload.boards = store.frozenBoards
  addressed : recipients = store.recipientThreads row.payload.members
  leaseId : row.leaseId = lease.leaseId
  newLease : store.control.leaseRow lease.leaseId = none
  sorted : sortedSet recipients = recipients
  built : next = { store with
    control := { store.control with leases := store.control.leases ++ [lease] }
    fanouts := store.fanouts ++ [row]
    deliveries := store.deliveries ++ startDeliveries store.revision recipients }
  consistent : store.control.Consistent → next.control.Consistent
  valid : FanoutValid sha256 row (startDeliveries store.revision recipients) lease
  members : ∀ member ∈ store.members,
    (cancelled.all fun snapshot => member.delegationId ≠ snapshot.delegationId) = true →
      validateCollaborationMember sha256 store member = .ok ()

theorem frozenMembers_ok {store : CollaborationStore} {event : CollaborationEvent}
    {cancelled : Option CollaborationMember} {frozen : List CollaborationMember}
    (collected : store.frozenMembers sha256 event cancelled = .ok frozen) :
    ∀ member ∈ store.members,
      (cancelled.all fun snapshot => member.delegationId ≠ snapshot.delegationId) = true →
        validateCollaborationMember sha256 store member = .ok () := by
  obtain ⟨checked, -⟩ := bind_unit_ok.mp collected
  intro member listed live
  refine forM_ok checked member (List.mem_filter.mpr ⟨?_, live⟩)
  rw [orderMembers, List.mem_insertionSort]
  exact listed

theorem freezeCollaborationChange_ok {store next : CollaborationStore} {sessionId : String}
    {event : CollaborationEvent} {wakeup : Option Wakeup} {cancelled : Option CollaborationMember}
    {leaseId now : String} {revision : Nat}
    (owned : ∀ lease ∈ store.control.leases, ∃ row ∈ store.fanouts, row.leaseId = lease.leaseId)
    (positive : 1 ≤ store.revision) (session : validateSessionId sessionId = .ok ())
    (frozen : store.freezeCollaborationChange sha256 sessionId event wakeup cancelled leaseId now =
      .ok (revision, next)) :
    revision = store.revision ∧
      ∃ row recipients lease, Freezes sha256 store event wakeup cancelled row recipients lease next := by
  obtain ⟨fence, -, frozen⟩ := bind_ok frozen
  obtain ⟨-, frozen⟩ := bind_unit_ok.mp frozen
  obtain ⟨members, collected, frozen⟩ := bind_ok frozen
  obtain ⟨-, frozen⟩ := bind_unit_ok.mp frozen
  obtain ⟨known, frozen⟩ := bind_unit_ok.mp frozen
  obtain ⟨woken, frozen⟩ := bind_unit_ok.mp frozen
  obtain ⟨⟨lease, control⟩, created, frozen⟩ := bind_ok frozen
  obtain ⟨after, inserted, frozen⟩ := bind_ok frozen
  cases frozen
  obtain ⟨unique, stored⟩ := bind_unit_ok.mp inserted
  cases stored
  refine ⟨rfl, ⟨store.revision, sessionId, sha256.event event,
    ⟨sessionId, store.revision, sha256.event event, event, members, store.frozenBoards⟩,
    lease.leaseId, wakeup, none, .pending, now⟩, store.recipientThreads members, lease, ?_⟩
  rw [raiseIf_ok, List.any_eq_false] at unique
  have created := mapError_ok.mp created
  have stepped := createOrGetLease_leaseStep created
  rcases createOrGetLease_cases created with found | ⟨kind, generation, known', rfl, rfl, newLease⟩
  · obtain ⟨other, listed, same⟩ := owned lease found
    exact absurd (by simp [same]) (unique other listed)
  have sorted : sortedSet (store.recipientThreads members) = store.recipientThreads members :=
    sortedSet_idem _
  constructor
  case consistent => exact stepped.consistent
  case built => rfl
  case sorted => exact sorted
  case newLease => exact newLease
  case members => exact frozenMembers_ok collected
  case valid =>
    have threads := startDeliveries_threads store.revision (store.recipientThreads members)
    refine ⟨session, rfl, positive, rfl, ?_, ?_, ?_, ?_, ?_, ?_, fun final => absurd rfl final,
      nofun⟩
    · rw [threads]
      have main : store.mainThreadId ∈ store.recipientThreads members :=
        mem_sortedSet.mpr (List.mem_cons_self ..)
      exact List.ne_nil_of_mem main
    · rw [threads, sorted]
    · rw [threads]
      intro threadId listed
      obtain ⟨validated, -⟩ := bind_unit_ok.mp (forM_ok known threadId listed)
      exact mapError_ok.mp validated
    · rw [threads]
      exact woken
    · rw [threads]
      have kindName : kind = .collaborationFanout := by
        have decided : LeaseKind.ofText? LeaseKind.collaborationFanout.text =
          some .collaborationFanout := by decide
        exact Option.some.inj (known'.symm.trans decided)
      rw [kindName]
      rfl
    · exact List.mem_cons_self ..
  all_goals rfl

end CollaborationStore

end GraphAgent.Collaboration
