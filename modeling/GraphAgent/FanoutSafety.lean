import GraphAgent.FanoutRules

/-!
# The invariant of the collaboration ledger

Fan-outs, their leases and their deliveries are one part of the invariant, the
members and their creations are the other.  A transaction adds a fan-out under a
new revision, or changes one that is still pending.
-/

namespace GraphAgent.Collaboration

open KeyedRows SessionControl

namespace CollaborationStore

variable {sha256 : LedgerDigests}

structure MovesLease (database : ControlDatabase) (lease later : SessionOperationLease)
    (next : ControlDatabase) : Prop where
  consistent : next.Consistent
  ids : next.leases.map SessionOperationLease.leaseId =
    database.leases.map SessionOperationLease.leaseId
  others : ∀ wanted, wanted ≠ lease.leaseId → next.leaseRow wanted = database.leaseRow wanted
  found : next.leaseRow lease.leaseId = some later
  succeeds : Succeeds later lease
  recoveryRef : later.recoveryRef = lease.recoveryRef

theorem MovesLease.refl {database : ControlDatabase} {lease : SessionOperationLease}
    (consistent : database.Consistent) (found : database.leaseRow lease.leaseId = some lease) :
    MovesLease database lease lease database :=
  ⟨consistent, rfl, fun _ _ => rfl, found, .refl lease, rfl⟩

theorem MovesLease.trans {first second third : ControlDatabase}
    {lease middle later : SessionOperationLease} (start : MovesLease first lease middle second)
    (rest : MovesLease second middle later third) : MovesLease first lease later third := by
  have same := start.succeeds.leaseId
  refine ⟨rest.consistent, rest.ids.trans start.ids, fun wanted other => ?_, ?_,
    rest.succeeds.trans start.succeeds, rest.recoveryRef.trans start.recoveryRef⟩
  · rw [rest.others wanted (same ▸ other), start.others wanted other]
  · rw [← same]
    exact rest.found

theorem compareAndSet_moves {database next : ControlDatabase} {leaseId : String}
    {allowed : SessionOperationLease → Bool}
    {change : SessionOperationLease → SessionOperationLease}
    {conflict : SessionOperationLease → String} {later : SessionOperationLease}
    (consistent : database.Consistent)
    (succeeds : ∀ row, allowed row = true → Succeeds (change row) row)
    (keeps : ∀ row, (change row).leaseId = row.leaseId)
    (recovery : ∀ row, (change row).recoveryRef = row.recoveryRef)
    (done : database.compareAndSet leaseId allowed change conflict = .ok (later, next)) :
    ∃ lease, database.leaseRow leaseId = some lease ∧ allowed lease = true ∧
      later = change lease ∧ MovesLease database lease later next := by
  have stepped : ControlDatabase.LeaseStep database (database.committed
      (database.compareAndSet leaseId allowed change conflict)) :=
    ControlDatabase.compareAndSet_step consistent succeeds keeps
  rw [done, ControlDatabase.committed_ok] at stepped
  obtain ⟨lease, found, permitted, rfl, rfl⟩ :=
    ControlDatabase.compareAndSet_ok consistent.leaseIds keeps done
  have named : lease.leaseId = leaseId := fetch_key found
  have matched : ControlDatabase.named leaseId allowed lease = true := by
    simp [ControlDatabase.named, named, permitted]
  refine ⟨lease, found, permitted, rfl, stepped.consistent consistent, ?_, fun wanted other => ?_,
    ?_, succeeds lease permitted, recovery lease⟩
  · exact keys_updateWhere fun row _ => keeps row
  · change fetch _ (updateWhere _ _ _) wanted = fetch _ database.leases wanted
    rw [fetch_updateWhere keeps]
    cases read : fetch SessionOperationLease.leaseId database.leases wanted with
    | none => rfl
    | some row =>
      have different : row.leaseId ≠ leaseId := by
        rw [fetch_key read, ← named]
        exact other
      simp [ControlDatabase.named, different]
  · rw [named]
    exact fetch_updateWhere_self keeps found matched

structure SameFrozen (later row : FanoutRow) : Prop where
  ledgerRevision : later.ledgerRevision = row.ledgerRevision
  sessionId : later.sessionId = row.sessionId
  eventHash : later.eventHash = row.eventHash
  payload : later.payload = row.payload
  leaseId : later.leaseId = row.leaseId
  wakeup : later.wakeup = row.wakeup

theorem SameFrozen.refl (row : FanoutRow) : SameFrozen row row :=
  ⟨rfl, rfl, rfl, rfl, rfl, rfl⟩

theorem SameFrozen.trans {first second third : FanoutRow} (later : SameFrozen third second)
    (earlier : SameFrozen second first) : SameFrozen third first :=
  ⟨later.ledgerRevision.trans earlier.ledgerRevision, later.sessionId.trans earlier.sessionId,
    later.eventHash.trans earlier.eventHash, later.payload.trans earlier.payload,
    later.leaseId.trans earlier.leaseId, later.wakeup.trans earlier.wakeup⟩

/-- A fan-out and its lease, as a read finds them. -/
def Readable (sha256 : LedgerDigests) (store : CollaborationStore) (row : FanoutRow) : Prop :=
  ∃ lease, store.control.leaseRow row.leaseId = some lease ∧
    FanoutValid sha256 row (store.recipientsOf row.ledgerRevision) lease

structure FanoutsSound (sha256 : LedgerDigests) (store : CollaborationStore) : Prop where
  leases : store.control.Consistent
  owned : ∀ lease ∈ store.control.leases, ∃ row ∈ store.fanouts, row.leaseId = lease.leaseId
  fanoutKeys : (store.fanouts.map FanoutRow.ledgerRevision).Nodup
  leaseKeys : (store.fanouts.map FanoutRow.leaseId).Nodup
  deliveryKeys : (store.deliveries.map deliveryKey).Nodup
  fanoutRevisions : ∀ row ∈ store.fanouts, row.ledgerRevision ≤ store.revision
  deliveryRevisions : ∀ delivery ∈ store.deliveries, delivery.ledgerRevision ≤ store.revision
  readable : ∀ row ∈ store.fanouts, Readable sha256 store row
  addressed : ∀ row ∈ store.fanouts,
    (store.recipientsOf row.ledgerRevision).map CollaborationDelivery.threadId =
      store.recipientThreads row.payload.members

/-- The part of the store that the fan-outs are about. -/
structure SameFanouts (store next : CollaborationStore) : Prop where
  control : next.control = store.control
  fanouts : next.fanouts = store.fanouts
  deliveries : next.deliveries = store.deliveries
  revision : store.revision ≤ next.revision
  mainThreadId : next.mainThreadId = store.mainThreadId

theorem FanoutsSound.congr {store next : CollaborationStore} (sound : FanoutsSound sha256 store)
    (same : SameFanouts store next) : FanoutsSound sha256 next := by
  have recipients (revision : Nat) : next.recipientsOf revision = store.recipientsOf revision := by
    rw [recipientsOf, same.deliveries, recipientsOf]
  constructor
  · rw [same.control]
    exact sound.leases
  · rw [same.control, same.fanouts]
    exact sound.owned
  · rw [same.fanouts]
    exact sound.fanoutKeys
  · rw [same.fanouts]
    exact sound.leaseKeys
  · rw [same.deliveries]
    exact sound.deliveryKeys
  · rw [same.fanouts]
    exact fun row listed => (sound.fanoutRevisions row listed).trans same.revision
  · rw [same.deliveries]
    exact fun delivery listed => (sound.deliveryRevisions delivery listed).trans same.revision
  · rw [same.fanouts]
    intro row listed
    rw [Readable, same.control, recipients]
    exact sound.readable row listed
  · rw [same.fanouts]
    intro row listed
    rw [recipients, recipientThreads, same.mainThreadId]
    exact sound.addressed row listed

structure ChangesFanout (store : CollaborationStore) (revision : Nat) (row : FanoutRow)
    (lease later : SessionOperationLease) (control : ControlDatabase)
    (changeRow : FanoutRow → FanoutRow) (matching : CollaborationDelivery → Bool)
    (changeDelivery : CollaborationDelivery → CollaborationDelivery) : Prop where
  found : fetch FanoutRow.ledgerRevision store.fanouts revision = some row
  pending : row.state = .pending
  leased : store.control.leaseRow row.leaseId = some lease
  moves : MovesLease store.control lease later control
  frozen : ∀ row, SameFrozen (changeRow row) row
  here : ∀ delivery, matching delivery = true → delivery.ledgerRevision = revision
  waiting : ∀ delivery, matching delivery = true → delivery.state = .pending
  keeps : ∀ delivery, deliveryKey (changeDelivery delivery) = deliveryKey delivery
  state : later.state ∈ (changeRow row).state.leaseStates
  settled : (changeRow row).state ≠ .pending →
    ∀ item ∈ updateWhere matching changeDelivery (store.recipientsOf revision),
      item.state ≠ .pending
  receipt : (changeRow row).state = .completed → row.wakeup.isSome = true →
    (changeRow row).wakeupReceipt.isSome = true

def changed (store : CollaborationStore) (revision : Nat) (control : ControlDatabase)
    (changeRow : FanoutRow → FanoutRow) (matching : CollaborationDelivery → Bool)
    (changeDelivery : CollaborationDelivery → CollaborationDelivery) : CollaborationStore :=
  { store with
    control
    fanouts := updateWhere (fun row => row.ledgerRevision = revision) changeRow store.fanouts
    deliveries := updateWhere matching changeDelivery store.deliveries }

section Changed

variable {store : CollaborationStore} {revision : Nat} {row : FanoutRow}
  {lease later : SessionOperationLease} {control : ControlDatabase}
  {changeRow : FanoutRow → FanoutRow} {matching : CollaborationDelivery → Bool}
  {changeDelivery : CollaborationDelivery → CollaborationDelivery}

theorem updateWhere_threads
    (keeps : ∀ delivery, deliveryKey (changeDelivery delivery) = deliveryKey delivery)
    (deliveries : List CollaborationDelivery) :
    (updateWhere matching changeDelivery deliveries).map CollaborationDelivery.threadId =
      deliveries.map CollaborationDelivery.threadId := by
  apply keys_updateWhere
  intro delivery _
  exact congrArg Prod.snd (keeps delivery)

theorem FanoutsSound.changed (sound : FanoutsSound sha256 store)
    (change : ChangesFanout store revision row lease later control changeRow matching
      changeDelivery) :
    FanoutsSound sha256 (store.changed revision control changeRow matching changeDelivery) := by
  have rowListed := fetch_mem change.found
  have rowRevision : row.ledgerRevision = revision := fetch_key change.found
  have leaseName : lease.leaseId = row.leaseId := fetch_key change.leased
  have recipients (wanted : Nat) :
      (store.changed revision control changeRow matching changeDelivery).recipientsOf wanted =
        updateWhere matching changeDelivery (store.recipientsOf wanted) :=
    recipientsOf_update change.keeps wanted
  have threads (wanted : Nat) : (updateWhere matching changeDelivery
      (store.recipientsOf wanted)).map CollaborationDelivery.threadId =
        (store.recipientsOf wanted).map CollaborationDelivery.threadId :=
    updateWhere_threads change.keeps _
  have image (wanted : FanoutRow) (listed : wanted ∈ updateWhere
      (fun row => decide (row.ledgerRevision = revision)) changeRow store.fanouts) :
      ∃ earlier ∈ store.fanouts, SameFrozen wanted earlier ∧
        (wanted = changeRow row ∧ earlier = row ∨
          wanted = earlier ∧ earlier.ledgerRevision ≠ revision) := by
    obtain ⟨earlier, member, rfl⟩ := List.mem_map.mp listed
    refine ⟨earlier, member, ?_⟩
    split
    · rename_i matched
      have same : earlier = row := eq_of_key_eq sound.fanoutKeys member rowListed
        ((of_decide_eq_true matched).trans rowRevision.symm)
      exact ⟨change.frozen earlier, .inl ⟨by rw [same], same⟩⟩
    · rename_i other
      exact ⟨.refl earlier, .inr ⟨rfl, by simpa using other⟩⟩
  constructor
  · exact change.moves.consistent
  · intro wanted listed
    have known : wanted.leaseId ∈ store.control.leases.map SessionOperationLease.leaseId := by
      rw [← change.moves.ids]
      exact List.mem_map_of_mem listed
    obtain ⟨earlier, member, same⟩ := List.mem_map.mp known
    obtain ⟨owner, ownerListed, owns⟩ := sound.owned earlier member
    refine ⟨_, List.mem_map_of_mem ownerListed, ?_⟩
    dsimp only
    split
    · rw [(change.frozen owner).leaseId, owns, same]
    · rw [owns, same]
  · change ((updateWhere _ _ _).map _).Nodup
    rw [keys_updateWhere fun row _ => (change.frozen row).ledgerRevision]
    exact sound.fanoutKeys
  · change ((updateWhere _ _ _).map _).Nodup
    rw [keys_updateWhere fun row _ => (change.frozen row).leaseId]
    exact sound.leaseKeys
  · change ((updateWhere _ _ _).map _).Nodup
    rw [keys_updateWhere fun delivery _ => change.keeps delivery]
    exact sound.deliveryKeys
  · intro wanted listed
    obtain ⟨earlier, member, frozen, -⟩ := image wanted listed
    rw [frozen.ledgerRevision]
    exact sound.fanoutRevisions earlier member
  · intro wanted listed
    obtain ⟨earlier, member, rfl⟩ := List.mem_map.mp listed
    have kept := @update_key _ _ deliveryKey matching changeDelivery change.keeps earlier
    rw [show (if matching earlier = true then changeDelivery earlier else earlier).ledgerRevision =
      earlier.ledgerRevision from congrArg Prod.fst kept]
    exact sound.deliveryRevisions earlier member
  · intro wanted listed
    obtain ⟨earlier, member, frozen, outcome⟩ := image wanted listed
    obtain ⟨held, leased, valid⟩ := sound.readable earlier member
    rcases outcome with ⟨rfl, rfl⟩ | ⟨rfl, other⟩
    · cases leased.symm.trans change.leased
      refine ⟨later, ?_, ?_⟩
      · rw [frozen.leaseId, ← leaseName]
        exact change.moves.found
      rw [recipients, frozen.ledgerRevision]
      have threads := threads earlier.ledgerRevision
      constructor
      case session => rw [frozen.sessionId]; exact valid.session
      case owner =>
        rw [frozen.payload, frozen.sessionId, frozen.ledgerRevision, frozen.eventHash]
        exact valid.owner
      case positive => rw [frozen.ledgerRevision]; exact valid.positive
      case hash => rw [frozen.payload, frozen.eventHash]; exact valid.hash
      case recipients => rw [threads]; exact valid.recipients
      case sorted => rw [threads]; exact valid.sorted
      case threads => rw [threads]; exact valid.threads
      case wakeup => rw [threads, frozen.wakeup]; exact valid.wakeup
      case preimage =>
        rw [threads, change.moves.succeeds.operationKind, change.moves.succeeds.operationIdentity,
          change.moves.succeeds.preimageHash, change.moves.recoveryRef, frozen.ledgerRevision,
          frozen.payload, frozen.wakeup]
        exact valid.preimage
      case state => exact change.state
      case settled => exact rowRevision ▸ change.settled
      case receipt => rw [frozen.wakeup]; exact change.receipt
    · refine ⟨held, ?_, ?_⟩
      · change control.leaseRow wanted.leaseId = some held
        rw [change.moves.others wanted.leaseId, leased]
        rw [leaseName]
        intro same
        have equal := eq_of_key_eq sound.leaseKeys member rowListed same
        rw [equal] at other
        exact other rowRevision
      · rw [recipients]
        rw [updateWhere_unmatched]
        · exact valid
        · intro delivery listed
          rw [Bool.eq_false_iff]
          intro matched
          rw [← (mem_recipientsOf.mp listed).2, change.here delivery matched] at other
          exact other rfl
  · intro wanted listed
    obtain ⟨earlier, member, frozen, -⟩ := image wanted listed
    rw [recipients, threads, frozen.ledgerRevision, frozen.payload]
    exact sound.addressed earlier member

end Changed

theorem FanoutsSound.frozen {store next : CollaborationStore} (sound : FanoutsSound sha256 store)
    (newFanout : ∀ row ∈ store.fanouts, row.ledgerRevision < store.revision)
    (newDelivery : ∀ delivery ∈ store.deliveries, delivery.ledgerRevision < store.revision)
    {event : CollaborationEvent} {wakeup : Option Wakeup} {cancelled : Option CollaborationMember}
    {row : FanoutRow} {recipients : List String} {lease : SessionOperationLease}
    (freezes : Freezes sha256 store event wakeup cancelled row recipients lease next) :
    FanoutsSound sha256 next := by
  have others := recipientsOf_append freezes.sorted
    fun delivery listed => (newDelivery delivery listed).ne
  have leaseRows (wanted : String) : next.control.leaseRow wanted =
      (store.control.leaseRow wanted).or (fetch SessionOperationLease.leaseId [lease] wanted) := by
    rw [freezes.built]
    exact fetch_append
  have newLease (earlier : FanoutRow) (listed : earlier ∈ store.fanouts) :
      earlier.leaseId ≠ row.leaseId := by
    intro same
    obtain ⟨held, leased, -⟩ := sound.readable earlier listed
    rw [same, freezes.leaseId, freezes.newLease] at leased
    cases leased
  have valid := freezes.valid
  have consistent := freezes.consistent sound.leases
  rw [freezes.built] at consistent leaseRows ⊢
  constructor
  · exact consistent
  · intro held listed
    rcases List.mem_append.mp listed with earlier | new
    · obtain ⟨owner, member, owns⟩ := sound.owned held earlier
      exact ⟨owner, List.mem_append_left _ member, owns⟩
    · cases List.mem_singleton.mp new
      exact ⟨row, List.mem_append_right _ (List.mem_singleton_self row), freezes.leaseId⟩
  · rw [List.map_append, List.map_singleton]
    refine sound.fanoutKeys.append (List.nodup_singleton _) ?_
    rw [List.disjoint_singleton]
    intro listed
    obtain ⟨earlier, member, same⟩ := List.mem_map.mp listed
    exact (newFanout earlier member).ne (same.trans freezes.revision)
  · rw [List.map_append, List.map_singleton]
    refine sound.leaseKeys.append (List.nodup_singleton _) ?_
    rw [List.disjoint_singleton]
    intro listed
    obtain ⟨earlier, member, same⟩ := List.mem_map.mp listed
    exact newLease earlier member same
  · rw [List.map_append]
    refine sound.deliveryKeys.append ?_ ?_
    · have threads : recipients.Nodup := by
        rw [← freezes.sorted]
        exact (List.perm_insertionSort _ _).nodup_iff.mpr (List.nodup_dedup _)
      rw [startDeliveries, List.map_map]
      exact threads.map fun one two same => congrArg Prod.snd same
    · intro key before after
      obtain ⟨earlier, member, rfl⟩ := List.mem_map.mp before
      obtain ⟨new, listed, same⟩ := List.mem_map.mp after
      have home : new.ledgerRevision = earlier.ledgerRevision := congrArg Prod.fst same
      rw [(mem_startDeliveries listed).1] at home
      exact (newDelivery earlier member).ne home.symm
  · intro wanted listed
    rcases List.mem_append.mp listed with earlier | new
    · exact (newFanout wanted earlier).le
    · cases List.mem_singleton.mp new
      exact freezes.revision.le
  · intro wanted listed
    rcases List.mem_append.mp listed with earlier | new
    · exact (newDelivery wanted earlier).le
    · exact (mem_startDeliveries new).1.le
  · intro wanted listed
    rcases List.mem_append.mp listed with earlier | new
    · obtain ⟨held, leased, readable⟩ := sound.readable wanted earlier
      refine ⟨held, ?_, ?_⟩
      · rw [leaseRows, leased, Option.some_or]
      · have same := others wanted.ledgerRevision
        rw [if_neg (newFanout wanted earlier).ne] at same
        exact same ▸ readable
    · cases List.mem_singleton.mp new
      refine ⟨lease, ?_, ?_⟩
      · rw [leaseRows, freezes.leaseId, freezes.newLease, Option.none_or]
        simp [fetch]
      · have same := others row.ledgerRevision
        rw [if_pos freezes.revision] at same
        change FanoutValid sha256 row (recipientsOf { store with
          deliveries := store.deliveries ++ startDeliveries store.revision recipients }
            row.ledgerRevision) lease
        rw [same]
        exact valid
  · intro wanted listed
    have same := others wanted.ledgerRevision
    change List.map _ (recipientsOf { store with
      deliveries := store.deliveries ++ startDeliveries store.revision recipients }
        wanted.ledgerRevision) = store.recipientThreads wanted.payload.members
    rw [same]
    rcases List.mem_append.mp listed with earlier | new
    · rw [if_neg (newFanout wanted earlier).ne]
      exact sound.addressed wanted earlier
    · cases List.mem_singleton.mp new
      rw [if_pos freezes.revision, startDeliveries_threads]
      exact freezes.addressed

/-- Fan-outs keep what is frozen of them, and what is settled stays as it is. -/
structure LedgerEvolves (store next : CollaborationStore) : Prop where
  revision : store.revision ≤ next.revision
  fanouts : ∀ revision row, fetch FanoutRow.ledgerRevision store.fanouts revision = some row →
    ∃ later, fetch FanoutRow.ledgerRevision next.fanouts revision = some later ∧
      SameFrozen later row ∧ (row.state ≠ .pending → later = row)
  newer : ∀ row ∈ next.fanouts, (∃ earlier ∈ store.fanouts,
    earlier.ledgerRevision = row.ledgerRevision) ∨ store.revision < row.ledgerRevision
  deliveries : ∀ key delivery, fetch deliveryKey store.deliveries key = some delivery →
    ∃ later, fetch deliveryKey next.deliveries key = some later ∧
      (delivery.state ≠ .pending → later = delivery)
  events : ∀ eventId event, fetch EventRow.eventId store.events eventId = some event →
    fetch EventRow.eventId next.events eventId = some event
  boards : ∀ teamId, store.boardVersion teamId ≤ next.boardVersion teamId

theorem LedgerEvolves.refl (store : CollaborationStore) : LedgerEvolves store store :=
  ⟨le_rfl, fun _ row found => ⟨row, found, .refl row, fun _ => rfl⟩,
    fun row listed => .inl ⟨row, listed, rfl⟩,
    fun _ delivery found => ⟨delivery, found, fun _ => rfl⟩,
    fun _ _ found => found, fun _ => le_rfl⟩

theorem LedgerEvolves.trans {first second third : CollaborationStore}
    (start : LedgerEvolves first second) (rest : LedgerEvolves second third) :
    LedgerEvolves first third where
  revision := start.revision.trans rest.revision
  fanouts := by
    intro revision row found
    obtain ⟨middle, middleFound, middleFrozen, middleFinal⟩ := start.fanouts revision row found
    obtain ⟨later, laterFound, laterFrozen, laterFinal⟩ := rest.fanouts revision middle middleFound
    refine ⟨later, laterFound, laterFrozen.trans middleFrozen, fun final => ?_⟩
    have same := middleFinal final
    rw [laterFinal (same ▸ final), same]
  newer := by
    intro row listed
    rcases rest.newer row listed with ⟨middle, middleListed, same⟩ | new
    · rw [← same]
      exact start.newer middle middleListed
    · exact .inr (start.revision.trans_lt new)
  deliveries := by
    intro key delivery found
    obtain ⟨middle, middleFound, middleFinal⟩ := start.deliveries key delivery found
    obtain ⟨later, laterFound, laterFinal⟩ := rest.deliveries key middle middleFound
    refine ⟨later, laterFound, fun final => ?_⟩
    have same := middleFinal final
    rw [laterFinal (same ▸ final), same]
  events eventId event found := rest.events eventId event (start.events eventId event found)
  boards teamId := (start.boards teamId).trans (rest.boards teamId)

theorem LedgerEvolves.congr {store next : CollaborationStore} (same : SameFanouts store next)
    (events : next.events = store.events) (boards : next.boards = store.boards) :
    LedgerEvolves store next where
  revision := same.revision
  fanouts _ row found := ⟨row, same.fanouts.symm ▸ found, .refl row, fun _ => rfl⟩
  newer row listed := .inl ⟨row, same.fanouts ▸ listed, rfl⟩
  deliveries _ delivery found := ⟨delivery, same.deliveries.symm ▸ found, fun _ => rfl⟩
  events _ _ found := events.symm ▸ found
  boards teamId := by rw [boardVersion, boardVersion, boards]

theorem ChangesFanout.evolves {store : CollaborationStore} {revision : Nat} {row : FanoutRow}
    {lease later : SessionOperationLease} {control : ControlDatabase}
    {changeRow : FanoutRow → FanoutRow} {matching : CollaborationDelivery → Bool}
    {changeDelivery : CollaborationDelivery → CollaborationDelivery}
    (change : ChangesFanout store revision row lease later control changeRow matching
      changeDelivery) :
    LedgerEvolves store (store.changed revision control changeRow matching changeDelivery) where
  revision := le_rfl
  fanouts := by
    intro wanted current found
    refine ⟨_, (fetch_updateWhere fun row => (change.frozen row).ledgerRevision).trans
      (congrArg _ found), ?_, fun final => ?_⟩
    · dsimp only
      split
      · exact change.frozen current
      · exact .refl current
    · dsimp only
      split
      · rename_i matched
        have named : wanted = revision :=
          (fetch_key found).symm.trans (of_decide_eq_true matched)
        rw [named, change.found] at found
        cases found
        exact absurd change.pending final
      · rfl
  newer := by
    intro wanted listed
    obtain ⟨earlier, member, rfl⟩ := List.mem_map.mp listed
    refine .inl ⟨earlier, member, ?_⟩
    split
    · exact (change.frozen earlier).ledgerRevision.symm
    · rfl
  deliveries := by
    intro key delivery found
    refine ⟨_, (fetch_updateWhere change.keeps).trans (congrArg _ found), fun final => ?_⟩
    dsimp only
    split
    · rename_i matched
      exact absurd (change.waiting delivery matched) final
    · rfl
  events _ _ found := found
  boards _ := le_rfl

theorem Freezes.evolves {store next : CollaborationStore}
    {event : CollaborationEvent} {wakeup : Option Wakeup} {cancelled : Option CollaborationMember}
    {row : FanoutRow} {recipients : List String} {lease : SessionOperationLease}
    (freezes : Freezes sha256 store event wakeup cancelled row recipients lease next) :
    (∀ revision row, fetch FanoutRow.ledgerRevision store.fanouts revision = some row →
      fetch FanoutRow.ledgerRevision next.fanouts revision = some row) ∧
    (∀ key delivery, fetch deliveryKey store.deliveries key = some delivery →
      fetch deliveryKey next.deliveries key = some delivery) ∧
    next.fanouts = store.fanouts ++ [row] := by
  rw [freezes.built]
  refine ⟨fun revision row found => ?_, fun key delivery found => ?_, rfl⟩
  · rw [fetch_append, found, Option.some_or]
  · rw [fetch_append, found, Option.some_or]

end CollaborationStore

end GraphAgent.Collaboration
