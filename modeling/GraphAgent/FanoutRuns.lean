import GraphAgent.FanoutSafety

/-!
# Runs of the collaboration ledger

Every transaction keeps the invariant; what is read back after any run therefore
validates.
-/

namespace GraphAgent.Collaboration

open KeyedRows Transaction Communication SessionControl

namespace CollaborationStore

variable {sha256 : LedgerDigests}

structure MembersSound (sha256 : LedgerDigests) (store : CollaborationStore) : Prop where
  memberIds : (store.members.map CollaborationMember.delegationId).Nodup
  creationKeys : (store.creations.map ThreadCreationRecord.idempotencyKey).Nodup
  delegations : ∀ first ∈ store.creations, ∀ second ∈ store.creations, ∀ delegationId,
    first.delegationId = some delegationId → second.delegationId = some delegationId →
      first = second
  valid : ∀ row ∈ store.members, validateCollaborationMember sha256 store row = .ok ()
  sessions : ∀ row ∈ store.members, validateSessionId row.coordinatorSessionId = .ok ()

structure BoardsSound (boards : List BoardRow) : Prop where
  teams : (boards.map BoardRow.teamId).Nodup
  named : ∀ row ∈ boards, row.board.teamId = row.teamId

structure LedgerSound (sha256 : LedgerDigests) (store : CollaborationStore) : Prop where
  fanouts : FanoutsSound sha256 store
  members : MembersSound sha256 store
  boards : BoardsSound store.boards

/-- What a transaction keeps. -/
structure Kept (sha256 : LedgerDigests) (store next : CollaborationStore) : Prop where
  sound : LedgerSound sha256 next
  evolves : LedgerEvolves store next
  boards : next.boards = store.boards

theorem validateCollaborationMember_ok {store : CollaborationStore} {row : CollaborationMember} :
    validateCollaborationMember sha256 store row = .ok () ↔
      ∃ creation frozen,
        fetch ThreadCreationRecord.idempotencyKey store.creations row.creationIdempotencyKey =
          some creation ∧
        frozenMembership creation row = some frozen ∧
        matchesMembership sha256 creation row frozen = true ∧
        row.state = creation.state.memberState ∧
        row.registeredRevision ≤ store.revision ∧
        row.coordinatorThreadId ∈ store.catalog := by
  unfold validateCollaborationMember
  cases found : fetch ThreadCreationRecord.idempotencyKey store.creations
      row.creationIdempotencyKey with
  | none => exact ⟨nofun, fun ⟨_, _, read, _⟩ => nomatch read⟩
  | some creation =>
    dsimp only
    cases froze : frozenMembership creation row with
    | none =>
      refine ⟨nofun, ?_⟩
      rintro ⟨_, frozen, read, some, -⟩
      cases read
      rw [froze] at some
      cases some
    | some frozen =>
      dsimp only
      simp only [bind_unit_ok, raiseIf_ok, Bool.not_eq_eq_eq_not, Bool.not_false,
        decide_eq_false_iff_not, not_not, not_lt, List.contains_eq_mem, decide_eq_true_eq]
      constructor
      · intro checks
        exact ⟨creation, frozen, rfl, froze, checks⟩
      · rintro ⟨_, other, read, same, checks⟩
        cases read
        cases froze.symm.trans same
        exact checks

theorem validateCollaborationMember_mono {store next : CollaborationStore}
    {row : CollaborationMember} (valid : validateCollaborationMember sha256 store row = .ok ())
    (creations : next.creations = store.creations) (revision : store.revision ≤ next.revision)
    (catalog : ∀ threadId ∈ store.catalog, threadId ∈ next.catalog) :
    validateCollaborationMember sha256 next row = .ok () := by
  obtain ⟨creation, frozen, found, froze, same, state, registered, parent⟩ :=
    validateCollaborationMember_ok.mp valid
  exact validateCollaborationMember_ok.mpr ⟨creation, frozen, creations.symm ▸ found, froze, same,
    state, registered.trans revision, catalog _ parent⟩

theorem MembersSound.congr {store next : CollaborationStore} (sound : MembersSound sha256 store)
    (members : next.members = store.members) (creations : next.creations = store.creations)
    (revision : store.revision ≤ next.revision)
    (catalog : ∀ threadId ∈ store.catalog, threadId ∈ next.catalog) :
    MembersSound sha256 next where
  memberIds := members.symm ▸ sound.memberIds
  creationKeys := creations.symm ▸ sound.creationKeys
  delegations := creations.symm ▸ sound.delegations
  valid row listed := validateCollaborationMember_mono (sound.valid row (members ▸ listed)) creations
    revision catalog
  sessions row listed := sound.sessions row (members ▸ listed)

structure TokenHeld (store : CollaborationStore) (revision token : Nat)
    (record : CollaborationFanoutRecord) (lease : SessionOperationLease) : Prop where
  found : fetch FanoutRow.ledgerRevision store.fanouts revision = some record.row
  recipients : record.recipients = store.recipientsOf revision
  leased : store.control.leaseRow record.row.leaseId = some lease
  pending : record.row.state = .pending
  unsettled : lease.state = .active ∨ lease.state = .settling
  token : lease.fencingToken = token

theorem leaseOf_ok {store : CollaborationStore} {leaseId : String}
    {lease : SessionOperationLease} (read : store.leaseOf leaseId = .ok lease) :
    store.control.leaseRow leaseId = some lease :=
  ControlDatabase.leaseRow_of_ok (mapError_ok.mp read)

theorem getCollaborationFanout_ok {store : CollaborationStore} {revision : Nat}
    {record : CollaborationFanoutRecord}
    (read : store.getCollaborationFanout sha256 revision = .ok record) :
    fetch FanoutRow.ledgerRevision store.fanouts revision = some record.row ∧
      record.recipients = store.recipientsOf revision ∧ ∃ lease,
        store.control.leaseRow record.row.leaseId = some lease ∧
          FanoutValid sha256 record.row (store.recipientsOf revision) lease := by
  unfold getCollaborationFanout at read
  split at read
  · cases read
  rename_i row found
  obtain ⟨lease, leased, read⟩ := bind_ok read
  obtain ⟨valid, read⟩ := bind_unit_ok.mp read
  cases read
  exact ⟨found, rfl, lease, leaseOf_ok leased, validateFanout_ok.mp valid⟩

theorem requireCollaborationToken_ok {store : CollaborationStore} {revision token : Nat}
    {record : CollaborationFanoutRecord} {lease : SessionOperationLease}
    (held : store.requireCollaborationToken sha256 revision token = .ok (record, lease)) :
    TokenHeld store revision token record lease := by
  obtain ⟨found, read, held⟩ := bind_ok held
  obtain ⟨leaseFound, leased, held⟩ := bind_ok held
  obtain ⟨current, held⟩ := bind_unit_ok.mp held
  cases held
  obtain ⟨row, recipients, -⟩ := getCollaborationFanout_ok read
  rw [raiseIf_ok, Bool.or_eq_false_iff, Bool.or_eq_false_iff, decide_eq_false_iff_not,
    decide_eq_false_iff_not, not_not, not_not] at current
  refine ⟨row, recipients, leaseOf_ok leased, current.1.1, ?_, current.2⟩
  have unsettled := current.1.2
  cases state : lease.state with
  | active => exact .inl rfl
  | settling => exact .inr rfl
  | completed | cancelled | failed =>
    rw [state] at unsettled
    cases unsettled

theorem TokenHeld.waiting {store : CollaborationStore} {revision token : Nat}
    {record : CollaborationFanoutRecord} {lease : SessionOperationLease}
    (held : TokenHeld store revision token record lease) :
    lease.state ∈ FanoutState.pending.leaseStates := by
  rcases held.unsettled with active | settling
  · rw [active]
    exact List.mem_cons_self ..
  · rw [settling]
    exact List.mem_cons_of_mem _ (List.mem_cons_self ..)

theorem leaseRow_self {database : ControlDatabase} {leaseId : String}
    {lease : SessionOperationLease} (found : database.leaseRow leaseId = some lease) :
    database.leaseRow lease.leaseId = some lease := by
  have named : lease.leaseId = leaseId := fetch_key found
  rw [named]
  exact found

theorem ChangesFanout.kept {store : CollaborationStore} (sound : LedgerSound sha256 store)
    {revision : Nat} {row : FanoutRow} {lease later : SessionOperationLease}
    {control : ControlDatabase} {changeRow : FanoutRow → FanoutRow}
    {matching : CollaborationDelivery → Bool}
    {changeDelivery : CollaborationDelivery → CollaborationDelivery}
    (change : ChangesFanout store revision row lease later control changeRow matching
      changeDelivery) :
    Kept sha256 store (store.changed revision control changeRow matching changeDelivery) :=
  ⟨⟨sound.fanouts.changed change, sound.members.congr rfl rfl le_rfl fun _ listed => listed,
    sound.boards⟩, change.evolves, rfl⟩

theorem updateDelivery_kept {store next : CollaborationStore} (sound : LedgerSound sha256 store)
    {revision token : Nat} {threadId : String} {record : CollaborationFanoutRecord}
    {lease : SessionOperationLease} {change : CollaborationDelivery → CollaborationDelivery}
    {error : LedgerError} (held : TokenHeld store revision token record lease)
    (keeps : ∀ delivery, deliveryKey (change delivery) = deliveryKey delivery)
    (updated : store.updateDelivery revision threadId change error = .ok next) :
    Kept sha256 store next := by
  obtain ⟨-, stored⟩ := bind_unit_ok.mp updated
  cases stored
  have same : store.changed revision store.control id (pendingDelivery revision threadId) change =
      { store with
        deliveries := updateWhere (pendingDelivery revision threadId) change store.deliveries } := by
    rw [changed, updateWhere_id]
  rw [← same]
  have waits (delivery : CollaborationDelivery)
      (matched : pendingDelivery revision threadId delivery = true) :
      delivery.ledgerRevision = revision ∧ delivery.state = .pending := by
    simp only [pendingDelivery, Bool.and_eq_true, decide_eq_true_eq] at matched
    exact ⟨matched.1.1, matched.2⟩
  have change : ChangesFanout store revision record.row lease lease store.control id
      (pendingDelivery revision threadId) change :=
    { found := held.found
      pending := held.pending
      leased := held.leased
      moves := .refl sound.fanouts.leases (leaseRow_self held.leased)
      frozen := .refl
      here := fun delivery matched => (waits delivery matched).1
      waiting := fun delivery matched => (waits delivery matched).2
      keeps
      state := held.pending ▸ held.waiting
      settled := fun final => absurd held.pending final
      receipt := fun completed => nomatch held.pending.symm.trans completed }
  exact change.kept sound

theorem finishCollaborationDelivery_kept {store next : CollaborationStore}
    (sound : LedgerSound sha256 store) {revision token : Nat} {threadId outcome : String}
    {error : Option String}
    (finished : store.finishCollaborationDelivery sha256 revision threadId token outcome error =
      .ok next) : Kept sha256 store next := by
  unfold finishCollaborationDelivery at finished
  split at finished
  · cases finished
  obtain ⟨⟨record, lease⟩, held, finished⟩ := bind_ok finished
  obtain ⟨-, updated⟩ := bind_unit_ok.mp finished
  refine updateDelivery_kept sound (requireCollaborationToken_ok held) ?_ updated
  intro delivery
  rfl

theorem recordDeliveryFailure_kept {store next : CollaborationStore}
    (sound : LedgerSound sha256 store) {revision token : Nat} {threadId error : String}
    (recorded : store.recordDeliveryFailure sha256 revision threadId token error = .ok next) :
    Kept sha256 store next := by
  obtain ⟨⟨record, lease⟩, held, updated⟩ := bind_ok recorded
  refine updateDelivery_kept sound (requireCollaborationToken_ok held) ?_ updated
  intro delivery
  rfl

theorem changeRow_kept {store : CollaborationStore} (sound : LedgerSound sha256 store)
    {revision : Nat} {row : FanoutRow} {lease later : SessionOperationLease}
    {control : ControlDatabase} {change : FanoutRow → FanoutRow}
    (found : fetch FanoutRow.ledgerRevision store.fanouts revision = some row)
    (pending : row.state = .pending) (leased : store.control.leaseRow row.leaseId = some lease)
    (moves : MovesLease store.control lease later control)
    (frozen : ∀ row, SameFrozen (change row) row)
    (state : later.state ∈ (change row).state.leaseStates)
    (settled : (change row).state ≠ .pending →
      ∀ item ∈ store.recipientsOf revision, item.state ≠ .pending)
    (receipt : (change row).state = .completed → row.wakeup.isSome = true →
      (change row).wakeupReceipt.isSome = true) :
    Kept sha256 store { store.updateFanout revision change with control } := by
  have same : store.changed revision control change (fun _ => false) id =
      { store.updateFanout revision change with control } := by
    rw [changed, updateWhere_id, updateFanout]
  rw [← same]
  have changes : ChangesFanout store revision row lease later control change (fun _ => false) id :=
    { found, pending, leased, moves, frozen
      here := nofun
      waiting := nofun
      keeps := fun _ => rfl
      state
      settled := fun final => by
        rw [updateWhere_id]
        exact settled final
      receipt }
  exact changes.kept sound

theorem recordWakeupReceipt_kept {store next : CollaborationStore}
    (sound : LedgerSound sha256 store) {revision token : Nat} {receipt : String}
    (recorded : store.recordWakeupReceipt sha256 revision token receipt = .ok next) :
    Kept sha256 store next := by
  obtain ⟨⟨record, lease⟩, required, recorded⟩ := bind_ok recorded
  obtain ⟨-, recorded⟩ := bind_unit_ok.mp recorded
  obtain ⟨-, stored⟩ := bind_unit_ok.mp recorded
  cases stored
  have held := requireCollaborationToken_ok required
  refine changeRow_kept sound held.found held.pending held.leased
    (.refl sound.fanouts.leases (leaseRow_self held.leased)) ?_ ?_ ?_ ?_
  · intro row
    exact ⟨rfl, rfl, rfl, rfl, rfl, rfl⟩
  · rw [show _ = record.row.state from rfl, held.pending]
    exact held.waiting
  · exact fun final => absurd held.pending final
  · exact fun _ _ => rfl

theorem settleFanoutLease_moves {control next : ControlDatabase} {lease : SessionOperationLease}
    {token : Nat} {cancelled : Bool} {now : String} (consistent : control.Consistent)
    (found : control.leaseRow lease.leaseId = some lease)
    (settled : settleFanoutLease control lease token cancelled now = .ok next) :
    ∃ later, MovesLease control lease later next ∧ later.state = finalOutcome cancelled := by
  obtain ⟨⟨marked, middle⟩, marking, settled⟩ := bind_ok settled
  obtain ⟨⟨final, after⟩, settling, stored⟩ := bind_ok settled
  cases stored
  have start : MovesLease control lease marked middle := by
    unfold markFanoutLease at marking
    split at marking
    · obtain ⟨earlier, read, -, -, moves⟩ := compareAndSet_moves consistent
        (fun row allowed => ControlDatabase.settling_succeeds (by
          simp only [Bool.and_eq_true, decide_eq_true_eq] at allowed
          exact allowed.1)) (fun _ => rfl) (fun _ => rfl) (mapError_ok.mp marking)
      cases read.symm.trans found
      exact moves
    · cases marking
      exact .refl consistent found
  have settling := mapError_ok.mp settling
  unfold ControlDatabase.settleLease at settling
  have known :
      LeaseState.terminal? (finalOutcome cancelled).text = some (finalOutcome cancelled) := by
    cases cancelled <;> decide
  rw [known] at settling
  obtain ⟨earlier, read, -, rfl, moves⟩ := compareAndSet_moves start.consistent
    (fun row allowed => ControlDatabase.settled_succeeds (by
      simp only [Bool.and_eq_true, decide_eq_true_eq] at allowed
      exact allowed.1)) (fun _ => rfl) (fun _ => rfl) settling
  have same : earlier = marked := by
    have held := leaseRow_self start.found
    exact Option.some.inj (read.symm.trans held)
  subst same
  exact ⟨_, start.trans moves, rfl⟩

theorem finishCollaborationFanout_kept {store next : CollaborationStore}
    (sound : LedgerSound sha256 store) {revision token : Nat} {cancelled : Bool} {now : String}
    (finished : store.finishCollaborationFanout sha256 revision token cancelled now = .ok next) :
    Kept sha256 store next := by
  obtain ⟨⟨record, lease⟩, required, finished⟩ := bind_ok finished
  obtain ⟨settled, finished⟩ := bind_unit_ok.mp finished
  obtain ⟨confirmed, finished⟩ := bind_unit_ok.mp finished
  obtain ⟨control, settling, stored⟩ := bind_ok finished
  cases stored
  have held := requireCollaborationToken_ok required
  obtain ⟨later, moves, outcome⟩ := settleFanoutLease_moves sound.fanouts.leases
    (leaseRow_self held.leased) settling
  rw [raiseIf_ok, List.any_eq_false] at settled
  refine changeRow_kept sound held.found held.pending held.leased moves ?_ ?_ ?_ ?_
  · intro row
    exact ⟨rfl, rfl, rfl, rfl, rfl, rfl⟩
  · rw [outcome]
    cases cancelled <;> exact List.mem_cons_self ..
  · intro _ item listed
    rw [← held.recipients] at listed
    simpa using settled item listed
  · intro completed woken
    change finalState cancelled = .completed at completed
    cases cancelled with
    | true => cases completed
    | false =>
      change record.row.wakeupReceipt.isSome = true
      simpa [raiseIf_ok, woken] using confirmed

theorem takeoverFanout_kept {store next : CollaborationStore} (sound : LedgerSound sha256 store)
    {revision : Nat} {now : String}
    (taken : store.takeoverFanout sha256 revision now = .ok next) : Kept sha256 store next := by
  obtain ⟨record, read, taken⟩ := bind_ok taken
  obtain ⟨pending, taken⟩ := bind_unit_ok.mp taken
  obtain ⟨lease, leased, taken⟩ := bind_ok taken
  obtain ⟨⟨later, control⟩, moved, stored⟩ := bind_ok taken
  cases stored
  obtain ⟨found, -, -⟩ := getCollaborationFanout_ok read
  have leased := leaseOf_ok leased
  rw [raiseIf_ok, decide_eq_false_iff_not, not_not] at pending
  obtain ⟨earlier, held, -, rfl, moves⟩ := compareAndSet_moves sound.fanouts.leases
    (fun row allowed => ControlDatabase.takeover_succeeds (by
      simp only [Bool.and_eq_true, Bool.not_eq_eq_eq_not, Bool.not_true] at allowed
      exact allowed.2)) (fun _ => rfl) (fun _ => rfl) (mapError_ok.mp moved)
  cases held.symm.trans (leaseRow_self leased)
  have kept := @changeRow_kept _ _ sound _ _ _ _ _ id found pending leased moves .refl
    (by rw [id, pending]; exact List.mem_cons_self ..) (fun final => absurd pending final)
    (fun completed => nomatch pending.symm.trans completed)
  have same : store.updateFanout revision id = store := by
    rw [updateFanout, updateWhere_id]
  rw [same] at kept
  exact kept

theorem freeze_sound {store ready next : CollaborationStore} (sound : FanoutsSound sha256 store)
    (same : SameFanouts store ready) (newer : store.revision < ready.revision)
    {sessionId leaseId now : String} {event : CollaborationEvent} {wakeup : Option Wakeup}
    {cancelled : Option CollaborationMember} {revision : Nat}
    (session : validateSessionId sessionId = .ok ())
    (frozen : ready.freezeCollaborationChange sha256 sessionId event wakeup cancelled leaseId now =
      .ok (revision, next)) :
    revision = ready.revision ∧ FanoutsSound sha256 next ∧ ∃ row recipients lease,
      Freezes sha256 ready event wakeup cancelled row recipients lease next := by
  have readySound := sound.congr same
  obtain ⟨named, row, recipients, lease, freezes⟩ := freezeCollaborationChange_ok readySound.owned
    (Nat.one_le_iff_ne_zero.mpr (Nat.ne_zero_of_lt newer)) session frozen
  refine ⟨named, readySound.frozen (fun row listed => ?_) (fun delivery listed => ?_) freezes,
    row, recipients, lease, freezes⟩
  · rw [same.fanouts] at listed
    exact (sound.fanoutRevisions row listed).trans_lt newer
  · rw [same.deliveries] at listed
    exact (sound.deliveryRevisions delivery listed).trans_lt newer

theorem Freezes.ledgerEvolves {store ready next last : CollaborationStore}
    {event : CollaborationEvent} {wakeup : Option Wakeup} {cancelled : Option CollaborationMember}
    {row : FanoutRow} {recipients : List String} {lease : SessionOperationLease}
    (freezes : Freezes sha256 ready event wakeup cancelled row recipients lease next)
    (same : SameFanouts store ready) (newer : store.revision < ready.revision)
    (lastSame : SameFanouts next last)
    (events : ∀ eventId event, fetch EventRow.eventId store.events eventId = some event →
      fetch EventRow.eventId last.events eventId = some event)
    (boards : ∀ teamId, store.boardVersion teamId ≤ last.boardVersion teamId) :
    LedgerEvolves store last := by
  obtain ⟨fanouts, deliveries, appended⟩ := freezes.evolves
  have revision : next.revision = ready.revision := by rw [freezes.built]
  refine ⟨?_, ?_, ?_, ?_, events, boards⟩
  · exact newer.le.trans (revision ▸ lastSame.revision)
  · intro wanted current found
    rw [← same.fanouts] at found
    refine ⟨current, ?_, .refl current, fun _ => rfl⟩
    rw [lastSame.fanouts]
    exact fanouts wanted current found
  · intro current listed
    rw [lastSame.fanouts, appended, same.fanouts] at listed
    rcases List.mem_append.mp listed with earlier | new
    · exact .inl ⟨current, earlier, rfl⟩
    · cases List.mem_singleton.mp new
      rw [freezes.revision]
      exact .inr newer
  · intro key delivery found
    rw [← same.deliveries] at found
    refine ⟨delivery, ?_, fun _ => rfl⟩
    rw [lastSame.deliveries]
    exact deliveries key delivery found

theorem SameFanouts.refl (store : CollaborationStore) : SameFanouts store store :=
  ⟨rfl, rfl, rfl, le_rfl, rfl⟩

theorem memberFreeze_kept {store ready next : CollaborationStore}
    (sound : LedgerSound sha256 store) (members : MembersSound sha256 ready)
    (same : SameFanouts store ready) (newer : store.revision < ready.revision)
    (events : ready.events = store.events) (boards : ready.boards = store.boards)
    {sessionId leaseId now : String} {event : CollaborationEvent}
    {cancelled : Option CollaborationMember} {revision : Nat}
    (session : validateSessionId sessionId = .ok ())
    (frozen : ready.freezeCollaborationChange sha256 sessionId event none cancelled leaseId now =
      .ok (revision, next)) : Kept sha256 store next := by
  obtain ⟨-, fanouts, row, recipients, lease, freezes⟩ :=
    freeze_sound sound.fanouts same newer session frozen
  have evolves := freezes.ledgerEvolves same newer (.refl next)
  have built := freezes.built
  subst built
  exact ⟨⟨fanouts, members.congr rfl rfl le_rfl fun _ listed => listed, boards ▸ sound.boards⟩,
    evolves (fun _ _ found => events.symm ▸ found)
      (fun teamId => by rw [boardVersion, boardVersion, ← boards]), boards⟩

theorem freezeMemberChange_kept {store ready next : CollaborationStore}
    (sound : LedgerSound sha256 store) (members : MembersSound sha256 ready)
    (same : SameFanouts store ready) (newer : store.revision < ready.revision)
    (events : ready.events = store.events) (boards : ready.boards = store.boards)
    {delegationId type leaseId now : String}
    (frozen : ready.freezeMemberChange sha256 delegationId type leaseId now = .ok next) :
    Kept sha256 store next := by
  obtain ⟨member, read, frozen⟩ := bind_ok frozen
  obtain ⟨⟨revision, after⟩, frozen, stored⟩ := bind_ok frozen
  cases stored
  unfold getCollaborationMember at read
  split at read
  · cases read
  rename_i row found
  obtain ⟨-, read⟩ := bind_unit_ok.mp read
  cases read
  exact memberFreeze_kept sound members same newer events boards
    (members.sessions member (fetch_mem found)) frozen

theorem frozenMembership_delegation {creation : ThreadCreationRecord} {row : CollaborationMember}
    {frozen : MembershipPreimage} (froze : frozenMembership creation row = some frozen)
    (same : matchesMembership sha256 creation row frozen = true) :
    creation.delegationId = some row.delegationId := by
  obtain ⟨delegationId, delegated, rest⟩ := Option.bind_eq_some_iff.mp froze
  obtain ⟨taskSeed, -, rest⟩ := Option.bind_eq_some_iff.mp rest
  obtain ⟨taskReference, -, rest⟩ := Option.bind_eq_some_iff.mp rest
  obtain ⟨registered, -, rest⟩ := Option.bind_eq_some_iff.mp rest
  obtain ⟨hash, -, rest⟩ := Option.bind_eq_some_iff.mp rest
  cases rest
  simp only [matchesMembership, Bool.and_eq_true, decide_eq_true_eq] at same
  rw [delegated, same.1.1.1.1.1.1.1.1]

theorem MembersSound.turned {store : CollaborationStore} (sound : MembersSound sha256 store)
    {key delegationId now : String} {creation : ThreadCreationRecord}
    (found : fetch ThreadCreationRecord.idempotencyKey store.creations key = some creation)
    (delegated : creation.delegationId = some delegationId) (state : CreationState) :
    MembersSound sha256 ((store.setCreationState key state).setMemberState delegationId
      state.memberState now) where
  memberIds := by
    change ((updateWhere _ _ _).map _).Nodup
    rw [keys_updateWhere]
    · exact sound.memberIds
    · intro _ _
      rfl
  creationKeys := by
    change ((updateWhere _ _ _).map _).Nodup
    rw [keys_updateWhere]
    · exact sound.creationKeys
    · intro _ _
      rfl
  delegations := by
    intro first firstListed second secondListed wanted firstNamed secondNamed
    obtain ⟨one, oneListed, rfl⟩ := List.mem_map.mp firstListed
    obtain ⟨two, twoListed, rfl⟩ := List.mem_map.mp secondListed
    have same : one = two := by
      refine sound.delegations one oneListed two twoListed wanted ?_ ?_
      · split at firstNamed <;> exact firstNamed
      · split at secondNamed <;> exact secondNamed
    rw [same]
  valid := by
    intro row listed
    obtain ⟨earlier, member, rfl⟩ := List.mem_map.mp listed
    obtain ⟨own, frozen, read, froze, same, current, registered, parent⟩ :=
      validateCollaborationMember_ok.mp (sound.valid earlier member)
    have ownDelegation := frozenMembership_delegation froze same
    have changedCreations : fetch ThreadCreationRecord.idempotencyKey
        (store.setCreationState key state).creations earlier.creationIdempotencyKey =
          some (if own.idempotencyKey = key then { own with state } else own) := by
      change fetch _ (updateWhere _ _ _) _ = _
      rw [fetch_updateWhere, read]
      · simp
      · intro _
        rfl
    rw [validateCollaborationMember_ok]
    by_cases here : earlier.delegationId = delegationId
    · have owner : own = creation :=
        sound.delegations own (fetch_mem read) creation (fetch_mem found) delegationId
          (here ▸ ownDelegation) delegated
      have named : own.idempotencyKey = key := owner ▸ fetch_key found
      rw [if_pos named] at changedCreations
      refine ⟨{ own with state }, frozen, ?_⟩
      rw [if_pos (by simpa using here)]
      exact ⟨changedCreations, froze, same, rfl, registered, parent⟩
    · have different : own.idempotencyKey ≠ key := by
        intro named
        have ownRead : earlier.creationIdempotencyKey = key := (fetch_key read).symm.trans named
        rw [ownRead, found] at read
        cases read
        rw [delegated] at ownDelegation
        exact here (Option.some.inj ownDelegation).symm
      rw [if_neg different] at changedCreations
      refine ⟨own, frozen, ?_⟩
      rw [if_neg (by simpa using here)]
      exact ⟨changedCreations, froze, same, current, registered, parent⟩
  sessions := by
    intro row listed
    obtain ⟨earlier, member, rfl⟩ := List.mem_map.mp listed
    split
    · exact sound.sessions earlier member
    · exact sound.sessions earlier member

theorem MembersSound.setCreationState {store : CollaborationStore}
    (sound : MembersSound sha256 store) {key : String} {creation : ThreadCreationRecord}
    (found : fetch ThreadCreationRecord.idempotencyKey store.creations key = some creation)
    (undelegated : creation.delegationId = none) (state : CreationState) :
    MembersSound sha256 (store.setCreationState key state) where
  memberIds := sound.memberIds
  creationKeys := by
    change ((updateWhere _ _ _).map _).Nodup
    rw [keys_updateWhere]
    · exact sound.creationKeys
    · intro _ _
      rfl
  delegations := by
    intro first firstListed second secondListed wanted firstNamed secondNamed
    obtain ⟨one, oneListed, rfl⟩ := List.mem_map.mp firstListed
    obtain ⟨two, twoListed, rfl⟩ := List.mem_map.mp secondListed
    have same : one = two := by
      refine sound.delegations one oneListed two twoListed wanted ?_ ?_
      · split at firstNamed <;> exact firstNamed
      · split at secondNamed <;> exact secondNamed
    rw [same]
  valid := by
    intro row listed
    obtain ⟨own, frozen, read, froze, same, current, registered, parent⟩ :=
      validateCollaborationMember_ok.mp (sound.valid row listed)
    have ownDelegation := frozenMembership_delegation froze same
    have different : own.idempotencyKey ≠ key := by
      intro named
      have ownRead : row.creationIdempotencyKey = key := (fetch_key read).symm.trans named
      rw [ownRead, found] at read
      cases read
      rw [undelegated] at ownDelegation
      cases ownDelegation
    refine validateCollaborationMember_ok.mpr ⟨own, frozen, ?_, froze, same, current, registered,
      parent⟩
    change fetch _ (updateWhere _ _ _) _ = _
    rw [fetch_updateWhere, read]
    · simp [different]
    · intro _
      rfl
  sessions := sound.sessions

theorem MembersSound.prepared {store ready : CollaborationStore}
    (sound : MembersSound sha256 store) {request : DelegatedCreation} {fence : LifecycleFence}
    {now : String} (checked : validateCreation request = .ok ())
    (absent : fetch ThreadCreationRecord.idempotencyKey store.creations request.idempotencyKey =
      none)
    (newDelegation : ∀ creation ∈ store.creations,
      creation.delegationId ≠ some request.delegationId)
    (parent : request.member.coordinatorThreadId ∈ store.catalog)
    (prepares : store.prepareCollaborationMember sha256 request fence now = .ok ready) :
    MembersSound sha256 ready := by
  obtain ⟨session, checked⟩ := (bind_unit_ok.mp checked).2 |> bind_unit_ok.mp
  obtain ⟨-, checked⟩ := bind_unit_ok.mp checked
  obtain ⟨-, owners⟩ := bind_unit_ok.mp checked
  rw [raiseIf_ok, decide_eq_false_iff_not, not_not, Prod.mk.injEq, Prod.mk.injEq,
    Prod.mk.injEq] at owners
  obtain ⟨parentSession, parentThread, delegation, owner⟩ := owners
  obtain ⟨unbound, prepares⟩ := bind_unit_ok.mp prepares
  obtain ⟨-, stored⟩ := bind_unit_ok.mp prepares
  cases stored
  rw [raiseIf_ok, List.any_eq_false] at unbound
  constructor
  case memberIds =>
    rw [List.map_append, List.map_singleton]
    refine sound.memberIds.append (List.nodup_singleton _) ?_
    rw [List.disjoint_singleton]
    intro listed
    obtain ⟨row, member, same⟩ := List.mem_map.mp listed
    exact unbound row member (by simp [same])
  case creationKeys =>
    rw [List.map_append, List.map_singleton]
    refine sound.creationKeys.append (List.nodup_singleton _) ?_
    rw [List.disjoint_singleton]
    intro listed
    obtain ⟨creation, member, same⟩ := List.mem_map.mp listed
    exact fetch_eq_none.mp absent creation member same
  case delegations =>
    intro first firstListed second secondListed wanted firstNamed secondNamed
    rcases List.mem_append.mp firstListed with one | new <;>
      rcases List.mem_append.mp secondListed with two | newer
    · exact sound.delegations first one second two wanted firstNamed secondNamed
    · cases List.mem_singleton.mp newer
      cases secondNamed
      exact absurd firstNamed (newDelegation first one)
    · cases List.mem_singleton.mp new
      cases firstNamed
      exact absurd secondNamed (newDelegation second two)
    · rw [List.mem_singleton.mp new, List.mem_singleton.mp newer]
  case valid =>
    intro row listed
    rw [validateCollaborationMember_ok]
    rcases List.mem_append.mp listed with earlier | new
    · obtain ⟨own, frozen, read, froze, same, current, registered, inCatalog⟩ :=
        validateCollaborationMember_ok.mp (sound.valid row earlier)
      refine ⟨own, frozen, ?_, froze, same, current, Nat.le_succ_of_le registered, inCatalog⟩
      rw [fetch_append, read, Option.some_or]
    · cases List.mem_singleton.mp new
      refine ⟨?creation, ?frozen, ?found, ?froze, ?same, ?state, le_rfl, parent⟩
      case found =>
        rw [fetch_append, absent, Option.none_or]
        exact @fetch_singleton _ _ _ ThreadCreationRecord.idempotencyKey _
      case froze => rfl
      case same =>
        rw [← owner] at parentSession
        simp [matchesMembership, parentSession, parentThread, delegation]
      case state => rfl
  case sessions =>
    intro row listed
    rcases List.mem_append.mp listed with earlier | new
    · exact sound.sessions row earlier
    · cases List.mem_singleton.mp new
      rw [owner]
      exact mapError_ok.mp session

theorem createDelegatedThread_kept {store next : CollaborationStore}
    (sound : LedgerSound sha256 store) {request : DelegatedCreation} {leaseId now : String}
    (created : store.createDelegatedThread sha256 request leaseId now = .ok next) :
    Kept sha256 store next := by
  obtain ⟨checked, created⟩ := bind_unit_ok.mp created
  split at created
  · obtain ⟨-, stored⟩ := bind_unit_ok.mp created
    cases stored
    exact ⟨sound, .refl store, rfl⟩
  rename_i absent
  obtain ⟨fence, -, created⟩ := bind_ok created
  obtain ⟨-, created⟩ := bind_unit_ok.mp created
  obtain ⟨-, created⟩ := bind_unit_ok.mp created
  obtain ⟨-, created⟩ := bind_unit_ok.mp created
  obtain ⟨-, created⟩ := bind_unit_ok.mp created
  obtain ⟨newDelegation, created⟩ := bind_unit_ok.mp created
  obtain ⟨parent, created⟩ := bind_unit_ok.mp created
  obtain ⟨ready, prepares, created⟩ := bind_ok created
  rw [raiseIf_ok, List.any_eq_false] at newDelegation
  have members := sound.members.prepared checked absent
    (fun creation listed => by simpa using newDelegation creation listed)
    (by simpa [raiseIf_ok] using parent) prepares
  obtain ⟨-, prepares⟩ := bind_unit_ok.mp prepares
  obtain ⟨-, stored⟩ := bind_unit_ok.mp prepares
  cases stored
  exact freezeMemberChange_kept sound members ⟨rfl, rfl, rfl, Nat.le_succ _, rfl⟩
    (Nat.lt_succ_self _) rfl rfl created

theorem publishThreadCreation_kept {store next : CollaborationStore}
    (sound : LedgerSound sha256 store) {key sessionId leaseId now : String} {accepted : Bool}
    (published : store.publishThreadCreation sha256 key sessionId accepted leaseId now = .ok next) :
    Kept sha256 store next := by
  unfold publishThreadCreation at published
  split at published
  · cases published
  rename_i creation found
  obtain ⟨-, published⟩ := bind_unit_ok.mp published
  obtain ⟨-, published⟩ := bind_unit_ok.mp published
  obtain ⟨fence, -, published⟩ := bind_ok published
  obtain ⟨-, published⟩ := bind_unit_ok.mp published
  obtain ⟨-, published⟩ := bind_unit_ok.mp published
  have cataloged : MembersSound sha256
      { store with catalog := store.catalog ++ [creation.childThreadId] } :=
    sound.members.congr rfl rfl le_rfl fun _ listed => List.mem_append_left _ listed
  split at published
  · rename_i undelegated
    cases published
    have same : SameFanouts store ({ store with
        catalog := store.catalog ++ [creation.childThreadId] }.setCreationState key .published) :=
      ⟨rfl, rfl, rfl, le_rfl, rfl⟩
    exact ⟨⟨sound.fanouts.congr same, cataloged.setCreationState found undelegated .published,
      sound.boards⟩, .congr same rfl rfl, rfl⟩
  · rename_i delegationId delegated
    obtain ⟨member, -, published⟩ := bind_ok published
    obtain ⟨-, published⟩ := bind_unit_ok.mp published
    obtain ⟨-, published⟩ := bind_unit_ok.mp published
    dsimp only at published
    refine freezeMemberChange_kept sound ?_ ?_ ?_ ?_ ?_ published
    · exact (cataloged.turned found delegated .published).congr rfl rfl (Nat.le_succ _)
        fun _ listed => listed
    · exact ⟨rfl, rfl, rfl, Nat.le_succ _, rfl⟩
    · exact Nat.lt_succ_self _
    · rfl
    · rfl

theorem registeredMemberSnapshot_session {store : CollaborationStore}
    {creation : ThreadCreationRecord} {delegationId : String} {snapshot : CollaborationMember}
    (read : store.registeredMemberSnapshot sha256 creation delegationId = .ok snapshot) :
    validateSessionId snapshot.coordinatorSessionId = .ok () := by
  unfold registeredMemberSnapshot at read
  split at read
  · cases read
  obtain ⟨original, fanout, read⟩ := bind_ok read
  obtain ⟨-, read⟩ := bind_unit_ok.mp read
  split at read
  · obtain ⟨same, read⟩ := bind_unit_ok.mp read
    obtain ⟨-, read⟩ := bind_unit_ok.mp read
    cases read
    rw [raiseIf_ok, decide_eq_false_iff_not, not_not, Prod.mk.injEq] at same
    obtain ⟨-, -, lease, -, valid⟩ := getCollaborationFanout_ok fanout
    rw [← same.1]
    exact valid.session
  · cases read

theorem abortThreadCreation_kept {store next : CollaborationStore}
    (sound : LedgerSound sha256 store) {key leaseId now : String}
    (aborted : store.abortThreadCreation sha256 key leaseId now = .ok next) :
    Kept sha256 store next := by
  unfold abortThreadCreation at aborted
  split at aborted
  · cases aborted
  rename_i creation found
  split at aborted
  · cases aborted
  · cases aborted
    exact ⟨sound, .refl store, rfl⟩
  · obtain ⟨member, -, stored⟩ := bind_ok aborted
    cases stored
    exact ⟨sound, .refl store, rfl⟩
  · rename_i undelegated
    cases aborted
    have same : SameFanouts store (store.setCreationState key .aborted) :=
      ⟨rfl, rfl, rfl, le_rfl, rfl⟩
    exact ⟨⟨sound.fanouts.congr same, sound.members.setCreationState found undelegated .aborted,
      sound.boards⟩, .congr same rfl rfl, rfl⟩
  · rename_i delegationId _ delegated
    obtain ⟨snapshot, registered, aborted⟩ := bind_ok aborted
    obtain ⟨-, aborted⟩ := bind_unit_ok.mp aborted
    obtain ⟨-, aborted⟩ := bind_unit_ok.mp aborted
    obtain ⟨fence, -, aborted⟩ := bind_ok aborted
    have session := registeredMemberSnapshot_session registered
    have members : MembersSound sha256 ((store.setCreationState key .aborted).setMemberState
        delegationId .cancelled now) := sound.members.turned found delegated .aborted
    split at aborted
    · cases aborted
      have same : SameFanouts store ((store.setCreationState key .aborted).setMemberState
          delegationId .cancelled now).bump := ⟨rfl, rfl, rfl, Nat.le_succ _, rfl⟩
      exact ⟨⟨sound.fanouts.congr same,
        members.congr rfl rfl (Nat.le_succ _) fun _ listed => listed,
        sound.boards⟩, .congr same rfl rfl, rfl⟩
    · obtain ⟨⟨revision, after⟩, frozen, stored⟩ := bind_ok aborted
      cases stored
      refine memberFreeze_kept sound ?_ ?_ ?_ ?_ ?_ ?_ frozen
      · exact members.congr rfl rfl (Nat.le_succ _) fun _ listed => listed
      · exact ⟨rfl, rfl, rfl, Nat.le_succ _, rfl⟩
      · exact Nat.lt_succ_self _
      · rfl
      · rfl
      · exact session

theorem boardVersion_upsert {store : CollaborationStore} (commit : BoardCommit)
    (teamId : String) :
    boardVersion { store with
      boards := upsert BoardRow.teamId ⟨commit.teamId, commit.version, commit.board⟩
        (fun row => { row with version := commit.version, board := commit.board })
        store.boards } teamId =
      if teamId = commit.teamId then commit.version else store.boardVersion teamId := by
  rw [boardVersion, fetch_upsert]
  · split
    · cases fetch BoardRow.teamId store.boards
          (BoardRow.teamId ⟨commit.teamId, commit.version, commit.board⟩) with
      | none => rfl
      | some row => rfl
    · rfl
  · intro current same
    exact same

theorem BoardsSound.commit {boards : List BoardRow} (sound : BoardsSound boards)
    {commit : BoardCommit} (named : commit.board.teamId = commit.teamId) :
    BoardsSound (upsert BoardRow.teamId ⟨commit.teamId, commit.version, commit.board⟩
      (fun row => { row with version := commit.version, board := commit.board }) boards) where
  teams := by
    refine nodup_upsert ?_ sound.teams
    intro current same
    exact same
  named := by
    intro row listed
    rw [upsert] at listed
    split at listed
    · rcases List.mem_append.mp listed with earlier | new
      · exact sound.named row earlier
      · cases List.mem_singleton.mp new
        exact named
    · obtain ⟨earlier, member, rfl⟩ := List.mem_map.mp listed
      split
      · rename_i matched
        exact named.trans (of_decide_eq_true matched).symm
      · exact sound.named earlier member

theorem mem_commit (boards : List BoardRow) (commit : BoardCommit) :
    (⟨commit.teamId, commit.version, commit.board⟩ : BoardRow) ∈
      upsert BoardRow.teamId ⟨commit.teamId, commit.version, commit.board⟩
        (fun row => { row with version := commit.version, board := commit.board }) boards := by
  rw [upsert]
  split
  · exact List.mem_append_right _ (List.mem_singleton_self _)
  · rename_i current found
    have named : current.teamId = commit.teamId := fetch_key found
    refine List.mem_map.mpr ⟨current, fetch_mem found, ?_⟩
    rw [if_pos (by simpa using named)]
    dsimp only
    rw [named]

theorem frozenBoards_find {store : CollaborationStore} (sound : BoardsSound store.boards)
    {row : BoardRow} (listed : row ∈ store.boards) :
    store.frozenBoards.find? (fun board => board.teamId = row.teamId) = some row.board := by
  have sorted := List.perm_insertionSort
    (fun first second : BoardRow => first.teamId ≤ second.teamId) store.boards
  have teams : store.frozenBoards.map BoardDocument.teamId =
      (store.boards.insertionSort fun first second => first.teamId ≤ second.teamId).map
        BoardRow.teamId := by
    rw [frozenBoards, List.map_map]
    apply List.map_congr_left
    intro other member
    exact sound.named other (sorted.mem_iff.mp member)
  have distinct : (store.frozenBoards.map BoardDocument.teamId).Nodup := by
    rw [teams]
    exact (sorted.map _).nodup_iff.mpr sound.teams
  rw [← sound.named row listed]
  exact fetch_of_mem distinct (List.mem_map_of_mem (sorted.mem_iff.mpr listed))

structure Recorded (store : CollaborationStore) (commit : BoardCommit) (revision : Nat) :
    Prop where
  event : ∃ event, fetch EventRow.eventId store.events commit.event.eventId = some event ∧
    event.ledgerRevision = revision ∧ event.event = commit.event
  fanout : ∃ row, fetch FanoutRow.ledgerRevision store.fanouts revision = some row ∧
    row.payload.boards.find? (fun board => board.teamId = commit.teamId) = some commit.board ∧
      row.wakeup = commit.wakeup

theorem Recorded.evolves {store next : CollaborationStore} {commit : BoardCommit} {revision : Nat}
    (recorded : Recorded store commit revision) (evolves : LedgerEvolves store next) :
    Recorded next commit revision := by
  obtain ⟨event, eventFound, named, same⟩ := recorded.event
  obtain ⟨row, rowFound, board, woken⟩ := recorded.fanout
  obtain ⟨later, laterFound, frozen, -⟩ := evolves.fanouts revision row rowFound
  exact ⟨⟨event, evolves.events _ event eventFound, named, same⟩,
    later, laterFound, frozen.payload ▸ board, frozen.wakeup.trans woken⟩

structure Committed (sha256 : LedgerDigests) (store : CollaborationStore) (commit : BoardCommit)
    (revision : Nat) (next : CollaborationStore) : Prop where
  sound : LedgerSound sha256 next
  evolves : LedgerEvolves store next
  checked : validateBoardCommit commit = .ok ()
  recorded : Recorded next commit revision
  version : next = store ∨ store.boardVersion commit.teamId + 1 = commit.version ∧
    ∀ teamId, next.boardVersion teamId =
      if teamId = commit.teamId then commit.version else store.boardVersion teamId

theorem commitCollaborationBoard_ok {store next : CollaborationStore}
    (sound : LedgerSound sha256 store) {commit : BoardCommit} {leaseId now : String}
    {revision : Nat}
    (committed : store.commitCollaborationBoard sha256 commit leaseId now = .ok (revision, next)) :
    Committed sha256 store commit revision next := by
  obtain ⟨checked, committed⟩ := bind_unit_ok.mp committed
  obtain ⟨session, owners⟩ := bind_unit_ok.mp checked
  obtain ⟨boardOwner, -⟩ := bind_unit_ok.mp owners
  rw [raiseIf_ok, decide_eq_false_iff_not, not_not, Prod.mk.injEq, Prod.mk.injEq] at boardOwner
  have session := mapError_ok.mp session
  split at committed
  · rename_i existing found
    obtain ⟨original, read, committed⟩ := bind_ok committed
    split at committed
    · cases committed
    rename_i board listed
    obtain ⟨same, stored⟩ := bind_unit_ok.mp committed
    cases stored
    simp only [raiseIf_ok, Bool.or_eq_false_iff, decide_eq_false_iff_not, not_not] at same
    obtain ⟨⟨sameBoard, sameEvent⟩, sameWakeup⟩ := same
    obtain ⟨row, -, -⟩ := getCollaborationFanout_ok read
    exact ⟨sound, .refl store, checked, ⟨⟨existing, found, rfl, sameEvent⟩,
      original.row, row, sameBoard ▸ listed, sameWakeup⟩, .inl rfl⟩
  rename_i absent
  obtain ⟨current, committed⟩ := bind_unit_ok.mp committed
  obtain ⟨⟨named, middle⟩, frozen, committed⟩ := bind_ok committed
  obtain ⟨unused, stored⟩ := bind_unit_ok.mp committed
  cases stored
  have current : store.boardVersion commit.teamId + 1 = commit.version := by
    rw [raiseIf_ok, decide_eq_false_iff_not, not_not] at current
    omega
  have versions := @boardVersion_upsert store commit
  have boards := sound.boards.commit boardOwner.2.1
  have boardListed := mem_commit store.boards commit
  generalize upsert BoardRow.teamId ⟨commit.teamId, commit.version, commit.board⟩
    (fun row => { row with version := commit.version, board := commit.board })
    store.boards = nextBoards at *
  have same : SameFanouts store { store with boards := nextBoards }.bump :=
    ⟨rfl, rfl, rfl, Nat.le_succ _, rfl⟩
  have newer : store.revision < { store with boards := nextBoards }.bump.revision :=
    Nat.lt_succ_self _
  obtain ⟨rfl, fanouts, row, recipients, lease, freezes⟩ :=
    freeze_sound sound.fanouts same newer session frozen
  have built := freezes.built
  subst built
  refine ⟨⟨fanouts.congr ⟨rfl, rfl, rfl, le_rfl, rfl⟩, ?_, boards⟩, ?_, checked, ⟨?_, ?_⟩,
    .inr ⟨current, versions⟩⟩
  · exact sound.members.congr rfl rfl (Nat.le_succ _) fun _ listed => listed
  · refine freezes.ledgerEvolves same newer ⟨rfl, rfl, rfl, le_rfl, rfl⟩
      (fun eventId event read => ?_)
      fun teamId => ?_
    · rw [fetch_append]
      change Option.or (fetch EventRow.eventId store.events eventId) _ = _
      rw [read, Option.some_or]
    · have version := versions teamId
      change store.boardVersion teamId ≤ boardVersion { store with boards := nextBoards } teamId
      rw [version]
      split
      · rename_i here
        rw [here]
        omega
      · exact le_rfl
  · refine ⟨⟨commit.event.eventId, commit.teamId, store.revision + 1, commit.event⟩, ?_, rfl, rfl⟩
    rw [fetch_append]
    change Option.or (fetch EventRow.eventId store.events commit.event.eventId) _ = _
    rw [absent, Option.none_or]
    exact @fetch_singleton _ _ _ EventRow.eventId _
  · refine ⟨row, ?_, ?_, freezes.wakeup⟩
    · have newFanout : fetch FanoutRow.ledgerRevision store.fanouts row.ledgerRevision = none := by
        rw [fetch_eq_none]
        intro earlier listed equal
        rw [freezes.revision] at equal
        exact (equal ▸ sound.fanouts.fanoutRevisions earlier listed).not_gt newer
      rw [fetch_append, ← freezes.revision]
      change Option.or (fetch FanoutRow.ledgerRevision store.fanouts row.ledgerRevision) _ = _
      rw [newFanout, Option.none_or]
      exact @fetch_singleton _ _ _ FanoutRow.ledgerRevision _
    · rw [freezes.boards]
      exact @frozenBoards_find { store with boards := nextBoards }.bump boards _ boardListed

theorem catalogThread_kept {store next : CollaborationStore} (sound : LedgerSound sha256 store)
    {threadId : String} (cataloged : store.catalogThread threadId = .ok next) :
    Kept sha256 store next := by
  obtain ⟨-, cataloged⟩ := bind_unit_ok.mp cataloged
  obtain ⟨-, stored⟩ := bind_unit_ok.mp cataloged
  cases stored
  have same : SameFanouts store { store with catalog := store.catalog ++ [threadId] } :=
    ⟨rfl, rfl, rfl, le_rfl, rfl⟩
  exact ⟨⟨sound.fanouts.congr same, sound.members.congr rfl rfl le_rfl
    fun _ listed => List.mem_append_left _ listed, sound.boards⟩, .congr same rfl rfl, rfl⟩

theorem closeFence_kept {store next : CollaborationStore} (sound : LedgerSound sha256 store)
    {generation : Nat} (closed : store.closeFence generation = .ok next) :
    Kept sha256 store next := by
  obtain ⟨⟨changed, control⟩, moved, stored⟩ := bind_ok closed
  cases stored
  have moved := mapError_ok.mp moved
  have stepped : ControlDatabase.LeaseStep store.control (store.control.committed
      (store.control.casFenceTransition generation "deleting")) :=
    ControlDatabase.casFenceTransition_step
  rw [moved, ControlDatabase.committed_ok] at stepped
  have leases : control.leases = store.control.leases := by
    unfold ControlDatabase.casFenceTransition at moved
    split at moved
    · cases moved
    obtain ⟨fence, -, moved⟩ := bind_ok moved
    split at moved
    · cases moved
      rfl
    · cases moved
      rfl
  have fanouts : FanoutsSound sha256 { store with control } := by
    refine ⟨stepped.consistent sound.fanouts.leases, leases.symm ▸ sound.fanouts.owned,
      sound.fanouts.fanoutKeys, sound.fanouts.leaseKeys, sound.fanouts.deliveryKeys,
      sound.fanouts.fanoutRevisions, sound.fanouts.deliveryRevisions, fun row listed => ?_,
      sound.fanouts.addressed⟩
    obtain ⟨lease, leased, valid⟩ := sound.fanouts.readable row listed
    refine ⟨lease, ?_, valid⟩
    change fetch _ control.leases _ = _
    rw [leases]
    exact leased
  exact ⟨⟨fanouts, sound.members.congr rfl rfl le_rfl fun _ listed => listed, sound.boards⟩,
    ⟨le_rfl, (LedgerEvolves.refl store).fanouts, (LedgerEvolves.refl store).newer,
      (LedgerEvolves.refl store).deliveries, fun _ _ found => found, fun _ => le_rfl⟩, rfl⟩

def MovesBoard (store : CollaborationStore) (command : LedgerCommand)
    (next : CollaborationStore) (teamId : String) : Prop :=
  next.boardVersion teamId = store.boardVersion teamId ∨
    ∃ commit leaseId now, command = .commitBoard commit leaseId now ∧ commit.teamId = teamId ∧
      store.boardVersion teamId + 1 = commit.version ∧ next.boardVersion teamId = commit.version

/-- What every transaction keeps. -/
structure Stepped (sha256 : LedgerDigests) (store : CollaborationStore) (command : LedgerCommand)
    (next : CollaborationStore) : Prop where
  sound : LedgerSound sha256 next
  evolves : LedgerEvolves store next
  boards : ∀ teamId, MovesBoard store command next teamId

theorem Kept.stepped {store next : CollaborationStore} (kept : Kept sha256 store next)
    (command : LedgerCommand) : Stepped sha256 store command next :=
  ⟨kept.sound, kept.evolves, fun teamId => .inl (by rw [boardVersion, kept.boards, boardVersion])⟩

theorem apply_stepped {store next : CollaborationStore} (sound : LedgerSound sha256 store)
    {command : LedgerCommand} (applied : store.apply sha256 command = .ok next) :
    Stepped sha256 store command next := by
  cases command with
  | create request leaseId now => exact (createDelegatedThread_kept sound applied).stepped _
  | publish key sessionId accepted leaseId now =>
    exact (publishThreadCreation_kept sound applied).stepped _
  | abort key leaseId now => exact (abortThreadCreation_kept sound applied).stepped _
  | catalogThread threadId => exact (catalogThread_kept sound applied).stepped _
  | commitBoard commit leaseId now =>
    obtain ⟨⟨revision, after⟩, committed, rfl⟩ := map_ok applied
    have done := commitCollaborationBoard_ok sound committed
    refine ⟨done.sound, done.evolves, fun teamId => ?_⟩
    rcases done.version with same | ⟨current, versions⟩
    · exact .inl (congrArg (boardVersion · teamId) same)
    · by_cases here : teamId = commit.teamId
      · subst here
        exact .inr ⟨commit, leaseId, now, rfl, rfl, current, (versions _).trans (if_pos rfl)⟩
      · exact .inl ((versions teamId).trans (if_neg here))
  | finishDelivery revision threadId token outcome error =>
    exact (finishCollaborationDelivery_kept sound applied).stepped _
  | recordFailure revision threadId token error =>
    exact (recordDeliveryFailure_kept sound applied).stepped _
  | recordReceipt revision token receipt =>
    exact (recordWakeupReceipt_kept sound applied).stepped _
  | finishFanout revision token cancelled now =>
    exact (finishCollaborationFanout_kept sound applied).stepped _
  | takeover revision now => exact (takeoverFanout_kept sound applied).stepped _
  | closeFence generation => exact (closeFence_kept sound applied).stepped _

theorem step_stepped {store : CollaborationStore} (sound : LedgerSound sha256 store)
    (command : LedgerCommand) : Stepped sha256 store command (store.step sha256 command) := by
  rw [step]
  split
  · rename_i applied
    exact apply_stepped sound applied
  · exact ⟨sound, .refl store, fun _ => .inl rfl⟩

theorem run_sound {store : CollaborationStore} (sound : LedgerSound sha256 store)
    (commands : List LedgerCommand) :
    LedgerSound sha256 (store.run sha256 commands) ∧
      LedgerEvolves store (store.run sha256 commands) := by
  induction commands generalizing store with
  | nil => exact ⟨sound, .refl store⟩
  | cons command commands ih =>
    have first := step_stepped sound command
    have rest := ih first.sound
    exact ⟨rest.1, first.evolves.trans rest.2⟩

theorem fresh_sound (databasePath mainThreadId : String) (generation : Nat) :
    LedgerSound sha256 (fresh databasePath mainThreadId generation) where
  fanouts :=
    { leases := by constructor <;> simp [fresh]
      owned := by simp [fresh]
      fanoutKeys := .nil
      leaseKeys := .nil
      deliveryKeys := .nil
      fanoutRevisions := by simp [fresh]
      deliveryRevisions := by simp [fresh]
      readable := by simp [fresh]
      addressed := by simp [fresh] }
  members :=
    { memberIds := .nil
      creationKeys := .nil
      delegations := by simp [fresh]
      valid := by simp [fresh]
      sessions := by simp [fresh] }
  boards := ⟨.nil, by simp [fresh]⟩

theorem getCollaborationFanout_readable {store : CollaborationStore}
    (sound : LedgerSound sha256 store) {revision : Nat} {row : FanoutRow}
    (found : fetch FanoutRow.ledgerRevision store.fanouts revision = some row) :
    store.getCollaborationFanout sha256 revision = .ok ⟨row, store.recipientsOf revision⟩ := by
  obtain ⟨lease, leased, valid⟩ := sound.fanouts.readable row (fetch_mem found)
  rw [fetch_key found] at valid
  rw [getCollaborationFanout, found]
  simp only [leaseOf, ControlDatabase.leaseRowOrRaise_ok leased, Except.mapError]
  change (validateFanout sha256 _ lease >>= fun _ => _) = _
  rw [validateFanout_ok.mpr valid]
  rfl

theorem Recorded.replay {store : CollaborationStore} (sound : LedgerSound sha256 store)
    {commit : BoardCommit} {revision : Nat} (recorded : Recorded store commit revision)
    (checked : validateBoardCommit commit = .ok ()) (leaseId now : String) :
    store.commitCollaborationBoard sha256 commit leaseId now = .ok (revision, store) := by
  obtain ⟨event, eventFound, rfl, sameEvent⟩ := recorded.event
  obtain ⟨row, rowFound, board, woken⟩ := recorded.fanout
  have read := getCollaborationFanout_readable sound rowFound
  rw [commitCollaborationBoard, checked, eventFound]
  change (store.getCollaborationFanout sha256 event.ledgerRevision >>= _) = _
  rw [read]
  simp only [bind, Except.bind]
  rw [board]
  simp [raiseIf, sameEvent, woken, pure, Except.pure]

structure LedgerKept (sha256 : LedgerDigests) (store : CollaborationStore) : Prop where
  /-- What is stored validates when it is read back. -/
  fanouts : ∀ row ∈ store.fanouts,
    store.getCollaborationFanout sha256 row.ledgerRevision =
      .ok ⟨row, store.recipientsOf row.ledgerRevision⟩
  members : ∀ row ∈ store.members, store.validateCollaborationMember sha256 row = .ok ()
  /-- A revision is that of one fan-out, and a new fan-out has a greater one. -/
  revisions : (store.fanouts.map FanoutRow.ledgerRevision).Nodup
  newer : ∀ command, ∀ row ∈ (store.step sha256 command).fanouts,
    row.ledgerRevision ∈ store.fanouts.map FanoutRow.ledgerRevision ∨
      ∀ earlier ∈ store.fanouts, earlier.ledgerRevision < row.ledgerRevision
  /-- What a fan-out froze stays, and so does the whole of one that is finished. -/
  frozen : ∀ row ∈ store.fanouts, ∀ later, ∃ current ∈ (store.run sha256 later).fanouts,
    SameFrozen current row ∧ (row.state ≠ .pending → current = row)
  versions : ∀ command teamId, MovesBoard store command (store.step sha256 command) teamId
  /-- A commit is answered with its first result, also after others. -/
  replays : ∀ commit leaseId now revision next,
    store.commitCollaborationBoard sha256 commit leaseId now = .ok (revision, next) →
      ∀ later leaseAgain again,
        (next.run sha256 later).commitCollaborationBoard sha256 commit leaseAgain again =
          .ok (revision, next.run sha256 later)
  /-- Every recipient of a change has one delivery, which stays, with its outcome once it
  has one. -/
  recipients : ∀ row ∈ store.fanouts,
    (store.recipientsOf row.ledgerRevision).map CollaborationDelivery.threadId =
      store.recipientThreads row.payload.members
  deliveries : (store.deliveries.map deliveryKey).Nodup
  outcomes : ∀ delivery ∈ store.deliveries, ∀ later,
    ∃ current ∈ (store.run sha256 later).deliveries, deliveryKey current = deliveryKey delivery ∧
      (delivery.state ≠ .pending → current = delivery)
  /-- A completed fan-out has reached all recipients and has the receipt of its wakeup. -/
  completed : ∀ row ∈ store.fanouts, row.state = .completed →
    (∀ delivery ∈ store.deliveries, delivery.ledgerRevision = row.ledgerRevision →
      delivery.state ≠ .pending) ∧ (row.wakeup.isSome = true → row.wakeupReceipt.isSome = true)

def exampleDigests : LedgerDigests where
  event _ := "event"
  preimage _ _ _ := "0000000000000000000000000000000000000000000000000000000000000000"
  membership _ := "membership"

def exampleSession : String := "ses_00000000000070008000000000000000"

def exampleThread : String := "thr_00000000000070008000000000000000"

def exampleCommit : BoardCommit where
  sessionId := exampleSession
  teamId := "team"
  version := 1
  board := ⟨exampleSession, "team", 1, [], [], "tasks"⟩
  event := ⟨"event-1", exampleSession, "team", "created"⟩
  wakeup := none

end CollaborationStore

end GraphAgent.Collaboration
