import GraphAgent.DictionaryUpdates
import GraphAgent.ResourceLeases

/-!
# What the resource ledger keeps over its runs

The memory is what the state file loads, and a call that raises has changed neither.
A lease that is not active keeps its status until `release` or `settle` of that very
lease, so an operation left unknown stays among the leases of its resource.
-/

namespace GraphAgent.ResourceLedger

open Durable

structure Ledger.Consistent (ledger : Ledger) : Prop where
  records : ∀ entry ∈ ledger.records.entries, entry.1 = entry.2.resourceId
  leases : ∀ entry ∈ ledger.leases.entries, entry.1 = entry.2.leaseId
  held : ∀ entry ∈ ledger.leases.entries,
    (ledger.records.lookup entry.2.resourceId).isSome = true

theorem rekeyed {Row : Type} (identifier : Row → String) {entries : List (String × Row)}
    (keyed : ∀ entry ∈ entries, entry.1 = identifier entry.2) :
    (entries.map Prod.snd).map (fun row => (identifier row, row)) = entries := by
  rw [List.map_map]
  conv_rhs => rw [← List.map_id entries]
  apply List.map_congr_left
  intro entry member
  exact Prod.ext (keyed entry member).symm rfl

theorem load_snapshot {ledger : Ledger} (consistent : ledger.Consistent) :
    load (some ledger.snapshot) = ledger := by
  obtain ⟨records, leases⟩ := ledger
  simp only [load, Ledger.snapshot, keyedRecords, keyedLeases]
  rw [rekeyed ResourceRecord.resourceId consistent.records,
    rekeyed ResourceLease.leaseId consistent.leases, Dictionary.ofList_entries,
    Dictionary.ofList_entries]

theorem mem_keyedRecords {records : List ResourceRecord} {entry : String × ResourceRecord}
    (member : entry ∈ (keyedRecords records).entries) : entry.1 = entry.2.resourceId := by
  obtain none | listed := Dictionary.mem_insertAll member
  · cases none
  · obtain ⟨record, -, rfl⟩ := List.mem_map.mp listed
    rfl

theorem mem_keyedLeases {leases : List ResourceLease} {entry : String × ResourceLease}
    (member : entry ∈ (keyedLeases leases).entries) :
    entry.1 = entry.2.leaseId ∧ entry.2 ∈ leases := by
  obtain none | listed := Dictionary.mem_insertAll member
  · cases none
  · obtain ⟨lease, present, rfl⟩ := List.mem_map.mp listed
    exact ⟨rfl, present⟩

inductive Operation.Moves : Operation → String → LeaseStatus → LeaseStatus → Prop
  | released (leaseId : String) (old : LeaseStatus) :
      Moves (.release leaseId) leaseId old .released
  | settled (leaseId : String) (old : LeaseStatus) :
      Moves (.settle leaseId) leaseId old .settled
  | turnReleased (turnStreamId leaseId : String) :
      Moves (.releaseTurnLeases turnStreamId) leaseId .active .released
  | reconciled (observed : Dictionary String String) (kind : Option String)
      (leaseId : String) : Moves (.reconcile observed kind) leaseId .active .reconcileRequired
  | unresolved (resourceId lifetimeScope status leaseId : String) :
      Moves (.updateExternalState resourceId lifetimeScope status (some leaseId)) leaseId
        .active .reconcileRequired

inductive Operation.Writes (operation : Operation) (ledger : Ledger) : ResourceLease → Prop
  | opened {lease : ResourceLease} (fresh : ledger.leases.lookup lease.leaseId = none)
      (held : (ledger.records.lookup lease.resourceId).isSome = true)
      (active : lease.status = .active) : Writes operation ledger lease
  | moved {lease : ResourceLease} {status : LeaseStatus} {now : String}
      (found : ledger.leases.lookup lease.leaseId = some lease)
      (moves : operation.Moves lease.leaseId lease.status status) :
      Writes operation ledger (lease.withStatus status now)

def Kept (store next : Store) : Prop :=
  next.memory = store.memory ∧ next.file = store.file

def Committed (operation : Operation) (store next : Store) : Prop :=
  ∃ records leases, next.memory = store.memory.updated records leases ∧
    next.file = some next.memory.snapshot ∧
    ∀ lease ∈ leases, operation.Writes store.memory lease

variable {times : Times} {fault : Option WriteStep} {store : Store}

theorem commit_meets (operation : Operation) {records : List ResourceRecord}
    {leases : List ResourceLease}
    (writes : ∀ lease ∈ leases, operation.Writes store.memory lease) :
    Meets (fun state => state = store) (commit fault records leases)
      (fun _ next => Committed operation store next) (Kept store) where
  returns := by
    rintro _ rfl _ next returned
    obtain _ | (_ | _ | _ | _ | _) := fault <;> cases returned
    exact ⟨records, leases, rfl, rfl, writes⟩
  raises := by
    rintro _ rfl error next raised
    obtain _ | (_ | _ | _ | _ | _) := fault <;> cases raised
    all_goals exact ⟨rfl, rfl⟩

def Changes (operation : Operation) {Value : Type} (store : Store)
    (program : Durable LedgerError Store Value) : Prop :=
  Meets (fun state => state = store) program
    (fun _ next => Kept store next ∨ Committed operation store next) (Kept store)

theorem Changes.raise {Value : Type} (operation : Operation) (error : LedgerError) :
    Changes operation store (Durable.raise error : Durable LedgerError Store Value) := by
  apply Meets.raise
  rintro _ rfl
  exact ⟨rfl, rfl⟩

theorem Changes.check {Seen Value : Type} {operation : Operation}
    {view : Store → Except LedgerError Seen} {rest : Seen → Durable LedgerError Store Value}
    (continues : ∀ seen, view store = .ok seen → Changes operation store (rest seen)) :
    Changes operation store (Durable.check view >>= rest) := by
  have seen : Meets (fun state => state = store) (Durable.check view)
      (fun seen state => state = store ∧ view store = .ok seen) (Kept store) := by
    apply Meets.check
    · rintro _ rfl seen viewed
      exact ⟨rfl, viewed⟩
    · rintro _ rfl
      exact ⟨rfl, rfl⟩
  · apply seen.bind
    intro seen
    constructor
    · rintro state ⟨same, viewed⟩
      exact (continues seen viewed).returns state same
    · rintro state ⟨same, viewed⟩
      exact (continues seen viewed).raises state same

theorem Changes.commit {Value : Type} {operation : Operation} {records : List ResourceRecord}
    {leases : List ResourceLease} {value : Value}
    (writes : ∀ lease ∈ leases, operation.Writes store.memory lease) :
    Changes operation store (do
      ResourceLedger.commit fault records leases
      return value) := by
  apply Meets.bind (commit_meets operation writes)
  intro _
  apply Meets.pure
  intro next committed
  exact .inr committed

theorem Changes.pure {Value : Type} (operation : Operation) (value : Value) :
    Changes operation store (Pure.pure value) := by
  apply Meets.pure
  rintro _ rfl
  exact .inl ⟨rfl, rfl⟩

theorem Changes.map {Value Result : Type} {operation : Operation}
    {program : Durable LedgerError Store Value} (answer : Value → Result)
    (changes : Changes operation store program) :
    Changes operation store (do return answer (← program)) := by
  apply Meets.bind changes
  intro _
  apply Meets.pure
  exact fun _ kept => kept

theorem register_changes (operation : Operation) (resourceId kind lifetimeScope : String)
    (createdByTurnId : Option String) :
    Changes operation store
      (register times fault resourceId kind lifetimeScope createdByTurnId) := by
  rw [register]
  split
  · exact .raise operation _
  · split
    · exact .raise operation _
    · apply Changes.check
      intro record _
      apply Changes.commit
      simp

theorem requireRecord_ok {ledger : Ledger} {resourceId : String} {record : ResourceRecord}
    (required : ledger.requireRecord resourceId = .ok record) :
    ledger.records.lookup resourceId = some record := by
  rw [Ledger.requireRecord] at required
  split at required
  · cases required
  · cases required
    assumption

theorem requireLease_ok {ledger : Ledger} {leaseId : String} {lease : ResourceLease}
    (required : ledger.requireLease leaseId = .ok lease) :
    ledger.leases.lookup leaseId = some lease := by
  rw [Ledger.requireLease] at required
  split at required
  · cases required
  · cases required
    assumption

theorem admitted_ok {ledger : Ledger} {request : AcquireRequest}
    {existing : Option ResourceLease} (admitted : ledger.admitted request = .ok existing) :
    (ledger.records.lookup request.resourceId).isSome = true ∧
      ledger.leases.lookup request.leaseId = existing ∧
      ∀ lease ∈ existing, request.Names lease := by
  rw [Ledger.admitted] at admitted
  cases required : ledger.requireRecord request.resourceId with
  | error error =>
    rw [required] at admitted
    cases admitted
  | ok record =>
    rw [required] at admitted
    simp only [bind, Except.bind] at admitted
    refine ⟨by rw [requireRecord_ok required]; rfl, ?_⟩
    split at admitted
    · cases admitted
    · split at admitted
      · cases admitted
      · split at admitted
        · rename_i found
          cases admitted
          exact ⟨found, by simp⟩
        · rename_i lease found
          split at admitted
          · rename_i named
            cases admitted
            refine ⟨found, ?_⟩
            rintro _ ⟨⟩
            exact named
          · cases admitted

theorem acquire_changes (operation : Operation) (request : AcquireRequest) :
    Changes operation store (acquire times fault request) := by
  apply Changes.check
  intro existing admitted
  obtain ⟨held, found, -⟩ := admitted_ok admitted
  cases existing with
  | some lease => exact .pure operation lease
  | none =>
    apply Changes.commit
    simp only [List.mem_singleton, forall_eq]
    exact .opened found held rfl

theorem lookup_lease {ledger : Ledger} (consistent : ledger.Consistent) {leaseId : String}
    {lease : ResourceLease} (found : ledger.leases.lookup leaseId = some lease) :
    lease.leaseId = leaseId :=
  (consistent.leases _ (Dictionary.lookup_eq_some.mp found)).symm

theorem lookup_of_mem {ledger : Ledger} (consistent : ledger.Consistent)
    {lease : ResourceLease} (member : lease ∈ ledger.leases.entries.map Prod.snd) :
    ledger.leases.lookup lease.leaseId = some lease := by
  obtain ⟨⟨key, value⟩, entry, rfl⟩ := List.mem_map.mp member
  have keyed : key = value.leaseId := consistent.leases _ entry
  rw [keyed] at entry
  exact Dictionary.lookup_eq_some.mpr entry

theorem release_changes (consistent : store.memory.Consistent) (leaseId : String) :
    Changes (.release leaseId) store (release times fault leaseId) := by
  apply Changes.check
  intro lease required
  have found := requireLease_ok required
  have keyed := lookup_lease consistent found
  apply Changes.commit
  simp only [List.mem_singleton, forall_eq]
  subst keyed
  exact .moved found (.released _ _)

theorem settle_changes (consistent : store.memory.Consistent) (leaseId : String) :
    Changes (.settle leaseId) store (settle times fault leaseId) := by
  apply Changes.check
  intro lease required
  have found := requireLease_ok required
  have keyed := lookup_lease consistent found
  apply Changes.commit
  simp only [List.mem_singleton, forall_eq]
  subst keyed
  exact .moved found (.settled _ _)

theorem releaseTurnLeases_changes (consistent : store.memory.Consistent)
    (turnStreamId : String) :
    Changes (.releaseTurnLeases turnStreamId) store
      (releaseTurnLeases times fault turnStreamId) := by
  change Changes _ store (Durable.check (fun store => .ok (store.memory.turnReleases times
    turnStreamId)) >>= _)
  apply Changes.check
  rintro released ⟨⟩
  split
  · exact .pure _ _
  · apply Changes.commit
    intro written member
    obtain ⟨lease, chosen, rfl⟩ := List.mem_map.mp member
    obtain ⟨listed, active⟩ := List.mem_filter.mp chosen
    simp only [decide_eq_true_eq] at active
    refine .moved (lookup_of_mem consistent listed) ?_
    rw [active.2]
    exact .turnReleased _ _

theorem reconciledLeases_mem {ledger : Ledger} {kind : Option String}
    {rows changed : List ResourceLease}
    (reconciled : ledger.reconciledLeases times kind rows = .ok changed)
    {written : ResourceLease} (member : written ∈ changed) :
    ∃ lease ∈ rows, lease.status = .active ∧
      written = lease.withStatus .reconcileRequired (times.lease lease.leaseId) := by
  induction rows generalizing changed with
  | nil =>
    cases reconciled
    cases member
  | cons lease rest ih =>
    rw [Ledger.reconciledLeases] at reconciled
    cases required : ledger.requireRecord lease.resourceId with
    | error error =>
      rw [required] at reconciled
      cases reconciled
    | ok record =>
      cases others : ledger.reconciledLeases times kind rest with
      | error error =>
        rw [required, others] at reconciled
        cases reconciled
      | ok remaining =>
        rw [required, others] at reconciled
        simp only [bind, Except.bind] at reconciled
        have later : written ∈ remaining → ∃ old ∈ lease :: rest, old.status = .active ∧
            written = old.withStatus .reconcileRequired (times.lease old.leaseId) := by
          intro present
          obtain ⟨old, listed, moved⟩ := ih others present
          exact ⟨old, List.mem_cons_of_mem _ listed, moved⟩
        split at reconciled
        · rename_i chosen
          cases reconciled
          obtain rfl | present := List.mem_cons.mp member
          · exact ⟨lease, List.mem_cons_self, chosen.1, rfl⟩
          · exact later present
        · cases reconciled
          exact later member

theorem reconcile_changes (consistent : store.memory.Consistent)
    (observed : Dictionary String String) (kind : Option String) :
    Changes (.reconcile observed kind) store (reconcile times fault observed kind) := by
  change Changes _ store (Durable.check (fun store => .ok (store.memory.reconciledRecords times
    observed kind)) >>= _)
  apply Changes.check
  rintro records ⟨⟩
  apply Changes.check
  intro changed reconciled
  apply Changes.commit
  intro written member
  obtain ⟨lease, listed, active, rfl⟩ := reconciledLeases_mem reconciled member
  refine .moved (lookup_of_mem consistent listed) ?_
  rw [active]
  exact .reconciled _ _ _

theorem unresolvedLease_ok {ledger : Ledger} {resourceId : String}
    {unresolvedLeaseId : Option String} {lease : ResourceLease}
    (unresolved : ledger.unresolvedLease resourceId unresolvedLeaseId = .ok (some lease)) :
    ∃ leaseId, unresolvedLeaseId = some leaseId ∧ ledger.leases.lookup leaseId = some lease := by
  cases unresolvedLeaseId with
  | none => cases unresolved
  | some leaseId =>
    simp only [Ledger.unresolvedLease] at unresolved
    split at unresolved
    · cases unresolved
    · split at unresolved
      · cases unresolved
      · cases unresolved
        exact ⟨leaseId, rfl, by assumption⟩

theorem updateExternalState_changes (consistent : store.memory.Consistent)
    (resourceId lifetimeScope status : String) (unresolvedLeaseId : Option String) :
    Changes (.updateExternalState resourceId lifetimeScope status unresolvedLeaseId) store
      (updateExternalState times fault resourceId lifetimeScope status unresolvedLeaseId) := by
  rw [updateExternalState]
  split
  · exact .raise _ _
  · exact .raise _ _
  · apply Changes.check
    intro record _
    apply Changes.check
    intro lease unresolved
    dsimp only
    split
    · exact .pure _ _
    · refine Meets.weaken (commit_meets _ ?_) (fun _ same => same)
        (fun _ _ committed => .inr committed) (fun _ kept => kept)
      intro written member
      obtain ⟨pending, chosen, rfl⟩ := List.mem_map.mp member
      rw [Option.mem_toList] at chosen
      obtain ⟨rfl, active⟩ := Option.filter_eq_some_iff.mp chosen
      simp only [decide_eq_true_eq] at active
      obtain ⟨leaseId, rfl, found⟩ := unresolvedLease_ok unresolved
      have keyed := lookup_lease consistent found
      subst keyed
      refine .moved found ?_
      rw [active]
      exact .unresolved _ _ _ _

theorem perform_changes (consistent : store.memory.Consistent) (operation : Operation) :
    Changes operation store (perform times fault operation) := by
  cases operation with
  | register resourceId kind lifetimeScope createdByTurnId =>
    exact (register_changes _ _ _ _ _).map _
  | registerExternal resourceId kind lifetimeScope createdByTurnId =>
    apply Changes.map
    rw [registerExternal]
    split
    · exact .raise _ _
    · exact register_changes _ _ _ _ _
  | acquire request => exact (acquire_changes _ request).map _
  | acquireOperation request => exact (acquire_changes _ _).map _
  | release leaseId => exact (release_changes consistent leaseId).map _
  | settle leaseId =>
    exact (settle_changes consistent leaseId).map fun answer => Answer.settled answer.1 answer.2
  | releaseTurnLeases turnStreamId =>
    exact (releaseTurnLeases_changes consistent turnStreamId).map _
  | reconcile observed kind => exact (reconcile_changes consistent observed kind).map _
  | updateExternalState resourceId lifetimeScope status unresolvedLeaseId =>
    exact (updateExternalState_changes consistent _ _ _ _).map fun _ => _

theorem lookup_updated {ledger : Ledger} {records : List ResourceRecord}
    {leases : List ResourceLease} (leaseId : String) :
    ((ledger.updated records leases).leases.lookup leaseId = ledger.leases.lookup leaseId) ∨
      ∃ lease ∈ leases, lease.leaseId = leaseId ∧
        (ledger.updated records leases).leases.lookup leaseId = some lease := by
  have merged : (ledger.updated records leases).leases.lookup leaseId =
      ((keyedLeases leases).lookup leaseId).or (ledger.leases.lookup leaseId) :=
    Dictionary.lookup_merge
  rw [merged]
  cases written : (keyedLeases leases).lookup leaseId with
  | none => exact .inl (Option.none_or)
  | some lease =>
    obtain ⟨keyed, member⟩ := mem_keyedLeases (Dictionary.lookup_eq_some.mp written)
    exact .inr ⟨lease, member, keyed.symm, Option.some_or⟩

theorem record_updated {ledger : Ledger} {records : List ResourceRecord}
    {leases : List ResourceLease} {resourceId : String}
    (held : (ledger.records.lookup resourceId).isSome = true) :
    ((ledger.updated records leases).records.lookup resourceId).isSome = true := by
  have merged : (ledger.updated records leases).records.lookup resourceId =
      ((keyedRecords records).lookup resourceId).or (ledger.records.lookup resourceId) :=
    Dictionary.lookup_merge
  rw [merged, Option.isSome_or, held, Bool.or_true]

theorem Operation.Writes.held {operation : Operation} {ledger : Ledger} {lease : ResourceLease}
    (consistent : ledger.Consistent) (writes : operation.Writes ledger lease) :
    (ledger.records.lookup lease.resourceId).isSome = true := by
  cases writes with
  | opened _ held _ => exact held
  | moved found _ => exact consistent.held _ (Dictionary.lookup_eq_some.mp found)

theorem Ledger.Consistent.updated {ledger : Ledger} (consistent : ledger.Consistent)
    {operation : Operation} {records : List ResourceRecord} {leases : List ResourceLease}
    (writes : ∀ lease ∈ leases, operation.Writes ledger lease) :
    (ledger.updated records leases).Consistent where
  records := by
    intro entry member
    obtain old | new := Dictionary.mem_insertAll member
    · exact consistent.records entry old
    · exact mem_keyedRecords new
  leases := by
    intro entry member
    obtain old | new := Dictionary.mem_insertAll member
    · exact consistent.leases entry old
    · exact (mem_keyedLeases new).1
  held := by
    intro entry member
    apply record_updated
    obtain old | new := Dictionary.mem_insertAll member
    · exact consistent.held entry old
    · exact (writes _ (mem_keyedLeases new).2).held consistent

structure Store.Durable (store : Store) : Prop where
  loaded : store.memory = load store.file
  consistent : store.memory.Consistent

theorem Store.Durable.fresh : Store.fresh.Durable where
  loaded := rfl
  consistent := by
    constructor <;> simp [Store.fresh, load, Dictionary.empty]

theorem Store.Durable.kept {next : Store} (durable : store.Durable) (kept : Kept store next) :
    next.Durable where
  loaded := by rw [kept.1, kept.2, durable.loaded]
  consistent := by
    rw [kept.1]
    exact durable.consistent

theorem Store.Durable.committed {next : Store} {operation : Operation}
    (durable : store.Durable) (committed : Committed operation store next) :
    next.Durable := by
  obtain ⟨records, leases, memory, file, writes⟩ := committed
  have consistent : next.memory.Consistent := by
    rw [memory]
    exact durable.consistent.updated writes
  exact ⟨by rw [file, load_snapshot consistent], consistent⟩

theorem perform_kept_or_committed (durable : store.Durable) (operation : Operation) :
    Kept store (perform times fault operation store).2 ∨
      Committed operation store (perform times fault operation store).2 := by
  have changes : Changes operation store (perform times fault operation) :=
    perform_changes durable.consistent operation
  obtain ⟨-, kept | committed⟩ | kept := changes.ends rfl
  · exact .inl kept
  · exact .inr committed
  · exact .inl kept

theorem Store.Durable.after (durable : store.Durable) (event : Event) :
    (store.after event).Durable := by
  cases event with
  | call operation times fault =>
    obtain kept | committed := perform_kept_or_committed durable operation
    · exact durable.kept kept
    · exact durable.committed committed
  | restart => exact durable.kept ⟨durable.loaded.symm, rfl⟩

theorem Store.Durable.run (durable : store.Durable) (events : List Event) :
    (store.run events).Durable := by
  induction events generalizing store with
  | nil => exact durable
  | cons event events ih => exact ih (durable.after event)

theorem leases_keep_resources (events : List Event) :
    (Store.fresh.run events).memory.Consistent :=
  (Store.Durable.fresh.run events).consistent

theorem Reached.durable (reached : Reached store) : store.Durable := by
  obtain ⟨events, rfl⟩ := reached
  exact Store.Durable.fresh.run events

def Event.Moves (leaseId : String) (old new : LeaseStatus) : Event → Prop
  | .call operation _ _ => operation.Moves leaseId old new
  | .restart => False

/-- `release` and `settle` of the lease itself. -/
def Event.Ends (leaseId : String) : Event → Prop
  | .call (.release ended) _ _ => ended = leaseId
  | .call (.settle ended) _ _ => ended = leaseId
  | _ => False

theorem after_lease (durable : store.Durable) (event : Event) {leaseId : String}
    {lease : ResourceLease} (found : store.memory.leases.lookup leaseId = some lease) :
    ∃ next, (store.after event).memory.leases.lookup leaseId = some next ∧
      (next = lease ∨ ∃ status now, next = lease.withStatus status now ∧
        event.Moves leaseId lease.status status) := by
  have keyed := lookup_lease durable.consistent found
  cases event with
  | call operation times fault =>
    obtain kept | ⟨records, leases, memory, -, writes⟩ :=
      perform_kept_or_committed durable operation
    · refine ⟨lease, ?_, .inl rfl⟩
      rw [Store.after, kept.1, found]
    · rw [Store.after, memory]
      obtain same | ⟨written, member, named, new⟩ :=
        lookup_updated leaseId
      · exact ⟨lease, same.trans found, .inl rfl⟩
      · refine ⟨written, new, .inr ?_⟩
        cases writes written member with
        | opened fresh _ _ =>
          rw [named, found] at fresh
          cases fresh
        | @moved old status now old' moves =>
          change old.leaseId = leaseId at named
          rw [named, found] at old'
          cases old'
          rw [named] at moves
          exact ⟨status, now, rfl, moves⟩
  | restart =>
    refine ⟨lease, ?_, .inl rfl⟩
    change (load store.file).leases.lookup leaseId = some lease
    rw [← durable.loaded, found]

theorem Event.Moves.ends_or_active {event : Event} {leaseId : String} {old new : LeaseStatus}
    (moves : event.Moves leaseId old new) : event.Ends leaseId ∨ old = .active := by
  cases event with
  | call operation times fault =>
    cases moves with
    | released _ _ => exact .inl rfl
    | settled _ _ => exact .inl rfl
    | turnReleased _ _ => exact .inr rfl
    | reconciled _ _ _ => exact .inr rfl
    | unresolved _ _ _ _ => exact .inr rfl
  | restart => cases moves

theorem run_lease (durable : store.Durable) {events : List Event} {leaseId : String}
    {lease : ResourceLease} (found : store.memory.leases.lookup leaseId = some lease)
    (inactive : lease.status ≠ .active) (others : ∀ event ∈ events, ¬event.Ends leaseId) :
    (store.run events).memory.leases.lookup leaseId = some lease := by
  induction events generalizing store with
  | nil => exact found
  | cons event events ih =>
    obtain ⟨next, present, rfl | ⟨status, now, -, moves⟩⟩ := after_lease durable event found
    · apply ih (durable.after event) present
      exact fun other member => others other (List.mem_cons_of_mem _ member)
    · obtain ends | active := moves.ends_or_active
      · exact absurd ends (others event List.mem_cons_self)
      · exact absurd active inactive

theorem leasesForResource_mem {ledger : Ledger} (consistent : ledger.Consistent)
    {leaseId : String} {lease : ResourceLease}
    (found : ledger.leases.lookup leaseId = some lease)
    (unsettled : lease.status.isUnsettled = true) :
    ∃ listed, ledger.leasesForResource lease.resourceId = .ok listed ∧ lease ∈ listed := by
  have entry := Dictionary.lookup_eq_some.mp found
  obtain ⟨record, recorded⟩ := Option.isSome_iff_exists.mp (consistent.held _ entry)
  have required : ledger.requireRecord lease.resourceId = .ok record := by
    rw [Ledger.requireRecord, show ledger.records.lookup lease.resourceId = _ from recorded]
  refine ⟨_, by rw [Ledger.leasesForResource, required]; rfl, ?_⟩
  apply List.mem_filter.mpr
  exact ⟨List.mem_map.mpr ⟨_, entry, rfl⟩, by simp [unsettled]⟩

theorem acquire_returned (durable : store.Durable) {request : AcquireRequest}
    {lease : ResourceLease} {next : Store}
    (returned : acquire times fault request store = (.ok lease, next)) :
    (∃ listed, next.memory.leasesForResource lease.resourceId = .ok listed ∧ lease ∈ listed) ∨
      (lease.status.isUnsettled = false ∧
        store.memory.leases.lookup request.leaseId = some lease ∧ Kept store next) := by
  obtain ⟨existing, seen, checked, rest⟩ := bind_returned returned
  obtain ⟨admitted, rfl⟩ := Prod.mk.inj checked
  obtain ⟨held, found, -⟩ := admitted_ok admitted
  cases existing with
  | some existing =>
    cases rest
    cases unsettled : lease.status.isUnsettled with
    | true => exact .inl (leasesForResource_mem durable.consistent found unsettled)
    | false => exact .inr ⟨rfl, found, rfl, rfl⟩
  | none =>
    obtain ⟨_, last, committed, answered⟩ := bind_returned rest
    cases answered
    left
    obtain _ | (_ | _ | _ | _ | _) := fault <;> cases committed
    have opened : ∀ lease ∈ [request.lease (times.lease request.leaseId)],
        (Operation.acquire request).Writes store.memory lease := by
      simp only [List.mem_singleton, forall_eq]
      exact .opened found held rfl
    have present : (store.memory.updated []
        [request.lease (times.lease request.leaseId)]).leases.lookup request.leaseId =
        some (request.lease (times.lease request.leaseId)) :=
      Dictionary.lookup_insert_self
    have consistent := @Ledger.Consistent.updated _ durable.consistent _ [] _ opened
    exact leasesForResource_mem consistent present rfl

/-- Memory and file agree and a call that raises changes neither; only `release` and
`settle` of a lease end it once it is not active; and `acquire` returns a lease that is
listed, or the ended one of its keys. -/
theorem ledger_keeps_unknown_operations {store : Store} (reached : Reached store) :
    store.memory = load store.file ∧
    (∀ operation times fault error next,
      perform times fault operation store = (.error error, next) → Kept store next) ∧
    (∀ event leaseId lease, store.memory.leases.lookup leaseId = some lease →
      ∃ next, (store.after event).memory.leases.lookup leaseId = some next ∧
        (next = lease ∨ ∃ status now, next = lease.withStatus status now ∧
          event.Moves leaseId lease.status status)) ∧
    (∀ events leaseId lease, store.memory.leases.lookup leaseId = some lease →
      lease.status ≠ .active → (∀ event ∈ events, ¬event.Ends leaseId) →
      (store.run events).memory.leases.lookup leaseId = some lease ∧
        (lease.status = .reconcileRequired →
          ∃ listed, (store.run events).memory.leasesForResource lease.resourceId = .ok listed ∧
            lease ∈ listed)) ∧
    ∀ request times fault lease next,
      acquire times fault request store = (.ok lease, next) →
      (∃ listed, next.memory.leasesForResource lease.resourceId = .ok listed ∧
        lease ∈ listed) ∨
      (lease.status.isUnsettled = false ∧
        store.memory.leases.lookup request.leaseId = some lease ∧ Kept store next) := by
  have durable := reached.durable
  refine ⟨durable.loaded, ?_, ?_, ?_, ?_⟩
  · intro operation times fault error next raised
    have changes : Changes operation store (perform times fault operation) :=
      perform_changes durable.consistent operation
    exact changes.raises store rfl error next raised
  · exact fun event leaseId lease found => after_lease durable event found
  · intro events leaseId lease found inactive others
    have kept := run_lease durable found inactive others
    refine ⟨kept, fun unknown => ?_⟩
    exact leasesForResource_mem (durable.run events).consistent kept (by rw [unknown]; rfl)
  · exact fun request times fault lease next returned => acquire_returned durable returned

def sampleTimes : Times :=
  ⟨fun _ => "now", fun _ => "now"⟩

def sampleRequest : AcquireRequest :=
  ⟨"terminal", "turn", "lease", "operation", none, none, true, true⟩

def sampleLease (status : LeaseStatus) : ResourceLease :=
  (sampleRequest.lease "now").withStatus status "now"

def crashedEvents : List Event :=
  [.call (.register "terminal" "terminal" "workspace" none) sampleTimes none,
    .call (.acquire sampleRequest) sampleTimes none, .restart,
    .call (.reconcile .empty none) sampleTimes none]

theorem crashed_lease :
    (Store.fresh.run crashedEvents).memory.leases.lookup "lease" =
      some (sampleLease .reconcileRequired) := by
  decide +kernel

/-- Turn clean-up, another reconcile and a restart leave the unknown operation listed. -/
theorem crashed_stays :
    ((Store.fresh.run crashedEvents).run
      [.call (.releaseTurnLeases "turn") sampleTimes none,
        .call (.reconcile .empty none) sampleTimes (some .syncing), .restart]).memory.leases.lookup
      "lease" = some (sampleLease .reconcileRequired) :=
  ((ledger_keeps_unknown_operations ⟨crashedEvents, rfl⟩).2.2.2.1 _ "lease" _ crashed_lease
    (by decide) (by simp [Event.Ends])).1

/-- A late `release` ends the unknown operation, and `acquire` with its keys then returns
a lease that is not listed. -/
theorem late_release :
    (Store.fresh.run crashedEvents).memory.leases.lookup "lease" =
      some (sampleLease .reconcileRequired) ∧
    (Store.fresh.run (crashedEvents ++
      [.call (.release "lease") sampleTimes none])).memory.leases.lookup "lease" =
      some (sampleLease .released) ∧
    (Store.fresh.run (crashedEvents ++
      [.call (.release "lease") sampleTimes none])).memory.leasesForResource "terminal" =
      .ok [] ∧
    (acquire sampleTimes none sampleRequest
      (Store.fresh.run (crashedEvents ++ [.call (.release "lease") sampleTimes none]))).1 =
      .ok (sampleLease .released) := by
  decide +kernel

end GraphAgent.ResourceLedger
