import GraphAgent.NavigationTransitions

/-!
# Progress of a row

What a transition leaves of every row: its intent, what a terminal row records,
the hold of the current owner, and the committed deletes.  A row ends by
execution only behind rows that were terminal before the transition.
-/

namespace GraphAgent.Navigation

open KeyedRows

namespace NavigationQueue

def RowsKept (before after : NavigationQueue) : Prop :=
  ∀ row ∈ before.records, ∃ later ∈ after.records,
    later.toAcceptedIntent = row.toAcceptedIntent ∧
      (row.isTerminal = true → TerminalKept row later)

def Ready (queue : NavigationQueue) (intent : AcceptedIntent) : Prop :=
  queue.EarlierTerminal intent ∧
    ∀ dependencyId ∈ intent.dependencyIds, ∃ earlier ∈ queue.records,
      earlier.key.workspaceId = intent.key.workspaceId ∧
        earlier.key.operationId = dependencyId ∧
          earlier.queueSeq < intent.queueSeq ∧ earlier.isTerminal = true

def ExecutedInOrder (before after : NavigationQueue) : Prop :=
  ∀ later ∈ after.records, later.isTerminal = true → later.state ≠ .dependencyFailed →
    ∃ row ∈ before.records, row.toAcceptedIntent = later.toAcceptedIntent ∧
      (row.isTerminal = true ∨ before.Ready later.toAcceptedIntent)

/-- Terminal, or running for this owner. -/
def Held (owner : NavigationQueueOwner) (row : NavigationMutationRecord) : Prop :=
  row.isTerminal = true ∨ (row.state = .running ∧ row.holderId = some owner.holderId)

def HoldsKept (before after : NavigationQueue) : Prop :=
  ∀ owner, before.fetchOwner owner.workspaceId = some owner →
    ∀ row ∈ before.records, row.key.workspaceId = owner.workspaceId → Held owner row →
      ∃ later ∈ after.records, later.toAcceptedIntent = row.toAcceptedIntent ∧ Held owner later

def DeletesKept (before after : NavigationQueue) (ended : AcceptedIntent → Prop) : Prop :=
  ∀ later ∈ after.records, later.isSubtreeDelete = true → later.state = .committed →
    (∃ row ∈ before.records, row.toAcceptedIntent = later.toAcceptedIntent ∧
      row.state = .committed ∧ (later.pendingSettlement = true → row.pendingSettlement = true)) ∨
    ended later.toAcceptedIntent

theorem RowsKept.refl (queue : NavigationQueue) : RowsKept queue queue :=
  fun row member => ⟨row, member, rfl, fun _ => .refl row⟩

theorem RowsKept.trans {first second third : NavigationQueue} (early : RowsKept first second)
    (late : RowsKept second third) : RowsKept first third := by
  intro row member
  obtain ⟨middle, middleMember, middleIntent, middleKept⟩ := early row member
  obtain ⟨later, laterMember, laterIntent, laterKept⟩ := late middle middleMember
  refine ⟨later, laterMember, laterIntent.trans middleIntent, ?_⟩
  intro terminal
  have kept := middleKept terminal
  have middleTerminal : middle.isTerminal = true := by
    rw [NavigationMutationRecord.isTerminal, kept.state]
    exact terminal
  exact kept.trans middleIntent (laterKept middleTerminal)

theorem HoldsKept.trans {first second third : NavigationQueue} (early : HoldsKept first second)
    (sameOwners : second.owners = first.owners) (late : HoldsKept second third) :
    HoldsKept first third := by
  intro owner current row member sameWorkspace held
  obtain ⟨middle, middleMember, middleIntent, middleHeld⟩ :=
    early owner current row member sameWorkspace held
  have middleCurrent : second.fetchOwner owner.workspaceId = some owner := by
    rw [fetchOwner, sameOwners]
    exact current
  have middleWorkspace : middle.key.workspaceId = owner.workspaceId := by
    rw [middleIntent]
    exact sameWorkspace
  obtain ⟨later, laterMember, laterIntent, laterHeld⟩ :=
    late owner middleCurrent middle middleMember middleWorkspace middleHeld
  exact ⟨later, laterMember, laterIntent.trans middleIntent, laterHeld⟩

theorem DeletesKept.trans {first second third : NavigationQueue}
    {ended : AcceptedIntent → Prop} (early : DeletesKept first second ended)
    (late : DeletesKept second third ended) : DeletesKept first third ended := by
  intro later laterMember subtree committed
  rcases late later laterMember subtree committed with
    ⟨middle, middleMember, middleIntent, middleCommitted, middlePending⟩ | endedHere
  · have middleSubtree : middle.isSubtreeDelete = true := by
      rw [middleIntent]
      exact subtree
    rcases early middle middleMember middleSubtree middleCommitted with
      ⟨row, member, intent, rowCommitted, pending⟩ | endedHere
    · exact .inl ⟨row, member, intent.trans middleIntent, rowCommitted,
        fun laterPending => pending (middlePending laterPending)⟩
    · exact .inr (middleIntent ▸ endedHere)
  · exact .inr endedHere

section Moves

variable {queue next : NavigationQueue}

theorem Keeps.rowsKept {change : NavigationMutationRecord → NavigationMutationRecord}
    (keeps : Keeps queue change) (mapped : next.records = queue.records.map change) :
    RowsKept queue next := by
  intro row member
  refine ⟨change row, ?_, keeps.intent row member, keeps.terminal row member⟩
  rw [mapped]
  exact List.mem_map_of_mem member

theorem Accepted.owners (acceptance : Accepted queue next) : next.owners = queue.owners := by
  cases acceptance with
  | accepted => rfl

theorem Accepted.records (acceptance : Accepted queue next) :
    ∃ record, record.state = .queued ∧ next.records = queue.records ++ [record] := by
  cases acceptance with
  | accepted record fresh sequence dependencies queued settled => exact ⟨record, queued, rfl⟩

theorem Accepted.rowsKept (acceptance : Accepted queue next) : RowsKept queue next := by
  obtain ⟨record, queued, records⟩ := acceptance.records
  intro row member
  exact ⟨row, by simp [records, member], rfl, fun _ => .refl row⟩

theorem Accepted.holdsKept (acceptance : Accepted queue next) : HoldsKept queue next := by
  obtain ⟨record, queued, records⟩ := acceptance.records
  intro owner current row member sameWorkspace held
  exact ⟨row, by simp [records, member], rfl, held⟩

theorem Accepted.earlier_row (acceptance : Accepted queue next)
    {row : NavigationMutationRecord} (member : row ∈ next.records)
    (started : row.state ≠ .queued) : row ∈ queue.records := by
  obtain ⟨record, queued, records⟩ := acceptance.records
  rw [records] at member
  rcases List.mem_append.mp member with old | new
  · exact old
  · rw [List.mem_singleton.mp new] at started
    exact absurd queued started

theorem acceptances_owners (acceptances : Relation.ReflTransGen Accepted queue next) :
    next.owners = queue.owners := by
  induction acceptances with
  | refl => rfl
  | tail _ acceptance ih => exact acceptance.owners.trans ih

theorem acceptances_rowsKept (acceptances : Relation.ReflTransGen Accepted queue next) :
    RowsKept queue next := by
  induction acceptances with
  | refl => exact .refl queue
  | tail _ acceptance ih => exact ih.trans acceptance.rowsKept

theorem acceptances_holdsKept (acceptances : Relation.ReflTransGen Accepted queue next) :
    HoldsKept queue next := by
  induction acceptances with
  | refl => exact fun owner _ row member _ held => ⟨row, member, rfl, held⟩
  | tail earlier acceptance ih =>
    exact ih.trans (acceptances_owners earlier) acceptance.holdsKept

theorem acceptances_earlier_row (acceptances : Relation.ReflTransGen Accepted queue next)
    {row : NavigationMutationRecord} (member : row ∈ next.records)
    (started : row.state ≠ .queued) : row ∈ queue.records := by
  induction acceptances with
  | refl => exact member
  | tail _ acceptance ih => exact ih (acceptance.earlier_row member started)

theorem Revised.owners (revised : Revised queue next) : next.owners = queue.owners := by
  cases revised with
  | revised => rfl

theorem Revised.refl (queue : NavigationQueue) : Revised queue queue := by
  have revised : Revised queue { queue with records := queue.records.map id } :=
    .revised id fun row _ => .kept
  rwa [List.map_id] at revised

theorem Revised.row (revised : Revised queue next) {later : NavigationMutationRecord}
    (member : later ∈ next.records) : ∃ row ∈ queue.records, Revision queue row later := by
  cases revised with
  | revised change revision =>
    obtain ⟨row, rowMember, rfl⟩ := List.mem_map.mp member
    exact ⟨row, rowMember, revision row rowMember⟩

theorem Revised.rowsKept (invariant : Invariant queue) (revised : Revised queue next) :
    RowsKept queue next := by
  cases revised with
  | revised change revision =>
    intro row member
    obtain ⟨intent, terminal⟩ := (revision row member).keeps invariant member
    exact ⟨change row, List.mem_map_of_mem member, intent, terminal⟩

theorem Revision.held {row later : NavigationMutationRecord} (revision : Revision queue row later)
    {owner : NavigationQueueOwner}
    (current : queue.fetchOwner row.key.workspaceId = some owner) (held : Held owner row) :
    Held owner later := by
  rcases held with terminal | ⟨running, holder⟩
  · left
    rw [revision.isTerminal]
    exact terminal
  · cases revision with
    | kept => exact .inr ⟨running, holder⟩
    | claimed holderId now queued first =>
      rw [queued] at running
      cases running
    | released now _ superseded => exact absurd holder (superseded owner current)
    | settled now committed pending =>
      rw [committed] at running
      cases running
    | repaired detail now committed pending =>
      rw [committed] at running
      cases running

theorem Revised.holdsKept (invariant : Invariant queue) (revised : Revised queue next) :
    HoldsKept queue next := by
  cases revised with
  | revised change revision =>
    intro owner current row member sameWorkspace held
    have rowRevision := revision row member
    refine ⟨change row, List.mem_map_of_mem member, (rowRevision.keeps invariant member).1, ?_⟩
    exact rowRevision.held (sameWorkspace.symm ▸ current) held

theorem Revised.deletesKept (invariant : Invariant queue) (revised : Revised queue next)
    (ended : AcceptedIntent → Prop) : DeletesKept queue next ended := by
  intro later laterMember subtree committed
  obtain ⟨row, member, revision⟩ := revised.row laterMember
  refine .inl ⟨row, member, ((revision.keeps invariant member).1).symm,
    revision.committed_iff.mp committed, ?_⟩
  intro pending
  cases revision with
  | kept => exact pending
  | claimed => exact pending
  | released => exact pending
  | settled => cases pending
  | repaired => exact pending

theorem Revised.ready (invariant : Invariant queue) (revised : Revised queue next)
    {intent : AcceptedIntent} (member : intent ∈ queue.records.map (·.toAcceptedIntent))
    (first : next.EarlierTerminal intent) : queue.Ready intent := by
  have earlierTerminal : queue.EarlierTerminal intent := by
    intro earlier earlierMember sameWorkspace sooner
    cases revised with
    | revised change revision =>
      have earlierRevision := revision earlier earlierMember
      have same := (earlierRevision.keeps invariant earlierMember).1
      rw [← earlierRevision.isTerminal]
      apply first (change earlier) (List.mem_map_of_mem earlierMember)
      · rw [same]
        exact sameWorkspace
      · rw [same]
        exact sooner
  refine ⟨earlierTerminal, ?_⟩
  intro dependencyId reference
  obtain ⟨earlier, earlierMember, sameWorkspace, sameOperation, sooner⟩ :=
    invariant.accepted.dependenciesEarlier intent member dependencyId reference
  obtain ⟨row, rowMember, rfl⟩ := List.mem_map.mp earlierMember
  exact ⟨row, rowMember, sameWorkspace, sameOperation, sooner,
    earlierTerminal row rowMember sameWorkspace sooner⟩

variable {intent : AcceptedIntent} {state : NavigationMutationState}

theorem Finished.owners (finish : Finished queue intent state next) :
    next.owners = queue.owners := by
  cases finish with
  | finished => rfl

theorem Finished.rowsKept (invariant : Invariant queue)
    (finish : Finished queue intent state next) : RowsKept queue next := by
  cases finish with
  | finished row member running write now executed pending event eventKey eventState =>
    exact (invariant.finished_keeps member running write now).rowsKept rfl

theorem Finished.row (invariant : Invariant queue) (finish : Finished queue intent state next)
    {later : NavigationMutationRecord} (member : later ∈ next.records) :
    later ∈ queue.records ∨
      (later.toAcceptedIntent = intent ∧ later.state = state ∧
        ∃ row ∈ queue.records, row.toAcceptedIntent = intent ∧ row.state = .running) := by
  cases finish with
  | finished row rowMember running write now executed pending event eventKey eventState =>
    obtain ⟨other, otherMember, rfl⟩ := List.mem_map.mp member
    by_cases same : other.key = row.key
    · right
      rw [invariant.eq_of_key_eq otherMember rowMember same]
      simp only [decide_true, if_true]
      exact ⟨rfl, rfl, row, rowMember, rfl, running⟩
    · left
      simp only [same, decide_false, Bool.false_eq_true, if_false]
      exact otherMember

theorem Finished.ended (finish : Finished queue intent state next) :
    state.isTerminal = true ∧
      ∃ later ∈ next.records, later.toAcceptedIntent = intent ∧ later.state = state := by
  cases finish with
  | finished row member running write now executed pending event eventKey eventState =>
    refine ⟨isTerminal_of_executed executed, finishedRecord write now row, ?_, rfl, rfl⟩
    exact List.mem_map.mpr ⟨row, member, by simp⟩

theorem Finished.holdsKept (invariant : Invariant queue)
    (finish : Finished queue intent state next) : HoldsKept queue next := by
  intro owner current row member sameWorkspace held
  obtain ⟨later, laterMember, sameIntent, kept⟩ := finish.rowsKept invariant row member
  refine ⟨later, laterMember, sameIntent, ?_⟩
  rcases finish.row invariant laterMember with old | ⟨-, ended, -⟩
  · rwa [← invariant.eq_of_key_eq member old (congrArg AcceptedIntent.key sameIntent).symm]
  · left
    rw [NavigationMutationRecord.isTerminal, ended]
    exact finish.ended.1

theorem Finished.deletesKept (invariant : Invariant queue)
    (finish : Finished queue intent state next) :
    DeletesKept queue next fun ended => ended = intent ∧ state = .committed := by
  intro later laterMember subtree committed
  rcases finish.row invariant laterMember with old | ⟨sameIntent, sameState, -⟩
  · exact .inl ⟨later, old, rfl, committed, id⟩
  · exact .inr ⟨sameIntent, sameState.symm.trans committed⟩

theorem SuccessorsFailed.owners (successors : SuccessorsFailed queue next) :
    next.owners = queue.owners := by
  cases successors with
  | failed => rfl

theorem SuccessorsFailed.rowsKept (invariant : Invariant queue)
    (successors : SuccessorsFailed queue next) : RowsKept queue next := by
  cases successors with
  | failed keys distinct queued failedOperationId revision now events eventKeys eventStates =>
    exact (invariant.failed_keeps queued failedOperationId revision now).rowsKept rfl

theorem SuccessorsFailed.row (successors : SuccessorsFailed queue next)
    {later : NavigationMutationRecord} (member : later ∈ next.records) :
    later ∈ queue.records ∨ later.state = .dependencyFailed := by
  cases successors with
  | failed keys distinct queued failedOperationId revision now events eventKeys eventStates =>
    obtain ⟨row, rowMember, rfl⟩ := List.mem_map.mp member
    by_cases listed : row.key ∈ keys
    · right
      simp [listed, dependencyFailedRecord]
    · left
      simpa [listed] using rowMember

theorem SuccessorsFailed.holdsKept (invariant : Invariant queue)
    (successors : SuccessorsFailed queue next) : HoldsKept queue next := by
  intro owner current row member sameWorkspace held
  obtain ⟨later, laterMember, sameIntent, kept⟩ := successors.rowsKept invariant row member
  refine ⟨later, laterMember, sameIntent, ?_⟩
  rcases successors.row laterMember with old | failed
  · rwa [← invariant.eq_of_key_eq member old (congrArg AcceptedIntent.key sameIntent).symm]
  · left
    rw [NavigationMutationRecord.isTerminal, failed]
    rfl

theorem SuccessorsFailed.deletesKept (successors : SuccessorsFailed queue next)
    (ended : AcceptedIntent → Prop) : DeletesKept queue next ended := by
  intro later laterMember subtree committed
  rcases successors.row laterMember with old | failed
  · exact .inl ⟨later, old, rfl, committed, id⟩
  · rw [failed] at committed
    cases committed

theorem SuccessorsFailed.refl (queue : NavigationQueue) : SuccessorsFailed queue queue := by
  have none : SuccessorsFailed queue
      { queue with
        records := updateWhere (fun row => row.key ∈ ([] : List RecordKey))
          (dependencyFailedRecord "" 0 "") queue.records
        events := queue.events ++ [] } :=
    .failed [] .nil (by simp) "" 0 "" [] rfl (by simp)
  simpa [updateWhere] using none

theorem Execution.owners (execution : Execution queue intent state next) :
    next.owners = queue.owners := by
  obtain ⟨revision, finish, successors⟩ := execution
  exact successors.owners.trans (finish.owners.trans revision.owners)

theorem Execution.deletesKept (invariant : Invariant queue)
    (execution : Execution queue intent state next) :
    DeletesKept queue next fun ended => ended = intent ∧ state = .committed := by
  obtain ⟨revision, finish, successors⟩ := execution
  have prepared := revision.invariant invariant
  exact ((revision.deletesKept invariant _).trans (finish.deletesKept prepared)).trans
    (successors.deletesKept _)

theorem Execution.ended (invariant : Invariant queue)
    (execution : Execution queue intent state next) :
    ∃ later ∈ next.records, later.toAcceptedIntent = intent ∧ later.state = state := by
  obtain ⟨revision, finish, successors⟩ := execution
  have finished := finish.invariant (revision.invariant invariant)
  obtain ⟨terminal, row, member, sameIntent, sameState⟩ := finish.ended
  obtain ⟨later, laterMember, laterIntent, kept⟩ := successors.rowsKept finished row member
  have rowTerminal : row.isTerminal = true := by
    rw [NavigationMutationRecord.isTerminal, sameState]
    exact terminal
  exact ⟨later, laterMember, laterIntent.trans sameIntent,
    (kept rowTerminal).state.trans sameState⟩

theorem Transition.owners (transition : Transition queue next) : next.owners = queue.owners := by
  cases transition with
  | accepted acceptances => exact acceptances_owners acceptances
  | revised revision => exact revision.owners
  | executed execution => exact execution.owners

theorem Transition.rowsKept (invariant : Invariant queue) (transition : Transition queue next) :
    RowsKept queue next := by
  cases transition with
  | accepted acceptances => exact acceptances_rowsKept acceptances
  | revised revision => exact revision.rowsKept invariant
  | executed execution =>
    obtain ⟨revision, finish, successors⟩ := execution
    have prepared := revision.invariant invariant
    have finished := finish.invariant prepared
    exact ((revision.rowsKept invariant).trans (finish.rowsKept prepared)).trans
      (successors.rowsKept finished)

theorem Transition.holdsKept (invariant : Invariant queue) (transition : Transition queue next) :
    HoldsKept queue next := by
  cases transition with
  | accepted acceptances => exact acceptances_holdsKept acceptances
  | revised revision => exact revision.holdsKept invariant
  | executed execution =>
    obtain ⟨revision, finish, successors⟩ := execution
    have prepared := revision.invariant invariant
    have finished := finish.invariant prepared
    exact ((revision.holdsKept invariant).trans revision.owners
      (finish.holdsKept prepared)).trans (finish.owners.trans revision.owners)
        (successors.holdsKept finished)

theorem Transition.executedInOrder (invariant : Invariant queue)
    (transition : Transition queue next) : ExecutedInOrder queue next := by
  intro later laterMember terminal executed
  cases transition with
  | accepted acceptances =>
    have started : later.state ≠ .queued := by
      intro queued
      rw [NavigationMutationRecord.isTerminal, queued] at terminal
      cases terminal
    exact ⟨later, acceptances_earlier_row acceptances laterMember started, rfl, .inl terminal⟩
  | revised revision =>
    obtain ⟨row, member, rowRevision⟩ := revision.row laterMember
    refine ⟨row, member, (rowRevision.keeps invariant member).1.symm, .inl ?_⟩
    rw [← rowRevision.isTerminal]
    exact terminal
  | executed execution =>
    obtain ⟨revision, finish, successors⟩ := execution
    have prepared := revision.invariant invariant
    rcases successors.row laterMember with finishedRow | failed
    · rcases finish.row prepared finishedRow with
        preparedRow | ⟨sameIntent, -, held, heldMember, heldIntent, running⟩
      · obtain ⟨row, member, rowRevision⟩ := revision.row preparedRow
        refine ⟨row, member, (rowRevision.keeps invariant member).1.symm, .inl ?_⟩
        rw [← rowRevision.isTerminal]
        exact terminal
      · obtain ⟨row, member, rowRevision⟩ := revision.row heldMember
        have rowIntent : row.toAcceptedIntent = later.toAcceptedIntent :=
          ((rowRevision.keeps invariant member).1.symm.trans heldIntent).trans sameIntent.symm
        refine ⟨row, member, rowIntent, .inr ?_⟩
        have first := prepared.runningFirst held heldMember running
        rw [heldIntent, ← sameIntent] at first
        apply revision.ready invariant _ first
        rw [← rowIntent]
        exact List.mem_map_of_mem member
    · exact absurd failed executed

end Moves

end NavigationQueue

end GraphAgent.Navigation
