import GraphAgent.NavigationQueueStore

/-!
# Transitions of the queue

What one transaction can do to the queue tables, without the nodes, the journal
and the workers.  It accepts intents, or it revises rows without ending any and
may then end one running row, together with its event, and fail queued rows that
refer to it.
-/

namespace GraphAgent.Navigation

open KeyedRows

namespace NavigationQueue

def EarlierTerminal (queue : NavigationQueue) (intent : AcceptedIntent) : Prop :=
  ∀ earlier ∈ queue.records, earlier.key.workspaceId = intent.key.workspaceId →
    earlier.queueSeq < intent.queueSeq → earlier.isTerminal = true

/-- What can happen to a row without ending it or reopening it. -/
inductive Revision (queue : NavigationQueue) (row : NavigationMutationRecord) :
    NavigationMutationRecord → Prop
  | kept : Revision queue row row
  | claimed (holderId now : String) (queued : row.state = .queued)
      (first : queue.EarlierTerminal row.toAcceptedIntent) :
      Revision queue row (claimedRecord holderId now row)
  | released (now : String) (running : row.state = .running)
      (superseded : ∀ owner, queue.fetchOwner row.key.workspaceId = some owner →
        row.holderId ≠ some owner.holderId) :
      Revision queue row (releasedRecord now row)
  | settled (now : String) (committed : row.state = .committed)
      (pending : row.pendingSettlement = true) :
      Revision queue row (settledRecord now row)
  | repaired (detail now : String) (committed : row.state = .committed)
      (pending : row.pendingSettlement = true) :
      Revision queue row (repairRecord detail now row)

inductive Accepted (queue : NavigationQueue) : NavigationQueue → Prop
  | accepted (record : NavigationMutationRecord)
      (fresh : queue.fetchRecord record.key = none)
      (sequence : record.queueSeq = queue.nextQueueSeq record.key.workspaceId)
      (dependencies : ∀ dependencyId ∈ record.dependencyIds,
        queue.referencedRecords record.key.workspaceId dependencyId ≠ [])
      (queued : record.state = .queued) (settled : record.pendingSettlement = false) :
      Accepted queue { queue with records := queue.records ++ [record] }

inductive Revised (queue : NavigationQueue) : NavigationQueue → Prop
  | revised (change : NavigationMutationRecord → NavigationMutationRecord)
      (revision : ∀ row ∈ queue.records, Revision queue row (change row)) :
      Revised queue { queue with records := queue.records.map change }

inductive Finished (queue : NavigationQueue) :
    AcceptedIntent → NavigationMutationState → NavigationQueue → Prop
  | finished (row : NavigationMutationRecord) (member : row ∈ queue.records)
      (running : row.state = .running) (write : TerminalWrite) (now : String)
      (executed : write.state = .committed ∨ write.state = .rejected)
      (pending : write.pendingSettlement = true →
        write.state = .committed ∧ row.isSubtreeDelete = true)
      (event : NavigationEventRecord) (eventKey : event.key = row.key)
      (eventState : event.resultState = write.state) :
      Finished queue row.toAcceptedIntent write.state
        { queue with
          records := updateWhere (fun other => other.key = row.key) (finishedRecord write now)
            queue.records
          events := queue.events ++ [event]
          appliedChanges := queue.appliedChanges ++
            if write.state = .committed then [some row.key] else [] }

inductive SuccessorsFailed (queue : NavigationQueue) : NavigationQueue → Prop
  | failed (keys : List RecordKey) (distinct : keys.Nodup)
      (queued : ∀ key ∈ keys, ∃ row ∈ queue.records, row.key = key ∧ row.state = .queued)
      (failedOperationId : String) (revision : Nat) (now : String)
      (events : List NavigationEventRecord) (eventKeys : events.map (·.key) = keys)
      (eventStates : ∀ event ∈ events, event.resultState = .dependencyFailed) :
      SuccessorsFailed queue
        { queue with
          records := updateWhere (fun row => row.key ∈ keys)
            (dependencyFailedRecord failedOperationId revision now) queue.records
          events := queue.events ++ events }

inductive Execution (queue : NavigationQueue) (intent : AcceptedIntent)
    (state : NavigationMutationState) : NavigationQueue → Prop
  | execution {prepared finished next : NavigationQueue} (revision : Revised queue prepared)
      (finish : Finished prepared intent state finished)
      (successors : SuccessorsFailed finished next) :
      Execution queue intent state next

inductive Transition (queue : NavigationQueue) : NavigationQueue → Prop
  | accepted {next : NavigationQueue} (acceptances : Relation.ReflTransGen Accepted queue next) :
      Transition queue next
  | revised {next : NavigationQueue} (revision : Revised queue next) : Transition queue next
  | executed {intent : AcceptedIntent} {state : NavigationMutationState} {next : NavigationQueue}
      (execution : Execution queue intent state next) : Transition queue next

structure AcceptedInOrder (intents : List AcceptedIntent) : Prop where
  keysDistinct : (intents.map (·.key)).Nodup
  sequenced : intents.Pairwise fun earlier later =>
    earlier.key.workspaceId = later.key.workspaceId → earlier.queueSeq < later.queueSeq
  dependenciesEarlier : ∀ intent ∈ intents, ∀ dependencyId ∈ intent.dependencyIds,
    ∃ earlier ∈ intents, earlier.key.workspaceId = intent.key.workspaceId ∧
      earlier.key.operationId = dependencyId ∧ earlier.queueSeq < intent.queueSeq

structure Invariant (queue : NavigationQueue) : Prop where
  accepted : AcceptedInOrder (queue.records.map (·.toAcceptedIntent))
  runningFirst : ∀ row ∈ queue.records, row.state = .running →
    queue.EarlierTerminal row.toAcceptedIntent
  pendingCommitted : ∀ row ∈ queue.records, row.pendingSettlement = true →
    row.state = .committed ∧ row.isSubtreeDelete = true
  eventsOnce : ∀ row ∈ queue.records,
    (queue.events.map (·.key)).count row.key = if row.isTerminal then 1 else 0
  eventsKnown : ∀ event ∈ queue.events,
    ∃ row ∈ queue.records, row.key = event.key ∧ row.state = event.resultState
  changesOnce : ∀ row ∈ queue.records,
    queue.appliedChanges.count (some row.key) = if row.state = .committed then 1 else 0
  changesKnown : ∀ change ∈ queue.appliedChanges, ∃ row ∈ queue.records, change = some row.key

structure TerminalKept (before after : NavigationMutationRecord) : Prop where
  state : after.state = before.state
  resultNodeId : after.resultNodeId = before.resultNodeId
  resultNodeRevision : after.resultNodeRevision = before.resultNodeRevision
  committedCatalogRevision : after.committedCatalogRevision = before.committedCatalogRevision
  settlement :
    (after.pendingSettlement = before.pendingSettlement ∧
        after.errorCode = before.errorCode ∧ after.errorDetail = before.errorDetail) ∨
      (before.isSubtreeDelete = true ∧ before.state = .committed ∧
        before.pendingSettlement = true ∧
        ((after.pendingSettlement = false ∧ after.errorCode = none ∧
            after.errorDetail = none) ∨
          (after.pendingSettlement = true ∧ after.errorCode = some repairRequired)))

namespace TerminalKept

theorem refl (row : NavigationMutationRecord) : TerminalKept row row :=
  ⟨rfl, rfl, rfl, rfl, .inl ⟨rfl, rfl, rfl⟩⟩

theorem trans {first second third : NavigationMutationRecord}
    (sameIntent : second.toAcceptedIntent = first.toAcceptedIntent)
    (early : TerminalKept first second) (late : TerminalKept second third) :
    TerminalKept first third where
  state := late.state.trans early.state
  resultNodeId := late.resultNodeId.trans early.resultNodeId
  resultNodeRevision := late.resultNodeRevision.trans early.resultNodeRevision
  committedCatalogRevision := late.committedCatalogRevision.trans early.committedCatalogRevision
  settlement := by
    have sameDelete : second.isSubtreeDelete = first.isSubtreeDelete := by
      rw [sameIntent]
    rcases early.settlement with ⟨pending, code, detail⟩ | ⟨subtree, committed, pending, outcome⟩
    · rcases late.settlement with ⟨latePending, lateCode, lateDetail⟩ | late
      · exact .inl ⟨latePending.trans pending, lateCode.trans code, lateDetail.trans detail⟩
      · rw [sameDelete, early.state, pending] at late
        exact .inr late
    · refine .inr ⟨subtree, committed, pending, ?_⟩
      rcases late.settlement with ⟨latePending, lateCode, lateDetail⟩ | ⟨_, _, _, outcome⟩
      · rw [latePending, lateCode, lateDetail]
        exact outcome
      · exact outcome

end TerminalKept

structure Keeps (queue : NavigationQueue)
    (change : NavigationMutationRecord → NavigationMutationRecord) : Prop where
  intent : ∀ row ∈ queue.records, (change row).toAcceptedIntent = row.toAcceptedIntent
  terminal : ∀ row ∈ queue.records, row.isTerminal = true → TerminalKept row (change row)

section Changes

variable {queue : NavigationQueue}
  {change : NavigationMutationRecord → NavigationMutationRecord}

theorem Keeps.key (keeps : Keeps queue change) {row : NavigationMutationRecord}
    (member : row ∈ queue.records) : (change row).key = row.key :=
  congrArg AcceptedIntent.key (keeps.intent row member)

theorem Keeps.isTerminal (keeps : Keeps queue change) {row : NavigationMutationRecord}
    (member : row ∈ queue.records) (terminal : row.isTerminal = true) :
    (change row).isTerminal = true := by
  rw [NavigationMutationRecord.isTerminal, (keeps.terminal row member terminal).state]
  exact terminal

theorem Keeps.intents (keeps : Keeps queue change) :
    (queue.records.map change).map (·.toAcceptedIntent) =
      queue.records.map (·.toAcceptedIntent) := by
  rw [List.map_map]
  exact List.map_congr_left keeps.intent

theorem Keeps.earlierTerminal (keeps : Keeps queue change) {events owners changes}
    {intent : AcceptedIntent} (first : queue.EarlierTerminal intent) :
    EarlierTerminal ⟨queue.records.map change, events, owners, changes⟩ intent := by
  intro earlier member sameWorkspace sooner
  obtain ⟨row, rowMember, rfl⟩ := List.mem_map.mp member
  have same := keeps.intent row rowMember
  rw [show (change row).key = row.key from congrArg AcceptedIntent.key same] at sameWorkspace
  rw [show (change row).queueSeq = row.queueSeq from congrArg AcceptedIntent.queueSeq same]
    at sooner
  exact keeps.isTerminal rowMember (first row rowMember sameWorkspace sooner)

theorem Invariant.keysDistinct (invariant : Invariant queue) :
    (queue.records.map (·.key)).Nodup := by
  simpa [List.map_map, Function.comp_def] using invariant.accepted.keysDistinct

theorem Invariant.eq_of_key_eq (invariant : Invariant queue)
    {left right : NavigationMutationRecord} (leftMember : left ∈ queue.records)
    (rightMember : right ∈ queue.records) (same : left.key = right.key) : left = right :=
  KeyedRows.eq_of_key_eq invariant.keysDistinct leftMember rightMember same

theorem Revision.keeps {row after : NavigationMutationRecord} (invariant : Invariant queue)
    (member : row ∈ queue.records) (revision : Revision queue row after) :
    after.toAcceptedIntent = row.toAcceptedIntent ∧
      (row.isTerminal = true → TerminalKept row after) := by
  cases revision with
  | kept => exact ⟨rfl, fun _ => .refl row⟩
  | claimed holderId now queued first =>
    refine ⟨rfl, ?_⟩
    intro terminal
    simp [NavigationMutationRecord.isTerminal, queued, NavigationMutationState.isTerminal]
      at terminal
  | released now running superseded =>
    refine ⟨rfl, ?_⟩
    intro terminal
    simp [NavigationMutationRecord.isTerminal, running, NavigationMutationState.isTerminal]
      at terminal
  | settled now committed pending =>
    have subtree := (invariant.pendingCommitted row member pending).2
    exact ⟨rfl, fun _ => ⟨rfl, rfl, rfl, rfl,
      .inr ⟨subtree, committed, pending, .inl ⟨rfl, rfl, rfl⟩⟩⟩⟩
  | repaired detail now committed pending =>
    have subtree := (invariant.pendingCommitted row member pending).2
    exact ⟨rfl, fun _ => ⟨rfl, rfl, rfl, rfl,
      .inr ⟨subtree, committed, pending, .inr ⟨pending, rfl⟩⟩⟩⟩

theorem Revision.isTerminal {row after : NavigationMutationRecord}
    (revision : Revision queue row after) : after.isTerminal = row.isTerminal := by
  cases revision with
  | kept => rfl
  | claimed holderId now queued first =>
    rw [NavigationMutationRecord.isTerminal, NavigationMutationRecord.isTerminal, queued]
    rfl
  | released now running superseded =>
    rw [NavigationMutationRecord.isTerminal, NavigationMutationRecord.isTerminal, running]
    rfl
  | settled => rfl
  | repaired => rfl

theorem Revision.committed_iff {row after : NavigationMutationRecord}
    (revision : Revision queue row after) :
    after.state = .committed ↔ row.state = .committed := by
  cases revision with
  | kept => rfl
  | claimed holderId now queued first => simp [claimedRecord, queued]
  | released now running superseded => simp [releasedRecord, running]
  | settled => rfl
  | repaired => rfl

theorem le_foldr_max {number : Nat} {numbers : List Nat} (member : number ∈ numbers) :
    number ≤ numbers.foldr max 0 := by
  induction numbers with
  | nil => cases member
  | cons first rest ih =>
    rcases List.mem_cons.mp member with rfl | later
    · exact le_max_left _ _
    · exact le_trans (ih later) (le_max_right _ _)

theorem queueSeq_lt_nextQueueSeq {row : NavigationMutationRecord} (member : row ∈ queue.records) :
    row.queueSeq < queue.nextQueueSeq row.key.workspaceId := by
  rw [nextQueueSeq, Nat.lt_succ_iff]
  apply le_foldr_max
  exact List.mem_map_of_mem (List.mem_filter.mpr ⟨member, by simp⟩)

theorem Invariant.terminal_of_event (invariant : Invariant queue)
    {event : NavigationEventRecord} (member : event ∈ queue.events)
    {row : NavigationMutationRecord} (rowMember : row ∈ queue.records)
    (same : row.key = event.key) : row.isTerminal = true := by
  have counted := invariant.eventsOnce row rowMember
  have present : row.key ∈ queue.events.map (·.key) := same ▸ List.mem_map_of_mem member
  have positive := List.count_pos_iff.mpr present
  by_contra open_
  rw [counted, if_neg open_] at positive
  exact absurd positive (lt_irrefl 0)

theorem Invariant.eventsKnown_map (invariant : Invariant queue) (keeps : Keeps queue change)
    {event : NavigationEventRecord} (member : event ∈ queue.events) :
    ∃ row ∈ queue.records.map change, row.key = event.key ∧ row.state = event.resultState := by
  obtain ⟨row, rowMember, sameKey, sameState⟩ := invariant.eventsKnown event member
  have terminal := invariant.terminal_of_event member rowMember sameKey
  refine ⟨change row, List.mem_map_of_mem rowMember, ?_, ?_⟩
  · exact (keeps.key rowMember).trans sameKey
  · exact (keeps.terminal row rowMember terminal).state.trans sameState

theorem Invariant.changesKnown_map (invariant : Invariant queue) (keeps : Keeps queue change)
    {applied : Option RecordKey} (member : applied ∈ queue.appliedChanges) :
    ∃ row ∈ queue.records.map change, applied = some row.key := by
  obtain ⟨row, rowMember, rfl⟩ := invariant.changesKnown applied member
  exact ⟨change row, List.mem_map_of_mem rowMember, by rw [keeps.key rowMember]⟩

theorem AcceptedInOrder.append {intents : List AcceptedIntent} (inOrder : AcceptedInOrder intents)
    {intent : AcceptedIntent} (fresh : ∀ earlier ∈ intents, earlier.key ≠ intent.key)
    (last : ∀ earlier ∈ intents, earlier.key.workspaceId = intent.key.workspaceId →
      earlier.queueSeq < intent.queueSeq)
    (dependencies : ∀ dependencyId ∈ intent.dependencyIds, ∃ earlier ∈ intents,
      earlier.key.workspaceId = intent.key.workspaceId ∧
        earlier.key.operationId = dependencyId) :
    AcceptedInOrder (intents ++ [intent]) where
  keysDistinct := by
    rw [List.map_append, List.nodup_append]
    refine ⟨inOrder.keysDistinct, by simp, ?_⟩
    intro key member other otherMember
    obtain ⟨earlier, earlierMember, rfl⟩ := List.mem_map.mp member
    rw [List.mem_singleton.mp otherMember]
    exact fresh earlier earlierMember
  sequenced := by
    rw [List.pairwise_append]
    refine ⟨inOrder.sequenced, by simp, ?_⟩
    intro earlier earlierMember later laterMember sameWorkspace
    rw [List.mem_singleton.mp laterMember] at sameWorkspace ⊢
    exact last earlier earlierMember sameWorkspace
  dependenciesEarlier := by
    intro later member dependencyId reference
    rcases List.mem_append.mp member with old | new
    · obtain ⟨earlier, earlierMember, found⟩ :=
        inOrder.dependenciesEarlier later old dependencyId reference
      exact ⟨earlier, List.mem_append_left _ earlierMember, found⟩
    · rw [List.mem_singleton.mp new] at reference ⊢
      obtain ⟨earlier, earlierMember, sameWorkspace, sameOperation⟩ :=
        dependencies dependencyId reference
      exact ⟨earlier, List.mem_append_left _ earlierMember, sameWorkspace, sameOperation,
        last earlier earlierMember sameWorkspace⟩

theorem Accepted.invariant {next : NavigationQueue} (invariant : Invariant queue)
    (acceptance : Accepted queue next) : Invariant next := by
  cases acceptance with
  | accepted record fresh sequence dependencies queued settled =>
    have distinct : ∀ row ∈ queue.records, row.key ≠ record.key := fetch_eq_none.mp fresh
    have last : ∀ row ∈ queue.records, row.key.workspaceId = record.key.workspaceId →
        row.queueSeq < record.queueSeq := by
      intro row member sameWorkspace
      rw [sequence, ← sameWorkspace]
      exact queueSeq_lt_nextQueueSeq member
    have pendingRow : record.isTerminal = false := by
      rw [NavigationMutationRecord.isTerminal, queued]
      rfl
    refine ⟨?_, ?_, ?_, ?_, ?_, ?_, ?_⟩
    · rw [List.map_append]
      apply invariant.accepted.append
      · intro intent member
        obtain ⟨row, rowMember, rfl⟩ := List.mem_map.mp member
        exact distinct row rowMember
      · intro intent member
        obtain ⟨row, rowMember, rfl⟩ := List.mem_map.mp member
        exact last row rowMember
      · intro dependencyId reference
        obtain ⟨row, rowMember⟩ :=
          List.exists_mem_of_ne_nil _ (dependencies dependencyId reference)
        obtain ⟨rowMember, matched⟩ := List.mem_filter.mp rowMember
        simp only [Bool.and_eq_true, decide_eq_true_eq] at matched
        exact ⟨row.toAcceptedIntent, List.mem_map_of_mem rowMember, matched⟩
    · intro row member running earlier earlierMember sameWorkspace sooner
      rcases List.mem_append.mp member with old | new
      · rcases List.mem_append.mp earlierMember with earlierOld | earlierNew
        · exact invariant.runningFirst row old running earlier earlierOld sameWorkspace sooner
        · rw [List.mem_singleton.mp earlierNew] at sameWorkspace sooner
          exact absurd (last row old sameWorkspace.symm) (by omega)
      · rw [List.mem_singleton.mp new, queued] at running
        cases running
    · intro row member pending
      rcases List.mem_append.mp member with old | new
      · exact invariant.pendingCommitted row old pending
      · rw [List.mem_singleton.mp new, settled] at pending
        cases pending
    · intro row member
      rcases List.mem_append.mp member with old | new
      · exact invariant.eventsOnce row old
      · rw [List.mem_singleton.mp new, pendingRow]
        apply List.count_eq_zero.mpr
        intro present
        obtain ⟨event, eventMember, same⟩ := List.mem_map.mp present
        obtain ⟨row, rowMember, sameKey, -⟩ := invariant.eventsKnown event eventMember
        exact distinct row rowMember (sameKey.trans same)
    · intro event member
      obtain ⟨row, rowMember, known⟩ := invariant.eventsKnown event member
      exact ⟨row, List.mem_append_left _ rowMember, known⟩
    · intro row member
      rcases List.mem_append.mp member with old | new
      · exact invariant.changesOnce row old
      · rw [List.mem_singleton.mp new, if_neg (by simp [queued])]
        apply List.count_eq_zero.mpr
        intro present
        obtain ⟨row, rowMember, same⟩ := invariant.changesKnown _ present
        exact distinct row rowMember (Option.some.inj same).symm
    · intro applied member
      obtain ⟨row, rowMember, known⟩ := invariant.changesKnown applied member
      exact ⟨row, List.mem_append_left _ rowMember, known⟩

theorem Revised.invariant {next : NavigationQueue} (invariant : Invariant queue)
    (revised : Revised queue next) : Invariant next := by
  cases revised with
  | revised change revision =>
    have keeps : Keeps queue change :=
      ⟨fun row member => ((revision row member).keeps invariant member).1,
        fun row member => ((revision row member).keeps invariant member).2⟩
    refine ⟨?_, ?_, ?_, ?_, ?_, ?_, ?_⟩
    · rw [keeps.intents]
      exact invariant.accepted
    · intro after member running
      obtain ⟨row, rowMember, rfl⟩ := List.mem_map.mp member
      rw [keeps.intent row rowMember]
      apply keeps.earlierTerminal
      have rowRevision := revision row rowMember
      generalize change row = after at rowRevision running
      cases rowRevision with
      | kept => exact invariant.runningFirst row rowMember running
      | claimed holderId now queued first => exact first
      | released => cases running
      | settled now committed pending => simp [settledRecord, committed] at running
      | repaired detail now committed pending => simp [repairRecord, committed] at running
    · intro after member pending
      obtain ⟨row, rowMember, rfl⟩ := List.mem_map.mp member
      rw [(revision row rowMember).committed_iff, keeps.intent row rowMember]
      have rowRevision := revision row rowMember
      generalize change row = after at rowRevision pending
      cases rowRevision with
      | kept => exact invariant.pendingCommitted row rowMember pending
      | claimed => exact invariant.pendingCommitted row rowMember pending
      | released => exact invariant.pendingCommitted row rowMember pending
      | settled => cases pending
      | repaired => exact invariant.pendingCommitted row rowMember pending
    · intro after member
      obtain ⟨row, rowMember, rfl⟩ := List.mem_map.mp member
      rw [keeps.key rowMember, (revision row rowMember).isTerminal]
      exact invariant.eventsOnce row rowMember
    · intro event member
      exact invariant.eventsKnown_map keeps member
    · intro after member
      obtain ⟨row, rowMember, rfl⟩ := List.mem_map.mp member
      simp only [keeps.key rowMember, (revision row rowMember).committed_iff]
      exact invariant.changesOnce row rowMember
    · intro applied member
      exact invariant.changesKnown_map keeps member

theorem keeps_updateWhere {matching : NavigationMutationRecord → Bool}
    {revise : NavigationMutationRecord → NavigationMutationRecord}
    (intent : ∀ row, (revise row).toAcceptedIntent = row.toAcceptedIntent)
    (live : ∀ row ∈ queue.records, matching row = true → row.isTerminal = false) :
    Keeps queue fun row => if matching row then revise row else row where
  intent row member := by
    split
    · exact intent row
    · rfl
  terminal row member terminal := by
    rw [if_neg]
    · exact .refl row
    · intro matched
      rw [live row member matched] at terminal
      cases terminal

theorem Invariant.finished_keeps (invariant : Invariant queue) {row : NavigationMutationRecord}
    (member : row ∈ queue.records) (running : row.state = .running) (write : TerminalWrite)
    (now : String) :
    Keeps queue fun other =>
      if decide (other.key = row.key) = true then finishedRecord write now other else other := by
  refine keeps_updateWhere (fun other => ?_) ?_
  · rfl
  intro other otherMember same
  rw [invariant.eq_of_key_eq otherMember member (of_decide_eq_true same),
    NavigationMutationRecord.isTerminal, running]
  rfl

theorem Invariant.failed_keeps (invariant : Invariant queue) {keys : List RecordKey}
    (queued : ∀ key ∈ keys, ∃ row ∈ queue.records, row.key = key ∧ row.state = .queued)
    (failedOperationId : String) (revision : Nat) (now : String) :
    Keeps queue fun row =>
      if decide (row.key ∈ keys) = true then
        dependencyFailedRecord failedOperationId revision now row
      else row := by
  refine keeps_updateWhere (fun other => ?_) ?_
  · rfl
  intro other otherMember listed
  obtain ⟨row, rowMember, same, rowQueued⟩ := queued other.key (of_decide_eq_true listed)
  rw [invariant.eq_of_key_eq otherMember rowMember same.symm,
    NavigationMutationRecord.isTerminal, rowQueued]
  rfl

theorem isTerminal_of_executed {state : NavigationMutationState}
    (executed : state = .committed ∨ state = .rejected) : state.isTerminal = true := by
  rcases executed with rfl | rfl <;> rfl

theorem Finished.invariant {finished : NavigationQueue} {intent : AcceptedIntent}
    {state : NavigationMutationState} (invariant : Invariant queue)
    (finish : Finished queue intent state finished) : Invariant finished := by
  cases finish with
  | finished row member running write now executed pending event eventKey eventState =>
    have keeps := invariant.finished_keeps member running write now
    have ended := isTerminal_of_executed executed
    have rowLive : row.isTerminal = false := by
      rw [NavigationMutationRecord.isTerminal, running]
      rfl
    refine ⟨?_, ?_, ?_, ?_, ?_, ?_, ?_⟩
    · rw [updateWhere, keeps.intents]
      exact invariant.accepted
    · intro after afterMember stillRunning
      obtain ⟨other, otherMember, rfl⟩ := List.mem_map.mp afterMember
      rw [keeps.intent other otherMember]
      apply keeps.earlierTerminal
      by_cases same : other.key = row.key
      · simp only [same, decide_true, if_true, finishedRecord] at stillRunning
        rcases executed with committed | rejected
        · rw [committed] at stillRunning
          cases stillRunning
        · rw [rejected] at stillRunning
          cases stillRunning
      · simp only [same, decide_false, Bool.false_eq_true, if_false] at stillRunning
        exact invariant.runningFirst other otherMember stillRunning
    · intro after afterMember stillPending
      obtain ⟨other, otherMember, rfl⟩ := List.mem_map.mp afterMember
      by_cases same : other.key = row.key
      · simp only [same, decide_true, if_true, finishedRecord] at stillPending ⊢
        rw [invariant.eq_of_key_eq otherMember member same]
        exact pending stillPending
      · simp only [same, decide_false, Bool.false_eq_true, if_false] at stillPending ⊢
        exact invariant.pendingCommitted other otherMember stillPending
    · intro after afterMember
      obtain ⟨other, otherMember, rfl⟩ := List.mem_map.mp afterMember
      have counted := invariant.eventsOnce other otherMember
      rw [keeps.key otherMember, List.map_append, List.count_append, counted]
      by_cases same : other.key = row.key
      · have equal := invariant.eq_of_key_eq otherMember member same
        subst equal
        rw [rowLive]
        simp [eventKey, finishedRecord, NavigationMutationRecord.isTerminal, ended]
      · have different : ¬ event.key = other.key := fun equal =>
          same (equal.symm.trans eventKey)
        simp [same, different]
    · intro known knownMember
      rcases List.mem_append.mp knownMember with old | new
      · exact invariant.eventsKnown_map keeps old
      · rw [List.mem_singleton.mp new]
        refine ⟨_, List.mem_map_of_mem member, ?_, ?_⟩
        · rw [keeps.key member, eventKey]
        · simp [finishedRecord, eventState]
    · intro after afterMember
      obtain ⟨other, otherMember, rfl⟩ := List.mem_map.mp afterMember
      have counted := invariant.changesOnce other otherMember
      rw [keeps.key otherMember, List.count_append, counted]
      by_cases same : other.key = row.key
      · have equal := invariant.eq_of_key_eq otherMember member same
        subst equal
        by_cases committed : write.state = .committed
        · simp [running, finishedRecord, committed]
        · simp [running, finishedRecord, committed]
      · have different : ¬ row.key = other.key := fun equal => same equal.symm
        by_cases committed : write.state = .committed
        · simp [same, different, committed]
        · simp [same, committed]
    · intro applied appliedMember
      rcases List.mem_append.mp appliedMember with old | new
      · exact invariant.changesKnown_map keeps old
      · split at new
        · rw [List.mem_singleton.mp new]
          exact ⟨_, List.mem_map_of_mem member, by rw [keeps.key member]⟩
        · cases new

theorem SuccessorsFailed.invariant {failed : NavigationQueue} (invariant : Invariant queue)
    (successors : SuccessorsFailed queue failed) : Invariant failed := by
  cases successors with
  | failed keys distinct queued failedOperationId revision now events eventKeys eventStates =>
    have keeps := invariant.failed_keeps queued failedOperationId revision now
    have rowQueued : ∀ row ∈ queue.records, row.key ∈ keys → row.state = .queued := by
      intro row member listed
      obtain ⟨other, otherMember, same, otherQueued⟩ := queued row.key listed
      rw [invariant.eq_of_key_eq member otherMember same.symm]
      exact otherQueued
    refine ⟨?_, ?_, ?_, ?_, ?_, ?_, ?_⟩
    · rw [updateWhere, keeps.intents]
      exact invariant.accepted
    · intro after afterMember running
      obtain ⟨row, member, rfl⟩ := List.mem_map.mp afterMember
      rw [keeps.intent row member]
      apply keeps.earlierTerminal
      by_cases listed : row.key ∈ keys
      · simp [listed, dependencyFailedRecord] at running
      · simp only [listed, decide_false, Bool.false_eq_true, if_false] at running
        exact invariant.runningFirst row member running
    · intro after afterMember pending
      obtain ⟨row, member, rfl⟩ := List.mem_map.mp afterMember
      by_cases listed : row.key ∈ keys
      · simp only [listed, decide_true, if_true, dependencyFailedRecord] at pending
        have committed := (invariant.pendingCommitted row member pending).1
        rw [rowQueued row member listed] at committed
        cases committed
      · simp only [listed, decide_false, Bool.false_eq_true, if_false] at pending ⊢
        exact invariant.pendingCommitted row member pending
    · intro after afterMember
      obtain ⟨row, member, rfl⟩ := List.mem_map.mp afterMember
      have counted := invariant.eventsOnce row member
      rw [keeps.key member, List.map_append, List.count_append, eventKeys, counted]
      by_cases listed : row.key ∈ keys
      · have rowLive : row.isTerminal = false := by
          rw [NavigationMutationRecord.isTerminal, rowQueued row member listed]
          rfl
        rw [List.count_eq_one_of_mem distinct listed, rowLive]
        simp [listed, dependencyFailedRecord, NavigationMutationRecord.isTerminal,
          NavigationMutationState.isTerminal]
      · rw [List.count_eq_zero_of_not_mem listed]
        simp [listed]
    · intro event eventMember
      rcases List.mem_append.mp eventMember with old | new
      · exact invariant.eventsKnown_map keeps old
      · have listed : event.key ∈ keys := eventKeys ▸ List.mem_map_of_mem new
        obtain ⟨row, member, same, -⟩ := queued event.key listed
        refine ⟨_, List.mem_map_of_mem member, ?_, ?_⟩
        · rw [keeps.key member, same]
        · simp [same, listed, dependencyFailedRecord, eventStates event new]
    · intro after afterMember
      obtain ⟨row, member, rfl⟩ := List.mem_map.mp afterMember
      have counted := invariant.changesOnce row member
      rw [keeps.key member, counted]
      by_cases listed : row.key ∈ keys
      · simp [listed, dependencyFailedRecord, rowQueued row member listed]
      · simp [listed]
    · intro applied appliedMember
      exact invariant.changesKnown_map keeps appliedMember

theorem acceptances_invariant {next : NavigationQueue} (invariant : Invariant queue)
    (acceptances : Relation.ReflTransGen Accepted queue next) : Invariant next := by
  induction acceptances with
  | refl => exact invariant
  | tail _ acceptance ih => exact acceptance.invariant ih

theorem Transition.invariant {next : NavigationQueue} (invariant : Invariant queue)
    (transition : Transition queue next) : Invariant next := by
  cases transition with
  | accepted acceptances => exact acceptances_invariant invariant acceptances
  | revised revision => exact revision.invariant invariant
  | executed execution =>
    obtain ⟨revision, finish, successors⟩ := execution
    have prepared := revision.invariant invariant
    exact successors.invariant (finish.invariant prepared)

end Changes

end NavigationQueue

end GraphAgent.Navigation
