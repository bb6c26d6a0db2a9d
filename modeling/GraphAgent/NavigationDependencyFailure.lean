import GraphAgent.NavigationDependents

/-!
# When a rejection fails exactly its dependents

What the rejection of an operation should do to the queued operations of its
scope, and the queue contents on which it does that.
-/

namespace GraphAgent.Navigation

open KeyedRows Transaction

def RecordKey.SameScope (left right : RecordKey) : Prop :=
  left.gatewayId = right.gatewayId ∧ left.workspaceId = right.workspaceId ∧
    left.actor = right.actor

theorem RecordKey.SameScope.trans {first second third : RecordKey}
    (left : first.SameScope second) (right : second.SameScope third) : first.SameScope third :=
  ⟨left.1.trans right.1, left.2.1.trans right.2.1, left.2.2.trans right.2.2⟩

theorem RecordKey.SameScope.symm {first second : RecordKey} (same : first.SameScope second) :
    second.SameScope first :=
  ⟨same.1.symm, same.2.1.symm, same.2.2.symm⟩

theorem RecordKey.SameScope.eq {left right : RecordKey} (same : left.SameScope right)
    (sameId : left.operationId = right.operationId) : left = right := by
  cases left
  cases right
  simp only [SameScope] at same
  simp only [RecordKey.mk.injEq]
  exact ⟨same.1, same.2.1, same.2.2, sameId⟩

namespace NavigationQueue

def failRows (failed : List NavigationMutationRecord) (failedOperationId : String)
    (revision : Nat) (now : String) (rows : List NavigationMutationRecord) :
    List NavigationMutationRecord :=
  rows.map fun row =>
    if row ∈ failed then
      dependencyFailedRecord failedOperationId revision now row
    else
      row

def Dependent (queue : NavigationQueue) (rejected : NavigationMutationRecord) :
    NavigationMutationRecord → Prop :=
  RefersThrough (fun row =>
    row ∈ queue.records ∧ row.state = .queued ∧ row.key.SameScope rejected.key)
    rejected.key.operationId

def HasFailedDependency (queue : NavigationQueue) (row : NavigationMutationRecord) : Prop :=
  ∃ dependency ∈ queue.records, dependency.key.SameScope row.key ∧
    dependency.key.operationId ∈ row.dependencyIds ∧
      (dependency.state = .rejected ∨ dependency.state = .dependencyFailed)

structure FailsDependents (queue : NavigationQueue) (rejected : NavigationMutationRecord)
    (revision : Nat) (now : String) (successors : List NavigationMutationRecord)
    (after : NavigationQueue) : Prop where
  exact : ∀ row, row ∈ successors ↔ queue.Dependent rejected row
  once : successors.Nodup
  records : after.records =
    failRows successors rejected.key.operationId revision now queue.records
  events : ∃ events : List NavigationEventRecord, after.events = queue.events ++ events ∧
    events.map (·.key) = successors.map (·.key) ∧
      ∀ event ∈ events, event.resultState = .dependencyFailed
  settled : ∀ row ∈ after.records, row.state = .queued → ¬ after.HasFailedDependency row
  runnable : ∀ choice workspaceId row,
    after.nextRunnable choice workspaceId = .ok (some row) → ¬ after.HasFailedDependency row

structure DependentsIdentified (queue : NavigationQueue)
    (rejected : NavigationMutationRecord) : Prop where
  latest : ∀ row, queue.Dependent rejected row →
    queue.LatestQueued rejected.key.workspaceId row
  unreferenced : ∀ row, queue.LatestQueued rejected.key.workspaceId row →
    ¬ row.key.SameScope rejected.key → row.key.operationId ≠ rejected.key.operationId →
      rejected.key.operationId ∉ row.dependencyIds ∧
        ∀ dependent, queue.Dependent rejected dependent →
          dependent.key.operationId ∉ row.dependencyIds
  noEarlierFailure : ∀ row ∈ queue.records, row.state = .queued →
    queue.HasFailedDependency row → queue.Dependent rejected row

variable {queue : NavigationQueue}

theorem failRow_key (failed : List NavigationMutationRecord) (failedOperationId : String)
    (revision : Nat) (now : String) (row : NavigationMutationRecord) :
    (if row ∈ failed then dependencyFailedRecord failedOperationId revision now row
      else row).key = row.key := by
  split
  · rfl
  · rfl

theorem appendSuccessorEvents_succeeds {now : String}
    (successors : List NavigationMutationRecord) {queue : NavigationQueue}
    (failed : ∀ successor ∈ successors, ∃ row,
      queue.fetchRecord successor.key = some row ∧ row.state = .dependencyFailed) :
    ∃ next, NavigationDatabase.appendSuccessorEvents now successors queue = .ok next := by
  induction successors generalizing queue with
  | nil => exact ⟨queue, rfl⟩
  | cons successor rest ih =>
    obtain ⟨row, fetched, state⟩ := failed successor (by simp)
    have required : queue.requireRecord successor.key = .ok row := by
      simp [requireRecord, fetched]
    have rowKey := (fetchRecord_mem fetched).2
    let event := queue.terminalEvent row (affectedOnReject row) now
    have appended : queue.appendEvent row (affectedOnReject row) now =
        .ok { queue with events := queue.events ++ [event] } := by
      have stored : queue.fetchRecord event.key = some row := by
        change queue.fetchRecord row.key = some row
        rw [rowKey, fetched]
      have ended : row.isTerminal = true := by
        simp [NavigationMutationRecord.isTerminal, state, NavigationMutationState.isTerminal]
      unfold appendEvent
      rw [ended]
      dsimp only
      rw [stored]
      simp [event, terminalEvent]
    obtain ⟨next, later⟩ := @ih { queue with events := queue.events ++ [event] }
      (fun other member => failed other (by simp [member]))
    refine ⟨next, ?_⟩
    rw [NavigationDatabase.appendSuccessorEvents, required]
    change (queue.appendEvent row (affectedOnReject row) now >>= _) = _
    rw [appended]
    exact later

theorem markSuccessors_ok (unique : queue.UniqueRows) (workspaceId failedOperationId : String)
    (revision : Nat) (now : String) :
    ∃ events : List NavigationEventRecord,
      NavigationDatabase.appendSuccessorEvents now
        (queue.markDependencyFailedSuccessors workspaceId failedOperationId revision now).1
        (queue.markDependencyFailedSuccessors workspaceId failedOperationId revision now).2 =
          .ok { queue with
            records := failRows
              (queue.dependencyFailedSuccessors workspaceId failedOperationId)
              failedOperationId revision now queue.records
            events := queue.events ++ events } ∧
        events.map (·.key) =
          (queue.dependencyFailedSuccessors workspaceId failedOperationId).map (·.key) ∧
        ∀ event ∈ events, event.resultState = .dependencyFailed := by
  have successors := queue.dependencyFailedSuccessors_ok workspaceId failedOperationId
  unfold markDependencyFailedSuccessors
  dsimp only
  revert successors
  generalize queue.dependencyFailedSuccessors workspaceId failedOperationId = failed
  rintro ⟨queued, _⟩
  rw [foldl_dependencyFailed_records]
  have records : updateWhere (fun row => row.key ∈ failed.map (·.key) && row.state = .queued)
      (dependencyFailedRecord failedOperationId revision now) queue.records =
      failRows failed failedOperationId revision now queue.records := by
    apply List.map_congr_left
    intro row member
    by_cases listed : row ∈ failed
    · have keyListed : row.key ∈ failed.map (·.key) := List.mem_map_of_mem listed
      rw [if_pos listed]
      simp [keyListed, (queued row listed).2]
    · have keyFresh : row.key ∉ failed.map (·.key) := by
        intro keyListed
        obtain ⟨successor, successorMember, same⟩ := List.mem_map.mp keyListed
        have sameRow := KeyedRows.eq_of_key_eq unique.keys (queued successor successorMember).1
          member same
        exact listed (sameRow ▸ successorMember)
      rw [if_neg listed]
      simp [keyFresh]
  rw [records]
  have fetched : ∀ successor ∈ failed, ∃ row,
      NavigationQueue.fetchRecord
        { queue with records := failRows failed failedOperationId revision now queue.records }
        successor.key = some row ∧ row.state = .dependencyFailed := by
    intro successor member
    refine ⟨dependencyFailedRecord failedOperationId revision now successor, ?_, rfl⟩
    have stored := fetch_of_mem unique.keys (queued successor member).1
    unfold fetchRecord failRows
    rw [fetch_map (failRow_key failed failedOperationId revision now), stored]
    simp [member]
  obtain ⟨next, appended⟩ := @appendSuccessorEvents_succeeds now failed _ fetched
  have allFailed : ∀ successor ∈ failed, ∀ row ∈
      failRows failed failedOperationId revision now queue.records,
        row.key = successor.key → row.state = .dependencyFailed := by
    intro successor member row rowMember same
    obtain ⟨earlier, earlierMember, rfl⟩ := List.mem_map.mp rowMember
    rw [failRow_key] at same
    have sameRow := KeyedRows.eq_of_key_eq unique.keys earlierMember (queued successor member).1
      same
    rw [sameRow, if_pos member]
    rfl
  obtain ⟨events, keys, states, rfl⟩ := appendSuccessorEvents_ok failed allFailed appended
  exact ⟨events, appended, keys, states⟩

section Condition

variable {rejected : NavigationMutationRecord}

theorem Dependent.queued {row : NavigationMutationRecord}
    (dependent : queue.Dependent rejected row) : row ∈ queue.records ∧ row.state = .queued :=
  ⟨dependent.eligible.1, dependent.eligible.2.1⟩

theorem Dependent.operationId_ne (unique : queue.UniqueRows)
    (stored : rejected ∈ queue.records) (ended : rejected.state = .rejected)
    {row : NavigationMutationRecord} (dependent : queue.Dependent rejected row) :
    row.key.operationId ≠ rejected.key.operationId := by
  intro sameId
  obtain ⟨rowStored, queued, scope⟩ := dependent.eligible
  rw [KeyedRows.eq_of_key_eq unique.keys rowStored stored (scope.eq sameId), ended] at queued
  cases queued

theorem DependentsIdentified.mem_successors (identified : queue.DependentsIdentified rejected)
    (unique : queue.UniqueRows) (stored : rejected ∈ queue.records)
    (ended : rejected.state = .rejected) (row : NavigationMutationRecord) :
    row ∈ queue.dependencyFailedSuccessors rejected.key.workspaceId rejected.key.operationId ↔
      queue.Dependent rejected row := by
  rw [mem_dependencyFailedSuccessors unique]
  constructor
  · intro reached
    induction reached with
    | @direct row rowEligible refers =>
      by_cases scope : row.key.SameScope rejected.key
      · exact .direct ⟨rowEligible.1.stored, rowEligible.1.queued, scope⟩ refers
      · have foreign := identified.unreferenced row rowEligible.1 scope rowEligible.2
        exact absurd refers foreign.1
    | @through earlier row reached rowEligible refers ih =>
      by_cases scope : row.key.SameScope rejected.key
      · exact .through ih ⟨rowEligible.1.stored, rowEligible.1.queued, scope⟩ refers
      · have foreign := identified.unreferenced row rowEligible.1 scope rowEligible.2
        exact absurd refers (foreign.2 earlier ih)
  · intro dependent
    have visible : ∀ row, queue.Dependent rejected row →
        queue.LatestQueued rejected.key.workspaceId row ∧
          row.key.operationId ≠ rejected.key.operationId :=
      fun row dependent =>
        ⟨identified.latest row dependent, dependent.operationId_ne unique stored ended⟩
    induction dependent with
    | direct rowEligible refers => exact .direct (visible _ (.direct rowEligible refers)) refers
    | through reached rowEligible refers ih =>
      exact .through ih (visible _ (.through reached rowEligible refers)) refers

theorem mem_failRows {failed : List NavigationMutationRecord} {failedOperationId : String}
    {revision : Nat} {now : String} {row : NavigationMutationRecord} :
    row ∈ failRows failed failedOperationId revision now queue.records ↔
      (∃ earlier ∈ queue.records, earlier ∈ failed ∧
        dependencyFailedRecord failedOperationId revision now earlier = row) ∨
      (row ∈ queue.records ∧ row ∉ failed) := by
  unfold failRows
  rw [List.mem_map]
  constructor
  · rintro ⟨earlier, stored, rfl⟩
    by_cases listed : earlier ∈ failed
    · left
      exact ⟨earlier, stored, listed, by rw [if_pos listed]⟩
    · right
      rw [if_neg listed]
      exact ⟨stored, listed⟩
  · rintro (⟨earlier, stored, listed, rfl⟩ | ⟨stored, fresh⟩)
    · exact ⟨earlier, stored, by rw [if_pos listed]⟩
    · exact ⟨row, stored, by rw [if_neg fresh]⟩

theorem settled_iff (after : NavigationQueue) {successors : List NavigationMutationRecord}
    {revision : Nat} {now : String}
    (exact : ∀ row, row ∈ successors ↔ queue.Dependent rejected row)
    (records : after.records =
      failRows successors rejected.key.operationId revision now queue.records) :
    (∀ row ∈ after.records, row.state = .queued → ¬ after.HasFailedDependency row) ↔
      ∀ row ∈ queue.records, row.state = .queued → queue.HasFailedDependency row →
        queue.Dependent rejected row := by
  constructor
  · rintro settled row stored queued ⟨dependency, dependencyStored, scope, refers, failed⟩
    by_contra independent
    have fresh : row ∉ successors := fun listed => independent ((exact row).mp listed)
    have kept : dependency ∉ successors := by
      intro listed
      have dependencyQueued := ((exact dependency).mp listed).queued.2
      rw [dependencyQueued] at failed
      rcases failed with failed | failed
      · cases failed
      · cases failed
    apply settled row
    · rw [records, mem_failRows]
      exact Or.inr ⟨stored, fresh⟩
    · exact queued
    · refine ⟨dependency, ?_, scope, refers, failed⟩
      rw [records, mem_failRows]
      exact Or.inr ⟨dependencyStored, kept⟩
  · intro noEarlierFailure row member queued failedDependency
    rw [records, mem_failRows] at member
    rcases member with ⟨earlier, _, _, rfl⟩ | ⟨stored, fresh⟩
    · cases queued
    · obtain ⟨dependency, dependencyMember, scope, refers, failed⟩ := failedDependency
      apply fresh
      rw [exact]
      rw [records, mem_failRows] at dependencyMember
      rcases dependencyMember with ⟨earlier, _, listed, rfl⟩ | ⟨dependencyStored, _⟩
      · have earlierDependent := (exact earlier).mp listed
        have rowScope : row.key.SameScope rejected.key :=
          scope.symm.trans earlierDependent.eligible.2.2
        exact .through earlierDependent ⟨stored, queued, rowScope⟩ refers
      · exact noEarlierFailure row stored queued
          ⟨dependency, dependencyStored, scope, refers, failed⟩

theorem nextRunnable_queued {choice : AnyRow NavigationMutationRecord} {workspaceId : String}
    {row : NavigationMutationRecord}
    (runnable : queue.nextRunnable choice workspaceId = .ok (some row)) :
    row ∈ queue.records ∧ row.state = .queued := by
  unfold nextRunnable at runnable
  split at runnable
  · cases runnable
  · next head found =>
      split at runnable
      · cases runnable
      · next queued =>
          obtain ⟨terminal, _, runnable⟩ := bind_ok runnable
          split at runnable
          · cases runnable
            exact ⟨(head_ok found).1, by simpa using queued⟩
          · cases runnable

/-- A rejection fails exactly its dependents, and leaves no queued row with a failed
dependency, when and only when the ids lead the sweeps to the dependents. -/
theorem dependencyFailure_exact (unique : queue.UniqueRows) (stored : rejected ∈ queue.records)
    (ended : rejected.state = .rejected) (revision : Nat) (now : String) :
    (∃ after, NavigationDatabase.appendSuccessorEvents now
        (queue.markDependencyFailedSuccessors rejected.key.workspaceId
          rejected.key.operationId revision now).1
        (queue.markDependencyFailedSuccessors rejected.key.workspaceId
          rejected.key.operationId revision now).2 = .ok after ∧
      queue.FailsDependents rejected revision now
        (queue.markDependencyFailedSuccessors rejected.key.workspaceId
          rejected.key.operationId revision now).1 after) ↔
      queue.DependentsIdentified rejected := by
  have successors : (queue.markDependencyFailedSuccessors rejected.key.workspaceId
      rejected.key.operationId revision now).1 =
      queue.dependencyFailedSuccessors rejected.key.workspaceId rejected.key.operationId := rfl
  constructor
  · rintro ⟨after, _, fails⟩
    rw [successors] at fails
    have listed := fun row => @mem_dependencyFailedSuccessors queue unique
      rejected.key.workspaceId rejected.key.operationId row
    constructor
    · intro row dependent
      exact ((listed row).mp ((fails.exact row).mpr dependent)).eligible.1
    · intro row latest foreign otherId
      constructor
      · intro refers
        have failed := (fails.exact row).mp ((listed row).mpr (.direct ⟨latest, otherId⟩ refers))
        exact foreign failed.eligible.2.2
      · intro dependent isDependent refers
        have reached := (listed dependent).mp ((fails.exact dependent).mpr isDependent)
        have failed := (fails.exact row).mp
          ((listed row).mpr (.through reached ⟨latest, otherId⟩ refers))
        exact foreign failed.eligible.2.2
    · exact (settled_iff after fails.exact fails.records).mp fails.settled
  · intro identified
    obtain ⟨events, appended, keys, states⟩ := markSuccessors_ok unique
      rejected.key.workspaceId rejected.key.operationId revision now
    have exact := identified.mem_successors unique stored ended
    refine ⟨_, appended, ?_⟩
    rw [successors]
    have settled := (settled_iff { queue with
        records := failRows (queue.dependencyFailedSuccessors rejected.key.workspaceId
          rejected.key.operationId) rejected.key.operationId revision now queue.records
        events := queue.events ++ events } exact rfl).mpr identified.noEarlierFailure
    constructor
    · exact exact
    · exact List.Nodup.of_map _ (queue.dependencyFailedSuccessors_ok _ _).2
    · rfl
    · exact ⟨events, rfl, keys, states⟩
    · exact settled
    · intro choice workspaceId row runnable
      obtain ⟨rowStored, queued⟩ := nextRunnable_queued runnable
      exact settled row rowStored queued

end Condition

def renameRecord (actor operationId : String) (queueSeq : Nat) (dependsOn : List String)
    (state : NavigationMutationState) : NavigationMutationRecord where
  key := ⟨"gateway", "workspace", actor, operationId⟩
  clientSequence := queueSeq
  queueSeq := queueSeq
  kind := .renameNode
  params :=
    { expectedRevision := some 1
      baseCatalogRevision := 0
      targetNodeId := some "node"
      createdByOperationId := none
      name := some "name"
      parentNodeId := none
      recursive := false
      expectedTitle := none
      expectedTitleSource := none }
  preimageHash := "preimage"
  dependsOn := dependsOn
  createdByOperationId := none
  targetNodeId := some "node"
  reservedNodeId := none
  createdAt := "accepted"
  state := state
  resultNodeId := none
  resultNodeRevision := none
  committedCatalogRevision := none
  errorCode := none
  errorDetail := none
  pendingSettlement := false
  holderId := none
  fencingToken := 0
  receiptRevision := 1
  updatedAt := "accepted"

def ofRecords (records : List NavigationMutationRecord) : NavigationQueue :=
  ⟨records, [], [], []⟩

theorem dependencyFailure_exact_chain :
    ∃ after, NavigationDatabase.appendSuccessorEvents "now"
        ((ofRecords [renameRecord "actor" "first" 1 [] .rejected,
          renameRecord "actor" "second" 2 ["first"] .queued]).markDependencyFailedSuccessors
            "workspace" "first" 7 "now").1
        ((ofRecords [renameRecord "actor" "first" 1 [] .rejected,
          renameRecord "actor" "second" 2 ["first"] .queued]).markDependencyFailedSuccessors
            "workspace" "first" 7 "now").2 = .ok after ∧
      FailsDependents (ofRecords [renameRecord "actor" "first" 1 [] .rejected,
          renameRecord "actor" "second" 2 ["first"] .queued])
        (renameRecord "actor" "first" 1 [] .rejected) 7 "now"
        ((ofRecords [renameRecord "actor" "first" 1 [] .rejected,
          renameRecord "actor" "second" 2 ["first"] .queued]).markDependencyFailedSuccessors
            "workspace" "first" 7 "now").1 after := by
  have unique : (ofRecords [renameRecord "actor" "first" 1 [] .rejected,
      renameRecord "actor" "second" 2 ["first"] .queued]).UniqueRows :=
    ⟨by decide, by simp [ofRecords, renameRecord]⟩
  refine (dependencyFailure_exact unique (List.mem_cons_self ..) rfl 7 "now").mpr ?_
  constructor
  · intro row dependent
    have queued := dependent.queued
    simp only [ofRecords, List.mem_cons, List.not_mem_nil, or_false] at queued
    obtain ⟨rfl | rfl, queued⟩ := queued
    · cases queued
    · exact ⟨by simp [ofRecords], rfl, rfl, by simp [ofRecords, renameRecord]⟩
  · intro row latest foreign
    have stored := latest.stored
    simp only [ofRecords, List.mem_cons, List.not_mem_nil, or_false] at stored
    rcases stored with rfl | rfl
    · exact absurd ⟨rfl, rfl, rfl⟩ foreign
    · exact absurd ⟨rfl, rfl, rfl⟩ foreign
  · intro row stored queued _
    simp only [ofRecords, List.mem_cons, List.not_mem_nil, or_false] at stored
    rcases stored with rfl | rfl
    · cases queued
    · refine .direct ⟨by simp [ofRecords], rfl, rfl, rfl, rfl⟩ ?_
      simp [renameRecord, AcceptedIntent.dependencyIds]

/-- The rename of another actor, which depends on that actor's own `first`, is failed
with the `first` of this one. -/
theorem dependencyFailure_exact_foreignActor :
    ¬ ∀ (queue : NavigationQueue) (rejected : NavigationMutationRecord), queue.UniqueRows →
      rejected ∈ queue.records → rejected.state = .rejected →
        ∀ (revision : Nat) (now : String),
          ∃ after, NavigationDatabase.appendSuccessorEvents now
              (queue.markDependencyFailedSuccessors rejected.key.workspaceId
                rejected.key.operationId revision now).1
              (queue.markDependencyFailedSuccessors rejected.key.workspaceId
                rejected.key.operationId revision now).2 = .ok after ∧
            queue.FailsDependents rejected revision now
              (queue.markDependencyFailedSuccessors rejected.key.workspaceId
                rejected.key.operationId revision now).1 after := by
  intro claimed
  obtain ⟨after, _, fails⟩ := claimed
    (ofRecords [renameRecord "left" "first" 2 [] .rejected,
      renameRecord "right" "first" 1 [] .committed,
      renameRecord "right" "second" 3 ["first"] .queued])
    (renameRecord "left" "first" 2 [] .rejected)
    ⟨by decide, by simp [ofRecords, renameRecord]⟩ (List.mem_cons_self ..) rfl 7 "now"
  have failed : renameRecord "right" "second" 3 ["first"] .queued ∈
      ((ofRecords [renameRecord "left" "first" 2 [] .rejected,
        renameRecord "right" "first" 1 [] .committed,
        renameRecord "right" "second" 3 ["first"] .queued]).markDependencyFailedSuccessors
          "workspace" "first" 7 "now").1 := by
    decide
  have scope := ((fails.exact _).mp failed).eligible.2.2.2.2
  exact absurd scope (by decide)

end NavigationQueue

end GraphAgent.Navigation
