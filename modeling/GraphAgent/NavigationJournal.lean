import GraphAgent.NavigationTransactions

/-!
# The delete journal and the queue

A subtree is closed and its operation committed in one transaction, and a
completed delete has been settled.  So the journal never lets a worker commit an
operation twice, and settling after completion changes nothing.
-/

namespace GraphAgent.Navigation

open KeyedRows Transaction NavigationQueue

namespace NavigationDatabase

variable {Nodes : Type} {store : NodeStore Nodes} {database next : NavigationDatabase Nodes}
  {owner : NavigationQueueOwner} {idempotencyKey now : String}

structure JournalInvariant (database : NavigationDatabase Nodes) : Prop where
  owned : ∀ idempotencyKey journal, database.fetchSubtreeDelete idempotencyKey = some journal →
    ∃ row ∈ database.records, row.key.workspaceId = journal.workspaceId ∧
      row.key.operationId = idempotencyKey ∧ row.isSubtreeDelete = true
  committed : ∀ row ∈ database.records, row.isSubtreeDelete = true → row.state = .committed →
    ∃ journal, database.fetchSubtreeDelete row.key.operationId = some journal ∧
      journal.workspaceId = row.key.workspaceId ∧ journal.state ≠ .preparing
  marked : ∀ idempotencyKey journal, database.fetchSubtreeDelete idempotencyKey = some journal →
    journal.state.isMarked = true →
    ∃ row ∈ database.records, row.key.workspaceId = journal.workspaceId ∧
      row.key.operationId = idempotencyKey ∧ row.isSubtreeDelete = true ∧ row.state = .committed
  completed : ∀ idempotencyKey journal,
    database.fetchSubtreeDelete idempotencyKey = some journal → journal.state = .completed →
    ∀ row ∈ database.records, row.key.workspaceId = journal.workspaceId →
      row.key.operationId = idempotencyKey → row.pendingSettlement = false

theorem opened_journalInvariant (nodes : Nodes) :
    JournalInvariant (NavigationDatabase.opened nodes) where
  owned := by simp [opened, fetchSubtreeDelete, fetch]
  committed := by simp [opened, NavigationQueue.empty]
  marked := by simp [opened, fetchSubtreeDelete, fetch]
  completed := by simp [opened, fetchSubtreeDelete, fetch]

theorem requireSubtreeDelete_ok {journal : SubtreeDeleteRecord}
    (required : database.requireSubtreeDelete idempotencyKey = .ok journal) :
    database.fetchSubtreeDelete idempotencyKey = some journal := by
  unfold requireSubtreeDelete at required
  split at required
  · next found => rw [found, Except.ok.inj required]
  · cases required

theorem fetchSubtreeDelete_update {change : SubtreeDeleteRecord → SubtreeDeleteRecord}
    (keeps : ∀ journal, (change journal).idempotencyKey = journal.idempotencyKey)
    (wanted : String) :
    (database.updateSubtreeDelete idempotencyKey change).fetchSubtreeDelete wanted =
      (database.fetchSubtreeDelete wanted).map fun journal =>
        if wanted = idempotencyKey then change journal else journal := by
  unfold fetchSubtreeDelete updateSubtreeDelete
  dsimp only
  rw [fetch_updateWhere keeps]
  cases found : fetch (fun journal : SubtreeDeleteRecord => journal.idempotencyKey)
      database.deletes wanted with
  | none => rfl
  | some journal =>
    have same : journal.idempotencyKey = wanted := fetch_key found
    simp [same]

theorem JournalInvariant.queueStep (journals : JournalInvariant database)
    (invariant : Invariant next.toNavigationQueue)
    (rows : RowsKept database.toNavigationQueue next.toNavigationQueue)
    (kept : DeletesKept database.toNavigationQueue next.toNavigationQueue fun _ => False)
    (deletes : next.deletes = database.deletes) : JournalInvariant next := by
  have sameFetch : ∀ key, next.fetchSubtreeDelete key = database.fetchSubtreeDelete key := by
    intro key
    rw [fetchSubtreeDelete, deletes]
    rfl
  refine ⟨?_, ?_, ?_, ?_⟩
  · intro key journal fetched
    rw [sameFetch] at fetched
    obtain ⟨row, member, sameWorkspace, sameOperation, subtree⟩ := journals.owned key journal fetched
    obtain ⟨later, laterMember, sameIntent, -⟩ := rows row member
    exact ⟨later, laterMember, by rw [sameIntent]; exact sameWorkspace,
      by rw [sameIntent]; exact sameOperation, by rw [sameIntent]; exact subtree⟩
  · intro later laterMember subtree committed
    rcases kept later laterMember subtree committed with
      ⟨row, member, sameIntent, rowCommitted, -⟩ | impossible
    · obtain ⟨journal, fetched, found⟩ := journals.committed row member
        (by rw [sameIntent]; exact subtree) rowCommitted
      refine ⟨journal, ?_, ?_⟩
      · rw [sameFetch, ← sameIntent]
        exact fetched
      · rw [← sameIntent]
        exact found
    · exact impossible.elim
  · intro key journal fetched marked
    rw [sameFetch] at fetched
    obtain ⟨row, member, sameWorkspace, sameOperation, subtree, committed⟩ :=
      journals.marked key journal fetched marked
    obtain ⟨later, laterMember, sameIntent, terminalKept⟩ := rows row member
    have terminal : row.isTerminal = true := by
      rw [NavigationMutationRecord.isTerminal, committed]
      rfl
    exact ⟨later, laterMember, by rw [sameIntent]; exact sameWorkspace,
      by rw [sameIntent]; exact sameOperation, by rw [sameIntent]; exact subtree,
      (terminalKept terminal).state.trans committed⟩
  · intro key journal fetched completed later laterMember sameWorkspace sameOperation
    rw [sameFetch] at fetched
    by_contra pending
    rw [Bool.not_eq_false] at pending
    obtain ⟨committed, subtree⟩ := invariant.pendingCommitted later laterMember pending
    rcases kept later laterMember subtree committed with
      ⟨row, member, sameIntent, -, wasPending⟩ | impossible
    · rw [← sameIntent] at sameWorkspace sameOperation
      have settled := journals.completed key journal fetched completed row member sameWorkspace
        sameOperation
      rw [wasPending pending] at settled
      cases settled
    · exact impossible.elim

theorem JournalInvariant.journalStep (journals : JournalInvariant database)
    (invariant : Invariant next.toNavigationQueue)
    (rows : RowsKept database.toNavigationQueue next.toNavigationQueue)
    {journal : SubtreeDeleteRecord}
    (fetched : database.fetchSubtreeDelete idempotencyKey = some journal)
    (kept : DeletesKept database.toNavigationQueue next.toNavigationQueue fun ended =>
      ended.key.operationId = idempotencyKey ∧ ended.key.workspaceId = journal.workspaceId)
    (change : SubtreeDeleteRecord → SubtreeDeleteRecord)
    (sameKey : ∀ record, (change record).idempotencyKey = record.idempotencyKey)
    (sameWorkspace : (change journal).workspaceId = journal.workspaceId)
    (deletes : next.deletes = (database.updateSubtreeDelete idempotencyKey change).deletes)
    (prepared : (change journal).state ≠ .preparing)
    (marked : (change journal).state.isMarked = true →
      ∃ row ∈ next.records, row.key.workspaceId = journal.workspaceId ∧
        row.key.operationId = idempotencyKey ∧ row.isSubtreeDelete = true ∧
          row.state = .committed)
    (completed : (change journal).state = .completed →
      ∀ row ∈ next.records, row.key.workspaceId = journal.workspaceId →
        row.key.operationId = idempotencyKey → row.pendingSettlement = false) :
    JournalInvariant next := by
  have nextFetch : ∀ wanted, next.fetchSubtreeDelete wanted =
      (database.fetchSubtreeDelete wanted).map fun record =>
        if wanted = idempotencyKey then change record else record := by
    intro wanted
    rw [← fetchSubtreeDelete_update sameKey, fetchSubtreeDelete, fetchSubtreeDelete, deletes]
  have changed : next.fetchSubtreeDelete idempotencyKey = some (change journal) := by
    rw [nextFetch, fetched]
    simp
  have others : ∀ {wanted}, wanted ≠ idempotencyKey →
      next.fetchSubtreeDelete wanted = database.fetchSubtreeDelete wanted := by
    intro wanted different
    rw [nextFetch]
    simp [different]
  have owner : ∀ {key} {after : SubtreeDeleteRecord},
      next.fetchSubtreeDelete key = some after →
      ∃ before, database.fetchSubtreeDelete key = some before ∧
        after.workspaceId = before.workspaceId ∧
          (key ≠ idempotencyKey → after = before) ∧
            (key = idempotencyKey → after = change journal) := by
    intro key after found
    by_cases same : key = idempotencyKey
    · subst same
      rw [changed] at found
      cases found
      exact ⟨journal, fetched, sameWorkspace, fun different => absurd rfl different, fun _ => rfl⟩
    · rw [others same] at found
      exact ⟨after, found, rfl, fun _ => rfl, fun equal => absurd equal same⟩
  refine ⟨?_, ?_, ?_, ?_⟩
  · intro key after found
    obtain ⟨before, beforeFetched, workspace, -⟩ := owner found
    obtain ⟨row, member, rowWorkspace, rowOperation, subtree⟩ :=
      journals.owned key before beforeFetched
    obtain ⟨later, laterMember, sameIntent, -⟩ := rows row member
    exact ⟨later, laterMember, by rw [sameIntent, workspace]; exact rowWorkspace,
      by rw [sameIntent]; exact rowOperation, by rw [sameIntent]; exact subtree⟩
  · intro later laterMember subtree committed
    rcases kept later laterMember subtree committed with
      ⟨row, member, sameIntent, rowCommitted, -⟩ | ⟨endedOperation, endedWorkspace⟩
    · obtain ⟨record, found, workspace, notPreparing⟩ := journals.committed row member
        (by rw [sameIntent]; exact subtree) rowCommitted
      rw [sameIntent] at found workspace
      by_cases same : later.key.operationId = idempotencyKey
      · rw [same, fetched] at found
        cases found
        exact ⟨change journal, by rw [same]; exact changed, sameWorkspace.trans workspace, prepared⟩
      · exact ⟨record, by rw [others same]; exact found, workspace, notPreparing⟩
    · exact ⟨change journal, by rw [endedOperation]; exact changed,
        sameWorkspace.trans endedWorkspace.symm, prepared⟩
  · intro key after found isMarked
    obtain ⟨before, beforeFetched, workspace, unchanged, isChanged⟩ := owner found
    by_cases same : key = idempotencyKey
    · rw [isChanged same] at isMarked workspace ⊢
      rw [same, sameWorkspace]
      exact marked isMarked
    · rw [unchanged same] at isMarked ⊢
      obtain ⟨row, member, rowWorkspace, rowOperation, subtree, committed⟩ :=
        journals.marked key before beforeFetched isMarked
      obtain ⟨later, laterMember, sameIntent, terminalKept⟩ := rows row member
      have terminal : row.isTerminal = true := by
        rw [NavigationMutationRecord.isTerminal, committed]
        rfl
      exact ⟨later, laterMember, by rw [sameIntent]; exact rowWorkspace,
        by rw [sameIntent]; exact rowOperation, by rw [sameIntent]; exact subtree,
        (terminalKept terminal).state.trans committed⟩
  · intro key after found isCompleted later laterMember laterWorkspace laterOperation
    obtain ⟨before, beforeFetched, workspace, unchanged, isChanged⟩ := owner found
    by_cases same : key = idempotencyKey
    · rw [isChanged same] at isCompleted laterWorkspace
      exact completed isCompleted later laterMember (laterWorkspace.trans sameWorkspace)
        (laterOperation.trans same)
    · rw [unchanged same] at isCompleted laterWorkspace
      by_contra pending
      rw [Bool.not_eq_false] at pending
      obtain ⟨committed, subtree⟩ := invariant.pendingCommitted later laterMember pending
      rcases kept later laterMember subtree committed with
        ⟨row, member, sameIntent, -, wasPending⟩ | ⟨endedOperation, -⟩
      · rw [← sameIntent] at laterWorkspace laterOperation
        have settled := journals.completed key before beforeFetched isCompleted row member
          laterWorkspace laterOperation
        rw [wasPending pending] at settled
        cases settled
      · exact same (laterOperation.symm.trans endedOperation)

theorem createOrGetSubtreeDelete_ok {workspaceId rootNodeId : String}
    (created : createOrGetSubtreeDelete store database idempotencyKey workspaceId rootNodeId now =
      .ok next) :
    next = database ∨
      (database.fetchSubtreeDelete idempotencyKey = none ∧
        ∃ record : SubtreeDeleteRecord, record.idempotencyKey = idempotencyKey ∧
          record.workspaceId = workspaceId ∧ record.state = .preparing ∧
            next = { database with deletes := database.deletes ++ [record] }) := by
  unfold createOrGetSubtreeDelete at created
  split at created
  · split at created
    · cases created
    · cases created
      exact .inl rfl
  · next fresh =>
      obtain ⟨frozen, -, created⟩ := bind_ok created
      cases created
      exact .inr ⟨fresh, _, rfl, rfl, rfl, rfl⟩

theorem JournalInvariant.created (journals : JournalInvariant database)
    {record : SubtreeDeleteRecord}
    (fresh : database.fetchSubtreeDelete record.idempotencyKey = none)
    (preparing : record.state = .preparing)
    (owned : ∃ row ∈ database.records, row.key.workspaceId = record.workspaceId ∧
      row.key.operationId = record.idempotencyKey ∧ row.isSubtreeDelete = true) :
    JournalInvariant { database with deletes := database.deletes ++ [record] } := by
  have fetched : ∀ wanted, fetchSubtreeDelete
      { database with deletes := database.deletes ++ [record] } wanted =
      (database.fetchSubtreeDelete wanted).or
        (if record.idempotencyKey = wanted then some record else none) := by
    intro wanted
    rw [fetchSubtreeDelete, fetch_append]
    by_cases same : record.idempotencyKey = wanted
    · simp [fetchSubtreeDelete, fetch, same]
    · simp [fetchSubtreeDelete, fetch, same]
  have origin : ∀ {key} {journal : SubtreeDeleteRecord}, fetchSubtreeDelete
      { database with deletes := database.deletes ++ [record] } key = some journal →
      database.fetchSubtreeDelete key = some journal ∨
        (key = record.idempotencyKey ∧ journal = record) := by
    intro key journal found
    rw [fetched] at found
    cases earlier : database.fetchSubtreeDelete key with
    | some existing =>
      rw [earlier] at found
      exact .inl found
    | none =>
      rw [earlier] at found
      by_cases same : record.idempotencyKey = key
      · rw [if_pos same] at found
        exact .inr ⟨same.symm, (Option.some.inj found).symm⟩
      · rw [if_neg same] at found
        cases found
  refine ⟨?_, ?_, ?_, ?_⟩
  · intro key journal found
    rcases origin found with old | ⟨rfl, rfl⟩
    · exact journals.owned key journal old
    · exact owned
  · intro row member subtree committed
    obtain ⟨journal, found, kept⟩ := journals.committed row member subtree committed
    refine ⟨journal, ?_, kept⟩
    rw [fetched, found]
    rfl
  · intro key journal found marked
    rcases origin found with old | ⟨rfl, rfl⟩
    · exact journals.marked key journal old marked
    · rw [preparing] at marked
      cases marked
  · intro key journal found completed
    rcases origin found with old | ⟨rfl, rfl⟩
    · exact journals.completed key journal old completed
    · rw [preparing] at completed
      cases completed

theorem JournalInvariant.hook_operation (journals : JournalInvariant database)
    {journal : SubtreeDeleteRecord} {workspaceId : String}
    (fetched : database.fetchSubtreeDelete idempotencyKey = some journal)
    (sameWorkspace : journal.workspaceId = workspaceId)
    {found : Option NavigationMutationRecord}
    (searched : database.findDeleteOperation workspaceId idempotencyKey = .ok found) :
    ∃ operation, found = some operation ∧ operation ∈ database.records ∧
      operation.key.workspaceId = workspaceId ∧ operation.key.operationId = idempotencyKey ∧
        operation.isSubtreeDelete = true ∧
          ∀ row ∈ database.records, row.key.workspaceId = workspaceId →
            row.key.operationId = idempotencyKey → row.isDelete = true → row = operation := by
  obtain ⟨row, member, rowWorkspace, rowOperation, subtree⟩ :=
    journals.owned idempotencyKey journal fetched
  rw [sameWorkspace] at rowWorkspace
  have isDelete := isDelete_of_isSubtreeDelete subtree
  cases found with
  | none =>
    have absent := findDeleteOperation_none searched row member rowWorkspace rowOperation
    rw [absent] at isDelete
    cases isDelete
  | some operation =>
    obtain ⟨operationMember, operationWorkspace, operationId, unique⟩ :=
      findDeleteOperation_some searched
    have same := unique row member rowWorkspace rowOperation isDelete
    exact ⟨operation, rfl, operationMember, operationWorkspace, operationId, same ▸ subtree,
      unique⟩

structure Marks (database next : NavigationDatabase Nodes) (owner : NavigationQueueOwner)
    (idempotencyKey now : String) (intent : AcceptedIntent) : Prop where
  current : database.fetchOwner owner.workspaceId = some owner
  execution : Execution database.toNavigationQueue intent .committed next.toNavigationQueue
  operationId : intent.key.operationId = idempotencyKey
  workspace : intent.key.workspaceId = owner.workspaceId
  subtree : intent.isSubtreeDelete = true
  deletes : next.deletes = (database.updateSubtreeDelete idempotencyKey fun record =>
    { record with state := .deleting, updatedAt := now }).deletes

theorem markSubtreeDeleting_ok (invariant : Invariant database.toNavigationQueue)
    (journals : JournalInvariant database) {journal : SubtreeDeleteRecord}
    (fetched : database.fetchSubtreeDelete idempotencyKey = some journal)
    (sameWorkspace : journal.workspaceId = owner.workspaceId)
    (marked : markSubtreeDeleting store database owner idempotencyKey now = .ok next) :
    next = database ∨ ∃ intent, Marks database next owner idempotencyKey now intent := by
  unfold markSubtreeDeleting at marked
  obtain ⟨record, required, marked⟩ := bind_ok marked
  have same := (requireSubtreeDelete_ok required).symm.trans fetched
  cases same
  split at marked
  · next isMarked =>
      left
      unfold subtreeDeleteMarkHook at marked
      obtain ⟨found, searched, marked⟩ := bind_ok marked
      have journalKey : journal.idempotencyKey = idempotencyKey := fetch_key fetched
      rw [journalKey] at searched
      obtain ⟨operation, rfl, member, -, -, -, unique⟩ :=
        journals.hook_operation fetched sameWorkspace searched
      obtain ⟨row, rowMember, rowWorkspace, rowOperation, subtree, committed⟩ :=
        journals.marked idempotencyKey journal fetched isMarked
      have same := unique row rowMember (rowWorkspace.trans sameWorkspace) rowOperation
        (isDelete_of_isSubtreeDelete subtree)
      rw [same] at committed
      dsimp only at marked
      split at marked
      · cases marked
      · split at marked
        · cases marked
        · cases marked
          rfl
  · split at marked
    · cases marked
    · next isPreparing =>
        right
        rw [not_not] at isPreparing
        obtain ⟨nodes, -, marked⟩ := bind_ok marked
        obtain ⟨updated, updatedRequired, marked⟩ := bind_ok marked
        have updatedKey : updated.idempotencyKey = idempotencyKey :=
          fetch_key (requireSubtreeDelete_ok updatedRequired)
        unfold subtreeDeleteMarkHook at marked
        obtain ⟨found, searched, marked⟩ := bind_ok marked
        rw [updatedKey] at searched
        change database.findDeleteOperation owner.workspaceId idempotencyKey = .ok found
          at searched
        obtain ⟨operation, rfl, member, operationWorkspace, operationId, subtree, -⟩ :=
          journals.hook_operation fetched sameWorkspace searched
        have notCommitted : operation.state ≠ .committed := by
          intro committed
          obtain ⟨journal, journalFetched, -, notPreparing⟩ :=
            journals.committed operation member subtree committed
          rw [operationId, fetched] at journalFetched
          cases journalFetched
          exact notPreparing isPreparing
        dsimp only at marked
        split at marked
        · cases marked
        · split at marked
          · cases marked
          · next isRunning =>
              rw [not_not] at isRunning
              obtain ⟨live, liveRequired, committing⟩ := bind_ok marked
              obtain ⟨current, isLive⟩ := requireLive_ok liveRequired
              split at committing
              · cases committing
              · next row =>
                  obtain ⟨rowFetched, -⟩ := isLive row rfl
                  have stored : database.fetchRecord operation.key = some operation :=
                    fetch_of_mem invariant.keysDistinct member
                  have same : row = operation :=
                    Option.some.inj (rowFetched.symm.trans stored)
                  subst same
                  obtain ⟨⟨terminal, final⟩, finished, committing⟩ := bind_ok committing
                  cases committing
                  have closed : database.closedFor owner idempotencyKey = some row.key := by
                    rw [closedFor, searched]
                  obtain ⟨-, -, queue, rfl, finish⟩ := finish_ok database.toNavigationQueue
                    (by simp [updateSubtreeDelete, withNodeChange, closed]) invariant stored
                    isRunning (.inl rfl) (fun _ => ⟨rfl, subtree⟩) finished
                  exact ⟨row.toAcceptedIntent, current,
                    .execution (.refl _) finish (.refl _), operationId, operationWorkspace,
                    subtree, rfl⟩

structure Finishes (database next : NavigationDatabase Nodes) (owner : NavigationQueueOwner)
    (idempotencyKey now : String) : Prop where
  current : database.fetchOwner owner.workspaceId = some owner
  revised : Revised database.toNavigationQueue next.toNavigationQueue
  settled : ∀ row ∈ next.records, row.key.workspaceId = owner.workspaceId →
    row.key.operationId = idempotencyKey → row.pendingSettlement = false
  deletes : next.deletes = (database.updateSubtreeDelete idempotencyKey fun record =>
    { record with state := .completed, updatedAt := now }).deletes

theorem subtreeDeleteFinishHook_ok (invariant : Invariant database.toNavigationQueue)
    (journals : JournalInvariant database) {journal : SubtreeDeleteRecord}
    (fetched : database.fetchSubtreeDelete idempotencyKey = some journal)
    (sameWorkspace : journal.workspaceId = owner.workspaceId)
    {changed : NavigationDatabase Nodes} {record : SubtreeDeleteRecord}
    (sameQueue : changed.toNavigationQueue = database.toNavigationQueue)
    (recordKey : record.idempotencyKey = idempotencyKey)
    (hooked : subtreeDeleteFinishHook owner now changed record = .ok next) :
    database.fetchOwner owner.workspaceId = some owner ∧
      ∃ queue, next = changed.withQueue queue ∧ Revised database.toNavigationQueue queue ∧
        (∀ row ∈ queue.records, row.key.workspaceId = owner.workspaceId →
          row.key.operationId = idempotencyKey → row.pendingSettlement = false) ∧
        ((∀ row ∈ database.records, row.key.workspaceId = owner.workspaceId →
          row.key.operationId = idempotencyKey → row.pendingSettlement = false) →
            next = changed) := by
  unfold subtreeDeleteFinishHook at hooked
  obtain ⟨found, searched, hooked⟩ := bind_ok hooked
  rw [recordKey, sameQueue] at searched
  obtain ⟨operation, rfl, member, operationWorkspace, operationId, subtree, unique⟩ :=
    journals.hook_operation fetched sameWorkspace searched
  obtain ⟨_, owned, hooked⟩ := bind_ok hooked
  rw [sameQueue] at owned
  refine ⟨requireOwnerGeneration_ok owned, ?_⟩
  have pendingRow : ∀ row ∈ database.records, row.key.workspaceId = owner.workspaceId →
      row.key.operationId = idempotencyKey → row.pendingSettlement = true → row = operation := by
    intro row rowMember rowWorkspace rowOperation pending
    have rowSubtree := (invariant.pendingCommitted row rowMember pending).2
    exact unique row rowMember rowWorkspace rowOperation (isDelete_of_isSubtreeDelete rowSubtree)
  split at hooked
  · cases hooked
  · next isCommitted =>
      rw [not_not] at isCommitted
      split at hooked
      · next isPending =>
          obtain ⟨⟨terminal, settledQueue⟩, settling, hooked⟩ := bind_ok hooked
          cases hooked
          rw [sameQueue] at settling
          have settled := settleDeleteOperation_ok settling
          subst settled
          refine ⟨_, rfl, settled_revised operation.key now, ?_, ?_⟩
          · intro row rowMember rowWorkspace rowOperation
            obtain ⟨earlier, earlierMember, rfl⟩ := List.mem_map.mp rowMember
            split
            · rfl
            · next unmatched =>
                by_contra pending
                rw [Bool.not_eq_false] at pending
                rw [if_neg unmatched] at rowWorkspace rowOperation
                have same := pendingRow earlier earlierMember rowWorkspace rowOperation pending
                subst same
                exact unmatched (by simp [isCommitted, pending])
          · intro allSettled
            rw [allSettled operation member operationWorkspace operationId] at isPending
            cases isPending
      · next notPending =>
          cases hooked
          refine ⟨database.toNavigationQueue, ?_, .refl _, ?_, fun _ => rfl⟩
          · rw [← sameQueue]
            rfl
          · intro row rowMember rowWorkspace rowOperation
            by_contra pending
            rw [Bool.not_eq_false] at pending
            have same := pendingRow row rowMember rowWorkspace rowOperation pending
            subst same
            exact notPending pending

theorem finishSubtreeDelete_ok (invariant : Invariant database.toNavigationQueue)
    (journals : JournalInvariant database) {journal : SubtreeDeleteRecord}
    (fetched : database.fetchSubtreeDelete idempotencyKey = some journal)
    (sameWorkspace : journal.workspaceId = owner.workspaceId)
    (finished : finishSubtreeDelete store database owner idempotencyKey now = .ok next) :
    database.fetchOwner owner.workspaceId = some owner ∧
      (next = database ∨ Finishes database next owner idempotencyKey now) := by
  have journalKey : journal.idempotencyKey = idempotencyKey := fetch_key fetched
  unfold finishSubtreeDelete at finished
  obtain ⟨record, required, finished⟩ := bind_ok finished
  have same := (requireSubtreeDelete_ok required).symm.trans fetched
  cases same
  split at finished
  · next isCompleted =>
      obtain ⟨current, queue, -, -, -, unchanged⟩ := subtreeDeleteFinishHook_ok invariant journals
        fetched sameWorkspace rfl journalKey finished
      refine ⟨current, .inl (unchanged ?_)⟩
      intro row member rowWorkspace rowOperation
      exact journals.completed idempotencyKey journal fetched isCompleted row member
        (rowWorkspace.trans sameWorkspace.symm) rowOperation
  · split at finished
    · cases finished
    · split at finished
      · cases finished
      · obtain ⟨nodes, -, finished⟩ := bind_ok finished
        obtain ⟨updated, updatedRequired, finished⟩ := bind_ok finished
        have updatedKey : updated.idempotencyKey = idempotencyKey :=
          fetch_key (requireSubtreeDelete_ok updatedRequired)
        obtain ⟨current, queue, rfl, revised, settled, -⟩ := subtreeDeleteFinishHook_ok invariant
          journals fetched sameWorkspace (by rfl) updatedKey finished
        exact ⟨current, .inr ⟨current, revised, settled, rfl⟩⟩

structure JournalMoves (database next : NavigationDatabase Nodes) (idempotencyKey : String)
    (journal : SubtreeDeleteRecord)
    (change : SubtreeDeleteRecord → SubtreeDeleteRecord) : Prop where
  next : next = database.updateSubtreeDelete idempotencyKey change
  sameKey : ∀ record, (change record).idempotencyKey = record.idempotencyKey
  sameWorkspace : (change journal).workspaceId = journal.workspaceId
  prepared : (change journal).state ≠ .preparing
  marked : (change journal).state.isMarked = true → journal.state.isMarked = true
  completed : (change journal).state ≠ .completed

theorem recordDrainProgress_ok {sessionId : String} {journal : SubtreeDeleteRecord}
    (fetched : database.fetchSubtreeDelete idempotencyKey = some journal)
    (recorded : database.recordDrainProgress idempotencyKey sessionId now = .ok next) :
    next = database ∨ ∃ change, JournalMoves database next idempotencyKey journal change := by
  unfold recordDrainProgress at recorded
  obtain ⟨record, required, recorded⟩ := bind_ok recorded
  have same := (requireSubtreeDelete_ok required).symm.trans fetched
  cases same
  split at recorded
  · cases recorded
  · next isMarked =>
      split at recorded
      · cases recorded
      · split at recorded
        · cases recorded
          exact .inl rfl
        · cases recorded
          exact .inr ⟨_, rfl, fun _ => rfl, rfl, by simp, fun _ => by simpa using isMarked,
            by simp⟩

theorem abortSubtreeDelete_ok {reason : String} {journal : SubtreeDeleteRecord}
    (fetched : database.fetchSubtreeDelete idempotencyKey = some journal)
    (aborted : database.abortSubtreeDelete idempotencyKey reason now = .ok next) :
    next = database ∨ ∃ change, JournalMoves database next idempotencyKey journal change := by
  unfold abortSubtreeDelete at aborted
  split at aborted
  · cases aborted
  · obtain ⟨record, required, aborted⟩ := bind_ok aborted
    have same := (requireSubtreeDelete_ok required).symm.trans fetched
    cases same
    split at aborted
    · cases aborted
    · cases aborted
      exact .inl rfl
    · cases aborted
      exact .inr ⟨_, rfl, fun _ => rfl, rfl, by simp, by simp [SubtreeDeleteState.isMarked],
        by simp⟩

theorem settleExecutedDelete_ok (invariant : Invariant database.toNavigationQueue)
    (journals : JournalInvariant database) {key : RecordKey} {completed : Bool}
    {outcome : NavigationExecutionOutcome}
    (reported : completed = true → ∃ journal,
      database.fetchSubtreeDelete key.operationId = some journal ∧ journal.state = .completed)
    (settled : database.settleExecutedDelete key completed now = .ok (outcome, next)) :
    next = database := by
  unfold settleExecutedDelete at settled
  obtain ⟨current, required, settled⟩ := bind_ok settled
  obtain ⟨member, sameKey⟩ := fetchRecord_mem (requireRecord_ok required)
  split at settled
  · next isSettled =>
      split at settled
      · next pending =>
          have subtree := (invariant.pendingCommitted current member pending).2
          obtain ⟨journal, fetched, sameWorkspace, -⟩ :=
            journals.committed current member subtree isSettled.1
          obtain ⟨reportedJournal, reportedFetched, isCompleted⟩ := reported isSettled.2
          rw [sameKey, reportedFetched] at fetched
          cases fetched
          have notPending := journals.completed key.operationId journal reportedFetched
            isCompleted current member sameWorkspace.symm (by rw [sameKey])
          rw [notPending] at pending
          cases pending
      · cases settled
        rfl
  · split at settled
    · cases settled
      rfl
    · cases settled

theorem recordDeleteSettlementFailure_ok {key : RecordKey} {detail : String}
    (recorded : database.recordDeleteSettlementFailure owner key detail now = .ok next) :
    database.fetchOwner owner.workspaceId = some owner ∧
      Revised database.toNavigationQueue next.toNavigationQueue ∧
        next.deletes = database.deletes := by
  unfold recordDeleteSettlementFailure at recorded
  obtain ⟨_, owned, recorded⟩ := bind_ok recorded
  obtain ⟨⟨terminal, queue⟩, marked, recorded⟩ := bind_ok recorded
  cases recorded
  exact ⟨requireOwnerGeneration_ok owned, markDeleteRepairRequired_ok marked, rfl⟩

end NavigationDatabase

end GraphAgent.Navigation
