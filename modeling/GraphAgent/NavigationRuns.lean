import GraphAgent.NavigationJournal

/-!
# Runs of the navigation queue

The invariant of the whole system: the queue, the journal, and what the workers
hold.  Every transaction of a client or a worker keeps it, current owner or not.
-/

namespace GraphAgent.Navigation

open KeyedRows Transaction NavigationQueue NavigationDatabase

namespace NavigationQueue

structure ClaimsInvariant (queue : NavigationQueue)
    (claimed : List (NavigationQueueOwner × NavigationMutationRecord)) : Prop where
  dated : ∀ claim ∈ claimed, ∃ current,
    queue.fetchOwner claim.1.workspaceId = some current ∧
      claim.1.generation ≤ current.generation
  held : ∀ claim ∈ claimed, ∃ row ∈ queue.records,
    row.toAcceptedIntent = claim.2.toAcceptedIntent ∧
      row.key.workspaceId = claim.1.workspaceId ∧ row.isSubtreeDelete = true ∧
        (queue.fetchOwner claim.1.workspaceId = some claim.1 → Held claim.1 row)

variable {queue next : NavigationQueue}
  {claimed : List (NavigationQueueOwner × NavigationMutationRecord)}

theorem ClaimsInvariant.transition (claims : ClaimsInvariant queue claimed)
    (invariant : Invariant queue) (transition : Transition queue next) :
    ClaimsInvariant next claimed := by
  have sameOwner : ∀ workspaceId, next.fetchOwner workspaceId = queue.fetchOwner workspaceId := by
    intro workspaceId
    rw [fetchOwner, fetchOwner, transition.owners]
  refine ⟨?_, ?_⟩
  · intro claim member
    rw [sameOwner]
    exact claims.dated claim member
  · intro claim member
    obtain ⟨row, rowMember, sameIntent, sameWorkspace, subtree, held⟩ := claims.held claim member
    by_cases current : queue.fetchOwner claim.1.workspaceId = some claim.1
    · obtain ⟨later, laterMember, laterIntent, laterHeld⟩ :=
        transition.holdsKept invariant claim.1 current row rowMember sameWorkspace (held current)
      exact ⟨later, laterMember, laterIntent.trans sameIntent,
        by rw [laterIntent]; exact sameWorkspace, by rw [laterIntent]; exact subtree,
        fun _ => laterHeld⟩
    · obtain ⟨later, laterMember, laterIntent, -⟩ := transition.rowsKept invariant row rowMember
      refine ⟨later, laterMember, laterIntent.trans sameIntent,
        by rw [laterIntent]; exact sameWorkspace, by rw [laterIntent]; exact subtree, ?_⟩
      intro stillCurrent
      rw [sameOwner] at stillCurrent
      exact absurd stillCurrent current

theorem fetchOwner_acquireOwner (queue : NavigationQueue) (workspaceId ownerId wanted : String) :
    (queue.acquireOwner workspaceId ownerId).fetchOwner wanted =
      if wanted = workspaceId then
        some ⟨workspaceId, ownerId,
          ((queue.fetchOwner workspaceId).map (·.generation)).getD 0 + 1⟩
      else
        queue.fetchOwner wanted := by
  unfold acquireOwner upsert fetchOwner
  dsimp only
  cases found : fetch (fun owner : NavigationQueueOwner => owner.workspaceId) queue.owners
      workspaceId with
  | none =>
    dsimp only
    rw [fetch_append]
    by_cases same : wanted = workspaceId
    · subst same
      rw [found]
      simp [fetch]
    · have different : ¬ workspaceId = wanted := fun equal => same equal.symm
      simp [fetch, same, different]
  | some owner =>
    have ownerWorkspace : owner.workspaceId = workspaceId := fetch_key found
    dsimp only
    rw [fetch_updateWhere]
    swap
    · intro row
      rfl
    by_cases same : wanted = workspaceId
    · subst same
      rw [found]
      simp [ownerWorkspace]
    · rw [if_neg same]
      cases other : fetch (fun owner : NavigationQueueOwner => owner.workspaceId) queue.owners
          wanted with
      | none => rfl
      | some current =>
        have currentWorkspace : current.workspaceId = wanted := fetch_key other
        simp [currentWorkspace, same]

theorem ClaimsInvariant.acquireOwner (claims : ClaimsInvariant queue claimed)
    (workspaceId ownerId : String) :
    ClaimsInvariant (queue.acquireOwner workspaceId ownerId) claimed := by
  refine ⟨?_, ?_⟩
  · intro claim member
    obtain ⟨current, found, older⟩ := claims.dated claim member
    rw [fetchOwner_acquireOwner]
    by_cases same : claim.1.workspaceId = workspaceId
    · rw [if_pos same]
      rw [same] at found
      refine ⟨_, rfl, ?_⟩
      rw [found]
      exact Nat.le_succ_of_le older
    · rw [if_neg same]
      exact ⟨current, found, older⟩
  · intro claim member
    obtain ⟨row, rowMember, sameIntent, sameWorkspace, subtree, held⟩ := claims.held claim member
    refine ⟨row, rowMember, sameIntent, sameWorkspace, subtree, ?_⟩
    intro current
    rw [fetchOwner_acquireOwner] at current
    by_cases same : claim.1.workspaceId = workspaceId
    · obtain ⟨previous, found, older⟩ := claims.dated claim member
      rw [same] at found
      rw [if_pos same, found] at current
      have generation := congrArg NavigationQueueOwner.generation (Option.some.inj current)
      simp only [Option.map_some, Option.getD_some] at generation
      omega
    · rw [if_neg same] at current
      exact held current

theorem DeletesKept.none {intent : AcceptedIntent} {state : NavigationMutationState}
    (kept : DeletesKept queue next fun ended => ended = intent ∧ state = .committed)
    (other : state = .committed → intent.isSubtreeDelete = false) :
    DeletesKept queue next fun _ => False := by
  intro later member subtree committed
  rcases kept later member subtree committed with row | ⟨rfl, isCommitted⟩
  · exact .inl row
  · rw [other isCommitted] at subtree
    cases subtree

end NavigationQueue

namespace NavigationSystem

variable {Nodes : Type} {store : NodeStore Nodes} {choice : AnyRow NavigationMutationRecord}
  {system : NavigationSystem Nodes} {next : NavigationDatabase Nodes} {now : String}

structure SystemInvariant (system : NavigationSystem Nodes) : Prop where
  queue : Invariant system.database.toNavigationQueue
  journals : JournalInvariant system.database
  claims : ClaimsInvariant system.database.toNavigationQueue system.claimed

/-- What one transaction leaves behind it. -/
structure Progress (before after : NavigationSystem Nodes) : Prop where
  invariant : SystemInvariant after
  rowsKept : RowsKept before.database.toNavigationQueue after.database.toNavigationQueue
  executedInOrder :
    ExecutedInOrder before.database.toNavigationQueue after.database.toNavigationQueue

theorem opened_invariant (nodes : Nodes) : SystemInvariant (opened nodes) where
  queue := by
    refine ⟨⟨?_, ?_, ?_⟩, ?_, ?_, ?_, ?_, ?_, ?_⟩ <;>
      simp [opened, NavigationDatabase.opened, NavigationQueue.empty]
  journals := opened_journalInvariant nodes
  claims := ⟨by simp [opened], by simp [opened]⟩

theorem Progress.refl (invariant : SystemInvariant system) : Progress system system where
  invariant := invariant
  rowsKept := .refl _
  executedInOrder := fun row member terminal _ => ⟨row, member, rfl, .inl terminal⟩

theorem SystemInvariant.transition (invariant : SystemInvariant system)
    (transition : Transition system.database.toNavigationQueue next.toNavigationQueue)
    (journals : JournalInvariant next) : Progress system { system with database := next } where
  invariant :=
    { queue := transition.invariant invariant.queue
      journals := journals
      claims := invariant.claims.transition invariant.queue transition }
  rowsKept := transition.rowsKept invariant.queue
  executedInOrder := transition.executedInOrder invariant.queue

theorem commit_progress (invariant : SystemInvariant system)
    {result : Except NavigationError (NavigationDatabase Nodes)}
    (committed : ∀ next, result = .ok next → Progress system { system with database := next }) :
    Progress system (system.commit result) := by
  cases result with
  | error error => exact .refl invariant
  | ok next => exact committed next rfl

theorem SystemInvariant.executes (invariant : SystemInvariant system)
    {owner : NavigationQueueOwner} {intent : AcceptedIntent} {state : NavigationMutationState}
    (executes : Executes system.database next owner intent state)
    (other : state = .committed → intent.isSubtreeDelete = false) :
    Progress system { system with database := next } := by
  have transition : Transition system.database.toNavigationQueue next.toNavigationQueue :=
    .executed executes.execution
  have kept := (executes.execution.deletesKept invariant.queue).none other
  exact invariant.transition transition (invariant.journals.queueStep
    (transition.invariant invariant.queue) (transition.rowsKept invariant.queue) kept
    executes.deletes)

theorem SystemInvariant.revised (invariant : SystemInvariant system)
    (revised : Revised system.database.toNavigationQueue next.toNavigationQueue)
    (deletes : next.deletes = system.database.deletes) :
    Progress system { system with database := next } := by
  have transition : Transition system.database.toNavigationQueue next.toNavigationQueue :=
    .revised revised
  exact invariant.transition transition (invariant.journals.queueStep
    (transition.invariant invariant.queue) (transition.rowsKept invariant.queue)
    (revised.deletesKept invariant.queue _) deletes)

theorem SystemInvariant.journalMoves (invariant : SystemInvariant system)
    {idempotencyKey : String} {journal : SubtreeDeleteRecord}
    (fetched : system.database.fetchSubtreeDelete idempotencyKey = some journal)
    {change : SubtreeDeleteRecord → SubtreeDeleteRecord}
    (moves : JournalMoves system.database next idempotencyKey journal change) :
    Progress system { system with database := next } := by
  have isNext := moves.next
  subst isNext
  have same : Transition system.database.toNavigationQueue
      (system.database.updateSubtreeDelete idempotencyKey change).toNavigationQueue :=
    .accepted .refl
  apply invariant.transition same
  apply invariant.journals.journalStep (same.invariant invariant.queue)
    (same.rowsKept invariant.queue) fetched
    ((Revised.refl _).deletesKept invariant.queue _) change moves.sameKey moves.sameWorkspace
    rfl moves.prepared
  · intro isMarked
    exact invariant.journals.marked idempotencyKey journal fetched (moves.marked isMarked)
  · intro isCompleted
    exact absurd isCompleted moves.completed

theorem fetched_of_owns {owner : NavigationQueueOwner} {idempotencyKey : String}
    (owns : system.ownsSubtreeDelete owner idempotencyKey = true) :
    ∃ journal, system.database.fetchSubtreeDelete idempotencyKey = some journal ∧
      journal.workspaceId = owner.workspaceId := by
  unfold ownsSubtreeDelete at owns
  cases fetched : system.database.fetchSubtreeDelete idempotencyKey with
  | none =>
    rw [fetched] at owns
    cases owns
  | some journal =>
    rw [fetched] at owns
    exact ⟨journal, rfl, by simpa using owns⟩

theorem marks_progress (invariant : SystemInvariant system) {owner : NavigationQueueOwner}
    {idempotencyKey : String} {journal : SubtreeDeleteRecord}
    (fetched : system.database.fetchSubtreeDelete idempotencyKey = some journal)
    (sameWorkspace : journal.workspaceId = owner.workspaceId) {intent : AcceptedIntent}
    (marks : Marks system.database next owner idempotencyKey now intent) :
    Progress system { system with database := next } := by
  have transition : Transition system.database.toNavigationQueue next.toNavigationQueue :=
    .executed marks.execution
  apply invariant.transition transition
  apply invariant.journals.journalStep (transition.invariant invariant.queue)
    (transition.rowsKept invariant.queue) fetched ?_
    (fun record => { record with state := .deleting, updatedAt := now }) (fun _ => rfl) rfl
    marks.deletes (by simp)
  · intro isMarked
    obtain ⟨later, member, sameIntent, committed⟩ := marks.execution.ended invariant.queue
    refine ⟨later, member, ?_, ?_, ?_, committed⟩
    · rw [sameIntent, marks.workspace, sameWorkspace]
    · rw [sameIntent, marks.operationId]
    · rw [sameIntent, marks.subtree]
  · intro impossible
    cases impossible
  · intro later member subtree committed
    rcases marks.execution.deletesKept invariant.queue later member subtree committed with
      row | ⟨sameIntent, -⟩
    · exact .inl row
    · right
      rw [sameIntent]
      exact ⟨marks.operationId, marks.workspace.trans sameWorkspace.symm⟩

theorem finishes_progress (invariant : SystemInvariant system) {owner : NavigationQueueOwner}
    {idempotencyKey : String} {journal : SubtreeDeleteRecord}
    (fetched : system.database.fetchSubtreeDelete idempotencyKey = some journal)
    (sameWorkspace : journal.workspaceId = owner.workspaceId)
    (finishes : Finishes system.database next owner idempotencyKey now) :
    Progress system { system with database := next } := by
  have transition : Transition system.database.toNavigationQueue next.toNavigationQueue :=
    .revised finishes.revised
  apply invariant.transition transition
  apply invariant.journals.journalStep (transition.invariant invariant.queue)
    (transition.rowsKept invariant.queue) fetched
    (finishes.revised.deletesKept invariant.queue _)
    (fun record => { record with state := .completed, updatedAt := now }) (fun _ => rfl) rfl
    finishes.deletes (by simp)
  · intro impossible
    cases impossible
  · intro _ row member rowWorkspace rowOperation
    exact finishes.settled row member (rowWorkspace.trans sameWorkspace) rowOperation

theorem claimed_progress (invariant : SystemInvariant system) {owner : NavigationQueueOwner}
    {record : NavigationMutationRecord} {queue : NavigationQueue}
    (current : system.database.fetchOwner owner.workspaceId = some owner)
    (sameWorkspace : record.key.workspaceId = owner.workspaceId)
    (subtree : record.isSubtreeDelete = true)
    (revised : Revised system.database.toNavigationQueue queue)
    (member : claimedRecord owner.holderId now record ∈ queue.records) :
    Progress system ⟨system.database.withQueue queue,
      system.claimed ++ [(owner, claimedRecord owner.holderId now record)]⟩ := by
  have progress : Progress system
      { system with database := system.database.withQueue queue } :=
    invariant.revised revised rfl
  have sameOwner : queue.fetchOwner owner.workspaceId = some owner := by
    rw [fetchOwner, revised.owners]
    exact current
  refine ⟨⟨progress.invariant.queue, progress.invariant.journals, ?_, ?_⟩, progress.rowsKept,
    progress.executedInOrder⟩
  · intro claim claimMember
    rcases List.mem_append.mp claimMember with old | new
    · exact progress.invariant.claims.dated claim old
    · rw [List.mem_singleton.mp new]
      exact ⟨owner, sameOwner, le_rfl⟩
  · intro claim claimMember
    rcases List.mem_append.mp claimMember with old | new
    · exact progress.invariant.claims.held claim old
    · rw [List.mem_singleton.mp new]
      exact ⟨_, member, rfl, sameWorkspace, subtree, fun _ => .inr ⟨rfl, rfl⟩⟩

theorem SystemInvariant.heldRow (invariant : SystemInvariant system)
    {owner : NavigationQueueOwner} {record : NavigationMutationRecord}
    (member : (owner, record) ∈ system.claimed)
    (current : system.database.fetchOwner owner.workspaceId = some owner)
    {row : NavigationMutationRecord}
    (fetched : system.database.fetchRecord record.key = some row) : Held owner row := by
  obtain ⟨held, heldMember, sameIntent, -, -, isHeld⟩ := invariant.claims.held _ member
  obtain ⟨rowMember, sameKey⟩ := fetchRecord_mem fetched
  have same : row = held := by
    apply invariant.queue.eq_of_key_eq rowMember heldMember
    rw [sameKey]
    exact (congrArg AcceptedIntent.key sameIntent).symm
  rw [same]
  exact isHeld current

theorem executeRecord_progress (invariant : SystemInvariant system)
    (owner : NavigationQueueOwner) (key : RecordKey)
    (sameWorkspace : key.workspaceId = owner.workspaceId) :
    Progress system (system.executeRecord store choice owner key now) := by
  unfold executeRecord
  split
  · exact .refl invariant
  · next record fetched =>
      have sameKey := (fetchRecord_mem fetched).2
      split
      · exact .refl invariant
      · split
        · next emptyFolder =>
            apply commit_progress invariant
            intro next result
            obtain ⟨⟨outcome, _⟩, executed, rfl⟩ := map_ok result
            obtain ⟨found, foundFetched, executes⟩ :=
              executeEmptyFolderDelete_ok invariant.queue sameWorkspace executed
            rw [fetched] at foundFetched
            cases foundFetched
            apply invariant.executes executes
            intro _
            simp [AcceptedIntent.isSubtreeDelete, emptyFolder.1, emptyFolder.2]
        · next notEmptyFolder =>
            split
            · next isDelete =>
                split
                · exact .refl invariant
                · next row next claimed =>
                    obtain ⟨current, found, queue, foundFetched, rfl, revised, member, rfl⟩ :=
                      claimOrRaise_ok invariant.queue sameWorkspace claimed
                    rw [fetched] at foundFetched
                    cases foundFetched
                    apply claimed_progress invariant current (sameKey ▸ sameWorkspace) _ revised
                      member
                    simp only [AcceptedIntent.isSubtreeDelete, Bool.or_eq_true, Bool.and_eq_true,
                      decide_eq_true_eq]
                    rcases isDelete with folder | session
                    · right
                      refine ⟨folder, ?_⟩
                      by_contra notRecursive
                      exact notEmptyFolder ⟨folder, by simpa using notRecursive⟩
                    · exact .inl session
            · next notDelete =>
                apply commit_progress invariant
                intro next result
                obtain ⟨⟨outcome, _⟩, executed, rfl⟩ := map_ok result
                obtain ⟨found, state, foundFetched, executes⟩ :=
                  executeNodeMutation_ok invariant.queue sameWorkspace executed
                rw [fetched] at foundFetched
                cases foundFetched
                apply invariant.executes executes
                intro _
                push Not at notDelete
                simp [AcceptedIntent.isSubtreeDelete, notDelete.1, notDelete.2]

theorem step_progress (invariant : SystemInvariant system) (now : String)
    (command : NavigationCommand Nodes) :
    Progress system (system.step store choice now command) := by
  cases command with
  | enqueueBatch gatewayId workspaceId actor intents newFolderId =>
    apply commit_progress invariant
    intro next result
    obtain ⟨⟨receipts, queue⟩, enqueued, rfl⟩ := map_ok result
    have acceptances := enqueueBatch_ok enqueued
    have transition : Transition system.database.toNavigationQueue
        (system.database.withQueue queue).toNavigationQueue := .accepted acceptances
    apply invariant.transition transition
    apply invariant.journals.queueStep (transition.invariant invariant.queue)
      (transition.rowsKept invariant.queue) _ rfl
    intro later member _ committed
    have started : later.state ≠ .queued := by simp [committed]
    exact .inl ⟨later, acceptances_earlier_row acceptances member started, rfl, committed, id⟩
  | acquireOwner workspaceId ownerId =>
    obtain ⟨queue, journals, claims⟩ := invariant
    refine ⟨⟨?_, ?_, claims.acquireOwner workspaceId ownerId⟩, ?_, ?_⟩
    · exact ⟨queue.accepted, queue.runningFirst, queue.pendingCommitted, queue.eventsOnce,
        queue.eventsKnown, queue.changesOnce, queue.changesKnown⟩
    · exact ⟨journals.owned, journals.committed, journals.marked, journals.completed⟩
    · exact fun row member => ⟨row, member, rfl, fun _ => .refl row⟩
    · exact fun row member terminal _ => ⟨row, member, rfl, .inl terminal⟩
  | recoverInFlight owner =>
    apply commit_progress invariant
    intro next result
    obtain ⟨queue, recovered, rfl⟩ := map_ok result
    exact invariant.revised (recoverInFlight_ok recovered).2 rfl
  | executeRecord owner gatewayId actor operationId =>
    exact executeRecord_progress invariant owner _ rfl
  | reject owner gatewayId actor operationId error =>
    apply commit_progress invariant
    intro next result
    obtain ⟨⟨outcome, _⟩, rejected, rfl⟩ := map_ok result
    rcases reject_ok invariant.queue rfl rejected with unchanged | ⟨record, executes⟩
    · rw [unchanged]
      exact .refl invariant
    · exact invariant.executes executes (by simp)
  | rejectClaimed owner record error =>
    rw [step]
    split
    · next member =>
        apply commit_progress invariant
        intro next result
        obtain ⟨⟨outcome, _⟩, rejected, rfl⟩ := map_ok result
        obtain ⟨-, unchanged | ⟨intent, executes⟩⟩ := rejectClaimed_ok invariant.queue
          (fun current row fetched => invariant.heldRow member current fetched) rejected
        · rw [unchanged]
          exact .refl invariant
        · exact invariant.executes executes (by simp)
    · exact .refl invariant
  | createSubtreeDelete owner record =>
    rw [step]
    split
    · next member =>
        apply commit_progress invariant
        intro next result
        rcases createOrGetSubtreeDelete_ok result with
          unchanged | ⟨fresh, journal, journalKey, journalWorkspace, preparing, created⟩
        · rw [unchanged]
          exact .refl invariant
        · obtain ⟨row, rowMember, sameIntent, sameWorkspace, subtree, -⟩ :=
            invariant.claims.held _ member
          subst created
          have same : Transition system.database.toNavigationQueue
              { system.database with
                deletes := system.database.deletes ++ [journal] }.toNavigationQueue :=
            .accepted .refl
          apply invariant.transition same
          apply invariant.journals.created (journalKey ▸ fresh) preparing
          refine ⟨row, rowMember, sameWorkspace.trans journalWorkspace.symm, ?_, subtree⟩
          rw [journalKey, sameIntent]
    · exact .refl invariant
  | markSubtreeDeleting owner idempotencyKey =>
    rw [step]
    split
    · next owns =>
        obtain ⟨journal, fetched, sameWorkspace⟩ := fetched_of_owns owns
        apply commit_progress invariant
        intro next result
        rcases markSubtreeDeleting_ok invariant.queue invariant.journals fetched sameWorkspace
          result with unchanged | ⟨intent, marks⟩
        · rw [unchanged]
          exact .refl invariant
        · exact marks_progress invariant fetched sameWorkspace marks
    · exact .refl invariant
  | recordDrainProgress owner idempotencyKey sessionId =>
    rw [step]
    split
    · next owns =>
        obtain ⟨journal, fetched, -⟩ := fetched_of_owns owns
        apply commit_progress invariant
        intro next result
        rcases recordDrainProgress_ok fetched result with unchanged | ⟨change, moves⟩
        · rw [unchanged]
          exact .refl invariant
        · exact invariant.journalMoves fetched moves
    · exact .refl invariant
  | finishSubtreeDelete owner idempotencyKey =>
    rw [step]
    split
    · next owns =>
        obtain ⟨journal, fetched, sameWorkspace⟩ := fetched_of_owns owns
        apply commit_progress invariant
        intro next result
        obtain ⟨-, unchanged | finishes⟩ := finishSubtreeDelete_ok invariant.queue
          invariant.journals fetched sameWorkspace result
        · rw [unchanged]
          exact .refl invariant
        · exact finishes_progress invariant fetched sameWorkspace finishes
    · exact .refl invariant
  | abortSubtreeDelete owner idempotencyKey reason =>
    rw [step]
    split
    · next owns =>
        obtain ⟨journal, fetched, -⟩ := fetched_of_owns owns
        apply commit_progress invariant
        intro next result
        rcases abortSubtreeDelete_ok fetched result with unchanged | ⟨change, moves⟩
        · rw [unchanged]
          exact .refl invariant
        · exact invariant.journalMoves fetched moves
    · exact .refl invariant
  | settleDelete owner record =>
    rw [step]
    split
    · apply commit_progress invariant
      intro next result
      obtain ⟨⟨outcome, _⟩, settled, rfl⟩ := map_ok result
      rw [settleExecutedDelete_ok invariant.queue invariant.journals _ settled]
      · exact .refl invariant
      · intro reported
        obtain ⟨journal, fetched, completed⟩ := Option.any_eq_true _ _ |>.mp reported
        exact ⟨journal, fetched, by simpa using completed⟩
    · exact .refl invariant
  | recordSettlementFailure owner gatewayId actor operationId detail =>
    apply commit_progress invariant
    intro next result
    obtain ⟨-, revised, deletes⟩ := recordDeleteSettlementFailure_ok result
    exact invariant.revised revised deletes
  | writeCatalog nodes =>
    have same : Transition system.database.toNavigationQueue
        { system.database with nodes := nodes }.toNavigationQueue := .accepted .refl
    apply invariant.transition same
    obtain ⟨-, journals, -⟩ := invariant
    exact ⟨journals.owned, journals.committed, journals.marked, journals.completed⟩

theorem run_append (system : NavigationSystem Nodes)
    (commands more : List (NavigationCommand Nodes × String)) :
    system.run store choice (commands ++ more) =
      (system.run store choice commands).run store choice more :=
  List.foldl_append

theorem run_progress (commands : List (NavigationCommand Nodes × String))
    (invariant : SystemInvariant system) :
    SystemInvariant (system.run store choice commands) ∧
      RowsKept system.database.toNavigationQueue
        (system.run store choice commands).database.toNavigationQueue := by
  induction commands generalizing system with
  | nil => exact ⟨invariant, .refl _⟩
  | cons command rest ih =>
    have progress : Progress system (system.step store choice command.2 command.1) :=
      step_progress invariant command.2 command.1
    obtain ⟨final, kept⟩ := ih progress.invariant
    exact ⟨final, progress.rowsKept.trans kept⟩

theorem journals_agree_with_queue (nodes : Nodes)
    (commands : List (NavigationCommand Nodes × String)) :
    JournalInvariant ((opened nodes).run store choice commands).database :=
  (run_progress commands (opened_invariant nodes)).1.journals

end NavigationSystem

end GraphAgent.Navigation
