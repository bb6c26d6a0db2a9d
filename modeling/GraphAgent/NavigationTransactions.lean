import GraphAgent.NavigationRefinement

/-!
# The write transactions of the executor

Each transaction of a worker is a transition of the queue, and the ones that end
a row or fail succeed only for the current owner of the workspace.
-/

namespace GraphAgent.Navigation

open KeyedRows Transaction NavigationQueue

namespace NavigationDatabase

variable {Nodes : Type} {store : NodeStore Nodes} {choice : AnyRow NavigationMutationRecord}
  {database next : NavigationDatabase Nodes} {owner : NavigationQueueOwner} {key : RecordKey}
  {now : String}

structure Executes (database next : NavigationDatabase Nodes) (owner : NavigationQueueOwner)
    (intent : AcceptedIntent) (state : NavigationMutationState) : Prop where
  current : database.fetchOwner owner.workspaceId = some owner
  execution : Execution database.toNavigationQueue intent state next.toNavigationQueue
  deletes : next.deletes = database.deletes

theorem claim_ok (invariant : Invariant database.toNavigationQueue)
    (sameWorkspace : key.workspaceId = owner.workspaceId) {row : NavigationMutationRecord}
    (claimed : database.claim choice owner key now = .ok (some (row, next))) :
    database.fetchOwner owner.workspaceId = some owner ∧
      ∃ record queue, database.fetchRecord key = some record ∧
        next = database.withQueue queue ∧ Revised database.toNavigationQueue queue ∧
          row ∈ queue.records ∧ row = claimedRecord owner.holderId now record := by
  unfold claim at claimed
  obtain ⟨record, required, claimed⟩ := bind_ok claimed
  have fetched := requireRecord_ok required
  have sameKey := (fetchRecord_mem fetched).2
  split at claimed
  · cases claimed
  · split at claimed
    · cases claimed
    · obtain ⟨result, running, claimed⟩ := bind_ok claimed
      split at claimed
      · cases claimed
      · cases claimed
        obtain ⟨current, revised, member, same⟩ :=
          claimRunning_ok invariant (sameKey ▸ fetched) running
        rw [sameKey, sameWorkspace] at current
        exact ⟨current, record, _, fetched, rfl, revised, member, same⟩

theorem finish_ok (base : NavigationQueue) {record terminal : NavigationMutationRecord}
    {state : NavigationMutationState} {resultNodeId : Option String} {affected : List String}
    {revision : Option Nat} {code detail : Option String} {pendingSettlement : Bool}
    (tables : database.toNavigationQueue =
      { base with
        appliedChanges := base.appliedChanges ++
          if state = .committed then [some record.key] else [] })
    (invariant : Invariant base) (fetched : base.fetchRecord record.key = some record)
    (running : record.state = .running) (executed : state = .committed ∨ state = .rejected)
    (pending : pendingSettlement = true → state = .committed ∧ record.isSubtreeDelete = true)
    (finished : database.finish store owner record state resultNodeId affected revision code
      detail pendingSettlement now = .ok (terminal, next)) :
    database.fetchOwner owner.workspaceId = some owner ∧ terminal.key = record.key ∧
      ∃ queue, next = database.withQueue queue ∧
        Finished base record.toAcceptedIntent state queue := by
  unfold finish at finished
  obtain ⟨_, owned, finished⟩ := bind_ok finished
  have current := requireOwnerGeneration_ok owned
  obtain ⟨⟨written, afterWrite⟩, wrote, finished⟩ := bind_ok finished
  obtain ⟨appended, eventAppended, finished⟩ := bind_ok finished
  cases finished
  have stored : database.fetchRecord record.key = some record := by
    rw [tables]
    exact fetched
  have distinct : (database.records.map (·.key)).Nodup := by
    rw [tables]
    exact invariant.keysDistinct
  obtain ⟨-, -, rfl, rfl⟩ := finishTerminal_ok distinct stored wrote
  have events := appendEvent_ok eventAppended
  subst events
  refine ⟨current, rfl, _, rfl, ?_⟩
  simp only [tables]
  let write : TerminalWrite :=
    { state := state
      resultNodeId := resultNodeId
      resultNodeRevision := revision
      committedCatalogRevision := some (store.navigationRevision database.nodes)
      errorCode := code
      errorDetail := detail
      pendingSettlement := pendingSettlement }
  apply Finished.finished record (fetchRecord_mem fetched).1 running write now executed pending
  · rfl
  · rfl

theorem rejectHeld_ok {record : NavigationMutationRecord} {error : NavigationError}
    {outcome : NavigationExecutionOutcome}
    (invariant : Invariant database.toNavigationQueue)
    (fetched : database.fetchRecord record.key = some record) (running : record.state = .running)
    (rejected : rejectHeld store database owner record error now = .ok (outcome, next)) :
    database.fetchOwner owner.workspaceId = some owner ∧ next.deletes = database.deletes ∧
      ∃ finished, Finished database.toNavigationQueue record.toAcceptedIntent .rejected finished ∧
        SuccessorsFailed finished next.toNavigationQueue := by
  unfold rejectHeld at rejected
  obtain ⟨⟨terminal, middle⟩, finished, rejected⟩ := bind_ok rejected
  obtain ⟨appended, successors, rejected⟩ := bind_ok rejected
  cases rejected
  obtain ⟨current, -, queue, rfl, finish⟩ := finish_ok database.toNavigationQueue (by simp)
    invariant fetched running (.inr rfl) (by simp) finished
  exact ⟨current, rfl, queue, finish, successors_ok (finish.invariant invariant) successors⟩

theorem fetch_claimed (invariant : Invariant database.toNavigationQueue) {queue : NavigationQueue}
    {record : NavigationMutationRecord} {holderId : String}
    (revised : Revised database.toNavigationQueue queue)
    (member : claimedRecord holderId now record ∈ queue.records) :
    queue.fetchRecord (claimedRecord holderId now record).key =
      some (claimedRecord holderId now record) :=
  fetch_of_mem (revised.invariant invariant).keysDistinct member

theorem executeNodeMutation_ok {outcome : NavigationExecutionOutcome}
    (invariant : Invariant database.toNavigationQueue)
    (sameWorkspace : key.workspaceId = owner.workspaceId)
    (executed : executeNodeMutation store choice database owner key now = .ok (outcome, next)) :
    ∃ record state, database.fetchRecord key = some record ∧
      Executes database next owner record.toAcceptedIntent state := by
  unfold executeNodeMutation at executed
  obtain ⟨claimed, claim, executed⟩ := bind_ok executed
  split at executed
  · cases executed
  · next row middle =>
      obtain ⟨current, record, queue, fetched, rfl, revised, member, rfl⟩ :=
        claim_ok invariant sameWorkspace claim
      have prepared := revised.invariant invariant
      have held := fetch_claimed invariant revised member
      obtain ⟨parentNodeId, -, executed⟩ := bind_ok executed
      obtain ⟨expectedRevision, -, executed⟩ := bind_ok executed
      obtain ⟨change, -, executed⟩ := bind_ok executed
      split at executed
      · obtain ⟨⟨terminal, final⟩, finished, executed⟩ := bind_ok executed
        cases executed
        obtain ⟨-, -, finishedQueue, rfl, finish⟩ := finish_ok queue (by simp [withQueue]) prepared
          held rfl (.inr rfl) (by simp) finished
        exact ⟨record, .rejected, fetched, current, .execution revised finish (.refl _), rfl⟩
      · dsimp only at executed
        split at executed
        · cases executed
        · obtain ⟨⟨terminal, final⟩, finished, executed⟩ := bind_ok executed
          cases executed
          obtain ⟨-, -, finishedQueue, rfl, finish⟩ := finish_ok queue rfl prepared
            held rfl (.inl rfl) (by simp) finished
          exact ⟨record, .committed, fetched, current, .execution revised finish (.refl _), rfl⟩

theorem executeEmptyFolderDelete_ok {outcome : NavigationExecutionOutcome}
    (invariant : Invariant database.toNavigationQueue)
    (sameWorkspace : key.workspaceId = owner.workspaceId)
    (executed : executeEmptyFolderDelete store choice database owner key now =
      .ok (outcome, next)) :
    ∃ record, database.fetchRecord key = some record ∧
      Executes database next owner record.toAcceptedIntent .committed := by
  unfold executeEmptyFolderDelete at executed
  obtain ⟨claimed, claim, executed⟩ := bind_ok executed
  split at executed
  · cases executed
  · next row middle =>
      obtain ⟨current, record, queue, fetched, rfl, revised, member, rfl⟩ :=
        claim_ok invariant sameWorkspace claim
      have prepared := revised.invariant invariant
      have held := fetch_claimed invariant revised member
      obtain ⟨nodes, -, executed⟩ := bind_ok executed
      obtain ⟨⟨terminal, final⟩, finished, executed⟩ := bind_ok executed
      cases executed
      obtain ⟨-, -, finishedQueue, rfl, finish⟩ := finish_ok queue rfl prepared held rfl
        (.inl rfl) (by simp) finished
      exact ⟨record, fetched, current, .execution revised finish (.refl _), rfl⟩

theorem claimOrRaise_ok {row : NavigationMutationRecord}
    (invariant : Invariant database.toNavigationQueue)
    (sameWorkspace : key.workspaceId = owner.workspaceId)
    (claimed : database.claimOrRaise choice owner key now = .ok (row, next)) :
    database.fetchOwner owner.workspaceId = some owner ∧
      ∃ record queue, database.fetchRecord key = some record ∧
        next = database.withQueue queue ∧ Revised database.toNavigationQueue queue ∧
          row ∈ queue.records ∧ row = claimedRecord owner.holderId now record := by
  unfold claimOrRaise at claimed
  obtain ⟨result, claim, claimed⟩ := bind_ok claimed
  split at claimed
  · cases claimed
  · cases claimed
    exact claim_ok invariant sameWorkspace claim

theorem reject_ok {error : NavigationError} {outcome : NavigationExecutionOutcome}
    (invariant : Invariant database.toNavigationQueue)
    (sameWorkspace : key.workspaceId = owner.workspaceId)
    (rejected : reject store choice database owner key error now = .ok (outcome, next)) :
    next = database ∨
      ∃ record, Executes database next owner record .rejected := by
  unfold reject at rejected
  obtain ⟨claimed, claim, rejected⟩ := bind_ok rejected
  split at rejected
  · obtain ⟨existing, -, rejected⟩ := bind_ok rejected
    split at rejected
    · cases rejected
      exact .inl rfl
    · cases rejected
  · next row middle =>
      obtain ⟨current, record, queue, fetched, rfl, revised, member, rfl⟩ :=
        claim_ok invariant sameWorkspace claim
      have prepared := revised.invariant invariant
      have held := fetch_claimed invariant revised member
      obtain ⟨-, deletes, finished, finish, successors⟩ := rejectHeld_ok prepared held rfl rejected
      exact .inr ⟨_, current, .execution revised finish successors, deletes⟩

theorem requireLive_ok {live : Option NavigationMutationRecord}
    (required : database.requireLive owner key = .ok live) :
    database.fetchOwner owner.workspaceId = some owner ∧
      ∀ record, live = some record →
        database.fetchRecord key = some record ∧ record.isTerminal = false := by
  unfold requireLive at required
  obtain ⟨_, owned, required⟩ := bind_ok required
  obtain ⟨current, fetched, required⟩ := bind_ok required
  refine ⟨requireOwnerGeneration_ok owned, ?_⟩
  intro record found
  subst found
  split at required
  · cases required
  · next open_ =>
      cases required
      exact ⟨requireRecord_ok fetched, by simpa using open_⟩

theorem rejectClaimed_ok {record : NavigationMutationRecord} {error : NavigationError}
    {outcome : NavigationExecutionOutcome}
    (invariant : Invariant database.toNavigationQueue)
    (held : database.fetchOwner owner.workspaceId = some owner →
      ∀ row, database.fetchRecord record.key = some row → Held owner row)
    (rejected : rejectClaimed store database owner record error now = .ok (outcome, next)) :
    database.fetchOwner owner.workspaceId = some owner ∧
      (next = database ∨ ∃ intent, Executes database next owner intent .rejected) := by
  unfold rejectClaimed at rejected
  obtain ⟨live, required, rejected⟩ := bind_ok rejected
  obtain ⟨current, isLive⟩ := requireLive_ok required
  refine ⟨current, ?_⟩
  split at rejected
  · cases rejected
    exact .inl rfl
  · next row =>
      obtain ⟨fetched, notTerminal⟩ := isLive row rfl
      have sameKey := (fetchRecord_mem fetched).2
      rcases held current row fetched with terminal | ⟨running, -⟩
      · rw [notTerminal] at terminal
        cases terminal
      · obtain ⟨-, deletes, finished, finish, successors⟩ :=
          rejectHeld_ok invariant (sameKey ▸ fetched) running rejected
        exact .inr ⟨_, current, .execution (.refl _) finish successors, deletes⟩

end NavigationDatabase

end GraphAgent.Navigation
