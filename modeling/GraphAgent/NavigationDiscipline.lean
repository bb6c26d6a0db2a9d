import GraphAgent.NavigationRuns

/-!
# The discipline of the navigation queue

Over every interleaving of the transactions of clients and workers: operations
end by execution in queue order, every operation is applied and reported once,
a superseded owner changes no row, and a terminal record stays as it is.
-/

namespace GraphAgent.Navigation

open KeyedRows Transaction NavigationQueue NavigationDatabase

namespace NavigationCommand

variable {Nodes : Type}

/-- The worker that runs a transaction. -/
def owner : NavigationCommand Nodes → Option NavigationQueueOwner
  | .enqueueBatch .. | .acquireOwner .. | .writeCatalog .. => none
  | .recoverInFlight owner | .executeRecord owner .. | .reject owner ..
  | .rejectClaimed owner .. | .createSubtreeDelete owner .. | .markSubtreeDeleting owner ..
  | .recordDrainProgress owner .. | .finishSubtreeDelete owner ..
  | .abortSubtreeDelete owner .. | .settleDelete owner ..
  | .recordSettlementFailure owner .. => some owner

/-- The journal transactions, which neither read nor write the queue. -/
def isJournalOnly : NavigationCommand Nodes → Bool
  | .createSubtreeDelete .. | .recordDrainProgress .. | .abortSubtreeDelete .. => true
  | _ => false

end NavigationCommand

namespace NavigationSystem

variable {Nodes : Type} {store : NodeStore Nodes} {choice : AnyRow NavigationMutationRecord}
  {system : NavigationSystem Nodes}

theorem commit_unchanged {result : Except NavigationError (NavigationDatabase Nodes)}
    (unchanged : ∀ next, result = .ok next → next = system.database) :
    system.commit result = system := by
  cases result with
  | error error => rfl
  | ok next =>
    rw [unchanged next rfl]
    rfl

theorem commit_queue {result : Except NavigationError (NavigationDatabase Nodes)}
    (kept : ∀ next, result = .ok next →
      next.toNavigationQueue = system.database.toNavigationQueue) :
    (system.commit result).database.toNavigationQueue =
      system.database.toNavigationQueue := by
  cases result with
  | error error => rfl
  | ok next => exact kept next rfl

theorem step_superseded (invariant : SystemInvariant system) {now : String}
    {command : NavigationCommand Nodes} {owner : NavigationQueueOwner}
    (worker : command.owner = some owner)
    (superseded : system.database.fetchOwner owner.workspaceId ≠ some owner)
    (touchesQueue : command.isJournalOnly = false) :
    system.step store choice now command = system := by
  cases command with
  | enqueueBatch => cases worker
  | acquireOwner => cases worker
  | writeCatalog => cases worker
  | createSubtreeDelete => cases touchesQueue
  | recordDrainProgress => cases touchesQueue
  | abortSubtreeDelete => cases touchesQueue
  | recoverInFlight _ =>
    cases worker
    apply commit_unchanged
    intro next result
    obtain ⟨queue, recovered, -⟩ := map_ok result
    exact absurd (recoverInFlight_ok recovered).1 superseded
  | executeRecord _ gatewayId actor operationId =>
    cases worker
    rw [step, executeRecord]
    split
    · rfl
    · split
      · rfl
      · split
        · apply commit_unchanged
          intro next result
          obtain ⟨⟨outcome, _⟩, executed, rfl⟩ := map_ok result
          obtain ⟨_, _, executes⟩ := executeEmptyFolderDelete_ok invariant.queue rfl executed
          exact absurd executes.current superseded
        · split
          · split
            · rfl
            · next row next claimed =>
                exact absurd (claimOrRaise_ok invariant.queue rfl claimed).1 superseded
          · apply commit_unchanged
            intro next result
            obtain ⟨⟨outcome, _⟩, executed, rfl⟩ := map_ok result
            obtain ⟨_, _, _, executes⟩ := executeNodeMutation_ok invariant.queue rfl executed
            exact absurd executes.current superseded
  | reject _ gatewayId actor operationId error =>
    cases worker
    apply commit_unchanged
    intro next result
    obtain ⟨⟨outcome, _⟩, rejected, rfl⟩ := map_ok result
    rcases reject_ok invariant.queue rfl rejected with unchanged | ⟨record, executes⟩
    · exact unchanged
    · exact absurd executes.current superseded
  | rejectClaimed _ record error =>
    cases worker
    rw [step]
    split
    · next member =>
        apply commit_unchanged
        intro next result
        obtain ⟨⟨outcome, _⟩, rejected, rfl⟩ := map_ok result
        have current := (rejectClaimed_ok invariant.queue
          (fun current row fetched => invariant.heldRow member current fetched) rejected).1
        exact absurd current superseded
    · rfl
  | markSubtreeDeleting _ idempotencyKey =>
    cases worker
    rw [step]
    split
    · next owns =>
        obtain ⟨journal, fetched, sameWorkspace⟩ := fetched_of_owns owns
        apply commit_unchanged
        intro next result
        rcases markSubtreeDeleting_ok invariant.queue invariant.journals fetched sameWorkspace
          result with unchanged | ⟨intent, marks⟩
        · exact unchanged
        · exact absurd marks.current superseded
    · rfl
  | finishSubtreeDelete _ idempotencyKey =>
    cases worker
    rw [step]
    split
    · next owns =>
        obtain ⟨journal, fetched, sameWorkspace⟩ := fetched_of_owns owns
        apply commit_unchanged
        intro next result
        have current := (finishSubtreeDelete_ok invariant.queue invariant.journals fetched
          sameWorkspace result).1
        exact absurd current superseded
    · rfl
  | settleDelete _ record =>
    cases worker
    rw [step]
    split
    · apply commit_unchanged
      intro next result
      obtain ⟨⟨outcome, _⟩, settled, rfl⟩ := map_ok result
      apply settleExecutedDelete_ok invariant.queue invariant.journals _ settled
      intro reported
      obtain ⟨journal, fetched, completed⟩ := (Option.any_eq_true _ _).mp reported
      exact ⟨journal, fetched, by simpa using completed⟩
    · rfl
  | recordSettlementFailure _ gatewayId actor operationId detail =>
    cases worker
    apply commit_unchanged
    intro next result
    exact absurd (recordDeleteSettlementFailure_ok result).1 superseded

theorem step_journalOnly {now : String} {command : NavigationCommand Nodes}
    (journalOnly : command.isJournalOnly = true) :
    (system.step store choice now command).database.toNavigationQueue =
      system.database.toNavigationQueue := by
  cases command with
  | createSubtreeDelete owner record =>
    rw [step]
    split
    · apply commit_queue
      intro next result
      rcases createOrGetSubtreeDelete_ok result with unchanged | ⟨-, journal, -, -, -, created⟩
      · rw [unchanged]
      · rw [created]
    · rfl
  | recordDrainProgress owner idempotencyKey sessionId =>
    rw [step]
    split
    · next owns =>
        obtain ⟨journal, fetched, -⟩ := fetched_of_owns owns
        apply commit_queue
        intro next result
        rcases recordDrainProgress_ok fetched result with unchanged | ⟨change, moves⟩
        · rw [unchanged]
        · rw [moves.next]
          rfl
    · rfl
  | abortSubtreeDelete owner idempotencyKey reason =>
    rw [step]
    split
    · next owns =>
        obtain ⟨journal, fetched, -⟩ := fetched_of_owns owns
        apply commit_queue
        intro next result
        rcases abortSubtreeDelete_ok fetched result with unchanged | ⟨change, moves⟩
        · rw [unchanged]
        · rw [moves.next]
          rfl
    · rfl
  | _ => cases journalOnly

structure AppliedOnce (queue : NavigationQueue) : Prop where
  events : ∀ row ∈ queue.records,
    (queue.events.map (·.key)).count row.key = if row.isTerminal then 1 else 0
  eventsKnown : ∀ event ∈ queue.events,
    ∃ row ∈ queue.records, row.key = event.key ∧ row.state = event.resultState
  changes : ∀ row ∈ queue.records,
    queue.appliedChanges.count (some row.key) = if row.state = .committed then 1 else 0
  changesKnown : ∀ change ∈ queue.appliedChanges,
    ∃ row ∈ queue.records, change = some row.key

end NavigationSystem

def sampleStore : NodeStore (List (String × Nat)) where
  navigationRevision nodes := nodes.length
  nodeRevision nodes nodeId := nodes.lookup nodeId
  createFolder nodes nodeId _ _ _ :=
    match nodeId with
    | none => .error (.typeError "node_id")
    | some nodeId => .ok (nodes ++ [(nodeId, 1)], nodeId)
  applyNavigationMutation _ _ _ _ _ := .error (.runtimeError "revision")
  applyAutoTitleMutation _ _ _ _ _ := .ok none
  deleteEmptyFolder _ _ := .error (.runtimeError "folder")
  freezeSubtree nodes _ rootNodeId :=
    match nodes.lookup rootNodeId with
    | none => .error (.keyError rootNodeId)
    | some revision => .ok ([⟨rootNodeId, revision⟩], [])
  closeSubtree nodes frozen _ :=
    .ok (nodes.map fun node =>
      if (frozen.map (·.nodeId)).contains node.1 then (node.1, node.2 + 1) else node)
  removeSubtree nodes frozen :=
    .ok (nodes.filter fun node => !(frozen.map (·.nodeId)).contains node.1)

def createIntent : NavigationQueueCommand :=
  .mutation
    { clientOperationId := "op_00000000000000000000000000000001"
      clientSequence := 1
      kind := .createFolder
      baseCatalogRevision := 0
      expectedRevision := none
      targetNodeId := none
      createdByOperationId := none
      name := some "notes"
      parentNodeId := none
      parentGiven := false
      recursive := false
      dependsOn := []
      inBounds := by decide
      valid := by decide }

def deleteIntent : NavigationQueueCommand :=
  .mutation
    { clientOperationId := "op_00000000000000000000000000000002"
      clientSequence := 1
      kind := .deleteFolder
      baseCatalogRevision := 0
      expectedRevision := none
      targetNodeId := some "ses_1"
      createdByOperationId := none
      name := none
      parentNodeId := none
      parentGiven := false
      recursive := true
      dependsOn := []
      inBounds := by decide
      valid := by decide }

def firstOwner : NavigationQueueOwner := ⟨"ws", "first", 1⟩
def secondOwner : NavigationQueueOwner := ⟨"ws", "second", 2⟩

def takeoverCommands : List (NavigationCommand (List (String × Nat)) × String) :=
  [(.enqueueBatch "gw" "ws" "alice" [createIntent] (fun _ => "ses_1"), "t1"),
    (.enqueueBatch "gw" "ws" "bob" [deleteIntent] (fun _ => "ses_2"), "t2"),
    (.acquireOwner "ws" "first", "t3"),
    (.executeRecord firstOwner "gw" "alice" "op_00000000000000000000000000000001", "t4"),
    (.executeRecord firstOwner "gw" "bob" "op_00000000000000000000000000000002", "t5"),
    (.acquireOwner "ws" "second", "t6"),
    (.recoverInFlight secondOwner, "t7"),
    (.executeRecord secondOwner "gw" "bob" "op_00000000000000000000000000000002", "t8"),
    (.recoverInFlight firstOwner, "t9")]

/-- The delete runs again for the second owner, under a new token, after the
create; the late recovery of the first owner finds nothing to release. -/
example :
    ((NavigationSystem.opened []).run sampleStore .first takeoverCommands).database.records.map
        (fun row => (row.key.actor, row.state, row.fencingToken)) =
      [("alice", .committed, 1), ("bob", .running, 2)] := by
  decide +kernel

end GraphAgent.Navigation
