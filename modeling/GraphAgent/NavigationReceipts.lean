import GraphAgent.CatalogOutbox
import GraphAgent.NavigationDiscipline

/-!
# The receipts of a server run

`_to_receipt` of `operations_service.py`, and what two receipts of one
operation in one run of the queue have in common: they are equal or one has the
higher revision, a terminal state stays, and a node id that was reported is
never withdrawn.
-/

namespace GraphAgent.Navigation

open Transaction KeyedRows

def NavigationMutationRecord.settlement (record : NavigationMutationRecord) :
    Option Outbox.Settlement :=
  if !record.isDelete || record.state ≠ .committed then none
  else if !record.pendingSettlement then some .settled
  else if record.errorCode = some repairRequired then some .repairRequired
  else some .pending

/-- `result_node_id or reserved_node_id`: an empty id is passed over as well. -/
def NavigationMutationRecord.createdNodeId (record : NavigationMutationRecord) :
    Option String :=
  if record.resultNodeId = none ∨ record.resultNodeId = some "" then record.reservedNodeId
  else record.resultNodeId

/-- `_to_receipt`, with the fields the client reads. -/
def NavigationMutationRecord.toReceipt (record : NavigationMutationRecord) : Outbox.Receipt where
  operationId := record.key.operationId
  queueSeq := record.queueSeq
  state := record.state
  createdNodeId := record.createdNodeId
  committedCatalogRevision := record.committedCatalogRevision.map Int.ofNat
  errorCode := record.errorCode
  errorDetail := record.errorDetail
  settlement := record.settlement
  receiptRevision := record.receiptRevision

namespace NavigationQueue

def Reports (row later : NavigationMutationRecord) : Prop :=
  later.toReceipt = row.toReceipt ∨
    row.receiptRevision < later.receiptRevision ∧
      (row.isTerminal = true → later.state = row.state) ∧
      (later.createdNodeId = none → row.createdNodeId = none)

namespace Reports

theorem refl (row : NavigationMutationRecord) : Reports row row := .inl rfl

theorem trans {first second third : NavigationMutationRecord} (early : Reports first second)
    (late : Reports second third) : Reports first third := by
  rcases early with same | ⟨older, kept, created⟩
  · rcases late with lateSame | ⟨lateOlder, lateKept, lateCreated⟩
    · exact .inl (lateSame.trans same)
    · have revision : second.receiptRevision = first.receiptRevision :=
        Int.ofNat.inj (congrArg Outbox.Receipt.receiptRevision same)
      have state : second.state = first.state := congrArg Outbox.Receipt.state same
      have node : second.createdNodeId = first.createdNodeId :=
        congrArg Outbox.Receipt.createdNodeId same
      refine .inr ⟨revision ▸ lateOlder, fun terminal => ?_, fun none => ?_⟩
      · rw [← state]
        refine lateKept ?_
        rwa [NavigationMutationRecord.isTerminal, state]
      · rw [← node]
        exact lateCreated none
  · rcases late with lateSame | ⟨lateOlder, lateKept, lateCreated⟩
    · have revision : third.receiptRevision = second.receiptRevision :=
        Int.ofNat.inj (congrArg Outbox.Receipt.receiptRevision lateSame)
      have state : third.state = second.state := congrArg Outbox.Receipt.state lateSame
      have node : third.createdNodeId = second.createdNodeId :=
        congrArg Outbox.Receipt.createdNodeId lateSame
      refine .inr ⟨revision ▸ older, fun terminal => state.trans (kept terminal), fun none => ?_⟩
      exact created (node.symm.trans none)
    · refine .inr ⟨older.trans lateOlder, fun terminal => ?_,
        fun none => created (lateCreated none)⟩
      have state := kept terminal
      rw [← state]
      refine lateKept ?_
      rwa [NavigationMutationRecord.isTerminal, state]

end Reports

def Unresolved (records : List NavigationMutationRecord) : Prop :=
  ∀ row ∈ records, row.isTerminal = false → row.resultNodeId = none

structure ReceiptsKept (records later : List NavigationMutationRecord) : Prop where
  reports : ∀ row ∈ records, ∃ next ∈ later,
    next.toAcceptedIntent = row.toAcceptedIntent ∧ Reports row next
  unresolved : Unresolved records → Unresolved later

theorem ReceiptsKept.refl (records : List NavigationMutationRecord) :
    ReceiptsKept records records :=
  ⟨fun row member => ⟨row, member, rfl, .refl row⟩, id⟩

theorem ReceiptsKept.trans {first second third : List NavigationMutationRecord}
    (early : ReceiptsKept first second) (late : ReceiptsKept second third) :
    ReceiptsKept first third := by
  refine ⟨fun row member => ?_, late.unresolved ∘ early.unresolved⟩
  obtain ⟨middle, middleMember, sameIntent, reports⟩ := early.reports row member
  obtain ⟨next, nextMember, sameNext, later⟩ := late.reports middle middleMember
  exact ⟨next, nextMember, sameNext.trans sameIntent, reports.trans later⟩

variable {queue next : NavigationQueue}

theorem createdNodeId_of_unresolved {row : NavigationMutationRecord}
    (none : row.resultNodeId = none) : row.createdNodeId = row.reservedNodeId := by
  rw [NavigationMutationRecord.createdNodeId, if_pos (.inl none)]

theorem Revision.reports {row after : NavigationMutationRecord}
    (revision : Revision queue row after) :
    after.toAcceptedIntent = row.toAcceptedIntent ∧ Reports row after ∧
      (row.resultNodeId = none → after.resultNodeId = none) ∧
      (after.isTerminal = false → row.isTerminal = false) := by
  cases revision with
  | kept => exact ⟨rfl, .refl row, id, id⟩
  | claimed holderId now queued first =>
    refine ⟨rfl, .inr ⟨Nat.lt_succ_self _, fun terminal => ?_, id⟩, id, fun _ => ?_⟩
    · rw [NavigationMutationRecord.isTerminal, queued] at terminal
      cases terminal
    · rw [NavigationMutationRecord.isTerminal, queued]
      rfl
  | released now running superseded =>
    refine ⟨rfl, .inr ⟨Nat.lt_succ_self _, fun terminal => ?_, id⟩, id, fun _ => ?_⟩
    · rw [NavigationMutationRecord.isTerminal, running] at terminal
      cases terminal
    · rw [NavigationMutationRecord.isTerminal, running]
      rfl
  | settled now committed pending =>
    exact ⟨rfl, .inr ⟨Nat.lt_succ_self _, fun _ => rfl, id⟩, id, id⟩
  | repaired detail now committed pending =>
    exact ⟨rfl, .inr ⟨Nat.lt_succ_self _, fun _ => rfl, id⟩, id, id⟩

theorem Revised.receiptsKept (revised : Revised queue next) :
    ReceiptsKept queue.records next.records := by
  cases revised with
  | revised change revision =>
    refine ⟨fun row member => ?_, fun unresolved later member live => ?_⟩
    · have moved := (revision row member).reports
      exact ⟨change row, List.mem_map_of_mem member, moved.1, moved.2.1⟩
    · obtain ⟨row, rowMember, rfl⟩ := List.mem_map.mp member
      obtain ⟨-, -, keeps, wasLive⟩ := (revision row rowMember).reports
      exact keeps (unresolved row rowMember (wasLive live))

theorem reports_finishedRecord {row : NavigationMutationRecord} (write : TerminalWrite)
    (now : String) (running : row.state = .running) (none : row.resultNodeId = none) :
    Reports row (finishedRecord write now row) := by
  refine .inr ⟨Nat.lt_succ_self _, fun terminal => ?_, fun withdrawn => ?_⟩
  · rw [NavigationMutationRecord.isTerminal, running] at terminal
    cases terminal
  · rw [createdNodeId_of_unresolved none]
    unfold NavigationMutationRecord.createdNodeId at withdrawn
    split at withdrawn
    · exact withdrawn
    · rename_i resolved
      exact absurd (.inl withdrawn) resolved

theorem Finished.receiptsKept (invariant : Invariant queue) {intent : AcceptedIntent}
    {state : NavigationMutationState} (finish : Finished queue intent state next)
    (unresolved : Unresolved queue.records) : ReceiptsKept queue.records next.records := by
  cases finish with
  | finished row member running write now executed pending event eventKey eventState =>
    have live : row.isTerminal = false := by
      rw [NavigationMutationRecord.isTerminal, running]
      rfl
    refine ⟨fun other otherMember => ?_, fun _ later laterMember laterLive => ?_⟩
    · refine ⟨_, List.mem_map_of_mem otherMember, ?_, ?_⟩
      · split <;> rfl
      · by_cases same : other.key = row.key
        · obtain rfl := invariant.eq_of_key_eq otherMember member same
          simp only [decide_true, if_true]
          exact reports_finishedRecord write now running (unresolved other otherMember live)
        · simp only [same, decide_false, Bool.false_eq_true, if_false]
          exact .refl other
    · obtain ⟨other, otherMember, rfl⟩ := List.mem_map.mp laterMember
      by_cases same : other.key = row.key
      · simp only [same, decide_true, if_true] at laterLive
        have ended := isTerminal_of_executed executed
        rw [NavigationMutationRecord.isTerminal, finishedRecord, ended] at laterLive
        cases laterLive
      · simp only [same, decide_false, Bool.false_eq_true, if_false] at laterLive ⊢
        exact unresolved other otherMember laterLive

theorem SuccessorsFailed.receiptsKept (invariant : Invariant queue)
    (successors : SuccessorsFailed queue next) : ReceiptsKept queue.records next.records := by
  cases successors with
  | failed keys distinct queued failedOperationId revision now events eventKeys eventStates =>
    refine ⟨fun row member => ?_, fun unresolved later member live => ?_⟩
    · refine ⟨_, List.mem_map_of_mem member, ?_, ?_⟩
      · split <;> rfl
      · by_cases failed : row.key ∈ keys
        · obtain ⟨other, otherMember, sameKey, isQueued⟩ := queued row.key failed
          obtain rfl := invariant.eq_of_key_eq otherMember member sameKey
          simp only [failed, decide_true, if_true]
          refine .inr ⟨Nat.lt_succ_self _, fun terminal => ?_, id⟩
          rw [NavigationMutationRecord.isTerminal, isQueued] at terminal
          cases terminal
        · simp only [failed, decide_false, Bool.false_eq_true, if_false]
          exact .refl row
    · obtain ⟨row, rowMember, rfl⟩ := List.mem_map.mp member
      by_cases failed : row.key ∈ keys
      · simp only [failed, decide_true, if_true] at live
        cases live
      · simp only [failed, decide_false, Bool.false_eq_true, if_false] at live ⊢
        exact unresolved row rowMember live

theorem Execution.receiptsKept (invariant : Invariant queue) {intent : AcceptedIntent}
    {state : NavigationMutationState} (execution : Execution queue intent state next)
    (unresolved : Unresolved queue.records) : ReceiptsKept queue.records next.records := by
  cases execution with
  | execution revision finish successors =>
    have prepared := revision.invariant invariant
    have finished := finish.receiptsKept prepared (revision.receiptsKept.unresolved unresolved)
    have failed := successors.receiptsKept (finish.invariant prepared)
    exact revision.receiptsKept.trans (finished.trans failed)

theorem ReceiptsKept.appended {records : List NavigationMutationRecord}
    {record : NavigationMutationRecord} (none : record.resultNodeId = none) :
    ReceiptsKept records (records ++ [record]) := by
  refine ⟨fun row member => ⟨row, List.mem_append_left _ member, rfl, .refl row⟩,
    fun unresolved later member live => ?_⟩
  rcases List.mem_append.mp member with old | new
  · exact unresolved later old live
  · rw [List.mem_singleton.mp new]
    exact none

theorem acceptIntent_receiptsKept {gatewayId workspaceId actor : String}
    {batch : List NavigationQueueCommand} {newFolderId : Nat → String} {now : String}
    {intent : NavigationQueueCommand} {position : Nat} {receipt : NavigationMutationRecord}
    (accepted : queue.acceptIntent gatewayId workspaceId actor batch newFolderId now intent
      position = .ok (receipt, next)) : ReceiptsKept queue.records next.records := by
  unfold acceptIntent at accepted
  dsimp only at accepted
  split at accepted
  · split at accepted
    · cases accepted
    · cases accepted
      exact .refl _
  · obtain ⟨_, _, accepted⟩ := bind_ok accepted
    obtain ⟨_, _, accepted⟩ := bind_ok accepted
    cases accepted
    exact .appended rfl

theorem acceptIntents_receiptsKept {gatewayId workspaceId actor : String}
    {batch : List NavigationQueueCommand} {newFolderId : Nat → String} {now : String}
    {placed : List (NavigationQueueCommand × Nat)} {receipts : List NavigationMutationRecord}
    (accepted : acceptIntents gatewayId workspaceId actor batch newFolderId now placed queue =
      .ok (receipts, next)) : ReceiptsKept queue.records next.records := by
  induction placed generalizing queue receipts with
  | nil =>
    cases accepted
    exact .refl _
  | cons first rest ih =>
    rw [acceptIntents] at accepted
    obtain ⟨⟨receipt, middle⟩, head, accepted⟩ := bind_ok accepted
    obtain ⟨⟨others, final⟩, later, accepted⟩ := bind_ok accepted
    cases accepted
    exact (acceptIntent_receiptsKept head).trans (ih later)

theorem enqueueBatch_receiptsKept {gatewayId workspaceId actor : String}
    {intents : List NavigationQueueCommand} {newFolderId : Nat → String} {now : String}
    {receipts : List NavigationMutationRecord}
    (enqueued : queue.enqueueBatch gatewayId workspaceId actor intents newFolderId now =
      .ok (receipts, next)) : ReceiptsKept queue.records next.records := by
  unfold enqueueBatch at enqueued
  dsimp only at enqueued
  split at enqueued
  · cases enqueued
  · split at enqueued
    · cases enqueued
    · exact acceptIntents_receiptsKept enqueued

end NavigationQueue

namespace NavigationSystem

open NavigationQueue NavigationDatabase

variable {Nodes : Type} {store : NodeStore Nodes} {choice : AnyRow NavigationMutationRecord}
  {system : NavigationSystem Nodes} {next : NavigationDatabase Nodes} {now : String}

theorem commit_receiptsKept {result : Except NavigationError (NavigationDatabase Nodes)}
    (committed : ∀ next, result = .ok next → ReceiptsKept system.database.records next.records) :
    ReceiptsKept system.database.records (system.commit result).database.records := by
  cases result with
  | error error => exact .refl _
  | ok next => exact committed next rfl

theorem executeRecord_receiptsKept (invariant : SystemInvariant system)
    (unresolved : Unresolved system.database.records) (owner : NavigationQueueOwner)
    (key : RecordKey) (sameWorkspace : key.workspaceId = owner.workspaceId) :
    ReceiptsKept system.database.records
      (system.executeRecord store choice owner key now).database.records := by
  unfold executeRecord
  split
  · exact .refl _
  · split
    · exact .refl _
    · split
      · apply commit_receiptsKept
        intro next result
        obtain ⟨⟨outcome, _⟩, executed, rfl⟩ := map_ok result
        obtain ⟨_, _, executes⟩ :=
          executeEmptyFolderDelete_ok invariant.queue sameWorkspace executed
        exact executes.execution.receiptsKept invariant.queue unresolved
      · split
        · split
          · exact .refl _
          · rename_i claimed
            obtain ⟨_, _, _, _, rfl, revised, _, rfl⟩ :=
              claimOrRaise_ok invariant.queue sameWorkspace claimed
            exact revised.receiptsKept
        · apply commit_receiptsKept
          intro next result
          obtain ⟨⟨outcome, _⟩, executed, rfl⟩ := map_ok result
          obtain ⟨_, _, _, executes⟩ :=
            executeNodeMutation_ok invariant.queue sameWorkspace executed
          exact executes.execution.receiptsKept invariant.queue unresolved

theorem step_receiptsKept (invariant : SystemInvariant system)
    (unresolved : Unresolved system.database.records) (now : String)
    (command : NavigationCommand Nodes) :
    ReceiptsKept system.database.records
      (system.step store choice now command).database.records := by
  cases command with
  | enqueueBatch gatewayId workspaceId actor intents newFolderId =>
    apply commit_receiptsKept
    intro next result
    obtain ⟨⟨receipts, queue⟩, enqueued, rfl⟩ := map_ok result
    exact enqueueBatch_receiptsKept enqueued
  | acquireOwner workspaceId ownerId => exact .refl _
  | recoverInFlight owner =>
    apply commit_receiptsKept
    intro next result
    obtain ⟨queue, recovered, rfl⟩ := map_ok result
    exact (recoverInFlight_ok recovered).2.receiptsKept
  | executeRecord owner gatewayId actor operationId =>
    exact executeRecord_receiptsKept invariant unresolved owner _ rfl
  | reject owner gatewayId actor operationId error =>
    apply commit_receiptsKept
    intro next result
    obtain ⟨⟨outcome, _⟩, rejected, rfl⟩ := map_ok result
    rcases reject_ok invariant.queue rfl rejected with unchanged | ⟨record, executes⟩
    · rw [unchanged]
      exact .refl _
    · exact executes.execution.receiptsKept invariant.queue unresolved
  | rejectClaimed owner record error =>
    rw [step]
    split
    · next member =>
        apply commit_receiptsKept
        intro next result
        obtain ⟨⟨outcome, _⟩, rejected, rfl⟩ := map_ok result
        obtain ⟨-, unchanged | ⟨intent, executes⟩⟩ := rejectClaimed_ok invariant.queue
          (fun current row fetched => invariant.heldRow member current fetched) rejected
        · rw [unchanged]
          exact .refl _
        · exact executes.execution.receiptsKept invariant.queue unresolved
    · exact .refl _
  | createSubtreeDelete owner record =>
    rw [step]
    split
    · apply commit_receiptsKept
      intro next result
      rcases createOrGetSubtreeDelete_ok result with unchanged | ⟨_, journal, _, _, _, created⟩
      · rw [unchanged]
        exact .refl _
      · subst created
        exact .refl _
    · exact .refl _
  | markSubtreeDeleting owner idempotencyKey =>
    rw [step]
    split
    · next owns =>
        obtain ⟨journal, fetched, sameWorkspace⟩ := fetched_of_owns owns
        apply commit_receiptsKept
        intro next result
        rcases markSubtreeDeleting_ok invariant.queue invariant.journals fetched sameWorkspace
          result with unchanged | ⟨intent, marks⟩
        · rw [unchanged]
          exact .refl _
        · exact marks.execution.receiptsKept invariant.queue unresolved
    · exact .refl _
  | recordDrainProgress owner idempotencyKey sessionId =>
    rw [step]
    split
    · next owns =>
        obtain ⟨journal, fetched, -⟩ := fetched_of_owns owns
        apply commit_receiptsKept
        intro next result
        rcases recordDrainProgress_ok fetched result with unchanged | ⟨change, moves⟩
        · rw [unchanged]
          exact .refl _
        · rw [moves.next]
          exact .refl _
    · exact .refl _
  | finishSubtreeDelete owner idempotencyKey =>
    rw [step]
    split
    · next owns =>
        obtain ⟨journal, fetched, sameWorkspace⟩ := fetched_of_owns owns
        apply commit_receiptsKept
        intro next result
        obtain ⟨-, unchanged | finishes⟩ := finishSubtreeDelete_ok invariant.queue
          invariant.journals fetched sameWorkspace result
        · rw [unchanged]
          exact .refl _
        · exact finishes.revised.receiptsKept
    · exact .refl _
  | abortSubtreeDelete owner idempotencyKey reason =>
    rw [step]
    split
    · next owns =>
        obtain ⟨journal, fetched, -⟩ := fetched_of_owns owns
        apply commit_receiptsKept
        intro next result
        rcases abortSubtreeDelete_ok fetched result with unchanged | ⟨change, moves⟩
        · rw [unchanged]
          exact .refl _
        · rw [moves.next]
          exact .refl _
    · exact .refl _
  | settleDelete owner record =>
    rw [step]
    split
    · apply commit_receiptsKept
      intro next result
      obtain ⟨⟨outcome, _⟩, settled, rfl⟩ := map_ok result
      rw [settleExecutedDelete_ok invariant.queue invariant.journals _ settled]
      · exact .refl _
      · intro reported
        obtain ⟨journal, fetched, completed⟩ := Option.any_eq_true _ _ |>.mp reported
        exact ⟨journal, fetched, by simpa using completed⟩
    · exact .refl _
  | recordSettlementFailure owner gatewayId actor operationId detail =>
    apply commit_receiptsKept
    intro next result
    obtain ⟨-, revised, deletes⟩ := recordDeleteSettlementFailure_ok result
    exact revised.receiptsKept
  | writeCatalog nodes => exact .refl _

theorem run_receiptsKept (commands : List (NavigationCommand Nodes × String))
    (invariant : SystemInvariant system) (unresolved : Unresolved system.database.records) :
    ReceiptsKept system.database.records (system.run store choice commands).database.records := by
  induction commands generalizing system with
  | nil => exact .refl _
  | cons command rest ih =>
    have progress : Progress system (system.step store choice command.2 command.1) :=
      step_progress invariant command.2 command.1
    have kept : ReceiptsKept system.database.records
        (system.step store choice command.2 command.1).database.records :=
      step_receiptsKept invariant unresolved command.2 command.1
    exact kept.trans (ih progress.invariant (kept.unresolved unresolved))

def Produces (store : NodeStore Nodes) (choice : AnyRow NavigationMutationRecord) (nodes : Nodes)
    (commands : List (NavigationCommand Nodes × String)) (key : RecordKey)
    (receipt : Outbox.Receipt) : Prop :=
  ∃ before after, commands = before ++ after ∧
    (((opened nodes).run store choice before).database.fetchRecord key).map
      (·.toReceipt) = some receipt

theorem opened_unresolved (nodes : Nodes) : Unresolved (opened nodes).database.records := by
  intro row member
  exact absurd member List.not_mem_nil

theorem reports_of_later {nodes : Nodes} (before middle : List (NavigationCommand Nodes × String))
    {key : RecordKey} {row later : NavigationMutationRecord}
    (early : ((opened nodes).run store choice before).database.fetchRecord key = some row)
    (late : ((opened nodes).run store choice (before ++ middle)).database.fetchRecord key =
      some later) : Reports row later := by
  have invariant := (@run_progress _ store choice _ before (opened_invariant nodes)).1
  have unresolved := (@run_receiptsKept _ store choice _ before (opened_invariant nodes)
    (opened_unresolved nodes)).unresolved (opened_unresolved nodes)
  rw [run_append] at late
  have kept := @run_receiptsKept _ store choice _ middle invariant unresolved
  have final := (@run_progress _ store choice _ middle invariant).1
  obtain ⟨rowMember, rowKey⟩ := fetchRecord_mem early
  obtain ⟨laterMember, laterKey⟩ := fetchRecord_mem late
  obtain ⟨other, otherMember, sameIntent, reports⟩ := kept.reports row rowMember
  have sameKey : other.key = later.key :=
    (congrArg AcceptedIntent.key sameIntent).trans (rowKey.trans laterKey.symm)
  exact final.queue.eq_of_key_eq otherMember laterMember sameKey ▸ reports

theorem produces_reports {nodes : Nodes} {commands : List (NavigationCommand Nodes × String)}
    {key : RecordKey} {first second : Outbox.Receipt}
    (early : Produces store choice nodes commands key first)
    (late : Produces store choice nodes commands key second) :
    ∃ row later : NavigationMutationRecord, Reports row later ∧
      (row.toReceipt = first ∧ later.toReceipt = second ∨
        row.toReceipt = second ∧ later.toReceipt = first) := by
  obtain ⟨before, after, split, reported⟩ := early
  obtain ⟨otherBefore, otherAfter, otherSplit, otherReported⟩ := late
  obtain ⟨row, fetched, rowReceipt⟩ := Option.map_eq_some_iff.mp reported
  obtain ⟨otherRow, otherFetched, otherReceipt⟩ := Option.map_eq_some_iff.mp otherReported
  rcases List.append_eq_append_iff.mp (split.symm.trans otherSplit) with
    ⟨middle, longer, -⟩ | ⟨middle, longer, -⟩
  · rw [longer] at otherFetched
    exact ⟨row, otherRow, reports_of_later before middle fetched otherFetched,
      .inl ⟨rowReceipt, otherReceipt⟩⟩
  · rw [longer] at fetched
    exact ⟨otherRow, row, reports_of_later otherBefore middle otherFetched fetched,
      .inr ⟨otherReceipt, rowReceipt⟩⟩

end NavigationSystem

end GraphAgent.Navigation
