import GraphAgent.NavigationExecutor
import GraphAgent.NavigationProgress
import GraphAgent.Transactions

/-!
# The executor refines the queue transitions

One lemma for each method, from its success to what it did to the tables; each
write transaction is then a transition of the queue.
-/

namespace GraphAgent.Navigation

open KeyedRows Transaction

namespace NavigationQueue

variable {choice : AnyRow NavigationMutationRecord} {queue : NavigationQueue}

theorem requireRecord_ok {key : RecordKey} {record : NavigationMutationRecord}
    (required : queue.requireRecord key = .ok record) : queue.fetchRecord key = some record := by
  unfold requireRecord at required
  split at required
  · next found => rw [found, Except.ok.inj required]
  · cases required

theorem fetchRecord_mem {key : RecordKey} {record : NavigationMutationRecord}
    (fetched : queue.fetchRecord key = some record) :
    record ∈ queue.records ∧ record.key = key :=
  ⟨fetch_mem fetched, (fetch_key fetched :)⟩

theorem requireOwnerGeneration_ok {workspaceId ownerId : String} {generation : Nat} {done : Unit}
    (required : queue.requireOwnerGeneration workspaceId ownerId generation = .ok done) :
    queue.fetchOwner workspaceId = some ⟨workspaceId, ownerId, generation⟩ := by
  unfold requireOwnerGeneration at required
  split at required
  · cases required
  · next owner found =>
      split at required
      · next same =>
          have workspace : owner.workspaceId = workspaceId := fetch_key found
          rw [found, ← workspace, ← same.1, ← same.2]
      · cases required

theorem requireReferencedOperation_ok {workspaceId operationId : String}
    {intent : NavigationQueueCommand} {done : Unit}
    (required : queue.requireReferencedOperation workspaceId operationId intent = .ok done) :
    queue.referencedRecords workspaceId operationId ≠ [] := by
  unfold requireReferencedOperation at required
  split at required
  · cases required
  · next found => simp [found]

/-- Both checks of a reference together: inside the batch it must come before the
intent, outside it must be a stored operation. -/
theorem reference_accepted {workspaceId dependencyId : String}
    {batch : List NavigationQueueCommand} {intent : NavigationQueueCommand} {position : Nat}
    (earlierAccepted : ∀ earlier member, batch[earlier]? = some member → earlier < position →
      queue.referencedRecords workspaceId member.clientOperationId ≠ [])
    (precedes : queue.requireDependencyPrecedes workspaceId batch intent position dependencyId =
      .ok ())
    (resolvable : queue.requireDependencyResolvable workspaceId batch intent dependencyId =
      .ok ()) :
    queue.referencedRecords workspaceId dependencyId ≠ [] := by
  unfold requireDependencyPrecedes at precedes
  split at precedes
  · cases precedes
  · split at precedes
    · next outside =>
        have absent : ¬ (batch.map (·.clientOperationId)).contains dependencyId = true := by
          rw [List.contains_iff_mem]
          intro listed
          obtain ⟨member, batchMember, same⟩ := List.mem_map.mp listed
          have different := List.findIdx?_eq_none_iff.mp outside member batchMember
          simp [same] at different
        rw [requireDependencyResolvable, if_neg absent] at resolvable
        exact requireReferencedOperation_ok resolvable
    · next dependencyPosition found =>
        split at precedes
        · next before =>
            obtain ⟨bound, matched, -⟩ := List.findIdx?_eq_some_iff_getElem.mp found
            have accepted := earlierAccepted dependencyPosition _
              (List.getElem?_eq_getElem bound) before
            rwa [of_decide_eq_true matched] at accepted
        · split at precedes
          · cases precedes
          · next stored => simp [stored]

theorem Accepted.referenced {next : NavigationQueue} (acceptance : Accepted queue next)
    {workspaceId operationId : String}
    (referenced : queue.referencedRecords workspaceId operationId ≠ []) :
    next.referencedRecords workspaceId operationId ≠ [] := by
  obtain ⟨record, queued, records⟩ := acceptance.records
  rw [referencedRecords, records, List.filter_append]
  exact List.append_ne_nil_of_left_ne_nil referenced _

theorem acceptances_referenced {next : NavigationQueue}
    (acceptances : Relation.ReflTransGen Accepted queue next) {workspaceId operationId : String}
    (referenced : queue.referencedRecords workspaceId operationId ≠ []) :
    next.referencedRecords workspaceId operationId ≠ [] := by
  induction acceptances with
  | refl => exact referenced
  | tail _ acceptance ih => exact acceptance.referenced ih

theorem mem_dependencyIds_queuedRecord {key : RecordKey} {intent : NavigationQueueCommand}
    {queueSeq : Nat} {newFolderId : Nat → String} {now dependencyId : String} :
    dependencyId ∈ (queuedRecord key intent queueSeq newFolderId now).dependencyIds ↔
      dependencyId ∈ intent.dependsOn ∨ dependencyId ∈ intent.createdByOperationId.toList := by
  simp [queuedRecord, AcceptedIntent.dependencyIds, sortedStrings]

theorem acceptIntent_ok {gatewayId workspaceId actor : String}
    {batch : List NavigationQueueCommand} {newFolderId : Nat → String} {now : String}
    {intent : NavigationQueueCommand} {position : Nat} {receipt : NavigationMutationRecord}
    {next : NavigationQueue}
    (earlierAccepted : ∀ earlier member, batch[earlier]? = some member → earlier < position →
      queue.referencedRecords workspaceId member.clientOperationId ≠ [])
    (accepted : queue.acceptIntent gatewayId workspaceId actor batch newFolderId now intent
      position = .ok (receipt, next)) :
    Relation.ReflTransGen Accepted queue next ∧
      next.referencedRecords workspaceId intent.clientOperationId ≠ [] := by
  unfold acceptIntent at accepted
  dsimp only at accepted
  split at accepted
  · next existing found =>
      obtain ⟨member, sameKey⟩ := fetchRecord_mem found
      split at accepted
      · cases accepted
      · cases accepted
        refine ⟨.refl, ?_⟩
        apply List.ne_nil_of_mem
        exact List.mem_filter.mpr ⟨member, by simp [sameKey]⟩
  · next fresh =>
      obtain ⟨_, precede, accepted⟩ := bind_ok accepted
      obtain ⟨_, resolvable, accepted⟩ := bind_ok accepted
      cases accepted
      obtain ⟨_, dependsOn, createdBy⟩ := bind_ok resolvable
      refine ⟨.single (.accepted _ fresh rfl ?_ rfl rfl), ?_⟩
      · intro dependencyId reference
        rw [mem_dependencyIds_queuedRecord] at reference
        apply reference_accepted earlierAccepted
        · exact forM_ok precede dependencyId (List.mem_append.mpr reference)
        · rcases reference with listed | created
          · exact forM_ok dependsOn dependencyId listed
          · rw [Option.mem_toList.mp created] at createdBy
            dsimp only at createdBy
            split at createdBy
            · cases createdBy
            · exact createdBy
      · apply List.ne_nil_of_mem
        refine List.mem_filter.mpr ⟨List.mem_append_right _ (List.mem_singleton_self _), ?_⟩
        simp [queuedRecord]

theorem acceptIntents_ok {gatewayId workspaceId actor : String}
    {batch : List NavigationQueueCommand} {newFolderId : Nat → String} {now : String}
    (rest : List NavigationQueueCommand) {position : Nat} {queue next : NavigationQueue}
    {receipts : List NavigationMutationRecord} (remaining : batch.drop position = rest)
    (earlierAccepted : ∀ earlier member, batch[earlier]? = some member → earlier < position →
      queue.referencedRecords workspaceId member.clientOperationId ≠ [])
    (accepted : acceptIntents gatewayId workspaceId actor batch newFolderId now
      (rest.zipIdx position) queue = .ok (receipts, next)) :
    Relation.ReflTransGen Accepted queue next := by
  induction rest generalizing position queue receipts with
  | nil =>
    cases accepted
    exact .refl
  | cons intent rest ih =>
    rw [List.zipIdx_cons, acceptIntents] at accepted
    obtain ⟨⟨receipt, middle⟩, first, accepted⟩ := bind_ok accepted
    obtain ⟨⟨others, final⟩, later, accepted⟩ := bind_ok accepted
    cases accepted
    obtain ⟨acceptances, referenced⟩ := acceptIntent_ok earlierAccepted first
    refine acceptances.trans (ih ?_ ?_ later)
    · rw [← List.drop_drop, remaining]
      rfl
    · intro earlier member found before
      rcases Nat.lt_succ_iff_lt_or_eq.mp before with sooner | rfl
      · exact acceptances_referenced acceptances (earlierAccepted earlier member found sooner)
      · have head : batch[earlier]? = some intent := by
          rw [← List.head?_drop, remaining]
          rfl
        rw [found] at head
        rwa [Option.some.inj head]

theorem enqueueBatch_ok {gatewayId workspaceId actor : String}
    {intents : List NavigationQueueCommand} {newFolderId : Nat → String} {now : String}
    {receipts : List NavigationMutationRecord} {next : NavigationQueue}
    (enqueued : queue.enqueueBatch gatewayId workspaceId actor intents newFolderId now =
      .ok (receipts, next)) : Relation.ReflTransGen Accepted queue next := by
  unfold enqueueBatch at enqueued
  dsimp only at enqueued
  split at enqueued
  · cases enqueued
  · split at enqueued
    · cases enqueued
    · exact acceptIntents_ok _ List.drop_zero (fun _ _ _ before => absurd before (by omega))
        enqueued

theorem head_ok {workspaceId : String} {head : NavigationMutationRecord}
    (found : queue.head workspaceId = some head) :
    head ∈ queue.records ∧ head.key.workspaceId = workspaceId ∧
      ∀ row ∈ queue.records, row.key.workspaceId = workspaceId → row.queueSeq < head.queueSeq →
        row.isTerminal = true := by
  have pending := List.mem_filter.mp (List.argmin_mem found)
  simp only [Bool.and_eq_true, decide_eq_true_eq] at pending
  refine ⟨pending.1, pending.2.1, ?_⟩
  intro row member sameWorkspace sooner
  by_contra live
  have rowPending : row ∈ queue.pendingRecords workspaceId :=
    List.mem_filter.mpr ⟨member, by simp [sameWorkspace, live]⟩
  have minimal := List.le_of_mem_argmin rowPending found
  omega

theorem claimRunning_ok (invariant : Invariant queue) {record row : NavigationMutationRecord}
    {holderId ownerId : String} {generation : Nat} {now : String} {next : NavigationQueue}
    (current : queue.fetchRecord record.key = some record)
    (claimed : queue.claimRunning choice record holderId ownerId generation now =
      .ok (some (row, next))) :
    queue.fetchOwner record.key.workspaceId =
        some ⟨record.key.workspaceId, ownerId, generation⟩ ∧
      Revised queue next ∧ row ∈ next.records ∧
        row = claimedRecord holderId now record := by
  unfold claimRunning at claimed
  obtain ⟨_, owned, claimed⟩ := bind_ok claimed
  refine ⟨requireOwnerGeneration_ok owned, ?_⟩
  split at claimed
  · cases claimed
  · split at claimed
    · cases claimed
    · next head found =>
        split at claimed
        · cases claimed
        · next isHead =>
            push Not at isHead
            rw [current] at claimed
            dsimp only at claimed
            obtain ⟨terminal, -, claimed⟩ := bind_ok claimed
            split at claimed
            · split at claimed
              · cases claimed
              · next counted =>
                  obtain ⟨after, required, claimed⟩ := bind_ok claimed
                  cases claimed
                  have member := (fetchRecord_mem current).1
                  obtain ⟨headMember, sameWorkspace, first⟩ := head_ok found
                  have one : 0 < queue.records.countP fun row =>
                      decide (row.key = record.key) && decide (row.state = .queued) := by
                    omega
                  obtain ⟨queuedRow, queuedMember, matched⟩ := List.countP_pos_iff.mp one
                  simp only [Bool.and_eq_true, decide_eq_true_eq] at matched
                  have same := invariant.eq_of_key_eq queuedMember member matched.1
                  rw [same] at matched
                  have fetched := requireRecord_ok required
                  have updated : fetch (·.key) (updateWhere
                      (fun row => decide (row.key = record.key) && decide (row.state = .queued))
                      (claimedRecord holderId now) queue.records) record.key =
                      some (claimedRecord holderId now record) := by
                    refine fetch_updateWhere_self (fun _ => ?_) current (by simp [matched.2])
                    rfl
                  refine ⟨.revised _ ?_, (fetchRecord_mem fetched).1, ?_⟩
                  · intro other otherMember
                    split
                    · next matching =>
                        simp only [Bool.and_eq_true, decide_eq_true_eq] at matching
                        apply Revision.claimed _ _ matching.2
                        rw [invariant.eq_of_key_eq otherMember member matching.1]
                        intro earlier earlierMember earlierWorkspace sooner
                        apply first earlier earlierMember earlierWorkspace
                        rw [isHead.2.1]
                        exact sooner
                    · exact .kept
                  · exact Option.some.inj (fetched.symm.trans updated)
            · cases claimed

theorem recoverInFlight_ok {workspaceId ownerId : String} {generation : Nat} {now : String}
    {next : NavigationQueue}
    (recovered : queue.recoverInFlight workspaceId ownerId generation now = .ok next) :
    queue.fetchOwner workspaceId = some ⟨workspaceId, ownerId, generation⟩ ∧
      Revised queue next := by
  unfold recoverInFlight at recovered
  obtain ⟨_, owned, recovered⟩ := bind_ok recovered
  have current := requireOwnerGeneration_ok owned
  cases recovered
  refine ⟨current, .revised _ ?_⟩
  intro row member
  split
  · next matching =>
      simp only [Bool.and_eq_true, decide_eq_true_eq] at matching
      obtain ⟨⟨sameWorkspace, running⟩, foreign⟩ := matching
      apply Revision.released _ running
      intro owner found held
      rw [sameWorkspace, current] at found
      rw [held, ← Option.some.inj found] at foreign
      simp [NavigationQueueOwner.holderId] at foreign
  · exact .kept

theorem finishTerminal_ok (distinct : (queue.records.map (·.key)).Nodup)
    {record terminal : NavigationMutationRecord} {token : Nat} {write : TerminalWrite}
    {now : String} {next : NavigationQueue} (current : queue.fetchRecord record.key = some record)
    (finished : queue.finishTerminal record token write now = .ok (terminal, next)) :
    write.state.isTerminal = true ∧ record.fencingToken = token ∧
      terminal = finishedRecord write now record ∧
      next = { queue with
        records := updateWhere (fun row => row.key = record.key) (finishedRecord write now)
          queue.records } := by
  unfold finishTerminal at finished
  split at finished
  · cases finished
  · next ended =>
      dsimp only at finished
      split at finished
      · cases finished
      · next counted =>
          obtain ⟨after, required, finished⟩ := bind_ok finished
          cases finished
          have member := (fetchRecord_mem current).1
          have one : 0 < queue.records.countP fun row =>
              decide (row.key = record.key) && decide (row.fencingToken = token) := by
            omega
          obtain ⟨matchedRow, matchedMember, matched⟩ := List.countP_pos_iff.mp one
          simp only [Bool.and_eq_true, decide_eq_true_eq] at matched
          have same := KeyedRows.eq_of_key_eq distinct matchedMember member matched.1
          rw [same] at matched
          have records : updateWhere
              (fun row => decide (row.key = record.key) && decide (row.fencingToken = token))
              (finishedRecord write now) queue.records =
              updateWhere (fun row => decide (row.key = record.key)) (finishedRecord write now)
                queue.records := by
            apply List.map_congr_left
            intro row rowMember
            by_cases sameKey : row.key = record.key
            · rw [KeyedRows.eq_of_key_eq distinct rowMember member sameKey]
              simp [matched.2]
            · simp [sameKey]
          rw [records] at required ⊢
          have updated : fetch (·.key) (updateWhere (fun row => decide (row.key = record.key))
              (finishedRecord write now) queue.records) record.key =
              some (finishedRecord write now record) := by
            refine fetch_updateWhere_self (fun _ => ?_) current (by simp)
            rfl
          refine ⟨by simpa using ended, matched.2, ?_, rfl⟩
          exact Option.some.inj ((requireRecord_ok required).symm.trans updated)

theorem finishTerminal_superseded {record : NavigationMutationRecord} {token : Nat}
    {write : TerminalWrite} {now : String}
    (superseded : ∀ row ∈ queue.records, row.key = record.key → row.fencingToken ≠ token) :
    ∀ result, queue.finishTerminal record token write now ≠ .ok result := by
  intro result finished
  unfold finishTerminal at finished
  split at finished
  · cases finished
  · have none : queue.records.countP (fun row =>
        decide (row.key = record.key) && decide (row.fencingToken = token)) = 0 := by
      rw [List.countP_eq_zero]
      intro row member matching
      simp only [Bool.and_eq_true, decide_eq_true_eq] at matching
      exact superseded row member matching.1 matching.2
    dsimp only at finished
    rw [none] at finished
    cases finished

theorem appendEvent_ok {record : NavigationMutationRecord} {affected : List String}
    {now : String} {next : NavigationQueue}
    (appended : queue.appendEvent record affected now = .ok next) :
    next = { queue with events := queue.events ++ [queue.terminalEvent record affected now] } := by
  unfold appendEvent at appended
  split at appended
  · cases appended
  · dsimp only at appended
    split at appended
    · cases appended
    · split at appended
      · exact (Except.ok.inj appended).symm
      · cases appended

theorem queuedByOperationId_ok (allowed : NavigationMutationRecord → Prop)
    {rows : List NavigationMutationRecord} {entries : List (String × NavigationMutationRecord)}
    (rowsAllowed : ∀ row ∈ rows, allowed row)
    (entriesAllowed : ∀ entry ∈ entries,
      allowed entry.2 ∧ entry.2.key.operationId = entry.1) :
    ∀ entry ∈ queuedByOperationId rows entries,
      allowed entry.2 ∧ entry.2.key.operationId = entry.1 := by
  induction rows generalizing entries with
  | nil => exact entriesAllowed
  | cons row rest ih =>
    have rowAllowed := rowsAllowed row (by simp)
    apply ih (fun other member => rowsAllowed other (by simp [member]))
    intro entry member
    split at member
    · obtain ⟨earlier, earlierMember, rfl⟩ := List.mem_map.mp member
      split
      · next same => exact ⟨rowAllowed, same.symm⟩
      · exact entriesAllowed earlier earlierMember
    · rcases List.mem_append.mp member with old | new
      · exact entriesAllowed entry old
      · rw [List.mem_singleton.mp new]
        exact ⟨rowAllowed, rfl⟩

structure Poison.Sound (allowed : NavigationMutationRecord → Prop) (poison : Poison) : Prop where
  allowed : ∀ row ∈ poison.failed, allowed row
  poisoned : ∀ row ∈ poison.failed, row.key.operationId ∈ poison.poisoned
  distinct : (poison.failed.map (·.key.operationId)).Nodup

theorem poisonSweep_sound (allowed : NavigationMutationRecord → Prop)
    {queued : List (String × NavigationMutationRecord)}
    (entriesAllowed : ∀ entry ∈ queued, allowed entry.2 ∧ entry.2.key.operationId = entry.1)
    {poison : Poison} (sound : poison.Sound allowed) :
    (poisonSweep queued poison).Sound allowed := by
  unfold poisonSweep
  induction queued generalizing poison with
  | nil => exact sound
  | cons entry rest ih =>
    rw [List.foldl_cons]
    apply ih (fun other member => entriesAllowed other (by simp [member]))
    obtain ⟨entryAllowed, sameId⟩ := entriesAllowed entry (by simp)
    split
    · exact sound
    · next fresh =>
        split
        · rw [List.contains_iff_mem] at fresh
          refine ⟨?_, ?_, ?_⟩
          · intro row member
            rcases List.mem_append.mp member with old | new
            · exact sound.allowed row old
            · rwa [List.mem_singleton.mp new]
          · intro row member
            rcases List.mem_append.mp member with old | new
            · exact List.mem_append_left _ (sound.poisoned row old)
            · rw [List.mem_singleton.mp new, sameId]
              simp
          · rw [List.map_append, List.nodup_append]
            refine ⟨sound.distinct, by simp, ?_⟩
            intro operationId listed other otherListed same
            obtain ⟨row, member, rfl⟩ := List.mem_map.mp listed
            rw [List.map_singleton, List.mem_singleton] at otherListed
            rw [otherListed, sameId] at same
            exact fresh (same ▸ sound.poisoned row member)
        · exact sound

theorem poisonLoop_sound (allowed : NavigationMutationRecord → Prop)
    {queued : List (String × NavigationMutationRecord)}
    (entriesAllowed : ∀ entry ∈ queued, allowed entry.2 ∧ entry.2.key.operationId = entry.1)
    (sweeps : Nat) {poison : Poison} (sound : poison.Sound allowed) :
    (poisonLoop queued sweeps poison).Sound allowed := by
  induction sweeps generalizing poison with
  | zero => exact sound
  | succ sweeps ih =>
    have swept := poisonSweep_sound allowed entriesAllowed sound
    rw [poisonLoop]
    split
    · exact swept
    · exact ih swept

theorem dependencyFailedSuccessors_ok (queue : NavigationQueue)
    (workspaceId failedOperationId : String) :
    (∀ row ∈ queue.dependencyFailedSuccessors workspaceId failedOperationId,
        row ∈ queue.records ∧ row.state = .queued) ∧
      ((queue.dependencyFailedSuccessors workspaceId failedOperationId).map (·.key)).Nodup := by
  let allowed (row : NavigationMutationRecord) : Prop :=
    row ∈ queue.records ∧ row.state = .queued
  let rows := (queue.records.filter fun row =>
    row.key.workspaceId = workspaceId && row.state = .queued).insertionSort
      fun left right => left.queueSeq ≤ right.queueSeq
  have rowsAllowed : ∀ row ∈ rows, allowed row := by
    intro row member
    rw [List.mem_insertionSort] at member
    obtain ⟨rowMember, matched⟩ := List.mem_filter.mp member
    simp only [Bool.and_eq_true, decide_eq_true_eq] at matched
    exact ⟨rowMember, matched.2⟩
  have initial : Poison.Sound allowed ⟨[failedOperationId], []⟩ :=
    ⟨by simp, by simp, by simp⟩
  have sound : Poison.Sound allowed (poisonLoop (queuedByOperationId rows [])
      ((queuedByOperationId rows []).length + 1) ⟨[failedOperationId], []⟩) :=
    poisonLoop_sound allowed (queuedByOperationId_ok allowed rowsAllowed (by simp)) _ initial
  refine ⟨sound.allowed, ?_⟩
  apply List.Nodup.of_map (·.operationId)
  rw [List.map_map]
  exact sound.distinct

theorem foldl_dependencyFailed_records {failedOperationId : String} {revision : Nat}
    {now : String} (failed : List NavigationMutationRecord) (queue : NavigationQueue) :
    failed.foldl (fun current record =>
        { current with
          records := updateWhere (fun row => row.key = record.key && row.state = .queued)
            (dependencyFailedRecord failedOperationId revision now) current.records }) queue =
      { queue with
        records := updateWhere
          (fun row => row.key ∈ failed.map (·.key) && row.state = .queued)
          (dependencyFailedRecord failedOperationId revision now) queue.records } := by
  induction failed generalizing queue with
  | nil => simp [updateWhere]
  | cons record rest ih =>
    rw [List.foldl_cons, ih]
    simp only [updateWhere, List.map_map]
    congr 1
    apply List.map_congr_left
    intro row member
    by_cases queued : row.state = .queued
    · by_cases same : row.key = record.key
      · simp [same, queued, dependencyFailedRecord]
      · simp [same, queued]
    · simp [queued]

theorem appendSuccessorEvents_ok {now : String} (successors : List NavigationMutationRecord)
    {queue next : NavigationQueue}
    (failed : ∀ successor ∈ successors, ∀ row ∈ queue.records, row.key = successor.key →
      row.state = .dependencyFailed)
    (appended : NavigationDatabase.appendSuccessorEvents now successors queue = .ok next) :
    ∃ events : List NavigationEventRecord, events.map (·.key) = successors.map (·.key) ∧
      (∀ event ∈ events, event.resultState = .dependencyFailed) ∧
        next = { queue with events := queue.events ++ events } := by
  induction successors generalizing queue with
  | nil =>
    cases appended
    exact ⟨[], rfl, by simp, by simp⟩
  | cons successor rest ih =>
    rw [NavigationDatabase.appendSuccessorEvents] at appended
    obtain ⟨row, required, appended⟩ := bind_ok appended
    obtain ⟨middle, first, appended⟩ := bind_ok appended
    obtain ⟨member, sameKey⟩ := fetchRecord_mem (requireRecord_ok required)
    have middleEvents := appendEvent_ok first
    subst middleEvents
    have ofRest := fun restFailed => ih restFailed appended
    obtain ⟨events, keys, states, rfl⟩ := ofRest
      (fun other otherMember => failed other (by simp [otherMember]))
    refine ⟨queue.terminalEvent row (affectedOnReject row) now :: events, ?_, ?_, ?_⟩
    · rw [List.map_cons, List.map_cons, keys, ← sameKey]
      rfl
    · intro event eventMember
      rcases List.mem_cons.mp eventMember with rfl | later
      · exact failed successor (by simp) row member sameKey
      · exact states event later
    · simp

theorem successors_ok (invariant : Invariant queue) {workspaceId failedOperationId : String}
    {revision : Nat} {now : String} {next : NavigationQueue}
    (appended : NavigationDatabase.appendSuccessorEvents now
      (queue.markDependencyFailedSuccessors workspaceId failedOperationId revision now).1
      (queue.markDependencyFailedSuccessors workspaceId failedOperationId revision now).2 =
        .ok next) :
    SuccessorsFailed queue next := by
  unfold markDependencyFailedSuccessors at appended
  dsimp only at appended
  have successors := queue.dependencyFailedSuccessors_ok workspaceId failedOperationId
  revert appended successors
  generalize queue.dependencyFailedSuccessors workspaceId failedOperationId = failed
  intro appended ⟨queued, distinct⟩
  rw [foldl_dependencyFailed_records] at appended
  have records : updateWhere (fun row => row.key ∈ failed.map (·.key) && row.state = .queued)
      (dependencyFailedRecord failedOperationId revision now) queue.records =
      updateWhere (fun row => row.key ∈ failed.map (·.key))
        (dependencyFailedRecord failedOperationId revision now) queue.records := by
    apply List.map_congr_left
    intro row member
    by_cases listed : row.key ∈ failed.map (·.key)
    · obtain ⟨successor, successorMember, same⟩ := List.mem_map.mp listed
      obtain ⟨stored, successorQueued⟩ := queued successor successorMember
      have rowQueued : row.state = .queued := by
        rw [← invariant.eq_of_key_eq stored member same]
        exact successorQueued
      simp [rowQueued]
    · simp [listed]
  rw [records] at appended
  have allFailed : ∀ successor ∈ failed, ∀ row ∈ updateWhere
      (fun row => row.key ∈ failed.map (·.key))
      (dependencyFailedRecord failedOperationId revision now) queue.records,
      row.key = successor.key → row.state = .dependencyFailed := by
    intro successor successorMember row member same
    obtain ⟨earlier, earlierMember, rfl⟩ := List.mem_map.mp member
    have sameKey : earlier.key = successor.key := by
      split at same
      · exact same
      · exact same
    have listed : earlier.key ∈ failed.map (·.key) :=
      sameKey ▸ List.mem_map_of_mem successorMember
    simp [listed, dependencyFailedRecord]
  obtain ⟨events, keys, states, rfl⟩ := appendSuccessorEvents_ok failed allFailed appended
  apply SuccessorsFailed.failed _ distinct _ _ _ _ _ keys states
  intro key listed
  obtain ⟨successor, successorMember, same⟩ := List.mem_map.mp listed
  exact ⟨successor, (queued successor successorMember).1, same,
    (queued successor successorMember).2⟩

theorem findDeleteOperation_none {workspaceId operationId : String}
    (found : queue.findDeleteOperation workspaceId operationId = .ok none) :
    ∀ row ∈ queue.records, row.key.workspaceId = workspaceId →
      row.key.operationId = operationId → row.isDelete = false := by
  unfold findDeleteOperation at found
  split at found
  · next empty =>
      intro row member sameWorkspace sameOperation
      have absent := List.filter_eq_nil_iff.mp empty row member
      simpa [sameWorkspace, sameOperation] using absent
  · cases found
  · cases found

theorem findDeleteOperation_some {workspaceId operationId : String}
    {operation : NavigationMutationRecord}
    (found : queue.findDeleteOperation workspaceId operationId = .ok (some operation)) :
    operation ∈ queue.records ∧ operation.key.workspaceId = workspaceId ∧
      operation.key.operationId = operationId ∧
        ∀ row ∈ queue.records, row.key.workspaceId = workspaceId →
          row.key.operationId = operationId → row.isDelete = true → row = operation := by
  unfold findDeleteOperation at found
  split at found
  · cases found
  · next single =>
      cases found
      have listed : operation ∈ queue.records.filter fun row =>
          row.key.workspaceId = workspaceId && row.key.operationId = operationId &&
            row.isDelete := by
        rw [single]
        simp
      obtain ⟨member, matched⟩ := List.mem_filter.mp listed
      simp only [Bool.and_eq_true, decide_eq_true_eq] at matched
      refine ⟨member, matched.1.1, matched.1.2, ?_⟩
      intro row rowMember sameWorkspace sameOperation isDelete
      have rowListed : row ∈ queue.records.filter fun row =>
          row.key.workspaceId = workspaceId && row.key.operationId = operationId &&
            row.isDelete :=
        List.mem_filter.mpr ⟨rowMember, by simp [sameWorkspace, sameOperation, isDelete]⟩
      rw [single] at rowListed
      exact List.mem_singleton.mp rowListed
  · cases found

theorem isDelete_of_isSubtreeDelete {intent : AcceptedIntent}
    (subtree : intent.isSubtreeDelete = true) : intent.isDelete = true := by
  simp only [AcceptedIntent.isSubtreeDelete, AcceptedIntent.isDelete, Bool.or_eq_true,
    Bool.and_eq_true, decide_eq_true_eq] at subtree ⊢
  rcases subtree with session | ⟨folder, -⟩
  · exact .inr session
  · exact .inl folder

theorem settleDeleteOperation_ok {key : RecordKey} {now : String}
    {terminal : NavigationMutationRecord} {next : NavigationQueue}
    (settled : queue.settleDeleteOperation key now = .ok (terminal, next)) :
    next = { queue with
      records := updateWhere (fun row => row.key = key && row.state = .committed &&
        row.pendingSettlement) (settledRecord now) queue.records } := by
  unfold settleDeleteOperation at settled
  obtain ⟨current, required, settled⟩ := bind_ok settled
  split at settled
  · cases settled
    rfl
  · split at settled
    · cases settled
      rfl
    · cases settled

theorem settled_revised (key : RecordKey) (now : String) :
    Revised queue { queue with
      records := updateWhere (fun row => row.key = key && row.state = .committed &&
        row.pendingSettlement) (settledRecord now) queue.records } := by
  apply Revised.revised
  intro row member
  split
  · next matching =>
      simp only [Bool.and_eq_true, decide_eq_true_eq] at matching
      exact .settled now matching.1.2 matching.2
  · exact .kept

theorem markDeleteRepairRequired_ok {key : RecordKey} {detail now : String}
    {current : NavigationMutationRecord} {next : NavigationQueue}
    (marked : queue.markDeleteRepairRequired key detail now = .ok (current, next)) :
    Revised queue next := by
  unfold markDeleteRepairRequired at marked
  split at marked
  · cases marked
  · obtain ⟨row, required, marked⟩ := bind_ok marked
    split at marked
    · cases marked
    · cases marked
      apply Revised.revised
      intro row member
      split
      · next matching =>
          simp only [Bool.and_eq_true, decide_eq_true_eq] at matching
          exact .repaired detail now matching.1.1.2 matching.1.2
      · exact .kept

end NavigationQueue

end GraphAgent.Navigation
