import GraphAgent.NavigationReceipts

/-!
# Sending accepted intents again

Intents that were accepted are found by their key and preimage, whatever became
of them and however they are grouped; the queue refuses them only when the open
rows and the batch together exceed the backpressure limit.
-/

namespace GraphAgent.Navigation

open Transaction KeyedRows

namespace NavigationQueue

variable {queue next : NavigationQueue} {gatewayId workspaceId actor : String}
  {batch : List NavigationQueueCommand} {newFolderId : Nat → String} {now : String}
  {intent : NavigationQueueCommand} {receipts : List NavigationMutationRecord}

def Recorded (queue : NavigationQueue) (gatewayId workspaceId actor : String)
    (intent : NavigationQueueCommand) : Prop :=
  ∃ row ∈ queue.records, row.key = ⟨gatewayId, workspaceId, actor, intent.clientOperationId⟩ ∧
    row.preimageHash = computeIntentPreimageHash intent

/-- A batch in `client_sequence` order. -/
def inSequence (batch : List NavigationQueueCommand) : List NavigationQueueCommand :=
  batch.insertionSort fun left right => left.clientSequence ≤ right.clientSequence

/-- The batch is answered with the rows it has, in order, and nothing is written. -/
def Replays (queue : NavigationQueue) (gatewayId workspaceId actor : String)
    (batch : List NavigationQueueCommand) (newFolderId : Nat → String) (now : String) : Prop :=
  ∃ receipts, queue.enqueueBatch gatewayId workspaceId actor batch newFolderId now =
      .ok (receipts, queue) ∧
    List.Forall₂ (fun (intent : NavigationQueueCommand) (record : NavigationMutationRecord) =>
      record ∈ queue.records ∧
        record.key = ⟨gatewayId, workspaceId, actor, intent.clientOperationId⟩)
      (inSequence batch) receipts

theorem inSequence_perm (batch : List NavigationQueueCommand) : (inSequence batch).Perm batch :=
  List.perm_insertionSort _ batch

theorem inSequence_sorted (batch : List NavigationQueueCommand) :
    (inSequence batch).Pairwise fun left right => left.clientSequence ≤ right.clientSequence := by
  have : Std.Total fun left right : NavigationQueueCommand =>
      left.clientSequence ≤ right.clientSequence := ⟨fun _ _ => Nat.le_total _ _⟩
  have : IsTrans NavigationQueueCommand fun left right =>
      left.clientSequence ≤ right.clientSequence := ⟨fun _ _ _ => Nat.le_trans⟩
  exact List.pairwise_insertionSort _ _

theorem Recorded.fetched (recorded : Recorded queue gatewayId workspaceId actor intent)
    (distinct : (queue.records.map (·.key)).Nodup) :
    ∃ row, queue.fetchRecord ⟨gatewayId, workspaceId, actor, intent.clientOperationId⟩ =
      some row ∧ row.preimageHash = computeIntentPreimageHash intent := by
  obtain ⟨row, member, key, hash⟩ := recorded
  exact ⟨row, key ▸ fetch_of_mem distinct member, hash⟩

theorem acceptIntent_recorded {members : List NavigationQueueCommand} {position : Nat}
    {row : NavigationMutationRecord}
    (fetched : queue.fetchRecord ⟨gatewayId, workspaceId, actor, intent.clientOperationId⟩ =
      some row) (hash : row.preimageHash = computeIntentPreimageHash intent) :
    queue.acceptIntent gatewayId workspaceId actor members newFolderId now intent position =
      .ok (row, queue) := by
  unfold acceptIntent
  dsimp only
  rw [fetched]
  exact if_neg (not_not.mpr hash)

theorem acceptIntents_recorded (distinct : (queue.records.map (·.key)).Nodup)
    {members : List NavigationQueueCommand} {placed : List (NavigationQueueCommand × Nat)}
    (recorded : ∀ entry ∈ placed, Recorded queue gatewayId workspaceId actor entry.1) :
    ∃ receipts, acceptIntents gatewayId workspaceId actor members newFolderId now placed queue =
        .ok (receipts, queue) ∧
      List.Forall₂ (fun (intent : NavigationQueueCommand) (record : NavigationMutationRecord) =>
        record ∈ queue.records ∧
          record.key = ⟨gatewayId, workspaceId, actor, intent.clientOperationId⟩)
        (placed.map (·.1)) receipts := by
  induction placed with
  | nil => exact ⟨[], rfl, .nil⟩
  | cons first rest ih =>
    obtain ⟨row, fetched, hash⟩ := (recorded first List.mem_cons_self).fetched distinct
    obtain ⟨receipts, others, related⟩ := ih fun entry member =>
      recorded entry (List.mem_cons_of_mem _ member)
    refine ⟨row :: receipts, ?_, .cons (fetchRecord_mem fetched) related⟩
    rw [acceptIntents, acceptIntent_recorded fetched hash]
    change (acceptIntents gatewayId workspaceId actor members newFolderId now rest queue >>=
      fun others => pure (row :: others.1, others.2)) = _
    rw [others]
    rfl

theorem replays_iff (distinct : (queue.records.map (·.key)).Nodup)
    (unique : (batch.map (·.clientOperationId)).Nodup)
    (recorded : ∀ intent ∈ batch, Recorded queue gatewayId workspaceId actor intent) :
    Replays queue gatewayId workspaceId actor batch newFolderId now ↔
      queue.countPending workspaceId + batch.length ≤ backpressurePendingLimit := by
  constructor
  · rintro ⟨receipts, enqueued, _⟩
    unfold enqueueBatch at enqueued
    dsimp only at enqueued
    split at enqueued
    · cases enqueued
    · rename_i within
      exact Nat.not_lt.mp within
  · intro within
    have sorted : ∀ entry ∈ (inSequence batch).zipIdx,
        Recorded queue gatewayId workspaceId actor entry.1 := by
      intro entry member
      exact recorded entry.1 ((inSequence_perm batch).mem_iff.mp
        (List.fst_mem_of_mem_zipIdx member))
    obtain ⟨receipts, accepted, related⟩ := @acceptIntents_recorded queue gatewayId workspaceId
      actor newFolderId now distinct (inSequence batch) _ sorted
    refine ⟨receipts, ?_, by rwa [List.zipIdx_map_fst] at related⟩
    unfold enqueueBatch
    dsimp only
    rw [if_neg (Nat.not_lt.mpr within), if_neg (not_not.mpr unique)]
    exact accepted

structure Adds (queue : NavigationQueue) (gatewayId workspaceId actor : String)
    (intents : List NavigationQueueCommand) (next : NavigationQueue)
    (added : List NavigationMutationRecord) : Prop where
  records : next.records = queue.records ++ added
  workspace : ∀ row ∈ added, row.key.workspaceId = workspaceId
  sequences : (added.map (·.clientSequence)).Sublist (intents.map (·.clientSequence))
  recorded : ∀ intent ∈ intents, Recorded next gatewayId workspaceId actor intent

theorem Recorded.appended {added : List NavigationMutationRecord}
    (records : next.records = queue.records ++ added)
    (recorded : Recorded queue gatewayId workspaceId actor intent) :
    Recorded next gatewayId workspaceId actor intent := by
  obtain ⟨row, member, found⟩ := recorded
  exact ⟨row, records ▸ List.mem_append_left _ member, found⟩

theorem acceptIntent_adds {members : List NavigationQueueCommand} {position : Nat}
    {receipt : NavigationMutationRecord}
    (accepted : queue.acceptIntent gatewayId workspaceId actor members newFolderId now intent
      position = .ok (receipt, next)) :
    ∃ added, Adds queue gatewayId workspaceId actor [intent] next added := by
  unfold acceptIntent at accepted
  dsimp only at accepted
  split at accepted
  · rename_i existing found
    obtain ⟨member, key⟩ := fetchRecord_mem found
    split at accepted
    · cases accepted
    · rename_i same
      cases accepted
      refine ⟨[], (List.append_nil _).symm, fun _ absent => absurd absent List.not_mem_nil,
        List.nil_sublist _, fun other inList => ?_⟩
      rw [List.mem_singleton.mp inList]
      exact ⟨receipt, member, key, not_not.mp same⟩
  · obtain ⟨_, _, accepted⟩ := bind_ok accepted
    obtain ⟨_, _, accepted⟩ := bind_ok accepted
    cases accepted
    refine ⟨[_], rfl, fun row member => ?_, List.Sublist.refl _, fun other inList => ?_⟩
    · rw [List.mem_singleton.mp member]
      rfl
    · rw [List.mem_singleton.mp inList]
      exact ⟨_, List.mem_append_right _ List.mem_cons_self, rfl, rfl⟩

theorem acceptIntents_adds {members : List NavigationQueueCommand}
    {placed : List (NavigationQueueCommand × Nat)}
    (accepted : acceptIntents gatewayId workspaceId actor members newFolderId now placed queue =
      .ok (receipts, next)) :
    ∃ added, Adds queue gatewayId workspaceId actor (placed.map (·.1)) next added := by
  induction placed generalizing queue receipts with
  | nil =>
    cases accepted
    exact ⟨[], (List.append_nil _).symm, fun _ absent => absurd absent List.not_mem_nil,
      List.Sublist.refl _, fun _ absent => absurd absent List.not_mem_nil⟩
  | cons first rest ih =>
    rw [acceptIntents] at accepted
    obtain ⟨⟨receipt, middle⟩, head, accepted⟩ := bind_ok accepted
    obtain ⟨⟨others, final⟩, later, accepted⟩ := bind_ok accepted
    cases accepted
    obtain ⟨early, adds⟩ := acceptIntent_adds head
    obtain ⟨late, addsLate⟩ := ih later
    refine ⟨early ++ late, ?_, ?_, ?_, ?_⟩
    · rw [addsLate.records, adds.records, List.append_assoc]
    · intro row member
      exact (List.mem_append.mp member).elim (adds.workspace row) (addsLate.workspace row)
    · rw [List.map_append, List.map_cons, List.map_cons]
      exact adds.sequences.append addsLate.sequences
    · intro intent member
      rcases List.mem_cons.mp member with rfl | inRest
      · exact (adds.recorded _ List.mem_cons_self).appended addsLate.records
      · exact addsLate.recorded intent inRest

theorem enqueueBatch_adds
    (enqueued : queue.enqueueBatch gatewayId workspaceId actor batch newFolderId now =
      .ok (receipts, next)) :
    ∃ added, Adds queue gatewayId workspaceId actor (inSequence batch) next added := by
  unfold enqueueBatch at enqueued
  dsimp only at enqueued
  split at enqueued
  · cases enqueued
  · split at enqueued
    · cases enqueued
    · obtain ⟨added, adds⟩ := acceptIntents_adds enqueued
      rw [List.zipIdx_map_fst] at adds
      exact ⟨added, adds⟩

/-- Rows in the order they were accepted have increasing sequence numbers. -/
def Sequenced (queue : NavigationQueue) : Prop :=
  queue.records.Pairwise fun earlier later =>
    earlier.key.workspaceId = later.key.workspaceId → earlier.queueSeq < later.queueSeq

theorem Invariant.isSequenced (invariant : Invariant queue) : Sequenced queue :=
  List.pairwise_map.mp invariant.accepted.sequenced

theorem Adds.inOrder {added : List NavigationMutationRecord}
    (adds : Adds queue gatewayId workspaceId actor (inSequence batch) next added)
    (invariant : Invariant next) :
    added.Pairwise fun earlier later =>
      earlier.clientSequence ≤ later.clientSequence ∧ earlier.queueSeq < later.queueSeq := by
  have sequences : added.Pairwise fun earlier later =>
      earlier.clientSequence ≤ later.clientSequence := by
    have sorted := List.pairwise_map.mpr (inSequence_sorted batch)
    exact List.pairwise_map.mp (sorted.sublist adds.sequences)
  have numbers := invariant.isSequenced
  rw [Sequenced, adds.records] at numbers
  have numbers := (List.pairwise_append.mp numbers).2.1
  refine (sequences.and numbers).imp_of_mem fun {earlier later} early late both => ?_
  exact ⟨both.1, both.2 ((adds.workspace earlier early).trans (adds.workspace later late).symm)⟩

end NavigationQueue

namespace NavigationSystem

open NavigationQueue

variable {Nodes : Type} {store : NodeStore Nodes} {choice : AnyRow NavigationMutationRecord}
  {nodes : Nodes} {commands : List (NavigationCommand Nodes × String)}
  {gatewayId workspaceId actor : String} {intent : NavigationQueueCommand}

def AcceptedIn (store : NodeStore Nodes) (choice : AnyRow NavigationMutationRecord) (nodes : Nodes)
    (commands : List (NavigationCommand Nodes × String)) (gatewayId workspaceId actor : String)
    (intent : NavigationQueueCommand) : Prop :=
  ∃ before intents newFolderId now after,
    commands = before ++
      (.enqueueBatch gatewayId workspaceId actor intents newFolderId, now) :: after ∧
    (∃ result, ((opened nodes).run store choice before).database.enqueueBatch gatewayId workspaceId
      actor intents newFolderId now = .ok result) ∧
    ∃ member ∈ intents, member.clientOperationId = intent.clientOperationId ∧
      computeIntentPreimageHash member = computeIntentPreimageHash intent

theorem recorded_kept {queue later : NavigationQueue} (kept : RowsKept queue later)
    (recorded : Recorded queue gatewayId workspaceId actor intent) :
    Recorded later gatewayId workspaceId actor intent := by
  obtain ⟨row, member, key, hash⟩ := recorded
  obtain ⟨next, present, sameIntent, _⟩ := kept row member
  exact ⟨next, present, (congrArg AcceptedIntent.key sameIntent).trans key,
    (congrArg AcceptedIntent.preimageHash sameIntent).trans hash⟩

theorem AcceptedIn.recorded
    (accepted : AcceptedIn store choice nodes commands gatewayId workspaceId actor intent) :
    Recorded ((opened nodes).run store choice commands).database.toNavigationQueue
      gatewayId workspaceId actor intent := by
  obtain ⟨before, intents, newFolderId, now, after, rfl, ⟨⟨receipts, queue⟩, enqueued⟩,
    member, inBatch, sameId, sameHash⟩ := accepted
  have start := (@run_progress _ store choice _ before (opened_invariant nodes)).1
  obtain ⟨added, adds⟩ := enqueueBatch_adds enqueued
  have recorded : Recorded queue gatewayId workspaceId actor intent := by
    obtain ⟨row, present, key, hash⟩ :=
      adds.recorded member ((inSequence_perm intents).mem_iff.mpr inBatch)
    exact ⟨row, present, sameId ▸ key, hash.trans sameHash⟩
  set system := (opened nodes).run store choice before
  have stepEq : (system.step store choice now (.enqueueBatch gatewayId workspaceId actor intents
      newFolderId)).database.toNavigationQueue = queue := by
    rw [step, enqueued]
    rfl
  have middle := (@step_progress _ store choice _ start now
    (.enqueueBatch gatewayId workspaceId actor intents newFolderId)).invariant
  have kept := (@run_progress _ store choice _ after middle).2
  rw [stepEq] at kept
  rw [run_append]
  exact recorded_kept kept recorded

/-- Accepted intents, sent again in any grouping after any run, are answered with their own
rows and change nothing exactly when the open rows and the batch stay within the limit; and
sequence numbers increase in acceptance order, within a batch in client order. -/
theorem replays_iff_within_limit (store : NodeStore Nodes)
    (choice : AnyRow NavigationMutationRecord) (nodes : Nodes)
    (commands : List (NavigationCommand Nodes × String)) (gatewayId workspaceId actor : String)
    (batch : List NavigationQueueCommand) (newFolderId : Nat → String) (now : String)
    (accepted : ∀ intent ∈ batch,
      AcceptedIn store choice nodes commands gatewayId workspaceId actor intent)
    (unique : (batch.map (·.clientOperationId)).Nodup) :
    let queue := ((opened nodes).run store choice commands).database.toNavigationQueue
    (Replays queue gatewayId workspaceId actor batch newFolderId now ↔
      queue.countPending workspaceId + batch.length ≤ backpressurePendingLimit) ∧
    Sequenced queue ∧
    ∀ gatewayId workspaceId actor intents newFolderId now receipts next,
      queue.enqueueBatch gatewayId workspaceId actor intents newFolderId now =
        .ok (receipts, next) →
      ∃ added, next.records = queue.records ++ added ∧ added.Pairwise fun earlier later =>
        earlier.clientSequence ≤ later.clientSequence ∧ earlier.queueSeq < later.queueSeq := by
  intro queue
  have invariant : Invariant queue :=
    (@run_progress _ store choice _ commands (opened_invariant nodes)).1.queue
  refine ⟨replays_iff invariant.keysDistinct unique fun intent member =>
    (accepted intent member).recorded, invariant.isSequenced, ?_⟩
  intro gatewayId workspaceId actor intents newFolderId now receipts next enqueued
  obtain ⟨added, adds⟩ := enqueueBatch_adds enqueued
  have later : Invariant next := acceptances_invariant invariant (enqueueBatch_ok enqueued)
  exact ⟨added, adds.records, adds.inOrder later⟩

def actorName (number : Nat) : String := String.ofList (List.replicate number 'a')

theorem actorName_injective {first second : Nat} (same : actorName first = actorName second) :
    first = second := by
  have length := congrArg (fun name => name.toList.length) same
  simpa [actorName] using length

def filling (actors : Nat) : List (NavigationCommand (List (String × Nat)) × String) :=
  (List.range actors).map fun number =>
    (.enqueueBatch "gw" "ws" (actorName number) [createIntent] (fun _ => "ses_1"), "t1")

theorem enqueueBatch_fresh {queue : NavigationQueue} {actor : String}
    (fresh : queue.fetchRecord ⟨"gw", "ws", actor, createIntent.clientOperationId⟩ = none)
    (within : queue.countPending "ws" + [createIntent].length ≤ backpressurePendingLimit) :
    ∃ row : NavigationMutationRecord,
      row.key = ⟨"gw", "ws", actor, createIntent.clientOperationId⟩ ∧ row.state = .queued ∧
      queue.enqueueBatch "gw" "ws" actor [createIntent] (fun _ => "ses_1") "t1" =
        .ok ([row], { queue with records := queue.records ++ [row] }) := by
  refine ⟨queuedRecord ⟨"gw", "ws", actor, createIntent.clientOperationId⟩ createIntent
    (queue.nextQueueSeq "ws") (fun _ => "ses_1") "t1", rfl, rfl, ?_⟩
  have unique : ([createIntent].map (·.clientOperationId)).Nodup := List.nodup_singleton _
  unfold enqueueBatch
  dsimp only
  rw [if_neg (Nat.not_lt.mpr within), if_neg (not_not.mpr unique)]
  change acceptIntents "gw" "ws" actor [createIntent] (fun _ => "ses_1") "t1"
    [(createIntent, 0)] queue = _
  rw [acceptIntents, acceptIntent]
  dsimp only
  rw [fresh]
  rfl

theorem filling_run (actors : Nat) (within : actors ≤ backpressurePendingLimit) :
    let queue := ((opened []).run sampleStore .first (filling actors)).database.toNavigationQueue
    queue.countPending "ws" = actors ∧
      ∀ row ∈ queue.records, ∃ number < actors, row.key.actor = actorName number := by
  induction actors with
  | zero => exact ⟨rfl, fun row absent => absurd absent List.not_mem_nil⟩
  | succ actors ih =>
    obtain ⟨pending, actorsOf⟩ := ih (Nat.le_of_succ_le within)
    have split : filling (actors + 1) = filling actors ++
        [(.enqueueBatch "gw" "ws" (actorName actors) [createIntent] (fun _ => "ses_1"), "t1")] := by
      rw [filling, List.range_succ, List.map_append]
      rfl
    rw [split, run_append]
    set system := (opened []).run sampleStore .first (filling actors)
    have fresh : system.database.fetchRecord
        ⟨"gw", "ws", actorName actors, createIntent.clientOperationId⟩ = none := by
      refine fetch_eq_none.mpr fun row member same => ?_
      obtain ⟨number, smaller, name⟩ := actorsOf row member
      have equal : actorName number = actorName actors := by rw [← name, same]
      exact absurd (actorName_injective equal) (Nat.ne_of_lt smaller)
    obtain ⟨row, key, queued, enqueued⟩ :=
      enqueueBatch_fresh fresh (by rw [pending]; exact within)
    have next : (system.run sampleStore .first
        [(.enqueueBatch "gw" "ws" (actorName actors) [createIntent] (fun _ => "ses_1"),
          "t1")]).database.toNavigationQueue =
        { system.database.toNavigationQueue with
          records := system.database.records ++ [row] } := by
      change (system.step sampleStore .first "t1" (.enqueueBatch "gw" "ws" (actorName actors)
        [createIntent] (fun _ => "ses_1"))).database.toNavigationQueue = _
      rw [step, enqueued]
      rfl
    rw [next]
    refine ⟨?_, fun other member => ?_⟩
    · have isOpen : [row].filter (fun row : NavigationMutationRecord =>
          decide (row.key.workspaceId = "ws") && !row.isTerminal) = [row] := by
        rw [List.filter_singleton, key, NavigationMutationRecord.isTerminal, queued]
        rfl
      rw [countPending, pendingRecords, List.filter_append, isOpen, List.length_append]
      exact congrArg (· + 1) pending
    · rcases List.mem_append.mp member with old | new
      · obtain ⟨number, smaller, name⟩ := actorsOf other old
        exact ⟨number, Nat.lt_succ_of_lt smaller, name⟩
      · rw [List.mem_singleton.mp new, key]
        exact ⟨actors, Nat.lt_succ_self _, rfl⟩

theorem filling_accepted (actors : Nat) : AcceptedIn sampleStore .first [] (filling (actors + 1))
    "gw" "ws" (actorName 0) createIntent := by
  refine ⟨[], [createIntent], fun _ => "ses_1", "t1",
    ((List.range actors).map Nat.succ).map fun number =>
      (.enqueueBatch "gw" "ws" (actorName number) [createIntent] (fun _ => "ses_1"), "t1"), ?_, ?_,
    createIntent, List.mem_cons_self, rfl, rfl⟩
  · rw [filling, List.range_succ_eq_map]
    rfl
  · obtain ⟨row, _, _, enqueued⟩ := @enqueueBatch_fresh NavigationQueue.empty (actorName 0) rfl
      (by decide)
    exact ⟨_, enqueued⟩

/-- The folder of the first actor is sent again while the queue is full of open rows. -/
theorem replays_refused_at_limit :
    ¬ ∀ (commands : List (NavigationCommand (List (String × Nat)) × String)) (actor : String)
      (batch : List NavigationQueueCommand) (newFolderId : Nat → String) (now : String),
      (∀ intent ∈ batch, AcceptedIn sampleStore .first [] commands "gw" "ws" actor intent) →
      (batch.map (·.clientOperationId)).Nodup →
      Replays ((opened []).run sampleStore .first commands).database.toNavigationQueue
        "gw" "ws" actor batch newFolderId now := by
  intro replays
  obtain ⟨receipts, enqueued, _⟩ := replays (filling 1000) (actorName 0) [createIntent]
    (fun _ => "ses_1") "t2"
    (fun intent member => List.mem_singleton.mp member ▸ filling_accepted 999)
    (List.nodup_singleton _)
  have pending := (filling_run 1000 (Nat.le_refl _)).1
  unfold enqueueBatch at enqueued
  dsimp only at enqueued
  rw [pending, if_pos (by decide)] at enqueued
  cases enqueued

/-- The folder of the first actor is sent again after it was created and removed. -/
theorem replays_iff_within_limit_created :
    let queue := ((opened []).run sampleStore .first takeoverCommands).database.toNavigationQueue
    (Replays queue "gw" "ws" "alice" [createIntent] (fun _ => "ses_3") "t10" ↔
      queue.countPending "ws" + [createIntent].length ≤ backpressurePendingLimit) ∧
    Sequenced queue ∧
    ∀ gatewayId workspaceId actor intents newFolderId now receipts next,
      queue.enqueueBatch gatewayId workspaceId actor intents newFolderId now =
        .ok (receipts, next) →
      ∃ added, next.records = queue.records ++ added ∧ added.Pairwise fun earlier later =>
        earlier.clientSequence ≤ later.clientSequence ∧ earlier.queueSeq < later.queueSeq := by
  refine replays_iff_within_limit sampleStore .first [] takeoverCommands "gw" "ws" "alice"
    [createIntent] (fun _ => "ses_3") "t10" (fun intent member => ?_) (List.nodup_singleton _)
  rw [List.mem_singleton.mp member]
  obtain ⟨row, _, _, enqueued⟩ := @enqueueBatch_fresh NavigationQueue.empty "alice" rfl (by decide)
  exact ⟨[], [createIntent], fun _ => "ses_1", "t1", takeoverCommands.drop 1, rfl, ⟨_, enqueued⟩,
    createIntent, List.mem_cons_self, rfl, rfl⟩

end NavigationSystem

end GraphAgent.Navigation
