import GraphAgent.BackgroundFencing

/-!
# Background tasks over whole runs

An external effect is never replayed blindly, what one step reports becomes
visible together, and a task that has ended stays so.  The evidence of an effect
stays reclaimable as long as every handle that finishes the task knows of it.
-/

namespace GraphAgent.BackgroundWork

open BackgroundDatabase KeyedRows Transaction

variable {sha256Jcs : List (String × Json) → String} {external : Bool}
  {system next : BackgroundSystem}

inductive Change (sha256Jcs : List (String × Json) → String) (system : BackgroundSystem) :
    BackgroundSystem → Prop where
  | quiet (holder : HolderPhase) (effects : List EffectEvent) (fenceActive : Bool) :
      Change sha256Jcs system { system with
        holder, effects, database := { system.database with fenceActive } }
  | read (handles : List BackgroundTaskHandle)
      (listed : handles = system.handles ++ [system.database.task]) :
      Change sha256Jcs system { system with handles }
  | wrote (task : BackgroundTaskHandle) (holder : HolderPhase)
      (handles : List BackgroundTaskHandle) (move : RowMove system.database.task task)
      (checkpoint : task.checkpoint = system.database.task.checkpoint)
      (completed : task.status = .completed → system.database.task.status = .completed)
      (listed : handles = system.handles ∨ handles = system.handles ++ [task]) :
      Change sha256Jcs system { system with
        holder, handles, database := { system.database with task } }
  | committed (token : Nat) (step : BackgroundTaskStep) (reconcile : Bool) (nowText : String)
      (database : BackgroundDatabase) (holder : HolderPhase) (effects : List EffectEvent)
      (wrote : system.database.commitBackgroundStep sha256Jcs token step reconcile nowText =
        .ok database) :
      Change sha256Jcs system { system with
        database, holder, effects, committed := system.committed ++ [step] }
  | emitted (message : BackgroundMessage) (database : BackgroundDatabase)
      (wrote : system.database.emitBackgroundMessage sha256Jcs message = .ok database) :
      Change sha256Jcs system { system with
        database, emitted := system.emitted ++ [message] }

theorem Change.stay (holder : HolderPhase) : Change sha256Jcs system { system with holder } :=
  .quiet holder system.effects system.database.fenceActive

theorem finishStatus_ne_completed {status : BackgroundTaskStatus}
    (accepted : status ∈ finishStatuses) : status ≠ .completed := by
  rintro rfl
  revert accepted
  decide

theorem Change.finished {database : BackgroundDatabase} {token : Nat}
    {status : BackgroundTaskStatus} {note nowText : String}
    (wrote : system.database.finishBackgroundTask token status note nowText = .ok database)
    (holder : HolderPhase) {handles : List BackgroundTaskHandle}
    (listed : handles = system.handles ∨ handles = system.handles ++ [database.task]) :
    Change sha256Jcs system { system with database, holder, handles } := by
  obtain ⟨accepted, -, unwritten | written⟩ := finish_ok wrote
  · obtain ⟨-, -, rfl⟩ := unwritten
    exact .wrote _ holder handles .unchanged rfl id listed
  · obtain ⟨allowed, rfl⟩ := written
    exact .wrote _ holder handles (.finished _ _ _ accepted allowed) rfl
      (fun completed => absurd completed (finishStatus_ne_completed accepted)) listed

theorem change_finish (handle : BackgroundTaskHandle) (status : BackgroundTaskStatus)
    (note nowText : String) (holder : HolderPhase) :
    Change sha256Jcs system { system.finish handle status note nowText with holder } := by
  unfold BackgroundSystem.finish
  split
  · rename_i database wrote
    exact .finished wrote holder (.inl rfl)
  · exact .stay holder

theorem change_claim {database : BackgroundDatabase} {token generation : Nat} {reconcile : Bool}
    {nowText : String}
    (wrote : system.database.claimBackgroundTask token generation reconcile nowText =
      .ok database) (holder : HolderPhase) :
    Change sha256Jcs system { system with database, holder } := by
  obtain ⟨-, found, pending, rfl⟩ := claim_ok wrote
  refine .wrote _ holder _ (.claimed generation _ reconcile found pending) rfl ?_ (.inl rfl)
  intro completed
  cases reconcile <;> cases completed

theorem step_change (command : BackgroundCommand) :
    Change sha256Jcs system (system.step sha256Jcs external command) := by
  cases command with
  | enter =>
    dsimp only [BackgroundSystem.step]
    split <;> exact .stay _
  | run generation nowText =>
    dsimp only [BackgroundSystem.step]
    split
    · unfold BackgroundSystem.runClaim
      dsimp only
      split
      · split
        · exact change_finish _ _ _ _ _
        · split
          · rename_i database wrote
            exact change_claim wrote _
          · exact .stay _
      · exact .stay _
    · exact .stay _
  | mark nowText =>
    dsimp only [BackgroundSystem.step]
    split
    · split
      · unfold BackgroundSystem.markEffect
        split
        · rename_i database wrote
          obtain ⟨-, running, clear, rfl⟩ := mark_ok wrote
          exact .wrote _ _ _ (.marked running clear) rfl id (.inl rfl)
        · exact change_finish _ _ _ _ _
      · exact .stay _
    · exact .stay _
  | invoke =>
    dsimp only [BackgroundSystem.step]
    split
    · exact .quiet _ _ _
    · split
      · exact .stay _
      · exact .quiet _ _ _
    · exact .stay _
  | stepReturns step =>
    dsimp only [BackgroundSystem.step]
    split <;> exact .stay _
  | commit nowText =>
    dsimp only [BackgroundSystem.step]
    split
    · unfold BackgroundSystem.commitStep
      split
      · rename_i database wrote
        exact .committed _ _ _ _ database _ _ wrote
      · exact change_finish _ _ _ _ _
    · exact .stay _
  | interrupt cause nowText =>
    dsimp only [BackgroundSystem.step]
    split
    · exact change_finish _ _ _ _ _
    · exact .stay _
  | leave => exact .stay _
  | enterReconcile =>
    dsimp only [BackgroundSystem.step]
    split <;> exact .stay _
  | claimReconcile generation nowText =>
    dsimp only [BackgroundSystem.step]
    split
    · unfold BackgroundSystem.reconcileClaim
      dsimp only
      split
      · split
        · rename_i database wrote
          exact change_claim wrote _
        · exact .stay _
      · exact .stay _
    · exact .stay _
  | confirm step =>
    dsimp only [BackgroundSystem.step]
    split <;> exact .stay _
  | commitReconcile nowText =>
    dsimp only [BackgroundSystem.step]
    split
    · unfold BackgroundSystem.reconcileCommit
      split
      · rename_i database wrote
        exact .committed _ _ _ _ database _ _ wrote
      · exact .stay _
    · exact .stay _
  | readHandle => exact .read _ rfl
  | cancel index nowText =>
    dsimp only [BackgroundSystem.step]
    split
    · unfold BackgroundSystem.cancelTask
      split
      · split
        · rename_i database wrote
          exact .finished wrote system.holder (.inr rfl)
        · exact .stay _
      · exact .stay _
    · exact .stay _
  | delete index nowText =>
    dsimp only [BackgroundSystem.step]
    split
    · unfold BackgroundSystem.deleteTask
      split
      · exact .stay _
      · unfold BackgroundSystem.finish
        split
        · rename_i database wrote
          exact .finished wrote system.holder (.inl rfl)
        · exact .stay _
    · exact .stay _
  | emit message =>
    dsimp only [BackgroundSystem.step]
    split
    · rename_i database wrote
      exact .emitted message database wrote
    · exact .stay _
  | closeFence => exact .quiet _ _ _

theorem Change.later (change : Change sha256Jcs system next) :
    LaterRow next.database.task system.database.task := by
  cases change with
  | quiet | read => exact .refl _
  | wrote _ _ _ move => exact move.later
  | committed token step reconcile nowText _ _ _ wrote =>
    obtain ⟨-, found, mailbox, metadata, -, rfl⟩ := commit_ok wrote
    exact (RowMove.committed step reconcile _ metadata found).later
  | emitted message _ wrote =>
    unfold emitBackgroundMessage at wrote
    split at wrote
    · obtain ⟨mailbox, -, built⟩ := bind_ok wrote
      cases built
      exact .refl _
    · cases wrote

def HandlesRead (system : BackgroundSystem) : Prop :=
  ∀ handle ∈ system.handles, LaterRow system.database.task handle

theorem HandlesRead.change (read : HandlesRead system) (change : Change sha256Jcs system next) :
    HandlesRead next := by
  intro handle member
  have known : handle ∈ system.handles ∨ handle = system.database.task ∨
      handle = next.database.task := by
    cases change with
    | quiet | committed | emitted => exact .inl member
    | read _ listed =>
      dsimp only at member
      rw [listed, List.mem_append, List.mem_singleton] at member
      exact member.imp id .inl
    | wrote _ _ _ _ _ _ listed =>
      rcases listed with rfl | rfl
      · exact .inl member
      · rw [List.mem_append, List.mem_singleton] at member
        exact member.imp id .inr
  rcases known with earlier | rfl | rfl
  · exact change.later.trans (read handle earlier)
  · exact change.later
  · exact .refl _

structure MailboxSound (sha256Jcs : List (String × Json) → String)
    (mailbox : List MailboxRow) : Prop where
  messageIds : (mailbox.map MailboxRow.messageId).Nodup
  hashes : ∀ row ∈ mailbox, row.preimageHash = sha256Jcs row.message.preimage

structure Inserted (sha256Jcs : List (String × Json) → String)
    (messages : List BackgroundMessage) (before after : List MailboxRow) : Prop where
  sound : MailboxSound sha256Jcs before → MailboxSound sha256Jcs after
  kept : ∀ row ∈ before, row ∈ after
  stored : ∀ message ∈ messages, ∃ row ∈ after,
    row.messageId = message.messageId ∧ row.preimageHash = sha256Jcs message.preimage
  sources : ∀ row ∈ after, row ∈ before ∨ row.message ∈ messages

theorem insertBackgroundMessage_ok {mailbox after : List MailboxRow} {message : BackgroundMessage}
    (inserted : insertBackgroundMessage sha256Jcs mailbox message = .ok after) :
    Inserted sha256Jcs [message] mailbox after := by
  unfold insertBackgroundMessage at inserted
  dsimp only at inserted
  split at inserted
  · rename_i row found
    split at inserted
    · rename_i same
      cases inserted
      refine ⟨id, fun _ => id, ?_, fun _ => .inl⟩
      intro other member
      cases List.mem_singleton.mp member
      exact ⟨row, fetch_mem found, fetch_key found, same⟩
    · cases inserted
  · rename_i absent
    cases inserted
    have fresh := fetch_eq_none.mp absent
    refine ⟨?_, fun _ => List.mem_append_left _, ?_, ?_⟩
    · rintro ⟨messageIds, hashes⟩
      constructor
      · rw [List.map_append, List.nodup_append]
        refine ⟨messageIds, List.nodup_singleton _, ?_⟩
        intro first firstListed second secondListed same
        obtain ⟨row, member, rfl⟩ := List.mem_map.mp firstListed
        cases List.mem_singleton.mp secondListed
        exact fresh row member same
      · intro row member
        rcases List.mem_append.mp member with earlier | new
        · exact hashes row earlier
        · cases List.mem_singleton.mp new
          rfl
    · intro other member
      cases List.mem_singleton.mp member
      exact ⟨_, List.mem_append_right _ (List.mem_singleton_self _), rfl, rfl⟩
    · intro row member
      rcases List.mem_append.mp member with earlier | new
      · exact .inl earlier
      · cases List.mem_singleton.mp new
        exact .inr (List.mem_singleton_self _)

theorem insertMessages_ok {row : BackgroundTaskHandle} {messages : List BackgroundMessage}
    {mailbox after : List MailboxRow}
    (inserted : insertMessages sha256Jcs row mailbox messages = .ok after) :
    Inserted sha256Jcs messages mailbox after := by
  induction messages generalizing mailbox with
  | nil =>
    cases inserted
    exact ⟨id, fun _ => id, nofun, fun _ => .inl⟩
  | cons message messages ih =>
    rw [insertMessages] at inserted
    split at inserted
    · obtain ⟨middle, first, rest⟩ := bind_ok inserted
      have one := insertBackgroundMessage_ok first
      have others := ih rest
      refine ⟨others.sound ∘ one.sound, fun row member => others.kept row (one.kept row member),
        ?_, ?_⟩
      · intro other member
        rcases List.mem_cons.mp member with rfl | later
        · obtain ⟨stored, storedMember, facts⟩ := one.stored other (List.mem_singleton_self _)
          exact ⟨stored, others.kept stored storedMember, facts⟩
        · exact others.stored other later
      · intro stored member
        rcases others.sources stored member with earlier | listed
        · refine (one.sources stored earlier).imp id fun listed => ?_
          rw [List.mem_singleton.mp listed]
          exact List.mem_cons_self ..
        · exact .inr (List.mem_cons_of_mem _ listed)
    · cases inserted

structure Together (sha256Jcs : List (String × Json) → String) (initialCheckpoint : Fields)
    (system : BackgroundSystem) : Prop where
  mailbox : MailboxSound sha256Jcs system.database.mailbox
  stored : ∀ step ∈ system.committed, ∀ message ∈ step.messages,
    ∃ row ∈ system.database.mailbox, row.messageId = message.messageId ∧
      row.preimageHash = sha256Jcs message.preimage
  sources : ∀ row ∈ system.database.mailbox,
    (∃ step ∈ system.committed, row.message ∈ step.messages) ∨ row.message ∈ system.emitted
  checkpoint : system.database.task.checkpoint =
    (system.committed.getLast?.map BackgroundTaskStep.checkpoint).getD initialCheckpoint
  completed : system.database.task.status = .completed →
    ∃ step, system.committed.getLast? = some step ∧ step.completed = true
  completes : ∀ step ∈ system.committed, step.completed = true →
    system.database.task.status = .completed ∨ system.database.task.status = .deleted

theorem Together.change {initialCheckpoint : Fields}
    (together : Together sha256Jcs initialCheckpoint system)
    (change : Change sha256Jcs system next) : Together sha256Jcs initialCheckpoint next := by
  have stays (step : BackgroundTaskStep) (member : step ∈ system.committed)
      (completes : step.completed = true) :
      next.database.task.status = .completed ∨ next.database.task.status = .deleted := by
    have settled := together.completes step member completes
    have inactive : system.database.task.status.isActive = false := by
      rcases settled with done | deleted
      · rw [done]
        rfl
      · rw [deleted]
        rfl
    rcases change.later.ended inactive with same | deleted
    · rwa [same]
    · exact .inr deleted
  cases change with
  | quiet | read =>
    exact ⟨together.mailbox, together.stored, together.sources, together.checkpoint,
      together.completed, together.completes⟩
  | wrote task _ _ _ checkpoint completed =>
    exact ⟨together.mailbox, together.stored, together.sources,
      checkpoint.trans together.checkpoint, fun done => together.completed (completed done),
      stays⟩
  | committed token step reconcile nowText _ _ _ wrote =>
    obtain ⟨-, found, mailbox, metadata, inserted, rfl⟩ := commit_ok wrote
    have put := insertMessages_ok inserted
    have last : (system.committed ++ [step]).getLast? = some step := List.getLast?_concat
    refine ⟨put.sound together.mailbox, ?_, ?_, ?_, ?_, ?_⟩
    · intro earlier member message listed
      rcases List.mem_append.mp member with old | new
      · obtain ⟨row, rowMember, facts⟩ := together.stored earlier old message listed
        exact ⟨row, put.kept row rowMember, facts⟩
      · cases List.mem_singleton.mp new
        exact put.stored message listed
    · intro row member
      rcases put.sources row member with earlier | listed
      · refine (together.sources row earlier).imp ?_ id
        rintro ⟨source, sourceMember, facts⟩
        exact ⟨source, List.mem_append_left _ sourceMember, facts⟩
      · exact .inl ⟨step, List.mem_append_right _ (List.mem_singleton_self _), listed⟩
    · rw [last]
      rfl
    · intro done
      refine ⟨step, last, ?_⟩
      dsimp only at done
      split at done
      · assumption
      · cases done
    · intro earlier member completes
      rcases List.mem_append.mp member with old | new
      · exact stays earlier old completes
      · cases List.mem_singleton.mp new
        left
        dsimp only
        rw [if_pos completes]
  | emitted message _ wrote =>
    unfold emitBackgroundMessage at wrote
    split at wrote
    · obtain ⟨mailbox, inserted, built⟩ := bind_ok wrote
      cases built
      have put := insertBackgroundMessage_ok inserted
      refine ⟨put.sound together.mailbox, ?_, ?_, together.checkpoint, together.completed,
        together.completes⟩
      · intro earlier member other listed
        obtain ⟨row, rowMember, facts⟩ := together.stored earlier member other listed
        exact ⟨row, put.kept row rowMember, facts⟩
      · intro row member
        rcases put.sources row member with earlier | listed
        · exact (together.sources row earlier).imp id (List.mem_append_left _)
        · exact .inr (List.mem_append_right _ listed)
    · cases wrote

end GraphAgent.BackgroundWork
