import GraphAgent.BackgroundTasks

/-!
# What one write does to a background task

The successful outcomes of each store call, the moves of the row that they make,
and what follows for superseded tokens and for final statuses.
-/

namespace GraphAgent.BackgroundWork

open Transaction

namespace BackgroundDatabase

variable {sha256Jcs : List (String × Json) → String} {database next : BackgroundDatabase}
  {token generation : Nat} {reconcile : Bool} {nowText note : String}
  {status : BackgroundTaskStatus} {step : BackgroundTaskStep}

theorem claim_ok
    (claimed : database.claimBackgroundTask token generation reconcile nowText = .ok next) :
    database.task.fencingToken = token ∧ database.task.status ∈ claimable reconcile ∧
      database.task.externalEffectPending = reconcile ∧
      next = { database with
        task := { database.task with
          fencingToken := database.task.fencingToken + 1
          runtimeGeneration := generation
          status := if reconcile then .reconcileRequired else .running
          startedAt := database.task.startedAt.or (some nowText) } } := by
  unfold claimBackgroundTask at claimed
  dsimp only at claimed
  split at claimed
  · split at claimed
    · rename_i allowed
      obtain ⟨sameToken, found, pending⟩ := allowed
      cases claimed
      exact ⟨sameToken, found, pending, rfl⟩
    · cases claimed
  · cases claimed

theorem mark_ok (marked : database.markBackgroundExternalEffect token = .ok next) :
    database.task.fencingToken = token ∧ database.task.status = .running ∧
      database.task.externalEffectPending = false ∧
      next = { database with task := { database.task with externalEffectPending := true } } := by
  unfold markBackgroundExternalEffect at marked
  dsimp only at marked
  split at marked
  · rename_i allowed
    obtain ⟨sameToken, running, clear⟩ := allowed
    cases marked
    exact ⟨sameToken, running, clear, rfl⟩
  · cases marked

theorem commit_ok
    (committed : database.commitBackgroundStep sha256Jcs token step reconcile nowText = .ok next) :
    database.task.fencingToken = token ∧ database.task.status = committable reconcile ∧
      ∃ mailbox metadata,
        insertMessages sha256Jcs database.task database.mailbox step.messages = .ok mailbox ∧
        next = { database with
          mailbox
          task := { database.task with
            checkpoint := step.checkpoint
            externalEffectPending := false
            status := if step.completed then .completed else .running
            endedAt := if step.completed then some nowText else none
            metadata } } := by
  unfold commitBackgroundStep at committed
  dsimp only at committed
  split at committed
  · split at committed
    · rename_i allowed
      obtain ⟨mailbox, inserted, rest⟩ := bind_ok committed
      obtain ⟨metadata, _, built⟩ := bind_ok rest
      cases built
      exact ⟨allowed.1, allowed.2, mailbox, metadata, inserted, rfl⟩
    · cases committed
  · cases committed

theorem finish_ok
    (finished : database.finishBackgroundTask token status note nowText = .ok next) :
    status ∈ finishStatuses ∧ database.task.fencingToken = token ∧
      ((database.task.status.isActive = false ∧ status ≠ .deleted ∧ next = database) ∨
        ((database.task.status.isActive = true ∨ status = .deleted) ∧
          next = { database with
            task := { database.task with
              status
              endedAt := if status.isActive then none else some nowText
              metadata := database.task.metadata.insert "status_note" (.str note) } })) := by
  unfold finishBackgroundTask at finished
  dsimp only at finished
  split at finished
  · rename_i accepted
    split at finished
    · rename_i sameToken
      refine ⟨accepted, sameToken, ?_⟩
      split at finished
      · rename_i settled
        cases finished
        exact .inl ⟨settled.1, settled.2, rfl⟩
      · rename_i written
        cases finished
        refine .inr ⟨?_, rfl⟩
        by_cases deleted : status = .deleted
        · exact .inr deleted
        · left
          rw [← Bool.not_eq_false]
          exact fun inactive => written ⟨inactive, deleted⟩
    · cases finished
  · cases finished

/-- Every write under another token than the one of the row is refused. -/
structure Fenced (sha256Jcs : List (String × Json) → String)
    (database : BackgroundDatabase) : Prop where
  claim : ∀ token, token ≠ database.task.fencingToken → ∀ generation reconcile nowText next,
    database.claimBackgroundTask token generation reconcile nowText ≠ .ok next
  mark : ∀ token, token ≠ database.task.fencingToken → ∀ next,
    database.markBackgroundExternalEffect token ≠ .ok next
  commit : ∀ token, token ≠ database.task.fencingToken → ∀ step reconcile nowText next,
    database.commitBackgroundStep sha256Jcs token step reconcile nowText ≠ .ok next
  finish : ∀ token, token ≠ database.task.fencingToken → ∀ status note nowText next,
    database.finishBackgroundTask token status note nowText ≠ .ok next

theorem fenced (sha256Jcs : List (String × Json) → String) (database : BackgroundDatabase) :
    database.Fenced sha256Jcs where
  claim _ other _ _ _ _ claimed := other (claim_ok claimed).1.symm
  mark _ other _ marked := other (mark_ok marked).1.symm
  commit _ other _ _ _ _ committed := other (commit_ok committed).1.symm
  finish _ other _ _ _ _ finished := other (finish_ok finished).2.1.symm

end BackgroundDatabase

inductive RowMove (row : BackgroundTaskHandle) : BackgroundTaskHandle → Prop where
  | unchanged : RowMove row row
  | claimed (generation : Nat) (startedAt : Option String) (reconcile : Bool)
      (found : row.status ∈ BackgroundDatabase.claimable reconcile)
      (pending : row.externalEffectPending = reconcile) :
      RowMove row { row with
        fencingToken := row.fencingToken + 1
        runtimeGeneration := generation
        status := if reconcile then .reconcileRequired else .running
        startedAt }
  | marked (running : row.status = .running) (clear : row.externalEffectPending = false) :
      RowMove row { row with externalEffectPending := true }
  | committed (step : BackgroundTaskStep) (reconcile : Bool) (endedAt : Option String)
      (metadata : Fields) (found : row.status = BackgroundDatabase.committable reconcile) :
      RowMove row { row with
        checkpoint := step.checkpoint
        externalEffectPending := false
        status := if step.completed then .completed else .running
        endedAt
        metadata }
  | finished (status : BackgroundTaskStatus) (endedAt : Option String) (metadata : Fields)
      (accepted : status ∈ BackgroundDatabase.finishStatuses)
      (allowed : row.status.isActive = true ∨ status = .deleted) :
      RowMove row { row with status, endedAt, metadata }

structure LaterRow (later earlier : BackgroundTaskHandle) : Prop where
  fencingToken : earlier.fencingToken ≤ later.fencingToken
  ended : earlier.status.isActive = false → later.status = earlier.status ∨ later.status = .deleted

namespace LaterRow

theorem refl (row : BackgroundTaskHandle) : LaterRow row row :=
  ⟨le_rfl, fun _ => .inl rfl⟩

theorem inactive {later earlier : BackgroundTaskHandle} (moved : LaterRow later earlier)
    (ended : earlier.status.isActive = false) : later.status.isActive = false := by
  rcases moved.ended ended with same | deleted
  · rw [same]
    exact ended
  · rw [deleted]
    rfl

theorem trans {first second third : BackgroundTaskHandle} (next : LaterRow third second)
    (start : LaterRow second first) : LaterRow third first where
  fencingToken := start.fencingToken.trans next.fencingToken
  ended := by
    intro ended
    rcases next.ended (start.inactive ended) with same | deleted
    · rw [same]
      exact start.ended ended
    · exact .inr deleted

end LaterRow

theorem claimable_active {reconcile : Bool} {status : BackgroundTaskStatus}
    (found : status ∈ BackgroundDatabase.claimable reconcile) : status.isActive = true := by
  revert found
  cases reconcile <;> cases status <;> decide

theorem committable_active (reconcile : Bool) :
    (BackgroundDatabase.committable reconcile).isActive = true := by
  cases reconcile <;> rfl

theorem RowMove.later {row next : BackgroundTaskHandle} (move : RowMove row next) :
    LaterRow next row := by
  cases move with
  | unchanged => exact .refl row
  | claimed _ _ _ found =>
    refine ⟨Nat.le_succ _, fun ended => ?_⟩
    rw [claimable_active found] at ended
    cases ended
  | marked => exact ⟨le_rfl, fun _ => .inl rfl⟩
  | committed _ reconcile _ _ found =>
    refine ⟨le_rfl, fun ended => ?_⟩
    rw [found, committable_active] at ended
    cases ended
  | finished status _ _ _ allowed =>
    refine ⟨le_rfl, fun ended => ?_⟩
    rcases allowed with active | deleted
    · rw [ended] at active
      cases active
    · exact .inr deleted

end GraphAgent.BackgroundWork
