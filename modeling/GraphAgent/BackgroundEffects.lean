import GraphAgent.BackgroundSafety

/-!
# External effects of a background task

The holder of the lock and the row agree on the effect of the running step, so a
step is invoked again only when the last one is settled.  Final statuses lose the
evidence of an effect only when the handle that finishes the task is outdated.
-/

namespace GraphAgent.BackgroundWork

open BackgroundDatabase

variable {sha256Jcs : List (String × Json) → String} {external : Bool}
  {system next : BackgroundSystem}

def unsettled (effects : List EffectEvent) : Prop :=
  effects.getLast? = some .invoked

/-- A commit or a reconciliation stands between two invocations. -/
def NeverReplayed (effects : List EffectEvent) : Prop :=
  ∀ before after, effects ≠ before ++ .invoked :: .invoked :: after

theorem NeverReplayed.snoc {effects : List EffectEvent} (never : NeverReplayed effects)
    {event : EffectEvent} (settled : event = .invoked → ¬ unsettled effects) :
    NeverReplayed (effects ++ [event]) := by
  intro before after split
  rcases List.eq_nil_or_concat after with rfl | ⟨rest, last, rfl⟩
  · have parts : effects = before ++ [.invoked] ∧ event = .invoked := by
      have shape : effects ++ [event] = (before ++ [.invoked]) ++ [.invoked] := by
        rw [split, List.append_assoc]
        rfl
      exact List.append_inj' shape rfl |>.imp id fun same => List.singleton_inj.mp same
    apply settled parts.2
    rw [unsettled, parts.1]
    exact List.getLast?_concat
  · have shape : effects ++ [event] = (before ++ .invoked :: .invoked :: rest) ++ [last] := by
      rw [split, List.concat_eq_append, List.append_assoc]
      rfl
    exact never before rest (List.append_inj' shape rfl).1

theorem settled_snoc {effects : List EffectEvent} {event : EffectEvent}
    (settles : event ≠ .invoked) : ¬ unsettled (effects ++ [event]) := by
  rw [unsettled, List.getLast?_concat]
  intro same
  exact settles (Option.some.inj same)

def HolderHolds (external : Bool) (row : BackgroundTaskHandle) (effects : List EffectEvent) :
    HolderPhase → Prop
  | .free | .entered | .reconcileEntered => True
  | .ready handle =>
    handle.fencingToken = row.fencingToken ∧ handle.externalEffectPending = false ∧
      row.externalEffectPending = false
  | .marked handle =>
    handle.fencingToken = row.fencingToken ∧ row.externalEffectPending = true ∧
      external = true ∧ ¬ unsettled effects
  | .stepping handle | .stepped handle _ =>
    handle.fencingToken = row.fencingToken ∧ handle.externalEffectPending = external ∧
      row.externalEffectPending = external
  | .reconciling handle | .confirmed handle _ =>
    handle.fencingToken = row.fencingToken ∧ row.externalEffectPending = true

structure EffectInvariant (external : Bool) (system : BackgroundSystem) : Prop where
  holder : HolderHolds external system.database.task system.effects system.holder
  pending : external = true → unsettled system.effects →
    system.database.task.externalEffectPending = true
  never : external = true → NeverReplayed system.effects

theorem EffectInvariant.stay (invariant : EffectInvariant external system) {holder : HolderPhase}
    (holds : HolderHolds external system.database.task system.effects holder) :
    EffectInvariant external { system with holder } :=
  ⟨holds, invariant.pending, invariant.never⟩

theorem finish_effect {database : BackgroundDatabase} {token : Nat}
    {status : BackgroundTaskStatus} {note nowText : String}
    (wrote : system.database.finishBackgroundTask token status note nowText = .ok database) :
    database.task.fencingToken = system.database.task.fencingToken ∧
      database.task.externalEffectPending = system.database.task.externalEffectPending := by
  obtain ⟨-, -, unwritten | written⟩ := finish_ok wrote
  · obtain ⟨-, -, rfl⟩ := unwritten
    exact ⟨rfl, rfl⟩
  · obtain ⟨-, rfl⟩ := written
    exact ⟨rfl, rfl⟩

theorem HolderHolds.congr {row other : BackgroundTaskHandle} {effects : List EffectEvent}
    {holder : HolderPhase} (holds : HolderHolds external row effects holder)
    (token : other.fencingToken = row.fencingToken)
    (effect : other.externalEffectPending = row.externalEffectPending) :
    HolderHolds external other effects holder := by
  cases holder with
  | free | entered | reconcileEntered => trivial
  | ready | marked | stepping | stepped | reconciling | confirmed =>
    simp only [HolderHolds, token, effect] at holds ⊢
    exact holds

theorem EffectInvariant.finished (invariant : EffectInvariant external system)
    {database : BackgroundDatabase} {token : Nat} {status : BackgroundTaskStatus}
    {note nowText : String}
    (wrote : system.database.finishBackgroundTask token status note nowText = .ok database)
    (handles : List BackgroundTaskHandle) :
    EffectInvariant external { system with database, handles } := by
  obtain ⟨sameToken, sameEffect⟩ := finish_effect wrote
  refine ⟨invariant.holder.congr sameToken sameEffect, ?_, invariant.never⟩
  intro isExternal open_
  exact sameEffect.trans (invariant.pending isExternal open_)

theorem EffectInvariant.finish (invariant : EffectInvariant external system)
    (handle : BackgroundTaskHandle) (status : BackgroundTaskStatus) (note nowText : String) :
    EffectInvariant external (system.finish handle status note nowText) := by
  unfold BackgroundSystem.finish
  split
  · rename_i database wrote
    exact invariant.finished wrote system.handles
  · exact invariant

theorem EffectInvariant.interrupted (invariant : EffectInvariant external system)
    (handle : BackgroundTaskHandle) (cause : Interruption) (nowText : String) :
    EffectInvariant external (system.interrupted handle cause nowText) :=
  (invariant.finish handle _ _ nowText).stay trivial

theorem EffectInvariant.step (invariant : EffectInvariant external system)
    (command : BackgroundCommand) :
    EffectInvariant external (system.step sha256Jcs external command) := by
  have known := invariant.holder
  cases command with
  | enter | enterReconcile =>
    dsimp only [BackgroundSystem.step]
    split
    · exact invariant.stay trivial
    · exact invariant
  | run generation nowText =>
    dsimp only [BackgroundSystem.step]
    split
    · unfold BackgroundSystem.runClaim
      dsimp only
      split
      · split
        · exact (invariant.finish _ _ _ nowText).stay trivial
        · split
          · rename_i clear _ database wrote
            obtain ⟨-, -, pending, rfl⟩ := claim_ok wrote
            exact ⟨⟨rfl, pending, pending⟩, invariant.pending, invariant.never⟩
          · exact invariant.stay trivial
      · exact invariant.stay trivial
    · exact invariant
  | mark nowText =>
    dsimp only [BackgroundSystem.step]
    split
    · rename_i handle phase
      rw [phase] at known
      split
      · rename_i isExternal
        unfold BackgroundSystem.markEffect
        split
        · rename_i database wrote
          obtain ⟨sameToken, -, clear, rfl⟩ := mark_ok wrote
          refine ⟨⟨sameToken.symm, rfl, isExternal, ?_⟩, fun _ _ => rfl, invariant.never⟩
          intro open_
          rw [invariant.pending isExternal open_] at clear
          cases clear
        · exact invariant.interrupted handle _ nowText
      · exact invariant
    · exact invariant
  | invoke =>
    dsimp only [BackgroundSystem.step]
    split
    · rename_i handle phase
      rw [phase] at known
      obtain ⟨sameToken, marked, isExternal, settled⟩ := known
      exact ⟨⟨sameToken, isExternal.symm, marked.trans isExternal.symm⟩, fun _ _ => marked,
        fun always => (invariant.never always).snoc fun _ => settled⟩
    · rename_i handle phase
      rw [phase] at known
      split
      · exact invariant
      · rename_i internal
        obtain ⟨sameToken, clear, rowClear⟩ := known
        have is : external = false := Bool.not_eq_true _ ▸ internal
        exact ⟨⟨sameToken, clear.trans is.symm, rowClear.trans is.symm⟩,
          fun isExternal => absurd isExternal internal,
          fun isExternal => absurd isExternal internal⟩
    · exact invariant
  | stepReturns step =>
    dsimp only [BackgroundSystem.step]
    split
    · rename_i handle phase
      rw [phase] at known
      exact invariant.stay known
    · exact invariant
  | commit nowText =>
    dsimp only [BackgroundSystem.step]
    split
    · rename_i handle step phase
      unfold BackgroundSystem.commitStep
      split
      · rename_i database wrote
        obtain ⟨-, -, mailbox, metadata, -, rfl⟩ := commit_ok wrote
        refine ⟨?_, fun _ open_ => absurd open_ (settled_snoc (by decide)),
          fun always => (invariant.never always).snoc fun same => by cases same⟩
        dsimp only
        cases step.completed with
        | false => exact ⟨rfl, rfl, rfl⟩
        | true => trivial
      · exact invariant.interrupted handle _ nowText
    · exact invariant
  | interrupt cause nowText =>
    dsimp only [BackgroundSystem.step]
    split
    · exact invariant.interrupted _ cause nowText
    · exact invariant
  | leave => exact invariant.stay trivial
  | claimReconcile generation nowText =>
    dsimp only [BackgroundSystem.step]
    split
    · unfold BackgroundSystem.reconcileClaim
      dsimp only
      split
      · split
        · rename_i database wrote
          obtain ⟨-, -, pending, rfl⟩ := claim_ok wrote
          exact ⟨⟨rfl, pending⟩, invariant.pending, invariant.never⟩
        · exact invariant.stay trivial
      · exact invariant.stay trivial
    · exact invariant
  | confirm step =>
    dsimp only [BackgroundSystem.step]
    split
    · rename_i handle phase
      rw [phase] at known
      exact invariant.stay known
    · exact invariant
  | commitReconcile nowText =>
    dsimp only [BackgroundSystem.step]
    split
    · rename_i handle step phase
      unfold BackgroundSystem.reconcileCommit
      split
      · rename_i database wrote
        obtain ⟨-, -, mailbox, metadata, -, rfl⟩ := commit_ok wrote
        exact ⟨trivial, fun _ open_ => absurd open_ (settled_snoc (by decide)),
          fun always => (invariant.never always).snoc fun same => by cases same⟩
      · exact invariant.stay trivial
    · exact invariant
  | readHandle => exact ⟨invariant.holder, invariant.pending, invariant.never⟩
  | cancel index nowText =>
    dsimp only [BackgroundSystem.step]
    split
    · unfold BackgroundSystem.cancelTask
      split
      · split
        · rename_i database wrote
          exact invariant.finished wrote _
        · exact invariant
      · exact invariant
    · exact invariant
  | delete index nowText =>
    dsimp only [BackgroundSystem.step]
    split
    · unfold BackgroundSystem.deleteTask
      split
      · exact invariant
      · exact invariant.finish _ _ _ nowText
    · exact invariant
  | emit message =>
    dsimp only [BackgroundSystem.step]
    split
    · rename_i database wrote
      unfold emitBackgroundMessage at wrote
      split at wrote
      · obtain ⟨mailbox, -, built⟩ := Transaction.bind_ok wrote
        cases built
        exact ⟨invariant.holder, invariant.pending, invariant.never⟩
      · cases wrote
    · exact invariant
  | closeFence => exact ⟨invariant.holder, invariant.pending, invariant.never⟩

structure Recoverable (row : BackgroundTaskHandle) : Prop where
  evidence : row.externalEffectPending = true →
    row.status = .running ∨ row.status = .reconcileRequired
  waiting : row.status = .reconcileRequired → row.externalEffectPending = true

def repaired (row : BackgroundTaskHandle) : BackgroundTaskHandle :=
  if (row.status = .pending ∨ row.status = .running) ∧ row.externalEffectPending = true then
    { row with status := .reconcileRequired }
  else
    row

def Claimable (database : BackgroundDatabase) (reconcile : Bool) : Prop :=
  ∀ generation nowText, ∃ next, database.claimBackgroundTask database.task.fencingToken generation
    reconcile nowText = .ok next

def Knows (handle row : BackgroundTaskHandle) : Prop :=
  handle.fencingToken = row.fencingToken →
    handle.externalEffectPending = row.externalEffectPending

def StepKnows (system : BackgroundSystem) : BackgroundCommand → Prop
  | .interrupt _ _ => ∀ handle, system.runnerHandle = some handle →
      Knows handle system.database.task
  | .cancel index _ => ∀ handle, system.handles[index]? = some handle →
      Knows handle system.database.task
  | _ => True

def RunKnows (sha256Jcs : List (String × Json) → String) (external : Bool) :
    BackgroundSystem → List BackgroundCommand → Prop
  | _, [] => True
  | system, command :: commands =>
    StepKnows system command ∧
      RunKnows sha256Jcs external (system.step sha256Jcs external command) commands

theorem Recoverable.claimable_iff {database : BackgroundDatabase}
    (recoverable : Recoverable database.task) (fence : database.fenceActive = true)
    (active : database.task.status.isActive = true) :
    Claimable { database with task := repaired database.task } false ↔
      ¬ Claimable { database with task := repaired database.task } true := by
  have claimable_iff (row : BackgroundTaskHandle) (reconcile : Bool) :
      Claimable { database with task := row } reconcile ↔
        row.status ∈ claimable reconcile ∧ row.externalEffectPending = reconcile := by
    constructor
    · intro claims
      obtain ⟨next, claimed⟩ := claims 0 ""
      exact ⟨(claim_ok claimed).2.1, (claim_ok claimed).2.2.1⟩
    · rintro ⟨found, pending⟩ generation nowText
      unfold claimBackgroundTask
      dsimp only
      rw [if_pos fence, if_pos ⟨rfl, found, pending⟩]
      exact ⟨_, rfl⟩
  rw [claimable_iff, claimable_iff, repaired]
  cases effect : database.task.externalEffectPending with
  | true =>
    rcases recoverable.evidence effect with running | waiting
    · simp [running, claimable]
    · simp [waiting, effect, claimable]
  | false =>
    have idle : database.task.status ≠ .reconcileRequired := by
      intro waiting
      rw [recoverable.waiting waiting] at effect
      cases effect
    cases status : database.task.status with
    | pending | running => simp [effect, claimable, status]
    | reconcileRequired => exact absurd status idle
    | completed | cancelled | failed | deleted =>
      rw [status] at active
      cases active

theorem Recoverable.finished {database : BackgroundDatabase}
    (recoverable : Recoverable system.database.task) {token : Nat}
    {status : BackgroundTaskStatus} {note nowText : String}
    (wrote : system.database.finishBackgroundTask token status note nowText = .ok database)
    (agrees : token = system.database.task.fencingToken →
      (status = .reconcileRequired ↔ system.database.task.externalEffectPending = true)) :
    Recoverable database.task := by
  obtain ⟨accepted, sameToken, unwritten | written⟩ := finish_ok wrote
  · obtain ⟨-, -, rfl⟩ := unwritten
    exact recoverable
  · obtain ⟨-, rfl⟩ := written
    have chosen := agrees sameToken.symm
    exact ⟨fun effect => .inr (chosen.mpr effect), chosen.mp⟩

theorem interruptionStatus_iff (handle : BackgroundTaskHandle) (cause : Interruption) :
    interruptionStatus handle cause = .reconcileRequired ↔
      handle.externalEffectPending = true := by
  unfold interruptionStatus
  cases handle.externalEffectPending with
  | true => simp
  | false =>
    cases cause with
    | cancelled stopping => cases stopping <;> simp
    | sessionDeletion | raised => simp

theorem Recoverable.interrupted (recoverable : Recoverable system.database.task)
    {handle : BackgroundTaskHandle} (knows : Knows handle system.database.task)
    (cause : Interruption) (nowText : String) :
    Recoverable (system.interrupted handle cause nowText).database.task := by
  unfold BackgroundSystem.interrupted BackgroundSystem.finish
  split
  · rename_i database wrote
    apply recoverable.finished wrote
    intro sameToken
    rw [interruptionStatus_iff, knows sameToken]
  · exact recoverable

theorem Recoverable.step (recoverable : Recoverable system.database.task)
    (invariant : EffectInvariant external system) (read : HandlesRead system)
    {command : BackgroundCommand} (knows : StepKnows system command) :
    Recoverable (system.step sha256Jcs external command).database.task := by
  have known := invariant.holder
  cases command with
  | enter | enterReconcile | stepReturns | confirm =>
    dsimp only [BackgroundSystem.step]
    split <;> exact recoverable
  | run generation nowText =>
    dsimp only [BackgroundSystem.step]
    split
    · unfold BackgroundSystem.runClaim BackgroundSystem.finish
      dsimp only
      split
      · split
        · rename_i effect
          split
          · rename_i database wrote
            exact recoverable.finished wrote fun _ => ⟨fun _ => effect, fun _ => rfl⟩
          · exact recoverable
        · split
          · rename_i database wrote
            obtain ⟨-, -, pending, rfl⟩ := claim_ok wrote
            exact ⟨fun _ => .inl rfl, nofun⟩
          · exact recoverable
      · exact recoverable
    · exact recoverable
  | mark nowText =>
    dsimp only [BackgroundSystem.step]
    split
    · rename_i handle phase
      rw [phase] at known
      split
      · unfold BackgroundSystem.markEffect
        split
        · rename_i database wrote
          obtain ⟨-, running, -, rfl⟩ := mark_ok wrote
          exact ⟨fun _ => .inl running, fun _ => rfl⟩
        · obtain ⟨-, clear, rowClear⟩ := known
          exact recoverable.interrupted (fun _ => clear.trans rowClear.symm) _ nowText
      · exact recoverable
    · exact recoverable
  | invoke =>
    dsimp only [BackgroundSystem.step]
    split
    · exact recoverable
    · split <;> exact recoverable
    · exact recoverable
  | commit nowText =>
    dsimp only [BackgroundSystem.step]
    split
    · rename_i handle step phase
      rw [phase] at known
      unfold BackgroundSystem.commitStep
      split
      · rename_i database wrote
        obtain ⟨-, -, mailbox, metadata, -, rfl⟩ := commit_ok wrote
        refine ⟨nofun, ?_⟩
        dsimp only
        split <;> nofun
      · obtain ⟨-, pending, rowPending⟩ := known
        exact recoverable.interrupted (fun _ => pending.trans rowPending.symm) _ nowText
    · exact recoverable
  | interrupt cause nowText =>
    dsimp only [BackgroundSystem.step]
    split
    · rename_i handle held
      exact recoverable.interrupted (knows handle held) cause nowText
    · exact recoverable
  | leave => exact recoverable
  | claimReconcile generation nowText =>
    dsimp only [BackgroundSystem.step]
    split
    · unfold BackgroundSystem.reconcileClaim
      dsimp only
      split
      · split
        · rename_i database wrote
          obtain ⟨-, -, pending, rfl⟩ := claim_ok wrote
          exact ⟨fun _ => .inr rfl, fun _ => pending⟩
        · exact recoverable
      · exact recoverable
    · exact recoverable
  | commitReconcile nowText =>
    dsimp only [BackgroundSystem.step]
    split
    · unfold BackgroundSystem.reconcileCommit
      split
      · rename_i database wrote
        obtain ⟨-, -, mailbox, metadata, -, rfl⟩ := commit_ok wrote
        refine ⟨nofun, ?_⟩
        dsimp only
        split <;> nofun
      · exact recoverable
    · exact recoverable
  | readHandle => exact recoverable
  | cancel index nowText =>
    dsimp only [BackgroundSystem.step]
    split
    · rename_i handle listed
      unfold BackgroundSystem.cancelTask
      split
      · split
        · rename_i database wrote
          apply recoverable.finished wrote
          intro sameToken
          rw [← knows handle listed sameToken, cancellationStatus]
          cases handle.externalEffectPending <;> simp
        · exact recoverable
      · exact recoverable
    · exact recoverable
  | delete index nowText =>
    dsimp only [BackgroundSystem.step]
    split
    · rename_i handle listed
      unfold BackgroundSystem.deleteTask
      split
      · exact recoverable
      · rename_i inactive
        -- The task had ended when the handle was read, so no effect is marked.
        have ended := (read handle (List.mem_of_getElem? listed)).inactive
          (Bool.not_eq_true _ ▸ inactive)
        unfold BackgroundSystem.finish
        split
        · rename_i database wrote
          apply recoverable.finished wrote
          intro _
          constructor
          · nofun
          · intro effect
            rcases recoverable.evidence effect with running | waiting
            · rw [running] at ended
              cases ended
            · rw [waiting] at ended
              cases ended
        · exact recoverable
    · exact recoverable
  | emit message =>
    dsimp only [BackgroundSystem.step]
    split
    · rename_i database wrote
      unfold emitBackgroundMessage at wrote
      split at wrote
      · obtain ⟨mailbox, -, built⟩ := Transaction.bind_ok wrote
        cases built
        exact recoverable
      · cases wrote
    · exact recoverable
  | closeFence => exact recoverable

structure Initial (sha256Jcs : List (String × Json) → String) (initialCheckpoint : Fields)
    (system : BackgroundSystem) : Prop where
  holder : system.holder = .free
  handles : system.handles = []
  effects : system.effects = []
  committed : system.committed = []
  checkpoint : system.database.task.checkpoint = initialCheckpoint
  status : system.database.task.status = .pending
  effect : system.database.task.externalEffectPending = false
  mailbox : MailboxSound sha256Jcs system.database.mailbox
  emitted : ∀ row ∈ system.database.mailbox, row.message ∈ system.emitted

/-- What holds in every state of every run. -/
structure TaskInvariant (sha256Jcs : List (String × Json) → String) (external : Bool)
    (initialCheckpoint : Fields) (system : BackgroundSystem) : Prop where
  effects : EffectInvariant external system
  read : HandlesRead system
  together : Together sha256Jcs initialCheckpoint system

namespace TaskInvariant

variable {initialCheckpoint : Fields}

theorem initial (start : Initial sha256Jcs initialCheckpoint system) :
    TaskInvariant sha256Jcs external initialCheckpoint system where
  effects := by
    refine ⟨?_, ?_, ?_⟩
    · rw [start.holder]
      trivial
    · intro _ open_
      rw [start.effects] at open_
      cases open_
    · intro _ before after split
      rw [start.effects] at split
      simp at split
  read := by
    intro handle member
    rw [start.handles] at member
    cases member
  together := by
    refine ⟨start.mailbox, ?_, fun row member => .inr (start.emitted row member), ?_, ?_, ?_⟩
    · intro step member
      rw [start.committed] at member
      cases member
    · rw [start.committed]
      exact start.checkpoint
    · intro done
      rw [start.status] at done
      cases done
    · intro step member
      rw [start.committed] at member
      cases member

theorem step (invariant : TaskInvariant sha256Jcs external initialCheckpoint system)
    (command : BackgroundCommand) :
    TaskInvariant sha256Jcs external initialCheckpoint
      (system.step sha256Jcs external command) where
  effects := invariant.effects.step command
  read := invariant.read.change (step_change command)
  together := invariant.together.change (step_change command)

theorem run (invariant : TaskInvariant sha256Jcs external initialCheckpoint system)
    (commands : List BackgroundCommand) :
    TaskInvariant sha256Jcs external initialCheckpoint
      (system.runCommands sha256Jcs external commands) := by
  induction commands generalizing system with
  | nil => exact invariant
  | cons command commands ih => exact ih (invariant.step command)

end TaskInvariant

theorem runCommands_later (commands : List BackgroundCommand) :
    LaterRow (system.runCommands sha256Jcs external commands).database.task
      system.database.task := by
  induction commands generalizing system with
  | nil => exact .refl _
  | cons command commands ih => exact ih.trans (step_change command).later

theorem Recoverable.run {initialCheckpoint : Fields}
    (recoverable : Recoverable system.database.task)
    (invariant : TaskInvariant sha256Jcs external initialCheckpoint system)
    {commands : List BackgroundCommand} (knows : RunKnows sha256Jcs external system commands) :
    Recoverable (system.runCommands sha256Jcs external commands).database.task := by
  induction commands generalizing system with
  | nil => exact recoverable
  | cons command commands ih =>
    obtain ⟨first, rest⟩ := knows
    exact ih (recoverable.step invariant.effects invariant.read first)
      (invariant.step command) rest

structure Reclaimable (database : BackgroundDatabase) : Prop where
  evidence : database.task.externalEffectPending = true →
    database.task.status = .running ∨ database.task.status = .reconcileRequired
  claims : database.fenceActive = true → database.task.status.isActive = true →
    (Claimable { database with task := repaired database.task } false ↔
      ¬ Claimable { database with task := repaired database.task } true)

/-- Writes under superseded tokens, replays, split commits and revived tasks do
not happen in any run; the evidence of effects stays reclaimable in every run in
which whoever finishes the task knows whether an effect is marked. -/
theorem backgroundTask_effects (sha256Jcs : List (String × Json) → String) (external : Bool)
    (initialCheckpoint : Fields) (start : BackgroundSystem)
    (initial : Initial sha256Jcs initialCheckpoint start)
    (earlier later : List BackgroundCommand) :
    ((start.runCommands sha256Jcs external (earlier ++ later)).database.Fenced sha256Jcs ∧
      (external = true → NeverReplayed
        (start.runCommands sha256Jcs external (earlier ++ later)).effects) ∧
      Together sha256Jcs initialCheckpoint
        (start.runCommands sha256Jcs external (earlier ++ later)) ∧
      LaterRow (start.runCommands sha256Jcs external (earlier ++ later)).database.task
        (start.runCommands sha256Jcs external earlier).database.task) ∧
      (RunKnows sha256Jcs external start (earlier ++ later) →
        Reclaimable (start.runCommands sha256Jcs external (earlier ++ later)).database) := by
  have begun : TaskInvariant sha256Jcs external initialCheckpoint start := .initial initial
  have reached := begun.run (earlier ++ later)
  refine ⟨⟨fenced sha256Jcs _, reached.effects.never, reached.together, ?_⟩, ?_⟩
  · rw [BackgroundSystem.runCommands, List.foldl_append]
    exact runCommands_later later
  · intro knows
    have created : Recoverable start.database.task := by
      constructor
      · intro effect
        rw [initial.effect] at effect
        cases effect
      · intro waiting
        rw [initial.status] at waiting
        cases waiting
    have recoverable := created.run begun knows
    exact ⟨recoverable.evidence, recoverable.claimable_iff⟩

/-! A task with an external handler. -/

def createdTask : BackgroundTaskHandle where
  taskId := "bgt_task"
  sessionId := "ses_task"
  threadId := "thr_task"
  agentId := "agent"
  checkpoint := Dictionary.empty
  status := .pending
  fencingToken := 0
  runtimeGeneration := 0
  externalEffectPending := false
  startedAt := none
  endedAt := none
  metadata := Dictionary.empty

def createdSystem : BackgroundSystem where
  database := ⟨true, createdTask, []⟩
  holder := .free
  handles := []
  effects := []
  committed := []
  emitted := []

theorem createdSystem_initial (sha256Jcs : List (String × Json) → String) :
    Initial sha256Jcs Dictionary.empty createdSystem where
  holder := rfl
  handles := rfl
  effects := rfl
  committed := rfl
  checkpoint := rfl
  status := rfl
  effect := rfl
  mailbox := ⟨List.nodup_nil, nofun⟩
  emitted := nofun

/-- The runner is stopped in the middle of its step. -/
theorem backgroundTask_effects_stopped :
    Reclaimable (createdSystem.runCommands (fun _ => "") true
      ([.enter, .run 1 "now", .mark "now", .invoke] ++
        [.interrupt (.cancelled true) "now"])).database := by
  apply (backgroundTask_effects (fun _ => "") true Dictionary.empty createdSystem
    (createdSystem_initial _) [.enter, .run 1 "now", .mark "now", .invoke]
    [.interrupt (.cancelled true) "now"]).2
  refine ⟨trivial, trivial, trivial, trivial, ?_, trivial⟩
  rintro handle ⟨⟩ _
  rfl

/-- A cancellation reads the row, the runner marks its effect, and the
cancellation ends the task: nothing can claim the effect any more. -/
theorem backgroundTask_effects_lostEvidence :
    Initial (fun _ => "") Dictionary.empty createdSystem ∧
      ¬ Reclaimable (createdSystem.runCommands (fun _ => "") true
        [.enter, .run 1 "now", .readHandle, .mark "now", .cancel 0 "now"]).database := by
  refine ⟨createdSystem_initial _, ?_⟩
  intro reclaimable
  rcases reclaimable.evidence rfl with running | waiting
  · cases running
  · cases waiting

end GraphAgent.BackgroundWork
