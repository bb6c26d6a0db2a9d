import GraphAgent.BackgroundWork

/-!
# Runs of a background task

`app/core/background_task_registry.py` for one task.  One runner or one
reconciliation holds the lock of the task; cancellations and deletions come from
any process and read the row before they finish it.  A commit of the database is
one step, and between two steps the holder may be cancelled, raise or crash.
-/

namespace GraphAgent.BackgroundWork

inductive HolderPhase where
  | free
  /-- A runner has the lock and has not claimed the task. -/
  | entered
  /-- The head of the loop. -/
  | ready (handle : BackgroundTaskHandle)
  | marked (handle : BackgroundTaskHandle)
  | stepping (handle : BackgroundTaskHandle)
  | stepped (handle : BackgroundTaskHandle) (step : BackgroundTaskStep)
  | reconcileEntered
  | reconciling (handle : BackgroundTaskHandle)
  | confirmed (handle : BackgroundTaskHandle) (step : BackgroundTaskStep)

inductive EffectEvent where
  | invoked
  | committed
  | reconciled
  deriving DecidableEq

/-- Why a runner stops before its task is done. -/
inductive Interruption where
  | cancelled (stopping : Bool)
  | sessionDeletion
  | raised (message : String)

structure BackgroundSystem where
  database : BackgroundDatabase
  holder : HolderPhase
  handles : List BackgroundTaskHandle
  effects : List EffectEvent
  committed : List BackgroundTaskStep
  emitted : List BackgroundMessage

inductive BackgroundCommand where
  | enter
  | run (generation : Nat) (nowText : String)
  | mark (nowText : String)
  /-- Call the step of the handler. -/
  | invoke
  | stepReturns (step : BackgroundTaskStep)
  | commit (nowText : String)
  /-- A cancellation or an exception in the loop of the runner. -/
  | interrupt (cause : Interruption) (nowText : String)
  /-- The lock is released without a write: a return, an exception before the
  claim or in a reconciliation, or the end of the process. -/
  | leave
  | enterReconcile
  | claimReconcile (generation : Nat) (nowText : String)
  | confirm (step : BackgroundTaskStep)
  | commitReconcile (nowText : String)
  /-- `get_handle` of a cancellation or deletion. -/
  | readHandle
  /-- The write of a cancellation, with a handle that was read. -/
  | cancel (index : Nat) (nowText : String)
  | delete (index : Nat) (nowText : String)
  | emit (message : BackgroundMessage)
  | closeFence

def interruptionStatus (handle : BackgroundTaskHandle) (cause : Interruption) :
    BackgroundTaskStatus :=
  if handle.externalEffectPending then
    .reconcileRequired
  else
    match cause with
    | .cancelled stopping => if stopping then .pending else .cancelled
    | .sessionDeletion => .cancelled
    | .raised _ => .failed

def interruptionNote : Interruption → String
  | .cancelled true => "后端停止，等待恢复"
  | .cancelled false => "任务已取消"
  | .sessionDeletion => "Session 删除已关闭后台回调准入"
  | .raised message => message

def BackgroundError.interruption : BackgroundError → Interruption
  | .deletionPending _ => .sessionDeletion
  | error => .raised ("RuntimeError: " ++ error.message)

def cancellationStatus (handle : BackgroundTaskHandle) : BackgroundTaskStatus :=
  if handle.externalEffectPending then .reconcileRequired else .cancelled

namespace BackgroundSystem

section Steps

variable (sha256Jcs : List (String × Json) → String) (external : Bool)

/-- `_finish`: a write that is refused leaves the row alone. -/
def finish (system : BackgroundSystem) (handle : BackgroundTaskHandle)
    (status : BackgroundTaskStatus) (note nowText : String) : BackgroundSystem :=
  match system.database.finishBackgroundTask handle.fencingToken status note nowText with
  | .ok database => { system with database }
  | .error _ => system

def interrupted (system : BackgroundSystem) (handle : BackgroundTaskHandle)
    (cause : Interruption) (nowText : String) : BackgroundSystem :=
  { system.finish handle (interruptionStatus handle cause) (interruptionNote cause) nowText with
    holder := .free }

/-- The admission block of `_run`. -/
def runClaim (system : BackgroundSystem) (generation : Nat) (nowText : String) :
    BackgroundSystem :=
  let current := system.database.task
  if current.status = .pending ∨ current.status = .running then
    if current.externalEffectPending then
      { system.finish current .reconcileRequired
          "外部效果未确认，需要显式对账；禁止自动重放" nowText with
        holder := .free }
    else
      match system.database.claimBackgroundTask current.fencingToken generation false nowText with
      | .ok database => { system with database, holder := .ready database.task }
      | .error _ => { system with holder := .free }
  else
    { system with holder := .free }

/-- `mark_background_external_effect` at the head of the loop. -/
def markEffect (system : BackgroundSystem) (handle : BackgroundTaskHandle) (nowText : String) :
    BackgroundSystem :=
  match system.database.markBackgroundExternalEffect handle.fencingToken with
  | .ok database => { system with database, holder := .marked handle }
  | .error error => system.interrupted handle error.interruption nowText

/-- `handler.step(handle)`. -/
def invokeStep (system : BackgroundSystem) (handle : BackgroundTaskHandle) : BackgroundSystem :=
  { system with holder := .stepping handle, effects := system.effects ++ [.invoked] }

def commitStep (system : BackgroundSystem) (handle : BackgroundTaskHandle)
    (step : BackgroundTaskStep) (nowText : String) : BackgroundSystem :=
  match system.database.commitBackgroundStep sha256Jcs handle.fencingToken step false nowText with
  | .ok database =>
    { system with
      database
      holder := if database.task.status = .running then .ready database.task else .free
      effects := system.effects ++ [.committed]
      committed := system.committed ++ [step] }
  | .error error => system.interrupted handle error.interruption nowText

/-- The admission block of `reconcile`. -/
def reconcileClaim (system : BackgroundSystem) (generation : Nat) (nowText : String) :
    BackgroundSystem :=
  let current := system.database.task
  if current.status = .reconcileRequired ∧ external then
    match system.database.claimBackgroundTask current.fencingToken generation true nowText with
    | .ok database => { system with database, holder := .reconciling database.task }
    | .error _ => { system with holder := .free }
  else
    { system with holder := .free }

def reconcileCommit (system : BackgroundSystem) (handle : BackgroundTaskHandle)
    (step : BackgroundTaskStep) (nowText : String) : BackgroundSystem :=
  match system.database.commitBackgroundStep sha256Jcs handle.fencingToken step true nowText with
  | .ok database =>
    { system with
      database
      holder := .free
      effects := system.effects ++ [.reconciled]
      committed := system.committed ++ [step] }
  | .error _ => { system with holder := .free }

/-- `cancel` after its read: the handle that it returns can be deleted. -/
def cancelTask (system : BackgroundSystem) (handle : BackgroundTaskHandle) (nowText : String) :
    BackgroundSystem :=
  if handle.status.isActive then
    match system.database.finishBackgroundTask handle.fencingToken (cancellationStatus handle)
        "任务已取消" nowText with
    | .ok database => { system with database, handles := system.handles ++ [database.task] }
    | .error _ => system
  else
    system

/-- `delete` after its cancellation. -/
def deleteTask (system : BackgroundSystem) (handle : BackgroundTaskHandle) (nowText : String) :
    BackgroundSystem :=
  if handle.status.isActive then system
  else system.finish handle .deleted "任务记录已删除" nowText

def runnerHandle (system : BackgroundSystem) : Option BackgroundTaskHandle :=
  match system.holder with
  | .ready handle | .marked handle | .stepping handle | .stepped handle _ => some handle
  | _ => none

def step (system : BackgroundSystem) : BackgroundCommand → BackgroundSystem
  | .enter =>
    match system.holder with
    | .free => { system with holder := .entered }
    | _ => system
  | .run generation nowText =>
    match system.holder with
    | .entered => system.runClaim generation nowText
    | _ => system
  | .mark nowText =>
    match system.holder with
    | .ready handle => if external then system.markEffect handle nowText else system
    | _ => system
  | .invoke =>
    match system.holder with
    | .marked handle => system.invokeStep { handle with externalEffectPending := true }
    | .ready handle => if external then system else system.invokeStep handle
    | _ => system
  | .stepReturns step =>
    match system.holder with
    | .stepping handle => { system with holder := .stepped handle step }
    | _ => system
  | .commit nowText =>
    match system.holder with
    | .stepped handle step => system.commitStep sha256Jcs handle step nowText
    | _ => system
  | .interrupt cause nowText =>
    match system.runnerHandle with
    | some handle => system.interrupted handle cause nowText
    | none => system
  | .leave => { system with holder := .free }
  | .enterReconcile =>
    match system.holder with
    | .free => { system with holder := .reconcileEntered }
    | _ => system
  | .claimReconcile generation nowText =>
    match system.holder with
    | .reconcileEntered => system.reconcileClaim external generation nowText
    | _ => system
  | .confirm step =>
    match system.holder with
    | .reconciling handle => { system with holder := .confirmed handle step }
    | _ => system
  | .commitReconcile nowText =>
    match system.holder with
    | .confirmed handle step => system.reconcileCommit sha256Jcs handle step nowText
    | _ => system
  | .readHandle => { system with handles := system.handles ++ [system.database.task] }
  | .cancel index nowText =>
    match system.handles[index]? with
    | some handle => system.cancelTask handle nowText
    | none => system
  | .delete index nowText =>
    match system.handles[index]? with
    | some handle => system.deleteTask handle nowText
    | none => system
  | .emit message =>
    match system.database.emitBackgroundMessage sha256Jcs message with
    | .ok database => { system with database, emitted := system.emitted ++ [message] }
    | .error _ => system
  | .closeFence => { system with database := { system.database with fenceActive := false } }

def runCommands (system : BackgroundSystem) (commands : List BackgroundCommand) :
    BackgroundSystem :=
  commands.foldl (step sha256Jcs external) system

end Steps

end BackgroundSystem

end GraphAgent.BackgroundWork
