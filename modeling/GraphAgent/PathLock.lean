import Mathlib.Logic.Function.Basic

/-!
# The lock of a rollout path

`rollout_context/storage/primitives.py`: one queue for synchronous threads and
tasks, the holds of the owners that were admitted, and the file lock behind a
hold.  A block under the condition is one step; between two steps any other
thread may run.
-/

namespace GraphAgent.PathLocks

/-- `_RolloutLockOwner`: a thread and the task that it runs. -/
abbrev LockOwner (Thread Task : Type) : Type := Thread × Option Task

inductive FileHandle where
  | opened
  | closed

/-- `_RolloutLockHold`. -/
structure LockHold (Thread Task : Type) where
  owner : LockOwner Thread Task
  exclusive : Bool
  depth : Nat := 1
  handle : Option FileHandle := none

/-- `_RolloutLockWaiter`; the ticket is its identity, and a waiter with a loop has an event. -/
structure LockWaiter (Thread Task : Type) where
  ticket : Nat
  owner : LockOwner Thread Task
  exclusive : Bool
  loop : Bool
  deriving DecidableEq

/-- How far the last release of a hold has got. -/
inductive CloseStage where
  | unlocking
  | closed
  | dropped

inductive Phase (Thread Task : Type) where
  | idle
  /-- In `condition.wait`. -/
  | waiting (ticket : LockWaiter Thread Task) (woken : Bool)
  /-- Before a round of the loop; `ready.set` may be scheduled. -/
  | checking (ticket : LockWaiter Thread Task) (scheduled : Bool)
  /-- In `ready.wait`. -/
  | suspended (ticket : LockWaiter Thread Task) (scheduled ready : Bool)
  /-- Before the `finally` of `acquire_async`, with the hold that it returns. -/
  | leaving (ticket : LockWaiter Thread Task) (hold : Option Nat)
  | admitted (hold : Nat) (isAsync : Bool)
  | opening (hold : Nat) (isAsync : Bool)
  /-- Between the two blocks of the last release of a hold. -/
  | closing (hold : Nat) (stage : CloseStage)

namespace Phase

variable {Thread Task : Type}

def queued : Phase Thread Task → Option (LockWaiter Thread Task)
  | .waiting ticket _ | .checking ticket _ | .suspended ticket _ _ | .leaving ticket none =>
    some ticket
  | _ => none

def acquiring : Phase Thread Task → Option Nat
  | .leaving _ (some hold) | .admitted hold _ | .opening hold _ => some hold
  | _ => none

def releasing : Phase Thread Task → Option Nat
  | .closing hold _ => some hold
  | _ => none

def blocked : Phase Thread Task → Option (LockWaiter Thread Task)
  | .waiting ticket _ => some ticket
  | _ => none

/-- Whether the owner is about to leave the queue and to wake the others. -/
def isLeaving : Phase Thread Task → Bool
  | .leaving _ _ => true
  | _ => false

/-- Whether a waiter runs or will run without another wake-up. -/
def isAwake : Phase Thread Task → Bool
  | .waiting _ woken => woken
  | .suspended _ scheduled ready => scheduled || ready
  | .checking _ _ | .leaving _ _ => true
  | _ => false

def occupies : Phase Thread Task → Bool
  | .idle | .suspended _ _ _ => false
  | .opening _ isAsync => !isAsync
  | _ => true

/-- `notify_all` reaches a thread in `wait`. -/
def wake : Phase Thread Task → Phase Thread Task
  | .waiting ticket _ => .waiting ticket true
  | phase => phase

/-- `call_soon_threadsafe(ready.set)`. -/
def schedule : Phase Thread Task → Phase Thread Task
  | .checking ticket _ => .checking ticket true
  | .suspended ticket _ ready => .suspended ticket true ready
  | phase => phase

end Phase

/-- A `_RolloutPathLock`, the holds that were created and where every owner is.
`unreleased` counts the acquisitions of a hold that were returned and not yet
released; `admissions` lists the admitted tickets. -/
structure LockSystem (Thread Task : Type) where
  queue : List (LockWaiter Thread Task) := []
  holders : List (LockOwner Thread Task × Nat) := []
  holds : Nat → LockHold Thread Task
  nextHold : Nat := 0
  nextTicket : Nat := 0
  phases : LockOwner Thread Task → Phase Thread Task := fun _ => .idle
  unreleased : Nat → Nat := fun _ => 0
  admissions : List Nat := []

namespace LockSystem

variable {Thread Task : Type} [DecidableEq Thread] [DecidableEq Task]

def setPhase (system : LockSystem Thread Task) (owner : LockOwner Thread Task)
    (phase : Phase Thread Task) : LockSystem Thread Task :=
  { system with phases := Function.update system.phases owner phase }

def setHold (system : LockSystem Thread Task) (id : Nat) (hold : LockHold Thread Task) :
    LockSystem Thread Task :=
  { system with holds := Function.update system.holds id hold }

/-- `self._holders.get(owner)`. -/
def holder (system : LockSystem Thread Task) (owner : LockOwner Thread Task) : Option Nat :=
  (system.holders.find? fun entry => entry.1 = owner).map Prod.snd

/-- The head of the queue may pass the holders. -/
def isAdmissible (nt : Bool) (system : LockSystem Thread Task)
    (ticket : LockWaiter Thread Task) : Bool :=
  system.holders.isEmpty ||
    !(ticket.exclusive || nt || system.holders.any fun entry => (system.holds entry.2).exclusive)

/-- `_admit`. -/
def admitTicket (nt : Bool) (system : LockSystem Thread Task) (ticket : LockWaiter Thread Task) :
    Option (Nat × LockSystem Thread Task) :=
  if system.queue.head? = some ticket ∧ system.isAdmissible nt ticket = true then
    some (system.nextHold,
      { system with
        queue := system.queue.tail
        holders := (ticket.owner, system.nextHold) ::
          system.holders.filter fun entry => entry.1 ≠ ticket.owner
        holds := Function.update system.holds system.nextHold
          { owner := ticket.owner, exclusive := ticket.exclusive }
        nextHold := system.nextHold + 1
        admissions := system.admissions ++ [ticket.ticket] })
  else
    none

def notify (system : LockSystem Thread Task) : LockSystem Thread Task :=
  { system with
    phases := fun owner =>
      match system.queue.head? with
      | some ticket =>
        if ticket.loop = true ∧ ticket.owner = owner then (system.phases owner).wake.schedule
        else (system.phases owner).wake
      | none => (system.phases owner).wake }

def discard (system : LockSystem Thread Task) (ticket : LockWaiter Thread Task) :
    LockSystem Thread Task :=
  { system with queue := system.queue.erase ticket }.notify

def blocksEventLoop (system : LockSystem Thread Task) (ticket : LockWaiter Thread Task) : Bool :=
  ticket.owner.2.isSome &&
    (system.holders.any (fun entry => entry.1.1 = ticket.owner.1) ||
      (system.queue.takeWhile fun earlier => earlier ≠ ticket).any fun earlier =>
        earlier.owner.1 = ticket.owner.1)

/-- `_reenter`: the owner raises, or its hold is one deeper. -/
def reenter (system : LockSystem Thread Task) (owner : LockOwner Thread Task) (hold : Nat)
    (exclusive isAsync : Bool) : LockSystem Thread Task :=
  let held := system.holds hold
  if exclusive && !held.exclusive then
    system
  else
    (system.setHold hold { held with depth := held.depth + 1 }).setPhase owner
      (.admitted hold isAsync)

def waiter (system : LockSystem Thread Task) (owner : LockOwner Thread Task)
    (exclusive loop : Bool) : LockWaiter Thread Task :=
  ⟨system.nextTicket, owner, exclusive, loop⟩

def enqueue (system : LockSystem Thread Task) (owner : LockOwner Thread Task)
    (exclusive loop : Bool) : LockSystem Thread Task :=
  { system with
    queue := system.queue ++ [system.waiter owner exclusive loop]
    nextTicket := system.nextTicket + 1 }.setPhase owner
      (.checking (system.waiter owner exclusive loop) false)

/-- A round of the loop of `acquire`, with its `finally`. -/
def acquireRound (nt : Bool) (system : LockSystem Thread Task) (ticket : LockWaiter Thread Task)
    (expired : Bool) : LockSystem Thread Task :=
  if expired then
    (system.setPhase ticket.owner .idle).discard ticket
  else
    match system.admitTicket nt ticket with
    | some (hold, admitted) =>
      (admitted.setPhase ticket.owner (.admitted hold false)).discard ticket
    | none =>
      if system.blocksEventLoop ticket then
        (system.setPhase ticket.owner .idle).discard ticket
      else
        system.setPhase ticket.owner (.waiting ticket false)

/-- A round of the loop of `acquire_async`, up to `ready.wait` or its `finally`. -/
def acquireAsyncRound (nt : Bool) (system : LockSystem Thread Task)
    (ticket : LockWaiter Thread Task) (scheduled expired : Bool) : LockSystem Thread Task :=
  if expired then
    system.setPhase ticket.owner (.leaving ticket none)
  else
    match system.admitTicket nt ticket with
    | some (hold, admitted) => admitted.setPhase ticket.owner (.leaving ticket (some hold))
    | none => system.setPhase ticket.owner (.suspended ticket scheduled false)

/-- The first block of `release`. -/
def beginRelease (system : LockSystem Thread Task) (releaser : LockOwner Thread Task)
    (hold : Nat) : LockSystem Thread Task :=
  let held := system.holds hold
  (system.setHold hold { held with depth := held.depth - 1 }).setPhase releaser
    (if held.depth - 1 = 0 then .closing hold .unlocking else .idle)

/-- The last block of `release`; without a registered hold it raises `KeyError`. -/
def finishRelease (system : LockSystem Thread Task) (releaser : LockOwner Thread Task)
    (hold : Nat) : LockSystem Thread Task :=
  let owner := (system.holds hold).owner
  if (system.holder owner).isSome then
    { system.setPhase releaser .idle with
      holders := system.holders.filter fun entry => entry.1 ≠ owner }.notify
  else
    system.setPhase releaser .idle

def returnHold (system : LockSystem Thread Task) (owner : LockOwner Thread Task) (hold : Nat) :
    LockSystem Thread Task :=
  { system with
    unreleased := Function.update system.unreleased hold (system.unreleased hold + 1)
  }.setPhase owner .idle

inductive Action where
  | acquire (exclusive expired : Bool)
  | acquireAsync (exclusive : Bool)
  /-- `condition.wait` returns. -/
  | wake (expired : Bool)
  | check (expired : Bool)
  /-- The loop runs `ready.set`. -/
  | deliver
  | resume
  /-- `asyncio.timeout` fires. -/
  | timer (expired : Bool)
  | cancel
  | leave
  | bind (bound : Bool)
  | lockFile (locked : Bool)
  | release (hold : Nat)
  | closeHandle
  | dropHandle
  | finish

def acquires : Action → Bool
  | .acquire _ _ | .acquireAsync _ => true
  | _ => false

def step (nt : Bool) (system : LockSystem Thread Task) (owner : LockOwner Thread Task)
    (action : Action) : Option (LockSystem Thread Task) :=
  match action, system.phases owner with
  | .acquire exclusive expired, .idle =>
    match system.holder owner with
    | some hold => some (system.reenter owner hold exclusive false)
    | none =>
      some ((system.enqueue owner exclusive false).acquireRound nt
        (system.waiter owner exclusive false) expired)
  | .acquireAsync exclusive, .idle =>
    match system.holder owner with
    | some hold => some (system.reenter owner hold exclusive true)
    | none => some (system.enqueue owner exclusive true)
  | .wake expired, .waiting ticket _ => some (system.acquireRound nt ticket expired)
  | .check expired, .checking ticket scheduled =>
    some (system.acquireAsyncRound nt ticket scheduled expired)
  | .deliver, .suspended ticket true _ =>
    some (system.setPhase owner (.suspended ticket false true))
  | .resume, .suspended ticket scheduled true =>
    some (system.setPhase owner (.checking ticket scheduled))
  | .timer expired, .suspended ticket scheduled _ =>
    some (system.setPhase owner
      (if expired then .leaving ticket none else .checking ticket scheduled))
  | .cancel, .suspended ticket _ _ => some (system.setPhase owner (.leaving ticket none))
  | .cancel, .opening hold true => some (system.beginRelease owner hold)
  | .leave, .leaving ticket none => some ((system.setPhase owner .idle).discard ticket)
  | .leave, .leaving ticket (some hold) =>
    some ((system.setPhase owner (.admitted hold true)).discard ticket)
  | .bind bound, .admitted hold isAsync =>
    if bound then
      match (system.holds hold).handle with
      | none => some (system.setPhase owner (.opening hold isAsync))
      | some _ => some (system.returnHold owner hold)
    else
      some (system.beginRelease owner hold)
  | .lockFile locked, .opening hold _ =>
    if locked then
      some ((system.setHold hold
        { system.holds hold with handle := some .opened }).returnHold owner hold)
    else
      some (system.beginRelease owner hold)
  | .release hold, .idle =>
    if 0 < system.unreleased hold then
      some ({ system with
        unreleased := Function.update system.unreleased hold (system.unreleased hold - 1)
      }.beginRelease owner hold)
    else
      none
  | .closeHandle, .closing hold .unlocking =>
    some ((system.setHold hold
      { system.holds hold with handle := (system.holds hold).handle.map fun _ => .closed
      }).setPhase owner (.closing hold .closed))
  | .dropHandle, .closing hold .closed =>
    some ((system.setHold hold { system.holds hold with handle := none }).setPhase owner
      (.closing hold .dropped))
  | .finish, .closing hold .dropped => some (system.finishRelease owner hold)
  | _, _ => none

def IsFree (system : LockSystem Thread Task) (owner : LockOwner Thread Task) : Prop :=
  ∀ other, other ≠ owner → other.1 = owner.1 → (system.phases other).occupies = false

inductive Run (nt : Bool) : LockSystem Thread Task →
    List (LockOwner Thread Task × Action) → LockSystem Thread Task → Prop where
  | nil {system} : Run nt system [] system
  | cons {system next last owner action trace} (free : IsFree system owner)
      (moved : step nt system owner action = some next) (rest : Run nt next trace last) :
      Run nt system ((owner, action) :: trace) last

def initial (holds : Nat → LockHold Thread Task) : LockSystem Thread Task :=
  { holds }

end LockSystem

end GraphAgent.PathLocks
