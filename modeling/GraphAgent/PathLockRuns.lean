import GraphAgent.PathLockHolds
import Mathlib.Data.Fintype.Option
import Mathlib.Data.Fintype.Prod

/-!
# Runs of a path lock

What holds in every state of a run in which no owner enters a hold again whose
last release has begun, and a run in which one does: its hold is returned while
it is being removed, and another owner gets the path as well.
-/

namespace GraphAgent.PathLocks

variable {Thread Task : Type}

namespace LockSystem

variable {nt : Bool} {system last : LockSystem Thread Task} {owner : LockOwner Thread Task}
  [DecidableEq Thread] [DecidableEq Task]

structure Guarantees (nt : Bool) (system : LockSystem Thread Task) : Prop where
  exclusive : ∀ entry ∈ system.holders, (system.holds entry.2).exclusive = true →
    system.holders = [entry]
  alone : ∀ first second, 0 < system.unreleased first → 0 < system.unreleased second →
    (system.holds first).exclusive = true → first = second
  returned : ∀ hold, 0 < system.unreleased hold →
    system.holder (system.holds hold).owner = some hold ∧
      (system.holds hold).depth = system.acquisitions (system.holds hold).owner hold ∧
      (system.holds hold).handle = some .opened
  /-- Tickets are admitted in the order in which they came. -/
  fair : (system.admissions ++ system.queue.map LockWaiter.ticket).Pairwise (· < ·)
  awake : Awake nt system
  /-- An owner without an acquisition in progress has no ticket, and its hold has
  acquisitions that were returned, unless it is being closed. -/
  idle : ∀ owner, system.phases owner = .idle → (∀ ticket ∈ system.queue, ticket.owner ≠ owner) ∧
    ∀ hold, (owner, hold) ∈ system.holders → 0 < system.unreleased hold ∨
      ∃ releaser, (system.phases releaser).releasing = some hold
  ownThread : OwnThreadFree system

/-- The invariant of a run. -/
structure Sound (nt : Bool) (system : LockSystem Thread Task) : Prop where
  queueing : Queueing system
  fitting : Fitting system
  awake : Awake nt system
  ownThread : OwnThreadFree system
  holding : Holding nt system

theorem Sound.guarantees (sound : Sound nt system) : Guarantees nt system := by
  have holding := sound.holding
  refine ⟨fun entry member exclusive => holding.alone entry member (.inl exclusive), ?_, ?_,
    sound.queueing.ordered, sound.awake, ?_, sound.ownThread⟩
  · intro first second firstCounted secondCounted exclusive
    obtain ⟨firstMember, -⟩ := holding.returned first firstCounted
    obtain ⟨secondMember, -⟩ := holding.returned second secondCounted
    rw [holding.alone _ firstMember (.inl exclusive), List.mem_singleton] at secondMember
    exact (congrArg Prod.snd secondMember).symm
  · intro hold counted
    obtain ⟨member, opened⟩ := holding.returned hold counted
    refine ⟨?_, holding.depth _ member, opened⟩
    cases found : system.holder (system.holds hold).owner with
    | none => exact absurd rfl (holder_eq_none found _ member)
    | some other =>
      exact congrArg (some ∘ Prod.snd)
        (holding.eq_of_owner (holder_eq_some found) member rfl)
  · intro owner idle
    constructor
    · intro ticket member same
      have queued := sound.queueing.listed ticket member
      rw [same, idle] at queued
      cases queued
    · intro hold member
      have depth := holding.depth _ member
      rw [acquisitions, idle, if_neg fun other => by cases other] at depth
      dsimp only at depth
      by_cases empty : (system.holds hold).depth = 0
      · exact .inr (holding.closing _ member empty)
      · exact .inl (by omega)

def reentersClosing (system : LockSystem Thread Task) (owner : LockOwner Thread Task)
    (action : Action) : Bool :=
  acquires action && (system.holder owner).any fun hold => (system.holds hold).depth = 0

def neverReentersClosing (nt : Bool) :
    LockSystem Thread Task → List (LockOwner Thread Task × Action) → Bool
  | _, [] => true
  | system, (owner, action) :: rest =>
    !system.reentersClosing owner action &&
      (step nt system owner action).all fun next => neverReentersClosing nt next rest

theorem Sound.step {next : LockSystem Thread Task} {action : Action} (sound : Sound nt system)
    (free : IsFree system owner) (moved : step nt system owner action = some next)
    (deep : system.reentersClosing owner action = false) : Sound nt next := by
  have moves := step_moved moved
  refine ⟨sound.queueing.moved sound.fitting moves, sound.fitting.moved sound.queueing moves,
    sound.awake.moved sound.queueing sound.fitting moves,
    sound.ownThread.moved sound.queueing free moves, sound.holding.moved sound.queueing moves ?_⟩
  intro asks hold held
  rw [reentersClosing, asks, held, Bool.true_and] at deep
  simpa using deep

omit [DecidableEq Thread] [DecidableEq Task] in
theorem sound_initial (holds : Nat → LockHold Thread Task) : Sound nt (initial holds) where
  queueing := ⟨nofun, nofun, .nil, nofun⟩
  fitting := fun _ => trivial
  awake := nofun
  ownThread := nofun
  holding := ⟨.nil, nofun, nofun, nofun, nofun, nofun, nofun, nofun, nofun, nofun⟩

theorem Sound.run {trace : List (LockOwner Thread Task × Action)} (sound : Sound nt system)
    (ran : Run nt system trace last) (deep : neverReentersClosing nt system trace = true) :
    Sound nt last := by
  induction ran with
  | nil => exact sound
  | cons free moved rest ih =>
    rw [neverReentersClosing, moved, Bool.and_eq_true, Bool.not_eq_true'] at deep
    exact ih (sound.step free moved deep.1) deep.2

/-- In every run that never enters a closing hold again, every state has the guarantees. -/
theorem run_guarantees (nt : Bool) (holds : Nat → LockHold Thread Task)
    (trace : List (LockOwner Thread Task × Action)) (last : LockSystem Thread Task)
    (ran : Run nt (initial holds) trace last)
    (deep : neverReentersClosing nt (initial holds) trace = true) : Guarantees nt last :=
  ((sound_initial holds).run ran deep).guarantees

instance [Fintype Thread] [Fintype Task] (system : LockSystem Thread Task)
    (owner : LockOwner Thread Task) : Decidable (IsFree system owner) :=
  inferInstanceAs (Decidable (∀ other, other ≠ owner → other.1 = owner.1 →
    (system.phases other).occupies = false))

def replay [Fintype Thread] [Fintype Task] (nt : Bool) :
    LockSystem Thread Task → List (LockOwner Thread Task × Action) →
      Option (LockSystem Thread Task)
  | system, [] => some system
  | system, (owner, action) :: rest =>
    if IsFree system owner then
      (step nt system owner action).bind fun next => replay nt next rest
    else
      none

theorem run_of_replay [Fintype Thread] [Fintype Task]
    {trace : List (LockOwner Thread Task × Action)} (replayed : replay nt system trace = some last) :
    Run nt system trace last := by
  induction trace generalizing system with
  | nil =>
    cases replayed
    exact .nil
  | cons move rest ih =>
    rw [replay] at replayed
    split at replayed
    · rename_i free
      obtain ⟨next, moved, replayed⟩ := Option.bind_eq_some_iff.mp replayed
      exact .cons free moved (ih replayed)
    · cases replayed

namespace Sample

def first : LockOwner Bool Unit := (false, none)

def second : LockOwner Bool Unit := (true, none)

def task : LockOwner Bool Unit := (true, some ())

def empty : LockSystem Bool Unit :=
  initial fun _ => { owner := first, exclusive := false }

/-- A thread takes the path, a task waits for it and gets it. -/
def handOver : List (LockOwner Bool Unit × Action) :=
  [(first, .acquire true false), (first, .bind true), (first, .lockFile true),
    (task, .acquireAsync true), (task, .check false), (first, .acquire true false),
    (first, .bind true), (first, .release 0), (first, .release 0), (first, .closeHandle),
    (first, .dropHandle), (first, .finish), (task, .deliver), (task, .resume),
    (task, .check false), (task, .leave), (task, .bind true), (task, .lockFile true)]

def reentry : List (LockOwner Bool Unit × Action) :=
  [(first, .acquire true false), (first, .bind true), (first, .lockFile true),
    (second, .release 0), (second, .closeHandle), (first, .acquire true false),
    (first, .bind true), (second, .dropHandle), (second, .finish),
    (second, .acquire true false), (second, .bind true), (second, .lockFile true)]

end Sample

theorem run_guarantees_handOver :
    ∃ last, Run false Sample.empty Sample.handOver last ∧ Guarantees false last := by
  have arrives : (replay false Sample.empty Sample.handOver).isSome = true := by decide +kernel
  obtain ⟨last, replayed⟩ := Option.isSome_iff_exists.mp arrives
  have ran := run_of_replay replayed
  exact ⟨last, ran, run_guarantees false _ Sample.handOver last ran (by decide +kernel)⟩

/-- The owner that enters a closing hold again loses its registration, and two
owners have the path for themselves. -/
theorem reentry_loses_hold :
    ∃ last, Run false Sample.empty Sample.reentry last ∧ 0 < last.unreleased 0 ∧
      last.holder Sample.first = none ∧ (last.holds 0).handle = none ∧
      0 < last.unreleased 1 ∧ (last.holds 0).exclusive = true ∧ ¬ Guarantees false last := by
  have arrives : (replay false Sample.empty Sample.reentry).any (fun last =>
      0 < last.unreleased 0 && (last.holder Sample.first).isNone &&
        (last.holds 0).handle.isNone && 0 < last.unreleased 1 && (last.holds 0).exclusive) =
        true := by
    decide +kernel
  obtain ⟨last, replayed, facts⟩ := (Option.any_eq_true _ _).mp arrives
  simp only [Bool.and_eq_true, decide_eq_true_eq, Option.isNone_iff_eq_none] at facts
  obtain ⟨⟨⟨⟨counted, missing⟩, closed⟩, other⟩, exclusive⟩ := facts
  refine ⟨last, run_of_replay replayed, counted, missing, closed, other, exclusive, ?_⟩
  intro guarantees
  cases guarantees.alone 0 1 counted other exclusive

end LockSystem

end GraphAgent.PathLocks
