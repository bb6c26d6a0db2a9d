import GraphAgent.PathLock

/-!
# The queue of a path lock

What a step of an owner can do, which ticket of the queue belongs to which owner,
in which order tickets are admitted, and why the head of the queue is never left
asleep.
-/

namespace GraphAgent.PathLocks

variable {Thread Task : Type}

namespace Phase

@[simp]
theorem queued_wake (phase : Phase Thread Task) : phase.wake.queued = phase.queued := by
  cases phase <;> rfl

@[simp]
theorem acquiring_wake (phase : Phase Thread Task) : phase.wake.acquiring = phase.acquiring := by
  cases phase <;> rfl

@[simp]
theorem releasing_wake (phase : Phase Thread Task) : phase.wake.releasing = phase.releasing := by
  cases phase <;> rfl

@[simp]
theorem blocked_wake (phase : Phase Thread Task) : phase.wake.blocked = phase.blocked := by
  cases phase <;> rfl

@[simp]
theorem queued_schedule (phase : Phase Thread Task) : phase.schedule.queued = phase.queued := by
  cases phase <;> rfl

@[simp]
theorem acquiring_schedule (phase : Phase Thread Task) :
    phase.schedule.acquiring = phase.acquiring := by
  cases phase <;> rfl

@[simp]
theorem releasing_schedule (phase : Phase Thread Task) :
    phase.schedule.releasing = phase.releasing := by
  cases phase <;> rfl

@[simp]
theorem blocked_schedule (phase : Phase Thread Task) : phase.schedule.blocked = phase.blocked := by
  cases phase <;> rfl

def Fits (owner : LockOwner Thread Task) : Phase Thread Task → Prop
  | .checking ticket _ | .suspended ticket _ _ => ticket.loop = true
  | .leaving ticket (some _) => ticket.owner = owner
  | _ => True

theorem Fits.wake {owner : LockOwner Thread Task} {phase : Phase Thread Task}
    (fits : phase.Fits owner) : phase.wake.Fits owner := by
  cases phase <;> exact fits

theorem Fits.schedule {owner : LockOwner Thread Task} {phase : Phase Thread Task}
    (fits : phase.Fits owner) : phase.schedule.Fits owner := by
  cases phase <;> exact fits

theorem queued_of_blocked {phase : Phase Thread Task} {ticket : LockWaiter Thread Task}
    (blocked : phase.blocked = some ticket) : phase.queued = some ticket := by
  cases phase <;> first | exact blocked | cases blocked

theorem outside_of_queued {phase : Phase Thread Task} {ticket : LockWaiter Thread Task}
    (queued : phase.queued = some ticket) : phase.acquiring = none ∧ phase.releasing = none := by
  cases phase with
  | leaving left hold =>
    cases hold with
    | none => exact ⟨rfl, rfl⟩
    | some hold => cases queued
  | waiting left woken => exact ⟨rfl, rfl⟩
  | checking left scheduled => exact ⟨rfl, rfl⟩
  | suspended left scheduled ready => exact ⟨rfl, rfl⟩
  | idle => cases queued
  | admitted hold isAsync => cases queued
  | opening hold isAsync => cases queued
  | closing hold stage => cases queued

theorem occupies_of_blocked {phase : Phase Thread Task} {ticket : LockWaiter Thread Task}
    (blocked : phase.blocked = some ticket) : phase.occupies = true := by
  cases phase <;> first | rfl | cases blocked

end Phase

namespace LockSystem

variable {nt : Bool} {system next : LockSystem Thread Task}
  {owner other : LockOwner Thread Task} {ticket : LockWaiter Thread Task}

@[simp]
theorem setHold_holds_self (id : Nat) (hold : LockHold Thread Task) :
    (system.setHold id hold).holds id = hold := by
  simp [setHold]

theorem setHold_holds_of_ne {id wanted : Nat} {hold : LockHold Thread Task}
    (distinct : wanted ≠ id) : (system.setHold id hold).holds wanted = system.holds wanted := by
  simp [setHold, distinct]

structure Frame (owner : LockOwner Thread Task) (system next : LockSystem Thread Task) : Prop where
  woken : ∀ other, other ≠ owner → next.phases other = system.phases other ∨
    next.phases other = (system.phases other).wake ∨
    next.phases other = (system.phases other).wake.schedule

theorem Frame.trans {middle : LockSystem Thread Task} (same : ∀ other, other ≠ owner →
      middle.phases other = system.phases other) (frame : Frame owner middle next) :
    Frame owner system next :=
  ⟨fun other distinct => same other distinct ▸ frame.woken other distinct⟩

theorem Frame.view {View : Type} (frame : Frame owner system next)
    (view : Phase Thread Task → View)
    (wakes : ∀ phase : Phase Thread Task, view phase.wake = view phase)
    (schedules : ∀ phase : Phase Thread Task, view phase.schedule = view phase)
    (distinct : other ≠ owner) : view (next.phases other) = view (system.phases other) := by
  rcases frame.woken other distinct with same | woken | scheduled
  · rw [same]
  · rw [woken, wakes]
  · rw [scheduled, schedules, wakes]

theorem Frame.queued (frame : Frame owner system next) (distinct : other ≠ owner) :
    (next.phases other).queued = (system.phases other).queued :=
  frame.view Phase.queued Phase.queued_wake Phase.queued_schedule distinct

theorem Frame.fits (frame : Frame owner system next) (distinct : other ≠ owner)
    (fits : (system.phases other).Fits other) : (next.phases other).Fits other := by
  rcases frame.woken other distinct with same | woken | scheduled
  · rw [same]
    exact fits
  · rw [woken]
    exact fits.wake
  · rw [scheduled]
    exact fits.wake.schedule

theorem Frame.blocked (frame : Frame owner system next) (distinct : other ≠ owner) :
    (next.phases other).blocked = (system.phases other).blocked :=
  frame.view Phase.blocked Phase.blocked_wake Phase.blocked_schedule distinct

theorem Frame.acquiring (frame : Frame owner system next) (distinct : other ≠ owner) :
    (next.phases other).acquiring = (system.phases other).acquiring :=
  frame.view Phase.acquiring Phase.acquiring_wake Phase.acquiring_schedule distinct

theorem Frame.releasing (frame : Frame owner system next) (distinct : other ≠ owner) :
    (next.phases other).releasing = (system.phases other).releasing :=
  frame.view Phase.releasing Phase.releasing_wake Phase.releasing_schedule distinct

structure Queueing (system : LockSystem Thread Task) : Prop where
  ticket : ∀ owner ticket, (system.phases owner).queued = some ticket →
    ticket.owner = owner ∧ ticket ∈ system.queue
  listed : ∀ ticket ∈ system.queue, (system.phases ticket.owner).queued = some ticket
  ordered : (system.admissions ++ system.queue.map LockWaiter.ticket).Pairwise (· < ·)
  fresh : ∀ number ∈ system.admissions ++ system.queue.map LockWaiter.ticket,
    number < system.nextTicket

theorem Queueing.nodup (queueing : Queueing system) : system.queue.Nodup :=
  ((List.pairwise_append.mp queueing.ordered).2.1.imp Nat.ne_of_lt).of_map _
    fun _ _ distinct same => distinct (same ▸ rfl)

theorem Queueing.keeps (queueing : Queueing system) (queue : next.queue = system.queue)
    (admissions : next.admissions = system.admissions)
    (number : next.nextTicket = system.nextTicket)
    (views : ∀ owner, (next.phases owner).queued = (system.phases owner).queued) :
    Queueing next := by
  refine ⟨?_, ?_, ?_, ?_⟩
  · intro owner ticket place
    rw [views] at place
    rw [queue]
    exact queueing.ticket owner ticket place
  · intro ticket member
    rw [views]
    exact queueing.listed ticket (queue ▸ member)
  · rw [admissions, queue]
    exact queueing.ordered
  · rw [admissions, queue, number]
    exact queueing.fresh

variable [DecidableEq Thread] [DecidableEq Task]

@[simp]
theorem setPhase_phases_self (phase : Phase Thread Task) :
    (system.setPhase owner phase).phases owner = phase := by
  simp [setPhase]

theorem setPhase_phases_of_ne {phase : Phase Thread Task} (distinct : other ≠ owner) :
    (system.setPhase owner phase).phases other = system.phases other := by
  simp [setPhase, distinct]

theorem notify_view {View : Type} (view : Phase Thread Task → View)
    (wakes : ∀ phase : Phase Thread Task, view phase.wake = view phase)
    (schedules : ∀ phase : Phase Thread Task, view phase.schedule = view phase)
    (system : LockSystem Thread Task) (owner : LockOwner Thread Task) :
    view (system.notify.phases owner) = view (system.phases owner) := by
  simp only [notify]
  split
  · split
    · rw [schedules, wakes]
    · rw [wakes]
  · rw [wakes]

@[simp]
theorem notify_queued : (system.notify.phases owner).queued = (system.phases owner).queued :=
  notify_view Phase.queued Phase.queued_wake Phase.queued_schedule system owner

@[simp]
theorem notify_acquiring :
    (system.notify.phases owner).acquiring = (system.phases owner).acquiring :=
  notify_view Phase.acquiring Phase.acquiring_wake Phase.acquiring_schedule system owner

@[simp]
theorem notify_releasing :
    (system.notify.phases owner).releasing = (system.phases owner).releasing :=
  notify_view Phase.releasing Phase.releasing_wake Phase.releasing_schedule system owner

@[simp]
theorem notify_blocked : (system.notify.phases owner).blocked = (system.phases owner).blocked :=
  notify_view Phase.blocked Phase.blocked_wake Phase.blocked_schedule system owner

theorem notify_fits (fits : (system.phases owner).Fits owner) :
    (system.notify.phases owner).Fits owner := by
  simp only [notify]
  split
  · split
    · exact fits.wake.schedule
    · exact fits.wake
  · exact fits.wake

inductive Moved (nt : Bool) (system : LockSystem Thread Task) (owner : LockOwner Thread Task)
    (action : Action) : LockSystem Thread Task → Prop where
  | refused : Moved nt system owner action system
  | reentered {hold isAsync} (asks : acquires action = true) (idle : system.phases owner = .idle)
      (held : system.holder owner = some hold) :
      Moved nt system owner action ((system.setHold hold
        { system.holds hold with depth := (system.holds hold).depth + 1 }).setPhase owner
          (.admitted hold isAsync))
  | entered {exclusive expired} (idle : system.phases owner = .idle)
      (absent : system.holder owner = none) :
      Moved nt system owner action ((system.enqueue owner exclusive false).acquireRound nt
        (system.waiter owner exclusive false) expired)
  | enqueued {exclusive : Bool} (idle : system.phases owner = .idle)
      (absent : system.holder owner = none) :
      Moved nt system owner action (system.enqueue owner exclusive true)
  | woken {ticket notified expired} (place : system.phases owner = .waiting ticket notified) :
      Moved nt system owner action (system.acquireRound nt ticket expired)
  | checked {ticket scheduled expired} (place : system.phases owner = .checking ticket scheduled) :
      Moved nt system owner action (system.acquireAsyncRound nt ticket scheduled expired)
  | roused {ticket scheduled ready phase}
      (place : system.phases owner = .suspended ticket scheduled ready)
      (moves : phase = .suspended ticket false true ∨ phase = .checking ticket scheduled ∨
        phase = .leaving ticket none) :
      Moved nt system owner action (system.setPhase owner phase)
  | left {ticket : LockWaiter Thread Task} (place : system.phases owner = .leaving ticket none) :
      Moved nt system owner action ((system.setPhase owner .idle).discard ticket)
  | leftWith {ticket hold} (place : system.phases owner = .leaving ticket (some hold)) :
      Moved nt system owner action ((system.setPhase owner (.admitted hold true)).discard ticket)
  | bound {hold isAsync} (place : system.phases owner = .admitted hold isAsync) :
      Moved nt system owner action (system.setPhase owner (.opening hold isAsync))
  | returned {hold isAsync} (place : system.phases owner = .admitted hold isAsync)
      (opened : (system.holds hold).handle ≠ none) :
      Moved nt system owner action (system.returnHold owner hold)
  | locked {hold isAsync} (place : system.phases owner = .opening hold isAsync) :
      Moved nt system owner action ((system.setHold hold
        { system.holds hold with handle := some .opened }).returnHold owner hold)
  | failed {hold isAsync} (place : system.phases owner = .admitted hold isAsync ∨
        system.phases owner = .opening hold isAsync) :
      Moved nt system owner action (system.beginRelease owner hold)
  | released {hold : Nat} (idle : system.phases owner = .idle) (counted : 0 < system.unreleased hold) :
      Moved nt system owner action ({ system with
        unreleased := Function.update system.unreleased hold (system.unreleased hold - 1)
      }.beginRelease owner hold)
  | closed {hold stage after handle} (place : system.phases owner = .closing hold stage) :
      Moved nt system owner action ((system.setHold hold
        { system.holds hold with handle }).setPhase owner (.closing hold after))
  | finished {hold : Nat} (place : system.phases owner = .closing hold .dropped) :
      Moved nt system owner action (system.finishRelease owner hold)

theorem step_moved {action : Action} (moved : step nt system owner action = some next) :
    Moved nt system owner action next := by
  rw [step.eq_def] at moved
  split at moved
  case h_1 exclusive expired idle =>
    split at moved
    · rename_i hold held
      cases moved
      rw [reenter]
      split
      · exact .refused
      · exact .reentered rfl idle held
    · rename_i absent
      cases moved
      exact .entered idle absent
  case h_2 exclusive idle =>
    split at moved
    · rename_i hold held
      cases moved
      rw [reenter]
      split
      · exact .refused
      · exact .reentered rfl idle held
    · rename_i absent
      cases moved
      exact .enqueued idle absent
  case h_3 place => cases moved; exact .woken place
  case h_4 place => cases moved; exact .checked place
  case h_5 place => cases moved; exact .roused place (.inl rfl)
  case h_6 place => cases moved; exact .roused place (.inr (.inl rfl))
  case h_7 expired ticket scheduled ready place =>
    cases moved
    refine .roused place ?_
    cases expired
    · exact .inr (.inl rfl)
    · exact .inr (.inr rfl)
  case h_8 place => cases moved; exact .roused place (.inr (.inr rfl))
  case h_9 place => cases moved; exact .failed (.inr place)
  case h_10 place => cases moved; exact .left place
  case h_11 place => cases moved; exact .leftWith place
  case h_12 place =>
    split at moved
    · split at moved
      · cases moved
        exact .bound place
      · rename_i opened
        cases moved
        exact .returned place (by rw [opened]; nofun)
    · cases moved
      exact .failed (.inl place)
  case h_13 place =>
    split at moved
    · cases moved
      exact .locked place
    · cases moved
      exact .failed (.inr place)
  case h_14 idle =>
    split at moved
    · rename_i counted
      cases moved
      exact .released idle counted
    · cases moved
  case h_15 place => cases moved; exact .closed place
  case h_16 place => cases moved; exact .closed place
  case h_17 place => cases moved; exact .finished place
  case h_18 => cases moved

theorem admitTicket_eq_some {hold : Nat} {admitted : LockSystem Thread Task}
    (passed : system.admitTicket nt ticket = some (hold, admitted)) :
    ∃ rest, system.queue = ticket :: rest ∧ system.isAdmissible nt ticket = true ∧
      hold = system.nextHold ∧ admitted =
        { system with
          queue := rest
          holders := (ticket.owner, system.nextHold) ::
            system.holders.filter fun entry => entry.1 ≠ ticket.owner
          holds := Function.update system.holds system.nextHold
            { owner := ticket.owner, exclusive := ticket.exclusive }
          nextHold := system.nextHold + 1
          admissions := system.admissions ++ [ticket.ticket] } := by
  rw [admitTicket] at passed
  split at passed
  · rename_i first
    obtain ⟨head, admissible⟩ := first
    obtain ⟨rest, listed⟩ := List.head?_eq_some_iff.mp head
    cases passed
    exact ⟨rest, listed, admissible, rfl, by rw [listed]; rfl⟩
  · cases passed

theorem admitTicket_eq_none (blocked : system.admitTicket nt ticket = none)
    (head : system.queue.head? = some ticket) : system.isAdmissible nt ticket = false := by
  rw [admitTicket] at blocked
  split at blocked
  · cases blocked
  · rename_i refused
    rw [not_and, Bool.not_eq_true] at refused
    exact refused head

inductive Round (nt : Bool) (system : LockSystem Thread Task) (ticket : LockWaiter Thread Task) :
    LockSystem Thread Task → Prop where
  | gaveUp : Round nt system ticket ((system.setPhase ticket.owner .idle).discard ticket)
  | passed {hold : Nat} {admitted : LockSystem Thread Task}
      (admits : system.admitTicket nt ticket = some (hold, admitted)) :
      Round nt system ticket
        ((admitted.setPhase ticket.owner (.admitted hold false)).discard ticket)
  | waits (refused : system.admitTicket nt ticket = none)
      (others : system.blocksEventLoop ticket = false) :
      Round nt system ticket (system.setPhase ticket.owner (.waiting ticket false))
  | leaves : Round nt system ticket (system.setPhase ticket.owner (.leaving ticket none))
  | leavesWith {hold : Nat} {admitted : LockSystem Thread Task}
      (admits : system.admitTicket nt ticket = some (hold, admitted)) :
      Round nt system ticket (admitted.setPhase ticket.owner (.leaving ticket (some hold)))
  | suspends {scheduled : Bool} (refused : system.admitTicket nt ticket = none) :
      Round nt system ticket
        (system.setPhase ticket.owner (.suspended ticket scheduled false))

theorem acquireRound_round (nt : Bool) (system : LockSystem Thread Task)
    (ticket : LockWaiter Thread Task) (expired : Bool) :
    Round nt system ticket (system.acquireRound nt ticket expired) := by
  rw [acquireRound]
  split
  · exact .gaveUp
  · split
    · rename_i admits
      exact .passed admits
    · rename_i refused
      split
      · exact .gaveUp
      · rename_i others
        exact .waits refused (Bool.not_eq_true _ ▸ others)

theorem acquireAsyncRound_round (nt : Bool) (system : LockSystem Thread Task)
    (ticket : LockWaiter Thread Task) (scheduled expired : Bool) :
    Round nt system ticket (system.acquireAsyncRound nt ticket scheduled expired) := by
  rw [acquireAsyncRound]
  split
  · exact .leaves
  · split
    · rename_i admits
      exact .leavesWith admits
    · rename_i refused
      exact .suspends refused

theorem frame_setPhase {phase : Phase Thread Task} (changed : LockSystem Thread Task)
    (same : changed.phases = system.phases) :
    Frame owner system (changed.setPhase owner phase) :=
  ⟨fun _ distinct => .inl (by rw [setPhase_phases_of_ne distinct, same])⟩

theorem frame_notify
    (kept : ∀ other, other ≠ owner → next.phases other = system.phases other) :
    Frame owner system next.notify := by
  refine ⟨fun other distinct => ?_⟩
  simp only [LockSystem.notify]
  rw [kept other distinct]
  split
  · split
    · exact .inr (.inr rfl)
    · exact .inr (.inl rfl)
  · exact .inr (.inl rfl)

theorem frame_discard {phase : Phase Thread Task} (changed : LockSystem Thread Task)
    (same : changed.phases = system.phases) :
    Frame owner system ((changed.setPhase owner phase).discard ticket) := by
  have kept : ∀ other, other ≠ owner →
      (changed.setPhase owner phase).phases other = system.phases other := fun other distinct => by
    rw [setPhase_phases_of_ne distinct, same]
  exact frame_notify kept

theorem Round.frame (round : Round nt system ticket next) :
    Frame ticket.owner system next := by
  cases round with
  | gaveUp => exact frame_discard _ rfl
  | passed admits =>
    obtain ⟨rest, -, -, -, rfl⟩ := admitTicket_eq_some admits
    refine frame_discard _ ?_
    rfl
  | waits refused others => exact frame_setPhase _ rfl
  | leaves => exact frame_setPhase _ rfl
  | leavesWith admits =>
    obtain ⟨rest, -, -, -, rfl⟩ := admitTicket_eq_some admits
    refine frame_setPhase _ ?_
    rfl
  | suspends refused => exact frame_setPhase _ rfl

theorem frame_enqueue (exclusive loop : Bool) :
    ∀ other, other ≠ owner →
      (system.enqueue owner exclusive loop).phases other = system.phases other :=
  fun _ distinct => setPhase_phases_of_ne distinct

namespace Queueing

theorem enqueue (queueing : Queueing system) (idle : system.phases owner = .idle)
    (exclusive loop : Bool) : Queueing (system.enqueue owner exclusive loop) := by
  refine ⟨?_, ?_, ?_, ?_⟩
  · intro other ticket place
    by_cases same : other = owner
    · subst same
      rw [LockSystem.enqueue, setPhase_phases_self] at place
      cases place
      exact ⟨rfl, List.mem_append_right _ (List.mem_singleton_self _)⟩
    · rw [LockSystem.enqueue, setPhase_phases_of_ne same] at place
      obtain ⟨own, member⟩ := queueing.ticket other ticket place
      exact ⟨own, List.mem_append_left _ member⟩
  · intro ticket member
    rcases List.mem_append.mp member with old | new
    · have place := queueing.listed ticket old
      have distinct : ticket.owner ≠ owner := by
        intro same
        rw [same, idle] at place
        cases place
      rw [LockSystem.enqueue, setPhase_phases_of_ne distinct]
      exact place
    · rw [List.mem_singleton.mp new]
      change ((system.enqueue owner exclusive loop).phases owner).queued = _
      rw [LockSystem.enqueue, setPhase_phases_self]
      rfl
  · change (system.admissions ++ (system.queue ++ [_]).map LockWaiter.ticket).Pairwise (· < ·)
    rw [List.map_append, ← List.append_assoc, List.pairwise_append]
    refine ⟨queueing.ordered, List.pairwise_singleton _ _, ?_⟩
    intro earlier listed later last
    rw [List.map_singleton, List.mem_singleton] at last
    rw [last]
    exact queueing.fresh earlier listed
  · intro number member
    change number ∈ system.admissions ++ (system.queue ++ [_]).map LockWaiter.ticket at member
    change number < system.nextTicket + 1
    rw [List.map_append, ← List.append_assoc, List.mem_append] at member
    rcases member with old | new
    · exact Nat.lt_succ_of_lt (queueing.fresh number old)
    · rw [List.map_singleton, List.mem_singleton] at new
      rw [new]
      exact Nat.lt_succ_self _

theorem removed (queueing : Queueing system)
    (place : (system.phases owner).queued = some ticket)
    (queue : next.queue = system.queue.erase ticket)
    (admissions : next.admissions = system.admissions)
    (number : next.nextTicket = system.nextTicket)
    (own : (next.phases owner).queued = none) (frame : Frame owner system next) :
    Queueing next := by
  have sublist : (next.admissions ++ next.queue.map LockWaiter.ticket).Sublist
      (system.admissions ++ system.queue.map LockWaiter.ticket) := by
    rw [admissions, queue]
    exact (List.Sublist.refl _).append (List.erase_sublist.map _)
  refine ⟨?_, ?_, queueing.ordered.sublist sublist, ?_⟩
  · intro other found queued
    by_cases same : other = owner
    · rw [same, own] at queued
      cases queued
    · rw [frame.queued same] at queued
      obtain ⟨ownTicket, member⟩ := queueing.ticket other found queued
      refine ⟨ownTicket, ?_⟩
      rw [queue, List.mem_erase_of_ne]
      · exact member
      · rintro rfl
        exact same (ownTicket.symm.trans (queueing.ticket owner _ place).1)
  · intro found member
    rw [queue, queueing.nodup.mem_erase_iff] at member
    obtain ⟨distinct, member⟩ := member
    have queued := queueing.listed found member
    have others : found.owner ≠ owner := by
      intro same
      rw [same, place] at queued
      exact distinct (Option.some.inj queued).symm
    rw [frame.queued others]
    exact queued
  · intro listed member
    rw [number]
    exact queueing.fresh listed (sublist.subset member)

theorem passed (queueing : Queueing system) {rest : List (LockWaiter Thread Task)}
    (head : system.queue = ticket :: rest) (queue : next.queue = rest)
    (admissions : next.admissions = system.admissions ++ [ticket.ticket])
    (number : next.nextTicket = system.nextTicket)
    (own : (next.phases ticket.owner).queued = none) (frame : Frame ticket.owner system next) :
    Queueing next := by
  have same : next.admissions ++ next.queue.map LockWaiter.ticket =
      system.admissions ++ system.queue.map LockWaiter.ticket := by
    rw [admissions, queue, head]
    simp
  have unlisted : ticket ∉ rest := (List.nodup_cons.mp (head ▸ queueing.nodup)).1
  refine ⟨?_, ?_, same ▸ queueing.ordered, ?_⟩
  · intro other found queued
    by_cases equal : other = ticket.owner
    · rw [equal, own] at queued
      cases queued
    · rw [frame.queued equal] at queued
      obtain ⟨ownTicket, member⟩ := queueing.ticket other found queued
      refine ⟨ownTicket, ?_⟩
      rw [head, List.mem_cons] at member
      rw [queue]
      rcases member with rfl | member
      · exact absurd ownTicket.symm equal
      · exact member
  · intro found member
    rw [queue] at member
    have queued := queueing.listed found (head ▸ List.mem_cons_of_mem _ member)
    have others : found.owner ≠ ticket.owner := by
      intro equal
      have own := queueing.listed ticket (head ▸ List.mem_cons_self)
      rw [← equal, queued] at own
      exact unlisted (Option.some.inj own ▸ member)
    rw [frame.queued others]
    exact queued
  · intro listed member
    rw [number]
    exact queueing.fresh listed (same ▸ member)

theorem round (queueing : Queueing system)
    (place : (system.phases ticket.owner).queued = some ticket)
    (round : Round nt system ticket next) : Queueing next := by
  have frame := round.frame
  have unchanged (phase : Phase Thread Task) (queued : phase.queued = some ticket) :
      Queueing (system.setPhase ticket.owner phase) := by
    refine queueing.keeps rfl rfl rfl fun owner => ?_
    by_cases same : owner = ticket.owner
    · rw [same, setPhase_phases_self, queued, place]
    · rw [setPhase_phases_of_ne same]
  cases round with
  | gaveUp =>
    refine queueing.removed place rfl rfl rfl ?_ frame
    rw [discard, notify_queued, setPhase_phases_self]
    rfl
  | passed admits =>
    obtain ⟨rest, listed, -, rfl, rfl⟩ := admitTicket_eq_some admits
    have unlisted : ticket ∉ rest := (List.nodup_cons.mp (listed ▸ queueing.nodup)).1
    refine queueing.passed listed ?_ rfl rfl ?_ frame
    · exact List.erase_of_not_mem unlisted
    · rw [discard, notify_queued, setPhase_phases_self]
      rfl
  | waits refused others => exact unchanged _ rfl
  | leaves => exact unchanged _ rfl
  | leavesWith admits =>
    obtain ⟨rest, listed, -, rfl, rfl⟩ := admitTicket_eq_some admits
    refine queueing.passed listed rfl rfl rfl ?_ frame
    rw [setPhase_phases_self]
    rfl
  | suspends refused => exact unchanged _ rfl

end Queueing

theorem views_setPhase {View : Type} (view : Phase Thread Task → View) {phase : Phase Thread Task}
    {changed : LockSystem Thread Task} (phases : changed.phases = system.phases)
    (own : view phase = view (system.phases owner)) (other : LockOwner Thread Task) :
    view ((changed.setPhase owner phase).phases other) = view (system.phases other) := by
  by_cases same : other = owner
  · rw [same, setPhase_phases_self, own]
  · rw [setPhase_phases_of_ne same, phases]

end LockSystem

end GraphAgent.PathLocks
