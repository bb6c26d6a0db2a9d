import GraphAgent.PathLockQueue

/-!
# The steps of the queue

Every step keeps the tickets in order.  When the head of the queue may pass, its
owner runs, is being woken, or another owner is about to wake it.  A thread that
waits in a task waits for no owner of its own.
-/

namespace GraphAgent.PathLocks

variable {Thread Task : Type}

namespace LockSystem

def Fitting (system : LockSystem Thread Task) : Prop :=
  ∀ owner, (system.phases owner).Fits owner

variable {nt : Bool} {system next : LockSystem Thread Task}
  {owner other : LockOwner Thread Task} {ticket : LockWaiter Thread Task} {hold : Nat} {action : Action}

def Awake (nt : Bool) (system : LockSystem Thread Task) : Prop :=
  ∀ head, system.queue.head? = some head → system.isAdmissible nt head = true →
    (system.phases head.owner).isAwake = true ∨
      ∃ owner, (system.phases owner).isLeaving = true

def OwnThreadFree (system : LockSystem Thread Task) : Prop :=
  ∀ owner ticket, (system.phases owner).blocked = some ticket → owner.2.isSome = true →
    (∀ entry ∈ system.holders, entry.1.1 ≠ owner.1) ∧
    ∀ earlier ∈ system.queue, earlier.ticket < ticket.ticket → earlier.owner.1 ≠ owner.1

theorem Queueing.not_head (queueing : Queueing system)
    (place : (system.phases owner).queued = none) {head : LockWaiter Thread Task}
    (first : system.queue.head? = some head) (same : head.owner = owner) : False := by
  have queued := queueing.listed head (List.mem_of_head? first)
  rw [same, place] at queued
  cases queued

theorem isAdmissible_setHold {changed : LockHold Thread Task}
    (same : changed.exclusive = (system.holds hold).exclusive) (ticket : LockWaiter Thread Task) :
    (system.setHold hold changed).isAdmissible nt ticket = system.isAdmissible nt ticket := by
  have exclusive (id : Nat) :
      ((system.setHold hold changed).holds id).exclusive = (system.holds id).exclusive := by
    by_cases equal : id = hold
    · rw [equal, setHold_holds_self, same]
    · rw [setHold_holds_of_ne equal]
  simp only [isAdmissible, exclusive]
  rfl

theorem OwnThreadFree.keeps (free : OwnThreadFree system) (queueing : Queueing system)
    (alone : IsFree system owner) (frame : Frame owner system next)
    (holders : ∀ entry ∈ next.holders, entry.1 = owner ∨ entry ∈ system.holders)
    (queue : ∀ waiter ∈ next.queue, waiter ∈ system.queue ∨ system.nextTicket ≤ waiter.ticket)
    (own : (next.phases owner).blocked = none) : OwnThreadFree next := by
  intro other ticket blocked inTask
  have distinct : other ≠ owner := by
    rintro rfl
    rw [own] at blocked
    cases blocked
  rw [frame.blocked distinct] at blocked
  obtain ⟨noHolder, noEarlier⟩ := free other ticket blocked inTask
  constructor
  · intro entry member
    rcases holders entry member with new | old
    · rw [new]
      intro sameThread
      have occupied := alone other distinct sameThread.symm
      rw [Phase.occupies_of_blocked blocked] at occupied
      cases occupied
    · exact noHolder entry old
  · intro earlier member before
    have listed := (queueing.ticket other ticket (Phase.queued_of_blocked blocked)).2
    have bounded := queueing.fresh ticket.ticket
      (List.mem_append_right _ (List.mem_map_of_mem listed))
    rcases queue earlier member with old | new
    · exact noEarlier earlier old before
    · exact absurd (Nat.lt_trans before bounded) (Nat.not_lt.mpr new)

variable [DecidableEq Thread] [DecidableEq Task]

theorem Moved.frame (queueing : Queueing system)
    (moved : Moved nt system owner action next) : Frame owner system next := by
  have ownTicket {ticket : LockWaiter Thread Task}
      (place : (system.phases owner).queued = some ticket) : ticket.owner = owner :=
    (queueing.ticket owner ticket place).1
  cases moved with
  | refused => exact ⟨fun _ _ => .inl rfl⟩
  | reentered asks idle held => exact frame_setPhase _ rfl
  | @entered exclusive expired idle absent =>
    have frame := (acquireRound_round nt (system.enqueue owner exclusive false)
      (system.waiter owner exclusive false) expired).frame
    exact .trans (frame_enqueue exclusive false) frame
  | enqueued idle absent => exact ⟨fun other distinct => .inl (frame_enqueue _ _ other distinct)⟩
  | woken place =>
    have own := ownTicket (congrArg Phase.queued place)
    exact own ▸ (acquireRound_round nt _ _ _).frame
  | checked place =>
    have own := ownTicket (congrArg Phase.queued place)
    exact own ▸ (acquireAsyncRound_round nt _ _ _ _).frame
  | roused place moves => exact frame_setPhase _ rfl
  | left place => exact frame_discard _ rfl
  | leftWith place => exact frame_discard _ rfl
  | bound place => exact frame_setPhase _ rfl
  | returned place opened => exact frame_setPhase _ rfl
  | locked place => exact frame_setPhase _ rfl
  | failed place => exact frame_setPhase _ rfl
  | released idle counted => exact frame_setPhase _ rfl
  | closed place => exact frame_setPhase _ rfl
  | finished place =>
    rw [finishRelease]
    split
    · exact frame_notify fun other distinct => setPhase_phases_of_ne distinct
    · exact frame_setPhase _ rfl

theorem Queueing.moved (queueing : Queueing system) (fitting : Fitting system)
    (moved : Moved nt system owner action next) :
    Queueing next := by
  have ownTicket {ticket : LockWaiter Thread Task}
      (place : (system.phases owner).queued = some ticket) : ticket.owner = owner :=
    (queueing.ticket owner ticket place).1
  cases moved with
  | refused => exact queueing
  | reentered asks idle held =>
    exact queueing.keeps rfl rfl rfl (views_setPhase Phase.queued rfl (by rw [idle]; rfl))
  | entered idle absent =>
    refine (queueing.enqueue idle _ false).round ?_ (acquireRound_round nt _ _ _)
    rw [LockSystem.enqueue, waiter, setPhase_phases_self]
    rfl
  | enqueued idle absent => exact queueing.enqueue idle _ true
  | woken place =>
    have queued := congrArg Phase.queued place
    refine queueing.round ?_ (acquireRound_round nt _ _ _)
    rw [ownTicket queued]
    exact queued
  | checked place =>
    have queued := congrArg Phase.queued place
    refine queueing.round ?_ (acquireAsyncRound_round nt _ _ _ _)
    rw [ownTicket queued]
    exact queued
  | roused place moves =>
    refine queueing.keeps rfl rfl rfl (views_setPhase Phase.queued rfl ?_)
    rw [place]
    rcases moves with rfl | rfl | rfl <;> rfl
  | left place =>
    refine queueing.removed (congrArg Phase.queued place) rfl rfl rfl ?_ (frame_discard _ rfl)
    rw [discard, notify_queued, setPhase_phases_self]
    rfl
  | @leftWith ticket hold place =>
    have unlisted : ticket ∉ system.queue := by
      intro member
      have own : ticket.owner = owner := by
        have fits := fitting owner
        rwa [place] at fits
      have queued := queueing.listed ticket member
      rw [own, place] at queued
      cases queued
    refine queueing.keeps (List.erase_of_not_mem unlisted) rfl rfl fun other => ?_
    rw [discard, notify_queued]
    exact views_setPhase Phase.queued rfl (by rw [place]; rfl) other
  | bound place =>
    exact queueing.keeps rfl rfl rfl (views_setPhase Phase.queued rfl (by rw [place]; rfl))
  | returned place opened =>
    exact queueing.keeps rfl rfl rfl (views_setPhase Phase.queued rfl (by rw [place]; rfl))
  | locked place =>
    exact queueing.keeps rfl rfl rfl (views_setPhase Phase.queued rfl (by rw [place]; rfl))
  | failed place =>
    refine queueing.keeps rfl rfl rfl (views_setPhase Phase.queued rfl ?_)
    rcases place with place | place <;> rw [place] <;> split <;> rfl
  | released idle counted =>
    refine queueing.keeps rfl rfl rfl (views_setPhase Phase.queued rfl ?_)
    rw [idle]
    split <;> rfl
  | closed place =>
    exact queueing.keeps rfl rfl rfl (views_setPhase Phase.queued rfl (by rw [place]; rfl))
  | finished place =>
    rw [finishRelease]
    split
    · refine queueing.keeps rfl rfl rfl fun other => ?_
      rw [notify_queued]
      exact views_setPhase Phase.queued rfl (by rw [place]; rfl) other
    · exact queueing.keeps rfl rfl rfl (views_setPhase Phase.queued rfl (by rw [place]; rfl))

theorem Round.fits (round : Round nt system ticket next)
    (loop : ∀ scheduled, next.phases ticket.owner = .suspended ticket scheduled false →
      ticket.loop = true) : (next.phases ticket.owner).Fits ticket.owner := by
  cases round with
  | gaveUp =>
    refine notify_fits ?_
    change ((system.setPhase ticket.owner .idle).phases ticket.owner).Fits ticket.owner
    rw [setPhase_phases_self]
    trivial
  | @passed hold admitted admits =>
    refine notify_fits ?_
    change ((admitted.setPhase ticket.owner (.admitted hold false)).phases ticket.owner).Fits
      ticket.owner
    rw [setPhase_phases_self]
    trivial
  | waits refused others =>
    rw [setPhase_phases_self]
    trivial
  | leaves =>
    rw [setPhase_phases_self]
    trivial
  | leavesWith admits =>
    rw [setPhase_phases_self]
    rfl
  | suspends refused =>
    rw [setPhase_phases_self]
    exact loop _ (setPhase_phases_self _)

theorem acquireRound_ne_suspended {expired scheduled : Bool} :
    (system.acquireRound nt ticket expired).phases ticket.owner ≠
      .suspended ticket scheduled false := by
  have notified {changed : LockSystem Thread Task}
      (free : (changed.phases ticket.owner).queued = none) :
      (changed.discard ticket).phases ticket.owner ≠ .suspended ticket scheduled false := by
    intro place
    have queued := congrArg Phase.queued place
    rw [discard, notify_queued] at queued
    cases free.symm.trans queued
  rw [acquireRound]
  split
  · exact notified (by rw [setPhase_phases_self]; rfl)
  · split
    · exact notified (by rw [setPhase_phases_self]; rfl)
    · split
      · exact notified (by rw [setPhase_phases_self]; rfl)
      · rw [setPhase_phases_self]
        intro place
        cases place

theorem Fitting.moved (queueing : Queueing system) (fitting : Fitting system)
    (moved : Moved nt system owner action next) : Fitting next := by
  have frame := moved.frame queueing
  intro other
  by_cases same : other = owner
  · subst same
    have ownTicket {ticket : LockWaiter Thread Task}
        (place : (system.phases other).queued = some ticket) : ticket.owner = other :=
      (queueing.ticket other ticket place).1
    cases moved with
    | refused => exact fitting other
    | reentered asks idle held => rw [setPhase_phases_self]; trivial
    | @entered exclusive expired idle absent =>
      exact (acquireRound_round nt (system.enqueue other exclusive false)
        (system.waiter other exclusive false) expired).fits fun scheduled place =>
          absurd place acquireRound_ne_suspended
    | enqueued idle absent => rw [enqueue, setPhase_phases_self]; rfl
    | @woken ticket notified expired place =>
      have own := ownTicket (congrArg Phase.queued place)
      have fits := (acquireRound_round nt system ticket expired).fits fun scheduled place =>
        absurd place acquireRound_ne_suspended
      rwa [own] at fits
    | @checked ticket scheduled expired place =>
      have own := ownTicket (congrArg Phase.queued place)
      have loop : ticket.loop = true := by
        have fits := fitting other
        rwa [place] at fits
      have fits := (acquireAsyncRound_round nt system ticket scheduled expired).fits
        fun _ _ => loop
      rwa [own] at fits
    | roused place moves =>
      have fits := fitting other
      rw [place] at fits
      rw [setPhase_phases_self]
      rcases moves with rfl | rfl | rfl
      · exact fits
      · exact fits
      · trivial
    | left place =>
      refine notify_fits ?_
      change ((system.setPhase other .idle).phases other).Fits other
      rw [setPhase_phases_self]
      trivial
    | @leftWith ticket hold place =>
      refine notify_fits ?_
      change ((system.setPhase other (.admitted hold true)).phases other).Fits other
      rw [setPhase_phases_self]
      trivial
    | bound place => rw [setPhase_phases_self]; trivial
    | returned place opened => rw [returnHold, setPhase_phases_self]; trivial
    | locked place => rw [returnHold, setPhase_phases_self]; trivial
    | failed place => rw [beginRelease, setPhase_phases_self]; split <;> trivial
    | released idle counted => rw [beginRelease, setPhase_phases_self]; split <;> trivial
    | closed place => rw [setPhase_phases_self]; trivial
    | finished place =>
      have fits : ((system.setPhase other .idle).phases other).Fits other := by
        rw [setPhase_phases_self]
        trivial
      rw [finishRelease]
      split
      · exact notify_fits fits
      · exact fits
  · exact frame.fits same (fitting other)

theorem awake_notify (queueing : Queueing system.notify) (fitting : Fitting system.notify) :
    Awake nt system.notify := by
  intro head first _
  left
  have queued := queueing.listed head (List.mem_of_head? first)
  have fits := fitting head.owner
  rw [notify_queued] at queued
  simp only [notify] at first fits ⊢
  rw [first] at fits ⊢
  dsimp only at fits ⊢
  cases place : system.phases head.owner with
  | waiting ticket woken => split <;> rfl
  | checking ticket scheduled => split <;> rfl
  | suspended ticket scheduled ready =>
    rw [place] at queued fits
    cases queued
    have loop : head.loop = true := by
      split at fits <;> exact fits
    rw [if_pos ⟨loop, rfl⟩]
    rfl
  | leaving ticket hold => split <;> rfl
  | idle =>
    rw [place] at queued
    cases queued
  | admitted hold isAsync =>
    rw [place] at queued
    cases queued
  | opening hold isAsync =>
    rw [place] at queued
    cases queued
  | closing hold stage =>
    rw [place] at queued
    cases queued

theorem Awake.keeps (awake : Awake nt system) (queue : next.queue = system.queue)
    (admissible : ∀ ticket, next.isAdmissible nt ticket = system.isAdmissible nt ticket)
    (others : ∀ other, other ≠ owner → next.phases other = system.phases other)
    (own : ∀ head, system.queue.head? = some head → head.owner = owner →
      system.isAdmissible nt head = true → (next.phases owner).isAwake = true)
    (stays : (system.phases owner).isLeaving = true → (next.phases owner).isLeaving = true) :
    Awake nt next := by
  intro head first passes
  rw [queue] at first
  rw [admissible] at passes
  by_cases same : head.owner = owner
  · left
    rw [same]
    exact own head first same passes
  · rcases awake head first passes with running | ⟨leaver, leaves⟩
    · rw [others head.owner same]
      exact .inl running
    · right
      refine ⟨leaver, ?_⟩
      by_cases equal : leaver = owner
      · subst equal
        exact stays leaves
      · rw [others leaver equal]
        exact leaves

theorem Awake.outside (awake : Awake nt system) (queueing : Queueing system)
    (place : (system.phases owner).queued = none)
    (stays : (system.phases owner).isLeaving = false) {phase : Phase Thread Task}
    {changed : LockSystem Thread Task} (queue : changed.queue = system.queue)
    (admissible : ∀ ticket, changed.isAdmissible nt ticket = system.isAdmissible nt ticket)
    (phases : changed.phases = system.phases) : Awake nt (changed.setPhase owner phase) :=
  awake.keeps queue admissible
    (fun _ distinct => by rw [setPhase_phases_of_ne distinct, phases])
    (fun _ first same _ => (queueing.not_head place first same).elim)
    (fun leaves => by rw [stays] at leaves; cases leaves)

theorem Awake.enqueue (awake : Awake nt system)
    (idle : system.phases owner = .idle) (exclusive loop : Bool) :
    Awake nt (system.enqueue owner exclusive loop) := by
  intro head first passes
  by_cases same : head.owner = owner
  · left
    rw [same, LockSystem.enqueue, setPhase_phases_self]
    rfl
  · have old : system.queue.head? = some head := by
      change (system.queue ++ [_]).head? = some head at first
      cases listed : system.queue with
      | nil =>
        rw [listed] at first
        cases first
        exact absurd rfl same
      | cons earlier rest =>
        rw [listed] at first
        exact first
    rcases awake head old passes with running | ⟨leaver, leaves⟩
    · rw [frame_enqueue exclusive loop head.owner same]
      exact .inl running
    · right
      refine ⟨leaver, ?_⟩
      have distinct : leaver ≠ owner := by
        rintro rfl
        rw [idle] at leaves
        cases leaves
      rw [frame_enqueue exclusive loop leaver distinct]
      exact leaves

theorem Round.awake (round : Round nt system ticket next) (awake : Awake nt system)
    (before : Queueing system) (place : (system.phases ticket.owner).queued = some ticket)
    (stays : (system.phases ticket.owner).isLeaving = false) (queueing : Queueing next)
    (fitting : Fitting next) : Awake nt next := by
  -- A waiter that stays was not admitted, so it is not the head or may not pass.
  have asleep (phase : Phase Thread Task) (refused : system.admitTicket nt ticket = none) :
      Awake nt (system.setPhase ticket.owner phase) := by
    refine awake.keeps rfl (fun _ => rfl) (fun _ distinct => setPhase_phases_of_ne distinct) ?_
      fun leaves => by rw [stays] at leaves; cases leaves
    intro head first same passes
    have queued := before.listed head (List.mem_of_head? first)
    rw [same, place] at queued
    cases queued
    rw [admitTicket_eq_none refused first] at passes
    cases passes
  cases round with
  | gaveUp => exact awake_notify queueing fitting
  | passed admits => exact awake_notify queueing fitting
  | waits refused others => exact asleep _ refused
  | leaves => exact fun _ _ _ => .inr ⟨ticket.owner, by rw [setPhase_phases_self]; rfl⟩
  | leavesWith admits => exact fun _ _ _ => .inr ⟨ticket.owner, by rw [setPhase_phases_self]; rfl⟩
  | suspends refused => exact asleep _ refused

theorem Awake.moved (awake : Awake nt system) (queueing : Queueing system)
    (fitting : Fitting system) (moved : Moved nt system owner action next) : Awake nt next := by
  have after := queueing.moved fitting moved
  have fits := fitting.moved queueing moved
  cases moved with
  | refused => exact awake
  | reentered asks idle held =>
    exact awake.outside queueing (by rw [idle]; rfl) (by rw [idle]; rfl) rfl
      (isAdmissible_setHold rfl) rfl
  | @entered exclusive expired idle absent =>
    have place : (system.enqueue owner exclusive false).phases owner =
        .checking (system.waiter owner exclusive false) false := setPhase_phases_self _
    exact (acquireRound_round nt _ _ _).awake (awake.enqueue idle exclusive false)
      (queueing.enqueue idle exclusive false) (congrArg Phase.queued place)
      (congrArg Phase.isLeaving place) after fits
  | enqueued idle absent => exact awake.enqueue idle _ true
  | @woken ticket notified expired place =>
    obtain rfl := (queueing.ticket owner ticket (congrArg Phase.queued place)).1
    exact (acquireRound_round nt _ _ _).awake awake queueing (congrArg Phase.queued place)
      (congrArg Phase.isLeaving place) after fits
  | @checked ticket scheduled expired place =>
    obtain rfl := (queueing.ticket owner ticket (congrArg Phase.queued place)).1
    exact (acquireAsyncRound_round nt _ _ _ _).awake awake queueing
      (congrArg Phase.queued place) (congrArg Phase.isLeaving place) after fits
  | roused place moves =>
    refine awake.keeps rfl (fun _ => rfl) (fun _ distinct => setPhase_phases_of_ne distinct)
      (fun head first same passes => ?_) fun leaves => by rw [place] at leaves; cases leaves
    rw [setPhase_phases_self]
    rcases moves with rfl | rfl | rfl <;> rfl
  | left place => exact awake_notify after fits
  | leftWith place => exact awake_notify after fits
  | bound place =>
    exact awake.outside queueing (by rw [place]; rfl) (by rw [place]; rfl) rfl
      (fun _ => rfl) rfl
  | returned place opened =>
    exact awake.outside queueing (by rw [place]; rfl) (by rw [place]; rfl) rfl
      (fun _ => rfl) rfl
  | @locked hold isAsync place =>
    refine awake.outside queueing (by rw [place]; rfl) (by rw [place]; rfl) rfl
      (fun ticket => ?_) rfl
    change (system.setHold hold _).isAdmissible nt ticket = _
    refine isAdmissible_setHold ?_ ticket
    rfl
  | failed place =>
    exact awake.outside queueing (by rcases place with place | place <;> rw [place] <;> rfl)
      (by rcases place with place | place <;> rw [place] <;> rfl) rfl
      (isAdmissible_setHold rfl) rfl
  | released idle counted =>
    exact awake.outside queueing (by rw [idle]; rfl) (by rw [idle]; rfl) rfl
      (isAdmissible_setHold rfl) rfl
  | closed place =>
    exact awake.outside queueing (by rw [place]; rfl) (by rw [place]; rfl) rfl
      (isAdmissible_setHold rfl) rfl
  | finished place =>
    rw [finishRelease] at after fits ⊢
    split at after
    · rename_i registered
      rw [if_pos registered] at fits ⊢
      exact awake_notify after fits
    · rename_i missing
      rw [if_neg missing]
      exact awake.outside queueing (by rw [place]; rfl) (by rw [place]; rfl) rfl
        (fun _ => rfl) rfl

theorem OwnThreadFree.waits (free : OwnThreadFree system) (queueing : Queueing system)
    (place : (system.phases ticket.owner).queued = some ticket)
    (others : system.blocksEventLoop ticket = false) :
    OwnThreadFree (system.setPhase ticket.owner (.waiting ticket false)) := by
  intro other found blocked inTask
  by_cases same : other = ticket.owner
  · subst same
    rw [setPhase_phases_self] at blocked
    cases blocked
    rw [blocksEventLoop, inTask, Bool.true_and, Bool.or_eq_false_iff] at others
    obtain ⟨noHolder, noEarlier⟩ := others
    constructor
    · intro entry member
      simpa using List.any_eq_false.mp noHolder entry member
    · intro earlier member before
      change earlier ∈ system.queue at member
      have listed := (queueing.ticket _ ticket place).2
      obtain ⟨front, rear, split, notBefore⟩ := List.eq_append_cons_of_mem listed
      have passes : ∀ waiter ∈ front, decide (waiter ≠ ticket) = true := by
        intro waiter inFront
        rw [decide_eq_true_eq]
        rintro rfl
        exact notBefore inFront
      rw [split, List.takeWhile_append_of_pos passes, List.takeWhile_cons_of_neg (by simp),
        List.append_nil] at noEarlier
      have inFront : earlier ∈ front := by
        have ordered := (List.pairwise_append.mp queueing.ordered).2.1
        rw [split, List.map_append, List.map_cons, List.pairwise_append,
          List.pairwise_cons] at ordered
        rw [split, List.mem_append, List.mem_cons] at member
        rcases member with inFront | rfl | inRear
        · exact inFront
        · exact absurd before (Nat.lt_irrefl _)
        · exact absurd before
            (Nat.lt_asymm (ordered.2.1.1 _ (List.mem_map_of_mem inRear)))
      simpa using List.any_eq_false.mp noEarlier earlier inFront
  · rw [setPhase_phases_of_ne same] at blocked
    exact free other found blocked inTask

theorem Round.ownThreadFree (round : Round nt system ticket next) (free : OwnThreadFree system)
    (queueing : Queueing system) (place : (system.phases ticket.owner).queued = some ticket)
    (alone : IsFree system ticket.owner) : OwnThreadFree next := by
  have frame := round.frame
  cases round with
  | gaveUp =>
    refine free.keeps queueing alone frame (fun entry member => .inr member)
      (fun waiter member => .inl (List.mem_of_mem_erase member)) ?_
    rw [discard, notify_blocked, setPhase_phases_self]
    rfl
  | passed admits =>
    obtain ⟨rest, listed, -, rfl, rfl⟩ := admitTicket_eq_some admits
    refine free.keeps queueing alone frame ?_ ?_ ?_
    · intro entry member
      rcases List.mem_cons.mp member with rfl | old
      · exact .inl rfl
      · exact .inr (List.mem_filter.mp old).1
    · intro waiter member
      exact .inl (listed ▸ List.mem_cons_of_mem _ (List.mem_of_mem_erase member))
    · rw [discard, notify_blocked, setPhase_phases_self]
      rfl
  | waits refused others => exact free.waits queueing place others
  | leaves =>
    refine free.keeps queueing alone frame (fun entry member => .inr member)
      (fun waiter member => .inl member) ?_
    rw [setPhase_phases_self]
    rfl
  | leavesWith admits =>
    obtain ⟨rest, listed, -, rfl, rfl⟩ := admitTicket_eq_some admits
    refine free.keeps queueing alone frame ?_ ?_ ?_
    · intro entry member
      rcases List.mem_cons.mp member with rfl | old
      · exact .inl rfl
      · exact .inr (List.mem_filter.mp old).1
    · intro waiter member
      exact .inl (listed ▸ List.mem_cons_of_mem _ member)
    · rw [setPhase_phases_self]
      rfl
  | suspends refused =>
    refine free.keeps queueing alone frame (fun entry member => .inr member)
      (fun waiter member => .inl member) ?_
    rw [setPhase_phases_self]
    rfl

theorem OwnThreadFree.enqueue (free : OwnThreadFree system) (queueing : Queueing system)
    (alone : IsFree system owner) (exclusive loop : Bool) :
    OwnThreadFree (system.enqueue owner exclusive loop) := by
  refine free.keeps queueing alone
    ⟨fun other distinct => .inl (frame_enqueue exclusive loop other distinct)⟩
    (fun entry member => .inr member) ?_ ?_
  · intro waiter member
    rcases List.mem_append.mp member with old | new
    · exact .inl old
    · rw [List.mem_singleton.mp new]
      exact .inr (Nat.le_refl _)
  · rw [LockSystem.enqueue, setPhase_phases_self]
    rfl

theorem OwnThreadFree.moved (free : OwnThreadFree system) (queueing : Queueing system)
    (alone : IsFree system owner) (moved : Moved nt system owner action next) : OwnThreadFree next := by
  have frame := moved.frame queueing
  have same {changed : LockSystem Thread Task} (frame : Frame owner system changed)
      (holders : changed.holders = system.holders) (queue : changed.queue = system.queue)
      (own : (changed.phases owner).blocked = none) : OwnThreadFree changed :=
    free.keeps queueing alone frame (fun entry member => .inr (holders ▸ member))
      (fun waiter member => .inl (queue ▸ member)) own
  cases moved with
  | refused => exact free
  | reentered asks idle held => exact same frame rfl rfl (by rw [setPhase_phases_self]; rfl)
  | @entered exclusive expired idle absent =>
    refine (acquireRound_round nt _ _ _).ownThreadFree (free.enqueue queueing alone _ _)
      (queueing.enqueue idle exclusive false) ?_ ?_
    · exact congrArg Phase.queued (setPhase_phases_self _)
    · intro other distinct sameThread
      have apart : other ≠ owner := distinct
      rw [frame_enqueue exclusive false other apart]
      exact alone other apart sameThread
  | enqueued idle absent => exact free.enqueue queueing alone _ true
  | @woken ticket notified expired place =>
    obtain rfl := (queueing.ticket owner ticket (congrArg Phase.queued place)).1
    exact (acquireRound_round nt _ _ _).ownThreadFree free queueing
      (congrArg Phase.queued place) alone
  | @checked ticket scheduled expired place =>
    obtain rfl := (queueing.ticket owner ticket (congrArg Phase.queued place)).1
    exact (acquireAsyncRound_round nt _ _ _ _).ownThreadFree free queueing
      (congrArg Phase.queued place) alone
  | roused place moves =>
    refine same frame rfl rfl ?_
    rw [setPhase_phases_self]
    rcases moves with rfl | rfl | rfl <;> rfl
  | left place =>
    refine free.keeps queueing alone frame (fun entry member => .inr member)
      (fun waiter member => .inl (List.mem_of_mem_erase member)) ?_
    rw [discard, notify_blocked, setPhase_phases_self]
    rfl
  | leftWith place =>
    refine free.keeps queueing alone frame (fun entry member => .inr member)
      (fun waiter member => .inl (List.mem_of_mem_erase member)) ?_
    rw [discard, notify_blocked, setPhase_phases_self]
    rfl
  | bound place => exact same frame rfl rfl (by rw [setPhase_phases_self]; rfl)
  | returned place opened =>
    exact same frame rfl rfl (by rw [returnHold, setPhase_phases_self]; rfl)
  | locked place => exact same frame rfl rfl (by rw [returnHold, setPhase_phases_self]; rfl)
  | failed place =>
    refine same frame rfl rfl ?_
    rw [beginRelease, setPhase_phases_self]
    split <;> rfl
  | released idle counted =>
    refine same frame rfl rfl ?_
    rw [beginRelease, setPhase_phases_self]
    split <;> rfl
  | closed place => exact same frame rfl rfl (by rw [setPhase_phases_self]; rfl)
  | finished place =>
    rw [finishRelease] at frame ⊢
    split at frame
    · rename_i registered
      rw [if_pos registered]
      refine free.keeps queueing alone frame
        (fun entry member => .inr (List.mem_filter.mp member).1)
        (fun waiter member => .inl member) ?_
      rw [notify_blocked]
      exact congrArg Phase.blocked (setPhase_phases_self _)
    · rename_i missing
      rw [if_neg missing]
      exact same frame rfl rfl (by rw [setPhase_phases_self]; rfl)

end LockSystem

end GraphAgent.PathLocks
