import GraphAgent.KeyedRows
import GraphAgent.PathLockWaking

/-!
# The holds of a path lock

A registered hold is as deep as its acquisitions are, an exclusive one is alone,
and the file of a returned hold is open.  This lasts as long as no owner enters
a hold again whose last release has begun.
-/

namespace GraphAgent.PathLocks

open KeyedRows

variable {Thread Task : Type}

namespace LockSystem

variable {nt : Bool} {system next : LockSystem Thread Task}
  {owner other : LockOwner Thread Task} {ticket : LockWaiter Thread Task} {hold : Nat} {action : Action}

def acquisitions (system : LockSystem Thread Task) (owner : LockOwner Thread Task) (hold : Nat) :
    Nat :=
  system.unreleased hold + if (system.phases owner).acquiring = some hold then 1 else 0

structure Holding (nt : Bool) (system : LockSystem Thread Task) : Prop where
  keys : (system.holders.map Prod.fst).Nodup
  owner : ∀ entry ∈ system.holders,
    (system.holds entry.2).owner = entry.1 ∧ entry.2 < system.nextHold
  alone : ∀ entry ∈ system.holders, (system.holds entry.2).exclusive = true ∨ nt = true →
    system.holders = [entry]
  waiting : ∀ owner, (system.phases owner).queued.isSome = true →
    ∀ entry ∈ system.holders, entry.1 ≠ owner
  acquiring : ∀ owner hold, (system.phases owner).acquiring = some hold →
    (owner, hold) ∈ system.holders ∧ (system.holds hold).handle ≠ some .closed
  returned : ∀ hold, 0 < system.unreleased hold →
    ((system.holds hold).owner, hold) ∈ system.holders ∧
      (system.holds hold).handle = some .opened
  depth : ∀ entry ∈ system.holders,
    (system.holds entry.2).depth = system.acquisitions entry.1 entry.2
  releasing : ∀ releaser hold, (system.phases releaser).releasing = some hold →
    ((system.holds hold).owner, hold) ∈ system.holders ∧ (system.holds hold).depth = 0
  single : ∀ first second hold, (system.phases first).releasing = some hold →
    (system.phases second).releasing = some hold → first = second
  closing : ∀ entry ∈ system.holders, (system.holds entry.2).depth = 0 →
    ∃ releaser, (system.phases releaser).releasing = some entry.2

theorem Holding.keeps (holding : Holding nt system) (holders : next.holders = system.holders)
    (holds : next.holds = system.holds) (number : next.nextHold = system.nextHold)
    (unreleased : next.unreleased = system.unreleased)
    (acquiring : ∀ owner, (next.phases owner).acquiring = (system.phases owner).acquiring)
    (releasing : ∀ owner, (next.phases owner).releasing = (system.phases owner).releasing)
    (waiting : ∀ owner, (next.phases owner).queued.isSome = true →
      ∀ entry ∈ system.holders, entry.1 ≠ owner) : Holding nt next := by
  refine ⟨?_, ?_, ?_, ?_, ?_, ?_, ?_, ?_, ?_, ?_⟩
  · rw [holders]
    exact holding.keys
  · rw [holders, holds, number]
    exact holding.owner
  · rw [holders, holds]
    exact holding.alone
  · rw [holders]
    exact waiting
  · intro owner hold place
    rw [acquiring] at place
    rw [holders, holds]
    exact holding.acquiring owner hold place
  · rw [unreleased, holders, holds]
    exact holding.returned
  · simp only [acquisitions, holders, holds, unreleased, acquiring]
    exact holding.depth
  · intro releaser hold place
    rw [releasing] at place
    rw [holders, holds]
    exact holding.releasing releaser hold place
  · simp only [releasing]
    exact holding.single
  · simp only [holders, holds, releasing]
    exact holding.closing

theorem Holding.not_acquiring_of_depth (holding : Holding nt system) (empty : (system.holds hold).depth = 0)
    (member : (owner, hold) ∈ system.holders) :
    system.unreleased hold = 0 ∧ (system.phases owner).acquiring ≠ some hold := by
  have counted := holding.depth _ member
  rw [acquisitions, empty] at counted
  dsimp only at counted
  constructor
  · omega
  · intro place
    rw [if_pos place] at counted
    omega

theorem Holding.eq_of_owner (holding : Holding nt system) {first second : LockOwner Thread Task × Nat}
    (firstMember : first ∈ system.holders) (secondMember : second ∈ system.holders)
    (same : first.1 = second.1) : first = second :=
  List.inj_on_of_nodup_map holding.keys firstMember secondMember same

theorem Holding.eq_of_hold (holding : Holding nt system) {first second : LockOwner Thread Task × Nat}
    (firstMember : first ∈ system.holders) (secondMember : second ∈ system.holders)
    (same : first.2 = second.2) : first = second := by
  refine holding.eq_of_owner firstMember secondMember ?_
  rw [← (holding.owner first firstMember).1, ← (holding.owner second secondMember).1, same]

theorem Holding.not_releasing (holding : Holding nt system) (deep : (system.holds hold).depth ≠ 0)
    (other : LockOwner Thread Task) : (system.phases other).releasing ≠ some hold :=
  fun place => deep (holding.releasing other hold place).2

structure Touched (system next : LockSystem Thread Task) (mover keeper : LockOwner Thread Task)
    (hold : Nat) : Prop where
  member : (keeper, hold) ∈ system.holders
  holders : next.holders = system.holders
  number : next.nextHold = system.nextHold
  holds : ∀ id, id ≠ hold → next.holds id = system.holds id
  owner : (next.holds hold).owner = (system.holds hold).owner
  exclusive : (next.holds hold).exclusive = (system.holds hold).exclusive
  frame : Frame mover system next
  unreleased : ∀ id, id ≠ hold → next.unreleased id = system.unreleased id
  before : ∀ id, id ≠ hold → (system.phases mover).acquiring ≠ some id ∧
    (system.phases mover).releasing ≠ some id
  after : ∀ id, id ≠ hold → (next.phases mover).acquiring ≠ some id ∧
    (next.phases mover).releasing ≠ some id
  queued : (next.phases mover).queued = none
  acquiring : ∀ owner, (next.phases owner).acquiring = some hold →
    owner = keeper ∧ (next.holds hold).handle ≠ some .closed
  returned : 0 < next.unreleased hold → (next.holds hold).handle = some .opened
  depth : (next.holds hold).depth = next.acquisitions keeper hold
  releasing : ∀ releaser, (next.phases releaser).releasing = some hold →
    (next.holds hold).depth = 0
  single : ∀ first second, (next.phases first).releasing = some hold →
    (next.phases second).releasing = some hold → first = second
  closing : (next.holds hold).depth = 0 →
    ∃ releaser, (next.phases releaser).releasing = some hold

namespace Touched

variable {mover keeper : LockOwner Thread Task}

theorem acquiring_iff (touched : Touched system next mover keeper hold) {id : Nat}
    (distinct : id ≠ hold) (owner : LockOwner Thread Task) :
    (next.phases owner).acquiring = some id ↔ (system.phases owner).acquiring = some id := by
  by_cases same : owner = mover
  · subst same
    exact iff_of_false (touched.after id distinct).1 (touched.before id distinct).1
  · rw [touched.frame.acquiring same]

theorem releasing_iff (touched : Touched system next mover keeper hold) {id : Nat}
    (distinct : id ≠ hold) (owner : LockOwner Thread Task) :
    (next.phases owner).releasing = some id ↔ (system.phases owner).releasing = some id := by
  by_cases same : owner = mover
  · subst same
    exact iff_of_false (touched.after id distinct).2 (touched.before id distinct).2
  · rw [touched.frame.releasing same]

theorem holding (touched : Touched system next mover keeper hold) (holding : Holding nt system) :
    Holding nt next := by
  have owners (id : Nat) : (next.holds id).owner = (system.holds id).owner := by
    by_cases same : id = hold
    · rw [same, touched.owner]
    · rw [touched.holds id same]
  have exclusives (id : Nat) : (next.holds id).exclusive = (system.holds id).exclusive := by
    by_cases same : id = hold
    · rw [same, touched.exclusive]
    · rw [touched.holds id same]
  have keeps : (next.holds hold).owner = keeper := by
    rw [touched.owner]
    exact (holding.owner _ touched.member).1
  refine ⟨?_, ?_, ?_, ?_, ?_, ?_, ?_, ?_, ?_, ?_⟩
  · rw [touched.holders]
    exact holding.keys
  · simp only [touched.holders, owners, touched.number]
    exact holding.owner
  · simp only [touched.holders, exclusives]
    exact holding.alone
  · intro owner queued
    rw [touched.holders]
    by_cases same : owner = mover
    · rw [same, touched.queued] at queued
      cases queued
    · rw [touched.frame.queued same] at queued
      exact holding.waiting owner queued
  · intro owner id place
    rw [touched.holders]
    by_cases same : id = hold
    · subst same
      obtain ⟨rfl, notClosed⟩ := touched.acquiring owner place
      exact ⟨touched.member, notClosed⟩
    · rw [touched.acquiring_iff same] at place
      rw [touched.holds id same]
      exact holding.acquiring owner id place
  · intro id counted
    rw [touched.holders]
    by_cases same : id = hold
    · subst same
      rw [keeps]
      exact ⟨touched.member, touched.returned counted⟩
    · rw [touched.unreleased id same] at counted
      rw [touched.holds id same]
      exact holding.returned id counted
  · intro entry member
    rw [touched.holders] at member
    by_cases same : entry.2 = hold
    · rw [holding.eq_of_hold member touched.member same]
      exact touched.depth
    · simp only [touched.holds _ same, holding.depth entry member, acquisitions,
        touched.unreleased _ same, touched.acquiring_iff same]
  · intro releaser id place
    rw [touched.holders]
    by_cases same : id = hold
    · subst same
      rw [keeps]
      exact ⟨touched.member, touched.releasing releaser place⟩
    · rw [touched.releasing_iff same] at place
      rw [touched.holds id same]
      exact holding.releasing releaser id place
  · intro first second id firstPlace secondPlace
    by_cases same : id = hold
    · subst same
      exact touched.single first second firstPlace secondPlace
    · rw [touched.releasing_iff same] at firstPlace secondPlace
      exact holding.single first second id firstPlace secondPlace
  · intro entry member empty
    rw [touched.holders] at member
    by_cases same : entry.2 = hold
    · rw [same] at empty ⊢
      exact touched.closing empty
    · rw [touched.holds _ same] at empty
      obtain ⟨releaser, place⟩ := holding.closing entry member empty
      exact ⟨releaser, (touched.releasing_iff same releaser).mpr place⟩

end Touched

variable [DecidableEq Thread] [DecidableEq Task]

theorem holder_eq_some (found : system.holder owner = some hold) :
    (owner, hold) ∈ system.holders := by
  obtain ⟨entry, listed, rfl⟩ := Option.map_eq_some_iff.mp found
  change fetch Prod.fst system.holders owner = some entry at listed
  exact fetch_key listed ▸ fetch_mem listed

theorem holder_eq_none (absent : system.holder owner = none) :
    ∀ entry ∈ system.holders, entry.1 ≠ owner := by
  have missing : fetch Prod.fst system.holders owner = none := Option.map_eq_none_iff.mp absent
  exact fetch_eq_none.mp missing

namespace Holding

theorem admitted (holding : Holding nt system)
    (place : (system.phases ticket.owner).queued = some ticket)
    (passes : system.isAdmissible nt ticket = true)
    (holders : next.holders = (ticket.owner, system.nextHold) ::
      system.holders.filter fun entry => entry.1 ≠ ticket.owner)
    (holds : next.holds = Function.update system.holds system.nextHold
      { owner := ticket.owner, exclusive := ticket.exclusive })
    (number : next.nextHold = system.nextHold + 1) (unreleased : next.unreleased = system.unreleased)
    (own : (next.phases ticket.owner).acquiring = some system.nextHold)
    (settled : (next.phases ticket.owner).queued = none ∧
      (next.phases ticket.owner).releasing = none)
    (frame : Frame ticket.owner system next) : Holding nt next := by
  have newcomer := holding.waiting ticket.owner (by rw [place]; rfl)
  have listed : next.holders = (ticket.owner, system.nextHold) :: system.holders := by
    rw [holders, List.filter_eq_self.mpr]
    simpa using newcomer
  have bounded : ∀ entry ∈ system.holders, entry.2 ≠ system.nextHold := fun entry member =>
    Nat.ne_of_lt (holding.owner entry member).2
  have old {id : Nat} (distinct : id ≠ system.nextHold) : next.holds id = system.holds id := by
    rw [holds, Function.update_of_ne distinct]
  have new : next.holds system.nextHold =
      { owner := ticket.owner, exclusive := ticket.exclusive } := by
    rw [holds, Function.update_self]
  have unused : system.unreleased system.nextHold = 0 := by
    by_contra counted
    have member := (holding.returned system.nextHold (Nat.pos_of_ne_zero counted)).1
    exact bounded _ member rfl
  obtain ⟨notAcquiring, notReleasing⟩ := Phase.outside_of_queued place
  have alone : ticket.exclusive = true ∨ nt = true ∨
      (∃ entry ∈ system.holders, (system.holds entry.2).exclusive = true) →
      system.holders = [] := by
    intro reason
    rw [isAdmissible, Bool.or_eq_true, List.isEmpty_iff] at passes
    refine passes.resolve_right ?_
    rw [Bool.not_eq_true', Bool.not_eq_false, Bool.or_eq_true, Bool.or_eq_true,
      List.any_eq_true, or_assoc]
    exact reason
  refine ⟨?_, ?_, ?_, ?_, ?_, ?_, ?_, ?_, ?_, ?_⟩
  · rw [listed, List.map_cons, List.nodup_cons]
    refine ⟨?_, holding.keys⟩
    intro member
    obtain ⟨entry, entryMember, same⟩ := List.mem_map.mp member
    exact newcomer entry entryMember same
  · intro entry member
    rw [listed, List.mem_cons] at member
    rw [number]
    rcases member with rfl | member
    · rw [new]
      exact ⟨rfl, Nat.lt_succ_self _⟩
    · rw [old (bounded entry member)]
      obtain ⟨same, below⟩ := holding.owner entry member
      exact ⟨same, Nat.lt_succ_of_lt below⟩
  · intro entry member reason
    rw [listed, List.mem_cons] at member
    rcases member with rfl | member
    · rw [new] at reason
      rw [listed, alone (reason.imp_right .inl)]
    · rw [old (bounded entry member)] at reason
      have none : system.holders = [] := by
        rcases reason with exclusive | windows
        · exact alone (.inr (.inr ⟨entry, member, exclusive⟩))
        · exact alone (.inr (.inl windows))
      rw [none] at member
      cases member
  · intro owner queued entry member
    have apart : owner ≠ ticket.owner := by
      rintro rfl
      rw [settled.1] at queued
      cases queued
    rw [frame.queued apart] at queued
    rw [listed, List.mem_cons] at member
    rcases member with rfl | member
    · exact apart.symm
    · exact holding.waiting owner queued entry member
  · intro owner hold acquiring
    by_cases same : owner = ticket.owner
    · rw [same, own] at acquiring
      cases acquiring
      rw [new, listed, same]
      exact ⟨List.mem_cons_self, fun other => by cases other⟩
    · rw [frame.acquiring same] at acquiring
      obtain ⟨member, notClosed⟩ := holding.acquiring owner hold acquiring
      rw [listed, old (bounded _ member)]
      exact ⟨List.mem_cons_of_mem _ member, notClosed⟩
  · intro hold counted
    rw [unreleased] at counted
    obtain ⟨member, opened⟩ := holding.returned hold counted
    rw [old (bounded _ member), listed]
    exact ⟨List.mem_cons_of_mem _ member, opened⟩
  · intro entry member
    rw [listed, List.mem_cons] at member
    rcases member with rfl | member
    · rw [new, acquisitions, unreleased, unused, if_pos own]
    · rw [old (bounded entry member), holding.depth entry member, acquisitions, acquisitions,
        unreleased, frame.acquiring (newcomer entry member)]
  · intro releaser hold place
    have apart : releaser ≠ ticket.owner := by
      rintro rfl
      rw [settled.2] at place
      cases place
    rw [frame.releasing apart] at place
    obtain ⟨member, empty⟩ := holding.releasing releaser hold place
    rw [old (bounded _ member), listed]
    exact ⟨List.mem_cons_of_mem _ member, empty⟩
  · intro first second hold firstPlace secondPlace
    have apart (releaser : LockOwner Thread Task)
        (place : (next.phases releaser).releasing = some hold) : releaser ≠ ticket.owner := by
      rintro rfl
      rw [settled.2] at place
      cases place
    rw [frame.releasing (apart first firstPlace)] at firstPlace
    rw [frame.releasing (apart second secondPlace)] at secondPlace
    exact holding.single first second hold firstPlace secondPlace
  · intro entry member empty
    rw [listed, List.mem_cons] at member
    rcases member with rfl | member
    · rw [new] at empty
      cases empty
    · rw [old (bounded entry member)] at empty
      obtain ⟨releaser, place⟩ := holding.closing entry member empty
      have apart : releaser ≠ ticket.owner := by
        rintro rfl
        rw [notReleasing] at place
        cases place
      exact ⟨releaser, by rw [frame.releasing apart, place]⟩

theorem round (holding : Holding nt system) (round : Round nt system ticket next)
    (place : (system.phases ticket.owner).queued = some ticket) : Holding nt next := by
  have frame := round.frame
  obtain ⟨notAcquiring, notReleasing⟩ := Phase.outside_of_queued place
  have unchanged {changed : LockSystem Thread Task} (frame : Frame ticket.owner system changed)
      (holders : changed.holders = system.holders) (holds : changed.holds = system.holds)
      (number : changed.nextHold = system.nextHold)
      (unreleased : changed.unreleased = system.unreleased)
      (own : (changed.phases ticket.owner).acquiring = none ∧
        (changed.phases ticket.owner).releasing = none) : Holding nt changed := by
    refine holding.keeps holders holds number unreleased ?_ ?_ ?_
    · intro owner
      by_cases same : owner = ticket.owner
      · rw [same, own.1, notAcquiring]
      · exact frame.acquiring same
    · intro owner
      by_cases same : owner = ticket.owner
      · rw [same, own.2, notReleasing]
      · exact frame.releasing same
    · intro owner queued
      by_cases same : owner = ticket.owner
      · exact same ▸ holding.waiting ticket.owner (by rw [place]; rfl)
      · rw [frame.queued same] at queued
        exact holding.waiting owner queued
  cases round with
  | gaveUp =>
    refine unchanged frame rfl rfl rfl rfl ?_
    rw [discard, notify_acquiring, notify_releasing, setPhase_phases_self]
    exact ⟨rfl, rfl⟩
  | passed admits =>
    obtain ⟨rest, -, passes, rfl, rfl⟩ := admitTicket_eq_some admits
    refine holding.admitted place passes rfl rfl rfl rfl ?_ ?_ frame
    · rw [discard, notify_acquiring, setPhase_phases_self]
      rfl
    · rw [discard, notify_queued, notify_releasing, setPhase_phases_self]
      exact ⟨rfl, rfl⟩
  | waits refused others =>
    refine unchanged frame rfl rfl rfl rfl ?_
    rw [setPhase_phases_self]
    exact ⟨rfl, rfl⟩
  | leaves =>
    refine unchanged frame rfl rfl rfl rfl ?_
    rw [setPhase_phases_self]
    exact ⟨rfl, rfl⟩
  | leavesWith admits =>
    obtain ⟨rest, -, passes, rfl, rfl⟩ := admitTicket_eq_some admits
    refine holding.admitted place passes rfl rfl rfl rfl ?_ ?_ frame
    · rw [setPhase_phases_self]
      rfl
    · rw [setPhase_phases_self]
      exact ⟨rfl, rfl⟩
  | suspends refused =>
    refine unchanged frame rfl rfl rfl rfl ?_
    rw [setPhase_phases_self]
    exact ⟨rfl, rfl⟩

theorem enqueue (holding : Holding nt system) (idle : system.phases owner = .idle)
    (absent : system.holder owner = none) (exclusive loop : Bool) :
    Holding nt (system.enqueue owner exclusive loop) := by
  refine holding.keeps rfl rfl rfl rfl ?_ ?_ ?_
  · exact views_setPhase Phase.acquiring rfl (by rw [idle]; rfl)
  · exact views_setPhase Phase.releasing rfl (by rw [idle]; rfl)
  · intro other queued
    by_cases same : other = owner
    · exact same ▸ holder_eq_none absent
    · rw [frame_enqueue exclusive loop other same] at queued
      exact holding.waiting other queued

theorem touch (holding : Holding nt system) (mover : LockOwner Thread Task)
    {keeper : LockOwner Thread Task}
    (held : LockHold Thread Task) (count : Nat) (phase : Phase Thread Task)
    (member : (keeper, hold) ∈ system.holders) (owner : held.owner = (system.holds hold).owner)
    (exclusive : held.exclusive = (system.holds hold).exclusive)
    (before : ∀ id, id ≠ hold → (system.phases mover).acquiring ≠ some id ∧
      (system.phases mover).releasing ≠ some id)
    (after : ∀ id, id ≠ hold → phase.acquiring ≠ some id ∧ phase.releasing ≠ some id)
    (queued : phase.queued = none)
    (acquires : phase.acquiring = some hold → mover = keeper)
    (handle : held.depth ≠ 0 → held.handle ≠ some .closed)
    (returned : 0 < count → held.handle = some .opened)
    (depth : held.depth = count +
      if (if keeper = mover then phase else system.phases keeper).acquiring = some hold
        then 1 else 0)
    (releases : phase.releasing = some hold → held.depth = 0)
    (others : ∀ other, other ≠ mover → (system.phases other).releasing ≠ some hold)
    (closing : held.depth = 0 → phase.releasing = some hold)
    (same : next = ({ system with
      holds := Function.update system.holds hold held
      unreleased := Function.update system.unreleased hold count }.setPhase mover phase)) :
    Holding nt next := by
  subst same
  have self : Function.update system.holds hold held hold = held := Function.update_self ..
  have counted : Function.update system.unreleased hold count hold = count :=
    Function.update_self ..
  have place (other : LockOwner Thread Task) :
      ({ system with
        holds := Function.update system.holds hold held
        unreleased := Function.update system.unreleased hold count
      }.setPhase mover phase).phases other =
        if other = mover then phase else system.phases other := by
    split
    · rename_i same
      rw [same, setPhase_phases_self]
    · rename_i distinct
      exact setPhase_phases_of_ne distinct
  have depthOf : held.depth = acquisitions ({ system with
        holds := Function.update system.holds hold held
        unreleased := Function.update system.unreleased hold count
      }.setPhase mover phase) keeper hold := by
    rw [acquisitions, place]
    exact depth.trans (congrArg (· + _) counted.symm)
  suffices touched : Touched system _ mover keeper hold from touched.holding holding
  exact {
    member
    holders := rfl
    number := rfl
    holds := fun id distinct => Function.update_of_ne distinct ..
    owner := (congrArg LockHold.owner self).trans owner
    exclusive := (congrArg LockHold.exclusive self).trans exclusive
    frame := frame_setPhase _ rfl
    unreleased := fun id distinct => Function.update_of_ne distinct ..
    before
    after := by
      rw [setPhase_phases_self]
      exact after
    queued := by rw [setPhase_phases_self, queued]
    acquiring := by
      intro other found
      rw [place] at found
      have keeps : other = keeper := by
        split at found
        · rename_i same
          exact same.trans (acquires found)
        · exact congrArg Prod.fst
            (holding.eq_of_hold (holding.acquiring other hold found).1 member rfl)
      rw [keeps] at found
      rw [if_pos found] at depth
      exact ⟨keeps, (congrArg LockHold.handle self).trans_ne (handle (by omega))⟩
    returned := fun positive => (congrArg LockHold.handle self).trans
      (returned (counted ▸ positive))
    depth := (congrArg LockHold.depth self).trans depthOf
    releasing := by
      intro other found
      rw [place] at found
      split at found
      · exact (congrArg LockHold.depth self).trans (releases found)
      · rename_i distinct
        exact absurd found (others other distinct)
    single := by
      have own (other : LockOwner Thread Task) (found : ((if other = mover then phase else
          system.phases other).releasing = some hold)) : other = mover := by
        by_contra distinct
        rw [if_neg distinct] at found
        exact others other distinct found
      intro first second firstFound secondFound
      rw [place] at firstFound secondFound
      exact (own first firstFound).trans (own second secondFound).symm
    closing := by
      intro empty
      refine ⟨mover, ?_⟩
      rw [setPhase_phases_self]
      exact closing ((congrArg LockHold.depth self).symm.trans empty) }

theorem reentered (holding : Holding nt system) (idle : system.phases owner = .idle)
    (member : (owner, hold) ∈ system.holders) (deep : (system.holds hold).depth ≠ 0)
    (isAsync : Bool) :
    Holding nt ((system.setHold hold
      { system.holds hold with depth := (system.holds hold).depth + 1 }).setPhase owner
        (.admitted hold isAsync)) := by
  have depth := holding.depth _ member
  rw [acquisitions, idle, if_neg (by nofun)] at depth
  dsimp only at depth
  have opened := (holding.returned hold (by omega)).2
  refine holding.touch owner { system.holds hold with depth := (system.holds hold).depth + 1 }
    (system.unreleased hold) (.admitted hold isAsync) member rfl rfl ?_ ?_ rfl (fun _ => rfl) ?_
    (fun _ => opened) ?_ nofun (fun other _ => holding.not_releasing deep other) nofun ?_
  · intro id _
    rw [idle]
    exact ⟨nofun, nofun⟩
  · intro id distinct
    exact ⟨fun found => distinct (Option.some.inj found).symm, nofun⟩
  · intro _ closed
    cases opened.symm.trans closed
  · have entered : (Phase.admitted hold isAsync : Phase Thread Task).acquiring = some hold := rfl
    rw [if_pos rfl, if_pos entered]
    change (system.holds hold).depth + 1 = _
    omega
  · rw [Function.update_eq_self]
    rfl

theorem returnHold (holding : Holding nt system) {isAsync : Bool}
    (place : system.phases owner = .admitted hold isAsync ∨
      system.phases owner = .opening hold isAsync) :
    Holding nt ((system.setHold hold
      { system.holds hold with handle := some .opened }).returnHold owner hold) := by
  have acquiring : (system.phases owner).acquiring = some hold := by
    rcases place with place | place <;> rw [place] <;> rfl
  have releasing : (system.phases owner).releasing = none := by
    rcases place with place | place <;> rw [place] <;> rfl
  obtain ⟨member, -⟩ := holding.acquiring owner hold acquiring
  have depth := holding.depth _ member
  rw [acquisitions, if_pos acquiring] at depth
  dsimp only at depth
  have deep : (system.holds hold).depth ≠ 0 := by omega
  refine holding.touch owner { system.holds hold with handle := some .opened }
    (system.unreleased hold + 1) .idle member rfl rfl ?_ (fun _ _ => ⟨nofun, nofun⟩) rfl nofun
    (fun _ => nofun) (fun _ => rfl) ?_ nofun (fun other _ => holding.not_releasing deep other)
    (fun empty => absurd empty deep) rfl
  · intro id distinct
    rw [acquiring, releasing]
    exact ⟨fun found => distinct (Option.some.inj found).symm, nofun⟩
  · rw [if_pos rfl, if_neg (by nofun)]
    exact depth

theorem beginRelease (holding : Holding nt system) (mover : LockOwner Thread Task)
    {keeper : LockOwner Thread Task} (count : Nat) (member : (keeper, hold) ∈ system.holders)
    (before : ∀ id, id ≠ hold → (system.phases mover).acquiring ≠ some id)
    (released : (system.phases mover).releasing = none) (fewer : count ≤ system.unreleased hold)
    (depth : (system.holds hold).depth - 1 = count +
      if keeper ≠ mover ∧ (system.phases keeper).acquiring = some hold then 1 else 0)
    (deep : (system.holds hold).depth ≠ 0) :
    Holding nt ({ system with
      unreleased := Function.update system.unreleased hold count }.beginRelease mover hold) := by
  have bare : (if (system.holds hold).depth - 1 = 0 then Phase.closing hold .unlocking
      else (.idle : Phase Thread Task)).acquiring = none := by
    split <;> rfl
  refine holding.touch mover { system.holds hold with depth := (system.holds hold).depth - 1 }
    count (if (system.holds hold).depth - 1 = 0 then .closing hold .unlocking else .idle)
    member rfl rfl ?_ ?_ ?_ ?_ ?_ ?_ ?_ ?_ (fun other _ => holding.not_releasing deep other) ?_ rfl
  · intro id distinct
    rw [released]
    exact ⟨before id distinct, nofun⟩
  · intro id distinct
    rw [bare]
    refine ⟨nofun, ?_⟩
    split
    · exact fun found => distinct (Option.some.inj found).symm
    · nofun
  · split <;> rfl
  · rw [bare]
    nofun
  · intro still
    change (system.holds hold).depth - 1 ≠ 0 at still
    rw [depth] at still
    by_cases other : keeper ≠ mover ∧ (system.phases keeper).acquiring = some hold
    · exact (holding.acquiring keeper hold other.2).2
    · rw [if_neg other] at still
      intro closed
      cases (holding.returned hold (by omega)).2.symm.trans closed
  · intro positive
    exact (holding.returned hold (by omega)).2
  · refine depth.trans ?_
    by_cases same : keeper = mover
    · rw [if_pos same, bare, if_neg (fun other => other.1 same), if_neg nofun]
    · rw [if_neg same]
      simp only [ne_eq, same, not_false_eq_true, true_and]
  · intro found
    split at found
    · rename_i empty
      exact empty
    · cases found
  · intro empty
    rw [if_pos empty]
    rfl

theorem closed (holding : Holding nt system) {stage after : CloseStage}
    (place : system.phases owner = .closing hold stage) (handle : Option FileHandle) :
    Holding nt ((system.setHold hold { system.holds hold with handle }).setPhase owner
      (.closing hold after)) := by
  have releasing : (system.phases owner).releasing = some hold := by rw [place]; rfl
  obtain ⟨member, empty⟩ := holding.releasing owner hold releasing
  obtain ⟨uncounted, notAcquiring⟩ := holding.not_acquiring_of_depth empty member
  refine holding.touch owner { system.holds hold with handle } 0 (.closing hold after) member
    rfl rfl ?_ ?_ rfl nofun (fun deep => absurd empty deep) nofun ?_ (fun _ => empty) ?_ (fun _ => rfl) ?_
  · intro id distinct
    rw [place]
    exact ⟨nofun, fun found => distinct (Option.some.inj found).symm⟩
  · intro id distinct
    exact ⟨nofun, fun found => distinct (Option.some.inj found).symm⟩
  · change (system.holds hold).depth = _
    rw [empty]
    split
    · rfl
    · rfl
  · intro other distinct found
    exact distinct (holding.single other owner hold found releasing)
  · rw [← uncounted, Function.update_eq_self]
    rfl

theorem finishRelease (holding : Holding nt system)
    (place : system.phases owner = .closing hold .dropped) :
    Holding nt (system.finishRelease owner hold) := by
  have releasing : (system.phases owner).releasing = some hold := by rw [place]; rfl
  obtain ⟨member, empty⟩ := holding.releasing owner hold releasing
  obtain ⟨uncounted, notAcquiring⟩ := holding.not_acquiring_of_depth empty member
  have registered : (system.holder (system.holds hold).owner).isSome = true := by
    cases found : system.holder (system.holds hold).owner with
    | some _ => rfl
    | none => exact absurd rfl (holder_eq_none found _ member)
  rw [LockSystem.finishRelease, if_pos registered]
  -- The other holders are those with another hold.
  have remains {entry : LockOwner Thread Task × Nat} :
      entry ∈ (system.holders.filter fun entry => entry.1 ≠ (system.holds hold).owner) ↔
        entry ∈ system.holders ∧ entry.2 ≠ hold := by
    rw [List.mem_filter, decide_eq_true_eq]
    refine and_congr_right fun listed => not_congr ⟨fun same => ?_, fun same => ?_⟩
    · exact congrArg Prod.snd (holding.eq_of_owner listed member same)
    · exact congrArg Prod.fst (holding.eq_of_hold listed member same)
  have away {other : LockOwner Thread Task} {id : Nat} (listed : (other, id) ∈ system.holders)
      (active : system.unreleased id ≠ 0 ∨ (system.phases other).acquiring = some id) :
      id ≠ hold := by
    rintro rfl
    have same := congrArg Prod.fst (holding.eq_of_hold listed member rfl)
    dsimp only at same
    rcases active with counted | acquiring
    · exact counted uncounted
    · exact notAcquiring (same ▸ acquiring)
  let next := { system.setPhase owner .idle with
    holders := system.holders.filter fun entry => entry.1 ≠ (system.holds hold).owner }.notify
  have acquiring (other : LockOwner Thread Task) :
      (next.phases other).acquiring = (system.phases other).acquiring := by
    rw [notify_acquiring]
    exact views_setPhase Phase.acquiring rfl (by rw [place]; rfl) other
  have queued (other : LockOwner Thread Task) :
      (next.phases other).queued = (system.phases other).queued := by
    rw [notify_queued]
    exact views_setPhase Phase.queued rfl (by rw [place]; rfl) other
  have released {other : LockOwner Thread Task} {id : Nat} :
      (next.phases other).releasing = some id ↔
        (system.phases other).releasing = some id ∧ id ≠ hold := by
    rw [notify_releasing]
    change ((system.setPhase owner .idle).phases other).releasing = some id ↔ _
    by_cases same : other = owner
    · rw [same, setPhase_phases_self, releasing]
      exact iff_of_false (fun other => by cases other) fun found => found.2 (Option.some.inj found.1).symm
    · rw [setPhase_phases_of_ne same]
      refine ⟨fun found => ⟨found, ?_⟩, fun found => found.1⟩
      rintro rfl
      exact same (holding.single other owner id found releasing)
  change Holding nt next
  refine ⟨?_, ?_, ?_, ?_, ?_, ?_, ?_, ?_, ?_, ?_⟩
  · exact holding.keys.sublist (List.filter_sublist.map _)
  · exact fun entry listed => holding.owner entry (remains.mp listed).1
  · intro entry listed reason
    have only := holding.alone entry (remains.mp listed).1 reason
    have gone := only ▸ member
    rw [List.mem_singleton] at gone
    exact absurd (congrArg Prod.snd gone).symm (remains.mp listed).2
  · intro other waits entry listed
    rw [queued] at waits
    exact holding.waiting other waits entry (remains.mp listed).1
  · intro other id found
    rw [acquiring] at found
    obtain ⟨listed, notClosed⟩ := holding.acquiring other id found
    exact ⟨remains.mpr ⟨listed, away listed (.inr found)⟩, notClosed⟩
  · intro id counted
    obtain ⟨listed, opened⟩ := holding.returned id counted
    exact ⟨remains.mpr ⟨listed, away listed (.inl (Nat.ne_of_gt counted))⟩, opened⟩
  · intro entry listed
    rw [acquisitions, acquiring]
    exact holding.depth entry (remains.mp listed).1
  · intro releaser id found
    obtain ⟨found, distinct⟩ := released.mp found
    obtain ⟨listed, shallow⟩ := holding.releasing releaser id found
    exact ⟨remains.mpr ⟨listed, distinct⟩, shallow⟩
  · intro first second id firstFound secondFound
    exact holding.single first second id (released.mp firstFound).1 (released.mp secondFound).1
  · intro entry listed shallow
    obtain ⟨releaser, found⟩ := holding.closing entry (remains.mp listed).1 shallow
    exact ⟨releaser, released.mpr ⟨found, (remains.mp listed).2⟩⟩

theorem moved (holding : Holding nt system) (queueing : Queueing system)
    (moved : Moved nt system owner action next)
    (deep : acquires action = true → ∀ hold, system.holder owner = some hold →
      (system.holds hold).depth ≠ 0) : Holding nt next := by
  have same {changed : LockSystem Thread Task} (holders : changed.holders = system.holders)
      (holds : changed.holds = system.holds) (number : changed.nextHold = system.nextHold)
      (unreleased : changed.unreleased = system.unreleased)
      (acquiring : ∀ other,
        (changed.phases other).acquiring = (system.phases other).acquiring)
      (releasing : ∀ other,
        (changed.phases other).releasing = (system.phases other).releasing)
      (queued : ∀ other, (changed.phases other).queued.isSome = true →
        (system.phases other).queued.isSome = true) : Holding nt changed :=
    holding.keeps holders holds number unreleased acquiring releasing
      fun other waits => holding.waiting other (queued other waits)
  cases moved with
  | refused => exact holding
  | reentered asks idle held =>
    exact holding.reentered idle (holder_eq_some held) (deep asks _ held) _
  | @entered exclusive expired idle absent =>
    refine (holding.enqueue idle absent exclusive false).round (acquireRound_round nt _ _ _) ?_
    exact congrArg Phase.queued (setPhase_phases_self _)
  | enqueued idle absent => exact holding.enqueue idle absent _ true
  | @woken ticket notified expired place =>
    obtain rfl := (queueing.ticket owner ticket (congrArg Phase.queued place)).1
    exact holding.round (acquireRound_round nt _ _ _) (congrArg Phase.queued place)
  | @checked ticket scheduled expired place =>
    obtain rfl := (queueing.ticket owner ticket (congrArg Phase.queued place)).1
    exact holding.round (acquireAsyncRound_round nt _ _ _ _) (congrArg Phase.queued place)
  | roused place moves =>
    refine same rfl rfl rfl rfl (views_setPhase Phase.acquiring rfl ?_)
      (views_setPhase Phase.releasing rfl ?_) fun other waits => ?_
    · rw [place]
      rcases moves with rfl | rfl | rfl <;> rfl
    · rw [place]
      rcases moves with rfl | rfl | rfl <;> rfl
    · rw [← views_setPhase Phase.queued rfl ?_ other]
      · exact waits
      · rw [place]
        rcases moves with rfl | rfl | rfl <;> rfl
  | @left ticket place =>
    refine same rfl rfl rfl rfl (fun other => ?_) (fun other => ?_) fun other waits => ?_
    · rw [discard, notify_acquiring]
      exact views_setPhase Phase.acquiring rfl (by rw [place]; rfl) other
    · rw [discard, notify_releasing]
      exact views_setPhase Phase.releasing rfl (by rw [place]; rfl) other
    · rw [discard, notify_queued] at waits
      change ((system.setPhase owner .idle).phases other).queued.isSome = true at waits
      by_cases equal : other = owner
      · rw [equal, place]
        rfl
      · rwa [setPhase_phases_of_ne equal] at waits
  | leftWith place =>
    refine same rfl rfl rfl rfl (fun other => ?_) (fun other => ?_) fun other waits => ?_
    · rw [discard, notify_acquiring]
      exact views_setPhase Phase.acquiring rfl (by rw [place]; rfl) other
    · rw [discard, notify_releasing]
      exact views_setPhase Phase.releasing rfl (by rw [place]; rfl) other
    · rw [discard, notify_queued] at waits
      rw [← views_setPhase Phase.queued rfl ?_ other]
      · exact waits
      · rw [place]
        rfl
  | bound place =>
    refine same rfl rfl rfl rfl (views_setPhase Phase.acquiring rfl (by rw [place]; rfl))
      (views_setPhase Phase.releasing rfl (by rw [place]; rfl)) fun other waits => ?_
    rw [← views_setPhase Phase.queued rfl ?_ other]
    · exact waits
    · rw [place]
      rfl
  | @returned hold isAsync place opened =>
    have notClosed := (holding.acquiring owner hold (by rw [place]; rfl)).2
    have handle : (system.holds hold).handle = some .opened := by
      cases found : (system.holds hold).handle with
      | none => exact absurd found opened
      | some handle =>
        cases handle with
        | opened => rfl
        | closed => exact absurd found notClosed
    have same : system.setHold hold { system.holds hold with handle := some .opened } =
        system := by
      rw [← handle, setHold, Function.update_eq_self]
    have after := holding.returnHold (.inl place)
    rwa [same] at after
  | locked place => exact holding.returnHold (.inr place)
  | @failed hold isAsync place =>
    have acquiring : (system.phases owner).acquiring = some hold := by
      rcases place with place | place <;> rw [place] <;> rfl
    have releasing : (system.phases owner).releasing = none := by
      rcases place with place | place <;> rw [place] <;> rfl
    obtain ⟨member, -⟩ := holding.acquiring owner hold acquiring
    have depth := holding.depth _ member
    rw [acquisitions, if_pos acquiring] at depth
    dsimp only at depth
    have after := holding.beginRelease owner (system.unreleased hold) member
      (fun id distinct found => distinct (Option.some.inj (found.symm.trans acquiring)))
      releasing (Nat.le_refl _) (by rw [if_neg fun other => other.1 rfl, depth]; omega)
      (by omega)
    rwa [Function.update_eq_self] at after
  | @released hold idle counted =>
    obtain ⟨member, -⟩ := holding.returned hold counted
    have depth := holding.depth _ member
    rw [acquisitions] at depth
    dsimp only at depth
    refine holding.beginRelease owner (system.unreleased hold - 1) member
      (fun id _ => by rw [idle]; intro other; cases other) (by rw [idle]; rfl) (Nat.sub_le _ _) ?_ (by omega)
    by_cases same : (system.holds hold).owner = owner
    · rw [same, idle, if_neg fun other => by cases other] at depth
      rw [if_neg fun other => other.1 same]
      omega
    · simp only [ne_eq, same, not_false_eq_true, true_and]
      omega
  | closed place => exact holding.closed place _
  | finished place => exact holding.finishRelease place

end Holding

end LockSystem

end GraphAgent.PathLocks
