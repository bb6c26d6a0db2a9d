import GraphAgent.ToolAttemptRuns

/-!
# Steps over tool attempts

One lemma for each thing a task can do: the calls, the end of a start, and what
happens under the completion lock.  Together they keep the invariant.
-/

namespace GraphAgent.ToolAttempts

open ToolCallChunks (Registry)

section Steps

variable {attempts : List Attempt} {state after : ToolState} {task : Nat} {phase : Phase}
variable {attempt : Attempt}

theorem Invariant.initial (registry : Registry) : Invariant attempts (.initial registry) := by
  refine ⟨⟨?_, ?_, ?_, ?_, ?_, ?_, ?_, ?_⟩, ⟨?_, ?_, ?_, ?_, ?_, ?_, ?_, ?_, ?_⟩,
    ⟨?_, ?_, ?_, ?_, ?_, ?_, ?_⟩⟩ <;>
    simp [ToolState.initial, Phase.start, Phase.requests, Phase.holds, completions,
      ToolState.results]

theorem Invariant.relog (invariant : Invariant attempts state) {log : List Record}
    (ledger : Ledger attempts log state.sent) : Invariant attempts { state with log } := by
  obtain ⟨starts, completes, -⟩ := invariant
  refine ⟨⟨starts.active, starts.shared, starts.own, starts.fresh, starts.starting,
    starts.single, starts.waiting, starts.futureDone⟩, ⟨?_, completes.holder, completes.sinking,
    completes.committing, completes.pendings, completes.sentFor, completes.sentOnce,
    completes.completed, completes.resulted⟩, ledger⟩
  exact fun other request member =>
    (completes.requests other request member).mono (fun _ => id) fun _ => id

theorem Invariant.register (invariant : Invariant attempts state) (toolCallId : String) :
    Invariant attempts (state.register toolCallId) := by
  obtain ⟨starts, completes, ledger⟩ := invariant
  have known : ∀ other, state.Known other → (state.register toolCallId).Known other :=
    fun other owned => ToolState.known_register.mpr (.inr owned)
  refine ⟨⟨?_, starts.shared, starts.own, starts.fresh, ?_, starts.single, ?_,
    starts.futureDone⟩, ⟨?_, completes.holder, completes.sinking, completes.committing,
    completes.pendings, completes.sentFor, completes.sentOnce, ?_, completes.resulted⟩, ledger⟩
  · intro toolExecutionId callId toolName found
    have sound := starts.active _ _ _ found
    exact ⟨sound.1, known _ sound.2.1, sound.2.2⟩
  · intro other started found
    have sound := starts.starting _ _ found
    exact ⟨sound.1, known _ sound.2.1, sound.2.2⟩
  · intro other future callId result succeeded found
    have sound := starts.waiting _ _ _ _ _ found
    refine ⟨sound.1, sound.2.1, fun toolExecutionId toolName done => ?_⟩
    have named := sound.2.2 _ _ done
    exact ⟨named.1, known _ named.2.1, named.2.2⟩
  · exact fun other request member =>
      (completes.requests other request member).mono (fun _ => id) known
  · intro toolExecutionId member
    obtain ⟨callId, toolName, named, owned, found⟩ :=
      completes.completed toolExecutionId member
    exact ⟨callId, toolName, named, known _ owned, found⟩

theorem Completes.unlocked (completes : Completes attempts state)
    (held : (state.tasks task).holds = false) : state.lock ≠ some task := by
  rw [Ne, ← completes.holder, held]
  exact Bool.false_ne_true

theorem Completes.moveTo (completes : Completes attempts state)
    (held : (state.tasks task).holds = false) (holds : phase.holds = false)
    (requests : ∀ request ∈ phase.requests, Named attempts state request) :
    Completes attempts (state.moveTo task phase) :=
  completes.frame rfl (completes.unlocked held) holds
    (fun request member => (requests request member).mono (fun _ => id) fun _ => id)
    (fun _ => id) (fun _ => id) (fun _ _ => id) rfl rfl rfl rfl rfl rfl

theorem Starts.moveTo (starts : Starts attempts state) (apart : phase.apart = true)
    (start : ∀ attempt, phase.start = some attempt →
      (state.tasks task).start = some attempt) :
    Starts attempts (state.moveTo task phase) :=
  starts.frame rfl apart start (fun _ => Iff.rfl)
    (fun _ entry found => ⟨found, (starts.active _ entry.1 entry.2 found).2.2⟩)
    (fun _ => id) rfl rfl rfl

theorem Invariant.moveTo (invariant : Invariant attempts state)
    (held : (state.tasks task).holds = false) (apart : phase.apart = true)
    (start : phase.start = none) (holds : phase.holds = false)
    (requests : ∀ request ∈ phase.requests, Named attempts state request) :
    Invariant attempts (state.moveTo task phase) :=
  ⟨invariant.starts.moveTo apart (by simp [start]),
    invariant.completes.moveTo held holds requests, invariant.ledger⟩

theorem Invariant.fail (invariant : Invariant attempts state)
    (held : (state.tasks task).holds = false) {error : ToolError} (other : error ≠ .futureDone) :
    Invariant attempts (state.moveTo task (.failed error)) := by
  refine invariant.moveTo held ?_ rfl rfl (by simp [Phase.requests])
  cases error <;> first | rfl | exact absurd rfl other

theorem Invariant.finish (invariant : Invariant attempts state)
    (held : (state.tasks task).holds = false) :
    Invariant attempts (state.moveTo task .returned) :=
  invariant.moveTo held rfl rfl rfl (by simp [Phase.requests])

theorem completeTool_known {request : CompletionRequest} {further : List CompletionRequest}
    (known : state.Known request.toolCallId) :
    state.completeTool task request further =
      state.moveTo task (.acquiring request further) := by
  rw [ToolState.completeTool, ToolState.resolve_known known]

theorem proceed_phase (task : Nat) {further : List CompletionRequest}
    (requests : ∀ request ∈ further, Named attempts state request) :
    ∃ phase, state.proceed task further = state.moveTo task phase ∧ phase.apart = true ∧
      phase.start = none ∧ phase.holds = false ∧
      ∀ request ∈ phase.requests, Named attempts state request := by
  cases further with
  | nil => exact ⟨.returned, rfl, rfl, rfl, rfl, by simp [Phase.requests]⟩
  | cons request further =>
    refine ⟨.acquiring request further, ?_, rfl, rfl, rfl, requests⟩
    exact completeTool_known (requests request List.mem_cons_self).known

theorem Invariant.proceed (invariant : Invariant attempts state)
    (held : (state.tasks task).holds = false) {further : List CompletionRequest}
    (requests : ∀ request ∈ further, Named attempts state request) :
    Invariant attempts (state.proceed task further) := by
  obtain ⟨phase, moved, apart, start, holds, named⟩ := proceed_phase task requests
  rw [moved]
  exact invariant.moveTo held apart start holds named

theorem Starts.begin (starts : Starts attempts state) (member : attempt ∈ attempts)
    (known : state.Known attempt.toolCallId) (unbegun : ¬state.Begun attempt.toolExecutionId)
    (undone : ∀ future, state.pendingStarts.lookup attempt.toolCallId = some future →
      state.futures future = .pending)
    (alone : ∀ other another, (state.tasks other).start = some another →
      another.toolExecutionId ≠ attempt.toolExecutionId)
    (apart : phase.apart = true) (start : phase.start = some attempt) :
    Starts attempts (state.moveTo task phase) := by
  refine ⟨starts.active, starts.shared, starts.own, starts.fresh, ?_, ?_, ?_, ?_⟩
  · intro other started found
    by_cases same : other = task
    · subst same
      rw [ToolState.moveTo_tasks, Function.update_self, start] at found
      cases found
      exact ⟨member, known, unbegun, undone⟩
    · rw [ToolState.moveTo_tasks, Function.update_of_ne same] at found
      exact starts.starting other started found
  · intro first second started another firstFound secondFound same
    rw [ToolState.moveTo_tasks, Function.update_apply] at firstFound secondFound
    split at firstFound <;> split at secondFound
    · rename_i firstTask secondTask
      rw [firstTask, secondTask]
    · rw [start] at firstFound
      cases firstFound
      exact absurd same.symm (alone second another secondFound)
    · rw [start] at secondFound
      cases secondFound
      exact absurd same (alone first started firstFound)
    · exact starts.single first second started another firstFound secondFound same
  · intro other future toolCallId result succeeded found
    rw [ToolState.moveTo_tasks, Function.update_apply] at found
    split at found
    · simp [found, Phase.apart] at apart
    · exact starts.waiting other future toolCallId result succeeded found
  · intro other found
    rw [ToolState.moveTo_tasks, Function.update_apply] at found
    split at found
    · simp [found, Phase.apart] at apart
    · exact starts.futureDone other found

theorem held_of_free (free : (state.tasks task).free = true) :
    (state.tasks task).holds = false := by
  cases found : state.tasks task <;> simp_all [Phase.free, Phase.holds]

theorem Invariant.startTool (invariant : Invariant attempts state)
    (free : (state.tasks task).free = true) {toolExecutionId toolCallId toolName : String}
    (meets : StartMeets attempts state toolExecutionId toolCallId toolName) :
    Invariant attempts (state.startTool task toolExecutionId toolCallId toolName) := by
  have held := held_of_free free
  unfold ToolState.startTool
  split
  · exact invariant.finish held
  · rename_i uncompleted
    split
    · split
      · exact invariant.fail held (by simp)
      · exact invariant.finish held
    · rename_i inactive
      have registered := invariant.register (state.resolveToolCallId toolCallId)
      refine ⟨registered.starts.begin meets.names (ToolState.known_register.mpr (.inl rfl)) ?_
        meets.undone meets.alone ?_ ?_, registered.completes.moveTo held ?_ ?_,
        registered.ledger⟩
      · rintro (active | completed)
        · rw [show (state.register _).active = state.active from rfl, inactive] at active
          cases active
        · exact uncompleted completed
      all_goals split <;> simp [Phase.apart, Phase.start, Phase.holds, Phase.requests]

theorem Starts.wait (starts : Starts attempts state) {future : Nat}
    {toolCallId result : String} {succeeded : Bool} (bound : future < state.futureCount)
    (shared : state.futures future = .pending →
      state.pendingStarts.lookup toolCallId = some future)
    (unset : ∀ toolExecutionId toolName,
      state.futures future ≠ .started toolExecutionId toolName) :
    Starts attempts (state.moveTo task (.waiting future toolCallId result succeeded)) := by
  have startOf : ∀ other attempt,
      (Function.update state.tasks task (.waiting future toolCallId result succeeded)
        other).start = some attempt → (state.tasks other).start = some attempt := by
    intro other attempt found
    rw [Function.update_apply] at found
    split at found
    · cases found
    · exact found
  refine ⟨starts.active, starts.shared, starts.own, starts.fresh,
    fun other attempt found => starts.starting other attempt (startOf _ _ found),
    fun first second attempt another firstFound secondFound =>
      starts.single _ _ _ _ (startOf _ _ firstFound) (startOf _ _ secondFound), ?_, ?_⟩
  · intro other awaited callId text success found
    rw [ToolState.moveTo_tasks, Function.update_apply] at found
    split at found
    · cases found
      exact ⟨bound, shared, fun _ _ done => absurd done (unset _ _)⟩
    · exact starts.waiting other awaited callId text success found
  · intro other found
    rw [ToolState.moveTo_tasks, Function.update_apply] at found
    split at found
    · cases found
    · exact starts.futureDone other found

theorem Starts.newFuture (starts : Starts attempts state) {toolCallId : String}
    (missing : state.pendingStarts.lookup toolCallId = none)
    (unbegun : ∀ attempt ∈ attempts, attempt.toolCallId = toolCallId →
      ¬state.Begun attempt.toolExecutionId) :
    Starts attempts { state with
      futureCount := state.futureCount + 1
      pendingStarts := state.pendingStarts.insert toolCallId state.futureCount } := by
  have newPending := starts.fresh state.futureCount le_rfl
  have lookups : ∀ other future,
      (state.pendingStarts.insert toolCallId state.futureCount).lookup other = some future →
        other = toolCallId ∧ future = state.futureCount ∨
          other ≠ toolCallId ∧ state.pendingStarts.lookup other = some future := by
    intro other future found
    rw [Dictionary.lookup_insert] at found
    split at found
    · rename_i same
      exact .inl ⟨same.symm, (Option.some.inj found).symm⟩
    · rename_i different
      exact .inr ⟨Ne.symm different, found⟩
  refine ⟨starts.active, ?_, ?_, fun future bound => starts.fresh future (Nat.le_of_succ_le bound),
    ?_, starts.single, ?_, starts.futureDone⟩
  · intro other future found
    rcases lookups other future found with ⟨rfl, rfl⟩ | ⟨-, before⟩
    · refine ⟨Nat.lt_succ_self _, fun _ _ => ?_, unbegun⟩
      rw [newPending]
      simp
    · have sound := starts.shared other future before
      exact ⟨Nat.lt_succ_of_lt sound.1, sound.2⟩
  · intro first second future firstFound secondFound
    rcases lookups first future firstFound with ⟨rfl, rfl⟩ | ⟨-, firstBefore⟩ <;>
      rcases lookups second _ secondFound with ⟨rfl, same⟩ | ⟨-, secondBefore⟩
    · rfl
    · exact absurd (starts.shared _ _ secondBefore).1 (lt_irrefl _)
    · subst same
      exact absurd (starts.shared _ _ firstBefore).1 (lt_irrefl _)
    · exact starts.own _ _ _ firstBefore secondBefore
  · intro other attempt found
    have sound := starts.starting other attempt found
    refine ⟨sound.1, sound.2.1, sound.2.2.1, fun future shared => ?_⟩
    rcases lookups _ future shared with ⟨-, rfl⟩ | ⟨-, before⟩
    · exact newPending
    · exact sound.2.2.2 future before
  · intro other future callId result succeeded found
    have sound := starts.waiting other future callId result succeeded found
    refine ⟨Nat.lt_succ_of_lt sound.1, fun pending => ?_, sound.2.2⟩
    have before := sound.2.1 pending
    rw [Dictionary.lookup_insert_of_ne]
    · exact before
    · rintro rfl
      rw [missing] at before
      cases before

theorem mem_attemptsOf {toolCallId toolExecutionId toolName : String} :
    (toolExecutionId, toolName) ∈ state.attemptsOf toolCallId ↔
      state.active.lookup toolExecutionId = some (toolCallId, toolName) := by
  rw [Dictionary.lookup_eq_some]
  simp only [ToolState.attemptsOf, List.mem_filterMap, Option.ite_none_right_eq_some,
    Option.some.injEq, Prod.mk.injEq]
  constructor
  · rintro ⟨⟨found, callId, name⟩, member, rfl, rfl, rfl⟩
    exact member
  · intro member
    exact ⟨_, member, rfl, rfl, rfl⟩

theorem Starts.named (starts : Starts attempts state) {request : CompletionRequest}
    (active : state.active.lookup request.toolExecutionId =
      some (request.toolCallId, request.toolName)) : Named attempts state request := by
  have sound := starts.active _ _ _ active
  refine ⟨sound.1, sound.2.1, .inl ?_⟩
  rw [active]
  rfl

theorem Invariant.completeTool (invariant : Invariant attempts state)
    (held : (state.tasks task).holds = false) {request : CompletionRequest}
    (named : Named attempts state request) :
    Invariant attempts (state.completeTool task request []) := by
  rw [completeTool_known named.known]
  exact invariant.moveTo held rfl rfl rfl (by simpa [Phase.requests] using named)

theorem Invariant.completeToolFromMessage (invariant : Invariant attempts state)
    (distinct : Distinct attempts) (free : (state.tasks task).free = true)
    (modelCallId toolCallId result : String) (succeeded : Bool) :
    Invariant attempts
      (state.completeToolFromMessage task modelCallId toolCallId result succeeded) := by
  have held := held_of_free free
  unfold ToolState.completeToolFromMessage
  split
  · exact invariant.finish held
  · rename_i callId emitted
    split
    · exact invariant.finish held
    · rename_i unresulted
      split
      · rename_i toolExecutionId toolName only
        have listed : (toolExecutionId, toolName) ∈ state.attemptsOf callId := by
          rw [only]
          exact List.mem_singleton_self _
        exact invariant.completeTool held (invariant.starts.named (mem_attemptsOf.mp listed))
      · exact invariant.fail held (by simp)
      · rename_i none
        split
        · rename_i future found
          have shared := invariant.starts.shared _ _ found
          exact ⟨invariant.starts.wait shared.1 (fun _ => found) shared.2.1,
            invariant.completes.moveTo held rfl (by simp [Phase.requests]), invariant.ledger⟩
        · rename_i missing
          have unbegun : ∀ attempt ∈ attempts, attempt.toolCallId = callId →
              ¬state.Begun attempt.toolExecutionId := by
            rintro attempt member rfl (active | completed)
            · obtain ⟨entry, found⟩ := Option.isSome_iff_exists.mp active
              have sound := invariant.starts.active _ entry.1 entry.2 found
              have same := distinct.executions _ sound.1 _ member rfl
              have listed : (attempt.toolExecutionId, entry.2) ∈
                  state.attemptsOf attempt.toolCallId := by
                rw [mem_attemptsOf, found, ← same]
              rw [none] at listed
              cases listed
            · obtain ⟨callId, toolName, named, -, found⟩ :=
                invariant.completes.completed _ completed
              have same := distinct.executions _ named _ member rfl
              rw [← same] at unresulted
              exact unresulted (by simp [Dictionary.has, found])
          have starts := invariant.starts.newFuture missing unbegun
          refine ⟨starts.wait (Nat.lt_succ_self _) (fun _ => ?_) ?_,
            invariant.completes.frame rfl (invariant.completes.unlocked held) rfl
              (by simp [Phase.requests]) (fun _ => id) (fun _ => id) (fun _ _ => id)
              rfl rfl rfl rfl rfl rfl, invariant.ledger⟩
          · exact Dictionary.lookup_insert_self
          · intro toolExecutionId toolName
            change state.futures state.futureCount ≠ _
            rw [invariant.starts.fresh _ le_rfl]
            simp

theorem Invariant.failToolInvocation (invariant : Invariant attempts state)
    (free : (state.tasks task).free = true) (modelCallId toolCallId error : String) :
    Invariant attempts (state.failToolInvocation task modelCallId toolCallId error) := by
  have held := held_of_free free
  unfold ToolState.failToolInvocation
  split
  · exact invariant.finish held
  · rename_i callId emitted
    split
    · exact invariant.finish held
    · split
      · rename_i toolExecutionId toolName only
        have listed : (toolExecutionId, toolName) ∈ state.attemptsOf callId := by
          rw [only]
          exact List.mem_singleton_self _
        exact invariant.completeTool held (invariant.starts.named (mem_attemptsOf.mp listed))
      · exact invariant.fail held (by simp)
      · exact invariant.finish held

theorem Invariant.active_of_open (invariant : Invariant attempts state)
    (listed : attempt ∈ state.openAttempts) :
    state.active.lookup attempt.toolExecutionId =
      some (attempt.toolCallId, attempt.toolName) := by
  rcases List.mem_append.mp listed with listed | listed
  · obtain ⟨entry, member, rfl⟩ := List.mem_map.mp listed
    exact Dictionary.lookup_eq_some.mpr member
  · obtain ⟨⟨toolExecutionId, pending⟩, member, rfl⟩ := List.mem_map.mp listed
    have found := Dictionary.lookup_eq_some.mpr (List.mem_filter.mp member).1
    exact (invariant.completes.pendings _ _ found).2.2

theorem Invariant.failActiveToolExecutions (invariant : Invariant attempts state)
    (free : (state.tasks task).free = true) (completionReason error : String) :
    Invariant attempts (state.failActiveToolExecutions task completionReason error) := by
  refine invariant.proceed (held_of_free free) fun request listed => ?_
  obtain ⟨attempt, member, rfl⟩ := List.mem_map.mp listed
  exact invariant.starts.named (invariant.active_of_open member)

theorem Invariant.wake (invariant : Invariant attempts state)
    (woken : state.step (.wake task) = some after) : Invariant attempts after := by
  simp only [ToolState.step] at woken
  split at woken
  · rename_i future toolCallId result succeeded waits
    have held : (state.tasks task).holds = false := by rw [waits]; rfl
    split at woken
    · cases woken
    · rename_i toolExecutionId toolName done
      cases woken
      have named := (invariant.starts.waiting _ _ _ _ _ waits).2.2 _ _ done
      exact invariant.completeTool held ⟨named.1, named.2.1, named.2.2⟩
    · cases woken
      exact invariant.fail held (by simp)
  · cases woken

theorem Starts.future_ne (starts : Starts attempts state) {toolCallId other : String}
    {future another : Nat} (found : state.pendingStarts.lookup toolCallId = some future)
    (also : state.pendingStarts.lookup other = some another) (different : other ≠ toolCallId) :
    another ≠ future := by
  rintro rfl
  exact different (starts.own _ _ _ also found)

theorem Starts.settleFailed (starts : Starts attempts state) (distinct : Distinct attempts)
    (started : (state.tasks task).start = some attempt) {future : Nat} {failure : Failure}
    {error : ToolError} (other : error ≠ .futureDone)
    (found : state.pendingStarts.lookup attempt.toolCallId = some future) :
    Starts attempts
      ((state.settle future (.failed failure)).moveTo task (.failed error)) := by
  have sound := starts.starting task attempt started
  have bound := (starts.shared _ _ found).1
  refine ⟨starts.active, ?_, starts.own, ?_, ?_, ?_, ?_, ?_⟩
  · intro toolCallId another also
    have shared := starts.shared toolCallId another also
    refine ⟨shared.1, fun toolExecutionId toolName => ?_, shared.2.2⟩
    change Function.update state.futures future _ another ≠ _
    rw [Function.update_apply]
    split
    · simp
    · exact shared.2.1 toolExecutionId toolName
  · intro another outside
    change Function.update state.futures future _ another = _
    rw [Function.update_of_ne (by rintro rfl; exact absurd bound (not_lt.mpr outside))]
    exact starts.fresh another outside
  · intro another start startOf
    obtain ⟨different, startOf⟩ := ToolState.moveTo_start rfl startOf
    have before := starts.starting another start startOf
    refine ⟨before.1, before.2.1, before.2.2.1, fun later also => ?_⟩
    have callsDiffer : start.toolCallId ≠ attempt.toolCallId := by
      intro same
      have equal := distinct.calls _ before.1 _ sound.1 same
      exact different (starts.single _ _ _ _ startOf started (by rw [equal]))
    change Function.update state.futures future _ later = _
    rw [Function.update_of_ne (starts.future_ne found also callsDiffer)]
    exact before.2.2.2 later also
  · intro first second one two firstOf secondOf
    exact starts.single _ _ _ _ (ToolState.moveTo_start rfl firstOf).2
      (ToolState.moveTo_start rfl secondOf).2
  · intro another awaited callId result succeeded waits
    rcases ToolState.moveTo_cases waits with ⟨-, phase⟩ | ⟨-, phase⟩
    · cases phase
    · have before := starts.waiting another awaited callId result succeeded phase
      change awaited < state.futureCount ∧
        (Function.update state.futures future _ awaited = _ → _) ∧
          ∀ _ _, Function.update state.futures future _ awaited = _ → _
      rw [Function.update_apply]
      split
      · exact ⟨before.1, fun pending => (by cases pending), fun _ _ done => (by cases done)⟩
      · exact before
  · intro another ended
    rcases ToolState.moveTo_cases ended with ⟨-, phase⟩ | ⟨-, phase⟩
    · exact other (Phase.failed.inj phase.symm)
    · exact starts.futureDone another phase

theorem held_of_start (started : (state.tasks task).start = some attempt) :
    (state.tasks task).holds = false := by
  cases found : state.tasks task <;> simp_all [Phase.start, Phase.holds]

theorem Invariant.failStart (invariant : Invariant attempts state)
    (distinct : Distinct attempts) (started : (state.tasks task).start = some attempt)
    (failure : Failure) : Invariant attempts (state.failStart task attempt failure) := by
  have held := held_of_start started
  unfold ToolState.failStart
  split
  · exact invariant.fail held (by simp)
  · rename_i future found
    split
    · exact ⟨invariant.starts.settleFailed distinct started (by simp) found,
        invariant.completes.frame rfl (invariant.completes.unlocked held) rfl
          (by simp [Phase.requests]) (fun _ => id) (fun _ => id) (fun _ _ => id)
          rfl rfl rfl rfl rfl rfl, invariant.ledger⟩
    · exact invariant.fail held (by simp)

theorem Starts.finish (starts : Starts attempts state) (distinct : Distinct attempts)
    (started : (state.tasks task).start = some attempt) {futures : Nat → StartFuture}
    (settled : ∀ future, futures future = state.futures future ∨
      state.pendingStarts.lookup attempt.toolCallId = some future ∧
        futures future = .started attempt.toolExecutionId attempt.toolName)
    (released : ∀ future, state.pendingStarts.lookup attempt.toolCallId = some future →
      futures future = .started attempt.toolExecutionId attempt.toolName) :
    Starts attempts ({ state with
      active := state.active.insert attempt.toolExecutionId
        (attempt.toolCallId, attempt.toolName)
      pendingStarts := state.pendingStarts.erase attempt.toolCallId
      futures }.moveTo task .returned) := by
  have sound := starts.starting task attempt started
  have kept : ∀ toolCallId future,
      (state.pendingStarts.erase attempt.toolCallId).lookup toolCallId = some future →
        toolCallId ≠ attempt.toolCallId ∧
          state.pendingStarts.lookup toolCallId = some future ∧
            futures future = state.futures future := by
    intro toolCallId future found
    rw [Dictionary.lookup_erase] at found
    split at found
    · cases found
    · rename_i different
      refine ⟨Ne.symm different, found, (settled future).resolve_right ?_⟩
      exact fun same => different (starts.own _ _ _ same.1 found)
  have begun : ∀ toolExecutionId,
      ((state.active.insert attempt.toolExecutionId
          (attempt.toolCallId, attempt.toolName)).lookup toolExecutionId).isSome ∨
          toolExecutionId ∈ state.completedExecutions →
        toolExecutionId = attempt.toolExecutionId ∨ state.Begun toolExecutionId := by
    intro toolExecutionId
    rw [Dictionary.lookup_insert]
    split
    · exact fun _ => .inl (by assumption : attempt.toolExecutionId = toolExecutionId).symm
    · exact .inr
  refine ⟨?_, ?_, ?_, ?_, ?_, ?_, ?_, ?_⟩
  · intro toolExecutionId toolCallId toolName found
    change (state.active.insert _ _).lookup _ = _ at found
    rw [Dictionary.lookup_insert] at found
    split at found
    · rename_i same
      cases same
      cases found
      exact ⟨sound.1, sound.2.1, fun completed => sound.2.2.1 (.inr completed)⟩
    · exact starts.active _ _ _ found
  · intro toolCallId future found
    obtain ⟨different, before, same⟩ := kept toolCallId future found
    have shared := starts.shared _ _ before
    refine ⟨shared.1, fun toolExecutionId toolName => ?_, ?_⟩
    · change futures future ≠ _
      rw [same]
      exact shared.2.1 _ _
    · rintro another member rfl now
      rcases begun _ now with equal | already
      · exact different (by rw [distinct.executions _ member _ sound.1 equal])
      · exact shared.2.2 another member rfl already
  · intro first second future firstFound secondFound
    exact starts.own _ _ _ (kept _ _ firstFound).2.1 (kept _ _ secondFound).2.1
  · intro future outside
    have unshared : state.pendingStarts.lookup attempt.toolCallId ≠ some future :=
      fun found => absurd (starts.shared _ _ found).1 (not_lt.mpr outside)
    exact ((settled future).resolve_right fun same => unshared same.1).trans
      (starts.fresh future outside)
  · intro other another found
    obtain ⟨different, found⟩ := ToolState.moveTo_start rfl found
    have before := starts.starting other another found
    refine ⟨before.1, before.2.1, fun now => ?_, fun future lookedUp => ?_⟩
    · rcases begun _ now with equal | already
      · exact different (starts.single _ _ _ _ found started equal)
      · exact before.2.2.1 already
    · obtain ⟨-, lookedUp, same⟩ := kept _ _ lookedUp
      exact same.trans (before.2.2.2 future lookedUp)
  · intro first second one two firstOf secondOf
    exact starts.single _ _ _ _ (ToolState.moveTo_start rfl firstOf).2
      (ToolState.moveTo_start rfl secondOf).2
  · intro other future toolCallId result succeeded waits
    rcases ToolState.moveTo_cases waits with ⟨-, phase⟩ | ⟨-, waits⟩
    · cases phase
    have before := starts.waiting _ _ _ _ _ waits
    refine ⟨before.1, fun pending => ?_, fun toolExecutionId toolName done => ?_⟩
    · change futures future = _ at pending
      rcases settled future with same | ⟨-, now⟩
      · have lookedUp := before.2.1 (same ▸ pending)
        change (state.pendingStarts.erase _).lookup _ = _
        rw [Dictionary.lookup_erase, if_neg, lookedUp]
        rintro rfl
        rw [released future lookedUp] at pending
        cases pending
      · rw [now] at pending
        cases pending
    · change futures future = _ at done
      rcases settled future with same | ⟨lookedUp, now⟩
      · have named := before.2.2 toolExecutionId toolName (same ▸ done)
        refine ⟨named.1, named.2.1, named.2.2.imp_left fun active => ?_⟩
        change ((state.active.insert _ _).lookup _).isSome
        rw [Dictionary.lookup_insert]
        split
        · rfl
        · exact active
      · rw [now] at done
        cases done
        have sameCall := starts.own _ _ _ lookedUp
          (before.2.1 (sound.2.2.2 future lookedUp))
        rw [← sameCall]
        refine ⟨sound.1, sound.2.1, .inl ?_⟩
        change ((state.active.insert _ _).lookup _).isSome
        rw [Dictionary.lookup_insert_self]
        rfl
  · intro other ended
    rcases ToolState.moveTo_cases ended with ⟨-, phase⟩ | ⟨-, phase⟩
    · cases phase
    · exact starts.futureDone other phase

theorem Invariant.finishStart (invariant : Invariant attempts state)
    (distinct : Distinct attempts) (started : (state.tasks task).start = some attempt) :
    Invariant attempts (state.finishStart task attempt) := by
  have held := held_of_start started
  have sound := invariant.starts.starting task attempt started
  have kept : ∀ toolExecutionId entry, state.active.lookup toolExecutionId = some entry →
      (state.active.insert attempt.toolExecutionId
        (attempt.toolCallId, attempt.toolName)).lookup toolExecutionId = some entry := by
    intro toolExecutionId entry found
    rw [Dictionary.lookup_insert_of_ne, found]
    rintro rfl
    exact sound.2.2.1 (.inl (by rw [found]; rfl))
  have begun : ∀ toolExecutionId, state.Begun toolExecutionId →
      ((state.active.insert attempt.toolExecutionId
        (attempt.toolCallId, attempt.toolName)).lookup toolExecutionId).isSome ∨
          toolExecutionId ∈ state.completedExecutions := by
    rintro toolExecutionId (active | completed)
    · obtain ⟨entry, found⟩ := Option.isSome_iff_exists.mp active
      exact .inl (by rw [kept _ _ found]; rfl)
    · exact .inr completed
  have completes : ∀ futures, Completes attempts ({ state with
      active := state.active.insert attempt.toolExecutionId
        (attempt.toolCallId, attempt.toolName)
      pendingStarts := state.pendingStarts.erase attempt.toolCallId
      futures }.moveTo task .returned) := fun futures =>
    invariant.completes.frame rfl (invariant.completes.unlocked held) rfl
      (by simp [Phase.requests]) begun (fun _ => id) kept rfl rfl rfl rfl rfl rfl
  unfold ToolState.finishStart
  split
  · rename_i none
    refine ⟨invariant.starts.finish distinct started (fun _ => .inl rfl) ?_,
      completes state.futures, invariant.ledger⟩
    intro future found
    rw [none] at found
    cases found
  · rename_i future found
    rw [if_pos (sound.2.2.2 future found)]
    refine ⟨invariant.starts.finish distinct started (fun other => ?_) fun other also => ?_,
      completes _, invariant.ledger⟩
    · by_cases same : other = future
      · subst same
        exact .inr ⟨found, Function.update_self _ _ _⟩
      · exact .inl (Function.update_of_ne same _ _)
    · rw [Option.some.inj (also.symm.trans found)]
      exact Function.update_self _ _ _

theorem Completes.others (completes : Completes attempts state)
    (lock : state.lock = none ∨ state.lock = some task) {other : Nat} (different : other ≠ task) :
    (state.tasks other).holds = false := by
  by_contra held
  have owner := (completes.holder other).mp (by simpa using held)
  rcases lock with lock | lock <;> rw [lock] at owner <;> cases owner
  exact different rfl

theorem Invariant.failLocked (invariant : Invariant attempts state)
    (lock : state.lock = some task) {error : ToolError} (other : error ≠ .futureDone) :
    Invariant attempts (state.failLocked task error) := by
  obtain ⟨starts, completes, ledger⟩ := invariant
  have apart : (Phase.failed error).apart = true := by
    cases error <;> first | rfl | exact absurd rfl other
  refine ⟨starts.frame rfl apart (fun _ found => by cases found) (fun _ => Iff.rfl)
    (fun _ entry found => ⟨found, (starts.active _ entry.1 entry.2 found).2.2⟩)
    (fun _ => id) rfl rfl rfl,
    completes.locked (fun _ => completes.others (.inr lock)) rfl rfl (by simp [Phase.requests])
      (fun _ => id) (fun _ => id) (fun _ _ found => by cases found)
      (fun _ _ _ found => by cases found) completes.pendings completes.sentFor
      completes.sentOnce completes.completed completes.resulted, ledger⟩

theorem Invariant.sendPending (invariant : Invariant attempts state)
    (lock : state.lock = none) {pending : PendingToolCompletion} {toolExecutionId : String}
    {further : List CompletionRequest}
    (found : state.pendingCompletions.lookup toolExecutionId = some pending)
    (requests : ∀ request ∈ further, Named attempts state request) :
    Invariant attempts (state.sendPending task pending false further) := by
  obtain ⟨starts, completes, ledger⟩ := invariant
  have sound := completes.pendings _ _ found
  have sentBefore : ∀ other ∈ state.sent ++ [pending], other ∈ state.sent := by
    intro other member
    rcases List.mem_append.mp member with member | member
    · exact member
    · rw [List.mem_singleton.mp member]
      exact sound.2.1
  refine ⟨starts.frame rfl rfl (fun _ found => by cases found) (fun _ => Iff.rfl)
    (fun _ entry found => ⟨found, (starts.active _ entry.1 entry.2 found).2.2⟩)
    (fun _ => id) rfl rfl rfl,
    completes.locked (fun _ => completes.others (.inl lock)) rfl rfl
      (fun request member => (requests request member).mono (fun _ => id) fun _ => id)
      (fun _ => id) (fun _ => id) (fun _ _ found => by cases found) ?_ ?_
      (fun other member => completes.sentFor other (sentBefore other member))
      (fun first firstIn second secondIn =>
        completes.sentOnce first (sentBefore _ firstIn) second (sentBefore _ secondIn))
      completes.completed completes.resulted,
    ledger.send (fun other member => ledger.sentIds other member pending sound.2.1)
      (ledger.sentAfter pending sound.2.1)⟩
  · intro other observerFailed rest same
    cases same
    rw [← sound.1] at found
    exact found
  · intro other later lookedUp
    have before := completes.pendings other later lookedUp
    exact ⟨before.1, List.mem_append_left _ before.2.1, before.2.2⟩

theorem Invariant.active_of_named (invariant : Invariant attempts state)
    (distinct : Distinct attempts) {request : CompletionRequest}
    (named : Named attempts state request)
    (uncompleted : request.toolExecutionId ∉ state.completedExecutions) :
    state.active.lookup request.toolExecutionId =
      some (request.toolCallId, request.toolName) := by
  obtain ⟨entry, found⟩ := Option.isSome_iff_exists.mp (named.begun.resolve_right uncompleted)
  have sound := invariant.starts.active _ entry.1 entry.2 found
  have same := distinct.executions _ sound.1 _ named.names rfl
  rw [found]
  simp only [Attempt.mk.injEq, true_and] at same
  rw [← same.1, ← same.2]

theorem Invariant.callSink (invariant : Invariant attempts state) (lock : state.lock = none)
    {prepared : Prepared} {further : List CompletionRequest}
    (active : state.active.lookup prepared.completion.toolAttemptId =
      some (prepared.completion.toolCallId, prepared.completion.toolName))
    (absent : state.pendingCompletions.lookup prepared.completion.toolAttemptId = none)
    (requests : ∀ request ∈ further, Named attempts state request) :
    Invariant attempts
      ({ state with lock := some task }.moveTo task (.sinking prepared further)) := by
  obtain ⟨starts, completes, ledger⟩ := invariant
  refine ⟨starts.frame rfl rfl (fun _ found => by cases found) (fun _ => Iff.rfl)
    (fun _ entry found => ⟨found, (starts.active _ entry.1 entry.2 found).2.2⟩)
    (fun _ => id) rfl rfl rfl,
    completes.locked (fun _ => completes.others (.inl lock)) rfl rfl
      (fun request member => (requests request member).mono (fun _ => id) fun _ => id)
      (fun _ => id) (fun _ => id) ?_ (fun _ _ _ found => by cases found) completes.pendings
      completes.sentFor completes.sentOnce completes.completed completes.resulted, ledger⟩
  intro other rest same
  cases same
  exact ⟨active, absent⟩

theorem Invariant.enterCompletion (invariant : Invariant attempts state)
    (distinct : Distinct attempts) {request : CompletionRequest}
    {further : List CompletionRequest} (acquiring : state.tasks task = .acquiring request further)
    (lock : state.lock = none) :
    Invariant attempts (state.enterCompletion task request further) := by
  have held : (state.tasks task).holds = false := by rw [acquiring]; rfl
  have requests : ∀ other ∈ request :: further, Named attempts state other := by
    have all := invariant.completes.requests task
    rwa [acquiring] at all
  have rest : ∀ other ∈ further, Named attempts state other :=
    fun other member => requests other (List.mem_cons_of_mem _ member)
  unfold ToolState.enterCompletion
  split
  · exact invariant.proceed held rest
  · rename_i uncompleted
    split
    · rename_i pending found
      split
      · exact invariant.fail held (by simp)
      · exact invariant.sendPending lock found rest
    · rename_i absent
      split
      · split
        · exact invariant.proceed held rest
        · exact invariant.fail held (by simp)
      · have registered := invariant.register request.toolCallId
        have active := invariant.active_of_named distinct
          (requests request List.mem_cons_self) uncompleted
        dsimp only
        split
        · refine registered.callSink lock active absent fun other member => ?_
          exact (rest other member).mono (fun _ => id)
            fun _ known => ToolState.known_register.mpr (.inr known)
        · exact registered.fail held (by simp)

theorem Invariant.makePending (invariant : Invariant attempts state) {prepared : Prepared}
    {payload : CompletedPayload} {observerFailed : Bool} {further : List CompletionRequest}
    (lock : state.lock = some task)
    (active : state.active.lookup prepared.completion.toolAttemptId =
      some (prepared.completion.toolCallId, prepared.completion.toolName))
    (absent : state.pendingCompletions.lookup prepared.completion.toolAttemptId = none)
    (committed : ∃ item ∈ ToolState.results state.log,
      item.toolAttemptId = prepared.completion.toolAttemptId ∧
        item.toolCallId = prepared.completion.toolCallId)
    (requests : ∀ request ∈ further, Named attempts state request) :
    Invariant attempts
      (state.makePending task prepared payload observerFailed further) := by
  obtain ⟨starts, completes, ledger⟩ := invariant
  have unsent : ∀ other ∈ state.sent,
      prepared.completion.toolAttemptId ≠ other.toolExecutionId := by
    intro other member same
    rcases (completes.sentFor other member).2 with pending | completed
    · rw [← same, absent] at pending
      cases pending
    · exact (starts.active _ _ _ active).2.2 (same ▸ completed)
  refine ⟨starts.frame rfl rfl (fun _ found => by cases found) (fun _ => Iff.rfl)
    (fun _ entry found => ⟨found, (starts.active _ entry.1 entry.2 found).2.2⟩)
    (fun _ => id) rfl rfl rfl,
    completes.locked (fun _ => completes.others (.inr lock)) rfl rfl
      (fun request member => (requests request member).mono (fun _ => id) fun _ => id)
      (fun _ => id) (fun _ => id) (fun _ _ found => by cases found) ?_ ?_ ?_ ?_
      completes.completed completes.resulted,
    ledger.send (fun other member same => ?_) committed⟩
  · intro pending failed rest same
    cases same
    exact Dictionary.lookup_insert_self
  · intro toolExecutionId pending found
    change (state.pendingCompletions.insert _ _).lookup _ = _ at found
    rw [Dictionary.lookup_insert] at found
    split at found
    · rename_i same
      cases found
      refine ⟨same, List.mem_append_right _ (List.mem_singleton_self _), ?_⟩
      rw [← same]
      exact active
    · have before := completes.pendings _ _ found
      exact ⟨before.1, List.mem_append_left _ before.2.1, before.2.2⟩
  · intro pending member
    change _ ∧ ((state.pendingCompletions.insert _ _).lookup _ = _ ∨ _)
    rcases List.mem_append.mp member with member | member
    · have before := completes.sentFor pending member
      refine ⟨Nat.lt_succ_of_lt before.1, before.2.imp_left fun found => ?_⟩
      rw [Dictionary.lookup_insert_of_ne (unsent pending member)]
      exact found
    · rw [List.mem_singleton.mp member]
      exact ⟨Nat.lt_succ_self _, .inl Dictionary.lookup_insert_self⟩
  · intro first firstIn second secondIn same
    rcases List.mem_append.mp firstIn with firstIn | firstIn <;>
      rcases List.mem_append.mp secondIn with secondIn | secondIn
    · exact completes.sentOnce first firstIn second secondIn same
    · rw [List.mem_singleton.mp secondIn] at same
      exact absurd same.symm (unsent first firstIn)
    · rw [List.mem_singleton.mp firstIn] at same
      exact absurd same (unsent second secondIn)
    · rw [List.mem_singleton.mp firstIn, List.mem_singleton.mp secondIn]
  · exact absurd same (Nat.ne_of_lt (completes.sentFor other member).1)

theorem Invariant.afterSink (invariant : Invariant attempts state) {prepared : Prepared}
    {further : List CompletionRequest} (sinking : state.tasks task = .sinking prepared further)
    (fault : Option ToolState.SinkFault) :
    Invariant attempts (state.afterSink task prepared further fault) := by
  have lock : state.lock = some task :=
    (invariant.completes.holder task).mp (by rw [sinking]; rfl)
  have sound := invariant.completes.sinking task prepared further sinking
  have named := (invariant.starts.active _ _ _ sound.1).1
  have rest : ∀ other ∈ further, Named attempts state other := by
    have all := invariant.completes.requests task
    rwa [sinking] at all
  have relogged : ∀ log item,
      ToolState.commitToolResult state.log prepared.completion = some (log, item) →
        Invariant attempts { state with log } :=
    fun log item commits => invariant.relog (invariant.ledger.commit named commits).1
  have made : ∀ log item payload failed,
      ToolState.commitToolResult state.log prepared.completion = some (log, item) →
        Invariant attempts
          ({ state with log }.makePending task prepared payload failed further) :=
    fun log item payload failed commits =>
      (relogged log item commits).makePending lock sound.1 sound.2
        (invariant.ledger.commit named commits).2
        fun request member => (rest request member).mono (fun _ => id) fun _ => id
  unfold ToolState.afterSink
  split
  · exact invariant.failLocked lock (by simp)
  · exact invariant.failLocked lock (by simp)
  · rename_i log item failure commits
    exact (relogged log item commits).failLocked lock (by simp)
  · exact invariant.failLocked lock (by simp)
  · rename_i log item commits
    split
    · exact (relogged log item commits).failLocked lock (by simp)
    · exact made log item _ _ commits
  · rename_i log item commits
    exact made log item _ _ commits

theorem Invariant.finishCompletion (invariant : Invariant attempts state)
    (distinct : Distinct attempts) {pending : PendingToolCompletion} {observerFailed : Bool}
    {further : List CompletionRequest}
    (committing : state.tasks task = .committing pending observerFailed further) :
    Invariant attempts (state.finishCompletion task pending observerFailed further) := by
  obtain ⟨starts, completes, ledger⟩ := invariant
  have lock : state.lock = some task :=
    (completes.holder task).mp (by rw [committing]; rfl)
  have found := completes.committing _ _ _ _ committing
  obtain ⟨-, sent, active⟩ := completes.pendings _ _ found
  have named := starts.active _ _ _ active
  have rest : ∀ other ∈ further, Named attempts state other := by
    have all := completes.requests task
    rwa [committing] at all
  unfold ToolState.finishCompletion
  extract_lets finished
  have begun : ∀ toolExecutionId,
      finished.Begun toolExecutionId ↔ state.Begun toolExecutionId := by
    intro toolExecutionId
    change ((state.active.erase _).lookup _).isSome = true ∨ _ ∈ _ :: _ ↔ _
    rw [Dictionary.lookup_erase, List.mem_cons]
    split
    · rename_i same
      subst same
      simp [ToolState.Begun, active]
    · rename_i different
      simp [ToolState.Begun, Ne.symm different]
  have ends : ∀ phase : Phase, phase.apart = true → phase.start = none →
      phase.holds = false → (∀ request ∈ phase.requests, Named attempts finished request) →
      Invariant attempts (finished.moveTo task phase) := by
    intro phase apart start holds requests
    refine ⟨starts.frame rfl apart (by simp [start]) begun ?_ (fun _ => id) rfl rfl rfl,
      completes.locked (fun _ => completes.others (.inr lock)) rfl ?_
        (fun request member => (requests request member).mono (fun _ => id) fun _ => id)
        (fun toolExecutionId => (begun toolExecutionId).mpr) (fun _ => id) ?_ ?_ ?_ ?_
        completes.sentOnce ?_ ?_, ledger.recordCompleted sent⟩
    · intro toolExecutionId entry lookedUp
      change (state.active.erase _).lookup _ = _ at lookedUp
      rw [Dictionary.lookup_erase] at lookedUp
      split at lookedUp
      · cases lookedUp
      · rename_i different
        refine ⟨lookedUp, ?_⟩
        change _ ∉ _ :: _
        rw [List.mem_cons]
        rintro (rfl | completed)
        · exact different rfl
        · exact (starts.active _ entry.1 entry.2 lookedUp).2.2 completed
    · rw [holds]
      rfl
    · intro prepared later same
      rw [same] at holds
      cases holds
    · intro other failed later same
      rw [same] at holds
      cases holds
    · intro toolExecutionId other lookedUp
      change (state.pendingCompletions.erase _).lookup _ = _ at lookedUp
      change _ ∧ _ ∧ (state.active.erase _).lookup _ = _
      rw [Dictionary.lookup_erase] at lookedUp ⊢
      split at lookedUp
      · cases lookedUp
      · rename_i different
        rw [if_neg different]
        exact completes.pendings _ _ lookedUp
    · intro other member
      have before := completes.sentFor other member
      refine ⟨before.1, ?_⟩
      change (state.pendingCompletions.erase _).lookup _ = _ ∨ _ ∈ _ :: _
      rw [Dictionary.lookup_erase, List.mem_cons]
      split
      · rename_i same
        exact .inr (.inl same.symm)
      · exact before.2.imp_right .inr
    · intro toolExecutionId member
      change ∃ toolCallId toolName, _ ∧ _ ∧
        (state.resultExecutions.insert _ _).lookup toolCallId = _
      rcases List.mem_cons.mp member with rfl | member
      · exact ⟨_, _, named.1, named.2.1, Dictionary.lookup_insert_self⟩
      · obtain ⟨toolCallId, toolName, listed, known, lookedUp⟩ :=
          completes.completed toolExecutionId member
        refine ⟨toolCallId, toolName, listed, known, ?_⟩
        rw [Dictionary.lookup_insert]
        split
        · rename_i same
          have equal := distinct.calls _ listed _ named.1 same.symm
          rw [← (Attempt.mk.inj equal).1]
        · exact lookedUp
    · intro toolCallId toolExecutionId lookedUp
      change (state.resultExecutions.insert _ _).lookup _ = _ at lookedUp
      change _ ∈ _ :: _ ∧ _
      rw [Dictionary.lookup_insert] at lookedUp
      split at lookedUp
      · rename_i same
        cases same
        cases lookedUp
        exact ⟨List.mem_cons_self, _, named.1⟩
      · have before := completes.resulted _ _ lookedUp
        exact ⟨List.mem_cons_of_mem _ before.1, before.2⟩
  split
  · exact ends _ rfl rfl rfl (by simp [Phase.requests])
  · have later : ∀ request ∈ further, Named attempts finished request :=
      fun request member => (rest request member).mono
        (fun toolExecutionId => (begun toolExecutionId).mpr) fun _ => id
    obtain ⟨phase, moved, apart, start, holds, requests⟩ := proceed_phase task later
    rw [moved]
    exact ends phase apart start holds requests

theorem Invariant.writerReturns (invariant : Invariant attempts state)
    (distinct : Distinct attempts) {fault : Option WriterFault}
    (returns : state.writerReturns task fault = some after) : Invariant attempts after := by
  unfold ToolState.writerReturns at returns
  split at returns
  · rename_i attempt declaring
    have started : (state.tasks task).start = some attempt := by rw [declaring]; rfl
    extract_lets declared at returns
    have logged : Invariant attempts declared := invariant.relog (invariant.ledger.append rfl rfl)
    split at returns
    · cases returns
      exact ⟨logged.starts.frame rfl rfl (fun _ found => started.trans found)
        (fun _ => Iff.rfl)
        (fun _ entry found => ⟨found, (logged.starts.active _ entry.1 entry.2 found).2.2⟩)
        (fun _ => id) rfl rfl rfl,
        logged.completes.frame rfl (logged.completes.unlocked (held_of_start started)) rfl
          (by simp [Phase.requests]) (fun _ => id) (fun _ => id) (fun _ _ => id)
          rfl rfl rfl rfl rfl rfl, logged.ledger⟩
    · cases returns
      split
      · exact logged.failStart distinct started _
      · exact invariant.failStart distinct started _
  · rename_i attempt starting
    have started : (state.tasks task).start = some attempt := by rw [starting]; rfl
    extract_lets recorded at returns
    have logged : Invariant attempts recorded := invariant.relog (invariant.ledger.append rfl rfl)
    split at returns
    · cases returns
      exact logged.finishStart distinct started
    · cases returns
      split
      · exact logged.failStart distinct started _
      · exact invariant.failStart distinct started _
  · rename_i pending observerFailed further committing
    split at returns
    · cases returns
      exact invariant.finishCompletion distinct committing
    · rename_i failure durable
      cases returns
      have lock : state.lock = some task :=
        (invariant.completes.holder task).mp (by rw [committing]; rfl)
      have sent := (invariant.completes.pendings _ _
        (invariant.completes.committing _ _ _ _ committing)).2.1
      have ledger : Ledger attempts
          (if durable = true then ToolState.recordCompleted state.log pending else state.log)
          state.sent := by
        split
        · exact invariant.ledger.recordCompleted sent
        · exact invariant.ledger
      exact (invariant.relog ledger).failLocked lock (by simp)
  · cases returns

theorem Invariant.named_of_meets (invariant : Invariant attempts state)
    (distinct : Distinct attempts) {request : CompletionRequest}
    (meets : CompletionMeets attempts state request) :
    Named attempts state { request with
      toolCallId := state.resolveToolCallId request.toolCallId } := by
  refine ⟨meets.names, ?_, meets.begun⟩
  rcases meets.begun with active | completed
  · obtain ⟨entry, found⟩ := Option.isSome_iff_exists.mp active
    have sound := invariant.starts.active _ entry.1 entry.2 found
    rw [← (Attempt.mk.inj (distinct.executions _ sound.1 _ meets.names rfl)).2.1]
    exact sound.2.1
  · obtain ⟨toolCallId, toolName, named, known, -⟩ :=
      invariant.completes.completed _ completed
    rw [← (Attempt.mk.inj (distinct.executions _ named _ meets.names rfl)).2.1]
    exact known

theorem Invariant.step (invariant : Invariant attempts state) (distinct : Distinct attempts)
    {action : Action} (meets : Meets attempts state action)
    (steps : state.step action = some after) : Invariant attempts after := by
  have called : ∀ {task : Nat} {made : ToolState}, state.call task made = some after →
      (state.tasks task).free = true ∧ made = after := by
    intro task made calls
    rw [ToolState.call] at calls
    split at calls
    · exact ⟨‹_›, Option.some.inj calls⟩
    · cases calls
  cases action with
  | startTool task toolExecutionId toolCallId toolName =>
    obtain ⟨free, rfl⟩ := called steps
    exact invariant.startTool free meets
  | completeTool task request =>
    obtain ⟨free, rfl⟩ := called steps
    exact invariant.moveTo (held_of_free free) rfl rfl rfl
      (by simpa [Phase.requests] using invariant.named_of_meets distinct meets)
  | completeToolFromMessage task modelCallId toolCallId result succeeded =>
    obtain ⟨free, rfl⟩ := called steps
    exact invariant.completeToolFromMessage distinct free _ _ _ _
  | failToolInvocation task modelCallId toolCallId error =>
    obtain ⟨free, rfl⟩ := called steps
    exact invariant.failToolInvocation free _ _ _
  | failActiveToolExecutions task completionReason error =>
    obtain ⟨free, rfl⟩ := called steps
    exact invariant.failActiveToolExecutions free _ _
  | writerReturns task fault => exact invariant.writerReturns distinct steps
  | sinkReturns task fault =>
    simp only [ToolState.step] at steps
    split at steps
    · cases steps
      exact invariant.afterSink ‹_› fault
    · cases steps
  | acquire task =>
    simp only [ToolState.step] at steps
    split at steps
    · cases steps
      exact invariant.enterCompletion distinct ‹_› ‹_›
    · cases steps
  | wake task => exact invariant.wake steps

theorem Reached.invariant {registry : Registry} (reached : Reached attempts registry state)
    (distinct : Distinct attempts) : Invariant attempts state := by
  induction reached with
  | initial => exact Invariant.initial registry
  | step _ meets steps ih => exact ih.step distinct meets steps

end Steps

end GraphAgent.ToolAttempts
