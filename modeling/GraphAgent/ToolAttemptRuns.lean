import GraphAgent.ToolAttempts

/-!
# Runs over tool attempts

What every interleaving keeps as long as the ids and the futures of the starts
are as `start_tool` expects them: one result, one event and one payload for an
attempt, and no waiter that outlives the start of its attempt.
-/

namespace GraphAgent.ToolAttempts

open ToolCallChunks (Registry)

namespace ToolState

/-- The attempt was started, and may be completed. -/
def Begun (state : ToolState) (toolExecutionId : String) : Prop :=
  (state.active.lookup toolExecutionId).isSome ∨
    toolExecutionId ∈ state.completedExecutions

def Known (state : ToolState) (toolCallId : String) : Prop :=
  state.registry.modelCallIds.has toolCallId = true

end ToolState

def completions (log : List Record) : List PendingToolCompletion :=
  log.filterMap fun
    | .completed event => some event
    | _ => none

namespace Phase

def start : Phase → Option Attempt
  | .declaring attempt | .starting attempt => some attempt
  | _ => none

def requests : Phase → List CompletionRequest
  | .acquiring request further => request :: further
  | .sinking _ further | .committing _ _ further => further
  | _ => []

def holds : Phase → Bool
  | .sinking _ _ | .committing _ _ _ => true
  | _ => false

def apart : Phase → Bool
  | .waiting _ _ _ _ | .failed .futureDone => false
  | _ => true

end Phase

structure Distinct (attempts : List Attempt) : Prop where
  executions : ∀ first ∈ attempts, ∀ second ∈ attempts,
    first.toolExecutionId = second.toolExecutionId → first = second
  calls : ∀ first ∈ attempts, ∀ second ∈ attempts,
    first.toolCallId = second.toolCallId → first = second

section Runs

variable (attempts : List Attempt)

/-- The call of a start names an attempt, and finds what `start_tool` relies on. -/
structure StartMeets (state : ToolState) (toolExecutionId toolCallId toolName : String) :
    Prop where
  names : ⟨toolExecutionId, state.resolveToolCallId toolCallId, toolName⟩ ∈ attempts
  sameId : ∀ previous, state.active.lookup toolExecutionId = some previous →
    toolCallId = previous.1
  /-- No earlier start of the call has failed before a waiter. -/
  undone : ∀ future,
    state.pendingStarts.lookup (state.resolveToolCallId toolCallId) = some future →
      state.futures future = .pending
  alone : ∀ task attempt, (state.tasks task).start = some attempt →
    attempt.toolExecutionId ≠ toolExecutionId

structure CompletionMeets (state : ToolState) (request : CompletionRequest) : Prop where
  names : ⟨request.toolExecutionId, state.resolveToolCallId request.toolCallId,
    request.toolName⟩ ∈ attempts
  begun : state.Begun request.toolExecutionId

/-- The condition on a step. -/
def Meets (state : ToolState) : Action → Prop
  | .startTool _ toolExecutionId toolCallId toolName =>
    StartMeets attempts state toolExecutionId toolCallId toolName
  | .completeTool _ request => CompletionMeets attempts state request
  | _ => True

inductive Reached (registry : Registry) : ToolState → Prop
  | initial : Reached registry (.initial registry)
  | step {state after : ToolState} {action : Action} :
      Reached registry state → Meets attempts state action → state.step action = some after →
      Reached registry after

structure Named (state : ToolState) (request : CompletionRequest) : Prop where
  names : ⟨request.toolExecutionId, request.toolCallId, request.toolName⟩ ∈ attempts
  known : state.Known request.toolCallId
  begun : state.Begun request.toolExecutionId

structure Starts (state : ToolState) : Prop where
  active : ∀ toolExecutionId toolCallId toolName,
    state.active.lookup toolExecutionId = some (toolCallId, toolName) →
      ⟨toolExecutionId, toolCallId, toolName⟩ ∈ attempts ∧ state.Known toolCallId ∧
        toolExecutionId ∉ state.completedExecutions
  shared : ∀ toolCallId future, state.pendingStarts.lookup toolCallId = some future →
    future < state.futureCount ∧
      (∀ toolExecutionId toolName, state.futures future ≠ .started toolExecutionId toolName) ∧
      ∀ attempt ∈ attempts, attempt.toolCallId = toolCallId →
        ¬state.Begun attempt.toolExecutionId
  own : ∀ toolCallId other future, state.pendingStarts.lookup toolCallId = some future →
    state.pendingStarts.lookup other = some future → toolCallId = other
  fresh : ∀ future, state.futureCount ≤ future → state.futures future = .pending
  starting : ∀ task attempt, (state.tasks task).start = some attempt →
    attempt ∈ attempts ∧ state.Known attempt.toolCallId ∧
      ¬state.Begun attempt.toolExecutionId ∧
      ∀ future, state.pendingStarts.lookup attempt.toolCallId = some future →
        state.futures future = .pending
  single : ∀ task other attempt another, (state.tasks task).start = some attempt →
    (state.tasks other).start = some another →
    attempt.toolExecutionId = another.toolExecutionId → task = other
  waiting : ∀ task future toolCallId result succeeded,
    state.tasks task = .waiting future toolCallId result succeeded →
      future < state.futureCount ∧
      (state.futures future = .pending →
        state.pendingStarts.lookup toolCallId = some future) ∧
      ∀ toolExecutionId toolName,
        state.futures future = .started toolExecutionId toolName →
          ⟨toolExecutionId, toolCallId, toolName⟩ ∈ attempts ∧ state.Known toolCallId ∧
            state.Begun toolExecutionId
  futureDone : ∀ task, state.tasks task ≠ .failed .futureDone

structure Completes (state : ToolState) : Prop where
  requests : ∀ task, ∀ request ∈ (state.tasks task).requests, Named attempts state request
  holder : ∀ task, (state.tasks task).holds = true ↔ state.lock = some task
  sinking : ∀ task prepared further, state.tasks task = .sinking prepared further →
    state.active.lookup prepared.completion.toolAttemptId =
        some (prepared.completion.toolCallId, prepared.completion.toolName) ∧
      state.pendingCompletions.lookup prepared.completion.toolAttemptId = none
  committing : ∀ task pending observerFailed further,
    state.tasks task = .committing pending observerFailed further →
      state.pendingCompletions.lookup pending.toolExecutionId = some pending
  pendings : ∀ toolExecutionId pending,
    state.pendingCompletions.lookup toolExecutionId = some pending →
      pending.toolExecutionId = toolExecutionId ∧ pending ∈ state.sent ∧
        state.active.lookup toolExecutionId = some (pending.toolCallId, pending.toolName)
  sentFor : ∀ pending ∈ state.sent,
    pending.eventId < state.eventCount ∧
      (state.pendingCompletions.lookup pending.toolExecutionId = some pending ∨
        pending.toolExecutionId ∈ state.completedExecutions)
  sentOnce : ∀ first ∈ state.sent, ∀ second ∈ state.sent,
    first.toolExecutionId = second.toolExecutionId → first = second
  completed : ∀ toolExecutionId ∈ state.completedExecutions, ∃ toolCallId toolName,
    ⟨toolExecutionId, toolCallId, toolName⟩ ∈ attempts ∧ state.Known toolCallId ∧
      state.resultExecutions.lookup toolCallId = some toolExecutionId
  resulted : ∀ toolCallId toolExecutionId,
    state.resultExecutions.lookup toolCallId = some toolExecutionId →
      toolExecutionId ∈ state.completedExecutions ∧
        ∃ toolName, ⟨toolExecutionId, toolCallId, toolName⟩ ∈ attempts

structure Ledger (log : List Record) (sent : List PendingToolCompletion) : Prop where
  sentIds : ∀ first ∈ sent, ∀ second ∈ sent,
    first.eventId = second.eventId → first = second
  eventsSent : ∀ event ∈ completions log, event ∈ sent
  eventsOnce : ((completions log).map PendingToolCompletion.eventId).Nodup
  resultsOnce : ((ToolState.results log).map ToolResultCompletion.toolCallId).Nodup
  resultsFor : ∀ item ∈ ToolState.results log,
    ⟨item.toolAttemptId, item.toolCallId, item.toolName⟩ ∈ attempts
  sentAfter : ∀ pending ∈ sent, ∃ item ∈ ToolState.results log,
    item.toolAttemptId = pending.toolExecutionId ∧ item.toolCallId = pending.toolCallId
  resultFirst : ∀ before event after, log = before ++ .completed event :: after →
    ∃ item ∈ ToolState.results before,
      item.toolAttemptId = event.toolExecutionId ∧ item.toolCallId = event.toolCallId

structure Invariant (state : ToolState) : Prop where
  starts : Starts attempts state
  completes : Completes attempts state
  ledger : Ledger attempts state.log state.sent

end Runs

section Frames

variable {attempts : List Attempt} {state after : ToolState} {task : Nat} {phase : Phase}

namespace ToolState

@[simp]
theorem moveTo_tasks : (state.moveTo task phase).tasks =
    Function.update state.tasks task phase :=
  rfl

theorem moveTo_cases {other : Nat} {found : Phase}
    (now : (state.moveTo task phase).tasks other = found) :
    other = task ∧ found = phase ∨ other ≠ task ∧ state.tasks other = found := by
  rw [moveTo_tasks, Function.update_apply] at now
  split at now
  · exact .inl ⟨‹_›, now.symm⟩
  · exact .inr ⟨‹_›, now⟩

theorem moveTo_start {other : Nat} {attempt : Attempt} (unstarted : phase.start = none)
    (start : ((state.moveTo task phase).tasks other).start = some attempt) :
    other ≠ task ∧ (state.tasks other).start = some attempt := by
  rcases @moveTo_cases state task phase other _ rfl with ⟨-, now⟩ | ⟨different, before⟩
  · rw [now, unstarted] at start
    cases start
  · exact ⟨different, before ▸ start⟩

theorem known_register {toolCallId other : String} :
    (state.register toolCallId).Known other ↔ other = toolCallId ∨ state.Known other := by
  simp only [Known, register, Dictionary.has, Dictionary.lookup_setDefault]
  split
  · rename_i same
    simp [same]
  · rename_i different
    simp [Ne.symm different]

theorem resolve_known {toolCallId : String} (known : state.Known toolCallId) :
    state.resolveToolCallId toolCallId = toolCallId := by
  rw [Known] at known
  simp [resolveToolCallId, known]

end ToolState

theorem Starts.frame (starts : Starts attempts state)
    (tasks : after.tasks = Function.update state.tasks task phase)
    (apart : phase.apart = true)
    (start : ∀ attempt, phase.start = some attempt → (state.tasks task).start = some attempt)
    (begun : ∀ toolExecutionId, after.Begun toolExecutionId ↔ state.Begun toolExecutionId)
    (active : ∀ toolExecutionId entry, after.active.lookup toolExecutionId = some entry →
      state.active.lookup toolExecutionId = some entry ∧
        toolExecutionId ∉ after.completedExecutions)
    (known : ∀ toolCallId, state.Known toolCallId → after.Known toolCallId)
    (pendingStarts : after.pendingStarts = state.pendingStarts)
    (futures : after.futures = state.futures)
    (futureCount : after.futureCount = state.futureCount) : Starts attempts after := by
  have startOf : ∀ other attempt, (after.tasks other).start = some attempt →
      (state.tasks other).start = some attempt := by
    intro other attempt found
    rw [tasks] at found
    by_cases same : other = task
    · subst same
      exact start attempt (by simpa using found)
    · simpa [same] using found
  refine ⟨?_, ?_, ?_, ?_, ?_, ?_, ?_, ?_⟩
  · intro toolExecutionId toolCallId toolName found
    have before := active _ _ found
    have sound := starts.active _ _ _ before.1
    exact ⟨sound.1, known _ sound.2.1, before.2⟩
  · intro toolCallId future found
    rw [pendingStarts] at found
    simpa only [futures, futureCount, begun] using starts.shared _ _ found
  · rw [pendingStarts]
    exact starts.own
  · rw [futures, futureCount]
    exact starts.fresh
  · intro other attempt found
    have sound := starts.starting _ _ (startOf _ _ found)
    rw [begun, pendingStarts, futures]
    exact ⟨sound.1, known _ sound.2.1, sound.2.2⟩
  · intro first second attempt another firstFound secondFound
    exact starts.single _ _ _ _ (startOf _ _ firstFound) (startOf _ _ secondFound)
  · intro other future toolCallId result succeeded found
    rw [tasks] at found
    by_cases same : other = task
    · subst same
      simp only [Function.update_self] at found
      simp [found, Phase.apart] at apart
    · have sound := starts.waiting other future toolCallId result succeeded
        (by simpa [same] using found)
      rw [futures, futureCount, pendingStarts]
      refine ⟨sound.1, sound.2.1, fun toolExecutionId toolName done => ?_⟩
      have named := sound.2.2 _ _ done
      exact ⟨named.1, known _ named.2.1, (begun _).mpr named.2.2⟩
  · intro other found
    rw [tasks] at found
    by_cases same : other = task
    · subst same
      simp only [Function.update_self] at found
      simp [found, Phase.apart] at apart
    · exact starts.futureDone other (by simpa [same] using found)

theorem Named.mono {request : CompletionRequest} (named : Named attempts state request)
    (begun : ∀ toolExecutionId, state.Begun toolExecutionId → after.Begun toolExecutionId)
    (known : ∀ toolCallId, state.Known toolCallId → after.Known toolCallId) :
    Named attempts after request :=
  ⟨named.names, known _ named.known, begun _ named.begun⟩

theorem Completes.frame (completes : Completes attempts state)
    (tasks : after.tasks = Function.update state.tasks task phase)
    (unlocked : state.lock ≠ some task) (holds : phase.holds = false)
    (requests : ∀ request ∈ phase.requests, Named attempts after request)
    (begun : ∀ toolExecutionId, state.Begun toolExecutionId → after.Begun toolExecutionId)
    (known : ∀ toolCallId, state.Known toolCallId → after.Known toolCallId)
    (active : ∀ toolExecutionId entry, state.active.lookup toolExecutionId = some entry →
      after.active.lookup toolExecutionId = some entry)
    (lock : after.lock = state.lock)
    (pendingCompletions : after.pendingCompletions = state.pendingCompletions)
    (sent : after.sent = state.sent) (eventCount : after.eventCount = state.eventCount)
    (completed : after.completedExecutions = state.completedExecutions)
    (resulted : after.resultExecutions = state.resultExecutions) :
    Completes attempts after := by
  have elsewhere : ∀ other, (after.tasks other).holds = true →
      after.tasks other = state.tasks other := by
    intro other held
    rw [tasks] at held ⊢
    by_cases same : other = task
    · subst same
      simp [holds] at held
    · simp [same]
  refine ⟨?_, ?_, ?_, ?_, ?_, ?_, ?_, ?_, ?_⟩
  · intro other request member
    rw [tasks] at member
    by_cases same : other = task
    · subst same
      exact requests request (by simpa using member)
    · exact (completes.requests other request (by simpa [same] using member)).mono begun known
  · intro other
    rw [lock, tasks]
    by_cases same : other = task
    · subst same
      simp [holds, unlocked]
    · simpa [same] using completes.holder other
  · intro other prepared further found
    have before : state.tasks other = .sinking prepared further := by
      rw [← elsewhere other (by rw [found]; rfl), found]
    have sound := completes.sinking _ _ _ before
    rw [pendingCompletions]
    exact ⟨active _ _ sound.1, sound.2⟩
  · intro other pending observerFailed further found
    have before : state.tasks other = .committing pending observerFailed further := by
      rw [← elsewhere other (by rw [found]; rfl), found]
    rw [pendingCompletions]
    exact completes.committing _ _ _ _ before
  · intro toolExecutionId pending found
    rw [pendingCompletions] at found
    have sound := completes.pendings _ _ found
    rw [sent]
    exact ⟨sound.1, sound.2.1, active _ _ sound.2.2⟩
  · rw [sent, eventCount, pendingCompletions, completed]
    exact completes.sentFor
  · rw [sent]
    exact completes.sentOnce
  · rw [completed, resulted]
    intro toolExecutionId member
    obtain ⟨toolCallId, toolName, named, owned, found⟩ :=
      completes.completed toolExecutionId member
    exact ⟨toolCallId, toolName, named, known _ owned, found⟩
  · rw [completed, resulted]
    exact completes.resulted

theorem Completes.locked (completes : Completes attempts state)
    (free : ∀ other, other ≠ task → (state.tasks other).holds = false)
    (tasks : after.tasks = Function.update state.tasks task phase)
    (lock : after.lock = if phase.holds then some task else none)
    (requests : ∀ request ∈ phase.requests, Named attempts after request)
    (begun : ∀ toolExecutionId, state.Begun toolExecutionId → after.Begun toolExecutionId)
    (known : ∀ toolCallId, state.Known toolCallId → after.Known toolCallId)
    (sinking : ∀ prepared further, phase = .sinking prepared further →
      after.active.lookup prepared.completion.toolAttemptId =
          some (prepared.completion.toolCallId, prepared.completion.toolName) ∧
        after.pendingCompletions.lookup prepared.completion.toolAttemptId = none)
    (committing : ∀ pending observerFailed further,
      phase = .committing pending observerFailed further →
        after.pendingCompletions.lookup pending.toolExecutionId = some pending)
    (pendings : ∀ toolExecutionId pending,
      after.pendingCompletions.lookup toolExecutionId = some pending →
        pending.toolExecutionId = toolExecutionId ∧ pending ∈ after.sent ∧
          after.active.lookup toolExecutionId = some (pending.toolCallId, pending.toolName))
    (sentFor : ∀ pending ∈ after.sent,
      pending.eventId < after.eventCount ∧
        (after.pendingCompletions.lookup pending.toolExecutionId = some pending ∨
          pending.toolExecutionId ∈ after.completedExecutions))
    (sentOnce : ∀ first ∈ after.sent, ∀ second ∈ after.sent,
      first.toolExecutionId = second.toolExecutionId → first = second)
    (completed : ∀ toolExecutionId ∈ after.completedExecutions, ∃ toolCallId toolName,
      ⟨toolExecutionId, toolCallId, toolName⟩ ∈ attempts ∧ after.Known toolCallId ∧
        after.resultExecutions.lookup toolCallId = some toolExecutionId)
    (resulted : ∀ toolCallId toolExecutionId,
      after.resultExecutions.lookup toolCallId = some toolExecutionId →
        toolExecutionId ∈ after.completedExecutions ∧
          ∃ toolName, ⟨toolExecutionId, toolCallId, toolName⟩ ∈ attempts) :
    Completes attempts after := by
  have elsewhere : ∀ other, (after.tasks other).holds = true → after.tasks other = phase := by
    intro other held
    rw [tasks] at held ⊢
    by_cases same : other = task
    · simp [same]
    · rw [Function.update_of_ne same, free other same] at held
      cases held
  refine ⟨?_, ?_, ?_, ?_, pendings, sentFor, sentOnce, completed, resulted⟩
  · intro other request member
    rw [tasks] at member
    by_cases same : other = task
    · subst same
      exact requests request (by simpa using member)
    · exact (completes.requests other request (by simpa [same] using member)).mono begun known
  · intro other
    rw [lock, tasks]
    by_cases same : other = task
    · subst same
      rw [Function.update_self]
      cases phase.holds <;> simp
    · rw [Function.update_of_ne same, free other same]
      cases phase.holds <;> simp [Ne.symm same]
  · intro other prepared further found
    exact sinking prepared further
      ((elsewhere other (by rw [found]; rfl)).symm.trans found)
  · intro other pending observerFailed further found
    exact committing pending observerFailed further
      ((elsewhere other (by rw [found]; rfl)).symm.trans found)

end Frames

section Log

open ToolState (results commitToolResult recordCompleted)

variable {attempts : List Attempt} {log after : List Record}
variable {sent : List PendingToolCompletion} {pending : PendingToolCompletion}
variable {completion item : ToolResultCompletion}

@[simp]
theorem results_append (first second : List Record) :
    results (first ++ second) = results first ++ results second := by
  simp [results]

@[simp]
theorem completions_append (first second : List Record) :
    completions (first ++ second) = completions first ++ completions second := by
  simp [completions]

theorem resultFirst_append {record : Record}
    (before : ∀ early event late, log = early ++ .completed event :: late →
      ∃ item ∈ results early,
        item.toolAttemptId = event.toolExecutionId ∧ item.toolCallId = event.toolCallId)
    (last : ∀ event, record = .completed event → ∃ item ∈ results log,
      item.toolAttemptId = event.toolExecutionId ∧ item.toolCallId = event.toolCallId) :
    ∀ early event late, log ++ [record] = early ++ .completed event :: late →
      ∃ item ∈ results early,
        item.toolAttemptId = event.toolExecutionId ∧ item.toolCallId = event.toolCallId := by
  intro early event late split
  rcases List.eq_nil_or_concat late with rfl | ⟨rest, final, rfl⟩
  · obtain ⟨rfl, same⟩ := List.append_inj' split rfl
    exact last event (List.singleton_inj.mp same)
  · rw [List.concat_eq_append, ← List.cons_append, ← List.append_assoc] at split
    obtain ⟨rfl, -⟩ := List.append_inj' split rfl
    exact before early event rest rfl

theorem Ledger.append (ledger : Ledger attempts log sent) {record : Record}
    (noResult : results [record] = []) (noEvent : completions [record] = []) :
    Ledger attempts (log ++ [record]) sent := by
  refine ⟨ledger.sentIds, ?_, ?_, ?_, ?_, ?_, ?_⟩
  · simpa [noEvent] using ledger.eventsSent
  · simpa [noEvent] using ledger.eventsOnce
  · simpa [noResult] using ledger.resultsOnce
  · simpa [noResult] using ledger.resultsFor
  · simpa [noResult] using ledger.sentAfter
  · refine resultFirst_append ledger.resultFirst fun event same => ?_
    simp [same, completions] at noEvent

theorem Ledger.recordCompleted (ledger : Ledger attempts log sent) (member : pending ∈ sent) :
    Ledger attempts (recordCompleted log pending) sent := by
  unfold ToolState.recordCompleted
  split
  · exact ledger
  · rename_i absent
    have unseen : ∀ event ∈ completions log, event.eventId ≠ pending.eventId := by
      intro event found same
      apply absent
      obtain ⟨record, recorded, shows⟩ := List.mem_filterMap.mp found
      refine List.any_eq_true.mpr ⟨record, recorded, ?_⟩
      cases record <;> simp_all
    refine ⟨ledger.sentIds, ?_, ?_, ?_, ?_, ?_, ?_⟩
    · intro event found
      rw [completions_append, List.mem_append] at found
      rcases found with found | found
      · exact ledger.eventsSent event found
      · have same : event = pending := by simpa [completions] using found
        rw [same]
        exact member
    · rw [completions_append, List.map_append]
      refine List.Nodup.append ledger.eventsOnce (by simp [completions]) ?_
      intro eventId early late
      obtain ⟨event, found, rfl⟩ := List.mem_map.mp early
      exact unseen event found (by simpa [completions] using late)
    · simpa [results] using ledger.resultsOnce
    · simpa [results] using ledger.resultsFor
    · simpa [results] using ledger.sentAfter
    · refine resultFirst_append ledger.resultFirst fun event same => ?_
      cases same
      exact ledger.sentAfter pending member

theorem Ledger.commit (ledger : Ledger attempts log sent)
    (named : ⟨completion.toolAttemptId, completion.toolCallId, completion.toolName⟩ ∈ attempts)
    (commits : commitToolResult log completion = some (after, item)) :
    Ledger attempts after sent ∧ ∃ found ∈ results after,
      found.toolAttemptId = completion.toolAttemptId ∧
        found.toolCallId = completion.toolCallId := by
  unfold commitToolResult at commits
  split at commits
  · rename_i none
    cases commits
    have absent : ∀ item ∈ results log, item.toolCallId ≠ completion.toolCallId := by
      intro item member same
      have kept := List.filter_eq_nil_iff.mp none item member
      simp [same] at kept
    refine ⟨⟨ledger.sentIds, ?_, ?_, ?_, ?_, ?_, ?_⟩, completion, by simp [results], rfl, rfl⟩
    · simpa [completions] using ledger.eventsSent
    · simpa [completions] using ledger.eventsOnce
    · rw [results_append, List.map_append]
      refine List.Nodup.append ledger.resultsOnce (by simp [results]) ?_
      intro toolCallId early late
      obtain ⟨item, member, rfl⟩ := List.mem_map.mp early
      exact absent item member (by simpa [results] using late)
    · intro item member
      rw [results_append, List.mem_append] at member
      rcases member with member | member
      · exact ledger.resultsFor item member
      · have same : item = completion := by simpa [results] using member
        rw [same]
        exact named
    · intro pending member
      obtain ⟨item, found, same⟩ := ledger.sentAfter pending member
      exact ⟨item, by simp [found], same⟩
    · exact resultFirst_append ledger.resultFirst fun event same => by cases same
  · rename_i existing others found
    split at commits
    · rename_i agree
      split at commits
      · cases commits
        have member : item ∈ results log := by
          have kept : item ∈ (results log).filter _ := found ▸ List.mem_cons_self
          exact (List.mem_filter.mp kept).1
        have same := List.all_eq_true.mp agree item List.mem_cons_self
        simp only [decide_eq_true_eq] at same
        exact ⟨ledger, item, member, same.1, same.2.1⟩
      · cases commits
    · cases commits

theorem Ledger.send (ledger : Ledger attempts log sent)
    (identified : ∀ other ∈ sent, other.eventId = pending.eventId → other = pending)
    (committed : ∃ item ∈ results log,
      item.toolAttemptId = pending.toolExecutionId ∧ item.toolCallId = pending.toolCallId) :
    Ledger attempts log (sent ++ [pending]) := by
  refine ⟨?_, fun event found => List.mem_append_left _ (ledger.eventsSent event found),
    ledger.eventsOnce, ledger.resultsOnce, ledger.resultsFor, ?_, ledger.resultFirst⟩
  · intro first firstIn second secondIn same
    rw [List.mem_append, List.mem_singleton] at firstIn secondIn
    rcases firstIn with firstIn | rfl <;> rcases secondIn with secondIn | rfl
    · exact ledger.sentIds first firstIn second secondIn same
    · exact identified first firstIn same
    · exact (identified second secondIn same.symm).symm
    · rfl
  · intro other member
    rcases List.mem_append.mp member with member | member
    · exact ledger.sentAfter other member
    · rw [List.mem_singleton.mp member]
      exact committed

end Log

end GraphAgent.ToolAttempts
