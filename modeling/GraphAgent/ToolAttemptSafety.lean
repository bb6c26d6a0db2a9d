import GraphAgent.ToolAttemptSteps

/-!
# One result for an attempt

Every interleaving whose starts and completions find what they rely on commits
an attempt once, whatever fails at an await, and releases its waiters.
-/

namespace GraphAgent.ToolAttempts

open ToolCallChunks (Registry)

namespace Action

def faultless : Action → Bool
  | .writerReturns _ fault => fault.isNone
  | .sinkReturns _ fault => fault.isNone
  | _ => true

end Action

namespace ToolState

def Accepts (state : ToolState) (request : CompletionRequest) : Prop :=
  (state.pendingCompletions.lookup request.toolExecutionId).isSome ∨
    let prepared := (state.register request.toolCallId).prepare request
    prepared.completion.wellFormed = true ∧
      (commitToolResult state.log prepared.completion).isSome

end ToolState

structure CommitsOnce (attempts : List Attempt) (state : ToolState) : Prop where
  results : ∀ toolExecutionId, ((ToolState.results state.log).filter fun item =>
    item.toolAttemptId = toolExecutionId).length ≤ 1
  events : ∀ toolExecutionId, ((completions state.log).filter fun event =>
    event.toolExecutionId = toolExecutionId).length ≤ 1
  resultFirst : ∀ before event after, state.log = before ++ .completed event :: after →
    ∃ item ∈ ToolState.results before,
      item.toolAttemptId = event.toolExecutionId ∧ item.toolCallId = event.toolCallId
  /-- Every commit of an attempt has the same event id and payload. -/
  retries : ∀ first ∈ state.sent, ∀ second ∈ state.sent,
    first.toolExecutionId = second.toolExecutionId → first = second
  startAgain : ∀ task toolExecutionId toolCallId toolName,
    StartMeets attempts state toolExecutionId toolCallId toolName →
    state.Begun toolExecutionId →
      state.startTool task toolExecutionId toolCallId toolName = state.moveTo task .returned
  startRetry : ∀ task toolExecutionId toolCallId toolName, (state.tasks task).free = true →
    StartMeets attempts state toolExecutionId toolCallId toolName →
      ∃ actions after, actions.all Action.faultless = true ∧ state.run actions = some after ∧
        after.Begun toolExecutionId ∧ after.tasks task = .returned
  completionRetry : ∀ task request, (state.tasks task).free = true → state.lock = none →
    Named attempts state request → state.Accepts request →
      ∃ actions after, actions.all Action.faultless = true ∧ state.run actions = some after ∧
        request.toolExecutionId ∈ after.completedExecutions ∧ after.tasks task = .returned
  /-- A start leaves no waiter behind. -/
  released : ∀ task future toolCallId result succeeded,
    state.tasks task = .waiting future toolCallId result succeeded →
    state.futures future = .pending →
      ∀ attempt ∈ attempts, attempt.toolCallId = toolCallId →
        ¬state.Begun attempt.toolExecutionId
  rejected : ∀ task attempt fault after, (state.tasks task).start = some attempt →
    state.writerReturns task (some fault) = some after →
      ∀ other future result succeeded,
        after.tasks other = .waiting future attempt.toolCallId result succeeded →
          after.futures future ≠ .pending
  /-- The lock is left when the await under it returns. -/
  progress : ∀ task, state.lock = some task →
    (state.step (.writerReturns task none)).isSome ∨
      (state.step (.sinkReturns task none)).isSome
  futureDone : ∀ task, state.tasks task ≠ .failed .futureDone

section Results

variable {attempts : List Attempt} {state : ToolState} {task : Nat}

theorem filter_length_le_one {Entry Key : Type*} {keep : Entry → Bool} {key : Entry → Key} :
    ∀ {entries : List Entry}, (entries.map key).Nodup →
      (∀ first ∈ entries, ∀ second ∈ entries, keep first → keep second →
        key first = key second) → (entries.filter keep).length ≤ 1
  | [], _, _ => Nat.zero_le 1
  | entry :: entries, distinct, same => by
      rw [List.map_cons, List.nodup_cons] at distinct
      by_cases kept : keep entry = true
      · have others : entries.filter keep = [] := by
          refine List.filter_eq_nil_iff.mpr fun other member keeps => distinct.1 ?_
          rw [same entry List.mem_cons_self other (List.mem_cons_of_mem _ member) kept keeps]
          exact List.mem_map_of_mem member
        rw [List.filter_cons_of_pos kept, others]
        rfl
      · rw [List.filter_cons_of_neg kept]
        exact filter_length_le_one distinct.2 fun first firstIn second secondIn =>
          same first (List.mem_cons_of_mem _ firstIn) second (List.mem_cons_of_mem _ secondIn)

theorem Ledger.results_once {log : List Record} {sent : List PendingToolCompletion}
    (ledger : Ledger attempts log sent) (distinct : Distinct attempts)
    (toolExecutionId : String) : ((ToolState.results log).filter fun item =>
      item.toolAttemptId = toolExecutionId).length ≤ 1 := by
  refine filter_length_le_one ledger.resultsOnce fun first firstIn second secondIn
    firstKept secondKept => ?_
  simp only [decide_eq_true_eq] at firstKept secondKept
  have same := distinct.executions _ (ledger.resultsFor first firstIn) _
    (ledger.resultsFor second secondIn) (firstKept.trans secondKept.symm)
  exact (Attempt.mk.inj same).2.1

theorem Invariant.events_once (invariant : Invariant attempts state) (toolExecutionId : String) :
    ((completions state.log).filter fun event =>
      event.toolExecutionId = toolExecutionId).length ≤ 1 := by
  have ledger := invariant.ledger
  refine filter_length_le_one ledger.eventsOnce fun first firstIn second secondIn
    firstKept secondKept => ?_
  simp only [decide_eq_true_eq] at firstKept secondKept
  rw [invariant.completes.sentOnce first (ledger.eventsSent first firstIn) second
    (ledger.eventsSent second secondIn) (firstKept.trans secondKept.symm)]

theorem Invariant.start_again (invariant : Invariant attempts state)
    (distinct : Distinct attempts) {toolExecutionId toolCallId toolName : String}
    (meets : StartMeets attempts state toolExecutionId toolCallId toolName)
    (begun : state.Begun toolExecutionId) :
    state.startTool task toolExecutionId toolCallId toolName = state.moveTo task .returned := by
  unfold ToolState.startTool
  split
  · rfl
  · rename_i uncompleted
    obtain ⟨previous, found⟩ := Option.isSome_iff_exists.mp (begun.resolve_right uncompleted)
    have sound := invariant.starts.active _ previous.1 previous.2 found
    have sameId := meets.sameId previous found
    have named := meets.names
    rw [sameId, ToolState.resolve_known sound.2.1] at named
    have same := (Attempt.mk.inj (distinct.executions _ sound.1 _ named rfl)).2.2
    have identity : previous = (toolCallId, toolName) := Prod.ext sameId.symm same
    simp [found, identity]

theorem run_starting (sound : Starts attempts state) {attempt : Attempt}
    (starting : state.tasks task = .starting attempt) :
    ∃ after, state.run [.writerReturns task none] = some after ∧
      after.Begun attempt.toolExecutionId ∧ after.tasks task = .returned := by
  have undone := (sound.starting task attempt (by rw [starting]; rfl)).2.2.2
  refine ⟨_, by simp [ToolState.run, ToolState.step, ToolState.writerReturns, starting]; rfl,
    ?_, ?_⟩
  · unfold ToolState.finishStart
    refine .inl ?_
    split
    · simp [ToolState.moveTo]
    · split <;> simp [ToolState.moveTo, ToolState.settle]
  · unfold ToolState.finishStart
    split
    · simp
    · rename_i future found
      have pending : state.futures future = .pending := undone future found
      simp [ToolState.append, pending]

theorem Invariant.start_retry (invariant : Invariant attempts state)
    (distinct : Distinct attempts) {toolExecutionId toolCallId toolName : String}
    (free : (state.tasks task).free = true)
    (meets : StartMeets attempts state toolExecutionId toolCallId toolName) :
    ∃ actions after, actions.all Action.faultless = true ∧ state.run actions = some after ∧
      after.Begun toolExecutionId ∧ after.tasks task = .returned := by
  have called : state.step (.startTool task toolExecutionId toolCallId toolName) =
      some (state.startTool task toolExecutionId toolCallId toolName) := by
    simp [ToolState.step, ToolState.call, free]
  by_cases begun : state.Begun toolExecutionId
  · refine ⟨[.startTool task toolExecutionId toolCallId toolName], _, rfl, by
      simp only [ToolState.run, called, Option.bind_some]; rfl, ?_⟩
    rw [invariant.start_again distinct meets begun]
    exact ⟨begun, by simp⟩
  · have started := invariant.startTool free meets
    have inactive : state.active.lookup toolExecutionId = none := by
      by_contra found
      exact begun (.inl (Option.isSome_iff_ne_none.mpr found))
    have uncompleted : toolExecutionId ∉ state.completedExecutions := fun member =>
      begun (.inr member)
    let attempt : Attempt := ⟨toolExecutionId, state.resolveToolCallId toolCallId, toolName⟩
    have phase : (state.startTool task toolExecutionId toolCallId toolName).tasks task =
        .starting attempt ∨
          (state.startTool task toolExecutionId toolCallId toolName).tasks task =
            .declaring attempt := by
      simp only [ToolState.startTool, if_neg uncompleted, inactive, ToolState.moveTo_tasks,
        Function.update_self]
      split
      · exact .inl rfl
      · exact .inr rfl
    rcases phase with starting | declaring
    · obtain ⟨after, runs, ends⟩ := run_starting started.starts starting
      exact ⟨[.startTool task toolExecutionId toolCallId toolName, .writerReturns task none],
        after, rfl, by rw [ToolState.run, called]; exact runs, ends⟩
    · obtain ⟨declared, returns⟩ : ∃ declared,
          (state.startTool task toolExecutionId toolCallId toolName).writerReturns task none =
            some declared := ⟨_, by rw [ToolState.writerReturns, declaring]⟩
      have starting : declared.tasks task = .starting attempt := by
        rw [ToolState.writerReturns, declaring] at returns
        cases returns
        simp
      obtain ⟨after, runs, ends⟩ :=
        run_starting (started.writerReturns distinct returns).starts starting
      refine ⟨[.startTool task toolExecutionId toolCallId toolName, .writerReturns task none,
        .writerReturns task none], after, rfl, ?_, ends⟩
      rw [ToolState.run, called, Option.bind_some, ToolState.run, ToolState.step, returns]
      exact runs

theorem run_committing {pending : PendingToolCompletion}
    (committing : state.tasks task = .committing pending false []) :
    ∃ after, state.run [.writerReturns task none] = some after ∧
      pending.toolExecutionId ∈ after.completedExecutions ∧ after.tasks task = .returned := by
  refine ⟨_, by simp [ToolState.run, ToolState.step, ToolState.writerReturns, committing]; rfl,
    ?_, ?_⟩ <;>
    simp [ToolState.finishCompletion, ToolState.proceed, ToolState.moveTo]

theorem makePending_phase (state : ToolState) (task : Nat) (prepared : Prepared)
    (payload : CompletedPayload) :
    ∃ pending, (state.makePending task prepared payload false []).tasks task =
        .committing pending false [] ∧
      pending.toolExecutionId = prepared.completion.toolAttemptId :=
  ⟨_, Function.update_self _ _ _, rfl⟩

theorem Invariant.run_acquiring (invariant : Invariant attempts state)
    (distinct : Distinct attempts) {request : CompletionRequest}
    (acquiring : state.tasks task = .acquiring request []) (lock : state.lock = none)
    (accepted : state.Accepts request) :
    ∃ actions after, actions.all Action.faultless = true ∧ state.run actions = some after ∧
      request.toolExecutionId ∈ after.completedExecutions ∧ after.tasks task = .returned := by
  have named : Named attempts state request := by
    have all := invariant.completes.requests task
    rw [acquiring] at all
    exact all request List.mem_cons_self
  have entered : state.step (.acquire task) = some (state.enterCompletion task request []) := by
    simp [ToolState.step, acquiring, lock]
  by_cases completed : request.toolExecutionId ∈ state.completedExecutions
  · refine ⟨[.acquire task], _, rfl, by rw [ToolState.run, entered]; rfl, ?_⟩
    simp [ToolState.enterCompletion, completed, ToolState.proceed, ToolState.moveTo]
  have active := invariant.active_of_named distinct named completed
  cases pendingFound : state.pendingCompletions.lookup request.toolExecutionId with
  | some pending =>
    have sound := invariant.completes.pendings _ _ pendingFound
    have same := Prod.mk.inj (Option.some.inj (active.symm.trans sound.2.2))
    have sends : state.enterCompletion task request [] =
        state.sendPending task pending false [] := by
      simp [ToolState.enterCompletion, completed, pendingFound, ← same.1, ← same.2]
    have committing : (state.sendPending task pending false []).tasks task =
        .committing pending false [] := Function.update_self _ _ _
    obtain ⟨after, runs, done, returned⟩ := run_committing committing
    refine ⟨[.acquire task, .writerReturns task none], after, rfl, ?_, sound.1 ▸ done, returned⟩
    rw [ToolState.run, entered, sends]
    exact runs
  | none =>
    have unresulted : state.resultExecutions.lookup request.toolCallId = none := by
      by_contra found
      obtain ⟨previous, lookedUp⟩ := Option.ne_none_iff_exists'.mp found
      obtain ⟨done, toolName, listed⟩ := invariant.completes.resulted _ _ lookedUp
      have same := (Attempt.mk.inj (distinct.calls _ listed _ named.names rfl)).1
      exact completed (same ▸ done)
    rcases accepted with found | ⟨wellFormed, commits⟩
    · rw [pendingFound] at found
      cases found
    obtain ⟨⟨log, item⟩, commits⟩ := Option.isSome_iff_exists.mp commits
    let prepared := (state.register request.toolCallId).prepare request
    let entering := { state.register request.toolCallId with lock := some task }.moveTo task
      (.sinking prepared [])
    have sinks : state.enterCompletion task request [] = entering := by
      simp [ToolState.enterCompletion, completed, pendingFound, unresulted, wellFormed,
        entering, prepared]
    have phase : entering.tasks task = .sinking prepared [] := Function.update_self _ _ _
    have committed : ToolState.commitToolResult entering.log prepared.completion =
        some (log, item) := commits
    let payload := if prepared.completion.toolOutcome = ToolOutcome.unknown then
      ToolState.persistedPayload prepared.payload item else prepared.payload
    have returns : (state.enterCompletion task request []).step (.sinkReturns task none) =
        some ({ entering with log }.makePending task prepared payload false []) := by
      simp only [sinks, ToolState.step, phase, ToolState.afterSink, committed]
      rfl
    obtain ⟨pending, committing, executed⟩ :=
      makePending_phase { entering with log } task prepared payload
    have executed : pending.toolExecutionId = request.toolExecutionId := executed
    obtain ⟨after, runs, done, returned⟩ := run_committing committing
    refine ⟨[.acquire task, .sinkReturns task none, .writerReturns task none], after, rfl, ?_,
      executed ▸ done, returned⟩
    rw [ToolState.run, entered, Option.bind_some, ToolState.run, returns]
    exact runs

theorem Starts.rejects (starts : Starts attempts state) {attempt : Attempt}
    (started : (state.tasks task).start = some attempt) (failure : Failure)
    {other future : Nat} {result : String} {succeeded : Bool}
    (waits : (state.failStart task attempt failure).tasks other =
      .waiting future attempt.toolCallId result succeeded) :
    (state.failStart task attempt failure).futures future ≠ .pending := by
  have undone := (starts.starting task attempt started).2.2.2
  unfold ToolState.failStart at waits ⊢
  split at waits
  · rename_i missing
    rcases ToolState.moveTo_cases waits with ⟨-, phase⟩ | ⟨-, waits⟩
    · cases phase
    · intro pending
      have shared := (starts.waiting _ _ _ _ _ waits).2.1 pending
      rw [missing] at shared
      cases shared
  · rename_i own found
    rw [if_pos (undone own found)] at waits ⊢
    rcases ToolState.moveTo_cases waits with ⟨-, phase⟩ | ⟨-, waits⟩
    · cases phase
    · intro pending
      change Function.update state.futures own _ future = _ at pending
      rw [Function.update_apply] at pending
      split at pending
      · cases pending
      · rename_i different
        have shared := (starts.waiting _ _ _ _ _ waits).2.1 pending
        exact different (Option.some.inj (shared.symm.trans found))

theorem Invariant.rejects (invariant : Invariant attempts state) {attempt : Attempt}
    {fault : WriterFault} {after : ToolState}
    (started : (state.tasks task).start = some attempt)
    (returns : state.writerReturns task (some fault) = some after)
    {other future : Nat} {result : String} {succeeded : Bool}
    (waits : after.tasks other = .waiting future attempt.toolCallId result succeeded) :
    after.futures future ≠ .pending := by
  have logged : ∀ record, Starts attempts (state.append record) := fun record =>
    let starts := invariant.starts
    ⟨starts.active, starts.shared, starts.own, starts.fresh, starts.starting, starts.single,
      starts.waiting, starts.futureDone⟩
  unfold ToolState.writerReturns at returns
  split at returns
  · rename_i declaring phase
    rw [phase] at started
    cases started
    cases returns
    split at waits
    · rw [if_pos ‹_›]
      exact (logged _).rejects (by rw [ToolState.append, phase]; rfl) _ waits
    · rw [if_neg ‹_›]
      exact invariant.starts.rejects (by rw [phase]; rfl) _ waits
  · rename_i starting phase
    rw [phase] at started
    cases started
    cases returns
    split at waits
    · rw [if_pos ‹_›]
      exact (logged _).rejects (by rw [ToolState.append, phase]; rfl) _ waits
    · rw [if_neg ‹_›]
      exact invariant.starts.rejects (by rw [phase]; rfl) _ waits
  · rename_i phase
    rw [phase] at started
    cases started
  · cases returns

theorem Invariant.progress (invariant : Invariant attempts state)
    (lock : state.lock = some task) :
    (state.step (.writerReturns task none)).isSome ∨
      (state.step (.sinkReturns task none)).isSome := by
  have held := (invariant.completes.holder task).mpr lock
  cases phase : state.tasks task with
  | sinking prepared further => exact .inr (by simp [ToolState.step, phase])
  | committing pending observerFailed further =>
    exact .inl (by simp [ToolState.step, ToolState.writerReturns, phase])
  | _ =>
    rw [phase] at held
    cases held

end Results

section Runs

variable {attempts : List Attempt} {registry : Registry} {state : ToolState}

/-- In a run whose starts and completions find what they rely on, attempts are
committed once, can be retried, and release their waiters. -/
theorem attempts_commit_once (distinct : Distinct attempts)
    (reached : Reached attempts registry state) : CommitsOnce attempts state := by
  have invariant := reached.invariant distinct
  have starts := invariant.starts
  have completes := invariant.completes
  have ledger := invariant.ledger
  refine {
    results := ledger.results_once distinct
    events := invariant.events_once
    resultFirst := ledger.resultFirst
    retries := completes.sentOnce
    startAgain := fun task _ _ _ => invariant.start_again distinct
    startRetry := fun task _ _ _ => invariant.start_retry distinct
    completionRetry := ?_
    released := ?_
    rejected := fun task attempt fault after started returns other future result succeeded =>
      invariant.rejects started returns
    progress := fun task => invariant.progress
    futureDone := starts.futureDone }
  · intro task request free lock named accepted
    have called : state.step (.completeTool task request) =
        some (state.moveTo task (.acquiring request [])) := by
      simp [ToolState.step, ToolState.call, free, completeTool_known named.known]
    have moved : Invariant attempts (state.moveTo task (.acquiring request [])) :=
      invariant.moveTo (held_of_free free) rfl rfl rfl (by simpa [Phase.requests] using named)
    have acquiring : (state.moveTo task (.acquiring request [])).tasks task =
        .acquiring request [] := Function.update_self _ _ _
    obtain ⟨actions, after, faultless, runs, done⟩ :=
      moved.run_acquiring distinct acquiring lock accepted
    refine ⟨.completeTool task request :: actions, after, by simpa [Action.faultless] using
      faultless, ?_, done⟩
    rw [ToolState.run, called]
    exact runs
  · intro task future toolCallId result succeeded waits pending
    exact (starts.shared _ _ ((starts.waiting _ _ _ _ _ waits).2.1 pending)).2.2

end Runs

namespace Sample

def registry : Registry :=
  { Registry.empty with
    currentModelCallId := some "m"
    providerIdsById := .ofList [("m:tool-call:c", "c")]
    idsByProviderKey := .ofList [((some "m", "c"), "m:tool-call:c")]
    modelCallIds := .ofList [("m:tool-call:c", some "m")] }

def attempt : Attempt := ⟨"e", "m:tool-call:c", "read"⟩

def phaseAfter (actions : List Action) (task : Nat) : Option Phase :=
  ((ToolState.initial registry).run actions).map fun state => state.tasks task

/-- The number of `tool.started` events after a run. -/
def startsAfter (actions : List Action) : Option Nat :=
  ((ToolState.initial registry).run actions).map fun state => state.log.countP fun
    | .started _ _ _ _ => true
    | _ => false

def startActions (toolCallId : String) : List Action :=
  [.completeToolFromMessage 0 "m" "c" "text" true, .startTool 1 "e" toolCallId "read",
    .writerReturns 1 none, .writerReturns 1 none]

end Sample

open Sample in
/-- The start of a call that a message waits for. -/
theorem attempts_commit_once_started : ∃ state,
    (ToolState.initial registry).run (startActions "m:tool-call:c") = some state ∧
      CommitsOnce [attempt] state := by
  have distinct : Distinct [attempt] :=
    ⟨by simp, by simp⟩
  have waits := @Reached.step [attempt] registry _ _
    (.completeToolFromMessage 0 "m" "c" "text" true) .initial trivial rfl
  have alone : ∀ task other,
      (Function.update (fun _ => Phase.idle) 0 (.waiting 0 "m:tool-call:c" "text" true)
        task).start = some other → other.toolExecutionId ≠ "e" := by
    intro task other found
    rw [Function.update_apply] at found
    split at found <;> cases found
  have started := @Reached.step [attempt] registry _ _
    (.startTool 1 "e" "m:tool-call:c" "read") waits
    ⟨by decide +kernel, by decide +kernel, by decide +kernel, alone⟩ rfl
  have declared := @Reached.step [attempt] registry _ _ (.writerReturns 1 none) started trivial rfl
  have active := @Reached.step [attempt] registry _ _ (.writerReturns 1 none) declared trivial rfl
  exact ⟨_, rfl, attempts_commit_once distinct active⟩

open Sample in
/-- A second start with the provider's id raises, and so does a start after one that
failed before a waiter.  Two starts at a time commit two events, and a waiter is left
behind by the completion of an attempt that was not started. -/
theorem attempts_not_committed_once :
    phaseAfter (startActions "c" ++ [.startTool 1 "e" "c" "read"]) 1 =
        some (.failed .startIdentity) ∧
      phaseAfter [.completeToolFromMessage 0 "m" "c" "text" true,
        .startTool 1 "e" "m:tool-call:c" "read", .writerReturns 1 (some ⟨.exception, false⟩),
        .startTool 1 "e" "m:tool-call:c" "read", .writerReturns 1 none,
        .writerReturns 1 none] 1 = some (.failed .futureDone) ∧
      startsAfter [.startTool 0 "e" "c" "read", .startTool 1 "e" "c" "read",
        .writerReturns 0 none, .writerReturns 1 none, .writerReturns 0 none,
        .writerReturns 1 none] = some 2 ∧
      phaseAfter [.completeToolFromMessage 0 "m" "c" "text" true,
        .completeTool 1 { toolExecutionId := "e", toolCallId := "c", toolName := "read",
                          status := "succeeded", result := "text" },
        .acquire 1, .sinkReturns 1 none, .writerReturns 1 none,
        .startTool 1 "e" "c" "read"] 0 = some (.waiting 0 "m:tool-call:c" "text" true) := by
  decide +kernel

end GraphAgent.ToolAttempts
