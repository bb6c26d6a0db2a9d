import GraphAgent.ExecutionQueue

/-!
# Order and fencing of the execution queue

Every transaction is one of a few steps, each of which keeps the order of the
queue, the claims and the revision; a run of transactions then keeps them too.
-/

namespace GraphAgent.Rollout

open KeyedRows Transaction

structure RowSucceeds (later earlier : QueueRow) : Prop where
  key : later.key = earlier.key
  executionId : later.executionId = earlier.executionId
  admissionCommitId : later.admissionCommitId = earlier.admissionCommitId
  claimGeneration : earlier.claimGeneration ≤ later.claimGeneration
  final : earlier.isTerminal = true → later = earlier

namespace RowSucceeds

@[refl]
theorem refl (row : QueueRow) : RowSucceeds row row :=
  ⟨rfl, rfl, rfl, le_rfl, fun _ => rfl⟩

theorem trans {first second third : QueueRow} (next : RowSucceeds third second)
    (start : RowSucceeds second first) : RowSucceeds third first where
  key := next.key.trans start.key
  executionId := next.executionId.trans start.executionId
  admissionCommitId := next.admissionCommitId.trans start.admissionCommitId
  claimGeneration := start.claimGeneration.trans next.claimGeneration
  final := by
    intro terminal
    have same := start.final terminal
    rw [next.final (by rw [same]; exact terminal), same]

end RowSucceeds

structure SameAdmission (later earlier : Execution) : Prop where
  admission : later.admission = earlier.admission
  commitId : later.commitId = earlier.commitId
  acceptedIngressId : later.acceptedIngressId = earlier.acceptedIngressId

theorem SameAdmission.trans {first second third : Execution} (next : SameAdmission third second)
    (start : SameAdmission second first) : SameAdmission third first :=
  ⟨next.admission.trans start.admission, next.commitId.trans start.commitId,
    next.acceptedIngressId.trans start.acceptedIngressId⟩

namespace RolloutDatabase

variable {hashInput : ExecutionQueueInput → String} {database next : RolloutDatabase}
  {checkpointNs jobId nowText : String} {row : QueueRow}

/-- Every job admitted before the row is over. -/
def IsHead (rows : List QueueRow) (row : QueueRow) : Prop :=
  ∀ other ∈ rows, other.checkpointNs = row.checkpointNs →
    other.admissionCommitId < row.admissionCommitId → other.isTerminal = true

structure Consistent (database : RolloutDatabase) : Prop where
  rowCommits : ∀ row ∈ database.queue.rows, row.admissionCommitId ≤ database.lastCommitId
  executed : ∀ row ∈ database.queue.rows, ∃ execution,
    database.execution row.executionId = some execution
  waiting : ∀ row ∈ database.queue.rows, row.isTerminal = false →
    ∀ execution, database.execution row.executionId = some execution →
      execution.outcome = "unknown"
  active : ∀ row ∈ database.queue.rows, row.phase.isActive = true →
    IsHead database.queue.rows row

/-- What an update may do to a waiting row. -/
structure RowMove (rows : List QueueRow) (row later : QueueRow) : Prop where
  succeeds : RowSucceeds later row
  stays : later.isTerminal = row.isTerminal
  head : later.phase.isActive = true → row.phase.isActive = true ∨ IsHead rows row

def settledExecutions (database : RolloutDatabase) (executionId outcome nowText : String) :
    List Execution :=
  updateWhere (fun execution => execution.admission.executionId = executionId)
    (fun execution => { execution with outcome, updatedAt := nowText }) database.executions

def finishedRows (rows : List QueueRow) (executionId nowText : String) : List QueueRow :=
  updateWhere (fun row => row.executionId = executionId && !row.isTerminal)
    (fun row => { row with phase := .terminal, updatedAt := nowText }) rows

/-- Everything a committed transaction can do. -/
inductive QueueStep (database : RolloutDatabase) : RolloutDatabase → Prop where
  | unchanged : QueueStep database database
  | dispatched (executionId : String) :
      QueueStep database { database with dispatched := executionId :: database.dispatched }
  | committed :
      QueueStep database { database with lastCommitId := database.lastCommitId + 1 }
  | admitted (execution : Execution)
      (absent : database.execution execution.admission.executionId = none) :
      QueueStep database { database with
        executions := database.executions ++ [execution]
        lastCommitId := database.lastCommitId + 1 }
  | published (execution : Execution) (row : QueueRow)
      (absent : database.execution execution.admission.executionId = none)
      (unknown : execution.outcome = "unknown")
      (commit : row.admissionCommitId = database.lastCommitId + 1)
      (executed : row.executionId = execution.admission.executionId)
      (queued : row.phase = .queued)
      (constraints : TableConstraints (database.queue.rows ++ [row])) :
      QueueStep database { database with
        executions := database.executions ++ [execution]
        lastCommitId := database.lastCommitId + 1
        queue := ⟨database.queue.rows ++ [row], constraints⟩
        revision := database.revision + 1 }
  | rewritten (matching : QueueRow → Bool) (change : QueueRow → QueueRow)
      (moves : ∀ row ∈ database.queue.rows, matching row = true →
        RowMove database.queue.rows row (change row))
      (constraints : TableConstraints (updateWhere matching change database.queue.rows)) :
      QueueStep database { database with
        queue := ⟨updateWhere matching change database.queue.rows, constraints⟩
        revision := database.revision + (database.queue.rows.filter matching).length }
  | observed (executionId outcome nowText : String)
      (quiet : outcome = "unknown" ∨ database.execution executionId = none) :
      QueueStep database { database with
        executions := database.settledExecutions executionId outcome nowText }
  | finished (executionId outcome nowText : String)
      (constraints : TableConstraints (finishedRows database.queue.rows executionId nowText)) :
      QueueStep database { database with
        executions := database.settledExecutions executionId outcome nowText
        queue := ⟨finishedRows database.queue.rows executionId nowText, constraints⟩
        revision := database.revision + (database.queue.rows.filter fun row =>
          row.executionId = executionId && !row.isTerminal).length }

theorem storeRows_ok {rows : List QueueRow} {changed : Nat}
    (stored : database.storeRows rows changed = .ok next) :
    ∃ constraints : TableConstraints rows, next = { database with
      queue := ⟨rows, constraints⟩, revision := database.revision + changed } := by
  unfold storeRows at stored
  split at stored
  · rename_i constraints
    cases stored
    exact ⟨constraints, rfl⟩
  · cases stored

theorem updateRows_step {matching : QueueRow → Bool} {change : QueueRow → QueueRow}
    (updated : database.updateRows matching change = .ok next)
    (moves : ∀ row ∈ database.queue.rows, matching row = true →
      RowMove database.queue.rows row (change row)) : QueueStep database next := by
  obtain ⟨constraints, rfl⟩ := storeRows_ok updated
  exact .rewritten matching change moves constraints

theorem updateOne_ok {matching : QueueRow → Bool} {change : QueueRow → QueueRow}
    {missed : String} (updated : database.updateOne matching change missed = .ok next) :
    (database.queue.rows.filter matching).length = 1 ∧
      database.updateRows matching change = .ok next := by
  unfold updateOne at updated
  split at updated
  · cases updated
  · rename_i one
    exact ⟨not_not.mp one, updated⟩

theorem committed_step {outcome : Except ExecutionQueueError RolloutDatabase}
    (moved : ∀ next, outcome = .ok next → QueueStep database next) :
    QueueStep database (database.committed outcome) := by
  cases outcome with
  | error error => exact .unchanged
  | ok next => exact moved next rfl

theorem eq_of_key {first second : QueueRow} (firstMember : first ∈ database.queue.rows)
    (secondMember : second ∈ database.queue.rows) (same : first.key = second.key) :
    first = second :=
  eq_of_key_eq database.queue.constraints.keys firstMember secondMember same

theorem queueRow_of_mem (member : row ∈ database.queue.rows) :
    database.queueRow row.checkpointNs row.jobId = some row :=
  fetch_of_mem database.queue.constraints.keys member

theorem executionQueueRecord_ok {record : ExecutionQueueRecord}
    (read : database.executionQueueRecord hashInput checkpointNs jobId = .ok record) :
    ∃ row, database.queueRow checkpointNs jobId = some row ∧
      record.phase = row.phase ∧ record.claimGeneration = row.claimGeneration := by
  unfold executionQueueRecord at read
  split at read
  · cases read
  rename_i row found
  split at read
  · cases read
  rename_i execution executionFound
  refine ⟨row, found, ?_⟩
  unfold checkedRecord at read
  split at read
  · cases read
  obtain ⟨_, _, built⟩ := bind_ok read
  split at built
  · cases built
  unfold ExecutionQueueRecord.validate at built
  split at built
  · cases built
  split at built
  · cases built
  split at built
  · cases built
  cases built
  exact ⟨rfl, rfl⟩

theorem queueHead_isHead (found : database.queueHead checkpointNs = some row) :
    row ∈ database.queue.rows ∧ row.checkpointNs = checkpointNs ∧ row.isTerminal = false ∧
      IsHead database.queue.rows row := by
  have member := List.argmin_mem found
  obtain ⟨present, kept⟩ := List.mem_filter.mp member
  simp only [Bool.and_eq_true, decide_eq_true_eq, Bool.not_eq_true'] at kept
  refine ⟨present, kept.1, kept.2, ?_⟩
  intro other otherMember sameNs smaller
  by_contra terminal
  have waiting : other.isTerminal = false := by simpa using terminal
  have otherWaiting : other ∈ database.waitingRows checkpointNs := by
    refine List.mem_filter.mpr ⟨otherMember, ?_⟩
    simp [sameNs.trans kept.1, waiting]
  have least := List.le_of_mem_argmin otherWaiting found
  omega

theorem claim_step {claimOwner : String} {previousGeneration : Nat}
    {claimed : ExecutionQueueRecord}
    (taken : database.claimExecutionQueue hashInput checkpointNs jobId claimOwner
      previousGeneration nowText = .ok (claimed, next)) : QueueStep database next := by
  unfold claimExecutionQueue at taken
  split at taken
  · cases taken
  obtain ⟨record, read, checks⟩ := bind_ok taken
  obtain ⟨_, checked, statement⟩ := bind_ok checks
  obtain ⟨after, updated, reading⟩ := bind_ok statement
  obtain ⟨_, _, built⟩ := bind_ok reading
  cases built
  unfold checkClaim at checked
  split at checked
  · cases checked
  split at checked
  · cases checked
  split at checked
  · cases checked
  rename_i head
  obtain ⟨first, headFound, headJob⟩ := Option.map_eq_some_iff.mp (not_not.mp head)
  obtain ⟨firstMember, firstNs, firstWaiting, firstHead⟩ := queueHead_isHead headFound
  refine updateRows_step updated ?_
  intro row member matched
  simp only [Bool.and_eq_true, decide_eq_true_eq] at matched
  have sameKey : row.key = first.key := by
    rw [matched.1, QueueRow.key, firstNs, headJob]
  have same := eq_of_key member firstMember sameKey
  subst same
  refine ⟨⟨rfl, rfl, rfl, Nat.le_succ _, ?_⟩, ?_, fun _ => .inr firstHead⟩
  · intro terminal
    rw [firstWaiting] at terminal
    cases terminal
  · rw [firstWaiting]
    rfl

theorem start_step {claimOwner : String} {claimGeneration : Nat}
    (started : database.startExecutionQueue checkpointNs jobId claimOwner claimGeneration
      nowText = .ok next) : QueueStep database next := by
  refine updateRows_step (updateOne_ok started).2 ?_
  intro row member matched
  simp only [Bool.and_eq_true, decide_eq_true_eq] at matched
  have active : row.phase.isActive = true := matched.1.1.2
  have waiting : row.isTerminal = false := by
    cases phase : row.phase with
    | queued => simp [QueueRow.isTerminal, phase]
    | claimed => simp [QueueRow.isTerminal, phase]
    | started => simp [QueueRow.isTerminal, phase]
    | terminal =>
      rw [phase] at active
      cases active
  refine ⟨⟨rfl, rfl, rfl, le_rfl, ?_⟩, ?_, fun _ => .inl active⟩
  · intro terminal
    rw [waiting] at terminal
    cases terminal
  · rw [waiting]
    rfl

theorem policy_step {policy : String} {expectedRevision : Nat}
    (updated : database.updateExecutionQueuePolicy checkpointNs jobId policy expectedRevision
      nowText = .ok next) :
    QueueStep database next ∧ database.revision = expectedRevision := by
  unfold updateExecutionQueuePolicy at updated
  split at updated
  · cases updated
  split at updated
  · cases updated
  rename_i current
  refine ⟨updateRows_step (updateOne_ok updated).2 ?_, not_not.mp current⟩
  intro row member matched
  simp only [Bool.and_eq_true, decide_eq_true_eq] at matched
  have waiting : row.isTerminal = false := by simp [QueueRow.isTerminal, matched.2]
  refine ⟨⟨rfl, rfl, rfl, le_rfl, ?_⟩, rfl, fun active => .inl active⟩
  intro terminal
  rw [waiting] at terminal
  cases terminal

theorem outcome_step {executionId outcome : String}
    (updated : database.updateOutcome executionId outcome nowText = .ok next) :
    QueueStep database next := by
  unfold updateOutcome at updated
  dsimp only at updated
  split at updated
  · obtain ⟨constraints, rfl⟩ := storeRows_ok updated
    exact @QueueStep.finished database executionId outcome nowText constraints
  · rename_i quiet
    cases updated
    refine .observed executionId outcome nowText ?_
    by_cases unknown : outcome = "unknown"
    · exact .inl unknown
    · right
      rw [← Option.not_isSome_iff_eq_none]
      intro present
      exact quiet ⟨unknown, present⟩

theorem ensurePublished_ok {execution : Execution} {input : ExecutionQueueInput}
    (published : database.ensurePublished hashInput execution input checkpointNs = .ok next) :
    (next = database ∧ (database.queueRow checkpointNs execution.admission.jobId).isSome) ∨
      (database.queueRow checkpointNs execution.admission.jobId = none ∧
        database.insertRow (publishedRow hashInput execution checkpointNs input) = .ok next) := by
  unfold ensurePublished at published
  split at published
  · rename_i row found
    split at published
    · cases published
    · cases published
      exact .inl ⟨rfl, by simp [found]⟩
  · rename_i absent
    exact .inr ⟨absent, published⟩

theorem publish_ok {admission : ExecutionAdmission} {input : ExecutionQueueInput}
    {record : ExecutionQueueRecord}
    (published : database.publishExecutionQueueInput hashInput admission input checkpointNs =
      .ok (record, next)) :
    ∃ execution, database.execution admission.executionId = some execution ∧
      execution.admission = admission ∧
        database.ensurePublished hashInput execution input checkpointNs = .ok next := by
  obtain ⟨_, _, cursor⟩ := bind_ok published
  obtain ⟨execution, found, ensured⟩ := bind_ok cursor
  obtain ⟨after, inserted, reading⟩ := bind_ok ensured
  obtain ⟨_, _, built⟩ := bind_ok reading
  cases built
  unfold executionAdmissionCursor at found
  split at found
  · cases found
  rename_i stored present
  split at found
  · cases found
  rename_i same
  cases found
  exact ⟨execution, present, not_not.mp same, inserted⟩

theorem republish_step {admission : ExecutionAdmission} {input : ExecutionQueueInput}
    {record : ExecutionQueueRecord}
    (present : (database.queueRow checkpointNs admission.jobId).isSome)
    (published : database.publishExecutionQueueInput hashInput admission input checkpointNs =
      .ok (record, next)) : QueueStep database next := by
  obtain ⟨execution, -, same, ensured⟩ := publish_ok published
  rcases ensurePublished_ok ensured with ⟨rfl, -⟩ | ⟨absent, -⟩
  · exact .unchanged
  · rw [same] at absent
    rw [absent] at present
    cases present

theorem admit_step {admission : ExecutionAdmission} {acceptedIngressId : Option String}
    {input : ExecutionQueueInput} {record : ExecutionQueueRecord}
    (admitted : database.admitAndPublish hashInput admission acceptedIngressId input checkpointNs
      nowText = .ok (record, next)) : QueueStep database next := by
  obtain ⟨opened, inserted, published⟩ := bind_ok admitted
  unfold admitExecution at inserted
  split at inserted
  · cases inserted
  rename_i absent
  cases inserted
  obtain ⟨execution, found, -, ensured⟩ := publish_ok published
  have new : execution =
      ⟨admission, database.lastCommitId + 1, acceptedIngressId, "unknown", nowText⟩ := by
    rw [RolloutDatabase.execution] at absent found
    rw [fetch_append, absent, Option.none_or, fetch, List.find?_cons_of_pos (by simp)] at found
    exact (Option.some.inj found).symm
  subst new
  rcases ensurePublished_ok ensured with ⟨rfl, -⟩ | ⟨-, appended⟩
  · exact .admitted _ absent
  · obtain ⟨constraints, rfl⟩ := storeRows_ok appended
    exact @QueueStep.published database _ _ absent rfl rfl rfl rfl constraints

theorem step_queueStep (database : RolloutDatabase) (command : QueueCommand) :
    QueueStep database (database.step hashInput command) := by
  cases command with
  | admission admission acceptedIngressId input checkpointNs nowText =>
    refine committed_step fun next outcome => ?_
    obtain ⟨result, admitted, rfl⟩ := map_ok outcome
    exact admit_step admitted
  | republish admission input checkpointNs =>
    change QueueStep database (if _ then _ else _)
    split
    · rename_i present
      refine committed_step fun next outcome => ?_
      obtain ⟨result, published, rfl⟩ := map_ok outcome
      exact republish_step present published
    · exact .unchanged
  | claim checkpointNs jobId claimOwner previousGeneration nowText =>
    refine committed_step fun next outcome => ?_
    obtain ⟨result, taken, rfl⟩ := map_ok outcome
    exact claim_step taken
  | start checkpointNs jobId claimOwner claimGeneration nowText =>
    exact committed_step fun next started => start_step started
  | updatePolicy checkpointNs jobId policy expectedRevision nowText =>
    exact committed_step fun next updated => (policy_step updated).1
  | updateOutcome executionId outcome nowText =>
    exact committed_step fun next updated => outcome_step updated
  | dispatch executionId => exact .dispatched executionId
  | otherCommit => exact .committed

/-- What any run of transactions leaves true of what was there. -/
structure Evolves (database next : RolloutDatabase) : Prop where
  rows : ∀ row ∈ database.queue.rows, ∃ later ∈ next.queue.rows, RowSucceeds later row
  origin : ∀ later ∈ next.queue.rows,
    (∃ row ∈ database.queue.rows, RowSucceeds later row) ∨
      database.lastCommitId < later.admissionCommitId
  commits : database.lastCommitId ≤ next.lastCommitId
  executions : ∀ executionId execution, database.execution executionId = some execution →
    ∃ later, next.execution executionId = some later ∧ SameAdmission later execution
  revision : database.revision ≤ next.revision
  counted : next.revision = database.revision → next.queue.rows = database.queue.rows

namespace Evolves

theorem of_same {database next : RolloutDatabase} (sameQueue : next.queue = database.queue)
    (sameRevision : next.revision = database.revision)
    (commits : database.lastCommitId ≤ next.lastCommitId)
    (executions : ∀ executionId execution, database.execution executionId = some execution →
      ∃ later, next.execution executionId = some later ∧ SameAdmission later execution) :
    Evolves database next where
  rows row member := ⟨row, by rw [sameQueue]; exact member, RowSucceeds.refl row⟩
  origin later member := .inl ⟨later, by rw [← sameQueue]; exact member, RowSucceeds.refl later⟩
  commits := commits
  executions := executions
  revision := sameRevision.ge
  counted _ := by rw [sameQueue]

theorem kept_executions (database : RolloutDatabase) (executionId : String)
    (execution : Execution) (found : database.execution executionId = some execution) :
    ∃ later, database.execution executionId = some later ∧ SameAdmission later execution :=
  ⟨execution, found, rfl, rfl, rfl⟩

theorem refl (database : RolloutDatabase) : Evolves database database :=
  of_same rfl rfl le_rfl (kept_executions database)

theorem trans {first second third : RolloutDatabase} (start : Evolves first second)
    (later : Evolves second third) : Evolves first third where
  rows := by
    intro row member
    obtain ⟨middle, middleMember, middleSucceeds⟩ := start.rows row member
    obtain ⟨last, lastMember, lastSucceeds⟩ := later.rows middle middleMember
    exact ⟨last, lastMember, lastSucceeds.trans middleSucceeds⟩
  origin := by
    intro last member
    rcases later.origin last member with ⟨middle, middleMember, lastSucceeds⟩ | new
    · rcases start.origin middle middleMember with ⟨row, rowMember, middleSucceeds⟩ | new
      · exact .inl ⟨row, rowMember, lastSucceeds.trans middleSucceeds⟩
      · exact .inr (by rw [lastSucceeds.admissionCommitId]; exact new)
    · exact .inr (start.commits.trans_lt new)
  commits := start.commits.trans later.commits
  executions := by
    intro executionId execution found
    obtain ⟨middle, middleFound, middleSame⟩ := start.executions executionId execution found
    obtain ⟨last, lastFound, lastSame⟩ := later.executions executionId middle middleFound
    exact ⟨last, lastFound, lastSame.trans middleSame⟩
  revision := start.revision.trans later.revision
  counted := by
    intro same
    have early := start.revision
    have late := later.revision
    rw [later.counted (by omega), start.counted (by omega)]

end Evolves

theorem execution_id {executionId : String} {execution : Execution}
    (found : database.execution executionId = some execution) :
    execution.admission.executionId = executionId := by
  simpa using List.find?_some found

theorem execution_settled (database : RolloutDatabase) (executionId outcome nowText : String)
    (wanted : String) :
    fetch (fun execution : Execution => execution.admission.executionId)
        (database.settledExecutions executionId outcome nowText) wanted =
      (database.execution wanted).map fun execution =>
        if execution.admission.executionId = executionId then
          { execution with outcome, updatedAt := nowText }
        else
          execution := by
  have keeps : ∀ execution : Execution, ({ execution with outcome, updatedAt := nowText } :
      Execution).admission.executionId = execution.admission.executionId := fun _ => rfl
  rw [settledExecutions, fetch_updateWhere keeps]
  simp only [decide_eq_true_eq]
  rfl

theorem settled_executions (database : RolloutDatabase) (settledId outcome nowText : String)
    (executionId : String) (execution : Execution)
    (found : database.execution executionId = some execution) :
    ∃ later, fetch (fun execution : Execution => execution.admission.executionId)
        (database.settledExecutions settledId outcome nowText) executionId = some later ∧
      SameAdmission later execution := by
  rw [execution_settled, found]
  refine ⟨_, rfl, ?_⟩
  dsimp only
  split
  · exact ⟨rfl, rfl, rfl⟩
  · exact ⟨rfl, rfl, rfl⟩

theorem appended_executions (database : RolloutDatabase) (new : Execution)
    (executionId : String) (execution : Execution)
    (found : database.execution executionId = some execution) :
    ∃ later, fetch (fun execution : Execution => execution.admission.executionId)
        (database.executions ++ [new]) executionId = some later ∧
      SameAdmission later execution := by
  have kept : fetch (fun execution : Execution => execution.admission.executionId)
      database.executions executionId = some execution := found
  exact ⟨execution, by rw [fetch_append, kept, Option.some_or], rfl, rfl, rfl⟩

section Update

variable {matching : QueueRow → Bool} {change : QueueRow → QueueRow} {rows : List QueueRow}

theorem updated_row (succeeds : ∀ row ∈ rows, matching row = true → RowSucceeds (change row) row)
    (member : row ∈ rows) :
    (if matching row then change row else row) ∈ updateWhere matching change rows ∧
      RowSucceeds (if matching row then change row else row) row := by
  refine ⟨List.mem_map.mpr ⟨row, member, rfl⟩, ?_⟩
  split
  · rename_i matched
    exact succeeds row member matched
  · exact RowSucceeds.refl row

theorem updateWhere_unmatched (none : (rows.filter matching).length = 0) :
    updateWhere matching change rows = rows := by
  rw [List.length_eq_zero_iff, List.filter_eq_nil_iff] at none
  rw [updateWhere]
  conv_rhs => rw [← List.map_id rows]
  refine List.map_congr_left fun row member => ?_
  rw [if_neg (none row member)]
  rfl

end Update

theorem finished_succeeds {executionId : String} (row : QueueRow)
    (matched : (row.executionId = executionId && !row.isTerminal) = true) :
    RowSucceeds { row with phase := .terminal, updatedAt := nowText } row := by
  refine ⟨rfl, rfl, rfl, le_rfl, ?_⟩
  intro terminal
  simp [terminal] at matched

theorem QueueStep.evolves (moved : QueueStep database next) : Evolves database next := by
  cases moved with
  | unchanged => exact Evolves.refl database
  | dispatched executionId => exact Evolves.of_same rfl rfl le_rfl (Evolves.kept_executions _)
  | committed => exact Evolves.of_same rfl rfl (Nat.le_succ _) (Evolves.kept_executions _)
  | admitted execution absent =>
    exact Evolves.of_same rfl rfl (Nat.le_succ _) (appended_executions database execution)
  | published execution row absent unknown commit executed queued constraints =>
    refine ⟨?_, ?_, Nat.le_succ _, appended_executions database execution, Nat.le_succ _, ?_⟩
    · intro earlier member
      exact ⟨earlier, List.mem_append_left _ member, RowSucceeds.refl earlier⟩
    · intro later member
      rcases List.mem_append.mp member with before | new
      · exact .inl ⟨later, before, RowSucceeds.refl later⟩
      · right
        rw [List.mem_singleton.mp new, commit]
        exact Nat.lt_succ_self _
    · intro same
      exact absurd same (Nat.succ_ne_self _)
  | rewritten matching change moves constraints =>
    have succeeds : ∀ row ∈ database.queue.rows, matching row = true →
        RowSucceeds (change row) row :=
      fun row member matched => (moves row member matched).succeeds
    refine ⟨?_, ?_, le_rfl, Evolves.kept_executions database, Nat.le_add_right _ _, ?_⟩
    · intro row member
      exact ⟨_, updated_row succeeds member⟩
    · intro later member
      obtain ⟨row, rowMember, rfl⟩ := List.mem_map.mp member
      exact .inl ⟨row, rowMember, (updated_row succeeds rowMember).2⟩
    · intro same
      exact updateWhere_unmatched (by dsimp only at same; omega)
  | observed executionId outcome nowText quiet =>
    exact Evolves.of_same rfl rfl le_rfl
      (settled_executions database executionId outcome nowText)
  | finished executionId outcome nowText constraints =>
    refine ⟨?_, ?_, le_rfl, settled_executions database executionId outcome nowText,
      Nat.le_add_right _ _, ?_⟩
    · intro row member
      exact ⟨_, updated_row (fun row _ => finished_succeeds row) member⟩
    · intro later member
      obtain ⟨row, rowMember, rfl⟩ := List.mem_map.mp member
      exact .inl ⟨row, rowMember, (updated_row (fun row _ => finished_succeeds row) rowMember).2⟩
    · intro same
      exact updateWhere_unmatched (by dsimp only at same; omega)

theorem IsHead.evolves (consistent : database.Consistent) (evolved : Evolves database next)
    (member : row ∈ database.queue.rows) (head : IsHead database.queue.rows row)
    {later : QueueRow} (succeeds : RowSucceeds later row) : IsHead next.queue.rows later := by
  intro other otherMember sameNs smaller
  rcases evolved.origin other otherMember with ⟨earlier, earlierMember, otherSucceeds⟩ | new
  · have terminal := head earlier earlierMember
      (by
        have otherNs := congrArg Prod.fst otherSucceeds.key
        have laterNs := congrArg Prod.fst succeeds.key
        exact otherNs.symm.trans (sameNs.trans laterNs))
      (by rw [← otherSucceeds.admissionCommitId, ← succeeds.admissionCommitId]; exact smaller)
    rw [otherSucceeds.final terminal]
    exact terminal
  · have bound := consistent.rowCommits row member
    rw [succeeds.admissionCommitId] at smaller
    omega

theorem QueueStep.consistent (moved : QueueStep database next) (consistent : database.Consistent) :
    next.Consistent := by
  have evolved := moved.evolves
  have commits : ∀ later ∈ next.queue.rows,
      (∃ row ∈ database.queue.rows, RowSucceeds later row) →
        later.admissionCommitId ≤ next.lastCommitId := by
    rintro later - ⟨row, rowMember, succeeds⟩
    rw [succeeds.admissionCommitId]
    exact (consistent.rowCommits row rowMember).trans evolved.commits
  have executed : ∀ later, (∃ row ∈ database.queue.rows, RowSucceeds later row) →
      ∃ execution, next.execution later.executionId = some execution := by
    rintro later ⟨row, rowMember, succeeds⟩
    obtain ⟨execution, found⟩ := consistent.executed row rowMember
    obtain ⟨after, afterFound, -⟩ := evolved.executions _ _ found
    exact ⟨after, by rw [succeeds.executionId]; exact afterFound⟩
  have active : ∀ later, (∃ row ∈ database.queue.rows, RowSucceeds later row ∧
      (row.phase.isActive = true ∨ IsHead database.queue.rows row)) →
        IsHead next.queue.rows later := by
    rintro later ⟨row, rowMember, succeeds, rowActive | head⟩
    · exact (consistent.active row rowMember rowActive).evolves consistent evolved rowMember
        succeeds
    · exact head.evolves consistent evolved rowMember succeeds
  cases moved with
  | unchanged => exact consistent
  | dispatched executionId =>
    exact ⟨consistent.rowCommits, consistent.executed, consistent.waiting, consistent.active⟩
  | committed =>
    exact ⟨fun row member => (consistent.rowCommits row member).trans (Nat.le_succ _),
      consistent.executed, consistent.waiting, consistent.active⟩
  | admitted execution absent =>
    refine ⟨fun row member => (consistent.rowCommits row member).trans (Nat.le_succ _), ?_, ?_,
      consistent.active⟩
    · intro row member
      exact executed row ⟨row, member, RowSucceeds.refl row⟩
    · intro row member waiting found foundAfter
      obtain ⟨before, beforeFound⟩ := consistent.executed row member
      have kept : fetch (fun execution : Execution => execution.admission.executionId)
          database.executions row.executionId = some before := beforeFound
      rw [RolloutDatabase.execution, fetch_append, kept, Option.some_or] at foundAfter
      rw [← Option.some.inj foundAfter]
      exact consistent.waiting row member waiting before beforeFound
  | published execution new absent unknown commit same queued constraints =>
    refine ⟨?_, ?_, ?_, ?_⟩
    · intro row member
      rcases List.mem_append.mp member with before | single
      · exact (consistent.rowCommits row before).trans (Nat.le_succ _)
      · rw [List.mem_singleton.mp single, commit]
    · intro row member
      rcases List.mem_append.mp member with before | single
      · exact executed row ⟨row, before, RowSucceeds.refl row⟩
      · rw [List.mem_singleton.mp single, same]
        rw [RolloutDatabase.execution] at absent
        refine ⟨execution, ?_⟩
        rw [RolloutDatabase.execution, fetch_append, absent, Option.none_or, fetch,
          List.find?_cons_of_pos (by simp)]
    · intro row member waiting found foundAfter
      rcases List.mem_append.mp member with before | single
      · obtain ⟨earlier, earlierFound⟩ := consistent.executed row before
        have kept : fetch (fun execution : Execution => execution.admission.executionId)
            database.executions row.executionId = some earlier := earlierFound
        rw [RolloutDatabase.execution, fetch_append, kept, Option.some_or] at foundAfter
        rw [← Option.some.inj foundAfter]
        exact consistent.waiting row before waiting earlier earlierFound
      · rw [List.mem_singleton.mp single, same] at foundAfter
        rw [RolloutDatabase.execution] at absent
        rw [RolloutDatabase.execution, fetch_append, absent, Option.none_or, fetch,
          List.find?_cons_of_pos (by simp)] at foundAfter
        rw [← Option.some.inj foundAfter]
        exact unknown
    · intro row member rowActive
      rcases List.mem_append.mp member with before | single
      · exact active row ⟨row, before, RowSucceeds.refl row, .inl rowActive⟩
      · rw [List.mem_singleton.mp single, queued] at rowActive
        cases rowActive
  | rewritten matching change moves constraints =>
    have succeeds : ∀ row ∈ database.queue.rows, matching row = true →
        RowSucceeds (change row) row :=
      fun row member matched => (moves row member matched).succeeds
    refine ⟨?_, ?_, ?_, ?_⟩
    · intro later member
      obtain ⟨row, rowMember, rfl⟩ := List.mem_map.mp member
      exact commits _ member ⟨row, rowMember, (updated_row succeeds rowMember).2⟩
    · intro later member
      obtain ⟨row, rowMember, rfl⟩ := List.mem_map.mp member
      exact executed _ ⟨row, rowMember, (updated_row succeeds rowMember).2⟩
    · intro later member waiting execution found
      obtain ⟨row, rowMember, rfl⟩ := List.mem_map.mp member
      rw [(updated_row succeeds rowMember).2.executionId] at found
      refine consistent.waiting row rowMember ?_ execution found
      split at waiting
      · rename_i matched
        rw [← (moves row rowMember matched).stays]
        exact waiting
      · exact waiting
    · intro later member laterActive
      obtain ⟨row, rowMember, rfl⟩ := List.mem_map.mp member
      refine active _ ⟨row, rowMember, (updated_row succeeds rowMember).2, ?_⟩
      split at laterActive
      · rename_i matched
        exact (moves row rowMember matched).head laterActive
      · exact .inl laterActive
  | observed executionId outcome nowText quiet =>
    refine ⟨consistent.rowCommits, ?_, ?_, consistent.active⟩
    · intro row member
      exact executed row ⟨row, member, RowSucceeds.refl row⟩
    · intro row member waiting execution found
      rw [RolloutDatabase.execution, execution_settled] at found
      obtain ⟨before, beforeFound, settled⟩ := Option.map_eq_some_iff.mp found
      have unknown := consistent.waiting row member waiting before beforeFound
      rw [← settled]
      split
      · rename_i sameId
        rcases quiet with quiet | absent
        · exact quiet
        · rw [← sameId, execution_id beforeFound, beforeFound] at absent
          cases absent
      · exact unknown
  | finished executionId outcome nowText constraints =>
    refine ⟨?_, ?_, ?_, ?_⟩
    · intro later member
      obtain ⟨row, rowMember, rfl⟩ := List.mem_map.mp member
      exact commits _ member
        ⟨row, rowMember, (updated_row (fun row _ => finished_succeeds row) rowMember).2⟩
    · intro later member
      obtain ⟨row, rowMember, rfl⟩ := List.mem_map.mp member
      exact executed _
        ⟨row, rowMember, (updated_row (fun row _ => finished_succeeds row) rowMember).2⟩
    · intro later member waiting execution found
      obtain ⟨row, rowMember, rfl⟩ := List.mem_map.mp member
      split at waiting
      · cases waiting
      · rename_i unmatched
        rw [if_neg unmatched] at found
        rw [RolloutDatabase.execution, execution_settled] at found
        obtain ⟨before, beforeFound, settled⟩ := Option.map_eq_some_iff.mp found
        have different : ¬ before.admission.executionId = executionId := by
          intro same
          rw [execution_id beforeFound] at same
          exact unmatched (by simp [same, waiting])
        rw [if_neg different] at settled
        rw [← settled]
        exact consistent.waiting row rowMember waiting before beforeFound
    · intro later member laterActive
      obtain ⟨row, rowMember, rfl⟩ := List.mem_map.mp member
      refine active _ ⟨row, rowMember,
        (updated_row (fun row _ => finished_succeeds row) rowMember).2, .inl ?_⟩
      split at laterActive
      · cases laterActive
      · exact laterActive

theorem fresh_consistent : fresh.Consistent := by
  constructor <;> simp [fresh, ExecutionQueueTable.empty]

theorem run_consistent (consistent : database.Consistent) (commands : List QueueCommand) :
    (database.run hashInput commands).Consistent := by
  induction commands generalizing database with
  | nil => exact consistent
  | cons command commands ih =>
    exact ih ((step_queueStep database command).consistent consistent)

theorem run_evolves (hashInput : ExecutionQueueInput → String) (commands : List QueueCommand) :
    Evolves database (database.run hashInput commands) := by
  induction commands generalizing database with
  | nil => exact Evolves.refl database
  | cons command commands ih => exact (step_queueStep database command).evolves.trans ih

theorem checkedRecord_congr {first second : Execution} (same : SameAdmission second first)
    (outcome : second.outcome = first.outcome) (row : QueueRow) (jobId : String) :
    checkedRecord hashInput row second jobId = checkedRecord hashInput row first jobId := by
  unfold checkedRecord
  rw [same.admission, same.commitId, same.acceptedIngressId, outcome]

theorem executionQueueRecord_evolves (consistent : database.Consistent)
    (nextConsistent : next.Consistent) (evolved : Evolves database next)
    (sameRows : next.queue.rows = database.queue.rows)
    (member : row ∈ database.waitingRows checkpointNs) :
    next.executionQueueRecord hashInput checkpointNs row.jobId =
      database.executionQueueRecord hashInput checkpointNs row.jobId := by
  obtain ⟨present, kept⟩ := List.mem_filter.mp member
  simp only [Bool.and_eq_true, decide_eq_true_eq, Bool.not_eq_true'] at kept
  have before : database.queueRow checkpointNs row.jobId = some row := by
    rw [← kept.1]
    exact queueRow_of_mem present
  have after : next.queueRow checkpointNs row.jobId = some row := by
    rw [queueRow, sameRows]
    exact before
  obtain ⟨execution, found⟩ := consistent.executed row present
  obtain ⟨later, laterFound, same⟩ := evolved.executions _ _ found
  have outcome : later.outcome = execution.outcome := by
    rw [consistent.waiting row present kept.2 execution found]
    exact nextConsistent.waiting row (by rw [sameRows]; exact present) kept.2 later laterFound
  unfold executionQueueRecord
  rw [before, after]
  dsimp only
  rw [found, laterFound]
  exact checkedRecord_congr same outcome row row.jobId

theorem snapshot_evolves (consistent : database.Consistent) (nextConsistent : next.Consistent)
    (evolved : Evolves database next) (sameRevision : next.revision = database.revision) :
    next.executionQueueSnapshot hashInput checkpointNs =
      database.executionQueueSnapshot hashInput checkpointNs := by
  have sameRows := evolved.counted sameRevision
  have ordered : next.orderedRows checkpointNs = database.orderedRows checkpointNs := by
    rw [orderedRows, orderedRows, waitingRows, waitingRows, sameRows]
  have records : (database.orderedRows checkpointNs).mapM (fun row =>
      next.executionQueueRecord hashInput checkpointNs row.jobId) =
        (database.orderedRows checkpointNs).mapM fun row =>
          database.executionQueueRecord hashInput checkpointNs row.jobId := by
    refine mapM_congr fun row member => ?_
    exact executionQueueRecord_evolves consistent nextConsistent evolved sameRows
      (List.mem_mergeSort.mp member)
  rw [executionQueueSnapshot, executionQueueSnapshot, ordered, sameRevision, records]

theorem snapshot_revision {snapshot : ExecutionQueueSnapshot}
    (taken : database.executionQueueSnapshot hashInput checkpointNs = .ok snapshot) :
    snapshot.revision = database.revision := by
  obtain ⟨records, -, built⟩ := bind_ok taken
  cases built
  rfl

theorem claim_ok {claimOwner : String} {previousGeneration : Nat}
    {claimed : ExecutionQueueRecord}
    (taken : database.claimExecutionQueue hashInput checkpointNs jobId claimOwner
      previousGeneration nowText = .ok (claimed, next)) :
    ∃ row ∈ next.queue.rows, row.key = (checkpointNs, jobId) ∧
      claimed.claimGeneration = row.claimGeneration := by
  unfold claimExecutionQueue at taken
  split at taken
  · cases taken
  obtain ⟨record, -, checks⟩ := bind_ok taken
  obtain ⟨_, -, statement⟩ := bind_ok checks
  obtain ⟨after, -, reading⟩ := bind_ok statement
  obtain ⟨reread, readAfter, built⟩ := bind_ok reading
  cases built
  obtain ⟨row, found, -, generation⟩ := executionQueueRecord_ok readAfter
  exact ⟨row, fetch_mem found, fetch_key found, generation⟩

theorem start_refused {claimOwner : String} {claimGeneration : Nat}
    (member : row ∈ database.queue.rows) (key : row.key = (checkpointNs, jobId))
    (older : claimGeneration < row.claimGeneration) :
    ∃ error, database.startExecutionQueue checkpointNs jobId claimOwner claimGeneration nowText =
      .error error := by
  have none : (database.queue.rows.filter fun other => other.key = (checkpointNs, jobId) &&
      other.phase.isActive && other.claimOwner = some claimOwner &&
        other.claimGeneration = claimGeneration).length = 0 := by
    rw [List.length_eq_zero_iff, List.filter_eq_nil_iff]
    intro other otherMember matched
    simp only [Bool.and_eq_true, decide_eq_true_eq] at matched
    have same := eq_of_key otherMember member (matched.1.1.1.trans key.symm)
    rw [same] at matched
    omega
  unfold startExecutionQueue updateOne
  rw [if_pos (by rw [none]; decide)]
  exact ⟨_, rfl⟩

theorem beforeDispatch_refused {record : ExecutionQueueRecord}
    (member : row ∈ database.queue.rows)
    (key : row.key = ("", record.cursor.admission.jobId))
    (older : record.claimGeneration < row.claimGeneration) :
    ∃ error, database.executionQueueBeforeDispatch hashInput record = .error error := by
  cases read : database.executionQueueRecord hashInput "" record.cursor.admission.jobId with
  | error error =>
    refine ⟨error, ?_⟩
    rw [executionQueueBeforeDispatch, read]
    rfl
  | ok current =>
    obtain ⟨found, foundRow, -, generation⟩ := executionQueueRecord_ok read
    have foundKey : found.key = ("", record.cursor.admission.jobId) := fetch_key foundRow
    have same := eq_of_key (fetch_mem foundRow) member (foundKey.trans key.symm)
    have different : current.claimGeneration ≠ record.claimGeneration := by
      rw [generation, same]
      omega
    rw [executionQueueBeforeDispatch, read]
    exact ⟨_, if_pos (.inr different)⟩

/-- The queue of a thread is first in, first out, fenced and versioned. -/
theorem executionQueue_fenced (hashInput : ExecutionQueueInput → String)
    (commands : List QueueCommand) :
    let database := fresh.run hashInput commands
    -- the jobs before an active one are over and stay so
    (∀ row ∈ database.queue.rows, row.phase.isActive = true → ∀ later,
      ∀ other ∈ (database.run hashInput later).queue.rows,
        other.checkpointNs = row.checkpointNs →
          other.admissionCommitId < row.admissionCommitId → other.phase = .terminal) ∧
    (∀ first ∈ database.queue.rows, ∀ second ∈ database.queue.rows,
      first.checkpointNs = second.checkpointNs → first.phase.isActive = true →
        second.phase.isActive = true → first = second) ∧
    -- generations
    (∀ row ∈ database.queue.rows, ∀ later, ∃ after ∈ (database.run hashInput later).queue.rows,
      after.key = row.key ∧ row.claimGeneration ≤ after.claimGeneration) ∧
    (∀ checkpointNs jobId claimOwner previousGeneration nowText claimed next,
      database.claimExecutionQueue hashInput checkpointNs jobId claimOwner previousGeneration
          nowText = .ok (claimed, next) →
        ∀ later older, older < claimed.claimGeneration →
          (∀ owner now, ∃ error, (next.run hashInput later).startExecutionQueue checkpointNs jobId
            owner older now = .error error) ∧
          ∀ record : ExecutionQueueRecord, checkpointNs = "" →
            record.cursor.admission.jobId = jobId → record.claimGeneration = older →
              ∃ error, (next.run hashInput later).executionQueueBeforeDispatch hashInput record =
                .error error) ∧
    -- terminal rows
    (∀ row ∈ database.queue.rows, row.phase = .terminal → ∀ later,
      row ∈ (database.run hashInput later).queue.rows) ∧
    -- the revision and the snapshots
    (∀ later, (database.run hashInput later).queue.rows ≠ database.queue.rows →
      database.revision < (database.run hashInput later).revision) ∧
    (∀ checkpointNs snapshot,
      database.executionQueueSnapshot hashInput checkpointNs = .ok snapshot →
        ∀ later jobId policy nowText next,
          (database.run hashInput later).updateExecutionQueuePolicy checkpointNs jobId policy
              snapshot.revision nowText = .ok next →
            (database.run hashInput later).executionQueueSnapshot hashInput checkpointNs =
              .ok snapshot) := by
  intro database
  have consistent : database.Consistent := run_consistent fresh_consistent commands
  refine ⟨?_, ?_, ?_, ?_, ?_, ?_, ?_⟩
  · intro row member active later other otherMember sameNs smaller
    have head := (consistent.active row member active).evolves consistent
      (run_evolves hashInput later) member
      (RowSucceeds.refl row)
    simpa [QueueRow.isTerminal] using head other otherMember sameNs smaller
  · intro first firstMember second secondMember sameNs firstActive secondActive
    exact List.inj_on_of_nodup_map database.queue.constraints.singleActive
      (List.mem_filter.mpr ⟨firstMember, firstActive⟩)
      (List.mem_filter.mpr ⟨secondMember, secondActive⟩) sameNs
  · intro row member later
    obtain ⟨after, afterMember, succeeds⟩ :=
      (run_evolves hashInput later).rows row member
    exact ⟨after, afterMember, succeeds.key, succeeds.claimGeneration⟩
  · intro checkpointNs jobId claimOwner previousGeneration nowText claimed next taken later older
      outdated
    obtain ⟨row, member, key, generation⟩ := claim_ok taken
    obtain ⟨after, afterMember, succeeds⟩ :=
      (run_evolves hashInput later).rows row member
    have newer := succeeds.claimGeneration
    have afterKey := succeeds.key.trans key
    constructor
    · intro owner now
      exact start_refused afterMember afterKey (by omega)
    · rintro record rfl sameJob sameGeneration
      rw [← sameJob] at afterKey
      exact beforeDispatch_refused afterMember afterKey (by omega)
  · intro row member terminal later
    obtain ⟨after, afterMember, succeeds⟩ :=
      (run_evolves hashInput later).rows row member
    rw [← succeeds.final (by simp [QueueRow.isTerminal, terminal])]
    exact afterMember
  · intro later changed
    have evolved : Evolves database (database.run hashInput later) := run_evolves hashInput later
    have grows := evolved.revision
    have counted := evolved.counted
    by_contra notLess
    exact changed (counted (by omega))
  · intro checkpointNs snapshot taken later jobId policy nowText next updated
    have evolved : Evolves database (database.run hashInput later) := run_evolves hashInput later
    have sameRevision := (policy_step updated).2.trans (snapshot_revision taken)
    rw [snapshot_evolves consistent (run_consistent consistent later) evolved sameRevision]
    exact taken

theorem queue_agrees_with_executions (hashInput : ExecutionQueueInput → String)
    (commands : List QueueCommand) : (fresh.run hashInput commands).Consistent :=
  run_consistent fresh_consistent commands

end RolloutDatabase

end GraphAgent.Rollout
