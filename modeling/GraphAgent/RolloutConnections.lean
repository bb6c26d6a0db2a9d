import GraphAgent.RolloutCommits

/-!
# Connections of a rollout

`guards.py`, `_RolloutSQLiteConnection.__exit__`, `_commit_connection` and the
end of `initialize`: who cuts off the lines of a commit whose transaction did not
make it.  The outcome of a lent transaction is known only after `append` has
returned, so the length to go back to is kept beside the connection.
-/

namespace GraphAgent.Rollout

/-- The entry of `_GUARDS` for a connection. -/
structure JsonlTransactionGuard where
  originalSize : Nat
  commitAttempted : Bool := false

def registerJsonlGuard (guard : Option JsonlTransactionGuard) (originalSize : Nat) :
    JsonlTransactionGuard :=
  match guard with
  | none => { originalSize }
  | some existing => { existing with originalSize := min existing.originalSize originalSize }

def markJsonlCommitAttempted (guard : Option JsonlTransactionGuard) :
    Option JsonlTransactionGuard :=
  guard.map fun guard => { guard with commitAttempted := true }

def truncateUncommittedTail (guard : JsonlTransactionGuard) (file : Bytes) : Bytes :=
  if file.length ≤ guard.originalSize then file else file.take guard.originalSize

/-- An open connection.  `remains` says that the open transaction holds what an
append left that failed halfway. -/
structure Connection where
  transaction : Option Database := none
  guard : Option JsonlTransactionGuard := none
  remains : Bool := false

/-- The files of a thread and the connection that its write lock admits.
`unsettled` says that a commit failed or the process died since `initialize`. -/
structure ThreadRollout where
  file : Bytes := []
  database : Database := {}
  connection : Option Connection := none
  unsettled : Bool := false

def Connection.view (connection : Connection) (database : Database) : Database :=
  connection.transaction.getD database

/-- How the cleanup in `append` goes. -/
inductive Cleanup where
  | done
  | rollbackRaised
  | truncateRaised

structure AppendEvents where
  fault : Option AppendPoint := none
  /-- The process dies where the append would raise. -/
  crashed : Bool := false
  /-- SQLite has rolled the transaction back by itself. -/
  lost : Bool := false
  cleanup : Cleanup := .done

/-- `BEGIN IMMEDIATE`, or the check that the caller has begun. -/
def openTransaction (request : AppendRequest) (events : AppendEvents) (database : Database)
    (connection : Connection) : Except CommitError Database :=
  match request.beginTransaction, connection.transaction with
  | true, some _ => .error (.integrity "cannot start a transaction within a transaction")
  | true, none => if events.fault = some .begin then .error .interrupted else .ok database
  | false, none =>
    .error (.runtime "begin_transaction=False 要求调用方已开启同一 SQLite 事务")
  | false, some view => .ok view

/-- The `except` of `append`: a transaction it opened is rolled back and its
lines are cut off, a lent one is left to its caller. -/
def abandonAppend (request : AppendRequest) (events : AppendEvents) (connection : Connection)
    (opened staged : Staged) (guard : JsonlTransactionGuard) (rollout : ThreadRollout) :
    ThreadRollout :=
  let kept : Connection :=
    if events.lost then
      { guard := some guard }
    else
      { transaction := some staged.view
        guard := some guard
        remains := connection.remains || decide (staged ≠ opened) }
  if events.crashed then
    { rollout with file := staged.file, connection := none, unsettled := true }
  else if request.beginTransaction then
    match events.cleanup with
    | .rollbackRaised => { rollout with file := staged.file, connection := some kept }
    | .truncateRaised =>
      { rollout with file := staged.file, connection := some { guard := some guard } }
    | .done =>
      { rollout with
        file := staged.file.take opened.file.length
        connection := some { guard := some guard } }
  else
    { rollout with file := staged.file, connection := some kept }

/-- `V2ItemCommitCoordinator.append` on an open connection. -/
def appendOn (codec : ItemCodec) (request : AppendRequest) (events : AppendEvents)
    (rollout : ThreadRollout) (connection : Connection) :
    Except CommitError (Nat × Nat) × ThreadRollout :=
  let known := connection.view rollout.database
  match planAppend codec rollout.file known request with
  | .error error => (.error error, rollout)
  | .ok (.replay commit) => (.ok (commit.commitId, commit.offsetAfter), rollout)
  | .ok (.write prepared) =>
    match openTransaction request events rollout.database connection with
    | .error error => (.error error, rollout)
    | .ok view =>
      let guard := registerJsonlGuard connection.guard rollout.file.length
      match writeCommit events.fault request known prepared ⟨rollout.file, view⟩ with
      | (.ok result, staged) =>
        (.ok result, { rollout with
          file := staged.file
          connection := some { connection with
            transaction := some staged.view
            guard := some guard } })
      | (.error error, staged) =>
        (.error error,
          abandonAppend request events connection ⟨rollout.file, view⟩ staged guard rollout)

def append (codec : ItemCodec) (request : AppendRequest) (events : AppendEvents)
    (rollout : ThreadRollout) : Except CommitError (Nat × Nat) × ThreadRollout :=
  match rollout.connection with
  | none => (.error (.runtime "Cannot operate on a closed database."), rollout)
  | some connection => appendOn codec request events rollout connection

inductive CommitOutcome where
  | done
  | refused
  | rolledBack
  | raisedAfter

def CommitOutcome.durable : CommitOutcome → Bool
  | .done | .raisedAfter => true
  | .refused | .rolledBack => false

def commit (outcome : CommitOutcome) (rollout : ThreadRollout) (connection : Connection) :
    ThreadRollout :=
  match outcome with
  | .done | .raisedAfter =>
    { rollout with
      database := connection.view rollout.database
      connection := some { guard := connection.guard } }
  | .refused => rollout
  | .rolledBack =>
    { rollout with connection := some { guard := connection.guard }, unsettled := true }

def commitConnection (outcome : CommitOutcome) (rollout : ThreadRollout)
    (connection : Connection) : ThreadRollout :=
  match outcome with
  | .done =>
    { rollout with
      database := connection.view rollout.database
      connection := some { guard := markJsonlCommitAttempted connection.guard } }
  | outcome => commit outcome rollout connection

/-- `connection.rollback()` by the caller. -/
def rollback (rollout : ThreadRollout) (connection : Connection) : ThreadRollout :=
  { rollout with connection := some { guard := connection.guard } }

/-- How the `with` block is left: it returns, and `__exit__` commits, or it
raises, and `__exit__` rolls back and may fail to truncate. -/
inductive BlockEnd where
  | returned (outcome : CommitOutcome)
  | raised (truncates : Bool)

/-- `_RolloutSQLiteConnection.__exit__`. -/
def exitBlock (ending : BlockEnd) (rollout : ThreadRollout) (connection : Connection) :
    ThreadRollout :=
  match ending with
  | .returned outcome =>
    if outcome.durable then
      { rollout with database := connection.view rollout.database, connection := none }
    else
      { rollout with connection := none, unsettled := true }
  | .raised truncates =>
    { rollout with
      connection := none
      file :=
        match connection.guard with
        | some guard =>
          if truncates && !guard.commitAttempted && connection.transaction.isSome then
            truncateUncommittedTail guard rollout.file
          else
            rollout.file
        | none => rollout.file }

/-- The loop of `_validate_v2_commit_offsets` over the commits, with the end of
the last one and its identity. -/
def validateCommits (database : Database) (previous : Nat) (last : Option Nat) :
    List StorageCommit → Except CommitError (Nat × Option Nat)
  | [] => .ok (previous, last)
  | commit :: commits =>
    if commit.status ≠ .committed then
      .error (.runtime "v2 storage commit 未收敛")
    else do
      validateCommitContract commit.commitKind commit.commitMode commit.recordCount
        commit.outcome
      if commit.metadata.keys.any fun key =>
          key = "physical_record_count" || key = "compacted" then
        .error (.runtime "immutable JSONL 不允许已提交记录被物理压缩或重写")
      else if commit.startOffset ≠ commit.offsetBefore ∨
          commit.endOffset ≠ commit.offsetAfter then
        .error (.runtime "v2 storage commit JSONL offset 链断裂（offset 字段不一致）")
      else if commit.offsetBefore ≠ previous ∨ commit.offsetAfter < commit.offsetBefore then
        .error (.runtime "v2 storage commit JSONL offset 链断裂")
      else if commit.commitMode = .itemBearing ∧ commit.fsynced = false then
        .error (.runtime "item-bearing commit 缺少 JSONL fsync barrier")
      else if commit.commitMode = .metadataOnly ∧
          (commit.startOffset ≠ commit.endOffset ∨ commit.recordCount ≠ 0) then
        .error (.runtime "metadata-only commit 不得推进 JSONL offset")
      else if commit.commitMode = .itemBearing ∧ commit.recordCount = 0 then
        .error (.runtime "item-bearing commit 必须包含 item")
      else if (database.catalog.filter fun row => row.commitId = commit.commitId).length ≠
          commit.recordCount then
        .error (.runtime "storage commit 的 item catalog 数量不一致")
      else
        validateCommits database commit.offsetAfter (some commit.commitId) commits

/-- `validate_catalog_body` on the bytes of a row. -/
def validateCatalogBody (codec : ItemCodec) (file : Bytes) (row : ItemRow) :
    Except CommitError Unit :=
  match codec.parse (FileTiling.slice file row.jsonlOffset row.jsonlLength) with
  | none => .error (.runtime ("v2 item JSONL 无法解码: item_id=" ++ row.itemId))
  | some item =>
    if item.identity ≠ row.identity then
      .error (.runtime ("v2 item catalog 与 JSONL identity 不一致: item_id=" ++ row.itemId))
    else
      .ok ()

/-- The loop of `_validate_v2_commit_offsets` over the items. -/
def validateItems (codec : ItemCodec) (file : Bytes) (database : Database)
    (sequence offset : Nat) : List ItemRow → Except CommitError Nat
  | [] => .ok offset
  | row :: rows =>
    if row.jsonlLength = 0 then
      .error (.runtime "item_catalog.jsonl_length 必须大于 0")
    else if row.itemSequence ≠ sequence then
      .error (.runtime "v2 item catalog item_sequence 不连续或顺序非法，拒绝使用派生索引")
    else if row.jsonlOffset ≠ offset then
      .error (.runtime "v2 item catalog JSONL locator 不连续或非法")
    else if database.committedOffset < row.jsonlOffset + row.jsonlLength then
      .error (.runtime "v2 item catalog JSONL locator 越界")
    else do
      validateCatalogBody codec file row
      match database.commits.find? fun commit => commit.commitId = row.commitId with
      | none => .error (.runtime "v2 item catalog 指向不存在的 storage commit")
      | some commit =>
        if row.jsonlOffset < commit.startOffset ∨
            commit.endOffset < row.jsonlOffset + row.jsonlLength ∨ commit.recordCount = 0 then
          .error (.runtime "storage commit 的 item catalog offset 不在 commit 边界内")
        else
          validateItems codec file database (sequence + 1)
            (row.jsonlOffset + row.jsonlLength) rows

/-- `_validate_v2_commit_offsets`. -/
def validateCommitOffsets (codec : ItemCodec) (file : Bytes) (database : Database) :
    Except CommitError Unit := do
  let (previous, last) ← validateCommits database 0 none database.commits
  if database.lastCommitId ≠ last then
    .error (.runtime "database_meta.last_commit_id 与 storage_commits 不一致")
  else if previous ≠ database.committedOffset ∨ file.length < database.committedOffset then
    .error (.runtime "database_meta.committed_jsonl_offset 与 storage_commits 不一致")
  else do
    let reached ← validateItems codec file database 1 0 database.catalog
    if reached ≠ database.committedOffset then
      .error (.runtime "database_meta.committed_jsonl_offset 与 storage_commits 不一致")
    else
      .ok ()

/-- The end of `initialize`: the offsets are validated before the tail is cut. -/
def checkRollout (codec : ItemCodec) (rollout : ThreadRollout) : Except CommitError Unit :=
  if rollout.file.length < rollout.database.committedOffset then
    .error (.type "rollout.jsonl 小于 SQLite 已提交偏移，无法安全恢复")
  else
    validateCommitOffsets codec rollout.file rollout.database

/-- `initialize`, which may be interrupted before `reconcile_jsonl_tail`. -/
def initializeRollout (codec : ItemCodec) (interrupted : Bool) (rollout : ThreadRollout) :
    Except CommitError Unit × ThreadRollout :=
  match checkRollout codec rollout with
  | .error error => (.error error, rollout)
  | .ok () =>
    if interrupted then
      (.error .interrupted, rollout)
    else
      (.ok (), { rollout with
        file := rollout.file.take rollout.database.committedOffset
        unsettled := false })

/-- What happens on a thread under its write lock. -/
inductive Step where
  | connect
  | begin
  | append (request : AppendRequest) (events : AppendEvents)
  | commitConnection (outcome : CommitOutcome)
  /-- A commit that does not go through `_commit_connection`. -/
  | commit (outcome : CommitOutcome)
  | rollback
  | exit (ending : BlockEnd)
  | crash
  | initializeRollout (interrupted : Bool)

def Step.applyOn (codec : ItemCodec) (rollout : ThreadRollout) (connection : Connection) :
    Step → ThreadRollout
  | .connect | .initializeRollout _ => rollout
  | .begin =>
    match connection.transaction with
    | some _ => rollout
    | none =>
      { rollout with
        connection := some { connection with transaction := some rollout.database } }
  | .append request events => (appendOn codec request events rollout connection).2
  | .commitConnection outcome => Rollout.commitConnection outcome rollout connection
  | .commit outcome => Rollout.commit outcome rollout connection
  | .rollback => Rollout.rollback rollout connection
  | .exit ending => exitBlock ending rollout connection
  | .crash => { rollout with connection := none, unsettled := true }

/-- A step, which does nothing where it cannot happen. -/
def Step.apply (codec : ItemCodec) (rollout : ThreadRollout) (step : Step) : ThreadRollout :=
  match rollout.connection with
  | some connection => step.applyOn codec rollout connection
  | none =>
    match step with
    | .connect => { rollout with connection := some {} }
    | .crash => { rollout with unsettled := true }
    | .initializeRollout interrupted => (Rollout.initializeRollout codec interrupted rollout).2
    | _ => rollout

def run (codec : ItemCodec) (rollout : ThreadRollout) (steps : List Step) : ThreadRollout :=
  steps.foldl (Step.apply codec) rollout

end GraphAgent.Rollout
