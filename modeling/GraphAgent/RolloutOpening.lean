import GraphAgent.Dictionaries
import GraphAgent.RolloutConnections

/-!
# Opening a rollout

`RolloutMaintenanceOwner.initialize` over an index and the file of its bodies.  The
schema is inspected first; the rest runs in one connection, whose exit commits when
the block returns and rolls back when it raises.  Recovering a fork commits inside the
block, and the tail of the file is cut inside it too.
-/

namespace GraphAgent.Rollout

namespace Opening

open Durable

inductive DatabaseState where
  | active
  | migrating
  | recoveryRequired
  deriving DecidableEq

/-- The row of `database_meta`, without what `Database` holds of it. -/
structure DatabaseMeta where
  rolloutId : String
  sessionId : String
  threadId : String
  schemaVersion : Nat
  messageFormatVersion : Nat
  rolloutFormatVersion : Nat
  databaseState : DatabaseState
  activeBranchId : Option String
  updatedAt : String
  deriving DecidableEq

structure Branch where
  isActive : Bool
  headViewId : Option String
  updatedAt : String

/-- A row of `schema_migrations`. -/
structure Migration where
  fromVersion : Nat
  toVersion : Nat
  name : String
  checksum : String
  completed : Bool
  completedAt : String

inductive ForkStatus where
  | prepared
  | targetCommitted
  | committed
  deriving DecidableEq

/-- A row of `fork_materializations` of this database. -/
structure ForkMaterialization where
  materializationId : String
  forkId : String
  sourceSessionId : String
  targetSessionId : String
  targetThreadId : String
  checkpointNs : String
  pinned : Bool
  status : ForkStatus
  committedAt : Option String
  /-- `_assert_fork_debug_snapshot_published` finds its snapshot published. -/
  snapshotPublished : Bool

/-- What the checks read of the tables and columns themselves. -/
structure SchemaFacts where
  ownerColumns : Bool
  formatColumn : Bool
  oldMetadataColumns : Bool
  compactionJournal : Bool
  reasoningColumns : Bool
  backgroundResultIndex : Bool

/-- `index.sqlite`. -/
structure Index where
  schema : SchemaFacts
  databaseMeta : Option DatabaseMeta
  database : Database
  branches : Dictionary String Branch
  namespaces : Dictionary String String
  views : List (String × String)
  migrations : List Migration
  forks : List ForkMaterialization

/-- The commits and items with the columns of `database_meta` for them, which a row
that is not there yet starts from nothing. -/
def Index.chain (index : Index) : Database :=
  match index.databaseMeta with
  | some _ => index.database
  | none => { index.database with lastCommitId := none, committedOffset := 0, lastItemSequence := 0 }

/-- The directory of a rollout. -/
structure Storage where
  removedLayout : Bool
  plainFile : Bool
  file : Bytes
  index : Index

/-- The arguments of `initialize`, with the time and the new identifiers it reads. -/
structure Request where
  sessionId : String
  threadId : String
  checkpointNs : String
  rolloutId : String
  branchId : String
  viewId : String
  now : String
  claimActive : String → Bool
  /-- This process is making the fork of the thread and namespace. -/
  forkInProgress : Bool

/-- `RolloutManifest`, as far as the opening decides it. -/
structure Manifest where
  rolloutId : String
  checkpointNs : String
  activeBranchId : String
  rolloutFormatVersion : Nat
  deriving DecidableEq

def rolloutSchemaVersion : Nat := 24
def messageFormatVersion : Nat := 1
def rolloutFormatVersion : Nat := 2

def schemaChecksum (version : Nat) : String :=
  String.ofList (Sha256.hexdigest ("rollout_sqlite_v" ++ toString version).toUTF8.data.toList)

/-- The loop of `validate_schema_journal`. -/
def validateJournalRows (completedVersion : Nat) :
    List Migration → Except CommitError Nat
  | [] => .ok completedVersion
  | row :: rest =>
    if row.completedAt = "" then
      .error (.runtime "rollout 存在未完成的 SQLite schema migration")
    else if row.fromVersion ≠ completedVersion ∨ row.toVersion ≤ row.fromVersion ∨
        (row.fromVersion ≠ 0 ∧ row.toVersion ≠ row.fromVersion + 1) then
      .error (.runtime "schema-upgrade-journal-conflict: migration 版本链断裂")
    else if row.completed then validateJournalRows row.toVersion rest
    else if rest.any fun later =>
        later.fromVersion = row.fromVersion && later.toVersion = row.toVersion &&
          later.name = row.name && later.checksum = row.checksum && later.completed &&
          later.completedAt ≠ "" then
      validateJournalRows completedVersion rest
    else .error (.runtime "schema-incompatible: rollout 存在未完成的 SQLite schema migration")

def validateSchemaJournal (migrations : List Migration) (schemaVersion : Nat) :
    Except CommitError Unit :=
  match migrations with
  | [] => .error (.runtime "rollout schema_migrations 缺失")
  | first :: rest =>
    if first.fromVersion ≠ 0 ∨ first.completed = false ∨
        first.checksum ≠ schemaChecksum first.toVersion then
      .error (.runtime "rollout bootstrap schema migration checksum 不匹配")
    else do
      let completedVersion ← validateJournalRows 0 (first :: rest)
      if completedVersion ≠ schemaVersion then
        .error (.runtime "rollout schema_version 与 schema_migrations 不一致")
      else .ok ()

def validateSchemaState (index : Index) : Except CommitError Unit :=
  if index.schema.oldMetadataColumns then
    .error (.runtime "schema-incompatible: 检测到旧实验 v2 metadata 字段形态")
  else if index.schema.ownerColumns = false then
    .error (.runtime "schema-incompatible: rollout SQLite 缺少真实 Thread owner")
  else if index.schema.compactionJournal then
    .error (.runtime "recovery-required: 检测到已移除的物理 compaction journal")
  else
    match index.databaseMeta with
    | none => .error (.runtime "rollout database_meta 缺失")
    | some row =>
      if row.schemaVersion ≠ rolloutSchemaVersion then
        .error (.runtime "schema-incompatible: rollout SQLite schema 版本")
      else if row.messageFormatVersion ≠ messageFormatVersion then
        .error (.runtime "rollout JSONL message format 版本不受支持")
      else if index.schema.backgroundResultIndex = false then
        .error (.runtime "schema-incompatible: rollout 缺少必需的 canonical ToolResult identity 索引")
      else validateSchemaJournal index.migrations row.schemaVersion

def requireV2Runtime (formatVersion : Nat) : Except CommitError Unit :=
  if formatVersion ≠ rolloutFormatVersion then
    .error (.value "unsupported_rollout_format_version")
  else .ok ()

/-- Tables that must be empty where there is no row of `database_meta`. -/
def Index.hasBusinessRows (index : Index) : Bool :=
  !index.database.commits.isEmpty || !index.database.catalog.isEmpty || !index.views.isEmpty

/-- What `initialize` reads of an existing index: whether the schema is to be made. -/
def inspect (index : Index) : Except CommitError Bool := do
  match index.databaseMeta with
  | none => .ok ()
  | some _ => validateSchemaState index
  if index.schema.ownerColumns = false then
    .error (.runtime "schema-incompatible: 检测到旧的 Session 级 rollout SQLite")
  else if index.schema.formatColumn = false then
    .error (.value "unsupported_legacy_rollout: 缺少 v2 format dispatch")
  else
    match index.databaseMeta with
    | none =>
      if index.hasBusinessRows then
        .error (.runtime "v2 rollout database_meta 缺失但已有业务数据，拒绝猜测半成品恢复")
      else .ok true
    | some row => do
        requireV2Runtime row.rolloutFormatVersion
        return false

/-- `initialize_rollout_schema`: what is missing of the tables is made. -/
def initializeSchema (index : Index) : Index :=
  { index with
    schema := { index.schema with reasoningColumns := true, backgroundResultIndex := true } }

/-- `_validate_reasoning_projection_schema` and `_reject_unpublished_migration`. -/
def checkPublished (index : Index) : Except CommitError Unit :=
  if index.schema.reasoningColumns = false then
    .error (.runtime "rollout SQLite reasoning_blocks schema 不完整")
  else if (index.databaseMeta.any fun row => row.databaseState = .migrating) then
    .error (.runtime "rollout-publication-incomplete: target 尚未原子发布")
  else .ok ()

structure Opened where
  committed : Index
  pending : Index
  file : Bytes

def write (statement : Index → Except CommitError Index) : Durable CommitError Opened Unit :=
  fun opened =>
    match statement opened.pending with
    | .ok next => (.ok (), { opened with pending := next })
    | .error error => (.error error, opened)

/-- `connection.commit()`. -/
def commitPending : Durable CommitError Opened Unit := fun opened =>
  (.ok (), { opened with committed := opened.pending })

/-- A read of the connection. -/
def query {Value : Type} (view : Index → Except CommitError Value) :
    Durable CommitError Opened Value :=
  check fun opened => view opened.pending

section Body

variable (request : Request)

/-- The first row of `database_meta`, with the root branch and the migration of it. -/
def bootstrapMeta (index : Index) : Except CommitError Index :=
  match index.databaseMeta with
  | some _ => .ok index
  | none =>
    if index.branches.has "branch-001" then
      .error (.integrity "UNIQUE constraint failed: branches.branch_id")
    else
      .ok { index with
        databaseMeta := some
          ⟨request.rolloutId, request.sessionId, request.threadId, rolloutSchemaVersion,
            messageFormatVersion, rolloutFormatVersion, .active, some "branch-001",
            request.now⟩
        database := index.chain
        branches := index.branches.insert "branch-001" ⟨true, none, request.now⟩
        migrations := index.migrations ++
          [⟨0, rolloutSchemaVersion, "rollout_sqlite_v" ++ toString rolloutSchemaVersion,
            schemaChecksum rolloutSchemaVersion, true, request.now⟩] }

def ensureNamespaceState (index : Index) : Except CommitError Index :=
  if index.namespaces.has request.checkpointNs then .ok index
  else if request.checkpointNs = "" then
    match index.databaseMeta.bind DatabaseMeta.activeBranchId with
    | none => .error (.runtime "rollout 默认 checkpoint namespace 缺少 active branch")
    | some branchId =>
      .ok { index with namespaces := index.namespaces.insert request.checkpointNs branchId }
  else if index.branches.has request.branchId then
    .error (.integrity "UNIQUE constraint failed: branches.branch_id")
  else
    .ok { index with
      branches := index.branches.insert request.branchId ⟨true, none, request.now⟩
      namespaces := index.namespaces.insert request.checkpointNs request.branchId }

def checkOwner (index : Index) : Except CommitError Unit :=
  if (index.databaseMeta.map fun row => (row.sessionId, row.threadId)) ≠
      some (request.sessionId, request.threadId) then
    .error (.runtime "thread_owner_rollout_mismatch: database_meta owner 与实际 rollout 路径不一致")
  else .ok ()

def Index.activeBranch (index : Index) : Option (String × Branch) :=
  (index.namespaces.lookup request.checkpointNs).bind fun branchId =>
    ((index.branches.lookup branchId).filter Branch.isActive).map fun branch =>
      (branchId, branch)

def ensureHeadView (index : Index) : Except CommitError Index :=
  match index.activeBranch request with
  | none => .error (.runtime "active branch 缺失，不能创建 rollout context view")
  | some (branchId, branch) =>
    if branch.headViewId.isSome then .ok index
    else
      .ok { index with
        views := index.views ++ [(request.viewId, branchId)]
        branches := index.branches.insert branchId
          { branch with headViewId := some request.viewId, updatedAt := request.now } }

def ForkMaterialization.of (fork : ForkMaterialization) : Bool :=
  fork.targetSessionId = request.sessionId && fork.targetThreadId = request.threadId &&
    fork.checkpointNs = request.checkpointNs

/-- The journals of this thread and namespace that are not finished. -/
def Index.unfinishedForks (index : Index) : List ForkMaterialization :=
  index.forks.filter fun fork => fork.of request && fork.status ≠ .committed

/-- The journal that `_recover_fork_materialization` finishes, if there is one. -/
def recoverableFork (index : Index) : Except CommitError (Option ForkMaterialization) :=
  match if request.forkInProgress then [] else index.unfinishedForks request with
  | [] => .ok none
  | [fork] =>
    if fork.status = .prepared then
      .error (.runtime ("fork_materialization_pending: " ++ fork.materializationId))
    else if fork.snapshotPublished = false then
      .error (.runtime "fork debug snapshot 未发布")
    else if fork.pinned ∧ request.claimActive fork.forkId = false then
      .error (.runtime "pinned fork recovery 必须先激活原 source claim")
    else .ok (some fork)
  | _ => .error (.runtime "当前目标 Thread 存在多条未完成 fork journal")

def finishFork (fork : ForkMaterialization) (index : Index) : Index :=
  { index with
    forks := index.forks.map fun row =>
      if row.materializationId = fork.materializationId ∧ row.of request ∧
          row.status = .targetCommitted then
        { row with status := .committed, committedAt := some request.now }
      else row }

/-- `_recover_fork_materialization`, which commits what the connection has written. -/
def recoverForkMaterialization : Durable CommitError Opened Unit := do
  match ← query (recoverableFork request) with
  | none => return ()
  | some fork => do
      write fun index => .ok (finishFork request fork index)
      commitPending

def markRecoveryRequired (index : Index) : Except CommitError Index :=
  match index.databaseMeta with
  | none => .error (.runtime "rollout recovery_required 状态写入失败")
  | some row =>
    .ok { index with
      databaseMeta := some
        { row with databaseState := .recoveryRequired, updatedAt := request.now } }

def committedOffset (index : Index) : Except CommitError Nat :=
  if index.databaseMeta.isNone then .error (.runtime "rollout database_meta committed offset 缺失")
  else .ok index.database.committedOffset

def reconcileJsonlTail (offset : Nat) : Durable CommitError Opened Unit := fun opened =>
  if opened.file.length < offset then
    (.error (.runtime "rollout.jsonl 小于 SQLite committed offset"), opened)
  else if opened.file.length = offset then (.ok (), opened)
  else (.ok (), { opened with file := opened.file.take offset })

/-- `_manifest_from_connection`. -/
def manifestOf (index : Index) : Except CommitError Manifest :=
  match index.databaseMeta with
  | none => .error (.runtime "rollout database_meta 缺失")
  | some row =>
    if row.databaseState ≠ .active then
      .error (.runtime "rollout SQLite 状态不可读取")
    else if row.activeBranchId.isNone then
      .error (.runtime "database_meta.active_branch_id 缺失")
    else
      match index.namespaces.lookup request.checkpointNs with
      | none => .error (.runtime "rollout checkpoint namespace 状态缺失")
      | some branchId =>
        .ok ⟨row.rolloutId, request.checkpointNs, branchId, row.rolloutFormatVersion⟩

/-- The block of `initialize` from the offset on. -/
def settleTail (codec : ItemCodec) : Durable CommitError Opened Manifest := do
  let offset ← query committedOffset
  let fileSize ← read fun opened => opened.file.length
  if fileSize < offset then do
    write (markRecoveryRequired request)
    raise (.type "rollout.jsonl 小于 SQLite 已提交偏移，无法安全恢复")
  else do
    check fun opened => validateCommitOffsets codec opened.file opened.pending.database
    if offset < fileSize then reconcileJsonlTail offset
    query (manifestOf request)

/-- The block of `initialize`. -/
def openBlock (codec : ItemCodec) : Durable CommitError Opened Manifest := do
  write (bootstrapMeta request)
  write (ensureNamespaceState request)
  query (checkOwner request)
  write (ensureHeadView request)
  query validateSchemaState
  recoverForkMaterialization request
  settleTail request codec

end Body

/-- `_RolloutSQLiteConnection.__exit__`: commit on return, roll back on a raise. -/
def exitConnection {Value : Type} (storage : Storage) :
    Except CommitError Value × Opened → Except CommitError Value × Storage
  | (.ok value, opened) =>
    (.ok value, { storage with index := opened.pending, file := opened.file })
  | (.error error, opened) =>
    (.error error, { storage with index := opened.committed, file := opened.file })

def withConnection {Value : Type} (block : Durable CommitError Opened Value)
    (storage : Storage) : Except CommitError Value × Storage :=
  exitConnection storage (block ⟨storage.index, storage.index, storage.file⟩)

/-- `RolloutMaintenanceOwner.initialize`. -/
def initializeStorage (codec : ItemCodec) (request : Request) (storage : Storage) :
    Except CommitError Manifest × Storage :=
  if storage.removedLayout then
    (.error (.runtime "rollout 使用了已移除的旧布局"), storage)
  else
    match inspect storage.index with
    | .error error => (.error error, storage)
    | .ok needsSchema =>
      if storage.plainFile = false then
        (.error (.runtime "rollout.jsonl 不是安全普通文件"), storage)
      else
        let storage :=
          if needsSchema then { storage with index := initializeSchema storage.index }
          else storage
        match checkPublished storage.index with
        | .error error => (.error error, storage)
        | .ok () => withConnection (openBlock request codec) storage

end Opening

end GraphAgent.Rollout
