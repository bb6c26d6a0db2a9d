import GraphAgent.DurablePrograms
import GraphAgent.Sha256
import GraphAgent.FileTiling

/-!
# Item commits of a rollout

`transaction.py`, `guards.py` and `_insert_canonical_item`: the bodies of the
canonical items of a thread are lines of one JSONL file, and SQLite rows say
which bytes of it are committed.  `V2ItemCommitCoordinator.append` writes the
lines first and the rows of the same commit after them.
-/

namespace GraphAgent.Rollout

structure CanonicalItemRecord where
  itemSequence : Nat
  itemId : String
  contentHash : String
  /-- The other fields of `to_dict`. -/
  content : Json

abbrev ItemIdentity := String × String × Nat

def CanonicalItemRecord.identity (item : CanonicalItemRecord) : ItemIdentity :=
  (item.itemId, item.contentHash, item.itemSequence)

inductive CommitError where
  | itemSchema (reason : String)
  | value (reason : String)
  | runtime (reason : String)
  | type (reason : String)
  | integrity (constraint : String)
  /-- A write or a statement failed. -/
  | interrupted
  deriving DecidableEq

/-- The schema of the items, and how their bodies are written and read. -/
structure ItemCodec where
  /-- `item.validate()` and `_validate_item_storage_projection`. -/
  validate : CanonicalItemRecord → Except CommitError Unit
  /-- `canonical_json_bytes(item.to_dict())`. -/
  encode : CanonicalItemRecord → Except CommitError Bytes
  /-- `json.loads` of a line and `CanonicalItemRecord.from_dict`. -/
  parse : Bytes → Option CanonicalItemRecord

/-- `canonical_json_line`: the record ends with the only line break. -/
def canonicalJsonLine (encoded : Bytes) : Bytes :=
  encoded ++ [10]

def ItemCodec.Faithful (codec : ItemCodec) : Prop :=
  ∀ item encoded, codec.validate item = .ok () → codec.encode item = .ok encoded →
    (codec.parse (canonicalJsonLine encoded)).map CanonicalItemRecord.identity =
      some item.identity

inductive CommitKind where
  | acceptance
  | executionAdmission
  | assemblySealed
  | itemConvergence
  | terminalConvergence
  deriving DecidableEq

def CommitKind.text : CommitKind → String
  | .acceptance => "acceptance"
  | .executionAdmission => "execution_admission"
  | .assemblySealed => "assembly_sealed"
  | .itemConvergence => "item_convergence"
  | .terminalConvergence => "terminal_convergence"

inductive CommitMode where
  | itemBearing
  | metadataOnly
  deriving DecidableEq

inductive ControlOutcome where
  | completed
  | completedEmpty
  | failed
  | interrupted
  | cancelled
  | executionLost
  | unknown
  deriving DecidableEq

def ControlOutcome.text : ControlOutcome → String
  | .completed => "completed"
  | .completedEmpty => "completed_empty"
  | .failed => "failed"
  | .interrupted => "interrupted"
  | .cancelled => "cancelled"
  | .executionLost => "execution_lost"
  | .unknown => "unknown"

structure CommitMetadata where
  keys : List String := []
  text : String := "{}"
  deriving DecidableEq

inductive CommitStatus where
  | prepared
  | committed
  deriving DecidableEq

/-- A row of `storage_commits`. -/
structure StorageCommit where
  commitId : Nat
  transactionId : Option String
  firstMessageSequence : Option Nat
  lastMessageSequence : Option Nat
  startOffset : Nat
  endOffset : Nat
  /-- `jsonl_fsync_at` is set. -/
  fsynced : Bool
  status : CommitStatus
  commitKind : CommitKind
  commitMode : CommitMode
  offsetBefore : Nat
  offsetAfter : Nat
  recordCount : Nat
  subjectId : Option String
  idempotencyKey : String
  outcome : Option ControlOutcome
  metadata : CommitMetadata
  deriving DecidableEq

/-- A row of `item_catalog`. -/
structure ItemRow where
  itemSequence : Nat
  itemId : String
  contentHash : String
  jsonlOffset : Nat
  jsonlLength : Nat
  commitId : Nat
  deriving DecidableEq

def ItemRow.identity (row : ItemRow) : ItemIdentity :=
  (row.itemId, row.contentHash, row.itemSequence)

/-- The tables of the index and the row of `database_meta`, each table in the
order of its primary key. -/
structure Database where
  commits : List StorageCommit := []
  catalog : List ItemRow := []
  /-- The counter of `AUTOINCREMENT`. -/
  commitSequence : Nat := 0
  lastCommitId : Option Nat := none
  committedOffset : Nat := 0
  lastItemSequence : Nat := 0
  deriving DecidableEq

def validateCommitContract (commitKind : CommitKind) (commitMode : CommitMode) (itemCount : Nat)
    (outcome : Option ControlOutcome) : Except CommitError Unit :=
  if commitMode = .itemBearing ∧ itemCount = 0 then
    .error (.itemSchema "item-bearing commit 必须包含 canonical item")
  else if commitMode = .metadataOnly ∧ itemCount ≠ 0 then
    .error (.itemSchema "metadata-only commit 不得包含 canonical item")
  else if commitKind = .acceptance ∧ commitMode ≠ .itemBearing then
    .error (.itemSchema "acceptance commit 必须是 item-bearing")
  else if commitKind = .executionAdmission ∧ (outcome.isSome = true ∨ 1 < itemCount) then
    .error (.itemSchema
      "execution_admission 只允许一个 notice 或零 item seed/reference，不得伪造终态")
  else if commitKind = .assemblySealed ∧ commitMode ≠ .metadataOnly then
    .error (.itemSchema "assembly_sealed commit 必须是 metadata-only")
  else if commitKind = .itemConvergence ∧ commitMode ≠ .itemBearing then
    .error (.itemSchema "item_convergence commit 必须是 item-bearing")
  else if commitKind = .terminalConvergence ∧ outcome = none then
    .error (.itemSchema "terminal_convergence commit 必须包含 outcome")
  else if commitKind = .terminalConvergence ∧ outcome = some .completedEmpty ∧
      commitMode ≠ .metadataOnly then
    .error (.itemSchema "completed_empty terminal convergence 必须是 metadata-only")
  else
    .ok ()

/-- The arguments of `append`. -/
structure AppendRequest where
  items : List CanonicalItemRecord
  commitKind : CommitKind
  commitMode : Option CommitMode := none
  outcome : Option ControlOutcome := none
  metadata : CommitMetadata := {}
  subjectId : Option String := none
  idempotencyKey : Option String := none
  beginTransaction : Bool := true
  transactionId : Option String := none
  timestamp : Option String := none
  firstMessageSequence : Option Nat := none
  lastMessageSequence : Option Nat := none

namespace AppendRequest

def mode (request : AppendRequest) : CommitMode :=
  request.commitMode.getD (if request.items.isEmpty then .metadataOnly else .itemBearing)

/-- The key, by default `default_idempotency_key`. -/
def key (request : AppendRequest) : String :=
  request.idempotencyKey.getD (request.commitKind.text ++ ":" ++ request.subjectId.getD "" ++ ":" ++
    (request.outcome.map ControlOutcome.text).getD "" ++ ":" ++ "sha256:jcs:v1:" ++
    String.ofList (Sha256.hexdigest request.metadata.text.toUTF8.data.toList))

def checkSequences (request : AppendRequest) : Except CommitError Unit :=
  match request.firstMessageSequence, request.lastMessageSequence with
  | some first, some last =>
    if last < first then .error (.value "storage commit message sequence 范围非法") else .ok ()
  | some _, none => .error (.runtime "storage_commits.last_message_sequence 必须是非负整数")
  | none, some _ => .error (.value "storage commit 缺少 first_message_sequence")
  | none, none => .ok ()

def check (request : AppendRequest) : Except CommitError Unit := do
  validateCommitContract request.commitKind request.mode request.items.length request.outcome
  request.checkSequences
  if request.transactionId = some "" then
    .error (.runtime "storage_commits.transaction_id 必须是非空字符串")
  else if request.timestamp = some "" then
    .error (.runtime "storage_commits.created_at 必须是非空字符串")
  else if request.subjectId = some "" then
    .error (.type "storage commit subject_id 必须是非空字符串或 null")
  else if request.idempotencyKey = some "" then
    .error (.type "storage commit idempotency_key 必须是非空字符串或 null")
  else
    .ok ()

def names (request : AppendRequest) (commit : StorageCommit) : Bool :=
  commit.commitKind = request.commitKind && commit.subjectId = request.subjectId &&
    commit.idempotencyKey = request.key

end AppendRequest

def decodeCommittedStorageCommit (commit : StorageCommit) : Except CommitError Unit :=
  if commit.status ≠ .committed then
    .error (.runtime "storage commit 尚未 committed，禁止把 prepared 状态当作成功")
  else if commit.startOffset ≠ commit.offsetBefore ∨ commit.endOffset ≠ commit.offsetAfter ∨
      commit.offsetAfter < commit.offsetBefore then
    .error (.runtime "storage commit offset 字段不一致")
  else if commit.recordCount = 0 ∧ commit.offsetAfter ≠ commit.offsetBefore then
    .error (.runtime "metadata-only storage commit 不得推进 JSONL offset")
  else
    validateCommitContract commit.commitKind commit.commitMode commit.recordCount commit.outcome

def loadCommittedIdempotencyCommit (view : Database) (request : AppendRequest) :
    Except CommitError (Option StorageCommit) :=
  match view.commits.find? request.names with
  | none => .ok none
  | some commit => do
      decodeCommittedStorageCommit commit
      if commit.commitMode ≠ request.mode ∨ commit.outcome ≠ request.outcome ∨
          commit.metadata.text ≠ request.metadata.text then
        .error (.value "storage commit 幂等键冲突：mode/outcome/metadata 不一致")
      else if commit.recordCount ≠ request.items.length then
        .error (.value "storage commit 幂等键冲突：item 数量不一致")
      else
        .ok (some commit)

def readCommittedItemIdentities (view : Database) (commitId : Nat) : List ItemIdentity :=
  (view.catalog.filter fun row => row.commitId = commitId).map ItemRow.identity

structure PreparedItem where
  item : CanonicalItemRecord
  raw : Bytes
  offset : Nat

def prepareItems (codec : ItemCodec) (view : Database) (sequence offset : Nat) :
    List CanonicalItemRecord → Except CommitError (List PreparedItem)
  | [] => .ok []
  | item :: items => do
      codec.validate item
      if item.itemSequence ≠ sequence then
        .error (.value "item_sequence 必须从 last_item_sequence 连续递增")
      else
        match view.catalog.find? fun row => row.itemId = item.itemId with
        | some row =>
          if row.contentHash ≠ item.contentHash then
            .error (.itemSchema ("canonical item_id 内容不可变: " ++ item.itemId))
          else
            .error (.value ("canonical item_id 已存在: " ++ item.itemId))
        | none => do
            let encoded ← codec.encode item
            let raw := canonicalJsonLine encoded
            let rest ← prepareItems codec view (sequence + 1) (offset + raw.length) items
            .ok (⟨item, raw, offset⟩ :: rest)

def lines (prepared : List PreparedItem) : Bytes :=
  prepared.flatMap PreparedItem.raw

/-- What `append` found out before it opens its transaction. -/
inductive AppendPlan where
  | replay (commit : StorageCommit)
  | write (prepared : List PreparedItem)

/-- `append` up to the `try`. -/
def planAppend (codec : ItemCodec) (file : Bytes) (view : Database) (request : AppendRequest) :
    Except CommitError AppendPlan := do
  request.check
  match ← loadCommittedIdempotencyCommit view request with
  | some commit =>
    if readCommittedItemIdentities view commit.commitId ≠
        request.items.map CanonicalItemRecord.identity then
      .error (.value "storage commit 幂等键冲突：item identity/content/sequence 不一致")
    else
      .ok (.replay commit)
  | none =>
    if view.committedOffset ≠ file.length then
      .error (.runtime "rollout JSONL 与 database_meta committed offset 不一致")
    else
      (prepareItems codec view (view.lastItemSequence + 1) view.committedOffset
        request.items).map .write

def AppendRequest.row (request : AppendRequest) (commitId before count after : Nat) :
    StorageCommit where
  commitId
  transactionId := request.transactionId
  firstMessageSequence := request.firstMessageSequence
  lastMessageSequence := request.lastMessageSequence
  startOffset := before
  endOffset := after
  fsynced := count ≠ 0
  status := .prepared
  commitKind := request.commitKind
  commitMode := request.mode
  offsetBefore := before
  offsetAfter := after
  recordCount := count
  subjectId := request.subjectId
  idempotencyKey := request.key
  outcome := request.outcome
  metadata := request.metadata

def PreparedItem.row (commitId : Nat) (prepared : PreparedItem) : ItemRow where
  itemSequence := prepared.item.itemSequence
  itemId := prepared.item.itemId
  contentHash := prepared.item.contentHash
  jsonlOffset := prepared.offset
  jsonlLength := prepared.raw.length
  commitId

namespace StorageCommit

def committed (commit : StorageCommit) : StorageCommit :=
  { commit with status := .committed }

end StorageCommit

namespace Database

/-- `INSERT INTO storage_commits`. -/
def insertStorageCommit (request : AppendRequest) (before count after : Nat) (view : Database) :
    Except CommitError Database :=
  if request.transactionId.isSome &&
      view.commits.any (fun commit => commit.transactionId = request.transactionId) then
    .error (.integrity "storage_commits.transaction_id")
  else
    .ok { view with
      commitSequence := view.commitSequence + 1
      commits := view.commits ++ [request.row (view.commitSequence + 1) before count after] }

/-- `INSERT INTO item_catalog` of `_insert_canonical_item`. -/
def insertCanonicalItem (commitId : Nat) (prepared : PreparedItem) (view : Database) :
    Except CommitError Database :=
  if view.catalog.any fun row => row.itemSequence = prepared.item.itemSequence then
    .error (.integrity "item_catalog.item_sequence")
  else if view.catalog.any fun row => row.itemId = prepared.item.itemId then
    .error (.integrity "item_catalog.item_id")
  else
    .ok { view with catalog := view.catalog ++ [prepared.row commitId] }

/-- `UPDATE storage_commits SET status = 'committed'`. -/
def convergeCommit (commitId : Nat) (view : Database) : Except CommitError Database :=
  if (view.commits.filter fun commit => commit.commitId = commitId).length ≠ 1 then
    .error (.runtime "storage commit 收敛更新行数异常")
  else
    .ok { view with
      commits := view.commits.map fun commit =>
        if commit.commitId = commitId then commit.committed else commit }

/-- `UPDATE database_meta`. -/
def updateMeta (commitId offset lastItemSequence : Nat) (view : Database) :
    Except CommitError Database :=
  .ok { view with lastCommitId := some commitId, committedOffset := offset, lastItemSequence }

end Database

inductive AppendPoint where
  | begin
  /-- The write or the `fsync`, after so many bytes. -/
  | write (written : Nat)
  | insertCommit
  | insertItem (position : Nat)
  | projectItem (position : Nat)
  | converge
  | updateMeta
  deriving DecidableEq

/-- What an append changes before it returns. -/
structure Staged where
  file : Bytes
  view : Database
  deriving DecidableEq

/-- `stream.write` of the lines and `fsync`. -/
def writeJsonl (fault : Option AppendPoint) (prepared : List PreparedItem) :
    Durable CommitError Staged Unit := fun staged =>
  if prepared.isEmpty then
    (.ok (), staged)
  else
    match fault with
    | some (.write written) =>
      (.error .interrupted, { staged with file := staged.file ++ (lines prepared).take written })
    | _ => (.ok (), { staged with file := staged.file ++ lines prepared })

def execute (fault : Option AppendPoint) (point : AppendPoint)
    (statement : Database → Except CommitError Database) : Durable CommitError Staged Unit :=
  fun staged =>
    if fault = some point then
      (.error .interrupted, staged)
    else
      match statement staged.view with
      | .ok view => (.ok (), { staged with view })
      | .error error => (.error error, staged)

def writeCanonicalItems (fault : Option AppendPoint) (commitId : Nat) (position : Nat) :
    List PreparedItem → Durable CommitError Staged Unit
  | [] => pure ()
  | prepared :: rest => do
      execute fault (.insertItem position) (Database.insertCanonicalItem commitId prepared)
      execute fault (.projectItem position) .ok
      writeCanonicalItems fault commitId (position + 1) rest

def lastRowId : Durable CommitError Staged Nat :=
  Durable.read fun staged => staged.view.commitSequence

/-- `append` inside the `try`, after the transaction is open. -/
def writeCommit (fault : Option AppendPoint) (request : AppendRequest) (known : Database)
    (prepared : List PreparedItem) : Durable CommitError Staged (Nat × Nat) := do
  let offset := known.committedOffset + (lines prepared).length
  writeJsonl fault prepared
  execute fault .insertCommit
    (Database.insertStorageCommit request known.committedOffset prepared.length offset)
  let commitId ← lastRowId
  writeCanonicalItems fault commitId 0 prepared
  execute fault .converge (Database.convergeCommit commitId)
  execute fault .updateMeta
    (Database.updateMeta commitId offset (known.lastItemSequence + prepared.length))
  return (commitId, offset)

end GraphAgent.Rollout
