import GraphAgent.KeyedRows

/-!
# Control states of context sources

`context_source_control.py`, `source_activation.py` and
`context_source_versions.py`: one row for each source of a session thread holds
its tracking status, the revision that was observed last, the revision that is
visible and the counter for optimistic writes.  Mutations, lifecycle decisions,
seals and rewinds meet in this table.
-/

namespace GraphAgent.ContextSources

open KeyedRows

structure ContextSourceOwnerKey where
  sessionId : String
  threadId : String
  deriving DecidableEq

inductive ContextSourceTrackingStatus where
  | tracked
  | untracked
  deriving DecidableEq

structure ContextSourceControlState where
  owner : ContextSourceOwnerKey
  sourceId : String
  sourceKind : String
  name : String
  bindingRevision : Option String
  trackingStatus : ContextSourceTrackingStatus
  latestVisibleCommittedRevision : Option String
  latestRevision : Option String
  stateRevision : Nat := 0
  updatedAt : Option String := none
  applied : latestVisibleCommittedRevision.isSome = true → latestRevision.isSome = true

/-- The fields that decide whether a write is needed. -/
structure DurableFields where
  owner : ContextSourceOwnerKey
  sourceId : String
  sourceKind : String
  name : String
  bindingRevision : Option String
  trackingStatus : ContextSourceTrackingStatus
  latestVisibleCommittedRevision : Option String
  latestRevision : Option String
  deriving DecidableEq

/-- `str.isspace` of a character. -/
def isSpace (char : Char) : Bool :=
  char.isWhitespace || char.toNat = 0x0b || char.toNat = 0x0c || (0x1c ≤ char.toNat &&
    char.toNat ≤ 0x1f) || [0x85, 0xa0, 0x1680, 0x2028, 0x2029, 0x202f, 0x205f,
    0x3000].contains char.toNat || (0x2000 ≤ char.toNat && char.toNat ≤ 0x200a)

/-- `_normalize_skill_name`: `name.strip()`. -/
def normalizeSkillName (name : String) : String :=
  String.ofList ((((name.toList.dropWhile isSpace).reverse).dropWhile isSpace).reverse)

namespace ContextSourceControlState

def key (state : ContextSourceControlState) : ContextSourceOwnerKey × String :=
  (state.owner, state.sourceId)

def durableFields (state : ContextSourceControlState) : DurableFields :=
  ⟨state.owner, state.sourceId, state.sourceKind, state.name, state.bindingRevision,
    state.trackingStatus, state.latestVisibleCommittedRevision, state.latestRevision⟩

def tracksSkill (state : ContextSourceControlState) : Bool :=
  state.sourceKind = "skill" && state.trackingStatus = .tracked

end ContextSourceControlState

/-- A row of `context_source_control_states`. -/
structure ControlRow where
  state : ContextSourceControlState
  createdAt : String

namespace ControlRow

def key (row : ControlRow) : ContextSourceOwnerKey × String :=
  row.state.key

end ControlRow

inductive ControlError where
  | stateConflict (reason : String)
  | trackingConflict
  | sealConflict (reason : String)
  | checkpointConflict (reason : String)
  | integrity (constraint : String)
  /-- The rest of the transaction of a decision. -/
  | itemRejected
  deriving DecidableEq

def storedState (rows : List ControlRow) (key : ContextSourceOwnerKey × String) :
    Option ContextSourceControlState :=
  (fetch ControlRow.key rows key).map ControlRow.state

def nameTaken (rows : List ControlRow) (state : ContextSourceControlState) : Bool :=
  state.tracksSkill && rows.any fun row =>
    row.state.owner = state.owner && row.state.tracksSkill &&
      row.state.sourceId ≠ state.sourceId &&
      normalizeSkillName row.state.name = normalizeSkillName state.name

/-- `replace(state, state_revision=…, updated_at=…)`. -/
def ContextSourceControlState.written (state : ContextSourceControlState) (revision : Nat)
    (now : String) : ContextSourceControlState :=
  { state with stateRevision := revision, updatedAt := some now }

/-- `_write_context_source_control_transaction`. -/
def writeContextSourceControl (rows : List ControlRow) (state : ContextSourceControlState)
    (stored : Option ContextSourceControlState) (now : String) :
    Except ControlError (ContextSourceControlState × List ControlRow) :=
  if state.latestVisibleCommittedRevision ≠
      stored.bind ContextSourceControlState.latestVisibleCommittedRevision then
    .error (.stateConflict "applied 只能由 assembly seal 推进")
  else if stored.any (fun stored => (state.sourceKind, state.name) ≠
      (stored.sourceKind, stored.name)) then
    .error (.stateConflict "source identity 不得改绑")
  else if nameTaken rows state then
    .error .trackingConflict
  else
    match stored with
    | some stored =>
      if stored.durableFields = state.durableFields then
        .ok (stored, rows)
      else if state.stateRevision ≠ stored.stateRevision then
        .error (.stateConflict s!"控制状态已被其它写入者推进: session_id={
          state.owner.sessionId}, thread_id={state.owner.threadId}, source_id={
          state.sourceId}, expected={state.stateRevision}, stored={stored.stateRevision}")
      else
        let matching (row : ControlRow) : Bool :=
          row.key = state.key && row.state.stateRevision = stored.stateRevision
        let next := state.written (stored.stateRevision + 1) now
        if rows.any matching then
          -- The visible revision is not written; the first check made it the stored one.
          .ok (next, updateWhere matching (fun row => { row with state := next }) rows)
        else
          .error (.stateConflict s!"控制状态更新未命中唯一 owner 行: source_id={state.sourceId}")
    | none =>
      if state.stateRevision ≠ 0 then
        .error (.stateConflict s!"控制状态尚不存在，不能携带既有 state_revision: source_id={
          state.sourceId}, state_revision={state.stateRevision}")
      else if (fetch ControlRow.key rows state.key).isSome then
        .error (.integrity "UNIQUE constraint failed: context_source_control_states")
      else
        let next := state.written 1 now
        .ok (next, rows ++ [⟨next, now⟩])

inductive ContextSourceControlOperation where
  | register
  | observe
  | track
  | untrack
  deriving DecidableEq

structure Rebinds (operation : ContextSourceControlOperation)
    (state old : ContextSourceControlState) : Prop where
  operation : operation = .track
  owner : old.owner = state.owner
  source : old.sourceId ≠ state.sourceId
  oldKind : old.sourceKind = "skill"
  kind : state.sourceKind = "skill"
  name : normalizeSkillName old.name = normalizeSkillName state.name
  untracked : old.trackingStatus = .untracked

structure ContextSourceControlMutation where
  operation : ContextSourceControlOperation
  state : ContextSourceControlState
  replacedState : Option ContextSourceControlState := none
  tracks : operation = .track → state.trackingStatus = .tracked := by decide
  untracks : operation = .untrack → state.trackingStatus = .untracked := by decide
  rebinds : ∀ old, replacedState = some old → Rebinds operation state old := by nofun

structure ContextSourceControlReceipt where
  state : ContextSourceControlState
  replacedState : Option ContextSourceControlState := none

def checkOperation (mutation : ContextSourceControlMutation)
    (stored : ContextSourceControlState) : Except ControlError Unit :=
  let state := mutation.state
  if mutation.operation ≠ .register ∧ mutation.replacedState.isNone ∧
      state.bindingRevision ≠ stored.bindingRevision then
    .error (.stateConflict "只有 register 可以更新来源绑定")
  else if (mutation.operation = .register ∨ mutation.operation = .observe) ∧
      state.trackingStatus ≠ stored.trackingStatus then
    .error (.stateConflict "tracking 变化必须使用 track/untrack")
  else if mutation.operation ≠ .observe ∧ mutation.replacedState.isNone ∧
      state.latestRevision ≠ stored.latestRevision then
    .error (.stateConflict "内容观察必须使用 observe")
  else
    .ok ()

/-- `replace(state, tracking_status="untracked")`. -/
def ContextSourceControlState.frozen (state : ContextSourceControlState) :
    ContextSourceControlState :=
  { state with trackingStatus := .untracked }

/-- Both rows are as a rebind has left them. -/
def alreadyRebound (mutation : ContextSourceControlMutation)
    (replaced : ContextSourceControlState)
    (oldStored stored : ContextSourceControlState) : Bool :=
  oldStored.trackingStatus = .untracked &&
    oldStored.stateRevision = replaced.stateRevision + 1 &&
    oldStored.durableFields = replaced.durableFields &&
    stored.durableFields = mutation.state.durableFields &&
    stored.stateRevision = mutation.state.stateRevision + 1

/-- A rebind freezes the row that it was prepared for. -/
def canFreeze (replaced oldStored : ContextSourceControlState) : Bool :=
  oldStored.trackingStatus = .tracked && oldStored.stateRevision = replaced.stateRevision &&
    oldStored.frozen.durableFields = replaced.durableFields

/-- `apply_context_source_control_mutation`, with the times of its two writes. -/
def applyContextSourceControlMutation (rows : List ControlRow)
    (mutation : ContextSourceControlMutation) (frozenAt now : String) :
    Except ControlError (ContextSourceControlReceipt × List ControlRow) := do
  let stored := storedState rows mutation.state.key
  match mutation.replacedState with
  | none =>
    if let some stored := stored then
      checkOperation mutation stored
    let (result, rows) ← writeContextSourceControl rows mutation.state stored now
    return (⟨result, none⟩, rows)
  | some replaced =>
    match storedState rows replaced.key with
    | none => .error (.stateConflict "rebind 原 tracking 已变化")
    | some oldStored =>
      match stored.filter (alreadyRebound mutation replaced oldStored) with
      | some stored => return (⟨stored, some oldStored⟩, rows)
      | none =>
        if canFreeze replaced oldStored = false then
          .error (.stateConflict "rebind 原 tracking 已变化")
        else if stored.any (fun stored => stored.trackingStatus ≠ .untracked) then
          .error (.stateConflict "rebind 目标已被跟踪")
        else
          let (frozen, rows) ←
            writeContextSourceControl rows oldStored.frozen (some oldStored) frozenAt
          let (result, rows) ← writeContextSourceControl rows mutation.state stored now
          return (⟨result, some frozen⟩, rows)

inductive SourceDecisionKind where
  | base
  | delta
  | rebuild
  | track
  | untrack
  | observePending
  deriving DecidableEq

/-- What `ApplySourceLifecycleDecision` says about a control state. -/
structure SourceLifecycleDecision where
  owner : ContextSourceOwnerKey
  sourceId : String
  sourceKind : String
  name : String
  decisionKind : SourceDecisionKind
  revision : Option String
  trackingStatus : Option ContextSourceTrackingStatus := none

def SourceLifecycleDecision.state (decision : SourceLifecycleDecision)
    (stored : Option ContextSourceControlState) : ContextSourceControlState where
  owner := decision.owner
  sourceId := decision.sourceId
  sourceKind := decision.sourceKind
  name := decision.name
  bindingRevision := stored.bind ContextSourceControlState.bindingRevision
  trackingStatus := decision.trackingStatus.getD
    ((stored.map ContextSourceControlState.trackingStatus).getD .untracked)
  latestVisibleCommittedRevision :=
    stored.bind ContextSourceControlState.latestVisibleCommittedRevision
  latestRevision := decision.revision.or (stored.bind ContextSourceControlState.latestRevision)
  stateRevision := (stored.map ContextSourceControlState.stateRevision).getD 0
  applied := by
    intro visible
    cases stored with
    | none => cases visible
    | some stored =>
      rw [Option.isSome_or, Bool.or_eq_true]
      exact .inr (stored.applied visible)

/-- `_apply_source_lifecycle_decision_transaction`.  The source item is committed in
the same transaction, or rejected. -/
def applySourceLifecycleDecision (rows : List ControlRow) (decision : SourceLifecycleDecision)
    (itemAccepted : Bool) (now : String) : Except ControlError (List ControlRow) :=
  if itemAccepted = false then
    .error .itemRejected
  else if decision.decisionKind = .observePending then
    .ok rows
  else
    let stored := storedState rows (decision.owner, decision.sourceId)
    (writeContextSourceControl rows (decision.state stored) stored now).map Prod.snd

/-- `AppliedSourceRevision`, and whether a frame of the assembly has the source. -/
structure AppliedSourceRevision where
  sourceId : String
  revision : String
  previousRevision : Option String
  expectedControlRevision : Option Nat
  selected : Bool

/-- The sources whose revisions are no control states. -/
def derivedSources : List String :=
  ["mcp-tool-guidance:v1", "team-source:membership:v1", "team-source:tasks:v1"]

def observedAsSealed (stored : ContextSourceControlState) (source : AppliedSourceRevision) :
    Bool :=
  stored.latestVisibleCommittedRevision = source.previousRevision &&
    match source.expectedControlRevision with
    | some expected => stored.stateRevision = expected && stored.trackingStatus = .tracked
    | none => stored.latestRevision = some source.revision

def ContextSourceControlState.sealed (state : ContextSourceControlState) (revision now : String) :
    ContextSourceControlState :=
  -- Without a rebuild the revision is the one that was observed.
  { state with
    latestVisibleCommittedRevision := some revision
    latestRevision := some revision
    stateRevision := state.stateRevision + 1
    updatedAt := some now
    applied := fun _ => rfl }

/-- One round of `_apply_sealed_context_sources`. -/
def applySealedSource (owner : ContextSourceOwnerKey) (consumedTransition : Bool) (now : String)
    (rows : List ControlRow) (source : AppliedSourceRevision) :
    Except ControlError (List ControlRow) :=
  if derivedSources.contains source.sourceId then
    .ok rows
  else
    match storedState rows (owner, source.sourceId) with
    | none => .error (.sealConflict ("source 未由 owner 登记: " ++ source.sourceId))
    | some stored =>
      if source.expectedControlRevision.isSome && !consumedTransition then
        .error (.sealConflict "rebuild CAS 缺少真实 consumed transition")
      else if observedAsSealed stored source = false then
        .error (.sealConflict ("observed/applied revision 已变化: " ++ source.sourceId))
      else if source.selected = false then
        .error (.sealConflict ("applied source 没有真实 selected frame: " ++ source.sourceId))
      else
        .ok (updateWhere
          (fun row => row.key = (owner, source.sourceId) &&
            row.state.stateRevision = stored.stateRevision)
          (fun row => { row with state := row.state.sealed source.revision now }) rows)

def applySealedContextSources (owner : ContextSourceOwnerKey) (consumedTransition : Bool)
    (sources : List AppliedSourceRevision) (now : String) (rows : List ControlRow) :
    Except ControlError (List ControlRow) :=
  sources.foldlM (applySealedSource owner consumedTransition now) rows

structure CheckpointSources where
  checkpointId : String
  states : List ControlRow

def captureCheckpointContextSources (rows : List ControlRow) (checkpoints : List CheckpointSources)
    (checkpointId : String) (owner : ContextSourceOwnerKey) :
    Except ControlError (List CheckpointSources) :=
  if checkpoints.any fun checkpoint => checkpoint.checkpointId = checkpointId then
    .error (.integrity "UNIQUE constraint failed: checkpoint_context_source_snapshots")
  else
    .ok (checkpoints ++ [⟨checkpointId, rows.filter fun row => row.state.owner = owner⟩])

theorem none_applied : (none : Option String).isSome = true → (none : Option String).isSome = true :=
  id

/-- A registration after the target checkpoint is no longer tracked. -/
def ContextSourceControlState.retired (state : ContextSourceControlState) (timestamp : String) :
    ContextSourceControlState :=
  { state with
    trackingStatus := .untracked
    latestVisibleCommittedRevision := none
    latestRevision := none
    stateRevision := state.stateRevision + 1
    updatedAt := some timestamp
    applied := none_applied }

def restoredState (owner : ContextSourceOwnerKey) (visible : String → Option String)
    (row : ControlRow) : Except ControlError ControlRow :=
  let shown := if row.state.trackingStatus = .untracked then visible row.state.sourceId
    else row.state.latestVisibleCommittedRevision
  if applied : shown.isSome = true → row.state.latestRevision.isSome = true then
    .ok { row with state := { row.state with
      owner
      latestVisibleCommittedRevision := shown
      applied } }
  else
    .error (.integrity "CHECK constraint failed: context_source_control_states")

/-- `INSERT … ON CONFLICT DO UPDATE` of a restored row. -/
def restoreRow (timestamp : String) (rows : List ControlRow) (row : ControlRow) :
    List ControlRow :=
  upsert ControlRow.key row (fun current =>
    { current with state := { row.state with
      stateRevision := max current.state.stateRevision row.state.stateRevision + 1
      updatedAt := some timestamp } }) rows

/-- `_restore_checkpoint_context_sources`, after its checks of the boundary. -/
def restoreCheckpointContextSources (rows : List ControlRow)
    (checkpoints : List CheckpointSources) (checkpointId : String)
    (owner : ContextSourceOwnerKey) (visible : String → Option String) (timestamp : String) :
    Except ControlError (List ControlRow) :=
  match checkpoints.find? fun checkpoint => checkpoint.checkpointId = checkpointId with
  | none => .error (.checkpointConflict "缺少目标 checkpoint 的精确 owner 控制状态版本")
  | some checkpoint => do
      let restored ← checkpoint.states.mapM (restoredState owner visible)
      let known := checkpoint.states.map fun row => row.state.sourceId
      let retired := updateWhere
        (fun row => row.state.owner = owner && !known.contains row.state.sourceId)
        (fun row => { row with state := row.state.retired timestamp }) rows
      return restored.foldl (restoreRow timestamp) retired

structure ContextSourceStore where
  rows : List ControlRow := []
  checkpoints : List CheckpointSources := []

/-- The transactions that writers commit, one after the other. -/
inductive SourceCommand where
  | mutate (mutation : ContextSourceControlMutation) (frozenAt now : String)
  | decide (decision : SourceLifecycleDecision) (itemAccepted : Bool) (now : String)
  | sealSources (owner : ContextSourceOwnerKey) (consumedTransition : Bool)
      (sources : List AppliedSourceRevision) (now : String)
  | capture (checkpointId : String) (owner : ContextSourceOwnerKey)
  | restore (checkpointId : String) (owner : ContextSourceOwnerKey)
      (visible : String → Option String) (timestamp : String)

namespace ContextSourceStore

/-- A transaction of a writer; what it raises rolls it back. -/
def apply (store : ContextSourceStore) : SourceCommand →
    Except ControlError (Option ContextSourceControlReceipt × ContextSourceStore)
  | .mutate mutation frozenAt now => do
      let (receipt, rows) ← applyContextSourceControlMutation store.rows mutation frozenAt now
      return (some receipt, { store with rows })
  | .decide decision itemAccepted now => do
      let rows ← applySourceLifecycleDecision store.rows decision itemAccepted now
      return (none, { store with rows })
  | .sealSources owner consumedTransition sources now => do
      let rows ← applySealedContextSources owner consumedTransition sources now store.rows
      return (none, { store with rows })
  | .capture checkpointId owner => do
      let checkpoints ←
        captureCheckpointContextSources store.rows store.checkpoints checkpointId owner
      return (none, { store with checkpoints })
  | .restore checkpointId owner visible timestamp => do
      let rows ← restoreCheckpointContextSources store.rows store.checkpoints checkpointId owner
        visible timestamp
      return (none, { store with rows })

def step (store : ContextSourceStore) (command : SourceCommand) : ContextSourceStore :=
  match store.apply command with
  | .ok (_, next) => next
  | .error _ => store

def run (store : ContextSourceStore) (commands : List SourceCommand) : ContextSourceStore :=
  commands.foldl step store

end ContextSourceStore

end GraphAgent.ContextSources
