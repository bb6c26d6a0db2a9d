import GraphAgent.ContextSourceControl
import GraphAgent.Dictionaries

/-!
# Cuts of injected context sources

`context_source_versions.py` and `_frozen_source_refs`: a boundary freezes the item
at which it cuts the history of a view, and a rewind keeps those untracked sources of
the sealed assembly that were injected before that item.
-/

namespace GraphAgent.ContextSources

structure SourceContribution where
  contributionId : String
  /-- `source_binding.source_ref`. -/
  sourceRef : Option String
  sourceRevision : String
  rootEligible : Bool

/-- An entry of the selection whose reference is `request_only`. -/
structure SourceSelection where
  refId : String
  contributionId : Option String
  included : Bool
  available : Bool
  sourceRevision : Option String

abbrev SourceIdentity := String × String

structure PrefixFrame where
  role : String
  sourceItem : Bool
  refId : String
  identity : SourceIdentity

structure SealBinding where
  rootSources : List SourceIdentity
  frames : List PrefixFrame

def contributionOf (contributions : List SourceContribution) (entry : SourceSelection) :
    Option SourceContribution :=
  entry.contributionId.bind
    (Dictionary.ofList (contributions.map fun source => (source.contributionId, source))).lookup

/-- `ContextAssemblySnapshot`, as far as sources go.  A snapshot names each reference
once, and an included entry has the revision of its contribution. -/
structure SourceAssembly where
  assemblyId : String
  threadId : String
  summaryCandidate : Bool
  binding : Option SealBinding
  contributions : List SourceContribution
  selection : List SourceSelection
  distinct : (selection.map SourceSelection.refId).Nodup
  revisions : ∀ entry ∈ selection, entry.included = true → ∀ source,
    contributionOf contributions entry = some source →
      entry.sourceRevision = some source.sourceRevision
  nonempty : ∀ source ∈ contributions, source.sourceRevision ≠ ""

def SourceAssembly.injected (assembly : SourceAssembly) (entry : SourceSelection) :
    Option SourceIdentity :=
  if entry.included && entry.available then
    (contributionOf assembly.contributions entry).bind fun source =>
      source.sourceRef.map fun sourceRef => (sourceRef, source.sourceRevision)
  else none

inductive SourceCutError where
  | text (field : String)
  | frontier (reason : String)
  | checkpoint (reason : String)
  | control (error : ControlError)
  deriving DecidableEq

def strictText (field : String) : Option String → Except SourceCutError String
  | none => .error (.text field)
  | some value => if value = "" then .error (.text field) else .ok value

def strictOptionalText (field : String) : Option String → Except SourceCutError (Option String)
  | none => .ok none
  | some value => if value = "" then .error (.text field) else .ok (some value)

def SourceAssembly.selected (assembly : SourceAssembly) : Dictionary String SourceIdentity :=
  Dictionary.ofList (assembly.selection.filterMap fun entry =>
    (assembly.injected entry).map fun identity => (entry.refId, identity))

def SourceAssembly.rootEligible (assembly : SourceAssembly) (refId : String) : Bool :=
  (assembly.selection.find? fun entry => entry.refId = refId).any fun entry =>
    (contributionOf assembly.contributions entry).any SourceContribution.rootEligible

def freezeRoots (assembly : SourceAssembly) :
    Dictionary String SourceIdentity → List SourceIdentity →
      Except SourceCutError (Dictionary String SourceIdentity)
  | sources, [] => .ok sources
  | sources, provenance :: rest =>
    match assembly.selected.entries.filter fun entry =>
        entry.2 = provenance && assembly.rootEligible entry.1 with
    | [entry] => freezeRoots assembly (sources.insert entry.1 entry.2) rest
    | _ => .error (.frontier "root 缺少唯一冻结 source selection")

def freezeFrames (assembly : SourceAssembly) :
    Dictionary String SourceIdentity → List PrefixFrame →
      Except SourceCutError (Dictionary String SourceIdentity)
  | sources, [] => .ok sources
  | sources, frame :: rest =>
    if frame.sourceItem = false ∨ frame.role = "system" then freezeFrames assembly sources rest
    else if frame.role ≠ "user" ∨ assembly.selected.lookup frame.refId ≠ some frame.identity ∨
        sources.has frame.refId then
      .error (.frontier "source frame 与冻结 selection 不一致")
    else freezeFrames assembly (sources.insert frame.refId frame.identity) rest

/-- `_frozen_source_refs`, the sources in the order of their injection. -/
def frozenSourceRefs (assembly : SourceAssembly) :
    Except SourceCutError (Dictionary String SourceIdentity) :=
  match assembly.binding with
  | none => .ok .empty
  | some binding =>
    if assembly.summaryCandidate then .ok .empty
    else do
      let roots ← freezeRoots assembly .empty binding.rootSources
      let sources ← freezeFrames assembly roots binding.frames
      if (sources.entries.all fun entry => assembly.selected.has entry.1) ∧
          (assembly.selected.entries.all fun entry => sources.has entry.1) then
        .ok sources
      else .error (.frontier "存在没有真实注入的 source selection")

/-- A row of `context_view_items`. -/
structure ViewItem where
  viewId : String
  itemId : String
  logicalItemOrdinal : Nat
  visible : Bool
  canonical : Bool
  /-- What `strict_text` asks of every row that is read. -/
  named : itemId ≠ ""

/-- A row of `context_assembly_selections` of a `request_only` reference. -/
structure FrontierRow where
  assemblyId : String
  refThreadId : String
  included : Bool
  refId : String
  sourceRevision : Option String
  positionKind : Option String
  positionItemId : Option String

structure BoundaryPayload where
  sourceViewId : Option String
  sourceAnchor : Option String
  sourceTurnId : Option String
  anchorMode : Option String
  cutoffMessageSequence : Option Nat

/-- A row of `control_events`. -/
structure ControlEvent where
  controlSequence : Nat
  controlKind : String
  viewId : String
  checkpointId : String
  payload : BoundaryPayload

/-- A row of `context_epoch_transitions`. -/
structure EpochTransition where
  reason : String
  targetViewId : String
  sourceCheckpointId : String
  controlSequence : Nat
  canonicalCutKind : String
  canonicalCutItemId : Option String

structure CutTables where
  viewItems : List ViewItem
  selections : List FrontierRow
  controlEvents : List ControlEvent
  turnRecords : List (String × Option String)
  messages : List (Nat × String)
  itemCatalog : List (String × Option String)
  /-- `_view_message_sequences_from_connection`. -/
  viewMessageSequences : String → Except SourceCutError (List Nat)

namespace CutTables

def members (tables : CutTables) (viewId : String) : List ViewItem :=
  tables.viewItems.filter fun item => item.viewId = viewId && item.visible && item.canonical

def ordinals (tables : CutTables) (viewId : String) : Dictionary String Nat :=
  Dictionary.ofList ((tables.members viewId).map fun item =>
    (item.itemId, item.logicalItemOrdinal))

end CutTables

/-- The item of `max(target_items, key=ordinals)`. -/
def lastItem (ordinals : Dictionary String Nat) (items : List String) : Option String :=
  items.foldl (fun best item =>
    match best with
    | none => some item
    | some found =>
      if (ordinals.lookup found).getD 0 < (ordinals.lookup item).getD 0 then some item
      else some found) none

def messageItem (tables : CutTables) (anchor : String) : Except SourceCutError String :=
  match tables.itemCatalog.filter fun item =>
      item.1 = "item-" ++ anchor || item.2 = some anchor with
  | [item] => strictText "source-cut.anchor_item_id" (some item.1)
  | _ => .error (.frontier "message anchor 缺少唯一 canonical item")

def anchorMessage (tables : CutTables) (payload : BoundaryPayload) (anchor : Option String) :
    Except SourceCutError String :=
  match anchor with
  | some message => .ok message
  | none =>
    match payload.cutoffMessageSequence.bind fun sequence =>
        tables.messages.find? fun message => message.1 = sequence with
    | none => .error (.frontier "inclusive Turn 缺少真实 message anchor")
    | some message => strictText "source-cut.anchor_message_id" (some message.2)

def boundaryAnchor (tables : CutTables) (payload : BoundaryPayload)
    (anchor sourceTurn : Option String) (mode : String) : Except SourceCutError String :=
  match sourceTurn.filter fun _ => mode = "before" with
  | some turn =>
    match tables.turnRecords.find? fun record => record.1 = turn with
    | none => .error (.frontier "before Turn 缺少真实 root input")
    | some record => strictText "source-cut.anchor_item_id" record.2
  | none => do
      let message ← anchorMessage tables payload anchor
      messageItem tables message

def cutAt (tables : CutTables) (sourceView targetViewId : String) (turn : Bool) (mode : String)
    (anchorItem : String) : Except SourceCutError (String × Option String) :=
  let ordinals := tables.ordinals sourceView
  let targetItems := (tables.members targetViewId).map ViewItem.itemId
  if ordinals.has anchorItem = false then
    .error (.frontier "anchor 不属于真实 canonical source view")
  else if (targetItems.all ordinals.has) = false then
    .error (.frontier "target canonical membership 脱离 source view")
  else if turn ∧ mode = "inclusive" then
    if anchorItem ∈ targetItems then
      match lastItem ordinals targetItems with
      | none => .error (.frontier "inclusive Turn 缺少真实 canonical 终点")
      | some last => .ok ("after_canonical", some last)
    else .error (.frontier "inclusive Turn 缺少真实 canonical 终点")
  else if decide (anchorItem ∈ targetItems) ≠ decide (mode = "inclusive") then
    .error (.frontier "target canonical membership 与 anchor mode 不一致")
  else .ok (if mode = "before" then "before_canonical" else "after_canonical", some anchorItem)

def contextSourceBoundaryCut (tables : CutTables) (reason targetViewId : String)
    (payload : BoundaryPayload) : Except SourceCutError (String × Option String) :=
  if reason = "compaction" then .ok ("complete", none)
  else do
    let sourceView ← strictText "source-cut.source_view_id" payload.sourceViewId
    let anchor ← strictOptionalText "source-cut.source_anchor" payload.sourceAnchor
    let sourceTurn ← strictOptionalText "source-cut.source_turn_id" payload.sourceTurnId
    let mode ← strictText "source-cut.anchor_mode" payload.anchorMode
    if (mode ≠ "before" ∧ mode ≠ "inclusive") ∨ (anchor.isSome ∧ sourceTurn.isSome) then
      .error (.frontier "control anchor 声明非法")
    else if anchor.isNone ∧ sourceTurn.isNone then do
      let sourceSequences ← tables.viewMessageSequences sourceView
      if payload.cutoffMessageSequence ≠ sourceSequences.getLast? then
        .error (.frontier "部分 canonical cut 缺少显式 anchor")
      else .ok ("complete", none)
    else do
      let anchorItem ← boundaryAnchor tables payload anchor sourceTurn mode
      cutAt tables sourceView targetViewId sourceTurn.isSome mode anchorItem

def untrackedSources (states : List ControlRow) : List String :=
  (states.filter fun row =>
    row.state.trackingStatus = .untracked &&
      row.state.latestVisibleCommittedRevision.isSome).map fun row => row.state.sourceId

def selectsAny (assembly : SourceAssembly) (sources : List String) (entry : SourceSelection) :
    Bool :=
  (assembly.injected entry).any fun identity => sources.contains identity.1

def selectedRefs (states : List ControlRow) (assembly : SourceAssembly) :
    Except SourceCutError (Dictionary String String) := do
  let entries ← (assembly.selection.filter (selectsAny assembly (untrackedSources states))).mapM
    fun entry => do
      let revision ← strictText "source-cut.source_revision" entry.sourceRevision
      return (entry.refId, revision)
  return Dictionary.ofList entries

def recordedFrontiers (tables : CutTables) (assembly : SourceAssembly)
    (selected : Dictionary String String) : Dictionary String (Option String × Option String) :=
  Dictionary.ofList ((tables.selections.filter fun row =>
    row.assemblyId = assembly.assemblyId && row.included &&
      row.refThreadId = assembly.threadId && selected.has row.refId &&
      row.sourceRevision = selected.lookup row.refId).map fun row =>
    (row.refId, (row.positionKind, row.positionItemId)))

def boundaryControl (tables : CutTables) (pending : EpochTransition) :
    Except SourceCutError ControlEvent :=
  match tables.controlEvents.find? fun control =>
      control.controlSequence = pending.controlSequence with
  | none => .error (.frontier "rebuild 未绑定真实 control boundary")
  | some control =>
    if control.viewId ≠ pending.targetViewId ∨
        control.checkpointId ≠ pending.sourceCheckpointId ∨
        ¬(control.controlKind = pending.reason ∨
          (pending.reason = "compaction" ∧ control.controlKind = "checkpoint_created")) then
      .error (.frontier "rebuild 未绑定真实 control boundary")
    else .ok control

def keepBefore (ordinals : Dictionary String Nat) (anchor : Nat)
    (selected : Dictionary String String) :
    List (String × Option String × Option String) →
      Except SourceCutError (List (String × String))
  | [] => .ok []
  | (refId, kind, item) :: rest =>
    let kept := (selected.lookup refId).toList.map fun revision => (refId, revision)
    if kind = some "start" then do
      let later ← keepBefore ordinals anchor selected rest
      return kept ++ later
    else
      match item.bind ordinals.lookup with
      | none => .error (.frontier "来源前沿不属于 canonical source view")
      | some place => do
          let later ← keepBefore ordinals anchor selected rest
          return if place < anchor then kept ++ later else later

def retainedContextSourceRefs (tables : CutTables) (pending : EpochTransition)
    (states : List ControlRow) (sourceAssembly : Option SourceAssembly) :
    Except SourceCutError (List (String × String)) :=
  match sourceAssembly with
  | none => .ok []
  | some assembly => do
      let selected ← selectedRefs states assembly
      let frontiers := recordedFrontiers tables assembly selected
      if (selected.entries.all fun entry => frontiers.has entry.1) = false ∨
          (frontiers.entries.all fun entry =>
            entry.2.1 = some "start" || entry.2.1 = some "after_canonical") = false then
        .error (.frontier "rebuild source selection 缺少精确位置")
      else do
        let control ← boundaryControl tables pending
        let cutKind ← strictText "source-cut.canonical_cut_kind" (some pending.canonicalCutKind)
        if cutKind = "complete" then
          if pending.canonicalCutItemId.isSome then
            .error (.frontier "complete cut 不得携带 canonical anchor")
          else .ok selected.entries
        else if cutKind ≠ "before_canonical" ∧ cutKind ≠ "after_canonical" then
          .error (.frontier "canonical cut kind 非法")
        else do
          let anchorItem ← strictText "source-cut.canonical_cut_item_id" pending.canonicalCutItemId
          let sourceView ← strictText "source-cut.source_view_id" control.payload.sourceViewId
          let ordinals := tables.ordinals sourceView
          match ordinals.lookup anchorItem with
          | none => .error (.frontier "anchor 不属于真实 canonical source view")
          | some anchor => keepBefore ordinals anchor selected frontiers.entries

scoped instance lawfulPairs : LawfulBEq (String × String) :=
  inferInstance

def visibleRevisions (frozen : Dictionary String SourceIdentity)
    (retained : List (String × String)) : Dictionary String String :=
  Dictionary.ofList (frozen.entries.filterMap fun entry =>
    if (entry.1, entry.2.2) ∈ retained then some entry.2 else none)

/-- `_restore_checkpoint_context_sources` with the assembly that the checkpoint names. -/
def restoreRewoundSources (tables : CutTables) (pending : Option EpochTransition)
    (sourceAssembly : Option SourceAssembly) (rows : List ControlRow)
    (checkpoints : List CheckpointSources) (checkpointId : String)
    (owner : ContextSourceOwnerKey) (timestamp : String) :
    Except SourceCutError (List ControlRow) :=
  match checkpoints.find? fun checkpoint => checkpoint.checkpointId = checkpointId with
  | none => .error (.checkpoint "缺少目标 checkpoint 的精确 owner 控制状态版本")
  | some checkpoint =>
    match pending.filter fun transition => transition.sourceCheckpointId = checkpointId with
    | none => .error (.checkpoint "restore 缺少同一 boundary transition")
    | some transition =>
      if (sourceAssembly.any fun assembly => assembly.binding.isNone) then
        .error (.checkpoint "目标 source assembly 缺少 immutable prefix")
      else do
        let retained ←
          retainedContextSourceRefs tables transition checkpoint.states sourceAssembly
        let frozen ← (sourceAssembly.map frozenSourceRefs).getD (.ok .empty)
        (restoreCheckpointContextSources rows checkpoints checkpointId owner
          (visibleRevisions frozen retained).lookup timestamp).mapError .control

end GraphAgent.ContextSources
