import GraphAgent.JsonValue

/-!
# Prefix epochs and stable prefixes

A session thread assembles the wire context of its model calls inside prefix
epochs.  Inside one epoch frames are only appended, and a sealed assembly is
remembered as the byte length and the hash of its frames.  This file transcribes
the value objects and the four operations of
`app/domain/itemized/epoch/prefix_epoch.py`; a value object carries the facts
its constructor checks, so an invalid one cannot be built.
-/

namespace GraphAgent.Epoch

inductive ErrorClass where
  | itemSchemaError
  | epochContractError
  | stablePrefixViolationError
  | toolSetRebaseRequiredError
  | providerProfileChangeRequiresRebuildError
  | sourceIdentityConflictError
  deriving DecidableEq

/-- A raised exception with its text. -/
structure ItemSchemaError where
  errorClass : ErrorClass
  message : String
  deriving DecidableEq

def ItemSchemaError.schema (message : String) : ItemSchemaError :=
  ⟨.itemSchemaError, message⟩

def ItemSchemaError.contract (message : String) : ItemSchemaError :=
  ⟨.epochContractError, message⟩

/-- `repr` of a printable string. -/
def pyRepr (text : String) : String :=
  let quote := if text.contains '\'' && !text.contains '"' then "\"" else "'"
  let escape : Char → String := fun char =>
    if char = '\\' then "\\\\"
    else if char = '\n' then "\\n"
    else if char = '\r' then "\\r"
    else if char = '\t' then "\\t"
    else if char.toString = quote then "\\" ++ quote
    else char.toString
  quote ++ String.join (text.toList.map escape) ++ quote

/-- `_non_empty_string`, where `none` stands for Python's `None`. -/
def nonEmptyString (value : Option String) (fieldName : String) :
    Except ItemSchemaError String :=
  match value with
  | none => .error (.schema (fieldName ++ " 必须是非空字符串"))
  | some text =>
    if text = "" then .error (.schema (fieldName ++ " 必须是非空字符串"))
    else .ok text

def isLowerHex (char : Char) : Bool :=
  ('0' ≤ char && char ≤ '9') || ('a' ≤ char && char ≤ 'f')

def isHexDigest (digits : List Char) : Bool :=
  digits.length == 64 && digits.all isLowerHex

/-- Full match of `<scheme>[0-9a-f]{64}`. -/
def isHashToken (scheme token : String) : Bool :=
  token.toList.take scheme.toList.length == scheme.toList &&
    isHexDigest (token.toList.drop scheme.toList.length)

def jcsScheme : String := "sha256:jcs:v1:"

def bytesScheme : String := "sha256:bytes:v1:"

def HexDigest := { text : String // isHexDigest text.toList = true }

/-- The canonical encoder and the digest function the contract is built on. -/
structure HashPrimitives where
  dumps : Json → Option Bytes
  hexdigest : Bytes → HexDigest

inductive EpochReason where
  | initial
  | compaction
  | rewind
  | toolsetChanged
  | runtimeNoticeConsumed
  | providerChanged
  deriving DecidableEq

def EpochReason.value : EpochReason → String
  | .initial => "initial"
  | .compaction => "compaction"
  | .rewind => "rewind"
  | .toolsetChanged => "toolset_changed"
  | .runtimeNoticeConsumed => "runtime_notice_consumed"
  | .providerChanged => "provider_changed"

def rebuildEpochReasons : List EpochReason :=
  [.compaction, .rewind, .toolsetChanged, .runtimeNoticeConsumed, .providerChanged]

def pendingTransitionReasons : List EpochReason :=
  [.compaction, .rewind, .runtimeNoticeConsumed]

structure PrefixEpoch where
  ordinal : Int
  reason : EpochReason
  turnId : Option String
  ordinal_pos : 0 < ordinal
  initial_ordinal : reason = .initial → ordinal = 1
  turnId_ne : ∀ turn ∈ turnId, turn ≠ ""

/-- The checks of `PrefixEpoch.__post_init__`. -/
def PrefixEpoch.make (ordinal : Int) (reason : EpochReason) (turnId : Option String) :
    Except ItemSchemaError PrefixEpoch :=
  if positive : 0 < ordinal then
    if initialOrdinal : reason = .initial → ordinal = 1 then
      if turnNonEmpty : ∀ turn ∈ turnId, turn ≠ "" then
        .ok ⟨ordinal, reason, turnId, positive, initialOrdinal, turnNonEmpty⟩
      else
        .error (.schema "PrefixEpoch.turn_id 必须是非空字符串")
    else
      .error (.contract "initial epoch 的 ordinal 必须是 1")
  else
    .error (.schema "PrefixEpoch.ordinal 必须是正整数")

def PrefixEpoch.token (epoch : PrefixEpoch) : String :=
  "prefix-epoch:" ++ toString epoch.ordinal ++ ":" ++ epoch.reason.value

structure ParentAssemblyRef where
  assemblyId : String
  epochOrdinal : Int
  prefixByteLength : Nat
  prefixHash : String
  assemblyId_ne : assemblyId ≠ ""
  epochOrdinal_pos : 0 < epochOrdinal
  prefixHash_token : isHashToken bytesScheme prefixHash = true

structure RuntimeNoticeAcceptanceRef where
  acceptanceCommitId : Int
  selectionHash : String
  acceptanceCommitId_pos : 0 < acceptanceCommitId
  selectionHash_token : isHashToken jcsScheme selectionHash = true

structure PendingPrefixEpochTransition where
  transitionId : String
  reason : EpochReason
  turnId : Option String
  consumed : Bool
  noticeAcceptance : Option RuntimeNoticeAcceptanceRef
  transitionId_ne : transitionId ≠ ""
  reason_pending : reason ∈ pendingTransitionReasons
  turnId_ne : ∀ turn ∈ turnId, turn ≠ ""
  notice_frozen : reason = .runtimeNoticeConsumed → noticeAcceptance.isSome = true

def consumedTransitionError (transition : PendingPrefixEpochTransition) (rest : String) :
    ItemSchemaError :=
  .contract ("pending transition " ++ pyRepr transition.transitionId ++ " 已消费," ++ rest)

def PendingPrefixEpochTransition.consume (transition : PendingPrefixEpochTransition) :
    Except ItemSchemaError PendingPrefixEpochTransition :=
  if transition.consumed then
    .error (consumedTransitionError transition "只能随首个成功 seal 应用一次")
  else
    .ok { transition with consumed := true }

structure AppendedItemRef where
  refType : String
  refId : String
  sourceIdentity : Option String
  sourceRevision : Option String
  trackingState : String

/-- The checks of `AppendedItemRef.__post_init__`. -/
def AppendedItemRef.validate (ref : AppendedItemRef) : Except ItemSchemaError Unit :=
  if ref.refType ∉ ["canonical_item", "source_item"] then
    .error (.schema ("未知 AppendedItemRef.ref_type: " ++ ref.refType))
  else if ref.refId = "" then
    .error (.schema "AppendedItemRef.ref_id 必须是非空字符串")
  else if ref.trackingState ∉ ["tracked", "not_tracked"] then
    .error (.schema ("未知 AppendedItemRef.tracking_state: " ++ ref.trackingState))
  else if ref.refType = "canonical_item" then
    if ref.sourceIdentity.isSome || ref.sourceRevision.isSome then
      .error (.schema "canonical AppendedItemRef 不得携带 source 绑定")
    else if ref.trackingState ≠ "not_tracked" then
      .error (.schema "canonical AppendedItemRef 不得声明 tracking 状态")
    else
      .ok ()
  else
    match nonEmptyString ref.sourceIdentity "AppendedItemRef.source_identity" with
    | .error error => .error error
    | .ok _ =>
      if ref.trackingState = "tracked" then
        (nonEmptyString ref.sourceRevision "AppendedItemRef.source_revision").map
          fun _ => ()
      else
        .ok ()

def wireRoles : List String := ["system", "user", "assistant", "tool"]

def payloadKinds : List String :=
  ["text", "structured_content", "tool_call", "tool_result", "summary",
    "attachment_ref", "opaque", "extension"]

/-- `frame_manifest` of a wire context item. -/
def frameManifest (ordinal : Int) (providerProfile role payloadKind : String)
    (content : Json) : Json :=
  .obj [("ordinal", .int ordinal), ("provider_profile", .str providerProfile),
    ("role", .str role), ("payload_kind", .str payloadKind), ("content", content)]

variable (hashing : HashPrimitives)

structure ProviderProfileItemFrame where
  ordinal : Int
  providerProfile : String
  role : String
  payloadKind : String
  content : Json
  itemRef : AppendedItemRef
  canonicalBytes : Bytes
  ordinal_pos : 0 < ordinal
  providerProfile_ne : providerProfile ≠ ""
  role_known : role ∈ wireRoles
  payloadKind_known : payloadKind ∈ payloadKinds
  itemRef_valid : itemRef.validate = .ok ()
  encoded : Json.canonicalJsonBytes hashing.dumps
    (frameManifest ordinal providerProfile role payloadKind content) = .ok canonicalBytes

structure StablePrefixDigest where
  prefixByteLength : Nat
  prefixHash : String

structure PrefixEpochState where
  epoch : PrefixEpoch
  providerProfile : String
  toolCompatibilityKey : String
  epochApplied : Bool
  frames : List (ProviderProfileItemFrame hashing)
  appendedRefs : List AppendedItemRef
  parent : Option ParentAssemblyRef
  providerProfile_ne : providerProfile ≠ ""
  toolCompatibilityKey_token : isHashToken jcsScheme toolCompatibilityKey = true
  parent_epoch : ∀ ref ∈ parent, ref.epochOrdinal = epoch.ordinal

structure SealedPrefixAssembly where
  assemblyId : String
  state : PrefixEpochState hashing
  parent : Option ParentAssemblyRef
  appendedRefs : List AppendedItemRef
  prefixByteLength : Nat
  prefixHash : String
  consumedTransition : Option PendingPrefixEpochTransition

variable {hashing}

def ProviderProfileItemFrame.frameHash (frame : ProviderProfileItemFrame hashing) : String :=
  jcsScheme ++ (hashing.hexdigest frame.canonicalBytes).val

variable (hashing) in
def stablePrefixHash (prefixBytes : Bytes) : String :=
  bytesScheme ++ (hashing.hexdigest prefixBytes).val

/-- `stable_prefix_bytes`: the canonical bytes of the frames, joined in order. -/
def stablePrefixBytes (frames : List (ProviderProfileItemFrame hashing)) : Bytes :=
  frames.flatMap (·.canonicalBytes)

variable (hashing) in
def stablePrefixDigest (prefixBytes : Bytes) : StablePrefixDigest :=
  ⟨prefixBytes.length, stablePrefixHash hashing prefixBytes⟩

def prefixViolation (message : String) : ItemSchemaError :=
  ⟨.stablePrefixViolationError, message⟩

def splitFrameError (parent : ParentAssemblyRef) : ItemSchemaError :=
  prefixViolation ("assembly " ++ pyRepr parent.assemblyId ++ " 的父前缀长度 " ++
    toString parent.prefixByteLength ++ " 落在 frame 边界内,出现越界 frame")

/-- The scan of `verify_stable_prefix`, returning `(offset, inherited_count)`. -/
def coverPrefix (parent : ParentAssemblyRef) :
    List (ProviderProfileItemFrame hashing) → Nat → Nat → Except ItemSchemaError (Nat × Nat)
  | [], offset, inherited => .ok (offset, inherited)
  | frame :: frames, offset, inherited =>
    if parent.prefixByteLength ≤ offset then
      .ok (offset, inherited)
    else if parent.prefixByteLength < offset + frame.canonicalBytes.length then
      .error (splitFrameError parent)
    else
      coverPrefix parent frames (offset + frame.canonicalBytes.length) (inherited + 1)

/-- `verify_stable_prefix`: the number of frames that carry the parent prefix. -/
def verifyStablePrefix (parent : ParentAssemblyRef)
    (frames : List (ProviderProfileItemFrame hashing)) : Except ItemSchemaError Nat :=
  match coverPrefix parent frames 0 0 with
  | .error error => .error error
  | .ok (offset, inherited) =>
    if offset ≠ parent.prefixByteLength then
      .error (prefixViolation ("assembly " ++ pyRepr parent.assemblyId ++
        " 的 frames 只覆盖 " ++ toString offset ++ " 字节,不足以继承父前缀长度 " ++
        toString parent.prefixByteLength))
    else if stablePrefixHash hashing (stablePrefixBytes (frames.take inherited)) ≠
        parent.prefixHash then
      .error (prefixViolation ("assembly " ++ pyRepr parent.assemblyId ++
        " 的父前缀 hash 不一致,期望 " ++ parent.prefixHash))
    else
      .ok inherited

/-- The source revision that `_check_source_conflicts` tracks for a reference. -/
def AppendedItemRef.trackedSource (ref : AppendedItemRef) : Option (String × String) :=
  if ref.refType ≠ "source_item" ∨ ref.trackingState ≠ "tracked" then none
  else some (ref.sourceIdentity.getD "", ref.sourceRevision.getD "")

def sourceConflict (key : String × String) (rest : String) : ItemSchemaError :=
  ⟨.sourceIdentityConflictError,
    "source identity " ++ pyRepr key.1 ++ " revision " ++ pyRepr key.2 ++ " " ++ rest⟩

/-- The loop of `_check_source_conflicts` over the revisions already `seen`. -/
def checkSourcesAgainst : List ((String × String) × String) →
    List (ProviderProfileItemFrame hashing) → Except ItemSchemaError Unit
  | _, [] => .ok ()
  | seen, frame :: frames =>
    match frame.itemRef.trackedSource with
    | none => checkSourcesAgainst seen frames
    | some key =>
      match seen.lookup key with
      | none => checkSourcesAgainst ((key, frame.frameHash) :: seen) frames
      | some priorHash =>
        if priorHash ≠ frame.frameHash then
          .error (sourceConflict key "被以不一致正文重复贡献,返回 source identity conflict")
        else
          .error (sourceConflict key "在同一 prefix epoch内被重复选择")

def checkSourceConflicts (frames : List (ProviderProfileItemFrame hashing)) :
    Except ItemSchemaError Unit :=
  checkSourcesAgainst [] frames

variable (hashing) in
/-- A fresh epoch without frames, with the checks of `PrefixEpochState`. -/
def PrefixEpochState.opened (epoch : PrefixEpoch)
    (providerProfile toolCompatibilityKey : String) :
    Except ItemSchemaError (PrefixEpochState hashing) :=
  if profileEmpty : providerProfile = "" then
    .error (.schema "PrefixEpochState.provider_profile 必须是非空字符串")
  else if keyToken : isHashToken jcsScheme toolCompatibilityKey = true then
    .ok
      { epoch
        providerProfile
        toolCompatibilityKey
        epochApplied := false
        frames := []
        appendedRefs := []
        parent := none
        providerProfile_ne := profileEmpty
        toolCompatibilityKey_token := keyToken
        parent_epoch := by simp }
  else
    .error (.schema
      "PrefixEpochState.tool_compatibility_key 必须符合 sha256:jcs:v1:<64位小写hex>")

variable (hashing) in
def initialEpochState (providerProfile toolCompatibilityKey : String)
    (turnId : Option String) (transition : Option PendingPrefixEpochTransition) :
    Except ItemSchemaError (PrefixEpochState hashing) :=
  if (transition.map (·.consumed)).getD false then
    .error (.contract "首个 assembly 不能重复消费已应用 transition")
  else
    match PrefixEpoch.make 1 ((transition.map (·.reason)).getD .initial) turnId with
    | .error error => .error error
    | .ok epoch => PrefixEpochState.opened hashing epoch providerProfile toolCompatibilityKey

def reasonMismatch (transition : PendingPrefixEpochTransition) (reason : EpochReason) :
    ItemSchemaError :=
  .contract ("pending transition reason " ++ pyRepr transition.reason.value ++
    " 与 epoch reason " ++ pyRepr reason.value ++ " 不一致")

/-- The transition checks that `open_rebuild_epoch` and the first seal share. -/
def checkTransition (reason : EpochReason)
    (transition : Option PendingPrefixEpochTransition) (missing unexpected : String) :
    Except ItemSchemaError Unit :=
  if reason ∈ pendingTransitionReasons then
    match transition with
    | none => .error (.contract missing)
    | some transition =>
      if transition.reason ≠ reason then
        .error (reasonMismatch transition reason)
      else if transition.consumed then
        .error (consumedTransitionError transition "不能重复应用")
      else
        .ok ()
  else if transition.isSome then
    .error (.contract unexpected)
  else
    .ok ()

/-- `open_rebuild_epoch`: a new, not yet applied epoch at a legal boundary. -/
def openRebuildEpoch (state : PrefixEpochState hashing) (reason : EpochReason)
    (providerProfile toolCompatibilityKey : String)
    (transition : Option PendingPrefixEpochTransition) (turnId : Option String) :
    Except ItemSchemaError (PrefixEpochState hashing) :=
  if reason ∉ rebuildEpochReasons then
    .error (.contract ("epoch_reason=" ++ pyRepr reason.value ++ " 不是合法重建边界;" ++
      "只有登记的来源、ToolSet、notice 与真实 Provider 重投影 边界能开新 epoch"))
  else
    match checkTransition reason transition
        ("epoch_reason=" ++ reason.value ++ " 必须携带未消费的 PendingPrefixEpochTransition")
        "ToolSet/Provider 重投影 是 safe boundary 直接生效,不接受 pending transition" with
    | .error error => .error error
    | .ok _ =>
      if reason = .toolsetChanged ∧ toolCompatibilityKey = state.toolCompatibilityKey then
        .error (.contract "no-op ToolSet 变化不得伪造 hard rebase")
      else if reason = .providerChanged ∧
          (providerProfile = state.providerProfile ∨
            toolCompatibilityKey ≠ state.toolCompatibilityKey) then
        .error (.contract "Provider 重投影 必须更换 profile 且保持原 ToolSet")
      else
        match PrefixEpoch.make (state.epoch.ordinal + 1) reason turnId with
        | .error error => .error error
        | .ok epoch =>
          PrefixEpochState.opened hashing epoch providerProfile toolCompatibilityKey

/-- `max((frame.ordinal for frame in frames), default=0)`. -/
def maxFrameOrdinal (frames : List (ProviderProfileItemFrame hashing)) : Int :=
  frames.foldl (fun largest frame => max largest frame.ordinal) 0

/-- The loop of `append_items` over the new frames. -/
def checkNewFrames (providerProfile : String) :
    Int → List (ProviderProfileItemFrame hashing) → Except ItemSchemaError Unit
  | _, [] => .ok ()
  | maxOrdinal, frame :: frames =>
    if frame.providerProfile ≠ providerProfile then
      .error (.contract ("frame ordinal=" ++ toString frame.ordinal ++
        " 的 provider_profile " ++ pyRepr frame.providerProfile ++
        " 与当前 epoch 绑定的 " ++ pyRepr providerProfile ++ " 不一致"))
    else if frame.ordinal ≤ maxOrdinal then
      .error (.contract ("frame ordinal 必须严格递增: " ++ toString frame.ordinal ++
        " <= " ++ toString maxOrdinal))
    else
      checkNewFrames providerProfile frame.ordinal frames

def appendItems (state : PrefixEpochState hashing)
    (frames : List (ProviderProfileItemFrame hashing))
    (desiredProviderProfile desiredToolCompatibilityKey : String) :
    Except ItemSchemaError (PrefixEpochState hashing) :=
  if desiredProviderProfile = "" then
    .error (.schema "desired_provider_profile 必须是非空字符串")
  else if isHashToken jcsScheme desiredToolCompatibilityKey = false then
    .error (.schema "desired_tool_compatibility_key 必须符合 sha256:jcs:v1:<64位小写hex>")
  else if desiredProviderProfile ≠ state.providerProfile then
    .error ⟨.providerProfileChangeRequiresRebuildError,
      "desired provider profile " ++ pyRepr desiredProviderProfile ++ " 与 applied " ++
        pyRepr state.providerProfile ++ " 不一致;已有 assembly 后只能返回 " ++
        "provider-profile-change-requires-rebuild,在实际 compaction/rewind/" ++
        "有效 ToolSet hard rebase 的新 epoch 原子 applied"⟩
  else if desiredToolCompatibilityKey ≠ state.toolCompatibilityKey then
    .error ⟨.toolSetRebaseRequiredError,
      "desired ToolSetRef/policy hash 与当前 applied binding 不一致," ++
        "必须先执行 ToolSet hard rebase,不得在旧 epoch 继续 seal"⟩
  else
    match checkNewFrames state.providerProfile (maxFrameOrdinal state.frames) frames with
    | .error error => .error error
    | .ok _ =>
      match checkSourceConflicts (state.frames ++ frames) with
      | .error error => .error error
      | .ok _ =>
        .ok
          { state with
            frames := state.frames ++ frames
            appendedRefs := state.appendedRefs ++ frames.map (·.itemRef) }

theorem isHashToken_stablePrefixHash (prefixBytes : Bytes) :
    isHashToken bytesScheme (stablePrefixHash hashing prefixBytes) = true := by
  simp [isHashToken, stablePrefixHash, (hashing.hexdigest prefixBytes).property]

/-- The transition checks of `seal_assembly`. -/
def checkSealTransition (state : PrefixEpochState hashing)
    (transition : Option PendingPrefixEpochTransition) : Except ItemSchemaError Unit :=
  if state.epochApplied then
    if transition.isSome then
      .error (.contract "已 applied epoch 的后续 assembly 不再消费 pending transition")
    else
      .ok ()
  else
    checkTransition state.epoch.reason transition
      ("epoch_reason=" ++ state.epoch.reason.value ++
        " 的首个 seal 必须携带匹配的 PendingPrefixEpochTransition")
      "initial/ToolSet/Provider 重投影 epoch 的 seal 不接受 pending transition"

/-- The parent check of `seal_assembly`; without a parent nothing is inherited. -/
def checkInheritance (state : PrefixEpochState hashing) : Except ItemSchemaError Unit :=
  match state.parent with
  | none => .ok ()
  | some parent => (verifyStablePrefix parent state.frames).map fun _ => ()

def consumeAtSeal (state : PrefixEpochState hashing)
    (transition : Option PendingPrefixEpochTransition) :
    Except ItemSchemaError (Option PendingPrefixEpochTransition) :=
  match transition with
  | some transition =>
    if state.epochApplied then .ok none else transition.consume.map some
  | none => .ok none

def sealedState (state : PrefixEpochState hashing) (assemblyId : String)
    (assemblyId_ne : assemblyId ≠ "") : PrefixEpochState hashing :=
  let digest := stablePrefixDigest hashing (stablePrefixBytes state.frames)
  { state with
    epochApplied := true
    parent := some
      { assemblyId
        epochOrdinal := state.epoch.ordinal
        prefixByteLength := digest.prefixByteLength
        prefixHash := digest.prefixHash
        assemblyId_ne
        epochOrdinal_pos := state.epoch.ordinal_pos
        prefixHash_token := isHashToken_stablePrefixHash _ }
    appendedRefs := []
    parent_epoch := by simp }

def sealAssembly (state : PrefixEpochState hashing) (assemblyId : String)
    (transition : Option PendingPrefixEpochTransition) :
    Except ItemSchemaError (SealedPrefixAssembly hashing) :=
  if assemblyEmpty : assemblyId = "" then
    .error (.schema "assembly_id 必须是非空字符串")
  else
    match checkSealTransition state transition with
    | .error error => .error error
    | .ok _ =>
      match checkInheritance state with
      | .error error => .error error
      | .ok _ =>
        match consumeAtSeal state transition with
        | .error error => .error error
        | .ok consumedTransition =>
          let digest := stablePrefixDigest hashing (stablePrefixBytes state.frames)
          .ok
            { assemblyId
              state := sealedState state assemblyId assemblyEmpty
              parent := state.parent
              appendedRefs := state.appendedRefs
              prefixByteLength := digest.prefixByteLength
              prefixHash := digest.prefixHash
              consumedTransition }

end GraphAgent.Epoch
