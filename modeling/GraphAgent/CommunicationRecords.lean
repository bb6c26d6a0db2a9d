import GraphAgent.ExecutionQueue
import GraphAgent.NavigationIntents
import GraphAgent.OperationLeases

/-!
# Records of cross-session communication

Addresses, payloads and the identities derived from them, the two row types with
their state tables, and the receipt a target gives for an accepted message.
-/

namespace GraphAgent.Communication

open Epoch SessionControl Navigation

inductive CommunicationError where
  | lease (error : LeaseError)
  | keyError (message : String)
  | runtimeError (message : String)
  | valueError (message : String)
  /-- `SessionDeletionPendingError`. -/
  | deletionPending (message : String)
  /-- `NotFoundError`. -/
  | notFound (message : String)
  | contractError (code message : String)
  | attributeError (message : String)
  | integrityError (constraint : String)
  deriving DecidableEq

/-- `not value.strip()`. -/
def isBlank (value : String) : Bool :=
  value.toList.all fun char =>
    char.isWhitespace || char.toNat = 0x0b || char.toNat = 0x0c || (0x1c ≤ char.toNat &&
      char.toNat ≤ 0x1f) || [0x85, 0xa0, 0x1680, 0x2028, 0x2029, 0x202f, 0x205f,
      0x3000].contains char.toNat || (0x2000 ≤ char.toNat && char.toNat ≤ 0x200a)

/-- Full match of `<prefix>[0-9a-f]{32}`. -/
def isIdentifier (scheme value : String) : Bool :=
  value.toList.take scheme.toList.length == scheme.toList &&
    (value.toList.drop scheme.toList.length).length == 32 &&
    (value.toList.drop scheme.toList.length).all isLowerHex

/-- `_validate_uuid_payload`: the version and the variant of a UUIDv7. -/
def validateUuidPayload (payload : List Char) : Except CommunicationError Unit :=
  if payload[12]? ≠ some '7' then
    .error (.valueError
      s!"ID payload 的 UUID version 位非法: {pyRepr (String.ofList payload)}")
  else if (payload[16]?).any (fun char => ['8', '9', 'a', 'b'].contains char) = false then
    .error (.valueError
      s!"ID payload 的 UUID variant 位非法: {pyRepr (String.ofList payload)}")
  else
    .ok ()

/-- `validate_session_id` and `validate_thread_id`. -/
def validateCanonicalId (scheme field value : String) : Except CommunicationError Unit :=
  if isIdentifier scheme value = false then
    .error (.valueError s!"{field} 形态非法: {pyRepr value}")
  else
    validateUuidPayload (value.toList.drop 4)

def validateSessionId (value : String) : Except CommunicationError Unit :=
  validateCanonicalId "ses_" "session_id" value

def validateThreadId (value : String) : Except CommunicationError Unit :=
  validateCanonicalId "thr_" "thread_id" value

structure GlobalThreadAddress where
  gatewayId : String
  workspaceId : String
  sessionId : String
  threadId : String
  deriving DecidableEq

structure SessionPlace where
  gatewayId : String
  workspaceId : String
  sessionId : String
  deriving DecidableEq

def GlobalThreadAddress.place (address : GlobalThreadAddress) : SessionPlace :=
  ⟨address.gatewayId, address.workspaceId, address.sessionId⟩

inductive CommunicationKind where
  | question
  | reply
  | progress
  | result
  deriving DecidableEq

def CommunicationKind.text : CommunicationKind → String
  | .question => "question"
  | .reply => "reply"
  | .progress => "progress"
  | .result => "result"

structure CommunicationPayload where
  content : String
  kind : CommunicationKind
  replyToCommunicationId : Option String
  deliveryPolicy : Rollout.DeliveryPolicy
  deriving DecidableEq

/-- `__post_init__` of the payload. -/
def CommunicationPayload.check (payload : CommunicationPayload) :
    Except CommunicationError Unit :=
  if isBlank payload.content then
    .error (.contractError "communication-payload-invalid" "通信 content 必须是非空白字符串")
  else if payload.kind = .reply then
    if payload.replyToCommunicationId.getD "" = "" then
      .error (.contractError "communication-payload-invalid"
        "kind=reply 必须提供 reply_to_communication_id")
    else
      .ok ()
  else if payload.replyToCommunicationId.isSome then
    .error (.contractError "communication-payload-invalid"
      "只有 kind=reply 可以提供 reply_to_communication_id")
  else
    .ok ()

def sha256Hex (text : String) : String :=
  String.ofList (Sha256.hexdigest text.toUTF8.data.toList)

def shortDigest (text : String) : String :=
  String.ofList ((Sha256.hexdigest text.toUTF8.data.toList).take 32)

/-- The identifier that every attempt of one send derives again. -/
def communicationId (sendOperationId : String) : String :=
  "comm_" ++ shortDigest ("communication\x00" ++ sendOperationId)

/-- `derive_communication_admission_identity`. -/
def deriveAdmissionIdentity (communicationId payloadHash : String) : String × String :=
  let digest := shortDigest s!"communication-admission|{communicationId}|{payloadHash}"
  ("cadm_" ++ digest, "cwake_" ++ digest)

/-- `communication_preimage_hash` without its `sha256:` scheme, which the ledger
strips before it stores the digest. -/
def communicationPreimageHash (target : GlobalThreadAddress) (payload : CommunicationPayload) :
    String :=
  sha256Hex (JsonText.object
    [("target", JsonText.object
        [("gateway_id", JsonText.string target.gatewayId),
          ("workspace_id", JsonText.string target.workspaceId),
          ("session_id", JsonText.string target.sessionId),
          ("thread_id", JsonText.string target.threadId)]),
      ("content", JsonText.string payload.content),
      ("kind", JsonText.string payload.kind.text),
      ("reply_to_communication_id", JsonText.nullable payload.replyToCommunicationId),
      ("delivery_policy", JsonText.string payload.deliveryPolicy.text)])

namespace JsonAscii

def hexDigit (value : Nat) : Char :=
  Nat.digitChar (value % 16)

def unit (value : Nat) : List Char :=
  ['\\', 'u', hexDigit (value / 4096), hexDigit (value / 256), hexDigit (value / 16),
    hexDigit value]

/-- Escaping under `ensure_ascii`, with a surrogate pair above the basic plane. -/
def escapeCharacter (character : Char) : List Char :=
  if character.toNat < 127 then JsonText.escapeCharacter character
  else if character.toNat < 0x10000 then unit character.toNat
  else
    unit (0xd800 + (character.toNat - 0x10000) / 0x400) ++
      unit (0xdc00 + (character.toNat - 0x10000) % 0x400)

def string (value : String) : String :=
  String.ofList ('"' :: value.toList.flatMap escapeCharacter ++ ['"'])

def nullable : Option String → String
  | none => "null"
  | some value => string value

end JsonAscii

/-- `json.dumps([target_session_id, target_workspace_id], separators=(",", ":"))`. -/
def targetReference (targetSessionId : String) (targetWorkspaceId : Option String) : String :=
  JsonText.array [JsonAscii.string targetSessionId, JsonAscii.nullable targetWorkspaceId]

inductive OutboxState where
  | accepted
  | routing
  | targetAccepted
  | executionBound
  | terminal
  | failed
  | cancelled
  deriving DecidableEq

namespace OutboxState

def text : OutboxState → String
  | .accepted => "accepted"
  | .routing => "routing"
  | .targetAccepted => "target_accepted"
  | .executionBound => "execution_bound"
  | .terminal => "terminal"
  | .failed => "failed"
  | .cancelled => "cancelled"

/-- `_COMMUNICATION_OUTBOX_TRANSITIONS`. -/
def transitions : OutboxState → List OutboxState
  | .accepted => [.routing, .failed, .cancelled]
  | .routing => [.targetAccepted, .failed, .cancelled]
  | .targetAccepted => [.executionBound, .failed, .cancelled]
  | .executionBound => [.terminal, .failed, .cancelled]
  | .terminal | .failed | .cancelled => []

/-- `_COMMUNICATION_OUTBOX_TERMINAL_STATES`. -/
def isTerminal : OutboxState → Bool
  | .terminal | .failed | .cancelled => true
  | .accepted | .routing | .targetAccepted | .executionBound => false

def isSuccess : OutboxState → Bool
  | .targetAccepted | .executionBound | .terminal => true
  | .accepted | .routing | .failed | .cancelled => false

def isFailure : OutboxState → Bool
  | .failed | .cancelled => true
  | .accepted | .routing | .targetAccepted | .executionBound | .terminal => false

end OutboxState

inductive InboxState where
  | targetAccepted
  | executionBound
  | terminal
  | failed
  | cancelled
  deriving DecidableEq

namespace InboxState

def text : InboxState → String
  | .targetAccepted => "target_accepted"
  | .executionBound => "execution_bound"
  | .terminal => "terminal"
  | .failed => "failed"
  | .cancelled => "cancelled"

/-- `target_accepted → execution_bound → terminal`, and a failure or a
cancellation from every state that is not final. -/
def transitions : InboxState → List InboxState
  | .targetAccepted => [.executionBound, .failed, .cancelled]
  | .executionBound => [.terminal, .failed, .cancelled]
  | .terminal | .failed | .cancelled => []

def isTerminal : InboxState → Bool
  | .terminal | .failed | .cancelled => true
  | .targetAccepted | .executionBound => false

end InboxState

/-- `_OUTBOX_PREIMAGE_FIELDS`: what a repeated operation has to repeat.  The
source address holds the row's own `session_id`. -/
structure OutboxPreimage where
  source : GlobalThreadAddress
  target : GlobalThreadAddress
  kind : CommunicationKind
  replyToCommunicationId : Option String
  payloadHash : String
  content : String
  deliveryPolicy : Rollout.DeliveryPolicy
  targetRef : String
  deriving DecidableEq

structure CommunicationOutboxRecord extends OutboxPreimage where
  sendOperationId : String
  communicationId : String
  requestId : String
  state : OutboxState
  latestReceipt : Option String
  abortReason : Option String
  createdAt : String
  updatedAt : String
  deriving DecidableEq

/-- `_INBOX_PREIMAGE_FIELDS`.  The target address holds the row's own
`session_id`. -/
structure InboxPreimage where
  source : GlobalThreadAddress
  target : GlobalThreadAddress
  kind : CommunicationKind
  replyToCommunicationId : Option String
  payloadHash : String
  content : String
  deliveryPolicy : Rollout.DeliveryPolicy
  admissionId : String
  wakeupKey : String
  deriving DecidableEq

structure InboxExecutionBinding where
  jobId : String
  executionId : String
  turnId : Option String
  deriving DecidableEq

/-- `admission_claim_owner` and `admission_claim_generation`, null together. -/
structure InboxClaim where
  owner : String
  generation : Nat
  deriving DecidableEq

/-- The columns `job_id`, `execution_id` and `turn_id` are one binding: the
first two are null together. -/
structure CommunicationInboxRecord extends InboxPreimage where
  communicationId : String
  requestId : String
  state : InboxState
  binding : Option InboxExecutionBinding
  admissionClaim : Option InboxClaim
  lastError : Option String
  terminalOutcome : Option String
  createdAt : String
  updatedAt : String
  deriving DecidableEq

def mismatched (fields : List (String × Bool)) : List String :=
  (fields.filter fun field => !field.2).map Prod.fst

/-- `_outbox_preimage_mismatches`. -/
def OutboxPreimage.mismatches (record preimage : OutboxPreimage) : List String :=
  mismatched
    [("session_id", record.source.sessionId = preimage.source.sessionId),
      ("source_gateway_id", record.source.gatewayId = preimage.source.gatewayId),
      ("source_workspace_id", record.source.workspaceId = preimage.source.workspaceId),
      ("source_thread_id", record.source.threadId = preimage.source.threadId),
      ("target_gateway_id", record.target.gatewayId = preimage.target.gatewayId),
      ("target_workspace_id", record.target.workspaceId = preimage.target.workspaceId),
      ("target_session_id", record.target.sessionId = preimage.target.sessionId),
      ("target_thread_id", record.target.threadId = preimage.target.threadId),
      ("kind", record.kind = preimage.kind),
      ("reply_to_communication_id",
        record.replyToCommunicationId = preimage.replyToCommunicationId),
      ("payload_hash", record.payloadHash = preimage.payloadHash),
      ("content", record.content = preimage.content),
      ("delivery_policy", record.deliveryPolicy = preimage.deliveryPolicy),
      ("target_ref", record.targetRef = preimage.targetRef)]

/-- `_inbox_preimage_mismatches`. -/
def InboxPreimage.mismatches (record preimage : InboxPreimage) : List String :=
  mismatched
    [("session_id", record.target.sessionId = preimage.target.sessionId),
      ("source_gateway_id", record.source.gatewayId = preimage.source.gatewayId),
      ("source_workspace_id", record.source.workspaceId = preimage.source.workspaceId),
      ("source_session_id", record.source.sessionId = preimage.source.sessionId),
      ("source_thread_id", record.source.threadId = preimage.source.threadId),
      ("target_gateway_id", record.target.gatewayId = preimage.target.gatewayId),
      ("target_workspace_id", record.target.workspaceId = preimage.target.workspaceId),
      ("target_thread_id", record.target.threadId = preimage.target.threadId),
      ("kind", record.kind = preimage.kind),
      ("reply_to_communication_id",
        record.replyToCommunicationId = preimage.replyToCommunicationId),
      ("payload_hash", record.payloadHash = preimage.payloadHash),
      ("content", record.content = preimage.content),
      ("delivery_policy", record.deliveryPolicy = preimage.deliveryPolicy),
      ("admission_id", record.admissionId = preimage.admissionId),
      ("wakeup_key", record.wakeupKey = preimage.wakeupKey)]

theorem mismatched_eq_nil {fields : List (String × Bool)} :
    mismatched fields = [] ↔ ∀ field ∈ fields, field.2 = true := by
  simp [mismatched, List.filter_eq_nil_iff]

@[simp]
theorem OutboxPreimage.mismatches_eq_nil {record preimage : OutboxPreimage} :
    record.mismatches preimage = [] ↔ record = preimage := by
  constructor
  · intro agree
    have each := mismatched_eq_nil.mp agree
    obtain ⟨⟨gateway, workspace, session, thread⟩, ⟨toGateway, toWorkspace, toSession, toThread⟩,
      kind, reply, hash, content, policy, reference⟩ := record
    simp only [List.mem_cons, List.not_mem_nil, or_false, forall_eq_or_imp, forall_eq,
      decide_eq_true_eq] at each
    obtain ⟨rfl, rfl, rfl, rfl, rfl, rfl, rfl, rfl, rfl, rfl, rfl, rfl, rfl, rfl⟩ := each
    rfl
  · rintro rfl
    simp [mismatches, mismatched]

@[simp]
theorem InboxPreimage.mismatches_eq_nil {record preimage : InboxPreimage} :
    record.mismatches preimage = [] ↔ record = preimage := by
  constructor
  · intro agree
    have each := mismatched_eq_nil.mp agree
    obtain ⟨⟨gateway, workspace, session, thread⟩, ⟨toGateway, toWorkspace, toSession, toThread⟩,
      kind, reply, hash, content, policy, admission, wakeup⟩ := record
    simp only [List.mem_cons, List.not_mem_nil, or_false, forall_eq_or_imp, forall_eq,
      decide_eq_true_eq] at each
    obtain ⟨rfl, rfl, rfl, rfl, rfl, rfl, rfl, rfl, rfl, rfl, rfl, rfl, rfl, rfl, rfl⟩ := each
    rfl
  · rintro rfl
    simp [mismatches, mismatched]

/-- The body of a `send` or `reply` operation of the gateway. -/
structure CommunicationAcceptanceRequest where
  communicationId : String
  source : GlobalThreadAddress
  target : GlobalThreadAddress
  payload : CommunicationPayload
  requestId : String
  deriving DecidableEq

/-- The receipt; its `state` is always `target_accepted`. -/
structure CommunicationReceipt where
  communicationId : String
  source : GlobalThreadAddress
  target : GlobalThreadAddress
  payloadHash : String
  admissionId : String
  acceptedAt : String
  deriving DecidableEq

namespace CommunicationReceipt

/-- A JSON object of encoded values in the given order. -/
def jsonRecord (fields : List (String × String)) : String :=
  "\x7b" ++ String.intercalate "," (fields.map fun field =>
    JsonText.string field.1 ++ ":" ++ field.2) ++ "\x7d"

def addressJson (address : GlobalThreadAddress) : String :=
  jsonRecord
    [("gateway_id", JsonText.string address.gatewayId),
      ("workspace_id", JsonText.string address.workspaceId),
      ("session_id", JsonText.string address.sessionId),
      ("thread_id", JsonText.string address.threadId)]

/-- `receipt.model_dump_json()`. -/
def json (receipt : CommunicationReceipt) : String :=
  jsonRecord
    [("communication_id", JsonText.string receipt.communicationId),
      ("source", addressJson receipt.source),
      ("target", addressJson receipt.target),
      ("payload_hash", JsonText.string receipt.payloadHash),
      ("admission_id", JsonText.string receipt.admissionId),
      ("state", JsonText.string "target_accepted"),
      ("accepted_at", JsonText.string receipt.acceptedAt)]

end CommunicationReceipt

def CommunicationInboxRecord.receipt (inbox : CommunicationInboxRecord) : CommunicationReceipt :=
  ⟨inbox.communicationId, inbox.source, inbox.target, inbox.payloadHash, inbox.admissionId,
    inbox.createdAt⟩

end GraphAgent.Communication
