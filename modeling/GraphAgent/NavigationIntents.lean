import GraphAgent.Sha256
import Mathlib.Data.List.Sort

/-!
# Navigation intents

The typed commands of `schemas/internal_v2/session_navigation/operations.py`
and the two encodings `queue_records.py` freezes with them: the parameters of
the receipt and the preimage hash that decides whether a resend is the same
operation.
-/

namespace GraphAgent.Navigation

/-- The exceptions of the queue and the executor, by the class a handler sees. -/
inductive NavigationError where
  | typeError (message : String)
  | valueError (message : String)
  | keyError (message : String)
  | runtimeError (message : String)
  | queueOwner (message : String)
  | conflict (message : String)
  | backpressure (message : String)
  | sessionDeletionPending (message : String)
  | sourceRetainedByFork (message : String)
  | sourceRetentionOperationPending (message : String)
  | skipped (operationId : String)
  deriving DecidableEq

inductive NavigationMutationKind where
  | createFolder
  | renameNode
  | moveNode
  | deleteFolder
  | deleteSession
  | autoTitleSession
  deriving DecidableEq

def NavigationMutationKind.text : NavigationMutationKind → String
  | .createFolder => "create_folder"
  | .renameNode => "rename_node"
  | .moveNode => "move_node"
  | .deleteFolder => "delete_folder"
  | .deleteSession => "delete_session"
  | .autoTitleSession => "auto_title_session"

inductive NavigationMutationState where
  | queued
  | running
  | committed
  | rejected
  | cancelled
  | dependencyFailed
  deriving DecidableEq

namespace NavigationMutationState

def text : NavigationMutationState → String
  | .queued => "queued"
  | .running => "running"
  | .committed => "committed"
  | .rejected => "rejected"
  | .cancelled => "cancelled"
  | .dependencyFailed => "dependency_failed"

/-- `NAVIGATION_MUTATION_TERMINAL_STATES`. -/
def isTerminal : NavigationMutationState → Bool
  | .queued | .running => false
  | .committed | .rejected | .cancelled | .dependencyFailed => true

end NavigationMutationState

/-- `_OPERATION_ID_PATTERN`: `op_` and 32 lower-case hexadecimal digits. -/
def isOperationId (value : String) : Bool :=
  let characters := value.toList
  characters.take 3 == ['o', 'p', '_'] &&
    (characters.drop 3).length == 32 &&
      (characters.drop 3).all fun character => "0123456789abcdef".toList.contains character

def validateOperationId (value : String) : Except NavigationError Unit :=
  if isOperationId value then
    .ok ()
  else
    .error (.valueError s!"operation_id 形态非法: {value}")

/-- The fields of one public intent.  `parentGiven` tells whether the request
names `parent_node_id` at all. -/
structure IntentFields where
  clientOperationId : String
  clientSequence : Nat
  kind : NavigationMutationKind
  baseCatalogRevision : Nat
  expectedRevision : Option Nat
  targetNodeId : Option String
  createdByOperationId : Option String
  name : Option String
  parentNodeId : Option String
  parentGiven : Bool
  recursive : Bool
  dependsOn : List String

namespace IntentFields

def inBounds (intent : IntentFields) : Bool :=
  decide (1 ≤ intent.clientSequence) &&
    intent.kind != .autoTitleSession &&
    intent.expectedRevision.all (fun revision => decide (1 ≤ revision)) &&
    intent.name.all fun name => decide (1 ≤ name.length) && decide (name.length ≤ 200)

def requireExpectedRevision (intent : IntentFields) : Except NavigationError Unit :=
  match intent.expectedRevision with
  | some _ => .ok ()
  | none =>
    .error (.valueError s!"{intent.kind.text} 必须给出 target node 的 expected_revision")

def validateKind (intent : IntentFields) : Except NavigationError Unit :=
  match intent.kind with
  | .createFolder =>
    if intent.name.isNone then
      .error (.valueError "create_folder 缺少 name")
    else if intent.targetNodeId.isSome then
      .error (.valueError "create_folder 不接受 target_node_id")
    else
      .ok ()
  | kind =>
    if intent.targetNodeId.isNone then
      .error (.valueError s!"{kind.text} 缺少 target_node_id")
    else match kind with
      | .renameNode =>
        if intent.name.isNone then
          .error (.valueError "rename_node 缺少 name")
        else do
          intent.requireExpectedRevision
          if intent.parentNodeId.isSome then
            .error (.valueError "rename_node 不接受 parent_node_id")
      | .moveNode => do
          intent.requireExpectedRevision
          if !intent.parentGiven then
            .error (.valueError "move_node 必须显式给出 parent_node_id（可为 null）")
      | .deleteSession =>
        if intent.recursive then
          .error (.valueError "delete_session 不接受 recursive")
        else
          .ok ()
      | _ => .ok ()

/-- `NavigationMutationIntentDTO.validate_intent`, after the field checks. -/
def validateIntent (intent : IntentFields) : Except NavigationError Unit := do
  validateOperationId intent.clientOperationId
  intent.dependsOn.forM validateOperationId
  intent.createdByOperationId.forM validateOperationId
  intent.validateKind

end IntentFields

structure NavigationMutationIntent extends IntentFields where
  inBounds : toIntentFields.inBounds = true
  valid : toIntentFields.validateIntent = .ok ()

structure AutoSessionTitleCommand where
  clientOperationId : String
  clientSequence : Nat
  baseCatalogRevision : Nat
  expectedRevision : Nat
  targetNodeId : String
  expectedTitle : String
  name : String
  valid : isOperationId clientOperationId = true

def AutoSessionTitleCommand.expectedTitleSource : String := "default"

inductive NavigationQueueCommand where
  | mutation (intent : NavigationMutationIntent)
  | autoTitle (command : AutoSessionTitleCommand)

structure NavigationParams where
  expectedRevision : Option Nat
  baseCatalogRevision : Nat
  targetNodeId : Option String
  createdByOperationId : Option String
  name : Option String
  parentNodeId : Option String
  recursive : Bool
  expectedTitle : Option String
  expectedTitleSource : Option String
  deriving DecidableEq

namespace NavigationQueueCommand

def clientOperationId : NavigationQueueCommand → String
  | .mutation intent => intent.clientOperationId
  | .autoTitle command => command.clientOperationId

def clientSequence : NavigationQueueCommand → Nat
  | .mutation intent => intent.clientSequence
  | .autoTitle command => command.clientSequence

def kind : NavigationQueueCommand → NavigationMutationKind
  | .mutation intent => intent.kind
  | .autoTitle _ => .autoTitleSession

def dependsOn : NavigationQueueCommand → List String
  | .mutation intent => intent.dependsOn
  | .autoTitle _ => []

def createdByOperationId : NavigationQueueCommand → Option String
  | .mutation intent => intent.createdByOperationId
  | .autoTitle _ => none

def targetNodeId : NavigationQueueCommand → Option String
  | .mutation intent => intent.targetNodeId
  | .autoTitle command => some command.targetNodeId

/-- `_params_json`. -/
def params : NavigationQueueCommand → NavigationParams
  | .mutation intent =>
    { expectedRevision := intent.expectedRevision
      baseCatalogRevision := intent.baseCatalogRevision
      targetNodeId := intent.targetNodeId
      createdByOperationId := intent.createdByOperationId
      name := intent.name
      parentNodeId := intent.parentNodeId
      recursive := intent.recursive
      expectedTitle := none
      expectedTitleSource := none }
  | .autoTitle command =>
    { expectedRevision := some command.expectedRevision
      baseCatalogRevision := command.baseCatalogRevision
      targetNodeId := some command.targetNodeId
      createdByOperationId := none
      name := some command.name
      parentNodeId := none
      recursive := false
      expectedTitle := some command.expectedTitle
      expectedTitleSource := some AutoSessionTitleCommand.expectedTitleSource }

end NavigationQueueCommand

/-! `json.dumps(…, ensure_ascii=False, sort_keys=True, separators=(",", ":"))`,
for the values a preimage holds. -/

namespace JsonText

def escapeCharacter (character : Char) : List Char :=
  if character = '"' then ['\\', '"']
  else if character = '\\' then ['\\', '\\']
  else if character = '\n' then ['\\', 'n']
  else if character = '\r' then ['\\', 'r']
  else if character = '\t' then ['\\', 't']
  else if character.toNat = 8 then ['\\', 'b']
  else if character.toNat = 12 then ['\\', 'f']
  else if character.toNat < 32 then
    ['\\', 'u', '0', '0', Nat.digitChar (character.toNat / 16),
      Nat.digitChar (character.toNat % 16)]
  else [character]

def string (value : String) : String :=
  String.ofList ('"' :: value.toList.flatMap escapeCharacter ++ ['"'])

def nullable : Option String → String
  | none => "null"
  | some value => string value

def boolean (value : Bool) : String :=
  if value then "true" else "false"

def array (items : List String) : String :=
  "[" ++ String.intercalate "," items ++ "]"

def object (fields : List (String × String)) : String :=
  let sorted := fields.insertionSort fun left right => left.1 ≤ right.1
  "\x7b" ++ String.intercalate "," (sorted.map fun field => string field.1 ++ ":" ++ field.2) ++
    "\x7d"

end JsonText

/-- `sorted(values)` on strings, by code points. -/
def sortedStrings (values : List String) : List String :=
  values.insertionSort (· ≤ ·)

def preimagePayload : NavigationQueueCommand → String
  | .mutation intent =>
    JsonText.object
      [("kind", JsonText.string intent.kind.text),
        ("target_node_id", JsonText.nullable intent.targetNodeId),
        ("created_by_operation_id", JsonText.nullable intent.createdByOperationId),
        ("name", JsonText.nullable intent.name),
        ("parent_node_id", JsonText.nullable intent.parentNodeId),
        ("recursive", JsonText.boolean intent.recursive),
        ("depends_on",
          JsonText.array ((sortedStrings intent.dependsOn).map JsonText.string))]
  | .autoTitle command =>
    JsonText.object
      [("kind", JsonText.string NavigationMutationKind.autoTitleSession.text),
        ("target_node_id", JsonText.string command.targetNodeId),
        ("name", JsonText.string command.name),
        ("expected_revision", toString command.expectedRevision),
        ("expected_title", JsonText.string command.expectedTitle),
        ("expected_title_source", JsonText.string AutoSessionTitleCommand.expectedTitleSource)]

def computeIntentPreimageHash (intent : NavigationQueueCommand) : String :=
  String.ofList (Sha256.hexdigest (preimagePayload intent).toUTF8.data.toList)

end GraphAgent.Navigation
