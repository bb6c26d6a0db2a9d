import GraphAgent.Dictionaries
import Mathlib.Data.List.Sort

/-!
# The tool protocol at a boundary

`tool_protocol_boundary.py`: which prefixes of the visible messages close the tool
calls they hold.  The pairing rows are read in chunks and iterated as a set, in any
order; the cutoffs that split a call from its result are collected as ranges.
-/

namespace GraphAgent.ToolProtocol

/-- The fields of `ItemProjectionIdentity` that the boundary reads. -/
structure ItemIdentity where
  projectionMessageId : Option String
  modelCallId : Option String

structure ToolCarrier where
  messageId : String
  turnId : Option String
  executionId : String
  role : String
  status : String
  toolCallId : Option String
  identity : Option ItemIdentity

namespace ToolCarrier

def modelCallId (carrier : ToolCarrier) : Option String :=
  carrier.identity.bind ItemIdentity.modelCallId

def projectionMessageId (carrier : ToolCarrier) : Option String :=
  carrier.identity.bind ItemIdentity.projectionMessageId

def checkpoint (carrier : ToolCarrier) : Bool :=
  carrier.projectionMessageId.isSome

def boundMessage (carrier : ToolCarrier) : Bool :=
  carrier.projectionMessageId.all fun messageId => messageId = carrier.messageId

end ToolCarrier

/-- `provider_tool_call_id`, of the model call of an identity. -/
def providerToolCallId (modelCallId : Option String) (toolCallId : String) : List Char :=
  match modelCallId with
  | none => toolCallId.toList
  | some modelCallId =>
    let start := modelCallId.toList ++ ":tool-call:".toList
    if modelCallId ≠ "" ∧ start.isPrefixOf toolCallId.toList then
      toolCallId.toList.drop start.length
    else toolCallId.toList

def sameToolPair (call result : ToolCarrier) (callId : String) : Bool :=
  call.role = "assistant" && result.role = "tool" && result.status = "completed" &&
    call.boundMessage && result.boundMessage && call.turnId = result.turnId &&
    call.executionId = result.executionId && call.modelCallId = result.modelCallId &&
    result.toolCallId.any fun resultId =>
      providerToolCallId call.modelCallId callId = providerToolCallId result.modelCallId resultId

/-- A row of `tool_calls`. -/
structure ToolCallRow where
  toolCallId : String
  assistantSequence : Nat
  resultSequence : Option Nat
  deriving DecidableEq

/-- The pairing table, and the messages with the items they are stored as. -/
structure Database where
  toolCalls : List ToolCallRow
  messages : Dictionary Nat ToolCarrier

def chunks {Value : Type} (size : Nat) (values : List Value) : List (List Value) :=
  (List.range ((values.length + size - 1) / size)).map fun index =>
    (values.drop (index * size)).take size

def Database.carrierRows (database : Database) (chunk : List Nat) : List (Nat × ToolCarrier) :=
  chunk.filterMap fun sequence =>
    ((database.messages.lookup sequence).filter fun carrier =>
      carrier.role = "tool" ∨
        database.toolCalls.any fun row => row.assistantSequence = sequence).map
      fun carrier => (sequence, carrier)

def Database.toolCarriers (database : Database) (size : Nat) (sequences : List Nat) :
    Dictionary Nat ToolCarrier :=
  (chunks size sequences).foldl
    (fun carriers chunk => carriers.insertAll (database.carrierRows chunk)) .empty

def Database.rowsOf (database : Database) (chunk : List Nat) : List ToolCallRow :=
  database.toolCalls.filter fun row =>
    row.assistantSequence ∈ chunk ∨ ∃ result ∈ row.resultSequence, result ∈ chunk

def Database.selectedRows (database : Database) (size : Nat) (ordered : List Nat) :
    List ToolCallRow :=
  ((chunks size ordered).flatMap database.rowsOf).eraseDups

def carrierSequences (ordered : List Nat) (rows : List ToolCallRow) : List Nat :=
  ((ordered ++ rows.flatMap fun row =>
    row.assistantSequence :: row.resultSequence.toList).eraseDups).insertionSort (· ≤ ·)

section Cutoffs

variable (ordered : List Nat) (carriers : Dictionary Nat ToolCarrier)

/-- `paired`. -/
def isPaired (row : ToolCallRow) : Bool :=
  match carriers.lookup row.assistantSequence, row.resultSequence.bind carriers.lookup with
  | some call, some result => sameToolPair call result row.toolCallId
  | _, _ => false

def isSameSink (row : ToolCallRow) : Bool :=
  match carriers.lookup row.assistantSequence, row.resultSequence.bind carriers.lookup with
  | some call, some result => call.checkpoint = result.checkpoint
  | _, _ => false

/-- The locals of the first loop over the rows. -/
structure Pairs where
  uniqueAssistant : Dictionary Nat (Option Nat)
  visibleResults : List Nat

def Pairs.step (pairs : Pairs) (row : ToolCallRow) : Pairs :=
  match row.resultSequence with
  | none => pairs
  | some result =>
    if isPaired carriers row then
      { uniqueAssistant :=
          if isSameSink carriers row then
            pairs.uniqueAssistant.insert result
              (if pairs.uniqueAssistant.has result then none else some row.assistantSequence)
          else pairs.uniqueAssistant
        visibleResults :=
          if row.assistantSequence ∈ ordered then result :: pairs.visibleResults
          else pairs.visibleResults }
    else pairs

def pairsOf (rows : List ToolCallRow) : Pairs :=
  rows.foldl (Pairs.step ordered carriers) ⟨.empty, []⟩

def isMirror (pairs : Pairs) (row : ToolCallRow) : Bool :=
  isPaired carriers row && !isSameSink carriers row &&
    ((row.resultSequence.bind carriers.lookup).any fun result => result.modelCallId.isSome) &&
    ((row.resultSequence.bind pairs.uniqueAssistant.lookup).any fun assistant =>
      assistant.any fun assistant => assistant ∈ ordered)

inductive BoundaryError (Anchors : Type) where
  | outOfRange (cutoffIndex : Int) (viewSize : Nat)
  | missingPosition
  | conflict (cutoffIndex viewSize : Nat) (safeAnchors : Anchors)
  deriving DecidableEq

/-- `range(start, stop)`. -/
def cutoffs (start stop : Nat) : List Nat :=
  List.range' start (stop - start)

variable {Anchors : Type}

def rowCutoffs (pairs : Pairs) (row : ToolCallRow) : Except (BoundaryError Anchors) (List Nat) :=
  match ordered.idxOf? row.assistantSequence, row.resultSequence.bind ordered.idxOf? with
  | none, resultIndex =>
    if isMirror ordered carriers pairs row then .ok []
    else
      match resultIndex with
      | none => .error .missingPosition
      | some resultIndex => .ok (cutoffs (resultIndex + 1) (ordered.length + 1))
  | some callIndex, none => .ok (cutoffs (callIndex + 1) (ordered.length + 1))
  | some callIndex, some resultIndex =>
    if ¬isPaired carriers row ∨ resultIndex ≤ callIndex then
      .ok (cutoffs (min callIndex resultIndex + 1) (ordered.length + 1))
    else .ok (cutoffs (callIndex + 1) (resultIndex + 1))

def orphanCutoffs (pairs : Pairs) (sequence : Nat) : List Nat :=
  if ((carriers.lookup sequence).any fun carrier => carrier.role = "tool") ∧
      sequence ∉ pairs.visibleResults then
    cutoffs (ordered.idxOf sequence + 1) (ordered.length + 1)
  else []

def collectCutoffs (pairs : Pairs) :
    List ToolCallRow → Except (BoundaryError Anchors) (List Nat)
  | [] => .ok (ordered.flatMap (orphanCutoffs ordered carriers pairs))
  | row :: rest => do
      let found ← rowCutoffs ordered carriers pairs row
      return found ++ (← collectCutoffs pairs rest)

end Cutoffs

/-- `_unsafe_cutoff_indices`, with the selected rows in the order they are iterated. -/
def Database.unsafeCutoffIndices {Anchors : Type} (database : Database) (size : Nat)
    (rows : List ToolCallRow) (ordered : List Nat) :
    Except (BoundaryError Anchors) (List Nat) :=
  let carriers := database.toolCarriers size (carrierSequences ordered rows)
  collectCutoffs ordered carriers (pairsOf ordered carriers rows) rows

/-- `ToolProtocolSafeAnchor`. -/
structure SafeAnchor where
  cutoffIndex : Nat
  cutoffMessageSequence : Option Nat
  deriving DecidableEq

def safeAnchor (ordered : List Nat) (cutoffIndex : Nat) : SafeAnchor :=
  ⟨cutoffIndex, if cutoffIndex = 0 then none else ordered[cutoffIndex - 1]?⟩

def nearestBelow (indices : List Nat) (cutoffIndex : Nat) : Option Nat :=
  (List.range cutoffIndex).reverse.find? fun index => index ∉ indices

def nearestAbove (indices : List Nat) (cutoffIndex viewSize : Nat) : Option Nat :=
  (cutoffs (cutoffIndex + 1) (viewSize + 1)).find? fun index => index ∉ indices

def Database.validateToolProtocolClosure (database : Database) (size : Nat)
    (rows : List ToolCallRow) (sourceSequences : List Nat) (cutoffIndex : Int) :
    Except (BoundaryError (List SafeAnchor)) Unit :=
  let ordered := sourceSequences.eraseDups
  if cutoffIndex < 0 ∨ ordered.length < cutoffIndex then
    .error (.outOfRange cutoffIndex ordered.length)
  else do
    let indices ← database.unsafeCutoffIndices size rows ordered
    if cutoffIndex.toNat ∉ indices then .ok ()
    else
      .error (.conflict cutoffIndex.toNat ordered.length
        (((nearestBelow indices cutoffIndex.toNat).toList ++
          (nearestAbove indices cutoffIndex.toNat ordered.length).toList).map
            (safeAnchor ordered)))

end GraphAgent.ToolProtocol
