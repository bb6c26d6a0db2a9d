import GraphAgent.CarrierDedup
import GraphAgent.OrderedInsertion

/-!
# Reasoning in the messages of an agent state

`app/services/mapping/itemized/message_reasoning_merge.py`: the reasoning items
of a model call are merged into the content of the message that made its tool
calls.  Only the fields of a message that the merge reads are named; the rest is
`extra`.
-/

namespace GraphAgent.ReasoningMerge

open Carriers

/-- A content part. -/
abbrev Block := List (String × Json)

/-- `block.get(key)`. -/
def field (block : Block) (key : String) : Json :=
  (Dictionary.lookupEntries key block).getD .null

inductive MergeError where
  | dedup (error : DedupError)
  | blockIndex
  | carrier

/-- Whether `_block_index` returns. -/
def validIndex (block : Block) : Bool :=
  match field block "index" with
  | .null => true
  | .int index => 0 ≤ index
  | _ => false

/-- `_block_index`, where it returns. -/
def blockIndex (block : Block) : Option Nat :=
  match field block "index" with
  | .int index => if 0 ≤ index then some index.toNat else none
  | _ => none

/-- `text.removeprefix(start)`. -/
def removeStart (start text : String) : String :=
  match start.toList.isPrefixOf? text.toList with
  | some rest => String.ofList rest
  | none => text

def partCoordinate (modelCallId : String) (block : Block) : Option (String × Nat) :=
  match (field block "id").identifier?, blockIndex block with
  | some partId, some index => some (removeStart (modelCallId ++ ":block:") partId, index)
  | _, _ => none

inductive Content where
  | text (text : String)
  | parts (parts : List Json)

def blocksOf : List Json → Option (List Block)
  | [] => some []
  | .obj block :: parts => (blocksOf parts).map (block :: ·)
  | _ :: _ => none

def Content.ofBlocks (blocks : List Block) : Content :=
  .parts (blocks.map .obj)

/-- `existing`. -/
def existingBlocks : Content → Option (List Block)
  | .text text =>
    some (if text = "" then [] else [[("type", .str "text"), ("text", .str text)]])
  | .parts parts => blocksOf parts

/-- `missing`: a block without a coordinate is always missing. -/
def missingBlocks (modelCallId : String) (existing canonical : List Block) : List Block :=
  canonical.filter fun block =>
    (partCoordinate modelCallId block).all fun coordinate =>
      some coordinate ∉ existing.map (partCoordinate modelCallId)

/-- `_merge_content`: the content and the reason for a skipped merge. -/
def mergeContent (content : Content) (canonical : List Block) (modelCallId : String) :
    Except MergeError (Content × Option String) :=
  match existingBlocks content with
  | none => .error .carrier
  | some existing =>
    if (existing ++ canonical).all validIndex then
      let missing := missingBlocks modelCallId existing canonical
      if missing = [] then
        .ok (.ofBlocks existing, none)
      else if existing = [] then
        .ok (.ofBlocks missing, none)
      else if (existing ++ missing).any fun block => (blockIndex block).isNone then
        .ok (content, some "content_part_index_missing")
      else
        match insertEach (fun block => (blockIndex block).getD 0) existing 0 missing with
        | none => .ok (content, some "content_part_order_conflict")
        | some merged => .ok (.ofBlocks merged, none)
    else
      .error .blockIndex

def reasoningBlock (text blockId : String) (index : Nat) : Block :=
  [("type", .str "reasoning"), ("reasoning", .str text), ("id", .str blockId),
    ("index", .int index)]

def reasoningPart (superseded : List String) (item : CanonicalItem) :
    Option (String × (String × Nat) × Block) :=
  match item.projectionIdentity, item.payload with
  | some identity, .str text =>
    match identity.modelCallId, identity.blockId, identity.blockIndex with
    | some scope, some blockId, some index =>
      if item.semanticKind = .reasoning ∧ item.itemId ∉ superseded ∧
          (item.status = .completed ∨ item.status = .partial_) ∧ text ≠ "" then
        some (scope, (blockId, index), reasoningBlock text blockId index)
      else
        none
    | _, _, _ => none
  | _, _ => none

/-- `reasoning[scope]`: the first block of each coordinate. -/
def scopeReasoning (superseded : List String) (items : List CanonicalItem) (scope : String) :
    Dictionary (String × Nat) Block :=
  ((items.filterMap (reasoningPart superseded)).filter fun part => part.1 = scope).foldl
    (fun blocks part => blocks.setDefault part.2.1 part.2.2) .empty

/-- `list(reasoning.get(scope, {}).values())`. -/
def canonicalBlocks (superseded : List String) (items : List CanonicalItem) (scope : String) :
    List Block :=
  (scopeReasoning superseded items scope).entries.map Prod.snd

/-- `tools`, as pairs of a scope and a call. -/
def scopedCalls : List CanonicalItem → Except MergeError (List (String × String))
  | [] => .ok []
  | item :: items =>
    match item.projectionIdentity.bind ItemProjectionIdentity.modelCallId with
    | none => scopedCalls items
    | some scope =>
      if item.semanticKind = .toolCall then
        match item.normalizedToolCallIds with
        | .error error => .error (.dedup error)
        | .ok calls => (scopedCalls items).map (calls.map (scope, ·) ++ ·)
      else
        scopedCalls items

structure AIMessage (Extra : Type) where
  content : Content
  toolCalls : List Json
  responseMetadata : Fields
  extra : Extra

inductive RawMessage (Extra : Type) where
  | ai (message : AIMessage Extra)
  | other (extra : Extra)

def callId : Json → Option String
  | .obj fields =>
    match Dictionary.lookupEntries "id" fields with
    | some (.str text) => some text
    | _ => none
  | _ => none

def markSkipped (metadata : Fields) (reason : String) : Fields :=
  (metadata.insert "reasoning_merge_status" (.str "skipped_ambiguous_order")).insert
    "reasoning_merge_reason" (.str reason)

variable {Extra : Type}

def mergeMessage (blocks : String → List Block) (calls : List (String × String))
    (message : AIMessage Extra) : Except MergeError (AIMessage Extra) :=
  if message.toolCalls = [] then
    .ok message
  else
    let callIds := message.toolCalls.filterMap callId
    match (message.responseMetadata.get "model_call_id").identifier? with
    | none =>
      if callIds.any fun call => call ∈ calls.map Prod.snd then
        .ok { message with
          responseMetadata := markSkipped message.responseMetadata "model_call_scope_missing" }
      else
        .ok message
    | some scope =>
      if blocks scope = [] ∨ ¬ callIds.any fun call =>
          (scope, providerToolCallId
            (some { modelCallId := some scope
                    block := ItemProjectionIdentity.noBlock scope }) call) ∈ calls then
        .ok message
      else
        let metadata := message.responseMetadata.insert "reasoning_source"
          (.str "canonical_item_stream")
        match mergeContent message.content (blocks scope) scope with
        | .error error => .error error
        | .ok (content, none) =>
          .ok { message with content := content, responseMetadata := metadata }
        | .ok (content, some reason) =>
          .ok { message with
            content := content, responseMetadata := markSkipped metadata reason }

def mergeRawMessage (blocks : String → List Block) (calls : List (String × String)) :
    RawMessage Extra → Except MergeError (RawMessage Extra)
  | .ai message => (mergeMessage blocks calls message).map .ai
  | .other extra => .ok (.other extra)

def mergeMessages (blocks : String → List Block) (calls : List (String × String)) :
    List (RawMessage Extra) → Except MergeError (List (RawMessage Extra))
  | [] => .ok []
  | message :: messages =>
    match mergeRawMessage blocks calls message with
    | .error error => .error error
    | .ok merged => (mergeMessages blocks calls messages).map (merged :: ·)

def mergeCanonicalReasoning (messages : List (RawMessage Extra)) (items : List CanonicalItem) :
    Except MergeError (List (RawMessage Extra)) :=
  match supersededStreamContentItemIds items with
  | .error error => .error (.dedup error)
  | .ok superseded =>
    match scopedCalls items with
    | .error error => .error error
    | .ok calls =>
      if items.filterMap (reasoningPart superseded) = [] then
        .ok messages
      else
        mergeMessages (canonicalBlocks superseded items) calls messages

end GraphAgent.ReasoningMerge
