import GraphAgent.PatchParser
import GraphAgent.StreamBlocks

/-!
# The event loop of an agent

What `process_agent_event_stream` of `event_stream/processor.py` does with the text
of model calls, over the block maps of the message stream.  Summary candidates,
tokens and scopes are left out.  A model call owns the blocks that arrive between
its start and the next one.
-/

namespace GraphAgent.AgentEvents

open StreamBlocks PatchParser

def reasoningTypes : List String :=
  ["reasoning", "reasoning_content", "reasoning_items", "thinking", "redacted_thinking"]

def visibleTypes : List String :=
  ["text", "output_text", "refusal"]

/-- An `AgentStreamContentPart`; the text of reasoning does not reach the final text. -/
inductive Part where
  | reasoning
  | markdown (text : String)

inductive PartError where
  | unknownType (position : Nat)
  | text (position : Nat)
  | id (position : Nat)
  | index (position : Nat)

def identified (position : Nat) (block : ContentBlock) (part : Part) :
    Except PartError (Option Part) :=
  match field block "id" with
  | .str id =>
    if id = "" then .error (.id position)
    else match field block "index" with
      | .int index => if index < 0 then .error (.index position) else .ok (some part)
      | _ => .error (.index position)
  | _ => .error (.id position)

def markdownPart (position : Nat) (block : ContentBlock) (key : String) :
    Except PartError (Option Part) :=
  match field block key with
  | .str text => identified position block (.markdown text)
  | _ => .error (.text position)

/-- `extract_agent_stream_content_parts` of one block. -/
def partOf (position : Nat) (block : ContentBlock) : Except PartError (Option Part) :=
  match field block "type" with
  | .str blockType =>
    if blockType ∈ ["tool_call", "tool_call_chunk"] then .ok none
    else if blockType ∈ reasoningTypes then identified position block .reasoning
    else if blockType ∈ ["text", "output_text"] then markdownPart position block "text"
    else if blockType = "refusal" then markdownPart position block "refusal"
    else .error (.unknownType position)
  | _ => .error (.unknownType position)

/-- `extract_agent_stream_content_parts`, from a position on. -/
def extractParts (position : Nat) : List ContentBlock → Except PartError (List Part)
  | [] => .ok []
  | block :: blocks =>
    (partOf position block).bind fun part =>
      (extractParts (position + 1) blocks).map (part.toList ++ ·)

def setDefault (key : String) (value : Json) (block : ContentBlock) : ContentBlock :=
  match Dictionary.lookupEntries key block with
  | some _ => block
  | none => block ++ [(key, value)]

def endText (fallbackPrefix : String) (index : Nat) (text : String) : ContentBlock :=
  [("type", .str "text"), ("text", .str text),
    ("id", .str (fallbackPrefix ++ ":end-output:text:" ++ toString index)),
    ("index", .int index)]

def normalizeEndBlock (fallbackPrefix : String) (index : Nat) : Json → Option ContentBlock
  | .str text => if text = "" then none else some (endText fallbackPrefix index text)
  | .obj fields =>
    match field fields "type" with
    | .str blockType =>
      if blockType ∈ reasoningTypes ∨ blockType ∈ visibleTypes then
        some (setDefault "index" (.int index)
          (setDefault "id" (.str (fallbackPrefix ++ ":end-output:" ++ toString index)) fields))
      else
        none
    | _ => none
  | _ => none

def normalizeEndOutputContent (modelCallId : String) (content : Json) : List ContentBlock :=
  let fallbackPrefix := if modelCallId = "" then "unbound-model-call" else modelCallId
  match content with
  | .str text => if text = "" then [] else [endText fallbackPrefix 0 text]
  | .arr entries => entries.zipIdx.filterMap fun entry =>
      normalizeEndBlock fallbackPrefix entry.2 entry.1
  | _ => []

inductive LoopError where
  | part (error : PartError)
  | block (error : BlockError)

structure LoopState where
  collectedTextParts : List String
  latestModelVisibleTextSeen : Bool
  latestModelReasoningSeen : Bool
  blocks : BlockState
  committed : List (String × BlockEvent)

/-- An `AIMessageChunk`: its blocks and the number of its tool-call chunks. -/
structure Chunk where
  content : List ContentBlock
  toolCallChunks : Nat

inductive Event where
  | modelStart (modelCallId : String)
  | delta (chunk : Chunk)
  | modelStream (content : List ContentBlock)
  | modelEnd (output : Json)
  | prepareTool
  | toolStart

namespace LoopState

def initial : LoopState :=
  ⟨[], false, false, .start none, []⟩

def modelCallId (state : LoopState) : String :=
  state.blocks.currentModelCallId.getD ""

/-- `record_model_content_parts` of one part. -/
def recordPart (state : LoopState) : Part → LoopState
  | .reasoning => { state with latestModelReasoningSeen := true }
  | .markdown text =>
    if text ≠ "" ∧ (strip text.toList ≠ [] ∨ state.collectedTextParts ≠ []) then
      { state with
        latestModelVisibleTextSeen := true
        collectedTextParts := state.collectedTextParts ++ [text] }
    else
      state

def recordModelContentParts (state : LoopState) (parts : List Part) : LoopState :=
  parts.foldl recordPart state

def recordContent (state : LoopState) (content : List ContentBlock) :
    Except LoopError LoopState :=
  match extractParts 0 content with
  | .error error => .error (.part error)
  | .ok parts => .ok (state.recordModelContentParts parts)

def commit (state : LoopState) (result : Except BlockError (BlockState × List BlockEvent)) :
    Except LoopError LoopState :=
  match result with
  | .error error => .error (.block error)
  | .ok (blocks, events) =>
    .ok { state with
      blocks := blocks
      committed := state.committed ++ events.map (state.modelCallId, ·) }

def acceptBlocks (state : LoopState) : List ContentBlock → Except LoopError LoopState
  | [] => .ok state
  | block :: blocks =>
    (state.commit (acceptContentBlock state.modelCallId state.blocks block)).bind
      (acceptBlocks · blocks)

def acceptToolCallChunks (state : LoopState) : Nat → Except LoopError LoopState
  | 0 => .ok state
  | count + 1 => (state.commit (acceptToolCall state.blocks)).bind (acceptToolCallChunks · count)

def acceptMessageChunk (state : LoopState) (chunk : Chunk) : Except LoopError LoopState :=
  (state.acceptBlocks chunk.content).bind (acceptToolCallChunks · chunk.toolCallChunks)

def finishModel (state : LoopState) : Except LoopError LoopState :=
  state.commit (StreamBlocks.finishModel "upstream_completed" false state.blocks)

/-- `start_model` after the flags of the previous call are cleared. -/
def startModel (state : LoopState) (modelCallId : String) : Except LoopError LoopState :=
  let finished := if state.blocks.currentModelCallId.isNone then .ok state else state.finishModel
  finished.map fun state =>
    { state with
      latestModelVisibleTextSeen := false
      latestModelReasoningSeen := false
      blocks := .start (some modelCallId) }

/-- `model_call_has_carrier` of the carriers of reasoning. -/
def hasReasoning (state : LoopState) : Bool :=
  state.blocks.metadata.entries.any fun entry => decide (entry.2.2 ∈ reasoningTypes)

def endOutputBlocks (state : LoopState) (output : Json) : List ContentBlock :=
  let blocks := normalizeEndOutputContent state.modelCallId output
  if state.latestModelReasoningSeen || state.hasReasoning then
    blocks.filter fun block =>
      match field block "type" with
      | .str blockType => decide (blockType ∈ visibleTypes)
      | _ => false
  else
    blocks

def supplyText (state : LoopState) (output : Json) : Except LoopError LoopState :=
  let canonicalVisibleText := visibleText state.modelCallId state.blocks
  if canonicalVisibleText ≠ "" then
    .ok (state.recordPart (.markdown canonicalVisibleText))
  else
    let blocks := state.endOutputBlocks output
    (state.acceptBlocks blocks).bind (recordContent · blocks)

def endModel (state : LoopState) (output : Json) : Except LoopError LoopState :=
  (if state.latestModelVisibleTextSeen then .ok state else state.supplyText output).bind
    finishModel

def step (state : LoopState) : Event → Except LoopError LoopState
  | .modelStart modelCallId => state.startModel modelCallId
  | .delta chunk => state.acceptMessageChunk chunk
  | .modelStream content => state.recordContent content
  | .modelEnd output => state.endModel output
  | .prepareTool => state.finishModel
  | .toolStart => .ok { state with collectedTextParts := [] }

def run (state : LoopState) : List Event → Except LoopError LoopState
  | [] => .ok state
  | event :: events => (state.step event).bind (run · events)

def finalText (state : LoopState) : List Char :=
  strip (String.join state.collectedTextParts).toList

end LoopState

end GraphAgent.AgentEvents
