import GraphAgent.PythonValues

/-!
# Content blocks of a model call

`_accept_content_block`, `_close_block`, `visible_text_for_model_call` and the
closing part of `_finish_model` of `app/services/orchestration`.  The writer
commits every event, and one model call owns all blocks.
-/

namespace GraphAgent.StreamBlocks

abbrev ContentBlock := List (String × Json)

/-- `block.get(key)`. -/
def field (block : ContentBlock) (key : String) : Json :=
  (Dictionary.lookupEntries key block).getD .null

inductive BlockError where
  | index
  | type
  | id
  | key (blockId : String)

/-- What a delta does. -/
inductive Operation where
  | itemUpsert (item : List (String × Json))
  | redacted
  | append (text : String)

inductive EventKind where
  | started
  | delta (localSeq : Option Nat) (operation : Operation)
  | completed (completionReason : String) (isPartial : Bool)

structure BlockEvent where
  blockId : String
  blockIndex : Nat
  carrierType : String
  kind : EventKind

structure BlockState where
  currentModelCallId : Option String
  /-- `_active_block_ids`. -/
  active : List String
  /-- `_active_block_order`. -/
  order : List String
  metadata : Dictionary String (Nat × String)
  localSeq : Dictionary String Nat
  normalizedText : Dictionary String String
  normalizedModelCallIds : Dictionary String String

def BlockState.start (currentModelCallId : Option String) : BlockState :=
  ⟨currentModelCallId, [], [], .empty, .empty, .empty, .empty⟩

/-- `block.index`, if there is one. -/
def blockIndex? (block : ContentBlock) : Except BlockError (Option Nat) :=
  match field block "index" with
  | .null => .ok none
  | .int index => if 0 ≤ index then .ok (some index.toNat) else .error .index
  | _ => .error .index

/-- `block.get("type", "text")`. -/
def carrierType (block : ContentBlock) : Except BlockError String :=
  match Dictionary.lookupEntries "type" block with
  | none => .ok "text"
  | some (.str text) => if text = "" then .error .type else .ok text
  | some _ => .error .type

def providerId? (block : ContentBlock) : Except BlockError (Option String) :=
  match field block "id" with
  | .null => .ok none
  | .str text => if text = "" then .error .id else .ok (some text)
  | _ => .error .id

inductive Identity where
  | named (id : String)
  | unnamed (carrierType : String) (index : Option Nat)
  deriving DecidableEq

structure Header where
  index : Option Nat
  carrierType : String
  id : Option String

def Header.identity (header : Header) : Identity :=
  match header.id with
  | some id => .named id
  | none => .unnamed header.carrierType header.index

def readHeader (block : ContentBlock) : Except BlockError Header := do
  let index ← blockIndex? block
  let carrier ← carrierType block
  let id ← providerId? block
  return ⟨index, carrier, id⟩

def fallbackBlockId (currentModelCallId : Option String) (carrierType : String) (index : Nat) :
    String :=
  (currentModelCallId.filter (· ≠ "")).getD "unknown-model-call" ++ ":" ++ carrierType ++ ":" ++
    toString index

def resolvedIndex (state : BlockState) (header : Header) : Nat :=
  header.index.getD state.order.length

/-- `_scoped_block_id` of the provider id or its fallback. -/
def scopedBlockId (modelCallId : String) (state : BlockState) (header : Header) : String :=
  modelCallId ++ ":block:" ++ header.id.getD
    (fallbackBlockId state.currentModelCallId header.carrierType (resolvedIndex state header))

def publicBlockId (modelCallId : String) (state : BlockState) (header : Header) : String :=
  let blockId := scopedBlockId modelCallId state header
  if state.metadata.has blockId then
    blockId ++ ":segment:" ++ toString state.metadata.entries.length
  else
    blockId

/-- `extract_reasoning_summary` of a list. -/
def reasoningSummary (entries : List Json) : String :=
  String.join (entries.filterMap fun entry =>
    match entry with
    | .str text => some text
    | .obj fields => (field fields "text").text?
    | _ => none)

def blockText (carrierType : String) (block : ContentBlock) : Option String :=
  let own := (field block "text").text?
  let nested := match field block "content" with
    | .arr entries => if carrierType = "reasoning" then some (reasoningSummary entries) else none
    | _ => none
  let other := ["reasoning_content", "reasoning", "thinking"].findSome? fun key =>
    (field block key).text?
  (own.or nested).or other

def operations (carrierType : String) (block : ContentBlock) : List Operation :=
  if carrierType = "reasoning_items" then
    match field block "reasoning_items" with
    | .arr items => items.filterMap fun item =>
      match item with
      | .obj fields => some (.itemUpsert fields)
      | _ => none
    | _ => []
  else if carrierType = "redacted_thinking" then
    [.redacted]
  else
    match blockText carrierType block with
    | some text => if text = "" then [] else [.append text]
    | none => []

def closeBlock (state : BlockState) (blockId completionReason : String) (isPartial : Bool) :
    Except BlockError (BlockState × BlockEvent) :=
  match state.metadata.lookup blockId with
  | none => .error (.key blockId)
  | some (index, carrier) =>
    .ok ({ state with active := state.active.filter (· ≠ blockId) },
      ⟨blockId, index, carrier, .completed completionReason isPartial⟩)

def closeBlocks (completionReason : String) (isPartial : Bool) (state : BlockState) :
    List String → Except BlockError (BlockState × List BlockEvent)
  | [] => .ok (state, [])
  | blockId :: blockIds => do
      let (closed, event) ← closeBlock state blockId completionReason isPartial
      let (rest, events) ← closeBlocks completionReason isPartial closed blockIds
      return (rest, event :: events)

def openBlock (modelCallId : String) (state : BlockState) (header : Header) :
    BlockState × BlockEvent :=
  let blockId := publicBlockId modelCallId state header
  let index := resolvedIndex state header
  ({ state with
      active := state.active ++ [blockId]
      order := state.order ++ [blockId]
      metadata := state.metadata.insert blockId (index, header.carrierType)
      localSeq := state.localSeq.insert blockId 0 },
    ⟨blockId, index, header.carrierType, .started⟩)

def emitDelta (modelCallId blockId : String) (index : Nat) (carrier : String)
    (state : BlockState) (operation : Operation) : BlockState × BlockEvent :=
  match operation with
  | .redacted => (state, ⟨blockId, index, carrier, .delta none .redacted⟩)
  | operation =>
    let next := (state.localSeq.lookup blockId).getD 0
    let numbered := { state with localSeq := state.localSeq.insert blockId (next + 1) }
    let event : BlockEvent := ⟨blockId, index, carrier, .delta (some next) operation⟩
    match operation with
    | .append text =>
      if carrier ∈ ["text", "output_text", "refusal"] then
        ({ numbered with
            normalizedText := numbered.normalizedText.insert blockId
              ((numbered.normalizedText.lookup blockId).getD "" ++ text)
            normalizedModelCallIds :=
              numbered.normalizedModelCallIds.insert blockId modelCallId }, event)
      else
        (numbered, event)
    | _ => (numbered, event)

def emitDeltas (modelCallId blockId : String) (index : Nat) (carrier : String)
    (state : BlockState) : List Operation → BlockState × List BlockEvent
  | [] => (state, [])
  | operation :: operations =>
    let (next, event) := emitDelta modelCallId blockId index carrier state operation
    let (rest, events) := emitDeltas modelCallId blockId index carrier next operations
    (rest, event :: events)

def acceptContentBlock (modelCallId : String) (state : BlockState) (block : ContentBlock) :
    Except BlockError (BlockState × List BlockEvent) :=
  (readHeader block).bind fun header =>
    let scopedId := scopedBlockId modelCallId state header
    let index := resolvedIndex state header
    if scopedId ∈ state.active then
      .ok (emitDeltas modelCallId scopedId index header.carrierType state
        (operations header.carrierType block))
    else
      (closeBlocks "carrier_switched" false state state.active).bind fun (closed, completed) =>
        let (opened, started) := openBlock modelCallId closed header
        let (after, deltas) := emitDeltas modelCallId started.blockId index header.carrierType
          opened (operations header.carrierType block)
        .ok (after, completed ++ started :: deltas)

def acceptToolCall (state : BlockState) : Except BlockError (BlockState × List BlockEvent) :=
  closeBlocks "carrier_switched" false state state.active

/-- The effect of `_finish_model` on the blocks of its model call. -/
def finishModel (completionReason : String) (isPartial : Bool) (state : BlockState) :
    Except BlockError (BlockState × List BlockEvent) :=
  (closeBlocks completionReason isPartial state state.active).map fun (closed, events) =>
    ({ closed with
        active := []
        order := []
        metadata := .empty
        localSeq := .empty }, events)

/-- `visible_text_for_model_call`. -/
def visibleText (modelCallId : String) (state : BlockState) : String :=
  String.join (state.order.filterMap fun blockId =>
    if state.normalizedModelCallIds.lookup blockId = some modelCallId then
      state.normalizedText.lookup blockId
    else
      none)

end GraphAgent.StreamBlocks
