import GraphAgent.PythonValues

/-!
# Tool-call chunks

`_accept_tool_call_chunk` of
`app/services/orchestration/stream_block_assembler.py`: the chunks of tool calls
are assigned to canonical calls by their id and index, and their arguments are
put together.  `json.loads` stays a parameter.
-/

namespace GraphAgent.ToolCallChunks

/-- The fields of a chunk; a missing one reads as `None`. -/
structure ToolCallChunk where
  id : Json
  index : Json
  name : Json
  args : Json

/-- The maps of the assembler that hold tool calls. -/
structure Registry where
  currentModelCallId : Option String
  idsByIndex : Dictionary (Option String × Nat) String
  indexesById : Dictionary String Nat
  providerIdsById : Dictionary String String
  idsByProviderKey : Dictionary (Option String × String) String
  modelCallIds : Dictionary String (Option String)
  order : List String
  namesById : Dictionary String String
  arguments : Dictionary String String
  argumentsById : Dictionary String Json
  argumentsComplete : Dictionary String Bool
  invocationIds : Dictionary String String

/-- The payload of `tool_call.delta` with its invocation. -/
structure ToolCallDelta where
  toolCallId : String
  toolName : String
  arguments : Json
  argumentsComplete : Bool
  toolInvocationId : String

inductive ChunkError where
  | index
  | key (key : String)

/-- The maps before the first chunk. -/
def Registry.empty : Registry :=
  ⟨none, .empty, .empty, .empty, .empty, .empty, [], .empty, .empty, .empty, .empty, .empty⟩

/-- `model_call_id or current_model_call_id`. -/
def Registry.effective (registry : Registry) (modelCallId : Option String) : Option String :=
  match modelCallId with
  | none | some "" => registry.currentModelCallId
  | some modelCallId => some modelCallId

def fallbackBlockId (currentModelCallId : Option String) (carrierType : String) (index : Nat) :
    String :=
  let modelCallId := (currentModelCallId.filter (· ≠ "")).getD "unknown-model-call"
  modelCallId ++ ":" ++ carrierType ++ ":" ++ toString index

def scopedToolCallId (modelCallId : Option String) (providerToolCallId : String) : String :=
  (modelCallId.filter (· ≠ "")).getD "unbound-model-call" ++ ":tool-call:" ++ providerToolCallId

/-- `_next_tool_call_index`: the first index that is not in the map. -/
def nextToolCallIndex (registry : Registry) (modelCallId : Option String) : Nat :=
  ((List.range (registry.idsByIndex.entries.length + 1)).find? fun index =>
    !registry.idsByIndex.has (modelCallId, index)).getD registry.idsByIndex.entries.length

def chunkIndex (chunk : ToolCallChunk) : Except ChunkError (Option Nat) :=
  match chunk.index with
  | .null => .ok none
  | .int index => if 0 ≤ index then .ok (some index.toNat) else .error .index
  | _ => .error .index

structure Resolution where
  toolCallId : String
  toolIndex : Nat
  providerToolCallId : Option String

def newCall (registry : Registry) (scope : Option String) (provider : Option String)
    (toolIndex : Nat) : Resolution :=
  let providerId := provider.getD
    (fallbackBlockId registry.currentModelCallId "tool_call" toolIndex)
  ⟨scopedToolCallId scope providerId, toolIndex, some providerId⟩

def registeredIndex (registry : Registry) (toolCallId : String) : Except ChunkError Nat :=
  match registry.indexesById.lookup toolCallId with
  | some index => .ok index
  | none => .error (.key toolCallId)

/-- The part of `_accept_tool_call_chunk` that decides on the call. -/
def resolve (registry : Registry) (scope : Option String) (provider : Option String)
    (index : Option Nat) : Except ChunkError Resolution :=
  match provider.bind fun provider => registry.idsByProviderKey.lookup (scope, provider) with
  | some existing =>
    (registeredIndex registry existing).map fun toolIndex => ⟨existing, toolIndex, provider⟩
  | none =>
    match registry.idsByIndex.lookup (scope, index.getD 0), provider with
    | none, provider => .ok (newCall registry scope provider (index.getD 0))
    | some _, some provider =>
      -- another id under the same index is another call
      .ok (newCall registry scope (some provider) (nextToolCallIndex registry scope))
    | some existing, none =>
      (registeredIndex registry existing).map fun toolIndex => ⟨existing, toolIndex, none⟩

/-- `_tool_invocation_id_for`, without the registration. -/
def invocationIdFor (registry : Registry) (toolCallId : String) (modelCallId : Option String) :
    String :=
  match registry.invocationIds.lookup toolCallId with
  | some existing => existing
  | none =>
    let owner := match registry.modelCallIds.lookup toolCallId with
      | some owner => owner
      | none => registry.effective modelCallId
    "tool-invocation:" ++ owner.getD "unknown-model-call" ++ ":" ++
      (registry.providerIdsById.lookup toolCallId).getD toolCallId

section Accept

variable (loads : String → Option Json)

def parseArguments (text : String) (rawArgs : Json) : Json × Bool :=
  if text ≠ "" then
    match loads text with
    | some (.obj fields) => (.obj fields, true)
    | _ => (.obj [("raw", .str text)], false)
  else
    match rawArgs with
    | .obj fields => (.obj fields, true)
    | _ => (.obj [], false)

def registerCall (registry : Registry) (scope modelCallId : Option String)
    (resolution : Resolution) : Registry :=
  let toolCallId := resolution.toolCallId
  let indexed := { registry with
    idsByIndex := registry.idsByIndex.insert (scope, resolution.toolIndex) toolCallId
    indexesById := registry.indexesById.insert toolCallId resolution.toolIndex }
  let named := match resolution.providerToolCallId with
    | none => indexed
    | some provider => { indexed with
        providerIdsById := indexed.providerIdsById.insert toolCallId provider
        idsByProviderKey := indexed.idsByProviderKey.insert (scope, provider) toolCallId }
  { named with
    modelCallIds := named.modelCallIds.setDefault toolCallId (named.effective modelCallId)
    order := if toolCallId ∈ named.order then named.order else named.order ++ [toolCallId] }

def addArguments (registry : Registry) (chunk : ToolCallChunk) (toolCallId : String) : Registry :=
  let arguments := match chunk.args with
    | .str text =>
      registry.arguments.insert toolCallId
        ((registry.arguments.lookup toolCallId).getD "" ++ text)
    | _ => registry.arguments
  let parsed := parseArguments loads ((arguments.lookup toolCallId).getD "") chunk.args
  { registry with
    namesById := match chunk.name.identifier? with
      | some name => registry.namesById.insert toolCallId name
      | none => registry.namesById
    arguments := arguments
    argumentsById := registry.argumentsById.insert toolCallId parsed.1
    argumentsComplete := registry.argumentsComplete.insert toolCallId parsed.2 }

def acceptToolCallChunk (registry : Registry) (chunk : ToolCallChunk)
    (modelCallId : Option String) : Except ChunkError (Registry × ToolCallDelta) :=
  (chunkIndex chunk).bind fun index =>
    let scope := registry.effective modelCallId
    (resolve registry scope chunk.id.identifier? index).map fun resolution =>
      let toolCallId := resolution.toolCallId
      let accumulated := addArguments loads (registerCall registry scope modelCallId resolution)
        chunk toolCallId
      let invocationId := invocationIdFor accumulated toolCallId scope
      ({ accumulated with
          invocationIds := accumulated.invocationIds.insert toolCallId invocationId },
        { toolCallId := toolCallId
          toolName := (accumulated.namesById.lookup toolCallId).getD ""
          arguments := (accumulated.argumentsById.lookup toolCallId).getD (.obj [])
          argumentsComplete := (accumulated.argumentsComplete.lookup toolCallId).getD false
          toolInvocationId := invocationId })

end Accept

end GraphAgent.ToolCallChunks
