import GraphAgent.MessagePatches

/-!
# Pending messages by reference

`reference_message_write` and `restore_message_write` of
`app/services/infrastructure/rollout_context/checkpoint/codec/pending_messages.py`.
A message whose body is in the canonical store is written as a reference and a
patch.  The message classes and their dictionary form are those of a library.
-/

namespace GraphAgent.PendingMessages

open Dictionary

/-- `fields.get(key)`. -/
def get (fields : List (String × Json)) (key : String) : Json :=
  (lookupEntries key fields).getD .null

structure MessageFormat (Message : Type) where
  /-- `message.type`. -/
  kind : Message → String
  /-- `message.model_dump()`. -/
  data : Message → JsonObject
  /-- `message.id`. -/
  id : Message → Json
  /-- `isinstance(message, RemoveMessage)`. -/
  isRemove : Message → Bool
  /-- `messages_from_dict([value])[0]`. -/
  fromDict : Json → Except CodecError Message

inductive WriteValue (Message : Type) where
  | none
  | message (value : Message)
  | list (items : List (WriteValue Message))
  | tuple (items : List (WriteValue Message))
  | overwrite (value : WriteValue Message)
  | other

def bodyFields : List String :=
  ["id", "content", "tool_calls", "invalid_tool_calls", "artifact", "tool_call_id"]

def sameBody (first second : List (String × Json)) : Bool :=
  bodyFields.all fun key => (get first key).sameValue (get second key)

/-- `set(fields) == set(names)`. -/
def hasKeys (names : List String) (fields : List (String × Json)) : Bool :=
  names.all (fun name => (lookupEntries name fields).isSome) &&
    fields.all fun field => names.contains field.1

variable {Message : Type} (format : MessageFormat Message)

namespace MessageFormat

/-- `message_to_dict(message)`. -/
def toDict (message : Message) : List (String × Json) :=
  [("type", .str (format.kind message)), ("data", .obj (format.data message).fields)]

theorem toDict_proper (message : Message) :
    (Json.obj (format.toDict message)).proper = true := by
  simp [toDict, Json.proper, Json.properFields, Json.proper_obj.mp (format.data message).proper]

def same (first second : Message) : Bool :=
  (format.isRemove first == format.isRemove second) &&
    (Json.obj (format.toDict first)).sameTyped (.obj (format.toDict second))

end MessageFormat

section Reference

-- The reference and the canonical dictionary of a message, where there is one.
variable (locate : Message → Option (JsonObject × JsonObject))

/-- The part of `reference_message_write` for a message that is not a removal. -/
def referenceMessage (message : Message) : Option Json :=
  match (format.id message).identifier?, locate message with
  | some _, some (reference, canonical) =>
    match get canonical.fields "data" with
    | .obj canonicalData =>
      if (Json.str (format.kind message)).sameValue (get canonical.fields "type") &&
          sameBody (format.data message).fields canonicalData then
        some (.obj [("kind", .str "message"), ("reference", .obj reference.fields),
          ("patch", difference (format.toDict message) canonical.fields)])
      else
        none
    | _ => none
  | _, _ => none

mutual

def referenceMessageWrite : WriteValue Message → Option Json
  | .overwrite value =>
    (referenceMessageWrite value).map fun child =>
      .obj [("kind", .str "overwrite"), ("value", child)]
  | .none => some (.obj [("kind", .str "none")])
  | .list items =>
    (referenceAll items).map fun children =>
      .obj [("kind", .str "list"), ("values", .arr children)]
  | .tuple items =>
    (referenceAll items).map fun children =>
      .obj [("kind", .str "tuple"), ("values", .arr children)]
  | .message message =>
    if format.isRemove message then
      some (.obj [("kind", .str "remove"), ("value", .obj (format.toDict message))])
    else
      referenceMessage format locate message
  | .other => none

def referenceAll : List (WriteValue Message) → Option (List Json)
  | [] => some []
  | item :: items =>
    match referenceMessageWrite item, referenceAll items with
    | some child, some children => some (child :: children)
    | _, _ => none

end

end Reference

section Restore

-- `repr(value)`.
variable (repr : Json → String)

-- The canonical dictionary behind a reference.
variable (read : Json → Except CodecError JsonObject)

def malformedDescriptor (kind : Json) : CodecError :=
  .value ("pending message 引用结构非法: " ++ repr kind)

/-- `isinstance(value, dict)`. -/
def isObject : Json → Bool
  | .obj _ => true
  | _ => false

/-- The branch of a removal. -/
def restoreRemove (fields : List (String × Json)) : Except CodecError (WriteValue Message) :=
  match get fields "value" with
  | .obj value =>
    (format.fromDict (.obj value)).bind fun message =>
      if format.isRemove message then
        .ok (.message message)
      else
        .error (.value "pending message remove 控制记录非法")
  | _ => .error (malformedDescriptor repr (get fields "kind"))

def restoreMessage (fields : List (String × Json)) : Except CodecError (WriteValue Message) :=
  match get fields "reference", get fields "patch" with
  | .obj reference, .obj patch =>
    (read (.obj reference)).bind fun canonical =>
      (applyDifference canonical.fields (.obj patch)).bind fun original =>
        match get original "data", get canonical.fields "data" with
        | .obj originalData, .obj canonicalData =>
          if (get original "type").sameValue (get canonical.fields "type") &&
              sameBody originalData canonicalData then
            (format.fromDict (.obj original)).map .message
          else
            .error (.value "pending message patch 不得改写 canonical 正文")
        | _, _ => .error (.value "pending message patch 不得改写 canonical 正文")
  | _, _ => .error (malformedDescriptor repr (get fields "kind"))

mutual

def restoreMessageWrite : Json → Except CodecError (WriteValue Message)
  | .obj fields =>
    let kind := get fields "kind"
    if kind.text? = some "none" ∧ hasKeys ["kind"] fields then
      .ok .none
    else if !kind.hashable then
      .error (.type "unhashable type")
    else if (kind.text? = some "list" ∨ kind.text? = some "tuple") ∧
        hasKeys ["kind", "values"] fields then
      match restoreValues fields with
      | some values => values.map (if kind.text? = some "tuple" then .tuple else .list)
      | none => .error (malformedDescriptor repr kind)
    else if kind.text? = some "overwrite" ∧ hasKeys ["kind", "value"] fields then
      match restoreValue fields with
      | some value => value.map .overwrite
      | none => .error (malformedDescriptor repr kind)
    else if kind.text? = some "remove" ∧ hasKeys ["kind", "value"] fields then
      restoreRemove format repr fields
    else if kind.text? = some "message" ∧ hasKeys ["kind", "reference", "patch"] fields then
      restoreMessage format repr read fields
    else
      .error (malformedDescriptor repr kind)
  | _ => .error (.type "descriptor")

/-- The children in `descriptor["values"]`, where it is a list. -/
def restoreValues : List (String × Json) → Option (Except CodecError (List (WriteValue Message)))
  | [] => none
  | (key, value) :: fields =>
    if key = "values" then
      match value with
      | .arr children =>
        if children.all isObject then some (restoreAll children)
        else some (.error (.value "pending message batch 引用非法"))
      | _ => none
    else
      restoreValues fields

/-- The child in `descriptor["value"]`, where it is a dictionary. -/
def restoreValue : List (String × Json) → Option (Except CodecError (WriteValue Message))
  | [] => none
  | (key, value) :: fields =>
    if key = "value" then
      if isObject value then some (restoreMessageWrite value) else none
    else
      restoreValue fields

def restoreAll : List Json → Except CodecError (List (WriteValue Message))
  | [] => .ok []
  | child :: children =>
    (restoreMessageWrite child).bind fun value =>
      (restoreAll children).map fun values => value :: values

end

end Restore

end GraphAgent.PendingMessages
