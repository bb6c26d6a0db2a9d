import GraphAgent.PendingMessages

/-!
# Restoring pending messages

A descriptor always restores a value that is equal to the original under `==`.
It has the types of the original exactly where the canonical dictionaries agree
with the messages in theirs.
-/

namespace GraphAgent.PendingMessages

open Dictionary

namespace WriteValue

variable {Message : Type} (format : MessageFormat Message)

mutual

def messages : WriteValue Message → List Message
  | .none => []
  | .message carried => if format.isRemove carried then [] else [carried]
  | .list items => allMessages items
  | .tuple items => allMessages items
  | .overwrite value => messages value
  | .other => []

def allMessages : List (WriteValue Message) → List Message
  | [] => []
  | item :: items => messages item ++ allMessages items

end

mutual

def same : WriteValue Message → WriteValue Message → Bool
  | .none, second =>
    match second with
    | .none => true
    | _ => false
  | .message first, second =>
    match second with
    | .message held => format.same first held
    | _ => false
  | .list items, second =>
    match second with
    | .list others => sameAll items others
    | _ => false
  | .tuple items, second =>
    match second with
    | .tuple others => sameAll items others
    | _ => false
  | .overwrite first, second =>
    match second with
    | .overwrite held => same first held
    | _ => false
  | .other, second =>
    match second with
    | .other => true
    | _ => false

def sameAll : List (WriteValue Message) → List (WriteValue Message) → Bool
  | [], others => others.isEmpty
  | item :: items, others =>
    match others with
    | [] => false
    | held :: rest => same item held && sameAll items rest

end

end WriteValue

section Restoring

variable {Message : Type} (format : MessageFormat Message)
variable (locate : Message → Option (JsonObject × JsonObject))
variable (repr : Json → String) (read : Json → Except CodecError JsonObject)

def RoundTrips : Prop :=
  ∀ message value, value.proper = true →
    (Json.obj (format.toDict message)).sameTyped value = true →
    ∃ made, format.fromDict value = .ok made ∧ format.same message made = true

def KeepsTypes : Prop :=
  ∀ message made value, value.proper = true →
    (Json.obj (format.toDict message)).sameValue value = true →
    format.fromDict value = .ok made → format.same message made = true →
    (Json.obj (format.toDict message)).sameTyped value = true

def Reads : Prop :=
  ∀ message reference canonical, locate message = some (reference, canonical) →
    read (.obj reference.fields) = .ok canonical

def Restores (descriptor : Json) (write : WriteValue Message) : Prop :=
  ∃ restored, restoreMessageWrite format repr read descriptor = .ok restored ∧
    write.same format restored = true

def Faithful (message : Message) : Prop :=
  ∀ reference canonical, locate message = some (reference, canonical) →
    fieldTypesAgree canonical.fields (format.toDict message) = true

variable {format locate repr read}
variable {message : Message} {descriptor : Json}

theorem restoreMessageWrite_message {reference patch : Json} :
    restoreMessageWrite format repr read (.obj [("kind", .str "message"),
      ("reference", reference), ("patch", patch)]) =
      restoreMessage format repr read [("kind", .str "message"),
        ("reference", reference), ("patch", patch)] := by
  rw [restoreMessageWrite]
  simp [get, lookupEntries, Json.text?, Json.hashable, hasKeys]

theorem restoreMessageWrite_remove {value : Json} :
    restoreMessageWrite format repr read (.obj [("kind", .str "remove"), ("value", value)]) =
      restoreRemove format repr [("kind", .str "remove"), ("value", value)] := by
  rw [restoreMessageWrite]
  simp [get, lookupEntries, Json.text?, Json.hashable, hasKeys]

theorem restoreMessageWrite_overwrite {fields : List (String × Json)} :
    restoreMessageWrite format repr read
        (.obj [("kind", .str "overwrite"), ("value", .obj fields)]) =
      (restoreMessageWrite format repr read (.obj fields)).map .overwrite := by
  rw [restoreMessageWrite]
  simp [get, lookupEntries, Json.text?, Json.hashable, hasKeys, restoreValue, isObject]

theorem restoreMessageWrite_none :
    restoreMessageWrite format repr read (.obj [("kind", .str "none")]) = .ok .none := by
  rw [restoreMessageWrite]
  simp [get, lookupEntries, Json.text?, hasKeys]

theorem restoreMessageWrite_list {children : List Json}
    (objects : children.all isObject = true) :
    restoreMessageWrite format repr read
        (.obj [("kind", .str "list"), ("values", .arr children)]) =
      (restoreAll format repr read children).map .list := by
  rw [restoreMessageWrite]
  simp [get, lookupEntries, Json.text?, Json.hashable, hasKeys, restoreValues, objects]

theorem restoreMessageWrite_tuple {children : List Json}
    (objects : children.all isObject = true) :
    restoreMessageWrite format repr read
        (.obj [("kind", .str "tuple"), ("values", .arr children)]) =
      (restoreAll format repr read children).map .tuple := by
  rw [restoreMessageWrite]
  simp [get, lookupEntries, Json.text?, Json.hashable, hasKeys, restoreValues, objects]

theorem get_proper {fields : List (String × Json)} (isProper : (Json.obj fields).proper = true)
    (key : String) : (get fields key).proper = true := by
  rw [get]
  cases found : lookupEntries key fields with
  | none => rfl
  | some value => exact Json.proper_of_lookup isProper found

theorem sameValue_self {value : Json} (isProper : value.proper = true) :
    value.sameValue value = true :=
  Json.sameValue_of_sameTyped _ _ (Json.sameTyped_self value isProper)

theorem eq_null_of_sameValue {value : Json} (same : value.sameValue .null = true) :
    value = .null := by
  cases value with
  | null => rfl
  | bool | int | float | str | arr | obj => cases same

theorem sameBody_of_keepsEqual {fields others made : List (String × Json)}
    (othersProper : (Json.obj others).proper = true) (kept : KeepsEqual fields others made)
    (body : sameBody fields others = true) : sameBody made others = true := by
  rw [sameBody, List.all_eq_true] at body ⊢
  intro key member
  have equal := body key member
  have here := kept key
  have canonicalProper := get_proper othersProper key
  simp only [get] at equal canonicalProper ⊢
  cases found : lookupEntries key fields with
  | none =>
    simp only [found, Option.getD_none] at equal here
    rw [here]
    exact equal
  | some value =>
    simp only [found, Option.getD_some] at equal here
    cases present : lookupEntries key others with
    | some other =>
      simp only [present, Option.getD_some] at equal here canonicalProper ⊢
      rw [here equal]
      exact sameValue_self canonicalProper
    | none =>
      simp only [present, Option.getD_none] at equal here ⊢
      obtain ⟨restored, madeFound, same⟩ := here
      rw [eq_null_of_sameValue equal] at same
      rw [madeFound]
      cases restored with
      | null => rfl
      | bool | int | float | str | arr | obj => cases same

structure Referenced (message : Message) (reference canonical : JsonObject)
    (canonicalData : List (String × Json)) : Prop where
  located : locate message = some (reference, canonical)
  data : lookupEntries "data" canonical.fields = some (.obj canonicalData)
  kind : lookupEntries "type" canonical.fields = some (.str (format.kind message))
  body : sameBody (format.data message).fields canonicalData = true

theorem referenceMessage_some (made : referenceMessage format locate message = some descriptor) :
    ∃ reference canonical canonicalData,
      @Referenced _ format locate message reference canonical canonicalData ∧
      descriptor = .obj [("kind", .str "message"), ("reference", .obj reference.fields),
        ("patch", difference (format.toDict message) canonical.fields)] := by
  unfold referenceMessage at made
  split at made
  · rename_i reference canonical identified located
    split at made
    · rename_i canonicalData found
      split at made
      · rename_i checks
        rw [Bool.and_eq_true] at checks
        refine ⟨reference, canonical, canonicalData, ⟨located, ?_, ?_, checks.2⟩,
          (Option.some.inj made).symm⟩
        · rw [get] at found
          cases present : lookupEntries "data" canonical.fields <;> simp_all
        · have kind := checks.1
          rw [get] at kind
          cases present : lookupEntries "type" canonical.fields with
          | none => simp [present, Json.sameValue] at kind
          | some value =>
            simp only [present, Option.getD_some] at kind
            cases value with
            | str text =>
              simp only [Json.sameValue, beq_iff_eq] at kind
              rw [kind]
            | null | bool | int | float | arr | obj => cases kind
      · cases made
    · cases made
  · cases made

theorem restores_dictionary {reference canonical : JsonObject}
    {canonicalData : List (String × Json)}
    (reads : Reads locate read)
    (referenced : @Referenced _ format locate message reference canonical canonicalData) :
    ∃ result,
      restoreMessageWrite format repr read (.obj [("kind", .str "message"),
          ("reference", .obj reference.fields),
          ("patch", difference (format.toDict message) canonical.fields)]) =
        (format.fromDict (.obj result)).map .message ∧
      (Json.obj result).proper = true ∧
      (Json.obj (format.toDict message)).sameValue (.obj result) = true ∧
      ((Json.obj (format.toDict message)).sameTyped (.obj result) = true ↔
        fieldTypesAgree canonical.fields (format.toDict message) = true) := by
  have originalProper := format.toDict_proper message
  obtain ⟨before, result, applied, resultProper, restored, gone⟩ :=
    applyDifference_difference originalProper canonical.proper
  refine ⟨result, ?_, resultProper,
    sameValue_of_restored originalProper resultProper restored gone,
    sameTyped_of_restored originalProper resultProper restored gone⟩
  have kind : lookupEntries "type" result = some (.str (format.kind message)) := by
    obtain ⟨made, found, field⟩ := restored "type"
    rw [found, field.kept _ referenced.kind (by simp [Json.sameValue])]
  have data : ∃ made, lookupEntries "data" result = some (.obj made) ∧
      sameBody made canonicalData = true := by
    have canonicalProper := Json.proper_of_lookup canonical.proper referenced.data
    obtain ⟨made, found, field⟩ := restored "data"
    cases same : (Json.obj (format.data message).fields).sameValue (.obj canonicalData) with
    | true =>
      rw [field.kept _ referenced.data same] at found
      refine ⟨canonicalData, found, ?_⟩
      rw [sameBody, List.all_eq_true]
      exact fun key _ => sameValue_self (get_proper canonicalProper key)
    | false =>
      obtain ⟨inner, rfl, kept⟩ := field.inner _ _ rfl referenced.data same
      exact ⟨inner, found, sameBody_of_keepsEqual canonicalProper kept referenced.body⟩
  obtain ⟨made, dataFound, body⟩ := data
  rw [difference, patchOf] at applied ⊢
  rw [restoreMessageWrite_message]
  simp only [restoreMessage, get, lookupEntries, String.reduceEq, if_false, if_true,
    Option.getD_some, reads message reference canonical referenced.located, Except.bind, applied,
    dataFound, kind, referenced.data, referenced.kind, body]
  simp [Json.sameValue]

theorem restores_of_faithful (roundTrips : RoundTrips format) (reads : Reads locate read)
    (made : referenceMessage format locate message = some descriptor)
    (faithful : Faithful format locate message) :
    Restores format repr read descriptor (.message message) := by
  obtain ⟨reference, canonical, canonicalData, referenced, rfl⟩ := referenceMessage_some made
  obtain ⟨result, restores, isProper, -, typed⟩ :=
    @restores_dictionary _ _ _ repr _ _ _ _ _ reads referenced
  have agree := faithful reference canonical referenced.located
  obtain ⟨read, decoded, same⟩ := roundTrips message _ isProper (typed.mpr agree)
  exact ⟨.message read, by rw [restores, decoded]; rfl, same⟩

theorem faithful_of_restores (keepsTypes : KeepsTypes format) (reads : Reads locate read)
    (made : referenceMessage format locate message = some descriptor)
    (restored : Restores format repr read descriptor (.message message)) :
    Faithful format locate message := by
  obtain ⟨reference, canonical, canonicalData, referenced, rfl⟩ := referenceMessage_some made
  obtain ⟨result, restores, isProper, equal, typed⟩ :=
    @restores_dictionary _ _ _ repr _ _ _ _ _ reads referenced
  obtain ⟨value, returned, same⟩ := restored
  rw [restores] at returned
  intro otherReference otherCanonical located
  rw [referenced.located] at located
  cases located
  cases decoded : format.fromDict (.obj result) with
  | error error => simp [decoded, Except.map] at returned
  | ok read =>
    simp only [decoded, Except.map, Except.ok.injEq] at returned
    subst returned
    exact typed.mp (keepsTypes message read _ isProper equal decoded same)

theorem isObject_of_reference (write : WriteValue Message)
    (made : referenceMessageWrite format locate write = some descriptor) :
    isObject descriptor = true := by
  cases write with
  | none => cases made; rfl
  | message message =>
    rw [referenceMessageWrite] at made
    split at made
    · cases made; rfl
    · obtain ⟨_, _, _, _, rfl⟩ := referenceMessage_some made
      rfl
  | list items | tuple items =>
    rw [referenceMessageWrite] at made
    obtain ⟨children, -, rfl⟩ := Option.map_eq_some_iff.mp made
    rfl
  | overwrite value =>
    rw [referenceMessageWrite] at made
    obtain ⟨child, -, rfl⟩ := Option.map_eq_some_iff.mp made
    rfl
  | other => cases made

theorem areObjects_of_reference (items : List (WriteValue Message)) {children : List Json}
    (made : referenceAll format locate items = some children) :
    children.all isObject = true := by
  induction items generalizing children with
  | nil => cases made; rfl
  | cons item items ih =>
    rw [referenceAll] at made
    split at made
    · rename_i child rest childMade restMade
      cases made
      rw [List.all_cons, isObject_of_reference item childMade, ih restMade]
      rfl
    · cases made

theorem restores_remove (roundTrips : RoundTrips format)
    (removal : format.isRemove message = true) :
    Restores format repr read
      (.obj [("kind", .str "remove"), ("value", .obj (format.toDict message))])
      (.message message) := by
  obtain ⟨made, decoded, same⟩ := roundTrips message _ (format.toDict_proper message)
    (Json.sameTyped_self _ (format.toDict_proper message))
  have madeRemoval : format.isRemove made = true := by
    rw [MessageFormat.same, Bool.and_eq_true, beq_iff_eq] at same
    rw [← same.1, removal]
  refine ⟨.message made, ?_, same⟩
  rw [restoreMessageWrite_remove]
  simp [restoreRemove, get, lookupEntries, decoded, Except.bind, madeRemoval]

def EachRestores (format : MessageFormat Message)
    (locate : Message → Option (JsonObject × JsonObject)) (repr : Json → String)
    (read : Json → Except CodecError JsonObject) (messages : List Message) : Prop :=
  ∀ message ∈ messages, ∀ descriptor,
    referenceMessage format locate message = some descriptor →
      Restores format repr read descriptor (.message message)

mutual

theorem restores_iff_messages (roundTrips : RoundTrips format) :
    (write : WriteValue Message) → ∀ descriptor,
      referenceMessageWrite format locate write = some descriptor →
      (Restores format repr read descriptor write ↔
        EachRestores format locate repr read (write.messages format))
  | .none, descriptor, made => by
      cases made
      refine iff_of_true ⟨.none, restoreMessageWrite_none, rfl⟩ ?_
      intro message member
      cases member
  | .message message, descriptor, made => by
      rw [referenceMessageWrite] at made
      rw [WriteValue.messages]
      cases removal : format.isRemove message with
      | true =>
        simp only [removal, if_true, Option.some.injEq] at made
        subst made
        refine iff_of_true (restores_remove roundTrips removal) ?_
        intro message member
        cases member
      | false =>
        simp only [removal, Bool.false_eq_true, if_false] at made ⊢
        simp [EachRestores, made]
  | .list items, descriptor, made => by
      rw [referenceMessageWrite] at made
      obtain ⟨children, childrenMade, rfl⟩ := Option.map_eq_some_iff.mp made
      rw [WriteValue.messages, ← restoresAll_iff_messages roundTrips items children childrenMade,
        Restores, restoreMessageWrite_list (areObjects_of_reference items childrenMade)]
      cases restoreAll format repr read children with
      | error error => simp [Except.map]
      | ok values => simp [Except.map, WriteValue.same]
  | .tuple items, descriptor, made => by
      rw [referenceMessageWrite] at made
      obtain ⟨children, childrenMade, rfl⟩ := Option.map_eq_some_iff.mp made
      rw [WriteValue.messages, ← restoresAll_iff_messages roundTrips items children childrenMade,
        Restores, restoreMessageWrite_tuple (areObjects_of_reference items childrenMade)]
      cases restoreAll format repr read children with
      | error error => simp [Except.map]
      | ok values => simp [Except.map, WriteValue.same]
  | .overwrite value, descriptor, made => by
      rw [referenceMessageWrite] at made
      obtain ⟨child, childMade, rfl⟩ := Option.map_eq_some_iff.mp made
      have object := isObject_of_reference value childMade
      rw [WriteValue.messages, ← restores_iff_messages roundTrips value child childMade]
      cases child with
      | obj fields =>
        rw [Restores, Restores, restoreMessageWrite_overwrite]
        cases restoreMessageWrite format repr read (.obj fields) with
        | error error => simp [Except.map]
        | ok restored => simp [Except.map, WriteValue.same]
      | null | bool | int | float | str | arr => cases object
  | .other, descriptor, made => by cases made

theorem restoresAll_iff_messages (roundTrips : RoundTrips format) :
    (items : List (WriteValue Message)) → ∀ children,
      referenceAll format locate items = some children →
      ((∃ values, restoreAll format repr read children = .ok values ∧
          WriteValue.sameAll format items values = true) ↔
        EachRestores format locate repr read (WriteValue.allMessages format items))
  | [], children, made => by
      cases made
      refine iff_of_true ⟨[], rfl, rfl⟩ ?_
      intro message member
      cases member
  | item :: items, children, made => by
      rw [referenceAll] at made
      split at made
      · rename_i child rest childMade restMade
        cases made
        have first := restores_iff_messages roundTrips item child childMade
        have later := restoresAll_iff_messages roundTrips items rest restMade
        rw [WriteValue.allMessages, EachRestores, List.forall_mem_append]
        rw [EachRestores] at first later
        rw [← first, ← later, restoreAll, Restores]
        cases restoreMessageWrite format repr read child with
        | error error => simp [Except.bind]
        | ok value =>
          cases restoreAll format repr read rest with
          | error error => simp [Except.bind, Except.map]
          | ok values =>
            simp only [Except.bind, Except.map, Except.ok.injEq, exists_eq_left']
            exact Bool.and_eq_true_iff
      · cases made

end

def BodyFromCanonical (format : MessageFormat Message)
    (locate : Message → Option (JsonObject × JsonObject)) (message : Message) : Prop :=
  ∀ reference canonical canonicalData, locate message = some (reference, canonical) →
    lookupEntries "data" canonical.fields = some (.obj canonicalData) →
    ∀ key ∈ bodyFields,
      key ∉ (changesFrom canonicalData (format.data message).fields).map Prod.fst

/-- A body field that is `None` is there in the canonical data too. -/
def BodyPresent (format : MessageFormat Message)
    (locate : Message → Option (JsonObject × JsonObject)) (message : Message) : Prop :=
  ∀ reference canonical canonicalData, locate message = some (reference, canonical) →
    lookupEntries "data" canonical.fields = some (.obj canonicalData) →
    ∀ key ∈ bodyFields, lookupEntries key (format.data message).fields = some .null →
      (lookupEntries key canonicalData).isSome = true

theorem mem_changesFrom {key : String} {canonical original : List (String × Json)}
    (distinct : (original.map Prod.fst).Nodup) :
    key ∈ (changesFrom canonical original).map Prod.fst ↔
      ∃ value, lookupEntries key original = some value ∧
        ∀ other, lookupEntries key canonical = some other → value.sameValue other = false := by
  induction original with
  | nil => simp [changesFrom, lookupEntries]
  | cons field original ih =>
    obtain ⟨first, value⟩ := field
    rw [List.map_cons, List.nodup_cons] at distinct
    have later := ih distinct.2
    by_cases same : first = key
    · subst same
      have absent : lookupEntries first original = none := lookupEntries_eq_none distinct.1
      simp only [absent, reduceCtorEq, false_and, exists_false, iff_false] at later
      simp only [lookupEntries, if_true, Option.some.injEq, exists_eq_left']
      cases found : lookupEntries first canonical with
      | none => simp [changesFrom, found]
      | some other =>
        cases equal : value.sameValue other with
        | true => simpa [changesFrom, found, equal] using later
        | false => simp [changesFrom, found, equal]
    · simp only [lookupEntries, if_neg same]
      rw [← later]
      cases found : lookupEntries first canonical with
      | none => simp [changesFrom, found, Ne.symm same]
      | some other =>
        cases equal : value.sameValue other with
        | true => simp [changesFrom, found, equal]
        | false => simp [changesFrom, found, equal, Ne.symm same]

theorem bodyFromCanonical_iff (made : referenceMessage format locate message = some descriptor) :
    BodyFromCanonical format locate message ↔ BodyPresent format locate message := by
  obtain ⟨reference, canonical, canonicalData, referenced, rfl⟩ := referenceMessage_some made
  have distinct := (Json.proper_obj.mp (format.data message).proper).1
  have body := referenced.body
  rw [sameBody, List.all_eq_true] at body
  constructor
  · intro held first second data located dataFound key member null
    by_contra absent
    rw [Option.not_isSome_iff_eq_none] at absent
    refine held first second data located dataFound key member ?_
    rw [mem_changesFrom distinct]
    exact ⟨.null, null, by simp [absent]⟩
  · intro held first second data located dataFound key member changed
    rw [mem_changesFrom distinct] at changed
    obtain ⟨value, found, different⟩ := changed
    rw [referenced.located] at located
    cases located
    rw [referenced.data] at dataFound
    cases dataFound
    have equal := body key member
    simp only [get, found, Option.getD_some] at equal
    cases present : lookupEntries key canonicalData with
    | some other =>
      simp only [present, Option.getD_some] at equal
      simp [different other present] at equal
    | none =>
      simp only [present, Option.getD_none] at equal
      rw [eq_null_of_sameValue equal] at found
      have there := held _ _ _ referenced.located referenced.data key member found
      simp [present] at there

mutual

theorem referenced_of_write : (write : WriteValue Message) → ∀ {descriptor},
    referenceMessageWrite format locate write = some descriptor →
    ∀ message ∈ write.messages format,
      ∃ child, referenceMessage format locate message = some child
  | .none, _, _, message, member => by cases member
  | .message first, _, made, message, member => by
      rw [referenceMessageWrite] at made
      rw [WriteValue.messages] at member
      split at made
      · rename_i removal
        rw [if_pos removal] at member
        cases member
      · rename_i keep
        rw [if_neg keep, List.mem_singleton] at member
        subst member
        exact ⟨_, made⟩
  | .list items, _, made, message, member
  | .tuple items, _, made, message, member => by
      rw [referenceMessageWrite] at made
      obtain ⟨children, childrenMade, -⟩ := Option.map_eq_some_iff.mp made
      exact referenced_of_all items childrenMade message member
  | .overwrite value, _, made, message, member => by
      rw [referenceMessageWrite] at made
      obtain ⟨child, childMade, -⟩ := Option.map_eq_some_iff.mp made
      exact referenced_of_write value childMade message member
  | .other, _, made, _, _ => by cases made

theorem referenced_of_all : (items : List (WriteValue Message)) → ∀ {children},
    referenceAll format locate items = some children →
    ∀ message ∈ WriteValue.allMessages format items,
      ∃ child, referenceMessage format locate message = some child
  | [], _, _, message, member => by cases member
  | item :: items, _, made, message, member => by
      rw [referenceAll] at made
      split at made
      · rename_i child rest childMade restMade
        rcases List.mem_append.mp member with here | later
        · exact referenced_of_write item childMade message here
        · exact referenced_of_all items restMade message later
      · cases made

end

/-- The write comes back with its JSON types, and no patch holds a body field. -/
def RestoresExactly (format : MessageFormat Message)
    (locate : Message → Option (JsonObject × JsonObject)) (repr : Json → String)
    (read : Json → Except CodecError JsonObject) (received : Option Json)
    (write : WriteValue Message) : Prop :=
  (∃ descriptor, received = some descriptor ∧ Restores format repr read descriptor write) ∧
    ∀ message ∈ write.messages format, BodyFromCanonical format locate message

/-- The restored write is exact where, in each message, whatever is equal to the
canonical value under `==` has its types, and no body field is `None` that the
canonical data lacks.  The classes need to keep the types for the converse only. -/
theorem restores_exactly_iff (roundTrips : RoundTrips format) (reads : Reads locate read)
    (dumps : Json → Bytes) (loads : Bytes → Option Json) (write : WriteValue Message)
    (made : referenceMessageWrite format locate write = some descriptor)
    (transfers : loads (dumps descriptor) = some descriptor) :
    ((∀ message ∈ write.messages format,
        Faithful format locate message ∧ BodyPresent format locate message) →
      RestoresExactly format locate repr read (loads (dumps descriptor)) write) ∧
    (KeepsTypes format →
      RestoresExactly format locate repr read (loads (dumps descriptor)) write →
      ∀ message ∈ write.messages format,
        Faithful format locate message ∧ BodyPresent format locate message) := by
  rw [transfers]
  constructor
  · intro holds
    refine ⟨⟨descriptor, rfl, ?_⟩, fun message member => ?_⟩
    · rw [restores_iff_messages roundTrips write descriptor made]
      intro message member child childMade
      exact restores_of_faithful roundTrips reads childMade (holds message member).1
    · obtain ⟨child, childMade⟩ := referenced_of_write write made message member
      exact (bodyFromCanonical_iff childMade).mpr (holds message member).2
  · rintro keepsTypes ⟨⟨found, equal, restored⟩, bodies⟩ message member
    cases equal
    obtain ⟨child, childMade⟩ := referenced_of_write write made message member
    rw [restores_iff_messages roundTrips write descriptor made] at restored
    exact ⟨faithful_of_restores keepsTypes reads childMade
        (restored message member child childMade),
      (bodyFromCanonical_iff childMade).mp (bodies message member)⟩

end Restoring

namespace Sample

structure Message where
  kind : String
  data : JsonObject

def fromDict (value : Json) : Except CodecError Message :=
  match value with
  | .obj fields =>
    match get fields "type", get fields "data" with
    | .str kind, .obj data =>
      if isProper : (Json.obj data).proper = true then .ok ⟨kind, data, isProper⟩
      else .error (.type "data")
    | _, _ => .error (.type "data")
  | _ => .error (.type "data")

def format : MessageFormat Message where
  kind := Message.kind
  data := Message.data
  id message := get message.data.fields "id"
  isRemove message := message.kind = "remove"
  fromDict := fromDict

theorem fromDict_ok {fields data : List (String × Json)} {kind : String}
    (kindFound : lookupEntries "type" fields = some (.str kind))
    (dataFound : lookupEntries "data" fields = some (.obj data))
    (isProper : (Json.obj data).proper = true) :
    fromDict (.obj fields) = .ok ⟨kind, data, isProper⟩ := by
  simp [fromDict, get, kindFound, dataFound, isProper]

theorem same_iff {first second : Message} : format.same first second = true ↔
    first.kind = second.kind ∧
      (Json.obj first.data.fields).sameTyped (.obj second.data.fields) = true := by
  rw [MessageFormat.same, Bool.and_eq_true]
  constructor
  · rintro ⟨-, fields⟩
    simpa [MessageFormat.toDict, Json.sameTyped, Json.sameTypedFields, lookupEntries, format]
      using fields
  · rintro ⟨kind, data⟩
    refine ⟨by simp [format, kind], ?_⟩
    simpa [MessageFormat.toDict, Json.sameTyped, Json.sameTypedFields, lookupEntries, format, kind]
      using data

theorem roundTrips : RoundTrips format := by
  intro message value isProper same
  cases value with
  | obj fields =>
    have agree := (Json.sameTyped_obj (format.toDict_proper message) isProper).mp same
    have kind := agree "type"
    have data := agree "data"
    simp only [MessageFormat.toDict, lookupEntries, String.reduceEq, if_true, if_false]
      at kind data
    cases kindFound : lookupEntries "type" fields with
    | none => simp [kindFound] at kind
    | some found =>
      cases dataFound : lookupEntries "data" fields with
      | none => simp [dataFound] at data
      | some held =>
        simp only [kindFound, dataFound] at kind data
        cases found with
        | str text =>
          cases held with
          | obj inner =>
            simp only [Json.sameTyped, beq_iff_eq] at kind
            subst kind
            refine ⟨_, fromDict_ok kindFound dataFound
              (Json.proper_of_lookup isProper dataFound), ?_⟩
            exact same_iff.mpr ⟨rfl, data⟩
          | null | bool | int | float | str | arr => cases data
        | null | bool | int | float | arr | obj => cases kind
  | null | bool | int | float | str | arr => cases same

theorem fromDict_parts {value : Json} {made : Message} (decoded : fromDict value = .ok made) :
    ∃ fields, value = .obj fields ∧ get fields "type" = .str made.kind ∧
      get fields "data" = .obj made.data.fields := by
  unfold fromDict at decoded
  split at decoded
  · rename_i fields
    split at decoded
    · rename_i kind data kindFound dataFound
      split at decoded
      · cases decoded
        exact ⟨fields, rfl, kindFound, dataFound⟩
      · cases decoded
    · cases decoded
  · cases decoded

theorem lookup_of_get {fields : List (String × Json)} {key : String} {value : Json}
    (found : get fields key = value) (present : value ≠ .null) :
    lookupEntries key fields = some value := by
  rw [get] at found
  cases entry : lookupEntries key fields with
  | none =>
    rw [entry] at found
    exact absurd found.symm present
  | some held => simpa [entry] using found

theorem keepsTypes : KeepsTypes format := by
  intro message made value isProper equal decoded same
  obtain ⟨fields, rfl, kind, data⟩ := fromDict_parts decoded
  rw [same_iff] at same
  have agree := (Json.sameValue_obj (format.toDict_proper message) isProper).mp equal
  rw [Json.sameTyped_obj (format.toDict_proper message) isProper]
  intro key
  have here := agree key
  by_cases isType : "type" = key
  · subst isType
    simp [MessageFormat.toDict, lookupEntries, lookup_of_get kind, format, same.1, Json.sameTyped]
  · by_cases isData : "data" = key
    · subst isData
      simpa [MessageFormat.toDict, lookupEntries, lookup_of_get data, format] using same.2
    · simp only [MessageFormat.toDict, lookupEntries, if_neg isType, if_neg isData] at here ⊢
      cases found : lookupEntries key fields with
      | none => trivial
      | some held => simp [found] at here

/-- A message whose count is `1`. -/
def message : Message :=
  ⟨"human", ⟨[("id", .str "m1"), ("content", .str "hi"),
    ("additional_kwargs", .obj [("count", .int 1)])], by decide⟩⟩

/-- The canonical message with the count `True`. -/
def canonical : JsonObject :=
  ⟨[("type", .str "human"), ("data", .obj [("id", .str "m1"), ("content", .str "hi"),
    ("additional_kwargs", .obj [("count", .bool true)])])], by decide⟩

def reference : JsonObject :=
  ⟨[("item_id", .str "i1")], by decide⟩

def extended : JsonObject :=
  ⟨[("type", .str "human"), ("data", .obj [("id", .str "m1"), ("content", .str "hi"),
    ("additional_kwargs", .obj [("count", .int 1), ("index", .int 7)])])], by decide⟩

def locate (dictionary : JsonObject) (_ : Message) : Option (JsonObject × JsonObject) :=
  some (reference, dictionary)

def read (dictionary : JsonObject) (_ : Json) : Except CodecError JsonObject :=
  .ok dictionary

theorem reads (dictionary : JsonObject) : Reads (locate dictionary) (read dictionary) := by
  intro message first second located
  cases located
  rfl

def descriptor (dictionary : JsonObject) : Json :=
  .obj [("kind", .str "message"), ("reference", .obj reference.fields),
    ("patch", difference (format.toDict message) dictionary.fields)]

end Sample

open Sample in
/-- The descriptor of a count `1` beside the canonical count `True` restores `True`. -/
theorem restored_of_other_type :
    referenceMessageWrite format (locate canonical) (.message message) =
        some (descriptor canonical) ∧
      ¬ RestoresExactly format (locate canonical) (fun _ => "") (read canonical)
        (some (descriptor canonical)) (.message message) := by
  refine ⟨by rfl, ?_⟩
  rintro ⟨⟨found, equal, restored⟩, -⟩
  cases equal
  have faithful := faithful_of_restores keepsTypes (reads canonical) (by rfl) restored
  have agree := faithful reference canonical rfl
  revert agree
  decide +kernel

open Sample in
/-- Beside the canonical message that has the count `1` the write comes back exactly. -/
theorem restores_exactly_iff_extended :
    referenceMessageWrite format (locate extended) (.list [.none, .message message]) =
        some (.obj [("kind", .str "list"),
          ("values", .arr [.obj [("kind", .str "none")], descriptor extended])]) ∧
      RestoresExactly format (locate extended) (fun _ => "") (read extended)
        (some (.obj [("kind", .str "list"),
          ("values", .arr [.obj [("kind", .str "none")], descriptor extended])]))
        (.list [.none, .message message]) := by
  refine ⟨by rfl, ?_⟩
  refine (restores_exactly_iff roundTrips (reads extended) (fun _ => []) (fun _ => some _)
    (.list [.none, .message message]) (by rfl) rfl).1 ?_
  intro found member
  obtain rfl : found = message := by simpa [WriteValue.messages, WriteValue.allMessages, format,
    message] using member
  constructor
  · rintro first second located
    cases located
    decide +kernel
  · rintro first second data located dataFound key member null
    cases located
    cases dataFound
    simp only [bodyFields, List.mem_cons, List.not_mem_nil, or_false] at member
    rcases member with rfl | rfl | rfl | rfl | rfl | rfl <;>
      simp [lookupEntries, format, message] at null ⊢

end GraphAgent.PendingMessages
