import GraphAgent.StreamLifecycle

/-!
# What one event does to the entities

An event writes at most one entity, the one it names: it puts a record in its
place and marks it.  Every other entity keeps its identifier and its marks.
-/

namespace GraphAgent.MessageStream

open FirstMatch Json Transaction

def StreamState.find (state : StreamState) (kind : EntityKind) (id : String) : Option Fields :=
  (state.entities kind).find? (hasId kind.idKey id)

def writtenRecord (state : StreamState) (event : StreamEvent) : Option Fields :=
  match event.target with
  | none => none
  | some (kind, id) =>
    if hasId kind.idKey id event.payload then
      if kind = .block then
        some ((state.find kind id).getD Dictionary.empty)
      else
        some (((state.find kind id).getD Dictionary.empty).merge event.payload)
    else
      state.find kind id

def SameMarks (kind : EntityKind) (first second : Fields) : Prop :=
  ∀ key ∈ kind.idKey :: lifecycleKeys, second.lookup key = first.lookup key

inductive Projected (state next : StreamState) (event : StreamEvent) (kind : EntityKind) :
    Prop where
  | relabelled (same : List.Forall₂ (SameMarks kind) (state.entities kind) (next.entities kind))
      (unwritten : ∀ id, event.target = some (kind, id) →
        event.completes = true ∨ hasId kind.idKey id event.payload = false)
  | written (id : String) (record : Fields) (target : event.target = some (kind, id))
      (named : hasId kind.idKey id record = true)
      (put : next.entities kind =
        putFirst (hasId kind.idKey id) record (state.entities kind))
      (completion : event.completes = false →
        ∃ expected, writtenRecord state event = some expected ∧
          ∀ key ∈ completionKeys, record.lookup key = expected.lookup key)

theorem identifier?_eq_some {value : Json} {id : String} :
    value.identifier? = some id ↔ value = .str id ∧ id ≠ "" := by
  cases value with
  | str text =>
    by_cases empty : text = ""
    · subst empty
      simp [Json.identifier?]
    · simp [Json.identifier?, empty]
      intro same
      exact same ▸ empty
  | null | bool | int | float | arr | obj => simp [Json.identifier?]

theorem StreamEvent.idField_of_payload {event : StreamEvent} {key id : String}
    (named : (event.payload.get key).identifier? = some id) : event.idField key = .str id := by
  obtain ⟨value, nonempty⟩ := identifier?_eq_some.mp named
  simp [StreamEvent.idField, value, Json.orElse, Json.truthy, nonempty]

theorem StreamEvent.target_kind {event : StreamEvent} {kind : EntityKind} {id : String}
    (target : event.target = some (kind, id)) : event.type.entityKind = some kind := by
  unfold StreamEvent.target at target
  cases owner : event.type.entityKind with
  | none => simp [owner] at target
  | some found =>
    simp only [owner, Option.map_eq_some_iff, Prod.mk.injEq] at target
    obtain ⟨_, _, same, _⟩ := target
    rw [same]

theorem StreamEvent.target_ne_empty {event : StreamEvent} {kind : EntityKind} {id : String}
    (target : event.target = some (kind, id)) (notBlock : kind ≠ .block) : id ≠ "" := by
  have owner := StreamEvent.target_kind target
  unfold StreamEvent.target at target
  cases kind with
  | block => exact absurd rfl notBlock
  | modelCall | toolCall | toolExecution | activity =>
    simp only [owner, Option.map_eq_some_iff, Prod.mk.injEq, true_and, exists_eq_right]
      at target
    exact (identifier?_eq_some.mp target).2

theorem StreamEvent.target_of_named {event : StreamEvent} {kind : EntityKind} {id : String}
    (owner : event.type.entityKind = some kind)
    (named : (event.payload.get kind.idKey).identifier? = some id) :
    event.target = some (kind, id) := by
  have nonempty := (identifier?_eq_some.mp named).2
  have field := StreamEvent.idField_of_payload named
  unfold StreamEvent.target
  cases kind with
  | block =>
    simp only [EntityKind.idKey] at field
    simp [owner, field, Json.text?]
  | activity =>
    simp only [EntityKind.idKey] at named
    simp [owner, named]
  | modelCall | toolCall | toolExecution =>
    simp [owner, field, identifier?_eq_some.mpr ⟨rfl, nonempty⟩]

theorem hasId_of_identifier {fields : Fields} {key id : String}
    (named : (fields.get key).identifier? = some id) : hasId key id fields = true := by
  obtain ⟨value, _⟩ := identifier?_eq_some.mp named
  simp [hasId, value, Json.text?]

theorem lookup_of_hasId {fields : Fields} {key id : String} (named : hasId key id fields = true) :
    fields.lookup key = some (.str id) := by
  apply Fields.lookup_of_get_str
  simp only [hasId, decide_eq_true_eq] at named
  cases value : fields.get key with
  | str text =>
    rw [value, Json.text?, Option.some.injEq] at named
    rw [named]
  | null | bool | int | float | arr | obj => simp [value, Json.text?] at named

theorem hasId_of_lookup {fields : Fields} {key id : String}
    (found : fields.lookup key = some (.str id)) : hasId key id fields = true := by
  simp [hasId, Fields.get, found, Json.text?]

theorem hasId_unique {fields : Fields} {key id other : String}
    (named : hasId key id fields = true) (different : id ≠ other) :
    hasId key other fields = false := by
  have found := lookup_of_hasId named
  simp [hasId, Fields.get, found, Json.text?, different]

section Quiet

variable {kind : EntityKind}

theorem sameMarks_refl (entity : Fields) : SameMarks kind entity entity :=
  fun _ _ => rfl

theorem SameMarks.insert {first second : Fields} {key : String} {value : Json}
    (same : SameMarks kind first second) (foreign : key ∉ kind.idKey :: lifecycleKeys) :
    SameMarks kind first (second.insert key value) := by
  intro other member
  rw [Dictionary.lookup_insert_of_ne (by
    rintro rfl
    exact foreign member)]
  exact same other member

theorem forall₂_sameMarks_refl (entities : List Fields) :
    List.Forall₂ (SameMarks kind) entities entities :=
  List.forall₂_same.mpr fun entity _ => sameMarks_refl entity

theorem forall₂_sameMarks_map {change : Fields → Fields}
    (quiet : ∀ entity, SameMarks kind entity (change entity)) (entities : List Fields) :
    List.Forall₂ (SameMarks kind) entities (entities.map change) := by
  rw [List.forall₂_map_right_iff]
  exact List.forall₂_same.mpr fun entity _ => quiet entity

theorem forall₂_sameMarks_updateFirst {matching : Fields → Bool} {change : Fields → Fields}
    (quiet : ∀ entity, SameMarks kind entity (change entity)) (entities : List Fields) :
    List.Forall₂ (SameMarks kind) entities (updateFirst matching change entities) := by
  induction entities with
  | nil => exact .nil
  | cons first rest ih =>
    rw [updateFirst]
    split
    · exact .cons (quiet first) (forall₂_sameMarks_refl rest)
    · exact .cons (sameMarks_refl first) ih

theorem forall₂_sameMarks_trans {first second third : List Fields}
    (earlier : List.Forall₂ (SameMarks kind) first second)
    (later : List.Forall₂ (SameMarks kind) second third) :
    List.Forall₂ (SameMarks kind) first third := by
  induction earlier generalizing third with
  | nil => exact later
  | cons same _ ih =>
    cases later with
    | cons sameAgain rest =>
      refine .cons ?_ (ih rest)
      intro key member
      rw [sameAgain key member, same key member]

end Quiet

section Writing

variable {state next : StreamState} {event : StreamEvent} {kind : EntityKind} {id : String}

theorem lookup_merge_named {entity payload : Fields} {key : String}
    (named : hasId key id payload = true) : (entity.merge payload).lookup key = some (.str id) := by
  rw [Dictionary.lookup_merge, lookup_of_hasId named, Option.some_or]

theorem Projected.of_other (other : event.type.entityKind ≠ some kind)
    (same : next.entities kind = state.entities kind) : Projected state next event kind := by
  refine .relabelled ?_ fun id target => absurd (StreamEvent.target_kind target) other
  rw [same]
  exact forall₂_sameMarks_refl _

theorem Projected.of_upsert (create : Fields) (change : Fields → Fields)
    (target : event.target = some (kind, id)) (notBlock : kind ≠ .block)
    (named : hasId kind.idKey id event.payload = true)
    (put : next.entities kind =
      upsertFirst (hasId kind.idKey id) create change (state.entities kind))
    (created : ∀ key ∈ kind.idKey :: completionKeys,
      create.lookup key = event.payload.lookup key)
    (changed : ∀ entity, ∀ key ∈ kind.idKey :: completionKeys,
      (change entity).lookup key = (entity.merge event.payload).lookup key) :
    Projected state next event kind := by
  rw [upsertFirst_eq_putFirst] at put
  have record : ∀ key ∈ kind.idKey :: completionKeys,
      ((((state.find kind id).map change).getD create : Fields)).lookup key =
        (((state.find kind id).getD Dictionary.empty).merge event.payload).lookup key := by
    intro key member
    cases state.find kind id with
    | none => simp [created key member, Dictionary.lookup_merge]
    | some entity => exact changed entity key member
  refine .written id _ target ?_ put ?_
  · apply hasId_of_lookup
    rw [show (state.entities kind).find? (hasId kind.idKey id) = state.find kind id from rfl,
      record _ (by simp)]
    exact lookup_merge_named named
  · intro _
    refine ⟨((state.find kind id).getD Dictionary.empty).merge event.payload, ?_, ?_⟩
    · simp [writtenRecord, target, named, notBlock]
    · intro key member
      exact record key (List.mem_cons_of_mem _ member)

theorem Projected.of_update {later : StreamState}
    (projected : Projected state next event kind) (change : Fields → Fields) (target : event.target = some (kind, id))
    (completes : event.completes = true)
    (quiet : ∀ entity, SameMarks kind entity (change entity))
    (eq : later.entities kind =
      updateFirst (hasId kind.idKey id) change (next.entities kind)) :
    Projected state later event kind := by
  cases projected with
  | relabelled same =>
    refine .relabelled ?_ fun _ _ => Or.inl completes
    rw [eq]
    exact forall₂_sameMarks_trans same (forall₂_sameMarks_updateFirst quiet _)
  | written found record foundTarget named put =>
    rw [target] at foundTarget
    obtain rfl : id = found := by
      cases foundTarget
      rfl
    refine .written id (change record) target ?_ ?_ ?_
    · rw [hasId_congr (quiet record _ (by simp))]
      exact named
    · rw [eq, put, updateFirst_putFirst named]
    · intro completesNot
      rw [completes] at completesNot
      cases completesNot

end Writing

section Branches

variable {interpreter : Interpreter} {state next : StreamState} {event : StreamEvent}
  {kind : EntityKind}

@[simp]
theorem setActiveState_entities (fields : List (String × Json)) :
    (state.setActiveState fields).entities kind = state.entities kind := by
  cases kind <;> rfl

@[simp]
theorem setTerminalActiveState_entities (status : String) (payload : Fields) :
    (setTerminalActiveState state status payload).entities kind = state.entities kind := by
  rw [setTerminalActiveState, setActiveState_entities]

theorem upsertModelCall_other {payload : Fields} {status : String}
    (other : kind ≠ .modelCall) :
    (upsertModelCall state payload status).entities kind = state.entities kind := by
  unfold upsertModelCall
  split
  · rfl
  · cases kind with
    | modelCall => exact absurd rfl other
    | block | toolCall | toolExecution | activity => rfl

theorem projected_upsertModelCall (status : String) (changed : StreamState)
    (owner : event.type.entityKind = some .modelCall)
    (entities : ∀ kind, changed.entities kind = state.entities kind)
    (eq : next.entities kind =
      (upsertModelCall changed event.payload status).entities kind) :
    Projected state next event kind := by
  by_cases same : kind = .modelCall
  · subst same
    unfold upsertModelCall at eq
    cases named : (event.payload.get "model_call_id").identifier? with
    | none =>
      simp only [named] at eq
      refine .relabelled ?_ ?_
      · rw [eq, entities]
        exact forall₂_sameMarks_refl _
      · intro id target
        right
        have nonempty := StreamEvent.target_ne_empty target (by simp)
        rw [Bool.eq_false_iff]
        intro present
        have found := lookup_of_hasId present
        rw [Fields.get, show "model_call_id" = EntityKind.modelCall.idKey from rfl, found]
          at named
        simp [Json.identifier?, nonempty] at named
    | some id =>
      simp only [named] at eq
      have notStatus {key : String} (member : key ∈ "model_call_id" :: completionKeys) :
          "status" ≠ key := by
        rintro rfl
        revert member
        decide
      refine .of_upsert (event.payload.insert "status" (.str status))
        (fun call => (call.merge event.payload).insert "status" (.str status))
        (StreamEvent.target_of_named owner named) (by simp) (hasId_of_identifier named)
        ?_ ?_ ?_
      · rw [eq, ← entities .modelCall]
        rfl
      · exact fun key member => Dictionary.lookup_insert_of_ne (notStatus member)
      · exact fun entity key member => Dictionary.lookup_insert_of_ne (notStatus member)
  · refine .of_other ?_ ?_
    · rw [owner]
      exact fun found => same (Option.some.inj found).symm
    · rw [eq, upsertModelCall_other same, entities]

theorem lookup_erase_of_ne {fields : Fields} {key name : String} (different : key ≠ name) :
    (fields.erase name).lookup key = fields.lookup key := by
  simp [Dictionary.lookup_erase, Ne.symm different]

theorem lookup_incomingToolCall {toolCall payload : Fields} {key : String}
    (notName : key ≠ "tool_name") (notArguments : key ≠ "arguments") :
    (incomingToolCall toolCall payload).lookup key = payload.lookup key := by
  have name : (withoutEmptyName toolCall payload).lookup key = payload.lookup key := by
    unfold withoutEmptyName
    split
    · exact lookup_erase_of_ne notName
    · rfl
  rw [← name, incomingToolCall, withoutEmptyArguments]
  split
  · split
    · exact lookup_erase_of_ne notArguments
    · rfl
  · rfl

theorem projected_upsertToolCall (owner : event.type.entityKind = some .toolCall)
    (upserted : upsertToolCall state event.payload = .ok next) :
    Projected state next event kind := by
  unfold upsertToolCall at upserted
  cases named : (event.payload.get "tool_call_id").identifier? with
  | none => simp [named] at upserted
  | some id =>
    simp only [named, Except.ok.injEq] at upserted
    subst upserted
    cases kind with
    | toolCall =>
      refine .of_upsert event.payload
        (fun toolCall => toolCall.merge (incomingToolCall toolCall event.payload))
        (StreamEvent.target_of_named owner named) (by simp) (hasId_of_identifier named)
        rfl (by simp) ?_
      intro entity key member
      rw [Dictionary.lookup_merge, Dictionary.lookup_merge, lookup_incomingToolCall]
      · rintro rfl
        revert member
        decide
      · rintro rfl
        revert member
        decide
    | modelCall | block | toolExecution | activity => exact .of_other (by simp [owner]) rfl

theorem lookup_boundedField {fields : Fields} {key name : String} (different : key ≠ name) :
    (boundedField fields name).lookup key = fields.lookup key := by
  unfold boundedField
  split
  · exact Dictionary.lookup_insert_of_ne (Ne.symm different)
  · rfl

theorem lookup_boundedToolPayload {payload : Fields} {key : String}
    (notResult : key ≠ "result") (notError : key ≠ "error") :
    (boundedToolPayload payload).lookup key = payload.lookup key := by
  rw [boundedToolPayload, List.foldl_cons, List.foldl_cons, List.foldl_nil,
    lookup_boundedField notError, lookup_boundedField notResult]

theorem projected_upsertTool {status : String}
    (owner : event.type.entityKind = some .toolExecution)
    (upserted : upsertTool state event.payload status = .ok next) :
    Projected state next event kind := by
  unfold upsertTool at upserted
  cases named : (event.payload.get "tool_execution_id").identifier? with
  | none => simp [named] at upserted
  | some id =>
    simp only [named, Except.ok.injEq] at upserted
    subst upserted
    have bounded (key : String) (member : key ∈ "tool_execution_id" :: completionKeys) :
        (boundedToolPayload event.payload).lookup key = event.payload.lookup key := by
      apply lookup_boundedToolPayload
      · rintro rfl
        revert member
        decide
      · rintro rfl
        revert member
        decide
    have notStatus {key : String} (member : key ∈ "tool_execution_id" :: completionKeys) :
        "status" ≠ key := by
      rintro rfl
      revert member
      decide
    cases kind with
    | toolExecution =>
      refine .of_upsert
        ((boundedToolPayload event.payload).insert "status" (.str status))
        (fun execution =>
          (execution.merge (boundedToolPayload event.payload)).insert "status" (.str status))
        (StreamEvent.target_of_named owner named) (by simp) (hasId_of_identifier named)
        rfl ?_ ?_
      · intro key member
        rw [Dictionary.lookup_insert_of_ne (notStatus member), bounded key member]
      · intro entity key member
        rw [Dictionary.lookup_insert_of_ne (notStatus member), Dictionary.lookup_merge,
          Dictionary.lookup_merge, bounded key member]
    | modelCall | block | toolCall | activity => exact .of_other (by simp [owner]) rfl

theorem changeFirst_ok {matching : Fields → Bool} {change : Fields → Except StreamError Fields}
    {entities changed : List Fields} (ok : changeFirst matching change entities = .ok changed) :
    (entities.find? matching = none ∧ changed = entities) ∨
      ∃ entity record, entities.find? matching = some entity ∧ change entity = .ok record ∧
        changed = putFirst matching record entities := by
  induction entities generalizing changed with
  | nil =>
    left
    exact ⟨rfl, (Except.ok.inj ok).symm⟩
  | cons first rest ih =>
    by_cases isMatch : matching first = true
    · right
      rw [changeFirst, if_pos isMatch] at ok
      obtain ⟨record, recorded, rfl⟩ := map_ok ok
      exact ⟨first, record, by simp [isMatch], recorded, by simp [putFirst, isMatch]⟩
    · rw [changeFirst, if_neg isMatch] at ok
      obtain ⟨tail, tailChanged, rfl⟩ := map_ok ok
      rcases ih tailChanged with ⟨absent, rfl⟩ | ⟨entity, record, found, recorded, rfl⟩
      · left
        exact ⟨by simpa [isMatch] using absent, rfl⟩
      · right
        exact ⟨entity, record, by simpa [isMatch] using found, recorded,
          by simp [putFirst, isMatch]⟩

theorem lookup_applyBlockDelta {payload block changed : Fields} {key : String}
    (foreign : key ∉ ["text", "items", "redacted"])
    (ok : applyBlockDelta interpreter payload block = .ok changed) :
    changed.lookup key = block.lookup key := by
  simp only [List.mem_cons, List.not_mem_nil, or_false, not_or] at foreign
  obtain ⟨notText, notItems, notRedacted⟩ := foreign
  obtain ⟨itemized, applied, rfl⟩ := map_ok ok
  have text (operation : String) :
      (appendBlockText interpreter operation payload block).lookup key = block.lookup key := by
    unfold appendBlockText
    split
    · split
      · exact Dictionary.lookup_insert_of_ne (Ne.symm notText)
      · rfl
    · rfl
  have item : itemized.lookup key = block.lookup key := by
    unfold applyBlockItem at applied
    split at applied
    · split at applied
      · cases applied
      · rw [← Except.ok.inj applied, Dictionary.lookup_insert_of_ne (Ne.symm notItems), text]
    · rw [← Except.ok.inj applied, text]
  split
  · rw [Dictionary.lookup_insert_of_ne (Ne.symm notRedacted), item]
  · exact item

theorem lookup_newBlock {payload block : Fields} {blockId status : String} {modelCallId : Json}
    (ok : newBlock interpreter payload blockId status modelCallId = .ok block) :
    block.lookup "block_id" = some (.str blockId) ∧
      ∀ key ∈ completionKeys, block.lookup key = none := by
  obtain ⟨index, _, built⟩ := bind_ok ok
  have absent (key : String) (member : key ∈ completionKeys) : "model_call_id" ≠ key := by
    rintro rfl
    revert member
    decide
  cases named : modelCallId.identifier? with
  | none =>
    simp only [named] at built
    rw [← Except.ok.inj built]
    refine ⟨rfl, ?_⟩
    simp only [completionKeys, List.mem_cons, List.not_mem_nil, or_false]
    rintro key (rfl | rfl) <;> rfl
  | some id =>
    simp only [named] at built
    rw [← Except.ok.inj built]
    refine ⟨by rw [Dictionary.lookup_insert_of_ne (by decide)]; rfl, ?_⟩
    intro key member
    rw [Dictionary.lookup_insert_of_ne (absent key member)]
    simp only [completionKeys, List.mem_cons, List.not_mem_nil, or_false] at member
    rcases member with rfl | rfl <;> rfl

theorem projected_upsertBlock {status : String} {modelCallId : Json}
    {change : Fields → Except StreamError Fields}
    (owner : event.type.entityKind = some .block)
    (keeps : ∀ entity record, change entity = .ok record →
      ∀ key ∈ "block_id" :: completionKeys, record.lookup key = entity.lookup key)
    (upserted : upsertBlock interpreter state event.payload status modelCallId change =
      .ok next) :
    Projected state next event kind := by
  unfold upsertBlock at upserted
  cases named : (event.payload.get "block_id").identifier? with
  | none => simp [named] at upserted
  | some id =>
    simp only [named] at upserted
    have target : event.target = some (.block, id) := StreamEvent.target_of_named owner named
    have idNamed : hasId EntityKind.block.idKey id event.payload = true :=
      hasId_of_identifier named
    -- what the change is applied to has the completion fields of the old block
    have written (before record : Fields)
        (recorded : ∀ key ∈ "block_id" :: completionKeys,
          record.lookup key = before.lookup key)
        (same : ∀ key ∈ completionKeys, before.lookup key =
          (((state.find .block id).getD Dictionary.empty : Fields)).lookup key)
        (identified : before.lookup "block_id" = some (.str id))
        (put : next.blocks = putFirst (hasId "block_id" id) record state.blocks) :
        Projected state next event .block := by
      refine .written id record target ?_ put ?_
      · apply hasId_of_lookup
        rw [← identified]
        exact recorded _ (by simp [EntityKind.idKey])
      · intro _
        refine ⟨(state.find .block id).getD Dictionary.empty, ?_, ?_⟩
        · simp [writtenRecord, target, idNamed]
        · intro key member
          rw [recorded key (List.mem_cons_of_mem _ member), same key member]
    split at upserted
    · rename_i present
      obtain ⟨blocks, changed, built⟩ := bind_ok upserted
      rw [← Except.ok.inj built] at written ⊢
      cases kind with
      | block =>
        rcases changeFirst_ok changed with ⟨absent, _⟩ | ⟨entity, record, found, recorded, put⟩
        · rw [any_eq_isSome_find, absent] at present
          cases present
        · refine written _ record (keeps _ record recorded) ?_ ?_ put
          · intro key member
            rw [Dictionary.lookup_insert_of_ne (by
              rintro rfl
              revert member
              decide)]
            rw [StreamState.find, show EntityKind.block.idKey = "block_id" from rfl,
              show state.entities .block = state.blocks from rfl, found]
            rfl
          · rw [Dictionary.lookup_insert_of_ne (by decide)]
            exact lookup_of_hasId (List.find?_some found)
      | modelCall | toolCall | toolExecution | activity => exact .of_other (by simp [owner]) rfl
    · rename_i absent
      obtain ⟨created, createdOk, rest⟩ := bind_ok upserted
      obtain ⟨record, recorded, built⟩ := bind_ok rest
      rw [← Except.ok.inj built] at written ⊢
      obtain ⟨identified, fresh⟩ := lookup_newBlock createdOk
      rw [any_eq_isSome_find, Option.not_isSome_iff_eq_none] at absent
      cases kind with
      | block =>
        refine written created record (keeps _ record recorded) ?_ identified ?_
        · intro key member
          rw [fresh key member, StreamState.find,
            show EntityKind.block.idKey = "block_id" from rfl,
            show state.entities .block = state.blocks from rfl, absent]
          rfl
        · exact (putFirst_of_none absent).symm
      | modelCall | toolCall | toolExecution | activity => exact .of_other (by simp [owner]) rfl

theorem lookup_projectActivity {stage : ActivityStage} {payload activity : Fields} {key : String}
    (notStatus : key ≠ "status") :
    (projectActivity interpreter stage payload activity).lookup key =
      (activity.merge payload).lookup key := by
  cases stage <;> simp [projectActivity, Ne.symm notStatus]

theorem projected_applyActivityEvent {stage : ActivityStage} (type : event.type = .activity stage)
    (applied : applyActivityEvent interpreter state stage event.payload = .ok next) :
    Projected state next event kind := by
  unfold applyActivityEvent at applied
  cases named : (event.payload.get "activity_id").identifier? with
  | none => simp [named] at applied
  | some id =>
    simp only [named] at applied
    have owner : event.type.entityKind = some .activity := by rw [type, EventType.entityKind]
    have target : event.target = some (.activity, id) :=
      StreamEvent.target_of_named owner named
    have idNamed : hasId EntityKind.activity.idKey id event.payload = true :=
      hasId_of_identifier named
    split at applied
    · cases applied
    · rw [← Except.ok.inj applied]
      cases kind with
      | activity =>
        refine .written id (projectActivity interpreter stage event.payload
          ((state.activities.find? (hasId "activity_id" id)).getD
            (Dictionary.ofList [("activity_id", .str id)]))) target ?_ ?_ ?_
        · apply hasId_of_lookup
          rw [lookup_projectActivity (by decide)]
          exact lookup_merge_named idNamed
        · rw [setActiveState_entities]
          change upsertFirst _ _ _ _ = _
          rw [upsertFirst_eq_putFirst]
          cases (state.activities.find? (hasId "activity_id" id)) <;> rfl
        · intro _
          refine ⟨((state.find .activity id).getD Dictionary.empty).merge event.payload,
            ?_, ?_⟩
          · simp [writtenRecord, target, idNamed]
          · intro key member
            have notStatus : key ≠ "status" := by
              rintro rfl
              revert member
              decide
            have notId : "activity_id" ≠ key := by
              rintro rfl
              revert member
              decide
            rw [lookup_projectActivity notStatus, Dictionary.lookup_merge,
              Dictionary.lookup_merge]
            change _ = (event.payload.lookup key).or (Dictionary.lookup
              ((state.activities.find? (hasId "activity_id" id)).getD Dictionary.empty) key)
            cases state.activities.find? (hasId "activity_id" id) with
            | some activity => rfl
            | none =>
              change _ = (event.payload.lookup key).or none
              rw [Option.getD_none, Dictionary.ofList, Dictionary.insertAll,
                List.foldl_cons, List.foldl_nil, Dictionary.lookup_insert_of_ne notId,
                Dictionary.lookup_empty]
      | modelCall | block | toolCall | toolExecution =>
        exact .of_other (by simp [owner]) (setActiveState_entities _)

theorem sameMarks_finishToolCall {reason : String} {toolCall finished : Fields}
    (ok : finishToolCall reason toolCall = .ok finished) :
    SameMarks .toolCall toolCall finished := by
  obtain ⟨active, _, built⟩ := bind_ok ok
  cases active with
  | false =>
    cases built
    exact sameMarks_refl _
  | true =>
    cases built
    exact ((sameMarks_refl _).insert (by decide)).insert (by decide)

theorem sameMarks_finishActivity {status outcome reason : String} {activity finished : Fields}
    (ok : finishActivity status outcome reason activity = .ok finished) :
    SameMarks .activity activity finished := by
  obtain ⟨active, _, built⟩ := bind_ok ok
  cases active with
  | false =>
    cases built
    exact sameMarks_refl _
  | true =>
    obtain ⟨unknown, _, rest⟩ := bind_ok built
    have closed (value reported : Json) : SameMarks .activity activity
        (((activity.insert "status" value).insert "outcome" reported).insert
          "completion_reason" (.str reason)) :=
      (((sameMarks_refl _).insert (by decide)).insert (by decide)).insert (by decide)
    rw [← Except.ok.inj rest]
    split
    · split
      · exact (closed _ _).insert (by decide)
      · exact closed _ _
    · split
      · exact (closed _ _).insert (by decide)
      · exact closed _ _

theorem sameMarks_finishEntities {outcome blockStatus activityStatus : String}
    {finished : StreamState}
    (ok : finishEntities outcome blockStatus activityStatus state = .ok finished)
    (kind : EntityKind) :
    List.Forall₂ (SameMarks kind) (state.entities kind) (finished.entities kind) := by
  obtain ⟨called, calledOk, rest⟩ := bind_ok ok
  obtain ⟨toolCalls, toolCallsOk, calledEq⟩ := bind_ok calledOk
  obtain ⟨activities, activitiesOk, finishedEq⟩ := bind_ok rest
  cases calledEq
  cases finishedEq
  cases kind with
  | modelCall =>
    apply forall₂_sameMarks_map
    intro call
    split
    · exact ((((sameMarks_refl _).insert (by decide)).insert (by decide)).insert
        (by decide)).insert (by decide)
    · exact sameMarks_refl _
  | block =>
    apply forall₂_sameMarks_map
    intro block
    split
    · exact (((sameMarks_refl _).insert (by decide)).insert (by decide)).insert (by decide)
    · exact sameMarks_refl _
  | toolCall =>
    exact (mapM_ok toolCallsOk).imp fun _ _ finishedOne => sameMarks_finishToolCall finishedOne
  | toolExecution =>
    apply forall₂_sameMarks_map
    intro execution
    split
    · exact (((sameMarks_refl _).insert (by decide)).insert (by decide)).insert (by decide)
    · exact sameMarks_refl _
  | activity =>
    exact (mapM_ok activitiesOk).imp fun _ _ finishedOne => sameMarks_finishActivity finishedOne

theorem projected_of_entities {middle : StreamState} (write : Projected state middle event kind)
    (same : next.entities kind = middle.entities kind) : Projected state next event kind := by
  cases write with
  | relabelled marks unwritten => exact .relabelled (same ▸ marks) unwritten
  | written id record target named put completion =>
    exact .written id record target named (same.trans put) completion

theorem sameMarks_completeBlock (payload block : Fields) :
    SameMarks .block block (completeBlock interpreter payload block) :=
  (((sameMarks_refl _).insert (by decide)).insert (by decide)).insert (by decide)

theorem sameMarks_completeToolCall (payload toolCall : Fields) :
    SameMarks .toolCall toolCall (completeToolCall interpreter payload toolCall) :=
  ((sameMarks_refl _).insert (by decide)).insert (by decide)

theorem projected_blockCompleted (type : event.type = .blockCompleted)
    (projected : projectEvent interpreter state event = .ok next) :
    Projected state next event kind := by
  have owner : event.type.entityKind = some .block := by rw [type, EventType.entityKind]
  have completes : event.completes = true := by rw [StreamEvent.completes, type]
  unfold projectEvent at projected
  cases named : (event.payload.get "block_id").text? with
  | none =>
    simp only [type, named, Except.ok.injEq] at projected
    refine .relabelled ?_ fun _ _ => Or.inl completes
    rw [projected]
    exact forall₂_sameMarks_refl _
  | some id =>
    simp only [type, named, Except.ok.injEq] at projected
    subst projected
    cases kind with
    | block =>
      exact .relabelled
        (forall₂_sameMarks_updateFirst (sameMarks_completeBlock event.payload) state.blocks)
        fun _ _ => Or.inl completes
    | modelCall | toolCall | toolExecution | activity => exact .of_other (by simp [owner]) rfl

theorem projected_toolCallCompleted (type : event.type = .toolCallCompleted)
    (projected : projectEvent interpreter state event = .ok next) :
    Projected state next event kind := by
  have owner : event.type.entityKind = some .toolCall := by rw [type, EventType.entityKind]
  have completes : event.completes = true := by rw [StreamEvent.completes, type]
  unfold projectEvent at projected
  simp only [type] at projected
  obtain ⟨called, calledOk, built⟩ := bind_ok projected
  have write (kind : EntityKind) : Projected state called event kind :=
    projected_upsertToolCall owner calledOk
  cases named : (event.payload.get "tool_call_id").identifier? with
  | none => simp [upsertToolCall, named] at calledOk
  | some id =>
    have target : event.target = some (.toolCall, id) :=
      StreamEvent.target_of_named owner named
    have text : (event.payload.get "tool_call_id").text? = some id := by
      rw [(identifier?_eq_some.mp named).1, Json.text?]
    simp only [text] at built
    cases Except.ok.inj built
    cases kind with
    | toolCall =>
      refine (write .toolCall).of_update (completeToolCall interpreter event.payload)
        target completes (sameMarks_completeToolCall event.payload) ?_
      exact setActiveState_entities _
    | modelCall | block | toolExecution | activity =>
      exact projected_of_entities (write _) (setActiveState_entities _)

theorem projected_projectEvent (projected : projectEvent interpreter state event = .ok next)
    (kind : EntityKind) : Projected state next event kind := by
  have whole := projected
  unfold projectEvent at projected
  cases type : event.type with
  | streamOpened =>
    simp only [type, Except.ok.injEq] at projected
    subst projected
    cases kind <;> exact .of_other (by simp [type, EventType.entityKind]) rfl
  | modelStarted =>
    simp only [type] at projected
    obtain ⟨attempt, _, built⟩ := bind_ok projected
    cases Except.ok.inj built
    refine projected_upsertModelCall _ _ (by simp [type, EventType.entityKind]) ?_
      (setActiveState_entities _)
    intro kind
    cases kind <;> rfl
  | modelCompleted =>
    simp only [type, Except.ok.injEq] at projected
    subst projected
    refine projected_upsertModelCall _ _ (by simp [type, EventType.entityKind]) ?_ rfl
    intro kind
    cases kind <;> rfl
  | modelFailed =>
    simp only [type, Except.ok.injEq] at projected
    subst projected
    refine projected_upsertModelCall "failed" { state with agentLoopStatus := "validating" }
      (by simp [type, EventType.entityKind]) ?_ ?_
    · intro kind
      cases kind <;> rfl
    · cases kind <;> rfl
  | modelRetrying =>
    simp only [type, Except.ok.injEq] at projected
    subst projected
    cases kind with
    | block =>
      refine .relabelled (forall₂_sameMarks_map ?_ state.blocks)
        (by simp [StreamEvent.target, type, EventType.entityKind])
      intro block
      split
      · exact (sameMarks_refl _).insert (by decide)
      · exact sameMarks_refl _
    | modelCall | toolCall | toolExecution | activity =>
      exact .of_other (by simp [type, EventType.entityKind]) rfl
  | blockStarted =>
    simp only [type] at projected
    obtain ⟨started, startedOk, built⟩ := bind_ok projected
    cases Except.ok.inj built
    refine projected_of_entities (projected_upsertBlock (by simp [type, EventType.entityKind])
      ?_ startedOk) (setActiveState_entities _)
    intro entity record same
    cases same
    exact fun _ _ => rfl
  | blockDelta =>
    simp only [type] at projected
    refine projected_upsertBlock (by simp [type, EventType.entityKind]) ?_ projected
    intro entity record changed key member
    refine lookup_applyBlockDelta ?_ changed
    revert member
    simp only [completionKeys, List.mem_cons, List.not_mem_nil, or_false]
    rintro (rfl | rfl | rfl) <;> decide
  | blockCompleted => exact projected_blockCompleted type whole
  | toolCall =>
    simp only [type] at projected
    obtain ⟨called, calledOk, built⟩ := bind_ok projected
    cases Except.ok.inj built
    exact projected_of_entities (projected_upsertToolCall
      (by simp [type, EventType.entityKind]) calledOk) (setActiveState_entities _)
  | toolCallDelta =>
    simp only [type] at projected
    obtain ⟨called, calledOk, built⟩ := bind_ok projected
    cases Except.ok.inj built
    exact projected_of_entities (projected_upsertToolCall
      (by simp [type, EventType.entityKind]) calledOk) (setActiveState_entities _)
  | toolCallCompleted => exact projected_toolCallCompleted type whole
  | toolStarted =>
    simp only [type] at projected
    obtain ⟨started, startedOk, built⟩ := bind_ok projected
    cases Except.ok.inj built
    refine projected_of_entities (projected_upsertTool
      (by simp [type, EventType.entityKind]) startedOk) ((setActiveState_entities _).trans ?_)
    cases kind <;> rfl
  | toolCompleted =>
    simp only [type] at projected
    obtain ⟨completed, completedOk, built⟩ := bind_ok projected
    cases Except.ok.inj built
    exact projected_of_entities (projected_upsertTool
      (by simp [type, EventType.entityKind]) completedOk) (setActiveState_entities _)
  | activity stage =>
    simp only [type] at projected
    exact projected_applyActivityEvent type projected
  | interruptRequested =>
    simp only [type, Except.ok.injEq] at projected
    subst projected
    cases kind <;> exact .of_other (by simp [type, EventType.entityKind]) rfl
  | interruptRejected =>
    simp only [type] at projected
    refine .of_other (by simp [type, EventType.entityKind]) ?_
    split at projected
    · cases projected
      rfl
    · cases projected
      cases kind <;> rfl
  | streamCompleted =>
    simp only [type, Except.ok.injEq] at projected
    subst projected
    refine .of_other (by simp [type, EventType.entityKind])
      ((setTerminalActiveState_entities _ _).trans ?_)
    cases kind <;> rfl
  | streamInterrupted =>
    simp only [type] at projected
    obtain ⟨finished, finishedOk, built⟩ := bind_ok projected
    cases Except.ok.inj built
    refine .relabelled ?_ (by simp [StreamEvent.target, type, EventType.entityKind])
    have marks := sameMarks_finishEntities finishedOk kind
    cases kind <;> exact marks
  | streamFailed =>
    simp only [type] at projected
    obtain ⟨finished, finishedOk, built⟩ := bind_ok projected
    cases Except.ok.inj built
    refine .relabelled ?_ (by simp [StreamEvent.target, type, EventType.entityKind])
    have marks := sameMarks_finishEntities finishedOk kind
    cases kind <;> exact marks
  | other name =>
    simp only [type, Except.ok.injEq] at projected
    exact .of_other (by simp [type, EventType.entityKind]) (by rw [projected])

end Branches

section Marking

variable {interpreter : Interpreter} {state next : StreamState} {event : StreamEvent}
  {kind : EntityKind} {id : String}

def EventType.closesEntities : EventType → Bool
  | .streamInterrupted | .streamFailed => true
  | _ => false

inductive EntityStep (state next : StreamState) (event : StreamEvent) (kind : EntityKind) :
    Prop where
  | relabelled (same : List.Forall₂ (SameMarks kind) (state.entities kind) (next.entities kind))
      (absent : ∀ id, event.target = some (kind, id) → next.find kind id = none)
  | marked (base : List Fields)
      (same : List.Forall₂ (SameMarks kind) (state.entities kind) base)
      (id : String) (record : Fields) (target : event.target = some (kind, id))
      (named : hasId kind.idKey id record = true)
      (put : next.entities kind = putFirst (hasId kind.idKey id)
        (markEntityLifecycle event event.completes record) base)
      (completion : event.completes = false →
        ∃ expected, writtenRecord state event = some expected ∧
          ∀ key ∈ completionKeys, record.lookup key = expected.lookup key)

theorem find_forall₂ {first second : List Fields}
    (same : List.Forall₂ (SameMarks kind) first second) {entity : Fields}
    (found : second.find? (hasId kind.idKey id) = some entity) :
    ∃ earlier, first.find? (hasId kind.idKey id) = some earlier ∧
      SameMarks kind earlier entity := by
  induction same with
  | nil => cases found
  | @cons before after _ _ marks _ ih =>
    have sameId : hasId kind.idKey id after = hasId kind.idKey id before :=
      hasId_congr (marks _ (by simp))
    by_cases wanted : hasId kind.idKey id before = true
    · rw [List.find?_cons_of_pos (by rw [sameId]; exact wanted)] at found
      exact ⟨before, by simp [wanted], Option.some.inj found ▸ marks⟩
    · rw [List.find?_cons_of_neg (by rw [sameId]; exact wanted)] at found
      obtain ⟨earlier, earlierFound, marksEarlier⟩ := ih found
      exact ⟨earlier, by simpa [wanted] using earlierFound, marksEarlier⟩

theorem setEntities_entities (entities : List Fields) (other : EntityKind) :
    (state.setEntities kind entities).entities other =
      if other = kind then entities else state.entities other := by
  cases kind <;> cases other <;> rfl

theorem markEventLifecycle_of_target (open_ : event.type.closesEntities = false)
    (target : event.target = some (kind, id)) :
    markEventLifecycle state event =
      state.setEntities kind (updateFirst (hasId kind.idKey id)
        (markEntityLifecycle event event.completes) (state.entities kind)) := by
  unfold markEventLifecycle
  cases type : event.type with
  | streamInterrupted => simp [type, EventType.closesEntities] at open_
  | streamFailed => simp [type, EventType.closesEntities] at open_
  | _ => simp only [target]

theorem markEventLifecycle_of_none (open_ : event.type.closesEntities = false)
    (target : event.target = none) : markEventLifecycle state event = state := by
  unfold markEventLifecycle
  cases type : event.type with
  | streamInterrupted => simp [type, EventType.closesEntities] at open_
  | streamFailed => simp [type, EventType.closesEntities] at open_
  | _ => simp only [target]

theorem applyEvent_ok (applied : applyEvent interpreter state event = .ok next) :
    ∃ projected, projectEvent interpreter state event = .ok projected ∧
      next = markEventLifecycle projected event := by
  obtain ⟨_, _, rest⟩ := bind_ok applied
  obtain ⟨projected, projectedOk, built⟩ := bind_ok rest
  exact ⟨projected, projectedOk, (Except.ok.inj built).symm⟩

theorem entityStep_applyEvent (open_ : event.type.closesEntities = false)
    (applied : applyEvent interpreter state event = .ok next) (kind : EntityKind) :
    EntityStep state next event kind := by
  obtain ⟨projected, projectedOk, rfl⟩ := applyEvent_ok applied
  have write := projected_projectEvent projectedOk kind
  cases target : event.target with
  | none =>
    rw [markEventLifecycle_of_none open_ target]
    cases write with
    | relabelled same => exact .relabelled same (by simp [target])
    | written id record foundTarget =>
      rw [target] at foundTarget
      cases foundTarget
  | some named =>
    obtain ⟨owner, id⟩ := named
    rw [markEventLifecycle_of_target open_ target]
    by_cases other : kind = owner
    · subst other
      have marked : (projected.setEntities kind (updateFirst (hasId kind.idKey id)
          (markEntityLifecycle event event.completes) (projected.entities kind))).entities kind =
          updateFirst (hasId kind.idKey id) (markEntityLifecycle event event.completes)
            (projected.entities kind) := by
        rw [setEntities_entities, if_pos rfl]
      cases write with
      | relabelled same unwritten =>
        cases found : (projected.entities kind).find? (hasId kind.idKey id) with
        | none =>
          have unchanged : updateFirst (hasId kind.idKey id)
              (markEntityLifecycle event event.completes) (projected.entities kind) =
              projected.entities kind := updateFirst_eq_self (by simp [found])
          refine .relabelled ?_ ?_
          · rw [marked, unchanged]
            exact same
          · intro other otherTarget
            cases target.symm.trans otherTarget
            rw [StreamState.find, marked, unchanged, found]
        | some entity =>
          obtain ⟨earlier, earlierFound, marks⟩ := find_forall₂ same found
          refine .marked (projected.entities kind) same id entity target
            (List.find?_some found) (marked.trans (updateFirst_of_find found)) ?_
          intro completesNot
          rcases unwritten id target with completes | unnamed
          · rw [completes] at completesNot
            cases completesNot
          · refine ⟨earlier, ?_, ?_⟩
            · rw [writtenRecord, target]
              simp only [unnamed]
              exact earlierFound
            · intro key member
              apply marks
              revert member
              simp only [completionKeys, lifecycleKeys, List.mem_cons, List.not_mem_nil,
                or_false]
              tauto
      | written found record foundTarget named put completion =>
        cases target.symm.trans foundTarget
        refine .marked (state.entities kind) (forall₂_sameMarks_refl _) id record target named
          ?_ completion
        rw [marked, put, updateFirst_putFirst named]
    · refine .relabelled ?_ ?_
      · rw [setEntities_entities, if_neg other]
        cases write with
        | relabelled same => exact same
        | written found record foundTarget =>
          cases target.symm.trans foundTarget
          exact absurd rfl other
      · intro found foundTarget
        cases target.symm.trans foundTarget
        exact absurd rfl other

end Marking

end GraphAgent.MessageStream
