import GraphAgent.StreamFrames

/-!
# Settled states

A state is settled for an event that it carries the marks of.  Applying an
event settles the state for it, and later events leave it settled for the
earlier ones unless one of them writes over a completion mark.
-/

namespace GraphAgent.MessageStream

open FirstMatch Json

/-- Whether stamping again would write what is there. -/
def stampedBy (event : StreamEvent) (seqKey timeKey : String) (entity : Fields) : Bool :=
  !reachedBy event.eventSeq (entity.get seqKey) ||
    ((entity.get seqKey).int? = some (event.eventSeq : Int) &&
      event.timestamp.all fun timestamp => (entity.get timeKey).text? = some timestamp)

def keepsCompletion (state : StreamState) (earlier event : StreamEvent) : Bool :=
  !earlier.completes || event.completes || event.target ≠ earlier.target ||
    (writtenRecord state event).all (stampedBy earlier "completed_seq" "completed_at")

def Settled (state : StreamState) (event : StreamEvent) : Prop :=
  if event.type.closesEntities then
    ∀ kind, ∀ entity ∈ state.entities kind, entity.has "completed_seq" = true
  else
    ∀ kind id, event.target = some (kind, id) → ∀ entity, state.find kind id = some entity →
      Marked event event.completes entity

variable {interpreter : Interpreter} {state next : StreamState} {event earlier : StreamEvent}
  {kind : EntityKind} {id : String}

theorem lookup_of_int? {entity : Fields} {key : String} {seq : Int}
    (number : (entity.get key).int? = some seq) : entity.lookup key = some (.int seq) := by
  rw [Fields.get] at number
  cases found : entity.lookup key with
  | none => simp [found, Json.int?] at number
  | some value => cases value <;> simp_all [Json.int?]

theorem lookup_of_text? {entity : Fields} {key text : String}
    (isText : (entity.get key).text? = some text) : entity.lookup key = some (.str text) := by
  rw [Fields.get] at isText
  cases found : entity.lookup key with
  | none => simp [found, Json.text?] at isText
  | some value => cases value <;> simp_all [Json.text?]

theorem StampedBy.of_stampedBy {seqKey timeKey : String} {entity : Fields}
    (stamped : stampedBy event seqKey timeKey entity = true) :
    StampedBy event seqKey timeKey entity := by
  intro reached
  simp only [stampedBy, reached, Bool.not_true, Bool.false_or, Bool.and_eq_true,
    decide_eq_true_eq, Option.all_eq_true] at stamped
  refine ⟨lookup_of_int? stamped.1, ?_⟩
  intro timestamp timed
  have text := stamped.2 timestamp timed
  exact lookup_of_text? (by simpa using text)

theorem markEventLifecycle_closing (closes : event.type.closesEntities = true) :
    markEventLifecycle state event =
      { state with
        modelCalls := state.modelCalls.map (markUncompleted event)
        blocks := state.blocks.map (markUncompleted event)
        toolCalls := state.toolCalls.map (markUncompleted event)
        toolExecutions := state.toolExecutions.map (markUncompleted event)
        activities := state.activities.map (markUncompleted event) } := by
  unfold markEventLifecycle
  cases type : event.type with
  | streamInterrupted | streamFailed => rfl
  | _ => simp [type, EventType.closesEntities] at closes

theorem Settled.mark_eq (settled : Settled state event) :
    markEventLifecycle state event = state := by
  unfold Settled at settled
  split at settled
  · rename_i closes
    have unchanged (kind : EntityKind) :
        (state.entities kind).map (markUncompleted event) = state.entities kind := by
      have same : ∀ entity ∈ state.entities kind, markUncompleted event entity = entity := by
        intro entity member
        simp [markUncompleted, settled kind entity member]
      rw [List.map_congr_left same, List.map_id']
    rw [markEventLifecycle_closing closes]
    have calls := unchanged .modelCall
    have blocks := unchanged .block
    have toolCalls := unchanged .toolCall
    have executions := unchanged .toolExecution
    have activities := unchanged .activity
    simp only [StreamState.entities] at calls blocks toolCalls executions activities
    rw [calls, blocks, toolCalls, executions, activities]
  · rename_i open_
    rw [Bool.not_eq_true] at open_
    cases target : event.target with
    | none => exact markEventLifecycle_of_none open_ target
    | some named =>
      obtain ⟨kind, id⟩ := named
      rw [markEventLifecycle_of_target open_ target, updateFirst_eq_self]
      · cases kind <;> rfl
      · intro entity found
        exact (settled kind id target entity found).mark_eq

theorem has_markUncompleted {entity : Fields} :
    (markUncompleted event entity).has "completed_seq" = true := by
  unfold markUncompleted
  split
  · assumption
  · obtain ⟨seq, found, _⟩ := stampWhen_reaches "completed_seq" "completed_at" event
      (markEntityLifecycle event false entity) (by decide)
    rw [Dictionary.has, markEntityLifecycle_true, found]
    rfl

theorem entities_of_closing (closes : event.type.closesEntities = true)
    (applied : applyEvent interpreter state event = .ok next) (kind : EntityKind) :
    ∃ finished, List.Forall₂ (SameMarks kind) (state.entities kind) finished ∧
      next.entities kind = finished.map (markUncompleted event) := by
  obtain ⟨projected, projectedOk, rfl⟩ := applyEvent_ok applied
  refine ⟨projected.entities kind, ?_, ?_⟩
  · have write := projected_projectEvent projectedOk kind
    cases write with
    | relabelled same => exact same
    | written id record target =>
      cases type : event.type <;>
        simp [type, EventType.closesEntities] at closes <;>
        simp [StreamEvent.target, type, EventType.entityKind] at target
  · rw [markEventLifecycle_closing closes]
    cases kind <;> rfl

theorem settled_applyEvent (positive : 0 < event.eventSeq)
    (applied : applyEvent interpreter state event = .ok next) : Settled next event := by
  unfold Settled
  split
  · rename_i closes
    intro kind entity member
    obtain ⟨finished, _, marked⟩ := entities_of_closing closes applied kind
    rw [marked] at member
    obtain ⟨earlier, _, rfl⟩ := List.mem_map.mp member
    exact has_markUncompleted
  · rename_i open_
    rw [Bool.not_eq_true] at open_
    intro kind id target entity found
    cases entityStep_applyEvent open_ applied kind with
    | relabelled same absent =>
      rw [absent id target] at found
      cases found
    | marked base same markedId record markedTarget named put completion =>
      cases target.symm.trans markedTarget
      have isMatch : hasId kind.idKey id (markEntityLifecycle event event.completes record) =
          true := by
        rw [hasId_markEntityLifecycle]
        exact named
      rw [StreamState.find, put, find_putFirst isMatch] at found
      rw [← Option.some.inj found]
      exact marked_markEntityLifecycle positive

theorem SameMarks.marked {first second : Fields} {completed : Bool}
    (marks : SameMarks kind first second) (marked : Marked earlier completed first) :
    Marked earlier completed second :=
  marked.congr fun key member => marks key (List.mem_cons_of_mem _ member)

theorem Marked.uncompleted {entity : Fields} {completed : Bool} (positive : 0 < event.eventSeq)
    (before : earlier.eventSeq < event.eventSeq) (marked : Marked earlier completed entity) :
    Marked earlier completed (markUncompleted event entity) := by
  unfold markUncompleted
  split
  · exact marked
  · exact marked_of_later positive before (by simp)

theorem find_map_markUncompleted {finished : List Fields} :
    (finished.map (markUncompleted event)).find? (hasId kind.idKey id) =
      (finished.find? (hasId kind.idKey id)).map (markUncompleted event) := by
  apply find_map_of_keeps
  intro entity
  unfold markUncompleted
  split
  · rfl
  · exact hasId_markEntityLifecycle kind id

theorem interruptRejected_entities (rejected : event.type = .interruptRejected)
    (applied : applyEvent interpreter state event = .ok next) (kind : EntityKind) :
    next.entities kind = state.entities kind := by
  obtain ⟨projected, projectedOk, rfl⟩ := applyEvent_ok applied
  have target : event.target = none := by
    simp [StreamEvent.target, rejected, EventType.entityKind]
  rw [markEventLifecycle_of_none (by simp [rejected, EventType.closesEntities]) target]
  unfold projectEvent at projectedOk
  rw [rejected] at projectedOk
  simp only at projectedOk
  split at projectedOk
  · rw [Except.ok.inj projectedOk]
  · rw [← Except.ok.inj projectedOk]
    cases kind <;> rfl

theorem Settled.later (settled : Settled state earlier) (positive : 0 < event.eventSeq)
    (before : earlier.eventSeq < event.eventSeq)
    (applied : applyEvent interpreter state event = .ok next)
    (kept : keepsCompletion state earlier event = true)
    (closed : earlier.type.closesEntities = true → event.type = .interruptRejected) :
    Settled next earlier := by
  unfold Settled at settled ⊢
  split at settled
  · rename_i closes
    rw [if_pos closes]
    intro kind entity member
    rw [interruptRejected_entities (closed closes) applied kind] at member
    exact settled kind entity member
  · rename_i open_
    rw [if_neg open_]
    intro kind id target entity found
    cases closes : event.type.closesEntities with
    | true =>
      obtain ⟨finished, same, marked⟩ := entities_of_closing closes applied kind
      rw [StreamState.find, marked, find_map_markUncompleted] at found
      obtain ⟨closedEntity, closedFound, rfl⟩ := Option.map_eq_some_iff.mp found
      obtain ⟨original, originalFound, marks⟩ := find_forall₂ same closedFound
      exact (marks.marked (settled kind id target original originalFound)).uncompleted
        positive before
    | false =>
      cases entityStep_applyEvent closes applied kind with
      | relabelled same absent =>
        obtain ⟨original, originalFound, marks⟩ := find_forall₂ same found
        exact marks.marked (settled kind id target original originalFound)
      | marked base same markedId record markedTarget named put completion =>
        have isMatch : hasId kind.idKey markedId
            (markEntityLifecycle event event.completes record) = true := by
          rw [hasId_markEntityLifecycle]
          exact named
        by_cases sameId : markedId = id
        · subst sameId
          rw [StreamState.find, put, find_putFirst isMatch] at found
          rw [← Option.some.inj found]
          apply marked_of_later positive before
          intro finishes running
          obtain ⟨expected, written, sameKeys⟩ := completion running
          have stamped : stampedBy earlier "completed_seq" "completed_at" expected =
              true := by
            simpa [keepsCompletion, finishes, running, markedTarget, target, written]
              using kept
          exact (StampedBy.of_stampedBy stamped).congr (sameKeys _ (by decide))
            (sameKeys _ (by decide))
        · have untouched : (putFirst (hasId kind.idKey markedId)
              (markEntityLifecycle event event.completes record) base).find?
                (hasId kind.idKey id) = base.find? (hasId kind.idKey id) := by
            apply find_putFirst_other _ isMatch
            intro entity isMarked
            exact hasId_unique isMarked sameId
          rw [StreamState.find, put, untouched] at found
          obtain ⟨original, originalFound, marks⟩ := find_forall₂ same found
          exact marks.marked (settled kind id target original originalFound)

end GraphAgent.MessageStream
