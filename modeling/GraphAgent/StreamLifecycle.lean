import GraphAgent.StreamSystem

/-!
# Lifecycle marks

An event marks the entity it names.  An entity that carries the mark of an
event is not changed by marking it again, and marks of later events keep it
that way; only the completion mark can be lost, when a payload writes over it.
-/

namespace GraphAgent.MessageStream

/-- The six fields that only marks are meant to write. -/
def lifecycleKeys : List String :=
  ["started_seq", "started_at", "last_event_seq", "updated_at", "completed_seq", "completed_at"]

def completionKeys : List String := ["completed_seq", "completed_at"]

theorem idKey_not_lifecycle (kind : EntityKind) : kind.idKey ∉ lifecycleKeys := by
  cases kind <;> decide

section Marks

variable {event earlier : StreamEvent} {entity : Fields} {seqKey timeKey key : String}
  {condition : Json → Bool} {completed : Bool}

theorem markEntityLifecycle_false :
    markEntityLifecycle event false entity =
      stampWhen (reachedBy event.eventSeq) "last_event_seq" "updated_at" event
        (stampWhen lacksStart "started_seq" "started_at" event entity) :=
  rfl

theorem markEntityLifecycle_true :
    markEntityLifecycle event true entity =
      stampWhen (reachedBy event.eventSeq) "completed_seq" "completed_at" event
        (markEntityLifecycle event false entity) :=
  rfl

theorem lookup_stampEntity (seqDiffers : seqKey ≠ key) (timeDiffers : timeKey ≠ key) :
    (stampEntity seqKey timeKey event entity).lookup key = entity.lookup key := by
  unfold stampEntity
  cases event.timestamp <;> simp [seqDiffers, timeDiffers]

theorem lookup_stampWhen (seqDiffers : seqKey ≠ key) (timeDiffers : timeKey ≠ key) :
    (stampWhen condition seqKey timeKey event entity).lookup key = entity.lookup key := by
  unfold stampWhen
  split
  · exact lookup_stampEntity seqDiffers timeDiffers
  · rfl

theorem lookup_stampEntity_seq (differs : timeKey ≠ seqKey) :
    (stampEntity seqKey timeKey event entity).lookup seqKey = some (.int event.eventSeq) := by
  unfold stampEntity
  cases event.timestamp <;> simp [differs]

theorem lookup_stampEntity_time {timestamp : String} (timed : event.timestamp = some timestamp) :
    (stampEntity seqKey timeKey event entity).lookup timeKey = some (.str timestamp) := by
  simp [stampEntity, timed]

theorem lookup_mark_false (foreign : key ∉ ["started_seq", "started_at", "last_event_seq",
      "updated_at"]) :
    (markEntityLifecycle event false entity).lookup key = entity.lookup key := by
  simp only [List.mem_cons, List.not_mem_nil, or_false, not_or] at foreign
  obtain ⟨startedSeq, startedAt, lastSeq, updatedAt⟩ := foreign
  rw [markEntityLifecycle_false, lookup_stampWhen (Ne.symm lastSeq) (Ne.symm updatedAt),
    lookup_stampWhen (Ne.symm startedSeq) (Ne.symm startedAt)]

theorem lookup_markEntityLifecycle (foreign : key ∉ lifecycleKeys) :
    (markEntityLifecycle event completed entity).lookup key = entity.lookup key := by
  simp only [lifecycleKeys, List.mem_cons, List.not_mem_nil, or_false, not_or] at foreign
  obtain ⟨startedSeq, startedAt, lastSeq, updatedAt, completedSeq, completedAt⟩ := foreign
  have untouched : (markEntityLifecycle event false entity).lookup key = entity.lookup key :=
    lookup_mark_false (by simp [startedSeq, startedAt, lastSeq, updatedAt])
  cases completed with
  | false => exact untouched
  | true =>
    rw [markEntityLifecycle_true, lookup_stampWhen (Ne.symm completedSeq)
      (Ne.symm completedAt), untouched]

theorem lookup_mark_of_completion (member : key ∈ completionKeys) :
    (markEntityLifecycle event false entity).lookup key = entity.lookup key := by
  apply lookup_mark_false
  simp only [completionKeys, List.mem_cons, List.not_mem_nil, or_false] at member
  rcases member with rfl | rfl <;> decide

theorem hasId_congr {first second : Fields} {id : String}
    (same : first.lookup key = second.lookup key) : hasId key id first = hasId key id second := by
  rw [hasId, Fields.get, same, hasId, Fields.get]

theorem hasId_markEntityLifecycle (kind : EntityKind) (id : String) :
    hasId kind.idKey id (markEntityLifecycle event completed entity) =
      hasId kind.idKey id entity :=
  hasId_congr (lookup_markEntityLifecycle (idKey_not_lifecycle kind))

/-- Stamping again would write what is there. -/
def StampedBy (event : StreamEvent) (seqKey timeKey : String) (entity : Fields) : Prop :=
  reachedBy event.eventSeq (entity.get seqKey) = true →
    entity.lookup seqKey = some (.int event.eventSeq) ∧
      ∀ timestamp, event.timestamp = some timestamp →
        entity.lookup timeKey = some (.str timestamp)

structure Marked (event : StreamEvent) (completed : Bool) (entity : Fields) : Prop where
  started : lacksStart (entity.get "started_seq") = false
  updated : StampedBy event "last_event_seq" "updated_at" entity
  completion : completed = true → StampedBy event "completed_seq" "completed_at" entity

theorem stampWhen_of_stampedBy (stamped : StampedBy event seqKey timeKey entity) :
    stampWhen (reachedBy event.eventSeq) seqKey timeKey event entity = entity := by
  unfold stampWhen
  split
  · rename_i reached
    obtain ⟨sequence, times⟩ := stamped reached
    rw [stampEntity, Dictionary.insert_of_lookup sequence]
    cases timed : event.timestamp with
    | none => rfl
    | some timestamp => exact Dictionary.insert_of_lookup (times timestamp timed)
  · rfl

theorem Marked.mark_eq (marked : Marked event completed entity) :
    markEntityLifecycle event completed entity = entity := by
  have started : stampWhen lacksStart "started_seq" "started_at" event entity = entity := by
    simp [stampWhen, marked.started]
  have updated : markEntityLifecycle event false entity = entity := by
    rw [markEntityLifecycle_false, started, stampWhen_of_stampedBy marked.updated]
  cases completed with
  | false => exact updated
  | true => rw [markEntityLifecycle_true, updated, stampWhen_of_stampedBy (marked.completion rfl)]

theorem Marked.congr {other : Fields} (marked : Marked event completed entity)
    (same : ∀ key ∈ lifecycleKeys, other.lookup key = entity.lookup key) :
    Marked event completed other := by
  have sameGet : ∀ key ∈ lifecycleKeys, Fields.get other key = entity.get key := by
    intro key member
    rw [Fields.get, same key member, Fields.get]
  refine ⟨?_, ?_, ?_⟩
  · rw [sameGet _ (by decide)]
    exact marked.started
  · unfold StampedBy
    rw [sameGet _ (by decide), same _ (by decide), same _ (by decide)]
    exact marked.updated
  · intro completes
    unfold StampedBy
    rw [sameGet _ (by decide), same _ (by decide), same _ (by decide)]
    exact marked.completion completes

theorem StampedBy.congr {other : Fields} (stamped : StampedBy event seqKey timeKey entity)
    (sameSeq : other.lookup seqKey = entity.lookup seqKey)
    (sameTime : other.lookup timeKey = entity.lookup timeKey) :
    StampedBy event seqKey timeKey other := by
  unfold StampedBy
  rw [Fields.get, sameSeq, sameTime]
  exact stamped

theorem stampWhen_reaches (seqKey timeKey : String) (event : StreamEvent) (entity : Fields)
    (differs : timeKey ≠ seqKey) :
    ∃ seq : Int, (stampWhen (reachedBy event.eventSeq) seqKey timeKey event entity).lookup seqKey =
      some (.int seq) ∧ (event.eventSeq : Int) ≤ seq := by
  unfold stampWhen
  split
  · exact ⟨event.eventSeq, lookup_stampEntity_seq differs, le_refl _⟩
  · rename_i notReached
    rw [Bool.not_eq_true] at notReached
    unfold reachedBy at notReached
    cases number : (entity.get seqKey).int? with
    | none => simp [number] at notReached
    | some seq =>
      simp only [number, decide_eq_false_iff_not, not_le] at notReached
      refine ⟨seq, ?_, le_of_lt notReached⟩
      rw [Fields.get] at number
      cases found : entity.lookup seqKey with
      | none => simp [found, Json.int?] at number
      | some value =>
        cases value <;> simp [found, Json.int?] at number
        rw [number]

theorem stampedBy_stampWhen (differs : timeKey ≠ seqKey) :
    StampedBy event seqKey timeKey
      (stampWhen (reachedBy event.eventSeq) seqKey timeKey event entity) := by
  intro reached
  unfold stampWhen at reached ⊢
  split at reached
  · rename_i condition
    rw [if_pos condition]
    exact ⟨lookup_stampEntity_seq differs, fun _ timed => lookup_stampEntity_time timed⟩
  · rename_i condition
    exact absurd reached condition

theorem stampedBy_of_later (before : earlier.eventSeq < event.eventSeq) (seq : Int)
    (found : entity.lookup seqKey = some (.int seq)) (later : (event.eventSeq : Int) ≤ seq) :
    StampedBy earlier seqKey timeKey entity := by
  intro reached
  simp only [reachedBy, Fields.get, found, Option.getD_some, Json.int?, decide_eq_true_eq]
    at reached
  omega

theorem started_of_stampWhen (positive : 0 < event.eventSeq) :
    lacksStart ((stampWhen lacksStart "started_seq" "started_at" event entity).get
      "started_seq") = false := by
  unfold stampWhen
  split
  · rw [Fields.get, lookup_stampEntity_seq (by decide)]
    simp only [Option.getD_some, lacksStart, Json.int?, decide_eq_false_iff_not, not_le]
    omega
  · rename_i present
    simpa using present

theorem marked_mark_false (positive : 0 < event.eventSeq) :
    Marked event false (markEntityLifecycle event false entity) := by
  refine ⟨?_, stampedBy_stampWhen (by decide), by simp⟩
  rw [markEntityLifecycle_false, Fields.get, lookup_stampWhen (by decide) (by decide)]
  exact started_of_stampWhen positive

theorem marked_markEntityLifecycle (positive : 0 < event.eventSeq) :
    Marked event completed (markEntityLifecycle event completed entity) := by
  have marked : Marked event false (markEntityLifecycle event false entity) :=
    marked_mark_false positive
  cases completed with
  | false => exact marked
  | true =>
    refine ⟨?_, ?_, fun _ => stampedBy_stampWhen (by decide)⟩
    · rw [markEntityLifecycle_true, Fields.get, lookup_stampWhen (by decide) (by decide)]
      exact marked.started
    · exact marked.updated.congr (lookup_stampWhen (by decide) (by decide))
        (lookup_stampWhen (by decide) (by decide))

/-- The mark of a later event supersedes that of an earlier one, up to the
completion, which a later event without completion must find intact. -/
theorem marked_of_later (positive : 0 < event.eventSeq)
    (before : earlier.eventSeq < event.eventSeq) {finished : Bool}
    (kept : finished = true → completed = false →
      StampedBy earlier "completed_seq" "completed_at" entity) :
    Marked earlier finished (markEntityLifecycle event completed entity) := by
  have marked : Marked event completed (markEntityLifecycle event completed entity) :=
    marked_markEntityLifecycle positive
  refine ⟨marked.started, ?_, ?_⟩
  · obtain ⟨seq, found, later⟩ := stampWhen_reaches "last_event_seq" "updated_at" event
      (stampWhen lacksStart "started_seq" "started_at" event entity) (by decide)
    refine stampedBy_of_later before seq ?_ later
    cases completed with
    | false => exact found
    | true =>
      rw [markEntityLifecycle_true, lookup_stampWhen (by decide) (by decide)]
      exact found
  · intro finishedTrue
    cases completed with
    | false =>
      exact (kept finishedTrue rfl).congr
        (lookup_mark_of_completion (by decide)) (lookup_mark_of_completion (by decide))
    | true =>
      obtain ⟨seq, found, later⟩ := stampWhen_reaches "completed_seq" "completed_at" event
        (markEntityLifecycle event false entity) (by decide)
      exact stampedBy_of_later before seq found later

end Marks

end GraphAgent.MessageStream
