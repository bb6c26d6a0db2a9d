import GraphAgent.OutboxClosure

/-!
# Lives of the catalog outbox

Every reachable outbox has distinct ids, so its rollbacks are exact when the
references of its operations follow their sequences.  They do in a life that
gives an operation its sequence after the operations it refers to.
-/

namespace GraphAgent.Outbox

open Transaction CatalogOutboxOperation ReferenceClosure

variable {outbox next : CatalogOutbox} {operation : CatalogOutboxOperation} {lifeStep : LifeStep}

theorem WellNumbered.step (numbered : WellNumbered outbox) (command : OutboxStep) :
    WellNumbered (step outbox command) := by
  unfold Outbox.step
  split
  · rename_i ok
    have invariant : Invariant False outbox := ⟨numbered, fun holds => holds.elim⟩
    exact (invariant.call (fun holds => holds.elim) ok).toWellNumbered
  · exact numbered

theorem ids_sublist (sublist : next.Sublist outbox)
    (unique : (outbox.map (·.clientOperationId)).Nodup) :
    (next.map (·.clientOperationId)).Nodup :=
  unique.sublist (sublist.map _)

theorem WellNumbered.sublist (numbered : WellNumbered outbox) (sublist : next.Sublist outbox) :
    WellNumbered next :=
  ⟨ids_sublist sublist numbered.ids, numbered.sequences.sublist sublist⟩

theorem WellNumbered.ordered (numbered : WellNumbered outbox) :
    WellNumbered (orderedCatalogOutboxOperations outbox) :=
  ⟨ordered_ids numbered.ids, ((ordered_perm outbox).pairwise_iff Distinct.symm).mpr
    numbered.sequences⟩

theorem normalizeRestored_numbered (operation : CatalogOutboxOperation) :
    numbered (normalizeRestored operation) = numbered operation := by
  unfold normalizeRestored
  split <;> rfl

theorem normalizeRestoredCatalogOutbox_numbered (outbox : CatalogOutbox) :
    (normalizeRestoredCatalogOutbox outbox).map numbered = outbox.map numbered := by
  rw [normalizeRestoredCatalogOutbox, List.map_map]
  exact List.map_congr_left fun operation _ => normalizeRestored_numbered operation

theorem WellNumbered.of_numbered (numbers : WellNumbered outbox)
    (same : next.map numbered = outbox.map numbered) : WellNumbered next := by
  have invariant : Invariant False outbox := ⟨numbers, fun holds => holds.elim⟩
  exact (invariant.of_numbered same).toWellNumbered

theorem resolve_sublist (outbox : CatalogOutbox) :
    (resolveCatalogOutboxFailures outbox).outbox.Sublist outbox := by
  unfold resolveCatalogOutboxFailures
  dsimp only
  split
  · exact List.Sublist.refl _
  · exact List.filter_sublist

theorem WellNumbered.live (numbers : WellNumbered outbox) (lifeStep : LifeStep) :
    WellNumbered (live outbox lifeStep) := by
  cases lifeStep with
  | edit command => exact numbers.step command
  | resolveFailures => exact numbers.sublist (resolve_sublist outbox)
  | prune reconciledCatalogRevision operationIds =>
    unfold Outbox.live
    dsimp only
    split
    · rename_i ok
      exact numbers.sublist (prune_safe numbers.ids ok).sublist
    · exact numbers
  | restore =>
    exact numbers.ordered.of_numbered (normalizeRestoredCatalogOutbox_numbered _)
  | reorder => exact numbers.ordered

theorem life_append (steps : List LifeStep) (lifeStep : LifeStep) :
    life (steps ++ [lifeStep]) = live (life steps) lifeStep := by
  rw [life, List.foldl_append]
  rfl

theorem life_wellNumbered (steps : List LifeStep) : WellNumbered (life steps) := by
  induction steps using List.reverseRecOn with
  | nil => exact ⟨List.nodup_nil, List.Pairwise.nil⟩
  | append_singleton steps lifeStep ih =>
    rw [life_append]
    exact ih.live lifeStep

/-- What the order of the operations rests on: ids, references and sequences. -/
abbrev Entry := (String × List String × Option String) × Option Nat

namespace Entry

def id (entry : Entry) : String := entry.1.1

def references (entry : Entry) : List String := entry.1.2.1 ++ entry.1.2.2.toList

def sequence (entry : Entry) : Option Nat := entry.2

end Entry

structure Backward (entries : List Entry) : Prop where
  known : ∀ entry ∈ entries, ∀ reference ∈ entry.references, ∃ other ∈ entries,
    other.id = reference
  proper : ∀ entry ∈ entries, entry.id ∉ entry.references
  inserted : entries.Pairwise fun earlier later => later.id ∉ earlier.references
  sequenced : ∀ entry ∈ entries, ∀ other ∈ entries, other.id ∈ entry.references →
    ∀ sequence, entry.sequence = some sequence →
      ∃ earlier, other.sequence = some earlier ∧ earlier < sequence

def Sequential (outbox : CatalogOutbox) : Prop := Backward (outbox.map numbered)

theorem Sequential.of_numbered (sequential : Sequential outbox)
    (same : next.map numbered = outbox.map numbered) : Sequential next := by
  rw [Sequential, same]
  exact sequential

theorem Sequential.known (sequential : Sequential outbox) (member : operation ∈ outbox)
    {reference : String} (refers : reference ∈ operation.references) :
    reference ∈ outbox.map (·.clientOperationId) := by
  obtain ⟨entry, present, same⟩ :=
    Backward.known sequential _ (List.mem_map_of_mem member) reference refers
  obtain ⟨other, inOutbox, rfl⟩ := List.mem_map.mp present
  exact same ▸ List.mem_map_of_mem inOutbox

theorem Sequential.sequenced (sequential : Sequential outbox) {other : CatalogOutboxOperation}
    (member : operation ∈ outbox) (present : other ∈ outbox)
    (refers : other.clientOperationId ∈ operation.references) {sequence : Nat}
    (own : operation.clientSequence = some sequence) :
    ∃ earlier, other.clientSequence = some earlier ∧ earlier < sequence :=
  Backward.sequenced sequential _ (List.mem_map_of_mem member) _ (List.mem_map_of_mem present)
    refers sequence own

theorem Sequential.inserted (sequential : Sequential outbox) :
    outbox.Pairwise fun earlier later => later.clientOperationId ∉ earlier.references :=
  List.pairwise_map.mp (Backward.inserted sequential)

theorem Sequential.proper (sequential : Sequential outbox) (member : operation ∈ outbox) :
    operation.clientOperationId ∉ operation.references :=
  Backward.proper sequential _ (List.mem_map_of_mem member)

theorem ordered_sorted (outbox : CatalogOutbox) :
    (orderedCatalogOutboxOperations outbox).Pairwise Precedes := by
  have : Std.Total Precedes := ⟨precedes_total⟩
  have : IsTrans CatalogOutboxOperation Precedes := ⟨precedes_trans⟩
  exact List.pairwise_insertionSort _ _

theorem Sequential.follows (sequential : Sequential outbox) {other : CatalogOutboxOperation}
    (member : operation ∈ outbox) (present : other ∈ outbox)
    (refers : other.clientOperationId ∈ operation.references) :
    [other, operation].Sublist (orderedCatalogOutboxOperations outbox) := by
  have differ : other ≠ operation := fun same => sequential.proper member (same ▸ refers)
  cases own : operation.clientSequence with
  | some sequence =>
    obtain ⟨earlier, theirs, smaller⟩ := sequential.sequenced member present refers own
    refine (pair_sublist (mem_ordered.mpr present) (mem_ordered.mpr member) differ).resolve_right
      fun reversed => ?_
    have precedes := List.pairwise_pair.mp ((ordered_sorted outbox).sublist reversed)
    rw [Precedes, own, theirs] at precedes
    exact absurd precedes (Nat.not_le.mpr smaller)
  | none =>
    have inserted : [other, operation].Sublist outbox :=
      (pair_sublist present member differ).resolve_right fun reversed =>
        List.pairwise_pair.mp (sequential.inserted.sublist reversed) refers
    have : Std.Total Precedes := ⟨precedes_total⟩
    have : IsTrans CatalogOutboxOperation Precedes := ⟨precedes_trans⟩
    refine List.sublist_insertionSort (List.pairwise_pair.mpr ?_) inserted
    unfold Precedes
    rw [own]
    cases other.clientSequence <;> trivial

theorem Sequential.dependsInOrder (sequential : Sequential outbox) (seeds : List String) :
    DependsInOrder outbox seeds := by
  intro operation member depends
  have ordered : Reaches (·.clientOperationId) references (orderedCatalogOutboxOperations outbox)
      seeds operation := depends.subset fun _ => mem_ordered.mpr
  exact ordered.inOrder
    (fun operation member other present =>
      sequential.follows (mem_ordered.mp member) (mem_ordered.mp present))
    (mem_ordered.mpr member)

theorem Sequential.kept (sequential : Sequential outbox) (sublist : next.Sublist outbox)
    (closed : NoDangling outbox next) : Sequential next where
  known := by
    intro entry member reference refers
    obtain ⟨operation, isKept, rfl⟩ := List.mem_map.mp member
    obtain ⟨other, present, same⟩ := List.mem_map.mp
      (closed operation isKept reference refers
        (sequential.known (sublist.subset isKept) refers))
    exact ⟨numbered other, List.mem_map_of_mem present, same⟩
  proper := fun entry member => Backward.proper sequential entry ((sublist.map _).subset member)
  inserted := (Backward.inserted sequential).sublist (sublist.map _)
  sequenced := fun entry member other present =>
    Backward.sequenced sequential entry ((sublist.map _).subset member) other
      ((sublist.map _).subset present)

theorem Sequential.ordered (sequential : Sequential outbox)
    (unique : (outbox.map (·.clientOperationId)).Nodup) :
    Sequential (orderedCatalogOutboxOperations outbox) := by
  have perm : ((orderedCatalogOutboxOperations outbox).map numbered).Perm
      (outbox.map numbered) := (ordered_perm outbox).map _
  refine ⟨fun entry member reference refers => ?_, fun entry member =>
    Backward.proper sequential entry (perm.mem_iff.mp member), ?_,
    fun entry member other present =>
      Backward.sequenced sequential entry (perm.mem_iff.mp member) other
        (perm.mem_iff.mp present)⟩
  · obtain ⟨other, present, same⟩ :=
      Backward.known sequential entry (perm.mem_iff.mp member) reference refers
    exact ⟨other, perm.mem_iff.mpr present, same⟩
  · rw [List.pairwise_map, List.pairwise_iff_forall_sublist]
    intro earlier later sublist refers
    have member := mem_ordered.mp (sublist.subset List.mem_cons_self)
    have present := mem_ordered.mp (sublist.subset (List.mem_cons_of_mem _ List.mem_cons_self))
    have follows := sequential.follows member present refers
    exact not_reversed (List.Nodup.of_map _ (ordered_ids unique)) sublist follows

theorem requireKnownOperationReference_ok {knownIds : List String}
    {clientOperationId field referencedId : String}
    (ok : requireKnownOperationReference knownIds clientOperationId field referencedId = .ok ()) :
    referencedId ≠ clientOperationId ∧ referencedId ∈ knownIds := by
  unfold requireKnownOperationReference at ok
  split at ok
  · cases ok
  · rename_i other
    split at ok
    · cases ok
    · rename_i known
      exact ⟨other, not_not.mp known⟩

theorem addCatalogOutboxIntent_references {clientOperationId : String}
    {intent : CatalogOutboxIntent} {options : CatalogOutboxOptions}
    (ok : addCatalogOutboxIntent outbox clientOperationId intent options = .ok next) :
    ∀ reference ∈ (pendingOperation clientOperationId intent options).references,
      reference ≠ clientOperationId ∧ reference ∈ outbox.map (·.clientOperationId) := by
  unfold addCatalogOutboxIntent at ok
  split at ok
  · cases ok
  · split at ok
    · cases ok
    · split at ok
      · cases ok
      · obtain ⟨_, dependencies, ok⟩ := bind_ok ok
        obtain ⟨_, parent, _⟩ := bind_ok ok
        intro reference refers
        rcases List.mem_append.mp refers with dependency | isParent
        · exact requireKnownOperationReference_ok (forM_iff.mp dependencies reference dependency)
        · have named : intent.parentCreatedByOperationId = some reference :=
            Option.mem_toList.mp isParent
          rw [requirePendingParent, named] at parent
          obtain ⟨_, known, _⟩ := bind_ok parent
          exact requireKnownOperationReference_ok known

theorem Sequential.added (sequential : Sequential outbox) {added : CatalogOutboxOperation}
    (fresh : added.clientOperationId ∉ outbox.map (·.clientOperationId))
    (unset : added.clientSequence = none)
    (refers : ∀ reference ∈ added.references, reference ≠ added.clientOperationId ∧
      reference ∈ outbox.map (·.clientOperationId)) :
    Sequential (outbox ++ [added]) := by
  have split : (outbox ++ [added]).map numbered = outbox.map numbered ++ [numbered added] := by
    rw [List.map_append, List.map_singleton]
  have unreferenced : ∀ entry ∈ outbox.map numbered,
      Entry.id (numbered added) ∉ Entry.references entry := by
    intro entry member refers
    obtain ⟨operation, inOutbox, rfl⟩ := List.mem_map.mp member
    exact fresh (sequential.known inOutbox refers)
  rw [Sequential, split]
  refine ⟨fun entry member reference names => ?_, fun entry member => ?_,
    List.pairwise_append.mpr ⟨Backward.inserted sequential, List.pairwise_singleton _ _, ?_⟩,
    fun entry member other present names sequence own => ?_⟩
  · rcases List.mem_append.mp member with old | new
    · obtain ⟨other, present, same⟩ := Backward.known sequential entry old reference names
      exact ⟨other, List.mem_append_left _ present, same⟩
    · obtain rfl := List.mem_singleton.mp new
      obtain ⟨other, present, same⟩ := List.mem_map.mp (refers reference names).2
      exact ⟨numbered other, List.mem_append_left _ (List.mem_map_of_mem present), same⟩
  · rcases List.mem_append.mp member with old | new
    · exact Backward.proper sequential entry old
    · obtain rfl := List.mem_singleton.mp new
      exact fun self => (refers _ self).1 rfl
  · intro entry member later new
    obtain rfl := List.mem_singleton.mp new
    exact unreferenced entry member
  · rcases List.mem_append.mp member with old | new
    · rcases List.mem_append.mp present with known | added
      · exact Backward.sequenced sequential entry old other known names sequence own
      · obtain rfl := List.mem_singleton.mp added
        exact absurd names (unreferenced entry old)
    · obtain rfl := List.mem_singleton.mp new
      have none : added.clientSequence = some sequence := own
      rw [unset] at none
      cases none

def ReferencesBefore (outbox : CatalogOutbox) (operationId : String) (sequence : Nat) : Prop :=
  ∀ operation ∈ outbox, operation.clientOperationId = operationId →
    ∀ other ∈ outbox, other.clientOperationId ∈ operation.references →
      ∃ earlier, other.clientSequence = some earlier ∧ earlier < sequence

theorem Sequential.assigned (sequential : Sequential outbox) {operationId : String}
    {sequence : Nat} {missing : OutboxError}
    (before : ReferencesBefore outbox operationId sequence)
    (ok : updateCatalogOutboxOperation missing operationId (withSequence sequence) outbox =
      .ok next) : Sequential next := by
  have same : next.map causes = outbox.map causes :=
    map_updateCatalogOutboxOperation (fun old new did => (withSequence_causes did).1) ok
  -- Every operation is an old one, with its sequence or with the assigned one.
  have origin : ∀ operation ∈ next, ∃ old ∈ outbox, causes operation = causes old ∧
      (operation.clientSequence = old.clientSequence ∨
        old.clientOperationId = operationId ∧ operation.clientSequence = some sequence ∧
          (old.clientSequence = none ∨ old.clientSequence = some sequence)) := by
    intro operation member
    rcases mem_updateCatalogOutboxOperation ok member with old | ⟨old, present, found, changed⟩
    · exact ⟨operation, old, rfl, .inl rfl⟩
    · obtain ⟨kept, set⟩ := withSequence_causes changed
      refine ⟨old, present, kept, .inr ⟨found, set, ?_⟩⟩
      unfold withSequence at changed
      split at changed
      · cases changed
      · rename_i allowed
        by_contra neither
        exact allowed (not_or.mp neither)
  have staysAssigned {operation old : CatalogOutboxOperation} {earlier : Nat}
      (set : operation.clientSequence = old.clientSequence ∨
        old.clientOperationId = operationId ∧ operation.clientSequence = some sequence ∧
          (old.clientSequence = none ∨ old.clientSequence = some sequence))
      (was : old.clientSequence = some earlier) : operation.clientSequence = some earlier := by
    rcases set with kept | ⟨_, assigned, unset | already⟩
    · exact kept.trans was
    · rw [was] at unset
      cases unset
    · exact assigned.trans (already.symm.trans was)
  have references_eq {operation old : CatalogOutboxOperation}
      (kept : causes operation = causes old) :
      operation.references = old.references ∧
        operation.clientOperationId = old.clientOperationId :=
    ⟨congrArg (fun entry => entry.2.1 ++ entry.2.2.toList) kept, congrArg (·.1) kept⟩
  refine ⟨fun entry member reference names => ?_, fun entry member => ?_, ?_,
    fun entry member other present names own number => ?_⟩
  · obtain ⟨operation, inNext, rfl⟩ := List.mem_map.mp member
    obtain ⟨old, inOutbox, kept, _⟩ := origin operation inNext
    have known : reference ∈ outbox.map (·.clientOperationId) :=
      sequential.known inOutbox ((references_eq kept).1 ▸ names)
    have ids : next.map (·.clientOperationId) = outbox.map (·.clientOperationId) := by
      have projected := congrArg (List.map fun entry => entry.1) same
      rwa [List.map_map, List.map_map] at projected
    rw [← ids] at known
    obtain ⟨other, present, equal⟩ := List.mem_map.mp known
    exact ⟨numbered other, List.mem_map_of_mem present, equal⟩
  · obtain ⟨operation, inNext, rfl⟩ := List.mem_map.mp member
    obtain ⟨old, inOutbox, kept, _⟩ := origin operation inNext
    have proper := sequential.proper inOutbox
    rwa [← (references_eq kept).1, ← (references_eq kept).2] at proper
  · have before := Backward.inserted sequential
    have overCauses (list : CatalogOutbox) :
        ((list.map numbered).Pairwise fun earlier later =>
          Entry.id later ∉ Entry.references earlier) ↔
        (list.map causes).Pairwise fun earlier later =>
          later.1 ∉ earlier.2.1 ++ earlier.2.2.toList := by
      rw [List.pairwise_map, List.pairwise_map]
      rfl
    rw [overCauses] at before ⊢
    rwa [same]
  · obtain ⟨operation, inNext, rfl⟩ := List.mem_map.mp member
    obtain ⟨referenced, inNextToo, rfl⟩ := List.mem_map.mp present
    obtain ⟨old, inOutbox, kept, set⟩ := origin operation inNext
    obtain ⟨oldReferenced, inOutboxToo, keptToo, setToo⟩ := origin referenced inNextToo
    have refers : oldReferenced.clientOperationId ∈ old.references := by
      rw [← (references_eq kept).1, ← (references_eq keptToo).2]
      exact names
    rcases set with unchanged | ⟨found, assigned, _⟩
    · obtain ⟨earlier, was, smaller⟩ := sequential.sequenced inOutbox inOutboxToo refers
        (unchanged.symm.trans number)
      exact ⟨earlier, staysAssigned setToo was, smaller⟩
    · obtain ⟨earlier, was, smaller⟩ := before old inOutbox found oldReferenced inOutboxToo refers
      obtain rfl : sequence = own := Option.some.inj (assigned.symm.trans number)
      exact ⟨earlier, staysAssigned setToo was, smaller⟩

def LifeStep.InOrder (outbox : CatalogOutbox) : LifeStep → Prop
  | .edit (.assignSequence operationId sequence) =>
    ReferencesBefore outbox operationId sequence.toNat
  | _ => True

theorem Sequential.call (sequential : Sequential outbox) (numbers : WellNumbered outbox)
    {command : OutboxStep} (inOrder : LifeStep.InOrder outbox (.edit command))
    (ok : command.call outbox = .ok next) : Sequential next := by
  cases command with
  | addIntent clientOperationId intent options =>
    obtain ⟨fresh, rfl⟩ := addCatalogOutboxIntent_ok ok
    exact sequential.added fresh rfl (addCatalogOutboxIntent_references ok)
  | assignSequence operationId sequence =>
    change assignCatalogOutboxOperationSequence outbox operationId sequence = _ at ok
    unfold assignCatalogOutboxOperationSequence at ok
    split at ok
    · cases ok
    · split at ok
      · cases ok
      · exact sequential.assigned inOrder ok
  | markPersisted operationId =>
    exact sequential.of_numbered (map_updateCatalogOutboxOperation asPersisted_keeps ok)
  | applyReceipts receipts =>
    exact sequential.of_numbered (foldlM_numbered applyReceipt_keeps ok)
  | markUnknown operationIds =>
    exact sequential.of_numbered (foldlM_numbered (fun _ => asUnknown_keeps) ok)
  | rollback removedOperationIds =>
    cases ok
    have exactly := (removesExactly_iff numbers.ids).mpr
      (sequential.dependsInOrder removedOperationIds)
    exact sequential.kept exactly.1 exactly.noDangling

theorem Sequential.live (sequential : Sequential outbox) (numbers : WellNumbered outbox)
    (inOrder : lifeStep.InOrder outbox) : Sequential (live outbox lifeStep) := by
  cases lifeStep with
  | edit command =>
    change Sequential (step outbox command)
    unfold step
    split
    · rename_i ok
      exact sequential.call numbers inOrder ok
    · exact sequential
  | resolveFailures =>
    refine sequential.kept (resolve_sublist outbox) (resolve_noDangling fun seeds => ?_)
    exact (removesExactly_iff numbers.ids).mpr (sequential.dependsInOrder seeds)
  | prune reconciledCatalogRevision operationIds =>
    unfold Outbox.live
    dsimp only
    split
    · rename_i ok
      have safe := prune_safe numbers.ids ok
      exact sequential.kept safe.sublist safe.closed
    · exact sequential
  | restore =>
    exact (sequential.ordered numbers.ids).of_numbered
      (normalizeRestoredCatalogOutbox_numbered _)
  | reorder => exact sequential.ordered numbers.ids

theorem Sequential.nil : Sequential [] := by
  refine ⟨?_, ?_, List.Pairwise.nil, ?_⟩ <;>
    · intro entry member
      cases member

theorem life_sequential (steps : List LifeStep)
    (inOrder : ∀ before lifeStep after, steps = before ++ lifeStep :: after →
      lifeStep.InOrder (life before)) : Sequential (life steps) := by
  induction steps using List.reverseRecOn with
  | nil => exact .nil
  | append_singleton steps lifeStep ih =>
    rw [life_append]
    have earlier : Sequential (life steps) := ih fun before other after split =>
      inOrder before other (after ++ [lifeStep]) (by rw [split, List.append_assoc]; rfl)
    exact earlier.live (life_wellNumbered steps) (inOrder steps lifeStep [] rfl)

/-- In every reachable outbox a rollback is exact exactly when what depends on the seeds
depends on them in order of sequence; all removals stay closed exactly when that holds for
all seeds; and it holds in a life that sequences every operation after its references. -/
theorem life_stays_closed_iff (steps : List LifeStep) :
    (∀ seeds, RemovesExactly (life steps) seeds ↔ DependsInOrder (life steps) seeds) ∧
      (StaysClosed (life steps) ↔ ∀ seeds, DependsInOrder (life steps) seeds) ∧
      ((∀ before lifeStep after, steps = before ++ lifeStep :: after →
        lifeStep.InOrder (life before)) → StaysClosed (life steps)) := by
  have unique := (life_wellNumbered steps).ids
  refine ⟨fun seeds => removesExactly_iff unique, staysClosed_iff unique, fun inOrder => ?_⟩
  exact (staysClosed_iff unique).mpr (life_sequential steps inOrder).dependsInOrder

def renameIntent (targetNodeId : String) : CatalogOutboxIntent where
  kind := .renameNode
  targetNodeId := some targetNodeId
  name := some "docs"

/-- Three commands in a chain, of which the last is sequenced first. -/
def sequencedBackwards : List LifeStep :=
  [.edit (.addIntent "op_a" (renameIntent "node_a") ⟨1, some 1, []⟩),
    .edit (.addIntent "op_b" (renameIntent "node_b") ⟨1, some 1, ["op_a"]⟩),
    .edit (.addIntent "op_c" (renameIntent "node_c") ⟨1, some 1, ["op_b"]⟩),
    .edit (.assignSequence "op_c" 1)]

/-- The rollback of the first command keeps the third, which refers to the removed second. -/
theorem life_stays_closed_backwards : ¬ ∀ steps : List LifeStep, StaysClosed (life steps) := by
  intro closes
  have exactly := (closes sequencedBackwards).rollback ["op_a"]
  have dangling := exactly.noDangling
  revert dangling
  unfold NoDangling
  decide +kernel

end GraphAgent.Outbox
