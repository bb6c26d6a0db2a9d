import GraphAgent.CatalogOutboxBatches
import GraphAgent.ReferenceClosure

/-!
# Rollback and pruning of the catalog outbox

`resolveCatalogOutboxFailures`, `pruneReconciledCatalogOutbox` and the runs of
an outbox that is also rolled back, pruned, restored and reordered.  A rollback
is one pass over the operations by sequence; it takes all that refers to what it
removes exactly when nothing is reached out of that order.
-/

namespace GraphAgent.Outbox

open CatalogOutboxOperation ReferenceClosure

namespace CatalogOutboxOperation

/-- A state that `resolveCatalogOutboxFailures` removes. -/
def isFailed (operation : CatalogOutboxOperation) : Bool :=
  operation.state = .reported .rejected || operation.state = .reported .cancelled ||
    operation.state = .reported .dependencyFailed

/-- A deletion whose settlement the client still waits for. -/
def isUnsettled (operation : CatalogOutboxOperation) : Bool :=
  operation.settlement = some .pending || operation.settlement = some .repairRequired

end CatalogOutboxOperation

/-- `removed_operation_ids` of a rollback, in order. -/
def rolledBackOperationIds (outbox : CatalogOutbox) (removedOperationIds : List String) :
    List String :=
  ((orderedCatalogOutboxOperations outbox).map (·.clientOperationId)).filter
    (· ∈ collectCatalogOutboxDependentClosure outbox removedOperationIds)

structure CatalogOutboxFailureResolution where
  outbox : CatalogOutbox
  removedOperationIds : List String
  failedOperationIds : List String

/-- The ids that `resolveCatalogOutboxFailures` calls failed. -/
def failedOperationIds (outbox : CatalogOutbox) : List String :=
  ((orderedCatalogOutboxOperations outbox).filter isFailed).map (·.clientOperationId)

def resolveCatalogOutboxFailures (outbox : CatalogOutbox) : CatalogOutboxFailureResolution :=
  let failed := failedOperationIds outbox
  if failed.length = 0 then ⟨outbox, [], []⟩
  else ⟨rollbackCatalogOutboxIntents outbox failed, rolledBackOperationIds outbox failed, failed⟩

/-- The error of `pruneReconciledCatalogOutbox`. -/
inductive PruneError where
  | reconciledCatalogRevision (revision : Int)

def retainedAlone (reconciledCatalogRevision : Int) (operationIds : Option (List String))
    (operation : CatalogOutboxOperation) : Bool :=
  if operationIds.any (operation.clientOperationId ∉ ·) then true
  else if !operation.isTerminal then true
  else if operation.isUnsettled then true
  else
    match operation.committedCatalogRevision with
    | none => !operation.isFailed
    | some revision => reconciledCatalogRevision < revision

/-- `pruneReconciledCatalogOutbox`: what is retained keeps the whole chain before it. -/
def pruneReconciledCatalogOutbox (outbox : CatalogOutbox) (reconciledCatalogRevision : Int)
    (operationIds : Option (List String)) : Except PruneError CatalogOutbox :=
  if reconciledCatalogRevision < 0 then
    .error (.reconciledCatalogRevision reconciledCatalogRevision)
  else
    let retained := outbox.filter (retainedAlone reconciledCatalogRevision operationIds)
    let retainedIds := grow (·.clientOperationId) references outbox retained
      (retained.map (·.clientOperationId))
    .ok (outbox.filter fun operation => operation.clientOperationId ∈ retainedIds)

/-- The operation that `normalizeRestoredCatalogOutbox` makes of one from the disk. -/
def normalizeRestored (operation : CatalogOutboxOperation) : CatalogOutboxOperation :=
  if operation.state = .pendingLocal ∧ operation.clientSequence ≠ none then
    { operation with state := .persisted }
  else operation

def normalizeRestoredCatalogOutbox (outbox : CatalogOutbox) : CatalogOutbox :=
  outbox.map normalizeRestored

inductive LifeStep where
  | edit (command : OutboxStep)
  | resolveFailures
  | prune (reconciledCatalogRevision : Int) (operationIds : Option (List String))
  | restore
  | reorder

def live (outbox : CatalogOutbox) : LifeStep → CatalogOutbox
  | .edit command => step outbox command
  | .resolveFailures => (resolveCatalogOutboxFailures outbox).outbox
  | .prune reconciledCatalogRevision operationIds =>
    match pruneReconciledCatalogOutbox outbox reconciledCatalogRevision operationIds with
    | .ok next => next
    | .error _ => outbox
  | .restore => normalizeRestoredCatalogOutbox (orderedCatalogOutboxOperations outbox)
  | .reorder => orderedCatalogOutboxOperations outbox

def life (steps : List LifeStep) : CatalogOutbox :=
  steps.foldl live []

variable {outbox next kept : CatalogOutbox} {seeds : List String}
  {operation : CatalogOutboxOperation}

abbrev DependsOnAny (outbox : CatalogOutbox) (seeds : List String) :
    CatalogOutboxOperation → Prop :=
  Reaches (·.clientOperationId) references outbox seeds

def RemovesExactly (outbox : CatalogOutbox) (seeds : List String) : Prop :=
  (rollbackCatalogOutboxIntents outbox seeds).Sublist outbox ∧
    ∀ operation ∈ outbox, operation ∈ rollbackCatalogOutboxIntents outbox seeds ↔
      ¬ DependsOnAny outbox seeds operation

def NoDangling (outbox kept : CatalogOutbox) : Prop :=
  ∀ operation ∈ kept, ∀ reference ∈ operation.references,
    reference ∈ outbox.map (·.clientOperationId) → reference ∈ kept.map (·.clientOperationId)

def ParentResolvable (outbox : CatalogOutbox) (operation : CatalogOutboxOperation) : Prop :=
  ∀ createdBy, operation.createdByOperationId = some createdBy →
    ∃ creation ∈ outbox, creation.kind = .createFolder ∧ creation.clientOperationId = createdBy

structure PrunesSafely (outbox pruned : CatalogOutbox) : Prop where
  sublist : pruned.Sublist outbox
  closed : NoDangling outbox pruned
  pending : ∀ operation ∈ outbox, operation.isTerminal = false ∨ operation.isUnsettled = true →
    operation ∈ pruned
  resolvable : ∀ operation ∈ pruned, ParentResolvable outbox operation →
    ParentResolvable pruned operation

structure StaysClosed (outbox : CatalogOutbox) : Prop where
  rollback : ∀ seeds, RemovesExactly outbox seeds
  resolve : NoDangling outbox (resolveCatalogOutboxFailures outbox).outbox
  prune : ∀ reconciledCatalogRevision operationIds pruned,
    pruneReconciledCatalogOutbox outbox reconciledCatalogRevision operationIds = .ok pruned →
    PrunesSafely outbox pruned

def DependsInOrder (outbox : CatalogOutbox) (seeds : List String) : Prop :=
  ∀ operation ∈ outbox, DependsOnAny outbox seeds operation →
    ReachesInOrder (·.clientOperationId) references (orderedCatalogOutboxOperations outbox) seeds
      operation

theorem ordered_perm (outbox : CatalogOutbox) :
    (orderedCatalogOutboxOperations outbox).Perm outbox :=
  List.perm_insertionSort Precedes outbox

theorem mem_ordered : operation ∈ orderedCatalogOutboxOperations outbox ↔ operation ∈ outbox :=
  (ordered_perm outbox).mem_iff

theorem ordered_ids (unique : (outbox.map (·.clientOperationId)).Nodup) :
    ((orderedCatalogOutboxOperations outbox).map (·.clientOperationId)).Nodup :=
  ((ordered_perm outbox).map _).nodup_iff.mpr unique

theorem dependentClosure_eq (outbox : CatalogOutbox) (seeds : List String) :
    collectCatalogOutboxDependentClosure outbox seeds =
      onePass (·.clientOperationId) references (orderedCatalogOutboxOperations outbox) seeds :=
  rfl

theorem mem_rollback : operation ∈ rollbackCatalogOutboxIntents outbox seeds ↔
    operation ∈ outbox ∧
      operation.clientOperationId ∉ collectCatalogOutboxDependentClosure outbox seeds := by
  simp [rollbackCatalogOutboxIntents]

theorem mem_dependentClosure (unique : (outbox.map (·.clientOperationId)).Nodup)
    (member : operation ∈ outbox) :
    operation.clientOperationId ∈ collectCatalogOutboxDependentClosure outbox seeds ↔
      ReachesInOrder (·.clientOperationId) references (orderedCatalogOutboxOperations outbox)
        seeds operation := by
  rw [dependentClosure_eq, mem_onePass (ordered_ids unique)]
  constructor
  · rintro (isSeed | ⟨other, present, same, inOrder⟩)
    · exact .seed isSeed
    · exact List.inj_on_of_nodup_map unique (mem_ordered.mp present) member same ▸ inOrder
  · exact fun inOrder => .inr ⟨operation, mem_ordered.mpr member, rfl, inOrder⟩

theorem dependsOnAny_of_inOrder
    (inOrder : ReachesInOrder (·.clientOperationId) references
      (orderedCatalogOutboxOperations outbox) seeds operation) :
    DependsOnAny outbox seeds operation :=
  inOrder.reaches.subset fun _ => mem_ordered.mp

theorem removesExactly_iff (unique : (outbox.map (·.clientOperationId)).Nodup) :
    RemovesExactly outbox seeds ↔ DependsInOrder outbox seeds := by
  constructor
  · rintro ⟨_, exactly⟩ operation member depends
    have removed := mt (exactly operation member).mp (not_not_intro depends)
    rw [mem_rollback] at removed
    exact (mem_dependentClosure unique member).mp (not_not.mp fun kept => removed ⟨member, kept⟩)
  · intro inOrder
    refine ⟨List.filter_sublist, fun operation member => ?_⟩
    rw [mem_rollback, mem_dependentClosure unique member]
    constructor
    · exact fun kept depends => kept.2 (inOrder operation member depends)
    · exact fun independent => ⟨member, fun reached =>
        independent (dependsOnAny_of_inOrder reached)⟩

theorem RemovesExactly.noDangling (exactly : RemovesExactly outbox seeds) :
    NoDangling outbox (rollbackCatalogOutboxIntents outbox seeds) := by
  intro operation member reference refers present
  obtain ⟨other, inOutbox, rfl⟩ := List.mem_map.mp present
  have inside := exactly.1.subset member
  refine List.mem_map_of_mem ((exactly.2 other inOutbox).mpr fun depends => ?_)
  exact (exactly.2 operation inside).mp member (.through inOutbox refers depends)

theorem NoDangling.refl (outbox : CatalogOutbox) : NoDangling outbox outbox :=
  fun _ _ _ _ present => present

theorem resolve_noDangling (exactly : ∀ seeds, RemovesExactly outbox seeds) :
    NoDangling outbox (resolveCatalogOutboxFailures outbox).outbox := by
  unfold resolveCatalogOutboxFailures
  dsimp only
  split
  · exact NoDangling.refl outbox
  · exact (exactly _).noDangling

theorem prune_ok {reconciledCatalogRevision : Int} {operationIds : Option (List String)}
    (ok : pruneReconciledCatalogOutbox outbox reconciledCatalogRevision operationIds =
      .ok next) :
    next = outbox.filter fun operation => operation.clientOperationId ∈
      grow (·.clientOperationId) references outbox
        (outbox.filter (retainedAlone reconciledCatalogRevision operationIds))
        ((outbox.filter (retainedAlone reconciledCatalogRevision operationIds)).map
          (·.clientOperationId)) := by
  unfold pruneReconciledCatalogOutbox at ok
  split at ok
  · cases ok
  · exact (Except.ok.inj ok).symm

theorem retainedAlone_of_pending {reconciledCatalogRevision : Int}
    {operationIds : Option (List String)}
    (pending : operation.isTerminal = false ∨ operation.isUnsettled = true) :
    retainedAlone reconciledCatalogRevision operationIds operation = true := by
  unfold retainedAlone
  split
  · rfl
  · rcases pending with active | unsettled
    · simp [active]
    · simp [unsettled]

theorem prune_safe (unique : (outbox.map (·.clientOperationId)).Nodup)
    {reconciledCatalogRevision : Int} {operationIds : Option (List String)}
    (ok : pruneReconciledCatalogOutbox outbox reconciledCatalogRevision operationIds =
      .ok next) : PrunesSafely outbox next := by
  obtain rfl := prune_ok ok
  set retained := outbox.filter (retainedAlone reconciledCatalogRevision operationIds)
    with retainedEq
  have waiting : ∀ operation ∈ outbox,
      operation.clientOperationId ∈ retained.map (·.clientOperationId) →
      operation ∈ retained ∨ Supplied (·.clientOperationId) references outbox
        (retained.map (·.clientOperationId)) operation := by
    intro operation member isKept
    obtain ⟨other, present, same⟩ := List.mem_map.mp isKept
    have inOutbox := List.mem_of_mem_filter present
    exact .inl (List.inj_on_of_nodup_map unique inOutbox member same ▸ present)
  obtain ⟨larger, supplied⟩ := grow_spec unique retained _ waiting
  have closed : NoDangling outbox (outbox.filter fun operation =>
      operation.clientOperationId ∈ grow (·.clientOperationId) references outbox retained
        (retained.map (·.clientOperationId))) := by
    intro operation member reference refers present
    obtain ⟨inOutbox, isKept⟩ := List.mem_filter.mp member
    have grown := supplied operation inOutbox (of_decide_eq_true isKept) reference refers present
    obtain ⟨other, inside, rfl⟩ := List.mem_map.mp present
    exact List.mem_map_of_mem (List.mem_filter.mpr ⟨inside, decide_eq_true grown⟩)
  refine ⟨List.filter_sublist, closed, fun operation member pending => ?_,
    fun operation member resolvable createdBy given => ?_⟩
  · refine List.mem_filter.mpr ⟨member, decide_eq_true (larger (List.mem_map_of_mem ?_))⟩
    exact List.mem_filter.mpr ⟨member, retainedAlone_of_pending pending⟩
  · obtain ⟨creation, inOutbox, isFolder, rfl⟩ := resolvable createdBy given
    have refers : creation.clientOperationId ∈ operation.references :=
      List.mem_append_right _ (Option.mem_toList.mpr given)
    obtain ⟨other, isKept, same⟩ := List.mem_map.mp
      (closed operation member _ refers (List.mem_map_of_mem inOutbox))
    have equal := List.inj_on_of_nodup_map unique (List.mem_of_mem_filter isKept) inOutbox same
    exact ⟨creation, equal ▸ isKept, isFolder, rfl⟩

theorem staysClosed_iff (unique : (outbox.map (·.clientOperationId)).Nodup) :
    StaysClosed outbox ↔ ∀ seeds, DependsInOrder outbox seeds := by
  constructor
  · exact fun closed seeds => (removesExactly_iff unique).mp (closed.rollback seeds)
  · intro inOrder
    have exactly := fun seeds => (removesExactly_iff unique).mpr (inOrder seeds)
    exact ⟨exactly, resolve_noDangling exactly, fun _ _ _ ok => prune_safe unique ok⟩

end GraphAgent.Outbox
