import GraphAgent.CatalogOutbox

/-!
# Causally closed batches

Every reachable outbox numbers its operations without repetition, so a batch is
sent in increasing order; and a batch refers only to what the server has
accepted or to its own earlier members, once each pending parent is also listed
as a dependency.
-/

namespace GraphAgent.Outbox

open Navigation Transaction CatalogOutboxOperation

variable {outbox next : CatalogOutbox} {operation : CatalogOutboxOperation}

def Distinct (first second : CatalogOutboxOperation) : Prop :=
  first.clientSequence = none ∨ first.clientSequence ≠ second.clientSequence

theorem Distinct.symm {first second : CatalogOutboxOperation} (distinct : Distinct first second) :
    Distinct second first := by
  rcases distinct with unset | differ
  · by_cases other : second.clientSequence = none
    · exact .inl other
    · exact .inr fun same => other (same.trans unset)
  · exact .inr fun same => differ same.symm

structure WellNumbered (outbox : CatalogOutbox) : Prop where
  ids : (outbox.map (·.clientOperationId)).Nodup
  sequences : outbox.Pairwise Distinct

def ListsParent (operation : CatalogOutboxOperation) : Prop :=
  ∀ createdBy, operation.createdByOperationId = some createdBy → createdBy ∈ operation.dependsOn

theorem mem_updateCatalogOutboxOperation {missing : OutboxError} {operationId : String}
    {update : CatalogOutboxOperation → Except OutboxError CatalogOutboxOperation}
    (ok : updateCatalogOutboxOperation missing operationId update outbox = .ok next)
    (member : operation ∈ next) : operation ∈ outbox ∨
      ∃ old ∈ outbox, old.clientOperationId = operationId ∧ update old = .ok operation := by
  induction outbox generalizing next with
  | nil => cases ok
  | cons first rest ih =>
    rw [updateCatalogOutboxOperation] at ok
    split at ok
    · rename_i found
      obtain ⟨updated, did, rfl⟩ := map_ok ok
      rcases List.mem_cons.mp member with rfl | later
      · exact .inr ⟨first, List.mem_cons_self, found, did⟩
      · exact .inl (List.mem_cons_of_mem _ later)
    · obtain ⟨updated, did, rfl⟩ := map_ok ok
      rcases List.mem_cons.mp member with rfl | later
      · exact .inl List.mem_cons_self
      · rcases ih did later with same | ⟨old, present, found, changed⟩
        · exact .inl (List.mem_cons_of_mem _ same)
        · exact .inr ⟨old, List.mem_cons_of_mem _ present, found, changed⟩

theorem map_updateCatalogOutboxOperation {Field : Type} {missing : OutboxError}
    {operationId : String}
    {update : CatalogOutboxOperation → Except OutboxError CatalogOutboxOperation}
    {field : CatalogOutboxOperation → Field}
    (keeps : ∀ old new, update old = .ok new → field new = field old)
    (ok : updateCatalogOutboxOperation missing operationId update outbox = .ok next) :
    next.map field = outbox.map field := by
  induction outbox generalizing next with
  | nil => cases ok
  | cons first rest ih =>
    rw [updateCatalogOutboxOperation] at ok
    split at ok
    · obtain ⟨updated, did, rfl⟩ := map_ok ok
      rw [List.map_cons, List.map_cons, keeps first updated did]
    · obtain ⟨updated, did, rfl⟩ := map_ok ok
      rw [List.map_cons, List.map_cons, ih did]

/-- The fields of an operation that no later call changes. -/
def causes (operation : CatalogOutboxOperation) : String × List String × Option String :=
  (operation.clientOperationId, operation.dependsOn, operation.createdByOperationId)

theorem withSequence_causes {sequence : Nat} {old new : CatalogOutboxOperation}
    (ok : withSequence sequence old = .ok new) :
    causes new = causes old ∧ new.clientSequence = some sequence := by
  unfold withSequence at ok
  split at ok
  · cases ok
  · cases ok
    exact ⟨rfl, rfl⟩

/-- The fields that receipts and marks keep. -/
def numbered (operation : CatalogOutboxOperation) :
    (String × List String × Option String) × Option Nat :=
  (causes operation, operation.clientSequence)

theorem asPersisted_keeps (old new : CatalogOutboxOperation) (ok : asPersisted old = .ok new) :
    numbered new = numbered old := by
  unfold asPersisted at ok
  split at ok
  · cases ok
  · split at ok
    · cases ok
    · cases ok
      rfl

theorem asUnknown_keeps (old new : CatalogOutboxOperation) (ok : asUnknown old = .ok new) :
    numbered new = numbered old := by
  cases ok
  split <;> rfl

theorem applyReceipt_keeps (receipt : Receipt) (old new : CatalogOutboxOperation)
    (ok : applyCatalogOutboxOperationReceipt receipt old = .ok new) :
    numbered new = numbered old := by
  unfold applyCatalogOutboxOperationReceipt at ok
  split at ok
  · cases ok
    rfl
  · split at ok
    · cases ok
    · cases ok
      rfl

structure Invariant (listed : Prop) (outbox : CatalogOutbox) : Prop extends
    WellNumbered outbox where
  parents : listed → ∀ operation ∈ outbox, ListsParent operation

variable {listed : Prop}

theorem Invariant.of_numbered (invariant : Invariant listed outbox)
    (same : next.map numbered = outbox.map numbered) : Invariant listed next := by
  have ids : next.map (·.clientOperationId) = outbox.map (·.clientOperationId) := by
    have projected := congrArg (List.map fun entry => entry.1.1) same
    rwa [List.map_map, List.map_map] at projected
  have sequences : next.map (·.clientSequence) = outbox.map (·.clientSequence) := by
    have projected := congrArg (List.map fun entry => entry.2) same
    rwa [List.map_map, List.map_map] at projected
  refine ⟨⟨ids ▸ invariant.ids, ?_⟩, fun lists operation member => ?_⟩
  · have before := invariant.sequences
    have distinctMap (list : CatalogOutbox) : list.Pairwise Distinct ↔
        (list.map (·.clientSequence)).Pairwise fun first second => first = none ∨ first ≠ second := by
      rw [List.pairwise_map]
      rfl
    rw [distinctMap] at before ⊢
    rwa [sequences]
  · have entry : numbered operation ∈ outbox.map numbered :=
      same ▸ List.mem_map_of_mem member
    obtain ⟨old, present, equal⟩ := List.mem_map.mp entry
    have lists := invariant.parents lists old present
    have deps : old.dependsOn = operation.dependsOn := congrArg (fun entry => entry.1.2.1) equal
    have parent : old.createdByOperationId = operation.createdByOperationId :=
      congrArg (fun entry => entry.1.2.2) equal
    intro createdBy given
    rw [← deps]
    exact lists createdBy (parent.trans given)

theorem foldlM_numbered {Item : Type} {missing : Item → OutboxError} {operationId : Item → String}
    {update : Item → CatalogOutboxOperation → Except OutboxError CatalogOutboxOperation}
    (keeps : ∀ item old new, update item old = .ok new → numbered new = numbered old)
    {items : List Item} (ok : items.foldlM (fun current item =>
      updateCatalogOutboxOperation (missing item) (operationId item) (update item) current)
        outbox = .ok next) : next.map numbered = outbox.map numbered := by
  induction items generalizing outbox with
  | nil =>
    cases ok
    rfl
  | cons item items ih =>
    rw [List.foldlM_cons] at ok
    obtain ⟨middle, first, rest⟩ := bind_ok ok
    rw [ih rest, map_updateCatalogOutboxOperation (keeps item) first]

theorem assign_sequences {operationId : String} {sequence : Nat}
    (ids : (outbox.map (·.clientOperationId)).Nodup) (sequences : outbox.Pairwise Distinct)
    (free : ∀ operation ∈ outbox, operation.clientOperationId ≠ operationId →
      operation.clientSequence ≠ some sequence)
    {missing : OutboxError}
    (ok : updateCatalogOutboxOperation missing operationId (withSequence sequence) outbox =
      .ok next) : next.Pairwise Distinct := by
  induction outbox generalizing next with
  | nil => cases ok
  | cons first rest ih =>
    rw [List.map_cons, List.nodup_cons] at ids
    rw [List.pairwise_cons] at sequences
    rw [updateCatalogOutboxOperation] at ok
    split at ok
    · rename_i found
      obtain ⟨updated, did, rfl⟩ := map_ok ok
      refine List.pairwise_cons.mpr ⟨fun other member => .inr ?_, sequences.2⟩
      have differs : other.clientOperationId ≠ operationId := by
        rintro same
        exact ids.1 (found.trans same.symm ▸ List.mem_map_of_mem member)
      rw [(withSequence_causes did).2]
      exact (free other (List.mem_cons_of_mem _ member) differs).symm
    · rename_i other
      obtain ⟨updated, did, rfl⟩ := map_ok ok
      refine List.pairwise_cons.mpr ⟨fun later member => ?_, ih ids.2 sequences.2
        (fun operation present => free operation (List.mem_cons_of_mem _ present)) did⟩
      rcases mem_updateCatalogOutboxOperation did member with same | ⟨old, _, _, changed⟩
      · exact sequences.1 later same
      · right
        rw [(withSequence_causes changed).2]
        exact free first List.mem_cons_self other

def OutboxStep.Listed : OutboxStep → Prop
  | .addIntent _ intent options =>
    ∀ createdBy, intent.parentCreatedByOperationId = some createdBy →
      createdBy ∈ options.dependsOn
  | _ => True

theorem addCatalogOutboxIntent_ok {clientOperationId : String} {intent : CatalogOutboxIntent}
    {options : CatalogOutboxOptions}
    (ok : addCatalogOutboxIntent outbox clientOperationId intent options = .ok next) :
    clientOperationId ∉ outbox.map (·.clientOperationId) ∧
      next = outbox ++ [pendingOperation clientOperationId intent options] := by
  unfold addCatalogOutboxIntent at ok
  split at ok
  · cases ok
  · split at ok
    · cases ok
    · split at ok
      · cases ok
      · rename_i fresh
        obtain ⟨_, _, ok⟩ := bind_ok ok
        obtain ⟨_, _, ok⟩ := bind_ok ok
        obtain ⟨_, _, ok⟩ := bind_ok ok
        cases ok
        exact ⟨fresh, rfl⟩

theorem Invariant.call (invariant : Invariant listed outbox) {command : OutboxStep}
    (lists : listed → command.Listed) (ok : command.call outbox = .ok next) :
    Invariant listed next := by
  cases command with
  | addIntent clientOperationId intent options =>
    obtain ⟨fresh, rfl⟩ := addCatalogOutboxIntent_ok ok
    refine ⟨⟨?_, ?_⟩, fun holds operation member => ?_⟩
    · rw [List.map_append]
      refine List.Nodup.append invariant.ids (List.nodup_singleton _) ?_
      rintro id present added
      rw [List.map_singleton, List.mem_singleton] at added
      have same : id = clientOperationId := added
      exact fresh (same ▸ present)
    · refine List.pairwise_append.mpr ⟨invariant.sequences, List.pairwise_singleton _ _, ?_⟩
      intro first present second added
      rw [List.mem_singleton.mp added]
      exact Distinct.symm (.inl rfl)
    · rcases List.mem_append.mp member with old | added
      · exact invariant.parents holds operation old
      · rw [List.mem_singleton.mp added]
        exact lists holds
  | assignSequence operationId sequence =>
    change assignCatalogOutboxOperationSequence outbox operationId sequence = _ at ok
    unfold assignCatalogOutboxOperationSequence at ok
    split at ok
    · cases ok
    · split at ok
      · cases ok
      · rename_i unused
        have free : ∀ operation ∈ outbox, operation.clientOperationId ≠ operationId →
            operation.clientSequence ≠ some sequence.toNat := by
          intro operation member differs same
          have none := List.find?_eq_none.mp unused operation member
          simp [differs, same] at none
        have same : next.map causes = outbox.map causes :=
          map_updateCatalogOutboxOperation
            (fun old new did => (withSequence_causes did).1) ok
        have ids : next.map (·.clientOperationId) = outbox.map (·.clientOperationId) := by
          have projected := congrArg (List.map fun entry => entry.1) same
          rwa [List.map_map, List.map_map] at projected
        refine ⟨⟨ids ▸ invariant.ids, assign_sequences invariant.ids invariant.sequences free ok⟩,
          fun holds operation member => ?_⟩
        have entry : causes operation ∈ outbox.map causes := same ▸ List.mem_map_of_mem member
        obtain ⟨old, present, equal⟩ := List.mem_map.mp entry
        have deps : old.dependsOn = operation.dependsOn := congrArg (fun entry => entry.2.1) equal
        have parent : old.createdByOperationId = operation.createdByOperationId :=
          congrArg (fun entry => entry.2.2) equal
        intro createdBy given
        rw [← deps]
        exact invariant.parents holds old present createdBy (parent.trans given)
  | markPersisted operationId =>
    exact invariant.of_numbered (map_updateCatalogOutboxOperation asPersisted_keeps ok)
  | applyReceipts receipts =>
    exact invariant.of_numbered (foldlM_numbered applyReceipt_keeps ok)
  | markUnknown operationIds =>
    exact invariant.of_numbered (foldlM_numbered (fun _ => asUnknown_keeps) ok)
  | rollback removedOperationIds =>
    cases ok
    have sublist := @List.filter_sublist _ (fun operation => decide
      (operation.clientOperationId ∉ collectCatalogOutboxDependentClosure outbox
        removedOperationIds)) outbox
    exact ⟨⟨invariant.ids.sublist (sublist.map _), invariant.sequences.sublist sublist⟩,
      fun holds operation member => invariant.parents holds operation (sublist.subset member)⟩

theorem Invariant.empty : Invariant listed [] :=
  ⟨⟨List.nodup_nil, List.Pairwise.nil⟩, fun _ _ member => absurd member List.not_mem_nil⟩

theorem run_invariant (commands : List OutboxStep) :
    Invariant (∀ command ∈ commands, command.Listed) (run commands) := by
  suffices general : ∀ (rest : List OutboxStep) (start : CatalogOutbox),
      (∀ command ∈ rest, command ∈ commands) →
      Invariant (∀ command ∈ commands, command.Listed) start →
      Invariant (∀ command ∈ commands, command.Listed) (rest.foldl step start) from
    general commands [] (fun _ member => member) .empty
  intro rest
  induction rest with
  | nil => exact fun start _ invariant => invariant
  | cons command rest ih =>
    intro start inside invariant
    refine ih _ (fun other member => inside other (List.mem_cons_of_mem _ member)) ?_
    unfold step
    split
    · rename_i next ok
      exact invariant.call (fun lists => lists command (inside command List.mem_cons_self)) ok
    · exact invariant

def DependenciesPrecede (outbox batch : CatalogOutbox) : Prop :=
  ∀ before operation after, batch = before ++ operation :: after →
    ∀ dependencyId ∈ operation.dependsOn, dependencyId ∈ acceptedIds outbox ∨
      dependencyId ∈ before.map (·.clientOperationId)

def CausallyClosed (outbox batch : CatalogOutbox) : Prop :=
  ∀ before operation after, batch = before ++ operation :: after →
    ∀ referencedId ∈ operation.references, referencedId ∈ acceptedIds outbox ∨
      referencedId ∈ before.map (·.clientOperationId)

variable {batch ordered : CatalogOutbox} {maxBatchSize : Nat} {retryable : List String}

theorem DependenciesPrecede.append (precede : DependenciesPrecede outbox batch)
    (ready : ∀ dependencyId ∈ operation.dependsOn, dependencyId ∈ acceptedIds outbox ∨
      dependencyId ∈ batch.map (·.clientOperationId)) :
    DependenciesPrecede outbox (batch ++ [operation]) := by
  intro before member after split
  rcases List.eq_nil_or_concat after with rfl | ⟨rest, last, rfl⟩
  · obtain ⟨rfl, same⟩ := List.append_inj' split rfl
    cases same
    exact ready
  · rw [List.concat_eq_append, ← List.cons_append, ← List.append_assoc] at split
    obtain ⟨same, _⟩ := List.append_inj' split rfl
    exact precede before member rest same

theorem planFrom_spec (precede : DependenciesPrecede outbox batch)
    (included : ∀ member ∈ batch, member.clientSequence ≠ none ∧ member.isAccepted = false) :
    let planned := planFrom outbox maxBatchSize retryable ordered batch
    DependenciesPrecede outbox planned ∧
      (∀ member ∈ planned, member.clientSequence ≠ none ∧ member.isAccepted = false) ∧
      ∃ added, planned = batch ++ added ∧ added.Sublist ordered := by
  induction ordered generalizing batch with
  | nil => exact ⟨precede, included, [], (List.append_nil _).symm, List.Sublist.refl _⟩
  | cons operation rest ih =>
    have skipped {planned : CatalogOutbox} (spec : DependenciesPrecede outbox planned ∧
        (∀ member ∈ planned, member.clientSequence ≠ none ∧ member.isAccepted = false) ∧
        ∃ added, planned = batch ++ added ∧ added.Sublist rest) :
        DependenciesPrecede outbox planned ∧
        (∀ member ∈ planned, member.clientSequence ≠ none ∧ member.isAccepted = false) ∧
        ∃ added, planned = batch ++ added ∧ added.Sublist (operation :: rest) := by
      obtain ⟨closed, members, added, whole, sublist⟩ := spec
      exact ⟨closed, members, added, whole, sublist.cons operation⟩
    rw [planFrom]
    split
    · exact skipped (ih precede included)
    · rename_i sequenced
      split
      · exact skipped (ih precede included)
      · split
        · exact skipped (ih precede included)
        · rename_i allowed
          split
          · exact ⟨precede, included, [], (List.append_nil _).symm, List.nil_sublist _⟩
          · split
            · rename_i ready
              have notAccepted : operation.isAccepted = false := by
                simp only [includable, Bool.not_eq_true', Bool.not_eq_false] at allowed
                cases state : operation.state <;>
                  simp [state, isAccepted] at allowed ⊢
              have placed : ∀ dependencyId ∈ operation.dependsOn,
                  dependencyId ∈ acceptedIds outbox ∨
                    dependencyId ∈ batch.map (·.clientOperationId) := by
                intro dependencyId member
                have found := List.all_eq_true.mp ready dependencyId member
                simpa using found
              obtain ⟨closed, members, added, whole, sublist⟩ :=
                @ih (batch ++ [operation]) (precede.append placed) (by
                  intro member present
                  rcases List.mem_append.mp present with old | new
                  · exact included member old
                  · rw [List.mem_singleton.mp new]
                    exact ⟨sequenced, notAccepted⟩)
              refine ⟨closed, members, operation :: added, ?_, sublist.cons_cons operation⟩
              rw [whole, List.append_assoc, List.singleton_append]
            · exact skipped (ih precede included)

theorem precedes_total (first second : CatalogOutboxOperation) :
    Precedes first second ∨ Precedes second first := by
  unfold Precedes
  cases first.clientSequence <;> cases second.clientSequence <;> simp
  exact Nat.le_total _ _

theorem precedes_trans (first second third : CatalogOutboxOperation)
    (before : Precedes first second) (after : Precedes second third) : Precedes first third := by
  unfold Precedes at *
  revert before after
  cases first.clientSequence <;> cases second.clientSequence <;> cases third.clientSequence <;>
    simp
  exact Nat.le_trans

theorem planned_increasing (numbered : WellNumbered outbox)
    (sublist : batch.Sublist (orderedCatalogOutboxOperations outbox))
    (sequenced : ∀ member ∈ batch, member.clientSequence ≠ none) :
    ∃ sequences : List Nat, batch.map (·.clientSequence) = sequences.map some ∧
      sequences.Pairwise (· < ·) := by
  have perm : (orderedCatalogOutboxOperations outbox).Perm outbox := List.perm_insertionSort _ _
  have sorted : (orderedCatalogOutboxOperations outbox).Pairwise Precedes := by
    have : Std.Total Precedes := ⟨precedes_total⟩
    have : IsTrans CatalogOutboxOperation Precedes := ⟨precedes_trans⟩
    exact List.pairwise_insertionSort _ _
  have distinct : (orderedCatalogOutboxOperations outbox).Pairwise Distinct :=
    (perm.pairwise_iff Distinct.symm).mpr numbered.sequences
  have both := (sorted.and distinct).sublist sublist
  clear sorted distinct sublist perm numbered
  induction batch with
  | nil => exact ⟨[], rfl, List.Pairwise.nil⟩
  | cons operation rest ih =>
    rw [List.pairwise_cons] at both
    obtain ⟨sequences, restEq, increasing⟩ :=
      ih (fun member present => sequenced member (List.mem_cons_of_mem _ present)) both.2
    obtain ⟨sequence, own⟩ :=
      Option.ne_none_iff_exists'.mp (sequenced operation List.mem_cons_self)
    refine ⟨sequence :: sequences, by rw [List.map_cons, own, restEq, List.map_cons],
      List.pairwise_cons.mpr ⟨fun later member => ?_, increasing⟩⟩
    have entry : some later ∈ rest.map (·.clientSequence) :=
      restEq ▸ List.mem_map_of_mem member
    obtain ⟨other, present, otherEq⟩ := List.mem_map.mp entry
    obtain ⟨precedes, differ⟩ := both.1 other present
    rw [Precedes, own, otherEq] at precedes
    rcases differ with unset | differ
    · rw [own] at unset
      cases unset
    · rw [own, otherEq] at differ
      have unequal : sequence ≠ later := fun same => differ (congrArg some same)
      have order : sequence ≤ later := precedes
      omega

structure Sends (wire : WireIntent) (command : NavigationQueueCommand) : Prop where
  clientOperationId : command.clientOperationId = wire.clientOperationId
  clientSequence : command.clientSequence = wire.clientSequence
  dependsOn : command.dependsOn = wire.dependsOn
  createdByOperationId : command.createdByOperationId = wire.createdByOperationId

def ServerAccepts (outbox : CatalogOutbox) (commands : List NavigationQueueCommand) : Prop :=
  ∀ (queue : NavigationQueue) (workspaceId : String),
    (∀ operationId ∈ acceptedIds outbox,
      queue.referencedRecords workspaceId operationId ≠ []) →
    ∀ position command, commands[position]? = some command →
      (command.dependsOn ++ command.createdByOperationId.toList).forM
          (queue.requireDependencyPrecedes workspaceId commands command position) = .ok () ∧
        queue.requireDependenciesResolvable workspaceId commands command = .ok ()

theorem findIdx?_take {ids : List String} {position : Nat} {id : String}
    (member : id ∈ ids.take position) :
    ∃ index, ids.findIdx? (· = id) = some index ∧ index < position := by
  induction ids generalizing position with
  | nil => simp at member
  | cons first rest ih =>
    cases position with
    | zero => simp at member
    | succ position =>
      rw [List.take_succ_cons, List.mem_cons] at member
      rw [List.findIdx?_cons]
      by_cases same : first = id
      · exact ⟨0, by simp [same], Nat.succ_pos _⟩
      · have later : id ∈ rest.take position :=
          member.resolve_left fun equal => same equal.symm
        obtain ⟨index, found, before⟩ := ih later
        exact ⟨index + 1, by simp [same, found], by omega⟩

section Server

variable {queue : NavigationQueue} {workspaceId : String} {commands : List NavigationQueueCommand}
  {command : NavigationQueueCommand} {position : Nat} {referencedId : String}

theorem requireReferencedOperation_recorded
    (recorded : queue.referencedRecords workspaceId referencedId ≠ []) :
    queue.requireReferencedOperation workspaceId referencedId command = .ok () := by
  unfold NavigationQueue.requireReferencedOperation
  split
  · contradiction
  · rfl

theorem requireDependencyPrecedes_placed (other : referencedId ≠ command.clientOperationId)
    (placed : queue.referencedRecords workspaceId referencedId ≠ [] ∨
      referencedId ∈ (commands.map (·.clientOperationId)).take position) :
    queue.requireDependencyPrecedes workspaceId commands command position referencedId =
      .ok () := by
  unfold NavigationQueue.requireDependencyPrecedes
  rw [if_neg other]
  have overIds : commands.findIdx? (fun member => member.clientOperationId = referencedId) =
      (commands.map (·.clientOperationId)).findIdx? (· = referencedId) := by
    rw [List.findIdx?_map]
    rfl
  rw [overIds]
  rcases placed with recorded | earlier
  · split
    · rfl
    · split
      · rfl
      · split
        · contradiction
        · rfl
  · obtain ⟨index, found, before⟩ := findIdx?_take earlier
    rw [found]
    exact if_pos before

theorem requireDependencyResolvable_placed
    (placed : queue.referencedRecords workspaceId referencedId ≠ [] ∨
      referencedId ∈ (commands.map (·.clientOperationId)).take position) :
    queue.requireDependencyResolvable workspaceId commands command referencedId = .ok () := by
  unfold NavigationQueue.requireDependencyResolvable
  split
  · rfl
  · rename_i absent
    rcases placed with recorded | earlier
    · exact requireReferencedOperation_recorded recorded
    · have member : referencedId ∈ commands.map (·.clientOperationId) :=
        List.mem_of_mem_take earlier
      simp at absent member
      obtain ⟨other, present, same⟩ := member
      exact absurd same (absent other present)

end Server

theorem sent_spec {wires : List WireIntent} {sent : List NavigationQueueCommand}
    {ids : List String} (wired : batch.mapM (wireIntent ids) = .ok wires)
    (sends : List.Forall₂ Sends wires sent) :
    List.Forall₂ (fun (operation : CatalogOutboxOperation) (command : NavigationQueueCommand) =>
      command.clientOperationId = operation.clientOperationId ∧
      (∀ dependencyId ∈ command.dependsOn, dependencyId ∈ operation.dependsOn) ∧
      command.createdByOperationId = operation.createdByOperationId) batch sent := by
  have related := mapM_ok wired
  clear wired
  induction related generalizing sent with
  | nil =>
    cases sends
    exact .nil
  | @cons operation wire rest wires first _ ih =>
    obtain ⟨⟩ := sends
    rename_i command sent own sends
    refine .cons ?_ (ih sends)
    unfold wireIntent at first
    split at first
    · cases first
    · cases first
      refine ⟨own.clientOperationId, fun dependencyId member => ?_, own.createdByOperationId⟩
      rw [own.dependsOn] at member
      exact List.mem_of_mem_filter member

theorem catalogOutboxBatchToIntents_ok
    (sequenced : ∀ member ∈ batch, member.clientSequence ≠ none) :
    ∃ wires, catalogOutboxBatchToIntents batch = .ok wires := by
  rw [catalogOutboxBatchToIntents]
  refine ⟨_, mapM_iff.mpr ⟨fun operation member => ?_, rfl⟩⟩
  obtain ⟨sequence, own⟩ := Option.ne_none_iff_exists'.mp (sequenced operation member)
  exact ⟨_, by rw [wireIntent, own]⟩

theorem serverAccepts (closed : CausallyClosed outbox batch)
    (ids : (batch.map (·.clientOperationId)).Nodup)
    (outboxIds : (outbox.map (·.clientOperationId)).Nodup)
    (members : ∀ member ∈ batch, member ∈ outbox ∧ member.isAccepted = false)
    {wires : List WireIntent} {sent : List NavigationQueueCommand}
    (wired : catalogOutboxBatchToIntents batch = .ok wires)
    (sends : List.Forall₂ Sends wires sent) : ServerAccepts outbox sent := by
  intro queue workspaceId recorded position command found
  have related := sent_spec wired sends
  have sameIds : sent.map (·.clientOperationId) = batch.map (·.clientOperationId) := by
    clear found recorded members ids closed wired sends
    induction related with
    | nil => rfl
    | cons first _ ih => rw [List.map_cons, List.map_cons, ih, first.1]
  obtain ⟨bound, commandEq⟩ := List.getElem?_eq_some_iff.mp found
  have batchBound : position < batch.length := related.length_eq ▸ bound
  obtain ⟨sameId, dependsOn, createdBy⟩ :=
    List.forall₂_iff_get.mp related |>.2 position batchBound bound
  rw [List.get_eq_getElem, List.get_eq_getElem, commandEq] at sameId dependsOn createdBy
  have split : batch = batch.take position ++ batch[position] :: batch.drop (position + 1) := by
    rw [← List.drop_eq_getElem_cons batchBound, List.take_append_drop]
  have own := members batch[position] (List.getElem_mem batchBound)
  -- A reference is no reference to itself, and has a row or an earlier position.
  have placed : ∀ referencedId ∈ command.dependsOn ++ command.createdByOperationId.toList,
      referencedId ≠ command.clientOperationId ∧
        (queue.referencedRecords workspaceId referencedId ≠ [] ∨
          referencedId ∈ (sent.map (·.clientOperationId)).take position) := by
    intro referencedId member
    have reference : referencedId ∈ batch[position].references := by
      rw [createdBy] at member
      exact (List.mem_append.mp member).elim
        (fun dependency => List.mem_append_left _ (dependsOn referencedId dependency))
        (fun parent => List.mem_append_right _ parent)
    rcases closed _ _ _ split referencedId reference with accepted | earlier
    · refine ⟨?_, .inl (recorded referencedId accepted)⟩
      rintro rfl
      obtain ⟨other, present, same⟩ := List.mem_map.mp accepted
      obtain ⟨inOutbox, isAccepted⟩ := List.mem_filter.mp present
      have equal : other = batch[position] :=
        List.inj_on_of_nodup_map outboxIds inOutbox own.1 (same.trans sameId)
      rw [equal, own.2] at isAccepted
      cases isAccepted
    · refine ⟨?_, .inr (by rw [sameIds, ← List.map_take]; exact earlier)⟩
      rintro rfl
      rw [split, List.map_append, List.map_cons] at ids
      rw [sameId] at earlier
      exact (List.nodup_append.mp ids).2.2 _ earlier _ List.mem_cons_self rfl
  refine ⟨forM_iff.mpr fun referencedId member =>
    requireDependencyPrecedes_placed (placed referencedId member).1 (placed referencedId member).2,
    ?_⟩
  have dependenciesOk : command.dependsOn.forM
      (queue.requireDependencyResolvable workspaceId sent command) = .ok () :=
    forM_iff.mpr fun referencedId member => requireDependencyResolvable_placed
      (placed referencedId (List.mem_append_left _ member)).2
  unfold NavigationQueue.requireDependenciesResolvable
  rw [dependenciesOk]
  cases parent : command.createdByOperationId with
  | none => rfl
  | some createdBy =>
    obtain ⟨other, position⟩ := placed createdBy (List.mem_append_right _ (by simp [parent]))
    change (if createdBy = command.clientOperationId then _ else _) = _
    rw [if_neg other]
    exact requireDependencyResolvable_placed position

/-- Batches of the reachable outboxes, when each added intent that names a pending parent
lists it as a dependency: they are sent in strictly increasing order, they are causally
closed, and the server refuses none of their references. -/
theorem planned_batches_causally_closed (commands : List OutboxStep)
    (listed : ∀ command ∈ commands, command.Listed) {maxBatchSize : Int}
    (positive : 1 ≤ maxBatchSize) (retryableOperationIds : List String) :
    ∃ batch wires,
      planCatalogOutboxBatch (run commands) maxBatchSize retryableOperationIds = .ok batch ∧
      catalogOutboxBatchToIntents batch = .ok wires ∧
      (∃ sequences : List Nat, batch.map (·.clientSequence) = sequences.map some ∧
        sequences.Pairwise (· < ·)) ∧
      CausallyClosed (run commands) batch ∧
      ∀ sent, List.Forall₂ Sends wires sent → ServerAccepts (run commands) sent := by
  have invariant := run_invariant commands
  generalize run commands = outbox at invariant ⊢
  have nothing : DependenciesPrecede outbox [] := by
    intro before operation after split
    cases before <;> cases split
  obtain ⟨precede, included, batch, planned, sublist⟩ :=
    @planFrom_spec outbox [] (orderedCatalogOutboxOperations outbox) maxBatchSize.toNat
      retryableOperationIds nothing (fun _ absent => absurd absent List.not_mem_nil)
  rw [List.nil_append] at planned
  rw [planned] at precede included
  have inside : ∀ member ∈ batch, member ∈ outbox := fun member present =>
    (List.perm_insertionSort _ _).subset (sublist.subset present)
  have closed : CausallyClosed outbox batch := by
    intro before operation after split referencedId reference
    have present : operation ∈ batch := split ▸ List.mem_append_right _ List.mem_cons_self
    have dependency : referencedId ∈ operation.dependsOn := by
      rcases List.mem_append.mp reference with dependency | parent
      · exact dependency
      · exact invariant.parents listed operation (inside operation present) referencedId
          (Option.mem_toList.mp parent)
    exact precede before operation after split referencedId dependency
  obtain ⟨wires, wired⟩ := catalogOutboxBatchToIntents_ok fun member present =>
    (included member present).1
  have orderedIds : ((orderedCatalogOutboxOperations outbox).map (·.clientOperationId)).Nodup :=
    ((List.perm_insertionSort Precedes outbox).map _).nodup_iff.mpr invariant.ids
  refine ⟨batch, wires, ?_, wired, planned_increasing invariant.toWellNumbered sublist
    fun member present => (included member present).1, closed, fun sent sends =>
    serverAccepts closed (orderedIds.sublist (sublist.map _)) invariant.ids
      (fun member present => ⟨inside member present, (included member present).2⟩) wired sends⟩
  rw [planCatalogOutboxBatch, if_neg (by omega), planned]

def folderIntent : CatalogOutboxIntent where
  kind := .createFolder
  name := some "docs"

def moveIntent : CatalogOutboxIntent where
  kind := .moveNode
  targetNodeId := some "ses_1"
  parentCreatedByOperationId := some "op_a"

/-- The move of a session into the folder of `op_a`, planned as the second operation. -/
def movedOperation (dependsOn : List String) : CatalogOutboxOperation :=
  { pendingOperation "op_b" moveIntent ⟨1, some 1, dependsOn⟩ with
    clientSequence := some 2
    state := .persisted }

def movedIntoUnknown (dependsOn : List String) : List OutboxStep :=
  [.addIntent "op_a" folderIntent ⟨1, none, []⟩, .assignSequence "op_a" 1, .markPersisted "op_a",
    .markUnknown ["op_a"], .addIntent "op_b" moveIntent ⟨1, some 1, dependsOn⟩,
    .assignSequence "op_b" 2, .markPersisted "op_b"]

theorem planned_batches_causally_closed_sample :
    ∃ batch wires,
      planCatalogOutboxBatch (run (movedIntoUnknown ["op_a"])) 10 ["op_a"] = .ok batch ∧
      catalogOutboxBatchToIntents batch = .ok wires ∧
      (∃ sequences : List Nat, batch.map (·.clientSequence) = sequences.map some ∧
        sequences.Pairwise (· < ·)) ∧
      CausallyClosed (run (movedIntoUnknown ["op_a"])) batch ∧
      ∀ sent, List.Forall₂ Sends wires sent →
        ServerAccepts (run (movedIntoUnknown ["op_a"])) sent :=
  planned_batches_causally_closed (movedIntoUnknown ["op_a"])
    (by simp [movedIntoUnknown, OutboxStep.Listed, folderIntent, moveIntent]) (by decide) ["op_a"]

/-- The move alone is planned when the folder is its parent but not its dependency. -/
theorem planned_batches_causally_closed_unlisted :
    ¬ ∀ (commands : List OutboxStep) (maxBatchSize : Int) (retryableOperationIds : List String)
      (batch : CatalogOutbox), 1 ≤ maxBatchSize →
      planCatalogOutboxBatch (run commands) maxBatchSize retryableOperationIds = .ok batch →
      CausallyClosed (run commands) batch := by
  intro closes
  have closed := closes (movedIntoUnknown []) 10 [] [movedOperation []] (by decide) (by rfl) []
    (movedOperation []) [] rfl "op_a" (by decide)
  revert closed
  decide +kernel

end GraphAgent.Outbox
