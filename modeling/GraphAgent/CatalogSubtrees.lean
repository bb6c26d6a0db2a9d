import GraphAgent.CatalogProjection

/-!
# Subtrees of pending deletions

What the replay makes of every node, told from the confirmed nodes and the
operations alone, and which nodes the projection shows.  Removal looks only at
the parent of a node, so it reaches a whole subtree exactly when every inner
folder of it is deleted as well.
-/

namespace GraphAgent.Outbox

open KeyedRows Transaction

variable {confirmedNodes : List SessionCatalogNode} {all operations : CatalogOutbox}
  {operation : CatalogOutboxOperation} {table live : NodeTable} {projection next : Projection}
  {nodeId targetNodeId : String} {entry : EffectiveNode}

def givenParent (all : CatalogOutbox) (operation : CatalogOutboxOperation) : Option String :=
  match operation.createdByOperationId with
  | none => operation.parentNodeId
  | some createdBy => resolution all createdBy

/-- A node before any operation reaches it, and the operations that come after. -/
structure NodeStory where
  own : Option String
  already : Bool
  remaining : CatalogOutbox

def createsNode (nodeId : String) (operation : CatalogOutboxOperation) : Bool :=
  operation.kind = .createFolder && effectiveNodeId operation = nodeId

def movesNode (nodeId : String) (operation : CatalogOutboxOperation) : Bool :=
  operation.kind = .moveNode && operation.targetNodeId = some nodeId

def deletesNode (nodeId : String) (operation : CatalogOutboxOperation) : Bool :=
  isDeletion operation && operation.targetNodeId = some nodeId

def createdStory (all : CatalogOutbox) (nodeId : String) : CatalogOutbox → Option NodeStory
  | [] => none
  | operation :: rest =>
    if createsNode nodeId operation then some ⟨givenParent all operation, false, rest⟩
    else createdStory all nodeId rest

def story (confirmedNodes : List SessionCatalogNode) (all operations : CatalogOutbox)
    (nodeId : String) : Option NodeStory :=
  match confirmedNodes.find? fun node => node.nodeId = nodeId with
  | some node => some ⟨node.parentNodeId, node.state = .deleting, operations⟩
  | none => createdStory all nodeId operations

namespace NodeStory

def parent (story : NodeStory) (all : CatalogOutbox) (nodeId : String) : Option String :=
  match (story.remaining.filter (movesNode nodeId)).getLast? with
  | some move => givenParent all move
  | none => story.own

def deleting (story : NodeStory) (nodeId : String) : Bool :=
  story.already || story.remaining.any (deletesNode nodeId)

end NodeStory

def nodeFacts (confirmedNodes : List SessionCatalogNode) (all operations : CatalogOutbox)
    (nodeId : String) : Option (Option String × Bool) :=
  (story confirmedNodes all operations nodeId).map fun story =>
    (story.parent all nodeId, story.deleting nodeId)

def ParentOf (confirmedNodes : List SessionCatalogNode) (operations : CatalogOutbox)
    (nodeId parentNodeId : String) : Prop :=
  ∃ deleting, nodeFacts confirmedNodes operations operations nodeId =
    some (some parentNodeId, deleting)

def Deleting (confirmedNodes : List SessionCatalogNode) (operations : CatalogOutbox)
    (nodeId : String) : Prop :=
  ∃ parent, nodeFacts confirmedNodes operations operations nodeId = some (parent, true)

def BelowDeleting (confirmedNodes : List SessionCatalogNode) (operations : CatalogOutbox)
    (nodeId : String) : Prop :=
  ∃ ancestor, Relation.TransGen (ParentOf confirmedNodes operations) nodeId ancestor ∧
    Deleting confirmedNodes operations ancestor

theorem createdStory_append : createdStory all nodeId (operations ++ [operation]) =
    match createdStory all nodeId operations with
    | some story => some ⟨story.own, story.already, story.remaining ++ [operation]⟩
    | none =>
      if createsNode nodeId operation then some ⟨givenParent all operation, false, []⟩
      else none := by
  induction operations with
  | nil => rfl
  | cons first rest ih =>
    rw [List.cons_append, createdStory, createdStory]
    by_cases creates : createsNode nodeId first = true
    · rw [if_pos creates, if_pos creates]
    · rw [if_neg creates, if_neg creates, ih]

theorem parent_append (own : Option String) (already : Bool) (remaining : CatalogOutbox) :
    NodeStory.parent ⟨own, already, remaining ++ [operation]⟩ all nodeId =
      if movesNode nodeId operation then givenParent all operation
      else NodeStory.parent ⟨own, already, remaining⟩ all nodeId := by
  unfold NodeStory.parent
  dsimp only
  rw [List.filter_append]
  by_cases moves : movesNode nodeId operation = true
  · have last : [operation].filter (movesNode nodeId) = [operation] := by simp [moves]
    rw [if_pos moves, last, List.getLast?_concat]
  · have none : [operation].filter (movesNode nodeId) = [] := by simp [moves]
    rw [if_neg moves, none, List.append_nil]

theorem deleting_append (own : Option String) (already : Bool) (remaining : CatalogOutbox) :
    NodeStory.deleting ⟨own, already, remaining ++ [operation]⟩ nodeId =
      (NodeStory.deleting ⟨own, already, remaining⟩ nodeId || deletesNode nodeId operation) := by
  unfold NodeStory.deleting
  dsimp only
  rw [List.any_append, Bool.or_assoc, List.any_cons, List.any_nil, Bool.or_false]

theorem nodeFacts_append : nodeFacts confirmedNodes all (operations ++ [operation]) nodeId =
    match nodeFacts confirmedNodes all operations nodeId with
    | some (parent, deleting) =>
      some (if movesNode nodeId operation then givenParent all operation else parent,
        deleting || deletesNode nodeId operation)
    | none =>
      if createsNode nodeId operation then some (givenParent all operation, false)
      else none := by
  unfold nodeFacts story
  cases confirmedNodes.find? fun node => node.nodeId = nodeId with
  | some node =>
    simp only [Option.map_some]
    rw [parent_append, deleting_append]
  | none =>
    dsimp only
    rw [createdStory_append]
    cases createdStory all nodeId operations with
    | some story =>
      simp only [Option.map_some]
      rw [parent_append, deleting_append]
    | none =>
      simp only [Option.map_none]
      split <;> rfl

def entryFacts (entry : EffectiveNode) : Option String × Bool :=
  (entry.parentNodeId, entry.deleted)

structure Tracks (confirmedNodes : List SessionCatalogNode) (all operations : CatalogOutbox)
    (projection : Projection) : Prop where
  unique : (projection.table.map EffectiveNode.nodeId).Nodup
  facts : ∀ nodeId, (projection.table.get nodeId).map entryFacts =
    nodeFacts confirmedNodes all operations nodeId
  roots : ∀ entry ∈ projection.table, entry.deleted = true →
    entry.nodeId ∈ projection.deletingRoots

theorem get_append : NodeTable.get (table ++ [entry]) nodeId =
    (table.get nodeId).or (if entry.nodeId = nodeId then some entry else none) := by
  rw [NodeTable.get, fetch_append]
  congr 1
  rw [fetch, List.find?_singleton]
  simp only [decide_eq_true_eq]

theorem get_update {change : EffectiveNode → EffectiveNode}
    (keeps : ∀ entry, (change entry).nodeId = entry.nodeId) :
    (table.update targetNodeId change).get nodeId =
      if nodeId = targetNodeId then (table.get nodeId).map change else table.get nodeId := by
  have both : (table.update targetNodeId change).get nodeId = (table.get nodeId).map fun entry =>
      if decide (entry.nodeId = targetNodeId) then change entry else entry :=
    fetch_updateWhere_matching fun row _ => keeps row
  rw [both]
  cases found : table.get nodeId with
  | none => split <;> rfl
  | some entry =>
    have own : entry.nodeId = nodeId := fetch_key found
    rw [Option.map_some, own]
    by_cases same : nodeId = targetNodeId <;> simp [same]

theorem update_ids {change : EffectiveNode → EffectiveNode}
    (keeps : ∀ entry, (change entry).nodeId = entry.nodeId) :
    (table.update targetNodeId change).map EffectiveNode.nodeId =
      table.map EffectiveNode.nodeId :=
  keys_updateWhere fun entry _ => keeps entry

theorem ids_append (unique : (table.map EffectiveNode.nodeId).Nodup)
    (absent : table.get entry.nodeId = none) :
    ((table ++ [entry]).map EffectiveNode.nodeId).Nodup := by
  rw [List.map_append]
  refine List.Nodup.append unique (List.nodup_singleton _) fun id present added => ?_
  obtain ⟨other, member, same⟩ := List.mem_map.mp present
  exact fetch_eq_none.mp absent other member (same.trans (List.mem_singleton.mp added))

theorem mem_update {change : EffectiveNode → EffectiveNode}
    (member : entry ∈ table.update targetNodeId change) :
    ∃ old ∈ table, entry = if old.nodeId = targetNodeId then change old else old := by
  obtain ⟨old, present, rfl⟩ := List.mem_map.mp member
  exact ⟨old, present, by simp only [decide_eq_true_eq]⟩

theorem nodeFacts_confirmed (node : SessionCatalogNode) :
    nodeFacts (confirmedNodes ++ [node]) all [] nodeId =
      (nodeFacts confirmedNodes all [] nodeId).or
        (if node.nodeId = nodeId then some (node.parentNodeId, decide (node.state = .deleting))
        else none) := by
  unfold nodeFacts story
  rw [List.find?_append, List.find?_singleton]
  cases confirmedNodes.find? fun node => node.nodeId = nodeId with
  | some node => rfl
  | none =>
    rw [Option.none_or]
    by_cases same : node.nodeId = nodeId <;>
      simp [same, createdStory, NodeStory.parent, NodeStory.deleting]

theorem Tracks.addConfirmed {node : SessionCatalogNode}
    (tracks : Tracks confirmedNodes all [] projection)
    (added : addConfirmed projection node = .ok next) :
    Tracks (confirmedNodes ++ [node]) all [] next := by
  unfold Outbox.addConfirmed at added
  split at added
  · cases added
  · rename_i absent
    cases added
    refine ⟨ids_append tracks.unique absent, fun nodeId => ?_, fun entry member deleted => ?_⟩
    · rw [nodeFacts_confirmed, ← tracks.facts nodeId, get_append]
      change Option.map entryFacts
        ((projection.table.get nodeId).or
          (if node.nodeId = nodeId then some (confirmedEntry node) else none)) = _
      cases projection.table.get nodeId with
      | some entry => rfl
      | none => by_cases same : node.nodeId = nodeId <;> simp [same, entryFacts, confirmedEntry,
          confirmedNodeToProjected]
    · rcases List.mem_append.mp member with old | new
      · exact List.mem_append_left _ (tracks.roots entry old deleted)
      · rw [List.mem_singleton.mp new] at deleted ⊢
        have state : node.state = .deleting := of_decide_eq_true deleted
        rw [if_pos state]
        exact List.mem_append_right _ List.mem_cons_self

theorem tracks_confirmed {rest : List SessionCatalogNode}
    (tracks : Tracks confirmedNodes all [] projection)
    (added : rest.foldlM Outbox.addConfirmed projection = .ok next) :
    Tracks (confirmedNodes ++ rest) all [] next := by
  induction rest generalizing confirmedNodes projection with
  | nil =>
    cases added
    rwa [List.append_nil]
  | cons node rest ih =>
    rw [List.foldlM_cons] at added
    obtain ⟨middle, first, others⟩ := bind_ok added
    have final := ih (tracks.addConfirmed first) others
    rwa [List.append_assoc] at final

theorem projectedParent_ok {parentNodeId : Option String}
    (ok : projectedParent all operation = .ok parentNodeId) :
    parentNodeId = givenParent all operation := by
  unfold projectedParent at ok
  unfold givenParent
  cases createdBy : operation.createdByOperationId with
  | none =>
    rw [createdBy] at ok
    exact (Except.ok.inj ok).symm
  | some creation =>
    rw [createdBy] at ok
    dsimp only at ok ⊢
    split at ok
    · cases ok
    · rename_i found
      rw [found]
      exact (Except.ok.inj ok).symm

theorem nodeFacts_untouched (creates : createsNode nodeId operation = false ∨
      (nodeFacts confirmedNodes all operations nodeId).isSome)
    (moves : movesNode nodeId operation = false) (deletes : deletesNode nodeId operation = false) :
    nodeFacts confirmedNodes all (operations ++ [operation]) nodeId =
      nodeFacts confirmedNodes all operations nodeId := by
  rw [nodeFacts_append]
  cases known : nodeFacts confirmedNodes all operations nodeId with
  | some facts => simp [moves, deletes]
  | none =>
    rw [known] at creates
    simp only [Option.isSome_none, Bool.false_eq_true, or_false] at creates
    simp [creates]

theorem not_moves_of_create (create : operation.kind = .createFolder) :
    movesNode nodeId operation = false ∧ deletesNode nodeId operation = false := by
  constructor
  · rw [movesNode, create]
    rfl
  · rw [deletesNode, isDeletion, create]
    rfl

theorem Tracks.replayCreation (tracks : Tracks confirmedNodes all operations projection)
    (create : operation.kind = .createFolder)
    (ok : replayCreation all projection operation = .ok next) :
    Tracks confirmedNodes all (operations ++ [operation]) next := by
  obtain ⟨moves, deletes⟩ := @not_moves_of_create operation (effectiveNodeId operation) create
  have others (nodeId : String) : movesNode nodeId operation = false ∧
      deletesNode nodeId operation = false := not_moves_of_create create
  unfold Outbox.replayCreation at ok
  split at ok
  · rename_i existing found
    cases ok
    have keeps (entry : EffectiveNode) : EffectiveNode.nodeId { withPending operation entry with
        createdByOperationId := some operation.clientOperationId } = entry.nodeId := rfl
    refine ⟨by rw [update_ids keeps]; exact tracks.unique, fun nodeId => ?_,
      fun entry member deleted => ?_⟩
    · have same : (Option.map entryFacts
          (NodeTable.get (projection.table.update (effectiveNodeId operation) fun entry =>
            { withPending operation entry with
              createdByOperationId := some operation.clientOperationId }) nodeId)) =
          (projection.table.get nodeId).map entryFacts := by
        rw [get_update keeps]
        split
        · rw [Option.map_map]
          rfl
        · rfl
      rw [same, tracks.facts nodeId]
      refine (nodeFacts_untouched ?_ (others nodeId).1 (others nodeId).2).symm
      by_cases other : effectiveNodeId operation = nodeId
      · right
        rw [← other, ← tracks.facts, found]
        rfl
      · left
        simp [createsNode, other]
    · obtain ⟨old, present, rfl⟩ := mem_update member
      have stays : old.deleted = true := by
        split at deleted <;> exact deleted
      have root := tracks.roots old present stays
      split <;> exact root
  · rename_i absent
    obtain ⟨parentNodeId, parent, added⟩ := bind_ok ok
    cases added
    have given := projectedParent_ok parent
    refine ⟨ids_append tracks.unique absent, fun nodeId => ?_, fun entry member deleted => ?_⟩
    · rw [nodeFacts_append, ← tracks.facts nodeId, get_append, (others nodeId).1,
        (others nodeId).2]
      change Option.map entryFacts ((projection.table.get nodeId).or
        (if effectiveNodeId operation = nodeId then some (createdEntry operation parentNodeId)
          else none)) = _
      cases known : projection.table.get nodeId with
      | some entry => simp [entryFacts]
      | none =>
        by_cases same : effectiveNodeId operation = nodeId <;>
          simp [same, createsNode, create, entryFacts, createdEntry, given]
    · rcases List.mem_append.mp member with old | new
      · exact tracks.roots entry old deleted
      · rw [List.mem_singleton.mp new] at deleted
        cases deleted

theorem replayTarget_facts {change : EffectiveNode → EffectiveNode}
    (other : operation.kind ≠ .createFolder) (target : operation.targetNodeId = some targetNodeId)
    (ok : replayTarget all operation = .ok change) (entry : EffectiveNode) :
    (change entry).nodeId = entry.nodeId ∧
      entryFacts (change entry) =
        (if movesNode targetNodeId operation then givenParent all operation
          else entry.parentNodeId,
        entry.deleted || deletesNode targetNodeId operation) := by
  unfold replayTarget at ok
  unfold movesNode deletesNode isDeletion
  rw [target]
  cases kind : operation.kind with
  | createFolder => exact absurd kind other
  | renameNode =>
    rw [kind] at ok
    cases ok
    exact ⟨rfl, by simp [entryFacts]⟩
  | moveNode =>
    rw [kind] at ok
    obtain ⟨parentNodeId, parent, did⟩ := bind_ok ok
    cases did
    exact ⟨rfl, by simp [entryFacts, projectedParent_ok parent]⟩
  | deleteFolder =>
    rw [kind] at ok
    cases ok
    exact ⟨rfl, by simp [entryFacts]⟩
  | deleteSession =>
    rw [kind] at ok
    cases ok
    exact ⟨rfl, by simp [entryFacts]⟩

theorem Tracks.replayed (tracks : Tracks confirmedNodes all operations projection)
    (ok : replay all projection operation = .ok next) :
    Tracks confirmedNodes all (operations ++ [operation]) next := by
  unfold replay at ok
  split at ok
  · rename_i create
    exact tracks.replayCreation create ok
  · rename_i other
    have creates (nodeId : String) : createsNode nodeId operation = false := by
      simp [createsNode, other]
    split at ok
    · rename_i untargeted
      cases ok
      refine ⟨tracks.unique, fun nodeId => ?_, tracks.roots⟩
      rw [tracks.facts nodeId]
      refine (nodeFacts_untouched (.inl (creates nodeId)) ?_ ?_).symm
      · simp [movesNode, untargeted]
      · simp [deletesNode, untargeted]
    · rename_i targetNodeId target
      have elsewhere {nodeId : String} (differs : nodeId ≠ targetNodeId) :
          movesNode nodeId operation = false ∧ deletesNode nodeId operation = false := by
        simp [movesNode, deletesNode, target, differs.symm]
      split at ok
      · rename_i absent
        cases ok
        refine ⟨tracks.unique, fun nodeId => ?_, tracks.roots⟩
        rw [tracks.facts nodeId]
        by_cases same : nodeId = targetNodeId
        · have unknown := tracks.facts nodeId
          rw [same, absent] at unknown
          rw [nodeFacts_append, same, ← unknown]
          simp [creates targetNodeId]
        · obtain ⟨moves, deletes⟩ := elsewhere same
          exact (nodeFacts_untouched (.inl (creates nodeId)) moves deletes).symm
      · rename_i existing found
        obtain ⟨change, changed, ok⟩ := bind_ok ok
        cases ok
        have facts := replayTarget_facts other target changed
        set deletingRoots := projection.deletingRoots ++
          if isDeletion operation then [targetNodeId] else [] with rootsEq
        set apply : EffectiveNode → EffectiveNode := fun entry =>
          if marksPending deletingRoots targetNodeId operation then
            withPending operation (change entry)
          else change entry with applyEq
        have keeps (entry : EffectiveNode) : (apply entry).nodeId = entry.nodeId := by
          rw [applyEq]
          dsimp only
          split <;> exact (facts entry).1
        have applied (entry : EffectiveNode) : entryFacts (apply entry) =
            entryFacts (change entry) := by
          rw [applyEq]
          dsimp only
          split <;> rfl
        refine ⟨by rw [update_ids keeps]; exact tracks.unique, fun nodeId => ?_,
          fun entry member deleted => ?_⟩
        · change Option.map entryFacts ((projection.table.update targetNodeId apply).get nodeId) = _
          rw [get_update keeps]
          by_cases same : nodeId = targetNodeId
          · have known := tracks.facts nodeId
            rw [same, found] at known
            rw [if_pos same, same, found, nodeFacts_append, ← known, Option.map_some,
              Option.map_some, Option.map_some, applied existing, (facts existing).2]
            rfl
          · obtain ⟨moves, deletes⟩ := elsewhere same
            rw [if_neg same, tracks.facts nodeId]
            exact (nodeFacts_untouched (.inl (creates nodeId)) moves deletes).symm
        · obtain ⟨old, present, rfl⟩ := mem_update member
          by_cases same : old.nodeId = targetNodeId
          · rw [if_pos same] at deleted ⊢
            rw [keeps old]
            have deletes : (old.deleted || deletesNode targetNodeId operation) = true := by
              have both := (applied old).trans (facts old).2
              exact (congrArg Prod.snd both).symm.trans deleted
            rcases Bool.or_eq_true_iff.mp deletes with before | now
            · exact List.mem_append_left _ (tracks.roots old present before)
            · have deletion : isDeletion operation = true := (Bool.and_eq_true_iff.mp now).1
              change old.nodeId ∈ deletingRoots
              rw [rootsEq, deletion, if_pos rfl, same]
              exact List.mem_append_right _ List.mem_cons_self
          · rw [if_neg same] at deleted ⊢
            exact List.mem_append_left _ (tracks.roots old present deleted)

theorem tracks_replayed {rest : CatalogOutbox}
    (tracks : Tracks confirmedNodes all operations projection)
    (ok : rest.foldlM (replay all) projection = .ok next) :
    Tracks confirmedNodes all (operations ++ rest) next := by
  induction rest generalizing operations projection with
  | nil =>
    cases ok
    rwa [List.append_nil]
  | cons operation rest ih =>
    rw [List.foldlM_cons] at ok
    obtain ⟨middle, first, others⟩ := bind_ok ok
    have final := ih (tracks.replayed first) others
    rwa [List.append_assoc] at final

theorem Tracks.empty : Tracks [] all [] ⟨[], []⟩ :=
  ⟨List.nodup_nil, fun _ => rfl, fun _ member => absurd member List.not_mem_nil⟩

theorem replayAll_tracks (ok : replayAll confirmedNodes operations = .ok projection) :
    Tracks confirmedNodes operations operations projection := by
  unfold replayAll at ok
  obtain ⟨confirmed, loaded, replayed⟩ := bind_ok ok
  have start := tracks_confirmed (@Tracks.empty operations) loaded
  exact tracks_replayed start replayed

theorem removeDescendants_eq (passes : Nat) (live : NodeTable) :
    removeDescendants table (passes + 1) live =
      live.filter fun entry => !parentDeleted table entry := by
  induction passes generalizing live with
  | zero =>
    rw [removeDescendants]
    split
    · rfl
    · rw [removeDescendants]
  | succ passes ih =>
    rw [removeDescendants]
    split
    · rfl
    · rw [ih, List.filter_filter]
      simp only [Bool.and_self]

theorem withChildren_facts (live : NodeTable) (entry : EffectiveNode) :
    (withChildren live entry).nodeId = entry.nodeId ∧
      (withChildren live entry).parentNodeId = entry.parentNodeId := by
  unfold withChildren
  split
  · exact ⟨rfl, rfl⟩
  · split <;> exact ⟨rfl, rfl⟩

theorem buildEffectiveNodes_ok {outbox : CatalogOutbox}
    (built : buildEffectiveNodes confirmedNodes outbox = .ok live) :
    ∃ projection,
      Tracks confirmedNodes (orderedCatalogOutboxOperations outbox)
        (orderedCatalogOutboxOperations outbox) projection ∧
      ∃ shown : NodeTable,
        shown = (projection.table.filter fun entry => !parentDeleted projection.table entry) ∧
          live = shown.map (withChildren shown) := by
  unfold buildEffectiveNodes at built
  obtain ⟨projection, replayed, built⟩ := bind_ok built
  obtain ⟨_, _, built⟩ := bind_ok built
  have tracks := replayAll_tracks replayed
  have visible : (projection.table.filter fun entry =>
      !entry.deleted || decide (entry.nodeId ∈ projection.deletingRoots)) = projection.table := by
    refine List.filter_eq_self.mpr fun entry member => ?_
    cases deleted : entry.deleted with
    | false => rfl
    | true => simp [tracks.roots entry member deleted]
  cases built
  rw [visible, removeDescendants_eq]
  exact ⟨projection, tracks, _, rfl, rfl⟩

theorem Tracks.entry_facts (tracks : Tracks confirmedNodes all operations projection)
    (member : entry ∈ projection.table) :
    nodeFacts confirmedNodes all operations entry.nodeId =
      some (entry.parentNodeId, entry.deleted) := by
  have found : projection.table.get entry.nodeId = some entry :=
    fetch_of_mem tracks.unique member
  rw [← tracks.facts, found]
  rfl

theorem Tracks.node (tracks : Tracks confirmedNodes all operations projection)
    {facts : Option String × Bool}
    (known : nodeFacts confirmedNodes all operations nodeId = some facts) :
    ∃ entry ∈ projection.table, entry.nodeId = nodeId ∧ entryFacts entry = facts := by
  rw [← tracks.facts] at known
  obtain ⟨entry, found, same⟩ := Option.map_eq_some_iff.mp known
  exact ⟨entry, fetch_mem found, fetch_key found, same⟩

theorem parentDeleted_iff (tracks : Tracks confirmedNodes operations operations projection)
    (member : entry ∈ projection.table) :
    parentDeleted projection.table entry = true ↔
      ∃ parentNodeId, ParentOf confirmedNodes operations entry.nodeId parentNodeId ∧
        Deleting confirmedNodes operations parentNodeId := by
  have known := tracks.entry_facts member
  have parentOf {parentNodeId : String} :
      ParentOf confirmedNodes operations entry.nodeId parentNodeId ↔
        entry.parentNodeId = some parentNodeId := by
    unfold ParentOf
    rw [known]
    constructor
    · rintro ⟨deleting, same⟩
      exact congrArg Prod.fst (Option.some.inj same)
    · intro same
      exact ⟨entry.deleted, by rw [same]⟩
  unfold parentDeleted
  cases parent : entry.parentNodeId with
  | none =>
    refine ⟨fun impossible => (Bool.false_ne_true impossible).elim, ?_⟩
    rintro ⟨parentNodeId, isParent, _⟩
    rw [parentOf, parent] at isParent
    cases isParent
  | some parentNodeId =>
    dsimp only
    constructor
    · intro deleted
      obtain ⟨parentEntry, found, isDeleted⟩ := (Option.any_eq_true _ _).mp deleted
      have own : parentEntry.nodeId = parentNodeId := fetch_key found
      have facts := tracks.entry_facts (fetch_mem found)
      refine ⟨parentNodeId, parentOf.mpr parent, parentEntry.parentNodeId, ?_⟩
      rw [← own, facts, isDeleted]
    · rintro ⟨otherId, isParent, grandparent, deleting⟩
      obtain rfl : parentNodeId = otherId :=
        Option.some.inj (parent.symm.trans (parentOf.mp isParent))
      obtain ⟨parentEntry, inTable, own, facts⟩ := tracks.node deleting
      have found : projection.table.get parentNodeId = some parentEntry :=
        own ▸ fetch_of_mem tracks.unique inTable
      rw [found]
      exact congrArg Prod.snd facts

structure HidesSubtrees (confirmedNodes : List SessionCatalogNode) (operations : CatalogOutbox)
    (live : NodeTable) : Prop where
  hidden : ∀ entry ∈ live, ¬ BelowDeleting confirmedNodes operations entry.nodeId
  present : ∀ nodeId story,
    Outbox.story confirmedNodes operations operations nodeId = some story →
    ¬ BelowDeleting confirmedNodes operations nodeId →
    ∃ entry, live.filter (·.nodeId = nodeId) = [entry] ∧
      entry.parentNodeId = story.parent operations nodeId
  roots : ∀ nodeId, Deleting confirmedNodes operations nodeId →
    (nodeId ∈ live.map EffectiveNode.nodeId ↔ ¬ BelowDeleting confirmedNodes operations nodeId)

def InnerNodesDeleting (confirmedNodes : List SessionCatalogNode) (operations : CatalogOutbox) :
    Prop :=
  ∀ nodeId parentNodeId, ParentOf confirmedNodes operations nodeId parentNodeId →
    BelowDeleting confirmedNodes operations parentNodeId →
    Deleting confirmedNodes operations parentNodeId

theorem BelowDeleting.parent {parentNodeId : String}
    (parentOf : ParentOf confirmedNodes operations nodeId parentNodeId)
    (below : BelowDeleting confirmedNodes operations parentNodeId) :
    BelowDeleting confirmedNodes operations nodeId := by
  obtain ⟨ancestor, path, deleting⟩ := below
  exact ⟨ancestor, .head parentOf path, deleting⟩

theorem belowDeleting_iff (inner : InnerNodesDeleting confirmedNodes operations) :
    BelowDeleting confirmedNodes operations nodeId ↔
      ∃ parentNodeId, ParentOf confirmedNodes operations nodeId parentNodeId ∧
        Deleting confirmedNodes operations parentNodeId := by
  constructor
  · rintro ⟨ancestor, path, deleting⟩
    obtain ⟨parentNodeId, parentOf, rest⟩ := Relation.TransGen.head'_iff.mp path
    refine ⟨parentNodeId, parentOf, ?_⟩
    rcases Relation.reflTransGen_iff_eq_or_transGen.mp rest with rfl | further
    · exact deleting
    · exact inner nodeId parentNodeId parentOf ⟨ancestor, further, deleting⟩
  · rintro ⟨parentNodeId, parentOf, deleting⟩
    exact ⟨parentNodeId, .single parentOf, deleting⟩

theorem filter_of_mem (unique : (table.map EffectiveNode.nodeId).Nodup) (member : entry ∈ table) :
    table.filter (·.nodeId = entry.nodeId) = [entry] := by
  induction table with
  | nil => cases member
  | cons first rest ih =>
    rw [List.map_cons, List.nodup_cons] at unique
    rcases List.mem_cons.mp member with rfl | later
    · have others : rest.filter (·.nodeId = entry.nodeId) = [] := by
        refine List.filter_eq_nil_iff.mpr fun other present same => unique.1 ?_
        exact of_decide_eq_true same ▸ List.mem_map_of_mem present
      have own : decide (entry.nodeId = entry.nodeId) = true := decide_eq_true rfl
      rw [List.filter_cons, if_pos own, others]
    · have differs : first.nodeId ≠ entry.nodeId := fun same =>
        unique.1 (same ▸ List.mem_map_of_mem later)
      have other : ¬ decide (first.nodeId = entry.nodeId) = true := by simpa using differs
      rw [List.filter_cons, if_neg other, ih unique.2 later]

section Shown

variable {shown : NodeTable}
  (shownEq : shown = projection.table.filter fun entry => !parentDeleted projection.table entry)
  (tracks : Tracks confirmedNodes operations operations projection)

include shownEq

theorem mem_shown : nodeId ∈ (shown.map (withChildren shown)).map EffectiveNode.nodeId ↔
    ∃ entry ∈ projection.table, entry.nodeId = nodeId ∧
      parentDeleted projection.table entry = false := by
  constructor
  · intro member
    obtain ⟨changed, inLive, rfl⟩ := List.mem_map.mp member
    obtain ⟨entry, inShown, rfl⟩ := List.mem_map.mp inLive
    rw [shownEq] at inShown
    obtain ⟨inTable, visible⟩ := List.mem_filter.mp inShown
    exact ⟨entry, inTable, (withChildren_facts _ entry).1.symm, by simpa using visible⟩
  · rintro ⟨entry, inTable, rfl, visible⟩
    have inShown : entry ∈ shown := by
      rw [shownEq]
      exact List.mem_filter.mpr ⟨inTable, by rw [visible]; rfl⟩
    rw [← (withChildren_facts shown entry).1]
    exact List.mem_map_of_mem (List.mem_map_of_mem inShown)

include tracks

theorem shown_once (member : entry ∈ projection.table)
    (visible : parentDeleted projection.table entry = false) :
    (shown.map (withChildren shown)).filter (·.nodeId = entry.nodeId) =
      [withChildren shown entry] := by
  have inShown : entry ∈ shown := by
    rw [shownEq]
    exact List.mem_filter.mpr ⟨member, by rw [visible]; rfl⟩
  have unique : ((shown.map (withChildren shown)).map EffectiveNode.nodeId).Nodup := by
    rw [List.map_map]
    have same : EffectiveNode.nodeId ∘ withChildren shown = EffectiveNode.nodeId :=
      funext fun entry => (withChildren_facts shown entry).1
    rw [same, shownEq]
    exact tracks.unique.sublist (List.filter_sublist.map _)
  have once := filter_of_mem unique (List.mem_map_of_mem inShown)
  rwa [(withChildren_facts shown entry).1] at once

theorem hidesSubtrees_iff :
    HidesSubtrees confirmedNodes operations (shown.map (withChildren shown)) ↔
      InnerNodesDeleting confirmedNodes operations := by
  constructor
  · intro hides nodeId parentNodeId parentOf below
    obtain ⟨deleting, known⟩ := parentOf
    obtain ⟨entry, inTable, rfl, _⟩ := tracks.node known
    by_cases visible : parentDeleted projection.table entry = false
    · have inLive := (mem_shown shownEq).mpr ⟨entry, inTable, rfl, visible⟩
      obtain ⟨changed, member, same⟩ := List.mem_map.mp inLive
      have free := hides.hidden changed member
      rw [same] at free
      exact absurd (below.parent ⟨deleting, known⟩) free
    · have removed : parentDeleted projection.table entry = true := by simpa using visible
      obtain ⟨otherId, otherParent, isDeleting⟩ := (parentDeleted_iff tracks inTable).mp removed
      obtain ⟨otherDeleting, otherKnown⟩ := otherParent
      rw [known] at otherKnown
      obtain rfl : parentNodeId = otherId :=
        Option.some.inj (congrArg Prod.fst (Option.some.inj otherKnown))
      exact isDeleting
  · intro inner
    have visible_iff {entry : EffectiveNode} (inTable : entry ∈ projection.table) :
        parentDeleted projection.table entry = false ↔
          ¬ BelowDeleting confirmedNodes operations entry.nodeId := by
      rw [belowDeleting_iff inner, ← parentDeleted_iff tracks inTable, Bool.not_eq_true]
    refine ⟨fun changed member => ?_, fun nodeId story known free => ?_, fun nodeId deleting => ?_⟩
    · obtain ⟨entry, inTable, same, visible⟩ :=
        (mem_shown shownEq).mp (List.mem_map_of_mem member)
      exact same ▸ (visible_iff inTable).mp visible
    · have facts : nodeFacts confirmedNodes operations operations nodeId =
          some (story.parent operations nodeId, story.deleting nodeId) := by
        rw [nodeFacts, known]
        rfl
      obtain ⟨entry, inTable, rfl, same⟩ := tracks.node facts
      refine ⟨withChildren shown entry,
        shown_once shownEq tracks inTable ((visible_iff inTable).mpr free), ?_⟩
      exact (withChildren_facts shown entry).2.trans (congrArg Prod.fst same)
    · rw [mem_shown shownEq]
      constructor
      · rintro ⟨entry, inTable, rfl, visible⟩
        exact (visible_iff inTable).mp visible
      · intro free
        obtain ⟨parent, known⟩ := deleting
        obtain ⟨entry, inTable, rfl, _⟩ := tracks.node known
        exact ⟨entry, inTable, rfl, (visible_iff inTable).mpr free⟩

end Shown

def sampleFolder (nodeId : String) (parentNodeId : Option String) : SessionCatalogNode where
  nodeId := nodeId
  kind := .folder
  name := nodeId
  parentNodeId := parentNodeId
  sessionId := none
  folderId := some nodeId
  hasChildren := true
  nodeRevision := 1
  state := .active
  createdAt := none
  updatedAt := none

def deleteRootIntent : CatalogOutboxIntent where
  kind := .deleteFolder
  targetNodeId := some "root"
  recursive := true

/-- The recursive deletion of a folder. -/
def deleteRoot : CatalogOutboxOperation :=
  { pendingOperation "op_a" deleteRootIntent ⟨1, none, []⟩ with
    clientSequence := some 1
    state := .accepted }

def nestedFolders : List SessionCatalogNode :=
  [sampleFolder "root" none, sampleFolder "inner" (some "root"), sampleFolder "leaf" (some "inner")]

def shownIds (built : Except ProjectionError NodeTable) : List String :=
  match built with
  | .ok live => live.map EffectiveNode.nodeId
  | .error _ => []

theorem shownIds_ok {built : Except ProjectionError NodeTable} {first : String}
    {rest : List String} (ids : shownIds built = first :: rest) :
    ∃ live, built = .ok live ∧ live.map EffectiveNode.nodeId = first :: rest := by
  cases built with
  | error error => cases ids
  | ok live => exact ⟨live, rfl, ids⟩

end GraphAgent.Outbox
