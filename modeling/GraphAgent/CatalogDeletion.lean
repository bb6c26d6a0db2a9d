import GraphAgent.CatalogJournal

/-!
# Subtree deletion over whole runs

The invariant of the catalog, and the runs in which every mark closes the whole
subtree: a frozen set is closed in a later transaction than it was read in, so
nothing may have been mounted on it in between.
-/

namespace GraphAgent.Catalog

open KeyedRows Navigation Transaction

structure CatalogSafe (database : CatalogDatabase) : Prop where
  acyclic : ∀ nodeId, ¬ Relation.TransGen
    (fun parent child => (parent, child) ∈ database.nodes.links) nodeId nodeId
  workspaces : ∀ row ∈ database.nodes, ∀ parent, row.parentNodeId = some parent →
    ∃ above ∈ database.nodes, above.nodeId = parent ∧ above.workspaceId = row.workspaceId
  closed : ∀ row ∈ database.nodes, row.state = .deleting → ∀ lower ∈ database.nodes,
    database.nodes.InSubtree row.nodeId lower.nodeId → lower.state = .deleting
  unblocked : ∀ record ∈ database.deletes, record.state.isMarked = true →
    CatalogDatabase.isDrained record = true → ∀ (transactionHook : TransactionHook) (now : String),
      (∀ updated, transactionHook updated = .ok ()) →
        ∃ finished,
          database.finishSubtreeDelete record.idempotencyKey transactionHook now = .ok finished

structure DeletesExactly (before after : CatalogDatabase) : Prop where
  marks : ∀ record ∈ before.deletes, record.state = .preparing →
    ∀ later ∈ after.deletes, later.idempotencyKey = record.idempotencyKey →
      later.state.isMarked = true → ∀ nodeId,
        ((∃ row ∈ before.nodes, row.nodeId = nodeId ∧ row.state = .active) ∧
          ∃ row ∈ after.nodes, row.nodeId = nodeId ∧ row.state = .deleting) ↔
        before.nodes.InSubtree record.rootNodeId nodeId
  finishes : ∀ record ∈ before.deletes, record.state.isMarked = true →
    ∀ later ∈ after.deletes, later.idempotencyKey = record.idempotencyKey →
      later.state = .completed →
        (∀ row, row ∈ after.nodes ↔
          row ∈ before.nodes ∧ ¬ before.nodes.InSubtree record.rootNodeId row.nodeId) ∧
        ∀ row ∈ before.nodes, before.nodes.InSubtree record.rootNodeId row.nodeId →
          row.kind = .session → row.nodeId ∈ record.drainedSessionIds

def Undisturbed (database : CatalogDatabase) : CatalogCommand → Prop
  | .createFolder nodeId _ _ _ =>
    ∀ record ∈ database.deletes, record.state = .preparing → nodeId ∉ frozenIds record
  | .createSessionNode request =>
    ∀ record ∈ database.deletes, record.state = .preparing →
      request.nodeId ∉ frozenIds record
  | .markSubtreeDeleting idempotencyKey _ =>
    ∀ record ∈ database.deletes, record.idempotencyKey = idempotencyKey →
      record.state = .preparing → ∀ row ∈ database.nodes, ∀ parent ∈ frozenIds record,
        row.parentNodeId = some parent → row.nodeId ∈ frozenIds record
  | _ => True

def UndisturbedRun (database : CatalogDatabase) : List (CatalogCommand × String) → Prop
  | [] => True
  | command :: rest =>
    Undisturbed database command.1 ∧ UndisturbedRun (database.step command) rest

def SafeRun (database : CatalogDatabase) : List (CatalogCommand × String) → Prop
  | [] => CatalogSafe database
  | command :: rest =>
    CatalogSafe database ∧ DeletesExactly database (database.step command) ∧
      SafeRun (database.step command) rest

structure CatalogInvariant (database : CatalogDatabase) : Prop where
  forest : database.nodes.Forest
  journal : (database.deletes.map (·.idempotencyKey)).Nodup
  prepared : ∀ record ∈ database.deletes, record.state = .preparing →
    Prepared database.nodes record
  marked : ∀ record ∈ database.deletes, record.state.isMarked = true →
    Marked database.nodes record
  apart : ∀ left ∈ database.deletes, ∀ right ∈ database.deletes,
    left.state.isMarked = true → right.state.isMarked = true →
      left.idempotencyKey ≠ right.idempotencyKey →
        ∀ nodeId ∈ frozenIds left, nodeId ∉ frozenIds right

structure SameDelete (record later : SubtreeDeleteRecord) : Prop where
  idempotencyKey : later.idempotencyKey = record.idempotencyKey
  rootNodeId : later.rootNodeId = record.rootNodeId
  frozenNodeIds : later.frozenNodeIds = record.frozenNodeIds
  frozenSessionLocators : later.frozenSessionLocators = record.frozenSessionLocators

theorem SameDelete.frozenIds {record later : SubtreeDeleteRecord}
    (same : SameDelete record later) : frozenIds later = frozenIds record := by
  simp [Catalog.frozenIds, same.frozenNodeIds]

theorem SameDelete.frozenSessions {record later : SubtreeDeleteRecord}
    (same : SameDelete record later) : frozenSessions later = frozenSessions record := by
  simp [Catalog.frozenSessions, same.frozenSessionLocators]

theorem Prepared.same {nodes : Nodes} {record later : SubtreeDeleteRecord}
    (prepared : Prepared nodes record) (same : SameDelete record later) :
    Prepared nodes later := by
  constructor
  · rw [same.frozenIds]
    exact prepared.distinct
  · rw [same.frozenIds, same.rootNodeId]
    exact prepared.root
  · unfold SessionsFrozen
    rw [same.frozenIds, same.frozenSessions]
    exact prepared.sessions
  · rw [same.frozenNodeIds]
    exact prepared.revisions
  · rw [same.frozenNodeIds, same.frozenIds, same.rootNodeId]
    exact prepared.hung

theorem Marked.same {nodes : Nodes} {record later : SubtreeDeleteRecord}
    (marked : Marked nodes record) (same : SameDelete record later) : Marked nodes later := by
  constructor
  · rw [same.frozenIds]
    exact marked.distinct
  · unfold SessionsFrozen
    rw [same.frozenIds, same.frozenSessions]
    exact marked.sessions
  · rw [same.frozenIds, same.rootNodeId]
    exact marked.subtree
  · rw [same.frozenIds]
    exact marked.deleting

namespace CatalogInvariant

variable {database : CatalogDatabase}

theorem opened : CatalogInvariant .opened where
  forest := ⟨by simp [CatalogDatabase.opened],
    ⟨fun _ => 0, by simp [CatalogDatabase.opened]⟩, by simp [CatalogDatabase.opened]⟩
  journal := by simp [CatalogDatabase.opened]
  prepared := by simp [CatalogDatabase.opened]
  marked := by simp [CatalogDatabase.opened]
  apart := by simp [CatalogDatabase.opened]

theorem eq_of_key (invariant : CatalogInvariant database) {left right : SubtreeDeleteRecord}
    (leftStored : left ∈ database.deletes) (rightStored : right ∈ database.deletes)
    (same : left.idempotencyKey = right.idempotencyKey) : left = right :=
  KeyedRows.eq_of_key_eq invariant.journal leftStored rightStored same

theorem requireSubtreeDelete_ok {idempotencyKey : String} {record : SubtreeDeleteRecord}
    (required : database.requireSubtreeDelete idempotencyKey = .ok record) :
    record ∈ database.deletes ∧ record.idempotencyKey = idempotencyKey := by
  unfold CatalogDatabase.requireSubtreeDelete at required
  split at required
  · next fetched =>
      cases required
      exact ⟨fetch_mem fetched, fetch_key fetched⟩
  · cases required

theorem requireSubtreeDelete_of_mem (invariant : CatalogInvariant database)
    {record : SubtreeDeleteRecord} (stored : record ∈ database.deletes) :
    database.requireSubtreeDelete record.idempotencyKey = .ok record := by
  unfold CatalogDatabase.requireSubtreeDelete CatalogDatabase.fetchSubtreeDelete
  rw [fetch_of_mem invariant.journal stored]

theorem requireSubtreeDelete_updated (invariant : CatalogInvariant database)
    {record : SubtreeDeleteRecord} (stored : record ∈ database.deletes) (nodes : Nodes)
    {change : SubtreeDeleteRecord → SubtreeDeleteRecord}
    (same : ∀ record, SameDelete record (change record)) :
    ((database.withNodes nodes).updateSubtreeDelete record.idempotencyKey
      change).requireSubtreeDelete record.idempotencyKey = .ok (change record) := by
  have fetched := fetch_of_mem invariant.journal stored
  have updated : fetch (·.idempotencyKey) (updateWhere
      (fun other => decide (other.idempotencyKey = record.idempotencyKey)) change
      database.deletes) record.idempotencyKey = some (change record) :=
    fetch_updateWhere_self (fun other => (same other).idempotencyKey) fetched (by simp)
  have found : ((database.withNodes nodes).updateSubtreeDelete record.idempotencyKey
      change).fetchSubtreeDelete record.idempotencyKey = some (change record) := updated
  rw [CatalogDatabase.requireSubtreeDelete, found]

theorem unblocked (invariant : CatalogInvariant database) {record : SubtreeDeleteRecord}
    (stored : record ∈ database.deletes) (isMarked : record.state.isMarked = true)
    (drained : CatalogDatabase.isDrained record = true) (transactionHook : TransactionHook)
    (now : String) (accepts : ∀ updated, transactionHook updated = .ok ()) :
    ∃ finished,
      database.finishSubtreeDelete record.idempotencyKey transactionHook now = .ok finished := by
  have marked := invariant.marked record stored isMarked
  have removal := marked.subtree.removable invariant.forest marked.distinct
    record.idempotencyKey
  let finished := (database.withNodes (database.nodes.filter fun row =>
      row.nodeId ∉ frozenIds record)).updateSubtreeDelete record.idempotencyKey
    fun record => { record with state := .completed, updatedAt := now }
  have visible : finished.requireSubtreeDelete record.idempotencyKey =
      .ok { record with state := .completed, updatedAt := now } :=
    invariant.requireSubtreeDelete_updated stored _ fun _ => ⟨rfl, rfl, rfl, rfl⟩
  refine ⟨finished, ?_⟩
  have notCompleted : record.state ≠ .completed := by
    intro completed
    rw [completed] at isMarked
    cases isMarked
  unfold CatalogDatabase.finishSubtreeDelete
  rw [invariant.requireSubtreeDelete_of_mem stored]
  change (if record.state = .completed then _ else _) = _
  rw [if_neg notCompleted, isMarked, drained, removal]
  change (finished.requireSubtreeDelete record.idempotencyKey >>= fun updated =>
    transactionHook updated >>= fun _ => pure finished) = _
  rw [visible]
  change (transactionHook _ >>= fun _ => pure finished) = _
  rw [accepts]
  rfl

theorem safe (invariant : CatalogInvariant database) : CatalogSafe database where
  acyclic := invariant.forest.acyclic
  workspaces := by
    intro row stored parent isParent
    obtain ⟨above, aboveStored, sameId, sameWorkspace, _⟩ :=
      invariant.forest.parents row stored parent isParent
    exact ⟨above, aboveStored, sameId, sameWorkspace⟩
  closed := by
    intro row stored deleting lower lowerStored below
    apply invariant.forest.closed below _ lower lowerStored rfl
    intro other otherStored sameId
    rw [invariant.forest.eq_of_nodeId otherStored stored sameId]
    exact deleting
  unblocked := fun _ stored isMarked drained transactionHook now accepts =>
    invariant.unblocked stored isMarked drained transactionHook now accepts

theorem mem_update {idempotencyKey : String}
    {change : SubtreeDeleteRecord → SubtreeDeleteRecord} {later : SubtreeDeleteRecord}
    (member : later ∈ (database.updateSubtreeDelete idempotencyKey change).deletes) :
    (∃ record ∈ database.deletes, record.idempotencyKey = idempotencyKey ∧
      later = change record) ∨
    (later ∈ database.deletes ∧ later.idempotencyKey ≠ idempotencyKey) := by
  obtain ⟨record, stored, rfl⟩ := List.mem_map.mp member
  by_cases same : record.idempotencyKey = idempotencyKey
  · left
    exact ⟨record, stored, same, by simp [same]⟩
  · right
    simp [same, stored]

section Update

variable {record : SubtreeDeleteRecord} {nodes : Nodes}
  {change : SubtreeDeleteRecord → SubtreeDeleteRecord}

theorem update (invariant : CatalogInvariant database) (stored : record ∈ database.deletes)
    (same : ∀ record, SameDelete record (change record)) (forest : nodes.Forest)
    (preparedOthers : ∀ other ∈ database.deletes, other.state = .preparing →
      Prepared nodes other)
    (markedOthers : ∀ other ∈ database.deletes,
      other.idempotencyKey ≠ record.idempotencyKey → other.state.isMarked = true →
        Marked nodes other)
    (preparing : (change record).state = .preparing → record.state = .preparing)
    (marked : (change record).state.isMarked = true → Marked nodes record)
    (apart : (change record).state.isMarked = true → ∀ other ∈ database.deletes,
      other.idempotencyKey ≠ record.idempotencyKey → other.state.isMarked = true →
        ∀ nodeId ∈ frozenIds record, nodeId ∉ frozenIds other) :
    CatalogInvariant ((database.withNodes nodes).updateSubtreeDelete record.idempotencyKey
      change) := by
  have changed : ∀ later ∈ ((database.withNodes nodes).updateSubtreeDelete
      record.idempotencyKey change).deletes, later = change record ∨
        (later ∈ database.deletes ∧ later.idempotencyKey ≠ record.idempotencyKey) := by
    intro later member
    rcases mem_update member with ⟨other, otherStored, otherKey, rfl⟩ | kept
    · left
      rw [invariant.eq_of_key otherStored stored otherKey]
    · exact Or.inr kept
  constructor
  · exact forest
  · change ((updateWhere _ change database.deletes).map (·.idempotencyKey)).Nodup
    unfold updateWhere
    rw [List.map_map]
    have keepsKey : (fun other : SubtreeDeleteRecord => other.idempotencyKey) ∘ (fun other =>
        if decide (other.idempotencyKey = record.idempotencyKey) = true then change other
          else other) = fun other => other.idempotencyKey := by
      funext other
      rw [Function.comp_apply]
      split
      · exact (same other).idempotencyKey
      · rfl
    rw [keepsKey]
    exact invariant.journal
  · intro later member isPreparing
    rcases changed later member with rfl | ⟨kept, other⟩
    · exact (preparedOthers record stored (preparing isPreparing)).same (same record)
    · exact preparedOthers later kept isPreparing
  · intro later member isMarked
    rcases changed later member with rfl | ⟨kept, other⟩
    · exact (marked isMarked).same (same record)
    · exact markedOthers later kept other isMarked
  · intro left leftMember right rightMember leftMarked rightMarked different
    rcases changed left leftMember with rfl | ⟨leftKept, leftOther⟩
    · rcases changed right rightMember with rfl | ⟨rightKept, rightOther⟩
      · exact absurd rfl different
      · rw [(same record).frozenIds]
        exact apart leftMarked right rightKept rightOther rightMarked
    · rcases changed right rightMember with rfl | ⟨rightKept, rightOther⟩
      · rw [(same record).frozenIds]
        intro nodeId leftListed rightListed
        exact apart rightMarked left leftKept leftOther leftMarked nodeId rightListed leftListed
      · exact invariant.apart left leftKept right rightKept leftMarked rightMarked different

theorem deletesExactly_update (invariant : CatalogInvariant database)
    (stored : record ∈ database.deletes) (same : ∀ record, SameDelete record (change record))
    (marks : record.state = .preparing → (change record).state.isMarked = true → ∀ nodeId,
      ((∃ row ∈ database.nodes, row.nodeId = nodeId ∧ row.state = .active) ∧
        ∃ row ∈ nodes, row.nodeId = nodeId ∧ row.state = .deleting) ↔
      database.nodes.InSubtree record.rootNodeId nodeId)
    (finishes : record.state.isMarked = true → (change record).state = .completed →
      (∀ row, row ∈ nodes ↔
        row ∈ database.nodes ∧ ¬ database.nodes.InSubtree record.rootNodeId row.nodeId) ∧
      ∀ row ∈ database.nodes, database.nodes.InSubtree record.rootNodeId row.nodeId →
        row.kind = .session → row.nodeId ∈ record.drainedSessionIds) :
    DeletesExactly database ((database.withNodes nodes).updateSubtreeDelete
      record.idempotencyKey change) := by
  have changed : ∀ earlier ∈ database.deletes, ∀ later ∈ ((database.withNodes
      nodes).updateSubtreeDelete record.idempotencyKey change).deletes,
      later.idempotencyKey = earlier.idempotencyKey →
        (earlier = record ∧ later = change record) ∨ later = earlier := by
    intro earlier earlierStored later member sameKey
    rcases mem_update member with ⟨other, otherStored, otherKey, rfl⟩ | ⟨kept, _⟩
    · have isRecord := invariant.eq_of_key otherStored stored otherKey
      subst isRecord
      rw [(same other).idempotencyKey] at sameKey
      exact Or.inl ⟨invariant.eq_of_key earlierStored otherStored sameKey.symm, rfl⟩
    · exact Or.inr (invariant.eq_of_key kept earlierStored sameKey)
  constructor
  · intro earlier earlierStored preparing later member sameKey isMarked
    rcases changed earlier earlierStored later member sameKey with ⟨rfl, rfl⟩ | rfl
    · exact marks preparing isMarked
    · rw [preparing] at isMarked
      cases isMarked
  · intro earlier earlierStored isMarked later member sameKey completed
    rcases changed earlier earlierStored later member sameKey with ⟨rfl, rfl⟩ | rfl
    · exact finishes isMarked completed
    · rw [completed] at isMarked
      cases isMarked

end Update

theorem deletesExactly_kept (invariant : CatalogInvariant database) {after : CatalogDatabase}
    (kept : ∀ later ∈ after.deletes, later ∈ database.deletes ∨
      ∀ record ∈ database.deletes, later.idempotencyKey ≠ record.idempotencyKey) :
    DeletesExactly database after := by
  constructor
  · intro record stored preparing later member sameKey isMarked
    rcases kept later member with old | new
    · rw [invariant.eq_of_key old stored sameKey, preparing] at isMarked
      cases isMarked
    · exact absurd sameKey (new record stored)
  · intro record stored isMarked later member sameKey completed
    rcases kept later member with old | new
    · rw [← invariant.eq_of_key old stored sameKey, completed] at isMarked
      cases isMarked
    · exact absurd sameKey (new record stored)

/-- What a step establishes. -/
def Keeps (database next : CatalogDatabase) : Prop :=
  CatalogInvariant next ∧ DeletesExactly database next

theorem keeps_self (invariant : CatalogInvariant database) : Keeps database database :=
  ⟨invariant, invariant.deletesExactly_kept fun _ member => Or.inl member⟩

theorem nodeChange (invariant : CatalogInvariant database) {nodes : Nodes}
    (changed : Nodes.NodeChange database.nodes nodes)
    (fresh : ∀ node, nodes = database.nodes ++ [node] → ∀ record ∈ database.deletes,
      record.state = .preparing → node.nodeId ∉ frozenIds record) :
    Keeps database (database.withNodes nodes) := by
  refine ⟨⟨changed.forest invariant.forest, invariant.journal, ?_, ?_, invariant.apart⟩,
    invariant.deletesExactly_kept fun _ member => Or.inl member⟩
  · intro record stored preparing
    apply (invariant.prepared record stored preparing).revised
    exact NodeChange.revised changed fun node added => fresh node added record stored preparing
  · intro record stored isMarked
    exact (invariant.marked record stored isMarked).nodeChange invariant.forest changed

theorem nodeChange_kept (invariant : CatalogInvariant database) {nodes : Nodes}
    (changed : Nodes.NodeChange database.nodes nodes)
    (noLonger : nodes.length ≤ database.nodes.length) :
    Keeps database (database.withNodes nodes) := by
  apply invariant.nodeChange changed
  intro node added
  rw [added, List.length_append, List.length_singleton] at noLonger
  omega

theorem createOrGetSubtreeDelete_keeps (invariant : CatalogInvariant database)
    {idempotencyKey workspaceId rootNodeId now : String} {next : CatalogDatabase}
    (created : database.createOrGetSubtreeDelete idempotencyKey workspaceId rootNodeId now =
      .ok next) :
    Keeps database next := by
  unfold CatalogDatabase.createOrGetSubtreeDelete at created
  split at created
  · split at created
    · cases created
    · cases created
      exact invariant.keeps_self
  · next missing =>
      obtain ⟨⟨frozenNodeIds, locators⟩, frozen, created⟩ := bind_ok created
      cases created
      have fresh : ∀ record ∈ database.deletes, record.idempotencyKey ≠ idempotencyKey :=
        fetch_eq_none.mp missing
      have prepared := @freezeSubtree_prepared _ invariant.forest idempotencyKey workspaceId
        rootNodeId now _ _ frozen
      constructor
      · constructor
        · exact invariant.forest
        · rw [List.map_append, List.nodup_append]
          refine ⟨invariant.journal, by simp, ?_⟩
          intro listed member other otherMember
          obtain ⟨record, stored, rfl⟩ := List.mem_map.mp member
          rw [List.map_singleton, List.mem_singleton] at otherMember
          rw [otherMember]
          exact fresh record stored
        · intro record member preparing
          rcases List.mem_append.mp member with stored | new
          · exact invariant.prepared record stored preparing
          · rw [List.mem_singleton.mp new]
            exact prepared
        · intro record member isMarked
          rcases List.mem_append.mp member with stored | new
          · exact invariant.marked record stored isMarked
          · rw [List.mem_singleton.mp new] at isMarked
            cases isMarked
        · intro left leftMember right rightMember leftMarked rightMarked
          rcases List.mem_append.mp leftMember with leftStored | leftNew
          · rcases List.mem_append.mp rightMember with rightStored | rightNew
            · exact invariant.apart left leftStored right rightStored leftMarked rightMarked
            · rw [List.mem_singleton.mp rightNew] at rightMarked
              cases rightMarked
          · rw [List.mem_singleton.mp leftNew] at leftMarked
            cases leftMarked
      · apply invariant.deletesExactly_kept
        intro later member
        rcases List.mem_append.mp member with stored | new
        · exact Or.inl stored
        · right
          rw [List.mem_singleton.mp new]
          exact fun record stored same => fresh record stored same.symm

theorem markSubtreeDeleting_keeps (invariant : CatalogInvariant database)
    {idempotencyKey now : String} {transactionHook : TransactionHook} {next : CatalogDatabase}
    (undisturbed : Undisturbed database (.markSubtreeDeleting idempotencyKey transactionHook))
    (markedOk : database.markSubtreeDeleting idempotencyKey transactionHook now = .ok next) :
    Keeps database next := by
  unfold CatalogDatabase.markSubtreeDeleting at markedOk
  obtain ⟨record, required, markedOk⟩ := bind_ok markedOk
  obtain ⟨stored, rfl⟩ := requireSubtreeDelete_ok required
  split at markedOk
  · obtain ⟨_, _, markedOk⟩ := bind_ok markedOk
    cases markedOk
    exact invariant.keeps_self
  · split at markedOk
    · cases markedOk
    · next preparing =>
        obtain ⟨_, _, markedOk⟩ := bind_ok markedOk
        obtain ⟨_, checked, markedOk⟩ := bind_ok markedOk
        obtain ⟨_, _, markedOk⟩ := bind_ok markedOk
        obtain ⟨_, _, markedOk⟩ := bind_ok markedOk
        cases markedOk
        rw [not_not] at preparing
        have forest := invariant.forest
        obtain ⟨subtree, active⟩ := (invariant.prepared record stored preparing).isSubtree forest
          (fun item member => requireFrozen_ok (forM_ok checked item member))
          (undisturbed record stored rfl preparing)
        have closedForest : (database.nodes.closeFrozen (frozenIds record)).Forest := by
          apply forest.map
          · intro row
            split
            · rfl
            · rfl
          · intro row
            split
            · rfl
            · rfl
          · intro row
            split
            · rfl
            · rfl
          · intro above _ row rowStored isParent propagates deleting
            by_cases rowFrozen : row.nodeId ∈ frozenIds record
            · simp [rowFrozen, Nodes.closedNode, Nodes.revisedNode]
            · have aboveFresh : above.nodeId ∉ frozenIds record :=
                fun frozen => rowFrozen (subtree.below row rowStored _ frozen isParent)
              rw [if_neg (by simpa using aboveFresh)] at deleting
              rw [if_neg (by simpa using rowFrozen)]
              exact propagates deleting
        have sessions := (invariant.prepared record stored preparing).sessions
        have closedRow : ∀ later ∈ database.nodes.closeFrozen (frozenIds record),
            ∃ row ∈ database.nodes, later.nodeId = row.nodeId ∧ later.kind = row.kind ∧
              later.parentNodeId = row.parentNodeId ∧
              (row.nodeId ∈ frozenIds record → later.state = .deleting) ∧
              (row.nodeId ∉ frozenIds record → later = row) := by
          intro later member
          obtain ⟨row, rowStored, rfl⟩ := List.mem_map.mp member
          refine ⟨row, rowStored, ?_⟩
          by_cases frozen : row.nodeId ∈ frozenIds record
          · simp [frozen, Nodes.closedNode, Nodes.revisedNode]
          · simp [frozen]
        have storedRow : ∀ row ∈ database.nodes, row.nodeId ∈ frozenIds record →
            Nodes.closedNode row ∈ database.nodes.closeFrozen (frozenIds record) := by
          intro row rowStored frozen
          exact List.mem_map.mpr ⟨row, rowStored, by simp [frozen]⟩
        have same : ∀ other : SubtreeDeleteRecord, SameDelete other
            { other with state := .deleting, updatedAt := now } :=
          fun _ => ⟨rfl, rfl, rfl, rfl⟩
        constructor
        · apply invariant.update stored same closedForest
          · intro other otherStored otherPreparing
            exact (invariant.prepared other otherStored otherPreparing).revised
              (closeFrozen_revised _ _)
          · intro other otherStored _ otherMarked
            exact (invariant.marked other otherStored otherMarked).close _
          · intro isPreparing
            cases isPreparing
          · intro _
            refine ⟨(invariant.prepared record stored preparing).distinct, ?_, ?_, ?_⟩
            · exact sessions.revised (closeFrozen_revised _ _)
            · constructor
              · exact subtree.root
              · intro nodeId frozen
                obtain ⟨row, rowStored, rfl⟩ := subtree.rows nodeId frozen
                exact ⟨_, storedRow row rowStored frozen, rfl⟩
              · intro later member parent frozen isParent
                obtain ⟨row, rowStored, sameId, _, sameParent, _⟩ := closedRow later member
                rw [sameId]
                exact subtree.below row rowStored parent frozen (sameParent.symm.trans isParent)
              · intro later member frozen notRoot
                obtain ⟨row, rowStored, sameId, _, sameParent, _⟩ := closedRow later member
                rw [sameId] at frozen notRoot
                rw [sameParent]
                exact subtree.above row rowStored frozen notRoot
            · intro later member frozen
              obtain ⟨row, rowStored, sameId, _, _, closed, _⟩ := closedRow later member
              exact closed (sameId ▸ frozen)
          · intro _ other otherStored _ otherMarked nodeId listed otherListed
            obtain ⟨row, rowStored, rfl⟩ := subtree.rows nodeId listed
            exact (invariant.marked other otherStored otherMarked).active rowStored
              (active row rowStored listed) otherListed
        · apply invariant.deletesExactly_update stored same
          · intro _ _ nodeId
            rw [← subtree.mem_iff forest]
            constructor
            · rintro ⟨⟨row, rowStored, rfl, rowActive⟩, later, laterMember, sameId, deleting⟩
              by_contra fresh
              obtain ⟨earlier, earlierStored, earlierId, _, _, _, kept⟩ :=
                closedRow later laterMember
              have isRow := forest.eq_of_nodeId earlierStored rowStored (earlierId.symm.trans sameId)
              rw [isRow] at kept
              rw [kept fresh, rowActive] at deleting
              cases deleting
            · intro listed
              obtain ⟨row, rowStored, rfl⟩ := subtree.rows nodeId listed
              exact ⟨⟨row, rowStored, rfl, active row rowStored listed⟩,
                _, storedRow row rowStored listed, rfl, rfl⟩
          · intro isMarked
            rw [preparing] at isMarked
            cases isMarked

theorem stateChange (invariant : CatalogInvariant database) {record : SubtreeDeleteRecord}
    (stored : record ∈ database.deletes) {change : SubtreeDeleteRecord → SubtreeDeleteRecord}
    (same : ∀ record, SameDelete record (change record))
    (notPreparing : (change record).state ≠ .preparing)
    (notCompleted : (change record).state ≠ .completed)
    (marked : (change record).state.isMarked = true → record.state.isMarked = true) :
    Keeps database (database.updateSubtreeDelete record.idempotencyKey change) := by
  constructor
  · exact @update database record database.nodes change invariant stored same invariant.forest
      invariant.prepared (fun other otherStored _ => invariant.marked other otherStored)
      (fun preparing => absurd preparing notPreparing)
      (fun isMarked => invariant.marked record stored (marked isMarked))
      (fun isMarked other otherStored different otherMarked =>
        invariant.apart record stored other otherStored (marked isMarked) otherMarked
          different.symm)
  · apply @deletesExactly_update database record database.nodes change invariant stored same
    · intro preparing isMarked
      have wasMarked := marked isMarked
      rw [preparing] at wasMarked
      cases wasMarked
    · exact fun _ completed => absurd completed notCompleted

theorem recordDrainProgress_keeps (invariant : CatalogInvariant database)
    {idempotencyKey sessionId now : String} {next : CatalogDatabase}
    (recorded : database.recordDrainProgress idempotencyKey sessionId now = .ok next) :
    Keeps database next := by
  unfold CatalogDatabase.recordDrainProgress at recorded
  obtain ⟨record, required, recorded⟩ := bind_ok recorded
  obtain ⟨stored, rfl⟩ := requireSubtreeDelete_ok required
  split at recorded
  · cases recorded
  · next isMarked =>
      split at recorded
      · cases recorded
      · split at recorded
        · cases recorded
          exact invariant.keeps_self
        · cases recorded
          have same : ∀ other : SubtreeDeleteRecord, SameDelete other
              { other with
                state := .draining
                drainedSessionIds := other.drainedSessionIds ++ [sessionId]
                updatedAt := now } :=
            fun _ => ⟨rfl, rfl, rfl, rfl⟩
          apply invariant.stateChange stored same
          · simp
          · simp
          · intro _
            simpa using isMarked

theorem finishSubtreeDelete_keeps (invariant : CatalogInvariant database)
    {idempotencyKey now : String} {transactionHook : TransactionHook} {next : CatalogDatabase}
    (finished : database.finishSubtreeDelete idempotencyKey transactionHook now = .ok next) :
    Keeps database next := by
  unfold CatalogDatabase.finishSubtreeDelete at finished
  obtain ⟨record, required, finished⟩ := bind_ok finished
  obtain ⟨stored, rfl⟩ := requireSubtreeDelete_ok required
  split at finished
  · obtain ⟨_, _, finished⟩ := bind_ok finished
    cases finished
    exact invariant.keeps_self
  · split at finished
    · cases finished
    · next isMarked =>
        split at finished
        · cases finished
        · next drained =>
            obtain ⟨nodes, removed, finished⟩ := bind_ok finished
            obtain ⟨_, _, finished⟩ := bind_ok finished
            obtain ⟨_, _, finished⟩ := bind_ok finished
            cases finished
            have isMarked : record.state.isMarked = true := by simpa using isMarked
            have marked := invariant.marked record stored isMarked
            have forest := invariant.forest
            have same : ∀ other : SubtreeDeleteRecord, SameDelete other
                { other with state := .completed, updatedAt := now } :=
              fun _ => ⟨rfl, rfl, rfl, rfl⟩
            rw [Nodes.removeSubtree_ok removed]
            constructor
            · apply invariant.update stored same
              · apply forest.filter
                intro row rowStored kept above _ isParent
                simp only [decide_eq_true_eq] at kept ⊢
                intro frozen
                exact kept (marked.subtree.below row rowStored _ frozen isParent)
              · intro other otherStored preparing
                exact (invariant.prepared other otherStored preparing).revised
                  (filter_revised _ _)
              · intro other otherStored different otherMarked
                apply (invariant.marked other otherStored otherMarked).remove
                exact invariant.apart other otherStored record stored otherMarked isMarked
                  different
              · intro preparing
                cases preparing
              · intro stillMarked
                cases stillMarked
              · intro stillMarked
                cases stillMarked
            · apply invariant.deletesExactly_update stored same
              · intro preparing
                rw [preparing] at isMarked
                cases isMarked
              · intro _ _
                constructor
                · intro row
                  rw [List.mem_filter, ← marked.subtree.mem_iff forest]
                  simp
                · intro row rowStored below isSession
                  rw [← marked.subtree.mem_iff forest] at below
                  have frozen := marked.sessions row rowStored below isSession
                  unfold CatalogDatabase.isDrained at drained
                  simp only [Bool.not_eq_true', Bool.not_eq_false, Bool.and_eq_true,
                    List.all_eq_true, List.contains_iff_mem] at drained
                  exact drained.1 _ frozen

theorem abortSubtreeDelete_keeps (invariant : CatalogInvariant database)
    {idempotencyKey reason now : String} {next : CatalogDatabase}
    (aborted : database.abortSubtreeDelete idempotencyKey reason now = .ok next) :
    Keeps database next := by
  unfold CatalogDatabase.abortSubtreeDelete at aborted
  split at aborted
  · cases aborted
  · obtain ⟨record, required, aborted⟩ := bind_ok aborted
    obtain ⟨stored, rfl⟩ := requireSubtreeDelete_ok required
    split at aborted
    · cases aborted
    · cases aborted
      exact invariant.keeps_self
    · cases aborted
      have same : ∀ other : SubtreeDeleteRecord, SameDelete other
          { other with state := .aborted, abortReason := some reason, updatedAt := now } :=
        fun _ => ⟨rfl, rfl, rfl, rfl⟩
      apply invariant.stateChange stored same
      · simp
      · simp
      · intro isMarked
        cases isMarked

theorem execute_keeps (invariant : CatalogInvariant database) {command : CatalogCommand}
    {now : String} {next : CatalogDatabase} (undisturbed : Undisturbed database command)
    (executed : database.execute now command = .ok next) : Keeps database next := by
  cases command with
  | createFolder nodeId workspaceId parentNodeId displayName =>
    obtain ⟨nodes, created, rfl⟩ := map_ok executed
    obtain ⟨added, changed⟩ := Nodes.createFolder_ok created
    apply invariant.nodeChange changed
    intro node same
    rw [added] at same
    rw [← List.singleton_inj.mp (List.append_cancel_left same)]
    exact undisturbed
  | createSessionNode request =>
    obtain ⟨nodes, created, rfl⟩ := map_ok executed
    obtain ⟨added, changed⟩ := Nodes.createSessionNode_ok created
    apply invariant.nodeChange changed
    intro node same
    rw [added] at same
    rw [← List.singleton_inj.mp (List.append_cancel_left same)]
    exact undisturbed
  | renameNode nodeId displayName =>
    obtain ⟨nodes, renamed, rfl⟩ := map_ok executed
    obtain ⟨changed, kept⟩ := Nodes.renameNode_ok renamed
    exact invariant.nodeChange_kept changed kept
  | moveNode nodeId newParentNodeId =>
    obtain ⟨nodes, moved, rfl⟩ := map_ok executed
    obtain ⟨changed, kept⟩ := Nodes.moveNode_ok moved
    exact invariant.nodeChange_kept changed kept
  | applyNavigationMutation nodeId expectedRevision newParentNodeId newDisplayName =>
    obtain ⟨nodes, applied, rfl⟩ := map_ok executed
    obtain ⟨changed, kept⟩ := Nodes.applyNavigationMutation_ok applied
    exact invariant.nodeChange_kept changed kept
  | deleteEmptyFolder folderId =>
    obtain ⟨nodes, deleted, rfl⟩ := map_ok executed
    obtain ⟨changed, kept⟩ := Nodes.deleteEmptyFolder_ok deleted
    exact invariant.nodeChange_kept changed kept
  | createOrGetSubtreeDelete idempotencyKey workspaceId rootNodeId =>
    exact invariant.createOrGetSubtreeDelete_keeps executed
  | markSubtreeDeleting idempotencyKey transactionHook =>
    exact invariant.markSubtreeDeleting_keeps undisturbed executed
  | recordDrainProgress idempotencyKey sessionId =>
    exact invariant.recordDrainProgress_keeps executed
  | finishSubtreeDelete idempotencyKey transactionHook =>
    exact invariant.finishSubtreeDelete_keeps executed
  | abortSubtreeDelete idempotencyKey reason =>
    exact invariant.abortSubtreeDelete_keeps executed
  | pinSources claims =>
    cases executed
    exact ⟨⟨invariant.forest, invariant.journal, invariant.prepared, invariant.marked,
      invariant.apart⟩, invariant.deletesExactly_kept fun _ member => Or.inl member⟩

theorem step_keeps (invariant : CatalogInvariant database) (command : CatalogCommand × String)
    (undisturbed : Undisturbed database command.1) : Keeps database (database.step command) := by
  unfold CatalogDatabase.step
  split
  · next executed => exact invariant.execute_keeps undisturbed executed
  · exact invariant.keeps_self

theorem run_safe (invariant : CatalogInvariant database)
    (commands : List (CatalogCommand × String))
    (undisturbed : UndisturbedRun database commands) : SafeRun database commands := by
  induction commands generalizing database with
  | nil => exact invariant.safe
  | cons command rest ih =>
    obtain ⟨first, later⟩ := undisturbed
    obtain ⟨kept, exactly⟩ := invariant.step_keeps command first
    exact ⟨invariant.safe, exactly, ih kept later⟩

end CatalogInvariant

/-- In a run that leaves the frozen sets of prepared deletes alone, the nodes stay a
forest, closed below its deleting nodes, and deletes close and remove exactly their
subtrees. -/
theorem subtreeDelete_safe (commands : List (CatalogCommand × String))
    (undisturbed : UndisturbedRun .opened commands) : SafeRun .opened commands :=
  CatalogInvariant.opened.run_safe commands undisturbed

theorem subtreeDelete_safe_folder :
    SafeRun .opened
      [(.createFolder "folder" "workspace" none "name", "now"),
        (.createOrGetSubtreeDelete "delete" "workspace" "folder", "now"),
        (.markSubtreeDeleting "delete" fun _ => .ok (), "now"),
        (.finishSubtreeDelete "delete" fun _ => .ok (), "now")] := by
  apply subtreeDelete_safe
  refine ⟨?_, trivial, ?_, trivial, trivial⟩
  · intro record stored
    cases stored
  · intro record stored _ _ row rowStored parent _ isParent
    have parentless : ∀ row ∈ (CatalogDatabase.run .opened
        [(.createFolder "folder" "workspace" none "name", "now"),
          (.createOrGetSubtreeDelete "delete" "workspace" "folder", "now")]).nodes,
        row.parentNodeId = none := by
      decide
    rw [parentless row rowStored] at isParent
    cases isParent

theorem SafeRun.final {database : CatalogDatabase} {commands : List (CatalogCommand × String)}
    (safe : SafeRun database commands) : CatalogSafe (database.run commands) := by
  induction commands generalizing database with
  | nil => exact safe
  | cons command rest ih => exact ih safe.2.2

/-- A folder mounted on the frozen root between the record and its mark is alive below
a deleting node. -/
theorem subtreeDelete_safe_mounted :
    ¬ ∀ commands : List (CatalogCommand × String), SafeRun .opened commands := by
  intro claimed
  have closed := (claimed
    [(.createFolder "folder" "workspace" none "name", "now"),
      (.createOrGetSubtreeDelete "delete" "workspace" "folder", "now"),
      (.createFolder "child" "workspace" (some "folder") "name", "now"),
      (.markSubtreeDeleting "delete" fun _ => .ok (), "now")]).final.closed
  let upper : SessionCatalogNode :=
    Nodes.closedNode (Nodes.folderNode "folder" "workspace" none "name")
  let lower : SessionCatalogNode :=
    Nodes.folderNode "child" "workspace" (some "folder") "name"
  have nodes : (CatalogDatabase.run .opened
      [(.createFolder "folder" "workspace" none "name", "now"),
        (.createOrGetSubtreeDelete "delete" "workspace" "folder", "now"),
        (.createFolder "child" "workspace" (some "folder") "name", "now"),
        (.markSubtreeDeleting "delete" fun _ => .ok (), "now")]).nodes = [upper, lower] := by
    decide
  rw [nodes] at closed
  have below : Nodes.InSubtree [upper, lower] "folder" "child" :=
    .single (Nodes.mem_links.mpr ⟨lower, by simp, rfl, rfl⟩)
  have deleting := closed upper (by simp) rfl lower (by simp) below
  cases deleting

end GraphAgent.Catalog
