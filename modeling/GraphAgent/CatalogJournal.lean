import GraphAgent.CatalogRemoval

/-!
# The journal over the changes of the tree

A prepared record holds the subtree it froze only through revisions: a frozen
row whose revision has not moved hangs where it hung.  A marked record holds its
subtree itself, because nothing moves or mounts on a deleting node.
-/

namespace GraphAgent.Catalog

open Navigation Transaction

variable {nodes next : Nodes} {record : SubtreeDeleteRecord}

def SessionsFrozen (nodes : Nodes) (record : SubtreeDeleteRecord) : Prop :=
  ∀ row ∈ nodes, row.nodeId ∈ frozenIds record → row.kind = .session →
    row.nodeId ∈ frozenSessions record

structure Prepared (nodes : Nodes) (record : SubtreeDeleteRecord) : Prop where
  distinct : (frozenIds record).Nodup
  root : record.rootNodeId ∈ frozenIds record
  sessions : SessionsFrozen nodes record
  revisions : ∀ item ∈ record.frozenNodeIds, ∀ row ∈ nodes, row.nodeId = item.nodeId →
    item.revision ≤ row.revision
  hung : ∀ item ∈ record.frozenNodeIds, ∀ row ∈ nodes, row.nodeId = item.nodeId →
    row.revision = item.revision → row.nodeId ≠ record.rootNodeId →
      ∃ parent ∈ frozenIds record, row.parentNodeId = some parent

structure Marked (nodes : Nodes) (record : SubtreeDeleteRecord) : Prop where
  distinct : (frozenIds record).Nodup
  sessions : SessionsFrozen nodes record
  subtree : nodes.IsSubtree record.rootNodeId (frozenIds record)
  deleting : ∀ row ∈ nodes, row.nodeId ∈ frozenIds record → row.state = .deleting

def RowsRevised (nodes next : Nodes) (ids : List String) : Prop :=
  ∀ row ∈ next, row.nodeId ∈ ids → ∃ earlier ∈ nodes, earlier.nodeId = row.nodeId ∧
    earlier.kind = row.kind ∧ (row = earlier ∨ earlier.revision < row.revision)

theorem SessionsFrozen.revised (sessions : SessionsFrozen nodes record)
    (revised : RowsRevised nodes next (frozenIds record)) : SessionsFrozen next record := by
  intro row stored frozen isSession
  obtain ⟨earlier, earlierStored, sameId, sameKind, _⟩ := revised row stored frozen
  rw [← sameId] at frozen ⊢
  exact sessions earlier earlierStored frozen (sameKind.trans isSession)

theorem Prepared.revised (prepared : Prepared nodes record)
    (revised : RowsRevised nodes next (frozenIds record)) : Prepared next record := by
  have listed : ∀ item ∈ record.frozenNodeIds, item.nodeId ∈ frozenIds record :=
    fun item member => List.mem_map_of_mem member
  constructor
  · exact prepared.distinct
  · exact prepared.root
  · exact prepared.sessions.revised revised
  · intro item member row stored sameId
    obtain ⟨earlier, earlierStored, earlierId, _, moved⟩ :=
      revised row stored (sameId ▸ listed item member)
    have before := prepared.revisions item member earlier earlierStored (earlierId.trans sameId)
    rcases moved with rfl | later
    · exact before
    · omega
  · intro item member row stored sameId unchanged notRoot
    obtain ⟨earlier, earlierStored, earlierId, _, moved⟩ :=
      revised row stored (sameId ▸ listed item member)
    have before := prepared.revisions item member earlier earlierStored (earlierId.trans sameId)
    rcases moved with rfl | later
    · exact prepared.hung item member row earlierStored sameId unchanged notRoot
    · omega

theorem updateNode_revised {nodeId : String}
    {change : SessionCatalogNode → SessionCatalogNode} (revises : Nodes.Revises change)
    (ids : List String) : RowsRevised nodes (nodes.updateNode nodeId change) ids := by
  intro row member _
  obtain ⟨earlier, stored, rfl⟩ := List.mem_map.mp member
  refine ⟨earlier, stored, ?_⟩
  split
  · refine ⟨(revises.nodeId earlier).symm, (revises.kind earlier).symm, Or.inr ?_⟩
    rw [revises.revision]
    omega
  · exact ⟨rfl, rfl, Or.inl rfl⟩

theorem filter_revised (keep : SessionCatalogNode → Bool) (ids : List String) :
    RowsRevised nodes (nodes.filter keep) ids :=
  fun row member _ => ⟨row, List.mem_of_mem_filter member, rfl, rfl, Or.inl rfl⟩

theorem NodeChange.revised (changed : Nodes.NodeChange nodes next) {ids : List String}
    (fresh : ∀ node, next = nodes ++ [node] → node.nodeId ∉ ids) :
    RowsRevised nodes next ids := by
  cases changed with
  | added node _ _ _ =>
    intro row member listed
    rcases List.mem_append.mp member with stored | new
    · exact ⟨row, stored, rfl, rfl, Or.inl rfl⟩
    · rw [List.mem_singleton.mp new] at listed
      exact absurd listed (fresh node rfl)
  | revised nodeId change revises _ => exact updateNode_revised revises ids
  | moved node _ _ _ change revises _ _ _ => exact updateNode_revised revises ids
  | removed node _ _ _ => exact filter_revised _ ids

theorem closeFrozen_revised (frozen ids : List String) :
    RowsRevised nodes (nodes.closeFrozen frozen) ids := by
  intro row member _
  obtain ⟨earlier, stored, rfl⟩ := List.mem_map.mp member
  refine ⟨earlier, stored, ?_⟩
  split
  · exact ⟨rfl, rfl, Or.inr (Nat.lt_succ_self _)⟩
  · exact ⟨rfl, rfl, Or.inl rfl⟩

theorem Marked.of_rows (marked : Marked nodes record)
    (kept : ∀ row ∈ nodes, row.nodeId ∈ frozenIds record →
      ∃ later ∈ next, later.nodeId = row.nodeId)
    (same : ∀ later ∈ next, (∃ row ∈ nodes, row.nodeId = later.nodeId ∧ row.kind = later.kind ∧
        row.parentNodeId = later.parentNodeId ∧
          (row.state = .deleting → later.state = .deleting)) ∨
      (later.nodeId ∉ frozenIds record ∧
        ∀ parent ∈ frozenIds record, later.parentNodeId ≠ some parent)) :
    Marked next record := by
  constructor
  · exact marked.distinct
  · intro later stored frozen isSession
    rcases same later stored with ⟨row, rowStored, sameId, sameKind, _⟩ | ⟨foreign, _⟩
    · rw [← sameId] at frozen ⊢
      exact marked.sessions row rowStored frozen (sameKind.trans isSession)
    · exact absurd frozen foreign
  · constructor
    · exact marked.subtree.root
    · intro nodeId frozen
      obtain ⟨row, stored, rfl⟩ := marked.subtree.rows nodeId frozen
      exact kept row stored frozen
    · intro later stored parent frozen isParent
      rcases same later stored with ⟨row, rowStored, sameId, _, sameParent, _⟩ | ⟨_, foreign⟩
      · rw [← sameId]
        exact marked.subtree.below row rowStored parent frozen (sameParent.trans isParent)
      · exact absurd isParent (foreign parent frozen)
    · intro later stored frozen notRoot
      rcases same later stored with ⟨row, rowStored, sameId, _, sameParent, _⟩ | ⟨foreign, _⟩
      · rw [← sameId] at frozen notRoot
        rw [← sameParent]
        exact marked.subtree.above row rowStored frozen notRoot
      · exact absurd frozen foreign
  · intro later stored frozen
    rcases same later stored with ⟨row, rowStored, sameId, _, _, state⟩ | ⟨foreign, _⟩
    · rw [← sameId] at frozen
      exact state (marked.deleting row rowStored frozen)
    · exact absurd frozen foreign

theorem Marked.active (marked : Marked nodes record) {row : SessionCatalogNode}
    (stored : row ∈ nodes) (active : row.state = .active) : row.nodeId ∉ frozenIds record := by
  intro frozen
  rw [marked.deleting row stored frozen] at active
  cases active

theorem Marked.mountable (marked : Marked nodes record) {parentNodeId : Option String}
    {workspaceId : String} (mountable : nodes.Mountable parentNodeId workspaceId) :
    ∀ parent ∈ frozenIds record, parentNodeId ≠ some parent := by
  intro parent frozen isParent
  obtain ⟨above, stored, rfl, active, _⟩ := mountable parent isParent
  exact marked.active stored active frozen

theorem Marked.nodeChange (marked : Marked nodes record) (forest : nodes.Forest)
    (changed : Nodes.NodeChange nodes next) : Marked next record := by
  cases changed with
  | added node fresh active mountable =>
    apply marked.of_rows
    · exact fun row stored _ => ⟨row, List.mem_append_left _ stored, rfl⟩
    · intro later member
      rcases List.mem_append.mp member with stored | new
      · exact Or.inl ⟨later, stored, rfl, rfl, rfl, id⟩
      · rw [List.mem_singleton.mp new]
        refine Or.inr ⟨?_, marked.mountable mountable⟩
        intro frozen
        obtain ⟨row, stored, same⟩ := marked.subtree.rows _ frozen
        exact fresh row stored same
  | revised nodeId change revises keepsParent =>
    apply marked.of_rows
    · intro row stored _
      refine ⟨_, List.mem_map_of_mem stored, ?_⟩
      split
      · exact revises.nodeId row
      · rfl
    · intro later member
      obtain ⟨row, stored, rfl⟩ := List.mem_map.mp member
      refine Or.inl ⟨row, stored, ?_⟩
      split
      · refine ⟨(revises.nodeId row).symm, (revises.kind row).symm, (keepsParent row).symm, ?_⟩
        rw [revises.state]
        exact id
      · exact ⟨rfl, rfl, rfl, id⟩
  | moved node stored active newParentNodeId change revises moves mountable notBelow =>
    apply marked.of_rows
    · intro row rowStored _
      refine ⟨_, List.mem_map_of_mem rowStored, ?_⟩
      split
      · exact revises.nodeId row
      · rfl
    · intro later member
      obtain ⟨row, rowStored, rfl⟩ := List.mem_map.mp member
      by_cases same : row.nodeId = node.nodeId
      · right
        rw [forest.eq_of_nodeId rowStored stored same, if_pos (by simp), revises.nodeId, moves]
        exact ⟨marked.active stored active, marked.mountable mountable⟩
      · left
        rw [if_neg (by simpa using same)]
        exact ⟨row, rowStored, rfl, rfl, rfl, id⟩
  | removed node stored active childless =>
    apply marked.of_rows
    · intro row rowStored frozen
      refine ⟨row, List.mem_filter.mpr ⟨rowStored, ?_⟩, rfl⟩
      simp only [ne_eq, decide_not, Bool.not_eq_true', decide_eq_false_iff_not]
      intro same
      rw [same] at frozen
      exact marked.active stored active frozen
    · intro later member
      exact Or.inl ⟨later, List.mem_of_mem_filter member, rfl, rfl, rfl, id⟩

theorem Marked.close (marked : Marked nodes record) (frozen : List String) :
    Marked (nodes.closeFrozen frozen) record := by
  apply marked.of_rows
  · intro row stored _
    refine ⟨_, List.mem_map_of_mem stored, ?_⟩
    split
    · rfl
    · rfl
  · intro later member
    obtain ⟨row, stored, rfl⟩ := List.mem_map.mp member
    refine Or.inl ⟨row, stored, ?_⟩
    split
    · exact ⟨rfl, rfl, rfl, fun _ => rfl⟩
    · exact ⟨rfl, rfl, rfl, id⟩

theorem Marked.remove (marked : Marked nodes record) {removed : List String}
    (apart : ∀ nodeId ∈ frozenIds record, nodeId ∉ removed) :
    Marked (nodes.filter fun row => row.nodeId ∉ removed) record := by
  apply marked.of_rows
  · intro row stored frozen
    exact ⟨row, List.mem_filter.mpr ⟨stored, by simpa using apart _ frozen⟩, rfl⟩
  · intro later member
    exact Or.inl ⟨later, List.mem_of_mem_filter member, rfl, rfl, rfl, id⟩

theorem freezeRow_ok {workspaceId : String} {row : SessionCatalogNode}
    {locators : List (String × String)}
    (frozen : Nodes.freezeRow workspaceId row = .ok locators) :
    row.state = .active ∧ (row.kind = .session → row.nodeId ∈ locators.map (·.1)) := by
  unfold Nodes.freezeRow at frozen
  split at frozen
  · cases frozen
  · split at frozen
    · cases frozen
    · next active =>
        refine ⟨by simpa using active, ?_⟩
        intro isSession
        rw [if_pos isSession] at frozen
        split at frozen
        · cases frozen
        · cases frozen
          simp

theorem freezeSubtree_ok {workspaceId rootNodeId : String}
    {frozenNodeIds : List SubtreeFrozenNode} {locators : List (String × String)}
    (frozen : nodes.freezeSubtree workspaceId rootNodeId = .ok (frozenNodeIds, locators)) :
    (∃ root ∈ nodes, root.nodeId = rootNodeId) ∧
      frozenNodeIds = (nodes.subtreeRows rootNodeId).map (fun row => ⟨row.nodeId, row.revision⟩) ∧
        ∀ row ∈ nodes.subtreeRows rootNodeId, row.kind = .session →
          row.nodeId ∈ locators.map (·.1) := by
  unfold Nodes.freezeSubtree at frozen
  obtain ⟨root, required, frozen⟩ := bind_ok frozen
  obtain ⟨stored, sameId⟩ := Nodes.requireNode_ok required
  split at frozen
  · cases frozen
  · split at frozen
    · cases frozen
    · obtain ⟨listed, traversed, frozen⟩ := bind_ok frozen
      cases frozen
      refine ⟨⟨root, stored, sameId⟩, rfl, ?_⟩
      intro row member isSession
      obtain ⟨rowLocators, rowListed, rowFrozen⟩ := mapM_mem traversed row member
      have located := (freezeRow_ok rowFrozen).2 isSession
      obtain ⟨locator, locatorMember, same⟩ := List.mem_map.mp located
      rw [← same]
      apply List.mem_map_of_mem
      exact List.mem_flatten.mpr ⟨_, rowListed, locatorMember⟩

theorem freezeSubtree_prepared (forest : nodes.Forest) {idempotencyKey workspaceId rootNodeId now
      : String} {frozenNodeIds : List SubtreeFrozenNode} {locators : List (String × String)}
    (frozen : nodes.freezeSubtree workspaceId rootNodeId = .ok (frozenNodeIds, locators)) :
    Prepared nodes (CatalogDatabase.preparingRecord idempotencyKey workspaceId rootNodeId now
      frozenNodeIds locators) := by
  obtain ⟨⟨root, rootStored, rootId⟩, rfl, sessions⟩ := freezeSubtree_ok frozen
  have ids : frozenIds (CatalogDatabase.preparingRecord idempotencyKey workspaceId rootNodeId now
      ((nodes.subtreeRows rootNodeId).map fun row => ⟨row.nodeId, row.revision⟩) locators) =
      (nodes.subtreeRows rootNodeId).map (·.nodeId) := by
    simp [frozenIds, CatalogDatabase.preparingRecord]
  have mem_ids : ∀ row ∈ nodes, row.nodeId ∈ (nodes.subtreeRows rootNodeId).map (·.nodeId) ↔
      nodes.InSubtree rootNodeId row.nodeId := by
    intro row stored
    constructor
    · intro listed
      obtain ⟨other, member, same⟩ := List.mem_map.mp listed
      rw [← same]
      exact (Nodes.mem_subtreeRows.mp member).2
    · exact fun below => List.mem_map_of_mem (Nodes.mem_subtreeRows.mpr ⟨stored, below⟩)
  have same_row : ∀ item ∈ (nodes.subtreeRows rootNodeId).map
      (fun row => (⟨row.nodeId, row.revision⟩ : SubtreeFrozenNode)),
      ∀ row ∈ nodes, row.nodeId = item.nodeId →
        row ∈ nodes.subtreeRows rootNodeId ∧ item.revision = row.revision := by
    intro item member row stored sameId
    obtain ⟨other, otherMember, rfl⟩ := List.mem_map.mp member
    have otherStored := (Nodes.mem_subtreeRows.mp otherMember).1
    rw [forest.eq_of_nodeId stored otherStored sameId]
    exact ⟨otherMember, rfl⟩
  constructor
  · rw [ids]
    apply (List.Perm.map _ (List.perm_insertionSort _ _)).nodup_iff.mpr
    exact forest.distinct.sublist (List.filter_sublist.map _)
  · rw [ids]
    have rootListed := (mem_ids root rootStored).mpr (by rw [rootId]; exact .refl)
    rw [rootId] at rootListed
    exact rootListed
  · intro row stored listed isSession
    rw [ids, mem_ids row stored] at listed
    exact sessions row (Nodes.mem_subtreeRows.mpr ⟨stored, listed⟩) isSession
  · intro item member row stored sameId
    exact (same_row item member row stored sameId).2.le
  · intro item member row stored sameId _ notRoot
    rw [ids]
    have below := (Nodes.mem_subtreeRows.mp (same_row item member row stored sameId).1).2
    rcases Relation.ReflTransGen.cases_tail below with same | ⟨parent, parentBelow, linked⟩
    · exact absurd same notRoot
    · obtain ⟨linkedRow, linkedStored, isParent, linkedId⟩ := Nodes.mem_links.mp linked
      rw [forest.eq_of_nodeId linkedStored stored linkedId] at isParent
      obtain ⟨above, aboveStored, rfl, _⟩ := forest.parents row stored parent isParent
      exact ⟨above.nodeId, (mem_ids above aboveStored).mpr parentBelow, isParent⟩

theorem requireFrozen_ok {idempotencyKey : String} {item : SubtreeFrozenNode} {done : Unit}
    (checked : nodes.requireFrozen idempotencyKey item = .ok done) :
    ∃ row ∈ nodes, row.nodeId = item.nodeId ∧ row.state = .active ∧
      row.revision = item.revision := by
  unfold Nodes.requireFrozen at checked
  split at checked
  · cases checked
  · next row fetched =>
      obtain ⟨stored, sameId⟩ := Nodes.fetchNode_mem fetched
      split at checked
      · cases checked
      · next active =>
          split at checked
          · cases checked
          · next unchanged =>
              exact ⟨row, stored, sameId, by simpa using active, by simpa using unchanged⟩

theorem Prepared.isSubtree (prepared : Prepared nodes record) (forest : nodes.Forest)
    (checked : ∀ item ∈ record.frozenNodeIds, ∃ row ∈ nodes, row.nodeId = item.nodeId ∧
      row.state = .active ∧ row.revision = item.revision)
    (undisturbed : ∀ row ∈ nodes, ∀ parent ∈ frozenIds record, row.parentNodeId = some parent →
      row.nodeId ∈ frozenIds record) :
    nodes.IsSubtree record.rootNodeId (frozenIds record) ∧
      ∀ row ∈ nodes, row.nodeId ∈ frozenIds record → row.state = .active := by
  have found : ∀ row ∈ nodes, row.nodeId ∈ frozenIds record → ∃ item ∈ record.frozenNodeIds,
      row.nodeId = item.nodeId ∧ row.state = .active ∧ row.revision = item.revision := by
    intro row stored frozen
    obtain ⟨item, member, sameId⟩ := List.mem_map.mp frozen
    obtain ⟨other, otherStored, otherId, active, unchanged⟩ := checked item member
    rw [forest.eq_of_nodeId stored otherStored (sameId.symm.trans otherId.symm)]
    exact ⟨item, member, otherId, active, unchanged⟩
  refine ⟨⟨prepared.root, ?_, undisturbed, ?_⟩, ?_⟩
  · intro nodeId frozen
    obtain ⟨item, member, rfl⟩ := List.mem_map.mp frozen
    obtain ⟨row, stored, sameId, _⟩ := checked item member
    exact ⟨row, stored, sameId⟩
  · intro row stored frozen notRoot
    obtain ⟨item, member, sameId, _, unchanged⟩ := found row stored frozen
    exact prepared.hung item member row stored sameId unchanged notRoot
  · intro row stored frozen
    obtain ⟨_, _, _, active, _⟩ := found row stored frozen
    exact active

end GraphAgent.Catalog
