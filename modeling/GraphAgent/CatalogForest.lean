import GraphAgent.CatalogSubtreeDelete
import GraphAgent.Transactions

/-!
# The forest of catalog nodes

What each method does to the node table, and the shape every change keeps: the
parent links are a forest inside a workspace, and what lies below a deleting
node is deleting.
-/

namespace GraphAgent.Catalog

open KeyedRows Transaction

namespace Nodes

variable {nodes : Nodes}

theorem fetchNode_mem {nodeId : String} {node : SessionCatalogNode}
    (fetched : nodes.fetchNode nodeId = some node) : node ∈ nodes ∧ node.nodeId = nodeId :=
  ⟨fetch_mem fetched, fetch_key fetched⟩

theorem requireNode_ok {nodeId : String} {node : SessionCatalogNode}
    (required : nodes.requireNode nodeId = .ok node) : node ∈ nodes ∧ node.nodeId = nodeId := by
  unfold requireNode at required
  split at required
  · next fetched =>
      cases required
      exact fetchNode_mem fetched
  · cases required

theorem requireNodeIdAvailable_ok {nodeId : String} {done : Unit}
    (available : nodes.requireNodeIdAvailable nodeId = .ok done) :
    ∀ row ∈ nodes, row.nodeId ≠ nodeId := by
  unfold requireNodeIdAvailable at available
  split at available
  · cases available
  · next missing => exact fetch_eq_none.mp missing

@[simp]
theorem mem_links {parent child : String} :
    (parent, child) ∈ nodes.links ↔
      ∃ row ∈ nodes, row.parentNodeId = some parent ∧ row.nodeId = child := by
  simp only [links, List.mem_filterMap, Option.map_eq_some_iff, Prod.mk.injEq]
  constructor
  · rintro ⟨row, member, _, linked, rfl, rfl⟩
    exact ⟨row, member, linked, rfl⟩
  · rintro ⟨row, member, linked, rfl⟩
    exact ⟨row, member, parent, linked, rfl, rfl⟩

/-- A node is in the subtree of another: itself, or below it. -/
def InSubtree (nodes : Nodes) : String → String → Prop :=
  FiniteClosure.Reaches nodes.links

theorem mem_descendantNodeIds {nodeId other : String} :
    other ∈ nodes.descendantNodeIds nodeId ↔
      ∃ child, (nodeId, child) ∈ nodes.links ∧ nodes.InSubtree child other := by
  unfold descendantNodeIds
  rw [FiniteClosure.mem_closure]
  constructor
  · rintro ⟨child, member, path⟩
    obtain ⟨row, rowMember, rfl⟩ := List.mem_map.mp member
    obtain ⟨stored, linked⟩ := List.mem_filter.mp rowMember
    exact ⟨row.nodeId, mem_links.mpr ⟨row, stored, by simpa using linked, rfl⟩, path⟩
  · rintro ⟨child, linked, path⟩
    obtain ⟨row, stored, parent, rfl⟩ := mem_links.mp linked
    exact ⟨row.nodeId, List.mem_map_of_mem (List.mem_filter.mpr ⟨stored, by simpa using parent⟩),
      path⟩

theorem mem_subtreeRows {rootNodeId : String} {row : SessionCatalogNode} :
    row ∈ nodes.subtreeRows rootNodeId ↔
      row ∈ nodes ∧ nodes.InSubtree rootNodeId row.nodeId := by
  simp [subtreeRows, List.mem_insertionSort, FiniteClosure.mem_closure, InSubtree]

/-- A row may be put below this parent. -/
def Mountable (nodes : Nodes) (parentNodeId : Option String) (workspaceId : String) : Prop :=
  ∀ parent, parentNodeId = some parent → ∃ above ∈ nodes, above.nodeId = parent ∧
    above.state = .active ∧ above.workspaceId = workspaceId

structure Revises (change : SessionCatalogNode → SessionCatalogNode) : Prop where
  nodeId : ∀ row, (change row).nodeId = row.nodeId
  kind : ∀ row, (change row).kind = row.kind
  state : ∀ row, (change row).state = row.state
  revision : ∀ row, (change row).revision = row.revision + 1
  workspaceId : ∀ row, (change row).workspaceId = row.workspaceId

/-- The changes of the node table by the methods of `nodes.py` and
`delete_empty_folder`. -/
inductive NodeChange (nodes : Nodes) : Nodes → Prop
  | added (node : SessionCatalogNode) (fresh : ∀ row ∈ nodes, row.nodeId ≠ node.nodeId)
      (active : node.state = .active)
      (mountable : nodes.Mountable node.parentNodeId node.workspaceId) :
      NodeChange nodes (nodes ++ [node])
  | revised (nodeId : String) (change : SessionCatalogNode → SessionCatalogNode)
      (revises : Revises change)
      (keepsParent : ∀ row, (change row).parentNodeId = row.parentNodeId) :
      NodeChange nodes (nodes.updateNode nodeId change)
  | moved (node : SessionCatalogNode) (stored : node ∈ nodes) (active : node.state = .active)
      (newParentNodeId : Option String) (change : SessionCatalogNode → SessionCatalogNode)
      (revises : Revises change) (moves : ∀ row, (change row).parentNodeId = newParentNodeId)
      (mountable : nodes.Mountable newParentNodeId node.workspaceId)
      (notBelow : ∀ parent, newParentNodeId = some parent →
        ¬ nodes.InSubtree node.nodeId parent) :
      NodeChange nodes (nodes.updateNode node.nodeId change)
  | removed (node : SessionCatalogNode) (stored : node ∈ nodes) (active : node.state = .active)
      (childless : ∀ row ∈ nodes, row.parentNodeId ≠ some node.nodeId) :
      NodeChange nodes (nodes.filter fun row => row.nodeId ≠ node.nodeId)

theorem NodeState.active_of_ne {state : NodeState} (alive : state ≠ .deleting) :
    state = .active := by
  cases state with
  | active => rfl
  | deleting => exact absurd rfl alive

theorem requireMutableParent_ok {parentNodeId : Option String} {workspaceId : String}
    {done : Unit} (mutable : nodes.requireMutableParent parentNodeId workspaceId = .ok done) :
    nodes.Mountable parentNodeId workspaceId := by
  rintro parent rfl
  simp only [requireMutableParent] at mutable
  obtain ⟨above, required, mutable⟩ := bind_ok mutable
  obtain ⟨stored, sameId⟩ := requireNode_ok required
  split at mutable
  · cases mutable
  · next alive =>
      split at mutable
      · cases mutable
      · next sameWorkspace =>
          exact ⟨above, stored, sameId, NodeState.active_of_ne alive, by simpa using sameWorkspace⟩

theorem createFolder_ok {nodeId workspaceId displayName : String}
    {parentNodeId : Option String} {next : Nodes}
    (created : nodes.createFolder nodeId workspaceId parentNodeId displayName = .ok next) :
    next = nodes ++ [folderNode nodeId workspaceId parentNodeId displayName] ∧
      NodeChange nodes next := by
  unfold createFolder at created
  obtain ⟨_, _, created⟩ := bind_ok created
  obtain ⟨_, available, created⟩ := bind_ok created
  obtain ⟨_, mutable, created⟩ := bind_ok created
  cases created
  exact ⟨rfl, .added _ (requireNodeIdAvailable_ok available) rfl
    (requireMutableParent_ok mutable)⟩

theorem createSessionNode_ok {request : SessionNodeRequest} {next : Nodes}
    (created : nodes.createSessionNode request = .ok next) :
    next = nodes ++ [sessionNode request] ∧ NodeChange nodes next := by
  unfold createSessionNode at created
  obtain ⟨_, _, created⟩ := bind_ok created
  obtain ⟨_, available, created⟩ := bind_ok created
  obtain ⟨_, _, created⟩ := bind_ok created
  obtain ⟨_, mutable, created⟩ := bind_ok created
  cases created
  exact ⟨rfl, .added _ (requireNodeIdAvailable_ok available) rfl
    (requireMutableParent_ok mutable)⟩

theorem updateNode_length (nodeId : String)
    (change : SessionCatalogNode → SessionCatalogNode) :
    (nodes.updateNode nodeId change).length = nodes.length := by
  simp [updateNode, updateWhere]

theorem renameNode_ok {nodeId displayName : String} {next : Nodes}
    (renamed : nodes.renameNode nodeId displayName = .ok next) :
    NodeChange nodes next ∧ next.length ≤ nodes.length := by
  unfold renameNode at renamed
  split at renamed
  · cases renamed
  · obtain ⟨_, _, renamed⟩ := bind_ok renamed
    cases renamed
    refine ⟨?_, (updateNode_length _ _).le⟩
    exact .revised nodeId _ ⟨fun _ => rfl, fun _ => rfl, fun _ => rfl, fun _ => rfl, fun _ => rfl⟩
      (fun _ => rfl)

theorem validateMoveTarget_ok {nodeId : String} {newParentNodeId : Option String}
    {node : SessionCatalogNode}
    (valid : nodes.validateMoveTarget nodeId newParentNodeId = .ok node) :
    node ∈ nodes ∧ node.nodeId = nodeId ∧ node.state = .active ∧
      nodes.Mountable newParentNodeId node.workspaceId ∧
      ∀ parent, newParentNodeId = some parent → ¬ nodes.InSubtree nodeId parent := by
  unfold validateMoveTarget at valid
  obtain ⟨row, required, valid⟩ := bind_ok valid
  obtain ⟨stored, sameId⟩ := requireNode_ok required
  split at valid
  · cases valid
  · next alive =>
      split at valid
      · cases valid
      · next notSelf =>
          cases newParentNodeId with
          | none =>
            cases valid
            exact ⟨stored, sameId, NodeState.active_of_ne alive, by simp [Mountable], by simp⟩
          | some parentId =>
            obtain ⟨above, aboveRequired, valid⟩ := bind_ok valid
            obtain ⟨aboveStored, aboveId⟩ := requireNode_ok aboveRequired
            split at valid
            · cases valid
            · next aboveAlive =>
                split at valid
                · cases valid
                · next sameWorkspace =>
                    split at valid
                    · cases valid
                    · next notBelow =>
                        cases valid
                        refine ⟨stored, sameId, NodeState.active_of_ne alive, ?_, ?_⟩
                        · intro parent isParent
                          cases isParent
                          exact ⟨above, aboveStored, aboveId, NodeState.active_of_ne aboveAlive,
                            by simpa using sameWorkspace⟩
                        · intro parent isParent path
                          cases isParent
                          rcases Relation.ReflTransGen.cases_head path with same | later
                          · exact notSelf (by rw [same])
                          · obtain ⟨child, linked, rest⟩ := later
                            exact notBelow (mem_descendantNodeIds.mpr ⟨child, linked, rest⟩)

theorem moveNode_ok {nodeId : String} {newParentNodeId : Option String} {next : Nodes}
    (moved : nodes.moveNode nodeId newParentNodeId = .ok next) :
    NodeChange nodes next ∧ next.length ≤ nodes.length := by
  unfold moveNode at moved
  obtain ⟨node, valid, moved⟩ := bind_ok moved
  cases moved
  refine ⟨?_, (updateNode_length _ _).le⟩
  obtain ⟨stored, rfl, active, mountable, notBelow⟩ := validateMoveTarget_ok valid
  exact .moved node stored active newParentNodeId _
    ⟨fun _ => rfl, fun _ => rfl, fun _ => rfl, fun _ => rfl, fun _ => rfl⟩ (fun _ => rfl)
    mountable notBelow

theorem mutatedNode_revises (newParentNodeId : Option (Option String))
    (newDisplayName : Option String) :
    Revises (mutatedNode newParentNodeId newDisplayName) := by
  constructor
  all_goals
    intro row
    cases newParentNodeId <;> cases newDisplayName <;> rfl

theorem applyNavigationMutation_ok {nodeId : String} {expectedRevision : Nat}
    {newParentNodeId : Option (Option String)} {newDisplayName : Option String} {next : Nodes}
    (applied : nodes.applyNavigationMutation nodeId expectedRevision newParentNodeId
      newDisplayName = .ok next) :
    NodeChange nodes next ∧ next.length ≤ nodes.length := by
  unfold applyNavigationMutation at applied
  split at applied
  · cases applied
  · obtain ⟨row, valid, applied⟩ := bind_ok applied
    split at applied
    · cases applied
    · obtain ⟨_, _, applied⟩ := bind_ok applied
      cases applied
      refine ⟨?_, (updateNode_length _ _).le⟩
      have revises := mutatedNode_revises newParentNodeId newDisplayName
      cases newParentNodeId with
      | none =>
        apply NodeChange.revised nodeId _ revises
        intro row
        cases newDisplayName <;> rfl
      | some newParentNodeId =>
        obtain ⟨stored, rfl, active, mountable, notBelow⟩ := validateMoveTarget_ok valid
        apply NodeChange.moved row stored active newParentNodeId _ revises _ mountable notBelow
        intro row
        cases newDisplayName <;> rfl

theorem deleteNode_ok {nodeId : String} {next : Nodes}
    (deleted : nodes.deleteNode nodeId = .ok next) :
    next = nodes.filter (fun row => row.nodeId ≠ nodeId) := by
  unfold deleteNode at deleted
  split at deleted
  · cases deleted
  · exact (Except.ok.inj deleted).symm

theorem deleteEmptyFolder_ok {folderId : String} {next : Nodes}
    (deleted : nodes.deleteEmptyFolder folderId = .ok next) :
    NodeChange nodes next ∧ next.length ≤ nodes.length := by
  unfold deleteEmptyFolder at deleted
  obtain ⟨row, required, deleted⟩ := bind_ok deleted
  obtain ⟨stored, rfl⟩ := requireNode_ok required
  split at deleted
  · cases deleted
  · split at deleted
    · cases deleted
    · next active =>
        dsimp only at deleted
        split at deleted
        · cases deleted
        · next childless =>
            rw [deleteNode_ok deleted]
            refine ⟨?_, List.length_filter_le _ _⟩
            apply NodeChange.removed row stored (by simpa using active)
            have none : nodes.countP (fun child =>
                decide (child.parentNodeId = some row.nodeId)) = 0 := by
              omega
            simpa [List.countP_eq_zero] using none

structure Forest (nodes : Nodes) : Prop where
  distinct : (nodes.map (·.nodeId)).Nodup
  ranked : ∃ rank : String → Nat, ∀ row ∈ nodes, ∀ parent, row.parentNodeId = some parent →
    rank parent < rank row.nodeId
  parents : ∀ row ∈ nodes, ∀ parent, row.parentNodeId = some parent → ∃ above ∈ nodes,
    above.nodeId = parent ∧ above.workspaceId = row.workspaceId ∧
      (above.state = .deleting → row.state = .deleting)

namespace Forest

theorem eq_of_nodeId (forest : Forest nodes) {left right : SessionCatalogNode}
    (leftStored : left ∈ nodes) (rightStored : right ∈ nodes)
    (same : left.nodeId = right.nodeId) : left = right :=
  KeyedRows.eq_of_key_eq forest.distinct leftStored rightStored same

theorem rank_le {rank : String → Nat}
    (ranked : ∀ row ∈ nodes, ∀ parent, row.parentNodeId = some parent →
      rank parent < rank row.nodeId) {upper lower : String}
    (below : nodes.InSubtree upper lower) : rank upper ≤ rank lower := by
  induction below with
  | refl => exact Nat.le_refl _
  | tail _ linked ih =>
    obtain ⟨row, stored, parent, rfl⟩ := mem_links.mp linked
    have step := ranked row stored _ parent
    omega

theorem acyclic (forest : Forest nodes) (nodeId : String) :
    ¬ Relation.TransGen (fun parent child => (parent, child) ∈ nodes.links) nodeId nodeId := by
  obtain ⟨rank, ranked⟩ := forest.ranked
  intro cycle
  obtain ⟨above, path, linked⟩ := Relation.TransGen.tail'_iff.mp cycle
  obtain ⟨row, stored, parent, sameId⟩ := mem_links.mp linked
  have below := rank_le ranked path
  have step := ranked row stored _ parent
  rw [sameId] at step
  omega

theorem closed (forest : Forest nodes) {upper lower : String}
    (below : nodes.InSubtree upper lower)
    (deleting : ∀ row ∈ nodes, row.nodeId = upper → row.state = .deleting) :
    ∀ row ∈ nodes, row.nodeId = lower → row.state = .deleting := by
  induction below with
  | refl => exact deleting
  | tail _ linked ih =>
    intro row stored sameId
    obtain ⟨linkedRow, linkedStored, parent, linkedId⟩ := mem_links.mp linked
    rw [forest.eq_of_nodeId stored linkedStored (sameId.trans linkedId.symm)]
    obtain ⟨above, aboveStored, aboveId, _, propagates⟩ :=
      forest.parents linkedRow linkedStored _ parent
    exact propagates (ih above aboveStored aboveId)

theorem map (forest : Forest nodes) {change : SessionCatalogNode → SessionCatalogNode}
    (nodeId : ∀ row, (change row).nodeId = row.nodeId)
    (parentNodeId : ∀ row, (change row).parentNodeId = row.parentNodeId)
    (workspaceId : ∀ row, (change row).workspaceId = row.workspaceId)
    (propagates : ∀ above ∈ nodes, ∀ row ∈ nodes, row.parentNodeId = some above.nodeId →
      (above.state = .deleting → row.state = .deleting) →
        (change above).state = .deleting → (change row).state = .deleting) :
    Forest (nodes.map change) := by
  constructor
  · rw [List.map_map, show (fun row : SessionCatalogNode => row.nodeId) ∘ change =
      fun row => row.nodeId from funext nodeId]
    exact forest.distinct
  · obtain ⟨rank, ranked⟩ := forest.ranked
    refine ⟨rank, ?_⟩
    intro row member parent isParent
    obtain ⟨earlier, stored, rfl⟩ := List.mem_map.mp member
    rw [parentNodeId] at isParent
    rw [nodeId]
    exact ranked earlier stored parent isParent
  · intro row member parent isParent
    obtain ⟨earlier, stored, rfl⟩ := List.mem_map.mp member
    rw [parentNodeId] at isParent
    obtain ⟨above, aboveStored, rfl, sameWorkspace, wasClosed⟩ :=
      forest.parents earlier stored parent isParent
    refine ⟨change above, List.mem_map_of_mem aboveStored, nodeId above, ?_, ?_⟩
    · rw [workspaceId, workspaceId, sameWorkspace]
    · exact propagates above aboveStored earlier stored isParent wasClosed

theorem filter (forest : Forest nodes) {keep : SessionCatalogNode → Bool}
    (parentsKept : ∀ row ∈ nodes, keep row → ∀ above ∈ nodes,
      row.parentNodeId = some above.nodeId → keep above) :
    Forest (nodes.filter keep) := by
  constructor
  · exact forest.distinct.sublist (List.filter_sublist.map _)
  · obtain ⟨rank, ranked⟩ := forest.ranked
    refine ⟨rank, ?_⟩
    intro row member
    exact ranked row (List.mem_of_mem_filter member)
  · intro row member parent isParent
    obtain ⟨stored, kept⟩ := List.mem_filter.mp member
    obtain ⟨above, aboveStored, rfl, shared⟩ := forest.parents row stored parent isParent
    refine ⟨above, List.mem_filter.mpr ⟨aboveStored, ?_⟩, rfl, shared⟩
    exact parentsKept row stored kept above aboveStored isParent

theorem added (forest : Forest nodes) {node : SessionCatalogNode}
    (fresh : ∀ row ∈ nodes, row.nodeId ≠ node.nodeId)
    (mountable : nodes.Mountable node.parentNodeId node.workspaceId) :
    Forest (nodes ++ [node]) := by
  constructor
  · rw [List.map_append, List.nodup_append]
    refine ⟨forest.distinct, by simp, ?_⟩
    intro listed member other otherMember
    obtain ⟨row, stored, rfl⟩ := List.mem_map.mp member
    rw [List.map_singleton, List.mem_singleton] at otherMember
    rw [otherMember]
    exact fresh row stored
  · obtain ⟨rank, ranked⟩ := forest.ranked
    let above : Nat := (node.parentNodeId.map fun parent => rank parent + 1).getD 0
    refine ⟨fun nodeId => if nodeId = node.nodeId then above else rank nodeId, ?_⟩
    intro row member parent isParent
    rcases List.mem_append.mp member with stored | new
    · obtain ⟨parentRow, parentStored, rfl, _⟩ := forest.parents row stored parent isParent
      dsimp only
      rw [if_neg (fresh parentRow parentStored), if_neg (fresh row stored)]
      exact ranked row stored _ isParent
    · rw [List.mem_singleton.mp new] at isParent ⊢
      obtain ⟨parentRow, parentStored, rfl, _⟩ := mountable parent isParent
      dsimp only
      rw [if_neg (fresh parentRow parentStored), if_pos rfl]
      simp [above, isParent]
  · intro row member parent isParent
    rcases List.mem_append.mp member with stored | new
    · obtain ⟨above, aboveStored, shared⟩ := forest.parents row stored parent isParent
      exact ⟨above, List.mem_append_left _ aboveStored, shared⟩
    · rw [List.mem_singleton.mp new] at isParent ⊢
      obtain ⟨above, aboveStored, sameId, active, sameWorkspace⟩ := mountable parent isParent
      refine ⟨above, List.mem_append_left _ aboveStored, sameId, sameWorkspace, ?_⟩
      rw [active]
      intro deleting
      cases deleting

theorem moved (forest : Forest nodes) {node : SessionCatalogNode} (stored : node ∈ nodes)
    {newParentNodeId : Option String}
    {change : SessionCatalogNode → SessionCatalogNode} (revises : Revises change)
    (moves : ∀ row, (change row).parentNodeId = newParentNodeId)
    (mountable : nodes.Mountable newParentNodeId node.workspaceId)
    (notBelow : ∀ parent, newParentNodeId = some parent →
      ¬ nodes.InSubtree node.nodeId parent) :
    Forest (nodes.updateNode node.nodeId change) := by
  have cases : ∀ row ∈ nodes.updateNode node.nodeId change,
      row = change node ∨ (row ∈ nodes ∧ row.nodeId ≠ node.nodeId) := by
    intro row member
    obtain ⟨earlier, earlierStored, rfl⟩ := List.mem_map.mp member
    by_cases same : earlier.nodeId = node.nodeId
    · left
      rw [forest.eq_of_nodeId earlierStored stored same]
      simp
    · right
      simp [same, earlierStored]
  have movedStored : change node ∈ nodes.updateNode node.nodeId change :=
    List.mem_map.mpr ⟨node, stored, by simp⟩
  have keptStored : ∀ row ∈ nodes, row.nodeId ≠ node.nodeId →
      row ∈ nodes.updateNode node.nodeId change :=
    fun row rowStored other => List.mem_map.mpr ⟨row, rowStored, by simp [other]⟩
  have notSelf : ∀ parent, newParentNodeId = some parent → parent ≠ node.nodeId := by
    intro parent isParent same
    apply notBelow parent isParent
    rw [same]
    exact .refl
  constructor
  · rw [updateNode, updateWhere, List.map_map]
    have keepsId : (fun row : SessionCatalogNode => row.nodeId) ∘ (fun row =>
        if decide (row.nodeId = node.nodeId) = true then change row else row) =
        fun row => row.nodeId := by
      funext row
      rw [Function.comp_apply]
      split
      · exact revises.nodeId row
      · rfl
    rw [keepsId]
    exact forest.distinct
  · obtain ⟨rank, ranked⟩ := forest.ranked
    classical
    let lift : Nat := (newParentNodeId.map rank).getD 0 + 1
    refine ⟨fun nodeId =>
      if nodes.InSubtree node.nodeId nodeId then rank nodeId + lift else rank nodeId, ?_⟩
    intro row member parent isParent
    dsimp only
    rcases cases row member with rfl | ⟨rowStored, other⟩
    · rw [moves] at isParent
      rw [revises.nodeId, if_neg (notBelow parent isParent), if_pos .refl]
      simp only [lift, isParent, Option.map_some, Option.getD_some]
      omega
    · have step := ranked row rowStored parent isParent
      have linked : (parent, row.nodeId) ∈ nodes.links :=
        mem_links.mpr ⟨row, rowStored, isParent, rfl⟩
      by_cases parentBelow : nodes.InSubtree node.nodeId parent
      · have rowBelow : nodes.InSubtree node.nodeId row.nodeId := .tail parentBelow linked
        rw [if_pos parentBelow, if_pos rowBelow]
        omega
      · rw [if_neg parentBelow]
        split
        · omega
        · exact step
  · intro row member parent isParent
    rcases cases row member with rfl | ⟨rowStored, other⟩
    · rw [moves] at isParent
      obtain ⟨above, aboveStored, rfl, active, sameWorkspace⟩ := mountable parent isParent
      refine ⟨above, keptStored above aboveStored (notSelf _ isParent), rfl, ?_, ?_⟩
      · rw [sameWorkspace, revises.workspaceId]
      · rw [active]
        intro deleting
        cases deleting
    · obtain ⟨above, aboveStored, rfl, sameWorkspace, propagates⟩ :=
        forest.parents row rowStored parent isParent
      by_cases same : above.nodeId = node.nodeId
      · rw [forest.eq_of_nodeId aboveStored stored same] at sameWorkspace propagates ⊢
        refine ⟨change node, movedStored, revises.nodeId node, ?_, ?_⟩
        · rw [revises.workspaceId, sameWorkspace]
        · rw [revises.state]
          exact propagates
      · exact ⟨above, keptStored above aboveStored same, rfl, sameWorkspace, propagates⟩

end Forest

theorem updateNode_map (nodeId : String) (change : SessionCatalogNode → SessionCatalogNode) :
    nodes.updateNode nodeId change =
      nodes.map fun row => if row.nodeId = nodeId then change row else row := by
  simp [updateNode, updateWhere]

theorem NodeChange.forest {next : Nodes} (changed : NodeChange nodes next)
    (forest : Forest nodes) : Forest next := by
  cases changed with
  | added node fresh active mountable => exact forest.added fresh mountable
  | revised nodeId change revises keepsParent =>
    rw [updateNode_map]
    have keepsState : ∀ row : SessionCatalogNode,
        (if row.nodeId = nodeId then change row else row).state = row.state := by
      intro row
      split
      · exact revises.state row
      · rfl
    apply forest.map
    · intro row
      split
      · exact revises.nodeId row
      · rfl
    · intro row
      split
      · exact keepsParent row
      · rfl
    · intro row
      split
      · exact revises.workspaceId row
      · rfl
    · intro above _ row _ _ propagates
      rw [keepsState, keepsState]
      exact propagates
  | moved node stored active newParentNodeId change revises moves mountable notBelow =>
    exact forest.moved stored revises moves mountable notBelow
  | removed node stored active childless =>
    apply forest.filter
    intro row rowStored _ above _ isParent
    simp only [ne_eq, decide_not, Bool.not_eq_true', decide_eq_false_iff_not]
    intro same
    exact childless row rowStored (by rw [isParent, same])

end Nodes

end GraphAgent.Catalog
