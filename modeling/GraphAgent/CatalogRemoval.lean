import GraphAgent.CatalogForest
import Mathlib.Data.List.Count

/-!
# Removing a frozen subtree

A frozen set that is the whole subtree of its root can be removed row by row:
the walk up the frozen chains ends at the root, and in the order of the depths
no row is removed before the rows below it.
-/

namespace GraphAgent.Catalog

open KeyedRows Transaction

namespace Nodes

variable {nodes : Nodes} {rootNodeId : String} {ids : List String}

structure IsSubtree (nodes : Nodes) (rootNodeId : String) (ids : List String) : Prop where
  root : rootNodeId ∈ ids
  rows : ∀ nodeId ∈ ids, ∃ row ∈ nodes, row.nodeId = nodeId
  below : ∀ row ∈ nodes, ∀ parent ∈ ids, row.parentNodeId = some parent → row.nodeId ∈ ids
  above : ∀ row ∈ nodes, row.nodeId ∈ ids → row.nodeId ≠ rootNodeId →
    ∃ parent ∈ ids, row.parentNodeId = some parent

theorem IsSubtree.mem_iff (subtree : nodes.IsSubtree rootNodeId ids) (forest : Forest nodes)
    (nodeId : String) : nodeId ∈ ids ↔ nodes.InSubtree rootNodeId nodeId := by
  constructor
  · intro listed
    obtain ⟨rank, ranked⟩ := forest.ranked
    induction depth : rank nodeId using Nat.strong_induction_on generalizing nodeId with
    | _ depth ih =>
      by_cases isRoot : nodeId = rootNodeId
      · rw [isRoot]
        exact .refl
      · obtain ⟨row, stored, rfl⟩ := subtree.rows nodeId listed
        obtain ⟨parent, parentListed, isParent⟩ := subtree.above row stored listed isRoot
        have step := ranked row stored parent isParent
        have parentBelow := ih (rank parent) (by omega) parent parentListed rfl
        exact .tail parentBelow (mem_links.mpr ⟨row, stored, isParent, rfl⟩)
  · intro below
    induction below with
    | refl => exact subtree.root
    | tail _ linked ih =>
      obtain ⟨row, stored, isParent, rfl⟩ := mem_links.mp linked
      exact subtree.below row stored _ ih isParent

theorem fetchNode_of_mem (forest : Forest nodes) {row : SessionCatalogNode}
    (stored : row ∈ nodes) : nodes.fetchNode row.nodeId = some row :=
  fetch_of_mem forest.distinct stored

theorem frozenDepth_succ {steps depth : Nat} {nodeId : String}
    (ended : nodes.frozenDepth ids steps nodeId = some depth) :
    nodes.frozenDepth ids (steps + 1) nodeId = some depth := by
  induction steps generalizing nodeId depth with
  | zero => cases ended
  | succ steps ih =>
    rw [frozenDepth] at ended ⊢
    cases parentOf : (nodes.fetchNode nodeId).bind (·.parentNodeId) with
    | none =>
      rw [parentOf] at ended
      exact ended
    | some parent =>
      rw [parentOf] at ended
      dsimp only at ended ⊢
      by_cases frozen : parent ∈ ids
      · rw [if_pos frozen, Option.map_eq_some_iff] at ended
        obtain ⟨above, aboveEnded, rfl⟩ := ended
        rw [if_pos frozen, ih aboveEnded]
        rfl
      · rw [if_neg frozen] at ended ⊢
        exact ended

theorem frozenDepth_ends {rank : String → Nat}
    (ranked : ∀ row ∈ nodes, ∀ parent, row.parentNodeId = some parent →
      rank parent < rank row.nodeId) (steps : Nat) (nodeId : String)
    (enough : ids.countP (fun other => rank other < rank nodeId) < steps) :
    ∃ depth, nodes.frozenDepth ids steps nodeId = some depth := by
  induction steps generalizing nodeId with
  | zero => omega
  | succ steps ih =>
    rw [frozenDepth]
    cases parentOf : (nodes.fetchNode nodeId).bind (·.parentNodeId) with
    | none => exact ⟨0, rfl⟩
    | some parent =>
      dsimp only
      by_cases frozen : parent ∈ ids
      · rw [if_pos frozen]
        obtain ⟨row, fetched, isParent⟩ := Option.bind_eq_some_iff.mp parentOf
        obtain ⟨stored, sameId⟩ := fetchNode_mem fetched
        have step := ranked row stored parent isParent
        rw [sameId] at step
        have fewer : ids.countP (fun other => rank other < rank parent) <
            ids.countP (fun other => rank other < rank nodeId) := by
          apply FiniteClosure.countP_lt _ frozen
          · simpa using step
          · simp
          · intro other _ smaller
            simp only [decide_eq_true_eq] at smaller ⊢
            omega
        obtain ⟨depth, ended⟩ := ih parent (by omega)
        exact ⟨depth + 1, by rw [ended]; rfl⟩
      · rw [if_neg frozen]
        exact ⟨0, rfl⟩

theorem frozenDepth_length (forest : Forest nodes) {nodeId : String} (listed : nodeId ∈ ids) :
    ∃ depth, nodes.frozenDepth ids ids.length nodeId = some depth := by
  obtain ⟨rank, ranked⟩ := forest.ranked
  apply frozenDepth_ends ranked
  rw [List.countP_lt_length_iff]
  exact ⟨nodeId, listed, by simp⟩

theorem frozenDepth_parent (forest : Forest nodes) {row : SessionCatalogNode} {parent : String}
    (stored : row ∈ nodes) (isParent : row.parentNodeId = some parent) (frozen : parent ∈ ids)
    {depth parentDepth : Nat} (ended : nodes.frozenDepth ids ids.length row.nodeId = some depth)
    (parentEnded : nodes.frozenDepth ids ids.length parent = some parentDepth) :
    depth = parentDepth + 1 := by
  cases steps : ids.length with
  | zero =>
    rw [List.eq_nil_of_length_eq_zero steps] at frozen
    cases frozen
  | succ steps =>
    rw [steps] at ended parentEnded
    rw [frozenDepth, fetchNode_of_mem forest stored, Option.bind_some, isParent] at ended
    dsimp only at ended
    rw [if_pos frozen, Option.map_eq_some_iff] at ended
    obtain ⟨above, aboveEnded, rfl⟩ := ended
    rw [frozenDepth_succ aboveEnded] at parentEnded
    rw [Option.some.inj parentEnded]

theorem removeFrozen_fold_ok {idempotencyKey : String} (order : List String) {nodes next : Nodes}
    (removed : order.foldlM (fun nodes nodeId => nodes.removeFrozen idempotencyKey nodeId) nodes =
      .ok next) :
    next = nodes.filter fun row => row.nodeId ∉ order := by
  induction order generalizing nodes with
  | nil =>
    cases removed
    simp
  | cons nodeId rest ih =>
    rw [List.foldlM_cons] at removed
    obtain ⟨middle, first, removed⟩ := bind_ok removed
    unfold removeFrozen at first
    obtain ⟨deleted, deletion, first⟩ := bind_ok first
    split at first
    · cases first
    · cases first
      rw [ih removed, deleteNode_ok deletion, List.filter_filter]
      apply List.filter_congr
      intro row _
      simp [Bool.and_comm]

theorem removeFrozen_fold (idempotencyKey : String) (depth : String → Nat)
    (order : List String) {nodes : Nodes} (distinct : (nodes.map (·.nodeId)).Nodup)
    (orderDistinct : order.Nodup) (rows : ∀ nodeId ∈ order, ∃ row ∈ nodes, row.nodeId = nodeId)
    (sorted : order.Pairwise fun left right => depth right ≤ depth left)
    (below : ∀ row ∈ nodes, ∀ parent ∈ order, row.parentNodeId = some parent →
      row.nodeId ∈ order ∧ depth parent < depth row.nodeId) :
    ∃ next, order.foldlM (fun nodes nodeId => nodes.removeFrozen idempotencyKey nodeId) nodes =
      .ok next := by
  induction order generalizing nodes with
  | nil => exact ⟨nodes, rfl⟩
  | cons nodeId rest ih =>
    obtain ⟨deepest, restSorted⟩ := List.pairwise_cons.mp sorted
    obtain ⟨first, restDistinct⟩ := List.nodup_cons.mp orderDistinct
    obtain ⟨row, stored, rowId⟩ := rows nodeId (by simp)
    have childless : ∀ child ∈ nodes, child.parentNodeId ≠ some nodeId := by
      intro child childStored isParent
      obtain ⟨listed, deeper⟩ := below child childStored nodeId (by simp) isParent
      rcases List.mem_cons.mp listed with same | later
      · rw [same] at deeper
        omega
      · have notDeeper := deepest _ later
        omega
    have single : nodes.countP (fun other => decide (other.nodeId = nodeId)) = 1 := by
      have counted := List.count_eq_one_of_mem distinct (List.mem_map_of_mem stored)
      rw [List.count, List.countP_map, rowId] at counted
      rw [← counted]
      apply List.countP_congr
      intro other _
      simp
    have deletion : nodes.deleteNode nodeId =
        .ok (nodes.filter fun other => other.nodeId ≠ nodeId) := by
      unfold deleteNode
      rw [if_neg]
      simp only [List.any_eq_true, Bool.and_eq_true, decide_eq_true_eq, not_exists, not_and]
      exact fun child childStored _ => childless child childStored
    have removal : nodes.removeFrozen idempotencyKey nodeId =
        .ok (nodes.filter fun other => other.nodeId ≠ nodeId) := by
      unfold removeFrozen
      rw [deletion]
      change (if nodes.countP (fun other => decide (other.nodeId = nodeId)) ≠ 1 then _ else _) = _
      rw [if_neg (by simp [single])]
      rfl
    rw [List.foldlM_cons, removal]
    apply ih
    · exact distinct.sublist (List.filter_sublist.map _)
    · exact restDistinct
    · intro other later
      obtain ⟨otherRow, otherStored, rfl⟩ := rows other (by simp [later])
      refine ⟨otherRow, List.mem_filter.mpr ⟨otherStored, ?_⟩, rfl⟩
      simp only [ne_eq, decide_not, Bool.not_eq_true', decide_eq_false_iff_not]
      intro same
      exact first (same ▸ later)
    · exact restSorted
    · intro child member parent later isParent
      obtain ⟨childStored, kept⟩ := List.mem_filter.mp member
      obtain ⟨listed, deeper⟩ := below child childStored parent (by simp [later]) isParent
      simp only [ne_eq, decide_not, Bool.not_eq_true', decide_eq_false_iff_not] at kept
      exact ⟨(List.mem_cons.mp listed).resolve_left kept, deeper⟩

theorem mem_frozenDepths {depths : List (Nat × String)}
    (walked : nodes.frozenDepths ids = some depths) :
    depths.map (·.2) = ids ∧
      ∀ entry ∈ depths, nodes.frozenDepth ids ids.length entry.2 = some entry.1 := by
  unfold frozenDepths at walked
  generalize ids.length = steps at walked ⊢
  have walkedAll : ∀ (listed : List String) (depths : List (Nat × String)),
      listed.mapM (fun nodeId => (nodes.frozenDepth ids steps nodeId).map
        fun depth => (depth, nodeId)) = some depths →
      depths.map (·.2) = listed ∧
        ∀ entry ∈ depths, nodes.frozenDepth ids steps entry.2 = some entry.1 := by
    intro listed
    induction listed with
    | nil =>
      intro depths walked
      cases walked
      simp
    | cons nodeId rest ih =>
      intro depths walked
      rw [List.mapM_cons, Option.bind_eq_bind, Option.bind_eq_some_iff] at walked
      obtain ⟨entry, entryWalked, walked⟩ := walked
      obtain ⟨later, laterWalked, built⟩ := Option.bind_eq_some_iff.mp walked
      cases built
      obtain ⟨depth, ended, rfl⟩ := Option.map_eq_some_iff.mp entryWalked
      obtain ⟨laterIds, laterDepths⟩ := ih later laterWalked
      refine ⟨by rw [List.map_cons, laterIds], ?_⟩
      intro other member
      rcases List.mem_cons.mp member with rfl | inLater
      · exact ended
      · exact laterDepths other inLater
  exact walkedAll ids depths walked

theorem frozenDepths_ends (forest : Forest nodes) :
    ∃ depths, nodes.frozenDepths ids = some depths := by
  unfold frozenDepths
  have walked : ∀ listed : List String, (∀ nodeId ∈ listed, nodeId ∈ ids) →
      ∃ depths, listed.mapM (fun nodeId =>
        (nodes.frozenDepth ids ids.length nodeId).map fun depth => (depth, nodeId)) =
          some depths := by
    intro listed
    induction listed with
    | nil => exact fun _ => ⟨[], rfl⟩
    | cons nodeId rest ih =>
      intro subset
      obtain ⟨depth, ended⟩ := frozenDepth_length forest (subset nodeId (by simp))
      obtain ⟨depths, restWalked⟩ := ih fun other member => subset other (by simp [member])
      refine ⟨(depth, nodeId) :: depths, ?_⟩
      rw [List.mapM_cons, ended, restWalked]
      rfl
  exact walked ids fun _ member => member

theorem removeSubtree_ok {idempotencyKey : String} {next : Nodes}
    (removed : nodes.removeSubtree idempotencyKey ids = .ok next) :
    next = nodes.filter fun row => row.nodeId ∉ ids := by
  unfold removeSubtree at removed
  split at removed
  · cases removed
  · next depths walked =>
      rw [removeFrozen_fold_ok _ removed]
      apply List.filter_congr
      intro row _
      have order : row.nodeId ∈ removalOrder depths ↔ row.nodeId ∈ ids := by
        rw [← (mem_frozenDepths walked).1]
        unfold removalOrder
        exact ((List.perm_insertionSort _ depths).map _).mem_iff
      simp [order]

theorem IsSubtree.removable (subtree : nodes.IsSubtree rootNodeId ids) (forest : Forest nodes)
    (distinct : ids.Nodup) (idempotencyKey : String) :
    nodes.removeSubtree idempotencyKey ids =
      .ok (nodes.filter fun row => row.nodeId ∉ ids) := by
  obtain ⟨depths, walked⟩ := @frozenDepths_ends nodes ids forest
  obtain ⟨listed, ended⟩ := mem_frozenDepths walked
  have order : (removalOrder depths).Perm ids := by
    rw [← listed]
    exact (List.perm_insertionSort _ depths).map _
  let depth (nodeId : String) : Nat := (nodes.frozenDepth ids ids.length nodeId).getD 0
  have sorted : (removalOrder depths).Pairwise fun left right => depth right ≤ depth left := by
    unfold removalOrder
    rw [List.pairwise_map]
    have total : Std.Total fun left right : Nat × String =>
        right.1 < left.1 ∨ right.1 = left.1 ∧ left.2 ≤ right.2 := by
      constructor
      intro left right
      rcases Nat.lt_trichotomy left.1 right.1 with less | same | more
      · exact Or.inr (Or.inl less)
      · rcases String.le_total left.2 right.2 with before | after
        · exact Or.inl (Or.inr ⟨same.symm, before⟩)
        · exact Or.inr (Or.inr ⟨same, after⟩)
      · exact Or.inl (Or.inl more)
    have transitive : IsTrans (Nat × String) fun left right =>
        right.1 < left.1 ∨ right.1 = left.1 ∧ left.2 ≤ right.2 := by
      constructor
      rintro first second third (less | ⟨same, before⟩) (less' | ⟨same', before'⟩)
      · exact Or.inl (by omega)
      · exact Or.inl (by omega)
      · exact Or.inl (by omega)
      · exact Or.inr ⟨by omega, String.le_trans before before'⟩
    apply (List.pairwise_insertionSort _ depths).imp_of_mem
    intro left right leftMember rightMember ordered
    rw [List.mem_insertionSort] at leftMember rightMember
    simp only [depth, ended left leftMember, ended right rightMember, Option.getD_some]
    omega
  obtain ⟨next, removed⟩ := removeFrozen_fold idempotencyKey depth (removalOrder depths)
    forest.distinct (order.nodup_iff.mpr distinct)
    (fun nodeId member => subtree.rows nodeId (order.mem_iff.mp member)) sorted
    (by
      intro row stored parent member isParent
      have frozen := order.mem_iff.mp member
      have rowFrozen := subtree.below row stored parent frozen isParent
      refine ⟨order.mem_iff.mpr rowFrozen, ?_⟩
      obtain ⟨rowDepth, rowEnded⟩ := frozenDepth_length forest rowFrozen
      obtain ⟨parentDepth, parentEnded⟩ := frozenDepth_length forest frozen
      have step := frozenDepth_parent forest stored isParent frozen rowEnded parentEnded
      simp only [depth, rowEnded, parentEnded, Option.getD_some]
      omega)
  have removal : nodes.removeSubtree idempotencyKey ids = .ok next := by
    unfold removeSubtree
    rw [walked]
    exact removed
  rw [removal, removeSubtree_ok removal]

end Nodes

end GraphAgent.Catalog
