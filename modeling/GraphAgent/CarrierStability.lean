import GraphAgent.CarrierSelection

/-!
# Deduplicating twice

The kept items have no revision among them, no two groups for the same calls and
no carrier that names one of them, so a second deduplication removes nothing.
-/

namespace GraphAgent.Carriers

open Transaction

variable {items : List CanonicalItem} {item : CanonicalItem}

/-- Everything about the kept items that the rules look at. -/
structure Remaining (items remaining : List CanonicalItem) : Prop where
  selected : ∀ item ∈ remaining, item ∈ Carriers.selected items
  unbeaten : ∀ item ∈ remaining, ¬ LosesCarrier (Carriers.selected items) item
  unnamed : ∀ item ∈ remaining, isNamed (Carriers.selected items) item = false
  calls : ∀ group ∈ toolGroups (Carriers.selected items), ¬ Loses (Carriers.selected items) group →
    ∀ member ∈ group.members, member.semanticKind = .toolCall → member ∈ remaining

theorem remaining_kept (distinct : Distinct items) :
    Remaining items (kept items (removedIds items)) where
  selected _ member := ((mem_kept_removedIds distinct).mp member).1
  unbeaten _ member := ((mem_kept_removedIds distinct).mp member).2.1
  unnamed _ member := ((mem_kept_removedIds distinct).mp member).2.2.2
  calls _ listed stands _ member := call_kept distinct listed stands member

namespace Remaining

variable {remaining : List CanonicalItem}

theorem mem (remains : Remaining items remaining) (member : item ∈ remaining) : item ∈ items :=
  (mem_selected.mp (remains.selected item member)).1

theorem not_revises (remains : Remaining items remaining) {later earlier : CanonicalItem}
    (laterMember : later ∈ remaining) (earlierMember : earlier ∈ remaining) :
    revises later earlier.itemId = false := by
  rw [← Bool.not_eq_true]
  intro revised
  have unrevised := (mem_selected.mp (remains.selected earlier earlierMember)).2
  have replaced : isReplaced items earlier = true :=
    List.any_eq_true.mpr ⟨later, remains.mem laterMember, revised⟩
  rw [isRevised, replaced] at unrevised
  cases unrevised

theorem not_replaced (remains : Remaining items remaining) (member : item ∈ remaining) :
    isReplaced remaining item = false := by
  rw [← Bool.not_eq_true]
  intro replaced
  obtain ⟨later, laterMember, revised⟩ := List.any_eq_true.mp replaced
  rw [remains.not_revises laterMember member] at revised
  cases revised

theorem not_revised (remains : Remaining items remaining) (member : item ∈ remaining) :
    isRevised remaining item = false := by
  rw [isRevised, remains.not_replaced member, Bool.false_or, ← Bool.not_eq_true]
  intro grouped
  obtain ⟨previous, previousMember, facts⟩ := List.any_eq_true.mp grouped
  rw [remains.not_replaced previousMember] at facts
  cases facts

theorem selected_eq (remains : Remaining items remaining) :
    Carriers.selected remaining = remaining := by
  apply List.filter_eq_self.mpr
  intro item member
  rw [remains.not_revised member]
  rfl

theorem revisions (remains : Remaining items remaining) (readable : Readable items) :
    ∀ item ∈ remaining, checkRevision remaining item = .ok () := by
  intro item member
  have checked := readable.revisions item (remains.mem member)
  unfold checkRevision at checked ⊢
  split at checked
  · rfl
  · rename_i relation only
    have revising : revises item relation.targetId = true := by
      rw [revises, only]
      simp
    have absent : (remaining.find? fun previous => previous.itemId = relation.targetId) = none := by
      rw [List.find?_eq_none]
      intro previous previousMember same
      rw [decide_eq_true_eq] at same
      rw [← same, remains.not_revises member previousMember] at revising
      cases revising
    split at checked
    · cases checked
    · rename_i unforked
      rw [if_neg, absent]
      intro forked
      obtain ⟨other, otherMember, facts⟩ := List.any_eq_true.mp forked
      exact unforked (List.any_eq_true.mpr ⟨other, remains.mem otherMember, facts⟩)
  · cases checked

theorem groupMembers_subset (remains : Remaining items remaining)
    {key : Option ToolCarrierScope × String} (member : item ∈ groupMembers remaining key) :
    item ∈ groupMembers (Carriers.selected items) key := by
  obtain ⟨inRemaining, facts⟩ := mem_groupMembers.mp member
  exact mem_groupMembers.mpr ⟨remains.selected item inRemaining, facts⟩

theorem groupKeys_subset (remains : Remaining items remaining)
    {key : Option ToolCarrierScope × String} (listed : key ∈ groupKeys remaining) :
    key ∈ groupKeys (Carriers.selected items) := by
  obtain ⟨item, member, facts⟩ := mem_groupKeys.mp listed
  exact mem_groupKeys.mpr ⟨item, remains.selected item member, facts⟩

theorem origin (remains : Remaining items remaining) (readable : Readable items)
    {group : ToolGroup} {key : Option ToolCarrierScope × String}
    (stands : group.At remaining key) :
    ∃ first : ToolGroup, first.At (Carriers.selected items) key ∧
      ¬ Loses (Carriers.selected items) first ∧ first.scope = group.scope ∧
        first.calls = group.calls := by
  have known := remains.groupKeys_subset stands.listed
  obtain ⟨calls, whole⟩ := readable.tools.groups key known
  obtain ⟨-, wholeDeclares⟩ := declaredCalls_ok.mp whole
  obtain ⟨-, declares⟩ := declaredCalls_ok.mp stands.declared
  rw [stands.members] at declares
  have includes : group.calls ⊆ calls := by
    intro callId member
    obtain ⟨item, itemMember, declaresIt⟩ := (declares callId).mp member
    exact (wholeDeclares callId).mpr ⟨item, remains.groupMembers_subset itemMember, declaresIt⟩
  obtain ⟨callId, callMember⟩ := Finset.nonempty_iff_ne_empty.mpr stands.inhabited
  let first : ToolGroup := ⟨sinkOf (groupMembers (Carriers.selected items) key), group.scope,
    calls, groupMembers (Carriers.selected items) key⟩
  have firstAt : first.At (Carriers.selected items) key :=
    ⟨known, stands.scope, rfl, rfl,
      Finset.nonempty_iff_ne_empty.mp ⟨callId, includes callMember⟩, whole⟩
  have unbeaten : ¬ Loses (Carriers.selected items) first := by
    intro loses
    obtain ⟨item, itemMember, -⟩ := (declares callId).mp callMember
    exact remains.unbeaten item (mem_groupMembers.mp itemMember).1
      ⟨first, loses, remains.groupMembers_subset itemMember⟩
  refine ⟨first, firstAt, unbeaten, rfl, ?_⟩
  apply Finset.Subset.antisymm
  · intro other otherMember
    obtain ⟨item, itemMember, declaresIt⟩ := (wholeDeclares other).mp otherMember
    refine (declares other).mpr ⟨item, mem_groupMembers.mpr ⟨?_, ?_⟩, declaresIt⟩
    · exact remains.calls first (mem_toolGroups.mpr ⟨key, firstAt⟩) unbeaten item itemMember
        declaresIt.1
    · exact (mem_groupMembers.mp itemMember).2
  · exact includes

theorem key_eq (remains : Remaining items remaining) (readable : Readable items)
    {first second : ToolGroup} {firstKey secondKey : Option ToolCarrierScope × String}
    (firstAt : first.At remaining firstKey) (secondAt : second.At remaining secondKey)
    (scope : first.scope = second.scope) (calls : first.calls = second.calls) :
    firstKey = secondKey := by
  obtain ⟨one, oneAt, oneStands, oneScope, oneCalls⟩ := remains.origin readable firstAt
  obtain ⟨two, twoAt, twoStands, twoScope, twoCalls⟩ := remains.origin readable secondAt
  have same : one = two := eq_of_unbeaten readable.tools (mem_toolGroups.mpr ⟨_, oneAt⟩)
    (mem_toolGroups.mpr ⟨_, twoAt⟩) (oneScope.trans (scope.trans twoScope.symm))
    (oneCalls.trans (calls.trans twoCalls.symm)) oneStands twoStands
  obtain ⟨item, member, carries, rfl⟩ := mem_groupKeys.mp oneAt.listed
  have inOne : item ∈ one.members := by
    rw [oneAt.members]
    exact mem_groupMembers.mpr ⟨member, carries, rfl⟩
  rw [same, twoAt.members] at inOne
  exact (mem_groupMembers.mp inOne).2.2

theorem tools (remains : Remaining items remaining) (readable : Readable items) :
    ToolsReadable remaining where
  groups := by
    intro key listed
    obtain ⟨calls, whole⟩ := readable.tools.groups key (remains.groupKeys_subset listed)
    have every := (declaredCalls_ok.mp whole).1
    rw [declaredCalls, mapM_iff.mpr ⟨?_, rfl⟩]
    · exact ⟨_, rfl⟩
    · intro item member
      obtain ⟨inGroup, isCall⟩ := List.mem_filter.mp member
      exact every item (remains.groupMembers_subset inGroup) (decide_eq_true_eq.mp isCall)
  unique := by
    rw [List.Nodup, List.pairwise_map, toolGroups, List.pairwise_filterMap]
    have distinctKeys : (groupKeys remaining).Nodup := List.nodup_dedup _
    refine List.Pairwise.imp_of_mem ?_ distinctKeys
    intro firstKey secondKey firstListed secondListed different first firstFound second
      secondFound same
    apply different
    obtain ⟨-, scope, calls⟩ : first.sink = second.sink ∧ first.scope = second.scope ∧
        first.calls = second.calls := by
      simpa [ToolGroup.registryKey] using same
    exact remains.key_eq readable ((groupAt_eq_some firstListed).mp firstFound)
      ((groupAt_eq_some secondListed).mp secondFound) scope calls
  results := by
    intro item member completed
    exact readable.tools.results item (remains.selected item member) completed

theorem pairedGroups_eq_nil (remains : Remaining items remaining) (readable : Readable items) :
    pairedGroups (toolGroups remaining) = [] := by
  rw [List.eq_nil_iff_forall_not_mem]
  intro pair paired
  obtain ⟨firstMember, firstSink, secondMember, secondSink, scope, calls⟩ :=
    mem_pairedGroups.mp paired
  obtain ⟨firstKey, firstAt⟩ := mem_toolGroups.mp firstMember
  obtain ⟨secondKey, secondAt⟩ := mem_toolGroups.mp secondMember
  have sameKey := remains.key_eq readable firstAt secondAt scope calls
  rw [firstAt.sink, firstAt.members, sameKey, ← secondAt.members, ← secondAt.sink,
    secondSink] at firstSink
  cases firstSink

theorem shadowIds_eq_nil (remains : Remaining items remaining) (readable : Readable items) :
    shadowIds remaining = [] := by
  have closed : closedPairs remaining = [] := by
    rw [closedPairs, remains.pairedGroups_eq_nil readable]
    rfl
  have open_ : openPairs remaining = [] := by
    rw [openPairs, remains.pairedGroups_eq_nil readable]
    rfl
  have standing : (completedResults remaining).filter (isShadow remaining) = [] := by
    rw [List.filter_eq_nil_iff]
    intro result _ shadow
    rw [isShadow, closed, open_] at shadow
    simp [isShadowResult] at shadow
  rw [shadowIds, closed, open_, standing]
  rfl

theorem removedIds_eq_nil (remains : Remaining items remaining) (readable : Readable items) :
    removedIds remaining = [] := by
  have unrevised : remaining.filter (isRevised remaining) = [] := by
    rw [List.filter_eq_nil_iff]
    intro item member
    rw [remains.not_revised member]
    exact Bool.false_ne_true
  have unnamed : remaining.filter (isNamed remaining) = [] := by
    rw [List.filter_eq_nil_iff]
    intro item member named
    obtain ⟨carrier, carrierMember, names⟩ := List.any_eq_true.mp named
    have before := remains.unnamed item member
    rw [isNamed, List.any_eq_true.mpr ⟨carrier, remains.selected carrier carrierMember, names⟩]
      at before
    cases before
  rw [removedIds, remains.selected_eq, unrevised, unnamed, remains.shadowIds_eq_nil readable]
  rfl

theorem readable (remains : Remaining items remaining) (before : Readable items) :
    Readable remaining where
  revisions := remains.revisions before
  tools := by
    rw [remains.selected_eq]
    exact remains.tools before
  parts := by
    rw [remains.selected_eq]
    exact fun item member => before.parts item (remains.selected item member)

end Remaining

theorem supersededItemIds_kept (distinct : Distinct items) (readable : Readable items) :
    supersededItemIds (kept items (removedIds items)) = .ok [] := by
  have remains := remaining_kept distinct
  have still : Distinct (kept items (removedIds items)) := distinct.filter _
  exact (supersededItemIds_ok still).mpr
    ⟨remains.readable readable, (remains.removedIds_eq_nil readable).symm⟩

end GraphAgent.Carriers
