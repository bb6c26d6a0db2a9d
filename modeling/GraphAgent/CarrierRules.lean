import Mathlib.Data.List.ReduceOption
import GraphAgent.CarrierDedup
import GraphAgent.KeyedRows
import GraphAgent.Transactions

/-!
# What each deduplication rule removes

The revision rule, the tool rule and the part rule, each by the items that it
removes, and the groups and results that the tool rule reads.
-/

namespace GraphAgent.Carriers

open KeyedRows Transaction

variable {items : List CanonicalItem} {ids : List String} {item : CanonicalItem}

def Distinct (items : List CanonicalItem) : Prop :=
  (items.map CanonicalItem.itemId).Nodup

theorem Distinct.filter (distinct : Distinct items) (keep : CanonicalItem → Bool) :
    Distinct (items.filter keep) :=
  distinct.sublist (List.filter_sublist.map _)

theorem Distinct.mem_ids (distinct : Distinct items) {removed : CanonicalItem → Bool}
    (member : item ∈ items) :
    item.itemId ∈ (items.filter removed).map CanonicalItem.itemId ↔ removed item = true := by
  constructor
  · intro listed
    obtain ⟨other, otherListed, same⟩ := List.mem_map.mp listed
    obtain ⟨otherMember, otherRemoved⟩ := List.mem_filter.mp otherListed
    rwa [eq_of_key_eq distinct otherMember member same] at otherRemoved
  · intro isRemoved
    exact List.mem_map_of_mem (List.mem_filter.mpr ⟨member, isRemoved⟩)

@[simp]
theorem mem_kept : item ∈ kept items ids ↔ item ∈ items ∧ item.itemId ∉ ids := by
  simp [kept]

def isRevised (items : List CanonicalItem) (item : CanonicalItem) : Bool :=
  isReplaced items item || inReplacedGroup items item

theorem supersededCanonicalMessageItemIds_ok :
    supersededCanonicalMessageItemIds items = .ok ids ↔
      (∀ item ∈ items, checkRevision items item = .ok ()) ∧
        ids = (items.filter (isRevised items)).map CanonicalItem.itemId := by
  rw [← forM_iff]
  constructor
  · intro returned
    obtain ⟨_, checked, built⟩ := bind_ok returned
    cases built
    exact ⟨checked, rfl⟩
  · rintro ⟨checked, rfl⟩
    rw [supersededCanonicalMessageItemIds, checked]
    rfl

/-- The items that the other two rules meet. -/
def selected (items : List CanonicalItem) : List CanonicalItem :=
  items.filter fun item => !isRevised items item

theorem kept_revised (distinct : Distinct items) :
    kept items ((items.filter (isRevised items)).map CanonicalItem.itemId) = selected items := by
  apply List.filter_congr
  intro item member
  rw [← Bool.not_eq_eq_eq_not, Bool.eq_iff_iff]
  simp [distinct.mem_ids member]

/-- Removed by the part rule. -/
def isNamed (items : List CanonicalItem) (item : CanonicalItem) : Bool :=
  items.any fun carrier => names carrier item

theorem supersededStreamContentItemIds_ok :
    supersededStreamContentItemIds items = .ok ids ↔
      (∀ item ∈ items, checkPartScopes item = .ok ()) ∧
        ids = (items.filter (isNamed items)).map CanonicalItem.itemId := by
  rw [← forM_iff]
  constructor
  · intro returned
    obtain ⟨_, checked, built⟩ := bind_ok returned
    cases built
    exact ⟨checked, rfl⟩
  · rintro ⟨checked, rfl⟩
    rw [supersededStreamContentItemIds, checked]
    rfl

theorem names_toolCarrier {carrier : CanonicalItem} (named : names carrier item = true)
    (carries : isToolCarrier item = true) : item.semanticKind = .reasoning := by
  simp only [names, isToolCarrier, Bool.and_eq_true, Bool.or_eq_true, decide_eq_true_eq]
    at named carries
  rcases carries with reasoning | call
  · exact reasoning
  · rw [call] at named
    simp at named

def groupAt (items : List CanonicalItem) (key : Option ToolCarrierScope × String) :
    Option ToolGroup :=
  (readGroup (groupMembers items key)).toOption.join

def toolGroups (items : List CanonicalItem) : List ToolGroup :=
  (groupKeys items).filterMap (groupAt items)

theorem readGroups_ok {groups : List ToolGroup} :
    readGroups items = .ok groups ↔
      (∀ key ∈ groupKeys items, ∃ result, readGroup (groupMembers items key) = .ok result) ∧
        groups = toolGroups items ∧ (groups.map ToolGroup.registryKey).Nodup := by
  have collected :
      (((groupKeys items).map (groupMembers items)).filterMap fun members =>
        (readGroup members).toOption).reduceOption = toolGroups items := by
    rw [List.filterMap_map, List.reduceOption, List.filterMap_filterMap]
    apply List.filterMap_congr
    intro key _
    simp only [groupAt, Function.comp_apply]
    cases (readGroup (groupMembers items key)).toOption <;> rfl
  rw [readGroups]
  constructor
  · intro returned
    obtain ⟨read, traversed, built⟩ := bind_ok returned
    obtain ⟨every, rfl⟩ := mapM_iff.mp traversed
    change (if (List.map ToolGroup.registryKey (List.reduceOption _)).Nodup then
      pure (List.reduceOption _) else _) = _ at built
    rw [collected] at built
    split at built
    · rename_i distinct
      cases built
      exact ⟨fun key member => every _ (List.mem_map_of_mem member), rfl, distinct⟩
    · cases built
  · rintro ⟨every, rfl, distinct⟩
    have traversed := (@mapM_iff _ _ _ readGroup ((groupKeys items).map (groupMembers items))
      _).mpr ⟨by
        intro members listed
        obtain ⟨key, member, rfl⟩ := List.mem_map.mp listed
        exact every key member, rfl⟩
    rw [traversed]
    change (if (List.map ToolGroup.registryKey (List.reduceOption _)).Nodup then
      pure (List.reduceOption _) else _) = _
    rw [collected, if_pos distinct]
    rfl

theorem mem_groupMembers {key : Option ToolCarrierScope × String} :
    item ∈ groupMembers items key ↔
      item ∈ items ∧ isToolCarrier item = true ∧ groupKey item = key := by
  simp [groupMembers]

theorem mem_groupKeys {key : Option ToolCarrierScope × String} :
    key ∈ groupKeys items ↔ ∃ item ∈ items, isToolCarrier item = true ∧ groupKey item = key := by
  simp [groupKeys, and_assoc]

def Declares (item : CanonicalItem) (callId : String) : Prop :=
  item.semanticKind = .toolCall ∧
    ∃ calls, item.normalizedToolCallIds = .ok calls ∧ callId ∈ calls

theorem declaredCalls_ok {members : List CanonicalItem} {calls : Finset String} :
    declaredCalls members = .ok calls ↔
      (∀ item ∈ members, item.semanticKind = .toolCall →
        ∃ calls, item.normalizedToolCallIds = .ok calls) ∧
      ∀ callId, callId ∈ calls ↔ ∃ item ∈ members, Declares item callId := by
  have mem_flatten (callId : String) :
      callId ∈ (((members.filter fun item => item.semanticKind = .toolCall).filterMap
        fun item => item.normalizedToolCallIds.toOption).flatten.toFinset) ↔
      ∃ item ∈ members, Declares item callId := by
    simp only [List.mem_toFinset, List.mem_flatten, List.mem_filterMap, List.mem_filter,
      decide_eq_true_eq]
    constructor
    · rintro ⟨calls, ⟨item, ⟨member, isCall⟩, read⟩, listed⟩
      refine ⟨item, member, isCall, calls, ?_, listed⟩
      cases outcome : item.normalizedToolCallIds with
      | error error =>
        rw [outcome] at read
        cases read
      | ok value =>
        rw [outcome] at read
        cases read
        rfl
    · rintro ⟨item, member, isCall, calls, read, listed⟩
      exact ⟨calls, ⟨item, ⟨member, isCall⟩, by rw [read]; rfl⟩, listed⟩
  have every_iff :
      (∀ item ∈ members.filter fun item => item.semanticKind = .toolCall,
        ∃ calls, item.normalizedToolCallIds = .ok calls) ↔
      ∀ item ∈ members, item.semanticKind = .toolCall →
        ∃ calls, item.normalizedToolCallIds = .ok calls := by
    simp only [List.mem_filter, decide_eq_true_eq, and_imp]
  rw [declaredCalls]
  constructor
  · intro returned
    obtain ⟨read, traversed, built⟩ := bind_ok returned
    obtain ⟨every, rfl⟩ := mapM_iff.mp traversed
    cases built
    exact ⟨every_iff.mp every, mem_flatten⟩
  · rintro ⟨every, same⟩
    rw [mapM_iff.mpr ⟨every_iff.mpr every, rfl⟩]
    change Except.ok (List.toFinset _) = _
    congr 1
    ext callId
    rw [mem_flatten, same]

theorem scopes_groupMembers {key : Option ToolCarrierScope × String}
    (listed : key ∈ groupKeys items) :
    ((groupMembers items key).map CanonicalItem.scope).dedup = [key.1] := by
  have every : ∀ scope ∈ (groupMembers items key).map CanonicalItem.scope, scope = key.1 := by
    intro scope member
    obtain ⟨item, itemMember, rfl⟩ := List.mem_map.mp member
    obtain ⟨-, -, rfl⟩ := mem_groupMembers.mp itemMember
    rfl
  obtain ⟨item, member, carries, same⟩ := mem_groupKeys.mp listed
  have inhabited : ((groupMembers items key).map CanonicalItem.scope).length ≠ 0 := by
    rw [List.length_map]
    exact List.length_pos_of_mem (mem_groupMembers.mpr ⟨member, carries, same⟩) |>.ne'
  rw [List.eq_replicate_of_mem every]
  exact List.replicate_dedup inhabited

theorem readGroup_groupMembers {key : Option ToolCarrierScope × String}
    (listed : key ∈ groupKeys items) :
    readGroup (groupMembers items key) =
      (declaredCalls (groupMembers items key)).map fun calls =>
        if calls = ∅ then none
        else key.1.map fun scope =>
          ⟨sinkOf (groupMembers items key), scope, calls, groupMembers items key⟩ := by
  rw [readGroup]
  cases outcome : declaredCalls (groupMembers items key) with
  | error error => rfl
  | ok calls =>
    change (if calls = ∅ then _ else _) = Except.ok (if calls = ∅ then _ else _)
    split
    · rfl
    · rw [scopes_groupMembers listed]
      cases key.1 <;> rfl

structure ToolGroup.At (group : ToolGroup) (items : List CanonicalItem)
    (key : Option ToolCarrierScope × String) : Prop where
  listed : key ∈ groupKeys items
  scope : key.1 = some group.scope
  members : group.members = groupMembers items key
  sink : group.sink = sinkOf group.members
  inhabited : group.calls ≠ ∅
  declared : declaredCalls group.members = .ok group.calls

theorem groupAt_eq_some {group : ToolGroup} {key : Option ToolCarrierScope × String}
    (listed : key ∈ groupKeys items) :
    groupAt items key = some group ↔ group.At items key := by
  rw [groupAt, readGroup_groupMembers listed]
  constructor
  · intro found
    cases declared : declaredCalls (groupMembers items key) with
    | error error =>
      rw [declared] at found
      cases found
    | ok calls =>
      rw [declared] at found
      change (some (if calls = ∅ then none else _)).join = some group at found
      split at found
      · cases found
      · rename_i inhabited
        cases inScope : key.1 with
        | none =>
          rw [inScope] at found
          cases found
        | some scope =>
          rw [inScope] at found
          cases found
          exact ⟨listed, inScope, rfl, rfl, inhabited, declared⟩
  · intro stands
    cases group with
    | mk sink scope calls members =>
      obtain ⟨-, inScope, sameMembers, sameSink, inhabited, declared⟩ := stands
      dsimp only at inScope sameMembers sameSink inhabited declared
      subst sameSink sameMembers
      rw [declared, inScope]
      change (some (if calls = ∅ then none else _)).join = _
      rw [if_neg inhabited]
      rfl

theorem mem_toolGroups {group : ToolGroup} :
    group ∈ toolGroups items ↔ ∃ key, group.At items key := by
  rw [toolGroups, List.mem_filterMap]
  constructor
  · rintro ⟨key, listed, found⟩
    exact ⟨key, (groupAt_eq_some listed).mp found⟩
  · rintro ⟨key, stands⟩
    exact ⟨key, stands.listed, (groupAt_eq_some stands.listed).mpr stands⟩

theorem group_eq_of_mem {first second : ToolGroup} (firstMember : first ∈ toolGroups items)
    (secondMember : second ∈ toolGroups items) (inFirst : item ∈ first.members)
    (inSecond : item ∈ second.members) : first = second := by
  obtain ⟨firstKey, firstAt⟩ := mem_toolGroups.mp firstMember
  obtain ⟨secondKey, secondAt⟩ := mem_toolGroups.mp secondMember
  rw [firstAt.members] at inFirst
  rw [secondAt.members] at inSecond
  obtain ⟨-, -, rfl⟩ := mem_groupMembers.mp inFirst
  obtain ⟨-, -, rfl⟩ := mem_groupMembers.mp inSecond
  exact Option.some.inj (((groupAt_eq_some firstAt.listed).mpr firstAt).symm.trans
    ((groupAt_eq_some secondAt.listed).mpr secondAt))

theorem readResults_ok {results : List CompletedResult} :
    readResults items = .ok results ↔
      (∀ item ∈ items, isCompletedResult item = true → ∃ result, readResult item = .ok result) ∧
        results = (items.filter isCompletedResult).filterMap fun item =>
          (readResult item).toOption := by
  rw [readResults, mapM_iff]
  simp only [List.mem_filter, and_imp]

def completedResults (items : List CanonicalItem) : List CompletedResult :=
  (items.filter isCompletedResult).filterMap fun item => (readResult item).toOption

theorem mem_completedResults {result : CompletedResult} :
    result ∈ completedResults items ↔
      result.item ∈ items ∧ isCompletedResult result.item = true ∧
        readResult result.item = .ok result := by
  have itself (item : CanonicalItem) (read : readResult item = .ok result) :
      result.item = item := by
    obtain ⟨callId, -, built⟩ := bind_ok read
    cases built
    rfl
  simp only [completedResults, List.mem_filterMap, List.mem_filter]
  constructor
  · rintro ⟨item, ⟨member, completed⟩, found⟩
    cases outcome : readResult item with
    | error error =>
      rw [outcome] at found
      cases found
    | ok value =>
      rw [outcome] at found
      cases found
      rw [itself item outcome]
      exact ⟨member, completed, outcome⟩
  · rintro ⟨member, completed, read⟩
    exact ⟨result.item, ⟨member, completed⟩, by rw [read]; rfl⟩

theorem mem_pairedGroups {groups : List ToolGroup} {pair : ToolGroup × ToolGroup} :
    pair ∈ pairedGroups groups ↔
      pair.1 ∈ groups ∧ pair.1.sink = .checkpoint ∧ pair.2 ∈ groups ∧ pair.2.sink = .stream ∧
        pair.1.scope = pair.2.scope ∧ pair.1.calls = pair.2.calls := by
  obtain ⟨checkpoint, stream⟩ := pair
  simp only [pairedGroups, List.mem_flatMap, List.mem_filter, List.mem_map, Prod.mk.injEq,
    ToolGroup.sameCalls, Bool.and_eq_true, decide_eq_true_eq]
  constructor
  · rintro ⟨first, ⟨firstMember, firstSink⟩, second, ⟨secondMember, secondSink, same⟩, rfl, rfl⟩
    exact ⟨firstMember, firstSink, secondMember, secondSink, same⟩
  · rintro ⟨firstMember, firstSink, secondMember, secondSink, same⟩
    exact ⟨checkpoint, ⟨firstMember, firstSink⟩, stream, ⟨secondMember, secondSink, same⟩,
      rfl, rfl⟩

def closes (items : List CanonicalItem) (checkpoint : ToolGroup) : Bool :=
  isClosed items (completedResults items) checkpoint

def closedPairs (items : List CanonicalItem) : List (ToolGroup × ToolGroup) :=
  (pairedGroups (toolGroups items)).filter fun pair => closes items pair.1

def openPairs (items : List CanonicalItem) : List (ToolGroup × ToolGroup) :=
  (pairedGroups (toolGroups items)).filter fun pair => !closes items pair.1

def Loses (items : List CanonicalItem) (group : ToolGroup) : Prop :=
  ∃ pair ∈ pairedGroups (toolGroups items),
    (closes items pair.1 = true ∧ group = pair.2) ∨ (closes items pair.1 = false ∧ group = pair.1)

def isShadow (items : List CanonicalItem) (result : CompletedResult) : Bool :=
  isShadowResult (completedResults items) ((closedPairs items).map Prod.fst)
    ((openPairs items).map Prod.fst) result

structure ToolsReadable (items : List CanonicalItem) : Prop where
  groups : ∀ key ∈ groupKeys items, ∃ calls, declaredCalls (groupMembers items key) = .ok calls
  unique : ((toolGroups items).map ToolGroup.registryKey).Nodup
  results : ∀ item ∈ items, isCompletedResult item = true → ∃ result, readResult item = .ok result

theorem supersededToolGroupItemIds_ok :
    supersededToolGroupItemIds items = .ok ids ↔
      ToolsReadable items ∧
        ids = ((closedPairs items).flatMap fun pair =>
            pair.2.members.map CanonicalItem.itemId) ++
          ((openPairs items).flatMap fun pair =>
            pair.1.members.map CanonicalItem.itemId) ++
          ((completedResults items).filter (isShadow items)).map fun result =>
            result.item.itemId := by
  have readable_iff (key : Option ToolCarrierScope × String) (listed : key ∈ groupKeys items) :
      (∃ result, readGroup (groupMembers items key) = .ok result) ↔
        ∃ calls, declaredCalls (groupMembers items key) = .ok calls := by
    rw [readGroup_groupMembers listed]
    cases declaredCalls (groupMembers items key) with
    | error error =>
      constructor
      · rintro ⟨_, ⟨⟩⟩
      · rintro ⟨_, ⟨⟩⟩
    | ok calls => exact ⟨fun _ => ⟨calls, rfl⟩, fun _ => ⟨_, rfl⟩⟩
  rw [supersededToolGroupItemIds]
  constructor
  · intro returned
    obtain ⟨groups, groupsRead, rest⟩ := bind_ok returned
    obtain ⟨results, resultsRead, built⟩ := bind_ok rest
    obtain ⟨every, rfl, unique⟩ := readGroups_ok.mp groupsRead
    obtain ⟨completed, rfl⟩ := readResults_ok.mp resultsRead
    refine ⟨⟨fun key listed => (readable_iff key listed).mp (every key listed), unique,
      completed⟩, ?_⟩
    exact (Except.ok.inj built).symm
  · rintro ⟨readable, rfl⟩
    have groupsRead := readGroups_ok.mpr
      ⟨fun key listed => (readable_iff key listed).mpr (readable.groups key listed), rfl,
        readable.unique⟩
    have resultsRead := readResults_ok.mpr ⟨readable.results, rfl⟩
    rw [groupsRead]
    change (readResults items >>= _) = _
    rw [resultsRead]
    rfl

end GraphAgent.Carriers
