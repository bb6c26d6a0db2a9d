import GraphAgent.CarrierRules

/-!
# What a deduplication keeps

Which items the three rules leave, why a second deduplication removes nothing,
and what stands for every item that was removed.
-/

namespace GraphAgent.Carriers

open KeyedRows Transaction

variable {items : List CanonicalItem} {ids : List String} {item : CanonicalItem}

def LosesCarrier (items : List CanonicalItem) (item : CanonicalItem) : Prop :=
  ∃ group, Loses items group ∧ item ∈ group.members

def ShadowResult (items : List CanonicalItem) (item : CanonicalItem) : Prop :=
  ∃ result ∈ completedResults items, isShadow items result = true ∧ result.item = item

theorem Loses.mem {group : ToolGroup} (loses : Loses items group) :
    group ∈ toolGroups items := by
  obtain ⟨pair, paired, ⟨-, rfl⟩ | ⟨-, rfl⟩⟩ := loses
  · exact (mem_pairedGroups.mp paired).2.2.1
  · exact (mem_pairedGroups.mp paired).1

theorem mem_of_mem_group {group : ToolGroup} (listed : group ∈ toolGroups items)
    (member : item ∈ group.members) :
    item ∈ items ∧ isToolCarrier item = true ∧ item.scope = some group.scope := by
  obtain ⟨key, stands⟩ := mem_toolGroups.mp listed
  rw [stands.members] at member
  obtain ⟨inItems, carries, rfl⟩ := mem_groupMembers.mp member
  exact ⟨inItems, carries, stands.scope⟩

theorem not_completedResult (carries : isToolCarrier item = true) :
    isCompletedResult item = false := by
  simp only [isToolCarrier, isCompletedResult, Bool.or_eq_true, decide_eq_true_eq] at carries ⊢
  rcases carries with kind | kind <;> rw [kind] <;> rfl

def shadowIds (items : List CanonicalItem) : List String :=
  ((closedPairs items).flatMap fun pair => pair.2.members.map CanonicalItem.itemId) ++
    ((openPairs items).flatMap fun pair => pair.1.members.map CanonicalItem.itemId) ++
    ((completedResults items).filter (isShadow items)).map fun result => result.item.itemId

theorem mem_shadowIds (distinct : Distinct items) (member : item ∈ items) :
    item.itemId ∈ shadowIds items ↔ LosesCarrier items item ∨ ShadowResult items item := by
  have same {other : CanonicalItem} (otherMember : other ∈ items)
      (equal : other.itemId = item.itemId) : other = item :=
    eq_of_key_eq distinct otherMember member equal
  simp only [shadowIds, List.mem_append, List.mem_flatMap, List.mem_map, List.mem_filter,
    closedPairs, openPairs, Bool.not_eq_true']
  constructor
  · rintro ((⟨pair, ⟨paired, closed⟩, other, listed, equal⟩ |
      ⟨pair, ⟨paired, open_⟩, other, listed, equal⟩) | ⟨result, ⟨listed, shadow⟩, equal⟩)
    · have inItems := (mem_of_mem_group (mem_pairedGroups.mp paired).2.2.1 listed).1
      cases same inItems equal
      exact .inl ⟨pair.2, ⟨pair, paired, .inl ⟨closed, rfl⟩⟩, listed⟩
    · have inItems := (mem_of_mem_group (mem_pairedGroups.mp paired).1 listed).1
      cases same inItems equal
      exact .inl ⟨pair.1, ⟨pair, paired, .inr ⟨open_, rfl⟩⟩, listed⟩
    · exact .inr ⟨result, listed, shadow, same (mem_completedResults.mp listed).1 equal⟩
  · rintro (⟨group, ⟨pair, paired, ⟨closed, rfl⟩ | ⟨open_, rfl⟩⟩, listed⟩ |
      ⟨result, listed, shadow, rfl⟩)
    · exact .inl (.inl ⟨pair, ⟨paired, closed⟩, item, listed, rfl⟩)
    · exact .inl (.inr ⟨pair, ⟨paired, open_⟩, item, listed, rfl⟩)
    · exact .inr ⟨result, ⟨listed, shadow⟩, rfl⟩

structure Readable (items : List CanonicalItem) : Prop where
  revisions : ∀ item ∈ items, checkRevision items item = .ok ()
  tools : ToolsReadable (selected items)
  parts : ∀ item ∈ selected items, checkPartScopes item = .ok ()

def removedIds (items : List CanonicalItem) : List String :=
  (items.filter (isRevised items)).map CanonicalItem.itemId ++ shadowIds (selected items) ++
    ((selected items).filter (isNamed (selected items))).map CanonicalItem.itemId

theorem supersededItemIds_ok (distinct : Distinct items) :
    supersededItemIds items = .ok ids ↔ Readable items ∧ ids = removedIds items := by
  rw [supersededItemIds]
  constructor
  · intro returned
    obtain ⟨replaced, revised, afterRevisions⟩ := bind_ok returned
    obtain ⟨shadows, tools, afterTools⟩ := bind_ok afterRevisions
    obtain ⟨parts, named, built⟩ := bind_ok afterTools
    obtain ⟨revisions, rfl⟩ := supersededCanonicalMessageItemIds_ok.mp revised
    rw [kept_revised distinct] at tools named
    obtain ⟨toolsReadable, rfl⟩ := supersededToolGroupItemIds_ok.mp tools
    obtain ⟨partsReadable, rfl⟩ := supersededStreamContentItemIds_ok.mp named
    exact ⟨⟨revisions, toolsReadable, partsReadable⟩, (Except.ok.inj built).symm⟩
  · rintro ⟨readable, rfl⟩
    rw [supersededCanonicalMessageItemIds_ok.mpr ⟨readable.revisions, rfl⟩]
    change (supersededToolGroupItemIds (kept items _) >>= _) = _
    rw [kept_revised distinct, supersededToolGroupItemIds_ok.mpr ⟨readable.tools, rfl⟩]
    change (supersededStreamContentItemIds (selected items) >>= _) = _
    rw [supersededStreamContentItemIds_ok.mpr ⟨readable.parts, rfl⟩]
    rfl

theorem mem_selected : item ∈ selected items ↔ item ∈ items ∧ isRevised items item = false := by
  simp [selected]

theorem mem_kept_removedIds (distinct : Distinct items) :
    item ∈ kept items (removedIds items) ↔
      item ∈ selected items ∧ ¬ LosesCarrier (selected items) item ∧
        ¬ ShadowResult (selected items) item ∧ isNamed (selected items) item = false := by
  rw [mem_kept]
  constructor
  · rintro ⟨member, unlisted⟩
    simp only [removedIds, List.mem_append, not_or, distinct.mem_ids member] at unlisted
    obtain ⟨⟨unrevised, unshadowed⟩, unnamed⟩ := unlisted
    have chosen : item ∈ selected items := mem_selected.mpr ⟨member, Bool.not_eq_true _ ▸ unrevised⟩
    have still : Distinct (selected items) := distinct.filter _
    rw [mem_shadowIds still chosen, not_or] at unshadowed
    rw [still.mem_ids chosen] at unnamed
    exact ⟨chosen, unshadowed.1, unshadowed.2, Bool.not_eq_true _ ▸ unnamed⟩
  · rintro ⟨chosen, unbeaten, answered, unnamed⟩
    obtain ⟨member, unrevised⟩ := mem_selected.mp chosen
    have still : Distinct (selected items) := distinct.filter _
    refine ⟨member, ?_⟩
    simp only [removedIds, List.mem_append, not_or, distinct.mem_ids member,
      mem_shadowIds still chosen, still.mem_ids chosen, unrevised, unnamed]
    exact ⟨⟨Bool.false_ne_true, unbeaten, answered⟩, Bool.false_ne_true⟩

structure Counterparts (own other : ToolGroup) : Prop where
  sink : own.sink ≠ other.sink
  scope : own.scope = other.scope
  calls : own.calls = other.calls

theorem Counterparts.symm {own other : ToolGroup} (counterparts : Counterparts own other) :
    Counterparts other own :=
  ⟨counterparts.sink.symm, counterparts.scope.symm, counterparts.calls.symm⟩

theorem eq_of_registryKey (readable : ToolsReadable items) {first second : ToolGroup}
    (firstMember : first ∈ toolGroups items) (secondMember : second ∈ toolGroups items)
    (sink : first.sink = second.sink) (scope : first.scope = second.scope)
    (calls : first.calls = second.calls) : first = second := by
  refine eq_of_key_eq readable.unique firstMember secondMember ?_
  simp only [ToolGroup.registryKey, sink, scope, calls]

theorem Counterparts.loses_iff (readable : ToolsReadable items) {own other : ToolGroup}
    (ownMember : own ∈ toolGroups items) (otherMember : other ∈ toolGroups items)
    (counterparts : Counterparts own other) : Loses items own ↔ ¬ Loses items other := by
  have decided {checkpoint stream : ToolGroup} (checkpointMember : checkpoint ∈ toolGroups items)
      (streamMember : stream ∈ toolGroups items) (checkpointSink : checkpoint.sink = .checkpoint)
      (streamSink : stream.sink = .stream) (scope : checkpoint.scope = stream.scope)
      (calls : checkpoint.calls = stream.calls) :
      (Loses items checkpoint ↔ closes items checkpoint = false) ∧
        (Loses items stream ↔ closes items checkpoint = true) := by
    have paired : (checkpoint, stream) ∈ pairedGroups (toolGroups items) :=
      mem_pairedGroups.mpr
        ⟨checkpointMember, checkpointSink, streamMember, streamSink, scope, calls⟩
    constructor
    · constructor
      · rintro ⟨pair, pairListed, ⟨-, rfl⟩ | ⟨open_, rfl⟩⟩
        · rw [(mem_pairedGroups.mp pairListed).2.2.2.1] at checkpointSink
          cases checkpointSink
        · exact open_
      · intro open_
        exact ⟨_, paired, .inr ⟨open_, rfl⟩⟩
    · constructor
      · rintro ⟨pair, pairListed, ⟨closed, rfl⟩ | ⟨-, rfl⟩⟩
        · obtain ⟨listed, sink, -, -, pairScope, pairCalls⟩ := mem_pairedGroups.mp pairListed
          rwa [eq_of_registryKey readable listed checkpointMember (sink.trans checkpointSink.symm)
            (pairScope.trans scope.symm) (pairCalls.trans calls.symm)] at closed
        · rw [(mem_pairedGroups.mp pairListed).2.1] at streamSink
          cases streamSink
      · intro closed
        exact ⟨_, paired, .inl ⟨closed, rfl⟩⟩
  cases ownSink : own.sink with
  | checkpoint =>
    have otherSink : other.sink = .stream := by
      cases sink : other.sink with
      | checkpoint => exact absurd (ownSink.trans sink.symm) counterparts.sink
      | stream => rfl
    obtain ⟨first, second⟩ := decided ownMember otherMember ownSink otherSink
      counterparts.scope counterparts.calls
    rw [first, second, Bool.not_eq_true]
  | stream =>
    have otherSink : other.sink = .checkpoint := by
      cases sink : other.sink with
      | checkpoint => rfl
      | stream => exact absurd (ownSink.trans sink.symm) counterparts.sink
    obtain ⟨first, second⟩ := decided otherMember ownMember otherSink ownSink
      counterparts.scope.symm counterparts.calls.symm
    rw [first, second, Bool.not_eq_false]

theorem Loses.counterpart {group : ToolGroup} (loses : Loses items group) :
    ∃ other ∈ toolGroups items, Counterparts group other := by
  obtain ⟨pair, paired, ⟨-, rfl⟩ | ⟨-, rfl⟩⟩ := loses
  · obtain ⟨firstMember, firstSink, -, secondSink, scope, calls⟩ := mem_pairedGroups.mp paired
    refine ⟨pair.1, firstMember, ?_, scope.symm, calls.symm⟩
    rw [firstSink, secondSink]
    nofun
  · obtain ⟨-, firstSink, secondMember, secondSink, scope, calls⟩ := mem_pairedGroups.mp paired
    refine ⟨pair.2, secondMember, ?_, scope, calls⟩
    rw [firstSink, secondSink]
    nofun

theorem eq_of_unbeaten (readable : ToolsReadable items) {first second : ToolGroup}
    (firstMember : first ∈ toolGroups items) (secondMember : second ∈ toolGroups items)
    (scope : first.scope = second.scope) (calls : first.calls = second.calls)
    (firstStands : ¬ Loses items first) (secondStands : ¬ Loses items second) :
    first = second := by
  by_cases sink : first.sink = second.sink
  · exact eq_of_registryKey readable firstMember secondMember sink scope calls
  · have decided := Counterparts.loses_iff readable firstMember secondMember ⟨sink, scope, calls⟩
    exact absurd (decided.mpr secondStands) firstStands

theorem not_losesCarrier {group : ToolGroup} (listed : group ∈ toolGroups items)
    (stands : ¬ Loses items group) (member : item ∈ group.members) :
    ¬ LosesCarrier items item := by
  rintro ⟨loser, loses, inLoser⟩
  exact stands (group_eq_of_mem loses.mem listed inLoser member ▸ loses)

theorem not_shadowResult (carries : isToolCarrier item = true) : ¬ ShadowResult items item := by
  rintro ⟨result, listed, -, rfl⟩
  have completed := (mem_completedResults.mp listed).2.1
  rw [not_completedResult carries] at completed
  cases completed

theorem winner_kept (distinct : Distinct items) {group : ToolGroup}
    (listed : group ∈ toolGroups (selected items)) (stands : ¬ Loses (selected items) group)
    (member : item ∈ group.members) :
    item ∈ kept items (removedIds items) ∨
      (item.semanticKind = .reasoning ∧ isNamed (selected items) item = true) := by
  obtain ⟨chosen, carries, -⟩ := mem_of_mem_group listed member
  cases named : isNamed (selected items) item with
  | false =>
    exact .inl ((mem_kept_removedIds distinct).mpr
      ⟨chosen, not_losesCarrier listed stands member, not_shadowResult carries, named⟩)
  | true =>
    obtain ⟨carrier, -, names⟩ := List.any_eq_true.mp named
    exact .inr ⟨names_toolCarrier names carries, rfl⟩

theorem call_kept (distinct : Distinct items) {group : ToolGroup}
    (listed : group ∈ toolGroups (selected items)) (stands : ¬ Loses (selected items) group)
    (member : item ∈ group.members) (isCall : item.semanticKind = .toolCall) :
    item ∈ kept items (removedIds items) := by
  rcases winner_kept distinct listed stands member with stays | ⟨reasoning, -⟩
  · exact stays
  · rw [isCall] at reasoning
    cases reasoning

end GraphAgent.Carriers
