import GraphAgent.CarrierStability
import Mathlib.Algebra.Order.BigOperators.Group.List
import Mathlib.Algebra.Order.Group.Nat
import Mathlib.Data.List.MinMax

/-!
# What stands for a removed carrier

A revised item has the last revision of its chain, a losing group has its
counterpart, a result has the result of the other sink, and a named part has its
carrier.  Where each model call has one group for each sink, no call and no
result is lost or doubled.
-/

namespace GraphAgent.Carriers

open Relation

variable {items : List CanonicalItem} {ids : List String} {item : CanonicalItem}

def Revises (items : List CanonicalItem) (later earlier : CanonicalItem) : Prop :=
  later ∈ items ∧ earlier ∈ items ∧ revises later earlier.itemId = true

theorem Revises.sequence (distinct : Distinct items) (readable : Readable items)
    {later earlier : CanonicalItem} (revised : Revises items later earlier) :
    earlier.itemSequence < later.itemSequence := by
  obtain ⟨laterMember, earlierMember, names⟩ := revised
  have checked := readable.revisions later laterMember
  unfold checkRevision at checked
  split at checked
  · rename_i none
    rw [Carriers.revises, none] at names
    cases names
  · rename_i relation only
    have target : relation.targetId = earlier.itemId := by
      rw [Carriers.revises, only] at names
      simpa using names
    split at checked
    · cases checked
    · have found : (items.find? fun previous => previous.itemId = relation.targetId) =
          some earlier := by
        rw [target]
        exact KeyedRows.fetch_of_mem distinct earlierMember
      rw [found] at checked
      dsimp only at checked
      split at checked
      · rename_i valid
        rw [validRevision, Bool.and_eq_true, decide_eq_true_eq] at valid
        exact valid.1
      · cases checked
  · cases checked

theorem itemSequence_le_sum (member : item ∈ items) :
    item.itemSequence ≤ (items.map CanonicalItem.itemSequence).sum :=
  List.le_sum_of_mem (List.mem_map_of_mem member)

theorem exists_lastRevision (distinct : Distinct items) (readable : Readable items)
    (member : item ∈ items) (replaced : isReplaced items item = true) :
    ∃ last, TransGen (Revises items) last item ∧ isReplaced items last = false := by
  -- Sequence numbers rise along a chain and are bounded by their sum.
  have reaches : ∀ fuel, ∀ previous ∈ items, isReplaced items previous = true →
      (items.map CanonicalItem.itemSequence).sum ≤ previous.itemSequence + fuel →
      ∃ last, TransGen (Revises items) last previous ∧ isReplaced items last = false := by
    intro fuel
    induction fuel with
    | zero =>
      intro previous previousMember isPrevious bound
      obtain ⟨later, laterMember, names⟩ := List.any_eq_true.mp isPrevious
      have rises := Revises.sequence distinct readable ⟨laterMember, previousMember, names⟩
      have below := itemSequence_le_sum laterMember
      omega
    | succ fuel ih =>
      intro previous previousMember isPrevious bound
      obtain ⟨later, laterMember, names⟩ := List.any_eq_true.mp isPrevious
      have revised : Revises items later previous := ⟨laterMember, previousMember, names⟩
      have rises := revised.sequence distinct readable
      cases again : isReplaced items later with
      | false => exact ⟨later, .single revised, again⟩
      | true =>
        obtain ⟨last, chain, final⟩ := ih later laterMember again (by omega)
        exact ⟨last, chain.tail revised, final⟩
  exact reaches _ item member replaced (Nat.le_add_left _ _)

def DeclaredTwice (items : List CanonicalItem) (call : ScopedCall) : Prop :=
  ∃ first ∈ toolGroups items, ∃ second ∈ toolGroups items, first ≠ second ∧
    first.sink = .checkpoint ∧ second.sink = .checkpoint ∧
    first.declares call = true ∧ second.declares call = true

def GivesWay (items : List CanonicalItem) (item : CanonicalItem) : Prop :=
  LosesCarrier (selected items) item ∨ ShadowResult (selected items) item ∨
    isNamed (selected items) item = true

inductive Represented (items : List CanonicalItem) (ids : List String)
    (item : CanonicalItem) : Prop
  | revised {previous last : CanonicalItem} (member : previous ∈ items)
      (same : previous = item ∨
        (previous.messageGroupId.isSome = true ∧ previous.messageGroupId = item.messageGroupId))
      (chain : TransGen (Revises items) last previous)
      (final : isReplaced items last = false)
      (stays : last ∈ kept items ids ∨ inReplacedGroup items last = true ∨ GivesWay items last)
  | grouped {own other : ToolGroup} (member : item ∈ own.members)
      (counterparts : Counterparts own other)
      (stays : ∀ carrier ∈ other.members, carrier ∈ kept items ids ∨
        (carrier.semanticKind = .reasoning ∧ isNamed (selected items) carrier = true))
  | answered {own other : CompletedResult} (own_item : own.item = item)
      (call : own.call = other.call)
      (sink : own.item.isCheckpointCarrier ≠ other.item.isCheckpointCarrier)
      (completed : other ∈ completedResults (selected items))
      (stays : other.item ∈ kept items ids ∨ DeclaredTwice (selected items) own.call)
  | named {carrier : CanonicalItem} (member : carrier ∈ selected items)
      (names : names carrier item = true)
      (stays : carrier ∈ kept items ids ∨ GivesWay items carrier)

theorem isShadow_iff {result : CompletedResult} :
    isShadow items result = true ↔
      (result.item.isCheckpointCarrier = false ∧
        ∃ pair ∈ pairedGroups (toolGroups items), closes items pair.1 = true ∧
          pair.1.declares result.call = true) ∨
      (result.item.isCheckpointCarrier = true ∧
        (∃ pair ∈ pairedGroups (toolGroups items), closes items pair.1 = false ∧
          pair.1.declares result.call = true) ∧
        ∃ other ∈ completedResults items, other.item.isCheckpointCarrier = false ∧
          other.call = result.call) := by
  simp only [isShadow, isShadowResult, closedPairs, openPairs, Bool.or_eq_true, Bool.and_eq_true,
    Bool.not_eq_true', List.any_eq_true, List.mem_map, List.mem_filter, decide_eq_true_eq]
  constructor
  · rintro (⟨sink, group, ⟨pair, ⟨paired, closed⟩, rfl⟩, declares⟩ |
      ⟨⟨sink, group, ⟨pair, ⟨paired, open_⟩, rfl⟩, declares⟩, other⟩)
    · exact .inl ⟨sink, pair, paired, closed, declares⟩
    · exact .inr ⟨sink, ⟨pair, paired, open_, declares⟩, other⟩
  · rintro (⟨sink, pair, paired, closed, declares⟩ |
      ⟨sink, ⟨pair, paired, open_, declares⟩, other⟩)
    · exact .inl ⟨sink, pair.1, ⟨pair, ⟨paired, closed⟩, rfl⟩, declares⟩
    · exact .inr ⟨⟨sink, pair.1, ⟨pair, ⟨paired, open_⟩, rfl⟩, declares⟩, other⟩

theorem result_kept (distinct : Distinct items) {result : CompletedResult}
    (completed : result ∈ completedResults (selected items))
    (stands : isShadow (selected items) result = false) :
    result.item ∈ kept items (removedIds items) := by
  obtain ⟨chosen, isResult, read⟩ := mem_completedResults.mp completed
  have kind : result.item.semanticKind = .toolResult := by
    rw [isCompletedResult, Bool.and_eq_true, decide_eq_true_eq] at isResult
    exact isResult.1
  refine (mem_kept_removedIds distinct).mpr ⟨chosen, ?_, ?_, ?_⟩
  · rintro ⟨group, loses, member⟩
    have carries := (mem_of_mem_group loses.mem member).2.1
    rw [not_completedResult carries] at isResult
    cases isResult
  · rintro ⟨other, otherCompleted, shadow, same⟩
    have otherRead := (mem_completedResults.mp otherCompleted).2.2
    rw [same, read] at otherRead
    rw [← Except.ok.inj otherRead, stands] at shadow
    cases shadow
  · rw [← Bool.not_eq_true]
    intro named
    obtain ⟨carrier, -, names⟩ := List.any_eq_true.mp named
    simp [Carriers.names, kind] at names

theorem closes_result {group : ToolGroup} (closed : closes items group = true) {callId : String}
    (declared : callId ∈ group.calls) :
    ∃ result ∈ completedResults items, result.item.isCheckpointCarrier = true ∧
      result.call = (some group.scope, callId) ∧
      ∀ member ∈ group.members, position items member < position items result.item := by
  rw [closes, isClosed, decide_eq_true_eq] at closed
  have found := closed callId declared
  rw [checkpointResult, Option.any_map, Option.any_eq_true] at found
  obtain ⟨result, last, after⟩ := found
  obtain ⟨completed, facts⟩ := List.mem_filter.mp (List.mem_of_getLast? last)
  rw [Bool.and_eq_true, decide_eq_true_eq] at facts
  refine ⟨result, completed, facts.1, facts.2, ?_⟩
  intro member listed
  rw [decide_eq_true_eq] at after
  refine lt_of_le_of_lt ?_ after
  exact List.le_max_of_le' 0 (List.mem_map_of_mem listed) le_rfl

theorem stays_or_givesWay (distinct : Distinct items) (chosen : item ∈ selected items) :
    item ∈ kept items (removedIds items) ∨ GivesWay items item := by
  rw [mem_kept_removedIds distinct, GivesWay, ← Bool.not_eq_true]
  tauto

theorem lastRevision_stays (distinct : Distinct items) (member : item ∈ items)
    (final : isReplaced items item = false) :
    item ∈ kept items (removedIds items) ∨ inReplacedGroup items item = true ∨
      GivesWay items item := by
  cases grouped : inReplacedGroup items item with
  | true => exact .inr (.inl rfl)
  | false =>
    have chosen : item ∈ selected items :=
      mem_selected.mpr ⟨member, by rw [isRevised, final, grouped]; rfl⟩
    rcases stays_or_givesWay distinct chosen with stays | givesWay
    · exact .inl stays
    · exact .inr (.inr givesWay)

theorem Revises.last_mem {first last : CanonicalItem}
    (chain : TransGen (Revises items) last first) : last ∈ items := by
  induction chain with
  | single revised => exact revised.1
  | tail _ _ ih => exact ih

theorem represented (distinct : Distinct items) (readable : Readable items) (member : item ∈ items)
    (removed : item.itemId ∈ removedIds items) : Represented items (removedIds items) item := by
  by_cases chosen : item ∈ selected items
  · have still : Distinct (selected items) := distinct.filter _
    have unrevised := (mem_selected.mp chosen).2
    simp only [removedIds, List.mem_append, distinct.mem_ids member, unrevised,
      mem_shadowIds still chosen, still.mem_ids chosen] at removed
    rcases removed with (revised | loses | ⟨result, completed, shadow, rfl⟩) | named
    · cases revised
    · obtain ⟨own, ownLoses, inOwn⟩ := loses
      obtain ⟨other, otherListed, counterparts⟩ := ownLoses.counterpart
      have stands := (counterparts.loses_iff readable.tools ownLoses.mem otherListed).mp ownLoses
      exact .grouped inOwn counterparts fun carrier listed =>
        winner_kept distinct otherListed stands listed
    · rcases isShadow_iff.mp shadow with ⟨sink, pair, paired, closed, declares⟩ |
        ⟨sink, ⟨pair, paired, open_, declares⟩, other, otherCompleted, otherSink, otherCall⟩
      · rw [ToolGroup.declares, Bool.and_eq_true, decide_eq_true_eq, decide_eq_true_eq]
          at declares
        obtain ⟨other, otherCompleted, otherSink, otherCall, -⟩ :=
          closes_result closed declares.2
        have sameCall : result.call = other.call := by
          rw [otherCall, ← declares.1]
        refine .answered rfl sameCall (by rw [sink, otherSink]; simp) otherCompleted ?_
        cases otherShadow : isShadow (selected items) other with
        | false => exact .inl (result_kept distinct otherCompleted otherShadow)
        | true =>
          right
          rcases isShadow_iff.mp otherShadow with ⟨otherStream, -⟩ |
            ⟨-, ⟨second, secondPaired, secondOpen, secondDeclares⟩, -⟩
          · rw [otherSink] at otherStream
            cases otherStream
          · obtain ⟨firstListed, firstSink, -⟩ := mem_pairedGroups.mp paired
            obtain ⟨secondListed, secondSink, -⟩ := mem_pairedGroups.mp secondPaired
            refine ⟨pair.1, firstListed, second.1, secondListed, ?_, firstSink, secondSink,
              ?_, ?_⟩
            · intro same
              rw [same, secondOpen] at closed
              cases closed
            · rw [ToolGroup.declares, Bool.and_eq_true, decide_eq_true_eq, decide_eq_true_eq]
              exact declares
            · rw [sameCall]
              exact secondDeclares
      · refine .answered rfl otherCall.symm (by rw [sink, otherSink]; simp) otherCompleted ?_
        cases otherShadow : isShadow (selected items) other with
        | false => exact .inl (result_kept distinct otherCompleted otherShadow)
        | true =>
          right
          rcases isShadow_iff.mp otherShadow with
            ⟨-, second, secondPaired, secondClosed, secondDeclares⟩ | ⟨otherCheckpoint, -⟩
          · obtain ⟨firstListed, firstSink, -⟩ := mem_pairedGroups.mp paired
            obtain ⟨secondListed, secondSink, -⟩ := mem_pairedGroups.mp secondPaired
            refine ⟨pair.1, firstListed, second.1, secondListed, ?_, firstSink, secondSink,
              declares, ?_⟩
            · intro same
              rw [same, secondClosed] at open_
              cases open_
            · rw [← otherCall]
              exact secondDeclares
          · rw [otherSink] at otherCheckpoint
            cases otherCheckpoint
    · obtain ⟨carrier, carrierMember, names⟩ := List.any_eq_true.mp named
      exact .named carrierMember names (stays_or_givesWay distinct carrierMember)
  · have revised : isRevised items item = true := by
      rw [mem_selected, not_and] at chosen
      exact Bool.not_eq_false _ ▸ chosen member
    rw [isRevised, Bool.or_eq_true] at revised
    rcases revised with replaced | grouped
    · obtain ⟨last, chain, final⟩ := exists_lastRevision distinct readable member replaced
      exact .revised member (.inl rfl) chain final
        (lastRevision_stays distinct (Revises.last_mem chain) final)
    · obtain ⟨previous, previousMember, facts⟩ := List.any_eq_true.mp grouped
      rw [Bool.and_eq_true, Bool.and_eq_true, decide_eq_true_eq] at facts
      obtain ⟨last, chain, final⟩ :=
        exists_lastRevision distinct readable previousMember facts.1.1
      exact .revised previousMember (.inr ⟨facts.1.2, facts.2⟩) chain final
        (lastRevision_stays distinct (Revises.last_mem chain) final)

end GraphAgent.Carriers
