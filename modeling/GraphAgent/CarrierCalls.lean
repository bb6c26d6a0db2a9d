import GraphAgent.CarrierRepresentation

/-!
# The calls and results of two counterparts

Where the two sinks have groups for the same calls of a scope, one group stays
with its declarations.  The results of a call that stay are those of its sink,
or those of the checkpoint when the stream has none.
-/

namespace GraphAgent.Carriers

open Relation

variable {items : List CanonicalItem} {ids : List String} {item : CanonicalItem}

def OneGroupPerSink (items : List CanonicalItem) : Prop :=
  ∀ first ∈ toolGroups items, ∀ second ∈ toolGroups items,
    first.sink = second.sink → first.scope = second.scope → first = second

def ToolGroup.DeclaresOnce (group : ToolGroup) (callId : String) : Prop :=
  ∃! item, item ∈ group.members ∧ Declares item callId

def Answers (items : List CanonicalItem) (call : ScopedCall) (result : CompletedResult) : Prop :=
  result ∈ completedResults items ∧ result.call = call

/-- Each sink has at most one completed result of a call. -/
def AnswersOnce (items : List CanonicalItem) (call : ScopedCall) : Prop :=
  ∀ first second, Answers items call first → Answers items call second →
    first.item.isCheckpointCarrier = second.item.isCheckpointCarrier → first = second

def sink (item : CanonicalItem) : Sink :=
  if item.isCheckpointCarrier then .checkpoint else .stream

theorem sink_eq_checkpoint : sink item = .checkpoint ↔ item.isCheckpointCarrier = true := by
  cases carrier : item.isCheckpointCarrier <;> simp [sink, carrier]

theorem sink_eq_stream : sink item = .stream ↔ item.isCheckpointCarrier = false := by
  cases carrier : item.isCheckpointCarrier <;> simp [sink, carrier]

structure Settled (items : List CanonicalItem) (ids : List String)
    (winner loser : ToolGroup) : Prop where
  counterparts : Counterparts winner loser
  declarations : ∀ item ∈ winner.members, item.semanticKind = .toolCall → item ∈ kept items ids
  removed : ∀ item ∈ loser.members, item ∉ kept items ids
  answered : ∀ callId ∈ winner.calls,
    (∃ result, Answers (selected items) (some winner.scope, callId) result) →
    ∃ result, Answers (selected items) (some winner.scope, callId) result ∧
      result.item ∈ kept items ids
  answeredOnce : ∀ callId ∈ winner.calls, AnswersOnce (selected items) (some winner.scope, callId) →
    ∀ first second, Answers (selected items) (some winner.scope, callId) first →
      Answers (selected items) (some winner.scope, callId) second →
      first.item ∈ kept items ids → second.item ∈ kept items ids → first = second
  follows : ∀ callId ∈ winner.calls, ∀ result,
    Answers (selected items) (some winner.scope, callId) result → result.item ∈ kept items ids →
    (sink result.item = winner.sink ∧ ∀ item ∈ winner.members, Declares item callId →
      [item, result.item].Sublist items → [item, result.item].Sublist (kept items ids)) ∨
    (winner.sink = .stream ∧ ∀ other, Answers (selected items) (some winner.scope, callId) other →
      sink other.item = .checkpoint)

theorem exists_group (readable : ToolsReadable items) {scope : ToolCarrierScope}
    (member : item ∈ items) (inScope : item.scope = some scope) {callId : String}
    (declares : Declares item callId) :
    ∃ group ∈ toolGroups items, group.scope = scope ∧ item ∈ group.members := by
  have carries : isToolCarrier item = true := by
    rw [isToolCarrier, declares.1]
    rfl
  have listed : groupKey item ∈ groupKeys items := mem_groupKeys.mpr ⟨item, member, carries, rfl⟩
  have inMembers : item ∈ groupMembers items (groupKey item) :=
    mem_groupMembers.mpr ⟨member, carries, rfl⟩
  obtain ⟨calls, declared⟩ := readable.groups _ listed
  have inCalls : callId ∈ calls := ((declaredCalls_ok.mp declared).2 callId).mpr
    ⟨item, inMembers, declares⟩
  let group : ToolGroup :=
    ⟨sinkOf (groupMembers items (groupKey item)), scope, calls,
      groupMembers items (groupKey item)⟩
  have stands : group.At items (groupKey item) :=
    ⟨listed, inScope, rfl, rfl, Finset.ne_empty_of_mem inCalls, declared⟩
  exact ⟨group, mem_toolGroups.mpr ⟨_, stands⟩, rfl, inMembers⟩

theorem call_of_member {group : ToolGroup} (listed : group ∈ toolGroups items) {callId : String}
    (member : item ∈ group.members) (declares : Declares item callId) : callId ∈ group.calls := by
  obtain ⟨key, stands⟩ := mem_toolGroups.mp listed
  exact ((declaredCalls_ok.mp stands.declared).2 callId).mpr ⟨item, member, declares⟩

theorem OneGroupPerSink.cases (single : OneGroupPerSink items) {winner loser group : ToolGroup}
    (winnerMember : winner ∈ toolGroups items) (loserMember : loser ∈ toolGroups items)
    (counterparts : Counterparts winner loser) (member : group ∈ toolGroups items)
    (scope : group.scope = winner.scope) : group = winner ∨ group = loser := by
  by_cases same : group.sink = winner.sink
  · exact .inl (single group member winner winnerMember same scope)
  · have other : group.sink = loser.sink := by
      have differ := counterparts.sink
      cases groupSink : group.sink <;> cases winnerSink : winner.sink <;>
        cases loserSink : loser.sink <;> simp_all
    exact .inr (single group member loser loserMember other (scope.trans counterparts.scope))

theorem loser_removed (distinct : Distinct items) {group : ToolGroup}
    (loses : Loses (selected items) group) :
    ∀ item ∈ group.members, item ∉ kept items (removedIds items) := by
  intro item member stays
  exact ((mem_kept_removedIds distinct).mp stays).2.1 ⟨group, loses, member⟩

theorem not_shadow_of_kept (distinct : Distinct items) {result : CompletedResult}
    (completed : result ∈ completedResults (selected items))
    (stays : result.item ∈ kept items (removedIds items)) :
    isShadow (selected items) result = false := by
  rw [← Bool.not_eq_true]
  intro shadow
  exact ((mem_kept_removedIds distinct).mp stays).2.2.1 ⟨result, completed, shadow, rfl⟩

theorem kept_source (distinct : Distinct items) (readable : Readable items)
    {winner loser : ToolGroup} (winnerMember : winner ∈ toolGroups (selected items))
    (loses : Loses (selected items) loser) (counterparts : Counterparts winner loser)
    {callId : String} (declared : callId ∈ winner.calls) {result : CompletedResult}
    (answers : Answers (selected items) (some winner.scope, callId) result)
    (stays : result.item ∈ kept items (removedIds items)) :
    sink result.item = winner.sink ∨ (winner.sink = .stream ∧
      ∀ other, Answers (selected items) (some winner.scope, callId) other →
        sink other.item = .checkpoint) := by
  have standing := not_shadow_of_kept distinct answers.1 stays
  have declares : winner.declares result.call = true := by
    rw [ToolGroup.declares, answers.2, Bool.and_eq_true, decide_eq_true_eq, decide_eq_true_eq]
    exact ⟨rfl, declared⟩
  obtain ⟨pair, paired, ⟨closed, rfl⟩ | ⟨open_, rfl⟩⟩ := loses
  · -- The checkpoint is closed: a stream result would give way.
    obtain ⟨firstMember, firstSink, secondMember, secondSink, scope, calls⟩ :=
      mem_pairedGroups.mp paired
    have winnerSink : winner.sink = .checkpoint := by
      cases sink : winner.sink with
      | checkpoint => rfl
      | stream => exact absurd (sink.trans secondSink.symm) counterparts.sink
    have same : pair.1 = winner := eq_of_registryKey readable.tools firstMember winnerMember
      (firstSink.trans winnerSink.symm) (scope.trans counterparts.scope.symm)
      (calls.trans counterparts.calls.symm)
    left
    rw [winnerSink, sink_eq_checkpoint, ← Bool.not_eq_false]
    intro stream
    have shadow : isShadow (selected items) result = true :=
      isShadow_iff.mpr (.inl ⟨stream, pair, paired, closed, same ▸ declares⟩)
    rw [standing] at shadow
    cases shadow
  · obtain ⟨firstMember, firstSink, secondMember, secondSink, scope, calls⟩ :=
      mem_pairedGroups.mp paired
    have winnerSink : winner.sink = .stream := by
      cases sink : winner.sink with
      | stream => rfl
      | checkpoint => exact absurd (sink.trans firstSink.symm) counterparts.sink
    cases carrier : result.item.isCheckpointCarrier with
    | false => exact .inl (by rw [winnerSink, sink_eq_stream, carrier])
    | true =>
      refine .inr ⟨winnerSink, fun other otherAnswers => ?_⟩
      rw [sink_eq_checkpoint, ← Bool.not_eq_false]
      intro stream
      have firstDeclares : pair.1.declares result.call = true := by
        rw [ToolGroup.declares, answers.2, Bool.and_eq_true, decide_eq_true_eq,
          decide_eq_true_eq, ← counterparts.scope, ← counterparts.calls]
        exact ⟨rfl, declared⟩
      have shadow : isShadow (selected items) result = true :=
        isShadow_iff.mpr (.inr ⟨carrier, ⟨pair, paired, open_, firstDeclares⟩, other,
          otherAnswers.1, stream, otherAnswers.2.trans answers.2.symm⟩)
      rw [standing] at shadow
      cases shadow

theorem declares_scope {group : ToolGroup} {scope : ToolCarrierScope} {callId : String}
    (declares : group.declares (some scope, callId) = true) :
    group.scope = scope ∧ callId ∈ group.calls := by
  rw [ToolGroup.declares, Bool.and_eq_true, decide_eq_true_eq, decide_eq_true_eq] at declares
  exact ⟨(Option.some.inj declares.1).symm, declares.2⟩

theorem answer_kept (distinct : Distinct items) (single : OneGroupPerSink (selected items))
    {winner loser : ToolGroup} (loses : Loses (selected items) loser)
    (counterparts : Counterparts winner loser)
    {callId : String} (declared : callId ∈ winner.calls) {result : CompletedResult}
    (answers : Answers (selected items) (some winner.scope, callId) result) :
    ∃ result, Answers (selected items) (some winner.scope, callId) result ∧
      result.item ∈ kept items (removedIds items) := by
  obtain ⟨pair, paired, ⟨closed, rfl⟩ | ⟨open_, rfl⟩⟩ := loses
  · -- The closed checkpoint has a result of its own.
    obtain ⟨firstMember, firstSink, secondMember, secondSink, scope, calls⟩ :=
      mem_pairedGroups.mp paired
    have inFirst : callId ∈ pair.1.calls := by rwa [calls, ← counterparts.calls]
    obtain ⟨other, completed, carrier, call, -⟩ := closes_result closed inFirst
    rw [scope, ← counterparts.scope] at call
    refine ⟨other, ⟨completed, call⟩, result_kept distinct completed ?_⟩
    rw [← Bool.not_eq_true, isShadow_iff, carrier]
    rintro (⟨⟨⟩, -⟩ | ⟨-, ⟨second, secondPaired, secondOpen, declares⟩, -⟩)
    obtain ⟨secondListed, otherSink, -⟩ := mem_pairedGroups.mp secondPaired
    rw [call] at declares
    have same := single pair.1 firstMember second.1 secondListed
      (firstSink.trans otherSink.symm)
      ((scope.trans counterparts.scope.symm).trans (declares_scope declares).1.symm)
    rw [same, secondOpen] at closed
    cases closed
  · obtain ⟨firstMember, firstSink, -⟩ := mem_pairedGroups.mp paired
    -- A stream result stays; without one nothing shadows the checkpoint.
    by_cases streamed : ∃ other, Answers (selected items) (some winner.scope, callId) other ∧
        other.item.isCheckpointCarrier = false
    · obtain ⟨other, otherAnswers, carrier⟩ := streamed
      refine ⟨other, otherAnswers, result_kept distinct otherAnswers.1 ?_⟩
      rw [← Bool.not_eq_true, isShadow_iff, carrier]
      rintro (⟨-, second, secondPaired, secondClosed, declares⟩ | ⟨⟨⟩, -⟩)
      obtain ⟨secondListed, otherSink, -⟩ := mem_pairedGroups.mp secondPaired
      rw [otherAnswers.2] at declares
      have same := single pair.1 firstMember second.1 secondListed
        (firstSink.trans otherSink.symm)
        (counterparts.scope.symm.trans (declares_scope declares).1.symm)
      rw [same, secondClosed] at open_
      cases open_
    · refine ⟨result, answers, result_kept distinct answers.1 ?_⟩
      rw [← Bool.not_eq_true, isShadow_iff]
      rintro (⟨carrier, -⟩ | ⟨-, -, other, completed, carrier, call⟩)
      · exact streamed ⟨result, answers, carrier⟩
      · exact streamed ⟨other, ⟨completed, call.trans answers.2⟩, carrier⟩

theorem settled (distinct : Distinct items) (readable : Readable items)
    (single : OneGroupPerSink (selected items)) {winner loser : ToolGroup}
    (winnerMember : winner ∈ toolGroups (selected items))
    (loserMember : loser ∈ toolGroups (selected items)) (counterparts : Counterparts winner loser)
    (loses : Loses (selected items) loser) :
    Settled items (removedIds items) winner loser := by
  have stands : ¬ Loses (selected items) winner := fun winnerLoses =>
    (counterparts.loses_iff readable.tools winnerMember loserMember).mp winnerLoses loses
  have declarations : ∀ item ∈ winner.members, item.semanticKind = .toolCall →
      item ∈ kept items (removedIds items) := fun item =>
    call_kept distinct winnerMember stands
  have removed := loser_removed distinct loses
  have source {callId : String} (declared : callId ∈ winner.calls) {result : CompletedResult}
      (answers : Answers (selected items) (some winner.scope, callId) result)
      (stays : result.item ∈ kept items (removedIds items)) :=
    kept_source distinct readable winnerMember loses counterparts declared answers stays
  refine ⟨counterparts, declarations, removed, ?_, ?_, ?_⟩
  · rintro callId declared ⟨result, answers⟩
    exact answer_kept distinct single loses counterparts declared answers
  · intro callId declared once first second firstAnswers secondAnswers firstStays secondStays
    refine once first second firstAnswers secondAnswers ?_
    have same : sink first.item = sink second.item := by
      rcases source declared firstAnswers firstStays with firstSink | ⟨-, every⟩
      · rcases source declared secondAnswers secondStays with secondSink | ⟨-, every⟩
        · exact firstSink.trans secondSink.symm
        · exact (every first firstAnswers).trans (every second secondAnswers).symm
      · exact (every first firstAnswers).trans (every second secondAnswers).symm
    cases firstCarrier : first.item.isCheckpointCarrier <;>
      cases secondCarrier : second.item.isCheckpointCarrier <;>
        simp [sink, firstCarrier, secondCarrier] at same ⊢
  · intro callId declared result answers stays
    rcases source declared answers stays with same | absent
    · refine .inl ⟨same, fun item member declares ordered => ?_⟩
      have itemStays := declarations item member declares.1
      have bothStay : [item, result.item].filter
          (fun item => item.itemId ∉ removedIds items) = [item, result.item] := by
        rw [List.filter_eq_self]
        simp [(mem_kept.mp itemStays).2, (mem_kept.mp stays).2]
      rw [← bothStay]
      exact ordered.filter _
    · exact .inr absent

def DeclaredAlike (items : List CanonicalItem) (group : ToolGroup) (callId : String) : Prop :=
  ∀ other ∈ toolGroups items, other.scope = group.scope → callId ∈ other.calls →
    other.calls = group.calls ∧ other.DeclaresOnce callId

theorem declared_once (distinct : Distinct items) (readable : Readable items) {group : ToolGroup}
    (listed : group ∈ toolGroups (selected items)) {callId : String}
    (declared : callId ∈ group.calls) (alike : DeclaredAlike (selected items) group callId) :
    ∃! item, item ∈ kept items (removedIds items) ∧ item.scope = some group.scope ∧
      Declares item callId := by
  -- One group of the scope and of the calls does not lose.
  obtain ⟨winner, winnerListed, scope, calls, stands⟩ :
      ∃ winner ∈ toolGroups (selected items), winner.scope = group.scope ∧
        winner.calls = group.calls ∧ ¬ Loses (selected items) winner := by
    by_cases loses : Loses (selected items) group
    · obtain ⟨other, otherListed, counterparts⟩ := loses.counterpart
      exact ⟨other, otherListed, counterparts.scope.symm, counterparts.calls.symm,
        (counterparts.loses_iff readable.tools listed otherListed).mp loses⟩
    · exact ⟨group, listed, rfl, rfl, loses⟩
  obtain ⟨-, item, ⟨member, declares⟩, only⟩ := alike winner winnerListed scope (calls ▸ declared)
  refine ⟨item, ⟨call_kept distinct winnerListed stands member declares.1, ?_, declares⟩, ?_⟩
  · rw [(mem_of_mem_group winnerListed member).2.2, scope]
  · rintro other ⟨stays, inScope, otherDeclares⟩
    obtain ⟨chosen, unbeaten, -⟩ := (mem_kept_removedIds distinct).mp stays
    obtain ⟨second, secondListed, secondScope, inSecond⟩ :=
      exists_group readable.tools chosen inScope otherDeclares
    have inCalls := call_of_member secondListed inSecond otherDeclares
    have secondCalls := (alike second secondListed secondScope inCalls).1
    have same : second = winner := eq_of_unbeaten readable.tools secondListed winnerListed
      (secondScope.trans scope.symm) (secondCalls.trans calls.symm)
      (fun loses => unbeaten ⟨second, loses, inSecond⟩) stands
    exact only other ⟨same ▸ inSecond, otherDeclares⟩

theorem unpaired_kept (distinct : Distinct items) (single : OneGroupPerSink (selected items))
    {group : ToolGroup} (listed : group ∈ toolGroups (selected items))
    (unpaired : ∀ other ∈ toolGroups (selected items), ¬ Counterparts group other) :
    (∀ item ∈ group.members, item.semanticKind = .toolCall →
      item ∈ kept items (removedIds items)) ∧
    ∀ callId ∈ group.calls, ∀ result,
      Answers (selected items) (some group.scope, callId) result →
        result.item ∈ kept items (removedIds items) := by
  have stands : ¬ Loses (selected items) group := by
    intro loses
    obtain ⟨other, otherListed, counterparts⟩ := loses.counterpart
    exact unpaired other otherListed counterparts
  -- A pair of the scope would contain the group.
  have unmatched : ∀ pair ∈ pairedGroups (toolGroups (selected items)),
      pair.1.scope ≠ group.scope := by
    intro pair paired same
    obtain ⟨firstMember, firstSink, secondMember, secondSink, scope, calls⟩ :=
      mem_pairedGroups.mp paired
    have counterparts : Counterparts pair.1 pair.2 :=
      ⟨by rw [firstSink, secondSink]; nofun, scope, calls⟩
    rcases single.cases firstMember secondMember counterparts listed same.symm with rfl | rfl
    · exact unpaired pair.2 secondMember counterparts
    · exact unpaired pair.1 firstMember counterparts.symm
  refine ⟨fun item => call_kept distinct listed stands, ?_⟩
  intro callId declared result answers
  refine result_kept distinct answers.1 ?_
  rw [← Bool.not_eq_true, isShadow_iff, answers.2]
  rintro (⟨-, pair, paired, -, declares⟩ | ⟨-, ⟨pair, paired, -, declares⟩, -⟩)
  · exact unmatched pair paired (declares_scope declares).1
  · exact unmatched pair paired (declares_scope declares).1

/-- What a deduplication guarantees about the items that it keeps. -/
structure Preserves (items : List CanonicalItem) (ids : List String) : Prop where
  represented : ∀ item ∈ items, item.itemId ∈ ids → Represented items ids item
  declaredOnce : ∀ group ∈ toolGroups (selected items), ∀ callId ∈ group.calls,
    DeclaredAlike (selected items) group callId →
    ∃! item, item ∈ kept items ids ∧ item.scope = some group.scope ∧ Declares item callId
  settled : OneGroupPerSink (selected items) → ∀ first ∈ toolGroups (selected items),
    ∀ second ∈ toolGroups (selected items), Counterparts first second →
      Settled items ids first second ∨ Settled items ids second first
  unpaired : OneGroupPerSink (selected items) → ∀ group ∈ toolGroups (selected items),
    (∀ other ∈ toolGroups (selected items), ¬ Counterparts group other) →
    (∀ item ∈ group.members, item.semanticKind = .toolCall → item ∈ kept items ids) ∧
    ∀ callId ∈ group.calls, ∀ result,
      Answers (selected items) (some group.scope, callId) result → result.item ∈ kept items ids
  stable : supersededItemIds (kept items ids) = .ok []

namespace Sample

def carrier (itemId : String) (sequence : Nat) (kind : SemanticKind) (payload : Json)
    (group : String) (identity : ItemProjectionIdentity) : CanonicalItem :=
  ⟨itemId, sequence, kind, .completed, payload, some "turn", some group, none, some identity,
    none, []⟩

def calls (callIds : List String) : Json :=
  .obj [("tool_calls", .arr (callIds.map fun callId => .obj [("id", .str callId)]))]

def streamed : ItemProjectionIdentity := { modelCallId := some "model" }

def streamedBlock : ItemProjectionIdentity :=
  { modelCallId := some "model", blockId := some "model:block:r", blockIndex := some 0 }

def final : ItemProjectionIdentity :=
  { projectionMessageId := some "message", modelCallId := some "model" }

def finalWithPart : ItemProjectionIdentity :=
  { projectionMessageId := some "message", modelCallId := some "model"
    contentPartRefs := [⟨"r", 0⟩] }

def streamedReasoning : CanonicalItem :=
  carrier "streamed reasoning" 1 .reasoning (.str "text") "stream" streamedBlock

def unanswered : List CanonicalItem :=
  [streamedReasoning,
    carrier "streamed call" 2 .toolCall (calls ["call"]) "stream" streamed,
    carrier "final reasoning" 3 .reasoning (.str "text") "final" finalWithPart,
    carrier "final call" 4 .toolCall (calls ["call"]) "final" final]

def streamedCalls : CanonicalItem :=
  carrier "streamed calls" 1 .toolCall (calls ["first", "second"]) "stream" streamed

def finalCall : CanonicalItem :=
  carrier "final call" 2 .toolCall (calls ["first"]) "final" final

def unequal : List CanonicalItem :=
  [streamedCalls, finalCall]

end Sample

def RepresentedByKept (items : List CanonicalItem) (ids : List String) (item : CanonicalItem) :
    Prop :=
  (∃ last ∈ kept items ids, TransGen (Revises items) last item) ∨
    (∃ own ∈ toolGroups items, ∃ other ∈ toolGroups items, item ∈ own.members ∧
      own.sink ≠ other.sink ∧ ∀ carrier ∈ other.members, carrier ∈ kept items ids) ∨
    ∃ carrier ∈ kept items ids, names carrier item = true

end GraphAgent.Carriers
