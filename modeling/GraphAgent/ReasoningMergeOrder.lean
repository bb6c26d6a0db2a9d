import GraphAgent.ReasoningMerge

/-!
# What a reasoning merge returns

A merged content interleaves the existing blocks and the missing ones, and a
second merge with the same items finds nothing missing.
-/

namespace GraphAgent.ReasoningMerge

open Carriers

@[simp]
theorem blocksOf_map (blocks : List Block) : blocksOf (blocks.map .obj) = some blocks := by
  induction blocks with
  | nil => rfl
  | cons block blocks ih => simp [blocksOf, ih]

@[simp]
theorem existingBlocks_ofBlocks (blocks : List Block) :
    existingBlocks (.ofBlocks blocks) = some blocks :=
  blocksOf_map blocks

def InIndexOrder (blocks : List Block) : Prop :=
  blocks.Pairwise fun first second =>
    ∀ firstIndex secondIndex, blockIndex first = some firstIndex →
      blockIndex second = some secondIndex → firstIndex ≤ secondIndex

theorem inIndexOrder_iff {blocks : List Block}
    (indexed : ∀ block ∈ blocks, (blockIndex block).isSome = true) :
    InIndexOrder blocks ↔ blocks.Pairwise fun first second =>
      (blockIndex first).getD 0 ≤ (blockIndex second).getD 0 := by
  constructor
  · intro ordered
    refine ordered.imp_of_mem fun {first second} firstMember secondMember held => ?_
    obtain ⟨firstIndex, firstFound⟩ := Option.isSome_iff_exists.mp (indexed first firstMember)
    obtain ⟨secondIndex, secondFound⟩ :=
      Option.isSome_iff_exists.mp (indexed second secondMember)
    simpa [firstFound, secondFound] using held _ _ firstFound secondFound
  · intro ordered
    refine ordered.imp fun {first second} held firstIndex secondIndex firstFound secondFound => ?_
    simpa [firstFound, secondFound] using held

def HasCoordinate (modelCallId : String) (block : Block) : Prop :=
  validIndex block = true ∧ (partCoordinate modelCallId block).isSome = true

section Contents

variable {modelCallId : String} {existing canonical merged : List Block} {block : Block}

theorem mem_missingBlocks (hasCoordinate : HasCoordinate modelCallId block) :
    block ∈ missingBlocks modelCallId existing canonical ↔
      block ∈ canonical ∧
        partCoordinate modelCallId block ∉ existing.map (partCoordinate modelCallId) := by
  obtain ⟨coordinate, found⟩ := Option.isSome_iff_exists.mp hasCoordinate.2
  rw [missingBlocks, List.mem_filter, found]
  simp

theorem missingBlocks_sublist :
    (missingBlocks modelCallId existing canonical).Sublist canonical :=
  List.filter_sublist

theorem missingBlocks_merged
    (coordinates : ∀ block ∈ canonical, HasCoordinate modelCallId block)
    (interleaves : Interleaves existing (missingBlocks modelCallId existing canonical) merged) :
    missingBlocks modelCallId merged canonical = [] := by
  rw [List.eq_nil_iff_forall_not_mem]
  intro block member
  have isCanonical := missingBlocks_sublist.subset member
  have hasCoordinate := coordinates block isCanonical
  refine ((mem_missingBlocks hasCoordinate).mp member).2 ?_
  by_cases held : partCoordinate modelCallId block ∈ existing.map (partCoordinate modelCallId)
  · exact (interleaves.sublist_existing.map _).subset held
  · have missing := (mem_missingBlocks hasCoordinate).mpr ⟨isCanonical, held⟩
    exact List.mem_map_of_mem (interleaves.sublist_added.subset missing)

theorem count_merged {coordinate : String × Nat}
    (coordinates : ∀ block ∈ canonical, HasCoordinate modelCallId block)
    (interleaves : Interleaves existing (missingBlocks modelCallId existing canonical) merged) :
    (merged.map (partCoordinate modelCallId)).count (some coordinate) =
      if some coordinate ∈ existing.map (partCoordinate modelCallId) then
        (existing.map (partCoordinate modelCallId)).count (some coordinate)
      else
        (canonical.map (partCoordinate modelCallId)).count (some coordinate) := by
  rw [(interleaves.perm.map _).count_eq, List.map_append, List.count_append]
  split
  · rename_i held
    rw [Nat.add_eq_left, List.count_eq_zero]
    intro again
    obtain ⟨block, member, found⟩ := List.mem_map.mp again
    have isCanonical := missingBlocks_sublist.subset member
    apply ((mem_missingBlocks (coordinates block isCanonical)).mp member).2
    rwa [found]
  · rename_i absent
    rw [List.count_eq_zero_of_not_mem absent, Nat.zero_add, missingBlocks,
      List.count_eq_countP, List.countP_map, List.countP_filter, List.count_eq_countP,
      List.countP_map]
    refine List.countP_congr fun block member => ?_
    simp only [Function.comp_apply, Bool.and_eq_true, beq_iff_eq, and_iff_left_iff_imp]
    intro found
    simpa [found] using absent

/-- What `_merge_content` returns without a reason. -/
structure MergedContent (content : Content) (canonical : List Block) (modelCallId : String)
    (existing merged : List Block) : Prop where
  read : existingBlocks content = some existing
  valid : ∀ block ∈ existing, validIndex block = true
  interleaves : Interleaves existing (missingBlocks modelCallId existing canonical) merged
  ordered : existing ≠ [] → InIndexOrder existing → InIndexOrder merged

theorem mergeContent_ok {content result : Content} {reason : Option String}
    (merges : mergeContent content canonical modelCallId = .ok (result, reason)) :
    (reason ≠ none ∧ result = content) ∨
      (reason = none ∧ ∃ existing merged,
        MergedContent content canonical modelCallId existing merged ∧
        result = .ofBlocks merged) := by
  unfold mergeContent at merges
  split at merges
  · cases merges
  · rename_i existing read
    split at merges
    · rename_i allValid
      rw [List.all_append, Bool.and_eq_true, List.all_eq_true] at allValid
      simp only at merges
      split at merges
      · rename_i nothing
        cases merges
        refine .inr ⟨rfl, existing, existing,
          ⟨read, allValid.1, ?_, fun _ ordered => ordered⟩, rfl⟩
        rw [nothing]
        exact .nothingAdded existing
      · split at merges
        · rename_i empty
          cases merges
          refine .inr ⟨rfl, existing, _,
            ⟨read, allValid.1, ?_, fun some _ => absurd empty some⟩, rfl⟩
          rw [empty]
          exact .nothingKept _
        · split at merges
          · cases merges
            exact .inl ⟨by simp, rfl⟩
          · rename_i indexed
            split at merges
            · cases merges
              exact .inl ⟨by simp, rfl⟩
            · rename_i merged inserted
              cases merges
              have interleaves : Interleaves existing
                  (missingBlocks modelCallId existing canonical) merged := by
                simpa using @insertEach_interleaves _ (fun block => (blockIndex block).getD 0)
                  _ _ [] existing [] [] .nil inserted
              refine .inr ⟨rfl, existing, merged,
                ⟨read, allValid.1, interleaves, fun _ ordered => ?_⟩, rfl⟩
              have allIndexed :
                  ∀ block ∈ existing ++ missingBlocks modelCallId existing canonical,
                  (blockIndex block).isSome = true := by
                intro block member
                by_contra absent
                apply indexed
                rw [List.any_eq_true]
                exact ⟨block, member, by simpa using absent⟩
              rw [inIndexOrder_iff fun block member =>
                allIndexed block (interleaves.perm.mem_iff.mp member)]
              rw [inIndexOrder_iff fun block member =>
                allIndexed block (List.mem_append_left _ member)] at ordered
              exact insertEach_sorted ordered inserted
    · cases merges

theorem mergeContent_again {content result : Content} {reason : Option String}
    (coordinates : ∀ block ∈ canonical, HasCoordinate modelCallId block)
    (merges : mergeContent content canonical modelCallId = .ok (result, reason)) :
    mergeContent result canonical modelCallId = .ok (result, reason) := by
  rcases mergeContent_ok merges with ⟨-, rfl⟩ | ⟨rfl, existing, merged, spec, rfl⟩
  · exact merges
  · have nothing := missingBlocks_merged coordinates spec.interleaves
    have allValid : (merged ++ canonical).all validIndex = true := by
      rw [List.all_eq_true]
      intro block member
      rcases List.mem_append.mp member with held | isCanonical
      · rcases List.mem_append.mp (spec.interleaves.perm.mem_iff.mp held) with old | missing
        · exact spec.valid block old
        · exact (coordinates block (missingBlocks_sublist.subset missing)).1
      · exact (coordinates block isCanonical).1
    simp [mergeContent, allValid, nothing]

end Contents

def BlocksNamed (items : List CanonicalItem) : Prop :=
  ∀ item ∈ items, ∀ identity, item.projectionIdentity = some identity →
    identity.blockId ≠ some ""

theorem hasCoordinate_reasoningBlock {modelCallId text blockId : String} {index : Nat}
    (named : blockId ≠ "") : HasCoordinate modelCallId (reasoningBlock text blockId index) := by
  constructor
  · simp [validIndex, reasoningBlock, field, Dictionary.lookupEntries]
  · simp [partCoordinate, reasoningBlock, field, Dictionary.lookupEntries, blockIndex,
      Json.identifier?, named]

theorem reasoningPart_some {superseded : List String} {item : CanonicalItem}
    {part : String × (String × Nat) × Block}
    (found : reasoningPart superseded item = some part) :
    ∃ identity text blockId index, item.projectionIdentity = some identity ∧
      identity.blockId = some blockId ∧ part.2.2 = reasoningBlock text blockId index := by
  unfold reasoningPart at found
  split at found
  · rename_i identity text identityFound _
    split at found
    · rename_i scope blockId index _ blockFound _
      split at found
      · cases found
        exact ⟨identity, text, blockId, index, identityFound, blockFound, rfl⟩
      · cases found
    · cases found
  · cases found

theorem mem_foldl_setDefault {parts : List (String × (String × Nat) × Block)}
    {blocks : Dictionary (String × Nat) Block} {entry : (String × Nat) × Block}
    (member : entry ∈ (parts.foldl
      (fun blocks part => blocks.setDefault part.2.1 part.2.2) blocks).entries) :
    entry ∈ blocks.entries ∨ ∃ part ∈ parts, part.2 = entry := by
  induction parts generalizing blocks with
  | nil => exact .inl member
  | cons part parts ih =>
    rcases ih member with held | ⟨later, laterMember, equal⟩
    · change entry ∈ (blocks.setDefault part.2.1 part.2.2).entries at held
      rw [Dictionary.setDefault] at held
      split at held
      · exact .inl held
      · rcases Dictionary.mem_insertEntries held with new | old
        · exact .inr ⟨part, by simp, new.symm⟩
        · exact .inl old
    · exact .inr ⟨later, by simp [laterMember], equal⟩

theorem canonicalBlocks_coordinates {superseded : List String} {items : List CanonicalItem}
    (named : BlocksNamed items) (scope : String) :
    ∀ block ∈ canonicalBlocks superseded items scope, HasCoordinate scope block := by
  intro block member
  obtain ⟨entry, entryMember, rfl⟩ := List.mem_map.mp member
  rcases mem_foldl_setDefault entryMember with none | ⟨part, partMember, rfl⟩
  · cases none
  · obtain ⟨item, itemMember, found⟩ :=
      List.mem_filterMap.mp (List.mem_of_mem_filter partMember)
    obtain ⟨identity, text, blockId, index, identityFound, blockFound, block⟩ :=
      reasoningPart_some found
    rw [block]
    apply hasCoordinate_reasoningBlock
    rintro rfl
    exact named item itemMember identity identityFound blockFound

section Messages

variable {Extra : Type} {blocks : String → List Block} {calls : List (String × String)}

theorem lookup_markSkipped {metadata : Fields} {reason key : String}
    (status : key ≠ "reasoning_merge_status") (cause : key ≠ "reasoning_merge_reason") :
    (markSkipped metadata reason).lookup key = metadata.lookup key := by
  rw [markSkipped, Dictionary.lookup_insert_of_ne (Ne.symm cause),
    Dictionary.lookup_insert_of_ne (Ne.symm status)]

theorem markSkipped_again (metadata : Fields) (reason : String) :
    markSkipped (markSkipped metadata reason) reason = markSkipped metadata reason := by
  have status : (markSkipped metadata reason).lookup "reasoning_merge_status" =
      some (.str "skipped_ambiguous_order") := by
    rw [markSkipped, Dictionary.lookup_insert_of_ne (by decide), Dictionary.lookup_insert_self]
  have cause : (markSkipped metadata reason).lookup "reasoning_merge_reason" =
      some (.str reason) := by
    rw [markSkipped, Dictionary.lookup_insert_self]
  nth_rewrite 1 [markSkipped]
  rw [Dictionary.insert_of_lookup status, Dictionary.insert_of_lookup cause]

theorem get_modelCallId_markSkipped (metadata : Fields) (reason : String) :
    Fields.get (markSkipped metadata reason) "model_call_id" = metadata.get "model_call_id" := by
  rw [Fields.get, lookup_markSkipped (by decide) (by decide), Fields.get]

theorem get_modelCallId_insert (metadata : Fields) (value : Json) :
    Fields.get (metadata.insert "reasoning_source" value) "model_call_id" =
      metadata.get "model_call_id" :=
  Fields.get_insert_of_ne (by decide)

theorem mergeMessage_again {message result : AIMessage Extra}
    (coordinates : ∀ scope, ∀ block ∈ blocks scope, HasCoordinate scope block)
    (merges : mergeMessage blocks calls message = .ok result) :
    mergeMessage blocks calls result = .ok result := by
  have original := merges
  unfold mergeMessage at merges
  split at merges
  · cases merges
    exact original
  · rename_i hasCalls
    simp only at merges
    split at merges
    · rename_i scopeMissing
      split at merges
      · rename_i known
        cases merges
        simp only [mergeMessage, if_neg hasCalls, get_modelCallId_markSkipped, scopeMissing,
          if_pos known, markSkipped_again]
      · cases merges
        exact original
    · rename_i scope scopeRead
      split at merges
      · cases merges
        exact original
      · rename_i applies
        split at merges
        · cases merges
        · rename_i content merged
          cases merges
          have again := mergeContent_again (coordinates scope) merged
          simp only [mergeMessage, if_neg hasCalls, get_modelCallId_insert, scopeRead,
            if_neg applies, again]
          rw [Dictionary.insert_of_lookup Dictionary.lookup_insert_self]
        · rename_i content reason merged
          cases merges
          have again := mergeContent_again (coordinates scope) merged
          have source : (markSkipped (message.responseMetadata.insert "reasoning_source"
              (.str "canonical_item_stream")) reason).lookup "reasoning_source" =
                some (.str "canonical_item_stream") := by
            rw [lookup_markSkipped (by decide) (by decide), Dictionary.lookup_insert_self]
          simp only [mergeMessage, if_neg hasCalls, get_modelCallId_markSkipped,
            get_modelCallId_insert, scopeRead, if_neg applies, again]
          rw [Dictionary.insert_of_lookup source, markSkipped_again]

def CarriedOnce (canonical existing merged : List Block) (scope : String) : Prop :=
  ∀ block ∈ canonical, ∃ coordinate, partCoordinate scope block = some coordinate ∧
    0 < (merged.map (partCoordinate scope)).count (some coordinate) ∧
    ((existing.map (partCoordinate scope)).count (some coordinate) ≤ 1 →
      (canonical.map (partCoordinate scope)).count (some coordinate) ≤ 1 →
      (merged.map (partCoordinate scope)).count (some coordinate) = 1)

inductive Rewritten (blocks : String → List Block) (message : AIMessage Extra) :
    AIMessage Extra → Prop
  | skipped (metadata : Fields)
      (marked : metadata.get "reasoning_merge_status" = .str "skipped_ambiguous_order") :
      Rewritten blocks message { message with responseMetadata := metadata }
  | merged (metadata : Fields) (scope : String) (existing merged : List Block)
      (scopeRead : message.responseMetadata.get "model_call_id" = .str scope)
      (content : MergedContent message.content (blocks scope) scope existing merged)
      (carried : CarriedOnce (blocks scope) existing merged scope) :
      Rewritten blocks message
        { message with content := .ofBlocks merged, responseMetadata := metadata }

theorem MergedContent.carriedOnce {content : Content} {canonical existing merged : List Block}
    {scope : String} (coordinates : ∀ block ∈ canonical, HasCoordinate scope block)
    (spec : MergedContent content canonical scope existing merged) :
    CarriedOnce canonical existing merged scope := by
  intro block member
  obtain ⟨coordinate, found⟩ := Option.isSome_iff_exists.mp (coordinates block member).2
  have canonicalMember : some coordinate ∈ canonical.map (partCoordinate scope) :=
    List.mem_map.mpr ⟨block, member, found⟩
  refine ⟨coordinate, found, ?_, ?_⟩
  · rw [count_merged coordinates spec.interleaves]
    split
    · rename_i held
      exact List.count_pos_iff.mpr held
    · exact List.count_pos_iff.mpr canonicalMember
  · intro existingOnce canonicalOnce
    rw [count_merged coordinates spec.interleaves]
    split
    · rename_i held
      exact Nat.le_antisymm existingOnce (List.count_pos_iff.mpr held)
    · exact Nat.le_antisymm canonicalOnce (List.count_pos_iff.mpr canonicalMember)

theorem mergeMessage_rewrites {message result : AIMessage Extra}
    (coordinates : ∀ scope, ∀ block ∈ blocks scope, HasCoordinate scope block)
    (merges : mergeMessage blocks calls message = .ok result) :
    result = message ∨ Rewritten blocks message result := by
  have marked (metadata : Fields) (reason : String) :
      Fields.get (markSkipped metadata reason) "reasoning_merge_status" =
        .str "skipped_ambiguous_order" := by
    rw [markSkipped, Fields.get_insert_of_ne (by decide), Fields.get_insert_self]
  unfold mergeMessage at merges
  split at merges
  · cases merges
    exact .inl rfl
  · simp only at merges
    split at merges
    · split at merges
      · cases merges
        exact .inr (.skipped _ (marked _ _))
      · cases merges
        exact .inl rfl
    · rename_i scope scopeRead
      have scopeFound : message.responseMetadata.get "model_call_id" = .str scope := by
        unfold Json.identifier? at scopeRead
        split at scopeRead
        · split at scopeRead
          · cases scopeRead
          · cases scopeRead
            assumption
        · cases scopeRead
      split at merges
      · cases merges
        exact .inl rfl
      · split at merges
        · cases merges
        · rename_i content merged
          cases merges
          rcases mergeContent_ok merged with ⟨some, -⟩ | ⟨-, existing, blocks, spec, rfl⟩
          · exact absurd rfl some
          · exact .inr (.merged _ scope existing blocks scopeFound spec
              (spec.carriedOnce (coordinates scope)))
        · rename_i content reason merged
          cases merges
          rcases mergeContent_ok merged with ⟨-, rfl⟩ | ⟨none, -⟩
          · exact .inr (.skipped _ (marked _ _))
          · cases none

def RewrittenRaw (blocks : String → List Block) : RawMessage Extra → RawMessage Extra → Prop
  | .ai message, .ai result => result = message ∨ Rewritten blocks message result
  | .other before, .other after => before = after
  | _, _ => False

theorem RewrittenRaw.self (message : RawMessage Extra) : RewrittenRaw blocks message message := by
  cases message with
  | ai message => exact .inl rfl
  | other extra => exact rfl

theorem mergeRawMessage_ok {message result : RawMessage Extra}
    (coordinates : ∀ scope, ∀ block ∈ blocks scope, HasCoordinate scope block)
    (merges : mergeRawMessage blocks calls message = .ok result) :
    RewrittenRaw blocks message result ∧ mergeRawMessage blocks calls result = .ok result := by
  cases message with
  | other extra =>
    cases merges
    exact ⟨rfl, rfl⟩
  | ai message =>
    rw [mergeRawMessage] at merges
    cases merged : mergeMessage blocks calls message with
    | error error => simp [merged, Except.map] at merges
    | ok after =>
      simp only [merged, Except.map, Except.ok.injEq] at merges
      subst merges
      refine ⟨mergeMessage_rewrites coordinates merged, ?_⟩
      rw [mergeRawMessage, mergeMessage_again coordinates merged]
      rfl

theorem mergeMessages_ok {messages result : List (RawMessage Extra)}
    (coordinates : ∀ scope, ∀ block ∈ blocks scope, HasCoordinate scope block)
    (merges : mergeMessages blocks calls messages = .ok result) :
    List.Forall₂ (RewrittenRaw blocks) messages result ∧
      mergeMessages blocks calls result = .ok result := by
  induction messages generalizing result with
  | nil =>
    cases merges
    exact ⟨.nil, rfl⟩
  | cons message messages ih =>
    rw [mergeMessages] at merges
    cases first : mergeRawMessage blocks calls message with
    | error error => simp [first] at merges
    | ok merged =>
      cases later : mergeMessages blocks calls messages with
      | error error => simp [first, later, Except.map] at merges
      | ok rest =>
        simp only [first, later, Except.map, Except.ok.injEq] at merges
        subst merges
        obtain ⟨rewritten, again⟩ := mergeRawMessage_ok coordinates first
        obtain ⟨restRewritten, restAgain⟩ := ih later
        refine ⟨.cons rewritten restRewritten, ?_⟩
        rw [mergeMessages, again, restAgain]
        rfl

/-- Each message is as it was, or rewritten with the reasoning of its model call,
and the same items change nothing any more. -/
theorem merge_keeps_order {messages result : List (RawMessage Extra)}
    {items : List CanonicalItem} (named : BlocksNamed items)
    (returned : mergeCanonicalReasoning messages items = .ok result) :
    (∃ superseded, supersededStreamContentItemIds items = .ok superseded ∧
      List.Forall₂ (RewrittenRaw (canonicalBlocks superseded items)) messages result) ∧
    mergeCanonicalReasoning result items = .ok result := by
  unfold mergeCanonicalReasoning at returned ⊢
  cases found : supersededStreamContentItemIds items with
  | error error => simp [found] at returned
  | ok superseded =>
    cases read : scopedCalls items with
    | error error => simp [found, read] at returned
    | ok calls =>
      simp only [found, read] at returned ⊢
      split at returned
      · rename_i nothing
        cases returned
        refine ⟨⟨superseded, rfl, ?_⟩, if_pos nothing⟩
        exact List.forall₂_same.mpr fun message _ => RewrittenRaw.self message
      · rename_i something
        obtain ⟨rewritten, again⟩ :=
          mergeMessages_ok (canonicalBlocks_coordinates named) returned
        exact ⟨⟨superseded, rfl, rewritten⟩, by rw [if_neg something, again]⟩

end Messages

namespace Sample

/-- A reasoning item of the model call `s`. -/
def reasoning (itemId blockId : String) (index : Nat) : CanonicalItem where
  itemId := itemId
  itemSequence := 1
  semanticKind := .reasoning
  status := .completed
  payload := .str "thought"
  turnId := some "t"
  messageGroupId := none
  projectionIdentity := some {
    modelCallId := some "s", blockId := some blockId, blockIndex := some index,
    block := by simp }

def toolCall : CanonicalItem where
  itemId := "call"
  itemSequence := 2
  semanticKind := .toolCall
  status := .completed
  payload := .obj [("tool_calls", .arr [.obj [("id", .str "c1")]])]
  turnId := some "t"
  messageGroupId := none
  projectionIdentity := some { modelCallId := some "s", block := by simp }

def message (content : Content) : RawMessage Unit :=
  .ai {
    content := content
    toolCalls := [.obj [("id", .str "c1")]]
    responseMetadata := .ofList [("model_call_id", .str "s")]
    extra := () }

def coordinates (result : Except MergeError (List (RawMessage Unit))) :
    List (Option (String × Nat)) :=
  match result with
  | .ok (.ai message :: _) =>
    ((existingBlocks message.content).getD []).map (partCoordinate "s")
  | _ => []

def part (blockId : String) (index : Int) : Json :=
  .obj [("type", .str "reasoning"), ("id", .str blockId), ("index", .int index)]

end Sample

open Sample in
/-- A repeated part stays twice; a part that is named with and without its scope
comes twice; and into an empty content the parts go in the order of the items. -/
theorem merge_repeats_parts :
    coordinates (mergeCanonicalReasoning [message (.parts [part "a" 0, part "a" 0])]
        [reasoning "r1" "a" 0, toolCall]) = [some ("a", 0), some ("a", 0)] ∧
      coordinates (mergeCanonicalReasoning [message (.text "")]
        [reasoning "r1" "a" 0, reasoning "r2" "s:block:a" 0, toolCall]) =
          [some ("a", 0), some ("a", 0)] ∧
      coordinates (mergeCanonicalReasoning [message (.text "")]
        [reasoning "r1" "b" 2, reasoning "r2" "a" 0, toolCall]) =
          [some ("b", 2), some ("a", 0)] := by
  decide +kernel

open Sample in
/-- The missing block goes between the existing ones, and only once. -/
theorem merge_keeps_order_missing :
    ∃ result, mergeCanonicalReasoning [message (.parts [part "a" 0, part "c" 2])]
        [reasoning "r1" "a" 0, reasoning "r2" "b" 1, toolCall] = .ok result ∧
      coordinates (.ok result) = [some ("a", 0), some ("b", 1), some ("c", 2)] ∧
      mergeCanonicalReasoning result [reasoning "r1" "a" 0, reasoning "r2" "b" 1, toolCall] =
        .ok result := by
  have named : BlocksNamed [reasoning "r1" "a" 0, reasoning "r2" "b" 1, toolCall] := by
    intro item member identity found
    simp only [List.mem_cons, List.not_mem_nil, or_false] at member
    rcases member with rfl | rfl | rfl <;> cases found <;> simp
  have merged : coordinates (mergeCanonicalReasoning [message (.parts [part "a" 0, part "c" 2])]
      [reasoning "r1" "a" 0, reasoning "r2" "b" 1, toolCall]) =
        [some ("a", 0), some ("b", 1), some ("c", 2)] := by
    decide +kernel
  cases returned : mergeCanonicalReasoning [message (.parts [part "a" 0, part "c" 2])]
      [reasoning "r1" "a" 0, reasoning "r2" "b" 1, toolCall] with
  | error error =>
    rw [returned] at merged
    cases merged
  | ok result => exact ⟨result, rfl, returned ▸ merged, (merge_keeps_order named returned).2⟩

end GraphAgent.ReasoningMerge
