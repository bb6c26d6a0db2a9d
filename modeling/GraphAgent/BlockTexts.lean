import GraphAgent.DictionaryUpdates
import GraphAgent.StreamBlockRuns
import GraphAgent.Transactions

/-!
# The visible text in the block maps

A block adds its visible text to that of its model call, behind the blocks before it,
as long as no block id reads as the id of a segment.
-/

namespace GraphAgent.StreamBlocks

def BlockEvent.appended? (event : BlockEvent) : Option String :=
  match event.kind with
  | .delta _ (.append text) =>
    if event.carrierType ∈ ["text", "output_text", "refusal"] then some text else none
  | _ => none

def appended (events : List BlockEvent) : String :=
  String.join (events.filterMap BlockEvent.appended?)

def blockVisible (block : ContentBlock) : String :=
  match readHeader block with
  | .ok header => Group.visibleOf header.carrierType (operations header.carrierType block)
  | .error _ => ""

def contentVisible (content : List ContentBlock) : String :=
  String.join (content.map blockVisible)

def NoSegment (modelCallId : String) (block : ContentBlock) : Prop :=
  ∀ header, readHeader block = .ok header →
    ∀ state : BlockState, state.currentModelCallId = some modelCallId →
      ∀ (start : String) (count : Nat),
        scopedBlockId modelCallId state header ≠ start ++ ":segment:" ++ toString count

/-- The maps hold a visible text, in the order of the blocks. -/
structure Held (modelCallId : String) (state : BlockState) (text : String) : Prop where
  current : state.currentModelCallId = some modelCallId
  distinct : state.order.Nodup
  active : state.active = [] ∨
    ∃ earlier last, state.order = earlier ++ [last] ∧ state.active = [last]
  unused : ∀ blockId, blockId ∉ state.order → state.normalizedText.lookup blockId = none
  owned : ∀ blockId, (state.normalizedText.lookup blockId).isSome = true →
    state.normalizedModelCallIds.lookup blockId = some modelCallId
  known : ∀ blockId, (state.metadata.lookup blockId).isSome = true ↔ blockId ∈ state.order
  counted : state.metadata.entries.length = state.order.length
  segments : ∀ blockId ∈ state.order, ∀ (start : String) (count : Nat),
    blockId = start ++ ":segment:" ++ toString count → count < state.order.length
  texts : String.join (state.order.map fun blockId =>
    (state.normalizedText.lookup blockId).getD "") = text

section Held

variable {modelCallId text reason blockId carrier : String} {isPartial : Bool} {index : Nat}
  {state after : BlockState} {header : Header} {block : ContentBlock}
  {events : List BlockEvent}

theorem appended_append (first second : List BlockEvent) :
    appended (first ++ second) = appended first ++ appended second := by
  simp [appended, String.join_append]

theorem appended_emitDelta (operation : Operation) :
    appended [(emitDelta modelCallId blockId index carrier state operation).2] =
      Group.visibleOf carrier [operation] := by
  cases operation with
  | append text =>
    by_cases visible : carrier ∈ ["text", "output_text", "refusal"]
    · rw [emitDelta_visible visible]
      simp only [appended, BlockEvent.appended?, Group.visibleOf, if_pos visible,
        List.filterMap_cons, List.filterMap_nil]
    · simp only [emitDelta, appended, BlockEvent.appended?, Group.visibleOf, if_neg visible,
        List.filterMap_cons, List.filterMap_nil]
      rfl
  | itemUpsert item =>
    unfold Group.visibleOf
    split <;> rfl
  | redacted =>
    unfold Group.visibleOf
    split <;> rfl

theorem appended_emitDeltas (operations : List Operation) :
    appended (emitDeltas modelCallId blockId index carrier state operations).2 =
      Group.visibleOf carrier operations := by
  induction operations generalizing state with
  | nil => simp [emitDeltas, appended, Group.visibleOf]
  | cons operation operations ih =>
    have first := @appended_emitDelta modelCallId blockId carrier index state operation
    have later := @ih (emitDelta modelCallId blockId index carrier state operation).1
    rw [Group.visibleOf_cons, ← first, ← later, ← appended_append]
    rfl

theorem emitDeltas_current (operations : List Operation) :
    (emitDeltas modelCallId blockId index carrier state operations).1.currentModelCallId =
      state.currentModelCallId := by
  induction operations generalizing state with
  | nil => rfl
  | cons operation operations ih =>
    refine Eq.trans ih ?_
    cases operation with
    | append text =>
      simp only [emitDelta]
      split <;> rfl
    | _ => rfl

theorem closeBlocks_ok {blockIds : List String}
    (closes : closeBlocks reason isPartial state blockIds = .ok (after, events)) :
    after = { state with active := state.active.filter (· ∉ blockIds) } ∧
      events.filterMap BlockEvent.appended? = [] := by
  induction blockIds generalizing state events with
  | nil =>
    cases closes
    simp
  | cons blockId blockIds ih =>
    obtain ⟨⟨closed, event⟩, first, closes⟩ := Transaction.bind_ok closes
    obtain ⟨⟨last, rest⟩, others, closes⟩ := Transaction.bind_ok closes
    cases closes
    obtain ⟨same, silent⟩ := ih others
    unfold closeBlock at first
    split at first
    · cases first
    · cases first
      refine ⟨?_, ?_⟩
      · rw [same]
        simp only [List.filter_filter]
        congr 1
        refine List.filter_congr fun other _ => ?_
        by_cases same : other = blockId <;> simp [same]
      · exact silent

theorem closeActive_ok
    (closes : closeBlocks reason isPartial state state.active = .ok (after, events)) :
    after = { state with active := [] } ∧ events.filterMap BlockEvent.appended? = [] := by
  obtain ⟨same, silent⟩ := closeBlocks_ok closes
  refine ⟨?_, silent⟩
  rw [same]
  simp [List.filter_eq_nil_iff]

theorem acceptContentBlock_ok
    (accepts : acceptContentBlock modelCallId state block = .ok (after, events)) :
    appended events = blockVisible block ∧
      after.currentModelCallId = state.currentModelCallId ∧
      ∃ header, readHeader block = .ok header ∧
        (scopedBlockId modelCallId state header ∈ state.active ∧
            after = (emitDeltas modelCallId (scopedBlockId modelCallId state header)
              (resolvedIndex state header) header.carrierType state
              (operations header.carrierType block)).1 ∨
          after = (emitDeltas modelCallId
            (publicBlockId modelCallId { state with active := [] } header)
            (resolvedIndex state header) header.carrierType
            (openBlock modelCallId { state with active := [] } header).1
            (operations header.carrierType block)).1) := by
  unfold acceptContentBlock at accepts
  obtain ⟨header, read, accepts⟩ := Transaction.bind_ok accepts
  rw [blockVisible, read]
  dsimp only at accepts
  split at accepts
  case isTrue continues =>
    obtain ⟨rfl, rfl⟩ := Prod.ext_iff.mp (Except.ok.inj accepts)
    exact ⟨appended_emitDeltas _, emitDeltas_current _, header, rfl, .inl ⟨continues, rfl⟩⟩
  case isFalse =>
    obtain ⟨⟨closed, completed⟩, closes, accepts⟩ := Transaction.bind_ok accepts
    obtain ⟨rfl, silent⟩ := closeActive_ok closes
    obtain ⟨rfl, rfl⟩ := Prod.ext_iff.mp (Except.ok.inj accepts)
    refine ⟨?_, emitDeltas_current _, header, rfl, .inr rfl⟩
    rw [appended_append, show appended completed = "" by rw [appended, silent]; rfl,
      String.empty_append]
    exact (appended_append [_] _).trans (appended_emitDeltas _)

/-- The last field of a segment id is its number. -/
theorem segment_digits (start : String) (count : Nat) :
    ((start ++ ":segment:" ++ toString count).toList.reverse).takeWhile (· ≠ ':') =
      (Nat.toDigits 10 count).reverse := by
  have plain : ∀ char ∈ (Nat.toDigits 10 count).reverse, decide (char ≠ ':') = true := by
    intro char member
    have digit := Nat.isDigit_of_mem_toDigits (by decide) (by decide) (List.mem_reverse.mp member)
    rw [decide_eq_true_eq]
    rintro rfl
    exact absurd digit (by decide)
  have shown : (toString count).toList = Nat.toDigits 10 count := by
    simp [toString, Nat.repr]
  rw [String.toList_append, String.toList_append, shown, List.reverse_append,
    List.takeWhile_append_of_pos plain]
  simp

theorem segment_inj {first second : String} {count other : Nat}
    (same : first ++ ":segment:" ++ toString count = second ++ ":segment:" ++ toString other) :
    other = count := by
  have equal := segment_digits first count
  rw [same, segment_digits second other] at equal
  have value := congrArg (Nat.ofDigitChars 10 · 0) (List.reverse_inj.mp equal)
  simpa [Nat.ofDigitChars_ten_toDigits] using value

namespace Held

theorem start : Held modelCallId (.start (some modelCallId)) "" := by
  constructor <;> simp [BlockState.start, Dictionary.empty, Dictionary.lookup,
    Dictionary.lookupEntries]

theorem closed (held : Held modelCallId state text) :
    Held modelCallId { state with active := [] } text where
  current := held.current
  distinct := held.distinct
  active := .inl rfl
  unused := held.unused
  owned := held.owned
  known := held.known
  counted := held.counted
  segments := held.segments
  texts := held.texts

theorem visibleText_eq (held : Held modelCallId state text) :
    visibleText modelCallId state = text := by
  rw [visibleText_of_owned held.owned, held.texts]

theorem extend {earlier : List String} (held : Held modelCallId state text)
    (order : state.order = earlier ++ [blockId]) :
    Held modelCallId (emitDeltas modelCallId blockId index carrier state
      (operations carrier block)).1 (text ++ Group.visibleOf carrier (operations carrier block)) := by
  by_cases redacted : carrier = "redacted_thinking"
  · subst redacted
    have nothing : Group.visibleOf "redacted_thinking"
        (operations "redacted_thinking" block) = "" := by
      simp [Group.visibleOf]
    rw [nothing, String.append_empty]
    exact held
  · have emitted := @emitDeltas_emitted modelCallId blockId carrier index state
      (operations carrier block) (operations_numbered redacted)
    have apart : blockId ∉ earlier := by
      have distinct := held.distinct
      rw [order, List.nodup_append] at distinct
      exact fun member => distinct.2.2 blockId member blockId (by simp) rfl
    refine ⟨?_, ?_, ?_, ?_, ?_, ?_, ?_, ?_, ?_⟩
    case refine_1 => rw [emitDeltas_current, held.current]
    case refine_2 => simpa [emitted.order] using held.distinct
    case refine_3 => simpa [emitted.order, emitted.active] using held.active
    case refine_4 =>
      intro other absent
      rw [emitted.order] at absent
      have different : blockId ≠ other := by
        rintro rfl
        exact absent (by simp [order])
      rw [emitted.otherTexts other different, held.unused other absent]
    case refine_5 => exact emitted.owned held.owned
    case refine_6 => simpa [emitted.order, emitted.metadata] using held.known
    case refine_7 => simpa [emitted.order, emitted.metadata] using held.counted
    case refine_8 => simpa [emitted.order] using held.segments
    case refine_9 =>
      have before := held.texts
      rw [order, List.map_append, String.join_append] at before
      have same : earlier.map (fun other => ((emitDeltas modelCallId blockId index carrier state
            (operations carrier block)).1.normalizedText.lookup other).getD "") =
          earlier.map fun other => (state.normalizedText.lookup other).getD "" := by
        refine List.map_congr_left fun other member => ?_
        rw [emitted.otherTexts other fun same => apart (same ▸ member)]
      rw [emitted.order, order, List.map_append, String.join_append, same, ← before]
      simp [emitted.texts, String.append_assoc]

theorem fresh (held : Held modelCallId state text) :
    publicBlockId modelCallId state header ∉ state.order := by
  intro member
  unfold publicBlockId at member
  dsimp only at member
  split at member
  · have early := held.segments _ member _ _ rfl
    rw [held.counted] at early
    exact lt_irrefl _ early
  case isFalse absent =>
    exact absent ((held.known _).mpr member)

theorem opened (held : Held modelCallId state text) (closed : state.active = [])
    (read : readHeader block = .ok header) (plain : NoSegment modelCallId block) :
    Held modelCallId (openBlock modelCallId state header).1 text := by
  have fresh : publicBlockId modelCallId state header ∉ state.order := held.fresh
  have absent : (state.metadata.lookup (publicBlockId modelCallId state header)).isSome ≠ true :=
    fun known => fresh ((held.known _).mp known)
  refine ⟨?_, ?_, ?_, ?_, ?_, ?_, ?_, ?_, ?_⟩
  case refine_1 => exact held.current
  case refine_2 =>
    refine List.nodup_append.mpr ⟨held.distinct, by simp, ?_⟩
    rintro other member _ single rfl
    exact fresh (List.mem_singleton.mp single ▸ member)
  case refine_3 => exact .inr ⟨state.order, _, rfl, by simp [openBlock, closed]⟩
  case refine_4 =>
    intro other absent
    exact held.unused other fun member => absent (by simp [openBlock, member])
  case refine_5 => exact held.owned
  case refine_6 =>
    intro other
    simp only [openBlock, Dictionary.lookup_insert, List.mem_append, List.mem_singleton,
      ← held.known]
    split
    case isTrue same => simp [same]
    case isFalse different => simp [Ne.symm different]
  case refine_7 =>
    have missing : publicBlockId modelCallId state header ∉
        state.metadata.entries.map Prod.fst := by
      intro member
      exact absent (Dictionary.lookupEntries_isSome.mpr member)
    simp only [openBlock, List.length_append, List.length_singleton, ← held.counted]
    simp [Dictionary.insert, Dictionary.insertEntries_of_not_mem missing]
  case refine_8 =>
    intro other member start count same
    simp only [openBlock, List.length_append, List.length_singleton]
    rcases List.mem_append.mp member with early | new
    · exact Nat.lt_succ_of_lt (held.segments other early start count same)
    · rw [List.mem_singleton.mp new] at same
      unfold publicBlockId at same
      dsimp only at same
      split at same
      · rw [segment_inj same, held.counted]
        exact Nat.lt_succ_self _
      · exact absurd same (plain header read state held.current start count)
  case refine_9 =>
    simp [openBlock, String.join_append, held.texts, held.unused _ fresh]

theorem accept (held : Held modelCallId state text) (plain : NoSegment modelCallId block)
    (accepts : acceptContentBlock modelCallId state block = .ok (after, events)) :
    Held modelCallId after (text ++ blockVisible block) := by
  obtain ⟨-, -, header, read, ⟨continues, rfl⟩ | rfl⟩ := acceptContentBlock_ok accepts
  all_goals rw [show blockVisible block = Group.visibleOf header.carrierType
    (operations header.carrierType block) by rw [blockVisible, read]]
  · rcases held.active with none | ⟨earlier, last, order, active⟩
    · simp [none] at continues
    · rw [active, List.mem_singleton] at continues
      rw [continues]
      exact held.extend order
  · exact (held.closed.opened rfl read plain).extend rfl

end Held

end Held

end GraphAgent.StreamBlocks
