import Mathlib.Data.List.TakeWhile
import GraphAgent.AgentEventLoop
import GraphAgent.BlockTexts

/-!
# What the event loop reads of a model call

The text of a model call reaches the loop as parts of streamed content and the message
stream as the deltas of its blocks, and both readers find the same text in a block.
-/

namespace GraphAgent.AgentEvents

open StreamBlocks PatchParser

def Part.text : Part → String
  | .reasoning => ""
  | .markdown text => text

def SameRefusal (block : ContentBlock) : Prop :=
  field block "type" = .str "refusal" → field block "text" = field block "refusal"

def Blank (text : String) : Prop :=
  ∀ char ∈ text.toList, isSpace char = true

/-- What the loop has collected of a call, after the base of the calls before. -/
def Heard (base : List String) (heard : String) (state : LoopState) : Prop :=
  ∃ dropped added, state.collectedTextParts = base ++ added ∧
    heard = dropped ++ String.join added ∧ Blank dropped ∧ (base ≠ [] → dropped = "") ∧
    (state.latestModelVisibleTextSeen = true ↔ added ≠ []) ∧ ∀ text ∈ added, text ≠ ""

section Parts

variable {block : ContentBlock} {position : Nat} {part : Option Part} {blockType key text : String}
  {content : List ContentBlock} {parts : List Part}

theorem blank_of_strip (stripped : strip text.toList = []) : Blank text := by
  have rest : ∀ char ∈ text.toList.dropWhile isSpace, isSpace char = true := by
    rw [strip, List.reverse_eq_nil_iff, List.dropWhile_eq_nil_iff] at stripped
    exact fun char member => stripped char (List.mem_reverse.mpr member)
  intro char member
  have split := @List.takeWhile_append_dropWhile _ isSpace text.toList
  rw [← split, List.mem_append] at member
  rcases member with early | late
  · exact List.mem_takeWhile_imp early
  · exact rest char late

theorem strip_append (blank : Blank text) (rest : String) :
    strip (text ++ rest).toList = strip rest.toList := by
  rw [strip, strip, String.toList_append, List.dropWhile_append_of_pos blank]

theorem Blank.append {first second : String} (blank : Blank first) (also : Blank second) :
    Blank (first ++ second) := by
  intro char member
  rw [String.toList_append, List.mem_append] at member
  exact member.elim (blank char) (also char)

theorem lookup_of_field (found : field block key = .str text) :
    Dictionary.lookupEntries key block = some (.str text) := by
  unfold field at found
  cases looked : Dictionary.lookupEntries key block with
  | none => simp [looked] at found
  | some value => simpa [looked] using found

theorem carrierType_of_field (type : field block "type" = .str blockType)
    (filled : blockType ≠ "") : carrierType block = .ok blockType := by
  rw [carrierType, lookup_of_field type]
  exact if_neg filled

theorem blockVisible_of_hidden (type : field block "type" = .str blockType)
    (hidden : blockType ∉ visibleTypes) : blockVisible block = "" := by
  unfold blockVisible
  split
  case h_1 header read =>
    obtain ⟨index, -, read⟩ := Transaction.bind_ok read
    obtain ⟨carrier, typed, read⟩ := Transaction.bind_ok read
    obtain ⟨id, -, read⟩ := Transaction.bind_ok read
    cases read
    rw [carrierType, lookup_of_field type] at typed
    dsimp only at typed
    split at typed
    · cases typed
    · cases typed
      exact if_neg hidden
  case h_2 => rfl

theorem identified_ok {found : Part} (type : field block "type" = .str blockType)
    (filled : blockType ≠ "") (identifies : identified position block found = .ok part) :
    part = some found ∧ ∃ header, readHeader block = .ok header ∧ header.carrierType = blockType := by
  unfold identified at identifies
  split at identifies
  case h_2 => cases identifies
  case h_1 id named =>
    split at identifies
    · cases identifies
    case isFalse present =>
      split at identifies
      case h_2 => cases identifies
      case h_1 index indexed =>
        split at identifies
        · cases identifies
        case isFalse natural =>
          cases identifies
          refine ⟨rfl, ⟨some index.toNat, blockType, some id⟩, ?_, rfl⟩
          have indexOk : blockIndex? block = .ok (some index.toNat) := by
            rw [blockIndex?, indexed]
            exact if_pos (by omega)
          have idOk : providerId? block = .ok (some id) := by
            rw [providerId?, named]
            exact if_neg present
          rw [readHeader, indexOk, carrierType_of_field type filled, idOk]
          rfl

theorem markdownPart_ok (type : field block "type" = .str blockType)
    (visible : blockType ∈ visibleTypes) (same : field block "text" = field block key)
    (marks : markdownPart position block key = .ok part) :
    ∃ text, part = some (.markdown text) ∧ blockVisible block = text := by
  unfold markdownPart at marks
  split at marks
  case h_2 => cases marks
  case h_1 text found =>
    have filled : blockType ≠ "" := by
      rintro rfl
      simp [visibleTypes] at visible
    obtain ⟨rfl, header, read, rfl⟩ := identified_ok type filled marks
    refine ⟨text, rfl, ?_⟩
    have read? : blockText header.carrierType block = some text := by
      rw [blockText, same, found]
      rfl
    have plain : header.carrierType ≠ "reasoning_items" ∧
        header.carrierType ≠ "redacted_thinking" := by
      constructor <;> intro equal <;> simp [equal, visibleTypes] at visible
    rw [blockVisible, read]
    dsimp only
    rw [operations, if_neg plain.1, if_neg plain.2, read?]
    rw [Group.visibleOf, if_pos (show header.carrierType ∈ ["text", "output_text", "refusal"]
      from visible)]
    by_cases empty : text = "" <;> simp [empty]

theorem partOf_text (same : SameRefusal block) (reads : partOf position block = .ok part) :
    String.join (part.toList.map Part.text) = blockVisible block := by
  unfold partOf at reads
  split at reads
  case h_2 => cases reads
  case h_1 blockType type =>
    split at reads
    case isTrue toolCall =>
      cases reads
      rw [blockVisible_of_hidden type]
      · rfl
      · rintro visible
        simp [visibleTypes] at toolCall visible
        rcases toolCall with rfl | rfl <;> simp at visible
    split at reads
    case isTrue reasoning =>
      have filled : blockType ≠ "" := by
        rintro rfl
        simp [reasoningTypes] at reasoning
      obtain ⟨rfl, -⟩ := identified_ok type filled reads
      rw [blockVisible_of_hidden type]
      · rfl
      · intro visible
        simp only [reasoningTypes, visibleTypes, List.mem_cons, List.not_mem_nil, or_false]
          at reasoning visible
        rcases visible with rfl | rfl | rfl <;> simp at reasoning
    split at reads
    case isTrue plain =>
      have visible : blockType ∈ visibleTypes := by
        simp only [visibleTypes, List.mem_cons, List.not_mem_nil, or_false] at plain ⊢
        tauto
      obtain ⟨text, rfl, shown⟩ := markdownPart_ok type visible rfl reads
      rw [shown]
      simp [Part.text]
    split at reads
    case isTrue refusal =>
      subst refusal
      obtain ⟨text, rfl, shown⟩ := markdownPart_ok type (by decide) (same type) reads
      rw [shown]
      simp [Part.text]
    case isFalse => cases reads

theorem extractParts_text (same : ∀ block ∈ content, SameRefusal block)
    (reads : extractParts position content = .ok parts) :
    String.join (parts.map Part.text) = contentVisible content := by
  induction content generalizing position parts with
  | nil =>
    cases reads
    rfl
  | cons block blocks ih =>
    obtain ⟨part, first, reads⟩ := Transaction.bind_ok reads
    cases others : extractParts (position + 1) blocks with
    | error error => simp [others, Except.map] at reads
    | ok rest =>
      simp only [others, Except.map, Except.ok.injEq] at reads
      subst reads
      rw [List.map_append, String.join_append, partOf_text (same block (by simp)) first,
        ih (fun other member => same other (by simp [member])) others]
      simp [contentVisible]

end Parts

/-- What a model call has brought to the loop and to the message stream. -/
structure Reading (modelCallId : String) (base : List String)
    (log : List (String × BlockEvent)) (heard shown : String) (finished : Bool)
    (state : LoopState) : Prop where
  current : state.blocks.currentModelCallId = some modelCallId
  held : finished = false → Held modelCallId state.blocks shown
  committed : ∃ events, state.committed = log ++ events.map (modelCallId, ·) ∧
    appended events = shown
  heard : Heard base heard state

section Reading

variable {modelCallId heard shown new : String} {base : List String}
  {log : List (String × BlockEvent)} {finished late : Bool} {state after : LoopState}

theorem Heard.recordPart (heardBefore : Heard base heard state) (part : Part) :
    Heard base (heard ++ part.text) (state.recordPart part) := by
  obtain ⟨dropped, added, collected, rfl, blank, whole, seen, filled⟩ := heardBefore
  cases part with
  | reasoning => exact ⟨dropped, added, collected, by simp [Part.text], blank, whole, seen, filled⟩
  | markdown text =>
    simp only [LoopState.recordPart, Part.text]
    split
    case isTrue records =>
      refine ⟨dropped, added ++ [text], by simp [collected], ?_, blank, whole, by simp, ?_⟩
      · simp [String.join_append, String.append_assoc]
      · intro other member
        rcases List.mem_append.mp member with early | new
        · exact filled other early
        · rw [List.mem_singleton.mp new]
          exact records.1
    case isFalse skips =>
      by_cases empty : text = ""
      · exact ⟨dropped, added, collected, by simp [empty], blank, whole, seen, filled⟩
      · have skipped : strip text.toList = [] ∧ state.collectedTextParts = [] := by
          simpa [empty, not_or] using skips
        rw [collected, List.append_eq_nil_iff] at skipped
        obtain ⟨stripped, rfl, rfl⟩ := skipped
        exact ⟨dropped ++ text, [], by simpa using collected, by simp,
          blank.append (blank_of_strip stripped), by simp, seen, by simp⟩

theorem recordPart_frame (part : Part) :
    (state.recordPart part).blocks = state.blocks ∧
      (state.recordPart part).committed = state.committed := by
  cases part with
  | reasoning => exact ⟨rfl, rfl⟩
  | markdown text =>
    simp only [LoopState.recordPart]
    split <;> exact ⟨rfl, rfl⟩

theorem Reading.recordPart (reading : Reading modelCallId base log heard shown finished state)
    (part : Part) :
    Reading modelCallId base log (heard ++ part.text) shown finished (state.recordPart part) where
  current := by rw [(recordPart_frame part).1, reading.current]
  held unfinished := by
    rw [(recordPart_frame part).1]
    exact reading.held unfinished
  committed := by
    rw [(recordPart_frame part).2]
    exact reading.committed
  heard := reading.heard.recordPart part

theorem Reading.recordParts (parts : List Part)
    (reading : Reading modelCallId base log heard shown finished state) :
    Reading modelCallId base log (heard ++ String.join (parts.map Part.text)) shown finished
      (state.recordModelContentParts parts) := by
  induction parts generalizing heard state with
  | nil => simpa [LoopState.recordModelContentParts] using reading
  | cons part parts ih =>
    have rest := ih (reading.recordPart part)
    simpa [LoopState.recordModelContentParts, String.append_assoc] using rest

theorem Reading.recordContent {content : List ContentBlock}
    (reading : Reading modelCallId base log heard shown finished state)
    (same : ∀ block ∈ content, SameRefusal block)
    (records : state.recordContent content = .ok after) :
    Reading modelCallId base log (heard ++ contentVisible content) shown finished after := by
  unfold LoopState.recordContent at records
  split at records
  · cases records
  case h_2 parts reads =>
    cases records
    rw [← extractParts_text same reads]
    exact reading.recordParts parts

theorem Reading.commit {result : Except BlockError (BlockState × List BlockEvent)}
    (reading : Reading modelCallId base log heard shown finished state)
    (keeps : ∀ blocks events, result = .ok (blocks, events) →
      blocks.currentModelCallId = state.blocks.currentModelCallId ∧ appended events = new ∧
        (late = false → Held modelCallId blocks (shown ++ new)))
    (commits : state.commit result = .ok after) :
    Reading modelCallId base log heard (shown ++ new) late after := by
  unfold LoopState.commit at commits
  split at commits
  · cases commits
  case h_2 blocks events =>
    cases commits
    obtain ⟨current, emits, held⟩ := keeps blocks events rfl
    obtain ⟨before, committed, texts⟩ := reading.committed
    refine ⟨current.trans reading.current, held, ⟨before ++ events, ?_, ?_⟩, reading.heard⟩
    · simp [committed, LoopState.modelCallId, reading.current]
    · rw [appended_append, texts, emits]

theorem Reading.acceptBlocks (blocks : List ContentBlock)
    (plain : finished = false → ∀ block ∈ blocks, NoSegment modelCallId block)
    (reading : Reading modelCallId base log heard shown finished state)
    (accepts : state.acceptBlocks blocks = .ok after) :
    Reading modelCallId base log heard (shown ++ contentVisible blocks) finished after := by
  induction blocks generalizing shown state with
  | nil =>
    cases accepts
    simpa [contentVisible] using reading
  | cons block blocks ih =>
    obtain ⟨middle, first, rest⟩ := Transaction.bind_ok accepts
    have named : state.modelCallId = modelCallId := by simp [LoopState.modelCallId, reading.current]
    have next : Reading modelCallId base log heard (shown ++ blockVisible block) finished middle := by
      refine reading.commit ?_ first
      intro after events accepted
      rw [named] at accepted
      have shape := acceptContentBlock_ok accepted
      exact ⟨shape.2.1, shape.1, fun unfinished =>
        (reading.held unfinished).accept (plain unfinished block (by simp)) accepted⟩
    have all := ih (fun unfinished other member => plain unfinished other (by simp [member]))
      next rest
    simpa [contentVisible, String.append_assoc] using all

theorem Reading.closeActive {reason : String} {isPartial : Bool} {blocks : BlockState}
    {events : List BlockEvent}
    (reading : Reading modelCallId base log heard shown finished state)
    (closes : closeBlocks reason isPartial state.blocks state.blocks.active =
      .ok (blocks, events)) :
    blocks.currentModelCallId = state.blocks.currentModelCallId ∧ appended events = "" ∧
      (finished = false → Held modelCallId blocks (shown ++ "")) := by
  obtain ⟨rfl, silent⟩ := closeActive_ok closes
  refine ⟨rfl, by rw [appended, silent]; rfl, fun unfinished => ?_⟩
  rw [String.append_empty]
  exact (reading.held unfinished).closed

theorem Reading.acceptToolCallChunks (count : Nat)
    (reading : Reading modelCallId base log heard shown finished state)
    (accepts : state.acceptToolCallChunks count = .ok after) :
    Reading modelCallId base log heard shown finished after := by
  induction count generalizing state with
  | zero =>
    cases accepts
    exact reading
  | succ count ih =>
    obtain ⟨middle, first, rest⟩ := Transaction.bind_ok accepts
    refine ih ?_ rest
    have next := reading.commit (fun _ _ closes => reading.closeActive closes) first
    rwa [String.append_empty] at next

theorem Reading.finish (reading : Reading modelCallId base log heard shown finished state)
    (finishes : state.finishModel = .ok after) :
    Reading modelCallId base log heard shown true after := by
  have next : Reading modelCallId base log heard (shown ++ "") true after := by
    refine reading.commit ?_ finishes
    intro blocks events closes
    unfold StreamBlocks.finishModel at closes
    cases closed : closeBlocks "upstream_completed" false state.blocks state.blocks.active with
    | error error => simp [closed, Except.map] at closes
    | ok result =>
      obtain ⟨current, silent, -⟩ := reading.closeActive closed
      simp only [closed, Except.map, Except.ok.injEq, Prod.mk.injEq] at closes
      obtain ⟨rfl, rfl⟩ := closes
      exact ⟨current, silent, fun finished => by cases finished⟩
  rwa [String.append_empty] at next

end Reading

end GraphAgent.AgentEvents
