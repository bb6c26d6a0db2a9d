import GraphAgent.AgentEventReading

/-!
# The final text of an agent

The visible text of a model call comes as its stream events and as its end event.  The
loop and the message stream count it once, as long as an end event that supplies the
text is the last to bring it.
-/

namespace GraphAgent.AgentEvents

open StreamBlocks PatchParser

structure ModelCall where
  id : String
  chunks : List Chunk
  output : Json

namespace ModelCall

def streamed (call : ModelCall) : String :=
  String.join (call.chunks.map fun chunk => contentVisible chunk.content)

def outputText (call : ModelCall) : String :=
  contentVisible (normalizeEndOutputContent call.id call.output)

def visible (call : ModelCall) : String :=
  if call.streamed = "" then call.outputText else call.streamed

structure Plain (call : ModelCall) : Prop where
  ids : ∀ chunk ∈ call.chunks, ∀ block ∈ chunk.content, NoSegment call.id block
  refusals : ∀ chunk ∈ call.chunks, ∀ block ∈ chunk.content, SameRefusal block
  outputs : ∀ block ∈ normalizeEndOutputContent call.id call.output, SameRefusal block

end ModelCall

namespace Event

def delta? : Event → Option Chunk
  | .delta chunk => some chunk
  | _ => none

def stream? : Event → Option (List ContentBlock)
  | .modelStream content => some content
  | _ => none

def isPrepare : Event → Bool
  | .prepareTool => true
  | _ => false

/-- What happens between the start and the end of a call. -/
def isInner : Event → Bool
  | .delta _ | .modelStream _ | .prepareTool => true
  | _ => false

end Event

/-- An order of the events of a call before and after its end event. -/
structure Consumes (call : ModelCall) (before after : List Event) : Prop where
  inner : ∀ event ∈ before ++ after, event.isInner = true
  deltas : before.filterMap Event.delta? = call.chunks
  lateDeltas : after.filterMap Event.delta? = []
  streams : (before ++ after).filterMap Event.stream? = call.chunks.map Chunk.content ∨
    (before ++ after).filterMap Event.stream? = []
  once : (∃ content ∈ before.filterMap Event.stream?, ∃ block ∈ content,
      ¬Blank (blockVisible block)) ∨
    before.any Event.isPrepare = false ∧
      ∀ content ∈ after.filterMap Event.stream?, contentVisible content = ""

/-- The events of a run with its calls and those since the last start of a tool. -/
inductive Consumed : List ModelCall → List ModelCall → List Event → Prop
  | nil : Consumed [] [] []
  | call {calls recent : List ModelCall} {events before after : List Event} {call : ModelCall} :
      Consumed calls recent events → call.Plain → Consumes call before after →
      Consumed (calls ++ [call]) (recent ++ [call])
        (events ++ (.modelStart call.id :: before ++ .modelEnd call.output :: after))
  | prepareTool {calls recent : List ModelCall} {events : List Event} :
      Consumed calls recent events → Consumed calls recent (events ++ [.prepareTool])
  | toolStart {calls recent : List ModelCall} {events : List Event} :
      Consumed calls recent events → Consumed calls [] (events ++ [.toolStart])

/-- The visible texts of the message stream with their model calls. -/
def LoopState.shown (state : LoopState) : List (String × String) :=
  state.committed.filterMap fun entry => entry.2.appended?.map (entry.1, ·)

/-- The final text is that of the calls, each once and in their order, and so is
the text of the message stream. -/
structure CountsOnce (calls recent : List ModelCall) (state : LoopState) : Prop where
  final : state.finalText = strip (String.join (recent.map ModelCall.visible)).toList
  stream : ∃ segments : List (List (String × String)), state.shown = segments.flatten ∧
    List.Forall₂ (fun call segment => (∀ entry ∈ segment, entry.1 = call.id) ∧
      String.join (segment.map Prod.snd) = call.visible) calls segments

section Calls

variable {call : ModelCall} {heard shown : String} {base : List String}
  {log : List (String × BlockEvent)} {finished : Bool} {state after : LoopState}

def heardOf (events : List Event) : String :=
  String.join ((events.filterMap Event.stream?).map contentVisible)

def shownOf (events : List Event) : String :=
  String.join ((events.filterMap Event.delta?).map fun chunk => contentVisible chunk.content)

theorem Reading.run (events : List Event) (inner : ∀ event ∈ events, event.isInner = true)
    (ids : ∀ chunk ∈ events.filterMap Event.delta?, ∀ block ∈ chunk.content,
      NoSegment call.id block)
    (refusals : ∀ content ∈ events.filterMap Event.stream?, ∀ block ∈ content, SameRefusal block)
    (reading : Reading call.id base log heard shown finished state)
    (runs : state.run events = .ok after) :
    Reading call.id base log (heard ++ heardOf events) (shown ++ shownOf events)
      (finished || events.any Event.isPrepare) after := by
  induction events generalizing heard shown finished state with
  | nil =>
    cases runs
    simpa [heardOf, shownOf] using reading
  | cons event events ih =>
    obtain ⟨middle, first, rest⟩ := Transaction.bind_ok runs
    have rests : ∀ {heard shown finished},
        Reading call.id base log heard shown finished middle →
        Reading call.id base log (heard ++ heardOf events) (shown ++ shownOf events)
          (finished || events.any Event.isPrepare) after := by
      intro heard shown finished reading
      refine ih (fun other member => inner other (by simp [member])) ?_ ?_ reading rest
      · exact fun chunk member => ids chunk (by
          rw [List.filterMap_cons]
          split <;> simp [member])
      · exact fun content member => refusals content (by
          rw [List.filterMap_cons]
          split <;> simp [member])
    cases event with
    | modelStart | modelEnd | toolStart => simp [Event.isInner] at inner
    | delta chunk =>
      obtain ⟨blocks, accepted, counted⟩ := Transaction.bind_ok first
      have next := rests ((reading.acceptBlocks chunk.content
        (fun _ => ids chunk (by simp [Event.delta?])) accepted).acceptToolCallChunks _ counted)
      simpa [heardOf, shownOf, List.filterMap_cons, Event.delta?, Event.stream?,
        Event.isPrepare, String.append_assoc] using next
    | modelStream content =>
      have next := rests (reading.recordContent (refusals content (by simp [Event.stream?])) first)
      simpa [heardOf, shownOf, List.filterMap_cons, Event.delta?, Event.stream?,
        Event.isPrepare, String.append_assoc] using next
    | prepareTool =>
      have next := rests (reading.finish first)
      simpa [heardOf, shownOf, List.filterMap_cons, Event.delta?, Event.stream?,
        Event.isPrepare] using next

theorem setDefault_type {key blockType : String} {value : Json} {block : ContentBlock}
    (type : field block "type" = .str blockType) :
    field (setDefault key value block) "type" = .str blockType := by
  unfold setDefault
  split
  · exact type
  · have found : ∀ entries : ContentBlock,
        Dictionary.lookupEntries "type" entries = some (.str blockType) →
        Dictionary.lookupEntries "type" (entries ++ [(key, value)]) = some (.str blockType) := by
      intro entries
      induction entries with
      | nil => simp [Dictionary.lookupEntries]
      | cons entry entries ih =>
        simp only [Dictionary.lookupEntries, List.cons_append]
        split
        · exact id
        · exact ih
    rw [field, found block (lookup_of_field type)]
    rfl

theorem normalizeEndBlock_type {fallbackPrefix : String} {index : Nat} {entry : Json}
    {block : ContentBlock} (normal : normalizeEndBlock fallbackPrefix index entry = some block) :
    ∃ blockType, field block "type" = .str blockType := by
  unfold normalizeEndBlock at normal
  split at normal
  · split at normal <;> cases normal
    exact ⟨"text", rfl⟩
  · split at normal
    case h_1 blockType type =>
      split at normal <;> cases normal
      exact ⟨blockType, setDefault_type (setDefault_type type)⟩
    · cases normal
  · cases normal

theorem endOutput_type {modelCallId : String} {output : Json} {block : ContentBlock}
    (member : block ∈ normalizeEndOutputContent modelCallId output) :
    ∃ blockType, field block "type" = .str blockType := by
  unfold normalizeEndOutputContent at member
  dsimp only at member
  split at member
  · split at member
    · cases member
    · rw [List.mem_singleton.mp member]
      exact ⟨"text", rfl⟩
  · obtain ⟨entry, -, normal⟩ := List.mem_filterMap.mp member
    exact normalizeEndBlock_type normal
  · cases member

/-- Reasoning that is left out has no visible text. -/
theorem contentVisible_filter {blocks : List ContentBlock}
    (typed : ∀ block ∈ blocks, ∃ blockType, field block "type" = .str blockType) :
    contentVisible (blocks.filter fun block =>
      match field block "type" with
      | .str blockType => decide (blockType ∈ visibleTypes)
      | _ => false) = contentVisible blocks := by
  induction blocks with
  | nil => rfl
  | cons block blocks ih =>
    obtain ⟨blockType, type⟩ := typed block (by simp)
    have rest := ih fun other member => typed other (by simp [member])
    unfold contentVisible at rest ⊢
    by_cases visible : blockType ∈ visibleTypes
    · simp [type, visible, rest]
    · simp [type, visible, rest, blockVisible_of_hidden type visible]

theorem endOutputBlocks_visible (named : state.modelCallId = call.id) :
    contentVisible (state.endOutputBlocks call.output) = call.outputText := by
  unfold LoopState.endOutputBlocks
  rw [named]
  dsimp only
  split
  · exact contentVisible_filter fun _ => endOutput_type
  · rfl

theorem mem_endOutputBlocks (named : state.modelCallId = call.id) {block : ContentBlock}
    (member : block ∈ state.endOutputBlocks call.output) :
    block ∈ normalizeEndOutputContent call.id call.output := by
  unfold LoopState.endOutputBlocks at member
  rw [named] at member
  dsimp only at member
  split at member
  · exact List.mem_of_mem_filter member
  · exact member

theorem Heard.unseen (heardBefore : Heard base heard state)
    (unseen : state.latestModelVisibleTextSeen = false) : Blank heard ∧ Heard base "" state := by
  obtain ⟨dropped, added, collected, rfl, blank, -, seen, filled⟩ := heardBefore
  have nothing : added = [] := by simpa [unseen] using seen
  subst nothing
  exact ⟨by simpa using blank, "", [], collected, by simp, by simp [Blank], fun _ => rfl, by
    simpa using seen, filled⟩

theorem Heard.seen (heardBefore : Heard base heard state)
    (seen : state.latestModelVisibleTextSeen = true) : heard ≠ "" := by
  obtain ⟨dropped, added, -, rfl, -, -, added?, filled⟩ := heardBefore
  cases added with
  | nil => simp [seen] at added?
  | cons text added =>
    intro empty
    simp only [String.join_cons, String.append_eq_empty_iff] at empty
    exact filled text (by simp) empty.2.1

theorem Reading.supply (plain : call.Plain)
    (reading : Reading call.id base log heard call.streamed false state)
    (unseen : state.latestModelVisibleTextSeen = false)
    (supplies : state.supplyText call.output = .ok after) :
    Reading call.id base log call.visible call.visible true after := by
  have named : state.modelCallId = call.id := by simp [LoopState.modelCallId, reading.current]
  have silent : Reading call.id base log "" call.streamed true state :=
    ⟨reading.current, (fun finished => by cases finished), reading.committed, (reading.heard.unseen unseen).2⟩
  unfold LoopState.supplyText at supplies
  rw [named, (reading.held rfl).visibleText_eq] at supplies
  dsimp only at supplies
  split at supplies
  case isTrue filled =>
    cases supplies
    have told := silent.recordPart (.markdown call.streamed)
    rw [ModelCall.visible, if_neg filled]
    simpa [Part.text] using told
  case isFalse empty =>
    obtain ⟨middle, accepted, records⟩ := Transaction.bind_ok supplies
    have shown := silent.acceptBlocks _ (fun finished => by cases finished) accepted
    have told := shown.recordContent
      (fun block member => plain.outputs block (mem_endOutputBlocks named member)) records
    rw [endOutputBlocks_visible named, not_not.mp empty] at told
    rw [ModelCall.visible, if_pos (not_not.mp empty)]
    simpa using told

theorem run_append {first second : List Event}
    (runs : state.run (first ++ second) = .ok after) :
    ∃ middle, state.run first = .ok middle ∧ middle.run second = .ok after := by
  induction first generalizing state with
  | nil => exact ⟨state, rfl, runs⟩
  | cons event events ih =>
    obtain ⟨next, steps, rest⟩ := Transaction.bind_ok runs
    obtain ⟨middle, early, late⟩ := ih rest
    refine ⟨middle, ?_, late⟩
    rw [LoopState.run, steps]
    exact early

theorem heardOf_append (before after : List Event) :
    heardOf (before ++ after) = heardOf before ++ heardOf after := by
  simp [heardOf, String.join_append]

theorem not_blank_heardOf {events : List Event} {content : List ContentBlock}
    {block : ContentBlock} (streamed : content ∈ events.filterMap Event.stream?)
    (member : block ∈ content) (filled : ¬Blank (blockVisible block)) :
    ¬Blank (heardOf events) := by
  intro blank
  refine filled fun char present => blank char ?_
  have inside : ∀ (texts : List String) (text : String), text ∈ texts → char ∈ text.toList →
      char ∈ (String.join texts).toList := by
    intro texts text member present
    rw [String.toList_join]
    exact List.mem_flatMap.mpr ⟨text, member, present⟩
  exact inside _ _ (List.mem_map_of_mem streamed)
    (inside _ _ (List.mem_map_of_mem member) present)

theorem join_eq_empty {texts : List String} (empty : ∀ text ∈ texts, text = "") :
    String.join texts = "" := by
  induction texts with
  | nil => rfl
  | cons text texts ih =>
    rw [String.join_cons, empty text (by simp), ih fun other member => empty other (by simp [member])]
    rfl

theorem join_filterMap_stream (events : List Event)
    (streams : events.filterMap Event.stream? = call.chunks.map Chunk.content) :
    heardOf events = call.streamed := by
  rw [heardOf, streams, List.map_map]
  rfl

theorem Reading.consume {before later : List Event} (plain : call.Plain)
    (consumes : Consumes call before later)
    (reading : Reading call.id base log "" "" false state)
    (runs : state.run (before ++ .modelEnd call.output :: later) = .ok after) :
    ∃ finished, Reading call.id base log call.visible call.visible finished after := by
  obtain ⟨middle, first, runs⟩ := run_append runs
  obtain ⟨ended, ends, rest⟩ := Transaction.bind_ok runs
  obtain ⟨supplied, supplies, finishes⟩ := Transaction.bind_ok ends
  have contents : ∀ content ∈ (before ++ later).filterMap Event.stream?,
      ∀ block ∈ content, SameRefusal block := by
    intro content member block inside
    rcases consumes.streams with streams | none
    · rw [streams] at member
      obtain ⟨chunk, listed, rfl⟩ := List.mem_map.mp member
      exact plain.refusals chunk listed block inside
    · simp [none] at member
  rw [List.filterMap_append] at contents
  have told := reading.run before (fun event member => consumes.inner event (by simp [member]))
    (by rw [consumes.deltas]; exact plain.ids)
    (fun content member => contents content (by simp [member])) first
  have shown : shownOf before = call.streamed := by
    rw [shownOf, consumes.deltas]
    rfl
  have silent : shownOf later = "" := by
    rw [shownOf, consumes.lateDeltas]
    rfl
  rw [shown, Bool.false_or, String.empty_append, String.empty_append] at told
  have onward : ∀ {heard shown : String}, Reading call.id base log heard shown true ended →
      ∃ finished, Reading call.id base log (heard ++ heardOf later) shown finished after := by
    intro heard shown reading
    have next := reading.run later
      (fun event member => consumes.inner event (by simp [member]))
      (fun chunk member => by rw [consumes.lateDeltas] at member; cases member)
      (fun content member => contents content (by simp [member])) rest
    rw [silent, String.append_empty] at next
    exact ⟨_, next⟩
  cases seen : middle.latestModelVisibleTextSeen with
  | true =>
    -- the stream events have brought text, so the end event adds none
    rw [if_pos seen] at supplies
    cases supplies
    have present := told.heard.seen seen
    rcases consumes.streams with streams | none
    · have total := join_filterMap_stream (before ++ later) streams
      rw [heardOf_append] at total
      have filled : call.streamed ≠ "" := by
        rw [← total]
        intro empty
        exact present (String.append_eq_empty_iff.mp empty).1
      obtain ⟨finished, next⟩ := onward (told.finish finishes)
      rw [total] at next
      rw [ModelCall.visible, if_neg filled]
      exact ⟨finished, next⟩
    · rw [List.filterMap_append, List.append_eq_nil_iff] at none
      refine absurd ?_ present
      rw [heardOf, none.1]
      rfl
  | false =>
    -- the end event supplies the text, and no text comes after it
    rw [if_neg (by simp [seen])] at supplies
    have blank := (told.heard.unseen seen).1
    rcases consumes.once with ⟨content, streamed, block, member, filled⟩ | ⟨unprepared, quiet⟩
    · exact absurd blank (not_blank_heardOf streamed member filled)
    · rw [unprepared] at told
      have nothing : heardOf later = "" := by
        refine join_eq_empty fun text member => ?_
        obtain ⟨content, listed, rfl⟩ := List.mem_map.mp member
        exact quiet content listed
      obtain ⟨finished, next⟩ := onward ((told.supply plain seen supplies).finish finishes)
      rw [nothing, String.append_empty] at next
      exact ⟨finished, next⟩

end Calls

section Runs

variable {calls recent : List ModelCall} {events : List Event} {state after : LoopState}

structure Told (calls recent : List ModelCall) (state : LoopState) : Prop where
  text : ∃ dropped, Blank dropped ∧
    String.join (recent.map ModelCall.visible) = dropped ++ String.join state.collectedTextParts
  stream : ∃ segments : List (List (String × String)), state.shown = segments.flatten ∧
    List.Forall₂ (fun call segment => (∀ entry ∈ segment, entry.1 = call.id) ∧
      String.join (segment.map Prod.snd) = call.visible) calls segments

theorem finishModel_shown (finishes : state.finishModel = .ok after) :
    after.shown = state.shown ∧ after.collectedTextParts = state.collectedTextParts := by
  unfold LoopState.finishModel LoopState.commit StreamBlocks.finishModel at finishes
  cases closed : closeBlocks "upstream_completed" false state.blocks state.blocks.active with
  | error error => simp [closed, Except.map] at finishes
  | ok result =>
    simp only [closed, Except.map, Except.ok.injEq] at finishes
    subst finishes
    have silent := (closeActive_ok closed).2
    refine ⟨?_, rfl⟩
    have quiet : (result.2.map (state.modelCallId, ·)).filterMap
        (fun entry => entry.2.appended?.map (entry.1, ·)) = [] := by
      rw [List.filterMap_map, List.filterMap_eq_nil_iff]
      intro event member
      simp [List.filterMap_eq_nil_iff.mp silent event member]
    simp [LoopState.shown, List.filterMap_append, quiet]

theorem Told.of_shown (told : Told calls recent state) (shown : after.shown = state.shown)
    (collected : after.collectedTextParts = state.collectedTextParts) :
    Told calls recent after where
  text := by simpa [collected] using told.text
  stream := by simpa [shown] using told.stream

theorem Told.start {call : ModelCall} (told : Told calls recent state)
    (starts : state.startModel call.id = .ok after) :
    Told calls recent after ∧
      Reading call.id after.collectedTextParts after.committed "" "" false after := by
  unfold LoopState.startModel at starts
  cases finishes : (if state.blocks.currentModelCallId.isNone = true then .ok state
      else state.finishModel) with
  | error error => simp only [finishes, Except.map, reduceCtorEq] at starts
  | ok finished =>
    simp only [finishes, Except.map, Except.ok.injEq] at starts
    have same : finished.shown = state.shown ∧
        finished.collectedTextParts = state.collectedTextParts := by
      split at finishes
      · cases finishes
        exact ⟨rfl, rfl⟩
      · exact finishModel_shown finishes
    subst starts
    refine ⟨told.of_shown same.1 same.2, rfl, fun _ => Held.start, ⟨[], by simp, rfl⟩, ?_⟩
    exact ⟨"", [], by simp, by simp, by simp [Blank], fun _ => rfl, by simp, by simp⟩

theorem Told.call {call : ModelCall} {finished : Bool}
    {started : LoopState} (told : Told calls recent started)
    (reading : Reading call.id started.collectedTextParts started.committed call.visible
      call.visible finished after) :
    Told (calls ++ [call]) (recent ++ [call]) after where
  text := by
    obtain ⟨dropped, blank, before⟩ := told.text
    obtain ⟨skipped, added, collected, visible, also, whole, -⟩ := reading.heard
    rw [List.map_append, String.join_append, before, collected, String.join_append]
    simp only [List.map_cons, List.map_nil, String.join_cons, String.join_nil,
      String.append_empty]
    rw [visible]
    by_cases empty : started.collectedTextParts = []
    · refine ⟨dropped ++ skipped, blank.append also, ?_⟩
      simp [empty, String.append_assoc]
    · refine ⟨dropped, blank, ?_⟩
      simp [whole empty, String.append_assoc]
  stream := by
    obtain ⟨segments, shown, each⟩ := told.stream
    obtain ⟨events, committed, texts⟩ := reading.committed
    refine ⟨segments ++ [(events.filterMap BlockEvent.appended?).map (call.id, ·)], ?_, ?_⟩
    · rw [LoopState.shown, committed, List.filterMap_append, List.flatten_append, ← shown]
      simp [LoopState.shown, List.filterMap_map, List.map_filterMap]
    · refine List.rel_append each (.cons ⟨?_, ?_⟩ .nil)
      · intro entry member
        obtain ⟨text, -, rfl⟩ := List.mem_map.mp member
        rfl
      · simpa [appended, List.map_map, Function.comp_def] using texts

theorem Consumed.told (consumed : Consumed calls recent events)
    (runs : LoopState.initial.run events = .ok after) : Told calls recent after := by
  induction consumed generalizing after with
  | nil =>
    cases runs
    exact ⟨⟨"", by simp [Blank], rfl⟩, [], rfl, .nil⟩
  | call _ plain consumes ih =>
    obtain ⟨middle, first, runs⟩ := run_append runs
    obtain ⟨started, starts, rest⟩ := Transaction.bind_ok runs
    obtain ⟨told, reading⟩ := (ih first).start starts
    obtain ⟨finished, read⟩ := reading.consume plain consumes rest
    exact told.call read
  | prepareTool _ ih =>
    obtain ⟨middle, first, runs⟩ := run_append runs
    obtain ⟨finished, finishes, rest⟩ := Transaction.bind_ok runs
    cases rest
    obtain ⟨shown, collected⟩ := finishModel_shown finishes
    exact (ih first).of_shown shown collected
  | toolStart _ ih =>
    obtain ⟨middle, first, runs⟩ := run_append runs
    cases runs
    exact ⟨⟨"", by simp [Blank], rfl⟩, (ih first).stream⟩

end Runs

def plainBlock (text : String) : ContentBlock :=
  [("type", .str "text"), ("text", .str text), ("id", .str "a"), ("index", .int 0)]

def plainCall (id text : String) : ModelCall :=
  ⟨id, [⟨[plainBlock text], 0⟩], .str text⟩

def plainEvents (id text : String) : List Event :=
  [.modelStart id, .delta ⟨[plainBlock text], 0⟩, .modelStream [plainBlock text],
    .modelEnd (.str text)]

def toolEvents : List Event :=
  plainEvents "m" "x" ++ [.prepareTool, .toolStart] ++ plainEvents "n" "y"

theorem plainCall_plain (id text : String) : (plainCall id text).Plain where
  ids := by
    intro chunk listed block member header read state _ start count same
    rw [List.mem_singleton.mp listed] at member
    rw [List.mem_singleton.mp member] at read
    have known : readHeader (plainBlock text) = .ok ⟨some 0, "text", some "a"⟩ := rfl
    cases known.symm.trans read
    have digits := segment_digits start count
    rw [← same] at digits
    have letter : 'a' ∈ (Nat.toDigits 10 count).reverse := by
      rw [← digits]
      simp [scopedBlockId]
    exact absurd (Nat.isDigit_of_mem_toDigits (by decide) (by decide)
      (List.mem_reverse.mp letter)) (by decide)
  refusals := by
    intro chunk listed block member type
    rw [List.mem_singleton.mp listed] at member
    rw [List.mem_singleton.mp member] at type
    simp [plainBlock, field, Dictionary.lookupEntries] at type
  outputs := by
    intro block member type
    by_cases empty : text = ""
    · simp [plainCall, normalizeEndOutputContent, empty] at member
    · simp only [plainCall, normalizeEndOutputContent, if_neg empty, List.mem_singleton] at member
      rw [member] at type
      simp [endText, field, Dictionary.lookupEntries] at type

theorem plainEvents_consumes (id : String) {text : String}
    (shown : blockVisible (plainBlock text) = text) (filled : ¬Blank text) :
    Consumes (plainCall id text)
      [.delta ⟨[plainBlock text], 0⟩, .modelStream [plainBlock text]] [] where
  inner := by simp [Event.isInner]
  deltas := rfl
  lateDeltas := rfl
  streams := .inl rfl
  once := .inl ⟨[plainBlock text], by simp [Event.stream?, List.filterMap_cons], plainBlock text,
    by simp, by rwa [shown]⟩

theorem toolEvents_consumed :
    Consumed [plainCall "m" "x", plainCall "n" "y"] [plainCall "n" "y"] toolEvents := by
  have first := plainEvents_consumes "m" (show blockVisible (plainBlock "x") = "x" by decide +kernel)
    fun blank => absurd (blank 'x' (by simp)) (by decide)
  have second := plainEvents_consumes "n" (show blockVisible (plainBlock "y") = "y" by decide +kernel)
    fun blank => absurd (blank 'y' (by simp)) (by decide)
  exact .call (.toolStart (.prepareTool (.call .nil (plainCall_plain "m" "x") first)))
    (plainCall_plain "n" "y") second

theorem toolEvents_text :
    ∃ final, LoopState.initial.run toolEvents = .ok final ∧ final.finalText = ['y'] := by
  have text : ((LoopState.initial.run toolEvents).map LoopState.finalText).toOption =
      some ['y'] := by
    decide +kernel
  cases runs : LoopState.initial.run toolEvents with
  | error error => simp [runs, Except.map, Except.toOption] at text
  | ok final => exact ⟨final, rfl, by simpa [runs, Except.map, Except.toOption] using text⟩

end GraphAgent.AgentEvents
