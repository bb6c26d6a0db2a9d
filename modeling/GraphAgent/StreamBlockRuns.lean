import Mathlib.Data.List.Induction
import GraphAgent.StreamBlocks

/-!
# Runs of one identity and public blocks

The content blocks of a model call fall into maximal runs of one provider
identity, which tool-call chunks interrupt.  The events of a run are those of one
public block, as long as the ids are resolved to it.
-/

namespace GraphAgent.StreamBlocks

inductive Input where
  | content (header : Header) (block : ContentBlock)
  | toolCall

structure Group where
  identity : Identity
  blocks : List (Header × ContentBlock)

namespace Group

def operations (group : Group) : List Operation :=
  group.blocks.flatMap fun entry => StreamBlocks.operations entry.1.carrierType entry.2

def visibleOf (carrier : String) (operations : List Operation) : String :=
  if carrier ∈ ["text", "output_text", "refusal"] then
    String.join (operations.filterMap fun operation =>
      match operation with
      | .append text => some text
      | _ => none)
  else
    ""

def visible (group : Group) : String :=
  String.join (group.blocks.map fun entry =>
    visibleOf entry.1.carrierType (StreamBlocks.operations entry.1.carrierType entry.2))

def add (group : Group) (header : Header) (block : ContentBlock) : Group :=
  { group with blocks := group.blocks ++ [(header, block)] }

end Group

abbrev Grouping := List Group × Option Group

def Grouping.extend (grouping : Grouping) : Input → Grouping
  | .toolCall => (grouping.1 ++ grouping.2.toList, none)
  | .content header block =>
    match grouping.2 with
    | some group =>
      if group.identity = header.identity then (grouping.1, some (group.add header block))
      else (grouping.1 ++ [group], some ⟨header.identity, [(header, block)]⟩)
    | none => (grouping.1, some ⟨header.identity, [(header, block)]⟩)

def grouped (inputs : List Input) : Grouping :=
  inputs.foldl Grouping.extend ([], none)

/-- What an event says about its block. -/
inductive Mark where
  | started
  | delta (localSeq : Option Nat) (operation : Operation)
  | completed

def BlockEvent.mark (event : BlockEvent) : String × Mark :=
  (event.blockId, match event.kind with
    | .started => .started
    | .delta localSeq operation => .delta localSeq operation
    | .completed _ _ => .completed)

structure BlockRun where
  blockId : String
  group : Group

def numbered (blockId : String) (start : Nat) (operations : List Operation) :
    List (String × Mark) :=
  (operations.zipIdx start).map fun entry => (blockId, .delta (some entry.2) entry.1)

namespace BlockRun

def opened (run : BlockRun) : List (String × Mark) :=
  (run.blockId, .started) :: numbered run.blockId 0 run.group.operations

def whole (run : BlockRun) : List (String × Mark) :=
  run.opened ++ [(run.blockId, .completed)]

end BlockRun

section Runs

variable (modelCallId : String)

structure Resolves (state : BlockState) (inputs : List Input) (header : Header) : Prop where
  /-- A block that goes on finds its id open. -/
  continues : (grouped inputs).2.map Group.identity = some header.identity →
    scopedBlockId modelCallId state header ∈ state.active
  /-- A block that begins a run gets an id of its own. -/
  begins : (grouped inputs).2.map Group.identity ≠ some header.identity →
    scopedBlockId modelCallId state header ∉ state.active ∧
      publicBlockId modelCallId state header ∉ state.order
  numbered : header.carrierType ≠ "redacted_thinking"

inductive Reached (current : Option String) : BlockState → List Input → List BlockEvent → Prop
  | start : Reached current (.start current) [] []
  | content {state after : BlockState} {inputs : List Input} {events emitted : List BlockEvent}
      {header : Header} {block : ContentBlock} :
      Reached current state inputs events →
      readHeader block = .ok header →
      Resolves modelCallId state inputs header →
      acceptContentBlock modelCallId state block = .ok (after, emitted) →
      Reached current after (inputs ++ [.content header block]) (events ++ emitted)
  | toolCall {state after : BlockState} {inputs : List Input} {events emitted : List BlockEvent} :
      Reached current state inputs events →
      acceptToolCall state = .ok (after, emitted) →
      Reached current after (inputs ++ [.toolCall]) (events ++ emitted)

structure Invariant (state : BlockState) (runs : List BlockRun) (current : Option BlockRun) :
    Prop where
  order : state.order = (runs ++ current.toList).map BlockRun.blockId
  distinct : state.order.Nodup
  active : state.active = current.toList.map BlockRun.blockId
  known : ∀ blockId ∈ state.order, (state.metadata.lookup blockId).isSome = true
  counted : ∀ run ∈ runs ++ current.toList,
    state.localSeq.lookup run.blockId = some run.group.operations.length
  texts : ∀ run ∈ runs ++ current.toList,
    (state.normalizedText.lookup run.blockId).getD "" = run.group.visible
  unused : ∀ blockId, blockId ∉ state.order → state.normalizedText.lookup blockId = none
  owned : ∀ blockId, (state.normalizedText.lookup blockId).isSome = true →
    state.normalizedModelCallIds.lookup blockId = some modelCallId

end Runs

section Deltas

variable {modelCallId blockId carrier : String} {index : Nat} {state : BlockState}

structure Emitted (modelCallId blockId carrier : String) (before after : BlockState)
    (operations : List Operation) (events : List BlockEvent) : Prop where
  active : after.active = before.active
  order : after.order = before.order
  metadata : after.metadata = before.metadata
  marks : events.map BlockEvent.mark =
    numbered blockId ((before.localSeq.lookup blockId).getD 0) operations
  counted : (after.localSeq.lookup blockId).getD 0 =
    (before.localSeq.lookup blockId).getD 0 + operations.length
  present : (before.localSeq.lookup blockId).isSome = true →
    (after.localSeq.lookup blockId).isSome = true
  otherCounts : ∀ other, blockId ≠ other →
    after.localSeq.lookup other = before.localSeq.lookup other
  texts : (after.normalizedText.lookup blockId).getD "" =
    (before.normalizedText.lookup blockId).getD "" ++ Group.visibleOf carrier operations
  otherTexts : ∀ other, blockId ≠ other →
    after.normalizedText.lookup other = before.normalizedText.lookup other
  owned : (∀ id, (before.normalizedText.lookup id).isSome = true →
      before.normalizedModelCallIds.lookup id = some modelCallId) →
    ∀ id, (after.normalizedText.lookup id).isSome = true →
      after.normalizedModelCallIds.lookup id = some modelCallId

theorem emitDelta_visible {text : String}
    (visible : carrier ∈ ["text", "output_text", "refusal"]) :
    emitDelta modelCallId blockId index carrier state (.append text) =
      ({ state with
          localSeq := state.localSeq.insert blockId ((state.localSeq.lookup blockId).getD 0 + 1)
          normalizedText := state.normalizedText.insert blockId
            ((state.normalizedText.lookup blockId).getD "" ++ text)
          normalizedModelCallIds := state.normalizedModelCallIds.insert blockId modelCallId },
        ⟨blockId, index, carrier,
          .delta (some ((state.localSeq.lookup blockId).getD 0)) (.append text)⟩) := by
  simp only [emitDelta, if_pos visible]

theorem emitDelta_emitted {operation : Operation} (isNumbered : operation ≠ .redacted) :
    Emitted modelCallId blockId carrier state
      (emitDelta modelCallId blockId index carrier state operation).1 [operation]
      [(emitDelta modelCallId blockId index carrier state operation).2] := by
  cases operation with
  | redacted => exact absurd rfl isNumbered
  | itemUpsert item =>
    constructor <;> simp_all [emitDelta, numbered, BlockEvent.mark, Group.visibleOf]
  | append text =>
    by_cases visible : carrier ∈ ["text", "output_text", "refusal"]
    · have shown : Group.visibleOf carrier [.append text] = text := by
        simp only [Group.visibleOf, if_pos visible]
        simp
      rw [emitDelta_visible visible]
      constructor
      case owned =>
        intro owned id
        simp only [Dictionary.lookup_insert]
        split
        · simp
        · exact owned id
      case texts => simp [shown]
      case otherTexts =>
        intro other different
        simp [different]
      case otherCounts =>
        intro other different
        simp [different]
      all_goals simp [numbered, BlockEvent.mark]
    · constructor <;>
        simp_all [emitDelta, numbered, BlockEvent.mark, Group.visibleOf]

theorem Group.visibleOf_cons (operation : Operation) (operations : List Operation) :
    Group.visibleOf carrier (operation :: operations) =
      Group.visibleOf carrier [operation] ++ Group.visibleOf carrier operations := by
  unfold Group.visibleOf
  split
  · cases operation <;> simp [List.filterMap_cons]
  · simp

theorem numbered_cons (start : Nat) (operation : Operation) (operations : List Operation) :
    numbered blockId start (operation :: operations) =
      (blockId, .delta (some start) operation) :: numbered blockId (start + 1) operations := by
  simp [numbered, List.zipIdx_cons]

theorem numbered_append (start : Nat) (first second : List Operation) :
    numbered blockId start (first ++ second) =
      numbered blockId start first ++ numbered blockId (start + first.length) second := by
  simp [numbered, List.zipIdx_append]

theorem emitDeltas_emitted (operations : List Operation)
    (allNumbered : ∀ operation ∈ operations, operation ≠ .redacted) :
    Emitted modelCallId blockId carrier state
      (emitDeltas modelCallId blockId index carrier state operations).1 operations
      (emitDeltas modelCallId blockId index carrier state operations).2 := by
  induction operations generalizing state with
  | nil => constructor <;> simp [emitDeltas, numbered, Group.visibleOf]
  | cons operation operations ih =>
    have first := @emitDelta_emitted modelCallId blockId carrier index state operation
      (allNumbered operation (by simp))
    have later := @ih (emitDelta modelCallId blockId index carrier state operation).1
      (fun other member => allNumbered other (by simp [member]))
    rw [emitDeltas]
    constructor
    case active => exact later.active.trans first.active
    case order => exact later.order.trans first.order
    case metadata => exact later.metadata.trans first.metadata
    case marks =>
      have head := first.marks
      have rest := later.marks
      rw [first.counted] at rest
      simp only [List.map_cons, List.map_nil, numbered_cons, List.length_singleton]
        at head rest ⊢
      rw [rest, (List.cons.inj head).1]
    case counted =>
      rw [later.counted, first.counted, List.length_singleton, List.length_cons]
      omega
    case present => exact fun held => later.present (first.present held)
    case otherCounts =>
      exact fun other different =>
        (later.otherCounts other different).trans (first.otherCounts other different)
    case texts =>
      rw [later.texts, first.texts, Group.visibleOf_cons operation operations,
        String.append_assoc]
    case otherTexts =>
      exact fun other different =>
        (later.otherTexts other different).trans (first.otherTexts other different)
    case owned => exact fun owned => later.owned (first.owned owned)

theorem operations_numbered {block : ContentBlock} (isNumbered : carrier ≠ "redacted_thinking") :
    ∀ operation ∈ operations carrier block, operation ≠ .redacted := by
  intro operation member
  rw [operations] at member
  split at member
  · split at member
    · obtain ⟨item, -, made⟩ := List.mem_filterMap.mp member
      split at made
      · cases made
        simp
      · cases made
    · cases member
  · split at member
    · split at member
      · cases member
      · rw [List.mem_singleton] at member
        subst member
        simp
    · cases member

end Deltas

section Steps

variable {modelCallId : String} {current : Option String} {state after : BlockState}
variable {inputs : List Input} {events emitted : List BlockEvent}
variable {runs : List BlockRun} {opened : Option BlockRun}

theorem Group.add_operations (group : Group) (header : Header) (block : ContentBlock) :
    (group.add header block).operations =
      group.operations ++ StreamBlocks.operations header.carrierType block := by
  simp [add, operations]

theorem Group.add_visible (group : Group) (header : Header) (block : ContentBlock) :
    (group.add header block).visible = group.visible ++
      visibleOf header.carrierType (StreamBlocks.operations header.carrierType block) := by
  simp [add, visible, String.join_append]

structure Tracks (modelCallId : String) (state : BlockState) (inputs : List Input)
    (events : List BlockEvent) (runs : List BlockRun) (opened : Option BlockRun) : Prop where
  groups : (runs.map BlockRun.group, opened.map BlockRun.group) = grouped inputs
  invariant : Invariant modelCallId state runs opened
  marks : events.map BlockEvent.mark =
    runs.flatMap BlockRun.whole ++ opened.toList.flatMap BlockRun.opened

theorem closeActive (invariant : Invariant modelCallId state runs opened) (reason : String)
    (isPartial : Bool) :
    ∃ closed completed,
      closeBlocks reason isPartial state state.active = .ok (closed, completed) ∧
      closed = { state with active := [] } ∧
      completed.map BlockEvent.mark = opened.toList.map fun run => (run.blockId, .completed) := by
  rw [invariant.active]
  cases opened with
  | none =>
    have noneActive : state.active = [] := invariant.active
    refine ⟨state, [], rfl, ?_, rfl⟩
    rw [← noneActive]
  | some run =>
    have member : run.blockId ∈ state.order := by
      rw [invariant.order]
      simp
    obtain ⟨⟨index, carrier⟩, found⟩ :=
      Option.isSome_iff_exists.mp (invariant.known run.blockId member)
    have onlyActive : state.active = [run.blockId] := invariant.active
    refine ⟨_, [⟨run.blockId, index, carrier, .completed reason isPartial⟩], ?_, rfl, rfl⟩
    simp only [Option.toList_some, List.map_cons, List.map_nil, closeBlocks, closeBlock, found]
    simp [onlyActive, Bind.bind, Except.bind, Pure.pure, Except.pure]

theorem Invariant.closed (invariant : Invariant modelCallId state runs opened) :
    Invariant modelCallId { state with active := [] } (runs ++ opened.toList) none where
  order := by simpa using invariant.order
  distinct := invariant.distinct
  active := rfl
  known := invariant.known
  counted := by simpa using invariant.counted
  texts := by simpa using invariant.texts
  unused := invariant.unused
  owned := invariant.owned

theorem whole_of_closed (runs : List BlockRun) (opened : Option BlockRun) :
    (runs ++ opened.toList).flatMap BlockRun.whole =
      (runs.flatMap BlockRun.whole ++ opened.toList.flatMap BlockRun.opened) ++
        opened.toList.map fun run => (run.blockId, Mark.completed) := by
  cases opened with
  | none => simp
  | some run => simp [BlockRun.whole]

theorem Tracks.toolCall (tracks : Tracks modelCallId state inputs events runs opened)
    (accepts : acceptToolCall state = .ok (after, emitted)) :
    Tracks modelCallId after (inputs ++ [.toolCall]) (events ++ emitted)
      (runs ++ opened.toList) none := by
  obtain ⟨closed, completed, closes, rfl, marks⟩ :=
    closeActive tracks.invariant "carrier_switched" false
  rw [acceptToolCall, closes, Except.ok.injEq, Prod.mk.injEq] at accepts
  obtain ⟨rfl, rfl⟩ := accepts
  constructor
  case groups =>
    rw [grouped, List.foldl_append, ← grouped, ← tracks.groups]
    cases opened <;> simp [Grouping.extend]
  case invariant => exact tracks.invariant.closed
  case marks =>
    rw [List.map_append, tracks.marks, marks, whole_of_closed]
    simp

theorem Invariant.different {run : BlockRun}
    (invariant : Invariant modelCallId state runs (some run)) :
    ∀ other ∈ runs, run.blockId ≠ other.blockId := by
  intro other member same
  have distinct := invariant.distinct
  rw [invariant.order, Option.toList_some, List.map_append, List.nodup_append] at distinct
  exact distinct.2.2 other.blockId (List.mem_map_of_mem member) run.blockId (by simp) same.symm

theorem Invariant.extended {run : BlockRun} {header : Header} {block : ContentBlock}
    (invariant : Invariant modelCallId state runs (some run))
    (emits : Emitted modelCallId run.blockId header.carrierType state after
      (operations header.carrierType block) emitted) :
    Invariant modelCallId after runs
      (some { run with group := run.group.add header block }) := by
  have counted := invariant.counted run (by simp)
  constructor
  case order =>
    rw [emits.order, invariant.order]
    simp
  case distinct =>
    rw [emits.order]
    exact invariant.distinct
  case active =>
    rw [emits.active, invariant.active]
    rfl
  case known =>
    rw [emits.order, emits.metadata]
    exact invariant.known
  case counted =>
    intro other member
    rw [List.mem_append, Option.toList_some, List.mem_singleton] at member
    rcases member with old | rfl
    · rw [emits.otherCounts _ (invariant.different other old)]
      exact invariant.counted other (List.mem_append_left _ old)
    · obtain ⟨count, found⟩ :=
        Option.isSome_iff_exists.mp (emits.present (by simp [counted]))
      have total := emits.counted
      rw [found, counted] at total
      rw [Group.add_operations, List.length_append]
      exact found.trans (congrArg some (by simpa using total))
  case texts =>
    intro other member
    rw [List.mem_append, Option.toList_some, List.mem_singleton] at member
    rcases member with old | rfl
    · rw [emits.otherTexts _ (invariant.different other old)]
      exact invariant.texts other (List.mem_append_left _ old)
    · rw [Group.add_visible, ← invariant.texts run (by simp)]
      exact emits.texts
  case unused =>
    intro blockId absent
    rw [emits.order] at absent
    rw [emits.otherTexts blockId, invariant.unused blockId absent]
    rintro rfl
    apply absent
    rw [invariant.order]
    simp
  case owned => exact emits.owned invariant.owned

theorem Invariant.begun {header : Header}
    (invariant : Invariant modelCallId state runs none)
    (fresh : publicBlockId modelCallId state header ∉ state.order) :
    Invariant modelCallId (openBlock modelCallId state header).1 runs
      (some ⟨publicBlockId modelCallId state header, header.identity, []⟩) := by
  have order : (openBlock modelCallId state header).1.order =
      state.order ++ [publicBlockId modelCallId state header] := rfl
  have listed : ∀ run ∈ runs, run.blockId ∈ state.order := by
    intro run member
    rw [invariant.order]
    exact List.mem_map_of_mem (List.mem_append_left _ member)
  constructor
  case order =>
    rw [order, invariant.order]
    simp
  case distinct =>
    rw [order, List.nodup_append]
    refine ⟨invariant.distinct, by simp, ?_⟩
    rintro blockId member _ same rfl
    rw [List.mem_singleton] at same
    exact fresh (same ▸ member)
  case active =>
    change state.active ++ [_] = _
    rw [invariant.active]
    rfl
  case known =>
    intro blockId member
    rw [order, List.mem_append, List.mem_singleton] at member
    change ((state.metadata.insert _ _).lookup blockId).isSome = true
    rw [Dictionary.lookup_insert]
    split
    · rfl
    · rename_i different
      rcases member with old | rfl
      · exact invariant.known blockId old
      · exact absurd rfl different
  case counted =>
    intro run member
    change (state.localSeq.insert _ 0).lookup run.blockId = _
    rw [List.mem_append, Option.toList_some, List.mem_singleton] at member
    rcases member with old | rfl
    · rw [Dictionary.lookup_insert_of_ne]
      · exact invariant.counted run (List.mem_append_left _ old)
      · rintro same
        exact fresh (same ▸ listed run old)
    · rw [Dictionary.lookup_insert_self]
      rfl
  case texts =>
    intro run member
    change (state.normalizedText.lookup run.blockId).getD "" = _
    rw [List.mem_append, Option.toList_some, List.mem_singleton] at member
    rcases member with old | rfl
    · exact invariant.texts run (List.mem_append_left _ old)
    · rw [invariant.unused _ fresh]
      rfl
  case unused =>
    intro blockId absent
    rw [order, List.mem_append, not_or] at absent
    exact invariant.unused blockId absent.1
  case owned => exact invariant.owned

theorem Tracks.content {header : Header} {block : ContentBlock}
    (tracks : Tracks modelCallId state inputs events runs opened)
    (read : readHeader block = .ok header)
    (resolves : Resolves modelCallId state inputs header)
    (accepts : acceptContentBlock modelCallId state block = .ok (after, emitted)) :
    ∃ nextRuns nextOpened, Tracks modelCallId after (inputs ++ [.content header block])
      (events ++ emitted) nextRuns nextOpened := by
  have groups := tracks.groups
  have opens : (grouped inputs).2 = opened.map BlockRun.group := by rw [← groups]
  have grows : grouped (inputs ++ [.content header block]) =
      Grouping.extend (runs.map BlockRun.group, opened.map BlockRun.group)
        (.content header block) := by
    rw [grouped, List.foldl_append, ← grouped, ← groups]
    rfl
  have numberedAll := @operations_numbered header.carrierType block resolves.numbered
  unfold acceptContentBlock at accepts
  simp only [read, Except.bind] at accepts
  by_cases going : (grouped inputs).2.map Group.identity = some header.identity
  · have isOpen := resolves.continues going
    rw [opens] at going
    cases opened with
    | none => cases going
    | some run =>
      have sameId : scopedBlockId modelCallId state header = run.blockId := by
        rw [tracks.invariant.active] at isOpen
        simpa using isOpen
      rw [if_pos isOpen, sameId, Except.ok.injEq] at accepts
      have emits := @emitDeltas_emitted modelCallId run.blockId header.carrierType
        (resolvedIndex state header) state _ numberedAll
      rw [accepts] at emits
      refine ⟨runs, some { run with group := run.group.add header block }, ?_,
        tracks.invariant.extended emits, ?_⟩
      · have same : run.group.identity = header.identity := Option.some.inj going
        rw [grows]
        simp [Grouping.extend, same]
      · have counted := tracks.invariant.counted run (by simp)
        rw [List.map_append, tracks.marks, emits.marks, counted]
        simp [BlockRun.opened, Group.add_operations, numbered_append]
  · obtain ⟨notOpen, fresh⟩ := resolves.begins going
    rw [if_neg notOpen] at accepts
    obtain ⟨closed, completed, closes, rfl, marks⟩ :=
      closeActive tracks.invariant "carrier_switched" false
    simp only [closes, Except.ok.injEq, Prod.mk.injEq] at accepts
    have freshClosed : publicBlockId modelCallId { state with active := [] } header ∉
        state.order := fresh
    have begun := tracks.invariant.closed.begun freshClosed
    have emits := @emitDeltas_emitted modelCallId (publicBlockId modelCallId state header)
      header.carrierType (resolvedIndex state header)
      (openBlock modelCallId { state with active := [] } header).1 _ numberedAll
    obtain ⟨rfl, rfl⟩ := accepts
    refine ⟨runs ++ opened.toList, _, ?_, begun.extended emits, ?_⟩
    · rw [grows]
      rw [opens] at going
      cases opened with
      | none => simp [Grouping.extend, Group.add]
      | some run =>
        have different : run.group.identity ≠ header.identity := fun same =>
          going (congrArg some same)
        simp [Grouping.extend, Group.add, different]
    · have counted : (openBlock modelCallId { state with active := [] } header).1.localSeq.lookup
          (publicBlockId modelCallId state header) = some 0 :=
        begun.counted _ (List.mem_append_right _ (List.mem_singleton_self _))
      have blockId : (openBlock modelCallId { state with active := [] } header).2.blockId =
          publicBlockId modelCallId state header := rfl
      have started : (openBlock modelCallId { state with active := [] } header).2.mark =
          (publicBlockId modelCallId state header, .started) := rfl
      rw [List.map_append, List.map_append, List.map_cons, tracks.marks, marks, blockId,
        emits.marks, whole_of_closed, counted, started]
      simp only [BlockRun.opened, Group.add, Group.operations, List.nil_append, List.flatMap_cons,
        List.flatMap_nil, List.append_nil, Option.toList_some, List.append_assoc,
        List.singleton_append, List.cons_append]
      rfl

theorem Reached.tracks (reached : Reached modelCallId current state inputs events) :
    ∃ runs opened, Tracks modelCallId state inputs events runs opened := by
  induction reached with
  | start =>
    refine ⟨[], none, rfl, ?_, rfl⟩
    constructor <;> simp [BlockState.start]
  | content _ read resolves accepts ih =>
    obtain ⟨runs, opened, tracks⟩ := ih
    exact tracks.content read resolves accepts
  | toolCall _ accepts ih =>
    obtain ⟨runs, opened, tracks⟩ := ih
    exact ⟨_, _, tracks.toolCall accepts⟩

theorem visibleText_of_owned
    (owned : ∀ blockId, (state.normalizedText.lookup blockId).isSome = true →
      state.normalizedModelCallIds.lookup blockId = some modelCallId) :
    visibleText modelCallId state =
      String.join (state.order.map fun blockId =>
        (state.normalizedText.lookup blockId).getD "") := by
  rw [visibleText]
  induction state.order with
  | nil => rfl
  | cons blockId blockIds ih =>
    cases found : state.normalizedText.lookup blockId with
    | none =>
      simp only [List.filterMap_cons, found, ite_self, List.map_cons, ih]
      simp [String.join_cons]
    | some text =>
      have owns := owned blockId (by simp [found])
      simp only [List.filterMap_cons, found, if_pos owns, List.map_cons, Option.getD_some,
        String.join_cons, ih]

theorem Invariant.visibleText_eq (invariant : Invariant modelCallId state runs opened) :
    visibleText modelCallId state =
      String.join ((runs ++ opened.toList).map fun run => run.group.visible) := by
  rw [visibleText_of_owned invariant.owned, invariant.order, List.map_map]
  congr 1
  apply List.map_congr_left
  intro run member
  exact invariant.texts run member

def Input.visible : Input → String
  | .content header block =>
    Group.visibleOf header.carrierType (operations header.carrierType block)
  | .toolCall => ""

theorem join_visible_extend (grouping : Grouping) (input : Input) :
    String.join (((grouping.extend input).1 ++ (grouping.extend input).2.toList).map
        Group.visible) =
      String.join ((grouping.1 ++ grouping.2.toList).map Group.visible) ++ input.visible := by
  obtain ⟨finished, open?⟩ := grouping
  cases input with
  | toolCall => cases open? <;> simp [Grouping.extend, Input.visible]
  | content header block =>
    cases open? with
    | none =>
      simp [Grouping.extend, Input.visible, Group.visible, String.join_append]
    | some group =>
      by_cases same : group.identity = header.identity
      · simp [Grouping.extend, same, Input.visible, Group.add_visible, String.join_append,
          String.append_assoc]
      · simp [Grouping.extend, same, Input.visible, Group.visible, String.join_append,
          String.append_assoc]

theorem join_visible_grouped (inputs : List Input) :
    String.join (((grouped inputs).1 ++ (grouped inputs).2.toList).map Group.visible) =
      String.join (inputs.map Input.visible) := by
  induction inputs using List.reverseRecOn with
  | nil => rfl
  | append_singleton inputs input ih =>
    have grows : grouped (inputs ++ [input]) = (grouped inputs).extend input := by
      rw [grouped, List.foldl_append]
      rfl
    rw [grows, join_visible_extend, ih]
    simp [String.join_append]

end Steps

namespace Sample

def named (text : String) : ContentBlock :=
  [("type", .str "text"), ("text", .str text), ("id", .str "a"), ("index", .int 0)]

def unnamed (text : String) : ContentBlock :=
  [("type", .str "text"), ("text", .str text)]

def startedIds (state : BlockState) : List (Option ContentBlock) → List String
  | [] => []
  | input :: inputs =>
    match (match input with
      | some block => acceptContentBlock "m" state block
      | none => acceptToolCall state) with
    | .ok (after, events) =>
      events.filterMap (fun event =>
        match event.kind with
        | .started => some event.blockId
        | _ => none) ++ startedIds after inputs
    | .error _ => []

end Sample

end GraphAgent.StreamBlocks
