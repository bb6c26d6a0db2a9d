import GraphAgent.ToolProtocolBoundary
import Mathlib.Data.List.Induction

/-!
# The boundary is exact

A prefix is closed when its calls have their results in it, its tool messages have
their declarations before them, and no other row names a message of it as a result.
The cutoffs that the validator refuses are those of the prefixes that are not closed,
whatever the chunks are and in whatever order the rows are iterated.
-/

namespace GraphAgent.ToolProtocol

def Database.Matches (database : Database) (row : ToolCallRow) (result : Nat) : Prop :=
  row.resultSequence = some result ∧
    ∃ call carrier, database.messages.lookup row.assistantSequence = some call ∧
      database.messages.lookup result = some carrier ∧
      sameToolPair call carrier row.toolCallId = true

def Database.MatchesInSink (database : Database) (row : ToolCallRow) (result : Nat) : Prop :=
  database.Matches row result ∧
    ∃ call carrier, database.messages.lookup row.assistantSequence = some call ∧
      database.messages.lookup result = some carrier ∧ call.checkpoint = carrier.checkpoint

def Database.Mirrors (database : Database) (ordered : List Nat) (row : ToolCallRow)
    (result : Nat) : Prop :=
  database.Matches row result ∧ ¬database.MatchesInSink row result ∧
    (∃ carrier, database.messages.lookup result = some carrier ∧
      carrier.modelCallId.isSome = true) ∧
    ∃ selected ∈ database.toolCalls, database.MatchesInSink selected result ∧
      selected.assistantSequence ∈ ordered ∧
      ∀ other ∈ database.toolCalls, database.MatchesInSink other result → other = selected

def Database.IsTool (database : Database) (sequence : Nat) : Prop :=
  ∃ carrier, database.messages.lookup sequence = some carrier ∧ carrier.role = "tool"

structure ClosesCalls (database : Database) (ordered : List Nat) (cutoff : Nat) : Prop where
  declared : ∀ row ∈ database.toolCalls, row.assistantSequence ∈ ordered.take cutoff →
    ∃ result ∈ ordered.take cutoff,
      ordered.idxOf row.assistantSequence < ordered.idxOf result ∧ database.Matches row result
  answered : ∀ sequence ∈ ordered.take cutoff, database.IsTool sequence →
    ∃ row ∈ database.toolCalls, row.assistantSequence ∈ ordered.take cutoff ∧
      ordered.idxOf row.assistantSequence < ordered.idxOf sequence ∧
      database.Matches row sequence

structure Closed (database : Database) (ordered : List Nat) (cutoff : Nat) : Prop extends
    ClosesCalls database ordered cutoff where
  named : ∀ row ∈ database.toolCalls, ∀ result ∈ row.resultSequence,
    result ∈ ordered.take cutoff → row.assistantSequence ∈ ordered.take cutoff ∨
      (row.assistantSequence ∉ ordered ∧ database.Mirrors ordered row result)

theorem closed_zero (database : Database) (ordered : List Nat) : Closed database ordered 0 where
  declared := by simp
  answered := by simp
  named := by simp

theorem mem_chunks {Value : Type} {size : Nat} (positive : 0 < size) {values : List Value}
    {value : Value} : (∃ chunk ∈ chunks size values, value ∈ chunk) ↔ value ∈ values := by
  constructor
  · rintro ⟨chunk, listed, member⟩
    obtain ⟨index, -, rfl⟩ := List.mem_map.mp listed
    exact List.mem_of_mem_drop (List.mem_of_mem_take member)
  · intro member
    obtain ⟨index, bound, rfl⟩ := List.getElem_of_mem member
    have remainder := Nat.mod_lt index positive
    have divided := Nat.div_add_mod index size
    refine ⟨(values.drop (index / size * size)).take size, ?_, ?_⟩
    · apply List.mem_map.mpr
      refine ⟨index / size, ?_, rfl⟩
      rw [List.mem_range, Nat.lt_div_iff_mul_lt positive]
      rw [Nat.mul_comm] at divided
      omega
    · rw [List.mem_iff_getElem]
      rw [Nat.mul_comm] at divided
      refine ⟨index % size, ?_, ?_⟩
      · rw [List.length_take, List.length_drop]
        omega
      · simp only [List.getElem_take, List.getElem_drop, divided]

theorem mem_selectedRows {database : Database} {size : Nat} (positive : 0 < size)
    {ordered : List Nat} {row : ToolCallRow} :
    row ∈ database.selectedRows size ordered ↔ row ∈ database.toolCalls ∧
      (row.assistantSequence ∈ ordered ∨ ∃ result ∈ row.resultSequence, result ∈ ordered) := by
  rw [Database.selectedRows, List.mem_eraseDups, List.mem_flatMap]
  constructor
  · rintro ⟨chunk, listed, member⟩
    obtain ⟨called, named⟩ := List.mem_filter.mp member
    refine ⟨called, ?_⟩
    simp only [decide_eq_true_eq] at named
    obtain inside | ⟨result, selected, inside⟩ := named
    · exact .inl ((mem_chunks positive).mp ⟨chunk, listed, inside⟩)
    · exact .inr ⟨result, selected, (mem_chunks positive).mp ⟨chunk, listed, inside⟩⟩
  · rintro ⟨called, visible | ⟨result, selected, visible⟩⟩
    · obtain ⟨chunk, listed, inside⟩ := (mem_chunks positive).mpr visible
      exact ⟨chunk, listed, List.mem_filter.mpr ⟨called, by simp [inside]⟩⟩
    · obtain ⟨chunk, listed, inside⟩ := (mem_chunks positive).mpr visible
      refine ⟨chunk, listed, List.mem_filter.mpr ⟨called, ?_⟩⟩
      simp only [decide_eq_true_eq]
      exact .inr ⟨result, selected, inside⟩

theorem lookup_insertAll_consistent {Value : Type} {reading : Nat → Option Value}
    {dictionary : Dictionary Nat Value} {entries : List (Nat × Value)}
    (known : ∀ key value, dictionary.lookup key = some value → reading key = some value)
    (each : ∀ entry ∈ entries, reading entry.1 = some entry.2) (key : Nat) (value : Value) :
    (dictionary.insertAll entries).lookup key = some value ↔
      dictionary.lookup key = some value ∨ (key, value) ∈ entries := by
  induction entries generalizing dictionary with
  | nil => simp [Dictionary.insertAll]
  | cons entry entries ih =>
    have first := each entry List.mem_cons_self
    have inserted : ∀ key value, (dictionary.insert entry.1 entry.2).lookup key = some value ↔
        dictionary.lookup key = some value ∨ (key, value) = entry := by
      intro key value
      rw [Dictionary.lookup_insert]
      by_cases same : entry.1 = key
      · subst same
        rw [if_pos rfl, Option.some.injEq]
        constructor
        · rintro rfl
          exact .inr rfl
        · rintro (old | new)
          · exact Option.some.inj (first.symm.trans (known _ _ old))
          · exact (congrArg Prod.snd new).symm
      · rw [if_neg same]
        constructor
        · exact .inl
        · rintro (old | new)
          · exact old
          · exact absurd (congrArg Prod.fst new).symm same
    change ((dictionary.insert entry.1 entry.2).insertAll entries).lookup key = some value ↔ _
    rw [ih, inserted, List.mem_cons, or_assoc]
    · intro key value found
      obtain old | rfl := (inserted key value).mp found
      · exact known key value old
      · exact first
    · exact fun other member => each other (List.mem_cons_of_mem _ member)

def Database.carrier (database : Database) (sequence : Nat) : Option ToolCarrier :=
  (database.messages.lookup sequence).filter fun carrier =>
    carrier.role = "tool" ∨
      database.toolCalls.any fun row => row.assistantSequence = sequence

theorem mem_carrierRows {database : Database} {chunk : List Nat} {sequence : Nat}
    {carrier : ToolCarrier} :
    (sequence, carrier) ∈ database.carrierRows chunk ↔
      sequence ∈ chunk ∧ database.carrier sequence = some carrier := by
  rw [Database.carrierRows, List.mem_filterMap]
  constructor
  · rintro ⟨listed, member, found⟩
    obtain ⟨other, read, same⟩ := Option.map_eq_some_iff.mp found
    cases same
    exact ⟨member, read⟩
  · rintro ⟨member, read⟩
    exact ⟨sequence, member, Option.map_eq_some_iff.mpr ⟨carrier, read, rfl⟩⟩

theorem foldl_carrierRows {database : Database} {lists : List (List Nat)}
    {dictionary : Dictionary Nat ToolCarrier}
    (known : ∀ key value, dictionary.lookup key = some value →
      database.carrier key = some value) (sequence : Nat) (carrier : ToolCarrier) :
    (lists.foldl (fun carriers chunk => carriers.insertAll (database.carrierRows chunk))
        dictionary).lookup sequence = some carrier ↔
      dictionary.lookup sequence = some carrier ∨
        ((∃ chunk ∈ lists, sequence ∈ chunk) ∧ database.carrier sequence = some carrier) := by
  induction lists generalizing dictionary with
  | nil => simp
  | cons chunk lists ih =>
    have each : ∀ entry ∈ database.carrierRows chunk,
        database.carrier entry.1 = some entry.2 :=
      fun entry member => (mem_carrierRows.mp member).2
    have step := lookup_insertAll_consistent known each
    rw [List.foldl_cons, ih, step, mem_carrierRows]
    · simp only [List.exists_mem_cons_iff, or_and_right, or_assoc]
    · intro key value found
      obtain old | new := (step key value).mp found
      · exact known key value old
      · exact each _ new

theorem lookup_toolCarriers {database : Database} {size : Nat} (positive : 0 < size)
    {sequences : List Nat} (sequence : Nat) (carrier : ToolCarrier) :
    (database.toolCarriers size sequences).lookup sequence = some carrier ↔
      sequence ∈ sequences ∧ database.carrier sequence = some carrier := by
  rw [Database.toolCarriers, foldl_carrierRows, mem_chunks positive]
  · simp
  · simp

/-- What the loops are given: the rows of visible messages, once each, and carriers that
agree with the messages wherever a pair or a tool message is looked up. -/
structure Reading (database : Database) (ordered : List Nat) (rows : List ToolCallRow)
    (carriers : Dictionary Nat ToolCarrier) : Prop where
  distinct : rows.Nodup
  selected : ∀ row, row ∈ rows ↔ row ∈ database.toolCalls ∧
    (row.assistantSequence ∈ ordered ∨ ∃ result ∈ row.resultSequence, result ∈ ordered)
  assistants : ∀ row ∈ rows, carriers.lookup row.assistantSequence =
    database.messages.lookup row.assistantSequence
  results : ∀ row ∈ rows, ∀ result ∈ row.resultSequence, ∀ carrier, carrier.role = "tool" →
    (carriers.lookup result = some carrier ↔ database.messages.lookup result = some carrier)
  tools : ∀ sequence ∈ ordered, ∀ carrier, carrier.role = "tool" →
    (carriers.lookup sequence = some carrier ↔
      database.messages.lookup sequence = some carrier)

theorem mem_carrierSequences {ordered : List Nat} {rows : List ToolCallRow} {sequence : Nat} :
    sequence ∈ carrierSequences ordered rows ↔ sequence ∈ ordered ∨
      ∃ row ∈ rows, sequence = row.assistantSequence ∨ row.resultSequence = some sequence := by
  simp only [carrierSequences, List.mem_insertionSort, List.mem_eraseDups, List.mem_append,
    List.mem_flatMap, List.mem_cons, Option.mem_toList, Option.mem_def]

theorem carrier_of_tool {database : Database} {sequence : Nat} {carrier : ToolCarrier}
    (tool : carrier.role = "tool") :
    database.carrier sequence = some carrier ↔
      database.messages.lookup sequence = some carrier := by
  rw [Database.carrier, Option.filter_eq_some_iff]
  simp [tool]

theorem carrier_of_assistant {database : Database} {row : ToolCallRow}
    (called : row ∈ database.toolCalls) :
    database.carrier row.assistantSequence =
      database.messages.lookup row.assistantSequence := by
  ext carrier
  rw [Database.carrier, Option.filter_eq_some_iff]
  constructor
  · exact And.left
  · intro found
    refine ⟨found, ?_⟩
    simp only [decide_eq_true_eq, List.any_eq_true]
    exact .inr ⟨row, called, rfl⟩

theorem reading {database : Database} {size : Nat} (positive : 0 < size) {ordered : List Nat}
    {rows : List ToolCallRow} (distinct : rows.Nodup)
    (members : ∀ row, row ∈ rows ↔ row ∈ database.selectedRows size ordered) :
    Reading database ordered rows
      (database.toolCarriers size (carrierSequences ordered rows)) where
  distinct := distinct
  selected := by
    intro row
    rw [members, mem_selectedRows positive]
  assistants := by
    intro row member
    have called := ((mem_selectedRows positive).mp ((members row).mp member)).1
    ext carrier
    rw [lookup_toolCarriers positive, carrier_of_assistant called, mem_carrierSequences]
    constructor
    · exact And.right
    · exact fun found => ⟨.inr ⟨row, member, .inl rfl⟩, found⟩
  results := by
    intro row member result named carrier tool
    rw [lookup_toolCarriers positive, carrier_of_tool tool, mem_carrierSequences]
    constructor
    · exact And.right
    · exact fun found => ⟨.inr ⟨row, member, .inr named⟩, found⟩
  tools := by
    intro sequence visible carrier tool
    rw [lookup_toolCarriers positive, carrier_of_tool tool, mem_carrierSequences]
    constructor
    · exact And.right
    · exact fun found => ⟨.inl visible, found⟩

section Loops

variable {database : Database} {ordered : List Nat} {rows : List ToolCallRow}
  {carriers : Dictionary Nat ToolCarrier}

theorem tool_of_sameToolPair {call result : ToolCarrier} {callId : String}
    (same : sameToolPair call result callId = true) : result.role = "tool" := by
  simp only [sameToolPair, Bool.and_eq_true, decide_eq_true_eq] at same
  tauto

theorem matches_iff (read : Reading database ordered rows carriers) {row : ToolCallRow}
    (member : row ∈ rows) {result : Nat} (named : row.resultSequence = some result) :
    database.Matches row result ↔ isPaired carriers row = true := by
  have call := read.assistants row member
  have answer := read.results row member result named
  rw [isPaired, named, call]
  constructor
  · rintro ⟨-, caller, carrier, called, found, same⟩
    have looked := (answer carrier (tool_of_sameToolPair same)).mpr found
    simp only [called, Option.bind_some, looked, same]
  · intro paired
    split at paired
    · rename_i caller carrier called looked
      have found := (answer carrier (tool_of_sameToolPair paired)).mp looked
      exact ⟨named, caller, carrier, called, found, paired⟩
    · cases paired

theorem matchesInSink_iff (read : Reading database ordered rows carriers) {row : ToolCallRow}
    (member : row ∈ rows) {result : Nat} (named : row.resultSequence = some result) :
    database.MatchesInSink row result ↔
      isPaired carriers row = true ∧ isSameSink carriers row = true := by
  rw [Database.MatchesInSink, matches_iff read member named]
  apply and_congr_right
  intro paired
  obtain ⟨-, caller, carrier, called, found, same⟩ := (matches_iff read member named).mpr paired
  have looked := (read.results row member result named carrier
    (tool_of_sameToolPair same)).mpr found
  rw [isSameSink, named, read.assistants row member, called]
  simp only [found, Option.bind_some, looked, Option.some.injEq, exists_and_left,
    exists_eq_left', decide_eq_true_eq]

def sinkRows (carriers : Dictionary Nat ToolCarrier) (rows : List ToolCallRow)
    (result : Nat) : List ToolCallRow :=
  rows.filter fun row =>
    row.resultSequence = some result && isPaired carriers row && isSameSink carriers row

/-- What the first loop knows of a result from those rows. -/
def uniqueOf : List ToolCallRow → Option (Option Nat)
  | [] => none
  | [row] => some (some row.assistantSequence)
  | _ :: _ :: _ => some none

theorem pairsOf_append (rows : List ToolCallRow) (row : ToolCallRow) :
    pairsOf ordered carriers (rows ++ [row]) =
      (pairsOf ordered carriers rows).step ordered carriers row := by
  simp [pairsOf]

theorem mem_visibleResults {result : Nat} :
    result ∈ (pairsOf ordered carriers rows).visibleResults ↔
      ∃ row ∈ rows, row.resultSequence = some result ∧ isPaired carriers row = true ∧
        row.assistantSequence ∈ ordered := by
  induction rows using List.reverseRecOn with
  | nil => simp [pairsOf]
  | append_singleton rows row ih =>
    rw [pairsOf_append]
    have split : (∃ other ∈ rows ++ [row], other.resultSequence = some result ∧
          isPaired carriers other = true ∧ other.assistantSequence ∈ ordered) ↔
        result ∈ (pairsOf ordered carriers rows).visibleResults ∨
          (row.resultSequence = some result ∧ isPaired carriers row = true ∧
            row.assistantSequence ∈ ordered) := by
      simp only [List.mem_append, List.mem_singleton, or_and_right, exists_or, exists_eq_left,
        ih]
    rw [split, Pairs.step]
    cases named : row.resultSequence with
    | none => simp
    | some other =>
      by_cases paired : isPaired carriers row = true
      · by_cases visible : row.assistantSequence ∈ ordered
        · simp only [paired, visible, if_true, List.mem_cons, Option.some.injEq, and_true]
          rw [or_comm, eq_comm]
        · simp [paired, visible]
      · simp [paired]

theorem lookup_uniqueAssistant (result : Nat) :
    (pairsOf ordered carriers rows).uniqueAssistant.lookup result =
      uniqueOf (sinkRows carriers rows result) := by
  induction rows using List.reverseRecOn with
  | nil => rfl
  | append_singleton rows row ih =>
    rw [pairsOf_append, Pairs.step, sinkRows, List.filter_append]
    change _ = uniqueOf (sinkRows carriers rows result ++ _)
    cases named : row.resultSequence with
    | none => simp [named, ih]
    | some other =>
      by_cases sink : isPaired carriers row = true ∧ isSameSink carriers row = true
      · by_cases same : other = result
        · subst same
          simp only [sink.1, sink.2, if_true, Dictionary.lookup_insert_self, named,
            List.filter_cons, decide_true, Bool.and_self, List.filter_nil, Dictionary.has, ih]
          cases sinkRows carriers rows other with
          | nil => rfl
          | cons first rest =>
            cases rest <;> simp [uniqueOf]
        · simp only [sink.1, sink.2, if_true, Dictionary.lookup_insert_of_ne same, ih]
          simp [named, same]
      · have skipped : (row.resultSequence = some result && isPaired carriers row &&
            isSameSink carriers row) = false := by
          rw [Bool.and_assoc, Bool.and_eq_false_iff]
          right
          rw [Bool.and_eq_false_iff]
          by_contra both
          simp only [not_or, Bool.not_eq_false] at both
          exact sink both
        simp only [List.filter_cons, skipped, List.filter_nil, List.append_nil]
        by_cases paired : isPaired carriers row = true
        · have crossed : isSameSink carriers row = false := by
            simpa [paired] using sink
          simp [paired, crossed, ih]
        · simp [paired, ih]

theorem uniqueOf_eq_some {chosen : List ToolCallRow} (distinct : chosen.Nodup)
    {assistant : Nat} :
    uniqueOf chosen = some (some assistant) ↔
      ∃ row ∈ chosen, row.assistantSequence = assistant ∧ ∀ other ∈ chosen, other = row := by
  constructor
  · intro unique
    obtain _ | ⟨row, _ | ⟨second, rest⟩⟩ := chosen
    · cases unique
    · cases unique
      exact ⟨row, List.mem_cons_self, rfl, by simp⟩
    · cases unique
  · rintro ⟨row, member, rfl, same⟩
    obtain _ | ⟨first, _ | ⟨second, rest⟩⟩ := chosen
    · cases member
    · rw [List.mem_singleton.mp member]
      rfl
    · have equal : first = second :=
        (same first List.mem_cons_self).trans
          (same second (List.mem_cons_of_mem _ List.mem_cons_self)).symm
      rw [equal] at distinct
      exact absurd List.mem_cons_self (List.nodup_cons.mp distinct).1

theorem isMirror_iff (read : Reading database ordered rows carriers) {row : ToolCallRow}
    (member : row ∈ rows) {result : Nat} (named : row.resultSequence = some result)
    (visible : result ∈ ordered) :
    isMirror ordered carriers (pairsOf ordered carriers rows) row = true ↔
      database.Mirrors ordered row result := by
  have sinks : ∀ other, other ∈ sinkRows carriers rows result ↔
      other ∈ database.toolCalls ∧ database.MatchesInSink other result := by
    intro other
    rw [sinkRows, List.mem_filter]
    simp only [Bool.and_eq_true, decide_eq_true_eq, and_assoc]
    constructor
    · rintro ⟨listed, selected, paired, sink⟩
      exact ⟨((read.selected other).mp listed).1,
        (matchesInSink_iff read listed selected).mpr ⟨paired, sink⟩⟩
    · rintro ⟨called, matched⟩
      have selected := matched.1.1
      have listed := (read.selected other).mpr ⟨called, .inr ⟨result, selected, visible⟩⟩
      exact ⟨listed, selected, (matchesInSink_iff read listed selected).mp matched⟩
  have unique : (((pairsOf ordered carriers rows).uniqueAssistant.lookup result).any fun
        assistant => assistant.any fun assistant => decide (assistant ∈ ordered)) = true ↔
      ∃ selected ∈ database.toolCalls, database.MatchesInSink selected result ∧
        selected.assistantSequence ∈ ordered ∧
        ∀ other ∈ database.toolCalls, database.MatchesInSink other result →
          other = selected := by
    have distinct : (sinkRows carriers rows result).Nodup := read.distinct.filter _
    simp only [lookup_uniqueAssistant, Option.any_eq_true, decide_eq_true_eq]
    constructor
    · rintro ⟨_, found, assistant, rfl, shown⟩
      obtain ⟨selected, chosen, rfl, same⟩ := (uniqueOf_eq_some distinct).mp found
      obtain ⟨called, matched⟩ := (sinks selected).mp chosen
      refine ⟨selected, called, matched, shown, ?_⟩
      intro other otherCalled otherMatched
      exact same other ((sinks other).mpr ⟨otherCalled, otherMatched⟩)
    · rintro ⟨selected, called, matched, shown, same⟩
      refine ⟨_, (uniqueOf_eq_some distinct).mpr
        ⟨selected, (sinks selected).mpr ⟨called, matched⟩, rfl, ?_⟩, _, rfl, shown⟩
      intro other chosen
      obtain ⟨otherCalled, otherMatched⟩ := (sinks other).mp chosen
      exact same other otherCalled otherMatched
  rw [isMirror, named]
  simp only [Option.bind_some, Bool.and_eq_true, Bool.not_eq_true', and_assoc, unique]
  rw [Database.Mirrors, matchesInSink_iff read member named, matches_iff read member named]
  constructor
  · rintro ⟨paired, sink, modelled, selected⟩
    obtain ⟨-, caller, carrier, -, found, same⟩ := (matches_iff read member named).mpr paired
    have looked := (read.results row member result named carrier
      (tool_of_sameToolPair same)).mpr found
    rw [looked] at modelled
    exact ⟨paired, by simp [sink], ⟨carrier, found, modelled⟩, selected⟩
  · rintro ⟨paired, sink, ⟨carrier, found, modelled⟩, selected⟩
    obtain ⟨-, caller, other, -, again, same⟩ := (matches_iff read member named).mpr paired
    cases found.symm.trans again
    have looked := (read.results row member result named carrier
      (tool_of_sameToolPair same)).mpr found
    refine ⟨paired, ?_, by simp [looked, modelled], selected⟩
    by_contra sameSink
    exact sink ⟨paired, by simpa using sameSink⟩

theorem idxOf?_of_mem {sequences : List Nat} {sequence : Nat} (member : sequence ∈ sequences) :
    sequences.idxOf? sequence = some (sequences.idxOf sequence) := by
  induction sequences with
  | nil => cases member
  | cons first sequences ih =>
    rw [List.idxOf?_cons, List.idxOf_cons]
    by_cases same : first = sequence
    · simp [same]
    · have later : sequence ∈ sequences := by simpa [Ne.symm same] using member
      simp [ih later, beq_false_of_ne same]

theorem mem_cutoffs {start stop cutoff : Nat} :
    cutoff ∈ cutoffs start stop ↔ start ≤ cutoff ∧ cutoff < stop := by
  rw [cutoffs, List.mem_range'_1]
  omega

def RowClosed (database : Database) (ordered : List Nat) (cutoff : Nat) (row : ToolCallRow) :
    Prop :=
  (row.assistantSequence ∈ ordered.take cutoff →
    ∃ result ∈ ordered.take cutoff,
      ordered.idxOf row.assistantSequence < ordered.idxOf result ∧
        database.Matches row result) ∧
  ∀ result ∈ row.resultSequence, result ∈ ordered.take cutoff →
    row.assistantSequence ∈ ordered.take cutoff ∨
      (row.assistantSequence ∉ ordered ∧ database.Mirrors ordered row result)

variable {Anchors : Type}

theorem rowCutoffs_spec (read : Reading database ordered rows carriers) {row : ToolCallRow}
    (member : row ∈ rows) :
    ∃ found, (rowCutoffs ordered carriers (pairsOf ordered carriers rows) row :
        Except (BoundaryError Anchors) (List Nat)) = .ok found ∧
      ∀ cutoff ≤ ordered.length, cutoff ∈ found ↔ ¬RowClosed database ordered cutoff row := by
  by_cases called : row.assistantSequence ∈ ordered
  · have callIn : ∀ cutoff, row.assistantSequence ∈ ordered.take cutoff ↔
        ordered.idxOf row.assistantSequence < cutoff :=
      fun cutoff => List.mem_take_iff_idxOf_lt called
    by_cases answered : ∃ result ∈ row.resultSequence, result ∈ ordered
    · obtain ⟨result, named, shown⟩ := answered
      have named : row.resultSequence = some result := named
      have resultIn : ∀ cutoff, result ∈ ordered.take cutoff ↔ ordered.idxOf result < cutoff :=
        fun cutoff => List.mem_take_iff_idxOf_lt shown
      have closed : ∀ cutoff, RowClosed database ordered cutoff row ↔
          (ordered.idxOf row.assistantSequence < cutoff →
            ordered.idxOf result < cutoff ∧
            ordered.idxOf row.assistantSequence < ordered.idxOf result ∧
            isPaired carriers row = true) ∧
          (ordered.idxOf result < cutoff → ordered.idxOf row.assistantSequence < cutoff) := by
        intro cutoff
        rw [RowClosed, callIn]
        apply and_congr
        · apply imp_congr_right
          intro _
          constructor
          · rintro ⟨other, inside, later, matched⟩
            cases named.symm.trans matched.1
            exact ⟨(resultIn cutoff).mp inside, later, (matches_iff read member named).mp matched⟩
          · rintro ⟨inside, later, paired⟩
            exact ⟨result, (resultIn cutoff).mpr inside, later,
              (matches_iff read member named).mpr paired⟩
        · simp only [named, Option.mem_def, Option.some.injEq, forall_eq', resultIn, called,
            not_true_eq_false, false_and, or_false]
      rw [rowCutoffs, idxOf?_of_mem called, named, Option.bind_some, idxOf?_of_mem shown]
      dsimp only
      split
      · rename_i bad
        refine ⟨_, rfl, fun cutoff bound => ?_⟩
        rw [mem_cutoffs, closed]
        by_cases paired : isPaired carriers row = true
        · simp only [paired, not_true_eq_false, false_or] at bad
          simp only [paired, and_true]
          omega
        · have unpaired : isPaired carriers row = false := by simpa using paired
          simp only [unpaired, Bool.false_eq_true, and_false, imp_false]
          omega
      · rename_i good
        rw [not_or, not_not] at good
        refine ⟨_, rfl, fun cutoff bound => ?_⟩
        rw [mem_cutoffs, closed]
        simp only [good.1, and_true]
        have later := good.2
        omega
    · have missing : row.resultSequence.bind ordered.idxOf? = none := by
        cases named : row.resultSequence with
        | none => rfl
        | some result =>
          rw [Option.bind_some, List.idxOf?_eq_none_iff]
          exact fun shown => answered ⟨result, named, shown⟩
      have closed : ∀ cutoff, RowClosed database ordered cutoff row ↔
          ¬ordered.idxOf row.assistantSequence < cutoff := by
        intro cutoff
        rw [RowClosed, callIn]
        constructor
        · rintro ⟨declared, -⟩ inside
          obtain ⟨result, shown, -, matched⟩ := declared inside
          exact answered ⟨result, matched.1, List.mem_of_mem_take shown⟩
        · intro outside
          refine ⟨fun inside => absurd inside outside, ?_⟩
          intro result named shown
          exact absurd ⟨result, named, List.mem_of_mem_take shown⟩ answered
      rw [rowCutoffs, idxOf?_of_mem called, missing]
      refine ⟨_, rfl, fun cutoff bound => ?_⟩
      rw [mem_cutoffs, closed]
      omega
  · obtain ⟨result, named, shown⟩ :
        ∃ result, row.resultSequence = some result ∧ result ∈ ordered := by
      obtain inside | ⟨result, named, shown⟩ := ((read.selected row).mp member).2
      · exact absurd inside called
      · exact ⟨result, named, shown⟩
    have resultIn : ∀ cutoff, result ∈ ordered.take cutoff ↔ ordered.idxOf result < cutoff :=
      fun cutoff => List.mem_take_iff_idxOf_lt shown
    have outside : ∀ cutoff, row.assistantSequence ∉ ordered.take cutoff :=
      fun cutoff inside => called (List.mem_of_mem_take inside)
    have closed : ∀ cutoff, RowClosed database ordered cutoff row ↔
        (ordered.idxOf result < cutoff →
          isMirror ordered carriers (pairsOf ordered carriers rows) row = true) := by
      intro cutoff
      simp only [RowClosed, outside, false_implies, true_and, false_or, named, Option.mem_def,
        Option.some.injEq, forall_eq', resultIn, called, not_false_eq_true,
        isMirror_iff read member named shown]
    rw [rowCutoffs, List.idxOf?_eq_none_iff.mpr called, named, Option.bind_some,
      idxOf?_of_mem shown]
    dsimp only
    split
    · rename_i mirror
      refine ⟨[], rfl, fun cutoff bound => ?_⟩
      rw [closed]
      simp [mirror]
    · rename_i plain
      refine ⟨_, rfl, fun cutoff bound => ?_⟩
      have plain : isMirror ordered carriers (pairsOf ordered carriers rows) row = false := by
        simpa using plain
      rw [mem_cutoffs, closed]
      simp only [plain, Bool.false_eq_true, imp_false]
      omega

theorem mem_orphanCutoffs (read : Reading database ordered rows carriers) {sequence : Nat}
    (shown : sequence ∈ ordered) {cutoff : Nat} (bound : cutoff ≤ ordered.length) :
    cutoff ∈ orphanCutoffs ordered carriers (pairsOf ordered carriers rows) sequence ↔
      sequence ∈ ordered.take cutoff ∧ database.IsTool sequence ∧
        ¬∃ row ∈ database.toolCalls, database.Matches row sequence ∧
          row.assistantSequence ∈ ordered := by
  have tool : ((carriers.lookup sequence).any fun carrier => carrier.role = "tool") = true ↔
      database.IsTool sequence := by
    rw [Option.any_eq_true]
    simp only [decide_eq_true_eq]
    constructor
    · rintro ⟨carrier, looked, role⟩
      exact ⟨carrier, (read.tools sequence shown carrier role).mp looked, role⟩
    · rintro ⟨carrier, found, role⟩
      exact ⟨carrier, (read.tools sequence shown carrier role).mpr found, role⟩
  have declared : sequence ∈ (pairsOf ordered carriers rows).visibleResults ↔
      ∃ row ∈ database.toolCalls, database.Matches row sequence ∧
        row.assistantSequence ∈ ordered := by
    rw [mem_visibleResults]
    constructor
    · rintro ⟨row, member, named, paired, visible⟩
      exact ⟨row, ((read.selected row).mp member).1,
        (matches_iff read member named).mpr paired, visible⟩
    · rintro ⟨row, called, matched, visible⟩
      have member := (read.selected row).mpr ⟨called, .inl visible⟩
      exact ⟨row, member, matched.1, (matches_iff read member matched.1).mp matched, visible⟩
  rw [orphanCutoffs, List.mem_take_iff_idxOf_lt shown]
  split
  · rename_i orphan
    rw [tool, declared] at orphan
    rw [mem_cutoffs]
    simp only [orphan, not_false_eq_true, and_true]
    omega
  · rename_i paired
    rw [tool, declared] at paired
    simp only [List.not_mem_nil, false_iff]
    exact fun orphan => paired orphan.2

theorem collectCutoffs_spec (read : Reading database ordered rows carriers) :
    ∀ rest, (∀ row ∈ rest, row ∈ rows) →
      ∃ found, (collectCutoffs ordered carriers (pairsOf ordered carriers rows) rest :
          Except (BoundaryError Anchors) (List Nat)) = .ok found ∧
        ∀ cutoff ≤ ordered.length, cutoff ∈ found ↔
          (∃ row ∈ rest, ¬RowClosed database ordered cutoff row) ∨
            ∃ sequence ∈ ordered, cutoff ∈ orphanCutoffs ordered carriers
              (pairsOf ordered carriers rows) sequence := by
  intro rest
  induction rest with
  | nil =>
    intro _
    refine ⟨_, rfl, fun cutoff _ => ?_⟩
    simp [List.mem_flatMap]
  | cons row rest ih =>
    intro members
    obtain ⟨first, firstOk, firstSpec⟩ :=
      @rowCutoffs_spec _ _ _ _ Anchors read row (members row List.mem_cons_self)
    obtain ⟨others, othersOk, othersSpec⟩ :=
      ih fun other member => members other (List.mem_cons_of_mem _ member)
    refine ⟨first ++ others, ?_, fun cutoff bound => ?_⟩
    · rw [collectCutoffs, firstOk, othersOk]
      rfl
    · rw [List.mem_append, firstSpec cutoff bound, othersSpec cutoff bound]
      simp only [List.exists_mem_cons_iff, or_assoc]

end Loops

theorem unsafeCutoffIndices_spec {Anchors : Type} {database : Database} {size : Nat}
    (positive : 0 < size) {ordered : List Nat} {rows : List ToolCallRow}
    (distinct : rows.Nodup)
    (members : ∀ row, row ∈ rows ↔ row ∈ database.selectedRows size ordered) :
    ∃ found, (database.unsafeCutoffIndices size rows ordered :
        Except (BoundaryError Anchors) (List Nat)) = .ok found ∧
      ∀ cutoff ≤ ordered.length, cutoff ∈ found ↔ ¬Closed database ordered cutoff := by
  have read := reading positive distinct members
  obtain ⟨found, collected, spec⟩ :=
    @collectCutoffs_spec _ _ _ _ Anchors read rows fun _ member => member
  refine ⟨found, collected, fun cutoff bound => ?_⟩
  rw [spec cutoff bound, ← not_iff_not, not_not, not_or]
  constructor
  · rintro ⟨rowsClosed, noOrphans⟩
    have closed : ∀ row ∈ rows, RowClosed database ordered cutoff row := by
      intro row member
      by_contra open'
      exact rowsClosed ⟨row, member, open'⟩
    have declared : ∀ row ∈ database.toolCalls,
        row.assistantSequence ∈ ordered.take cutoff → ∃ result ∈ ordered.take cutoff,
          ordered.idxOf row.assistantSequence < ordered.idxOf result ∧
            database.Matches row result := by
      intro row called inside
      have member := (read.selected row).mpr ⟨called, .inl (List.mem_of_mem_take inside)⟩
      exact (closed row member).1 inside
    have named : ∀ row ∈ database.toolCalls, ∀ result ∈ row.resultSequence,
        result ∈ ordered.take cutoff → row.assistantSequence ∈ ordered.take cutoff ∨
          (row.assistantSequence ∉ ordered ∧ database.Mirrors ordered row result) := by
      intro row called result selected inside
      have member := (read.selected row).mpr
        ⟨called, .inr ⟨result, selected, List.mem_of_mem_take inside⟩⟩
      exact (closed row member).2 result selected inside
    refine ⟨⟨declared, ?_⟩, named⟩
    intro sequence inside tool
    have shown := List.mem_of_mem_take inside
    have paired : ∃ row ∈ database.toolCalls, database.Matches row sequence ∧
        row.assistantSequence ∈ ordered := by
      by_contra orphan
      exact noOrphans ⟨sequence, shown,
        (mem_orphanCutoffs read shown bound).mpr ⟨inside, tool, orphan⟩⟩
    obtain ⟨row, called, matched, visible⟩ := paired
    obtain before | ⟨hidden, -⟩ := named row called sequence matched.1 inside
    · obtain ⟨result, -, later, again⟩ := declared row called before
      cases matched.1.symm.trans again.1
      exact ⟨row, called, before, later, matched⟩
    · exact absurd visible hidden
  · rintro ⟨⟨declared, answered⟩, named⟩
    constructor
    · rintro ⟨row, member, refused⟩
      have called := ((read.selected row).mp member).1
      exact refused ⟨declared row called, named row called⟩
    · rintro ⟨sequence, shown, refused⟩
      obtain ⟨inside, tool, orphan⟩ := (mem_orphanCutoffs read shown bound).mp refused
      obtain ⟨row, called, before, -, matched⟩ := answered sequence inside tool
      exact orphan ⟨row, called, matched, List.mem_of_mem_take before⟩

theorem find?_range'_some {holds : Nat → Bool} {start count found : Nat}
    (search : (List.range' start count).find? holds = some found) :
    start ≤ found ∧ found < start + count ∧ holds found = true ∧
      ∀ index, start ≤ index → index < found → holds index = false := by
  induction count generalizing start with
  | zero => cases search
  | succ count ih =>
    rw [List.range'_succ, List.find?_cons] at search
    cases here : holds start with
    | true =>
      rw [here] at search
      cases search
      exact ⟨le_rfl, by omega, here, fun index low high => by omega⟩
    | false =>
      rw [here] at search
      obtain ⟨low, high, held, before⟩ := ih search
      refine ⟨by omega, by omega, held, fun index least less => ?_⟩
      by_cases first : index = start
      · rw [first]
        exact here
      · exact before index (by omega) less

theorem nearestAbove_spec (indices : List Nat) (cutoff viewSize : Nat) :
    match nearestAbove indices cutoff viewSize with
    | none => ∀ index, cutoff < index → index ≤ viewSize → index ∈ indices
    | some above => cutoff < above ∧ above ≤ viewSize ∧ above ∉ indices ∧
        ∀ index, cutoff < index → index < above → index ∈ indices := by
  cases search : nearestAbove indices cutoff viewSize with
  | none =>
    intro index low high
    rw [nearestAbove, List.find?_eq_none] at search
    have listed := search index (mem_cutoffs.mpr ⟨low, by omega⟩)
    simpa using listed
  | some above =>
    obtain ⟨low, high, held, before⟩ := find?_range'_some search
    refine ⟨low, by omega, by simpa using held, fun index least less => ?_⟩
    simpa using before index least less

theorem nearestBelow_spec (indices : List Nat) (cutoff : Nat) :
    match nearestBelow indices cutoff with
    | none => ∀ index < cutoff, index ∈ indices
    | some below => below < cutoff ∧ below ∉ indices ∧
        ∀ index, below < index → index < cutoff → index ∈ indices := by
  rw [nearestBelow]
  induction cutoff with
  | zero => simp
  | succ cutoff ih =>
    rw [List.range_succ, List.reverse_append, List.reverse_singleton, List.singleton_append,
      List.find?_cons]
    by_cases listed : cutoff ∈ indices
    · simp only [listed, not_true_eq_false, decide_false]
      split at ih
      · rename_i missing
        rw [missing]
        intro index less
        obtain rfl | earlier := Nat.lt_succ_iff_lt_or_eq.mp less |>.symm
        · exact listed
        · exact ih index earlier
      · rename_i below found
        rw [found]
        refine ⟨ih.1.trans (Nat.lt_succ_self _), ih.2.1, fun index low high => ?_⟩
        obtain rfl | earlier := Nat.lt_succ_iff_lt_or_eq.mp high |>.symm
        · exact listed
        · exact ih.2.2 index low earlier
    · simp only [listed, not_false_eq_true, decide_true]
      exact ⟨Nat.lt_succ_self _, trivial, fun index low high => by omega⟩

def IsNearest (database : Database) (ordered : List Nat) (cutoff : Nat)
    (anchors : List SafeAnchor) : Prop :=
  ∃ below above, anchors = safeAnchor ordered below :: (above.toList.map (safeAnchor ordered)) ∧
    (below < cutoff ∧ Closed database ordered below ∧
      ∀ index, below < index → index < cutoff → ¬Closed database ordered index) ∧
    match above with
    | none => ∀ index, cutoff < index → index ≤ ordered.length →
        ¬Closed database ordered index
    | some above => cutoff < above ∧ above ≤ ordered.length ∧
        Closed database ordered above ∧
        ∀ index, cutoff < index → index < above → ¬Closed database ordered index

theorem isNearest_of_spec {database : Database} {ordered indices : List Nat} {cutoff : Nat}
    (spec : ∀ index ≤ ordered.length, index ∈ indices ↔ ¬Closed database ordered index)
    (bound : cutoff ≤ ordered.length) (refused : cutoff ∈ indices) :
    IsNearest database ordered cutoff
      (((nearestBelow indices cutoff).toList ++
        (nearestAbove indices cutoff ordered.length).toList).map (safeAnchor ordered)) := by
  have zero : 0 ∉ indices := by
    rw [spec 0 (Nat.zero_le _), not_not]
    exact closed_zero database ordered
  have positive : 0 < cutoff := by
    by_contra least
    have same : cutoff = 0 := by omega
    rw [same] at refused
    exact zero refused
  have belowSpec := nearestBelow_spec indices cutoff
  have aboveSpec := nearestAbove_spec indices cutoff ordered.length
  cases foundBelow : nearestBelow indices cutoff with
  | none =>
    rw [foundBelow] at belowSpec
    exact absurd (belowSpec 0 positive) zero
  | some below =>
    rw [foundBelow] at belowSpec
    refine ⟨below, nearestAbove indices cutoff ordered.length, by simp, ?_, ?_⟩
    · refine ⟨belowSpec.1, ?_, fun index low high => ?_⟩
      · have free := belowSpec.2.1
        rwa [spec below (by omega), not_not] at free
      · exact (spec index (by omega)).mp (belowSpec.2.2 index low high)
    · cases foundAbove : nearestAbove indices cutoff ordered.length with
      | none =>
        rw [foundAbove] at aboveSpec
        exact fun index low high => (spec index high).mp (aboveSpec index low high)
      | some above =>
        rw [foundAbove] at aboveSpec
        obtain ⟨low, high, free, between⟩ := aboveSpec
        refine ⟨low, high, ?_, fun index least less => ?_⟩
        · rwa [spec above high, not_not] at free
        · exact (spec index (by omega)).mp (between index least less)

theorem find?_agree {Value : Type} {first second : Value → Bool} {values : List Value}
    (agree : ∀ value ∈ values, first value = second value) :
    values.find? first = values.find? second := by
  induction values with
  | nil => rfl
  | cons value values ih =>
    rw [List.find?_cons, List.find?_cons, agree value List.mem_cons_self,
      ih fun other member => agree other (List.mem_cons_of_mem _ member)]

theorem nearest_agree {first second : List Nat} {cutoff viewSize : Nat}
    (agree : ∀ index ≤ viewSize, index ∈ first ↔ index ∈ second) (bound : cutoff ≤ viewSize) :
    nearestBelow first cutoff = nearestBelow second cutoff ∧
      nearestAbove first cutoff viewSize = nearestAbove second cutoff viewSize := by
  constructor
  · apply find?_agree
    intro index member
    have less : index < cutoff := List.mem_range.mp (List.mem_reverse.mp member)
    simp only [agree index (by omega)]
  · apply find?_agree
    intro index member
    have between := mem_cutoffs.mp member
    simp only [agree index (by omega)]

theorem validate_agree (database : Database) {first second : Nat} (positiveFirst : 0 < first)
    (positiveSecond : 0 < second) (sourceSequences : List Nat)
    {rows others : List ToolCallRow} (distinct : rows.Nodup) (distinctOthers : others.Nodup)
    (members : ∀ row, row ∈ rows ↔
      row ∈ database.selectedRows first sourceSequences.eraseDups)
    (otherMembers : ∀ row, row ∈ others ↔
      row ∈ database.selectedRows second sourceSequences.eraseDups) (cutoffIndex : Int) :
    database.validateToolProtocolClosure first rows sourceSequences cutoffIndex =
      database.validateToolProtocolClosure second others sourceSequences cutoffIndex := by
  obtain ⟨indices, collected, spec⟩ :=
    @unsafeCutoffIndices_spec (List SafeAnchor) database first positiveFirst
      sourceSequences.eraseDups rows distinct members
  obtain ⟨again, collectedAgain, specAgain⟩ :=
    @unsafeCutoffIndices_spec (List SafeAnchor) database second positiveSecond
      sourceSequences.eraseDups others distinctOthers otherMembers
  have agree : ∀ index ≤ sourceSequences.eraseDups.length, index ∈ indices ↔ index ∈ again :=
    fun index bound => (spec index bound).trans (specAgain index bound).symm
  rw [Database.validateToolProtocolClosure, Database.validateToolProtocolClosure]
  split
  · rfl
  · rename_i inside
    rw [not_or] at inside
    rw [collected, collectedAgain]
    obtain ⟨below, above⟩ := nearest_agree agree
      (show cutoffIndex.toNat ≤ sourceSequences.eraseDups.length by omega)
    simp only [bind, Except.bind, agree cutoffIndex.toNat (by omega), below, above]

/-- The validator accepts the closed prefixes and refuses all others with the nearest
closed ones; chunks of another size and the rows in another order give the same. -/
theorem validate_exact (database : Database) {size : Nat} (positive : 0 < size)
    (sourceSequences : List Nat) {rows : List ToolCallRow} (distinct : rows.Nodup)
    (members : ∀ row, row ∈ rows ↔
      row ∈ database.selectedRows size sourceSequences.eraseDups) (cutoffIndex : Int) :
    (cutoffIndex < 0 ∨ sourceSequences.eraseDups.length < cutoffIndex →
      database.validateToolProtocolClosure size rows sourceSequences cutoffIndex =
        .error (.outOfRange cutoffIndex sourceSequences.eraseDups.length)) ∧
    (0 ≤ cutoffIndex → cutoffIndex ≤ sourceSequences.eraseDups.length →
      (database.validateToolProtocolClosure size rows sourceSequences cutoffIndex = .ok () ↔
        Closed database sourceSequences.eraseDups cutoffIndex.toNat) ∧
      (¬Closed database sourceSequences.eraseDups cutoffIndex.toNat →
        ∃ anchors, database.validateToolProtocolClosure size rows sourceSequences cutoffIndex =
            .error (.conflict cutoffIndex.toNat sourceSequences.eraseDups.length anchors) ∧
          IsNearest database sourceSequences.eraseDups cutoffIndex.toNat anchors)) ∧
    database.validateToolProtocolClosure size rows sourceSequences 0 = .ok () ∧
    ∀ other others, 0 < other → others.Nodup →
      (∀ row, row ∈ others ↔ row ∈ database.selectedRows other sourceSequences.eraseDups) →
      database.validateToolProtocolClosure other others sourceSequences cutoffIndex =
        database.validateToolProtocolClosure size rows sourceSequences cutoffIndex := by
  obtain ⟨indices, collected, spec⟩ :=
    @unsafeCutoffIndices_spec (List SafeAnchor) database size positive
      sourceSequences.eraseDups rows distinct members
  have validated : ∀ cutoff : Int, 0 ≤ cutoff → cutoff ≤ sourceSequences.eraseDups.length →
      database.validateToolProtocolClosure size rows sourceSequences cutoff =
        if cutoff.toNat ∉ indices then .ok ()
        else
          .error (.conflict cutoff.toNat sourceSequences.eraseDups.length
            (((nearestBelow indices cutoff.toNat).toList ++
              (nearestAbove indices cutoff.toNat sourceSequences.eraseDups.length).toList).map
                (safeAnchor sourceSequences.eraseDups))) := by
    intro cutoff least most
    rw [Database.validateToolProtocolClosure, if_neg (by omega), collected]
    rfl
  have free : ∀ cutoff : Int, 0 ≤ cutoff → cutoff ≤ sourceSequences.eraseDups.length →
      (cutoff.toNat ∉ indices ↔ Closed database sourceSequences.eraseDups cutoff.toNat) := by
    intro cutoff least most
    rw [spec cutoff.toNat (by omega), not_not]
  refine ⟨?_, ?_, ?_, ?_⟩
  · intro outside
    rw [Database.validateToolProtocolClosure]
    exact if_pos outside
  · intro least most
    rw [validated cutoffIndex least most, ← free cutoffIndex least most]
    constructor
    · constructor
      · intro accepted refused
        rw [if_neg (not_not.mpr refused)] at accepted
        cases accepted
      · exact fun accepted => if_pos accepted
    · intro refused
      rw [not_not] at refused
      refine ⟨_, if_neg (not_not.mpr refused), ?_⟩
      exact isNearest_of_spec spec (by omega) refused
  · rw [validated 0 (Int.le_refl 0) (by omega)]
    exact if_pos ((free 0 (Int.le_refl 0) (by omega)).mpr (closed_zero _ _))

  · intro other others otherPositive otherDistinct otherMembers
    exact validate_agree database otherPositive positive sourceSequences otherDistinct distinct
      otherMembers members cutoffIndex

def sampleCarrier (messageId role turnId : String) : ToolCarrier :=
  ⟨messageId, some turnId, "execution", role, "completed", some "call", none⟩

def sampleDatabase : Database where
  toolCalls := [⟨"call", 1, some 2⟩, ⟨"call", 9, some 2⟩]
  messages := .ofList
    [(1, sampleCarrier "call" "assistant" "turn"), (2, sampleCarrier "result" "tool" "turn"),
      (9, sampleCarrier "hidden" "assistant" "before")]

theorem sampleDatabase_exact :
    sampleDatabase.validateToolProtocolClosure 500 sampleDatabase.toolCalls [1, 2] 0 = .ok () :=
  (validate_exact sampleDatabase (by decide) [1, 2] (by decide)
    (fun row => by
      have selected : sampleDatabase.selectedRows 500 [1, 2].eraseDups =
          sampleDatabase.toolCalls := by decide +kernel
      rw [selected]) 2).2.2.1

/-- The call of the prefix has its result and the tool message its declaration, and the
cutoff is refused for the row of the hidden message. -/
theorem hidden_row_refused :
    ClosesCalls sampleDatabase [1, 2] 2 ∧
      sampleDatabase.validateToolProtocolClosure 500
          (sampleDatabase.selectedRows 500 [1, 2]) [1, 2] 2 =
        .error (.conflict 2 2 [⟨0, none⟩]) := by
  have matched : sampleDatabase.Matches ⟨"call", 1, some 2⟩ 2 :=
    ⟨rfl, sampleCarrier "call" "assistant" "turn", sampleCarrier "result" "tool" "turn", rfl, rfl,
      by decide +kernel⟩
  refine ⟨⟨?_, ?_⟩, by decide +kernel⟩
  · intro row called inside
    obtain rfl | rfl : row = ⟨"call", 1, some 2⟩ ∨ row = ⟨"call", 9, some 2⟩ := by
      simpa [sampleDatabase] using called
    · exact ⟨2, by decide, by decide, matched⟩
    · exact absurd inside (by decide)
  · intro sequence inside tool
    obtain rfl | rfl : sequence = 1 ∨ sequence = 2 := by simpa using inside
    · obtain ⟨carrier, found, role⟩ := tool
      cases found
      exact absurd role (by decide)
    · exact ⟨_, List.mem_cons_self, by decide, by decide, matched⟩

end GraphAgent.ToolProtocol
