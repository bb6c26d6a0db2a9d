import GraphAgent.PatchMatcher
import Mathlib.Logic.Relation

/-!
# The loops of the parser of a patch

One iteration of `_Parser.parse` and one of `_parse_update_file` are steps between
positions.  Every step but one reads a line: a section that begins at a bare `***`
with the search index at zero leaves the parser where it is, and the parser returns
or raises exactly when no section it reaches begins so.
-/

namespace GraphAgent.PatchParser

open Terminal Relation

/-- The locals of `_parse_update_file`, with what its caller keeps meanwhile. -/
structure Update where
  actions : Actions
  path : Text
  moveTo : Text
  fileLines : List Text
  target : IndentStyle
  searchIndex : Nat
  chunks : List Chunk
  lines : List Text

/-- Where the parser is: before an iteration of one of its loops. -/
inductive Position where
  | files (actions : Actions) (lines : List Text)
  | sections (update : Update)

@[simp]
def Position.lines : Position → List Text
  | .files _ lines => lines
  | .sections update => update.lines

def Update.finished (update : Update) : Actions :=
  update.actions ++ [(update.path, ⟨.update, update.chunks, none,
    if update.moveTo = [] then none else some update.moveTo⟩)]

/-- A section begins at a bare `***`, and none before it has moved the search index. -/
def Update.Stuck (update : Update) : Prop :=
  update.lines.head? = some "***".toList ∧ update.searchIndex = 0

instance (update : Update) : Decidable update.Stuck :=
  inferInstanceAs (Decidable (_ ∧ _))

section Steps

variable (matcher : Matcher)

/-- One iteration of `_parse_update_file`, or `none` where its loop ends. -/
def sectionIteration (update : Update) : Except DiffError (Option Update) :=
  if isDone [patchSuffix, updateFilePrefix, deleteFilePrefix, addFilePrefix,
      endOfFilePrefix] update.lines then .ok none
  else do
    let (sectionLine, lines) ← readEntire chunkDelimiter update.lines
    let hint := strip (sectionLine.drop chunkDelimiter.length)
    if sectionLine = [] ∧ update.searchIndex ≠ 0 then
      .error (.invalidLine (lines.headD "<EOF>".toList))
    else do
      let searchIndex :=
        if hint ≠ [] then
          (matcher.findHint update.fileLines hint update.searchIndex).getD update.searchIndex
        else update.searchIndex
      let first ← peekNextSection lines 0
      let (part, found) ← findMerged matcher update.path update.fileLines lines searchIndex
        (first.fuzzMerges + 1) 0
      return some { update with
        searchIndex := found.line + part.context.length
        chunks := update.chunks ++
          placeSection matcher update.path update.fileLines update.target part found
        lines := part.rest }

/-- One iteration of `_Parser.parse` up to its sections, or `none` where its loop ends. -/
def fileIteration (currentFiles : List (Text × Text)) (actions : Actions) (lines : List Text) :
    Except DiffError (Option Position) :=
  if isDone [patchSuffix] lines then
    if lines = [] then .error .missingEnd else .ok none
  else do
    let (updated, lines) ← readPrefixed updateFilePrefix lines
    if updated ≠ [] then do
      rejectDuplicate actions updated
      let (moveTo, lines) ← readPrefixed moveFileToPrefix lines
      match currentFiles.lookup updated with
      | none => .error (.missingFile updated)
      | some text =>
        return some (.sections ⟨actions, updated, moveTo, text.splitOn '\n',
          matcher.guessIndentation (text.splitOn '\n') none, 0, [], lines⟩)
    else do
      let (deleted, lines) ← readPrefixed deleteFilePrefix lines
      if deleted ≠ [] then do
        rejectDuplicate actions deleted
        if (currentFiles.lookup deleted).isNone then .error (.missingFile deleted)
        else return some (.files (actions ++ [(deleted, ⟨.delete, [], none, none⟩)]) lines)
      else do
        let (added, lines) ← readPrefixed addFilePrefix lines
        if added ≠ [] then do
          rejectDuplicate actions added
          if (currentFiles.lookup added).isSome then .error (.fileExists added)
          else do
            let (content, lines) ← parseAddFile [] lines
            return some (.files
              (actions ++ [(added, ⟨.add, [], some (joinLines content), none⟩)]) lines)
        else .error (.unknownLine (lines.headD "<EOF>".toList))

/-- The position after the next iteration, or `none` where the parser is done. -/
def advance (currentFiles : List (Text × Text)) : Position → Except DiffError (Option Position)
  | .files actions lines => fileIteration matcher currentFiles actions lines
  | .sections update => do
      match ← sectionIteration matcher update with
      | none => return some (.files update.finished update.lines)
      | some next => return some (.sections next)

/-- `parse_patch` starts its parser. -/
def Starts (text : Text) : Prop :=
  startsWith (patchPrefix ++ ['\n']) text ∧ 2 ≤ ((strip text).splitOn '\n').length ∧
    startsWith patchPrefix (((strip text).splitOn '\n').headD [])

instance (text : Text) : Decidable (Starts text) :=
  inferInstanceAs (Decidable (_ ∧ _ ∧ _))

def Advances (currentFiles : List (Text × Text)) (position next : Position) : Prop :=
  advance matcher currentFiles position = .ok (some next)

def Reached (currentFiles : List (Text × Text)) (text : Text) (position : Position) : Prop :=
  Starts text ∧
    ReflTransGen (Advances matcher currentFiles) (.files [] (parsedLines text).tail) position

/-- `parse_patch` returns or raises. -/
def Terminates (currentFiles : List (Text × Text)) (text : Text) : Prop :=
  ∃ fuel, parsePatch matcher fuel text currentFiles ≠ .error .outOfFuel

def resume (currentFiles : List (Text × Text)) (inner outer : Nat) :
    Position → Except DiffError Actions
  | .files actions lines => parse matcher currentFiles outer actions lines
  | .sections update => do
      let (chunks, lines) ← parseUpdateFile matcher update.path update.fileLines update.target
        inner update.searchIndex update.chunks update.lines
      parse matcher currentFiles outer
        ({ update with chunks := chunks } : Update).finished lines

end Steps

section Loops

variable {matcher : Matcher} {currentFiles : List (Text × Text)}

theorem parseUpdateFile_succ (fuel : Nat) (update : Update) :
    parseUpdateFile matcher update.path update.fileLines update.target (fuel + 1)
        update.searchIndex update.chunks update.lines =
      (do match ← sectionIteration matcher update with
          | none => .ok (update.chunks, update.lines)
          | some next =>
            parseUpdateFile matcher next.path next.fileLines next.target fuel
              next.searchIndex next.chunks next.lines) := by
  rw [parseUpdateFile, sectionIteration]
  split
  · rfl
  · cases readEntire chunkDelimiter update.lines with
    | error error => rfl
    | ok read =>
      simp only [bind_assoc, Except.bind, bind, Except.pure, pure]
      split
      · rfl
      · cases peekNextSection read.2 0 with
        | error error => rfl
        | ok first =>
          simp only
          generalize findMerged matcher update.path update.fileLines read.2 _ _ 0 = merged
          cases merged <;> rfl

theorem parse_succ (fuel : Nat) (actions : Actions) (lines : List Text) :
    parse matcher currentFiles (fuel + 1) actions lines =
      (do match ← fileIteration matcher currentFiles actions lines with
          | none => .ok actions
          | some next => resume matcher currentFiles fuel fuel next) := by
  rw [parse, fileIteration]
  split
  · split <;> rfl
  · cases readPrefixed updateFilePrefix lines with
    | error error => rfl
    | ok updated =>
      simp only [Except.bind, bind, Except.pure, pure]
      split
      · cases rejectDuplicate actions updated.1 with
        | error error => rfl
        | ok _ =>
          simp only
          cases readPrefixed moveFileToPrefix updated.2 with
          | error error => rfl
          | ok moved => cases currentFiles.lookup updated.1 <;> rfl
      · cases readPrefixed deleteFilePrefix updated.2 with
        | error error => rfl
        | ok deleted =>
          simp only
          split
          · cases rejectDuplicate actions deleted.1 with
            | error error => rfl
            | ok _ =>
              simp only
              split <;> rfl
          · cases readPrefixed addFilePrefix deleted.2 with
            | error error => rfl
            | ok added =>
              simp only
              split
              · cases rejectDuplicate actions added.1 with
                | error error => rfl
                | ok _ =>
                  simp only
                  split
                  · rfl
                  · cases parseAddFile [] added.2 <;> rfl
              · rfl

end Loops

theorem readPrefixed_length {start text : Text} {lines rest : List Text}
    (read : readPrefixed start lines = .ok (text, rest)) :
    rest.length ≤ lines.length ∧ (text ≠ [] → rest.length < lines.length) := by
  cases lines with
  | nil => simp [readPrefixed] at read
  | cons current others =>
    rw [readPrefixed] at read
    split at read
    · cases read
      simp
    · cases read
      simp

theorem readEntire_cons (start current : Text) (others : List Text) :
    ∃ text rest, readEntire start (current :: others) = .ok (text, rest) ∧
      ((startsWith start current ∧ rest = others) ∨
        (¬startsWith start current ∧ text = [] ∧ rest = current :: others)) := by
  by_cases begun : startsWith start current
  · exact ⟨current, others, by rw [readEntire, if_pos begun], .inl ⟨begun, rfl⟩⟩
  · exact ⟨[], current :: others, by rw [readEntire, if_neg begun], .inr ⟨begun, rfl, rfl⟩⟩

theorem parseAddFile_length {content text : List Text} {lines rest : List Text}
    (read : parseAddFile content lines = .ok (text, rest)) : rest.length ≤ lines.length := by
  induction lines generalizing content with
  | nil =>
    cases read
    exact le_rfl
  | cons line others ih =>
    rw [parseAddFile] at read
    split at read
    · cases read
      exact le_rfl
    · split at read
      · cases read
      · exact (ih read).trans (Nat.le_succ _)

theorem peekLines_length {fuzzMerge : Nat} {peek final : Peek} {lines rest : List Text}
    (read : peekLines fuzzMerge peek lines = .ok (final, rest)) :
    rest.length ≤ lines.length := by
  induction lines generalizing peek with
  | nil =>
    cases read
    exact le_rfl
  | cons current others ih =>
    rw [peekLines] at read
    split at read
    · cases read
      exact le_rfl
    · split at read
      · cases read
        exact le_rfl
      · split at read
        · cases read
        · exact (ih read).trans (Nat.le_succ _)

theorem peekLines_length_lt {fuzzMerge : Nat} {peek final : Peek} {current : Text}
    {others rest : List Text}
    (inside : ¬sectionPrefixes.any fun start => startsWith (strip start) current)
    (notBare : current ≠ "***".toList)
    (read : peekLines fuzzMerge peek (current :: others) = .ok (final, rest)) :
    rest.length < (current :: others).length := by
  rw [peekLines, if_neg inside, if_neg notBare] at read
  split at read
  · cases read
  · exact Nat.lt_succ_of_le (peekLines_length read)

theorem peekNextSection_rest {lines : List Text} {fuzzMerge : Nat} {part : Section}
    (read : peekNextSection lines fuzzMerge = .ok part) :
    ∃ final rest, peekLines fuzzMerge Peek.start lines = .ok (final, rest) ∧
      part.rest.length ≤ rest.length := by
  rw [peekNextSection] at read
  cases peeked : peekLines fuzzMerge Peek.start lines with
  | error error =>
    rw [peeked] at read
    cases read
  | ok found =>
    rw [peeked] at read
    cases read
    refine ⟨found.1, found.2, rfl, ?_⟩
    dsimp only
    split
    · simp
    · exact le_rfl

theorem findMerged_section {matcher : Matcher} {path : Text} {fileLines lines : List Text}
    {searchIndex tries fuzzMerge : Nat} {part : Section} {found : FuzzMatch}
    (merged : findMerged matcher path fileLines lines searchIndex tries fuzzMerge =
      .ok (part, found)) :
    ∃ merge, peekNextSection lines merge = .ok part := by
  induction tries generalizing fuzzMerge with
  | zero => cases merged
  | succ tries ih =>
    rw [findMerged] at merged
    cases peeked : peekNextSection lines fuzzMerge with
    | error error =>
      rw [peeked] at merged
      cases merged
    | ok current =>
      rw [peeked] at merged
      simp only [bind, Except.bind, pure, Except.pure] at merged
      split at merged
      · cases merged
        exact ⟨fuzzMerge, peeked⟩
      · exact ih merged

section Reading

variable {matcher : Matcher} {currentFiles : List (Text × Text)}

theorem sectionIteration_some {update next : Update}
    (iterated : sectionIteration matcher update = .ok (some next)) :
    ∃ current others part found merge lines,
      update.lines = current :: others ∧
      ¬isDone [patchSuffix, updateFilePrefix, deleteFilePrefix, addFilePrefix,
        endOfFilePrefix] update.lines ∧
      ((startsWith chunkDelimiter current ∧ lines = others) ∨
        (¬startsWith chunkDelimiter current ∧ update.searchIndex = 0 ∧
          lines = current :: others)) ∧
      peekNextSection lines merge = .ok part ∧
      next = { update with
        searchIndex := found.line + part.context.length
        chunks := update.chunks ++
          placeSection matcher update.path update.fileLines update.target part found
        lines := part.rest } := by
  rw [sectionIteration] at iterated
  split at iterated
  · cases iterated
  · rename_i unfinished
    cases listed : update.lines with
    | nil => exact absurd (by simp [listed, isDone]) unfinished
    | cons current others =>
      obtain ⟨sectionLine, lines, read, start⟩ := readEntire_cons chunkDelimiter current others
      rw [listed, read] at iterated
      simp only [bind, Except.bind, pure, Except.pure] at iterated
      split at iterated
      · cases iterated
      · rename_i allowed
        cases first : peekNextSection lines 0 with
        | error error =>
          rw [first] at iterated
          cases iterated
        | ok peeked =>
          rw [first] at iterated
          simp only at iterated
          split at iterated
          · cases iterated
          · rename_i merged found
            cases iterated
            obtain ⟨merge, part⟩ := findMerged_section found
            refine ⟨current, others, merged.1, merged.2, merge, lines, rfl, ?_, ?_, part, rfl⟩
            · rw [← listed]
              exact unfinished
            · obtain marked | ⟨unmarked, empty, kept⟩ := start
              · exact .inl marked
              · refine .inr ⟨unmarked, ?_, kept⟩
                by_contra moved
                exact allowed ⟨empty, moved⟩

theorem sectionIteration_shortens {update next : Update} (free : ¬update.Stuck)
    (iterated : sectionIteration matcher update = .ok (some next)) :
    next.lines.length < update.lines.length := by
  obtain ⟨current, others, part, found, merge, lines, listed, unfinished, start, peeked, rfl⟩ :=
    sectionIteration_some iterated
  obtain ⟨final, rest, read, shorter⟩ := peekNextSection_rest peeked
  refine shorter.trans_lt ?_
  rw [listed]
  obtain ⟨-, rfl⟩ | ⟨unmarked, zero, rfl⟩ := start
  · exact Nat.lt_succ_of_le (peekLines_length read)
  · have notBare : current ≠ "***".toList := by
      rintro rfl
      exact free ⟨by rw [listed]; rfl, zero⟩
    refine peekLines_length_lt ?_ notBare read
    rw [listed] at unfinished
    simp only [isDone, List.any_cons, List.any_nil, Bool.or_false, Bool.or_eq_true,
      not_or] at unfinished
    have delimiter : strip chunkDelimiter = chunkDelimiter := by decide
    simp only [sectionPrefixes, List.any_cons, List.any_nil, Bool.or_false, Bool.or_eq_true,
      not_or, delimiter]
    exact ⟨unmarked, unfinished.1, unfinished.2.1, unfinished.2.2.1, unfinished.2.2.2.1,
      unfinished.2.2.2.2⟩

theorem sectionIteration_length {update next : Update}
    (iterated : sectionIteration matcher update = .ok (some next)) :
    next.lines.length ≤ update.lines.length := by
  obtain ⟨current, others, part, found, merge, lines, listed, -, start, peeked, rfl⟩ :=
    sectionIteration_some iterated
  obtain ⟨final, rest, read, shorter⟩ := peekNextSection_rest peeked
  refine shorter.trans ((peekLines_length read).trans ?_)
  rw [listed]
  obtain ⟨-, rfl⟩ | ⟨-, -, rfl⟩ := start
  · exact Nat.le_succ _
  · exact le_rfl

theorem fileIteration_shortens {actions : Actions} {lines : List Text} {next : Position}
    (iterated : fileIteration matcher currentFiles actions lines = .ok (some next)) :
    next.lines.length < lines.length := by
  rw [fileIteration] at iterated
  split at iterated
  · split at iterated <;> cases iterated
  · simp only [bind, Except.bind, pure, Except.pure] at iterated
    split at iterated
    · cases iterated
    · rename_i updated readUpdate
      obtain ⟨updateLe, updateLt⟩ := readPrefixed_length readUpdate
      split at iterated
      · rename_i named
        split at iterated
        · cases iterated
        · split at iterated
          · cases iterated
          · rename_i moved readMove
            split at iterated
            · cases iterated
            · cases iterated
              exact (readPrefixed_length readMove).1.trans_lt (updateLt named)
      · split at iterated
        · cases iterated
        · rename_i deleted readDelete
          obtain ⟨deleteLe, deleteLt⟩ := readPrefixed_length readDelete
          split at iterated
          · rename_i named
            split at iterated
            · cases iterated
            · split at iterated
              · cases iterated
              · cases iterated
                exact (deleteLt named).trans_le updateLe
          · split at iterated
            · cases iterated
            · rename_i added readAdd
              obtain ⟨-, addLt⟩ := readPrefixed_length readAdd
              split at iterated
              · rename_i named
                split at iterated
                · cases iterated
                · split at iterated
                  · cases iterated
                  · split at iterated
                    · cases iterated
                    · rename_i content readContent
                      cases iterated
                      exact (parseAddFile_length readContent).trans_lt
                        ((addLt named).trans_le (deleteLe.trans updateLe))
              · cases iterated

end Reading

theorem bind_ne_outOfFuel {α β : Type} {first : Except DiffError α} {next : α → Except DiffError β}
    (before : first ≠ .error .outOfFuel)
    (after : ∀ value, first = .ok value → next value ≠ .error .outOfFuel) :
    (first >>= next) ≠ .error .outOfFuel := by
  cases first with
  | error error =>
    intro failed
    cases failed
    exact before rfl
  | ok value => exact after value rfl

theorem readPrefixed_ne (start : Text) (lines : List Text) :
    readPrefixed start lines ≠ .error .outOfFuel := by
  cases lines with
  | nil => simp [readPrefixed]
  | cons current rest =>
    rw [readPrefixed]
    split <;> simp

theorem readEntire_ne (start : Text) (lines : List Text) :
    readEntire start lines ≠ .error .outOfFuel := by
  cases lines with
  | nil => simp [readEntire]
  | cons current rest =>
    rw [readEntire]
    split <;> simp

theorem rejectDuplicate_ne (actions : Actions) (path : Text) :
    rejectDuplicate actions path ≠ .error .outOfFuel := by
  rw [rejectDuplicate]
  split <;> simp

theorem parseAddFile_ne (content lines : List Text) :
    parseAddFile content lines ≠ .error .outOfFuel := by
  induction lines generalizing content with
  | nil => simp [parseAddFile]
  | cons line rest ih =>
    rw [parseAddFile]
    split
    · simp
    · split
      · simp
      · exact ih _

theorem peekLines_ne (fuzzMerge : Nat) (peek : Peek) (lines : List Text) :
    peekLines fuzzMerge peek lines ≠ .error .outOfFuel := by
  induction lines generalizing peek with
  | nil => simp [peekLines]
  | cons current rest ih =>
    rw [peekLines]
    split
    · simp
    · split
      · simp
      · split
        · simp
        · exact ih _

theorem peekNextSection_ne (lines : List Text) (fuzzMerge : Nat) :
    peekNextSection lines fuzzMerge ≠ .error .outOfFuel := by
  apply bind_ne_outOfFuel (peekLines_ne fuzzMerge Peek.start lines)
  intro value _
  simp [pure, Except.pure]

theorem findMerged_ne (matcher : Matcher) (path : Text) (fileLines lines : List Text)
    (searchIndex tries fuzzMerge : Nat) :
    findMerged matcher path fileLines lines searchIndex tries fuzzMerge ≠ .error .outOfFuel := by
  induction tries generalizing fuzzMerge with
  | zero => simp [findMerged]
  | succ tries ih =>
    rw [findMerged]
    apply bind_ne_outOfFuel (peekNextSection_ne lines fuzzMerge)
    intro part _
    split
    · simp [pure, Except.pure]
    · exact ih _

theorem updateLines_ne (path : Text) (source : List Text) (chunks : List Chunk)
    (sourceIndex : Nat) (destination : List Text) :
    updateLines path source chunks sourceIndex destination ≠ .error .outOfFuel := by
  induction chunks generalizing sourceIndex destination with
  | nil => simp [updateLines]
  | cons chunk rest ih =>
    rw [updateLines]
    split
    · simp
    · exact ih _ _

theorem changeOf_ne (currentFiles : List (Text × Text)) (entry : Text × PatchAction) :
    changeOf currentFiles entry ≠ .error .outOfFuel := by
  rw [changeOf]
  split
  · simp
  · simp
  · apply bind_ne_outOfFuel
    · rw [getUpdatedFile, map_eq_pure_bind]
      apply bind_ne_outOfFuel (updateLines_ne _ _ _ _ _)
      intro value _
      simp [pure, Except.pure]
    · intro content _
      simp [pure, Except.pure]

theorem changes_ne (currentFiles : List (Text × Text)) (actions : Actions) :
    actions.mapM (changeOf currentFiles) ≠ .error .outOfFuel := by
  induction actions with
  | nil => simp [pure, Except.pure]
  | cons entry rest ih =>
    rw [List.mapM_cons]
    apply bind_ne_outOfFuel (changeOf_ne currentFiles entry)
    intro change _
    apply bind_ne_outOfFuel ih
    intro changes _
    simp [pure, Except.pure]

section Fuel

variable {matcher : Matcher} {currentFiles : List (Text × Text)}

theorem sectionIteration_ne (update : Update) :
    sectionIteration matcher update ≠ .error .outOfFuel := by
  rw [sectionIteration]
  split
  · simp
  · apply bind_ne_outOfFuel (readEntire_ne _ _)
    intro read _
    dsimp only
    split
    · simp
    · apply bind_ne_outOfFuel (peekNextSection_ne _ _)
      intro first _
      apply bind_ne_outOfFuel (findMerged_ne _ _ _ _ _ _ _)
      intro merged _
      simp [pure, Except.pure]

theorem fileIteration_ne (actions : Actions) (lines : List Text) :
    fileIteration matcher currentFiles actions lines ≠ .error .outOfFuel := by
  rw [fileIteration]
  split
  · split <;> simp
  · apply bind_ne_outOfFuel (readPrefixed_ne _ _)
    intro updated _
    dsimp only
    split
    · apply bind_ne_outOfFuel (rejectDuplicate_ne _ _)
      intro _ _
      apply bind_ne_outOfFuel (readPrefixed_ne _ _)
      intro moved _
      split <;> simp [pure, Except.pure]
    · apply bind_ne_outOfFuel (readPrefixed_ne _ _)
      intro deleted _
      split
      · apply bind_ne_outOfFuel (rejectDuplicate_ne _ _)
        intro _ _
        split <;> simp [pure, Except.pure]
      · apply bind_ne_outOfFuel (readPrefixed_ne _ _)
        intro added _
        split
        · apply bind_ne_outOfFuel (rejectDuplicate_ne _ _)
          intro _ _
          split
          · simp
          · apply bind_ne_outOfFuel (parseAddFile_ne _ _)
            intro content _
            simp [pure, Except.pure]
        · simp

end Fuel

section Running

variable {matcher : Matcher} {currentFiles : List (Text × Text)}

def Position.measure : Position → Nat
  | .files _ lines => 2 * lines.length
  | .sections update => 2 * update.lines.length + 1

def Position.Stuck : Position → Prop
  | .files _ _ => False
  | .sections update => update.Stuck

theorem advance_sections {update : Update} {next : Position}
    (advanced : advance matcher currentFiles (.sections update) = .ok (some next)) :
    (sectionIteration matcher update = .ok none ∧
        next = .files update.finished update.lines) ∨
      ∃ after, sectionIteration matcher update = .ok (some after) ∧ next = .sections after := by
  rw [advance] at advanced
  cases iterated : sectionIteration matcher update with
  | error error =>
    rw [iterated] at advanced
    cases advanced
  | ok outcome =>
    rw [iterated] at advanced
    cases outcome with
    | none =>
      cases advanced
      exact .inl ⟨rfl, rfl⟩
    | some after =>
      cases advanced
      exact .inr ⟨after, rfl, rfl⟩

theorem measure_lt {position next : Position} (free : ¬position.Stuck)
    (advanced : Advances matcher currentFiles position next) :
    next.measure < position.measure := by
  cases position with
  | files actions lines =>
    have shorter := fileIteration_shortens advanced
    cases next <;> simp only [Position.lines, Position.measure] at * <;> omega
  | sections update =>
    obtain ⟨-, rfl⟩ | ⟨after, iterated, rfl⟩ := advance_sections advanced
    · exact Nat.lt_succ_self _
    · have shorter := sectionIteration_shortens free iterated
      simp only [Position.measure]
      omega

theorem resume_files (inner outer : Nat) (actions : Actions) (lines : List Text) :
    resume matcher currentFiles inner (outer + 1) (.files actions lines) =
      (do match ← advance matcher currentFiles (.files actions lines) with
          | none => .ok actions
          | some next => resume matcher currentFiles outer outer next) :=
  parse_succ outer actions lines

theorem resume_sections_none {update : Update}
    (iterated : sectionIteration matcher update = .ok none) (inner outer : Nat) :
    resume matcher currentFiles (inner + 1) outer (.sections update) =
      resume matcher currentFiles inner outer (.files update.finished update.lines) := by
  conv_lhs => rw [resume, parseUpdateFile_succ, iterated]
  rfl

theorem resume_sections_some {update next : Update}
    (iterated : sectionIteration matcher update = .ok (some next)) (inner outer : Nat) :
    resume matcher currentFiles (inner + 1) outer (.sections update) =
      resume matcher currentFiles inner outer (.sections next) := by
  obtain ⟨current, others, part, found, merge, lines, -, -, -, -, rfl⟩ :=
    sectionIteration_some iterated
  conv_lhs => rw [resume, parseUpdateFile_succ, iterated]
  rfl

theorem resume_sections_error {update : Update} {error : DiffError}
    (iterated : sectionIteration matcher update = .error error) (inner outer : Nat) :
    resume matcher currentFiles (inner + 1) outer (.sections update) = .error error := by
  conv_lhs => rw [resume, parseUpdateFile_succ, iterated]
  rfl

theorem resume_ne {position : Position}
    (free : ∀ reached, ReflTransGen (Advances matcher currentFiles) position reached →
      ¬reached.Stuck) {inner outer : Nat} (innerFuel : position.measure < inner)
    (outerFuel : position.measure < outer) :
    resume matcher currentFiles inner outer position ≠ .error .outOfFuel := by
  induction measured : position.measure using Nat.strong_induction_on
    generalizing position inner outer with
  | _ measure ih =>
    subst measured
    have unstuck := free position .refl
    have further : ∀ next inner' outer', Advances matcher currentFiles position next →
        position.measure ≤ inner' → position.measure ≤ outer' →
        resume matcher currentFiles inner' outer' next ≠ .error .outOfFuel := by
      intro next inner' outer' advanced innerLe outerLe
      have less := measure_lt unstuck advanced
      apply ih next.measure less _ (less.trans_le innerLe) (less.trans_le outerLe) rfl
      intro reached path
      exact free reached (.head advanced path)
    cases position with
    | files actions lines =>
      obtain _ | outer := outer
      · omega
      rw [resume_files]
      apply bind_ne_outOfFuel (fileIteration_ne actions lines)
      intro outcome iterated
      cases outcome with
      | none => simp
      | some next => exact further next outer outer iterated (by omega) (by omega)
    | sections update =>
      obtain _ | inner := inner
      · omega
      cases iterated : sectionIteration matcher update with
      | error error =>
        rw [resume_sections_error iterated]
        intro failed
        cases failed
        exact sectionIteration_ne update iterated
      | ok outcome =>
        have advanced : advance matcher currentFiles (.sections update) =
            (do match ← Except.ok outcome with
                | none => return some (.files update.finished update.lines)
                | some next => return some (.sections next)) := by
          rw [advance, iterated]
        cases outcome with
        | none =>
          rw [resume_sections_none iterated]
          exact further _ inner outer advanced (by omega) (by omega)
        | some next =>
          rw [resume_sections_some iterated]
          exact further _ inner outer advanced (by omega) (by omega)

theorem resume_of_stuck {position stuck : Position}
    (path : ReflTransGen (Advances matcher currentFiles) position stuck)
    (forever : ∀ inner outer,
      resume matcher currentFiles inner outer stuck = .error .outOfFuel) (inner outer : Nat) :
    resume matcher currentFiles inner outer position = .error .outOfFuel := by
  induction path using ReflTransGen.head_induction_on generalizing inner outer with
  | refl => exact forever inner outer
  | head advanced _ ih =>
    rename_i position next _
    cases position with
    | files actions lines =>
      obtain _ | outer := outer
      · rfl
      rw [resume_files, show advance matcher currentFiles _ = _ from advanced]
      exact ih outer outer
    | sections update =>
      obtain _ | inner := inner
      · rfl
      obtain ⟨iterated, rfl⟩ | ⟨after, iterated, rfl⟩ := advance_sections advanced
      · rw [resume_sections_none iterated]
        exact ih inner outer
      · rw [resume_sections_some iterated]
        exact ih inner outer

end Running

section Bare

variable {normalize : Text → Text} {currentFiles : List (Text × Text)}

theorem sectionIteration_stuck {update : Update} (stuck : update.Stuck) :
    sectionIteration (textMatcher normalize) update = .ok (some update) := by
  obtain ⟨actions, path, moveTo, fileLines, target, searchIndex, chunks, lines⟩ := update
  obtain ⟨bare, rfl⟩ := stuck
  obtain ⟨others, rfl⟩ := List.head?_eq_some_iff.mp bare
  have unfinished : isDone [patchSuffix, updateFilePrefix, deleteFilePrefix, addFilePrefix,
      endOfFilePrefix] ("***".toList :: others) = false := by
    rw [isDone]
    decide
  have read : readEntire chunkDelimiter ("***".toList :: others) =
      .ok ([], "***".toList :: others) := by
    rw [readEntire]
    exact if_neg (by decide)
  have peeked : peekNextSection ("***".toList :: others) 0 =
      .ok ⟨[], [], "***".toList :: others, false, 0⟩ := by
    have stops : peekLines 0 Peek.start ("***".toList :: others) =
        .ok (Peek.start, "***".toList :: others) := by
      rw [peekLines, if_neg (by decide), if_pos rfl]
    rw [peekNextSection, stops]
    rfl
  have found : findSection (textMatcher normalize) path fileLines
      ⟨[], [], "***".toList :: others, false, 0⟩ 0 = some ⟨0, 0⟩ := by
    simp [findSection, textMatcher, findContext, withoutTitle, findContextCore]
  have merged : findMerged (textMatcher normalize) path fileLines ("***".toList :: others) 0 1 0 =
      .ok (⟨[], [], "***".toList :: others, false, 0⟩, ⟨0, 0⟩) := by
    simp only [findMerged, peeked, bind, Except.bind, found]
    rfl
  rw [sectionIteration, if_neg (ne_true_of_eq_false unfinished), read]
  have noHint : strip (([] : Text).drop chunkDelimiter.length) = [] := by decide
  simp only [bind, Except.bind, noHint, ne_eq, not_true_eq_false, and_false, if_false, peeked]
  rw [show (0 + 1 : Nat) = 1 from rfl, merged]
  simp [placeSection, pure, Except.pure]

theorem resume_stuck {update : Update} (stuck : update.Stuck) (inner outer : Nat) :
    resume (textMatcher normalize) currentFiles inner outer (.sections update) =
      .error .outOfFuel := by
  induction inner with
  | zero => rfl
  | succ inner ih => rw [resume_sections_some (sectionIteration_stuck stuck), ih]

theorem parse_terminates_iff (actions : Actions) (lines : List Text) :
    (∃ fuel, parse (textMatcher normalize) currentFiles fuel actions lines ≠
        .error .outOfFuel) ↔
      ∀ reached, ReflTransGen (Advances (textMatcher normalize) currentFiles)
        (.files actions lines) reached → ¬reached.Stuck := by
  constructor
  · rintro ⟨fuel, ended⟩ reached path stuck
    cases reached with
    | files _ _ => exact stuck
    | sections update => exact ended (resume_of_stuck path (resume_stuck stuck) fuel fuel)
  · intro free
    exact ⟨_, resume_ne free (Nat.lt_succ_self _) (Nat.lt_succ_self _)⟩

theorem parsePatch_ne_iff {matcher : Matcher} {text : Text} (starts : Starts text) (fuel : Nat) :
    parsePatch matcher fuel text currentFiles ≠ .error .outOfFuel ↔
      parse matcher currentFiles fuel [] (parsedLines text).tail ≠ .error .outOfFuel := by
  rw [parsePatch, if_neg (not_not.mpr starts.1), if_neg (Nat.not_lt.mpr starts.2.1),
    if_neg (not_not.mpr starts.2.2)]
  cases parse matcher currentFiles fuel [] (parsedLines text).tail with
  | error error =>
    simp only [bind, Except.bind, ne_eq, Except.error.injEq]
  | ok actions =>
    constructor
    · exact fun _ => nofun
    · exact fun _ => changes_ne currentFiles actions

theorem parsePatch_ne_of_not_starts {matcher : Matcher} {text : Text} (starts : ¬Starts text)
    (fuel : Nat) : parsePatch matcher fuel text currentFiles ≠ .error .outOfFuel := by
  rw [parsePatch]
  split
  · simp
  · rename_i first
    split
    · simp
    · rename_i enough
      split
      · simp
      · rename_i second
        exact absurd ⟨not_not.mp first, Nat.not_lt.mp enough, not_not.mp second⟩ starts

/-- Each iteration of the two loops that comes to its end has read a line. -/
def Progresses (matcher : Matcher) (currentFiles : List (Text × Text)) (text : Text) : Prop :=
  (∀ update next, Reached matcher currentFiles text (.sections update) →
    sectionIteration matcher update = .ok (some next) →
    next.lines.length < update.lines.length) ∧
  ∀ actions lines next, Reached matcher currentFiles text (.files actions lines) →
    TransGen (Advances matcher currentFiles) (.files actions lines) next →
    next.lines.length < lines.length

theorem advances_length {matcher : Matcher} {position next : Position}
    (advanced : Advances matcher currentFiles position next) :
    next.lines.length ≤ position.lines.length := by
  cases position with
  | files actions lines => exact (fileIteration_shortens advanced).le
  | sections update =>
    obtain ⟨-, rfl⟩ | ⟨after, iterated, rfl⟩ := advance_sections advanced
    · exact le_rfl
    · exact sectionIteration_length iterated

theorem path_length {matcher : Matcher} {position next : Position}
    (path : ReflTransGen (Advances matcher currentFiles) position next) :
    next.lines.length ≤ position.lines.length := by
  induction path with
  | refl => exact le_rfl
  | tail _ advanced ih => exact (advances_length advanced).trans ih

theorem progresses_iff (text : Text) :
    Progresses (textMatcher normalize) currentFiles text ↔
      ∀ update, Reached (textMatcher normalize) currentFiles text (.sections update) →
        ¬update.Stuck := by
  constructor
  · rintro ⟨sections, -⟩ update reached stuck
    exact absurd (sections update update reached (sectionIteration_stuck stuck)) (lt_irrefl _)
  · intro free
    constructor
    · intro update next reached iterated
      exact sectionIteration_shortens (free update reached) iterated
    · intro actions lines next _ path
      obtain ⟨first, advanced, rest⟩ := TransGen.head'_iff.mp path
      exact (path_length rest).trans_lt (fileIteration_shortens advanced)

theorem terminates_iff (text : Text) :
    Terminates (textMatcher normalize) currentFiles text ↔
      ∀ update, Reached (textMatcher normalize) currentFiles text (.sections update) →
        ¬update.Stuck := by
  by_cases starts : Starts text
  · have parsed : (∃ fuel, parse (textMatcher normalize) currentFiles fuel []
        (parsedLines text).tail ≠ .error .outOfFuel) ↔ _ :=
      parse_terminates_iff [] (parsedLines text).tail
    simp only [Terminates, parsePatch_ne_iff starts, parsed]
    constructor
    · exact fun free update reached => free _ reached.2
    · rintro free (_ | update) path
      · exact id
      · exact free update ⟨starts, path⟩
  · constructor
    · exact fun _ update reached => absurd reached.1 starts
    · exact fun _ => ⟨0, parsePatch_ne_of_not_starts starts 0⟩

/-- `parse_patch` comes to an end, and every iteration of its loops reads a line, exactly
when no section that it reaches begins at a bare `***` with the search index at zero. -/
theorem parsePatch_terminates_iff (normalize : Text → Text) (text : Text)
    (currentFiles : List (Text × Text)) :
    (Terminates (textMatcher normalize) currentFiles text ↔
      ∀ update, Reached (textMatcher normalize) currentFiles text (.sections update) →
        ¬update.Stuck) ∧
    (Progresses (textMatcher normalize) currentFiles text ↔
      ∀ update, Reached (textMatcher normalize) currentFiles text (.sections update) →
        ¬update.Stuck) :=
  ⟨terminates_iff text, progresses_iff text⟩

def bareText : Text := "*** Begin Patch\n*** Update File: a\n***\n*** End Patch".toList

theorem bareText_reaches : ∃ update,
    Reached (textMatcher id) [(['a'], ['x'])] bareText (.sections update) ∧ update.Stuck := by
  have starts : Starts bareText := by decide +kernel
  have advanced : ∃ update, advance (textMatcher id) [(['a'], ['x'])]
      (.files [] (parsedLines bareText).tail) = .ok (some (.sections update)) ∧
        update.lines.head? = some "***".toList ∧ update.searchIndex = 0 :=
    ⟨_, rfl, rfl, rfl⟩
  obtain ⟨update, step, stuck⟩ := advanced
  exact ⟨update, ⟨starts, .single step⟩, stuck⟩

/-- The bare line after the header of an update is read forever. -/
theorem parsePatch_forever :
    ¬Terminates (textMatcher id) [(['a'], ['x'])] bareText := by
  intro terminates
  obtain ⟨update, reached, stuck⟩ := bareText_reaches
  exact (terminates_iff bareText).mp terminates update reached stuck

end Bare

end GraphAgent.PatchParser
