import GraphAgent.PatchMatcher

/-!
# Patches whose context is found exactly

What `_parse_update_file` makes of the inserted lines of a section that stands in the
file character for character, and what a patch built from a diff makes of the file.
-/

namespace GraphAgent.PatchParser

open Terminal

theorem replaceExplicitTabs_of_plain {line : Text} (plain : ¬['\\', 't'] <:+: line) :
    replaceExplicitTabs line = line := by
  fun_induction replaceExplicitTabs line with
  | case1 rest => exact absurd (List.prefix_append ['\\', 't'] rest).isInfix plain
  | case2 char rest _ _ ih =>
    rw [ih fun found => plain (List.infix_cons found)]
  | case3 => rfl
  | case4 => rfl

theorem leadingUnits_append (unit : Text) (fuel : Nat) (line : Text) :
    (List.replicate (leadingUnits unit fuel line) unit).flatten ++
      line.drop (leadingUnits unit fuel line * unit.length) = line := by
  induction fuel generalizing line with
  | zero => simp [leadingUnits]
  | succ fuel ih =>
    rw [leadingUnits]
    split
    next starts =>
      obtain ⟨rest, rfl⟩ := List.isPrefixOf_iff_prefix.mp starts
      have tail := ih rest
      rw [List.drop_left, List.replicate_succ, List.flatten_cons, Nat.add_mul, Nat.one_mul,
        Nat.add_comm, ← List.drop_drop, List.drop_left, List.append_assoc, tail]
    next => simp

/-- When `extra` levels of the target before a line of `count` levels of the source are
the indentation that the line already has. -/
def KeepsIndent (source target : IndentStyle) (extra count : Nat) : Prop :=
  match source.insertSpaces, target.insertSpaces with
  | true, true => (extra + count) * target.tabSize = count * source.tabSize
  | false, false => extra = 0
  | _, _ => extra = 0 ∧ count = 0

theorem units_eq_iff {source target : IndentStyle} (positive : 0 < target.tabSize)
    (extra count : Nat) :
    (List.replicate (extra + count) (indentUnit target)).flatten =
        (List.replicate count (indentUnit source)).flatten ↔
      KeepsIndent source target extra count := by
  unfold KeepsIndent indentUnit
  cases source.insertSpaces with
  | true =>
    cases target.insertSpaces with
    | true =>
      simp only [if_true, List.flatten_replicate_replicate, List.replicate_left_inj]
    | false =>
      simp only [if_true, Bool.false_eq_true, if_false]
      constructor
      · intro same
        have lengths := congrArg (List.count '\t') same
        simp [List.flatten_replicate_replicate, List.count_replicate] at lengths
        omega
      · rintro ⟨rfl, rfl⟩
        rfl
  | false =>
    cases target.insertSpaces with
    | true =>
      simp only [if_true, Bool.false_eq_true, if_false]
      constructor
      · intro same
        have lengths := congrArg (List.count '\t') same
        simp [List.flatten_replicate_replicate, List.count_replicate] at lengths
        subst lengths
        have spaces := congrArg List.length same
        simp only [Nat.add_zero, List.flatten_replicate_replicate, List.length_replicate,
          List.replicate_zero, List.flatten_nil, List.length_nil, Nat.mul_eq_zero] at spaces
        omega
      · rintro ⟨rfl, rfl⟩
        rfl
    | false =>
      simp only [Bool.false_eq_true, if_false]
      constructor
      · intro same
        have lengths := congrArg List.length same
        simp at lengths
        omega
      · rintro rfl
        rw [Nat.zero_add]

theorem reindent_eq_iff {source target : IndentStyle} (positive : 0 < target.tabSize)
    (extra : Nat) (line : Text) :
    (List.replicate extra (indentUnit target)).flatten ++
        transformIndentation line source target = line ↔
      KeepsIndent source target extra (unitsOf source line) := by
  have split := leadingUnits_append (indentUnit source) line.length line
  rw [← units_eq_iff positive, List.replicate_add, List.flatten_append]
  unfold transformIndentation
  split
  next same =>
    subst same
    constructor
    · intro kept
      rw [List.append_left_eq_self.mp kept, List.nil_append]
    · intro kept
      rw [List.append_left_eq_self.mp kept, List.nil_append]
  next =>
    change _ ↔ _ = (List.replicate (unitsOf source line) (indentUnit source)).flatten
    conv_lhs => rhs; rw [← split]
    rw [← List.append_assoc]
    exact List.append_left_inj _

def sectionStyle (target : IndentStyle) (part : Section) : IndentStyle :=
  guessIndentation (part.chunks.flatMap Chunk.insLines ++ part.context) (some target)

/-- `max(0, matched_indent - source_level)` of a section at a place of the file. -/
def extraLevels (fileLines : List Text) (target : IndentStyle) (part : Section) (place : Nat) :
    Nat :=
  indentLevel (fileLines.getD place []) target.tabSize -
    indentLevel (part.context.headD []) (sectionStyle target part).tabSize

def placedLine (fileLines : List Text) (target : IndentStyle) (part : Section) (place : Nat)
    (line : Text) : Text :=
  if strip line = [] then line
  else
    (List.replicate (extraLevels fileLines target part place) (indentUnit target)).flatten ++
      transformIndentation line (sectionStyle target part) target

def KeepsLine (fileLines : List Text) (target : IndentStyle) (part : Section) (place : Nat)
    (line : Text) : Prop :=
  strip line = [] ∨
    KeepsIndent (sectionStyle target part) target (extraLevels fileLines target part place)
      (unitsOf (sectionStyle target part) line)

theorem placedLine_eq_iff {fileLines : List Text} {target : IndentStyle} {part : Section}
    {place : Nat} (positive : 0 < target.tabSize) (line : Text) :
    placedLine fileLines target part place line = line ↔
      KeepsLine fileLines target part place line := by
  unfold placedLine KeepsLine
  split
  next blank => exact iff_of_true rfl (.inl blank)
  next visible =>
    rw [reindent_eq_iff positive]
    exact (or_iff_right visible).symm

def Chunk.placed (write : Text → Text) (place : Nat) (chunk : Chunk) : Chunk :=
  ⟨chunk.origIndex + place, chunk.delLines, chunk.insLines.map write⟩

theorem placeSection_exact (normalize : Text → Text) (path : Text) (fileLines : List Text)
    (target : IndentStyle) (part : Section) (place : Nat)
    (plain : ∀ chunk ∈ part.chunks, ∀ line ∈ chunk.insLines, ¬['\\', 't'] <:+: line) :
    placeSection (textMatcher normalize) path fileLines target part ⟨place, 0⟩ =
      part.chunks.map (Chunk.placed (placedLine fileLines target part place) place) := by
  unfold placeSection
  refine List.map_congr_left fun chunk member => ?_
  have unescaped : chunk.insLines.map replaceExplicitTabs = chunk.insLines := by
    conv_rhs => rw [← List.map_id chunk.insLines]
    exact List.map_congr_left fun line found =>
      replaceExplicitTabs_of_plain (plain chunk member line found)
  simp only [placeChunk, Chunk.placed, textMatcher, Nat.zero_and, ne_eq, not_true_eq_false,
    if_false, unescaped, ite_self]
  rfl

/-- The lines of a section, as a diff has them. -/
abbrev Hunk := List (Mode × Text)

def Mode.sign : Mode → Char
  | .add => '+'
  | .delete => '-'
  | .keep => ' '

def renderHunk (hunk : Hunk) : List Text :=
  hunk.map fun entry => entry.1.sign :: entry.2

def oldSide (hunk : Hunk) : List Text :=
  (hunk.filter fun entry => entry.1 ≠ .add).map Prod.snd

/-- The lines of the new file, with the inserted ones rewritten. -/
def newSide (write : Text → Text) (hunk : Hunk) : List Text :=
  (hunk.filter fun entry => entry.1 ≠ .delete).map fun entry =>
    if entry.1 = .add then write entry.2 else entry.2

def addedLines (hunk : Hunk) : List Text :=
  (hunk.filter fun entry => entry.1 = .add).map Prod.snd

/-- `Peek.step` of a line that carries its sign. -/
def Peek.record (peek : Peek) (entry : Mode × Text) : Peek :=
  let closed : Peek :=
    if entry.1 = .keep ∧ peek.mode ≠ .keep then
      { peek with chunks := peek.closeChunk, deleted := [], inserted := [] }
    else peek
  match entry.1 with
  | .delete =>
    { closed with
      deleted := closed.deleted ++ [entry.2]
      old := closed.old ++ [entry.2]
      mode := .delete }
  | .add => { closed with inserted := closed.inserted ++ [entry.2], mode := .add }
  | .keep => { closed with old := closed.old ++ [entry.2], mode := .keep }

theorem step_signed (peek : Peek) (fuzzMerge : Nat) (entry : Mode × Text) (nextLine : Text) :
    peek.step fuzzMerge (entry.1.sign :: entry.2) nextLine = peek.record entry := by
  obtain ⟨mode, line⟩ := entry
  cases mode with
  | add => simp [Peek.step, Peek.read, Peek.record, Mode.sign, startsWith]
  | delete => simp [Peek.step, Peek.read, Peek.record, Mode.sign, startsWith]
  | keep =>
    by_cases kept : peek.mode = .keep <;>
      simp [Peek.step, Peek.read, Peek.record, Mode.sign, startsWith, kept]

/-- What the loop leaves at the end of a section: a blank last line of context goes. -/
def Peek.trimmed (peek : Peek) : Peek :=
  { peek with
    old :=
      if peek.mode = .keep ∧ peek.old ≠ [] ∧ strip (peek.old.getLastD []) = [] then
        peek.old.dropLast
      else peek.old }

theorem signed_not_sectionPrefix (entry : Mode × Text) :
    (sectionPrefixes.any fun start => startsWith (strip start) (entry.1.sign :: entry.2)) =
      false := by
  have heads : (sectionPrefixes.all fun start =>
      decide ((strip start).head? = some '@' ∨ (strip start).head? = some '*')) = true := by
    decide +kernel
  rw [List.any_eq_false]
  intro start member
  have head := of_decide_eq_true (List.all_eq_true.mp heads start member)
  have sign : entry.1.sign ≠ '@' ∧ entry.1.sign ≠ '*' := by
    cases entry.1 <;> decide
  cases stripped : strip start with
  | nil => simp [stripped] at head
  | cons first rest =>
    rw [stripped] at head
    rcases head with head | head
    · cases head
      simp [startsWith, List.isPrefixOf, sign.1.symm]
    · cases head
      simp [startsWith, List.isPrefixOf, sign.2.symm]

theorem peekLines_render (fuzzMerge : Nat) (hunk : Hunk) (peek : Peek) {current : Text}
    (rest : List Text)
    (ends : (sectionPrefixes.any fun start => startsWith (strip start) current) = true) :
    peekLines fuzzMerge peek (renderHunk hunk ++ current :: rest) =
      .ok ((hunk.foldl Peek.record peek).trimmed, current :: rest) := by
  induction hunk generalizing peek with
  | nil =>
    rw [renderHunk, List.map_nil, List.nil_append, peekLines, if_pos ends]
    rfl
  | cons entry hunk ih =>
    have marked : ∀ text, entry.1.sign :: entry.2 ≠ '*' :: text := by
      intro text
      cases entry.1 <;> simp [Mode.sign]
    have notEnd : entry.1.sign :: entry.2 ≠ "***".toList := marked _
    have notMark : startsWith "***".toList (entry.1.sign :: entry.2) = false := by
      cases entry.1 <;> simp [Mode.sign, startsWith, List.isPrefixOf]
    rw [renderHunk, List.map_cons, List.cons_append, peekLines,
      if_neg (by rw [signed_not_sectionPrefix]; exact Bool.false_ne_true), if_neg notEnd,
      if_neg (by rw [notMark]; exact Bool.false_ne_true), step_signed]
    exact ih (peek.record entry)

def reached (lines : List Text) (place sourceIndex : Nat) (destination : List Text) : List Text :=
  destination ++ (lines.take place).drop sourceIndex

structure Peek.Reads (write : Text → Text) (hunk : Hunk) (peek : Peek) : Prop where
  old : peek.old = oldSide hunk
  deleted : peek.deleted.length ≤ peek.old.length
  unmerged : peek.fuzzMergeNumber = 0
  settled : peek.mode = .keep → peek.deleted = [] ∧ peek.inserted = []
  added : peek.chunks.flatMap Chunk.insLines ++ peek.inserted = addedLines hunk
  replays : ∀ (path : Text) (before destination : List Text) (sourceIndex : Nat),
    sourceIndex ≤ before.length → ∃ index written,
      index ≤ before.length + (peek.old.length - peek.deleted.length) ∧
      (∀ after more,
        updateLines path (before ++ peek.old ++ after)
            (peek.chunks.map (Chunk.placed write before.length) ++ more) sourceIndex destination =
          updateLines path (before ++ peek.old ++ after) more index written) ∧
      reached (before ++ peek.old) (before.length + (peek.old.length - peek.deleted.length)) index
          written ++ peek.inserted.map write =
        reached before before.length sourceIndex destination ++ newSide write hunk

theorem reads_start (write : Text → Text) : Peek.Reads write [] Peek.start where
  old := rfl
  deleted := Nat.le_refl 0
  unmerged := rfl
  settled _ := ⟨rfl, rfl⟩
  added := rfl
  replays path before destination sourceIndex bound := by
    refine ⟨sourceIndex, destination, ?_, ?_, ?_⟩
    · exact Nat.le_add_right_of_le bound
    · intro after more
      rfl
    · simp [Peek.start, newSide]

theorem Peek.Reads.close {write : Text → Text} {hunk : Hunk} {peek : Peek}
    (reads : peek.Reads write hunk) :
    Peek.Reads write hunk { peek with chunks := peek.closeChunk, deleted := [], inserted := [] }
    where
  old := reads.old
  deleted := Nat.zero_le _
  unmerged := reads.unmerged
  settled _ := ⟨rfl, rfl⟩
  added := by
    rw [← reads.added]
    unfold closeChunk
    split
    · simp
    next empty =>
      push Not at empty
      simp [empty.1]
  replays path before destination sourceIndex bound := by
    obtain ⟨index, written, near, replay, lines⟩ :=
      reads.replays path before destination sourceIndex bound
    unfold closeChunk
    split
    · have shorter := reads.deleted
      refine ⟨before.length + peek.old.length, reached (before ++ peek.old)
        (before.length + (peek.old.length - peek.deleted.length)) index written ++
          peek.inserted.map write, ?_, ?_, ?_⟩
      · exact Nat.le_refl _
      · intro after more
        have within : ¬((before ++ peek.old ++ after).length <
            peek.old.length - peek.deleted.length + before.length ∨
              peek.old.length - peek.deleted.length + before.length < index) := by
          simp only [List.length_append]
          omega
        have start : (before ++ peek.old ++ after).take
            (peek.old.length - peek.deleted.length + before.length) =
              (before ++ peek.old).take
                (before.length + (peek.old.length - peek.deleted.length)) := by
          rw [Nat.add_comm, List.take_append_of_le_length]
          rw [List.length_append]
          omega
        have next : peek.old.length - peek.deleted.length + before.length + peek.deleted.length =
            before.length + peek.old.length := by
          omega
        dsimp only
        rw [List.map_append, List.append_assoc (List.map _ _), replay]
        simp only [List.map_cons, List.map_nil, List.cons_append, List.nil_append, Chunk.placed]
        rw [updateLines, if_neg within]
        simp only [start, next, reached]
      · rw [lines]
        simp [reached]
    next empty =>
      push Not at empty
      rw [empty.1, empty.2] at lines
      rw [empty.2] at near
      exact ⟨index, written, near, replay, lines⟩

theorem Peek.Reads.keep {write : Text → Text} {hunk : Hunk} {peek : Peek}
    (reads : peek.Reads write hunk) (noDeleted : peek.deleted = []) (noInserted : peek.inserted = [])
    (line : Text) :
    Peek.Reads write (hunk ++ [(.keep, line)]) { peek with old := peek.old ++ [line], mode := .keep }
    where
  old := by simp [oldSide, reads.old]
  deleted := by simp [noDeleted]
  unmerged := reads.unmerged
  settled _ := ⟨noDeleted, noInserted⟩
  added := by simpa [addedLines] using reads.added
  replays path before destination sourceIndex bound := by
    obtain ⟨index, written, near, replay, lines⟩ :=
      reads.replays path before destination sourceIndex bound
    rw [noDeleted, List.length_nil, Nat.sub_zero] at near lines
    refine ⟨index, written, ?_, ?_, ?_⟩
    · simp only [noDeleted, List.length_append, List.length_nil, List.length_singleton]
      omega
    · intro after more
      simpa using replay (line :: after) more
    · have old : (before ++ peek.old).drop index ++ [line] =
          (before ++ (peek.old ++ [line])).drop index := by
        have within : index ≤ (before ++ peek.old).length := by
          simpa using near
        rw [← List.drop_append_of_le_length within, List.append_assoc]
      have added : newSide write (hunk ++ [(.keep, line)]) = newSide write hunk ++ [line] := by
        simp [newSide]
      rw [noInserted, List.map_nil, List.append_nil, reached,
        List.take_of_length_le (by simp)] at lines
      simp only [noDeleted, noInserted, List.length_nil, Nat.sub_zero, List.map_nil,
        List.append_nil, added]
      rw [reached, List.take_of_length_le (by simp), ← old, ← List.append_assoc, lines,
        List.append_assoc]

theorem Peek.Reads.delete {write : Text → Text} {hunk : Hunk} {peek : Peek}
    (reads : peek.Reads write hunk) (line : Text) :
    Peek.Reads write (hunk ++ [(.delete, line)])
      { peek with deleted := peek.deleted ++ [line], old := peek.old ++ [line], mode := .delete }
    where
  old := by simp [oldSide, reads.old]
  deleted := by simpa using reads.deleted
  unmerged := reads.unmerged
  settled kept := by cases kept
  added := by simpa [addedLines] using reads.added
  replays path before destination sourceIndex bound := by
    obtain ⟨index, written, near, replay, lines⟩ :=
      reads.replays path before destination sourceIndex bound
    have place : (peek.old ++ [line]).length - (peek.deleted ++ [line]).length =
        peek.old.length - peek.deleted.length := by
      simp
    have start : (before ++ (peek.old ++ [line])).take
        (before.length + (peek.old.length - peek.deleted.length)) =
          (before ++ peek.old).take
            (before.length + (peek.old.length - peek.deleted.length)) := by
      rw [← List.append_assoc, List.take_append_of_le_length]
      rw [List.length_append]
      omega
    refine ⟨index, written, ?_, ?_, ?_⟩
    · rwa [place]
    · intro after more
      simpa using replay (line :: after) more
    · rw [place, reached, start]
      simpa [newSide, reached] using lines

theorem Peek.Reads.insert {write : Text → Text} {hunk : Hunk} {peek : Peek}
    (reads : peek.Reads write hunk) (line : Text) :
    Peek.Reads write (hunk ++ [(.add, line)])
      { peek with inserted := peek.inserted ++ [line], mode := .add } where
  old := by simp [oldSide, reads.old]
  deleted := reads.deleted
  unmerged := reads.unmerged
  settled kept := by cases kept
  added := by
    have added : addedLines (hunk ++ [(.add, line)]) = addedLines hunk ++ [line] := by
      simp [addedLines]
    rw [added, ← reads.added, List.append_assoc]
  replays path before destination sourceIndex bound := by
    obtain ⟨index, written, near, replay, lines⟩ :=
      reads.replays path before destination sourceIndex bound
    refine ⟨index, written, near, replay, ?_⟩
    have added : newSide write (hunk ++ [(.add, line)]) = newSide write hunk ++ [write line] := by
      simp [newSide]
    rw [added, ← List.append_assoc, ← lines]
    simp

theorem Peek.Reads.record {write : Text → Text} {hunk : Hunk} {peek : Peek}
    (reads : peek.Reads write hunk) (entry : Mode × Text) :
    (peek.record entry).Reads write (hunk ++ [entry]) := by
  obtain ⟨mode, line⟩ := entry
  cases mode with
  | add => simpa [Peek.record] using reads.insert line
  | delete => simpa [Peek.record] using reads.delete line
  | keep =>
    by_cases kept : peek.mode = .keep
    · obtain ⟨noDeleted, noInserted⟩ := reads.settled kept
      simpa [Peek.record, kept] using reads.keep noDeleted noInserted line
    · simpa [Peek.record, kept] using reads.close.keep rfl rfl line

theorem Peek.Reads.foldl {write : Text → Text} {read : Hunk} {peek : Peek}
    (reads : peek.Reads write read) (hunk : Hunk) :
    (hunk.foldl Peek.record peek).Reads write (read ++ hunk) := by
  induction hunk generalizing read peek with
  | nil => simpa using reads
  | cons entry hunk ih => simpa using ih (reads.record entry)

theorem reads_foldl (write : Text → Text) (hunk : Hunk) :
    (hunk.foldl Peek.record Peek.start).Reads write hunk :=
  (reads_start write).foldl hunk

def hunkPart (hunk : Hunk) (rest : List Text) : Section :=
  let peek := (hunk.foldl Peek.record Peek.start).trimmed
  ⟨peek.old, peek.closeChunk, rest, false, 0⟩

theorem closeChunk_trimmed {write : Text → Text} {hunk : Hunk} {peek : Peek}
    (reads : peek.Reads write hunk) : peek.trimmed.closeChunk = peek.closeChunk := by
  by_cases kept : peek.mode = .keep
  · obtain ⟨noDeleted, noInserted⟩ := reads.settled kept
    simp [Peek.closeChunk, Peek.trimmed, noDeleted, noInserted]
  · have same : peek.trimmed = peek := by
      simp [Peek.trimmed, kept]
    rw [same]

theorem peekNextSection_render (fuzzMerge : Nat) (hunk : Hunk) {current : Text}
    (rest : List Text)
    (ends : (sectionPrefixes.any fun start => startsWith (strip start) current) = true)
    (notEof : current ≠ endOfFilePrefix) :
    peekNextSection (renderHunk hunk ++ current :: rest) fuzzMerge =
      .ok (hunkPart hunk (current :: rest)) := by
  have unmerged := (reads_foldl id hunk).unmerged
  rw [peekNextSection, peekLines_render fuzzMerge hunk Peek.start rest ends]
  simp [hunkPart, notEof, Bind.bind, Except.bind, Pure.pure, Except.pure, Peek.trimmed, unmerged]

theorem updateLines_hunk (write : Text → Text) (hunk : Hunk) (rest : List Text) (path : Text)
    (before destination : List Text) (sourceIndex : Nat) (bound : sourceIndex ≤ before.length) :
    ∃ index written, index ≤ (before ++ oldSide hunk).length ∧
      (∀ after more,
        updateLines path (before ++ oldSide hunk ++ after)
            ((hunkPart hunk rest).chunks.map (Chunk.placed write before.length) ++ more)
            sourceIndex destination =
          updateLines path (before ++ oldSide hunk ++ after) more index written) ∧
      written ++ (before ++ oldSide hunk).drop index =
        destination ++ before.drop sourceIndex ++ newSide write hunk := by
  have reads := reads_foldl write hunk
  obtain ⟨index, written, near, replay, lines⟩ :=
    reads.close.replays path before destination sourceIndex bound
  have chunks : (hunkPart hunk rest).chunks = (hunk.foldl Peek.record Peek.start).closeChunk :=
    closeChunk_trimmed reads
  rw [chunks, ← reads.old]
  simp only [List.length_nil, Nat.sub_zero, reached, List.map_nil, List.append_nil] at near lines
  rw [List.take_of_length_le (by simp), List.take_length] at lines
  exact ⟨index, written, by simpa using near, replay, lines⟩

end GraphAgent.PatchParser
