import GraphAgent.PatchVerbatim

/-!
# Patches built from diffs

`_parse_update_file` and `_get_updated_file` on the patch that a diff of a file gives,
when the context of each hunk is found exactly where the diff has it.
-/

namespace GraphAgent.PatchParser

open Terminal

abbrev Diff := List (List Text × Hunk)

def oldFile : Diff → List Text → List Text
  | [], tail => tail
  | (gap, hunk) :: diff, tail => gap ++ oldSide hunk ++ oldFile diff tail

/-- The lines of the new file; `write` is what becomes of the inserted lines of a hunk
at a place of the old file. -/
def newFile (write : Hunk → Nat → Text → Text) : Nat → Diff → List Text → List Text
  | _, [], tail => tail
  | position, (gap, hunk) :: diff, tail =>
    gap ++ newSide (write hunk (position + gap.length)) hunk ++
      newFile write (position + gap.length + (oldSide hunk).length) diff tail

/-- The lines of the patch after the name of the file. -/
def patchBody : Diff → List Text
  | [] => [patchSuffix]
  | (_, hunk) :: diff => chunkDelimiter :: (renderHunk hunk ++ patchBody diff)

def chunksOf (write : Hunk → Nat → Text → Text) : Nat → Diff → List Chunk
  | _, [] => []
  | position, (gap, hunk) :: diff =>
    (hunkPart hunk []).chunks.map
        (Chunk.placed (write hunk (position + gap.length)) (position + gap.length)) ++
      chunksOf write (position + gap.length + (oldSide hunk).length) diff

theorem updateLines_diff (write : Hunk → Nat → Text → Text) (path : Text) (diff : Diff)
    (tail before destination : List Text) (sourceIndex : Nat)
    (bound : sourceIndex ≤ before.length) :
    updateLines path (before ++ oldFile diff tail) (chunksOf write before.length diff) sourceIndex
        destination =
      .ok (destination ++ before.drop sourceIndex ++ newFile write before.length diff tail) := by
  induction diff generalizing before destination sourceIndex with
  | nil =>
    rw [oldFile, chunksOf, newFile, updateLines, List.drop_append_of_le_length bound,
      List.append_assoc]
  | cons entry diff ih =>
    obtain ⟨gap, hunk⟩ := entry
    have nearer : sourceIndex ≤ (before ++ gap).length := by
      rw [List.length_append]
      omega
    obtain ⟨index, written, near, replay, lines⟩ :=
      updateLines_hunk (write hunk (before ++ gap).length) hunk [] path (before ++ gap) destination
        sourceIndex nearer
    have later := ih (before ++ gap ++ oldSide hunk) written index near
    have applied := replay (oldFile diff tail)
      (chunksOf write (before ++ gap ++ oldSide hunk).length diff)
    rw [later, lines, List.drop_append_of_le_length bound] at applied
    simpa [oldFile, chunksOf, newFile, Nat.add_assoc] using applied

def FoundInPlace (normalize : Text → Text) (path : Text) (fileLines : List Text) :
    Nat → Nat → Diff → Prop
  | _, _, [] => True
  | position, searchIndex, (gap, hunk) :: diff =>
    findSection (textMatcher normalize) path fileLines (hunkPart hunk []) searchIndex =
        some ⟨position + gap.length, 0⟩ ∧
      FoundInPlace normalize path fileLines (position + gap.length + (oldSide hunk).length)
        (position + gap.length + (hunkPart hunk []).context.length) diff

def PlainInsertions (diff : Diff) : Prop :=
  ∀ entry ∈ diff, ∀ line ∈ addedLines entry.2, ¬['\\', 't'] <:+: line

theorem patchBody_ends (diff : Diff) : ∃ current rest, patchBody diff = current :: rest ∧
    (sectionPrefixes.any fun start => startsWith (strip start) current) = true ∧
      current ≠ endOfFilePrefix := by
  cases diff with
  | nil => exact ⟨patchSuffix, [], rfl, by decide +kernel, by decide +kernel⟩
  | cons entry diff => exact ⟨chunkDelimiter, _, rfl, by decide +kernel, by decide +kernel⟩

theorem hunkPart_added (hunk : Hunk) (rest : List Text) :
    (hunkPart hunk rest).chunks.flatMap Chunk.insLines = addedLines hunk := by
  have reads := reads_foldl id hunk
  have chunks : (hunkPart hunk rest).chunks = (hunk.foldl Peek.record Peek.start).closeChunk :=
    closeChunk_trimmed reads
  rw [chunks]
  simpa using reads.close.added

theorem parseUpdateFile_diff (normalize : Text → Text) (path : Text) (fileLines : List Text)
    (target : IndentStyle) {diff : Diff} (plain : PlainInsertions diff) {position searchIndex : Nat}
    (found : FoundInPlace normalize path fileLines position searchIndex diff) {fuel : Nat}
    (enough : diff.length < fuel) (chunks : List Chunk) :
    parseUpdateFile (textMatcher normalize) path fileLines target fuel searchIndex chunks
        (patchBody diff) =
      .ok (chunks ++ chunksOf (fun hunk place => placedLine fileLines target (hunkPart hunk []) place)
        position diff, [patchSuffix]) := by
  induction diff generalizing position searchIndex fuel chunks with
  | nil =>
    cases fuel with
    | zero => cases enough
    | succ fuel =>
      have done : isDone [patchSuffix, updateFilePrefix, deleteFilePrefix, addFilePrefix,
          endOfFilePrefix] [patchSuffix] = true := by
        decide +kernel
      rw [patchBody, parseUpdateFile, if_pos done, chunksOf, List.append_nil]
  | cons entry diff ih =>
    obtain ⟨gap, hunk⟩ := entry
    obtain ⟨here, later⟩ := found
    cases fuel with
    | zero => cases enough
    | succ fuel =>
      obtain ⟨current, rest, body, ends, notEof⟩ := patchBody_ends diff
      have peeked : peekNextSection (renderHunk hunk ++ patchBody diff) 0 =
          .ok (hunkPart hunk (patchBody diff)) := by
        rw [body]
        exact peekNextSection_render 0 hunk rest ends notEof
      have merged : findMerged (textMatcher normalize) path fileLines
          (renderHunk hunk ++ patchBody diff) searchIndex 1 0 =
            .ok (hunkPart hunk (patchBody diff), ⟨position + gap.length, 0⟩) := by
        have there : findSection (textMatcher normalize) path fileLines
            (hunkPart hunk (patchBody diff)) searchIndex = some ⟨position + gap.length, 0⟩ := here
        simp [findMerged, peeked, there, Bind.bind, Except.bind, Pure.pure, Except.pure]
      have placed := placeSection_exact normalize path fileLines target
        (hunkPart hunk (patchBody diff)) (position + gap.length) fun chunk member line inserted =>
          plain (gap, hunk) List.mem_cons_self line (by
            rw [← hunkPart_added hunk (patchBody diff)]
            exact List.mem_flatMap.mpr ⟨chunk, member, inserted⟩)
      have rest := ih (fun entry member => plain entry (List.mem_cons_of_mem _ member)) later
        (Nat.lt_of_succ_lt_succ enough)
        (chunks ++ placeSection (textMatcher normalize) path fileLines target
          (hunkPart hunk (patchBody diff)) ⟨position + gap.length, 0⟩)
      have started : isDone [patchSuffix, updateFilePrefix, deleteFilePrefix, addFilePrefix,
          endOfFilePrefix] (chunkDelimiter :: (renderHunk hunk ++ patchBody diff)) = false :=
        (by decide +kernel : ([patchSuffix, updateFilePrefix, deleteFilePrefix, addFilePrefix,
          endOfFilePrefix].any fun start => startsWith (strip start) chunkDelimiter) = false)
      have read : readEntire chunkDelimiter (chunkDelimiter ::
          (renderHunk hunk ++ patchBody diff)) =
            .ok (chunkDelimiter, renderHunk hunk ++ patchBody diff) := by
        rw [readEntire, if_pos (by decide +kernel)]
      have unhinted : strip (chunkDelimiter.drop chunkDelimiter.length) = [] := by
        decide +kernel
      have delimiter : ¬(chunkDelimiter = [] ∧ searchIndex ≠ 0) := fun both =>
        absurd both.1 (by decide +kernel)
      rw [patchBody, parseUpdateFile, if_neg (by rw [started]; exact Bool.false_ne_true), read]
      simp only [Bind.bind, Except.bind, unhinted, ne_eq, not_true_eq_false, if_false,
        delimiter, peeked]
      have merges : (hunkPart hunk (patchBody diff)).fuzzMerges + 1 = 1 := rfl
      rw [merges, merged]
      refine rest.trans ?_
      rw [placed, chunksOf, List.append_assoc]
      rfl

def KeepsInsertions (fileLines : List Text) (target : IndentStyle) : Nat → Diff → Prop
  | _, [] => True
  | position, (gap, hunk) :: diff =>
    (∀ line ∈ addedLines hunk,
      KeepsLine fileLines target (hunkPart hunk []) (position + gap.length) line) ∧
      KeepsInsertions fileLines target (position + gap.length + (oldSide hunk).length) diff

theorem length_newSide (write : Text → Text) (hunk : Hunk) :
    (newSide write hunk).length = (newSide id hunk).length := by
  simp [newSide]

theorem newSide_eq_iff (write : Text → Text) (hunk : Hunk) :
    newSide write hunk = newSide id hunk ↔ ∀ line ∈ addedLines hunk, write line = line := by
  unfold newSide addedLines
  rw [List.map_inj_left]
  constructor
  · intro same line member
    obtain ⟨entry, found, rfl⟩ := List.mem_map.mp member
    obtain ⟨inside, added⟩ := List.mem_filter.mp found
    have adds : entry.1 = .add := by simpa using added
    have kept := same entry (List.mem_filter.mpr ⟨inside, by simp [adds]⟩)
    rwa [if_pos adds, if_pos adds] at kept
  · intro kept entry found
    obtain ⟨inside, _⟩ := List.mem_filter.mp found
    split
    next adds =>
      exact kept entry.2 (List.mem_map.mpr ⟨entry, List.mem_filter.mpr ⟨inside, by simp [adds]⟩, rfl⟩)
    next => rfl

theorem newFile_eq_iff (fileLines : List Text) {target : IndentStyle}
    (positive : 0 < target.tabSize) (position : Nat) (diff : Diff) (tail : List Text) :
    newFile (fun hunk place => placedLine fileLines target (hunkPart hunk []) place) position diff
        tail = newFile (fun _ _ => id) position diff tail ↔
      KeepsInsertions fileLines target position diff := by
  induction diff generalizing position with
  | nil => exact iff_of_true rfl trivial
  | cons entry diff ih =>
    obtain ⟨gap, hunk⟩ := entry
    simp only [newFile, KeepsInsertions, List.append_assoc, List.append_right_inj]
    rw [← ih, ← forall₂_congr fun line _ => placedLine_eq_iff positive line, ← newSide_eq_iff]
    constructor
    · exact fun same => List.append_inj same (length_newSide _ hunk)
    · rintro ⟨first, later⟩
      rw [first, later]

theorem keepsLine_of_same_style {fileLines : List Text} {target : IndentStyle} {part : Section}
    {place : Nat} (nonempty : part.context ≠ [])
    (exact_ : (fileLines.drop place).take part.context.length = part.context)
    (same : sectionStyle target part = target) (line : Text) :
    KeepsLine fileLines target part place line := by
  have first : fileLines.getD place [] = part.context.headD [] := by
    cases context : part.context with
    | nil => exact absurd context nonempty
    | cons first rest =>
      rw [context] at exact_
      have head := congrArg List.head? exact_
      simp [List.head?_take] at head
      simp [head]
  have level : extraLevels fileLines target part place = 0 := by
    rw [extraLevels, first, same, Nat.sub_self]
  refine .inr ?_
  rw [level, same]
  unfold KeepsIndent
  cases target.insertSpaces with
  | true => exact congrArg (· * target.tabSize) (Nat.zero_add _)
  | false => rfl

/-- A patch built from a diff of the file, each hunk found exactly where the diff has it:
the new content has the inserted lines in the style of the file, and it is the new side of
the diff if and only if every inserted line keeps its indentation.  The inserted lines of
any one section stay under the same condition; they do when its style is the file's. -/
theorem exact_patch_verbatim_iff (normalize : Text → Text) (path text : Text) (diff : Diff)
    (tail : List Text) (lines : text.splitOn '\n' = oldFile diff tail)
    (plain : PlainInsertions diff)
    (found : FoundInPlace normalize path (text.splitOn '\n') 0 0 diff) (fuel : Nat)
    (enough : diff.length < fuel) :
    let fileLines := text.splitOn '\n'
    let target := guessIndentation fileLines none
    let placed (hunk : Hunk) (place : Nat) := placedLine fileLines target (hunkPart hunk []) place
    (∃ chunks,
      parseUpdateFile (textMatcher normalize) path fileLines target fuel 0 [] (patchBody diff) =
          .ok (chunks, [patchSuffix]) ∧
        ∀ movePath, getUpdatedFile text ⟨.update, chunks, none, movePath⟩ path =
          .ok (joinLines (newFile placed 0 diff tail))) ∧
      (newFile placed 0 diff tail = newFile (fun _ _ => id) 0 diff tail ↔
        KeepsInsertions fileLines target 0 diff) ∧
      ∀ (part : Section) (place : Nat),
        (∀ chunk ∈ part.chunks, ∀ line ∈ chunk.insLines, ¬['\\', 't'] <:+: line) →
          ((placeSection (textMatcher normalize) path fileLines target part ⟨place, 0⟩).map
                Chunk.insLines = part.chunks.map Chunk.insLines ↔
              ∀ chunk ∈ part.chunks, ∀ line ∈ chunk.insLines,
                KeepsLine fileLines target part place line) ∧
            (part.context ≠ [] →
              (fileLines.drop place).take part.context.length = part.context →
              sectionStyle target part = target →
              ∀ line, KeepsLine fileLines target part place line) := by
  intro fileLines target placed
  have positive : 0 < target.tabSize :=
    guessIndentation_pos fileLines fun style member => by cases member
  refine ⟨?_, newFile_eq_iff fileLines positive 0 diff tail, ?_⟩
  · refine ⟨_, parseUpdateFile_diff normalize path fileLines target plain found enough [], ?_⟩
    intro movePath
    have updated := updateLines_diff placed path diff tail [] [] 0 (Nat.zero_le _)
    rw [List.nil_append, ← lines] at updated
    rw [getUpdatedFile, List.nil_append]
    exact congrArg (joinLines <$> ·) updated
  · intro part place unescaped
    refine ⟨?_, keepsLine_of_same_style⟩
    rw [placeSection_exact normalize path fileLines target part place unescaped, List.map_map,
      List.map_inj_left]
    refine forall₂_congr fun chunk _ => ?_
    rw [← forall₂_congr fun line _ => placedLine_eq_iff positive line]
    conv_lhs => rhs; rw [← List.map_id chunk.insLines]
    exact List.map_inj_left

def sampleLines : List Text :=
  ["a:", "    b", "c:", "    d", "e:", "    f", "x:", "  y"].map String.toList

/-- A line after the last two of the file, in their indentation of two blanks. -/
def narrowHunk : Hunk :=
  [(.keep, "x:".toList), (.keep, "  y".toList), (.add, "  z".toList)]

/-- A line after the second of the file, in its indentation of four blanks. -/
def wideHunk : Hunk :=
  [(.keep, "a:".toList), (.keep, "    b".toList), (.add, "    z".toList)]

/-- The context is found exactly, and the inserted line gets two more blanks. -/
theorem exact_patch_reindented :
    ¬ ∀ (normalize : Text → Text) (path text : Text) (diff : Diff) (tail : List Text),
      text.splitOn '\n' = oldFile diff tail → PlainInsertions diff →
      FoundInPlace normalize path (text.splitOn '\n') 0 0 diff →
      ∀ (fuel : Nat) (chunks : List Chunk) (rest : List Text),
        parseUpdateFile (textMatcher normalize) path (text.splitOn '\n')
            (guessIndentation (text.splitOn '\n') none) fuel 0 [] (patchBody diff) =
          .ok (chunks, rest) →
        updateLines path (text.splitOn '\n') chunks 0 [] =
          .ok (newFile (fun _ _ => id) 0 diff tail) := by
  intro verbatim
  have lines : (joinLines sampleLines).splitOn '\n' = sampleLines := by decide +kernel
  have parsed := verbatim id "f".toList (joinLines sampleLines) [(sampleLines.take 6, narrowHunk)] []
    (by decide +kernel)
    (by
      intro entry member line added
      cases List.mem_singleton.mp member
      cases List.mem_singleton.mp (by simpa [addedLines, narrowHunk] using added)
      decide +kernel)
    ⟨by decide +kernel, trivial⟩ 2
    [⟨8, [], ["    z".toList]⟩] [patchSuffix] (by decide +kernel)
  revert parsed
  decide +kernel

/-- The patch in the file's own style. -/
theorem exact_patch_verbatim_iff_wide : ∃ chunks,
    parseUpdateFile (textMatcher id) "f".toList ((joinLines sampleLines).splitOn '\n')
        (guessIndentation ((joinLines sampleLines).splitOn '\n') none) 2 0 []
        (patchBody [([], wideHunk)]) = .ok (chunks, [patchSuffix]) ∧
      ∀ movePath, getUpdatedFile (joinLines sampleLines) ⟨.update, chunks, none, movePath⟩
        "f".toList =
          .ok (joinLines (newFile (fun _ _ => id) 0 [([], wideHunk)] (sampleLines.drop 2))) := by
  have settled := exact_patch_verbatim_iff id "f".toList (joinLines sampleLines) [([], wideHunk)]
    (sampleLines.drop 2) (by decide +kernel)
    (by
      intro entry member line added
      cases List.mem_singleton.mp member
      cases List.mem_singleton.mp (by simpa [addedLines, wideHunk] using added)
      decide +kernel)
    ⟨by decide +kernel, trivial⟩ 2 (by decide)
  obtain ⟨⟨chunks, parsed, updated⟩, _⟩ := settled
  refine ⟨chunks, parsed, fun movePath => (updated movePath).trans ?_⟩
  decide +kernel

end GraphAgent.PatchParser
