import GraphAgent.PatchReaders

/-!
# When the two readers of a patch agree

The line scanners look at every line of a patch, the parser stops at the first end
marker and skips headers without a path: the two agree exactly on the patches where
neither matters.
-/

namespace GraphAgent.PatchParser

open Terminal Transaction

structure Agree (text : Text) (commit : List (Text × FileChange)) : Prop where
  affected : ∀ path, path ∈ identifyFilesAffected text ↔
    path ∈ commit.map Prod.fst ∨ ∃ entry ∈ commit, entry.2.movePath = some path
  needed : ∀ path, path ∈ identifyFilesNeeded text ↔ ∃ change, (path, change) ∈ commit ∧
    (change.type = .update ∨ change.type = .delete)
  added : ∀ path, path ∈ identifyFilesAdded text ↔ ∃ change, (path, change) ∈ commit ∧
    change.type = .add

def scannedLines (text : Text) : List Text :=
  (strip text).splitOn '\n'

/-- The lines in front of the first end marker. -/
def linesRead (text : Text) : List Text :=
  (scannedLines text).tail.takeWhile fun line => !startsWith patchSuffix line

def linesIgnored (text : Text) : List Text :=
  (scannedLines text).tail.dropWhile fun line => !startsWith patchSuffix line

def Header.scannedWith : Header → List Header
  | .update | .delete => [.update, .delete]
  | .add => [.add]
  | .move => [.update, .delete, .move, .add]

structure Unambiguous (text : Text) : Prop where
  named : ∀ header, [] ∉ names header (scannedLines text)
  ended : ∀ (header : Header) (path : Text), path ∈ names header (linesIgnored text) →
    ∃ other ∈ header.scannedWith, path ∈ names other (linesRead text)

theorem mem_scan {headers : List Header} {text path : Text} :
    path ∈ scan headers text ↔ ∃ header ∈ headers, path ∈ names header (scannedLines text) := by
  simp only [scan, List.mem_filterMap, mem_names]
  constructor
  · rintro ⟨line, isLine, scanned⟩
    obtain ⟨header, found, rfl⟩ := Option.map_eq_some_iff.mp scanned
    have starts : startsWith header.start line = true := by
      simpa using List.find?_some found
    exact ⟨header, List.mem_of_find?_eq_some found, line, isLine, starts, rfl⟩
  · rintro ⟨header, listed, line, isLine, starts, rfl⟩
    refine ⟨line, isLine, ?_⟩
    cases found : headers.find? (fun header => startsWith header.start line) with
    | none => exact absurd starts (by simpa using List.find?_eq_none.mp found header listed)
    | some other =>
      have otherStarts : startsWith other.start line = true := by
        simpa using List.find?_some found
      have same : other = header := by
        by_contra distinct
        rw [not_both (headers_apart distinct) otherStarts] at starts
        exact Bool.false_ne_true starts
      rw [scanLine, found, same]
      rfl

def headersOfChange (entry : Text × FileChange) : List (Header × Text) :=
  match entry.2.type with
  | .update => (.update, entry.1) :: (entry.2.movePath.toList.map fun path => (.move, path))
  | .delete => [(.delete, entry.1)]
  | .add => [(.add, entry.1)]

def MovesUpdates (commit : List (Text × FileChange)) : Prop :=
  ∀ entry ∈ commit, entry.2.movePath.isSome → entry.2.type = .update

theorem changeOf_headers {currentFiles : List (Text × Text)} {entry : Text × PatchAction}
    {changed : Text × FileChange} (isChange : changeOf currentFiles entry = .ok changed) :
    headersOf entry = headersOfChange changed ∧
      (changed.2.movePath.isSome → changed.2.type = .update) := by
  rcases entry with ⟨path, ⟨type, chunks, newFile, movePath⟩⟩
  cases type with
  | add =>
    cases isChange
    exact ⟨rfl, nofun⟩
  | delete =>
    cases isChange
    exact ⟨rfl, nofun⟩
  | update =>
    obtain ⟨content, _, result⟩ := bind_ok isChange
    cases result
    exact ⟨rfl, fun _ => rfl⟩

theorem commit_headers {currentFiles : List (Text × Text)} {actions : Actions}
    {commit : List (Text × FileChange)}
    (changed : actions.mapM (changeOf currentFiles) = .ok commit) :
    actions.flatMap headersOf = commit.flatMap headersOfChange ∧ MovesUpdates commit := by
  have related := mapM_ok changed
  clear changed
  induction related with
  | nil => exact ⟨rfl, by simp [MovesUpdates]⟩
  | cons head _ ih =>
    obtain ⟨same, moves⟩ := changeOf_headers head
    obtain ⟨others, otherMoves⟩ := ih
    refine ⟨by rw [List.flatMap_cons, List.flatMap_cons, same, others], ?_⟩
    exact List.forall_mem_cons.mpr ⟨moves, otherMoves⟩

theorem mem_commitHeaders {commit : List (Text × FileChange)} (moves : MovesUpdates commit)
    (header : Header) (path : Text) :
    (header, path) ∈ commit.flatMap headersOfChange ↔
      match header with
      | .update => ∃ change, (path, change) ∈ commit ∧ change.type = .update
      | .delete => ∃ change, (path, change) ∈ commit ∧ change.type = .delete
      | .add => ∃ change, (path, change) ∈ commit ∧ change.type = .add
      | .move => ∃ entry ∈ commit, entry.2.movePath = some path := by
  rw [List.mem_flatMap]
  constructor
  · rintro ⟨⟨key, change⟩, member, inside⟩
    cases type : change.type <;>
      simp only [headersOfChange, type, List.mem_cons, List.mem_map, Option.mem_toList,
        Prod.mk.injEq, List.not_mem_nil, or_false] at inside
    · obtain ⟨rfl, rfl⟩ := inside
      exact ⟨change, member, type⟩
    · obtain ⟨rfl, rfl⟩ := inside
      exact ⟨change, member, type⟩
    · rcases inside with ⟨rfl, rfl⟩ | ⟨moved, isMoved, rfl, rfl⟩
      · exact ⟨change, member, type⟩
      · exact ⟨(key, change), member, isMoved⟩
  · intro stated
    cases header with
    | update =>
      obtain ⟨change, member, type⟩ := stated
      exact ⟨(path, change), member, by simp [headersOfChange, type]⟩
    | delete =>
      obtain ⟨change, member, type⟩ := stated
      exact ⟨(path, change), member, by simp [headersOfChange, type]⟩
    | add =>
      obtain ⟨change, member, type⟩ := stated
      exact ⟨(path, change), member, by simp [headersOfChange, type]⟩
    | move =>
      obtain ⟨entry, member, moved⟩ := stated
      have type := moves entry member (by simp [moved])
      exact ⟨entry, member, by simp [headersOfChange, type, moved]⟩

theorem agree_iff {text : Text} {commit : List (Text × FileChange)}
    (moves : MovesUpdates commit) :
    Agree text commit ↔
      (∀ path, path ∈ scan [.update, .delete, .move, .add] text ↔
        ∃ header, (header, path) ∈ commit.flatMap headersOfChange) ∧
      (∀ path, path ∈ scan [.update, .delete] text ↔
        ∃ header ∈ [Header.update, .delete], (header, path) ∈ commit.flatMap headersOfChange) ∧
      ∀ path, path ∈ scan [.add] text ↔ (.add, path) ∈ commit.flatMap headersOfChange := by
  have all : ∀ path, (∃ header, (header, path) ∈ commit.flatMap headersOfChange) ↔
      path ∈ commit.map Prod.fst ∨ ∃ entry ∈ commit, entry.2.movePath = some path := by
    intro path
    constructor
    · rintro ⟨header, member⟩
      have stated := (mem_commitHeaders moves header path).mp member
      cases header with
      | update => exact .inl (stated.elim fun change both => List.mem_map_of_mem both.1)
      | delete => exact .inl (stated.elim fun change both => List.mem_map_of_mem both.1)
      | add => exact .inl (stated.elim fun change both => List.mem_map_of_mem both.1)
      | move => exact .inr stated
    · rintro (key | moved)
      · obtain ⟨⟨_, change⟩, member, rfl⟩ := List.mem_map.mp key
        cases type : change.type with
        | add => exact ⟨.add, (mem_commitHeaders moves .add _).mpr ⟨change, member, type⟩⟩
        | delete =>
          exact ⟨.delete, (mem_commitHeaders moves .delete _).mpr ⟨change, member, type⟩⟩
        | update =>
          exact ⟨.update, (mem_commitHeaders moves .update _).mpr ⟨change, member, type⟩⟩
      · exact ⟨.move, (mem_commitHeaders moves .move path).mpr moved⟩
  have old : ∀ path, (∃ header ∈ [Header.update, .delete],
      (header, path) ∈ commit.flatMap headersOfChange) ↔ ∃ change, (path, change) ∈ commit ∧
        (change.type = .update ∨ change.type = .delete) := by
    intro path
    have updated := mem_commitHeaders moves .update path
    have deleted := mem_commitHeaders moves .delete path
    simp only [List.mem_cons, List.not_mem_nil, or_false, exists_eq_or_imp, exists_eq_left,
      updated, deleted]
    constructor
    · rintro (⟨change, member, type⟩ | ⟨change, member, type⟩)
      · exact ⟨change, member, .inl type⟩
      · exact ⟨change, member, .inr type⟩
    · rintro ⟨change, member, type | type⟩
      · exact .inl ⟨change, member, type⟩
      · exact .inr ⟨change, member, type⟩
  constructor
  · rintro ⟨affected, needed, added⟩
    simp only [identifyFilesAffected, identifyFilesNeeded, identifyFilesAdded,
      List.mem_eraseDups] at affected needed added
    exact ⟨fun path => (affected path).trans (all path).symm,
      fun path => (needed path).trans (old path).symm,
      fun path => (added path).trans (mem_commitHeaders moves .add path).symm⟩
  · rintro ⟨affected, needed, added⟩
    constructor
    · simp only [identifyFilesAffected, List.mem_eraseDups]
      exact fun path => (affected path).trans (all path)
    · simp only [identifyFilesNeeded, List.mem_eraseDups]
      exact fun path => (needed path).trans (old path)
    · exact fun path => (added path).trans (mem_commitHeaders moves .add path)

theorem takeWhile_append_cons {region rest : List Text} {last : Text}
    (open' : ∀ line ∈ region, startsWith patchSuffix line = false)
    (isLast : startsWith patchSuffix last = true) :
    (region ++ last :: rest).takeWhile (fun line => !startsWith patchSuffix line) = region := by
  induction region with
  | nil => simp [isLast]
  | cons line region ih =>
    obtain ⟨first, others⟩ := List.forall_mem_cons.mp open'
    simp [first, ih others]

theorem takeWhile_append_marker (lines : List Text) :
    (lines ++ [patchSuffix]).takeWhile (fun line => !startsWith patchSuffix line) =
      lines.takeWhile fun line => !startsWith patchSuffix line := by
  have marker : startsWith patchSuffix patchSuffix = true := by decide +kernel
  induction lines with
  | nil => simp [marker]
  | cons line lines ih => simp only [List.cons_append, List.takeWhile_cons, ih]

theorem parsePatch_reads {matcher : Matcher} {fuel : Nat} {text : Text}
    {currentFiles : List (Text × Text)} {commit : List (Text × FileChange)}
    (parsed : parsePatch matcher fuel text currentFiles = .ok commit) :
    Passes (linesRead text) (commit.flatMap headersOfChange) ∧ MovesUpdates commit ∧
      (∀ header path, (header, path) ∈ commit.flatMap headersOfChange → path ≠ []) ∧
      ∀ header path, path ∈ names header (scannedLines text) ↔
        path ∈ names header (linesRead text) ∨ path ∈ names header (linesIgnored text) := by
  rw [parsePatch] at parsed
  split at parsed
  next => cases parsed
  next =>
    split at parsed
    next => cases parsed
    next long =>
      split at parsed
      next => cases parsed
      next begins =>
        obtain ⟨actions, isActions, changed⟩ := bind_ok parsed
        obtain ⟨region, last, rest, added, isLines, isLast, isFinal, passes, filled⟩ :=
          parse_passes isActions
        rw [List.nil_append] at isFinal
        subst isFinal
        obtain ⟨same, moves⟩ := commit_headers changed
        obtain ⟨first, second, others, isScanned⟩ : ∃ first second others,
            scannedLines text = first :: second :: others := by
          have size : ¬(scannedLines text).length < 2 := long
          match lines : scannedLines text with
          | [] => simp [lines] at size
          | [_] => simp [lines] at size
          | first :: second :: others => exact ⟨first, second, others, rfl⟩
        have parsedTail : (parsedLines text).tail = second :: others ∨
            (parsedLines text).tail = (second :: others) ++ [patchSuffix] := by
          have unfolded : parsedLines text =
              if (scannedLines text).getLastD [] = patchSuffix then scannedLines text
              else scannedLines text ++ [patchSuffix] := rfl
          rw [unfolded, isScanned]
          split
          next => exact .inl rfl
          next => exact .inr rfl
        have isRead : linesRead text = region := by
          have taken := @takeWhile_append_cons _ rest _ passes.open' isLast
          rw [← isLines] at taken
          rw [linesRead, isScanned, List.tail_cons]
          rcases parsedTail with whole | appended
          · rwa [whole] at taken
          · rw [appended] at taken
            rw [← taken, takeWhile_append_marker]
        rw [isRead, ← same]
        refine ⟨passes, moves, filled, ?_⟩
        intro header path
        have firstNames : names header [first] = [] := by
          have isBegin : startsWith patchPrefix first = true := by
            have head : (scannedLines text).headD [] = first := by rw [isScanned]; rfl
            rw [← head]
            exact not_not.mp begins
          have apart : ¬patchPrefix <+: header.start ∧ ¬header.start <+: patchPrefix := by
            cases header <;> decide +kernel
          simp [names, not_both apart isBegin]
        have parts : scannedLines text = [first] ++ (linesRead text ++ linesIgnored text) := by
          rw [linesRead, linesIgnored, List.takeWhile_append_dropWhile, isScanned]
          rfl
        rw [parts, names_append, firstNames, List.nil_append, names_append, List.mem_append,
          isRead]

/-- Whenever the parser returns a commit, the scanners agree with it exactly when no
header lacks its path and none behind the end marker names anything new. -/
theorem patch_readers_agree_iff (matcher : Matcher) {fuel : Nat} {text : Text}
    {currentFiles : List (Text × Text)} {commit : List (Text × FileChange)}
    (parsed : parsePatch matcher fuel text currentFiles = .ok commit) :
    Agree text commit ↔ Unambiguous text := by
  obtain ⟨passes, moves, filled, split⟩ := parsePatch_reads parsed
  rw [agree_iff moves]
  constructor
  · rintro ⟨affected, needed, added⟩
    have named : ∀ header, [] ∉ names header (scannedLines text) := by
      intro header member
      have scanned : [] ∈ scan [.update, .delete, .move, .add] text :=
        mem_scan.mpr ⟨header, by cases header <;> simp, member⟩
      obtain ⟨other, found⟩ := (affected []).mp scanned
      exact filled other [] found rfl
    refine ⟨named, ?_⟩
    intro header path ignored
    have inLines := (split header path).mpr (.inr ignored)
    have nonempty : path ≠ [] := fun empty => named header (empty ▸ inLines)
    have read : ∀ other, (other, path) ∈ commit.flatMap headersOfChange →
        path ∈ names other (linesRead text) := fun other =>
      (passes.named other path nonempty).mpr
    cases header with
    | update =>
      obtain ⟨other, listed, found⟩ :=
        (needed path).mp (mem_scan.mpr ⟨.update, by simp, inLines⟩)
      exact ⟨other, listed, read other found⟩
    | delete =>
      obtain ⟨other, listed, found⟩ :=
        (needed path).mp (mem_scan.mpr ⟨.delete, by simp, inLines⟩)
      exact ⟨other, listed, read other found⟩
    | add =>
      have found := (added path).mp (mem_scan.mpr ⟨.add, by simp, inLines⟩)
      exact ⟨.add, List.mem_singleton_self _, read .add found⟩
    | move =>
      obtain ⟨other, found⟩ := (affected path).mp (mem_scan.mpr ⟨.move, by simp, inLines⟩)
      exact ⟨other, by cases other <;> simp [Header.scannedWith], read other found⟩
  · rintro ⟨named, ended⟩
    -- A header of any line is one of the read lines that the same scanner sees.
    have found : ∀ header path, path ∈ names header (scannedLines text) →
        ∃ other ∈ header :: header.scannedWith,
          (other, path) ∈ commit.flatMap headersOfChange := by
      intro header path member
      have nonempty : path ≠ [] := fun empty => named header (empty ▸ member)
      rcases (split header path).mp member with read | ignored
      · exact ⟨header, List.mem_cons_self, (passes.named header path nonempty).mp read⟩
      · obtain ⟨other, listed, read⟩ := ended header path ignored
        exact ⟨other, .tail _ listed, (passes.named other path nonempty).mp read⟩
    have scanned : ∀ header path, (header, path) ∈ commit.flatMap headersOfChange →
        path ∈ names header (scannedLines text) := fun header path member =>
      (split header path).mpr
        (.inl ((passes.named header path (filled header path member)).mpr member))
    refine ⟨fun path => ?_, fun path => ?_, fun path => ?_⟩
    · rw [mem_scan]
      constructor
      · rintro ⟨header, _, member⟩
        obtain ⟨other, _, isFound⟩ := found header path member
        exact ⟨other, isFound⟩
      · rintro ⟨header, isFound⟩
        exact ⟨header, by cases header <;> simp, scanned header path isFound⟩
    · rw [mem_scan]
      constructor
      · rintro ⟨header, listed, member⟩
        obtain ⟨other, isOther, isFound⟩ := found header path member
        refine ⟨other, ?_, isFound⟩
        simp only [List.mem_cons, List.not_mem_nil, or_false] at listed
        rcases listed with rfl | rfl <;>
          simp only [Header.scannedWith, List.mem_cons, List.not_mem_nil, or_false] at isOther ⊢ <;>
          tauto
      · rintro ⟨header, listed, isFound⟩
        exact ⟨header, listed, scanned header path isFound⟩
    · rw [mem_scan]
      constructor
      · rintro ⟨header, listed, member⟩
        obtain rfl := List.mem_singleton.mp listed
        obtain ⟨other, isOther, isFound⟩ := found .add path member
        have isAdd : other = .add := by
          simpa [Header.scannedWith] using isOther
        exact isAdd ▸ isFound
      · intro isFound
        exact ⟨.add, List.mem_singleton_self _, scanned .add path isFound⟩

def verbatimMatcher : Matcher where
  findHint _ _ _ := none
  findContext _ fileLines context start _ :=
    if (fileLines.drop start).take context.length = context then some ⟨start, 0⟩ else none
  guessIndentation _ _ := ⟨4, false⟩
  indentLevel _ _ := 0
  indentUnit _ := ['\t']
  transformIndentation line _ _ := line
  replaceExplicitTabs line := line
  replaceExplicitNewlines line := line
  avoidsExplicitTabs _ := true

def overlongPatch : Text :=
  "*** Begin Patch\n*** Add File: a\n+x\n*** End Patch\n*** Delete File: b\n*** End Patch".toList

/-- The scanners report the deletion of a file that the commit leaves alone. -/
theorem overlong_patch_disagrees :
    (parsePatch verbatimMatcher 4 overlongPatch [("b".toList, [])]).toOption.map
        (fun commit => commit.map Prod.fst) = some ["a".toList] ∧
      identifyFilesAffected overlongPatch = ["a".toList, "b".toList] ∧
      identifyFilesNeeded overlongPatch = ["b".toList] := by
  decide +kernel

def shortPatch : Text :=
  "*** Begin Patch\n*** Add File: a\n+x\n*** End Patch".toList

theorem patch_readers_agree_iff_short :
    ∃ commit, parsePatch verbatimMatcher 4 shortPatch [] = .ok commit ∧
      (Agree shortPatch commit ↔ Unambiguous shortPatch) := by
  obtain ⟨commit, parsed⟩ : ∃ commit, parsePatch verbatimMatcher 4 shortPatch [] = .ok commit := by
    cases result : parsePatch verbatimMatcher 4 shortPatch [] with
    | ok commit => exact ⟨commit, rfl⟩
    | error error =>
      have succeeds : (parsePatch verbatimMatcher 4 shortPatch []).toOption.isSome = true := by
        decide +kernel
      rw [result] at succeeds
      cases succeeds
  exact ⟨commit, parsed, patch_readers_agree_iff verbatimMatcher parsed⟩

end GraphAgent.PatchParser
