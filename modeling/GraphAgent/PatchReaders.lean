import GraphAgent.PatchParser

/-!
# What the parser passes over

The lines that the parser consumes up to the end of a patch, and which of their
headers become actions.
-/

namespace GraphAgent.PatchParser

open Terminal Transaction

theorem startsWith_iff {start line : Text} : startsWith start line = true ↔ start <+: line :=
  List.isPrefixOf_iff_prefix

theorem not_both {first second line : Text} (apart : ¬first <+: second ∧ ¬second <+: first)
    (isFirst : startsWith first line = true) : startsWith second line = false := by
  by_contra isSecond
  have firstPrefix := startsWith_iff.mp isFirst
  have secondPrefix := startsWith_iff.mp (by simpa using isSecond)
  rcases Nat.le_total first.length second.length with short | short
  · exact apart.1 (List.prefix_of_prefix_length_le firstPrefix secondPrefix short)
  · exact apart.2 (List.prefix_of_prefix_length_le secondPrefix firstPrefix short)

theorem headers_apart {first second : Header} (distinct : first ≠ second) :
    ¬first.start <+: second.start ∧ ¬second.start <+: first.start := by
  revert distinct
  cases first <;> cases second <;> decide +kernel

theorem header_suffix_apart (header : Header) :
    ¬header.start <+: patchSuffix ∧ ¬patchSuffix <+: header.start := by
  cases header <;> decide +kernel

def names (header : Header) (lines : List Text) : List Text :=
  lines.filterMap fun line =>
    if startsWith header.start line then some (line.drop header.start.length) else none

theorem mem_names {header : Header} {lines : List Text} {path : Text} :
    path ∈ names header lines ↔ ∃ line ∈ lines, startsWith header.start line = true ∧
      line.drop header.start.length = path := by
  simp [names, List.mem_filterMap]

theorem names_append (header : Header) (first second : List Text) :
    names header (first ++ second) = names header first ++ names header second :=
  List.filterMap_append

structure Passes (region : List Text) (found : List (Header × Text)) : Prop where
  open' : ∀ line ∈ region, startsWith patchSuffix line = false
  named : ∀ header path, path ≠ [] → (path ∈ names header region ↔ (header, path) ∈ found)

theorem Passes.nil : Passes [] [] :=
  ⟨by simp, by simp [names]⟩

theorem Passes.append {first second : List Text} {firstFound secondFound : List (Header × Text)}
    (passesFirst : Passes first firstFound) (passesSecond : Passes second secondFound) :
    Passes (first ++ second) (firstFound ++ secondFound) where
  open' line member := (List.mem_append.mp member).elim (passesFirst.open' line)
    (passesSecond.open' line)
  named header path filled := by
    rw [names_append, List.mem_append, List.mem_append, passesFirst.named header path filled,
      passesSecond.named header path filled]

theorem Passes.plain {region : List Text}
    (plain : ∀ line ∈ region, startsWith "***".toList line = false) : Passes region [] where
  open' line member := by
    by_contra isSuffix
    have marked : startsWith "***".toList line = true :=
      startsWith_iff.mpr (List.IsPrefix.trans (by decide +kernel : "***".toList <+: patchSuffix)
        (startsWith_iff.mp (by simpa using isSuffix)))
    rw [plain line member] at marked
    exact Bool.false_ne_true marked
  named header path _ := by
    constructor
    · intro member
      obtain ⟨line, isLine, starts, _⟩ := mem_names.mp member
      have headed : "***".toList <+: header.start := by
        cases header <;> decide +kernel
      have marked : startsWith "***".toList line = true :=
        startsWith_iff.mpr (headed.trans (startsWith_iff.mp starts))
      rw [plain line isLine] at marked
      exact absurd marked Bool.false_ne_true
    · exact fun member => absurd member List.not_mem_nil

theorem Passes.header {header : Header} {line : Text}
    (starts : startsWith header.start line = true) :
    Passes [line] (if line.drop header.start.length = [] then []
      else [(header, line.drop header.start.length)]) where
  open' other member := by
    rw [List.mem_singleton.mp member]
    exact not_both (header_suffix_apart header) starts
  named other path filled := by
    rw [mem_names]
    constructor
    · rintro ⟨_, member, otherStarts, rfl⟩
      rw [List.mem_singleton.mp member] at otherStarts filled ⊢
      have same : other = header := by
        by_contra distinct
        rw [not_both (headers_apart fun same => distinct same.symm) starts] at otherStarts
        exact Bool.false_ne_true otherStarts
      subst same
      rw [if_neg filled]
      exact List.mem_singleton_self _
    · intro member
      split at member
      next => exact absurd member List.not_mem_nil
      next =>
        obtain ⟨rfl, rfl⟩ := Prod.mk.inj (List.mem_singleton.mp member)
        exact ⟨line, List.mem_singleton_self line, starts, rfl⟩

theorem Passes.endOfFile : Passes [endOfFilePrefix] [] where
  open' line member := by
    rw [List.mem_singleton.mp member]
    decide +kernel
  named header path _ := by
    have none : names header [endOfFilePrefix] = [] := by
      cases header <;> decide +kernel
    rw [none]
    simp

theorem peekLines_passes {fuzzMerge : Nat} {peek last : Peek} {lines rest : List Text}
    (peeked : peekLines fuzzMerge peek lines = .ok (last, rest)) :
    ∃ region, lines = region ++ rest ∧ Passes region [] := by
  induction lines generalizing peek with
  | nil =>
    cases peeked
    exact ⟨[], rfl, .nil⟩
  | cons current lines ih =>
    rw [peekLines] at peeked
    split at peeked
    next =>
      cases peeked
      exact ⟨[], rfl, .nil⟩
    next =>
      split at peeked
      next =>
        cases peeked
        exact ⟨[], rfl, .nil⟩
      next =>
        split at peeked
        next => cases peeked
        next plain =>
          obtain ⟨region, rfl, passes⟩ := ih peeked
          refine ⟨current :: region, rfl, ?_⟩
          have first : Passes [current] [] := .plain fun line member => by
            rw [List.mem_singleton.mp member]
            simpa using plain
          exact first.append passes

theorem peekNextSection_passes {lines : List Text} {fuzzMerge : Nat} {part : Section}
    (peeked : peekNextSection lines fuzzMerge = .ok part) :
    ∃ region, lines = region ++ part.rest ∧ Passes region [] := by
  obtain ⟨⟨last, rest⟩, inner, result⟩ := bind_ok peeked
  obtain ⟨region, rfl, passes⟩ := peekLines_passes inner
  cases result
  by_cases eof : rest.head? = some endOfFilePrefix
  · obtain ⟨tail, rfl⟩ := List.head?_eq_some_iff.mp eof
    refine ⟨region ++ [endOfFilePrefix], ?_, passes.append .endOfFile⟩
    simp
  · refine ⟨region, ?_, passes⟩
    simp [eof]

variable {matcher : Matcher}

theorem findMerged_passes {path : Text} {fileLines lines : List Text} {searchIndex tries
    fuzzMerge : Nat} {part : Section} {found : FuzzMatch}
    (merged : findMerged matcher path fileLines lines searchIndex tries fuzzMerge =
      .ok (part, found)) :
    ∃ region, lines = region ++ part.rest ∧ Passes region [] := by
  induction tries generalizing fuzzMerge with
  | zero => cases merged
  | succ tries ih =>
    obtain ⟨section', peeked, rest⟩ := bind_ok merged
    split at rest
    next =>
      cases rest
      exact peekNextSection_passes peeked
    next => exact ih rest

theorem readEntire_passes {start line : Text} {lines rest : List Text}
    (apart : ¬start <+: "***".toList ∧ ¬"***".toList <+: start)
    (entire : readEntire start lines = .ok (line, rest)) :
    ∃ region, lines = region ++ rest ∧ Passes region [] := by
  cases lines with
  | nil => cases entire
  | cons current others =>
    rw [readEntire] at entire
    split at entire
    next starts =>
      cases entire
      refine ⟨[line], rfl, .plain fun other member => ?_⟩
      rw [List.mem_singleton.mp member]
      exact not_both apart starts
    next =>
      cases entire
      exact ⟨[], rfl, .nil⟩

theorem parseUpdateFile_passes {path : Text} {fileLines : List Text} {target : IndentStyle}
    {fuel searchIndex : Nat} {chunks last : List Chunk} {lines rest : List Text}
    (parsed : parseUpdateFile matcher path fileLines target fuel searchIndex chunks lines =
      .ok (last, rest)) :
    ∃ region, lines = region ++ rest ∧ Passes region [] := by
  induction fuel generalizing searchIndex chunks lines with
  | zero => cases parsed
  | succ fuel ih =>
    rw [parseUpdateFile] at parsed
    split at parsed
    next =>
      cases parsed
      exact ⟨[], rfl, .nil⟩
    next =>
      obtain ⟨⟨line, behind⟩, entire, inside⟩ := bind_ok parsed
      obtain ⟨opening, isOpening, passesOpening⟩ :=
        readEntire_passes (by decide +kernel) entire
      simp only at inside
      split at inside
      next => cases inside
      next =>
        obtain ⟨first, _, located⟩ := bind_ok inside
        obtain ⟨⟨part, found⟩, merged, remaining⟩ := bind_ok located
        obtain ⟨body, isBody, passesBody⟩ := findMerged_passes merged
        obtain ⟨others, isOthers, passesOthers⟩ := ih remaining
        refine ⟨opening ++ (body ++ others), ?_,
          passesOpening.append (passesBody.append passesOthers)⟩
        rw [isOpening, isBody, isOthers]
        simp

theorem parseAddFile_passes {content last : List Text} {lines rest : List Text}
    (parsed : parseAddFile content lines = .ok (last, rest)) :
    ∃ region, lines = region ++ rest ∧ Passes region [] := by
  induction lines generalizing content with
  | nil =>
    cases parsed
    exact ⟨[], rfl, .nil⟩
  | cons line lines ih =>
    rw [parseAddFile] at parsed
    split at parsed
    next =>
      cases parsed
      exact ⟨[], rfl, .nil⟩
    next =>
      split at parsed
      next => cases parsed
      next added =>
        obtain ⟨region, rfl, passes⟩ := ih parsed
        have first : Passes [line] [] := .plain fun other member => by
          rw [List.mem_singleton.mp member]
          exact @not_both ['+'] "***".toList line (by decide +kernel) (by simpa using added)
        exact ⟨line :: region, rfl, first.append passes⟩

def headersOf (entry : Text × PatchAction) : List (Header × Text) :=
  match entry.2.type with
  | .update => (.update, entry.1) :: (entry.2.movePath.toList.map fun path => (.move, path))
  | .delete => [(.delete, entry.1)]
  | .add => [(.add, entry.1)]

theorem readPrefixed_passes {header : Header} {path : Text} {lines rest : List Text}
    (read : readPrefixed header.start lines = .ok (path, rest)) :
    ∃ region, lines = region ++ rest ∧
      Passes region (if path = [] then [] else [(header, path)]) := by
  cases lines with
  | nil => cases read
  | cons current others =>
    rw [readPrefixed] at read
    split at read
    next starts =>
      cases read
      exact ⟨[current], rfl, .header starts⟩
    next =>
      cases read
      exact ⟨[], rfl, by rw [if_pos rfl]; exact .nil⟩

theorem parse_passes {currentFiles : List (Text × Text)} {fuel : Nat} {actions final : Actions}
    {lines : List Text} (parsed : parse matcher currentFiles fuel actions lines = .ok final) :
    ∃ region last rest added, lines = region ++ last :: rest ∧
      startsWith patchSuffix last = true ∧ final = actions ++ added ∧
      Passes region (added.flatMap headersOf) ∧
      ∀ header path, (header, path) ∈ added.flatMap headersOf → path ≠ [] := by
  induction fuel generalizing actions lines with
  | zero => cases parsed
  | succ fuel ih =>
    -- One round adds an action behind the lines that it passes over.
    have round : ∀ {front behind : List Text} {found : List (Header × Text)}
        {entry : Text × PatchAction},
        parse matcher currentFiles fuel (actions ++ [entry]) behind = .ok final →
        Passes front found → headersOf entry = found → (∀ header path, (header, path) ∈ found →
          path ≠ []) → lines = front ++ behind →
        ∃ region last rest added, lines = region ++ last :: rest ∧
          startsWith patchSuffix last = true ∧ final = actions ++ added ∧
          Passes region (added.flatMap headersOf) ∧
          ∀ header path, (header, path) ∈ added.flatMap headersOf → path ≠ [] := by
      intro front behind found entry remaining passes isFound filled isLines
      obtain ⟨region, last, rest, added, rfl, isLast, isFinal, passesRest, restFilled⟩ :=
        ih remaining
      refine ⟨front ++ region, last, rest, entry :: added, by rw [isLines]; simp, isLast,
        by rw [isFinal]; simp, ?_, ?_⟩
      · rw [List.flatMap_cons, isFound]
        exact passes.append passesRest
      · intro header path member
        rw [List.flatMap_cons, isFound, List.mem_append] at member
        exact member.elim (filled header path) (restFilled header path)
    rw [parse] at parsed
    split at parsed
    next done =>
      split at parsed
      next => cases parsed
      next filled =>
        cases parsed
        obtain ⟨last, rest, rfl⟩ := List.exists_cons_of_ne_nil filled
        have suffix : strip patchSuffix = patchSuffix := by decide +kernel
        simp only [isDone, List.any_cons, List.any_nil, Bool.or_false, suffix] at done
        exact ⟨[], last, rest, [], rfl, done, by simp, .nil, by simp⟩
    next =>
      obtain ⟨⟨updated, lines₁⟩, readUpdate, parsed⟩ := bind_ok parsed
      obtain ⟨region₁, isLines₁, passes₁⟩ :=
        @readPrefixed_passes .update _ _ _ readUpdate
      simp only at parsed
      split at parsed
      next named =>
        rw [if_neg named] at passes₁
        obtain ⟨_, _, parsed⟩ := bind_ok parsed
        obtain ⟨⟨moveTo, lines₂⟩, readMove, parsed⟩ := bind_ok parsed
        obtain ⟨region₂, isLines₂, passes₂⟩ := @readPrefixed_passes .move _ _ _ readMove
        simp only at parsed
        split at parsed
        next => cases parsed
        next =>
          obtain ⟨⟨chunks, lines₃⟩, updatedFile, parsed⟩ := bind_ok parsed
          obtain ⟨region₃, isLines₃, passes₃⟩ := parseUpdateFile_passes updatedFile
          refine round parsed (passes₁.append (passes₂.append passes₃)) ?_ ?_ ?_
          · by_cases still : moveTo = [] <;> simp [headersOf, still]
          · intro header path member
            by_cases still : moveTo = []
            · simp [still] at member
              rw [member.2]
              exact named
            · simp [still] at member
              rcases member with ⟨_, rfl⟩ | ⟨_, rfl⟩
              · exact named
              · exact still
          · rw [isLines₁, isLines₂, isLines₃]
            simp
      next unnamed =>
        have noUpdate : updated = [] := not_not.mp unnamed
        rw [if_pos noUpdate] at passes₁
        obtain ⟨⟨deleted, lines₂⟩, readDelete, parsed⟩ := bind_ok parsed
        obtain ⟨region₂, isLines₂, passes₂⟩ := @readPrefixed_passes .delete _ _ _ readDelete
        simp only at parsed
        split at parsed
        next named =>
          rw [if_neg named] at passes₂
          obtain ⟨_, _, parsed⟩ := bind_ok parsed
          split at parsed
          next => cases parsed
          next =>
            refine round parsed (passes₁.append passes₂) rfl ?_ ?_
            · intro header path member
              simp at member
              rw [member.2]
              exact named
            · rw [isLines₁, isLines₂]
              simp
        next unnamed =>
          have noDelete : deleted = [] := not_not.mp unnamed
          rw [if_pos noDelete] at passes₂
          obtain ⟨⟨added, lines₃⟩, readAdd, parsed⟩ := bind_ok parsed
          obtain ⟨region₃, isLines₃, passes₃⟩ := @readPrefixed_passes .add _ _ _ readAdd
          simp only at parsed
          split at parsed
          next named =>
            rw [if_neg named] at passes₃
            obtain ⟨_, _, parsed⟩ := bind_ok parsed
            split at parsed
            next => cases parsed
            next =>
              obtain ⟨⟨content, lines₄⟩, addedFile, parsed⟩ := bind_ok parsed
              obtain ⟨region₄, isLines₄, passes₄⟩ := parseAddFile_passes addedFile
              refine round parsed
                (passes₁.append (passes₂.append (passes₃.append passes₄))) rfl ?_ ?_
              · intro header path member
                simp at member
                rw [member.2]
                exact named
              · rw [isLines₁, isLines₂, isLines₃, isLines₄]
                simp
          next => cases parsed

end GraphAgent.PatchParser
