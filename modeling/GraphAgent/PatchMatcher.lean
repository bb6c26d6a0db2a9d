import GraphAgent.PatchParser

/-!
# The matcher of a patch

`text_patch/matcher.py`: where the context of a section is found, and how the
indentation of its inserted lines is rewritten.  `normalize` is the normal form that
`unicodedata.normalize("NFC", value)` computes.
-/

namespace GraphAgent.PatchParser

open Terminal

def ignoredTrailingWhitespace : Fuzz := 1 <<< 1
def ignoredWhitespace : Fuzz := 1 <<< 3
def editDistanceMatch : Fuzz := 1 <<< 4
def ignoredEofSignal : Fuzz := 1 <<< 5

deriving instance DecidableEq for FuzzMatch

/-- `_PUNCTUATION_EQUIVALENTS`. -/
def punctuationEquivalent (char : Char) : Char :=
  let value := char.toNat
  if (0x2010 ≤ value ∧ value ≤ 0x2014) ∨ value = 0x2212 then '-'
  else if value ∈ [0x201C, 0x201D, 0x201E, 0xAB, 0xBB] then Char.ofNat 0x22
  else if value ∈ [0x2018, 0x2019, 0x201B] then Char.ofNat 0x27
  else if value ∈ [0xA0, 0x202F] then ' '
  else char

def rstrip (text : Text) : Text :=
  (text.reverse.dropWhile isSpace).reverse

/-- `replace_explicit_tabs`: the escapes among the leading blanks, slashes and hashes. -/
def replaceExplicitTabs : Text → Text
  | '\\' :: 't' :: rest => '\t' :: replaceExplicitTabs rest
  | char :: rest =>
    if isSpace char ∨ char = '/' ∨ char = '#' then char :: replaceExplicitTabs rest
    else char :: rest
  | [] => []

/-- `value.replace("\\n", "\n")`. -/
def replaceNewlineEscapes : Text → Text
  | '\\' :: 'n' :: rest => '\n' :: replaceNewlineEscapes rest
  | char :: rest => char :: replaceNewlineEscapes rest
  | [] => []

def replaceExplicitNewlines (value : Text) : Text :=
  replaceExplicitTabs (replaceNewlineEscapes value)

/-- The next row of `_levenshtein`; the triples are a character of `right` with the
entries of the previous row before and at it. -/
def levenshteinRow (leftCharacter : Char) : Nat → List (Char × Nat × Nat) → List Nat
  | last, [] => [last]
  | last, (rightCharacter, before, above) :: rest =>
    last :: levenshteinRow leftCharacter
      (min (min (last + 1) (above + 1))
        (before + if leftCharacter = rightCharacter then 0 else 1)) rest

def levenshtein (left right : Text) : Nat :=
  let ordered := if left.length < right.length then (right, left) else (left, right)
  let last := ordered.1.zipIdx.foldl
    (fun previous (character, index) =>
      levenshteinRow character (index + 1) (ordered.2.zip (previous.zip previous.tail)))
    (List.range (ordered.2.length + 1))
  last.getLastD 0

section Finding

variable (normalize : Text → Text)

def canonicalize (value : Text) : Text :=
  (normalize value).map punctuationEquivalent

def findHint (lines : List Text) (hint : Text) (start : Nat) : Option Nat :=
  let search (trim : Bool) : Option Nat :=
    ((lines.drop start).findIdx? fun line =>
      canonicalize normalize (if trim then strip line else line) = canonicalize normalize hint).map
        fun index => start + index + 1
  (search false).or (search true)

/-- The places at which a context can stand, from `start` on. -/
def candidatePlaces (lines context : List Text) (start : Nat) : List Nat :=
  List.range' start (lines.length + 1 - context.length - start)

def findExact (lines context : List Text) (start : Nat) : Option Nat :=
  (candidatePlaces lines context start).find? fun index =>
    (lines.drop index).take context.length = context

def findContextCore (lines context : List Text) (start : Nat) : Option FuzzMatch :=
  if context = [] then some ⟨start, 0⟩
  else
    let canonicalLines := lines.map (canonicalize normalize)
    let canonicalContext := context.map (canonicalize normalize)
    match findExact canonicalLines canonicalContext start with
    | some line => some ⟨line, 0⟩
    | none =>
      let trailingLines := canonicalLines.map rstrip
      let trailingContext := canonicalContext.map rstrip
      match findExact trailingLines trailingContext start with
      | some line => some ⟨line, ignoredTrailingWhitespace⟩
      | none =>
        let explicitTabContext := trailingContext.map replaceExplicitTabs
        let tabs : Bool := explicitTabContext ≠ trailingContext
        let fuzz := ignoredTrailingWhitespace ||| (if tabs then normalizedExplicitTab else 0)
        match (if tabs then findExact trailingLines explicitTabContext start else none) with
        | some line => some ⟨line, fuzz⟩
        | none =>
          let explicitNewline :=
            (replaceExplicitNewlines (explicitTabContext.headD [])).splitOn '\n'
          match (if context.length = 1 ∧ explicitNewline ≠ explicitTabContext then
              findExact trailingLines explicitNewline start else none) with
          | some line => some ⟨line, fuzz ||| normalizedExplicitNl⟩
          | none =>
            let strippedLines := trailingLines.map strip
            let strippedContext := explicitTabContext.map strip
            let fuzz := fuzz ||| ignoredWhitespace
            match findExact strippedLines strippedContext start with
            | some line => some ⟨line, fuzz⟩
            | none =>
              -- `EDIT_DISTANCE_ALLOWANCE_PER_LINE` is 0.34.
              let maxDistance := context.length * 34 / 100
              if maxDistance = 0 then none
              else
                ((candidatePlaces strippedLines strippedContext start).find?
                  fun index =>
                    (strippedContext.zipIdx.map fun (expected, offset) =>
                      levenshtein (strippedLines.getD (index + offset) [])
                        expected).sum ≤ maxDistance).map
                  fun line => ⟨line, fuzz ||| editDistanceMatch⟩

/-- `path in line`. -/
def mentions (path line : Text) : Bool :=
  line.tails.any (startsWith path)

def withoutTitle (path : Text) : List Text → List Text
  | [] => []
  | first :: rest => if mentions path first then rest else first :: rest

def findContext (path : Text) (lines context : List Text) (start : Nat) (eof : Bool) :
    Option FuzzMatch :=
  let candidateLines := withoutTitle (strip path) lines
  let candidateContext := withoutTitle (strip path) context
  if eof then
    match findContextCore normalize candidateLines candidateContext
        (candidateLines.length - candidateContext.length) with
    | some found => some found
    | none =>
      (findContextCore normalize candidateLines candidateContext start).map fun found =>
        { found with fuzz := found.fuzz ||| ignoredEofSignal }
  else findContextCore normalize candidateLines candidateContext start

end Finding

/-- `_spaces_difference`: the length of what two indentations share. -/
def sharedLength : Text → Text → Nat
  | left :: lefts, right :: rights => if left = right then sharedLength lefts rights + 1 else 0
  | _, _ => 0

def spacesDifference (left : Text) (leftIndent : Nat) (right : Text) (rightIndent : Nat) :
    Nat × Bool :=
  let shared := sharedLength (left.take leftIndent) (right.take rightIndent)
  let leftSpaces := ((left.take leftIndent).drop shared).count ' '
  let leftTabs := ((left.take leftIndent).drop shared).count '\t'
  let rightSpaces := ((right.take rightIndent).drop shared).count ' '
  let rightTabs := ((right.take rightIndent).drop shared).count '\t'
  if (leftSpaces ≠ 0 ∧ leftTabs ≠ 0) ∨ (rightSpaces ≠ 0 ∧ rightTabs ≠ 0) then (0, false)
  else
    let tabDifference := (leftTabs - rightTabs) + (rightTabs - leftTabs)
    let spaceDifference := (leftSpaces - rightSpaces) + (rightSpaces - leftSpaces)
    if tabDifference = 0 then
      (spaceDifference,
        0 < spaceDifference ∧ 1 ≤ rightSpaces ∧ rightSpaces - 1 < left.length ∧
          rightSpaces < right.length ∧ right[rightSpaces]? ≠ some ' ' ∧
          left[rightSpaces - 1]? = some ' ' ∧ left.getLast? = some ',')
    else if spaceDifference % tabDifference = 0 then (spaceDifference / tabDifference, false)
    else (0, false)

/-- The locals of the loop of `guess_indentation`. -/
structure IndentScan where
  tabLines : Nat
  spaceLines : Nat
  previousLine : Text
  previousIndent : Nat
  scores : List Nat

def IndentScan.start : IndentScan :=
  ⟨0, 0, [], 0, List.replicate 9 0⟩

def IndentScan.step (default : IndentStyle) (scan : IndentScan) (line : Text) : IndentScan :=
  let lead := line.takeWhile fun char => char = ' ' || char = '\t'
  let indent := lead.length
  if indent = line.length then scan
  else
    let counted : IndentScan :=
      if '\t' ∈ lead then { scan with tabLines := scan.tabLines + 1 }
      else if 1 < lead.count ' ' then { scan with spaceLines := scan.spaceLines + 1 }
      else scan
    let (difference, looksLikeAlignment) :=
      spacesDifference scan.previousLine scan.previousIndent line indent
    if looksLikeAlignment ∧ ¬(default.insertSpaces ∧ default.tabSize = difference) then counted
    else
      { counted with
        scores := counted.scores.modify difference (· + 1)
        previousLine := line
        previousIndent := indent }

def IndentScan.bestTabSize (scan : IndentScan) (fallback : Nat) : Nat :=
  let best := [2, 4, 6, 8, 3, 5, 7].foldl
    (fun (best : Nat × Nat) candidate =>
      if best.1 < scan.scores.getD candidate 0 then (scan.scores.getD candidate 0, candidate)
      else best) (0, fallback)
  if best.2 = 4 ∧ 0 < scan.scores.getD 4 0 ∧ 0 < scan.scores.getD 2 0 ∧
      scan.scores.getD 4 0 ≤ 2 * scan.scores.getD 2 0 then 2
  else best.2

def guessIndentation (lines : List Text) (fallback : Option IndentStyle) : IndentStyle :=
  let default := fallback.getD ⟨4, false⟩
  let scan := (lines.take 10000).foldl (IndentScan.step default) IndentScan.start
  let insertSpaces :=
    if scan.tabLines ≠ scan.spaceLines then decide (scan.tabLines < scan.spaceLines)
    else default.insertSpaces
  ⟨if insertSpaces then scan.bestTabSize default.tabSize else default.tabSize, insertSpaces⟩

/-- The loop of `indent_level`. -/
def indentWidth (tabSize : Nat) : Nat → Text → Nat
  | level, [] => level
  | level, char :: rest =>
    if char = ' ' then indentWidth tabSize (level + 1) rest
    else if char = '\t' then indentWidth tabSize (level + (tabSize - level % tabSize)) rest
    else level

def indentLevel (line : Text) (tabSize : Nat) : Nat :=
  indentWidth tabSize 0 line / tabSize

def indentUnit (style : IndentStyle) : Text :=
  if style.insertSpaces then List.replicate style.tabSize ' ' else ['\t']

def leadingUnits (unit : Text) : Nat → Text → Nat
  | 0, _ => 0
  | fuel + 1, line =>
    if startsWith unit line then leadingUnits unit fuel (line.drop unit.length) + 1 else 0

def unitsOf (style : IndentStyle) (line : Text) : Nat :=
  leadingUnits (indentUnit style) line.length line

def transformIndentation (line : Text) (source target : IndentStyle) : Text :=
  if source = target then line
  else
    (List.replicate (unitsOf source line) (indentUnit target)).flatten ++
      line.drop (unitsOf source line * (indentUnit source).length)

def foldCase (char : Char) : Char :=
  if char.toNat = 0x130 ∨ char.toNat = 0x131 then 'i'
  else if char.toNat = 0x17F then 's'
  else char.toLower

/-- `AVOID_EXPLICIT_TABS_REGEX.search(path.rstrip())`. -/
def avoidsExplicitTabs (path : Text) : Bool :=
  [".tex", ".latex", ".sty", ".cls", ".bib", ".bst", ".ins"].any fun extension =>
    extension.toList.isSuffixOf ((rstrip path).map foldCase)

/-- The functions of `matcher.py`. -/
def textMatcher (normalize : Text → Text) : Matcher where
  findHint := findHint normalize
  findContext := findContext normalize
  guessIndentation := guessIndentation
  indentLevel := indentLevel
  indentUnit := indentUnit
  transformIndentation := transformIndentation
  replaceExplicitTabs := replaceExplicitTabs
  replaceExplicitNewlines := replaceExplicitNewlines
  avoidsExplicitTabs := avoidsExplicitTabs

theorem bestTabSize_pos (scan : IndentScan) {fallback : Nat} (positive : 0 < fallback) :
    0 < scan.bestTabSize fallback := by
  have folded : ∀ (candidates : List Nat) (best : Nat × Nat), 0 < best.2 →
      (∀ candidate ∈ candidates, 0 < candidate) →
      0 < (candidates.foldl
        (fun (best : Nat × Nat) candidate =>
          if best.1 < scan.scores.getD candidate 0 then (scan.scores.getD candidate 0, candidate)
          else best) best).2 := by
    intro candidates
    induction candidates with
    | nil => exact fun best start _ => start
    | cons candidate candidates ih =>
      intro best start each
      rw [List.foldl_cons]
      refine ih _ ?_ fun other member => each other (List.mem_cons_of_mem _ member)
      split
      · exact each candidate List.mem_cons_self
      · exact start
  unfold IndentScan.bestTabSize
  dsimp only
  split
  · exact Nat.zero_lt_two
  · exact folded _ (0, fallback) positive (by simp)

theorem guessIndentation_pos (lines : List Text) {fallback : Option IndentStyle}
    (positive : ∀ style ∈ fallback, 0 < style.tabSize) :
    0 < (guessIndentation lines fallback).tabSize := by
  have default : 0 < (fallback.getD ⟨4, false⟩).tabSize := by
    cases fallback with
    | none => exact Nat.zero_lt_succ 3
    | some style => exact positive style rfl
  unfold guessIndentation
  dsimp only
  split_ifs
  all_goals first
    | exact bestTabSize_pos _ default
    | exact default

end GraphAgent.PatchParser
