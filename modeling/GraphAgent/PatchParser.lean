import GraphAgent.TerminalText
import GraphAgent.Transactions

/-!
# The two readers of a patch

`text_patch/parser.py`: the parser that reads a patch into changes, and the line
scanners that name its files.  What the parser does with indentation and where it
finds the context of a section is the parameter `Matcher`, of `matcher.py`.  The
index of the parser is kept as the lines from it on, and a fuel bounds its loops.
-/

namespace GraphAgent.PatchParser

open Terminal

/-- `str.isspace` of one character. -/
def isSpace (char : Char) : Bool :=
  let value := char.toNat
  (9 ≤ value && value ≤ 13) || (28 ≤ value && value ≤ 32) || value == 0x85 || value == 0xA0 ||
    value == 0x1680 || (0x2000 ≤ value && value ≤ 0x200A) || value == 0x2028 ||
    value == 0x2029 || value == 0x202F || value == 0x205F || value == 0x3000

def strip (text : Text) : Text :=
  ((text.dropWhile isSpace).reverse.dropWhile isSpace).reverse

def patchPrefix : Text := "*** Begin Patch".toList
def patchSuffix : Text := "*** End Patch".toList
def addFilePrefix : Text := "*** Add File: ".toList
def deleteFilePrefix : Text := "*** Delete File: ".toList
def updateFilePrefix : Text := "*** Update File: ".toList
def moveFileToPrefix : Text := "*** Move to: ".toList
def endOfFilePrefix : Text := "*** End of File".toList
def chunkDelimiter : Text := "@@".toList

/-- `line.startswith(start)`. -/
def startsWith (start line : Text) : Bool :=
  start.isPrefixOf line

/-- The flags of `Fuzz`, as bits. -/
abbrev Fuzz := Nat

def normalizedExplicitTab : Fuzz := 1 <<< 2
def mergedOperatorSection : Fuzz := 1 <<< 6
def normalizedExplicitNl : Fuzz := 1 <<< 7

structure IndentStyle where
  tabSize : Nat
  insertSpaces : Bool
  deriving DecidableEq

structure FuzzMatch where
  line : Nat
  fuzz : Fuzz

/-- The functions of `matcher.py`, and the pattern of the files that keep explicit tabs. -/
structure Matcher where
  findHint : List Text → Text → Nat → Option Nat
  findContext : Text → List Text → List Text → Nat → Bool → Option FuzzMatch
  guessIndentation : List Text → Option IndentStyle → IndentStyle
  indentLevel : Text → Nat → Nat
  indentUnit : IndentStyle → Text
  transformIndentation : Text → IndentStyle → IndentStyle → Text
  replaceExplicitTabs : Text → Text
  replaceExplicitNewlines : Text → Text
  avoidsExplicitTabs : Text → Bool

inductive ActionType where
  | add
  | delete
  | update

structure Chunk where
  origIndex : Nat
  delLines : List Text
  insLines : List Text
  deriving DecidableEq

structure PatchAction where
  type : ActionType
  chunks : List Chunk
  newFile : Option Text
  movePath : Option Text

structure FileChange where
  type : ActionType
  oldContent : Option Text
  newContent : Option Text
  movePath : Option Text

inductive DiffError where
  | badStart
  | tooShort
  | missingEnd
  | unknownLine (line : Text)
  | pastEnd
  | duplicatePath (path : Text)
  | missingFile (path : Text)
  | fileExists (path : Text)
  | invalidAddLine (line : Text)
  | invalidLine (line : Text)
  | invalidContext (path : Text)
  | chunkOutOfOrder (path : Text)
  | outOfFuel
  deriving DecidableEq

def isDone (starts : List Text) (lines : List Text) : Bool :=
  match lines with
  | [] => true
  | current :: _ => starts.any fun start => startsWith (strip start) current

/-- `_read_prefixed`: what is read, and the lines from the index on afterwards. -/
def readPrefixed (start : Text) (lines : List Text) : Except DiffError (Text × List Text) :=
  match lines with
  | [] => .error .pastEnd
  | current :: rest =>
    if startsWith start current then .ok (current.drop start.length, rest)
    else .ok ([], current :: rest)

/-- `_read_prefixed(start, return_entire=True)`. -/
def readEntire (start : Text) (lines : List Text) : Except DiffError (Text × List Text) :=
  match lines with
  | [] => .error .pastEnd
  | current :: rest =>
    if startsWith start current then .ok (current, rest) else .ok ([], current :: rest)

inductive Mode where
  | add
  | delete
  | keep
  deriving DecidableEq

structure Section where
  context : List Text
  chunks : List Chunk
  rest : List Text
  eof : Bool
  fuzzMerges : Nat

/-- The locals of `_peek_next_section`. -/
structure Peek where
  old : List Text
  deleted : List Text
  inserted : List Text
  chunks : List Chunk
  mode : Mode
  fuzzMergeNumber : Nat

def Peek.start : Peek := ⟨[], [], [], [], .keep, 0⟩

def sectionPrefixes : List Text :=
  [chunkDelimiter, patchSuffix, updateFilePrefix, deleteFilePrefix, addFilePrefix,
    endOfFilePrefix]

def Peek.closeChunk (peek : Peek) : List Chunk :=
  if peek.inserted ≠ [] ∨ peek.deleted ≠ [] then
    peek.chunks ++ [⟨peek.old.length - peek.deleted.length, peek.deleted, peek.inserted⟩]
  else peek.chunks

def modeOf (line : Text) : Mode :=
  if startsWith ['+'] line then .add else if startsWith ['-'] line then .delete else .keep

def Peek.read (peek : Peek) (fuzzMerge : Nat) (line nextLine : Text) : Mode × Text × Nat :=
  if startsWith ['+'] line then (.add, line.drop 1, peek.fuzzMergeNumber)
  else if startsWith ['-'] line then (.delete, line.drop 1, peek.fuzzMergeNumber)
  else if startsWith [' '] line then (.keep, line.drop 1, peek.fuzzMergeNumber)
  else
    let nextMode := modeOf nextLine
    if peek.mode ≠ .keep ∧ nextMode = peek.mode then
      (if fuzzMerge = peek.fuzzMergeNumber + 1 then nextMode else .keep, line,
        peek.fuzzMergeNumber + 1)
    else (.keep, line, peek.fuzzMergeNumber)

def Peek.step (peek : Peek) (fuzzMerge : Nat) (line nextLine : Text) : Peek :=
  let read := peek.read fuzzMerge line nextLine
  let closed : Peek :=
    if read.1 = .keep ∧ peek.mode ≠ .keep then
      { peek with chunks := peek.closeChunk, deleted := [], inserted := [] }
    else peek
  match read.1 with
  | .delete =>
    { closed with
      deleted := closed.deleted ++ [read.2.1]
      old := closed.old ++ [read.2.1]
      mode := .delete
      fuzzMergeNumber := read.2.2 }
  | .add =>
    { closed with
      inserted := closed.inserted ++ [read.2.1]
      mode := .add
      fuzzMergeNumber := read.2.2 }
  | .keep =>
    { closed with
      old := closed.old ++ [read.2.1]
      mode := .keep
      fuzzMergeNumber := read.2.2 }

/-- The loop of `_peek_next_section`. -/
def peekLines (fuzzMerge : Nat) : Peek → List Text → Except DiffError (Peek × List Text)
  | peek, [] => .ok (peek, [])
  | peek, current :: rest =>
    if sectionPrefixes.any fun start => startsWith (strip start) current then
      let old :=
        if peek.mode = .keep ∧ peek.old ≠ [] ∧ strip (peek.old.getLastD []) = [] then
          peek.old.dropLast
        else peek.old
      .ok ({ peek with old := old }, current :: rest)
    else if current = "***".toList then .ok (peek, current :: rest)
    else if startsWith "***".toList current then .error (.invalidLine current)
    else peekLines fuzzMerge (peek.step fuzzMerge current (rest.headD [])) rest

def peekNextSection (lines : List Text) (fuzzMerge : Nat) : Except DiffError Section := do
  let (peek, rest) ← peekLines fuzzMerge Peek.start lines
  let eof := rest.head? = some endOfFilePrefix
  return ⟨peek.old, peek.closeChunk, if eof then rest.tail else rest, eof, peek.fuzzMergeNumber⟩

section Parsing

variable (matcher : Matcher)

def findSection (path : Text) (fileLines : List Text) (part : Section) (searchIndex : Nat) :
    Option FuzzMatch :=
  (matcher.findContext path fileLines part.context searchIndex part.eof).or
    (matcher.findContext path fileLines part.context 0 part.eof)

def findMerged (path : Text) (fileLines lines : List Text) (searchIndex : Nat) :
    Nat → Nat → Except DiffError (Section × FuzzMatch)
  | 0, _ => .error (.invalidContext path)
  | tries + 1, fuzzMerge => do
      let part ← peekNextSection lines fuzzMerge
      match findSection matcher path fileLines part searchIndex with
      | some found =>
        return (part,
          if fuzzMerge ≠ 0 then { found with fuzz := found.fuzz ||| mergedOperatorSection }
          else found)
      | none => findMerged path fileLines lines searchIndex tries (fuzzMerge + 1)

def placeChunk (path : Text) (found : FuzzMatch) (source target : IndentStyle)
    (extraIndent : Text) (chunk : Chunk) : Chunk :=
  let newline := found.fuzz &&& normalizedExplicitNl ≠ 0
  let tab := found.fuzz &&& normalizedExplicitTab ≠ 0
  let insLines :=
    if newline then chunk.insLines.map matcher.replaceExplicitNewlines else chunk.insLines
  let delLines :=
    if newline then chunk.delLines.map matcher.replaceExplicitNewlines else chunk.delLines
  let insLines :=
    if ¬matcher.avoidsExplicitTabs path ∨ tab then insLines.map matcher.replaceExplicitTabs
    else insLines
  { origIndex := chunk.origIndex + found.line
    insLines := insLines.map fun line =>
      if strip line = [] then line
      else extraIndent ++ matcher.transformIndentation line source target
    delLines := if tab then delLines.map matcher.replaceExplicitTabs else delLines }

def placeSection (path : Text) (fileLines : List Text) (target : IndentStyle) (part : Section)
    (found : FuzzMatch) : List Chunk :=
  let source := matcher.guessIndentation
    (part.chunks.flatMap Chunk.insLines ++ part.context) (some target)
  let matchedIndent := matcher.indentLevel (fileLines.getD found.line []) target.tabSize
  let first := part.context.headD []
  let first :=
    if found.fuzz &&& normalizedExplicitNl ≠ 0 then matcher.replaceExplicitNewlines first
    else if found.fuzz &&& normalizedExplicitTab ≠ 0 then matcher.replaceExplicitTabs first
    else first
  let sourceLevel := matcher.indentLevel first source.tabSize
  let extraIndent :=
    (List.replicate (matchedIndent - sourceLevel) (matcher.indentUnit target)).flatten
  part.chunks.map (placeChunk matcher path found source target extraIndent)

/-- The loop of `_parse_update_file`. -/
def parseUpdateFile (path : Text) (fileLines : List Text) (target : IndentStyle) :
    Nat → Nat → List Chunk → List Text → Except DiffError (List Chunk × List Text)
  | 0, _, _, _ => .error .outOfFuel
  | fuel + 1, searchIndex, chunks, lines =>
    if isDone [patchSuffix, updateFilePrefix, deleteFilePrefix, addFilePrefix,
        endOfFilePrefix] lines then .ok (chunks, lines)
    else do
      let (sectionLine, lines) ← readEntire chunkDelimiter lines
      let hint := strip (sectionLine.drop chunkDelimiter.length)
      if sectionLine = [] ∧ searchIndex ≠ 0 then
        .error (.invalidLine (lines.headD "<EOF>".toList))
      else do
        let searchIndex :=
          if hint ≠ [] then (matcher.findHint fileLines hint searchIndex).getD searchIndex
          else searchIndex
        let first ← peekNextSection lines 0
        let (part, found) ← findMerged matcher path fileLines lines searchIndex
          (first.fuzzMerges + 1) 0
        parseUpdateFile path fileLines target fuel (found.line + part.context.length)
          (chunks ++ placeSection matcher path fileLines target part found) part.rest

/-- The loop of `_parse_add_file`. -/
def parseAddFile : List Text → List Text → Except DiffError (List Text × List Text)
  | content, [] => .ok (content, [])
  | content, line :: rest =>
    if isDone [patchSuffix, updateFilePrefix, deleteFilePrefix, addFilePrefix]
        (line :: rest) then .ok (content, line :: rest)
    else if ¬startsWith ['+'] line then .error (.invalidAddLine line)
    else parseAddFile (content ++ [line.drop 1]) rest

/-- `"\n".join(lines)`. -/
def joinLines (lines : List Text) : Text :=
  List.intercalate ['\n'] lines

abbrev Actions := List (Text × PatchAction)

scoped instance lawfulText : LawfulBEq Text :=
  inferInstanceAs (LawfulBEq (List Char))

def rejectDuplicate (actions : Actions) (path : Text) : Except DiffError Unit :=
  if path ∈ actions.map Prod.fst then .error (.duplicatePath path) else .ok ()

def parse (currentFiles : List (Text × Text)) :
    Nat → Actions → List Text → Except DiffError Actions
  | 0, _, _ => .error .outOfFuel
  | fuel + 1, actions, lines =>
    if isDone [patchSuffix] lines then
      if lines = [] then .error .missingEnd else .ok actions
    else do
      let (updated, lines) ← readPrefixed updateFilePrefix lines
      if updated ≠ [] then do
        rejectDuplicate actions updated
        let (moveTo, lines) ← readPrefixed moveFileToPrefix lines
        match currentFiles.lookup updated with
        | none => .error (.missingFile updated)
        | some text => do
            let fileLines := text.splitOn '\n'
            let (chunks, lines) ← parseUpdateFile matcher updated fileLines
              (matcher.guessIndentation fileLines none) fuel 0 [] lines
            let movePath := if moveTo = [] then none else some moveTo
            parse currentFiles fuel (actions ++ [(updated, ⟨.update, chunks, none, movePath⟩)])
              lines
      else do
        let (deleted, lines) ← readPrefixed deleteFilePrefix lines
        if deleted ≠ [] then do
          rejectDuplicate actions deleted
          if (currentFiles.lookup deleted).isNone then .error (.missingFile deleted)
          else parse currentFiles fuel (actions ++ [(deleted, ⟨.delete, [], none, none⟩)]) lines
        else do
          let (added, lines) ← readPrefixed addFilePrefix lines
          if added ≠ [] then do
            rejectDuplicate actions added
            if (currentFiles.lookup added).isSome then .error (.fileExists added)
            else do
              let (content, lines) ← parseAddFile [] lines
              parse currentFiles fuel
                (actions ++ [(added, ⟨.add, [], some (joinLines content), none⟩)]) lines
          else .error (.unknownLine (lines.headD "<EOF>".toList))

/-- The loop of `_get_updated_file`. -/
def updateLines (path : Text) (source : List Text) :
    List Chunk → Nat → List Text → Except DiffError (List Text)
  | [], sourceIndex, destination => .ok (destination ++ source.drop sourceIndex)
  | chunk :: rest, sourceIndex, destination =>
    if source.length < chunk.origIndex ∨ chunk.origIndex < sourceIndex then
      .error (.chunkOutOfOrder path)
    else
      updateLines path source rest (chunk.origIndex + chunk.delLines.length)
        (destination ++ (source.take chunk.origIndex).drop sourceIndex ++ chunk.insLines)

def getUpdatedFile (text : Text) (action : PatchAction) (path : Text) :
    Except DiffError Text :=
  joinLines <$> updateLines path (text.splitOn '\n') action.chunks 0 []

def changeOf (currentFiles : List (Text × Text)) (entry : Text × PatchAction) :
    Except DiffError (Text × FileChange) :=
  let old := (currentFiles.lookup entry.1).getD []
  match entry.2.type with
  | .delete => .ok (entry.1, ⟨.delete, some old, none, none⟩)
  | .add => .ok (entry.1, ⟨.add, none, some (entry.2.newFile.getD []), none⟩)
  | .update => do
      let content ← getUpdatedFile old entry.2 entry.1
      return (entry.1, ⟨.update, some old, some content, entry.2.movePath⟩)

/-- The lines that `parse_patch` reads. -/
def parsedLines (text : Text) : List Text :=
  let lines := (strip text).splitOn '\n'
  if lines.getLastD [] = patchSuffix then lines else lines ++ [patchSuffix]

def parsePatch (fuel : Nat) (text : Text) (currentFiles : List (Text × Text)) :
    Except DiffError (List (Text × FileChange)) :=
  if ¬startsWith (patchPrefix ++ ['\n']) text then .error .badStart
  else if ((strip text).splitOn '\n').length < 2 then .error .tooShort
  else if ¬startsWith patchPrefix (((strip text).splitOn '\n').headD []) then .error .badStart
  else do
    let actions ← parse matcher currentFiles fuel [] (parsedLines text).tail
    actions.mapM (changeOf currentFiles)

end Parsing

inductive Header where
  | update
  | delete
  | move
  | add
  deriving DecidableEq

def Header.start : Header → Text
  | .update => updateFilePrefix
  | .delete => deleteFilePrefix
  | .move => moveFileToPrefix
  | .add => addFilePrefix

def scanLine (headers : List Header) (line : Text) : Option Text :=
  (headers.find? fun header => startsWith header.start line).map fun header =>
    line.drop header.start.length

def scan (headers : List Header) (text : Text) : List Text :=
  ((strip text).splitOn '\n').filterMap (scanLine headers)

def identifyFilesAffected (text : Text) : List Text :=
  (scan [.update, .delete, .move, .add] text).eraseDups

def identifyFilesNeeded (text : Text) : List Text :=
  (scan [.update, .delete] text).eraseDups

def identifyFilesAdded (text : Text) : List Text :=
  scan [.add] text

end GraphAgent.PatchParser
