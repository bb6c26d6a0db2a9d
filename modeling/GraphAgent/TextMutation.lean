import GraphAgent.TextReceipts

/-!
# Executing a text mutation

`text_mutation.execute_text_mutation` from resolved targets on, and the steps that
`text_patch/executor.py` prepares from a patch: what is captured and checked before
anything is published, and the receipt.
-/

namespace GraphAgent.TextMutation

open Terminal JsonText PercentText

structure Target where
  name : String
  uri : String
  realPath : String
  expectedVersion : Text

inductive Refusal where
  | sameFile
  | invalidVersion (name : String)
  | tooLarge (uri : String)
  | binary (uri : String)
  | invalidEncoding (uri : String)
  | outputLimit
  | versionConflict (uri : String)
  | touchedTwice (uri : String)
  | unchanged
  | missing (name : String)
  | notAbsent (uri : String)

/-- `if bad: raise`. -/
def refuseIf (bad : Prop) [Decidable bad] (refusal : Refusal) : Except Refusal Unit :=
  if bad then .error refusal else .ok ()

@[simp]
theorem refuseIf_ok (bad : Prop) [Decidable bad] (refusal : Refusal) (done : Unit) :
    refuseIf bad refusal = .ok done ↔ ¬bad := by
  rw [refuseIf]
  split <;> simp_all

theorem refuseIf_bind {Result : Type} {bad : Prop} [Decidable bad] {refusal : Refusal}
    {rest : Unit → Except Refusal Result} {result : Result} :
    (refuseIf bad refusal >>= rest) = .ok result ↔ ¬bad ∧ rest () = .ok result := by
  rw [refuseIf]
  split
  next holds => exact ⟨nofun, fun both => absurd holds both.1⟩
  next fails => exact ⟨fun rest => ⟨fails, rest⟩, fun both => both.2⟩

/-- `_VERSION.fullmatch`. -/
def isVersion (version : Text) : Bool :=
  version == "absent".toList ||
    ("sha256:".toList.isPrefixOf version && version.length == 71 &&
      (version.drop 7).all fun char => Sha256.hexDigits.contains char)

def decodeFile (uri : String) (file : Option FilePreimage) : Except Refusal Text :=
  match file with
  | none => .ok []
  | some file =>
    match decodeUtf8 file.content with
    | none => .error (.invalidEncoding uri)
    | some text => .ok text

/-- `_capture_snapshots`, from the bytes that are captured so far. -/
def captureSnapshots (files : Files) (maxBytes : Option Nat) :
    Nat → List Target → Except Refusal (List (String × FileSnapshot))
  | _, [] => .ok []
  | captured, target :: rest => do
      refuseIf (¬isVersion target.expectedVersion) (.invalidVersion target.name)
      let snapshot : FileSnapshot := ⟨target.uri, target.realPath, files target.realPath⟩
      let limit := (maxBytes.map (min maxFileBytes ·)).getD maxFileBytes
      refuseIf (snapshot.before.any fun file => limit < file.content.length)
        (.tooLarge target.uri)
      refuseIf (snapshot.before.any fun file => file.content.contains 0) (.binary target.uri)
      let text ← decodeFile target.uri snapshot.before
      let captured := captured + byteLength (quoted text) + byteLength target.uri.toList + 128
      refuseIf (maxBytes.any (· < captured)) .outputLimit
      refuseIf (snapshot.version ≠ target.expectedVersion) (.versionConflict target.uri)
      let others ← captureSnapshots files maxBytes captured rest
      return (target.name, snapshot) :: others

def checkSteps : List String → List TextPublication → Except Refusal Unit
  | _, [] => .ok ()
  | touched, step :: rest => do
      refuseIf (step.snapshot.uri ∈ touched) (.touchedTwice step.snapshot.uri)
      refuseIf (step.content.any fun content =>
          maxFileBytes < content.length || content.contains 0) (.tooLarge step.snapshot.uri)
      checkSteps (step.snapshot.uri :: touched) rest

/-- `text.replace("\r\n", "\n").replace("\r", "\n")`. -/
def normalizeNewlines : Text → Text
  | [] => []
  | '\r' :: '\n' :: rest => '\n' :: normalizeNewlines rest
  | '\r' :: rest => '\n' :: normalizeNewlines rest
  | char :: rest => char :: normalizeNewlines rest

/-- A list as `json.dumps(..., ensure_ascii=False)` separates it. -/
def spacedList (parts : List Text) : Text :=
  '[' :: List.intercalate ", ".toList parts ++ [']']

/-- An object as `json.dumps(..., ensure_ascii=False)` separates it. -/
def spacedObject (entries : List (String × Text)) : Text :=
  '\x7b' :: List.intercalate ", ".toList
    (entries.map fun entry => quoted entry.1.toList ++ ": ".toList ++ entry.2) ++ ['\x7d']

def recordText (snapshot : FileSnapshot) (text : Text) : Text :=
  spacedObject
    [("uri", quoted snapshot.uri.toList),
      ("before_exists", if snapshot.before.isSome then "true".toList else "false".toList),
      ("before_content", quoted (normalizeNewlines text))]

def plannedText (step : TextPublication) (text : Text) : Text :=
  spacedObject [("uri", quoted step.snapshot.uri.toList), ("after_content", quoted text)]

def decodeContent (step : TextPublication) : Except Refusal Text :=
  match step.content with
  | none => .ok []
  | some content =>
    match decodeUtf8 content with
    | none => .error (.invalidEncoding step.snapshot.uri)
    | some text => .ok text

/-- The journal has room for the originals, the results and the receipt. -/
def checkJournal (snapshots : List (String × FileSnapshot)) (steps : List TextPublication)
    (limit : Nat) : Except Refusal Unit := do
  let records ← snapshots.mapM fun entry =>
    (recordText entry.2 ·) <$> decodeFile entry.2.uri entry.2.before
  let planned ← steps.mapM fun step => (plannedText step ·) <$> decodeContent step
  refuseIf (limit < byteLength (spacedList [spacedList records, spacedList planned]) +
      4096 * steps.length) .outputLimit

def changes (step : TextPublication) : Bool :=
  step.snapshot.before.map FilePreimage.content != step.content

structure Outcome where
  steps : List TextPublication
  loop : PublishLoop
  publications : List Publication
  failure : Option PublicationError
  effect : Effect

def executeTextMutation (files : Files) (targets : List Target)
    (prepare : List (String × FileSnapshot) → Except Refusal (List TextPublication))
    (maxJournalBytes : Option Nat) (faults : Nat → Option Fault) : Except Refusal Outcome := do
  refuseIf (¬(targets.map Target.realPath).Nodup) .sameFile
  let snapshots ← captureSnapshots files maxJournalBytes 0 targets
  let steps ← prepare snapshots
  checkSteps [] steps
  refuseIf (¬steps.any changes) .unchanged
  maxJournalBytes.toList.forM (checkJournal snapshots steps)
  let (loop, publications, failure) := publishSteps faults files steps maxJournalBytes
  return ⟨steps, loop, publications, failure, effectOf (publications.map Publication.state)⟩

inductive ActionType where
  | add
  | delete
  | update
  deriving DecidableEq

def ActionType.value : ActionType → String
  | .add => "add"
  | .delete => "delete"
  | .update => "update"

structure FileChange where
  type : ActionType
  newContent : Option Text
  movePath : Option String

/-- `data.replace(first + second, replacement)` of two symbols that differ. -/
def replacePair {Symbol : Type} [DecidableEq Symbol] (first second : Symbol)
    (replacement : List Symbol) : List Symbol → List Symbol
  | [] => []
  | [symbol] => [symbol]
  | symbol :: next :: rest =>
    if symbol = first ∧ next = second then
      replacement ++ replacePair first second replacement rest
    else symbol :: replacePair first second replacement (next :: rest)

/-- `first + second in data`. -/
def hasPair {Symbol : Type} [DecidableEq Symbol] (first second : Symbol) : List Symbol → Bool
  | symbol :: next :: rest =>
    (symbol = first && next = second) || hasPair first second (next :: rest)
  | _ => false

/-- `_line_ending` is `"\r\n"`: there is one, and no `"\n"` besides. -/
def endsWithCarriage (before : Option FilePreimage) : Bool :=
  before.any fun file =>
    hasPair 13 10 file.content &&
      !(replacePair 13 10 [] file.content).contains 10

/-- `text.replace(_line_ending(before), "\n")`, which the patch is matched against. -/
def readText (before : Option FilePreimage) (text : Text) : Text :=
  if endsWithCarriage before then replacePair '\r' '\n' ['\n'] text else text

/-- `text.replace("\n", _line_ending(before))`. -/
def withLineEnding (before : Option FilePreimage) (text : Text) : Text :=
  if endsWithCarriage before then
    text.flatMap fun char => if char = '\n' then ['\r', '\n'] else [char]
  else text

def snapshotNamed (snapshots : List (String × FileSnapshot)) (name : String) :
    Except Refusal FileSnapshot :=
  match snapshots.find? (·.1 = name) with
  | none => .error (.missing name)
  | some entry => .ok entry.2

def prepareChange (snapshots : List (String × FileSnapshot)) (name : String)
    (change : FileChange) : Except Refusal (List TextPublication) := do
  let source ← snapshotNamed snapshots name
  let content := encodeUtf8 (withLineEnding source.before (change.newContent.getD []))
  if change.type = .delete then return [⟨source, none, "delete", none⟩]
  else
    match change.movePath.filter (· ≠ "") with
    | some movePath => do
        let destination ← snapshotNamed snapshots movePath
        return [⟨destination, some content, "move", source.before.map FilePreimage.mode⟩,
          ⟨source, none, "move", none⟩]
    | none => return [⟨source, some content, change.type.value, none⟩]

def prepareSteps (commit : List (String × FileChange))
    (snapshots : List (String × FileSnapshot)) : Except Refusal (List TextPublication) := do
  let steps ← commit.mapM fun entry => prepareChange snapshots entry.1 entry.2
  return steps.flatten

end GraphAgent.TextMutation
