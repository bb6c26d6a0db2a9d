import GraphAgent.PercentText
import GraphAgent.Transactions

/-!
# Publishing text files one by one

`workspace_files/text_publication.py` and the loop of
`text_mutation._publish_steps`: files are replaced by a rename or unlinked, a step
may fail before its effect, after it, or without its result being known, and what
became of each file is told afterwards from what is read.
-/

namespace GraphAgent.TextMutation

open Terminal

structure FilePreimage where
  content : Bytes
  mode : Nat
  deriving DecidableEq

def FilePreimage.contentHash (file : FilePreimage) : Text :=
  "sha256:".toList ++ Sha256.hexdigest file.content

abbrev Files := String → Option FilePreimage

def Files.write (files : Files) (path : String) (file : Option FilePreimage) : Files :=
  fun other => if other = path then file else files other

@[simp]
theorem Files.write_self (files : Files) (path : String) (file : Option FilePreimage) :
    files.write path file path = file :=
  if_pos rfl

theorem Files.write_other (files : Files) {path other : String} (file : Option FilePreimage)
    (distinct : other ≠ path) : files.write path file other = files other :=
  if_neg distinct

structure FileSnapshot where
  uri : String
  realPath : String
  before : Option FilePreimage

def versionOf : Option FilePreimage → Text
  | none => "absent".toList
  | some file => file.contentHash

def FileSnapshot.version (snapshot : FileSnapshot) : Text :=
  versionOf snapshot.before

structure TextPublication where
  snapshot : FileSnapshot
  content : Option Bytes
  operation : String
  mode : Option Nat

inductive PublicationError where
  | os
  | conflict (reference : String)
  | missingSource (reference : String)
  | unverified (reference : String) (expectedHash : Text) (observedHash : Option Text)

inductive Fault where
  | before
  | after
  | unverified (left : Option FilePreimage)
  deriving DecidableEq

def requireFilePreimage (files : Files) (path : String) (before : Option FilePreimage)
    (reference : String) : Except PublicationError Unit :=
  match before, files path with
  | none, none => .ok ()
  | none, some _ => .error (.conflict reference)
  | some _, none => .error (.conflict reference)
  | some before, some latest =>
    if latest.content = before.content then .ok () else .error (.conflict reference)

/-- The mode of a file that `mkstemp` creates. -/
def temporaryMode : Nat := 0o600

def publishFileContent (fault : Option Fault) (files : Files) (path : String) (content : Bytes)
    (before : Option FilePreimage) (reference : String) (mode : Option Nat) :
    Files × Except PublicationError Unit :=
  if fault = some .before then (files, .error .os)
  else
    match requireFilePreimage files path before reference with
    | .error error => (files, .error error)
    | .ok () =>
      let publishMode := (before.map FilePreimage.mode).or mode
      let expected := "sha256:".toList ++ Sha256.hexdigest content
      match fault with
      | some (.unverified left) =>
        (files.write path left, .error (.unverified reference expected none))
      | some _ =>
        (files.write path (some ⟨content, publishMode.getD temporaryMode⟩), .error .os)
      | none => (files.write path (some ⟨content, publishMode.getD temporaryMode⟩), .ok ())

def deleteFileContent (fault : Option Fault) (files : Files) (path : String)
    (before : FilePreimage) (reference : String) : Files × Except PublicationError Unit :=
  if fault = some .before then (files, .error .os)
  else
    match requireFilePreimage files path (some before) reference with
    | .error error => (files, .error error)
    | .ok () =>
      match fault with
      | some (.unverified left) =>
        (files.write path left, .error (.unverified reference "absent".toList none))
      | some _ => (files.write path none, .error .os)
      | none => (files.write path none, .ok ())

/-- One step of the loop of `_publish_steps`. -/
def publishStep (fault : Option Fault) (files : Files) (step : TextPublication) :
    Files × Except PublicationError Unit :=
  match step.content with
  | none =>
    match step.snapshot.before with
    | none => (files, .error (.missingSource step.snapshot.uri))
    | some before =>
      deleteFileContent fault files step.snapshot.realPath before step.snapshot.uri
  | some content =>
    publishFileContent fault files step.snapshot.realPath content step.snapshot.before
      step.snapshot.uri step.mode

structure PublishLoop where
  files : Files
  attempted : Nat
  failure : Option PublicationError
  confirmed : List Nat
  unverified : List Nat

def PublishLoop.init (files : Files) : PublishLoop :=
  ⟨files, 0, none, [], []⟩

def isUnverified : PublicationError → Bool
  | .unverified .. => true
  | _ => false

def publishLoop (faults : Nat → Option Fault) (loop : PublishLoop) :
    List TextPublication → PublishLoop
  | [] => loop
  | step :: rest =>
    match publishStep (faults loop.attempted) loop.files step with
    | (files, .ok ()) =>
      publishLoop faults
        { loop with
          files := files
          attempted := loop.attempted + 1
          confirmed := loop.confirmed ++ [loop.attempted] } rest
    | (files, .error error) =>
      { loop with
        files := files
        attempted := loop.attempted + 1
        failure := some error
        unverified :=
          if isUnverified error then loop.unverified ++ [loop.attempted]
          else loop.unverified }

inductive PublicationState where
  | notAttempted
  | unknown
  | published
  | notPublished
  deriving DecidableEq

structure Publication where
  path : String
  operation : String
  state : PublicationState
  expectedVersion : Text
  intendedVersion : Text
  isPresent : Option Bool
  contentHash : Option Text

def maxFileBytes : Nat := 33554432

/-- `_observe`, when nothing but the size stands in its way. -/
def observe (files : Files) (snapshot : FileSnapshot) (maxBytes : Option Nat) :
    Option (Option FilePreimage) :=
  match files snapshot.realPath with
  | none => some none
  | some file =>
    if file.content.length ≤ (maxBytes.map (min maxFileBytes ·)).getD maxFileBytes then
      some (some file)
    else none

def intendedVersion (step : TextPublication) : Text :=
  match step.content with
  | none => "absent".toList
  | some content => "sha256:".toList ++ Sha256.hexdigest content

def publicationState (loop : PublishLoop) (index : Nat) (step : TextPublication)
    (observed : Option Text) : PublicationState :=
  if loop.attempted ≤ index then .notAttempted
  else
    match observed with
    | none => .unknown
    | some observed =>
      if observed = intendedVersion step then
        if index ∈ loop.confirmed then .published else .unknown
      else if observed = step.snapshot.version ∧ index ∉ loop.confirmed ∧
          index ∉ loop.unverified then .notPublished
      else .unknown

/-- The second loop of `_publish_steps`, from an index and with the budget left. -/
def reportSteps (loop : PublishLoop) : Nat → Option Nat → Option PublicationError →
    List TextPublication → List Publication × Option PublicationError
  | _, _, failure, [] => ([], failure)
  | index, budget, failure, step :: rest =>
    let after := observe loop.files step.snapshot budget
    let length := ((after.getD none).map fun file => file.content.length).getD 0
    let observed := after.map versionOf
    let state := publicationState loop index step observed
    let failure :=
      if index < loop.attempted ∧ state ≠ .published ∧ failure = none then
        some (.unverified step.snapshot.uri (intendedVersion step) observed)
      else failure
    let publication : Publication :=
      { path := step.snapshot.uri
        operation := step.operation
        state := state
        expectedVersion := step.snapshot.version
        intendedVersion := intendedVersion step
        isPresent := observed.map fun observed => observed ≠ "absent".toList
        contentHash := observed.filter fun observed => observed ≠ "absent".toList }
    let reported := reportSteps loop (index + 1) (budget.map (· - length)) failure rest
    (publication :: reported.1, reported.2)

def publishSteps (faults : Nat → Option Fault) (files : Files) (steps : List TextPublication)
    (observationBudget : Option Nat) :
    PublishLoop × List Publication × Option PublicationError :=
  let loop := publishLoop faults (PublishLoop.init files) steps
  (loop, reportSteps loop 0 observationBudget loop.failure steps)

inductive Effect where
  | unknown
  | completed
  | partly
  | notExecuted
  deriving DecidableEq

def effectOf (states : List PublicationState) : Effect :=
  if .unknown ∈ states then .unknown
  else if states ≠ [] ∧ ∀ state ∈ states, state = .published then .completed
  else if .published ∈ states then .partly
  else .notExecuted

end GraphAgent.TextMutation
