import GraphAgent.Transactions

/-!
# Promotion of workspace configuration

`workspace_state_store`: candidates of a configuration domain, the claim to apply one,
the journal of an apply, the active snapshot, and the events written beside them.  Every
operation is one write transaction; the clock that it reads is its `now`, and the identity
that it generates its `token`.  JSON columns are the texts of `dump_json`.
-/

namespace GraphAgent.ConfigPromotion

/-- `ConfigLifecycleState`. -/
inductive LifecycleState where
  | none
  | candidateValidated
  | pendingRestart
  | applying
  | active
  | rejected
  | discarded
  | conflict
  | recoveryRequired
  deriving DecidableEq

def validStateTransitions : LifecycleState → List LifecycleState
  | .none => [.candidateValidated, .rejected, .conflict]
  | .candidateValidated => [.applying, .pendingRestart, .rejected, .conflict, .discarded]
  | .pendingRestart => [.applying, .pendingRestart, .conflict, .discarded, .recoveryRequired]
  | .applying => [.active, .pendingRestart, .rejected, .conflict, .recoveryRequired]
  | .active => [.candidateValidated, .active, .conflict]
  | .rejected => [.candidateValidated]
  | .discarded => []
  | .conflict => [.candidateValidated, .discarded, .recoveryRequired]
  | .recoveryRequired =>
    [.candidateValidated, .applying, .active, .pendingRestart, .discarded, .recoveryRequired]

inductive JournalState where
  | applying
  | committed
  | failed
  | recoveryRequired
  | compensated
  deriving DecidableEq

structure SourceDetail where
  uri : Option String
  presence : String
  layerRevision : Option Nat
  layerDigest : Option String
  sourceGeneration : Nat
  deriving DecidableEq

abbrev SourceBaseline := List (String × SourceDetail)

/-- A row of `config_source_layers`. -/
structure SourceLayer where
  configKey : String
  uri : Option String
  presence : String
  layerRevision : Nat
  layerDigest : Option String
  sourceGeneration : Nat

/-- A row of `config_pending_candidate`. -/
structure Candidate where
  configDomain : String
  candidateId : String
  idempotencyKey : String
  pendingRevision : Nat
  payload : String
  sourceBaseline : SourceBaseline
  candidateDigest : String
  targetGeneration : Option String
  fencingToken : Option String
  state : LifecycleState
  lastError : Option String
  lastAttemptId : Option String
  lastApplyId : Option String
  candidateRef : Option String
  baseActiveRevision : Option Nat

/-- A row of `config_apply_claim`, under its domain. -/
structure Claim where
  candidateId : String
  attemptId : String
  applyId : String
  owner : String
  baseActiveRevision : Option Nat
  targetGeneration : Option String
  leaseExpiresAt : Nat
  fencingToken : String

/-- A row of `config_apply_journal`, under its apply id. -/
structure Journal where
  configDomain : String
  candidateId : String
  attemptId : String
  owner : String
  baseActiveRevision : Option Nat
  pendingRevision : Option Nat
  sourceBaseline : String
  activeBaseline : String
  sideEffects : List String
  state : JournalState
  lastError : Option String

structure SnapshotContent where
  payload : String
  sourceBaseline : String
  sourceGeneration : Nat
  layerRevisions : String
  layerDigests : String
  effectiveDigest : String
  secretBindings : String
  schemaVersion : Nat
  promotedGeneration : Option String
  promotedApplyId : Option String

/-- A row of `config_active_snapshot`, under its domain. -/
structure Snapshot where
  activeRevision : Nat
  candidateId : Option String
  content : SnapshotContent
  state : LifecycleState
  lastError : Option String

/-- A row of `config_events`. -/
structure Event where
  eventId : String
  configDomain : String
  candidateId : Option String
  applyId : Option String
  idempotencyKey : Option String
  commitRevision : Option Nat
  activeRevision : Option Nat
  pendingRevision : Option Nat
  result : String

structure ConfigStore where
  candidates : List Candidate
  claims : String → Option Claim
  journals : String → Option Journal
  snapshots : String → Option Snapshot
  nextRevision : String → Option Nat
  events : List Event
  sources : List SourceLayer
  tokens : List String
  promoted : List String

def ConfigStore.empty : ConfigStore :=
  ⟨[], fun _ => none, fun _ => none, fun _ => none, fun _ => none, [], [], [], []⟩

inductive ConfigError where
  | invalid
  | transition
  | conflict
  | integrity

def refuseIf (bad : Prop) [Decidable bad] (error : ConfigError) : Except ConfigError Unit :=
  if bad then .error error else .ok ()

@[simp]
theorem refuseIf_bind {Result : Type} {bad : Prop} [Decidable bad] {error : ConfigError}
    {rest : Unit → Except ConfigError Result} {result : Result} :
    (refuseIf bad error >>= rest) = .ok result ↔ ¬bad ∧ rest () = .ok result := by
  rw [refuseIf]
  split
  next holds => exact iff_of_false (fun same => by cases same) fun both => both.1 holds
  next fails => exact (and_iff_right fails).symm

def validateStateTransition (current target : LifecycleState) : Except ConfigError Unit :=
  refuseIf (target ∉ validStateTransitions current) .transition

def write {Row : Type} (table : String → Option Row) (key : String) (row : Option Row) :
    String → Option Row :=
  fun other => if other = key then row else table other

namespace ConfigStore

variable (store : ConfigStore)

def candidate (domain candidateId : String) : Option Candidate :=
  store.candidates.find? fun row => row.configDomain = domain ∧ row.candidateId = candidateId

/-- An update of the candidates that a condition of `WHERE` selects. -/
def updateCandidates (selects : Candidate → Bool) (change : Candidate → Candidate) : ConfigStore :=
  { store with candidates := store.candidates.map fun row => if selects row then change row else row }

def nextConfigRevision (domain : String) : Nat :=
  (store.nextRevision domain).getD 1

def advanceRevision (domain : String) : ConfigStore :=
  { store with
    nextRevision := write store.nextRevision domain (some (store.nextConfigRevision domain + 1)) }

def insertConfigEvent (event : Event) : ConfigStore :=
  if store.events.any fun other => other.eventId = event.eventId ∨
      (other.configDomain = event.configDomain ∧ other.idempotencyKey = event.idempotencyKey ∧
        other.result = event.result ∧ event.idempotencyKey.isSome) then store
  else { store with events := store.events ++ [event] }

def insertEvents (event : Option Event) : ConfigStore :=
  match event with
  | some event => store.insertConfigEvent event
  | none => store

def activeRevision (domain : String) : Option Nat :=
  (store.snapshots domain).map Snapshot.activeRevision

end ConfigStore

structure CreateRequest where
  configDomain : String
  candidateId : String
  idempotencyKey : String
  payload : String
  sourceBaseline : SourceBaseline
  candidateDigest : String
  targetGeneration : Option String
  fencingToken : Option String
  state : LifecycleState
  lastError : Option String
  candidateRef : Option String
  baseActiveRevision : Option Nat
  event : Option Event

/-- The unique index on `candidate_ref`. -/
def refTaken (store : ConfigStore) (candidateRef : Option String) (key : String × String) : Prop :=
  ∃ row ∈ store.candidates, row.candidateRef.isSome ∧ row.candidateRef = candidateRef ∧
    (row.configDomain, row.candidateId) ≠ key

instance (store : ConfigStore) (candidateRef : Option String) (key : String × String) :
    Decidable (refTaken store candidateRef key) :=
  inferInstanceAs (Decidable (∃ row ∈ store.candidates, _))

def createPendingConfigCandidate (request : CreateRequest) (store : ConfigStore) :
    Except ConfigError ConfigStore := do
  refuseIf (request.state ≠ .candidateValidated ∧
    request.state ∉ validStateTransitions .none) .transition
  match store.candidates.find? fun row => row.configDomain = request.configDomain ∧
      row.idempotencyKey = request.idempotencyKey with
  | some existing =>
    refuseIf (existing.candidateId ≠ request.candidateId ∨ existing.payload ≠ request.payload ∨
      existing.candidateDigest ≠ request.candidateDigest ∨
      existing.sourceBaseline ≠ request.sourceBaseline ∨
      (existing.baseActiveRevision.isSome ∧
        existing.baseActiveRevision ≠ request.baseActiveRevision)) .conflict
    if existing.state = request.state then return store.insertEvents request.event
    else do
      validateStateTransition existing.state request.state
      refuseIf (refTaken store request.candidateRef
        (request.configDomain, request.candidateId)) .integrity
      return (store.updateCandidates
        (fun row => row.configDomain = request.configDomain ∧
          row.candidateId = request.candidateId ∧ row.state = existing.state)
        (fun row =>
          { row with
            state := request.state
            lastError := request.lastError
            candidateRef := request.candidateRef.or row.candidateRef })).insertEvents
              request.event
  | none =>
    let revision := store.nextConfigRevision request.configDomain
    refuseIf ((store.candidate request.configDomain request.candidateId).isSome ∨
      refTaken store request.candidateRef (request.configDomain, request.candidateId)) .integrity
    let row : Candidate :=
      { configDomain := request.configDomain
        candidateId := request.candidateId
        idempotencyKey := request.idempotencyKey
        pendingRevision := revision
        payload := request.payload
        sourceBaseline := request.sourceBaseline
        candidateDigest := request.candidateDigest
        targetGeneration := request.targetGeneration
        fencingToken := request.fencingToken
        state := request.state
        lastError := request.lastError
        lastAttemptId := none
        lastApplyId := none
        candidateRef := request.candidateRef
        baseActiveRevision := request.baseActiveRevision }
    let advanced := store.advanceRevision request.configDomain
    let inserted := { advanced with candidates := advanced.candidates ++ [row] }
    return inserted.insertEvents (request.event.map fun event =>
      { event with pendingRevision := event.pendingRevision.or (some revision) })

structure UpdateRequest where
  configDomain : String
  candidateId : String
  expectedState : LifecycleState
  state : LifecycleState
  lastError : Option String
  candidateRef : Option String
  targetGeneration : Option String
  fencingToken : Option String
  event : Option Event

def updatePendingConfigCandidateState (request : UpdateRequest) (store : ConfigStore) :
    Except ConfigError ConfigStore := do
  validateStateTransition request.expectedState request.state
  match store.candidates.find? fun row => row.configDomain = request.configDomain ∧
      row.candidateId = request.candidateId ∧ row.state = request.expectedState with
  | none => .error .conflict
  | some existing =>
    refuseIf (refTaken store request.candidateRef
      (request.configDomain, request.candidateId)) .integrity
    return (store.updateCandidates
      (fun row => row.configDomain = request.configDomain ∧
        row.candidateId = request.candidateId ∧ row.state = request.expectedState)
      (fun row =>
        { row with
          state := request.state
          lastError := request.lastError
          candidateRef := request.candidateRef.or row.candidateRef
          targetGeneration := request.targetGeneration.or row.targetGeneration
          fencingToken := request.fencingToken.or row.fencingToken })).insertEvents
        (request.event.map fun event =>
          { event with
            pendingRevision := event.pendingRevision.or (some existing.pendingRevision) })

structure ClaimRequest where
  configDomain : String
  candidateId : String
  attemptId : String
  applyId : String
  owner : String
  baseActiveRevision : Option Nat
  targetGeneration : Option String
  leaseSeconds : Nat

def ClaimRequest.named (request : ClaimRequest) : Prop :=
  request.configDomain ≠ "" ∧ request.candidateId ≠ "" ∧ request.attemptId ≠ "" ∧
    request.applyId ≠ "" ∧ request.owner ≠ ""

instance (request : ClaimRequest) : Decidable request.named :=
  inferInstanceAs (Decidable (_ ∧ _ ∧ _ ∧ _ ∧ _))

def leasedToOther (existing : Option Claim) (applyId : String) (now : Nat) : Prop :=
  ∃ claim ∈ existing, claim.applyId ≠ applyId ∧ now < claim.leaseExpiresAt

instance (existing : Option Claim) (applyId : String) (now : Nat) :
    Decidable (leasedToOther existing applyId now) :=
  match existing with
  | none => isFalse fun ⟨_, member, _⟩ => by cases member
  | some claim =>
    decidable_of_iff (claim.applyId ≠ applyId ∧ now < claim.leaseExpiresAt)
      ⟨fun held => ⟨claim, rfl, held⟩, fun ⟨_, member, held⟩ => by cases member; exact held⟩

def claimToken (existing : Option Claim) (applyId token : String) : String :=
  match existing with
  | some claim => if claim.applyId = applyId then claim.fencingToken else token
  | none => token

def ClaimRequest.claim (request : ClaimRequest) (now : Nat) (fencingToken : String) : Claim :=
  ⟨request.candidateId, request.attemptId, request.applyId, request.owner,
    request.baseActiveRevision, request.targetGeneration, now + request.leaseSeconds, fencingToken⟩

/-- `acquire_config_apply_claim`; `shared` says that another domain's claim has the apply id. -/
def acquireConfigApplyClaim (request : ClaimRequest) (now : Nat) (token : String) (shared : Bool)
    (store : ConfigStore) : Except ConfigError ConfigStore := do
  refuseIf (request.leaseSeconds = 0 ∨ ¬request.named) .invalid
  let existing := store.claims request.configDomain
  match store.candidate request.configDomain request.candidateId with
  | none => .error .conflict
  | some pending =>
    refuseIf (pending.state ∉ [.candidateValidated, .pendingRestart]) .conflict
    refuseIf (pending.baseActiveRevision.isSome ∧
      request.baseActiveRevision ≠ pending.baseActiveRevision) .conflict
    refuseIf (store.activeRevision request.configDomain ≠ request.baseActiveRevision) .conflict
    refuseIf (leasedToOther existing request.applyId now) .conflict
    refuseIf (shared = true) .integrity
    let fencingToken := claimToken existing request.applyId token
    let claimed :=
      { store with
        claims := write store.claims request.configDomain
          (some (request.claim now fencingToken))
        tokens := token :: store.tokens }
    return claimed.updateCandidates
      (fun row => row.configDomain = request.configDomain ∧ row.candidateId = request.candidateId)
      (fun row =>
        { row with
          fencingToken := some fencingToken
          lastAttemptId := some request.attemptId
          lastApplyId := some request.applyId })

def renewConfigApplyClaim (domain applyId fencingToken : String) (leaseSeconds now : Nat)
    (store : ConfigStore) : Except ConfigError ConfigStore := do
  refuseIf (leaseSeconds = 0) .invalid
  match store.claims domain with
  | none => .error .conflict
  | some claim =>
    refuseIf (claim.applyId ≠ applyId ∨ claim.fencingToken ≠ fencingToken) .conflict
    return { store with
      claims := write store.claims domain
        (some { claim with leaseExpiresAt := now + leaseSeconds }) }

def releaseConfigApplyClaim (domain applyId fencingToken : String) (store : ConfigStore) :
    Except ConfigError ConfigStore :=
  match store.claims domain with
  | none => .error .conflict
  | some claim => do
      refuseIf (claim.applyId ≠ applyId ∨ claim.fencingToken ≠ fencingToken) .conflict
      return { store with claims := write store.claims domain none }

/-- `begin_config_apply`: the claim, the journal and the candidate in one transaction. -/
def beginConfigApply (request : ClaimRequest) (pendingRevision : Nat)
    (sourceBaseline activeBaseline : String) (expectedState : LifecycleState) (now : Nat)
    (token : String) (shared : Bool) (store : ConfigStore) : Except ConfigError ConfigStore := do
  refuseIf (request.leaseSeconds = 0) .invalid
  validateStateTransition expectedState .applying
  refuseIf (¬request.named) .invalid
  let existing := store.claims request.configDomain
  match store.candidate request.configDomain request.candidateId with
  | none => .error .conflict
  | some pending =>
    refuseIf (pending.pendingRevision ≠ pendingRevision ∨ pending.state ≠ expectedState) .conflict
    refuseIf (pending.baseActiveRevision.isSome ∧
      request.baseActiveRevision ≠ pending.baseActiveRevision) .conflict
    refuseIf (store.activeRevision request.configDomain ≠ request.baseActiveRevision) .conflict
    refuseIf (leasedToOther existing request.applyId now) .conflict
    refuseIf (shared = true) .integrity
    let fencingToken := claimToken existing request.applyId token
    let claimed :=
      { store with
        claims := write store.claims request.configDomain
          (some (request.claim now fencingToken))
        tokens := token :: store.tokens }
    let applied := claimed.updateCandidates
      (fun row => row.configDomain = request.configDomain ∧
        row.candidateId = request.candidateId ∧ row.state = expectedState)
      (fun row =>
        { row with
          state := .applying
          fencingToken := some fencingToken
          lastAttemptId := some request.attemptId
          lastApplyId := some request.applyId })
    match store.journals request.applyId with
    | none =>
      return { applied with
        journals := write applied.journals request.applyId
          (some ⟨request.configDomain, request.candidateId, request.attemptId, request.owner,
            request.baseActiveRevision, some pendingRevision, sourceBaseline, activeBaseline, [],
            .applying, none⟩) }
    | some journal =>
      refuseIf (journal.candidateId ≠ request.candidateId ∨
        journal.attemptId ≠ request.attemptId ∨ journal.owner ≠ request.owner ∨
        journal.pendingRevision ≠ some pendingRevision ∨
        journal.sourceBaseline ≠ sourceBaseline ∨
        journal.activeBaseline ≠ activeBaseline) .conflict
      return applied

def startConfigApplyJournal (applyId : String) (journal : Journal) (store : ConfigStore) :
    Except ConfigError ConfigStore := do
  refuseIf (journal.configDomain = "" ∨ applyId = "" ∨ journal.candidateId = "" ∨
    journal.attemptId = "" ∨ journal.owner = "") .invalid
  match store.journals applyId with
  | some _ => return store
  | none =>
    return { store with
      journals := write store.journals applyId
        (some { journal with sideEffects := [], state := .applying, lastError := none }) }

/-- `update_config_apply_journal`, of which the recovery of journals is one for each row. -/
def updateConfigApplyJournal (applyId : String) (expectedState state : JournalState)
    (sideEffects : Option (List String)) (lastError : Option String) (store : ConfigStore) :
    Except ConfigError ConfigStore :=
  match store.journals applyId with
  | none => .error .conflict
  | some journal => do
      refuseIf (journal.state ≠ expectedState) .conflict
      return { store with
        journals := write store.journals applyId
          (some { journal with
            state
            lastError
            sideEffects := sideEffects.getD journal.sideEffects }) }

def appendConfigApplySideEffect (applyId sideEffect : String) (expectedState : JournalState)
    (store : ConfigStore) : Except ConfigError ConfigStore :=
  match store.journals applyId with
  | none => .error .conflict
  | some journal => do
      refuseIf (journal.state ≠ expectedState) .conflict
      return { store with
        journals := write store.journals applyId
          (some { journal with
            sideEffects :=
              if sideEffect ∈ journal.sideEffects then journal.sideEffects
              else journal.sideEffects ++ [sideEffect] }) }

/-- `record_config_apply_compensation`; `succeeded` is its status, `entry` what is recorded. -/
def recordConfigApplyCompensation (applyId entry : String) (succeeded : Bool)
    (error : String) (expectedState : JournalState) (store : ConfigStore) :
    Except ConfigError ConfigStore :=
  match store.journals applyId with
  | none => .error .conflict
  | some journal =>
    if journal.state = .compensated ∧ entry ∈ journal.sideEffects then .ok store
    else do
      refuseIf (journal.state ≠ expectedState) .conflict
      return { store with
        journals := write store.journals applyId
          (some { journal with
            state := if succeeded then .compensated else .recoveryRequired
            sideEffects :=
              if entry ∈ journal.sideEffects then journal.sideEffects
              else journal.sideEffects ++ [entry]
            lastError := if succeeded then none else some error }) }

def recoverExpiredConfigApplies (domain error : String) (now : Nat) (store : ConfigStore) :
    ConfigStore :=
  let abandoned (row : Candidate) : Bool :=
    row.configDomain = domain ∧ row.state = .applying ∧
      ¬∃ claim ∈ store.claims domain, claim.candidateId = row.candidateId ∧
        now < claim.leaseExpiresAt
  let candidateIds := (store.candidates.filter abandoned).map Candidate.candidateId
  if candidateIds = [] then store
  else
    let recovered := store.updateCandidates
      (fun row => row.configDomain = domain ∧ row.candidateId ∈ candidateIds ∧
        row.state = .applying)
      (fun row => { row with state := .recoveryRequired, lastError := some error })
    { recovered with
      journals := fun applyId => (store.journals applyId).map fun journal =>
        if journal.configDomain = domain ∧ journal.candidateId ∈ candidateIds ∧
            journal.state = .applying then
          { journal with state := .recoveryRequired, lastError := some error }
        else journal
      claims :=
        if ∃ claim ∈ store.claims domain, claim.leaseExpiresAt ≤ now then
          write store.claims domain none
        else store.claims }

def markActiveConfigSnapshotRecoveryRequired (domain error : String) (store : ConfigStore) :
    Except ConfigError ConfigStore :=
  match store.snapshots domain with
  | none => .error .conflict
  | some snapshot => do
      refuseIf (error = "") .invalid
      return { store with
        snapshots := write store.snapshots domain
          (some { snapshot with state := .recoveryRequired, lastError := some error }) }

abbrev sourcesMatch (sources : List SourceLayer) (baseline : SourceBaseline) : Prop :=
  let expected := baseline.filter fun entry => entry.2.layerRevision.isSome
  (∀ layer ∈ sources, layer.configKey ∈ expected.map Prod.fst) ∧
    (∀ key ∈ expected.map Prod.fst, key ∈ sources.map SourceLayer.configKey) ∧
    ∀ layer ∈ sources, ∀ detail ∈ expected.lookup layer.configKey,
      detail.uri = layer.uri ∧ detail.presence = layer.presence ∧
        detail.layerRevision = some layer.layerRevision ∧
        detail.layerDigest = layer.layerDigest ∧
        detail.sourceGeneration = layer.sourceGeneration

structure PromoteRequest where
  configDomain : String
  candidateId : String
  content : SnapshotContent
  expectedActiveRevision : Option Nat
  expectedSourceGeneration : Option Nat
  expectedSourceBaseline : Option SourceBaseline
  expectedLayerRevisions : List (String × Nat)
  expectedLayerDigests : List (String × Option String)
  expectedPendingRevision : Option Nat
  expectedPendingState : Option LifecycleState
  expectedFencingToken : Option String
  event : Option Event

namespace PromoteRequest

variable (request : PromoteRequest) (store : ConfigStore)

def currentSourceGeneration : Nat :=
  let keys := request.expectedLayerRevisions.map Prod.fst
  ((store.sources.filter fun layer => layer.configKey ∈ keys).map
    SourceLayer.sourceGeneration).foldl max 0

def pending : Option Candidate :=
  store.candidate request.configDomain request.candidateId

abbrev RevisionHolds : Prop :=
  store.activeRevision request.configDomain = request.expectedActiveRevision

abbrev GenerationHolds : Prop :=
  ∀ expected ∈ request.expectedSourceGeneration, request.currentSourceGeneration store = expected

abbrev BaselineHolds : Prop :=
  ∀ baseline ∈ request.expectedSourceBaseline, sourcesMatch store.sources baseline

abbrev LayersHold : Prop :=
  ∀ entry ∈ request.expectedLayerRevisions,
    ∃ layer ∈ store.sources, layer.configKey = entry.1 ∧ layer.layerRevision = entry.2 ∧
      ∀ digest ∈ request.expectedLayerDigests.lookup entry.1, layer.layerDigest = digest

abbrev PendingRevisionHolds : Prop :=
  ∀ expected ∈ request.expectedPendingRevision,
    (request.pending store).map Candidate.pendingRevision = some expected

abbrev PendingStateHolds : Prop :=
  ∀ expected ∈ request.expectedPendingState,
    (request.pending store).map Candidate.state = some expected

abbrev TokenHolds : Prop :=
  ∀ expected ∈ request.expectedFencingToken,
    (store.claims request.configDomain).map
      (fun claim => (claim.fencingToken, claim.candidateId)) = some (expected, request.candidateId)

def snapshot (revision : Nat) : Snapshot :=
  match store.snapshots request.configDomain with
  | none => ⟨revision, some request.candidateId, request.content, .active, none⟩
  | some old =>
    { old with
      activeRevision := revision
      candidateId := some request.candidateId
      content := request.content }

end PromoteRequest

def activatePending (request : PromoteRequest) (store : ConfigStore) :
    Except ConfigError ConfigStore :=
  match request.pending store, request.expectedPendingState with
  | some _, some expected => do
      validateStateTransition expected .active
      return store.updateCandidates
        (fun row => row.configDomain = request.configDomain ∧
          row.candidateId = request.candidateId ∧ row.state = expected)
        (fun row => { row with state := .active, lastError := none })
  | _, _ => .ok store

def commitJournal (promotedApplyId : Option String) (store : ConfigStore) :
    Except ConfigError ConfigStore :=
  match promotedApplyId with
  | none => .ok store
  | some applyId =>
    match store.journals applyId with
    | none => .error .conflict
    | some journal => do
        refuseIf (journal.state ≠ .applying) .conflict
        return { store with
          journals := write store.journals applyId
            (some { journal with state := .committed, lastError := none })
          promoted := applyId :: store.promoted }

def promoteActiveConfigSnapshot (request : PromoteRequest) (store : ConfigStore) :
    Except ConfigError ConfigStore := do
  refuseIf (¬request.RevisionHolds store) .conflict
  refuseIf (¬request.GenerationHolds store) .conflict
  refuseIf (¬request.BaselineHolds store) .conflict
  refuseIf (¬request.LayersHold store) .conflict
  refuseIf (¬request.PendingRevisionHolds store) .conflict
  refuseIf (¬request.PendingStateHolds store) .conflict
  refuseIf (¬request.TokenHolds store) .conflict
  let revision := store.nextConfigRevision request.configDomain
  let advanced := store.advanceRevision request.configDomain
  let promoted :=
    { advanced with
      snapshots := write advanced.snapshots request.configDomain
        (some (request.snapshot store revision)) }
  let activated ← activatePending request promoted
  commitJournal request.content.promotedApplyId
    (activated.insertEvents (request.event.map fun event =>
      { event with
        commitRevision := event.commitRevision.or (some revision)
        activeRevision := event.activeRevision.or (some revision) }))

def workspace : String := "workspace"

def candidateOfRef (store : ConfigStore) (candidateRef : String) : Option Candidate :=
  store.candidates.find? fun row =>
    row.configDomain = workspace ∧ row.candidateRef = some candidateRef

def retryPendingConfigRestart (candidateRef targetGeneration token : String) (now : Nat)
    (store : ConfigStore) : Except ConfigError ConfigStore := do
  refuseIf (candidateRef = "" ∨ targetGeneration = "") .invalid
  match candidateOfRef store candidateRef with
  | none => .error .conflict
  | some pending =>
    refuseIf (pending.state ∉ [.pendingRestart, .recoveryRequired]) .conflict
    refuseIf (store.activeRevision workspace ≠ pending.baseActiveRevision) .conflict
    refuseIf (∃ claim ∈ store.claims workspace, now < claim.leaseExpiresAt) .conflict
    let released :=
      { store with
        claims := write store.claims workspace none
        tokens := token :: store.tokens }
    return released.updateCandidates
      (fun row => row.configDomain = workspace ∧ row.candidateRef = some candidateRef ∧
        row.state ∈ [.pendingRestart, .recoveryRequired])
      (fun row =>
        { row with
          state := .pendingRestart
          targetGeneration := some targetGeneration
          fencingToken := some token
          lastError := none })

structure DiscardRequest where
  candidateRef : String
  expectedActiveRevision : Nat
  expectedActiveDigest : String
  expectedSourceBaseline : SourceBaseline
  event : Option Event
  reason : String

def settleJournal (applyId : Option String) (reason : String) (store : ConfigStore) :
    Except ConfigError ConfigStore :=
  match applyId with
  | none => .ok store
  | some applyId =>
    match store.journals applyId with
    | none => .ok store
    | some journal => do
        refuseIf (journal.sideEffects ≠ [] ∧ journal.state ≠ .compensated) .conflict
        if journal.state ∈ [.applying, .failed, .recoveryRequired] then
          return { store with
            journals := write store.journals applyId
              (some { journal with state := .compensated, lastError := some reason }) }
        else return store

def discardPendingConfigCandidate (request : DiscardRequest) (store : ConfigStore) :
    Except ConfigError ConfigStore := do
  refuseIf (request.candidateRef = "" ∨ request.expectedActiveDigest = "" ∨
    request.reason = "") .invalid
  match candidateOfRef store request.candidateRef with
  | none => .error .conflict
  | some pending =>
    if pending.state = .discarded then return store
    else do
      refuseIf (pending.state ∉ [.pendingRestart, .recoveryRequired]) .conflict
      refuseIf ((store.snapshots workspace).map (fun snapshot =>
        (snapshot.state, snapshot.activeRevision, snapshot.content.effectiveDigest)) ≠
          some (.active, request.expectedActiveRevision, request.expectedActiveDigest)) .conflict
      refuseIf ((store.claims workspace).isSome) .conflict
      refuseIf (pending.sourceBaseline ≠ request.expectedSourceBaseline) .conflict
      refuseIf (¬sourcesMatch store.sources request.expectedSourceBaseline) .conflict
      let settled ← settleJournal pending.lastApplyId request.reason store
      validateStateTransition pending.state .discarded
      return (settled.updateCandidates
        (fun row => row.configDomain = workspace ∧
          row.candidateRef = some request.candidateRef ∧ row.state = pending.state ∧
          row.pendingRevision = pending.pendingRevision)
        (fun row =>
          { row with state := .discarded, lastError := some request.reason })).insertEvents
            (request.event.map fun event =>
              { event with
                pendingRevision := event.pendingRevision.or (some pending.pendingRevision) })

/-- A write transaction of some owner, or a change of the source layers by another part. -/
inductive Command where
  | create (request : CreateRequest)
  | update (request : UpdateRequest)
  | acquire (request : ClaimRequest) (now : Nat) (token : String) (shared : Bool)
  | begin (request : ClaimRequest) (pendingRevision : Nat) (sourceBaseline activeBaseline : String)
      (expectedState : LifecycleState) (now : Nat) (token : String) (shared : Bool)
  | renew (domain applyId fencingToken : String) (leaseSeconds now : Nat)
  | release (domain applyId fencingToken : String)
  | startJournal (applyId : String) (journal : Journal)
  | updateJournal (applyId : String) (expectedState state : JournalState)
      (sideEffects : Option (List String)) (lastError : Option String)
  | appendSideEffect (applyId sideEffect : String) (expectedState : JournalState)
  | compensate (applyId entry : String) (succeeded : Bool) (error : String)
      (expectedState : JournalState)
  | recoverExpired (domain error : String) (now : Nat)
  | markSnapshot (domain error : String)
  | promote (request : PromoteRequest)
  | retry (candidateRef targetGeneration token : String) (now : Nat)
  | discard (request : DiscardRequest)
  | changeSources (sources : List SourceLayer)

def Command.transaction (store : ConfigStore) : Command → Except ConfigError ConfigStore
  | .create request => createPendingConfigCandidate request store
  | .update request => updatePendingConfigCandidateState request store
  | .acquire request now token shared => acquireConfigApplyClaim request now token shared store
  | .begin request revision source active expected now token shared =>
    beginConfigApply request revision source active expected now token shared store
  | .renew domain applyId fencingToken leaseSeconds now =>
    renewConfigApplyClaim domain applyId fencingToken leaseSeconds now store
  | .release domain applyId fencingToken =>
    releaseConfigApplyClaim domain applyId fencingToken store
  | .startJournal applyId journal => startConfigApplyJournal applyId journal store
  | .updateJournal applyId expected state sideEffects lastError =>
    updateConfigApplyJournal applyId expected state sideEffects lastError store
  | .appendSideEffect applyId sideEffect expected =>
    appendConfigApplySideEffect applyId sideEffect expected store
  | .compensate applyId entry succeeded error expected =>
    recordConfigApplyCompensation applyId entry succeeded error expected store
  | .recoverExpired domain error now => .ok (recoverExpiredConfigApplies domain error now store)
  | .markSnapshot domain error => markActiveConfigSnapshotRecoveryRequired domain error store
  | .promote request => promoteActiveConfigSnapshot request store
  | .retry candidateRef targetGeneration token now =>
    retryPendingConfigRestart candidateRef targetGeneration token now store
  | .discard request => discardPendingConfigCandidate request store
  | .changeSources sources => .ok { store with sources }

def Command.token : Command → Option String
  | .acquire _ _ token _ | .begin _ _ _ _ _ _ token _ | .retry _ _ token _ => some token
  | _ => none

/-- A transaction that raises is rolled back; a generated identity is a new one. -/
def step (store : ConfigStore) (command : Command) : ConfigStore :=
  if ∃ token ∈ command.token, token ∈ store.tokens then store
  else
    match command.transaction store with
    | .ok after => after
    | .error _ => store

def run (store : ConfigStore) (commands : List Command) : ConfigStore :=
  commands.foldl step store

end GraphAgent.ConfigPromotion
