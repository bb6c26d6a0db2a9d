import GraphAgent.ConfigPromotion
import Mathlib.Logic.Relation

/-!
# What the write transactions of configuration do

Each transaction moves candidates along the lifecycle, keeps the ends of journals, and
leaves the active snapshot alone unless it is a promotion whose expectations hold.
-/

namespace GraphAgent.ConfigPromotion

open Transaction

section Tables

variable (store : ConfigStore) (event : Option Event) (selects : Candidate → Bool)
  (change : Candidate → Candidate)

theorem insertEvents_eq : ∃ events, store.insertEvents event = { store with events } := by
  cases event with
  | none => exact ⟨store.events, rfl⟩
  | some event =>
    simp only [ConfigStore.insertEvents, ConfigStore.insertConfigEvent]
    split
    · exact ⟨store.events, rfl⟩
    · exact ⟨store.events ++ [event], rfl⟩

@[simp]
theorem insertEvents_candidates : (store.insertEvents event).candidates = store.candidates := by
  obtain ⟨events, same⟩ := insertEvents_eq store event
  rw [same]

@[simp]
theorem insertEvents_claims : (store.insertEvents event).claims = store.claims := by
  obtain ⟨events, same⟩ := insertEvents_eq store event
  rw [same]

@[simp]
theorem insertEvents_journals : (store.insertEvents event).journals = store.journals := by
  obtain ⟨events, same⟩ := insertEvents_eq store event
  rw [same]

@[simp]
theorem insertEvents_snapshots : (store.insertEvents event).snapshots = store.snapshots := by
  obtain ⟨events, same⟩ := insertEvents_eq store event
  rw [same]

@[simp]
theorem insertEvents_nextRevision :
    (store.insertEvents event).nextRevision = store.nextRevision := by
  obtain ⟨events, same⟩ := insertEvents_eq store event
  rw [same]

@[simp]
theorem insertEvents_tokens : (store.insertEvents event).tokens = store.tokens := by
  obtain ⟨events, same⟩ := insertEvents_eq store event
  rw [same]

@[simp]
theorem insertEvents_promoted : (store.insertEvents event).promoted = store.promoted := by
  obtain ⟨events, same⟩ := insertEvents_eq store event
  rw [same]

@[simp]
theorem updateCandidates_claims :
    (store.updateCandidates selects change).claims = store.claims := rfl

@[simp]
theorem updateCandidates_journals :
    (store.updateCandidates selects change).journals = store.journals := rfl

@[simp]
theorem updateCandidates_snapshots :
    (store.updateCandidates selects change).snapshots = store.snapshots := rfl

@[simp]
theorem updateCandidates_nextRevision :
    (store.updateCandidates selects change).nextRevision = store.nextRevision := rfl

@[simp]
theorem updateCandidates_tokens :
    (store.updateCandidates selects change).tokens = store.tokens := rfl

@[simp]
theorem updateCandidates_promoted :
    (store.updateCandidates selects change).promoted = store.promoted := rfl

end Tables

@[simp]
theorem write_self {Row : Type} (table : String → Option Row) (key : String) (row : Option Row) :
    write table key row key = row :=
  if_pos rfl

theorem write_ne {Row : Type} (table : String → Option Row) {key other : String}
    (row : Option Row) (different : other ≠ key) : write table key row other = table other :=
  if_neg different

def Candidate.identity (row : Candidate) : String × String × String × Nat :=
  (row.configDomain, row.candidateId, row.idempotencyKey, row.pendingRevision)

def Lifecycle (before after : LifecycleState) : Prop :=
  after = before ∨ after ∈ validStateTransitions before

structure CandidatesMove (before after : ConfigStore) : Prop where
  kept : ∀ row ∈ before.candidates, ∃ later ∈ after.candidates,
    later.identity = row.identity ∧ Lifecycle row.state later.state
  added : ∃ new : Option Candidate, ∀ later ∈ after.candidates,
    (∃ row ∈ before.candidates, later.identity = row.identity) ∨
      (new = some later ∧ later.state ∈ validStateTransitions .none ∧
        later.pendingRevision = before.nextConfigRevision later.configDomain ∧
        before.nextConfigRevision later.configDomain <
          after.nextConfigRevision later.configDomain)

theorem CandidatesMove.of_map {before after : ConfigStore} (change : Candidate → Candidate)
    (mapped : after.candidates = before.candidates.map change)
    (each : ∀ row ∈ before.candidates, (change row).identity = row.identity ∧
      Lifecycle row.state (change row).state) : CandidatesMove before after where
  kept row member := by
    rw [mapped]
    exact ⟨change row, List.mem_map.mpr ⟨row, member, rfl⟩, each row member⟩
  added := by
    refine ⟨none, fun later member => .inl ?_⟩
    rw [mapped] at member
    obtain ⟨row, found, rfl⟩ := List.mem_map.mp member
    exact ⟨row, found, (each row found).1⟩

theorem CandidatesMove.of_same {before after : ConfigStore}
    (same : after.candidates = before.candidates) : CandidatesMove before after :=
  .of_map id (by rw [same, List.map_id]) fun _ _ => ⟨rfl, .inl rfl⟩

theorem CandidatesMove.of_update {before after : ConfigStore} (selects : Candidate → Bool)
    (change : Candidate → Candidate)
    (updated : after.candidates = before.candidates.map fun row =>
      if selects row then change row else row)
    (each : ∀ row, selects row = true → (change row).identity = row.identity ∧
      Lifecycle row.state (change row).state) : CandidatesMove before after := by
  refine .of_map _ updated fun row _ => ?_
  split
  next selected => exact each row selected
  next => exact ⟨rfl, .inl rfl⟩

def JournalState.final (state : JournalState) : Prop :=
  state = .committed ∨ state = .compensated

structure JournalMoves (before after : Option Journal) : Prop where
  kept : ∀ journal ∈ before, ∃ later ∈ after, journal.state.final → later.state = journal.state
  uncommitted : ∀ later ∈ after, later.state = .committed →
    ∃ journal ∈ before, journal.state = .committed

theorem JournalMoves.refl (journal : Option Journal) : JournalMoves journal journal :=
  ⟨fun row member => ⟨row, member, fun _ => rfl⟩,
    fun row member committed => ⟨row, member, committed⟩⟩

theorem JournalMoves.of_open {journal later : Journal} (opened : ¬journal.state.final)
    (uncommitted : later.state ≠ .committed) : JournalMoves (some journal) (some later) where
  kept row member := by
    cases member
    exact ⟨later, rfl, fun final => absurd final opened⟩
  uncommitted row member committed := by
    cases member
    exact absurd committed uncommitted

theorem JournalMoves.of_state {journal later : Journal} (same : later.state = journal.state) :
    JournalMoves (some journal) (some later) where
  kept row member := by
    cases member
    exact ⟨later, rfl, fun _ => same⟩
  uncommitted row member committed := by
    cases member
    exact ⟨journal, rfl, same ▸ committed⟩

theorem JournalMoves.of_new {later : Journal} (applying : later.state = .applying) :
    JournalMoves none (some later) where
  kept row member := by cases member
  uncommitted row member committed := by
    cases member
    rw [applying] at committed
    cases committed

theorem journalMoves_write {journals : String → Option Journal} {applyId : String}
    {later : Option Journal} (moves : JournalMoves (journals applyId) later) (other : String) :
    JournalMoves (journals other) (write journals applyId later other) := by
  by_cases same : other = applyId
  · rw [same, write_self]
    exact moves
  · rw [write_ne _ _ same]
    exact .refl _

def ClaimsMove (before after : ConfigStore) : Prop :=
  ∀ domain, ∀ later ∈ after.claims domain,
    (∃ claim ∈ before.claims domain, claim.fencingToken = later.fencingToken) ∨
      (later.fencingToken ∉ before.tokens ∧ later.fencingToken ∈ after.tokens)

theorem ClaimsMove.of_same {before after : ConfigStore} (same : after.claims = before.claims) :
    ClaimsMove before after := by
  intro domain later member
  rw [same] at member
  exact .inl ⟨later, member, rfl⟩

theorem ClaimsMove.of_removed {before after : ConfigStore} {domain : String}
    (removed : after.claims = write before.claims domain none) : ClaimsMove before after := by
  intro other later member
  rw [removed] at member
  by_cases same : other = domain
  · rw [same, write_self] at member
    cases member
  · rw [write_ne _ _ same] at member
    exact .inl ⟨later, member, rfl⟩

/-- The columns of a snapshot that only a promotion writes. -/
def Snapshot.core (snapshot : Snapshot) : Nat × Option String × SnapshotContent :=
  (snapshot.activeRevision, snapshot.candidateId, snapshot.content)

/-- What holds between two stores with a transaction between them, a promotion or not. -/
structure Moves (before after : ConfigStore) : Prop where
  candidates : CandidatesMove before after
  revisions : ∀ domain, before.nextConfigRevision domain ≤ after.nextConfigRevision domain
  tokens : ∀ token ∈ before.tokens, token ∈ after.tokens
  claims : ClaimsMove before after

structure Quiet (before after : ConfigStore) : Prop extends Moves before after where
  journals : ∀ applyId, JournalMoves (before.journals applyId) (after.journals applyId)
  snapshots : ∀ domain, (after.snapshots domain).map Snapshot.core =
    (before.snapshots domain).map Snapshot.core
  promoted : after.promoted = before.promoted

/-- A transaction that leaves the active snapshots as they are. -/
structure Still (before after : ConfigStore) : Prop extends Quiet before after where
  same : after.snapshots = before.snapshots

theorem Still.refl (store : ConfigStore) : Still store store where
  candidates := .of_same rfl
  revisions _ := Nat.le_refl _
  tokens _ member := member
  claims := .of_same rfl
  journals _ := .refl _
  snapshots _ := rfl
  promoted := rfl
  same := rfl

theorem Still.of_candidates {before after : ConfigStore} (moves : CandidatesMove before after)
    (claims : after.claims = before.claims) (journals : after.journals = before.journals)
    (snapshots : after.snapshots = before.snapshots)
    (revisions : ∀ domain, before.nextConfigRevision domain ≤ after.nextConfigRevision domain)
    (tokens : after.tokens = before.tokens) (promoted : after.promoted = before.promoted) :
    Still before after where
  candidates := moves
  revisions := revisions
  tokens _ member := tokens ▸ member
  claims := .of_same claims
  journals applyId := journals ▸ .refl _
  snapshots domain := by rw [snapshots]
  promoted := promoted
  same := snapshots

theorem Still.of_journal {store : ConfigStore} {applyId : String} {later : Option Journal}
    (moves : JournalMoves (store.journals applyId) later) :
    Still store { store with journals := write store.journals applyId later } where
  candidates := .of_same rfl
  revisions _ := Nat.le_refl _
  tokens _ member := member
  claims := .of_same rfl
  journals := journalMoves_write moves
  snapshots _ := rfl
  promoted := rfl
  same := rfl

section Operations

variable {store after : ConfigStore}

theorem nextConfigRevision_congr {first second : ConfigStore}
    (same : first.nextRevision = second.nextRevision) (domain : String) :
    first.nextConfigRevision domain = second.nextConfigRevision domain := by
  rw [ConfigStore.nextConfigRevision, ConfigStore.nextConfigRevision, same]

theorem nextConfigRevision_advance (store : ConfigStore) (domain other : String) :
    (store.advanceRevision domain).nextConfigRevision other =
      if other = domain then store.nextConfigRevision domain + 1
      else store.nextConfigRevision other := by
  unfold ConfigStore.advanceRevision
  rw [ConfigStore.nextConfigRevision]
  dsimp only [write]
  split
  · rfl
  · rfl

theorem validateStateTransition_bind {Result : Type} {current target : LifecycleState}
    {rest : Unit → Except ConfigError Result} {result : Result} :
    (validateStateTransition current target >>= rest) = .ok result ↔
      target ∈ validStateTransitions current ∧ rest () = .ok result := by
  rw [validateStateTransition, refuseIf_bind, not_not]

theorem CandidatesMove.of_insert {row : Candidate}
    (inserted : after.candidates = store.candidates ++ [row])
    (first : row.state ∈ validStateTransitions .none)
    (revision : row.pendingRevision = store.nextConfigRevision row.configDomain)
    (advanced : store.nextConfigRevision row.configDomain <
      after.nextConfigRevision row.configDomain) : CandidatesMove store after where
  kept other member := by
    rw [inserted]
    exact ⟨other, List.mem_append_left _ member, rfl, .inl rfl⟩
  added := by
    refine ⟨some row, fun later member => ?_⟩
    rw [inserted] at member
    rcases List.mem_append.mp member with old | new
    · exact .inl ⟨later, old, rfl⟩
    · cases List.mem_singleton.mp new
      exact .inr ⟨rfl, first, revision, advanced⟩

theorem create_still {request : CreateRequest}
    (succeeded : createPendingConfigCandidate request store = .ok after) : Still store after := by
  unfold createPendingConfigCandidate at succeeded
  rw [refuseIf_bind] at succeeded
  obtain ⟨valid, succeeded⟩ := succeeded
  split at succeeded
  next existing found =>
    rw [refuseIf_bind] at succeeded
    obtain ⟨_, succeeded⟩ := succeeded
    split at succeeded
    next =>
      cases succeeded
      exact .of_candidates (.of_same (by simp)) (by simp) (by simp) (by simp)
        (fun domain => Nat.le_of_eq (nextConfigRevision_congr (by simp) domain)) (by simp) (by simp)
    next =>
      rw [validateStateTransition_bind, refuseIf_bind] at succeeded
      obtain ⟨moved, _, succeeded⟩ := succeeded
      cases succeeded
      refine .of_candidates (.of_update _ _ (insertEvents_candidates _ _) ?_) (by simp) (by simp)
        (by simp) (fun domain => Nat.le_of_eq (nextConfigRevision_congr (by simp) domain))
        (by simp) (by simp)
      intro row selected
      have state := (of_decide_eq_true selected).2.2
      exact ⟨rfl, .inr (state ▸ moved)⟩
  next =>
    rw [refuseIf_bind] at succeeded
    obtain ⟨_, succeeded⟩ := succeeded
    cases succeeded
    have first : request.state ∈ validStateTransitions .none := by
      by_cases validated : request.state = .candidateValidated
      · rw [validated]
        decide
      · by_contra missing
        exact valid ⟨validated, missing⟩
    have revision (domain : String) := nextConfigRevision_advance store request.configDomain domain
    refine .of_candidates ?_ (by simp; rfl) (by simp; rfl) (by simp; rfl) ?_ (by simp; rfl)
      (by simp; rfl)
    · refine .of_insert (insertEvents_candidates _ _) first rfl ?_
      rw [nextConfigRevision_congr (insertEvents_nextRevision _ _)]
      change store.nextConfigRevision request.configDomain <
        (store.advanceRevision request.configDomain).nextConfigRevision request.configDomain
      rw [revision, if_pos rfl]
      exact Nat.lt_succ_self _
    · intro domain
      rw [nextConfigRevision_congr (insertEvents_nextRevision _ _)]
      change store.nextConfigRevision domain ≤
        (store.advanceRevision request.configDomain).nextConfigRevision domain
      rw [revision]
      split
      next same => rw [same]; exact Nat.le_succ _
      next => exact Nat.le_refl _

theorem update_still {request : UpdateRequest}
    (succeeded : updatePendingConfigCandidateState request store = .ok after) :
    Still store after := by
  unfold updatePendingConfigCandidateState at succeeded
  rw [validateStateTransition_bind] at succeeded
  obtain ⟨moved, succeeded⟩ := succeeded
  split at succeeded
  next => cases succeeded
  next existing found =>
    rw [refuseIf_bind] at succeeded
    obtain ⟨_, succeeded⟩ := succeeded
    cases succeeded
    refine .of_candidates (.of_update _ _ (insertEvents_candidates _ _) ?_) (by simp) (by simp)
      (by simp) (fun domain => Nat.le_of_eq (nextConfigRevision_congr (by simp) domain))
      (by simp) (by simp)
    intro row selected
    have state := (of_decide_eq_true selected).2.2
    exact ⟨rfl, .inr (state ▸ moved)⟩

theorem claimsMove_write {request : ClaimRequest} {now : Nat} {token : String}
    (fresh : token ∉ store.tokens)
    (claims : after.claims = write store.claims request.configDomain
      (some (request.claim now
        (claimToken (store.claims request.configDomain) request.applyId token))))
    (tokens : after.tokens = token :: store.tokens) : ClaimsMove store after := by
  intro domain later member
  rw [claims] at member
  by_cases same : domain = request.configDomain
  · rw [same, write_self] at member
    cases member
    rw [same]
    cases existing : store.claims request.configDomain with
    | none => exact .inr ⟨fresh, by rw [tokens]; exact List.mem_cons_self⟩
    | some claim =>
      by_cases own : claim.applyId = request.applyId
      · refine .inl ⟨claim, rfl, ?_⟩
        simp [ClaimRequest.claim, claimToken, own]
      · refine .inr ?_
        simp [ClaimRequest.claim, claimToken, own, tokens, fresh]
  · rw [write_ne _ _ same] at member
    exact .inl ⟨later, member, rfl⟩

theorem acquire_still {request : ClaimRequest} {now : Nat} {token : String} {shared : Bool}
    (fresh : token ∉ store.tokens)
    (succeeded : acquireConfigApplyClaim request now token shared store = .ok after) :
    Still store after := by
  unfold acquireConfigApplyClaim at succeeded
  rw [refuseIf_bind] at succeeded
  obtain ⟨_, succeeded⟩ := succeeded
  dsimp only at succeeded
  split at succeeded
  next => cases succeeded
  next pending found =>
    simp only [refuseIf_bind] at succeeded
    obtain ⟨_, _, _, _, _, succeeded⟩ := succeeded
    cases succeeded
    exact
      { candidates := .of_update _ _ rfl fun row _ => ⟨rfl, .inl rfl⟩
        revisions := fun _ => Nat.le_refl _
        tokens := fun _ member => List.mem_cons_of_mem _ member
        claims := claimsMove_write fresh rfl rfl
        journals := fun _ => .refl _
        snapshots := fun _ => rfl
        promoted := rfl
        same := rfl }

theorem begin_still {request : ClaimRequest} {pendingRevision now : Nat}
    {sourceBaseline activeBaseline token : String} {expectedState : LifecycleState} {shared : Bool}
    (fresh : token ∉ store.tokens)
    (succeeded : beginConfigApply request pendingRevision sourceBaseline activeBaseline
      expectedState now token shared store = .ok after) : Still store after := by
  unfold beginConfigApply at succeeded
  rw [refuseIf_bind, validateStateTransition_bind, refuseIf_bind] at succeeded
  obtain ⟨_, moved, _, succeeded⟩ := succeeded
  dsimp only at succeeded
  split at succeeded
  next => cases succeeded
  next pending found =>
    simp only [refuseIf_bind] at succeeded
    obtain ⟨_, _, _, _, _, succeeded⟩ := succeeded
    have each (row : Candidate) (fencingToken : String)
        (selected : decide (row.configDomain = request.configDomain ∧
          row.candidateId = request.candidateId ∧ row.state = expectedState) = true) :
        ({ row with
            state := .applying
            fencingToken := some fencingToken
            lastAttemptId := some request.attemptId
            lastApplyId := some request.applyId } : Candidate).identity = row.identity ∧
          Lifecycle row.state .applying :=
      ⟨rfl, .inr ((of_decide_eq_true selected).2.2 ▸ moved)⟩
    split at succeeded
    next missing =>
      cases succeeded
      exact
        { candidates := .of_update _ _ rfl fun row selected => each row _ selected
          revisions := fun _ => Nat.le_refl _
          tokens := fun _ member => List.mem_cons_of_mem _ member
          claims := claimsMove_write fresh rfl rfl
          journals := journalMoves_write (by rw [missing]; exact .of_new rfl)
          snapshots := fun _ => rfl
          promoted := rfl
          same := rfl }
    next =>
      rw [refuseIf_bind] at succeeded
      obtain ⟨_, succeeded⟩ := succeeded
      cases succeeded
      exact
        { candidates := .of_update _ _ rfl fun row selected => each row _ selected
          revisions := fun _ => Nat.le_refl _
          tokens := fun _ member => List.mem_cons_of_mem _ member
          claims := claimsMove_write fresh rfl rfl
          journals := fun _ => .refl _
          snapshots := fun _ => rfl
          promoted := rfl
          same := rfl }

theorem Still.of_claims (claims : String → Option Claim)
    (moves : ClaimsMove store { store with claims }) : Still store { store with claims } where
  candidates := .of_same rfl
  revisions _ := Nat.le_refl _
  tokens _ member := member
  claims := moves
  journals _ := .refl _
  snapshots _ := rfl
  promoted := rfl
  same := rfl

theorem renew_still {domain applyId fencingToken : String} {leaseSeconds now : Nat}
    (succeeded : renewConfigApplyClaim domain applyId fencingToken leaseSeconds now store =
      .ok after) : Still store after := by
  unfold renewConfigApplyClaim at succeeded
  rw [refuseIf_bind] at succeeded
  obtain ⟨_, succeeded⟩ := succeeded
  split at succeeded
  next => cases succeeded
  next claim current =>
    rw [refuseIf_bind] at succeeded
    obtain ⟨_, succeeded⟩ := succeeded
    cases succeeded
    refine .of_claims _ ?_
    intro other later member
    by_cases same : other = domain
    · subst same
      dsimp only at member
      rw [write_self] at member
      cases member
      exact .inl ⟨claim, current, rfl⟩
    · dsimp only at member
      rw [write_ne _ _ same] at member
      exact .inl ⟨later, member, rfl⟩

theorem release_still {domain applyId fencingToken : String}
    (succeeded : releaseConfigApplyClaim domain applyId fencingToken store = .ok after) :
    Still store after := by
  unfold releaseConfigApplyClaim at succeeded
  split at succeeded
  next => cases succeeded
  next claim current =>
    rw [refuseIf_bind] at succeeded
    obtain ⟨_, succeeded⟩ := succeeded
    cases succeeded
    exact .of_claims _ (.of_removed rfl)

theorem startJournal_still {applyId : String} {journal : Journal}
    (succeeded : startConfigApplyJournal applyId journal store = .ok after) :
    Still store after := by
  unfold startConfigApplyJournal at succeeded
  rw [refuseIf_bind] at succeeded
  obtain ⟨_, succeeded⟩ := succeeded
  split at succeeded
  next =>
    cases succeeded
    exact .refl _
  next missing =>
    cases succeeded
    exact .of_journal (by rw [missing]; exact .of_new rfl)

theorem updateJournal_still {applyId : String} {expected state : JournalState}
    {sideEffects : Option (List String)} {lastError : Option String}
    (opened : ¬expected.final) (uncommitted : state ≠ .committed)
    (succeeded : updateConfigApplyJournal applyId expected state sideEffects lastError store =
      .ok after) : Still store after := by
  unfold updateConfigApplyJournal at succeeded
  split at succeeded
  next => cases succeeded
  next journal current =>
    rw [refuseIf_bind, not_not] at succeeded
    obtain ⟨same, succeeded⟩ := succeeded
    cases succeeded
    exact .of_journal (by rw [current]; exact .of_open (same ▸ opened) uncommitted)

theorem appendSideEffect_still {applyId sideEffect : String} {expected : JournalState}
    (succeeded : appendConfigApplySideEffect applyId sideEffect expected store = .ok after) :
    Still store after := by
  unfold appendConfigApplySideEffect at succeeded
  split at succeeded
  next => cases succeeded
  next journal current =>
    rw [refuseIf_bind] at succeeded
    obtain ⟨_, succeeded⟩ := succeeded
    cases succeeded
    exact .of_journal (by rw [current]; exact .of_state rfl)

theorem compensate_still {applyId entry error : String} {compensated : Bool}
    {expected : JournalState} (opened : ¬expected.final)
    (succeeded : recordConfigApplyCompensation applyId entry compensated error expected store =
      .ok after) : Still store after := by
  unfold recordConfigApplyCompensation at succeeded
  split at succeeded
  next => cases succeeded
  next journal current =>
    split at succeeded
    next =>
      cases succeeded
      exact .refl _
    next =>
      rw [refuseIf_bind, not_not] at succeeded
      obtain ⟨same, succeeded⟩ := succeeded
      cases succeeded
      refine .of_journal ?_
      rw [current]
      exact .of_open (same ▸ opened) (by cases compensated <;> simp)

theorem recoverExpired_still (domain error : String) (now : Nat) (store : ConfigStore) :
    Still store (recoverExpiredConfigApplies domain error now store) := by
  unfold recoverExpiredConfigApplies
  dsimp only
  split
  next => exact .refl _
  next =>
    exact
      { candidates := .of_update _ _ rfl fun row selected => by
          refine ⟨rfl, .inr ?_⟩
          change LifecycleState.recoveryRequired ∈ validStateTransitions row.state
          rw [(of_decide_eq_true selected).2.2]
          decide
        revisions := fun _ => Nat.le_refl _
        tokens := fun _ member => member
        claims := by
          by_cases lapsed : ∃ claim ∈ store.claims domain, claim.leaseExpiresAt ≤ now
          · exact .of_removed (if_pos lapsed)
          · exact .of_same (if_neg lapsed)
        journals := fun applyId => by
          dsimp only
          cases store.journals applyId with
          | none => exact .refl _
          | some journal =>
            rw [Option.map_some]
            split
            next selected =>
              refine .of_open ?_ (by simp)
              rw [selected.2.2]
              exact fun final => by rcases final with final | final <;> cases final
            next => exact .refl _
        snapshots := fun _ => rfl
        promoted := rfl
        same := rfl }

theorem markSnapshot_quiet {domain error : String}
    (succeeded : markActiveConfigSnapshotRecoveryRequired domain error store = .ok after) :
    Quiet store after := by
  unfold markActiveConfigSnapshotRecoveryRequired at succeeded
  split at succeeded
  next => cases succeeded
  next snapshot current =>
    rw [refuseIf_bind] at succeeded
    obtain ⟨_, succeeded⟩ := succeeded
    cases succeeded
    exact
      { candidates := .of_same rfl
        revisions := fun _ => Nat.le_refl _
        tokens := fun _ member => member
        claims := .of_same rfl
        journals := fun _ => .refl _
        snapshots := fun other => by
          by_cases same : other = domain
          · subst same
            dsimp only
            rw [write_self, current]
            rfl
          · dsimp only
            rw [write_ne _ _ same]
        promoted := rfl }

theorem retry_still {candidateRef targetGeneration token : String} {now : Nat}
    (succeeded : retryPendingConfigRestart candidateRef targetGeneration token now store =
      .ok after) : Still store after ∧ after.claims workspace = none := by
  unfold retryPendingConfigRestart at succeeded
  rw [refuseIf_bind] at succeeded
  obtain ⟨_, succeeded⟩ := succeeded
  split at succeeded
  next => cases succeeded
  next pending found =>
    simp only [refuseIf_bind] at succeeded
    obtain ⟨_, _, _, succeeded⟩ := succeeded
    cases succeeded
    refine ⟨?_, by simp⟩
    refine
      { candidates := .of_update _ _ rfl fun row selected => ⟨rfl, .inr ?_⟩
        revisions := fun _ => Nat.le_refl _
        tokens := fun _ member => List.mem_cons_of_mem _ member
        claims := .of_removed rfl
        journals := fun _ => .refl _
        snapshots := fun _ => rfl
        promoted := rfl
        same := rfl }
    have state := (of_decide_eq_true selected).2.2
    change LifecycleState.pendingRestart ∈ validStateTransitions row.state
    rcases List.mem_cons.mp state with state | state
    · rw [state]
      decide
    · rw [List.mem_singleton.mp state]
      decide

theorem settleJournal_eq {applyId : Option String} {reason : String}
    (succeeded : settleJournal applyId reason store = .ok after) :
    ∃ journals, after = { store with journals } ∧
      ∀ other, JournalMoves (store.journals other) (journals other) := by
  unfold settleJournal at succeeded
  split at succeeded
  next =>
    cases succeeded
    exact ⟨store.journals, rfl, fun _ => .refl _⟩
  next applyId =>
    split at succeeded
    next =>
      cases succeeded
      exact ⟨store.journals, rfl, fun _ => .refl _⟩
    next journal current =>
      rw [refuseIf_bind] at succeeded
      obtain ⟨_, succeeded⟩ := succeeded
      split at succeeded
      next opened =>
        cases succeeded
        refine ⟨_, rfl, journalMoves_write ?_⟩
        rw [current]
        refine .of_open (fun final => ?_) (by simp)
        rcases final with final | final <;> simp [final] at opened
      next =>
        cases succeeded
        exact ⟨store.journals, rfl, fun _ => .refl _⟩

theorem discard_still {request : DiscardRequest}
    (succeeded : discardPendingConfigCandidate request store = .ok after) : Still store after := by
  unfold discardPendingConfigCandidate at succeeded
  rw [refuseIf_bind] at succeeded
  obtain ⟨_, succeeded⟩ := succeeded
  split at succeeded
  next => cases succeeded
  next pending found =>
    split at succeeded
    next =>
      cases succeeded
      exact .refl _
    next =>
      simp only [refuseIf_bind] at succeeded
      obtain ⟨_, _, _, _, _, succeeded⟩ := succeeded
      obtain ⟨settled, settles, succeeded⟩ := bind_ok succeeded
      obtain ⟨journals, rfl, moves⟩ := settleJournal_eq settles
      rw [validateStateTransition_bind] at succeeded
      obtain ⟨moved, succeeded⟩ := succeeded
      cases succeeded
      exact
        { candidates := .of_update _ _ (insertEvents_candidates _ _) fun row selected =>
            ⟨rfl, .inr ((of_decide_eq_true selected).2.2.1 ▸ moved)⟩
          revisions := fun domain => Nat.le_of_eq (nextConfigRevision_congr (by simp) domain)
          tokens := fun _ member => by simpa using member
          claims := .of_same (by simp)
          journals := fun applyId => by simpa using moves applyId
          snapshots := fun _ => by simp
          promoted := by simp
          same := by simp }

end Operations

/-- Everything that a promotion expects holds in its transaction. -/
structure PromoteRequest.Holds (request : PromoteRequest) (store : ConfigStore) : Prop where
  revision : request.RevisionHolds store
  generation : request.GenerationHolds store
  baseline : request.BaselineHolds store
  layers : request.LayersHold store
  pendingRevision : request.PendingRevisionHolds store
  pendingState : request.PendingStateHolds store
  token : request.TokenHolds store

structure Promotes (request : PromoteRequest) (before after : ConfigStore) : Prop
    extends Moves before after where
  holds : request.Holds before
  retained : ∀ row ∈ after.candidates, ∃ old ∈ before.candidates, row.identity = old.identity
  snapshot : after.snapshots request.configDomain =
    some (request.snapshot before (before.nextConfigRevision request.configDomain))
  others : ∀ domain, domain ≠ request.configDomain →
    after.snapshots domain = before.snapshots domain
  advanced : before.nextConfigRevision request.configDomain <
    after.nextConfigRevision request.configDomain
  journal : ∀ applyId ∈ request.content.promotedApplyId, ∃ journal ∈ before.journals applyId,
    journal.state = .applying ∧
      after.journals applyId = some { journal with state := .committed, lastError := none }
  journals : ∀ applyId, applyId ∉ request.content.promotedApplyId →
    after.journals applyId = before.journals applyId
  promoted : after.promoted = request.content.promotedApplyId.toList ++ before.promoted

theorem activatePending_eq {request : PromoteRequest} {store after : ConfigStore}
    (succeeded : activatePending request store = .ok after) :
    ∃ change : Candidate → Candidate,
      after = { store with candidates := store.candidates.map change } ∧
        ∀ row, (change row).identity = row.identity ∧ Lifecycle row.state (change row).state := by
  unfold activatePending at succeeded
  split at succeeded
  next expected _ _ =>
    rw [validateStateTransition_bind] at succeeded
    obtain ⟨moved, succeeded⟩ := succeeded
    cases succeeded
    refine ⟨_, rfl, fun row => ?_⟩
    split
    next selected =>
      refine ⟨rfl, .inr ?_⟩
      change LifecycleState.active ∈ validStateTransitions row.state
      rw [(of_decide_eq_true selected).2.2]
      exact moved
    next => exact ⟨rfl, .inl rfl⟩
  next =>
    cases succeeded
    exact ⟨id, by rw [List.map_id], fun _ => ⟨rfl, .inl rfl⟩⟩

theorem commitJournal_eq {promotedApplyId : Option String} {store after : ConfigStore}
    (succeeded : commitJournal promotedApplyId store = .ok after) :
    ∃ journals, after = { store with
        journals, promoted := promotedApplyId.toList ++ store.promoted } ∧
      (∀ applyId ∈ promotedApplyId, ∃ journal ∈ store.journals applyId,
        journal.state = .applying ∧
          journals applyId = some { journal with state := .committed, lastError := none }) ∧
      ∀ applyId, applyId ∉ promotedApplyId → journals applyId = store.journals applyId := by
  unfold commitJournal at succeeded
  split at succeeded
  next =>
    cases succeeded
    exact ⟨store.journals, rfl, fun _ member => by (cases member), fun _ _ => rfl⟩
  next applyId =>
    split at succeeded
    next => cases succeeded
    next journal current =>
      rw [refuseIf_bind, not_not] at succeeded
      obtain ⟨applying, succeeded⟩ := succeeded
      cases succeeded
      refine ⟨_, rfl, ?_, ?_⟩
      · intro other member
        cases member
        exact ⟨journal, current, applying, write_self _ _ _⟩
      · intro other absent
        exact write_ne _ _ fun same => absent (same ▸ rfl)

theorem promote_promotes {request : PromoteRequest} {store after : ConfigStore}
    (succeeded : promoteActiveConfigSnapshot request store = .ok after) :
    Promotes request store after := by
  unfold promoteActiveConfigSnapshot at succeeded
  simp only [refuseIf_bind, not_not] at succeeded
  obtain ⟨revision, generation, baseline, layers, pendingRevision, pendingState, token,
      succeeded⟩ :=
    succeeded
  obtain ⟨activated, activates, succeeded⟩ := bind_ok succeeded
  obtain ⟨change, rfl, moves⟩ := activatePending_eq activates
  obtain ⟨journals, rfl, committed, untouched⟩ := commitJournal_eq succeeded
  have next (domain : String) : store.nextConfigRevision domain ≤
      (store.advanceRevision request.configDomain).nextConfigRevision domain := by
    rw [nextConfigRevision_advance]
    split
    next same => rw [same]; exact Nat.le_succ _
    next => exact Nat.le_refl _
  have advanced : store.nextConfigRevision request.configDomain <
      (store.advanceRevision request.configDomain).nextConfigRevision request.configDomain := by
    rw [nextConfigRevision_advance, if_pos rfl]
    exact Nat.lt_succ_self _
  simp only [insertEvents_journals, insertEvents_promoted] at committed untouched ⊢
  exact
    { candidates := .of_map change (by simp; rfl) fun row _ => moves row
      revisions := fun domain =>
        Nat.le_trans (next domain) (Nat.le_of_eq (nextConfigRevision_congr (by simp) domain))
      tokens := fun _ member => by
        rw [insertEvents_tokens]
        exact member
      claims := .of_same (by simp; rfl)
      holds := ⟨revision, generation, baseline, layers, pendingRevision, pendingState, token⟩
      retained := fun row member => by
        rw [insertEvents_candidates] at member
        obtain ⟨old, found, rfl⟩ := List.mem_map.mp member
        exact ⟨old, found, (moves old).1⟩
      snapshot := by simp
      others := fun domain different => by simp [write_ne _ _ different]; rfl
      advanced :=
        Nat.lt_of_lt_of_le advanced (Nat.le_of_eq (nextConfigRevision_congr (by simp) _))
      journal := committed
      journals := untouched
      promoted := rfl }

end GraphAgent.ConfigPromotion
