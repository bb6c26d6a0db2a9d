import GraphAgent.ConfigTransitions

/-!
# Runs of configuration transactions

Any number of owners issue write transactions in any order; leases lapse with the clock
that a transaction reads, and an owner that stops issues none any more.
-/

namespace GraphAgent.ConfigPromotion

def Command.Disciplined : Command → Prop
  | .updateJournal _ expected state _ _ => ¬expected.final ∧ state ≠ .committed
  | .compensate _ _ _ _ expected => ¬expected.final
  | _ => True

def Command.Unmarking : Command → Prop
  | .markSnapshot _ _ => False
  | _ => True

section Steps

variable {store after : ConfigStore}

theorem transaction_moves {command : Command} (disciplined : command.Disciplined)
    (fresh : ∀ token ∈ command.token, token ∉ store.tokens)
    (succeeded : command.transaction store = .ok after) :
    Still store after ∨ (¬command.Unmarking ∧ Quiet store after) ∨
      ∃ request, command = .promote request ∧ Promotes request store after := by
  cases command with
  | create request => exact .inl (create_still succeeded)
  | update request => exact .inl (update_still succeeded)
  | acquire request now token shared => exact .inl (acquire_still (fresh token rfl) succeeded)
  | begin request revision source active expected now token shared =>
    exact .inl (begin_still (fresh token rfl) succeeded)
  | renew domain applyId fencingToken leaseSeconds now => exact .inl (renew_still succeeded)
  | release domain applyId fencingToken => exact .inl (release_still succeeded)
  | startJournal applyId journal => exact .inl (startJournal_still succeeded)
  | updateJournal applyId expected state sideEffects lastError =>
    exact .inl (updateJournal_still disciplined.1 disciplined.2 succeeded)
  | appendSideEffect applyId sideEffect expected =>
    exact .inl (appendSideEffect_still succeeded)
  | compensate applyId entry compensated error expected =>
    exact .inl (compensate_still disciplined succeeded)
  | recoverExpired domain error now =>
    cases succeeded
    exact .inl (recoverExpired_still domain error now store)
  | markSnapshot domain error => exact .inr (.inl ⟨id, markSnapshot_quiet succeeded⟩)
  | promote request => exact .inr (.inr ⟨request, rfl, promote_promotes succeeded⟩)
  | retry candidateRef targetGeneration token now => exact .inl (retry_still succeeded).1
  | discard request => exact .inl (discard_still succeeded)
  | changeSources sources =>
    cases succeeded
    exact .inl (.of_candidates (.of_same rfl) rfl rfl rfl (fun _ => Nat.le_refl _) rfl rfl)

theorem step_outcome (command : Command) (disciplined : command.Disciplined) :
    Still store (step store command) ∨ (¬command.Unmarking ∧ Quiet store (step store command)) ∨
      ∃ request, command = .promote request ∧ Promotes request store (step store command) := by
  unfold step
  split
  next => exact .inl (.refl _)
  next unused =>
    have fresh : ∀ token ∈ command.token, token ∉ store.tokens := fun token member used =>
      unused ⟨token, member, used⟩
    split
    next committed => exact transaction_moves disciplined fresh committed
    next => exact .inl (.refl _)

theorem step_moves (command : Command) (disciplined : command.Disciplined) :
    Quiet store (step store command) ∨
      ∃ request, command = .promote request ∧ Promotes request store (step store command) := by
  rcases step_outcome command disciplined with still | ⟨_, quiet⟩ | promotes
  · exact .inl still.toQuiet
  · exact .inl quiet
  · exact .inr promotes

theorem step_base (command : Command) (disciplined : command.Disciplined) :
    Moves store (step store command) := by
  rcases step_moves command disciplined with quiet | ⟨request, _, promotes⟩
  · exact quiet.toMoves
  · exact promotes.toMoves

end Steps

/-- Revisions are given out once, and the committed journals are those of promotions. -/
structure Invariant (store : ConfigStore) : Prop where
  pending : ∀ row ∈ store.candidates,
    row.pendingRevision < store.nextConfigRevision row.configDomain
  active : ∀ domain, ∀ snapshot ∈ store.snapshots domain,
    snapshot.activeRevision < store.nextConfigRevision domain
  distinct : ∀ first ∈ store.candidates, ∀ second ∈ store.candidates,
    first.configDomain = second.configDomain → first.pendingRevision = second.pendingRevision →
      first.identity = second.identity
  apart : ∀ row ∈ store.candidates, ∀ snapshot ∈ store.snapshots row.configDomain,
    row.pendingRevision ≠ snapshot.activeRevision
  committed : ∀ applyId, applyId ∈ store.promoted ↔
    ∃ journal ∈ store.journals applyId, journal.state = .committed
  claimed : ∀ domain, ∀ claim ∈ store.claims domain, claim.fencingToken ∈ store.tokens

theorem invariant_empty : Invariant ConfigStore.empty where
  pending _ member := absurd member List.not_mem_nil
  active _ _ member := by cases member
  distinct _ member := absurd member List.not_mem_nil
  apart _ member := absurd member List.not_mem_nil
  committed _ := iff_of_false List.not_mem_nil fun ⟨_, member, _⟩ => by cases member
  claimed _ _ member := by cases member

theorem Candidate.identity_domain {first second : Candidate}
    (same : first.identity = second.identity) : first.configDomain = second.configDomain :=
  congrArg (·.1) same

theorem Candidate.identity_revision {first second : Candidate}
    (same : first.identity = second.identity) : first.pendingRevision = second.pendingRevision :=
  congrArg (·.2.2.2) same

section Keeping

variable {before after : ConfigStore}

theorem Moves.pending_lt (moves : Moves before after) (sound : Invariant before)
    {row : Candidate} (member : row ∈ after.candidates) :
    row.pendingRevision < after.nextConfigRevision row.configDomain := by
  obtain ⟨_, origin⟩ := moves.candidates.added
  rcases origin row member with ⟨old, found, same⟩ | ⟨_, _, revision, advanced⟩
  · rw [Candidate.identity_revision same, Candidate.identity_domain same]
    exact Nat.lt_of_lt_of_le (sound.pending old found) (moves.revisions _)
  · rw [revision]
    exact advanced

theorem Moves.distinct (moves : Moves before after) (sound : Invariant before) :
    ∀ first ∈ after.candidates, ∀ second ∈ after.candidates,
      first.configDomain = second.configDomain →
        first.pendingRevision = second.pendingRevision → first.identity = second.identity := by
  obtain ⟨new, origin⟩ := moves.candidates.added
  -- A new revision is above every earlier one, so an old and a new row never share it.
  have apart : ∀ old ∈ before.candidates, ∀ row : Candidate,
      old.configDomain = row.configDomain →
        row.pendingRevision = before.nextConfigRevision row.configDomain →
          old.pendingRevision ≠ row.pendingRevision := by
    intro old found row domain revision same
    have below := sound.pending old found
    rw [domain, same, revision] at below
    exact Nat.lt_irrefl _ below
  intro first firstMember second secondMember domain revision
  rcases origin first firstMember with ⟨oldFirst, foundFirst, sameFirst⟩ | ⟨newFirst, _, firstNew, _⟩ <;>
    rcases origin second secondMember with
      ⟨oldSecond, foundSecond, sameSecond⟩ | ⟨newSecond, _, secondNew, _⟩
  · rw [sameFirst, sameSecond]
    refine sound.distinct oldFirst foundFirst oldSecond foundSecond ?_ ?_
    · rw [← Candidate.identity_domain sameFirst, domain, Candidate.identity_domain sameSecond]
    · rw [← Candidate.identity_revision sameFirst, revision,
        Candidate.identity_revision sameSecond]
  · refine absurd ?_ (apart oldFirst foundFirst second ?_ secondNew)
    · rw [← Candidate.identity_revision sameFirst, revision]
    · rw [← Candidate.identity_domain sameFirst, domain]
  · refine absurd ?_ (apart oldSecond foundSecond first ?_ firstNew)
    · rw [← Candidate.identity_revision sameSecond, revision]
    · rw [← Candidate.identity_domain sameSecond, domain]
  · rw [Option.some.inj (newFirst.symm.trans newSecond)]

theorem Moves.claimed (moves : Moves before after) (sound : Invariant before) :
    ∀ domain, ∀ claim ∈ after.claims domain, claim.fencingToken ∈ after.tokens := by
  intro domain claim member
  rcases moves.claims domain claim member with ⟨earlier, found, same⟩ | ⟨_, generated⟩
  · rw [← same]
    exact moves.tokens _ (sound.claimed domain earlier found)
  · exact generated

theorem Moves.apart (moves : Moves before after) (sound : Invariant before) {row : Candidate}
    (member : row ∈ after.candidates) {snapshot : Snapshot}
    (current : snapshot ∈ before.snapshots row.configDomain) :
    row.pendingRevision ≠ snapshot.activeRevision := by
  obtain ⟨_, origin⟩ := moves.candidates.added
  rcases origin row member with ⟨old, found, same⟩ | ⟨_, _, revision, _⟩
  · rw [Candidate.identity_revision same]
    refine sound.apart old found snapshot ?_
    rwa [← Candidate.identity_domain same]
  · have below := sound.active row.configDomain snapshot current
    rw [revision]
    exact Nat.ne_of_gt below

theorem Quiet.snapshot_of (quiet : Quiet before after) {domain : String} {snapshot : Snapshot}
    (current : snapshot ∈ after.snapshots domain) :
    ∃ old ∈ before.snapshots domain, old.core = snapshot.core := by
  have same := quiet.snapshots domain
  rw [Option.mem_def.mp current, Option.map_some] at same
  obtain ⟨old, found, core⟩ := Option.map_eq_some_iff.mp same.symm
  exact ⟨old, found, core⟩

theorem Quiet.invariant (quiet : Quiet before after) (sound : Invariant before) :
    Invariant after where
  pending _ member := quiet.toMoves.pending_lt sound member
  active domain snapshot current := by
    obtain ⟨old, found, core⟩ := quiet.snapshot_of current
    have revision : old.activeRevision = snapshot.activeRevision := congrArg (·.1) core
    rw [← revision]
    exact Nat.lt_of_lt_of_le (sound.active domain old found) (quiet.revisions domain)
  distinct := quiet.toMoves.distinct sound
  apart row member snapshot current := by
    obtain ⟨old, found, core⟩ := quiet.snapshot_of current
    have revision : old.activeRevision = snapshot.activeRevision := congrArg (·.1) core
    rw [← revision]
    exact quiet.toMoves.apart sound member found
  committed applyId := by
    rw [quiet.promoted, sound.committed]
    constructor
    · rintro ⟨journal, found, committed⟩
      obtain ⟨later, current, kept⟩ := (quiet.journals applyId).kept journal found
      exact ⟨later, current, (kept (.inl committed)).trans committed⟩
    · rintro ⟨later, current, committed⟩
      exact (quiet.journals applyId).uncommitted later current committed
  claimed := quiet.toMoves.claimed sound

theorem snapshot_activeRevision (request : PromoteRequest) (store : ConfigStore) (revision : Nat) :
    (request.snapshot store revision).activeRevision = revision := by
  unfold PromoteRequest.snapshot
  split <;> rfl

theorem Promotes.invariant {request : PromoteRequest} (promotes : Promotes request before after)
    (sound : Invariant before) : Invariant after where
  pending _ member := promotes.toMoves.pending_lt sound member
  active domain snapshot current := by
    by_cases same : domain = request.configDomain
    · rw [same, promotes.snapshot] at current
      cases current
      rw [same, snapshot_activeRevision]
      exact promotes.advanced
    · rw [promotes.others domain same] at current
      exact Nat.lt_of_lt_of_le (sound.active domain snapshot current) (promotes.revisions domain)
  distinct := promotes.toMoves.distinct sound
  apart row member snapshot current := by
    by_cases same : row.configDomain = request.configDomain
    · rw [same, promotes.snapshot] at current
      cases current
      rw [snapshot_activeRevision]
      obtain ⟨old, found, identity⟩ := promotes.retained row member
      have below := sound.pending old found
      rw [← Candidate.identity_revision identity, ← Candidate.identity_domain identity,
        same] at below
      exact Nat.ne_of_lt below
    · rw [promotes.others _ same] at current
      exact promotes.toMoves.apart sound member current
  committed applyId := by
    rw [promotes.promoted, List.mem_append, sound.committed]
    by_cases own : applyId ∈ request.content.promotedApplyId
    · obtain ⟨journal, found, applying, committed⟩ := promotes.journal applyId own
      exact iff_of_true (.inl (by simpa using own)) ⟨_, committed, rfl⟩
    · have absent : applyId ∉ request.content.promotedApplyId.toList := by
        simpa using own
      rw [promotes.journals applyId own, or_iff_right absent]
  claimed := promotes.toMoves.claimed sound

theorem step_invariant (command : Command) (disciplined : command.Disciplined)
    (sound : Invariant before) : Invariant (step before command) := by
  rcases step_moves command disciplined with quiet | ⟨request, _, promotes⟩
  · exact quiet.invariant sound
  · exact promotes.invariant sound

end Keeping

/-- The order between two states of a run. -/
structure Later (before after : ConfigStore) : Prop where
  candidates : ∀ row ∈ before.candidates, ∃ later ∈ after.candidates,
    later.identity = row.identity ∧
      Relation.ReflTransGen (fun first second => second ∈ validStateTransitions first) row.state
        later.state
  journals : ∀ applyId, ∀ journal ∈ before.journals applyId, journal.state.final →
    ∃ later ∈ after.journals applyId, later.state = journal.state
  snapshots : ∀ domain, ∀ snapshot ∈ before.snapshots domain,
    ∃ later ∈ after.snapshots domain, snapshot.activeRevision ≤ later.activeRevision
  tokens : ∀ token ∈ before.tokens, token ∈ after.tokens
  replaced : ∀ domain, ∀ token ∈ before.tokens,
    (∀ claim ∈ before.claims domain, claim.fencingToken ≠ token) →
      ∀ claim ∈ after.claims domain, claim.fencingToken ≠ token
  revisions : ∀ domain, before.nextConfigRevision domain ≤ after.nextConfigRevision domain

theorem Later.refl (store : ConfigStore) : Later store store where
  candidates row member := ⟨row, member, rfl, .refl⟩
  journals _ journal member _ := ⟨journal, member, rfl⟩
  snapshots _ snapshot member := ⟨snapshot, member, Nat.le_refl _⟩
  tokens _ member := member
  replaced _ _ _ absent := absent
  revisions _ := Nat.le_refl _

theorem Later.trans {first second third : ConfigStore} (earlier : Later first second)
    (further : Later second third) : Later first third where
  candidates row member := by
    obtain ⟨middle, found, same, path⟩ := earlier.candidates row member
    obtain ⟨last, reached, again, onward⟩ := further.candidates middle found
    exact ⟨last, reached, again.trans same, path.trans onward⟩
  journals applyId journal member final := by
    obtain ⟨middle, found, same⟩ := earlier.journals applyId journal member final
    obtain ⟨last, reached, again⟩ := further.journals applyId middle found (by rwa [same])
    exact ⟨last, reached, again.trans same⟩
  snapshots domain snapshot member := by
    obtain ⟨middle, found, below⟩ := earlier.snapshots domain snapshot member
    obtain ⟨last, reached, onward⟩ := further.snapshots domain middle found
    exact ⟨last, reached, Nat.le_trans below onward⟩
  tokens token member := further.tokens token (earlier.tokens token member)
  replaced domain token member absent :=
    further.replaced domain token (earlier.tokens token member)
      (earlier.replaced domain token member absent)
  revisions domain := Nat.le_trans (earlier.revisions domain) (further.revisions domain)

section Advancing

variable {before after : ConfigStore}

theorem Moves.candidates_later (moves : Moves before after) : ∀ row ∈ before.candidates,
    ∃ later ∈ after.candidates, later.identity = row.identity ∧
      Relation.ReflTransGen (fun first second => second ∈ validStateTransitions first) row.state
        later.state := by
  intro row member
  obtain ⟨later, found, same, moved⟩ := moves.candidates.kept row member
  refine ⟨later, found, same, ?_⟩
  rcases moved with stayed | moved
  · rw [stayed]
  · exact .single moved

theorem Moves.replaced_later (moves : Moves before after) : ∀ domain, ∀ token ∈ before.tokens,
    (∀ claim ∈ before.claims domain, claim.fencingToken ≠ token) →
      ∀ claim ∈ after.claims domain, claim.fencingToken ≠ token := by
  intro domain token generated absent claim member same
  rcases moves.claims domain claim member with ⟨earlier, found, kept⟩ | ⟨fresh, _⟩
  · exact absent earlier found (kept.trans same)
  · exact fresh (same ▸ generated)

theorem step_later (command : Command) (disciplined : command.Disciplined)
    (sound : Invariant before) : Later before (step before command) := by
  have base := @step_base before command disciplined
  rcases @step_moves before command disciplined with quiet | ⟨request, _, promotes⟩
  · exact
      { candidates := base.candidates_later
        journals := fun applyId journal member final => by
          obtain ⟨later, found, kept⟩ := (quiet.journals applyId).kept journal member
          exact ⟨later, found, kept final⟩
        snapshots := fun domain snapshot member => by
          have same := quiet.snapshots domain
          rw [Option.mem_def.mp member, Option.map_some] at same
          obtain ⟨later, found, core⟩ := Option.map_eq_some_iff.mp same
          exact ⟨later, found, Nat.le_of_eq (congrArg (·.1) core.symm)⟩
        tokens := base.tokens
        replaced := base.replaced_later
        revisions := base.revisions }
  · exact
      { candidates := base.candidates_later
        journals := fun applyId journal member final => by
          by_cases own : applyId ∈ request.content.promotedApplyId
          · obtain ⟨open_, found, applying, _⟩ := promotes.journal applyId own
            have same : journal = open_ := Option.some.inj (member.symm.trans found)
            rw [same, applying] at final
            rcases final with final | final <;> cases final
          · exact ⟨journal, (promotes.journals applyId own).trans member, rfl⟩
        snapshots := fun domain snapshot member => by
          by_cases same : domain = request.configDomain
          · refine ⟨_, same ▸ promotes.snapshot, ?_⟩
            rw [snapshot_activeRevision]
            exact Nat.le_of_lt (same ▸ sound.active domain snapshot member)
          · exact ⟨snapshot, (promotes.others domain same).trans member, Nat.le_refl _⟩
        tokens := base.tokens
        replaced := base.replaced_later
        revisions := base.revisions }

end Advancing

theorem run_sound {store : ConfigStore} (sound : Invariant store) (commands : List Command)
    (disciplined : ∀ command ∈ commands, command.Disciplined) :
    Invariant (run store commands) ∧ Later store (run store commands) := by
  induction commands generalizing store with
  | nil => exact ⟨sound, .refl store⟩
  | cons command commands ih =>
    have first := disciplined command List.mem_cons_self
    obtain ⟨kept, later⟩ := ih (step_invariant command first sound) fun other member =>
      disciplined other (List.mem_cons_of_mem _ member)
    exact ⟨kept, (step_later command first sound).trans later⟩

structure StepContract (before after : ConfigStore) (command : Command) : Prop where
  candidates : ∀ row ∈ before.candidates, ∃ later ∈ after.candidates,
    later.identity = row.identity ∧ Lifecycle row.state later.state
  added : ∀ later ∈ after.candidates,
    (∃ row ∈ before.candidates, later.identity = row.identity) ∨
      (later.state ∈ validStateTransitions .none ∧
        (∀ row ∈ before.candidates, row.configDomain = later.configDomain →
          row.pendingRevision < later.pendingRevision) ∧
        ∀ snapshot ∈ before.snapshots later.configDomain,
          snapshot.activeRevision < later.pendingRevision)
  snapshots : ∀ domain,
    (after.snapshots domain).map Snapshot.core = (before.snapshots domain).map Snapshot.core ∨
      ∃ request, command = .promote request ∧ request.configDomain = domain ∧
        request.Holds before ∧
        ∀ snapshot ∈ after.snapshots domain,
          (∀ row ∈ after.candidates, row.configDomain = domain →
            row.pendingRevision < snapshot.activeRevision) ∧
          ∀ old ∈ before.snapshots domain, old.activeRevision < snapshot.activeRevision

theorem stepContract {store : ConfigStore} (sound : Invariant store) (command : Command)
    (disciplined : command.Disciplined) : StepContract store (step store command) command where
  candidates := (step_base command disciplined).candidates.kept
  added later member := by
    obtain ⟨_, origin⟩ := (@step_base store command disciplined).candidates.added
    rcases origin later member with old | ⟨_, first, revision, _⟩
    · exact .inl old
    · refine .inr ⟨first, fun row found same => ?_, fun snapshot current => ?_⟩
      · rw [revision, ← same]
        exact sound.pending row found
      · rw [revision]
        exact sound.active _ snapshot current
  snapshots domain := by
    rcases @step_moves store command disciplined with quiet | ⟨request, named, promotes⟩
    · exact .inl (quiet.snapshots domain)
    · by_cases same : domain = request.configDomain
      · refine .inr ⟨request, named, same.symm, promotes.holds, fun snapshot current => ?_⟩
        rw [same, promotes.snapshot] at current
        cases current
        rw [snapshot_activeRevision]
        constructor
        · intro row member there
          obtain ⟨old, found, identity⟩ := promotes.retained row member
          rw [Candidate.identity_revision identity, ← same, ← there,
            Candidate.identity_domain identity]
          exact sound.pending old found
        · intro old found
          exact same ▸ sound.active domain old found
      · rw [promotes.others domain same]
        exact .inl rfl

def AllActive (store : ConfigStore) : Prop :=
  ∀ domain, ∀ snapshot ∈ store.snapshots domain, snapshot.state = .active

theorem snapshot_active_iff (request : PromoteRequest) (store : ConfigStore) (revision : Nat) :
    (request.snapshot store revision).state = .active ↔
      ∀ old ∈ store.snapshots request.configDomain, old.state = .active := by
  unfold PromoteRequest.snapshot
  split
  next missing =>
    refine iff_of_true rfl fun old member => ?_
    rw [missing] at member
    cases member
  next old current =>
    constructor
    · intro active other member
      rw [current] at member
      cases member
      exact active
    · exact fun each => each old current

theorem step_allActive {store : ConfigStore} (command : Command)
    (disciplined : command.Disciplined) (unmarking : command.Unmarking) (active : AllActive store) :
    AllActive (step store command) := by
  rcases @step_outcome store command disciplined with
    still | ⟨marking, _⟩ | ⟨request, _, promotes⟩
  · intro domain snapshot current
    rw [still.same] at current
    exact active domain snapshot current
  · exact absurd unmarking marking
  · intro domain snapshot current
    by_cases same : domain = request.configDomain
    · rw [same, promotes.snapshot] at current
      cases current
      exact (snapshot_active_iff request store _).mpr (active request.configDomain)
    · rw [promotes.others domain same] at current
      exact active domain snapshot current

theorem run_allActive {store : ConfigStore} (active : AllActive store) (commands : List Command)
    (disciplined : ∀ command ∈ commands, command.Disciplined)
    (unmarking : ∀ command ∈ commands, command.Unmarking) : AllActive (run store commands) := by
  induction commands generalizing store with
  | nil => exact active
  | cons command commands ih =>
    refine ih (step_allActive command (disciplined command List.mem_cons_self)
      (unmarking command List.mem_cons_self) active) ?_ ?_
    · exact fun other member => disciplined other (List.mem_cons_of_mem _ member)
    · exact fun other member => unmarking other (List.mem_cons_of_mem _ member)

def sampleContent : SnapshotContent :=
  ⟨"\x7b\x7d", "\x7b\x7d", 0, "\x7b\x7d", "\x7b\x7d", "digest", "\x7b\x7d", 1, none, none⟩

def samplePromotion (expectedActiveRevision : Option Nat) : PromoteRequest where
  configDomain := workspace
  candidateId := "candidate-1"
  content := sampleContent
  expectedActiveRevision
  expectedSourceGeneration := none
  expectedSourceBaseline := none
  expectedLayerRevisions := []
  expectedLayerDigests := []
  expectedPendingRevision := none
  expectedPendingState := none
  expectedFencingToken := none
  event := none

end GraphAgent.ConfigPromotion
