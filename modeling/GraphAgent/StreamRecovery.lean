import GraphAgent.StreamEnvelopes

/-!
# Recovery of a stream

Commits build the state of a stream in memory; a reload builds it from the log
and a snapshot, and then marks every retained event again.  The two agree in
every run of commits that leave what a reload cannot see alone: the job, a
workspace that the store does not know, and completion marks.
-/

namespace GraphAgent.MessageStream

open Json Transaction

namespace History

variable {config : StoreConfig} {identity : StreamIdentity} {jobId : Option String}
  {committed : List PendingEvent} {state : StreamState}

theorem sequences_drop {interpreter : Interpreter} {start : StreamState}
    (history : History interpreter start committed state) (zero : start.snapshotSeq = 0)
    (count : Nat) :
    (((committed.drop count).map fun pending => pending.event).map StreamEvent.eventSeq) =
      List.range' (count + 1) (committed.drop count).length := by
  have sequences := congrArg (List.drop count) (history.sequences zero)
  rw [← List.map_drop, List.drop_range', Nat.add_comm] at sequences
  rw [List.map_map, List.length_drop]
  simpa [Function.comp_def] using sequences

theorem filter_behind {interpreter : Interpreter} {start : StreamState}
    (history : History interpreter start committed state) (zero : start.snapshotSeq = 0)
    {count covered : Nat} (ahead : count ≤ covered) :
    (((committed.drop count).map fun pending => pending.event).filter fun record =>
      covered < record.eventSeq) = (committed.drop covered).map fun pending => pending.event := by
  have seqOf {index : Nat} {pending : PendingEvent} (found : committed[index]? = some pending) :=
    history.sequence_of_getElem? zero found
  have parts : committed.drop count =
      (committed.drop count).take (covered - count) ++ committed.drop covered := by
    have dropped : (committed.drop count).drop (covered - count) = committed.drop covered := by
      rw [List.drop_drop]
      congr 1
      omega
    rw [← dropped, List.take_append_drop]
  rw [parts, List.map_append, List.filter_append]
  have front : ((((committed.drop count).take (covered - count)).map fun pending =>
      pending.event).filter fun record => covered < record.eventSeq) = [] := by
    rw [List.filter_eq_nil_iff]
    intro event member
    obtain ⟨pending, stored, rfl⟩ := List.mem_map.mp member
    obtain ⟨index, found⟩ := List.mem_iff_getElem?.mp stored
    rw [List.getElem?_take] at found
    split at found
    · rename_i inside
      rw [List.getElem?_drop] at found
      have sequence := seqOf found
      simp only [decide_eq_true_eq]
      omega
    · cases found
  have back : (((committed.drop covered).map fun pending =>
      pending.event).filter fun record => covered < record.eventSeq) =
        (committed.drop covered).map fun pending => pending.event := by
    rw [List.filter_eq_self]
    intro event member
    obtain ⟨pending, stored, rfl⟩ := List.mem_map.mp member
    obtain ⟨index, found⟩ := List.mem_iff_getElem?.mp stored
    rw [List.getElem?_drop] at found
    have sequence := seqOf found
    simp only [decide_eq_true_eq]
    omega
  rw [front, back, List.nil_append]

theorem backfill_eq {interpreter : Interpreter} {start : StreamState}
    (history : History interpreter start committed state) (zero : start.snapshotSeq = 0)
    {events : List StreamEvent}
    (ours : ∀ event ∈ events, ∃ pending ∈ committed, pending.event = event) :
    backfillLifecycleMetadata state events = state := by
  induction events with
  | nil => rfl
  | cons event events ih =>
    obtain ⟨pending, member, rfl⟩ := ours event (List.mem_cons_self ..)
    have marked := (history.settled zero member).mark_eq
    rw [backfillLifecycleMetadata, List.foldl_cons, marked]
    exact ih fun event member => ours event (List.mem_cons_of_mem _ member)

theorem adopt_eq (history : History config.interpreter (config.emptyState identity jobId)
    committed state) : adoptStoreWorkspace config state = .ok state := by
  have workspace : state.workspaceId = config.workspaceId := history.stays.2.2
  unfold adoptStoreWorkspace
  rw [workspace]
  cases stored : config.workspaceId with
  | none => rfl
  | some text => simp

theorem replay (history : History config.interpreter (config.emptyState identity jobId)
      committed state) {count : Nat} (bound : count < committed.length)
    {snapshot : Option StreamState} {first : StreamEvent} {rest : List StreamEvent}
    (log : first :: rest = (committed.drop count).map fun pending => pending.event)
    (covered : (snapshot = none ∧ count = 0) ∨ ∃ index pending,
      committed[index]? = some pending ∧ count ≤ index + 1 ∧
        snapshot = some pending.nextState) :
    replayRecords config identity snapshot first rest = .ok state := by
  have zero : (config.emptyState identity jobId).snapshotSeq = 0 := rfl
  obtain ⟨head, found⟩ : ∃ head, committed[count]? = some head :=
    ⟨_, List.getElem?_eq_getElem bound⟩
  have headEvent : head.event = first := by
    have heads := congrArg List.head? log
    rw [List.head?_map, List.head?_drop, found] at heads
    exact (Option.some.inj heads).symm
  have headRecord := history.records head (List.mem_of_getElem? found)
  rw [headEvent] at headRecord
  obtain ⟨_, sameIdentity, sameJob⟩ := headRecord
  have firstSeq : first.eventSeq = count + 1 := by
    rw [← headEvent]
    exact history.sequence_of_getElem? zero found
  have ours : first.identity = identity := sameIdentity
  rcases covered with ⟨rfl, rfl⟩ | ⟨index, pending, stored, ahead, rfl⟩
  · have type : first.type = .streamOpened := by
      rw [← headEvent]
      exact history.opened (by rw [List.head?_eq_getElem?, found])
    obtain ⟨middle, nothing, replayed⟩ := history.cut 0 (Nat.zero_le _)
    rw [List.take_zero] at nothing
    have middleEq : middle = config.emptyState identity jobId := by
      generalize none : ([] : List PendingEvent) = before at nothing
      cases nothing with
      | start => rfl
      | snoc => simp at none
    have sameJobId : first.jobId = jobId := sameJob
    rw [← log, middleEq] at replayed
    simp only [replayRecords, firstSeq, type, ours, sameJobId]
    exact replayed
  · have indexBound : index + 1 ≤ committed.length := (List.getElem?_eq_some_iff.mp stored).1
    obtain ⟨middle, before, replayed⟩ := history.cut (index + 1) indexBound
    have middleEq : middle = pending.nextState := by
      rw [List.take_add_one, stored] at before
      exact before.last
    rw [middleEq] at before replayed
    have snapshotSeq : pending.nextState.snapshotSeq = index + 1 := by
      rw [before.snapshotSeq zero, List.length_take]
      omega
    have snapshotIdentity : pending.nextState.identity = identity := before.stays.1
    have lastSeq : ((first :: rest).getLast (List.cons_ne_nil _ _)).eventSeq =
        committed.length := by
      have lasts := congrArg List.getLast? log
      rw [List.getLast?_map, List.getLast?_drop, if_neg (by omega),
        List.getLast?_eq_some_getLast (List.cons_ne_nil _ _), List.getLast?_eq_getElem?] at lasts
      obtain ⟨final, finalFound, finalEvent⟩ := Option.map_eq_some_iff.mp lasts.symm
      have finalSeq := history.sequence_of_getElem? zero finalFound
      rw [← finalEvent, finalSeq]
      omega
    have behind := history.filter_behind zero ahead
    rw [← log] at behind
    simp only [replayRecords, ours, validateStateSnapshot, snapshotIdentity, snapshotSeq,
      lastSeq, firstSeq]
    rw [if_neg (not_not.mpr rfl), if_neg (not_not.mpr rfl), if_neg (not_not.mpr rfl),
      if_neg (not_not.mpr rfl), if_neg (by omega)]
    change (if _ then _ else _ : Except StreamError StreamState) = _
    rw [if_neg (by omega), behind]
    exact replayed

theorem load (history : History config.interpreter (config.emptyState identity jobId)
      committed state) {disk : StreamDisk} {count : Nat} (bound : count < committed.length)
    (log : disk.log = (committed.drop count).map fun pending => pending.event)
    (distinct : (disk.log.map StreamEvent.eventId).Nodup)
    (covered : (disk.snapshot = none ∧ count = 0) ∨ ∃ index pending,
      committed[index]? = some pending ∧ count ≤ index + 1 ∧
        disk.snapshot = some pending.nextState) :
    loadStateFromDisk config identity disk =
      .ok (state, eventIdsFromRecords disk.sidecar disk.log) := by
  have ours : ∀ event ∈ disk.log, ∃ pending ∈ committed, pending.event = event := by
    intro event member
    rw [log] at member
    obtain ⟨pending, stored, same⟩ := List.mem_map.mp member
    exact ⟨pending, List.mem_of_mem_drop stored, same⟩
  have read : readRecords identity disk.log = .ok disk.log := by
    apply readRecords_ok
    · intro event member
      obtain ⟨pending, stored, rfl⟩ := ours event member
      exact (history.records pending stored).1
    · intro event member
      obtain ⟨pending, stored, rfl⟩ := ours event member
      exact (history.records pending stored).2.1
    · have sequences := history.sequences_drop rfl count
      rw [← log] at sequences
      rw [sequences, log, List.length_map]
    · exact distinct
  rw [loadStateFromDisk, read]
  cases records : disk.log with
  | nil =>
    have empty := congrArg List.length (records.symm.trans log)
    rw [List.length_map, List.length_drop, List.length_nil] at empty
    omega
  | cons first rest =>
    have replayed := history.replay bound (records ▸ log) covered
    change (replayRecords config identity disk.snapshot first rest >>= _) = _
    rw [replayed]
    change (adoptStoreWorkspace config state >>= _) = _
    rw [history.adopt_eq]
    change Except.ok (backfillLifecycleMetadata state (first :: rest), _) = _
    rw [history.backfill_eq rfl (records ▸ ours)]

end History

def StreamCommand.commits : StreamCommand → Bool
  | .fail | .restart | .load | .evict => false
  | _ => true

namespace StreamSystem

def replays (system : StreamSystem) : StreamCommand → Bool
  | .advance =>
    match system.phase, system.cached with
    | .appending pending _ .started _, some cached =>
      pending.event.jobId = cached.jobId &&
        (cached.workspaceId.isSome || !pending.event.fields.has "workspace_id" ||
          pending.event.type = .streamCompleted) &&
        system.committed.all fun earlier =>
          keepsCompletion cached earlier.event pending.event
    | _, _ => true
  | _ => true

def replaysRun (config : StoreConfig) (system : StreamSystem) : List StreamCommand → Bool
  | [] => true
  | command :: rest =>
    system.replays command && replaysRun config (step config system command) rest

structure Leaves (system : StreamSystem) (disk : StreamDisk) : Prop where
  log : ∃ removed, removed < system.disk.log.length ∧ disk.log = system.disk.log.drop removed
  snapshot : (disk.snapshot = none ∧ ∀ first, disk.log.head? = some first →
      first.eventSeq = 1) ∨
    ∃ pending ∈ system.committed, disk.snapshot = some pending.nextState ∧
      ∀ first, disk.log.head? = some first → first.eventSeq ≤ pending.event.eventSeq + 1

structure Offered (config : StoreConfig) (state : StreamState) (pending : PendingEvent) :
    Prop where
  built : ∃ commit adopted moment next, PreparedFrom config commit adopted moment pending next ∧
    Checked config commit ∧
    (adopted = state ∨ (state.workspaceId = none ∧ commit.type ≠ .streamCompleted ∧ ∃ text,
      incomingWorkspace commit.identity = some text ∧
        adopted = { state with workspaceId := some text }))
  closed : state.streamStatus.isTerminal = true → pending.event.type = .interruptRejected

def Stands (config : StoreConfig) (system : StreamSystem) (state : StreamState) : Phase → Prop
  | .idle => system.cached = some state ∧ system.committed ≠ []
  | .closing held =>
    system.cached = some state ∧ system.committed ≠ [] ∧
      state.streamStatus.isTerminal = false ∧ Checked config held.commit ∧
      held.commit.type = .streamCompleted
  | .appending pending _ progress resume =>
    (progress = .started → system.cached = some state ∧ Offered config state pending ∧
      (system.committed = [] → pending.event.type = .streamOpened)) ∧
    (progress ≠ .started → state = pending.nextState ∧ system.committed ≠ []) ∧
    ∀ held, resume = some held → state.streamStatus.isTerminal = false ∧
      pending.event.type = .blockCompleted ∧ Checked config held.commit ∧
      held.commit.type = .streamCompleted

def PutAside (system : StreamSystem) : Prop :=
  ∀ pending ∈ system.committed, pending.explicit = true →
    system.disk.sidecar.has pending.event.eventId = true ∨
      ∃ needsCompaction resume,
        system.phase = .appending pending needsCompaction .logged resume

structure CommitInvariant (config : StoreConfig) (identity : StreamIdentity)
    (jobId : Option String) (system : StreamSystem) : Prop where
  ids : IdInvariant config system
  putAside : system.PutAside
  sameIdentity : system.identity = identity
  history : ∃ state, History config.interpreter (config.emptyState identity jobId)
    system.committed state ∧ system.Stands config state system.phase
  log : ∃ count, system.disk.log =
      (system.committed.drop count).map (fun pending => pending.event) ∧
    (system.committed = [] ∨ count < system.committed.length)
  distinct : (system.disk.log.map StreamEvent.eventId).Nodup

variable {config : StoreConfig} {identity : StreamIdentity} {jobId : Option String}
  {system loaded : StreamSystem} {state : StreamState} {pending : PendingEvent}
  {moment : Moment}

theorem Offered.valid (offered : Offered config state pending)
    (workspace : state.workspaceId = config.workspaceId) : ValidRecord pending.event := by
  obtain ⟨commit, adopted, moment, next, built, checked, adoption⟩ := offered.built
  rw [built.event]
  apply checked.valid
  rcases adoption with rfl | ⟨unset, _, text, brought, rfl⟩
  · exact .inl workspace
  · exact .inr ⟨workspace ▸ unset, brought.symm⟩

theorem has_envelopeFields {fields : List (String × Json)} {text : String} :
    (envelopeFields fields (some text)).has "workspace_id" = true := by
  rw [envelopeFields, Dictionary.has, Dictionary.lookup_insert_self]
  rfl

theorem Offered.follows (offered : Offered config state pending)
    (workspace : state.workspaceId = config.workspaceId)
    (sameJob : pending.event.jobId = state.jobId)
    (unbrought : state.workspaceId.isSome = true ∨
      pending.event.fields.has "workspace_id" = false ∨
        pending.event.type = .streamCompleted) :
    Follows config.interpreter state pending := by
  have valid := offered.valid workspace
  obtain ⟨commit, adopted, moment, next, built, checked, adoption⟩ := offered.built
  have same : adopted = state := by
    rcases adoption with same | ⟨unset, other, text, brought, rfl⟩
    · exact same
    · rcases unbrought with stored | lacks | completes
      · rw [unset] at stored
        cases stored
      · rw [built.event] at lacks
        simp only [buildEvent, has_envelopeFields] at lacks
        cases lacks
      · rw [built.event] at completes
        exact absurd completes other
  subst same
  refine ⟨⟨next, built.applied, ?_⟩, ?_, ?_, sameJob, valid, offered.closed⟩
  · have job : next.jobId = adopted.jobId :=
      congrArg StreamFrame.jobId (applyEvent_frame built.applied)
    have kept : (pending.event.jobId).or next.jobId = next.jobId := by
      rw [sameJob, ← job]
      exact Option.or_self
    rw [built.nextState, kept]
  · rw [built.event]
    rfl
  · rw [built.event]
    rfl

theorem stable_append {needsCompaction : Bool} {resume : Option Closing}
    (phase : system.phase = .appending pending needsCompaction .started resume)
    (cached : system.cached = some state) (stable : system.replays .advance = true) :
    pending.event.jobId = state.jobId ∧
      (state.workspaceId.isSome = true ∨ pending.event.fields.has "workspace_id" = false ∨
        pending.event.type = .streamCompleted) ∧
      ∀ earlier ∈ system.committed, keepsCompletion state earlier.event pending.event = true := by
  simp only [replays, phase, cached, Bool.and_eq_true, Bool.or_eq_true, decide_eq_true_eq,
    Bool.not_eq_true', List.all_eq_true] at stable
  exact ⟨stable.1.1, or_assoc.mp stable.1.2, stable.2⟩

theorem retainedRecords_drop (log : List StreamEvent) :
    ∃ count, config.retainedRecords log = log.drop count ∧ (log ≠ [] → count < log.length) := by
  induction log with
  | nil => exact ⟨0, rfl, fun empty => absurd rfl empty⟩
  | cons first rest ih =>
    cases rest with
    | nil => exact ⟨0, rfl, fun _ => Nat.zero_lt_one⟩
    | cons second rest =>
      simp only [StoreConfig.retainedRecords]
      split
      · obtain ⟨count, kept, bound⟩ := ih
        refine ⟨count + 1, kept, fun _ => ?_⟩
        have inside := bound (List.cons_ne_nil _ _)
        rw [List.length_cons]
        omega
      · exact ⟨0, rfl, fun _ => Nat.zero_lt_succ _⟩

theorem encodeEvent_eq {event : StreamEvent}
    (bounded : config.payloadBytes event.payload ≤ eventMaxPayloadBytes) :
    config.encodeEvent event = event := by
  rw [StoreConfig.encodeEvent, StoreConfig.boundPayload, if_pos bounded]

namespace CommitInvariant

theorem remembers (invariant : CommitInvariant config identity jobId system)
    {command : StreamCommand} (commits : command.commits = true) :
    remembers config system command = true := by
  cases command with
  | advance =>
    simp only [StreamSystem.remembers]
    split
    · rename_i pending needsCompaction resume phase
      rw [List.all_eq_true]
      intro earlier member
      cases explicit : earlier.explicit with
      | false => simp
      | true =>
        rcases invariant.putAside earlier member explicit with aside | ⟨_, _, logged⟩
        · simp [aside]
        · rw [phase] at logged
          cases logged
    · rfl
  | evict => cases commits
  | _ => rfl

theorem remember (invariant : CommitInvariant config identity jobId system)
    (remembered : Remembered system loaded) :
    CommitInvariant config identity jobId loaded := by
  have ids := invariant.ids.remember remembered
  cases remembered with
  | same => exact invariant
  | read unread ok =>
    exact ⟨ids, invariant.putAside, invariant.sameIdentity, invariant.history, invariant.log,
      invariant.distinct⟩

theorem cached (invariant : CommitInvariant config identity jobId system)
    (free : ∀ pending needsCompaction progress resume,
      system.phase ≠ .appending pending needsCompaction progress resume) :
    ∃ state, History config.interpreter (config.emptyState identity jobId)
      system.committed state ∧ system.cached = some state ∧ system.committed ≠ [] := by
  obtain ⟨state, history, standing⟩ := invariant.history
  refine ⟨state, history, ?_⟩
  cases phase : system.phase with
  | idle =>
    rw [phase] at standing
    exact standing
  | closing held =>
    rw [phase] at standing
    exact ⟨standing.1, standing.2.1⟩
  | appending pending needsCompaction progress resume =>
    exact absurd phase (free pending needsCompaction progress resume)

theorem enter (invariant : CommitInvariant config identity jobId system) {phase : Phase}
    (ids : IdInvariant config { system with phase := phase })
    (free : ∀ pending needsCompaction progress resume,
      system.phase ≠ .appending pending needsCompaction progress resume)
    (stands : ∀ state, History config.interpreter (config.emptyState identity jobId)
      system.committed state → system.cached = some state → system.committed ≠ [] →
        system.Stands config state phase) :
    CommitInvariant config identity jobId { system with phase := phase } := by
  obtain ⟨state, history, cached, nonempty⟩ := invariant.cached free
  refine ⟨ids, ?_, invariant.sameIdentity, ⟨state, history, ?_⟩, invariant.log,
    invariant.distinct⟩
  · intro pending member explicit
    rcases invariant.putAside pending member explicit with aside | ⟨_, _, logged⟩
    · exact .inl aside
    · exact absurd logged (free _ _ _ _)
  · have there := stands state history cached nonempty
    cases phase <;> exact there

theorem adoption {commit : CheckedCommit} {request : CommitRequest}
    (admitted : AdmittedOn config state request commit)
    (other : commit.type ≠ .streamCompleted) :
    commit.state = state ∨ (state.workspaceId = none ∧ commit.type ≠ .streamCompleted ∧
      ∃ text, incomingWorkspace commit.identity = some text ∧
        commit.state = { state with workspaceId := some text }) :=
  (adoptWorkspace_ok admitted.adopted).imp_right fun brought => ⟨brought.1, other, brought.2⟩

theorem offered {commit : CheckedCommit} {request : CommitRequest}
    (admitted : AdmittedOn config state request commit)
    (other : commit.type ≠ .streamCompleted)
    (prepared : prepareEvent config commit commit.state moment = .ok pending) :
    Offered config state pending := by
  obtain ⟨next, built⟩ := prepareEvent_ok prepared
  refine ⟨⟨commit, commit.state, moment, next, built, admitted.checked,
    adoption admitted other⟩, ?_⟩
  intro terminal
  rw [built.event]
  exact admitted.closed terminal

theorem logged (invariant : CommitInvariant config identity jobId system)
    {needsCompaction : Bool} {resume : Option Closing}
    (phase : system.phase = .appending pending needsCompaction .started resume)
    (stable : system.replays .advance = true)
    (bounded : config.payloadBytes pending.event.payload ≤ eventMaxPayloadBytes) :
    CommitInvariant config identity jobId
      (advanceAppend config system pending needsCompaction resume .started) := by
  obtain ⟨state, history, standing⟩ := invariant.history
  rw [phase] at standing
  obtain ⟨starts, _, waiting⟩ := standing
  obtain ⟨cached, offered, opens⟩ := starts rfl
  obtain ⟨sameJob, unbrought, kept⟩ := stable_append phase cached stable
  have workspace : state.workspaceId = config.workspaceId := history.stays.2.2
  have follows := offered.follows workspace sameJob unbrought
  have unrecorded := invariant.ids.phaseKnown
  rw [phase] at unrecorded
  refine ⟨invariant.ids.logged phase, ?_, invariant.sameIdentity,
    ⟨pending.nextState, .snoc history follows opens kept, ?_⟩, ?_, ?_⟩
  · intro other member explicit
    rcases List.mem_append.mp member with earlier | new
    · rcases invariant.putAside other earlier explicit with aside | ⟨_, _, logged⟩
      · exact .inl aside
      · rw [phase] at logged
        cases logged
    · cases List.mem_singleton.mp new
      exact .inr ⟨needsCompaction, resume, rfl⟩
  · refine ⟨nofun, fun _ => ⟨rfl, by simp [advanceAppend]⟩, ?_⟩
    intro held resumes
    obtain ⟨open_, type, checked⟩ := waiting held resumes
    refine ⟨?_, type, checked⟩
    rw [(History.Follows.frame follows).2.2.2.2, type]
    exact open_
  · obtain ⟨count, log, inside⟩ := invariant.log
    have covered : count ≤ system.committed.length ∨ system.committed = [] :=
      inside.symm.imp_left le_of_lt
    rcases covered with covered | empty
    · refine ⟨count, ?_, .inr ?_⟩
      · simp only [advanceAppend]
        rw [log, encodeEvent_eq bounded, List.drop_append_of_le_length covered, List.map_append,
          List.map_singleton]
      · simp only [advanceAppend, List.length_append, List.length_singleton]
        omega
    · refine ⟨0, ?_, .inr ?_⟩
      · simp only [advanceAppend]
        rw [log, encodeEvent_eq bounded, empty]
        simp
      · simp [advanceAppend]
  · simp only [advanceAppend]
    rw [encodeEvent_eq bounded, List.map_append, List.nodup_append]
    refine ⟨invariant.distinct, List.nodup_singleton _, ?_⟩
    rintro eventId stored _ single rfl
    obtain ⟨record, member, same⟩ := List.mem_map.mp stored
    rw [List.map_singleton, List.mem_singleton] at single
    exact unrecorded.2.1 rfl record (.inl (.inr ⟨member, same.trans single⟩))

theorem standsOn {after : StreamSystem} {needsCompaction : Bool}
    {progress next : AppendProgress} {resume : Option Closing}
    (standing : system.Stands config state
      (.appending pending needsCompaction progress resume))
    (moved : progress ≠ .started) (moves : next ≠ .started)
    (committed : after.committed = system.committed) :
    after.Stands config state (.appending pending needsCompaction next resume) := by
  refine ⟨fun started => absurd started moves, fun _ => ?_, standing.2.2⟩
  rw [committed]
  exact standing.2.1 moved

theorem recorded (invariant : CommitInvariant config identity jobId system)
    {needsCompaction : Bool} {resume : Option Closing}
    (phase : system.phase = .appending pending needsCompaction .logged resume) :
    CommitInvariant config identity jobId
      (advanceAppend config system pending needsCompaction resume .logged) := by
  obtain ⟨state, history, standing⟩ := invariant.history
  rw [phase] at standing
  refine ⟨invariant.ids.putAside phase, ?_, invariant.sameIdentity,
    ⟨state, history, standsOn standing nofun nofun rfl⟩, invariant.log, invariant.distinct⟩
  intro other member explicit
  refine .inl ?_
  simp only [advanceAppend, Dictionary.has]
  rcases invariant.putAside other member explicit with aside | ⟨_, _, logged⟩
  · split
    · rw [Dictionary.lookup_insert]
      split
      · rfl
      · exact aside
    · exact aside
  · rw [phase] at logged
    cases logged
    rw [if_pos explicit, Dictionary.lookup_insert_self]
    rfl

theorem progressed (invariant : CommitInvariant config identity jobId system)
    {needsCompaction : Bool} {next : AppendProgress} {resume : Option Closing}
    (phase : system.phase = .appending pending needsCompaction .recorded resume)
    (moves : next ≠ .started) (snapshot : Option StreamState) :
    CommitInvariant config identity jobId { system with
      disk := { system.disk with snapshot := snapshot }
      phase := .appending pending needsCompaction next resume } := by
  obtain ⟨state, history, standing⟩ := invariant.history
  rw [phase] at standing
  have moved : AppendProgress.recorded ≠ .started := nofun
  refine ⟨invariant.ids.progressed phase moved moves snapshot, ?_, invariant.sameIdentity,
    ⟨state, history, standsOn standing nofun moves rfl⟩, invariant.log, invariant.distinct⟩
  intro other member explicit
  rcases invariant.putAside other member explicit with aside | ⟨_, _, logged⟩
  · exact .inl aside
  · rw [phase] at logged
    cases logged

theorem compacted (invariant : CommitInvariant config identity jobId system)
    {needsCompaction : Bool} {resume : Option Closing}
    (phase : system.phase = .appending pending needsCompaction .snapshotted resume)
    (bounded : ∀ pending ∈ system.committed,
      config.payloadBytes pending.event.payload ≤ eventMaxPayloadBytes) :
    CommitInvariant config identity jobId
      (advanceAppend config system pending needsCompaction resume .snapshotted) := by
  obtain ⟨state, history, standing⟩ := invariant.history
  rw [phase] at standing
  obtain ⟨count, log, inside⟩ := invariant.log
  obtain ⟨removed, retained, kept⟩ := @retainedRecords_drop config system.disk.log
  have encoded : (config.retainedRecords system.disk.log).map config.encodeEvent =
      system.disk.log.drop removed := by
    rw [retained]
    have same : ∀ event ∈ system.disk.log.drop removed, config.encodeEvent event = event := by
      intro event member
      have stored := List.mem_of_mem_drop member
      rw [log] at stored
      obtain ⟨source, committed, rfl⟩ := List.mem_map.mp stored
      exact encodeEvent_eq (bounded source (List.mem_of_mem_drop committed))
    rw [List.map_congr_left same, List.map_id']
  refine ⟨invariant.ids.compacted phase (invariant.remembers rfl), ?_, invariant.sameIdentity,
    ⟨state, history, standsOn standing nofun nofun rfl⟩, ?_, ?_⟩
  · intro other member explicit
    rcases invariant.putAside other member explicit with aside | ⟨_, _, logged⟩
    · exact .inl aside
    · rw [phase] at logged
      cases logged
  · refine ⟨count + removed, ?_, ?_⟩
    · simp only [advanceAppend]
      rw [encoded, log, ← List.map_drop, List.drop_drop]
    · refine inside.imp_right fun inside => ?_
      have length : system.disk.log.length = system.committed.length - count := by
        rw [log, List.length_map, List.length_drop]
      have nonempty : system.disk.log ≠ [] := by
        rw [← List.length_pos_iff]
        omega
      have bound := kept nonempty
      simp only [advanceAppend]
      omega
  · simp only [advanceAppend]
    rw [encoded, List.map_drop]
    exact invariant.distinct.sublist (List.drop_sublist _ _)

theorem advanced (invariant : CommitInvariant config identity jobId system)
    {needsCompaction : Bool} {progress : AppendProgress} {resume : Option Closing}
    (phase : system.phase = .appending pending needsCompaction progress resume)
    (stable : system.replays .advance = true)
    (bounded : ∀ committed ∈ (advanceAppend config system pending needsCompaction resume
      progress).committed, config.payloadBytes committed.event.payload ≤ eventMaxPayloadBytes) :
    CommitInvariant config identity jobId
      (advanceAppend config system pending needsCompaction resume progress) := by
  cases progress with
  | started =>
    exact invariant.logged phase stable
      (bounded pending (List.mem_append_right _ (List.mem_singleton_self _)))
  | logged => exact invariant.recorded phase
  | recorded =>
    simp only [advanceAppend]
    split
    · have moves : AppendProgress.snapshotted ≠ .started := by simp
      exact invariant.progressed phase moves _
    · have moves : AppendProgress.done ≠ .started := by simp
      exact invariant.progressed phase moves system.disk.snapshot
  | snapshotted => exact invariant.compacted phase bounded
  | done => exact invariant

theorem published (invariant : CommitInvariant config identity jobId system)
    {needsCompaction : Bool} {resume : Option Closing}
    (phase : system.phase = .appending pending needsCompaction .done resume) :
    CommitInvariant config identity jobId (publish system pending resume) := by
  obtain ⟨state, history, standing⟩ := invariant.history
  rw [phase] at standing
  obtain ⟨_, moved, waiting⟩ := standing
  obtain ⟨rfl, nonempty⟩ := moved nofun
  refine ⟨invariant.ids.published phase, ?_, invariant.sameIdentity,
    ⟨pending.nextState, history, ?_⟩, invariant.log, invariant.distinct⟩
  · intro other member explicit
    rcases invariant.putAside other member explicit with aside | ⟨_, _, logged⟩
    · exact .inl aside
    · rw [phase] at logged
      cases logged
  · cases resume with
    | none => exact ⟨rfl, nonempty⟩
    | some held =>
      obtain ⟨open_, _, checked⟩ := waiting held rfl
      exact ⟨rfl, nonempty, open_, checked⟩

theorem settledSnapshot (invariant : CommitInvariant config identity jobId system) (index : Nat)
    (written : Bool) :
    CommitInvariant config identity jobId (settleSnapshot system index written) := by
  have ids := invariant.ids.settleSnapshot index written
  unfold StreamSystem.settleSnapshot at ids ⊢
  split
  · exact invariant
  · rename_i found
    rw [found] at ids
    obtain ⟨state, history, standing⟩ := invariant.history
    refine ⟨ids, invariant.putAside, invariant.sameIdentity, ⟨state, history, ?_⟩,
      invariant.log, invariant.distinct⟩
    simp only
    cases phase : system.phase with
    | idle | closing held | appending pending needsCompaction progress resume =>
      rw [phase] at standing
      exact standing

theorem step (invariant : CommitInvariant config identity jobId system)
    {command : StreamCommand} (commits : command.commits = true)
    (stable : system.replays command = true)
    (bounded : ∀ pending ∈ (step config system command).committed,
      config.payloadBytes pending.event.payload ≤ eventMaxPayloadBytes) :
    CommitInvariant config identity jobId (step config system command) := by
  have ids := invariant.ids.step command (invariant.remembers commits)
  have transition := streamStep_step config system command
  generalize StreamSystem.step config system command = next at transition bounded ids ⊢
  cases transition with
  | stay => exact invariant
  | answered request moment idle remembered => exact invariant.remember remembered
  | raised _ free remembered =>
    have known := invariant.remember remembered
    have stillFree := free
    rw [← remembered.phase_eq] at stillFree
    exact known.enter ids stillFree fun state history cached nonempty => ⟨cached, nonempty⟩
  | @held loaded request checked commit moment idle remembered admitted completes =>
    have known := invariant.remember remembered
    have free : ∀ pending needsCompaction progress resume,
        loaded.phase ≠ .appending pending needsCompaction progress resume := by
      simp [remembered.phase_eq, idle]
    apply known.enter ids free
    intro state history cached nonempty
    have on := admitted.on cached
    refine ⟨cached, nonempty, ?_, on.checked, completes⟩
    rw [← Bool.not_eq_true]
    intro terminal
    rw [on.closed terminal] at completes
    cases completes
  | @begun loaded request checked commit moment pending idle remembered admitted other generated
      prepared =>
      have known := invariant.remember remembered
      have free : ∀ pending needsCompaction progress resume,
          loaded.phase ≠ .appending pending needsCompaction progress resume := by
        simp [remembered.phase_eq, idle]
      apply known.enter ids free
      intro state history cached nonempty
      exact ⟨fun _ => ⟨cached, offered (admitted.on cached) other prepared,
        fun empty => absurd empty nonempty⟩, fun moved => absurd rfl moved,
        fun held resumes => absurd resumes (Option.some_ne_none held).symm⟩
  | @closing outer checked commit block remaining request moment pending phase closes admitted
      generated prepared =>
      have free : ∀ pending needsCompaction progress resume,
          system.phase ≠ .appending pending needsCompaction progress resume := by
        simp [phase]
      obtain ⟨last, _, standing⟩ := invariant.history
      rw [phase] at standing
      obtain ⟨lastCached, _, open_, outerChecked, outerType⟩ := standing
      apply invariant.enter ids free
      intro state history cached nonempty
      cases lastCached.symm.trans cached
      have on := admitted.on cached
      have type : commit.type = .blockCompleted := by
        obtain ⟨index, _, built⟩ := bind_ok closes
        cases Except.ok.inj built
        exact on.type .blockCompleted rfl nofun
      refine ⟨fun _ => ⟨cached, offered on (by simp [type]) prepared,
        fun empty => absurd empty nonempty⟩, fun moved => absurd rfl moved, ?_⟩
      intro held resumes
      cases resumes
      obtain ⟨next, built⟩ := prepareEvent_ok prepared
      refine ⟨open_, ?_, outerChecked, outerType⟩
      rw [built.event]
      exact type
  | @completing outer state moment pending phase cached generated prepared =>
    have free : ∀ pending needsCompaction progress resume,
        system.phase ≠ .appending pending needsCompaction progress resume := by
      simp [phase]
    obtain ⟨last, _, standing⟩ := invariant.history
    rw [phase] at standing
    obtain ⟨lastCached, _, open_, outerChecked, outerType⟩ := standing
    apply invariant.enter ids free
    intro stood history stoodCached nonempty
    cases lastCached.symm.trans stoodCached
    cases lastCached.symm.trans cached
    obtain ⟨next, built⟩ := prepareEvent_ok prepared
    refine ⟨fun _ => ⟨cached, ⟨⟨outer, _, moment, next, built, outerChecked, .inl rfl⟩, ?_⟩,
      fun empty => absurd empty nonempty⟩, fun moved => absurd rfl moved,
      fun held resumes => absurd resumes (Option.some_ne_none held).symm⟩
    intro terminal
    rw [open_] at terminal
    cases terminal
  | advanced phase => exact invariant.advanced phase stable bounded
  | published phase => exact invariant.published phase
  | failed | restarted | reloaded | evicted => cases commits
  | settled index written => exact invariant.settledSnapshot index written

end CommitInvariant

theorem get_opening {name : String} (known : name ∈ identityNames) :
    (openingRequest jobId).payload.get name = .null := by
  have other : "status" ≠ name := by
    rintro rfl
    revert known
    decide
  simp [openingRequest, Fields.get, Dictionary.ofList, Dictionary.insertAll, other]

theorem opening_agrees :
    ∀ field ∈ identityFields config (openingRequest jobId),
      Agrees (openingRequest jobId).payload field.1 field.2 := by
  intro field member
  obtain ⟨name, known, rfl⟩ := List.mem_map.mp member
  have inner := @get_opening jobId name known
  have agrees {envelope : Json} (outer : validIdentity envelope = true) :
      Agrees (openingRequest jobId).payload name envelope := by
    refine ⟨outer, by rw [inner]; rfl, ?_⟩
    intro outerText innerText _ innerIs
    rw [inner] at innerIs
    cases innerIs
  apply agrees
  dsimp only
  split
  · rename_i text given
    split at given
    · have named : text ≠ "" := by
        rintro rfl
        exact config.workspaceId_ne_empty given
      simp [validIdentity, Json.identifier?, named]
    · simp only [openingRequest, EventIdentifiers.get] at given
      split at given <;> cases given
  · rw [inner]
    rfl

theorem start_eq : ∃ commit pending next,
    start config identity jobId moment =
      (fresh config identity jobId).handOver config pending none ∧
    PreparedFrom config commit (config.emptyState identity jobId) moment pending next ∧
    Checked config commit ∧ commit.type = .streamOpened ∧
    commit.payload = (openingRequest jobId).payload ∧
    commit.identity = identityFields config (openingRequest jobId) ∧ commit.jobId = jobId ∧
    commit.eventId = none := by
  have unfilled : defaultIdentity (openingRequest jobId).payload
      (identityFields config (openingRequest jobId)) = (openingRequest jobId).payload := by
    have skipped : ∀ fields : List (String × Json),
        (∀ field ∈ fields, field.2 = .null ∨ field.1 = "workspace_id") →
        defaultIdentity (openingRequest jobId).payload fields = (openingRequest jobId).payload := by
      intro fields silent
      induction fields with
      | nil => rfl
      | cons field fields ih =>
        have unset := silent field List.mem_cons_self
        rw [defaultIdentity, List.foldl_cons, if_pos (unset.imp_left fun null => by rw [null])]
        exact ih fun other member => silent other (List.mem_cons_of_mem _ member)
    refine skipped _ fun field member => ?_
    obtain ⟨name, known, rfl⟩ := List.mem_map.mp member
    by_cases workspace : name = "workspace_id"
    · exact .inr workspace
    · have given : (openingRequest jobId).identifiers.get name = none := by
        unfold EventIdentifiers.get
        split <;> rfl
      left
      simp only [if_neg workspace, given]
      exact get_opening known
  have valid : validateEventIdentityFields (openingRequest jobId).payload
      (identityFields config (openingRequest jobId)) = .ok () :=
    validateEventIdentityFields_ok.mpr opening_agrees
  have payload : checkPayload config (openingRequest jobId) = .ok (.streamOpened,
      defaultIdentity (openingRequest jobId).payload
        (identityFields config (openingRequest jobId)),
      identityFields config (openingRequest jobId)) := by
    change (validateEventIdentityFields (openingRequest jobId).payload
      (identityFields config (openingRequest jobId)) >>= _) = _
    rw [valid]
    rfl
  have adopted : adoptWorkspace (config.emptyState identity jobId)
      (identityFields config (openingRequest jobId)) =
        .ok (config.emptyState identity jobId) := by
    have unbrought : (openingRequest jobId).payload.get "workspace_id" = .null :=
      get_opening (by decide)
    unfold adoptWorkspace incomingWorkspace
    rw [lookupEntries_identityFields]
    cases stored : config.workspaceId with
    | none => simp [requestedWorkspace, stored, unbrought, Json.identifier?]
    | some text =>
      have named : text ≠ "" := by
        rintro rfl
        exact config.workspaceId_ne_empty stored
      simp [requestedWorkspace, stored, Json.identifier?, named, StoreConfig.emptyState]
  let commit : CheckedCommit := ⟨.streamOpened,
    defaultIdentity (openingRequest jobId).payload
      (identityFields config (openingRequest jobId)),
    identityFields config (openingRequest jobId), config.emptyState identity jobId, jobId, none⟩
  have checks : checkCommit config (fresh config identity jobId) (openingRequest jobId) =
      .ok commit := by
    rw [checkCommit, payload]
    change (adoptWorkspace (config.emptyState identity jobId)
      (identityFields config (openingRequest jobId)) >>= _) = _
    rw [adopted]
    rfl
  have begun : beginCommit config (fresh config identity jobId) (openingRequest jobId) =
      (fresh config identity jobId, .ok (.admitted commit)) := by
    rw [beginCommit, checks]
    rfl
  obtain ⟨pending, prepared⟩ : ∃ pending,
      prepareEvent config commit commit.state moment = .ok pending :=
    ⟨_, rfl⟩
  obtain ⟨next, built⟩ := prepareEvent_ok prepared
  have generated : (fresh config identity jobId).generates moment = true := rfl
  refine ⟨commit, pending, next, ?_, built, ?_, rfl, unfilled, rfl, rfl, rfl⟩
  · have idle : (fresh config identity jobId).phase = .idle := rfl
    simp only [start, StreamSystem.step, idle, generated, begun, if_true]
    change startAppend config (fresh config identity jobId)
      (prepareEvent config commit commit.state moment) none = _
    rw [prepared]
    rfl
  · exact ⟨openingRequest jobId, rfl, opening_agrees, fun _ _ => rfl⟩

theorem CommitInvariant.start (moment : Moment) :
    CommitInvariant config identity jobId (start config identity jobId moment) := by
  have ids : IdInvariant config (StreamSystem.start config identity jobId moment) :=
    (IdInvariant.fresh identity jobId).step (.begin (openingRequest jobId) moment) rfl
  obtain ⟨commit, pending, next, started, built, checked, type, _⟩ :=
    @start_eq config identity jobId moment
  rw [started] at ids ⊢
  refine ⟨ids, ?_, rfl, ⟨config.emptyState identity jobId, .start, ?_⟩, ⟨0, rfl, .inl rfl⟩,
    List.nodup_nil⟩
  · intro pending member
    cases member
  · have opened : pending.event.type = .streamOpened := by
      rw [built.event]
      exact type
    refine ⟨fun _ => ⟨rfl, ⟨⟨commit, _, moment, next, built, checked, .inl rfl⟩, ?_⟩,
      fun _ => opened⟩, fun moved => absurd rfl moved,
      fun held resumes => absurd resumes (Option.some_ne_none held).symm⟩
    intro terminal
    cases terminal

theorem committed_reload : (reload config system).committed = system.committed := by
  unfold reload
  split <;> rfl

theorem committed_step (command : StreamCommand) :
    system.committed ⊆ (step config system command).committed := by
  have transition := streamStep_step config system command
  generalize step config system command = next at transition ⊢
  have same {later : List PendingEvent} (equal : later = system.committed) :
      system.committed ⊆ later :=
    equal ▸ List.Subset.refl system.committed
  cases transition with
  | stay | closing | completing | published | restarted => exact same rfl
  | answered _ _ _ remembered => exact same remembered.committed_eq
  | raised _ _ remembered => exact same remembered.committed_eq
  | held _ _ remembered => exact same remembered.committed_eq
  | begun _ remembered => exact same remembered.committed_eq
  | @advanced _ _ progress =>
    cases progress with
    | started => exact List.subset_append_left _ _
    | logged | snapshotted | done => exact same rfl
    | recorded =>
      simp only [advanceAppend]
      split <;> exact same rfl
  | failed => exact same committed_reload
  | reloaded => exact same committed_reload
  | evicted =>
    apply same
    unfold evict
    split
    · split <;> rfl
    · rfl
  | settled =>
    apply same
    unfold settleSnapshot
    split <;> rfl

theorem committed_run (commands : List StreamCommand) :
    system.committed ⊆ (run config system commands).committed := by
  induction commands generalizing system with
  | nil => exact List.Subset.refl _
  | cons command commands ih => exact List.Subset.trans (committed_step command) ih

theorem CommitInvariant.run (invariant : CommitInvariant config identity jobId system)
    {commands : List StreamCommand}
    (commits : ∀ command ∈ commands, command.commits = true)
    (stable : replaysRun config system commands = true)
    (bounded : ∀ pending ∈ (run config system commands).committed,
      config.payloadBytes pending.event.payload ≤ eventMaxPayloadBytes) :
    CommitInvariant config identity jobId (run config system commands) := by
  induction commands generalizing system with
  | nil => exact invariant
  | cons command commands ih =>
    obtain ⟨first, rest⟩ := Bool.and_eq_true_iff.mp stable
    have within : ∀ pending ∈ (StreamSystem.step config system command).committed,
        config.payloadBytes pending.event.payload ≤ eventMaxPayloadBytes :=
      fun pending member => bounded pending (committed_run commands member)
    have next := invariant.step (commits command (List.mem_cons_self ..)) first within
    exact ih next (fun later member => commits later (List.mem_cons_of_mem _ member)) rest
      bounded

theorem CommitInvariant.recovers (invariant : CommitInvariant config identity jobId system)
    (free : ∀ pending needsCompaction progress resume,
      system.phase ≠ .appending pending needsCompaction progress resume)
    {disk : StreamDisk} (leaves : system.Leaves disk) :
    ∃ state, system.cached = some state ∧
      loadStateFromDisk config identity disk =
        .ok (state, eventIdsFromRecords disk.sidecar disk.log) := by
  obtain ⟨state, history, cached, nonempty⟩ := invariant.cached free
  refine ⟨state, cached, ?_⟩
  obtain ⟨count, log, inside⟩ := invariant.log
  obtain ⟨removed, bound, left⟩ := leaves.log
  have zero : (config.emptyState identity jobId).snapshotSeq = 0 := rfl
  have length : system.disk.log.length = system.committed.length - count := by
    rw [log, List.length_map, List.length_drop]
  have total : count + removed < system.committed.length := by omega
  have tail : disk.log =
      (system.committed.drop (count + removed)).map fun pending => pending.event := by
    rw [left, log, ← List.map_drop, List.drop_drop]
  obtain ⟨head, found⟩ : ∃ head, system.committed[count + removed]? = some head :=
    ⟨_, List.getElem?_eq_getElem total⟩
  have first : disk.log.head? = some head.event := by
    rw [tail, List.head?_map, List.head?_drop, found]
    rfl
  have firstSeq := history.sequence_of_getElem? zero found
  apply history.load total tail
  · rw [left, List.map_drop]
    exact invariant.distinct.sublist (List.drop_sublist _ _)
  · rcases leaves.snapshot with ⟨unwritten, complete⟩ | ⟨pending, member, written, covers⟩
    · have one := complete head.event first
      exact .inl ⟨unwritten, by omega⟩
    · obtain ⟨index, stored⟩ := List.mem_iff_getElem?.mp member
      have sequence := history.sequence_of_getElem? zero stored
      have within := covers head.event first
      exact .inr ⟨index, pending, stored, by omega, written⟩

/-- Recovery rebuilds the state that the last commit stored, from every disk that the
stream can leave, in every run of commits that a reload reproduces. -/
theorem recovery_exact (config : StoreConfig) (identity : StreamIdentity)
    (jobId : Option String) (moment : Moment) (commands : List StreamCommand)
    (commits : ∀ command ∈ commands, command.commits = true)
    (stable : replaysRun config (start config identity jobId moment) commands = true)
    (bounded : ∀ pending ∈ (run config (start config identity jobId moment) commands).committed,
      config.payloadBytes pending.event.payload ≤ eventMaxPayloadBytes)
    (free : ∀ pending needsCompaction progress resume,
      (run config (start config identity jobId moment) commands).phase ≠
        .appending pending needsCompaction progress resume)
    (disk : StreamDisk)
    (leaves : (run config (start config identity jobId moment) commands).Leaves disk) :
    ∃ state, (run config (start config identity jobId moment) commands).cached = some state ∧
      loadStateFromDisk config identity disk =
        .ok (state, eventIdsFromRecords disk.sidecar disk.log) :=
  ((CommitInvariant.start moment).run commits stable bounded).recovers free leaves

/-- Two commits, the snapshot of the first of them on disk. -/
def retriedStream : StreamSystem :=
  run smallLog (start smallLog retryIdentity none ⟨"evt_1", "10:00"⟩)
    [.advance, .advance, .advance, .publish, .settleSnapshot 0 true,
      .begin (retryRequest none) ⟨"evt_2", "10:01"⟩, .advance, .advance, .advance, .publish]

theorem recovery_exact_retry : ∃ state, retriedStream.cached = some state ∧
    loadStateFromDisk smallLog retryIdentity retriedStream.disk =
      .ok (state, eventIdsFromRecords retriedStream.disk.sidecar retriedStream.disk.log) := by
  apply recovery_exact smallLog retryIdentity none ⟨"evt_1", "10:00"⟩
    [.advance, .advance, .advance, .publish, .settleSnapshot 0 true,
      .begin (retryRequest none) ⟨"evt_2", "10:01"⟩, .advance, .advance, .advance, .publish]
  · simp [StreamCommand.commits]
  · decide
  · intro pending _
    exact (by decide : 2 ≤ eventMaxPayloadBytes)
  · intro pending needsCompaction progress resume phase
    cases phase
  · refine ⟨⟨0, by decide, rfl⟩, .inr ⟨(retriedStream.committed.get ⟨0, by decide⟩),
      List.get_mem .., rfl, ?_⟩⟩
    rintro first ⟨⟩
    decide

/-- A commit that brings the job of the stream is lost by a reload without a snapshot. -/
theorem recovery_exact_lostJob :
    ¬ ∀ (config : StoreConfig) (identity : StreamIdentity) (jobId : Option String)
      (moment : Moment) (commands : List StreamCommand),
      (∀ command ∈ commands, command.commits = true) →
      (∀ pending ∈ (run config (start config identity jobId moment) commands).committed,
        config.payloadBytes pending.event.payload ≤ eventMaxPayloadBytes) →
      (∀ pending needsCompaction progress resume,
        (run config (start config identity jobId moment) commands).phase ≠
          .appending pending needsCompaction progress resume) →
      ∀ disk : StreamDisk,
        (run config (start config identity jobId moment) commands).Leaves disk →
          ∃ state,
            (run config (start config identity jobId moment) commands).cached = some state ∧
            loadStateFromDisk config identity disk =
              .ok (state, eventIdsFromRecords disk.sidecar disk.log) := by
  intro claim
  let commands : List StreamCommand := [.advance, .advance, .advance, .publish,
    .begin { retryRequest none with jobId := some "job_1" } ⟨"evt_2", "10:01"⟩,
    .advance, .advance, .advance, .publish]
  let stream := run smallLog (start smallLog retryIdentity none ⟨"evt_1", "10:00"⟩) commands
  obtain ⟨state, cached, loaded⟩ := claim smallLog retryIdentity none ⟨"evt_1", "10:00"⟩ commands
    (by simp [commands, StreamCommand.commits])
    (fun pending _ => (by decide : 2 ≤ eventMaxPayloadBytes))
    (by intro pending needsCompaction progress resume phase; cases phase)
    stream.disk
    ⟨⟨0, by decide, rfl⟩, .inl ⟨rfl, by rintro first ⟨⟩; decide⟩⟩
  have inMemory : stream.cached.map (·.jobId) = some (some "job_1") := by decide
  have reloaded : ((loadStateFromDisk smallLog retryIdentity stream.disk).toOption.map
      fun result => result.1.jobId) = some none := by decide
  rw [loaded] at reloaded
  have same : stream.cached = some state := cached
  rw [same] at inMemory
  cases (Option.some.inj reloaded).symm.trans (Option.some.inj inMemory)

end StreamSystem

end GraphAgent.MessageStream
