import GraphAgent.StreamRecovery

/-!
# The order of a stream

The number and the type of a record survive its encoding, so a reload from any
disk a stream leaves comes to the number and the status its records lead to,
whatever else it loses, and always finds a snapshot that meets its log.  Runs
here fail, crash, reload, evict and compact.
-/

namespace GraphAgent.MessageStream

open Transaction

abbrev Mark := Nat × EventType

/-- What `_encode_event` leaves of a record in any case. -/
def StreamEvent.mark (event : StreamEvent) : Mark :=
  (event.eventSeq, event.type)

def StreamState.position (state : StreamState) : Nat × StreamStatus :=
  (state.snapshotSeq, state.streamStatus)

def follow (position : Nat × StreamStatus) (mark : Mark) : Nat × StreamStatus :=
  (mark.1, position.2.after mark.2)

def positionAfter (marks : List Mark) : Nat × StreamStatus :=
  marks.foldl follow (0, .opened)

structure Extends (marks : List Mark) (mark : Mark) : Prop where
  sequence : mark.1 = marks.length + 1
  closed : (positionAfter marks).2.isTerminal = true → mark.2 = .interruptRejected

inductive Ordered : List Mark → Prop where
  | nil : Ordered []
  | snoc {marks : List Mark} {mark : Mark} (earlier : Ordered marks)
      (extended : Extends marks mark) : Ordered (marks ++ [mark])

/-- A prefix of the records leads to the state. -/
def Reflects (marks : List Mark) (state : StreamState) : Prop :=
  ∃ count ≤ marks.length, state.position = positionAfter (marks.take count)

variable {config : StoreConfig} {marks : List Mark} {mark : Mark} {state next : StreamState}
  {count : Nat}

theorem positionAfter_snoc :
    positionAfter (marks ++ [mark]) = follow (positionAfter marks) mark := by
  rw [positionAfter, List.foldl_append]
  rfl

theorem Reflects.whole (position : state.position = positionAfter marks) : Reflects marks state :=
  ⟨marks.length, le_rfl, by rwa [List.take_length]⟩

/-- The number of the snapshot on the disk, `0` where there is none. -/
def saved (snapshot : Option StreamState) : Nat :=
  (snapshot.map StreamState.snapshotSeq).getD 0

theorem saved_write (existing : Option StreamState) (state : StreamState) :
    saved existing ≤ saved (writeStateSnapshot existing state) ∧
      state.snapshotSeq ≤ saved (writeStateSnapshot existing state) := by
  cases existing with
  | none => exact ⟨Nat.zero_le _, le_rfl⟩
  | some newer =>
    rw [writeStateSnapshot]
    split
    · next behind => exact ⟨le_rfl, behind.le⟩
    · next ahead => exact ⟨not_lt.mp ahead, le_rfl⟩

namespace Ordered

theorem sequences (ordered : Ordered marks) :
    marks.map Prod.fst = List.range' 1 marks.length := by
  induction ordered with
  | nil => rfl
  | snoc _ extended ih =>
    rw [List.map_append, ih, List.length_append, List.length_singleton, List.range'_1_concat,
      List.map_singleton, extended.sequence, Nat.add_comm 1]

theorem drop_sequences (ordered : Ordered marks) (count : Nat) : (marks.drop count).map Prod.fst =
    List.range' (count + 1) (marks.drop count).length := by
  rw [List.map_drop, ordered.sequences, List.drop_range', List.length_drop, Nat.add_comm]
  simp

theorem length (ordered : Ordered marks) : (positionAfter marks).1 = marks.length := by
  cases ordered with
  | nil => rfl
  | snoc _ extended =>
    rw [positionAfter_snoc, follow, extended.sequence, List.length_append]
    rfl

theorem take (ordered : Ordered marks) (count : Nat) : Ordered (marks.take count) := by
  induction ordered with
  | nil => simpa using Ordered.nil
  | @snoc marks last earlier extended ih =>
    by_cases inside : count ≤ marks.length
    · rwa [List.take_append_of_le_length inside]
    · rw [List.take_of_length_le (by rw [List.length_append, List.length_singleton]; omega)]
      exact .snoc earlier extended

theorem covered (ordered : Ordered marks) (inside : count ≤ marks.length)
    (position : state.position = positionAfter (marks.take count)) : state.snapshotSeq = count := by
  have length := (ordered.take count).length
  rw [← position, List.length_take, Nat.min_eq_left inside] at length
  exact length

theorem extended (ordered : Ordered marks) {index : Nat} (found : marks[index]? = some mark) :
    Extends (marks.take index) mark := by
  have upTo := ordered.take (index + 1)
  rw [List.take_add_one, found] at upTo
  generalize whole : marks.take index ++ (some mark).toList = more at upTo
  cases upTo with
  | nil => simp at whole
  | snoc earlier extended =>
    obtain ⟨rfl, same⟩ := List.append_inj' whole rfl
    cases same
    exact extended

theorem terminal (ordered : Ordered marks) (member : mark ∈ marks)
    (closes : mark.2.isTerminal = true) : (positionAfter marks).2.isTerminal = true := by
  induction ordered with
  | nil => cases member
  | @snoc marks last _ extended ih =>
    rw [positionAfter_snoc, follow]
    rcases List.mem_append.mp member with before | new
    · rw [extended.closed (ih before)]
      exact ih before
    · cases List.mem_singleton.mp new
      cases type : mark.2 <;> simp [type, EventType.isTerminal] at closes <;> rfl

end Ordered

theorem filter_sequences {first : Nat}
    (dense : marks.map Prod.fst = List.range' first marks.length) :
    marks.filter (fun mark => count < mark.1) = marks.drop (count + 1 - first) := by
  induction marks generalizing first with
  | nil => simp
  | cons mark marks ih =>
    rw [List.map_cons, List.length_cons, List.range'_succ, List.cons.injEq] at dense
    have rest := ih dense.2
    by_cases ahead : count < mark.1
    · rw [List.filter_cons_of_pos (by simpa using ahead), rest,
        show count + 1 - first = 0 by omega, show count + 1 - (first + 1) = 0 by omega]
      rfl
    · rw [List.filter_cons_of_neg (by simpa using ahead), rest,
        show count + 1 - first = count + 1 - (first + 1) + 1 by omega, List.drop_succ_cons]

theorem replayEvents_position {interpreter : Json.Interpreter} {events : List StreamEvent}
    (replayed : replayEvents interpreter state events = .ok next) :
    next.position = (events.map StreamEvent.mark).foldl follow state.position := by
  induction events generalizing state with
  | nil => cases replayed; rfl
  | cons event events ih =>
    obtain ⟨middle, applied, rest⟩ := bind_ok replayed
    have status := congrArg StreamFrame.streamStatus (applyEvent_frame applied)
    rw [ih rest, List.map_cons, List.foldl_cons]
    congr 1
    exact Prod.ext rfl status

theorem adoptStoreWorkspace_position (adopted : adoptStoreWorkspace config state = .ok next) :
    next.position = state.position := by
  unfold adoptStoreWorkspace at adopted
  repeat' split at adopted
  all_goals cases adopted
  all_goals rfl

theorem replayRecords_position {identity : StreamIdentity} {snapshot : Option StreamState}
    {event : StreamEvent} {rest : List StreamEvent} (ordered : Ordered marks)
    (log : (event :: rest).map StreamEvent.mark = marks.drop count)
    (reflects : ∀ state, snapshot = some state → Reflects marks state)
    (replayed : replayRecords config identity snapshot event rest = .ok next) :
    next.position = positionAfter marks := by
  have dense := ordered.drop_sequences count
  have firstSeq : event.eventSeq = count + 1 := by
    rw [← log, List.map_cons, List.map_cons, List.length_cons, List.range'_succ] at dense
    exact (List.cons.inj dense).1
  cases snapshot with
  | none =>
    simp only [replayRecords] at replayed
    split at replayed
    · cases replayed
    · rename_i starts
      have whole : count = 0 := by omega
      subst whole
      split at replayed
      · cases replayed
      · rw [replayEvents_position replayed, log]
        rfl
  | some state =>
    obtain ⟨taken, inside, position⟩ := reflects state rfl
    have covered := ordered.covered inside position
    simp only [replayRecords] at replayed
    obtain ⟨_, _, replayed⟩ := bind_ok replayed
    split at replayed
    · cases replayed
    · have lastSeq : count + 1 ≤ ((event :: rest).getLast (List.cons_ne_nil _ _)).eventSeq := by
        have listed := List.mem_map_of_mem (f := Prod.fst)
          (List.mem_map_of_mem (f := StreamEvent.mark)
            (List.getLast_mem (List.cons_ne_nil event rest)))
        rw [log, dense] at listed
        exact (List.mem_range'_1.mp listed).1
      -- a snapshot behind the log was refused
      have behind : count ≤ taken := by omega
      rw [replayEvents_position replayed, covered]
      change List.foldl follow _ (List.map StreamEvent.mark (List.filter
        ((fun mark => decide (taken < mark.1)) ∘ StreamEvent.mark) (event :: rest))) = _
      rw [← List.filter_map, log, filter_sequences dense, List.drop_drop, position,
        positionAfter, ← List.foldl_append,
        show count + (taken + 1 - (count + 1)) = taken by omega, List.take_append_drop]
      rfl

def Current (marks : List Mark) (cached : Option StreamState) : Prop :=
  ∀ state, cached = some state → state.position = positionAfter marks

def Unclosed (marks : List Mark) : Prop :=
  (positionAfter marks).2.isTerminal = false

structure Next (marks : List Mark) (pending : PendingEvent) : Prop where
  extended : Extends marks pending.event.mark
  position : pending.nextState.position = follow (positionAfter marks) pending.event.mark

def AtPhase (marks : List Mark) (saved : Nat) (cached : Option StreamState) : Phase → Prop
  | .idle => Current marks cached
  | .closing held =>
    Current marks cached ∧ held.commit.type = .streamCompleted ∧ Unclosed marks
  | .appending pending _ progress resume =>
    (progress = .started → Next marks pending) ∧
    (progress ≠ .started → pending.nextState.position = positionAfter marks) ∧
    (progress = .snapshotted → marks.length ≤ saved) ∧
    ∀ held, resume = some held → held.commit.type = .streamCompleted ∧ Unclosed marks ∧
      pending.event.type = .blockCompleted

def StreamSystem.recorded (system : StreamSystem) : List Mark :=
  system.committed.map fun pending => pending.event.mark

structure OrderInvariant (system : StreamSystem) : Prop where
  ordered : Ordered system.recorded
  log : ∃ count ≤ saved system.disk.snapshot,
    system.disk.log.map StreamEvent.mark = system.recorded.drop count
  stored : ∀ state, system.disk.snapshot = some state ∨ state ∈ system.scheduled →
    Reflects system.recorded state
  atPhase : AtPhase system.recorded (saved system.disk.snapshot) system.cached system.phase

variable {system loaded : StreamSystem} {pending : PendingEvent} {commit : CheckedCommit}
  {moment : Moment} {phase : Phase} {needsCompaction : Bool} {progress : AppendProgress}
  {resume : Option Closing}

theorem Next.prepared (ordered : Ordered marks) (current : state.position = positionAfter marks)
    (closed : (positionAfter marks).2.isTerminal = true → commit.type = .interruptRejected)
    (prepared : prepareEvent config commit state moment = .ok pending) : Next marks pending := by
  obtain ⟨next, built⟩ := prepareEvent_ok prepared
  have sequence : state.snapshotSeq = marks.length := by
    rw [← ordered.length, ← current]
    rfl
  refine ⟨⟨?_, ?_⟩, ?_⟩
  · rw [built.event, ← sequence]
    rfl
  · rw [built.event]
    exact closed
  · rw [built.nextState, ← current]
    exact Prod.ext rfl (congrArg StreamFrame.streamStatus (applyEvent_frame built.applied))

theorem AtPhase.of_free (standing : AtPhase marks count system.cached system.phase)
    (free : ∀ pending needsCompaction progress resume,
      system.phase ≠ .appending pending needsCompaction progress resume) :
    Current marks system.cached := by
  cases phase : system.phase with
  | idle =>
    rw [phase] at standing
    exact standing
  | closing held =>
    rw [phase] at standing
    exact standing.1
  | appending => exact absurd phase (free _ _ _ _)

theorem AtPhase.cache {cached other : Option StreamState}
    (standing : AtPhase marks count cached phase) (current : Current marks other) :
    AtPhase marks count other phase := by
  cases phase with
  | idle => exact current
  | closing held => exact ⟨current, standing.2⟩
  | appending => exact standing

theorem AtPhase.save {cached : Option StreamState} {later : Nat}
    (standing : AtPhase marks count cached phase) (more : count ≤ later) :
    AtPhase marks later cached phase := by
  cases phase with
  | appending =>
    obtain ⟨next, position, covered, waiting⟩ := standing
    exact ⟨next, position, fun snapshotted => (covered snapshotted).trans more, waiting⟩
  | _ => exact standing

theorem current_none : Current marks none := by
  rintro state ⟨⟩

namespace OrderInvariant

open StreamSystem

theorem enter (invariant : OrderInvariant system)
    (stands : AtPhase system.recorded (saved system.disk.snapshot) system.cached phase) :
    OrderInvariant { system with phase := phase } :=
  ⟨invariant.ordered, invariant.log, invariant.stored, stands⟩

theorem remember (invariant : OrderInvariant system) (remembered : Remembered system loaded) :
    OrderInvariant loaded := by
  cases remembered with
  | same => exact invariant
  | read => exact ⟨invariant.ordered, invariant.log, invariant.stored, invariant.atPhase⟩

theorem loads (invariant : OrderInvariant system) {identity : StreamIdentity} {ids : EventIds}
    (loaded : loadStateFromDisk config identity system.disk = .ok (state, ids)) :
    state.position = positionAfter system.recorded := by
  obtain ⟨records, read, loaded⟩ := bind_ok loaded
  have whole : system.disk.log = records := by
    unfold readRecords at read
    split at read
    · rename_i empty
      cases read
      exact empty
    · obtain ⟨_, _, read⟩ := bind_ok read
      obtain ⟨_, _, read⟩ := bind_ok read
      exact Except.ok.inj read
  obtain ⟨count, _, log⟩ := invariant.log
  rw [whole] at log
  cases records with
  | nil => cases loaded
  | cons first rest =>
    obtain ⟨replayed, replays, loaded⟩ := bind_ok loaded
    obtain ⟨adopted, adopts, loaded⟩ := bind_ok loaded
    cases loaded
    have marked := @backfill_frame adopted (first :: rest)
    rw [← replayRecords_position invariant.ordered log
        (fun state saved => invariant.stored state (.inl saved)) replays,
      ← adoptStoreWorkspace_position adopts]
    exact Prod.ext (congrArg StreamFrame.snapshotSeq marked)
      (congrArg StreamFrame.streamStatus marked)

theorem reloaded (invariant : OrderInvariant system) : OrderInvariant (reload config system) := by
  unfold reload
  split
  · exact invariant
  · rename_i state ids loaded
    refine ⟨invariant.ordered, invariant.log, invariant.stored, invariant.atPhase.cache ?_⟩
    rintro stored ⟨⟩
    exact invariant.loads loaded

theorem written (invariant : OrderInvariant system) (reflects : Reflects system.recorded state)
    {scheduled : List StreamState} (kept : scheduled ⊆ system.scheduled) :
    ∀ stored, writeStateSnapshot system.disk.snapshot state = some stored ∨ stored ∈ scheduled →
      Reflects system.recorded stored := by
  rintro stored (written | waits)
  · unfold writeStateSnapshot at written
    split at written
    · rename_i newer existing
      split at written <;> cases written
      · exact invariant.stored _ (.inl existing)
      · exact reflects
    · cases written
      exact reflects
  · exact invariant.stored stored (.inr (kept waits))

theorem logged (invariant : OrderInvariant system)
    (phase : system.phase = .appending pending needsCompaction .started resume) :
    OrderInvariant (advanceAppend config system pending needsCompaction resume .started) := by
  have standing := invariant.atPhase
  rw [phase] at standing
  obtain ⟨next, _, _, waiting⟩ := standing
  have longer : (advanceAppend config system pending needsCompaction resume .started).recorded =
      system.recorded ++ [pending.event.mark] := by
    simp only [advanceAppend, recorded, List.map_append, List.map_singleton]
  refine ⟨?_, ?_, ?_, ?_⟩ <;> rw [longer]
  · exact .snoc invariant.ordered (next rfl).extended
  · obtain ⟨count, behind, log⟩ := invariant.log
    simp only [advanceAppend, List.map_append, List.map_singleton, log]
    by_cases inside : count ≤ system.recorded.length
    · exact ⟨count, behind, (List.drop_append_of_le_length inside).symm⟩
    · refine ⟨system.recorded.length, by omega, ?_⟩
      rw [List.drop_eq_nil_of_le (by omega), List.drop_left]
      rfl
  · intro state stored
    obtain ⟨count, inside, position⟩ := invariant.stored state stored
    refine ⟨count, by rw [List.length_append]; omega, ?_⟩
    rwa [List.take_append_of_le_length inside]
  · refine ⟨by simp, fun _ => ?_, by simp, fun held resumes => ?_⟩
    · rw [positionAfter_snoc]
      exact (next rfl).position
    · obtain ⟨completes, unclosed, type⟩ := waiting held resumes
      refine ⟨completes, ?_, type⟩
      rw [Unclosed, positionAfter_snoc, follow, StreamEvent.mark, type]
      exact unclosed

theorem advanced (invariant : OrderInvariant system)
    (phase : system.phase = .appending pending needsCompaction progress resume) :
    OrderInvariant (advanceAppend config system pending needsCompaction resume progress) := by
  have standing := invariant.atPhase
  rw [phase] at standing
  have moves (next : AppendProgress) (moved : progress ≠ .started) (later : next ≠ .started)
      {count : Nat} (covered : next = .snapshotted → system.recorded.length ≤ count) :
      AtPhase system.recorded count system.cached
        (.appending pending needsCompaction next resume) :=
    ⟨fun started => absurd started later, fun _ => standing.2.1 moved, covered, standing.2.2.2⟩
  obtain ⟨count, behind, log⟩ := invariant.log
  cases progress with
  | started => exact invariant.logged phase
  | logged =>
    exact ⟨invariant.ordered, invariant.log, invariant.stored,
      moves .recorded (by simp) (by simp) (by simp)⟩
  | recorded =>
    have position := standing.2.1 (by simp)
    simp only [advanceAppend]
    split
    · obtain ⟨more, covers⟩ := saved_write system.disk.snapshot pending.nextState
      refine ⟨invariant.ordered, ⟨count, behind.trans more, log⟩, ?_,
        moves .snapshotted (by simp) (by simp) fun _ => ?_⟩
      · exact invariant.written (.whole position) (List.Subset.refl _)
      · rwa [← invariant.ordered.length, ← position]
    · exact invariant.enter (moves .done (by simp) (by simp) (by simp))
  | snapshotted =>
    obtain ⟨removed, retained, _⟩ := @retainedRecords_drop config system.disk.log
    have kept : ((config.retainedRecords system.disk.log).map config.encodeEvent).map
        StreamEvent.mark = system.recorded.drop (count + removed) := by
      rw [retained, List.map_map]
      change List.map StreamEvent.mark _ = _
      rw [List.map_drop, log, List.drop_drop]
    refine ⟨invariant.ordered, ?_, invariant.stored, moves .done (by simp) (by simp) (by simp)⟩
    by_cases inside : count + removed ≤ system.recorded.length
    · exact ⟨_, inside.trans (standing.2.2.1 rfl), kept⟩
    · refine ⟨system.recorded.length, standing.2.2.1 rfl, kept.trans ?_⟩
      rw [List.drop_eq_nil_of_le (by omega)]
      exact List.drop_length.symm
  | done => exact invariant

theorem published (invariant : OrderInvariant system)
    (phase : system.phase = .appending pending needsCompaction .done resume) :
    OrderInvariant (publish system pending resume) := by
  have standing := invariant.atPhase
  rw [phase] at standing
  obtain ⟨_, position, _, waiting⟩ := standing
  have now : Current system.recorded (some pending.nextState) := by
    rintro state ⟨⟩
    exact position (by simp)
  refine ⟨invariant.ordered, invariant.log, ?_, ?_⟩
  · rintro state (saved | waits)
    · exact invariant.stored state (.inl saved)
    · simp only [publish] at waits
      split at waits
      · rcases List.mem_append.mp waits with before | new
        · exact invariant.stored state (.inr before)
        · cases List.mem_singleton.mp new
          exact .whole (position (by simp))
      · exact invariant.stored state (.inr waits)
  · cases resume with
    | none => exact now
    | some held => exact ⟨now, (waiting held rfl).1, (waiting held rfl).2.1⟩

theorem admittedOn (current : Current system.recorded system.cached) {request : CommitRequest}
    {checked : CheckedCommit} (admitted : Admitted config system request checked commit) :
    ∃ state, AdmittedOn config state request commit ∧
      commit.state.position = positionAfter system.recorded ∧
      ((positionAfter system.recorded).2.isTerminal = true →
        commit.type = .interruptRejected) := by
  obtain ⟨state, cached⟩ := Option.isSome_iff_exists.mp (cached_of_checkCommit admitted.checks)
  have on := admitted.on cached
  have position := current state cached
  refine ⟨state, on, ?_, fun terminal => on.closed ?_⟩
  · rw [← position]
    rcases adoptWorkspace_ok on.adopted with same | ⟨_, _, _, same⟩ <;> rw [same]
    rfl
  · rw [← position] at terminal
    exact terminal

theorem step (invariant : OrderInvariant system) (command : StreamCommand) :
    OrderInvariant (StreamSystem.step config system command) := by
  have transition := streamStep_step config system command
  generalize StreamSystem.step config system command = next at transition ⊢
  cases transition with
  | stay => exact invariant
  | answered request moment idle remembered => exact invariant.remember remembered
  | raised _ free remembered =>
    have known := invariant.remember remembered
    exact known.enter (AtPhase.of_free known.atPhase (by rwa [remembered.phase_eq]))
  | held moment idle remembered admitted completes =>
    have known := invariant.remember remembered
    have current := AtPhase.of_free known.atPhase (by simp [remembered.phase_eq, idle])
    obtain ⟨_, _, _, closed⟩ := admittedOn current admitted
    refine known.enter ⟨current, completes, ?_⟩
    rw [Unclosed, ← Bool.not_eq_true]
    intro terminal
    rw [closed terminal] at completes
    cases completes
  | begun idle remembered admitted other generated prepared =>
    have known := invariant.remember remembered
    have current := AtPhase.of_free known.atPhase (by simp [remembered.phase_eq, idle])
    obtain ⟨_, _, position, closed⟩ := admittedOn current admitted
    exact known.enter ⟨fun _ => .prepared known.ordered position closed prepared,
      fun moved => absurd rfl moved, by simp, fun held resumes => by cases resumes⟩
  | closing phase closes admitted generated prepared =>
    have standing := invariant.atPhase
    rw [phase] at standing
    obtain ⟨current, completes, unclosed⟩ := standing
    obtain ⟨_, on, position, closed⟩ := admittedOn current admitted
    refine invariant.enter ⟨fun _ => .prepared invariant.ordered position closed prepared,
      fun moved => absurd rfl moved, by simp, fun held resumes => ?_⟩
    cases resumes
    refine ⟨completes, unclosed, ?_⟩
    obtain ⟨next, built⟩ := prepareEvent_ok prepared
    obtain ⟨index, _, made⟩ := bind_ok closes
    cases Except.ok.inj made
    rw [built.event]
    exact on.type .blockCompleted rfl (by simp)
  | completing phase cached generated prepared =>
    have standing := invariant.atPhase
    rw [phase] at standing
    obtain ⟨current, _, unclosed⟩ := standing
    refine invariant.enter ⟨fun _ => .prepared invariant.ordered (current _ cached) ?_ prepared,
      fun moved => absurd rfl moved, by simp, fun held resumes => by cases resumes⟩
    intro terminal
    rw [unclosed] at terminal
    cases terminal
  | advanced phase => exact invariant.advanced phase
  | published phase => exact invariant.published phase
  | failed =>
    exact reloaded ⟨invariant.ordered, invariant.log, invariant.stored, current_none⟩
  | restarted =>
    refine ⟨invariant.ordered, invariant.log, ?_, current_none⟩
    rintro state (saved | waits)
    · exact invariant.stored state (.inl saved)
    · cases waits
  | reloaded => exact invariant.reloaded
  | evicted =>
    unfold evict
    split
    · split
      · exact ⟨invariant.ordered, invariant.log, invariant.stored,
          invariant.atPhase.cache current_none⟩
      · exact invariant
    · exact invariant
  | settled index written =>
    unfold settleSnapshot
    split
    · exact invariant
    · rename_i state found
      have member := List.mem_of_getElem? found
      have kept := List.eraseIdx_subset (l := system.scheduled) (k := index)
      cases written with
      | true =>
        obtain ⟨more, _⟩ := saved_write system.disk.snapshot state
        obtain ⟨count, behind, log⟩ := invariant.log
        exact ⟨invariant.ordered, ⟨count, behind.trans more, log⟩,
          invariant.written (invariant.stored state (.inr member)) kept,
          invariant.atPhase.save more⟩
      | false =>
        exact ⟨invariant.ordered, invariant.log,
          fun state stored => invariant.stored state (stored.imp_right (@kept state)),
          invariant.atPhase⟩

theorem reached (identity : StreamIdentity) (jobId : Option String) (moment : Moment)
    (commands : List StreamCommand) :
    OrderInvariant (run config (start config identity jobId moment) commands) := by
  have fresh : OrderInvariant (fresh config identity jobId) := by
    refine ⟨.nil, ⟨0, le_rfl, rfl⟩, ?_, ?_⟩
    · rintro state (⟨⟨⟩⟩ | ⟨⟨⟩⟩)
    · rintro state ⟨⟩
      rfl
  have started : OrderInvariant (start config identity jobId moment) := fresh.step _
  generalize start config identity jobId moment = system at started
  induction commands generalizing system with
  | nil => exact started
  | cons command commands ih => exact ih _ (started.step command)

end OrderInvariant

namespace StreamSystem

variable (config) (identity : StreamIdentity) (jobId : Option String) (moment : Moment)

/-- Records are numbered without gaps in the order of their commits, and behind one
that ends the stream there are rejected interrupts only. -/
theorem records_in_order (commands : List StreamCommand) :
    let records := (run config (start config identity jobId moment) commands).recorded
    (∀ index mark, records[index]? = some mark → mark.1 = index + 1) ∧
      ∀ index mark, records[index]? = some mark → ∀ ending ∈ records.take index,
        ending.2.isTerminal = true → mark.2 = .interruptRejected := by
  have ordered := (@OrderInvariant.reached config identity jobId moment commands).ordered
  refine ⟨fun index mark found => ?_, fun index mark found ending member closes => ?_⟩
  · obtain ⟨inside, _⟩ := List.getElem?_eq_some_iff.mp found
    rw [(ordered.extended found).sequence, List.length_take, Nat.min_eq_left inside.le]
  · exact (ordered.extended found).closed ((ordered.take index).terminal member closes)

/-- A reload from the disk of any moment, in the middle of an append too, covers every
record and has the status they lead to, and so does the state in memory whenever no
append is in flight. -/
theorem reload_covers_records (commands : List StreamCommand) :
    let system := run config (start config identity jobId moment) commands
    (∀ state ids, loadStateFromDisk config system.identity system.disk = .ok (state, ids) →
      state.snapshotSeq = system.committed.length ∧
        state.streamStatus = (positionAfter system.recorded).2) ∧
    ((∀ pending needsCompaction progress resume,
        system.phase ≠ .appending pending needsCompaction progress resume) →
      ∀ state, system.cached = some state → state.snapshotSeq = system.committed.length ∧
        state.streamStatus = (positionAfter system.recorded).2) := by
  intro system
  have invariant : OrderInvariant system := .reached identity jobId moment commands
  have covers {state : StreamState} (position : state.position = positionAfter system.recorded) :
      state.snapshotSeq = system.committed.length ∧
        state.streamStatus = (positionAfter system.recorded).2 := by
    have length := invariant.ordered.length
    rw [← position, recorded, List.length_map] at length
    exact ⟨length, congrArg Prod.snd position⟩
  exact ⟨fun state ids loaded => covers (invariant.loads loaded),
    fun free state cached => covers (invariant.atPhase.of_free free state cached)⟩

/-- The records that a compaction leaves out are in the snapshot, and the snapshot is
never ahead of the log. -/
theorem snapshot_meets_log (commands : List StreamCommand) :
    let disk := (run config (start config identity jobId moment) commands).disk
    (∀ first ∈ disk.log.head?, 1 ≤ first.eventSeq ∧ first.eventSeq ≤ saved disk.snapshot + 1) ∧
      ∀ last ∈ disk.log.getLast?, saved disk.snapshot ≤ last.eventSeq := by
  intro disk
  have invariant := @OrderInvariant.reached config identity jobId moment commands
  obtain ⟨count, behind, log⟩ : ∃ count ≤ saved disk.snapshot, disk.log.map StreamEvent.mark =
      (run config (start config identity jobId moment) commands).recorded.drop count :=
    invariant.log
  have dense := invariant.ordered.drop_sequences count
  rw [← log, List.map_map, List.length_map] at dense
  constructor
  · intro first isFirst
    have listed := congrArg List.head? dense
    rw [List.head?_map, Option.mem_def.mp isFirst, List.head?_range'] at listed
    split at listed
    · cases listed
    · have number : first.eventSeq = count + 1 := Option.some.inj listed
      exact ⟨by omega, by omega⟩
  · intro last isLast
    have listed := congrArg List.getLast? dense
    rw [List.getLast?_map, Option.mem_def.mp isLast, List.getLast?_range'] at listed
    split at listed
    · cases listed
    · have number : last.eventSeq = count + 1 + disk.log.length - 1 := Option.some.inj listed
      have length := congrArg List.length log
      rw [List.length_map, List.length_drop] at length
      cases snapshot : disk.snapshot with
      | none => exact Nat.zero_le _
      | some state =>
        obtain ⟨taken, inside, position⟩ := invariant.stored state (.inl snapshot)
        have covered := invariant.ordered.covered inside position
        rw [saved, Option.map_some, Option.getD_some]
        omega

end StreamSystem

end GraphAgent.MessageStream
