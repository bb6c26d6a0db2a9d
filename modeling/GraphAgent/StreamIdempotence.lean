import GraphAgent.StreamFrames

/-!
# Explicit event ids

That an event was applied under an explicit id is known from the log and, once
the log may have been trimmed, from the ids that were put aside.  A stream
applies such an event once as long as no compaction drops the only record of it.
-/

namespace GraphAgent

namespace Dictionary

variable {Key Value : Type*} [DecidableEq Key] {dictionary : Dictionary Key Value} {key : Key}
  {value : Value} {entries : List (Key × Value)}

theorem lookup_setDefaultAll :
    (entries.foldl (fun ids entry => ids.setDefault entry.1 entry.2) dictionary).lookup key =
      (dictionary.lookup key).or (lookupEntries key entries) := by
  induction entries generalizing dictionary with
  | nil => simp [lookupEntries]
  | cons entry entries ih =>
    obtain ⟨first, old⟩ := entry
    rw [List.foldl_cons, ih, lookup_setDefault]
    by_cases same : first = key
    · subst same
      cases dictionary.lookup first <;> simp [lookupEntries]
    · simp [lookupEntries, same]

theorem lookup_insertAll_some (found : (dictionary.insertAll entries).lookup key = some value) :
    dictionary.lookup key = some value ∨ (key, value) ∈ entries := by
  induction entries generalizing dictionary with
  | nil => exact .inl found
  | cons entry entries ih =>
    obtain ⟨first, old⟩ := entry
    have step := @ih (dictionary.insert first old) found
    rcases step with earlier | later
    · rw [lookup_insert] at earlier
      split at earlier
      · rename_i same
        cases earlier
        subst same
        exact .inr (List.mem_cons_self ..)
      · exact .inl earlier
    · exact .inr (List.mem_cons_of_mem _ later)

theorem lookup_insertAll_keeps (known : ∃ found, dictionary.lookup key = some found) :
    ∃ found, (dictionary.insertAll entries).lookup key = some found := by
  induction entries generalizing dictionary with
  | nil => exact known
  | cons entry entries ih =>
    obtain ⟨first, old⟩ := entry
    apply ih
    rw [lookup_insert]
    split
    · exact ⟨old, rfl⟩
    · exact known

theorem lookup_insertAll_of_mem (member : (key, value) ∈ entries) :
    ∃ found, (dictionary.insertAll entries).lookup key = some found := by
  induction entries generalizing dictionary with
  | nil => cases member
  | cons entry entries ih =>
    rcases List.mem_cons.mp member with rfl | later
    · have known : ∃ found, (dictionary.insert key value).lookup key = some found :=
        ⟨value, lookup_insert_self⟩
      exact @lookup_insertAll_keeps _ _ _ (dictionary.insert key value) _ _ known
    · exact ih later

end Dictionary

namespace MessageStream

open Transaction

inductive RecordOf (config : StoreConfig) (event : StreamEvent) : StreamEvent → Prop where
  | same : RecordOf config event event
  | encoded {record : StreamEvent} (kept : RecordOf config event record) :
      RecordOf config event (config.encodeEvent record)

def StreamDisk.Holds (disk : StreamDisk) (eventId : String) (record : StreamEvent) : Prop :=
  disk.sidecar.lookup eventId = some record ∨ (record ∈ disk.log ∧ record.eventId = eventId)

namespace StreamSystem

def knownIds (system : StreamSystem) : EventIds :=
  system.eventIds.getD Dictionary.empty

def OnRecord (system : StreamSystem) (eventId : String) (record : StreamEvent) : Prop :=
  system.disk.Holds eventId record ∨ system.knownIds.lookup eventId = some record

def explicitIds (system : StreamSystem) : List String :=
  (system.committed.filter fun pending => pending.explicit).map fun pending =>
    pending.event.eventId

def remembers (config : StoreConfig) (system : StreamSystem) : StreamCommand → Bool
  | .advance =>
    match system.phase with
    | .appending _ _ .snapshotted _ =>
      system.committed.all fun earlier =>
        !earlier.explicit || system.disk.sidecar.has earlier.event.eventId ||
          (config.retainedRecords system.disk.log).any fun record =>
            record.eventId = earlier.event.eventId
    | _ => true
  | .evict =>
    match system.phase with
    | .appending .. => !(system.cached.any fun state => state.streamStatus.isTerminal)
    | _ => true
  | _ => true

def remembersRun (config : StoreConfig) (system : StreamSystem) : List StreamCommand → Bool
  | [] => true
  | command :: rest =>
    remembers config system command && remembersRun config (step config system command) rest

structure AppliesOnce (config : StoreConfig) (system : StreamSystem) : Prop where
  distinct : system.explicitIds.Nodup
  answers : ∀ earlier ∈ system.committed, earlier.explicit = true → system.phase = .idle →
    ∀ request : CommitRequest, request.eventId = some earlier.event.eventId →
      (∃ error, (beginCommit config system request).2 = .error error) ∨
        ∃ record, (beginCommit config system request).2 = .ok (.duplicate record) ∧
          RecordOf config earlier.event record
  unchanged : ∀ earlier ∈ system.committed, earlier.explicit = true → system.phase = .idle →
    ∀ (request : CommitRequest) (moment : Moment),
      request.eventId = some earlier.event.eventId →
        ∃ eventIds,
          step config system (.begin request moment) = { system with eventIds := eventIds }

def InFlight (system : StreamSystem) (eventId : String) : Prop :=
  ∃ pending needsCompaction progress resume,
    system.phase = .appending pending needsCompaction progress resume ∧ progress ≠ .started ∧
      pending.event.eventId = eventId

def Unclaimed (system : StreamSystem) (held : Closing) : Prop :=
  ∀ eventId, held.commit.eventId = some eventId → ∀ record, ¬ system.OnRecord eventId record

def PhaseKnown (system : StreamSystem) : Phase → Prop
  | .idle => True
  | .closing held => system.Unclaimed held
  | .appending pending _ progress resume =>
    system.cached.isSome = true ∧
    (progress = .started → ∀ record, ¬ system.OnRecord pending.event.eventId record) ∧
    (progress ≠ .started → pending ∈ system.committed ∧
      ∀ other ∈ system.committed, other.explicit = true →
        other.event.eventId = pending.event.eventId → other = pending) ∧
    ∀ held, resume = some held →
      system.Unclaimed held ∧ held.commit.eventId ≠ some pending.event.eventId

structure IdInvariant (config : StoreConfig) (system : StreamSystem) : Prop where
  issued : ∀ eventId record, system.OnRecord eventId record →
    ∃ pending ∈ system.committed, pending.event.eventId = eventId
  faithful : ∀ pending ∈ system.committed, pending.explicit = true →
    ∀ record, system.OnRecord pending.event.eventId record →
      RecordOf config pending.event record
  durable : ∀ pending ∈ system.committed, pending.explicit = true →
    ∃ record, system.disk.Holds pending.event.eventId record
  remembered : system.cached.isSome = true → ∀ eventId record,
    system.disk.Holds eventId record → system.InFlight eventId ∨
      ∃ known, system.knownIds.lookup eventId = some known
  distinct : system.explicitIds.Nodup
  phaseKnown : system.PhaseKnown system.phase

end StreamSystem

variable {config : StoreConfig} {system loaded : StreamSystem} {request : CommitRequest}
  {commit : CheckedCommit} {pending : PendingEvent} {moment : Moment}

theorem lookup_eventIdsFromRecords_some {sidecar : EventIds} {records : List StreamEvent}
    {eventId : String} {record : StreamEvent}
    (found : (eventIdsFromRecords sidecar records).lookup eventId = some record) :
    sidecar.lookup eventId = some record ∨ (record ∈ records ∧ record.eventId = eventId) := by
  rw [eventIdsFromRecords, Dictionary.lookup_setDefaultAll, Option.or_eq_some_iff] at found
  rcases found with listed | ⟨_, aside⟩
  · rcases Dictionary.lookup_insertAll_some listed with none | member
    · cases none
    · obtain ⟨event, stored, same⟩ := List.mem_map.mp member
      cases same
      exact .inr ⟨stored, rfl⟩
  · exact .inl aside

theorem lookup_eventIdsFromRecords_of_holds {disk : StreamDisk} {eventId : String}
    {record : StreamEvent} (holds : disk.Holds eventId record) :
    ∃ known, (eventIdsFromRecords disk.sidecar disk.log).lookup eventId = some known := by
  rw [eventIdsFromRecords, Dictionary.lookup_setDefaultAll]
  rcases holds with aside | ⟨stored, rfl⟩
  · cases listed : (Dictionary.ofList
      (disk.log.map fun event => (event.eventId, event))).lookup eventId with
    | some known => exact ⟨known, rfl⟩
    | none => exact ⟨record, aside⟩
  · have member : (record.eventId, record) ∈
        disk.log.map fun event => (event.eventId, event) :=
      List.mem_map.mpr ⟨record, stored, rfl⟩
    obtain ⟨known, listed⟩ :=
      @Dictionary.lookup_insertAll_of_mem _ _ _ Dictionary.empty _ _ _ member
    refine ⟨known, ?_⟩
    rw [Dictionary.ofList, listed]
    rfl

theorem readRecords_eq {identity : StreamIdentity} {log records : List StreamEvent}
    (ok : readRecords identity log = .ok records) : records = log := by
  unfold readRecords at ok
  split at ok
  · exact (Except.ok.inj ok).symm
  · obtain ⟨_, _, checked⟩ := bind_ok ok
    obtain ⟨_, _, built⟩ := bind_ok checked
    exact (Except.ok.inj built).symm

theorem loadStateFromDisk_ids {identity : StreamIdentity} {disk : StreamDisk}
    {state : StreamState} {ids : EventIds}
    (ok : loadStateFromDisk config identity disk = .ok (state, ids)) :
    ids = eventIdsFromRecords disk.sidecar disk.log := by
  obtain ⟨records, read, rest⟩ := bind_ok ok
  have same := readRecords_eq read
  split at rest
  · cases rest
  · rename_i first tail
    obtain ⟨replayed, _, adopting⟩ := bind_ok rest
    obtain ⟨adopted, _, built⟩ := bind_ok adopting
    cases built
    rw [same]

namespace StreamSystem

theorem IdInvariant.of_cache {after : StreamSystem} (invariant : IdInvariant config system)
    (disk : after.disk.log = system.disk.log ∧ after.disk.sidecar = system.disk.sidecar)
    (committed : after.committed = system.committed)
    (known : ∀ eventId record, after.knownIds.lookup eventId = some record →
      system.OnRecord eventId record)
    (remembered : after.cached.isSome = true → ∀ eventId record,
      after.disk.Holds eventId record → after.InFlight eventId ∨
        ∃ found, after.knownIds.lookup eventId = some found)
    (phaseKnown : (∀ eventId record, after.OnRecord eventId record →
        system.OnRecord eventId record) → after.PhaseKnown after.phase) :
    IdInvariant config after := by
  have holds (eventId : String) (record : StreamEvent) :
      after.disk.Holds eventId record ↔ system.disk.Holds eventId record := by
    simp only [StreamDisk.Holds, disk.1, disk.2]
  have onRecord (eventId : String) (record : StreamEvent)
      (stored : after.OnRecord eventId record) : system.OnRecord eventId record := by
    rcases stored with held | cached
    · exact .inl ((holds eventId record).mp held)
    · exact known eventId record cached
  constructor
  · intro eventId record stored
    rw [committed]
    exact invariant.issued eventId record (onRecord eventId record stored)
  · intro pending member explicit record stored
    rw [committed] at member
    exact invariant.faithful pending member explicit record (onRecord _ _ stored)
  · intro pending member explicit
    rw [committed] at member
    obtain ⟨record, held⟩ := invariant.durable pending member explicit
    exact ⟨record, (holds _ _).mpr held⟩
  · exact remembered
  · rw [explicitIds, committed]
    exact invariant.distinct
  · exact phaseKnown onRecord

theorem PhaseKnown.of_fewer {after : StreamSystem}
    (fewer : ∀ eventId record, after.OnRecord eventId record → system.OnRecord eventId record)
    (committed : after.committed = system.committed)
    (cached : system.cached.isSome = true → after.cached.isSome = true) {phase : Phase}
    (known : system.PhaseKnown phase) : after.PhaseKnown phase := by
  have unclaimed {held : Closing} (unclaimed : system.Unclaimed held) :
      after.Unclaimed held :=
    fun eventId named record stored => unclaimed eventId named record (fewer _ _ stored)
  cases phase with
  | idle => trivial
  | closing held => exact unclaimed known
  | appending pending needsCompaction progress resume =>
    obtain ⟨inCache, started, stored, waiting⟩ := known
    refine ⟨cached inCache, ?_, ?_, ?_⟩
    · intro isStarted record onRecord
      exact started isStarted record (fewer _ _ onRecord)
    · rw [committed]
      exact stored
    · intro held resumes
      obtain ⟨free, other⟩ := waiting held resumes
      exact ⟨unclaimed free, other⟩

theorem IdInvariant.read (invariant : IdInvariant config system) {cached : Option StreamState}
    (stays : system.cached.isSome = true → cached.isSome = true) :
    IdInvariant config { system with
      cached := cached
      eventIds := some (eventIdsFromRecords system.disk.sidecar system.disk.log) } := by
  refine invariant.of_cache ⟨rfl, rfl⟩ rfl ?_ ?_ ?_
  · intro eventId record found
    exact .inl (lookup_eventIdsFromRecords_some found)
  · intro _ eventId record held
    exact .inr (lookup_eventIdsFromRecords_of_holds held)
  · intro fewer
    exact invariant.phaseKnown.of_fewer fewer rfl stays

theorem IdInvariant.remember (invariant : IdInvariant config system)
    (remembered : Remembered system loaded) : IdInvariant config loaded := by
  cases remembered with
  | same => exact invariant
  | read unread ok =>
    rw [readRecords_eq ok]
    exact invariant.read id

theorem IdInvariant.drop (invariant : IdInvariant config system) (scheduled : List StreamState)
    {phase : Phase}
    (kept : phase = .idle ∨ phase = system.phase ∧
      ∀ pending needsCompaction progress resume,
        system.phase ≠ .appending pending needsCompaction progress resume) :
    IdInvariant config { system with
      cached := none, eventIds := none, scheduled := scheduled, phase := phase } := by
  refine invariant.of_cache ⟨rfl, rfl⟩ rfl ?_ ?_ ?_
  · intro eventId record found
    cases found
  · intro stored
    cases stored
  · intro fewer
    rcases kept with rfl | ⟨rfl, free⟩
    · trivial
    · have known := invariant.phaseKnown
      cases phase : system.phase with
      | idle => trivial
      | closing held =>
        rw [phase] at known
        exact fun eventId named record stored => known eventId named record (fewer _ _ stored)
      | appending pending needsCompaction progress resume =>
        exact absurd phase (free pending needsCompaction progress resume)

theorem IdInvariant.reload (invariant : IdInvariant config system) :
    IdInvariant config (reload config system) := by
  unfold StreamSystem.reload
  split
  · exact invariant
  · rename_i state ids ok
    rw [loadStateFromDisk_ids ok]
    exact invariant.read fun _ => rfl

theorem IdInvariant.enter (invariant : IdInvariant config system)
    (free : ∀ pending needsCompaction progress resume,
      system.phase ≠ .appending pending needsCompaction progress resume)
    {phase : Phase} (known : system.PhaseKnown phase) :
    IdInvariant config { system with phase := phase } := by
  refine invariant.of_cache ⟨rfl, rfl⟩ rfl ?_ ?_ ?_
  · intro eventId record found
    exact .inr found
  · intro cached eventId record held
    rcases invariant.remembered cached eventId record held with flight | found
    · obtain ⟨pending, needsCompaction, progress, resume, appending, _⟩ := flight
      exact absurd appending (free pending needsCompaction progress resume)
    · exact .inr found
  · intro fewer
    exact known.of_fewer fewer rfl id

theorem IdInvariant.unknown (invariant : IdInvariant config system)
    (free : ∀ pending needsCompaction progress resume,
      system.phase ≠ .appending pending needsCompaction progress resume)
    (cached : system.cached.isSome = true) {eventId : String}
    (unknown : system.knownIds.lookup eventId = none) (record : StreamEvent) :
    ¬ system.OnRecord eventId record := by
  rintro (held | known)
  · rcases invariant.remembered cached eventId record held with flight | ⟨known, found⟩
    · obtain ⟨pending, needsCompaction, progress, resume, appending, _⟩ := flight
      exact free pending needsCompaction progress resume appending
    · rw [unknown] at found
      cases found
  · rw [unknown] at known
    cases known

theorem cached_of_checkCommit {checked : CheckedCommit}
    (ok : checkCommit config system request = .ok checked) : system.cached.isSome = true := by
  obtain ⟨fields, _, rest⟩ := bind_ok ok
  cases cached : system.cached with
  | none => simp [cached] at rest
  | some state => rfl

theorem IdInvariant.admitted (invariant : IdInvariant config system)
    (free : ∀ pending needsCompaction progress resume,
      system.phase ≠ .appending pending needsCompaction progress resume)
    {checked : CheckedCommit} (admitted : Admitted config system request checked commit)
    {eventId : String} (named : commit.eventId = some eventId) (record : StreamEvent) :
    ¬ system.OnRecord eventId record := by
  have requested : request.eventId = some eventId := by
    rw [← checkCommit_eventId admitted.checks, ← named, admitted.rest]
  exact invariant.unknown free (cached_of_checkCommit admitted.checks)
    (admitted.unknown eventId requested) record

theorem IdInvariant.prepared (invariant : IdInvariant config system)
    (generated : system.generates moment = true)
    (unclaimed : ∀ eventId, commit.eventId = some eventId →
      ∀ record, ¬ system.OnRecord eventId record)
    {state : StreamState} (prepared : prepareEvent config commit state moment = .ok pending)
    (record : StreamEvent) : ¬ system.OnRecord pending.event.eventId record := by
  obtain ⟨next, built⟩ := prepareEvent_ok prepared
  have fresh : ¬ system.OnRecord moment.generatedId record := by
    intro stored
    obtain ⟨earlier, member, same⟩ := invariant.issued _ _ stored
    have taken : moment.generatedId ∈ system.takenIds :=
      List.mem_append_left _ (List.mem_map.mpr ⟨earlier, member, same⟩)
    simp only [generates, decide_eq_true_eq] at generated
    exact generated taken
  rw [built.event, buildEvent]
  cases named : commit.eventId with
  | none => exact fresh
  | some text =>
    by_cases blank : text = ""
    · simpa [blank] using fresh
    · simpa [blank] using unclaimed text named record

theorem explicitIds_snoc {after : StreamSystem}
    (committed : after.committed = system.committed ++ [pending]) :
    after.explicitIds =
      if pending.explicit then system.explicitIds ++ [pending.event.eventId]
      else system.explicitIds := by
  rw [explicitIds, committed, List.filter_append, List.map_append]
  cases explicit : pending.explicit <;> simp [explicit, explicitIds]

theorem IdInvariant.logged (invariant : IdInvariant config system) {needsCompaction : Bool}
    {resume : Option Closing}
    (phase : system.phase = .appending pending needsCompaction .started resume) :
    IdInvariant config
      (advanceAppend config system pending needsCompaction resume .started) := by
  have known := invariant.phaseKnown
  rw [phase] at known
  obtain ⟨inCache, started, _, waiting⟩ := known
  have unrecorded := started rfl
  have holds (eventId : String) (record : StreamEvent)
      (held : (advanceAppend config system pending needsCompaction resume .started).disk.Holds
        eventId record) :
      system.disk.Holds eventId record ∨
        (record = config.encodeEvent pending.event ∧ eventId = pending.event.eventId) := by
    rcases held with aside | ⟨member, rfl⟩
    · exact .inl (.inl aside)
    · rcases List.mem_append.mp member with stored | fresh
      · exact .inl (.inr ⟨stored, rfl⟩)
      · cases List.mem_singleton.mp fresh
        exact .inr ⟨rfl, rfl⟩
  have onRecord (eventId : String) (record : StreamEvent)
      (stored : (advanceAppend config system pending needsCompaction resume .started).OnRecord
        eventId record) :
      system.OnRecord eventId record ∨
        (record = config.encodeEvent pending.event ∧ eventId = pending.event.eventId) := by
    rcases stored with held | cached
    · exact (holds eventId record held).imp_left .inl
    · exact .inl (.inr cached)
  have apart {other : PendingEvent} (member : other ∈ system.committed)
      (explicit : other.explicit = true) : other.event.eventId ≠ pending.event.eventId := by
    intro same
    obtain ⟨record, held⟩ := invariant.durable other member explicit
    exact unrecorded record (.inl (same ▸ held))
  constructor
  · intro eventId record stored
    rcases onRecord eventId record stored with earlier | ⟨_, rfl⟩
    · obtain ⟨source, member, same⟩ := invariant.issued eventId record earlier
      exact ⟨source, List.mem_append_left _ member, same⟩
    · exact ⟨pending, List.mem_append_right _ (List.mem_singleton_self _), rfl⟩
  · intro other member explicit record stored
    rcases List.mem_append.mp member with earlier | new
    · rcases onRecord _ record stored with before | ⟨_, same⟩
      · exact invariant.faithful other earlier explicit record before
      · exact absurd same (apart earlier explicit)
    · cases List.mem_singleton.mp new
      rcases onRecord _ record stored with before | ⟨rfl, _⟩
      · exact absurd before (unrecorded record)
      · exact .encoded .same
  · intro other member explicit
    rcases List.mem_append.mp member with earlier | new
    · obtain ⟨record, held⟩ := invariant.durable other earlier explicit
      refine ⟨record, ?_⟩
      exact held.imp_right fun stored => ⟨List.mem_append_left _ stored.1, stored.2⟩
    · cases List.mem_singleton.mp new
      exact ⟨config.encodeEvent pending.event,
        .inr ⟨List.mem_append_right _ (List.mem_singleton_self _), rfl⟩⟩
  · intro cached eventId record held
    rcases holds eventId record held with earlier | ⟨_, rfl⟩
    · rcases invariant.remembered cached eventId record earlier with flight | found
      · obtain ⟨_, _, _, _, appending, moved, _⟩ := flight
        rw [phase] at appending
        cases appending
        exact absurd rfl moved
      · exact .inr found
    · exact .inl ⟨pending, needsCompaction, .logged, resume, rfl, nofun, rfl⟩
  · rw [explicitIds_snoc rfl]
    split
    · rw [List.nodup_append]
      refine ⟨invariant.distinct, List.nodup_singleton _, ?_⟩
      intro eventId stored other single
      obtain ⟨source, member, rfl⟩ := List.mem_map.mp stored
      obtain ⟨committed, explicit⟩ := List.mem_filter.mp member
      rw [List.mem_singleton.mp single]
      exact apart committed explicit
    · exact invariant.distinct
  · refine ⟨inCache, nofun, ?_, ?_⟩
    · intro _
      refine ⟨List.mem_append_right _ (List.mem_singleton_self _), ?_⟩
      intro other member explicit same
      rcases List.mem_append.mp member with earlier | new
      · exact absurd same (apart earlier explicit)
      · exact List.mem_singleton.mp new
    · intro held resumes
      obtain ⟨free, differs⟩ := waiting held resumes
      refine ⟨?_, differs⟩
      intro eventId named record stored
      rcases onRecord eventId record stored with earlier | ⟨_, rfl⟩
      · exact free eventId named record earlier
      · exact differs named

theorem IdInvariant.of_recorded {after : StreamSystem} (invariant : IdInvariant config system)
    (committed : after.committed = system.committed) (stored : pending ∈ system.committed)
    (sole : ∀ other ∈ system.committed, other.explicit = true →
      other.event.eventId = pending.event.eventId → other = pending)
    (fewer : ∀ eventId record, after.OnRecord eventId record →
      system.OnRecord eventId record ∨
        (record = pending.event ∧ eventId = pending.event.eventId))
    (durable : ∀ other ∈ system.committed, other.explicit = true →
      ∃ record, after.disk.Holds other.event.eventId record)
    (remembered : after.cached.isSome = true → ∀ eventId record,
      after.disk.Holds eventId record → after.InFlight eventId ∨
        ∃ found, after.knownIds.lookup eventId = some found)
    (phaseKnown : after.PhaseKnown after.phase) : IdInvariant config after := by
  constructor
  · intro eventId record onRecord
    rw [committed]
    rcases fewer eventId record onRecord with earlier | ⟨_, rfl⟩
    · exact invariant.issued eventId record earlier
    · exact ⟨pending, stored, rfl⟩
  · intro other member explicit record onRecord
    rw [committed] at member
    rcases fewer _ record onRecord with earlier | ⟨rfl, same⟩
    · exact invariant.faithful other member explicit record earlier
    · cases sole other member explicit same
      exact .same
  · rw [committed]
    exact durable
  · exact remembered
  · rw [explicitIds, committed]
    exact invariant.distinct
  · exact phaseKnown

theorem Unclaimed.of_recorded {after : StreamSystem} {held : Closing}
    (unclaimed : system.Unclaimed held)
    (differs : held.commit.eventId ≠ some pending.event.eventId)
    (fewer : ∀ eventId record, after.OnRecord eventId record →
      system.OnRecord eventId record ∨
        (record = pending.event ∧ eventId = pending.event.eventId)) :
    after.Unclaimed held := by
  intro eventId named record onRecord
  rcases fewer eventId record onRecord with earlier | ⟨_, rfl⟩
  · exact unclaimed eventId named record earlier
  · exact differs named

theorem IdInvariant.putAside (invariant : IdInvariant config system) {needsCompaction : Bool}
    {resume : Option Closing}
    (phase : system.phase = .appending pending needsCompaction .logged resume) :
    IdInvariant config (advanceAppend config system pending needsCompaction resume .logged) := by
  have known := invariant.phaseKnown
  rw [phase] at known
  obtain ⟨inCache, _, moved, waiting⟩ := known
  obtain ⟨stored, sole⟩ := moved fun other => by cases other
  have aside (eventId : String) (record : StreamEvent)
      (found : (advanceAppend config system pending needsCompaction resume
        .logged).disk.sidecar.lookup eventId = some record) :
      system.disk.sidecar.lookup eventId = some record ∨
        (record = pending.event ∧ eventId = pending.event.eventId) := by
    simp only [advanceAppend] at found
    split at found
    · rw [Dictionary.lookup_insert] at found
      split at found
      · rename_i same
        exact .inr ⟨(Option.some.inj found).symm, same.symm⟩
      · exact .inl found
    · exact .inl found
  have fewer (eventId : String) (record : StreamEvent)
      (onRecord : (advanceAppend config system pending needsCompaction resume
        .logged).OnRecord eventId record) :
      system.OnRecord eventId record ∨
        (record = pending.event ∧ eventId = pending.event.eventId) := by
    rcases onRecord with (found | logged) | cached
    · exact (aside eventId record found).imp_left fun found => .inl (.inl found)
    · exact .inl (.inl (.inr logged))
    · exact .inl (.inr cached)
  refine invariant.of_recorded rfl stored sole fewer ?_ ?_ ?_
  · intro other member explicit
    obtain ⟨record, found | logged⟩ := invariant.durable other member explicit
    · simp only [StreamDisk.Holds, advanceAppend]
      split
      · by_cases same : pending.event.eventId = other.event.eventId
        · exact ⟨pending.event, .inl (by rw [same, Dictionary.lookup_insert_self])⟩
        · exact ⟨record, .inl (by rw [Dictionary.lookup_insert_of_ne same, found])⟩
      · exact ⟨record, .inl found⟩
    · exact ⟨record, .inr logged⟩
  · intro cached eventId record held
    have flight {recorded : String} (flight : system.InFlight recorded) :
        (advanceAppend config system pending needsCompaction resume .logged).InFlight
          recorded := by
      obtain ⟨_, _, _, _, appending, _, same⟩ := flight
      rw [phase] at appending
      cases appending
      exact ⟨pending, needsCompaction, .recorded, resume, rfl, by simp, same⟩
    rcases held with found | logged
    · rcases aside eventId record found with earlier | ⟨_, rfl⟩
      · exact (invariant.remembered cached eventId record (.inl earlier)).imp_left flight
      · exact .inl ⟨pending, needsCompaction, .recorded, resume, rfl, by simp, rfl⟩
    · exact (invariant.remembered cached eventId record (.inr logged)).imp_left flight
  · refine ⟨inCache, (fun other => by cases other), fun _ => ⟨stored, sole⟩, ?_⟩
    intro held resumes
    obtain ⟨free, differs⟩ := waiting held resumes
    exact ⟨free.of_recorded differs fewer, differs⟩

theorem IdInvariant.progressed (invariant : IdInvariant config system)
    {needsCompaction : Bool} {progress next : AppendProgress} {resume : Option Closing}
    (phase : system.phase = .appending pending needsCompaction progress resume)
    (moved : progress ≠ .started) (moves : next ≠ .started) (snapshot : Option StreamState) :
    IdInvariant config { system with
      disk := { system.disk with snapshot := snapshot }
      phase := .appending pending needsCompaction next resume } := by
  refine invariant.of_cache ⟨rfl, rfl⟩ rfl ?_ ?_ ?_
  · intro eventId record found
    exact .inr found
  · intro cached eventId record held
    rcases invariant.remembered cached eventId record held with flight | found
    · obtain ⟨_, _, _, _, appending, _, same⟩ := flight
      rw [phase] at appending
      cases appending
      exact .inl ⟨pending, needsCompaction, next, resume, rfl, moves, same⟩
    · exact .inr found
  · intro fewer
    have known := invariant.phaseKnown
    rw [phase] at known
    obtain ⟨inCache, _, stored, waiting⟩ := known
    apply PhaseKnown.of_fewer fewer rfl id
    exact ⟨inCache, fun started => absurd started moves, fun _ => stored moved, waiting⟩

theorem retainedRecords_encoded {log : List StreamEvent} {record : StreamEvent}
    (member : record ∈ config.retainedRecords log) : record ∈ log := by
  induction log with
  | nil => exact member
  | cons first rest ih =>
    cases rest with
    | nil => exact member
    | cons second rest =>
      simp only [StoreConfig.retainedRecords] at member
      split at member
      · exact List.mem_cons_of_mem _ (ih member)
      · exact member

theorem remembers_compaction {needsCompaction : Bool} {resume : Option Closing}
    (phase : system.phase = .appending pending needsCompaction .snapshotted resume)
    (kept : remembers config system .advance = true) {earlier : PendingEvent}
    (member : earlier ∈ system.committed) (explicit : earlier.explicit = true) :
    (∃ record, system.disk.sidecar.lookup earlier.event.eventId = some record) ∨
      ∃ record ∈ config.retainedRecords system.disk.log,
        record.eventId = earlier.event.eventId := by
  simp only [remembers, phase, List.all_eq_true] at kept
  have known := kept earlier member
  simp only [explicit, Bool.not_true, Bool.false_or, Bool.or_eq_true, List.any_eq_true,
    decide_eq_true_eq] at known
  exact known.imp_left Option.isSome_iff_exists.mp

theorem IdInvariant.compacted (invariant : IdInvariant config system) {needsCompaction : Bool}
    {resume : Option Closing}
    (phase : system.phase = .appending pending needsCompaction .snapshotted resume)
    (kept : remembers config system .advance = true) :
    IdInvariant config
      (advanceAppend config system pending needsCompaction resume .snapshotted) := by
  have known := invariant.phaseKnown
  rw [phase] at known
  obtain ⟨inCache, _, moved, waiting⟩ := known
  obtain ⟨stored, sole⟩ := moved nofun
  have retained (eventId : String) (record : StreamEvent)
      (found : record ∈ config.retainedRecords system.disk.log ∧ record.eventId = eventId) :
      system.disk.Holds eventId record :=
    .inr ⟨retainedRecords_encoded found.1, found.2⟩
  have cached (eventId : String) (record : StreamEvent)
      (found : (advanceAppend config system pending needsCompaction resume
        .snapshotted).knownIds.lookup eventId = some record) :
      system.disk.Holds eventId record :=
    (lookup_eventIdsFromRecords_some found).elim .inl (retained eventId record)
  have onRecord (eventId : String) (record : StreamEvent)
      (stored : (advanceAppend config system pending needsCompaction resume
        .snapshotted).OnRecord eventId record) :
      ∃ earlier, system.disk.Holds eventId earlier ∧
        (record = earlier ∨ record = config.encodeEvent earlier) := by
    rcases stored with (aside | ⟨member, rfl⟩) | found
    · exact ⟨record, .inl aside, .inl rfl⟩
    · obtain ⟨earlier, kept, rfl⟩ := List.mem_map.mp member
      exact ⟨earlier, retained _ earlier ⟨kept, rfl⟩, .inr rfl⟩
    · exact ⟨record, cached eventId record found, .inl rfl⟩
  constructor
  · intro eventId record stored
    obtain ⟨earlier, held, _⟩ := onRecord eventId record stored
    exact invariant.issued eventId earlier (.inl held)
  · intro other member explicit record stored
    obtain ⟨earlier, held, rfl | rfl⟩ := onRecord _ record stored
    · exact invariant.faithful other member explicit record (.inl held)
    · exact .encoded (invariant.faithful other member explicit earlier (.inl held))
  · intro other member explicit
    rcases remembers_compaction phase kept member explicit with
      ⟨record, aside⟩ | ⟨record, survives, same⟩
    · exact ⟨record, .inl aside⟩
    · exact ⟨config.encodeEvent record, .inr ⟨List.mem_map_of_mem survives, same⟩⟩
  · intro _ eventId record held
    rcases held with aside | ⟨member, rfl⟩
    · exact .inr (lookup_eventIdsFromRecords_of_holds
        (.inl aside : StreamDisk.Holds
          ⟨config.retainedRecords system.disk.log, system.disk.sidecar, none⟩ eventId record))
    · obtain ⟨earlier, survives, rfl⟩ := List.mem_map.mp member
      exact .inr (lookup_eventIdsFromRecords_of_holds
        (.inr ⟨survives, rfl⟩ : StreamDisk.Holds
          ⟨config.retainedRecords system.disk.log, system.disk.sidecar, none⟩ _ earlier))
  · exact invariant.distinct
  · refine ⟨inCache, nofun, fun _ => ⟨stored, sole⟩, ?_⟩
    intro held resumes
    obtain ⟨free, differs⟩ := waiting held resumes
    refine ⟨?_, differs⟩
    intro eventId named record stored
    obtain ⟨earlier, onDisk, _⟩ := onRecord eventId record stored
    exact free eventId named earlier (.inl onDisk)

theorem IdInvariant.advanced (invariant : IdInvariant config system) {needsCompaction : Bool}
    {progress : AppendProgress} {resume : Option Closing}
    (phase : system.phase = .appending pending needsCompaction progress resume)
    (kept : remembers config system .advance = true) :
    IdInvariant config (advanceAppend config system pending needsCompaction resume progress) := by
  cases progress with
  | started => exact invariant.logged phase
  | logged => exact invariant.putAside phase
  | recorded =>
    simp only [advanceAppend]
    split
    · have moves : AppendProgress.snapshotted ≠ .started := nofun
      exact invariant.progressed phase nofun moves _
    · have moves : AppendProgress.done ≠ .started := nofun
      exact invariant.progressed phase nofun moves system.disk.snapshot
  | snapshotted => exact invariant.compacted phase kept
  | done => exact invariant

theorem IdInvariant.published (invariant : IdInvariant config system) {needsCompaction : Bool}
    {resume : Option Closing}
    (phase : system.phase = .appending pending needsCompaction .done resume) :
    IdInvariant config (publish system pending resume) := by
  have known := invariant.phaseKnown
  rw [phase] at known
  obtain ⟨inCache, _, moved, waiting⟩ := known
  obtain ⟨stored, sole⟩ := moved nofun
  have lookup (eventId : String) :
      (publish system pending resume).knownIds.lookup eventId =
        if pending.event.eventId = eventId then some pending.event
        else system.knownIds.lookup eventId :=
    Dictionary.lookup_insert
  have fewer (eventId : String) (record : StreamEvent)
      (onRecord : (publish system pending resume).OnRecord eventId record) :
      system.OnRecord eventId record ∨
        (record = pending.event ∧ eventId = pending.event.eventId) := by
    rcases onRecord with held | found
    · exact .inl (.inl held)
    · rw [lookup] at found
      split at found
      · rename_i same
        exact .inr ⟨(Option.some.inj found).symm, same.symm⟩
      · exact .inl (.inr found)
  refine invariant.of_recorded rfl stored sole fewer ?_ ?_ ?_
  · exact invariant.durable
  · intro _ eventId record held
    rw [lookup]
    split
    · exact .inr ⟨pending.event, rfl⟩
    · rename_i differs
      rcases invariant.remembered inCache eventId record held with flight | found
      · obtain ⟨_, _, _, _, appending, _, same⟩ := flight
        rw [phase] at appending
        cases appending
        exact absurd same differs
      · exact .inr found
  · cases resume with
    | none => trivial
    | some held =>
      obtain ⟨free, differs⟩ := waiting held rfl
      exact free.of_recorded differs fewer

theorem IdInvariant.handOver (invariant : IdInvariant config system)
    (free : ∀ pending needsCompaction progress resume,
      system.phase ≠ .appending pending needsCompaction progress resume)
    (cached : system.cached.isSome = true)
    (fresh : ∀ record, ¬ system.OnRecord pending.event.eventId record) {resume : Option Closing}
    (waiting : ∀ held, resume = some held →
      system.Unclaimed held ∧ held.commit.eventId ≠ some pending.event.eventId) :
    IdInvariant config (system.handOver config pending resume) := by
  apply invariant.enter free
  exact ⟨cached, fun _ => fresh, fun moved => absurd rfl moved, waiting⟩

theorem IdInvariant.settleSnapshot (invariant : IdInvariant config system) (index : Nat)
    (written : Bool) : IdInvariant config (settleSnapshot system index written) := by
  unfold StreamSystem.settleSnapshot
  split
  · exact invariant
  · refine invariant.of_cache ⟨rfl, rfl⟩ rfl ?_ ?_ ?_
    · intro eventId record found
      exact .inr found
    · exact invariant.remembered
    · intro fewer
      exact invariant.phaseKnown.of_fewer fewer rfl id

theorem IdInvariant.evict (invariant : IdInvariant config system)
    (kept : remembers config system .evict = true) : IdInvariant config (evict system) := by
  unfold StreamSystem.evict
  split
  · rename_i state cached
    split
    · rename_i terminal
      apply invariant.drop system.scheduled
      refine .inr ⟨rfl, ?_⟩
      intro pending needsCompaction progress resume phase
      simp [remembers, phase, cached, terminal] at kept
    · exact invariant
  · exact invariant

theorem IdInvariant.step (invariant : IdInvariant config system) (command : StreamCommand)
    (kept : remembers config system command = true) :
    IdInvariant config (step config system command) := by
  have transition := streamStep_step config system command
  generalize StreamSystem.step config system command = next at transition ⊢
  cases transition with
  | stay => exact invariant
  | answered request moment idle remembered => exact invariant.remember remembered
  | raised _ free remembered =>
    apply (invariant.remember remembered).enter
    · rw [remembered.phase_eq]
      exact free
    · trivial
  | @held loaded request checked commit moment idle remembered admitted completes =>
    have known := invariant.remember remembered
    have free : ∀ pending needsCompaction progress resume,
        loaded.phase ≠ .appending pending needsCompaction progress resume := by
      simp [remembered.phase_eq, idle]
    apply known.enter free
    exact fun eventId named record => known.admitted free admitted named record
  | @begun loaded request checked commit moment pending idle remembered admitted other generated
      prepared =>
      have known := invariant.remember remembered
      have free : ∀ pending needsCompaction progress resume,
          loaded.phase ≠ .appending pending needsCompaction progress resume := by
        simp [remembered.phase_eq, idle]
      have stillGenerated : loaded.generates moment = true := by
        rw [remembered.generates_eq, generated]
      apply known.handOver free (cached_of_checkCommit admitted.checks)
      · exact known.prepared stillGenerated
          (fun eventId named => known.admitted free admitted named) prepared
      · intro held resumes
        cases resumes
  | @closing outer checked commit block remaining request moment pending phase closes admitted
      generated prepared =>
      have free : ∀ pending needsCompaction progress resume,
          system.phase ≠ .appending pending needsCompaction progress resume := by
        simp [phase]
      have unclaimed := invariant.phaseKnown
      rw [phase] at unclaimed
      apply invariant.handOver free (cached_of_checkCommit admitted.checks)
      · exact invariant.prepared generated
          (fun eventId named => invariant.admitted free admitted named) prepared
      · rintro held ⟨⟩
        refine ⟨unclaimed, ?_⟩
        intro named
        obtain ⟨next, built⟩ := prepareEvent_ok prepared
        have unnamed : commit.eventId = none := by
          rw [admitted.rest]
          exact (checkCommit_eventId admitted.checks).trans (closingRequest_eventId closes)
        have eventId : pending.event.eventId = moment.generatedId := by
          rw [built.event, buildEvent, unnamed]
        have held : system.heldId = some moment.generatedId := by
          rw [← eventId, ← named]
          simp only [heldId, phase]
        have taken : moment.generatedId ∈ system.takenIds :=
          List.mem_append_right _ (by simp [held])
        simp only [generates, decide_eq_true_eq] at generated
        exact generated taken
  | completing phase cached generated prepared =>
    have free : ∀ pending needsCompaction progress resume,
        system.phase ≠ .appending pending needsCompaction progress resume := by
      simp [phase]
    have unclaimed := invariant.phaseKnown
    rw [phase] at unclaimed
    apply invariant.handOver free (by simp [cached])
    · exact invariant.prepared generated unclaimed prepared
    · intro held resumes
      cases resumes
  | advanced phase => exact invariant.advanced phase kept
  | published phase => exact invariant.published phase
  | failed phase => exact (invariant.drop system.scheduled (.inl rfl)).reload
  | restarted => exact invariant.drop [] (.inl rfl)
  | reloaded => exact invariant.reload
  | evicted => exact invariant.evict kept
  | settled index written => exact invariant.settleSnapshot index written

theorem not_onRecord_fresh {identity : StreamIdentity} {jobId : Option String}
    (eventId : String) (record : StreamEvent) :
    ¬ (fresh config identity jobId).OnRecord eventId record := by
  simp [OnRecord, StreamDisk.Holds, knownIds, StreamSystem.fresh]

theorem IdInvariant.fresh (identity : StreamIdentity) (jobId : Option String) :
    IdInvariant config (fresh config identity jobId) where
  issued := fun eventId record stored => absurd stored (not_onRecord_fresh eventId record)
  faithful := by simp [StreamSystem.fresh]
  durable := by simp [StreamSystem.fresh]
  remembered := fun _ eventId record held =>
    absurd (.inl held) (not_onRecord_fresh eventId record)
  distinct := List.nodup_nil
  phaseKnown := trivial

theorem IdInvariant.run (invariant : IdInvariant config system) (commands : List StreamCommand)
    (kept : remembersRun config system commands = true) :
    IdInvariant config (run config system commands) := by
  induction commands generalizing system with
  | nil => exact invariant
  | cons command commands ih =>
    obtain ⟨first, rest⟩ := Bool.and_eq_true_iff.mp kept
    exact ih (invariant.step command first) rest

theorem checkDuplicate_of_lookup {ids : EventIds} {eventId : String} {type : EventType}
    {payload : Fields} {identity : List (String × Json)} {turnStreamId : String}
    {previous : StreamEvent} (known : ids.lookup eventId = some previous) :
    (∃ error, checkDuplicate ids eventId type payload identity turnStreamId = .error error) ∨
      checkDuplicate ids eventId type payload identity turnStreamId = .ok (some previous) := by
  simp only [checkDuplicate, known]
  cases allowedInterruptDuplicate type payload previous with
  | error error => exact .inl ⟨error, rfl⟩
  | ok allowed =>
    by_cases conflict : (identityConflict type payload identity previous && !allowed) = true
    · exact .inl ⟨_, if_pos conflict⟩
    · exact .inr (if_neg conflict)

theorem IdInvariant.answers (invariant : IdInvariant config system) {earlier : PendingEvent}
    (committed : earlier ∈ system.committed) (explicit : earlier.explicit = true)
    (idle : system.phase = .idle) (named : request.eventId = some earlier.event.eventId) :
    (∃ error, (beginCommit config system request).2 = .error error) ∨
      ∃ record, (beginCommit config system request).2 = .ok (.duplicate record) ∧
        RecordOf config earlier.event record := by
  cases checks : checkCommit config system request with
  | error error => exact .inl ⟨error, by simp [beginCommit, checks]⟩
  | ok checked =>
    cases read : rememberEventIds system checked.eventId with
    | error error => exact .inl ⟨error, by simp [beginCommit, checks, read]⟩
    | ok loaded =>
      have remembered := rememberEventIds_ok read
      have known := invariant.remember remembered
      have cached : loaded.cached.isSome = true := by
        rw [remembered.cached_eq]
        exact cached_of_checkCommit checks
      have stored : earlier ∈ loaded.committed := by
        rw [remembered.committed_eq]
        exact committed
      have stillIdle : loaded.phase = .idle := remembered.phase_eq.trans idle
      obtain ⟨record, held⟩ := known.durable earlier stored explicit
      obtain ⟨found, lookup⟩ : ∃ found,
          loaded.knownIds.lookup earlier.event.eventId = some found := by
        rcases known.remembered cached _ record held with flight | found
        · obtain ⟨_, _, _, _, appending, _⟩ := flight
          rw [stillIdle] at appending
          cases appending
        · exact found
      have kept := known.faithful earlier stored explicit found (.inr lookup)
      have eventId := (checkCommit_eventId checks).trans named
      have answer : (beginCommit config system request).2 = admitChecked loaded checked := by
        simp [beginCommit, checks, read]
      rw [answer]
      simp only [admitChecked, previousEvent, eventId]
      rcases checkDuplicate_of_lookup lookup with ⟨error, refused⟩ | returned
      · exact .inl ⟨error, by rw [← knownIds, refused]; rfl⟩
      · exact .inr ⟨found, by rw [← knownIds, returned]; rfl, kept⟩

theorem IdInvariant.appliesOnce (invariant : IdInvariant config system) :
    AppliesOnce config system where
  distinct := invariant.distinct
  answers := fun _ committed explicit idle _ named =>
    invariant.answers committed explicit idle named
  unchanged := by
    intro earlier committed explicit idle request moment named
    have answers := invariant.answers committed explicit idle named
    obtain ⟨remembered, _⟩ := beginCommit_cases config system request
    have sameButIds {loaded : StreamSystem} (remembered : Remembered system loaded) :
        ∃ eventIds, loaded = { system with eventIds := eventIds } := by
      cases remembered with
      | same => exact ⟨system.eventIds, rfl⟩
      | read unread ok => exact ⟨_, rfl⟩
    have phase : system = { system with phase := .idle } := by rw [← idle]
    simp only [StreamSystem.step, idle]
    split
    · cases result : beginCommit config system request with
      | mk loaded answer =>
        rw [result] at answers remembered
        obtain ⟨eventIds, same⟩ := sameButIds remembered
        rw [phase] at same
        rcases answers with ⟨error, rfl⟩ | ⟨record, rfl, _⟩
        · exact ⟨eventIds, same⟩
        · exact ⟨eventIds, same⟩
    · exact ⟨system.eventIds, phase⟩

/-- Explicit event ids apply once, through failed appends, restarts, reloads and
compactions, in every run in which no compaction drops the only record of one. -/
theorem explicitEventIds_appliedOnce (config : StoreConfig) (identity : StreamIdentity)
    (jobId : Option String) (moment : Moment) (commands : List StreamCommand)
    (kept : remembersRun config (start config identity jobId moment) commands = true) :
    AppliesOnce config (run config (start config identity jobId moment) commands) := by
  have started : IdInvariant config (start config identity jobId moment) :=
    (IdInvariant.fresh identity jobId).step (.begin (openingRequest jobId) moment) rfl
  exact (started.run commands kept).appliesOnce

def smallLog : StoreConfig where
  interpreter := ⟨fun _ => "", fun _ => none⟩
  workspaceId := none
  workspaceId_ne_empty := nofun
  payloadBytes := fun _ => 2
  compacted := id
  recordBytes := fun _ => 400
  maxBytes := 1000
  retainedBytes := 260

def retryRequest (eventId : Option String) : CommitRequest where
  eventType := "model.retrying"
  payload := Dictionary.empty
  eventId := eventId

def retryIdentity : StreamIdentity := ⟨"session_1", "thread_1", "turn_1", "stream_1"⟩

/-- A commit under an id, put aside, and a second one under the same id. -/
theorem explicitEventIds_appliedOnce_retry :
    AppliesOnce smallLog (run smallLog (start smallLog retryIdentity none ⟨"evt_1", "10:00"⟩)
      [.advance, .advance, .advance, .publish,
        .begin (retryRequest (some "retry_1")) ⟨"evt_2", "10:01"⟩,
        .advance, .advance, .advance, .publish,
        .begin (retryRequest none) ⟨"evt_3", "10:02"⟩,
        .advance, .advance, .advance, .advance, .publish]) :=
  explicitEventIds_appliedOnce _ _ _ _ _ (by decide)

/-- The process stops after the event reached the log and before its id was put aside; a
later compaction drops the record, and a commit under the same id is admitted again. -/
theorem explicitEventIds_appliedOnce_forgotten :
    ¬ ∀ (config : StoreConfig) (identity : StreamIdentity) (jobId : Option String)
      (moment : Moment) (commands : List StreamCommand),
        AppliesOnce config (run config (start config identity jobId moment) commands) := by
  intro claim
  have once := claim smallLog retryIdentity none ⟨"evt_1", "10:00"⟩
    [.advance, .advance, .advance, .publish,
      .begin (retryRequest (some "retry_1")) ⟨"evt_2", "10:01"⟩, .advance, .restart, .load,
      .begin (retryRequest none) ⟨"evt_3", "10:02"⟩, .advance, .advance, .advance, .advance,
      .publish,
      .begin (retryRequest (some "retry_1")) ⟨"evt_4", "10:03"⟩, .advance, .advance, .advance,
      .advance, .publish]
  have repeated := once.distinct
  revert repeated
  decide

end StreamSystem

end MessageStream

end GraphAgent
