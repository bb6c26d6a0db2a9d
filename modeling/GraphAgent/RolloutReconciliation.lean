import GraphAgent.RolloutPreparation

/-!
# Reconciling or refusing

What one opening of a rollout promises: it returns with a file that ends where the
commits do, and opening it again changes nothing, or it raises and has changed
nothing but the recovery mark.  The mark is written before the raise that rolls it
back, so the promise holds when no opening has to make it.
-/

namespace GraphAgent.Rollout

namespace Opening

def Storage.Short (storage : Storage) : Prop :=
  storage.file.length < storage.index.chain.committedOffset

def Index.RecoveryRequired (index : Index) : Prop :=
  ∃ row, index.databaseMeta = some row ∧ row.databaseState = .recoveryRequired

structure OnlyMarked (before after : Index) : Prop where
  databaseMeta :
    after.databaseMeta = before.databaseMeta ∨
      ∃ row now, before.databaseMeta = some row ∧
        after.databaseMeta = some { row with databaseState := .recoveryRequired, updatedAt := now }
  database : after.database = before.database
  branches : after.branches = before.branches
  namespaces : after.namespaces = before.namespaces
  views : after.views = before.views
  migrations : after.migrations = before.migrations
  forks : after.forks = before.forks

structure ReconcilesOrRefuses (codec : ItemCodec) (request : Request) (storage : Storage) :
    Prop where
  reconciles : ∀ manifest after,
    initializeStorage codec request storage = (.ok manifest, after) →
      after.file = storage.file.take storage.index.chain.committedOffset ∧
      after.file.length = after.index.database.committedOffset ∧
      after.index.database = storage.index.chain ∧
      ∀ later : Request, later.Repeats request →
        initializeStorage codec later after = (.ok manifest, after)
  refuses : ∀ error after,
    initializeStorage codec request storage = (.error error, after) →
      after.file = storage.file ∧ OnlyMarked storage.index after.index ∧
      (storage.Short → after.index.RecoveryRequired)
  validated :
    (initializeStorage codec request storage).2.file ≠ storage.file →
      validateCommitOffsets codec storage.file storage.index.chain = .ok ()

theorem SameRows.onlyMarked {before after : Index} (same : SameRows before after) :
    OnlyMarked before after := by
  rcases same with rfl | rfl <;> exact ⟨Or.inl rfl, rfl, rfl, rfl, rfl, rfl, rfl⟩

/-- When an opening keeps its promise. -/
structure Reconcilable (codec : ItemCodec) (request : Request) (storage : Storage) : Prop where
  marked : storage.Short → storage.index.RecoveryRequired
  finished : ∀ index fork, ready request storage = .ok index →
    recoverableFork request index = .ok (some fork) →
      validateCommitOffsets codec storage.file index.database = .ok () ∧ index.Readable
  /-- A tail that the call cuts is that of a readable database. -/
  cut : ∀ index, ready request storage = .ok index → recoverableFork request index = .ok none →
    index.database.committedOffset < storage.file.length →
    validateCommitOffsets codec storage.file index.database = .ok () → index.Readable

section Promise

variable {codec : ItemCodec} {request later : Request} {storage : Storage} {base index : Index}
  {error : CommitError} {manifest : Manifest} {fork : ForkMaterialization} {file : Bytes}

theorem settle_ok_iff (started : index.databaseMeta.isSome) :
    settle codec request file index = .ok manifest ↔
      validateCommitOffsets codec file index.database = .ok () ∧
        manifestOf request index = .ok manifest := by
  rw [settle_of_started started]
  constructor
  · intro settled
    split at settled
    · cases settled
    · obtain ⟨_, valid, read⟩ := Transaction.bind_ok settled
      exact ⟨valid, read⟩
  · rintro ⟨valid, read⟩
    have within := length_of_validated valid
    rw [if_neg (Nat.not_lt.mpr within), valid]
    exact read

theorem settle_of_short (codec : ItemCodec) (request : Request) (index : Index)
    (started : index.databaseMeta.isSome)
    (short : file.length < index.database.committedOffset) :
    ∃ error, settle codec request file index = .error error := by
  rw [settle_of_started started, if_pos short]
  exact ⟨_, rfl⟩

theorem remaining_of_valid {database : Database}
    (valid : validateCommitOffsets codec file database = .ok ()) :
    remaining codec file database = file.take database.committedOffset := by
  unfold remaining
  rw [valid]

theorem validated_of_remaining {database : Database}
    (changed : remaining codec file database ≠ file) :
    validateCommitOffsets codec file database = .ok () := by
  unfold remaining at changed
  split at changed
  · assumption
  · exact absurd rfl changed

theorem short_started (short : storage.Short) : storage.index.databaseMeta.isSome := by
  cases found : storage.index.databaseMeta with
  | some row => rfl
  | none =>
    unfold Storage.Short Index.chain at short
    rw [found] at short
    exact absurd short (Nat.not_lt_zero _)

theorem refuses_with (same : SameRows storage.index base)
    (refused : initializeStorage codec request storage =
      (.error error, { storage with index := base }))
    (marked : storage.Short → storage.index.RecoveryRequired) :
    ReconcilesOrRefuses codec request storage where
  reconciles := by
    intro manifest after returned
    rw [refused] at returned
    cases returned
  refuses := by
    intro reason after raised
    rw [refused] at raised
    cases raised
    refine ⟨rfl, same.onlyMarked, fun short => ?_⟩
    obtain ⟨row, present, required⟩ := marked short
    exact ⟨row, same.databaseMeta.trans present, required⟩
  validated := by
    rw [refused]
    exact fun changed => absurd rfl changed

theorem initializeStorage_again (settled : Settled request index)
    (nothing : recoverableFork later index = .ok none)
    (returned : settle codec request storage.file index = .ok manifest)
    (layout : storage.removedLayout = false) (plain : storage.plainFile = true)
    (again : later.Repeats request) :
    initializeStorage codec later
        { storage with index := index, file := remaining codec storage.file index.database } =
      (.ok manifest,
        { storage with index := index, file := remaining codec storage.file index.database }) := by
  obtain ⟨row, present, -⟩ := settled.started
  have started : index.databaseMeta.isSome := by
    rw [present]
    rfl
  obtain ⟨valid, read⟩ := (settle_ok_iff started).mp returned
  have readable := settled.manifestOf_iff.mp ⟨manifest, read⟩
  have cut := remaining_of_valid valid
  have validAgain := validateCommitOffsets_take valid
  have returnedAgain : settle codec later (remaining codec storage.file index.database) index =
      .ok manifest := by
    apply (settle_ok_iff started).mpr
    rw [cut, manifestOf_congr again]
    exact ⟨validAgain, read⟩
  have kept : remaining codec (remaining codec storage.file index.database) index.database =
      remaining codec storage.file index.database := by
    rw [cut, remaining_of_valid validAgain, List.take_take, Nat.min_self]
  obtain ⟨base, -, runs⟩ := initializeStorage_settles codec
    (settled.ready (remaining codec storage.file index.database) readable again layout plain)
    started nothing
  rw [runs]
  simp only [returnedAgain, kept]

theorem reconciles_with (settled : Settled request index)
    (database : index.database = storage.index.chain)
    (nothing : ∀ later : Request, later.Repeats request →
      recoverableFork later index = .ok none)
    (returned : settle codec request storage.file index = .ok manifest)
    (layout : storage.removedLayout = false) (plain : storage.plainFile = true)
    (runs : initializeStorage codec request storage =
      (.ok manifest,
        { storage with index := index, file := remaining codec storage.file index.database })) :
    ReconcilesOrRefuses codec request storage := by
  obtain ⟨row, present, -⟩ := settled.started
  have started : index.databaseMeta.isSome := by
    rw [present]
    rfl
  obtain ⟨valid, read⟩ := (settle_ok_iff started).mp returned
  have within := length_of_validated valid
  have cut := remaining_of_valid valid
  constructor
  · intro found after answered
    rw [runs] at answered
    cases answered
    refine ⟨?_, ?_, database, ?_⟩
    · change remaining codec storage.file index.database = _
      rw [cut, database]
    · change (remaining codec storage.file index.database).length = _
      rw [cut, List.length_take_of_le within]
    · intro later again
      exact initializeStorage_again settled (nothing later again) returned layout plain again
  · intro reason after raised
    rw [runs] at raised
    cases raised
  · intro _
    rw [← database]
    exact valid

theorem ReconcilesOrRefuses.marked (promise : ReconcilesOrRefuses codec request storage)
    (short : storage.Short) : storage.index.RecoveryRequired := by
  have unread : ∀ error base, base.databaseMeta = storage.index.databaseMeta →
      (∃ file, initializeStorage codec request storage =
        (.error error, { storage with index := base, file := file })) →
      storage.index.RecoveryRequired := by
    rintro error base same ⟨file, refused⟩
    obtain ⟨row, present, required⟩ := (promise.refuses error _ refused).2.2 short
    exact ⟨row, same.symm.trans present, required⟩
  cases prepared : ready request storage with
  | error reason =>
    obtain ⟨base, same, refused⟩ := initializeStorage_refused codec prepared
    exact unread reason base same.databaseMeta ⟨storage.file, refused⟩
  | ok index =>
    obtain ⟨database, -, metaKept, started⟩ := ready_kept prepared
    have tooShort : storage.file.length < index.database.committedOffset := by
      rw [database]
      exact short
    cases recovered : recoverableFork request index with
    | error reason =>
      obtain ⟨base, same, refused⟩ := initializeStorage_blocked codec prepared recovered
      exact unread reason base same.databaseMeta ⟨storage.file, refused⟩
    | ok found =>
      cases found with
      | some fork =>
        obtain ⟨reason, refused⟩ :=
          settle_of_short codec request (finishFork request fork index) started tooShort
        have runs := initializeStorage_recovers codec prepared started recovered
        rw [refused] at runs
        exact unread reason (finishFork request fork index)
          (metaKept (short_started short)) ⟨_, runs⟩
      | none =>
        obtain ⟨base, same, runs⟩ :=
          initializeStorage_settles codec prepared started recovered
        obtain ⟨reason, refused⟩ := settle_of_short codec request index started tooShort
        rw [refused] at runs
        exact unread reason base same.databaseMeta ⟨_, runs⟩

theorem ReconcilesOrRefuses.finished (promise : ReconcilesOrRefuses codec request storage)
    (prepared : ready request storage = .ok index)
    (found : recoverableFork request index = .ok (some fork)) :
    validateCommitOffsets codec storage.file index.database = .ok () ∧ index.Readable := by
  obtain ⟨-, forks, -, started⟩ := ready_kept prepared
  have runs := initializeStorage_recovers codec prepared started found
  cases returned : settle codec request storage.file (finishFork request fork index) with
  | error reason =>
    rw [returned] at runs
    have unchanged := (promise.refuses reason _ runs).2.1.forks
    exact absurd (unchanged.trans forks.symm) (finishFork_changes found)
  | ok manifest =>
    obtain ⟨valid, read⟩ := (settle_ok_iff started).mp returned
    exact ⟨valid, ((ready_settled prepared).finishFork fork).manifestOf_iff.mp ⟨manifest, read⟩⟩

theorem ReconcilesOrRefuses.cut (promise : ReconcilesOrRefuses codec request storage)
    (prepared : ready request storage = .ok index)
    (nothing : recoverableFork request index = .ok none)
    (longer : index.database.committedOffset < storage.file.length)
    (valid : validateCommitOffsets codec storage.file index.database = .ok ()) :
    index.Readable := by
  obtain ⟨-, -, -, started⟩ := ready_kept prepared
  obtain ⟨base, -, runs⟩ := initializeStorage_settles codec prepared started nothing
  cases returned : settle codec request storage.file index with
  | error reason =>
    rw [returned] at runs
    have unchanged : remaining codec storage.file index.database = storage.file :=
      (promise.refuses reason _ runs).1
    rw [remaining_of_valid valid] at unchanged
    have length := congrArg List.length unchanged
    rw [List.length_take_of_le (Nat.le_of_lt longer)] at length
    omega
  | ok manifest =>
    obtain ⟨-, read⟩ := (settle_ok_iff started).mp returned
    exact (ready_settled prepared).manifestOf_iff.mp ⟨manifest, read⟩

end Promise

def truncatedRequest : Request :=
  ⟨"session", "thread", "", "rollout", "branch-002", "view-002", "2026-07-02T00:00:00Z",
    fun _ => false, false⟩

def truncatedStorage : Storage where
  removedLayout := false
  plainFile := true
  file := [123, 125]
  index :=
    { schema := ⟨true, true, false, false, true, true⟩
      databaseMeta := some
        ⟨"rollout", "session", "thread", rolloutSchemaVersion, messageFormatVersion,
          rolloutFormatVersion, .active, some "branch-001", "2026-07-01T00:00:00Z"⟩
      database :=
        { commits :=
            [⟨1, none, none, none, 0, 3, true, .committed, .acceptance, .itemBearing, 0, 3, 1,
              none, "acceptance:1", none, {}⟩]
          catalog := [⟨1, "item-001", "hash-001", 0, 3, 1⟩]
          commitSequence := 1
          lastCommitId := some 1
          committedOffset := 3
          lastItemSequence := 1 }
      branches := Dictionary.ofList
        [("branch-001", ⟨true, some "view-001", "2026-07-01T00:00:00Z"⟩)]
      namespaces := Dictionary.ofList [("", "branch-001")]
      views := [("view-001", "branch-001")]
      migrations :=
        [⟨0, rolloutSchemaVersion, "rollout_sqlite_v24", schemaChecksum rolloutSchemaVersion, true,
          "2026-07-01T00:00:00Z"⟩]
      forks := [] }

def truncatedCodec : ItemCodec where
  validate := fun _ => .ok ()
  encode := fun _ => .ok [123, 125]
  parse := fun _ => none

end Opening

end GraphAgent.Rollout
