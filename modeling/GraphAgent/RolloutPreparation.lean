import GraphAgent.RolloutReopening
import GraphAgent.Transactions

/-!
# What an opening prepares

The checks and statements before the fork leave an index on which they do nothing
the second time, and the items are validated on the committed bytes alone, so that
the cut file is validated as the whole one was.
-/

namespace GraphAgent.Rollout

namespace Opening

/-- Two calls for one thread and namespace, from one process. -/
structure Request.Repeats (later request : Request) : Prop where
  sessionId : later.sessionId = request.sessionId
  threadId : later.threadId = request.threadId
  checkpointNs : later.checkpointNs = request.checkpointNs
  forkInProgress : later.forkInProgress = request.forkInProgress

def Index.Readable (index : Index) : Prop :=
  ∃ row, index.databaseMeta = some row ∧ row.databaseState = .active ∧ row.activeBranchId.isSome

section Tail

variable {codec : ItemCodec} {database : Database} {file other : Bytes}

theorem validateItems_congr
    (agree : file.take database.committedOffset = other.take database.committedOffset)
    (sequence offset : Nat) (rows : List ItemRow) :
    validateItems codec file database sequence offset rows =
      validateItems codec other database sequence offset rows := by
  induction rows generalizing sequence offset with
  | nil => rfl
  | cons row rows ih =>
    unfold validateItems
    split
    · rfl
    · split
      · rfl
      · split
        · rfl
        · split
          · rfl
          · rename_i within
            have body : validateCatalogBody codec file row =
                validateCatalogBody codec other row := by
              unfold validateCatalogBody
              rw [FileTiling.slice_congr agree (Nat.le_of_not_lt within)]
            simp only [body, ih]

theorem validateCommitOffsets_take
    (valid : validateCommitOffsets codec file database = .ok ()) :
    validateCommitOffsets codec (file.take database.committedOffset) database = .ok () := by
  have within := length_of_validated valid
  have length : (file.take database.committedOffset).length = database.committedOffset :=
    List.length_take_of_le within
  have agree : file.take database.committedOffset =
      (file.take database.committedOffset).take database.committedOffset := by
    rw [List.take_take, Nat.min_self]
  unfold validateCommitOffsets at valid ⊢
  obtain ⟨⟨previous, last⟩, commits, valid⟩ := Transaction.bind_ok valid
  rw [commits]
  simp only [bind, Except.bind, length, Nat.lt_irrefl, or_false, Nat.not_lt.mpr within,
    validateItems_congr agree] at valid ⊢
  exact valid

end Tail

structure Settled (request : Request) (index : Index) : Prop where
  ownerColumns : index.schema.ownerColumns = true
  formatColumn : index.schema.formatColumn = true
  reasoningColumns : index.schema.reasoningColumns = true
  started : ∃ row, index.databaseMeta = some row ∧ row.rolloutFormatVersion = rolloutFormatVersion
  owned : checkOwner request index = .ok ()
  named : index.namespaces.has request.checkpointNs = true
  headed : ∃ branchId branch, index.activeBranch request = some (branchId, branch) ∧
    branch.headViewId.isSome
  valid : validateSchemaState index = .ok ()

section Preparation

variable {request later : Request} {storage : Storage} {before index : Index}
  {fork : ForkMaterialization}

theorem Settled.finishFork (settled : Settled request index) (fork : ForkMaterialization) :
    Settled request (finishFork request fork index) :=
  ⟨settled.ownerColumns, settled.formatColumn, settled.reasoningColumns, settled.started,
    settled.owned, settled.named, settled.headed, settled.valid⟩

theorem bootstrapMeta_ok (bootstrapped : bootstrapMeta request before = .ok index) :
    index.database = before.chain ∧ index.forks = before.forks ∧ index.schema = before.schema ∧
      (before.databaseMeta.isSome → index.databaseMeta = before.databaseMeta) ∧
      ∃ row, index.databaseMeta = some row ∧
        (before.databaseMeta = none → row.rolloutFormatVersion = rolloutFormatVersion) := by
  unfold bootstrapMeta at bootstrapped
  cases found : before.databaseMeta with
  | some row =>
    rw [found] at bootstrapped
    cases bootstrapped
    refine ⟨?_, rfl, rfl, fun _ => found, row, found, ?_⟩
    · unfold Index.chain
      rw [found]
    · rintro ⟨⟩
  | none =>
    rw [found] at bootstrapped
    dsimp only at bootstrapped
    split at bootstrapped
    · cases bootstrapped
    · cases bootstrapped
      refine ⟨rfl, rfl, rfl, ?_, _, rfl, fun _ => rfl⟩
      rintro ⟨⟩

theorem ensureNamespaceState_ok (placed : ensureNamespaceState request before = .ok index) :
    index.database = before.database ∧ index.forks = before.forks ∧
      index.schema = before.schema ∧ index.databaseMeta = before.databaseMeta ∧
      index.namespaces.has request.checkpointNs = true := by
  unfold ensureNamespaceState at placed
  split at placed
  · rename_i named
    cases placed
    exact ⟨rfl, rfl, rfl, rfl, named⟩
  · split at placed
    · split at placed
      · cases placed
      · cases placed
        exact ⟨rfl, rfl, rfl, rfl, by simp [Dictionary.has]⟩
    · split at placed
      · cases placed
      · cases placed
        exact ⟨rfl, rfl, rfl, rfl, by simp [Dictionary.has]⟩

theorem ensureHeadView_ok (viewed : ensureHeadView request before = .ok index) :
    index.database = before.database ∧ index.forks = before.forks ∧
      index.schema = before.schema ∧ index.databaseMeta = before.databaseMeta ∧
      index.namespaces = before.namespaces ∧
      ∃ branchId branch, index.activeBranch request = some (branchId, branch) ∧
        branch.headViewId.isSome := by
  unfold ensureHeadView at viewed
  split at viewed
  · cases viewed
  · rename_i branchId branch active
    split at viewed
    · rename_i headed
      cases viewed
      exact ⟨rfl, rfl, rfl, rfl, rfl, branchId, branch, active, headed⟩
    · cases viewed
      refine ⟨rfl, rfl, rfl, rfl, rfl, branchId,
        { branch with headViewId := some request.viewId, updatedAt := request.now }, ?_, rfl⟩
      unfold Index.activeBranch at active ⊢
      cases found : before.namespaces.lookup request.checkpointNs with
      | none =>
        rw [found] at active
        cases active
      | some named =>
        rw [found] at active
        simp only [Option.bind_some, Option.map_eq_some_iff, Option.filter_eq_some_iff] at active
        obtain ⟨present, ⟨row, alive⟩, same⟩ := active
        cases same
        simp [alive]

theorem prepare_ok (prepared : prepare request before = .ok index) :
    ∃ bootstrapped named, bootstrapMeta request before = .ok bootstrapped ∧
      ensureNamespaceState request bootstrapped = .ok named ∧
      checkOwner request named = .ok () ∧ ensureHeadView request named = .ok index ∧
      validateSchemaState index = .ok () := by
  obtain ⟨bootstrapped, started, prepared⟩ := Transaction.bind_ok prepared
  obtain ⟨named, placed, prepared⟩ := Transaction.bind_ok prepared
  obtain ⟨_, owned, prepared⟩ := Transaction.bind_ok prepared
  obtain ⟨headed, viewed, prepared⟩ := Transaction.bind_ok prepared
  obtain ⟨_, valid, prepared⟩ := Transaction.bind_ok prepared
  cases prepared
  exact ⟨bootstrapped, named, started, placed, owned, viewed, valid⟩

theorem checkOwner_congr {other : Index} (same : index.databaseMeta = other.databaseMeta) :
    checkOwner request index = checkOwner request other := by
  unfold checkOwner
  rw [same]

theorem inspect_run :
    inspect index =
      ((match index.databaseMeta with
        | none => .ok ()
        | some _ => validateSchemaState index) >>= fun _ =>
      if index.schema.ownerColumns = false then
        .error (.runtime "schema-incompatible: 检测到旧的 Session 级 rollout SQLite")
      else if index.schema.formatColumn = false then
        .error (.value "unsupported_legacy_rollout: 缺少 v2 format dispatch")
      else
        match index.databaseMeta with
        | none =>
          if index.hasBusinessRows then
            .error (.runtime
              "v2 rollout database_meta 缺失但已有业务数据，拒绝猜测半成品恢复")
          else .ok true
        | some row => requireV2Runtime row.rolloutFormatVersion >>= fun _ => .ok false) := by
  unfold inspect
  cases index.databaseMeta <;> rfl

theorem inspect_ok {needsSchema : Bool} (inspected : inspect index = .ok needsSchema) :
    index.schema.ownerColumns = true ∧ index.schema.formatColumn = true ∧
      ∀ row, index.databaseMeta = some row →
        row.rolloutFormatVersion = rolloutFormatVersion := by
  rw [inspect_run] at inspected
  obtain ⟨_, -, inspected⟩ := Transaction.bind_ok inspected
  split at inspected
  · cases inspected
  · rename_i ownerColumns
    split at inspected
    · cases inspected
    · rename_i formatColumn
      refine ⟨by simpa using ownerColumns, by simpa using formatColumn, ?_⟩
      intro row found
      rw [found] at inspected
      obtain ⟨_, supported, -⟩ := Transaction.bind_ok inspected
      unfold requireV2Runtime at supported
      split at supported
      · cases supported
      · rename_i same
        exact Decidable.not_not.mp same

theorem checkPublished_ok (published : checkPublished index = .ok ()) :
    index.schema.reasoningColumns = true := by
  unfold checkPublished at published
  split at published
  · cases published
  · rename_i reasoningColumns
    simpa using reasoningColumns

theorem admitStorage_ok (admitted : admitStorage storage = .ok index) :
    storage.removedLayout = false ∧ storage.plainFile = true ∧ SameRows storage.index index ∧
      index.schema.ownerColumns = true ∧ index.schema.formatColumn = true ∧
      index.schema.reasoningColumns = true ∧
      ∀ row, index.databaseMeta = some row →
        row.rolloutFormatVersion = rolloutFormatVersion := by
  unfold admitStorage at admitted
  split at admitted
  · cases admitted
  · rename_i layout
    split at admitted
    · cases admitted
    · rename_i needsSchema inspected
      split at admitted
      · cases admitted
      · rename_i plain
        obtain ⟨ownerColumns, formatColumn, supported⟩ := inspect_ok inspected
        dsimp only at admitted
        split at admitted
        · cases admitted
        · rename_i published
          cases admitted
          refine ⟨by simpa using layout, by simpa using plain, ?_, ?_, ?_,
            checkPublished_ok published, ?_⟩
          · cases needsSchema
            · exact Or.inl rfl
            · exact Or.inr rfl
          · cases needsSchema
            · exact ownerColumns
            · exact ownerColumns
          · cases needsSchema
            · exact formatColumn
            · exact formatColumn
          · cases needsSchema
            · exact supported
            · exact supported

theorem SameRows.chain (same : SameRows before index) : index.chain = before.chain := by
  rcases same with rfl | rfl <;> rfl

theorem ready_kept (prepared : ready request storage = .ok index) :
    index.database = storage.index.chain ∧ index.forks = storage.index.forks ∧
      (storage.index.databaseMeta.isSome → index.databaseMeta = storage.index.databaseMeta) ∧
      index.databaseMeta.isSome := by
  obtain ⟨base, admitted, prepared⟩ := Transaction.bind_ok prepared
  obtain ⟨-, -, same, -⟩ := admitStorage_ok admitted
  obtain ⟨bootstrapped, named, started, placed, -, viewed, -⟩ := prepare_ok prepared
  obtain ⟨firstDatabase, firstForks, -, firstMeta, row, present, -⟩ := bootstrapMeta_ok started
  obtain ⟨secondDatabase, secondForks, -, secondMeta, -⟩ := ensureNamespaceState_ok placed
  obtain ⟨thirdDatabase, thirdForks, -, thirdMeta, -⟩ := ensureHeadView_ok viewed
  have sameForks : base.forks = storage.index.forks := by
    rcases same with rfl | rfl <;> rfl
  have lastMeta : index.databaseMeta = bootstrapped.databaseMeta := thirdMeta.trans secondMeta
  refine ⟨?_, ?_, ?_, ?_⟩
  · rw [thirdDatabase, secondDatabase, firstDatabase, same.chain]
  · rw [thirdForks, secondForks, firstForks, sameForks]
  · intro some
    rw [← same.databaseMeta] at some
    rw [lastMeta, firstMeta some, same.databaseMeta]
  · rw [lastMeta, present]
    rfl

theorem ready_settled (prepared : ready request storage = .ok index) :
    Settled request index := by
  obtain ⟨base, admitted, prepared⟩ := Transaction.bind_ok prepared
  obtain ⟨-, -, -, ownerColumns, formatColumn, reasoningColumns, supported⟩ :=
    admitStorage_ok admitted
  obtain ⟨bootstrapped, named, started, placed, owned, viewed, valid⟩ := prepare_ok prepared
  obtain ⟨-, -, firstSchema, firstMeta, row, present, fresh⟩ := bootstrapMeta_ok started
  obtain ⟨-, -, secondSchema, secondMeta, has⟩ := ensureNamespaceState_ok placed
  obtain ⟨-, -, thirdSchema, thirdMeta, thirdNames, headed⟩ := ensureHeadView_ok viewed
  have schema : index.schema = base.schema := by
    rw [thirdSchema, secondSchema, firstSchema]
  have lastMeta : index.databaseMeta = some row := by
    rw [thirdMeta, secondMeta, present]
  have format : row.rolloutFormatVersion = rolloutFormatVersion := by
    cases found : base.databaseMeta with
    | none => exact fresh found
    | some old =>
      have kept := firstMeta (by rw [found]; rfl)
      rw [present, found] at kept
      cases kept
      exact supported row found
  constructor
  · rw [schema, ownerColumns]
  · rw [schema, formatColumn]
  · rw [schema, reasoningColumns]
  · exact ⟨row, lastMeta, format⟩
  · rw [checkOwner_congr thirdMeta, owned]
  · rw [thirdNames, has]
  · exact headed
  · exact valid

theorem activeBranch_congr (again : later.Repeats request) :
    index.activeBranch later = index.activeBranch request := by
  unfold Index.activeBranch
  rw [again.checkpointNs]

theorem Settled.prepare (settled : Settled request index) (again : later.Repeats request) :
    prepare later index = .ok index := by
  obtain ⟨row, present, -⟩ := settled.started
  obtain ⟨branchId, branch, active, headed⟩ := settled.headed
  have started : bootstrapMeta later index = .ok index := by
    unfold bootstrapMeta
    rw [present]
  have placed : ensureNamespaceState later index = .ok index := by
    unfold ensureNamespaceState
    rw [again.checkpointNs, if_pos settled.named]
  have owned : checkOwner later index = .ok () := by
    have first := settled.owned
    unfold checkOwner at first ⊢
    rw [again.sessionId, again.threadId]
    exact first
  have viewed : ensureHeadView later index = .ok index := by
    unfold ensureHeadView
    rw [activeBranch_congr again, active]
    exact if_pos headed
  unfold Opening.prepare
  rw [started]
  change (ensureNamespaceState later index >>= fun index => do
    checkOwner later index
    let index ← ensureHeadView later index
    validateSchemaState index
    return index) = .ok index
  rw [placed]
  change (checkOwner later index >>= fun _ => do
    let index ← ensureHeadView later index
    validateSchemaState index
    return index) = .ok index
  rw [owned]
  change (ensureHeadView later index >>= fun index => do
    validateSchemaState index
    return index) = .ok index
  rw [viewed]
  change (validateSchemaState index >>= fun _ => Pure.pure index) = .ok index
  rw [settled.valid]
  rfl

theorem Settled.inspect (settled : Settled request index) : inspect index = .ok false := by
  obtain ⟨row, present, format⟩ := settled.started
  have supported : requireV2Runtime row.rolloutFormatVersion = .ok () := by
    unfold requireV2Runtime
    rw [if_neg (not_not.mpr format)]
  rw [inspect_run, settled.ownerColumns, settled.formatColumn, present]
  change (validateSchemaState index >>= fun _ =>
    requireV2Runtime row.rolloutFormatVersion >>= fun _ => .ok false) = .ok false
  rw [settled.valid, supported]
  rfl

theorem Settled.checkPublished (settled : Settled request index) (readable : index.Readable) :
    checkPublished index = .ok () := by
  obtain ⟨row, present, active, -⟩ := readable
  unfold Opening.checkPublished
  rw [settled.reasoningColumns, present]
  simp [active]

theorem Settled.ready (settled : Settled request index) (file : Bytes)
    (readable : index.Readable) (again : later.Repeats request)
    (layout : storage.removedLayout = false) (plain : storage.plainFile = true) :
    ready later { storage with index := index, file := file } = .ok index := by
  unfold Opening.ready admitStorage
  rw [layout, plain]
  simp only [settled.inspect, Bool.false_eq_true, if_false, Bool.true_eq_false,
    settled.checkPublished readable]
  exact settled.prepare again

theorem unfinishedForks_congr (again : later.Repeats request) :
    index.unfinishedForks later = index.unfinishedForks request := by
  unfold Index.unfinishedForks ForkMaterialization.of
  rw [again.sessionId, again.threadId, again.checkpointNs]

theorem recoverableFork_none_iff :
    recoverableFork request index = .ok none ↔
      (if request.forkInProgress then [] else index.unfinishedForks request) = [] := by
  unfold recoverableFork
  constructor
  · intro found
    split at found
    · rename_i nothing
      exact nothing
    · repeat' split at found
      all_goals cases found
    · cases found
  · intro nothing
    rw [nothing]

theorem recoverableFork_again (found : recoverableFork request index = .ok none)
    (again : later.Repeats request) : recoverableFork later index = .ok none := by
  rw [recoverableFork_none_iff] at found ⊢
  rw [again.forkInProgress, unfinishedForks_congr again]
  exact found

theorem recoverableFork_some (found : recoverableFork request index = .ok (some fork)) :
    index.unfinishedForks request = [fork] ∧ fork.status = .targetCommitted := by
  unfold recoverableFork at found
  split at found
  · cases found
  · rename_i single only
    split at found
    · cases found
    · rename_i unprepared
      split at found
      · cases found
      · split at found
        · cases found
        · cases found
          by_cases progress : request.forkInProgress = true
          · rw [if_pos progress] at only
            cases only
          · rw [if_neg progress] at only
            refine ⟨only, ?_⟩
            have member : fork ∈ index.unfinishedForks request := by
              rw [only]
              exact List.mem_singleton_self fork
            have unfinished : fork.status ≠ .committed := by
              have kept := (List.mem_filter.mp member).2
              simp only [Bool.and_eq_true, decide_eq_true_eq] at kept
              exact kept.2
            cases status : fork.status with
            | prepared => exact absurd status unprepared
            | targetCommitted => rfl
            | committed => exact absurd status unfinished
  · cases found

theorem finishFork_unfinished (found : recoverableFork request index = .ok (some fork)) :
    (finishFork request fork index).unfinishedForks request = [] := by
  obtain ⟨only, status⟩ := recoverableFork_some found
  apply List.eq_nil_iff_forall_not_mem.mpr
  intro row member
  obtain ⟨present, unfinished⟩ := List.mem_filter.mp member
  obtain ⟨old, oldPresent, rfl⟩ := List.mem_map.mp present
  split at unfinished
  · simp at unfinished
  · rename_i untouched
    have oldMember : old ∈ index.unfinishedForks request :=
      List.mem_filter.mpr ⟨oldPresent, unfinished⟩
    rw [only] at oldMember
    cases List.mem_singleton.mp oldMember
    simp only [Bool.and_eq_true] at unfinished
    exact untouched ⟨rfl, unfinished.1, status⟩

theorem finishFork_again (found : recoverableFork request index = .ok (some fork))
    (again : later.Repeats request) :
    recoverableFork later (finishFork request fork index) = .ok none := by
  rw [recoverableFork_none_iff, unfinishedForks_congr again, finishFork_unfinished found]
  exact ite_self []

theorem finishFork_changes (found : recoverableFork request index = .ok (some fork)) :
    (finishFork request fork index).forks ≠ index.forks := by
  intro same
  have empty := finishFork_unfinished found
  have only := (recoverableFork_some found).1
  unfold Index.unfinishedForks at empty only
  rw [same, only] at empty
  cases empty

theorem manifestOf_congr (again : later.Repeats request) :
    manifestOf later index = manifestOf request index := by
  unfold manifestOf
  rw [again.checkpointNs]

theorem Settled.manifestOf_iff (settled : Settled request index) :
    (∃ manifest, manifestOf request index = .ok manifest) ↔ index.Readable := by
  obtain ⟨row, present, -⟩ := settled.started
  obtain ⟨branchId, named⟩ := Option.isSome_iff_exists.mp settled.named
  unfold manifestOf Index.Readable
  rw [present, named]
  constructor
  · rintro ⟨manifest, read⟩
    dsimp only at read
    split at read
    · cases read
    · rename_i active
      split at read
      · cases read
      · rename_i branch
        refine ⟨row, rfl, not_not.mp active, ?_⟩
        simpa [Option.isSome_iff_ne_none] using branch
  · rintro ⟨found, same, active, branch⟩
    cases same
    refine ⟨⟨row.rolloutId, request.checkpointNs, branchId, row.rolloutFormatVersion⟩, ?_⟩
    simp [active, Option.isSome_iff_ne_none.mp branch]

end Preparation

end Opening

end GraphAgent.Rollout
