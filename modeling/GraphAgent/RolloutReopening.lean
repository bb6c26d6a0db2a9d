import GraphAgent.RolloutOpening

/-!
# The course of an opening

Up to the recovery of a fork the call only computes the index its transaction would
hold.  What is left of it after that is the tail of the file, which is cut once the
commits are validated, and the index, which is the one before the call when it raises
without having finished a fork.
-/

namespace GraphAgent.Rollout

namespace Opening

open Durable

def admitStorage (storage : Storage) : Except CommitError Index :=
  if storage.removedLayout then .error (.runtime "rollout 使用了已移除的旧布局")
  else
    match inspect storage.index with
    | .error error => .error error
    | .ok needsSchema =>
      if storage.plainFile = false then
        .error (.runtime "rollout.jsonl 不是安全普通文件")
      else
        let index := if needsSchema then initializeSchema storage.index else storage.index
        match checkPublished index with
        | .error error => .error error
        | .ok () => .ok index

def prepare (request : Request) (index : Index) : Except CommitError Index := do
  let index ← bootstrapMeta request index
  let index ← ensureNamespaceState request index
  checkOwner request index
  let index ← ensureHeadView request index
  validateSchemaState index
  return index

/-- The index of the transaction when the fork is looked at. -/
def ready (request : Request) (storage : Storage) : Except CommitError Index :=
  admitStorage storage >>= prepare request

/-- The end of the block. -/
def settle (codec : ItemCodec) (request : Request) (file : Bytes) (index : Index) :
    Except CommitError Manifest := do
  let offset ← committedOffset index
  if file.length < offset then
    .error (.type "rollout.jsonl 小于 SQLite 已提交偏移，无法安全恢复")
  else do
    validateCommitOffsets codec file index.database
    manifestOf request index

def remaining (codec : ItemCodec) (file : Bytes) (database : Database) : Bytes :=
  match validateCommitOffsets codec file database with
  | .ok () => file.take database.committedOffset
  | .error _ => file

section Statements

variable {Value : Type} {opened : Opened} {index : Index} {error : CommitError}

theorem write_run_ok {statement : Index → Except CommitError Index}
    (written : statement opened.pending = .ok index) :
    write statement opened = (.ok (), { opened with pending := index }) := by
  unfold write
  rw [written]

theorem write_run_error {statement : Index → Except CommitError Index}
    (refused : statement opened.pending = .error error) :
    write statement opened = (.error error, opened) := by
  unfold write
  rw [refused]

theorem query_run (view : Index → Except CommitError Value) :
    query view opened = (view opened.pending, opened) :=
  rfl

theorem query_run_of_eq {view : Index → Except CommitError Value}
    {outcome : Except CommitError Value} (found : view opened.pending = outcome) :
    query view opened = (outcome, opened) := by
  rw [query_run, found]

end Statements

structure Stages (block rest : Durable CommitError Opened Manifest) (opened : Opened)
    (outcome : Except CommitError Index) : Prop where
  refused : ∀ error, outcome = .error error →
    ∃ pending, block opened = (.error error, { opened with pending })
  goesOn : ∀ index, outcome = .ok index → block opened = rest { opened with pending := index }

namespace Stages

variable {rest : Durable CommitError Opened Manifest} {opened : Opened}

theorem done : Stages rest rest opened (.ok opened.pending) where
  refused := by
    rintro error ⟨⟩
  goesOn := by
    rintro index ⟨⟩
    rfl

theorem write {statement : Index → Except CommitError Index}
    {block : Durable CommitError Opened Manifest} {later : Index → Except CommitError Index}
    (step : ∀ index, Stages block rest { opened with pending := index } (later index)) :
    Stages (Opening.write statement >>= fun _ => block) rest opened
      (statement opened.pending >>= later) := by
  cases written : statement opened.pending with
  | error reason =>
    have stopped : (Opening.write statement >>= fun _ => block) opened =
        (.error reason, opened) :=
      bind_run_error (write_run_error written)
    constructor
    · rintro error ⟨⟩
      exact ⟨opened.pending, stopped⟩
    · rintro index ⟨⟩
  | ok index =>
    have passed : (Opening.write statement >>= fun _ => block) opened =
        block { opened with pending := index } :=
      bind_run_ok (write_run_ok written)
    constructor
    · intro error refused
      rw [passed]
      exact (step index).refused error refused
    · intro last ended
      rw [passed]
      exact (step index).goesOn last ended

theorem query {view : Index → Except CommitError Unit}
    {block : Durable CommitError Opened Manifest} {later : Except CommitError Index}
    (step : Stages block rest opened later) :
    Stages (Opening.query view >>= fun _ => block) rest opened
      (view opened.pending >>= fun _ => later) := by
  cases found : view opened.pending with
  | error reason =>
    have stopped : (Opening.query view >>= fun _ => block) opened =
        (.error reason, opened) :=
      bind_run_error (query_run_of_eq found)
    constructor
    · rintro error ⟨⟩
      exact ⟨opened.pending, stopped⟩
    · rintro index ⟨⟩
  | ok _ =>
    have passed : (Opening.query view >>= fun _ => block) opened = block opened :=
      bind_run_ok (query_run_of_eq found)
    constructor
    · intro error refused
      rw [passed]
      exact step.refused error refused
    · intro last ended
      rw [passed]
      exact step.goesOn last ended

end Stages

section Block

variable {codec : ItemCodec} {request : Request} {opened : Opened} {index : Index}
  {error : CommitError} {manifest : Manifest}

theorem openBlock_stages (codec : ItemCodec) (request : Request) (opened : Opened) :
    Stages (openBlock request codec)
      (recoverForkMaterialization request >>= fun _ => settleTail request codec) opened
      (prepare request opened.pending) := by
  apply Stages.write
  intro bootstrapped
  apply Stages.write
  intro named
  apply Stages.query
  apply Stages.write
  intro headed
  apply Stages.query
  exact Stages.done

theorem committedOffset_of_started (started : index.databaseMeta.isSome) :
    committedOffset index = .ok index.database.committedOffset := by
  unfold committedOffset
  rw [if_neg]
  rw [Option.isNone_eq_false_iff.mpr started]
  exact Bool.false_ne_true

theorem length_of_validated {file : Bytes} {database : Database}
    (valid : validateCommitOffsets codec file database = .ok ()) :
    database.committedOffset ≤ file.length := by
  unfold validateCommitOffsets at valid
  cases commits : validateCommits database 0 none database.commits with
  | error reason =>
    rw [commits] at valid
    cases valid
  | ok reached =>
    rw [commits] at valid
    obtain ⟨previous, last⟩ := reached
    simp only [bind, Except.bind] at valid
    split at valid
    · cases valid
    · split at valid
      · cases valid
      · rename_i within
        omega

theorem remaining_of_short {file : Bytes} {database : Database}
    (short : file.length < database.committedOffset) : remaining codec file database = file := by
  unfold remaining
  split
  · rename_i valid
    have within := length_of_validated valid
    omega
  · rfl

theorem settle_of_started {file : Bytes} (started : index.databaseMeta.isSome) :
    settle codec request file index =
      if file.length < index.database.committedOffset then
        .error (.type "rollout.jsonl 小于 SQLite 已提交偏移，无法安全恢复")
      else
        validateCommitOffsets codec file index.database >>= fun _ => manifestOf request index := by
  unfold settle
  rw [committedOffset_of_started started]
  rfl

theorem settleTail_run (codec : ItemCodec) (request : Request) (opened : Opened)
    (started : opened.pending.databaseMeta.isSome) :
    ∃ pending,
      settleTail request codec opened =
        (settle codec request opened.file opened.pending,
          { opened with
            pending
            file := remaining codec opened.file opened.pending.database }) ∧
      ∀ manifest, settle codec request opened.file opened.pending = .ok manifest →
        pending = opened.pending := by
  have offset := committedOffset_of_started started
  have begins : settleTail request codec opened =
      (if opened.file.length < opened.pending.database.committedOffset then do
        write (markRecoveryRequired request)
        raise (.type "rollout.jsonl 小于 SQLite 已提交偏移，无法安全恢复")
      else do
        check fun opened => validateCommitOffsets codec opened.file opened.pending.database
        if opened.pending.database.committedOffset < opened.file.length then
          reconcileJsonlTail opened.pending.database.committedOffset
        query (manifestOf request) : Durable CommitError Opened Manifest) opened := by
    unfold settleTail
    rw [bind_run_ok (query_run_of_eq offset)]
    rfl
  rw [begins, settle_of_started started]
  by_cases short : opened.file.length < opened.pending.database.committedOffset
  · rw [if_pos short, remaining_of_short short]
    rw [if_pos short]
    cases row : opened.pending.databaseMeta with
    | none =>
      rw [row] at started
      cases started
    | some found =>
      refine ⟨{ opened.pending with
        databaseMeta := some
          { found with databaseState := .recoveryRequired, updatedAt := request.now } }, ?_, ?_⟩
      · apply bind_run_ok
        apply write_run_ok
        unfold markRecoveryRequired
        rw [row]
      · rintro manifest ⟨⟩
  · rw [if_neg short]
    refine ⟨opened.pending, ?_, fun _ _ => rfl⟩
    rw [if_neg short]
    unfold remaining
    have checked : (check fun opened => validateCommitOffsets codec opened.file
        opened.pending.database) opened =
          (validateCommitOffsets codec opened.file opened.pending.database, opened) := rfl
    cases valid : validateCommitOffsets codec opened.file opened.pending.database with
    | error reason =>
      rw [valid] at checked
      exact bind_run_error checked
    | ok _ =>
      rw [valid] at checked
      rw [bind_run_ok checked]
      by_cases longer : opened.pending.database.committedOffset < opened.file.length
      · have different : ¬opened.file.length = opened.pending.database.committedOffset := by
          omega
        have cut : reconcileJsonlTail opened.pending.database.committedOffset opened =
            (.ok (), { opened with
              file := opened.file.take opened.pending.database.committedOffset }) := by
          unfold reconcileJsonlTail
          rw [if_neg short, if_neg different]
        rw [if_pos longer, bind_run_ok cut]
        rfl
      · have whole : opened.file.take opened.pending.database.committedOffset = opened.file :=
          List.take_of_length_le (by omega)
        rw [if_neg longer, whole]
        rfl

end Block

section Call

variable {codec : ItemCodec} {request : Request} {storage : Storage} {index : Index}
  {error : CommitError} {manifest : Manifest} {fork : ForkMaterialization}

def SameRows (index base : Index) : Prop :=
  base = index ∨ base = initializeSchema index

theorem SameRows.databaseMeta {before after : Index} (same : SameRows before after) :
    after.databaseMeta = before.databaseMeta := by
  rcases same with rfl | rfl <;> rfl

theorem exitConnection_base {Value : Type} {base : Index}
    (ending : Except CommitError Value × Opened) :
    exitConnection { storage with index := base } ending = exitConnection storage ending := by
  obtain ⟨answer, opened⟩ := ending
  cases answer <;> rfl

theorem initializeStorage_admit (codec : ItemCodec) (request : Request) (storage : Storage) :
    ∃ base, SameRows storage.index base ∧
      (∀ error, admitStorage storage = .error error →
        initializeStorage codec request storage = (.error error, { storage with index := base })) ∧
      ∀ index, admitStorage storage = .ok index → index = base ∧
        initializeStorage codec request storage =
          withConnection (openBlock request codec) { storage with index := base } := by
  unfold initializeStorage admitStorage
  by_cases removed : storage.removedLayout = true
  · rw [if_pos removed, if_pos removed]
    refine ⟨storage.index, Or.inl rfl, ?_, ?_⟩
    · rintro error ⟨⟩
      rfl
    · rintro index ⟨⟩
  · rw [if_neg removed, if_neg removed]
    cases inspected : inspect storage.index with
    | error reason =>
      refine ⟨storage.index, Or.inl rfl, ?_, ?_⟩
      · rintro error ⟨⟩
        rfl
      · rintro index ⟨⟩
    | ok needsSchema =>
      by_cases plain : storage.plainFile = false
      · simp only [if_pos plain]
        refine ⟨storage.index, Or.inl rfl, ?_, ?_⟩
        · rintro error ⟨⟩
          rfl
        · rintro index ⟨⟩
      · simp only [if_neg plain]
        refine ⟨if needsSchema then initializeSchema storage.index else storage.index, ?_, ?_⟩
        · cases needsSchema
          · exact Or.inl rfl
          · exact Or.inr rfl
        · cases needsSchema
          · simp only [Bool.false_eq_true, if_false]
            cases checkPublished storage.index with
            | error reason => exact ⟨by rintro error ⟨⟩; rfl, by rintro index ⟨⟩⟩
            | ok _ => exact ⟨by rintro error ⟨⟩, by rintro index ⟨⟩; exact ⟨rfl, rfl⟩⟩
          · simp only [if_true]
            cases checkPublished (initializeSchema storage.index) with
            | error reason => exact ⟨by rintro error ⟨⟩; rfl, by rintro index ⟨⟩⟩
            | ok _ => exact ⟨by rintro error ⟨⟩, by rintro index ⟨⟩; exact ⟨rfl, rfl⟩⟩

theorem initializeStorage_refused (codec : ItemCodec)
    (refused : ready request storage = .error error) :
    ∃ base, SameRows storage.index base ∧
      initializeStorage codec request storage = (.error error, { storage with index := base }) := by
  obtain ⟨base, same, stopped, goesOn⟩ := initializeStorage_admit codec request storage
  refine ⟨base, same, ?_⟩
  unfold ready at refused
  cases admitted : admitStorage storage with
  | error reason =>
    rw [admitted] at refused
    cases refused
    exact stopped error admitted
  | ok index =>
    rw [admitted] at refused
    obtain ⟨rfl, runs⟩ := goesOn index admitted
    obtain ⟨pending, blocked⟩ :=
      (openBlock_stages codec request ⟨index, index, storage.file⟩).refused error refused
    rw [runs]
    unfold withConnection
    rw [blocked]
    rfl

theorem initializeStorage_ready (codec : ItemCodec)
    (prepared : ready request storage = .ok index) :
    ∃ base, SameRows storage.index base ∧
      initializeStorage codec request storage =
        exitConnection storage
          ((recoverForkMaterialization request >>= fun _ => settleTail request codec)
            ⟨base, index, storage.file⟩) := by
  obtain ⟨base, same, stopped, goesOn⟩ := initializeStorage_admit codec request storage
  refine ⟨base, same, ?_⟩
  unfold ready at prepared
  cases admitted : admitStorage storage with
  | error reason =>
    rw [admitted] at prepared
    cases prepared
  | ok found =>
    rw [admitted] at prepared
    obtain ⟨rfl, runs⟩ := goesOn found admitted
    have reached :=
      (openBlock_stages codec request ⟨found, found, storage.file⟩).goesOn index prepared
    rw [runs]
    unfold withConnection
    rw [reached, exitConnection_base]

theorem recoverFork_none {opened : Opened}
    (found : recoverableFork request opened.pending = .ok none) :
    recoverForkMaterialization request opened = (.ok (), opened) := by
  unfold recoverForkMaterialization
  rw [bind_run_ok (query_run_of_eq found)]
  rfl

theorem recoverFork_error {opened : Opened}
    (refused : recoverableFork request opened.pending = .error error) :
    recoverForkMaterialization request opened = (.error error, opened) := by
  unfold recoverForkMaterialization
  exact bind_run_error (query_run_of_eq refused)

theorem recoverFork_some {opened : Opened}
    (found : recoverableFork request opened.pending = .ok (some fork)) :
    recoverForkMaterialization request opened =
      (.ok (), { opened with
        committed := finishFork request fork opened.pending
        pending := finishFork request fork opened.pending }) := by
  unfold recoverForkMaterialization
  rw [bind_run_ok (query_run_of_eq found)]
  rfl

theorem initializeStorage_blocked (codec : ItemCodec)
    (prepared : ready request storage = .ok index)
    (refused : recoverableFork request index = .error error) :
    ∃ base, SameRows storage.index base ∧
      initializeStorage codec request storage = (.error error, { storage with index := base }) := by
  obtain ⟨base, same, runs⟩ := initializeStorage_ready codec prepared
  refine ⟨base, same, ?_⟩
  have blocked : recoverForkMaterialization request ⟨base, index, storage.file⟩ =
      (.error error, ⟨base, index, storage.file⟩) := recoverFork_error refused
  rw [runs, bind_run_error blocked]
  rfl

theorem initializeStorage_settles (codec : ItemCodec)
    (prepared : ready request storage = .ok index)
    (started : index.databaseMeta.isSome) (found : recoverableFork request index = .ok none) :
    ∃ base, SameRows storage.index base ∧
      initializeStorage codec request storage =
        (settle codec request storage.file index,
          { storage with
            index :=
              match settle codec request storage.file index with
              | .ok _ => index
              | .error _ => base
            file := remaining codec storage.file index.database }) := by
  obtain ⟨base, same, runs⟩ := initializeStorage_ready codec prepared
  refine ⟨base, same, ?_⟩
  have passed : recoverForkMaterialization request ⟨base, index, storage.file⟩ =
      (.ok (), ⟨base, index, storage.file⟩) := recoverFork_none found
  obtain ⟨pending, settled, kept⟩ :=
    settleTail_run codec request ⟨base, index, storage.file⟩ started
  rw [runs, bind_run_ok passed, settled]
  cases outcome : settle codec request storage.file index with
  | error reason => rfl
  | ok manifest =>
    have same := kept manifest outcome
    subst same
    rfl

theorem initializeStorage_recovers (codec : ItemCodec)
    (prepared : ready request storage = .ok index)
    (started : index.databaseMeta.isSome)
    (found : recoverableFork request index = .ok (some fork)) :
    initializeStorage codec request storage =
      (settle codec request storage.file (finishFork request fork index),
        { storage with
          index := finishFork request fork index
          file := remaining codec storage.file index.database }) := by
  obtain ⟨base, same, runs⟩ := initializeStorage_ready codec prepared
  have passed : recoverForkMaterialization request ⟨base, index, storage.file⟩ =
      (.ok (), ⟨finishFork request fork index, finishFork request fork index, storage.file⟩) :=
    recoverFork_some found
  obtain ⟨pending, settled, kept⟩ :=
    settleTail_run codec request
      ⟨finishFork request fork index, finishFork request fork index, storage.file⟩
      started
  rw [runs, bind_run_ok passed, settled]
  cases outcome : settle codec request storage.file (finishFork request fork index) with
  | error reason => rfl
  | ok manifest =>
    have same := kept manifest outcome
    subst same
    rfl

end Call

end Opening

end GraphAgent.Rollout
