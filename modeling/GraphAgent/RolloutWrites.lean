import GraphAgent.RolloutAppends

/-!
# The write of a commit

Cut short at any point, the write of a commit leaves a file that has only grown
and tables that keep every earlier row.  Run to its end on a sound index, it is
the record of one accepted commit.
-/

namespace GraphAgent.Rollout

open Durable

section Execute

variable {fault : Option AppendPoint} {point : AppendPoint}
  {statement : Database → Except CommitError Database} {before raised after : Staged → Prop}

theorem execute_meets
    (changes : ∀ staged view, before staged → statement staged.view = .ok view →
      after { staged with view })
    (refuses : ∀ staged, before staged → raised staged) :
    Meets before (execute fault point statement) (fun _ => after) raised where
  returns := by
    intro staged start _ next returned
    unfold execute at returned
    split at returned
    · cases returned
    · split at returned
      · rename_i view succeeded
        cases returned
        exact changes staged view start succeeded
      · cases returned
  raises := by
    intro staged start _ next returned
    unfold execute at returned
    split at returned
    · cases returned
      exact refuses staged start
    · split at returned
      · cases returned
      · cases returned
        exact refuses staged start

end Execute

structure Grown (base : Database) (file : Bytes) (staged : Staged) : Prop where
  bytes : file <+: staged.file
  rows : Extends base staged.view

section Growth

variable {base view next : Database} {commitId : Nat} {file : Bytes}
  {fault : Option AppendPoint} {request : AppendRequest} {prepared : List PreparedItem}

theorem insertStorageCommit_extends {start count stop : Nat} (extending : Extends base view)
    (inserted : view.insertStorageCommit request start count stop = .ok next) :
    Extends base next ∧ base.commitSequence < next.commitSequence := by
  unfold Database.insertStorageCommit at inserted
  split at inserted
  · cases inserted
  · cases inserted
    exact ⟨⟨extending.commits.trans (List.prefix_append _ _), extending.catalog,
      Nat.le_succ_of_le extending.sequence, extending.offset⟩,
      Nat.lt_succ_of_le extending.sequence⟩

theorem insertCanonicalItem_extends {item : PreparedItem} (later : base.commitSequence < commitId)
    (extending : Extends base view)
    (inserted : view.insertCanonicalItem commitId item = .ok next) : Extends base next := by
  unfold Database.insertCanonicalItem at inserted
  split at inserted
  · cases inserted
  · split at inserted
    · cases inserted
    · cases inserted
      obtain ⟨rows, added, allLater⟩ := extending.catalog
      refine ⟨extending.commits, ⟨rows ++ [item.row commitId], ?_, ?_⟩, extending.sequence,
        extending.offset⟩
      · simp [added]
      · intro row member
        rcases List.mem_append.mp member with old | new
        · exact allLater row old
        · rw [List.mem_singleton.mp new]
          exact later

theorem convergeCommit_extends
    (bounded : ∀ commit ∈ base.commits, commit.commitId ≤ base.commitSequence)
    (later : base.commitSequence < commitId) (extending : Extends base view)
    (converged : view.convergeCommit commitId = .ok next) : Extends base next := by
  unfold Database.convergeCommit at converged
  split at converged
  · cases converged
  · cases converged
    obtain ⟨more, added⟩ := extending.commits
    refine ⟨?_, extending.catalog, extending.sequence, extending.offset⟩
    have kept : base.commits.map (fun commit =>
        if commit.commitId = commitId then commit.committed else commit) = base.commits := by
      refine (List.map_congr_left ?_).trans (List.map_id' _)
      intro commit member
      have bound := bounded commit member
      exact if_neg (by omega)
    rw [← added, List.map_append, kept]
    exact List.prefix_append _ _

theorem writeJsonl_keeps : Keeps (Grown base file) (writeJsonl fault prepared) where
  returns := by
    intro staged start _ next returned
    unfold writeJsonl at returned
    split at returned
    · cases returned
      exact start
    · split at returned
      · cases returned
      · cases returned
        exact ⟨start.bytes.trans (List.prefix_append _ _), start.rows⟩
  raises := by
    intro staged start _ next returned
    unfold writeJsonl at returned
    split at returned
    · cases returned
    · split at returned
      · cases returned
        exact ⟨start.bytes.trans (List.prefix_append _ _), start.rows⟩
      · cases returned

theorem writeCanonicalItems_keeps (later : base.commitSequence < commitId) (position : Nat) :
    Keeps (Grown base file) (writeCanonicalItems fault commitId position prepared) := by
  induction prepared generalizing position with
  | nil => exact Meets.pure fun _ grown => grown
  | cons item rest ih =>
    have inserts : Keeps (Grown base file) (execute fault (.insertItem position)
        (Database.insertCanonicalItem commitId item)) := by
      refine execute_meets ?_ fun _ grown => grown
      intro staged view grown inserted
      exact ⟨grown.bytes, insertCanonicalItem_extends later grown.rows inserted⟩
    have projects : Keeps (Grown base file) (execute fault (.projectItem position) .ok) := by
      refine execute_meets ?_ fun _ grown => grown
      rintro staged view grown ⟨⟩
      exact grown
    exact Meets.bind inserts fun _ => Meets.bind projects fun _ => ih (position + 1)

theorem writeCommit_keeps {known : Database}
    (bounded : ∀ commit ∈ base.commits, commit.commitId ≤ base.commitSequence)
    (reached : base.committedOffset ≤ known.committedOffset) :
    Keeps (Grown base file) (writeCommit fault request known prepared) := by
  let numbered (commitId : Nat) (staged : Staged) : Prop :=
    Grown base file staged ∧ base.commitSequence < commitId
  have inserts : Meets (Grown base file)
      (execute fault .insertCommit (Database.insertStorageCommit request known.committedOffset
        prepared.length (known.committedOffset + (lines prepared).length)))
      (fun _ staged => numbered staged.view.commitSequence staged) (Grown base file) := by
    refine execute_meets ?_ fun _ grown => grown
    intro staged view grown inserted
    obtain ⟨rows, later⟩ := insertStorageCommit_extends grown.rows inserted
    exact ⟨⟨grown.bytes, rows⟩, later⟩
  have reads : Meets (fun staged : Staged => numbered staged.view.commitSequence staged)
      lastRowId numbered (Grown base file) :=
    Meets.read fun _ held => held
  have items : ∀ commitId, Meets (numbered commitId)
      (writeCanonicalItems fault commitId 0 prepared) (fun _ => numbered commitId)
      (Grown base file) := by
    intro commitId
    constructor
    · intro staged held value next returned
      exact ⟨(writeCanonicalItems_keeps held.2 0).returns staged held.1 value next returned, held.2⟩
    · intro staged held error next returned
      exact (writeCanonicalItems_keeps held.2 0).raises staged held.1 error next returned
  have converges : ∀ commitId, Meets (numbered commitId)
      (execute fault .converge (Database.convergeCommit commitId)) (fun _ => Grown base file)
      (Grown base file) := by
    intro commitId
    refine execute_meets ?_ fun _ held => held.1
    intro staged view held converged
    exact ⟨held.1.bytes, convergeCommit_extends bounded held.2 held.1.rows converged⟩
  have updates : ∀ commitId, Keeps (Grown base file) (execute fault .updateMeta
      (Database.updateMeta commitId (known.committedOffset + (lines prepared).length)
        (known.lastItemSequence + prepared.length))) := by
    intro commitId
    refine execute_meets ?_ fun _ grown => grown
    rintro staged view grown ⟨⟩
    exact ⟨grown.bytes, ⟨grown.rows.commits, grown.rows.catalog, grown.rows.sequence,
      reached.trans (Nat.le_add_right _ _)⟩⟩
  refine Meets.bind writeJsonl_keeps fun _ => Meets.bind inserts fun _ => ?_
  refine Meets.bind reads fun commitId => Meets.bind (items commitId) fun _ => ?_
  exact Meets.bind (converges commitId) fun _ => Meets.bind (updates commitId) fun _ =>
    Meets.pure fun _ grown => grown

end Growth

section Record

variable {codec : ItemCodec} {view : Database} {body file : Bytes}
  {fault : Option AppendPoint} {request : AppendRequest} {prepared : List PreparedItem}

theorem writeCanonicalItems_meets (commitId position : Nat) (start : Staged) :
    Meets (· = start) (writeCanonicalItems fault commitId position prepared)
      (fun _ staged => staged = { start with view := { start.view with
        catalog := start.view.catalog ++ prepared.map (PreparedItem.row commitId) } } ∧
        (∀ item ∈ prepared, ∀ row ∈ start.view.catalog, row.itemId ≠ item.item.itemId) ∧
        (prepared.map fun item => item.item.itemId).Nodup)
      (fun _ => True) := by
  induction prepared generalizing position start with
  | nil =>
    refine Meets.pure ?_
    rintro staged rfl
    simp
  | cons item rest ih =>
    let inserted (staged : Staged) : Prop :=
      staged = { start with view := { start.view with
        catalog := start.view.catalog ++ [item.row commitId] } } ∧
      ∀ row ∈ start.view.catalog, row.itemId ≠ item.item.itemId
    have inserts : Meets (· = start) (execute fault (.insertItem position)
        (Database.insertCanonicalItem commitId item)) (fun _ => inserted) (fun _ => True) := by
      refine execute_meets ?_ fun _ _ => trivial
      rintro _ next rfl succeeded
      unfold Database.insertCanonicalItem at succeeded
      split at succeeded
      · cases succeeded
      · split at succeeded
        · cases succeeded
        · rename_i fresh
          cases succeeded
          refine ⟨rfl, ?_⟩
          intro row member same
          refine fresh (List.any_eq_true.mpr ⟨row, member, ?_⟩)
          exact decide_eq_true same
    have projects : Meets inserted (execute fault (.projectItem position) .ok)
        (fun _ => inserted) (fun _ => True) := by
      refine execute_meets ?_ fun _ _ => trivial
      rintro staged next held ⟨⟩
      exact held
    refine Meets.bind inserts fun _ => Meets.bind projects fun _ => ?_
    refine ⟨?_, fun _ _ _ _ _ => trivial⟩
    rintro staged ⟨rfl, fresh⟩ value next returned
    obtain ⟨rfl, others, distinct⟩ := (ih (position + 1) _).returns _ rfl value next returned
    refine ⟨by simp, ?_, ?_⟩
    · intro written member row rowMember
      rcases List.mem_cons.mp member with rfl | later
      · exact fresh row rowMember
      · exact others written later row (List.mem_append_left _ rowMember)
    · refine List.nodup_cons.mpr ⟨?_, distinct⟩
      intro repeated
      obtain ⟨written, member, same⟩ := List.mem_map.mp repeated
      exact others written member (item.row commitId) (by simp) same.symm

theorem convergeCommit_record (ledger : Ledger codec view body) {row : StorageCommit}
    (numbered : row.commitId = view.commitSequence + 1) {next working : Database}
    (rows : working.commits = view.commits ++ [row])
    (converged : working.convergeCommit (view.commitSequence + 1) = .ok next) :
    next = { working with commits := view.commits ++ [row.committed] } := by
  unfold Database.convergeCommit at converged
  split at converged
  · cases converged
  · cases converged
    have kept : view.commits.map (fun commit =>
        if commit.commitId = view.commitSequence + 1 then commit.committed else commit) =
          view.commits := by
      refine (List.map_congr_left ?_).trans (List.map_id' _)
      intro commit member
      have bound := ledger.commitId_le commit member
      exact if_neg (by omega)
    simp [rows, kept, numbered]

theorem writeCommit_meets (ledger : Ledger codec view body) :
    Meets (· = ⟨file, view⟩) (writeCommit fault request view prepared)
      (fun result staged => staged = ⟨file ++ lines prepared, view.record request prepared⟩ ∧
        result = (view.commitSequence + 1, view.committedOffset + (lines prepared).length) ∧
        (∀ item ∈ prepared, ∀ row ∈ view.catalog, row.itemId ≠ item.item.itemId) ∧
        (prepared.map fun item => item.item.itemId).Nodup)
      (fun _ => True) := by
  let row := request.row (view.commitSequence + 1) view.committedOffset prepared.length
    (view.committedOffset + (lines prepared).length)
  let inserted : Staged := ⟨file ++ lines prepared, { view with
    commits := view.commits ++ [row]
    commitSequence := view.commitSequence + 1 }⟩
  let written : Staged := { inserted with view := { inserted.view with
    catalog := view.catalog ++ prepared.map (PreparedItem.row (view.commitSequence + 1)) } }
  let converged : Staged := { written with view := { written.view with
    commits := view.commits ++ [row.committed] } }
  let fresh : Prop := (∀ item ∈ prepared, ∀ row ∈ view.catalog, row.itemId ≠ item.item.itemId) ∧
    (prepared.map fun item => item.item.itemId).Nodup
  have appends : Meets (· = ⟨file, view⟩) (writeJsonl fault prepared)
      (fun _ staged => staged = ⟨file ++ lines prepared, view⟩) (fun _ => True) := by
    refine ⟨?_, fun _ _ _ _ _ => trivial⟩
    rintro _ rfl _ next returned
    unfold writeJsonl at returned
    split at returned
    · rename_i empty
      cases returned
      simp [List.isEmpty_iff.mp empty]
    · split at returned
      · cases returned
      · cases returned
        rfl
  have inserts : Meets (· = ⟨file ++ lines prepared, view⟩)
      (execute fault .insertCommit (Database.insertStorageCommit request view.committedOffset
        prepared.length (view.committedOffset + (lines prepared).length)))
      (fun _ staged => staged = inserted) (fun _ => True) := by
    refine execute_meets ?_ fun _ _ => trivial
    rintro _ next rfl succeeded
    unfold Database.insertStorageCommit at succeeded
    split at succeeded
    · cases succeeded
    · cases succeeded
      rfl
  have reads : Meets (· = inserted) lastRowId
      (fun commitId staged => staged = inserted ∧ commitId = view.commitSequence + 1)
      (fun _ => True) := by
    refine Meets.read ?_
    rintro _ rfl
    exact ⟨rfl, rfl⟩
  have items : ∀ commitId, Meets (fun staged => staged = inserted ∧
        commitId = view.commitSequence + 1) (writeCanonicalItems fault commitId 0 prepared)
      (fun _ staged => staged = written ∧ commitId = view.commitSequence + 1 ∧ fresh)
      (fun _ => True) := by
    intro commitId
    refine ⟨?_, fun _ _ _ _ _ => trivial⟩
    rintro _ ⟨rfl, rfl⟩ value next returned
    obtain ⟨rfl, others, distinct⟩ :=
      (writeCanonicalItems_meets _ 0 inserted).returns _ rfl value next returned
    exact ⟨rfl, rfl, others, distinct⟩
  have converges : ∀ commitId, Meets (fun staged => staged = written ∧
        commitId = view.commitSequence + 1 ∧ fresh)
      (execute fault .converge (Database.convergeCommit commitId))
      (fun _ staged => staged = converged ∧ commitId = view.commitSequence + 1 ∧ fresh)
      (fun _ => True) := by
    intro commitId
    refine execute_meets ?_ fun _ _ => trivial
    rintro _ next ⟨rfl, rfl, held⟩ succeeded
    have same := convergeCommit_record ledger rfl rfl succeeded
    exact ⟨by rw [same], rfl, held⟩
  have updates : ∀ commitId, Meets (fun staged => staged = converged ∧
        commitId = view.commitSequence + 1 ∧ fresh)
      (execute fault .updateMeta (Database.updateMeta commitId
        (view.committedOffset + (lines prepared).length)
        (view.lastItemSequence + prepared.length)))
      (fun _ staged => staged = ⟨file ++ lines prepared, view.record request prepared⟩ ∧
        commitId = view.commitSequence + 1 ∧ fresh) (fun _ => True) := by
    intro commitId
    refine execute_meets ?_ fun _ _ => trivial
    rintro _ next ⟨rfl, rfl, held⟩ ⟨⟩
    exact ⟨rfl, rfl, held⟩
  refine Meets.bind appends fun _ => Meets.bind inserts fun _ => ?_
  refine Meets.bind reads fun commitId => Meets.bind (items commitId) fun _ => ?_
  refine Meets.bind (converges commitId) fun _ => Meets.bind (updates commitId) fun _ => ?_
  refine Meets.pure ?_
  rintro _ ⟨rfl, rfl, others, distinct⟩
  exact ⟨rfl, rfl, others, distinct⟩

end Record

end GraphAgent.Rollout
