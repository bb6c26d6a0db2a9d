import GraphAgent.RolloutConnections
import GraphAgent.RolloutLedger

/-!
# What an append does

A named commit is replayed or refused and nothing changes.  A new one adds its
lines and its rows together when it returns; when it raises, the file and the
tables have at most grown.
-/

namespace GraphAgent.Rollout

/-- The tables hold at least the rows of an earlier index. -/
structure Extends (base view : Database) : Prop where
  commits : base.commits <+: view.commits
  catalog : ∃ more, view.catalog = base.catalog ++ more ∧
    ∀ row ∈ more, base.commitSequence < row.commitId
  sequence : base.commitSequence ≤ view.commitSequence
  offset : base.committedOffset ≤ view.committedOffset

namespace Extends

variable {base view further : Database}

theorem refl (base : Database) : Extends base base :=
  ⟨List.prefix_refl _, ⟨[], by simp, by simp⟩, Nat.le_refl _, Nat.le_refl _⟩

theorem trans (first : Extends base view) (second : Extends view further) :
    Extends base further := by
  obtain ⟨rows, added, later⟩ := first.catalog
  obtain ⟨moreRows, moreAdded, evenLater⟩ := second.catalog
  refine ⟨first.commits.trans second.commits, ⟨rows ++ moreRows, ?_, ?_⟩,
    first.sequence.trans second.sequence, first.offset.trans second.offset⟩
  · rw [moreAdded, added, List.append_assoc]
  · intro row member
    rcases List.mem_append.mp member with old | new
    · exact later row old
    · exact Nat.lt_of_le_of_lt first.sequence (evenLater row new)

theorem identities (extending : Extends base view) {commitId : Nat}
    (earlier : commitId ≤ base.commitSequence) :
    readCommittedItemIdentities view commitId = readCommittedItemIdentities base commitId := by
  obtain ⟨rows, added, later⟩ := extending.catalog
  have unmatched : rows.filter (fun row => row.commitId = commitId) = [] := by
    refine List.filter_eq_nil_iff.mpr ?_
    intro row member same
    have after := later row member
    have equal : row.commitId = commitId := by simpa using same
    omega
  simp [readCommittedItemIdentities, added, unmatched]

end Extends

structure Repeats (view : Database) (request : AppendRequest) (commit : StorageCommit) : Prop where
  mode : commit.commitMode = request.mode
  outcome : commit.outcome = request.outcome
  metadata : commit.metadata.text = request.metadata.text
  count : commit.recordCount = request.items.length
  items : readCommittedItemIdentities view commit.commitId =
    request.items.map CanonicalItemRecord.identity

namespace Ledger

variable {codec : ItemCodec} {view base : Database} {body file : Bytes}
  {request : AppendRequest} {commit : StorageCommit}

theorem find_named (ledger : Ledger codec base body) (member : commit ∈ base.commits)
    (named : request.names commit = true) : base.commits.find? request.names = some commit := by
  induction ledger with
  | empty => simp at member
  | @record view body stored prepared _ accepts ih =>
    rcases List.mem_append.mp member with old | new
    · simp [Database.record, List.find?_append, ih old]
    · have unnamed : view.commits.find? request.names = none := by
        refine List.find?_eq_none.mpr ?_
        intro earlier earlierMember
        have other := accepts.newKey earlier earlierMember
        rw [List.mem_singleton.mp new] at named
        obtain ⟨⟨kind, subject⟩, key⟩ : (stored.commitKind = request.commitKind ∧
            stored.subjectId = request.subjectId) ∧ stored.key = request.key := by
          simpa [AppendRequest.names, AppendRequest.row, StorageCommit.committed] using named
        have sameNames : request.names earlier = stored.names earlier := by
          rw [AppendRequest.names, AppendRequest.names, kind, subject, key]
        rw [sameNames, other]
        exact Bool.false_ne_true
      rw [List.mem_singleton.mp new] at named ⊢
      simp [Database.record, List.find?_append, unnamed, named]

theorem decodes (ledger : Ledger codec base body) (member : commit ∈ base.commits) :
    decodeCommittedStorageCommit commit = .ok () := by
  induction ledger with
  | empty => simp at member
  | @record view body stored prepared _ accepts ih =>
    rcases List.mem_append.mp member with old | new
    · exact ih old
    · rw [List.mem_singleton.mp new]
      have empty : prepared = [] → (lines prepared).length = 0 := by
        rintro rfl
        rfl
      unfold decodeCommittedStorageCommit
      rw [if_neg (fun differs => differs rfl), if_neg, if_neg]
      · exact accepts.contract
      · rintro ⟨counted, moved⟩
        have noLines := empty (List.length_eq_zero_iff.mp counted)
        simp [StorageCommit.committed, AppendRequest.row, noLines] at moved
      · simp [StorageCommit.committed, AppendRequest.row]

theorem planAppend_named (ledger : Ledger codec base body) (extending : Extends base view)
    (member : commit ∈ base.commits) (named : request.names commit = true)
    (checked : request.check = .ok ()) :
    (Repeats base request commit →
      planAppend codec file view request = .ok (.replay commit)) ∧
    (¬ Repeats base request commit →
      ∃ error, planAppend codec file view request = .error error) := by
  have found : view.commits.find? request.names = some commit := by
    obtain ⟨more, added⟩ := extending.commits
    rw [← added, List.find?_append, ledger.find_named member named]
    rfl
  have same := extending.identities (ledger.commitId_le commit member)
  have unfolded : planAppend codec file view request =
      (if commit.commitMode ≠ request.mode ∨ commit.outcome ≠ request.outcome ∨
          commit.metadata.text ≠ request.metadata.text then
        .error (.value "storage commit 幂等键冲突：mode/outcome/metadata 不一致")
      else if commit.recordCount ≠ request.items.length then
        .error (.value "storage commit 幂等键冲突：item 数量不一致")
      else if readCommittedItemIdentities base commit.commitId ≠
          request.items.map CanonicalItemRecord.identity then
        .error (.value "storage commit 幂等键冲突：item identity/content/sequence 不一致")
      else
        .ok (.replay commit)) := by
    simp only [planAppend, checked, loadCommittedIdempotencyCommit, found,
      ledger.decodes member, bind, Except.bind]
    by_cases fields : commit.commitMode ≠ request.mode ∨ commit.outcome ≠ request.outcome ∨
        commit.metadata.text ≠ request.metadata.text
    · rw [if_pos fields, if_pos fields]
    · rw [if_neg fields, if_neg fields]
      by_cases count : commit.recordCount ≠ request.items.length
      · rw [if_pos count, if_pos count]
      · rw [if_neg count, if_neg count]
        simp only [same]
  rw [unfolded]
  constructor
  · rintro ⟨mode, outcome, metadata, count, items⟩
    simp [mode, outcome, metadata, count, items]
  · intro differs
    split
    · exact ⟨_, rfl⟩
    · split
      · exact ⟨_, rfl⟩
      · split
        · exact ⟨_, rfl⟩
        · rename_i fields count items
          push Not at fields count items
          exact absurd ⟨fields.1, fields.2.1, fields.2.2, count, items⟩ differs

end Ledger

theorem planAppend_write {codec : ItemCodec} {file : Bytes} {view : Database}
    {request : AppendRequest} {prepared : List PreparedItem}
    (planned : planAppend codec file view request = .ok (.write prepared)) :
    view.committedOffset = file.length ∧
      (∀ commit ∈ view.commits, request.names commit = false) ∧
      validateCommitContract request.commitKind request.mode prepared.length request.outcome =
        .ok () ∧
      PreparedFrom codec (view.lastItemSequence + 1) view.committedOffset prepared ∧
      prepared.map PreparedItem.item = request.items := by
  obtain ⟨_, checked, planned⟩ := Transaction.bind_ok planned
  obtain ⟨found, loaded, planned⟩ := Transaction.bind_ok planned
  cases found with
  | some commit =>
    change (if readCommittedItemIdentities view commit.commitId ≠
      request.items.map CanonicalItemRecord.identity then _ else _) = _ at planned
    split at planned <;> cases planned
  | none =>
    change (if view.committedOffset ≠ file.length then _ else _) = _ at planned
    split at planned
    · cases planned
    rename_i aligned
    obtain ⟨_, looped, built⟩ := Transaction.map_ok planned
    cases built
    obtain ⟨continues, same⟩ := prepareItems_ok looped
    obtain ⟨_, contract, -⟩ := Transaction.bind_ok checked
    have counted : prepared.length = request.items.length := by
      rw [← same, List.length_map]
    refine ⟨not_not.mp aligned, ?_, counted ▸ contract, continues, same⟩
    intro commit member
    unfold loadCommittedIdempotencyCommit at loaded
    split at loaded
    · rename_i unnamed
      simpa using List.find?_eq_none.mp unnamed commit member
    · obtain ⟨_, -, loaded⟩ := Transaction.bind_ok loaded
      split at loaded
      · cases loaded
      · split at loaded <;> cases loaded

end GraphAgent.Rollout
