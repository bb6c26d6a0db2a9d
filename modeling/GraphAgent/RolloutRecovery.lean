import GraphAgent.RolloutSafety

/-!
# Initialization accepts a sound rollout

The commit chain and the catalog that recorded commits leave pass every check of
`initialize`, so that a tail left by a failed commit or a crash is always cut off.
-/

namespace GraphAgent.Rollout

open FileTiling

/-- `initialize` refuses commits with the metadata keys of the compacted format. -/
def StorageCommit.unreserved (commit : StorageCommit) : Prop :=
  (commit.metadata.keys.any fun key => key = "physical_record_count" || key = "compacted") = false

namespace Ledger

variable {codec : ItemCodec} {view database : Database} {body file : Bytes}

theorem counts (ledger : Ledger codec view body) : ∀ commit ∈ view.commits,
    (view.catalog.filter fun row => row.commitId = commit.commitId).length =
      commit.recordCount := by
  induction ledger with
  | empty => simp
  | @record view body request prepared ledger _ ih =>
    intro commit member
    change ((view.catalog ++ _).filter _).length = _
    rw [List.filter_append, List.length_append]
    rcases List.mem_append.mp member with old | new
    · have bound := ledger.commitId_le commit old
      have later : (prepared.map (PreparedItem.row (view.commitSequence + 1))).filter
          (fun row => row.commitId = commit.commitId) = [] := by
        refine List.filter_eq_nil_iff.mpr ?_
        intro row rowMember same
        obtain ⟨item, -, rfl⟩ := List.mem_map.mp rowMember
        have equal : view.commitSequence + 1 = commit.commitId := of_decide_eq_true same
        omega
      rw [ih commit old, later]
      rfl
    · rw [List.mem_singleton.mp new]
      change (view.catalog.filter fun row => row.commitId = view.commitSequence + 1).length +
        ((prepared.map (PreparedItem.row (view.commitSequence + 1))).filter
          fun row => row.commitId = view.commitSequence + 1).length = prepared.length
      rw [ledger.unused_commitId, filter_row, List.length_map, List.length_nil, Nat.zero_add]

theorem commit_bounds (ledger : Ledger codec view body) : ∀ row ∈ view.catalog,
    ∃ commit, view.commits.find? (fun commit => commit.commitId = row.commitId) = some commit ∧
      commit.startOffset ≤ row.jsonlOffset ∧
      row.jsonlOffset + row.jsonlLength ≤ commit.endOffset ∧ commit.recordCount ≠ 0 := by
  induction ledger with
  | empty => simp
  | @record view body request prepared ledger accepts ih =>
    intro row member
    rcases List.mem_append.mp member with old | new
    · obtain ⟨commit, found, bounds⟩ := ih row old
      exact ⟨commit, by simp [Database.record, List.find?_append, found], bounds⟩
    · have within := (accepts.continues.tiles (view.commitSequence + 1)).bounds new
      obtain ⟨item, itemMember, rfl⟩ := List.mem_map.mp new
      have older : view.commits.find?
          (fun commit => commit.commitId = view.commitSequence + 1) = none := by
        refine List.find?_eq_none.mpr ?_
        intro commit commitMember same
        have bound := ledger.commitId_le commit commitMember
        have equal : commit.commitId = view.commitSequence + 1 := by simpa using same
        omega
      refine ⟨(request.row (view.commitSequence + 1) view.committedOffset prepared.length
        (view.committedOffset + (lines prepared).length)).committed, ?_, within.1, within.2, ?_⟩
      · change (view.commits ++ _).find? (fun commit => commit.commitId =
          view.commitSequence + 1) = _
        rw [List.find?_append, older]
        simp [StorageCommit.committed, AppendRequest.row]
      · exact List.length_pos_of_mem itemMember |>.ne'

theorem validateCommits_ok (ledger : Ledger codec view body)
    (unreserved : ∀ commit ∈ view.commits, commit.unreserved)
    (counts : ∀ commit ∈ view.commits,
      (database.catalog.filter fun row => row.commitId = commit.commitId).length =
        commit.recordCount) (more : List StorageCommit) :
    validateCommits database 0 none (view.commits ++ more) =
      validateCommits database view.committedOffset view.lastCommitId more := by
  induction ledger generalizing more with
  | empty => rfl
  | @record view body request prepared ledger accepts ih =>
    have newest := List.mem_append_right view.commits (List.mem_singleton_self
      (request.row (view.commitSequence + 1) view.committedOffset prepared.length
        (view.committedOffset + (lines prepared).length)).committed)
    have earlier := ih (fun commit member => unreserved commit (List.mem_append_left _ member))
      (fun commit member => counts commit (List.mem_append_left _ member))
    have counted := counts _ newest
    have keys := unreserved _ newest
    have contract := accepts.contract
    have bearing : request.mode = .itemBearing → prepared.length ≠ 0 := by
      intro mode none_
      rw [validateCommitContract, if_pos ⟨mode, none_⟩] at contract
      cases contract
    have metadataOnly : request.mode = .metadataOnly → prepared = [] := by
      intro mode
      by_contra some_
      rw [validateCommitContract, if_neg (by simp [mode]),
        if_pos ⟨mode, fun none_ => some_ (List.length_eq_zero_iff.mp none_)⟩] at contract
      cases contract
    change validateCommits database 0 none ((view.commits ++ [_]) ++ more) = _
    rw [List.append_assoc, List.singleton_append, earlier]
    unfold StorageCommit.unreserved at keys
    simp only [StorageCommit.committed, AppendRequest.row] at counted keys
    simp only [validateCommits, StorageCommit.committed, AppendRequest.row, contract, keys,
      counted, bind, Except.bind]
    rw [if_neg (by simp), if_neg (by simp), if_neg (by simp), if_neg (by simp), if_neg ?_,
      if_neg ?_, if_neg ?_, if_neg (by simp)]
    · rfl
    · rintro ⟨mode, none_⟩
      exact bearing mode none_
    · rintro ⟨mode, moved⟩
      simp [metadataOnly mode] at moved
    · rintro ⟨mode, unsynced⟩
      have some_ := bearing mode
      simp only [decide_eq_false_iff_not, not_not] at unsynced
      exact some_ unsynced

end Ledger

theorem validateItems_ok {codec : ItemCodec} {file : Bytes} {database : Database}
    {sequence start stop : Nat} {rows : List ItemRow}
    (tiles : Tiles ItemRow.jsonlOffset ItemRow.jsonlLength start rows stop)
    (numbered : rows.map ItemRow.itemSequence = List.range' sequence rows.length)
    (within : stop ≤ database.committedOffset)
    (bodies : ∀ row ∈ rows, validateCatalogBody codec file row = .ok ())
    (bounds : ∀ row ∈ rows, ∃ commit,
      database.commits.find? (fun commit => commit.commitId = row.commitId) = some commit ∧
        commit.startOffset ≤ row.jsonlOffset ∧
        row.jsonlOffset + row.jsonlLength ≤ commit.endOffset ∧ commit.recordCount ≠ 0) :
    validateItems codec file database sequence start rows = .ok stop := by
  induction rows generalizing sequence start with
  | nil => exact congrArg Except.ok tiles
  | cons row rows ih =>
    have last := (tiles.bounds List.mem_cons_self).2
    obtain ⟨starts, nonempty, rest⟩ := tiles
    simp only [List.map_cons, List.length_cons, List.range'_succ, List.cons.injEq] at numbered
    obtain ⟨commit, found, lower, upper, some_⟩ := bounds row List.mem_cons_self
    have later := ih rest numbered.2
      (fun row member => bodies row (List.mem_cons_of_mem _ member))
      (fun row member => bounds row (List.mem_cons_of_mem _ member))
    simp only [validateItems, bodies row List.mem_cons_self, found, bind, Except.bind]
    rw [if_neg (by omega), if_neg (not_not.mpr numbered.1), if_neg (not_not.mpr starts),
      if_neg (by omega), if_neg (by omega), starts]
    exact later

theorem checkRollout_ok {codec : ItemCodec} {rollout : ThreadRollout} (faithful : codec.Faithful)
    (sound : Sound codec rollout)
    (unreserved : ∀ commit ∈ rollout.database.commits, commit.unreserved) :
    checkRollout codec rollout = .ok () := by
  have within := sound.index.within
  have ledger := sound.index.ledger
  have commits := ledger.validateCommits_ok unreserved ledger.counts []
  rw [List.append_nil] at commits
  have bodies : ∀ row ∈ rollout.database.catalog,
      validateCatalogBody codec rollout.file row = .ok () := by
    intro row member
    have parsed := sound.index.readable faithful member
    obtain ⟨item, read, same⟩ := Option.map_eq_some_iff.mp parsed
    simp [validateCatalogBody, read, same]
  have items := validateItems_ok ledger.tiles ledger.sequences (Nat.le_refl _) bodies
    ledger.commit_bounds
  rw [checkRollout, if_neg (by omega)]
  simp only [validateCommitOffsets, commits, validateCommits, items, bind, Except.bind]
  rw [if_neg (by simp), if_neg (by omega), if_neg (by simp)]

end GraphAgent.Rollout
