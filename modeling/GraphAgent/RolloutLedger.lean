import GraphAgent.RolloutCommits
import GraphAgent.Transactions

/-!
# The ledger of a rollout

An index is sound for the bytes before its committed offset when both were built
by accepted commits alone: each adds its lines to the bytes and its rows to the
tables.  What the index promises about the file follows by induction on the
commits.
-/

namespace GraphAgent.Rollout

open FileTiling

def PreparedFrom (codec : ItemCodec) (sequence offset : Nat) : List PreparedItem → Prop
  | [] => True
  | prepared :: rest =>
    codec.validate prepared.item = .ok () ∧ prepared.item.itemSequence = sequence ∧
      (∃ encoded, codec.encode prepared.item = .ok encoded ∧
        prepared.raw = canonicalJsonLine encoded) ∧
      prepared.offset = offset ∧
      PreparedFrom codec (sequence + 1) (offset + prepared.raw.length) rest

@[simp]
theorem lines_nil : lines [] = [] :=
  rfl

@[simp]
theorem lines_cons (prepared : PreparedItem) (rest : List PreparedItem) :
    lines (prepared :: rest) = prepared.raw ++ lines rest := by
  simp [lines]

namespace PreparedFrom

variable {codec : ItemCodec} {sequence offset : Nat} {items : List PreparedItem}
  {prepared : PreparedItem}

theorem valid (continues : PreparedFrom codec sequence offset items) (member : prepared ∈ items) :
    codec.validate prepared.item = .ok () ∧
      ∃ encoded, codec.encode prepared.item = .ok encoded ∧
        prepared.raw = canonicalJsonLine encoded := by
  induction items generalizing sequence offset with
  | nil => simp at member
  | cons first rest ih =>
    obtain ⟨valid, -, encoded, -, others⟩ := continues
    rcases List.mem_cons.mp member with rfl | member
    · exact ⟨valid, encoded⟩
    · exact ih others member

theorem sequences (continues : PreparedFrom codec sequence offset items) (commitId : Nat) :
    (items.map (PreparedItem.row commitId)).map ItemRow.itemSequence =
      List.range' sequence items.length := by
  induction items generalizing sequence offset with
  | nil => rfl
  | cons first rest ih =>
    obtain ⟨-, numbered, -, -, others⟩ := continues
    have later := ih others
    simp only [List.map_cons, List.length_cons, List.range'_succ]
    rw [later]
    exact congrArg (· :: _) numbered

theorem tiles (continues : PreparedFrom codec sequence offset items) (commitId : Nat) :
    Tiles ItemRow.jsonlOffset ItemRow.jsonlLength offset (items.map (PreparedItem.row commitId))
      (offset + (lines items).length) := by
  induction items generalizing sequence offset with
  | nil => rfl
  | cons first rest ih =>
    obtain ⟨-, -, ⟨encoded, -, raw⟩, located, others⟩ := continues
    refine ⟨located, ?_, ?_⟩
    · change 0 < first.raw.length
      simp [raw, canonicalJsonLine]
    · have later := ih others
      simpa [PreparedItem.row, Nat.add_assoc] using later

theorem slice_raw {body : Bytes} (continues : PreparedFrom codec sequence body.length items)
    (member : prepared ∈ items) :
    slice (body ++ lines items) prepared.offset prepared.raw.length = prepared.raw := by
  induction items generalizing sequence body with
  | nil => simp at member
  | cons first rest ih =>
    obtain ⟨-, -, -, located, others⟩ := continues
    rcases List.mem_cons.mp member with rfl | member
    · rw [located, lines_cons, ← List.append_assoc]
      exact slice_append body prepared.raw (lines rest)
    · rw [← List.length_append] at others
      simpa using ih others member

end PreparedFrom

theorem prepareItems_ok {codec : ItemCodec} {view : Database} {sequence offset : Nat}
    {items : List CanonicalItemRecord} {prepared : List PreparedItem}
    (succeeded : prepareItems codec view sequence offset items = .ok prepared) :
    PreparedFrom codec sequence offset prepared ∧ prepared.map PreparedItem.item = items := by
  induction items generalizing sequence offset prepared with
  | nil =>
    cases succeeded
    exact ⟨trivial, rfl⟩
  | cons item items ih =>
    obtain ⟨_, validated, succeeded⟩ := Transaction.bind_ok succeeded
    split at succeeded
    · cases succeeded
    rename_i numbered
    split at succeeded
    · split at succeeded <;> cases succeeded
    · obtain ⟨encoded, encodes, succeeded⟩ := Transaction.bind_ok succeeded
      obtain ⟨rest, loop, succeeded⟩ := Transaction.bind_ok succeeded
      cases succeeded
      obtain ⟨others, same⟩ := ih loop
      exact ⟨⟨validated, not_not.mp numbered, ⟨encoded, encodes, rfl⟩, rfl, others⟩, by simp [same]⟩

def Database.record (view : Database) (request : AppendRequest) (prepared : List PreparedItem) :
    Database where
  commits := view.commits ++ [(request.row (view.commitSequence + 1) view.committedOffset
    prepared.length (view.committedOffset + (lines prepared).length)).committed]
  catalog := view.catalog ++ prepared.map (PreparedItem.row (view.commitSequence + 1))
  commitSequence := view.commitSequence + 1
  lastCommitId := some (view.commitSequence + 1)
  committedOffset := view.committedOffset + (lines prepared).length
  lastItemSequence := view.lastItemSequence + prepared.length

structure Accepts (codec : ItemCodec) (view : Database) (request : AppendRequest)
    (prepared : List PreparedItem) : Prop where
  contract : validateCommitContract request.commitKind request.mode prepared.length
    request.outcome = .ok ()
  newKey : ∀ commit ∈ view.commits, request.names commit = false
  continues : PreparedFrom codec (view.lastItemSequence + 1) view.committedOffset prepared
  newIds : ∀ item ∈ prepared, ∀ row ∈ view.catalog, row.itemId ≠ item.item.itemId
  distinctIds : (prepared.map fun item => item.item.itemId).Nodup

inductive Ledger (codec : ItemCodec) : Database → Bytes → Prop where
  | empty : Ledger codec {} []
  | record {view : Database} {body : Bytes} {request : AppendRequest}
      {prepared : List PreparedItem} (ledger : Ledger codec view body)
      (accepts : Accepts codec view request prepared) :
      Ledger codec (view.record request prepared) (body ++ lines prepared)

namespace Ledger

variable {codec : ItemCodec} {view : Database} {body : Bytes}

theorem committedOffset (ledger : Ledger codec view body) : view.committedOffset = body.length := by
  induction ledger with
  | empty => rfl
  | record _ _ ih => simp [Database.record, ih]

theorem lastItemSequence (ledger : Ledger codec view body) :
    view.lastItemSequence = view.catalog.length := by
  induction ledger with
  | empty => rfl
  | record _ _ ih => simp [Database.record, ih]

theorem sequences (ledger : Ledger codec view body) :
    view.catalog.map ItemRow.itemSequence = List.range' 1 view.catalog.length := by
  induction ledger with
  | empty => rfl
  | @record view body request prepared ledger accepts ih =>
    have further := accepts.continues.sequences (view.commitSequence + 1)
    rw [ledger.lastItemSequence, Nat.add_comm view.catalog.length] at further
    simp only [Database.record, List.map_append, ih, further, List.length_append,
      List.length_map, List.range'_append_1]

theorem tiles (ledger : Ledger codec view body) :
    Tiles ItemRow.jsonlOffset ItemRow.jsonlLength 0 view.catalog view.committedOffset := by
  induction ledger with
  | empty => rfl
  | record _ accepts ih => exact ih.append (accepts.continues.tiles _)

theorem distinctIds (ledger : Ledger codec view body) :
    (view.catalog.map ItemRow.itemId).Nodup := by
  induction ledger with
  | empty => exact List.nodup_nil
  | @record view body request prepared _ accepts ih =>
    have added : (prepared.map (PreparedItem.row (view.commitSequence + 1))).map ItemRow.itemId =
        prepared.map fun item => item.item.itemId := by
      simp [PreparedItem.row, Function.comp_def]
    simp only [Database.record, List.map_append, added]
    refine List.nodup_append.mpr ⟨ih, accepts.distinctIds, ?_⟩
    intro left old right new same
    obtain ⟨row, rowMember, rfl⟩ := List.mem_map.mp old
    obtain ⟨item, itemMember, rfl⟩ := List.mem_map.mp new
    exact accepts.newIds item itemMember row rowMember same

theorem readable (faithful : codec.Faithful) (ledger : Ledger codec view body) :
    ∀ row ∈ view.catalog,
      (codec.parse (slice body row.jsonlOffset row.jsonlLength)).map
        CanonicalItemRecord.identity = some row.identity := by
  induction ledger with
  | empty => simp
  | @record view body request prepared ledger accepts ih =>
    intro row member
    have ends := ledger.committedOffset
    rcases List.mem_append.mp member with old | new
    · have within := (ledger.tiles.bounds old).2
      have kept : slice (body ++ lines prepared) row.jsonlOffset row.jsonlLength =
          slice body row.jsonlOffset row.jsonlLength :=
        slice_congr (by simp [ends]) within
      rw [kept]
      exact ih row old
    · obtain ⟨item, itemMember, rfl⟩ := List.mem_map.mp new
      have continues := accepts.continues
      obtain ⟨validated, encoded, encodes, raw⟩ := continues.valid itemMember
      rw [ends] at continues
      change (codec.parse (slice _ item.offset item.raw.length)).map _ = some item.item.identity
      rw [continues.slice_raw itemMember, raw]
      exact faithful item.item encoded validated encodes

theorem commitIds (ledger : Ledger codec view body) :
    view.commitSequence = view.commits.length ∧
      view.commits.map StorageCommit.commitId = List.range' 1 view.commits.length := by
  induction ledger with
  | empty => exact ⟨rfl, rfl⟩
  | @record view body request prepared _ _ ih =>
    obtain ⟨counted, numbered⟩ := ih
    constructor
    · simp [Database.record, counted]
    · simp [Database.record, numbered, counted, AppendRequest.row, StorageCommit.committed,
        List.range'_concat, Nat.add_comm]

theorem commitId_le (ledger : Ledger codec view body) :
    ∀ commit ∈ view.commits, commit.commitId ≤ view.commitSequence := by
  intro commit member
  obtain ⟨counted, numbered⟩ := ledger.commitIds
  have listed : commit.commitId ∈ view.commits.map StorageCommit.commitId :=
    List.mem_map_of_mem member
  rw [numbered, List.mem_range'_1] at listed
  omega

theorem rowCommitId_le (ledger : Ledger codec view body) :
    ∀ row ∈ view.catalog, row.commitId ≤ view.commitSequence := by
  induction ledger with
  | empty => simp
  | @record view body request prepared _ _ ih =>
    intro row member
    rcases List.mem_append.mp member with old | new
    · exact Nat.le_succ_of_le (ih row old)
    · obtain ⟨item, -, rfl⟩ := List.mem_map.mp new
      exact Nat.le_refl _

theorem unused_commitId (ledger : Ledger codec view body) :
    view.catalog.filter (fun row => row.commitId = view.commitSequence + 1) = [] := by
  refine List.filter_eq_nil_iff.mpr ?_
  intro row member same
  have bound := ledger.rowCommitId_le row member
  have equal : row.commitId = view.commitSequence + 1 := of_decide_eq_true same
  omega

end Ledger

theorem filter_row (prepared : List PreparedItem) (commitId : Nat) :
    (prepared.map (PreparedItem.row commitId)).filter (fun row => row.commitId = commitId) =
      prepared.map (PreparedItem.row commitId) := by
  refine List.filter_eq_self.mpr ?_
  intro row member
  obtain ⟨item, -, rfl⟩ := List.mem_map.mp member
  exact decide_eq_true rfl

end GraphAgent.Rollout
