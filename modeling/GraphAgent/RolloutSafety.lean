import GraphAgent.RolloutWrites

/-!
# What every step of a rollout keeps

The index is backed by the bytes before its committed offset, and so is the open
transaction unless it holds what a failed append left.  A guard never lies beyond
the committed offset.  A step keeps this as long as a block does not end, or
commit, in one of the ways that the guard does not cover.
-/

namespace GraphAgent.Rollout

open Durable FileTiling

def Step.covered (rollout : ThreadRollout) (connection : Connection) : Step → Bool
  | .commitConnection outcome | .commit outcome => !outcome.durable || !connection.remains
  | .exit (.returned outcome) =>
    !outcome.durable || !connection.remains && (rollout.unsettled ||
      (connection.view rollout.database).committedOffset = rollout.file.length)
  | .exit (.raised truncates) =>
    (rollout.unsettled || rollout.file.length = rollout.database.committedOffset ||
      truncates && connection.transaction.isSome &&
        connection.guard.any (fun guard => !guard.commitAttempted)) &&
    (!truncates || connection.transaction.isNone || connection.guard.all (fun guard =>
      guard.commitAttempted || rollout.database.committedOffset ≤ guard.originalSize))
  | _ => true

def covers (rollout : ThreadRollout) (step : Step) : Bool :=
  rollout.connection.all fun connection => step.covered rollout connection

structure Backed (codec : ItemCodec) (file : Bytes) (database : Database) : Prop where
  within : database.committedOffset ≤ file.length
  ledger : Ledger codec database (file.take database.committedOffset)

structure ConnectionSound (codec : ItemCodec) (file : Bytes) (database : Database)
    (connection : Connection) : Prop where
  guarded : ∀ guard, connection.guard = some guard →
    guard.originalSize ≤ database.committedOffset
  unguarded : connection.guard = none → ∀ view, connection.transaction = some view →
    view = database
  keeps : ∀ view, connection.transaction = some view → Extends database view
  backed : ∀ view, connection.transaction = some view → connection.remains = false →
    Backed codec file view

structure Sound (codec : ItemCodec) (rollout : ThreadRollout) : Prop where
  index : Backed codec rollout.file rollout.database
  connected : ∀ connection, rollout.connection = some connection →
    ConnectionSound codec rollout.file rollout.database connection
  settled : rollout.connection = none → rollout.unsettled = false →
    rollout.file.length = rollout.database.committedOffset

structure Kept (before after : ThreadRollout) : Prop where
  rows : Extends before.database after.database
  bytes : after.file.take before.database.committedOffset =
    before.file.take before.database.committedOffset

namespace Kept

variable {first second third : ThreadRollout}

theorem refl (rollout : ThreadRollout) : Kept rollout rollout :=
  ⟨Extends.refl _, rfl⟩

theorem trans (earlier : Kept first second) (later : Kept second third) : Kept first third := by
  refine ⟨earlier.rows.trans later.rows, ?_⟩
  have cut : ∀ file : Bytes, file.take first.database.committedOffset =
      (file.take second.database.committedOffset).take first.database.committedOffset := by
    intro file
    rw [List.take_take, min_eq_left earlier.rows.offset]
  rw [cut third.file, later.bytes, ← cut, earlier.bytes]

end Kept

namespace Backed

variable {codec : ItemCodec} {file other : Bytes} {database view : Database}
  {request : AppendRequest} {prepared : List PreparedItem}

theorem congr (backed : Backed codec file database)
    (agree : other.take database.committedOffset = file.take database.committedOffset)
    (within : database.committedOffset ≤ other.length) : Backed codec other database :=
  ⟨within, agree ▸ backed.ledger⟩

theorem take_of_prefix (backed : Backed codec file database) (grown : file <+: other) :
    other.take database.committedOffset = file.take database.committedOffset := by
  obtain ⟨more, rfl⟩ := grown
  exact List.take_append_of_le_length backed.within

theorem of_prefix (backed : Backed codec file database) (grown : file <+: other) :
    Backed codec other database :=
  backed.congr (backed.take_of_prefix grown) (backed.within.trans grown.length_le)

theorem readable (backed : Backed codec file database) (faithful : codec.Faithful) {row : ItemRow}
    (member : row ∈ database.catalog) :
    (codec.parse (slice file row.jsonlOffset row.jsonlLength)).map CanonicalItemRecord.identity =
      some row.identity := by
  have inside := (backed.ledger.tiles.bounds member).2
  have located : slice file row.jsonlOffset row.jsonlLength =
      slice (file.take database.committedOffset) row.jsonlOffset row.jsonlLength :=
    slice_congr (by rw [List.take_take, min_self]) inside
  rw [located]
  exact backed.ledger.readable faithful row member

theorem record (backed : Backed codec file view) (aligned : view.committedOffset = file.length)
    (accepts : Accepts codec view request prepared) :
    Backed codec (file ++ lines prepared) (view.record request prepared) := by
  have ledger := backed.ledger.record accepts
  rw [aligned, List.take_length] at ledger
  have reached : (view.record request prepared).committedOffset =
      (file ++ lines prepared).length := by
    simp [Database.record, aligned]
  refine ⟨le_of_eq reached, ?_⟩
  rw [reached, List.take_length]
  exact ledger

end Backed

namespace ConnectionSound

variable {codec : ItemCodec} {file other : Bytes} {database : Database} {connection : Connection}

theorem closed {guard : Option JsonlTransactionGuard}
    (guarded : ∀ entry, guard = some entry → entry.originalSize ≤ database.committedOffset) :
    ConnectionSound codec file database { guard } where
  guarded := guarded
  unguarded := by simp
  keeps := by simp
  backed := by simp

theorem view_keeps (sound : ConnectionSound codec file database connection) :
    Extends database (connection.view database) := by
  cases opened : connection.transaction with
  | none => simpa [Connection.view, opened] using Extends.refl database
  | some view => simpa [Connection.view, opened] using sound.keeps view opened

theorem view_backed (sound : ConnectionSound codec file database connection)
    (index : Backed codec file database) (clean : connection.remains = false) :
    Backed codec file (connection.view database) := by
  cases opened : connection.transaction with
  | none => simpa [Connection.view, opened] using index
  | some view => simpa [Connection.view, opened] using sound.backed view opened clean

theorem register (sound : ConnectionSound codec file database connection)
    (aligned : (connection.view database).committedOffset = file.length) :
    (registerJsonlGuard connection.guard file.length).originalSize ≤ database.committedOffset := by
  cases registered : connection.guard with
  | none =>
    have current : connection.view database = database := by
      cases opened : connection.transaction with
      | none => simp [Connection.view, opened]
      | some view => simpa [Connection.view, opened] using sound.unguarded registered view opened
    rw [current] at aligned
    exact le_of_eq aligned.symm
  | some guard => exact (min_le_left _ _).trans (sound.guarded guard registered)

end ConnectionSound

section Append

variable {codec : ItemCodec} {request : AppendRequest} {events : AppendEvents}
  {rollout : ThreadRollout} {connection : Connection} {view : Database}

theorem openTransaction_ok {database : Database}
    (opened : openTransaction request events database connection = .ok view) :
    connection.view database = view := by
  unfold openTransaction at opened
  split at opened
  · cases opened
  · rename_i unopened
    split at opened
    · cases opened
    · cases opened
      simp [Connection.view, unopened]
  · cases opened
  · rename_i lent
    cases opened
    simp [Connection.view, lent]

theorem Sound.grow (sound : Sound codec rollout) {file : Bytes} {next : Option Connection}
    {unsettled : Bool} (grown : rollout.file <+: file)
    (connected : ∀ connection, next = some connection →
      ConnectionSound codec file rollout.database connection)
    (settled : next = none → unsettled = true) :
    Sound codec ⟨file, rollout.database, next, unsettled⟩ ∧
      Kept rollout ⟨file, rollout.database, next, unsettled⟩ := by
  refine ⟨⟨sound.index.of_prefix grown, connected, ?_⟩, Extends.refl _,
    sound.index.take_of_prefix grown⟩
  intro ended calm
  simp only at ended calm
  rw [settled ended] at calm
  cases calm

theorem abandonAppend_sound (sound : Sound codec rollout)
    (connected : ConnectionSound codec rollout.file rollout.database connection)
    {staged : Staged} {guard : JsonlTransactionGuard}
    (opened : connection.view rollout.database = view)
    (grown : Grown rollout.database rollout.file staged)
    (guarded : guard.originalSize ≤ rollout.database.committedOffset) :
    let abandoned := abandonAppend request events connection ⟨rollout.file, view⟩ staged guard rollout
    Sound codec abandoned ∧ Kept rollout abandoned := by
  have guardedEntry : ∀ entry, some guard = some entry →
      entry.originalSize ≤ rollout.database.committedOffset := by
    rintro entry ⟨⟩
    exact guarded
  have open_ : ConnectionSound codec staged.file rollout.database
      { transaction := some staged.view
        guard := some guard
        remains := connection.remains || decide (staged ≠ ⟨rollout.file, view⟩) } := by
    refine ⟨guardedEntry, by simp, ?_, ?_⟩
    · rintro _ ⟨⟩
      exact grown.rows
    · rintro _ ⟨⟩ clean
      simp only [Bool.or_eq_false_iff, decide_eq_false_iff_not, not_not] at clean
      obtain ⟨untouched, same⟩ := clean
      have backed := connected.view_backed sound.index untouched
      rw [opened] at backed
      rw [same]
      exact backed
  have kept : ConnectionSound codec staged.file rollout.database
      (if events.lost then { guard := some guard } else
        { transaction := some staged.view
          guard := some guard
          remains := connection.remains || decide (staged ≠ ⟨rollout.file, view⟩) }) := by
    split
    · exact .closed guardedEntry
    · exact open_
  unfold abandonAppend
  simp only
  split
  · exact sound.grow grown.bytes (by simp) (fun _ => rfl)
  · split
    · split
      · refine sound.grow grown.bytes ?_ (by simp)
        rintro _ ⟨⟩
        exact kept
      · refine sound.grow grown.bytes ?_ (by simp)
        rintro _ ⟨⟩
        exact .closed guardedEntry
      · rw [← List.prefix_iff_eq_take.mp grown.bytes]
        refine sound.grow (List.prefix_refl _) ?_ (by simp)
        rintro _ ⟨⟩
        exact .closed guardedEntry
    · refine sound.grow grown.bytes ?_ (by simp)
      rintro _ ⟨⟩
      exact kept

theorem appendOn_sound (sound : Sound codec rollout)
    (current : rollout.connection = some connection) :
    Sound codec (appendOn codec request events rollout connection).2 ∧
      Kept rollout (appendOn codec request events rollout connection).2 := by
  have connected := sound.connected connection current
  unfold appendOn
  simp only
  split
  · exact ⟨sound, Kept.refl _⟩
  · exact ⟨sound, Kept.refl _⟩
  rename_i prepared planned
  split
  · exact ⟨sound, Kept.refl _⟩
  rename_i view opened
  have same := openTransaction_ok opened
  rw [same] at planned
  obtain ⟨aligned, newKey, contract, continues, -⟩ := planAppend_write planned
  have bounded := sound.index.ledger.commitId_le
  have rows := connected.view_keeps
  have guarded := connected.register (same ▸ aligned)
  rw [same] at rows ⊢
  have keeps : Keeps (Grown rollout.database rollout.file)
      (writeCommit events.fault request view prepared) :=
    writeCommit_keeps bounded rows.offset
  have start : Grown rollout.database rollout.file ⟨rollout.file, view⟩ :=
    ⟨List.prefix_refl _, rows⟩
  split
  · rename_i result staged returned
    have grown := keeps.returns _ start result staged returned
    refine sound.grow grown.bytes ?_ (by simp)
    rintro _ ⟨⟩
    refine ⟨?_, by simp, ?_, ?_⟩
    · rintro _ ⟨⟩
      exact guarded
    · rintro _ ⟨⟩
      exact grown.rows
    · rintro _ ⟨⟩ clean
      have backed := connected.view_backed sound.index clean
      rw [same] at backed
      obtain ⟨rfl, -, newIds, distinctIds⟩ :=
        (writeCommit_meets backed.ledger).returns _ rfl result staged returned
      exact backed.record aligned ⟨contract, newKey, continues, newIds, distinctIds⟩
  · rename_i error staged returned
    exact abandonAppend_sound sound connected same
      (keeps.raises _ start error staged returned) guarded

end Append

section Steps

variable {codec : ItemCodec} {rollout : ThreadRollout} {connection : Connection}

theorem Sound.publish (sound : Sound codec rollout) (current : rollout.connection = some connection)
    (clean : connection.remains = false) {next : Option Connection}
    (connected : ∀ connection, next = some connection → connection.transaction = none ∧
      ∀ guard, connection.guard = some guard → guard.originalSize ≤ rollout.database.committedOffset)
    (settled : next = none → rollout.unsettled = false →
      rollout.file.length = (connection.view rollout.database).committedOffset) :
    let published : ThreadRollout :=
      ⟨rollout.file, connection.view rollout.database, next, rollout.unsettled⟩
    Sound codec published ∧ Kept rollout published := by
  have before := sound.connected connection current
  have rows := before.view_keeps
  refine ⟨⟨before.view_backed sound.index clean, ?_, settled⟩, rows, rfl⟩
  intro connection open_
  obtain ⟨closed, guarded⟩ := connected connection open_
  refine ⟨fun guard entry => (guarded guard entry).trans rows.offset, ?_, ?_, ?_⟩
  · simp [closed]
  · simp [closed]
  · simp [closed]

theorem markJsonlCommitAttempted_guarded {guard entry : JsonlTransactionGuard}
    (marked : markJsonlCommitAttempted (some guard) = some entry) :
    entry.originalSize = guard.originalSize := by
  cases marked
  rfl

theorem commit_sound (sound : Sound codec rollout) (current : rollout.connection = some connection)
    {outcome : CommitOutcome} (covered : !outcome.durable || !connection.remains) :
    Sound codec (commit outcome rollout connection) ∧
      Kept rollout (commit outcome rollout connection) := by
  have guarded := (sound.connected connection current).guarded
  have publishes (clean : connection.remains = false) :
      Sound codec (commit .done rollout connection) ∧
        Kept rollout (commit .done rollout connection) := by
    refine sound.publish current clean ?_ ?_
    · rintro _ ⟨⟩
      exact ⟨rfl, guarded⟩
    · rintro ⟨⟩
  cases outcome with
  | done => exact publishes (by simpa [CommitOutcome.durable] using covered)
  | raisedAfter => exact publishes (by simpa [CommitOutcome.durable] using covered)
  | refused => exact ⟨sound, Kept.refl _⟩
  | rolledBack =>
    refine sound.grow (List.prefix_refl _) ?_ (by simp)
    rintro _ ⟨⟩
    exact .closed guarded

theorem commitConnection_sound (sound : Sound codec rollout)
    (current : rollout.connection = some connection) {outcome : CommitOutcome}
    (covered : !outcome.durable || !connection.remains) :
    Sound codec (commitConnection outcome rollout connection) ∧
      Kept rollout (commitConnection outcome rollout connection) := by
  have guarded := (sound.connected connection current).guarded
  cases outcome with
  | done =>
    refine sound.publish current (by simpa [CommitOutcome.durable] using covered) ?_ ?_
    swap
    · rintro ⟨⟩
    rintro _ ⟨⟩
    refine ⟨rfl, ?_⟩
    intro entry marked
    cases registered : connection.guard with
    | none => simp [registered, markJsonlCommitAttempted] at marked
    | some guard =>
      simp only [registered] at marked
      rw [markJsonlCommitAttempted_guarded marked]
      exact guarded guard registered
  | raisedAfter => exact commit_sound sound current covered
  | refused => exact commit_sound sound current covered
  | rolledBack => exact commit_sound sound current covered

theorem truncateUncommittedTail_guarded {file : Bytes} {database : Database}
    {guard : JsonlTransactionGuard} (guarded : guard.originalSize = database.committedOffset) :
    truncateUncommittedTail guard file = file.take database.committedOffset := by
  unfold truncateUncommittedTail
  split
  · exact (List.take_of_length_le (by omega)).symm
  · rw [guarded]

theorem exitBlock_sound (sound : Sound codec rollout)
    (current : rollout.connection = some connection) {ending : BlockEnd}
    (covered : (Step.exit ending).covered rollout connection = true) :
    Sound codec (exitBlock ending rollout connection) ∧
      Kept rollout (exitBlock ending rollout connection) := by
  have connected := sound.connected connection current
  cases ending with
  | returned outcome =>
    cases durable : outcome.durable with
    | false =>
      have ended : exitBlock (.returned outcome) rollout connection =
          { rollout with connection := none, unsettled := true } := by
        simp [exitBlock, durable]
      rw [ended]
      refine sound.grow (List.prefix_refl _) ?_ (fun _ => rfl)
      rintro _ ⟨⟩
    | true =>
      simp only [Step.covered, durable, Bool.not_true, Bool.false_or, Bool.and_eq_true,
        Bool.not_eq_true', Bool.or_eq_true, decide_eq_true_eq] at covered
      obtain ⟨clean, reached⟩ := covered
      have ended : exitBlock (.returned outcome) rollout connection = { rollout with
          database := connection.view rollout.database, connection := none } := by
        simp [exitBlock, durable]
      rw [ended]
      refine sound.publish current clean ?_ ?_
      · rintro _ ⟨⟩
      intro _ calm
      rcases reached with unsettled | reached
      · rw [unsettled] at calm
        cases calm
      · exact reached.symm
  | raised truncates =>
    simp only [Step.covered, Bool.and_eq_true, Bool.or_eq_true, decide_eq_true_eq,
      Bool.not_eq_true'] at covered
    obtain ⟨reached, recent⟩ := covered
    -- Either the guard cuts at the committed offset or nothing is cut.
    have cut : (exitBlock (.raised truncates) rollout connection).file =
          rollout.file.take rollout.database.committedOffset ∨
        ((exitBlock (.raised truncates) rollout connection).file = rollout.file ∧
          (rollout.unsettled = true ∨
            rollout.file.length = rollout.database.committedOffset)) := by
      cases registered : connection.guard with
      | none =>
        refine .inr ⟨by simp [exitBlock, registered], ?_⟩
        simpa [registered] using reached
      | some guard =>
        by_cases truncating : truncates && !guard.commitAttempted &&
            connection.transaction.isSome
        · have exact_ : guard.originalSize = rollout.database.committedOffset := by
            have lower := connected.guarded guard registered
            simp only [Bool.and_eq_true, Bool.not_eq_true'] at truncating
            obtain ⟨⟨truncates_, unmarked⟩, opened⟩ := truncating
            rcases recent with (idle | closed) | upper
            · simp [truncates_] at idle
            · simp [Option.isNone_iff_eq_none.mp closed] at opened
            · simp only [registered, Option.all_some, unmarked, Bool.false_or,
                decide_eq_true_eq] at upper
              omega
          refine .inl ?_
          simp only [exitBlock, registered, if_pos truncating]
          exact truncateUncommittedTail_guarded exact_
        · refine .inr ⟨by simp only [exitBlock, registered, if_neg truncating], ?_⟩
          rcases reached with known | ⟨⟨truncates_, opened⟩, unmarked⟩
          · exact known
          · refine absurd ?_ truncating
            simpa [registered, truncates_, opened] using unmarked
    have within := sound.index.within
    rcases cut with cut | ⟨kept, reached⟩
    · have agree : (exitBlock (.raised truncates) rollout connection).file.take
          rollout.database.committedOffset =
            rollout.file.take rollout.database.committedOffset := by
        rw [cut, List.take_take, min_self]
      have length : (exitBlock (.raised truncates) rollout connection).file.length =
          rollout.database.committedOffset := by
        rw [cut, List.length_take, min_eq_left within]
      exact ⟨⟨sound.index.congr agree (le_of_eq length.symm), by rintro _ ⟨⟩,
        fun _ _ => length⟩, Extends.refl _, agree⟩
    · refine ⟨⟨?_, by rintro _ ⟨⟩, ?_⟩, Extends.refl _, by rw [kept]⟩
      · rw [kept]
        exact sound.index
      · intro _ calm
        rw [kept]
        rcases reached with unsettled | reached
        · exact absurd (unsettled.symm.trans calm) Bool.true_eq_false.mp
        · exact reached

end Steps

end GraphAgent.Rollout
