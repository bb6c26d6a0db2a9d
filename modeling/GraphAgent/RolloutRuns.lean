import GraphAgent.RolloutRecovery

/-!
# Runs of a rollout

Over any sequence of connections, appends, commits, failures and crashes the body
file and the index stay one: in a run whose blocks end in the ways that the
truncation guard covers, the file ends at the committed offset, the rows tile it,
and a repeated key is answered by the commit it named first.
-/

namespace GraphAgent.Rollout

open FileTiling

section Steps

variable {codec : ItemCodec} {rollout : ThreadRollout} {connection : Connection}

theorem sound_empty (codec : ItemCodec) : Sound codec {} :=
  ⟨⟨Nat.le_refl _, .empty⟩, by rintro _ ⟨⟩, fun _ _ => rfl⟩

theorem begin_sound (sound : Sound codec rollout) (current : rollout.connection = some connection) :
    Sound codec (Step.begin.applyOn codec rollout connection) ∧
      Kept rollout (Step.begin.applyOn codec rollout connection) := by
  have connected := sound.connected connection current
  unfold Step.applyOn
  cases opened : connection.transaction with
  | some view => exact ⟨sound, Kept.refl _⟩
  | none =>
    refine sound.grow (List.prefix_refl _) ?_ (by simp)
    rintro _ ⟨⟩
    refine ⟨connected.guarded, ?_, ?_, ?_⟩
    · rintro _ _ ⟨⟩
      rfl
    · rintro _ ⟨⟩
      exact Extends.refl _
    · rintro _ ⟨⟩ _
      exact sound.index

theorem initializeRollout_sound (sound : Sound codec rollout) (closed : rollout.connection = none)
    (interrupted : Bool) :
    Sound codec (initializeRollout codec interrupted rollout).2 ∧
      Kept rollout (initializeRollout codec interrupted rollout).2 := by
  unfold initializeRollout
  split
  · exact ⟨sound, Kept.refl _⟩
  · split
    · exact ⟨sound, Kept.refl _⟩
    · have agree : (rollout.file.take rollout.database.committedOffset).take
          rollout.database.committedOffset =
            rollout.file.take rollout.database.committedOffset := by
        rw [List.take_take, min_self]
      have length : (rollout.file.take rollout.database.committedOffset).length =
          rollout.database.committedOffset := by
        rw [List.length_take, min_eq_left sound.index.within]
      refine ⟨⟨sound.index.congr agree (le_of_eq length.symm), ?_, fun _ _ => length⟩,
        Extends.refl _, agree⟩
      intro connection current
      rw [closed] at current
      cases current

theorem step_sound (sound : Sound codec rollout) {step : Step} (covered : covers rollout step = true) :
    Sound codec (step.apply codec rollout) ∧ Kept rollout (step.apply codec rollout) := by
  cases current : rollout.connection with
  | none =>
    have unchanged : Sound codec rollout ∧ Kept rollout rollout := ⟨sound, Kept.refl _⟩
    cases step with
    | connect =>
      simp only [Step.apply, current]
      refine sound.grow (List.prefix_refl _) ?_ (by simp)
      rintro _ ⟨⟩
      exact .closed (by simp)
    | crash =>
      simp only [Step.apply, current]
      refine sound.grow (List.prefix_refl _) ?_ (fun _ => rfl)
      rintro _ ⟨⟩
    | initializeRollout interrupted =>
      simp only [Step.apply, current]
      exact initializeRollout_sound sound current interrupted
    | begin => simpa only [Step.apply, current] using unchanged
    | append request events => simpa only [Step.apply, current] using unchanged
    | commitConnection outcome => simpa only [Step.apply, current] using unchanged
    | commit outcome => simpa only [Step.apply, current] using unchanged
    | rollback => simpa only [Step.apply, current] using unchanged
    | exit ending => simpa only [Step.apply, current] using unchanged
  | some connection =>
    have allowed : step.covered rollout connection = true := by
      simpa [covers, current] using covered
    have applied : step.apply codec rollout = step.applyOn codec rollout connection := by
      simp only [Step.apply, current]
    rw [applied]
    cases step with
    | connect => exact ⟨sound, Kept.refl _⟩
    | initializeRollout interrupted => exact ⟨sound, Kept.refl _⟩
    | begin => exact begin_sound sound current
    | append request events => exact appendOn_sound sound current
    | commitConnection outcome => exact commitConnection_sound sound current allowed
    | commit outcome => exact commit_sound sound current allowed
    | rollback =>
      refine sound.grow (List.prefix_refl _) ?_ (by simp)
      rintro _ ⟨⟩
      exact .closed (sound.connected connection current).guarded
    | exit ending => exact exitBlock_sound sound current allowed
    | crash =>
      refine sound.grow (List.prefix_refl _) ?_ (fun _ => rfl)
      rintro _ ⟨⟩

end Steps

def runCovered (codec : ItemCodec) (rollout : ThreadRollout) : List Step → Bool
  | [] => true
  | step :: steps => covers rollout step && runCovered codec (step.apply codec rollout) steps

theorem run_sound {codec : ItemCodec} {rollout : ThreadRollout} {steps : List Step}
    (sound : Sound codec rollout) (covered : runCovered codec rollout steps = true) :
    Sound codec (run codec rollout steps) ∧ Kept rollout (run codec rollout steps) := by
  induction steps generalizing rollout with
  | nil => exact ⟨sound, Kept.refl _⟩
  | cons step steps ih =>
    obtain ⟨here, later⟩ := Bool.and_eq_true_iff.mp covered
    obtain ⟨next, kept⟩ := step_sound sound here
    obtain ⟨last, furtherKept⟩ := ih next later
    exact ⟨last, kept.trans furtherKept⟩

theorem runCovered_append {codec : ItemCodec} {rollout : ThreadRollout} {steps more : List Step} :
    runCovered codec rollout (steps ++ more) = (runCovered codec rollout steps &&
      runCovered codec (run codec rollout steps) more) := by
  induction steps generalizing rollout with
  | nil => simp [runCovered, run]
  | cons step steps ih =>
    simp only [List.cons_append, runCovered, ih, run, List.foldl_cons, Bool.and_assoc]

def Answers (rollout : ThreadRollout) (connection : Connection) (commit : StorageCommit) : Prop :=
  commit ∈ rollout.database.commits ∨
    connection.remains = false ∧ commit ∈ (connection.view rollout.database).commits

structure CommittedAsOne (codec : ItemCodec) (rollout : ThreadRollout) : Prop where
  ends : rollout.connection = none → rollout.unsettled = false →
    rollout.file.length = rollout.database.committedOffset
  within : rollout.database.committedOffset ≤ rollout.file.length
  tiles : Tiles ItemRow.jsonlOffset ItemRow.jsonlLength 0 rollout.database.catalog
    rollout.database.committedOffset
  parses : ∀ row ∈ rollout.database.catalog,
    (codec.parse (slice rollout.file row.jsonlOffset row.jsonlLength)).map
      CanonicalItemRecord.identity = some row.identity
  contiguous : rollout.database.catalog.map ItemRow.itemSequence =
    List.range' 1 rollout.database.catalog.length
  distinct : (rollout.database.catalog.map ItemRow.itemId).Nodup
  /-- `initialize` accepts the files. -/
  recovers : (∀ commit ∈ rollout.database.commits, commit.unreserved) →
    checkRollout codec rollout = .ok ()
  /-- An append that returns is found again under its key. -/
  returns : ∀ connection, rollout.connection = some connection → connection.remains = false →
    ∀ request events result, (append codec request events rollout).1 = .ok result →
      ∃ after commit, (append codec request events rollout).2.connection = some after ∧
        commit ∈ (after.view (append codec request events rollout).2.database).commits ∧
        request.names commit = true ∧ result = (commit.commitId, commit.offsetAfter) ∧
        Repeats (after.view (append codec request events rollout).2.database) request commit
  /-- A repeated key changes nothing and is answered by its commit or refused. -/
  replays : ∀ connection, rollout.connection = some connection →
    ∀ request events commit, request.names commit = true → Answers rollout connection commit →
      (append codec request events rollout).2 = rollout ∧
        (request.check = .ok () →
          Repeats (connection.view rollout.database) request commit →
          (append codec request events rollout).1 = .ok (commit.commitId, commit.offsetAfter)) ∧
        (¬ Repeats (connection.view rollout.database) request commit →
          ∃ error, (append codec request events rollout).1 = .error error)

section Answers

variable {codec : ItemCodec} {rollout : ThreadRollout} {connection : Connection}
  {request : AppendRequest} {events : AppendEvents} {commit : StorageCommit}
  {base view : Database} {body file : Bytes} {prepared : List PreparedItem}

theorem repeats_congr (ledger : Ledger codec base body) (extending : Extends base view)
    (member : commit ∈ base.commits) :
    Repeats view request commit ↔ Repeats base request commit := by
  have same := extending.identities (ledger.commitId_le commit member)
  constructor
  · rintro ⟨mode, outcome, metadata, count, items⟩
    exact ⟨mode, outcome, metadata, count, same ▸ items⟩
  · rintro ⟨mode, outcome, metadata, count, items⟩
    exact ⟨mode, outcome, metadata, count, same.trans items⟩

theorem appendOn_named (ledger : Ledger codec base body)
    (extending : Extends base (connection.view rollout.database)) (member : commit ∈ base.commits)
    (named : request.names commit = true) :
    (appendOn codec request events rollout connection).2 = rollout ∧
      (request.check = .ok () → Repeats (connection.view rollout.database) request commit →
        (appendOn codec request events rollout connection).1 =
          .ok (commit.commitId, commit.offsetAfter)) ∧
      (¬ Repeats (connection.view rollout.database) request commit →
        ∃ error, (appendOn codec request events rollout connection).1 = .error error) := by
  have answered : ∀ plan,
      planAppend codec rollout.file (connection.view rollout.database) request = plan →
      (∀ prepared, plan ≠ .ok (.write prepared)) →
      (appendOn codec request events rollout connection).2 = rollout := by
    intro plan planned noWrite
    unfold appendOn
    simp only [planned]
    split
    · rfl
    · rfl
    · exact absurd rfl (noWrite _)
  cases checked : request.check with
  | error error =>
    have planned : planAppend codec rollout.file (connection.view rollout.database) request =
        .error error := by
      simp only [planAppend, checked, bind, Except.bind]
    refine ⟨answered _ planned (by simp), by simp, fun _ => ⟨error, ?_⟩⟩
    simp only [appendOn, planned]
  | ok _ =>
    obtain ⟨replayed, refused⟩ := ledger.planAppend_named extending member
      named checked
    rw [← repeats_congr ledger extending member] at replayed refused
    by_cases again : Repeats (connection.view rollout.database) request commit
    · have planned := replayed again
      refine ⟨answered _ planned (by simp), fun _ _ => ?_, absurd again⟩
      simp only [appendOn, planned]
    · obtain ⟨error, planned⟩ := refused again
      refine ⟨answered _ planned (by simp), fun _ holds => absurd holds again, fun _ => ⟨error, ?_⟩⟩
      simp only [appendOn, planned]

theorem planAppend_replay (planned : planAppend codec file view request = .ok (.replay commit)) :
    commit ∈ view.commits ∧ request.names commit = true ∧ Repeats view request commit := by
  obtain ⟨_, -, planned⟩ := Transaction.bind_ok planned
  obtain ⟨found, loaded, planned⟩ := Transaction.bind_ok planned
  cases found with
  | none =>
    change (if view.committedOffset ≠ file.length then _ else _) = _ at planned
    split at planned
    · cases planned
    · obtain ⟨_, -, built⟩ := Transaction.map_ok planned
      cases built
  | some stored =>
    change (if readCommittedItemIdentities view stored.commitId ≠
      request.items.map CanonicalItemRecord.identity then _ else _) = _ at planned
    split at planned
    · cases planned
    rename_i items
    cases planned
    unfold loadCommittedIdempotencyCommit at loaded
    split at loaded
    · cases loaded
    rename_i first found
    obtain ⟨_, -, loaded⟩ := Transaction.bind_ok loaded
    split at loaded
    · cases loaded
    split at loaded
    · cases loaded
    rename_i fields count
    cases loaded
    push Not at fields count items
    exact ⟨List.mem_of_find?_eq_some found, List.find?_some found,
      ⟨fields.1, fields.2.1, fields.2.2, count, items⟩⟩

theorem record_repeats (ledger : Ledger codec view body)
    (same : prepared.map PreparedItem.item = request.items) :
    Repeats (view.record request prepared) request
      (request.row (view.commitSequence + 1) view.committedOffset prepared.length
        (view.committedOffset + (lines prepared).length)).committed := by
  refine ⟨rfl, rfl, rfl, ?_, ?_⟩
  · rw [← same, List.length_map]
    rfl
  · change ((view.catalog ++ prepared.map (PreparedItem.row (view.commitSequence + 1))).filter
      (fun row => row.commitId = view.commitSequence + 1)).map ItemRow.identity = _
    rw [List.filter_append, ledger.unused_commitId, filter_row, List.nil_append, ← same]
    simp only [List.map_map]
    rfl

theorem appendOn_returns (sound : Sound codec rollout)
    (current : rollout.connection = some connection) (clean : connection.remains = false)
    {result : Nat × Nat}
    (returned : (appendOn codec request events rollout connection).1 = .ok result) :
    ∃ after commit, (appendOn codec request events rollout connection).2.connection = some after ∧
      commit ∈ (after.view (appendOn codec request events rollout connection).2.database).commits ∧
      request.names commit = true ∧ result = (commit.commitId, commit.offsetAfter) ∧
      Repeats (after.view (appendOn codec request events rollout connection).2.database) request
        commit := by
  have backed := (sound.connected connection current).view_backed sound.index clean
  unfold appendOn at returned ⊢
  simp only at returned ⊢
  split
  · rename_i error planned
    simp [planned] at returned
  · rename_i commit planned
    obtain ⟨member, named, again⟩ := planAppend_replay planned
    simp only [planned, Except.ok.injEq] at returned
    exact ⟨connection, commit, current, member, named, returned.symm, again⟩
  · rename_i prepared planned
    simp only [planned] at returned
    split
    · rename_i error refused
      simp [refused] at returned
    · rename_i opened succeeded
      simp only [succeeded] at returned
      have view := openTransaction_ok succeeded
      rw [view] at planned backed returned ⊢
      obtain ⟨-, -, -, -, same⟩ := planAppend_write planned
      split
      · rename_i written staged wrote
        simp only [wrote, Except.ok.injEq] at returned
        obtain ⟨rfl, rfl, -⟩ := (writeCommit_meets backed.ledger).returns _ rfl _ _ wrote
        refine ⟨_, _, rfl, List.mem_append_right _ (List.mem_singleton_self _), ?_, returned.symm,
          record_repeats backed.ledger same⟩
        simp [AppendRequest.names, AppendRequest.row, StorageCommit.committed]
      · rename_i error staged wrote
        simp [wrote] at returned

end Answers

theorem Sound.committedAsOne {codec : ItemCodec} {rollout : ThreadRollout}
    (faithful : codec.Faithful) (sound : Sound codec rollout) : CommittedAsOne codec rollout where
  ends := sound.settled
  within := sound.index.within
  tiles := sound.index.ledger.tiles
  parses := fun _ member => sound.index.readable faithful member
  contiguous := sound.index.ledger.sequences
  distinct := sound.index.ledger.distinctIds
  recovers := checkRollout_ok faithful sound
  returns := by
    intro connection current clean request events result
    simp only [append, current]
    exact appendOn_returns sound current clean
  replays := by
    intro connection current request events commit named answers
    have connected := sound.connected connection current
    simp only [append, current]
    rcases answers with durable | ⟨clean, member⟩
    · exact appendOn_named sound.index.ledger connected.view_keeps durable named
    · exact appendOn_named (connected.view_backed sound.index clean).ledger (Extends.refl _) member
        named

theorem exit_raised_iff {codec : ItemCodec} {rollout : ThreadRollout} {connection : Connection}
    (sound : Sound codec rollout) (current : rollout.connection = some connection)
    (calm : rollout.unsettled = false) (truncates : Bool) :
    (Step.exit (.raised truncates)).covered rollout connection = true ↔
      (exitBlock (.raised truncates) rollout connection).file.length =
        rollout.database.committedOffset := by
  constructor
  · intro covered
    exact (exitBlock_sound sound current covered).1.settled rfl calm
  · intro ended
    have within := sound.index.within
    have connected := sound.connected connection current
    cases registered : connection.guard with
    | none =>
      simp only [exitBlock, registered] at ended
      simp [Step.covered, registered, ended]
    | some guard =>
      by_cases truncating : truncates && !guard.commitAttempted && connection.transaction.isSome
      · simp only [exitBlock, registered, if_pos truncating, truncateUncommittedTail] at ended
        have recent : rollout.database.committedOffset ≤ guard.originalSize := by
          split at ended
          · omega
          · rw [List.length_take] at ended
            omega
        simp only [Bool.and_eq_true, Bool.not_eq_true'] at truncating
        obtain ⟨⟨truncating, unmarked⟩, opened⟩ := truncating
        simp [Step.covered, registered, truncating, unmarked, opened, recent]
      · simp only [exitBlock, registered, if_neg truncating] at ended
        simp only [Bool.and_eq_true, Bool.not_eq_true', not_and, Bool.not_eq_true] at truncating
        simp only [Step.covered, ended, registered, decide_true, Bool.or_true, Bool.true_or,
          Bool.true_and, Option.all_some, Bool.or_eq_true, Bool.not_eq_true',
          decide_eq_true_eq]
        cases cuts : truncates with
        | false => simp
        | true =>
          cases marked : guard.commitAttempted with
          | true => simp
          | false =>
            have closed := truncating ⟨cuts, marked⟩
            simp only [Option.isSome_eq_false_iff] at closed
            simp [closed]

def asciiBytes (text : String) : Bytes :=
  text.toList.map fun char => UInt8.ofNat char.toNat

def sampleContent (payload : String) : Json :=
  .obj [("created_at", .str "2026-01-01T00:00:00+00:00"), ("extensions", .obj []),
    ("format_version", .int 2), ("payload", .str payload), ("payload_kind", .str "text"),
    ("producer_ref", .obj [("producer_id", .str "model"), ("producer_kind", .str "provider")]),
    ("record_type", .str "item"), ("semantic_kind", .str "assistant_output"),
    ("status", .str "completed")]

def firstItem : CanonicalItemRecord where
  itemSequence := 1
  itemId := "item-1"
  contentHash := "sha256:jcs:v1:f6357094feece4cc4df74c20a9c72d91819734ab3999fe827d783bb35213f4d7"
  content := sampleContent "one"

def secondItem : CanonicalItemRecord where
  itemSequence := 2
  itemId := "item-2"
  contentHash := "sha256:jcs:v1:4f8419eeeee54b7e07889be628db0fc8e18ba19db3ccf442473cbf3ee3c6cad4"
  content := sampleContent "two"

def sampleText (item : CanonicalItemRecord) (sequence payload : String) : String :=
  "\x7b\"content_hash\":\"" ++ item.contentHash ++
    "\",\"created_at\":\"2026-01-01T00:00:00+00:00\",\"extensions\":\x7b\x7d," ++
    "\"format_version\":2,\"item_id\":\"" ++ item.itemId ++ "\",\"item_sequence\":" ++ sequence ++
    ",\"payload\":\"" ++ payload ++ "\",\"payload_kind\":\"text\",\"producer_ref\":" ++
    "\x7b\"producer_id\":\"model\",\"producer_kind\":\"provider\"\x7d," ++
    "\"record_type\":\"item\",\"semantic_kind\":\"assistant_output\"," ++
    "\"status\":\"completed\"\x7d"

theorem asciiBytes_foldl (first : String) (pieces : List String) :
    asciiBytes (pieces.foldl (· ++ ·) first) =
      pieces.foldl (fun bytes piece => bytes ++ asciiBytes piece) (asciiBytes first) := by
  induction pieces generalizing first with
  | nil => rfl
  | cons piece pieces ih =>
    have joined : asciiBytes (first ++ piece) = asciiBytes first ++ asciiBytes piece := by
      rw [asciiBytes, String.toList_append, List.map_append]
      rfl
    rw [List.foldl_cons, ih, joined, List.foldl_cons]

def samplePieces (item : CanonicalItemRecord) (sequence payload : String) : List String :=
  [item.contentHash, "\",\"created_at\":\"2026-01-01T00:00:00+00:00\",\"extensions\":\x7b\x7d,",
    "\"format_version\":2,\"item_id\":\"", item.itemId, "\",\"item_sequence\":", sequence,
    ",\"payload\":\"", payload, "\",\"payload_kind\":\"text\",\"producer_ref\":",
    "\x7b\"producer_id\":\"model\",\"producer_kind\":\"provider\"\x7d,",
    "\"record_type\":\"item\",\"semantic_kind\":\"assistant_output\",",
    "\"status\":\"completed\"\x7d"]

theorem asciiBytes_sampleText (item : CanonicalItemRecord) (sequence payload : String) :
    asciiBytes (sampleText item sequence payload) =
      (samplePieces item sequence payload).foldl (fun bytes piece => bytes ++ asciiBytes piece)
        (asciiBytes "\x7b\"content_hash\":\"") :=
  asciiBytes_foldl "\x7b\"content_hash\":\"" (samplePieces item sequence payload)

def firstBytes : Bytes :=
  asciiBytes (sampleText firstItem "1" "one")

def secondBytes : Bytes :=
  asciiBytes (sampleText secondItem "2" "two")

def sampleCodec : ItemCodec where
  validate item :=
    if item.identity = firstItem.identity ∨ item.identity = secondItem.identity then .ok ()
    else .error (.itemSchema "content_hash 与 payload 不一致")
  encode item :=
    .ok (if item.identity = firstItem.identity then firstBytes else secondBytes)
  parse raw :=
    if raw = canonicalJsonLine firstBytes then some firstItem
    else if raw = canonicalJsonLine secondBytes then some secondItem
    else none

theorem sampleCodec_faithful : sampleCodec.Faithful := by
  have different : canonicalJsonLine secondBytes ≠ canonicalJsonLine firstBytes := by
    rw [firstBytes, secondBytes, asciiBytes_sampleText, asciiBytes_sampleText]
    decide +kernel
  intro item encoded validated encodes
  simp only [sampleCodec, Except.ok.injEq] at encodes
  by_cases first : item.identity = firstItem.identity
  · rw [if_pos first] at encodes
    subst encodes
    simp [sampleCodec, first]
  · rw [if_neg first] at encodes
    subst encodes
    have second : item.identity = secondItem.identity := by
      by_contra other
      simp [sampleCodec, first, other] at validated
    simp [sampleCodec, different, second]

def sampleRequest (item : CanonicalItemRecord) (beginTransaction : Bool) : AppendRequest where
  items := [item]
  commitKind := .itemConvergence
  subjectId := some item.itemId
  idempotencyKey := some ("item:" ++ item.itemId)
  beginTransaction

end GraphAgent.Rollout
