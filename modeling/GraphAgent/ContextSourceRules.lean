import GraphAgent.ContextSourceControl
import GraphAgent.Transactions

/-!
# What a write of control states does

The row writer changes the state of one source, and only to a state with a
greater revision; seals and restores change several states in one transaction.
The rules speak of the stored state of each key.
-/

namespace GraphAgent.ContextSources

open KeyedRows Transaction

def storedRevision (rows : List ControlRow) (key : ContextSourceOwnerKey × String) : Nat :=
  ((storedState rows key).map ContextSourceControlState.stateRevision).getD 0

def visibleRevision (rows : List ControlRow) (key : ContextSourceOwnerKey × String) :
    Option String :=
  (storedState rows key).bind ContextSourceControlState.latestVisibleCommittedRevision

def IsTracked (rows : List ControlRow) (key : ContextSourceOwnerKey × String) : Prop :=
  ∃ state, storedState rows key = some state ∧ state.trackingStatus = .tracked

structure SameTrackedSkill (first second : ContextSourceControlState) : Prop where
  owner : first.owner = second.owner
  name : normalizeSkillName first.name = normalizeSkillName second.name
  first : first.tracksSkill = true
  second : second.tracksSkill = true

structure TrackedOnce (rows : List ControlRow) : Prop where
  distinct : (rows.map ControlRow.key).Nodup
  once : ∀ {one two first second}, storedState rows one = some first →
    storedState rows two = some second → SameTrackedSkill first second → one = two

def Advances (before after : Option ContextSourceControlState) : Prop :=
  after = before ∨ ∃ next, after = some next ∧
    ∀ state, before = some state → state.stateRevision < next.stateRevision

theorem Advances.refl (state : Option ContextSourceControlState) : Advances state state :=
  .inl rfl

theorem Advances.trans {first second third : Option ContextSourceControlState}
    (earlier : Advances first second) (later : Advances second third) : Advances first third := by
  rcases later with rfl | ⟨next, rfl, greater⟩
  · exact earlier
  · refine .inr ⟨next, rfl, fun state stored => ?_⟩
    rcases earlier with rfl | ⟨middle, rfl, before⟩
    · exact greater state stored
    · exact Nat.lt_trans (before state stored) (greater middle rfl)

theorem storedState_key {rows : List ControlRow} {key : ContextSourceOwnerKey × String}
    {state : ContextSourceControlState} (stored : storedState rows key = some state) :
    state.key = key := by
  obtain ⟨row, fetched, rfl⟩ := Option.map_eq_some_iff.mp stored
  have matched : ControlRow.key row = key := fetch_key fetched
  exact matched

theorem storedState_mem {rows : List ControlRow} (distinct : (rows.map ControlRow.key).Nodup)
    {row : ControlRow} (member : row ∈ rows) :
    storedState rows row.state.key = some row.state := by
  rw [storedState, show row.state.key = ControlRow.key row from rfl,
    fetch_of_mem distinct member]
  rfl

theorem TrackedOnce.rows {rows : List ControlRow} (tracked : TrackedOnce rows)
    {first second : ControlRow} (firstListed : first ∈ rows) (secondListed : second ∈ rows)
    (same : SameTrackedSkill first.state second.state) : first = second :=
  eq_of_key_eq tracked.distinct firstListed secondListed
    (tracked.once (storedState_mem tracked.distinct firstListed)
      (storedState_mem tracked.distinct secondListed) same)

theorem TrackedOnce.empty : TrackedOnce [] where
  distinct := .nil
  once stored := by cases stored

def WritesOnly (rows next : List ControlRow) (state : ContextSourceControlState) : Prop :=
  ∀ key, storedState next key = if key = state.key then some state else storedState rows key

/-- What a successful write found and did. -/
structure Written (rows : List ControlRow) (state : ContextSourceControlState) (now : String)
    (result : ContextSourceControlState) (next : List ControlRow) : Prop where
  visible : state.latestVisibleCommittedRevision = visibleRevision rows state.key
  free : nameTaken rows state = false
  keys : (rows.map ControlRow.key).Nodup → (next.map ControlRow.key).Nodup
  outcome :
    (storedState rows state.key = some result ∧ result.durableFields = state.durableFields ∧
      next = rows) ∨
    (storedRevision rows state.key = state.stateRevision ∧
      result = state.written (state.stateRevision + 1) now ∧ WritesOnly rows next result ∧
      ∀ stored, storedState rows state.key = some stored →
        stored.durableFields ≠ state.durableFields)

@[simp]
theorem ContextSourceControlState.key_written (state : ContextSourceControlState)
    (revision : Nat) (now : String) : (state.written revision now).key = state.key :=
  rfl

theorem updateWhere_writes {rows : List ControlRow} {next : ContextSourceControlState}
    {revision : Nat} {stored : ContextSourceControlState}
    (read : storedState rows next.key = some stored) (current : stored.stateRevision = revision) :
    WritesOnly rows (updateWhere
      (fun row => row.key = next.key && row.state.stateRevision = revision)
      (fun row => { row with state := next }) rows) next := by
  intro key
  rw [storedState, fetch_updateWhere_matching, Option.map_map]
  · by_cases same : key = next.key
    · rw [if_pos same]
      subst same
      obtain ⟨row, fetched, rfl⟩ := Option.map_eq_some_iff.mp read
      have matched : ControlRow.key row = next.key := fetch_key fetched
      simp [fetched, matched, current]
    · rw [if_neg same, storedState]
      cases fetched : fetch ControlRow.key rows key with
      | none => rfl
      | some row =>
        have other : ControlRow.key row ≠ next.key := by
          rw [fetch_key fetched]
          exact same
        simp [other]
  · intro row matched
    rw [Bool.and_eq_true] at matched
    exact (of_decide_eq_true matched.1).symm

theorem writeContextSourceControl_ok {rows next : List ControlRow}
    {state result : ContextSourceControlState} {stored : Option ContextSourceControlState}
    {now : String} (read : storedState rows state.key = stored)
    (written : writeContextSourceControl rows state stored now = .ok (result, next)) :
    Written rows state now result next := by
  unfold writeContextSourceControl at written
  split at written
  · cases written
  rename_i visible
  split at written
  · cases written
  split at written
  · cases written
  rename_i free
  have shown : state.latestVisibleCommittedRevision = visibleRevision rows state.key := by
    rw [visibleRevision, read]
    exact not_not.mp visible
  split at written
  · rename_i stored _
    split at written
    · rename_i durable
      cases written
      exact ⟨shown, by simpa using free, id, .inl ⟨read, durable, rfl⟩⟩
    rename_i differs
    split at written
    · cases written
    rename_i current
    have current : stored.stateRevision = state.stateRevision := (not_not.mp current).symm
    dsimp only at written
    split at written
    · cases written
      refine ⟨shown, by simpa using free, fun distinct => ?_, .inr ⟨?_, by rw [current], ?_, ?_⟩⟩
      · rw [keys_updateWhere]
        · exact distinct
        · intro row matched
          rw [Bool.and_eq_true] at matched
          exact (of_decide_eq_true matched.1).symm
      · rw [storedRevision, read]
        exact current
      · exact updateWhere_writes
          (show storedState rows (state.written (stored.stateRevision + 1) now).key = some stored
            from read) rfl
      · rw [read]
        rintro _ ⟨⟩
        exact differs
    · cases written
  · split at written
    · cases written
    rename_i current
    have current : state.stateRevision = 0 := not_not.mp current
    split at written
    · cases written
    rename_i missing
    dsimp only at written
    cases written
    have missing : fetch ControlRow.key rows (ControlRow.key ⟨state.written 1 now, now⟩) = none := by
      simpa [ControlRow.key] using missing
    have appended : upsert ControlRow.key ⟨state.written 1 now, now⟩ (fun row => row) rows =
        rows ++ [⟨state.written 1 now, now⟩] := upsert_missing missing
    rw [← appended]
    refine ⟨shown, by simpa using free, nodup_upsert fun _ same => same, .inr ⟨?_, ?_, ?_, ?_⟩⟩
    · rw [storedRevision, read, current]
      rfl
    · rw [current]
    · intro key
      rw [storedState, fetch_upsert fun _ same => same, missing]
      by_cases same : key = state.key
      · simp [same, ControlRow.key]
      · simp [same, ControlRow.key, storedState]
    · rw [read]
      intro key other
      cases other

/-- What every transaction keeps. -/
structure Kept (rows next : List ControlRow) : Prop where
  tracked : TrackedOnce rows → TrackedOnce next
  advances : ∀ key, Advances (storedState rows key) (storedState next key)

theorem Kept.refl (rows : List ControlRow) : Kept rows rows :=
  ⟨id, fun _ => .refl _⟩

theorem Kept.trans {rows middle next : List ControlRow} (earlier : Kept rows middle)
    (later : Kept middle next) : Kept rows next :=
  ⟨later.tracked ∘ earlier.tracked, fun key => (earlier.advances key).trans (later.advances key)⟩

theorem nameTaken_free {rows : List ControlRow} {state : ContextSourceControlState}
    (free : nameTaken rows state = false) {key : ContextSourceOwnerKey × String}
    {other : ContextSourceControlState} (stored : storedState rows key = some other)
    (same : SameTrackedSkill state other) : key = state.key := by
  by_contra distinct
  obtain ⟨row, fetched, rfl⟩ := Option.map_eq_some_iff.mp stored
  have otherSource : row.state.sourceId ≠ state.sourceId := by
    intro equal
    apply distinct
    rw [← storedState_key stored, ContextSourceControlState.key, ContextSourceControlState.key,
      same.owner, equal]
  have taken : nameTaken rows state = true := by
    rw [nameTaken, same.first, Bool.true_and, List.any_eq_true]
    exact ⟨row, fetch_mem fetched, by simp [same.owner, same.second, same.name, otherSource]⟩
  rw [taken] at free
  cases free

theorem SameTrackedSkill.symm {first second : ContextSourceControlState}
    (same : SameTrackedSkill first second) : SameTrackedSkill second first :=
  ⟨same.owner.symm, same.name.symm, same.second, same.first⟩

theorem TrackedOnce.write {rows next : List ControlRow} {state result : ContextSourceControlState}
    (tracked : TrackedOnce rows) (distinct : (next.map ControlRow.key).Nodup)
    (only : WritesOnly rows next result) (key : result.key = state.key)
    (free : nameTaken rows state = false)
    (same : ∀ other, SameTrackedSkill result other → SameTrackedSkill state other) :
    TrackedOnce next where
  distinct
  once := by
    intro one two first second firstStored secondStored both
    rw [only] at firstStored secondStored
    split at firstStored <;> split at secondStored
    · simp_all
    · rename_i here there
      cases firstStored
      rw [here, key]
      exact (nameTaken_free free secondStored (same second both)).symm
    · rename_i there here
      cases secondStored
      rw [here, key]
      exact nameTaken_free free firstStored (same first both.symm)
    · exact tracked.once firstStored secondStored both

namespace Written

variable {rows next : List ControlRow} {state result : ContextSourceControlState} {now : String}

theorem kept (written : Written rows state now result next) : Kept rows next := by
  rcases written.outcome with ⟨-, -, rfl⟩ | ⟨expected, rfl, only, -⟩
  · exact .refl _
  constructor
  · intro tracked
    exact tracked.write (written.keys tracked.distinct) only rfl written.free
      fun _ same => ⟨same.owner, same.name, same.first, same.second⟩
  · intro key
    rw [only]
    split
    · rename_i here
      subst here
      refine .inr ⟨_, rfl, fun stored read => ?_⟩
      change storedState rows state.key = some stored at read
      rw [storedRevision, read] at expected
      change stored.stateRevision = state.stateRevision at expected
      exact expected ▸ Nat.lt_succ_self _
    · exact .refl _

theorem stored (written : Written rows state now result next) :
    storedState next state.key = some result ∧ result.durableFields = state.durableFields := by
  rcases written.outcome with ⟨read, durable, rfl⟩ | ⟨-, rfl, only, -⟩
  · exact ⟨read, durable⟩
  · exact ⟨by rw [only]; exact if_pos rfl, rfl⟩

theorem other (written : Written rows state now result next)
    {key : ContextSourceOwnerKey × String} (distinct : key ≠ state.key) :
    storedState next key = storedState rows key := by
  rcases written.outcome with ⟨-, -, rfl⟩ | ⟨-, rfl, only, -⟩
  · rfl
  · rw [only]
    exact if_neg distinct

theorem visibleRevision (written : Written rows state now result next)
    (key : ContextSourceOwnerKey × String) :
    visibleRevision next key = visibleRevision rows key := by
  by_cases here : key = state.key
  · have shown := written.visible
    rw [here, ContextSources.visibleRevision, written.stored.1, ← shown]
    exact congrArg DurableFields.latestVisibleCommittedRevision written.stored.2
  · rw [ContextSources.visibleRevision, written.other here, ContextSources.visibleRevision]

theorem trackingStatus (written : Written rows state now result next) :
    result.trackingStatus = state.trackingStatus :=
  congrArg DurableFields.trackingStatus written.stored.2

end Written

inductive Applied (rows : List ControlRow) (mutation : ContextSourceControlMutation) :
    ContextSourceControlReceipt → List ControlRow → Prop where
  | wrote {result : ContextSourceControlState} {next : List ControlRow} (now : String)
      (single : mutation.replacedState = none)
      (written : Written rows mutation.state now result next) :
      Applied rows mutation ⟨result, none⟩ next
  | alreadyRebound {replaced old stored : ContextSourceControlState}
      (rebind : mutation.replacedState = some replaced)
      (oldStored : storedState rows replaced.key = some old)
      (read : storedState rows mutation.state.key = some stored)
      (done : alreadyRebound mutation replaced old stored = true) :
      Applied rows mutation ⟨stored, some old⟩ rows
  | rebound {replaced old frozen result : ContextSourceControlState}
      {middle next : List ControlRow} (frozenAt now : String)
      (rebind : mutation.replacedState = some replaced)
      (oldStored : storedState rows replaced.key = some old)
      (freezes : canFreeze replaced old = true)
      (target : ∀ stored, storedState rows mutation.state.key = some stored →
        stored.trackingStatus = .untracked)
      (freeze : Written rows old.frozen frozenAt frozen middle)
      (written : Written middle mutation.state now result next) :
      Applied rows mutation ⟨result, some frozen⟩ next

theorem ContextSourceControlMutation.keys_ne (mutation : ContextSourceControlMutation)
    {replaced : ContextSourceControlState} (rebind : mutation.replacedState = some replaced) :
    mutation.state.key ≠ replaced.key := by
  intro same
  exact (mutation.rebinds replaced rebind).source (congrArg Prod.snd same).symm

theorem applyContextSourceControlMutation_ok {rows next : List ControlRow}
    {mutation : ContextSourceControlMutation} {frozenAt now : String}
    {receipt : ContextSourceControlReceipt}
    (applied : applyContextSourceControlMutation rows mutation frozenAt now =
      .ok (receipt, next)) : Applied rows mutation receipt next := by
  unfold applyContextSourceControlMutation at applied
  dsimp only at applied
  split at applied
  · rename_i single
    have written : ∃ result, writeContextSourceControl rows mutation.state
        (storedState rows mutation.state.key) now = .ok (result, next) ∧
          receipt = ⟨result, none⟩ := by
      split at applied
      · obtain ⟨_, _, applied⟩ := bind_ok applied
        obtain ⟨⟨result, after⟩, wrote, applied⟩ := bind_ok applied
        cases applied
        exact ⟨result, wrote, rfl⟩
      · obtain ⟨⟨result, after⟩, wrote, applied⟩ := bind_ok applied
        cases applied
        exact ⟨result, wrote, rfl⟩
    obtain ⟨result, wrote, rfl⟩ := written
    exact .wrote now single (writeContextSourceControl_ok rfl wrote)
  · rename_i replaced rebind
    split at applied
    · cases applied
    rename_i old oldStored
    split at applied
    · rename_i stored found
      cases applied
      obtain ⟨read, done⟩ := Option.filter_eq_some_iff.mp found
      exact .alreadyRebound rebind oldStored read done
    split at applied
    · cases applied
    rename_i freezes
    split at applied
    · cases applied
    rename_i target
    obtain ⟨⟨frozen, middle⟩, froze, applied⟩ := bind_ok applied
    obtain ⟨⟨result, after⟩, wrote, applied⟩ := bind_ok applied
    cases applied
    have oldKey : old.key = replaced.key := storedState_key oldStored
    have frozenKey : old.frozen.key = replaced.key := oldKey
    have freeze := writeContextSourceControl_ok (by rw [frozenKey, oldStored]) froze
    have read : storedState middle mutation.state.key = storedState rows mutation.state.key :=
      freeze.other (frozenKey ▸ mutation.keys_ne rebind)
    refine .rebound frozenAt now rebind oldStored (by simpa using freezes) ?_ freeze
      (writeContextSourceControl_ok read wrote)
    intro stored current
    rw [current] at target
    simpa using target

namespace Applied

variable {rows next : List ControlRow} {mutation : ContextSourceControlMutation}
  {receipt : ContextSourceControlReceipt}

theorem kept (applied : Applied rows mutation receipt next) : Kept rows next := by
  cases applied with
  | wrote now single written => exact written.kept
  | alreadyRebound => exact .refl _
  | rebound frozenAt now rebind oldStored freezes target freeze written =>
    exact freeze.kept.trans written.kept

theorem visibleRevision (applied : Applied rows mutation receipt next)
    (key : ContextSourceOwnerKey × String) :
    visibleRevision next key = visibleRevision rows key := by
  cases applied with
  | wrote now single written => exact written.visibleRevision key
  | alreadyRebound => rfl
  | rebound frozenAt now rebind oldStored freezes target freeze written =>
    rw [written.visibleRevision, freeze.visibleRevision]

theorem stored (applied : Applied rows mutation receipt next) :
    storedState next mutation.state.key = some receipt.state ∧
      receipt.state.durableFields = mutation.state.durableFields := by
  cases applied with
  | wrote now single written => exact written.stored
  | alreadyRebound rebind oldStored read done =>
    simp only [ContextSources.alreadyRebound, Bool.and_eq_true, decide_eq_true_eq] at done
    exact ⟨read, done.1.2⟩
  | rebound frozenAt now rebind oldStored freezes target freeze written => exact written.stored

theorem rebound_writes {replaced old frozen result : ContextSourceControlState}
    {middle : List ControlRow} {frozenAt now : String}
    (rebind : mutation.replacedState = some replaced)
    (oldStored : storedState rows replaced.key = some old)
    (target : ∀ stored, storedState rows mutation.state.key = some stored →
      stored.trackingStatus = .untracked)
    (freeze : Written rows old.frozen frozenAt frozen middle)
    (written : Written middle mutation.state now result next) :
    storedRevision rows mutation.state.key = mutation.state.stateRevision ∧
      result = mutation.state.written (mutation.state.stateRevision + 1) now := by
  have read : storedState middle mutation.state.key = storedState rows mutation.state.key := by
    refine freeze.other ?_
    have oldKey : old.key = replaced.key := storedState_key oldStored
    rw [show old.frozen.key = old.key from rfl, oldKey]
    exact mutation.keys_ne rebind
  rcases written.outcome with ⟨current, durable, -⟩ | ⟨expected, built, -, -⟩
  · have tracked := written.trackingStatus
    rw [mutation.tracks (mutation.rebinds replaced rebind).operation,
      target result (read ▸ current)] at tracked
    cases tracked
  · exact ⟨by rw [storedRevision, ← read]; exact expected, built⟩

theorem stale (applied : Applied rows mutation receipt next)
    (older : storedRevision rows mutation.state.key ≠ mutation.state.stateRevision) :
    next = rows := by
  cases applied with
  | wrote now single written =>
    rcases written.outcome with ⟨-, -, same⟩ | ⟨expected, -, -, -⟩
    · exact same
    · exact absurd expected older
  | alreadyRebound => rfl
  | rebound frozenAt now rebind oldStored freezes target freeze written =>
    exact absurd (rebound_writes rebind oldStored target freeze written).1 older

theorem settled (applied : Applied rows mutation receipt next) {state : ContextSourceControlState}
    (read : storedState rows mutation.state.key = some state)
    (durable : state.durableFields = mutation.state.durableFields) : next = rows := by
  cases applied with
  | wrote now single written =>
    rcases written.outcome with ⟨-, -, same⟩ | ⟨-, -, -, differs⟩
    · exact same
    · exact absurd durable (differs state read)
  | alreadyRebound => rfl
  | rebound frozenAt now rebind oldStored freezes target freeze written =>
    have untracked := target state read
    have tracked := mutation.tracks (mutation.rebinds _ rebind).operation
    have same := congrArg DurableFields.trackingStatus durable
    change state.trackingStatus = mutation.state.trackingStatus at same
    rw [untracked, tracked] at same
    cases same

theorem staleReplaced (applied : Applied rows mutation receipt next)
    {replaced : ContextSourceControlState} (rebind : mutation.replacedState = some replaced)
    (older : storedRevision rows replaced.key ≠ replaced.stateRevision) : next = rows := by
  cases applied with
  | wrote now single written => cases single.symm.trans rebind
  | alreadyRebound => rfl
  | rebound frozenAt now rebind' oldStored freezes target freeze written =>
    cases rebind'.symm.trans rebind
    simp only [canFreeze, Bool.and_eq_true, decide_eq_true_eq] at freezes
    rw [storedRevision, oldStored] at older
    exact absurd freezes.1.2 older

end Applied

structure MovesTracking (rows next : List ControlRow)
    (source target : ContextSourceOwnerKey × String) : Prop where
  moved : next = rows ∨ IsTracked rows source ∧ ¬ IsTracked rows target
  freed : ¬ IsTracked next source
  taken : IsTracked next target

theorem not_isTracked {rows : List ControlRow} {key : ContextSourceOwnerKey × String}
    {state : ContextSourceControlState} (stored : storedState rows key = some state)
    (untracked : state.trackingStatus = .untracked) : ¬ IsTracked rows key := by
  rintro ⟨other, read, tracked⟩
  cases read.symm.trans stored
  rw [untracked] at tracked
  cases tracked

theorem Applied.movesTracking {rows next : List ControlRow}
    {mutation : ContextSourceControlMutation} {receipt : ContextSourceControlReceipt}
    (applied : Applied rows mutation receipt next) {replaced : ContextSourceControlState}
    (rebind : mutation.replacedState = some replaced) :
    MovesTracking rows next replaced.key mutation.state.key := by
  have tracked : receipt.state.trackingStatus = .tracked :=
    (congrArg DurableFields.trackingStatus applied.stored.2).trans
      (mutation.tracks (mutation.rebinds replaced rebind).operation)
  have taken : IsTracked next mutation.state.key := ⟨_, applied.stored.1, tracked⟩
  cases applied with
  | wrote now single written => cases single.symm.trans rebind
  | alreadyRebound rebind' oldStored read done =>
    cases rebind'.symm.trans rebind
    simp only [ContextSources.alreadyRebound, Bool.and_eq_true, decide_eq_true_eq] at done
    exact ⟨.inl rfl, not_isTracked oldStored done.1.1.1.1, taken⟩
  | rebound frozenAt now rebind' oldStored freezes target freeze written =>
    cases rebind'.symm.trans rebind
    simp only [canFreeze, Bool.and_eq_true, decide_eq_true_eq] at freezes
    refine ⟨.inr ⟨⟨_, oldStored, freezes.1.1⟩, ?_⟩, ?_, taken⟩
    · rintro ⟨stored, read, isTracked⟩
      rw [target stored read] at isTracked
      cases isTracked
    · have oldKey := storedState_key oldStored
      refine not_isTracked ?_ freeze.trackingStatus
      rw [written.other (mutation.keys_ne rebind).symm, ← oldKey]
      exact freeze.stored.1

theorem checkOperation_settled {mutation : ContextSourceControlMutation}
    {stored : ContextSourceControlState}
    (durable : stored.durableFields = mutation.state.durableFields) :
    checkOperation mutation stored = .ok () := by
  have binding : stored.bindingRevision = mutation.state.bindingRevision :=
    congrArg DurableFields.bindingRevision durable
  have tracking : stored.trackingStatus = mutation.state.trackingStatus :=
    congrArg DurableFields.trackingStatus durable
  have latest : stored.latestRevision = mutation.state.latestRevision :=
    congrArg DurableFields.latestRevision durable
  simp [checkOperation, binding, tracking, latest]

theorem writeContextSourceControl_settled {rows : List ControlRow}
    {state stored : ContextSourceControlState} {now : String}
    (durable : stored.durableFields = state.durableFields) (free : nameTaken rows state = false) :
    writeContextSourceControl rows state (some stored) now = .ok (stored, rows) := by
  have visible : stored.latestVisibleCommittedRevision = state.latestVisibleCommittedRevision :=
    congrArg DurableFields.latestVisibleCommittedRevision durable
  have kind : stored.sourceKind = state.sourceKind := congrArg DurableFields.sourceKind durable
  have name : stored.name = state.name := congrArg DurableFields.name durable
  simp [writeContextSourceControl, durable, free, visible, kind, name]

theorem SameTrackedSkill.of_durable {first second other : ContextSourceControlState}
    (durable : first.durableFields = second.durableFields) (same : SameTrackedSkill second other) :
    SameTrackedSkill first other := by
  have owner : first.owner = second.owner := congrArg DurableFields.owner durable
  have name : first.name = second.name := congrArg DurableFields.name durable
  have kind : first.sourceKind = second.sourceKind := congrArg DurableFields.sourceKind durable
  have tracking : first.trackingStatus = second.trackingStatus :=
    congrArg DurableFields.trackingStatus durable
  refine ⟨owner.trans same.owner, name ▸ same.name, ?_, same.second⟩
  rw [ContextSourceControlState.tracksSkill, kind, tracking]
  exact same.first

theorem TrackedOnce.free {rows : List ControlRow} (tracked : TrackedOnce rows)
    {state stored : ContextSourceControlState} (read : storedState rows state.key = some stored)
    (durable : stored.durableFields = state.durableFields) : nameTaken rows state = false := by
  rw [nameTaken, Bool.and_eq_false_iff]
  cases skill : state.tracksSkill with
  | false => exact .inl rfl
  | true =>
    refine .inr (Bool.eq_false_iff.mpr fun found => ?_)
    obtain ⟨row, member, rival⟩ := List.any_eq_true.mp found
    simp only [Bool.and_eq_true, decide_eq_true_eq] at rival
    obtain ⟨⟨⟨owner, other⟩, distinct⟩, name⟩ := rival
    have same : SameTrackedSkill state row.state := ⟨owner.symm, name.symm, skill, other⟩
    have key := tracked.once read (storedState_mem tracked.distinct member)
      (SameTrackedSkill.of_durable durable same)
    exact distinct (congrArg Prod.snd key).symm

theorem apply_alreadyRebound {rows : List ControlRow} {mutation : ContextSourceControlMutation}
    {replaced old stored : ContextSourceControlState}
    (rebind : mutation.replacedState = some replaced)
    (oldStored : storedState rows replaced.key = some old)
    (read : storedState rows mutation.state.key = some stored)
    (done : alreadyRebound mutation replaced old stored = true) (frozenAt now : String) :
    applyContextSourceControlMutation rows mutation frozenAt now =
      .ok (⟨stored, some old⟩, rows) := by
  simp only [applyContextSourceControlMutation, rebind, oldStored, read, Option.filter_some, done,
    if_true]
  rfl

theorem Applied.repeats {rows next : List ControlRow} {mutation : ContextSourceControlMutation}
    {receipt : ContextSourceControlReceipt} (applied : Applied rows mutation receipt next)
    (tracked : TrackedOnce rows) (frozenAt now : String) :
    applyContextSourceControlMutation next mutation frozenAt now = .ok (receipt, next) := by
  obtain ⟨read, durable⟩ := applied.stored
  have free := (applied.kept.tracked tracked).free read durable
  cases applied with
  | wrote earlier single written =>
    simp only [applyContextSourceControlMutation, single, read, checkOperation_settled durable,
      writeContextSourceControl_settled durable free]
    rfl
  | alreadyRebound rebind oldStored _ done =>
    exact apply_alreadyRebound rebind oldStored read done frozenAt now
  | rebound frozenEarlier earlier rebind oldStored freezes target freeze written =>
    rename_i replaced old frozen result middle
    have oldKey : old.key = replaced.key := storedState_key oldStored
    have oldFrozen : storedState next replaced.key = some frozen := by
      rw [written.other (mutation.keys_ne rebind).symm, ← oldKey]
      exact freeze.stored.1
    refine apply_alreadyRebound rebind oldFrozen read ?_ frozenAt now
    obtain ⟨-, built⟩ := rebound_writes rebind oldStored target freeze written
    simp only [canFreeze, Bool.and_eq_true, decide_eq_true_eq] at freezes
    have froze : frozen = old.frozen.written (replaced.stateRevision + 1) frozenEarlier := by
      rcases freeze.outcome with ⟨current, same, -⟩ | ⟨expected, built, -, -⟩
      · have current : storedState rows old.key = some frozen := current
        cases (oldKey ▸ current).symm.trans oldStored
        have status := congrArg DurableFields.trackingStatus same
        change old.trackingStatus = .untracked at status
        rw [freezes.1.1] at status
        cases status
      · rw [built, ← freezes.1.2]
        rfl
    simp only [ContextSources.alreadyRebound, Bool.and_eq_true, decide_eq_true_eq]
    refine ⟨⟨⟨⟨freeze.trackingStatus, ?_⟩, ?_⟩, durable⟩, ?_⟩
    · rw [froze]
      rfl
    · rw [freeze.stored.2]
      exact freezes.2
    · rw [built]
      rfl

theorem Applied.repeats_later {rows next later last : List ControlRow}
    {mutation : ContextSourceControlMutation} {receipt again : ContextSourceControlReceipt}
    (applied : Applied rows mutation receipt next)
    (prepared : mutation.state.stateRevision ≤ receipt.state.stateRevision)
    (advances : Advances (storedState next mutation.state.key)
      (storedState later mutation.state.key))
    (repeated : Applied later mutation again last) : last = later := by
  obtain ⟨read, durable⟩ := applied.stored
  rw [read] at advances
  rcases advances with same | ⟨state, current, greater⟩
  · exact repeated.settled same durable
  · apply repeated.stale
    rw [storedRevision, current, Option.map_some, Option.getD_some]
    exact Nat.ne_of_gt (Nat.lt_of_le_of_lt prepared (greater _ rfl))

end GraphAgent.ContextSources
