import GraphAgent.ContextSourceRules

/-!
# Runs of a context source store

Mutations, decisions, seals, checkpoints and restores follow each other in any
order.  Every transaction keeps the names of tracked skills unique and advances
the revisions that it changes; the invariant of a run covers the checkpoints,
since a restore brings their rows back.
-/

namespace GraphAgent.ContextSources

open KeyedRows Transaction

theorem applySourceLifecycleDecision_ok {rows next : List ControlRow}
    {decision : SourceLifecycleDecision} {itemAccepted : Bool} {now : String}
    (applied : applySourceLifecycleDecision rows decision itemAccepted now = .ok next) :
    next = rows ∨ ∃ state result, Written rows state now result next := by
  unfold applySourceLifecycleDecision at applied
  split at applied
  · cases applied
  split at applied
  · cases applied
    exact .inl rfl
  · obtain ⟨⟨result, after⟩, wrote, rfl⟩ := map_ok applied
    exact .inr ⟨_, result, writeContextSourceControl_ok rfl wrote⟩

@[simp]
theorem ContextSourceControlState.key_sealed (state : ContextSourceControlState)
    (revision now : String) : (state.sealed revision now).key = state.key :=
  rfl

theorem storedState_update {rows : List ControlRow} {matching : ControlRow → Bool}
    {change : ContextSourceControlState → ContextSourceControlState}
    (keeps : ∀ state, (change state).key = state.key) (key : ContextSourceOwnerKey × String) :
    storedState (updateWhere matching (fun row => { row with state := change row.state }) rows) key =
      (fetch ControlRow.key rows key).map fun row =>
        if matching row then change row.state else row.state := by
  have keyKept (row : ControlRow) :
      ControlRow.key { row with state := change row.state } = ControlRow.key row :=
    keeps row.state
  rw [storedState, fetch_updateWhere keyKept, Option.map_map]
  congr 1
  funext row
  rw [Function.comp_apply]
  split
  · rfl
  · rfl

theorem TrackedOnce.update {rows : List ControlRow} {matching : ControlRow → Bool}
    {change : ContextSourceControlState → ContextSourceControlState} (tracked : TrackedOnce rows)
    (keeps : ∀ state, (change state).key = state.key)
    (skill : ∀ state, (change state).tracksSkill = true → state.tracksSkill = true)
    (name : ∀ state, (change state).name = state.name) :
    TrackedOnce (updateWhere matching (fun row => { row with state := change row.state }) rows) := by
  have before {key : ContextSourceOwnerKey × String} {next : ContextSourceControlState}
      (stored : storedState (updateWhere matching
        (fun row => { row with state := change row.state }) rows) key = some next) :
      ∃ state, storedState rows key = some state ∧ next.owner = state.owner ∧
        (next.tracksSkill = true → state.tracksSkill = true) ∧ next.name = state.name := by
    rw [storedState_update keeps] at stored
    obtain ⟨row, fetched, rfl⟩ := Option.map_eq_some_iff.mp stored
    refine ⟨row.state, by rw [storedState, fetched]; rfl, ?_⟩
    split
    · exact ⟨congrArg Prod.fst (keeps row.state), skill row.state, name row.state⟩
    · exact ⟨rfl, id, rfl⟩
  constructor
  · rw [keys_updateWhere fun row _ => keeps row.state]
    exact tracked.distinct
  · intro one two first second firstStored secondStored same
    obtain ⟨earlier, firstRead, firstOwner, firstSkill, firstName⟩ := before firstStored
    obtain ⟨other, secondRead, secondOwner, secondSkill, secondName⟩ := before secondStored
    exact tracked.once firstRead secondRead
      ⟨firstOwner ▸ secondOwner ▸ same.owner, firstName ▸ secondName ▸ same.name,
        firstSkill same.first, secondSkill same.second⟩

theorem applySealedSource_ok {rows next : List ControlRow} {owner : ContextSourceOwnerKey}
    {consumedTransition : Bool} {now : String} {source : AppliedSourceRevision}
    (applied : applySealedSource owner consumedTransition now rows source = .ok next) :
    Kept rows next ∧ ∀ key, key ≠ (owner, source.sourceId) →
      storedState next key = storedState rows key := by
  unfold applySealedSource at applied
  split at applied
  · cases applied
    exact ⟨.refl _, fun _ _ => rfl⟩
  split at applied
  · cases applied
  rename_i stored read
  split at applied
  · cases applied
  split at applied
  · cases applied
  split at applied
  · cases applied
  cases applied
  have keyKept (state : ContextSourceControlState) :
      (state.sealed source.revision now).key = state.key := rfl
  refine ⟨⟨fun tracked => ?_, fun key => ?_⟩, fun key other => ?_⟩
  · exact tracked.update keyKept (fun _ skill => skill) fun _ => rfl
  · rw [storedState_update keyKept, storedState]
    cases fetched : fetch ControlRow.key rows key with
    | none => exact .refl _
    | some row =>
      rw [Option.map_some, Option.map_some]
      split
      · refine .inr ⟨_, rfl, ?_⟩
        rintro _ ⟨⟩
        exact Nat.lt_succ_self _
      · exact .refl _
  · rw [storedState_update keyKept, storedState]
    cases fetched : fetch ControlRow.key rows key with
    | none => rfl
    | some row =>
      have differs : ControlRow.key row ≠ (owner, source.sourceId) := by
        rw [fetch_key fetched]
        exact other
      simp [differs]

theorem applySealedContextSources_ok {owner : ContextSourceOwnerKey} {consumedTransition : Bool}
    {sources : List AppliedSourceRevision} {now : String} {rows next : List ControlRow}
    (applied : applySealedContextSources owner consumedTransition sources now rows = .ok next) :
    Kept rows next ∧ ∀ key, (∀ source ∈ sources, key ≠ (owner, source.sourceId)) →
      storedState next key = storedState rows key := by
  induction sources generalizing rows with
  | nil =>
    cases applied
    exact ⟨.refl _, fun _ _ => rfl⟩
  | cons source sources ih =>
    rw [applySealedContextSources, List.foldlM_cons] at applied
    obtain ⟨middle, first, rest⟩ := bind_ok applied
    obtain ⟨keptFirst, others⟩ := applySealedSource_ok first
    obtain ⟨keptRest, later⟩ := ih rest
    refine ⟨keptFirst.trans keptRest, fun key unnamed => ?_⟩
    rw [later key fun other listed => unnamed other (List.mem_cons_of_mem _ listed),
      others key (unnamed source (List.mem_cons_self ..))]

structure Restores (state earlier : ContextSourceControlState) : Prop where
  name : state.name = earlier.name
  skill : state.tracksSkill = earlier.tracksSkill

def BroughtBack (rows next : List ControlRow) (row : ControlRow) : Prop :=
  ∃ state, storedState next row.key = some state ∧ Restores state row.state ∧
    ∀ stored, storedState rows row.key = some stored →
      stored.stateRevision < state.stateRevision

theorem restoreRow_stored (timestamp : String) (rows : List ControlRow) (row : ControlRow) :
    BroughtBack rows (restoreRow timestamp rows row) row := by
  rw [BroughtBack, storedState, restoreRow, fetch_upsert]
  · rw [if_pos rfl]
    refine ⟨_, rfl, ?_, ?_⟩
    · cases fetched : fetch ControlRow.key rows row.key with
      | none => exact ⟨rfl, rfl⟩
      | some current => exact ⟨rfl, rfl⟩
    · intro stored read
      obtain ⟨current, fetched, rfl⟩ := Option.map_eq_some_iff.mp read
      rw [fetched]
      exact Nat.lt_succ_of_le (Nat.le_max_left ..)
  · intro _ _
    rfl

theorem restoreRow_other {timestamp : String} {rows : List ControlRow} {row : ControlRow}
    {key : ContextSourceOwnerKey × String} (other : key ≠ row.key) :
    storedState (restoreRow timestamp rows row) key = storedState rows key := by
  rw [storedState, restoreRow, fetch_upsert]
  · rw [if_neg other, storedState]
  · intro _ _
    rfl

theorem restoreRow_distinct {timestamp : String} {rows : List ControlRow} {row : ControlRow}
    (distinct : (rows.map ControlRow.key).Nodup) :
    ((restoreRow timestamp rows row).map ControlRow.key).Nodup :=
  nodup_upsert (fun _ _ => rfl) distinct

theorem restoreRows_distinct {timestamp : String} {restored rows : List ControlRow}
    (distinct : (rows.map ControlRow.key).Nodup) :
    ((restored.foldl (restoreRow timestamp) rows).map ControlRow.key).Nodup := by
  induction restored generalizing rows with
  | nil => exact distinct
  | cons row restored ih => exact ih (restoreRow_distinct distinct)

theorem restoreRows_other {timestamp : String} {restored rows : List ControlRow}
    {key : ContextSourceOwnerKey × String} (other : ∀ row ∈ restored, key ≠ row.key) :
    storedState (restored.foldl (restoreRow timestamp) rows) key = storedState rows key := by
  induction restored generalizing rows with
  | nil => rfl
  | cons row restored ih =>
    rw [List.foldl_cons, ih fun later listed => other later (List.mem_cons_of_mem _ listed),
      restoreRow_other (other row (List.mem_cons_self ..))]

theorem restoreRows_stored {timestamp : String} {restored rows : List ControlRow}
    (distinct : (restored.map ControlRow.key).Nodup) :
    ∀ row ∈ restored, BroughtBack rows (restored.foldl (restoreRow timestamp) rows) row := by
  induction restored generalizing rows with
  | nil => simp
  | cons first restored ih =>
    rw [List.map_cons, List.nodup_cons] at distinct
    intro row listed
    rw [List.foldl_cons]
    rcases List.mem_cons.mp listed with rfl | later
    · have unnamed : ∀ other ∈ restored, row.key ≠ ControlRow.key other := by
        intro other member same
        exact distinct.1 (same ▸ List.mem_map_of_mem member)
      rw [BroughtBack, restoreRows_other unnamed]
      exact restoreRow_stored timestamp rows row
    · obtain ⟨state, stored, restores, newer⟩ := ih distinct.2 row later
      have different : row.key ≠ first.key := by
        intro same
        exact distinct.1 (same ▸ List.mem_map_of_mem later)
      refine ⟨state, stored, restores, fun earlier read => newer earlier ?_⟩
      rw [restoreRow_other different, read]

structure Captured (checkpoint : CheckpointSources) : Prop where
  tracked : TrackedOnce checkpoint.states
  owner : ∃ owner, ∀ row ∈ checkpoint.states, row.state.owner = owner

structure RestoredFrom (owner : ContextSourceOwnerKey) (row restored : ControlRow) : Prop where
  key : restored.key = (owner, row.state.sourceId)
  restores : Restores restored.state row.state

theorem restoredState_ok {owner : ContextSourceOwnerKey} {visible : String → Option String}
    {row restored : ControlRow} (built : restoredState owner visible row = .ok restored) :
    RestoredFrom owner row restored := by
  unfold restoredState at built
  generalize (if row.state.trackingStatus = .untracked then visible row.state.sourceId
    else row.state.latestVisibleCommittedRevision) = shown at built
  dsimp only at built
  split at built
  · cases built
    exact ⟨rfl, rfl, rfl⟩
  · cases built

theorem restored_from {owner : ContextSourceOwnerKey} {visible : String → Option String}
    {states restored : List ControlRow}
    (built : states.mapM (restoredState owner visible) = .ok restored) :
    List.Forall₂ (RestoredFrom owner) states restored :=
  (mapM_ok built).imp fun _ _ => restoredState_ok

theorem mem_restored {owner : ContextSourceOwnerKey} {states restored : List ControlRow}
    (related : List.Forall₂ (RestoredFrom owner) states restored) :
    (∀ row ∈ restored, ∃ earlier ∈ states, RestoredFrom owner earlier row) ∧
      ∀ earlier ∈ states, ∃ row ∈ restored, RestoredFrom owner earlier row := by
  induction related with
  | nil => simp
  | cons first _ ih =>
    constructor
    · intro row listed
      rcases List.mem_cons.mp listed with rfl | later
      · exact ⟨_, List.mem_cons_self .., first⟩
      · obtain ⟨earlier, member, back⟩ := ih.1 row later
        exact ⟨earlier, List.mem_cons_of_mem _ member, back⟩
    · intro earlier listed
      rcases List.mem_cons.mp listed with rfl | later
      · exact ⟨_, List.mem_cons_self .., first⟩
      · obtain ⟨row, member, back⟩ := ih.2 earlier later
        exact ⟨row, List.mem_cons_of_mem _ member, back⟩

theorem restored_keys {owner : ContextSourceOwnerKey} {states restored : List ControlRow}
    (related : List.Forall₂ (RestoredFrom owner) states restored) :
    restored.map ControlRow.key = states.map fun row => (owner, row.state.sourceId) := by
  induction related with
  | nil => rfl
  | cons first _ ih => rw [List.map_cons, List.map_cons, first.key, ih]

theorem Captured.restored_distinct {checkpoint : CheckpointSources}
    (captured : Captured checkpoint) {owner : ContextSourceOwnerKey} {restored : List ControlRow}
    (related : List.Forall₂ (RestoredFrom owner) checkpoint.states restored) :
    (restored.map ControlRow.key).Nodup := by
  obtain ⟨back, owned⟩ := captured.owner
  rw [restored_keys related]
  refine List.Nodup.map_on ?_ (List.Nodup.of_map _ captured.tracked.distinct)
  intro one oneListed two twoListed same
  apply eq_of_key_eq captured.tracked.distinct oneListed twoListed
  rw [ControlRow.key, ControlRow.key, ContextSourceControlState.key,
    ContextSourceControlState.key, owned one oneListed, owned two twoListed,
    show one.state.sourceId = two.state.sourceId from congrArg Prod.snd same]

@[simp]
theorem ContextSourceControlState.tracksSkill_retired (state : ContextSourceControlState)
    (timestamp : String) : (state.retired timestamp).tracksSkill = false := by
  rw [tracksSkill, Bool.and_eq_false_iff]
  exact .inr rfl

@[simp]
theorem ContextSourceControlState.key_retired (state : ContextSourceControlState)
    (timestamp : String) : (state.retired timestamp).key = state.key :=
  rfl

def unknownTo (owner : ContextSourceOwnerKey) (known : List String) (row : ControlRow) : Bool :=
  row.state.owner = owner && !known.contains row.state.sourceId

/-- The table after the retirement of what came later. -/
def retireRows (owner : ContextSourceOwnerKey) (known : List String) (timestamp : String)
    (rows : List ControlRow) : List ControlRow :=
  updateWhere (unknownTo owner known)
    (fun row => { row with state := row.state.retired timestamp }) rows

theorem retireRows_kept (owner : ContextSourceOwnerKey) (known : List String)
    (timestamp : String) (rows : List ControlRow) :
    Kept rows (retireRows owner known timestamp rows) where
  tracked tracked := tracked.update (fun state => state.key_retired timestamp)
    (fun state skill => by rw [state.tracksSkill_retired] at skill; cases skill) fun _ => rfl
  advances key := by
    rw [retireRows, storedState_update fun state => state.key_retired timestamp, storedState]
    cases fetched : fetch ControlRow.key rows key with
    | none => exact .refl _
    | some row =>
      rw [Option.map_some, Option.map_some]
      split
      · refine .inr ⟨_, rfl, ?_⟩
        rintro _ ⟨⟩
        exact Nat.lt_succ_self _
      · exact .refl _

theorem retireRows_other {owner : ContextSourceOwnerKey} {known : List String}
    {timestamp : String} {rows : List ControlRow} {key : ContextSourceOwnerKey × String}
    (other : key.1 ≠ owner) :
    storedState (retireRows owner known timestamp rows) key = storedState rows key := by
  rw [retireRows, storedState_update fun state => state.key_retired timestamp, storedState]
  cases fetched : fetch ControlRow.key rows key with
  | none => rfl
  | some row =>
    have differs : row.state.owner ≠ owner := by
      rw [show row.state.owner = key.1 from congrArg Prod.fst (fetch_key fetched)]
      exact other
    simp [unknownTo, differs]

theorem retireRows_unknown {owner : ContextSourceOwnerKey} {known : List String}
    {timestamp : String} {rows : List ControlRow} {key : ContextSourceOwnerKey × String}
    {state : ContextSourceControlState} (owned : key.1 = owner) (unknown : key.2 ∉ known)
    (stored : storedState (retireRows owner known timestamp rows) key = some state) :
    state.tracksSkill = false := by
  rw [retireRows, storedState_update fun state => state.key_retired timestamp] at stored
  obtain ⟨row, fetched, rfl⟩ := Option.map_eq_some_iff.mp stored
  have matched : ControlRow.key row = key := fetch_key fetched
  have matched : (row.state.owner, row.state.sourceId) = key := matched
  have retires : unknownTo owner known row = true := by
    simp [unknownTo, ← owned, ← matched] at unknown ⊢
    exact unknown
  rw [if_pos retires]
  exact ContextSourceControlState.tracksSkill_retired ..

theorem Captured.restoreRows_kept {checkpoint : CheckpointSources} (captured : Captured checkpoint)
    {owner : ContextSourceOwnerKey} {restored : List ControlRow}
    (related : List.Forall₂ (RestoredFrom owner) checkpoint.states restored) {known : List String}
    (knownIds : (checkpoint.states.map fun row => row.state.sourceId) = known)
    (timestamp : String) (rows : List ControlRow) :
    let next := restored.foldl (restoreRow timestamp) (retireRows owner known timestamp rows)
    Kept rows next ∧ ∀ key, key.1 ≠ owner → storedState next key = storedState rows key := by
  obtain ⟨source, image⟩ := mem_restored related
  have distinct := captured.restored_distinct related
  have retires := retireRows_kept owner known timestamp rows
  -- A source comes back, or it is as the retirement left it.
  have outcome (key : ContextSourceOwnerKey × String) :
      (∃ row ∈ restored, row.key = key ∧ BroughtBack (retireRows owner known timestamp rows)
        (restored.foldl (restoreRow timestamp) (retireRows owner known timestamp rows)) row) ∨
      (∀ row ∈ restored, key ≠ row.key) := by
    by_cases named : ∃ row ∈ restored, row.key = key
    · obtain ⟨row, listed, same⟩ := named
      exact .inl ⟨row, listed, same, restoreRows_stored distinct row listed⟩
    · exact .inr fun row listed same => named ⟨row, listed, same.symm⟩
  -- The owner's sources that do not come back are no longer tracked.
  have untracked {key : ContextSourceOwnerKey × String} {state : ContextSourceControlState}
      (owned : key.1 = owner) (unnamed : ∀ row ∈ restored, key ≠ row.key)
      (stored : storedState (retireRows owner known timestamp rows) key = some state) :
      state.tracksSkill = false := by
    refine retireRows_unknown owned (fun listed => ?_) stored
    rw [← knownIds] at listed
    obtain ⟨earlier, member, same⟩ := List.mem_map.mp listed
    obtain ⟨row, listed, back⟩ := image earlier member
    refine unnamed row listed ?_
    rw [back.key, ← owned, same]
  refine ⟨⟨fun tracked => ⟨restoreRows_distinct (retires.tracked tracked).distinct, ?_⟩,
    fun key => ?_⟩, fun key other => ?_⟩
  · intro one two first second firstStored secondStored same
    have owners : one.1 = two.1 := by
      rw [← storedState_key firstStored, ← storedState_key secondStored]
      exact same.owner
    rcases outcome one with ⟨firstRow, firstListed, rfl, state, stored, firstSkill, -⟩ | firstUnnamed
    · cases stored.symm.trans firstStored
      obtain ⟨firstEarlier, firstMember, firstBack⟩ := source firstRow firstListed
      have owned : (ControlRow.key firstRow).1 = owner := congrArg Prod.fst firstBack.key
      rcases outcome two with
        ⟨secondRow, secondListed, rfl, state, stored, secondSkill, -⟩ | secondUnnamed
      · cases stored.symm.trans secondStored
        obtain ⟨secondEarlier, secondMember, secondBack⟩ := source secondRow secondListed
        obtain ⟨captor, capturedBy⟩ := captured.owner
        have rows : firstEarlier = secondEarlier := by
          refine captured.tracked.rows firstMember secondMember ⟨?_, ?_, ?_, ?_⟩
          · rw [capturedBy _ firstMember, capturedBy _ secondMember]
          · rw [← firstBack.restores.name, ← firstSkill.name, same.name, secondSkill.name,
              secondBack.restores.name]
          · rw [← firstBack.restores.skill, ← firstSkill.skill]
            exact same.first
          · rw [← secondBack.restores.skill, ← secondSkill.skill]
            exact same.second
        rw [firstBack.key, secondBack.key, rows]
      · rw [restoreRows_other secondUnnamed] at secondStored
        have released := untracked (owners ▸ owned) secondUnnamed secondStored
        rw [same.second] at released
        cases released
    · rw [restoreRows_other firstUnnamed] at firstStored
      rcases outcome two with
        ⟨secondRow, secondListed, rfl, state, stored, secondSkill, -⟩ | secondUnnamed
      · obtain ⟨secondEarlier, -, secondBack⟩ := source secondRow secondListed
        have owned : one.1 = owner := owners.trans (congrArg Prod.fst secondBack.key)
        have released := untracked owned firstUnnamed firstStored
        rw [same.first] at released
        cases released
      · rw [restoreRows_other secondUnnamed] at secondStored
        exact (retires.tracked tracked).once firstStored secondStored same
  · refine (retires.advances key).trans ?_
    rcases outcome key with ⟨row, -, rfl, state, stored, -, newer⟩ | unnamed
    · exact .inr ⟨state, stored, newer⟩
    · rw [restoreRows_other unnamed]
      exact .refl _
  · rcases outcome key with ⟨row, listed, rfl, -⟩ | unnamed
    · obtain ⟨earlier, -, back⟩ := source row listed
      exact absurd (congrArg Prod.fst back.key) other
    · rw [restoreRows_other unnamed, retireRows_other other]

theorem restoreCheckpointContextSources_ok {rows next : List ControlRow}
    {checkpoints : List CheckpointSources} {checkpointId : String}
    {owner : ContextSourceOwnerKey} {visible : String → Option String} {timestamp : String}
    (captured : ∀ checkpoint ∈ checkpoints, Captured checkpoint)
    (restored : restoreCheckpointContextSources rows checkpoints checkpointId owner visible
      timestamp = .ok next) :
    Kept rows next ∧ ∀ key, key.1 ≠ owner → storedState next key = storedState rows key := by
  unfold restoreCheckpointContextSources at restored
  split at restored
  · cases restored
  rename_i checkpoint found
  obtain ⟨back, built, stored⟩ := bind_ok restored
  cases stored
  exact (captured checkpoint (List.mem_of_find?_eq_some found)).restoreRows_kept
    (restored_from built) rfl timestamp rows

structure StoreSound (store : ContextSourceStore) : Prop where
  tracked : TrackedOnce store.rows
  captured : ∀ checkpoint ∈ store.checkpoints, Captured checkpoint

def Shows : SourceCommand → ContextSourceOwnerKey × String → Prop
  | .sealSources owner _ sources _, key => ∃ source ∈ sources, key = (owner, source.sourceId)
  | .restore _ owner _ _, key => key.1 = owner
  | _, _ => False

theorem TrackedOnce.filter {rows : List ControlRow} (tracked : TrackedOnce rows)
    (owner : ContextSourceOwnerKey) :
    TrackedOnce (rows.filter fun row => row.state.owner = owner) := by
  have before {key : ContextSourceOwnerKey × String} {state : ContextSourceControlState}
      (stored : storedState (rows.filter fun row => row.state.owner = owner) key = some state) :
      storedState rows key = some state := by
    have same (first second : ControlRow) (keys : first.key = second.key) :
        decide (first.state.owner = owner) = decide (second.state.owner = owner) := by
      rw [show first.state.owner = second.state.owner from congrArg Prod.fst keys]
    rw [storedState, fetch_filter same] at stored
    obtain ⟨row, kept, rfl⟩ := Option.map_eq_some_iff.mp stored
    rw [storedState, (Option.filter_eq_some_iff.mp kept).1]
    rfl
  constructor
  · exact tracked.distinct.sublist (List.filter_sublist.map _)
  · intro one two first second firstStored secondStored same
    exact tracked.once (before firstStored) (before secondStored) same

theorem captureCheckpointContextSources_ok {rows : List ControlRow}
    {checkpoints next : List CheckpointSources} {checkpointId : String}
    {owner : ContextSourceOwnerKey} (tracked : TrackedOnce rows)
    (captured : ∀ checkpoint ∈ checkpoints, Captured checkpoint)
    (applied : captureCheckpointContextSources rows checkpoints checkpointId owner = .ok next) :
    ∀ checkpoint ∈ next, Captured checkpoint := by
  unfold captureCheckpointContextSources at applied
  split at applied
  · cases applied
  cases applied
  intro checkpoint listed
  rcases List.mem_append.mp listed with earlier | new
  · exact captured checkpoint earlier
  · cases List.mem_singleton.mp new
    refine ⟨tracked.filter owner, owner, fun row member => ?_⟩
    simpa using (List.mem_filter.mp member).2

theorem visibleRevision_congr {rows next : List ControlRow}
    {key : ContextSourceOwnerKey × String} (same : storedState next key = storedState rows key) :
    visibleRevision next key = visibleRevision rows key := by
  rw [visibleRevision, same, visibleRevision]

structure Stepped (store : ContextSourceStore) (command : SourceCommand)
    (next : ContextSourceStore) : Prop where
  sound : StoreSound next
  advances : ∀ key, Advances (storedState store.rows key) (storedState next.rows key)
  shows : ∀ key, visibleRevision next.rows key ≠ visibleRevision store.rows key →
    Shows command key

namespace ContextSourceStore

theorem apply_mutate {store next : ContextSourceStore} {mutation : ContextSourceControlMutation}
    {frozenAt now : String} {receipt : Option ContextSourceControlReceipt}
    (applied : store.apply (.mutate mutation frozenAt now) = .ok (receipt, next)) :
    ∃ first rows, receipt = some first ∧ next = { store with rows } ∧
      Applied store.rows mutation first rows := by
  obtain ⟨⟨first, rows⟩, changed, built⟩ := bind_ok applied
  cases built
  exact ⟨first, rows, rfl, rfl, applyContextSourceControlMutation_ok changed⟩

theorem apply_stepped {store next : ContextSourceStore} {command : SourceCommand}
    {receipt : Option ContextSourceControlReceipt} (sound : StoreSound store)
    (applied : store.apply command = .ok (receipt, next)) : Stepped store command next := by
  have built {rows : List ControlRow} (kept : Kept store.rows rows)
      (shows : ∀ key, visibleRevision rows key ≠ visibleRevision store.rows key →
        Shows command key) : Stepped store command { store with rows } :=
    ⟨⟨kept.tracked sound.tracked, sound.captured⟩, kept.advances, shows⟩
  cases command with
  | mutate mutation frozenAt now =>
    obtain ⟨first, rows, -, rfl, changed⟩ := apply_mutate applied
    exact built changed.kept fun key differs => absurd (changed.visibleRevision key) differs
  | decide decision itemAccepted now =>
    obtain ⟨rows, decided, stored⟩ := bind_ok applied
    cases stored
    rcases applySourceLifecycleDecision_ok decided with rfl | ⟨state, result, written⟩
    · exact built (.refl _) fun key differs => absurd rfl differs
    · exact built written.kept fun key differs => absurd (written.visibleRevision key) differs
  | sealSources owner consumedTransition sources now =>
    obtain ⟨rows, sealed, stored⟩ := bind_ok applied
    cases stored
    obtain ⟨kept, others⟩ := applySealedContextSources_ok sealed
    refine built kept fun key differs => ?_
    by_contra unnamed
    exact differs (visibleRevision_congr (others key fun source listed same =>
      unnamed ⟨source, listed, same⟩))
  | capture checkpointId owner =>
    obtain ⟨checkpoints, captured, stored⟩ := bind_ok applied
    cases stored
    exact ⟨⟨sound.tracked, captureCheckpointContextSources_ok sound.tracked sound.captured
      captured⟩, fun _ => .refl _, fun key differs => absurd rfl differs⟩
  | restore checkpointId owner visible timestamp =>
    obtain ⟨rows, restored, stored⟩ := bind_ok applied
    cases stored
    obtain ⟨kept, others⟩ := restoreCheckpointContextSources_ok sound.captured restored
    refine built kept fun key differs => ?_
    by_contra other
    exact differs (visibleRevision_congr (others key other))

theorem step_stepped {store : ContextSourceStore} (sound : StoreSound store)
    (command : SourceCommand) : Stepped store command (store.step command) := by
  rw [step]
  split
  · rename_i applied
    exact apply_stepped sound applied
  · exact ⟨sound, fun _ => .refl _, fun key differs => absurd rfl differs⟩

theorem run_sound {store : ContextSourceStore} (sound : StoreSound store)
    (commands : List SourceCommand) : StoreSound (store.run commands) := by
  induction commands generalizing store with
  | nil => exact sound
  | cons command commands ih => exact ih (step_stepped sound command).sound

theorem run_advances {store : ContextSourceStore} (sound : StoreSound store)
    (commands : List SourceCommand) (key : ContextSourceOwnerKey × String) :
    Advances (storedState store.rows key) (storedState (store.run commands).rows key) := by
  induction commands generalizing store with
  | nil => exact .refl _
  | cons command commands ih =>
    have stepped := step_stepped sound command
    exact (stepped.advances key).trans (ih stepped.sound)

end ContextSourceStore

structure MutationKept (store : ContextSourceStore) (mutation : ContextSourceControlMutation)
    (receipt : ContextSourceControlReceipt) (next : ContextSourceStore) : Prop where
  stale : storedRevision store.rows mutation.state.key ≠ mutation.state.stateRevision →
    next = store
  staleReplaced : ∀ replaced, mutation.replacedState = some replaced →
    storedRevision store.rows replaced.key ≠ replaced.stateRevision → next = store
  moves : ∀ replaced, mutation.replacedState = some replaced →
    MovesTracking store.rows next.rows replaced.key mutation.state.key
  repeated : ∀ frozenAt now, next.apply (.mutate mutation frozenAt now) = .ok (some receipt, next)
  repeatedLater : mutation.state.stateRevision ≤ receipt.state.stateRevision →
    ∀ later frozenAt now again last,
      (next.run later).apply (.mutate mutation frozenAt now) = .ok (some again, last) →
        last = next.run later ∧
          storedState (next.run later).rows mutation.state.key = some again.state

structure RunKept (store : ContextSourceStore) : Prop where
  tracked : ∀ first ∈ store.rows, ∀ second ∈ store.rows,
    SameTrackedSkill first.state second.state → first = second
  advances : ∀ later key,
    Advances (storedState store.rows key) (storedState (store.run later).rows key)
  shows : ∀ command key, visibleRevision (store.step command).rows key ≠
    visibleRevision store.rows key → Shows command key
  mutations : ∀ mutation frozenAt now receipt next,
    store.apply (.mutate mutation frozenAt now) = .ok (some receipt, next) →
      MutationKept store mutation receipt next

namespace ContextSourceStore

theorem apply_mutate_kept {store next : ContextSourceStore}
    {mutation : ContextSourceControlMutation} {frozenAt now : String}
    {receipt : ContextSourceControlReceipt} (sound : StoreSound store)
    (applied : store.apply (.mutate mutation frozenAt now) = .ok (some receipt, next)) :
    MutationKept store mutation receipt next := by
  have reached := (apply_stepped sound applied).sound
  obtain ⟨first, rows, same, rfl, changed⟩ := apply_mutate applied
  cases same
  constructor
  · intro older
    rw [changed.stale older]
  · intro replaced rebind older
    rw [changed.staleReplaced rebind older]
  · intro replaced rebind
    exact changed.movesTracking rebind
  · intro frozenAgain nowAgain
    simp only [apply, changed.repeats sound.tracked frozenAgain nowAgain]
    rfl
  · intro prepared later frozenAgain nowAgain again last repeated
    obtain ⟨answer, after, same, rfl, changedAgain⟩ := apply_mutate repeated
    cases same
    have unchanged := changed.repeats_later prepared (run_advances reached later _) changedAgain
    refine ⟨by rw [unchanged], ?_⟩
    rw [← unchanged]
    exact changedAgain.stored.1

/-- In every run, names of tracked skills stay unique, revisions only advance, only
seals and restores show a revision, and mutations are safe to repeat. -/
theorem run_kept (earlier : List SourceCommand) :
    RunKept (ContextSourceStore.run {} earlier) := by
  have sound : StoreSound (ContextSourceStore.run {} earlier) :=
    run_sound ⟨.empty, by simp⟩ earlier
  exact ⟨fun _ firstListed _ secondListed same =>
      sound.tracked.rows firstListed secondListed same,
    run_advances sound, fun command => (step_stepped sound command).shows,
    fun _ _ _ _ _ applied => apply_mutate_kept sound applied⟩

end ContextSourceStore

def reviewSkill (trackingStatus : ContextSourceTrackingStatus) (stateRevision : Nat) :
    ContextSourceControlState where
  owner := ⟨"s", "main"⟩
  sourceId := "skill:review"
  sourceKind := "skill"
  name := "review"
  bindingRevision := none
  trackingStatus
  latestVisibleCommittedRevision := none
  latestRevision := none
  stateRevision
  applied := none_applied

def trackReview : ContextSourceControlMutation where
  operation := .track
  state := reviewSkill .tracked 0

def untrackReview : ContextSourceControlMutation where
  operation := .untrack
  state := reviewSkill .untracked 1

def trackReviewAgain : ContextSourceControlMutation where
  operation := .track
  state := reviewSkill .tracked 2

def reviewDecision (kind : SourceDecisionKind) (trackingStatus : ContextSourceTrackingStatus) :
    SourceLifecycleDecision where
  owner := ⟨"s", "main"⟩
  sourceId := "skill:review"
  sourceKind := "skill"
  name := "review"
  decisionKind := kind
  revision := none
  trackingStatus := some trackingStatus

/-- The first mutation answers with revision one, and after two others with revision
three; a repeated decision writes over the decision that came after it. -/
theorem repetition_sees_later_rows :
    let receipt (earlier : List SourceCommand) :=
      ((ContextSourceStore.run {} earlier).apply (.mutate trackReview "t" "t")).toOption.bind
        fun answer => answer.1.map fun receipt => receipt.state.stateRevision
    let tracked (commands : List SourceCommand) :=
      (storedState (ContextSourceStore.run {} commands).rows (⟨"s", "main"⟩, "skill:review")).map
        fun state => (state.trackingStatus, state.stateRevision)
    receipt [] = some 1 ∧
      receipt [.mutate trackReview "t" "t", .mutate untrackReview "t" "t",
        .mutate trackReviewAgain "t" "t"] = some 3 ∧
      tracked [.decide (reviewDecision .track .tracked) true "t",
        .decide (reviewDecision .untrack .untracked) true "t"] = some (.untracked, 2) ∧
      tracked [.decide (reviewDecision .track .tracked) true "t",
        .decide (reviewDecision .untrack .untracked) true "t",
        .decide (reviewDecision .track .tracked) true "t"] = some (.tracked, 3) := by
  decide +kernel

end GraphAgent.ContextSources
