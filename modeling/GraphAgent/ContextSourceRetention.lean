import GraphAgent.ContextSourceRewinds

/-!
# Rewinding the sources of a thread

From the boundary that freezes a cut to the control states after the restore: what is
kept is decided by the position at which a source was injected and the place of the
cut in the view, and each untracked source shows the last revision that is kept.
-/

namespace GraphAgent.ContextSources

structure BoundaryFrozen (tables later : CutTables) (payload : BoundaryPayload)
    (pending : EpochTransition) : Prop where
  accepted : contextSourceBoundaryCut tables pending.reason pending.targetViewId payload =
    .ok (pending.canonicalCutKind, pending.canonicalCutItemId)
  bound : ∃ control, boundaryControl later pending = .ok control ∧ control.payload = payload
  view : ∀ view, payload.sourceViewId = some view → later.ordinals view = tables.ordinals view

def sourceOrdinals (tables : CutTables) (payload : BoundaryPayload) : Dictionary String Nat :=
  tables.ordinals (payload.sourceViewId.getD "")

section Retention

variable {tables later : CutTables} {payload : BoundaryPayload} {pending : EpochTransition}
  {states : List ControlRow} {assembly : SourceAssembly} {retained : List (String × String)}
  {refId revision : String}

def KeepsBefore (later : CutTables) (states : List ControlRow) (assembly : SourceAssembly)
    (ordinals : Dictionary String Nat) (cut : Option String) (retained : List (String × String)) :
    Prop :=
  ∀ refId revision, (refId, revision) ∈ retained ↔
    SealedUntracked states assembly refId revision ∧
      ∃ frontier, frontierOf later states assembly refId = some frontier ∧
        LiesBefore ordinals cut frontier

theorem keepsBefore_complete (recorded : Recorded later states assembly)
    (ordinals : Dictionary String Nat) :
    KeepsBefore later states assembly ordinals none (assembly.candidates states).entries := by
  intro refId revision
  rw [← Dictionary.lookup_eq_some, lookup_candidates]
  constructor
  · intro sealedHere
    obtain ⟨frontier, found, -⟩ := recorded refId revision sealedHere
    refine ⟨sealedHere, frontier, found, ?_⟩
    rintro anchor ⟨⟩
  · exact And.left

theorem keepsBefore_partial {ordinals : Dictionary String Nat} {anchor : String} {place : Nat}
    (placed : ordinals.lookup anchor = some place)
    (kept : keepBefore ordinals place (assembly.candidates states)
      (recordedFrontiers later assembly (assembly.candidates states)).entries = .ok retained) :
    KeepsBefore later states assembly ordinals (some anchor) retained := by
  intro refId revision
  rw [mem_keepBefore kept, lookup_candidates]
  constructor
  · rintro ⟨sealedHere, frontier, listed, before⟩
    refine ⟨sealedHere, frontier, Dictionary.lookup_eq_some.mpr listed, ?_⟩
    rintro _ ⟨⟩
    rcases before with start | ⟨position, found, before⟩
    · exact .inl start
    · exact .inr ⟨position, place, found, placed, before⟩
  · rintro ⟨sealedHere, frontier, found, before⟩
    refine ⟨sealedHere, frontier, Dictionary.lookup_eq_some.mp found, ?_⟩
    rcases before anchor rfl with start | ⟨position, anchorPlace, found, same, before⟩
    · exact .inl start
    · cases placed.symm.trans same
      exact .inr ⟨position, found, before⟩

theorem BoundaryFrozen.keepsBefore (frozen : BoundaryFrozen tables later payload pending)
    (states : List ControlRow) (assembly : SourceAssembly) :
    ((∃ retained, retainedContextSourceRefs later pending states (some assembly) =
        .ok retained) ↔
      Recorded later states assembly ∧ (pending.canonicalCutItemId.isSome →
        PlacedIn (sourceOrdinals tables payload) later states assembly)) ∧
      ∀ retained, retainedContextSourceRefs later pending states (some assembly) =
        .ok retained →
          KeepsBefore later states assembly (sourceOrdinals tables payload)
            pending.canonicalCutItemId retained := by
  obtain ⟨control, bound, rfl⟩ := frozen.bound
  obtain ⟨-, stored⟩ := contextSourceBoundaryCut_ok frozen.accepted
  rcases stored with
    ⟨kind, item⟩ | ⟨kind, view, anchor, place, source, named, item, anchored, found⟩
  · obtain ⟨returns, entries⟩ := retained_complete states assembly bound kind item
    rw [returns, item]
    refine ⟨⟨fun recorded => ⟨recorded, nofun⟩, And.left⟩, ?_⟩
    intro retained kept
    rw [entries retained kept]
    exact keepsBefore_complete (returns.mp ⟨retained, kept⟩) _
  · have same : later.ordinals view = sourceOrdinals tables control.payload := by
      rw [frozen.view view source, sourceOrdinals, source]
      rfl
    have placed : (later.ordinals view).lookup anchor = some place := by
      rw [frozen.view view source]
      exact found
    have runs := retained_partial states assembly bound kind item anchored source named placed
    rw [same] at runs placed
    rw [runs, item, recorded_iff]
    split
    · rename_i missing
      refine ⟨⟨by rintro ⟨_, ⟨⟩⟩, fun recorded => absurd missing recorded.1⟩, by rintro _ ⟨⟩⟩
    · rename_i recorded
      refine ⟨?_, fun retained kept => keepsBefore_partial placed kept⟩
      rw [keepBefore_returns]
      constructor
      · intro all
        exact ⟨recorded, fun _ refId frontier located =>
          all _ (Dictionary.lookup_eq_some.mp located)⟩
      · rintro ⟨-, all⟩ ⟨refId, frontier⟩ listed
        exact all rfl refId frontier (Dictionary.lookup_eq_some.mpr listed)

def NotAfter (ordinals : Dictionary String Nat) (cut other : Option String) : Prop :=
  ∀ anchor, other = some anchor → ∃ earlier place anchorPlace, cut = some earlier ∧
    ordinals.lookup earlier = some place ∧ ordinals.lookup anchor = some anchorPlace ∧
    place ≤ anchorPlace

theorem LiesBefore.of_notAfter {ordinals : Dictionary String Nat} {cut other : Option String}
    {frontier : Option String × Option String} (before : LiesBefore ordinals cut frontier)
    (ordered : NotAfter ordinals cut other) : LiesBefore ordinals other frontier := by
  intro anchor same
  obtain ⟨earlier, place, anchorPlace, cutEq, found, anchored, le⟩ := ordered anchor same
  rcases before earlier cutEq with start | ⟨position, earlierPlace, located, again, before⟩
  · exact .inl start
  · cases found.symm.trans again
    exact .inr ⟨position, anchorPlace, located, anchored, Nat.lt_of_lt_of_le before le⟩

theorem frontierOf_congr (same : later.selections = tables.selections) :
    frontierOf later states assembly refId = frontierOf tables states assembly refId := by
  unfold frontierOf recordedFrontiers
  rw [same]

theorem KeepsBefore.grows {ordinals : Dictionary String Nat} {cut other : Option String}
    {more : List (String × String)}
    (kept : KeepsBefore later states assembly ordinals cut retained)
    (keptLater : KeepsBefore tables states assembly ordinals other more)
    (same : tables.selections = later.selections) (ordered : NotAfter ordinals cut other) :
    retained ⊆ more := by
  rintro ⟨refId, revision⟩ member
  obtain ⟨sealedHere, frontier, found, before⟩ := (kept refId revision).mp member
  exact (keptLater refId revision).mpr
    ⟨sealedHere, frontier, by rw [frontierOf_congr same, found], before.of_notAfter ordered⟩

end Retention

/-- The revision that was injected last of those that are kept. -/
def lastRetained (frozen : Dictionary String SourceIdentity) (retained : List (String × String))
    (sourceId : String) : Option String :=
  ((frozen.entries.filter fun entry =>
    entry.2.1 = sourceId && decide ((entry.1, entry.2.2) ∈ retained)).getLast?).map fun entry =>
      entry.2.2

theorem visibleRevisions_lookup (frozen : Dictionary String SourceIdentity)
    (retained : List (String × String)) (sourceId : String) :
    (visibleRevisions frozen retained).lookup sourceId = lastRetained frozen retained sourceId := by
  have same : ∀ entries : List (String × SourceIdentity),
      (entries.filterMap fun entry =>
        if (entry.1, entry.2.2) ∈ retained then some entry.2 else none).filter
          (fun identity => identity.1 = sourceId) =
        (entries.filter fun entry =>
          entry.2.1 = sourceId && decide ((entry.1, entry.2.2) ∈ retained)).map Prod.snd := by
    intro entries
    induction entries with
    | nil => rfl
    | cons entry entries ih =>
      by_cases kept : (entry.1, entry.2.2) ∈ retained
      · by_cases named : entry.2.1 = sourceId
        · simp [kept, named, ih]
        · simp [kept, named, ih]
      · simp [kept, ih]
  unfold visibleRevisions lastRetained
  rw [Dictionary.lookup_ofList, same, List.getLast?_map, Option.map_map]
  rfl

section Restore

open KeyedRows Transaction

variable {rows next restored : List ControlRow} {row : ControlRow} {timestamp : String}
  {owner : ContextSourceOwnerKey} {visible : String → Option String}

theorem restoreRow_own :
    storedState (restoreRow timestamp rows row) row.key =
      some (match storedState rows row.key with
        | none => row.state
        | some current => { row.state with
            stateRevision := max current.stateRevision row.state.stateRevision + 1
            updatedAt := some timestamp }) := by
  rw [storedState, restoreRow, fetch_upsert]
  · rw [if_pos rfl, storedState]
    cases fetch ControlRow.key rows row.key with
    | none => rfl
    | some current => rfl
  · intro _ _
    rfl

theorem restoreRows_own (distinct : (restored.map ControlRow.key).Nodup) (member : row ∈ restored) :
    storedState (restored.foldl (restoreRow timestamp) rows) row.key =
      storedState (restoreRow timestamp rows row) row.key := by
  induction restored generalizing rows with
  | nil => cases member
  | cons first restored ih =>
    rw [List.map_cons, List.nodup_cons] at distinct
    rw [List.foldl_cons]
    rcases List.mem_cons.mp member with rfl | later
    · apply restoreRows_other
      intro other listed same
      exact distinct.1 (same ▸ List.mem_map_of_mem listed)
    · have different : row.key ≠ first.key := by
        intro same
        exact distinct.1 (same ▸ List.mem_map_of_mem later)
      rw [ih distinct.2 later, restoreRow_own, restoreRow_own, restoreRow_other different]

structure ShownAfter (rows next : List ControlRow) (owner : ContextSourceOwnerKey)
    (visible : String → Option String) (row : ControlRow) : Prop where
  stored : ∃ state, storedState next (owner, row.state.sourceId) = some state ∧
    state.trackingStatus = row.state.trackingStatus ∧
    state.latestVisibleCommittedRevision =
      (if row.state.trackingStatus = .untracked then visible row.state.sourceId
        else row.state.latestVisibleCommittedRevision) ∧
    ∀ before, storedState rows (owner, row.state.sourceId) = some before →
      before.stateRevision < state.stateRevision

def Retired (rows next : List ControlRow) (key : ContextSourceOwnerKey × String) : Prop :=
  ∀ state, storedState next key = some state →
    state.trackingStatus = .untracked ∧ state.latestVisibleCommittedRevision = none ∧
      ∃ before, storedState rows key = some before ∧ before.stateRevision < state.stateRevision

theorem restoredState_shows {earlier : ControlRow}
    (built : restoredState owner visible earlier = .ok row) :
    row.key = (owner, earlier.state.sourceId) ∧
      row.state.trackingStatus = earlier.state.trackingStatus ∧
      row.state.latestVisibleCommittedRevision =
        if earlier.state.trackingStatus = .untracked then visible earlier.state.sourceId
        else earlier.state.latestVisibleCommittedRevision := by
  unfold restoredState at built
  generalize (if earlier.state.trackingStatus = .untracked then visible earlier.state.sourceId
    else earlier.state.latestVisibleCommittedRevision) = shown at built ⊢
  dsimp only at built
  split at built
  · cases built
    exact ⟨rfl, rfl, rfl⟩
  · cases built

theorem retireRows_known {known : List String} {key : ContextSourceOwnerKey × String}
    (listed : key.2 ∈ known) :
    storedState (retireRows owner known timestamp rows) key = storedState rows key := by
  rw [retireRows, storedState_update fun state => state.key_retired timestamp, storedState]
  cases fetched : fetch ControlRow.key rows key with
  | none => rfl
  | some row =>
    have named : row.state.sourceId = key.2 := congrArg Prod.snd (fetch_key fetched)
    have unaffected : unknownTo owner known row = false := by
      simp [unknownTo, named, listed]
    rw [Option.map_some, Option.map_some, unaffected]
    rfl

theorem retireRows_retired {known : List String} {key : ContextSourceOwnerKey × String}
    (owned : key.1 = owner) (unknown : key.2 ∉ known) :
    Retired rows (retireRows owner known timestamp rows) key := by
  intro state stored
  rw [retireRows, storedState_update fun state => state.key_retired timestamp] at stored
  obtain ⟨row, fetched, rfl⟩ := Option.map_eq_some_iff.mp stored
  have ownedBy : row.state.owner = key.1 := congrArg Prod.fst (fetch_key fetched)
  have named : row.state.sourceId = key.2 := congrArg Prod.snd (fetch_key fetched)
  have affected : unknownTo owner known row = true := by
    simp [unknownTo, ownedBy, owned, named, unknown]
  rw [if_pos affected]
  refine ⟨rfl, rfl, row.state, ?_, Nat.lt_succ_self _⟩
  rw [storedState, fetched]
  rfl

theorem image_of_forall₂ {Earlier Later : Type} {related : Earlier → Later → Prop}
    {earlier : List Earlier} {later : List Later} (pairs : List.Forall₂ related earlier later) :
    ∀ value ∈ earlier, ∃ result ∈ later, related value result := by
  induction pairs with
  | nil => simp
  | cons first _ ih =>
    intro value member
    rcases List.mem_cons.mp member with rfl | member
    · exact ⟨_, List.mem_cons_self .., first⟩
    · obtain ⟨result, listed, built⟩ := ih value member
      exact ⟨result, List.mem_cons_of_mem _ listed, built⟩

theorem restoreCheckpointContextSources_shows {checkpoints : List CheckpointSources}
    {checkpoint : CheckpointSources} {checkpointId : String}
    (found : (checkpoints.find? fun checkpoint => checkpoint.checkpointId = checkpointId) =
      some checkpoint)
    (distinct : (checkpoint.states.map fun row => row.state.sourceId).Nodup)
    (done : restoreCheckpointContextSources rows checkpoints checkpointId owner visible
      timestamp = .ok next) :
    (∀ row ∈ checkpoint.states, ShownAfter rows next owner visible row) ∧
      ∀ sourceId, sourceId ∉ checkpoint.states.map (fun row => row.state.sourceId) →
        Retired rows next (owner, sourceId) := by
  unfold restoreCheckpointContextSources at done
  rw [found] at done
  obtain ⟨back, built, stored⟩ := bind_ok done
  cases stored
  have keys := restored_keys (restored_from built)
  have backDistinct : (back.map ControlRow.key).Nodup := by
    rw [keys]
    refine (List.Nodup.of_map Prod.snd ?_)
    rw [List.map_map]
    exact distinct
  constructor
  · intro row member
    obtain ⟨shown, listed, builtHere⟩ := image_of_forall₂ (mapM_ok built) row member
    obtain ⟨key, tracking, visibleHere⟩ := restoredState_shows builtHere
    have known : (owner, row.state.sourceId).2 ∈
        checkpoint.states.map fun row => row.state.sourceId := List.mem_map_of_mem member
    have same : storedState (back.foldl (restoreRow timestamp) (retireRows owner
        (checkpoint.states.map fun row => row.state.sourceId) timestamp rows)) shown.key = _ :=
      restoreRows_own backDistinct listed
    rw [restoreRow_own, key, retireRows_known known] at same
    constructor
    refine ⟨_, same, ?_, ?_, ?_⟩
    · cases storedState rows (owner, row.state.sourceId) <;> exact tracking
    · cases storedState rows (owner, row.state.sourceId) <;> exact visibleHere
    · intro before read
      rw [read]
      exact Nat.lt_succ_of_le (Nat.le_max_left ..)
  · intro sourceId unknown state stored
    have unnamed : ∀ row ∈ back, (owner, sourceId) ≠ ControlRow.key row := by
      intro row listed same
      have key : ControlRow.key row ∈ back.map ControlRow.key := List.mem_map_of_mem listed
      rw [keys, ← same] at key
      obtain ⟨earlier, member, equal⟩ := List.mem_map.mp key
      exact unknown (List.mem_map.mpr ⟨earlier, member, congrArg Prod.snd equal⟩)
    have kept : storedState (back.foldl (restoreRow timestamp) (retireRows owner
        (checkpoint.states.map fun row => row.state.sourceId) timestamp rows)) (owner, sourceId) =
          _ := restoreRows_other unnamed
    exact retireRows_retired rfl unknown state (kept.symm.trans stored)

end Restore

section Frozen

variable {assembly : SourceAssembly} {sources frozen : Dictionary String SourceIdentity}
  {states : List ControlRow} {refId revision sourceId : String}

def Selected (assembly : SourceAssembly) (sources : Dictionary String SourceIdentity) : Prop :=
  ∀ refId identity, sources.lookup refId = some identity →
    assembly.selected.lookup refId = some identity

theorem Selected.insert {identity : SourceIdentity} (selected : Selected assembly sources)
    (named : assembly.selected.lookup refId = some identity) :
    Selected assembly (sources.insert refId identity) := by
  intro other found stored
  rw [Dictionary.lookup_insert] at stored
  split at stored
  · rename_i same
    cases stored
    rw [← same]
    exact named
  · exact selected other found stored

theorem freezeRoots_selected {provenances : List SourceIdentity}
    (selected : Selected assembly sources)
    (done : freezeRoots assembly sources provenances = .ok frozen) : Selected assembly frozen := by
  induction provenances generalizing sources with
  | nil =>
    cases done
    exact selected
  | cons provenance rest ih =>
    unfold freezeRoots at done
    split at done
    · rename_i entry only
      apply ih _ done
      apply selected.insert
      have member : entry ∈ assembly.selected.entries.filter fun entry =>
          entry.2 = provenance && assembly.rootEligible entry.1 := by
        rw [only]
        exact List.mem_singleton_self entry
      exact Dictionary.lookup_eq_some.mpr (List.mem_filter.mp member).1
    · cases done

theorem freezeFrames_selected {frames : List PrefixFrame} (selected : Selected assembly sources)
    (done : freezeFrames assembly sources frames = .ok frozen) : Selected assembly frozen := by
  induction frames generalizing sources with
  | nil =>
    cases done
    exact selected
  | cons frame rest ih =>
    unfold freezeFrames at done
    split at done
    · exact ih selected done
    · split at done
      · cases done
      · rename_i matching
        rw [not_or, not_or, not_not, not_not] at matching
        exact ih (selected.insert matching.2.1) done

theorem frozenSourceRefs_lookup {identity : SourceIdentity} (bound : assembly.binding.isSome)
    (policy : assembly.summaryCandidate = false) (done : frozenSourceRefs assembly = .ok frozen)
    (named : assembly.selected.lookup refId = some identity) :
    frozen.lookup refId = some identity := by
  obtain ⟨binding, present⟩ := Option.isSome_iff_exists.mp bound
  unfold frozenSourceRefs at done
  rw [present] at done
  simp only [policy, Bool.false_eq_true, if_false] at done
  obtain ⟨roots, rooted, done⟩ := Transaction.bind_ok done
  obtain ⟨sources, framed, done⟩ := Transaction.bind_ok done
  split at done
  · rename_i complete
    cases done
    have selected : Selected assembly frozen := by
      apply freezeFrames_selected _ framed
      apply freezeRoots_selected _ rooted
      intro refId identity stored
      cases stored
    have has := List.all_eq_true.mp complete.2 _ (Dictionary.lookup_eq_some.mp named)
    obtain ⟨found, stored⟩ := Option.isSome_iff_exists.mp has
    rw [stored, ← selected refId found stored, named]
  · cases done

theorem selected_of_injected {entry : SourceSelection} {identity : SourceIdentity}
    (member : entry ∈ assembly.selection) (injects : assembly.injected entry = some identity) :
    assembly.selected.lookup entry.refId = some identity := by
  unfold SourceAssembly.selected
  rw [Dictionary.lookup_ofList_iff]
  · rw [List.mem_filterMap]
    exact ⟨entry, member, by rw [injects]; rfl⟩
  · have keys : (assembly.selection.filterMap fun entry =>
        (assembly.injected entry).map fun identity => (entry.refId, identity)).map Prod.fst =
          (assembly.selection.filter fun entry => (assembly.injected entry).isSome).map
            SourceSelection.refId := by
      induction assembly.selection with
      | nil => rfl
      | cons first rest ih => cases found : assembly.injected first <;> simp [found, ih]
    rw [keys]
    exact assembly.distinct.sublist (List.filter_sublist.map _)

theorem lastRetained_isSome {retained : List (String × String)} {entry : SourceSelection}
    (bound : assembly.binding.isSome) (policy : assembly.summaryCandidate = false)
    (done : frozenSourceRefs assembly = .ok frozen) (member : entry ∈ assembly.selection)
    (injects : assembly.injected entry = some (sourceId, revision))
    (kept : (entry.refId, revision) ∈ retained) :
    (lastRetained frozen retained sourceId).isSome := by
  have found := frozenSourceRefs_lookup bound policy done (selected_of_injected member injects)
  unfold lastRetained
  rw [Option.isSome_map, List.getLast?_isSome]
  intro empty
  have listed : (entry.refId, (sourceId, revision)) ∈ frozen.entries.filter fun entry =>
      entry.2.1 = sourceId && decide ((entry.1, entry.2.2) ∈ retained) := by
    rw [List.mem_filter]
    exact ⟨Dictionary.lookup_eq_some.mp found, by simp [kept]⟩
  rw [empty] at listed
  cases listed

end Frozen

section Rewind

variable {tables later : CutTables} {payload : BoundaryPayload} {pending : EpochTransition}
  {checkpoint : CheckpointSources} {checkpoints : List CheckpointSources}
  {rows next : List ControlRow} {checkpointId timestamp : String}
  {owner : ContextSourceOwnerKey} {sourceAssembly : Option SourceAssembly}

structure Rewound (later : CutTables) (pending : EpochTransition)
    (sourceAssembly : Option SourceAssembly) (checkpoint : CheckpointSources)
    (owner : ContextSourceOwnerKey) (rows next : List ControlRow)
    (retained : List (String × String)) (frozen : Dictionary String SourceIdentity) : Prop where
  retains : retainedContextSourceRefs later pending checkpoint.states sourceAssembly = .ok retained
  freezes : (sourceAssembly.map frozenSourceRefs).getD (.ok .empty) = .ok frozen
  known : ∀ row ∈ checkpoint.states, ShownAfter rows next owner (lastRetained frozen retained) row
  retired : ∀ sourceId, sourceId ∉ checkpoint.states.map (fun row => row.state.sourceId) →
    Retired rows next (owner, sourceId)
  shown : ∀ assembly, sourceAssembly = some assembly → assembly.summaryCandidate = false →
    ∀ entry ∈ assembly.selection, ∀ sourceId revision,
      assembly.injected entry = some (sourceId, revision) →
      (entry.refId, revision) ∈ retained → (lastRetained frozen retained sourceId).isSome

theorem restoreRewoundSources_ok
    (found : (checkpoints.find? fun checkpoint => checkpoint.checkpointId = checkpointId) =
      some checkpoint)
    (distinct : (checkpoint.states.map fun row => row.state.sourceId).Nodup)
    (done : restoreRewoundSources later (some pending) sourceAssembly rows checkpoints checkpointId
      owner timestamp = .ok next) :
    ∃ retained frozen,
      Rewound later pending sourceAssembly checkpoint owner rows next retained frozen := by
  unfold restoreRewoundSources at done
  rw [found] at done
  dsimp only at done
  split at done
  · cases done
  · rename_i transition same
    obtain ⟨pendingEq, -⟩ := Option.filter_eq_some_iff.mp same
    cases pendingEq
    split at done
    · cases done
    · rename_i sealedPrefix
      obtain ⟨retained, retains, done⟩ := Transaction.bind_ok done
      obtain ⟨frozen, freezes, done⟩ := Transaction.bind_ok done
      refine ⟨retained, frozen, ?_⟩
      cases restored : restoreCheckpointContextSources rows checkpoints checkpointId owner
          (visibleRevisions frozen retained).lookup timestamp with
      | error reason =>
        rw [restored] at done
        cases done
      | ok written =>
        rw [restored] at done
        cases done
        have visible : (visibleRevisions frozen retained).lookup =
            lastRetained frozen retained := funext (visibleRevisions_lookup frozen retained)
        rw [visible] at restored
        obtain ⟨known, retired⟩ := restoreCheckpointContextSources_shows found distinct restored
        refine ⟨retains, freezes, known, retired, ?_⟩
        rintro assembly rfl policy entry member sourceId revision injects kept
        have bound : assembly.binding.isSome := by
          simpa [Option.isSome_iff_ne_none] using sealedPrefix
        exact lastRetained_isSome bound policy freezes member injects kept

/-- What a rewind keeps of the sources that were injected, at an accepted boundary. -/
theorem rewind_keeps_before_cut (frozen : BoundaryFrozen tables later payload pending)
    (states : List ControlRow) (assembly : SourceAssembly) :
    CutOf tables pending.reason pending.targetViewId payload pending.canonicalCutItemId ∧
    ((∃ retained, retainedContextSourceRefs later pending states (some assembly) =
        .ok retained) ↔
      Recorded later states assembly ∧ (pending.canonicalCutItemId.isSome →
        PlacedIn (sourceOrdinals tables payload) later states assembly)) ∧
    (∀ retained, retainedContextSourceRefs later pending states (some assembly) = .ok retained →
      KeepsBefore later states assembly (sourceOrdinals tables payload)
        pending.canonicalCutItemId retained ∧
      ∀ (other otherLater : CutTables) (otherPayload : BoundaryPayload)
        (otherPending : EpochTransition) (more : List (String × String)),
        BoundaryFrozen other otherLater otherPayload otherPending →
        sourceOrdinals other otherPayload = sourceOrdinals tables payload →
        otherLater.selections = later.selections →
        NotAfter (sourceOrdinals tables payload) pending.canonicalCutItemId
          otherPending.canonicalCutItemId →
        retainedContextSourceRefs otherLater otherPending states (some assembly) = .ok more →
        retained ⊆ more) ∧
    ∀ (sourceAssembly : Option SourceAssembly) (rows : List ControlRow)
      (checkpoints : List CheckpointSources) (checkpoint : CheckpointSources)
      (checkpointId : String) (owner : ContextSourceOwnerKey) (timestamp : String)
      (next : List ControlRow),
      (checkpoints.find? fun checkpoint => checkpoint.checkpointId = checkpointId) =
        some checkpoint →
      (checkpoint.states.map fun row => row.state.sourceId).Nodup →
      restoreRewoundSources later (some pending) sourceAssembly rows checkpoints checkpointId owner
        timestamp = .ok next →
      ∃ retained frozen,
        Rewound later pending sourceAssembly checkpoint owner rows next retained frozen := by
  obtain ⟨returns, keeps⟩ := frozen.keepsBefore states assembly
  refine ⟨(contextSourceBoundaryCut_ok frozen.accepted).1, returns, ?_, ?_⟩
  · intro retained kept
    refine ⟨keeps retained kept, ?_⟩
    intro other otherLater otherPayload otherPending more otherFrozen view selections ordered read
    have keepsMore := (otherFrozen.keepsBefore states assembly).2 more read
    rw [view] at keepsMore
    exact (keeps retained kept).grows keepsMore selections ordered
  · intro sourceAssembly rows checkpoints checkpoint checkpointId owner timestamp next found
      distinct done
    exact restoreRewoundSources_ok found distinct done

end Rewind

def twoItems (frontier : String) : CutTables where
  viewItems :=
    [⟨"view-001", "item-a", 0, true, true, by decide⟩,
      ⟨"view-001", "item-b", 1, true, true, by decide⟩,
      ⟨"view-002", "item-a", 0, true, true, by decide⟩]
  selections :=
    [⟨"assembly", "thread", true, "ref-001", some "revision-001", some "after_canonical",
      some frontier⟩]
  controlEvents :=
    [⟨7, "rewind", "view-002", "checkpoint",
      ⟨some "view-001", some "b", none, some "before", none⟩⟩]
  turnRecords := []
  messages := []
  itemCatalog := [("item-a", some "a"), ("item-b", some "b")]
  viewMessageSequences := fun _ => .ok []

def beforeSecond : EpochTransition where
  reason := "rewind"
  targetViewId := "view-002"
  sourceCheckpointId := "checkpoint"
  controlSequence := 7
  canonicalCutKind := "before_canonical"
  canonicalCutItemId := some "item-b"

def oneSource : SourceAssembly where
  assemblyId := "assembly"
  threadId := "thread"
  summaryCandidate := false
  binding := some ⟨[], [⟨"user", true, "ref-001", ("source", "revision-001")⟩]⟩
  contributions := [⟨"contribution", some "source", "revision-001", false⟩]
  selection := [⟨"ref-001", some "contribution", true, true, some "revision-001"⟩]
  distinct := by decide
  revisions := by decide
  nonempty := by decide

def untrackedSource (visible : Option String) : ControlRow where
  state :=
    { owner := ⟨"session", "thread"⟩
      sourceId := "source"
      sourceKind := "skill"
      name := "review"
      bindingRevision := none
      trackingStatus := .untracked
      latestVisibleCommittedRevision := visible
      latestRevision := some "revision-001"
      applied := fun _ => rfl }
  createdAt := "2026-07-01T00:00:00Z"

theorem twoItems_frozen (frontier : String) :
    BoundaryFrozen (twoItems frontier) (twoItems frontier)
      ⟨some "view-001", some "b", none, some "before", none⟩ beforeSecond where
  accepted := rfl
  bound := ⟨_, rfl, rfl⟩
  view _ _ := rfl

/-- A cut before the second item keeps the source that was injected after the first. -/
theorem beforeSecond_keeps :
    (CutOf (twoItems "item-a") "rewind" "view-002"
      ⟨some "view-001", some "b", none, some "before", none⟩ (some "item-b")) ∧
    KeepsBefore (twoItems "item-a") [untrackedSource (some "revision-001")] oneSource
      (sourceOrdinals (twoItems "item-a") ⟨some "view-001", some "b", none, some "before", none⟩)
      (some "item-b") [("ref-001", "revision-001")] := by
  obtain ⟨cut, -, keeps, -⟩ := rewind_keeps_before_cut (twoItems_frozen "item-a")
    [untrackedSource (some "revision-001")] oneSource
  exact ⟨cut, (keeps [("ref-001", "revision-001")] (by decide +kernel)).1⟩

/-- The source that shows nothing is not kept, and a position outside the view refuses
the rewind. -/
theorem beforeSecond_drops :
    contextSourceBoundaryCut (twoItems "item-a") "rewind" "view-002"
      ⟨some "view-001", some "b", none, some "before", none⟩ =
        .ok ("before_canonical", some "item-b") ∧
    (untrackedSource none).state.trackingStatus = .untracked ∧
    (oneSource.selection.map oneSource.injected) = [some ("source", "revision-001")] ∧
    retainedContextSourceRefs (twoItems "item-a") beforeSecond [untrackedSource none]
      (some oneSource) = .ok [] ∧
    retainedContextSourceRefs (twoItems "item-z") beforeSecond
      [untrackedSource (some "revision-001")] (some oneSource) =
        .error (.frontier "来源前沿不属于 canonical source view") := by
  decide +kernel

end GraphAgent.ContextSources
