import GraphAgent.PrefixEpoch
import GraphAgent.Sha256

/-!
# Inheritance of sealed prefixes

A session feeds the result of each epoch operation to the next call and keeps
its state when a call fails.  The parent of an epoch is remembered only as a
byte length and a hash, while the references appended since the last seal are a
separate list.  The invariant below says that the two always describe the same
frame boundary; every property of a whole run follows from it.
-/

namespace GraphAgent.Epoch

variable {hashing : HashPrimitives}

def trackedSources (frames : List (ProviderProfileItemFrame hashing)) :
    List (String × String) :=
  frames.filterMap (·.itemRef.trackedSource)

theorem checkNewFrames_ok {providerProfile : String} {maxOrdinal : Int}
    {frames : List (ProviderProfileItemFrame hashing)}
    (passed : checkNewFrames providerProfile maxOrdinal frames = .ok ()) :
    (maxOrdinal :: frames.map (·.ordinal)).Pairwise (· < ·) := by
  induction frames generalizing maxOrdinal with
  | nil => simp
  | cons frame frames ih =>
    simp only [checkNewFrames] at passed
    split at passed
    · cases passed
    · split at passed
      · cases passed
      · rename_i above
        have tail := ih passed
        rw [List.map_cons, List.pairwise_cons]
        refine ⟨?_, tail⟩
        intro ordinal member
        rcases List.mem_cons.mp member with rfl | later
        · omega
        · have := (List.pairwise_cons.mp tail).1 ordinal later
          omega

private theorem foldl_max_bound (frames : List (ProviderProfileItemFrame hashing))
    (start : Int) :
    start ≤ frames.foldl (fun largest frame => max largest frame.ordinal) start ∧
      ∀ frame ∈ frames, frame.ordinal ≤
        frames.foldl (fun largest frame => max largest frame.ordinal) start := by
  induction frames generalizing start with
  | nil => simp
  | cons head frames ih =>
    obtain ⟨startBound, tailBound⟩ := ih (max start head.ordinal)
    rw [List.foldl_cons]
    refine ⟨by omega, ?_⟩
    intro frame member
    rcases List.mem_cons.mp member with rfl | later
    · omega
    · exact tailBound frame later

theorem ordinal_le_maxFrameOrdinal {frames : List (ProviderProfileItemFrame hashing)}
    {frame : ProviderProfileItemFrame hashing} (member : frame ∈ frames) :
    frame.ordinal ≤ maxFrameOrdinal frames :=
  (foldl_max_bound frames 0).2 frame member

theorem checkSourcesAgainst_ok {seen : List ((String × String) × String)}
    {frames : List (ProviderProfileItemFrame hashing)}
    (passed : checkSourcesAgainst seen frames = .ok ()) :
    (trackedSources frames).Nodup ∧
      ∀ key ∈ trackedSources frames, seen.lookup key = none := by
  induction frames generalizing seen with
  | nil => simp [trackedSources]
  | cons frame frames ih =>
    simp only [checkSourcesAgainst] at passed
    cases tracked : frame.itemRef.trackedSource with
    | none =>
      simp only [tracked] at passed
      simpa [trackedSources, tracked] using ih passed
    | some key =>
      simp only [tracked] at passed
      cases prior : seen.lookup key with
      | some priorHash =>
        simp only [prior] at passed
        split at passed <;> cases passed
      | none =>
        simp only [prior] at passed
        obtain ⟨distinct, unseen⟩ := ih passed
        have fresh : key ∉ trackedSources frames := by
          intro member
          have := unseen key member
          simp at this
        have keys : trackedSources (frame :: frames) = key :: trackedSources frames := by
          simp [trackedSources, tracked]
        rw [keys]
        refine ⟨List.nodup_cons.mpr ⟨fresh, distinct⟩, ?_⟩
        intro other member
        rcases List.mem_cons.mp member with rfl | later
        · exact prior
        · have lookedUp := unseen other later
          have different : other ≠ key := by
            rintro rfl
            exact fresh later
          have unequal : (other == key) = false := by simpa using different
          simpa only [List.lookup_cons, unequal] using lookedUp

theorem opened_ok {epoch : PrefixEpoch} {providerProfile toolCompatibilityKey : String}
    {state : PrefixEpochState hashing}
    (opened : PrefixEpochState.opened hashing epoch providerProfile toolCompatibilityKey =
      .ok state) :
    state.epoch = epoch ∧ state.frames = [] ∧ state.appendedRefs = [] ∧
      state.parent = none := by
  unfold PrefixEpochState.opened at opened
  split at opened
  · cases opened
  · split at opened
    · cases opened
      exact ⟨rfl, rfl, rfl, rfl⟩
    · cases opened

theorem make_ok {ordinal : Int} {reason : EpochReason} {turnId : Option String}
    {epoch : PrefixEpoch} (made : PrefixEpoch.make ordinal reason turnId = .ok epoch) :
    epoch.ordinal = ordinal := by
  unfold PrefixEpoch.make at made
  split at made
  · split at made
    · split at made
      · cases made
        rfl
      · cases made
    · cases made
  · cases made

theorem initialEpochState_ok {providerProfile toolCompatibilityKey : String}
    {turnId : Option String} {transition : Option PendingPrefixEpochTransition}
    {state : PrefixEpochState hashing}
    (opened : initialEpochState hashing providerProfile toolCompatibilityKey turnId
      transition = .ok state) :
    state.epoch.ordinal = 1 ∧ state.frames = [] ∧ state.appendedRefs = [] ∧
      state.parent = none := by
  unfold initialEpochState at opened
  split at opened
  · cases opened
  · split at opened
    · cases opened
    · rename_i epoch made
      obtain ⟨sameEpoch, fresh⟩ := opened_ok opened
      exact ⟨by rw [sameEpoch, make_ok made], fresh⟩

theorem openRebuildEpoch_ok {state next : PrefixEpochState hashing} {reason : EpochReason}
    {providerProfile toolCompatibilityKey : String}
    {transition : Option PendingPrefixEpochTransition} {turnId : Option String}
    (rebuilt : openRebuildEpoch state reason providerProfile toolCompatibilityKey
      transition turnId = .ok next) :
    next.epoch.ordinal = state.epoch.ordinal + 1 ∧ next.frames = [] ∧
      next.appendedRefs = [] ∧ next.parent = none := by
  unfold openRebuildEpoch at rebuilt
  split at rebuilt
  · cases rebuilt
  · split at rebuilt
    · cases rebuilt
    · split at rebuilt
      · cases rebuilt
      · split at rebuilt
        · cases rebuilt
        · split at rebuilt
          · cases rebuilt
          · rename_i epoch made
            obtain ⟨sameEpoch, fresh⟩ := opened_ok rebuilt
            exact ⟨by rw [sameEpoch, make_ok made], fresh⟩

theorem appendItems_ok {state next : PrefixEpochState hashing}
    {frames : List (ProviderProfileItemFrame hashing)} {profile key : String}
    (appended : appendItems state frames profile key = .ok next) :
    checkNewFrames state.providerProfile (maxFrameOrdinal state.frames) frames = .ok () ∧
      checkSourceConflicts (state.frames ++ frames) = .ok () ∧
      next = { state with
        frames := state.frames ++ frames
        appendedRefs := state.appendedRefs ++ frames.map (·.itemRef) } := by
  unfold appendItems at appended
  split at appended
  · cases appended
  · split at appended
    · cases appended
    · split at appended
      · cases appended
      · split at appended
        · cases appended
        · split at appended
          · cases appended
          · rename_i increasing
            split at appended
            · cases appended
            · rename_i conflictFree
              cases appended
              exact ⟨increasing, conflictFree, rfl⟩

theorem sealAssembly_ok {state : PrefixEpochState hashing} {assemblyId : String}
    {transition : Option PendingPrefixEpochTransition}
    {assembly : SealedPrefixAssembly hashing}
    (published : sealAssembly state assemblyId transition = .ok assembly) :
    (∃ assemblyId_ne, assembly.state = sealedState state assemblyId assemblyId_ne) ∧
      assembly.parent = state.parent ∧ assembly.appendedRefs = state.appendedRefs ∧
      assembly.prefixByteLength = (stablePrefixBytes state.frames).length ∧
      assembly.prefixHash = stablePrefixHash hashing (stablePrefixBytes state.frames) := by
  unfold sealAssembly at published
  split at published
  · cases published
  · rename_i assemblyId_ne
    split at published
    · cases published
    · split at published
      · cases published
      · split at published
        · cases published
        · cases published
          exact ⟨⟨assemblyId_ne, rfl⟩, rfl, rfl, rfl, rfl⟩

theorem frame_bytes_pos (encodes : Json.EncodesObjects hashing.dumps)
    (frame : ProviderProfileItemFrame hashing) : 0 < frame.canonicalBytes.length := by
  have notEmpty := Json.canonicalJsonBytes_obj_ne_nil hashing.dumps encodes frame.encoded
  exact List.length_pos_iff.mpr notEmpty

@[simp]
theorem stablePrefixBytes_append (left right : List (ProviderProfileItemFrame hashing)) :
    stablePrefixBytes (left ++ right) = stablePrefixBytes left ++ stablePrefixBytes right := by
  simp [stablePrefixBytes]

@[simp]
theorem stablePrefixBytes_cons (frame : ProviderProfileItemFrame hashing)
    (frames : List (ProviderProfileItemFrame hashing)) :
    stablePrefixBytes (frame :: frames) = frame.canonicalBytes ++ stablePrefixBytes frames := by
  simp [stablePrefixBytes]

@[simp]
theorem stablePrefixBytes_nil :
    stablePrefixBytes ([] : List (ProviderProfileItemFrame hashing)) = [] := rfl

theorem stablePrefixBytes_mono {left right : List (ProviderProfileItemFrame hashing)}
    (extends' : left <+: right) : stablePrefixBytes left <+: stablePrefixBytes right := by
  obtain ⟨rest, rfl⟩ := extends'
  exact ⟨stablePrefixBytes rest, (stablePrefixBytes_append left rest).symm⟩

theorem coverPrefix_boundary (encodes : Json.EncodesObjects hashing.dumps)
    (parent : ParentAssemblyRef)
    (inherited appended : List (ProviderProfileItemFrame hashing)) (offset count : Nat)
    (target : parent.prefixByteLength = offset + (stablePrefixBytes inherited).length) :
    coverPrefix parent (inherited ++ appended) offset count =
      .ok (parent.prefixByteLength, count + inherited.length) := by
  induction inherited generalizing offset count with
  | nil =>
    have reached : parent.prefixByteLength = offset := by simpa using target
    cases appended with
    | nil => simp [coverPrefix, reached]
    | cons frame frames => simp [coverPrefix, reached]
  | cons frame frames ih =>
    have positive := frame_bytes_pos encodes frame
    rw [stablePrefixBytes_cons, List.length_append] at target
    have notReached : ¬ parent.prefixByteLength ≤ offset := by omega
    have inside :
        ¬ parent.prefixByteLength < offset + frame.canonicalBytes.length := by omega
    rw [List.cons_append, coverPrefix, if_neg notReached, if_neg inside,
      ih (offset + frame.canonicalBytes.length) (count + 1) (by omega)]
    simp only [List.length_cons]
    congr 2
    omega

/-- A reference that records the bytes of `inherited` verifies against every
extension of these frames, and counts exactly them. -/
theorem verifyStablePrefix_boundary (encodes : Json.EncodesObjects hashing.dumps)
    (parent : ParentAssemblyRef)
    (inherited appended : List (ProviderProfileItemFrame hashing))
    (byteLength : parent.prefixByteLength = (stablePrefixBytes inherited).length)
    (bytesHash : parent.prefixHash = stablePrefixHash hashing (stablePrefixBytes inherited)) :
    verifyStablePrefix parent (inherited ++ appended) = .ok inherited.length := by
  have covered := coverPrefix_boundary encodes parent inherited appended 0 0 (by omega)
  rw [Nat.zero_add] at covered
  simp [verifyStablePrefix, covered, bytesHash]

variable (hashing) in
structure EpochSession where
  state : PrefixEpochState hashing
  sealedAssemblies : List (SealedPrefixAssembly hashing)
  rebuilds : Nat

variable (hashing) in
inductive EpochCall where
  | appendItems (frames : List (ProviderProfileItemFrame hashing))
      (desiredProviderProfile desiredToolCompatibilityKey : String)
  | sealAssembly (assemblyId : String) (transition : Option PendingPrefixEpochTransition)
  | openRebuildEpoch (reason : EpochReason) (providerProfile toolCompatibilityKey : String)
      (transition : Option PendingPrefixEpochTransition) (turnId : Option String)

def EpochSession.start (state : PrefixEpochState hashing) : EpochSession hashing :=
  ⟨state, [], 0⟩

def EpochSession.perform (session : EpochSession hashing) :
    EpochCall hashing → Except ItemSchemaError (EpochSession hashing)
  | .appendItems frames profile key =>
    (appendItems session.state frames profile key).map fun next =>
      { session with state := next }
  | .sealAssembly assemblyId transition =>
    (sealAssembly session.state assemblyId transition).map fun assembly =>
      { session with
        state := assembly.state
        sealedAssemblies := session.sealedAssemblies ++ [assembly] }
  | .openRebuildEpoch reason profile key transition turnId =>
    (openRebuildEpoch session.state reason profile key transition turnId).map fun next =>
      { session with state := next, rebuilds := session.rebuilds + 1 }

def EpochSession.step (session : EpochSession hashing) (call : EpochCall hashing) :
    EpochSession hashing :=
  match session.perform call with
  | .ok next => next
  | .error _ => session

def EpochSession.run (session : EpochSession hashing) (calls : List (EpochCall hashing)) :
    EpochSession hashing :=
  calls.foldl EpochSession.step session

structure InheritanceBoundary (state : PrefixEpochState hashing) : Prop where
  split : ∃ inherited appended,
    state.frames = inherited ++ appended ∧
      state.appendedRefs = appended.map (·.itemRef) ∧
      (state.parent = none → inherited = []) ∧
      ∀ parent ∈ state.parent,
        parent.prefixByteLength = (stablePrefixBytes inherited).length ∧
          parent.prefixHash = stablePrefixHash hashing (stablePrefixBytes inherited)

structure FramesSound (frames : List (ProviderProfileItemFrame hashing)) : Prop where
  ordinals : (frames.map (·.ordinal)).Pairwise (· < ·)
  sources : (trackedSources frames).Nodup

structure SealSound (assembly : SealedPrefixAssembly hashing) : Prop where
  frames : FramesSound assembly.state.frames
  byteLength : assembly.prefixByteLength = (stablePrefixBytes assembly.state.frames).length
  bytesHash : assembly.prefixHash =
    stablePrefixHash hashing (stablePrefixBytes assembly.state.frames)
  rootRefs : assembly.parent = none →
    assembly.appendedRefs = assembly.state.frames.map (·.itemRef)
  inheritedRefs : ∀ parent ∈ assembly.parent, ∃ inherited,
    verifyStablePrefix parent assembly.state.frames = .ok inherited ∧
      assembly.appendedRefs = (assembly.state.frames.drop inherited).map (·.itemRef)

def Inherits (earlier later : SealedPrefixAssembly hashing) : Prop :=
  earlier.state.epoch.ordinal = later.state.epoch.ordinal →
    earlier.state.frames <+: later.state.frames ∧ later.parent.isSome = true

structure SessionInvariant (session : EpochSession hashing) : Prop where
  frames : FramesSound session.state.frames
  boundary : InheritanceBoundary session.state
  ordinal : session.state.epoch.ordinal = session.rebuilds + 1
  seals : ∀ assembly ∈ session.sealedAssemblies, SealSound assembly
  inherited : session.sealedAssemblies.Pairwise Inherits
  current : ∀ assembly ∈ session.sealedAssemblies,
    assembly.state.epoch.ordinal ≤ session.state.epoch.ordinal ∧
      (assembly.state.epoch.ordinal = session.state.epoch.ordinal →
        assembly.state.frames <+: session.state.frames ∧ session.state.parent.isSome = true)

theorem verifyStablePrefix_of_boundary (encodes : Json.EncodesObjects hashing.dumps)
    {state : PrefixEpochState hashing} (boundary : InheritanceBoundary state)
    {parent : ParentAssemblyRef} (isParent : parent ∈ state.parent) :
    ∃ inherited, verifyStablePrefix parent state.frames = .ok inherited ∧
      state.appendedRefs = (state.frames.drop inherited).map (·.itemRef) := by
  obtain ⟨inherited, appended, frames, refs, -, described⟩ := boundary.split
  obtain ⟨byteLength, bytesHash⟩ := described parent isParent
  refine ⟨inherited.length, ?_, ?_⟩
  · rw [frames]
    exact verifyStablePrefix_boundary encodes parent inherited appended byteLength bytesHash
  · rw [frames, List.drop_left, refs]

theorem framesSound_append {state : PrefixEpochState hashing}
    {frames : List (ProviderProfileItemFrame hashing)}
    (sound : FramesSound state.frames)
    (increasing :
      checkNewFrames state.providerProfile (maxFrameOrdinal state.frames) frames = .ok ())
    (conflictFree : checkSourceConflicts (state.frames ++ frames) = .ok ()) :
    FramesSound (state.frames ++ frames) := by
  have above := checkNewFrames_ok increasing
  rw [List.pairwise_cons] at above
  refine ⟨?_, (checkSourcesAgainst_ok conflictFree).1⟩
  rw [List.map_append, List.pairwise_append]
  refine ⟨sound.ordinals, above.2, ?_⟩
  intro old oldMember new newMember
  obtain ⟨frame, frameMember, rfl⟩ := List.mem_map.mp oldMember
  have := ordinal_le_maxFrameOrdinal frameMember
  have := above.1 new newMember
  omega

theorem boundary_append {state : PrefixEpochState hashing}
    (boundary : InheritanceBoundary state)
    (frames : List (ProviderProfileItemFrame hashing)) :
    InheritanceBoundary { state with
      frames := state.frames ++ frames
      appendedRefs := state.appendedRefs ++ frames.map (·.itemRef) } := by
  obtain ⟨inherited, appended, framesSplit, refs, root, described⟩ := boundary.split
  refine ⟨inherited, appended ++ frames, ?_, ?_, root, described⟩
  · simp [framesSplit]
  · simp [refs]

theorem boundary_fresh {state : PrefixEpochState hashing} (frames : state.frames = [])
    (refs : state.appendedRefs = []) (parent : state.parent = none) :
    InheritanceBoundary state :=
  ⟨[], [], by simp [frames], by simp [refs], fun _ => rfl, by simp [parent]⟩

theorem boundary_sealed (state : PrefixEpochState hashing) (assemblyId : String)
    (assemblyId_ne : assemblyId ≠ "") :
    InheritanceBoundary (sealedState state assemblyId assemblyId_ne) := by
  refine ⟨state.frames, [], by simp [sealedState], rfl, ?_, ?_⟩
  · intro root
    cases root
  · intro parent isParent
    cases isParent
    exact ⟨rfl, rfl⟩

theorem sessionInvariant_append {session : EpochSession hashing}
    (invariant : SessionInvariant session)
    {frames : List (ProviderProfileItemFrame hashing)} {profile key : String}
    {next : PrefixEpochState hashing}
    (appended : appendItems session.state frames profile key = .ok next) :
    SessionInvariant { session with state := next } := by
  obtain ⟨increasing, conflictFree, rfl⟩ := appendItems_ok appended
  refine
    { frames := framesSound_append invariant.frames increasing conflictFree
      boundary := boundary_append invariant.boundary frames
      ordinal := invariant.ordinal
      seals := invariant.seals
      inherited := invariant.inherited
      current := ?_ }
  intro assembly member
  obtain ⟨bounded, sameEpoch⟩ := invariant.current assembly member
  refine ⟨bounded, ?_⟩
  intro equal
  obtain ⟨covered, hasParent⟩ := sameEpoch equal
  exact ⟨covered.trans (List.prefix_append _ _), hasParent⟩

theorem sessionInvariant_seal (encodes : Json.EncodesObjects hashing.dumps)
    {session : EpochSession hashing} (invariant : SessionInvariant session)
    {assemblyId : String} {transition : Option PendingPrefixEpochTransition}
    {assembly : SealedPrefixAssembly hashing}
    (published : sealAssembly session.state assemblyId transition = .ok assembly) :
    SessionInvariant
      { session with
        state := assembly.state
        sealedAssemblies := session.sealedAssemblies ++ [assembly] } := by
  obtain ⟨⟨assemblyId_ne, stateEq⟩, parentEq, refsEq, lengthEq, hashEq⟩ :=
    sealAssembly_ok published
  have framesEq : assembly.state.frames = session.state.frames := by
    rw [stateEq]
    rfl
  have epochEq : assembly.state.epoch = session.state.epoch := by
    rw [stateEq]
    rfl
  have hasParent : assembly.state.parent.isSome = true := by
    rw [stateEq]
    rfl
  have sealSound : SealSound assembly := by
    refine
      { frames := framesEq ▸ invariant.frames
        byteLength := by rw [lengthEq, framesEq]
        bytesHash := by rw [hashEq, framesEq]
        rootRefs := ?_
        inheritedRefs := ?_ }
    · intro root
      obtain ⟨inherited, appended, frames, refs, atRoot, -⟩ := invariant.boundary.split
      have nothing := atRoot (parentEq ▸ root)
      rw [refsEq, refs, framesEq, frames, nothing, List.nil_append]
    · intro parent isParent
      rw [refsEq, framesEq]
      exact verifyStablePrefix_of_boundary encodes invariant.boundary (parentEq ▸ isParent)
  refine
    { frames := framesEq ▸ invariant.frames
      boundary := stateEq ▸ boundary_sealed session.state assemblyId assemblyId_ne
      ordinal := by
        rw [epochEq]
        exact invariant.ordinal
      seals := ?_
      inherited := ?_
      current := ?_ }
  · intro other member
    rcases List.mem_append.mp member with earlier | new
    · exact invariant.seals other earlier
    · rw [List.mem_singleton.mp new]
      exact sealSound
  · rw [List.pairwise_append]
    refine ⟨invariant.inherited, List.pairwise_singleton _ _, ?_⟩
    intro earlier earlierMember new newMember sameEpoch
    rw [List.mem_singleton.mp newMember] at sameEpoch ⊢
    rw [epochEq] at sameEpoch
    rw [framesEq, parentEq]
    exact (invariant.current earlier earlierMember).2 sameEpoch
  · intro other member
    change other.state.epoch.ordinal ≤ assembly.state.epoch.ordinal ∧ _
    rcases List.mem_append.mp member with earlier | new
    · obtain ⟨bounded, sameEpoch⟩ := invariant.current other earlier
      rw [epochEq, framesEq]
      exact ⟨bounded, fun equal => ⟨(sameEpoch equal).1, hasParent⟩⟩
    · rw [List.mem_singleton.mp new]
      exact ⟨le_refl _, fun _ => ⟨List.prefix_refl _, hasParent⟩⟩

theorem sessionInvariant_rebuild {session : EpochSession hashing}
    (invariant : SessionInvariant session) {reason : EpochReason} {profile key : String}
    {transition : Option PendingPrefixEpochTransition} {turnId : Option String}
    {next : PrefixEpochState hashing}
    (rebuilt : openRebuildEpoch session.state reason profile key transition turnId =
      .ok next) :
    SessionInvariant { session with state := next, rebuilds := session.rebuilds + 1 } := by
  obtain ⟨ordinal, frames, refs, parent⟩ := openRebuildEpoch_ok rebuilt
  refine
    { frames := ⟨by simp [frames], by simp [frames, trackedSources]⟩
      boundary := boundary_fresh frames refs parent
      ordinal := ?_
      seals := invariant.seals
      inherited := invariant.inherited
      current := ?_ }
  · have := invariant.ordinal
    push_cast
    omega
  · intro assembly member
    have bounded := (invariant.current assembly member).1
    change assembly.state.epoch.ordinal ≤ next.epoch.ordinal ∧
      (assembly.state.epoch.ordinal = next.epoch.ordinal → _)
    exact ⟨by omega, fun equal => absurd equal (by omega)⟩

theorem sessionInvariant_step (encodes : Json.EncodesObjects hashing.dumps)
    {session : EpochSession hashing} (invariant : SessionInvariant session)
    (call : EpochCall hashing) : SessionInvariant (session.step call) := by
  unfold EpochSession.step
  cases call with
  | appendItems frames profile key =>
    cases result : appendItems session.state frames profile key with
    | error error => simpa [EpochSession.perform, result, Except.map] using invariant
    | ok next =>
      simpa [EpochSession.perform, result, Except.map] using
        sessionInvariant_append invariant result
  | sealAssembly assemblyId transition =>
    cases result : sealAssembly session.state assemblyId transition with
    | error error => simpa [EpochSession.perform, result, Except.map] using invariant
    | ok assembly =>
      simpa [EpochSession.perform, result, Except.map] using
        sessionInvariant_seal encodes invariant result
  | openRebuildEpoch reason profile key transition turnId =>
    cases result : openRebuildEpoch session.state reason profile key transition turnId with
    | error error => simpa [EpochSession.perform, result, Except.map] using invariant
    | ok next =>
      simpa [EpochSession.perform, result, Except.map] using
        sessionInvariant_rebuild invariant result

theorem sessionInvariant_start {state : PrefixEpochState hashing}
    {profile key : String} {turnId : Option String}
    {transition : Option PendingPrefixEpochTransition}
    (opened : initialEpochState hashing profile key turnId transition = .ok state) :
    SessionInvariant (EpochSession.start state) := by
  obtain ⟨ordinal, frames, refs, parent⟩ := initialEpochState_ok opened
  exact
    { frames := ⟨by simp [EpochSession.start, frames],
        by simp [EpochSession.start, frames, trackedSources]⟩
      boundary := boundary_fresh frames refs parent
      ordinal := by simp [EpochSession.start, ordinal]
      seals := by simp [EpochSession.start]
      inherited := by simp [EpochSession.start]
      current := by simp [EpochSession.start] }

theorem sessionInvariant_run (encodes : Json.EncodesObjects hashing.dumps)
    {session : EpochSession hashing} (invariant : SessionInvariant session)
    (calls : List (EpochCall hashing)) : SessionInvariant (session.run calls) := by
  induction calls generalizing session with
  | nil => exact invariant
  | cons call calls ih => exact ih (sessionInvariant_step encodes invariant call)

structure SessionContract (session : EpochSession hashing) : Prop where
  inherited : session.sealedAssemblies.Pairwise fun earlier later =>
    earlier.state.epoch.ordinal = later.state.epoch.ordinal →
      stablePrefixBytes earlier.state.frames <+: stablePrefixBytes later.state.frames ∧
        later.parent.isSome = true
  seals : ∀ assembly ∈ session.sealedAssemblies, SealSound assembly
  verifies : ∀ parent ∈ session.state.parent,
    ∃ inherited, verifyStablePrefix parent session.state.frames = .ok inherited
  frames : FramesSound session.state.frames
  ordinal : session.state.epoch.ordinal = session.rebuilds + 1

/-- Every run of the four operations, failing calls included, keeps the prefix
contract: sealed bytes are inherited inside an epoch, every seal verifies and
lists exactly the references after the inherited frames, frame ordinals
increase, tracked revisions are distinct and rebuilds number the epochs. -/
theorem prefixEpoch_inheritance (encodes : Json.EncodesObjects hashing.dumps)
    {state : PrefixEpochState hashing} {profile key : String} {turnId : Option String}
    {transition : Option PendingPrefixEpochTransition}
    (opened : initialEpochState hashing profile key turnId transition = .ok state)
    (calls : List (EpochCall hashing)) :
    SessionContract ((EpochSession.start state).run calls) := by
  have invariant := sessionInvariant_run encodes (sessionInvariant_start opened) calls
  refine
    { inherited := ?_
      seals := invariant.seals
      verifies := ?_
      frames := invariant.frames
      ordinal := invariant.ordinal }
  · refine invariant.inherited.imp ?_
    intro earlier later inherits sameEpoch
    obtain ⟨covered, hasParent⟩ := inherits sameEpoch
    exact ⟨stablePrefixBytes_mono covered, hasParent⟩
  · intro parent isParent
    obtain ⟨inherited, verified, -⟩ :=
      verifyStablePrefix_of_boundary encodes invariant.boundary isParent
    exact ⟨inherited, verified⟩

/-- SHA-256 of the standard library as a checked digest. -/
def sha256Digest (message : Bytes) : HexDigest :=
  ⟨String.ofList (Sha256.hexdigest message), by
    have digits : (Sha256.hexdigest message).all isLowerHex = true := by
      rw [List.all_eq_true]
      intro char member
      have allHex : Sha256.hexDigits.all isLowerHex = true := by decide
      exact List.all_eq_true.mp allHex char (Sha256.mem_hexDigits_of_mem_hexdigest member)
    simp [isHexDigest, Sha256.length_hexdigest, digits]⟩

def quotedText (text : String) : Option String :=
  if text.toList.all (fun char => ' ' ≤ char && char ≤ '~' && char ≠ '"' && char ≠ '\\') then
    some ("\"" ++ text ++ "\"")
  else
    none

def insertField (field : String × String) : List (String × String) → List (String × String)
  | [] => [field]
  | head :: fields =>
    if field.1 < head.1 then field :: head :: fields
    else head :: insertField field fields

mutual

def plainText : Json → Option String
  | .null => some "null"
  | .bool value => some (if value then "true" else "false")
  | .int value =>
    if Json.maxSafeInteger < value.natAbs then none else some (toString value)
  | .float _ _ _ => none
  | .str value => quotedText value
  | .arr items =>
    (plainTexts items).map fun texts => "[" ++ ",".intercalate texts ++ "]"
  | .obj fields =>
    (plainFields fields).map fun entries =>
      "\x7b" ++ ",".intercalate (entries.map fun entry => entry.1 ++ ":" ++ entry.2) ++ "\x7d"

def plainTexts : List Json → Option (List String)
  | [] => some []
  | item :: items => do return (← plainText item) :: (← plainTexts items)

def plainFields : List (String × Json) → Option (List (String × String))
  | [] => some []
  | (key, value) :: fields => do
      return insertField (← quotedText key, ← plainText value) (← plainFields fields)

end

def plainHashing : HashPrimitives where
  dumps value := (plainText value).map fun text => text.toUTF8.data.toList
  hexdigest := sha256Digest

theorem plainHashing_encodesObjects : Json.EncodesObjects plainHashing.dumps := by
  intro fields encoded
  cases entries : plainFields fields with
  | none => simp [plainHashing, plainText, entries] at encoded
  | some texts =>
    have openingBrace : "\x7b".toByteArray.data ≠ #[] := by decide +kernel
    simp [plainHashing, plainText, entries] at encoded
    exact openingBrace encoded.1

def sampleRef (refId : String) : AppendedItemRef :=
  ⟨"source_item", refId, some "rollout", some refId, "tracked"⟩

def sampleManifest (ordinal : Int) : Json :=
  frameManifest ordinal "openai" "user" "text" (.str "hello")

def sampleFrame (ordinal : Int) (refId : String) (ordinal_pos : 0 < ordinal)
    (itemRef_valid : (sampleRef refId).validate = .ok ())
    (encodable : plainText (sampleManifest ordinal) ≠ none) :
    ProviderProfileItemFrame plainHashing where
  ordinal := ordinal
  providerProfile := "openai"
  role := "user"
  payloadKind := "text"
  content := .str "hello"
  itemRef := sampleRef refId
  canonicalBytes := ((plainText (sampleManifest ordinal)).getD "").toUTF8.data.toList
  ordinal_pos := ordinal_pos
  providerProfile_ne := by decide
  role_known := by decide
  payloadKind_known := by decide
  itemRef_valid := itemRef_valid
  encoded := by
    obtain ⟨text, isText⟩ := Option.ne_none_iff_exists'.mp encodable
    change Json.canonicalJsonBytes plainHashing.dumps (sampleManifest ordinal) = _
    simp [Json.canonicalJsonBytes, plainHashing, isText]

def sampleKey : String := jcsScheme ++ String.ofList (List.replicate 64 'a')

def reboundKey : String := jcsScheme ++ String.ofList (List.replicate 64 'b')

def sampleCalls : List (EpochCall plainHashing) :=
  [.appendItems [sampleFrame 1 "r1" (by decide) (by decide +kernel) (by decide +kernel)]
      "openai" sampleKey,
    .sealAssembly "assembly-1" none,
    .appendItems [sampleFrame 2 "r2" (by decide) (by decide +kernel) (by decide +kernel)]
      "openai" sampleKey,
    .sealAssembly "assembly-2" none,
    .openRebuildEpoch .toolsetChanged "openai" reboundKey none none,
    .sealAssembly "assembly-3" none]

theorem prefixEpoch_inheritance_sampleCalls :
    ∃ state, initialEpochState plainHashing "openai" sampleKey none none = .ok state ∧
      ((EpochSession.start state).run sampleCalls).sealedAssemblies.length = 3 ∧
      SessionContract ((EpochSession.start state).run sampleCalls) := by
  have opened : initialEpochState plainHashing "openai" sampleKey none none = .ok _ := rfl
  refine ⟨_, opened, ?_,
    prefixEpoch_inheritance plainHashing_encodesObjects opened sampleCalls⟩
  decide +kernel

end GraphAgent.Epoch
