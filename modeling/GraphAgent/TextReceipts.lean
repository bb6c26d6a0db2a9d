import GraphAgent.TextPublication

/-!
# What the receipts of a publication say

The steps before the first failure are confirmed, the failing step leaves its file
as it was, as intended, or unverified, and the steps behind it are not attempted;
the state reported for a file follows from these and from what is read of it.
-/

namespace GraphAgent.TextMutation

open Terminal

def Intended (files : Files) (step : TextPublication) : Prop :=
  (files step.snapshot.realPath).map FilePreimage.content = step.content

def Untouched (files : Files) (step : TextPublication) : Prop :=
  files step.snapshot.realPath = step.snapshot.before

theorem requireFilePreimage_ok (files : Files) (snapshot : FileSnapshot)
    (same : files snapshot.realPath = snapshot.before) (reference : String) :
    requireFilePreimage files snapshot.realPath snapshot.before reference = .ok () := by
  unfold requireFilePreimage
  rw [same]
  cases snapshot.before with
  | none => rfl
  | some before => exact if_pos rfl

structure StepDone (files : Files) (step : TextPublication)
    (result : Files × Except PublicationError Unit) : Prop where
  others : ∀ path, path ≠ step.snapshot.realPath → result.1 path = files path
  confirmed : result.2 = .ok () → Intended result.1 step
  failed : ∀ error, result.2 = .error error →
    isUnverified error = true ∨ Untouched result.1 step ∨ Intended result.1 step

theorem StepDone.unchanged {files : Files} {step : TextPublication} {error : PublicationError}
    (untouched : Untouched files step) : StepDone files step (files, .error error) where
  others _ _ := rfl
  confirmed failed := nomatch failed
  failed _ _ := .inr (.inl untouched)

theorem StepDone.written {files : Files} {step : TextPublication} {file : Option FilePreimage}
    {outcome : Except PublicationError Unit} (intended : file.map FilePreimage.content = step.content) :
    StepDone files step (files.write step.snapshot.realPath file, outcome) where
  others _ distinct := files.write_other file distinct
  confirmed _ := (congrArg _ (files.write_self _ file)).trans intended
  failed _ _ := .inr (.inr ((congrArg _ (files.write_self _ file)).trans intended))

theorem StepDone.left {files : Files} {step : TextPublication} {file : Option FilePreimage}
    {reference : String} {expected : Text} {observed : Option Text} :
    StepDone files step
      (files.write step.snapshot.realPath file,
        .error (.unverified reference expected observed)) where
  others _ distinct := files.write_other file distinct
  confirmed failed := nomatch failed
  failed error failed := by
    cases failed
    exact .inl rfl

theorem publishStep_done (fault : Option Fault) {files : Files} {step : TextPublication}
    (untouched : Untouched files step) : StepDone files step (publishStep fault files step) := by
  rw [publishStep]
  cases content : step.content with
  | none =>
    cases before : step.snapshot.before with
    | none => exact .unchanged untouched
    | some file =>
      have required := requireFilePreimage_ok files step.snapshot untouched step.snapshot.uri
      rw [before] at required
      simp only [deleteFileContent, required]
      split
      next => exact .unchanged untouched
      next =>
        split
        next left => exact .left
        next => exact .written content.symm
        next => exact .written content.symm
  | some content' =>
    have required := requireFilePreimage_ok files step.snapshot untouched step.snapshot.uri
    simp only [publishFileContent, required]
    split
    next => exact .unchanged untouched
    next =>
      split
      next left => exact .left
      next => exact .written content.symm
      next => exact .written content.symm

theorem Untouched.congr {files other : Files} {step : TextPublication}
    (untouched : Untouched files step)
    (same : other step.snapshot.realPath = files step.snapshot.realPath) :
    Untouched other step :=
  same.trans untouched

theorem Intended.congr {files other : Files} {step : TextPublication}
    (intended : Intended files step)
    (same : other step.snapshot.realPath = files step.snapshot.realPath) :
    Intended other step := by
  rw [Intended, same]
  exact intended

def pathsOf (steps : List TextPublication) : List String :=
  steps.map fun step => step.snapshot.realPath

structure LoopDone (loop result : PublishLoop) (steps : List TextPublication) : Prop where
  others : ∀ path, path ∉ pathsOf steps → result.files path = loop.files path
  parts : ∃ before after, steps = before ++ after ∧
    (∀ step ∈ before, Intended result.files step) ∧
    (∀ index, index ∈ result.confirmed ↔ index ∈ loop.confirmed ∨
      loop.attempted ≤ index ∧ index < loop.attempted + before.length) ∧
    ((after = [] ∧ result.failure = none ∧
        result.attempted = loop.attempted + before.length ∧
        result.unverified = loop.unverified) ∨
      ∃ step rest error, after = step :: rest ∧ result.failure = some error ∧
        result.attempted = loop.attempted + before.length + 1 ∧
        (∀ step ∈ rest, Untouched result.files step) ∧
        ((isUnverified error = true ∧
            result.unverified = loop.unverified ++ [loop.attempted + before.length]) ∨
          isUnverified error = false ∧ result.unverified = loop.unverified ∧
            (Untouched result.files step ∨ Intended result.files step)))

theorem publishLoop_done (faults : Nat → Option Fault) {loop : PublishLoop}
    {steps : List TextPublication} (running : loop.failure = none)
    (distinct : (pathsOf steps).Nodup) (untouched : ∀ step ∈ steps, Untouched loop.files step) :
    LoopDone loop (publishLoop faults loop steps) steps := by
  induction steps generalizing loop with
  | nil =>
    exact
      { others := fun _ _ => rfl
        parts := ⟨[], [], rfl, by simp, by simp [publishLoop], .inl ⟨rfl, running, rfl, rfl⟩⟩ }
  | cons step rest ih =>
    obtain ⟨fresh, restDistinct⟩ := List.nodup_cons.mp distinct
    obtain ⟨stepUntouched, restUntouched⟩ := List.forall_mem_cons.mp untouched
    have done := publishStep_done (faults loop.attempted) stepUntouched
    have apart : ∀ other ∈ rest, other.snapshot.realPath ≠ step.snapshot.realPath := by
      intro other member same
      exact fresh (List.mem_map.mpr ⟨other, member, same⟩)
    rw [publishLoop]
    rcases result : publishStep (faults loop.attempted) loop.files step with ⟨files, error | ok⟩
    · rw [result] at done
      refine ⟨?_, [], step :: rest, rfl, by simp, by simp, .inr ⟨step, rest, error, rfl, rfl, rfl,
        ?_, ?_⟩⟩
      · intro path outside
        exact done.others path fun same => outside (same ▸ List.mem_cons_self)
      · intro other member
        exact (restUntouched other member).congr (done.others _ (apart other member))
      · by_cases isUnknown : isUnverified error = true
        · exact .inl ⟨isUnknown, if_pos isUnknown⟩
        · have known : isUnverified error = false := by simpa using isUnknown
          refine .inr ⟨known, if_neg isUnknown, ?_⟩
          rcases done.failed error rfl with unknown | settled
          · exact absurd unknown isUnknown
          · exact settled
    · rw [result] at done
      have intended := done.confirmed rfl
      have later := @ih
        { loop with
          files := files
          attempted := loop.attempted + 1
          confirmed := loop.confirmed ++ [loop.attempted] }
        running restDistinct fun other member =>
          (restUntouched other member).congr (done.others _ (apart other member))
      obtain ⟨before, after, rfl, allIntended, confirmed, ending⟩ := later.parts
      refine ⟨?_, step :: before, after, rfl, ?_, ?_, ?_⟩
      · intro path outside
        have notStep : path ≠ step.snapshot.realPath :=
          fun same => outside (same ▸ List.mem_cons_self)
        exact (later.others path fun member => outside (.tail _ member)).trans
          (done.others path notStep)
      · refine List.forall_mem_cons.mpr ⟨?_, allIntended⟩
        exact intended.congr (later.others _ fresh)
      · intro index
        rw [confirmed index]
        simp only [List.mem_append, List.mem_singleton, List.length_cons]
        constructor
        · rintro ((old | rfl) | ⟨low, high⟩)
          · exact .inl old
          · exact .inr ⟨le_rfl, by omega⟩
          · exact .inr ⟨by omega, by omega⟩
        · rintro (old | ⟨low, high⟩)
          · exact .inl (.inl old)
          · by_cases same : index = loop.attempted
            · exact .inl (.inr same)
            · exact .inr ⟨by omega, by omega⟩
      · have shift : loop.attempted + 1 + before.length =
            loop.attempted + (step :: before).length := by
          rw [List.length_cons]
          omega
        simp only [shift] at ending
        exact ending

structure Ending (files : Files) (steps : List TextPublication) (result : PublishLoop)
    (count : Nat) : Prop where
  others : ∀ path, path ∉ pathsOf steps → result.files path = files path
  confirmed : ∀ index, index ∈ result.confirmed ↔ index < count
  intended : ∀ index step, steps[index]? = some step → index < count →
    Intended result.files step
  untouched : ∀ index step, steps[index]? = some step → count < index →
    Untouched result.files step
  finished : (count = steps.length ∧ result.failure = none ∧ result.attempted = count) ∨
    count < steps.length ∧ result.failure ≠ none ∧ result.attempted = count + 1 ∧
      (count ∈ result.unverified ∨ ∀ step, steps[count]? = some step →
        Untouched result.files step ∨ Intended result.files step)

theorem publishLoop_ending (faults : Nat → Option Fault) {files : Files}
    {steps : List TextPublication} (distinct : (pathsOf steps).Nodup)
    (untouched : ∀ step ∈ steps, Untouched files step) :
    ∃ count, Ending files steps (publishLoop faults (PublishLoop.init files) steps) count := by
  have done := @publishLoop_done faults (PublishLoop.init files) steps rfl distinct untouched
  generalize publishLoop faults (PublishLoop.init files) steps = result at done
  obtain ⟨before, after, rfl, allIntended, confirmed, ending⟩ := done.parts
  simp only [PublishLoop.init, Nat.zero_add, Nat.zero_le, true_and, List.not_mem_nil, false_or,
    List.nil_append] at confirmed ending
  refine ⟨before.length, done.others, confirmed, ?_, ?_, ?_⟩
  · intro index step isStep less
    rw [List.getElem?_append_left less] at isStep
    exact allIntended step (List.mem_of_getElem? isStep)
  · intro index step isStep greater
    rw [List.getElem?_append_right (Nat.le_of_lt greater)] at isStep
    rcases ending with ⟨rfl, _⟩ | ⟨failing, rest, error, rfl, _, _, restUntouched, _⟩
    · simp at isStep
    · have position : index - before.length = (index - before.length - 1) + 1 := by omega
      rw [position, List.getElem?_cons_succ] at isStep
      exact restUntouched step (List.mem_of_getElem? isStep)
  · rcases ending with ⟨rfl, running, attempted, _⟩ |
      ⟨failing, rest, error, rfl, broken, attempted, _, outcome⟩
    · exact .inl ⟨by simp, running, attempted⟩
    · refine .inr ⟨by simp, by simp [broken], attempted, ?_⟩
      rcases outcome with ⟨_, unverified⟩ | ⟨_, _, settled⟩
      · exact .inl (by simp [unverified])
      · refine .inr fun step isStep => ?_
        rw [List.getElem?_append_right le_rfl, Nat.sub_self, List.getElem?_cons_zero] at isStep
        cases isStep
        exact settled

theorem move_kept (faults : Nat → Option Fault) {files : Files} {steps : List TextPublication}
    (distinct : (pathsOf steps).Nodup) (untouched : ∀ step ∈ steps, Untouched files step)
    {index : Nat} {destination source : TextPublication}
    (isDestination : steps[index]? = some destination)
    (isSource : steps[index + 1]? = some source) (taken : Nat) :
    Untouched (publishLoop faults (PublishLoop.init files) (steps.take taken)).files source ∨
      Intended (publishLoop faults (PublishLoop.init files) (steps.take taken)).files
        destination := by
  have takenDistinct : (pathsOf (steps.take taken)).Nodup :=
    distinct.sublist ((List.take_sublist taken steps).map _)
  have takenUntouched : ∀ step ∈ steps.take taken, Untouched files step :=
    fun step member => untouched step (List.mem_of_mem_take member)
  obtain ⟨count, ending⟩ := publishLoop_ending faults takenDistinct takenUntouched
  have size : (steps.take taken).length ≤ taken := List.length_take_le taken steps
  by_cases inside : index + 1 < taken
  · have takenDestination : (steps.take taken)[index]? = some destination := by
      rw [List.getElem?_take_of_lt (by omega), isDestination]
    have takenSource : (steps.take taken)[index + 1]? = some source := by
      rw [List.getElem?_take_of_lt inside, isSource]
    by_cases reached : index < count
    · exact .inr (ending.intended index destination takenDestination reached)
    · exact .inl (ending.untouched (index + 1) source takenSource (by omega))
  · left
    have outside : source.snapshot.realPath ∉ pathsOf (steps.take taken) := by
      intro member
      obtain ⟨other, isOther, same⟩ := List.mem_map.mp member
      obtain ⟨position, isPosition⟩ := List.mem_iff_getElem?.mp isOther
      have bound : position < taken := by
        have short := (List.getElem?_eq_some_iff.mp isPosition).1
        omega
      rw [List.getElem?_take_of_lt bound] at isPosition
      have first : (pathsOf steps)[position]? = some source.snapshot.realPath := by
        rw [pathsOf, List.getElem?_map, isPosition, Option.map_some, same]
      have second : (pathsOf steps)[index + 1]? = some source.snapshot.realPath := by
        rw [pathsOf, List.getElem?_map, isSource, Option.map_some]
      have inside := (List.getElem?_eq_some_iff.mp first).1
      have positions := (List.getElem?_inj inside distinct).mp (first.trans second.symm)
      omega
    exact (untouched source (List.mem_of_getElem? isSource)).congr (ending.others _ outside)

theorem versionOf_intended {files : Files} {step : TextPublication}
    (intended : Intended files step) :
    versionOf (files step.snapshot.realPath) = intendedVersion step := by
  rw [Intended] at intended
  rw [intendedVersion, ← intended]
  cases files step.snapshot.realPath with
  | none => rfl
  | some file => rfl

theorem observe_some {files : Files} {snapshot : FileSnapshot} {budget : Option Nat}
    {after : Option FilePreimage} (observed : observe files snapshot budget = some after) :
    after = files snapshot.realPath := by
  unfold observe at observed
  cases held : files snapshot.realPath with
  | none =>
    rw [held] at observed
    exact (Option.some.inj observed).symm
  | some file =>
    rw [held] at observed
    simp only at observed
    split at observed
    · exact (Option.some.inj observed).symm
    · cases observed

/-- A step reported published is confirmed and its file as intended; one reported not
published has failed without touching its file. -/
theorem Ending.states {files : Files} {steps : List TextPublication} {result : PublishLoop}
    {count : Nat} (ending : Ending files steps result count) {index : Nat}
    {step : TextPublication} (isStep : steps[index]? = some step) {observed : Option Text}
    (honest : ∀ version, observed = some version →
      version = versionOf (result.files step.snapshot.realPath)) :
    (publicationState result index step observed = .notAttempted ↔ result.attempted ≤ index) ∧
      (publicationState result index step observed = .notAttempted →
        Untouched result.files step) ∧
      (publicationState result index step observed = .published →
        index ∈ result.confirmed ∧ Intended result.files step) ∧
      (publicationState result index step observed = .notPublished →
        Untouched result.files step) := by
  have within : index < steps.length := (List.getElem?_eq_some_iff.mp isStep).1
  have behind : result.attempted ≤ index → count < index := by
    intro late
    rcases ending.finished with ⟨all, _, attempted⟩ | ⟨_, _, attempted, _⟩ <;> omega
  unfold publicationState
  by_cases late : result.attempted ≤ index
  · rw [if_pos late]
    refine ⟨⟨fun _ => late, fun _ => rfl⟩,
      fun _ => ending.untouched index step isStep (behind late),
      nofun, nofun⟩
  · rw [if_neg late]
    cases observed with
    | none => exact ⟨⟨nofun, fun wrong => absurd wrong late⟩, nofun, nofun, nofun⟩
    | some version =>
      have isVersion := honest version rfl
      simp only
      split
      next same =>
        split
        next confirmed =>
          exact ⟨⟨nofun, fun wrong => absurd wrong late⟩, nofun,
            fun _ => ⟨confirmed, ending.intended index step isStep
              ((ending.confirmed index).mp confirmed)⟩, nofun⟩
        next => exact ⟨⟨nofun, fun wrong => absurd wrong late⟩, nofun, nofun, nofun⟩
      next differs =>
        split
        next original =>
          refine ⟨⟨nofun, fun wrong => absurd wrong late⟩, nofun, nofun, fun _ => ?_⟩
          -- The step failed, so it is the last one attempted, and its result is known.
          have notLess : ¬index < count := fun less =>
            original.2.1 ((ending.confirmed index).mpr less)
          rcases ending.finished with ⟨all, _, attempted⟩ | ⟨_, _, attempted, outcome⟩
          · omega
          · have last : index = count := by omega
            subst last
            rcases outcome with unverified | settled
            · exact absurd unverified original.2.2
            · rcases settled step isStep with untouched | intended
              · exact untouched
              · exact absurd (isVersion.trans (versionOf_intended intended)) differs
        next => exact ⟨⟨nofun, fun wrong => absurd wrong late⟩, nofun, nofun, nofun⟩

theorem reportSteps_get (loop : PublishLoop) (start : Nat) (budget : Option Nat)
    (failure : Option PublicationError) (steps : List TextPublication) :
    (reportSteps loop start budget failure steps).1.length = steps.length ∧
      ∀ index step, steps[index]? = some step → ∃ publication observed,
        (reportSteps loop start budget failure steps).1[index]? = some publication ∧
        publication.path = step.snapshot.uri ∧
        publication.state = publicationState loop (start + index) step observed ∧
        ∀ version, observed = some version →
          version = versionOf (loop.files step.snapshot.realPath) := by
  induction steps generalizing start budget failure with
  | nil => exact ⟨rfl, by simp⟩
  | cons first rest ih =>
    obtain ⟨length, others⟩ := ih (start + 1)
      (budget.map (· - (((observe loop.files first.snapshot budget).getD none).map
        fun file => file.content.length).getD 0))
      (if start < loop.attempted ∧ publicationState loop start first
          ((observe loop.files first.snapshot budget).map versionOf) ≠ .published ∧
          failure = none then
        some (.unverified first.snapshot.uri (intendedVersion first)
          ((observe loop.files first.snapshot budget).map versionOf))
      else failure)
    refine ⟨by rw [reportSteps, List.length_cons, List.length_cons, length], ?_⟩
    intro index step isStep
    cases index with
    | zero =>
      cases isStep
      refine ⟨_, (observe loop.files first.snapshot budget).map versionOf, rfl, rfl, rfl, ?_⟩
      intro version isVersion
      obtain ⟨after, observed, rfl⟩ := Option.map_eq_some_iff.mp isVersion
      rw [observe_some observed]
    | succ index =>
      obtain ⟨publication, observed, isPublication, path, state, honest⟩ :=
        others index step isStep
      refine ⟨publication, observed, isPublication, path, ?_, honest⟩
      rw [state, Nat.add_assoc, Nat.add_comm 1]

def contentLength (step : TextPublication) : Nat :=
  (step.content.map List.length).getD 0

theorem reportSteps_published {loop : PublishLoop} {start : Nat} {budget : Option Nat}
    {failure : Option PublicationError} {steps : List TextPublication}
    (intended : ∀ step ∈ steps, Intended loop.files step)
    (confirmed : ∀ index, start ≤ index → index < start + steps.length →
      index ∈ loop.confirmed ∧ index < loop.attempted)
    (small : ∀ step ∈ steps, contentLength step ≤ maxFileBytes)
    (fits : ∀ room ∈ budget, (steps.map contentLength).sum ≤ room) :
    ∀ publication ∈ (reportSteps loop start budget failure steps).1,
      publication.state = .published := by
  induction steps generalizing start budget failure with
  | nil => simp [reportSteps]
  | cons first rest ih =>
    obtain ⟨firstIntended, restIntended⟩ := List.forall_mem_cons.mp intended
    obtain ⟨firstSmall, restSmall⟩ := List.forall_mem_cons.mp small
    obtain ⟨isConfirmed, isAttempted⟩ := confirmed start le_rfl (by simp)
    have length : ((loop.files first.snapshot.realPath).map
        fun file => file.content.length).getD 0 = contentLength first := by
      rw [contentLength, ← firstIntended, Option.map_map]
      rfl
    have observed : observe loop.files first.snapshot budget =
        some (loop.files first.snapshot.realPath) := by
      unfold observe
      cases held : loop.files first.snapshot.realPath with
      | none => rfl
      | some file =>
        rw [held] at length
        simp only [Option.map_some, Option.getD_some] at length
        refine if_pos ?_
        cases budget with
        | none => exact length ▸ firstSmall
        | some room =>
          have enough := fits room rfl
          rw [List.map_cons, List.sum_cons] at enough
          simp only [Option.map_some, Option.getD_some, length]
          exact le_min firstSmall (by omega)
    have state : publicationState loop start first
        ((observe loop.files first.snapshot budget).map versionOf) = .published := by
      rw [observed, Option.map_some, versionOf_intended firstIntended, publicationState,
        if_neg (by omega), if_pos rfl, if_pos isConfirmed]
    rw [reportSteps]
    refine List.forall_mem_cons.mpr ⟨state, ih restIntended ?_ restSmall ?_⟩
    · intro index low high
      exact confirmed index (by omega) (by rw [List.length_cons]; omega)
    · intro room isRoom
      obtain ⟨before, isBudget, rfl⟩ := Option.map_eq_some_iff.mp isRoom
      have enough := fits before isBudget
      rw [List.map_cons, List.sum_cons] at enough
      rw [observed, Option.getD_some, length]
      omega

end GraphAgent.TextMutation
