import GraphAgent.TextMutation
import Mathlib.Data.List.Nodup

/-!
# Receipts of text mutations tell the truth

What the checks before publication guarantee of the prepared steps, and with it
what every receipt says about the files, whichever step fails and however.
-/

namespace GraphAgent.TextMutation

open Terminal JsonText PercentText Transaction

theorem captureSnapshots_ok {files : Files} {maxBytes : Option Nat} {captured : Nat}
    {targets : List Target} {snapshots : List (String × FileSnapshot)}
    (succeeded : captureSnapshots files maxBytes captured targets = .ok snapshots) :
    (snapshots.map fun entry => entry.2.realPath) = targets.map Target.realPath ∧
      ∀ entry ∈ snapshots, entry.2.before = files entry.2.realPath := by
  induction targets generalizing captured snapshots with
  | nil =>
    cases succeeded
    exact ⟨rfl, by simp⟩
  | cons target rest ih =>
    rw [captureSnapshots, refuseIf_bind] at succeeded
    simp only [refuseIf_bind] at succeeded
    obtain ⟨_, _, _, succeeded⟩ := succeeded
    obtain ⟨text, _, succeeded⟩ := bind_ok succeeded
    simp only [refuseIf_bind] at succeeded
    obtain ⟨_, _, succeeded⟩ := succeeded
    obtain ⟨others, isOthers, result⟩ := bind_ok succeeded
    cases result
    obtain ⟨paths, held⟩ := ih isOthers
    exact ⟨congrArg _ paths, List.forall_mem_cons.mpr ⟨rfl, held⟩⟩

theorem checkSteps_ok {touched : List String} {steps : List TextPublication}
    (checked : checkSteps touched steps = .ok ()) :
    (steps.map fun step => step.snapshot.uri).Nodup ∧
      (∀ step ∈ steps, step.snapshot.uri ∉ touched) ∧
      ∀ step ∈ steps, contentLength step ≤ maxFileBytes := by
  induction steps generalizing touched with
  | nil => simp
  | cons step rest ih =>
    simp only [checkSteps, refuseIf_bind] at checked
    obtain ⟨fresh, small, rest⟩ := checked
    obtain ⟨distinct, apart, restSmall⟩ := ih rest
    refine ⟨List.nodup_cons.mpr ⟨?_, distinct⟩, ?_, ?_⟩
    · intro member
      obtain ⟨other, isOther, same⟩ := List.mem_map.mp member
      exact apart other isOther (same ▸ List.mem_cons_self)
    · refine List.forall_mem_cons.mpr ⟨fresh, fun other member inTouched => ?_⟩
      exact apart other member (.tail _ inTouched)
    · refine List.forall_mem_cons.mpr ⟨?_, restSmall⟩
      rw [contentLength]
      cases content : step.content with
      | none => exact Nat.zero_le _
      | some content =>
        simp only [*, Option.any_some, Bool.or_eq_true, decide_eq_true_eq, not_or] at small
        exact Nat.not_lt.mp small.1

theorem byteLength_flatten_le {separator : Text} (parts : List Text) :
    (parts.map byteLength).sum ≤ byteLength (List.intercalate separator parts) := by
  induction parts with
  | nil => simp
  | cons first rest ih =>
    cases rest with
    | nil => simp
    | cons second rest =>
      rw [List.intercalate_cons_cons, byteLength_append, byteLength_append, List.map_cons,
        List.sum_cons]
      omega

theorem byteLength_spacedList (parts : List Text) :
    (parts.map byteLength).sum ≤ byteLength (spacedList parts) := by
  have inside := @byteLength_flatten_le ", ".toList parts
  rw [spacedList, List.cons_append, byteLength_cons, byteLength_append]
  omega

theorem byteLength_quoted (text : Text) : byteLength text ≤ byteLength (quoted text) := by
  have escaped := byteLength_le_escaped text
  rw [quoted, List.cons_append, byteLength_cons, byteLength_append]
  omega

theorem byteLength_plannedText (step : TextPublication) (text : Text) :
    byteLength text ≤ byteLength (plannedText step text) := by
  have inside := byteLength_quoted text
  rw [plannedText, spacedObject, List.cons_append, byteLength_cons, byteLength_append]
  simp only [List.map_cons, List.map_nil, List.intercalate_cons_cons, byteLength_append,
    List.intercalate_singleton]
  omega

theorem encodeUtf8_of_decodeUtf8 {bytes : Bytes} {text : Text}
    (decoded : decodeUtf8 bytes = some text) : encodeUtf8 text = bytes := by
  obtain ⟨chars, isChars, rfl⟩ := Option.map_eq_some_iff.mp decoded
  have again : chars.toList.utf8Encode = bytes.toByteArray := by
    have encoded := @ByteArray.utf8Encode_get_utf8Decode? bytes.toByteArray (by simp [isChars])
    simpa [isChars] using encoded
  have data := congrArg (fun array : ByteArray => array.data.toList) again
  simpa [encodeUtf8, List.utf8Encode] using data

theorem contentLength_of_decodeContent {step : TextPublication} {text : Text}
    (decoded : decodeContent step = .ok text) : contentLength step = byteLength text := by
  rw [decodeContent] at decoded
  rw [contentLength]
  cases content : step.content with
  | none =>
    rw [content] at decoded
    cases decoded
    rfl
  | some content' =>
    rw [content] at decoded
    cases isText : decodeUtf8 content' with
    | none =>
      simp only [isText] at decoded
      cases decoded
    | some text' =>
      simp only [isText] at decoded
      cases decoded
      rw [Option.map_some, Option.getD_some, ← encodeUtf8_of_decodeUtf8 isText,
        length_encodeUtf8]

theorem sum_contentLength_le {steps : List TextPublication} {planned : List Text}
    (related : List.Forall₂ (fun step result =>
      (plannedText step ·) <$> decodeContent step = .ok result) steps planned) :
    (steps.map contentLength).sum ≤ (planned.map byteLength).sum := by
  induction related with
  | nil => simp
  | @cons step result steps planned head _ ih =>
    obtain ⟨text, decoded, rfl⟩ := map_ok head
    have length := contentLength_of_decodeContent decoded
    have inside := byteLength_plannedText step text
    simp only [List.map_cons, List.sum_cons]
    exact Nat.add_le_add (length ▸ inside) ih

theorem checkJournal_ok {snapshots : List (String × FileSnapshot)}
    {steps : List TextPublication} {limit : Nat}
    (checked : checkJournal snapshots steps limit = .ok ()) :
    (steps.map contentLength).sum ≤ limit := by
  obtain ⟨records, _, checked⟩ := bind_ok checked
  obtain ⟨planned, isPlanned, checked⟩ := bind_ok checked
  rw [refuseIf_ok] at checked
  have parts := sum_contentLength_le (mapM_ok isPlanned)
  have plannedFits := byteLength_spacedList planned
  have outer := byteLength_spacedList [spacedList records, spacedList planned]
  simp only [List.map_cons, List.map_nil, List.sum_cons, List.sum_nil] at outer
  omega

theorem mem_utf8EncodeChar {char : Char} {byte : UInt8} (member : byte ∈ String.utf8EncodeChar char)
    (ascii : byte.toNat < 128) : char.toNat = byte.toNat := by
  have bound : char.val.toNat < 0x110000 := by
    have valid : char.toNat < 0xD800 ∨ 0xDFFF < char.toNat ∧ char.toNat < 0x110000 := char.valid
    show char.toNat < _
    omega
  show char.val.toNat = byte.toNat
  unfold String.utf8EncodeChar at member
  dsimp only at member
  split_ifs at member with one two three
  · rw [List.mem_singleton] at member
    rw [member, UInt8.toNat_ofNat']
    omega
  all_goals
    simp only [List.mem_cons, List.not_mem_nil, or_false] at member
    rcases member with rfl | rfl | rfl | rfl <;> rw [UInt8.toNat_ofNat'] at ascii <;> omega

theorem replacePair_append {first second : UInt8} {replacement bytes : Bytes}
    (plain : first ∉ bytes) (rest : Bytes) :
    replacePair first second replacement (bytes ++ rest) =
      bytes ++ replacePair first second replacement rest := by
  induction bytes with
  | nil => rfl
  | cons byte bytes ih =>
    have notFirst : byte ≠ first := fun same => plain (same ▸ List.mem_cons_self)
    have others := ih fun member => plain (.tail _ member)
    rw [List.cons_append, List.cons_append, ← others]
    cases joined : bytes ++ rest with
    | nil => simp [replacePair]
    | cons next tail => rw [replacePair, if_neg fun both => notFirst both.1]

theorem carriage_notMem {char : Char} (other : char ≠ '\r') : 13 ∉ String.utf8EncodeChar char := by
  intro member
  have same := mem_utf8EncodeChar member (by decide)
  exact other (Char.toNat_inj.mp same)

theorem encodeUtf8_cons (char : Char) (text : Text) :
    encodeUtf8 (char :: text) = String.utf8EncodeChar char ++ encodeUtf8 text := by
  simp [encodeUtf8]

theorem replacePair_encodeUtf8 (text : Text) :
    replacePair 13 10 [] (encodeUtf8 text) = encodeUtf8 (replacePair '\r' '\n' [] text) := by
  induction text using replacePair.induct '\r' '\n' with
  | case1 => rfl
  | case2 char =>
    by_cases carriage : char = '\r'
    · subst carriage
      rfl
    · have kept := @replacePair_append 13 10 [] _ (carriage_notMem carriage) []
      rw [show replacePair 13 10 [] ([] : Bytes) = [] from rfl, List.append_nil] at kept
      simpa [encodeUtf8, replacePair] using kept
  | case3 char next rest pair ih =>
    obtain ⟨rfl, rfl⟩ := pair
    have bytes : encodeUtf8 ('\r' :: '\n' :: rest) = 13 :: 10 :: encodeUtf8 rest := rfl
    rw [bytes, replacePair, if_pos ⟨rfl, rfl⟩, replacePair, if_pos ⟨rfl, rfl⟩, List.nil_append,
      List.nil_append, ih]
  | case4 char next rest apart ih =>
    rw [replacePair, if_neg apart, encodeUtf8_cons char, encodeUtf8_cons char, ← ih]
    by_cases carriage : char = '\r'
    · subst carriage
      have notFeed : next ≠ '\n' := fun same => apart ⟨rfl, same⟩
      obtain ⟨byte, bytes, isBytes⟩ : ∃ byte bytes,
          String.utf8EncodeChar next = byte :: bytes := by
        refine List.exists_cons_of_ne_nil fun empty => ?_
        have size := String.length_utf8EncodeChar next
        rw [empty] at size
        exact absurd size (Nat.ne_of_lt next.utf8Size_pos)
      have notTen : byte ≠ 10 := by
        rintro rfl
        have same := mem_utf8EncodeChar (isBytes ▸ List.mem_cons_self : (10 : UInt8) ∈ _)
          (by decide)
        exact notFeed (Char.toNat_inj.mp same)
      have first : String.utf8EncodeChar '\r' = [13] := rfl
      rw [encodeUtf8_cons, isBytes, first, List.singleton_append, List.cons_append, replacePair,
        if_neg fun both => notTen both.2]
      rfl
    · exact replacePair_append (carriage_notMem carriage) _

theorem flatMap_replacePair {text : Text} (paired : '\n' ∉ replacePair '\r' '\n' [] text) :
    (replacePair '\r' '\n' ['\n'] text).flatMap
      (fun char => if char = '\n' then ['\r', '\n'] else [char]) = text := by
  induction text using replacePair.induct '\r' '\n' with
  | case1 => rfl
  | case2 char =>
    have other : char ≠ '\n' := fun same => paired (same ▸ List.mem_singleton_self _)
    simp [replacePair, other]
  | case3 char next rest pair ih =>
    obtain ⟨rfl, rfl⟩ := pair
    rw [replacePair, if_pos ⟨rfl, rfl⟩, List.nil_append] at paired
    rw [replacePair, if_pos ⟨rfl, rfl⟩, List.singleton_append, List.flatMap_cons, if_pos rfl,
      ih paired]
    rfl
  | case4 char next rest apart ih =>
    rw [replacePair, if_neg apart] at paired
    have other : char ≠ '\n' := fun same => paired (same ▸ List.mem_cons_self)
    rw [replacePair, if_neg apart, List.flatMap_cons, if_neg other,
      ih fun member => paired (.tail _ member)]
    rfl

theorem prepared_unedited {file : FilePreimage} {text : Text}
    (decoded : decodeUtf8 file.content = some text) :
    encodeUtf8 (withLineEnding (some file) (readText (some file) text)) = file.content := by
  have bytes := encodeUtf8_of_decodeUtf8 decoded
  by_cases carriage : endsWithCarriage (some file)
  · rw [withLineEnding, readText, if_pos carriage, if_pos carriage]
    have paired : '\n' ∉ replacePair '\r' '\n' [] text := by
      intro member
      rw [endsWithCarriage, Option.any_some, ← bytes, replacePair_encodeUtf8, Bool.and_eq_true,
        Bool.not_eq_true'] at carriage
      have feed : (10 : UInt8) ∈ encodeUtf8 (replacePair '\r' '\n' [] text) :=
        List.mem_flatMap.mpr ⟨'\n', member, by decide⟩
      rw [List.contains_iff_mem.mpr feed] at carriage
      exact Bool.noConfusion carriage.2
    rw [flatMap_replacePair paired, bytes]
  · rw [withLineEnding, readText, if_neg carriage, if_neg carriage, bytes]

def UsesSnapshots
    (prepare : List (String × FileSnapshot) → Except Refusal (List TextPublication)) : Prop :=
  ∀ snapshots steps, prepare snapshots = .ok steps →
    ∀ step ∈ steps, step.snapshot ∈ snapshots.map Prod.snd

theorem snapshotNamed_mem {snapshots : List (String × FileSnapshot)} {name : String}
    {snapshot : FileSnapshot} (found : snapshotNamed snapshots name = .ok snapshot) :
    snapshot ∈ snapshots.map Prod.snd := by
  rw [snapshotNamed] at found
  cases entry : snapshots.find? (·.1 = name) with
  | none =>
    rw [entry] at found
    cases found
  | some entry' =>
    rw [entry] at found
    cases found
    exact List.mem_map_of_mem (List.mem_of_find?_eq_some entry)

theorem prepareChange_uses {snapshots : List (String × FileSnapshot)} {name : String}
    {change : FileChange} {steps : List TextPublication}
    (prepared : prepareChange snapshots name change = .ok steps) :
    ∀ step ∈ steps, step.snapshot ∈ snapshots.map Prod.snd := by
  obtain ⟨source, isSource, prepared⟩ := bind_ok prepared
  have sourceIn := snapshotNamed_mem isSource
  simp only at prepared
  split at prepared
  next =>
    cases prepared
    exact List.forall_mem_singleton.mpr sourceIn
  next =>
    split at prepared
    next movePath _ =>
      obtain ⟨destination, isDestination, prepared⟩ := bind_ok prepared
      cases prepared
      exact List.forall_mem_cons.mpr
        ⟨snapshotNamed_mem isDestination, List.forall_mem_singleton.mpr sourceIn⟩
    next =>
      cases prepared
      exact List.forall_mem_singleton.mpr sourceIn

theorem prepareSteps_uses (commit : List (String × FileChange)) :
    UsesSnapshots (prepareSteps commit) := by
  intro snapshots steps prepared step member
  obtain ⟨parts, isParts, result⟩ := bind_ok prepared
  cases result
  obtain ⟨part, isPart, inside⟩ := List.mem_flatten.mp member
  rw [(mapM_iff.mp isParts).2] at isPart
  obtain ⟨entry, _, isChange⟩ := List.mem_filterMap.mp isPart
  cases changed : prepareChange snapshots entry.1 entry.2 with
  | error refusal =>
    rw [changed] at isChange
    cases isChange
  | ok prepared =>
    rw [changed] at isChange
    cases isChange
    exact prepareChange_uses changed step inside

structure Prepared (files : Files) (steps : List TextPublication) (budget : Option Nat) :
    Prop where
  distinct : (pathsOf steps).Nodup
  untouched : ∀ step ∈ steps, Untouched files step
  small : ∀ step ∈ steps, contentLength step ≤ maxFileBytes
  fits : ∀ room ∈ budget, (steps.map contentLength).sum ≤ room
  filled : steps ≠ []

theorem executeTextMutation_ok {files : Files} {targets : List Target}
    {prepare : List (String × FileSnapshot) → Except Refusal (List TextPublication)}
    {maxJournalBytes : Option Nat} {faults : Nat → Option Fault} {outcome : Outcome}
    (uses : UsesSnapshots prepare)
    (executed : executeTextMutation files targets prepare maxJournalBytes faults = .ok outcome) :
    Prepared files outcome.steps maxJournalBytes ∧
      outcome.loop = publishLoop faults (PublishLoop.init files) outcome.steps ∧
      outcome.publications =
        (reportSteps outcome.loop 0 maxJournalBytes outcome.loop.failure outcome.steps).1 ∧
      outcome.effect = effectOf (outcome.publications.map Publication.state) := by
  rw [executeTextMutation, refuseIf_bind] at executed
  obtain ⟨distinctTargets, executed⟩ := executed
  obtain ⟨snapshots, captured, executed⟩ := bind_ok executed
  obtain ⟨steps, prepared, executed⟩ := bind_ok executed
  obtain ⟨_, checked, executed⟩ := bind_ok executed
  rw [refuseIf_bind] at executed
  obtain ⟨changed, executed⟩ := executed
  obtain ⟨_, journal, result⟩ := bind_ok executed
  cases result
  obtain ⟨paths, held⟩ := captureSnapshots_ok captured
  obtain ⟨distinctUris, _, small⟩ := checkSteps_ok checked
  have stepSnapshots := uses snapshots steps prepared
  have realPaths : ((snapshots.map Prod.snd).map FileSnapshot.realPath).Nodup := by
    rw [List.map_map]
    exact paths ▸ not_not.mp distinctTargets
  refine ⟨?_, rfl, rfl, rfl⟩
  exact
    { distinct := by
        have snapshotsDistinct : (steps.map TextPublication.snapshot).Nodup := by
          have uris : ((steps.map TextPublication.snapshot).map FileSnapshot.uri).Nodup := by
            rw [List.map_map]
            exact distinctUris
          exact List.Nodup.of_map _ uris
        have mapped : pathsOf steps =
            (steps.map TextPublication.snapshot).map FileSnapshot.realPath := by
          rw [List.map_map]
          rfl
        rw [mapped]
        refine List.Nodup.map_on ?_ snapshotsDistinct
        intro first firstIn second secondIn same
        obtain ⟨firstStep, isFirst, rfl⟩ := List.mem_map.mp firstIn
        obtain ⟨secondStep, isSecond, rfl⟩ := List.mem_map.mp secondIn
        exact List.inj_on_of_nodup_map realPaths (stepSnapshots firstStep isFirst)
          (stepSnapshots secondStep isSecond) same
      untouched := by
        intro step member
        obtain ⟨entry, isEntry, same⟩ := List.mem_map.mp (stepSnapshots step member)
        have before := held entry isEntry
        rw [same] at before
        exact before.symm
      small := small
      fits := by
        intro room isRoom
        exact checkJournal_ok (forM_ok journal room (Option.mem_toList.mpr isRoom))
      filled := by
        rintro rfl
        simp at changed }

theorem effectOf_completed (states : List PublicationState) :
    effectOf states = .completed ↔ states ≠ [] ∧ ∀ state ∈ states, state = .published := by
  rw [effectOf]
  by_cases unknown : PublicationState.unknown ∈ states
  · rw [if_pos unknown]
    exact ⟨nofun, fun all => nomatch all.2 _ unknown⟩
  · rw [if_neg unknown]
    split
    next all => exact ⟨fun _ => all, fun _ => rfl⟩
    next partly =>
      refine ⟨fun same => ?_, fun all => absurd all partly⟩
      split at same <;> cases same

theorem effectOf_notExecuted {states : List PublicationState}
    (nothing : effectOf states = .notExecuted) :
    ∀ state ∈ states, state = .notAttempted ∨ state = .notPublished := by
  intro state member
  unfold effectOf at nothing
  split at nothing
  next => cases nothing
  next known =>
    split at nothing
    next => cases nothing
    next =>
      split at nothing
      next => cases nothing
      next unpublished =>
        cases state with
        | notAttempted => exact .inl rfl
        | notPublished => exact .inr rfl
        | unknown => exact absurd member known
        | published => exact absurd member unpublished

/-- Whichever step fails and however, the receipt tells the truth about every file, and
a move keeps its source until the destination holds what was prepared for it, which
without edits are the bytes of the source. -/
theorem receipts_tell_the_truth {files : Files} {targets : List Target}
    {prepare : List (String × FileSnapshot) → Except Refusal (List TextPublication)}
    {maxJournalBytes : Option Nat} {faults : Nat → Option Fault} {outcome : Outcome}
    (uses : UsesSnapshots prepare)
    (executed : executeTextMutation files targets prepare maxJournalBytes faults = .ok outcome) :
    (outcome.publications.length = outcome.steps.length ∧
      ∀ (index : Nat) (step : TextPublication), outcome.steps[index]? = some step →
        ∃ publication, outcome.publications[index]? = some publication ∧
        publication.path = step.snapshot.uri ∧
        (outcome.loop.attempted ≤ index → publication.state = .notAttempted) ∧
        (publication.state = .notAttempted ∨ publication.state = .notPublished →
          outcome.loop.files step.snapshot.realPath = files step.snapshot.realPath) ∧
        (publication.state = .published →
          (outcome.loop.files step.snapshot.realPath).map FilePreimage.content =
            step.content)) ∧
    (outcome.loop.failure = none ∧ outcome.loop.attempted = outcome.steps.length ∨
      outcome.loop.failure ≠ none ∧ outcome.loop.attempted ≤ outcome.steps.length ∧
        ∀ index, index ∈ outcome.loop.confirmed ↔ index + 1 < outcome.loop.attempted) ∧
    (outcome.effect = .completed ↔ ∀ (index : Nat) (step : TextPublication),
      outcome.steps[index]? = some step → index ∈ outcome.loop.confirmed ∧
        (outcome.loop.files step.snapshot.realPath).map FilePreimage.content = step.content) ∧
    (outcome.effect = .notExecuted → outcome.loop.files = files) ∧
    (∀ (index : Nat) (destination source : TextPublication),
      outcome.steps[index]? = some destination →
      outcome.steps[index + 1]? = some source → ∀ taken,
        (publishLoop faults (PublishLoop.init files) (outcome.steps.take taken)).files
            source.snapshot.realPath = files source.snapshot.realPath ∨
          ((publishLoop faults (PublishLoop.init files) (outcome.steps.take taken)).files
            destination.snapshot.realPath).map FilePreimage.content = destination.content) ∧
    ∀ (file : FilePreimage) (text : Text), decodeUtf8 file.content = some text →
      encodeUtf8 (withLineEnding (some file) (readText (some file) text)) = file.content := by
  obtain ⟨prepared, isLoop, isPublications, isEffect⟩ := executeTextMutation_ok uses executed
  obtain ⟨count, ending⟩ := publishLoop_ending faults prepared.distinct prepared.untouched
  rw [← isLoop] at ending
  obtain ⟨length, reported⟩ := reportSteps_get outcome.loop 0 maxJournalBytes
    outcome.loop.failure outcome.steps
  rw [← isPublications] at length reported
  have before : ∀ (index : Nat) (step : TextPublication), outcome.steps[index]? = some step →
      step.snapshot.before = files step.snapshot.realPath := fun index step isStep =>
    (prepared.untouched step (List.mem_of_getElem? isStep)).symm
  have states : ∀ (index : Nat) (step : TextPublication),
      outcome.steps[index]? = some step → ∃ publication,
      outcome.publications[index]? = some publication ∧
      publication.path = step.snapshot.uri ∧
      (publication.state = .notAttempted ↔ outcome.loop.attempted ≤ index) ∧
      (publication.state = .notAttempted → Untouched outcome.loop.files step) ∧
      (publication.state = .published →
        index ∈ outcome.loop.confirmed ∧ Intended outcome.loop.files step) ∧
      (publication.state = .notPublished → Untouched outcome.loop.files step) := by
    intro index step isStep
    obtain ⟨publication, observed, isPublication, path, state, honest⟩ :=
      reported index step isStep
    rw [Nat.zero_add] at state
    refine ⟨publication, isPublication, path, ?_⟩
    rw [state]
    exact ending.states isStep honest
  refine ⟨⟨length, ?_⟩, ?_, ?_, ?_, ?_, fun file text decoded => prepared_unedited decoded⟩
  · intro index step isStep
    obtain ⟨publication, isPublication, path, attempted, notAttempted, published,
      notPublished⟩ := states index step isStep
    refine ⟨publication, isPublication, path, attempted.mpr, ?_, fun done => (published done).2⟩
    intro unchanged
    rw [← before index step isStep]
    exact unchanged.elim notAttempted notPublished
  · rcases ending.finished with ⟨all, running, attempted⟩ | ⟨short, broken, attempted, _⟩
    · exact .inl ⟨running, attempted.trans all⟩
    · refine .inr ⟨broken, by omega, fun index => ?_⟩
      rw [ending.confirmed index]
      omega
  · rw [isEffect, effectOf_completed]
    constructor
    · rintro ⟨_, all⟩ index step isStep
      obtain ⟨publication, isPublication, _, _, _, published, _⟩ := states index step isStep
      exact published (all publication.state
        (List.mem_map_of_mem (List.mem_of_getElem? isPublication)))
    · intro all
      have confirmed : ∀ index, 0 ≤ index → index < 0 + outcome.steps.length →
          index ∈ outcome.loop.confirmed ∧ index < outcome.loop.attempted := by
        intro index _ less
        rw [Nat.zero_add] at less
        have isConfirmed := (all index outcome.steps[index] (List.getElem?_eq_getElem less)).1
        have reached := (ending.confirmed index).mp isConfirmed
        refine ⟨isConfirmed, ?_⟩
        rcases ending.finished with ⟨_, _, attempted⟩ | ⟨_, _, attempted, _⟩ <;> omega
      have intended : ∀ step ∈ outcome.steps, Intended outcome.loop.files step := by
        intro step member
        obtain ⟨index, isStep⟩ := List.mem_iff_getElem?.mp member
        exact (all index step isStep).2
      refine ⟨?_, ?_⟩
      · intro empty
        have none := List.map_eq_nil_iff.mp empty
        rw [none] at length
        exact prepared.filled (List.length_eq_zero_iff.mp length.symm)
      · intro state member
        obtain ⟨publication, isPublication, rfl⟩ := List.mem_map.mp member
        rw [isPublications] at isPublication
        exact reportSteps_published intended confirmed prepared.small prepared.fits publication
          isPublication
  · intro nothing
    rw [isEffect] at nothing
    have kept := effectOf_notExecuted nothing
    funext path
    by_cases inside : path ∈ pathsOf outcome.steps
    · obtain ⟨step, member, rfl⟩ := List.mem_map.mp inside
      obtain ⟨index, isStep⟩ := List.mem_iff_getElem?.mp member
      obtain ⟨publication, isPublication, _, _, notAttempted, _, notPublished⟩ :=
        states index step isStep
      rw [← before index step isStep]
      exact (kept publication.state
        (List.mem_map_of_mem (List.mem_of_getElem? isPublication))).elim notAttempted notPublished
    · exact ending.others path inside
  · intro index destination source isDestination isSource taken
    rw [← before (index + 1) source isSource]
    exact move_kept faults prepared.distinct prepared.untouched isDestination isSource taken

/-- A draft that a patch renames while it edits it. -/
def draft : FilePreimage := ⟨[111, 108, 100], 0o644⟩

def draftFiles : Files :=
  fun path => if path = "/w/draft.md" then some draft else none

def draftTargets : List Target :=
  [⟨"draft.md", "boxteam://draft.md", "/w/draft.md", draft.contentHash⟩,
    ⟨"final.md", "boxteam://final.md", "/w/final.md", "absent".toList⟩]

def draftCommit : List (String × FileChange) :=
  [("draft.md", ⟨.update, some "new".toList, some "final.md"⟩)]

/-- The loop confirms the first step, and the second fails after its unlink. -/
theorem receipts_tell_the_truth_draft :
    ∃ outcome, executeTextMutation draftFiles draftTargets (prepareSteps draftCommit) none
        (fun index => if index = 1 then some .after else none) = .ok outcome ∧
      outcome.publications.length = outcome.steps.length := by
  obtain ⟨outcome, executed⟩ : ∃ outcome, executeTextMutation draftFiles draftTargets
      (prepareSteps draftCommit) none (fun index => if index = 1 then some .after else none) =
        .ok outcome := by
    cases result : executeTextMutation draftFiles draftTargets (prepareSteps draftCommit) none
        (fun index => if index = 1 then some .after else none) with
    | ok outcome => exact ⟨outcome, rfl⟩
    | error refusal =>
      have succeeds : (executeTextMutation draftFiles draftTargets (prepareSteps draftCommit) none
          (fun index => if index = 1 then some .after else none)).toOption.isSome = true := by
        decide +kernel
      rw [result] at succeeds
      cases succeeds
  exact ⟨outcome, executed,
    (receipts_tell_the_truth (prepareSteps_uses draftCommit) executed).1.1⟩

/-- A move with an edit completes, and the content of its source is at neither file. -/
theorem edited_move_drops_source :
    (executeTextMutation draftFiles draftTargets (prepareSteps draftCommit) none
        (fun _ => none)).toOption.map (fun outcome =>
          (outcome.effect, (outcome.loop.files "/w/draft.md").map FilePreimage.content,
            (outcome.loop.files "/w/final.md").map FilePreimage.content)) =
        some (.completed, none, some (encodeUtf8 "new".toList)) ∧
      encodeUtf8 "new".toList ≠ draft.content := by
  decide +kernel

end GraphAgent.TextMutation
