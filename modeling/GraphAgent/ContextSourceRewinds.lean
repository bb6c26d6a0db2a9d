import GraphAgent.ContextSourceCuts
import GraphAgent.ContextSourceRuns
import GraphAgent.DictionaryUpdates

/-!
# Sources that survive a rewind

The cut that a boundary freezes lies at an item of its source view.  A rewind keeps
the untracked sources of the sealed assembly whose recorded position is before that
item, so that a later cut of the same view keeps more of them, and every source shows
the last of its kept revisions afterwards.
-/

namespace GraphAgent.ContextSources

def SealedUntracked (states : List ControlRow) (assembly : SourceAssembly)
    (refId revision : String) : Prop :=
  ∃ entry ∈ assembly.selection, entry.refId = refId ∧
    ∃ sourceId ∈ untrackedSources states, assembly.injected entry = some (sourceId, revision)

def SourceAssembly.revisionOf (assembly : SourceAssembly) (entry : SourceSelection) : String :=
  ((assembly.injected entry).map Prod.snd).getD ""

/-- The references that may be kept, with their revisions. -/
def SourceAssembly.candidates (assembly : SourceAssembly) (states : List ControlRow) :
    Dictionary String String :=
  Dictionary.ofList
    ((assembly.selection.filter (selectsAny assembly (untrackedSources states))).map fun entry =>
      (entry.refId, assembly.revisionOf entry))

/-- The position of a reference when its assembly was sealed. -/
def frontierOf (tables : CutTables) (states : List ControlRow) (assembly : SourceAssembly)
    (refId : String) : Option (Option String × Option String) :=
  (recordedFrontiers tables assembly (assembly.candidates states)).lookup refId

def LiesBefore (ordinals : Dictionary String Nat) (cut : Option String)
    (frontier : Option String × Option String) : Prop :=
  ∀ anchor, cut = some anchor →
    frontier.1 = some "start" ∨ ∃ place anchorPlace, frontier.2.bind ordinals.lookup = some place ∧
      ordinals.lookup anchor = some anchorPlace ∧ place < anchorPlace

section Selection

variable {states : List ControlRow} {assembly : SourceAssembly} {entry : SourceSelection}
  {refId revision : String} {identity : SourceIdentity}

theorem contributionOf_mem {contributions : List SourceContribution}
    {source : SourceContribution} (found : contributionOf contributions entry = some source) :
    source ∈ contributions := by
  obtain ⟨contributionId, -, stored⟩ := Option.bind_eq_some_iff.mp found
  have listed := Dictionary.mem_of_lookup_ofList stored
  obtain ⟨other, member, same⟩ := List.mem_map.mp listed
  cases same
  exact member

theorem injected_revision (member : entry ∈ assembly.selection)
    (injects : assembly.injected entry = some identity) :
    entry.sourceRevision = some identity.2 ∧ identity.2 ≠ "" := by
  unfold SourceAssembly.injected at injects
  split at injects
  · rename_i usable
    obtain ⟨source, found, named⟩ := Option.bind_eq_some_iff.mp injects
    obtain ⟨sourceRef, -, rfl⟩ := Option.map_eq_some_iff.mp named
    rw [Bool.and_eq_true] at usable
    exact ⟨assembly.revisions entry member usable.1 source found,
      assembly.nonempty source (contributionOf_mem found)⟩
  · cases injects

theorem selectsAny_iff {sources : List String} :
    selectsAny assembly sources entry = true ↔
      ∃ sourceId ∈ sources, assembly.injected entry =
        some (sourceId, assembly.revisionOf entry) := by
  unfold selectsAny SourceAssembly.revisionOf
  cases injects : assembly.injected entry with
  | none => simp
  | some identity =>
    constructor
    · intro listed
      exact ⟨identity.1, by simpa using listed, rfl⟩
    · rintro ⟨sourceId, listed, same⟩
      have named : identity.1 = sourceId := congrArg Prod.fst (Option.some.inj same)
      simpa [named] using listed

theorem mapM_eq_ok {Error Value Result : Type} {values : List Value}
    {build : Value → Except Error Result} (result : Value → Result)
    (built : ∀ value ∈ values, build value = .ok (result value)) :
    values.mapM build = .ok (values.map result) := by
  induction values with
  | nil => rfl
  | cons value values ih =>
    rw [List.mapM_cons, built value (List.mem_cons_self ..),
      ih fun later member => built later (List.mem_cons_of_mem _ member)]
    rfl

theorem selectedRefs_eq (states : List ControlRow) (assembly : SourceAssembly) :
    selectedRefs states assembly = .ok (assembly.candidates states) := by
  unfold selectedRefs SourceAssembly.candidates
  rw [mapM_eq_ok fun entry => (entry.refId, assembly.revisionOf entry)]
  · rfl
  · intro entry member
    obtain ⟨listed, selects⟩ := List.mem_filter.mp member
    obtain ⟨sourceId, -, injects⟩ := selectsAny_iff.mp selects
    obtain ⟨revision, nonempty⟩ := injected_revision listed injects
    rw [revision]
    simp only [strictText, if_neg nonempty]
    rfl

theorem lookup_candidates :
    (assembly.candidates states).lookup refId = some revision ↔
      SealedUntracked states assembly refId revision := by
  unfold SourceAssembly.candidates
  rw [Dictionary.lookup_ofList_iff]
  · constructor
    · intro listed
      obtain ⟨entry, member, same⟩ := List.mem_map.mp listed
      obtain ⟨selected, selects⟩ := List.mem_filter.mp member
      obtain ⟨sourceId, untracked, injects⟩ := selectsAny_iff.mp selects
      cases same
      exact ⟨entry, selected, rfl, sourceId, untracked, injects⟩
    · rintro ⟨entry, selected, rfl, sourceId, untracked, injects⟩
      have named : assembly.revisionOf entry = revision := by
        rw [SourceAssembly.revisionOf, injects]
        rfl
      apply List.mem_map.mpr
      refine ⟨entry, List.mem_filter.mpr ⟨selected, selectsAny_iff.mpr ?_⟩, by rw [named]⟩
      exact ⟨sourceId, untracked, by rw [injects, named]⟩
  · rw [List.map_map]
    exact assembly.distinct.sublist (List.filter_sublist.map _)

end Selection

section Keeping

variable {ordinals : Dictionary String Nat} {anchor : Nat} {selected : Dictionary String String}
  {entries : List (String × Option String × Option String)} {retained : List (String × String)}
  {refId revision : String}

def Placed (ordinals : Dictionary String Nat) (frontier : Option String × Option String) : Prop :=
  frontier.1 = some "start" ∨ (frontier.2.bind ordinals.lookup).isSome

theorem keepBefore_cons {found : String} {kind item : Option String} :
    keepBefore ordinals anchor selected ((found, kind, item) :: entries) =
      if kind = some "start" then
        keepBefore ordinals anchor selected entries >>= fun later =>
          .ok (((selected.lookup found).toList.map fun revision => (found, revision)) ++ later)
      else
        match item.bind ordinals.lookup with
        | none => .error (.frontier "来源前沿不属于 canonical source view")
        | some place => keepBefore ordinals anchor selected entries >>= fun later =>
          .ok (if place < anchor then
            ((selected.lookup found).toList.map fun revision => (found, revision)) ++ later
          else later) :=
  rfl

theorem keepBefore_returns :
    (∃ retained, keepBefore ordinals anchor selected entries = .ok retained) ↔
      ∀ entry ∈ entries, Placed ordinals entry.2 := by
  induction entries with
  | nil => simp [keepBefore]
  | cons entry entries ih =>
    obtain ⟨found, kind, item⟩ := entry
    rw [List.forall_mem_cons, ← ih, keepBefore_cons]
    unfold Placed
    by_cases starts : kind = some "start"
    · simp only [starts, true_or, true_and]
      cases keepBefore ordinals anchor selected entries with
      | error reason => exact ⟨by rintro ⟨_, ⟨⟩⟩, by rintro ⟨_, ⟨⟩⟩⟩
      | ok later => exact ⟨fun _ => ⟨_, rfl⟩, fun _ => ⟨_, rfl⟩⟩
    · simp only [false_or, starts]
      cases item.bind ordinals.lookup with
      | none => exact ⟨by rintro ⟨_, ⟨⟩⟩, by rintro ⟨⟨⟩, _⟩⟩
      | some place =>
        cases keepBefore ordinals anchor selected entries with
        | error reason => exact ⟨by rintro ⟨_, ⟨⟩⟩, by rintro ⟨_, _, ⟨⟩⟩⟩
        | ok later => exact ⟨fun _ => ⟨rfl, _, rfl⟩, fun _ => ⟨_, rfl⟩⟩

theorem mem_keepBefore (kept : keepBefore ordinals anchor selected entries = .ok retained) :
    (refId, revision) ∈ retained ↔
      selected.lookup refId = some revision ∧ ∃ frontier, (refId, frontier) ∈ entries ∧
        (frontier.1 = some "start" ∨
          ∃ place, frontier.2.bind ordinals.lookup = some place ∧ place < anchor) := by
  induction entries generalizing retained with
  | nil =>
    cases kept
    constructor
    · rintro ⟨⟩
    · rintro ⟨-, frontier, ⟨⟩, -⟩
  | cons entry entries ih =>
    obtain ⟨found, kind, item⟩ := entry
    have own : ((refId, revision) ∈
        (selected.lookup found).toList.map fun revision => (found, revision)) ↔
          refId = found ∧ selected.lookup refId = some revision := by
      constructor
      · intro listed
        obtain ⟨value, stored, same⟩ := List.mem_map.mp listed
        cases same
        exact ⟨rfl, Option.mem_toList.mp stored⟩
      · rintro ⟨rfl, stored⟩
        exact List.mem_map.mpr ⟨revision, Option.mem_toList.mpr stored, rfl⟩
    rw [keepBefore_cons] at kept
    by_cases starts : kind = some "start"
    · simp only [if_pos starts] at kept
      obtain ⟨later, rest, same⟩ := Transaction.bind_ok kept
      cases same
      rw [List.mem_append, own, ih rest]
      constructor
      · rintro (⟨rfl, stored⟩ | ⟨stored, frontier, listed, before⟩)
        · exact ⟨stored, (kind, item), List.mem_cons_self .., .inl starts⟩
        · exact ⟨stored, frontier, List.mem_cons_of_mem _ listed, before⟩
      · rintro ⟨stored, frontier, listed, before⟩
        rcases List.mem_cons.mp listed with same | listed
        · cases same
          exact .inl ⟨rfl, stored⟩
        · exact .inr ⟨stored, frontier, listed, before⟩
    · simp only [if_neg starts] at kept
      split at kept
      · cases kept
      · rename_i place placed
        obtain ⟨later, rest, same⟩ := Transaction.bind_ok kept
        cases same
        by_cases before : place < anchor
        · rw [if_pos before, List.mem_append, own, ih rest]
          constructor
          · rintro (⟨rfl, stored⟩ | ⟨stored, frontier, listed, before⟩)
            · exact ⟨stored, (kind, item), List.mem_cons_self .., .inr ⟨place, placed, before⟩⟩
            · exact ⟨stored, frontier, List.mem_cons_of_mem _ listed, before⟩
          · rintro ⟨stored, frontier, listed, before⟩
            rcases List.mem_cons.mp listed with same | listed
            · cases same
              exact .inl ⟨rfl, stored⟩
            · exact .inr ⟨stored, frontier, listed, before⟩
        · rw [if_neg before, ih rest]
          constructor
          · rintro ⟨stored, frontier, listed, before⟩
            exact ⟨stored, frontier, List.mem_cons_of_mem _ listed, before⟩
          · rintro ⟨stored, frontier, listed, lies⟩
            rcases List.mem_cons.mp listed with same | listed
            · cases same
              rcases lies with start | ⟨other, found, lies⟩
              · exact absurd start starts
              · cases placed.symm.trans found
                exact absurd lies before
            · exact ⟨stored, frontier, listed, lies⟩

end Keeping

def Recorded (tables : CutTables) (states : List ControlRow) (assembly : SourceAssembly) : Prop :=
  ∀ refId revision, SealedUntracked states assembly refId revision →
    ∃ frontier, frontierOf tables states assembly refId = some frontier ∧
      (frontier.1 = some "start" ∨ frontier.1 = some "after_canonical")

/-- Each position is at the start or after an item of the view. -/
def PlacedIn (ordinals : Dictionary String Nat) (tables : CutTables) (states : List ControlRow)
    (assembly : SourceAssembly) : Prop :=
  ∀ refId frontier, frontierOf tables states assembly refId = some frontier →
    Placed ordinals frontier

section Positions

variable {tables : CutTables} {states : List ControlRow} {assembly : SourceAssembly}
  {refId revision : String} {frontier : Option String × Option String}
  {pending : EpochTransition} {control : ControlEvent} {retained : List (String × String)}

theorem frontierOf_sealed (found : frontierOf tables states assembly refId = some frontier) :
    ∃ revision, SealedUntracked states assembly refId revision := by
  have listed := Dictionary.mem_of_lookup_ofList found
  obtain ⟨row, member, same⟩ := List.mem_map.mp listed
  obtain ⟨-, matching⟩ := List.mem_filter.mp member
  simp only [Bool.and_eq_true, decide_eq_true_eq] at matching
  obtain ⟨revision, stored⟩ := Option.isSome_iff_exists.mp matching.1.2
  cases same
  exact ⟨revision, lookup_candidates.mp stored⟩

theorem recorded_iff :
    Recorded tables states assembly ↔
      ¬(((assembly.candidates states).entries.all fun entry =>
          (recordedFrontiers tables assembly (assembly.candidates states)).has entry.1) = false ∨
        ((recordedFrontiers tables assembly (assembly.candidates states)).entries.all fun entry =>
          entry.2.1 = some "start" || entry.2.1 = some "after_canonical") = false) := by
  rw [not_or, Bool.not_eq_false, Bool.not_eq_false, List.all_eq_true, List.all_eq_true]
  constructor
  · intro recorded
    constructor
    · rintro ⟨refId, revision⟩ member
      obtain ⟨frontier, found, -⟩ :=
        recorded refId revision (lookup_candidates.mp (Dictionary.lookup_eq_some.mpr member))
      exact Option.isSome_iff_exists.mpr ⟨frontier, found⟩
    · rintro ⟨refId, frontier⟩ member
      have found : frontierOf tables states assembly refId = some frontier :=
        Dictionary.lookup_eq_some.mpr member
      obtain ⟨revision, sealedHere⟩ := frontierOf_sealed found
      obtain ⟨other, stored, kind⟩ := recorded refId revision sealedHere
      cases found.symm.trans stored
      simpa using kind
  · rintro ⟨present, kinds⟩ refId revision sealedHere
    have member := Dictionary.lookup_eq_some.mp (lookup_candidates.mpr sealedHere)
    obtain ⟨frontier, found⟩ := Option.isSome_iff_exists.mp (present _ member)
    refine ⟨frontier, found, ?_⟩
    have kind := kinds _ (Dictionary.lookup_eq_some.mp found)
    simpa using kind

theorem retained_complete (states : List ControlRow) (assembly : SourceAssembly)
    (bound : boundaryControl tables pending = .ok control)
    (kind : pending.canonicalCutKind = "complete") (item : pending.canonicalCutItemId = none) :
    ((∃ retained, retainedContextSourceRefs tables pending states (some assembly) =
        .ok retained) ↔ Recorded tables states assembly) ∧
      ∀ retained, retainedContextSourceRefs tables pending states (some assembly) =
        .ok retained → retained = (assembly.candidates states).entries := by
  unfold retainedContextSourceRefs
  simp only [selectedRefs_eq, bind, Except.bind, bound, kind, item, strictText]
  rw [recorded_iff]
  split
  · rename_i missing
    exact ⟨⟨by rintro ⟨_, ⟨⟩⟩, fun recorded => absurd missing recorded⟩, by rintro _ ⟨⟩⟩
  · rename_i recorded
    refine ⟨⟨fun _ => recorded, fun _ => ⟨(assembly.candidates states).entries, rfl⟩⟩, ?_⟩
    rintro retained ⟨⟩
    rfl

theorem retained_partial {view anchor : String} {place : Nat} (states : List ControlRow)
    (assembly : SourceAssembly)
    (bound : boundaryControl tables pending = .ok control)
    (kind : pending.canonicalCutKind = "before_canonical" ∨
      pending.canonicalCutKind = "after_canonical")
    (item : pending.canonicalCutItemId = some anchor) (named : anchor ≠ "")
    (source : control.payload.sourceViewId = some view) (viewNamed : view ≠ "")
    (placed : (tables.ordinals view).lookup anchor = some place) :
    retainedContextSourceRefs tables pending states (some assembly) =
      if ((assembly.candidates states).entries.all fun entry =>
          (recordedFrontiers tables assembly (assembly.candidates states)).has entry.1) = false ∨
        ((recordedFrontiers tables assembly (assembly.candidates states)).entries.all fun entry =>
          entry.2.1 = some "start" || entry.2.1 = some "after_canonical") = false then
        .error (.frontier "rebuild source selection 缺少精确位置")
      else keepBefore (tables.ordinals view) place (assembly.candidates states)
        (recordedFrontiers tables assembly (assembly.candidates states)).entries := by
  unfold retainedContextSourceRefs
  simp only [selectedRefs_eq, bind, Except.bind, bound]
  split
  · rfl
  · rcases kind with kind | kind <;>
      simp [kind, item, named, source, viewNamed, placed, strictText]

end Positions

structure Splits (tables : CutTables) (view targetViewId anchor mode : String) : Prop where
  anchored : (tables.ordinals view).has anchor = true
  within : ∀ item ∈ tables.members targetViewId, (tables.ordinals view).has item.itemId = true
  side : anchor ∈ (tables.members targetViewId).map ViewItem.itemId ↔ mode = "inclusive"

inductive CutOf (tables : CutTables) (reason targetViewId : String) (payload : BoundaryPayload) :
    Option String → Prop where
  | compaction (reasonEq : reason = "compaction") : CutOf tables reason targetViewId payload none
  | wholeView {view : String} {sequences : List Nat}
      (source : payload.sourceViewId = some view) (anchor : payload.sourceAnchor = none)
      (turn : payload.sourceTurnId = none)
      (read : tables.viewMessageSequences view = .ok sequences)
      (cutoff : payload.cutoffMessageSequence = sequences.getLast?) :
      CutOf tables reason targetViewId payload none
  | message {view message mode item : String}
      (source : payload.sourceViewId = some view) (anchor : payload.sourceAnchor = some message)
      (turn : payload.sourceTurnId = none) (anchorMode : payload.anchorMode = some mode)
      (found : messageItem tables message = .ok item)
      (splits : Splits tables view targetViewId item mode) :
      CutOf tables reason targetViewId payload (some item)
  | beforeTurn {view turn item : String}
      (source : payload.sourceViewId = some view) (anchor : payload.sourceAnchor = none)
      (named : payload.sourceTurnId = some turn) (anchorMode : payload.anchorMode = some "before")
      (root : (tables.turnRecords.find? fun record => record.1 = turn).map Prod.snd =
        some (some item))
      (splits : Splits tables view targetViewId item "before") :
      CutOf tables reason targetViewId payload (some item)
  | inclusiveTurn {view turn message item last : String}
      (source : payload.sourceViewId = some view) (anchor : payload.sourceAnchor = none)
      (named : payload.sourceTurnId = some turn)
      (anchorMode : payload.anchorMode = some "inclusive")
      (closing : anchorMessage tables payload none = .ok message)
      (found : messageItem tables message = .ok item)
      (splits : Splits tables view targetViewId item "inclusive")
      (member : last ∈ (tables.members targetViewId).map ViewItem.itemId)
      (greatest : ∀ other ∈ (tables.members targetViewId).map ViewItem.itemId,
        ((tables.ordinals view).lookup other).getD 0 ≤
          ((tables.ordinals view).lookup last).getD 0) :
      CutOf tables reason targetViewId payload (some last)

section Boundary

variable {tables : CutTables} {reason targetViewId : String} {payload : BoundaryPayload}
  {ordinals : Dictionary String Nat} {items : List String} {last kind : String}
  {cut : Option String}

theorem lastItem_append {item : String} :
    lastItem ordinals (items ++ [item]) =
      match lastItem ordinals items with
      | none => some item
      | some best =>
        if (ordinals.lookup best).getD 0 < (ordinals.lookup item).getD 0 then some item
        else some best := by
  unfold lastItem
  rw [List.foldl_append]
  rfl

theorem lastItem_none (missing : lastItem ordinals items = none) : items = [] := by
  cases items using List.reverseRecOn with
  | nil => rfl
  | append_singleton items item =>
    rw [lastItem_append] at missing
    split at missing
    · cases missing
    · split at missing <;> cases missing

theorem lastItem_greatest (found : lastItem ordinals items = some last) :
    last ∈ items ∧ ∀ other ∈ items,
      (ordinals.lookup other).getD 0 ≤ (ordinals.lookup last).getD 0 := by
  induction items using List.reverseRecOn generalizing last with
  | nil => cases found
  | append_singleton items item ih =>
    rw [lastItem_append] at found
    cases before : lastItem ordinals items with
    | none =>
      rw [before] at found
      cases found
      have empty := lastItem_none before
      subst empty
      simp
    | some best =>
      rw [before] at found
      obtain ⟨member, greatest⟩ := ih before
      dsimp only at found
      split at found
      · rename_i later
        cases found
        refine ⟨by simp, fun other listed => ?_⟩
        rcases List.mem_append.mp listed with listed | listed
        · exact Nat.le_trans (greatest other listed) (Nat.le_of_lt later)
        · cases List.mem_singleton.mp listed
          exact Nat.le_refl _
      · rename_i earlier
        cases found
        refine ⟨List.mem_append_left _ member, fun other listed => ?_⟩
        rcases List.mem_append.mp listed with listed | listed
        · exact greatest other listed
        · rw [List.mem_singleton.mp listed]
          exact Nat.le_of_not_lt earlier

theorem strictText_ok {field value : String} {text : Option String}
    (read : strictText field text = .ok value) : text = some value ∧ value ≠ "" := by
  unfold strictText at read
  split at read
  · cases read
  · split at read
    · cases read
    · rename_i nonempty
      cases read
      exact ⟨rfl, nonempty⟩

theorem strictOptionalText_ok {field : String} {text value : Option String}
    (read : strictOptionalText field text = .ok value) : text = value := by
  unfold strictOptionalText at read
  split at read
  · cases read
    rfl
  · split at read
    · cases read
    · cases read
      rfl

theorem messageItem_named {message item : String}
    (found : messageItem tables message = .ok item) : item ≠ "" := by
  unfold messageItem at found
  split at found
  · exact (strictText_ok found).2
  · cases found

theorem cutAt_ok {view mode anchorItem : String} {turn : Bool}
    (accepted : cutAt tables view targetViewId turn mode anchorItem = .ok (kind, cut)) :
    Splits tables view targetViewId anchorItem mode ∧
      (kind = "before_canonical" ∨ kind = "after_canonical") ∧
      ((turn = true ∧ mode = "inclusive") ∧ (∃ last, cut = some last ∧
          last ∈ (tables.members targetViewId).map ViewItem.itemId ∧
          ∀ other ∈ (tables.members targetViewId).map ViewItem.itemId,
            ((tables.ordinals view).lookup other).getD 0 ≤
              ((tables.ordinals view).lookup last).getD 0) ∨
        ¬(turn = true ∧ mode = "inclusive") ∧ cut = some anchorItem) := by
  unfold cutAt at accepted
  dsimp only at accepted
  split at accepted
  · cases accepted
  · rename_i anchored
    rw [Bool.not_eq_false] at anchored
    split at accepted
    · cases accepted
    · rename_i within
      rw [Bool.not_eq_false, List.all_eq_true] at within
      have inside : ∀ item ∈ tables.members targetViewId,
          (tables.ordinals view).has item.itemId = true :=
        fun item member => within _ (List.mem_map_of_mem member)
      split at accepted
      · rename_i inclusive
        split at accepted
        · rename_i member
          split at accepted
          · cases accepted
          · rename_i last found
            cases accepted
            obtain ⟨listed, greatest⟩ := lastItem_greatest found
            exact ⟨⟨anchored, inside, ⟨fun _ => inclusive.2, fun _ => member⟩⟩, .inr rfl,
              .inl ⟨inclusive, last, rfl, listed, greatest⟩⟩
        · cases accepted
      · rename_i plain
        split at accepted
        · cases accepted
        · rename_i side
          cases accepted
          rw [not_not, decide_eq_decide] at side
          refine ⟨⟨anchored, inside, side⟩, ?_, .inr ⟨plain, rfl⟩⟩
          split
          · exact .inl rfl
          · exact .inr rfl

def Stored (tables : CutTables) (payload : BoundaryPayload) (kind : String)
    (cut : Option String) : Prop :=
  (kind = "complete" ∧ cut = none) ∨
    (kind = "before_canonical" ∨ kind = "after_canonical") ∧
      ∃ view anchor place, payload.sourceViewId = some view ∧ view ≠ "" ∧ cut = some anchor ∧
        anchor ≠ "" ∧ (tables.ordinals view).lookup anchor = some place

theorem stored_partial {view anchor mode item : String}
    (kinds : kind = "before_canonical" ∨ kind = "after_canonical")
    (source : payload.sourceViewId = some view) (viewNamed : view ≠ "")
    (splits : Splits tables view targetViewId item mode) (named : item ≠ "")
    (place : anchor = item ∨ anchor ∈ (tables.members targetViewId).map ViewItem.itemId) :
    Stored tables payload kind (some anchor) := by
  refine .inr ⟨kinds, view, anchor, ?_⟩
  rcases place with rfl | member
  · obtain ⟨ordinal, found⟩ := Option.isSome_iff_exists.mp splits.anchored
    exact ⟨ordinal, source, viewNamed, rfl, named, found⟩
  · obtain ⟨row, listed, rfl⟩ := List.mem_map.mp member
    obtain ⟨ordinal, found⟩ := Option.isSome_iff_exists.mp (splits.within row listed)
    exact ⟨ordinal, source, viewNamed, rfl, row.named, found⟩

theorem contextSourceBoundaryCut_ok
    (accepted : contextSourceBoundaryCut tables reason targetViewId payload = .ok (kind, cut)) :
    CutOf tables reason targetViewId payload cut ∧ Stored tables payload kind cut := by
  unfold contextSourceBoundaryCut at accepted
  split at accepted
  · rename_i compacts
    cases accepted
    exact ⟨.compaction compacts, .inl ⟨rfl, rfl⟩⟩
  obtain ⟨view, sourceRead, accepted⟩ := Transaction.bind_ok accepted
  obtain ⟨anchor, anchorRead, accepted⟩ := Transaction.bind_ok accepted
  obtain ⟨turn, turnRead, accepted⟩ := Transaction.bind_ok accepted
  obtain ⟨mode, modeRead, accepted⟩ := Transaction.bind_ok accepted
  obtain ⟨source, viewNamed⟩ := strictText_ok sourceRead
  have anchorEq := strictOptionalText_ok anchorRead
  have turnEq := strictOptionalText_ok turnRead
  obtain ⟨modeEq, -⟩ := strictText_ok modeRead
  split at accepted
  · cases accepted
  rename_i declared
  rw [not_or, not_and_or, not_not, not_not] at declared
  obtain ⟨modes, single⟩ := declared
  split at accepted
  · rename_i unnamed
    obtain ⟨sequences, read, accepted⟩ := Transaction.bind_ok accepted
    split at accepted
    · cases accepted
    · rename_i whole
      cases accepted
      rw [Option.isNone_iff_eq_none, Option.isNone_iff_eq_none] at unnamed
      exact ⟨.wholeView source (anchorEq.trans unnamed.1) (turnEq.trans unnamed.2) read
        (not_not.mp whole), .inl ⟨rfl, rfl⟩⟩
  · rename_i someNamed
    obtain ⟨item, found, accepted⟩ := Transaction.bind_ok accepted
    obtain ⟨splits, kinds, ends⟩ := cutAt_ok accepted
    unfold boundaryAnchor at found
    cases turn with
    | none =>
      cases anchor with
      | none => exact absurd ⟨rfl, rfl⟩ someNamed
      | some message =>
        rcases ends with ⟨⟨⟨⟩, -⟩, -⟩ | ⟨-, rfl⟩
        have found : messageItem tables message = .ok item := found
        exact ⟨.message source anchorEq turnEq modeEq found splits,
          stored_partial kinds source viewNamed splits (messageItem_named found) (.inl rfl)⟩
    | some turnId =>
      have unanchored : anchor = none := by
        cases anchor with
        | none => rfl
        | some message => exact absurd ⟨rfl, rfl⟩ single
      subst unanchored
      rcases modes with rfl | rfl
      · rw [Option.filter_some, if_pos (by decide)] at found
        rcases ends with ⟨⟨-, clash⟩, -⟩ | ⟨-, rfl⟩
        · exact absurd clash (by decide)
        dsimp only at found
        split at found
        · cases found
        · rename_i record root
          obtain ⟨rootItem, named⟩ := strictText_ok found
          have stored : (tables.turnRecords.find? fun record => record.1 = turnId).map Prod.snd =
              some (some item) := by
            rw [root, Option.map_some, rootItem]
          exact ⟨.beforeTurn source anchorEq turnEq modeEq stored splits,
            stored_partial kinds source viewNamed splits named (.inl rfl)⟩
      · rw [Option.filter_some, if_neg (by decide)] at found
        obtain ⟨message, closing, found⟩ := Transaction.bind_ok found
        rcases ends with ⟨-, last, rfl, member, greatest⟩ | ⟨plain, -⟩
        · have named := messageItem_named found
          exact ⟨.inclusiveTurn source anchorEq turnEq modeEq closing found splits member greatest,
            stored_partial kinds source viewNamed splits named (.inr member)⟩
        · exact absurd ⟨rfl, rfl⟩ plain

end Boundary

end GraphAgent.ContextSources
