import Mathlib.Data.List.Induction
import Mathlib.Data.List.Nodup

/-!
# Closures over references

Items have a key and refer to other items by key.  Two closures are computed
over a list of them: the items that reach given keys, in one pass along an
order, and the items that a kept item needs, with a list that grows while it is
read.
-/

namespace GraphAgent.ReferenceClosure

section Reach

variable {Item Key : Type} (key : Item → Key) (references : Item → List Key)

inductive Reaches (items : List Item) (seeds : List Key) : Item → Prop
  | seed {item : Item} : key item ∈ seeds → Reaches items seeds item
  | direct {item : Item} {reference : Key} :
      reference ∈ references item → reference ∈ seeds → Reaches items seeds item
  | through {item other : Item} :
      other ∈ items → key other ∈ references item → Reaches items seeds other →
      Reaches items seeds item

inductive ReachesInOrder (ordered : List Item) (seeds : List Key) : Item → Prop
  | seed {item : Item} : key item ∈ seeds → ReachesInOrder ordered seeds item
  | direct {item : Item} {reference : Key} :
      reference ∈ references item → reference ∈ seeds → ReachesInOrder ordered seeds item
  | through {item other : Item} :
      [other, item].Sublist ordered → key other ∈ references item →
      ReachesInOrder ordered seeds other → ReachesInOrder ordered seeds item

variable {key references} {items ordered : List Item} {seeds : List Key} {item : Item}

theorem ReachesInOrder.reaches (inOrder : ReachesInOrder key references ordered seeds item) :
    Reaches key references ordered seeds item := by
  induction inOrder with
  | seed isSeed => exact .seed isSeed
  | direct refers isSeed => exact .direct refers isSeed
  | through before refers _ ih => exact .through (before.subset List.mem_cons_self) refers ih

theorem ReachesInOrder.mono {longer : List Item} (sublist : ordered.Sublist longer)
    (inOrder : ReachesInOrder key references ordered seeds item) :
    ReachesInOrder key references longer seeds item := by
  induction inOrder with
  | seed isSeed => exact .seed isSeed
  | direct refers isSeed => exact .direct refers isSeed
  | through before refers _ ih => exact .through (before.trans sublist) refers ih

theorem Reaches.subset {more : List Item} (subset : items ⊆ more)
    (reaches : Reaches key references items seeds item) :
    Reaches key references more seeds item := by
  induction reaches with
  | seed isSeed => exact .seed isSeed
  | direct refers isSeed => exact .direct refers isSeed
  | through present refers _ ih => exact .through (subset present) refers ih

theorem Reaches.inOrder
    (follows : ∀ item ∈ ordered, ∀ other ∈ ordered, key other ∈ references item →
      [other, item].Sublist ordered)
    (reaches : Reaches key references ordered seeds item) (member : item ∈ ordered) :
    ReachesInOrder key references ordered seeds item := by
  induction reaches with
  | seed isSeed => exact .seed isSeed
  | direct refers isSeed => exact .direct refers isSeed
  | through present refers _ ih =>
    exact .through (follows _ member _ present refers) refers (ih present)

theorem pair_sublist {list : List Item} {first second : Item}
    (firstMember : first ∈ list) (secondMember : second ∈ list) (differ : first ≠ second) :
    [first, second].Sublist list ∨ [second, first].Sublist list := by
  induction list with
  | nil => cases firstMember
  | cons head tail ih =>
    rcases List.mem_cons.mp firstMember with rfl | firstLater
    · have later := (List.mem_cons.mp secondMember).resolve_left differ.symm
      exact .inl ((List.singleton_sublist.mpr later).cons_cons first)
    · rcases List.mem_cons.mp secondMember with rfl | secondLater
      · exact .inr ((List.singleton_sublist.mpr firstLater).cons_cons second)
      · exact (ih firstLater secondLater).imp (·.cons head) (·.cons head)

theorem not_reversed {list : List Item} {first second : Item} (unique : list.Nodup)
    (sublist : [first, second].Sublist list) : ¬ [second, first].Sublist list := by
  induction list with
  | nil => cases sublist
  | cons head tail ih =>
    obtain ⟨fresh, unique⟩ := List.nodup_cons.mp unique
    intro reversed
    cases sublist with
    | cons _ inTail =>
      cases reversed with
      | cons _ reversed => exact ih unique inTail reversed
      | cons_cons _ _ => exact fresh (inTail.subset (List.mem_cons_of_mem _ List.mem_cons_self))
    | cons_cons _ _ =>
      cases reversed with
      | cons _ reversed =>
        exact fresh (reversed.subset (List.mem_cons_of_mem _ List.mem_cons_self))
      | cons_cons _ inTail => exact fresh (List.singleton_sublist.mp inTail)

theorem sublist_of_append {first second last : Item}
    (sublist : [first, second].Sublist (ordered ++ [last])) (differs : second ≠ last) :
    [first, second].Sublist ordered := by
  obtain ⟨before, after, split, beforeSublist, afterSublist⟩ := List.sublist_append_iff.mp sublist
  cases after with
  | nil =>
    rw [List.append_nil] at split
    exact split ▸ beforeSublist
  | cons other rest =>
    obtain ⟨rfl, rfl⟩ : other = last ∧ rest = [] := by
      have length := afterSublist.length_le
      have member := afterSublist.subset List.mem_cons_self
      rw [List.mem_singleton] at member
      rw [List.length_cons, List.length_singleton] at length
      exact ⟨member, List.length_eq_zero_iff.mp (by omega)⟩
    have ends := congrArg List.getLast? split
    rw [List.getLast?_append] at ends
    exact absurd (Option.some.inj ends) differs

theorem first_mem_of_append {first second last : Item}
    (sublist : [first, second].Sublist (ordered ++ [last])) : first ∈ ordered := by
  obtain ⟨before, after, split, beforeSublist, afterSublist⟩ := List.sublist_append_iff.mp sublist
  cases before with
  | nil =>
    have length := afterSublist.length_le
    rw [← List.nil_append after, ← split] at length
    simp at length
  | cons other before =>
    rw [(List.cons.inj split).1]
    exact beforeSublist.subset List.mem_cons_self

theorem ReachesInOrder.of_append {last : Item}
    (inOrder : ReachesInOrder key references (ordered ++ [last]) seeds item)
    (fresh : last ∉ ordered) (differs : item ≠ last) :
    ReachesInOrder key references ordered seeds item := by
  induction inOrder with
  | seed isSeed => exact .seed isSeed
  | direct refers isSeed => exact .direct refers isSeed
  | through before refers _ ih =>
    have inside := sublist_of_append before differs
    exact .through inside refers
      (ih fun same => fresh (same ▸ inside.subset List.mem_cons_self))

section Pass

variable [DecidableEq Key] (key references)

def passStep (doomed : List Key) (item : Item) : List Key :=
  if key item ∈ doomed then doomed
  else if (references item).any (· ∈ doomed) then key item :: doomed
  else doomed

def onePass (ordered : List Item) (seeds : List Key) : List Key :=
  ordered.foldl (passStep key references) seeds

variable {key references}

theorem mem_passStep {doomed : List Key} {id : Key} :
    id ∈ passStep key references doomed item ↔
      id ∈ doomed ∨ id = key item ∧ ∃ reference ∈ references item, reference ∈ doomed := by
  unfold passStep
  split
  · rename_i present
    constructor
    · exact .inl
    · rintro (old | ⟨rfl, _⟩)
      · exact old
      · exact present
  · split
    · rename_i refers
      obtain ⟨reference, member, isDoomed⟩ := List.any_eq_true.mp refers
      rw [List.mem_cons]
      constructor
      · rintro (same | old)
        · exact .inr ⟨same, reference, member, of_decide_eq_true isDoomed⟩
        · exact .inl old
      · rintro (old | ⟨same, _⟩)
        · exact .inr old
        · exact .inl same
    · rename_i none
      constructor
      · exact .inl
      · rintro (old | ⟨_, reference, member, isDoomed⟩)
        · exact old
        · exact absurd (List.any_eq_true.mpr ⟨reference, member, decide_eq_true isDoomed⟩) none

theorem mem_onePass (unique : (ordered.map key).Nodup) {id : Key} :
    id ∈ onePass key references ordered seeds ↔
      id ∈ seeds ∨ ∃ item ∈ ordered, key item = id ∧
        ReachesInOrder key references ordered seeds item := by
  induction ordered using List.reverseRecOn generalizing id with
  | nil => simp [onePass]
  | append_singleton ordered last ih =>
    rw [List.map_append, List.map_singleton] at unique
    have parts := List.nodup_append.mp unique
    have fresh : last ∉ ordered := fun member =>
      parts.2.2 _ (List.mem_map_of_mem member) _ List.mem_cons_self rfl
    have whole : ordered.Sublist (ordered ++ [last]) := List.sublist_append_left _ _
    have pass : onePass key references (ordered ++ [last]) seeds =
        passStep key references (onePass key references ordered seeds) last := by
      rw [onePass, List.foldl_append]
      rfl
    rw [pass, mem_passStep, ih parts.1]
    constructor
    · rintro ((isSeed | ⟨item, member, same, inOrder⟩) | ⟨rfl, reference, refers, doomed⟩)
      · exact .inl isSeed
      · exact .inr ⟨item, whole.subset member, same, inOrder.mono whole⟩
      · refine .inr ⟨last, List.mem_append_right _ List.mem_cons_self, rfl, ?_⟩
        rcases (ih parts.1).mp doomed with isSeed | ⟨other, member, rfl, inOrder⟩
        · exact .direct refers isSeed
        · exact .through ((List.singleton_sublist.mpr member).append (List.Sublist.refl [last]))
            refers (inOrder.mono whole)
    · rintro (isSeed | ⟨item, member, rfl, inOrder⟩)
      · exact .inl (.inl isSeed)
      · rcases List.mem_append.mp member with old | added
        · exact .inl (.inr ⟨item, old, rfl,
            inOrder.of_append fresh fun same => fresh (same ▸ old)⟩)
        · obtain rfl := List.mem_singleton.mp added
          cases inOrder with
          | seed isSeed => exact .inl (.inl isSeed)
          | direct refers isSeed =>
            exact .inr ⟨rfl, _, refers, (ih parts.1).mpr (.inl isSeed)⟩
          | through before refers inOrder =>
            rename_i other
            have member : other ∈ ordered := first_mem_of_append before
            exact .inr ⟨rfl, _, refers, (ih parts.1).mpr (.inr ⟨other, member, rfl,
              inOrder.of_append fresh fun same => fresh (same ▸ member)⟩)⟩

end Pass

end Reach

section Grow

variable {Item Key : Type} [DecidableEq Key] (key : Item → Key) (references : Item → List Key)

def byKey (items : List Item) (id : Key) : Option Item :=
  items.reverse.find? fun item => key item = id

def additions (items : List Item) : List Key → List Key → List Item
  | _, [] => []
  | kept, reference :: rest =>
    match byKey key items reference with
    | some item =>
      if reference ∈ kept then additions items kept rest
      else item :: additions items (reference :: kept) rest
    | none => additions items kept rest

variable {key references} {items : List Item}

theorem byKey_some {id : Key} {item : Item} (found : byKey key items id = some item) :
    item ∈ items ∧ key item = id := by
  have selected := List.find?_some found
  exact ⟨List.mem_reverse.mp (List.mem_of_find?_eq_some found), of_decide_eq_true selected⟩

theorem byKey_isSome {item : Item} (member : item ∈ items) :
    ∃ found, byKey key items (key item) = some found := by
  refine Option.isSome_iff_exists.mp ?_
  rw [byKey, List.find?_isSome]
  exact ⟨item, List.mem_reverse.mpr member, decide_eq_true rfl⟩

theorem additions_spec {kept references : List Key} :
    (∀ item ∈ additions key items kept references, item ∈ items ∧ key item ∉ kept ∧
      key item ∈ references) ∧
      ∀ reference ∈ references, reference ∈ items.map key →
        reference ∈ kept ∨ reference ∈ (additions key items kept references).map key := by
  induction references generalizing kept with
  | nil => simp [additions]
  | cons reference rest ih =>
    unfold additions
    cases found : byKey key items reference with
    | none =>
      obtain ⟨sound, complete⟩ := @ih kept
      refine ⟨fun item member => ?_, fun other member present => ?_⟩
      · obtain ⟨inItems, fresh, refers⟩ := sound item member
        exact ⟨inItems, fresh, List.mem_cons_of_mem _ refers⟩
      · rcases List.mem_cons.mp member with rfl | later
        · obtain ⟨item, inItems, rfl⟩ := List.mem_map.mp present
          obtain ⟨_, isSome⟩ := @byKey_isSome _ _ _ key _ _ inItems
          rw [found] at isSome
          cases isSome
        · exact complete other later present
    | some item =>
      obtain ⟨inItems, same⟩ := byKey_some found
      dsimp only
      split
      · rename_i isKept
        obtain ⟨sound, complete⟩ := @ih kept
        refine ⟨fun other member => ?_, fun other member present => ?_⟩
        · obtain ⟨inside, fresh, refers⟩ := sound other member
          exact ⟨inside, fresh, List.mem_cons_of_mem _ refers⟩
        · rcases List.mem_cons.mp member with rfl | later
          · exact .inl isKept
          · exact complete other later present
      · rename_i isNew
        obtain ⟨sound, complete⟩ := @ih (reference :: kept)
        refine ⟨fun other member => ?_, fun other member present => ?_⟩
        · rcases List.mem_cons.mp member with rfl | later
          · exact ⟨inItems, same ▸ isNew, same ▸ List.mem_cons_self⟩
          · obtain ⟨inside, fresh, refers⟩ := sound other later
            exact ⟨inside, fun old => fresh (List.mem_cons_of_mem _ old),
              List.mem_cons_of_mem _ refers⟩
        · rw [List.map_cons, List.mem_cons]
          rcases List.mem_cons.mp member with rfl | later
          · exact .inr (.inl same.symm)
          · rcases complete other later present with old | added
            · rcases List.mem_cons.mp old with rfl | old
              · exact .inr (.inl same.symm)
              · exact .inl old
            · exact .inr (.inr added)

variable (key references items)

def missing (kept : List Key) : List Item :=
  items.filter fun item => key item ∉ kept

variable {key references items}

theorem missing_lt {kept : List Key} {item : Item} {added : List Item} (member : item ∈ items)
    (fresh : key item ∉ kept) :
    (missing key items (kept ++ (item :: added).map key)).length <
      (missing key items kept).length := by
  have again : missing key items (kept ++ (item :: added).map key) =
      (missing key items kept).filter fun other => key other ∉ (item :: added).map key := by
    rw [missing, missing, List.filter_filter]
    refine List.filter_congr fun other _ => ?_
    by_cases old : key other ∈ kept <;> simp [old]
  rw [again, List.length_filter_lt_length_iff_exists]
  exact ⟨item, List.mem_filter.mpr ⟨member, decide_eq_true fresh⟩, by simp⟩

variable (key references)

def grow (items : List Item) (pending : List Item) (kept : List Key) : List Key :=
  match pending with
  | [] => kept
  | item :: rest =>
    match _added : additions key items kept (references item) with
    | [] => grow items rest kept
    | first :: more => grow items (rest ++ first :: more) (kept ++ (first :: more).map key)
termination_by ((missing key items kept).length, pending.length)
decreasing_by
  · exact Prod.Lex.right _ (Nat.lt_succ_self _)
  · have own := additions_spec.1 first (_added ▸ List.mem_cons_self)
    exact Prod.Lex.left _ _ (missing_lt own.1 own.2.1)

variable {key references}

def Supplied (key : Item → Key) (references : Item → List Key) (items : List Item)
    (kept : List Key) (item : Item) : Prop :=
  ∀ reference ∈ references item, reference ∈ items.map key → reference ∈ kept

omit [DecidableEq Key] in
theorem Supplied.mono {kept more : List Key} {item : Item} (subset : kept ⊆ more)
    (supplied : Supplied key references items kept item) :
    Supplied key references items more item :=
  fun reference refers present => subset (supplied reference refers present)

theorem grow_spec (unique : (items.map key).Nodup) (pending : List Item) (kept : List Key)
    (waiting : ∀ item ∈ items, key item ∈ kept →
      item ∈ pending ∨ Supplied key references items kept item) :
    kept ⊆ grow key references items pending kept ∧
      ∀ item ∈ items, key item ∈ grow key references items pending kept →
        Supplied key references items (grow key references items pending kept) item := by
  induction pending, kept using grow.induct key references items with
  | case1 kept =>
    rw [grow]
    exact ⟨List.Subset.refl _, fun item member isKept =>
      (waiting item member isKept).resolve_left List.not_mem_nil⟩
  | case2 kept item rest none ih =>
    have step : grow key references items (item :: rest) kept =
        grow key references items rest kept := by
      rw [grow]
      split
      · rfl
      · rename_i first more some
        rw [none] at some
        cases some
    rw [step]
    refine ih fun other member isKept => ?_
    rcases waiting other member isKept with inPending | supplied
    · rcases List.mem_cons.mp inPending with rfl | later
      · refine .inr fun reference refers present => ?_
        have either := (@additions_spec _ _ _ key items kept _).2 reference refers present
        rw [none] at either
        exact either.resolve_right List.not_mem_nil
      · exact .inl later
    · exact .inr supplied
  | case3 kept item rest first more added ih =>
    have step : grow key references items (item :: rest) kept =
        grow key references items (rest ++ first :: more)
          (kept ++ (first :: more).map key) := by
      rw [grow]
      split
      · rename_i none
        rw [none] at added
        cases added
      · rename_i other others some
        rw [added] at some
        cases some
        rfl
    have larger : kept ⊆ kept ++ (first :: more).map key := List.subset_append_left _ _
    rw [step]
    have whole := ih fun other member isKept => by
      rcases List.mem_append.mp isKept with old | new
      · rcases waiting other member old with inPending | supplied
        · rcases List.mem_cons.mp inPending with rfl | later
          · refine .inr fun reference refers present => ?_
            rw [← added]
            exact List.mem_append.mpr (additions_spec.2 reference refers present)
          · exact .inl (List.mem_append_left _ later)
        · exact .inr (supplied.mono larger)
      · obtain ⟨addition, isAdded, same⟩ := List.mem_map.mp new
        have inItems := (additions_spec.1 addition (added ▸ isAdded)).1
        have equal := List.inj_on_of_nodup_map unique inItems member same
        exact .inl (List.mem_append_right _ (equal ▸ isAdded))
    exact ⟨List.Subset.trans larger whole.1, whole.2⟩

end Grow

end GraphAgent.ReferenceClosure
