import Mathlib.Data.List.Basic

/-!
# Updating the first match of a list

A registry kept as a list is searched from the front: an update changes the
first element that matches, and an upsert appends a new element when none does.
Both put one element in the place of the first match, and as long as that
element matches too, it is the one that is found again.
-/

namespace GraphAgent.FirstMatch

variable {Element : Type*}

def updateFirst (matching : Element → Bool) (change : Element → Element) :
    List Element → List Element
  | [] => []
  | element :: rest =>
    if matching element then change element :: rest
    else element :: updateFirst matching change rest

def upsertFirst (matching : Element → Bool) (create : Element) (change : Element → Element)
    (elements : List Element) : List Element :=
  if elements.any matching then updateFirst matching change elements else elements ++ [create]

def putFirst (matching : Element → Bool) (element : Element) : List Element → List Element
  | [] => [element]
  | first :: rest =>
    if matching first then element :: rest else first :: putFirst matching element rest

variable {matching other : Element → Bool} {change : Element → Element}
  {elements : List Element} {create element : Element}

theorem updateFirst_eq_self (unchanged : ∀ element,
      elements.find? matching = some element → change element = element) :
    updateFirst matching change elements = elements := by
  induction elements with
  | nil => rfl
  | cons first rest ih =>
    by_cases found : matching first = true
    · rw [updateFirst, if_pos found, unchanged first (by simp [found])]
    · rw [updateFirst, if_neg found, ih]
      intro later laterFound
      exact unchanged later (by simpa [found] using laterFound)

theorem updateFirst_of_find (found : elements.find? matching = some element) :
    updateFirst matching change elements = putFirst matching (change element) elements := by
  induction elements with
  | nil => cases found
  | cons first rest ih =>
    by_cases isMatch : matching first = true
    · rw [List.find?_cons_of_pos isMatch] at found
      rw [updateFirst, if_pos isMatch, putFirst, if_pos isMatch, Option.some.inj found]
    · rw [List.find?_cons_of_neg isMatch] at found
      rw [updateFirst, if_neg isMatch, putFirst, if_neg isMatch, ih found]

theorem putFirst_of_none (absent : elements.find? matching = none) :
    putFirst matching element elements = elements ++ [element] := by
  induction elements with
  | nil => rfl
  | cons first rest ih =>
    by_cases isMatch : matching first = true
    · simp [isMatch] at absent
    · rw [List.find?_cons_of_neg isMatch] at absent
      rw [putFirst, if_neg isMatch, ih absent, List.cons_append]

theorem any_eq_isSome_find : elements.any matching = (elements.find? matching).isSome := by
  induction elements with
  | nil => rfl
  | cons first rest ih =>
    cases isMatch : matching first <;> simp [isMatch, ih]

theorem upsertFirst_eq_putFirst :
    upsertFirst matching create change elements =
      putFirst matching (((elements.find? matching).map change).getD create) elements := by
  unfold upsertFirst
  rw [any_eq_isSome_find]
  cases found : elements.find? matching with
  | none => simp [putFirst_of_none found]
  | some element => simp [updateFirst_of_find found]

@[simp]
theorem find_putFirst (isMatch : matching element = true) :
    (putFirst matching element elements).find? matching = some element := by
  induction elements with
  | nil => simp [putFirst, isMatch]
  | cons first rest ih =>
    by_cases firstMatches : matching first = true
    · simp [putFirst, firstMatches, isMatch]
    · simp [putFirst, firstMatches, ih]

theorem find_putFirst_other (disjoint : ∀ element, matching element = true →
      other element = false) (isMatch : matching element = true) :
    (putFirst matching element elements).find? other = elements.find? other := by
  induction elements with
  | nil => simp [putFirst, disjoint element isMatch]
  | cons first rest ih =>
    by_cases firstMatches : matching first = true
    · simp [putFirst, firstMatches, disjoint element isMatch, disjoint first firstMatches]
    · cases wanted : other first <;> simp [putFirst, firstMatches, wanted, ih]

theorem updateFirst_putFirst (isMatch : matching element = true) :
    updateFirst matching change (putFirst matching element elements) =
      putFirst matching (change element) elements := by
  induction elements with
  | nil => simp [putFirst, updateFirst, isMatch]
  | cons first rest ih =>
    by_cases firstMatches : matching first = true
    · simp [putFirst, updateFirst, firstMatches, isMatch]
    · simp [putFirst, updateFirst, firstMatches, ih]

theorem find_map_of_keeps (keeps : ∀ element, matching (change element) = matching element) :
    (elements.map change).find? matching = (elements.find? matching).map change := by
  induction elements with
  | nil => rfl
  | cons first rest ih =>
    cases firstMatches : matching first <;> simp [firstMatches, keeps, ih]

end GraphAgent.FirstMatch
