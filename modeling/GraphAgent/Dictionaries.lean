import Mathlib.Data.List.Nodup

/-!
# Insertion-ordered dictionaries

A dictionary is a list of entries under distinct keys.  Replacing a value keeps
the position of its key, a new key goes to the end, and merging one dictionary
into another replaces and adds entry by entry.
-/

namespace GraphAgent

structure Dictionary (Key Value : Type*) where
  entries : List (Key × Value)
  distinct : (entries.map Prod.fst).Nodup

namespace Dictionary

variable {Key Value : Type*}

@[ext]
theorem ext {first second : Dictionary Key Value}
    (entriesEq : first.entries = second.entries) : first = second := by
  cases first
  cases second
  cases entriesEq
  rfl

def empty : Dictionary Key Value :=
  ⟨[], List.nodup_nil⟩

variable [DecidableEq Key]

def lookupEntries (key : Key) : List (Key × Value) → Option Value
  | [] => none
  | (found, value) :: rest => if found = key then some value else lookupEntries key rest

/-- `dictionary.get(key)`. -/
def lookup (dictionary : Dictionary Key Value) (key : Key) : Option Value :=
  lookupEntries key dictionary.entries

/-- `key in dictionary`. -/
def has (dictionary : Dictionary Key Value) (key : Key) : Bool :=
  (dictionary.lookup key).isSome

def insertEntries (key : Key) (value : Value) : List (Key × Value) → List (Key × Value)
  | [] => [(key, value)]
  | (found, old) :: rest =>
    if found = key then (key, value) :: rest else (found, old) :: insertEntries key value rest

theorem mem_keys_insertEntries {key other : Key} {value : Value}
    {entries : List (Key × Value)} :
    other ∈ (insertEntries key value entries).map Prod.fst ↔
      other = key ∨ other ∈ entries.map Prod.fst := by
  induction entries with
  | nil => simp [insertEntries]
  | cons entry entries ih =>
    obtain ⟨found, old⟩ := entry
    by_cases same : found = key
    · subst same
      simp [insertEntries]
    · simp only [insertEntries, if_neg same, List.map_cons, List.mem_cons, ih]
      exact or_left_comm

theorem insertEntries_distinct {key : Key} {value : Value} {entries : List (Key × Value)}
    (distinct : (entries.map Prod.fst).Nodup) :
    ((insertEntries key value entries).map Prod.fst).Nodup := by
  induction entries with
  | nil => simp [insertEntries]
  | cons entry entries ih =>
    obtain ⟨found, old⟩ := entry
    rw [List.map_cons, List.nodup_cons] at distinct
    by_cases same : found = key
    · subst same
      simpa [insertEntries] using distinct
    · simp only [insertEntries, if_neg same, List.map_cons, List.nodup_cons]
      refine ⟨?_, ih distinct.2⟩
      rw [mem_keys_insertEntries]
      rintro (equal | member)
      · exact same equal
      · exact distinct.1 member

/-- `dictionary[key] = value`. -/
def insert (dictionary : Dictionary Key Value) (key : Key) (value : Value) :
    Dictionary Key Value :=
  ⟨insertEntries key value dictionary.entries, insertEntries_distinct dictionary.distinct⟩

/-- `dictionary.pop(key, None)`. -/
def erase (dictionary : Dictionary Key Value) (key : Key) : Dictionary Key Value :=
  ⟨dictionary.entries.filter fun entry => entry.1 ≠ key,
    dictionary.distinct.sublist (List.filter_sublist.map Prod.fst)⟩

/-- `dictionary.setdefault(key, value)`. -/
def setDefault (dictionary : Dictionary Key Value) (key : Key) (value : Value) :
    Dictionary Key Value :=
  if dictionary.has key then dictionary else dictionary.insert key value

def insertAll (dictionary : Dictionary Key Value) (entries : List (Key × Value)) :
    Dictionary Key Value :=
  entries.foldl (fun merged entry => merged.insert entry.1 entry.2) dictionary

/-- `dict(entries)`: a later value of a key replaces an earlier one. -/
def ofList (entries : List (Key × Value)) : Dictionary Key Value :=
  empty.insertAll entries

/-- `dictionary.update(incoming)`. -/
def merge (dictionary incoming : Dictionary Key Value) : Dictionary Key Value :=
  dictionary.insertAll incoming.entries

variable {dictionary incoming : Dictionary Key Value} {key other : Key} {value : Value}

@[simp]
theorem lookup_empty : (empty : Dictionary Key Value).lookup key = none :=
  rfl

theorem lookup_insert :
    (dictionary.insert key value).lookup other =
      if key = other then some value else dictionary.lookup other := by
  obtain ⟨entries, distinct⟩ := dictionary
  simp only [lookup, insert]
  clear distinct
  induction entries with
  | nil => rfl
  | cons entry entries ih =>
    obtain ⟨found, old⟩ := entry
    by_cases same : found = key
    · subst same
      by_cases equal : found = other <;> simp [insertEntries, lookupEntries, equal]
    · simp only [insertEntries, if_neg same, lookupEntries, ih]
      by_cases equal : found = other
      · subst equal
        simp [Ne.symm same]
      · simp [equal]

@[simp]
theorem lookup_insert_self : (dictionary.insert key value).lookup key = some value := by
  simp [lookup_insert]

@[simp]
theorem lookup_insert_of_ne (different : key ≠ other) :
    (dictionary.insert key value).lookup other = dictionary.lookup other := by
  simp [lookup_insert, different]

theorem insert_of_lookup (found : dictionary.lookup key = some value) :
    dictionary.insert key value = dictionary := by
  obtain ⟨entries, distinct⟩ := dictionary
  apply ext
  simp only [lookup, insert] at found ⊢
  clear distinct
  induction entries with
  | nil => cases found
  | cons entry entries ih =>
    obtain ⟨first, old⟩ := entry
    by_cases same : first = key
    · subst same
      simp only [lookupEntries, if_true, Option.some.injEq] at found
      simp [insertEntries, found]
    · simp only [lookupEntries, if_neg same] at found
      simp [insertEntries, same, ih found]

theorem lookupEntries_eq_none {entries : List (Key × Value)}
    (absent : key ∉ entries.map Prod.fst) : lookupEntries key entries = none := by
  induction entries with
  | nil => rfl
  | cons entry entries ih =>
    obtain ⟨first, old⟩ := entry
    simp only [List.map_cons, List.mem_cons, not_or] at absent
    simp [lookupEntries, Ne.symm absent.1, ih absent.2]

theorem lookup_erase :
    (dictionary.erase key).lookup other =
      if key = other then none else dictionary.lookup other := by
  obtain ⟨entries, distinct⟩ := dictionary
  simp only [lookup, erase]
  clear distinct
  induction entries with
  | nil => simp [lookupEntries]
  | cons entry entries ih =>
    obtain ⟨first, old⟩ := entry
    by_cases same : first = key
    · subst same
      by_cases equal : first = other
      · simpa [equal] using ih
      · simpa [lookupEntries, equal] using ih
    · by_cases equal : first = other
      · subst equal
        simp [lookupEntries, same, Ne.symm same]
      · simpa [lookupEntries, same, equal] using ih

theorem lookup_insertAll {entries : List (Key × Value)}
    (distinct : (entries.map Prod.fst).Nodup) :
    (dictionary.insertAll entries).lookup key =
      (lookupEntries key entries).or (dictionary.lookup key) := by
  induction entries generalizing dictionary with
  | nil => rfl
  | cons entry entries ih =>
    obtain ⟨first, old⟩ := entry
    rw [List.map_cons, List.nodup_cons] at distinct
    change ((dictionary.insert first old).insertAll entries).lookup key = _
    rw [ih distinct.2, lookup_insert]
    by_cases same : first = key
    · subst same
      simp [lookupEntries, lookupEntries_eq_none distinct.1]
    · simp [lookupEntries, same]

theorem lookup_merge :
    (dictionary.merge incoming).lookup key =
      (incoming.lookup key).or (dictionary.lookup key) :=
  lookup_insertAll incoming.distinct

theorem lookup_setDefault :
    (dictionary.setDefault key value).lookup other =
      if key = other then some ((dictionary.lookup key).getD value)
      else dictionary.lookup other := by
  rw [setDefault, has]
  cases found : dictionary.lookup key with
  | none => simp [lookup_insert]
  | some old =>
    by_cases same : key = other
    · subst same
      simp [found]
    · simp [same]

variable {entries : List (Key × Value)}

theorem mem_of_lookupEntries (found : lookupEntries key entries = some value) :
    (key, value) ∈ entries := by
  induction entries with
  | nil => cases found
  | cons entry entries ih =>
    obtain ⟨first, old⟩ := entry
    by_cases same : first = key
    · subst same
      simp only [lookupEntries, if_true, Option.some.injEq] at found
      simp [found]
    · simp only [lookupEntries, if_neg same] at found
      simp [ih found]

theorem lookupEntries_isSome :
    (lookupEntries key entries).isSome = true ↔ key ∈ entries.map Prod.fst := by
  constructor
  · intro found
    obtain ⟨value, found⟩ := Option.isSome_iff_exists.mp found
    exact List.mem_map_of_mem (mem_of_lookupEntries found)
  · intro member
    by_contra absent
    rw [Option.not_isSome_iff_eq_none] at absent
    induction entries with
    | nil => cases member
    | cons entry entries ih =>
      obtain ⟨first, old⟩ := entry
      by_cases same : first = key
      · simp [lookupEntries, same] at absent
      · simp only [lookupEntries, if_neg same] at absent
        simp only [List.map_cons, List.mem_cons, Ne.symm same, false_or] at member
        exact ih member absent

theorem lookupEntries_of_mem (distinct : (entries.map Prod.fst).Nodup)
    (member : (key, value) ∈ entries) : lookupEntries key entries = some value := by
  induction entries with
  | nil => cases member
  | cons entry entries ih =>
    obtain ⟨first, old⟩ := entry
    rw [List.map_cons, List.nodup_cons] at distinct
    rcases List.mem_cons.mp member with same | later
    · cases same
      simp [lookupEntries]
    · have different : first ≠ key := by
        rintro rfl
        have listed : (first, value).1 ∈ entries.map Prod.fst := List.mem_map_of_mem later
        exact distinct.1 listed
      simp [lookupEntries, different, ih distinct.2 later]

theorem mem_insertEntries {entry : Key × Value}
    (member : entry ∈ insertEntries key value entries) :
    entry = (key, value) ∨ entry ∈ entries := by
  induction entries with
  | nil => simpa [insertEntries] using member
  | cons first entries ih =>
    obtain ⟨found, old⟩ := first
    rw [insertEntries] at member
    split at member
    · rcases List.mem_cons.mp member with new | later
      · exact .inl new
      · exact .inr (by simp [later])
    · rcases List.mem_cons.mp member with same | later
      · exact .inr (by simp [same])
      · exact (ih later).imp_right fun old => by simp [old]

theorem lookup_eq_some : dictionary.lookup key = some value ↔ (key, value) ∈ dictionary.entries :=
  ⟨mem_of_lookupEntries, lookupEntries_of_mem dictionary.distinct⟩

end Dictionary

end GraphAgent
