import GraphAgent.Dictionaries
import Mathlib.Data.List.Induction

/-!
# Dictionaries from lists of updates

A dictionary that is built entry by entry keeps, under each key, the last value that
the list has for it.
-/

namespace GraphAgent.Dictionary

variable {Key Value : Type*} [DecidableEq Key]

theorem insertEntries_of_not_mem {key : Key} {value : Value} {entries : List (Key × Value)}
    (fresh : key ∉ entries.map Prod.fst) :
    insertEntries key value entries = entries ++ [(key, value)] := by
  induction entries with
  | nil => rfl
  | cons entry entries ih =>
    obtain ⟨found, old⟩ := entry
    simp only [List.map_cons, List.mem_cons, not_or] at fresh
    simp [insertEntries, Ne.symm fresh.1, ih fresh.2]

theorem insertAll_entries {dictionary : Dictionary Key Value} {entries : List (Key × Value)}
    (distinct : ((dictionary.entries ++ entries).map Prod.fst).Nodup) :
    (dictionary.insertAll entries).entries = dictionary.entries ++ entries := by
  induction entries generalizing dictionary with
  | nil => simp [insertAll]
  | cons entry entries ih =>
    have fresh : entry.1 ∉ dictionary.entries.map Prod.fst := by
      rw [List.map_append, List.nodup_append] at distinct
      intro member
      exact distinct.2.2 _ member _ (by simp) rfl
    have inserted : (dictionary.insert entry.1 entry.2).entries =
        dictionary.entries ++ [entry] :=
      insertEntries_of_not_mem fresh
    have rest : ((dictionary.insert entry.1 entry.2).insertAll entries).entries =
        (dictionary.insert entry.1 entry.2).entries ++ entries := by
      apply ih
      rw [inserted, List.append_assoc]
      exact distinct
    change ((dictionary.insert entry.1 entry.2).insertAll entries).entries = _
    rw [rest, inserted, List.append_assoc]
    rfl

theorem ofList_entries (dictionary : Dictionary Key Value) :
    ofList dictionary.entries = dictionary := by
  apply ext
  exact insertAll_entries dictionary.distinct

theorem mem_insertAll {dictionary : Dictionary Key Value} {entries : List (Key × Value)}
    {entry : Key × Value} (member : entry ∈ (dictionary.insertAll entries).entries) :
    entry ∈ dictionary.entries ∨ entry ∈ entries := by
  induction entries generalizing dictionary with
  | nil => exact .inl member
  | cons first entries ih =>
    obtain old | later := ih member
    · obtain same | old := mem_insertEntries old
      · exact .inr (by simp [same])
      · exact .inl old
    · exact .inr (List.mem_cons_of_mem _ later)

theorem lookup_ofList (entries : List (Key × Value)) (key : Key) :
    (ofList entries).lookup key =
      ((entries.filter fun entry => entry.1 = key).getLast?).map Prod.snd := by
  induction entries using List.reverseRecOn with
  | nil => rfl
  | append_singleton entries entry ih =>
    have built : ofList (entries ++ [entry]) = (ofList entries).insert entry.1 entry.2 := by
      simp [ofList, insertAll, List.foldl_append]
    rw [built, lookup_insert, ih, List.filter_append]
    by_cases same : entry.1 = key
    · simp [same]
    · simp [same]

theorem mem_of_lookup_ofList {entries : List (Key × Value)} {key : Key} {value : Value}
    (found : (ofList entries).lookup key = some value) : (key, value) ∈ entries := by
  rw [lookup_ofList] at found
  obtain ⟨entry, last, rfl⟩ := Option.map_eq_some_iff.mp found
  have member := List.mem_of_getLast? last
  rw [List.mem_filter, decide_eq_true_eq] at member
  obtain ⟨listed, rfl⟩ := member
  exact listed

theorem lookup_ofList_iff {entries : List (Key × Value)} {key : Key} {value : Value}
    (distinct : (entries.map Prod.fst).Nodup) :
    (ofList entries).lookup key = some value ↔ (key, value) ∈ entries := by
  have same : (ofList entries).entries = entries := by
    apply insertAll_entries
    exact distinct
  rw [lookup_eq_some, same]

end GraphAgent.Dictionary
