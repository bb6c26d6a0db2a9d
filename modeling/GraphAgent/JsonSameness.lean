import Mathlib.Data.List.Perm.Subperm
import GraphAgent.PythonValues

/-!
# Equality of JSON values up to their types

Under the `==` of Python `1`, `1.0` and `True` are one value.  The stronger
comparison of this file tells them apart, and like `==` it does not look at the
order of the entries of a dictionary.
-/

namespace GraphAgent

namespace Json

mutual

/-- Each dictionary of the value has distinct keys. -/
def proper : Json → Bool
  | .arr items => properItems items
  | .obj fields => decide (fields.map Prod.fst).Nodup && properFields fields
  | _ => true

def properItems : List Json → Bool
  | [] => true
  | item :: items => proper item && properItems items

def properFields : List (String × Json) → Bool
  | [] => true
  | (_, value) :: fields => proper value && properFields fields

end

mutual

/-- Equal under `==`, and of one JSON type at every place. -/
def sameTyped : Json → Json → Bool
  | .null, second =>
    match second with
    | .null => true
    | _ => false
  | .bool first, second =>
    match second with
    | .bool value => first == value
    | _ => false
  | .int first, second =>
    match second with
    | .int value => first == value
    | _ => false
  | .float negative mantissa exponent, second =>
    match second with
    | .float otherNegative otherMantissa otherExponent =>
      sameScalar (.float negative mantissa exponent)
        (.float otherNegative otherMantissa otherExponent)
    | _ => false
  | .str first, second =>
    match second with
    | .str text => first == text
    | _ => false
  | .arr items, second =>
    match second with
    | .arr others => sameTypedItems items others
    | _ => false
  | .obj fields, second =>
    match second with
    | .obj others => fields.length == others.length && sameTypedFields fields others
    | _ => false

def sameTypedItems : List Json → List Json → Bool
  | [], others => others.isEmpty
  | item :: items, others =>
    match others with
    | [] => false
    | other :: rest => sameTyped item other && sameTypedItems items rest

def sameTypedFields : List (String × Json) → List (String × Json) → Bool
  | [], _ => true
  | (key, value) :: fields, others =>
    (match Dictionary.lookupEntries key others with
    | some other => sameTyped value other
    | none => false) && sameTypedFields fields others

end

end Json

structure JsonObject where
  fields : List (String × Json)
  proper : Json.proper (.obj fields) = true

namespace Dictionary

variable {Key Value : Type*} [DecidableEq Key]
variable {entries others : List (Key × Value)} {key : Key} {value : Value}

omit [DecidableEq Key] in
theorem sameKeys_of_length (distinct : (entries.map Prod.fst).Nodup)
    (lengths : entries.length = others.length)
    (included : entries.map Prod.fst ⊆ others.map Prod.fst) :
    ∀ key, key ∈ entries.map Prod.fst ↔ key ∈ others.map Prod.fst := by
  intro key
  have all : (entries.map Prod.fst).Subperm (others.map Prod.fst) :=
    List.subperm_of_subset distinct included
  exact (all.perm_of_length_le (by simp [lengths])).mem_iff

omit [DecidableEq Key] in
theorem length_of_sameKeys (distinct : (entries.map Prod.fst).Nodup)
    (otherDistinct : (others.map Prod.fst).Nodup)
    (same : ∀ key, key ∈ entries.map Prod.fst ↔ key ∈ others.map Prod.fst) :
    entries.length = others.length := by
  have perm := (List.perm_ext_iff_of_nodup distinct otherDistinct).mpr same
  simpa using perm.length_eq

def Agree (related : Value → Value → Bool) (entries others : List (Key × Value)) : Prop :=
  ∀ key, match lookupEntries key entries, lookupEntries key others with
    | some value, some other => related value other = true
    | none, none => True
    | _, _ => False

def included (related : Value → Value → Bool) (entries others : List (Key × Value)) : Bool :=
  entries.all fun entry =>
    match lookupEntries entry.1 others with
    | some other => related entry.2 other
    | none => false

theorem included_iff {related : Value → Value → Bool}
    (distinct : (entries.map Prod.fst).Nodup) :
    included related entries others = true ↔
      ∀ key value, lookupEntries key entries = some value →
        ∃ other, lookupEntries key others = some other ∧ related value other = true := by
  rw [included, List.all_eq_true]
  constructor
  · intro all key value found
    have held := all (key, value) (mem_of_lookupEntries found)
    cases present : lookupEntries key others with
    | none => simp [present] at held
    | some other => exact ⟨other, rfl, by simpa [present] using held⟩
  · rintro all ⟨key, value⟩ member
    obtain ⟨other, present, held⟩ := all key value (lookupEntries_of_mem distinct member)
    simpa [present] using held

theorem agree_iff {related : Value → Value → Bool} (distinct : (entries.map Prod.fst).Nodup)
    (otherDistinct : (others.map Prod.fst).Nodup) :
    (entries.length = others.length ∧ included related entries others = true) ↔
      Agree related entries others := by
  rw [included_iff distinct]
  constructor
  · rintro ⟨lengths, all⟩ key
    have keys := sameKeys_of_length distinct lengths (fun key member => by
      obtain ⟨value, found⟩ := Option.isSome_iff_exists.mp (lookupEntries_isSome.mpr member)
      obtain ⟨other, present, -⟩ := all key value found
      exact lookupEntries_isSome.mp (by simp [present])) key
    rw [← lookupEntries_isSome, ← lookupEntries_isSome] at keys
    cases found : lookupEntries key entries with
    | none =>
      cases present : lookupEntries key others with
      | none => trivial
      | some other => simp [found, present] at keys
    | some value =>
      obtain ⟨other, present, held⟩ := all key value found
      simpa [present] using held
  · intro agree
    refine ⟨length_of_sameKeys distinct otherDistinct fun key => ?_, fun key value found => ?_⟩
    · rw [← lookupEntries_isSome, ← lookupEntries_isSome]
      have here := agree key
      cases found : lookupEntries key entries <;> cases present : lookupEntries key others <;>
        simp_all
    · have here := agree key
      cases present : lookupEntries key others with
      | none => simp [found, present] at here
      | some other => exact ⟨other, rfl, by simpa [found, present] using here⟩

end Dictionary

namespace Json

variable {fields others : List (String × Json)} {key : String} {value other : Json}

theorem proper_obj : proper (.obj fields) = true ↔
    (fields.map Prod.fst).Nodup ∧ properFields fields = true := by
  simp [proper]

theorem properFields_iff :
    properFields fields = true ↔ ∀ field ∈ fields, proper field.2 = true := by
  induction fields with
  | nil => simp [properFields]
  | cons field fields ih =>
    obtain ⟨key, value⟩ := field
    simp [properFields, ih]

theorem proper_of_lookup (isProper : proper (.obj fields) = true)
    (found : Dictionary.lookupEntries key fields = some value) : proper value = true :=
  properFields_iff.mp (proper_obj.mp isProper).2 _ (Dictionary.mem_of_lookupEntries found)

theorem sameFields_eq :
    sameFields fields others = Dictionary.included sameValue fields others := by
  induction fields with
  | nil => rfl
  | cons field fields ih =>
    obtain ⟨key, value⟩ := field
    rw [sameFields, ih, Dictionary.included, Dictionary.included, List.all_cons]
    cases Dictionary.lookupEntries key others <;> rfl

theorem sameTypedFields_eq :
    sameTypedFields fields others = Dictionary.included sameTyped fields others := by
  induction fields with
  | nil => rfl
  | cons field fields ih =>
    obtain ⟨key, value⟩ := field
    rw [sameTypedFields, ih, Dictionary.included, Dictionary.included, List.all_cons]
    cases Dictionary.lookupEntries key others <;> rfl

theorem sameValue_obj (fieldsProper : proper (.obj fields) = true)
    (othersProper : proper (.obj others) = true) :
    sameValue (.obj fields) (.obj others) = true ↔
      Dictionary.Agree sameValue fields others := by
  rw [← Dictionary.agree_iff (proper_obj.mp fieldsProper).1 (proper_obj.mp othersProper).1,
    sameValue, Bool.and_eq_true, beq_iff_eq, sameFields_eq]

theorem sameTyped_obj (fieldsProper : proper (.obj fields) = true)
    (othersProper : proper (.obj others) = true) :
    sameTyped (.obj fields) (.obj others) = true ↔
      Dictionary.Agree sameTyped fields others := by
  rw [← Dictionary.agree_iff (proper_obj.mp fieldsProper).1 (proper_obj.mp othersProper).1,
    sameTyped, Bool.and_eq_true, beq_iff_eq, sameTypedFields_eq]

theorem sameNumber_self (number : Int × Int) : sameNumber number number = true := by
  simp [sameNumber]

mutual

theorem sameTyped_self : (value : Json) → proper value = true → sameTyped value value = true
  | .null, _ => rfl
  | .bool _, _ => by simp [sameTyped]
  | .int _, _ => by simp [sameTyped]
  | .float .., _ => by simp [sameTyped, sameScalar, number, sameNumber_self]
  | .str _, _ => by simp [sameTyped]
  | .arr items, isProper => by
      rw [sameTyped]
      exact sameTypedItems_self items isProper
  | .obj fields, isProper => by
      obtain ⟨distinct, each⟩ := proper_obj.mp isProper
      simp only [sameTyped, beq_self_eq_true, Bool.true_and, sameTypedFields_eq]
      rw [Dictionary.included, List.all_eq_true]
      rintro ⟨key, value⟩ member
      rw [Dictionary.lookupEntries_of_mem distinct member]
      exact sameTypedFields_self fields each _ member

theorem sameTypedItems_self :
    (items : List Json) → properItems items = true → sameTypedItems items items = true
  | [], _ => rfl
  | item :: items, isProper => by
      rw [properItems, Bool.and_eq_true] at isProper
      rw [sameTypedItems, sameTyped_self item isProper.1,
        sameTypedItems_self items isProper.2]
      rfl

theorem sameTypedFields_self :
    (fields : List (String × Json)) → properFields fields = true →
      ∀ field ∈ fields, sameTyped field.2 field.2 = true
  | [], _, _, member => by cases member
  | (key, value) :: fields, isProper, field, member => by
      rw [properFields, Bool.and_eq_true] at isProper
      rcases List.mem_cons.mp member with rfl | later
      · exact sameTyped_self value isProper.1
      · exact sameTypedFields_self fields isProper.2 field later

end

mutual

theorem sameValue_of_sameTyped :
    (first second : Json) → sameTyped first second = true → sameValue first second = true
  | .null, second, same => by
      cases second <;> first | rfl | cases same
  | .bool _, second, same => by
      cases second <;> simp_all [sameTyped, sameValue, sameScalar, number, sameNumber_self]
  | .int _, second, same => by
      cases second <;> simp_all [sameTyped, sameValue, sameScalar, number, sameNumber_self]
  | .float .., second, same => by
      cases second <;> simp_all [sameTyped, sameValue]
  | .str _, second, same => by
      cases second <;> simp_all [sameTyped, sameValue]
  | .arr items, second, same => by
      cases second with
      | arr others => exact sameItems_of_sameTyped items others same
      | null | bool | int | float | str | obj => cases same
  | .obj fields, second, same => by
      cases second with
      | obj others =>
        rw [sameTyped, Bool.and_eq_true] at same
        rw [sameValue, same.1, sameFields_of_sameTyped fields others same.2]
        rfl
      | null | bool | int | float | str | arr => cases same

theorem sameItems_of_sameTyped :
    (items others : List Json) → sameTypedItems items others = true →
      sameItems items others = true
  | [], _, same => same
  | item :: items, others, same => by
      cases others with
      | nil => cases same
      | cons other rest =>
        rw [sameTypedItems, Bool.and_eq_true] at same
        rw [sameItems, sameValue_of_sameTyped item other same.1,
          sameItems_of_sameTyped items rest same.2]
        rfl

theorem sameFields_of_sameTyped :
    (fields others : List (String × Json)) → sameTypedFields fields others = true →
      sameFields fields others = true
  | [], _, _ => rfl
  | (key, value) :: fields, others, same => by
      rw [sameTypedFields, Bool.and_eq_true] at same
      rw [sameFields, sameFields_of_sameTyped fields others same.2]
      cases found : Dictionary.lookupEntries key others with
      | none => simp [found] at same
      | some other =>
        simp only [found] at same
        simp [sameValue_of_sameTyped value other same.1]

end

end Json

end GraphAgent
