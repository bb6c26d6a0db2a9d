import Mathlib.Data.List.Sort
import GraphAgent.JsonSameness

/-!
# Patches between two dictionaries

`_difference` and `_apply_difference` of
`app/services/infrastructure/rollout_context/checkpoint/codec/pending_messages.py`.
A patch leaves out what is equal under `==`, so it gives back the original up to
`==`, and with its types exactly where equal values had equal types.
-/

namespace GraphAgent.PendingMessages

open Dictionary

inductive CodecError where
  | value (message : String)
  | type (message : String)

def patchOf (changes : List (String × Json)) (removed : List String) : Json :=
  .obj [("changes", .obj changes), ("remove", .arr (removed.map .str))]

/-- `sorted(canonical.keys() - original.keys())`. -/
def removedKeys (original canonical : List (String × Json)) : List String :=
  ((canonical.map Prod.fst).filter fun key => !(lookupEntries key original).isSome).insertionSort
    (· ≤ ·)

mutual

def changeOf : Json → Json → Json
  | .obj fields, .obj others =>
    .obj [("merge", patchOf (changesFrom others fields) (removedKeys fields others))]
  | value, _ => .obj [("value", value)]

/-- The changes of the loop of `_difference`. -/
def changesFrom (canonical : List (String × Json)) :
    List (String × Json) → List (String × Json)
  | [] => []
  | (key, value) :: original =>
    match lookupEntries key canonical with
    | none => (key, .obj [("value", value)]) :: changesFrom canonical original
    | some other =>
      if value.sameValue other then changesFrom canonical original
      else (key, changeOf value other) :: changesFrom canonical original

end

def difference (original canonical : List (String × Json)) : Json :=
  patchOf (changesFrom canonical original) (removedKeys original canonical)

/-- `del result[key]` for each removed key. -/
def removeKeys (result : List (String × Json)) :
    List Json → Except CodecError (List (String × Json))
  | [] => .ok result
  | .str key :: removed =>
    if (lookupEntries key result).isSome then
      removeKeys (result.filter fun field => field.1 ≠ key) removed
    else
      .error (.value "pending message 引用移除了不存在的字段")
  | _ :: _ => .error (.value "pending message 引用移除了不存在的字段")

def malformedPatch : CodecError :=
  .value "pending message 引用 patch 结构非法"

def malformedOperation : CodecError :=
  .value "pending message 引用 patch 操作非法"

mutual

/-- `_apply_difference`.  A dictionary with the keys `changes` and `remove` has
two entries, in either order. -/
def applyDifference (canonical : List (String × Json)) :
    Json → Except CodecError (List (String × Json))
  | .obj [(first, .obj changes), (second, .arr removed)] =>
    if first = "changes" ∧ second = "remove" then
      (removeKeys canonical removed).bind fun result => applyChanges result changes
    else
      .error malformedPatch
  | .obj [(first, .arr removed), (second, .obj changes)] =>
    if first = "remove" ∧ second = "changes" then
      (removeKeys canonical removed).bind fun result => applyChanges result changes
    else
      .error malformedPatch
  | _ => .error malformedPatch

def applyChanges (result : List (String × Json)) :
    List (String × Json) → Except CodecError (List (String × Json))
  | [] => .ok result
  | (key, change) :: changes =>
    (applyChange result key change).bind fun changed => applyChanges changed changes

def applyChange (result : List (String × Json)) (key : String) :
    Json → Except CodecError (List (String × Json))
  | .obj [(operation, operand)] =>
    if operation = "value" then
      .ok (insertEntries key operand result)
    else if operation = "merge" then
      match lookupEntries key result, operand with
      | some (.obj inner), .obj _ =>
        (applyDifference inner operand).map fun merged =>
          insertEntries key (.obj merged) result
      | _, _ => .error malformedOperation
    else
      .error malformedOperation
  | .obj _ => .error malformedOperation
  | _ => .error (.type "pending message 引用 patch 字段非法")

end

mutual

/-- Where the original is equal to the canonical value under `==`, the types are
the same too.  Dictionaries that are not equal are compared entry by entry. -/
def typesAgree : Json → Json → Bool
  | .obj fields, .obj others =>
    if (Json.obj fields).sameValue (.obj others) then (Json.obj fields).sameTyped (.obj others)
    else fieldTypesAgree others fields
  | value, other => !value.sameValue other || value.sameTyped other

def fieldTypesAgree (canonical : List (String × Json)) : List (String × Json) → Bool
  | [] => true
  | (key, value) :: original =>
    (match lookupEntries key canonical with
    | some other => typesAgree value other
    | none => true) && fieldTypesAgree canonical original

end

variable {original canonical result : List (String × Json)} {key : String} {value other : Json}

theorem lookup_insertEntries (distinct : (result.map Prod.fst).Nodup) (found : String) :
    lookupEntries found (insertEntries key value result) =
      if key = found then some value else lookupEntries found result :=
  @lookup_insert String Json _ ⟨result, distinct⟩ key found value

theorem lookup_removed (distinct : (result.map Prod.fst).Nodup) (found : String) :
    lookupEntries found (result.filter fun field => field.1 ≠ key) =
      if key = found then none else lookupEntries found result :=
  @lookup_erase String Json _ ⟨result, distinct⟩ key found

theorem proper_of_lookups (distinct : (result.map Prod.fst).Nodup)
    (each : ∀ key value, lookupEntries key result = some value → value.proper = true) :
    (Json.obj result).proper = true := by
  rw [Json.proper_obj, Json.properFields_iff]
  refine ⟨distinct, fun field member => ?_⟩
  exact each field.1 field.2 (lookupEntries_of_mem distinct member)

theorem proper_insertEntries (isProper : (Json.obj result).proper = true)
    (valueProper : value.proper = true) :
    (Json.obj (insertEntries key value result)).proper = true := by
  have distinct := (Json.proper_obj.mp isProper).1
  apply proper_of_lookups (insertEntries_distinct distinct)
  intro found inserted present
  rw [lookup_insertEntries distinct] at present
  split at present
  · cases present
    exact valueProper
  · exact Json.proper_of_lookup isProper present

theorem removeKeys_ok (keys : List String) (isProper : (Json.obj result).proper = true)
    (distinct : keys.Nodup) (present : ∀ key ∈ keys, (lookupEntries key result).isSome = true) :
    ∃ kept, removeKeys result (keys.map .str) = .ok kept ∧ (Json.obj kept).proper = true ∧
      ∀ key, lookupEntries key kept =
        if key ∈ keys then none else lookupEntries key result := by
  induction keys generalizing result with
  | nil => exact ⟨result, rfl, isProper, by simp⟩
  | cons first keys ih =>
    rw [List.nodup_cons] at distinct
    have resultDistinct := (Json.proper_obj.mp isProper).1
    have lookups := @lookup_removed result first resultDistinct
    have restDistinct := resultDistinct.sublist
      ((List.filter_sublist (p := fun field => decide (field.1 ≠ first))).map Prod.fst)
    have restProper := proper_of_lookups restDistinct (fun key value found => by
      rw [lookups] at found
      split at found
      · cases found
      · exact Json.proper_of_lookup isProper found)
    obtain ⟨kept, removed, keptProper, keptLookups⟩ := ih restProper distinct.2
      (fun key member => by
        have different : first ≠ key := fun same => distinct.1 (same ▸ member)
        rw [lookups, if_neg different]
        exact present key (by simp [member]))
    refine ⟨kept, ?_, keptProper, fun key => ?_⟩
    · rw [List.map_cons, removeKeys, if_pos (present first (by simp))]
      exact removed
    · rw [keptLookups, lookups]
      by_cases same : key = first
      · simp [same]
      · simp [same, Ne.symm same]

theorem mem_removedKeys : key ∈ removedKeys original canonical ↔
    (lookupEntries key canonical).isSome = true ∧ lookupEntries key original = none := by
  simp [removedKeys, lookupEntries_isSome]

theorem removedKeys_nodup (distinct : (canonical.map Prod.fst).Nodup) :
    (removedKeys original canonical).Nodup :=
  (List.perm_insertionSort _ _).nodup_iff.mpr (distinct.filter _)

theorem typesAgree_of_sameValue (same : value.sameValue other = true) :
    typesAgree value other = value.sameTyped other := by
  cases value with
  | obj fields =>
    cases other with
    | obj others => simp [typesAgree, same]
    | null | bool | int | float | str | arr => simp [typesAgree, same]
  | null | bool | int | float | str | arr => simp [typesAgree, same]

theorem typesAgree_of_different (different : value.sameValue other = false)
    (notObjects : ∀ fields others, value = .obj fields → other ≠ .obj others) :
    typesAgree value other = true := by
  cases value with
  | obj fields =>
    cases other with
    | obj others => exact absurd rfl (notObjects fields others rfl)
    | null | bool | int | float | str | arr => simp [typesAgree, different]
  | null | bool | int | float | str | arr => simp [typesAgree, different]

theorem typesAgree_obj {fields others : List (String × Json)}
    (different : (Json.obj fields).sameValue (.obj others) = false) :
    typesAgree (.obj fields) (.obj others) = fieldTypesAgree others fields := by
  rw [typesAgree, different]
  rfl

theorem fieldTypesAgree_iff (distinct : (original.map Prod.fst).Nodup) :
    fieldTypesAgree canonical original = true ↔
      ∀ key value other, lookupEntries key original = some value →
        lookupEntries key canonical = some other → typesAgree value other = true := by
  have entries : fieldTypesAgree canonical original = true ↔
      ∀ field ∈ original, ∀ other, lookupEntries field.1 canonical = some other →
        typesAgree field.2 other = true := by
    clear distinct
    induction original with
    | nil => simp [fieldTypesAgree]
    | cons field original ih =>
      obtain ⟨key, value⟩ := field
      rw [fieldTypesAgree, Bool.and_eq_true, ih, List.forall_mem_cons]
      cases lookupEntries key canonical <;> simp
  rw [entries]
  constructor
  · intro all key value other found present
    exact all (key, value) (mem_of_lookupEntries found) other present
  · intro all field member other present
    exact all field.1 field.2 other (lookupEntries_of_mem distinct member) present

def KeepsEqual (fields others made : List (String × Json)) : Prop :=
  ∀ key, match lookupEntries key fields, lookupEntries key others with
    | none, _ => lookupEntries key made = none
    | some value, some other => value.sameValue other = true → lookupEntries key made = some other
    | some value, none => ∃ found, lookupEntries key made = some found ∧
        value.sameValue found = true

/-- What the patch makes of a value of the original: a value equal to it under
`==`, of its types where those of the canonical value agree. -/
structure Restored (value : Json) (canonical : Option Json) (result : Json) : Prop where
  isProper : result.proper = true
  same : value.sameValue result = true
  typed : value.sameTyped result = true ↔
    ∀ other, canonical = some other → typesAgree value other = true
  kept : ∀ other, canonical = some other → value.sameValue other = true → result = other
  inner : ∀ fields others, value = .obj fields → canonical = some (.obj others) →
    value.sameValue (.obj others) = false →
      ∃ made, result = .obj made ∧ KeepsEqual fields others made

def FieldsRestored (original canonical before result : List (String × Json)) : Prop :=
  ∀ key, match lookupEntries key original with
    | none => lookupEntries key result = lookupEntries key before
    | some value => ∃ restored, lookupEntries key result = some restored ∧
        Restored value (lookupEntries key canonical) restored

theorem Restored.replaced (isProper : value.proper = true) {canonical : Option Json}
    (agree : ∀ other, canonical = some other → typesAgree value other = true)
    (different : ∀ other, canonical = some other → value.sameValue other = false)
    (notObjects : ∀ fields others, value = .obj fields → canonical ≠ some (.obj others)) :
    Restored value canonical value where
  isProper := isProper
  same := Json.sameValue_of_sameTyped _ _ (Json.sameTyped_self value isProper)
  typed := iff_of_true (Json.sameTyped_self value isProper) agree
  kept other found same := by simp [different other found] at same
  inner fields others equal found := absurd found (notObjects fields others equal)

theorem Restored.ofCanonical (isProper : other.proper = true)
    (same : value.sameValue other = true) : Restored value (some other) other where
  isProper := isProper
  same := same
  typed := by
    simp only [Option.some.injEq, forall_eq', typesAgree_of_sameValue same]
  kept found equal _ := by cases equal; rfl
  inner fields others equal found different := by
    cases found
    simp [same] at different

theorem sameValue_of_restored {before : List (String × Json)}
    (originalProper : (Json.obj original).proper = true)
    (resultProper : (Json.obj result).proper = true)
    (restored : FieldsRestored original canonical before result)
    (gone : ∀ key, lookupEntries key original = none → lookupEntries key before = none) :
    (Json.obj original).sameValue (.obj result) = true := by
  rw [Json.sameValue_obj originalProper resultProper]
  intro key
  have here := restored key
  cases found : lookupEntries key original with
  | none =>
    simp only [found] at here
    simp [here, gone key found]
  | some value =>
    simp only [found] at here
    obtain ⟨made, present, field⟩ := here
    simp [present, field.same]

theorem sameTyped_of_restored {before : List (String × Json)}
    (originalProper : (Json.obj original).proper = true)
    (resultProper : (Json.obj result).proper = true)
    (restored : FieldsRestored original canonical before result)
    (gone : ∀ key, lookupEntries key original = none → lookupEntries key before = none) :
    (Json.obj original).sameTyped (.obj result) = true ↔
      fieldTypesAgree canonical original = true := by
  rw [Json.sameTyped_obj originalProper resultProper,
    fieldTypesAgree_iff (Json.proper_obj.mp originalProper).1]
  constructor
  · intro agree key value other found present
    have here := restored key
    have typed := agree key
    simp only [found] at here typed
    obtain ⟨made, madeFound, field⟩ := here
    simp only [madeFound] at typed
    exact field.typed.mp typed other present
  · intro agree key
    have here := restored key
    cases found : lookupEntries key original with
    | none =>
      simp only [found] at here
      simp [here, gone key found]
    | some value =>
      simp only [found] at here
      obtain ⟨made, madeFound, field⟩ := here
      have typed := field.typed.mpr fun other present => agree key value other found present
      simp [madeFound, typed]

theorem FieldsRestored.keepsEqual {before : List (String × Json)}
    (restored : FieldsRestored original canonical before result)
    (gone : ∀ key, lookupEntries key original = none → lookupEntries key before = none) :
    KeepsEqual original canonical result := by
  intro key
  have here := restored key
  cases found : lookupEntries key original with
  | none =>
    simp only [found] at here
    exact here.trans (gone key found)
  | some value =>
    simp only [found] at here
    obtain ⟨made, madeFound, field⟩ := here
    cases present : lookupEntries key canonical with
    | none => exact ⟨made, madeFound, field.same⟩
    | some other =>
      intro equal
      rw [madeFound, field.kept other present equal]

def ChangesApply (original canonical : List (String × Json)) : Prop :=
  ∀ before, (Json.obj before).proper = true →
    (∀ key value, lookupEntries key original = some value →
      lookupEntries key before = lookupEntries key canonical) →
    ∃ result, applyChanges before (changesFrom canonical original) = .ok result ∧
      (Json.obj result).proper = true ∧ FieldsRestored original canonical before result

theorem applyDifference_of_changes (applies : ChangesApply original canonical)
    (canonicalProper : (Json.obj canonical).proper = true) :
    ∃ before result, applyDifference canonical (difference original canonical) = .ok result ∧
      (Json.obj result).proper = true ∧ FieldsRestored original canonical before result ∧
      ∀ key, lookupEntries key original = none → lookupEntries key before = none := by
  have distinct := (Json.proper_obj.mp canonicalProper).1
  obtain ⟨before, removed, beforeProper, lookups⟩ :=
    removeKeys_ok (removedKeys original canonical) canonicalProper (removedKeys_nodup distinct)
      (fun key member => (mem_removedKeys.mp member).1)
  have unchanged : ∀ key value, lookupEntries key original = some value →
      lookupEntries key before = lookupEntries key canonical := by
    intro key value found
    rw [lookups, if_neg]
    intro member
    rw [(mem_removedKeys.mp member).2] at found
    cases found
  obtain ⟨result, applied, resultProper, restored⟩ := applies before beforeProper unchanged
  refine ⟨before, result, ?_, resultProper, restored, fun key absent => ?_⟩
  · rw [difference, patchOf, applyDifference, if_pos ⟨rfl, rfl⟩, removed]
    exact applied
  · rw [lookups]
    split
    · rfl
    · rename_i notRemoved
      rw [mem_removedKeys, not_and] at notRemoved
      by_contra present
      exact notRemoved (Option.isSome_iff_ne_none.mpr present) absent

theorem FieldsRestored.cons {before after : List (String × Json)} {made : Json}
    (restored : FieldsRestored original canonical after result)
    (absent : lookupEntries key original = none)
    (present : lookupEntries key after = some made)
    (field : Restored value (lookupEntries key canonical) made)
    (others : ∀ found, key ≠ found → lookupEntries found after = lookupEntries found before) :
    FieldsRestored ((key, value) :: original) canonical before result := by
  intro found
  have later := restored found
  by_cases same : key = found
  · subst same
    simp only [absent] at later
    simp only [lookupEntries, if_true]
    exact ⟨made, later.trans present, field⟩
  · simp only [lookupEntries, if_neg same]
    rw [others found same] at later
    exact later

theorem ChangesApply.written {before : List (String × Json)} {made : Json}
    (applies : ChangesApply original canonical) (new : key ∉ original.map Prod.fst)
    (beforeProper : (Json.obj before).proper = true) (madeProper : made.proper = true)
    (unchanged : ∀ found value, lookupEntries found ((key, other) :: original) = some value →
      lookupEntries found before = lookupEntries found canonical)
    (field : Restored other (lookupEntries key canonical) made) :
    ∃ result, applyChanges (insertEntries key made before) (changesFrom canonical original) =
        .ok result ∧
      (Json.obj result).proper = true ∧
      FieldsRestored ((key, other) :: original) canonical before result := by
  have lookups := @lookup_insertEntries before key made (Json.proper_obj.mp beforeProper).1
  have absent : lookupEntries key original = none := lookupEntries_eq_none new
  obtain ⟨result, applied, resultProper, restored⟩ :=
    applies _ (proper_insertEntries beforeProper madeProper) (fun found value present => by
      have different : key ≠ found := by
        rintro rfl
        simp [absent] at present
      rw [lookups, if_neg different]
      exact unchanged found value (by simp [lookupEntries, different, present]))
  exact ⟨result, applied, resultProper,
    restored.cons absent (by simp [lookups]) field
      (fun found different => by rw [lookups, if_neg different])⟩

theorem changed_value {before : List (String × Json)} (isProper : value.proper = true)
    (different : value.sameValue other = false)
    (notObjects : ∀ fields others, value = .obj fields → other ≠ .obj others)
    (written : changeOf value other = .obj [("value", value)]) :
    ∃ restored, applyChange before key (changeOf value other) =
        .ok (insertEntries key restored before) ∧ Restored value (some other) restored := by
  refine ⟨value, ?_, .replaced isProper ?_ ?_ ?_⟩
  · simp [written, applyChange]
  · rintro found ⟨⟩
    exact typesAgree_of_different different notObjects
  · rintro found ⟨⟩
    exact different
  · intro fields others equal found
    exact notObjects fields others equal (Option.some.inj found)

mutual

theorem applyChange_changeOf : (value : Json) → value.proper = true →
    ∀ (other : Json) (before : List (String × Json)) (key : String),
      lookupEntries key before = some other → other.proper = true →
      value.sameValue other = false →
      ∃ restored, applyChange before key (changeOf value other) =
          .ok (insertEntries key restored before) ∧ Restored value (some other) restored
  | .obj fields, valueProper, .obj others, before, key, found, otherProper, different => by
      obtain ⟨distinct, each⟩ := Json.proper_obj.mp valueProper
      obtain ⟨middle, result, applied, resultProper, restored, gone⟩ :=
        applyDifference_of_changes
          (applyChanges_changesFrom fields distinct each others otherProper) otherProper
      refine ⟨.obj result, ?_, ⟨resultProper, ?_, ?_, ?_, ?_⟩⟩
      · rw [difference] at applied
        simp only [changeOf, applyChange, found, String.reduceEq, if_false, if_true]
        rw [patchOf] at applied ⊢
        simp only [applied]
        rfl
      · exact sameValue_of_restored valueProper resultProper restored gone
      · rw [sameTyped_of_restored valueProper resultProper restored gone]
        simp only [Option.some.injEq, forall_eq', typesAgree_obj different]
      · intro found equal same
        cases equal
        simp [different] at same
      · rintro _ _ ⟨⟩ ⟨⟩ _
        exact ⟨result, rfl, restored.keepsEqual gone⟩
  | .obj fields, valueProper, .null, before, key, found, _, different
  | .obj fields, valueProper, .bool _, before, key, found, _, different
  | .obj fields, valueProper, .int _, before, key, found, _, different
  | .obj fields, valueProper, .float .., before, key, found, _, different
  | .obj fields, valueProper, .str _, before, key, found, _, different
  | .obj fields, valueProper, .arr _, before, key, found, _, different =>
    changed_value valueProper different (by simp) rfl
  | .null, valueProper, other, before, key, found, _, different
  | .bool _, valueProper, other, before, key, found, _, different
  | .int _, valueProper, other, before, key, found, _, different
  | .float .., valueProper, other, before, key, found, _, different
  | .str _, valueProper, other, before, key, found, _, different
  | .arr _, valueProper, other, before, key, found, _, different =>
    changed_value valueProper different (by simp) rfl

theorem applyChanges_changesFrom : (original : List (String × Json)) →
    (original.map Prod.fst).Nodup → Json.properFields original = true →
    ∀ canonical, (Json.obj canonical).proper = true → ChangesApply original canonical
  | [], _, _, canonical, _, before, beforeProper, _ =>
    ⟨before, rfl, beforeProper, fun key => rfl⟩
  | (key, value) :: original, distinct, each, canonical, canonicalProper, before, beforeProper,
      unchanged => by
      rw [List.map_cons, List.nodup_cons] at distinct
      rw [Json.properFields, Bool.and_eq_true] at each
      have rest := applyChanges_changesFrom original distinct.2 each.2 canonical canonicalProper
      have absent : lookupEntries key original = none := lookupEntries_eq_none distinct.1
      have here : lookupEntries key before = lookupEntries key canonical :=
        unchanged key value (by simp [lookupEntries])
      cases found : lookupEntries key canonical with
      | none =>
        have field : Restored value (lookupEntries key canonical) value := by
          rw [found]
          exact .replaced each.1 (by simp) (by simp) (by simp)
        obtain ⟨result, applied, resultProper, restored⟩ :=
          rest.written distinct.1 beforeProper each.1 unchanged field
        refine ⟨result, ?_, resultProper, restored⟩
        simp only [changesFrom, found, applyChanges, applyChange, if_true]
        exact applied
      | some other =>
        have otherProper := Json.proper_of_lookup canonicalProper found
        cases same : value.sameValue other with
        | true =>
          obtain ⟨result, applied, resultProper, restored⟩ :=
            rest before beforeProper (fun key value present => unchanged key value (by
              rw [lookupEntries, if_neg]
              · exact present
              · rintro rfl
                simp [absent] at present))
          refine ⟨result, ?_, resultProper, ?_⟩
          · simp only [changesFrom, found, same, if_true]
            exact applied
          · apply restored.cons absent (here.trans found) _ (fun _ _ => rfl)
            rw [found]
            exact .ofCanonical otherProper same
        | false =>
          obtain ⟨made, changed, field⟩ :=
            applyChange_changeOf value each.1 other before key (here.trans found)
              otherProper same
          obtain ⟨result, applied, resultProper, restored⟩ :=
            rest.written distinct.1 beforeProper field.isProper unchanged (found ▸ field)
          refine ⟨result, ?_, resultProper, restored⟩
          simp only [changesFrom, found, same, Bool.false_eq_true, if_false, applyChanges,
            changed]
          exact applied

end

theorem applyDifference_difference (originalProper : (Json.obj original).proper = true)
    (canonicalProper : (Json.obj canonical).proper = true) :
    ∃ before result, applyDifference canonical (difference original canonical) = .ok result ∧
      (Json.obj result).proper = true ∧ FieldsRestored original canonical before result ∧
      ∀ key, lookupEntries key original = none → lookupEntries key before = none := by
  obtain ⟨distinct, each⟩ := Json.proper_obj.mp originalProper
  exact applyDifference_of_changes
    (applyChanges_changesFrom original distinct each canonical canonicalProper) canonicalProper

/-- The patch of a dictionary against any other one is applied without an error and
gives the dictionary back up to `==`. -/
theorem patch_restores_dictionary (original canonical : JsonObject) :
    ∃ result, applyDifference canonical.fields (difference original.fields canonical.fields) =
        .ok result ∧
      (Json.obj original.fields).sameValue (.obj result) = true ∧
      ((Json.obj original.fields).sameTyped (.obj result) = true ↔
        fieldTypesAgree canonical.fields original.fields = true) := by
  obtain ⟨before, result, applied, proper, restored, gone⟩ :=
    applyDifference_difference original.proper canonical.proper
  exact ⟨result, applied, sameValue_of_restored original.proper proper restored gone,
    sameTyped_of_restored original.proper proper restored gone⟩

end GraphAgent.PendingMessages
