import Mathlib.Data.List.Nodup

/-!
# Tables with a primary key

A table is the list of its rows in insertion order, and a key is any projection
of a row.  An update maps the rows it matches; as long as it keeps the keys,
looking a row up commutes with it.
-/

namespace GraphAgent.KeyedRows

variable {Row Key : Type*} [DecidableEq Key]

/-- `SELECT … WHERE key = wanted`. -/
def fetch (key : Row → Key) (rows : List Row) (wanted : Key) : Option Row :=
  rows.find? fun row => key row = wanted

/-- `UPDATE … SET change WHERE matching`. -/
def updateWhere (matching : Row → Bool) (change : Row → Row) (rows : List Row) : List Row :=
  rows.map fun row => if matching row then change row else row

/-- `INSERT … ON CONFLICT(key) DO UPDATE SET change`. -/
def upsert (key : Row → Key) (row : Row) (change : Row → Row) (rows : List Row) : List Row :=
  match fetch key rows (key row) with
  | none => rows ++ [row]
  | some _ => updateWhere (fun earlier => key earlier = key row) change rows

/-- `SELECT … LIMIT 1` without an order: some row, whenever there is one. -/
structure AnyRow (Row : Type*) where
  pick : List Row → Option Row
  pick_mem : ∀ {rows row}, pick rows = some row → row ∈ rows
  pick_none : ∀ {rows}, pick rows = none → rows = []

def AnyRow.first : AnyRow Row where
  pick rows := rows.head?
  pick_mem := List.mem_of_mem_head?
  pick_none := List.head?_eq_none_iff.mp

variable {key : Row → Key} {rows : List Row} {wanted : Key}

theorem fetch_mem {row : Row} (fetched : fetch key rows wanted = some row) : row ∈ rows :=
  List.mem_of_find?_eq_some fetched

theorem fetch_key {row : Row} (fetched : fetch key rows wanted = some row) :
    key row = wanted := by
  simpa using List.find?_some fetched

theorem fetch_eq_none : fetch key rows wanted = none ↔ ∀ row ∈ rows, key row ≠ wanted := by
  simp [fetch]

theorem fetch_singleton (row : Row) : fetch key [row] (key row) = some row := by
  simp [fetch]

theorem fetch_of_mem (distinct : (rows.map key).Nodup) {row : Row} (member : row ∈ rows) :
    fetch key rows (key row) = some row := by
  induction rows with
  | nil => cases member
  | cons first rest ih =>
    rw [List.map_cons, List.nodup_cons] at distinct
    rcases List.mem_cons.mp member with rfl | later
    · simp [fetch]
    · have different : key first ≠ key row := by
        intro same
        exact distinct.1 (same ▸ List.mem_map_of_mem later)
      rw [fetch, List.find?_cons_of_neg (by simpa using different)]
      exact ih distinct.2 later

theorem eq_of_key_eq (distinct : (rows.map key).Nodup) {left right : Row}
    (leftMember : left ∈ rows) (rightMember : right ∈ rows) (same : key left = key right) :
    left = right := by
  have found := fetch_of_mem distinct leftMember
  rw [same, fetch_of_mem distinct rightMember] at found
  exact (Option.some.inj found).symm

theorem fetch_map {change : Row → Row} (keeps : ∀ row, key (change row) = key row) :
    fetch key (rows.map change) wanted = (fetch key rows wanted).map change := by
  rw [fetch, List.find?_map]
  simp [fetch, Function.comp_def, keeps]

theorem fetch_append {more : List Row} :
    fetch key (rows ++ more) wanted = (fetch key rows wanted).or (fetch key more wanted) :=
  List.find?_append

section Update

variable {matching : Row → Bool} {change : Row → Row}

omit [DecidableEq Key] in
theorem update_key (keeps : ∀ row, key (change row) = key row) (row : Row) :
    key (if matching row then change row else row) = key row := by
  split
  · exact keeps row
  · rfl

theorem fetch_updateWhere (keeps : ∀ row, key (change row) = key row) :
    fetch key (updateWhere matching change rows) wanted =
      (fetch key rows wanted).map fun row => if matching row then change row else row :=
  fetch_map (update_key keeps)

theorem fetch_updateWhere_self (keeps : ∀ row, key (change row) = key row) {row : Row}
    (fetched : fetch key rows wanted = some row) (matched : matching row = true) :
    fetch key (updateWhere matching change rows) wanted = some (change row) := by
  rw [fetch_updateWhere keeps, fetched]
  simp [matched]

omit [DecidableEq Key] in
theorem keys_updateWhere (keeps : ∀ row, matching row = true → key (change row) = key row) :
    (updateWhere matching change rows).map key = rows.map key := by
  rw [updateWhere, List.map_map]
  apply List.map_congr_left
  intro row _
  rw [Function.comp_apply]
  split
  · rename_i matched
    exact keeps row matched
  · rfl

theorem updateWhere_id : updateWhere matching id rows = rows := by
  simp [updateWhere]

theorem updateWhere_unmatched (unmatched : ∀ row ∈ rows, matching row = false) :
    updateWhere matching change rows = rows := by
  rw [updateWhere]
  conv_rhs => rw [← List.map_id rows]
  apply List.map_congr_left
  intro row listed
  rw [unmatched row listed]
  rfl

theorem fetch_updateWhere_matching
    (keeps : ∀ row, matching row = true → key (change row) = key row) :
    fetch key (updateWhere matching change rows) wanted =
      (fetch key rows wanted).map fun row => if matching row then change row else row := by
  refine fetch_map fun row => ?_
  split
  · rename_i matched
    exact keeps row matched
  · rfl

theorem upsert_missing {row : Row} (missing : fetch key rows (key row) = none) :
    upsert key row change rows = rows ++ [row] := by
  rw [upsert, missing]

theorem nodup_upsert {row : Row} (keeps : ∀ current, key current = key row →
    key (change current) = key row) (distinct : (rows.map key).Nodup) :
    ((upsert key row change rows).map key).Nodup := by
  rw [upsert]
  cases found : fetch key rows (key row) with
  | none =>
    rw [List.map_append, List.map_singleton]
    refine distinct.append (List.nodup_singleton _) ?_
    rw [List.disjoint_singleton]
    rintro listed
    obtain ⟨other, member, same⟩ := List.mem_map.mp listed
    exact fetch_eq_none.mp found other member same
  | some current =>
    change ((updateWhere _ _ _).map key).Nodup
    rw [keys_updateWhere]
    · exact distinct
    · intro earlier matched
      have same := of_decide_eq_true matched
      rw [keeps earlier same, same]

theorem fetch_upsert {row : Row} (keeps : ∀ current, key current = key row →
    key (change current) = key row) :
    fetch key (upsert key row change rows) wanted =
      if wanted = key row then some (((fetch key rows (key row)).map change).getD row)
      else fetch key rows wanted := by
  rw [upsert]
  cases found : fetch key rows (key row) with
  | none =>
    rw [fetch_append]
    by_cases same : wanted = key row
    · rw [if_pos same, same, found]
      simp [fetch]
    · rw [if_neg same]
      have other : fetch key [row] wanted = none := by
        simpa [fetch_eq_none] using Ne.symm same
      rw [other, Option.or_none]
  | some current =>
    have kept (earlier : Row) : key (if decide (key earlier = key row) = true
        then change earlier else earlier) = key earlier := by
      split
      · rename_i matched
        have same := of_decide_eq_true matched
        rw [keeps earlier same, same]
      · rfl
    rw [updateWhere, fetch_map kept]
    by_cases same : wanted = key row
    · rw [if_pos same, same, found]
      simp [fetch_key found]
    · rw [if_neg same]
      cases other : fetch key rows wanted with
      | none => rfl
      | some earlier =>
        have distinct : key earlier ≠ key row := by
          rw [fetch_key other]
          exact same
        simp [distinct]

end Update

theorem fetch_filter {keep : Row → Bool}
    (same : ∀ first second, key first = key second → keep first = keep second) :
    fetch key (rows.filter keep) wanted = (fetch key rows wanted).filter keep := by
  induction rows with
  | nil => rfl
  | cons row rows ih =>
    rw [fetch] at ih ⊢
    by_cases found : key row = wanted
    · have here : fetch key (row :: rows) wanted = some row := by simp [fetch, found]
      rw [here]
      cases kept : keep row with
      | true =>
        rw [List.filter_cons_of_pos kept, List.find?_cons_of_pos (by simpa using found),
          Option.filter_some, if_pos kept]
      | false =>
        rw [List.filter_cons_of_neg (by rw [kept]; exact Bool.false_ne_true), Option.filter_some,
          kept]
        have missing : ∀ other ∈ rows.filter keep, key other ≠ wanted := by
          intro other member equal
          rw [List.mem_filter, same other row (equal.trans found.symm), kept] at member
          cases member.2
        simpa [fetch] using fetch_eq_none.mpr missing
    · have there : fetch key (row :: rows) wanted = fetch key rows wanted := by
        simp [fetch, found]
      rw [there, ← ih]
      cases kept : keep row with
      | true =>
        rw [List.filter_cons_of_pos kept, List.find?_cons_of_neg (by simpa using found)]
      | false => rw [List.filter_cons_of_neg (by rw [kept]; exact Bool.false_ne_true)]

end GraphAgent.KeyedRows
