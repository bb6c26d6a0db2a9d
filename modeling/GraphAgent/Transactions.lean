import Mathlib.Data.List.Basic

/-!
# Programs that may fail

A transaction is a program in `Except`: it commits only when every step of it
succeeds.  These rules take a successful program apart.
-/

namespace GraphAgent.Transaction

variable {Error Value Result : Type*}

theorem bind_ok {Error Value Result : Type} {program : Except Error Value}
    {rest : Value → Except Error Result} {result : Result}
    (succeeded : (program >>= rest) = .ok result) :
    ∃ value, program = .ok value ∧ rest value = .ok result := by
  cases program with
  | error error => cases succeeded
  | ok value => exact ⟨value, rfl, succeeded⟩

theorem map_ok {program : Except Error Value} {change : Value → Result} {result : Result}
    (succeeded : program.map change = .ok result) :
    ∃ value, program = .ok value ∧ change value = result := by
  cases program with
  | error error => cases succeeded
  | ok value => exact ⟨value, rfl, Except.ok.inj succeeded⟩

theorem forM_ok {Error Value : Type} {check : Value → Except Error Unit} {values : List Value}
    {done : Unit} (succeeded : values.forM check = .ok done) :
    ∀ value ∈ values, check value = .ok () := by
  induction values generalizing done with
  | nil => simp
  | cons first rest ih =>
    change (check first >>= fun _ => rest.forM check) = .ok done at succeeded
    obtain ⟨_, firstChecked, restChecked⟩ := bind_ok succeeded
    intro value member
    rcases List.mem_cons.mp member with rfl | later
    · exact firstChecked
    · exact ih restChecked value later

theorem mapM_ok {Error Value Result : Type} {program : Value → Except Error Result}
    {values : List Value} {results : List Result} (succeeded : values.mapM program = .ok results) :
    List.Forall₂ (fun value result => program value = .ok result) values results := by
  induction values generalizing results with
  | nil =>
    cases succeeded
    exact .nil
  | cons first rest ih =>
    rw [List.mapM_cons] at succeeded
    obtain ⟨result, firstResult, remaining⟩ := bind_ok succeeded
    obtain ⟨others, othersResult, built⟩ := bind_ok remaining
    cases built
    exact .cons firstResult (ih othersResult)

theorem mapM_congr {Error Value Result : Type} {first second : Value → Except Error Result}
    {values : List Value} (same : ∀ value ∈ values, first value = second value) :
    values.mapM first = values.mapM second := by
  induction values with
  | nil => rfl
  | cons value values ih =>
    rw [List.mapM_cons, List.mapM_cons, same value (List.mem_cons_self ..),
      ih fun later member => same later (List.mem_cons_of_mem _ member)]

theorem mapM_mem {Error Value Result : Type} {program : Value → Except Error Result}
    {values : List Value} {results : List Result} (succeeded : values.mapM program = .ok results) :
    ∀ value ∈ values, ∃ result ∈ results, program value = .ok result := by
  have related := mapM_ok succeeded
  clear succeeded
  induction related with
  | nil => simp
  | cons first _ ih =>
    intro value member
    rcases List.mem_cons.mp member with rfl | later
    · exact ⟨_, List.mem_cons_self .., first⟩
    · obtain ⟨result, listed, same⟩ := ih value later
      exact ⟨result, List.mem_cons_of_mem _ listed, same⟩

theorem forM_iff {Error Value : Type} {check : Value → Except Error Unit}
    {values : List Value} :
    values.forM check = .ok () ↔ ∀ value ∈ values, check value = .ok () := by
  constructor
  · exact forM_ok
  · intro checked
    induction values with
    | nil => rfl
    | cons first rest ih =>
      change (check first >>= fun _ => rest.forM check) = .ok ()
      rw [checked first (List.mem_cons_self ..)]
      exact ih fun value later => checked value (List.mem_cons_of_mem _ later)

theorem mapM_iff {Error Value Result : Type} {program : Value → Except Error Result}
    {values : List Value} {results : List Result} :
    values.mapM program = .ok results ↔
      (∀ value ∈ values, ∃ result, program value = .ok result) ∧
        results = values.filterMap fun value => (program value).toOption := by
  induction values generalizing results with
  | nil =>
    rw [List.mapM_nil]
    constructor
    · rintro ⟨⟩
      exact ⟨by simp, rfl⟩
    · rintro ⟨-, rfl⟩
      rfl
  | cons first rest ih =>
    rw [List.mapM_cons]
    cases outcome : program first with
    | error error =>
      constructor
      · rintro ⟨⟩
      · rintro ⟨every, -⟩
        obtain ⟨result, succeeded⟩ := every first (List.mem_cons_self ..)
        cases outcome.symm.trans succeeded
    | ok value =>
      rw [List.filterMap_cons, outcome]
      constructor
      · intro succeeded
        change (rest.mapM program >>= fun others => pure (value :: others)) = _ at succeeded
        obtain ⟨others, othersResult, built⟩ := bind_ok succeeded
        obtain ⟨every, rfl⟩ := ih.mp othersResult
        cases built
        refine ⟨?_, rfl⟩
        intro later member
        rcases List.mem_cons.mp member with rfl | member
        · exact ⟨value, outcome⟩
        · exact every later member
      · rintro ⟨every, rfl⟩
        have rested := ih.mpr
          ⟨fun later member => every later (List.mem_cons_of_mem _ member), rfl⟩
        change (rest.mapM program >>= fun others => pure (value :: others)) = _
        rw [rested]
        rfl

end GraphAgent.Transaction
