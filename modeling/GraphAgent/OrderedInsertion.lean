import Mathlib.Data.List.InsertIdx

/-!
# Inserting values into an ordered list

Values are inserted one after the other, each before the first value with a
larger key, and never before a value that was inserted earlier.  What comes out
interleaves the two lists, and it is ordered if the list was.
-/

namespace GraphAgent

variable {Value : Type*}

inductive Interleaves : List Value → List Value → List Value → Prop
  | nil : Interleaves [] [] []
  | kept {value : Value} {existing added merged : List Value} :
      Interleaves existing added merged → Interleaves (value :: existing) added (value :: merged)
  | added {value : Value} {existing added merged : List Value} :
      Interleaves existing added merged → Interleaves existing (value :: added) (value :: merged)

namespace Interleaves

variable {existing added merged otherExisting otherAdded otherMerged : List Value}

theorem nothingAdded (existing : List Value) : Interleaves existing [] existing := by
  induction existing with
  | nil => exact .nil
  | cons value existing ih => exact ih.kept

theorem nothingKept (added : List Value) : Interleaves [] added added := by
  induction added with
  | nil => exact .nil
  | cons value added ih => exact ih.added

theorem append (first : Interleaves existing added merged)
    (second : Interleaves otherExisting otherAdded otherMerged) :
    Interleaves (existing ++ otherExisting) (added ++ otherAdded) (merged ++ otherMerged) := by
  induction first with
  | nil => exact second
  | kept _ ih => exact ih.kept
  | added _ ih => exact ih.added

theorem perm (interleaves : Interleaves existing added merged) :
    merged.Perm (existing ++ added) := by
  induction interleaves with
  | nil => exact .refl _
  | kept _ ih => exact ih.cons _
  | added _ ih => exact (ih.cons _).trans List.perm_middle.symm

theorem sublist_existing (interleaves : Interleaves existing added merged) :
    existing.Sublist merged := by
  induction interleaves with
  | nil => exact .refl _
  | kept _ ih => exact ih.cons_cons _
  | added _ ih => exact ih.cons _

theorem sublist_added (interleaves : Interleaves existing added merged) :
    added.Sublist merged := by
  induction interleaves with
  | nil => exact .refl _
  | kept _ ih => exact ih.cons _
  | added _ ih => exact ih.cons_cons _

end Interleaves

variable (key : Value → Nat)

def insertEach (merged : List Value) (afterPrevious : Nat) : List Value → Option (List Value)
  | [] => some merged
  | value :: values =>
    let position := merged.findIdx fun other => key value < key other
    if position < afterPrevious then none
    else insertEach (merged.insertIdx position value) (position + 1) values

variable {key}

omit key in
theorem insertIdx_append_length (front back : List Value) (value : Value) :
    (front ++ back).insertIdx front.length value = front ++ value :: back := by
  induction front with
  | nil => simp
  | cons first front ih => simp [ih]

theorem insertEach_interleaves {values merged front back existing added : List Value}
    (interleaves : Interleaves existing added front)
    (inserted : insertEach key (front ++ back) front.length values = some merged) :
    Interleaves (existing ++ back) (added ++ values) merged := by
  induction values generalizing front back existing added with
  | nil =>
    cases inserted
    simpa using interleaves.append (.nothingAdded back)
  | cons value values ih =>
    rw [insertEach] at inserted
    split at inserted
    · cases inserted
    · rename_i notBefore
      have inside : (front ++ back).findIdx (fun other => key value < key other) ≤
          front.length + back.length := by
        have length := @List.findIdx_le_length _ (fun other => decide (key value < key other))
          (front ++ back)
        simpa using length
      generalize (front ++ back).findIdx (fun other => key value < key other) = position
        at notBefore inside inserted
      -- the values between the previous insertion and the place of this one
      obtain ⟨middle, rest, rfl, lengths⟩ : ∃ middle rest, back = middle ++ rest ∧
          front.length + middle.length = position :=
        ⟨back.take (position - front.length), back.drop (position - front.length), by simp,
          by simp only [List.length_take]; omega⟩
      have place : (front ++ middle).length = position := by simpa using lengths
      rw [← List.append_assoc, ← place, insertIdx_append_length] at inserted
      have front' : Interleaves (existing ++ middle) (added ++ [value])
          (front ++ middle ++ [value]) := by
        have here := interleaves.append
          ((Interleaves.nothingAdded middle).append (.nothingKept [value]))
        simpa using here
      have shifted : insertEach key ((front ++ middle ++ [value]) ++ rest)
          (front ++ middle ++ [value]).length values = some merged := by
        simpa [Nat.add_assoc] using inserted
      simpa using ih front' shifted

theorem insertIdx_sorted {values : List Value} {value : Value}
    (sorted : values.Pairwise fun first second => key first ≤ key second) :
    (values.insertIdx (values.findIdx fun other => key value < key other) value).Pairwise
      fun first second => key first ≤ key second := by
  induction values with
  | nil => simp
  | cons first values ih =>
    rw [List.pairwise_cons] at sorted
    by_cases larger : key value < key first
    · simp only [List.findIdx_cons, larger, decide_true, cond_true, List.insertIdx_zero,
        List.pairwise_cons, List.mem_cons, forall_eq_or_imp]
      exact ⟨⟨Nat.le_of_lt larger, fun other member =>
        Nat.le_trans (Nat.le_of_lt larger) (sorted.1 other member)⟩, sorted⟩
    · simp only [List.findIdx_cons, larger, decide_false, cond_false, List.insertIdx_succ_cons,
        List.pairwise_cons]
      refine ⟨fun other member => ?_, ih sorted.2⟩
      rcases List.eq_or_mem_of_mem_insertIdx member with rfl | old
      · exact Nat.le_of_not_lt larger
      · exact sorted.1 other old

theorem insertEach_sorted {values before merged : List Value} {afterPrevious : Nat}
    (sorted : before.Pairwise fun first second => key first ≤ key second)
    (inserted : insertEach key before afterPrevious values = some merged) :
    merged.Pairwise fun first second => key first ≤ key second := by
  induction values generalizing before afterPrevious with
  | nil =>
    cases inserted
    exact sorted
  | cons value values ih =>
    rw [insertEach] at inserted
    split at inserted
    · cases inserted
    · exact ih (insertIdx_sorted sorted) inserted

end GraphAgent
