import Mathlib.Data.List.Infix

/-!
# Rows that tile a file

An index over an append-only file holds one row for each record, with the
position at which the record starts and its length.  The rows tile a part of the
file when each starts where the one before it ends.  What a row locates depends
only on the file up to its end, so bytes after the last row never matter.
-/

namespace GraphAgent.FileTiling

variable {Symbol Row : Type*} {start middle stop : Nat} {rows more : List Row} {row : Row}

def slice (file : List Symbol) (start length : Nat) : List Symbol :=
  (file.drop start).take length

/-- The rows lie one after the other between two positions, and none is empty. -/
def Tiles (offset length : Row → Nat) (start : Nat) : List Row → Nat → Prop
  | [], stop => start = stop
  | row :: rows, stop =>
    offset row = start ∧ 0 < length row ∧ Tiles offset length (start + length row) rows stop

variable {offset length : Row → Nat}

namespace Tiles

theorem le (tiles : Tiles offset length start rows stop) : start ≤ stop := by
  induction rows generalizing start with
  | nil => exact le_of_eq tiles
  | cons first rows ih =>
    obtain ⟨-, -, rest⟩ := tiles
    have later := ih rest
    omega

theorem append (tiles : Tiles offset length start rows middle)
    (further : Tiles offset length middle more stop) :
    Tiles offset length start (rows ++ more) stop := by
  induction rows generalizing start with
  | nil =>
    cases tiles
    exact further
  | cons first rows ih =>
    obtain ⟨starts, nonempty, rest⟩ := tiles
    exact ⟨starts, nonempty, ih rest⟩

theorem bounds (tiles : Tiles offset length start rows stop) (member : row ∈ rows) :
    start ≤ offset row ∧ offset row + length row ≤ stop := by
  induction rows generalizing start with
  | nil => simp at member
  | cons first rows ih =>
    obtain ⟨starts, -, rest⟩ := tiles
    have later := rest.le
    rcases List.mem_cons.mp member with rfl | member
    · omega
    · have within := ih rest member
      omega

end Tiles

theorem slice_congr {file other : List Symbol} {start length : Nat}
    (agree : file.take stop = other.take stop) (within : start + length ≤ stop) :
    slice file start length = slice other start length := by
  have cut : ∀ file : List Symbol,
      slice file start length = slice (file.take stop) start length := by
    intro file
    unfold slice
    rw [List.drop_take, List.take_take, min_eq_left (by omega)]
  rw [cut file, cut other, agree]

theorem slice_append (file record rest : List Symbol) :
    slice (file ++ record ++ rest) file.length record.length = record := by
  simp [slice, List.append_assoc]

end GraphAgent.FileTiling
