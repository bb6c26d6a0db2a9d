import Mathlib.Data.List.ReduceOption

/-!
# Lazily compacted queues

A queue kept in one array: consuming an element vacates its slot and advances a
start index, and the vacated slots are dropped later in one batch.  The
structure records that exactly the slots before the start index are vacant, so
every operation can be read on the list of live elements.
-/

namespace GraphAgent

/-- An array of slots whose first `startIndex` slots are vacant. -/
structure LazyQueue (α : Type*) where
  slots : List (Option α)
  startIndex : Nat
  shape : ∃ live : List α, slots = List.replicate startIndex none ++ live.map some

namespace LazyQueue

variable {α : Type*}

/-- The live elements, oldest first. -/
def toList (queue : LazyQueue α) : List α :=
  (queue.slots.drop queue.startIndex).reduceOption

def empty : LazyQueue α where
  slots := []
  startIndex := 0
  shape := ⟨[], rfl⟩

def singleton (element : α) : LazyQueue α where
  slots := [some element]
  startIndex := 0
  shape := ⟨[element], rfl⟩

def head? (queue : LazyQueue α) : Option α :=
  (queue.slots[queue.startIndex]?).join

/-- The live elements from position `offset` on, read from the array. -/
def listFrom (queue : LazyQueue α) (offset : Nat) : List α :=
  (queue.slots.drop (queue.startIndex + offset)).reduceOption

private theorem reduceOption_map_some (live : List α) :
    (live.map some).reduceOption = live := by
  induction live with
  | nil => rfl
  | cons element live ih => simp [ih]

theorem slots_eq (queue : LazyQueue α) :
    queue.slots = List.replicate queue.startIndex none ++ queue.toList.map some := by
  obtain ⟨live, shape⟩ := queue.shape
  have liveEq : queue.toList = live := by
    rw [toList, shape, List.drop_left' (by simp), reduceOption_map_some]
  rw [liveEq]
  exact shape

theorem length_slots (queue : LazyQueue α) :
    queue.slots.length = queue.startIndex + queue.toList.length := by
  rw [queue.slots_eq]
  simp

theorem toList_eq_of_slots {queue : LazyQueue α} {live : List α}
    (slots : queue.slots = List.replicate queue.startIndex none ++ live.map some) :
    queue.toList = live := by
  rw [toList, slots, List.drop_left' (by simp), reduceOption_map_some]

private theorem push_slots (queue : LazyQueue α) (element : α) :
    queue.slots ++ [some element] =
      List.replicate queue.startIndex none ++ (queue.toList ++ [element]).map some := by
  rw [queue.slots_eq]
  simp

def push (queue : LazyQueue α) (element : α) : LazyQueue α where
  slots := queue.slots ++ [some element]
  startIndex := queue.startIndex
  shape := ⟨_, queue.push_slots element⟩

private theorem vacateFront_slots (queue : LazyQueue α) :
    (if queue.startIndex < queue.slots.length then queue.slots.set queue.startIndex none
      else queue.slots ++ [none]) =
      List.replicate (queue.startIndex + 1) none ++ queue.toList.tail.map some := by
  have lengthEq := queue.length_slots
  have slotsEq := queue.slots_eq
  cases live : queue.toList with
  | nil =>
    rw [live] at slotsEq lengthEq
    rw [if_neg (by simp [lengthEq]), slotsEq]
    simp [List.replicate_succ']
  | cons element rest =>
    rw [live] at slotsEq lengthEq
    rw [if_pos (by simp [lengthEq]), slotsEq]
    simp [List.replicate_succ']

def vacateFront (queue : LazyQueue α) : LazyQueue α where
  slots :=
    if queue.startIndex < queue.slots.length then queue.slots.set queue.startIndex none
    else queue.slots ++ [none]
  startIndex := queue.startIndex + 1
  shape := ⟨_, queue.vacateFront_slots⟩

private theorem compact_slots (queue : LazyQueue α) :
    queue.slots.drop queue.startIndex =
      List.replicate 0 none ++ queue.toList.map some := by
  rw [queue.slots_eq, List.drop_left' (by simp)]
  simp

def compact (queue : LazyQueue α) : LazyQueue α where
  slots := queue.slots.drop queue.startIndex
  startIndex := 0
  shape := ⟨_, queue.compact_slots⟩

@[simp]
theorem toList_empty : (empty : LazyQueue α).toList = [] := rfl

@[simp]
theorem toList_singleton (element : α) : (singleton element).toList = [element] := rfl

@[simp]
theorem toList_push (queue : LazyQueue α) (element : α) :
    (queue.push element).toList = queue.toList ++ [element] :=
  toList_eq_of_slots (queue.push_slots element)

@[simp]
theorem toList_compact (queue : LazyQueue α) : queue.compact.toList = queue.toList :=
  toList_eq_of_slots queue.compact_slots

@[simp]
theorem toList_vacateFront (queue : LazyQueue α) :
    queue.vacateFront.toList = queue.toList.tail :=
  toList_eq_of_slots queue.vacateFront_slots

theorem head?_eq (queue : LazyQueue α) : queue.head? = queue.toList.head? := by
  rw [head?, queue.slots_eq, List.getElem?_append_right (by simp)]
  cases queue.toList <;> simp

theorem listFrom_eq (queue : LazyQueue α) (offset : Nat) :
    queue.listFrom offset = queue.toList.drop offset := by
  rw [listFrom, queue.slots_eq, ← List.drop_drop, List.drop_left' (by simp), ← List.map_drop,
    reduceOption_map_some]

theorem toList_ite_compact (queue : LazyQueue α) (half : Prop) [Decidable half] :
    (if half then queue.compact else queue).toList = queue.toList := by
  split
  · exact queue.toList_compact
  · rfl

end LazyQueue

end GraphAgent
