import Mathlib.Logic.Basic

/-!
# Programs whose commits survive a raise

A program over a state runs a sequence of transactions.  Each of them commits or
is rolled back by itself, so a program that raises halfway leaves behind what it
had committed.  The rules below carry an assertion from one transaction to the
next and give back what holds at either exit.
-/

namespace GraphAgent

def Durable (Error State Value : Type) : Type :=
  State → Except Error Value × State

namespace Durable

variable {Error State Part Value Result : Type}

instance : Monad (Durable Error State) where
  pure value := fun state => (.ok value, state)
  bind program rest := fun state =>
    match program state with
    | (.ok value, next) => rest value next
    | (.error error, next) => (.error error, next)

/-- Raise, keeping every commit made so far. -/
def raise (error : Error) : Durable Error State Value :=
  fun state => (.error error, state)

def read (view : State → Value) : Durable Error State Value :=
  fun state => (.ok (view state), state)

/-- A read that may raise. -/
def check (view : State → Except Error Value) : Durable Error State Value :=
  fun state => (view state, state)

/-- One transaction: it commits, or raises and is rolled back. -/
def transact (call : State → Except Error (Value × State)) : Durable Error State Value :=
  fun state =>
    match call state with
    | .ok (value, next) => (.ok value, next)
    | .error error => (.error error, state)

def onPart (view : State → Part) (write : Part → State → State)
    (program : Durable Error Part Value) : Durable Error State Value :=
  fun state => ((program (view state)).1, write (program (view state)).2 state)

section Evaluation

variable {program : Durable Error State Value} {rest : Value → Durable Error State Result}
  {state next : State} {value : Value} {error : Error}

@[simp]
theorem read_run (view : State → Value) :
    (read view : Durable Error State Value) state = (.ok (view state), state) :=
  rfl

@[simp]
theorem check_run (view : State → Except Error Value) :
    (check view : Durable Error State Value) state = (view state, state) :=
  rfl

theorem bind_run_ok (returned : program state = (.ok value, next)) :
    (program >>= rest) state = rest value next := by
  change (match program state with
    | (.ok value, next) => rest value next
    | (.error error, next) => (.error error, next)) = rest value next
  rw [returned]

theorem bind_run_error (raised : program state = (.error error, next)) :
    (program >>= rest) state = (.error error, next) := by
  change (match program state with
    | (.ok value, next) => rest value next
    | (.error error, next) => (.error error, next)) = (.error error, next)
  rw [raised]

theorem transact_run_ok {call : State → Except Error (Value × State)}
    (committed : call state = .ok (value, next)) :
    transact call state = (.ok value, next) := by
  unfold transact
  rw [committed]

theorem transact_run_error {call : State → Except Error (Value × State)}
    (refused : call state = .error error) : transact call state = (.error error, state) := by
  unfold transact
  rw [refused]

theorem bind_returned {result : Result} {last : State}
    (returned : (program >>= rest) state = (.ok result, last)) :
    ∃ value next, program state = (.ok value, next) ∧ rest value next = (.ok result, last) := by
  cases outcome : program state with
  | mk answer next =>
    cases answer with
    | ok value =>
      rw [bind_run_ok outcome] at returned
      exact ⟨value, next, rfl, returned⟩
    | error error =>
      rw [bind_run_error outcome] at returned
      cases returned

theorem transact_returned {call : State → Except Error (Value × State)}
    (returned : transact call state = (.ok value, next)) : call state = .ok (value, next) := by
  unfold transact at returned
  split at returned
  · rename_i answer later committed
    cases returned
    exact committed
  · cases returned

end Evaluation

/-- From `before` the program returns with `after`, or raises with `raised`. -/
structure Meets (before : State → Prop) (program : Durable Error State Value)
    (after : Value → State → Prop) (raised : State → Prop) : Prop where
  returns : ∀ state, before state →
    ∀ value next, program state = (.ok value, next) → after value next
  raises : ∀ state, before state →
    ∀ error next, program state = (.error error, next) → raised next

def Keeps (invariant : State → Prop) (program : Durable Error State Value) : Prop :=
  Meets invariant program (fun _ => invariant) invariant

namespace Meets

variable {before earlier : State → Prop} {program : Durable Error State Value}
  {after later : Value → State → Prop} {raised failed : State → Prop}

theorem pure {value : Value} (holds : ∀ state, before state → after value state) :
    Meets before (Pure.pure value : Durable Error State Value) after raised where
  returns := by
    rintro state start _ _ ⟨⟩
    exact holds state start
  raises := by
    rintro state start _ _ ⟨⟩

theorem raise {error : Error} (holds : ∀ state, before state → raised state) :
    Meets before (Durable.raise error : Durable Error State Value) after raised where
  returns := by
    rintro state start _ _ ⟨⟩
  raises := by
    rintro state start _ _ ⟨⟩
    exact holds state start

theorem read {view : State → Value}
    (holds : ∀ state, before state → after (view state) state) :
    Meets before (Durable.read view : Durable Error State Value) after raised where
  returns := by
    rintro state start _ _ ⟨⟩
    exact holds state start
  raises := by
    rintro state start _ _ ⟨⟩

theorem check {view : State → Except Error Value}
    (holds : ∀ state, before state → ∀ value, view state = .ok value → after value state)
    (refused : ∀ state, before state → raised state) :
    Meets before (Durable.check view) after raised where
  returns := by
    intro state start value next returned
    obtain ⟨viewed, rfl⟩ := Prod.mk.inj returned
    exact holds state start value viewed
  raises := by
    intro state start error next returned
    obtain ⟨-, rfl⟩ := Prod.mk.inj returned
    exact refused state start

theorem transact {call : State → Except Error (Value × State)}
    (holds : ∀ state, before state → ∀ value next, call state = .ok (value, next) →
      after value next)
    (refused : ∀ state, before state → raised state) :
    Meets before (Durable.transact call) after raised where
  returns := by
    intro state start value next returned
    cases outcome : call state with
    | ok result =>
      rw [transact_run_ok (show call state = .ok (result.1, result.2) from outcome)] at returned
      cases returned
      exact holds state start _ _ outcome
    | error error =>
      rw [transact_run_error outcome] at returned
      cases returned
  raises := by
    intro state start error next returned
    cases outcome : call state with
    | ok result =>
      rw [transact_run_ok (show call state = .ok (result.1, result.2) from outcome)] at returned
      cases returned
    | error error =>
      rw [transact_run_error outcome] at returned
      cases returned
      exact refused state start

theorem bind {rest : Value → Durable Error State Result} {final : Result → State → Prop}
    (first : Meets before program after raised)
    (remaining : ∀ value, Meets (after value) (rest value) final raised) :
    Meets before (program >>= rest) final raised where
  returns := by
    intro state start result last returned
    cases outcome : program state with
    | mk answer next =>
      cases answer with
      | ok value =>
        rw [bind_run_ok outcome] at returned
        exact (remaining value).returns next (first.returns state start value next outcome)
          result last returned
      | error error =>
        rw [bind_run_error outcome] at returned
        cases returned
  raises := by
    intro state start error last returned
    cases outcome : program state with
    | mk answer next =>
      cases answer with
      | ok value =>
        rw [bind_run_ok outcome] at returned
        exact (remaining value).raises next (first.returns state start value next outcome)
          error last returned
      | error earlierError =>
        rw [bind_run_error outcome] at returned
        cases returned
        exact first.raises state start _ _ outcome

theorem weaken (met : Meets before program after raised)
    (stronger : ∀ state, earlier state → before state)
    (weaker : ∀ value state, after value state → later value state)
    (weakerRaise : ∀ state, raised state → failed state) :
    Meets earlier program later failed where
  returns := fun state start value next returned =>
    weaker value next (met.returns state (stronger state start) value next returned)
  raises := fun state start error next returned =>
    weakerRaise next (met.raises state (stronger state start) error next returned)

theorem ends (met : Meets before program after raised) {state : State} (start : before state) :
    (∃ value, after value (program state).2) ∨ raised (program state).2 := by
  cases outcome : program state with
  | mk answer next =>
    cases answer with
    | ok value => exact .inl ⟨value, met.returns state start value next outcome⟩
    | error error => exact .inr (met.raises state start error next outcome)

end Meets

theorem Keeps.ends {invariant : State → Prop} {program : Durable Error State Value}
    (kept : Keeps invariant program) {state : State} (start : invariant state) :
    invariant (program state).2 := by
  rcases Meets.ends kept start with ⟨-, held⟩ | held
  · exact held
  · exact held

end Durable

end GraphAgent
