import Caseflow.Failure
/-! Computations that change a state and may fail. A failure keeps the changes made before it: there
is no undoing, only a cause and the state at that point. -/
namespace Caseflow

/-- A computation over a state. -/
def Run (σ α : Type) : Type :=
  σ → Except Failure α × σ

namespace Run

variable {σ τ α β : Type}

/-- Answers without touching the state. -/
def done (value : α) : Run σ α :=
  fun state => (.ok value, state)

/-- Goes on with the answer, unless the first part fails. -/
def andThen (first : Run σ α) (next : α → Run σ β) : Run σ β := fun state =>
  match first state with
  | (.ok value, after) => next value after
  | (.error failure, after) => (.error failure, after)

def fail (failure : Failure) : Run σ α :=
  fun state => (.error failure, state)

instance : Monad (Run σ) where
  pure := done
  bind := andThen

/-- The state. -/
def read : Run σ σ :=
  fun state => (.ok state, state)

/-- Changes the state. -/
def change (update : σ → σ) : Run σ Unit :=
  fun state => (.ok (), update state)

/-- Fails or answers as the result does, without touching the state. -/
def ofExcept (result : Except Failure α) : Run σ α :=
  fun state => (result, state)

/-- The value, or the failure where there is none. -/
def ofOption (failure : Failure) : Option α → Run σ α
  | some value => done value
  | none => fail failure

/-- Answers `fallback` where the computation fails. -/
def orElse (fallback : α) (computation : Run σ α) : Run σ α := fun state =>
  match computation state with
  | (.ok value, after) => (.ok value, after)
  | (.error _, after) => (.ok fallback, after)

/-- Runs on a part of a larger state. -/
def within (part : τ → σ) (replace : τ → σ → τ) (computation : Run σ α) : Run τ α := fun state =>
  let (result, after) := computation (part state)
  (result, replace state after)

/-- Runs one computation after another. -/
def each (perform : α → Run σ Unit) : List α → Run σ Unit
  | [] => done ()
  | item :: rest => andThen (perform item) fun _ => each perform rest

@[simp] theorem pure_eq (value : α) : (pure value : Run σ α) = done value := rfl

@[simp] theorem bind_eq (first : Run σ α) (next : α → Run σ β) :
    (first >>= next) = andThen first next := rfl

theorem andThen_ok {first : Run σ α} {next : α → Run σ β} {state after : σ} {value : α}
    (answered : first state = (.ok value, after)) :
    andThen first next state = next value after := by
  simp [andThen, answered]

theorem andThen_error {first : Run σ α} {next : α → Run σ β} {state after : σ} {failure : Failure}
    (failed : first state = (.error failure, after)) :
    andThen first next state = (.error failure, after) := by
  simp [andThen, failed]

/-- Another answer does not change how a computation ends. -/
theorem andThen_done (first : Run σ α) (value : β) (state : σ) :
    andThen first (fun _ => done value) state =
      ((first state).1.map fun _ => value, (first state).2) := by
  unfold andThen
  split
  · rename_i reached
    rw [reached]
    rfl
  · rename_i reached
    rw [reached]
    rfl

/-- What answers as a whole answers in its first part. -/
theorem of_andThen_ok {first : Run σ α} {next : α → Run σ β} {state after : σ} {value : β}
    (answered : andThen first next state = (.ok value, after)) :
    ∃ answer middle, first state = (.ok answer, middle) ∧
      next answer middle = (.ok value, after) := by
  cases reached : first state with
  | mk result middle =>
    cases result with
    | error failure =>
      rw [andThen_error reached] at answered
      cases answered
    | ok answer =>
      rw [andThen_ok reached] at answered
      exact ⟨answer, middle, rfl, answered⟩

/-- What fails as a whole fails in its first part, or after it. -/
theorem of_andThen_error {first : Run σ α} {next : α → Run σ β}
    {state after : σ} {failure : Failure} (failed : andThen first next state = (.error failure, after)) :
    first state = (.error failure, after) ∨
      ∃ answer middle, first state = (.ok answer, middle) ∧
        next answer middle = (.error failure, after) := by
  cases reached : first state with
  | mk result middle =>
    cases result with
    | error cause =>
      rw [andThen_error reached] at failed
      cases failed
      exact .inl rfl
    | ok answer =>
      rw [andThen_ok reached] at failed
      exact .inr ⟨answer, middle, rfl, failed⟩

end Run

end Caseflow
