import Testsmith.Json.Basic

/-!
# Run reports

The record of the steps that one operation has attempted. Steps are numbered by their place. A step is
open when it starts and is finished once, as completed or failed; finishing a finished step is
refused and changes nothing.
-/

namespace Testsmith

/-- Where a step stands. -/
inductive Status where
  | inProgress
  | completed
  | failed
  deriving DecidableEq, Repr, Inhabited

def Status.name : Status → String
  | .inProgress => "in_progress"
  | .completed => "completed"
  | .failed => "failed"

/-- A step of an operation. -/
structure Step where
  number : Int
  name : String
  status : Status := .inProgress
  message : String := ""
  result : Option Json := none
  error : Option String := none
  reason : Option String := none
  deriving Repr, Inhabited

def Step.isOpen (s : Step) : Bool := s.status = .inProgress

/-- The message about a step that is finished again. -/
def Step.finishedMessage (s : Step) : String :=
  s!"Step {s.number} ({s.name}) is already {s.status.name}"

def Step.complete (result : Option Json) (message : Option String) (s : Step) : Step :=
  { s with status := .completed, result, message := message.getD s.message }

def Step.fail (error : String) (reason : Option String) (result : Option Json) (s : Step) : Step :=
  { s with status := .failed, error, reason, result }

/-- The steps of one operation, in the order in which they started. -/
structure Report where
  steps : List Step := []
  deriving Repr, Inhabited

namespace Report

def length (r : Report) : Nat := r.steps.length

def last? (r : Report) : Option Step := r.steps.getLast?

def start (r : Report) (name : String) (message : String := "") : Report :=
  ⟨r.steps ++ [{ number := r.steps.length + 1, name, message }]⟩

/-- Finishes the step at a place: the step itself where it is already finished. A place where there
is no step is left alone. -/
def finish (r : Report) (i : Nat) (how : Step → Step) : Except Step Report :=
  match r.steps[i]? with
  | none => .ok r
  | some s => if s.isOpen then .ok ⟨r.steps.set i (how s)⟩ else .error s

def complete (r : Report) (i : Nat) (result : Option Json := none)
    (message : Option String := none) : Except Step Report :=
  r.finish i (Step.complete result message)

def fail (r : Report) (i : Nat) (error : String) (reason : Option String := none)
    (result : Option Json := none) : Except Step Report :=
  r.finish i (Step.fail error reason result)

section Finish

variable {r : Report} {i : Nat} {step : Step} (how : Step → Step)

theorem finish_of_open (hi : r.steps[i]? = some step) (hopen : step.isOpen = true) :
    r.finish i how = .ok ⟨r.steps.set i (how step)⟩ := by
  unfold finish
  rw [hi]
  exact if_pos hopen

theorem finish_of_finished (hi : r.steps[i]? = some step) (hfinished : step.isOpen = false) :
    r.finish i how = .error step := by
  unfold finish
  rw [hi]
  exact if_neg (by simp [hfinished])

theorem finish_of_absent (hi : r.steps[i]? = none) : r.finish i how = .ok r := by
  unfold finish
  rw [hi]

end Finish

@[simp] theorem length_start (r : Report) (name message : String) :
    (r.start name message).length = r.length + 1 := by
  simp [length, start]

/-- Starting a step changes none of the steps before. -/
theorem steps_start_of_lt (r : Report) (name message : String) {i : Nat} (h : i < r.length) :
    (r.start name message).steps[i]? = r.steps[i]? := by
  simp only [start]
  exact List.getElem?_append_left h

theorem length_finish {r s : Report} {i : Nat} {how : Step → Step} (h : r.finish i how = .ok s) :
    s.length = r.length := by
  unfold finish at h
  split at h
  · cases h; rfl
  · split at h
    · cases h; simp [length]
    · cases h

theorem steps_finish_of_ne {r s : Report} {i j : Nat} {how : Step → Step}
    (h : r.finish i how = .ok s) (hij : i ≠ j) : s.steps[j]? = r.steps[j]? := by
  unfold finish at h
  split at h
  · cases h; rfl
  · split at h
    · cases h; simp [hij]
    · cases h

/-- A step is refused only where it is finished already. -/
theorem isOpen_eq_false_of_finish {r : Report} {i : Nat} {how : Step → Step} {s : Step}
    (h : r.finish i how = .error s) : r.steps[i]? = some s ∧ s.isOpen = false := by
  unfold finish at h
  split at h
  · cases h
  · next hs =>
    split at h
    · cases h
    · next ho =>
      cases h
      exact ⟨hs, by simpa using ho⟩

/-- The reason of a step that an unexpected failure cut short. -/
def unexpected : String := "unexpected_error"

/-- Fails the last step where it is still open. -/
def failOpen (r : Report) (error : String) : Report :=
  match r.last? with
  | some s =>
    if s.isOpen then ⟨r.steps.dropLast ++ [s.fail error (some unexpected) none]⟩ else r
  | none => r

def succeeded (r : Report) : Bool :=
  !r.steps.isEmpty && r.steps.all (·.status = .completed)

end Report

end Testsmith
