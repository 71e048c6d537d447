import Mathlib.Data.List.Induction
import Testsmith.Proofs.Frames

/-!
# The life cycle of a report

Callers start steps of a report, and complete or fail the steps that they were given, in any order and
also twice. Such a call is a `Report.Move`. It makes one step more, or finishes one open step, or is
refused and changes nothing (`Report.Move.perform_of_start` and the lemmas behind it). So from one moment
to a later one a step stays as it is, or it was open and has been finished (`Step.Progress`), which is
transitive because a finished step is not open. `report_life_cycle` is the main statement.
-/

namespace Testsmith

variable {σ : Type}

/-! ## Steps in time -/

/-- A step and what it is later: the same, or it was open and has been finished. -/
inductive Step.Progress : Step → Step → Prop
  | same (step : Step) : Progress step step
  | completed {step : Step} (isOpen : step.isOpen = true) (result : Option Json)
      (message : Option String) : Progress step (step.complete result message)
  | failed {step : Step} (isOpen : step.isOpen = true) (error : String) (reason : Option String)
      (result : Option Json) : Progress step (step.fail error reason result)

namespace Step.Progress

variable {a b c : Step}

/-- A finished step stays as it is. -/
theorem eq_of_finished (h : a.Progress b) (ha : a.isOpen = false) : b = a := by
  cases h with
  | same => rfl
  | completed isOpen | failed isOpen => rw [ha] at isOpen; cases isOpen

theorem trans (hab : a.Progress b) (hbc : b.Progress c) : a.Progress c := by
  cases hab with
  | same => exact hbc
  | completed isOpen result message =>
    rw [hbc.eq_of_finished rfl]
    exact .completed isOpen result message
  | failed isOpen error reason result =>
    rw [hbc.eq_of_finished rfl]
    exact .failed isOpen error reason result

/-- A step that has changed was open, and is completed or failed. -/
theorem status_cases (h : a.Progress b) :
    b = a ∨ (a.isOpen = true ∧ b.isOpen = false ∧ (b.status = .completed ∨ b.status = .failed)) := by
  cases h with
  | same => exact .inl rfl
  | completed isOpen => exact .inr ⟨isOpen, rfl, .inl rfl⟩
  | failed isOpen => exact .inr ⟨isOpen, rfl, .inr rfl⟩

theorem number_eq (h : a.Progress b) : b.number = a.number := by cases h <;> rfl

theorem name_eq (h : a.Progress b) : b.name = a.name := by cases h <;> rfl

end Step.Progress

/-! ## Moves -/

/-- What callers do to a report: they start a step, or complete or fail the one at a place. -/
inductive Report.Move where
  | start (name message : String)
  | complete (place : Nat) (result : Option Json) (message : Option String)
  | fail (place : Nat) (error : String) (reason : Option String) (result : Option Json)

namespace Report.Move

/-- The name of the step that a move starts. -/
def started? : Move → Option String
  | .start name _ => some name
  | _ => none

/-- The place of the step that a move finishes, and what the move makes of it. -/
def finishes? : Move → Option (Nat × (Step → Step))
  | .start .. => none
  | .complete place result message => some (place, Step.complete result message)
  | .fail place error reason result => some (place, Step.fail error reason result)

/-- Where a step stands that a move has finished. -/
def status? : Move → Option Status
  | .start .. => none
  | .complete .. => some .completed
  | .fail .. => some .failed

/-- Makes a move, and gives the place of its step. -/
def perform : Move → Action σ Nat
  | .start name message => Action.startStep name message
  | .complete place result message => do
    Action.finishStep (·.complete place result message)
    return place
  | .fail place error reason result => do
    Action.finishStep (·.fail place error reason result)
    return place

section Perform

variable {move : Move} {s : Session σ} {place : Nat} {how : Step → Step} {step : Step}

theorem perform_of_start (name message : String) (s : Session σ) :
    (Move.start name message).perform s =
      .ok s.report.length { s with report := s.report.start name message } := rfl

theorem started?_of_finishes? (h : move.finishes? = some (place, how)) : move.started? = none := by
  cases move with
  | start => cases h
  | complete | fail => rfl

theorem progress_of_finishes? (h : move.finishes? = some (place, how)) (hopen : step.isOpen = true) :
    step.Progress (how step) := by
  cases move with
  | start => cases h
  | complete => cases h; exact .completed hopen _ _
  | fail => cases h; exact .failed hopen _ _ _

/-- A step that a move finishes is completed or failed, as the move says, and open no longer. -/
theorem status_of_finishes? (h : move.finishes? = some (place, how)) (step : Step) :
    move.status? = some (how step).status ∧ (how step).isOpen = false := by
  cases move with
  | start => cases h
  | complete | fail => cases h; exact ⟨rfl, rfl⟩

theorem perform_eq (h : move.finishes? = some (place, how)) : (move.perform : Action σ Nat) =
    (do Action.finishStep (·.finish place how); return place) := by
  cases move with
  | start => cases h
  | complete | fail => cases h; rfl

theorem perform_of_open (h : move.finishes? = some (place, how))
    (hstep : s.report.steps[place]? = some step) (hopen : step.isOpen = true) : move.perform s =
      .ok place { s with report := ⟨s.report.steps.set place (how step)⟩ } := by
  rw [perform_eq h,
    Action.bind_of_ok (Action.finishStep_of_ok (Report.finish_of_open how hstep hopen))]
  rfl

theorem perform_of_finished (h : move.finishes? = some (place, how))
    (hstep : s.report.steps[place]? = some step) (hfinished : step.isOpen = false) :
    move.perform s = .error (.stepFinished step.finishedMessage) s := by
  rw [perform_eq h,
    Action.bind_of_error (Action.finishStep_of_error (Report.finish_of_finished how hstep hfinished))]

theorem perform_of_absent (h : move.finishes? = some (place, how))
    (hstep : s.report.steps[place]? = none) : move.perform s = .ok place s := by
  rw [perform_eq h,
    Action.bind_of_ok (Action.finishStep_of_ok (Report.finish_of_absent how hstep))]
  rfl

end Perform

/-- What a move makes of the steps of a report: one more, one of them finished, or nothing. -/
inductive Effect (move : Move) (steps : List Step) : List Step → Prop
  | started {name message : String} (h : move = .start name message) :
      Effect move steps (steps ++ [{ number := steps.length + 1, name, message }])
  | finished {place : Nat} {how : Step → Step} {step : Step}
      (h : move.finishes? = some (place, how)) (at_place : steps[place]? = some step)
      (isOpen : step.isOpen = true) : Effect move steps (steps.set place (how step))
  | nothing (h : move.started? = none) : Effect move steps steps

/-- Every move has one of these effects, also one that is refused. -/
theorem effect (move : Move) (s : Session σ) :
    move.Effect s.report.steps (move.perform.leaves s).report.steps := by
  cases hmove : move.finishes? with
  | none =>
    cases move with
    | start name message =>
      rw [Action.leaves_of_ok (perform_of_start name message s)]
      exact .started rfl
    | complete | fail => cases hmove
  | some finish =>
    obtain ⟨place, how⟩ := finish
    cases hstep : s.report.steps[place]? with
    | none =>
      rw [Action.leaves_of_ok (perform_of_absent hmove hstep)]
      exact .nothing (started?_of_finishes? hmove)
    | some step =>
      cases hopen : step.isOpen with
      | true =>
        rw [Action.leaves_of_ok (perform_of_open hmove hstep hopen)]
        exact .finished hmove hstep hopen
      | false =>
        rw [Action.leaves_of_error (perform_of_finished hmove hstep hopen)]
        exact .nothing (started?_of_finishes? hmove)

end Report.Move

/-! ## One move -/

namespace Report.Move.Effect

variable {move : Move} {steps later : List Step} {i : Nat} {step : Step}

/-- A move removes no step, and changes one in no other way than by finishing it. -/
theorem progress (h : move.Effect steps later) (hi : steps[i]? = some step) :
    ∃ next, later[i]? = some next ∧ step.Progress next := by
  cases h with
  | started =>
    have hlt := (List.getElem?_eq_some_iff.1 hi).1
    exact ⟨step, by rw [List.getElem?_append_left hlt, hi], .same step⟩
  | nothing => exact ⟨step, hi, .same step⟩
  | @finished place how old hmove hplace hopen =>
    by_cases hsame : place = i
    · subst hsame
      rw [hplace] at hi
      cases hi
      have hlt := (List.getElem?_eq_some_iff.1 hplace).1
      exact ⟨how step, List.getElem?_set_self hlt, progress_of_finishes? hmove hopen⟩
    · exact ⟨step, by rw [List.getElem?_set_ne hsame, hi], .same step⟩

/-- A step after a move was there before, or has just been started. -/
theorem exists_before (h : move.Effect steps later) {next : Step} (hi : later[i]? = some next) :
    (∃ step, steps[i]? = some step ∧ step.Progress next) ∨
      (i = steps.length ∧ ∃ name message,
        next = { number := steps.length + 1, name, message }) := by
  cases hstep : steps[i]? with
  | some step =>
    obtain ⟨found, hfound, hprogress⟩ := h.progress hstep
    rw [hi] at hfound
    cases hfound
    exact .inl ⟨step, rfl, hprogress⟩
  | none =>
    have hle := List.getElem?_eq_none_iff.1 hstep
    cases h with
    | @started name message =>
      have hlt := (List.getElem?_eq_some_iff.1 hi).1
      have heq : i = steps.length := by
        rw [List.length_append, List.length_singleton] at hlt
        omega
      subst heq
      rw [List.getElem?_concat_length] at hi
      exact .inr ⟨rfl, name, message, (Option.some.inj hi).symm⟩
    | nothing => rw [hstep] at hi; cases hi
    | finished => rw [List.getElem?_eq_none (by rwa [List.length_set])] at hi; cases hi

theorem names_eq (h : move.Effect steps later) :
    later.map (·.name) = steps.map (·.name) ++ move.started?.toList := by
  cases h with
  | started hmove => rw [hmove, List.map_append]; rfl
  | nothing hmove => rw [hmove]; exact (List.append_nil _).symm
  | @finished place how step hmove hplace hopen =>
    have hname := (progress_of_finishes? hmove hopen).name_eq
    obtain ⟨hlt, rfl⟩ := List.getElem?_eq_some_iff.1 hplace
    have hset : (steps.set place (how steps[place])).map (·.name) =
        (steps.set place steps[place]).map (·.name) := by
      simp only [List.map_set, hname]
    rw [started?_of_finishes? hmove, hset, List.set_getElem_self]
    exact (List.append_nil _).symm

/-- A step that a move completes was open, and the move is the one that completes its place. -/
theorem completes (h : move.Effect steps later) (hi : steps[i]? = some step) {next : Step}
    (hnext : later[i]? = some next) (hbefore : step.status ≠ .completed)
    (hafter : next.status = .completed) :
    step.isOpen = true ∧ ∃ result message, move = .complete i result message := by
  cases h with
  | started =>
    have hlt := (List.getElem?_eq_some_iff.1 hi).1
    rw [List.getElem?_append_left hlt, hi] at hnext
    cases hnext
    exact absurd hafter hbefore
  | nothing =>
    rw [hi] at hnext
    cases hnext
    exact absurd hafter hbefore
  | @finished place how old hmove hplace hopen =>
    by_cases hsame : place = i
    · subst hsame
      have hlt := (List.getElem?_eq_some_iff.1 hplace).1
      rw [List.getElem?_set_self hlt] at hnext
      cases hnext
      rw [hplace] at hi
      cases hi
      cases move with
      | start => cases hmove
      | complete place result message => cases hmove; exact ⟨hopen, result, message, rfl⟩
      | fail => cases hmove; cases hafter
    · rw [List.getElem?_set_ne hsame, hi] at hnext
      cases hnext
      exact absurd hafter hbefore

end Report.Move.Effect

/-! ## All moves -/

namespace Session

/-- The session after a new report has gone through some moves, also where some were refused. -/
def reporting (s : Session σ) (moves : List Report.Move) : Session σ :=
  moves.foldl (fun s move => move.perform.leaves s) { s with report := {} }

variable {s : Session σ} {moves : List Report.Move} {i : Nat} {step : Step}

theorem reporting_concat (s : Session σ) (moves : List Report.Move) (move : Report.Move) :
    s.reporting (moves ++ [move]) = move.perform.leaves (s.reporting moves) :=
  List.foldl_append

/-- What one move more makes of the steps. -/
theorem reporting_effect (s : Session σ) (moves : List Report.Move) (move : Report.Move) :
    move.Effect (s.reporting moves).report.steps (s.reporting (moves ++ [move])).report.steps := by
  rw [reporting_concat]
  exact move.effect _

theorem reporting_progress (hi : (s.reporting moves).report.steps[i]? = some step)
    (more : List Report.Move) : ∃ later,
      (s.reporting (moves ++ more)).report.steps[i]? = some later ∧ step.Progress later := by
  induction more using List.reverseRecOn with
  | nil => exact ⟨step, by rwa [List.append_nil], .same step⟩
  | append_singleton more move ih =>
    obtain ⟨middle, hmiddle, hfirst⟩ := ih
    rw [← List.append_assoc]
    obtain ⟨later, hlater, hsecond⟩ := (reporting_effect s (moves ++ more) move).progress hmiddle
    exact ⟨later, hlater, hfirst.trans hsecond⟩

theorem reporting_numbered (hi : (s.reporting moves).report.steps[i]? = some step) :
    step.number = i + 1 := by
  induction moves using List.reverseRecOn generalizing step with
  | nil => cases hi
  | append_singleton moves move ih =>
    rcases (reporting_effect s moves move).exists_before hi with
      ⟨before, hbefore, hprogress⟩ | ⟨rfl, name, message, rfl⟩
    · rw [hprogress.number_eq, ih hbefore]
    · rfl

theorem reporting_names (s : Session σ) (moves : List Report.Move) :
    (s.reporting moves).report.steps.map (·.name) = moves.filterMap Report.Move.started? := by
  induction moves using List.reverseRecOn with
  | nil => rfl
  | append_singleton moves move ih =>
    rw [(reporting_effect s moves move).names_eq, ih, List.filterMap_append]
    cases hmove : move.started? <;> simp [hmove]

/-- A move has completed the step at a place, which was open at that moment. -/
def HasCompleted (s : Session σ) (moves : List Report.Move) (i : Nat) : Prop :=
  ∃ before result message after step, moves = before ++ .complete i result message :: after ∧
    (s.reporting before).report.steps[i]? = some step ∧ step.isOpen = true

/-- A step is completed where a move has completed it while it was open. -/
theorem completed_iff (hi : (s.reporting moves).report.steps[i]? = some step) :
    step.status = .completed ↔ s.HasCompleted moves i := by
  constructor
  · intro hstatus
    induction moves using List.reverseRecOn generalizing step with
    | nil => cases hi
    | append_singleton moves move ih =>
      have heffect := reporting_effect s moves move
      rcases heffect.exists_before hi with ⟨before, hbefore, -⟩ | ⟨-, _, _, rfl⟩
      · by_cases hcompleted : before.status = .completed
        · obtain ⟨front, result, message, after, old, rfl, hold, hopen⟩ := ih hbefore hcompleted
          refine ⟨front, result, message, after ++ [move], old, ?_, hold, hopen⟩
          rw [List.append_assoc, List.cons_append]
        · obtain ⟨hopen, result, message, rfl⟩ := heffect.completes hbefore hi hcompleted hstatus
          exact ⟨moves, result, message, [], before, rfl, hbefore, hopen⟩
      · cases hstatus
  · rintro ⟨before, result, message, after, old, rfl, hold, hopen⟩
    have hdone : (s.reporting (before ++ [.complete i result message])).report.steps[i]? =
        some (old.complete result message) := by
      rw [reporting_concat, Action.leaves_of_ok (Report.Move.perform_of_open rfl hold hopen)]
      exact List.getElem?_set_self (List.getElem?_eq_some_iff.1 hold).1
    -- From then on the step is finished, so it stays as it is.
    obtain ⟨later, hlater, hprogress⟩ := reporting_progress hdone after
    rw [List.append_assoc] at hlater
    rw [show step = later from Option.some.inj (hi.symm.trans hlater),
      hprogress.eq_of_finished rfl]
    rfl

end Session

/-- What holds of a report that was new and has gone through some moves: how its steps stand, what
becomes of them with more moves, and what the next move does. -/
structure Report.LifeCycle (s : Session σ) (moves : List Move) : Prop where
  numbered : ∀ (i : Nat) (step : Step),
    (s.reporting moves).report.steps[i]? = some step → step.number = i + 1
  in_order : (s.reporting moves).report.steps.map (·.name) = moves.filterMap Move.started?
  progress : ∀ (more : List Move) (i : Nat) (step : Step),
    (s.reporting moves).report.steps[i]? = some step → ∃ later : Step,
      (s.reporting (moves ++ more)).report.steps[i]? = some later ∧ step.Progress later ∧
        (later = step ∨ (step.isOpen = true ∧ later.isOpen = false ∧
          (later.status = .completed ∨ later.status = .failed)))
  refused_iff : ∀ (move : Move) (place : Nat) (how : Step → Step) (step : Step),
    move.finishes? = some (place, how) → (s.reporting moves).report.steps[place]? = some step →
      (move.perform (s.reporting moves) =
        .error (.stepFinished step.finishedMessage) (s.reporting moves) ↔ step.isOpen = false)
  accepted : ∀ (move : Move) (place : Nat) (how : Step → Step) (step : Step),
    move.finishes? = some (place, how) → (s.reporting moves).report.steps[place]? = some step →
      step.isOpen = true → ∃ t : Session σ, move.perform (s.reporting moves) = .ok place t ∧
        t.report.steps[place]? = some (how step) ∧
        move.status? = some (how step).status ∧ (how step).isOpen = false
  own_step : ∀ (move : Move) (place : Nat) (t : Session σ),
    move.perform (s.reporting moves) = .ok place t → ∀ i : Nat, i ≠ place →
      t.report.steps[i]? = (s.reporting moves).report.steps[i]?
  succeeded_iff : (s.reporting moves).report.succeeded = true ↔
    (s.reporting moves).report.steps ≠ [] ∧
      ∀ i < (s.reporting moves).report.length, s.HasCompleted moves i

namespace Report

theorem Move.eq_of_perform {move : Move} {s t : Session σ} {place i : Nat}
    (h : move.perform s = .ok place t) (hi : i ≠ place) :
    t.report.steps[i]? = s.report.steps[i]? := by
  cases hmove : move.finishes? with
  | none =>
    cases move with
    | start name message =>
      cases h
      rcases Nat.lt_or_gt_of_ne hi with hlt | hgt
      · exact steps_start_of_lt _ _ _ hlt
      · have hgt : s.report.steps.length < i := hgt
        rw [List.getElem?_eq_none (Nat.le_of_lt hgt)]
        refine List.getElem?_eq_none ?_
        rw [Report.start, List.length_append, List.length_singleton]
        exact hgt
    | complete | fail => cases hmove
  | some finish =>
    obtain ⟨found, how⟩ := finish
    cases hstep : s.report.steps[found]? with
    | none =>
      rw [perform_of_absent hmove hstep] at h
      cases h
      rfl
    | some step =>
      cases hopen : step.isOpen with
      | false =>
        rw [perform_of_finished hmove hstep hopen] at h
        cases h
      | true =>
        rw [perform_of_open hmove hstep hopen] at h
        cases h
        exact List.getElem?_set_ne (Ne.symm hi)

theorem succeeded_eq_true_iff {r : Report} :
    r.succeeded = true ↔ r.steps ≠ [] ∧ ∀ step ∈ r.steps, step.status = .completed := by
  simp [succeeded]

/-- **The life cycle of a report**: its steps are numbered in the order in which they were started, and
stay where they are. A step is finished once, while it is open, and is then completed or failed, as the
move says; to finish it again is refused and changes nothing. A move that is accepted changes its own step only, and the report has succeeded where it has
steps and each of them was completed. -/
theorem report_life_cycle (s : Session σ) (moves : List Move) : LifeCycle s moves where
  numbered _ _ hi := Session.reporting_numbered hi
  in_order := Session.reporting_names s moves
  progress more _ _ hi := by
    obtain ⟨later, hlater, hprogress⟩ := Session.reporting_progress hi more
    exact ⟨later, hlater, hprogress, hprogress.status_cases⟩
  refused_iff move place how step hmove hstep := by
    constructor
    · intro h
      cases hopen : step.isOpen with
      | false => rfl
      | true => rw [Move.perform_of_open hmove hstep hopen] at h; cases h
    · exact Move.perform_of_finished hmove hstep
  accepted move place how step hmove hstep hopen :=
    ⟨_, Move.perform_of_open hmove hstep hopen,
      List.getElem?_set_self (List.getElem?_eq_some_iff.1 hstep).1,
      Move.status_of_finishes? hmove step⟩
  own_step _ _ _ h _ hi := Move.eq_of_perform h hi
  succeeded_iff := by
    rw [succeeded_eq_true_iff]
    refine and_congr_right fun _ => ⟨fun h i hi => ?_, fun h step hstep => ?_⟩
    · have hstep := List.getElem?_eq_getElem hi
      exact (Session.completed_iff hstep).1 (h _ (List.getElem_mem hi))
    · obtain ⟨i, hi, rfl⟩ := List.getElem_of_mem hstep
      exact (Session.completed_iff (List.getElem?_eq_getElem hi)).2 (h i hi)

end Report

end Testsmith
