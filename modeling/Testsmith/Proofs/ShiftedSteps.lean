import Testsmith.Proofs.LoopRun
import Testsmith.Proofs.ReportProgress

/-!
# Steps behind other steps

A run of the loop sees the report in one way only: it numbers its steps behind those that are there. So
behind other steps it does what it does in an empty report, and adds the same steps with their numbers
shifted (`Loop.run_behind`), also where it fails. Closing an open step after that does not reach the
steps in front (`Report.failOpen_behind`).
-/

namespace Testsmith

variable {σ : Type}

open Testsmith.Action

/-! ## Shifted steps -/

/-- The step with its number shifted. -/
def Step.shifted (n : Nat) (s : Step) : Step := { s with number := s.number + n }

/-- The report with other steps in front, and its own steps numbered behind them. -/
def Report.behind (before : List Step) (r : Report) : Report :=
  ⟨before ++ r.steps.map (Step.shifted before.length)⟩

namespace Report

variable (before : List Step) (r : Report)

@[simp] theorem behind_steps :
    (r.behind before).steps = before ++ r.steps.map (Step.shifted before.length) := rfl

@[simp] theorem length_behind : (r.behind before).length = before.length + r.length := by
  simp [length]

theorem behind_empty : ({} : Report).behind before = ⟨before⟩ := by simp [behind]

/-- A step that is started behind other steps is one that is shifted behind them. -/
theorem start_behind (name message : String) :
    (r.behind before).start name message = (r.start name message).behind before := by
  simp [start, behind, Step.shifted]
  omega

theorem behind_concat (front : List Step) (last : Step) :
    (⟨front ++ [last]⟩ : Report).behind before =
      ⟨before ++ front.map (Step.shifted before.length) ++ [last.shifted before.length]⟩ := by
  simp [behind]

theorem failOpen_concat (front : List Step) (last : Step) (error : String) :
    (⟨front ++ [last]⟩ : Report).failOpen error = ⟨front ++
      [if last.isOpen then last.fail error (some unexpected) none else last]⟩ := by
  unfold failOpen last?
  rw [List.getLast?_concat]
  dsimp only
  split
  · rw [List.dropLast_concat]
  · rfl

/-- Failing the open step does not reach the steps in front, where those are finished. -/
theorem failOpen_behind (h : ∀ s ∈ before, s.isOpen = false) (error : String) :
    (r.behind before).failOpen error = (r.failOpen error).behind before := by
  obtain ⟨steps⟩ := r
  rcases List.eq_nil_or_concat steps with rfl | ⟨front, last, rfl⟩
  · rw [failOpen_of_not_open (r := ⟨[]⟩) (by simp [last?])]
    refine failOpen_of_not_open fun step hlast => h step (List.mem_of_getLast? ?_)
    simpa [last?] using hlast
  · have hopen : (last.shifted before.length).isOpen = last.isOpen := rfl
    rw [List.concat_eq_append, behind_concat, failOpen_concat, failOpen_concat, behind_concat, hopen]
    split <;> rfl

end Report

/-- The session with other steps in front of those of its report. -/
def Session.behind (before : List Step) (s : Session σ) : Session σ :=
  s.aside (Report.behind before) id

/-- A session is the one with an empty report behind the steps that it has. -/
theorem Session.behind_self (s : Session σ) :
    Session.behind s.report.steps { s with report := {} } = s := by
  unfold Session.behind Session.aside
  rw [Report.behind_empty]
  rfl

/-! ## The loop -/

namespace Loop

variable (l : Loop σ) (before : List Step)

/-- The step of a stage behind other steps is the one behind fewer steps, shifted. -/
theorem stepOf_shifted (n : Nat) (stage : Stage) (e : StageEnd) :
    stepOf (before.length + n) stage e = (stepOf n stage e).shifted before.length := by
  have hnumber : ((before.length + n : Nat) : Int) + 1 = (n : Int) + 1 + before.length := by omega
  unfold stepOf
  rw [hnumber]
  cases e.gaveUp <;> rfl

theorem finishing_behind (t : Session σ) (r : Report) (stage : Stage) (e : StageEnd) :
    (t.behind before).finishing (r.behind before) stage e =
      (t.finishing r stage e).behind before := by
  simp [Session.finishing, Session.behind, Session.aside, Report.behind, Report.length,
    stepOf_shifted]

/-- A stage does behind other steps what it does without them. -/
theorem runStage_behind (stage : Stage) (c : Call) (file : Path) :
    (l.runStage stage c file).Commutes (Session.behind before) := by
  intro s
  -- Between the start and the end of the step the attempts do not see the report.
  have hstart : (s.behind before).starting stage = (s.starting stage).behind before :=
    congrArg (fun r => { s with report := r }) (Report.start_behind before s.report _ _)
  have hattempts : attempts stage (Action.call l.tool c) (l.rules stage) file (l.budget - 1)
      ((s.starting stage).behind before) = mapSession (Session.behind before) _ :=
    attempts_commutes stage (commutes_call l.tool c) (l.rules stage) file (l.budget - 1) _
  rw [← hstart] at hattempts
  cases h : attempts stage (Action.call l.tool c) (l.rules stage) file (l.budget - 1)
    (s.starting stage) with
  | ok e t =>
    rw [h] at hattempts
    obtain ⟨_, hstage⟩ := exists_stageRun_of_attempts h
    obtain ⟨_, hstage'⟩ := exists_stageRun_of_attempts hattempts
    rw [runStage_of_stageRun hstage, runStage_of_stageRun hstage']
    exact congrArg (EStateM.Result.ok e) (finishing_behind before t s.report stage e)
  | error failure t =>
    rw [h] at hattempts
    rw [runStage_of_error h, runStage_of_error hattempts]
    rfl

/-- A run does behind other steps what it does without them. -/
theorem run_behind (root : Path) (testPath : String) :
    (l.run root testPath).Commutes (Session.behind before) := by
  refine Commutes.bind (commutes_isFile _) fun present => ?_
  dsimp only
  split
  · exact commutes_throw _
  refine (runStage_behind l before _ _ _).bind fun e => ?_
  split
  · exact commutes_pure _
  · exact (runStage_behind l before _ _ _).bind fun f => commutes_pure _

end Loop

end Testsmith
