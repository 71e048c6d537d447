import Testsmith.Proofs.LoopProtocol

/-!
# Failures that are recorded, and failures that are lost

A run of the loop that does not succeed normally ends with an outcome, and its last step tells the error
of the last result (`Loop.Recorded`). But a failed attempt that another one could follow makes the loop
read the test file, also where no rule can know the failure, and a file that is no text ends the run
then and there: the failure of the build tool is recorded nowhere (`Loop.Lost`).

`StageBreak` and `LoopBreak` are the rules by which a stage and a run break off, and the loop follows
them and no others (`attempts_eq_error_iff`, `run_eq_error_iff`). `run_records_failures` is the main
statement: with a build tool that answers, a run records its failure exactly where it does not break off.
-/

namespace Testsmith

variable {σ : Type}

/-! ## Repairs that fail -/

section Repairs

variable {s t : Session σ} {file : Path} {message : String} {policy : Repair.Policy}
  {failure : Failure}

theorem repairFile_of_unreadable (h : s.files.text s.workingDirectory file = .error failure) :
    repairFile file message policy s = .error failure (s.noting (.read file)) := by
  unfold repairFile
  exact Action.bind_of_error (Action.readText_of_error h)

/-- A repair fails only where the file is no text: what can be read can be written. -/
theorem repairFile_eq_error (h : repairFile file message policy s = .error failure t) :
    s.files.text s.workingDirectory file = .error failure ∧ t = s.noting (.read file) := by
  cases hread : s.files.text s.workingDirectory file with
  | error other =>
    rw [repairFile_of_unreadable hread] at h
    cases h
    exact ⟨rfl, rfl⟩
  | ok text =>
    by_cases hfires : policy.firing message = []
    · rw [repairFile_of_silent hread hfires] at h
      cases h
    · -- A file that was read can be written, so there is nothing left to fail.
      obtain ⟨content, hcontent, -⟩ := FileTree.text_eq_ok_iff.1 hread
      obtain ⟨files, hwrite, -⟩ :=
        FileTree.write_of_read hcontent (policy.attempt text message).text.toUTF8
      rw [repairFile_of_fires hread hfires hwrite] at h
      cases h

end Repairs

/-! ## The rules of breaking off -/

/-- A stage that breaks off, from a session to a session, with the attempts that were answered: the
build tool breaks down, or a failed attempt that another one could follow leaves a file that is no
text. -/
inductive StageBreak (tool : BuildTool σ) (c : Call) (policy : Repair.Policy) (file : Path) :
    (spare : Nat) → Session σ → List Attempt → Failure → Session σ → Prop
  | broke {spare : Nat} {s : Session σ} {failure : Failure}
      (answer : (tool.call c s.tool s.files).1 = .error failure) :
      StageBreak tool c policy file spare s [] failure (s.afterCall tool c)
  | unreadable {spare : Nat} {s : Session σ} {r : ToolResult} {failure : Failure}
      (answer : (tool.call c s.tool s.files).1 = .ok r) (failed : r.success = false)
      (unread : (s.afterCall tool c).files.text s.workingDirectory file = .error failure) :
      StageBreak tool c policy file (spare + 1) s [⟨s.files, r⟩] failure
        ((s.afterCall tool c).noting (.read file))
  | retried {spare : Nat} {s t : Session σ} {r : ToolResult} {text : String} {files : FileTree}
      {later : List Attempt} {failure : Failure}
      (answer : (tool.call c s.tool s.files).1 = .ok r) (failed : r.success = false)
      (read : (s.afterCall tool c).files.text s.workingDirectory file = .ok text)
      (fires : policy.firing r.errorText ≠ [])
      (written : (s.afterCall tool c).files.write s.workingDirectory file
        (policy.attempt text r.errorText).text.toUTF8 = .ok files)
      (rest : StageBreak tool c policy file spare
        ((s.afterCall tool c).afterRepair file policy r.errorText text files) later failure t) :
      StageBreak tool c policy file (spare + 1) s (⟨s.files, r⟩ :: later) failure t

section Rules

variable {stage : Stage} {tool : BuildTool σ} {c : Call} {policy : Repair.Policy} {file : Path}
  {spare : Nat} {s t : Session σ} {as : List Attempt} {failure : Failure}

/-- What follows the rules is what the function does. -/
theorem StageBreak.attempts_eq (h : StageBreak tool c policy file spare s as failure t) :
    attempts stage (Action.call tool c) policy file spare s = .error failure t := by
  induction h with
  | @broke spare _ _ answer =>
    cases spare with
    | zero => exact Action.bind_of_error (Action.call_of_error answer)
    | succ spare => exact Action.bind_of_error (Action.call_of_error answer)
  | unreadable answer failed unread =>
    unfold attempts
    rw [Action.bind_of_ok (Action.call_of_ok answer), if_neg (by simp [failed]),
      Action.bind_of_error (repairFile_of_unreadable unread)]
  | retried answer failed read fires written rest ih =>
    unfold attempts
    rw [Action.bind_of_ok (Action.call_of_ok answer), if_neg (by simp [failed]),
      Action.bind_of_ok (repairFile_of_fires read fires written),
      if_pos (Repair.Policy.fixed_attempt.2 fires), Action.bind_of_error ih]

/-- What the function does follows the rules. -/
theorem exists_stageBreak_of_attempts
    (h : attempts stage (Action.call tool c) policy file spare s = .error failure t) :
    ∃ as, StageBreak tool c policy file spare s as failure t := by
  induction spare generalizing s with
  | zero =>
    rcases Action.bind_eq_error h with hcall | ⟨r, u, -, hrest⟩
    · obtain ⟨answer, rfl⟩ := Action.call_eq_error hcall
      exact ⟨_, .broke answer⟩
    · cases hrest
  | succ spare ih =>
    -- The places where an attempt can fail: its call, the repair behind it, or what follows the repair.
    rcases Action.bind_eq_error h with hcall | ⟨r, u, hcall, hrest⟩
    · obtain ⟨answer, rfl⟩ := Action.call_eq_error hcall
      exact ⟨_, .broke answer⟩
    obtain ⟨answer, rfl⟩ := Action.call_eq_ok hcall
    cases hr : r.success with
    | true => rw [if_pos hr] at hrest; cases hrest
    | false =>
      rw [if_neg (by simp [hr])] at hrest
      rcases Action.bind_eq_error hrest with hrepair | ⟨o, u, hrepair, hretry⟩
      · obtain ⟨hunread, rfl⟩ := repairFile_eq_error hrepair
        exact ⟨_, .unreadable answer hr hunread⟩
      obtain ⟨text, hread, rfl, ⟨silent, rfl⟩ | ⟨fires, files, hwrite, rfl⟩⟩ :=
        repairFile_eq_ok hrepair
      · rw [if_neg (by rw [Repair.Policy.fixed_attempt]; simp [silent])] at hretry
        cases hretry
      · rw [if_pos (Repair.Policy.fixed_attempt.2 fires)] at hretry
        rcases Action.bind_eq_error hretry with hlater | ⟨e, u, -, hpure⟩
        · obtain ⟨as, hbreak⟩ := ih hlater
          exact ⟨_, .retried answer hr hread fires hwrite hbreak⟩
        · cases hpure

/-- The function that makes attempts breaks off by the rules of breaking off and no others. -/
theorem attempts_eq_error_iff :
    attempts stage (Action.call tool c) policy file spare s = .error failure t ↔
      ∃ as, StageBreak tool c policy file spare s as failure t :=
  ⟨exists_stageBreak_of_attempts, fun ⟨_, h⟩ => h.attempts_eq⟩

end Rules

/-! ## What breaking off leaves -/

/-- The build tool answers every call with a result. -/
def BuildTool.Answers (tool : BuildTool σ) : Prop :=
  ∀ c state files, ∃ r, (tool.call c state files).1 = .ok r

theorem BuildTool.answers_failing (error : String) : (failing error).Answers :=
  fun c more files => (call_failing error c more files).1

theorem BuildTool.Answers.not_error {tool : BuildTool σ} (h : tool.Answers) {c : Call} {state : σ}
    {files : FileTree} {failure : Failure} :
    (tool.call c state files).1 ≠ .error failure := by
  obtain ⟨r, hr⟩ := h c state files
  rw [hr]
  exact nofun

namespace StageBreak

variable {tool : BuildTool σ} {c : Call} {policy : Repair.Policy} {file : Path} {spare : Nat}
  {s t : Session σ} {as : List Attempt} {failure : Failure}

theorem report_eq (h : StageBreak tool c policy file spare s as failure t) : t.report = s.report := by
  induction h with
  | broke | unreadable => rfl
  | retried _ _ _ _ _ _ ih => exact ih

/-- Where the tool answers, the attempts have failed, another one could have followed, and the file is
no text. -/
theorem left (h : StageBreak tool c policy file spare s as failure t) (htool : tool.Answers) :
    as ≠ [] ∧ as.length ≤ spare ∧ (∀ a ∈ as, a.result.success = false) ∧
      t.files.text t.workingDirectory file = .error failure := by
  induction h with
  | broke answer => exact absurd answer htool.not_error
  | unreadable _ failed unread =>
    refine ⟨List.cons_ne_nil _ _, Nat.le_add_left 1 _, ?_, unread⟩
    intro a ha
    rw [List.mem_singleton.1 ha]
    exact failed
  | retried _ failed _ _ _ _ ih =>
    obtain ⟨-, hlen, hfailed, hunread⟩ := ih
    refine ⟨List.cons_ne_nil _ _, Nat.succ_le_succ hlen, ?_, hunread⟩
    intro a ha
    rcases List.mem_cons.1 ha with rfl | ha
    · exact failed
    · exact hfailed a ha

/-- The calls of a stage that breaks off are its attempts, in order. -/
theorem answers_eq (h : StageBreak tool c policy file spare s as failure t)
    (htool : tool.Answers) :
    ∃ new, t.journal = s.journal ++ new ∧
      new.filterMap Event.answer? = (as.map (·.result)).map fun r => (c, .ok r) := by
  induction h with
  | broke answer => exact absurd answer htool.not_error
  | @unreadable _ s r _ answer _ _ =>
    refine ⟨[.called c s.files (.ok r), .read file], ?_, rfl⟩
    rw [Session.noting_journal, Session.afterCall_journal_of_ok answer, List.append_assoc]
    rfl
  | @retried _ s _ r text _ _ _ answer _ _ _ _ _ ih =>
    obtain ⟨new, hnew, hanswers⟩ := ih
    refine ⟨.called c s.files (.ok r) :: .read file ::
      .wrote file (policy.attempt text r.errorText).text :: new, ?_, ?_⟩
    · rw [hnew, Session.afterRepair_journal, Session.afterCall_journal_of_ok answer]
      simp only [List.append_assoc, List.cons_append, List.nil_append]
    · rw [List.map_cons, List.map_cons, ← hanswers]
      rfl

end StageBreak

/-! ## Runs that break off -/

namespace Loop

variable {l : Loop σ} {stage : Stage} {c : Call} {file : Path} {s t : Session σ}
  {as : List Attempt} {failure : Failure}

theorem runStage_of_stageBreak
    (h : StageBreak l.tool c (l.rules stage) file (l.budget - 1) (s.starting stage) as failure t) :
    l.runStage stage c file s = .error failure t :=
  runStage_of_error h.attempts_eq

/-- A stage fails as a step only where its attempts break off: the step can always be finished. -/
theorem exists_stageBreak_of_runStage (h : l.runStage stage c file s = .error failure t) :
    ∃ as, StageBreak l.tool c (l.rules stage) file (l.budget - 1) (s.starting stage) as failure t := by
  cases hattempts : attempts stage (Action.call l.tool c) (l.rules stage) file (l.budget - 1)
    (s.starting stage) with
  | ok e u =>
    obtain ⟨as, hstage⟩ := exists_stageRun_of_attempts hattempts
    rw [runStage_of_stageRun hstage] at h
    cases h
  | error other u =>
    obtain ⟨as, hbreak⟩ := exists_stageBreak_of_attempts hattempts
    rw [runStage_of_stageBreak hbreak] at h
    cases h
    exact ⟨as, hbreak⟩

end Loop

/-- A run of the loop that breaks off in a stage, from a session to a session, with the attempts of that
stage. -/
inductive LoopBreak (l : Loop σ) (root : Path) (testPath : String) :
    Session σ → Stage → List Attempt → Failure → Session σ → Prop
  | compiling {s t : Session σ} {as : List Attempt} {failure : Failure}
      (broken : StageBreak l.tool (l.callOf testPath .compile) l.compileRules (root / testPath)
        (l.budget - 1) (s.starting .compile) as failure t) :
      LoopBreak l root testPath s .compile as failure t
  | executing {s t u : Session σ} {as bs : List Attempt} {e : StageEnd} {failure : Failure}
      (compiled : StageRun .compile l.tool (l.callOf testPath .compile) l.compileRules
        (root / testPath) (l.budget - 1) (s.starting .compile) as e t)
      (passed : e.gaveUp = none)
      (broken : StageBreak l.tool (l.callOf testPath .execute) l.executionRules (root / testPath)
        (l.budget - 1) ((t.finishing s.report .compile e).starting .execute) bs failure u) :
      LoopBreak l root testPath s .execute bs failure u

section Rules

variable {l : Loop σ} {root : Path} {testPath : String} {s t : Session σ} {stage : Stage}
  {as : List Attempt} {failure : Failure}

theorem LoopBreak.run_eq (h : LoopBreak l root testPath s stage as failure t)
    (hfile : s.files.isFile s.workingDirectory (root / testPath) = .ok true) :
    l.run root testPath s = .error failure t := by
  unfold Loop.run
  rw [Action.bind_of_ok (Action.isFile_of_ok hfile), if_neg (by simp)]
  dsimp only
  cases h with
  | compiling broken => exact Action.bind_of_error (Loop.runStage_of_stageBreak broken)
  | executing compiled passed broken =>
    have hcompile := Loop.runStage_of_stageRun compiled
    dsimp only [Loop.callOf] at hcompile
    rw [Action.bind_of_ok hcompile, if_neg (by simp [passed])]
    exact Action.bind_of_error (Loop.runStage_of_stageBreak broken)

theorem exists_loopBreak_of_run
    (hfile : s.files.isFile s.workingDirectory (root / testPath) = .ok true)
    (h : l.run root testPath s = .error failure t) :
    ∃ stage as, LoopBreak l root testPath s stage as failure t := by
  unfold Loop.run at h
  rw [Action.bind_of_ok (Action.isFile_of_ok hfile), if_neg (by simp)] at h
  dsimp only at h
  rcases Action.bind_eq_error h with hcompile | ⟨e, u, hcompile, hrest⟩
  · obtain ⟨as, broken⟩ := Loop.exists_stageBreak_of_runStage hcompile
    exact ⟨.compile, as, .compiling broken⟩
  obtain ⟨as, v, compiled, rfl⟩ := Loop.exists_stageRun_of_runStage hcompile
  cases hg : e.gaveUp with
  | some reason => rw [if_pos (by simp [hg])] at hrest; cases hrest
  | none =>
    rw [if_neg (by simp [hg])] at hrest
    rcases Action.bind_eq_error hrest with hexecute | ⟨f, w, -, hpure⟩
    · obtain ⟨bs, broken⟩ := Loop.exists_stageBreak_of_runStage hexecute
      exact ⟨.execute, bs, .executing compiled hg broken⟩
    · cases hpure

/-- On a file that is there, a run breaks off by the rules of breaking off and no others. -/
theorem run_eq_error_iff
    (hfile : s.files.isFile s.workingDirectory (root / testPath) = .ok true) :
    l.run root testPath s = .error failure t ↔
      ∃ stage as, LoopBreak l root testPath s stage as failure t :=
  ⟨exists_loopBreak_of_run hfile, fun ⟨_, _, h⟩ => h.run_eq hfile⟩

end Rules

/-- With a build tool that answers and keeps the test file a text, no run breaks off. -/
theorem not_loopBreak_of_keepsText {l : Loop σ} {root : Path} {testPath : String} {s : Session σ}
    {text : String} (htext : s.files.text s.workingDirectory (root / testPath) = .ok text)
    (htool : l.tool.KeepsText s.workingDirectory (root / testPath)) :
    ¬ ∃ stage as failure t, LoopBreak l root testPath s stage as failure t := by
  rintro ⟨stage, as, failure, t, h⟩
  obtain ⟨content, hcontent, -⟩ := FileTree.text_eq_ok_iff.1 htext
  obtain ⟨_, _, o, u, hrun, -⟩ := exists_loopRun htool htext
  rw [h.run_eq (FileTree.isFile_of_read hcontent)] at hrun
  cases hrun

/-! ## What is told of a failure -/

/-- The last call that was made from a session to a session, and its result. -/
def Session.LastAnswer (s t : Session σ) (c : Call) (r : ToolResult) : Prop :=
  ∃ new, t.journal = s.journal ++ new ∧ (new.filterMap Event.answer?).getLast? = some (c, .ok r)

/-- The last result of a run was a failure, and the outcome and the last step tell of it: the stage that
failed, and the error word for word. -/
structure Loop.Recorded (l : Loop σ) (testPath : String) (s t : Session σ) (o : LoopOutcome)
    (stage : Stage) (last : ToolResult) (step : Step) : Prop where
  last_answer : s.LastAnswer t (l.callOf testPath stage) last
  failed : last.success = false
  failure_eq : o.failure = some stage
  last_step : t.report.steps.getLast? = some step
  name_eq : step.name = stage.stepName
  status_eq : step.status = .failed
  error_eq : step.error = some last.errorText
  result_eq : step.field? "failure" = some (.str stage.failureName)

/-- The last result of a run was a failure, another attempt could have followed, and what is told
instead is that the test file is no text: the step is left open and has no error. -/
structure Loop.Lost (l : Loop σ) (root : Path) (testPath : String) (s t : Session σ) (stage : Stage)
    (failure : Failure) (results : List ToolResult) (last : ToolResult) (step : Step) : Prop where
  last_answer : s.LastAnswer t (l.callOf testPath stage) last
  failed : last.success = false
  last_result : results.getLast? = some last
  lt_budget : results.length < l.budget
  unreadable : t.files.text t.workingDirectory (root / testPath) = .error failure
  last_step : t.report.steps.getLast? = some step
  name_eq : step.name = stage.stepName
  status_eq : step.status = .inProgress
  error_eq : step.error = none

section Told

variable {l : Loop σ} {root : Path} {testPath : String} {s t : Session σ} {stage : Stage}
  {failure : Failure} {as bs : List Attempt} {o : LoopOutcome}

/-- What the step of a stage that gave up tells of it. -/
theorem Loop.recorded_stepOf {c : Call} {policy : Repair.Policy} {file : Path} {spare : Nat}
    {u v : Session σ} {e : StageEnd} {reason : GiveUp} {before : Nat}
    (h : StageRun stage l.tool c policy file spare u as e v) (hreason : e.gaveUp = some reason)
    (hlast : s.LastAnswer t (l.callOf testPath stage) e.result) (hfailure : o.failure = some stage)
    (hstep : t.report.steps.getLast? = some (stepOf before stage e)) :
    l.Recorded testPath s t o stage e.result (stepOf before stage e) := by
  have hfailed : e.result.success = false := by
    rcases h.ending with ⟨hnone, -⟩ | ⟨-, hfailed, -⟩ | ⟨-, hfailed, -⟩
    · rw [hreason] at hnone; cases hnone
    · exact hfailed
    · exact hfailed
  refine ⟨hlast, hfailed, hfailure, hstep, ?_, ?_, ?_, ?_⟩ <;>
    simp [stepOf, hreason, Step.fail, Step.field?, gaveUpResult, Json.Fields.get?, List.lookup_cons]

/-- The last answer is the last one of the calls that were made last. -/
theorem Session.lastAnswer_of_answers {c : Call} {r : ToolResult} (old : List Event) {new : List Event}
    {results : List ToolResult} (hjournal : t.journal = s.journal ++ (old ++ new))
    (hanswers : new.filterMap Event.answer? = results.map fun r => (c, .ok r))
    (hlast : results.getLast? = some r) : s.LastAnswer t c r := by
  refine ⟨old ++ new, hjournal, ?_⟩
  rw [List.filterMap_append, hanswers, List.getLast?_append, List.getLast?_map, hlast]
  rfl

/-- A run that ends without success records the failure that it ended with. -/
theorem LoopRun.recorded (h : LoopRun l root testPath s as bs o t) (hfailed : o.success = false) :
    ∃ stage last step, l.Recorded testPath s t o stage last step := by
  cases h with
  | @stopped u _ e compiled gaveUp =>
    obtain ⟨reason, hreason⟩ := Option.ne_none_iff_exists'.1 gaveUp
    obtain ⟨new, hnew, hanswers⟩ := compiled.answers_eq
    refine ⟨.compile, e.result, Loop.stepOf s.report.length .compile e,
      Loop.recorded_stepOf compiled hreason ?_ ?_ ?_⟩
    · exact Session.lastAnswer_of_answers [] hnew hanswers compiled.getLast?_eq
    · simp [Loop.outcome, hreason]
    · rw [Session.finishing_steps, List.getLast?_concat]
  | @executed u v _ _ e f compiled passed executed =>
    cases hg : f.gaveUp with
    | none => simp [LoopOutcome.success, Loop.outcome, hg] at hfailed
    | some reason =>
      obtain ⟨new, hnew, -⟩ := compiled.answers_eq
      obtain ⟨more, hmore, hruns⟩ := executed.answers_eq
      refine ⟨.execute, f.result,
        Loop.stepOf (u.finishing s.report .compile e).report.length .execute f,
        Loop.recorded_stepOf executed hg ?_ ?_ ?_⟩
      · exact Session.lastAnswer_of_answers new (Session.journal_after_stages hnew hmore) hruns
          executed.getLast?_eq
      · simp [Loop.outcome, hg]
      · rw [Session.finishing_steps, List.getLast?_concat]

/-- A stage that breaks off loses the failure of its last attempt. -/
theorem Loop.lost_of_stageBreak {policy : Repair.Policy} {u : Session σ} {old : List Event}
    (h : StageBreak l.tool (l.callOf testPath stage) policy (root / testPath) (l.budget - 1)
      (u.starting stage) as failure t) (htool : l.tool.Answers)
    (hjournal : u.journal = s.journal ++ old) :
    ∃ last step, l.Lost root testPath s t stage failure (as.map (·.result)) last step := by
  obtain ⟨hne, hlen, hfailed, hunread⟩ := h.left htool
  obtain ⟨new, hnew, hanswers⟩ := h.answers_eq htool
  obtain ⟨a, ha⟩ := Option.ne_none_iff_exists'.1 (mt List.getLast?_eq_none_iff.1 hne)
  have hlast : (as.map (·.result)).getLast? = some a.result := by
    rw [List.getLast?_map, ha]
    rfl
  have hstep : t.report.steps.getLast? =
      some { number := u.report.steps.length + 1, name := stage.stepName, message := stage.message } := by
    rw [h.report_eq]
    exact List.getLast?_concat
  refine ⟨a.result, _, ?_, hfailed a (List.mem_of_getLast? ha), hlast, ?_, hunread, hstep, rfl, rfl, rfl⟩
  · refine Session.lastAnswer_of_answers old ?_ hanswers hlast
    rw [hnew, Session.starting_journal, hjournal, List.append_assoc]
  · -- There are no more attempts than could be followed by another one.
    have hbudget := l.budget_pos
    rw [List.length_map]
    omega

theorem LoopBreak.lost (h : LoopBreak l root testPath s stage as failure t)
    (htool : l.tool.Answers) :
    ∃ last step, l.Lost root testPath s t stage failure (as.map (·.result)) last step := by
  cases h with
  | compiling broken =>
    exact Loop.lost_of_stageBreak broken htool (List.append_nil _).symm
  | executing compiled passed broken =>
    obtain ⟨new, hnew, -⟩ := compiled.answers_eq
    exact Loop.lost_of_stageBreak broken htool hnew

/-- With one attempt a stage no run breaks off: no other attempt could follow a failure. -/
theorem not_loopBreak_of_single_attempt (hbudget : l.budget = 1) (htool : l.tool.Answers) :
    ¬ ∃ stage as failure t, LoopBreak l root testPath s stage as failure t := by
  rintro ⟨stage, as, failure, t, h⟩
  obtain ⟨last, _, hlost⟩ := h.lost htool
  have hlast := List.length_pos_of_mem (List.mem_of_getLast? hlost.last_result)
  have hlt := hlost.lt_budget
  omega

end Told

/-- **A run records its failure, or breaks off**: with a build tool that answers every call, and a test
file of whatever bytes, a run ends with an outcome exactly where it does not break off, and then it has
succeeded or recorded the failure that it ended with. Where it breaks off, a failed attempt that another
one could follow has left a file that is no text, and the failure of the build tool is lost. -/
theorem run_records_failures (l : Loop σ) (root : Path) (testPath : String) (s : Session σ)
    (hfile : s.files.isFile s.workingDirectory (root / testPath) = .ok true)
    (htool : l.tool.Answers) :
    ((∃ o t, l.run root testPath s = .ok o t ∧ (o.success = true ∨
        ∃ stage last step, l.Recorded testPath s t o stage last step)) ↔
      ¬ ∃ stage as failure t, LoopBreak l root testPath s stage as failure t) ∧
    ∀ stage as failure t, LoopBreak l root testPath s stage as failure t →
      l.run root testPath s = .error failure t ∧
        ∃ last step, l.Lost root testPath s t stage failure (as.map (·.result)) last step := by
  refine ⟨⟨?_, ?_⟩, fun stage as failure t h => ⟨h.run_eq hfile, h.lost htool⟩⟩
  · rintro ⟨o, t, hrun, -⟩ ⟨stage, as, failure, u, h⟩
    rw [h.run_eq hfile] at hrun
    cases hrun
  · intro hnone
    cases hrun : l.run root testPath s with
    | error failure t =>
      obtain ⟨stage, as, h⟩ := exists_loopBreak_of_run hfile hrun
      exact absurd ⟨stage, as, failure, t, h⟩ hnone
    | ok o t =>
      obtain ⟨-, as, bs, h⟩ := exists_loopRun_of_run hrun
      refine ⟨o, t, rfl, ?_⟩
      cases hs : o.success with
      | true => exact .inl rfl
      | false => exact .inr (h.recorded hs)

theorem run_records_failures_patient :
    ((∃ o t, Loop.patient.run (.ofText "/project") "ServiceTest.kt" (.ofTest ⟨#[0xff]⟩) = .ok o t ∧
        (o.success = true ∨ ∃ stage last step,
          Loop.patient.Recorded "ServiceTest.kt" (.ofTest ⟨#[0xff]⟩) t o stage last step)) ↔
      ¬ ∃ stage as failure t, LoopBreak Loop.patient (.ofText "/project") "ServiceTest.kt"
        (.ofTest ⟨#[0xff]⟩) stage as failure t) ∧
    ∀ stage as failure t, LoopBreak Loop.patient (.ofText "/project") "ServiceTest.kt"
        (.ofTest ⟨#[0xff]⟩) stage as failure t →
      Loop.patient.run (.ofText "/project") "ServiceTest.kt" (.ofTest ⟨#[0xff]⟩) =
          .error failure t ∧
        ∃ last step, Loop.patient.Lost (.ofText "/project") "ServiceTest.kt" (.ofTest ⟨#[0xff]⟩) t
          stage failure (as.map (·.result)) last step :=
  run_records_failures _ _ _ _ (FileTree.isFile_of_read (Session.read_ofTest _))
    (BuildTool.answers_failing _)

/-- A test file of one byte that is no text: the tool answers that it could not compile it, and the run
ends with a failure of its own and without an outcome. -/
theorem unreadableTest_unrecorded :
    (Session.ofTest ⟨#[0xff]⟩).files.isFile [] (Path.ofText "/project" / "ServiceTest.kt") =
      .ok true ∧
    Loop.patient.tool.Answers ∧ Loop.patient.compileRules = Repair.compileRules ∧
    Loop.patient.executionRules = Repair.executionRules ∧
    (∃ t, Loop.patient.run (.ofText "/project") "ServiceTest.kt" (.ofTest ⟨#[0xff]⟩) =
      .error .notText t) ∧
    ∀ o t, Loop.patient.run (.ofText "/project") "ServiceTest.kt" (.ofTest ⟨#[0xff]⟩) ≠ .ok o t := by
  have hfile := FileTree.isFile_of_read (Session.read_ofTest ⟨#[0xff]⟩)
  have hbreak := (LoopBreak.compiling (l := Loop.patient) (s := .ofTest ⟨#[0xff]⟩)
    (.unreadable rfl rfl rfl)).run_eq hfile
  refine ⟨hfile, BuildTool.answers_failing _, rfl, rfl, ⟨_, hbreak⟩, ?_⟩
  intro o t hrun
  rw [hbreak] at hrun
  cases hrun

end Testsmith
