import Testsmith.Proofs.StageRun

/-!
# The rules of the loop

A run of the loop as a relation: compiling gives up and the run stops, or compiling passes and the test
class is executed (`LoopRun`). The loop follows these rules and no others (`run_eq_ok_iff`), and with a
build tool that answers and keeps the test file a text every run comes to an end (`exists_loopRun`).
-/

namespace Testsmith

variable {σ : Type}

/-! ## A stage as a step of the report -/

/-- The step that was started last can be finished. -/
theorem Report.finish_start (r : Report) (name message : String) (how : Step → Step) :
    (r.start name message).finish r.length how =
      .ok ⟨r.steps ++ [how { number := r.steps.length + 1, name, message }]⟩ := by
  simp [finish, start, length, Step.isOpen]

namespace Loop

/-- The step of a stage that has ended, behind some others. -/
def stepOf (before : Nat) (stage : Stage) (e : StageEnd) : Step :=
  let step : Step := { number := before + 1, name := stage.stepName, message := stage.message }
  match e.gaveUp with
  | none => step.complete (some (passedResult stage e)) none
  | some reason =>
    step.fail e.result.errorText (some reason.name) (some (gaveUpResult stage e))

end Loop

namespace Session

/-- The session with the step of a stage started. -/
def starting (s : Session σ) (stage : Stage) : Session σ :=
  { s with report := s.report.start stage.stepName stage.message }

/-- The session with the step of a stage finished behind the steps of some report. -/
def finishing (t : Session σ) (before : Report) (stage : Stage) (e : StageEnd) : Session σ :=
  { t with report := ⟨before.steps ++ [Loop.stepOf before.length stage e]⟩ }

variable (s t : Session σ) (before : Report) (stage : Stage) (e : StageEnd)

@[simp] theorem starting_files : (s.starting stage).files = s.files := rfl

@[simp] theorem starting_journal : (s.starting stage).journal = s.journal := rfl

@[simp] theorem starting_workingDirectory :
    (s.starting stage).workingDirectory = s.workingDirectory := rfl

@[simp] theorem finishing_files : (t.finishing before stage e).files = t.files := rfl

@[simp] theorem finishing_journal : (t.finishing before stage e).journal = t.journal := rfl

@[simp] theorem finishing_workingDirectory :
    (t.finishing before stage e).workingDirectory = t.workingDirectory := rfl

@[simp] theorem finishing_steps : (t.finishing before stage e).report.steps =
    before.steps ++ [Loop.stepOf before.length stage e] := rfl

/-- After both stages the journal has what compiling has added, and behind it what executing has. -/
theorem journal_after_stages {s u v : Session σ} {before : Report} {e : StageEnd}
    {first second : List Event} (hfirst : u.journal = (s.starting .compile).journal ++ first)
    (hsecond : v.journal = ((u.finishing before .compile e).starting .execute).journal ++ second) :
    v.journal = s.journal ++ (first ++ second) := by
  rw [hsecond, starting_journal, finishing_journal, hfirst, starting_journal, List.append_assoc]

end Session

namespace Loop

variable {l : Loop σ} {stage : Stage} {c : Call} {file : Path} {s t : Session σ}
  {as : List Attempt} {e : StageEnd}

theorem startStep_eq (stage : Stage) (s : Session σ) :
    Action.startStep stage.stepName stage.message s = .ok s.report.length (s.starting stage) := rfl

theorem runStage_of_stageRun
    (h : StageRun stage l.tool c (l.rules stage) file (l.budget - 1) (s.starting stage) as e t) :
    l.runStage stage c file s = .ok e (t.finishing s.report stage e) := by
  have hreport : t.report = s.report.start stage.stepName stage.message := h.report_eq
  unfold runStage
  rw [Action.bind_of_ok (startStep_eq stage s), Action.bind_of_ok h.attempts_eq]
  have hfinish (how : Step → Step) :
      Action.finishStep (·.finish s.report.length how) t = .ok ()
        { t with report := ⟨s.report.steps ++ [how
          { number := s.report.steps.length + 1, name := stage.stepName,
            message := stage.message }]⟩ } := by
    refine Action.finishStep_of_ok ?_
    rw [hreport]
    exact Report.finish_start _ _ _ _
  cases hg : e.gaveUp with
  | none =>
    dsimp only
    unfold Report.complete
    rw [Action.bind_of_ok (hfinish _), Action.pure_apply, Session.finishing, stepOf, hg]
    rfl
  | some reason =>
    dsimp only
    unfold Report.fail
    rw [Action.bind_of_ok (hfinish _), Action.pure_apply, Session.finishing, stepOf, hg]
    rfl

/-- A stage fails where its attempts fail, and its step stays as it was started. -/
theorem runStage_of_error {failure : Failure} (h : attempts stage (Action.call l.tool c)
      (l.rules stage) file (l.budget - 1) (s.starting stage) = .error failure t) :
    l.runStage stage c file s = .error failure t := by
  unfold runStage
  rw [Action.bind_of_ok (startStep_eq stage s), Action.bind_of_error h]

theorem exists_stageRun_of_runStage (h : l.runStage stage c file s = .ok e t) :
    ∃ as u, StageRun stage l.tool c (l.rules stage) file (l.budget - 1) (s.starting stage) as e u ∧
      t = u.finishing s.report stage e := by
  have hrun := h
  unfold runStage at hrun
  rw [Action.bind_of_ok (startStep_eq stage s)] at hrun
  obtain ⟨f, u, hattempts, hrest⟩ := Action.bind_eq_ok hrun
  have hfe : f = e := by
    split at hrest <;> obtain ⟨_, _, -, hpure⟩ := Action.bind_eq_ok hrest <;> cases hpure <;> rfl
  subst hfe
  obtain ⟨as, hstage⟩ := exists_stageRun_of_attempts hattempts
  refine ⟨as, u, hstage, ?_⟩
  rw [runStage_of_stageRun hstage] at h
  cases h
  rfl

end Loop

/-- The call that each attempt of a stage makes for a test file. -/
def Loop.callOf (l : Loop σ) (testPath : String) : Stage → Call
  | .compile => .compile (Layout.moduleOf testPath l.fallbackModule) testPath
  | .execute => .run (Layout.moduleOf testPath l.fallbackModule) (Layout.className testPath)

/-! ## The rules -/

/-- A run of the loop from a session to a session, with the attempts of both stages and its outcome. -/
inductive LoopRun (l : Loop σ) (root : Path) (testPath : String) :
    Session σ → List Attempt → List Attempt → LoopOutcome → Session σ → Prop
  | stopped {s t : Session σ} {as : List Attempt} {e : StageEnd}
      (compiled : StageRun .compile l.tool
        (.compile (Layout.moduleOf testPath l.fallbackModule) testPath) l.compileRules
        (root / testPath) (l.budget - 1) (s.starting .compile) as e t)
      (gaveUp : e.gaveUp ≠ none) :
      LoopRun l root testPath s as []
        (Loop.outcome (Layout.moduleOf testPath l.fallbackModule) [] .compile e)
        (t.finishing s.report .compile e)
  | executed {s t u : Session σ} {as bs : List Attempt} {e f : StageEnd}
      (compiled : StageRun .compile l.tool
        (.compile (Layout.moduleOf testPath l.fallbackModule) testPath) l.compileRules
        (root / testPath) (l.budget - 1) (s.starting .compile) as e t)
      (passed : e.gaveUp = none)
      (executed : StageRun .execute l.tool
        (.run (Layout.moduleOf testPath l.fallbackModule) (Layout.className testPath))
        l.executionRules (root / testPath) (l.budget - 1)
        ((t.finishing s.report .compile e).starting .execute) bs f u) :
      LoopRun l root testPath s as bs
        (Loop.outcome (Layout.moduleOf testPath l.fallbackModule) (e.trace .compile) .execute f)
        (u.finishing (t.finishing s.report .compile e).report .execute f)

section Rules

variable {l : Loop σ} {root : Path} {testPath : String} {s t : Session σ}
  {as bs : List Attempt} {o : LoopOutcome}

theorem LoopRun.run_eq (h : LoopRun l root testPath s as bs o t)
    (hfile : s.files.isFile s.workingDirectory (root / testPath) = .ok true) :
    l.run root testPath s = .ok o t := by
  unfold Loop.run
  rw [Action.bind_of_ok (Action.isFile_of_ok hfile), if_neg (by simp)]
  dsimp only
  cases h with
  | stopped compiled gaveUp =>
    rw [Action.bind_of_ok (Loop.runStage_of_stageRun compiled),
      if_pos (Option.isSome_iff_ne_none.2 gaveUp)]
    rfl
  | executed compiled passed executed =>
    rw [Action.bind_of_ok (Loop.runStage_of_stageRun compiled), if_neg (by simp [passed]),
      Action.bind_of_ok (Loop.runStage_of_stageRun executed)]
    rfl

theorem exists_loopRun_of_run (h : l.run root testPath s = .ok o t) :
    s.files.isFile s.workingDirectory (root / testPath) = .ok true ∧
      ∃ as bs, LoopRun l root testPath s as bs o t := by
  unfold Loop.run at h
  cases hfile : s.files.isFile s.workingDirectory (root / testPath) with
  | error failure =>
    rw [Action.bind_of_error (Action.isFile_of_error hfile)] at h
    cases h
  | ok present =>
    rw [Action.bind_of_ok (Action.isFile_of_ok hfile)] at h
    cases present with
    | false => rw [if_pos (by simp)] at h; cases h
    | true =>
      refine ⟨rfl, ?_⟩
      rw [if_neg (by simp)] at h
      dsimp only at h
      obtain ⟨e, u, hcompile, h⟩ := Action.bind_eq_ok h
      obtain ⟨as, v, hcompiled, rfl⟩ := Loop.exists_stageRun_of_runStage hcompile
      cases hg : e.gaveUp with
      | some reason =>
        rw [if_pos (by simp [hg])] at h
        cases h
        exact ⟨as, [], .stopped hcompiled (by simp [hg])⟩
      | none =>
        rw [if_neg (by simp [hg])] at h
        obtain ⟨f, w, hexecute, h⟩ := Action.bind_eq_ok h
        obtain ⟨bs, x, hexecuted, rfl⟩ := Loop.exists_stageRun_of_runStage hexecute
        cases h
        exact ⟨as, bs, .executed hcompiled hg hexecuted⟩

/-- The loop follows its rules and no others. -/
theorem run_eq_ok_iff : l.run root testPath s = .ok o t ↔
    s.files.isFile s.workingDirectory (root / testPath) = .ok true ∧
      ∃ as bs, LoopRun l root testPath s as bs o t :=
  ⟨exists_loopRun_of_run, fun ⟨hfile, _, _, h⟩ => h.run_eq hfile⟩

/-- The calls of a run are its attempts, those of compiling first. -/
theorem LoopRun.calls_eq (h : LoopRun l root testPath s as bs o t) :
    ∃ new, t.journal = s.journal ++ new ∧ new.filterMap Event.call? =
      callsOf (l.callOf testPath .compile) as ++ callsOf (l.callOf testPath .execute) bs := by
  cases h with
  | stopped compiled _ =>
    obtain ⟨new, hnew, hcalls⟩ := compiled.calls_eq
    exact ⟨new, hnew, hcalls.trans (List.append_nil _).symm⟩
  | executed compiled _ executed =>
    obtain ⟨new, hnew, hcalls⟩ := compiled.calls_eq
    obtain ⟨more, hmore, hruns⟩ := executed.calls_eq
    refine ⟨new ++ more, Session.journal_after_stages hnew hmore, ?_⟩
    rw [List.filterMap_append, hcalls, hruns]
    rfl

/-- The result of each attempt of a run is the answer of the build tool, and nothing but the calls changes
the state that it is in. -/
theorem LoopRun.dialogue (h : LoopRun l root testPath s as bs o t) :
    l.tool.Dialogue s.tool
      (callsOf (l.callOf testPath .compile) as ++ callsOf (l.callOf testPath .execute) bs) t.tool := by
  cases h with
  | stopped compiled => exact compiled.dialogue.append (.done _)
  | executed compiled _ executed => exact compiled.dialogue.append executed.dialogue

/-- With a build tool that answers and keeps the test file a text, a run comes to an end. -/
theorem exists_loopRun {text : String}
    (htool : l.tool.KeepsText s.workingDirectory (root / testPath))
    (htext : s.files.text s.workingDirectory (root / testPath) = .ok text) :
    ∃ as bs o t, l.run root testPath s = .ok o t ∧ LoopRun l root testPath s as bs o t := by
  obtain ⟨content, hcontent, -⟩ := FileTree.text_eq_ok_iff.1 htext
  have hfile := FileTree.isFile_of_read hcontent
  obtain ⟨as, e, u, hcompiled, text', htext'⟩ := exists_stageRun .compile
    (.compile (Layout.moduleOf testPath l.fallbackModule) testPath) l.compileRules (l.budget - 1)
    (s := s.starting .compile) htool htext
  cases hg : e.gaveUp with
  | some reason =>
    have h := LoopRun.stopped hcompiled (by simp [hg])
    exact ⟨_, _, _, _, h.run_eq hfile, h⟩
  | none =>
    have hcwd : u.workingDirectory = s.workingDirectory := hcompiled.workingDirectory_eq
    obtain ⟨bs, f, v, hexecuted, -⟩ := exists_stageRun .execute
      (.run (Layout.moduleOf testPath l.fallbackModule) (Layout.className testPath))
      l.executionRules (l.budget - 1)
      (s := (u.finishing s.report .compile e).starting .execute) (hcwd ▸ htool) htext'
    have h := LoopRun.executed hcompiled hg hexecuted
    exact ⟨_, _, _, _, h.run_eq hfile, h⟩

end Rules

/-! ## A run with failures -/

/-- A build tool that fails some more times with an error, and is successful from then on. -/
def BuildTool.failing (error : String) : BuildTool Nat where
  call
    | _, 0, files => (.ok { success := true }, 0, files)
    | _, more + 1, files => (.ok { success := false, error := some error }, more, files)

theorem BuildTool.call_failing (error : String) (c : Call) (more : Nat) (files : FileTree) :
    (∃ r, ((failing error).call c more files).1 = .ok r) ∧
      ((failing error).call c more files).2.2 = files := by
  cases more with
  | zero => exact ⟨⟨_, rfl⟩, rfl⟩
  | succ more => exact ⟨⟨_, rfl⟩, rfl⟩

theorem BuildTool.keepsText_failing (error : String) (cwd : Location) (file : Path) :
    (failing error).KeepsText cwd file := by
  intro c more files text htext
  obtain ⟨⟨r, hr⟩, hfiles⟩ := call_failing error c more files
  exact ⟨r, hr, text, by rw [hfiles, htext]⟩

/-- A project of one test file, with a build tool that is going to fail twice. -/
def Session.ofTest (content : ByteArray) : Session Nat where
  files := ⟨[(["project"], .directory), (["project", "ServiceTest.kt"], .file content)]⟩
  tool := 2

/-- A loop that compiles the project of one test file again after its failures. -/
def Loop.patient : Loop Nat where
  tool := .failing "Unit but Long"
  budget := 3
  budget_pos := by decide

theorem Session.read_ofTest (content : ByteArray) :
    (ofTest content).files.read (ofTest content).workingDirectory
      (Path.ofText "/project" / "ServiceTest.kt") = .ok content := rfl

end Testsmith
