import Testsmith.BuildTool.Basic
import Testsmith.FileTree.Access
import Testsmith.Report
import Testsmith.Standards.Basic
import Testsmith.Text.Newline

/-!
# Sessions

All that operations read and change: the files, the working directory, the state of the build tool, the
standards read so far, the report of the operation that is under way, and a journal of what was done
to the world outside. An action changes a session and gives a value or fails; what it did before it
failed stays done.

Texts are read as UTF-8 with unified line ends, and written as they are.
-/

namespace Testsmith

/-- What was done to the world outside. -/
inductive Event where
  /-- A text file was opened for reading. -/
  | read (path : Path)
  /-- A text file was written. -/
  | wrote (path : Path) (text : String)
  /-- The build tool was called, saw these files, and gave this answer. -/
  | called (call : Call) (files : FileTree) (answer : Except Failure ToolResult)
  /-- A settings file was ignored, for a cause. -/
  | ignored (path : Path) (cause : Failure)

/-- All that operations read and change, with build tool states in `σ`. -/
structure Session (σ : Type) where
  files : FileTree := {}
  workingDirectory : Location := []
  tool : σ
  standards : Standards.Cache := {}
  report : Report := {}
  journal : List Event := []

/-- What changes a session and may fail. -/
abbrev Action (σ : Type) := EStateM Failure (Session σ)

namespace Action

variable {σ α : Type}

/-- The value of a computation that does not touch the session. -/
def ofExcept (x : Except Failure α) : Action σ α :=
  match x with
  | .ok value => pure value
  | .error failure => throw failure

def note (e : Event) : Action σ Unit :=
  modify fun s => { s with journal := s.journal ++ [e] }

/-- Runs an action and keeps its failure as a value. -/
def attempt (x : Action σ α) : Action σ (Except Failure α) := fun s =>
  match x s with
  | .ok value s => .ok (.ok value) s
  | .error failure s => .ok (.error failure) s

/-- An attempt does not fail, and leaves what the action has left. -/
theorem attempt_eq (x : Action σ α) (s : Session σ) :
    (∃ value t, x s = .ok value t ∧ attempt x s = .ok (.ok value) t) ∨
      ∃ failure t, x s = .error failure t ∧ attempt x s = .ok (.error failure) t := by
  unfold attempt
  split
  · next value t h => exact .inl ⟨value, t, h, rfl⟩
  · next failure t h => exact .inr ⟨failure, t, h, rfl⟩

/-! ## Files -/

def isFile (p : Path) : Action σ Bool := do
  let s ← get
  ofExcept (s.files.isFile s.workingDirectory p)

def hasEntry (p : Path) : Action σ Bool := do
  let s ← get
  ofExcept (s.files.hasEntry s.workingDirectory p)

def readBytes (p : Path) : Action σ ByteArray := do
  let s ← get
  ofExcept (s.files.read s.workingDirectory p)

def writeBytes (p : Path) (content : ByteArray) : Action σ Unit := do
  let s ← get
  let files ← ofExcept (s.files.write s.workingDirectory p content)
  set { s with files }

def decode (content : ByteArray) : Except Failure String :=
  match String.fromUTF8? content with
  | some s => .ok (String.ofList (Text.unifyNewlines s.toList))
  | none => .error .notText

def readText (p : Path) : Action σ String := do
  note (.read p)
  ofExcept (decode (← readBytes p))

def writeText (p : Path) (text : String) : Action σ Unit := do
  writeBytes p text.toUTF8
  note (.wrote p text)

/-- Makes a directory and those above it that are missing. -/
def makeDirectories (p : Path) : Action σ Unit := do
  let s ← get
  let (made, files) := s.files.makeDirectories s.workingDirectory p
  set { s with files }
  ofExcept made

/-! ## The build tool -/

def call (tool : BuildTool σ) (c : Call) : Action σ ToolResult := do
  let s ← get
  let (answer, state, files) := tool.call c s.tool s.files
  set { s with tool := state, files }
  note (.called c s.files answer)
  ofExcept answer

/-! ## The report -/

def startStep (name message : String) : Action σ Nat := do
  let s ← get
  set { s with report := s.report.start name message }
  return s.report.length

def finishStep (finish : Report → Except Step Report) : Action σ Unit := do
  let s ← get
  match finish s.report with
  | .ok report => set { s with report }
  | .error step => throw (.stepFinished step.finishedMessage)

end Action

end Testsmith
