import Testsmith.Session

/-!
# What actions do to a session

Every basic action as an equation on sessions: which value or failure it gives, and which session it
leaves. A do block is followed step by step with `bind_of_ok` and `bind_of_error`, and no later proof
unfolds an action of this file.
-/

namespace Testsmith

variable {σ α β : Type}

/-! ## Views of a session -/

/-- The text of a file, as the files stand. -/
def FileTree.text (t : FileTree) (cwd : Location) (p : Path) : Except Failure String :=
  (t.read cwd p).bind Action.decode

namespace Session

/-- The session with one more event. -/
def noting (s : Session σ) (e : Event) : Session σ := { s with journal := s.journal ++ [e] }

/-- The session after a call of the build tool. -/
def afterCall (s : Session σ) (tool : BuildTool σ) (c : Call) : Session σ :=
  let (answer, state, files) := tool.call c s.tool s.files
  { s with tool := state, files }.noting (.called c s.files answer)

/-- The session after a text was written, which has led to some files. -/
def afterWrite (s : Session σ) (p : Path) (text : String) (files : FileTree) : Session σ :=
  { s with files }.noting (.wrote p text)

variable (s : Session σ) (e : Event) (tool : BuildTool σ) (c : Call) (p : Path) (text : String)
  (files : FileTree)

@[simp] theorem noting_files : (s.noting e).files = s.files := rfl

@[simp] theorem noting_workingDirectory :
    (s.noting e).workingDirectory = s.workingDirectory := rfl

@[simp] theorem noting_report : (s.noting e).report = s.report := rfl

@[simp] theorem noting_journal : (s.noting e).journal = s.journal ++ [e] := rfl

@[simp] theorem afterCall_files :
    (s.afterCall tool c).files = (tool.call c s.tool s.files).2.2 := rfl

@[simp] theorem afterCall_workingDirectory :
    (s.afterCall tool c).workingDirectory = s.workingDirectory := rfl

@[simp] theorem afterCall_report : (s.afterCall tool c).report = s.report := rfl

@[simp] theorem afterCall_journal : (s.afterCall tool c).journal =
    s.journal ++ [.called c s.files (tool.call c s.tool s.files).1] := rfl

@[simp] theorem afterWrite_files : (s.afterWrite p text files).files = files := rfl

@[simp] theorem afterWrite_workingDirectory :
    (s.afterWrite p text files).workingDirectory = s.workingDirectory := rfl

@[simp] theorem afterWrite_report : (s.afterWrite p text files).report = s.report := rfl

@[simp] theorem afterWrite_journal :
    (s.afterWrite p text files).journal = s.journal ++ [.wrote p text] := rfl

end Session

namespace Action

/-! ## Sequencing -/

theorem bind_of_ok {x : Action σ α} {f : α → Action σ β} {s t : Session σ} {a : α}
    (h : x s = .ok a t) : (x >>= f) s = f a t := by
  show EStateM.bind x f s = f a t
  rw [EStateM.bind, h]

theorem bind_of_error {x : Action σ α} {f : α → Action σ β} {s t : Session σ} {failure : Failure}
    (h : x s = .error failure t) : (x >>= f) s = .error failure t := by
  show EStateM.bind x f s = .error failure t
  rw [EStateM.bind, h]

/-- A sequence that ends well has done so in both of its parts. -/
theorem bind_eq_ok {x : Action σ α} {f : α → Action σ β} {s u : Session σ} {b : β}
    (h : (x >>= f) s = .ok b u) : ∃ a t, x s = .ok a t ∧ f a t = .ok b u := by
  cases hx : x s with
  | ok a t => exact ⟨a, t, rfl, by rwa [bind_of_ok hx] at h⟩
  | error failure t => rw [bind_of_error hx] at h; cases h

/-- A sequence that fails has done so in one of its parts. -/
theorem bind_eq_error {x : Action σ α} {f : α → Action σ β} {s u : Session σ} {failure : Failure}
    (h : (x >>= f) s = .error failure u) :
    x s = .error failure u ∨ ∃ a t, x s = .ok a t ∧ f a t = .error failure u := by
  cases hx : x s with
  | ok a t => exact .inr ⟨a, t, rfl, by rwa [bind_of_ok hx] at h⟩
  | error other t =>
    rw [bind_of_error hx] at h
    cases h
    exact .inl rfl

theorem pure_apply (a : α) (s : Session σ) : (pure a : Action σ α) s = .ok a s := rfl

theorem ofExcept_of_ok {x : Except Failure α} {a : α} (h : x = .ok a) (s : Session σ) :
    ofExcept x s = .ok a s := by
  subst h; rfl

theorem ofExcept_of_error {x : Except Failure α} {failure : Failure} (h : x = .error failure)
    (s : Session σ) : ofExcept x s = .error failure s := by
  subst h; rfl

theorem attempt_of_ok {x : Action σ α} {s t : Session σ} {a : α} (h : x s = .ok a t) :
    attempt x s = .ok (.ok a) t := by
  unfold attempt; rw [h]

theorem attempt_of_error {x : Action σ α} {s t : Session σ} {failure : Failure}
    (h : x s = .error failure t) : attempt x s = .ok (.error failure) t := by
  unfold attempt; rw [h]

/-! ## Files -/

theorem isFile_of_ok {s : Session σ} {p : Path} {b : Bool}
    (h : s.files.isFile s.workingDirectory p = .ok b) : isFile p s = .ok b s :=
  ofExcept_of_ok h s

theorem isFile_of_error {s : Session σ} {p : Path} {failure : Failure}
    (h : s.files.isFile s.workingDirectory p = .error failure) :
    isFile p s = .error failure s :=
  ofExcept_of_error h s

theorem readText_of_ok {s : Session σ} {p : Path} {text : String}
    (h : s.files.text s.workingDirectory p = .ok text) :
    readText p s = .ok text (s.noting (.read p)) := by
  unfold FileTree.text at h
  cases hr : s.files.read s.workingDirectory p with
  | error failure => rw [hr] at h; cases h
  | ok content =>
    rw [hr] at h
    have hb : readBytes p (s.noting (.read p)) = .ok content (s.noting (.read p)) :=
      ofExcept_of_ok hr _
    show (readBytes p >>= fun b => ofExcept (decode b)) (s.noting (.read p)) = _
    rw [bind_of_ok hb]
    exact ofExcept_of_ok h _

theorem readText_of_error {s : Session σ} {p : Path} {failure : Failure}
    (h : s.files.text s.workingDirectory p = .error failure) :
    readText p s = .error failure (s.noting (.read p)) := by
  unfold FileTree.text at h
  cases hr : s.files.read s.workingDirectory p with
  | error other =>
    rw [hr] at h
    have hb : readBytes p (s.noting (.read p)) = .error other (s.noting (.read p)) :=
      ofExcept_of_error hr _
    show (readBytes p >>= fun b => ofExcept (decode b)) (s.noting (.read p)) = _
    rw [bind_of_error hb]
    cases h; rfl
  | ok content =>
    rw [hr] at h
    have hb : readBytes p (s.noting (.read p)) = .ok content (s.noting (.read p)) :=
      ofExcept_of_ok hr _
    show (readBytes p >>= fun b => ofExcept (decode b)) (s.noting (.read p)) = _
    rw [bind_of_ok hb]
    exact ofExcept_of_error h _

theorem writeBytes_of_ok {s : Session σ} {p : Path} {content : ByteArray} {files : FileTree}
    (h : s.files.write s.workingDirectory p content = .ok files) :
    writeBytes p content s = .ok () { s with files } := by
  show (ofExcept _ >>= fun files => set { s with files }) s = _
  rw [bind_of_ok (ofExcept_of_ok h s)]
  rfl

theorem writeBytes_of_error {s : Session σ} {p : Path} {content : ByteArray} {failure : Failure}
    (h : s.files.write s.workingDirectory p content = .error failure) :
    writeBytes p content s = .error failure s := by
  show (ofExcept _ >>= fun files => set { s with files }) s = _
  rw [bind_of_error (ofExcept_of_error h s)]

theorem writeText_of_ok {s : Session σ} {p : Path} {text : String} {files : FileTree}
    (h : s.files.write s.workingDirectory p text.toUTF8 = .ok files) :
    writeText p text s = .ok () (s.afterWrite p text files) := by
  show (writeBytes p text.toUTF8 >>= fun _ => note (.wrote p text)) s = _
  rw [bind_of_ok (writeBytes_of_ok h)]
  rfl

theorem writeText_of_error {s : Session σ} {p : Path} {text : String} {failure : Failure}
    (h : s.files.write s.workingDirectory p text.toUTF8 = .error failure) :
    writeText p text s = .error failure s := by
  show (writeBytes p text.toUTF8 >>= fun _ => note (.wrote p text)) s = _
  rw [bind_of_error (writeBytes_of_error h)]

theorem makeDirectories_of_ok {s : Session σ} {p : Path} {made : FileTree}
    (h : s.files.makeDirectories s.workingDirectory p = (.ok (), made)) :
    makeDirectories p s = .ok () { s with files := made } := by
  have hget : (get : Action σ (Session σ)) s = .ok s s := rfl
  unfold makeDirectories
  rw [bind_of_ok hget, h]
  rfl

theorem makeDirectories_of_error {s : Session σ} {p : Path} {made : FileTree} {failure : Failure}
    (h : s.files.makeDirectories s.workingDirectory p = (.error failure, made)) :
    makeDirectories p s = .error failure { s with files := made } := by
  have hget : (get : Action σ (Session σ)) s = .ok s s := rfl
  unfold makeDirectories
  rw [bind_of_ok hget, h]
  rfl

theorem readText_eq_ok {p : Path} {text : String} {s t : Session σ}
    (h : readText p s = .ok text t) :
    s.files.text s.workingDirectory p = .ok text ∧ t = s.noting (.read p) := by
  cases hread : s.files.text s.workingDirectory p with
  | error failure => rw [readText_of_error hread] at h; cases h
  | ok found =>
    rw [readText_of_ok hread] at h
    cases h
    exact ⟨rfl, rfl⟩

theorem writeText_eq_ok {p : Path} {text : String} {s t : Session σ}
    (h : writeText p text s = .ok () t) :
    ∃ files, s.files.write s.workingDirectory p text.toUTF8 = .ok files ∧
      t = s.afterWrite p text files := by
  cases hwrite : s.files.write s.workingDirectory p text.toUTF8 with
  | error failure => rw [writeText_of_error hwrite] at h; cases h
  | ok files =>
    rw [writeText_of_ok hwrite] at h
    cases h
    exact ⟨files, rfl, rfl⟩

/-! ## The build tool -/

theorem call_of_ok {tool : BuildTool σ} {c : Call} {s : Session σ} {r : ToolResult}
    (h : (tool.call c s.tool s.files).1 = .ok r) :
    call tool c s = .ok r (s.afterCall tool c) := by
  show ofExcept (tool.call c s.tool s.files).1 (s.afterCall tool c) = _
  exact ofExcept_of_ok h _

theorem call_of_error {tool : BuildTool σ} {c : Call} {s : Session σ} {failure : Failure}
    (h : (tool.call c s.tool s.files).1 = .error failure) :
    call tool c s = .error failure (s.afterCall tool c) := by
  show ofExcept (tool.call c s.tool s.files).1 (s.afterCall tool c) = _
  exact ofExcept_of_error h _

theorem call_eq_error {tool : BuildTool σ} {c : Call} {s t : Session σ} {failure : Failure}
    (h : call tool c s = .error failure t) :
    (tool.call c s.tool s.files).1 = .error failure ∧ t = s.afterCall tool c := by
  cases answer : (tool.call c s.tool s.files).1 with
  | ok r => rw [call_of_ok answer] at h; cases h
  | error other =>
    rw [call_of_error answer] at h
    cases h
    exact ⟨rfl, rfl⟩

theorem call_eq_ok {tool : BuildTool σ} {c : Call} {s t : Session σ} {r : ToolResult}
    (h : call tool c s = .ok r t) :
    (tool.call c s.tool s.files).1 = .ok r ∧ t = s.afterCall tool c := by
  cases answer : (tool.call c s.tool s.files).1 with
  | error failure => rw [call_of_error answer] at h; cases h
  | ok other =>
    rw [call_of_ok answer] at h
    cases h
    exact ⟨rfl, rfl⟩

/-! ## The report -/

theorem startStep_apply (name message : String) (s : Session σ) : startStep name message s =
    .ok s.report.length { s with report := s.report.start name message } := rfl

theorem finishStep_of_ok {finish : Report → Except Step Report} {s : Session σ} {r : Report}
    (h : finish s.report = .ok r) : finishStep finish s = .ok () { s with report := r } := by
  have hget : (get : Action σ (Session σ)) s = .ok s s := rfl
  unfold finishStep
  rw [bind_of_ok hget, h]
  rfl

theorem finishStep_of_error {finish : Report → Except Step Report} {s : Session σ} {step : Step}
    (h : finish s.report = .error step) :
    finishStep finish s = .error (.stepFinished step.finishedMessage) s := by
  have hget : (get : Action σ (Session σ)) s = .ok s s := rfl
  unfold finishStep
  rw [bind_of_ok hget, h]
  rfl

end Action

end Testsmith
