import Testsmith.Operation.Service
import Testsmith.Proofs.Actions

/-!
# Actions and what they do not see

Between their steps, operations work on files and with the build tool. Such an action does not see the
report and the standards that were read so far: from a session where these are others it comes to the
same, and leaves them as they are. This is stated as commuting with a change of the session
(`Action.Commutes`, `Session.aside`), which holds of a sequence where it holds of its parts. Actions on
the report commute with a change of the standards, and reading the standards with one of the report.

An action that commutes with every change of a part leaves that part alone (`Commutes.fixed_of_ok`).
-/

namespace Testsmith

variable {σ α β : Type}

/-! ## Changes of a session -/

/-- The session with its report and its standards changed. -/
def Session.aside (f : Report → Report) (g : Standards.Cache → Standards.Cache) (s : Session σ) :
    Session σ :=
  { s with report := f s.report, standards := g s.standards }

namespace Action

/-- What an action has come to, with another session. -/
def mapSession (change : Session σ → Session σ) :
    EStateM.Result Failure (Session σ) α → EStateM.Result Failure (Session σ) α
  | .ok a t => .ok a (change t)
  | .error failure t => .error failure (change t)

/-- From a changed session on, the action comes to the same, with the session that it leaves changed in
the same way. -/
def Commutes (change : Session σ → Session σ) (x : Action σ α) : Prop :=
  ∀ s, x (change s) = mapSession change (x s)

section Commutes

variable {change : Session σ → Session σ} {x : Action σ α} {next : α → Action σ β}

theorem commutes_pure (a : α) : (pure a : Action σ α).Commutes change := fun _ => rfl

theorem commutes_throw (failure : Failure) : (throw failure : Action σ α).Commutes change :=
  fun _ => rfl

theorem commutes_ofExcept (x : Except Failure α) : (ofExcept x : Action σ α).Commutes change := by
  cases x with
  | ok a => exact commutes_pure a
  | error failure => exact commutes_throw failure

theorem Commutes.bind (hx : x.Commutes change) (hnext : ∀ a, (next a).Commutes change) :
    (x >>= next).Commutes change := by
  intro s
  have h := hx s
  cases hxs : x s with
  | ok a t =>
    rw [hxs] at h
    rw [bind_of_ok h, bind_of_ok hxs]
    exact hnext a t
  | error failure t =>
    rw [hxs] at h
    rw [bind_of_error h, bind_of_error hxs]
    rfl

theorem Commutes.attempt (hx : x.Commutes change) : (attempt x).Commutes change := by
  intro s
  have h := hx s
  cases hxs : x s with
  | ok a t =>
    rw [hxs] at h
    rw [attempt_of_ok h, attempt_of_ok hxs]
    rfl
  | error failure t =>
    rw [hxs] at h
    rw [attempt_of_error h, attempt_of_error hxs]
    rfl

/-- A change that leaves a session as it is leaves what the action makes of it as it is. -/
theorem Commutes.fixed_of_ok (hx : x.Commutes change) {s t : Session σ} {a : α}
    (hs : change s = s) (h : x s = .ok a t) : t = change t := by
  have hchange := hx s
  rw [hs, h] at hchange
  exact (EStateM.Result.ok.inj hchange).2

theorem Commutes.fixed_of_error (hx : x.Commutes change) {s t : Session σ} {failure : Failure}
    (hs : change s = s) (h : x s = .error failure t) : t = change t := by
  have hchange := hx s
  rw [hs, h] at hchange
  exact (EStateM.Result.error.inj hchange).2

end Commutes

/-! ## Files and the build tool -/

section Files

variable {f : Report → Report} {g : Standards.Cache → Standards.Cache}

theorem commutes_note (e : Event) : (note e : Action σ Unit).Commutes (.aside f g) := fun _ => rfl

theorem commutes_isFile (p : Path) : (isFile p : Action σ Bool).Commutes (.aside f g) :=
  fun s => commutes_ofExcept (s.files.isFile s.workingDirectory p) s

theorem commutes_readBytes (p : Path) :
    (readBytes p : Action σ ByteArray).Commutes (.aside f g) :=
  fun s => commutes_ofExcept (s.files.read s.workingDirectory p) s

theorem commutes_readText (p : Path) : (readText p : Action σ String).Commutes (.aside f g) :=
  (commutes_note _).bind fun _ => (commutes_readBytes p).bind fun _ => commutes_ofExcept _

theorem commutes_writeText (p : Path) (text : String) :
    (writeText p text : Action σ Unit).Commutes (.aside f g) := by
  intro s
  cases hwrite : s.files.write s.workingDirectory p text.toUTF8 with
  | ok files =>
    rw [writeText_of_ok hwrite]
    exact writeText_of_ok hwrite
  | error failure =>
    rw [writeText_of_error hwrite]
    exact writeText_of_error hwrite

theorem commutes_makeDirectories (p : Path) :
    (makeDirectories p : Action σ Unit).Commutes (.aside f g) := by
  intro s
  have h : (ofExcept _ : Action σ Unit).Commutes (.aside f g) :=
    commutes_ofExcept (s.files.makeDirectories s.workingDirectory p).1
  exact h { s with files := (s.files.makeDirectories s.workingDirectory p).2 }

theorem commutes_call (tool : BuildTool σ) (c : Call) : (call tool c).Commutes (.aside f g) := by
  intro s
  cases answer : (tool.call c s.tool s.files).1 with
  | ok result =>
    rw [call_of_ok answer]
    exact call_of_ok answer
  | error failure =>
    rw [call_of_error answer]
    exact call_of_error answer

end Files

/-! ## The report -/

section Steps

variable {g : Standards.Cache → Standards.Cache}

theorem commutes_startStep (name message : String) :
    (startStep name message : Action σ Nat).Commutes (.aside id g) := fun _ => rfl

theorem commutes_finishStep (finish : Report → Except Step Report) :
    (finishStep finish : Action σ Unit).Commutes (.aside id g) := by
  intro s
  cases hfinish : finish s.report with
  | ok r =>
    rw [finishStep_of_ok hfinish]
    exact finishStep_of_ok hfinish
  | error step =>
    rw [finishStep_of_error hfinish]
    exact finishStep_of_error hfinish

end Steps

end Action

open Testsmith.Action

/-! ## Repairs, settings and standards -/

section Parts

variable {f : Report → Report} {g : Standards.Cache → Standards.Cache}

theorem repairFile_commutes (file : Path) (message : String) (policy : Repair.Policy) :
    (repairFile file message policy : Action σ Repair.Outcome).Commutes (.aside f g) := by
  refine (commutes_readText _).bind fun text => ?_
  dsimp only
  split
  · exact (commutes_writeText _ _).bind fun _ => commutes_pure _
  · exact commutes_pure _

/-- Attempts commute with a change where each one does, however many there are. -/
theorem attempts_commutes (stage : Stage) {attempt : Action σ ToolResult}
    (hattempt : attempt.Commutes (.aside f g)) (policy : Repair.Policy) (file : Path) (spare : Nat) :
    (attempts stage attempt policy file spare).Commutes (.aside f g) := by
  induction spare with
  | zero => exact hattempt.bind fun _ => commutes_pure _
  | succ spare ih =>
    refine hattempt.bind fun result => ?_
    split
    · exact commutes_pure _
    · refine (repairFile_commutes _ _ _).bind fun outcome => ?_
      split
      · exact ih.bind fun _ => commutes_pure _
      · exact commutes_pure _

theorem Settings.load_commutes (root : Path) :
    (load root : Action σ Settings).Commutes (.aside f g) := by
  refine (commutes_isFile _).bind fun present => ?_
  split
  · exact commutes_pure _
  · refine Commutes.bind ?_ fun found => ?_
    · exact ((commutes_readText _).bind fun _ => commutes_ofExcept _).attempt
    · split
      · exact commutes_pure _
      · split
        · exact (commutes_note _).bind fun _ => commutes_pure _
        · exact commutes_throw _

namespace Standards

theorem fetch_commutes (shelf : Shelf) (d : Document) :
    (fetch shelf d : Action σ String).Commutes (.aside f g) := by
  unfold fetch
  split
  · exact commutes_pure _
  · refine (commutes_readText _).attempt.bind fun found => ?_
    split
    · exact commutes_pure _
    · exact commutes_pure _
    · exact commutes_throw _

/-- A document that is kept is not looked for. -/
theorem document_of_cached {shelf : Shelf} {d : Document} {s : Session σ} {text : String}
    (h : s.standards.get? d = some text) : document shelf d s = .ok text s := by
  have hget : (get : Action σ (Session σ)) s = .ok s s := rfl
  unfold document
  rw [bind_of_ok hget, h]
  rfl

/-- A document that is not kept is looked for, and kept. -/
theorem document_of_uncached {shelf : Shelf} {d : Document} {s : Session σ}
    (h : s.standards.get? d = none) : document shelf d s = (do
      let text ← fetch shelf d
      modify fun s => { s with standards := s.standards.put d text }
      return text : Action σ String) s := by
  have hget : (get : Action σ (Session σ)) s = .ok s s := rfl
  unfold document
  rw [bind_of_ok hget, h]

theorem document_commutes (shelf : Shelf) (d : Document) :
    (document shelf d : Action σ String).Commutes (.aside f id) := by
  intro s
  cases hcached : s.standards.get? d with
  | some text =>
    rw [document_of_cached hcached]
    exact document_of_cached hcached
  | none =>
    have hfetch : (do
        let text ← fetch shelf d
        modify fun s => { s with standards := s.standards.put d text }
        return text : Action σ String).Commutes (.aside f id) :=
      (fetch_commutes shelf d).bind fun text => Commutes.bind (fun _ => rfl) fun _ => commutes_pure _
    rw [document_of_uncached hcached, ← hfetch s]
    exact document_of_uncached hcached

theorem ensureLoaded_commutes (shelf : Shelf) :
    (ensureLoaded shelf : Action σ Bool).Commutes (.aside f id) := by
  refine (document_commutes _ _).bind fun text => ?_
  split
  · exact commutes_pure _
  · exact (document_commutes _ _).bind fun _ => commutes_pure _

end Standards

/-! ## Parts of operations -/

namespace Service

variable (svc : Service σ)

theorem settingsFor_commutes (root : Path) : (svc.settingsFor root).Commutes (.aside f g) := by
  unfold settingsFor
  split
  · exact commutes_pure _
  · exact Settings.load_commutes root

theorem prepare_commutes (root : Path) : (svc.prepare root).Commutes (.aside f id) :=
  (settingsFor_commutes svc root).bind fun _ =>
    (Standards.ensureLoaded_commutes _).bind fun _ => commutes_pure _

theorem describe_commutes (root : Path) (servicePath : String) (symbols : Option Json)
    (settings : Settings) :
    (describe root servicePath symbols settings : Action σ _).Commutes (.aside f g) := by
  unfold describe
  split
  · exact commutes_pure _
  · exact (commutes_readText _).bind fun _ => commutes_pure _

theorem coverage_commutes (tool : BuildTool σ) (module : String) :
    (coverage tool module).Commutes (.aside f g) := by
  refine (commutes_call tool _).bind fun result => ?_
  split
  · exact commutes_pure _
  · exact commutes_pure _

theorem analyzeStep_commutes (r : GenerateRequest) (settings : Settings) :
    (analyzeStep r settings : Action σ _).Commutes (.aside id g) :=
  (commutes_startStep _ _).bind fun _ => (describe_commutes _ _ _ _).bind fun _ =>
    (commutes_finishStep _).bind fun _ => commutes_pure _

theorem writeStep_commutes (root : Path) (testPath : String) (flavor : Flavor)
    (descriptor : Descriptor) :
    (writeStep root testPath flavor descriptor : Action σ Unit).Commutes (.aside id g) :=
  (commutes_startStep _ _).bind fun _ => (commutes_makeDirectories _).bind fun _ =>
    (commutes_writeText _ _).bind fun _ => commutes_finishStep _

end Service

end Parts

end Testsmith
