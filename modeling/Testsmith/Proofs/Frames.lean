import Mathlib.Order.Defs.Unbundled
import Testsmith.Operation.Dispatch
import Testsmith.Proofs.GenerationThenValidation
import Testsmith.Proofs.LoopRun

/-!
# What holds across an action

An action leads from a session to the one that it leaves, whether it gives a value or fails
(`Action.leaves`), and a relation of sessions holds across it if it holds between any two such sessions
(`Action.Leads`). A preorder holds across a sequence where it holds across the parts.

Most of what operations do is reading and bookkeeping. A preorder that this does not break is a frame
(`Session.Frame`), and it holds across an operation as soon as it holds across the writes and the calls
that the operation makes. So every operation is gone through once, here, for all frames: that the
journal only grows, and by which events, that files stay as they are, that finished steps stay finished.
-/

namespace Testsmith

variable {σ α β : Type}

namespace Action

/-! ## From session to session -/

/-- The session that an action leaves, also where it fails. -/
def leaves (x : Action σ α) (s : Session σ) : Session σ :=
  match x s with
  | .ok _ t => t
  | .error _ t => t

/-- A relation holds between every session and the one that the action makes of it. -/
def Leads (x : Action σ α) (R : Session σ → Session σ → Prop) : Prop := ∀ s, R s (x.leaves s)

section Leads

variable {R : Session σ → Session σ → Prop} {x : Action σ α} {next : α → Action σ β}
  {s t : Session σ} {a : α} {failure : Failure}

theorem leaves_congr {y : Action σ α} (h : x s = y t) : x.leaves s = y.leaves t := by
  rw [leaves, h, leaves]

theorem leaves_of_ok (h : x s = .ok a t) : x.leaves s = t := by
  unfold leaves
  rw [h]

theorem leaves_of_error (h : x s = .error failure t) : x.leaves s = t := by
  unfold leaves
  rw [h]

theorem leaves_bind_of_ok (h : x s = .ok a t) : (x >>= next).leaves s = (next a).leaves t := by
  unfold leaves
  rw [bind_of_ok h]

theorem leaves_bind_of_error (h : x s = .error failure t) : (x >>= next).leaves s = t :=
  leaves_of_error (bind_of_error h)

theorem leaves_call (tool : BuildTool σ) (c : Call) (s : Session σ) :
    (call tool c).leaves s = s.afterCall tool c := by
  cases answer : (tool.call c s.tool s.files).1 with
  | ok r => exact leaves_of_ok (call_of_ok answer)
  | error failure => exact leaves_of_error (call_of_error answer)

theorem leaves_attempt (x : Action σ α) (s : Session σ) : (attempt x).leaves s = x.leaves s := by
  rcases attempt_eq x s with ⟨a, t, h, hattempt⟩ | ⟨failure, t, h, hattempt⟩
  · rw [leaves_of_ok hattempt, leaves_of_ok h]
  · rw [leaves_of_ok hattempt, leaves_of_error h]

theorem Leads.of_ok (hx : x.Leads R) (h : x s = .ok a t) : R s t :=
  leaves_of_ok h ▸ hx s

theorem Leads.of_error (hx : x.Leads R) (h : x s = .error failure t) : R s t :=
  leaves_of_error h ▸ hx s

theorem Leads.attempt (hx : x.Leads R) : (attempt x).Leads R := by
  intro s
  rw [leaves_attempt]
  exact hx s

/-- What holds across both parts holds across a sequence, and so must what holds across the first part,
which may fail. -/
theorem Leads.bind_of {P Q : Session σ → Session σ → Prop} (hx : x.Leads P)
    (hnext : ∀ a, (next a).Leads Q) (hfirst : ∀ s t, P s t → R s t)
    (hboth : ∀ s t u, P s t → Q t u → R s u) : (x >>= next).Leads R := by
  intro s
  have h := hx s
  cases hxs : x s with
  | ok a t =>
    rw [leaves_of_ok hxs] at h
    rw [leaves_bind_of_ok hxs]
    exact hboth _ _ _ h (hnext a t)
  | error failure t =>
    rw [leaves_of_error hxs] at h
    rw [leaves_bind_of_error hxs]
    exact hfirst _ _ h

section Refl

variable [Std.Refl R]

theorem leads_pure (a : α) : (pure a : Action σ α).Leads R := fun s => refl s

theorem leads_throw (failure : Failure) : (throw failure : Action σ α).Leads R := fun s => refl s

theorem leads_ofExcept (x : Except Failure α) : (ofExcept x : Action σ α).Leads R := by
  cases x with
  | ok a => exact leads_pure a
  | error failure => exact leads_throw failure

/-- A value from outside is used only where there is one. -/
theorem leads_ofExcept_bind {x : Except Failure α} (h : ∀ a, x = .ok a → (next a).Leads R) :
    (ofExcept x >>= next).Leads R := by
  cases x with
  | ok a => exact h a rfl
  | error failure => exact leads_throw failure

/-- What holds across whatever comes behind an action holds from where that leaves off. -/
theorem leads_behind (hnext : ∀ a, (next a).Leads R) (s : Session σ) :
    R (x.leaves s) ((x >>= next).leaves s) := by
  cases h : x s with
  | ok a t =>
    rw [leaves_of_ok h, leaves_bind_of_ok h]
    exact hnext a t
  | error failure t =>
    rw [leaves_of_error h, leaves_bind_of_error h]
    exact refl t

end Refl

theorem Leads.bind [IsTrans (Session σ) R] (hx : x.Leads R) (hnext : ∀ a, (next a).Leads R) :
    (x >>= next).Leads R :=
  hx.bind_of hnext (fun _ _ h => h) fun _ _ _ => IsTrans.trans _ _ _

end Leads

end Action

/-! ## Frames -/

/-- A preorder of sessions that reading and bookkeeping do not break: reading a text, ignoring a settings
file, keeping standards, and starting and finishing steps. -/
class Session.Frame (R : Session σ → Session σ → Prop) : Prop extends IsPreorder (Session σ) R where
  read : ∀ (s : Session σ) path, R s (s.noting (.read path))
  ignored : ∀ (s : Session σ) path cause, R s (s.noting (.ignored path cause))
  standards : ∀ (s : Session σ) cache, R s { s with standards := cache }
  started : ∀ (s : Session σ) name message,
    R s { s with report := s.report.start name message }
  finished : ∀ (s : Session σ) i how report, s.report.finish i how = .ok report →
    R s { s with report }
  failedOpen : ∀ (s : Session σ) error, R s { s with report := s.report.failOpen error }

/-- A relation holds across every call of the build tool. -/
def Session.AcrossCall (R : Session σ → Session σ → Prop) (tool : BuildTool σ) (c : Call) : Prop :=
  ∀ s, R s (s.afterCall tool c)

/-- A relation holds across the calls of the build tool that a loop makes for a test file. -/
structure Session.AcrossLoop (R : Session σ → Session σ → Prop) (tool : BuildTool σ)
    (testPath : String) : Prop where
  compile : ∀ module, AcrossCall R tool (.compile module testPath)
  run : ∀ module, AcrossCall R tool (.run module (Layout.className testPath))

/-- A relation holds across every write of a text to a file. -/
def Session.AcrossWrite (R : Session σ → Session σ → Prop) (file : Path) : Prop :=
  ∀ s text files, s.files.write s.workingDirectory file text.toUTF8 = .ok files →
    R s (s.afterWrite file text files)

open Testsmith.Action Session

section Frames

variable {R : Session σ → Session σ → Prop} [Frame R]

namespace Action

theorem leads_isFile (p : Path) : (isFile p : Action σ Bool).Leads R :=
  fun s => leads_ofExcept (s.files.isFile s.workingDirectory p) s

theorem leads_readText (p : Path) : (readText p : Action σ String).Leads R := by
  intro s
  cases h : s.files.text s.workingDirectory p with
  | ok text =>
    rw [leaves_of_ok (readText_of_ok h)]
    exact Frame.read s p
  | error failure =>
    rw [leaves_of_error (readText_of_error h)]
    exact Frame.read s p

theorem leads_startStep (name message : String) :
    (startStep name message : Action σ Nat).Leads R :=
  fun s => Frame.started s name message

theorem leads_finishStep (i : Nat) (how : Step → Step) :
    (finishStep (·.finish i how) : Action σ Unit).Leads R := by
  intro s
  cases h : s.report.finish i how with
  | ok report =>
    rw [leaves_of_ok (finishStep_of_ok h)]
    exact Frame.finished s i how report h
  | error step =>
    rw [leaves_of_error (finishStep_of_error h)]
    exact refl s

omit [Frame R] in
theorem leads_call {tool : BuildTool σ} {c : Call} (h : AcrossCall R tool c) :
    (call tool c).Leads R := by
  intro s
  rw [leaves_call]
  exact h s

theorem leads_writeText {file : Path} (h : AcrossWrite R file) (text : String) :
    (writeText file text : Action σ Unit).Leads R := by
  intro s
  cases hwrite : s.files.write s.workingDirectory file text.toUTF8 with
  | ok files =>
    rw [leaves_of_ok (writeText_of_ok hwrite)]
    exact h s text files hwrite
  | error failure =>
    rw [leaves_of_error (writeText_of_error hwrite)]
    exact refl s

omit [Frame R] in
theorem leads_makeDirectories [IsPreorder (Session σ) R] {p : Path}
    (h : ∀ s, R s { s with files := (s.files.makeDirectories s.workingDirectory p).2 }) :
    (makeDirectories p : Action σ Unit).Leads R :=
  fun s => IsTrans.trans _ _ _ (h s) (leads_ofExcept _ _)

end Action

/-! ## Settings and standards -/

theorem Settings.load_leads (root : Path) : (load root : Action σ Settings).Leads R := by
  refine (leads_isFile _).bind fun present => ?_
  split
  · exact leads_pure _
  · refine Leads.bind ?_ fun found => ?_
    · exact ((leads_readText _).bind fun _ => leads_ofExcept _).attempt
    · split
      · exact leads_pure _
      · split
        · exact Leads.bind (fun s => Frame.ignored s _ _) fun _ => leads_pure _
        · exact leads_throw _

namespace Standards

theorem fetch_leads (shelf : Shelf) (d : Document) : (fetch shelf d : Action σ String).Leads R := by
  unfold fetch
  split
  · exact leads_pure _
  · refine (leads_readText _).attempt.bind fun found => ?_
    split
    · exact leads_pure _
    · exact leads_pure _
    · exact leads_throw _

theorem document_leads (shelf : Shelf) (d : Document) :
    (document shelf d : Action σ String).Leads R := by
  refine Leads.bind (fun s => refl s) fun s => ?_
  split
  · exact leads_pure _
  · refine (fetch_leads shelf d).bind fun text => Leads.bind ?_ fun _ => leads_pure _
    intro t
    exact Frame.standards t _

theorem ensureLoaded_leads (shelf : Shelf) : (ensureLoaded shelf : Action σ Bool).Leads R := by
  refine (document_leads _ _).bind fun text => ?_
  split
  · exact leads_pure _
  · exact (document_leads _ _).bind fun _ => leads_pure _

end Standards

/-! ## The loop -/

/-- A repair reads the file, and writes it where a rule fires. -/
theorem repairFile_leads {file : Path} {policy : Repair.Policy} {message : String}
    (hwrite : policy.firing message ≠ [] → AcrossWrite R file) :
    (repairFile file message policy : Action σ Repair.Outcome).Leads R := by
  refine (leads_readText _).bind fun text => ?_
  dsimp only
  split
  · next hfixed =>
    have hfires := Repair.Policy.fixed_attempt.1 hfixed
    exact (leads_writeText (hwrite hfires) _).bind fun _ => leads_pure _
  · exact leads_pure _

/-- What a stage does after a failed attempt that is not the last one. -/
def retry (stage : Stage) (attempt : Action σ ToolResult) (policy : Repair.Policy) (file : Path)
    (spare : Nat) (result : ToolResult) : Action σ StageEnd := do
  let outcome ← repairFile file result.errorText policy
  if outcome.fixed then
    return .afterRetry stage outcome.applied (← attempts stage attempt policy file spare)
  else return .atOnce stage result (some .unknownFailure)

theorem attempts_succ (stage : Stage) (attempt : Action σ ToolResult) (policy : Repair.Policy)
    (file : Path) (spare : Nat) :
    attempts stage attempt policy file (spare + 1) = (do
      let result ← attempt
      if result.success then return .atOnce stage result none
      retry stage attempt policy file spare result) := rfl

theorem retry_leads {stage : Stage} {attempt : Action σ ToolResult} {policy : Repair.Policy}
    {file : Path} {spare : Nat} {result : ToolResult}
    (hattempts : (attempts stage attempt policy file spare).Leads R)
    (hwrite : policy.firing result.errorText ≠ [] → AcrossWrite R file) :
    (retry stage attempt policy file spare result).Leads R := by
  refine (repairFile_leads hwrite).bind fun outcome => ?_
  split
  · exact hattempts.bind fun _ => leads_pure _
  · exact leads_pure _

theorem attempts_leads (stage : Stage) {attempt : Action σ ToolResult} (hattempt : attempt.Leads R)
    {policy : Repair.Policy} {file : Path} (hwrite : policy ≠ [] → AcrossWrite R file)
    (spare : Nat) : (attempts stage attempt policy file spare).Leads R := by
  induction spare with
  | zero => exact hattempt.bind fun _ => leads_pure _
  | succ spare ih =>
    rw [attempts_succ]
    refine hattempt.bind fun result => ?_
    split
    · exact leads_pure _
    · refine retry_leads ih fun hfires => hwrite ?_
      rintro rfl
      exact hfires rfl

namespace Loop

variable (l : Loop σ)

theorem runStage_leads (stage : Stage) {c : Call} {file : Path} (hcall : AcrossCall R l.tool c)
    (hwrite : l.rules stage ≠ [] → AcrossWrite R file) : (l.runStage stage c file).Leads R := by
  refine (leads_startStep _ _).bind fun step => ?_
  refine (attempts_leads stage (leads_call hcall) hwrite _).bind fun ended => ?_
  dsimp only
  split
  · exact (leads_finishStep _ _).bind fun _ => leads_pure _
  · exact (leads_finishStep _ _).bind fun _ => leads_pure _

/-- What holds across the calls of a run, and across the writes where there are rules, holds across the
run. -/
theorem run_leads (root : Path) (testPath : String) (hcall : AcrossLoop R l.tool testPath)
    (hwrite : ∀ stage, l.rules stage ≠ [] → AcrossWrite R (root / testPath)) :
    (l.run root testPath).Leads R := by
  refine (leads_isFile _).bind fun present => ?_
  dsimp only
  split
  · exact leads_throw _
  refine (runStage_leads l .compile (hcall.compile _) (hwrite .compile)).bind fun compiled => ?_
  split
  · exact leads_pure _
  · exact (runStage_leads l .execute (hcall.run _) (hwrite .execute)).bind fun _ => leads_pure _

end Loop

/-! ## Operations -/

namespace Service

variable (svc : Service σ)

theorem settingsFor_leads (root : Path) : (svc.settingsFor root).Leads R := by
  unfold settingsFor
  split
  · exact leads_pure _
  · exact Settings.load_leads root

theorem prepare_leads (root : Path) : (svc.prepare root).Leads R :=
  (settingsFor_leads svc root).bind fun _ =>
    (Standards.ensureLoaded_leads _).bind fun _ => leads_pure _

theorem describe_leads (root : Path) (servicePath : String) (symbols : Option Json)
    (settings : Settings) : (describe root servicePath symbols settings : Action σ _).Leads R := by
  unfold describe
  split
  · exact leads_pure _
  · exact (leads_readText _).bind fun _ => leads_pure _

theorem analyzeStep_leads (r : GenerateRequest) (settings : Settings) :
    (analyzeStep r settings : Action σ _).Leads R :=
  (leads_startStep _ _).bind fun _ => (describe_leads _ _ _ _).bind fun _ =>
    (leads_finishStep _ _).bind fun _ => leads_pure _

theorem cutShort_leads (failure : Failure) (known : Envelope) :
    (cutShort failure known : Action σ Reply).Leads R :=
  fun s => Frame.failedOpen s failure.message

theorem writeStep_leads {root : Path} {testPath : String} (flavor : Flavor)
    (descriptor : Descriptor)
    (hmake : (makeDirectories (root / testPath).parent : Action σ Unit).Leads R)
    (hwrite : AcrossWrite R (root / testPath)) :
    (writeStep root testPath flavor descriptor : Action σ Unit).Leads R :=
  (leads_startStep _ _).bind fun _ => hmake.bind fun _ =>
    (leads_writeText hwrite _).bind fun _ => leads_finishStep _ _

theorem coverage_leads {tool : BuildTool σ} {module : String}
    (hcall : AcrossCall R tool (.coverage module)) : (coverage tool module).Leads R := by
  refine (leads_call hcall).bind fun result => ?_
  split
  · exact leads_pure _
  · exact leads_pure _

/-- The loop for a project works with its tool, with the attempts that were asked for, and with the rules
that are known. -/
theorem loopFor_eq_ok {root : Path} {settings : Settings} {maxRetries : Option Nat} {l : Loop σ}
    (h : svc.loopFor root settings maxRetries = .ok l) :
    l.tool = svc.toolFor root settings.tool ∧
      l.budget = maxRetries.getD settings.loop.maxRetries ∧
      l.compileRules = Repair.compileRules ∧ l.executionRules = Repair.executionRules := by
  unfold loopFor Loop.ofBudget at h
  split at h
  · cases h
    exact ⟨rfl, rfl, rfl, rfl⟩
  · cases h

/-- An analysis only reads, whatever comes of it. -/
theorem analyze_leads (r : AnalyzeRequest) : (svc.analyze r).Leads R := by
  refine Leads.bind (Leads.attempt ?_) fun found => ?_
  · exact (settingsFor_leads svc _).bind fun _ => (describe_leads _ _ _ _).bind fun _ =>
      leads_pure _
  · split
    · exact leads_pure _
    · exact leads_pure _

theorem writeAndValidate_leads (r : GenerateRequest) (flavor : Flavor) {testPath : String}
    {settings : Settings} (descriptor : Descriptor)
    (hmake : (makeDirectories (r.root / testPath).parent : Action σ Unit).Leads R)
    (hwrite : AcrossWrite R (r.root / testPath))
    (hcall : AcrossLoop R (svc.toolFor r.root settings.tool) testPath) :
    (svc.writeAndValidate r flavor testPath settings descriptor).Leads R := by
  refine (writeStep_leads flavor descriptor hmake hwrite).bind fun _ => ?_
  split
  · refine leads_ofExcept_bind fun l hl => ?_
    rw [← (svc.loopFor_eq_ok hl).1] at hcall
    exact (l.run_leads _ _ hcall fun _ _ => hwrite).bind fun _ => leads_pure _
  · exact leads_pure _

theorem validateFile_leads (r : ValidateRequest) (hwrite : AcrossWrite R (r.root / r.testPath))
    (hcall : ∀ settings, AcrossLoop R (svc.toolFor r.root settings) r.testPath)
    (hcoverage : ∀ settings module, AcrossCall R (svc.toolFor r.root settings) (.coverage module)) :
    (svc.validateFile r).Leads R := by
  refine (prepare_leads svc r.root).bind fun (settings, loaded) => ?_
  refine leads_ofExcept_bind fun l hl => ?_
  have htool := (svc.loopFor_eq_ok hl).1
  refine (l.run_leads _ _ (htool ▸ hcall _) fun _ _ => hwrite).bind fun o => ?_
  split
  · exact (coverage_leads (htool ▸ hcoverage _ _)).bind fun _ => leads_pure _
  · exact leads_pure _

/-- What holds across making directories, the write and the calls for a test file holds across its
generation, if starting a new report does not break it. -/
theorem generate_leads (flavor : Flavor) (r : GenerateRequest)
    (hclear : (clearReport : Action σ Unit).Leads R)
    (hmake : ∀ testPath, testPathOf r = .ok testPath →
      (makeDirectories (r.root / testPath).parent : Action σ Unit).Leads R)
    (hwrite : ∀ testPath, testPathOf r = .ok testPath → AcrossWrite R (r.root / testPath))
    (hcall : ∀ testPath, testPathOf r = .ok testPath →
      ∀ settings, AcrossLoop R (svc.toolFor r.root settings) testPath) :
    (svc.generate flavor r).Leads R := by
  refine hclear.bind fun _ => leads_ofExcept_bind fun testPath hpath => ?_
  refine (prepare_leads svc r.root).attempt.bind fun prepared => ?_
  split
  · exact cutShort_leads _ _
  · next _ settings loaded =>
    refine (analyzeStep_leads r settings).attempt.bind fun analyzed => ?_
    split
    · exact cutShort_leads _ _
    · next _ descriptor fidelity =>
      refine Leads.bind ?_ fun success => ?_
      · exact (writeAndValidate_leads svc r flavor descriptor (hmake _ hpath) (hwrite _ hpath)
          (hcall _ hpath _)).attempt
      · split
        · exact cutShort_leads _ _
        · exact Leads.bind (fun s => refl s) fun _ => leads_pure _

variable (R) in
/-- A generation breaks no frame until the analysis of the service is completed. From then on it does
what it is concluded with. -/
theorem generate_leads_or_concludes (flavor : Flavor) (r : GenerateRequest) (s : Session σ)
    (hclear : R s { s with report := {} }) :
    R s ((svc.generate flavor r).leaves s) ∨
      ∃ path settings loaded t d fidelity u, testPathOf r = .ok path ∧
        svc.prepare r.root { s with report := {} } = .ok (settings, loaded) t ∧ R s t ∧
        analyzeStep r settings t = .ok (d, fidelity) u ∧ R t u ∧
        svc.generate flavor r s = concluding (svc.writeAndValidate r flavor path settings d)
          (knownOf r path loaded fidelity) u := by
  have hcut {failure : Failure} {known : Envelope} {t : Session σ} (ht : R s t)
      (hgenerate : svc.generate flavor r s = cutShort failure known t) :
      R s ((svc.generate flavor r).leaves s) := by
    rw [leaves, hgenerate]
    exact IsTrans.trans _ _ _ ht (cutShort_leads failure known t)
  cases hpath : testPathOf r with
  | error failure =>
    rw [leaves_of_error (svc.generate_of_no_path flavor hpath)]
    exact .inl hclear
  | ok path =>
  have hprepares : (svc.prepare r.root).Leads R := prepare_leads svc r.root
  cases hprepare : svc.prepare r.root { s with report := {} } with
  | error failure t =>
    exact .inl (hcut (IsTrans.trans _ _ _ hclear (hprepares.of_error hprepare))
      (generate_of_prepare_error flavor r.validates hpath hprepare))
  | ok prepared t =>
  obtain ⟨settings, loaded⟩ := prepared
  have ht : R s t := IsTrans.trans _ _ _ hclear (hprepares.of_ok hprepare)
  have hanalyzes : (analyzeStep r settings : Action σ _).Leads R := analyzeStep_leads r settings
  cases hanalyze : analyzeStep r settings t with
  | error failure u =>
    exact .inl (hcut (IsTrans.trans _ _ _ ht (hanalyzes.of_error hanalyze))
      (generate_of_analyze_error flavor r.validates hpath hprepare hanalyze))
  | ok analyzed u =>
    obtain ⟨d, fidelity⟩ := analyzed
    exact .inr ⟨path, settings, loaded, t, d, fidelity, u, rfl, rfl, ht, hanalyze,
      hanalyzes.of_ok hanalyze, generate_of_analyzed flavor r.validates hpath hprepare hanalyze⟩

/-- What holds across the writes and the calls for a test file holds across its validation. -/
theorem validate_leads (r : ValidateRequest) (hclear : (clearReport : Action σ Unit).Leads R)
    (hwrite : AcrossWrite R (r.root / r.testPath))
    (hcall : ∀ settings, AcrossLoop R (svc.toolFor r.root settings) r.testPath)
    (hcoverage : ∀ settings module, AcrossCall R (svc.toolFor r.root settings) (.coverage module)) :
    (svc.validate r).Leads R := by
  refine hclear.bind fun _ => ?_
  refine (validateFile_leads svc r hwrite hcall hcoverage).attempt.bind fun found => ?_
  split
  · exact cutShort_leads _ _
  · exact Leads.bind (fun s => refl s) fun _ => leads_pure _

end Service

end Frames

/-! ## The journal -/

namespace Session

/-- The journal has become longer, by events of a kind. -/
def Adds (P : Event → Prop) (s t : Session σ) : Prop :=
  ∃ new, t.journal = s.journal ++ new ∧ ∀ e ∈ new, P e

variable {P : Event → Prop} {s t : Session σ}

theorem Adds.of_eq (h : t.journal = s.journal) : s.Adds P t :=
  ⟨[], by rw [h, List.append_nil], fun _ he => absurd he List.not_mem_nil⟩

theorem adds_noting {e : Event} (h : P e) (s : Session σ) : s.Adds P (s.noting e) := by
  refine ⟨[e], rfl, fun other hother => ?_⟩
  rw [List.mem_singleton.1 hother]
  exact h

theorem Adds.isPrefix (h : s.Adds P t) : s.journal <+: t.journal := by
  obtain ⟨new, hnew, -⟩ := h
  exact ⟨new, hnew.symm⟩

instance isPreorder_adds : IsPreorder (Session σ) (Adds P) where
  refl s := Adds.of_eq rfl
  trans s t u := by
    rintro ⟨first, hfirst, hall⟩ ⟨second, hsecond, hall'⟩
    refine ⟨first ++ second, by rw [hsecond, hfirst, List.append_assoc], fun e he => ?_⟩
    rcases List.mem_append.1 he with he | he
    · exact hall e he
    · exact hall' e he

/-- Adding events of a kind is a frame where reading is of that kind. -/
theorem frame_adds (hread : ∀ path, P (.read path)) (hignored : ∀ path cause, P (.ignored path cause)) :
    Frame (Adds P : Session σ → Session σ → Prop) where
  read s path := adds_noting (hread path) s
  ignored s path cause := adds_noting (hignored path cause) s
  standards _ _ := .of_eq rfl
  started _ _ _ := .of_eq rfl
  finished _ _ _ _ _ := .of_eq rfl
  failedOpen _ _ := .of_eq rfl

theorem acrossCall_adds {tool : BuildTool σ} {c : Call}
    (h : ∀ files answer, P (.called c files answer)) : AcrossCall (Adds P) tool c :=
  fun _ => adds_noting (h _ _) _

theorem acrossWrite_adds {file : Path} (h : ∀ text, P (.wrote file text)) :
    AcrossWrite (Adds P : Session σ → Session σ → Prop) file :=
  fun _ _ _ _ => adds_noting (h _) _

instance : Frame (Adds (fun _ => True) : Session σ → Session σ → Prop) :=
  frame_adds (fun _ => trivial) fun _ _ => trivial

end Session

/-- The journal only grows. -/
abbrev Action.Grows (x : Action σ α) : Prop := x.Leads (Adds fun _ => True)

theorem call_grows (tool : BuildTool σ) (c : Call) : (call tool c).Grows :=
  leads_call (acrossCall_adds fun _ _ => trivial)

theorem attempts_grow (stage : Stage) (tool : BuildTool σ) (c : Call) (policy : Repair.Policy)
    (file : Path) (spare : Nat) : (attempts stage (call tool c) policy file spare).Grows :=
  attempts_leads stage (call_grows tool c) (fun _ => acrossWrite_adds fun _ => trivial) spare

theorem retry_grows (stage : Stage) (tool : BuildTool σ) (c : Call) (policy : Repair.Policy)
    (file : Path) (spare : Nat) (result : ToolResult) :
    (retry stage (call tool c) policy file spare result).Grows :=
  retry_leads (attempts_grow stage tool c policy file spare) fun _ => acrossWrite_adds fun _ => trivial

end Testsmith
