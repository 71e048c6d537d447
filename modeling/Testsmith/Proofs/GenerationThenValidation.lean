import Testsmith.Proofs.OperationSteps
import Testsmith.Proofs.ShiftedSteps

/-!
# Generating with validation

Generating a test with validation is generating it without, and then validating what was written. A
failure before the test is written is the same in both. Behind it the validation finds the settings that
are fixed and the standards that generating has loaded (`Standards.ensureLoaded_again`), so it runs the
same loop on the same files, in an empty report instead of behind two finished steps. What the run does,
and how it is cut short, does not depend on these steps but for the numbers of its own
(`Loop.run_behind`, `Report.failOpen_behind`). `generate_then_validate` is the main statement.
-/

namespace Testsmith

variable {σ α : Type}

open Testsmith.Action

/-! ## Standards that are loaded -/

/-- What commutes with every change of the standards leaves them alone. -/
theorem Action.standards_of_commutes {x : Action σ α} (h : ∀ g, x.Commutes (.aside id g))
    {s t : Session σ} {a : α} (hx : x s = .ok a t) : t.standards = s.standards := by
  have hfixed : s.aside id (fun _ => s.standards) = s := rfl
  have ht := congrArg Session.standards ((h fun _ => s.standards).fixed_of_ok hfixed hx)
  exact ht

namespace Standards

variable {shelf : Shelf} {d : Document} {s t u : Session σ} {text other : String} {loaded : Bool}

/-- A document that was asked for is kept, and so is each one that was kept before. -/
theorem cached_of_document (h : document shelf d s = .ok text t) :
    t.standards.get? d = some text ∧
      ∀ e other, s.standards.get? e = some other → t.standards.get? e = some other := by
  cases hcached : s.standards.get? d with
  | some old =>
    rw [document_of_cached hcached] at h
    cases h
    exact ⟨hcached, fun _ _ h => h⟩
  | none =>
    rw [document_of_uncached hcached] at h
    obtain ⟨new, v, hfetch, hrest⟩ := bind_eq_ok h
    have hkept := standards_of_commutes (fun _ => fetch_commutes shelf d) hfetch
    cases hrest
    refine ⟨Cache.get?_put_self _ _ _, fun e other he => ?_⟩
    have hne : e ≠ d := by
      rintro rfl
      rw [hcached] at he
      cases he
    show (v.standards.put d text).get? e = some other
    rw [Cache.get?_put_of_ne _ hne, hkept, he]

/-- Where the first document is empty, the second one is not asked for. -/
theorem ensureLoaded_of_empty (h : s.standards.get? .testStandards = some "") :
    ensureLoaded shelf s = .ok false s :=
  bind_of_ok (document_of_cached h)

theorem ensureLoaded_of_kept (h : s.standards.get? .testStandards = some text) (hne : text ≠ "")
    (h' : s.standards.get? .validationLoop = some other) :
    ensureLoaded shelf s = .ok (other ≠ "") s := by
  unfold ensureLoaded
  rw [bind_of_ok (document_of_cached h), if_neg hne, bind_of_ok (document_of_cached h')]
  rfl

/-- After loading, the first document is kept, and the second one too unless the first one is empty. -/
theorem kept_of_loaded (h : ensureLoaded shelf s = .ok loaded t) :
    ∃ text, t.standards.get? .testStandards = some text ∧
      (text = "" ∧ loaded = false ∨
        text ≠ "" ∧ ∃ other, t.standards.get? .validationLoop = some other ∧
          loaded = decide (other ≠ "")) := by
  obtain ⟨text, v, hfirst, hrest⟩ := bind_eq_ok h
  have hkept := (cached_of_document hfirst).1
  by_cases hempty : text = ""
  · rw [if_pos hempty] at hrest
    cases hrest
    exact ⟨text, hkept, .inl ⟨hempty, rfl⟩⟩
  · rw [if_neg hempty] at hrest
    obtain ⟨other, w, hsecond, hpure⟩ := bind_eq_ok hrest
    cases hpure
    obtain ⟨hkept', hkeeps⟩ := cached_of_document hsecond
    exact ⟨text, hkeeps _ _ hkept, .inr ⟨hempty, other, hkept', rfl⟩⟩

/-- What was loaded once is loaded again from what is kept, whatever has become of the files. -/
theorem ensureLoaded_again (h : ensureLoaded shelf s = .ok loaded t)
    (hkept : u.standards = t.standards) : ensureLoaded shelf u = .ok loaded u := by
  obtain ⟨text, hfirst, hloaded⟩ := kept_of_loaded h
  rw [← hkept] at hfirst hloaded
  rcases hloaded with ⟨rfl, rfl⟩ | ⟨hne, other, hsecond, rfl⟩
  · exact ensureLoaded_of_empty hfirst
  · exact ensureLoaded_of_kept hfirst hne hsecond

end Standards

/-! ## The parts of an operation -/

/-- The request with or without validation. -/
def GenerateRequest.validating (r : GenerateRequest) (validates : Bool) : GenerateRequest :=
  { r with validates }

@[simp] theorem GenerateRequest.validating_root (r : GenerateRequest) (b : Bool) :
    (r.validating b).root = r.root := rfl

namespace Service

variable (svc : Service σ)

/-- The service with settings that are fixed. -/
def fixing (settings : Settings) : Service σ := { svc with settings := some settings }

/-- The end of an operation: the reply that an action's success or failure leads to. -/
def concluding (x : Action σ Bool) (known : Envelope) : Action σ Reply := do
  match ← Action.attempt x with
  | .error failure => cutShort failure known
  | .ok success =>
    return { envelope := { known with success, steps := some (← get).report.steps } }

/-- The validation of a test file that was written: the loop, and whether it was successful. -/
def validation (root : Path) (testPath : String) (settings : Settings) (maxRetries : Option Nat) :
    Action σ Bool := do
  let loop ← Action.ofExcept (svc.loopFor root settings maxRetries)
  return (← loop.run root testPath).success

/-- The report with the step of writing, which has just started. -/
def reportWriting (flavor : Flavor) (r : Report) : Report :=
  r.start "generate_test_code" s!"Generating {flavor.name} test code"

/-- The report with the step of writing, which is completed. -/
def reportWritten (flavor : Flavor) (testPath : String) (descriptor : Descriptor) (r : Report) : Report :=
  ⟨r.steps ++ [Step.complete (some (.obj
    [("test_file", .str testPath), ("test_methods_generated", .int (Scaffold.caseCount descriptor))])) none
    { number := r.steps.length + 1, name := "generate_test_code",
      message := s!"Generating {flavor.name} test code" }]⟩

/-- What is known of a generation before its test is written. -/
def knownOf (r : GenerateRequest) (testPath : String) (loaded : Bool) (fidelity : Fidelity) :
    Envelope :=
  { success := false, servicePath := r.servicePath, testPath, standardsLoaded := some loaded,
    fidelity := some fidelity }

section Parts

variable {svc} {flavor : Flavor} {r : GenerateRequest} {path : String} {settings : Settings}
  {loaded : Bool} {descriptor : Descriptor} {fidelity : Fidelity} {s t u v : Session σ}
  {failure : Failure} {success : Bool} {known : Envelope}

theorem testPathOf_validating (b : Bool) : testPathOf (r.validating b) = testPathOf r := by
  simp only [testPathOf, GenerateRequest.validating]

theorem analyzeStep_validating (b : Bool) (s : Session σ) :
    analyzeStep (r.validating b) settings s = analyzeStep r settings s := rfl

theorem clearReport_eq (s : Session σ) : (clearReport : Action σ Unit) s =
    .ok () { s with report := {} } := rfl

theorem cutShort_eq (failure : Failure) (known : Envelope) (s : Session σ) :
    cutShort failure known s =
      .ok (.ofFailure failure { known with steps := some (s.report.failOpen failure.message).steps })
        { s with report := s.report.failOpen failure.message } := rfl

/-- An operation that is cut short is not successful. -/
theorem cutShort_fails (failure : Failure) (known : Envelope) (s : Session σ) :
    ∃ a t, cutShort failure known s = .ok a t ∧ a.envelope.success = false :=
  ⟨_, _, cutShort_eq failure known s, rfl⟩

theorem concluding_of_ok {x : Action σ Bool} (h : x s = .ok success t) :
    concluding x known s =
      .ok { envelope := { known with success, steps := some t.report.steps } } t := by
  unfold concluding
  rw [bind_of_ok (attempt_of_ok h)]
  rfl

theorem concluding_of_error {x : Action σ Bool} (h : x s = .error failure t) :
    concluding x known s = cutShort failure known t := by
  unfold concluding
  rw [bind_of_ok (attempt_of_error h)]

/-- What an operation is concluded with is all that an action comes to. -/
theorem concluding_congr {x y : Action σ Bool} (h : x s = y t) :
    concluding x known s = concluding y known t := by
  cases hy : y t with
  | ok success u => rw [concluding_of_ok hy, concluding_of_ok (h.trans hy)]
  | error failure u => rw [concluding_of_error hy, concluding_of_error (h.trans hy)]

theorem generate_of_prepare_error (flavor : Flavor) (b : Bool)
    (hpath : testPathOf r = .ok path)
    (hprepare : svc.prepare r.root { s with report := {} } = .error failure t) :
    svc.generate flavor (r.validating b) s = cutShort failure
      { success := false, servicePath := r.servicePath, testPath := path } t := by
  rw [← testPathOf_validating b] at hpath
  unfold generate
  rw [bind_of_ok (clearReport_eq s), bind_of_ok (ofExcept_of_ok hpath _),
    GenerateRequest.validating_root, bind_of_ok (attempt_of_error hprepare)]
  rfl

theorem generate_of_analyze_error (flavor : Flavor) (b : Bool)
    (hpath : testPathOf r = .ok path)
    (hprepare : svc.prepare r.root { s with report := {} } = .ok (settings, loaded) t)
    (hanalyze : analyzeStep r settings t = .error failure u) :
    svc.generate flavor (r.validating b) s = cutShort failure
      { success := false, servicePath := r.servicePath, testPath := path,
        standardsLoaded := some loaded } u := by
  rw [← testPathOf_validating b] at hpath
  rw [← analyzeStep_validating b] at hanalyze
  unfold generate
  rw [bind_of_ok (clearReport_eq s), bind_of_ok (ofExcept_of_ok hpath _),
    GenerateRequest.validating_root, bind_of_ok (attempt_of_ok hprepare)]
  dsimp only
  rw [bind_of_ok (attempt_of_error hanalyze)]
  rfl

theorem generate_of_analyzed (flavor : Flavor) (b : Bool)
    (hpath : testPathOf r = .ok path)
    (hprepare : svc.prepare r.root { s with report := {} } = .ok (settings, loaded) t)
    (hanalyze : analyzeStep r settings t = .ok (descriptor, fidelity) u) :
    svc.generate flavor (r.validating b) s =
      concluding (svc.writeAndValidate (r.validating b) flavor path settings descriptor)
        (knownOf r path loaded fidelity) u := by
  rw [← testPathOf_validating b] at hpath
  rw [← analyzeStep_validating b] at hanalyze
  unfold generate
  rw [bind_of_ok (clearReport_eq s), bind_of_ok (ofExcept_of_ok hpath _),
    GenerateRequest.validating_root, bind_of_ok (attempt_of_ok hprepare)]
  dsimp only
  rw [bind_of_ok (attempt_of_ok hanalyze)]
  rfl

theorem startStep_writing (flavor : Flavor) (s : Session σ) :
    startStep "generate_test_code" s!"Generating {flavor.name} test code" s =
      .ok s.report.length { s with report := reportWriting flavor s.report } :=
  startStep_apply _ _ s

/-- A document is written where there is a directory for it, or where one can be made. -/
theorem writeStep_of_made {root : Path} {made files : FileTree}
    (hmake : s.files.makeDirectories s.workingDirectory (root / path).parent = (.ok (), made))
    (hwrite : made.write s.workingDirectory (root / path)
      (Scaffold.text flavor descriptor).toUTF8 = .ok files) :
    ∃ t, writeStep root path flavor descriptor s = .ok () t ∧ t.files = files ∧
      t.workingDirectory = s.workingDirectory ∧ t.standards = s.standards ∧
      t.report = reportWritten flavor path descriptor s.report := by
  have hmakes := makeDirectories_of_ok (s := { s with report := reportWriting flavor s.report }) hmake
  have hwrites := writeText_of_ok
    (s := { s with report := reportWriting flavor s.report, files := made }) hwrite
  unfold writeStep
  rw [bind_of_ok (startStep_writing flavor s), bind_of_ok hmakes, bind_of_ok hwrites]
  exact ⟨_, finishStep_of_ok (Report.finish_start ..), rfl, rfl, rfl, rfl⟩

theorem writeAndValidate_of_error (b : Bool)
    (hwrite : writeStep r.root path flavor descriptor s = .error failure t) :
    svc.writeAndValidate (r.validating b) flavor path settings descriptor s = .error failure t := by
  unfold writeAndValidate
  exact bind_of_error hwrite

theorem writeAndValidate_of_ok (b : Bool)
    (hwrite : writeStep r.root path flavor descriptor s = .ok () t) :
    svc.writeAndValidate (r.validating b) flavor path settings descriptor s =
      if b then svc.validation r.root path settings r.maxRetries t else .ok true t := by
  unfold writeAndValidate
  rw [GenerateRequest.validating_root, bind_of_ok hwrite]
  cases b <;> rfl

/-- With settings that are fixed, preparing again gives the same and changes nothing. -/
theorem prepare_again {root : Path} {found : Settings}
    (h : (svc.fixing settings).prepare root s = .ok (found, loaded) t)
    (hkept : u.standards = t.standards) :
    (svc.fixing settings).prepare root u = .ok (found, loaded) u := by
  have hprepare (v : Session σ) : (svc.fixing settings).prepare root v =
      (Standards.ensureLoaded svc.shelf >>= fun loaded => pure (settings, loaded)) v := rfl
  rw [hprepare] at h
  obtain ⟨_, v, hloaded, hpure⟩ := bind_eq_ok h
  cases hpure
  rw [hprepare, bind_of_ok (Standards.ensureLoaded_again hloaded hkept)]
  rfl

theorem validateFile_of_ok {root : Path} {maxRetries : Option Nat}
    (hprepare : svc.prepare root s = .ok (settings, loaded) s)
    (h : svc.validation root path settings maxRetries s = .ok success t) :
    svc.validateFile { root, testPath := path, maxRetries, wantsCoverage := false } s =
      .ok (loaded, success, none) t := by
  obtain ⟨loop, u, hloop, hrun⟩ := bind_eq_ok h
  obtain ⟨o, v, ho, hpure⟩ := bind_eq_ok hrun
  cases hpure
  unfold validateFile
  rw [bind_of_ok hprepare]
  dsimp only
  rw [bind_of_ok hloop, bind_of_ok ho, if_neg (by simp)]
  rfl

theorem validateFile_of_error {root : Path} {maxRetries : Option Nat}
    (hprepare : svc.prepare root s = .ok (settings, loaded) s)
    (h : svc.validation root path settings maxRetries s = .error failure t) :
    svc.validateFile { root, testPath := path, maxRetries, wantsCoverage := false } s =
      .error failure t := by
  unfold validateFile
  rw [bind_of_ok hprepare]
  dsimp only
  rcases bind_eq_error h with hloop | ⟨loop, u, hloop, hrun⟩
  · exact bind_of_error hloop
  rw [bind_of_ok hloop]
  rcases bind_eq_error hrun with ho | ⟨o, v, -, hpure⟩
  · exact bind_of_error ho
  · cases hpure

theorem validate_of_ok {r : ValidateRequest} {coverage : Option Coverage}
    (h : svc.validateFile r { s with report := {} } = .ok (loaded, success, coverage) t) :
    svc.validate r s = .ok
      { envelope :=
          { success, testPath := r.testPath, standardsLoaded := some loaded,
            steps := some t.report.steps, coverage } } t := by
  unfold validate
  rw [bind_of_ok (clearReport_eq s), bind_of_ok (attempt_of_ok h)]
  rfl

theorem validate_of_error {r : ValidateRequest}
    (h : svc.validateFile r { s with report := {} } = .error failure t) :
    svc.validate r s = cutShort failure { success := false, testPath := r.testPath } t := by
  unfold validate
  rw [bind_of_ok (clearReport_eq s), bind_of_ok (attempt_of_error h)]

end Parts

/-- The validation of a test file does behind other steps what it does without them. -/
theorem validation_behind (before : List Step) (root : Path) (testPath : String)
    (settings : Settings) (maxRetries : Option Nat) :
    (svc.validation root testPath settings maxRetries).Commutes (Session.behind before) :=
  (commutes_ofExcept _).bind fun loop =>
    (Loop.run_behind loop before _ _).bind fun _ => commutes_pure _

end Service

/-! ## Generation, then validation -/

/-- The reply of a generation with validation, beside the reply of the generation without it and the
reply of validating what that has written. -/
structure Reply.Sequel (generated validated reply : Reply) : Prop where
  success_eq : reply.envelope.success = validated.envelope.success
  error_eq : reply.envelope.error = validated.envelope.error
  cause_eq : reply.cause = validated.cause
  steps_eq : ∃ before after, generated.envelope.steps = some before ∧
    validated.envelope.steps = some after ∧
    reply.envelope.steps = some (before ++ after.map (Step.shifted 2))

namespace Service

variable (svc : Service σ) {flavor : Flavor} {r : GenerateRequest} {path : String}
  {settings : Settings} {loaded : Bool} {s : Session σ} {known : Envelope}

/-- Behind two finished steps, validating a test file ends as it does on its own. -/
theorem exists_sequel (path : String) (maxRetries : Option Nat) (generated : Reply) {root : Path}
    (hprepare : svc.prepare root { s with report := {} } =
      .ok (settings, loaded) { s with report := {} })
    (hsteps : generated.envelope.steps = some s.report.steps) (hlen : s.report.length = 2)
    (hclosed : ∀ step ∈ s.report.steps, step.isOpen = false) (hknown : known.error = none) :
    ∃ v w e u, svc.validate { root, testPath := path, maxRetries, wantsCoverage := false } s = .ok v w ∧
      concluding (svc.validation root path settings maxRetries) known s = .ok e u ∧
      generated.Sequel v e ∧ u = { w with report := u.report } := by
  have hvalidation := svc.validation_behind s.report.steps root path settings maxRetries
    { s with report := {} }
  rw [Session.behind_self] at hvalidation
  cases h : svc.validation root path settings maxRetries { s with report := {} } with
  | ok success t =>
    rw [h] at hvalidation
    refine ⟨_, _, _, _, validate_of_ok (validateFile_of_ok hprepare h), concluding_of_ok hvalidation,
      ⟨rfl, hknown, rfl, _, _, hsteps, rfl, ?_⟩, rfl⟩
    rw [← hlen]
    rfl
  | error failure t =>
    rw [h] at hvalidation
    refine ⟨_, _, _, _, validate_of_error (validateFile_of_error hprepare h),
      concluding_of_error hvalidation, ⟨rfl, rfl, rfl, _, _, hsteps, rfl, ?_⟩, rfl⟩
    rw [← hlen]
    exact congrArg (fun r => some r.steps) (Report.failOpen_behind _ t.report hclosed _)

/-- After a test was written two steps are finished. -/
theorem standing_of_written {t u : Session σ} {descriptor : Descriptor} {fidelity : Fidelity}
    (hs : s.report.Standing [] none) (hanalyze : analyzeStep r settings s = .ok (descriptor, fidelity) t)
    (hwrite : writeStep r.root path flavor descriptor t = .ok () u) :
    u.report.Standing writingPlan none := by
  have hplan : [] ++ ["analyze_service"] <+: writingPlan := ⟨["generate_test_code"], rfl⟩
  have ht := (analyzeStep_ends r settings hs hplan).of_ok hanalyze
  exact (writeStep_ends _ _ _ _ ht (List.prefix_refl writingPlan)).of_ok hwrite

variable (r s) in
/-- Up to where its test is written, a generation does not see whether it is going to validate. -/
theorem generate_validating (flavor : Flavor) :
    (∃ x, (∀ b, svc.generate flavor (r.validating b) s = x) ∧
      ((∃ failure t, x = .error failure t) ∨ ∃ a t, x = .ok a t ∧ a.envelope.success = false)) ∨
    ∃ path found loaded known t u,
      svc.prepare r.root { s with report := {} } = .ok (found, loaded) t ∧
      known.testPath = some path ∧ known.error = none ∧
      u.standards = t.standards ∧ u.report.Standing writingPlan none ∧
      svc.generate flavor (r.validating false) s =
        .ok { envelope := { known with success := true, steps := some u.report.steps } } u ∧
      svc.generate flavor (r.validating true) s =
        concluding (svc.validation r.root path found r.maxRetries) known u := by
  -- The request is asked whether to validate only behind these four, so a failure of one is for both.
  cases hpath : testPathOf r with
  | error failure =>
    have hgenerate (b : Bool) := svc.generate_of_no_path (s := s) flavor
      ((testPathOf_validating b).trans hpath)
    exact .inl ⟨_, hgenerate, .inl ⟨_, _, rfl⟩⟩
  | ok path =>
  cases hprepare : svc.prepare r.root { s with report := {} } with
  | error failure t =>
    have hgenerate (b : Bool) := generate_of_prepare_error flavor b hpath hprepare
    exact .inl ⟨_, hgenerate, .inr (cutShort_fails _ _ _)⟩
  | ok prepared t =>
  obtain ⟨found, loaded⟩ := prepared
  cases hanalyze : analyzeStep r found t with
  | error failure u =>
    have hgenerate (b : Bool) :=
      generate_of_analyze_error flavor b hpath hprepare hanalyze
    exact .inl ⟨_, hgenerate, .inr (cutShort_fails _ _ _)⟩
  | ok analyzed u =>
  obtain ⟨descriptor, fidelity⟩ := analyzed
  have hgenerate (b : Bool) := generate_of_analyzed flavor b hpath hprepare hanalyze
  cases hwrite : writeStep r.root path flavor descriptor u with
  | error failure v =>
    have hwritten (b : Bool) := (hgenerate b).trans
      (concluding_of_error (writeAndValidate_of_error b hwrite))
    exact .inl ⟨_, hwritten, .inr (cutShort_fails _ _ _)⟩
  | ok _ v =>
    refine .inr ⟨path, found, loaded, knownOf r path loaded fidelity, t, v, rfl, rfl, rfl, ?_, ?_, ?_,
      ?_⟩
    · exact (standards_of_commutes (fun _ => writeStep_commutes _ _ _ _) hwrite).trans
        (standards_of_commutes (fun _ => analyzeStep_commutes _ _) hanalyze)
    · have ht : t.report.Standing [] none := by
        rw [((prepare_keepsReport svc r.root).ends (E := fun _ => True) trivial).of_ok hprepare]
        exact Report.standing_empty
      exact standing_of_written ht hanalyze hwrite
    · exact (hgenerate false).trans (concluding_of_ok (writeAndValidate_of_ok false hwrite))
    · exact (hgenerate true).trans (concluding_congr (writeAndValidate_of_ok true hwrite))

end Service

/-- **Generating with validation is generating and then validating**: with settings that are fixed, and
whatever the request, the files and the build tool are, either generating fails, and it does so in the
same way with validation and without; or it is successful without, and generating with validation ends
as validating the written test does, in its success, its error and its cause. Its steps are those of
generating, followed by those of validating behind them, and it leaves the same files, the same build
tool and the same journal of calls. -/
theorem generate_then_validate (svc : Service σ) (settings : Settings) (flavor : Flavor)
    (r : GenerateRequest) (s : Session σ) :
    ((svc.fixing settings).generate flavor (r.validating true) s =
        (svc.fixing settings).generate flavor (r.validating false) s ∧
      ((∃ failure t, (svc.fixing settings).generate flavor (r.validating false) s =
          .error failure t) ∨
        ∃ a t, (svc.fixing settings).generate flavor (r.validating false) s = .ok a t ∧
          a.envelope.success = false)) ∨
    ∃ a t path v w e u,
      (svc.fixing settings).generate flavor (r.validating false) s = .ok a t ∧
      a.envelope.success = true ∧ a.envelope.testPath = some path ∧
      (svc.fixing settings).validate
        { root := r.root, testPath := path, maxRetries := r.maxRetries, wantsCoverage := false } t =
          .ok v w ∧
      (svc.fixing settings).generate flavor (r.validating true) s = .ok e u ∧
      a.Sequel v e ∧ u = { w with report := u.report } := by
  rcases (svc.fixing settings).generate_validating r s flavor with
    ⟨x, hgenerate, hfails⟩ |
    ⟨path, found, loaded, known, t, u, hprepare, hpath, herror, hkept, hstanding, hplain, hvalidating⟩
  · rw [hgenerate true, hgenerate false]
    exact .inl ⟨rfl, hfails⟩
  · have hagain := Service.prepare_again (u := { u with report := {} }) hprepare hkept
    have hclosed (step : Step) (hstep : step ∈ u.report.steps) : step.isOpen = false := by
      simp [Step.isOpen, Report.status_of_rows hstanding.rows_eq step hstep]
    obtain ⟨v, w, e, x, hvalidate, hconclude, hsequel, hsame⟩ :=
      (svc.fixing settings).exists_sequel path r.maxRetries
        { envelope := { known with success := true, steps := some u.report.steps } } hagain rfl
        hstanding.length_eq hclosed herror
    exact .inr ⟨_, u, path, v, w, e, x, hplain, rfl, hpath, hvalidate,
      hvalidating.trans hconclude, hsequel, hsame⟩

end Testsmith
