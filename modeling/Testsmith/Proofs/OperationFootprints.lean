import Testsmith.Proofs.Footprints

/-!
# Footprints of operations

Which files a dispatched call can change. An analysis changes none. A generation changes none before the
analysis of the service is completed, and since finished steps stay finished (`Session.FinishedStay`),
its reply says so. What a validation changes is provoked by a failed compilation. `dispatch_keeps_files` is
the main statement.
-/

namespace Testsmith

variable {σ α : Type}

open Session Testsmith.Action

/-! ## Validation -/

namespace Service

variable {svc : Service σ}

variable (svc) in
/-- A file has changed only where a compilation has failed in between, before the last attempt that the
request or else the settings permit, with a failure that a rule knows. -/
def ChangesProvoked (r : ValidateRequest) (s t : Session σ) : Prop :=
  s.SameFiles t ∨ ∃ settings loaded u,
    svc.prepare r.root { s with report := {} } = .ok (settings, loaded) u ∧
      KnownFailure Repair.compileRules (r.maxRetries.getD settings.loop.maxRetries)
        (s.compiledSince t)

theorem changesProvoked_of_prepared {r : ValidateRequest} {s t u : Session σ} {settings : Settings}
    {loaded : Bool} (h : svc.prepare r.root { s with report := {} } = .ok (settings, loaded) u)
    (hrest : u.Provoked Repair.compileRules (r.maxRetries.getD settings.loop.maxRetries) t) :
    svc.ChangesProvoked r s t := by
  have hprepare : (svc.prepare r.root).Leads Quiet := prepare_leads svc r.root
  exact ((hprepare.of_ok h).trans_provoked hrest).files.imp id
    fun hknown => ⟨settings, loaded, u, h, hknown⟩

theorem validateFile_provoked (htool : ∀ root settings, (svc.toolFor root settings).WritesNoFile)
    (r : ValidateRequest) (s : Session σ) :
    svc.ChangesProvoked r s ((svc.validateFile r).leaves { s with report := {} }) := by
  unfold validateFile
  cases h : svc.prepare r.root { s with report := {} } with
  | error failure t =>
    have hprepare : (svc.prepare r.root).Leads Quiet := prepare_leads svc r.root
    rw [leaves_bind_of_error h]
    exact .inl (hprepare.of_error h).files
  | ok prepared u =>
    obtain ⟨settings, loaded⟩ := prepared
    rw [leaves_bind_of_ok h]
    refine changesProvoked_of_prepared h (leads_ofExcept_bind (fun l hl => ?_) u)
    obtain ⟨htools, hbudget, hcompile, hexecute⟩ := svc.loopFor_eq_ok hl
    have hwrites : l.tool.WritesNoFile := htools ▸ htool _ _
    rw [← hbudget, ← hcompile]
    refine (l.run_provoked hwrites hexecute _ _).bind_quiet fun o => ?_
    split
    · refine (coverage_leads (R := Quiet) ?_).bind fun _ => leads_pure _
      exact acrossCall_unwritten hwrites fun _ _ => rfl
    · exact leads_pure _

theorem validate_provoked (htool : ∀ root settings, (svc.toolFor root settings).WritesNoFile)
    (r : ValidateRequest) : (svc.validate r).Leads (svc.ChangesProvoked r) := by
  intro s
  have hfile := validateFile_provoked htool r s
  cases h : svc.validateFile r { s with report := {} } with
  | ok found t =>
    obtain ⟨loaded, success, coverage⟩ := found
    rw [leaves_of_ok h] at hfile
    rw [leaves_of_ok (validate_of_ok h)]
    exact hfile
  | error failure t =>
    rw [leaves_of_error h] at hfile
    have hclosed := validate_of_error h
    rw [leaves, hclosed]
    exact hfile

end Service

/-! ## Finished steps -/

namespace Report

variable {r r' : Report} {i : Nat} {step : Step}

theorem steps_finish_of_closed {j : Nat} {how : Step → Step} (h : r.finish j how = .ok r')
    (hi : r.steps[i]? = some step) (hclosed : step.isOpen = false) : r'.steps[i]? = some step := by
  by_cases hij : j = i
  · subst hij
    rw [finish_of_finished how hi hclosed] at h
    cases h
  · rw [steps_finish_of_ne h hij, hi]

theorem steps_failOpen_of_closed (error : String) (hi : r.steps[i]? = some step)
    (hclosed : step.isOpen = false) : (r.failOpen error).steps[i]? = some step := by
  obtain ⟨steps⟩ := r
  rcases List.eq_nil_or_concat steps with rfl | ⟨front, last, rfl⟩
  · cases hi
  · rw [List.concat_eq_append] at hi ⊢
    rw [failOpen_concat]
    rcases Nat.lt_or_ge i front.length with hlt | hge
    · rw [List.getElem?_append_left hlt] at hi ⊢
      exact hi
    · rw [List.getElem?_append_right hge] at hi ⊢
      obtain ⟨hzero, rfl⟩ := List.getElem?_eq_some_iff.1 hi
      have hi : i - front.length = 0 := by simpa using hzero
      simp only [hi, List.getElem_cons_zero] at hclosed ⊢
      rw [if_neg (by simp [hclosed])]
      rfl

end Report

/-- Steps that were finished stay as they were. -/
def Session.FinishedStay (s t : Session σ) : Prop :=
  ∀ (i : Nat) (step : Step), s.report.steps[i]? = some step → step.isOpen = false →
    t.report.steps[i]? = some step

instance frame_finishedStay : Frame (FinishedStay : Session σ → Session σ → Prop) where
  refl _ _ _ h _ := h
  trans _ _ _ h h' i step hi hclosed := h' i step (h i step hi hclosed) hclosed
  read _ _ _ _ h _ := h
  ignored _ _ _ _ _ h _ := h
  standards _ _ _ _ h _ := h
  started s name message i step hi _ := by
    rw [Report.steps_start_of_lt _ _ _ (List.getElem?_eq_some_iff.1 hi).1, hi]
  finished _ _ _ _ h _ _ hi hclosed := Report.steps_finish_of_closed h hi hclosed
  failedOpen _ error _ _ hi hclosed := Report.steps_failOpen_of_closed error hi hclosed

/-! ## Generation -/

/-- The reply of a generation whose first step, the analysis of the service, is completed. -/
def Reply.Analyzed (reply : Reply) : Prop :=
  ∃ step later, reply.envelope.steps = some (step :: later) ∧ step.name = "analyze_service" ∧
    step.status = .completed

namespace Service

variable {svc : Service σ} {known : Envelope} {s : Session σ}

variable (known) in
/-- What an operation is concluded with does not undo its first step. -/
theorem concluding_analyzed {x : Action σ Bool} (hx : x.Leads FinishedStay) {step : Step}
    (hstep : s.report.steps[0]? = some step) (hname : step.name = "analyze_service")
    (hstatus : step.status = .completed) :
    ∃ reply t, concluding x known s = .ok reply t ∧ reply.Analyzed := by
  have hclosed : step.isOpen = false := by simp [Step.isOpen, hstatus]
  have hfirst {t : Session σ} (h : s.FinishedStay t) : ∃ later, t.report.steps = step :: later := by
    obtain ⟨later, hlater⟩ := List.head?_eq_some_iff.1 (List.head?_eq_getElem? ▸ h 0 step hstep hclosed)
    exact ⟨later, hlater⟩
  cases h : x s with
  | ok success t =>
    obtain ⟨later, hlater⟩ := hfirst (hx.of_ok h)
    exact ⟨_, _, concluding_of_ok h, step, later, congrArg some hlater, hname, hstatus⟩
  | error failure t =>
    have hcut := IsTrans.trans _ _ _ (hx.of_error h) (Frame.failedOpen t failure.message)
    obtain ⟨later, hlater⟩ := hfirst hcut
    exact ⟨_, _, concluding_of_error h, step, later, congrArg some hlater, hname, hstatus⟩

variable (svc) in
theorem writeAndValidate_finishedStay (r : GenerateRequest) (flavor : Flavor) (testPath : String)
    (settings : Settings) (descriptor : Descriptor) :
    (svc.writeAndValidate r flavor testPath settings descriptor).Leads FinishedStay :=
  writeAndValidate_leads svc r flavor descriptor
    (leads_makeDirectories fun _ _ _ h _ => h) (fun _ _ _ _ _ _ h _ => h)
    ⟨fun _ _ _ _ h _ => h, fun _ _ _ _ h _ => h⟩

/-- After an analysis its step is the first one, and completed. -/
theorem first_of_analyzed {r : GenerateRequest} {settings : Settings} {found : Descriptor × Fidelity}
    {t : Session σ} (hs : s.report.Standing [] none)
    (h : analyzeStep r settings s = .ok found t) :
    ∃ step, t.report.steps[0]? = some step ∧ step.name = "analyze_service" ∧
      step.status = .completed := by
  have hstanding := (analyzeStep_ends r settings hs (List.prefix_refl _)).of_ok h
  obtain ⟨step, hstep, hrow⟩ := List.map_eq_singleton_iff.1 hstanding.rows_eq
  simp only [Step.row, Prod.mk.injEq] at hrow
  exact ⟨step, by rw [hstep]; rfl, hrow.2⟩

/-- A generation leaves files and directories alone, or has a reply that says that the service was
analysed. -/
theorem generate_analyzed (flavor : Flavor) (r : GenerateRequest) (s : Session σ) :
    s.SameTree ((svc.generate flavor r).leaves s) ∨
      ∃ path reply t, testPathOf r = .ok path ∧ svc.generate flavor r s = .ok reply t ∧
        reply.Analyzed := by
  rcases svc.generate_leads_or_concludes SameTree flavor r s rfl with
    hsame | ⟨path, settings, loaded, t, d, fidelity, u, hpath, hprepare, -, hanalyze, -, hgenerate⟩
  · exact .inl hsame
  · have hstanding : t.report.Standing [] none := by
      rw [((prepare_keepsReport svc r.root).ends (E := fun _ => True) trivial).of_ok hprepare]
      exact Report.standing_empty
    obtain ⟨step, hstep, hname, hstatus⟩ := first_of_analyzed hstanding hanalyze
    obtain ⟨reply, v, hreply, hanalyzed⟩ := concluding_analyzed (knownOf r path loaded fidelity)
      (writeAndValidate_finishedStay svc r flavor path settings d) hstep hname hstatus
    exact .inr ⟨path, reply, v, hpath, hgenerate.trans hreply, hanalyzed⟩

/-! ## Dispatched calls -/

theorem generate_sameFilesBut (htool : ∀ root settings, (svc.toolFor root settings).WritesNoFile)
    (flavor : Flavor) {r : GenerateRequest} {path : String} (hpath : testPathOf r = .ok path) :
    (svc.generate flavor r).Leads (SameFilesBut (r.root / path)) := by
  have hsame {other : String} (h : testPathOf r = .ok other) : other = path := by
    rw [hpath] at h
    exact (Except.ok.inj h).symm
  refine generate_leads svc flavor r (fun _ => ⟨rfl, fun _ _ => rfl⟩) ?_ ?_ ?_
  · exact fun _ _ => makeDirectories_sameFilesBut _
  · exact fun other h => hsame h ▸ acrossWrite_sameFilesBut
  · exact fun _ _ settings => ⟨fun _ => acrossCall_sameFilesBut (htool _ _) _,
      fun _ => acrossCall_sameFilesBut (htool _ _) _⟩

theorem validate_sameFilesBut (htool : ∀ root settings, (svc.toolFor root settings).WritesNoFile)
    (r : ValidateRequest) : (svc.validate r).Leads (SameFilesBut (r.root / r.testPath)) :=
  validate_leads svc r (fun _ => ⟨rfl, fun _ _ => rfl⟩) acrossWrite_sameFilesBut
    (fun _ => ⟨fun _ => acrossCall_sameFilesBut (htool _ _) _,
      fun _ => acrossCall_sameFilesBut (htool _ _) _⟩)
    fun _ _ => acrossCall_sameFilesBut (htool _ _) _

/-- What callers get of an action: its reply, or one that tells of its failure. -/
def answering (x : Action σ Reply) (s : Session σ) : Reply × Session σ :=
  match x s with
  | .ok reply t => (reply, t)
  | .error failure t => (.ofFailure failure { success := false }, t)

theorem answering_of_ok {x : Action σ Reply} {reply : Reply} {t : Session σ}
    (h : x s = .ok reply t) : answering x s = (reply, t) := by
  unfold answering
  rw [h]

theorem answering_snd (x : Action σ Reply) (s : Session σ) : (answering x s).2 = x.leaves s := by
  unfold answering leaves
  cases x s <;> rfl

variable {name : String} {arguments : Json}

theorem dispatch_of_some {op : Operation} (h : Operation.ofName? name = some op) (s : Session σ) :
    svc.dispatch name arguments s = answering (svc.perform arguments op) s := by
  simp only [dispatch, h]
  rfl

theorem dispatch_of_none (h : Operation.ofName? name = none) (s : Session σ) :
    (svc.dispatch name arguments s).2 = s := by
  unfold dispatch
  rw [h]
  rfl

end Service

/-- Some arguments read as a request for an operation. -/
def Operation.Accepts (arguments : Json) : Operation → Prop
  | .generate _ => ∃ r, Request.readGenerate arguments = .ok r
  | .validate => ∃ r, Request.readValidate arguments = .ok r
  | .analyze => ∃ r, Request.readAnalyze arguments = .ok r

namespace Service

variable {svc : Service σ} {arguments : Json}

theorem request_of_refused {record_ : String} {checked : Schema.Checked α}
    (h : ¬ ∃ r, checked = .ok r) : ∃ failure, request record_ checked = .error failure := by
  cases checked with
  | ok r => exact absurd ⟨r, rfl⟩ h
  | failed issues => exact ⟨_, rfl⟩

/-- Arguments that do not read as a request are refused, and nothing else happens. -/
theorem perform_of_refused {op : Operation} (h : ¬ op.Accepts arguments) (s : Session σ) :
    (svc.perform arguments op).leaves s = s := by
  cases op with
  | generate flavor | validate | analyze =>
    obtain ⟨failure, hrefused⟩ := request_of_refused h
    unfold perform
    rw [leaves_bind_of_error (ofExcept_of_error hrefused s)]

theorem perform_analyze (arguments : Json) (s : Session σ) :
    ((svc.perform arguments .analyze).leaves s).files = s.files := by
  have hleads : (svc.perform arguments .analyze).Leads SameTree :=
    (leads_ofExcept _).bind fun r => analyze_leads svc r
  exact hleads s

theorem perform_generate {flavor : Flavor} {r : GenerateRequest}
    (h : Request.readGenerate arguments = .ok r) (s : Session σ) :
    svc.perform arguments (.generate flavor) s = svc.generate flavor r s := by
  unfold perform
  rw [h]
  rfl

theorem perform_validate {r : ValidateRequest} (h : Request.readValidate arguments = .ok r)
    (s : Session σ) : svc.perform arguments .validate s = svc.validate r s := by
  unfold perform
  rw [h]
  rfl

end Service

/-- **Operations write their test file and no other**: with a build tool that writes no file, and
whatever a dispatched call asks for, an analysis leaves all files and directories alone, and where the
operation is not known or the arguments do not read as a request nothing happens at all. A generation
changes the test file only, and nothing unless its reply says that the analysis of the service was
completed. A validation changes its test file only, and that one only if a compilation has failed before
the last permitted attempt with a failure that a rule knows. -/
theorem dispatch_keeps_files (svc : Service σ)
    (htool : ∀ root settings, (svc.toolFor root settings).WritesNoFile) (name : String)
    (arguments : Json) (s : Session σ) :
    ((∀ op, Operation.ofName? name = some op → ¬ op.Accepts arguments) →
      (svc.dispatch name arguments s).2 = s) ∧
    (Operation.ofName? name = some .analyze → (svc.dispatch name arguments s).2.files = s.files) ∧
    (∀ flavor r, Operation.ofName? name = some (.generate flavor) →
      Request.readGenerate arguments = .ok r →
      (∀ path, Service.testPathOf r = .ok path →
        s.SameFilesBut (r.root / path) (svc.dispatch name arguments s).2) ∧
      ((svc.dispatch name arguments s).2.files = s.files ∨
        (∃ path, Service.testPathOf r = .ok path) ∧ (svc.dispatch name arguments s).1.Analyzed)) ∧
    ∀ r, Operation.ofName? name = some .validate → Request.readValidate arguments = .ok r →
      s.SameFilesBut (r.root / r.testPath) (svc.dispatch name arguments s).2 ∧
        svc.ChangesProvoked r s (svc.dispatch name arguments s).2 := by
  refine ⟨fun hrefused => ?_, fun hname => ?_, fun flavor r hname hread => ?_, fun r hname hread => ?_⟩
  · cases hname : Operation.ofName? name with
    | none => exact Service.dispatch_of_none hname s
    | some op =>
      rw [Service.dispatch_of_some hname, Service.answering_snd]
      exact Service.perform_of_refused (hrefused op hname) s
  · rw [Service.dispatch_of_some hname, Service.answering_snd]
    exact Service.perform_analyze arguments s
  · have hdispatch : svc.dispatch name arguments s = Service.answering (svc.generate flavor r) s := by
      rw [Service.dispatch_of_some hname, Service.answering, Service.perform_generate hread]
      rfl
    rw [hdispatch, Service.answering_snd]
    refine ⟨fun path hpath => Service.generate_sameFilesBut htool flavor hpath s, ?_⟩
    rcases Service.generate_analyzed flavor r s with hsame | ⟨path, reply, t, hpath, hreply, hanalyzed⟩
    · exact .inl hsame
    · rw [Service.answering_of_ok hreply]
      exact .inr ⟨⟨path, hpath⟩, hanalyzed⟩
  · rw [Service.dispatch_of_some hname, Service.answering_snd, leaves,
      Service.perform_validate hread]
    exact ⟨Service.validate_sameFilesBut htool r s, Service.validate_provoked htool r s⟩

/-- A validation whose build tool fails with a failure that a rule knows. -/
theorem validation_keeps_files :
    (Session.ofTest "returns Unit".toUTF8).SameFilesBut (Path.ofText "/project" / "ServiceTest.kt")
      (Service.dispatch { toolFor := fun _ _ => .failing "Unit but Long" } "validate_test"
        (.obj [("project_root", .str "/project"), ("test_path", .str "ServiceTest.kt")])
        (.ofTest "returns Unit".toUTF8)).2 :=
  ((dispatch_keeps_files _ (fun _ _ => BuildTool.writesNoFile_failing _) "validate_test" _ _).2.2.2
    { root := .ofText "/project", testPath := "ServiceTest.kt" } rfl rfl).1

end Testsmith
