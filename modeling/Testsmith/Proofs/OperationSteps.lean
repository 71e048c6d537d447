import Testsmith.Proofs.ReportProgress

/-!
# The steps that operations report

Generating and validating start their steps in the order of a plan and each one after the one before
was completed. So wherever an operation is cut short, by a failure of a stage or by anything unexpected,
its steps are the beginning of the plan and only the last of them has failed (`OrderlySteps`), and an
operation that was successful has completed them all. `operations_report_orderly` is the main statement;
it is about every project, settings and build tool.
-/

namespace Testsmith

variable {σ : Type}

open Testsmith.Action Report

/-! ## The loop -/

namespace Loop

/-- The steps of a run. -/
def plan : List String := [Stage.compile.stepName, Stage.execute.stepName]

theorem runStage_ends (l : Loop σ) (stage : Stage) (c : Call) (file : Path) {s : Session σ}
    {done plan : List String} (hs : s.report.Standing done none)
    (hplan : done ++ [stage.stepName] <+: plan) :
    (l.runStage stage c file).Ends s
      (fun e r => if e.gaveUp = none then r.Standing (done ++ [stage.stepName]) none
        else r.Standing done (some (stage.stepName, .failed)))
      (·.Within plan) := by
  refine (ends_startStep hs _ _).bind fun step t ht => ?_
  obtain ⟨rfl, hopen⟩ := ht
  have hattempts := KeepsReport.of_commutes fun _ =>
    attempts_commutes stage (commutes_call l.tool c) (l.rules stage) file (l.budget - 1)
  refine (hattempts.ends (.underWay hopen hplan)).bind fun e u hu => ?_
  rw [← hu] at hopen
  cases hg : e.gaveUp with
  | none =>
    refine (ends_finishStep (hopen.complete _ _)).bind fun _ v hv => ?_
    exact ends_pure (by rwa [if_pos hg])
  | some reason =>
    refine (ends_finishStep (hopen.fail _ _ _)).bind fun _ v hv => ?_
    exact ends_pure (by rwa [if_neg (by simp [hg])])

/-- A run goes through its plan as far as it comes, and completes it where it is successful. -/
theorem run_ends (l : Loop σ) (root : Path) (testPath : String) {s : Session σ}
    {done plan : List String} (hs : s.report.Standing done none) (hplan : done ++ Loop.plan <+: plan) :
    (l.run root testPath).Ends s
      (fun o r => r.Stopped plan ∧ (o.success = true → r.Standing (done ++ Loop.plan) none))
      (·.Within plan) := by
  have hdone : done <+: plan := (List.prefix_append _ _).trans hplan
  have hcompile : done ++ [Stage.compile.stepName] <+: plan :=
    .trans ⟨[Stage.execute.stepName], by simp [Loop.plan]⟩ hplan
  have hexecute : done ++ [Stage.compile.stepName] ++ [Stage.execute.stepName] <+: plan := by
    rw [List.append_assoc]
    exact hplan
  have hstart : s.report.Within plan := .stopped (.completed hs hdone)
  refine ((keepsReport_isFile _).ends hstart).bind fun present t ht => ?_
  rw [← ht] at hs hstart
  dsimp only
  split
  · exact ends_throw hstart
  refine (runStage_ends l _ _ _ hs hcompile).bind fun e u hu => ?_
  cases hg : e.gaveUp with
  | some reason =>
    rw [if_neg (by simp [hg])] at hu
    rw [if_pos (by simp)]
    refine ends_pure ⟨.failed hu hcompile, fun h => ?_⟩
    simp [LoopOutcome.success, outcome, hg] at h
  | none =>
    rw [if_pos hg] at hu
    rw [if_neg (by simp)]
    refine (runStage_ends l _ _ _ hu hexecute).bind fun f v hv => ?_
    cases hf : f.gaveUp with
    | some reason =>
      rw [if_neg (by simp [hf])] at hv
      refine ends_pure ⟨.failed hv hexecute, fun h => ?_⟩
      simp [LoopOutcome.success, outcome, hf] at h
    | none =>
      rw [if_pos hf, List.append_assoc] at hv
      exact ends_pure ⟨.completed hv hplan, fun _ => hv⟩

end Loop

/-! ## What callers see -/

/-- Steps that follow a plan: they are numbered by place, they are the beginning of the plan, none is
under way, and only the last of them can have failed. -/
structure OrderlySteps (plan : List String) (steps : List Step) : Prop where
  numbered : ∀ (i : Nat) (step : Step), steps[i]? = some step → step.number = i + 1
  planned : steps.map (·.name) <+: plan
  closed : ∀ step ∈ steps, step.status ≠ .inProgress
  completed : ∀ step ∈ steps.dropLast, step.status = .completed

/-- A reply whose steps follow a plan. Where it reports success, the steps are those that were wanted,
all of them completed, and there is no error. -/
structure Reply.Orderly (plan wanted : List String) (reply : Reply) : Prop where
  steps : ∃ steps, reply.envelope.steps = some steps ∧ OrderlySteps plan steps ∧
    (reply.envelope.success = true → steps.map (·.name) = wanted ∧
      ∀ step ∈ steps, step.status = .completed)
  error : reply.envelope.success = true → reply.envelope.error = none

namespace Report

variable {r : Report} {plan : List String}

/-- Where nothing is under way, the steps follow the plan. -/
theorem Stopped.orderly (h : r.Stopped plan) : OrderlySteps plan r.steps := by
  cases h with
  | @completed done standing planned =>
    have hstatus := status_of_rows standing.rows_eq
    refine ⟨number_of_rows standing.rows_eq, by rwa [names_of_rows standing.rows_eq], ?_, ?_⟩
    · intro step hstep
      simp [hstatus step hstep]
    · intro step hstep
      exact hstatus step (List.dropLast_subset _ hstep)
  | @failed done name standing planned =>
    obtain ⟨front, last, hsteps, hlen, hfront, hnumber, hname, hstatus⟩ := standing.steps_eq
    rw [hsteps]
    refine ⟨?_, ?_, ?_, ?_⟩
    · intro i step hi
      rcases Nat.lt_or_ge i front.length with hlt | hge
      · rw [List.getElem?_append_left hlt] at hi
        exact number_of_rows hfront i step hi
      · rw [List.getElem?_append_right hge] at hi
        obtain ⟨hzero, rfl⟩ := List.getElem?_eq_some_iff.1 hi
        have hi : i = done.length := by simp at hzero; omega
        simp [hnumber, hi]
    · rwa [List.map_append, names_of_rows hfront, List.map_singleton, hname]
    · intro step hstep
      rcases List.mem_append.1 hstep with hstep | hstep
      · simp [status_of_rows hfront step hstep]
      · simp [List.mem_singleton.1 hstep, hstatus]
    · intro step hstep
      rw [List.dropLast_concat] at hstep
      exact status_of_rows hfront step hstep

end Report

theorem Reply.orderly_of_stopped {report : Report} {e : Envelope} {plan wanted : List String}
    (hsteps : e.steps = some report.steps) (herror : e.error = none) (hs : report.Stopped plan)
    (hwanted : e.success = true → report.Standing wanted none) :
    Reply.Orderly plan wanted { envelope := e } := by
  refine ⟨⟨_, hsteps, hs.orderly, fun hsuccess => ?_⟩, fun _ => herror⟩
  have hrows := (hwanted hsuccess).rows_eq
  exact ⟨names_of_rows hrows, status_of_rows hrows⟩

/-! ## Operations -/

namespace Service

/-- The steps of a generation, before its test is validated. -/
def writingPlan : List String := ["analyze_service", "generate_test_code"]

variable (svc : Service σ)

theorem prepare_keepsReport (root : Path) : (svc.prepare root).KeepsReport :=
  .of_commutes fun _ => prepare_commutes svc root

theorem describe_keepsReport (root : Path) (servicePath : String) (symbols : Option Json)
    (settings : Settings) :
    (describe root servicePath symbols settings : Action σ _).KeepsReport :=
  .of_commutes fun _ => describe_commutes root servicePath symbols settings

theorem coverage_keepsReport (tool : BuildTool σ) (module : String) :
    (coverage tool module).KeepsReport :=
  .of_commutes fun _ => coverage_commutes tool module

section Ends

variable {s : Session σ} {done plan : List String}

theorem analyzeStep_ends (r : GenerateRequest) (settings : Settings)
    (hs : s.report.Standing done none) (hplan : done ++ ["analyze_service"] <+: plan) :
    (analyzeStep r settings).Ends s
      (fun _ report => report.Standing (done ++ ["analyze_service"]) none) (·.Within plan) := by
  refine (ends_startStep hs _ _).bind fun step t ht => ?_
  obtain ⟨rfl, hopen⟩ := ht
  refine ((describe_keepsReport _ _ _ _).ends (.underWay hopen hplan)).bind fun found u hu => ?_
  rw [← hu] at hopen
  refine (ends_finishStep (hopen.complete _ _)).bind fun _ v hv => ?_
  exact ends_pure hv

theorem writeStep_ends (root : Path) (testPath : String) (flavor : Flavor) (descriptor : Descriptor)
    (hs : s.report.Standing done none) (hplan : done ++ ["generate_test_code"] <+: plan) :
    (writeStep root testPath flavor descriptor).Ends s
      (fun _ report => report.Standing (done ++ ["generate_test_code"]) none) (·.Within plan) := by
  refine (ends_startStep hs _ _).bind fun step t ht => ?_
  obtain ⟨rfl, hopen⟩ := ht
  refine ((keepsReport_makeDirectories _).ends (.underWay hopen hplan)).bind fun _ u hu => ?_
  rw [← hu] at hopen
  refine ((keepsReport_writeText _ _).ends (.underWay hopen hplan)).bind fun _ v hv => ?_
  rw [← hv] at hopen
  exact ends_finishStep (hopen.complete _ _)

theorem writeAndValidate_ends (r : GenerateRequest) (flavor : Flavor) (testPath : String)
    (settings : Settings) (descriptor : Descriptor)
    (hs : s.report.Standing ["analyze_service"] none) :
    (svc.writeAndValidate r flavor testPath settings descriptor).Ends s
      (fun success report => report.Stopped (writingPlan ++ Loop.plan) ∧ (success = true →
        report.Standing (if r.validates then writingPlan ++ Loop.plan else writingPlan) none))
      (·.Within (writingPlan ++ Loop.plan)) := by
  have hwriting : writingPlan <+: writingPlan ++ Loop.plan := List.prefix_append _ _
  refine (writeStep_ends _ _ _ _ hs hwriting).bind fun _ t ht => ?_
  have hstopped : t.report.Stopped (writingPlan ++ Loop.plan) := .completed ht hwriting
  cases hvalidates : r.validates with
  | false => exact ends_pure ⟨hstopped, fun _ => ht⟩
  | true =>
    refine ((keepsReport_ofExcept _).ends (.stopped hstopped)).bind fun loop u hu => ?_
    rw [← hu] at ht
    refine (Loop.run_ends loop _ _ ht (List.prefix_refl _)).bind fun o v hv => ?_
    exact ends_pure hv

theorem validateFile_ends (r : ValidateRequest) (hs : s.report.Standing [] none) :
    (svc.validateFile r).Ends s
      (fun (_, success, _) report => report.Stopped Loop.plan ∧
        (success = true → report.Standing Loop.plan none))
      (·.Within Loop.plan) := by
  have hstart : s.report.Within Loop.plan := .stopped (.completed hs List.nil_prefix)
  refine ((prepare_keepsReport svc _).ends hstart).bind fun prepared t ht => ?_
  rw [← ht] at hs hstart
  refine ((keepsReport_ofExcept _).ends hstart).bind fun loop u hu => ?_
  rw [← hu] at hs
  refine (Loop.run_ends loop _ _ hs (List.prefix_refl _)).bind fun o v hv => ?_
  split
  · refine ((coverage_keepsReport _ _).ends (.stopped hv.1)).bind fun made w hw => ?_
    rw [← hw] at hv
    exact ends_pure hv
  · exact ends_pure hv

/-- What was cut short is closed. -/
theorem cutShort_ends {E : Report → Prop} (failure : Failure) (known : Envelope)
    (wanted : List String) (hs : s.report.Within plan) :
    (cutShort failure known).Ends s (fun reply _ => reply.Orderly plan wanted) E := by
  have hclosed := hs.failOpen failure.message
  refine ⟨⟨_, rfl, hclosed.orderly, ?_⟩, ?_⟩
  · intro hsuccess
    cases hsuccess
  · intro hsuccess
    cases hsuccess

/-- Where there is no path for the test, nothing is attempted. -/
theorem generate_of_no_path (flavor : Flavor) {r : GenerateRequest} {failure : Failure}
    (h : testPathOf r = .error failure) :
    svc.generate flavor r s = .error failure { s with report := {} } := by
  have hclear : (clearReport : Action σ Unit) s = .ok () { s with report := {} } := rfl
  unfold generate
  rw [bind_of_ok hclear, bind_of_error (ofExcept_of_error h _)]

theorem generate_ends (flavor : Flavor) (r : GenerateRequest) :
    (svc.generate flavor r).Ends s
      (fun reply _ => reply.Orderly (writingPlan ++ Loop.plan)
        (if r.validates then writingPlan ++ Loop.plan else writingPlan))
      (fun _ => ∃ failure, testPathOf r = .error failure) := by
  have hclear : (clearReport : Action σ Unit).Ends s (fun _ report => report.Standing [] none)
      fun _ => ∃ failure, testPathOf r = .error failure := standing_empty
  refine hclear.bind fun _ t ht => ?_
  have hpath : (Action.ofExcept (testPathOf r) : Action σ String).Ends t
      (fun _ report => report.Standing [] none) fun _ => ∃ failure, testPathOf r = .error failure :=
    ends_ofExcept (fun _ _ => ht) fun failure h => ⟨failure, h⟩
  refine hpath.bind fun testPath u hu => ?_
  refine (prepare_keepsReport svc r.root u).bind_attempt (fun prepared v hv => ?_)
    fun failure v hv => cutShort_ends failure _ _ (hv ▸ .stopped (.completed hu List.nil_prefix))
  rw [← hv] at hu
  have hanalysis : [] ++ ["analyze_service"] <+: writingPlan ++ Loop.plan :=
    ⟨"generate_test_code" :: Loop.plan, rfl⟩
  refine (analyzeStep_ends r prepared.1 hu hanalysis).bind_attempt (fun found w hw => ?_)
    fun failure w hw => cutShort_ends failure _ _ hw
  refine (writeAndValidate_ends svc r flavor testPath prepared.1 found.1 hw).bind_attempt
    (fun success x hx => ?_) fun failure x hx => cutShort_ends failure _ _ hx
  exact Reply.orderly_of_stopped rfl rfl hx.1 hx.2

theorem validate_ends (r : ValidateRequest) :
    (svc.validate r).Ends s (fun reply _ => reply.Orderly Loop.plan Loop.plan) fun _ => False := by
  have hclear : (clearReport : Action σ Unit).Ends s (fun _ report => report.Standing [] none)
      fun _ => False := standing_empty
  refine hclear.bind fun _ t ht => ?_
  refine (validateFile_ends svc r ht).bind_attempt (fun found u hu => ?_)
    fun failure u hu => cutShort_ends failure _ _ hu
  exact Reply.orderly_of_stopped rfl rfl hu.1 hu.2

end Ends

end Service

/-- **Operations report orderly steps**: whatever the project, the settings and the build tool are, a
validation is answered, and a generation is answered unless the service has no path for its test, and
the steps of the answer follow the plan of the operation. -/
theorem operations_report_orderly (svc : Service σ) (s : Session σ) :
    (∀ flavor r,
      (∃ failure t, Service.testPathOf r = .error failure ∧
        svc.generate flavor r s = .error failure t) ∨
      ∃ reply t, svc.generate flavor r s = .ok reply t ∧
        reply.Orderly
          ["analyze_service", "generate_test_code", "compile_validation", "test_execution"]
          (if r.validates then
            ["analyze_service", "generate_test_code", "compile_validation", "test_execution"]
          else ["analyze_service", "generate_test_code"])) ∧
    ∀ r, ∃ reply t, svc.validate r s = .ok reply t ∧
      reply.Orderly ["compile_validation", "test_execution"]
        ["compile_validation", "test_execution"] := by
  constructor
  · intro flavor r
    have h := Service.generate_ends svc (s := s) flavor r
    unfold Ends at h
    cases hr : svc.generate flavor r s with
    | ok reply t => rw [hr] at h; exact .inr ⟨reply, t, rfl, h⟩
    | error failure t =>
      rw [hr] at h
      obtain ⟨cause, hcause⟩ := h
      rw [Service.generate_of_no_path svc flavor hcause] at hr
      cases hr
      exact .inl ⟨failure, _, hcause, rfl⟩
  · intro r
    have h := Service.validate_ends svc (s := s) r
    unfold Ends at h
    cases hr : svc.validate r s with
    | ok reply t => rw [hr] at h; exact ⟨reply, t, rfl, h⟩
    | error failure t => rw [hr] at h; exact h.elim

end Testsmith
