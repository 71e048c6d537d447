import Testsmith.Proofs.LoopRun

/-!
# The protocol of the loop

What callers can rely on after a run, told by the results of its calls alone. The calls in the journal
are those of compiling, and behind them, where the last compilation was successful, those of executing.
Their results are what the build tool answers, each in the state in which the calls before have left it
(`BuildTool.Dialogue`).
`StageProtocol` says which results a stage can have and why it gave up, `StepProtocol` what its step
reports, and `LoopTrace` which states a run goes through. `run_follows_protocol` is the main statement:
with a build tool that answers, a run comes to an end and keeps the protocol.
-/

namespace Testsmith

variable {σ : Type}

/-! ## Stages -/

/-- The results of a stage's attempts and the reason for which it gave up, if it did. A stage may make
a number of attempts, and goes on after a failure that its rules know. -/
structure StageProtocol (budget : Nat) (policy : Repair.Policy) (results : List ToolResult)
    (gaveUp : Option GiveUp) : Prop where
  one_le : 1 ≤ results.length
  le_budget : results.length ≤ budget
  retried : ∀ r ∈ results.dropLast,
    r.success = false ∧ ∃ rule ∈ policy, rule.signature.toList <:+: r.errorText.toList
  passed_iff : gaveUp = none ↔ ∃ r, results.getLast? = some r ∧ r.success = true
  usedUp_iff : gaveUp = some .noAttemptsLeft ↔
    ∃ r, results[budget - 1]? = some r ∧ r.success = false
  unknown_iff : gaveUp = some .unknownFailure ↔
    ∃ i r, i + 1 < budget ∧ results[i]? = some r ∧ r.success = false ∧
      ∀ rule ∈ policy, ¬ rule.signature.toList <:+: r.errorText.toList

/-- An element that others follow is not the last one. -/
theorem mem_dropLast_of_getElem? {α : Type} {l : List α} {i : Nat} {a : α} (h : l[i]? = some a)
    (hi : i + 1 < l.length) : a ∈ l.dropLast := by
  refine List.mem_of_getElem? (i := i) ?_
  rw [List.getElem?_dropLast, if_pos (by omega), h]

section Stage

variable {stage : Stage} {tool : BuildTool σ} {c : Call} {policy : Repair.Policy} {file : Path}
  {spare : Nat} {s t : Session σ} {as : List Attempt} {e : StageEnd}

theorem StageRun.retried_of_mem_results (h : StageRun stage tool c policy file spare s as e t) :
    ∀ r ∈ (as.map (·.result)).dropLast,
      r.success = false ∧ policy.firing r.errorText ≠ [] := by
  intro r hr
  rw [← List.map_dropLast] at hr
  obtain ⟨a, ha, rfl⟩ := List.mem_map.1 hr
  exact h.retried_of_mem_dropLast a ha

/-- The result at the end of all attempts is the one that the stage ends with. -/
theorem StageRun.eq_result (h : StageRun stage tool c policy file spare s as e t) {i : Nat}
    {r : ToolResult} (hr : (as.map (·.result))[i]? = some r) (hi : i + 1 = as.length) :
    r = e.result := by
  have hlast := h.getLast?_eq
  rw [List.getLast?_eq_getElem?, List.length_map, ← hi, Nat.add_sub_cancel, hr] at hlast
  exact Option.some.inj hlast

theorem StageRun.usedUp_iff (h : StageRun stage tool c policy file spare s as e t) :
    e.gaveUp = some .noAttemptsLeft ↔
      ∃ r, (as.map (·.result))[spare]? = some r ∧ r.success = false := by
  constructor
  · intro hg
    rcases h.ending with ⟨hn, -⟩ | ⟨-, hfail, hlen⟩ | ⟨hu, -⟩
    · rw [hn] at hg; cases hg
    · refine ⟨e.result, ?_, hfail⟩
      have hlast := h.getLast?_eq
      rwa [List.getLast?_eq_getElem?, List.length_map, hlen, Nat.add_sub_cancel] at hlast
    · rw [hu] at hg; cases hg
  · rintro ⟨r, hr, hfail⟩
    have hlt : spare < as.length := by
      have := (List.getElem?_eq_some_iff.1 hr).1
      rwa [List.length_map] at this
    have hlen : spare + 1 = as.length := by have := h.length_le; omega
    have hre := h.eq_result hr hlen
    subst hre
    rcases h.ending with ⟨-, hs⟩ | ⟨hg, -⟩ | ⟨-, -, hle, -⟩
    · rw [hs] at hfail; cases hfail
    · exact hg
    · omega

theorem StageRun.unknown_iff (h : StageRun stage tool c policy file spare s as e t) :
    e.gaveUp = some .unknownFailure ↔
      ∃ i r, i < spare ∧ (as.map (·.result))[i]? = some r ∧ r.success = false ∧
        policy.firing r.errorText = [] := by
  constructor
  · intro hg
    rcases h.ending with ⟨hn, -⟩ | ⟨hu, -⟩ | ⟨-, hfail, hlen, hsilent⟩
    · rw [hn] at hg; cases hg
    · rw [hu] at hg; cases hg
    · have hpos := List.length_pos_iff.2 h.ne_nil
      refine ⟨as.length - 1, e.result, by omega, ?_, hfail, hsilent⟩
      have hlast := h.getLast?_eq
      rwa [List.getLast?_eq_getElem?, List.length_map] at hlast
  · rintro ⟨i, r, hi, hr, hfail, hsilent⟩
    have hlt : i < as.length := by
      have := (List.getElem?_eq_some_iff.1 hr).1
      rwa [List.length_map] at this
    -- A failure that no rule knows ends the stage, so it is the last one.
    have hlen : i + 1 = as.length := by
      rcases Nat.lt_or_ge (i + 1) as.length with hmore | hge
      · have hmem := mem_dropLast_of_getElem? hr (by rwa [List.length_map])
        exact absurd hsilent (h.retried_of_mem_results r hmem).2
      · omega
    have hre := h.eq_result hr hlen
    subst hre
    rcases h.ending with ⟨-, hs⟩ | ⟨-, -, hle⟩ | ⟨hg, -⟩
    · rw [hs] at hfail; cases hfail
    · omega
    · exact hg

theorem StageRun.passed_iff (h : StageRun stage tool c policy file spare s as e t) :
    e.gaveUp = none ↔
      ∃ r, (as.map (·.result)).getLast? = some r ∧ r.success = true := by
  constructor
  · intro hg
    rcases h.ending with ⟨-, hs⟩ | ⟨hu, -⟩ | ⟨hu, -⟩
    · exact ⟨e.result, h.getLast?_eq, hs⟩
    · rw [hu] at hg; cases hg
    · rw [hu] at hg; cases hg
  · rintro ⟨r, hr, hs⟩
    rw [h.getLast?_eq] at hr
    cases hr
    rcases h.ending with ⟨hg, -⟩ | ⟨-, hfail, -⟩ | ⟨-, hfail, -⟩
    · exact hg
    · rw [hs] at hfail; cases hfail
    · rw [hs] at hfail; cases hfail

/-- A stage that follows the rules keeps the protocol. -/
theorem StageRun.protocol (h : StageRun stage tool c policy file spare s as e t) :
    StageProtocol (spare + 1) policy (as.map (·.result)) e.gaveUp where
  one_le := by
    rw [List.length_map]
    exact List.length_pos_iff.2 h.ne_nil
  le_budget := by rw [List.length_map]; exact h.length_le
  retried r hr := by
    obtain ⟨hfail, hfires⟩ := h.retried_of_mem_results r hr
    obtain ⟨rule, hrule, hfire⟩ := Repair.Policy.firing_ne_nil_iff.1 hfires
    exact ⟨hfail, rule, hrule, Repair.Rule.fires_iff.1 hfire⟩
  passed_iff := h.passed_iff
  usedUp_iff := h.usedUp_iff
  unknown_iff := by
    rw [h.unknown_iff]
    simp only [Repair.Policy.firing_eq_nil_iff, ← Bool.not_eq_true, Repair.Rule.fires_iff,
      Nat.add_lt_add_iff_right]

end Stage

/-! ## Steps -/

/-- A field of the result of a step. -/
def Step.field? (step : Step) (key : String) : Option Json :=
  match step.result with
  | some (.obj fields) => Json.Fields.get? fields key
  | _ => none

/-- What the step of a stage reports of its attempts. -/
structure StepProtocol (number : Nat) (stage : Stage) (policy : Repair.Policy)
    (results : List ToolResult) (gaveUp : Option GiveUp) (step : Step) : Prop where
  number_eq : step.number = number
  name_eq : step.name = stage.stepName
  status_eq : step.status = if gaveUp = none then .completed else .failed
  error_eq : step.error =
    if gaveUp = none then none else results.getLast?.map (·.errorText)
  reason_eq : step.reason = gaveUp.map (·.name)
  retries_eq : step.field? "retries" = some (.int (results.length - 1))
  remediations_eq : ∀ listed, step.field? "remediations" = some listed →
    listed = Json.ofTexts (results.dropLast.flatMap fun r => policy.namesOn r.errorText)
  remediations_listed : stage = .compile ∨ gaveUp ≠ none →
    (step.field? "remediations").isSome = true

theorem StageRun.stepProtocol {stage : Stage} {tool : BuildTool σ} {c : Call}
    {policy : Repair.Policy} {file : Path} {spare : Nat} {s t : Session σ} {as : List Attempt}
    {e : StageEnd} (h : StageRun stage tool c policy file spare s as e t) (before : Nat) :
    StepProtocol (before + 1) stage policy (as.map (·.result)) e.gaveUp
      (Loop.stepOf before stage e) := by
  have hlast := h.getLast?_eq
  have hretries : (e.retries : Int) = (as.map (·.result)).length - 1 := by
    rw [List.length_map, ← h.retries_eq]
    omega
  have hnames : e.remediations =
      (as.map (·.result)).dropLast.flatMap fun r => policy.namesOn r.errorText := by
    rw [h.remediations_eq, ← List.map_dropLast, List.flatMap_map]
  cases hg : e.gaveUp with
  | none =>
    cases stage with
    | compile =>
      refine ⟨?_, ?_, ?_, ?_, ?_, ?_, ?_, ?_⟩ <;>
        simp [Loop.stepOf, hg, Step.complete, Step.field?, Loop.passedResult, Json.Fields.get?,
          List.lookup_cons, hretries, hnames]
    | execute =>
      refine ⟨?_, ?_, ?_, ?_, ?_, ?_, ?_, ?_⟩ <;>
        simp [Loop.stepOf, hg, Step.complete, Step.field?, Loop.passedResult, Json.Fields.get?,
          List.lookup_cons, hretries]
  | some reason =>
    refine ⟨?_, ?_, ?_, ?_, ?_, ?_, ?_, ?_⟩ <;>
      simp [Loop.stepOf, hg, Step.fail, Step.field?, Loop.gaveUpResult, Json.Fields.get?,
        List.lookup_cons, hretries, hnames, hlast]

/-! ## Runs -/

/-- The states that a run goes through, with the numbers of its attempts, the stage that failed and the
reason. -/
inductive LoopTrace :
    (compiles runs : Nat) → Option Stage → Option GiveUp → List LoopState → Prop
  | compileAborted {a : Nat} :
      LoopTrace a 0 (some .compile) (some .unknownFailure)
        (.replicate a (.attempting .compile) ++ [.aborted])
  | compileUsedUp {a : Nat} :
      LoopTrace a 0 (some .compile) (some .noAttemptsLeft)
        (.replicate a (.attempting .compile) ++ [.usedUp .compile, .aborted])
  | executeAborted {a b : Nat} :
      LoopTrace a b (some .execute) (some .unknownFailure)
        (.replicate a (.attempting .compile) ++ .passed .compile ::
          (.replicate b (.attempting .execute) ++ [.aborted]))
  | executeUsedUp {a b : Nat} :
      LoopTrace a b (some .execute) (some .noAttemptsLeft)
        (.replicate a (.attempting .compile) ++ .passed .compile ::
          (.replicate b (.attempting .execute) ++ [.usedUp .execute, .aborted]))
  | executed {a b : Nat} :
      LoopTrace a b none none
        (.replicate a (.attempting .compile) ++ .passed .compile ::
          (.replicate b (.attempting .execute) ++ [.passed .execute]))

/-- A call and its answer. -/
def Event.answer? (e : Event) : Option (Call × Except Failure ToolResult) :=
  e.call?.map fun (c, _, answer) => (c, answer)

/-- What a run has done from a session to a session and what its outcome says of it, told by the
results of compiling and executing. -/
structure LoopProtocol (l : Loop σ) (testPath : String) (s t : Session σ)
    (o : LoopOutcome) (compiles runs : List ToolResult) : Prop where
  calls : ∃ new, t.journal = s.journal ++ new ∧
    l.tool.Dialogue s.tool (new.filterMap Event.call?) t.tool ∧ new.filterMap Event.answer? =
      compiles.map (fun r =>
        (.compile (Layout.moduleOf testPath l.fallbackModule) testPath, .ok r)) ++
      runs.map (fun r =>
        (.run (Layout.moduleOf testPath l.fallbackModule) (Layout.className testPath), .ok r))
  trace : LoopTrace compiles.length runs.length o.failure o.reason o.trace
  state : o.state = if o.failure = none then .passed .execute else .aborted
  compiled : StageProtocol l.budget l.compileRules compiles
    (if o.failure = some .compile then o.reason else none)
  stopped : o.failure = some .compile → runs = []
  executed : o.failure ≠ some .compile →
    StageProtocol l.budget l.executionRules runs o.reason
  counts : (runs.getLast?.or compiles.getLast?).map (fun r => (r.passed, r.failed)) =
    some (o.passed, o.failed)
  steps : ∃ first rest, t.report.steps = s.report.steps ++ first :: rest ∧
    StepProtocol (s.report.length + 1) .compile l.compileRules compiles
      (if o.failure = some .compile then o.reason else none) first ∧
    ((o.failure = some .compile ∧ rest = []) ∨
      (o.failure ≠ some .compile ∧ ∃ second, rest = [second] ∧
        StepProtocol (s.report.length + 2) .execute l.executionRules runs o.reason second))

theorem Event.filterMap_answer? (events : List Event) : events.filterMap Event.answer? =
    (events.filterMap Event.call?).map fun (c, _, answer) => (c, answer) := by
  rw [List.map_filterMap]
  rfl

theorem map_answer_callsOf (c : Call) (as : List Attempt) :
    (callsOf c as).map (fun (c, _, answer) => (c, answer)) =
      (as.map (·.result)).map fun r => (c, .ok r) := by
  rw [callsOf, List.map_map, List.map_map]
  rfl

/-- The calls of a stage and their answers, in order. -/
theorem StageRun.answers_eq {stage : Stage} {tool : BuildTool σ} {c : Call} {policy : Repair.Policy}
    {file : Path} {spare : Nat} {s t : Session σ} {as : List Attempt} {e : StageEnd}
    (h : StageRun stage tool c policy file spare s as e t) :
    ∃ new, t.journal = s.journal ++ new ∧
      new.filterMap Event.answer? = (as.map (·.result)).map fun r => (c, .ok r) := by
  obtain ⟨new, hnew, hcalls⟩ := h.calls_eq
  exact ⟨new, hnew, by rw [Event.filterMap_answer?, hcalls, map_answer_callsOf]⟩

/-- The calls of a run and their answers, those of compiling first. -/
theorem LoopRun.answers_eq {l : Loop σ} {root : Path} {testPath : String} {s t : Session σ}
    {as bs : List Attempt} {o : LoopOutcome} (h : LoopRun l root testPath s as bs o t) :
    ∃ new, t.journal = s.journal ++ new ∧
      l.tool.Dialogue s.tool (new.filterMap Event.call?) t.tool ∧ new.filterMap Event.answer? =
        (as.map (·.result)).map (fun r => (l.callOf testPath .compile, .ok r)) ++
        (bs.map (·.result)).map (fun r => (l.callOf testPath .execute, .ok r)) := by
  obtain ⟨new, hnew, hcalls⟩ := h.calls_eq
  refine ⟨new, hnew, hcalls ▸ h.dialogue, ?_⟩
  rw [Event.filterMap_answer?, hcalls, List.map_append, map_answer_callsOf, map_answer_callsOf]

/-- A run that follows the rules keeps the protocol. -/
theorem LoopRun.protocol {l : Loop σ} {root : Path} {testPath : String} {s t : Session σ}
    {as bs : List Attempt} {o : LoopOutcome} (h : LoopRun l root testPath s as bs o t) :
    LoopProtocol l testPath s t o (as.map (·.result)) (bs.map (·.result)) := by
  have hbudget : l.budget - 1 + 1 = l.budget := Nat.sub_add_cancel l.budget_pos
  have hcalls := h.answers_eq
  cases h with
  | @stopped u _ e compiled gaveUp =>
    obtain ⟨reason, hreason⟩ := Option.ne_none_iff_exists'.1 gaveUp
    have hprotocol := compiled.protocol
    rw [hbudget] at hprotocol
    have hfailure : (Loop.outcome (Layout.moduleOf testPath l.fallbackModule) []
        .compile e).failure = some .compile := by simp [Loop.outcome, hreason]
    refine ⟨hcalls, ?_, ?_, ?_, fun _ => rfl, fun hne => absurd hfailure hne, ?_, ?_⟩
    · rw [List.length_map]
      simp only [Loop.outcome, StageEnd.trace, Stage.closing, hreason, compiled.states_eq]
      cases reason with
      | unknownFailure => exact .compileAborted
      | noAttemptsLeft => exact .compileUsedUp
    · simp [Loop.outcome, hreason]
    · rw [if_pos hfailure]
      exact hprotocol
    · rw [compiled.getLast?_eq]
      rfl
    · refine ⟨_, [], Session.finishing_steps .., ?_, .inl ⟨hfailure, rfl⟩⟩
      rw [if_pos hfailure]
      exact compiled.stepProtocol s.report.length
  | @executed u v _ _ e f compiled passed executed =>
    have hcompile := compiled.protocol
    have hexecute := executed.protocol
    rw [hbudget] at hcompile hexecute
    have hfailure : (Loop.outcome (Layout.moduleOf testPath l.fallbackModule)
        (e.trace .compile) .execute f).failure ≠ some .compile := by
      cases hf : f.gaveUp <;> simp [Loop.outcome, hf]
    refine ⟨hcalls, ?_, ?_, ?_, fun heq => absurd heq hfailure, fun _ => hexecute, ?_, ?_⟩
    · rw [List.length_map, List.length_map]
      simp only [Loop.outcome, StageEnd.trace, Stage.closing, passed, compiled.states_eq,
        executed.states_eq, List.append_assoc, List.singleton_append]
      cases f.gaveUp with
      | none => exact .executed
      | some reason =>
        cases reason with
        | unknownFailure => exact .executeAborted
        | noAttemptsLeft => exact .executeUsedUp
    · cases hf : f.gaveUp <;> simp [Loop.outcome, hf]
    · rw [if_neg hfailure, ← passed]
      exact hcompile
    · rw [executed.getLast?_eq, Option.some_or]
      rfl
    · refine ⟨Loop.stepOf s.report.length .compile e,
        [Loop.stepOf (s.report.length + 1) .execute f], ?_, ?_,
        .inr ⟨hfailure, _, rfl, ?_⟩⟩
      · simp [Report.length]
      · rw [if_neg hfailure, ← passed]
        exact compiled.stepProtocol s.report.length
      · exact executed.stepProtocol (s.report.length + 1)

/-- **A run keeps the protocol of the loop**: with a build tool that answers every call and leaves the
test file a text, the run comes to an end, and its calls, its trace, its outcome and its steps agree. -/
theorem run_follows_protocol (l : Loop σ) (root : Path) (testPath : String) (s : Session σ)
    {text : String} (htext : s.files.text s.workingDirectory (root / testPath) = .ok text)
    (htool : l.tool.KeepsText s.workingDirectory (root / testPath)) :
    ∃ o t compiles runs, l.run root testPath s = .ok o t ∧
      LoopProtocol l testPath s t o compiles runs := by
  obtain ⟨as, bs, o, t, hrun, hrules⟩ := exists_loopRun htool htext
  exact ⟨o, t, _, _, hrun, hrules.protocol⟩

theorem run_follows_protocol_patient :
    ∃ o t compiles runs, Loop.patient.run (.ofText "/project") "ServiceTest.kt"
        (.ofTest "returns Unit".toUTF8) = .ok o t ∧
      LoopProtocol Loop.patient "ServiceTest.kt" (.ofTest "returns Unit".toUTF8) t o compiles runs :=
  run_follows_protocol _ _ _ _
    (FileTree.text_eq_ok_iff.2 ⟨_, Session.read_ofTest _, Action.decode_encode _⟩)
    (BuildTool.keepsText_failing _ _ _)

end Testsmith
