import Testsmith.Proofs.LoopRun
import Testsmith.Proofs.OperationSteps
import Testsmith.Proofs.WrittenPaths

/-!
# Operations and their replies

Analysing and validating always reply, and a reply names the file that was asked about, whatever the
project, the settings and the build tool are. Generating replies exactly where it can name the test
file: where the request gives a path for it, or the path of the service has a last part. What a path
without one leads to is a failure of the operation itself, before its report and its first step.

What follows is attempted, and an attempt keeps a failure as a value. `operations_reply` is the main
statement.
-/

namespace Testsmith

variable {σ : Type}

open Testsmith.Action

/-! ## Requests that name a test file -/

/-- A request for a generation names its test file: it gives a path for it, or the path of the service
has a last part. -/
def GenerateRequest.NamesTest (r : GenerateRequest) : Prop :=
  (∃ path, r.testPath = some path ∧ path ≠ "") ∨ (Path.ofText r.servicePath).parts ≠ []

namespace Service

variable {r : GenerateRequest}

theorem testPathOf_given {path : String} (h : r.testPath = some path) (hne : path ≠ "") :
    testPathOf r = .ok path := by
  unfold testPathOf
  rw [h]
  split
  · next hempty => exact absurd (Option.some.inj hempty) hne
  · next hnone => cases hnone
  · next hpath => cases hpath; rfl

/-- A request that names its test file has a path for it. -/
theorem exists_testPathOf (h : r.NamesTest) : ∃ path, testPathOf r = .ok path := by
  by_cases hgiven : ∃ path, r.testPath = some path ∧ path ≠ ""
  · obtain ⟨path, hpath, hne⟩ := hgiven
    exact ⟨path, testPathOf_given hpath hne⟩
  · obtain ⟨path, hpath⟩ := Layout.exists_testPath_iff.2 (h.resolve_left hgiven)
    unfold testPathOf
    split
    · exact ⟨path, by rw [hpath]⟩
    · exact ⟨path, by rw [hpath]⟩
    · exact ⟨_, rfl⟩

theorem testPathOf_of_nameless (h : ¬ r.NamesTest) :
    testPathOf r = .error (.noName (Layout.inTestTree r.servicePath).text) := by
  obtain ⟨hnone, hparts⟩ := not_or.1 h
  have hinferred := Layout.testPath_of_nameless (Decidable.not_not.1 hparts)
  unfold testPathOf
  split
  · rw [hinferred]
  · rw [hinferred]
  · next path hne hpath => exact absurd ⟨path, hpath, hne⟩ hnone

/-! ## Replies -/

variable (svc : Service σ)

theorem analyze_names_path (r : AnalyzeRequest) (s : Session σ) :
    (svc.analyze r).Ends s (fun reply _ => reply.envelope.servicePath = some r.servicePath)
      fun _ => False :=
  (ends_any _ s).bind_attempt (fun _ _ _ => ends_pure rfl) fun _ _ _ => ends_pure rfl

theorem validate_names_path (r : ValidateRequest) (s : Session σ) :
    (svc.validate r).Ends s (fun reply _ => reply.envelope.testPath = some r.testPath)
      fun _ => False := by
  have hclear : (clearReport : Action σ Unit).Ends s (fun _ _ => True) fun _ => False := trivial
  refine hclear.bind fun _ t _ => ?_
  exact (ends_any _ t).bind_attempt (fun _ _ _ => rfl) fun _ _ _ => rfl

theorem generate_names_path (flavor : Flavor) (h : r.NamesTest) (s : Session σ) :
    (svc.generate flavor r).Ends s (fun reply _ => reply.envelope.servicePath = some r.servicePath)
      fun _ => False := by
  obtain ⟨path, hpath⟩ := exists_testPathOf h
  have hclear : (clearReport : Action σ Unit).Ends s (fun _ _ => True) fun _ => False := trivial
  refine hclear.bind fun _ t _ => ?_
  have hgiven : (Action.ofExcept (testPathOf r) : Action σ String).Ends t (fun _ _ => True)
      fun _ => False := by
    rw [hpath]
    exact ends_pure trivial
  refine hgiven.bind fun testPath u _ => ?_
  refine (ends_any _ u).bind_attempt (fun prepared v _ => ?_) fun _ _ _ => rfl
  refine (ends_any _ v).bind_attempt (fun found w _ => ?_) fun _ _ _ => rfl
  exact (ends_any _ w).bind_attempt (fun _ _ _ => rfl) fun _ _ _ => rfl

end Service

/-- **Operations reply, but for generations that cannot name their test**: whatever the project, the
settings and the build tool are, analysing and validating reply with the path that was asked about.
Generating does so exactly where the request gives a path for the test or the service has a name, and
else it fails before its first step. -/
theorem operations_reply (svc : Service σ) (s : Session σ) :
    (∀ r, ∃ reply t, svc.analyze r s = .ok reply t ∧
      reply.envelope.servicePath = some r.servicePath) ∧
    (∀ r, ∃ reply t, svc.validate r s = .ok reply t ∧ reply.envelope.testPath = some r.testPath) ∧
    ∀ flavor r,
      (r.NamesTest ∧ ∃ reply t, svc.generate flavor r s = .ok reply t ∧
        reply.envelope.servicePath = some r.servicePath) ∨
      (¬ r.NamesTest ∧ svc.generate flavor r s =
        .error (.noName (Layout.inTestTree r.servicePath).text) { s with report := {} }) := by
  refine ⟨fun r => (Service.analyze_names_path svc r s).exists_ok,
    fun r => (Service.validate_names_path svc r s).exists_ok, ?_⟩
  intro flavor r
  rcases Classical.em r.NamesTest with h | h
  · exact .inl ⟨h, (Service.generate_names_path svc flavor h s).exists_ok⟩
  · exact .inr ⟨h, Service.generate_of_no_path svc flavor (Service.testPathOf_of_nameless h)⟩

/-- The working directory as a service is a request like any other, and generating its test fails
without a reply. -/
theorem workingDirectory_unanswered :
    Request.readGenerate (.obj [("project_root", .str "/project"), ("service_path", .str ".")]) =
      .ok { root := .ofText "/project", servicePath := "." } ∧
    ∀ reply t, Service.generate { toolFor := fun _ _ => .failing "Unit but Long" } .unit
      { root := .ofText "/project", servicePath := "." } (.ofTest .empty) ≠ .ok reply t := by
  refine ⟨rfl, fun reply t hreply => ?_⟩
  have hnameless : ¬ GenerateRequest.NamesTest { root := .ofText "/project", servicePath := "." } := by
    rintro (⟨path, hpath, -⟩ | hparts)
    · cases hpath
    · exact hparts (by decide)
  rw [Service.generate_of_no_path _ _ (Service.testPathOf_of_nameless hnameless)] at hreply
  cases hreply

end Testsmith
