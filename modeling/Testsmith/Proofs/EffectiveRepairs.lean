import Testsmith.Proofs.Replacement

/-!
# Repairs that change a file

A stage goes on after a failure that one of its rules knows, whether or not the rule finds anything to
replace. So the text that a retry sees is what the rules make of the text that failed, and it is another
text exactly where one of them finds something (`patched_compileRules_ne_iff`), because what was replaced
does not occur any more. `retries_see_patches` is the main statement, and `bareTest_retried_unchanged` is
a run whose second attempt finds nothing changed.
-/

namespace Testsmith

variable {σ : Type}

/-! ## Patches -/

namespace Repair

variable {text : List Char} {message : String}

/-- The patch of unit stubs finds something: the word, with no word character behind it. -/
abbrev FindsUnit (text : List Char) : Prop :=
  Text.OccursBefore "returns Unit".toList wordEnds text

/-- The patch of flags finds something. -/
abbrev FindsFlag (text : List Char) : Prop :=
  "\"Y\"".toList <:+: text ∨ "\"N\"".toList <:+: text

/-- A rule that knows a failure finds something to replace in a text. -/
inductive Finds (message : String) (text : List Char) : Prop
  | unit (signature : "Unit but Long".toList <:+: message.toList) (found : FindsUnit text)
  | flag (signature : "String but Boolean".toList <:+: message.toList) (found : FindsFlag text)

/-- The rules for compiling change a text exactly where one that knows the failure finds something. -/
theorem patched_compileRules_ne_iff :
    compileRules.patched text message ≠ text ↔ Finds message text := by
  rw [patched_compileRules, Ne, swapAll_eq_self_iff]
  simp only [mem_swapsFor_iff, not_forall, not_not, exists_prop]
  constructor
  · rintro ⟨a, hcalled, hoccurs⟩
    cases a with
    | unit => exact .unit hcalled hoccurs
    | yes => exact .flag hcalled (.inl (Text.occursBefore_anywhere_iff.1 hoccurs))
    | no => exact .flag hcalled (.inr (Text.occursBefore_anywhere_iff.1 hoccurs))
  · rintro (⟨hsignature, hfound⟩ | ⟨hsignature, hyes | hno⟩)
    · exact ⟨.unit, hsignature, hfound⟩
    · exact ⟨.yes, hsignature, Text.occursBefore_anywhere_iff.2 hyes⟩
    · exact ⟨.no, hsignature, Text.occursBefore_anywhere_iff.2 hno⟩

/-- One more failure is repaired in the text that the failures before it have left. -/
theorem Policy.repaired_concat (policy : Policy) (text : String) (failures : List String)
    (failure : String) : policy.repaired text (failures ++ [failure]) =
      (policy.attempt (policy.repaired text failures) failure).text := by
  rw [Policy.text_attempt]
  simp [Policy.repaired]

/-- A repair with the rules for compiling leaves another text exactly where one finds something. -/
theorem text_attempt_ne_iff {old : String} :
    (compileRules.attempt old message).text ≠ old ↔ Finds message old.toList := by
  rw [← patched_compileRules_ne_iff, Policy.text_attempt, Policy.repaired, List.foldl_cons,
    List.foldl_nil, ne_eq, ne_eq, ← String.toList_inj, String.toList_ofList]

end Repair

/-! ## Retries -/

/-- A failed attempt and the one after it: a rule knows the failure, and the second attempt sees what
the rules have made of the text that the first one saw. -/
structure Attempt.Retried (policy : Repair.Policy) (cwd : Location) (file : Path) (a b : Attempt)
    (old new : String) : Prop where
  failed : a.result.success = false
  known : ∃ rule ∈ policy, rule.signature.toList <:+: a.result.errorText.toList
  sees_old : a.files.text cwd file = .ok old
  sees_new : b.files.text cwd file = .ok new
  new_eq : new = (policy.attempt old a.result.errorText).text

/-- Attempts of a stage that follow each other are retries. -/
theorem StageRun.exists_retried {stage : Stage} {tool : BuildTool σ} {c : Call}
    {policy : Repair.Policy} {file : Path} {spare : Nat} {s t : Session σ} {as : List Attempt}
    {e : StageEnd} {cwd : Location} {content : ByteArray} {text : String} {files : FileTree}
    {events : List Event} (h : StageRun stage tool c policy file spare s as e t)
    (hfiles : StageFiles cwd c file policy content text as files events)
    (hpolicy : policy.KeepsLineEnds) (hdecode : Action.decode content = .ok text) {i : Nat}
    {a b : Attempt} (ha : as[i]? = some a) (hb : as[i + 1]? = some b) :
    ∃ old new, a.Retried policy cwd file b old new := by
  have hi : i + 1 < as.length := (List.getElem?_eq_some_iff.1 hb).1
  obtain ⟨hfailed, hfires⟩ := h.retried_of_mem_dropLast a (mem_dropLast_of_getElem? ha hi)
  obtain ⟨rule, hrule, hfire⟩ := Repair.Policy.firing_ne_nil_iff.1 hfires
  have htexts (j : Nat) (x : Attempt) (hx : as[j]? = some x) :
      x.files.text cwd file = .ok (policy.repaired text (failuresOf (as.take j))) :=
    FileTree.text_of_read (hfiles.sees j x hx)
      (Repair.Policy.decode_contentAfter hpolicy hdecode _)
  -- The second attempt has one failure more before it, that of the first one.
  have hnext : failuresOf (as.take (i + 1)) =
      failuresOf (as.take i) ++ [a.result.errorText] := by
    rw [List.take_add_one, ha, failuresOf, List.map_append]
    rfl
  exact ⟨_, _, hfailed, ⟨rule, hrule, Repair.Rule.fires_iff.1 hfire⟩, htexts i a ha,
    htexts (i + 1) b hb, by rw [hnext, Repair.Policy.repaired_concat]⟩

/-- Attempts of a run that follow each other in a stage are retries. -/
theorem LoopRun.exists_retried {l : Loop σ} {root : Path} {testPath : String} {s t : Session σ}
    {as bs : List Attempt} {o : LoopOutcome} (h : LoopRun l root testPath s as bs o t)
    (htool : l.tool.KeepsFile s.workingDirectory (root / testPath))
    (hcompile : l.compileRules.KeepsLineEnds) (hexecution : l.executionRules.KeepsLineEnds)
    {content : ByteArray} {text : String}
    (hread : s.files.read s.workingDirectory (root / testPath) = .ok content)
    (hdecode : Action.decode content = .ok text) {i : Nat} {a b : Attempt} :
    (as[i]? = some a → as[i + 1]? = some b →
      ∃ old new, a.Retried l.compileRules s.workingDirectory (root / testPath) b old new) ∧
    (bs[i]? = some a → bs[i + 1]? = some b →
      ∃ old new, a.Retried l.executionRules s.workingDirectory (root / testPath) b old new) := by
  obtain ⟨middle, first, second, hfiles⟩ := h.files htool hcompile hexecution hread hdecode
  have hmiddle := Repair.Policy.decode_contentAfter hcompile hdecode
  cases h with
  | stopped compiled _ =>
    exact ⟨compiled.exists_retried hfiles.compiled hcompile hdecode, nofun⟩
  | executed compiled _ executed =>
    exact ⟨compiled.exists_retried hfiles.compiled hcompile hdecode,
      executed.exists_retried hfiles.executed hexecution (hmiddle _)⟩

/-- With the rules for executing, which are none, a run executes the tests once at most. -/
theorem LoopRun.length_runs_le {l : Loop σ} {root : Path} {testPath : String} {s t : Session σ}
    {as bs : List Attempt} {o : LoopOutcome} (h : LoopRun l root testPath s as bs o t)
    (hrules : l.executionRules = Repair.executionRules) : bs.length ≤ 1 := by
  cases h with
  | stopped => exact Nat.zero_le 1
  | executed _ _ executed =>
    rw [hrules] at executed
    exact Nat.le_of_eq executed.length_eq_one

/-- **Each retry sees what the rules have made of the text that failed**: with the rules of this library
and a build tool that answers every call and leaves the test file alone, a run comes to an end, it
executes the tests once at most, and of two compilations that follow each other the first one failed
with a failure that a rule knows, and the second one sees that text as these rules have patched it. It
is another text exactly where one of them finds something to replace. -/
theorem retries_see_patches (l : Loop σ) (root : Path) (testPath : String) (s : Session σ)
    {content : ByteArray} {text : String}
    (hread : s.files.read s.workingDirectory (root / testPath) = .ok content)
    (hdecode : Action.decode content = .ok text)
    (htool : l.tool.KeepsFile s.workingDirectory (root / testPath))
    (hcompile : l.compileRules = Repair.compileRules)
    (hexecution : l.executionRules = Repair.executionRules) :
    ∃ o t compiles runs new, l.run root testPath s = .ok o t ∧ t.journal = s.journal ++ new ∧
      new.filterMap Event.call? = callsOf (l.callOf testPath .compile) compiles ++
        callsOf (l.callOf testPath .execute) runs ∧
      runs.length ≤ 1 ∧
      ∀ i a b, compiles[i]? = some a → compiles[i + 1]? = some b → ∃ old new,
        a.Retried Repair.compileRules s.workingDirectory (root / testPath) b old new ∧
        (new ≠ old ↔ Repair.Finds a.result.errorText old.toList) := by
  obtain ⟨as, bs, o, t, hrun, hrules⟩ :=
    exists_loopRun htool.keepsText (FileTree.text_of_read hread hdecode)
  obtain ⟨new, hnew, hcalls⟩ := hrules.calls_eq
  refine ⟨o, t, as, bs, new, hrun, hnew, hcalls, hrules.length_runs_le hexecution, ?_⟩
  intro i a b ha hb
  have hkept : l.compileRules.KeepsLineEnds := hcompile ▸ Repair.compileRules_keepsLineEnds
  have hkept' : l.executionRules.KeepsLineEnds := hexecution ▸ Repair.executionRules_keepsLineEnds
  obtain ⟨old, new, hretried⟩ := (hrules.exists_retried htool hkept hkept' hread hdecode).1 ha hb
  rw [hcompile] at hretried
  refine ⟨old, new, hretried, ?_⟩
  rw [hretried.new_eq, Repair.text_attempt_ne_iff]

theorem retries_see_patches_patient :
    ∃ o t compiles runs new, Loop.patient.run (.ofText "/project") "ServiceTest.kt"
        (.ofTest "returns Unit".toUTF8) = .ok o t ∧
      t.journal = (Session.ofTest "returns Unit".toUTF8).journal ++ new ∧
      new.filterMap Event.call? = callsOf (Loop.patient.callOf "ServiceTest.kt" .compile) compiles ++
        callsOf (Loop.patient.callOf "ServiceTest.kt" .execute) runs ∧
      runs.length ≤ 1 ∧
      ∀ i a b, compiles[i]? = some a → compiles[i + 1]? = some b → ∃ old new,
        a.Retried Repair.compileRules (Session.ofTest "returns Unit".toUTF8).workingDirectory
          (Path.ofText "/project" / "ServiceTest.kt") b old new ∧
        (new ≠ old ↔ Repair.Finds a.result.errorText old.toList) :=
  retries_see_patches _ _ _ _ (Session.read_ofTest _) (Action.decode_encode _)
    (BuildTool.keepsFile_failing _ _ _) rfl rfl

/-- A test file without stubs, and a tool that complains of one: the second compilation sees the text
on which the first one failed. -/
theorem bareTest_retried_unchanged :
    ∃ o t compiles runs a b, Loop.patient.run (.ofText "/project") "ServiceTest.kt"
        (.ofTest "class ServiceTest".toUTF8) = .ok o t ∧
      t.journal.filterMap Event.call? =
        callsOf (Loop.patient.callOf "ServiceTest.kt" .compile) compiles ++
          callsOf (Loop.patient.callOf "ServiceTest.kt" .execute) runs ∧
      compiles[0]? = some a ∧ compiles[1]? = some b ∧ a.result.success = false ∧
      a.files.text [] (Path.ofText "/project" / "ServiceTest.kt") = .ok "class ServiceTest" ∧
      b.files.text [] (Path.ofText "/project" / "ServiceTest.kt") = .ok "class ServiceTest" := by
  -- The tree after a repair that has found nothing.
  let files : FileTree := ⟨[(["project", "ServiceTest.kt"], .file "class ServiceTest".toUTF8),
    (["project"], .directory)]⟩
  have hread : (Session.ofTest "class ServiceTest".toUTF8).files.text []
      (Path.ofText "/project" / "ServiceTest.kt") = .ok "class ServiceTest" := rfl
  have hreread : files.text [] (Path.ofText "/project" / "ServiceTest.kt") =
      .ok "class ServiceTest" := rfl
  have hwrite : (Session.ofTest "class ServiceTest".toUTF8).files.write []
      (Path.ofText "/project" / "ServiceTest.kt") "class ServiceTest".toUTF8 = .ok files := rfl
  have hrewrite : files.write [] (Path.ofText "/project" / "ServiceTest.kt")
      "class ServiceTest".toUTF8 = .ok files := rfl
  have hrules : LoopRun Loop.patient (.ofText "/project") "ServiceTest.kt"
      (.ofTest "class ServiceTest".toUTF8) _ _ _ _ :=
    .executed (.retried rfl rfl hread (by decide) hwrite
      (.retried rfl rfl hreread (by decide) hrewrite (.passed rfl rfl))) rfl (.passed rfl rfl)
  have hrun := hrules.run_eq (FileTree.isFile_of_read (Session.read_ofTest _))
  obtain ⟨new, hnew, hcalls⟩ := hrules.calls_eq
  have hjournal := (congrArg (List.filterMap Event.call?) hnew).trans hcalls
  exact ⟨_, _, _, _, _, _, hrun, hjournal, rfl, rfl, rfl, rfl, rfl⟩

end Testsmith
