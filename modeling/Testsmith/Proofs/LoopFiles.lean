import Testsmith.Proofs.LoopProtocol

/-!
# The test file during a run

Which bytes of the test file the build tool sees at each call, and when the file is rewritten. Between
two attempts of a stage the file is read with unified line ends, patched by the rules that fire on the
failure, and written. So what an attempt sees is a fold over the failures before it
(`Repair.Policy.contentAfter`), and the execution stage goes on from where compiling has left the file.
The invariant of the induction is that the text on disk is the text that was written, which is true
because patches keep the line ends unified. `run_sees_repairs` is the main statement.
-/

namespace Testsmith

variable {σ : Type}

/-! ## Patches and line ends -/

namespace Text

theorem mem_of_mem_replaceFrom {word new : List Char} {follows : List Char → Bool} {covered : Nat}
    {text : List Char} {c : Char} (h : c ∈ replaceFrom word new follows covered text) :
    c ∈ text ∨ c ∈ new := by
  induction text generalizing covered with
  | nil => simp [replaceFrom] at h
  | cons d rest ih =>
    have hrest : ∀ {covered : Nat}, c ∈ replaceFrom word new follows covered rest →
        c ∈ d :: rest ∨ c ∈ new :=
      fun h => (ih h).imp (List.mem_cons_of_mem d) id
    cases covered with
    | succ covered => exact hrest h
    | zero =>
      unfold replaceFrom at h
      split at h
      · rcases List.mem_append.1 h with h | h
        · exact .inr h
        · exact hrest h
      · rcases List.mem_cons.1 h with rfl | h
        · exact .inl List.mem_cons_self
        · exact hrest h

theorem not_mem_replaceAll {word new text : List Char} {follows : List Char → Bool} {c : Char}
    (hnew : c ∉ new) (htext : c ∉ text) : c ∉ replaceAll word new follows text := by
  intro h
  rcases mem_of_mem_replaceFrom h with h | h
  · exact htext h
  · exact hnew h

end Text

namespace Repair

/-- The patches of a policy bring no carriage return into a text. -/
def Policy.KeepsLineEnds (policy : Policy) : Prop :=
  ∀ rule ∈ policy, ∀ text, '\r' ∉ text → '\r' ∉ rule.patch.apply text

theorem compileRules_keepsLineEnds : Policy.KeepsLineEnds compileRules := by
  intro rule hrule text htext
  rcases List.mem_cons.1 hrule with rfl | hrule
  · exact Text.not_mem_replaceAll (by decide) htext
  · rw [List.mem_singleton.1 hrule]
    exact Text.not_mem_replaceAll (by decide) (Text.not_mem_replaceAll (by decide) htext)

theorem executionRules_keepsLineEnds : Policy.KeepsLineEnds executionRules := by
  intro rule hrule
  cases hrule

namespace Policy

/-! ## What a file holds after some failures -/

/-- The text after all rules that fire on a failure. -/
def patched (policy : Policy) (text : List Char) (failure : String) : List Char :=
  (policy.firing failure).foldl (fun text rule => rule.patch.apply text) text

/-- The text after all rules that fire on each of some failures, in order. -/
def repaired (policy : Policy) (text : String) (failures : List String) : String :=
  String.ofList (failures.foldl policy.patched text.toList)

/-- The content of a file that was repaired after each of some failures. -/
def contentAfter (policy : Policy) (content : ByteArray) (text : String) :
    (failures : List String) → ByteArray
  | [] => content
  | failures => (policy.repaired text failures).toUTF8

variable {policy : Policy} {content : ByteArray} {text failure : String} {failures : List String}

@[simp] theorem repaired_nil : policy.repaired text [] = text := String.ofList_toList

theorem text_attempt : (policy.attempt text failure).text = policy.repaired text [failure] := rfl

theorem repaired_cons : policy.repaired text (failure :: failures) =
    policy.repaired (policy.repaired text [failure]) failures := by
  simp [repaired]

theorem contentAfter_cons : policy.contentAfter content text (failure :: failures) =
    policy.contentAfter (policy.repaired text [failure]).toUTF8 (policy.repaired text [failure])
      failures := by
  cases failures with
  | nil => rfl
  | cons next failures =>
    show (policy.repaired text _).toUTF8 = (policy.repaired _ _).toUTF8
    rw [repaired_cons]

theorem not_mem_patched (hpolicy : policy.KeepsLineEnds) {text : List Char} (h : '\r' ∉ text)
    (failure : String) : '\r' ∉ policy.patched text failure := by
  unfold patched
  have hrules : ∀ rule ∈ policy.firing failure, rule ∈ policy :=
    fun rule hrule => (List.mem_filter.1 hrule).1
  generalize policy.firing failure = rules at hrules
  induction rules generalizing text with
  | nil => exact h
  | cons rule rules ih =>
    have hrule := hpolicy rule (hrules rule List.mem_cons_self) text h
    exact ih hrule fun other hother => hrules other (List.mem_cons_of_mem rule hother)

theorem not_mem_repaired (hpolicy : policy.KeepsLineEnds) (h : '\r' ∉ text.toList)
    (failures : List String) : '\r' ∉ (policy.repaired text failures).toList := by
  induction failures generalizing text with
  | nil => rwa [repaired_nil]
  | cons failure failures ih =>
    rw [repaired_cons]
    refine ih ?_
    rw [repaired, String.toList_ofList]
    exact not_mem_patched hpolicy h failure

/-- What a repair has written is read again as it was written. -/
theorem decode_repaired (hpolicy : policy.KeepsLineEnds) (h : '\r' ∉ text.toList)
    (failures : List String) :
    Action.decode (policy.repaired text failures).toUTF8 = .ok (policy.repaired text failures) :=
  Action.decode_encode_of_not_mem (not_mem_repaired hpolicy h failures)

theorem decode_contentAfter (hpolicy : policy.KeepsLineEnds)
    (h : Action.decode content = .ok text) (failures : List String) :
    Action.decode (policy.contentAfter content text failures) =
      .ok (policy.repaired text failures) := by
  cases failures with
  | nil => rw [repaired_nil]; exact h
  | cons failure failures => exact decode_repaired hpolicy (Action.not_mem_of_decode h) _

end Policy

end Repair

/-! ## Calls and rewrites -/

/-- An event that the build tool or the files can notice. -/
def Event.acts : Event → Bool
  | .called .. | .wrote .. => true
  | .read .. | .ignored .. => false

/-- An event that changes files. -/
def Event.rewrites : Event → Bool
  | .wrote .. => true
  | _ => false

/-- The failures of some attempts. -/
def failuresOf (as : List Attempt) : List String := as.map (·.result.errorText)

/-- The calls of a stage, with one rewrite of the test file between two of them. -/
def stageEvents (c : Call) (file : Path) (policy : Repair.Policy) : String → List Attempt → List Event
  | _, [] => []
  | _, [a] => [.called c a.files (.ok a.result)]
  | text, a :: as =>
    let repaired := policy.repaired text [a.result.errorText]
    .called c a.files (.ok a.result) :: .wrote file repaired ::
      stageEvents c file policy repaired as

theorem countP_stageEvents (c : Call) (file : Path) (policy : Repair.Policy) (text : String)
    (as : List Attempt) : (stageEvents c file policy text as).countP Event.rewrites = as.length - 1 := by
  fun_induction stageEvents c file policy text as with
  | case1 | case2 => rfl
  | case3 text a as hne repaired ih =>
    have hpos : 0 < as.length := List.length_pos_iff.2 (by simpa using hne)
    simp only [List.countP_cons, ih, List.length_cons, Event.rewrites, if_true, Bool.false_eq_true,
      if_false]
    omega

theorem countP_rewrites_filter (events : List Event) :
    (events.filter Event.acts).countP Event.rewrites = events.countP Event.rewrites := by
  rw [List.countP_filter]
  congr 1
  funext e
  cases e <;> rfl

/-! ## Stages -/

/-- The build tool answers every call with a result, and leaves the content of a file alone. -/
def BuildTool.KeepsFile (tool : BuildTool σ) (cwd : Location) (file : Path) : Prop :=
  ∀ c state files content, files.read cwd file = .ok content →
    ∃ r, (tool.call c state files).1 = .ok r ∧
      (tool.call c state files).2.2.read cwd file = .ok content

theorem BuildTool.KeepsFile.read_afterCall {tool : BuildTool σ} {s : Session σ} {file : Path}
    (h : tool.KeepsFile s.workingDirectory file) (c : Call) {content : ByteArray}
    (hread : s.files.read s.workingDirectory file = .ok content) :
    (s.afterCall tool c).files.read s.workingDirectory file = .ok content := by
  obtain ⟨_, -, hkept⟩ := h c s.tool s.files content hread
  exact hkept

theorem BuildTool.KeepsFile.keepsText {tool : BuildTool σ} {cwd : Location} {file : Path}
    (h : tool.KeepsFile cwd file) : tool.KeepsText cwd file := by
  intro c state files text htext
  obtain ⟨content, hcontent, hdecode⟩ := FileTree.text_eq_ok_iff.1 htext
  obtain ⟨r, hr, hkept⟩ := h c state files content hcontent
  exact ⟨r, hr, text, FileTree.text_of_read hkept hdecode⟩

theorem BuildTool.keepsFile_failing (error : String) (cwd : Location) (file : Path) :
    (failing error).KeepsFile cwd file := by
  intro c more files content hcontent
  obtain ⟨⟨r, hr⟩, hfiles⟩ := call_failing error c more files
  exact ⟨r, hr, by rw [hfiles, hcontent]⟩

/-- The test file during a stage that found it with some content: what each attempt sees, what the
stage leaves, and what it does. -/
structure StageFiles (cwd : Location) (c : Call) (file : Path) (policy : Repair.Policy)
    (content : ByteArray) (text : String) (as : List Attempt) (files : FileTree)
    (events : List Event) : Prop where
  sees : ∀ i (a : Attempt), as[i]? = some a → a.files.read cwd file =
    .ok (policy.contentAfter content text (failuresOf (as.take i)))
  leaves : files.read cwd file =
    .ok (policy.contentAfter content text (failuresOf as.dropLast))
  events_eq : events.filter Event.acts = stageEvents c file policy text as

/-- A stage of one attempt does not rewrite the file. -/
theorem StageFiles.of_call {cwd : Location} {c : Call} {file : Path} {policy : Repair.Policy}
    {content : ByteArray} {text : String} {a : Attempt} {files : FileTree} {events : List Event}
    (hseen : a.files.read cwd file = .ok content) (hleft : files.read cwd file = .ok content)
    (hevents : events.filter Event.acts = [.called c a.files (.ok a.result)]) :
    StageFiles cwd c file policy content text [a] files events := by
  refine ⟨?_, hleft, hevents⟩
  intro i b hb
  obtain ⟨hi, rfl⟩ := List.getElem?_eq_some_iff.1 hb
  have hzero : i = 0 := by simpa using hi
  subst hzero
  exact hseen

/-- The induction over a stage: before each attempt the file holds what the repairs so far have made of
the content that the stage found. -/
theorem StageRun.files {stage : Stage} {tool : BuildTool σ} {c : Call} {policy : Repair.Policy}
    {file : Path} {spare : Nat} {s t : Session σ} {as : List Attempt} {e : StageEnd}
    (h : StageRun stage tool c policy file spare s as e t)
    (htool : tool.KeepsFile s.workingDirectory file) (hpolicy : policy.KeepsLineEnds)
    {content : ByteArray} {text : String}
    (hread : s.files.read s.workingDirectory file = .ok content)
    (hdecode : Action.decode content = .ok text) :
    ∃ new, t.journal = s.journal ++ new ∧
      StageFiles s.workingDirectory c file policy content text as t.files new := by
  induction h generalizing content text with
  | @passed _ s r answer _ | @usedUp s r answer _ =>
    have hkept := htool.read_afterCall c hread
    exact ⟨_, Session.afterCall_journal_of_ok answer, .of_call hread hkept rfl⟩
  | @unknown _ s r _ answer _ _ _ =>
    have hkept := htool.read_afterCall c hread
    refine ⟨[.called c s.files (.ok r), .read file], ?_, .of_call hread hkept rfl⟩
    rw [Session.noting_journal, Session.afterCall_journal_of_ok answer, List.append_assoc]
    rfl
  | @retried _ s t r old files later e answer _ read _ written rest ih =>
    have hkept := htool.read_afterCall c hread
    -- The repair reads the text of the content, since the tool has left that alone.
    have hold : old = text := by
      have htext := FileTree.text_of_read hkept hdecode
      rw [read] at htext
      exact Except.ok.inj htext
    subst hold
    rw [Repair.Policy.text_attempt] at written
    have hreread := FileTree.read_of_written written
    obtain ⟨new, hnew, hlater⟩ := ih htool hreread
      (Repair.Policy.decode_repaired hpolicy (Action.not_mem_of_decode hdecode) _)
    refine ⟨.called c s.files (.ok r) :: .read file ::
      .wrote file (policy.repaired old [r.errorText]) :: new, ?_, ?_, ?_, ?_⟩
    · rw [hnew, Session.afterRepair_journal, Session.afterCall_journal_of_ok answer,
        Repair.Policy.text_attempt]
      simp only [List.append_assoc, List.cons_append, List.nil_append]
    · intro i a ha
      cases i with
      | zero => cases ha; exact hread
      | succ i =>
        rw [List.take_succ_cons, failuresOf, List.map_cons, Repair.Policy.contentAfter_cons]
        exact hlater.sees i a ha
    · rw [List.dropLast_cons_of_ne_nil rest.ne_nil, failuresOf, List.map_cons,
        Repair.Policy.contentAfter_cons]
      exact hlater.leaves
    · have hevents := hlater.events_eq
      rw [List.filter_cons_of_pos rfl, List.filter_cons_of_neg (by simp [Event.acts]),
        List.filter_cons_of_pos rfl, hevents, stageEvents]
      exact rest.ne_nil

/-- One rewrite stands between two attempts, and no other. -/
theorem StageFiles.rewrites_eq {cwd : Location} {c : Call} {file : Path} {policy : Repair.Policy}
    {content : ByteArray} {text : String} {as : List Attempt} {files : FileTree}
    {events : List Event} (h : StageFiles cwd c file policy content text as files events) :
    events.countP Event.rewrites = as.length - 1 := by
  rw [← countP_rewrites_filter, h.events_eq, countP_stageEvents]

/-- The last attempt sees what the stage leaves. -/
theorem StageFiles.getLast?_sees {cwd : Location} {c : Call} {file : Path} {policy : Repair.Policy}
    {content : ByteArray} {text : String} {as : List Attempt} {files : FileTree}
    {events : List Event} (h : StageFiles cwd c file policy content text as files events)
    {a : Attempt} (ha : as.getLast? = some a) : a.files.read cwd file = files.read cwd file := by
  rw [List.getLast?_eq_getElem?] at ha
  rw [h.sees _ a ha, h.leaves, List.dropLast_eq_take]

/-- A stage without attempts does nothing. -/
theorem StageFiles.nil {cwd : Location} {c : Call} {file : Path} {policy : Repair.Policy}
    {content : ByteArray} {text : String} {files : FileTree}
    (h : files.read cwd file = .ok content) :
    StageFiles cwd c file policy content text [] files [] := by
  refine ⟨?_, h, rfl⟩
  intro i a ha
  cases ha

theorem StageRun.length_eq_one {stage : Stage} {tool : BuildTool σ} {c : Call} {file : Path}
    {spare : Nat} {s t : Session σ} {as : List Attempt} {e : StageEnd}
    (h : StageRun stage tool c [] file spare s as e t) : as.length = 1 := by
  cases h with
  | passed | usedUp | unknown => rfl
  | retried _ _ _ fires => exact absurd rfl fires

/-! ## Runs -/

/-- The test file during a run that found it with some content and text, left it with other content
after compiling, and did some things in each stage. Executing starts from what compiling has left, and the
result of every attempt is what the build tool answers. -/
structure LoopFiles (l : Loop σ) (root : Path) (testPath : String) (content : ByteArray)
    (text : String) (s t : Session σ) (compiles runs : List Attempt) (middle : FileTree)
    (first second : List Event) : Prop where
  journal_eq : t.journal = s.journal ++ (first ++ second)
  answered : l.tool.Dialogue s.tool
    (callsOf (l.callOf testPath .compile) compiles ++ callsOf (l.callOf testPath .execute) runs) t.tool
  compiled : StageFiles s.workingDirectory
    (.compile (Layout.moduleOf testPath l.fallbackModule) testPath) (root / testPath)
    l.compileRules content text compiles middle first
  executed : StageFiles s.workingDirectory
    (.run (Layout.moduleOf testPath l.fallbackModule) (Layout.className testPath)) (root / testPath)
    l.executionRules (l.compileRules.contentAfter content text (failuresOf compiles.dropLast))
    (l.compileRules.repaired text (failuresOf compiles.dropLast)) runs t.files second
  rewrites : first.countP Event.rewrites = compiles.length - 1 ∧
    second.countP Event.rewrites = runs.length - 1
  untouched : compiles.length = 1 → runs.length ≤ 1 →
    t.files.read s.workingDirectory (root / testPath) = .ok content
  unchanged_by_runs : l.executionRules = Repair.executionRules →
    (∀ b ∈ runs, ∃ a, compiles.getLast? = some a ∧ a.result.success = true ∧
      b.files.read s.workingDirectory (root / testPath) =
        a.files.read s.workingDirectory (root / testPath)) ∧
    t.files.read s.workingDirectory (root / testPath) =
      middle.read s.workingDirectory (root / testPath) ∧
    second.countP Event.rewrites = 0

theorem LoopRun.files {l : Loop σ} {root : Path} {testPath : String} {s t : Session σ}
    {as bs : List Attempt} {o : LoopOutcome} (h : LoopRun l root testPath s as bs o t)
    (htool : l.tool.KeepsFile s.workingDirectory (root / testPath))
    (hcompile : l.compileRules.KeepsLineEnds) (hexecution : l.executionRules.KeepsLineEnds)
    {content : ByteArray} {text : String}
    (hread : s.files.read s.workingDirectory (root / testPath) = .ok content)
    (hdecode : Action.decode content = .ok text) :
    ∃ middle first second,
      LoopFiles l root testPath content text s t as bs middle first second := by
  have hanswered := h.dialogue
  cases h with
  | @stopped u _ e compiled gaveUp =>
    obtain ⟨new, hnew, hfiles⟩ := compiled.files htool hcompile hread hdecode
    refine ⟨u.files, new, [], by rw [List.append_nil]; exact hnew, hanswered, hfiles,
      .nil hfiles.leaves, ⟨hfiles.rewrites_eq, rfl⟩, ?_, ?_⟩
    · intro hone _
      obtain ⟨a, rfl⟩ := List.length_eq_one_iff.1 hone
      exact hfiles.leaves
    · intro _
      exact ⟨fun b hb => absurd hb List.not_mem_nil, rfl, rfl⟩
  | @executed u v _ _ e f compiled passed executed =>
    obtain ⟨new, hnew, hfiles⟩ := compiled.files htool hcompile hread hdecode
    rw [Session.starting_workingDirectory] at hfiles
    have hcwd : u.workingDirectory = s.workingDirectory := compiled.workingDirectory_eq
    obtain ⟨more, hmore, hruns⟩ := executed.files (hcwd ▸ htool) hexecution
      (hcwd ▸ hfiles.leaves) (Repair.Policy.decode_contentAfter hcompile hdecode _)
    rw [Session.starting_workingDirectory, Session.finishing_workingDirectory, hcwd] at hruns
    refine ⟨u.files, new, more, Session.journal_after_stages hnew hmore, hanswered, hfiles, hruns,
      ⟨hfiles.rewrites_eq, hruns.rewrites_eq⟩, ?_, ?_⟩
    · intro hone hle
      obtain ⟨a, rfl⟩ := List.length_eq_one_iff.1 hone
      have hpos := List.length_pos_iff.2 executed.ne_nil
      obtain ⟨b, rfl⟩ := List.length_eq_one_iff.1 (by omega : bs.length = 1)
      exact hruns.leaves
    · intro hdefault
      rw [hdefault] at executed
      obtain ⟨b, rfl⟩ := List.length_eq_one_iff.1 executed.length_eq_one
      refine ⟨?_, ?_, hruns.rewrites_eq⟩
      · intro b' hb'
        rw [List.mem_singleton.1 hb']
        obtain ⟨r, hr, hsuccess⟩ := compiled.passed_iff.1 passed
        rw [List.getLast?_map] at hr
        obtain ⟨a, ha, rfl⟩ := Option.map_eq_some_iff.1 hr
        refine ⟨a, ha, hsuccess, ?_⟩
        rw [hfiles.getLast?_sees ha, hfiles.leaves]
        exact hruns.sees 0 b rfl
      · rw [Session.finishing_files, hruns.leaves, hfiles.leaves]
        rfl

/-- **The build tool sees repaired files**: where it answers every call and leaves the test file alone,
a run comes to an end, and each call finds the file as the repairs for the failures before it have left
it. The file is rewritten between two attempts of a stage and at no other time. -/
theorem run_sees_repairs (l : Loop σ) (root : Path) (testPath : String) (s : Session σ)
    {content : ByteArray} {text : String}
    (hread : s.files.read s.workingDirectory (root / testPath) = .ok content)
    (hdecode : Action.decode content = .ok text)
    (htool : l.tool.KeepsFile s.workingDirectory (root / testPath))
    (hcompile : l.compileRules.KeepsLineEnds) (hexecution : l.executionRules.KeepsLineEnds) :
    ∃ o t compiles runs middle first second, l.run root testPath s = .ok o t ∧
      LoopProtocol l testPath s t o (compiles.map (·.result)) (runs.map (·.result)) ∧
      LoopFiles l root testPath content text s t compiles runs middle first second := by
  obtain ⟨as, bs, o, t, hrun, hrules⟩ :=
    exists_loopRun htool.keepsText (FileTree.text_of_read hread hdecode)
  obtain ⟨middle, first, second, hfiles⟩ := hrules.files htool hcompile hexecution hread hdecode
  exact ⟨o, t, as, bs, middle, first, second, hrun, hrules.protocol, hfiles⟩

theorem run_sees_repairs_patient :
    ∃ o t compiles runs middle first second, Loop.patient.run (.ofText "/project") "ServiceTest.kt"
        (.ofTest "returns Unit".toUTF8) = .ok o t ∧
      LoopProtocol Loop.patient "ServiceTest.kt" (.ofTest "returns Unit".toUTF8) t o
        (compiles.map (·.result)) (runs.map (·.result)) ∧
      LoopFiles Loop.patient (.ofText "/project") "ServiceTest.kt" "returns Unit".toUTF8
        (.ofList (Text.unifyNewlines "returns Unit".toList)) (.ofTest "returns Unit".toUTF8) t
        compiles runs middle first second :=
  run_sees_repairs _ _ _ _ (Session.read_ofTest _) (Action.decode_encode _)
    (BuildTool.keepsFile_failing _ _ _) Repair.compileRules_keepsLineEnds
    Repair.executionRules_keepsLineEnds

end Testsmith
