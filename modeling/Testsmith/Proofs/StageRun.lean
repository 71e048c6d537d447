import Testsmith.Loop
import Testsmith.Proofs.FileRewrite

/-!
# The rules of a stage

A stage of the loop as a relation between the session before, its attempts, its end and the session
after: an attempt passes, or is the last one that is permitted, or fails in a way that no rule knows,
or is followed by a repair and the rest of the stage (`StageRun`). The function that makes attempts
follows these rules and no others (`attempts_eq_ok_iff`), so what a stage does is proved by induction
on the rules. `StageRun.ending` and its companions say how the end of a stage tells of its attempts.
-/

namespace Testsmith

variable {σ : Type}

/-! ## Firing -/

namespace Text

theorem occursIn_iff {word text : List Char} : occursIn word text = true ↔ word <:+: text := by
  induction text with
  | nil => cases word <;> simp [occursIn]
  | cons c rest ih =>
    unfold occursIn
    rw [Bool.or_eq_true, ih, List.isPrefixOf_iff_prefix, List.infix_cons_iff]

end Text

namespace Repair

theorem Rule.fires_iff {rule : Rule} {message : String} :
    rule.fires message = true ↔ rule.signature.toList <:+: message.toList :=
  Text.occursIn_iff

/-- The names of the rules that fire on a message. -/
def Policy.namesOn (policy : Policy) (message : String) : List String :=
  (policy.firing message).map (·.name)

theorem Policy.firing_eq_nil_iff {policy : Policy} {message : String} :
    policy.firing message = [] ↔ ∀ rule ∈ policy, rule.fires message = false := by
  simp [firing, List.filter_eq_nil_iff]

theorem Policy.firing_ne_nil_iff {policy : Policy} {message : String} :
    policy.firing message ≠ [] ↔ ∃ rule ∈ policy, rule.fires message = true := by
  rw [Ne, firing_eq_nil_iff]
  simp

theorem Policy.fixed_attempt {policy : Policy} {text message : String} :
    (policy.attempt text message).fixed = true ↔ policy.firing message ≠ [] := by
  simp [attempt, Outcome.fixed]

end Repair

/-! ## Repairing a file -/

/-- The session after a text was read, repaired after a failure, and written, which has led to some
files. -/
def Session.afterRepair (s : Session σ) (file : Path) (policy : Repair.Policy)
    (message text : String) (files : FileTree) : Session σ :=
  (s.noting (.read file)).afterWrite file (policy.attempt text message).text files

theorem Session.afterRepair_journal (s : Session σ) (file : Path) (policy : Repair.Policy)
    (message text : String) (files : FileTree) :
    (s.afterRepair file policy message text files).journal =
      s.journal ++ [.read file, .wrote file (policy.attempt text message).text] := by
  rw [afterRepair, afterWrite_journal, noting_journal, List.append_assoc]
  rfl

theorem Session.afterCall_journal_of_ok {s : Session σ} {tool : BuildTool σ} {c : Call}
    {r : ToolResult} (answer : (tool.call c s.tool s.files).1 = .ok r) :
    (s.afterCall tool c).journal = s.journal ++ [.called c s.files (.ok r)] := by
  rw [afterCall_journal, answer]

theorem repairFile_of_fires {s : Session σ} {file : Path} {message text : String}
    {policy : Repair.Policy} {files : FileTree}
    (hread : s.files.text s.workingDirectory file = .ok text)
    (hfires : policy.firing message ≠ [])
    (hwrite : s.files.write s.workingDirectory file (policy.attempt text message).text.toUTF8 =
      .ok files) :
    repairFile file message policy s =
      .ok (policy.attempt text message) (s.afterRepair file policy message text files) := by
  unfold repairFile
  rw [Action.bind_of_ok (Action.readText_of_ok hread)]
  dsimp only
  rw [if_pos (Repair.Policy.fixed_attempt.2 hfires)]
  rw [Action.bind_of_ok (Action.writeText_of_ok (s := s.noting (.read file)) hwrite)]
  rfl

theorem repairFile_of_silent {s : Session σ} {file : Path} {message text : String}
    {policy : Repair.Policy} (hread : s.files.text s.workingDirectory file = .ok text)
    (hfires : policy.firing message = []) :
    repairFile file message policy s =
      .ok (policy.attempt text message) (s.noting (.read file)) := by
  unfold repairFile
  rw [Action.bind_of_ok (Action.readText_of_ok hread)]
  dsimp only
  rw [if_neg (by rw [Repair.Policy.fixed_attempt]; simp [hfires])]
  rfl

/-- A repair that ends well has read a text, and has written it where a rule fired. -/
theorem repairFile_eq_ok {s t : Session σ} {file : Path} {message : String}
    {policy : Repair.Policy} {o : Repair.Outcome} (h : repairFile file message policy s = .ok o t) :
    ∃ text, s.files.text s.workingDirectory file = .ok text ∧ o = policy.attempt text message ∧
      ((policy.firing message = [] ∧ t = s.noting (.read file)) ∨
        (policy.firing message ≠ [] ∧ ∃ files,
          s.files.write s.workingDirectory file o.text.toUTF8 = .ok files ∧
          t = s.afterRepair file policy message text files)) := by
  cases hread : s.files.text s.workingDirectory file with
  | error failure =>
    unfold repairFile at h
    rw [Action.bind_of_error (Action.readText_of_error hread)] at h
    cases h
  | ok text =>
    refine ⟨text, rfl, ?_⟩
    by_cases hfires : policy.firing message = []
    · rw [repairFile_of_silent hread hfires] at h
      cases h
      exact ⟨rfl, .inl ⟨hfires, rfl⟩⟩
    · cases hwrite : s.files.write s.workingDirectory file
        (policy.attempt text message).text.toUTF8 with
      | ok files =>
        rw [repairFile_of_fires hread hfires hwrite] at h
        cases h
        exact ⟨rfl, .inr ⟨hfires, files, hwrite, rfl⟩⟩
      | error failure =>
        unfold repairFile at h
        rw [Action.bind_of_ok (Action.readText_of_ok hread)] at h
        dsimp only at h
        rw [if_pos (Repair.Policy.fixed_attempt.2 hfires),
          Action.bind_of_error
            (Action.writeText_of_error (s := s.noting (.read file)) hwrite)] at h
        cases h

/-! ## The rules -/

/-- An attempt: the files that the build tool saw, and its result. -/
structure Attempt where
  files : FileTree
  result : ToolResult

/-- A stage with some attempts to spare, from a session to a session, with its attempts in order. -/
inductive StageRun (stage : Stage) (tool : BuildTool σ) (c : Call) (policy : Repair.Policy)
    (file : Path) :
    (spare : Nat) → Session σ → List Attempt → StageEnd → Session σ → Prop
  | passed {spare : Nat} {s : Session σ} {r : ToolResult}
      (answer : (tool.call c s.tool s.files).1 = .ok r) (success : r.success = true) :
      StageRun stage tool c policy file spare s [⟨s.files, r⟩] (.atOnce stage r none)
        (s.afterCall tool c)
  | usedUp {s : Session σ} {r : ToolResult}
      (answer : (tool.call c s.tool s.files).1 = .ok r) (failed : r.success = false) :
      StageRun stage tool c policy file 0 s [⟨s.files, r⟩]
        (.atOnce stage r (some .noAttemptsLeft)) (s.afterCall tool c)
  | unknown {spare : Nat} {s : Session σ} {r : ToolResult} {text : String}
      (answer : (tool.call c s.tool s.files).1 = .ok r) (failed : r.success = false)
      (read : (s.afterCall tool c).files.text s.workingDirectory file = .ok text)
      (silent : policy.firing r.errorText = []) :
      StageRun stage tool c policy file (spare + 1) s [⟨s.files, r⟩]
        (.atOnce stage r (some .unknownFailure)) ((s.afterCall tool c).noting (.read file))
  | retried {spare : Nat} {s t : Session σ} {r : ToolResult} {text : String} {files : FileTree}
      {later : List Attempt} {e : StageEnd}
      (answer : (tool.call c s.tool s.files).1 = .ok r) (failed : r.success = false)
      (read : (s.afterCall tool c).files.text s.workingDirectory file = .ok text)
      (fires : policy.firing r.errorText ≠ [])
      (written : (s.afterCall tool c).files.write s.workingDirectory file
        (policy.attempt text r.errorText).text.toUTF8 = .ok files)
      (rest : StageRun stage tool c policy file spare
        ((s.afterCall tool c).afterRepair file policy r.errorText text files) later e t) :
      StageRun stage tool c policy file (spare + 1) s (⟨s.files, r⟩ :: later)
        (.afterRetry stage (policy.namesOn r.errorText) e) t

section Rules

variable {stage : Stage} {tool : BuildTool σ} {c : Call} {policy : Repair.Policy} {file : Path}
  {spare : Nat} {s t : Session σ} {as : List Attempt} {e : StageEnd}

/-- What follows the rules is what the function does. -/
theorem StageRun.attempts_eq (h : StageRun stage tool c policy file spare s as e t) :
    attempts stage (Action.call tool c) policy file spare s = .ok e t := by
  induction h with
  | passed answer success =>
    cases ‹Nat› with
    | zero =>
      unfold attempts
      rw [Action.bind_of_ok (Action.call_of_ok answer), success]
      rfl
    | succ spare =>
      unfold attempts
      rw [Action.bind_of_ok (Action.call_of_ok answer), if_pos success]
      rfl
  | usedUp answer failed =>
    unfold attempts
    rw [Action.bind_of_ok (Action.call_of_ok answer), failed]
    rfl
  | unknown answer failed read silent =>
    unfold attempts
    rw [Action.bind_of_ok (Action.call_of_ok answer), if_neg (by simp [failed]),
      Action.bind_of_ok (repairFile_of_silent read silent),
      if_neg (by rw [Repair.Policy.fixed_attempt]; simp [silent])]
    rfl
  | retried answer failed read fires written rest ih =>
    unfold attempts
    rw [Action.bind_of_ok (Action.call_of_ok answer), if_neg (by simp [failed]),
      Action.bind_of_ok (repairFile_of_fires read fires written),
      if_pos (Repair.Policy.fixed_attempt.2 fires), Action.bind_of_ok ih]
    rfl

/-- What the function does follows the rules. -/
theorem exists_stageRun_of_attempts
    (h : attempts stage (Action.call tool c) policy file spare s = .ok e t) :
    ∃ as, StageRun stage tool c policy file spare s as e t := by
  induction spare generalizing s e t with
  | zero =>
    unfold attempts at h
    cases answer : (tool.call c s.tool s.files).1 with
    | error failure => rw [Action.bind_of_error (Action.call_of_error answer)] at h; cases h
    | ok r =>
      rw [Action.bind_of_ok (Action.call_of_ok answer)] at h
      cases hr : r.success with
      | true => rw [hr] at h; cases h; exact ⟨_, .passed answer hr⟩
      | false => rw [hr] at h; cases h; exact ⟨_, .usedUp answer hr⟩
  | succ spare ih =>
    unfold attempts at h
    cases answer : (tool.call c s.tool s.files).1 with
    | error failure => rw [Action.bind_of_error (Action.call_of_error answer)] at h; cases h
    | ok r =>
      rw [Action.bind_of_ok (Action.call_of_ok answer)] at h
      cases hr : r.success with
      | true =>
        rw [if_pos hr] at h
        cases h
        exact ⟨_, .passed answer hr⟩
      | false =>
        rw [if_neg (by simp [hr])] at h
        obtain ⟨o, u, hrepair, h⟩ := Action.bind_eq_ok h
        obtain ⟨text, hread, rfl, ⟨silent, rfl⟩ | ⟨fires, files, hwrite, rfl⟩⟩ :=
          repairFile_eq_ok hrepair
        · rw [if_neg (by rw [Repair.Policy.fixed_attempt]; simp [silent])] at h
          cases h
          exact ⟨_, .unknown answer hr hread silent⟩
        · rw [if_pos (Repair.Policy.fixed_attempt.2 fires)] at h
          obtain ⟨later, u, hlater, h⟩ := Action.bind_eq_ok h
          cases h
          obtain ⟨as, hrest⟩ := ih hlater
          exact ⟨_, .retried answer hr hread fires hwrite hrest⟩

/-- The function that makes attempts follows the rules of a stage and no others. -/
theorem attempts_eq_ok_iff :
    attempts stage (Action.call tool c) policy file spare s = .ok e t ↔
      ∃ as, StageRun stage tool c policy file spare s as e t :=
  ⟨exists_stageRun_of_attempts, fun ⟨_, h⟩ => h.attempts_eq⟩

end Rules

/-! ## What the end of a stage tells of its attempts -/

namespace StageRun

variable {stage : Stage} {tool : BuildTool σ} {c : Call} {policy : Repair.Policy} {file : Path}
  {spare : Nat} {s t : Session σ} {as : List Attempt} {e : StageEnd}

theorem ne_nil (h : StageRun stage tool c policy file spare s as e t) : as ≠ [] := by
  cases h <;> exact List.cons_ne_nil _ _

theorem length_le (h : StageRun stage tool c policy file spare s as e t) :
    as.length ≤ spare + 1 := by
  induction h with
  | passed | usedUp | unknown => simp
  | retried _ _ _ _ _ _ ih => simpa using ih

theorem states_eq (h : StageRun stage tool c policy file spare s as e t) :
    e.states = List.replicate as.length (.attempting stage) := by
  induction h with
  | passed | usedUp | unknown => rfl
  | retried _ _ _ _ _ _ ih =>
    rw [List.length_cons, List.replicate_succ, ← ih]
    rfl

theorem retries_eq (h : StageRun stage tool c policy file spare s as e t) :
    e.retries + 1 = as.length := by
  induction h with
  | passed | usedUp | unknown => rfl
  | retried _ _ _ _ _ _ ih => rw [List.length_cons, ← ih]; rfl

theorem getLast?_eq (h : StageRun stage tool c policy file spare s as e t) :
    (as.map (·.result)).getLast? = some e.result := by
  induction h with
  | passed | usedUp | unknown => rfl
  | retried _ _ _ _ _ rest ih =>
    rw [List.map_cons, List.getLast?_cons_of_ne_nil (by simpa using rest.ne_nil), ih]
    rfl

theorem remediations_eq (h : StageRun stage tool c policy file spare s as e t) :
    e.remediations = as.dropLast.flatMap fun a => policy.namesOn a.result.errorText := by
  induction h with
  | passed | usedUp | unknown => rfl
  | retried _ _ _ _ _ rest ih =>
    rw [List.dropLast_cons_of_ne_nil rest.ne_nil, List.flatMap_cons, ← ih]
    rfl

/-- An attempt that others follow has failed, and a rule has fired on its failure. -/
theorem retried_of_mem_dropLast (h : StageRun stage tool c policy file spare s as e t) :
    ∀ a ∈ as.dropLast, a.result.success = false ∧ policy.firing a.result.errorText ≠ [] := by
  induction h with
  | passed | usedUp | unknown => intro a ha; cases ha
  | retried _ failed _ fires _ rest ih =>
    intro a ha
    rw [List.dropLast_cons_of_ne_nil rest.ne_nil] at ha
    rcases List.mem_cons.1 ha with rfl | ha
    · exact ⟨failed, fires⟩
    · exact ih a ha

/-- A stage passes with a success, or gives up after the last permitted attempt, or before it where no
rule fires. -/
theorem ending (h : StageRun stage tool c policy file spare s as e t) :
    (e.gaveUp = none ∧ e.result.success = true) ∨
    (e.gaveUp = some .noAttemptsLeft ∧ e.result.success = false ∧ as.length = spare + 1) ∨
    (e.gaveUp = some .unknownFailure ∧ e.result.success = false ∧ as.length ≤ spare ∧
      policy.firing e.result.errorText = []) := by
  induction h with
  | passed _ success => exact .inl ⟨rfl, success⟩
  | usedUp _ failed => exact .inr (.inl ⟨rfl, failed, rfl⟩)
  | unknown _ failed _ silent =>
    exact .inr (.inr ⟨rfl, failed, Nat.le_add_left 1 _, silent⟩)
  | retried _ _ _ _ _ _ ih =>
    rcases ih with ⟨hg, hr⟩ | ⟨hg, hr, hl⟩ | ⟨hg, hr, hl, hs⟩
    · exact .inl ⟨hg, hr⟩
    · exact .inr (.inl ⟨hg, hr, by rw [List.length_cons, hl]⟩)
    · exact .inr (.inr ⟨hg, hr, by rw [List.length_cons]; omega, hs⟩)

theorem report_eq (h : StageRun stage tool c policy file spare s as e t) :
    t.report = s.report := by
  induction h with
  | passed | usedUp | unknown => rfl
  | retried _ _ _ _ _ _ ih => exact ih

theorem workingDirectory_eq (h : StageRun stage tool c policy file spare s as e t) :
    t.workingDirectory = s.workingDirectory := by
  induction h with
  | passed | usedUp | unknown => rfl
  | retried _ _ _ _ _ _ ih => exact ih

end StageRun

/-! ## Calls in the journal -/

/-- A call, the files that the build tool saw, and its answer. -/
def Event.call? : Event → Option (Call × FileTree × Except Failure ToolResult)
  | .called c files answer => some (c, files, answer)
  | _ => none

/-- The calls that some attempts have made. -/
def callsOf (c : Call) (as : List Attempt) : List (Call × FileTree × Except Failure ToolResult) :=
  as.map fun a => (c, a.files, .ok a.result)

/-- The calls of a stage are its attempts, in order. -/
theorem StageRun.calls_eq {stage : Stage} {tool : BuildTool σ} {c : Call} {policy : Repair.Policy}
    {file : Path} {spare : Nat} {s t : Session σ} {as : List Attempt} {e : StageEnd}
    (h : StageRun stage tool c policy file spare s as e t) :
    ∃ new, t.journal = s.journal ++ new ∧ new.filterMap Event.call? = callsOf c as := by
  induction h with
  | passed answer _ | usedUp answer _ =>
    exact ⟨_, Session.afterCall_journal_of_ok answer, rfl⟩
  | @unknown _ s r _ answer _ _ _ =>
    refine ⟨[.called c s.files (.ok r), .read file], ?_, rfl⟩
    rw [Session.noting_journal, Session.afterCall_journal_of_ok answer, List.append_assoc]
    rfl
  | @retried _ s _ r text _ _ _ answer _ _ _ _ _ ih =>
    obtain ⟨new, hnew, hcalls⟩ := ih
    refine ⟨.called c s.files (.ok r) :: .read file ::
      .wrote file (policy.attempt text r.errorText).text :: new, ?_, ?_⟩
    · rw [hnew, Session.afterRepair_journal, Session.afterCall_journal_of_ok answer]
      simp only [List.append_assoc, List.cons_append, List.nil_append]
    · simp only [List.filterMap_cons, Event.call?, hcalls]
      rfl

/-! ## What the build tool has answered -/

/-- Some calls, one after the other, between two states of the build tool: each answer is the one that the
tool gives in the state in which the calls before have left it, on the files that are noted with the
call. -/
inductive BuildTool.Dialogue (tool : BuildTool σ) :
    σ → List (Call × FileTree × Except Failure ToolResult) → σ → Prop
  | done (state : σ) : Dialogue tool state [] state
  | call {c : Call} {state last : σ} {files : FileTree} {answer : Except Failure ToolResult}
      {later : List (Call × FileTree × Except Failure ToolResult)}
      (answered : (tool.call c state files).1 = answer)
      (rest : Dialogue tool (tool.call c state files).2.1 later last) :
      Dialogue tool state ((c, files, answer) :: later) last

theorem BuildTool.Dialogue.append {tool : BuildTool σ} {start middle last : σ}
    {front back : List (Call × FileTree × Except Failure ToolResult)}
    (h : tool.Dialogue start front middle) (h' : tool.Dialogue middle back last) :
    tool.Dialogue start (front ++ back) last := by
  induction h with
  | done => exact h'
  | call answered _ ih => exact .call answered (ih h')

/-- The result of each attempt of a stage is the answer of the build tool. -/
theorem StageRun.dialogue {stage : Stage} {tool : BuildTool σ} {c : Call} {policy : Repair.Policy}
    {file : Path} {spare : Nat} {s t : Session σ} {as : List Attempt} {e : StageEnd}
    (h : StageRun stage tool c policy file spare s as e t) :
    tool.Dialogue s.tool (callsOf c as) t.tool := by
  induction h with
  | passed answer | usedUp answer | unknown answer => exact .call answer (.done _)
  | retried answer _ _ _ _ _ ih => exact .call answer ih

/-! ## Stages that come to an end -/

/-- The build tool answers every call with a result, and leaves a text a text. -/
def BuildTool.KeepsText (tool : BuildTool σ) (cwd : Location) (file : Path) : Prop :=
  ∀ c state files text, files.text cwd file = .ok text →
    ∃ r, (tool.call c state files).1 = .ok r ∧
      ∃ text', (tool.call c state files).2.2.text cwd file = .ok text'

/-- Where texts are kept, a stage comes to an end, and the file is still a text. -/
theorem exists_stageRun {tool : BuildTool σ} {file : Path} (stage : Stage) (c : Call)
    (policy : Repair.Policy) (spare : Nat) {s : Session σ}
    (htool : tool.KeepsText s.workingDirectory file) {text : String}
    (htext : s.files.text s.workingDirectory file = .ok text) :
    ∃ as e t, StageRun stage tool c policy file spare s as e t ∧
      ∃ text', t.files.text t.workingDirectory file = .ok text' := by
  induction spare generalizing s text with
  | zero =>
    obtain ⟨r, answer, kept⟩ := htool c s.tool s.files text htext
    cases hr : r.success with
    | true => exact ⟨_, _, _, .passed answer hr, kept⟩
    | false => exact ⟨_, _, _, .usedUp answer hr, kept⟩
  | succ spare ih =>
    obtain ⟨r, answer, old, hold⟩ := htool c s.tool s.files text htext
    cases hr : r.success with
    | true => exact ⟨_, _, _, .passed answer hr, old, hold⟩
    | false =>
      by_cases hfires : policy.firing r.errorText = []
      · exact ⟨_, _, _, .unknown answer hr hold hfires, old, hold⟩
      · obtain ⟨content, hcontent, -⟩ := FileTree.text_eq_ok_iff.1 hold
        obtain ⟨files, hwrite, hread⟩ := FileTree.write_of_read hcontent
          (policy.attempt old r.errorText).text.toUTF8
        obtain ⟨as, e, t, hrest, hlast⟩ :=
          ih (s := (s.afterCall tool c).afterRepair file policy r.errorText old files) htool
            (FileTree.text_eq_ok_iff.2 ⟨_, hread, Action.decode_encode _⟩)
        exact ⟨_, _, _, .retried answer hr hold hfires hwrite hrest, hlast⟩

end Testsmith
