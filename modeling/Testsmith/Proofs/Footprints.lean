import Testsmith.Proofs.Frames

/-!
# Footprints

Which files a loop can change. A path leads to one place at most, whatever the files are
(`FileTree.destination`), so a write changes nothing but what that place holds, and making directories
changes no file. With a build tool that writes no file, "every file is as it was, except perhaps the one
to which a path leads" is a frame (`Session.SameFilesBut`).

That one file is rewritten only after a compilation that has failed before the last permitted attempt,
with a failure that a rule knows (`Session.Provoked`). This is no preorder, since the attempts are
counted from the start; it holds across a run because nothing but the compiling stage writes or compiles
(`Loop.run_provoked`).
-/

namespace Testsmith

variable {σ α β : Type}

/-! ## Places -/

namespace FileTree

/-- The place to which a part leads from another one. -/
def enter (l : Location) (part : String) : Location :=
  if part = ".." then l.dropLast else l ++ [part]

/-- The place to which a path leads, if it leads anywhere. -/
def destination (cwd : Location) (p : Path) : Location := p.parts.foldl enter (startOf cwd p)

variable {t u : FileTree} {cwd l : Location} {p : Path} {content : ByteArray}

theorem walk_eq_ok {parts : List String} {m : Location} (h : t.walk l parts = .ok m) :
    m = parts.foldl enter l := by
  induction parts generalizing l with
  | nil => cases h; rfl
  | cons part rest ih =>
    unfold walk at h
    rw [List.foldl_cons, enter]
    split at h
    · cases h
    · cases h
    · split at h
      · next hup => rw [if_pos hup]; exact ih h
      · next hdown =>
        split at h
        · cases h
        · rw [if_neg hdown]; exact ih h

theorem locate_eq_ok {m : Location} (h : t.locate cwd p = .ok m) : m = destination cwd p :=
  walk_eq_ok (locate_eq_ok_iff.1 h).2

theorem content?_set_of_ne {k : Location} (h : k ≠ l) (n : Node) :
    (t.set l n).content? k = t.content? k := by
  unfold content?
  rw [node?_set_of_ne t h]

/-- A write changes what its path leads to, and no other file. -/
theorem content?_write (h : t.write cwd p content = .ok u) {k : Location}
    (hk : k ≠ destination cwd p) : u.content? k = t.content? k := by
  obtain ⟨-, m, hm, -, rfl⟩ := write_eq_ok h
  rw [locate_eq_ok hm]
  exact content?_set_of_ne hk _

/-! ## Directories -/

/-- A directory is made in a place that is reached and where there is nothing. -/
theorem makeDirectory_eq_ok (h : t.makeDirectory cwd p = .ok u) :
    hasNull p = false ∧ ∃ l, t.locate cwd p = .ok l ∧ t.node? l = none ∧ u = t.set l .directory := by
  unfold makeDirectory refuse at h
  split at h
  · cases h
  · next hnull =>
    split at h
    · cases h
    · next hfind =>
      obtain ⟨hl, hnone⟩ := find_eq_ok_iff.1 hfind
      exact ⟨by simpa using hnull, _, hl, hnone, (Except.ok.inj h).symm⟩
    · cases h

theorem content?_makeDirectory (h : t.makeDirectory cwd p = .ok u) (k : Location) :
    u.content? k = t.content? k := by
  obtain ⟨-, m, -, hnone, rfl⟩ := makeDirectory_eq_ok h
  by_cases hk : k = m
  · subst hk
    have hne : k ≠ [] := by
      rintro rfl
      cases hnone
    unfold content?
    rw [node?_set_self t hne, hnone]
  · exact content?_set_of_ne hk _

/-- What holds across making a directory, and across two steps where it holds across each, holds across
making all that are missing. -/
theorem makeDirectoriesFrom_leads {R : FileTree → FileTree → Prop} (hrefl : ∀ t, R t t)
    (htrans : ∀ t u v, R t u → R u v → R t v)
    (hmake : ∀ t p u, t.makeDirectory cwd p = .ok u → R t u) (anchor : Path.Anchor)
    (parts : List String) (t : FileTree) : R t (makeDirectoriesFrom cwd anchor parts t).2 := by
  induction parts generalizing t with
  | nil =>
    unfold makeDirectoriesFrom
    dsimp only
    split
    · next h => exact hmake _ _ _ h
    · exact hrefl t
    · exact hrefl t
    · exact hrefl t
  | cons part above ih =>
    unfold makeDirectoriesFrom
    dsimp only
    split
    · next h => exact hmake _ _ _ h
    · have habove := ih t
      split
      · next hmade => rw [hmade] at habove; exact habove
      · next hmade =>
        rw [hmade] at habove
        split
        · next h => exact htrans _ _ _ habove (hmake _ _ _ h)
        · exact habove
        · exact habove
        · exact habove
    · exact hrefl t
    · exact hrefl t

theorem content?_makeDirectories (t : FileTree) (cwd : Location) (p : Path) (k : Location) :
    (t.makeDirectories cwd p).2.content? k = t.content? k :=
  makeDirectoriesFrom_leads (R := fun t u => u.content? k = t.content? k) (fun _ => rfl)
    (fun _ _ _ h h' => h'.trans h) (fun _ _ _ h => content?_makeDirectory h k) ..

end FileTree

/-! ## Files that stay as they are -/

namespace Session

/-- Every file is as it was, none is new and none is gone. -/
def SameFiles (s t : Session σ) : Prop := ∀ l, t.files.content? l = s.files.content? l

/-- Every file is as it was, except perhaps the one to which a path leads. -/
def SameFilesBut (file : Path) (s t : Session σ) : Prop :=
  t.workingDirectory = s.workingDirectory ∧
    ∀ l ≠ FileTree.destination s.workingDirectory file, t.files.content? l = s.files.content? l

/-- Nothing has become of the files and directories. -/
def SameTree (s t : Session σ) : Prop := t.files = s.files

variable {s t u : Session σ} {file : Path}

instance frame_sameTree : Frame (SameTree : Session σ → Session σ → Prop) where
  refl _ := rfl
  trans _ _ _ h h' := h'.trans h
  read _ _ := rfl
  ignored _ _ _ := rfl
  standards _ _ := rfl
  started _ _ _ := rfl
  finished _ _ _ _ _ := rfl
  failedOpen _ _ := rfl

instance frame_sameFilesBut : Frame (SameFilesBut file : Session σ → Session σ → Prop) where
  refl _ := ⟨rfl, fun _ _ => rfl⟩
  trans s t u := by
    rintro ⟨hcwd, hsame⟩ ⟨hcwd', hsame'⟩
    refine ⟨hcwd'.trans hcwd, fun l hl => ?_⟩
    rw [hsame' l (hcwd ▸ hl), hsame l hl]
  read _ _ := ⟨rfl, fun _ _ => rfl⟩
  ignored _ _ _ := ⟨rfl, fun _ _ => rfl⟩
  standards _ _ := ⟨rfl, fun _ _ => rfl⟩
  started _ _ _ := ⟨rfl, fun _ _ => rfl⟩
  finished _ _ _ _ _ := ⟨rfl, fun _ _ => rfl⟩
  failedOpen _ _ := ⟨rfl, fun _ _ => rfl⟩

end Session

/-- The build tool writes no file: where it answers and where it breaks down, every file is as it
was. -/
def BuildTool.WritesNoFile (tool : BuildTool σ) : Prop :=
  ∀ c state files l, (tool.call c state files).2.2.content? l = files.content? l

theorem BuildTool.writesNoFile_failing (error : String) : (failing error).WritesNoFile := by
  intro c more files l
  rw [(call_failing error c more files).2]

open Session Testsmith.Action

section Footprints

variable {file : Path} {tool : BuildTool σ}

theorem acrossCall_sameFilesBut (htool : tool.WritesNoFile) (c : Call) :
    AcrossCall (SameFilesBut file) tool c :=
  fun s => ⟨rfl, fun l _ => htool c s.tool s.files l⟩

theorem acrossWrite_sameFilesBut :
    AcrossWrite (SameFilesBut file : Session σ → Session σ → Prop) file :=
  fun _ _ _ hwrite => ⟨rfl, fun _ hl => FileTree.content?_write hwrite hl⟩

theorem makeDirectories_sameFilesBut (p : Path) :
    (makeDirectories p : Action σ Unit).Leads (SameFilesBut file) :=
  leads_makeDirectories fun _ => ⟨rfl, fun _ _ => FileTree.content?_makeDirectories ..⟩

end Footprints

/-! ## Failures that a rule knows -/

/-- The answer to a compilation. -/
def Event.compiled? : Event → Option (Except Failure ToolResult)
  | .called (.compile ..) _ answer => some answer
  | _ => none

/-- The answers to the compilations that were started since, in order. -/
def Session.compiledSince (s t : Session σ) : List (Except Failure ToolResult) :=
  (t.journal.drop s.journal.length).filterMap Event.compiled?

/-- Before the last one that a budget permits, a compilation has failed, and the failure has a signature
of a rule. -/
def KnownFailure (policy : Repair.Policy) (budget : Nat)
    (answers : List (Except Failure ToolResult)) : Prop :=
  ∃ i r, answers[i]? = some (.ok r) ∧ i + 1 < budget ∧ r.success = false ∧
    ∃ rule ∈ policy, rule.signature.toList <:+: r.errorText.toList

theorem KnownFailure.append {policy : Repair.Policy} {budget : Nat}
    {answers : List (Except Failure ToolResult)} (h : KnownFailure policy budget answers)
    (later : List (Except Failure ToolResult)) : KnownFailure policy budget (answers ++ later) := by
  obtain ⟨i, r, hr, hknown⟩ := h
  refine ⟨i, r, ?_, hknown⟩
  rw [List.getElem?_append_left (List.getElem?_eq_some_iff.1 hr).1, hr]

namespace Session

variable {s t u : Session σ} {policy : Repair.Policy} {budget : Nat}

theorem compiledSince_eq {new : List Event} (h : t.journal = s.journal ++ new) :
    s.compiledSince t = new.filterMap Event.compiled? := by
  unfold compiledSince
  rw [h, List.drop_left]

theorem compiledSince_trans (h : s.journal <+: t.journal) (h' : t.journal <+: u.journal) :
    s.compiledSince u = s.compiledSince t ++ t.compiledSince u := by
  obtain ⟨new, hnew⟩ := h
  obtain ⟨later, hlater⟩ := h'
  have hboth : u.journal = s.journal ++ (new ++ later) := by
    rw [← hlater, ← hnew, List.append_assoc]
  rw [compiledSince_eq hboth, compiledSince_eq hnew.symm, compiledSince_eq hlater.symm,
    List.filterMap_append]

/-- Every file is as it was, and the journal has become longer by events of a kind. -/
structure Unwritten (P : Event → Prop) (s t : Session σ) : Prop where
  files : s.SameFiles t
  journal : s.Adds P t

/-- Every file is as it was, and nothing was compiled. -/
abbrev Quiet (s t : Session σ) : Prop := s.Unwritten (·.compiled? = none) t

theorem frame_unwritten {P : Event → Prop} (hread : ∀ path, P (.read path))
    (hignored : ∀ path cause, P (.ignored path cause)) :
    Frame (Unwritten P : Session σ → Session σ → Prop) where
  refl _ := ⟨fun _ => rfl, .of_eq rfl⟩
  trans _ _ _ h h' :=
    ⟨fun l => (h'.files l).trans (h.files l), IsTrans.trans _ _ _ h.journal h'.journal⟩
  read s path := ⟨fun _ => rfl, adds_noting (hread path) s⟩
  ignored s path cause := ⟨fun _ => rfl, adds_noting (hignored path cause) s⟩
  standards _ _ := ⟨fun _ => rfl, .of_eq rfl⟩
  started _ _ _ := ⟨fun _ => rfl, .of_eq rfl⟩
  finished _ _ _ _ _ := ⟨fun _ => rfl, .of_eq rfl⟩
  failedOpen _ _ := ⟨fun _ => rfl, .of_eq rfl⟩

instance : Frame (Quiet : Session σ → Session σ → Prop) :=
  frame_unwritten (fun _ => rfl) fun _ _ => rfl

instance : Frame (Unwritten fun _ => True : Session σ → Session σ → Prop) :=
  frame_unwritten (fun _ => trivial) fun _ _ => trivial

theorem acrossCall_unwritten {tool : BuildTool σ} (htool : tool.WritesNoFile) {P : Event → Prop}
    {c : Call} (h : ∀ files answer, P (.called c files answer)) :
    AcrossCall (Unwritten P) tool c :=
  fun s => ⟨fun l => htool c s.tool s.files l, acrossCall_adds h s⟩

theorem Quiet.compiledSince_eq_nil (h : s.Quiet t) : s.compiledSince t = [] := by
  obtain ⟨new, hnew, hall⟩ := h.journal
  rw [compiledSince_eq hnew]
  exact List.filterMap_eq_nil_iff.2 hall

/-- The journal has become longer, and a file has changed only where a compilation has failed in between,
with a failure that a rule knows and before the last attempt that a budget permits. -/
structure Provoked (policy : Repair.Policy) (budget : Nat) (s t : Session σ) : Prop where
  journal : s.journal <+: t.journal
  files : s.SameFiles t ∨ KnownFailure policy budget (s.compiledSince t)

theorem Unwritten.provoked {P : Event → Prop} (h : s.Unwritten P t) : s.Provoked policy budget t :=
  ⟨h.journal.isPrefix, .inl h.files⟩

instance refl_provoked : Std.Refl (Provoked policy budget : Session σ → Session σ → Prop) where
  refl _ := ⟨List.prefix_refl _, .inl fun _ => rfl⟩

theorem Quiet.trans_provoked (h : s.Quiet t) (h' : t.Provoked policy budget u) :
    s.Provoked policy budget u := by
  refine ⟨h.journal.isPrefix.trans h'.journal, ?_⟩
  rcases h'.files with hsame | hknown
  · exact .inl fun l => (hsame l).trans (h.files l)
  · rw [compiledSince_trans h.journal.isPrefix h'.journal, h.compiledSince_eq_nil]
    exact .inr hknown

theorem Provoked.trans_quiet (h : s.Provoked policy budget t) (h' : t.Quiet u) :
    s.Provoked policy budget u := by
  refine ⟨h.journal.trans h'.journal.isPrefix, ?_⟩
  rcases h.files with hsame | hknown
  · exact .inl fun l => (h'.files l).trans (hsame l)
  · rw [compiledSince_trans h.journal h'.journal.isPrefix]
    exact .inr (hknown.append _)

/-- A compilation that has failed in a way that a rule knows provokes whatever comes behind it. -/
theorem provoked_of_called {module testPath : String} {files : FileTree} {r : ToolResult}
    {later : List Event}
    (hjournal : t.journal = s.journal ++ .called (.compile module testPath) files (.ok r) :: later)
    (hfailed : r.success = false) (hfires : policy.firing r.errorText ≠ []) (hbudget : 1 < budget) :
    s.Provoked policy budget t := by
  refine ⟨⟨_, hjournal.symm⟩, .inr ?_⟩
  rw [compiledSince_eq hjournal]
  obtain ⟨rule, hrule, hfire⟩ := Repair.Policy.firing_ne_nil_iff.1 hfires
  exact ⟨0, r, rfl, hbudget, hfailed, rule, hrule, Repair.Rule.fires_iff.1 hfire⟩

end Session

section Provoked

variable {tool : BuildTool σ} {policy : Repair.Policy} {budget : Nat}

theorem Action.Leads.quiet_bind {x : Action σ α} {next : α → Action σ β} (hx : x.Leads Quiet)
    (hnext : ∀ a, (next a).Leads (Provoked policy budget)) :
    (x >>= next).Leads (Provoked policy budget) :=
  hx.bind_of hnext (fun _ _ h => h.provoked) fun _ _ _ h h' => h.trans_provoked h'

theorem Action.Leads.bind_quiet {x : Action σ α} {next : α → Action σ β}
    (hx : x.Leads (Provoked policy budget)) (hnext : ∀ a, (next a).Leads Quiet) :
    (x >>= next).Leads (Provoked policy budget) :=
  hx.bind_of hnext (fun _ _ h => h) fun _ _ _ h h' => h.trans_quiet h'

/-- After a failure that no rule knows a stage reads the file and ends. -/
theorem retry_of_unknown {stage : Stage} {attempt : Action σ ToolResult} {file : Path} {spare : Nat}
    {r : ToolResult} (hsilent : policy.firing r.errorText = []) :
    (retry stage attempt policy file spare r).Leads (Unwritten fun _ => True) := by
  intro s
  have hrepair : (repairFile file r.errorText policy : Action σ _).Leads (Unwritten fun _ => True) :=
    repairFile_leads fun hfires => absurd hsilent hfires
  unfold retry
  cases h : repairFile file r.errorText policy s with
  | error failure t =>
    rw [leaves_bind_of_error h]
    exact hrepair.of_error h
  | ok o t =>
    rw [leaves_bind_of_ok h]
    obtain ⟨text, -, rfl, -⟩ := repairFile_eq_ok h
    rw [if_neg (by rw [Repair.Policy.fixed_attempt]; simp [hsilent])]
    exact hrepair.of_ok h

variable (policy) in
/-- A stage of compiling rewrites the file only after a failure that a rule knows. The first failure is
one then: without a rule that knows it there would be no second attempt. -/
theorem attempts_provoked (htool : tool.WritesNoFile) (module testPath : String) (file : Path)
    (spare : Nat) :
    (attempts .compile (call tool (.compile module testPath)) policy file spare).Leads
      (Provoked policy (spare + 1)) := by
  intro s
  have hcall : (call tool (.compile module testPath)).Leads (Unwritten fun _ => True) :=
    leads_call (acrossCall_unwritten htool fun _ _ => trivial)
  cases spare with
  | zero =>
    have honce := hcall.bind fun r =>
      leads_pure (StageEnd.atOnce .compile r (if r.success then none else some .noAttemptsLeft))
    exact (honce s).provoked
  | succ spare =>
    rw [attempts_succ]
    cases answer : (tool.call (.compile module testPath) s.tool s.files).1 with
    | error failure =>
      rw [leaves_bind_of_error (call_of_error answer)]
      exact (hcall.of_error (call_of_error answer)).provoked
    | ok r =>
      have hcalled := hcall.of_ok (call_of_ok answer)
      rw [leaves_bind_of_ok (call_of_ok answer)]
      split
      · exact hcalled.provoked
      · next hfailed =>
        by_cases hfires : policy.firing r.errorText = []
        · refine Unwritten.provoked (P := fun _ => True) ?_
          exact IsTrans.trans _ _ _ hcalled (retry_of_unknown hfires _)
        · obtain ⟨later, hlater, -⟩ := retry_grows .compile tool (.compile module testPath) policy
            file spare r (s.afterCall tool (.compile module testPath))
          rw [Session.afterCall_journal_of_ok answer, List.append_assoc] at hlater
          exact provoked_of_called hlater (Bool.eq_false_iff.2 hfailed) hfires (by omega)

namespace Loop

variable (l : Loop σ)

theorem compileStage_provoked (htool : l.tool.WritesNoFile) (module testPath : String)
    (file : Path) : (l.runStage .compile (.compile module testPath) file).Leads
      (Provoked l.compileRules l.budget) := by
  refine (leads_startStep _ _).quiet_bind fun step => ?_
  refine Leads.bind_quiet ?_ fun ended => ?_
  · have hattempts := attempts_provoked l.compileRules htool module testPath file (l.budget - 1)
    rwa [Nat.sub_add_cancel l.budget_pos] at hattempts
  · dsimp only
    split
    · exact (leads_finishStep _ _).bind fun _ => leads_pure _
    · exact (leads_finishStep _ _).bind fun _ => leads_pure _

/-- Where no failure of a test run is known, a run rewrites the test file only after a failed compilation
that a rule knows. -/
theorem run_provoked (htool : l.tool.WritesNoFile) (hrules : l.executionRules = [])
    (root : Path) (testPath : String) :
    (l.run root testPath).Leads (Provoked l.compileRules l.budget) := by
  refine (leads_isFile _).quiet_bind fun present => ?_
  dsimp only
  split
  · exact leads_throw _
  refine (compileStage_provoked l htool _ _ _).bind_quiet fun compiled => ?_
  split
  · exact leads_pure _
  · refine (runStage_leads l .execute ?_ ?_).bind fun _ => leads_pure _
    · exact acrossCall_unwritten htool fun _ _ => rfl
    · exact fun hne => absurd hrules hne

end Loop

end Provoked

end Testsmith
