import Testsmith.Proofs.DeclaredNames
import Testsmith.Proofs.ExecutedClasses
import Testsmith.Proofs.Footprints
import Testsmith.Proofs.PatchedSpans
import Testsmith.Proofs.UntouchedScaffolds

/-!
# Scaffolds that are compiled again

Which bytes of its test file the compilations of a generation see, if they leave the file alone. The first
one sees the scaffold as it was written. A failure that a rule knows has the file read, repaired and
written again, and where repairs leave the text alone all that this changes are the line ends, which are
read unified. So every later compilation sees the text as it is read again, and these are the bytes that
the first one has seen exactly if the text has no carriage return. The induction is over the attempts of
the stage (`attempts_compiles`).

`generation_recompiles` puts this together with the texts that repairs leave alone; a type of a
dependency is the one place of a plain service where a carriage return can stand
(`Scaffold.return_mem_text_iff`).
-/

namespace Testsmith

variable {σ α β : Type}

open Session Testsmith.Action

/-! ## What compilations see -/

/-- What a compilation sees of a file. -/
def Event.seen? (cwd : Location) (file : Path) : Event → Option (Except Failure ByteArray)
  | .called (.compile ..) files _ => some (files.read cwd file)
  | _ => none

theorem Event.seen?_eq_none {cwd : Location} {file : Path} {e : Event} (h : e.compiled? = none) :
    e.seen? cwd file = none := by
  cases e with
  | called c files answer =>
    cases c with
    | compile => cases h
    | run | coverage => rfl
  | read | ignored | wrote => rfl

namespace Session

/-- The journal has become longer, and the compilations in between have seen a file in this way. -/
def Compiles (cwd : Location) (file : Path) (seen : List (Except Failure ByteArray))
    (s t : Session σ) : Prop :=
  ∃ new, t.journal = s.journal ++ new ∧ new.filterMap (Event.seen? cwd file) = seen

variable {cwd : Location} {file : Path} {seen later : List (Except Failure ByteArray)}
  {s t u : Session σ}

instance frame_compilesNone : Frame (Adds (·.compiled? = none) : Session σ → Session σ → Prop) :=
  frame_adds (fun _ => rfl) fun _ _ => rfl

theorem Compiles.of_adds (h : s.Adds (·.compiled? = none) t) : s.Compiles cwd file [] t := by
  obtain ⟨new, hnew, hnone⟩ := h
  exact ⟨new, hnew, List.filterMap_eq_nil_iff.2 fun e he => Event.seen?_eq_none (hnone e he)⟩

theorem Compiles.trans (h : s.Compiles cwd file seen t) (h' : t.Compiles cwd file later u) :
    s.Compiles cwd file (seen ++ later) u := by
  obtain ⟨new, hnew, rfl⟩ := h
  obtain ⟨more, hmore, rfl⟩ := h'
  exact ⟨new ++ more, by rw [hmore, hnew, List.append_assoc], List.filterMap_append⟩

theorem Compiles.unique (h : s.Compiles cwd file seen t) (h' : s.Compiles cwd file later t) :
    seen = later := by
  obtain ⟨new, hnew, rfl⟩ := h
  obtain ⟨more, hmore, rfl⟩ := h'
  rw [List.append_cancel_left (hnew.symm.trans hmore)]

/-- What is not compiled is not seen. -/
theorem Compiles.trans_adds (h : s.Compiles cwd file seen t) (h' : t.Adds (·.compiled? = none) u) :
    s.Compiles cwd file seen u := by
  have hboth := h.trans (.of_adds h')
  rwa [List.append_nil] at hboth

theorem Compiles.of_adds_trans (h : s.Adds (·.compiled? = none) t)
    (h' : t.Compiles cwd file seen u) : s.Compiles cwd file seen u :=
  Compiles.trans (.of_adds h) h'

theorem compiles_afterCall (tool : BuildTool σ) (module testPath : String) {content : ByteArray}
    (hread : s.files.read cwd file = .ok content) :
    s.Compiles cwd file [.ok content] (s.afterCall tool (.compile module testPath)) := by
  rw [← hread]
  exact ⟨_, s.afterCall_journal tool _, rfl⟩

end Session

/-- Reading compiles nothing. -/
theorem Session.OnlyRead.compilesNone {s t : Session σ} (h : s.OnlyRead t) :
    s.Adds (·.compiled? = none) t := by
  obtain ⟨new, hnew, hreads⟩ := h.journal
  refine ⟨new, hnew, fun e he => ?_⟩
  cases e with
  | called => exact (hreads _ he).elim
  | read | ignored | wrote => rfl

/-! ## The compiling stage -/

/-- The compilations of a build tool leave a file alone, whether or not they come to an answer. -/
def BuildTool.SparesFile (tool : BuildTool σ) (cwd : Location) (file : Path) : Prop :=
  ∀ module testPath state files,
    (tool.call (.compile module testPath) state files).2.2.read cwd file = files.read cwd file

/-- The compilations of a build tool fail, each with a failure that a rule knows. -/
def BuildTool.KeepsFailing (tool : BuildTool σ) (policy : Repair.Policy) : Prop :=
  ∀ module testPath state files, ∃ r,
    (tool.call (.compile module testPath) state files).1 = .ok r ∧ r.success = false ∧
      policy.firing r.errorText ≠ []

section Stage

variable {tool : BuildTool σ} {policy : Repair.Policy} {file : Path} {text : String} {s : Session σ}
  {content : ByteArray}

/-- A repair that does not change the text comes to an end, and where a rule fires the file holds what was
read from it. -/
theorem repairFile_keeps (hpolicy : ∀ message, (policy.attempt text message).text = text)
    (htext : s.files.text s.workingDirectory file = .ok text) (message : String) :
    ∃ o t, repairFile file message policy s = .ok o t ∧ s.Adds (·.compiled? = none) t ∧
      (o.fixed = true ↔ policy.firing message ≠ []) ∧
      (o.fixed = true → t.workingDirectory = s.workingDirectory ∧
        t.files.read s.workingDirectory file = .ok text.toUTF8) := by
  by_cases hfires : policy.firing message = []
  · refine ⟨_, _, repairFile_of_silent htext hfires, Frame.read s file, Repair.Policy.fixed_attempt,
      fun hfixed => ?_⟩
    exact absurd hfires (Repair.Policy.fixed_attempt.1 hfixed)
  · obtain ⟨content, hread, -⟩ := FileTree.text_eq_ok_iff.1 htext
    obtain ⟨files, hwrite, hreread⟩ := FileTree.write_of_read hread
      (policy.attempt text message).text.toUTF8
    refine ⟨_, _, repairFile_of_fires htext hfires hwrite, ?_, Repair.Policy.fixed_attempt,
      fun _ => ⟨rfl, hpolicy message ▸ hreread⟩⟩
    refine ⟨_, s.afterRepair_journal file policy message text files, ?_⟩
    simp only [List.forall_mem_cons]
    exact ⟨rfl, rfl, List.forall_mem_nil _⟩

/-- The compilations of a stage see the content that it finds, and then as often as there are retries the
text as it is read from that, since no repair changes the text. -/
theorem attempts_compiles (htool : tool.SparesFile s.workingDirectory file)
    (hpolicy : ∀ message, (policy.attempt text message).text = text) (module testPath : String)
    (spare : Nat) (hread : s.files.read s.workingDirectory file = .ok content)
    (hdecode : decode content = .ok text) :
    ∃ n, s.Compiles s.workingDirectory file (.ok content :: List.replicate n (.ok text.toUTF8))
        ((attempts .compile (call tool (.compile module testPath)) policy file spare).leaves s) ∧
      (tool.KeepsFailing policy → n = spare) := by
  induction spare generalizing s content with
  | zero =>
    refine ⟨0, (compiles_afterCall tool module testPath hread).trans_adds ?_, fun _ => rfl⟩
    rw [← leaves_call]
    exact leads_behind (fun _ => leads_pure _) s
  | succ spare ih =>
    have hcalled := compiles_afterCall tool module testPath hread
    rw [attempts_succ]
    cases answer : (tool.call (.compile module testPath) s.tool s.files).1 with
    | error failure =>
      rw [leaves_bind_of_error (call_of_error answer)]
      refine ⟨0, hcalled, fun hfails => ?_⟩
      obtain ⟨r, hr, -⟩ := hfails module testPath s.tool s.files
      cases hr.symm.trans answer
    | ok r =>
      -- A tool that keeps failing has failed here, with a failure that a rule knows.
      have hfailed (hfails : tool.KeepsFailing policy) :
          r.success = false ∧ policy.firing r.errorText ≠ [] := by
        obtain ⟨r', hr, hfailed⟩ := hfails module testPath s.tool s.files
        cases hr.symm.trans answer
        exact hfailed
      rw [leaves_bind_of_ok (call_of_ok answer)]
      split
      · next hsuccess =>
        refine ⟨0, hcalled, fun hfails => ?_⟩
        rw [(hfailed hfails).1] at hsuccess
        cases hsuccess
      have hkept := (htool module testPath s.tool s.files).trans hread
      obtain ⟨o, t, hrepair, hadds, hfires, hfile⟩ := repairFile_keeps
        (s := s.afterCall tool (.compile module testPath)) hpolicy (FileTree.text_of_read hkept hdecode)
        r.errorText
      have hrepaired := hcalled.trans_adds hadds
      unfold retry
      rw [leaves_bind_of_ok hrepair]
      split
      · next hfixed =>
        obtain ⟨hcwd, hreread⟩ := hfile hfixed
        rw [afterCall_workingDirectory] at hcwd hreread
        rw [← hcwd] at htool hreread hrepaired ⊢
        obtain ⟨n, hlater, hall⟩ :=
          ih htool hreread (decode_encode_of_not_mem (not_mem_of_decode hdecode))
        exact ⟨n + 1, hrepaired.trans (hlater.trans_adds (leads_behind (fun _ => leads_pure _) t)),
          fun hfails => congrArg (· + 1) (hall hfails)⟩
      · next hsilent =>
        exact ⟨0, hrepaired, fun hfails => absurd (hfires.2 (hfailed hfails).2) hsilent⟩

/-- Behind the compiling stage a run compiles nothing. -/
theorem Loop.run_compiles (l : Loop σ) (root : Path) (testPath : String)
    (htool : l.tool.SparesFile s.workingDirectory (root / testPath))
    (hpolicy : ∀ message, (l.compileRules.attempt text message).text = text)
    (hread : s.files.read s.workingDirectory (root / testPath) = .ok content)
    (hdecode : decode content = .ok text) :
    ∃ n, s.Compiles s.workingDirectory (root / testPath)
        (.ok content :: List.replicate n (.ok text.toUTF8)) ((l.run root testPath).leaves s) ∧
      (l.tool.KeepsFailing l.compileRules → n + 1 = l.budget) := by
  unfold run
  rw [leaves_bind_of_ok (isFile_of_ok (FileTree.isFile_of_read hread)), if_neg (by decide)]
  obtain ⟨n, hstage, hall⟩ := attempts_compiles (s := s.starting .compile) htool hpolicy
    (Layout.moduleOf testPath l.fallbackModule) testPath (l.budget - 1) hread hdecode
  refine ⟨n, Compiles.trans_adds (Compiles.trans_adds hstage ?finished) (leads_behind ?executed s), ?all⟩
  case finished =>
    unfold runStage
    rw [leaves_bind_of_ok (startStep_eq .compile s)]
    refine leads_behind (fun ended => ?_) _
    split
    · exact (leads_finishStep _ _).bind fun _ => leads_pure _
    · exact (leads_finishStep _ _).bind fun _ => leads_pure _
  case executed =>
    intro ended
    split
    · exact leads_pure _
    · refine Leads.bind ?_ fun _ => leads_pure _
      exact runStage_leads l .execute (acrossCall_adds fun _ _ => rfl)
        fun _ => acrossWrite_adds fun _ => rfl
  case all =>
    intro hfails
    rw [hall hfails, Nat.sub_add_cancel l.budget_pos]

end Stage

/-! ## Generations -/

/-- A text as it is read again after it was written. -/
def rereadText (text : String) : String := String.ofList (Text.unifyNewlines text.toList)

/-- The compilations have seen a file as a text was written, and then some more times as it is read
again. -/
def Session.Recompiles (cwd : Location) (file : Path) (text : String) (times : Nat)
    (s t : Session σ) : Prop :=
  s.Compiles cwd file (.ok text.toUTF8 :: List.replicate times (.ok (rereadText text).toUTF8)) t

/-- A text that the rules for compiling leave alone, as it is read again. -/
def RereadStays (text : String) : Prop :=
  ∀ message, (Repair.compileRules.attempt (rereadText text) message).text = rereadText text

namespace Service

variable {svc : Service σ} {flavor : Flavor} {r : GenerateRequest} {path : String}
  {settings : Settings} {d : Descriptor} {s t : Session σ}

theorem read_of_writeStep {root : Path} (h : writeStep root path flavor d s = .ok () t) :
    t.workingDirectory = s.workingDirectory ∧
      t.files.read s.workingDirectory (root / path) = .ok (Scaffold.text flavor d).toUTF8 := by
  have hstep : (writeStep root path flavor d : Action σ Unit).Leads (SameFilesBut (root / path)) :=
    writeStep_leads flavor d (makeDirectories_sameFilesBut _) acrossWrite_sameFilesBut
  refine ⟨(hstep.of_ok h).1, ?_⟩
  obtain ⟨i, u, hstart, h⟩ := bind_eq_ok h
  obtain ⟨_, v, hmake, h⟩ := bind_eq_ok h
  obtain ⟨_, w, hwrite, hfinish⟩ := bind_eq_ok h
  cases hstart
  obtain ⟨files, hfiles, rfl⟩ := writeText_eq_ok hwrite
  have hmakes : (makeDirectories (root / path).parent : Action σ Unit).Leads
      (SameFilesBut (root / path)) := makeDirectories_sameFilesBut _
  have hmade : v.workingDirectory = s.workingDirectory := (hmakes.of_ok hmake).1
  have hfinished : t.files = files := (leads_finishStep (R := SameTree) _ _).of_ok hfinish
  rw [hfinished, ← hmade]
  exact FileTree.read_of_written hfiles

/-- A validation of a file that holds a text compiles that, and again as it is read, as long as the tool
keeps failing. -/
theorem validation_recompiles {text : String} {l : Loop σ}
    (hloop : svc.loopFor r.root settings r.maxRetries = .ok l) (hstays : RereadStays text)
    (htool : (svc.toolFor r.root settings.tool).SparesFile t.workingDirectory (r.root / path))
    (hread : t.files.read t.workingDirectory (r.root / path) = .ok text.toUTF8) :
    ∃ n, t.Recompiles t.workingDirectory (r.root / path) text n
        ((svc.validation r.root path settings r.maxRetries).leaves t) ∧
      ((svc.toolFor r.root settings.tool).KeepsFailing Repair.compileRules →
        n + 1 = r.maxRetries.getD settings.loop.maxRetries) := by
  obtain ⟨htools, hbudget, hrules, -⟩ := svc.loopFor_eq_ok hloop
  unfold validation
  rw [hloop, leaves_bind_of_ok (ofExcept_of_ok rfl t)]
  rw [← htools] at htool ⊢
  unfold RereadStays at hstays
  rw [← hrules] at hstays ⊢
  rw [← hbudget]
  obtain ⟨n, hrun, hall⟩ := l.run_compiles r.root path htool hstays hread (decode_encode _)
  exact ⟨n, hrun.trans_adds (leads_behind (fun _ => leads_pure _) t), hall⟩

variable (svc r s) in
/-- A generation comes to write the scaffold for a descriptor: it has extracted that with the settings that
it has found, from symbol data or from the text of the service file. -/
structure Scaffolds (path : String) (settings : Settings) (d : Descriptor) : Prop where
  path_eq : testPathOf r = .ok path
  prepared : ∃ loaded t, svc.prepare r.root { s with report := {} } = .ok (settings, loaded) t
  extracted : ∃ source, (r.symbols = none →
      s.files.text s.workingDirectory (r.root / r.servicePath) = .ok source) ∧
    d = (extract settings.generation r.servicePath r.symbols source).1

theorem writeStep_compilesNone (root : Path) (path : String) (flavor : Flavor) (d : Descriptor) :
    (writeStep root path flavor d : Action σ Unit).Leads (Adds (·.compiled? = none)) :=
  writeStep_leads flavor d (leads_makeDirectories fun _ => .of_eq rfl) (acrossWrite_adds fun _ => rfl)

section Written

variable {loaded : Bool} {u v : Session σ} {fidelity : Fidelity}

/-- A generation that has written its document and validates it leaves the journal as the validation has
left it. -/
theorem journal_of_validation (hpath : testPathOf r = .ok path)
    (hprepare : svc.prepare r.root { s with report := {} } = .ok (settings, loaded) t)
    (hanalyze : analyzeStep r settings t = .ok (d, fidelity) u)
    (hwrite : writeStep r.root path flavor d u = .ok () v) (hvalidates : r.validates = true) :
    ((svc.generate flavor r).leaves s).journal =
      ((svc.validation r.root path settings r.maxRetries).leaves v).journal := by
  have hgenerate : svc.generate flavor r s = concluding
      (svc.writeAndValidate r flavor path settings d) (knownOf r path loaded fidelity) u :=
    generate_of_analyzed flavor r.validates hpath hprepare hanalyze
  have hgoes : svc.writeAndValidate r flavor path settings d u =
      if r.validates then svc.validation r.root path settings r.maxRetries v else .ok true v :=
    writeAndValidate_of_ok r.validates hwrite
  rw [hvalidates, if_pos rfl] at hgoes
  rw [leaves_congr hgenerate, journal_concluding, leaves_congr hgoes]

/-- A generation that has written its document and validates it compiles that, and where the tool and the
repairs leave it alone it compiles it again as it is read. -/
theorem recompiles_of_written {l : Loop σ} (hpath : testPathOf r = .ok path)
    (hprepare : svc.prepare r.root { s with report := {} } = .ok (settings, loaded) t)
    (hanalyze : analyzeStep r settings t = .ok (d, fidelity) u)
    (hwrite : writeStep r.root path flavor d u = .ok () v) (hvalidates : r.validates = true)
    (hloop : svc.loopFor r.root settings r.maxRetries = .ok l)
    (hstays : RereadStays (Scaffold.text flavor d))
    (htool : (svc.toolFor r.root settings.tool).SparesFile s.workingDirectory (r.root / path)) :
    ∃ n, s.Recompiles s.workingDirectory (r.root / path) (Scaffold.text flavor d) n
        ((svc.generate flavor r).leaves s) ∧
      ((svc.toolFor r.root settings.tool).KeepsFailing Repair.compileRules →
        n + 1 = r.maxRetries.getD settings.loop.maxRetries) := by
  have hread : s.OnlyRead u := IsTrans.trans _ _ _ (onlyRead_of_prepared hprepare)
    ((analyzeStep_leads r settings).of_ok hanalyze)
  have hwritten := (writeStep_compilesNone _ _ _ _).of_ok hwrite
  obtain ⟨hcwd, hholds⟩ := read_of_writeStep hwrite
  rw [← hread.workingDirectory_eq, ← hcwd] at htool ⊢
  rw [← hcwd] at hholds
  obtain ⟨n, hseen, hall⟩ := validation_recompiles hloop hstays htool hholds
  have hjournal := journal_of_validation hpath hprepare hanalyze hwrite hvalidates
  exact ⟨n, .of_adds_trans (IsTrans.trans _ _ _ hread.compilesNone hwritten)
    (hseen.trans_adds (.of_eq hjournal)), hall⟩

end Written

variable (svc flavor r s) in
/-- Every generation compiles nothing, or compiles the scaffold that it has written, and where the tool and
the repairs leave that alone it compiles it again as it is read. -/
theorem generate_recompiles :
    s.Adds (·.compiled? = none) ((svc.generate flavor r).leaves s) ∨
      ∃ path settings d, svc.Scaffolds r s path settings d ∧
        (RereadStays (Scaffold.text flavor d) →
          (svc.toolFor r.root settings.tool).SparesFile s.workingDirectory (r.root / path) →
          ∃ n, s.Recompiles s.workingDirectory (r.root / path) (Scaffold.text flavor d) n
              ((svc.generate flavor r).leaves s) ∧
            ((svc.toolFor r.root settings.tool).KeepsFailing Repair.compileRules →
              n + 1 = r.maxRetries.getD settings.loop.maxRetries)) := by
  rcases svc.generate_leads_or_concludes OnlyRead flavor r s s.onlyRead_cleared with
    hreads | ⟨path, settings, loaded, t, d, fidelity, u, hpath, hprepare, ht, hanalyze, hu, hgenerate⟩
  · exact .inl hreads.compilesNone
  have hread : s.OnlyRead u := IsTrans.trans _ _ _ ht hu
  have hconcluded (h : u.Adds (·.compiled? = none)
      ((svc.writeAndValidate r flavor path settings d).leaves u)) :
      s.Adds (·.compiled? = none) ((svc.generate flavor r).leaves s) := by
    refine IsTrans.trans _ _ _ hread.compilesNone (IsTrans.trans _ _ _ h (.of_eq ?_))
    rw [leaves_congr hgenerate, journal_concluding]
  have hstep := writeStep_compilesNone (σ := σ) r.root path flavor d
  cases hwrite : writeStep r.root path flavor d u with
  | error failure v =>
    have hfails : svc.writeAndValidate r flavor path settings d u = .error failure v :=
      writeAndValidate_of_error r.validates hwrite
    exact .inl (hconcluded (leaves_of_error hfails ▸ hstep.of_error hwrite))
  | ok _ v =>
    have hwritten := hstep.of_ok hwrite
    have hgoes : svc.writeAndValidate r flavor path settings d u =
        if r.validates then svc.validation r.root path settings r.maxRetries v else .ok true v :=
      writeAndValidate_of_ok r.validates hwrite
    cases hvalidates : r.validates with
    | false =>
      rw [hvalidates, if_neg (by decide)] at hgoes
      exact .inl (hconcluded (leaves_of_ok hgoes ▸ hwritten))
    | true =>
      cases hloop : svc.loopFor r.root settings r.maxRetries with
      | error failure =>
        have hfails : svc.validation r.root path settings r.maxRetries v = .error failure v := by
          unfold validation
          rw [hloop]
          rfl
        rw [hvalidates, if_pos rfl, hfails] at hgoes
        exact .inl (hconcluded (leaves_of_error hgoes ▸ hwritten))
      | ok l =>
        obtain ⟨source, hsource, hd⟩ := extract_of_analyzed hanalyze
        rw [ht.files_eq, ht.workingDirectory_eq] at hsource
        exact .inr ⟨path, settings, d, ⟨hpath, ⟨loaded, t, hprepare⟩, source, hsource, hd⟩,
          recompiles_of_written hpath hprepare hanalyze hwrite hvalidates hloop⟩

end Service

/-! ## Scaffolds that are read again -/

theorem rereadText_eq_self_iff {text : String} : rereadText text = text ↔ '\r' ∉ text.toList := by
  rw [rereadText, ← String.toList_inj, String.toList_ofList, Text.unifyNewlines_eq_self_iff]

/-- What repairs leave alone they leave alone as it is read again. -/
theorem rereadStays {text : String}
    (h : ∀ message, (Repair.compileRules.attempt text message).text = text) : RereadStays text := by
  intro message
  have hpatched (text : String) : (Repair.compileRules.attempt text message).text =
      String.ofList (Repair.compileRules.patched text.toList message) := rfl
  have hstays := h message
  rw [hpatched, ← String.toList_inj, String.toList_ofList] at hstays
  rw [hpatched, rereadText, String.toList_ofList, Repair.patched_unifyNewlines, hstays]

/-- **Repairs leave fresh scaffolds alone.** Whatever the failure is, no rule for compiling changes the
scaffold of a plain service. So in every generation, whatever the project, the settings, the symbol data
or source and the answers of the build tool are, nothing is compiled, or the service has a descriptor and
its scaffold is compiled: if that is plain, and the compilations leave the test file alone, the first
compilation sees the bytes that were written, and every retry those of the text as it is read again. A
tool that keeps failing is called as often as is permitted. The bytes are the same for all compilations if
and only if no type of a dependency has a carriage return. -/
theorem generation_recompiles (flavor : Flavor) :
    (∀ d, Scaffold.Plain d → ∀ message,
      (Repair.compileRules.attempt (Scaffold.text flavor d) message).text = Scaffold.text flavor d) ∧
    (∀ (svc : Service σ) (r : GenerateRequest) (s : Session σ),
      s.Adds (·.compiled? = none) ((svc.generate flavor r).leaves s) ∨
        ∃ path settings d, svc.Scaffolds r s path settings d ∧
          (Scaffold.Plain d →
            (svc.toolFor r.root settings.tool).SparesFile s.workingDirectory (r.root / path) →
            ∃ n, s.Recompiles s.workingDirectory (r.root / path) (Scaffold.text flavor d) n
                ((svc.generate flavor r).leaves s) ∧
              ((svc.toolFor r.root settings.tool).KeepsFailing Repair.compileRules →
                n + 1 = r.maxRetries.getD settings.loop.maxRetries))) ∧
    ∀ d, Scaffold.Plain d →
      ((rereadText (Scaffold.text flavor d)).toUTF8 = (Scaffold.text flavor d).toUTF8 ↔
        ∀ p ∈ d.dependencies, '\r' ∉ p.type.toList) := by
  refine ⟨fun d hd message => Scaffold.text_attempt hd message, fun svc r s => ?_, fun d hd => ?_⟩
  · rcases svc.generate_recompiles flavor r s with hnone | ⟨path, settings, d, hscaffold, hrecompiles⟩
    · exact .inl hnone
    · exact .inr ⟨path, settings, d, hscaffold, fun hd =>
        hrecompiles (rereadStays fun message => Scaffold.text_attempt hd message)⟩
  · have hreturn : rereadText (Scaffold.text flavor d) = Scaffold.text flavor d ↔
        ∀ p ∈ d.dependencies, '\r' ∉ p.type.toList := by
      rw [rereadText_eq_self_iff, Scaffold.return_mem_text_iff hd]
      push Not
      rfl
    rw [← hreturn]
    exact ⟨toUTF8_inj, congrArg String.toUTF8⟩

/-! ## A service with one dependency -/

/-- A build tool that complains of a stub, whatever it is called for. -/
def BuildTool.complaining : BuildTool Unit where
  call _ _ files := (.ok { success := false, error := some "Unit but Long" }, (), files)

theorem BuildTool.sparesFile_complaining (cwd : Location) (file : Path) :
    complaining.SparesFile cwd file := fun _ _ _ _ => rfl

theorem BuildTool.keepsFailing_complaining : complaining.KeepsFailing Repair.compileRules := by
  intro module testPath state files
  exact ⟨_, rfl, rfl, by decide⟩

def Service.complaining : Service Unit where
  settings := some Settings.default
  toolFor _ _ := .complaining

/-- A project without files. -/
def Session.ofEmptyProject : Session Unit where
  files := ⟨[(["project"], .directory)]⟩
  tool := ()

namespace GenerateRequest

/-- Asks for the test of a service with one dependency, to be compiled twice at most. -/
def ofDependency (type : String) : GenerateRequest where
  root := .ofText "/project"
  servicePath := "Orders.kt"
  symbols := some (Scaffold.dataOf "Orders" ["(val repo: " ++ type ++ ")"] [])
  testPath := some "OrdersTest.kt"
  maxRetries := some 2

/-- The descriptor of that service. -/
def descriptor (r : GenerateRequest) : Descriptor :=
  (extract Settings.default.generation r.servicePath r.symbols "").1

/-- The session after the test was generated. -/
def session (r : GenerateRequest) : Session Unit :=
  (Service.complaining.generate .unit r).leaves .ofEmptyProject

/-- The test is compiled twice. -/
theorem recompiles_ofDependency (type : String) (h : Scaffold.Plain (ofDependency type).descriptor) :
    Session.ofEmptyProject.Recompiles [] (Path.ofText "/project" / "OrdersTest.kt")
      (Scaffold.text .unit (ofDependency type).descriptor) 1 (ofDependency type).session := by
  have hanalyze : ∃ loaded t u,
      Service.complaining.prepare (ofDependency type).root { Session.ofEmptyProject with report := {} } =
          .ok (Settings.default, loaded) t ∧
        Service.analyzeStep (ofDependency type) Settings.default t =
          .ok ((ofDependency type).descriptor, .structured) u ∧
        u.files = Session.ofEmptyProject.files ∧ u.workingDirectory = [] :=
    ⟨_, _, _, rfl, rfl, rfl, rfl⟩
  obtain ⟨loaded, t, u, hprepare, hanalyze, hfiles, hcwd⟩ := hanalyze
  have hmake : u.files.makeDirectories u.workingDirectory
      (Path.ofText "/project" / "OrdersTest.kt").parent = (.ok (), u.files) := by
    rw [hfiles, hcwd]
    unfold FileTree.makeDirectories FileTree.makeDirectoriesFrom
    rfl
  have hwrite (content : ByteArray) : ∃ files, u.files.write u.workingDirectory
      (Path.ofText "/project" / "OrdersTest.kt") content = .ok files := by
    rw [hfiles, hcwd]
    exact ⟨_, rfl⟩
  obtain ⟨files, hwrite⟩ := hwrite (Scaffold.text .unit (ofDependency type).descriptor).toUTF8
  obtain ⟨v, hwritten, -⟩ := Service.writeStep_of_made hmake hwrite
  obtain ⟨n, hseen, hall⟩ := Service.recompiles_of_written rfl hprepare hanalyze hwritten rfl rfl
    (rereadStays fun message => Scaffold.text_attempt h message) (BuildTool.sparesFile_complaining _ _)
  obtain rfl : n = 1 := Nat.succ.inj (hall BuildTool.keepsFailing_complaining)
  exact hseen

/-- The descriptor is the one for which a generation comes to write the scaffold. -/
theorem scaffolds_ofDependency (type : String) : Service.complaining.Scaffolds (ofDependency type)
    .ofEmptyProject "OrdersTest.kt" Settings.default (ofDependency type).descriptor :=
  ⟨rfl, ⟨_, _, rfl⟩, "", nofun, rfl⟩

theorem eq_of_scaffolds {type path : String} {settings : Settings} {d : Descriptor}
    (h : Service.complaining.Scaffolds (ofDependency type) .ofEmptyProject path settings d) :
    path = "OrdersTest.kt" ∧ settings = Settings.default ∧ d = (ofDependency type).descriptor := by
  obtain ⟨loaded, t, hprepare⟩ := h.prepared
  obtain ⟨loaded', t', hprepare'⟩ := (scaffolds_ofDependency type).prepared
  rw [hprepare'] at hprepare
  cases hprepare
  obtain ⟨source, -, rfl⟩ := h.extracted
  exact ⟨(Except.ok.inj h.path_eq).symm, rfl, rfl⟩

end GenerateRequest

open GenerateRequest in
/-- A service with a dependency on a repository: after a failure its scaffold is compiled again, and the
compilations see the same bytes. -/
theorem repository_recompiled :
    let d := (ofDependency "Repo").descriptor
    Scaffold.Plain d ∧ Session.ofEmptyProject.Compiles [] (Path.ofText "/project" / "OrdersTest.kt")
      [.ok (Scaffold.text .unit d).toUTF8, .ok (Scaffold.text .unit d).toUTF8]
      (ofDependency "Repo").session := by
  intro d
  have hplain : Scaffold.Plain d := by
    constructor
    all_goals decide +kernel
  obtain ⟨-, hgeneration, hbytes⟩ := generation_recompiles .unit
  have hsame := (hbytes d hplain).2 (by decide +kernel)
  refine ⟨hplain, ?_⟩
  rcases hgeneration Service.complaining (ofDependency "Repo") .ofEmptyProject with
    hnone | ⟨path, settings, e, hscaffold, hrecompiles⟩
  · cases (Compiles.of_adds hnone).unique (recompiles_ofDependency "Repo" hplain)
  · obtain ⟨rfl, rfl, rfl⟩ := eq_of_scaffolds hscaffold
    obtain ⟨n, hseen, hall⟩ := hrecompiles hplain (BuildTool.sparesFile_complaining _ _)
    obtain rfl : n = 1 := Nat.succ.inj (hall BuildTool.keepsFailing_complaining)
    unfold Recompiles at hseen
    rwa [hsame] at hseen

open GenerateRequest in
/-- A service with a dependency of a type that has a carriage return: the retry sees other bytes than the
compilation before it. -/
theorem carriageReturn_recompiled :
    let d := (ofDependency "X\rY").descriptor
    Scaffold.Plain d ∧
      Service.complaining.Scaffolds (ofDependency "X\rY") .ofEmptyProject "OrdersTest.kt"
        Settings.default d ∧
      ∃ first later, first ≠ later ∧
        Session.ofEmptyProject.Compiles [] (Path.ofText "/project" / "OrdersTest.kt")
          [.ok first, .ok later] (ofDependency "X\rY").session := by
  intro d
  have hplain : Scaffold.Plain d := by
    constructor
    all_goals decide +kernel
  have hreturn : '\r' ∈ (Scaffold.text .unit d).toList :=
    (Scaffold.return_mem_text_iff hplain).2 (by decide +kernel)
  refine ⟨hplain, scaffolds_ofDependency _, _, _, fun hsame => ?_, recompiles_ofDependency "X\rY" hplain⟩
  exact rereadText_eq_self_iff.1 (toUTF8_inj hsame).symm hreturn

end Testsmith
