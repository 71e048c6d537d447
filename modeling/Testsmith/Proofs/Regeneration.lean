import Testsmith.Proofs.ExecutedClasses
import Testsmith.Proofs.LoadedSettings
import Testsmith.Proofs.MadeDirectories
import Testsmith.Proofs.OperationFootprints
import Testsmith.Proofs.OutputPlaces

/-!
# Generating again

A generation without validation that is made again reads what it has read before and writes what it has
written before. What an action does again is two things here, the value or the failure that it comes to
and the report that it leaves (`Action.EndsAlike`): the files it leaves are known from what it may change
at all, and the journal goes on.

Before its test is written a generation only reads, so a failure there repeats itself: settings, standards
and the text of the service are looked for in the same files, and the standards that were kept are found
kept (`Service.repeats_of_prepare_error`, `Service.repeats_of_analyze_error`). A generation that comes to
write (`Service.Reads`) goes on as `FileTree.place` does, which repeats itself but for one case. What is
left is that the second one sees what the first has seen (`Service.SeenAlike`). The test stands neither in
the place of the service nor of the settings (`Service.output_places`), so both are read again if they were
read. But the directories that were made may let a path arrive that led nowhere, and then settings are
found the second time (`Service.SettingsAppear`). Paths that are grounded do not
(`FileTree.Grounded.isFile_stays`), and the root is grounded where a service was read below it.

All of this rests on trees without symbolic and hard links (`FileTree`): where the path of the test is a
link to the service, the first generation would write over the text that the second one reads.

`generation_repeats` is the main statement.
-/

namespace Testsmith

variable {σ α β : Type}

open Testsmith.Action FileTree

/-! ## What actions come to -/

namespace Action

/-- The value or the failure of an action. -/
def outcome (x : Action σ α) (s : Session σ) : Except Failure α :=
  match x s with
  | .ok a _ => .ok a
  | .error failure _ => .error failure

variable {x : Action σ α} {next : α → Action σ β} {s t u v : Session σ} {a : α} {failure : Failure}

theorem outcome_of_ok (h : x s = .ok a t) : x.outcome s = .ok a := by
  unfold outcome
  rw [h]

theorem outcome_of_error (h : x s = .error failure t) : x.outcome s = .error failure := by
  unfold outcome
  rw [h]

theorem exists_of_outcome_ok (h : x.outcome s = .ok a) : x s = .ok a (x.leaves s) := by
  unfold outcome at h
  unfold leaves
  split at h
  · next hx =>
    rw [hx, Except.ok.inj h]
  · cases h

theorem exists_of_outcome_error (h : x.outcome s = .error failure) :
    x s = .error failure (x.leaves s) := by
  unfold outcome at h
  unfold leaves
  split at h
  · cases h
  · next hx => rw [hx, Except.error.inj h]

theorem outcome_congr {y : Action σ α} (h : x s = y t) : x.outcome s = y.outcome t := by
  rw [outcome, h, outcome]

/-- From two sessions the action comes to the same, and leaves the same report. -/
def EndsAlike (x : Action σ α) (s u : Session σ) : Prop :=
  x.outcome u = x.outcome s ∧ (x.leaves u).report = (x.leaves s).report

theorem endsAlike_of_ok (hs : x s = .ok a t) (hu : x u = .ok a v) (h : v.report = t.report) :
    x.EndsAlike s u := by
  rw [EndsAlike, outcome_of_ok hs, outcome_of_ok hu, leaves_of_ok hs, leaves_of_ok hu]
  exact ⟨rfl, h⟩

theorem endsAlike_of_error (hs : x s = .error failure t) (hu : x u = .error failure v)
    (h : v.report = t.report) : x.EndsAlike s u := by
  rw [EndsAlike, outcome_of_error hs, outcome_of_error hu, leaves_of_error hs, leaves_of_error hu]
  exact ⟨rfl, h⟩

theorem EndsAlike.bind (hx : x.EndsAlike s u)
    (hnext : ∀ a t v, v.report = t.report → (next a).EndsAlike t v) : (x >>= next).EndsAlike s u := by
  obtain ⟨houtcome, hreport⟩ := hx
  cases hs : x s with
  | ok a t =>
    rw [outcome_of_ok hs] at houtcome
    rw [leaves_of_ok hs] at hreport
    have hrest := hnext a t _ hreport
    rwa [EndsAlike, outcome_congr (bind_of_ok (exists_of_outcome_ok houtcome)),
      outcome_congr (bind_of_ok hs), leaves_bind_of_ok hs,
      leaves_bind_of_ok (exists_of_outcome_ok houtcome)]
  | error failure t =>
    rw [outcome_of_error hs] at houtcome
    rw [leaves_of_error hs] at hreport
    have hu := exists_of_outcome_error houtcome
    exact endsAlike_of_error (bind_of_error hs) (bind_of_error hu) hreport

theorem endsAlike_pure (a : α) (h : u.report = s.report) : (pure a : Action σ α).EndsAlike s u :=
  endsAlike_of_ok rfl rfl h

theorem endsAlike_finishStep (finish : Report → Except Step Report) (h : u.report = s.report) :
    (finishStep finish : Action σ Unit).EndsAlike s u := by
  cases hfinish : finish s.report with
  | ok report =>
    exact endsAlike_of_ok (finishStep_of_ok hfinish) (finishStep_of_ok (h ▸ hfinish)) rfl
  | error step =>
    exact endsAlike_of_error (finishStep_of_error hfinish) (finishStep_of_error (h ▸ hfinish)) h

theorem endsAlike_readText {p : Path} (h : u.report = s.report)
    (htext : u.files.text u.workingDirectory p = s.files.text s.workingDirectory p) :
    (readText p : Action σ String).EndsAlike s u := by
  cases hs : s.files.text s.workingDirectory p with
  | ok text => exact endsAlike_of_ok (readText_of_ok hs) (readText_of_ok (htext.trans hs)) h
  | error failure =>
    exact endsAlike_of_error (readText_of_error hs) (readText_of_error (htext.trans hs)) h

theorem standards_leaves (h : ∀ g, x.Commutes (.aside id g)) (s : Session σ) :
    (x.leaves s).standards = s.standards := by
  cases hx : x s with
  | ok a t => exact leaves_of_ok hx ▸ standards_of_commutes h hx
  | error failure t =>
    have hfixed : s.aside id (fun _ => s.standards) = s := rfl
    have ht := congrArg Session.standards ((h fun _ => s.standards).fixed_of_error hfixed hx)
    exact leaves_of_error hx ▸ ht

theorem report_leaves (h : x.KeepsReport) (s : Session σ) : (x.leaves s).report = s.report := by
  have hends := h s
  unfold Ends at hends
  cases hx : x s with
  | ok a t =>
    rw [hx] at hends
    exact leaves_of_ok hx ▸ hends
  | error failure t =>
    rw [hx] at hends
    exact leaves_of_error hx ▸ hends

end Action

/-! ## Settings -/

/-- Settings depend on whether there is a file of them, and on what it holds. -/
theorem Settings.load_outcome {root : Path} {s u : Session σ}
    (hfile : u.files.isFile u.workingDirectory (file root) =
      s.files.isFile s.workingDirectory (file root))
    (hread : s.files.isFile s.workingDirectory (file root) = .ok true →
      u.files.read u.workingDirectory (file root) = s.files.read s.workingDirectory (file root)) :
    (load root).outcome u = (load root).outcome s := by
  cases hs : s.files.isFile s.workingDirectory (file root) with
  | error failure =>
    have hfails : load root s = .error failure s := bind_of_error (isFile_of_error hs)
    have hfails' : load root u = .error failure u := bind_of_error (isFile_of_error (hfile.trans hs))
    rw [outcome_of_error hfails, outcome_of_error hfails']
  | ok present =>
    cases present with
    | false =>
      have hnone : load root s = .ok default s := bind_of_ok (isFile_of_ok hs)
      have hnone' : load root u = .ok default u := bind_of_ok (isFile_of_ok (hfile.trans hs))
      rw [outcome_of_ok hnone, outcome_of_ok hnone']
    | true =>
      obtain ⟨content, hcontent⟩ := exists_read_of_isFile hs
      have hload := load_eq hcontent
      have hload' := load_eq ((hread hs).trans hcontent)
      unfold outcome
      rw [hload, hload']
      cases ofBytes content with
      | ok settings => rfl
      | error failure => cases h : isIgnorable failure <;> simp [h]

/-! ## Standards -/

namespace Standards

variable {shelf : Shelf} {d : Document} {s t u : Session σ} {failure : Failure} {text : String}

theorem fetch_outcome (shelf : Shelf) (d : Document) (hfiles : u.files = s.files)
    (hcwd : u.workingDirectory = s.workingDirectory) :
    (fetch shelf d).outcome u = (fetch shelf d).outcome s := by
  cases shelf with
  | builtIn => rfl
  | directory path =>
    have htext : u.files.text u.workingDirectory (path / d.fileName) =
        s.files.text s.workingDirectory (path / d.fileName) := by rw [hfiles, hcwd]
    unfold fetch
    cases hs : s.files.text s.workingDirectory (path / d.fileName) with
    | ok text =>
      rw [outcome_congr (bind_of_ok (attempt_of_ok (readText_of_ok hs))),
        outcome_congr (bind_of_ok (attempt_of_ok (readText_of_ok (htext.trans hs))))]
      rfl
    | error failure =>
      rw [outcome_congr (bind_of_ok (attempt_of_error (readText_of_error hs))),
        outcome_congr (bind_of_ok (attempt_of_error (readText_of_error (htext.trans hs))))]
      cases failure <;> rfl

/-- A document that cannot be read was not kept, and nothing is kept for it. -/
theorem document_eq_error (h : document shelf d s = .error failure t) :
    s.standards.get? d = none ∧ t.standards = s.standards ∧ fetch shelf d s = .error failure t := by
  cases hcached : s.standards.get? d with
  | some text =>
    rw [document_of_cached hcached] at h
    cases h
  | none =>
    rw [document_of_uncached hcached] at h
    rcases bind_eq_error h with hfetch | ⟨text, v, -, hrest⟩
    · have hkept := standards_leaves (fun _ => fetch_commutes shelf d) s
      exact ⟨rfl, leaves_of_error hfetch ▸ hkept, hfetch⟩
    · cases hrest

/-- A document that could not be read cannot be read again. -/
theorem document_fails_again (h : document shelf d s = .error failure t)
    (hkept : u.standards = t.standards) (hfiles : u.files = t.files)
    (hcwd : u.workingDirectory = t.workingDirectory) :
    (document shelf d).outcome u = .error failure := by
  obtain ⟨hmissing, hsame, hfetch⟩ := document_eq_error h
  have hread : s.OnlyRead t := (document_leads shelf d).of_error h
  have hagain := fetch_outcome shelf d (hfiles.trans hread.files_eq)
    (hcwd.trans hread.workingDirectory_eq)
  rw [outcome_of_error hfetch] at hagain
  rw [← hsame, ← hkept] at hmissing
  rw [outcome_congr (document_of_uncached hmissing)]
  exact outcome_of_error (bind_of_error (exists_of_outcome_error hagain))

theorem ensureLoaded_fails_again (h : ensureLoaded shelf s = .error failure t)
    (hkept : u.standards = t.standards) (hfiles : u.files = t.files)
    (hcwd : u.workingDirectory = t.workingDirectory) :
    (ensureLoaded shelf).outcome u = .error failure := by
  rcases bind_eq_error h with hfirst | ⟨first, v, hfirst, hrest⟩
  · have hagain := document_fails_again hfirst hkept hfiles hcwd
    exact outcome_of_error (bind_of_error (exists_of_outcome_error hagain))
  · by_cases hempty : first = ""
    · rw [if_pos hempty] at hrest
      cases hrest
    · rw [if_neg hempty] at hrest
      rcases bind_eq_error hrest with hsecond | ⟨second, w, -, hpure⟩
      · have hagain := document_fails_again hsecond hkept hfiles hcwd
        have hcached := (cached_of_document hfirst).1
        rw [← (document_eq_error hsecond).2.1, ← hkept] at hcached
        unfold ensureLoaded
        rw [outcome_congr (bind_of_ok (document_of_cached hcached)), if_neg hempty]
        exact outcome_of_error (bind_of_error (exists_of_outcome_error hagain))
      · cases hpure

end Standards

/-- The envelope without the texts of errors. -/
def Envelope.silenced (e : Envelope) : Envelope :=
  { e with
    error := none
    steps := e.steps.map fun steps => steps.map fun step => { step with error := none } }

namespace Service

variable {svc : Service σ} {r : GenerateRequest} {flavor : Flavor} {path : String} {settings : Settings}
  {loaded : Bool} {d : Descriptor} {fidelity : Fidelity} {failure : Failure} {s t u v w : Session σ}
  {root : Path} {known : Envelope}

/-! ## Parts of a session that stay -/

theorem report_prepared (svc : Service σ) (root : Path) (s : Session σ) :
    ((svc.prepare root).leaves s).report = s.report :=
  report_leaves (prepare_keepsReport svc root) s

theorem standards_analyzed (r : GenerateRequest) (settings : Settings) (s : Session σ) :
    ((analyzeStep r settings).leaves s).standards = s.standards :=
  standards_leaves (fun _ => analyzeStep_commutes r settings) s

/-! ## Reading again -/

theorem settingsFor_outcome_of_files (hfiles : u.files = s.files)
    (hcwd : u.workingDirectory = s.workingDirectory) :
    (svc.settingsFor root).outcome u = (svc.settingsFor root).outcome s := by
  unfold settingsFor
  split
  · rfl
  · exact Settings.load_outcome (by rw [hfiles, hcwd]) fun _ => by rw [hfiles, hcwd]

/-- What was prepared is prepared again, where the settings are the same and the standards are kept. -/
theorem prepare_of_prepared (h : svc.prepare root s = .ok (settings, loaded) t)
    (hsettings : (svc.settingsFor root).outcome u = (svc.settingsFor root).outcome s)
    (hkept : u.standards = t.standards) : (svc.prepare root).outcome u = .ok (settings, loaded) := by
  obtain ⟨found, v, hfound, hrest⟩ := bind_eq_ok h
  obtain ⟨_, w, hloaded, hpure⟩ := bind_eq_ok hrest
  cases hpure
  rw [outcome_of_ok hfound] at hsettings
  have hagain := exists_of_outcome_ok hsettings
  have hkept' := (standards_of_commutes (fun _ => settingsFor_commutes svc root) hagain).trans hkept
  unfold prepare
  rw [outcome_congr (bind_of_ok hagain)]
  exact outcome_of_ok (bind_of_ok (Standards.ensureLoaded_again hloaded hkept'))

/-- What could not be prepared cannot be prepared again. -/
theorem prepare_fails_again (h : svc.prepare root s = .error failure t)
    (hkept : u.standards = t.standards) (hfiles : u.files = t.files)
    (hcwd : u.workingDirectory = t.workingDirectory) :
    (svc.prepare root).outcome u = .error failure := by
  have hread : s.OnlyRead t := (prepare_leads svc root).of_error h
  have hsettings : (svc.settingsFor root).outcome u = (svc.settingsFor root).outcome s :=
    settingsFor_outcome_of_files (hfiles.trans hread.files_eq) (hcwd.trans hread.workingDirectory_eq)
  rcases bind_eq_error h with hfails | ⟨found, v, hfound, hrest⟩
  · rw [outcome_of_error hfails] at hsettings
    exact outcome_of_error (bind_of_error (exists_of_outcome_error hsettings))
  · rw [outcome_of_ok hfound] at hsettings
    have hagain := exists_of_outcome_ok hsettings
    have hread' : u.OnlyRead ((svc.settingsFor root).leaves u) := settingsFor_leads svc root u
    rcases bind_eq_error hrest with hloads | ⟨_, w, -, hpure⟩
    · have hfails := Standards.ensureLoaded_fails_again hloads
        ((standards_of_commutes (fun _ => settingsFor_commutes svc root) hagain).trans hkept)
        (hread'.files_eq.trans hfiles) (hread'.workingDirectory_eq.trans hcwd)
      unfold prepare
      rw [outcome_congr (bind_of_ok hagain)]
      exact outcome_of_error (bind_of_error (exists_of_outcome_error hfails))
    · cases hpure

/-- An analysis depends on the report and on the text of the service, which it only reads where there is
no symbol data. -/
theorem analyzeStep_endsAlike (r : GenerateRequest) (settings : Settings) (h : u.report = s.report)
    (htext : r.symbols = none → u.files.text u.workingDirectory (r.root / r.servicePath) =
      s.files.text s.workingDirectory (r.root / r.servicePath)) :
    (analyzeStep r settings).EndsAlike s u := by
  have hread (p : Path) (text : String → Descriptor × Fidelity) {s u : Session σ}
      (h : u.report = s.report)
      (htext : u.files.text u.workingDirectory p = s.files.text s.workingDirectory p) :
      (readText p >>= fun source => pure (text source) : Action σ _).EndsAlike s u :=
    (endsAlike_readText h htext).bind fun _ _ _ h => endsAlike_pure _ h
  unfold analyzeStep
  rw [EndsAlike, outcome_congr (bind_of_ok (startStep_apply _ _ s)),
    outcome_congr (bind_of_ok (startStep_apply _ _ u)), leaves_bind_of_ok (startStep_apply _ _ s),
    leaves_bind_of_ok (startStep_apply _ _ u), h]
  refine EndsAlike.bind ?_ fun found t v hreport =>
    (endsAlike_finishStep _ hreport).bind fun _ _ _ h => endsAlike_pure _ h
  unfold describe
  cases hsymbols : r.symbols with
  | some data => exact (endsAlike_pure _ rfl).bind fun _ _ _ h => endsAlike_pure _ h
  | none => exact hread _ _ rfl (htext hsymbols)

/-! ## Writing again -/

theorem writeStep_of_placed {files : FileTree}
    (h : s.files.place s.workingDirectory (root / path) (Scaffold.text flavor d).toUTF8 =
      (.ok (), files)) :
    ∃ t, writeStep root path flavor d s = .ok () t ∧ t.files = files ∧
      t.workingDirectory = s.workingDirectory ∧ t.standards = s.standards ∧
      t.report = reportWritten flavor path d s.report := by
  unfold place at h
  split at h
  · cases h
  · next hmade =>
    split at h
    · next hwritten =>
      obtain ⟨-, rfl⟩ := Prod.mk.inj h
      exact writeStep_of_made hmade hwritten
    · cases h

theorem writeStep_of_not_placed {files : FileTree}
    (h : s.files.place s.workingDirectory (root / path) (Scaffold.text flavor d).toUTF8 =
      (.error failure, files)) :
    writeStep root path flavor d s =
      .error failure { s with report := reportWriting flavor s.report, files } := by
  unfold writeStep
  rw [bind_of_ok (startStep_writing flavor s)]
  unfold place at h
  split at h
  · next hmade =>
    obtain ⟨⟨⟩, rfl⟩ := Prod.mk.inj h
    exact bind_of_error (makeDirectories_of_error
      (s := { s with report := reportWriting flavor s.report }) hmade)
  · next made hmade =>
    have hmakes := makeDirectories_of_ok (s := { s with report := reportWriting flavor s.report }) hmade
    rw [bind_of_ok hmakes]
    split at h
    · cases h
    · next hwritten =>
      obtain ⟨⟨⟩, rfl⟩ := Prod.mk.inj h
      exact bind_of_error (writeText_of_error
        (s := { s with report := reportWriting flavor s.report, files := made }) hwritten)

/-! ## Generating again -/

variable (svc r) in
/-- What a generation reads is the same in two sessions: what comes of the settings, and the text of the
service, where it is read. -/
structure SeenAlike (s u : Session σ) : Prop where
  settings : (svc.settingsFor r.root).outcome { u with report := {} } =
    (svc.settingsFor r.root).outcome { s with report := {} }
  text : r.symbols = none → u.files.text u.workingDirectory (r.root / r.servicePath) =
    s.files.text s.workingDirectory (r.root / r.servicePath)

/-- Behind what was prepared, an analysis ends as before where it sees the same. -/
theorem analyzed_again (hprepare : svc.prepare r.root { s with report := {} } = .ok (settings, loaded) t)
    (hseen : svc.SeenAlike r s u) (hkept : u.standards = t.standards) :
    ∃ v, svc.prepare r.root { u with report := {} } = .ok (settings, loaded) v ∧
      Session.OnlyRead u v ∧ (analyzeStep r settings).EndsAlike t v := by
  have hagain := exists_of_outcome_ok
    (prepare_of_prepared (u := { u with report := {} }) hprepare hseen.settings hkept)
  have ht : s.OnlyRead t := onlyRead_of_prepared hprepare
  have hv := onlyRead_of_prepared hagain
  refine ⟨_, hagain, hv, analyzeStep_endsAlike r settings ?_ fun hsymbols => ?_⟩
  · rw [← leaves_of_ok hprepare, report_prepared, report_prepared]
  · rw [hv.files_eq, hv.workingDirectory_eq, ht.files_eq, ht.workingDirectory_eq, hseen.text hsymbols]

variable (svc r s) in
/-- A generation is answered again with the same files and the same reply, unless making the directory of
the test has failed behind something that was made. Then the second one fails as well, and the replies
are the same but for the texts of the errors. -/
def Repeats (flavor : Flavor) : Prop :=
  let first := answering (svc.generate flavor r) s
  let second := answering (svc.generate flavor r) first.2
  second.2.files = first.2.files ∧
    (second.1 = first.1 ∨
      (∃ path, testPathOf r = .ok path ∧
        s.files.PartlyMade s.workingDirectory (r.root / path).parent) ∧
      first.1.envelope.success = false ∧ second.1.envelope.silenced = first.1.envelope.silenced)

theorem repeats_of_same {reply : Reply} (h : svc.generate flavor r s = .ok reply t)
    (hagain : svc.generate flavor r t = .ok reply u) (hfiles : u.files = t.files) :
    svc.Repeats r s flavor := by
  unfold Repeats
  dsimp only
  rw [answering_of_ok h]
  dsimp only
  rw [answering_of_ok hagain]
  exact ⟨hfiles, .inl rfl⟩

theorem repeats_of_no_path (hpath : testPathOf r = .error failure) : svc.Repeats r s flavor := by
  have hanswering (s : Session σ) : answering (svc.generate flavor r) s =
      (.ofFailure failure { success := false }, { s with report := {} }) := by
    rw [answering, svc.generate_of_no_path flavor hpath]
  unfold Repeats
  rw [hanswering]
  dsimp only
  rw [hanswering]
  exact ⟨rfl, .inl rfl⟩

theorem repeats_of_prepare_error (hpath : testPathOf r = .ok path)
    (hprepare : svc.prepare r.root { s with report := {} } = .error failure t) :
    svc.Repeats r s flavor := by
  have hgenerate : svc.generate flavor r s = _ :=
    (generate_of_prepare_error flavor r.validates hpath hprepare).trans (cutShort_eq _ _ _)
  have hagain := exists_of_outcome_error (prepare_fails_again
    (u := { t with report := {} }) hprepare rfl rfl rfl)
  have hread : Session.OnlyRead { t with report := {} } _ := prepare_leads svc r.root _
  have hreport : ((svc.prepare r.root).leaves { t with report := {} }).report = t.report := by
    rw [report_prepared, ← leaves_of_error hprepare, report_prepared]
  have hgenerates : svc.generate flavor r { t with report := t.report.failOpen failure.message } = _ :=
    (generate_of_prepare_error flavor r.validates hpath hagain).trans (cutShort_eq _ _ _)
  rw [hreport] at hgenerates
  exact repeats_of_same hgenerate hgenerates hread.files_eq

theorem repeats_of_analyze_error (hpath : testPathOf r = .ok path)
    (hprepare : svc.prepare r.root { s with report := {} } = .ok (settings, loaded) t)
    (hanalyze : analyzeStep r settings t = .error failure u) : svc.Repeats r s flavor := by
  have hgenerate : svc.generate flavor r s = _ :=
    (generate_of_analyze_error flavor r.validates hpath hprepare hanalyze).trans (cutShort_eq _ _ _)
  have hread : s.OnlyRead u := IsTrans.trans _ _ _ (onlyRead_of_prepared hprepare)
    ((analyzeStep_leads r settings).of_error hanalyze)
  have hkept : u.standards = t.standards := leaves_of_error hanalyze ▸ standards_analyzed r settings t
  have hseen : svc.SeenAlike r s { u with report := u.report.failOpen failure.message } :=
    ⟨settingsFor_outcome_of_files hread.files_eq hread.workingDirectory_eq,
      fun _ => by rw [hread.files_eq, hread.workingDirectory_eq]⟩
  obtain ⟨v, hagain, hv, houtcome, hreport⟩ := analyzed_again hprepare hseen hkept
  rw [outcome_of_error hanalyze] at houtcome
  rw [leaves_of_error hanalyze] at hreport
  have hanalyzes := exists_of_outcome_error houtcome
  have hgenerates : svc.generate flavor r { u with report := u.report.failOpen failure.message } = _ :=
    (generate_of_analyze_error flavor r.validates hpath hagain hanalyzes).trans (cutShort_eq _ _ _)
  have hread' : Session.OnlyRead v _ := analyzeStep_leads r settings v
  rw [hreport] at hgenerates
  exact repeats_of_same hgenerate hgenerates (hread'.files_eq.trans hv.files_eq)

theorem silenced_failOpen (report : Report) (message other : String) :
    (report.failOpen message).steps.map (fun step => { step with error := none }) =
      (report.failOpen other).steps.map fun step => { step with error := none } := by
  unfold Report.failOpen
  split
  · split
    · simp [Step.fail]
    · rfl
  · rfl

variable (svc r s) in
/-- What a generation has read, up to where its test is written. -/
structure Reads (path : String) (settings : Settings) (loaded : Bool) (d : Descriptor)
    (fidelity : Fidelity) (u : Session σ) : Prop where
  path : testPathOf r = .ok path
  read : ∃ t, svc.prepare r.root { s with report := {} } = .ok (settings, loaded) t ∧
    analyzeStep r settings t = .ok (d, fidelity) u

/-- What was read is read again in a session that looks alike. -/
theorem Reads.again (h : svc.Reads r s path settings loaded d fidelity u) (hseen : svc.SeenAlike r s v)
    (hkept : v.standards = u.standards) : ∃ w, svc.Reads r v path settings loaded d fidelity w ∧
      v.OnlyRead w ∧ w.report = u.report := by
  obtain ⟨hpath, t, hprepare, hanalyze⟩ := h
  have ht : u.standards = t.standards := leaves_of_ok hanalyze ▸ standards_analyzed r settings t
  obtain ⟨w, hagain, hw, houtcome, hreport⟩ := analyzed_again hprepare hseen (hkept.trans ht)
  rw [outcome_of_ok hanalyze] at houtcome
  rw [leaves_of_ok hanalyze] at hreport
  have hread : Session.OnlyRead w _ := analyzeStep_leads r settings w
  exact ⟨_, ⟨hpath, w, hagain, exists_of_outcome_ok houtcome⟩, IsTrans.trans _ _ _ hw hread, hreport⟩

/-- The reply to a generation without validation that has read everything, by what comes of its writing. -/
def replyWriting (flavor : Flavor) (r : GenerateRequest) (path : String) (loaded : Bool) (d : Descriptor)
    (fidelity : Fidelity) (report : Report) : Except Failure Unit → Reply
  | .ok () => { envelope := { knownOf r path loaded fidelity with
      success := true, steps := some (reportWritten flavor path d report).steps } }
  | .error failure => .ofFailure failure { knownOf r path loaded fidelity with
      steps := some ((reportWriting flavor report).failOpen failure.message).steps }

/-- A generation without validation that has read everything ends as its writing does. -/
theorem Reads.generate_eq (h : svc.Reads r s path settings loaded d fidelity u)
    (hvalidates : r.validates = false) {made : Except Failure Unit} {files : FileTree}
    (hplace : u.files.place u.workingDirectory (r.root / path) (Scaffold.text flavor d).toUTF8 =
      (made, files)) :
    ∃ t, svc.generate flavor r s = .ok (replyWriting flavor r path loaded d fidelity u.report made) t ∧
      t.files = files ∧ t.workingDirectory = u.workingDirectory ∧ t.standards = u.standards := by
  obtain ⟨hpath, t, hprepare, hanalyze⟩ := h
  have hconcluded : svc.generate flavor r s = concluding
      (svc.writeAndValidate r flavor path settings d) (knownOf r path loaded fidelity) u :=
    generate_of_analyzed flavor r.validates hpath hprepare hanalyze
  cases made with
  | ok _ =>
    obtain ⟨v, hwrite, hfiles, hcwd, hkept, hreport⟩ := writeStep_of_placed hplace
    have hwritten : svc.writeAndValidate r flavor path settings d u = .ok true v :=
      (writeAndValidate_of_ok r.validates hwrite).trans (if_neg (by simp [hvalidates]))
    rw [concluding_of_ok hwritten, hreport] at hconcluded
    exact ⟨v, hconcluded, hfiles, hcwd, hkept⟩
  | error failure =>
    have hwrite := writeStep_of_not_placed hplace
    have hfails : svc.writeAndValidate r flavor path settings d u = .error failure _ :=
      writeAndValidate_of_error r.validates hwrite
    rw [concluding_of_error hfails, cutShort_eq] at hconcluded
    exact ⟨_, hconcluded, rfl, rfl, rfl⟩

theorem Reads.onlyRead (h : svc.Reads r s path settings loaded d fidelity u) : s.OnlyRead u := by
  obtain ⟨-, t, hprepare, hanalyze⟩ := h
  exact IsTrans.trans _ _ _ (onlyRead_of_prepared hprepare) ((analyzeStep_leads r settings).of_ok hanalyze)

theorem Reads.files_generated (h : svc.Reads r s path settings loaded d fidelity u)
    (hvalidates : r.validates = false) (flavor : Flavor) :
    (answering (svc.generate flavor r) s).2.files =
      (s.files.place s.workingDirectory (r.root / path) (Scaffold.text flavor d).toUTF8).2 := by
  have hread := h.onlyRead
  rw [← hread.files_eq, ← hread.workingDirectory_eq]
  cases hplace : u.files.place u.workingDirectory (r.root / path) (Scaffold.text flavor d).toUTF8 with
  | mk made files =>
    obtain ⟨t, hgenerate, hfiles, -⟩ := h.generate_eq hvalidates hplace
    rw [answering_of_ok hgenerate, hfiles]

/-- A generation that has read everything repeats itself, if it then sees the same again. -/
theorem repeats_of_read (h : svc.Reads r s path settings loaded d fidelity u)
    (hvalidates : r.validates = false)
    (hseen : ∀ v, v.workingDirectory = s.workingDirectory →
      v.files = (s.files.place s.workingDirectory (r.root / path) (Scaffold.text flavor d).toUTF8).2 →
      svc.SeenAlike r s v) : svc.Repeats r s flavor := by
  have hread := h.onlyRead
  cases hplace : s.files.place s.workingDirectory (r.root / path) (Scaffold.text flavor d).toUTF8 with
  | mk made files =>
  rw [hplace] at hseen
  have hplaced := hplace
  rw [← hread.files_eq, ← hread.workingDirectory_eq] at hplaced
  obtain ⟨t, hgenerate, hfiles, hcwd, hkept⟩ := h.generate_eq hvalidates hplaced
  have hsame := hcwd.trans hread.workingDirectory_eq
  obtain ⟨w, hagain, hw, hreport⟩ := h.again (hseen t hsame hfiles) hkept
  have hsecond {again : Except Failure Unit} (h : files.place s.workingDirectory (r.root / path)
      (Scaffold.text flavor d).toUTF8 = (again, files)) : ∃ v, svc.generate flavor r t =
        .ok (replyWriting flavor r path loaded d fidelity u.report again) v ∧ v.files = t.files := by
    rw [← hsame, ← hw.workingDirectory_eq, ← hfiles, ← hw.files_eq] at h
    obtain ⟨v, hgenerates, hvfiles, -⟩ := hagain.generate_eq hvalidates h
    exact ⟨v, hreport ▸ hgenerates, hvfiles.trans hw.files_eq⟩
  rcases place_again hplace with hsame | ⟨hpartly, ⟨failure, rfl⟩, other, hother⟩
  · obtain ⟨v, hgenerates, hvfiles⟩ := hsecond hsame
    exact repeats_of_same hgenerate hgenerates hvfiles
  · obtain ⟨v, hgenerates, hvfiles⟩ := hsecond hother
    unfold Repeats
    rw [answering_of_ok hgenerate]
    dsimp only
    rw [answering_of_ok hgenerates]
    refine ⟨hvfiles, .inr ⟨⟨path, h.path, hpartly⟩, rfl, ?_⟩⟩
    simp only [replyWriting, Envelope.silenced, Reply.ofFailure, Option.map_some]
    rw [silenced_failOpen _ other.message failure.message]

/-! ## What is written and what is read -/

variable (svc r s) in
/-- Settings of the project appear: there was no file of them, since the path of the root goes on with
more than plain names behind what is missing of it, and in other files there is one, or its path is
refused. No service was read below the root. -/
structure SettingsAppear (files : FileTree) : Prop where
  not_fixed : svc.settings = none
  not_grounded : ¬ s.files.Grounded s.workingDirectory r.root
  not_below : r.symbols = none → (Path.ofText r.servicePath).anchor ≠ .relative
  missing : s.files.isFile s.workingDirectory (Settings.file r.root) = .ok false
  found : files.isFile s.workingDirectory (Settings.file r.root) ≠ .ok false

section Placed

variable {content : ByteArray}

/-- A test that is written where it belongs makes settings appear, or leaves it as it is whether they are
there. -/
theorem settings_stay_or_appear (hpath : Layout.testPath r.servicePath = .ok path)
    (hclosed : s.files.Closed)
    (htext : r.symbols = none → ∃ text,
      s.files.text s.workingDirectory (r.root / r.servicePath) = .ok text)
    (hfiles : u.files = (s.files.place s.workingDirectory (r.root / path) content).2) :
    (svc.settings = none → u.files.isFile s.workingDirectory (Settings.file r.root) =
      s.files.isFile s.workingDirectory (Settings.file r.root)) ∨ svc.SettingsAppear r s u.files := by
  obtain ⟨-, hplace⟩ := output_places hpath r.root s.workingDirectory
  have hstay : s.files.DirectoriesStay u.files := hfiles ▸ directoriesStay_place s.files _ _ content
  have hcontent := hfiles ▸ content?_place s.files hplace.symm
  by_cases hfixed : svc.settings = none
  · by_cases hsame : u.files.isFile s.workingDirectory (Settings.file r.root) =
        s.files.isFile s.workingDirectory (Settings.file r.root)
    · exact .inl fun _ => hsame
    have hgrounded : ¬ s.files.Grounded s.workingDirectory r.root := by
      intro hroot
      have hplain : ∀ part ∈ [".testloop", "testloop.toml"], Plain part := by decide
      have hfile : s.files.Grounded s.workingDirectory (Settings.file r.root) := by
        rw [Settings.file_eq, List.append_assoc]
        exact hroot.append hplain
      exact hsame (hfile.isFile_stays hclosed hstay hcontent)
    have hmissing : s.files.isFile s.workingDirectory (Settings.file r.root) = .ok false :=
      Classical.byContradiction fun hfound => hsame (FileTree.isFile_stays hstay hcontent hfound)
    refine .inr ⟨hfixed, hgrounded, fun hsymbols hrelative => ?_, hmissing,
      fun hfalse => hsame (hfalse.trans hmissing.symm)⟩
    obtain ⟨text, hs⟩ := htext hsymbols
    obtain ⟨old, hread, -⟩ := text_eq_ok_iff.1 hs
    exact hgrounded (grounded_of_read hread hrelative)
  · exact .inl fun hnone => absurd hnone hfixed

/-- A test that is written where it belongs changes nothing of what its generation reads, where settings
are there if they were. -/
theorem seenAlike_of_placed (hpath : Layout.testPath r.servicePath = .ok path)
    (hsettings : svc.settings = none → u.files.isFile s.workingDirectory (Settings.file r.root) =
      s.files.isFile s.workingDirectory (Settings.file r.root))
    (htext : r.symbols = none → ∃ text,
      s.files.text s.workingDirectory (r.root / r.servicePath) = .ok text)
    (hcwd : u.workingDirectory = s.workingDirectory)
    (hfiles : u.files = (s.files.place s.workingDirectory (r.root / path) content).2) :
    svc.SeenAlike r s u := by
  obtain ⟨hservice, hplace⟩ := output_places hpath r.root s.workingDirectory
  constructor
  · unfold settingsFor
    split
    · rfl
    · next hnone =>
      refine Settings.load_outcome ?_ fun hpresent => ?_
      · show u.files.isFile u.workingDirectory _ = s.files.isFile s.workingDirectory _
        rw [hcwd, hsettings hnone]
      · show u.files.read u.workingDirectory _ = s.files.read s.workingDirectory _
        obtain ⟨old, hread⟩ := exists_read_of_isFile hpresent
        rw [hcwd, hfiles, read_of_placed hread hplace]
        exact hread.symm
  · intro hsymbols
    obtain ⟨text, hs⟩ := htext hsymbols
    obtain ⟨old, hread, hdecode⟩ := text_eq_ok_iff.1 hs
    rw [hs, hcwd, hfiles]
    exact text_of_read (read_of_placed hread hservice) hdecode

end Placed

/-- A generation without validation whose test is written where it belongs repeats itself, unless it has
made settings appear. -/
theorem generate_repeats_or_appear (htest : r.testPath = none ∨ r.testPath = some "")
    (hvalidates : r.validates = false) (hclosed : s.files.Closed) : svc.Repeats r s flavor ∨
      svc.SettingsAppear r s (answering (svc.generate flavor r) s).2.files := by
  cases hpath : testPathOf r with
  | error failure => exact .inl (repeats_of_no_path hpath)
  | ok path =>
  cases hprepare : svc.prepare r.root { s with report := {} } with
  | error failure t => exact .inl (repeats_of_prepare_error hpath hprepare)
  | ok prepared t =>
  obtain ⟨settings, loaded⟩ := prepared
  cases hanalyze : analyzeStep r settings t with
  | error failure u => exact .inl (repeats_of_analyze_error hpath hprepare hanalyze)
  | ok analyzed u =>
  obtain ⟨d, fidelity⟩ := analyzed
  have hreads : svc.Reads r s path settings loaded d fidelity u := ⟨hpath, t, hprepare, hanalyze⟩
  have htext : r.symbols = none → ∃ text,
      s.files.text s.workingDirectory (r.root / r.servicePath) = .ok text := by
    have ht : s.OnlyRead t := onlyRead_of_prepared hprepare
    obtain ⟨source, hsource, -⟩ := extract_of_analyzed hanalyze
    rw [ht.files_eq, ht.workingDirectory_eq] at hsource
    exact fun hsymbols => ⟨source, hsource hsymbols⟩
  have hfiles := hreads.files_generated hvalidates flavor
  have hinferred := testPathOf_inferred htest hpath
  rcases settings_stay_or_appear hinferred hclosed htext hfiles with hsettings | happear
  · exact .inl (repeats_of_read hreads hvalidates fun v hcwd hv =>
      seenAlike_of_placed hinferred (hv.trans hfiles.symm ▸ hsettings) htext hcwd hv)
  · exact .inr happear

theorem dispatch_generate {name : String} {arguments : Json}
    (hname : Operation.ofName? name = some (.generate flavor))
    (hread : Request.readGenerate arguments = .ok r) (s : Session σ) :
    svc.dispatch name arguments s = answering (svc.generate flavor r) s := by
  rw [dispatch_of_some hname, answering, perform_generate hread]
  rfl

end Service

/-- **Generating again changes nothing.** A generation without validation, for a request that does not say
where the test is to be, is called twice, in a tree where every entry stands in a directory. Then the
second call leaves the files as the first one and it answers the same, but for two cases that come of
directories that were made. Where making the directory of the test has failed behind one, neither call is
successful, and the answers are the same but for the texts of the errors. And a root that was not grounded
may lead to settings that were not found. The test is written neither over the service nor over the
settings file, wherever their paths lead. -/
theorem generation_repeats (svc : Service σ) (s : Session σ) (name : String) (arguments : Json)
    (flavor : Flavor) (r : GenerateRequest) (hname : Operation.ofName? name = some (.generate flavor))
    (hread : Request.readGenerate arguments = .ok r)
    (htest : r.testPath = none ∨ r.testPath = some "") (hvalidates : r.validates = false)
    (hclosed : s.files.Closed) :
    (∀ path, Service.testPathOf r = .ok path →
      destination s.workingDirectory (r.root / path) ≠
        destination s.workingDirectory (r.root / r.servicePath) ∧
      destination s.workingDirectory (r.root / path) ≠
        destination s.workingDirectory (Settings.file r.root)) ∧
    ∃ first t second u, svc.dispatch name arguments s = (first, t) ∧
      svc.dispatch name arguments t = (second, u) ∧
      (u.files = t.files ∧
        (second = first ∨
          (∃ path, Service.testPathOf r = .ok path ∧
            s.files.PartlyMade s.workingDirectory (r.root / path).parent) ∧
          first.envelope.success = false ∧ second.envelope.silenced = first.envelope.silenced) ∨
      svc.SettingsAppear r s t.files) := by
  exact ⟨fun path hpath => Service.output_places (Service.testPathOf_inferred htest hpath) _ _,
    _, _, _, _, Service.dispatch_generate hname hread s, Service.dispatch_generate hname hread _,
    Service.generate_repeats_or_appear htest hvalidates hclosed⟩

/-! ## Projects -/

/-- A project in the working directory, with some entries. -/
def Session.ofEntries (entries : List (Location × Node)) : Session Nat where
  files := ⟨entries⟩
  tool := 0

/-- The arguments of a call for a generation without validation. -/
def generationOf (root servicePath : String) (more : Json.Fields) : Json :=
  .obj ([("project_root", .str root), ("service_path", .str servicePath), ("validate", .bool false)] ++
    more)

/-- A project with settings and a service, for which there is no test directory yet. -/
def Session.ofConfigured : Session Nat :=
  .ofEntries [([".testloop"], .directory),
    ([".testloop", "testloop.toml"], .file "generation.fallback_package = \"shop\"".toUTF8),
    (["src"], .directory), (["src", "main"], .directory),
    (["src", "main", "Orders.kt"], .file "class Orders(val repo: Repo)".toUTF8)]

/-- Where the directories of the test can be made, both answers are the same. -/
theorem generation_repeats_orders :
    Session.ofConfigured.files.Closed ∧
    ∃ first t second u,
      Service.successful.dispatch "generate_unit_test" (generationOf "." "src/main/Orders.kt" [])
        .ofConfigured = (first, t) ∧
      Service.successful.dispatch "generate_unit_test" (generationOf "." "src/main/Orders.kt" []) t =
        (second, u) ∧
      u.files = t.files ∧ second = first := by
  have hclosed : Session.ofConfigured.files.Closed := by decide +kernel
  obtain ⟨-, first, t, second, u, hfirst, hsecond,
      ⟨hfiles, hsame | ⟨⟨path, hpath, hpartly⟩, -⟩⟩ | happear⟩ :=
    generation_repeats .successful .ofConfigured "generate_unit_test"
      (generationOf "." "src/main/Orders.kt" []) .unit
      { root := .ofText ".", servicePath := "src/main/Orders.kt", validates := false }
      rfl rfl (.inl rfl) rfl hclosed
  · exact ⟨hclosed, first, t, second, u, hfirst, hsecond, hfiles, hsame⟩
  · obtain ⟨failure, made, hmade, -⟩ := hpartly
    have hinferred : (Service.testPathOf
        { root := .ofText ".", servicePath := "src/main/Orders.kt", validates := false }).toOption =
          some "src/test/OrdersTest.kt" := by decide +kernel
    rw [hpath] at hinferred
    have hmakes : (Session.ofConfigured.files.makeDirectories []
        (Path.ofText "." / "src/test/OrdersTest.kt").parent).1.isOk = true := by decide +kernel
    have hmade : Session.ofConfigured.files.makeDirectories [] (Path.ofText "." / path).parent =
        (.error failure, made) := hmade
    rw [← Option.some.inj hinferred, hmade] at hmakes
    cases hmakes
  · have hpresent : (Session.ofConfigured.files.isFile [] (Settings.file (.ofText "."))).toOption =
        some true := by decide +kernel
    have hmissing : Session.ofConfigured.files.isFile [] (Settings.file (.ofText ".")) = .ok false :=
      happear.missing
    rw [hmissing] at hpresent
    cases hpresent

/-- Not every call repeats itself. Making a directory fails with what stands in the way, which is found
through another path once something was made. And behind a directory that was made a step up leads to a
settings file that was not found before. -/
theorem generation_not_repeated :
    (let call := (Service.successful.fixing Settings.default).dispatch "generate_unit_test"
      (generationOf "." "a/../f/b/Foo.kt" [("serena_analysis", .obj [])])
    let project := Session.ofEntries [(["f"], .file "".toUTF8)]
    project.files.Closed ∧
      (call project).1.envelope.error = some "[Errno 17] File exists: 'a/../f'" ∧
      (call (call project).2).1.envelope.error = some "[Errno 20] Not a directory: 'a/../f/b'") ∧
    (let call := Service.successful.dispatch "generate_unit_test"
      (generationOf "x/.." "Foo.kt" [("serena_analysis", .obj [])])
    let project := Session.ofEntries [([".testloop"], .directory),
      ([".testloop", "testloop.toml"], .file "generation.fallback_package = \"shop\"".toUTF8)]
    project.files.Closed ∧ (call project).1.envelope.success = true ∧
      (call (call project).2).2.files.content? ["FooTest.kt"] ≠
        (call project).2.files.content? ["FooTest.kt"]) := by
  refine ⟨⟨?_, ?_, ?_⟩, ?_, ?_, ?_⟩ <;> decide +kernel

end Testsmith
