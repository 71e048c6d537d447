import Testsmith.Proofs.DocumentReading
import Testsmith.Proofs.FileRewrite
import Testsmith.Proofs.WrittenToml
import Testsmith.Settings.File

/-!
# What a settings file gives

A settings file that can be read gives settings (`Gives`) in which every known key that a section of it
contains has the value there, every other one its default, and nothing else counts. A file that gives
none is ignored as a whole. The one exception is a file that is refused for a long row of digits
(`Overlong`): there loading fails. `load_settings` is the main statement.

Laying a document over the defaults and reading the result is one equivalence
(`read_overlay_eq_ok_iff`), put together from the keys of a section (`required_update`) and the shape of
a section (`record_overlaySection`). It needs that a document has no key twice, which reading it gives.

A document is taken to be nested less deep than the stack of its reader permits (`Toml/Document`).
-/

namespace Testsmith.Settings

open Schema Checked

/-! ## What a document gives -/

/-- The fields of a section; none where it is absent. -/
def entries (table : Json.Fields) (section_ : String) : Json.Fields :=
  match table.get? section_ with
  | some (.obj fields) => fields
  | _ => []

/-- A section is a table or absent. -/
def IsSection (table : Json.Fields) (section_ : String) : Prop :=
  ∀ j, table.get? section_ = some j → ∃ fields, j = .obj fields

/-- The value of a key: what is given for it stands for the value, or nothing is given and it is the
default. -/
def Chosen {α : Type} (StandsFor : Json → α → Prop) (given : Option Json) (byDefault value : α) : Prop :=
  match given with
  | some j => StandsFor j value
  | none => value = byDefault

def IsText (j : Json) (s : String) : Prop := j = .str s

def IsTexts (j : Json) (texts : List String) : Prop := j = Json.ofTexts texts

/-- What is read as an integer that is not less than a bound. -/
def IsNatural (least : Nat) (j : Json) (n : Nat) : Prop := integer j = .ok n ∧ least ≤ n

/-- The build tool's settings that the fields of a section give: every key is what they give for it, or
its default. -/
structure ToolOverlays (given : Json.Fields) (t : ToolSettings) : Prop where
  wrapper : Chosen IsText (given.get? "wrapper") default.tool.wrapper t.wrapper
  javaHome : Chosen IsText (given.get? "java_home") default.tool.javaHome t.javaHome
  compileTask : Chosen IsText (given.get? "compile_task") default.tool.compileTask t.compileTask
  testTask : Chosen IsText (given.get? "test_task") default.tool.testTask t.testTask
  coverageTask : Chosen IsText (given.get? "coverage_task") default.tool.coverageTask t.coverageTask
  excludedTasks : Chosen IsTexts (given.get? "exclude_tasks") default.tool.excludedTasks t.excludedTasks
  timeoutSeconds : Chosen (IsNatural 0) (given.get? "timeout_seconds") default.tool.timeoutSeconds
    t.timeoutSeconds

structure LoopOverlays (given : Json.Fields) (l : LoopSettings) : Prop where
  maxRetries : Chosen (IsNatural 1) (given.get? "max_retries") default.loop.maxRetries l.maxRetries

structure GenerationOverlays (given : Json.Fields) (g : GenerationSettings) : Prop where
  fallbackPackage : Chosen IsText (given.get? "fallback_package") default.generation.fallbackPackage
    g.fallbackPackage
  fallbackModule : Chosen IsText (given.get? "fallback_module") default.generation.fallbackModule
    g.fallbackModule
  sourceRootMarker : Chosen IsText (given.get? "source_root_marker") default.generation.sourceRootMarker
    g.sourceRootMarker
  reportImports : Chosen (IsNatural 0) (given.get? "report_imports") default.generation.reportImports
    g.reportImports

/-- The settings that a document gives: its known sections are tables or absent, and their keys lie over
the defaults. -/
structure Overlays (table : Json.Fields) (s : Settings) : Prop where
  isSection : ∀ section_ ∈ defaultSections, IsSection table section_.1
  tool : ToolOverlays (entries table "toolchain") s.tool
  loop : LoopOverlays (entries table "loop") s.loop
  generation : GenerationOverlays (entries table "generation") s.generation

/-! ## Reading a document over the defaults -/

/-- The defaults of a section. -/
def defaultsOf (section_ : String) : Json.Fields := (defaultSections.lookup section_).getD []

section Keys

variable {α : Type} {defaults given : Json.Fields} {key : String}
  (hdistinct : (given.map (·.1)).Nodup)
include hdistinct

/-- A key of a section over its default: read where it is given, else the default. -/
theorem required_update {read : Reader α} {StandsFor : Json → α → Prop}
    (hread : ∀ j a, read j = .ok a ↔ StandsFor j a)
    {j : Json} {byDefault : α} (hdefault : defaults.get? key = some j)
    (hj : read j = .ok byDefault) {a : α} :
    required (defaults.update given) key read = .ok a ↔
      Chosen StandsFor (given.get? key) byDefault a := by
  rw [required_eq_ok_iff, Json.Fields.get?_update _ hdistinct]
  cases given.get? key with
  | none =>
    show (∃ i, defaults.get? key = some i ∧ read i = .ok a) ↔ a = byDefault
    rw [hdefault]
    constructor
    · rintro ⟨i, ⟨⟩, hi⟩
      rw [hj] at hi
      cases hi
      rfl
    · rintro rfl
      exact ⟨j, rfl, hj⟩
  | some i =>
    show (∃ k, some i = some k ∧ read k = .ok a) ↔ StandsFor i a
    constructor
    · rintro ⟨k, ⟨⟩, hk⟩
      exact (hread i a).1 hk
    · exact fun h => ⟨i, rfl, (hread i a).2 h⟩

theorem required_text {byDefault s : String} (hdefault : defaults.get? key = some (.str byDefault)) :
    required (defaults.update given) key text = .ok s ↔ Chosen IsText (given.get? key) byDefault s :=
  required_update hdistinct (fun _ _ => text_eq_ok_iff) hdefault rfl

theorem required_texts {byDefault texts : List String}
    (hdefault : defaults.get? key = some (Json.ofTexts byDefault)) :
    required (defaults.update given) key (list text) = .ok texts ↔
      Chosen IsTexts (given.get? key) byDefault texts := by
  have hread : ∀ j texts, list text j = .ok texts ↔ IsTexts j texts := fun _ _ => list_text_eq_ok_iff
  exact required_update hdistinct hread hdefault ((hread _ _).2 rfl)

theorem required_natural {least byDefault n : Nat} (hleast : least ≤ byDefault)
    (hdefault : defaults.get? key = some (.int byDefault)) :
    required (defaults.update given) key (natural least) = .ok n ↔
      Chosen (IsNatural least) (given.get? key) byDefault n :=
  required_update hdistinct (fun _ _ => natural_eq_ok_iff) hdefault
    (natural_eq_ok_iff.2 ⟨rfl, hleast⟩)

theorem tool_read_eq_ok_iff {t : ToolSettings} :
    ToolSettings.read (.obj ((defaultsOf "toolchain").update given)) = .ok t ↔
      ToolOverlays given t := by
  unfold ToolSettings.read record
  simp only [seq_eq_ok_iff, map_eq_ok_iff]
  constructor
  · rintro ⟨_, _, ⟨_, _, ⟨_, _, ⟨_, _, ⟨_, _, ⟨_, _, ⟨_, hwrapper, rfl⟩, hjava, rfl⟩, hcompile, rfl⟩,
      htest, rfl⟩, hcoverage, rfl⟩, hexcluded, rfl⟩, htimeout, rfl⟩
    exact
      { wrapper := (required_text hdistinct rfl).1 hwrapper
        javaHome := (required_text hdistinct rfl).1 hjava
        compileTask := (required_text hdistinct rfl).1 hcompile
        testTask := (required_text hdistinct rfl).1 htest
        coverageTask := (required_text hdistinct rfl).1 hcoverage
        excludedTasks := (required_texts hdistinct rfl).1 hexcluded
        timeoutSeconds := (required_natural hdistinct (Nat.zero_le 0) rfl).1 htimeout }
  · intro h
    exact ⟨_, _, ⟨_, _, ⟨_, _, ⟨_, _, ⟨_, _, ⟨_, _,
      ⟨t.wrapper, (required_text hdistinct rfl).2 h.wrapper, rfl⟩,
      (required_text hdistinct rfl).2 h.javaHome, rfl⟩,
      (required_text hdistinct rfl).2 h.compileTask, rfl⟩,
      (required_text hdistinct rfl).2 h.testTask, rfl⟩,
      (required_text hdistinct rfl).2 h.coverageTask, rfl⟩,
      (required_texts hdistinct rfl).2 h.excludedTasks, rfl⟩,
      (required_natural hdistinct (Nat.zero_le 0) rfl).2 h.timeoutSeconds, rfl⟩

theorem loop_read_eq_ok_iff {l : LoopSettings} :
    LoopSettings.read (.obj ((defaultsOf "loop").update given)) = .ok l ↔ LoopOverlays given l := by
  unfold LoopSettings.read record
  simp only [map_eq_ok_iff]
  constructor
  · rintro ⟨_, hretries, rfl⟩
    exact ⟨(required_natural hdistinct (by decide) rfl).1 hretries⟩
  · exact fun h => ⟨_, (required_natural hdistinct (by decide) rfl).2 h.maxRetries, rfl⟩

theorem generation_read_eq_ok_iff {g : GenerationSettings} :
    GenerationSettings.read (.obj ((defaultsOf "generation").update given)) = .ok g ↔
      GenerationOverlays given g := by
  unfold GenerationSettings.read record
  simp only [seq_eq_ok_iff, map_eq_ok_iff]
  constructor
  · rintro ⟨_, _, ⟨_, _, ⟨_, _, ⟨_, hpackage, rfl⟩, hmodule, rfl⟩, hmarker, rfl⟩, himports, rfl⟩
    exact
      { fallbackPackage := (required_text hdistinct rfl).1 hpackage
        fallbackModule := (required_text hdistinct rfl).1 hmodule
        sourceRootMarker := (required_text hdistinct rfl).1 hmarker
        reportImports := (required_natural hdistinct (Nat.zero_le 10) rfl).1 himports }
  · intro h
    exact ⟨_, _, ⟨_, _, ⟨_, _,
      ⟨g.fallbackPackage, (required_text hdistinct rfl).2 h.fallbackPackage, rfl⟩,
      (required_text hdistinct rfl).2 h.fallbackModule, rfl⟩,
      (required_text hdistinct rfl).2 h.sourceRootMarker, rfl⟩,
      (required_natural hdistinct (Nat.zero_le 10) rfl).2 h.reportImports, rfl⟩

end Keys

section Sections

variable {α : Type} {table : Json.Fields}

/-- A section over its defaults is read as a record exactly where it is a table or absent. -/
theorem record_overlaySection {name : String} {read : Json.Fields → Checked α} {a : α}
    (section_ : String × Json.Fields) :
    record name read (overlaySection table section_).2 = .ok a ↔
      IsSection table section_.1 ∧
        record name read (.obj (section_.2.update (entries table section_.1))) = .ok a := by
  unfold overlaySection IsSection entries
  cases table.get? section_.1 with
  | none =>
    show read section_.2 = .ok a ↔ _
    constructor
    · exact fun h => ⟨fun j hj => (nomatch hj), h⟩
    · exact fun h => h.2
  | some j =>
    cases j with
    | obj fields =>
      show read (section_.2.update fields) = .ok a ↔ _
      constructor
      · exact fun h => ⟨fun j hj => ⟨fields, (Option.some.inj hj).symm⟩, h⟩
      · exact fun h => h.2
    | null | bool | int | float | str | arr =>
      refine ⟨fun h => (nomatch h), fun h => ?_⟩
      obtain ⟨fields, hfields⟩ := h.1 _ rfl
      cases hfields

theorem distinct_entries (h : Toml.TidyTable table) (section_ : String) :
    ((entries table section_).map (·.1)).Nodup := by
  unfold entries
  split
  · next fields hfields =>
    cases h.get? hfields with
    | obj distinct tidy => exact distinct
  · exact List.nodup_nil

theorem required_overlay {read : Reader α} {a : α} {section_ : String × Json.Fields}
    (hsection : Json.Fields.get? (defaultSections.map (overlaySection table)) section_.1 =
      some (overlaySection table section_).2) :
    required (defaultSections.map (overlaySection table)) section_.1 read = .ok a ↔
      read (overlaySection table section_).2 = .ok a := by
  rw [required_eq_ok_iff, hsection]
  constructor
  · rintro ⟨j, ⟨⟩, hj⟩
    exact hj
  · exact fun h => ⟨_, rfl, h⟩

/-- A document over the defaults is read as the settings that it gives, and as no others. -/
theorem read_overlay_eq_ok_iff (h : Toml.TidyTable table) {s : Settings} :
    read (overlay table) = .ok s ↔ Overlays table s := by
  have htool {t : ToolSettings} :=
    (record_overlaySection ("toolchain", defaultsOf "toolchain")).trans
      (and_congr_right fun _ => tool_read_eq_ok_iff (distinct_entries h "toolchain") (t := t))
  have hloop {l : LoopSettings} :=
    (record_overlaySection ("loop", defaultsOf "loop")).trans
      (and_congr_right fun _ => loop_read_eq_ok_iff (distinct_entries h "loop") (l := l))
  have hgeneration {g : GenerationSettings} :=
    (record_overlaySection ("generation", defaultsOf "generation")).trans
      (and_congr_right fun _ => generation_read_eq_ok_iff (distinct_entries h "generation") (g := g))
  unfold read overlay record
  simp only [seq_eq_ok_iff, map_eq_ok_iff]
  constructor
  · rintro ⟨_, _, ⟨_, _, ⟨_, ht, rfl⟩, hl, rfl⟩, hg, rfl⟩
    obtain ⟨htable, ht⟩ := htool.1 ((required_overlay rfl).1 ht)
    obtain ⟨hltable, hl⟩ := hloop.1 ((required_overlay rfl).1 hl)
    obtain ⟨hgtable, hg⟩ := hgeneration.1 ((required_overlay rfl).1 hg)
    refine ⟨?_, ht, hl, hg⟩
    simp only [defaultSections, List.forall_mem_cons]
    exact ⟨htable, hltable, hgtable, List.forall_mem_nil _⟩
  · intro h
    obtain ⟨htable, hltable, hgtable, -⟩ := by
      simpa only [defaultSections, List.forall_mem_cons] using h.isSection
    exact ⟨_, _, ⟨_, _,
      ⟨s.tool, (required_overlay rfl).2 (htool.2 ⟨htable, h.tool⟩), rfl⟩,
      (required_overlay rfl).2 (hloop.2 ⟨hltable, h.loop⟩), rfl⟩,
      (required_overlay rfl).2 (hgeneration.2 ⟨hgtable, h.generation⟩), rfl⟩

end Sections

/-! ## Loading -/

/-- The bytes of a settings file give these settings: they are a text, the text is a document, and the
sections of the document lie over the defaults. -/
def Gives (content : ByteArray) (settings : Settings) : Prop :=
  ∃ text table, Action.decode content = .ok text ∧ Toml.parse text = .ok table ∧ Overlays table settings

/-- The bytes of a settings file are a text that is refused for the digits of an integer. -/
def Overlong (content : ByteArray) (count : Nat) : Prop :=
  ∃ text, Action.decode content = .ok text ∧ Toml.parse text = .error (.tooManyDigits count)

/-- What a settings file is read as. -/
def ofBytes (content : ByteArray) : Except Failure Settings :=
  (Action.decode content).bind ofDocument

theorem ofBytes_of_gives {content : ByteArray} {settings : Settings} (h : Gives content settings) :
    ofBytes content = .ok settings := by
  obtain ⟨text, table, hdecode, hparse, hoverlays⟩ := h
  have hread := (read_overlay_eq_ok_iff (Toml.tidy_of_parse hparse)).2 hoverlays
  simp only [ofBytes, hdecode, Except.bind, ofDocument, hparse, ofJson, hread]

theorem ofBytes_of_overlong {content : ByteArray} {count : Nat} (h : Overlong content count) :
    ofBytes content = .error (.tooManyDigits count) := by
  obtain ⟨text, hdecode, hparse⟩ := h
  simp only [ofBytes, hdecode, Except.bind, ofDocument, hparse]

/-- Bytes give settings, are refused for their digits, or are ignored. -/
theorem ofBytes_cases (content : ByteArray) :
    (∃ settings, Gives content settings) ∨ (∃ count, Overlong content count) ∨
      ∃ cause, isIgnorable cause = true ∧ ofBytes content = .error cause := by
  cases hdecode : Action.decode content with
  | error cause =>
    have hcause : cause = .notText := by
      unfold Action.decode at hdecode
      split at hdecode
      · cases hdecode
      · exact (Except.error.inj hdecode).symm
    subst hcause
    exact .inr (.inr ⟨.notText, rfl, by rw [ofBytes, hdecode]; rfl⟩)
  | ok text =>
    cases hparse : Toml.parse text with
    | error e =>
      cases e with
      | malformed =>
        refine .inr (.inr ⟨.unreadableSettings, rfl, ?_⟩)
        simp only [ofBytes, hdecode, Except.bind, ofDocument, hparse]
      | tooManyDigits count => exact .inr (.inl ⟨count, text, hdecode, hparse⟩)
    | ok table =>
      cases hread : read (overlay table) with
      | ok settings =>
        have hoverlays := (read_overlay_eq_ok_iff (Toml.tidy_of_parse hparse)).1 hread
        exact .inl ⟨settings, text, table, hdecode, hparse, hoverlays⟩
      | failed issues =>
        refine .inr (.inr ⟨.invalid "ProjectConfig" issues, rfl, ?_⟩)
        simp only [ofBytes, hdecode, Except.bind, ofDocument, hparse, ofJson, hread]

theorem gives_iff {content : ByteArray} {settings : Settings} :
    Gives content settings ↔ ofBytes content = .ok settings := by
  refine ⟨ofBytes_of_gives, fun h => ?_⟩
  obtain ⟨found, hfound⟩ | ⟨count, hcount⟩ | ⟨cause, -, hcause⟩ := ofBytes_cases content
  · rw [ofBytes_of_gives hfound] at h
    cases h
    exact hfound
  · rw [ofBytes_of_overlong hcount] at h
    cases h
  · rw [hcause] at h
    cases h

instance (content : ByteArray) (settings : Settings) : Decidable (Gives content settings) :=
  decidable_of_iff ((ofBytes content).toOption = some settings) <| by
    rw [gives_iff]
    cases ofBytes content <;> simp [Except.toOption]

/-- A number that is chosen is not less than its bound, if the default is not. -/
theorem Chosen.le {least byDefault n : Nat} {given : Option Json}
    (h : Chosen (IsNatural least) given byDefault n) (hdefault : least ≤ byDefault) : least ≤ n := by
  cases given with
  | none => exact (show n = byDefault from h) ▸ hdefault
  | some j => exact And.right (show IsNatural least j n from h)

section Loading

variable {σ : Type} {root : Path} {s : Session σ} {content : ByteArray}

/-- Loading in a project with a settings file, step by step. -/
theorem attempt_read (hread : s.files.read s.workingDirectory (file root) = .ok content) :
    Action.attempt (do
        let text ← Action.readText (file root)
        Action.ofExcept (ofDocument text)) s =
      .ok (ofBytes content) (s.noting (.read (file root))) := by
  have htext : s.files.text s.workingDirectory (file root) = Action.decode content := by
    rw [FileTree.text, hread]
    rfl
  cases hdecode : Action.decode content with
  | error failure =>
    rw [hdecode] at htext
    rw [Action.attempt_of_error (Action.bind_of_error (Action.readText_of_error htext)), ofBytes, hdecode]
    rfl
  | ok text =>
    rw [hdecode] at htext
    have hbind : ofBytes content = ofDocument text := by rw [ofBytes, hdecode]; rfl
    rw [hbind]
    cases hdoc : ofDocument text with
    | error failure =>
      exact Action.attempt_of_error <|
        (Action.bind_of_ok (Action.readText_of_ok htext)).trans (Action.ofExcept_of_error hdoc _)
    | ok settings =>
      exact Action.attempt_of_ok <|
        (Action.bind_of_ok (Action.readText_of_ok htext)).trans (Action.ofExcept_of_ok hdoc _)

variable (hread : s.files.read s.workingDirectory (file root) = .ok content)
include hread

theorem load_eq : load root s =
    match ofBytes content with
    | .ok settings => .ok settings (s.noting (.read (file root)))
    | .error failure =>
      if isIgnorable failure then
        .ok default ((s.noting (.read (file root))).noting (.ignored (file root) failure))
      else .error failure (s.noting (.read (file root))) := by
  have hfile : Action.isFile (file root) s = .ok true s :=
    Action.isFile_of_ok (FileTree.isFile_of_read hread)
  refine (Action.bind_of_ok hfile).trans ((Action.bind_of_ok (attempt_read hread)).trans ?_)
  cases ofBytes content with
  | ok settings => rfl
  | error failure => cases h : isIgnorable failure <;> simp only [h] <;> rfl

theorem load_of_gives {settings : Settings} (h : Gives content settings) :
    load root s = .ok settings (s.noting (.read (file root))) := by
  rw [load_eq hread, ofBytes_of_gives h]

theorem load_of_overlong {count : Nat} (h : Overlong content count) :
    load root s = .error (.tooManyDigits count) (s.noting (.read (file root))) := by
  rw [load_eq hread, ofBytes_of_overlong h]
  rfl

theorem load_of_ignored {cause : Failure} (hcause : isIgnorable cause = true)
    (h : ofBytes content = .error cause) :
    load root s = .ok default
      ((s.noting (.read (file root))).noting (.ignored (file root) cause)) := by
  rw [load_eq hread, h]
  exact if_pos hcause

end Loading

/-- The numbers of settings are within their bounds. -/
structure InRange (s : Settings) : Prop where
  maxRetries : 1 ≤ s.loop.maxRetries
  timeoutSeconds : (0 : Int) ≤ s.tool.timeoutSeconds
  reportImports : (0 : Int) ≤ s.generation.reportImports

theorem inRange_default : InRange default :=
  ⟨by decide, by decide, by decide⟩

theorem Overlays.inRange {table : Json.Fields} {s : Settings} (h : Overlays table s) : InRange s :=
  ⟨h.loop.maxRetries.le (by decide), Int.natCast_nonneg _, Int.natCast_nonneg _⟩

/-- **Loading a settings file that can be read.** Where the file gives settings, these are loaded. Where it
is refused for the digits of an integer, loading fails, and the file has a row of more digits than are
converted. Every other file is ignored, and the defaults are loaded. What is loaded is within its
bounds. -/
theorem load_settings {σ : Type} (root : Path) (s : Session σ) {content : ByteArray}
    (hread : s.files.read s.workingDirectory (file root) = .ok content) :
    let opened := s.noting (.read (file root))
    (∀ settings, Gives content settings → load root s = .ok settings opened) ∧
    (∀ count, Overlong content count → load root s = .error (.tooManyDigits count) opened ∧
      ∃ text, Action.decode content = .ok text ∧ Toml.HasLongRow text.toList) ∧
    ((∀ settings, ¬ Gives content settings) → (∀ count, ¬ Overlong content count) →
      ∃ cause, isIgnorable cause = true ∧
        load root s = .ok default (opened.noting (.ignored (file root) cause))) ∧
    ∀ settings t, load root s = .ok settings t → InRange settings := by
  refine ⟨fun settings h => load_of_gives hread h, fun count h => ⟨load_of_overlong hread h, ?_⟩,
    fun hnone hfits => ?_, fun settings t h => ?_⟩
  · obtain ⟨text, hdecode, hparse⟩ := h
    exact ⟨text, hdecode, Toml.hasLongRow_of_parse hparse⟩
  · obtain ⟨settings, h⟩ | ⟨count, h⟩ | ⟨cause, hcause, h⟩ := ofBytes_cases content
    · exact absurd h (hnone settings)
    · exact absurd h (hfits count)
    · exact ⟨cause, hcause, load_of_ignored hread hcause h⟩
  · obtain ⟨found, hfound⟩ | ⟨count, hcount⟩ | ⟨cause, hcause, hignored⟩ := ofBytes_cases content
    · rw [load_of_gives hread hfound] at h
      cases h
      obtain ⟨text, table, -, -, hoverlays⟩ := hfound
      exact hoverlays.inRange
    · rw [load_of_overlong hread hcount] at h
      cases h
    · rw [load_of_ignored hread hcause hignored] at h
      cases h
      exact inRange_default

/-- A session whose working directory has a settings file. -/
def sessionOf (content : ByteArray) : Session Unit where
  files := ⟨[([".testloop"], .directory), ([".testloop", "testloop.toml"], .file content)]⟩
  tool := ()

theorem read_sessionOf (content : ByteArray) :
    (sessionOf content).files.read (sessionOf content).workingDirectory (file {}) = .ok content := rfl

/-- A settings file changes the key that it gives, and what is unknown in it does not count. -/
theorem retries_loaded : ∃ t,
    load {} (sessionOf "unknown = 1979-05-27\n[loop]\nmax_retries = 5\nother = []\n".toUTF8) =
      .ok { default with loop := { maxRetries := 5 } } t :=
  ⟨_, (load_settings {} _ (read_sessionOf _)).1 _ (by decide +kernel)⟩

/-- A document of one key, which is unknown, with an integer. -/
def integerDocument (n : Nat) : String := Toml.keyText "n" ++ " = " ++ String.ofList (Json.intText n)

theorem decode_integerDocument (n : Nat) :
    Action.decode (integerDocument n).toUTF8 = .ok (integerDocument n) := by
  have hreturn : '\r' ∉ (integerDocument n).toList := by
    rw [integerDocument, String.toList_append, String.toList_append, List.mem_append]
    rintro (hkey | hdigit)
    · exact absurd hkey (by decide)
    · rw [String.toList_ofList, Json.intText_ofNat] at hdigit
      cases Json.isDigit_toDigits n _ hdigit
  rw [Action.decode_encode, Text.unifyNewlines_of_not_mem hreturn, String.ofList_toList]

/-- Nothing is loaded where the integer is too long, neither the settings nor the defaults. -/
theorem load_integerDocument {n : Nat} (h : Numeral.maxDigits < (Nat.toDigits 10 n).length) :
    ∃ t, load {} (sessionOf (integerDocument n).toUTF8) =
      .error (.tooManyDigits (Nat.toDigits 10 n).length) t := by
  have hparse := Toml.integerLine_refused (k := "n") rfl (i := n) h
  exact ⟨_, load_of_overlong (read_sessionOf _) ⟨_, decode_integerDocument n, hparse⟩⟩

/-- The least integer that is too long has one digit more than are converted. The settings file is there
and can be read (`read_sessionOf`), and still its project has no settings. -/
theorem overlongDocument_fails : ∃ t,
    load {} (sessionOf (integerDocument (Nat.pow 10 Numeral.maxDigits)).toUTF8) =
      .error (.tooManyDigits 4301) t := by
  have hdigits : (Nat.toDigits 10 (Nat.pow 10 Numeral.maxDigits)).length = 4301 := by decide +kernel
  have hlong : Numeral.maxDigits < (Nat.toDigits 10 (Nat.pow 10 Numeral.maxDigits)).length := by
    rw [hdigits]
    exact Nat.lt_succ_self 4300
  obtain ⟨t, ht⟩ := load_integerDocument hlong
  rw [hdigits] at ht
  exact ⟨t, ht⟩

end Testsmith.Settings
