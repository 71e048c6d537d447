import Testsmith.Operation.Service
import Testsmith.Proofs.Actions
import Testsmith.Proofs.SourcePatterns

/-!
# Imports of a source

The imports that are found in a source made of lines. The blanks around the keyword may hold line ends,
so an import is also read from a blank line above it. It is read once all the same: behind a match the
search is inside of a line, and no line start comes before the next line end. So the search goes line by
line, whether it reads an import or not (`allMatches_of_read`, `allMatches_of_not_read`).

A point is a character of a dotted name. Of an import of everything below a name, the name is therefore
read with the point in front of the star, and the imports that are found are those that are written if
and only if there is no such line (`imports_of_lines`).
-/

namespace Testsmith.Source

open Text Signature

/-! ## Written lines -/

/-- A dotted name: a word, and further ones with a point in front of each. -/
structure DottedName where
  first : Name
  further : List Name

def DottedName.text (n : DottedName) : List Char :=
  n.first.text ++ n.further.flatMap fun segment => '.' :: segment.text

/-- How an import goes on behind its name. -/
inductive ImportEnding where
  /-- The name alone, or with an alias, a semicolon or a comment behind it. -/
  | single (behind : List Char) (apart : ∀ c, behind.head? = some c → isDotted c = false)
  /-- Everything below the name. -/
  | wildcard (behind : List Char)

namespace ImportEnding

/-- What is read as a part of the name. -/
def covered : ImportEnding → List Char
  | single _ _ => []
  | wildcard _ => ['.']

/-- What follows the name that is read. -/
def left : ImportEnding → List Char
  | single behind _ => behind
  | wildcard behind => '*' :: behind

/-- The text behind the name. -/
def text (e : ImportEnding) : List Char := e.covered ++ e.left

def IsWildcard : ImportEnding → Prop
  | single _ _ => False
  | wildcard _ => True

theorem covered_eq_nil_iff (e : ImportEnding) : e.covered = [] ↔ ¬ e.IsWildcard := by
  cases e <;> simp [covered, IsWildcard]

end ImportEnding

/-- A line that imports something. -/
structure ImportLine where
  indent : Gap
  gap : Gap
  gap_ne : gap.text ≠ []
  name : DottedName
  ending : ImportEnding
  one_line : '\n' ∉ indent.text ++ (gap.text ++ ending.left)

namespace ImportLine

variable (l : ImportLine)

def text : List Char :=
  l.indent.text ++ ("import".toList ++ (l.gap.text ++ (l.name.text ++ l.ending.text)))

/-- The name that is read. -/
def read : List Char := l.name.text ++ l.ending.covered

end ImportLine

/-- A line of a source. -/
inductive SourceLine where
  | imports (l : ImportLine)
  /-- A line that does not start with the keyword of an import behind its blanks. -/
  | other (text : List Char) (one_line : '\n' ∉ text) (no_import : ¬ "import".toList <+: trimStart text)

namespace SourceLine

def text : SourceLine → List Char
  | imports l => l.text
  | other text _ _ => text

def import? : SourceLine → Option ImportLine
  | imports l => some l
  | other _ _ _ => none

end SourceLine

/-- A source of some lines. -/
def linesText (lines : List SourceLine) : List Char := List.intercalate ['\n'] (lines.map SourceLine.text)

/-- The import lines, in order. -/
def importsOf (lines : List SourceLine) : List ImportLine := lines.filterMap SourceLine.import?

/-! ## Dotted names -/

namespace DottedName

variable (n : DottedName)

theorem text_ne_nil : n.text ≠ [] :=
  List.append_ne_nil_of_left_ne_nil n.first.ne_nil _

theorem dotted : ∀ c ∈ n.text, isDotted c = true := by
  intro c hc
  rcases List.mem_append.1 hc with hfirst | hfurther
  · exact isDotted_of_isWord (n.first.word c hfirst)
  · obtain ⟨segment, -, hsegment⟩ := List.mem_flatMap.1 hfurther
    rcases List.mem_cons.1 hsegment with rfl | hword
    · decide
    · exact isDotted_of_isWord (segment.word c hword)

end DottedName

/-! ## Written imports -/

/-- What is read at a line start. -/
def readImport (text : List Char) : Option (List Char × List Char) :=
  named "import" isDotted (trimStart text)

theorem ImportEnding.dotted (e : ImportEnding) : ∀ c ∈ e.covered, isDotted c = true := by
  cases e with
  | single behind apart => nofun
  | wildcard behind =>
    intro c hc
    rw [List.mem_singleton.1 hc]
    decide

/-- What is left ends the name that is read. -/
theorem ImportEnding.isDotted_left (e : ImportEnding) (rest : List Char)
    (hrest : ∀ c, rest.head? = some c → isDotted c = false) :
    ∀ c, (e.left ++ rest).head? = some c → isDotted c = false := by
  intro c hc
  cases e with
  | single behind apart =>
    rw [left, List.head?_append, Option.or_eq_some_iff] at hc
    rcases hc with hbehind | ⟨-, hafter⟩
    · exact apart c hbehind
    · exact hrest c hafter
  | wildcard behind =>
    cases hc
    decide

namespace ImportLine

variable (l : ImportLine)

theorem read_ne_nil : l.read ≠ [] :=
  List.append_ne_nil_of_left_ne_nil l.name.text_ne_nil _

theorem read_dotted : ∀ c ∈ l.read, isDotted c = true := by
  intro c hc
  rcases List.mem_append.1 hc with hname | hcovered
  · exact l.name.dotted c hname
  · exact l.ending.dotted c hcovered

/-- An import is read where its line starts. -/
theorem readImport_text {rest : List Char} (hrest : ∀ c, rest.head? = some c → isDotted c = false) :
    readImport (l.text ++ rest) = some (l.read, l.ending.left ++ rest) := by
  have htext : l.text ++ rest = l.indent.text ++
      ("import".toList ++ (l.gap.text ++ (l.read ++ (l.ending.left ++ rest)))) := by
    simp [text, read, ImportEnding.text]
  have hhead : ∀ c, l.read.head? = some c → isBlank c = false := fun c hc =>
    isBlank_of_isDotted (l.read_dotted c (List.mem_of_mem_head? hc))
  have hkeyword : ∀ text, trimStart ("import".toList ++ text) = "import".toList ++ text := fun text =>
    trimStart_of_head (by rintro c ⟨⟩; decide)
  rw [readImport, htext, trimStart_append l.indent.blank, hkeyword]
  exact named_append l.gap.blank l.gap_ne l.read_dotted l.read_ne_nil hhead
    (l.ending.isDotted_left rest hrest)

end ImportLine

/-! ## Line by line -/

section Lines

variable {text x rest name : List Char}

/-- What is left of a text behind its first line. -/
def behindLine (text : List Char) : List Char := (cutAt '\n' text).2

theorem behindLine_append (hx : '\n' ∉ x) (hrest : ∀ c, rest.head? = some c → c = '\n') :
    behindLine (x ++ rest) = rest.tail := by
  cases rest with
  | nil => rw [List.append_nil, behindLine, cutAt_of_not_mem hx]; rfl
  | cons c rest => rw [hrest c rfl, behindLine, cutAt_append hx]; rfl

theorem behindLine_cons {c : Char} (h : c ≠ '\n') (text : List Char) :
    behindLine (c :: text) = behindLine text := by
  simp [behindLine, cutAt, h]

/-- At a line start. -/
theorem matchesFrom_importLine_newline (text : List Char) :
    matchesFrom importLine (some '\n') 0 text = allMatches importLine text := by
  cases text <;> rfl

/-- Inside of a line nothing is imported up to its end. -/
theorem matchesFrom_importLine_of_ne {c : Char} (h : c ≠ '\n') (text : List Char) :
    matchesFrom importLine (some c) 0 text = allMatches importLine (behindLine text) := by
  induction text generalizing c with
  | nil => rfl
  | cons d text ih =>
    have hplace : importLine (some c) (d :: text) = none := by simp [importLine, h]
    rw [matchesFrom_cons_of_none hplace]
    by_cases hd : d = '\n'
    · subst hd
      exact matchesFrom_importLine_newline text
    · rw [behindLine_cons hd, ih hd]

/-- Where an import is read, the search goes on in the next line behind it. -/
theorem allMatches_of_read (h : readImport text = some (name, rest)) :
    allMatches importLine text = name :: allMatches importLine (behindLine rest) := by
  obtain ⟨indent, htext, -⟩ := exists_trimStart text
  obtain ⟨gap, htrim, -⟩ := exists_gap_of_named h
  obtain ⟨hne, hdotted⟩ := forall_of_named h
  obtain ⟨last, hlast⟩ := Option.ne_none_iff_exists'.1 (mt List.getLast?_eq_none_iff.1 hne)
  let front := (indent ++ ("import".toList ++ gap)) ++ name
  have hfront : text = front ++ rest := by
    rw [htext, htrim]
    simp [front]
  have hplace : importLine none (front ++ rest) = some (name, front.length) :=
    ofReader_append (hfront ▸ h : readImport (front ++ rest) = some (name, rest)) none
  have hfrontlast : front.getLast? = some last := by
    rw [List.getLast?_append, hlast]
    rfl
  -- The match ends inside of a line, as its last character is one of the name.
  have hnewline : last ≠ '\n' := by
    rintro rfl
    exact absurd (hdotted _ (List.mem_of_getLast? hlast)) (by decide)
  rw [hfront, allMatches, matchesFrom_append_of_some (List.append_ne_nil_of_right_ne_nil _ hne) hplace,
    hfrontlast]
  exact congrArg (name :: ·) (matchesFrom_importLine_of_ne hnewline rest)

/-- Where none is read, the search goes on in the next line. -/
theorem allMatches_of_not_read (h : readImport text = none) :
    allMatches importLine text = allMatches importLine (behindLine text) := by
  cases text with
  | nil => rfl
  | cons c text =>
    have hplace : importLine none (c :: text) = none := by
      show (readImport (c :: text)).map _ = none
      rw [h]
      rfl
    rw [allMatches, matchesFrom_cons_of_none hplace]
    by_cases hc : c = '\n'
    · subst hc
      exact matchesFrom_importLine_newline text
    · rw [behindLine_cons hc, matchesFrom_importLine_of_ne hc]

/-- A blank line changes nothing, be the next import read from it or from a line below. -/
theorem allMatches_blank (hx : ∀ c ∈ x, isBlank c = true) (hline : '\n' ∉ x)
    (hrest : ∀ c, rest.head? = some c → c = '\n') :
    allMatches importLine (x ++ rest) = allMatches importLine rest.tail := by
  have htrim : readImport (x ++ rest) = readImport rest.tail := by
    rw [readImport, trimStart_append hx, readImport]
    cases rest with
    | nil => rfl
    | cons c rest =>
      rw [hrest c rfl]
      rfl
  cases hread : readImport rest.tail with
  | some found => rw [allMatches_of_read (htrim.trans hread), allMatches_of_read hread]
  | none => rw [allMatches_of_not_read (htrim.trans hread), behindLine_append hline hrest]

/-- Any other line without the keyword at its start is passed over. -/
theorem allMatches_other (himport : ¬ "import".toList <+: trimStart x) (hline : '\n' ∉ x)
    (hrest : ∀ c, rest.head? = some c → c = '\n') :
    allMatches importLine (x ++ rest) = allMatches importLine rest.tail := by
  obtain ⟨gap, hgap, hblank⟩ := exists_trimStart x
  cases htrim : trimStart x with
  | nil =>
    have hx : ∀ c ∈ x, isBlank c = true := by
      rwa [hgap, htrim, List.append_nil]
    exact allMatches_blank hx hline hrest
  | cons c y =>
    have hc : isBlank c = false := head?_trimStart x c (by rw [htrim]; rfl)
    have htext : trimStart (x ++ rest) = (c :: y) ++ rest := by
      rw [hgap, htrim, List.append_assoc, trimStart_append hblank,
        trimStart_of_head (by rintro d ⟨⟩; exact hc)]
    have hstop : ∀ d, rest.head? = some d → d ∉ "import".toList := by
      intro d hd
      rw [hrest d hd]
      decide
    have hread : readImport (x ++ rest) = none := by
      rw [readImport, htext]
      apply named_eq_none
      rintro ⟨blank, behind, -, hkeyword⟩
      apply himport
      rw [htrim]
      refine prefix_of_prefix_append ?_ hstop
      rw [hkeyword]
      exact List.prefix_append _ _
    rw [allMatches_of_not_read hread, behindLine_append hline hrest]

end Lines

/-- One line gives the name that is read of it, where it has one, and the search goes on in the next. -/
theorem SourceLine.allMatches_append (line : SourceLine) {rest : List Char}
    (hrest : ∀ c, rest.head? = some c → c = '\n') :
    allMatches importLine (line.text ++ rest) =
      (line.import?.map ImportLine.read).toList ++ allMatches importLine rest.tail := by
  cases line with
  | imports l =>
    have hstop : ∀ c, rest.head? = some c → isDotted c = false := by
      intro c hc
      rw [hrest c hc]
      decide
    have hline : '\n' ∉ l.ending.left := fun h => l.one_line (by simp [h])
    rw [SourceLine.text, allMatches_of_read (l.readImport_text hstop), behindLine_append hline hrest]
    rfl
  | other text hline himport => exact allMatches_other himport hline hrest

/-- The names that are read of a source are those that are read of its import lines. -/
theorem allMatches_linesText (lines : List SourceLine) :
    allMatches importLine (linesText lines) = (importsOf lines).map ImportLine.read := by
  induction lines with
  | nil => rfl
  | cons line lines ih =>
    have hfirst : (importsOf (line :: lines)).map ImportLine.read =
        (line.import?.map ImportLine.read).toList ++ (importsOf lines).map ImportLine.read := by
      cases line <;> rfl
    rw [hfirst, ← ih]
    cases lines with
    | nil =>
      have htext : linesText [line] = line.text ++ [] := by
        rw [List.append_nil]
        exact List.intercalate_singleton
      rw [htext]
      exact line.allMatches_append nofun
    | cons next lines =>
      have htext : linesText (line :: next :: lines) = line.text ++ '\n' :: linesText (next :: lines) := by
        simp [linesText, List.intercalate_cons_cons]
      rw [htext]
      exact line.allMatches_append (by rintro c ⟨⟩; rfl)

/-! ## Imports -/

namespace ImportLine

variable (l : ImportLine)

/-- What is reported of an import line. -/
def reported : String := String.ofList l.read

/-- What is imported by an import line. -/
def imported : String := String.ofList l.name.text

theorem reported_eq_imported_iff : l.reported = l.imported ↔ ¬ l.ending.IsWildcard := by
  rw [reported, imported, String.ofList_inj, read, List.append_right_eq_self,
    ImportEnding.covered_eq_nil_iff]

end ImportLine

theorem imports_linesText (lines : List SourceLine) :
    (descriptor (String.ofList (linesText lines))).imports = (importsOf lines).map ImportLine.reported := by
  rw [descriptor, String.toList_ofList, imports, allMatches_linesText, List.map_map]
  rfl

/-! ## Analyses -/

section Analysis

variable {σ : Type} {svc : Service σ} {r : AnalyzeRequest} {settings : Settings} {s t : Session σ}
  {source : String}

/-- A source is described where there is no symbol data. -/
theorem describe_of_text (settings : Settings) (hsymbols : r.symbols = none)
    (htext : t.files.text t.workingDirectory (r.root / r.servicePath) = .ok source) :
    Service.describe r.root r.servicePath r.symbols settings t =
      .ok (descriptor source, .regex) (t.noting (.read (r.root / r.servicePath))) := by
  unfold Service.describe
  rw [hsymbols]
  dsimp only
  rw [Action.bind_of_ok (Action.readText_of_ok htext)]
  rfl

theorem analyze_of_text (hsymbols : r.symbols = none)
    (hsettings : svc.settingsFor r.root s = .ok settings t)
    (htext : t.files.text t.workingDirectory (r.root / r.servicePath) = .ok source) :
    ∃ reply u, svc.analyze r s = .ok reply u ∧ reply.envelope.success = true ∧
      reply.envelope.analysis = some ((descriptor source).summary settings.generation.reportImports) := by
  have hdescribe := describe_of_text settings hsymbols htext
  unfold Service.analyze
  rw [Action.bind_of_ok (Action.attempt_of_ok (a := (settings, descriptor source, .regex))
    (t := t.noting (.read (r.root / r.servicePath))) ?_)]
  · exact ⟨_, _, rfl, rfl, rfl⟩
  · rw [Action.bind_of_ok hsettings, Action.bind_of_ok hdescribe]
    rfl

end Analysis

/-- **The imports of a source made of lines** are read of its import lines, one of each, in order. They are
what the lines import if and only if no line imports everything below a name: of such a line the name is
read with a point behind it. An analysis of the source shows the first ones, as many as the settings say. -/
theorem imports_of_lines (lines : List SourceLine) :
    (descriptor (String.ofList (linesText lines))).imports =
      (importsOf lines).map ImportLine.reported ∧
    ((descriptor (String.ofList (linesText lines))).imports = (importsOf lines).map ImportLine.imported ↔
      ∀ l ∈ importsOf lines, ¬ l.ending.IsWildcard) ∧
    ∀ {σ : Type} (svc : Service σ) (r : AnalyzeRequest) (settings : Settings) (s t : Session σ),
      r.symbols = none → svc.settingsFor r.root s = .ok settings t →
      t.files.text t.workingDirectory (r.root / r.servicePath) = .ok (String.ofList (linesText lines)) →
      ∃ reply u fields, svc.analyze r s = .ok reply u ∧ reply.envelope.success = true ∧
        reply.envelope.analysis = some (.obj fields) ∧
        Json.Fields.get? fields "imports" = some (Json.ofTexts
          (((importsOf lines).map ImportLine.reported).take settings.generation.reportImports)) := by
  have himports := imports_linesText lines
  refine ⟨himports, ?_, ?_⟩
  · rw [himports, List.map_inj_left]
    simp only [ImportLine.reported_eq_imported_iff]
  · intro σ svc r settings s t hsymbols hsettings htext
    obtain ⟨reply, u, hreply, hsuccess, hanalysis⟩ := analyze_of_text hsymbols hsettings htext
    refine ⟨reply, u, _, hreply, hsuccess, hanalysis, ?_⟩
    rw [← himports]
    rfl

theorem apart_nil (c : Char) (h : ([] : List Char).head? = some c) : isDotted c = false := by
  cases h

theorem single_one_line : '\n' ∉ Gap.empty.text ++ (Gap.space.text ++ []) := by
  decide

/-- A line that imports one name. -/
def singleLine : ImportLine where
  indent := .empty
  gap := .space
  gap_ne := Gap.space_ne
  name := ⟨⟨['s', 'h', 'o', 'p'], by decide, by decide⟩,
    [⟨['O', 'r', 'd', 'e', 'r'], by decide, by decide⟩]⟩
  ending := .single [] apart_nil
  one_line := single_one_line

/-- Settings that show one import of a source. -/
def oneShown : Settings :=
  { Settings.default with generation := { Settings.default.generation with reportImports := 1 } }

/-- A service with these settings. -/
def showingOne : Service Unit where
  settings := some oneShown
  toolFor _ _ := { call := fun _ state files => (.ok { success := true }, state, files) }

/-- A project of one source. -/
def sessionOf (lines : List SourceLine) : Session Unit where
  files := ⟨[(["A.kt"], .file (String.ofList (linesText lines)).toUTF8)]⟩
  tool := ()

/-- Of a source with two imports an analysis shows the first one, where the settings ask for one. -/
theorem twoImports_analyzed :
    let lines := [SourceLine.imports singleLine, .imports singleLine]
    let s := sessionOf lines
    s.files.text s.workingDirectory (({} : Path) / "A.kt") = .ok (String.ofList (linesText lines)) ∧
    ∃ reply u fields, showingOne.analyze { root := {}, servicePath := "A.kt" } s = .ok reply u ∧
      reply.envelope.success = true ∧ reply.envelope.analysis = some (.obj fields) ∧
      Json.Fields.get? fields "imports" = some (Json.ofTexts ["shop.Order"]) := by
  intro lines s
  have htext : s.files.text s.workingDirectory (({} : Path) / "A.kt") =
      .ok (String.ofList (linesText lines)) := by decide +kernel
  exact ⟨htext, (imports_of_lines lines).2.2 showingOne { root := {}, servicePath := "A.kt" } oneShown
    s s rfl rfl htext⟩

/-- Two imports of one name, below a package and with blank lines around them. -/
example : (descriptor "package a\n\n  import a.b\n\nimport a.b as c\n").imports = ["a.b", "a.b"] := by
  decide +kernel

/-! ## An import of everything below a name -/

theorem wildcard_one_line :
    '\n' ∉ Gap.empty.text ++ (Gap.space.text ++ (ImportEnding.wildcard []).left) := by
  decide

def wildcardLine : ImportLine where
  indent := .empty
  gap := .space
  gap_ne := Gap.space_ne
  name := ⟨⟨['i', 'o'], by decide, by decide⟩, [⟨['m', 'o', 'c', 'k', 'k'], by decide, by decide⟩]⟩
  ending := .wildcard []
  one_line := wildcard_one_line

/-- The name is read with the point in front of the star. -/
theorem wildcardLine_misread :
    String.ofList (linesText [.imports wildcardLine]) = "import io.mockk.*" ∧
    wildcardLine.imported = "io.mockk" ∧
    (descriptor (String.ofList (linesText [.imports wildcardLine]))).imports = ["io.mockk."] :=
  ⟨rfl, rfl, imports_linesText [.imports wildcardLine]⟩

end Testsmith.Source
