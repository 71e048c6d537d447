import Testsmith.Proofs.Regeneration

/-!
# Standards and files that change

Between the moments when standards are asked for, their files may change in any way. What a request does to
a session is said once, for single documents and for loading both (`Standards.Consulted`): it keeps what is
kept, keeps only what it finds, and opens a file only for a document that it keeps from then on. From this
it follows, along any history, that a kept document stays, that it was found at a moment of the history,
and that its file was opened once at most.

Loading asks for the second document only if the first one has a content. So it fixes the first document
and what loading comes to, but not always the second one: where the first one is empty and the second one
was not asked for before, it is found later, as its file is then. `loading_freezes` is the main statement.
-/

namespace Testsmith

variable {σ : Type}

open Testsmith.Action

/-! ## Files that are opened -/

/-- A file was opened for reading. A path with a null character is refused before. -/
def Event.opens (file : Path) : Event → Bool
  | .read path => path = file && !FileTree.hasNull path
  | _ => false

/-- How often a file was opened for reading. -/
def Session.openings (s : Session σ) (file : Path) : Nat := s.journal.countP (·.opens file)

theorem Session.openings_noting (s : Session σ) (e : Event) (file : Path) :
    (s.noting e).openings file = s.openings file + if e.opens file then 1 else 0 := by
  simp [openings, List.countP_append, List.countP_cons]

namespace FileTree

variable {t : FileTree} {cwd : Location} {p : Path} {failure : Failure}

theorem read_eq_error (h : t.read cwd p = .error failure) :
    hasNull p = true ∧ failure = .nullInPath ∨
      hasNull p = false ∧ ∃ trouble, failure = .system trouble p.text := by
  unfold read refuse at h
  split at h
  · next hnull => exact .inl ⟨hnull, (Except.error.inj h).symm⟩
  · next hnull =>
    refine .inr ⟨Bool.not_eq_true _ ▸ hnull, ?_⟩
    split at h
    · cases h
    · exact ⟨_, (Except.error.inj h).symm⟩
    · exact ⟨_, (Except.error.inj h).symm⟩
    · exact ⟨_, (Except.error.inj h).symm⟩

theorem text_eq_error (h : t.text cwd p = .error failure) :
    failure = .notText ∨ hasNull p = true ∧ failure = .nullInPath ∨
      hasNull p = false ∧ ∃ trouble, failure = .system trouble p.text := by
  unfold text at h
  cases hread : t.read cwd p with
  | error other =>
    rw [hread] at h
    obtain rfl := Except.error.inj h
    exact .inr (read_eq_error hread)
  | ok content =>
    rw [hread] at h
    have hdecode : Action.decode content = .error failure := h
    unfold Action.decode at hdecode
    split at hdecode
    · cases hdecode
    · exact .inl (Except.error.inj hdecode).symm

end FileTree

namespace Standards

/-! ## Looking for a document -/

/-- The path of a document on a shelf, where it has one. -/
def Shelf.file? (d : Document) : Shelf → Option Path
  | .builtIn => none
  | .directory path => some (path / d.fileName)

/-- There is a null character in the path of a shelf. -/
def Shelf.hasNull : Shelf → Bool
  | .builtIn => false
  | .directory path => FileTree.hasNull path

/-- What is found of a document: the text of its file, or the empty text where the system has no such
file. -/
def Shelf.found (shelf : Shelf) (d : Document) (t : FileTree) (cwd : Location) :
    Except Failure String :=
  match shelf.file? d with
  | none => .ok d.builtIn
  | some file =>
    match t.text cwd file with
    | .error (.system _ _) => .ok ""
    | found => found

/-- The session after a look for a document. -/
def Shelf.looked (shelf : Shelf) (d : Document) (s : Session σ) : Session σ :=
  match shelf.file? d with
  | none => s
  | some file => s.noting (.read file)

/-- How often the file of a document was opened. -/
def Shelf.openings (shelf : Shelf) (d : Document) (s : Session σ) : Nat :=
  match shelf.file? d with
  | none => 0
  | some file => s.openings file

/-- The files of the documents are texts, as far as they can be read. -/
def Shelf.Legible (shelf : Shelf) (t : FileTree) (cwd : Location) : Prop :=
  ∀ d file, shelf.file? d = some file → t.text cwd file ≠ .error .notText

variable {shelf : Shelf} {d e : Document} {s t u : Session σ} {text other : String}
  {failure : Failure} {loaded : Bool}

theorem fetch_eq (shelf : Shelf) (d : Document) (s : Session σ) :
    fetch shelf d s = match shelf.found d s.files s.workingDirectory with
      | .ok text => .ok text (shelf.looked d s)
      | .error failure => .error failure (shelf.looked d s) := by
  cases shelf with
  | builtIn => rfl
  | directory path =>
    unfold Shelf.found Shelf.looked Shelf.file?
    dsimp only
    cases htext : s.files.text s.workingDirectory (path / d.fileName) with
    | ok text => exact bind_of_ok (attempt_of_ok (readText_of_ok htext))
    | error failure =>
      refine (bind_of_ok (attempt_of_error (readText_of_error htext))).trans ?_
      cases failure <;> rfl

/-- A document that is found is kept. -/
theorem document_of_found (hmissing : s.standards.get? d = none)
    (h : shelf.found d s.files s.workingDirectory = .ok text) : document shelf d s =
      .ok text { shelf.looked d s with standards := (shelf.looked d s).standards.put d text } := by
  have hfetch := fetch_eq shelf d s
  rw [h] at hfetch
  rw [document_of_uncached hmissing, bind_of_ok hfetch]
  rfl

theorem document_of_not_found (hmissing : s.standards.get? d = none)
    (h : shelf.found d s.files s.workingDirectory = .error failure) :
    document shelf d s = .error failure (shelf.looked d s) := by
  have hfetch := fetch_eq shelf d s
  rw [h] at hfetch
  rw [document_of_uncached hmissing, bind_of_error hfetch]

/-- A document that is not kept is what is found of it. -/
theorem document_outcome_of_missing (h : s.standards.get? d = none) :
    (document shelf d).outcome s = shelf.found d s.files s.workingDirectory := by
  cases hfound : shelf.found d s.files s.workingDirectory with
  | ok text => exact outcome_of_ok (document_of_found h hfound)
  | error failure => exact outcome_of_error (document_of_not_found h hfound)

@[simp] theorem Shelf.looked_files (shelf : Shelf) (d : Document) (s : Session σ) :
    (shelf.looked d s).files = s.files := by
  unfold looked
  split <;> rfl

@[simp] theorem Shelf.looked_workingDirectory (shelf : Shelf) (d : Document) (s : Session σ) :
    (shelf.looked d s).workingDirectory = s.workingDirectory := by
  unfold looked
  split <;> rfl

@[simp] theorem Shelf.looked_standards (shelf : Shelf) (d : Document) (s : Session σ) :
    (shelf.looked d s).standards = s.standards := by
  unfold looked
  split <;> rfl

theorem Document.ofText_fileName (d : Document) : Path.ofText d.fileName = ⟨.relative, [d.fileName]⟩ := by
  cases d <;> decide

theorem Shelf.file?_eq_some {file : Path} (h : shelf.file? d = some file) :
    ∃ path, shelf = .directory path ∧ file = ⟨path.anchor, path.parts ++ [d.fileName]⟩ := by
  cases shelf with
  | builtIn => cases h
  | directory path =>
    refine ⟨path, rfl, ?_⟩
    rw [← Option.some.inj h]
    show path.join (Path.ofText d.fileName) = _
    rw [d.ofText_fileName]
    rfl

/-- Each document has a file of its own. -/
theorem Shelf.file?_inj {file : Path} (h : shelf.file? d = some file) (h' : shelf.file? e = some file) :
    d = e := by
  obtain ⟨path, rfl, rfl⟩ := file?_eq_some h
  obtain ⟨_, ⟨⟩, hfile⟩ := file?_eq_some h'
  have hname : d.fileName = e.fileName := by simpa using hfile
  revert hname
  cases d <;> cases e <;> decide

theorem Shelf.hasNull_file {file : Path} (h : shelf.file? d = some file) :
    FileTree.hasNull file = shelf.hasNull := by
  obtain ⟨path, rfl, rfl⟩ := file?_eq_some h
  have hname : d.fileName.toList.contains '\x00' = false := by
    cases d <;> decide
  rw [hasNull, FileTree.hasNull, FileTree.hasNull, List.any_append, List.any_cons, hname]
  simp

/-- Among texts something is found of a document, unless the shelf has a null character in its path. -/
theorem Shelf.exists_found_iff {t : FileTree} {cwd : Location} (h : shelf.Legible t cwd)
    (d : Document) : (∃ text, shelf.found d t cwd = .ok text) ↔ shelf.hasNull = false := by
  unfold found
  cases hd : shelf.file? d with
  | none =>
    cases shelf with
    | builtIn => exact iff_of_true ⟨_, rfl⟩ rfl
    | directory path => cases hd
  | some file =>
    rw [← hasNull_file hd]
    dsimp only
    cases htext : t.text cwd file with
    | ok text =>
      obtain ⟨content, hread, -⟩ := FileTree.text_eq_ok_iff.1 htext
      exact iff_of_true ⟨_, rfl⟩ (FileTree.read_eq_ok_iff.1 hread).1
    | error failure =>
      rcases FileTree.text_eq_error htext with rfl | ⟨hnull, rfl⟩ | ⟨hnull, trouble, rfl⟩
      · exact absurd htext (h d file hd)
      · exact iff_of_false (by simp) (by simp [hnull])
      · exact iff_of_true ⟨_, rfl⟩ hnull

/-- A look opens the file of the document, if at all. -/
theorem Shelf.openings_looked_le (shelf : Shelf) (d e : Document) (s : Session σ) :
    shelf.openings e (shelf.looked d s) ≤ shelf.openings e s + if e = d then 1 else 0 := by
  unfold openings looked
  cases he : shelf.file? e with
  | none => exact Nat.zero_le _
  | some file =>
    cases hd : shelf.file? d with
    | none => exact Nat.le_add_right _ _
    | some file' =>
      dsimp only
      rw [Session.openings_noting]
      by_cases hed : e = d
      · rw [if_pos hed]
        split <;> omega
      · have hne : file' ≠ file := by
          rintro rfl
          exact hed (file?_inj he hd)
        simp [Event.opens, hne]

/-- With a null character in its path no file is opened. -/
theorem Shelf.openings_looked_of_hasNull (h : shelf.hasNull = true) (d e : Document)
    (s : Session σ) : shelf.openings e (shelf.looked d s) = shelf.openings e s := by
  unfold openings looked
  cases shelf.file? e with
  | none => rfl
  | some file =>
    cases hd : shelf.file? d with
    | none => rfl
    | some file' =>
      dsimp only
      rw [Session.openings_noting]
      simp [Event.opens, hasNull_file hd, h]

/-! ## What a request does -/

/-- Whether a document is kept, as a number. -/
def Cache.count (c : Cache) (d : Document) : Nat := if (c.get? d).isSome then 1 else 0

/-- What a request for standards can do to a session. What was kept stays, what is kept was kept or is
found, and for every file that was opened a document is kept that was not kept before. -/
structure Consulted (shelf : Shelf) (s t : Session σ) : Prop where
  files_eq : t.files = s.files
  workingDirectory_eq : t.workingDirectory = s.workingDirectory
  keeps : ∀ d text, s.standards.get? d = some text → t.standards.get? d = some text
  finds : ∀ d text, t.standards.get? d = some text →
    s.standards.get? d = some text ∨
      s.standards.get? d = none ∧ shelf.found d s.files s.workingDirectory = .ok text
  opens : shelf.Legible s.files s.workingDirectory → ∀ d,
    shelf.openings d t + s.standards.count d ≤ shelf.openings d s + t.standards.count d

instance isPreorder_consulted : IsPreorder (Session σ) (Consulted shelf) where
  refl _ := ⟨rfl, rfl, fun _ _ h => h, fun _ _ h => .inl h, fun _ _ => Nat.le_refl _⟩
  trans s t u h h' := by
    refine ⟨h'.files_eq.trans h.files_eq, h'.workingDirectory_eq.trans h.workingDirectory_eq,
      fun d text hs => h'.keeps d text (h.keeps d text hs), fun d text hu => ?_, fun hlegible d => ?_⟩
    · rcases h'.finds d text hu with ht | ⟨hnone, hfound⟩
      · exact h.finds d text ht
      · rw [h.files_eq, h.workingDirectory_eq] at hfound
        refine .inr ⟨?_, hfound⟩
        cases hs : s.standards.get? d with
        | none => rfl
        | some old => rw [h.keeps d old hs] at hnone; cases hnone
    · have hfirst := h.opens hlegible d
      rw [← h.files_eq, ← h.workingDirectory_eq] at hlegible
      have hsecond := h'.opens hlegible d
      omega

theorem document_consults (shelf : Shelf) (d : Document) :
    (document shelf d : Action σ String).Leads (Consulted shelf) := by
  intro s
  cases hcached : s.standards.get? d with
  | some text =>
    rw [leaves_of_ok (document_of_cached hcached)]
    exact refl s
  | none =>
    cases hfound : shelf.found d s.files s.workingDirectory with
    | error failure =>
      rw [leaves_of_error (document_of_not_found hcached hfound)]
      refine ⟨by simp, by simp, by simp, ?_, fun hlegible e => ?_⟩
      · intro e text h
        rw [Shelf.looked_standards] at h
        exact .inl h
      · have hnull : shelf.hasNull = true := by
          by_contra hplain
          obtain ⟨text, htext⟩ := (Shelf.exists_found_iff hlegible d).2 (by simpa using hplain)
          rw [hfound] at htext
          cases htext
        rw [Shelf.openings_looked_of_hasNull hnull, Shelf.looked_standards]
    | ok text =>
      rw [leaves_of_ok (document_of_found hcached hfound), Shelf.looked_standards]
      refine ⟨by simp, by simp, ?_, ?_, fun _ e => ?_⟩
      · intro e other he
        have hne : e ≠ d := by
          rintro rfl
          rw [hcached] at he
          cases he
        exact (Cache.get?_put_of_ne _ hne text).trans he
      · intro e other he
        by_cases hed : e = d
        · subst hed
          rw [Cache.get?_put_self] at he
          cases he
          exact .inr ⟨hcached, hfound⟩
        · rw [Cache.get?_put_of_ne _ hed] at he
          exact .inl he
      · have hlook := shelf.openings_looked_le d e s
        show shelf.openings e (shelf.looked d s) + s.standards.count e ≤
          shelf.openings e s + (s.standards.put d text).count e
        by_cases hed : e = d
        · subst hed
          rw [if_pos rfl] at hlook
          simp only [Cache.count, hcached, Cache.get?_put_self, Option.isSome_none,
            Option.isSome_some, if_true]
          simpa using hlook
        · rw [if_neg hed] at hlook
          simp only [Cache.count, Cache.get?_put_of_ne _ hed]
          omega

/-- What loading does when it has the first document. -/
def loadSecond (shelf : Shelf) (first : String) : Action σ Bool := do
  if first = "" then return false
  return (← document shelf .validationLoop) ≠ ""

theorem ensureLoaded_eq (shelf : Shelf) : (ensureLoaded shelf : Action σ Bool) =
    document shelf .testStandards >>= loadSecond shelf := rfl

theorem loadSecond_consults (shelf : Shelf) (first : String) :
    (loadSecond shelf first : Action σ Bool).Leads (Consulted shelf) := by
  unfold loadSecond
  split
  · exact leads_pure _
  · exact (document_consults _ _).bind fun _ => leads_pure _

theorem ensureLoaded_consults (shelf : Shelf) :
    (ensureLoaded shelf : Action σ Bool).Leads (Consulted shelf) :=
  (document_consults _ _).bind (loadSecond_consults shelf)

/-! ## Loading -/

/-- Asking for a document changes nothing of what is kept of another one. -/
theorem standards_document_of_ne (shelf : Shelf) (s : Session σ) (h : e ≠ d) :
    ((document shelf d).leaves s).standards.get? e = s.standards.get? e := by
  cases hcached : s.standards.get? d with
  | some text => rw [leaves_of_ok (document_of_cached hcached)]
  | none =>
    cases hfound : shelf.found d s.files s.workingDirectory with
    | error failure =>
      rw [leaves_of_error (document_of_not_found hcached hfound), Shelf.looked_standards]
    | ok text =>
      rw [leaves_of_ok (document_of_found hcached hfound), Shelf.looked_standards]
      exact Cache.get?_put_of_ne _ h text

/-- Loading does not look for the second document, unless a first one with a content is kept then. -/
theorem standards_ensureLoaded (shelf : Shelf) (s : Session σ)
    (h : ∀ text, ((ensureLoaded shelf).leaves s).standards.get? .testStandards = some text → text = "") :
    ((ensureLoaded shelf).leaves s).standards.get? .validationLoop =
      s.standards.get? .validationLoop := by
  have hfirst := standards_document_of_ne (e := .validationLoop) (d := .testStandards) shelf s (by decide)
  rw [ensureLoaded_eq] at h ⊢
  cases hdocument : document shelf .testStandards s with
  | error failure v =>
    rw [leaves_of_error hdocument] at hfirst
    rw [leaves_bind_of_error hdocument, hfirst]
  | ok text v =>
    rw [leaves_of_ok hdocument] at hfirst
    rw [leaves_bind_of_ok hdocument] at h ⊢
    obtain ⟨hkept, -⟩ := cached_of_document hdocument
    obtain rfl := h text ((loadSecond_consults shelf text v).keeps _ _ hkept)
    exact hfirst

/-! ## Histories -/

/-- What can happen: files change, a document is asked for, or both are loaded. -/
inductive Happening where
  /-- The files are others from here on: some were created, changed or removed. -/
  | change (files : FileTree)
  | ask (d : Document)
  | load

/-- The session that is left when something has happened. -/
def Happening.leaves (shelf : Shelf) (s : Session σ) : Happening → Session σ
  | .change files => { s with files }
  | .ask d => (document shelf d).leaves s
  | .load => (ensureLoaded shelf).leaves s

/-- The session after a history. -/
def after (shelf : Shelf) (history : List Happening) (s : Session σ) : Session σ :=
  history.foldl (Happening.leaves shelf) s

variable {history front back : List Happening} {x : Happening}

theorem after_append (shelf : Shelf) (front back : List Happening) (s : Session σ) :
    after shelf (front ++ back) s = after shelf back (after shelf front s) :=
  List.foldl_append

/-- What happens is a change of the files or a request. -/
theorem Happening.changes_or_consults (shelf : Shelf) (s : Session σ) (x : Happening) :
    (∃ files, x = .change files) ∨ Consulted shelf s (x.leaves shelf s) := by
  cases x with
  | change files => exact .inl ⟨files, rfl⟩
  | ask d => exact .inr (document_consults shelf d s)
  | load => exact .inr (ensureLoaded_consults shelf s)

theorem Happening.keeps (shelf : Shelf) (s : Session σ) (x : Happening)
    (h : s.standards.get? d = some text) : (x.leaves shelf s).standards.get? d = some text := by
  rcases x.changes_or_consults shelf s with ⟨files, rfl⟩ | hconsulted
  · exact h
  · exact hconsulted.keeps d text h

theorem Happening.finds (shelf : Shelf) (s : Session σ) (x : Happening)
    (h : (x.leaves shelf s).standards.get? d = some text) :
    s.standards.get? d = some text ∨
      s.standards.get? d = none ∧ shelf.found d s.files s.workingDirectory = .ok text := by
  rcases x.changes_or_consults shelf s with ⟨files, rfl⟩ | hconsulted
  · exact .inl h
  · exact hconsulted.finds d text h

/-- What is kept stays, whatever happens. -/
theorem kept_after (history : List Happening) (h : s.standards.get? d = some text) :
    (after shelf history s).standards.get? d = some text := by
  induction history generalizing s with
  | nil => exact h
  | cons x history ih => exact ih (x.keeps shelf s h)

/-- At a moment of a history nothing is kept of a document, and it is found then. -/
def FirstFound (shelf : Shelf) (d : Document) (history : List Happening) (s : Session σ)
    (text : String) : Prop :=
  ∃ front, front <+: history ∧ (after shelf front s).standards.get? d = none ∧
    shelf.found d (after shelf front s).files (after shelf front s).workingDirectory = .ok text

/-- What is kept after a history was found at a moment of it. -/
theorem firstFound_of_kept (hfresh : s.standards.get? d = none) (history : List Happening)
    (h : (after shelf history s).standards.get? d = some text) :
    FirstFound shelf d history s text := by
  induction history generalizing s with
  | nil =>
    have hs : s.standards.get? d = some text := h
    rw [hfresh] at hs
    cases hs
  | cons x history ih =>
    cases hx : (x.leaves shelf s).standards.get? d with
    | none =>
      obtain ⟨front, hfront, hmoment⟩ := ih hx h
      exact ⟨x :: front, (List.prefix_cons_inj x).2 hfront, hmoment⟩
    | some old =>
      have hold : (after shelf history (x.leaves shelf s)).standards.get? d = some old :=
        kept_after history hx
      obtain rfl : old = text := Option.some.inj (hold.symm.trans h)
      rcases x.finds shelf s hx with hkept | hmoment
      · rw [hfresh] at hkept
        cases hkept
      · exact ⟨[], List.nil_prefix, hmoment⟩

/-- Where the second document is not asked for on its own, it is not looked for as long as the first one
is empty. -/
theorem unasked_after (hask : .ask .validationLoop ∉ history)
    (h : ∀ text, (after shelf history s).standards.get? .testStandards = some text → text = "") :
    (after shelf history s).standards.get? .validationLoop = s.standards.get? .validationLoop := by
  induction history generalizing s with
  | nil => rfl
  | cons x history ih =>
    have hrest := ih (s := x.leaves shelf s) (fun hmem => hask (List.mem_cons_of_mem x hmem)) h
    refine hrest.trans ?_
    cases x with
    | change files => rfl
    | ask d =>
      refine standards_document_of_ne shelf s ?_
      rintro rfl
      exact hask List.mem_cons_self
    | load => exact standards_ensureLoaded shelf s fun text htext => h text (kept_after history htext)

/-! ## Histories of texts -/

/-- At every moment of a history the files of the documents are texts, as far as they can be read. -/
structure LegibleAlong (shelf : Shelf) (history : List Happening) (s : Session σ) : Prop where
  start : shelf.Legible s.files s.workingDirectory
  change : ∀ files, .change files ∈ history → shelf.Legible files s.workingDirectory

theorem Happening.workingDirectory_eq (shelf : Shelf) (s : Session σ) (x : Happening) :
    (x.leaves shelf s).workingDirectory = s.workingDirectory := by
  rcases x.changes_or_consults shelf s with ⟨files, rfl⟩ | hconsulted
  · rfl
  · exact hconsulted.workingDirectory_eq

theorem LegibleAlong.tail (h : LegibleAlong shelf (x :: history) s) :
    LegibleAlong shelf history (x.leaves shelf s) := by
  refine ⟨?_, fun files hfiles => ?_⟩
  · rw [x.workingDirectory_eq]
    rcases x.changes_or_consults shelf s with ⟨files, rfl⟩ | hconsulted
    · exact h.change files List.mem_cons_self
    · rw [hconsulted.files_eq]
      exact h.start
  · rw [x.workingDirectory_eq]
    exact h.change files (List.mem_cons_of_mem x hfiles)

theorem LegibleAlong.of_append (h : LegibleAlong shelf (front ++ back) s) : LegibleAlong shelf front s :=
  ⟨h.start, fun files hfiles => h.change files (List.mem_append_left back hfiles)⟩

theorem LegibleAlong.behind (h : LegibleAlong shelf (front ++ back) s) :
    LegibleAlong shelf back (after shelf front s) := by
  induction front generalizing s with
  | nil => exact h
  | cons x front ih => exact ih h.tail

/-- Along a history a file is opened at most for a document that is kept from then on. -/
theorem openings_after (h : LegibleAlong shelf history s) (d : Document) :
    shelf.openings d (after shelf history s) + s.standards.count d ≤
      shelf.openings d s + (after shelf history s).standards.count d := by
  induction history generalizing s with
  | nil => exact Nat.le_refl _
  | cons x history ih =>
    have hrest := ih h.tail
    have hfirst : shelf.openings d (x.leaves shelf s) + s.standards.count d ≤
        shelf.openings d s + (x.leaves shelf s).standards.count d := by
      rcases x.changes_or_consults shelf s with ⟨files, rfl⟩ | hconsulted
      · exact Nat.le_refl _
      · exact hconsulted.opens h.start d
    show shelf.openings d (after shelf history (x.leaves shelf s)) + _ ≤
      _ + (after shelf history (x.leaves shelf s)).standards.count d
    omega

theorem Cache.count_le_one (c : Cache) (d : Document) : c.count d ≤ 1 := by
  unfold count
  split
  · exact Nat.le_refl 1
  · exact Nat.zero_le 1

/-- A document that was asked for is kept, on a shelf that can be read at all. -/
theorem exists_kept_of_asked (h : LegibleAlong shelf history s) (hplain : shelf.hasNull = false)
    (hask : .ask d ∈ history) : ∃ text, (after shelf history s).standards.get? d = some text := by
  obtain ⟨front, back, rfl⟩ := List.append_of_mem hask
  obtain ⟨text, hfound⟩ := (Shelf.exists_found_iff h.behind.start d).2 hplain
  rw [after_append]
  cases hcached : (after shelf front s).standards.get? d with
  | some old => exact ⟨old, kept_after _ hcached⟩
  | none =>
    refine ⟨text, kept_after back ?_⟩
    show ((document shelf d).leaves _).standards.get? d = _
    rw [leaves_of_ok (document_of_found hcached hfound)]
    exact Cache.get?_put_self _ _ _

/-- **Loading freezes what it has read.** A new cache is asked for standards while their files change, all of
them texts. Once both documents were loaded, the first one and what loading comes to stay as they are,
whatever happens, and so does the second one, if the first one has a content or the second one was asked
for before. They are as they were found when they were first looked for. In the other case the second
document is not fixed: until it is asked for, it is what is found of it. In any case no file is opened
more than once. -/
theorem loading_freezes (shelf : Shelf) (s : Session σ) (before later : List Happening)
    (hfresh : s.standards = {}) (hlegible : LegibleAlong shelf (before ++ .load :: later) s)
    (hload : ensureLoaded shelf (after shelf before s) = .ok loaded t) :
    let u := after shelf later t
    ∃ text, FirstFound shelf .testStandards (before ++ [.load]) s text ∧
      document shelf .testStandards u = .ok text u ∧ ensureLoaded shelf u = .ok loaded u ∧
      (text ≠ "" ∨ .ask .validationLoop ∈ before →
        ∃ other, FirstFound shelf .validationLoop (before ++ [.load]) s other ∧
          document shelf .validationLoop u = .ok other u) ∧
      (text = "" → .ask .validationLoop ∉ before ++ later →
        (document shelf .validationLoop).outcome u =
          shelf.found .validationLoop u.files u.workingDirectory) ∧
      ∀ d, shelf.openings d u ≤ shelf.openings d s + 1 := by
  intro u
  have ht : after shelf (before ++ [.load]) s = t := by
    rw [after_append]
    exact leaves_of_ok hload
  have hu : after shelf (before ++ .load :: later) s = u := by
    rw [List.append_cons, after_append, ht]
  have hnone (d : Document) : s.standards.get? d = none := by
    rw [hfresh]
    cases d <;> rfl
  have hfixed {d : Document} {found : String} (h : t.standards.get? d = some found) :
      FirstFound shelf d (before ++ [.load]) s found ∧ document shelf d u = .ok found u :=
    ⟨firstFound_of_kept (hnone d) _ (ht ▸ h), document_of_cached (kept_after later h)⟩
  have hfront : LegibleAlong shelf (before ++ [.load]) s := by
    rw [List.append_cons] at hlegible
    exact hlegible.of_append
  obtain ⟨text, hkept, hloaded⟩ := kept_of_loaded hload
  obtain ⟨⟨moment, hmoment, -, hfound⟩, hdocument⟩ := hfixed hkept
  refine ⟨text, (hfixed hkept).1, hdocument, ?_, ?_, ?_, fun d => ?_⟩
  · rcases hloaded with ⟨rfl, rfl⟩ | ⟨hne, other, hother, rfl⟩
    · exact ensureLoaded_of_empty (kept_after later hkept)
    · exact ensureLoaded_of_kept (kept_after later hkept) hne (kept_after later hother)
  · rintro (hne | hask)
    · rcases hloaded with ⟨hempty, -⟩ | ⟨-, other, hother, -⟩
      · exact absurd hempty hne
      · exact ⟨other, hfixed hother⟩
    · have hplain : shelf.hasNull = false := by
        obtain ⟨rest, hrest⟩ := hmoment
        rw [← hrest] at hfront
        exact (Shelf.exists_found_iff hfront.behind.start .testStandards).1 ⟨text, hfound⟩
      obtain ⟨other, hother⟩ :=
        exists_kept_of_asked hfront hplain (List.mem_append_left [.load] hask)
      exact ⟨other, hfixed (ht ▸ hother)⟩
  · rintro rfl hask
    refine document_outcome_of_missing ?_
    rw [← hu, unasked_after, hnone]
    · simpa using hask
    · intro found hu'
      rw [hu, kept_after later hkept] at hu'
      exact (Option.some.inj hu').symm
  · have hopen := openings_after hlegible d
    have hcount := u.standards.count_le_one d
    rw [hu] at hopen
    omega

/-! ## A small shelf -/

/-- A directory with the files of some documents. -/
def shelfTree (documents : List (Document × String)) : FileTree :=
  ⟨(["shelf"], .directory) ::
    documents.map fun (d, text) => (["shelf", d.fileName], .file text.toUTF8)⟩

def Shelf.small : Shelf := .directory (.ofText "shelf")

/-- A project that has nothing but the directory. -/
def shelfSession (documents : List (Document × String)) : Session Nat :=
  .ofEntries (shelfTree documents).entries

/-- The first document is missing when both are loaded, and the second one was asked for before. Both stay
as they were when they are written anew. -/
theorem loading_freezes_small :
    let s := shelfSession [(.validationLoop, "loop v1")]
    let later : List Happening :=
      [.change (shelfTree [(.testStandards, "standards v2"), (.validationLoop, "loop v2")])]
    s.standards = {} ∧
    LegibleAlong Shelf.small ([.ask .validationLoop] ++ .load :: later) s ∧
    ∃ t, ensureLoaded Shelf.small (after Shelf.small [.ask .validationLoop] s) = .ok false t ∧
      let u := after Shelf.small later t
      document Shelf.small .testStandards u = .ok "" u ∧ ensureLoaded Shelf.small u = .ok false u ∧
      document Shelf.small .validationLoop u = .ok "loop v1" u := by
  intro s later
  have hlegible : LegibleAlong Shelf.small ([.ask .validationLoop] ++ .load :: later) s := by
    refine ⟨fun d file hfile => ?_, fun files hfiles d file hfile => ?_⟩
    · cases hfile
      cases d <;> decide +kernel
    · obtain rfl : files = _ := by simpa [later] using hfiles
      cases hfile
      cases d <;> decide +kernel
  have hload := exists_of_outcome_ok (x := ensureLoaded Shelf.small)
    (s := after Shelf.small [.ask .validationLoop] s) (a := false) (by decide +kernel)
  obtain ⟨text, -, hfirst, hagain, hsecond, -, -⟩ :=
    loading_freezes Shelf.small s [.ask .validationLoop] later rfl hlegible hload
  obtain ⟨other, -, hother⟩ := hsecond (.inr List.mem_cons_self)
  obtain rfl : text = "" := Except.ok.inj ((outcome_of_ok hfirst).symm.trans (by decide +kernel))
  obtain rfl : other = "loop v1" :=
    Except.ok.inj ((outcome_of_ok hother).symm.trans (by decide +kernel))
  exact ⟨rfl, hlegible, _, hload, hfirst, hagain, hother⟩

/-- The second document is missing when both are loaded, and it is there when it is asked for later. -/
theorem unreadDocument_appears :
    let s := shelfSession []
    (ensureLoaded Shelf.small).outcome s = .ok false ∧
    (document Shelf.small .validationLoop).outcome (after Shelf.small [.load] s) = .ok "" ∧
    (document Shelf.small .validationLoop).outcome
      (after Shelf.small [.load, .change (shelfTree [(.validationLoop, "late")])] s) = .ok "late" := by
  refine ⟨?_, ?_, ?_⟩ <;> decide +kernel

end Standards

end Testsmith
