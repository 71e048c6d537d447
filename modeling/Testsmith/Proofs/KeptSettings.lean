import Testsmith.Proofs.Regeneration

/-!
# Settings that are kept

Starting a settings file writes the defaults, and what was in the file before goes into a second file
beside it. A history of writes by a user and of starts is followed with a record of the last content that
was written and of the number of starts that have succeeded since (`Settings.Watched`). What the two files
hold is told by the record alone (`Settings.Kept`), and every step keeps it so (`Settings.kept_step`): a
write puts its content into the file, the first start moves it to the backup, and the next one puts the
defaults in its place. A start that fails changes neither file.

So the last content that was written is there as long as no second start has succeeded, and then it is gone,
unless it is that of the defaults. `last_write_present_iff` is the main statement.
-/

namespace Testsmith

variable {σ : Type}

open Testsmith.Action FileTree

namespace FileTree

variable {t u : FileTree} {cwd : Location} {p q : Path} {content other : ByteArray}

/-- Another file is read as before. -/
theorem read_of_write_ne (h : t.write cwd p content = .ok u) (hread : t.read cwd q = .ok other)
    (hne : destination cwd q ≠ destination cwd p) : u.read cwd q = .ok other := by
  obtain ⟨hnull, l, hl, hnode⟩ := read_eq_ok_iff.1 hread
  refine read_eq_ok_iff.2 ⟨hnull, l, (directoriesStay_write h).locate hl, ?_⟩
  rw [← content?_eq_some_iff] at hnode ⊢
  rw [content?_write h (by rwa [locate_eq_ok hl]), hnode]

theorem hasEntry_of_read (h : t.read cwd p = .ok content) : t.hasEntry cwd p = .ok true := by
  obtain ⟨hnull, l, hl, hnode⟩ := read_eq_ok_iff.1 h
  simp [hasEntry, ask, find, hnull, hl, hnode, Except.map]

end FileTree

namespace Settings

variable {root : Path} {s t : Session σ} {content : ByteArray} {failure : Failure}

/-! ## Two files -/

theorem directory_eq (root : Path) : directory root = ⟨root.anchor, root.parts ++ [".testloop"]⟩ := by
  have hdirectory : Path.ofText ".testloop" = ⟨.relative, [".testloop"]⟩ := by decide
  show root.join (Path.ofText ".testloop") = _
  rw [hdirectory]
  rfl

theorem backupFile_eq (root : Path) :
    backupFile root = ⟨root.anchor, (root.parts ++ [".testloop"]) ++ ["testloop.toml.bak"]⟩ := by
  have hfile : Path.ofText "testloop.toml.bak" = ⟨.relative, ["testloop.toml.bak"]⟩ := by decide
  show (directory root).join (Path.ofText "testloop.toml.bak") = _
  rw [hfile, directory_eq]
  rfl

theorem backup_apart (root : Path) (cwd : Location) :
    destination cwd (file root) ≠ destination cwd (backupFile root) := by
  rw [file_eq, backupFile_eq]
  exact Service.destination_ne (by decide) (by decide) (by decide) cwd

/-- The settings file holds this. -/
def Holds (root : Path) (s : Session σ) (content : ByteArray) : Prop :=
  s.files.read s.workingDirectory (file root) = .ok content

/-- The file beside the settings file holds this. -/
def BacksUp (root : Path) (s : Session σ) (content : ByteArray) : Prop :=
  s.files.read s.workingDirectory (backupFile root) = .ok content

/-- Where there is a settings file, its directory is there. -/
theorem makeDirectories_of_holds (h : Holds root s content) :
    makeDirectories (directory root) s = .ok () s := by
  obtain ⟨hnull, l, hl, -⟩ := read_eq_ok_iff.1 h
  rw [file_eq] at hnull hl
  have hthere := isDirectory_above hnull hl
  rw [← directory_eq] at hthere
  exact makeDirectories_of_ok (makeDirectories_of_isDirectory hthere)

/-- The default settings file, as bytes. -/
def defaultContent : ByteArray := defaultDocument.toUTF8

/-- Copying a file that can be read is writing what it holds. -/
theorem copyFile_of_read {p q : Path} (h : s.files.read s.workingDirectory p = .ok content) :
    copyFile p q s = writeBytes q content s :=
  bind_of_ok (ofExcept_of_ok h s)

/-- **A start where there is a settings file** either fails and changes nothing, or it succeeds, and then
the file holds the defaults and the one beside it what the file has held. -/
theorem start_of_holds (h : Holds root s content) :
    (∃ failure, start root s = .error failure s) ∨
      ∃ t, start root s = .ok (file root) t ∧ Holds root t defaultContent ∧ BacksUp root t content := by
  have hmake := makeDirectories_of_holds h
  have hentry : hasEntry (file root) s = .ok true s := ofExcept_of_ok (hasEntry_of_read h) s
  have hstart : start root s = (do
      copyFile (file root) (backupFile root)
      writeText (file root) defaultDocument
      return file root : Action σ Path) s := by
    unfold start
    rw [bind_of_ok hmake, bind_of_ok hentry]
    rfl
  rw [hstart]
  cases hcopy : s.files.write s.workingDirectory (backupFile root) content with
  | error failure =>
    have hcopies : copyFile (file root) (backupFile root) s = .error failure s :=
      (copyFile_of_read h).trans (writeBytes_of_error hcopy)
    exact .inl ⟨failure, bind_of_error hcopies⟩
  | ok copied =>
    have hcopies : copyFile (file root) (backupFile root) s = .ok () { s with files := copied } :=
      (copyFile_of_read h).trans (writeBytes_of_ok hcopy)
    have hheld := read_of_write_ne hcopy h (backup_apart root _)
    obtain ⟨files, hwrite, hwritten⟩ := write_of_read hheld defaultContent
    have hbackup := read_of_write_ne hwrite (read_of_written hcopy) (backup_apart root _).symm
    refine .inr ⟨Session.afterWrite { s with files := copied } (file root) defaultDocument files, ?_,
      hwritten, hbackup⟩
    rw [bind_of_ok hcopies, bind_of_ok (writeText_of_ok hwrite)]
    rfl

/-! ## Histories -/

/-- What is done to a settings file. -/
inductive Edit where
  /-- A user writes the file, with the directory that it is in. -/
  | write (content : ByteArray)
  | start

def Edit.action (root : Path) : Edit → Action σ Unit
  | .write content => do
    makeDirectories (directory root)
    writeBytes (file root) content
  | .start => do
    let _ ← Settings.start root

/-- What a user has written last, and how many starts have succeeded since. -/
structure LastWrite where
  content : ByteArray
  starts : Nat

/-- A session with a record of the last write that has succeeded. -/
structure Watched (σ : Type) where
  session : Session σ
  last : Option LastWrite := none

/-- The record after an edit that has succeeded. -/
def Edit.record (last : Option LastWrite) : Edit → Option LastWrite
  | .write content => some ⟨content, 0⟩
  | .start => last.map fun w => { w with starts := w.starts + 1 }

/-- An edit that fails is not recorded. -/
def Watched.step (root : Path) (w : Watched σ) (e : Edit) : Watched σ :=
  match e.action root w.session with
  | .ok _ t => { session := t, last := e.record w.last }
  | .error _ t => { w with session := t }

def watch (root : Path) (history : List Edit) (s : Session σ) : Watched σ :=
  history.foldl (Watched.step root) { session := s }

/-- What the two files hold, as far as the record tells. -/
inductive Kept (root : Path) (s : Session σ) : Option LastWrite → Prop
  | unknown : Kept root s none
  | written {content : ByteArray} (h : Holds root s content) : Kept root s (some ⟨content, 0⟩)
  | moved {content : ByteArray} (h : Holds root s defaultContent) (hbackup : BacksUp root s content) :
    Kept root s (some ⟨content, 1⟩)
  | lost {content : ByteArray} (more : Nat) (h : Holds root s defaultContent)
      (hbackup : BacksUp root s defaultContent) : Kept root s (some ⟨content, more + 2⟩)

theorem Kept.holds {w : LastWrite} (h : Kept root s (some w)) : ∃ content, Holds root s content := by
  cases h with
  | written h => exact ⟨_, h⟩
  | moved h hbackup => exact ⟨_, h⟩
  | lost more h hbackup => exact ⟨_, h⟩

theorem holds_of_write (h : (Edit.write content).action root s = .ok () t) : Holds root t content := by
  obtain ⟨_, u, -, hwrite⟩ := bind_eq_ok h
  cases hfiles : u.files.write u.workingDirectory (file root) content with
  | error failure =>
    rw [writeBytes_of_error hfiles] at hwrite
    cases hwrite
  | ok files =>
    rw [writeBytes_of_ok hfiles] at hwrite
    cases hwrite
    exact read_of_written hfiles

/-- Where there is a settings file, it can be written. -/
theorem write_of_holds {held : ByteArray} (h : Holds root s held) (content : ByteArray) :
    ∃ t, (Edit.write content).action root s = .ok () t := by
  obtain ⟨files, hwrite, -⟩ := write_of_read h content
  exact ⟨_, (bind_of_ok (makeDirectories_of_holds h)).trans (writeBytes_of_ok hwrite)⟩

theorem Holds.eq {held : ByteArray} (h : Holds root s held) (h' : Holds root s content) :
    held = content :=
  Except.ok.inj (h.symm.trans h')

theorem kept_write {w : Watched σ} (h : Kept root w.session w.last) (content : ByteArray) :
    Kept root (w.step root (.write content)).session (w.step root (.write content)).last := by
  unfold Watched.step
  cases haction : (Edit.write content).action root w.session with
  | ok _ t => exact .written (holds_of_write haction)
  | error failure t =>
    -- behind a write that has succeeded no write fails
    cases hlast : w.last with
    | none => exact .unknown
    | some last =>
      rw [hlast] at h
      obtain ⟨held, hheld⟩ := h.holds
      obtain ⟨u, hwrite⟩ := write_of_holds hheld content
      rw [haction] at hwrite
      cases hwrite

theorem kept_start {w : Watched σ} (h : Kept root w.session w.last) :
    Kept root (w.step root .start).session (w.step root .start).last := by
  cases hlast : w.last with
  | none =>
    have hnone : (w.step root .start).last = none := by
      unfold Watched.step
      split
      · simp [Edit.record, hlast]
      · exact hlast
    rw [hnone]
    exact .unknown
  | some last =>
    rw [hlast] at h
    obtain ⟨held, hheld⟩ := h.holds
    unfold Watched.step
    rcases start_of_holds hheld with ⟨failure, hstart⟩ | ⟨t, hstart, hdefault, hbackup⟩
    · rw [show Edit.start.action root w.session = .error failure w.session from bind_of_error hstart]
      rwa [hlast]
    · rw [show Edit.start.action root w.session = .ok () t from bind_of_ok hstart, hlast]
      cases h with
      | written hcontent => exact .moved hdefault (hheld.eq hcontent ▸ hbackup)
      | moved hmoved _ => exact .lost 0 hdefault (hheld.eq hmoved ▸ hbackup)
      | lost more hlost _ => exact .lost (more + 1) hdefault (hheld.eq hlost ▸ hbackup)

theorem kept_step {w : Watched σ} (h : Kept root w.session w.last) (e : Edit) :
    Kept root (w.step root e).session (w.step root e).last := by
  cases e with
  | write content => exact kept_write h content
  | start => exact kept_start h

theorem kept_watch (root : Path) (history : List Edit) (s : Session σ) :
    Kept root (watch root history s).session (watch root history s).last := by
  have hall (w : Watched σ) (hw : Kept root w.session w.last) :
      Kept root (history.foldl (Watched.step root) w).session
        (history.foldl (Watched.step root) w).last := by
    induction history generalizing w with
    | nil => exact hw
    | cons e history ih => exact ih _ (kept_step hw e)
  exact hall _ .unknown

/-- **The last content that a user has written** is byte for byte in the settings file or in the one beside
it, after every history of writes and starts, if and only if fewer than two starts have succeeded since,
or it is that of the defaults. After two starts both files hold the defaults. -/
theorem last_write_present_iff (root : Path) (s : Session σ) (history : List Edit) {w : LastWrite}
    (h : (watch root history s).last = some w) :
    let t := (watch root history s).session
    (Holds root t w.content ∨ BacksUp root t w.content ↔ w.starts < 2 ∨ w.content = defaultContent) ∧
      (2 ≤ w.starts → Holds root t defaultContent ∧ BacksUp root t defaultContent) := by
  intro t
  have hkept := kept_watch root history s
  rw [h] at hkept
  cases hkept with
  | written hholds => exact ⟨iff_of_true (.inl hholds) (.inl (by simp)), by simp⟩
  | moved hholds hbackup => exact ⟨iff_of_true (.inr hbackup) (.inl (by simp)), by simp⟩
  | @lost content more hholds hbackup =>
    refine ⟨?_, fun _ => ⟨hholds, hbackup⟩⟩
    constructor
    · rintro (hheld | hheld)
      · exact .inr (Except.ok.inj (hheld.symm.trans hholds))
      · exact .inr (Except.ok.inj (hheld.symm.trans hbackup))
    · rintro (hfew | hdefault)
      · exact absurd hfew (by simp)
      · exact .inl (hdefault ▸ hholds)

/-! ## One start, and two -/

instance : DecidableEq LastWrite
  | ⟨a, m⟩, ⟨b, n⟩ => decidable_of_iff (a.data = b.data ∧ m = n) (by simp [ByteArray.ext_iff])

instance : Decidable (Holds root s content) := inferInstanceAs (Decidable (_ = _))

instance : Decidable (BacksUp root s content) := inferInstanceAs (Decidable (_ = _))

/-- Settings with a budget of their own. -/
def ownContent : ByteArray := "[loop]\nmax_retries = 9\n".toUTF8

/-- A project without any file. -/
def emptyProject : Session Nat := .ofEntries []

/-- After one start the content is in the file beside the settings file. -/
theorem oneStart_keeps :
    let w := watch (.ofText ".") [.start, .write ownContent, .start] emptyProject
    w.last = some ⟨ownContent, 1⟩ ∧
      (Holds (.ofText ".") w.session ownContent ∨ BacksUp (.ofText ".") w.session ownContent) := by
  intro w
  have hlast : w.last = some ⟨ownContent, 1⟩ := by decide +kernel
  exact ⟨hlast, (last_write_present_iff _ _ _ hlast).1.2 (.inl (by decide))⟩

/-- After two starts it is in neither of them. -/
theorem twoStarts_lose :
    let w := watch (.ofText ".") [.write ownContent, .start, .start] emptyProject
    w.last = some ⟨ownContent, 2⟩ ∧
      ¬ Holds (.ofText ".") w.session ownContent ∧ ¬ BacksUp (.ofText ".") w.session ownContent := by
  refine ⟨?_, ?_, ?_⟩ <;> decide +kernel

end Settings

end Testsmith
