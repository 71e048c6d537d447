import Testsmith.Proofs.FileRewrite
import Testsmith.Proofs.Footprints
import Testsmith.Proofs.Scanning

/-!
# Making directories again

A file is written behind the directories above it, those of which are made that are missing
(`FileTree.place`). To do so again changes nothing more (`FileTree.place_again`). A directory that was
made is there, and a file that was written is written as it stands. Where making directories fails, what
was made stays, and it fails again: the directory above the one that could not be made is still not
there, or it is and the same thing is refused again. Only in the first case, and if something was made,
the second failure may be another one.

Directories that are made also change what further paths lead to. A path that has led to a file still leads
to it, but one that has led to none may come to a file by the directories that were missing
(`FileTree.isFile_stays`). It does not if what is missing of it are plain names (`FileTree.Grounded`): in a
tree where every entry stands in a directory, there is nothing behind a missing directory.
-/

namespace Testsmith

namespace FileTree

variable {t u v : FileTree} {cwd l m : Location} {p : Path} {content : ByteArray} {failure : Failure}
  {anchor : Path.Anchor} {parts front back above : List String} {part : String}

/-! ## Directories that are made -/

theorem makeDirectory_eq_error (h : t.makeDirectory cwd p = .error failure) :
    failure = .nullInPath ∨ ∃ trouble, failure = .system trouble p.text := by
  unfold makeDirectory refuse at h
  split at h
  · exact .inl (Except.error.inj h).symm
  · split at h
    · exact .inr ⟨_, (Except.error.inj h).symm⟩
    · cases h
    · exact .inr ⟨_, (Except.error.inj h).symm⟩

theorem directoriesStay_makeDirectory (h : t.makeDirectory cwd p = .ok u) : t.DirectoriesStay u := by
  obtain ⟨-, l, -, hnone, rfl⟩ := makeDirectory_eq_ok h
  exact directoriesStay_set (by simp [hnone])

theorem directoriesStay_makeDirectories (t : FileTree) (cwd : Location) (p : Path) :
    t.DirectoriesStay (t.makeDirectories cwd p).2 :=
  makeDirectoriesFrom_leads (R := DirectoriesStay) (fun _ _ h => h) (fun _ _ _ h h' => h.trans h')
    (fun _ _ _ h => directoriesStay_makeDirectory h) _ _ t

/-! ## Directories that are there -/

theorem isDirectory_eq_true_iff : t.isDirectory cwd p = .ok true ↔
    hasNull p = false ∧ ∃ l, t.locate cwd p = .ok l ∧ t.node? l = some .directory := by
  unfold isDirectory ask find refuse
  cases hn : hasNull p with
  | true => simp
  | false =>
    cases hl : t.locate cwd p with
    | error trouble => cases trouble <;> simp [Except.map]
    | ok l =>
      cases hc : t.node? l with
      | none => simp [Except.map, hc]
      | some n => cases n <;> simp [Except.map, hc]

theorem DirectoriesStay.isDirectory (h : t.DirectoriesStay u) (hp : t.isDirectory cwd p = .ok true) :
    u.isDirectory cwd p = .ok true := by
  obtain ⟨hnull, l, hl, hnode⟩ := isDirectory_eq_true_iff.1 hp
  exact isDirectory_eq_true_iff.2 ⟨hnull, l, h.locate hl, h l hnode⟩

theorem isDirectory_of_unlessDirectory (h : t.unlessDirectory cwd p failure = .ok ()) :
    t.isDirectory cwd p = .ok true := by
  unfold unlessDirectory at h
  split at h
  · assumption
  · cases h
  · cases h

theorem isDirectory_of_makeDirectory (h : t.makeDirectory cwd p = .ok u) :
    u.isDirectory cwd p = .ok true := by
  have hstay := directoriesStay_makeDirectory h
  obtain ⟨hnull, l, hl, hnone, rfl⟩ := makeDirectory_eq_ok h
  have hne : l ≠ [] := by
    rintro rfl
    cases hnone
  exact isDirectory_eq_true_iff.2 ⟨hnull, l, hstay.locate hl, node?_set_self t hne _⟩

theorem makeDirectory_of_isDirectory (h : t.isDirectory cwd p = .ok true) :
    t.makeDirectory cwd p = .error (.system .alreadyExists p.text) := by
  obtain ⟨hnull, l, hl, hnode⟩ := isDirectory_eq_true_iff.1 h
  simp [makeDirectory, refuse, find, hnull, hl, hnode, Except.map]

/-! ## One directory -/

/-- Makes a directory, unless it is there. -/
def makeOrFind (t : FileTree) (cwd : Location) (p : Path) : Except Failure Unit × FileTree :=
  match t.makeDirectory cwd p with
  | .ok u => (.ok (), u)
  | .error failure => (t.unlessDirectory cwd p failure, t)

theorem isDirectory_of_makeOrFind (h : t.makeOrFind cwd p = (.ok (), u)) :
    u.isDirectory cwd p = .ok true := by
  unfold makeOrFind at h
  split at h
  · next made hmade =>
    cases h
    exact isDirectory_of_makeDirectory hmade
  · obtain ⟨hunless, rfl⟩ := Prod.mk.inj h
    exact isDirectory_of_unlessDirectory hunless

/-- Where a directory is there, making it changes nothing. -/
theorem makeOrFind_of_isDirectory (h : t.isDirectory cwd p = .ok true) :
    t.makeOrFind cwd p = (.ok (), t) := by
  simp [makeOrFind, makeDirectory_of_isDirectory h, unlessDirectory, h]

/-- A directory is not made, and nothing is, exactly where there is none and none can be made. -/
theorem makeOrFind_fails_iff : (∃ failure, t.makeOrFind cwd p = (.error failure, t)) ↔
    (∀ u, t.makeDirectory cwd p ≠ .ok u) ∧ t.isDirectory cwd p ≠ .ok true := by
  unfold makeOrFind unlessDirectory
  cases t.makeDirectory cwd p with
  | ok u => simp
  | error failure =>
    cases t.isDirectory cwd p with
    | error other => simp
    | ok there => cases there <;> simp

theorem makeOrFind_eq_error (h : t.makeOrFind cwd p = (.error failure, u)) : u = t := by
  unfold makeOrFind at h
  split at h
  · cases h
  · exact (Prod.mk.inj h).2.symm

/-- Where a path has a null character or leads to nothing, it leads to no directory. -/
theorem makeOrFind_of_missing (h : t.makeDirectory cwd p = .error failure)
    (hfailure : failure = .nullInPath ∨ ∃ path, failure = .system .notFound path) :
    t.makeOrFind cwd p = (.error failure, t) := by
  have hnot : t.isDirectory cwd p = .ok false := by
    unfold makeDirectory refuse at h
    unfold isDirectory ask
    split at h
    · next hnull => rw [if_pos hnull]
    · next hnull =>
      rw [if_neg hnull]
      split at h
      · rcases hfailure with rfl | ⟨path, rfl⟩ <;> cases h
      · cases h
      · next trouble hfind =>
        rcases hfailure with rfl | ⟨path, rfl⟩
        · cases h
        · obtain ⟨rfl, -⟩ := Failure.system.inj (Except.error.inj h)
          rw [hfind]
  simp [makeOrFind, h, unlessDirectory, hnot]

/-! ## All that are missing -/

theorem makeDirectoriesFrom_eq (h : parts = [] ∨ ∀ path,
    t.makeDirectory cwd ⟨anchor, parts.reverse⟩ ≠ .error (.system .notFound path)) :
    makeDirectoriesFrom cwd anchor parts t = t.makeOrFind cwd ⟨anchor, parts.reverse⟩ := by
  unfold makeDirectoriesFrom
  dsimp only
  split
  · next u hmade => simp [makeOrFind, hmade]
  · next path hmade =>
    rcases h with rfl | hother
    · exact (makeOrFind_of_missing hmade (.inr ⟨path, rfl⟩)).symm
    · exact absurd hmade (hother path)
  · next trouble path hmade => simp [makeOrFind, hmade]
  · next failure hsystem hmade =>
    rcases makeDirectory_eq_error hmade with rfl | ⟨trouble, rfl⟩
    · exact (makeOrFind_of_missing hmade (.inl rfl)).symm
    · exact absurd rfl (hsystem trouble _)

theorem makeDirectoriesFrom_of_missing {path : String}
    (h : t.makeDirectory cwd ⟨anchor, (part :: above).reverse⟩ = .error (.system .notFound path)) :
    makeDirectoriesFrom cwd anchor (part :: above) t =
      match makeDirectoriesFrom cwd anchor above t with
      | (.error failure, u) => (.error failure, u)
      | (.ok (), u) => u.makeOrFind cwd ⟨anchor, (part :: above).reverse⟩ := by
  rw [makeDirectoriesFrom, h]
  dsimp only
  cases hrest : makeDirectoriesFrom cwd anchor above t with
  | mk made u =>
    cases made with
    | error failure => rfl
    | ok _ =>
      dsimp only
      split
      · next v hmade => rw [makeOrFind, hmade]
      · next path hmade => exact (makeOrFind_of_missing hmade (.inr ⟨path, rfl⟩)).symm
      · next trouble path hother hmade => rw [makeOrFind, hmade]
      · next failure hsystem hmade =>
        rcases makeDirectory_eq_error hmade with rfl | ⟨trouble, rfl⟩
        · exact (makeOrFind_of_missing hmade (.inl rfl)).symm
        · exact absurd rfl (hsystem trouble _)

/-- Either nothing else is made, or what is above, and then the directory if that has succeeded. -/
theorem makeDirectoriesFrom_cases (cwd : Location) (anchor : Path.Anchor) (parts : List String)
    (t : FileTree) :
    makeDirectoriesFrom cwd anchor parts t = t.makeOrFind cwd ⟨anchor, parts.reverse⟩ ∨
    ∃ part above, parts = part :: above ∧
      makeDirectoriesFrom cwd anchor parts t = match makeDirectoriesFrom cwd anchor above t with
        | (.error failure, u) => (.error failure, u)
        | (.ok (), u) => u.makeOrFind cwd ⟨anchor, parts.reverse⟩ := by
  by_cases hmissing : ∃ path,
      t.makeDirectory cwd ⟨anchor, parts.reverse⟩ = .error (.system .notFound path)
  · obtain ⟨path, hpath⟩ := hmissing
    cases parts with
    | nil => exact .inl (makeDirectoriesFrom_eq (.inl rfl))
    | cons part above => exact .inr ⟨part, above, rfl, makeDirectoriesFrom_of_missing hpath⟩
  · exact .inl (makeDirectoriesFrom_eq (.inr fun path hpath => hmissing ⟨path, hpath⟩))

/-- A directory that was made is there. -/
theorem isDirectory_of_made (h : makeDirectoriesFrom cwd anchor parts t = (.ok (), u)) :
    u.isDirectory cwd ⟨anchor, parts.reverse⟩ = .ok true := by
  rcases makeDirectoriesFrom_cases cwd anchor parts t with heq | ⟨part, above, -, heq⟩
  · exact isDirectory_of_makeOrFind (heq ▸ h)
  · rw [heq] at h
    split at h
    · cases h
    · exact isDirectory_of_makeOrFind h

/-- Where a directory is there, making it and those above it changes nothing. -/
theorem makeDirectoriesFrom_of_isDirectory (h : t.isDirectory cwd ⟨anchor, parts.reverse⟩ = .ok true) :
    makeDirectoriesFrom cwd anchor parts t = (.ok (), t) := by
  have hother (path : String) :
      t.makeDirectory cwd ⟨anchor, parts.reverse⟩ ≠ .error (.system .notFound path) := by
    rw [makeDirectory_of_isDirectory h]
    simp
  rw [makeDirectoriesFrom_eq (.inr hother), makeOrFind_of_isDirectory h]

/-! ## The directory above -/

theorem walk_cons (t : FileTree) (l : Location) (part : String) (rest : List String) :
    t.walk l (part :: rest) = match t.node? l with
      | none => .error .notFound
      | some (.file _) => .error .notDirectory
      | some .directory =>
        if part = ".." then t.walk l.dropLast rest
        else if maxNameBytes < part.utf8ByteSize then .error .nameTooLong
        else t.walk (l ++ [part]) rest := rfl

theorem walk_append (t : FileTree) (l : Location) (front back : List String) :
    t.walk l (front ++ back) = (t.walk l front).bind fun m => t.walk m back := by
  induction front generalizing l with
  | nil => rfl
  | cons part rest ih =>
    rw [List.cons_append, walk_cons, walk_cons]
    cases t.node? l with
    | none => rfl
    | some n =>
      cases n with
      | file content => rfl
      | directory =>
        dsimp only
        split
        · exact ih _
        · split
          · rfl
          · exact ih _

theorem walk_append_eq_ok : t.walk l (front ++ back) = .ok m ↔
    ∃ k, t.walk l front = .ok k ∧ t.walk k back = .ok m := by
  rw [walk_append]
  cases t.walk l front with
  | error trouble => simp [Except.bind]
  | ok k => simp [Except.bind]

/-- Every part is looked up in a directory. -/
theorem directory_of_walk_cons (h : t.walk l (part :: back) = .ok m) : t.node? l = some .directory := by
  unfold walk at h
  split at h
  · cases h
  · cases h
  · assumption

/-- A path is written shorter without its last part, but for the path without parts. -/
theorem size_text_le (anchor : Path.Anchor) (above : List String) (part : String) :
    (Path.text ⟨anchor, above⟩).utf8ByteSize ≤
      max 1 (Path.text ⟨anchor, above ++ [part]⟩).utf8ByteSize := by
  by_cases hnil : above = []
  · subst hnil
    have hanchor : (Path.text ⟨anchor, []⟩).utf8ByteSize ≤ max 1 anchor.text.utf8ByteSize := by
      cases anchor <;> decide
    have hpart : Path.text ⟨anchor, [] ++ [part]⟩ = anchor.text ++ part := by
      rw [List.nil_append, Path.text, if_neg (by simp), String.intercalate_singleton]
    rw [hpart, String.utf8ByteSize_append]
    omega
  · have htext (parts : List String) (hne : parts ≠ []) :
        Path.text ⟨anchor, parts⟩ = anchor.text ++ String.intercalate "/" parts :=
      if_neg fun h => hne h.2
    have hjoined : String.intercalate "/" (above ++ [part]) =
        String.intercalate "/" above ++ ("/" ++ part) := by
      have hlists := Text.intercalate_append '/' (x := above.map String.toList) (y := [part.toList])
        (by simpa using hnil) (by simp)
      rw [← String.toList_inj, String.toList_intercalate, List.map_append]
      simpa [String.toList_intercalate] using hlists
    simp only [htext _ hnil, htext (above ++ [part]) (by simp), hjoined, String.utf8ByteSize_append]
    omega

/-- What a path leads to stands in a directory. -/
theorem isDirectory_above (hnull : hasNull ⟨anchor, above ++ [part]⟩ = false)
    (h : t.locate cwd ⟨anchor, above ++ [part]⟩ = .ok l) :
    t.isDirectory cwd ⟨anchor, above⟩ = .ok true := by
  obtain ⟨hshort, hwalk⟩ := locate_eq_ok_iff.1 h
  have habove : ¬ maxPathBytes < (Path.text ⟨anchor, above⟩).utf8ByteSize := by
    have hle := size_text_le anchor above part
    unfold maxPathBytes at hshort ⊢
    omega
  obtain ⟨k, hk, hlast⟩ := walk_append_eq_ok.1 hwalk
  refine isDirectory_eq_true_iff.2
    ⟨?_, k, locate_eq_ok_iff.2 ⟨habove, hk⟩, directory_of_walk_cons hlast⟩
  simp only [hasNull, List.any_append, Bool.or_eq_false_iff] at hnull
  exact hnull.1

/-! ## Once more -/

/-- Where nothing above a directory is made, and the directory is not there and is not made, making it
fails and makes nothing. -/
theorem makeDirectoriesFrom_fails (hmake : ∀ v, t.makeDirectory cwd ⟨anchor, parts.reverse⟩ ≠ .ok v)
    (hthere : t.isDirectory cwd ⟨anchor, parts.reverse⟩ ≠ .ok true)
    (habove : (makeDirectoriesFrom cwd anchor parts.tail t).2 = t) :
    ∃ failure, makeDirectoriesFrom cwd anchor parts t = (.error failure, t) := by
  have hfails := makeOrFind_fails_iff.2 ⟨hmake, hthere⟩
  rcases makeDirectoriesFrom_cases cwd anchor parts t with heq | ⟨part, above, rfl, heq⟩
  · rwa [heq]
  · rw [heq]
    rw [List.tail_cons] at habove
    split
    · next failure u hrest =>
      rw [hrest] at habove
      exact ⟨failure, by rw [← habove]⟩
    · next u hrest =>
      rw [hrest] at habove
      rwa [← habove] at hfails ⊢

/-- Making directories that has failed fails again, and makes nothing more. -/
theorem makeDirectoriesFrom_fails_again
    (h : makeDirectoriesFrom cwd anchor parts t = (.error failure, u)) :
    ∃ failure, makeDirectoriesFrom cwd anchor parts u = (.error failure, u) := by
  induction parts generalizing failure with
  | nil =>
    rw [makeDirectoriesFrom_eq (.inl rfl)] at h
    obtain rfl := makeOrFind_eq_error h
    exact ⟨failure, by rw [makeDirectoriesFrom_eq (.inl rfl), h]⟩
  | cons part above ih =>
    rcases makeDirectoriesFrom_cases cwd anchor (part :: above) t with heq | ⟨_, _, ⟨⟩, heq⟩
    · obtain rfl := makeOrFind_eq_error (heq ▸ h)
      exact ⟨failure, h⟩
    · rw [heq] at h
      split at h
      · next other v hrest =>
        -- the directory above is not there, so nothing leads to this one
        obtain rfl := (Prod.mk.inj h).2
        obtain ⟨other, hother⟩ := ih hrest
        have habove : v.isDirectory cwd ⟨anchor, above.reverse⟩ ≠ .ok true := by
          intro hthere
          rw [makeDirectoriesFrom_of_isDirectory hthere] at hother
          cases hother
        refine makeDirectoriesFrom_fails (fun w hw => ?_) (fun hthere => ?_)
          (by rw [List.tail_cons, hother])
        · obtain ⟨hnull, l, hl, -⟩ := makeDirectory_eq_ok hw
          rw [List.reverse_cons] at hnull hl
          exact habove (isDirectory_above hnull hl)
        · obtain ⟨hnull, l, hl, -⟩ := isDirectory_eq_true_iff.1 hthere
          rw [List.reverse_cons] at hnull hl
          exact habove (isDirectory_above hnull hl)
      · next v hrest =>
        -- the directory above is there, so this one is refused once more
        obtain rfl := makeOrFind_eq_error h
        obtain ⟨hmake, hthere⟩ := makeOrFind_fails_iff.1 ⟨failure, h⟩
        refine makeDirectoriesFrom_fails hmake hthere ?_
        rw [List.tail_cons, makeDirectoriesFrom_of_isDirectory (isDirectory_of_made hrest)]

/-! ## A file and the directories above it -/

/-- Writes a file, where the directories above it that are missing were made. -/
def place (t : FileTree) (cwd : Location) (p : Path) (content : ByteArray) :
    Except Failure Unit × FileTree :=
  match t.makeDirectories cwd p.parent with
  | (.error failure, u) => (.error failure, u)
  | (.ok (), u) =>
    match u.write cwd p content with
    | .ok v => (.ok (), v)
    | .error failure => (.error failure, u)

/-- Making a directory fails, and something above it was made. -/
def PartlyMade (t : FileTree) (cwd : Location) (p : Path) : Prop :=
  ∃ failure u, t.makeDirectories cwd p = (.error failure, u) ∧ u ≠ t

theorem set_set (t : FileTree) (l : Location) (n : Node) : (t.set l n).set l n = t.set l n := by
  simp [set, List.filter_filter]

theorem write_again (h : t.write cwd p content = .ok u) : u.write cwd p content = .ok u := by
  have hstay := directoriesStay_write h
  obtain ⟨hnull, l, hl, hnode, rfl⟩ := write_eq_ok h
  have hne : l ≠ [] := by
    rintro rfl
    exact hnode rfl
  simp [write, find, hnull, hstay.locate hl, node?_set_self t hne, Except.map, set_set]

theorem makeDirectories_of_isDirectory (h : t.isDirectory cwd p = .ok true) :
    t.makeDirectories cwd p = (.ok (), t) := by
  obtain ⟨anchor, parts⟩ := p
  exact makeDirectoriesFrom_of_isDirectory (by rwa [List.reverse_reverse])

theorem isDirectory_of_makeDirectories (h : t.makeDirectories cwd p = (.ok (), u)) :
    u.isDirectory cwd p = .ok true := by
  have hmade := isDirectory_of_made h
  rwa [List.reverse_reverse] at hmade

/-- **A file that is written again**: nothing changes, and what comes of it is the same, unless making the
directory above it has failed behind something that was made. Then it fails again, perhaps otherwise. -/
theorem place_again {made : Except Failure Unit} (h : t.place cwd p content = (made, u)) :
    u.place cwd p content = (made, u) ∨
      t.PartlyMade cwd p.parent ∧ (∃ failure, made = .error failure) ∧
        ∃ failure, u.place cwd p content = (.error failure, u) := by
  unfold place at h
  split at h
  · next failure v hmade =>
    obtain ⟨rfl, rfl⟩ := Prod.mk.inj h
    obtain ⟨other, hother⟩ := makeDirectoriesFrom_fails_again hmade
    have hagain : v.place cwd p content = (.error other, v) := by
      unfold place makeDirectories
      rw [hother]
    by_cases hsame : v = t
    · subst hsame
      refine .inl ?_
      unfold place
      rw [hmade]
    · exact .inr ⟨⟨failure, v, hmade, hsame⟩, ⟨failure, rfl⟩, other, hagain⟩
  · next v hmade =>
    have hthere := isDirectory_of_makeDirectories hmade
    refine .inl ?_
    split at h
    · next w hwrite =>
      obtain ⟨rfl, rfl⟩ := Prod.mk.inj h
      unfold place
      rw [makeDirectories_of_isDirectory ((directoriesStay_write hwrite).isDirectory hthere)]
      dsimp only
      rw [write_again hwrite]
    · next failure hwrite =>
      obtain ⟨rfl, rfl⟩ := Prod.mk.inj h
      unfold place
      rw [makeDirectories_of_isDirectory hthere]
      dsimp only
      rw [hwrite]

theorem directoriesStay_place (t : FileTree) (cwd : Location) (p : Path) (content : ByteArray) :
    t.DirectoriesStay (t.place cwd p content).2 := by
  have hstay := directoriesStay_makeDirectories t cwd p.parent
  unfold place
  split
  · next hmade => rwa [hmade] at hstay
  · next hmade =>
    rw [hmade] at hstay
    split
    · next hwrite => exact hstay.trans (directoriesStay_write hwrite)
    · exact hstay

/-- Only the file that is written changes. -/
theorem content?_place (t : FileTree) {k : Location} (hk : k ≠ destination cwd p) :
    (t.place cwd p content).2.content? k = t.content? k := by
  have hsame := content?_makeDirectories t cwd p.parent k
  unfold place
  split
  · next hmade => rwa [hmade] at hsame
  · next hmade =>
    rw [hmade] at hsame
    split
    · next hwrite => exact (content?_write hwrite hk).trans hsame
    · exact hsame

/-! ## Further paths -/

/-- Every entry stands in a directory. -/
def Closed (t : FileTree) : Prop :=
  ∀ entry ∈ t.entries, entry.1 ≠ [] → t.node? entry.1.dropLast = some .directory

instance (t : FileTree) : Decidable t.Closed := inferInstanceAs (Decidable (∀ _ ∈ _, _ → _))

/-- The part is a name that a directory can have. -/
def Plain (part : String) : Prop := part ≠ ".." ∧ part.utf8ByteSize ≤ maxNameBytes

instance (part : String) : Decidable (Plain part) := inferInstanceAs (Decidable (_ ∧ _))

/-- What is missing of the directories to which a path leads are plain names. -/
def Grounded (t : FileTree) (cwd : Location) (p : Path) : Prop :=
  ∃ front back l, p.parts = front ++ back ∧ t.walk (startOf cwd p) front = .ok l ∧
    ∀ part ∈ back, Plain part

theorem Closed.directory_of_concat (h : t.Closed) (hnode : t.node? (l ++ [part]) ≠ none) :
    t.node? l = some .directory := by
  obtain ⟨n, hn⟩ := Option.ne_none_iff_exists'.1 hnode
  rw [node?, if_neg (by simp), List.lookup_eq_some_iff] at hn
  obtain ⟨front, back, hentries, -⟩ := hn
  have hparent := h (l ++ [part], n) (by rw [hentries]; simp) (by simp)
  rwa [List.dropLast_concat] at hparent

/-- Above what is there are directories. -/
theorem Closed.directory_of_append (h : t.Closed) (hne : back ≠ [])
    (hnode : t.node? (l ++ back) ≠ none) : t.node? l = some .directory := by
  induction back generalizing l with
  | nil => exact absurd rfl hne
  | cons part back ih =>
    rw [← List.singleton_append, ← List.append_assoc] at hnode
    have hpart : t.node? (l ++ [part]) ≠ none := by
      by_cases hnil : back = []
      · rwa [hnil, List.append_nil] at hnode
      · simp [ih hnil hnode]
    exact h.directory_of_concat hpart

/-- What is there is found. -/
theorem Closed.walk_eq_ok (h : t.Closed) (hplain : ∀ part ∈ back, Plain part)
    (hnode : t.node? (l ++ back) ≠ none) : t.walk l back = .ok (l ++ back) := by
  induction back generalizing l with
  | nil => rw [List.append_nil]; rfl
  | cons part back ih =>
    obtain ⟨hup, hsize⟩ := hplain part List.mem_cons_self
    rw [walk_cons, h.directory_of_append (by simp) hnode]
    dsimp only
    have hbehind : ∀ other ∈ back, Plain other :=
      fun other hother => hplain other (List.mem_cons_of_mem _ hother)
    rw [if_neg hup, if_neg (by omega), ih hbehind]
    · rw [List.append_assoc, List.singleton_append]
    · rwa [List.append_assoc, List.singleton_append]

/-- Among plain names nothing is refused, and no step leads up. -/
theorem walk_of_plain (t : FileTree) (hplain : ∀ part ∈ back, Plain part) :
    t.walk l back = .ok (l ++ back) ∨
      ∃ trouble, t.walk l back = .error trouble ∧ trouble ≠ .nameTooLong := by
  induction back generalizing l with
  | nil => exact .inl (by rw [List.append_nil]; rfl)
  | cons part back ih =>
    obtain ⟨hup, hsize⟩ := hplain part List.mem_cons_self
    rw [walk_cons]
    split
    · exact .inr ⟨.notFound, rfl, by decide⟩
    · exact .inr ⟨.notDirectory, rfl, by decide⟩
    · rw [if_neg hup, if_neg (by omega)]
      have hbehind : ∀ other ∈ back, Plain other :=
        fun other hother => hplain other (List.mem_cons_of_mem _ hother)
      have hrest := ih (l := l ++ [part]) hbehind
      rwa [List.append_assoc, List.singleton_append] at hrest

theorem foldl_enter_of_plain (hplain : ∀ part ∈ back, Plain part) : back.foldl enter l = l ++ back := by
  induction back generalizing l with
  | nil => rw [List.append_nil]; rfl
  | cons part back ih =>
    rw [List.foldl_cons, enter, if_neg (hplain part List.mem_cons_self).1,
      ih fun other hother => hplain other (List.mem_cons_of_mem _ hother), List.append_assoc,
      List.singleton_append]

theorem content?_eq_some_iff : t.content? l = some content ↔ t.node? l = some (.file content) := by
  unfold content?
  split
  · next other hnode => simp [hnode]
  · next hnode =>
    constructor
    · intro h
      cases h
    · exact fun h => absurd h (hnode content)

/-- Where plain names lead to no file, there is none. -/
theorem isFile_eq_false (hparts : p.parts = front ++ back)
    (hfront : t.walk (startOf cwd p) front = .ok l) (hplain : ∀ part ∈ back, Plain part)
    (hshort : ¬ maxPathBytes < p.text.utf8ByteSize) (hnone : t.content? (l ++ back) = none) :
    t.isFile cwd p = .ok false := by
  have hlocate : t.locate cwd p = t.walk l back := by
    rw [locate, if_neg hshort, hparts, walk_append, hfront, Except.bind]
  unfold isFile ask find
  rw [hlocate]
  split
  · rfl
  · rcases walk_of_plain t (l := l) hplain with hwalk | ⟨trouble, hwalk, htrouble⟩
    · rw [hwalk]
      cases hnode : t.node? (l ++ back) with
      | none => simp [Except.map, hnode]
      | some n =>
        cases n with
        | directory => simp [Except.map, hnode]
        | file content =>
          rw [content?_eq_some_iff.2 hnode] at hnone
          cases hnone
    · rw [hwalk]
      cases trouble <;> simp [Except.map] at htrouble ⊢

/-- What cannot be asked about is refused for a part that is too long. -/
theorem isFile_eq_error (h : t.isFile cwd p = .error failure) :
    hasNull p = false ∧ t.locate cwd p = .error .nameTooLong := by
  unfold isFile ask find at h
  split at h
  · cases h
  · next hnull =>
    refine ⟨by simpa using hnull, ?_⟩
    cases hl : t.locate cwd p with
    | ok l =>
      rw [hl] at h
      cases hn : t.node? l <;> simp [Except.map, hn] at h
    | error trouble =>
      rw [hl] at h
      cases trouble <;> simp [Except.map] at h ⊢

/-- Where the directories have stayed and what the file holds, a path that led to a file leads to it, and
one that was refused is refused. A path may only lead to a file that has led to none. -/
theorem isFile_stays (hstay : t.DirectoriesStay u)
    (hcontent : u.content? (destination cwd p) = t.content? (destination cwd p))
    (hfound : t.isFile cwd p ≠ .ok false) : u.isFile cwd p = t.isFile cwd p := by
  cases h : t.isFile cwd p with
  | ok present =>
    cases present with
    | false => exact absurd h hfound
    | true =>
      obtain ⟨content, hread⟩ := exists_read_of_isFile h
      obtain ⟨hnull, l, hl, hnode⟩ := read_eq_ok_iff.1 hread
      rw [← locate_eq_ok hl, content?_eq_some_iff.2 hnode, content?_eq_some_iff] at hcontent
      exact isFile_of_read (read_eq_ok_iff.2 ⟨hnull, l, hstay.locate hl, hcontent⟩)
  | error failure =>
    obtain ⟨hnull, hlocate⟩ := isFile_eq_error h
    have hlocate' : u.locate cwd p = .error .nameTooLong := by
      unfold locate at hlocate ⊢
      split
      · rfl
      · next hshort =>
        rw [if_neg hshort] at hlocate
        rw [hstay.walk_eq (by simp [hlocate]), hlocate]
    rw [← h]
    simp [isFile, ask, find, hnull, hlocate, hlocate', Except.map]

/-- **A path that is grounded leads to a file if it did so before**, where the directories have stayed and
what the file holds. -/
theorem Grounded.isFile_stays (hp : t.Grounded cwd p) (hclosed : t.Closed) (hstay : t.DirectoriesStay u)
    (hcontent : u.content? (destination cwd p) = t.content? (destination cwd p)) :
    u.isFile cwd p = t.isFile cwd p := by
  obtain ⟨front, back, l, hparts, hfront, hplain⟩ := hp
  have hdestination : destination cwd p = l ++ back := by
    rw [destination, hparts, List.foldl_append, ← FileTree.walk_eq_ok hfront, foldl_enter_of_plain hplain]
  by_cases hnull : hasNull p = true
  · simp [isFile, ask, hnull]
  rw [Bool.not_eq_true] at hnull
  by_cases hlong : maxPathBytes < p.text.utf8ByteSize
  · simp [isFile, ask, find, locate, refuse, hnull, hlong, Except.map]
  cases hold : t.content? (l ++ back) with
  | none =>
    have hnone : u.content? (l ++ back) = none := by rwa [← hdestination, hcontent, hdestination]
    rw [isFile_eq_false hparts hfront hplain hlong hold,
      isFile_eq_false hparts (hstay.walk hfront) hplain hlong hnone]
  | some content =>
    have hnode := content?_eq_some_iff.1 hold
    have hwalk : t.walk l back = .ok (l ++ back) := hclosed.walk_eq_ok hplain (by simp [hnode])
    have hlocate : t.locate cwd p = .ok (l ++ back) :=
      locate_eq_ok_iff.2 ⟨hlong, hparts ▸ walk_append_eq_ok.2 ⟨l, hfront, hwalk⟩⟩
    have hread : t.read cwd p = .ok content := read_eq_ok_iff.2 ⟨hnull, _, hlocate, hnode⟩
    exact FileTree.isFile_stays hstay hcontent (by simp [isFile_of_read hread])

/-- What can be read is grounded, and so is the path that it is found from. -/
theorem grounded_of_read {root : Path} {s : String} (h : t.read cwd (root / s) = .ok content)
    (hs : (Path.ofText s).anchor = .relative) : t.Grounded cwd root := by
  obtain ⟨-, l, hl, -⟩ := read_eq_ok_iff.1 h
  have hjoin : root / s = ⟨root.anchor, root.parts ++ (Path.ofText s).parts⟩ := if_pos hs
  rw [hjoin] at hl
  obtain ⟨k, hk, -⟩ := walk_append_eq_ok.1 (locate_eq_ok_iff.1 hl).2
  exact ⟨root.parts, [], k, (List.append_nil _).symm, hk, fun _ h => absurd h List.not_mem_nil⟩

/-- Plain names behind a grounded path make another one. -/
theorem Grounded.append (h : t.Grounded cwd ⟨anchor, parts⟩) (hplain : ∀ part ∈ back, Plain part) :
    t.Grounded cwd ⟨anchor, parts ++ back⟩ := by
  obtain ⟨front, rest, l, hparts, hfront, hrest⟩ := h
  have hparts : parts = front ++ rest := hparts
  refine ⟨front, rest ++ back, l, by simp [hparts], hfront, fun part hpart => ?_⟩
  exact (List.mem_append.1 hpart).elim (hrest part) (hplain part)

/-- A file that is not the one that is written is read as before. -/
theorem read_of_placed {file : Path} {old : ByteArray} (h : t.read cwd p = .ok old)
    (hne : destination cwd file ≠ destination cwd p) :
    (t.place cwd file content).2.read cwd p = .ok old := by
  obtain ⟨hnull, l, hl, hnode⟩ := read_eq_ok_iff.1 h
  refine read_eq_ok_iff.2 ⟨hnull, l, (directoriesStay_place t cwd file content).locate hl, ?_⟩
  rw [← content?_eq_some_iff] at hnode ⊢
  rw [content?_place t (by rwa [ne_comm, locate_eq_ok hl]), hnode]

end FileTree

end Testsmith
