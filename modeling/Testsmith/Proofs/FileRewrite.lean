import Testsmith.Proofs.Actions

/-!
# Rewriting a file

What was written into a file is read again (`read_of_written`), and a file that can be read can be
written. The reason is that a walk looks at directories only: where they have stayed, as they do when a
file is put in a place that is no directory, paths lead to the same places (`DirectoriesStay.locate`).
Texts are read with one kind of line end, so a text without carriage returns comes back as it was written
(`decode_encode_of_not_mem`).
-/

namespace Testsmith

namespace FileTree

variable {t u v : FileTree} {cwd l m : Location} {p : Path} {content : ByteArray}

/-! ## Directories that stay -/

/-- All directories of a tree are directories of another one. -/
def DirectoriesStay (t u : FileTree) : Prop :=
  ∀ k, t.node? k = some .directory → u.node? k = some .directory

theorem DirectoriesStay.trans (h : t.DirectoriesStay u) (h' : u.DirectoriesStay v) :
    t.DirectoriesStay v :=
  fun k hk => h' k (h k hk)

/-- What is put in a place that is no directory takes none away. -/
theorem directoriesStay_set {n : Node} (h : t.node? l ≠ some .directory) :
    t.DirectoriesStay (t.set l n) := by
  intro k hk
  have hkl : k ≠ l := by
    rintro rfl
    exact h hk
  rw [node?_set_of_ne t hkl, hk]

/-- A walk that arrives, or is refused for a name, is the same in a tree that has all the directories. -/
theorem DirectoriesStay.walk_eq (h : t.DirectoriesStay u) {parts : List String}
    (hw : ∀ trouble, t.walk l parts = .error trouble → trouble = .nameTooLong) :
    u.walk l parts = t.walk l parts := by
  induction parts generalizing l with
  | nil => rfl
  | cons part rest ih =>
    unfold FileTree.walk at hw ⊢
    cases hl : t.node? l with
    | none => rw [hl] at hw; cases hw _ rfl
    | some n =>
      cases n with
      | file content => rw [hl] at hw; cases hw _ rfl
      | directory =>
        rw [hl] at hw
        rw [h l hl]
        dsimp only at hw ⊢
        split
        · next hp => rw [if_pos hp] at hw; exact ih hw
        · next hp =>
          rw [if_neg hp] at hw
          split
          · rfl
          · next hshort => rw [if_neg hshort] at hw; exact ih hw

theorem DirectoriesStay.walk (h : t.DirectoriesStay u) {parts : List String}
    (hw : t.walk l parts = .ok m) : u.walk l parts = .ok m :=
  (h.walk_eq fun trouble htrouble => by rw [hw] at htrouble; cases htrouble).trans hw

theorem locate_eq_ok_iff : t.locate cwd p = .ok l ↔
    ¬ maxPathBytes < p.text.utf8ByteSize ∧ t.walk (startOf cwd p) p.parts = .ok l := by
  unfold locate
  split
  · next hlong => simp [hlong]
  · next hshort => simp [hshort]

/-- Where the directories have stayed, paths lead to the same places. -/
theorem DirectoriesStay.locate (h : t.DirectoriesStay u) (hl : t.locate cwd p = .ok l) :
    u.locate cwd p = .ok l := by
  obtain ⟨hshort, hwalk⟩ := locate_eq_ok_iff.1 hl
  exact locate_eq_ok_iff.2 ⟨hshort, h.walk hwalk⟩

theorem find_eq_ok_iff {n : Option Node} : t.find cwd p = .ok (l, n) ↔
    t.locate cwd p = .ok l ∧ t.node? l = n := by
  unfold find
  cases t.locate cwd p with
  | error trouble => simp [Except.map]
  | ok k =>
    simp only [Except.map, Except.ok.injEq, Prod.mk.injEq]
    constructor
    · rintro ⟨rfl, hnode⟩
      exact ⟨rfl, hnode⟩
    · rintro ⟨rfl, hnode⟩
      exact ⟨rfl, hnode⟩

/-! ## Reading and writing -/

theorem read_eq_ok_iff :
    t.read cwd p = .ok content ↔
      hasNull p = false ∧ ∃ l, t.locate cwd p = .ok l ∧ t.node? l = some (.file content) := by
  unfold read find refuse
  cases hn : hasNull p with
  | true => simp
  | false =>
    cases hl : t.locate cwd p with
    | error trouble => simp [Except.map]
    | ok l =>
      cases hc : t.node? l with
      | none => simp [Except.map, hc]
      | some n => cases n <;> simp [Except.map, hc]

/-- What can be read is a file. -/
theorem isFile_of_read (h : t.read cwd p = .ok content) : t.isFile cwd p = .ok true := by
  obtain ⟨hn, l, hl, hc⟩ := read_eq_ok_iff.1 h
  simp [isFile, ask, find, hn, hl, hc, Except.map]

theorem exists_read_of_isFile (h : t.isFile cwd p = .ok true) :
    ∃ content, t.read cwd p = .ok content := by
  unfold isFile ask at h
  unfold read
  split at h
  · cases h
  · next hnull =>
    rw [if_neg hnull]
    split at h
    · next n hfind =>
      rw [hfind]
      cases n with
      | directory => cases h
      | file content => exact ⟨content, rfl⟩
    · cases h
    · cases h
    · cases h

/-- A file is written in a place that is reached and is no directory. -/
theorem write_eq_ok (h : t.write cwd p content = .ok u) :
    hasNull p = false ∧ ∃ l, t.locate cwd p = .ok l ∧ t.node? l ≠ some .directory ∧
      u = t.set l (.file content) := by
  unfold write refuse at h
  split at h
  · cases h
  · next hnull =>
    refine ⟨by simpa using hnull, ?_⟩
    split at h
    · cases h
    · next hfind =>
      obtain ⟨hl, hnode⟩ := find_eq_ok_iff.1 hfind
      exact ⟨_, hl, by simp [hnode], (Except.ok.inj h).symm⟩
    · next hfind =>
      obtain ⟨hl, hnode⟩ := find_eq_ok_iff.1 hfind
      split at h
      · exact ⟨_, hl, by simp [hnode], (Except.ok.inj h).symm⟩
      · cases h
      · cases h
    · cases h

theorem directoriesStay_write (h : t.write cwd p content = .ok u) : t.DirectoriesStay u := by
  obtain ⟨-, l, -, hnode, rfl⟩ := write_eq_ok h
  exact directoriesStay_set hnode

/-- What was written into a file is read again, also where there was none before. -/
theorem read_of_written (h : t.write cwd p content = .ok u) : u.read cwd p = .ok content := by
  have hstay := directoriesStay_write h
  obtain ⟨hnull, l, hl, hnode, rfl⟩ := write_eq_ok h
  have hne : l ≠ [] := by
    rintro rfl
    exact hnode rfl
  exact read_eq_ok_iff.2 ⟨hnull, l, hstay.locate hl, node?_set_self t hne _⟩

/-- A file that can be read can be written, and then holds what was written. -/
theorem write_of_read {old : ByteArray} (h : t.read cwd p = .ok old) (new : ByteArray) :
    ∃ u, t.write cwd p new = .ok u ∧ u.read cwd p = .ok new := by
  obtain ⟨hn, l, hl, hc⟩ := read_eq_ok_iff.1 h
  have hwrite : t.write cwd p new = .ok (t.set l (.file new)) := by
    simp [write, find, hn, hl, hc, Except.map]
  exact ⟨_, hwrite, read_of_written hwrite⟩

/-- A text is the content of a file, decoded. -/
theorem text_eq_ok_iff {text : String} :
    t.text cwd p = .ok text ↔
      ∃ content, t.read cwd p = .ok content ∧ Action.decode content = .ok text := by
  unfold FileTree.text
  cases hr : t.read cwd p with
  | error failure => simp [Except.bind]
  | ok content => simp [Except.bind]

theorem text_of_read {text : String} (hread : t.read cwd p = .ok content)
    (hdecode : Action.decode content = .ok text) : t.text cwd p = .ok text :=
  text_eq_ok_iff.2 ⟨content, hread, hdecode⟩

end FileTree

/-! ## Line ends -/

namespace Text

theorem unifyNewlines_of_not_mem {text : List Char} (h : '\r' ∉ text) : unifyNewlines text = text := by
  induction text with
  | nil => rfl
  | cons c rest ih =>
    have hc : c ≠ '\r' := fun e => h (e ▸ List.mem_cons_self)
    have hrest : '\r' ∉ rest := fun e => h (List.mem_cons_of_mem c e)
    unfold unifyNewlines
    split
    · contradiction
    · next heq => exact absurd (List.cons.inj heq).1 hc
    · next heq => exact absurd (List.cons.inj heq).1 hc
    · next heq =>
      obtain ⟨rfl, rfl⟩ := List.cons.inj heq
      rw [ih hrest]

theorem not_mem_unifyNewlines (text : List Char) : '\r' ∉ unifyNewlines text := by
  fun_induction unifyNewlines text with
  | case1 => exact List.not_mem_nil
  | case2 rest ih => simpa using ih
  | case3 rest _ ih => simpa using ih
  | case4 c rest hcrlf hcr ih =>
    intro h
    rcases List.mem_cons.1 h with rfl | h
    · exact hcr rfl
    · exact ih h

end Text

namespace Action

theorem decode_of_valid {content : ByteArray} {s : String} (h : String.fromUTF8? content = some s) :
    decode content = .ok (String.ofList (Text.unifyNewlines s.toList)) := by
  unfold decode
  rw [h]

theorem fromUTF8?_toUTF8 (s : String) : String.fromUTF8? s.toUTF8 = some s := by
  have h : s.toUTF8.IsValidUTF8 := s.isValidUTF8
  rw [String.fromUTF8?, dif_pos h]
  rfl

/-- A written text is read with its line ends unified. -/
theorem decode_encode (s : String) :
    decode s.toUTF8 = .ok (String.ofList (Text.unifyNewlines s.toList)) :=
  decode_of_valid (fromUTF8?_toUTF8 s)

/-- A text without carriage returns is read as it was written. -/
theorem decode_encode_of_not_mem {s : String} (h : '\r' ∉ s.toList) : decode s.toUTF8 = .ok s := by
  rw [decode_encode, Text.unifyNewlines_of_not_mem h, String.ofList_toList]

/-- No carriage return is ever read. -/
theorem not_mem_of_decode {content : ByteArray} {text : String} (h : decode content = .ok text) :
    '\r' ∉ text.toList := by
  unfold decode at h
  split at h
  · cases h
    rw [String.toList_ofList]
    exact Text.not_mem_unifyNewlines _
  · cases h

end Action

end Testsmith
