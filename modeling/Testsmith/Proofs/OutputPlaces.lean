import Testsmith.Operation.Service
import Testsmith.Proofs.Footprints
import Testsmith.Proofs.PathSpellings

/-!
# Where a test is written

A test file is written neither over the service nor over the settings file of its project, however the
paths are spelled and wherever their steps up lead (`Service.output_places`). The name of a test has
`Test` in it, so it is no step up and not the name of a settings file, and it is longer than that of the
service. A service path that ends in a step up leads to a place that is less deep than its test file: the
directories of both may be others, but they have their steps up in the same places.
-/

namespace Testsmith

open FileTree

/-! ## Depths -/

theorem FileTree.enter_of_name {part : String} (h : part ≠ "..") (l : Location) :
    enter l part = l ++ [part] := if_neg h

/-- How deep a place is depends on where the steps up are, not on the names. -/
theorem FileTree.length_foldl_enter {l m : Location} {parts others : List String}
    (hlength : l.length = m.length) (h : parts.map (· == "..") = others.map (· == "..")) :
    (parts.foldl enter l).length = (others.foldl enter m).length := by
  induction parts generalizing l m others with
  | nil =>
    rw [List.map_nil, eq_comm, List.map_eq_nil_iff] at h
    rw [h]
    exact hlength
  | cons part parts ih =>
    cases others with
    | nil => cases h
    | cons other others =>
      rw [List.map_cons, List.map_cons, List.cons.injEq] at h
      rw [List.foldl_cons, List.foldl_cons]
      refine ih ?_ h.2
      have hup : part = ".." ↔ other = ".." := by
        rw [← beq_iff_eq, h.1, beq_iff_eq]
      unfold enter
      by_cases hpart : part = ".."
      · rw [if_pos hpart, if_pos (hup.1 hpart), List.length_dropLast, List.length_dropLast, hlength]
      · rw [if_neg hpart, if_neg (mt hup.2 hpart), List.length_append, List.length_append, hlength]
        rfl

namespace Layout

open Testsmith.Path

theorem anchor_inTestTree (s : String) : (inTestTree s).anchor = (Path.ofText s).anchor := by
  cases h : aboveMirrored? s with
  | none => rw [inTestTree_of_aboveMirrored?_eq_none h]
  | some above =>
    obtain ⟨below, -, htree⟩ := inTestTree_of_aboveMirrored? h
    rw [htree]
    rfl

/-- In the test tree a path has its steps up in the same places. -/
theorem steps_inTestTree (s : String) :
    (inTestTree s).parts.map (· == "..") = (Path.ofText s).parts.map (· == "..") := by
  rcases parts_inTestTree s with hsame | ⟨before, after, hmain, htest⟩
  · rw [hsame]
  · rw [hmain, htest, List.map_append, List.map_append]
    rfl

theorem toList_testName (name : String) : (testName name).toList =
    (splitName name.toList).1 ++ "Test".toList ++ (splitName name.toList).2 := String.toList_ofList

/-- The name of a test has a capital letter, so it is none of the names without. -/
theorem testName_ne {name other : String} (h : 'T' ∉ other.toList) : testName name ≠ other := by
  rintro rfl
  exact h (by simp [toList_testName])

theorem length_testName (name : String) : (testName name).length = name.length + 4 := by
  have hsplit := congrArg List.length (splitName_append name.toList)
  rw [List.length_append] at hsplit
  rw [← String.length_toList, ← String.length_toList, toList_testName, ← hsplit]
  simp
  omega

/-- A test is not called like its service. -/
theorem testName_ne_name (s : String) : testName (inTestTree s).name ≠ (Path.ofText s).name := by
  intro h
  rcases name_inTestTree_cases s with hsame | ⟨hmain, htest⟩
  · rw [hsame] at h
    have hlength := congrArg String.length h
    rw [length_testName] at hlength
    omega
  · rw [hmain, htest] at h
    exact absurd h (by decide)

end Layout

namespace Path

/-- What paths of one anchor become inside of another path. -/
theorem exists_join (root : Path) (anchor : Anchor) :
    ∃ start base, ∀ parts, root.join ⟨anchor, parts⟩ = ⟨start, base ++ parts⟩ := by
  by_cases h : anchor = .relative
  · exact ⟨root.anchor, root.parts, fun parts => if_pos h⟩
  · exact ⟨anchor, [], fun parts => if_neg h⟩

end Path

namespace Settings

theorem file_eq (root : Path) :
    file root = ⟨root.anchor, (root.parts ++ [".testloop"]) ++ ["testloop.toml"]⟩ := by
  have hdirectory : Path.ofText ".testloop" = ⟨.relative, [".testloop"]⟩ := by decide
  have hfile : Path.ofText "testloop.toml" = ⟨.relative, ["testloop.toml"]⟩ := by decide
  show (root.join (Path.ofText ".testloop")).join (Path.ofText "testloop.toml") = _
  rw [hdirectory, hfile]
  rfl

end Settings

namespace Service

open Layout Testsmith.Path

variable {servicePath path : String}

/-- A service and its test: from one start, with directories that have their steps up in the same places,
and with different names. -/
theorem exists_output (h : Layout.testPath servicePath = .ok path) (root : Path) :
    ∃ start dirs others name, root / servicePath = ⟨start, dirs ++ [name]⟩ ∧
      root / path = ⟨start, others ++ [testName (inTestTree servicePath).name]⟩ ∧
      others.map (· == "..") = dirs.map (· == "..") ∧
      testName (inTestTree servicePath).name ≠ name := by
  have hne := exists_testPath_iff.1 ⟨path, h⟩
  obtain ⟨dirs, hdirs⟩ := exists_dirs hne
  obtain ⟨others, htree⟩ := exists_dirs (mt parts_inTestTree_eq_nil_iff.1 hne)
  have hsteps := steps_inTestTree servicePath
  rw [congrArg Path.parts hdirs, congrArg Path.parts htree, List.map_append, List.map_append] at hsteps
  rw [testPath_of_inTestTree htree] at h
  obtain ⟨start, base, hjoin⟩ := Path.exists_join root (Path.ofText servicePath).anchor
  refine ⟨start, base ++ dirs, base ++ others, (Path.ofText servicePath).name, ?_, ?_, ?_,
    testName_ne_name servicePath⟩
  · have hservice : root / servicePath =
        ⟨start, base ++ (dirs ++ [(Path.ofText servicePath).name])⟩ :=
      (congrArg root.join hdirs).trans (hjoin _)
    rw [hservice, List.append_assoc]
  · have htest : root / path = root.join (Path.ofText path) := rfl
    rw [htest, ← Except.ok.inj h, ofText_testPath htree, anchor_inTestTree, hjoin, List.append_assoc]
  · rw [List.map_append, List.map_append, (List.append_inj' hsteps (by simp)).1]

theorem destination_concat {start : Anchor} {dirs : List String} {name : String} (h : name ≠ "..")
    (cwd : Location) : destination cwd ⟨start, dirs ++ [name]⟩ =
      dirs.foldl enter (startOf cwd ⟨start, dirs⟩) ++ [name] := by
  rw [destination, List.foldl_append]
  exact enter_of_name h _

/-- What names that are no steps up lead to is different for different names. -/
theorem destination_ne {start start' : Anchor} {dirs dirs' : List String} {name name' : String}
    (h : name ≠ "..") (h' : name' ≠ "..") (hne : name ≠ name') (cwd : Location) :
    destination cwd ⟨start, dirs ++ [name]⟩ ≠ destination cwd ⟨start', dirs' ++ [name']⟩ := by
  rw [destination_concat h, destination_concat h']
  intro hsame
  exact hne (List.cons.inj (List.append_inj' hsame (by simp)).2).1

/-- **A test is written neither over its service nor over the settings file.** -/
theorem output_places (h : Layout.testPath servicePath = .ok path) (root : Path) (cwd : Location) :
    destination cwd (root / path) ≠ destination cwd (root / servicePath) ∧
      destination cwd (root / path) ≠ destination cwd (Settings.file root) := by
  obtain ⟨start, dirs, others, name, hservice, hpath, hsteps, hname⟩ := exists_output h root
  have hnoUp : testName (inTestTree servicePath).name ≠ ".." := testName_ne (by decide)
  have hnoSettings : testName (inTestTree servicePath).name ≠ "testloop.toml" :=
    testName_ne (by decide)
  rw [hpath]
  constructor
  · rw [hservice]
    by_cases hup : name = ".."
    · -- the service leads out of a directory that is as deep as the one that the test is in
      intro hsame
      have hdepth := length_foldl_enter (l := startOf cwd ⟨start, others⟩)
        (m := startOf cwd ⟨start, dirs⟩) rfl hsteps
      have hlength := congrArg List.length hsame
      rw [destination_concat hnoUp, destination, List.foldl_append, hup, List.length_append,
        hdepth] at hlength
      have hout : (List.foldl enter (List.foldl enter (startOf cwd ⟨start, dirs ++ [".."]⟩) dirs)
          [".."]).length = (dirs.foldl enter (startOf cwd ⟨start, dirs⟩)).length - 1 :=
        List.length_dropLast
      rw [hout, List.length_singleton] at hlength
      omega
    · exact destination_ne hnoUp hup hname cwd
  · rw [Settings.file_eq root]
    exact destination_ne hnoUp (by decide) hnoSettings cwd

end Service

end Testsmith
