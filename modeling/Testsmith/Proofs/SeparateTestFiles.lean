import Testsmith.Proofs.MirroredPaths

/-!
# Test files of one source root

The services below one `main` directory have test files below the `test` directory beside it, each one its
own. What stands behind that directory in a path in normal form is told by its parts
(`intercalate_partsOf_of_normal`), and the parts of a test file are those of its service, but for the
name, from which the name of the service is read back (`testName_inj`). A test file lies below `test`
where every path of a service lies below `main`, so it is no service itself. The first `/main/` must be the
one of the root, since the first one is the one that is mirrored (`inTestTree_below`).
-/

namespace Testsmith

namespace Text

theorem beforeFirst?_append {word text before : List Char} (h : beforeFirst? word text = some before)
    (more : List Char) : beforeFirst? word (text ++ more) = some before := by
  induction text generalizing before with
  | nil => cases h
  | cons c rest ih =>
    unfold beforeFirst? at h
    rw [List.cons_append]
    unfold beforeFirst?
    split at h
    · next hprefix =>
      have hlonger := (List.isPrefixOf_iff_prefix.1 hprefix).trans (List.prefix_append _ more)
      exact (if_pos (List.isPrefixOf_iff_prefix.2 hlonger)).trans h
    · next hprefix =>
      obtain ⟨front, hfront, rfl⟩ := Option.map_eq_some_iff.1 h
      obtain ⟨after, hrest, -⟩ := replaceFirst_of_beforeFirst? word hfront
      -- the word stands in `rest`, so it is too short to reach over the end of the text
      have hnot : ¬ word.isPrefixOf (c :: (rest ++ more)) = true := by
        intro hover
        have hlength : word.length ≤ (c :: rest).length := by
          rw [hrest]
          simp
          omega
        refine hprefix (List.isPrefixOf_iff_prefix.2 ?_)
        exact List.prefix_of_prefix_length_le (List.isPrefixOf_iff_prefix.1 hover)
          (List.prefix_append (c :: rest) more) hlength
      rw [if_neg hnot, ih hfront]
      rfl

end Text

namespace Layout

open Testsmith.Path

variable {root v w : String}

/-- A path below a directory of some name, which stands in a root. -/
def under (root word v : String) : String := root ++ "/" ++ word ++ "/" ++ v

theorem toList_under (root word v : String) : (under root word v).toList =
    root.toList ++ '/' :: (word.toList ++ '/' :: v.toList) := by
  simp [under]

/-- The parts of a path below a directory are those of the root, the directory, and those behind it. -/
theorem ofText_under (root v : String) {word : String} (hword : IsPart word.toList) :
    Path.ofText (under root word v) = ⟨anchorOf (root.toList ++ ['/']),
      (partsOf root.toList).map String.ofList ++ word :: (partsOf v.toList).map String.ofList⟩ := by
  obtain ⟨c, rest, hc⟩ := List.exists_cons_of_ne_nil hword.ne_nil
  have hanchor := anchorOf_append_slash (hword.no_slash c (by simp [hc])) root.toList
    (rest ++ '/' :: v.toList)
  unfold Path.ofText
  rw [toList_under, partsOf_of_middle word.toList hword, hc, List.cons_append, hanchor, ← hc,
    List.map_append, List.map_cons, String.ofList_toList]

/-- The source root is the first `main` of the paths below it. -/
def IsSourceRoot (root : String) : Prop :=
  Text.beforeFirst? "/main/".toList (root ++ "/main/").toList = some root.toList

instance (root : String) : Decidable (IsSourceRoot root) :=
  inferInstanceAs (Decidable (_ = _))

/-- What lies below a source root is mirrored there. -/
theorem inTestTree_under (hroot : IsSourceRoot root) (v : String) :
    inTestTree (under root "main" v) = Path.ofText (under root "test" v) := by
  have happend : (under root "main" v).toList = (root ++ "/main/").toList ++ v.toList := by
    simp [toList_under]
  have hfirst := Text.beforeFirst?_append hroot v.toList
  rw [← happend] at hfirst
  obtain ⟨after, hmain, hnew⟩ := Text.replaceFirst_of_beforeFirst? "/test/".toList hfirst
  have hafter : after = v.toList := by
    rw [toList_under, List.append_cancel_left_eq] at hmain
    have hrest : "/main/".toList ++ v.toList = "/main/".toList ++ after := hmain
    exact (List.append_cancel_left hrest).symm
  have htest : root.toList ++ ("/test/".toList ++ after) = (under root "test" v).toList := by
    rw [toList_under, hafter]
    rfl
  rw [inTestTree, hnew, htest, String.ofList_toList]

/-- In a path in normal form, what stands behind a source root is its parts with slashes in between. -/
theorem splitOn_of_normal_under
    (hnormal : (Path.ofText (under root "main" v)).text = under root "main" v) :
    Text.splitOn (· == '/') v.toList = partsOf v.toList := by
  have hmain : IsPart "main".toList := ⟨by decide, by decide, by decide⟩
  have hne : (Path.ofText (under root "main" v)).parts ≠ [] := by simp [ofText_under root v hmain]
  have hwritten : (under root "main" v).toList = root.toList ++ ("/main/".toList ++ v.toList) :=
    toList_under root "main" v
  obtain ⟨above, below, -, hparts, -, hbelow⟩ := exists_parts_of_main hnormal hne hwritten
  have hpieces : Text.splitOn (· == '/') v.toList =
      Anchor.relative.pieces ++ below.map String.toList := hbelow
  rw [hbelow]
  refine (partsOf_of_splitOn hpieces fun part hpart => ?_).symm
  obtain ⟨s, hs, rfl⟩ := List.mem_map.1 hpart
  have hmem : s ∈ (Path.ofText (under root "main" v)).parts := by
    rw [hparts]
    simp [hs]
  exact isPart_of_mem_parts hmem

theorem partsOf_ne_nil_of_normal (h : (Path.ofText (under root "main" v)).text = under root "main" v) :
    partsOf v.toList ≠ [] := by
  rw [← splitOn_of_normal_under h]
  exact Text.splitOn_ne_nil _ _

theorem eq_of_partsOf_eq (hv : (Path.ofText (under root "main" v)).text = under root "main" v)
    (hw : (Path.ofText (under root "main" w)).text = under root "main" w)
    (h : partsOf v.toList = partsOf w.toList) : v = w := by
  rw [← splitOn_of_normal_under hv, ← splitOn_of_normal_under hw] at h
  rw [← String.toList_inj, ← Text.intercalate_splitOn '/' v.toList, h, Text.intercalate_splitOn]

/-- A path in normal form below a source root: the directories and the name behind the root, and the test
file with the same directories and the name of the test. -/
theorem exists_testPath_under (hroot : IsSourceRoot root)
    (hnormal : (Path.ofText (under root "main" v)).text = under root "main" v) :
    ∃ dirs name p, (partsOf v.toList).map String.ofList = dirs ++ [name] ∧
      (Path.ofText (under root "main" v)).name = name ∧
      testPath (under root "main" v) = .ok p.text ∧ Path.ofText p.text = p ∧
      p = ⟨anchorOf (root.toList ++ ['/']),
        (partsOf root.toList).map String.ofList ++ "test" :: (dirs ++ [testName name])⟩ := by
  have hmain : IsPart "main".toList := ⟨by decide, by decide, by decide⟩
  have htest : IsPart "test".toList := ⟨by decide, by decide, by decide⟩
  have hne : (partsOf v.toList).map String.ofList ≠ [] := by
    simpa using partsOf_ne_nil_of_normal hnormal
  obtain ⟨dirs, name, hbelow⟩ := (List.eq_nil_or_concat _).resolve_left hne
  rw [List.concat_eq_append] at hbelow
  have htree := inTestTree_under hroot v
  rw [ofText_under root v htest, hbelow, ← List.cons_append, ← List.append_assoc] at htree
  refine ⟨dirs, name, _, hbelow, ?_, testPath_of_inTestTree htree, ofText_testPath htree, ?_⟩
  · rw [ofText_under root v hmain, hbelow, ← List.cons_append, ← List.append_assoc, Path.name,
      List.getLastD_concat]
  · simp

/-- **Services of one source root have test files of their own.** The paths of two different services
below the root are in normal form, and their names do not end in a point. Their test files are different
paths in normal form, and neither of them is a path below the `main` directory of the root, however that
one is spelled. -/
theorem test_files_separate (root v w : String) (hroot : IsSourceRoot root)
    (hv : (Path.ofText (under root "main" v)).text = under root "main" v)
    (hw : (Path.ofText (under root "main" w)).text = under root "main" w)
    (hvpoint : (Path.ofText (under root "main" v)).name.toList.getLast? ≠ some '.')
    (hwpoint : (Path.ofText (under root "main" w)).name.toList.getLast? ≠ some '.') (hne : v ≠ w) :
    ∃ forV forW, testPath (under root "main" v) = .ok forV ∧ testPath (under root "main" w) = .ok forW ∧
      (Path.ofText forV).text = forV ∧ (Path.ofText forW).text = forW ∧
      Path.ofText forV ≠ Path.ofText forW ∧
      ∀ u, Path.ofText forV ≠ Path.ofText (under root "main" u) ∧
        Path.ofText forW ≠ Path.ofText (under root "main" u) := by
  have hmain : IsPart "main".toList := ⟨by decide, by decide, by decide⟩
  obtain ⟨dirsV, nameV, p, hbelowV, hnameV, hpathV, hreadV, hp⟩ := exists_testPath_under hroot hv
  obtain ⟨dirsW, nameW, q, hbelowW, hnameW, hpathW, hreadW, hq⟩ := exists_testPath_under hroot hw
  refine ⟨p.text, q.text, hpathV, hpathW, by rw [hreadV], by rw [hreadW], ?_, fun u => ⟨?_, ?_⟩⟩
  · rw [hreadV, hreadW, hp, hq]
    intro hsame
    simp only [Path.mk.injEq, true_and, List.append_cancel_left_eq, List.cons.injEq] at hsame
    obtain ⟨hdirs, hnames⟩ := List.append_inj' hsame rfl
    rw [hnameV] at hvpoint
    rw [hnameW] at hwpoint
    have hname : nameV = nameW := testName_inj hvpoint hwpoint (List.cons.inj hnames).1
    refine hne (eq_of_partsOf_eq hv hw ?_)
    rw [hdirs, hname, ← hbelowW] at hbelowV
    exact List.map_inj_right (fun _ _ => String.ofList_inj.1) |>.1 hbelowV
  · rw [hreadV, hp, ofText_under root u hmain]
    simp
  · rw [hreadW, hq, ofText_under root u hmain]
    simp

/-- Two services of one root whose packages have a `main` of their own; one of them is called like the
test of the other one. -/
theorem test_files_separate_nested :
    IsSourceRoot "app/src" ∧
    ∃ forV forW, testPath "app/src/main/com/main/Foo.kt" = .ok forV ∧
      testPath "app/src/main/com/main/FooTest.kt" = .ok forW ∧
      (Path.ofText forV).text = forV ∧ (Path.ofText forW).text = forW ∧
      Path.ofText forV ≠ Path.ofText forW ∧
      ∀ u, Path.ofText forV ≠ Path.ofText (under "app/src" "main" u) ∧
        Path.ofText forW ≠ Path.ofText (under "app/src" "main" u) :=
  ⟨by decide +kernel, test_files_separate "app/src" "com/main/Foo.kt" "com/main/FooTest.kt"
    (by decide +kernel) (by decide +kernel) (by decide +kernel) (by decide +kernel) (by decide +kernel)
    (by decide)⟩

end Layout

end Testsmith
