import Testsmith.Path.Layout
import Testsmith.Proofs.Scanning

/-!
# Paths and their texts

A path is read back from its text (`Path.ofText_text`), if its parts are such as a text can give
(`Path.IsPart`). In the test tree a path has the same parts but for one `main`
(`Layout.parts_inTestTree`), so a service file has a test file exactly where its path has a last part.

The class that a test file is named for is what was put into its path: the stem of the service file with
a word behind it (`Layout.className_testPath`). Two names are left out here. A point at the end of a name
belongs to its stem, but before a further word it starts a suffix; and a service path that ends in
`main/` names another file in the test tree.
-/

namespace Testsmith

/-! ## Separators and words -/

namespace Text

variable {isSep : Char → Bool}

theorem splitOn_append_cons {c : Char} (hc : isSep c = true) (x y : List Char) :
    splitOn isSep (x ++ c :: y) = splitOn isSep x ++ splitOn isSep y := by
  induction x with
  | nil => simp [splitOn, hc]
  | cons d x ih =>
    obtain ⟨part, parts, hparts⟩ := List.exists_cons_of_ne_nil (splitOn_ne_nil isSep x)
    rw [List.cons_append, splitOn, splitOn, ih, hparts]
    split <;> rfl

theorem splitOn_of_forall {word : List Char} (h : ∀ c ∈ word, isSep c = false) :
    splitOn isSep word = [word] := by
  induction word with
  | nil => rfl
  | cons c word ih =>
    unfold splitOn
    rw [if_neg (by simp [h c List.mem_cons_self]),
      ih fun d hd => h d (List.mem_cons_of_mem c hd)]

/-- The first occurrence of a word is replaced, and a text without one stays as it is. -/
theorem replaceFirst_eq (word new text : List Char) : replaceFirst word new text = text ∨
    ∃ before after, text = before ++ (word ++ after) ∧
      replaceFirst word new text = before ++ (new ++ after) := by
  induction text with
  | nil => exact .inl rfl
  | cons c rest ih =>
    unfold replaceFirst
    split
    · next h =>
      obtain ⟨after, heq⟩ := List.isPrefixOf_iff_prefix.1 h
      refine .inr ⟨[], after, heq.symm, ?_⟩
      rw [← heq, List.drop_left]
      rfl
    · rcases ih with h | ⟨before, after, hrest, hnew⟩
      · exact .inl (by rw [h])
      · exact .inr ⟨c :: before, after, by rw [hrest]; rfl, by rw [hnew]; rfl⟩

end Text

/-! ## Parts -/

namespace Path

/-- A part as paths have them: not empty, not a single point, and without slashes. -/
structure IsPart (part : List Char) : Prop where
  ne_nil : part ≠ []
  ne_point : part ≠ ['.']
  no_slash : ∀ c ∈ part, (c == '/') = false

theorem isPart_of_mem_partsOf {written part : List Char} (h : part ∈ partsOf written) :
    IsPart part := by
  unfold partsOf at h
  rw [List.mem_filter, Bool.and_eq_true, decide_eq_true_iff, decide_eq_true_iff] at h
  exact ⟨h.2.1, h.2.2, Text.forall_mem_splitOn _ _ part h.1⟩

theorem isPart_of_mem_parts {s part : String} (h : part ∈ (ofText s).parts) :
    IsPart part.toList := by
  obtain ⟨chars, hchars, rfl⟩ := List.mem_map.1 h
  rw [String.toList_ofList]
  exact isPart_of_mem_partsOf hchars

theorem partsOf_append_slash (x y : List Char) :
    partsOf (x ++ '/' :: y) = partsOf x ++ partsOf y := by
  unfold partsOf
  rw [Text.splitOn_append_cons rfl, List.filter_append]

theorem IsPart.partsOf_eq {part : List Char} (h : IsPart part) : partsOf part = [part] := by
  unfold partsOf
  rw [Text.splitOn_of_forall h.no_slash]
  simp [h.ne_nil, h.ne_point]

theorem partsOf_intercalate {parts : List (List Char)} (h : ∀ part ∈ parts, IsPart part) :
    partsOf (['/'].intercalate parts) = parts := by
  induction parts with
  | nil => rfl
  | cons part parts ih =>
    have hpart := (h part List.mem_cons_self).partsOf_eq
    have hparts := ih fun other hother => h other (List.mem_cons_of_mem part hother)
    cases parts with
    | nil => simpa using hpart
    | cons next parts =>
      rw [List.intercalate_cons_cons, List.append_assoc, List.singleton_append, partsOf_append_slash,
        hpart, hparts]
      rfl

/-- What is written for parts does not start with a slash. -/
theorem head?_intercalate {parts : List (List Char)} (h : ∀ part ∈ parts, IsPart part) :
    ∀ c, (['/'].intercalate parts).head? = some c → (c == '/') = false := by
  intro c hc
  cases parts with
  | nil => cases hc
  | cons part parts =>
    have hpart := h part List.mem_cons_self
    obtain ⟨d, rest, rfl⟩ := List.exists_cons_of_ne_nil hpart.ne_nil
    have hd : d = c := by
      cases parts with
      | nil => simpa using hc
      | cons next parts => simpa [List.intercalate_cons_cons] using hc
    exact hd ▸ hpart.no_slash d List.mem_cons_self

theorem anchorOf_append (anchor : Anchor) {rest : List Char}
    (h : ∀ c, rest.head? = some c → (c == '/') = false) :
    anchorOf (anchor.text.toList ++ rest) = anchor := by
  have hslashes : ∀ c ∈ anchor.text.toList, (c == '/') = true := by
    cases anchor <;> decide
  unfold anchorOf
  rw [Text.takeWhile_append hslashes h]
  cases anchor <;> rfl

theorem partsOf_anchor (anchor : Anchor) (rest : List Char) :
    partsOf (anchor.text.toList ++ rest) = partsOf rest := by
  have hslash (x : List Char) : partsOf ('/' :: x) = partsOf x := partsOf_append_slash [] x
  cases anchor with
  | relative => rfl
  | root => exact hslash rest
  | doubleRoot => exact (hslash _).trans (hslash rest)

/-- **A path is read back from its text.** -/
theorem ofText_text {p : Path} (h : ∀ part ∈ p.parts, IsPart part.toList) : ofText p.text = p := by
  obtain ⟨anchor, parts⟩ := p
  have hparts : ∀ part ∈ parts.map String.toList, IsPart part := by
    intro part hpart
    obtain ⟨s, hs, rfl⟩ := List.mem_map.1 hpart
    exact h s hs
  unfold text
  split
  · next hempty =>
    obtain ⟨rfl, rfl⟩ := hempty
    rfl
  · have htext : (anchor.text ++ String.intercalate "/" parts).toList =
        anchor.text.toList ++ ['/'].intercalate (parts.map String.toList) := by
      rw [String.toList_append, String.toList_intercalate]
      rfl
    unfold ofText
    rw [htext, anchorOf_append anchor (head?_intercalate hparts), partsOf_anchor,
      partsOf_intercalate hparts, List.map_map]
    congr 1
    simp [Function.comp_def]

/-! ## Stems -/

/-- A name with a point inside is cut at its last one. -/
theorem splitName_of_point {stem ext : List Char} (hstem : stem ≠ []) (hext : ext ≠ [])
    (hpoint : '.' ∉ ext) : splitName (stem ++ '.' :: ext) = (stem, '.' :: ext) := by
  have hbehind : (stem ++ '.' :: ext).reverse.takeWhile (· != '.') = ext.reverse := by
    rw [List.reverse_append, List.reverse_cons, List.append_assoc]
    refine Text.takeWhile_append ?_ ?_
    · intro c hc
      rw [List.mem_reverse] at hc
      exact bne_iff_ne.2 fun h => hpoint (h ▸ hc)
    · rintro c ⟨⟩
      rfl
  have hs := List.length_pos_iff.2 hstem
  have he := List.length_pos_iff.2 hext
  unfold splitName
  rw [hbehind]
  simp only [List.length_reverse, List.length_append, List.length_cons]
  have hcut : stem.length + (ext.length + 1) - ext.length - 1 = stem.length := by omega
  rw [hcut, if_pos (by omega), List.take_left, List.drop_left]

/-- A name without a point, but for one in front, has no suffix. -/
theorem splitName_of_plain {name : List Char} (h : '.' ∉ name.tail) :
    splitName name = (name, []) := by
  cases name with
  | nil => rfl
  | cons c rest =>
    have hlen : rest.length ≤ ((c :: rest).reverse.takeWhile (· != '.')).length := by
      rw [List.reverse_cons, List.takeWhile_append_of_pos, List.length_append, List.length_reverse]
      · omega
      · intro d hd
        rw [List.mem_reverse] at hd
        exact bne_iff_ne.2 fun hd' => h (hd' ▸ hd)
    unfold splitName
    rw [if_neg (by simp only [List.length_cons]; omega)]

/-- A name without a point at its end is plain, or its last point is inside. -/
theorem name_cases {name : List Char} (h : name.getLast? ≠ some '.') :
    '.' ∉ name.tail ∨
      ∃ stem ext, stem ≠ [] ∧ ext ≠ [] ∧ '.' ∉ ext ∧ name = stem ++ '.' :: ext := by
  by_cases hpoint : '.' ∈ name
  · obtain ⟨back, front, hname, hback⟩ := List.eq_append_cons_of_mem (List.mem_reverse.2 hpoint)
    rw [List.reverse_eq_iff, List.reverse_append, List.reverse_cons, List.append_assoc,
      List.singleton_append] at hname
    rw [← List.mem_reverse] at hback
    subst hname
    by_cases hstem : front.reverse = []
    · refine .inl ?_
      rw [hstem]
      exact hback
    · refine .inr ⟨front.reverse, back.reverse, hstem, fun hext => h ?_, hback, rfl⟩
      rw [hext, List.getLast?_concat]
  · exact .inl fun hmem => hpoint (List.mem_of_mem_tail hmem)

/-- A word that is put between the stem and the suffix of a name belongs to the stem. -/
theorem splitName_insert {name : List Char} (h : name.getLast? ≠ some '.') (word : List Char)
    (hword : '.' ∉ word) : splitName ((splitName name).1 ++ word ++ (splitName name).2) =
      ((splitName name).1 ++ word, (splitName name).2) := by
  rcases name_cases h with hplain | ⟨stem, ext, hstem, hext, hpoint, rfl⟩
  · rw [splitName_of_plain hplain, List.append_nil]
    refine splitName_of_plain fun hmem => ?_
    cases name with
    | nil => exact hword (List.mem_of_mem_tail hmem)
    | cons c name => exact (List.mem_append.1 hmem).elim hplain hword
  · rw [splitName_of_point hstem hext hpoint]
    exact splitName_of_point (by simp [hstem]) hext hpoint

theorem splitName_append (name : List Char) : (splitName name).1 ++ (splitName name).2 = name := by
  unfold splitName
  dsimp only
  split
  · exact List.take_append_drop _ _
  · exact List.append_nil name

/-- A word without points that is put into the name of a part makes another part. -/
theorem isPart_insert {name : List Char} (hname : ∀ c ∈ name, (c == '/') = false) (word : List Char)
    (hword : IsPart word) (hpoint : '.' ∉ word) :
    IsPart ((splitName name).1 ++ word ++ (splitName name).2) := by
  obtain ⟨d, hd⟩ := List.exists_mem_of_ne_nil word hword.ne_nil
  have hmem : d ∈ (splitName name).1 ++ word ++ (splitName name).2 := by simp [hd]
  refine ⟨List.ne_nil_of_mem hmem, fun heq => ?_, fun c hc => ?_⟩
  · rw [heq, List.mem_singleton] at hmem
    exact hpoint (hmem ▸ hd)
  · rw [List.append_assoc, List.mem_append, List.mem_append] at hc
    rw [← splitName_append name] at hname
    rcases hc with hstem | hin | hsuffix
    · exact hname c (List.mem_append_left _ hstem)
    · exact hword.no_slash c hin
    · exact hname c (List.mem_append_right _ hsuffix)

theorem exists_dirs {p : Path} (h : p.parts ≠ []) : ∃ dirs, p = ⟨p.anchor, dirs ++ [p.name]⟩ := by
  obtain ⟨dirs, last, hparts⟩ := (List.eq_nil_or_concat p.parts).resolve_left h
  rw [List.concat_eq_append] at hparts
  have hname : p.name = last := by rw [name, hparts, List.getLastD_concat]
  exact ⟨dirs, by rw [hname, ← hparts]⟩

theorem name_no_slash (s : String) : ∀ c ∈ (ofText s).name.toList, (c == '/') = false := by
  unfold name
  rcases List.eq_nil_or_concat (ofText s).parts with hnil | ⟨front, last, hlast⟩
  · rw [hnil]
    exact fun c hc => absurd hc List.not_mem_nil
  · rw [hlast, List.concat_eq_append, List.getLastD_concat]
    exact (isPart_of_mem_parts (by rw [hlast]; simp)).no_slash

end Path

/-! ## Test files -/

namespace Layout

open Testsmith.Path

theorem partsOf_of_middle (word : List Char) (h : IsPart word) (before after : List Char) :
    partsOf (before ++ '/' :: (word ++ '/' :: after)) = partsOf before ++ word :: partsOf after := by
  rw [partsOf_append_slash, partsOf_append_slash, h.partsOf_eq, List.singleton_append]

/-- In the test tree a path has the parts that it has in the main tree, with one `test` for a `main`. -/
theorem parts_inTestTree (servicePath : String) :
    (inTestTree servicePath).parts = (Path.ofText servicePath).parts ∨
      ∃ before after, (Path.ofText servicePath).parts = before ++ "main" :: after ∧
        (inTestTree servicePath).parts = before ++ "test" :: after := by
  unfold inTestTree Path.ofText
  rw [String.toList_ofList]
  rcases Text.replaceFirst_eq "/main/".toList "/test/".toList servicePath.toList with
    hsame | ⟨before, after, hold, hnew⟩
  · rw [hsame]
    exact .inl rfl
  · have hmain : partsOf servicePath.toList = partsOf before ++ "main".toList :: partsOf after :=
      hold ▸ partsOf_of_middle "main".toList ⟨by decide, by decide, by decide⟩ before after
    have htest : partsOf (Text.replaceFirst "/main/".toList "/test/".toList servicePath.toList) =
        partsOf before ++ "test".toList :: partsOf after :=
      hnew ▸ partsOf_of_middle "test".toList ⟨by decide, by decide, by decide⟩ before after
    refine .inr ⟨(partsOf before).map String.ofList, (partsOf after).map String.ofList, ?_, ?_⟩
    · rw [hmain, List.map_append]
      rfl
    · rw [htest, List.map_append]
      rfl

/-- In the test tree a path has a last part exactly where it has one in the main tree. -/
theorem parts_inTestTree_eq_nil_iff {servicePath : String} :
    (inTestTree servicePath).parts = [] ↔ (Path.ofText servicePath).parts = [] := by
  rcases parts_inTestTree servicePath with hsame | ⟨before, after, hmain, htest⟩
  · rw [hsame]
  · simp [hmain, htest]

/-- A service file has a test file exactly where its path has a last part. -/
theorem exists_testPath_iff {servicePath : String} :
    (∃ path, testPath servicePath = .ok path) ↔ (Path.ofText servicePath).parts ≠ [] := by
  rw [ne_eq, ← parts_inTestTree_eq_nil_iff]
  unfold testPath Path.withName?
  by_cases h : (inTestTree servicePath).parts = [] <;> simp [h]

theorem testPath_of_nameless {servicePath : String} (h : (Path.ofText servicePath).parts = []) :
    testPath servicePath = .error (inTestTree servicePath) := by
  rw [← parts_inTestTree_eq_nil_iff] at h
  simp [testPath, Path.withName?, h]

/-- A test file stands in the directories of the service file in the test tree. In its name a word stands
between stem and suffix of the service file's name. -/
theorem testPath_eq_ok {servicePath path : String} (h : testPath servicePath = .ok path) :
    ∃ p : Path, path = p.text ∧ (∀ part ∈ p.parts, IsPart part.toList) ∧
      p.parent = (inTestTree servicePath).parent ∧
      p.name.toList = (splitName (inTestTree servicePath).name.toList).1 ++ "Test".toList ++
        (splitName (inTestTree servicePath).name.toList).2 := by
  unfold testPath withName? at h
  dsimp only at h
  by_cases hparts : (inTestTree servicePath).parts = []
  · rw [if_pos hparts] at h
    cases h
  · rw [if_neg hparts] at h
    have hname : ((inTestTree servicePath).stem ++ "Test" ++ (inTestTree servicePath).suffix).toList =
        (splitName (inTestTree servicePath).name.toList).1 ++ "Test".toList ++
          (splitName (inTestTree servicePath).name.toList).2 := by
      simp [stem, suffix]
    refine ⟨_, (Except.ok.inj h).symm, fun part hpart => ?_, ?_, ?_⟩
    · rcases List.mem_append.1 hpart with hfront | hlast
      · exact isPart_of_mem_parts (List.dropLast_subset _ hfront)
      · rw [List.mem_singleton.1 hlast, hname]
        exact isPart_insert (name_no_slash _) "Test".toList ⟨by decide, by decide, by decide⟩
          (by decide)
    · rw [parent, List.dropLast_concat, parent]
    · rw [← hname, Path.name, List.getLastD_concat]

/-- The name of the test file for a file of a name. -/
def testName (name : String) : String :=
  String.ofList ((splitName name.toList).1 ++ "Test".toList ++ (splitName name.toList).2)

theorem testPath_of_inTestTree {servicePath name : String} {anchor : Anchor} {dirs : List String}
    (h : inTestTree servicePath = ⟨anchor, dirs ++ [name]⟩) :
    testPath servicePath = .ok (Path.text ⟨anchor, dirs ++ [testName name]⟩) := by
  have hname : (inTestTree servicePath).stem ++ "Test" ++ (inTestTree servicePath).suffix =
      testName name := by
    rw [← String.toList_inj]
    simp [h, stem, suffix, Path.name, testName]
  simp only [testPath, withName?, hname]
  simp [h]

/-- Names that do not end in a point have test files of different names. -/
theorem testName_inj {name other : String} (hname : name.toList.getLast? ≠ some '.')
    (hother : other.toList.getLast? ≠ some '.') (h : testName name = testName other) :
    name = other := by
  have hinsert := String.ofList_inj.1 h
  have hsplit := splitName_insert hname "Test".toList (by decide)
  rw [hinsert, splitName_insert hother "Test".toList (by decide)] at hsplit
  obtain ⟨hstem, hsuffix⟩ := Prod.mk.inj hsplit
  rw [← String.toList_inj, ← splitName_append name.toList, ← splitName_append other.toList,
    List.append_cancel_right hstem, hsuffix]

theorem isPart_testName {name : String} (h : IsPart name.toList) : IsPart (testName name).toList := by
  rw [testName, String.toList_ofList]
  exact isPart_insert h.no_slash "Test".toList ⟨by decide, by decide, by decide⟩ (by decide)

/-- A test file is read back as it was written. -/
theorem ofText_testPath {servicePath name : String} {anchor : Anchor} {dirs : List String}
    (h : inTestTree servicePath = ⟨anchor, dirs ++ [name]⟩) :
    Path.ofText (Path.text ⟨anchor, dirs ++ [testName name]⟩) = ⟨anchor, dirs ++ [testName name]⟩ := by
  have hparts : ∀ part ∈ (inTestTree servicePath).parts, IsPart part.toList :=
    fun part hpart => isPart_of_mem_parts hpart
  rw [h] at hparts
  simp only [List.forall_mem_append, List.forall_mem_cons] at hparts
  refine ofText_text ?_
  simp only [List.forall_mem_append, List.forall_mem_cons]
  exact ⟨hparts.1, isPart_testName hparts.2.1, hparts.2.2⟩

theorem className_testPath_of_name {servicePath path : String} (h : testPath servicePath = .ok path)
    (hname : (inTestTree servicePath).name = (Path.ofText servicePath).name)
    (hpoint : (Path.ofText servicePath).name.toList.getLast? ≠ some '.') :
    className path = className servicePath ++ "Test" := by
  obtain ⟨p, rfl, hparts, -, hinsert⟩ := testPath_eq_ok h
  rw [hname] at hinsert
  unfold className
  rw [ofText_text hparts, stem, hinsert, splitName_insert hpoint "Test".toList (by decide),
    String.ofList_append, String.ofList_toList]
  rfl

end Layout

end Testsmith
