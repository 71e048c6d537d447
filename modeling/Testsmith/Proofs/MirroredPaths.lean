import Testsmith.Proofs.WrittenPaths

/-!
# Mirrored paths

What a service file and its test file have in common. A path in normal form is the parts of it with slashes
between them, behind the empty pieces that its root makes (`Path.splitOn_of_normal`), and in such a path
the first `/main/` is one of the directories (`Layout.exists_parts_of_main`). So the test file has the same
directories but for this one, which is called `test`, and it lies in the same module and, unless the
marker of the source root stands above that directory, in the same package.
-/

namespace Testsmith

/-! ## First occurrences -/

namespace Text

/-- What stands in front of the first occurrence of a word. -/
def beforeFirst? (word : List Char) : List Char → Option (List Char)
  | [] => none
  | c :: rest =>
    if word.isPrefixOf (c :: rest) then some [] else (beforeFirst? word rest).map (c :: ·)

theorem replaceFirst_of_beforeFirst? {word text before : List Char} (new : List Char)
    (h : beforeFirst? word text = some before) :
    ∃ after, text = before ++ (word ++ after) ∧ replaceFirst word new text = before ++ (new ++ after) := by
  induction text generalizing before with
  | nil => cases h
  | cons c rest ih =>
    unfold beforeFirst? at h
    unfold replaceFirst
    split at h
    · next hprefix =>
      obtain ⟨after, heq⟩ := List.isPrefixOf_iff_prefix.1 hprefix
      obtain ⟨⟩ := h
      refine ⟨after, heq.symm, ?_⟩
      rw [if_pos hprefix, ← heq, List.drop_left]
      rfl
    · next hprefix =>
      obtain ⟨front, hfront, rfl⟩ := Option.map_eq_some_iff.1 h
      obtain ⟨after, htext, hnew⟩ := ih hfront
      exact ⟨after, by rw [htext]; rfl, by rw [if_neg hprefix, hnew]; rfl⟩

theorem replaceFirst_of_beforeFirst?_eq_none {word text : List Char} (new : List Char)
    (h : beforeFirst? word text = none) : replaceFirst word new text = text := by
  induction text with
  | nil => rfl
  | cons c rest ih =>
    unfold beforeFirst? at h
    unfold replaceFirst
    split at h
    · cases h
    · next hprefix =>
      rw [if_neg hprefix, ih (Option.map_eq_none_iff.1 h)]

theorem takeWhile_append_cons_of_stop (p : Char → Bool) {c : Char} (hc : p c = false)
    (x y : List Char) : (x ++ c :: y).takeWhile p = x.takeWhile p := by
  induction x with
  | nil => rw [List.nil_append, List.takeWhile_cons, hc]; rfl
  | cons d x ih =>
    rw [List.cons_append, List.takeWhile_cons, List.takeWhile_cons]
    split
    · rw [ih]
    · rfl

theorem splitOn_eq_splitOnP (isSep : Char → Bool) (text : List Char) :
    splitOn isSep text = text.splitOnP isSep := by
  induction text with
  | nil => rfl
  | cons c rest ih =>
    rw [splitOn, List.splitOnP_cons_eq_if_modifyHead, ih]
    split
    · rfl
    · obtain ⟨part, parts, hparts⟩ := List.exists_cons_of_ne_nil (splitOn_ne_nil isSep rest)
      rw [← ih, hparts]
      rfl

theorem intercalate_splitOn (c : Char) (text : List Char) :
    [c].intercalate (splitOn (· == c) text) = text := by
  rw [splitOn_eq_splitOnP]
  exact List.intercalate_splitOn c

theorem splitOn_intercalate (c : Char) {parts : List (List Char)} (h : ∀ part ∈ parts, c ∉ part)
    (hne : parts ≠ []) : splitOn (· == c) ([c].intercalate parts) = parts := by
  rw [splitOn_eq_splitOnP]
  exact List.splitOn_intercalate c h hne

end Text

/-! ## Normal forms -/

namespace Path

variable {p : Path} {s : String}

theorem IsPart.slash_not_mem {part : List Char} (h : IsPart part) : '/' ∉ part := fun hmem =>
  absurd (h.no_slash '/' hmem) (by decide)

/-- The empty pieces that an anchor makes in front of the parts. -/
def Anchor.pieces : Anchor → List (List Char)
  | .relative => []
  | .root => [[]]
  | .doubleRoot => [[], []]

theorem Anchor.eq_nil_of_mem_pieces {anchor : Anchor} : ∀ piece ∈ anchor.pieces, piece = [] := by
  cases anchor <;> simp [Anchor.pieces]

/-- A path is written as its pieces and parts with slashes between them. -/
theorem toList_text (hne : p.parts ≠ []) :
    p.text.toList = ['/'].intercalate (p.anchor.pieces ++ p.parts.map String.toList) := by
  obtain ⟨anchor, parts⟩ := p
  obtain ⟨part, parts, rfl⟩ := List.exists_cons_of_ne_nil hne
  have htext : text ⟨anchor, part :: parts⟩ =
      anchor.text ++ String.intercalate "/" (part :: parts) := if_neg fun h => hne h.2
  rw [htext, String.toList_append, String.toList_intercalate]
  cases anchor <;> simp [Anchor.pieces, Anchor.text, List.intercalate_cons_cons]

theorem slash_not_mem_of_parts (hparts : ∀ part ∈ p.parts, IsPart part.toList) :
    ∀ piece ∈ p.anchor.pieces ++ p.parts.map String.toList, '/' ∉ piece := by
  intro piece hpiece
  rcases List.mem_append.1 hpiece with hempty | hwritten
  · rw [Anchor.eq_nil_of_mem_pieces piece hempty]
    exact List.not_mem_nil
  · obtain ⟨part, hpart, rfl⟩ := List.mem_map.1 hwritten
    exact (hparts part hpart).slash_not_mem

theorem splitOn_text (hne : p.parts ≠ []) (hparts : ∀ part ∈ p.parts, IsPart part.toList) :
    Text.splitOn (· == '/') p.text.toList = p.anchor.pieces ++ p.parts.map String.toList := by
  rw [toList_text hne]
  exact Text.splitOn_intercalate '/' (slash_not_mem_of_parts hparts) (by simp [hne])

/-- The anchor is told by the slashes in front, so not by what stands behind one and another character. -/
theorem anchorOf_append_slash {c : Char} (hc : (c == '/') = false) (x y : List Char) :
    anchorOf (x ++ '/' :: c :: y) = anchorOf (x ++ ['/']) := by
  have htake : (x ++ ['/'] ++ c :: y).takeWhile (· == '/') = (x ++ ['/']).takeWhile (· == '/') :=
    Text.takeWhile_append_cons_of_stop (· == '/') hc _ _
  rw [List.append_assoc, List.singleton_append] at htake
  rw [anchorOf, htake, anchorOf]

theorem partsOf_of_splitOn {written : List Char} {anchor : Anchor} {parts : List (List Char)}
    (h : Text.splitOn (· == '/') written = anchor.pieces ++ parts)
    (hparts : ∀ part ∈ parts, IsPart part) : partsOf written = parts := by
  unfold partsOf
  rw [h, List.filter_append, List.filter_eq_nil_iff.2, List.nil_append, List.filter_eq_self.2]
  · intro part hpart
    simp [(hparts part hpart).ne_nil, (hparts part hpart).ne_point]
  · intro piece hpiece
    simp [Anchor.eq_nil_of_mem_pieces piece hpiece]

/-- A text in normal form is split into the pieces of its root and its parts. -/
theorem splitOn_of_normal (h : (ofText s).text = s) (hne : (ofText s).parts ≠ []) :
    Text.splitOn (· == '/') s.toList =
      (ofText s).anchor.pieces ++ (ofText s).parts.map String.toList := by
  have hsplit := splitOn_text hne fun part hpart => isPart_of_mem_parts hpart
  rwa [h] at hsplit

end Path

namespace Layout

open Testsmith.Path

variable {path : String} {before after : List Char}

/-! ## The directory that is called `main` -/

/-- In a path in normal form an occurrence of `/main/` is a directory with something behind it. -/
theorem exists_parts_of_main (hnormal : (Path.ofText path).text = path)
    (hne : (Path.ofText path).parts ≠ [])
    (hmain : path.toList = before ++ ("/main/".toList ++ after)) :
    ∃ above below : List String, below ≠ [] ∧ (Path.ofText path).parts = above ++ "main" :: below ∧
      Text.splitOn (· == '/') before =
        (Path.ofText path).anchor.pieces ++ above.map String.toList ∧
      Text.splitOn (· == '/') after = below.map String.toList := by
  have hsplit : (Path.ofText path).anchor.pieces ++ (Path.ofText path).parts.map String.toList =
      Text.splitOn (· == '/') before ++ "main".toList :: Text.splitOn (· == '/') after := by
    have hword : Text.splitOn (· == '/') "main".toList = ["main".toList] := by decide
    have htext : path.toList = before ++ '/' :: ("main".toList ++ '/' :: after) := hmain
    rw [← splitOn_of_normal hnormal hne, htext, Text.splitOn_append_cons rfl,
      Text.splitOn_append_cons rfl, hword, List.singleton_append]
  have hparts : ∃ front, Text.splitOn (· == '/') before = (Path.ofText path).anchor.pieces ++ front ∧
      (Path.ofText path).parts.map String.toList =
        front ++ "main".toList :: Text.splitOn (· == '/') after := by
    rcases List.append_eq_append_iff.1 hsplit with ⟨front, hbefore, hparts⟩ | ⟨piece, hpieces, hparts⟩
    · exact ⟨front, hbefore, hparts⟩
    · cases piece with
      | nil => exact ⟨[], by simpa using hpieces.symm, by simpa using hparts.symm⟩
      | cons first rest =>
        -- a piece of a root is empty, so it is not `main`
        have hfirst : first = "main".toList := (List.cons.inj hparts).1.symm
        have hempty : first = [] := Anchor.eq_nil_of_mem_pieces first (by rw [hpieces]; simp)
        rw [hfirst] at hempty
        exact absurd hempty (by decide)
  obtain ⟨front, hbefore, hparts⟩ := hparts
  obtain ⟨above, rest, habove, rfl, hrest⟩ := List.map_eq_append_iff.1 hparts
  obtain ⟨main, below, rfl, hname, hbelow⟩ := List.map_eq_cons_iff.1 hrest
  refine ⟨above, below, ?_, ?_, hbefore, hbelow.symm⟩
  · rintro rfl
    exact Text.splitOn_ne_nil _ after hbelow.symm
  · rw [habove, String.toList_inj.1 hname]

/-- What stands above the directory that is `test` in the test tree: its root, where it has one, and the
directories. -/
def aboveMain (path : String) : List String :=
  match Text.beforeFirst? "/main/".toList path.toList with
  | none => []
  | some before => (Path.ofText (String.ofList (before ++ ['/']))).components

theorem components_append (anchor : Anchor) (above below : List String) :
    components ⟨anchor, above ++ below⟩ = components ⟨anchor, above⟩ ++ below := by
  unfold components
  split <;> rfl

theorem aboveMain_eq {above : List String}
    (hfirst : Text.beforeFirst? "/main/".toList path.toList = some before)
    (hmain : path.toList = before ++ ("/main/".toList ++ after))
    (hbefore : Text.splitOn (· == '/') before =
      (Path.ofText path).anchor.pieces ++ above.map String.toList)
    (habove : ∀ part ∈ above, IsPart part.toList) :
    aboveMain path = components ⟨(Path.ofText path).anchor, above⟩ := by
  have hanchor : anchorOf (before ++ ['/']) = (Path.ofText path).anchor := by
    rw [Path.ofText, hmain]
    exact (anchorOf_append_slash rfl before _).symm
  have hparts : partsOf (before ++ ['/']) = above.map String.toList := by
    rw [partsOf_append_slash, partsOf_of_splitOn hbefore (by simpa using habove)]
    exact List.append_nil _
  simp only [aboveMain, hfirst, Path.ofText, String.toList_ofList, hanchor, hparts, List.map_map]
  simp [Function.comp_def]

theorem inTestTree_of_main {above below : List String}
    (hnew : Text.replaceFirst "/main/".toList "/test/".toList path.toList =
      before ++ ("/test/".toList ++ after))
    (hbefore : Text.splitOn (· == '/') before =
      (Path.ofText path).anchor.pieces ++ above.map String.toList)
    (hafter : Text.splitOn (· == '/') after = below.map String.toList)
    (hparts : ∀ part ∈ above ++ "test" :: below, IsPart part.toList) :
    inTestTree path = { Path.ofText path with parts := above ++ "test" :: below } := by
  have hword : Text.splitOn (· == '/') "test".toList = ["test".toList] := by decide
  have hsplit : Text.splitOn (· == '/') (before ++ '/' :: ("test".toList ++ '/' :: after)) =
      (Path.ofText path).anchor.pieces ++ (above ++ "test" :: below).map String.toList := by
    rw [Text.splitOn_append_cons rfl, Text.splitOn_append_cons rfl, hword, hbefore, hafter]
    simp
  have htext : before ++ ("/test/".toList ++ after) =
      (text { Path.ofText path with parts := above ++ "test" :: below }).toList := by
    rw [toList_text (by simp), ← hsplit, Text.intercalate_splitOn]
    rfl
  rw [inTestTree, hnew, htext, String.ofList_toList, ofText_text hparts]

/-- The directories of a path in normal form and those that it has in the test tree. -/
inductive Mirrors (path : String) : List String → List String → Prop
  | same (dirs : List String) : Mirrors path dirs dirs
  | moved (above below : List String)
      (habove : aboveMain path = components ⟨(Path.ofText path).anchor, above⟩)
      (hfirst : (Path.ofText path).anchor.pieces ++ above.map String.toList ≠ []) :
      Mirrors path (above ++ "main" :: below) (above ++ "test" :: below)

/-- **In the test tree a file has the same directories**, with one `test` for the first `main`. -/
theorem exists_mirrors (hnormal : (Path.ofText path).text = path)
    (hne : (Path.ofText path).parts ≠ []) :
    ∃ dirs mirrored name, (Path.ofText path).parts = dirs ++ [name] ∧
      inTestTree path = { Path.ofText path with parts := mirrored ++ [name] } ∧
      Mirrors path dirs mirrored := by
  cases hfirst : Text.beforeFirst? "/main/".toList path.toList with
  | none =>
    obtain ⟨dirs, name, hparts⟩ := (List.eq_nil_or_concat (Path.ofText path).parts).resolve_left hne
    rw [List.concat_eq_append] at hparts
    refine ⟨dirs, dirs, name, hparts, ?_, .same dirs⟩
    rw [inTestTree, Text.replaceFirst_of_beforeFirst?_eq_none _ hfirst, String.ofList_toList, ← hparts]
  | some before =>
    obtain ⟨after, hmain, hnew⟩ := Text.replaceFirst_of_beforeFirst? "/test/".toList hfirst
    obtain ⟨above, below, hbelow, hparts, hbefore, hafter⟩ := exists_parts_of_main hnormal hne hmain
    obtain ⟨dirs, name, rfl⟩ := (List.eq_nil_or_concat below).resolve_left hbelow
    rw [List.concat_eq_append] at hparts hafter
    have hpart : ∀ part ∈ above ++ "main" :: (dirs ++ [name]), IsPart part.toList :=
      fun part hmem => isPart_of_mem_parts (hparts ▸ hmem)
    have htest : ∀ part ∈ above ++ "test" :: (dirs ++ [name]), IsPart part.toList := by
      simp only [List.forall_mem_append, List.forall_mem_cons] at hpart ⊢
      exact ⟨hpart.1, ⟨by decide, by decide, by decide⟩, hpart.2.2⟩
    refine ⟨above ++ "main" :: dirs, above ++ "test" :: dirs, name, ?_, ?_, .moved above dirs ?_ ?_⟩
    · rw [hparts, List.append_assoc, List.cons_append]
    · rw [inTestTree_of_main hnew hbefore hafter htest, List.append_assoc, List.cons_append]
    · exact aboveMain_eq hfirst hmain hbefore fun part hmem => hpart part (List.mem_append_left _ hmem)
    · rw [← hbefore]
      exact Text.splitOn_ne_nil _ before

/-! ## Module and package -/

/-- The characters of a module's name. -/
def isModuleChar (c : Char) : Bool := Text.isWord c || c == '-'

theorem moduleOf_of_no_slash {x : List Char} (h : '/' ∉ x) (fallback : String) :
    moduleOf (String.ofList x) fallback = fallback := by
  unfold moduleOf
  rw [String.toList_ofList]
  split
  · next segment rest hspan =>
    have hmem : '/' ∈ x := by
      rw [← Text.span1?_append hspan]
      simp
    exact absurd hmem h
  · rfl

/-- The module is what stands in front of the first slash, if there are none but characters of a name. -/
theorem moduleOf_slash {first : List Char} (h : '/' ∉ first) (rest : List Char) (fallback : String) :
    moduleOf (String.ofList (first ++ '/' :: rest)) fallback =
      if first ≠ [] ∧ first.dropWhile isModuleChar = [] then String.ofList first else fallback := by
  have htake := Text.takeWhile_append_cons_of_stop isModuleChar (c := '/') (by decide) first rest
  have hdrop := Text.dropWhile_append_cons (p := isModuleChar) (c := '/') (by decide) first rest
  have hspan : Text.span1? isModuleChar (first ++ '/' :: rest) =
      if first.takeWhile isModuleChar = [] then none
      else some (first.takeWhile isModuleChar, first.dropWhile isModuleChar ++ '/' :: rest) := by
    unfold Text.span1?
    rw [htake, hdrop]
    cases first.takeWhile isModuleChar <;> rfl
  have hfirst := List.takeWhile_append_dropWhile (p := isModuleChar) (l := first)
  have hclass : (fun c => Text.isWord c || c == '-') = isModuleChar := rfl
  rw [moduleOf, hclass, String.toList_ofList, hspan]
  cases hrun : first.takeWhile isModuleChar with
  | nil =>
    rw [hrun, List.nil_append] at hfirst
    rw [if_pos rfl, if_neg fun hall => hall.1 (hfirst ▸ hall.2)]
  | cons c run =>
    rw [if_neg (List.cons_ne_nil c run)]
    cases hbehind : first.dropWhile isModuleChar with
    | nil =>
      rw [hrun, hbehind, List.append_nil] at hfirst
      simp [← hfirst]
    | cons d behind =>
      have hd : d ≠ '/' := fun heq => h (by rw [← hfirst, hbehind, heq]; simp)
      simp [hd]

/-- Behind a marker that stands neither above the directory nor for it, the directories are the same. -/
theorem Mirrors.dropWhile_eq {dirs mirrored : List String} (h : Mirrors path dirs mirrored)
    {marker : String} (hmain : marker ≠ "main") (htest : marker ≠ "test")
    (habove : marker ∉ aboveMain path) :
    (components ⟨(Path.ofText path).anchor, mirrored⟩).dropWhile (· != marker) =
      (components ⟨(Path.ofText path).anchor, dirs⟩).dropWhile (· != marker) := by
  cases h with
  | same => rfl
  | moved above below hcomponents hfirst =>
    rw [hcomponents] at habove
    have hpassed : ∀ dir ∈ components ⟨(Path.ofText path).anchor, above⟩, (dir != marker) = true :=
      fun dir hdir => bne_iff_ne.2 fun heq => habove (heq ▸ hdir)
    have hbehind {word : String} (h : marker ≠ word) :
        (word :: below).dropWhile (· != marker) = below.dropWhile (· != marker) :=
      List.dropWhile_cons_of_pos (bne_iff_ne.2 h.symm)
    rw [components_append, components_append, List.dropWhile_append_of_pos hpassed,
      List.dropWhile_append_of_pos hpassed, hbehind htest, hbehind hmain]

theorem Mirrors.head?_eq {dirs mirrored : List String} (h : Mirrors path dirs mirrored) :
    ((Path.ofText path).anchor.pieces ++ mirrored.map String.toList).head? =
      ((Path.ofText path).anchor.pieces ++ dirs.map String.toList).head? := by
  cases h with
  | same => rfl
  | moved above below _ hfirst =>
    obtain ⟨first, rest, heq⟩ := List.exists_cons_of_ne_nil hfirst
    rw [List.map_append, List.map_append, ← List.append_assoc, ← List.append_assoc, heq]
    rfl

/-- The module of a path is told by the first of its pieces and directories. -/
theorem moduleOf_text {p : Path} (hne : p.parts ≠ []) (hparts : ∀ part ∈ p.parts, IsPart part.toList)
    (fallback : String) : moduleOf p.text fallback =
      match (p.anchor.pieces ++ p.parent.parts.map String.toList).head? with
      | none => fallback
      | some first =>
        if first ≠ [] ∧ first.dropWhile isModuleChar = [] then String.ofList first else fallback := by
  obtain ⟨dirs, name, hsplit⟩ := (List.eq_nil_or_concat p.parts).resolve_left hne
  rw [List.concat_eq_append] at hsplit
  have hparent : p.parent.parts = dirs := by rw [parent, hsplit, List.dropLast_concat]
  have hslash := slash_not_mem_of_parts hparts
  have htext := toList_text hne
  rw [hsplit, List.map_append, ← List.append_assoc] at htext hslash
  rw [hparent, ← String.ofList_toList (s := p.text), htext]
  cases hpieces : p.anchor.pieces ++ dirs.map String.toList with
  | nil =>
    rw [hpieces] at hslash
    simpa using moduleOf_of_no_slash (hslash name.toList (by simp)) fallback
  | cons first rest =>
    rw [hpieces] at hslash
    obtain ⟨next, more, hmore⟩ : ∃ next more, rest ++ [name].map String.toList = next :: more :=
      List.exists_cons_of_ne_nil (by simp)
    rw [List.cons_append, hmore, List.intercalate_cons_cons, List.append_assoc]
    exact moduleOf_slash (hslash first (by simp)) _ fallback

theorem packageOf_congr {marker fallback path other : String}
    (h : (Path.ofText path).parent.components.dropWhile (· != marker) =
      (Path.ofText other).parent.components.dropWhile (· != marker)) :
    packageOf path marker fallback = packageOf other marker fallback := by
  unfold packageOf
  rw [h]

/-- **A test file keeps module, package and class of its service file.** The path of the service file is in
normal form and has a last part, which does not end in a point. The marker of the source root is neither
`main` nor `test`, and it does not stand above the first `main`. -/
theorem mirrored_path_keeps (path marker moduleFallback packageFallback : String)
    (hnormal : (Path.ofText path).text = path) (hname : (Path.ofText path).name ≠ "")
    (hpoint : (Path.ofText path).name.toList.getLast? ≠ some '.')
    (hmain : marker ≠ "main") (htest : marker ≠ "test") (habove : marker ∉ aboveMain path) :
    ∃ mirrored, testPath path = .ok mirrored ∧
      moduleOf mirrored moduleFallback = moduleOf path moduleFallback ∧
      packageOf mirrored marker packageFallback = packageOf path marker packageFallback ∧
      className mirrored = className path ++ "Test" := by
  have hne : (Path.ofText path).parts ≠ [] := fun hnil => hname (by rw [name, hnil]; rfl)
  obtain ⟨mirrored, hmirrored⟩ := exists_testPath_iff.2 hne
  obtain ⟨dirs, others, last, hparts, htree, hmirrors⟩ := exists_mirrors hnormal hne
  obtain ⟨p, rfl, hwritten, hparent, hinsert⟩ := testPath_eq_ok hmirrored
  have hdirs : (Path.ofText path).parent = ⟨(Path.ofText path).anchor, dirs⟩ := by
    rw [parent, hparts, List.dropLast_concat]
  have hothers : p.parent = ⟨(Path.ofText path).anchor, others⟩ := by
    rw [hparent, htree, parent, List.dropLast_concat]
  have hanchor : p.anchor = (Path.ofText path).anchor := by
    have hroot := congrArg (·.anchor) hothers
    exact hroot
  refine ⟨p.text, hmirrored, ?module, ?package, className_testPath_of_name hmirrored ?last hpoint⟩
  case module =>
    have hp : p.parts ≠ [] := by
      intro hnil
      rw [name, hnil] at hinsert
      simp at hinsert
    have hown := moduleOf_text hne (fun part hpart => isPart_of_mem_parts hpart) moduleFallback
    rw [hnormal, hdirs] at hown
    rw [hown, moduleOf_text hp hwritten, hanchor, hothers, hmirrors.head?_eq]
  case package =>
    apply packageOf_congr
    rw [ofText_text hwritten, hothers, hdirs]
    exact hmirrors.dropWhile_eq hmain htest habove
  case last => rw [htree, name, name, hparts, List.getLastD_concat, List.getLastD_concat]

/-- A file in a package that has a `main` of its own. -/
def nestedMain : String := "app/src/main/kotlin/com/main/Foo.v2.kt"

theorem nestedMain_mirrored : aboveMain nestedMain = ["app", "src"] ∧
    ∃ mirrored, testPath nestedMain = .ok mirrored ∧ moduleOf mirrored "lib" = "app" ∧
      packageOf mirrored "kotlin" "com.example" = "com.main" ∧ className mirrored = "Foo.v2Test" := by
  have habove : aboveMain nestedMain = ["app", "src"] := by decide +kernel
  obtain ⟨mirrored, hpath, hmodule, hpackage, hclass⟩ :=
    mirrored_path_keeps nestedMain "kotlin" "lib" "com.example" (by decide +kernel) (by decide +kernel)
      (by decide +kernel) (by decide) (by decide) (by rw [habove]; decide)
  exact ⟨habove, mirrored, hpath, hmodule.trans (by decide +kernel), hpackage.trans (by decide +kernel),
    hclass.trans (by decide +kernel)⟩

end Layout

end Testsmith
