import Testsmith.Proofs.MirroredPaths

/-!
# Spellings of a path

One path is written in many ways: between the pieces that are its parts there may stand empty ones and
single points. The class and the package of a file are told by its path, so they do not depend on the
spelling. The module and the place of the test file are told by the text.

Both see the text only where it starts and where it ends. A module is named by a first part with a slash
behind it (`namesModule_iff`), which is not there if a point stands in front. A `main` is mirrored if there
are slashes on both sides of it (`framed_iff`): inside of a path there always are, but the first part has
one in front only behind a point, and the last part has one behind it only if something that does not
count comes last. So spellings that start alike and end alike give the same, and `layout_of_spellings`
says exactly which spellings do.
-/

namespace Testsmith

namespace Text

/-- Where a word occurs, its first occurrence is there or in front. -/
theorem exists_beforeFirst? {word : List Char} (hword : word ≠ []) (front after : List Char) :
    ∃ before, beforeFirst? word (front ++ (word ++ after)) = some before ∧ before <+: front := by
  induction front with
  | nil =>
    obtain ⟨c, rest, rfl⟩ := List.exists_cons_of_ne_nil hword
    refine ⟨[], if_pos ?_, List.prefix_rfl⟩
    exact List.isPrefixOf_iff_prefix.2 (List.prefix_append (c :: rest) after)
  | cons c front ih =>
    obtain ⟨before, hbefore, hprefix⟩ := ih
    rw [List.cons_append, beforeFirst?, hbefore]
    split
    · exact ⟨[], rfl, List.nil_prefix⟩
    · exact ⟨c :: before, rfl, List.cons_prefix_cons.2 ⟨rfl, hprefix⟩⟩

end Text

/-- Two places in a list that hold the same are one place if another entry put there gives one list. -/
theorem eq_of_append_cons {α : Type} {x x' y y' : List α} {old new : α} (hne : old ≠ new)
    (hold : x ++ old :: y = x' ++ old :: y') (hnew : x ++ new :: y = x' ++ new :: y') : x = x' := by
  induction x generalizing x' with
  | nil =>
    cases x' with
    | nil => rfl
    | cons c x' => exact absurd ((List.cons.inj hold).1.trans (List.cons.inj hnew).1.symm) hne
  | cons c x ih =>
    cases x' with
    | nil => exact absurd ((List.cons.inj hold).1.symm.trans (List.cons.inj hnew).1) hne
    | cons d x' =>
      obtain ⟨rfl, htail⟩ := List.cons.inj hold
      rw [ih htail (List.cons.inj hnew).2]

namespace Path

variable {s : String}

/-! ## Pieces -/

/-- A point and a slash stand in front of the path. -/
def LedByPoint (s : String) : Prop := "./".toList <+: s.toList

/-- A piece that does not count stands behind the path. -/
def Trails (s : String) : Prop := "/".toList <:+ s.toList ∨ "/.".toList <:+ s.toList

instance (s : String) : Decidable (LedByPoint s) := inferInstanceAs (Decidable (_ <+: _))

instance (s : String) : Decidable (Trails s) := inferInstanceAs (Decidable (_ ∨ _))

/-- What a text is between its slashes. -/
def pieces (written : List Char) : List (List Char) := Text.splitOn (· == '/') written

/-- A piece is a part of the path. -/
def counts (piece : List Char) : Bool := piece ≠ [] && piece ≠ ['.']

theorem eq_of_counts_eq_false {piece : List Char} (h : counts piece = false) :
    piece = [] ∨ piece = ['.'] := by
  by_cases hempty : piece = []
  · exact .inl hempty
  · exact .inr (by simpa [counts, hempty] using h)

theorem partsOf_eq (written : List Char) : partsOf written = (pieces written).filter counts := rfl

theorem pieces_append_slash (x y : List Char) : pieces (x ++ '/' :: y) = pieces x ++ pieces y :=
  Text.splitOn_append_cons rfl x y

theorem slash_not_mem_of_pieces {written piece : List Char} (h : piece ∈ pieces written) :
    '/' ∉ piece := by
  intro hmem
  have hslash := Text.forall_mem_splitOn _ written piece h '/' hmem
  exact absurd hslash (by decide)

theorem eq_intercalate_pieces (written : List Char) : written = ['/'].intercalate (pieces written) :=
  (Text.intercalate_splitOn '/' written).symm

/-- A text whose pieces are two lists of them has a slash where the second one starts. -/
theorem eq_append_of_pieces {written : List Char} {x y : List (List Char)}
    (h : pieces written = x ++ y) (hx : x ≠ []) (hy : y ≠ []) :
    written = ['/'].intercalate x ++ '/' :: ['/'].intercalate y := by
  rw [eq_intercalate_pieces written, h, Text.intercalate_append '/' hx hy]

theorem partsOf_pieces {written : List Char} {chosen : List (List Char)}
    (h : ∀ piece ∈ chosen, piece ∈ pieces written) (hne : chosen ≠ []) :
    partsOf (['/'].intercalate chosen) = chosen.filter counts := by
  have hsplit := Text.splitOn_intercalate '/'
    (fun piece hpiece => slash_not_mem_of_pieces (h piece hpiece)) hne
  rw [partsOf_eq, pieces, hsplit]

theorem ledByPoint_iff : LedByPoint s ↔ ∃ rest, rest ≠ [] ∧ pieces s.toList = ['.'] :: rest := by
  constructor
  · rintro ⟨rest, hrest⟩
    refine ⟨pieces rest, Text.splitOn_ne_nil _ rest, ?_⟩
    rw [← hrest]
    exact pieces_append_slash ['.'] rest
  · rintro ⟨rest, hne, hpieces⟩
    have htext := eq_append_of_pieces (x := [['.']]) hpieces (by simp) hne
    exact ⟨['/'].intercalate rest, by rw [htext]; rfl⟩

theorem trails_iff : Trails s ↔
    ∃ front last, front ≠ [] ∧ counts last = false ∧ pieces s.toList = front ++ [last] := by
  constructor
  · rintro (⟨x, hx⟩ | ⟨x, hx⟩)
    · exact ⟨pieces x, [], Text.splitOn_ne_nil _ x, rfl, by rw [← hx]; exact pieces_append_slash x []⟩
    · exact ⟨pieces x, ['.'], Text.splitOn_ne_nil _ x, rfl,
        by rw [← hx]; exact pieces_append_slash x ['.']⟩
  · rintro ⟨front, last, hfront, hlast, hpieces⟩
    have htext := eq_append_of_pieces hpieces hfront (by simp)
    rcases eq_of_counts_eq_false hlast with rfl | rfl
    · exact .inl ⟨['/'].intercalate front, by rw [htext]; rfl⟩
    · exact .inr ⟨['/'].intercalate front, by rw [htext]; rfl⟩

/-- Where no part comes behind a slash, something that does not count does. -/
theorem trails_of_partsOf_eq_nil {x : List (List Char)} {y : List Char}
    (hpieces : pieces s.toList = x ++ pieces y) (hx : x ≠ []) (h : partsOf y = []) : Trails s := by
  obtain ⟨more, last, hlast⟩ := (List.eq_nil_or_concat (pieces y)).resolve_left
    (Text.splitOn_ne_nil _ y)
  rw [partsOf_eq, List.filter_eq_nil_iff] at h
  rw [List.concat_eq_append] at hlast
  have hcounts : counts last = false := Bool.eq_false_iff.2 (h last (by simp [hlast]))
  rw [hlast, ← List.append_assoc] at hpieces
  exact trails_iff.2 ⟨x ++ more, last, by simp [hx], hcounts, hpieces⟩

theorem anchorOf_eq_relative_iff {written : List Char} :
    anchorOf written = .relative ↔ written.head? ≠ some '/' := by
  cases written with
  | nil => simp [anchorOf]
  | cons c rest =>
    by_cases hc : c = '/'
    · subst hc
      have hlength : (('/' :: rest).takeWhile (· == '/')).length =
          (rest.takeWhile (· == '/')).length + 1 := by simp
      unfold anchorOf
      rw [hlength]
      simp
      split <;> simp_all
    · simp [anchorOf, hc]

/-- A relative path starts with a piece that is not empty. -/
theorem first_piece_ne_nil {first : List Char} {rest : List (List Char)}
    (hanchor : anchorOf s.toList = .relative) (hpieces : pieces s.toList = first :: rest)
    (hne : rest ≠ []) : first ≠ [] := by
  rintro rfl
  have htext := eq_append_of_pieces (x := [[]]) hpieces (by simp) hne
  rw [anchorOf_eq_relative_iff, htext] at hanchor
  simp at hanchor

end Path

namespace Layout

open Testsmith.Path

variable {s p q : String} {above : List (List Char)}

/-! ## Modules -/

/-- The text starts with characters of a module's name and a slash. -/
def NamesModule (s : String) : Prop :=
  ∃ segment rest, segment ≠ [] ∧ (∀ c ∈ segment, isModuleChar c = true) ∧
    s.toList = segment ++ '/' :: rest

theorem isPart_of_moduleChars {segment : List Char} (hne : segment ≠ [])
    (h : ∀ c ∈ segment, isModuleChar c = true) : IsPart segment := by
  refine ⟨hne, ?_, fun c hc => ?_⟩
  · rintro rfl
    exact absurd (h '.' (by simp)) (by decide)
  · rw [beq_eq_false_iff_ne]
    rintro rfl
    exact absurd (h '/' hc) (by decide)

/-- A module that is named is the first part of the path. -/
theorem moduleOf_of_names (h : NamesModule s) :
    ∃ first, (Path.ofText s).parts.head? = some first ∧ ∀ fallback, moduleOf s fallback = first := by
  obtain ⟨segment, rest, hne, hchars, htext⟩ := h
  have hpart := isPart_of_moduleChars hne hchars
  refine ⟨String.ofList segment, ?_, fun fallback => ?_⟩
  · rw [Path.ofText, htext, partsOf_append_slash, hpart.partsOf_eq]
    rfl
  · have hall : segment.dropWhile isModuleChar = [] := by
      have hnone : ∀ c, ([] : List Char).head? = some c → isModuleChar c = false := by simp
      simpa using Text.dropWhile_append hchars hnone
    rw [← String.ofList_toList (s := s), htext, moduleOf_slash hpart.slash_not_mem,
      if_pos ⟨hne, hall⟩]

theorem moduleOf_of_not_names (h : ¬ NamesModule s) (fallback : String) :
    moduleOf s fallback = fallback := by
  unfold moduleOf
  split
  · next segment rest hspan =>
    obtain ⟨hne, hchars⟩ := Text.forall_of_span1? hspan
    exact absurd ⟨segment, rest, hne, hchars, (Text.span1?_append hspan).symm⟩ h
  · rfl

/-- Two spellings of a path lie in the same module if both name one or neither does. -/
theorem moduleOf_eq_iff (h : Path.ofText p = Path.ofText q) :
    (∀ fallback, moduleOf p fallback = moduleOf q fallback) ↔ (NamesModule p ↔ NamesModule q) := by
  -- a fallback that is longer than the module is not the module
  have hother {s t : String} (hs : NamesModule s) (ht : ¬ NamesModule t) :
      ∃ fallback, moduleOf s fallback ≠ moduleOf t fallback := by
    obtain ⟨first, -, hfirst⟩ := moduleOf_of_names hs
    refine ⟨first ++ "/", ?_⟩
    rw [hfirst, moduleOf_of_not_names ht]
    intro heq
    have hlength := congrArg String.length heq
    simp at hlength
  constructor
  · intro hsame
    by_cases hp : NamesModule p <;> by_cases hq : NamesModule q
    · exact iff_of_true hp hq
    · obtain ⟨fallback, hne⟩ := hother hp hq
      exact absurd (hsame fallback) hne
    · obtain ⟨fallback, hne⟩ := hother hq hp
      exact absurd (hsame fallback).symm hne
    · exact iff_of_false hp hq
  · intro hiff fallback
    by_cases hp : NamesModule p
    · obtain ⟨first, hfirst, hmodule⟩ := moduleOf_of_names hp
      obtain ⟨first', hfirst', hmodule'⟩ := moduleOf_of_names (hiff.1 hp)
      rw [h, hfirst'] at hfirst
      rw [hmodule, hmodule', Option.some.inj hfirst]
    · rw [moduleOf_of_not_names hp, moduleOf_of_not_names (mt hiff.2 hp)]

/-- A module is named where a relative path starts with its first part, and has a slash behind it. -/
theorem namesModule_iff : NamesModule s ↔ ∃ first rest, partsOf s.toList = first :: rest ∧
    (∀ c ∈ first, isModuleChar c = true) ∧ anchorOf s.toList = .relative ∧ ¬ LedByPoint s ∧
    (rest = [] → Trails s) := by
  constructor
  · rintro ⟨segment, rest, hne, hchars, htext⟩
    have hpart := isPart_of_moduleChars hne hchars
    obtain ⟨c, more, hc⟩ := List.exists_cons_of_ne_nil hne
    have hpieces : pieces s.toList = segment :: pieces rest := by
      rw [htext, pieces_append_slash, pieces, Text.splitOn_of_forall hpart.no_slash]
      rfl
    refine ⟨segment, partsOf rest, ?_, hchars, ?_, ?_, fun hrest => ?_⟩
    · rw [htext, partsOf_append_slash, hpart.partsOf_eq]
      rfl
    · rw [anchorOf_eq_relative_iff, htext, hc]
      have hslash := hpart.no_slash c (by simp [hc])
      simpa using hslash
    · intro hled
      obtain ⟨others, -, hpointed⟩ := ledByPoint_iff.1 hled
      rw [hpieces] at hpointed
      exact hpart.ne_point (List.cons.inj hpointed).1
    · exact trails_of_partsOf_eq_nil (x := [segment]) hpieces (by simp) hrest
  · rintro ⟨first, rest, hparts, hchars, hanchor, hled, htrails⟩
    obtain ⟨piece, others, hpieces⟩ : ∃ piece others, pieces s.toList = piece :: others :=
      List.exists_cons_of_ne_nil (Text.splitOn_ne_nil _ _)
    rw [partsOf_eq, hpieces] at hparts
    have hothers : others ≠ [] := by
      rintro rfl
      -- a text without slashes has one part at most, and does not trail
      have hrest : rest = [] := by
        have hle := List.length_filter_le counts [piece]
        rw [hparts] at hle
        simpa using hle
      obtain ⟨front, last, hfront, -, hsplit⟩ := trails_iff.1 (htrails hrest)
      rw [hpieces] at hsplit
      have hnil : front = [] := by simpa using congrArg List.length hsplit
      exact hfront hnil
    have hpiece : piece ≠ [] := first_piece_ne_nil hanchor hpieces hothers
    have hpoint : piece ≠ ['.'] := by
      rintro rfl
      exact hled (ledByPoint_iff.2 ⟨others, hothers, hpieces⟩)
    rw [List.filter_cons_of_pos (by simp [counts, hpiece, hpoint])] at hparts
    obtain ⟨rfl, -⟩ := List.cons.inj hparts
    have htext := eq_append_of_pieces (x := [piece]) hpieces (by simp) hothers
    exact ⟨piece, ['/'].intercalate others, hpiece, hchars, by simpa using htext⟩

/-! ## The directory that is mirrored -/

/-- A `main` with slashes on both sides stands in the text, behind some parts of the path. -/
def Framed (s : String) (above : List (List Char)) : Prop :=
  ∃ before after, s.toList = before ++ ("/main/".toList ++ after) ∧ partsOf before = above

/-- The parts in front of the first `main` that has slashes on both sides. -/
def aboveMirrored? (s : String) : Option (List (List Char)) :=
  (Text.beforeFirst? "/main/".toList s.toList).map partsOf

theorem pieces_of_main {before after : List Char}
    (h : s.toList = before ++ ("/main/".toList ++ after)) :
    pieces s.toList = pieces before ++ "main".toList :: pieces after := by
  have htext : s.toList = before ++ '/' :: ("main".toList ++ '/' :: after) := h
  rw [htext, pieces_append_slash, pieces_append_slash]
  rfl

theorem partsOf_of_main {before after : List Char}
    (h : s.toList = before ++ ("/main/".toList ++ after)) :
    partsOf s.toList = partsOf before ++ "main".toList :: partsOf after := by
  rw [partsOf_eq, pieces_of_main h, List.filter_append, List.filter_cons_of_pos (by decide)]
  rfl

/-- A `main` among the parts has slashes on both sides, but for a first part in a relative text without a
point in front, and for a last part with nothing behind. -/
theorem framed_iff : Framed s above ↔ ∃ below, partsOf s.toList = above ++ "main".toList :: below ∧
    (above = [] → anchorOf s.toList = .relative → LedByPoint s) ∧ (below = [] → Trails s) := by
  constructor
  · rintro ⟨before, after, htext, rfl⟩
    have hpieces := pieces_of_main htext
    refine ⟨partsOf after, partsOf_of_main htext, fun habove hanchor => ?_, fun hbelow => ?_⟩
    · obtain ⟨piece, others, hbefore⟩ : ∃ piece others, pieces before = piece :: others :=
        List.exists_cons_of_ne_nil (Text.splitOn_ne_nil _ _)
      rw [partsOf_eq, hbefore, List.filter_eq_nil_iff] at habove
      rw [hbefore, List.cons_append] at hpieces
      have hcounts : counts piece = false := Bool.eq_false_iff.2 (habove piece (by simp))
      have hpiece : piece ≠ [] := first_piece_ne_nil hanchor hpieces (by simp)
      rw [(eq_of_counts_eq_false hcounts).resolve_left hpiece] at hpieces
      exact ledByPoint_iff.2 ⟨_, by simp, hpieces⟩
    · have hsplit : pieces s.toList = (pieces before ++ ["main".toList]) ++ pieces after := by
        rw [hpieces, List.append_assoc, List.singleton_append]
      exact trails_of_partsOf_eq_nil hsplit (by simp) hbelow
  · rintro ⟨below, hparts, hled, htrails⟩
    rw [partsOf_eq] at hparts
    obtain ⟨front, rest, hpieces, hfront, hrest⟩ := List.filter_eq_append_iff.1 hparts
    obtain ⟨more, back, rfl, hmore, -, hback⟩ := List.filter_eq_cons_iff.1 hrest
    rw [← List.append_assoc] at hpieces
    have habove : (front ++ more).filter counts = above := by
      rw [List.filter_append, hfront, List.filter_eq_nil_iff.2 hmore, List.append_nil]
    have hfirst : front ++ more ≠ [] := by
      intro hnil
      -- then the text starts with `main`, so it is relative and no point stands in front
      rw [hnil] at hpieces habove
      have htext : s.toList.head? = some 'm' := by
        rw [eq_intercalate_pieces s.toList, hpieces]
        cases back <;> simp [List.intercalate_cons_cons]
      have hanchor : anchorOf s.toList = .relative := by
        rw [anchorOf_eq_relative_iff, htext]
        decide
      obtain ⟨others, -, hpointed⟩ := ledByPoint_iff.1 (hled habove.symm hanchor)
      rw [hpieces] at hpointed
      exact absurd (List.cons.inj hpointed).1 (by decide)
    have hlast : back ≠ [] := by
      rintro rfl
      obtain ⟨others, last, -, hcounts, htrailing⟩ := trails_iff.1 (htrails hback.symm)
      rw [hpieces] at htrailing
      have hmain := (List.append_inj' htrailing rfl).2
      rw [← (List.cons.inj hmain).1] at hcounts
      exact absurd hcounts (by decide)
    have htext := eq_append_of_pieces hpieces hfirst (by simp)
    have htail := Text.intercalate_append '/' (x := ["main".toList]) (by simp) hlast
    rw [List.singleton_append, List.intercalate_singleton] at htail
    rw [htail] at htext
    refine ⟨['/'].intercalate (front ++ more), ['/'].intercalate back, htext, ?_⟩
    have hmem : ∀ piece ∈ front ++ more, piece ∈ pieces s.toList := by
      intro piece hpiece
      rw [hpieces]
      exact List.mem_append_left _ hpiece
    rw [partsOf_pieces hmem hfirst, habove]

/-- The directory that is mirrored is the highest `main` with slashes on both sides. -/
theorem framed_of_aboveMirrored? (h : aboveMirrored? s = some above) : Framed s above := by
  obtain ⟨before, hbefore, rfl⟩ := Option.map_eq_some_iff.1 h
  obtain ⟨after, htext, -⟩ := Text.replaceFirst_of_beforeFirst? [] hbefore
  exact ⟨before, after, htext, rfl⟩

theorem exists_aboveMirrored? (h : Framed s above) :
    ∃ highest, aboveMirrored? s = some highest ∧ highest <+: above := by
  obtain ⟨front, after, htext, rfl⟩ := h
  have hmain : "/main/".toList ≠ [] := by decide
  obtain ⟨before, hbefore, rest, rfl⟩ := Text.exists_beforeFirst? hmain front after
  rw [← htext] at hbefore
  refine ⟨partsOf before, by rw [aboveMirrored?, hbefore]; rfl, ?_⟩
  obtain ⟨behind, hsplit, -⟩ := Text.replaceFirst_of_beforeFirst? [] hbefore
  rw [htext, List.append_assoc, List.append_cancel_left_eq] at hsplit
  cases rest with
  | nil => simp
  | cons c rest =>
    -- a slash stands behind the shorter one, so what is longer has further parts
    have hslash : c = '/' := (List.cons.inj hsplit).1
    rw [hslash, partsOf_append_slash]
    exact List.prefix_append _ _

theorem aboveMirrored?_congr (h : ∀ above, Framed p above ↔ Framed q above) :
    aboveMirrored? p = aboveMirrored? q := by
  have hle {s t : String} (hst : ∀ above, Framed s above → Framed t above) {above : List (List Char)}
      (hs : aboveMirrored? s = some above) : ∃ highest, aboveMirrored? t = some highest ∧
        highest <+: above :=
    exists_aboveMirrored? (hst above (framed_of_aboveMirrored? hs))
  cases hp : aboveMirrored? p with
  | none =>
    cases hq : aboveMirrored? q with
    | none => rfl
    | some above =>
      obtain ⟨highest, hsome, -⟩ := hle (fun other => (h other).2) hq
      rw [hp] at hsome
      cases hsome
  | some above =>
    obtain ⟨other, hq, hqp⟩ := hle (fun other => (h other).1) hp
    obtain ⟨highest, hhighest, hpq⟩ := hle (fun other => (h other).2) hq
    rw [hp] at hhighest
    obtain ⟨⟩ := hhighest
    rw [hq, hqp.eq_of_length_le hpq.length_le]

/-! ## The place of the test file -/

theorem inTestTree_of_aboveMirrored? (h : aboveMirrored? s = some above) :
    ∃ below, partsOf s.toList = above ++ "main".toList :: below ∧ inTestTree s =
      ⟨anchorOf s.toList, (above ++ "test".toList :: below).map String.ofList⟩ := by
  obtain ⟨before, hbefore, rfl⟩ := Option.map_eq_some_iff.1 h
  obtain ⟨after, htext, hnew⟩ := Text.replaceFirst_of_beforeFirst? "/test/".toList hbefore
  refine ⟨partsOf after, partsOf_of_main htext, ?_⟩
  have htest : IsPart "test".toList := ⟨by decide, by decide, by decide⟩
  have hanchor : anchorOf (before ++ ("/test/".toList ++ after)) = anchorOf s.toList := by
    rw [htext]
    exact (anchorOf_append_slash (by decide) before _).trans
      (anchorOf_append_slash (by decide) before _).symm
  have hparts : partsOf (before ++ ("/test/".toList ++ after)) =
      partsOf before ++ "test".toList :: partsOf after :=
    partsOf_of_middle "test".toList htest before after
  rw [inTestTree, hnew, Path.ofText, String.toList_ofList, hanchor, hparts]

theorem inTestTree_of_aboveMirrored?_eq_none (h : aboveMirrored? s = none) :
    inTestTree s = Path.ofText s := by
  rw [inTestTree, Text.replaceFirst_of_beforeFirst?_eq_none _ (Option.map_eq_none_iff.1 h),
    String.ofList_toList]

/-- Spellings of one path have the same place in the test tree if the same directory is mirrored. -/
theorem inTestTree_eq_iff (h : Path.ofText p = Path.ofText q) :
    inTestTree p = inTestTree q ↔ aboveMirrored? p = aboveMirrored? q := by
  have hanchor : anchorOf p.toList = anchorOf q.toList := congrArg Path.anchor h
  have hparts : (partsOf p.toList).map String.ofList = (partsOf q.toList).map String.ofList :=
    congrArg Path.parts h
  have hinj {x y : List (List Char)} : x.map String.ofList = y.map String.ofList ↔ x = y :=
    List.map_inj_right fun _ _ => String.ofList_inj.1
  rw [hinj] at hparts
  have hmoved {s t : String} (hst : Path.ofText s = Path.ofText t) {above : List (List Char)}
      (hs : aboveMirrored? s = some above) (ht : aboveMirrored? t = none) :
      inTestTree s ≠ inTestTree t := by
    obtain ⟨below, hbelow, htree⟩ := inTestTree_of_aboveMirrored? hs
    rw [inTestTree_of_aboveMirrored?_eq_none ht, ← hst, htree, Path.ofText, hbelow]
    intro hsame
    have hlists := hinj.1 (congrArg Path.parts hsame)
    simp at hlists
  cases hp : aboveMirrored? p with
  | none =>
    cases hq : aboveMirrored? q with
    | none =>
      rw [inTestTree_of_aboveMirrored?_eq_none hp, inTestTree_of_aboveMirrored?_eq_none hq]
      exact iff_of_true h rfl
    | some above => exact iff_of_false (hmoved h.symm hq hp).symm (by simp)
  | some above =>
    cases hq : aboveMirrored? q with
    | none => exact iff_of_false (hmoved h hp hq) (by simp)
    | some other =>
      obtain ⟨below, hbelow, htree⟩ := inTestTree_of_aboveMirrored? hp
      obtain ⟨below', hbelow', htree'⟩ := inTestTree_of_aboveMirrored? hq
      rw [hbelow, hbelow'] at hparts
      rw [htree, htree', hanchor, Path.mk.injEq, hinj, Option.some.injEq]
      constructor
      · rintro ⟨-, hsame⟩
        exact eq_of_append_cons (by decide) hparts hsame
      · rintro rfl
        rw [List.append_cancel_left_eq, List.cons.injEq] at hparts
        rw [hparts.2]
        exact ⟨rfl, rfl⟩

theorem name_inTestTree_cases (s : String) : (inTestTree s).name = (Path.ofText s).name ∨
    (Path.ofText s).name = "main" ∧ (inTestTree s).name = "test" := by
  unfold Path.name
  rcases parts_inTestTree s with hsame | ⟨before, after, hmain, htest⟩
  · exact .inl (by rw [hsame])
  · rw [hmain, htest]
    cases after with
    | nil => exact .inr (by simp)
    | cons first rest => exact .inl (by simp [List.getLastD_eq_getLast?])

/-- Spellings of one path have the same test file if they have the same place in the test tree. -/
theorem testPath_eq_iff (h : Path.ofText p = Path.ofText q) :
    testPath p = testPath q ↔ inTestTree p = inTestTree q := by
  constructor
  · intro hsame
    by_cases hnil : (Path.ofText p).parts = []
    · rw [testPath_of_nameless hnil, testPath_of_nameless (h ▸ hnil)] at hsame
      exact Except.error.inj hsame
    · obtain ⟨dirs, htree⟩ := exists_dirs (mt parts_inTestTree_eq_nil_iff.1 hnil)
      obtain ⟨dirs', htree'⟩ := exists_dirs (mt parts_inTestTree_eq_nil_iff.1 (h ▸ hnil))
      rw [testPath_of_inTestTree htree, testPath_of_inTestTree htree', Except.ok.injEq] at hsame
      have hpaths := congrArg Path.ofText hsame
      rw [ofText_testPath htree, ofText_testPath htree', Path.mk.injEq] at hpaths
      obtain ⟨hdirs, hnames⟩ := List.append_inj' hpaths.2 (by simp)
      have htests : testName (inTestTree p).name = testName (inTestTree q).name :=
        (List.cons.inj hnames).1
      -- only the name `main` is changed, and it has not the test file of the name `test`
      have hname : (inTestTree p).name = (inTestTree q).name := by
        rcases name_inTestTree_cases p with hp | ⟨hmain, hp⟩ <;>
          rcases name_inTestTree_cases q with hq | ⟨hmain', hq⟩
        · rw [hp, hq, h]
        · rw [hp, hq, h, hmain'] at htests
          exact absurd htests (by decide)
        · rw [hp, hq, ← h, hmain] at htests
          exact absurd htests (by decide)
        · rw [hp, hq]
      rw [htree, htree', hpaths.1, hdirs, hname]
  · intro hsame
    rw [testPath, testPath, hsame]

/-! ## What depends on the spelling -/

/-- **Spellings of a path.** Two texts are of one path. Class and package are the same for both. The module
is the same, whatever stands in for it, exactly if both texts name one or neither does, and the test file
is the same, or missing for both, exactly if the same directory is mirrored. So both are the same if both
texts or neither have a point and a slash in front, and if both or neither have a piece behind that does
not count. -/
theorem layout_of_spellings (p q : String) (h : Path.ofText p = Path.ofText q) :
    className p = className q ∧
    (∀ marker fallback, packageOf p marker fallback = packageOf q marker fallback) ∧
    ((∀ fallback, moduleOf p fallback = moduleOf q fallback) ↔ (NamesModule p ↔ NamesModule q)) ∧
    (testPath p = testPath q ↔ aboveMirrored? p = aboveMirrored? q) ∧
    ((LedByPoint p ↔ LedByPoint q) → (Trails p ↔ Trails q) →
      (∀ fallback, moduleOf p fallback = moduleOf q fallback) ∧ testPath p = testPath q) := by
  have hanchor : anchorOf p.toList = anchorOf q.toList := congrArg Path.anchor h
  have hparts : partsOf p.toList = partsOf q.toList :=
    (List.map_inj_right fun _ _ => String.ofList_inj.1).1 (congrArg Path.parts h)
  have htests := (testPath_eq_iff h).trans (inTestTree_eq_iff h)
  refine ⟨by rw [className, className, h], fun marker fallback => packageOf_congr (by rw [h]),
    moduleOf_eq_iff h, htests, fun hled htrails => ⟨?_, htests.2 (aboveMirrored?_congr ?_)⟩⟩
  · rw [moduleOf_eq_iff h, namesModule_iff, namesModule_iff, hanchor, hparts, hled, htrails]
  · intro above
    rw [framed_iff, framed_iff, hanchor, hparts, hled, htrails]

/-- A slash twice and a point inside of a path change nothing. -/
theorem layout_of_repeated_slash :
    Path.ofText "m//src/./main/Foo.kt" = Path.ofText "m/src/main/Foo.kt" ∧
    (∀ fallback, moduleOf "m//src/./main/Foo.kt" fallback = moduleOf "m/src/main/Foo.kt" fallback) ∧
    testPath "m//src/./main/Foo.kt" = testPath "m/src/main/Foo.kt" := by
  have h : Path.ofText "m//src/./main/Foo.kt" = Path.ofText "m/src/main/Foo.kt" := by decide +kernel
  obtain ⟨-, -, -, -, hsame⟩ := layout_of_spellings "m//src/./main/Foo.kt" "m/src/main/Foo.kt" h
  exact ⟨h, hsame (by decide +kernel) (by decide +kernel)⟩

/-- A point in front hides the module and shows a `main` that has no slash in front, and a point behind a
directory `main` makes it one that is mirrored. -/
theorem spelling_matters :
    (Path.ofText "./m/src/FooTest.kt" = Path.ofText "m/src/FooTest.kt" ∧
      moduleOf "./m/src/FooTest.kt" "app" = "app" ∧ moduleOf "m/src/FooTest.kt" "app" = "m") ∧
    (Path.ofText "./main/Foo.kt" = Path.ofText "main/Foo.kt" ∧
      (testPath "./main/Foo.kt").toOption = some "test/FooTest.kt" ∧
      (testPath "main/Foo.kt").toOption = some "main/FooTest.kt") ∧
    (Path.ofText "m/src/main/." = Path.ofText "m/src/main" ∧
      (testPath "m/src/main/.").toOption = some "m/src/testTest" ∧
      (testPath "m/src/main").toOption = some "m/src/mainTest") := by
  refine ⟨⟨?_, ?_, ?_⟩, ⟨?_, ?_, ?_⟩, ?_, ?_, ?_⟩ <;> decide +kernel

end Layout

end Testsmith
