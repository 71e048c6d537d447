import Testsmith.Proofs.Scanning

/-!
# Balanced texts

A text is balanced where its four kinds of bracket are nested and each is closed by its own kind; the `>`
of an arrow closes nothing. That is told with a stack of the brackets that are to be closed
(`openBehind`), while the scanners only count: the one counts brackets of all kinds
(`depthAfter_of_openAfter`), the other one round brackets alone (`groupFrom_cons_of_openAfter`). Along
a text that goes well for the stack, both counts are right, so that a balanced text is passed over by
both (`splitFrom_append`, `groupFrom_append`), whatever stands in front of it. The main statements are
`splitTopLevel_intercalate` and `group?_of_balanced`.
-/

namespace Testsmith.Signature

open Text

/-! ## The brackets that are open -/

/-- The brackets that belong together. -/
def brackets : List (Char × Char) := [('(', ')'), ('<', '>'), ('[', ']'), ('\x7b', '\x7d')]

/-- The bracket that closes an opening one. -/
def closer? (c : Char) : Option Char := (brackets.find? (·.1 = c)).map (·.2)

/-- The brackets that are to be closed behind a character, the innermost one first, given those in
front of it. There are none where the character closes what is not the innermost one. -/
def openAfter (before : Option Char) (opened : List Char) (c : Char) : Option (List Char) :=
  match closer? c with
  | some closer => some (closer :: opened)
  | none =>
    if isCloser c && !(c = '>' && before = some '-') then
      match opened with
      | [] => none
      | closer :: outer => if c = closer then some outer else none
    else some opened

/-- The brackets that are to be closed behind a text. -/
def openBehind (before : Option Char) (opened : List Char) : List Char → Option (List Char)
  | [] => some opened
  | c :: rest => (openAfter before opened c).bind fun inner => openBehind (some c) inner rest

/-- Brackets are nested, and each is closed by its own kind. -/
def Balanced (text : List Char) : Prop := openBehind none [] text = some []

instance (text : List Char) : Decidable (Balanced text) :=
  inferInstanceAs (Decidable (openBehind none [] text = some []))

/-- The characters behind which no bracket is open, from a place in a text on. -/
def outsideFrom (before : Option Char) (opened : List Char) : List Char → List Char
  | [] => []
  | c :: rest =>
    match openAfter before opened c with
    | none => []
    | some [] => c :: outsideFrom (some c) [] rest
    | some (closer :: outer) => outsideFrom (some c) (closer :: outer) rest

/-- The characters of a text behind which no bracket is open: those outside all brackets, and the
brackets that close an outermost group. -/
def outside (text : List Char) : List Char := outsideFrom none [] text

def isBracket (c : Char) : Bool := isOpener c || isCloser c

example : Balanced "(a: Map<K, V>) -> [\x7b\x7d]".toList := by decide
example : ¬ Balanced "(a<b)>".toList := by decide
example : outside "Map<K, V>, (A) -> B".toList = "Map>, ) -> B".toList := by decide

/-! ## Steps -/

section Step

variable {before : Option Char} {opened inner : List Char} {c : Char}

theorem mem_brackets_of_closer? {closer : Char} (h : closer? c = some closer) :
    (c, closer) ∈ brackets := by
  obtain ⟨pair, hfind, rfl⟩ := Option.map_eq_some_iff.1 h
  have hc : pair.1 = c := by simpa using List.find?_some hfind
  rw [← hc]
  exact List.mem_of_find?_eq_some hfind

theorem isOpener_eq (c : Char) : isOpener c = (closer? c).isSome := by
  rw [closer?, Option.isSome_map, List.isSome_find?]
  simp [isOpener, brackets, Bool.or_assoc, eq_comm]

/-- The character closes a bracket, being no head of an arrow. -/
def closes (before : Option Char) (c : Char) : Bool := isCloser c && !(c = '>' && before = some '-')

/-- What a character can do to the open brackets: it opens one, closes the innermost one, or leaves
them alone. -/
theorem openAfter_cases (h : openAfter before opened c = some inner) :
    (∃ closer, closer? c = some closer ∧ isOpener c = true ∧ inner = closer :: opened) ∨
      (isOpener c = false ∧ closes before c = true ∧ opened = c :: inner) ∨
      (isOpener c = false ∧ closes before c = false ∧ inner = opened) := by
  rw [isOpener_eq]
  unfold openAfter at h
  split at h
  · next closer hopen => exact .inl ⟨closer, hopen, by rw [hopen]; rfl, (Option.some.inj h).symm⟩
  · next hopen =>
    have hnot : (closer? c).isSome = false := by rw [hopen]; rfl
    split at h
    · next hcloses =>
      refine .inr (.inl ⟨hnot, hcloses, ?_⟩)
      split at h
      · cases h
      · next closer outer =>
        split at h
        · next hc => rw [hc, Option.some.inj h]
        · cases h
    · next hcloses => exact .inr (.inr ⟨hnot, Bool.not_eq_true _ ▸ hcloses, (Option.some.inj h).symm⟩)

theorem openAfter_of_not_bracket (h : isBracket c = false) :
    openAfter before opened c = some opened := by
  rw [isBracket, Bool.or_eq_false_iff, isOpener_eq, Option.isSome_eq_false_iff,
    Option.isNone_iff_eq_none] at h
  simp [openAfter, h.1, h.2]

theorem openAfter_opener {opener closer : Char} (h : (opener, closer) ∈ brackets) :
    openAfter before opened opener = some (closer :: opened) := by
  simp only [brackets, List.mem_cons, Prod.mk.injEq, List.not_mem_nil, or_false] at h
  rcases h with ⟨rfl, rfl⟩ | ⟨rfl, rfl⟩ | ⟨rfl, rfl⟩ | ⟨rfl, rfl⟩ <;> rfl

theorem openAfter_closer {opener closer : Char} (h : (opener, closer) ∈ brackets)
    (hbefore : closer = '>' → before ≠ some '-') :
    openAfter before (closer :: opened) closer = some opened := by
  simp only [brackets, List.mem_cons, Prod.mk.injEq, List.not_mem_nil, or_false] at h
  rcases h with ⟨rfl, rfl⟩ | ⟨rfl, rfl⟩ | ⟨rfl, rfl⟩ | ⟨rfl, rfl⟩ <;>
    simp_all [openAfter, closer?, brackets, isCloser]

/-- What stands in front matters to the head of an arrow only. -/
theorem openAfter_of_ne (h : c ≠ '>') : openAfter before opened c = openAfter none opened c := by
  simp [openAfter, h]

/-- The number of open brackets is the depth that a separation counts. -/
theorem depthAfter_of_openAfter (h : openAfter before opened c = some inner) :
    depthAfter before opened.length c = inner.length := by
  have hdepth : ∀ depth, depthAfter before depth c =
      if isOpener c then depth + 1 else if closes before c then depth - 1 else depth := fun _ => rfl
  rw [hdepth]
  rcases openAfter_cases h with ⟨closer, -, hopen, rfl⟩ | ⟨hopen, hcloses, rfl⟩ |
    ⟨hopen, hcloses, rfl⟩
  · rw [hopen]; rfl
  · rw [hopen, hcloses]; rfl
  · rw [hopen, hcloses]; rfl

/-- Open brackets further out are left alone. -/
theorem openAfter_append (h : openAfter before opened c = some inner) (outer : List Char) :
    openAfter before (opened ++ outer) c = some (inner ++ outer) := by
  unfold openAfter at h ⊢
  split at h
  · cases h; rfl
  · split at h
    · split at h
      · cases h
      · next closer opened =>
        split at h
        · next hcloses _ hc => cases h; rw [if_pos hcloses]; exact if_pos hc
        · cases h
    · next hcloses => cases h; rw [if_neg hcloses]

/-! ## The first group -/

theorem groupFrom_of_ne (hopen : c ≠ '(') (hclose : c ≠ ')') (n : Nat) (rest : List Char) :
    groupFrom n (c :: rest) = (groupFrom n rest).map fun (inside, after) => (c :: inside, after) := by
  simp [groupFrom, hopen, hclose]

theorem groupFrom_opener (n : Nat) (rest : List Char) :
    groupFrom n ('(' :: rest) =
      (groupFrom (n + 1) rest).map fun (inside, after) => ('(' :: inside, after) := rfl

theorem groupFrom_closer (n : Nat) (rest : List Char) :
    groupFrom (n + 1) (')' :: rest) =
      (groupFrom n rest).map fun (inside, after) => (')' :: inside, after) := rfl

theorem groupFrom_end (rest : List Char) : groupFrom 0 (')' :: rest) = some ([], rest) := rfl

theorem group?_of_not_mem {text : List Char} (h : '(' ∉ text) : group? text = none := by
  rw [group?, List.dropWhile_eq_nil_iff.2 (bne_of_not_mem h)]

/-- A group starts at the first opening bracket. -/
theorem group?_append_opener {front : List Char} (h : '(' ∉ front) (rest : List Char) :
    group? (front ++ '(' :: rest) = groupFrom 0 rest := by
  rw [group?, dropWhile_append (bne_of_not_mem h) (by rintro c ⟨⟩; decide)]

/-- The round brackets among the open ones are those that a group counts. -/
theorem groupFrom_cons_of_openAfter (h : openAfter before opened c = some inner)
    (rest : List Char) :
    groupFrom (opened.count ')') (c :: rest) =
      (groupFrom (inner.count ')') rest).map fun (inside, after) => (c :: inside, after) := by
  rcases openAfter_cases h with ⟨closer, hcloser, -, rfl⟩ | ⟨hopen, hcloses, rfl⟩ |
    ⟨hopen, hcloses, rfl⟩
  · have hpair := mem_brackets_of_closer? hcloser
    simp only [brackets, List.mem_cons, Prod.mk.injEq, List.not_mem_nil, or_false] at hpair
    rcases hpair with ⟨rfl, rfl⟩ | ⟨rfl, rfl⟩ | ⟨rfl, rfl⟩ | ⟨rfl, rfl⟩
    · rw [groupFrom_opener, List.count_cons_self]
    all_goals
      rw [groupFrom_of_ne (by decide) (by decide), List.count_cons_of_ne (by decide)]
  · by_cases hc : c = ')'
    · subst hc
      rw [List.count_cons_self, groupFrom_closer]
    · have hround : c ≠ '(' := by rintro rfl; exact absurd hopen (by decide)
      rw [List.count_cons_of_ne hc, groupFrom_of_ne hround hc]
  · have hround : c ≠ '(' := by rintro rfl; exact absurd hopen (by decide)
    have hc : c ≠ ')' := by
      rintro rfl
      simp [closes, isCloser] at hcloses
    exact groupFrom_of_ne hround hc _ _

end Step

/-! ## Texts -/

section Behind

variable {before : Option Char} {opened inner x y : List Char} {isSep : Char → Bool}

theorem openBehind_cons {c : Char} : openBehind before opened (c :: x) = some inner ↔
    ∃ middle, openAfter before opened c = some middle ∧ openBehind (some c) middle x = some inner :=
  Option.bind_eq_some_iff

theorem outsideFrom_cons {c : Char} {middle : List Char}
    (h : openAfter before opened c = some middle) : outsideFrom before opened (c :: x) =
      (if middle = [] then [c] else []) ++ outsideFrom (some c) middle x := by
  rw [outsideFrom, h]
  cases middle <;> rfl

theorem mem_of_mem_outsideFrom {c : Char} (h : c ∈ outsideFrom before opened x) : c ∈ x := by
  induction x generalizing before opened with
  | nil => exact h
  | cons d x ih =>
    cases hd : openAfter before opened d with
    | none => rw [outsideFrom, hd] at h; exact absurd h List.not_mem_nil
    | some middle =>
      rw [outsideFrom_cons hd, List.mem_append] at h
      rcases h with h | h
      · split at h
        · rw [List.mem_singleton.1 h]
          exact List.mem_cons_self
        · exact absurd h List.not_mem_nil
      · exact List.mem_cons_of_mem d (ih h)

theorem openBehind_append (h : openBehind before opened x = some inner) (y : List Char) :
    openBehind before opened (x ++ y) = openBehind (x.getLast?.or before) inner y := by
  induction x generalizing before opened with
  | nil => cases h; rfl
  | cons c x ih =>
    obtain ⟨middle, hc, hx⟩ := openBehind_cons.1 h
    rw [List.cons_append, openBehind, hc, getLast?_cons_or]
    exact ih hx

theorem outsideFrom_append (h : openBehind before opened x = some inner) (y : List Char) :
    outsideFrom before opened (x ++ y) =
      outsideFrom before opened x ++ outsideFrom (x.getLast?.or before) inner y := by
  induction x generalizing before opened with
  | nil => cases h; rfl
  | cons c x ih =>
    obtain ⟨middle, hc, hx⟩ := openBehind_cons.1 h
    rw [List.cons_append, outsideFrom_cons hc, outsideFrom_cons hc, getLast?_cons_or, ih hx,
      List.append_assoc]

theorem openBehind_outer (h : openBehind before opened x = some inner) (outer : List Char) :
    openBehind before (opened ++ outer) x = some (inner ++ outer) := by
  induction x generalizing before opened with
  | nil => cases h; rfl
  | cons c x ih =>
    obtain ⟨middle, hc, hx⟩ := openBehind_cons.1 h
    exact openBehind_cons.2 ⟨middle ++ outer, openAfter_append hc outer, ih hx⟩

/-- Inside of a bracket that stays open nothing is outside of all brackets. -/
theorem outsideFrom_outer (h : openBehind before opened x = some inner) (closer : Char)
    (outer : List Char) : outsideFrom before (opened ++ closer :: outer) x = [] := by
  induction x generalizing before opened with
  | nil => rfl
  | cons c x ih =>
    obtain ⟨middle, hc, hx⟩ := openBehind_cons.1 h
    rw [outsideFrom_cons (openAfter_append hc (closer :: outer)), ih hx,
      if_neg (List.append_ne_nil_of_right_ne_nil _ (List.cons_ne_nil closer outer))]
    rfl

/-- Round brackets are counted rightly along a text. -/
theorem groupFrom_append (h : openBehind before opened x = some inner) (rest : List Char) :
    groupFrom (opened.count ')') (x ++ rest) =
      (groupFrom (inner.count ')') rest).map fun (inside, after) => (x ++ inside, after) := by
  induction x generalizing before opened with
  | nil => cases h; simp
  | cons c x ih =>
    obtain ⟨middle, hc, hx⟩ := openBehind_cons.1 h
    rw [List.cons_append, groupFrom_cons_of_openAfter hc, ih hx, Option.map_map]
    rfl

/-- A text is passed over by a separation where no separator stands outside its brackets. -/
theorem splitFrom_append (h : openBehind before opened x = some inner)
    (hsep : ∀ c ∈ outsideFrom before opened x, isSep c = false) (rest : List Char) :
    splitFrom isSep before opened.length (x ++ rest) =
      x.foldr consFirst (splitFrom isSep (x.getLast?.or before) inner.length rest) := by
  induction x generalizing before opened with
  | nil => cases h; rfl
  | cons c x ih =>
    obtain ⟨middle, hc, hx⟩ := openBehind_cons.1 h
    rw [outsideFrom_cons hc] at hsep
    have hnot : ¬ (isSep c && middle.length = 0) = true := by
      cases middle with
      | nil => simp [hsep c (by simp)]
      | cons closer outer => simp
    rw [List.cons_append, splitFrom, depthAfter_of_openAfter hc, if_neg hnot, getLast?_cons_or,
      List.foldr_cons, ih hx fun d hd => hsep d (List.mem_append_right _ hd)]

end Behind

/-! ## Balanced texts -/

section Balanced

variable {before : Option Char} {x y : List Char}

theorem balanced_nil : Balanced [] := rfl

/-- No balanced text starts with the head of an arrow, so it does not matter what stands in front. -/
theorem Balanced.openAfter_head {c : Char} (h : Balanced (c :: x)) :
    openAfter before [] c = openAfter none [] c := by
  refine openAfter_of_ne ?_
  rintro rfl
  obtain ⟨middle, hc, -⟩ := openBehind_cons.1 h
  cases hc

theorem Balanced.openBehind_eq (h : Balanced x) (before : Option Char) (outer : List Char) :
    openBehind before outer x = some outer := by
  have hclosed : openBehind before [] x = some [] := by
    cases x with
    | nil => rfl
    | cons c x => rw [openBehind, h.openAfter_head]; exact h
  exact openBehind_outer hclosed outer

theorem Balanced.outsideFrom_eq (h : Balanced x) (before : Option Char) :
    outsideFrom before [] x = outside x := by
  cases x with
  | nil => rfl
  | cons c x =>
    obtain ⟨middle, hc, -⟩ := openBehind_cons.1 h
    rw [outside, outsideFrom_cons hc, outsideFrom_cons (h.openAfter_head.trans hc)]

theorem Balanced.append (hx : Balanced x) (hy : Balanced y) : Balanced (x ++ y) := by
  rw [Balanced, openBehind_append hx]
  exact hy.openBehind_eq _ []

theorem Balanced.outside_append (hx : Balanced x) (hy : Balanced y) :
    outside (x ++ y) = outside x ++ outside y := by
  rw [outside, outsideFrom_append hx, hy.outsideFrom_eq]
  rfl

section Group

variable {opener closer : Char} (hbracket : (opener, closer) ∈ brackets)
  (harrow : closer = '>' → x.getLast? ≠ some '-')

include hbracket harrow

theorem openAfter_group : openAfter (x.getLast?.or (some opener)) [closer] closer = some [] := by
  refine openAfter_closer hbracket fun hcloser => ?_
  cases hlast : x.getLast? with
  | none =>
    simp only [brackets, List.mem_cons, Prod.mk.injEq, List.not_mem_nil, or_false] at hbracket
    rcases hbracket with ⟨rfl, rfl⟩ | ⟨rfl, rfl⟩ | ⟨rfl, rfl⟩ | ⟨rfl, rfl⟩ <;> decide
  | some c => simpa [hlast] using harrow hcloser

/-- A balanced text in brackets is balanced, where the closing one is no head of an arrow. -/
theorem Balanced.group (h : Balanced x) : Balanced (opener :: (x ++ [closer])) := by
  refine openBehind_cons.2 ⟨[closer], openAfter_opener hbracket, ?_⟩
  rw [openBehind_append (h.openBehind_eq (some opener) [closer])]
  exact openBehind_cons.2 ⟨[], openAfter_group hbracket harrow, rfl⟩

theorem Balanced.outside_group (h : Balanced x) : outside (opener :: (x ++ [closer])) = [closer] := by
  have hopen : openAfter none [] opener = some [closer] := openAfter_opener hbracket
  have hinside : outsideFrom (some opener) [closer] x = [] :=
    outsideFrom_outer (h.openBehind_eq (some opener) []) closer []
  rw [outside, outsideFrom_cons hopen, outsideFrom_append (h.openBehind_eq (some opener) [closer]),
    outsideFrom_cons (openAfter_group hbracket harrow), hinside]
  rfl

end Group

theorem balanced_of_not_bracket (h : ∀ c ∈ x, isBracket c = false) : Balanced x := by
  induction x with
  | nil => rfl
  | cons c x ih =>
    have hc : Balanced [c] := by
      rw [Balanced, openBehind, openAfter_of_not_bracket (h c List.mem_cons_self)]
      rfl
    exact hc.append (ih fun d hd => h d (List.mem_cons_of_mem c hd))

end Balanced

/-! ## Parts and groups -/

theorem foldr_consFirst (x part : List Char) (parts : List (List Char)) :
    x.foldr consFirst (part :: parts) = (x ++ part) :: parts := by
  induction x with
  | nil => rfl
  | cons c x ih => rw [List.foldr_cons, ih]; rfl

/-- A balanced text in which no separator stands outside the brackets. -/
structure IsPart (isSep : Char → Bool) (x : List Char) : Prop where
  balanced : Balanced x
  no_sep : ∀ c ∈ outside x, isSep c = false

section Parts

variable {isSep : Char → Bool} {sep : Char} {x : List Char} {before : Option Char}

theorem IsPart.splitFrom_append (h : IsPart isSep x) (before : Option Char) (rest : List Char) :
    splitFrom isSep before 0 (x ++ rest) =
      x.foldr consFirst (splitFrom isSep (x.getLast?.or before) 0 rest) :=
  Signature.splitFrom_append (h.balanced.openBehind_eq before [])
    (by rw [h.balanced.outsideFrom_eq]; exact h.no_sep) rest

theorem splitFrom_sep (hsep : isSep sep = true) (hbracket : isBracket sep = false)
    (rest : List Char) :
    splitFrom isSep before 0 (sep :: rest) = [] :: splitFrom isSep (some sep) 0 rest := by
  have hopen : openAfter before [] sep = some [] := openAfter_of_not_bracket hbracket
  have hdepth : depthAfter before 0 sep = 0 := depthAfter_of_openAfter hopen
  rw [splitFrom, hsep, hdepth]
  rfl

/-- The parts of balanced texts with separators in between are these texts, and what follows the last
one is cut on from there. -/
theorem splitFrom_intercalate (hsep : isSep sep = true) (hbracket : isBracket sep = false)
    {parts : List (List Char)} {last : List Char} (hparts : ∀ part ∈ parts, IsPart isSep part)
    (hlast : IsPart isSep last) (before : Option Char) (rest : List Char) : ∃ behind,
    splitFrom isSep before 0 (List.intercalate [sep] (parts ++ [last]) ++ rest) =
      parts ++ last.foldr consFirst (splitFrom isSep behind 0 rest) := by
  induction parts generalizing before with
  | nil =>
    refine ⟨last.getLast?.or before, ?_⟩
    rw [List.nil_append, List.intercalate_singleton]
    exact hlast.splitFrom_append before rest
  | cons part parts ih =>
    obtain ⟨next, others, hnext⟩ :=
      List.exists_cons_of_ne_nil (List.append_ne_nil_of_right_ne_nil parts (List.cons_ne_nil last []))
    obtain ⟨behind, htail⟩ :=
      ih (fun other hother => hparts other (List.mem_cons_of_mem part hother)) (some sep)
    have hpart := (hparts part List.mem_cons_self).splitFrom_append before
    refine ⟨behind, ?_⟩
    rw [List.cons_append, hnext, List.intercalate_cons_cons, ← hnext, List.append_assoc,
      List.append_assoc, hpart, List.singleton_append, splitFrom_sep hsep hbracket, htail,
      foldr_consFirst, List.append_nil]
    rfl

theorem splitTopLevel_intercalate (hsep : isSep sep = true) (hbracket : isBracket sep = false)
    (parts : List (List Char)) (hne : parts ≠ []) (hparts : ∀ part ∈ parts, IsPart isSep part) :
    splitTopLevel isSep (List.intercalate [sep] parts) = parts := by
  obtain ⟨front, last, rfl⟩ : ∃ front last, parts = front ++ [last] :=
    ⟨parts.dropLast, parts.getLast hne, (List.dropLast_concat_getLast hne).symm⟩
  have hfront : ∀ part ∈ front, IsPart isSep part :=
    fun part hpart => hparts part (List.mem_append_left _ hpart)
  obtain ⟨behind, hsplit⟩ :=
    splitFrom_intercalate hsep hbracket hfront (hparts last (by simp)) none []
  rw [List.append_nil, splitFrom, foldr_consFirst, List.append_nil] at hsplit
  exact hsplit

theorem balanced_intercalate (hbracket : isBracket sep = false) {parts : List (List Char)}
    (hparts : ∀ part ∈ parts, Balanced part) : Balanced (List.intercalate [sep] parts) := by
  induction parts with
  | nil => exact balanced_nil
  | cons part parts ih =>
    have hpart := hparts part List.mem_cons_self
    have htail := ih fun other hother => hparts other (List.mem_cons_of_mem part hother)
    cases parts with
    | nil =>
      rw [List.intercalate_singleton]
      exact hpart
    | cons next parts =>
      have hsep : Balanced [sep] := balanced_of_not_bracket (by simpa using hbracket)
      rw [List.intercalate_cons_cons]
      exact (hpart.append hsep).append htail

/-- The first group of a text that starts with one. -/
theorem group?_of_balanced {inside : List Char} (h : Balanced inside) (after : List Char) :
    group? ('(' :: (inside ++ ')' :: after)) = some (inside, after) := by
  show groupFrom (([] : List Char).count ')') (inside ++ ')' :: after) = _
  rw [groupFrom_append h]
  show (groupFrom 0 (')' :: after)).map _ = _
  rw [groupFrom_end]
  simp

end Parts

end Testsmith.Signature
