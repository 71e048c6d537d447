import Testsmith.Proofs.Balance

/-!
# Splitting without loss

A text is cut at separators, and nothing else is done to it: with the separators put back between them,
the parts are the text again (`intercalate_splitFrom`), however its brackets stand. A cut starts the scan
afresh, at depth zero and behind a character that is no hyphen, so a part that is scanned on its own is
passed over as it was before, and is not cut again (`splitFrom_part`).

In a balanced text the depth is the number of the brackets that are open. So the scan cuts at a separator
where no bracket is open in front of it (`splitFrom_append_sep`), and between such places the brackets
are nested (`balanced_of_splitFrom`). `splitting_lossless` is the main statement.
-/

namespace Testsmith.Signature

open Text

/-! ## Joining the parts -/

section Joining

variable {parts : List (List Char)}

theorem intercalate_consFirst (sep c : Char) (h : parts ≠ []) :
    [sep].intercalate (consFirst c parts) = c :: [sep].intercalate parts := by
  obtain ⟨part, others, rfl⟩ := List.exists_cons_of_ne_nil h
  cases others with
  | nil => simp [consFirst]
  | cons next others => simp [consFirst, List.intercalate_cons_cons]

/-- The parts of a text are the text, with separators between them. -/
theorem intercalate_splitFrom (sep : Char) (before : Option Char) (depth : Nat) (text : List Char) :
    [sep].intercalate (splitFrom (· = sep) before depth text) = text := by
  induction text generalizing before depth with
  | nil => simp [splitFrom]
  | cons c rest ih =>
    have hrest := ih (some c) (depthAfter before depth c)
    have hne := splitFrom_ne_nil (· = sep) (some c) (depthAfter before depth c) rest
    unfold splitFrom
    dsimp only
    split
    · next hcut =>
      simp only [Bool.and_eq_true, decide_eq_true_iff] at hcut
      have happend := intercalate_append sep (x := [[]]) (by simp) hne
      rw [hrest, hcut.1] at happend
      simpa [hcut.1] using happend
    · rw [intercalate_consFirst sep c hne, hrest]

end Joining

/-! ## Splitting a part -/

section Parts

variable {sep : Char} {before : Option Char} {depth : Nat} {opened x : List Char}

/-- What stands in front of a text matters only if it can make the head of an arrow. -/
theorem splitFrom_of_ne_hyphen {isSep : Char → Bool} (h : before ≠ some '-') (text : List Char) :
    splitFrom isSep before depth text = splitFrom isSep none depth text := by
  cases text with
  | nil => rfl
  | cons c rest =>
    have hdepth : depthAfter before depth c = depthAfter none depth c := by simp [depthAfter, h]
    rw [splitFrom, splitFrom, hdepth]

theorem openBehind_of_ne_hyphen (h : before ≠ some '-') :
    openBehind before opened x = openBehind none opened x := by
  cases x with
  | nil => rfl
  | cons c rest =>
    have hopen : openAfter before opened c = openAfter none opened c := by simp [openAfter, h]
    rw [openBehind, openBehind, hopen]

/-- From where a part starts, it is passed over without a cut. -/
theorem splitFrom_part (sep : Char) (before : Option Char) (depth : Nat) (text : List Char) :
    ∃ first others, splitFrom (· = sep) before depth text = first :: others ∧
      splitFrom (· = sep) before depth first = [first] ∧
      ∀ part ∈ others, splitFrom (· = sep) (some sep) 0 part = [part] := by
  induction text generalizing before depth with
  | nil => exact ⟨[], [], rfl, rfl, by simp⟩
  | cons c rest ih =>
    obtain ⟨first, others, hrest, hfirst, hothers⟩ := ih (some c) (depthAfter before depth c)
    by_cases hcut : c = sep ∧ depthAfter before depth c = 0
    · obtain ⟨rfl, hzero⟩ := hcut
      refine ⟨[], first :: others, ?_, rfl, ?_⟩
      · rw [splitFrom, hrest, if_pos (by simp [hzero])]
      · rw [hzero] at hfirst
        simpa using ⟨hfirst, hothers⟩
    · refine ⟨c :: first, others, ?_, ?_, hothers⟩
      · rw [splitFrom, hrest, if_neg (by simpa using hcut), consFirst]
      · rw [splitFrom, hfirst, if_neg (by simpa using hcut), consFirst]

/-! ## Balanced texts -/

/-- Where no bracket is open in front of a separator, the text is cut there. -/
theorem splitFrom_append_sep (hbracket : isBracket sep = false)
    (h : openBehind before opened x = some []) (y : List Char) :
    splitFrom (· = sep) before opened.length (x ++ sep :: y) =
      splitFrom (· = sep) before opened.length x ++ splitFrom (· = sep) (some sep) 0 y := by
  induction x generalizing before opened with
  | nil =>
    cases h
    exact splitFrom_sep (by simp) hbracket y
  | cons c x ih =>
    obtain ⟨middle, hc, hx⟩ := openBehind_cons.1 h
    have hdepth := depthAfter_of_openAfter hc
    rw [List.cons_append, splitFrom, splitFrom, hdepth, ih hx]
    split
    · rfl
    · obtain ⟨part, others, hparts⟩ :=
        List.exists_cons_of_ne_nil (splitFrom_ne_nil (· = sep) (some c) middle.length x)
      rw [hparts]
      rfl

/-- The parts of a text whose brackets are all closed in the end: the first one closes those that are open
in front of it, and the others are balanced. -/
theorem balanced_of_splitFrom (hbracket : isBracket sep = false) (hhyphen : sep ≠ '-')
    (h : openBehind before opened x = some []) : ∃ first others,
      splitFrom (· = sep) before opened.length x = first :: others ∧
      openBehind before opened first = some [] ∧ ∀ part ∈ others, Balanced part := by
  induction x generalizing before opened with
  | nil => exact ⟨[], [], rfl, h, by simp⟩
  | cons c x ih =>
    obtain ⟨middle, hc, hx⟩ := openBehind_cons.1 h
    have hdepth := depthAfter_of_openAfter hc
    obtain ⟨first, others, hparts, hfirst, hothers⟩ := ih hx
    by_cases hcut : c = sep ∧ middle = []
    · obtain ⟨rfl, rfl⟩ := hcut
      -- the separator is no bracket, so none was open in front of it either
      have hopened : opened = [] := by
        rw [openAfter_of_not_bracket hbracket] at hc
        exact Option.some.inj hc
      have hbalanced : Balanced first := by
        rwa [openBehind_of_ne_hyphen (by simpa using hhyphen)] at hfirst
      refine ⟨[], first :: others, ?_, ?_, ?_⟩
      · rw [splitFrom, hdepth, hparts, if_pos (by simp)]
      · rw [hopened]
        rfl
      · simpa using ⟨hbalanced, hothers⟩
    · refine ⟨c :: first, others, ?_, openBehind_cons.2 ⟨middle, hc, hfirst⟩, hothers⟩
      rw [splitFrom, hdepth, hparts, if_neg (by simpa using hcut), consFirst]

end Parts

section Separators

variable {sep : Char}

theorem splitTopLevel_part (hhyphen : sep ≠ '-') (text : List Char) :
    ∀ part ∈ splitTopLevel (· = sep) text, splitTopLevel (· = sep) part = [part] := by
  obtain ⟨first, others, hparts, hfirst, hothers⟩ := splitFrom_part sep none 0 text
  have hsplit : splitTopLevel (· = sep) text = first :: others := hparts
  intro part hpart
  rw [hsplit] at hpart
  rcases List.mem_cons.1 hpart with rfl | hpart
  · exact hfirst
  · have hagain := hothers part hpart
    rwa [splitFrom_of_ne_hyphen (by simpa using hhyphen)] at hagain

theorem balanced_of_mem_splitTopLevel (hbracket : isBracket sep = false) (hhyphen : sep ≠ '-')
    {text : List Char} (h : Balanced text) :
    ∀ part ∈ splitTopLevel (· = sep) text, Balanced part := by
  obtain ⟨first, others, hparts, hfirst, hothers⟩ := balanced_of_splitFrom hbracket hhyphen h
  have hsplit : splitTopLevel (· = sep) text = first :: others := hparts
  rw [hsplit]
  simpa using ⟨hfirst, hothers⟩

end Separators

/-- A separator outside all brackets of a text, told by what stands in front of it and behind it: no
bracket is open in front of it. -/
def SeparatesAt (sep : Char) (text before after : List Char) : Prop :=
  text = before ++ sep :: after ∧ Balanced before

/-- **Splitting loses nothing and respects nesting.** The separator is any character but a bracket and
the hyphen. With separators between them the parts are the text, and a part is not split again, whatever
the text is. Where the text is balanced its parts are balanced, and they are what lies between the
separators outside all brackets: in front of such a separator there are some of the parts, behind it the
others, and between any two parts there is one. -/
theorem splitting_lossless {sep : Char} (hbracket : isBracket sep = false) (hhyphen : sep ≠ '-')
    (text : List Char) :
    [sep].intercalate (splitTopLevel (· = sep) text) = text ∧
    (∀ part ∈ splitTopLevel (· = sep) text, splitTopLevel (· = sep) part = [part]) ∧
    (Balanced text →
      (∀ part ∈ splitTopLevel (· = sep) text, Balanced part) ∧
      ∀ before after, SeparatesAt sep text before after ↔
        ∃ front back, front ≠ [] ∧ back ≠ [] ∧ splitTopLevel (· = sep) text = front ++ back ∧
          before = [sep].intercalate front ∧ after = [sep].intercalate back) := by
  have hjoin := intercalate_splitFrom sep none 0 text
  refine ⟨hjoin, splitTopLevel_part hhyphen text, fun hbalanced => ?_⟩
  have hparts := balanced_of_mem_splitTopLevel hbracket hhyphen hbalanced
  refine ⟨hparts, fun before after => ⟨?_, ?_⟩⟩
  · rintro ⟨rfl, hbefore⟩
    exact ⟨splitTopLevel (· = sep) before, splitFrom (· = sep) (some sep) 0 after,
      splitFrom_ne_nil _ _ _ _, splitFrom_ne_nil _ _ _ _, splitFrom_append_sep hbracket hbefore after,
      (intercalate_splitFrom sep none 0 before).symm, (intercalate_splitFrom sep _ 0 after).symm⟩
  · rintro ⟨front, back, hfront, hback, hsplit, rfl, rfl⟩
    refine ⟨?_, balanced_intercalate hbracket fun part hpart => hparts part ?_⟩
    · rw [← intercalate_append sep hfront hback, ← hsplit]
      exact hjoin.symm
    · rw [hsplit]
      exact List.mem_append_left back hpart

/-- Two parameters, one with a comma inside its brackets and one with an arrow. -/
def twoParameters : List Char := "m: Map<K, V>, f: (A) -> B".toList

theorem twoParameters_split : isBracket ',' = false ∧ ',' ≠ '-' ∧ Balanced twoParameters ∧
    [','].intercalate (splitTopLevel (· = ',') twoParameters) = twoParameters ∧
    (∀ part ∈ splitTopLevel (· = ',') twoParameters, splitTopLevel (· = ',') part = [part]) ∧
    (∀ part ∈ splitTopLevel (· = ',') twoParameters, Balanced part) ∧
    ∃ front back, front ≠ [] ∧ back ≠ [] ∧ splitTopLevel (· = ',') twoParameters = front ++ back ∧
      "m: Map<K, V>".toList = [','].intercalate front ∧ " f: (A) -> B".toList = [','].intercalate back := by
  have hbracket : isBracket ',' = false := by decide
  have hhyphen : ',' ≠ '-' := by decide
  have hbalanced : Balanced twoParameters := by decide
  obtain ⟨hjoin, hagain, hnested⟩ := splitting_lossless hbracket hhyphen twoParameters
  obtain ⟨hparts, hcuts⟩ := hnested hbalanced
  have hcut : SeparatesAt ',' twoParameters "m: Map<K, V>".toList " f: (A) -> B".toList :=
    ⟨rfl, by decide⟩
  exact ⟨hbracket, hhyphen, hbalanced, hjoin, hagain, hparts, (hcuts _ _).1 hcut⟩

end Testsmith.Signature
