import Testsmith.Proofs.ParameterLists

/-!
# Pieces of the patterns of a source

A pattern of a source is a keyword with a name, then perhaps a bracket, and then a search for a closing
bracket that has the right text behind it. What each of these pieces gives on a known text is said here.
The search only ends at a bracket with a colon behind it, so it runs over every text in which there is
none (`Unended.upToBracket_append`), however the brackets of that text are nested.
-/

namespace Testsmith.Source

open Text Signature

/-! ## Characters of dotted names -/

theorem isDotted_of_isWord {c : Char} (h : isWord c = true) : isDotted c = true := by
  rw [isDotted, h]
  rfl

theorem isDotted_of_isBlank {c : Char} (h : isBlank c = true) : isDotted c = false :=
  not_blank_of_codes (by decide +kernel) h

theorem isBlank_of_isDotted {c : Char} (h : isDotted c = true) : isBlank c = false :=
  isBlank_of_class (fun _ => isDotted_of_isBlank) h

/-! ## Keywords -/

section Named

variable {keyword : String} {isName : Char → Bool} {text name rest : List Char}

theorem named_append {gap : List Char} (hgap : ∀ c ∈ gap, isBlank c = true) (hgapne : gap ≠ [])
    (hname : ∀ c ∈ name, isName c = true) (hnamene : name ≠ [])
    (hhead : ∀ c, name.head? = some c → isBlank c = false)
    (hrest : ∀ c, rest.head? = some c → isName c = false) :
    named keyword isName (keyword.toList ++ (gap ++ (name ++ rest))) = some (name, rest) := by
  have hstop : ∀ c, (name ++ rest).head? = some c → isBlank c = false := by
    intro c hc
    obtain ⟨d, name, rfl⟩ := List.exists_cons_of_ne_nil hnamene
    exact hhead c hc
  have hskip := skip1?_append_of_stop hgap hgapne hstop
  have hspan := span1?_append_of_stop hname hnamene hrest
  rw [named, after?_append]
  show (skip1? isBlank _ >>= fun text => span1? isName text) = _
  rw [hskip]
  exact hspan

/-- What is found behind a keyword: the keyword and blanks stand in front of it. -/
theorem exists_of_named (h : named keyword isName text = some (name, rest)) :
    ∃ blank behind, text = keyword.toList ++ blank :: behind ∧ isBlank blank = true ∧
      trimStart behind = name ++ rest ∧ name ≠ [] ∧ ∀ c ∈ name, isName c = true := by
  simp only [named, Option.bind_eq_bind, Option.bind_eq_some_iff] at h
  obtain ⟨after, hafter, word, hskip, hspan⟩ := h
  have htext := eq_append_of_after? hafter
  cases after with
  | nil => cases hskip
  | cons blank behind =>
    rw [skip1?] at hskip
    split at hskip
    · next hblank =>
      cases hskip
      exact ⟨blank, behind, htext, hblank, (span1?_append hspan).symm, forall_of_span1? hspan⟩
    · cases hskip

/-- The keyword, the blanks and the name in a text in which something is named. -/
theorem exists_gap_of_named (h : named keyword isName text = some (name, rest)) :
    ∃ gap, text = keyword.toList ++ (gap ++ (name ++ rest)) ∧ gap ≠ [] ∧
      ∀ c ∈ gap, isBlank c = true := by
  obtain ⟨blank, behind, htext, hblank, hname, -⟩ := exists_of_named h
  obtain ⟨gap, hgap, hgapblank⟩ := exists_trimStart behind
  refine ⟨blank :: gap, ?_, List.cons_ne_nil blank gap, ?_⟩
  · rw [htext, hgap, hname]
    rfl
  · simpa [hblank] using hgapblank

/-- A name is not empty, and all of it is of its class. -/
theorem forall_of_named (h : named keyword isName text = some (name, rest)) :
    name ≠ [] ∧ ∀ c ∈ name, isName c = true := by
  obtain ⟨_, _, -, -, -, hname⟩ := exists_of_named h
  exact hname

/-- What follows a name starts with no character of its class. -/
theorem head?_of_named (h : named keyword isName text = some (name, rest)) :
    ∀ c, rest.head? = some c → isName c = false := by
  simp only [named, Option.bind_eq_bind, Option.bind_eq_some_iff] at h
  obtain ⟨_, -, _, -, hspan⟩ := h
  exact head?_of_span1? hspan

theorem suffix_of_named (h : named keyword isName text = some (name, rest)) : rest <:+ text := by
  obtain ⟨gap, rfl, -⟩ := exists_gap_of_named h
  exact ⟨keyword.toList ++ (gap ++ name), by simp⟩

/-- The text starts with the keyword and a blank. -/
def StartsWith (keyword : String) (text : List Char) : Prop :=
  ∃ blank rest, isBlank blank = true ∧ text = keyword.toList ++ blank :: rest

theorem named_eq_none (h : ¬ StartsWith keyword text) : named keyword isName text = none := by
  cases hnamed : named keyword isName text with
  | none => rfl
  | some found =>
    obtain ⟨blank, behind, htext, hblank, -, -⟩ := exists_of_named hnamed
    exact absurd ⟨blank, behind, hblank, htext⟩ h

theorem not_startsWith_cons {k c : Char} {ks : List Char} (hkeyword : keyword.toList = k :: ks)
    (hc : c ≠ k) (text : List Char) : ¬ StartsWith keyword (c :: text) := by
  rintro ⟨_, _, -, htext⟩
  rw [hkeyword, List.cons_append, List.cons.injEq] at htext
  exact hc htext.1

/-- More text does not complete a keyword, where it starts with no character that could continue it. -/
theorem not_startsWith_append {x : List Char} (hx : x ≠ []) (h : ¬ StartsWith keyword x)
    (hrest : ∀ c, rest.head? = some c → c ∉ keyword.toList.tail ∧ isBlank c = false) :
    ¬ StartsWith keyword (x ++ rest) := by
  rintro ⟨blank, behind, hblank, htext⟩
  have hword : keyword.toList ++ blank :: behind = (keyword.toList ++ [blank]) ++ behind := by simp
  rw [hword, List.append_eq_append_iff] at htext
  rcases htext with ⟨w, hw, hbehind⟩ | ⟨w, hw, -⟩
  · cases w with
    | nil => exact h ⟨blank, [], hblank, by simpa using hw.symm⟩
    | cons d w =>
      -- The keyword would go on behind the text, with its second character or a later one.
      obtain ⟨hd, hdblank⟩ := hrest d (by rw [hbehind]; rfl)
      obtain ⟨e, x, rfl⟩ := List.exists_cons_of_ne_nil hx
      cases hkeyword : keyword.toList with
      | nil => simp [hkeyword] at hw
      | cons k ks =>
        rw [hkeyword, List.cons_append, List.cons_append, List.cons.injEq] at hw
        have hmem : d ∈ ks ++ [blank] := by rw [hw.2]; simp
        rcases List.mem_append.1 hmem with hmem | hmem
        · exact hd (by rw [hkeyword]; exact hmem)
        · rw [List.mem_singleton.1 hmem, hblank] at hdblank
          cases hdblank
  · exact h ⟨blank, w, hblank, by simpa using hw⟩

/-- No keyword with a blank behind it starts in the text, where some rest follows. -/
def Lacks (keyword : String) : (x rest : List Char) → Prop := AtEach (¬ StartsWith keyword ·)

/-- Nothing is named by a keyword in the text, where some rest follows. -/
def Unnamed (keyword : String) : (x rest : List Char) → Prop :=
  AtEach fun text => named keyword isWord text = none

theorem Unnamed.append {x y : List Char} (hx : Unnamed keyword x (y ++ rest))
    (hy : Unnamed keyword y rest) : Unnamed keyword (x ++ y) rest :=
  AtEach.append hx hy

theorem Lacks.unnamed {x : List Char} (h : Lacks keyword x rest) : Unnamed keyword x rest :=
  h.imp fun _ => named_eq_none

theorem Lacks.extend {x : List Char} (h : Lacks keyword x [])
    (hrest : ∀ c, rest.head? = some c → c ∉ keyword.toList.tail ∧ isBlank c = false) :
    Lacks keyword x rest := by
  intro u v huv hv
  have hplace := h u v huv hv
  rw [List.append_nil] at hplace
  exact not_startsWith_append hv hplace hrest

theorem lacks_of_not_mem {k : Char} {ks x : List Char} (hkeyword : keyword.toList = k :: ks)
    (hx : k ∉ x) : Lacks keyword x rest :=
  atEach_of_forall fun _ hc _ => not_startsWith_cons hkeyword (fun h => hx (h ▸ hc)) _

theorem unnamed_fun {x : List Char} (hx : 'f' ∉ x) : Unnamed "fun" x rest := by
  have hkeyword : "fun".toList = ['f', 'u', 'n'] := rfl
  exact (lacks_of_not_mem hkeyword hx).unnamed

section Words

variable (hword : ∀ c ∈ keyword.toList, isWord c = true)

include hword

/-- Where the keyword starts in a word and a blank follows it, the keyword is the end of the word, or the
word goes on. -/
theorem eq_keyword_of_append {x : List Char} {blank : Char} (hx : ∀ c ∈ x, isWord c = true)
    (hblank : isBlank blank = true) (h : x ++ rest = keyword.toList ++ blank :: text) :
    (x = keyword.toList ∧ rest = blank :: text) ∨ ∃ c, rest.head? = some c ∧ isWord c = true := by
  rcases List.append_eq_append_iff.1 h with ⟨w, hkeyword, hrest⟩ | ⟨w, hxw, hbehind⟩
  · cases w with
    | nil => exact .inl ⟨by simpa using hkeyword.symm, hrest⟩
    | cons c w =>
      exact .inr ⟨c, by rw [hrest]; rfl, hword c (by rw [hkeyword]; simp)⟩
  · cases w with
    | nil => exact .inl ⟨by simpa using hxw, hbehind.symm⟩
    | cons c w =>
      rw [List.cons_append, List.cons.injEq] at hbehind
      have hc := hx c (by rw [hxw]; simp)
      rw [← hbehind.1, isWord_of_isBlank hblank] at hc
      cases hc

theorem lacks_word {x : List Char} (hx : ∀ c ∈ x, isWord c = true) (hend : ¬ keyword.toList <:+ x)
    (hrest : ∀ c, rest.head? = some c → isWord c = false) : Lacks keyword x rest := by
  rintro u v rfl - ⟨blank, w, hblank, hv⟩
  have hvword : ∀ c ∈ v, isWord c = true := fun c hc => hx c (List.mem_append_right u hc)
  rcases eq_keyword_of_append hword hvword hblank hv with ⟨hkeyword, -⟩ | ⟨c, hc, hcword⟩
  · exact hend ⟨u, by rw [hkeyword]⟩
  · rw [hrest c hc] at hcword
    cases hcword

/-- Even a word that ends with the keyword names nothing where no word follows behind the blanks. -/
theorem unnamed_word {x : List Char} (hx : ∀ c ∈ x, isWord c = true)
    (hrest : ∀ c, (trimStart rest).head? = some c → isWord c = false) : Unnamed keyword x rest := by
  rintro u v rfl -
  have hvword : ∀ c ∈ v, isWord c = true := fun c hc => hx c (List.mem_append_right u hc)
  cases hnamed : named keyword isWord (v ++ rest) with
  | none => rfl
  | some found =>
    obtain ⟨blank, behind, htext, hblank, hname, hne, hall⟩ := exists_of_named hnamed
    have hstart : ∃ c, (trimStart rest).head? = some c ∧ isWord c = true := by
      rcases eq_keyword_of_append hword hvword hblank htext with ⟨-, hrest⟩ | ⟨c, hc, hcword⟩
      · obtain ⟨c, word, hc⟩ := List.exists_cons_of_ne_nil hne
        have htrim : trimStart rest = trimStart behind := by
          rw [hrest, trimStart, List.dropWhile_cons, if_pos hblank]
          rfl
        exact ⟨c, by rw [htrim, hname, hc]; rfl, hall c (by rw [hc]; exact List.mem_cons_self)⟩
      · have htrim : trimStart rest = rest := trimStart_of_head fun d hd => by
          rw [hc] at hd
          cases hd
          exact isBlank_of_isWord hcword
        exact ⟨c, by rw [htrim, hc], hcword⟩
    obtain ⟨c, hc, hcword⟩ := hstart
    rw [hrest c hc] at hcword
    cases hcword

/-- Where no word starts, no keyword does. -/
theorem lacks_of_not_word (hne : keyword.toList ≠ []) {x : List Char}
    (hx : ∀ c ∈ x, isWord c = false) : Lacks keyword x rest := by
  obtain ⟨k, ks, hkeyword⟩ := List.exists_cons_of_ne_nil hne
  refine lacks_of_not_mem hkeyword fun hmem => ?_
  have hk := hword k (by rw [hkeyword]; exact List.mem_cons_self)
  rw [hx k hmem] at hk
  cases hk

end Words

/-- What holds at each place of some parts holds at each place of a list of them, where it holds at the
separators, too. What may follow a part is told by a second property. -/
theorem atEach_intercalate {P Q : List Char → Prop} {sep : Char} {parts : List (List Char)}
    (hparts : ∀ part ∈ parts, ∀ rest, Q rest → AtEach P part rest)
    (hsep : ∀ text, P (sep :: text) ∧ Q (sep :: text)) (hrest : Q rest) :
    AtEach P (List.intercalate [sep] parts) rest := by
  induction parts with
  | nil => exact atEach_nil
  | cons part parts ih =>
    have hpart := hparts part List.mem_cons_self
    cases parts with
    | nil =>
      rw [List.intercalate_singleton]
      exact hpart rest hrest
    | cons next parts =>
      have htail := ih fun other hother => hparts other (List.mem_cons_of_mem part hother)
      rw [List.intercalate_cons_cons, List.append_assoc]
      exact (hpart _ (hsep _).2).append (.cons (hsep _).1 htail)

end Named

/-! ## Marks -/

section Mark

variable {mark : Char} {text rest : List Char}

theorem afterMark?_append {gap : List Char} (hgap : ∀ c ∈ gap, isBlank c = true)
    (hmark : isBlank mark = false) (rest : List Char) :
    afterMark? mark (gap ++ mark :: rest) = some rest := by
  rw [afterMark?, trimStart_append hgap, trimStart_of_head (by rintro c ⟨⟩; exact hmark)]
  exact if_pos rfl

theorem afterMark?_eq_none (h : (trimStart text).head? ≠ some mark) : afterMark? mark text = none := by
  unfold afterMark?
  split
  · next c rest hc =>
    rw [hc] at h
    exact if_neg (by simpa using h)
  · rfl

theorem exists_of_afterMark? (h : afterMark? mark text = some rest) :
    ∃ gap, text = gap ++ mark :: rest ∧ ∀ c ∈ gap, isBlank c = true := by
  obtain ⟨gap, hgap, hblank⟩ := exists_trimStart text
  unfold afterMark? at h
  split at h
  · next c behind htrim =>
    split at h
    · next hc =>
      cases h
      exact ⟨gap, by rw [hgap, htrim, hc], hblank⟩
    · cases h
  · cases h

theorem suffix_of_afterMark? (h : afterMark? mark text = some rest) : rest <:+ text := by
  obtain ⟨gap, rfl, -⟩ := exists_of_afterMark? h
  exact ⟨gap ++ [mark], by simp⟩

end Mark

/-! ## Brackets that end no match -/

theorem head?_trimStart_cons {c mark : Char} (hblank : isBlank c = false) (hne : c ≠ mark)
    (text : List Char) : (trimStart (c :: text)).head? ≠ some mark := by
  rw [trimStart_of_head (by rintro d ⟨⟩; exact hblank)]
  simpa using hne

/-- No closing bracket of a text has a colon behind it, where some rest follows. -/
def Unended : List Char → (rest : List Char) → Prop
  | [], _ => True
  | c :: x, rest => (c = ')' → (trimStart (x ++ rest)).head? ≠ some ':') ∧ Unended x rest

section Unended

variable {α : Type} {tail : List Char → Option α} {x y rest : List Char}

theorem Unended.append (hx : Unended x (y ++ rest)) (hy : Unended y rest) :
    Unended (x ++ y) rest := by
  induction x with
  | nil => exact hy
  | cons c x ih =>
    refine ⟨fun hc => ?_, ih hx.2⟩
    show (trimStart ((x ++ y) ++ rest)).head? ≠ some ':'
    rw [List.append_assoc]
    exact hx.1 hc

theorem Unended.cons {c : Char} (hx : Unended x rest) (hc : c ≠ ')') : Unended (c :: x) rest :=
  ⟨fun h => absurd h hc, hx⟩

theorem Unended.of_append (h : Unended (x ++ y) rest) : Unended y rest := by
  induction x with
  | nil => exact h
  | cons c x ih => exact ih h.2

theorem Unended.of_not_mem (h : ')' ∉ x) : Unended x rest := by
  induction x with
  | nil => trivial
  | cons c x ih =>
    refine ⟨fun hc => ?_, ih fun hx => h (List.mem_cons_of_mem c hx)⟩
    exact absurd (hc ▸ List.mem_cons_self) h

theorem unended_of_forall
    (h : ∀ u v, x = u ++ ')' :: v → (trimStart (v ++ rest)).head? ≠ some ':') : Unended x rest := by
  induction x with
  | nil => trivial
  | cons c x ih =>
    refine ⟨fun hc => h [] x (by rw [hc]; rfl), ih fun u v huv => h (c :: u) v (by rw [huv]; rfl)⟩

/-- More text with no colon in front ends nothing. -/
theorem Unended.extend (h : Unended x []) (hrest : (trimStart rest).head? ≠ some ':') :
    Unended x rest := by
  induction x with
  | nil => trivial
  | cons c x ih =>
    refine ⟨fun hc => ?_, ih h.2⟩
    have hinside := h.1 hc
    rw [List.append_nil] at hinside
    have htrim : trimStart (x ++ rest) =
        if (trimStart x).isEmpty then trimStart rest else trimStart x ++ rest :=
      List.dropWhile_append
    rw [htrim]
    split
    · exact hrest
    · next hne =>
      obtain ⟨d, w, hw⟩ := List.exists_cons_of_ne_nil (mt List.isEmpty_iff.2 hne)
      rw [hw] at hinside ⊢
      exact hinside

/-- The first closing bracket with a colon behind it. -/
theorem exists_of_not_unended (h : ¬ Unended x rest) : ∃ u v, x = u ++ ')' :: v ∧
    Unended u (')' :: (v ++ rest)) ∧ (trimStart (v ++ rest)).head? = some ':' := by
  induction x with
  | nil => exact absurd trivial h
  | cons c x ih =>
    by_cases hc : c = ')' ∧ (trimStart (x ++ rest)).head? = some ':'
    · exact ⟨[], x, by rw [hc.1]; rfl, trivial, hc.2⟩
    · have hstart : c = ')' → (trimStart (x ++ rest)).head? ≠ some ':' :=
        fun h hcolon => hc ⟨h, hcolon⟩
      obtain ⟨u, v, rfl, hu, hcolon⟩ := ih fun hx => h ⟨hstart, hx⟩
      refine ⟨c :: u, v, rfl, ⟨fun h => ?_, hu⟩, hcolon⟩
      simpa using hstart h

/-- What is found stands behind a closing bracket. -/
theorem exists_of_upToBracket {found : α} {text inside : List Char}
    (h : upToBracket tail text = some (inside, found)) :
    ∃ behind, text = inside ++ ')' :: behind ∧ tail behind = some found := by
  induction text generalizing inside with
  | nil => simp [upToBracket] at h
  | cons c text ih =>
    rw [upToBracket] at h
    split at h
    · next here hhere =>
      cases h
      split at hhere
      · next hc => exact ⟨text, by rw [hc]; rfl, hhere⟩
      · cases hhere
    · obtain ⟨⟨inside, found⟩, hlater, ⟨⟩⟩ := Option.map_eq_some_iff.1 h
      obtain ⟨behind, rfl, hfound⟩ := ih hlater
      exact ⟨behind, rfl, hfound⟩

theorem upToBracket_closer {found : α} (h : tail rest = some found) :
    upToBracket tail (')' :: rest) = some ([], found) := by
  rw [upToBracket, if_pos rfl, h]

variable (htail : ∀ text, (trimStart text).head? ≠ some ':' → tail text = none)

include htail

/-- A search that wants a colon behind its bracket runs over the text. -/
theorem Unended.upToBracket_append (h : Unended x rest) :
    upToBracket tail (x ++ rest) =
      (upToBracket tail rest).map fun (inside, found) => (x ++ inside, found) := by
  induction x with
  | nil => simp
  | cons c x ih =>
    have hc : (if c = ')' then tail (x ++ rest) else none) = none := by
      split
      · next hc => exact htail _ (h.1 hc)
      · rfl
    rw [List.cons_append, upToBracket, hc, ih h.2]
    simp [Function.comp_def]

theorem Unended.upToBracket_eq_none (h : Unended x []) : upToBracket tail x = none := by
  have hx := h.upToBracket_append htail
  rwa [List.append_nil] at hx

/-- No bracket is found behind what is named in a text where none has a colon behind it. -/
theorem Unended.list_eq_none {keyword : String} {isName : Char → Bool} {name list : List Char}
    (h : Unended x []) (hnamed : named keyword isName x = some (name, rest))
    (hmark : afterMark? '(' rest = some list) : upToBracket tail list = none := by
  obtain ⟨before, rfl⟩ := (suffix_of_afterMark? hmark).trans (suffix_of_named hnamed)
  exact h.of_append.upToBracket_eq_none htail

end Unended

theorem returnTypeAfter_eq_none {text : List Char} (h : (trimStart text).head? ≠ some ':') :
    returnTypeAfter text = none := by
  rw [returnTypeAfter, afterMark?_eq_none h]
  rfl

/-! ## Written pieces -/

section Pieces

variable {rest : List Char}

theorem head?_gap (g : Gap) {c b : Char} (h : (g.text ++ c :: rest).head? = some b) :
    isBlank b = true ∨ b = c := by
  cases hgap : g.text with
  | nil =>
    rw [hgap] at h
    cases h
    exact .inr rfl
  | cons d gap =>
    rw [hgap] at h
    cases h
    exact .inl (g.blank b (hgap ▸ List.mem_cons_self))

/-- Blanks and a mark end a name. -/
theorem head?_gap_mark (g : Gap) {mark : Char} (hmark : isWord mark = false) :
    ∀ c, (g.text ++ mark :: rest).head? = some c → isWord c = false := by
  intro c hc
  rcases head?_gap g hc with h | rfl
  · exact isWord_of_isBlank h
  · exact hmark

/-- Blanks end a word. -/
theorem head?_gap_append {g : Gap} (hne : g.text ≠ []) :
    ∀ c, (g.text ++ rest).head? = some c → isWord c = false := by
  obtain ⟨d, gap, hgap⟩ := List.exists_cons_of_ne_nil hne
  rw [hgap]
  rintro c ⟨⟩
  exact isWord_of_isBlank (g.blank d (hgap ▸ List.mem_cons_self))

/-- A mark behind blanks is no word. -/
theorem head?_trimStart_gap (g : Gap) {mark : Char} (hblank : isBlank mark = false)
    (hmark : isWord mark = false) (text : List Char) :
    ∀ c, (trimStart (g.text ++ mark :: text)).head? = some c → isWord c = false := by
  intro c hc
  rw [trimStart_append g.blank, trimStart_of_head (by rintro d ⟨⟩; exact hblank)] at hc
  cases hc
  exact hmark

theorem named_written (keyword : String) {gap : Gap} (hgap : gap.text ≠ []) (name : Name)
    (hrest : ∀ c, rest.head? = some c → isWord c = false) :
    named keyword isWord (keyword.toList ++ (gap.text ++ (name.text ++ rest))) =
      some (name.text, rest) :=
  named_append gap.blank hgap name.word name.ne_nil name.tight.head hrest

theorem lacks_gap {keyword : String} (hword : ∀ c ∈ keyword.toList, isWord c = true)
    (hne : keyword.toList ≠ []) (g : Gap) : Lacks keyword g.text rest :=
  lacks_of_not_word hword hne fun c hc => isWord_of_isBlank (g.blank c hc)

theorem unended_gap (g : Gap) : Unended g.text rest :=
  .of_not_mem (not_mem_of_class g.blank (by decide))

theorem unended_name (n : Name) : Unended n.text rest :=
  .of_not_mem (not_mem_of_class n.word (by decide))

theorem unended_type (t : TypeText) : Unended t.text [] := unended_of_forall fun u v huv => by
  rw [List.append_nil]
  exact t.no_list u v huv

theorem unended_parameter (p : WrittenParameter) : Unended p.text [] := by
  have hgap : ∀ g : Gap, (trimStart (g.text ++ [])).head? ≠ some ':' := by
    intro g
    rw [trimStart_append g.blank]
    simp [trimStart]
  have htyped := (unended_gap p.afterColon).append ((unended_type p.type).extend (hgap p.after))
  have hcore : Unended p.core (p.after.text ++ []) :=
    (unended_name p.name).append ((unended_gap p.beforeColon).append (htyped.cons (by decide)))
  exact (unended_gap p.before).append (hcore.append (unended_gap p.after))

theorem unended_intercalate {parts : List (List Char)} (h : ∀ part ∈ parts, Unended part []) :
    Unended (List.intercalate [','] parts) [] := by
  induction parts with
  | nil => trivial
  | cons part parts ih =>
    have hpart := h part List.mem_cons_self
    have htail := ih fun other hother => h other (List.mem_cons_of_mem part hother)
    cases parts with
    | nil =>
      rw [List.intercalate_singleton]
      exact hpart
    | cons next parts =>
      have hcomma := hpart.extend (head?_trimStart_cons (by decide : isBlank ',' = false)
        (by decide : ',' ≠ ':') (List.intercalate [','] (next :: parts) ++ []))
      rw [List.intercalate_cons_cons, List.append_assoc]
      exact hcomma.append (htail.cons (by decide))

theorem unended_listText (ps : List WrittenParameter) : Unended (listText ps) (')' :: rest) := by
  have hlist : Unended (listText ps) [] := unended_intercalate fun part hpart => by
    obtain ⟨p, -, rfl⟩ := List.mem_map.1 hpart
    exact unended_parameter p
  exact hlist.extend (head?_trimStart_cons (by decide) (by decide) rest)

end Pieces

end Testsmith.Source
