import Testsmith.Proofs.ClassDependencies

/-!
# Qualifiers

What stands in front of the name of a constructor's parameter: annotations, then modifiers, then `val` or
`var`, each parted from the next by blanks. They are dropped step by step, and each step takes exactly one
of them, as what follows it starts with no blank (`afterEach_flatMap`). No step can be taken too early,
since an annotation starts with a mark and no modifier starts as `val` and `var` do, nor too late, since
what follows `val` or `var` is never looked at. So the dependencies of a printed parameter list are the
names and the types that were printed (`dependencies_of_qualified`), whatever the names look like.
-/

namespace Testsmith

open Text Signature Source

/-! ## Printed qualifiers -/

/-- The arguments of an annotation: brackets nest in them, and none of them is a closing round one. -/
structure AnnotationArguments where
  text : List Char
  balanced : Balanced text
  no_closer : ')' ∉ text

/-- An annotation and the blanks behind it. -/
structure Annotation where
  name : Name
  arguments : Option AnnotationArguments
  gap : Gap
  parted : gap.text ≠ []

/-- A modifier and the blanks behind it. -/
structure WrittenModifier where
  word : String
  known : word ∈ modifiers
  gap : Gap
  parted : gap.text ≠ []

/-- A parameter of a constructor as it is printed, with its qualifiers. The name is that of a printed
parameter, so it may be any word, one that starts with a qualifier or is one included. -/
structure QualifiedParameter where
  before : Gap
  annotations : List Annotation
  modifiers : List WrittenModifier
  keyword : PropertyKeyword
  declared : PrintedParameter
  parted : declared.before.text ≠ []

/-! ## Texts -/

def argumentsText : Option AnnotationArguments → List Char
  | some arguments => '(' :: (arguments.text ++ [')'])
  | none => []

def Annotation.text (a : Annotation) : List Char :=
  '@' :: (a.name.text ++ (argumentsText a.arguments ++ a.gap.text))

/-- The text of annotations. -/
def annotationsText (as : List Annotation) : List Char := as.flatMap Annotation.text

def WrittenModifier.text (m : WrittenModifier) : List Char := m.word.toList ++ m.gap.text

/-- The text of modifiers. -/
def modifiersText (ms : List WrittenModifier) : List Char := ms.flatMap WrittenModifier.text

namespace QualifiedParameter

variable (p : QualifiedParameter)

/-- The qualifiers, with the blanks behind the last one. -/
def qualifiers : List Char :=
  annotationsText p.annotations ++
    (modifiersText p.modifiers ++ (p.keyword.text.toList ++ p.declared.before.text))

def text : List Char :=
  p.before.text ++ (annotationsText p.annotations ++
    (modifiersText p.modifiers ++ (p.keyword.text.toList ++ p.declared.text)))

end QualifiedParameter

/-- The text between the brackets of a constructor's parameter list. -/
def qualifiedListText (ps : List QualifiedParameter) : List Char :=
  List.intercalate [','] (ps.map QualifiedParameter.text)

/-- No blank stands at the start of the text. -/
def Flush (x : List Char) : Prop := ∀ c, x.head? = some c → isBlank c = false

theorem Flush.of_word {x : List Char} (h : ∀ c, x.head? = some c → isWord c = true) : Flush x :=
  fun c hc => isBlank_of_isWord (h c hc)

theorem flush_cons {c : Char} (hc : isBlank c = false) (x : List Char) : Flush (c :: x) := by
  rintro d ⟨⟩
  exact hc

/-! ## Modifiers -/

section Modifiers

variable {ms : List WrittenModifier}

theorem WrittenModifier.word_all (m : WrittenModifier) : ∀ c ∈ m.word.toList, isWord c = true := by
  have hall : ∀ word ∈ modifiers, ∀ c ∈ word.toList, isWord c = true := by decide +kernel
  exact hall m.word m.known

theorem modifiersText_cons (m : WrittenModifier) (ms : List WrittenModifier) :
    modifiersText (m :: ms) = m.word.toList ++ (m.gap.text ++ modifiersText ms) := by
  simp [modifiersText, WrittenModifier.text]

theorem any_isWord_append_gap (x : List Char) {g : Gap} (hne : g.text ≠ []) :
    (x ++ g.text).getLast?.any isWord = false := by
  obtain ⟨c, hc⟩ := Option.ne_none_iff_exists'.1 (mt List.getLast?_eq_none_iff.1 hne)
  rw [List.getLast?_append, hc, Option.some_or]
  exact isWord_of_isBlank (g.blank c (List.mem_of_getLast? hc))

/-- What starts with a word starts with one behind modifiers, too. -/
theorem head?_modifiersText_append {rest : List Char}
    (hrest : ∀ c, rest.head? = some c → isWord c = true) :
    ∀ c, (modifiersText ms ++ rest).head? = some c → isWord c = true := by
  cases ms with
  | nil => exact hrest
  | cons m ms =>
    have hne : ∀ word ∈ modifiers, word.toList ≠ [] := by decide
    obtain ⟨d, word, hword⟩ := List.exists_cons_of_ne_nil (hne m.word m.known)
    intro c hc
    rw [modifiersText_cons, hword] at hc
    cases hc
    exact m.word_all d (by rw [hword]; exact List.mem_cons_self)

/-- Modifiers end with blanks. -/
theorem any_isWord_modifiersText {x : List Char} (hx : x.getLast?.any isWord = false)
    (ms : List WrittenModifier) : (x ++ modifiersText ms).getLast?.any isWord = false := by
  induction ms generalizing x with
  | nil => rwa [modifiersText, List.flatMap_nil, List.append_nil]
  | cons m ms ih =>
    have h := ih (any_isWord_append_gap (x ++ m.word.toList) m.parted)
    rw [modifiersText_cons]
    simpa using h

theorem isMark_modifiersText : ∀ c ∈ modifiersText ms, isMark c = false := by
  intro c hc
  obtain ⟨m, -, hm⟩ := List.mem_flatMap.1 hc
  rcases List.mem_append.1 hm with hm | hm
  · exact isMark_of_isWord (m.word_all c hm)
  · exact isMark_of_isBlank (m.gap.blank c hm)

/-- No declaration starts in modifiers. -/
theorem lacks_modifiersText {keyword : String} (hne : keyword.toList ≠ [])
    (hword : ∀ c ∈ keyword.toList, isWord c = true)
    (hend : ∀ word ∈ modifiers, ¬ keyword.toList <:+ word.toList) (before : Gap) {rest : List Char} :
    Lacks keyword (before.text ++ modifiersText ms) rest := by
  induction ms generalizing before with
  | nil =>
    rw [modifiersText, List.flatMap_nil, List.append_nil]
    exact lacks_gap hword hne before
  | cons m ms ih =>
    have hstop : ∀ c, (m.gap.text ++ modifiersText ms ++ rest).head? = some c →
        isWord c = false := by
      rw [List.append_assoc]
      exact head?_gap_append m.parted
    have hlacks := lacks_word hword m.word_all (hend m.word m.known) hstop
    rw [modifiersText_cons]
    exact AtEach.append (lacks_gap hword hne before) (AtEach.append hlacks (ih m.gap))

end Modifiers

/-! ## Steps -/

theorem afterEach_of_none {step : List Char → Option (List Char)} {text : List Char}
    (h : step text = none) (bound : Nat) : afterEach step bound text = text := by
  cases bound with
  | zero => rfl
  | succ bound => rw [afterEach, h]

section AfterWord

variable {words : List String} {word : String} {text rest : List Char}

theorem afterWord?_eq_none (h : ∀ w ∈ words, after? w text = none) : afterWord? words text = none :=
  List.findSome?_eq_none_iff.2 fun w hw => by rw [h w hw]; rfl

/-- Of the words only one is read. -/
theorem afterWord?_of_mem (hmem : word ∈ words)
    (hother : ∀ w ∈ words, w ≠ word → after? w text = none)
    (hread : (after? word text).bind (skip1? isBlank) = some rest) :
    afterWord? words text = some rest := by
  induction words with
  | nil => cases hmem
  | cons w words ih =>
    rw [afterWord?, List.findSome?_cons]
    by_cases hw : w = word
    · rw [hw, hread]
    · rw [hother w List.mem_cons_self hw]
      exact ih (List.mem_of_ne_of_mem (Ne.symm hw) hmem) fun w hw =>
        hother w (List.mem_cons_of_mem _ hw)

/-- Of words none of which is the start of another one, the one in front of blanks is read. -/
theorem afterWord?_append (hwords : ∀ w ∈ words, ∀ c ∈ w.toList, isWord c = true)
    (hstarts : ∀ w ∈ words, ∀ w' ∈ words, w.toList <+: w'.toList → w = w') (hmem : word ∈ words)
    {g : Gap} (hne : g.text ≠ []) (hrest : ∀ c, rest.head? = some c → isBlank c = false) :
    afterWord? words (word.toList ++ (g.text ++ rest)) = some rest := by
  refine afterWord?_of_mem hmem (fun w hw hother => after?_eq_none fun hstart => ?_) ?_
  · have hstop : ∀ c, (g.text ++ rest).head? = some c → c ∉ w.toList := fun c hc =>
      not_mem_of_class (hwords w hw) (head?_gap_append hne c hc)
    exact hother (hstarts w hw word hmem (prefix_of_prefix_append hstart hstop))
  · rw [after?_append]
    exact skip1?_append_of_stop g.blank hne hrest

end AfterWord

section Pieces

variable {α : Type} {text : α → List Char} {rest : List Char}

theorem flush_flatMap (htext : ∀ item more, Flush (text item ++ more)) (hrest : Flush rest)
    (items : List α) : Flush (items.flatMap text ++ rest) := by
  cases items with
  | nil => exact hrest
  | cons item items =>
    rw [List.flatMap_cons, List.append_assoc]
    apply htext

theorem length_le_flatMap (htext : ∀ item, text item ≠ []) (items : List α) :
    items.length ≤ (items.flatMap text).length := by
  induction items with
  | nil => simp
  | cons item items ih =>
    have hitem := List.length_pos_iff.2 (htext item)
    simp only [List.length_cons, List.flatMap_cons, List.length_append]
    omega

/-- One step is taken for each of some pieces and no more, where a step takes a piece in front of what
starts with no blank, and none can be taken behind the last one. -/
theorem afterEach_flatMap {step : List Char → Option (List Char)}
    (hstep : ∀ item more, Flush more → step (text item ++ more) = some more)
    (htext : ∀ item more, Flush (text item ++ more)) (hrest : Flush rest) (hend : step rest = none)
    (items : List α) {bound : Nat} (hbound : items.length ≤ bound) :
    afterEach step bound (items.flatMap text ++ rest) = rest := by
  induction items generalizing bound with
  | nil => exact afterEach_of_none hend bound
  | cons item items ih =>
    obtain ⟨bound, rfl⟩ : ∃ n, bound = n + 1 :=
      ⟨bound - 1, by rw [List.length_cons] at hbound; omega⟩
    have hmore : Flush (items.flatMap text ++ rest) := flush_flatMap htext hrest items
    rw [List.flatMap_cons, List.append_assoc, afterEach, hstep item _ hmore]
    exact ih (by simpa using hbound)

theorem isPart_flatMap {isSep : Char → Bool} (htext : ∀ item, IsPart isSep (text item))
    (items : List α) : IsPart isSep (items.flatMap text) := by
  induction items with
  | nil => exact isPart_of_not_bracket (by simp) (by simp)
  | cons item items ih =>
    rw [List.flatMap_cons]
    exact (htext item).append ih

end Pieces

/-! ### Modifiers and keywords -/

theorem afterWord?_modifier (m : WrittenModifier) {rest : List Char} (hrest : Flush rest) :
    afterWord? modifiers (m.text ++ rest) = some rest := by
  rw [WrittenModifier.text, List.append_assoc]
  exact afterWord?_append (by decide +kernel) (by decide +kernel) m.known m.parted hrest

theorem flush_modifier (m : WrittenModifier) (more : List Char) : Flush (m.text ++ more) := by
  have hne : ∀ word ∈ modifiers, word.toList ≠ [] := by decide
  obtain ⟨d, word, hword⟩ := List.exists_cons_of_ne_nil (hne m.word m.known)
  have hd : isWord d = true := m.word_all d (by simp [hword])
  rw [WrittenModifier.text, hword]
  exact flush_cons (isBlank_of_isWord hd) _

section Keyword

variable (keyword : PropertyKeyword)

theorem head?_keyword (rest : List Char) : (keyword.text.toList ++ rest).head? = some 'v' := by
  cases keyword <;> rfl

theorem head?_keyword_isWord (rest : List Char) :
    ∀ c, (keyword.text.toList ++ rest).head? = some c → isWord c = true := by
  intro c hc
  rw [head?_keyword] at hc
  cases hc
  decide

theorem flush_keyword (rest : List Char) : Flush (keyword.text.toList ++ rest) :=
  .of_word (head?_keyword_isWord keyword rest)

/-- No modifier starts as the keywords do. -/
theorem afterWord?_modifiers_keyword (rest : List Char) :
    afterWord? modifiers (keyword.text.toList ++ rest) = none := by
  have hstart : ∀ word ∈ modifiers, word.toList ≠ [] ∧ word.toList.head? ≠ some 'v' := by decide
  refine afterWord?_eq_none fun word hword => after?_eq_none ?_
  rintro ⟨more, hmore⟩
  obtain ⟨hne, hhead⟩ := hstart word hword
  obtain ⟨c, cs, hc⟩ := List.exists_cons_of_ne_nil hne
  have hkeyword := head?_keyword keyword rest
  rw [← hmore, hc] at hkeyword
  rw [hc] at hhead
  exact hhead hkeyword

/-- All modifiers are dropped in front of a keyword. -/
theorem afterEach_modifiersText (ms : List WrittenModifier) (rest : List Char) :
    afterEach (afterWord? modifiers) (modifiersText ms ++ (keyword.text.toList ++ rest)).length
      (modifiersText ms ++ (keyword.text.toList ++ rest)) = keyword.text.toList ++ rest := by
  have hlength : ms.length ≤ (modifiersText ms ++ (keyword.text.toList ++ rest)).length := by
    have hne : ∀ m : WrittenModifier, m.text ≠ [] :=
      fun m => List.append_ne_nil_of_right_ne_nil _ m.parted
    rw [List.length_append]
    exact Nat.le_trans (length_le_flatMap hne ms) (Nat.le_add_right _ _)
  exact afterEach_flatMap (fun m _ => afterWord?_modifier m) flush_modifier
    (flush_keyword keyword rest) (afterWord?_modifiers_keyword keyword rest) ms hlength

theorem afterWord?_keyword {g : Gap} (hne : g.text ≠ []) {rest : List Char} (hrest : Flush rest) :
    afterWord? ["val", "var"] (keyword.text.toList ++ (g.text ++ rest)) = some rest :=
  afterWord?_append (by decide) (by decide) (by cases keyword <;> decide) hne hrest

end Keyword

/-! ### Annotations -/

theorem afterAnnotation?_eq_none {x : List Char} (h : x.head? ≠ some '@') :
    afterAnnotation? x = none := by
  unfold afterAnnotation?
  split
  · next rest => exact absurd rfl h
  · rfl

namespace Annotation

variable (a : Annotation)

/-- The arguments of an annotation end at the first closing bracket, and where there are none, blanks
follow. -/
theorem afterArguments_append (rest : List Char) :
    afterArguments (argumentsText a.arguments ++ (a.gap.text ++ rest)) = a.gap.text ++ rest := by
  cases a.arguments with
  | none =>
    obtain ⟨d, gap, hgap⟩ := List.exists_cons_of_ne_nil a.parted
    have hd : isBlank d = true := a.gap.blank d (by simp [hgap])
    rw [argumentsText, List.nil_append, hgap, List.cons_append]
    unfold afterArguments
    split
    · next h =>
      cases h
      exact absurd hd (by decide)
    · rfl
  | some arguments =>
    have hinside : ∀ c ∈ arguments.text, (c != ')') = true := by
      intro c hc
      simpa using fun h : c = ')' => arguments.no_closer (h ▸ hc)
    have hcloser : (arguments.text ++ ')' :: (a.gap.text ++ rest)).dropWhile (· != ')') =
        ')' :: (a.gap.text ++ rest) := dropWhile_append hinside (by rintro c ⟨⟩; rfl)
    have htext : argumentsText (some arguments) ++ (a.gap.text ++ rest) =
        '(' :: (arguments.text ++ ')' :: (a.gap.text ++ rest)) := by simp [argumentsText]
    rw [htext, afterArguments, hcloser]

theorem afterAnnotation?_text {rest : List Char} (hrest : Flush rest) :
    afterAnnotation? (a.text ++ rest) = some rest := by
  have hname : ∀ c, (argumentsText a.arguments ++ (a.gap.text ++ rest)).head? = some c →
      isWord c = false := by
    cases a.arguments with
    | none => exact head?_gap_append a.parted
    | some arguments =>
      rintro c ⟨⟩
      decide
  have hskip := skip1?_append_of_stop a.name.word a.name.ne_nil hname
  have htext : a.text ++ rest =
      '@' :: (a.name.text ++ (argumentsText a.arguments ++ (a.gap.text ++ rest))) := by simp [text]
  rw [htext, afterAnnotation?, hskip]
  show skip1? isBlank (afterArguments _) = some rest
  rw [a.afterArguments_append]
  exact skip1?_append_of_stop a.gap.blank a.parted hrest

theorem flush_text (more : List Char) : Flush (a.text ++ more) := flush_cons (by decide) _

theorem isPart_text : IsPart (· = ',') a.text := by
  have hmark : IsPart (· = ',') ['@'] := isPart_of_not_bracket (by decide) (by decide)
  have hname : IsPart (· = ',') a.name.text :=
    (isPart_of_not_mark fun c hc => isMark_of_isWord (a.name.word c hc)).mono
      fun _ => isSeparator_of_comma
  have harguments : IsPart (· = ',') (argumentsText a.arguments) := by
    cases a.arguments with
    | none => exact isPart_of_not_bracket (by simp [argumentsText]) (by simp [argumentsText])
    | some arguments =>
      exact IsPart.group (by decide : ('(', ')') ∈ brackets) arguments.balanced nofun (by decide)
  have hgap := a.gap.isPart.mono fun _ => isSeparator_of_comma
  exact hmark.append (hname.append (harguments.append hgap))

end Annotation

/-- All annotations are dropped in front of a word. -/
theorem afterEach_annotationsText (as : List Annotation) {rest : List Char}
    (hrest : ∀ c, rest.head? = some c → isWord c = true) :
    afterEach afterAnnotation? (annotationsText as ++ rest).length (annotationsText as ++ rest) =
      rest := by
  have hlength : as.length ≤ (annotationsText as ++ rest).length := by
    have hne : ∀ a : Annotation, a.text ≠ [] := fun a => List.cons_ne_nil '@' _
    rw [List.length_append]
    exact Nat.le_trans (length_le_flatMap hne as) (Nat.le_add_right _ _)
  have hend : afterAnnotation? rest = none := by
    apply afterAnnotation?_eq_none
    intro hmark
    exact absurd (hrest '@' hmark) (by decide)
  exact afterEach_flatMap (fun a _ => a.afterAnnotation?_text) Annotation.flush_text
    (Flush.of_word hrest) hend as hlength

/-! ### All qualifiers -/

/-- Qualifiers are dropped, and nothing behind them. -/
theorem dropQualifiers_append (as : List Annotation) (ms : List WrittenModifier)
    (keyword : PropertyKeyword) {gap : Gap} (hgap : gap.text ≠ []) {rest : List Char}
    (hrest : Flush rest) :
    dropQualifiers (annotationsText as ++ (modifiersText ms ++
      (keyword.text.toList ++ (gap.text ++ rest)))) = rest := by
  have hplain : ∀ c, (modifiersText ms ++ (keyword.text.toList ++ (gap.text ++ rest))).head? =
      some c → isWord c = true :=
    head?_modifiersText_append (head?_keyword_isWord keyword _)
  rw [dropQualifiers, afterEach_annotationsText as hplain, afterEach_modifiersText, afterWord?_keyword keyword hgap hrest]
  rfl

/-! ## Printed parameters -/

namespace QualifiedParameter

variable (p : QualifiedParameter)

theorem trim_text : trim p.text = p.qualifiers ++ p.declared.core := by
  have hfront : p.text = p.before.text ++ ((p.qualifiers ++ (p.declared.name.text ++
      p.declared.beforeColon.text)) ++ ':' :: p.declared.typed) := by
    simp [text, qualifiers, PrintedParameter.text]
  have hflush : Flush ((p.qualifiers ++ (p.declared.name.text ++ p.declared.beforeColon.text)) ++
      ':' :: p.declared.typed) := by
    have hplain := flush_flatMap flush_modifier (flush_keyword p.keyword (p.declared.before.text ++
      (p.declared.name.text ++ (p.declared.beforeColon.text ++ ':' :: p.declared.typed)))) p.modifiers
    simpa [qualifiers, annotationsText, modifiersText] using
      flush_flatMap Annotation.flush_text hplain p.annotations
  rw [hfront, trim, trimStart_append p.before.blank, trimStart_of_head hflush,
    trimEnd_append_cons (by decide)]
  simp [PrintedParameter.core]

/-- What is left without the qualifiers is the printed parameter. -/
theorem dropQualifiers_trim : dropQualifiers (trim p.text) = p.declared.core := by
  have hname : Flush p.declared.core := p.declared.name.tight.head_append _
  rw [p.trim_text, qualifiers]
  simpa using dropQualifiers_append p.annotations p.modifiers p.keyword p.parted hname

theorem isPart_text : IsPart (· = ',') p.text := by
  have hgap := p.before.isPart.mono fun _ => isSeparator_of_comma
  have hannotations : IsPart (· = ',') (annotationsText p.annotations) :=
    isPart_flatMap Annotation.isPart_text p.annotations
  have hmodifiers : IsPart (· = ',') (modifiersText p.modifiers) :=
    (isPart_of_not_mark fun c hc => isMark_modifiersText c hc).mono fun _ => isSeparator_of_comma
  exact hgap.append (hannotations.append (hmodifiers.append
    (p.keyword.isPart_text.append p.declared.isPart_text)))

end QualifiedParameter

/-- **The qualifiers of a constructor's parameters are dropped, and nothing else**: the dependencies are
the names and the types that were printed, in order. -/
theorem dependencies_of_qualified (ps : List QualifiedParameter) (rest : List Char) :
    Signature.dependencies (String.ofList ('(' :: (qualifiedListText ps ++ ')' :: rest))) =
      ps.map fun p => p.declared.parameter := by
  have hparts : ∀ part ∈ ps.map QualifiedParameter.text, IsPart (· = ',') part := by
    intro part hpart
    obtain ⟨p, -, rfl⟩ := List.mem_map.1 hpart
    exact p.isPart_text
  have hnonblank : ((ps.map QualifiedParameter.text).map trim).filter (· ≠ []) =
      (ps.map QualifiedParameter.text).map trim := by
    rw [List.filter_eq_self]
    intro x hx
    rw [List.map_map] at hx
    obtain ⟨p, -, rfl⟩ := List.mem_map.1 hx
    simp [p.trim_text, p.declared.core_ne_nil]
  rw [Signature.dependencies, String.toList_ofList, qualifiedListText, parameterTexts_intercalate hparts,
    hnonblank, List.map_map, List.map_map]
  apply List.map_congr_left
  intro p _
  show parameterOf "dependency" (dropQualifiers (trim p.text)) = p.declared.parameter
  rw [p.dropQualifiers_trim, p.declared.parameterOf_core]

/-- A parameter whose annotation holds separators and whose name begins as a qualifier does. -/
example : String.ofList (QualifiedParameter.text {
    before := .newline
    annotations := [{
      name := ⟨['Q'], by decide, by decide⟩
      arguments := some ⟨['a', ':', '=', '[', ',', ']'], by decide, by decide⟩
      gap := .space
      parted := Gap.space_ne }]
    modifiers := [⟨"override", by decide, .space, Gap.space_ne⟩, ⟨"private", by decide, .space, Gap.space_ne⟩]
    keyword := .val
    declared := {
      before := .space
      name := ⟨['v', 'a', 'l', 's'], .of_forall (by decide) (by decide), by decide⟩
      beforeColon := .empty
      afterColon := .space
      type := ⟨['T'], .of_forall (by decide) (by decide), ⟨by decide, by decide⟩⟩
      after := .space
      default := some ⟨[' ', 't'], by decide, by decide⟩ }
    parted := Gap.space_ne }) = "\n@Q(a:=[,]) override private val vals: T = t" := by decide

end Testsmith
