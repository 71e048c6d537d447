import Testsmith.Proofs.SourcePatterns

/-!
# The syntax of types

Types as they are written: dotted names, arguments in angle brackets, question marks, round brackets and
arrows. All that the scanners ask of a type follows from how it is built: brackets nest in it
(`TypeSyntax.nested`), few marks stand in it (`TypeSyntax.not_mem`), and no two words in it are parted
by blanks alone, so that no declaration starts in it, even where a word of it ends like a keyword
(`TypeSyntax.unnamed`).
-/

namespace Testsmith.Source

open Text Signature

/-- The text of a type, or the text of a list of types with commas in between. -/
inductive TypeSyntax : (isType : Bool) → List Char → Prop
  | name (n : Name) : TypeSyntax true n.text
  | dotted {x y : List Char} (hx : TypeSyntax true x) (hy : TypeSyntax true y) :
    TypeSyntax true (x ++ '.' :: y)
  | generic {x args : List Char} (hx : TypeSyntax true x) (hargs : TypeSyntax false args) :
    TypeSyntax true (x ++ '<' :: (args ++ ['>']))
  | nullable {x : List Char} (hx : TypeSyntax true x) : TypeSyntax true (x ++ ['?'])
  | group {args : List Char} (hargs : TypeSyntax false args) :
    TypeSyntax true ('(' :: (args ++ [')']))
  | arrow {x y : List Char} (hx : TypeSyntax true x) (before after : Gap)
    (hy : TypeSyntax true y) : TypeSyntax true (x ++ (before.text ++ '-' :: '>' :: (after.text ++ y)))
  | none (gap : Gap) : TypeSyntax false gap.text
  | last {x : List Char} (before : Gap) (hx : TypeSyntax true x) (after : Gap) :
    TypeSyntax false (before.text ++ (x ++ after.text))
  | more {x rest : List Char} (before : Gap) (hx : TypeSyntax true x) (after : Gap)
    (hrest : TypeSyntax false rest) :
    TypeSyntax false (before.text ++ (x ++ (after.text ++ ',' :: rest)))

/-! ## Nesting -/

theorem nested_append {top : Bool} {x y : List Char} (hx : Nested top x) (hy : Nested top y) :
    Nested top (x ++ y) := by
  induction hx with
  | nil => exact hy
  | plain hc hsep _ ih => exact .plain hc hsep (ih hy)
  | arrow _ ih => exact .arrow (ih hy)
  | group hbracket hinner _ _ ih =>
    have h := Nested.group hbracket hinner (ih hy)
    simpa using h

theorem nested_false {top : Bool} {x : List Char} (h : Nested top x) : Nested false x := by
  induction h with
  | nil => exact .nil
  | plain hc _ _ ih => exact .plain hc nofun ih
  | arrow _ ih => exact .arrow ih
  | group hbracket hinner _ _ ih => exact .group hbracket hinner ih

theorem nested_of_not_mark {top : Bool} {x : List Char}
    (h : ∀ c ∈ x, isPlain c = true ∧ isSeparator c = false) : Nested top x := by
  induction x with
  | nil => exact .nil
  | cons c x ih =>
    obtain ⟨hc, hsep⟩ := h c List.mem_cons_self
    exact .plain hc (fun _ => hsep) (ih fun d hd => h d (List.mem_cons_of_mem c hd))

theorem isPlain_of_isBlank {c : Char} (h : isBlank c = true) :
    isPlain c = true ∧ isSeparator c = false := by
  have hplain : ∀ c, isBlank c = true → (!isPlain c || isSeparator c) = false :=
    fun c => not_blank_of_codes (p := fun c => !isPlain c || isSeparator c) (by decide)
  simpa using hplain c h

theorem isPlain_of_isWord {c : Char} (h : isWord c = true) :
    isPlain c = true ∧ isSeparator c = false := by
  have hmark := isMark_of_isWord h
  simp only [isMark, isBracket, Bool.or_eq_false_iff] at hmark
  have hdash : c ≠ '-' := by rintro rfl; exact absurd h (by decide)
  simp [isPlain, hmark, hdash]

namespace TypeSyntax

variable {isType : Bool} {x : List Char}

/-- Brackets nest, and a comma outside of them stands in a list only. -/
theorem nested (h : TypeSyntax isType x) : Nested isType x := by
  have hgap : ∀ {top} (g : Gap), Nested top g.text := fun g =>
    nested_of_not_mark fun c hc => isPlain_of_isBlank (g.blank c hc)
  have hmark : ∀ {top} {c : Char}, isPlain c = true → isSeparator c = false → Nested top [c] :=
    fun hc hsep => .plain hc (fun _ => hsep) .nil
  induction h with
  | name n => exact nested_of_not_mark fun c hc => isPlain_of_isWord (n.word c hc)
  | dotted _ _ ihx ihy => exact nested_append ihx (.plain (by decide) (by decide) ihy)
  | generic _ _ ihx ihargs =>
    exact nested_append ihx (.group (by decide) ihargs .nil)
  | nullable _ ihx => exact nested_append ihx (hmark (by decide) (by decide))
  | group _ ihargs => exact .group (by decide) ihargs .nil
  | arrow _ before after _ ihx ihy =>
    exact nested_append ihx (nested_append (hgap before) (.arrow (nested_append (hgap after) ihy)))
  | none gap => exact hgap gap
  | last before _ after ihx =>
    exact nested_append (hgap before) (nested_append (nested_false ihx) (hgap after))
  | more before _ after _ ihx ihrest =>
    have hcomma : Nested false (after.text ++ ',' :: _) :=
      nested_append (hgap after) (.plain (by decide) nofun ihrest)
    exact nested_append (hgap before) (nested_append (nested_false ihx) hcomma)

/-! ## Characters -/

/-- The marks of a type, beside its words and blanks. -/
def marks : List Char := ['.', '<', '>', '?', '(', ')', '-', ',']

theorem not_mem {c : Char} (hword : isWord c = false) (hblank : isBlank c = false)
    (hmark : c ∉ marks) (h : TypeSyntax isType x) : c ∉ x := by
  have hgap : ∀ g : Gap, c ∉ g.text := fun g => not_mem_of_class g.blank hblank
  simp only [marks, List.mem_cons, List.not_mem_nil, or_false, not_or] at hmark
  induction h with
  | name n => exact not_mem_of_class n.word hword
  | dotted _ _ ihx ihy => simp [ihx, ihy, hmark]
  | generic _ _ ihx ihargs => simp [ihx, ihargs, hmark]
  | nullable _ ihx => simp [ihx, hmark]
  | group _ ihargs => simp [ihargs, hmark]
  | arrow _ before after _ ihx ihy => simp [ihx, ihy, hgap, hmark]
  | none gap => exact hgap gap
  | last before _ after ihx => simp [ihx, hgap]
  | more before _ after _ ihx ihrest => simp [ihx, ihrest, hgap, hmark]

theorem tight (h : TypeSyntax isType x) (htype : isType = true) : Tight x := by
  have hconcat : ∀ {y : List Char} {c : Char}, isBlank c = false → ∀ z d,
      (y ++ (z ++ [c])).getLast? = some d → isBlank d = false := by
    intro y c hc z d hd
    rw [← List.append_assoc, List.getLast?_concat] at hd
    cases hd
    exact hc
  have hlink : ∀ {x y : List Char}, Tight x → Tight y → ∀ z, Tight (x ++ (z ++ y)) := by
    intro x y hx hy z
    refine ⟨by simp [hx.ne_nil], hx.head_append _, ?_⟩
    rw [← List.append_assoc]
    exact hy.last_append _
  induction h with
  | name n => exact n.tight
  | dotted _ _ ihx ihy => exact hlink (ihx rfl) (ihy rfl) ['.']
  | @generic x args _ _ ihx _ =>
    exact ⟨by simp, (ihx rfl).head_append _, hconcat (by decide) ('<' :: args)⟩
  | nullable _ ihx => exact ⟨by simp, (ihx rfl).head_append _, hconcat (by decide) []⟩
  | @group args _ _ =>
    refine ⟨by simp, ?_, hconcat (by decide : isBlank ')' = false) args (y := ['('])⟩
    rintro d ⟨⟩
    decide
  | @arrow x y _ before after _ ihx ihy =>
    have h := hlink (ihx rfl) (ihy rfl) (before.text ++ '-' :: '>' :: after.text)
    simpa using h
  | none | last | more => cases htype

/-! ## Keywords -/

/-- No declaration starts in a type: a word of it has no further word behind its blanks. -/
theorem unnamed {keyword : String} (hne : keyword.toList ≠ [])
    (hword : ∀ c ∈ keyword.toList, isWord c = true) (h : TypeSyntax isType x) {rest : List Char}
    (hrest : ∀ c, (trimStart rest).head? = some c → isWord c = false) : Unnamed keyword x rest := by
  have hmarks : ∀ {y : List Char} {rest}, (∀ c ∈ y, isWord c = false) → Unnamed keyword y rest :=
    fun hy => (lacks_of_not_word hword hne hy).unnamed
  have hgap : ∀ (g : Gap) {rest}, Unnamed keyword g.text rest := fun g =>
    (lacks_gap hword hne g).unnamed
  have hcons : ∀ {c : Char} {y rest : List Char}, isWord c = false → Unnamed keyword y rest →
      Unnamed keyword (c :: y) rest := fun {c} _ _ hc hy =>
    AtEach.append (hmarks (y := [c]) (by simpa using hc)) hy
  have hnext : ∀ {mark : Char} {y : List Char}, isBlank mark = false → isWord mark = false →
      ∀ c, (trimStart (mark :: y)).head? = some c → isWord c = false :=
    fun hblank hmark => head?_trimStart_gap .empty hblank hmark _
  induction h generalizing rest with
  | name n => exact unnamed_word hword n.word hrest
  | dotted _ _ ihx ihy =>
    refine .append (ihx ?_) (hcons (by decide) (ihy hrest))
    exact hnext (by decide) (by decide)
  | generic _ _ ihx ihargs =>
    refine .append (ihx ?_) (hcons (by decide) (.append (ihargs ?_) (hmarks (by decide))))
    · exact hnext (by decide) (by decide)
    · exact hnext (by decide) (by decide)
  | nullable _ ihx =>
    refine .append (ihx ?_) (hmarks (by decide))
    exact hnext (by decide) (by decide)
  | group _ ihargs =>
    refine hcons (by decide) (.append (ihargs ?_) (hmarks (by decide)))
    exact hnext (by decide) (by decide)
  | arrow _ before after _ ihx ihy =>
    have harrow := hcons (by decide : isWord '-' = false) (hcons (by decide : isWord '>' = false)
      ((hgap after).append (ihy hrest)))
    refine .append (ihx ?_) (.append (hgap before) harrow)
    rw [List.append_assoc]
    exact head?_trimStart_gap before (by decide) (by decide) _
  | none gap => exact hgap gap
  | last before _ after ihx =>
    refine .append (hgap before) (.append (ihx ?_) (hgap after))
    rwa [trimStart_append after.blank]
  | more before _ after _ ihx ihrest =>
    refine .append (hgap before) (.append (ihx ?_)
      (.append (hgap after) (hcons (by decide) (ihrest hrest))))
    rw [List.append_assoc]
    exact head?_trimStart_gap after (by decide) (by decide) _

end TypeSyntax

/-- A type as it is written. -/
structure WrittenType where
  text : List Char
  syntactic : TypeSyntax true text

/-- A type of the syntax has no colon behind a closing bracket, as it has none at all. -/
def WrittenType.typeText (t : WrittenType) : TypeText where
  text := t.text
  tight := t.syntactic.tight rfl
  nested := t.syntactic.nested
  no_list := by
    intro before after htext hcolon
    have hmem : ':' ∈ after := (List.dropWhile_suffix isBlank).subset (List.mem_of_head? hcolon)
    have hcolon : ':' ∉ t.text := t.syntactic.not_mem (by decide) (by decide) (by decide)
    exact hcolon (by rw [htext]; simp [hmem])

end Testsmith.Source
