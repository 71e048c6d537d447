import Testsmith.Proofs.PrintedSignatures

/-!
# Written parameter lists

Parameters as they are written in a source, with blanks between their parts and types in which brackets
nest (`Signature.Nested`). They are printed parameters without default values
(`WrittenParameter.printed`), so a written parameter list is read as the parameters that were written
(`parameters_of_written`), whatever follows the list.
-/

namespace Testsmith.Signature

open Text

/-! ## Nested texts -/

/-- The character is no bracket and no part of an arrow. -/
def isPlain (c : Char) : Bool := !isOpener c && !isCloser c && c != '-'

/-- A text in which brackets nest. At its top there is no separator. -/
inductive Nested : (top : Bool) → List Char → Prop
  | nil {top : Bool} : Nested top []
  | plain {top : Bool} {c : Char} {rest : List Char} (hc : isPlain c = true)
      (hsep : top = true → isSeparator c = false) (h : Nested top rest) : Nested top (c :: rest)
  | arrow {top : Bool} {rest : List Char} (h : Nested top rest) : Nested top ('-' :: '>' :: rest)
  | group {top : Bool} {opener closer : Char} {inner rest : List Char}
      (hbracket : (opener, closer) ∈ brackets) (hinner : Nested false inner)
      (h : Nested top rest) : Nested top (opener :: (inner ++ closer :: rest))

namespace Nested

variable {top : Bool} {x : List Char}

theorem isBracket_of_isPlain {c : Char} (h : isPlain c = true) : isBracket c = false := by
  simp only [isPlain, Bool.and_eq_true, Bool.not_eq_true'] at h
  simp [isBracket, h.1.1, h.1.2]

/-- No nested text ends in the middle of an arrow. -/
theorem getLast?_ne (h : Nested top x) : x.getLast? ≠ some '-' := by
  have happend : ∀ {x y : List Char}, x.getLast? ≠ some '-' → y.getLast? ≠ some '-' →
      (x ++ y).getLast? ≠ some '-' := by
    intro x y hx hy
    rw [List.getLast?_append]
    cases hlast : y.getLast? with
    | none => exact hx
    | some c => rwa [hlast] at hy
  induction h with
  | nil => simp
  | @plain _ c x hc _ _ ih =>
    have hfirst : [c].getLast? ≠ some '-' := by
      rintro ⟨⟩
      exact absurd hc (by decide)
    exact happend hfirst ih
  | @arrow _ x _ ih =>
    have hfirst : ['-', '>'].getLast? ≠ some '-' := by decide
    exact happend hfirst ih
  | @group _ opener closer inner x hbracket _ _ _ ih =>
    have hfirst : (opener :: (inner ++ [closer])).getLast? ≠ some '-' := by
      rw [← List.cons_append, List.getLast?_concat]
      simp only [brackets, List.mem_cons, Prod.mk.injEq, List.not_mem_nil, or_false] at hbracket
      rcases hbracket with ⟨-, rfl⟩ | ⟨-, rfl⟩ | ⟨-, rfl⟩ | ⟨-, rfl⟩ <;> decide
    have h := happend hfirst ih
    simpa using h

theorem balanced (h : Nested top x) : Balanced x := by
  induction h with
  | nil => exact balanced_nil
  | @plain _ c x hc _ _ ih =>
    have hfirst : Balanced [c] := balanced_of_not_bracket (by simpa using isBracket_of_isPlain hc)
    exact hfirst.append ih
  | @arrow _ x _ ih =>
    have hfirst : Balanced ['-', '>'] := by decide
    exact hfirst.append ih
  | @group _ opener closer inner x hbracket hinner _ ihinner ih =>
    have hfirst := ihinner.group hbracket fun _ => hinner.getLast?_ne
    have h := hfirst.append ih
    simpa using h

/-- At the top of a nested text there is no separator. -/
theorem isPart (h : Nested top x) (htop : top = true) : IsPart isSeparator x := by
  induction h with
  | nil => exact isPart_of_not_bracket (by simp) (by simp)
  | @plain _ c x hc hsep _ ih =>
    have hfirst : IsPart isSeparator [c] :=
      isPart_of_not_bracket (by simpa using isBracket_of_isPlain hc) (by simpa using hsep htop)
    exact hfirst.append (ih htop)
  | @arrow _ x _ ih =>
    have hfirst : IsPart isSeparator ['-', '>'] := ⟨by decide, by decide⟩
    exact hfirst.append (ih htop)
  | @group _ opener closer inner x hbracket hinner _ _ ih =>
    have hcloser : isSeparator closer = false := by
      simp only [brackets, List.mem_cons, Prod.mk.injEq, List.not_mem_nil, or_false] at hbracket
      rcases hbracket with ⟨-, rfl⟩ | ⟨-, rfl⟩ | ⟨-, rfl⟩ | ⟨-, rfl⟩ <;> rfl
    have hfirst := IsPart.group hbracket hinner.balanced (fun _ => hinner.getLast?_ne) hcloser
    have h := hfirst.append (ih htop)
    simpa using h

end Nested

/-! ## Written parameters -/

/-- A name. -/
structure Name where
  text : List Char
  ne_nil : text ≠ []
  all_word : text.all isWord = true

theorem Name.word (n : Name) : ∀ c ∈ n.text, isWord c = true := List.all_eq_true.1 n.all_word

/-- A type: brackets nest in it, and what is in front of a colon inside of it does not end with a round
bracket, as a parameter list does. -/
structure TypeText where
  text : List Char
  tight : Tight text
  nested : Nested true text
  no_list : ∀ before after, text = before ++ ')' :: after → (trimStart after).head? ≠ some ':'

/-- A parameter as it is written. -/
structure WrittenParameter where
  before : Gap
  name : Name
  beforeColon : Gap
  afterColon : Gap
  type : TypeText
  after : Gap

theorem isMark_of_isWord {c : Char} (h : isWord c = true) : isMark c = false := by
  cases hmark : isMark c with
  | false => rfl
  | true =>
    simp only [isMark, isBracket, isOpener, isCloser, isSeparator, Bool.or_eq_true,
      decide_eq_true_eq] at hmark
    rcases hmark with (((((rfl | rfl) | rfl) | rfl) | ((rfl | rfl) | rfl) | rfl) | rfl | rfl) | rfl <;>
      exact absurd h (by decide)

theorem Name.tight (n : Name) : Tight n.text :=
  .of_forall n.ne_nil fun c hc => isBlank_of_isWord (n.word c hc)

namespace WrittenParameter

/-- What is read of a written parameter. -/
def parameter (p : WrittenParameter) : Parameter :=
  ⟨String.ofList p.name.text, String.ofList p.type.text⟩

/-- The parameter without the blanks around it. -/
def core (p : WrittenParameter) : List Char :=
  p.name.text ++ (p.beforeColon.text ++ ':' :: (p.afterColon.text ++ p.type.text))

/-- The text of a parameter. -/
def text (p : WrittenParameter) : List Char := p.before.text ++ (p.core ++ p.after.text)

/-- A written parameter, taken as a printed one. -/
def printed (p : WrittenParameter) : PrintedParameter where
  before := p.before
  name := ⟨p.name.text, p.name.tight, fun c hc => isMark_of_isWord (p.name.word c hc)⟩
  beforeColon := p.beforeColon
  afterColon := p.afterColon
  type := ⟨p.type.text, p.type.tight, p.type.nested.isPart rfl⟩
  after := p.after
  default := none

theorem text_printed (p : WrittenParameter) : p.printed.text = p.text := by
  simp [PrintedParameter.text, PrintedParameter.typed, printed, defaultText, text, core]

end WrittenParameter

/-- The text between the brackets of a parameter list. -/
def listText (ps : List WrittenParameter) : List Char :=
  List.intercalate [','] (ps.map WrittenParameter.text)

theorem insideText_printed (ps : List WrittenParameter) :
    insideText (ps.map WrittenParameter.printed) [] = listText ps := by
  rw [insideText, listParts, List.map_nil, List.append_nil, List.map_map, listText]
  exact congrArg _ (List.map_congr_left fun p _ => p.text_printed)

/-- A written parameter list is read as the parameters that were written. -/
theorem parameters_of_written (ps : List WrittenParameter) (rest : List Char) :
    parameters (String.ofList ('(' :: (listText ps ++ ')' :: rest))) =
      ps.map WrittenParameter.parameter := by
  rw [← insideText_printed, parameters_insideText, List.map_map]
  rfl

end Testsmith.Signature
